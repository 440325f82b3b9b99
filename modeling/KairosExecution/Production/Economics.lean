import KairosExecution.Production.Releases
import KairosExecution.Python.Context

/-! What a trade made or lost, in the decimal context of the process. The acceptor
computes the amounts of a release in operations of twenty-eight digits; the guard and the
checks of the table compare them in exact numerics. They agree only where the amounts
have no more digits than the context keeps, and do where no sum on the way has. The charge
covers the net loss whatever the digits are, and neither a profit nor a credit of funding
lowers it. -/

namespace KairosExecution.Production

open Python Table

variable {Digest : Type}

/-- A process that computes in a decimal context. -/
def Primitives.within (p : Primitives Digest) (c : Context) : Primitives Digest :=
  { p with round := c.round }

@[simp] theorem Primitives.within_round (p : Primitives Digest) (c : Context) :
    (p.within c).round = c.round := rfl

section Exact

/-- The economics in exact numerics. -/
def exactEconomics (payload : ReceiptColumns Digest) : Economics where
  grossPnlUsd := grossOf payload
  feesUsd := payload.entryFeesUsd + payload.exitFeesUsd
  fundingCostUsd := payload.fundingCostUsd
  netPnlUsd := grossOf payload - (payload.entryFeesUsd + payload.exitFeesUsd) - payload.fundingCostUsd
  lossChargeUsd := max 0 (-grossOf payload) + (payload.entryFeesUsd + payload.exitFeesUsd)
    + max 0 payload.fundingCostUsd

/-- A release passes the comparisons of the guard with its receipt, and the two equations
of its table. -/
structure Settles (receipt : ReceiptColumns Digest) (new : ReleaseRow Digest) : Prop where
  gross : new.grossPnlUsd = grossOf receipt
  fees : new.feesUsd = receipt.entryFeesUsd + receipt.exitFeesUsd
  funding : new.fundingCostUsd = receipt.fundingCostUsd
  net : new.netPnlUsd = new.grossPnlUsd - new.feesUsd - new.fundingCostUsd
  loss : new.lossChargeUsd = max 0 (-new.grossPnlUsd) + new.feesUsd + max 0 new.fundingCostUsd

/-- The charge is not negative and covers the net loss; it is that of every receipt with the
same fees, the same loss of price and the same cost of funding, whatever the profit or the
credit is. -/
structure Covers (p : Primitives Digest) (payload : ReceiptColumns Digest) (economics : Economics) :
    Prop where
  nonneg : 0 ≤ economics.lossChargeUsd
  covers : max 0 (-economics.netPnlUsd) ≤ economics.lossChargeUsd
  aside : ∀ other others, terminalEconomics p other = .ok others →
    other.entryFeesUsd = payload.entryFeesUsd → other.exitFeesUsd = payload.exitFeesUsd →
    max 0 (-grossOf other) = max 0 (-grossOf payload) →
    max 0 other.fundingCostUsd = max 0 payload.fundingCostUsd →
    others.lossChargeUsd = economics.lossChargeUsd

/-- The settlement of a receipt: its economics are the exact ones, every release that is built
from them settles it, and its charge covers the loss. -/
def ExactlySettled (p : Primitives Digest) (row : ReceiptRow Digest) : Prop :=
  ∃ economics, terminalEconomics p row.payload = .ok economics ∧
    economics = exactEconomics row.payload ∧
    (∀ databaseUuid receiptPayloadSha256, Settles row.toReceiptColumns
      (releaseRow row databaseUuid receiptPayloadSha256 economics)) ∧
    Covers p row.payload economics

end Exact

section Digits

variable (c : Context) (payload : ReceiptColumns Digest)

/-- The amounts of a receipt have no more digits than the context. -/
structure WholeAmounts : Prop where
  gross : c.Holds (grossOf payload)
  fees : c.Holds (payload.entryFeesUsd + payload.exitFeesUsd)
  net : c.Holds (grossOf payload - (payload.entryFeesUsd + payload.exitFeesUsd) - payload.fundingCostUsd)
  loss : c.Holds (max 0 (-grossOf payload) + (payload.entryFeesUsd + payload.exitFeesUsd)
    + max 0 payload.fundingCostUsd)

/-- Neither has what is added up on the way to two of them. -/
structure WholeSums : Prop where
  earned : c.Holds (grossOf payload - (payload.entryFeesUsd + payload.exitFeesUsd))
  lost : c.Holds (max 0 (-grossOf payload) + (payload.entryFeesUsd + payload.exitFeesUsd))

variable {c payload}

/-- So it is where the gross, the fees and the funding have so many decimals, and together so few
digits before them that both fit. -/
theorem whole_of_decimals {k m : ℕ} (gross : Decimals k (grossOf payload))
    (fees : Decimals k (payload.entryFeesUsd + payload.exitFeesUsd))
    (funding : Decimals k payload.fundingCostUsd)
    (small : |grossOf payload| + |payload.entryFeesUsd + payload.exitFeesUsd| + |payload.fundingCostUsd| < 10 ^ m)
    (fits : m + k ≤ c.prec) : WholeAmounts c payload ∧ WholeSums c payload := by
  have holds {x : ℚ} (own : Decimals k x)
      (le : |x| ≤ |grossOf payload| + |payload.entryFeesUsd + payload.exitFeesUsd| + |payload.fundingCostUsd|) :
      c.Holds x :=
    c.round_eq_self_iff.1 (c.round_of_decimals own (le.trans_lt small) fits)
  have lost : Decimals k (max 0 (-grossOf payload)) := .max .zero gross.neg
  have cost : Decimals k (max 0 payload.fundingCostUsd) := .max .zero funding
  have lostLe : |max 0 (-grossOf payload)| ≤ |grossOf payload| := by
    rw [abs_of_nonneg (le_max_left ..)]
    exact max_le (abs_nonneg _) (neg_le_abs _)
  have costLe : |max 0 payload.fundingCostUsd| ≤ |payload.fundingCostUsd| := by
    rw [abs_of_nonneg (le_max_left ..)]
    exact max_le (abs_nonneg _) (le_abs_self _)
  have grossAbs := abs_nonneg (grossOf payload)
  have feesAbs := abs_nonneg (payload.entryFeesUsd + payload.exitFeesUsd)
  have fundingAbs := abs_nonneg payload.fundingCostUsd
  have earnedLe := abs_sub (grossOf payload) (payload.entryFeesUsd + payload.exitFeesUsd)
  have lossLe := abs_add_le (max 0 (-grossOf payload)) (payload.entryFeesUsd + payload.exitFeesUsd)
  refine ⟨⟨holds gross (by linarith), holds fees (by linarith), holds ((gross.sub fees).sub funding) ?_,
    holds ((lost.add fees).add cost) ?_⟩, holds (gross.sub fees) (by linarith), holds (lost.add fees) (by linarith)⟩
  · exact (abs_sub _ _).trans (by linarith)
  · exact (abs_add_le _ _).trans (by linarith)

end Digits

section Values

variable {p : Primitives Digest} {c : Context} {payload : ReceiptColumns Digest} {economics : Economics}

/-- The economics that a context leaves: each amount is rounded, and so is each sum of them. -/
theorem terminalEconomics_ok (ok : terminalEconomics (p.within c) payload = .ok economics) :
    economics.grossPnlUsd = c.round (grossOf payload) ∧
    economics.feesUsd = c.round (payload.entryFeesUsd + payload.exitFeesUsd) ∧
    economics.fundingCostUsd = payload.fundingCostUsd ∧
    economics.netPnlUsd = c.round (c.round (economics.grossPnlUsd - economics.feesUsd)
      - economics.fundingCostUsd) ∧
    economics.lossChargeUsd = c.round (c.round (max 0 (-economics.grossPnlUsd) + economics.feesUsd)
      + max 0 economics.fundingCostUsd) ∧
    0 ≤ economics.feesUsd := by
  unfold terminalEconomics at ok
  obtain ⟨_, -, ok⟩ := bind_eq_ok.1 ok
  obtain ⟨_, signed, ok⟩ := bind_eq_ok.1 ok
  obtain ⟨_, -, ok⟩ := bind_eq_ok.1 ok
  rw [refuse_eq_ok, decide_eq_false_iff_not] at signed
  push Not at signed
  have fees := c.round_nonneg (add_nonneg signed.2.2.1 signed.2.2.2)
  cases ok
  cases side : payload.entrySide with
  | BUY =>
    refine ⟨?_, rfl, rfl, rfl, ?_, fees⟩
    · simp only [side, grossOf, Primitives.within_round]
    · simp only [Primitives.within_round, ← c.round_neg, c.round_round]
  | SELL =>
    have turned : payload.entryNotionalUsd - payload.exitNotionalUsd =
        -(payload.exitNotionalUsd - payload.entryNotionalUsd) := by ring
    refine ⟨?_, rfl, rfl, rfl, ?_, fees⟩
    · simp only [side, grossOf, Primitives.within_round]
      rw [turned, c.round_neg, c.round_neg, c.round_round]
    · simp only [Primitives.within_round, ← c.round_neg, c.round_round]

/-- The loss of price is rounded as the gross is. -/
theorem max_neg_round (x : ℚ) : max 0 (-c.round x) = c.round (max 0 (-x)) := by
  rcases le_total x 0 with loss | profit
  · rw [max_eq_right (neg_nonneg.2 (c.round_nonpos loss)), max_eq_right (neg_nonneg.2 loss), c.round_neg]
  · rw [max_eq_left (neg_nonpos.2 (c.round_nonneg profit)), max_eq_left (neg_nonpos.2 profit), c.round_zero]

/-- The charge, as a function of the fees, the loss of price and the cost of funding. -/
theorem lossCharge_eq (ok : terminalEconomics (p.within c) payload = .ok economics) :
    economics.lossChargeUsd =
      c.round (c.round (c.round (max 0 (-grossOf payload))
        + c.round (payload.entryFeesUsd + payload.exitFeesUsd)) + max 0 payload.fundingCostUsd) := by
  obtain ⟨gross, fees, funding, -, loss, -⟩ := terminalEconomics_ok ok
  rw [loss, gross, fees, funding, max_neg_round]

/-- Whatever the digits are, the charge covers the net loss: each operation keeps the order of
what it rounds. -/
theorem terminalEconomics_covers (ok : terminalEconomics (p.within c) payload = .ok economics) :
    Covers (p.within c) payload economics := by
  obtain ⟨-, -, -, net, loss, fees⟩ := terminalEconomics_ok ok
  have price : 0 ≤ max 0 (-economics.grossPnlUsd) := le_max_left 0 _
  have cost : 0 ≤ max 0 economics.fundingCostUsd := le_max_left 0 _
  have nonneg : 0 ≤ economics.lossChargeUsd := by
    rw [loss]
    exact c.round_nonneg (add_nonneg (c.round_nonneg (add_nonneg price fees)) cost)
  refine ⟨nonneg, max_le nonneg ?_, fun other others accepted entry exit same credit => ?_⟩
  · rw [net, loss, ← c.round_neg]
    have gross : -(economics.grossPnlUsd - economics.feesUsd) ≤
        max 0 (-economics.grossPnlUsd) + economics.feesUsd := by
      linarith [le_max_right 0 (-economics.grossPnlUsd)]
    have inner := c.round_mono gross
    rw [c.round_neg] at inner
    exact c.round_mono (by linarith [le_max_right 0 economics.fundingCostUsd])
  · rw [lossCharge_eq accepted, lossCharge_eq ok, entry, exit, same, credit]

/-- Only amounts with no more digits than the context are exact. -/
theorem terminalEconomics_whole (ok : terminalEconomics (p.within c) payload = .ok economics)
    (equal : economics = exactEconomics payload) : WholeAmounts c payload := by
  obtain ⟨gross, fees, -, net, loss, -⟩ := terminalEconomics_ok ok
  rw [equal] at gross fees net loss
  simp only [exactEconomics] at gross fees net loss
  exact ⟨c.round_eq_self_iff.1 gross.symm, c.round_eq_self_iff.1 fees.symm,
    net ▸ c.round_holds, loss ▸ c.round_holds⟩

/-- They are exact if the sums on the way have no more digits either. -/
theorem terminalEconomics_exact (ok : terminalEconomics (p.within c) payload = .ok economics)
    (amounts : WholeAmounts c payload) (sums : WholeSums c payload) : economics = exactEconomics payload := by
  obtain ⟨gross, fees, funding, net, loss, -⟩ := terminalEconomics_ok ok
  have whole := c.round_eq_self_iff.2 amounts.gross
  have paid := c.round_eq_self_iff.2 amounts.fees
  have rest := c.round_eq_self_iff.2 amounts.net
  have charge := c.round_eq_self_iff.2 amounts.loss
  rw [whole] at gross
  rw [paid] at fees
  rw [gross, fees, funding, c.round_eq_self_iff.2 sums.earned, rest] at net
  rw [gross, fees, funding, c.round_eq_self_iff.2 sums.lost, charge] at loss
  obtain ⟨_, _, _, _, _⟩ := economics
  simp only at gross fees funding net loss
  rw [exactEconomics, gross, fees, funding, net, loss]

end Values

section Receipts

variable [DecidableEq Digest] {p : Primitives Digest} {c : Context}
  {receipt : Option (ReceiptRow Digest)} {now : Timestamp} {row : ReceiptRow Digest}

/-- An accepted receipt has its payload in its columns, and its economics. -/
theorem verifyTerminalReceipt_ok (accepted : verifyTerminalReceipt p receipt now = .ok row) :
    receipt = some row ∧ row.payload = row.toReceiptColumns ∧
      ∃ economics, terminalEconomics p row.payload = .ok economics := by
  unfold verifyTerminalReceipt at accepted
  obtain ⟨found, asked, accepted⟩ := bind_eq_ok.1 accepted
  obtain ⟨_, -, accepted⟩ := bind_eq_ok.1 accepted
  obtain ⟨_, same, accepted⟩ := bind_eq_ok.1 accepted
  obtain ⟨_, -, accepted⟩ := bind_eq_ok.1 accepted
  obtain ⟨_, -, accepted⟩ := bind_eq_ok.1 accepted
  obtain ⟨_, -, accepted⟩ := bind_eq_ok.1 accepted
  obtain ⟨_, -, accepted⟩ := bind_eq_ok.1 accepted
  obtain ⟨economics, ok, accepted⟩ := bind_eq_ok.1 accepted
  cases accepted
  rw [refuse_eq_ok, decide_eq_false_iff_not, not_not] at same
  exact ⟨required_eq_ok.1 asked, same, economics, ok⟩

omit [DecidableEq Digest] in
/-- Only exact economics settle a receipt. -/
theorem Settles.exact {databaseUuid : ℕ} {receiptPayloadSha256 : Digest} {economics : Economics}
    (same : row.payload = row.toReceiptColumns)
    (settles : Settles row.toReceiptColumns (releaseRow row databaseUuid receiptPayloadSha256 economics)) :
    economics = exactEconomics row.payload := by
  obtain ⟨gross, fees, funding, net, loss⟩ := settles
  obtain ⟨_, _, _, _, _⟩ := economics
  simp only [releaseRow] at gross fees funding net loss
  rw [same, exactEconomics, net, loss, gross, fees, funding]

omit [DecidableEq Digest] in
theorem settles_exact (databaseUuid : ℕ) (receiptPayloadSha256 : Digest)
    (same : row.payload = row.toReceiptColumns) :
    Settles row.toReceiptColumns
      (releaseRow row databaseUuid receiptPayloadSha256 (exactEconomics row.payload)) := by
  rw [same]
  exact ⟨rfl, rfl, rfl, rfl, rfl⟩

/-- The comparisons of the guard with the receipt. -/
theorem enforceRelease_compares {db : Database Digest} {new : ReleaseRow Digest} {clock : Timestamp}
    (passed : enforceRelease db new clock = .ok ()) :
    ∃ t, db.terminalReceipts.find? (·.receiptId = new.receiptId) = some t ∧
      new.grossPnlUsd = grossOf t.toReceiptColumns ∧
      new.feesUsd = t.entryFeesUsd + t.exitFeesUsd ∧ new.fundingCostUsd = t.fundingCostUsd := by
  unfold enforceRelease at passed
  obtain ⟨t, found, passed⟩ := bind_eq_ok.1 passed
  obtain ⟨r, -, passed⟩ := bind_eq_ok.1 passed
  obtain ⟨_, -, passed⟩ := bind_eq_ok.1 passed
  obtain ⟨d, -, passed⟩ := bind_eq_ok.1 passed
  obtain ⟨_, same, gross⟩ := bind_eq_ok.1 passed
  rw [refuse_eq_ok, decide_eq_false_iff_not] at same gross
  push Not at same gross
  exact ⟨t, required_eq_ok.1 found, gross, same.2.2.2.2, same.2.2.2.1⟩

/-- A receipt with an amount of more digits than the context is never released. -/
theorem acceptNew_whole {db db' : Database Digest} {databaseUuid receiptId : ℕ}
    {context : ProductionContext Digest} {receiptPayloadSha256 : Digest} {now clock : Timestamp}
    {returned : Acceptance} (released : acceptNew (p.within c) db databaseUuid context receiptId
      receiptPayloadSha256 now clock = .ok (db', returned)) :
    ∃ row ∈ db.terminalReceipts, row.receiptId = receiptId ∧ WholeAmounts c row.payload := by
  unfold acceptNew at released
  obtain ⟨row, accepted, released⟩ := bind_eq_ok.1 released
  obtain ⟨_, -, released⟩ := bind_eq_ok.1 released
  obtain ⟨economics, ok, released⟩ := bind_eq_ok.1 released
  obtain ⟨_, inserted, -⟩ := bind_eq_ok.1 released
  obtain ⟨asked, same, -⟩ := verifyTerminalReceipt_ok accepted
  have id := List.find?_some asked
  rw [decide_eq_true_eq] at id
  obtain ⟨passed, ⟨-, -, net, loss⟩, -⟩ := insertRelease_ok inserted
  obtain ⟨t, found, gross, fees, funding⟩ := enforceRelease_compares passed
  have own : t = row := by
    simp only [releaseRow, id] at found
    exact Option.some_inj.1 (found.symm.trans asked)
  subst own
  have exact' := Settles.exact same ⟨gross, fees, funding, net, loss⟩
  exact ⟨t, List.mem_of_find?_eq_some asked, id, terminalEconomics_whole ok exact'⟩

/-- A receipt that a process accepts in its context of twenty-eight digits is settled exactly only
if its amounts have no more digits, and then it is if the sums on the way have no more either. -/
theorem settled_iff_whole
    (accepted : verifyTerminalReceipt (p.within .default) receipt now = .ok row) :
    (ExactlySettled (p.within .default) row → WholeAmounts .default row.payload) ∧
    (WholeSums .default row.payload →
      (ExactlySettled (p.within .default) row ↔ WholeAmounts .default row.payload)) := by
  obtain ⟨-, same, economics, ok⟩ := verifyTerminalReceipt_ok accepted
  have only : ExactlySettled (p.within .default) row → WholeAmounts .default row.payload := by
    rintro ⟨economics, ok, equal, -, -⟩
    exact terminalEconomics_whole ok equal
  refine ⟨only, fun sums => ⟨only, fun amounts => ?_⟩⟩
  have equal := terminalEconomics_exact ok amounts sums
  refine ⟨economics, ok, equal, fun databaseUuid receiptPayloadSha256 => ?_, terminalEconomics_covers ok⟩
  rw [equal]
  exact settles_exact databaseUuid receiptPayloadSha256 same

end Receipts

section Samples

/-- A receipt row of the sample's trade, with another fee for the exit. -/
def sampleReceiptRow (exitFeesUsd : ℚ) : ReceiptRow ℕ where
  toReceiptColumns := { sampleReceipt with exitFeesUsd := exitFeesUsd }
  receiptId := 1
  payload := { sampleReceipt with exitFeesUsd := exitFeesUsd }
  payloadSha256 := 22
  insertedAt := seconds 11

/-- Amounts of dollars and cents are settled exactly. -/
theorem settled_iff_whole_sample :
    verifyTerminalReceipt (samplePrimitives.within .default) (some (sampleReceiptRow (1 / 100)))
        (seconds 11) = .ok (sampleReceiptRow (1 / 100)) ∧
      ExactlySettled (samplePrimitives.within .default) (sampleReceiptRow (1 / 100)) := by
  have accepted : verifyTerminalReceipt (samplePrimitives.within .default)
      (some (sampleReceiptRow (1 / 100))) (seconds 11) = .ok (sampleReceiptRow (1 / 100)) := by
    decide +kernel
  have whole : WholeAmounts .default (sampleReceiptRow (1 / 100)).payload ∧
      WholeSums .default (sampleReceiptRow (1 / 100)).payload := by
    refine whole_of_decimals (k := 2) (m := 26) ⟨100, ?_⟩ ⟨101, ?_⟩ ⟨0, ?_⟩ ?_ (by decide)
    all_goals
      decide +kernel
  exact ⟨accepted, ((settled_iff_whole accepted).2 whole.2).2 whole.1⟩

/-- A fee of a dollar and one that is twenty-eight decimals smaller are together a dollar in
the context: the guard finds other fees in the receipt. -/
theorem fees_rounded_off :
    verifyTerminalReceipt (samplePrimitives.within .default) (some (sampleReceiptRow (1 / 10 ^ 28)))
        (seconds 11) = .ok (sampleReceiptRow (1 / 10 ^ 28)) ∧
      ¬ExactlySettled (samplePrimitives.within .default) (sampleReceiptRow (1 / 10 ^ 28)) := by
  refine ⟨by decide +kernel, ?_⟩
  rintro ⟨economics, ok, equal, -⟩
  rw [equal] at ok
  exact absurd ok (by decide +kernel)

end Samples

end KairosExecution.Production
