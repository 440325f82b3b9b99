import KairosExecution.Production.Reservation

/-! The acceptance of a terminal receipt. A receipt that was entered by the reconciler is
read once more, its payload against its hash and its columns, and a release of the
reservation it is about is inserted with what the trade made or lost; a guard compares
the release with the receipt, the reservation and the risk decision. -/

namespace KairosExecution.Production

open Python Table

variable {Digest : Type} [DecidableEq Digest]

def maxEvidenceAge : ℤ := seconds 120

/-- `except ProductionAccountingError: raise`, and any other is unresolved. -/
def unresolved {α : Type} : Except Err α → Except Err α
  | .error (.accounting message) => .error (.accounting message)
  | .error _ => .error
      (.accounting "terminal accounting outcome unresolved; inspect exact receipt before retry")
  | .ok a => .ok a

@[simp] theorem unresolved_eq_ok {α : Type} {x : Except Err α} {a : α} :
    unresolved x = .ok a ↔ x = .ok a := by
  rcases x with error | b
  · cases error <;> simp [unresolved]
  · simp [unresolved]

section Receipts

/-- The insertion of a receipt by the reconciler: what the table and its guard check, by the
clock of the database. -/
def insertReceipt (db : Database Digest) (receiptId : ℕ) (columns payload : ReceiptColumns Digest)
    (payloadSha256 : Digest) (clock : Timestamp) : Except Err (Database Digest) := do
  refuse (columns.observedAt > clock ∨ clock - columns.observedAt > maxEvidenceAge)
    (.database "terminal receipt is stale at database acceptance")
  refuse (¬(0 < columns.entryFilledQuantity ∧ 0 < columns.closedQuantity
      ∧ 0 < columns.entryNotionalUsd ∧ 0 < columns.exitNotionalUsd ∧ 0 ≤ columns.entryFeesUsd
      ∧ 0 ≤ columns.exitFeesUsd ∧ columns.venueComplete ∧ columns.venueTerminal
      ∧ columns.residualPositionQuantity = 0 ∧ columns.residualOrderCount = 0
      ∧ columns.residualProtectionCount = 0 ∧ columns.fundingComplete
      ∧ columns.unownedExposureCount = 0 ∧ columns.settledAt ≤ columns.collectionFinishedAt
      ∧ columns.collectionStartedAt ≤ columns.collectionFinishedAt
      ∧ columns.collectionFinishedAt ≤ columns.observedAt ∧ payload.tradeId = columns.tradeId
      ∧ payload.effectId = columns.effectId ∧ payload.decisionId = columns.decisionId
      ∧ payload.signingRequestId = columns.signingRequestId))
    (.database "23514")
  refuse (db.terminalReceipts.any fun receipt => receipt.receiptId = receiptId
      ∨ (receipt.accountSha256 = columns.accountSha256
        ∧ (receipt.effectId = columns.effectId ∨ receipt.tradeId = columns.tradeId)))
    (.database "23505")
  refuse (!(db.reservations columns.accountSha256).any (·.effectId = columns.effectId))
    (.database "23503")
  let row : ReceiptRow Digest := {
    columns with
    receiptId := receiptId
    payload := payload
    payloadSha256 := payloadSha256
    insertedAt := clock }
  return { db with terminalReceipts := db.terminalReceipts ++ [row] }

end Receipts

section Verification

variable (p : Primitives Digest)

/-- The economics of a trade that has ended. -/
structure Economics where
  grossPnlUsd : ℚ
  feesUsd : ℚ
  fundingCostUsd : ℚ
  netPnlUsd : ℚ
  lossChargeUsd : ℚ
  deriving DecidableEq

def terminalEconomics (payload : ReceiptColumns Digest) : Except Err Economics := do
  refuse (!payload.fundingComplete) (.accounting "complete side/funding evidence is required")
  refuse (payload.entryNotionalUsd < 0 ∨ payload.exitNotionalUsd < 0 ∨ payload.entryFeesUsd < 0
      ∨ payload.exitFeesUsd < 0)
    (.accounting "economics must be finite and correctly signed")
  refuse (payload.entryNotionalUsd ≤ 0 ∨ payload.exitNotionalUsd ≤ 0)
    (.accounting "actual gross entry and exit fills are required")
  let difference := p.round (payload.exitNotionalUsd - payload.entryNotionalUsd)
  let gross := match payload.entrySide with
    | .BUY => difference
    | .SELL => p.round (-difference)
  let fees := p.round (payload.entryFeesUsd + payload.exitFeesUsd)
  let funding := payload.fundingCostUsd
  return {
    grossPnlUsd := gross
    feesUsd := fees
    fundingCostUsd := funding
    netPnlUsd := p.round (p.round (gross - fees) - funding)
    lossChargeUsd := p.round (p.round (max 0 (p.round (-gross)) + fees) + max 0 funding) }

def verifyTerminalReceipt (receipt : Option (ReceiptRow Digest)) (now : Timestamp) :
    Except Err (ReceiptRow Digest) := do
  let row ← required (.accounting "exact immutable terminal receipt is absent") receipt
  let payload := row.payload
  refuse (p.sha256 (.receipt payload) ≠ row.payloadSha256)
    (.accounting "terminal receipt payload integrity mismatch")
  refuse (payload ≠ row.toReceiptColumns) (.accounting "terminal receipt payload/column conflict")
  refuse (!payload.venueComplete ∨ !payload.venueTerminal ∨ !payload.fundingComplete)
    (.accounting "terminal receipt is incomplete or nonterminal")
  refuse (payload.residualPositionQuantity ≠ 0 ∨ payload.residualOrderCount ≠ 0
      ∨ payload.residualProtectionCount ≠ 0 ∨ payload.unownedExposureCount ≠ 0)
    (.accounting "terminal receipt retains residual or unowned exposure")
  refuse (payload.entryFilledQuantity ≤ 0 ∨ payload.entryFilledQuantity ≠ payload.closedQuantity)
    (.accounting "terminal receipt lacks actual fully closed fills")
  refuse (¬(payload.settledAt ≤ payload.collectionFinishedAt
        ∧ payload.collectionFinishedAt ≤ payload.observedAt ∧ payload.observedAt ≤ row.insertedAt
        ∧ row.insertedAt ≤ now)
      ∨ payload.collectionStartedAt > payload.collectionFinishedAt
      ∨ row.insertedAt - payload.observedAt > maxEvidenceAge)
    (.accounting "terminal receipt is stale or temporally incomplete")
  let _ ← terminalEconomics p payload
  return row

end Verification

section Guard

/-- `gross`, as the guard computes it in exact numerics. -/
def grossOf (receipt : ReceiptColumns Digest) : ℚ :=
  match receipt.entrySide with
  | .BUY => receipt.exitNotionalUsd - receipt.entryNotionalUsd
  | .SELL => receipt.entryNotionalUsd - receipt.exitNotionalUsd

/-- The guard finds a difference between a release and what it is of. -/
def differsFromLineage (db : Database Digest) (new : ReleaseRow Digest) (t : ReceiptRow Digest)
    (r : ReservationRow Digest) (d : RiskRow Digest) : Bool :=
  db.databaseUuid ≠ new.databaseUuid ∨ db.accountSha256 ≠ new.accountSha256
    ∨ t.databaseUuid ≠ new.databaseUuid ∨ t.contextSha256 ≠ new.contextSha256
    ∨ r.contextSha256 ≠ new.contextSha256 ∨ t.accountSha256 ≠ new.accountSha256
    ∨ t.effectId ≠ new.effectId ∨ t.tradeId ≠ new.tradeId
    ∨ t.payloadSha256 ≠ new.receiptPayloadSha256
    ∨ t.ownerArmSha256 ≠ new.ownerArmSha256 ∨ r.ownerArmSha256 ≠ new.ownerArmSha256
    ∨ t.reservationRequestSha256 ≠ new.reservationRequestSha256
    ∨ r.requestSha256 ≠ new.reservationRequestSha256
    ∨ t.signingRequestId ≠ r.signingRequestId ∨ t.decisionId ≠ r.decisionId
    ∨ some t.entrySide ≠ d.payload.side ∨ some t.clientOrderId ≠ d.payload.clientOrderId
    ∨ d.payloadSha256 ≠ r.evidenceSha256

/-- The guard finds a receipt that is not of a trade that has ended, or is not in time. -/
def notTerminal (t : ReceiptRow Digest) (r : ReservationRow Digest) (clock : Timestamp) : Bool :=
  !t.venueComplete ∨ !t.venueTerminal ∨ !t.fundingComplete
    ∨ t.unownedExposureCount ≠ 0 ∨ t.residualPositionQuantity ≠ 0
    ∨ t.residualOrderCount ≠ 0 ∨ t.residualProtectionCount ≠ 0
    ∨ t.entryFilledQuantity ≤ 0 ∨ t.entryFilledQuantity ≠ t.closedQuantity
    ∨ t.observedAt < t.collectionFinishedAt ∨ t.collectionFinishedAt < t.collectionStartedAt
    ∨ t.settledAt > t.collectionFinishedAt ∨ t.settledAt < r.observedAt
    ∨ t.observedAt > t.insertedAt ∨ t.insertedAt > clock
    ∨ t.insertedAt - t.observedAt > maxEvidenceAge

/-- `enforce_release`, by the clock of the database. -/
def enforceRelease (db : Database Digest) (new : ReleaseRow Digest) (clock : Timestamp) :
    Except Err Unit := do
  let t ← required (.database "exact accounting lineage absent")
    (db.terminalReceipts.find? (·.receiptId = new.receiptId))
  let r ← required (.database "exact accounting lineage absent")
    ((db.reservations new.accountSha256).find? (·.effectId = new.effectId))
  refuse (t.payload ≠ t.toReceiptColumns)
    (.database "terminal receipt payload/column conflict")
  let d ← required (.database "terminal accounting identity/economics not accepted")
    (db.riskDecision r.contextSha256 r.signingRequestId)
  refuse (differsFromLineage db new t r d ∨ notTerminal t r clock
      ∨ new.settledAt ≠ t.settledAt ∨ new.fundingCostUsd ≠ t.fundingCostUsd
      ∨ new.feesUsd ≠ t.entryFeesUsd + t.exitFeesUsd)
    (.database "terminal accounting identity/economics not accepted")
  refuse (new.grossPnlUsd ≠ grossOf t.toReceiptColumns)
    (.database "accounting gross economics mismatch")

/-- The guard, the checks of the columns and the keys of the table. What its foreign keys
ask for is what the guard has found. -/
def insertRelease (db : Database Digest) (new : ReleaseRow Digest) (clock : Timestamp) :
    Except Err (Database Digest) := do
  enforceRelease db new clock
  refuse (¬(0 ≤ new.feesUsd ∧ 0 ≤ new.lossChargeUsd
      ∧ new.netPnlUsd = new.grossPnlUsd - new.feesUsd - new.fundingCostUsd
      ∧ new.lossChargeUsd = max 0 (-new.grossPnlUsd) + new.feesUsd + max 0 new.fundingCostUsd))
    (.database "23514")
  refuse (db.acceptedReleases.any fun release => release.receiptId = new.receiptId
      ∨ (release.accountSha256 = new.accountSha256
        ∧ (release.effectId = new.effectId ∨ release.tradeId = new.tradeId)))
    (.database "23505")
  return { db with acceptedReleases := db.acceptedReleases ++ [new] }

end Guard

section Acceptance

variable (p : Primitives Digest)

/-- What an acceptance returns. -/
inductive Acceptance
  | existing (receiptId : ℕ) (lossChargeUsd : ℚ)
  | created (receiptId : ℕ) (economics : Economics)
  deriving DecidableEq

/-- `_inspect`, as far as it reads the identity rows. -/
def inspectAccounting (db : Database Digest) (databaseUuid : ℕ) (context : ProductionContext Digest) :
    Except Err Unit := do
  refuse (db.databaseUuid ≠ databaseUuid ∨ db.accountSha256 ≠ accountScopeSha256 p context)
    (.accounting "accounting identity/version mismatch")
  refuse (db.schema ≠ .V3) (.accounting "accounting source schema/owner mismatch")

/-- The release that an acceptance inserts. -/
def releaseRow (row : ReceiptRow Digest) (databaseUuid : ℕ) (receiptPayloadSha256 : Digest)
    (economics : Economics) : ReleaseRow Digest where
  receiptId := row.receiptId
  databaseUuid := databaseUuid
  contextSha256 := row.contextSha256
  accountSha256 := row.accountSha256
  effectId := row.effectId
  tradeId := row.tradeId
  ownerArmSha256 := row.ownerArmSha256
  reservationRequestSha256 := row.reservationRequestSha256
  receiptPayloadSha256 := receiptPayloadSha256
  grossPnlUsd := economics.grossPnlUsd
  feesUsd := economics.feesUsd
  fundingCostUsd := economics.fundingCostUsd
  netPnlUsd := economics.netPnlUsd
  lossChargeUsd := economics.lossChargeUsd
  settledAt := row.settledAt

/-- The acceptance of a receipt that has no release yet. -/
def acceptNew (db : Database Digest) (databaseUuid : ℕ) (context : ProductionContext Digest)
    (receiptId : ℕ) (receiptPayloadSha256 : Digest) (now clock : Timestamp) :
    Except Err (Database Digest × Acceptance) := do
  let row ← verifyTerminalReceipt p (db.terminalReceipts.find? (·.receiptId = receiptId)) now
  refuse (row.payloadSha256 ≠ receiptPayloadSha256 ∨ row.databaseUuid ≠ databaseUuid
      ∨ row.contextSha256 ≠ p.sha256 (.context context)
      ∨ row.accountSha256 ≠ accountScopeSha256 p context)
    (.accounting "terminal receipt exact scope/digest mismatch")
  let economics ← terminalEconomics p row.payload
  let db' ← insertRelease db (releaseRow row databaseUuid receiptPayloadSha256 economics) clock
  return (db', .created receiptId economics)

/-- The acceptance of a receipt, which may have a release. -/
def acceptReceipt (db : Database Digest) (databaseUuid : ℕ) (context : ProductionContext Digest)
    (receiptId : ℕ) (receiptPayloadSha256 : Digest) (now clock : Timestamp) :
    Except Err (Database Digest × Acceptance) :=
  match db.acceptedReleases.find? (·.receiptId = receiptId) with
  | some existing => do
    refuse (existing.receiptPayloadSha256 ≠ receiptPayloadSha256
        ∨ existing.contextSha256 ≠ p.sha256 (.context context))
      (.accounting "accounting receipt identity rebound")
    return (db, .existing receiptId existing.lossChargeUsd)
  | none => acceptNew p db databaseUuid context receiptId receiptPayloadSha256 now clock

/-- `accept_terminal_receipt` of the acceptor of a context: the clock of the database is read
by the transaction, and again by the guard. -/
def acceptTerminalReceipt (db : Database Digest) (databaseUuid : ℕ)
    (context : ProductionContext Digest) (receiptId : ℕ) (receiptPayloadSha256 : Digest)
    (now clock : Timestamp) : Except Err (Database Digest × Acceptance) :=
  unresolved do
    inspectAccounting p db databaseUuid context
    acceptReceipt p db databaseUuid context receiptId receiptPayloadSha256 now clock

end Acceptance

end KairosExecution.Production
