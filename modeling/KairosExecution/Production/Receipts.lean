import KairosExecution.Production.Caps
import KairosExecution.Production.Reconciliation

/-! Terminal receipts are unique and replayable. A receipt is inserted by a call that
has accepted its trade, its journals, its evidence and its lineage; it stays, under the
only key of its effect and its trade. The same call, at any later time, finds it again
and returns it: the freshness of its evidence is then judged by the time of the
receipt's acceptance, which the trigger has checked. -/

namespace KairosExecution.Production

open Python Table

variable {Digest : Type} [DecidableEq Digest] {Raw : Type} {p : ReceiptPrimitives Digest}
  {r : Reconciler Raw Digest} {binding : ReservationTradeBinding Digest}
  {evidence : VenueTerminalEvidence Digest} {ledger ledger' : ReceiptLedger Digest}

/-- What a call has found of its trade, its journals, its evidence and its reservation
when it inserts a receipt. -/
structure Accepted (p : ReceiptPrimitives Digest) (call : TerminalCall Raw Digest)
    (prepared : PreparedReceipt Digest) (ledger : ReceiptLedger Digest) (clock : Timestamp) :
    Prop where
  evidence : call.evidence = .ok prepared.evidence
  flat : call.reads.trade = some prepared.trade ∧ prepared.trade.state = .FLAT ∧
    call.reads.tradeChain = true
  effects : ∃ effects, call.reads.effects = some effects ∧ effects ≠ [] ∧ ∀ effect ∈ effects,
    (effect.status = .RECONCILED ∨ effect.status = .CONFIRMED) ∧
      call.reads.effectChain effect.effectKey = true
  sequence : call.reads.facts.map (·.eventSeq) = List.range' 1 call.reads.facts.length
  position : ∃ last, call.reads.facts.getLast? = some last ∧ last.lifecycleState = .FLAT ∧
    last.positionQuantity = 0
  residuals : prepared.evidence.residualPositionQuantity.value = 0 ∧
    prepared.evidence.residualOrderCount = 0 ∧ prepared.evidence.residualProtectionCount = 0 ∧
      prepared.evidence.unownedExposureCount = 0
  closed : prepared.evidence.closedQuantity.value = prepared.evidence.entryFilledQuantity.value
  filled : prepared.evidence.entryFilledQuantity.value = prepared.trade.filledQuantity ∧
    0 < prepared.trade.filledQuantity
  recent : prepared.evidence.observedAt ≤ clock ∧
    clock - prepared.evidence.observedAt ≤ maxEvidenceAge
  lineage : ∃ reservation risk,
    ledger.reservation (call.reconciler.accountSha256 p) call.binding.effectId =
      some (reservation, risk) ∧
    prepared.evidence.ownerArmSha256 = reservation.ownerArmSha256 ∧
    prepared.evidence.reservationRequestSha256 = reservation.requestSha256 ∧
    some prepared.evidence.entrySide = risk.payload.side

section Checks

omit [DecidableEq Digest] in
theorem verifyTrade_ok {found : Option (LiveTrade Digest)} {chain : Bool} {trade : LiveTrade Digest}
    (ok : verifyTrade p r binding evidence found chain = .ok trade) :
    found = some trade ∧ trade.state = .FLAT ∧ chain = true ∧ 0 < trade.filledQuantity ∧
      evidence.entryFilledQuantity.value = trade.filledQuantity := by
  unfold verifyTrade at ok
  obtain ⟨found, there, ok⟩ := bind_eq_ok.1 ok
  obtain ⟨_, flat, ok⟩ := bind_eq_ok.1 ok
  obtain ⟨_, chained, ok⟩ := bind_eq_ok.1 ok
  obtain ⟨_, -, ok⟩ := bind_eq_ok.1 ok
  obtain ⟨_, filled, ok⟩ := bind_eq_ok.1 ok
  obtain ⟨_, same, ok⟩ := bind_eq_ok.1 ok
  cases ok
  simp only [required_eq_ok, refuse_eq_ok, decide_eq_false_iff_not, not_not, not_le,
    Bool.not_eq_false'] at there flat chained filled same
  exact ⟨there, flat, chained, filled, same⟩

omit [DecidableEq Digest] in
theorem verifyEffect_ok {trade : LiveTrade Digest} {chain : String → Bool}
    {effect : OwnedEffect Digest} (ok : verifyEffect p r binding trade chain effect = .ok ()) :
    (effect.status = .RECONCILED ∨ effect.status = .CONFIRMED) ∧
      chain effect.effectKey = true := by
  unfold verifyEffect at ok
  obtain ⟨_, scope, ok⟩ := bind_eq_ok.1 ok
  obtain ⟨_, chained, -⟩ := bind_eq_ok.1 ok
  simp only [refuse_eq_ok, decide_eq_false_iff_not, not_or, not_and, not_not,
    Bool.not_eq_false'] at scope chained
  refine ⟨?_, chained⟩
  by_cases reconciled : effect.status = .RECONCILED
  · exact .inl reconciled
  · exact .inr (scope.2.2.2.2 reconciled)

/-- A check that passes over a list passes for each of it. -/
theorem forM_ok {α : Type} {check : α → Except Err Unit} {items : List α}
    (ok : items.forM check = .ok ()) : ∀ item ∈ items, check item = .ok () := by
  induction items with
  | nil => simp
  | cons head rest ih =>
    have split : (check head >>= fun _ => rest.forM check) = .ok () := ok
    obtain ⟨_, first, ok⟩ := bind_eq_ok.1 split
    simpa using ⟨first, ih ok⟩

omit [DecidableEq Digest] in
theorem verifyEffects_ok {trade : LiveTrade Digest} {effects : List (OwnedEffect Digest)}
    {chain : String → Bool} (ok : verifyEffects p r binding trade effects chain = .ok ()) :
    effects ≠ [] ∧ ∀ effect ∈ effects,
      (effect.status = .RECONCILED ∨ effect.status = .CONFIRMED) ∧
        chain effect.effectKey = true := by
  unfold verifyEffects at ok
  obtain ⟨_, some, ok⟩ := bind_eq_ok.1 ok
  obtain ⟨_, each, -⟩ := bind_eq_ok.1 ok
  rw [refuse_eq_ok, List.isEmpty_eq_false_iff] at some
  exact ⟨some, fun effect mem => verifyEffect_ok (forM_ok each effect mem)⟩

omit [DecidableEq Digest] in
theorem verifyFacts_ok {trade : LiveTrade Digest} {facts : List LiveFact}
    (ok : verifyFacts binding evidence trade facts = .ok ()) :
    facts.map (·.eventSeq) = List.range' 1 facts.length ∧
    (∃ last, facts.getLast? = some last ∧ last.lifecycleState = .FLAT ∧ last.positionQuantity = 0) ∧
    evidence.closedQuantity.value = evidence.entryFilledQuantity.value := by
  unfold verifyFacts at ok
  obtain ⟨_, -, ok⟩ := bind_eq_ok.1 ok
  obtain ⟨_, complete, ok⟩ := bind_eq_ok.1 ok
  obtain ⟨_, -, ok⟩ := bind_eq_ok.1 ok
  obtain ⟨_, -, ok⟩ := bind_eq_ok.1 ok
  obtain ⟨_, -, closed⟩ := bind_eq_ok.1 ok
  simp only [refuse_eq_ok, decide_eq_false_iff_not, not_or, not_not, Bool.not_eq_true,
    Bool.not_eq_false'] at complete closed
  refine ⟨complete.2.1, ?_, closed⟩
  cases last : facts.getLast? with
  | none => simp [last] at complete
  | some fact => exact ⟨fact, rfl, by simpa [last] using complete.2.2⟩

/-- The evidence's own bounds, by whatever clock it is judged. -/
theorem verifyVenueEvidence_ok {now : Timestamp}
    (ok : verifyVenueEvidence p r binding evidence now = .ok ()) :
    (evidence.residualPositionQuantity.value = 0 ∧ evidence.residualOrderCount = 0 ∧
      evidence.residualProtectionCount = 0 ∧ evidence.unownedExposureCount = 0) ∧
    evidence.observedAt ≤ now ∧ now - evidence.observedAt ≤ maxEvidenceAge := by
  unfold verifyVenueEvidence at ok
  obtain ⟨_, -, ok⟩ := bind_eq_ok.1 ok
  obtain ⟨_, whole, ok⟩ := bind_eq_ok.1 ok
  obtain ⟨_, residuals, ok⟩ := bind_eq_ok.1 ok
  obtain ⟨_, -, ok⟩ := bind_eq_ok.1 ok
  obtain ⟨_, -, recent⟩ := bind_eq_ok.1 ok
  simp only [refuse_eq_ok, decide_eq_false_iff_not, not_or, not_not, not_lt] at whole residuals recent
  exact ⟨⟨residuals.1, residuals.2.1, residuals.2.2, whole.2.2⟩, recent.2.2.1, recent.2.2.2⟩

/-- Evidence that passes by one clock passes by any other that finds it recent. -/
theorem verifyVenueEvidence_again {now later : Timestamp}
    (ok : verifyVenueEvidence p r binding evidence now = .ok ())
    (recent : evidence.observedAt ≤ later ∧ later - evidence.observedAt ≤ maxEvidenceAge) :
    verifyVenueEvidence p r binding evidence later = .ok () := by
  unfold verifyVenueEvidence at ok ⊢
  obtain ⟨_, same, ok⟩ := bind_eq_ok.1 ok
  obtain ⟨_, whole, ok⟩ := bind_eq_ok.1 ok
  obtain ⟨_, residuals, ok⟩ := bind_eq_ok.1 ok
  obtain ⟨_, filled, ok⟩ := bind_eq_ok.1 ok
  obtain ⟨_, notionals, bounds⟩ := bind_eq_ok.1 ok
  rw [refuse_bind (refuse_eq_ok.1 same), refuse_bind (refuse_eq_ok.1 whole),
    refuse_bind (refuse_eq_ok.1 residuals), refuse_bind (refuse_eq_ok.1 filled),
    refuse_bind (refuse_eq_ok.1 notionals)]
  simp only [refuse_eq_ok, decide_eq_false_iff_not, not_or, not_lt] at bounds ⊢
  exact ⟨bounds.1, bounds.2.1, recent.1, recent.2⟩

end Checks

section Calls

variable {call : TerminalCall Raw Digest} {prepared : PreparedReceipt Digest} {moment : CallMoment}
  {returned : ReconciledReceipt Digest}

omit [DecidableEq Digest] in
/-- A prepared call has passed every check outside the transaction. -/
theorem prepare_ok (ok : call.prepare p = .ok prepared) :
    call.evidence = .ok prepared.evidence ∧
    ∃ effects, call.reads.effects = some effects ∧
      verifyTrade p call.reconciler call.binding prepared.evidence call.reads.trade
        call.reads.tradeChain = .ok prepared.trade ∧
      verifyEffects p call.reconciler call.binding prepared.trade effects
        call.reads.effectChain = .ok () ∧
      verifyFacts call.binding prepared.evidence prepared.trade call.reads.facts = .ok () ∧
      prepared.payload = terminalPayload p call.reconciler call.binding prepared.evidence
        prepared.trade effects call.reads.facts := by
  unfold TerminalCall.prepare at ok
  obtain ⟨evidence, verified, ok⟩ := bind_eq_ok.1 ok
  obtain ⟨trade, flat, ok⟩ := bind_eq_ok.1 ok
  obtain ⟨effects, read, ok⟩ := bind_eq_ok.1 ok
  obtain ⟨_, owned, ok⟩ := bind_eq_ok.1 ok
  obtain ⟨_, facts, ok⟩ := bind_eq_ok.1 ok
  cases ok
  exact ⟨verified, effects, required_eq_ok.1 read, flat, owned, facts, rfl⟩

omit [DecidableEq Digest] in
/-- The payload is of the reconciler's account and the binding's effect and trade. -/
theorem prepare_scope (ok : call.prepare p = .ok prepared) :
    prepared.payload.accountSha256 = call.reconciler.accountSha256 p ∧
      prepared.payload.effectId = call.binding.effectId ∧
      prepared.payload.tradeId = call.binding.tradeId ∧
      prepared.payload.observedAt = prepared.evidence.observedAt := by
  obtain ⟨-, effects, -, -, -, -, payload⟩ := prepare_ok ok
  rw [payload]
  exact ⟨rfl, rfl, rfl, rfl⟩

theorem insert_ok {receipt : TerminalReceipt Digest} (ok : ledger.insert receipt = .ok ledger') :
    (receipt.payload.observedAt ≤ receipt.insertedAt ∧
      receipt.insertedAt - receipt.payload.observedAt ≤ maxEvidenceAge) ∧
    (∀ other ∈ ledger.receipts, other.payload.accountSha256 = receipt.payload.accountSha256 →
      other.payload.effectId ≠ receipt.payload.effectId ∧
        other.payload.tradeId ≠ receipt.payload.tradeId) ∧
    ledger'.receipts = ledger.receipts ++ [receipt] ∧
    ledger'.db.riskReservations = ledger.db.riskReservations ∧
    ledger'.db.riskDecisions = ledger.db.riskDecisions ∧
    ledger'.db.schema = ledger.db.schema ∧ ledger'.db.databaseUuid = ledger.db.databaseUuid ∧
    ledger'.db.accountSha256 = ledger.db.accountSha256 := by
  unfold ReceiptLedger.insert at ok
  split at ok
  · cases ok
  · next db inserted =>
    cases ok
    obtain ⟨recent, keys, rfl⟩ := insertReceipt_ok inserted
    refine ⟨recent, fun other mem => ?_, rfl, rfl, rfl, rfl, rfl, rfl⟩
    have row : other.row ∈ ledger.db.terminalReceipts := by
      rw [ledger.rows]
      exact List.mem_map_of_mem mem
    exact (keys other.row row).2

/-- A transaction compares the evidence with the joined reservation, and then looks
for the receipt. -/
theorem transact_ok (ok : call.transact p ledger prepared moment = .ok (ledger', returned)) :
    inspectReconciliation p call.reconciler ledger.db = .ok () ∧
    ∃ reservation risk, ledger.reservation (call.reconciler.accountSha256 p) call.binding.effectId =
        some (reservation, risk) ∧
      verifyReservation p call.reconciler call.binding reservation risk = .ok () ∧
      verifyLineageOf prepared reservation risk = .ok () ∧
      findOrCreate p call.reconciler ledger call.binding prepared moment =
        .ok (ledger', returned) := by
  unfold TerminalCall.transact at ok
  obtain ⟨_, inspected, ok⟩ := bind_eq_ok.1 ok
  obtain ⟨⟨reservation, risk⟩, joined, ok⟩ := bind_eq_ok.1 ok
  obtain ⟨_, reserved, ok⟩ := bind_eq_ok.1 ok
  obtain ⟨_, lineage, ok⟩ := bind_eq_ok.1 ok
  exact ⟨inspected, reservation, risk, required_eq_ok.1 joined, reserved, lineage, ok⟩

theorem verifyLineageOf_ok {reservation : ReservationRow Digest} {risk : RiskRow Digest}
    (ok : verifyLineageOf prepared reservation risk = .ok ()) :
    prepared.evidence.ownerArmSha256 = reservation.ownerArmSha256 ∧
      prepared.evidence.reservationRequestSha256 = reservation.requestSha256 ∧
      some prepared.evidence.entrySide = risk.payload.side := by
  unfold verifyLineageOf at ok
  simp only [refuse_eq_ok, decide_eq_false_iff_not, not_or, not_not] at ok
  exact ⟨ok.1, ok.2.1, ok.2.2.1⟩

/-- What a successful call has done: it has found the effect's receipt, or made it. -/
inductive Reconciled (p : ReceiptPrimitives Digest) (call : TerminalCall Raw Digest)
    (prepared : PreparedReceipt Digest) (ledger : ReceiptLedger Digest) (moment : CallMoment) :
    ReceiptLedger Digest → ReconciledReceipt Digest → Prop
  | replayed (existing : TerminalReceipt Digest)
      (found : ledger.receipt (call.reconciler.accountSha256 p) call.binding.effectId = some existing)
      (same : existing.payloadSha256 = p.payloadSha256 prepared.payload)
      (verified : verifyVenueEvidence p call.reconciler call.binding prepared.evidence
        existing.insertedAt = .ok ()) :
      Reconciled p call prepared ledger moment ledger
        ⟨existing.receiptId, false, p.payloadSha256 prepared.payload⟩
  | created {ledger' : ReceiptLedger Digest}
      (fresh : ledger.receipt (call.reconciler.accountSha256 p) call.binding.effectId = none)
      (verified : verifyVenueEvidence p call.reconciler call.binding prepared.evidence
        moment.now = .ok ())
      (inserted : ledger.insert ⟨moment.receiptId, prepared.payload,
        p.payloadSha256 prepared.payload, moment.clock⟩ = .ok ledger') :
      Reconciled p call prepared ledger moment ledger'
        ⟨moment.receiptId, true, p.payloadSha256 prepared.payload⟩

theorem findOrCreate_ok (ok : findOrCreate p call.reconciler ledger call.binding prepared moment =
    .ok (ledger', returned)) : Reconciled p call prepared ledger moment ledger' returned := by
  unfold findOrCreate at ok
  split at ok
  · next existing found =>
    unfold replayReceipt at ok
    obtain ⟨replayed, checked, ok⟩ := bind_eq_ok.1 ok
    cases ok
    obtain ⟨_, same, checked⟩ := bind_eq_ok.1 checked
    obtain ⟨_, verified, checked⟩ := bind_eq_ok.1 checked
    cases checked
    simp only [refuse_eq_ok, decide_eq_false_iff_not, not_not] at same
    exact .replayed existing found same verified
  · next fresh =>
    unfold createReceipt at ok
    obtain ⟨_, verified, ok⟩ := bind_eq_ok.1 ok
    obtain ⟨_, inserted, ok⟩ := bind_eq_ok.1 ok
    cases ok
    exact .created fresh verified inserted

/-- A call that inserts a receipt has accepted what it is about. -/
theorem accepted_of_created (ready : call.prepare p = .ok prepared)
    (ok : call.transact p ledger prepared moment = .ok (ledger', returned))
    (created : returned.created = true) :
    Accepted p call prepared ledger moment.clock ∧ ledger'.receipts = ledger.receipts ++
      [⟨moment.receiptId, prepared.payload, p.payloadSha256 prepared.payload, moment.clock⟩] := by
  obtain ⟨verified, effects, read, flat, owned, facts, -⟩ := prepare_ok ready
  obtain ⟨-, reservation, risk, joined, -, lineage, done⟩ := transact_ok ok
  cases findOrCreate_ok done with
  | replayed => cases created
  | created fresh evidence inserted =>
    obtain ⟨recent, -, appended, -⟩ := insert_ok inserted
    obtain ⟨there, state, chained, positive, quantity⟩ := verifyTrade_ok flat
    obtain ⟨sequence, position, closed⟩ := verifyFacts_ok facts
    rw [(prepare_scope ready).2.2.2] at recent
    exact ⟨{
      evidence := verified
      flat := ⟨there, state, chained⟩
      effects := ⟨effects, read, verifyEffects_ok owned⟩
      sequence := sequence
      position := position
      residuals := (verifyVenueEvidence_ok evidence).1
      closed := closed
      filled := ⟨quantity, positive⟩
      recent := recent
      lineage := ⟨reservation, risk, joined, verifyLineageOf_ok lineage⟩ }, appended⟩

end Calls

section Runs

/-- A transaction that commits: of a call of a reconciler, or of another writer, who
writes no receipt. -/
inductive LedgerStep (Raw : Type) (p : ReceiptPrimitives Digest) (ledger : ReceiptLedger Digest) :
    ReceiptLedger Digest → Prop
  | reconcile (call : TerminalCall Raw Digest) (moment : CallMoment)
      {ledger' : ReceiptLedger Digest} {returned : ReconciledReceipt Digest}
      (ok : call.reconcile p ledger moment = .ok (ledger', returned)) : LedgerStep Raw p ledger ledger'
  | write (call : Call Digest) {db' : Database Digest}
      (ok : call.apply p.toPrimitives ledger.db = .ok db')
      (kept : db'.terminalReceipts = ledger.db.terminalReceipts) :
      LedgerStep Raw p ledger ⟨db', ledger.receipts, kept.trans ledger.rows⟩

/-- The ledgers that transactions lead to, from a database without receipts. A call that
raises or crashes before its commit is no step; one whose caller never learns of its
commit is. -/
inductive LedgerRun (Raw : Type) (p : ReceiptPrimitives Digest) : ReceiptLedger Digest → Prop
  | started {db : Database Digest} (run : Run p.toPrimitives db) (none : db.terminalReceipts = []) :
      LedgerRun Raw p ⟨db, [], none⟩
  | stepped {ledger ledger' : ReceiptLedger Digest} (run : LedgerRun Raw p ledger)
      (step : LedgerStep Raw p ledger ledger') : LedgerRun Raw p ledger'

/-- A later state of a ledger: its rows stay, as far as a reconciliation reads them. -/
structure Extends (ledger later : ReceiptLedger Digest) : Prop where
  receipts : ledger.receipts <+: later.receipts
  reservations : ledger.db.riskReservations <+: later.db.riskReservations
  decisions : ledger.db.riskDecisions <+: later.db.riskDecisions
  schema : later.db.schema = ledger.db.schema
  databaseUuid : later.db.databaseUuid = ledger.db.databaseUuid
  account : later.db.accountSha256 = ledger.db.accountSha256

omit [DecidableEq Digest] in
theorem Extends.refl (ledger : ReceiptLedger Digest) : Extends ledger ledger :=
  ⟨List.prefix_refl _, List.prefix_refl _, List.prefix_refl _, rfl, rfl, rfl⟩

omit [DecidableEq Digest] in
theorem Extends.trans {later last : ReceiptLedger Digest} (first : Extends ledger later)
    (second : Extends later last) : Extends ledger last where
  receipts := first.receipts.trans second.receipts
  reservations := first.reservations.trans second.reservations
  decisions := first.decisions.trans second.decisions
  schema := second.schema.trans first.schema
  databaseUuid := second.databaseUuid.trans first.databaseUuid
  account := second.account.trans first.account

variable {call : TerminalCall Raw Digest} {prepared : PreparedReceipt Digest} {moment : CallMoment}
  {returned : ReconciledReceipt Digest} {later : ReceiptLedger Digest}

/-- Another writer's transaction keeps what a reconciliation reads. -/
theorem Committed.extends {db' : Database Digest} (committed : Committed ledger.db db')
    (kept : db'.terminalReceipts = ledger.db.terminalReceipts) :
    Extends ledger ⟨db', ledger.receipts, kept.trans ledger.rows⟩ := by
  have same := List.prefix_refl ledger.receipts
  cases committed with
  | risk row fresh => exact ⟨same, List.prefix_refl _, List.prefix_append _ _, rfl, rfl, rfl⟩
  | reservation new nowAt fresh inserted =>
    obtain ⟨-, -, -, rfl⟩ := insertReservation_ok inserted
    exact ⟨same, List.prefix_append _ _, List.prefix_refl _, rfl, rfl, rfl⟩
  | release new clock inserted =>
    obtain ⟨-, -, -, rfl⟩ := insertRelease_ok inserted
    exact ⟨same, List.prefix_refl _, List.prefix_refl _, rfl, rfl, rfl⟩
  | _ => exact ⟨same, List.prefix_refl _, List.prefix_refl _, rfl, rfl, rfl⟩

theorem reconcile_ok (ok : call.reconcile p ledger moment = .ok (ledger', returned)) :
    ∃ prepared, call.prepare p = .ok prepared ∧
      call.transact p ledger prepared moment = .ok (ledger', returned) :=
  bind_eq_ok.1 ok

theorem Reconciled.extends (done : Reconciled p call prepared ledger moment ledger' returned) :
    Extends ledger ledger' := by
  cases done with
  | replayed => exact .refl ledger
  | created fresh verified inserted =>
    obtain ⟨-, -, receipts, reservations, decisions, schema, uuid, account⟩ := insert_ok inserted
    exact {
      receipts := receipts ▸ List.prefix_append _ _
      reservations := reservations ▸ List.prefix_refl _
      decisions := decisions ▸ List.prefix_refl _
      schema := schema
      databaseUuid := uuid
      account := account }

theorem reconcile_extends (ok : call.reconcile p ledger moment = .ok (ledger', returned)) :
    Extends ledger ledger' := by
  obtain ⟨prepared, -, transacted⟩ := reconcile_ok ok
  obtain ⟨-, _, _, -, -, -, done⟩ := transact_ok transacted
  exact (findOrCreate_ok done).extends

theorem LedgerStep.extends (step : LedgerStep Raw p ledger ledger') : Extends ledger ledger' := by
  cases step with
  | reconcile call moment ok => exact reconcile_extends ok
  | write call ok kept => exact (Call.committed ok).extends kept

/-- Any number of transactions. -/
abbrev LedgerSteps (Raw : Type) (p : ReceiptPrimitives Digest) :
    ReceiptLedger Digest → ReceiptLedger Digest → Prop :=
  Relation.ReflTransGen (LedgerStep Raw p)

theorem LedgerSteps.extends (steps : LedgerSteps Raw p ledger later) : Extends ledger later := by
  induction steps with
  | refl => exact .refl ledger
  | tail _ step ih => exact ih.trans step.extends

omit [DecidableEq Digest] in
/-- What is found in a list is found in any list that it begins. -/
theorem find?_of_prefix {α : Type} {test : α → Bool} {items more : List α} {item : α}
    (part : items <+: more) (found : items.find? test = some item) :
    more.find? test = some item := by
  obtain ⟨rest, rfl⟩ := part
  rw [List.find?_append, found, Option.some_or]

theorem Extends.receipt (extended : Extends ledger later) {accountSha256 effectId : Digest}
    {receipt : TerminalReceipt Digest} (found : ledger.receipt accountSha256 effectId = some receipt) :
    later.receipt accountSha256 effectId = some receipt :=
  find?_of_prefix extended.receipts found

theorem Extends.reservation (extended : Extends ledger later) {accountSha256 effectId : Digest}
    {joined : ReservationRow Digest × RiskRow Digest}
    (found : ledger.reservation accountSha256 effectId = some joined) :
    later.reservation accountSha256 effectId = some joined := by
  obtain ⟨reservation, reserved, found⟩ := Option.bind_eq_some_iff.1 found
  obtain ⟨risk, decided, same⟩ := Option.bind_eq_some_iff.1 found
  have rows : ledger.db.reservations accountSha256 <+: later.db.reservations accountSha256 :=
    extended.reservations.filter _
  have reserved' := find?_of_prefix rows reserved
  have decided' : later.db.riskDecision reservation.contextSha256 reservation.signingRequestId =
      some risk := find?_of_prefix extended.decisions decided
  unfold ReceiptLedger.reservation
  rw [reserved']
  simp only [Option.bind_eq_bind, Option.bind_some, decided']
  exact same

/-- After a call its effect has the receipt that it returned, under the digest of its
payload, and its evidence passes by the time of the receipt's acceptance. -/
theorem Reconciled.receipt (ready : call.prepare p = .ok prepared)
    (done : Reconciled p call prepared ledger moment ledger' returned) :
    ∃ receipt, ledger'.receipt (call.reconciler.accountSha256 p) call.binding.effectId =
        some receipt ∧ receipt.receiptId = returned.receiptId ∧
      receipt.payloadSha256 = returned.payloadSha256 ∧
      returned.payloadSha256 = p.payloadSha256 prepared.payload ∧
      verifyVenueEvidence p call.reconciler call.binding prepared.evidence receipt.insertedAt =
        .ok () := by
  obtain ⟨account, effect, -, observed⟩ := prepare_scope ready
  cases done with
  | replayed existing found same verified => exact ⟨existing, found, rfl, same, rfl, verified⟩
  | created fresh verified inserted =>
    obtain ⟨recent, -, appended, -⟩ := insert_ok inserted
    rw [observed] at recent
    refine ⟨_, ?_, rfl, rfl, rfl, verifyVenueEvidence_again verified recent⟩
    unfold ReceiptLedger.receipt at fresh ⊢
    rw [appended, List.find?_append, fresh]
    simp [account, effect]

/-- The same call again, at any later time: it returns the receipt and writes nothing. -/
theorem reconcile_again (ok : call.reconcile p ledger moment = .ok (ledger', returned))
    (extended : Extends ledger' later) (again : CallMoment) :
    call.reconcile p later again = .ok (later, { returned with created := false }) := by
  obtain ⟨prepared, ready, transacted⟩ := reconcile_ok ok
  obtain ⟨inspected, reservation, risk, joined, reserved, lineage, done⟩ := transact_ok transacted
  have after := (reconcile_extends ok).trans extended
  obtain ⟨receipt, found, id, digest, payload, verified⟩ :=
    (findOrCreate_ok done).receipt ready
  have found' := extended.receipt found
  have joined' := after.reservation joined
  have inspected' : inspectReconciliation p call.reconciler later.db = .ok () := by
    unfold inspectReconciliation at inspected ⊢
    rw [after.databaseUuid, after.account, after.schema]
    exact inspected
  unfold TerminalCall.reconcile
  rw [ready]
  show call.transact p later prepared again = _
  unfold TerminalCall.transact
  rw [inspected', joined']
  show (verifyReservation p call.reconciler call.binding reservation risk >>= fun _ => _) = _
  rw [reserved]
  show (verifyLineageOf prepared reservation risk >>= fun _ => _) = _
  rw [lineage]
  show findOrCreate p call.reconciler later call.binding prepared again = _
  unfold findOrCreate
  rw [found']
  have same : decide (receipt.payloadSha256 ≠ p.payloadSha256 prepared.payload) = false := by
    simp [digest, payload]
  simp only [replayReceipt, refuse_bind same, verified]
  rw [id, ← payload]
  rfl

/-- What holds of every ledger: a receipt is the only one of its effect and of its
trade, and is kept under the digest of its payload. -/
structure UniqueReceipts (p : ReceiptPrimitives Digest) (ledger : ReceiptLedger Digest) : Prop where
  effects : (ledger.receipts.map fun receipt =>
    (receipt.payload.accountSha256, receipt.payload.effectId)).Nodup
  trades : (ledger.receipts.map fun receipt =>
    (receipt.payload.accountSha256, receipt.payload.tradeId)).Nodup
  digests : ∀ receipt ∈ ledger.receipts,
    receipt.payloadSha256 = p.payloadSha256 receipt.payload

theorem UniqueReceipts.reconcile (unique : UniqueReceipts p ledger)
    (ok : call.reconcile p ledger moment = .ok (ledger', returned)) : UniqueReceipts p ledger' := by
  obtain ⟨prepared, -, transacted⟩ := reconcile_ok ok
  obtain ⟨-, _, _, -, -, -, done⟩ := transact_ok transacted
  cases findOrCreate_ok done with
  | replayed => exact unique
  | created fresh verified inserted =>
    obtain ⟨-, keys, appended, -⟩ := insert_ok inserted
    constructor
    · rw [appended]
      refine nodup_map_append unique.effects fun other mem same => ?_
      obtain ⟨account, effect⟩ := Prod.mk.inj same
      exact (keys other mem account).1 effect
    · rw [appended]
      refine nodup_map_append unique.trades fun other mem same => ?_
      obtain ⟨account, trade⟩ := Prod.mk.inj same
      exact (keys other mem account).2 trade
    · intro receipt mem
      rw [appended] at mem
      rcases List.mem_append.1 mem with old | last
      · exact unique.digests receipt old
      · rw [List.mem_singleton.1 last]

theorem LedgerRun.unique (run : LedgerRun Raw p ledger) : UniqueReceipts p ledger := by
  induction run with
  | started run none => exact ⟨.nil, .nil, fun _ mem => nomatch mem⟩
  | stepped run step ih =>
    cases step with
    | reconcile call moment ok => exact ih.reconcile ok
    | write call ok kept => exact ⟨ih.effects, ih.trades, ih.digests⟩

/-- A receipt of the same effect or trade under another payload refuses a call, unless
the digest of a receipt collides. -/
theorem reconcile_rebound (unique : UniqueReceipts p ledger) (ready : call.prepare p = .ok prepared)
    {receipt : TerminalReceipt Digest} (mem : receipt ∈ ledger.receipts)
    (account : receipt.payload.accountSha256 = prepared.payload.accountSha256)
    (same : receipt.payload.effectId = prepared.payload.effectId ∨
      receipt.payload.tradeId = prepared.payload.tradeId)
    (differs : receipt.payload ≠ prepared.payload) :
    (∃ error, call.reconcile p ledger moment = .error error) ∨
    ∃ other ∈ ledger.receipts, other.payload ≠ prepared.payload ∧
      p.payloadSha256 other.payload = p.payloadSha256 prepared.payload := by
  cases result : call.reconcile p ledger moment with
  | error error => exact .inl ⟨error, rfl⟩
  | ok done =>
    obtain ⟨ledger', returned⟩ := done
    obtain ⟨again, prepared', transacted⟩ := reconcile_ok result
    obtain rfl : again = prepared := by
      rw [ready] at prepared'
      exact (Except.ok.inj prepared').symm
    obtain ⟨-, _, _, -, -, -, done⟩ := transact_ok transacted
    cases findOrCreate_ok done with
    | replayed existing found digest =>
      have there := List.mem_of_find?_eq_some found
      refine .inr ⟨existing, there, fun payload => differs ?_, by
        rw [← unique.digests existing there, digest]⟩
      -- the receipt of the payload is the receipt of the effect and of the trade
      rw [← payload]
      rw [← payload] at account same
      rcases same with effects | trades
      · rw [List.inj_on_of_nodup_map unique.effects mem there (Prod.ext account effects)]
      · rw [List.inj_on_of_nodup_map unique.trades mem there (Prod.ext account trades)]
    | created fresh verified inserted =>
      have keys := (insert_ok inserted).2.1 receipt mem account
      exact absurd same (not_or.2 keys)

/-- In every run a receipt is the only one of its effect and of its trade; a call that
inserts one has accepted it, and any other call writes nothing; the same call again, at
any later time, returns the same receipt; and a call of another payload raises. -/
theorem terminal_receipts_replayable (run : LedgerRun Raw p ledger) :
    UniqueReceipts p ledger ∧
    (∀ (call : TerminalCall Raw Digest) moment ledger' returned,
      call.reconcile p ledger moment = .ok (ledger', returned) →
        returned.created = false ∧ ledger' = ledger ∨
        returned.created = true ∧ ∃ prepared, call.prepare p = .ok prepared ∧
          Accepted p call prepared ledger moment.clock ∧
          ledger'.receipts = ledger.receipts ++ [⟨moment.receiptId, prepared.payload,
            p.payloadSha256 prepared.payload, moment.clock⟩]) ∧
    (∀ (call : TerminalCall Raw Digest) moment ledger' returned,
      call.reconcile p ledger moment = .ok (ledger', returned) →
        ∀ later again, LedgerSteps Raw p ledger' later →
          call.reconcile p later again = .ok (later, { returned with created := false })) ∧
    ∀ (call : TerminalCall Raw Digest) moment prepared receipt, call.prepare p = .ok prepared →
      receipt ∈ ledger.receipts → receipt.payload.accountSha256 = prepared.payload.accountSha256 →
      (receipt.payload.effectId = prepared.payload.effectId ∨
        receipt.payload.tradeId = prepared.payload.tradeId) →
      receipt.payload ≠ prepared.payload →
        (∃ error, call.reconcile p ledger moment = .error error) ∨
        ∃ other ∈ ledger.receipts, other.payload ≠ prepared.payload ∧
          p.payloadSha256 other.payload = p.payloadSha256 prepared.payload := by
  refine ⟨run.unique, ?_, ?_, ?_⟩
  · intro call moment ledger' returned ok
    obtain ⟨prepared, ready, transacted⟩ := reconcile_ok ok
    obtain ⟨-, _, _, -, -, -, done⟩ := transact_ok transacted
    have accepted := accepted_of_created ready transacted
    cases findOrCreate_ok done with
    | replayed => exact .inl ⟨rfl, rfl⟩
    | created => exact .inr ⟨rfl, prepared, ready, accepted rfl⟩
  · intro call moment ledger' returned ok later again steps
    exact reconcile_again ok (LedgerSteps.extends steps) again
  · intro call moment prepared receipt ready mem account same differs
    exact reconcile_rebound run.unique ready mem account same differs

end Runs

section Samples

def sampleReceiptPrimitives : ReceiptPrimitives ℕ where
  toPrimitives := samplePrimitives
  payloadSha256 payload := 40 + payload.observedAt.toNat
  effectsSha256 effects := 50 + effects.length
  factsSha256 facts := 60 + facts.length

/-- The binding of the sample's entry. -/
def sampleTerminalBinding : ReservationTradeBinding ℕ :=
  ⟨"trade", "decision", 20, "entry", "request", sampleOrderId, "venue order"⟩

/-- One unit, bought at one dollar and sold at two, seen at ten seconds. -/
def sampleTerminalEvidence : VenueTerminalEvidence ℕ where
  sourceId := "venue"
  sourceEvidenceSha256 := 70
  contextSha256 := 11
  accountId := "account"
  tradeId := "trade"
  decisionId := "decision"
  effectId := 20
  lifecycleEntryEffectId := "entry"
  signingRequestId := "request"
  clientOrderId := sampleOrderId
  exchangeParentOrderId := "venue order"
  collectionStartedAt := seconds 10
  collectionFinishedAt := seconds 10
  observedAt := seconds 10
  complete := true
  terminal := true
  entryFilledQuantity := ⟨false, 10, -1⟩
  closedQuantity := ⟨false, 1, 0⟩
  entryNotionalUsd := ⟨false, 1, 0⟩
  exitNotionalUsd := ⟨false, 2, 0⟩
  entryFeesUsd := ⟨true, 0, 0⟩
  exitFeesUsd := ⟨false, 1, -2⟩
  residualPositionQuantity := ⟨false, 0, 0⟩
  residualOrderCount := 0
  residualProtectionCount := 0
  unownedExposureCount := 0
  entrySide := .BUY
  fundingCostUsd := ⟨true, 1, -3⟩
  settledAt := seconds 10
  ownerArmSha256 := 15
  reservationRequestSha256 := 21
  filled_pos := by decide +kernel
  closed_pos := by decide +kernel
  entry_pos := by decide +kernel
  exit_pos := by decide +kernel
  entryFees_nonneg := by decide +kernel
  exitFees_nonneg := by decide +kernel
  residual_nonneg := by decide +kernel
  collected := by decide
  observed := by decide
  settled := by decide

/-- A fact of the sample's trade. -/
def sampleFact (seq : ℕ) (eventType : Paper.EventType) (state : Paper.TradeState)
    (filled position : ℚ) : LiveFact where
  eventType := eventType
  lifecycleState := state
  effectId := none
  orderRole := some .ENTRY
  clientOrderId := none
  exchangeOrderId := none
  requestedQuantity := 1
  filledQuantity := filled
  positionQuantity := position
  averagePrice := none
  feeUsd := 0
  exitReason := none
  details := []
  occurredAtMs := 0
  accountId := "account"
  venueSymbol := "BTC"
  strategyId := "strategy"
  strategyRevision := "1"
  intentId := "intent"
  riskDecisionId := "decision"
  tradeId := "trade"
  telemetry := []
  eventId := "event"
  eventSeq := seq
  tradingMode := "LIVE"
  evedexProfile := "PROD"

theorem sampleUuid_pos : 0 < 7 := by decide

/-- The sample's trade, flat after an entry and an exit. -/
def sampleTerminalCall : TerminalCall Unit ℕ where
  reconciler := {
    databaseUuid := 7
    context := sampleContext
    sourceVerifiers := fun source =>
      if source = "venue" then some fun _ _ _ => some sampleTerminalEvidence else none
    uuid_pos := sampleUuid_pos }
  binding := sampleTerminalBinding
  rawVenueEvidence := ()
  sourceId := "venue"
  reads := {
    trade := some ⟨"trade", .FLAT, 2, "decision", "LIVE", "PROD:11:LIVE", "PROD", "evedex", "account",
      .BUY, sampleOrderId, some "venue order", 1, 71⟩
    tradeChain := true
    effects := some [⟨"entry", .CONFIRMED, some "trade", "account", "PROD:11:LIVE", "evedex", "BTC",
      some sampleOrderId, some "venue order", 72⟩]
    effectChain := fun _ => true
    facts := [sampleFact 1 .DECISION_RECEIVED .RECEIVED 0 0,
      sampleFact 2 .ENTRY_FILLED .ACTIVE 1 1, sampleFact 3 .EXIT_FILLED .FLAT 1 0] }

/-- The ledger of the sample's database, without receipts. -/
def sampleLedger : ReceiptLedger ℕ := ⟨sampleDatabase .V3, [], by decide +kernel⟩

/-- The trade's receipt is inserted at eleven seconds, and returned an hour later. -/
theorem terminal_receipts_replayable_sample :
    ∃ ledger', sampleTerminalCall.reconcile sampleReceiptPrimitives sampleLedger
        ⟨seconds 11, 1, seconds 11⟩ = .ok (ledger', ⟨1, true, 10_000_040⟩) ∧
      sampleTerminalCall.reconcile sampleReceiptPrimitives ledger'
        ⟨seconds 3600, 2, seconds 3600⟩ = .ok (ledger', ⟨1, false, 10_000_040⟩) := by
  have run : LedgerRun Unit sampleReceiptPrimitives sampleLedger :=
    .started (sampleDatabase_run .V3) (by decide +kernel)
  have created : (sampleTerminalCall.reconcile sampleReceiptPrimitives sampleLedger
      ⟨seconds 11, 1, seconds 11⟩).toOption.map (·.2) = some ⟨1, true, 10_000_040⟩ := by
    decide +kernel
  cases ok : sampleTerminalCall.reconcile sampleReceiptPrimitives sampleLedger
      ⟨seconds 11, 1, seconds 11⟩ with
  | error error =>
    rw [ok] at created
    cases created
  | ok done =>
    obtain ⟨ledger', returned⟩ := done
    rw [ok] at created
    cases created
    exact ⟨ledger', rfl, (terminal_receipts_replayable run).2.2.1 _ _ _ _ ok ledger' _ .refl⟩

end Samples

end KairosExecution.Production
