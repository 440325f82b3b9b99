import KairosExecution.Production.Accounting
import KairosExecution.Production.Authorized

/-! The runs of the production database: from its provisioning, the transactions of every
writer, in any order. What a transaction that commits can have changed is said once, and
every law of the tables is derived from that: an owner arm, an operator observation that
its trigger let pass, a risk decision of a new request, a reservation or a release that
its guard let pass, or a receipt under a new id. -/

namespace KairosExecution.Production

open Python Table

variable {Digest : Type} [DecidableEq Digest]

/-- A transaction on the database, with what its clock shows. -/
inductive Call (Digest : Type)
  | appendOwnerArm (context : ProductionContext Digest) (signed : SignedManualArmRequest Digest)
  | appendOperatorObservation (context : ProductionContext Digest) (state : LiveOperatorState Digest)
    (dbNow clock insertedAt : Timestamp)
  | appendRiskDecision (context : ProductionContext Digest) (risk : RiskGeometry Digest)
  | claim (row : ClaimRow Digest)
  | reserveEntry (context : ProductionContext Digest) (maxSnapshotAge : ℤ)
    (request : ManagedSigningRequest Digest) (binding : CustodyBinding Digest)
    (evidence : SigningEvidence Digest) (dbNow nowAt : Timestamp)
  | insertReceipt (receiptId : ℕ) (columns payload : ReceiptColumns Digest) (payloadSha256 : Digest)
    (clock : Timestamp)
  | acceptTerminalReceipt (databaseUuid : ℕ) (context : ProductionContext Digest) (receiptId : ℕ)
    (receiptPayloadSha256 : Digest) (now clock : Timestamp)

/-- The database after a transaction, which leaves it as it was where it raises. -/
def Call.apply (p : Primitives Digest) (db : Database Digest) : Call Digest → Except Err (Database Digest)
  | .appendOwnerArm context signed => Production.appendOwnerArm p db context signed
  | .appendOperatorObservation context state dbNow clock insertedAt =>
    Production.appendOperatorObservation p db context state dbNow clock insertedAt
  | .appendRiskDecision context risk => Production.appendRiskDecision p db context risk
  | .claim row => (insertClaim db.claims row).map fun claimed => { db with claims := claimed.1 }
  | .reserveEntry context maxSnapshotAge request binding evidence dbNow nowAt =>
    Production.reserveEntry p db context maxSnapshotAge request binding evidence dbNow nowAt
  | .insertReceipt receiptId columns payload payloadSha256 clock =>
    Production.insertReceipt db receiptId columns payload payloadSha256 clock
  | .acceptTerminalReceipt databaseUuid context receiptId receiptPayloadSha256 now clock =>
    (Production.acceptTerminalReceipt p db databaseUuid context receiptId receiptPayloadSha256 now
      clock).map (·.1)

/-- The databases that transactions lead to. -/
inductive Run (p : Primitives Digest) : Database Digest → Prop
  | provisioned (schema : StateSchema) (databaseUuid : ℕ) (accountSha256 : Digest) :
      Run p { schema, databaseUuid, accountSha256 }
  | committed {db db' : Database Digest} (run : Run p db) (call : Call Digest)
      (ok : call.apply p db = .ok db') : Run p db'

section Committed

/-- What a transaction has changed. -/
inductive Committed (db : Database Digest) : Database Digest → Prop
  | kept : Committed db db
  | ownerArm (row : OwnerArmRow Digest) : Committed db { db with ownerArms := db.ownerArms ++ [row] }
  | operator (row : OperatorRow Digest) (clock : Timestamp)
      (passed : enforceOperatorAppend db row clock = .ok ()) :
      Committed db { db with operatorObservations := db.operatorObservations ++ [row] }
  | risk (row : RiskRow Digest) (fresh : db.riskDecision row.contextSha256 row.signingRequestId = none) :
      Committed db { db with riskDecisions := db.riskDecisions ++ [row] }
  | claim (claims : List (ClaimRow Digest)) : Committed db { db with claims }
  | reservation (new : ReservationRow Digest) (nowAt : Timestamp) {db' : Database Digest}
      (fresh : (db.reservations new.accountSha256).find? (·.effectId = new.effectId) = none)
      (inserted : insertReservation db new nowAt = .ok db') : Committed db db'
  | receipt (row : ReceiptRow Digest)
      (fresh : ∀ receipt ∈ db.terminalReceipts, receipt.receiptId ≠ row.receiptId) :
      Committed db { db with terminalReceipts := db.terminalReceipts ++ [row] }
  | release (new : ReleaseRow Digest) (clock : Timestamp) {db' : Database Digest}
      (inserted : insertRelease db new clock = .ok db') : Committed db db'

variable {p : Primitives Digest} {db db' : Database Digest}

theorem appendOwnerArm_committed {context : ProductionContext Digest}
    {signed : SignedManualArmRequest Digest} (ok : appendOwnerArm p db context signed = .ok db') :
    Committed db db' := by
  unfold appendOwnerArm at ok
  obtain ⟨_, -, ok⟩ := bind_eq_ok.1 ok
  obtain ⟨_, -, ok⟩ := bind_eq_ok.1 ok
  obtain ⟨_, -, ok⟩ := bind_eq_ok.1 ok
  cases ok
  exact .ownerArm _

theorem appendOperatorObservation_committed {context : ProductionContext Digest}
    {state : LiveOperatorState Digest} {dbNow clock insertedAt : Timestamp}
    (ok : appendOperatorObservation p db context state dbNow clock insertedAt = .ok db') :
    Committed db db' := by
  unfold appendOperatorObservation at ok
  obtain ⟨_, -, ok⟩ := bind_eq_ok.1 ok
  obtain ⟨_, -, ok⟩ := bind_eq_ok.1 ok
  obtain ⟨_, -, ok⟩ := bind_eq_ok.1 ok
  obtain ⟨_, -, ok⟩ := bind_eq_ok.1 ok
  obtain ⟨_, passed, ok⟩ := bind_eq_ok.1 ok
  cases ok
  exact .operator _ clock passed

theorem appendRiskDecision_committed {context : ProductionContext Digest} {risk : RiskGeometry Digest}
    (ok : appendRiskDecision p db context risk = .ok db') : Committed db db' := by
  unfold appendRiskDecision at ok
  obtain ⟨_, -, ok⟩ := bind_eq_ok.1 ok
  obtain ⟨_, -, ok⟩ := bind_eq_ok.1 ok
  dsimp only at ok
  split at ok
  next existing found =>
    split at ok
    · obtain ⟨_, -, ok⟩ := bind_eq_ok.1 ok
      cases ok
      exact .kept
    · cases ok
  next fresh =>
    obtain ⟨_, -, ok⟩ := bind_eq_ok.1 ok
    cases ok
    exact .risk _ fresh

/-- A reservation that is inserted has passed its guard, and its keys are new. -/
theorem insertReservation_ok {new : ReservationRow Digest} {nowAt : Timestamp}
    (ok : insertReservation db new nowAt = .ok db') :
    enforceRiskReservation db new nowAt = .ok () ∧
      (0 < new.riskUsd ∧ 0 < new.notionalUsd ∧ 0 < new.accountEquityUsd ∧
        0 ≤ new.dailyRealizedLossUsd ∧ 0 ≤ new.aggregateOpenRiskUsd ∧
        0 ≤ new.aggregateOpenNotionalUsd ∧ 0 < new.dollarCap ∧ 0 < new.dailyStopLossUsd) ∧
      (∀ row ∈ db.reservations new.accountSha256,
        row.effectId ≠ new.effectId ∧ row.signingRequestId ≠ new.signingRequestId) ∧
      db' = { db with riskReservations := db.riskReservations ++ [new] } := by
  unfold insertReservation at ok
  obtain ⟨_, passed, ok⟩ := bind_eq_ok.1 ok
  obtain ⟨_, columns, ok⟩ := bind_eq_ok.1 ok
  obtain ⟨_, keys, ok⟩ := bind_eq_ok.1 ok
  cases ok
  rw [refuse_eq_ok, decide_eq_false_iff_not, not_not] at columns
  rw [refuse_eq_ok, List.any_eq_false] at keys
  refine ⟨passed, columns, fun row mem => ?_, rfl⟩
  have distinct := keys row mem
  rw [decide_eq_true_eq, not_or] at distinct
  exact distinct

/-- A release that is inserted has passed its guard, and its keys are new. -/
theorem insertRelease_ok {new : ReleaseRow Digest} {clock : Timestamp}
    (ok : insertRelease db new clock = .ok db') :
    enforceRelease db new clock = .ok () ∧
      (0 ≤ new.feesUsd ∧ 0 ≤ new.lossChargeUsd ∧
        new.netPnlUsd = new.grossPnlUsd - new.feesUsd - new.fundingCostUsd ∧
        new.lossChargeUsd = max 0 (-new.grossPnlUsd) + new.feesUsd + max 0 new.fundingCostUsd) ∧
      (∀ release ∈ db.acceptedReleases, release.receiptId ≠ new.receiptId ∧
        (release.accountSha256 = new.accountSha256 →
          release.effectId ≠ new.effectId ∧ release.tradeId ≠ new.tradeId)) ∧
      db' = { db with acceptedReleases := db.acceptedReleases ++ [new] } := by
  unfold insertRelease at ok
  obtain ⟨_, passed, ok⟩ := bind_eq_ok.1 ok
  obtain ⟨_, columns, ok⟩ := bind_eq_ok.1 ok
  obtain ⟨_, keys, ok⟩ := bind_eq_ok.1 ok
  cases ok
  rw [refuse_eq_ok, decide_eq_false_iff_not, not_not] at columns
  rw [refuse_eq_ok, List.any_eq_false] at keys
  refine ⟨passed, columns, fun release mem => ?_, rfl⟩
  have distinct := keys release mem
  simp only [decide_eq_true_eq, not_or, not_and] at distinct
  exact distinct

theorem reserveRow_ok {new : ReservationRow Digest} {leverage : ℕ} {nowAt : Timestamp}
    (ok : reserveRow p db new leverage nowAt = .ok db') :
    (∃ existing, (db.reservations new.accountSha256).find? (·.effectId = new.effectId) = some existing ∧
      reboundReservation existing new = false ∧ db' = db) ∨
    (db.reservations new.accountSha256).find? (·.effectId = new.effectId) = none ∧
      insertReservation db new nowAt = .ok db' := by
  unfold reserveRow at ok
  split at ok
  next existing found =>
    obtain ⟨_, same, ok⟩ := bind_eq_ok.1 ok
    cases ok
    exact .inl ⟨existing, found, refuse_eq_ok.1 same, rfl⟩
  next fresh =>
    unfold reserveNew at ok
    obtain ⟨_, -, ok⟩ := bind_eq_ok.1 ok
    obtain ⟨_, -, ok⟩ := bind_eq_ok.1 ok
    exact .inr ⟨fresh, ok⟩

/-- A reservation of an exit does nothing; that of an entry has its lineage and is of a row. -/
theorem reserveEntry_ok {context : ProductionContext Digest} {maxSnapshotAge : ℤ}
    {request : ManagedSigningRequest Digest} {binding : CustodyBinding Digest}
    {evidence : SigningEvidence Digest} {dbNow nowAt : Timestamp}
    (ok : reserveEntry p db context maxSnapshotAge request binding evidence dbNow nowAt = .ok db') :
    request.operation.exit = true ∧ db' = db ∨
    ∃ message notional, typedMessage p request binding = .ok message ∧
      entryNotionalUsd p message = .ok notional ∧ inspect p db context = .ok () ∧
      verifyLineage p db context request evidence maxSnapshotAge dbNow = .ok () ∧
      reserveRow p db (reservationRow p context request binding evidence notional)
        evidence.risk.leverage nowAt = .ok db' := by
  unfold reserveEntry at ok
  split at ok
  next exit =>
    cases ok
    exact .inl ⟨exit, rfl⟩
  next =>
    obtain ⟨_, -, ok⟩ := bind_eq_ok.1 ok
    obtain ⟨_, -, ok⟩ := bind_eq_ok.1 ok
    obtain ⟨message, typed, ok⟩ := bind_eq_ok.1 ok
    obtain ⟨notional, amount, ok⟩ := bind_eq_ok.1 ok
    obtain ⟨_, -, ok⟩ := bind_eq_ok.1 ok
    obtain ⟨_, inspected, ok⟩ := bind_eq_ok.1 ok
    obtain ⟨_, lineage, ok⟩ := bind_eq_ok.1 ok
    exact .inr ⟨message, notional, typed, amount, inspected, lineage, ok⟩

/-- A receipt that is inserted is recent, and its keys are new. -/
theorem insertReceipt_ok {receiptId : ℕ} {columns payload : ReceiptColumns Digest}
    {payloadSha256 : Digest} {clock : Timestamp}
    (ok : insertReceipt db receiptId columns payload payloadSha256 clock = .ok db') :
    (columns.observedAt ≤ clock ∧ clock - columns.observedAt ≤ maxEvidenceAge) ∧
      (∀ receipt ∈ db.terminalReceipts, receipt.receiptId ≠ receiptId ∧
        (receipt.accountSha256 = columns.accountSha256 →
          receipt.effectId ≠ columns.effectId ∧ receipt.tradeId ≠ columns.tradeId)) ∧
      db' = { db with terminalReceipts := db.terminalReceipts ++ [{
        columns with
        receiptId := receiptId
        payload := payload
        payloadSha256 := payloadSha256
        insertedAt := clock }] } := by
  unfold insertReceipt at ok
  obtain ⟨_, recent, ok⟩ := bind_eq_ok.1 ok
  obtain ⟨_, -, ok⟩ := bind_eq_ok.1 ok
  obtain ⟨_, keys, ok⟩ := bind_eq_ok.1 ok
  obtain ⟨_, -, ok⟩ := bind_eq_ok.1 ok
  cases ok
  rw [refuse_eq_ok, decide_eq_false_iff_not, not_or, not_lt, not_lt] at recent
  rw [refuse_eq_ok, List.any_eq_false] at keys
  refine ⟨recent, fun receipt mem => ?_, rfl⟩
  have distinct := keys receipt mem
  simp only [decide_eq_true_eq, not_or, not_and] at distinct
  exact distinct

theorem insertReceipt_committed {receiptId : ℕ} {columns payload : ReceiptColumns Digest}
    {payloadSha256 : Digest} {clock : Timestamp}
    (ok : insertReceipt db receiptId columns payload payloadSha256 clock = .ok db') :
    Committed db db' := by
  obtain ⟨-, keys, rfl⟩ := insertReceipt_ok ok
  exact .receipt _ fun receipt mem => (keys receipt mem).1

theorem acceptTerminalReceipt_ok {databaseUuid : ℕ} {context : ProductionContext Digest} {receiptId : ℕ}
    {receiptPayloadSha256 : Digest} {now clock : Timestamp} {returned : Acceptance}
    (ok : acceptTerminalReceipt p db databaseUuid context receiptId receiptPayloadSha256 now clock =
      .ok (db', returned)) :
    db' = db ∨ ∃ new, new.receiptId = receiptId ∧ insertRelease db new clock = .ok db' := by
  unfold acceptTerminalReceipt at ok
  obtain ⟨_, -, ok⟩ := bind_eq_ok.1 (unresolved_eq_ok.1 ok)
  unfold acceptReceipt at ok
  split at ok
  next existing found =>
    obtain ⟨_, -, ok⟩ := bind_eq_ok.1 ok
    cases ok
    exact .inl rfl
  next =>
    unfold acceptNew at ok
    obtain ⟨row, verified, ok⟩ := bind_eq_ok.1 ok
    obtain ⟨_, -, ok⟩ := bind_eq_ok.1 ok
    obtain ⟨economics, -, ok⟩ := bind_eq_ok.1 ok
    obtain ⟨inserted, released, ok⟩ := bind_eq_ok.1 ok
    cases ok
    refine .inr ⟨_, ?_, released⟩
    -- the receipt that was verified is the one that was asked for
    unfold verifyTerminalReceipt at verified
    obtain ⟨found, asked, verified⟩ := bind_eq_ok.1 verified
    have same : found = row := by
      obtain ⟨_, -, verified⟩ := bind_eq_ok.1 verified
      obtain ⟨_, -, verified⟩ := bind_eq_ok.1 verified
      obtain ⟨_, -, verified⟩ := bind_eq_ok.1 verified
      obtain ⟨_, -, verified⟩ := bind_eq_ok.1 verified
      obtain ⟨_, -, verified⟩ := bind_eq_ok.1 verified
      obtain ⟨_, -, verified⟩ := bind_eq_ok.1 verified
      obtain ⟨_, -, verified⟩ := bind_eq_ok.1 verified
      cases verified
      rfl
    have id := List.find?_some (required_eq_ok.1 asked)
    rw [← same]
    exact of_decide_eq_true id

/-- Whatever the transaction, it has changed no more than one table by one row. -/
theorem Call.committed {call : Call Digest} (ok : call.apply p db = .ok db') : Committed db db' := by
  cases call with
  | appendOwnerArm => exact appendOwnerArm_committed ok
  | appendOperatorObservation => exact appendOperatorObservation_committed ok
  | appendRiskDecision => exact appendRiskDecision_committed ok
  | claim row =>
    obtain ⟨claimed, -, same⟩ := map_eq_ok.1 ok
    rw [← same]
    exact .claim _
  | reserveEntry =>
    rcases reserveEntry_ok ok with ⟨-, rfl⟩ | ⟨_, _, -, -, -, -, reserved⟩
    · exact .kept
    rcases reserveRow_ok reserved with ⟨_, -, -, rfl⟩ | ⟨fresh, inserted⟩
    · exact .kept
    · exact .reservation _ _ fresh inserted
  | insertReceipt => exact insertReceipt_committed ok
  | acceptTerminalReceipt =>
    obtain ⟨⟨after, returned⟩, accepted, same⟩ := map_eq_ok.1 ok
    obtain rfl : after = db' := same
    rcases acceptTerminalReceipt_ok accepted with rfl | ⟨new, -, inserted⟩
    · exact .kept
    · exact .release new _ inserted

/-- What holds of a new database and is kept by every transaction holds along every run. -/
theorem Run.induction {P : Database Digest → Prop} (run : Run p db)
    (provisioned : ∀ schema databaseUuid accountSha256, P { schema, databaseUuid, accountSha256 })
    (committed : ∀ db db', P db → Committed db db' → P db') : P db := by
  induction run with
  | provisioned schema databaseUuid accountSha256 => exact provisioned schema databaseUuid accountSha256
  | committed run call ok ih => exact committed _ _ ih (Call.committed ok)

/-- The database after transactions that all commit. -/
def applyAll (p : Primitives Digest) (db : Database Digest) :
    List (Call Digest) → Except Err (Database Digest)
  | [] => .ok db
  | call :: calls => do
    let db' ← call.apply p db
    applyAll p db' calls

theorem Run.applyAll (run : Run p db) {calls : List (Call Digest)}
    (ok : Production.applyAll p db calls = .ok db') : Run p db' := by
  induction calls generalizing db with
  | nil =>
    cases ok
    exact run
  | cons call calls ih =>
    obtain ⟨next, applied, ok⟩ := bind_eq_ok.1 ok
    exact ih (run.committed call applied) ok

end Committed

section Samples

theorem dollar_nonneg : (0 : ℚ) ≤ 1 := by norm_num

theorem dollar_pos : (0 : ℚ) < 1 := by norm_num

/-- An entry of a request and an effect, one dollar of notional at a risk of one dollar. -/
def sampleEntryOf (requestId : String) (effectId : ℕ) : SigningEvidence ℕ :=
  let evidence := sampleEntry 1 1 dollar_nonneg dollar_pos
  { evidence with risk := { evidence.risk with signingRequestId := requestId, effectId := effectId } }

/-- The reservation of the entry, at eleven seconds. -/
def sampleReserve (requestId : String) (effectId : ℕ) : Call ℕ :=
  .reserveEntry sampleContext (seconds 5)
    { sampleRequest .newLimitOrder "limit" 30 with requestId := requestId } sampleBinding
    (sampleEntryOf requestId effectId) (seconds 11) (seconds 11)

/-- The latch is armed under an accepted arm, and the risk of an entry is decided and reserved. -/
def sampleCalls : List (Call ℕ) := [
  .appendOwnerArm sampleContext ⟨sampleArm, "key", "signed"⟩,
  .claim ⟨⟨.MANUAL_NONCE, "owner", "nonce"⟩, 15, 11⟩,
  .appendOperatorObservation sampleContext
    { sampleOperator with
      version := 1, state := .DISARMED, armNonce := none, armRequestSha256 := none,
      observedAt := seconds 1, changedAt := seconds 1, expiresAt := none, commandSha256 := 40,
      version_pos := by decide } (seconds 2) (seconds 2) (seconds 2),
  .appendOperatorObservation sampleContext sampleOperator (seconds 11) (seconds 11) (seconds 11),
  .appendRiskDecision sampleContext (sampleEntryOf "request" 20).risk,
  sampleReserve "request" 20]

/-- The database that they lead to from a new one. -/
def sampleDatabase (schema : StateSchema) : Database ℕ :=
  match applyAll samplePrimitives
    { schema, databaseUuid := 7, accountSha256 := 12 } sampleCalls with
  | .ok db => db
  | .error _ => { schema, databaseUuid := 7, accountSha256 := 12 }

theorem sampleDatabase_run (schema : StateSchema) : Run samplePrimitives (sampleDatabase schema) := by
  unfold sampleDatabase
  split
  next db ok => exact (Run.provisioned schema 7 12).applyAll ok
  next => exact .provisioned schema 7 12

end Samples

end KairosExecution.Production
