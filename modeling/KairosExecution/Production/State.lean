import KairosExecution.Production.Claims

/-! The tables of the production state, and the writers of owner arms, operator
observations and risk decisions. A writer's transaction is one step: it holds the
account's lock, reads, checks and inserts, and where anything raises the database stays
as it was. The append trigger of the operator table checks once more what it is given. -/

namespace KairosExecution.Production

open Python

variable {Digest : Type} [DecidableEq Digest]

/-- A row of `owner_arms`. -/
structure OwnerArmRow (Digest : Type) where
  contextSha256 : Digest
  requestSha256 : Digest
  ownerIdentity : String
  nonce : String
  observedAt : Timestamp
  payload : SignedManualArmRequest Digest
  payloadSha256 : Digest
  deriving DecidableEq

/-- A row of `operator_observations`. -/
structure OperatorRow (Digest : Type) where
  contextSha256 : Digest
  version : ℕ
  observedAt : Timestamp
  payload : LiveOperatorState Digest
  payloadSha256 : Digest
  insertedAt : Timestamp
  deriving DecidableEq

/-- A row of `risk_decisions`. -/
structure RiskRow (Digest : Type) where
  contextSha256 : Digest
  signingRequestId : String
  decisionId : String
  observedAt : Timestamp
  validUntil : Timestamp
  payload : RiskGeometry Digest
  payloadSha256 : Digest
  deriving DecidableEq

/-- A row of `risk_reservations`. -/
structure ReservationRow (Digest : Type) where
  contextSha256 : Digest
  accountSha256 : Digest
  effectId : Digest
  signingRequestId : String
  decisionId : String
  ownerArmSha256 : Digest
  observedAt : Timestamp
  riskUsd : ℚ
  notionalUsd : ℚ
  accountEquityUsd : ℚ
  dailyRealizedLossUsd : ℚ
  aggregateOpenRiskUsd : ℚ
  aggregateOpenNotionalUsd : ℚ
  dollarCap : ℚ
  dailyStopLossUsd : ℚ
  evidenceSha256 : Digest
  requestSha256 : Digest
  deriving DecidableEq

/-- A row of `terminal_receipts`. -/
structure ReceiptRow (Digest : Type) extends ReceiptColumns Digest where
  receiptId : ℕ
  payload : ReceiptColumns Digest
  payloadSha256 : Digest
  insertedAt : Timestamp
  deriving DecidableEq

/-- A row of `accepted_releases`. -/
structure ReleaseRow (Digest : Type) where
  receiptId : ℕ
  databaseUuid : ℕ
  contextSha256 : Digest
  accountSha256 : Digest
  effectId : Digest
  tradeId : String
  ownerArmSha256 : Digest
  reservationRequestSha256 : Digest
  receiptPayloadSha256 : Digest
  grossPnlUsd : ℚ
  feesUsd : ℚ
  fundingCostUsd : ℚ
  netPnlUsd : ℚ
  lossChargeUsd : ℚ
  settledAt : Timestamp
  deriving DecidableEq

/-- The state schema: `V2` keeps every reservation counted, `V3` joins the releases. -/
inductive StateSchema
  | V2 | V3
  deriving DecidableEq

/-- The database of one account, with the claims, the receipts and the releases that
transactions on it read. -/
structure Database (Digest : Type) where
  schema : StateSchema
  databaseUuid : ℕ
  accountSha256 : Digest
  ownerArms : List (OwnerArmRow Digest) := []
  operatorObservations : List (OperatorRow Digest) := []
  riskDecisions : List (RiskRow Digest) := []
  riskReservations : List (ReservationRow Digest) := []
  terminalReceipts : List (ReceiptRow Digest) := []
  acceptedReleases : List (ReleaseRow Digest) := []
  claims : List (ClaimRow Digest) := []
  deriving DecidableEq

section Writers

variable (p : Primitives Digest)

/-- `_account_scope_sha256` -/
def accountScopeSha256 (context : ProductionContext Digest) : Digest :=
  p.sha256 (.account "PROD" "EVEDEX" context.remoteAccountId)

/-- `inspect`, as far as it reads the identity row. -/
def inspect (db : Database Digest) (context : ProductionContext Digest) : Except Err Unit :=
  refuse (db.accountSha256 ≠ accountScopeSha256 p context)
    (.state "production state UUID/context/schema/role mismatch")

/-- `append_owner_arm_async` of the writer of a context. -/
def appendOwnerArm (db : Database Digest) (context : ProductionContext Digest)
    (signed : SignedManualArmRequest Digest) : Except Err (Database Digest) := do
  refuse (signed.request.context ≠ context) (.state "owner arm context differs from source scope")
  inspect p db context
  let row : OwnerArmRow Digest := {
    contextSha256 := p.sha256 (.context context)
    requestSha256 := p.sha256 (.arm signed.request)
    ownerIdentity := signed.request.ownerIdentity
    nonce := signed.request.nonce
    observedAt := signed.request.createdAt
    payload := signed
    payloadSha256 := p.sha256 (.signedArm signed) }
  refuse (db.ownerArms.any fun arm => arm.contextSha256 = row.contextSha256
      ∧ (arm.requestSha256 = row.requestSha256
        ∨ (arm.ownerIdentity = row.ownerIdentity ∧ arm.nonce = row.nonce)))
    (.database "23505")
  return { db with ownerArms := db.ownerArms ++ [row] }

/-- The observations of a context. -/
def Database.history (db : Database Digest) (contextSha256 : Digest) : List (OperatorRow Digest) :=
  db.operatorObservations.filter (·.contextSha256 = contextSha256)

/-- `ORDER BY observed_at DESC, inserted_at DESC` -/
def later (a b : OperatorRow Digest) : OperatorRow Digest :=
  if a.observedAt < b.observedAt ∨ (a.observedAt = b.observedAt ∧ a.insertedAt < b.insertedAt) then b
  else a

/-- `LIMIT 1` -/
def latest : List (OperatorRow Digest) → Option (OperatorRow Digest)
  | [] => none
  | row :: rows => some (rows.foldl later row)

/-- An arm that is in the table under its request and its nonce. -/
def armAccepted (db : Database Digest) (contextSha256 : Digest) (nonce : Option String)
    (requestSha256 : Option Digest) : Bool :=
  db.ownerArms.any fun arm => arm.contextSha256 = contextSha256
    ∧ some arm.requestSha256 = requestSha256 ∧ some arm.nonce = nonce

/-- An armed revision follows one that is not, is new, and has its arm. -/
def checkRearm (db : Database Digest) (new prior : OperatorRow Digest) : Except Err Unit := do
  refuse (prior.payload.state = .ARMED ∨ new.payload.armNonce = none
      ∨ new.payload.armRequestSha256 = none ∨ !(new.payload.expiresAt.any (new.observedAt < ·)))
    (.database "operator rearm requires a fresh signed owner arm")
  refuse ((db.history new.contextSha256).any fun row => row.payload.state = .ARMED
      ∧ row.payload.armNonce = new.payload.armNonce
      ∧ row.payload.armRequestSha256 = new.payload.armRequestSha256)
    (.database "operator rearm cannot reuse a prior owner nonce")
  refuse (!armAccepted db new.contextSha256 new.payload.armNonce new.payload.armRequestSha256)
    (.database "operator ARM lacks its exact signed owner request")

/-- The check of a revision that arms. -/
def rearmed (db : Database Digest) (new prior : OperatorRow Digest) : Except Err Unit :=
  if new.payload.state = .ARMED then checkRearm db new prior else .ok ()

/-- The payload apart from the time of the observation. -/
def undated (state : LiveOperatorState Digest) : LiveOperatorState Digest :=
  { state with observedAt := 0 }

/-- `enforce_operator_append`, after a prior observation. -/
def enforceRevision (db : Database Digest) (new prior : OperatorRow Digest) : Except Err Unit := do
  refuse (new.observedAt ≤ prior.observedAt)
    (.database "operator observation time must increase")
  if new.version = prior.version then
    refuse (undated new.payload ≠ undated prior.payload)
      (.database "operator command changed without a new revision")
  else do
    rearmed db new prior
    refuse (new.version ≠ prior.version + 1
        ∨ new.payload.previousCommandSha256 ≠ prior.payload.commandSha256
        ∨ new.payload.changedAt < prior.payload.changedAt)
      (.database "operator command revision/lineage is not contiguous")

/-- `enforce_operator_append`, by the clock of the database. -/
def enforceOperatorAppend (db : Database Digest) (new : OperatorRow Digest) (clock : Timestamp) :
    Except Err Unit := do
  refuse (clock ≤ new.observedAt) (.database "operator observation must precede database clock")
  match latest (db.history new.contextSha256) with
  | none =>
    refuse (new.payload.state ≠ .DISARMED) (.database "operator history must start DISARMED")
  | some prior => enforceRevision db new prior

/-- What the writer itself checks of a state against the latest one. -/
def continuesOperator (state : LiveOperatorState Digest) :
    Option (LiveOperatorState Digest) → Except Err Unit
  | none =>
    refuse (state.state ≠ .DISARMED)
      (.state "operator history must start with an explicit DISARMED state")
  | some prior => do
    refuse (state.observedAt ≤ prior.observedAt)
      (.state "operator observation time must increase monotonically")
    if state.version = prior.version then
      refuse (undated state ≠ undated prior)
        (.state "unchanged operator revision changed command state")
    else
      refuse (state.version ≠ prior.version + 1
          ∨ state.previousCommandSha256 ≠ prior.commandSha256 ∨ state.changedAt < prior.changedAt)
        (.state "operator command revision/lineage is not contiguous")

/-- `append_operator_observation_async` of the writer of a context, by the clock of the
database when it is read, when the trigger reads it and when the row is inserted. -/
def appendOperatorObservation (db : Database Digest) (context : ProductionContext Digest)
    (state : LiveOperatorState Digest) (dbNow clock insertedAt : Timestamp) :
    Except Err (Database Digest) := do
  refuse (state.context ≠ context) (.state "operator state context differs from source scope")
  inspect p db context
  let contextSha256 := p.sha256 (.context context)
  refuse (dbNow ≤ state.observedAt) (.state "operator observation is not before the database clock")
  continuesOperator state ((latest (db.history contextSha256)).map (·.payload))
  let row : OperatorRow Digest := {
    contextSha256 := contextSha256
    version := state.version
    observedAt := state.observedAt
    payload := state
    payloadSha256 := p.sha256 (.operator state)
    insertedAt := insertedAt }
  enforceOperatorAppend db row clock
  return { db with operatorObservations := db.operatorObservations ++ [row] }

/-- The decision of a request of a context. -/
def Database.riskDecision (db : Database Digest) (contextSha256 : Digest) (signingRequestId : String) :
    Option (RiskRow Digest) :=
  db.riskDecisions.find? fun row =>
    row.contextSha256 = contextSha256 ∧ row.signingRequestId = signingRequestId

/-- `append_risk_decision_async` of the writer of a context. -/
def appendRiskDecision (db : Database Digest) (context : ProductionContext Digest)
    (risk : RiskGeometry Digest) : Except Err (Database Digest) := do
  refuse (risk.context ≠ context) (.state "risk context differs from source scope")
  inspect p db context
  let row : RiskRow Digest := {
    contextSha256 := p.sha256 (.context context)
    signingRequestId := risk.signingRequestId
    decisionId := risk.decisionId
    observedAt := risk.observedAt
    validUntil := risk.validUntil
    payload := risk
    payloadSha256 := p.sha256 (.risk risk) }
  match db.riskDecision row.contextSha256 row.signingRequestId with
  | some existing =>
    if db.schema = .V3 then do
      refuse (existing.payloadSha256 ≠ row.payloadSha256
          ∨ p.sha256 (.risk existing.payload) ≠ row.payloadSha256 ∨ existing.payload ≠ risk)
        (.state "risk signing-request identity was rebound")
      return db
    else .error (.database "23505")
  | none => do
    refuse (¬(risk.observedAt < risk.validUntil ∧ risk.validUntil ≤ risk.observedAt + seconds 30))
      (.database "23514")
    return { db with riskDecisions := db.riskDecisions ++ [row] }

end Writers

end KairosExecution.Production
