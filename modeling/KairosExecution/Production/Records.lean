import KairosExecution.Python.Value

/-! The strict records of the production boundary: the context, the signed owner arm and
its key, the accepted nonce, the operator's latch, the risk decision, the exposure, the
custody binding and the signing request. Times are microseconds, amounts decimals. A
digest is a value of an arbitrary type; which content it is the digest of is kept by
kind. Fields that no modelled function reads are left out. -/

namespace KairosExecution.Production

open Python

/-- What a call of the production boundary raises. -/
inductive Err
  | value (message : String)
  | type (message : String)
  | signing (message : String)
  | state (message : String)
  | accounting (message : String)
  | reconciliation (message : String)
  | exitRisk (message : String)
  | claim (message : String)
  | dispatch (message : String)
  | cancellation (message : String)
  | transport (message : String)
  | database (message : String)
  | timeout
  | cancelled
  deriving DecidableEq

/-- `if condition: raise error` -/
def refuse (condition : Bool) (error : Err) : Except Err Unit :=
  if condition then .error error else .ok ()

@[simp] theorem refuse_eq_ok {condition : Bool} {error : Err} {u : Unit} :
    refuse condition error = .ok u ↔ condition = false := by
  cases condition <;> simp [refuse]

@[simp] theorem refuse_eq_error {condition : Bool} {error e : Err} :
    refuse condition error = .error e ↔ condition = true ∧ error = e := by
  cases condition <;> simp [refuse]

/-- A check that passes leaves what is after it. -/
theorem refuse_bind {α : Type} {condition : Bool} {error : Err} {f : Unit → Except Err α}
    (passed : condition = false) : (refuse condition error >>= f) = f () := by
  rw [passed]
  rfl

/-- `except Exception: raise error` -/
def instead {α : Type} (error : Err) : Except Err α → Except Err α
  | .ok a => .ok a
  | .error _ => .error error

@[simp] theorem instead_eq_ok {α : Type} {error : Err} {x : Except Err α} {a : α} :
    instead error x = .ok a ↔ x = .ok a := by
  cases x <;> simp [instead]

/-- What must be there. -/
def required {α : Type} (error : Err) : Option α → Except Err α
  | none => .error error
  | some a => .ok a

@[simp] theorem required_eq_ok {α : Type} {error : Err} {x : Option α} {a : α} :
    required error x = .ok a ↔ x = some a := by
  cases x <;> simp [required]

@[simp] theorem required_eq_error {α : Type} {error e : Err} {x : Option α} :
    required error x = .error e ↔ x = none ∧ error = e := by
  cases x <;> simp [required]

/-- UTC, in microseconds. -/
abbrev Timestamp := ℤ

/-- `timedelta(seconds=n)` -/
abbrev seconds (n : ℤ) : ℤ := n * 1_000_000

variable {Digest : Type}

/-- `ProductionContextV1` -/
structure ProductionContext (Digest : Type) where
  remoteAccountId : String
  adaptiveSystemId : String
  frozenPolicySha256 : Digest
  sourceSetSha256 : Digest
  deriving DecidableEq

/-- `PreconditionsV1` -/
structure Preconditions (Digest : Type) where
  context : ProductionContext Digest
  evidenceSha256 : Digest
  verifiedAt : Timestamp
  validUntil : Timestamp
  ownerIdentity : String
  dollarCap : ℚ
  dailyStopLossUsd : ℚ
  deriving DecidableEq

/-- `ManualArmRequestV1` -/
structure ManualArmRequest (Digest : Type) where
  context : ProductionContext Digest
  preconditionsSha256 : Digest
  nonce : String
  ownerIdentity : String
  createdAt : Timestamp
  expiresAt : Timestamp
  dollarCap : ℚ
  dailyStopLossUsd : ℚ
  cap_pos : 0 < dollarCap
  stop_pos : 0 < dailyStopLossUsd
  interval : createdAt < expiresAt
  stop_le : dailyStopLossUsd ≤ dollarCap
  deriving DecidableEq

/-- `OwnerArmKeyV1` -/
structure OwnerArmKey (Digest : Type) where
  ownerIdentity : String
  keyId : String
  publicKey : String
  context : ProductionContext Digest
  validFrom : Timestamp
  validUntil : Timestamp
  interval : validFrom < validUntil
  deriving DecidableEq

/-- `SignedManualArmRequestV1` -/
structure SignedManualArmRequest (Digest : Type) where
  request : ManualArmRequest Digest
  keyId : String
  signature : String
  deriving DecidableEq

/-- `AcceptedManualNonceV1` -/
structure AcceptedManualNonce (Digest : Type) where
  ownerIdentity : String
  nonce : String
  requestSha256 : Digest
  contextSha256 : Digest
  databaseUuid : ℕ
  claimedAt : Timestamp
  deriving DecidableEq

inductive Latch
  | ARMED | DISARMED | KILLED
  deriving DecidableEq

/-- `LiveOperatorStateV1` -/
structure LiveOperatorState (Digest : Type) where
  context : ProductionContext Digest
  version : ℕ
  state : Latch
  armNonce : Option String
  armRequestSha256 : Option Digest
  observedAt : Timestamp
  changedAt : Timestamp
  expiresAt : Option Timestamp
  commandSha256 : Digest
  previousCommandSha256 : Digest
  version_pos : 0 < version
  deriving DecidableEq

inductive Side
  | BUY | SELL
  deriving DecidableEq

/-- The side as a message carries it. -/
def Side.text : Side → String
  | .BUY => "BUY"
  | .SELL => "SELL"

/-- The other side. -/
def Side.opposite : Side → Side
  | .BUY => .SELL
  | .SELL => .BUY

inductive SigningOperation
  | newLimitOrder | newMarketOrder | newStopLimitOrder | positionCloseOrder | newTakeProfitStopLoss
  deriving DecidableEq

def SigningOperation.text : SigningOperation → String
  | .newLimitOrder => "New limit order"
  | .newMarketOrder => "New market order"
  | .newStopLimitOrder => "New stop-limit order"
  | .positionCloseOrder => "Position close order"
  | .newTakeProfitStopLoss => "New take-profit/stop-loss"

/-- `{"Position close order", "New take-profit/stop-loss"}` -/
def SigningOperation.exit : SigningOperation → Bool
  | .positionCloseOrder | .newTakeProfitStopLoss => true
  | _ => false

/-- `RiskGeometryV1`, which is approved by its type. -/
structure RiskGeometry (Digest : Type) where
  context : ProductionContext Digest
  decisionId : String
  signingRequestId : String
  effectId : Digest
  clientOrderId : Option String
  operation : String
  instrument : String
  side : Option Side
  quantity : ℕ
  cashQuantity : Option ℕ
  price : Option ℕ
  stopPrice : Option ℕ
  protectionType : Option String
  triggerPrice : Option ℕ
  parentOrderId : Option String
  leverage : ℕ
  worstCaseLossUsd : ℚ
  accountEquityUsd : ℚ
  dailyRealizedLossUsd : ℚ
  aggregateOpenRiskUsd : ℚ
  aggregateOpenNotionalUsd : ℚ
  observedAt : Timestamp
  validUntil : Timestamp
  leverage_one : leverage = 1
  loss_pos : 0 < worstCaseLossUsd
  equity_pos : 0 < accountEquityUsd
  daily_nonneg : 0 ≤ dailyRealizedLossUsd
  risk_nonneg : 0 ≤ aggregateOpenRiskUsd
  notional_nonneg : 0 ≤ aggregateOpenNotionalUsd
  deriving DecidableEq

/-- `ExposureSnapshotV1` -/
structure ExposureSnapshot (Digest : Type) where
  context : ProductionContext Digest
  instrument : String
  positionSide : Side
  remainingQuantity : ℕ
  parentOrderId : String
  observedAt : Timestamp
  validUntil : Timestamp
  remaining_pos : 0 < remainingQuantity
  deriving DecidableEq

/-- `ProductionSigningEvidenceV1` -/
structure SigningEvidence (Digest : Type) where
  ownerArm : SignedManualArmRequest Digest
  ownerNonceClaim : AcceptedManualNonce Digest
  operator : Option (LiveOperatorState Digest)
  risk : RiskGeometry Digest
  exposure : Option (ExposureSnapshot Digest)
  resolvedAt : Timestamp
  deriving DecidableEq

/-- `CustodyBindingV1` -/
structure CustodyBinding (Digest : Type) where
  context : ProductionContext Digest
  custodyReference : String
  walletAddress : String
  chainId : ℕ
  schemaSha256 : Digest
  approvedInstruments : List String
  custodyReceiptSha256 : Digest
  deriving DecidableEq

/-- `ManagedSigningRequestV1` -/
structure ManagedSigningRequest (Digest : Type) where
  requestId : String
  context : ProductionContext Digest
  manualRequestSha256 : Digest
  custodyReceiptSha256 : Digest
  operation : SigningOperation
  messageJson : String
  expiresAt : Timestamp
  deriving DecidableEq

/-- The columns of `terminal_receipts` of which the payload is the JSON. -/
structure ReceiptColumns (Digest : Type) where
  databaseUuid : ℕ
  contextSha256 : Digest
  accountSha256 : Digest
  tradeId : String
  decisionId : String
  effectId : Digest
  signingRequestId : String
  clientOrderId : String
  entryFilledQuantity : ℚ
  closedQuantity : ℚ
  entryNotionalUsd : ℚ
  exitNotionalUsd : ℚ
  entryFeesUsd : ℚ
  exitFeesUsd : ℚ
  venueComplete : Bool
  venueTerminal : Bool
  collectionStartedAt : Timestamp
  collectionFinishedAt : Timestamp
  observedAt : Timestamp
  residualPositionQuantity : ℚ
  residualOrderCount : ℕ
  residualProtectionCount : ℕ
  entrySide : Side
  fundingCostUsd : ℚ
  fundingComplete : Bool
  settledAt : Timestamp
  ownerArmSha256 : Digest
  reservationRequestSha256 : Digest
  unownedExposureCount : ℕ
  deriving DecidableEq

inductive WireEffectType
  | PLACE_ORDER | CLOSE_POSITION | PROTECTIVE_STOP
  deriving DecidableEq

/-- The record of a wire claim. -/
structure WireClaimRecord (Digest : Type) where
  contextSha256 : Digest
  databaseUuid : ℕ
  effectId : String
  effectType : WireEffectType
  method : String
  path : String
  bodySha256 : Digest
  signingRequestSha256 : Digest
  signingSignatureSha256 : Digest
  expiresAt : Timestamp
  deriving DecidableEq

/-- What is hashed, by kind. -/
inductive Content (Digest : Type)
  | context (context : ProductionContext Digest)
  | account (environment exchange remoteAccountId : String)
  | preconditions (preconditions : Preconditions Digest)
  | ownerKey (key : OwnerArmKey Digest)
  | arm (request : ManualArmRequest Digest)
  | signedArm (arm : SignedManualArmRequest Digest)
  | operator (state : LiveOperatorState Digest)
  | risk (risk : RiskGeometry Digest)
  | schema (chainId : ℕ)
  | effect (contextSha256 : Digest) (requestId decisionId : String) (operation : SigningOperation)
      (message : Record)
  | reservation (request : ManagedSigningRequest Digest) (binding : CustodyBinding Digest)
      (riskSha256 armSha256 effectId : Digest)
  | receipt (payload : ReceiptColumns Digest)
  | signing (request : ManagedSigningRequest Digest) (message : Record)
  | signature (text : String)
  | body (body : Record)
  | wire (record : WireClaimRecord Digest)
  | response (response : Record)

/-- What the boundary takes from elsewhere: SHA-256 of canonical JSON and its hexadecimal
text, the canonical JSON of an object (none where it has none), `str.casefold`, `json.loads`
with duplicate keys refused, Ed25519 under the owner's domain, and the rounding of the
decimal context, which is applied to every result. -/
structure Primitives (Digest : Type) where
  sha256 : Content Digest → Digest
  hex : Digest → String
  canonical : Record → Option String
  casefold : String → String
  loads : String → Option Value
  verifies : String → String → ManualArmRequest Digest → Bool
  round : ℚ → ℚ

end KairosExecution.Production
