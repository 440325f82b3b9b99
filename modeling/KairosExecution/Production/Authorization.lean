import KairosExecution.Production.Message

/-! The evaluator of signing authorization. The request, the custody binding and the
readiness context are of one scope; the owner's signed arm has an accepted nonce; the
risk decision is of this exact effect; and then an entry needs the operator's current
arm and the limits, an exit the exposure that it reduces or protects. -/

namespace KairosExecution.Production

open Python

variable {Digest : Type} [DecidableEq Digest]

/-- What `ProductionSigningAuthorizationVerifier` was set up with. -/
structure Verifier (Digest : Type) where
  preconditions : Preconditions Digest
  ownerKey : OwnerArmKey Digest
  ownerKeySha256 : Digest
  owner : String
  claimDatabaseUuid : ℕ
  armLifetime : ℤ
  maxAge : ℤ
  lifetime_range : 0 < armLifetime ∧ armLifetime ≤ seconds 600
  age_range : 0 < maxAge ∧ maxAge ≤ seconds 5
  uuid_pos : 0 < claimDatabaseUuid

/-- `reviewed_schema_sha256` -/
def reviewedSchemaSha256 (p : Primitives Digest) (chainId : ℕ) : Digest := p.sha256 (.schema chainId)

def validatedManualRequest (p : Primitives Digest) (request : ManualArmRequest Digest)
    (preconditions : Preconditions Digest) (expectedOwnerIdentity : String) (now : Timestamp)
    (maximumLifetime : ℤ) : Except Err (ManualArmRequest Digest) := do
  refuse (maximumLifetime ≤ 0) (.value "reviewed manual-arm lifetime must be positive")
  refuse (request.context ≠ preconditions.context
      ∨ request.preconditionsSha256 ≠ p.sha256 (.preconditions preconditions)
      ∨ request.ownerIdentity ≠ expectedOwnerIdentity
      ∨ request.ownerIdentity ≠ preconditions.ownerIdentity
      ∨ request.dollarCap ≠ preconditions.dollarCap
      ∨ request.dailyStopLossUsd ≠ preconditions.dailyStopLossUsd)
    (.value "manual-arm scope, readiness digest or owner mismatch")
  refuse (¬(preconditions.verifiedAt ≤ now ∧ now < preconditions.validUntil))
    (.value "preconditions are stale or future-dated")
  refuse (¬(request.createdAt ≤ now ∧ now < request.expiresAt
      ∧ request.expiresAt ≤ preconditions.validUntil))
    (.value "manual-arm request is stale, future-dated or beyond evidence validity")
  refuse (request.expiresAt - request.createdAt > maximumLifetime)
    (.value "manual-arm lifetime exceeds the reviewed bound")
  return request

def verifyOwnerSignedArm (p : Primitives Digest) (v : Verifier Digest)
    (signed : SignedManualArmRequest Digest) (now : Timestamp) :
    Except Err (ManualArmRequest Digest × Digest) := do
  refuse (p.sha256 (.ownerKey v.ownerKey) ≠ v.ownerKeySha256)
    (.value "owner signing key does not match the independently pinned policy")
  let request ← validatedManualRequest p signed.request v.preconditions v.owner now v.armLifetime
  refuse (v.ownerKey.ownerIdentity ≠ v.owner ∨ v.ownerKey.context ≠ request.context
      ∨ signed.keyId ≠ v.ownerKey.keyId
      ∨ ¬(v.ownerKey.validFrom ≤ request.createdAt ∧ request.createdAt < request.expiresAt
        ∧ request.expiresAt ≤ v.ownerKey.validUntil)
      ∨ ¬(v.ownerKey.validFrom ≤ now ∧ now < v.ownerKey.validUntil))
    (.value "owner signing key identity, scope or validity mismatch")
  refuse (!p.verifies v.ownerKey.publicKey signed.signature request)
    (.value "owner manual-arm signature verification failed")
  return (request, p.sha256 (.arm request))

def validateScope (p : Primitives Digest) (v : Verifier Digest)
    (request : ManagedSigningRequest Digest) (binding : CustodyBinding Digest) (now : Timestamp) :
    Except Err Unit := do
  refuse (request.context ≠ binding.context ∨ request.context ≠ v.preconditions.context)
    (.signing "authorization context differs from custody/readiness scope")
  refuse (request.custodyReceiptSha256 ≠ binding.custodyReceiptSha256
      ∨ binding.schemaSha256 ≠ reviewedSchemaSha256 p binding.chainId)
    (.signing "custody receipt or reviewed schema binding differs")
  refuse (¬(now < request.expiresAt ∧ request.expiresAt ≤ now + seconds 30))
    (.signing "signing request is expired or exceeds the deadline bound")

/-- A message field that is there equals what the risk decision has of it. -/
def matchesRisk (message : Record) (field : String) (risk : Value) : Bool :=
  match message.lookup field, risk with
  | none, _ => true
  | some (.int a), .int b => a = b
  | some (.str a), .str b => a = b
  | _, _ => false

/-- A number that the risk decision may lack. -/
def numberOf : Option ℕ → Value
  | none => .none
  | some n => .int n

/-- A text that the risk decision may lack. -/
def stringOf : Option String → Value
  | none => .none
  | some s => .str s

/-- The fields of the message that the risk decision sizes. -/
def sized (message : Record) (risk : RiskGeometry Digest) : Bool :=
  [("side", stringOf (risk.side.map Side.text)), ("quantity", .int risk.quantity),
    ("cashQuantity", numberOf risk.cashQuantity), ("limitPrice", numberOf risk.price),
    ("stopPrice", numberOf risk.stopPrice), ("order", stringOf risk.parentOrderId)].all
      fun field => matchesRisk message field.1 field.2

/-- The side that an exit has to carry: a protection the side that it protects, a direct
close the side that reduces. -/
def requiredSide (operation : SigningOperation) (exposure : ExposureSnapshot Digest) : Side :=
  if operation = .newTakeProfitStopLoss then exposure.positionSide else exposure.positionSide.opposite

/-- The side of an exit, where its message carries one. -/
def sideDiffers (message : Record) (required : Side) : Bool :=
  match message.get "side" with
  | .none => false
  | .str side => side ≠ required.text
  | _ => true

/-- The trigger of a protection. -/
def verifyTrigger (message : Record) (risk : RiskGeometry Digest) : Except Err Unit := do
  let type ← textOf message "type"
  let price ← intOf message "price"
  refuse (some type ≠ risk.protectionType ∨ some price ≠ risk.triggerPrice.map Int.ofNat
      ∨ type ∉ ["stop-loss", "take-profit"])
    (.signing "protective trigger type/price differs from risk authorization")

def verifyExit (evidence : SigningEvidence Digest) (request : ManagedSigningRequest Digest)
    (message : Record) (risk : RiskGeometry Digest) (expectedContext : ProductionContext Digest)
    (now : Timestamp) : Except Err Unit := do
  let exposure ← required
    (.signing "protective exit lacks current authoritative exposure lineage") evidence.exposure
  refuse (exposure.context ≠ expectedContext)
    (.signing "protective exit lacks current authoritative exposure lineage")
  refuse (exposure.validUntil ≤ now ∨ exposure.validUntil - exposure.observedAt > seconds 5)
    (.signing "protective exit exposure snapshot is stale")
  refuse (request.expiresAt > exposure.validUntil)
    (.signing "signing deadline extends beyond the exposure snapshot lease")
  refuse (exposure.observedAt > now ∨ now - exposure.observedAt > seconds 5)
    (.signing "protective exit exposure snapshot is stale")
  let instrument ← textOf message "instrument"
  refuse (exposure.instrument ≠ instrument)
    (.signing "exit instrument differs from authoritative exposure")
  refuse (risk.side ≠ some (requiredSide request.operation exposure)
      ∨ sideDiffers message (requiredSide request.operation exposure))
    (.signing (if request.operation = .newTakeProfitStopLoss
      then "protection side differs from the protected position side"
      else "exit side is not the reducing side for authoritative exposure"))
  let quantity ← intOf message "quantity"
  refuse (¬(request.operation = .newTakeProfitStopLoss ∧ quantity = 0)
      ∧ (quantity ≤ 0 ∨ exposure.remainingQuantity < quantity))
    (.signing "exit quantity exceeds remaining exposure")
  refuse (!matchesRisk message "order" (.str exposure.parentOrderId))
    (.signing "protective exit parent differs from authoritative exposure")
  refuse (risk.parentOrderId ≠ some exposure.parentOrderId)
    (.signing "risk decision parent differs from authoritative exposure")
  if risk.operation = SigningOperation.newTakeProfitStopLoss.text then verifyTrigger message risk
  else return ()

/-- The operator's latch, which an entry needs. -/
def verifyOperator (p : Primitives Digest) (operator : LiveOperatorState Digest)
    (arm : ManualArmRequest Digest) (expectedContext : ProductionContext Digest)
    (requestExpiresAt now : Timestamp) : Except Err Unit := do
  refuse (operator.context ≠ expectedContext ∨ operator.version = 0)
    (.signing "operator state scope or version is invalid")
  let expiresAt ← required (.signing "fresh deployed operator state is not armed") operator.expiresAt
  refuse (operator.state ≠ .ARMED ∨ expiresAt ≤ now)
    (.signing "fresh deployed operator state is not armed")
  refuse (operator.armNonce ≠ some arm.nonce ∨ operator.armRequestSha256 ≠ some (p.sha256 (.arm arm)))
    (.signing "operator ARM is not bound to this accepted owner request")
  refuse (requestExpiresAt > expiresAt)
    (.signing "signing deadline extends beyond the operator ARM lease")

/-- The dollars that a message moves, as the decimal context computes them. -/
def orderNotional (p : Primitives Digest) (message : Record) : Except Err ℚ :=
  if message.has "cashQuantity" then do
    let cash ← intOf message "cashQuantity"
    return p.round (cash / 10 ^ 8)
  else if message.has "quantity" ∧ (message.has "limitPrice" ∨ message.has "price") then do
    let price ← instead (.signing "typed order lacks an exact authoritative price")
      (intOf message (if message.has "limitPrice" then "limitPrice" else "price"))
    let quantity ← intOf message "quantity"
    return p.round (p.round (quantity * price) / 10 ^ 16)
  else return 0

/-- The limits of an entry, as the decimal context computes them. -/
def exceedsLimits (p : Primitives Digest) (risk : RiskGeometry Digest) (arm : ManualArmRequest Digest)
    (notional : ℚ) : Bool :=
  risk.worstCaseLossUsd > arm.dollarCap
    ∨ p.round (risk.dailyRealizedLossUsd + risk.worstCaseLossUsd) > arm.dailyStopLossUsd
    ∨ risk.worstCaseLossUsd > p.round (risk.accountEquityUsd * (25 / 10_000))
    ∨ p.round (risk.aggregateOpenRiskUsd + risk.worstCaseLossUsd)
        > p.round (risk.accountEquityUsd * (1 / 100))
    ∨ p.round (risk.aggregateOpenNotionalUsd + notional) > arm.dollarCap
    ∨ risk.leverage ≠ 1

/-- The evidence whose age the evaluator bounds: when it was resolved, the risk decision,
and for an entry the operator's observation. -/
def freshness (request : ManagedSigningRequest Digest) (evidence : SigningEvidence Digest) :
    Except Err (List Timestamp) :=
  if request.operation.exit then .ok [evidence.resolvedAt, evidence.risk.observedAt]
  else do
    let operator ← required (.signing "fresh deployed operator state is unavailable") evidence.operator
    return [evidence.resolvedAt, evidence.risk.observedAt, operator.observedAt]

/-- The part of an exit or of an entry. -/
def verifyDirection (p : Primitives Digest) (request : ManagedSigningRequest Digest)
    (binding : CustodyBinding Digest) (evidence : SigningEvidence Digest)
    (arm : ManualArmRequest Digest) (message : Record) (now : Timestamp) : Except Err Unit :=
  if request.operation.exit then verifyExit evidence request message evidence.risk binding.context now
  else do
    let operator ← required (.signing "fresh deployed operator state is unavailable") evidence.operator
    verifyOperator p operator arm binding.context request.expiresAt now

def verifyEvidence (p : Primitives Digest) (v : Verifier Digest)
    (request : ManagedSigningRequest Digest) (binding : CustodyBinding Digest)
    (evidence : SigningEvidence Digest) (now : Timestamp) : Except Err Unit := do
  let claim := evidence.ownerNonceClaim
  let risk := evidence.risk
  let (arm, armDigest) ← instead
    (.signing "owner arm or authoritative authorization state is unavailable")
    (verifyOwnerSignedArm p v evidence.ownerArm (if request.operation.exit then claim.claimedAt else now))
  refuse (request.manualRequestSha256 ≠ armDigest ∨ claim.ownerIdentity ≠ arm.ownerIdentity
      ∨ claim.nonce ≠ arm.nonce ∨ claim.requestSha256 ≠ armDigest
      ∨ claim.contextSha256 ≠ p.sha256 (.context arm.context) ∨ claim.claimedAt > now
      ∨ claim.claimedAt < arm.createdAt ∨ claim.databaseUuid ≠ v.claimDatabaseUuid)
    (.signing "owner arm has no exact accepted durable nonce claim")
  let message ← instead (.signing "typed order geometry cannot be authorized")
    (typedMessage p request binding)
  refuse (risk.signingRequestId ≠ request.requestId
      ∨ risk.effectId ≠ signingEffectId p request message risk.decisionId
      ∨ !(match message.get "id", risk.clientOrderId with
        | .none, none => true
        | .str id, some clientOrderId => id = clientOrderId
        | _, _ => false))
    (.signing "risk decision is not bound to this exact order/request effect")
  let ages ← freshness request evidence
  refuse (ages.any fun value => value > now ∨ now - value > v.maxAge)
    (.signing "operator or risk evidence is stale or future-dated")
  refuse (risk.context ≠ binding.context ∨ risk.validUntil ≤ now
      ∨ risk.validUntil - risk.observedAt > seconds 30)
    (.signing "risk authorization is stale or outside its fixed validity bound")
  refuse (request.expiresAt > risk.validUntil)
    (.signing "signing deadline extends beyond the risk authorization lease")
  let instrument ← textOf message "instrument"
  refuse (risk.operation ≠ request.operation.text ∨ risk.instrument ≠ instrument)
    (.signing "risk decision operation/instrument differs from typed order")
  refuse (!sized message risk)
    (.signing "typed order geometry differs from authoritative risk sizing")
  verifyDirection p request binding evidence arm message now
  let notional ← orderNotional p message
  refuse (!request.operation.exit ∧ exceedsLimits p risk arm notional)
    (.signing "owner or fixed per-trade/aggregate risk limit is exceeded")

/-- The two checks, in the order and by the one clock that every caller runs them. -/
def authorize (p : Primitives Digest) (v : Verifier Digest) (request : ManagedSigningRequest Digest)
    (binding : CustodyBinding Digest) (evidence : SigningEvidence Digest) (now : Timestamp) :
    Except Err Unit := do
  validateScope p v request binding now
  verifyEvidence p v request binding evidence now

end KairosExecution.Production
