import KairosExecution.Python.Value

/-! The data of the PAPER engine: the approved Risk decision, the durable trade and
effect rows, the public lifecycle facts, and the immutable lifecycle scope. Of the
contracts only the fields that the engine reads are kept. Times are microseconds
since the epoch where the source has a `datetime`, and milliseconds where the field
says so. `TradeLifecycleState` has the values of `TradeState` and is not repeated. -/

namespace KairosExecution.Paper

open Python

/-- An exception: the engine's own `PaperExecutionSafetyError`, or another by its
type name. A cancelled task is no exception here; its events simply stop. -/
inductive Err
  | safety (message : String)
  | raised (kind message : String)
  deriving DecidableEq

/-- `type(exc).__name__` -/
def Err.typeName : Err → String
  | .safety _ => "PaperExecutionSafetyError"
  | .raised kind _ => kind

/-- `f"{type(exc).__name__}: {exc}"` -/
def Err.described : Err → String
  | .safety message => "PaperExecutionSafetyError: " ++ message
  | .raised kind message => kind ++ ": " ++ message

/-- `if condition: raise PaperExecutionSafetyError(message)` -/
def refuse (condition : Bool) (message : String) : Except Err Unit :=
  if condition then .error (.safety message) else .ok ()

@[simp] theorem refuse_eq_ok {condition : Bool} {message : String} {u : Unit} :
    refuse condition message = .ok u ↔ condition = false := by
  cases condition <;> simp [refuse]

inductive Side
  | LONG | SHORT
  deriving DecidableEq

inductive OrderSide
  | BUY | SELL
  deriving DecidableEq

def OrderSide.value : OrderSide → String
  | .BUY => "BUY"
  | .SELL => "SELL"

inductive OrderRole
  | ENTRY | STOP_LOSS | TAKE_PROFIT | TIMEOUT_EXIT | EMERGENCY_EXIT
  deriving DecidableEq

def OrderRole.value : OrderRole → String
  | .ENTRY => "ENTRY"
  | .STOP_LOSS => "STOP_LOSS"
  | .TAKE_PROFIT => "TAKE_PROFIT"
  | .TIMEOUT_EXIT => "TIMEOUT_EXIT"
  | .EMERGENCY_EXIT => "EMERGENCY_EXIT"

inductive ExitReason
  | STOP | TARGET | TIMEOUT | EMERGENCY
  deriving DecidableEq

def ExitReason.value : ExitReason → String
  | .STOP => "STOP"
  | .TARGET => "TARGET"
  | .TIMEOUT => "TIMEOUT"
  | .EMERGENCY => "EMERGENCY"

inductive TradeState
  | RECEIVED | ENTRY_PENDING | PROTECTING | ACTIVE | EXITING_STOP | EXITING_TARGET
  | EXITING_TIMEOUT | EXITING_EMERGENCY | FLAT | CANCELLED | FAILED_BLOCKED
  deriving DecidableEq

def TradeState.value : TradeState → String
  | .RECEIVED => "RECEIVED"
  | .ENTRY_PENDING => "ENTRY_PENDING"
  | .PROTECTING => "PROTECTING"
  | .ACTIVE => "ACTIVE"
  | .EXITING_STOP => "EXITING_STOP"
  | .EXITING_TARGET => "EXITING_TARGET"
  | .EXITING_TIMEOUT => "EXITING_TIMEOUT"
  | .EXITING_EMERGENCY => "EXITING_EMERGENCY"
  | .FLAT => "FLAT"
  | .CANCELLED => "CANCELLED"
  | .FAILED_BLOCKED => "FAILED_BLOCKED"

/-- `trade.state in {TradeState.FLAT, TradeState.CANCELLED}` -/
def TradeState.terminal : TradeState → Bool
  | .FLAT | .CANCELLED => true
  | _ => false

inductive EventType
  | DECISION_RECEIVED | RECONCILIATION | VENUE_ACK | ENTRY_FILLED | ENTRY_PARTIAL_FILL
  | ENTRY_CANCELLED | STOP_CREATED | STOP_RECONCILED | TARGET_CREATED | TARGET_RECONCILED
  | EXIT_TRIGGERED | EXIT_FILLED | EMERGENCY_CLOSE | FAILED
  deriving DecidableEq

inductive EffectStatus
  | PREPARED | CONFIRMED | RECONCILED | FAILED
  deriving DecidableEq

/-- `effect.status in {EffectStatus.PREPARED, EffectStatus.FAILED}` -/
def EffectStatus.unresolved : EffectStatus → Bool
  | .PREPARED | .FAILED => true
  | _ => false

inductive EffectType
  | PLACE_ORDER | PROTECTIVE_STOP | TAKE_PROFIT | CANCEL_ORDER | CANCEL_TPSL
  | CLOSE_POSITION | TIMEOUT_CLOSE | EMERGENCY_CLOSE | other (value : String)
  deriving DecidableEq

/-- The operations of a trade that reach the venue, as the effect identity names them. -/
inductive Operation
  | place | create | close | cancel
  deriving DecidableEq

structure Evidence where
  kind : String
  contentSha256 : String
  observedAtMs : ℤ
  reference : String
  deriving DecidableEq

structure Intent where
  intentId : Option String
  messageId : Option String
  source : String
  strategyId : String
  strategyRevision : String
  symbol : String
  side : Side
  decisionTsMs : ℤ
  entryEligibleTsMs : ℤ
  entryExpiresTsMs : ℤ
  signalStrength : ℚ
  metadata : List (String × String)
  evidence : List Evidence
  inputBarSha256s : List String
  deriving DecidableEq

structure Route where
  source : String
  messageId : Option String
  correlationId : Option String
  causationId : Option String
  intent : Intent
  /-- `review_tier is CandidateReviewTier.NORMAL` -/
  normalTier : Bool
  /-- `requested_reasoning_effort is ReasoningEffort.MEDIUM` -/
  mediumEffort : Bool
  conflictRationale : Option String
  routedAtMs : ℤ
  reviewDeadlineMs : ℤ
  evidenceIds : List String
  deriving DecidableEq

structure Review where
  source : String
  reviewId : Option String
  messageId : Option String
  correlationId : Option String
  causationId : Option String
  /-- `decision is ReviewDecision.ALLOW` -/
  allow : Bool
  reviewer : String
  modelProvenance : Option String
  reasonCodes : List String
  priority : ℤ
  reviewedAtMs : ℤ
  evidence : List Evidence
  route : Route
  deriving DecidableEq

structure ExitPlan where
  stopPrice : ℚ
  targetPrice : ℚ
  maxHoldingMs : ℤ
  deriving DecidableEq

structure VenueQuality where
  expiresAtMs : ℤ
  bookTimestampMs : ℤ
  assessedNotionalUsd : ℚ
  deriving DecidableEq

/-- `RiskTradeDecisionV1` -/
structure Decision where
  approved : Bool
  rejectionReasons : List String
  /-- `trading_mode is TradingMode.PAPER` -/
  paperMode : Bool
  /-- `evedex_profile is EvedexProfile.DEV` -/
  devProfile : Bool
  accountId : String
  venueSymbol : String
  tradeId : Option String
  decisionId : Option String
  decidedAtMs : ℤ
  /-- `entry_policy is EntryPolicy.NEXT_BAR_MARKET` -/
  nextBarMarket : Bool
  quantity : ℚ
  leverage : ℚ
  notionalUsd : ℚ
  worstCaseLossUsd : ℚ
  estimatedFeesUsd : ℚ
  estimatedSlippageUsd : ℚ
  worstEntryPrice : ℚ
  intent : Intent
  exitPlan : ExitPlan
  venueQuality : VenueQuality
  review : Review
  deriving DecidableEq

/-- `NewTrade`: the terms a trade is created with. -/
structure NewTrade where
  tradeId : String
  strategyIntentId : String
  riskDecisionId : String
  riskDecisionPayload : Record
  strategyId : String
  strategyRevision : String
  environment : String
  exchange : String
  accountId : String
  symbol : String
  venueSymbol : String
  side : OrderSide
  quantity : ℚ
  leverage : ℚ
  stopPrice : ℚ
  targetPrice : ℚ
  entryEligibleAt : ℤ
  entryExpiresAt : ℤ
  maxHoldingMs : ℤ
  entryClientOrderId : String

/-- `TradeRecord`: the terms and the durable lifecycle of one trade. -/
structure TradeRecord extends NewTrade where
  state : TradeState
  stateVersion : ℕ
  filledQuantity : ℚ
  timeoutAt : Option ℤ
  entryExchangeOrderId : Option String
  stopClientOrderId : Option String
  stopExchangeOrderId : Option String
  targetClientOrderId : Option String
  targetExchangeOrderId : Option String
  closeClientOrderId : Option String
  closeExchangeOrderId : Option String

/-- `ExecutionEffect`: one row of the effect journal. -/
structure ExecutionEffect where
  effectKey : String
  effectType : EffectType
  status : EffectStatus
  symbol : String
  clientOrderId : Option String
  exchangeEffectId : Option String
  requestPayload : Record
  responsePayload : Option Record
  tradeId : Option String
  accountId : String
  environment : String
  orderRole : Option OrderRole
  error : Option String

/-- `EffectPreparation`: the row of a prepared effect, and whether this call made it. -/
structure EffectPreparation where
  effect : ExecutionEffect
  created : Bool

/-- The identity a public fact is keyed by, and the values it reports. -/
structure FactIdentity where
  eventType : EventType
  lifecycleState : TradeState
  effectId : Option String
  orderRole : Option OrderRole
  clientOrderId : Option String
  exchangeOrderId : Option String
  requestedQuantity : ℚ
  filledQuantity : ℚ
  positionQuantity : ℚ
  averagePrice : Option ℚ
  feeUsd : ℚ
  exitReason : Option ExitReason
  details : List (String × String)

/-- A public fact before the journal gives it its place in the sequence. -/
structure FactBody extends FactIdentity where
  occurredAtMs : ℤ
  accountId : String
  venueSymbol : String
  strategyId : String
  strategyRevision : String
  intentId : String
  riskDecisionId : String
  tradeId : String
  telemetry : List (String × String)

/-- `TradeExecutionEventV1`, one public lifecycle fact. -/
structure ExecutionEvent extends FactBody where
  eventId : String
  eventSeq : ℕ

/-- The `build` callback of a fact: replay the stored one, or make it from its body. -/
inductive FactBuild
  | replay (stored : ExecutionEvent)
  | fresh (body : FactBody)

structure TradeMutationResult where
  trade : TradeRecord
  event : ExecutionEvent

structure VenueTriggeredExit where
  role : OrderRole
  reason : ExitReason
  targetState : TradeState
  protectionId : String
  triggerOrderId : String
  triggerOrder : Record
  filledQuantity : ℚ
  averagePrice : ℚ
  feeUsd : ℚ

/-- The instrument rule that Risk binds into the intent, as the digest reads it. -/
structure CanaryRule where
  fields : List (String × String)
  updatedAtMs : ℤ
  deriving DecidableEq

/-- `ExecutionLifecycleScope` -/
structure LifecycleScope where
  environment : String
  accountId : String
  remoteEnvironment : String
  remoteAccountId : Option String
  exchange : String
  symbolMap : List (String × String)

/-- What the engine takes from outside its repository: the lifecycle scope, text and
number formatting, and the pure functions of the shared contracts package. -/
structure Env where
  lib : Lib
  scope : LifecycleScope
  /-- `self.adapter.name` -/
  adapterName : String
  /-- `RiskTradeDecisionV1.model_validate(payload)`, `none` where it raises -/
  modelValidate : Record → Option Decision
  /-- `decision.to_payload()` -/
  toPayload : Decision → Record
  /-- Validating a payload gives back the decision that it was made from, if anything. -/
  validated_payload : ∀ decision other,
    modelValidate (toPayload decision) = some other → other = decision
  /-- the sha256 identity of an effect -/
  effectId : String → OrderRole → Operation → String
  /-- `client_order_id` of a trade's role at a time in milliseconds -/
  clientId : String → OrderRole → ℤ → String
  /-- the key of a public fact -/
  factKey : FactIdentity → String
  /-- `type(exc).__name__` of the scope that failed to load, if it did -/
  canaryScopeError : Option String
  /-- `canonical_sha256` of an instrument rule -/
  ruleSha256 : CanaryRule → String

/-- `self._lifecycle_scope.symbol_map[symbol]` -/
def Env.symbolMap (env : Env) (symbol : String) : Except Err String :=
  match env.scope.symbolMap.lookup symbol with
  | some venueSymbol => .ok venueSymbol
  | none => .error (.raised "KeyError" symbol)

/-- `self._from_ms(value)` -/
def fromMs (value : ℤ) : ℤ := value * 1000

/-- `OrderSide.BUY if decision.intent.side is Side.LONG else OrderSide.SELL` -/
def orderSide (decision : Decision) : OrderSide :=
  if decision.intent.side = .LONG then .BUY else .SELL

end KairosExecution.Paper
