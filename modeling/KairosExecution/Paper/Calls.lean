import KairosExecution.Interactive.Duty
import KairosExecution.Paper.Decision

/-! Everything the engine asks of the world: its own attributes, the clock, the venue
adapter, the trade and effect repositories, the locks, the mutation budget, the health
ledger and the entry controls. The five venue mutations are one kind of call, told
apart by `Mutation`. A repository answers a request about one trade with a record of
that trade, and a transition with the trade in its target state; nothing else is assumed
of any answer. -/

namespace KairosExecution.Paper

open Python Interactive Interactive.Program

/-- The scope under which the repositories keep an account. -/
structure AccountScope where
  environment : String
  accountId : String
  exchange : String

inductive Lock
  | lifecycle
  | account (scope : AccountScope)
  | trade (tradeId : String)
  | effectRecovery (effectKey : String)

/-- The adapter's mutating calls. -/
inductive Mutation
  | placeLimit (effectId clientOrderId symbol : String) (side : OrderSide)
      (quantity limitPrice leverage : ℚ)
  | createTpsl (effectId symbol : String) (side : OrderSide) (tpslType : String)
      (quantity price : ℚ) (parentOrderId : String)
  | paperClosePosition (effectId clientOrderId symbol : String) (quantity leverage : ℚ)
  | paperCancelOrder (effectId symbol clientOrderId : String)
  | cancelTpsl (effectId symbol tpslId : String)

def Mutation.effectId : Mutation → String
  | .placeLimit id .. | .createTpsl id .. | .paperClosePosition id .. | .paperCancelOrder id ..
  | .cancelTpsl id .. => id

/-- `place_limit` is the one mutation that opens exposure. -/
def Mutation.places : Mutation → Bool
  | .placeLimit .. => true
  | _ => false

/-- `effects.prepare`; the recovery delay is the same everywhere. -/
structure PrepareRequest where
  effectKey : String
  effectType : EffectType
  exchange : String
  symbol : String
  clientOrderId : String
  requestPayload : Record
  environment : String
  accountId : String
  tradeId : String
  orderRole : OrderRole

/-- The durable fields a transition sets, where given. -/
structure TradePatch where
  eventPayload : Record := []
  filledQuantity : Option ℚ := none
  firstFillAt : Option ℤ := none
  entryExchangeOrderId : Option String := none
  stopClientOrderId : Option String := none
  stopExchangeOrderId : Option String := none
  targetClientOrderId : Option String := none
  targetExchangeOrderId : Option String := none
  closeClientOrderId : Option String := none
  closeExchangeOrderId : Option String := none

/-- `trades.transition_with_execution_event` -/
structure TransitionRequest where
  tradeId : String
  target : TradeState
  eventType : String
  factKey : String
  build : FactBuild
  patch : TradePatch

/-- `ExecutionMutationBudgetRepository.reserve` -/
structure BudgetReservation where
  granted : Bool
  replay : Bool
  remaining : ℤ

/-- `ExecutionRuntimeHealth`; its capacity, window and reserve constants are left out. -/
structure RuntimeHealth where
  scope : AccountScope
  observedAt : ℤ
  authAgeMs : ℤ
  authExpiresInMs : Option ℤ
  localMutationReserve : ℤ
  venueRateLimitObservable : Bool
  venueRateLimitReserve : Option ℤ

inductive Call
  | recoveryBlockers
  | setRecoveryBlockers (blockers : List String)
  | takeRecoveredEvents
  | extendRecoveredEvents (events : List ExecutionEvent)
  | operationalTelemetry
  | setOperationalTelemetry (values : List (String × String))
  | updateOperationalTelemetry (values : List (String × String))
  | lastSidecarHealth
  | setLastSidecarHealth (health : Record)
  | clock
  | sleep (seconds : ℚ)
  | preflight
  | fetchPaperState
  | fetchDepth (symbol : String) (maxLevel : ℕ)
  | drainEvents (limit : ℕ)
  | findTpslRecord (symbol tpslId tpslType : String) (price : ℚ)
  | mutate (m : Mutation)
  | beginRecovery (scope : AccountScope)
  | completeRecovery (scope : AccountScope) (expectedEpoch : ℤ) (detail : String)
  | entriesAllowed (scope : AccountScope)
  | listTradesForScope (scope : AccountScope)
  | listExecutionEvents (tradeId : String)
  | getTrade (tradeId : String)
  | tradesRecoveryRequired (environment accountId : String)
  | createTrade (trade : NewTrade) (factKey : String) (build : FactBuild)
  | getExecutionEvent (tradeId factKey : String)
  | transition (request : TransitionRequest)
  | markReconciled (tradeId detail : String)
  | getEffect (effectKey : String)
  | effectsRecoveryRequired (scope : AccountScope)
  | prepare (request : PrepareRequest)
  | confirm (effectKey exchangeEffectId : String) (responsePayload : Record)
  | reconcileEffect (effectKey : String) (exchangeEffectId : Option String) (responsePayload : Record)
  | acquire (lock : Lock)
  | release (lock : Lock)
  | reserve (scope : AccountScope) (effectId operation : String) (compensation : Bool)
  | latestHealth (scope : AccountScope)
  | recordHealth (health : RuntimeHealth)
  | checkEntry (decision : Decision) (effectId : String)
  | bindEntry (decision : Decision) (effectId : String)
  | enterOperatorGuard (decision : Decision) (effectId : String)
  | exitOperatorGuard
  | enterCanaryDispatch (decision : Decision) (effectId : String)
  | exitCanaryDispatch

/-- A record of the trade that was asked for. -/
abbrev StoredTrade (tradeId : String) := { record : TradeRecord // record.tradeId = tradeId }

/-- The trade as it is, as a record of its own id. -/
abbrev TradeRecord.stored (trade : TradeRecord) : StoredTrade trade.tradeId := ⟨trade, rfl⟩

/-- The outcome of creating the trade that was named, or of finding it created. -/
abbrev Created (tradeId : String) :=
  { result : TradeMutationResult // result.trade.tradeId = tradeId }

/-- The outcome of a transition: the trade that was named, in the target state. -/
abbrev Moved (tradeId : String) (target : TradeState) :=
  { result : TradeMutationResult //
    result.trade.tradeId = tradeId ∧ result.trade.state = target }

/-- The moved trade, as a record of the id of the trade before. -/
abbrev Moved.stored {tradeId : String} {target : TradeState} (moved : Moved tradeId target) :
    StoredTrade tradeId := ⟨moved.1.trade, moved.2.1⟩

@[reducible] def Call.Answer : Call → Type
  | .recoveryBlockers => List String
  | .takeRecoveredEvents => List ExecutionEvent
  | .operationalTelemetry => List (String × String)
  | .lastSidecarHealth | .preflight | .fetchPaperState | .fetchDepth .. | .mutate _ => Record
  | .clock => ℤ
  | .drainEvents _ => List Record
  | .findTpslRecord .. => Option Record
  | .beginRecovery _ => ℤ
  | .entriesAllowed _ => Bool
  | .listTradesForScope _ | .tradesRecoveryRequired .. => List TradeRecord
  | .listExecutionEvents _ => List ExecutionEvent
  | .getTrade id => Option (StoredTrade id)
  | .createTrade trade .. => Created trade.tradeId
  | .getExecutionEvent .. => Option ExecutionEvent
  | .transition request => Moved request.tradeId request.target
  | .getEffect _ => Option ExecutionEffect
  | .effectsRecoveryRequired _ => List ExecutionEffect
  | .prepare _ => EffectPreparation
  | .reconcileEffect .. => ExecutionEffect
  | .reserve .. => BudgetReservation
  | .latestHealth _ => Option ℤ
  | _ => Unit

@[reducible] def engineCalls : Interface where
  Call := Call
  Answer := Call.Answer

/-- A coroutine of the engine. -/
abbrev Engine := Program engineCalls Err

abbrev EngineHistory := History engineCalls Err

abbrev EngineEvent := Event engineCalls Err

/-- `await` one call. -/
abbrev await (c : Call) : Engine (Call.Answer c) := Program.ask (I := engineCalls) c

abbrev raise {α : Type} (message : String) : Engine α := Program.raise (.safety message)

/-- Pass a pure check, or raise what it raises. -/
abbrev check {α : Type} (x : Except Err α) : Engine α := liftM x

@[simp] theorem check_ok_bind {α β : Type} (a : α) (f : α → Engine β) :
    (check (.ok a) >>= f) = f a := rfl

/-- `async with lock: body` -/
abbrev withLock {α : Type} (lock : Lock) (body : Engine α) : Engine α :=
  Program.bracket (await (.acquire lock)) (await (.release lock)) body

/-- `self._environment`, the account and the adapter, as the journals are scoped. -/
def Env.accountScope (env : Env) : AccountScope where
  environment := env.scope.environment
  accountId := env.scope.accountId
  exchange := env.adapterName

def Env.remoteAccountScope (env : Env) : Except Err AccountScope := do
  let accountId ← requiredOption env.lib env.scope.remoteAccountId "expected EVEDEX DEV account ID"
  return { environment := env.scope.remoteEnvironment, accountId, exchange := env.scope.exchange }

end KairosExecution.Paper
