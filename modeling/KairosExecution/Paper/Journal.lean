import KairosExecution.Paper.Calls

/-! The durable writes and the operational records: a lifecycle transition with its
public fact, the health ledger, the shared mutation budget, and the journal row that
every venue mutation is prepared, reserved and confirmed under. -/

namespace KairosExecution.Paper

open Python Interactive Interactive.Program

variable (env : Env)

/-- What a public fact reports beyond its type and state. -/
structure FactSpec where
  effectId : Option String := none
  orderRole : Option OrderRole := none
  clientOrderId : Option String := none
  exchangeOrderId : Option String := none
  requestedQuantity : ℚ := 0
  filledQuantity : ℚ := 0
  positionQuantity : Option ℚ := none
  averagePrice : Option ℚ := none
  feeUsd : ℚ := 0
  exitReason : Option ExitReason := none
  details : List (String × String) := []

def eventSpec (decision : Decision) (trade : NewTrade) (eventType : EventType)
    (lifecycleState : TradeState) (spec : FactSpec) (defaultPositionQuantity : ℚ) :
    Engine (String × FactBody) := do
  let identity : FactIdentity := {
    eventType, lifecycleState
    effectId := spec.effectId
    orderRole := spec.orderRole
    clientOrderId := spec.clientOrderId
    exchangeOrderId := spec.exchangeOrderId
    requestedQuantity := spec.requestedQuantity
    filledQuantity := spec.filledQuantity
    positionQuantity := spec.positionQuantity.getD defaultPositionQuantity
    averagePrice := spec.averagePrice
    feeUsd := spec.feeUsd
    exitReason := spec.exitReason
    details := spec.details }
  let now ← await .clock
  let telemetry ← await .operationalTelemetry
  return (env.factKey identity, {
    toFactIdentity := identity
    occurredAtMs := milliseconds now
    accountId := trade.accountId
    venueSymbol := decision.venueSymbol
    strategyId := trade.strategyId
    strategyRevision := trade.strategyRevision
    intentId := trade.strategyIntentId
    riskDecisionId := decision.decisionId.getD ""
    tradeId := trade.tradeId
    telemetry })

/-- The fact to append: the stored one under its key, if there is one. -/
def factBuild (stored : Option ExecutionEvent) (body : FactBody) : FactBuild :=
  match stored with
  | some event => .replay event
  | none => .fresh body

def createTradeWithEvent (decision : Decision) (newTrade : NewTrade) :
    Engine (Created newTrade.tradeId × Bool) := do
  let existed ← await (.getTrade newTrade.tradeId)
  let (factKey, body) ←
    eventSpec env decision newTrade .DECISION_RECEIVED .RECEIVED { positionQuantity := some 0 } 0
  let stored ← (if existed.isSome then await (.getExecutionEvent newTrade.tradeId factKey)
    else pure none)
  let result ← await (.createTrade newTrade factKey (factBuild stored body))
  return (result, existed.isNone)

/-- `_transition_with_event`. Every caller passes the target as the lifecycle state of
the fact, so the two are one argument here. -/
def transitionWithEvent (decision : Decision) (trade : TradeRecord) (target : TradeState)
    (journalEventType : String) (publicEventType : EventType) (spec : FactSpec)
    (patch : TradePatch := {}) : Engine (Moved trade.tradeId target) := do
  let (factKey, body) ← eventSpec env decision trade.toNewTrade publicEventType target spec
    (patch.filledQuantity.getD trade.filledQuantity)
  let stored ← await (.getExecutionEvent trade.tradeId factKey)
  await (.transition {
    tradeId := trade.tradeId, target, eventType := journalEventType, factKey
    build := factBuild stored body, patch })

section Health

def nonnegativeInteger (value : Value) : Except Err ℤ :=
  match value with
  | .int n =>
    if n < 0 then .error (.safety "sidecar telemetry must be a non-negative integer") else .ok n
  | _ => .error (.safety "sidecar telemetry must be a non-negative integer")

def telemetryInteger (health : Record) (field : String) : Except Err ℤ := do
  refuse (!health.has field) s!"sidecar health lacks {field}"
  nonnegativeInteger (health.get field)

/-- An optional nonnegative integer of the health record. -/
def optionalInteger (value : Value) : Except Err (Option ℤ) :=
  match value with
  | .none => .ok none
  | v => some <$> nonnegativeInteger v

/-- `health.get(key) != value` for the pinned fields of `_expected_venue_health`. -/
def matchesPinnedProfile (health : Record) : Bool :=
  let reads (field text : String) : Bool := match health.get field with
    | .str s => s = text
    | _ => false
  let chain : Bool := match health.get "chain_id" with
    | .int n => n = 16182
    | .float x => x = 16182
    | _ => false
  reads "profile" "DEV" && chain && reads "exchange_url" "https://trading-api.evedex.tech"
    && reads "auth_url" "https://auth-api.evedex.tech" && reads "sdk_version" "1.2.11"

/-- `_accept_health`; the result is the telemetry it leaves. -/
def acceptHealth (health : Record) : Except Err (List (String × String)) := do
  refuse (!matchesPinnedProfile health) "sidecar health differs from the pinned EVEDEX DEV profile"
  let age ← telemetryInteger health "auth_age_ms"
  let capacity ← telemetryInteger health "local_mutation_rate_limit_capacity"
  let reserve ← telemetryInteger health "local_mutation_rate_limit_reserve"
  let window ← telemetryInteger health "local_mutation_rate_limit_window_ms"
  let compensationReserve ← telemetryInteger health "local_mutation_compensation_reserve"
  let entryMinReserve ← telemetryInteger health "local_mutation_entry_min_reserve"
  refuse (capacity ≤ 0 || reserve > capacity || compensationReserve ≥ capacity
      || entryMinReserve ≤ compensationReserve + 2 || entryMinReserve > capacity || window ≤ 0)
    "sidecar mutation reserve telemetry is inconsistent"
  let text (value : Option ℤ) : String := match value with
    | none => "unknown"
    | some n => env.lib.str (.int n)
  let expires ← optionalInteger (health.get "auth_expires_in_ms")
  let observable ← match health.get "venue_rate_limit_observable" with
    | .bool b => Except.ok b
    | _ => throw (.safety "venue rate-limit observability flag is malformed")
  refuse (observable && (health.get "venue_rate_limit_reserve").isNone)
    "observable venue rate limit lacks a reserve value"
  let venueReserve ← optionalInteger (health.get "venue_rate_limit_reserve")
  return [("evedex_auth_age_ms", text age), ("evedex_auth_expires_in_ms", text expires),
    ("evedex_local_mutation_reserve", text reserve),
    ("evedex_local_mutation_capacity", text capacity),
    ("evedex_local_mutation_window_ms", text window),
    ("evedex_local_mutation_compensation_reserve", text compensationReserve),
    ("evedex_local_mutation_entry_min_reserve", text entryMinReserve),
    ("evedex_venue_rate_limit_observable", if observable then "true" else "false"),
    ("evedex_venue_rate_limit_reserve", text venueReserve)]

/-- The part of `_accept_entry_health` that follows `_accept_health`. -/
def acceptEntryReserve (health : Record) : Except Err Unit := do
  let reserve ← telemetryInteger health "local_mutation_rate_limit_reserve"
  let minimum ← telemetryInteger health "local_mutation_entry_min_reserve"
  refuse (reserve < minimum) "sidecar mutation reserve cannot fund entry plus mandatory STOP/TARGET"

def recordRuntimeHealth (health : Record) (durableReserve : ℤ) : Engine Unit := do
  let scope ← check env.remoteAccountScope
  let observedAt ← await .clock
  let authAgeMs ← check (telemetryInteger health "auth_age_ms")
  let authExpiresInMs ← check (optionalInteger (health.get "auth_expires_in_ms"))
  check (if health.has "venue_rate_limit_observable" then .ok ()
    else .error (.raised "KeyError" "venue_rate_limit_observable"))
  let venueRateLimitReserve ← check (optionalInteger (health.get "venue_rate_limit_reserve"))
  await (.recordHealth {
    scope, observedAt, authAgeMs, authExpiresInMs, venueRateLimitReserve
    localMutationReserve := durableReserve
    venueRateLimitObservable := Lib.truthy (health.get "venue_rate_limit_observable") })

def observeHealth (health : Record) (requireEntry : Bool) : Engine Unit := do
  let telemetry ← check (acceptHealth env health)
  await (.setOperationalTelemetry telemetry)
  check (if requireEntry then acceptEntryReserve health else .ok ())
  await (.setLastSidecarHealth health)
  let scope ← check env.remoteAccountScope
  let previous ← await (.latestHealth scope)
  recordRuntimeHealth env health (previous.getD 30)

def reserveMutation (effectId operation : String) (compensation requireEntryHeadroom : Bool) :
    Engine Unit := do
  let scope ← check env.remoteAccountScope
  let reservation ← await (.reserve scope effectId operation compensation)
  await (.updateOperationalTelemetry [
    ("evedex_durable_mutation_reserve", env.lib.str (.int reservation.remaining)),
    ("evedex_durable_mutation_capacity", "30"), ("evedex_durable_mutation_window_ms", "60000"),
    ("evedex_durable_mutation_compensation_reserve", "4")])
  let health ← await .lastSidecarHealth
  onlyIf (!health.isEmpty) (recordRuntimeHealth env health reservation.remaining)
  check (refuse reservation.replay
    "durable mutation reservation already exists; venue state must be reconciled")
  check (refuse (!reservation.granted) "durable EVEDEX mutation budget is exhausted")
  check (refuse (requireEntryHeadroom && reservation.remaining < 6)
    "durable mutation budget cannot fund mandatory STOP/TARGET plus compensation")

end Health

section Mutations

def cachedEffect (effect : ExecutionEffect) : Except Err (Option Record) :=
  if effect.status.unresolved then .ok none
  else match effect.responsePayload with
    | some payload => .ok (some payload)
    | none => .error (.safety s!"effect {effect.effectKey} has no response payload")

/-- The `effects.prepare` request of a trade's effect. -/
def prepareRequest (trade : TradeRecord) (effectKey : String) (effectType : EffectType)
    (clientOrderId : String) (role : OrderRole) (requestPayload : Record) : PrepareRequest where
  effectKey := effectKey
  effectType := effectType
  exchange := env.adapterName
  symbol := trade.symbol
  clientOrderId := clientOrderId
  requestPayload := requestPayload
  environment := trade.environment
  accountId := trade.accountId
  tradeId := trade.tradeId
  orderRole := role

/-- `_tpsl_effect`. The production hook before the reservation does nothing for PAPER. -/
def tpslEffect (trade : TradeRecord) (effectId clientOrderId : String) (role : OrderRole)
    (price : ℚ) : Engine Record := do
  let tpslType := if role = .STOP_LOSS then "STOP_LOSS" else "TAKE_PROFIT"
  let effectType := if role = .STOP_LOSS then EffectType.PROTECTIVE_STOP else EffectType.TAKE_PROFIT
  let venueSymbol ← check (env.symbolMap trade.symbol)
  let preparation ← await (.prepare (prepareRequest env trade effectId effectType clientOrderId role
    [("trade_id", .str trade.tradeId), ("client_order_id", .str clientOrderId),
      ("parent_order_id", .str trade.entryClientOrderId), ("venue_symbol", .str venueSymbol),
      ("side", .str trade.side.value), ("tpsl_type", .str tpslType),
      ("quantity_hex", .str (env.lib.hex 0)), ("price_hex", .str (env.lib.hex price))]))
  match ← check (cachedEffect preparation.effect) with
  | some cached => return cached
  | none =>
    check (refuse (!preparation.created)
      s!"prepared {role.value} requires authoritative recovery")
    reserveMutation env effectId "create_tpsl" false false
    let response ← await (.mutate (.createTpsl effectId trade.symbol trade.side tpslType 0 price
      trade.entryClientOrderId))
    let exchangeId ← check (requiredText env.lib (response.get "id") "TP/SL exchange ID")
    await (.confirm effectId exchangeId response)
    return response

def closeEffect (trade : TradeRecord) (effectId clientOrderId : String) (leverage : ℚ)
    (effectType : EffectType) (role : OrderRole) (quantity : ℚ) : Engine Record := do
  check (refuse (quantity ≤ 0) "close effect quantity must be positive")
  let venueSymbol ← check (env.symbolMap trade.symbol)
  let preparation ← await (.prepare (prepareRequest env trade effectId effectType clientOrderId role
    [("trade_id", .str trade.tradeId), ("client_order_id", .str clientOrderId),
      ("venue_symbol", .str venueSymbol), ("quantity_hex", .str (env.lib.hex quantity)),
      ("leverage_hex", .str (env.lib.hex leverage))]))
  match ← check (cachedEffect preparation.effect) with
  | some cached =>
    let _ ← check (validateCloseResponse env.lib cached clientOrderId quantity)
    return cached
  | none =>
    check (refuse (!preparation.created) "prepared close requires authoritative recovery")
    reserveMutation env effectId "close_position" true false
    let response ← await (.mutate (.paperClosePosition effectId clientOrderId trade.symbol quantity
      leverage))
    let fill ← check (validateCloseResponse env.lib response clientOrderId quantity)
    await (.confirm effectId fill.exchangeOrderId response)
    return response

def cancelEntryEffect (trade : TradeRecord) : Engine Record := do
  let effectId := env.effectId trade.tradeId .ENTRY .cancel
  let venueSymbol ← check (env.symbolMap trade.symbol)
  let preparation ← await (.prepare (prepareRequest env trade effectId .CANCEL_ORDER
    trade.entryClientOrderId .ENTRY
    [("trade_id", .str trade.tradeId), ("client_order_id", .str trade.entryClientOrderId),
      ("venue_symbol", .str venueSymbol)]))
  match ← check (cachedEffect preparation.effect) with
  | some cached => return cached
  | none =>
    check (refuse (!preparation.created) "prepared entry cancel requires authoritative recovery")
    reserveMutation env effectId "cancel_order" true false
    let response ← await (.mutate (.paperCancelOrder effectId trade.symbol trade.entryClientOrderId))
    await (.confirm effectId trade.entryClientOrderId response)
    return response

/-- The end of `_cancel_remaining_protection` for one live or unproven TP/SL: prepare the
cancel, send it once, and prove by a fresh snapshot that the record is no longer live. -/
def cancelTpslEffect (trade : TradeRecord) (role : OrderRole) (clientId tpslId : String) :
    Engine Unit := do
  let effectId := env.effectId trade.tradeId role .cancel
  let venueSymbol ← check (env.symbolMap trade.symbol)
  let preparation ← await (.prepare (prepareRequest env trade effectId .CANCEL_TPSL clientId role
    [("trade_id", .str trade.tradeId), ("client_order_id", .str clientId),
      ("tpsl_id", .str tpslId), ("venue_symbol", .str venueSymbol)]))
  match ← check (cachedEffect preparation.effect) with
  | some _ =>
    let verified ← await .fetchPaperState
    let record ← check (findTpslById env.lib verified (some tpslId))
    check (refuse (record.any (isLiveTpsl env.lib))
      "confirmed TP/SL cancellation remains live authoritatively")
  | none =>
    check (refuse (!preparation.created) "prepared TP/SL cancel requires recovery")
    reserveMutation env effectId "cancel_tpsl" true false
    let response ← await (.mutate (.cancelTpsl effectId trade.symbol tpslId))
    await (.confirm effectId tpslId response)
    let verified ← await .fetchPaperState
    let record ← check (findTpslById env.lib verified (some tpslId))
    check (refuse (record.any (isLiveTpsl env.lib))
      "TP/SL cancellation did not reconcile to terminal")

end Mutations

end KairosExecution.Paper
