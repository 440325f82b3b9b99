import KairosExecution.Paper.Reconcile

/-! The entry points of the engine: handling a decision, one reconciliation round,
startup recovery and the revocation of entry authority. Each takes the service lock and
the account lock, so that on one account the entry points of all instances run one
after the other; within a run the repositories may still change between two calls. -/

namespace KairosExecution.Paper

open Python Interactive Interactive.Program

variable (env : Env)

def blockEntriesUnlocked (detail : String) : Engine Unit := do
  let stripped := String.ofList ((env.lib.strip detail).toList.take 2000)
  let message := if stripped = "" then "authoritative PAPER reconciliation required" else stripped
  let _ ← await (.beginRecovery env.accountScope)
  await (.setRecoveryBlockers [message])

section Recovery

/-- The recovery effects of one trade, in order. -/
def recoverEffectsOf (tradeId : String) : List ExecutionEffect → Engine Unit
  | [] => return ()
  | effect :: rest => do
    onlyIf (effect.tradeId = some tradeId) (recoverEffectLocked env effect)
    recoverEffectsOf tradeId rest

def reconcileRedeliveryLocked (tradeId : String) : Engine (List ExecutionEvent) := do
  let health ← await .preflight
  observeHealth env health false
  let venue ← await .fetchPaperState
  let some ⟨current, _⟩ ← await (.getTrade tradeId)
    | raise "redelivered decision lost its durable trade"
  if current.state.terminal then
    let emitted ← await .takeRecoveredEvents
    recoverTerminalPublicFact current
    return emitted
  else
    let gapEvents ← recoverPreMutationGap env current venue
    let some ⟨current, _⟩ ← await (.getTrade tradeId)
      | raise "trade disappeared during redelivery recovery"
    if current.state.terminal then
      recoverTerminalPublicFact current
      return gapEvents
    else
      let recoveryEffects ← await (.effectsRecoveryRequired env.accountScope)
      let eligible := recoveryEffects.map (·.effectKey)
      recoverEffectsOf env tradeId recoveryEffects
      let current ← await (.getTrade tradeId)
      let unripe ← (if current.isSome then unripeEffects env tradeId eligible else pure [])
      check (refuse (!unripe.isEmpty)
        ("redelivered trade has an in-flight ambiguous venue effect: " ++ ",".intercalate unripe))
      let venue ← await .fetchPaperState
      let sidecarEvents ← await (.drainEvents 1000)
      let current ← await (.getTrade tradeId)
      let recovered ← await .takeRecoveredEvents
      let emitted := gapEvents ++ recovered
      match current with
      | none => return emitted
      | some ⟨current, _⟩ =>
        if current.state.terminal then
          recoverTerminalPublicFact current
          return emitted
        else return emitted ++ (← reconcileTrade env current venue sidecarEvents)

end Recovery

section Handle

/-- Wait, within the bound, until the entry is eligible; the result is the time. -/
def awaitEligibility (decision : Decision) : Engine ℤ := do
  let now ← nowMs
  let eligible := decision.intent.entryEligibleTsMs
  if now < eligible then
    let waitS : ℚ := (eligible - now) / 1000
    let now ← (if waitS ≤ 2 then do
        await (.sleep waitS)
        nowMs
      else pure now)
    check (refuse (now < eligible)
      "NEXT_BAR_MARKET eligibility is beyond the bounded local clock-skew wait")
    return now
  else return now

/-- The terms under which a decision's trade is created. -/
def newTradeOf (decision : Decision) (tradeId entryClientId strategyIntentId riskDecisionId : String) :
    NewTrade where
  tradeId := tradeId
  strategyIntentId := strategyIntentId
  riskDecisionId := riskDecisionId
  riskDecisionPayload := env.toPayload decision
  strategyId := decision.intent.strategyId
  strategyRevision := decision.intent.strategyRevision
  environment := env.scope.environment
  exchange := env.adapterName
  accountId := decision.accountId
  symbol := decision.intent.symbol
  venueSymbol := decision.venueSymbol
  side := orderSide decision
  quantity := decision.quantity
  leverage := decision.leverage
  stopPrice := decision.exitPlan.stopPrice
  targetPrice := decision.exitPlan.targetPrice
  entryEligibleAt := fromMs decision.intent.entryEligibleTsMs
  entryExpiresAt := fromMs decision.intent.entryExpiresTsMs
  maxHoldingMs := decision.exitPlan.maxHoldingMs
  entryClientOrderId := entryClientId

/-- The `try` block of `_handle_once`: submit the entry, and settle an acknowledged order
that has not filled. -/
def submitEntry (decision : Decision) (trade : TradeRecord) (effectId clientOrderId : String)
    (preparation : EffectPreparation) : Engine (Record × OrderFill) := do
  let response ← entryEffect env decision trade effectId clientOrderId preparation
  let fill ← check (validateEntryResponse env.lib response decision clientOrderId)
  if fill.filled ≤ 0 ∧ !terminalEntryStatus fill.status then
    let response ← settleOrCancelIocEntry env decision trade response
    let fill ← check (validateEntryResponse env.lib response decision clientOrderId)
    return (response, fill)
  else return (response, fill)

/-- The `except` block of `_handle_once`: revoke entry authority, and close any exposure
that the ambiguous order has left. -/
def ambiguousEntry (decision : Decision) (trade : TradeRecord) (effectId clientOrderId : String)
    (exc : Err) : Engine (List ExecutionEvent) := do
  blockEntriesUnlocked env ("ambiguous entry ACK requires recovery: " ++ exc.described)
  let venue ← await .fetchPaperState
  let exposed ← check (positionQuantity env venue trade.symbol)
  if exposed ≤ 0 then Program.raise exc
  else
    let moved ← transitionWithEvent env decision trade .PROTECTING
      "AMBIGUOUS_ENTRY_ACK_WITH_EXPOSURE" .FAILED
      { effectId := some effectId
        orderRole := some .ENTRY
        clientOrderId := some clientOrderId
        requestedQuantity := decision.quantity
        filledQuantity := min exposed trade.quantity
        positionQuantity := some exposed
        details := [("reason", "ambiguous_entry_ack_with_exposure")] }
      { eventPayload := [("observed_quantity_hex", .str (env.lib.hex exposed))]
        filledQuantity := some (min exposed trade.quantity)
        firstFillAt := some (fromMs decision.intent.entryEligibleTsMs)
        entryExchangeOrderId := some clientOrderId }
    return moved.1.event ::
      (← emergencyClose env decision moved.1.trade ("ambiguous entry ACK: " ++ exc.typeName))

/-- The end of `_handle_once`: what the acknowledged order amounts to. -/
def recordEntry (decision : Decision) (trade : TradeRecord) (clientOrderId : String)
    (response : Record) (fill : OrderFill) : Engine (List ExecutionEvent) := do
  let spec : FactSpec := {
    orderRole := some .ENTRY
    clientOrderId := some clientOrderId
    exchangeOrderId := some fill.exchangeOrderId
    requestedQuantity := decision.quantity }
  let patch : TradePatch := { entryExchangeOrderId := some fill.exchangeOrderId }
  if fill.filled ≤ 0 ∧ terminalEntryStatus fill.status then
    let moved ← transitionWithEvent env decision trade .CANCELLED "ENTRY_TERMINAL_WITHOUT_FILL"
      .ENTRY_CANCELLED spec patch
    return [moved.1.event]
  else if fill.filled ≤ 0 then
    let moved ← transitionWithEvent env decision trade .ENTRY_PENDING
      "ENTRY_ACKNOWLEDGED_PENDING_FILL" .VENUE_ACK spec patch
    return [moved.1.event]
  else
    let observedAt ← await .clock
    let fillAt ← check (responseTime env.lib response observedAt observedAt
      (fromMs decision.intent.entryEligibleTsMs))
    let details ← check (executionShortfallDetails env decision fill.averagePrice)
    let moved ← transitionWithEvent env decision trade .PROTECTING "FIRST_NONZERO_FILL"
      (fillEventType fill.filled decision.quantity)
      { spec with
        filledQuantity := fill.filled
        positionQuantity := some fill.filled
        averagePrice := fill.averagePrice
        details }
      { patch with filledQuantity := some fill.filled, firstFillAt := some fillAt }
    return moved.1.event :: (← protect env decision moved.1.trade)

/-- `_handle_once` of a trade that was just read as `RECEIVED`. -/
def handleReceived (decision : Decision) (trade : TradeRecord) (entryClientId : String) (now : ℤ) :
    Engine (List ExecutionEvent) := do
  let spec (reason : String) : FactSpec := {
    orderRole := some .ENTRY
    clientOrderId := some entryClientId
    requestedQuantity := decision.quantity
    details := [("reason", reason)] }
  if now > decision.intent.entryExpiresTsMs then
    let moved ← transitionWithEvent env decision trade .CANCELLED
      "DECISION_EXPIRED_BEFORE_SUBMISSION" .ENTRY_CANCELLED (spec "entry_deadline_expired")
    return [moved.1.event]
  else
    let moved ← transitionWithEvent env decision trade .ENTRY_PENDING "ENTRY_EFFECT_READY"
      .RECONCILIATION (spec "entry_effect_ready")
    let trade := moved.1.trade
    let entryEffectId := env.effectId trade.tradeId .ENTRY .place
    let preparation ← prepareEntryEffect env decision trade entryEffectId entryClientId
    match ← (submitEntry env decision trade entryEffectId entryClientId preparation).attempt with
    | .error exc =>
      return moved.1.event :: (← ambiguousEntry env decision trade entryEffectId entryClientId exc)
    | .ok (response, fill) =>
      return moved.1.event :: (← recordEntry env decision trade entryClientId response fill)

/-- `_handle_once` of an approved decision. -/
def handleApproved (decision : Decision) (tradeId : String) : Engine (List ExecutionEvent) := do
  let blockers ← await .recoveryBlockers
  let allowed ← (if blockers.isEmpty then await (.entriesAllowed env.accountScope) else pure false)
  check (refuse (!allowed)
    "new PAPER entries are blocked until authoritative startup recovery completes")
  let now ← awaitEligibility decision
  let expires := decision.intent.entryExpiresTsMs
  check (if now ≤ expires then assertFreshEntryMarket decision now else .ok ())
  let entryClientId := env.clientId tradeId .ENTRY decision.decidedAtMs
  let entryEffectId := env.effectId tradeId .ENTRY .place
  let existing ← await (.getTrade tradeId)
  onlyIf (existing.isNone ∧ now ≤ expires) do
    checkOperatorEntry env decision entryEffectId
    bindCanaryEntry env decision entryEffectId
  let intentId ← check (requiredOption env.lib decision.intent.intentId "intent_id")
  let decisionId ← check (requiredOption env.lib decision.decisionId "decision_id")
  let (creation, created) ← createTradeWithEvent env decision
    (newTradeOf env decision tradeId entryClientId intentId decisionId)
  let trade := creation.1.trade
  if trade.state ≠ .RECEIVED then reconcileRedeliveryLocked env trade.tradeId
  else
    let events := if created then [creation.1.event] else []
    return events ++ (← handleReceived env decision trade entryClientId now)

def handleOnce (decision : Decision) (tradeId : String) : Engine (List ExecutionEvent) := do
  check (validateDecision env decision)
  if !decision.approved then return [] else handleApproved env decision tradeId

def handle (decision : Decision) : Engine (List ExecutionEvent) := do
  if !decision.approved then
    check (validateDecision env decision)
    return []
  else
    let tradeId ← check (requiredOption env.lib decision.tradeId "trade_id")
    withLock .lifecycle do
      let scope ← check env.remoteAccountScope
      withLock (.account scope) (withLock (.trade tradeId) (handleOnce env decision tradeId))

end Handle

section Reconcile

/-- The loop of `_reconcile_once_unlocked` over the nonterminal trades. -/
def reconcileTrades : List TradeRecord → List Record → Engine (List ExecutionEvent)
  | [], _ => return []
  | trade :: rest, sidecarEvents => do
    let (events, sidecarEvents) ← withLock (.trade trade.tradeId) do
      match ← await (.getTrade trade.tradeId) with
      | none => return ([], sidecarEvents)
      | some ⟨current, _⟩ =>
        if current.state.terminal then return ([], sidecarEvents)
        else
          let unripe ← unripeEffects env current.tradeId []
          check (refuse (!unripe.isEmpty)
            ("venue effect is still inside its two-minute ambiguity grace: "
              ++ ",".intercalate unripe))
          let venue ← await .fetchPaperState
          let drained ← await (.drainEvents 1000)
          let sidecarEvents := sidecarEvents ++ drained
          let events ← reconcileTrade env current venue sidecarEvents
          return (events, sidecarEvents)
    return events ++ (← reconcileTrades rest sidecarEvents)

def reconcileOnceUnlocked : Engine (List ExecutionEvent) := do
  let blockers ← await .recoveryBlockers
  if !blockers.isEmpty then return []
  else
    let allowed ← await (.entriesAllowed env.accountScope)
    if !allowed then
      await (.setRecoveryBlockers ["durable account recovery is active"])
      return []
    else
      let effects ← await (.effectsRecoveryRequired env.accountScope)
      check (refuse (!effects.isEmpty) "execution journal requires a durable account recovery epoch")
      let health ← await .preflight
      observeHealth env health false
      let sidecarEvents ← await (.drainEvents 1000)
      let emitted ← await .takeRecoveredEvents
      let trades ← await (.tradesRecoveryRequired env.scope.environment env.scope.accountId)
      return emitted ++ (← reconcileTrades env trades sidecarEvents)

def reconcileOnce : Engine (List ExecutionEvent) :=
  withLock .lifecycle do
    let scope ← check env.remoteAccountScope
    withLock (.account scope) do
      match ← (reconcileOnceUnlocked env).attempt with
      | .ok events => return events
      | .error exc =>
        blockEntriesUnlocked env ("authoritative reconciliation failed: " ++ exc.described)
        Program.raise exc

end Reconcile

section Initialize

/-- The audit of one trade's public facts. -/
def auditFacts (trade : TradeRecord) (facts : List ExecutionEvent) : Except Err Unit := do
  let expectedCount := trade.stateVersion + 1
  refuse (facts.length ≠ expectedCount)
    ("trade " ++ trade.tradeId ++ " has " ++ env.lib.str (.int facts.length) ++ " public facts for "
      ++ env.lib.str (.int expectedCount) ++ " durable lifecycle versions")
  refuse (facts.map (·.eventSeq) ≠ (List.range expectedCount).map (· + 1))
    s!"trade {trade.tradeId} public lifecycle sequence is not contiguous"
  refuse (!facts.head?.any fun first =>
      first.eventType = .DECISION_RECEIVED ∧ first.lifecycleState = .RECEIVED)
    s!"trade {trade.tradeId} lacks the atomic DECISION_RECEIVED creation fact"
  refuse (!facts.getLast?.any fun last => last.lifecycleState = trade.state)
    s!"trade {trade.tradeId} public state does not match durable {trade.state.value}"

/-- The loop of `_audit_scoped_public_facts`. -/
def auditTrades : List TradeRecord → Engine Unit
  | [] => return ()
  | trade :: rest => do
    let facts ← await (.listExecutionEvents trade.tradeId)
    check (auditFacts env trade facts)
    auditTrades rest

def auditScopedPublicFacts : Engine Unit := do
  let trades ← await (.listTradesForScope env.accountScope)
  auditTrades env trades

/-- Run `body`; what it raises is a blocker about `subject`. -/
def asBlockers (subject : String) (body : Engine Unit) : Engine (List String) := do
  match ← body.attempt with
  | .ok _ => return []
  | .error exc => return [subject ++ ": " ++ exc.described]

/-- Recover one effect under its locks. -/
def recoverEffect (effect : ExecutionEffect) : Engine Unit :=
  match effect.tradeId with
  | none => recoverEffectLocked env effect
  | some tradeId => withLock (.trade tradeId) (recoverEffectLocked env effect)

/-- The effect loop of `_initialize_recovery_unlocked`; the result is its blockers. -/
def recoverEffects : List ExecutionEffect → Engine (List String)
  | [] => return []
  | effect :: rest => do
    let found ← asBlockers effect.effectKey (recoverEffect env effect)
    return found ++ (← recoverEffects rest)

/-- Recover one trade under its lock. -/
def recoverTrade (tradeId : String) (eligible : List String) : Engine Unit :=
  withLock (.trade tradeId) do
    match ← await (.getTrade tradeId) with
    | none => pure ()
    | some ⟨current, _⟩ =>
      if current.state.terminal then pure ()
      else
        let unripe ← unripeEffects env current.tradeId eligible
        check (refuse (!unripe.isEmpty)
          ("ambiguous venue effect is still inside its two-minute grace: "
            ++ ",".intercalate unripe))
        let venue ← await .fetchPaperState
        let events ← reconcileTrade env current venue []
        await (.extendRecoveredEvents events)

/-- The trade loop of `_initialize_recovery_unlocked`; the result is its blockers. -/
def recoverTrades (eligible : List String) : List TradeRecord → Engine (List String)
  | [] => return []
  | trade :: rest => do
    let found ← asBlockers trade.tradeId (recoverTrade env trade.tradeId eligible)
    return found ++ (← recoverTrades eligible rest)

/-- Block with one finding, and stop there. -/
def blockWith (blocker : String) : Engine (List String) := do
  await (.setRecoveryBlockers [blocker])
  return [blocker]

/-- The account-wide check of `_initialize_recovery_unlocked`. -/
def accountWideBlockers : Engine (List String) := do
  let accountWide : Engine (List String) := do
    let venue ← await .fetchPaperState
    let trades ← await (.tradesRecoveryRequired env.scope.environment env.scope.accountId)
    check (authoritativeAccountBlockers env venue trades none)
  match ← accountWide.attempt with
  | .ok found => return found
  | .error exc => return ["account-wide recovery: " ++ exc.described]

/-- The end of `_initialize_recovery_unlocked`: the account-wide check, and completion. -/
def completeRecovery (epoch : ℤ) (blockers : List String) : Engine (List String) := do
  let blockers ← (if blockers.isEmpty then accountWideBlockers env else pure blockers)
  onlyIf blockers.isEmpty (await (.completeRecovery env.accountScope epoch
    "SDK preflight, effects, positions, orders and TP/SL reconciled"))
  await (.setRecoveryBlockers blockers)
  return blockers

def initializeRecoveryUnlocked : Engine (List String) := do
  let epoch ← await (.beginRecovery env.accountScope)
  let preflight : Engine Unit := do
    let health ← await .preflight
    observeHealth env health false
    let _ ← await .fetchPaperState
  match ← preflight.attempt with
  | .error exc => blockWith ("venue preflight failed: " ++ exc.described)
  | .ok _ =>
    match ← (auditScopedPublicFacts env).attempt with
    | .error exc => blockWith ("public lifecycle audit failed: " ++ exc.described)
    | .ok _ =>
      let effects ← await (.effectsRecoveryRequired env.accountScope)
      let effectBlockers ← recoverEffects env effects
      let trades ← await (.tradesRecoveryRequired env.scope.environment env.scope.accountId)
      let tradeBlockers ← recoverTrades env (effects.map (·.effectKey)) trades
      completeRecovery env epoch (effectBlockers ++ tradeBlockers)

def initializeRecovery : Engine (List String) :=
  withLock .lifecycle do
    let scope ← check env.remoteAccountScope
    withLock (.account scope) (initializeRecoveryUnlocked env)

def blockEntries (detail : String) : Engine Unit :=
  withLock .lifecycle do
    let scope ← check env.remoteAccountScope
    withLock (.account scope) (blockEntriesUnlocked env detail)

end Initialize

end KairosExecution.Paper
