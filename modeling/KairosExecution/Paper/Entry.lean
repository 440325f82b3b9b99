import KairosExecution.Paper.Account

/-! Submitting an entry. Admission is checked before the journal row is prepared and
again after it; the live book, freshness, the operator and the budget follow, and the
order itself is placed inside the operator and canary guards. An acknowledged order
that has not filled is settled by a bounded number of snapshots or cancelled. -/

namespace KairosExecution.Paper

open Python Interactive Interactive.Program

variable (env : Env)

def checkOperatorEntry (decision : Decision) (effectId : String) : Engine Unit := do
  check (refuse env.canaryScopeError.isSome "operator admission requires independent valid scope")
  match ← (await (.checkEntry decision effectId)).attempt with
  | .ok _ => pure ()
  | .error exc =>
    if exc.typeName = "OperatorControlRefused" then
      raise "durable operator control refused this new PAPER entry"
    else Program.raise exc

/-- The scope check of `_canary_entry_admission`. -/
def canaryEntryAdmission : Except Err Unit :=
  match env.canaryScopeError with
  | none => .ok ()
  | some error =>
    .error (.safety s!"new canary entries require an independent valid scope ({error})")

def bindCanaryEntry (decision : Decision) (effectId : String) : Engine Unit := do
  check (canaryEntryAdmission env)
  await (.bindEntry decision effectId)

/-- `_entry_dispatch_guard` around `body` -/
def entryDispatchGuard {α : Type} (decision : Decision) (effectId : String) (body : Engine α) :
    Engine α := do
  check (canaryEntryAdmission env)
  Program.bracket (await (.enterOperatorGuard decision effectId)) (await .exitOperatorGuard)
    (Program.bracket (await (.enterCanaryDispatch decision effectId)) (await .exitCanaryDispatch)
      (do checkOperatorEntry env decision effectId; body))

def assertEntryAdmission (trade : TradeRecord) : Engine Unit := do
  let allowed ← await (.entriesAllowed env.accountScope)
  check (refuse (!allowed) "durable account recovery revoked entry authority")
  let health ← await .preflight
  observeHealth env health true
  let venue ← await .fetchPaperState
  let durable ← await (.tradesRecoveryRequired env.scope.environment env.scope.accountId)
  let others := durable.filter fun candidate => candidate.tradeId ≠ trade.tradeId
  let blockers ← check (authoritativeAccountBlockers env venue durable (some trade.tradeId))
  let decision ← check (decisionForTrade env trade)
  let telemetry ← check (assertTechnicalCanaryInstrument env decision venue)
  await (.updateOperationalTelemetry telemetry)
  let blockers := blockers ++ blockIf (!others.isEmpty)
    "PAPER canary permits only one nonterminal trade globally"
  check (refuse (!blockers.isEmpty)
    ("entry admission is not clean: " ++ "; ".intercalate blockers))

/-- The current time in milliseconds, as the engine computes it. -/
def nowMs : Engine ℤ := do
  let now ← await .clock
  return milliseconds now

def prepareEntryEffect (decision : Decision) (trade : TradeRecord) (effectId clientOrderId : String) :
    Engine EffectPreparation := do
  checkOperatorEntry env decision effectId
  bindCanaryEntry env decision effectId
  let now ← nowMs
  check (assertFreshEntryMarket decision now)
  assertEntryAdmission env trade
  await (.prepare (prepareRequest env trade effectId .PLACE_ORDER clientOrderId .ENTRY
    [("trade_id", .str trade.tradeId), ("intent_id", .str trade.strategyIntentId),
      ("client_order_id", .str clientOrderId), ("venue_symbol", .str decision.venueSymbol),
      ("side", .str trade.side.value), ("quantity_hex", .str (env.lib.hex decision.quantity)),
      ("limit_price_hex", .str (env.lib.hex decision.worstEntryPrice)),
      ("leverage_hex", .str (env.lib.hex decision.leverage))]))

/-- The order that an approved decision places. -/
def entryOrder (decision : Decision) (trade : TradeRecord) (effectId clientOrderId : String) :
    Mutation :=
  .placeLimit effectId clientOrderId trade.symbol (orderSide decision) decision.quantity
    decision.worstEntryPrice decision.leverage

def entryEffect (decision : Decision) (trade : TradeRecord) (effectId clientOrderId : String)
    (preparation : EffectPreparation) : Engine Record := do
  check (refuse (preparation.effect.effectKey ≠ effectId)
    "prepared entry effect identity changed before mutation")
  match ← check (cachedEffect preparation.effect) with
  | some cached =>
    let _ ← check (validateEntryResponse env.lib cached decision clientOrderId)
    return cached
  | none =>
    check (refuse (!preparation.created) "prepared entry requires authoritative recovery")
    let allowed ← await (.entriesAllowed env.accountScope)
    check (refuse (!allowed) "durable account recovery revoked entry authority")
    assertEntryAdmission env trade
    let depth ← await (.fetchDepth trade.symbol 100)
    let bookTime ← nowMs
    let telemetry ← check (assertLiveEntryBook env decision depth bookTime)
    await (.updateOperationalTelemetry telemetry)
    let now ← nowMs
    check (assertFreshEntryMarket decision now)
    checkOperatorEntry env decision effectId
    reserveMutation env effectId "place_limit" false true
    entryDispatchGuard env decision effectId do
      let response ← await (.mutate (entryOrder decision trade effectId clientOrderId))
      let fill ← check (validateEntryResponse env.lib response decision clientOrderId)
      await (.confirm effectId fill.exchangeOrderId response)
      return response

section Settle

/-- The distinct projections of the entry order in a snapshot. -/
def entryCandidates (venue : Venue) (entryClientId : String) : Except Err (List Record) := do
  let openOrder ← findOrder env.lib venue (some entryClientId)
  let historical ← findHistoricalOrder env.lib venue entryClientId
  return match openOrder, historical with
    | some a, some b => if env.lib.dumps a = env.lib.dumps b then [b] else [a, b]
    | some a, none => [a]
    | none, some b => [b]
    | none, none => []

/-- `_settled_entry_projection`: the projection that settles the entry, if one does, and
whether a fill was seen. -/
def settledEntryProjection (decision : Decision) (trade : TradeRecord) (venue : Venue) :
    Except Err (Option Record × Bool) := do
  let position ← positionQuantityForTrade env venue trade
  let candidates ← entryCandidates env venue trade.entryClientOrderId
  let validated ← candidates.mapM fun candidate => do
    let fill ← validateEntryResponse env.lib candidate decision trade.entryClientOrderId
    return (candidate, fill)
  if position > 0 then
    match validated.filter fun entry => entry.2.filled + tolerance trade.quantity ≥ position with
    | [entry] => return (some entry.1, true)
    | _ => throw (.safety "IOC exposure lacks one exact entry-order fill projection")
  else
    let observedFill := validated.any fun entry => entry.2.filled > 0
    match validated.filter fun entry =>
        entry.2.filled ≤ 0 && terminalEntryStatus entry.2.status with
    | [] => return (none, observedFill)
    | [entry] => return (some entry.1, observedFill)
    | entry :: rest =>
      refuse (rest.any fun other => env.lib.dumps other.1 ≠ env.lib.dumps entry.1)
        "IOC terminal projections conflict"
      return (some entry.1, observedFill)

def iocSettleAttempts : ℕ := 4

def iocSettlePollS : ℚ := 5 / 100

/-- The first loop of `_settle_or_cancel_ioc_entry`, with the attempts left. -/
def settlePolls (decision : Decision) (trade : TradeRecord) :
    ℕ → Bool → Engine (Option Record × Bool)
  | 0, seen => return (none, seen)
  | left + 1, seen => do
    let venue ← await .fetchPaperState
    let (settled, observedFill) ← check (settledEntryProjection env decision trade venue)
    match settled with
    | some record => return (some record, seen || observedFill)
    | none =>
      onlyIf (left > 0) (await (.sleep iocSettlePollS))
      settlePolls decision trade left (seen || observedFill)

/-- The second loop, after the cancel: a settling projection, or the last snapshot. -/
def cancelPolls (decision : Decision) (trade : TradeRecord) :
    ℕ → Option Venue → Engine (Option Record × Option Venue)
  | 0, last => return (none, last)
  | left + 1, _ => do
    let venue ← await .fetchPaperState
    let (settled, observedFill) ← check (settledEntryProjection env decision trade venue)
    match settled with
    | some record => return (some record, some venue)
    | none =>
      check (refuse observedFill "IOC fill appeared while proving authoritative cancellation")
      let entry ← check (findOrder env.lib venue (some trade.entryClientOrderId))
      check (refuse (left = 0 && entry.isSome) "IOC entry remains open after authoritative cancel")
      onlyIf (left > 0) (await (.sleep iocSettlePollS))
      cancelPolls decision trade left (some venue)

def settleOrCancelIocEntry (decision : Decision) (trade : TradeRecord) (acknowledged : Record) :
    Engine Record := do
  let (settled, fillProjectionSeen) ← settlePolls env decision trade iocSettleAttempts false
  match settled with
  | some record => return record
  | none =>
    check (refuse fillProjectionSeen
      "IOC fill projection did not converge to an authoritative position")
    let ack ← cancelEntryEffect env trade
    let ackId ← check (requiredText env.lib (ack.get "id") "entry cancel order ID")
    check (refuse (ackId ≠ trade.entryClientOrderId)
      "entry cancel ACK changed the deterministic order ID")
    check (refuse (orderStatus env.lib ack ≠ "CANCELED")
      "entry cancel ACK is not terminal CANCELED")
    let (settled, last) ← cancelPolls env decision trade iocSettleAttempts none
    match settled with
    | some record => return record
    | none =>
      let some last := last | raise "IOC cancel could not prove an exposure-free account"
      let position ← check (positionQuantityForTrade env last trade)
      check (refuse (position > 0) "IOC cancel could not prove an exposure-free account")
      return acknowledged.set "status" (.str "CANCELED")

end Settle

end KairosExecution.Paper
