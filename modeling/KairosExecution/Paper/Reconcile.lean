import KairosExecution.Paper.Entry
import KairosExecution.Paper.Protect

/-! Reconciliation. An ambiguous effect is resolved from one snapshot under its
recovery lock; a trade is brought forward from its durable state and one snapshot,
state by state. The only recursion of the source, after an expired entry was cancelled
into a fill, is one level deep, since the second snapshot no longer lists the entry. -/

namespace KairosExecution.Paper

open Python Interactive Interactive.Program

variable (env : Env)

section Effects

def validateRecoveredEntryEffect (effect : ExecutionEffect) (record : Record) : Engine Unit := do
  match effect.tradeId, effect.clientOrderId with
  | some tradeId, some clientOrderId =>
    let some ⟨trade, _⟩ ← await (.getTrade tradeId)
      | raise "entry recovery references a missing durable trade"
    let decision ← check (decisionForTrade env trade)
    let _ ← check (validateEntryResponse env.lib record decision clientOrderId)
  | _, _ => raise "entry recovery lacks durable trade/order lineage"

/-- An optional string as the value it is stored as. -/
def textOrNone : Option String → Value
  | some text => .str text
  | none => .none

/-- Reconcile a place-order effect with the record that was found for it. -/
def reconcileFound (effect : ExecutionEffect) (record : Record) : Engine Unit := do
  validateRecoveredEntryEffect env effect record
  let _ ← await (.reconcileEffect effect.effectKey
    (some (env.lib.str (record.getD "id" (textOrNone effect.clientOrderId)))) record)

/-- `_reconcile_effect` of a place-order effect. -/
def reconcilePlaceOrder (effect : ExecutionEffect) (venue : Venue) : Engine Unit := do
  let active ← check (findOrder env.lib venue effect.clientOrderId)
  let historical ← check (findHistoricalOrder env.lib venue (effect.clientOrderId.getD ""))
  let quantity ← check (positionQuantity env venue effect.symbol)
  match active, historical with
  | some record, _ => reconcileFound env effect record
  | none, some record => reconcileFound env effect record
  | none, none =>
    if quantity ≤ 0 then
      let _ ← await (.reconcileEffect effect.effectKey effect.clientOrderId
        [("status", .str "CANCELED"), ("reconciled_absent_and_flat", .bool true)])
    else raise "entry effect is absent but the position is non-flat"

/-- `str(request[field])` -/
def requestText (request : Record) (field : String) : Except Err String :=
  if request.has field then .ok (env.lib.str (request.get field))
  else .error (.raised "KeyError" field)

/-- `_reconcile_effect` of a TP/SL creation. -/
def reconcileProtectionCreate (effect : ExecutionEffect) (venue : Venue) : Engine Unit := do
  let request := effect.requestPayload
  let tpslType ← check (requestText env request "tpsl_type")
  let price ← check (do fromHex env.lib (← requestText env request "price_hex"))
  let parentOrderId ← check (requestText env request "parent_order_id")
  let found ← check (match price with
    | some price => do
      return (← findTpsl env.lib venue tpslType price parentOrderId).map fun record => (record, price)
    | none => .ok none)
  match found with
  | some (record, price) =>
    let quantity ← check (positionQuantity env venue effect.symbol)
    let positionOpen : Bool := quantity > 0
    let venueSymbol ← check (requiredText env.lib (request.get "venue_symbol") "venue symbol")
    let side ← check (requiredText env.lib (request.get "side") "TP/SL side")
    let tpslType ← check (requiredText env.lib (request.get "tpsl_type") "TP/SL type")
    let parentOrderId ← check (requiredText env.lib (request.get "parent_order_id")
      "TP/SL parent order ID")
    check (validateTpslRecord env.lib record venueSymbol side tpslType price parentOrderId
      positionOpen true)
    let _ ← await (.reconcileEffect effect.effectKey (some (env.lib.str (record.get "id"))) record)
    if positionOpen then pure ()
    else
      let some tradeId := effect.tradeId
        | raise "orphan TP/SL recovery lacks durable trade lineage"
      let some ⟨trade, _⟩ ← await (.getTrade tradeId)
        | raise "orphan TP/SL recovery references a missing trade"
      cancelRemainingProtection env trade none
  | none =>
    let quantity ← check (positionQuantity env venue effect.symbol)
    if quantity ≤ 0 then
      raise "ambiguous TP/SL create is absent while flat; cancellation cannot be proven"
    else raise "prepared TP/SL is absent while position remains open"

def reconcileEffect (effect : ExecutionEffect) (venue : Venue) : Engine Unit := do
  if effect.status = .FAILED then
    let message := match effect.error with
      | none | some "" => "effect is FAILED"
      | some error => error
    raise message
  else match effect.effectType with
  | .PLACE_ORDER => reconcilePlaceOrder env effect venue
  | .PROTECTIVE_STOP | .TAKE_PROFIT => reconcileProtectionCreate env effect venue
  | .CANCEL_ORDER =>
    let entry ← check (findOrder env.lib venue effect.clientOrderId)
    if entry.isNone then
      let _ ← await (.reconcileEffect effect.effectKey effect.clientOrderId
        [("active", .bool false)])
    else raise "cancel effect has not removed the entry order"
  | .CANCEL_TPSL =>
    let tpslId ← check (requiredText env.lib (effect.requestPayload.get "tpsl_id") "TP/SL ID")
    let record ← check (findTpslById env.lib venue (some tpslId))
    check (match record with
      | some record => assertKnownTpslStatus env.lib record
      | none => .ok ())
    if record.any (isLiveTpsl env.lib) then raise "cancel TP/SL effect remains live"
    else
      let _ ← await (.reconcileEffect effect.effectKey (some tpslId) [("active", .bool false)])
  | .CLOSE_POSITION | .TIMEOUT_CLOSE | .EMERGENCY_CLOSE =>
    let quantity ← check (positionQuantity env venue effect.symbol)
    if quantity ≤ 0 then
      let _ ← await (.reconcileEffect effect.effectKey effect.clientOrderId
        [("position_flat", .bool true)])
    else raise "prepared exit has not reached a flat position"
  | .other value => raise s!"{value} has no PAPER recovery rule"

def recoverEffectLocked (effect : ExecutionEffect) : Engine Unit :=
  withLock (.effectRecovery effect.effectKey) do
    match ← await (.getEffect effect.effectKey) with
    | none => pure ()
    | some current =>
      if current.status.unresolved then
        let venue ← await .fetchPaperState
        reconcileEffect env current venue
      else pure ()

/-- The identities of a trade's effects, in the order `_unripe_effects` asks for them. -/
def effectIdentities : List (OrderRole × Operation) :=
  [(.ENTRY, .place), (.ENTRY, .cancel), (.STOP_LOSS, .create), (.STOP_LOSS, .cancel),
    (.TAKE_PROFIT, .create), (.TAKE_PROFIT, .cancel), (.TIMEOUT_EXIT, .close),
    (.EMERGENCY_EXIT, .close)]

/-- The loop of `_unripe_effects`. -/
def unripeAmong (tradeId : String) (eligible : List String) :
    List (OrderRole × Operation) → Engine (List String)
  | [] => return []
  | (role, operation) :: rest => do
    let key := env.effectId tradeId role operation
    let effect ← await (.getEffect key)
    let unripe ← unripeAmong tradeId eligible rest
    return if effect.any (·.status.unresolved) && !eligible.contains key then key :: unripe
      else unripe

def unripeEffects (tradeId : String) (eligible : List String) : Engine (List String) :=
  unripeAmong env tradeId eligible effectIdentities

end Effects

def recoverPreMutationGap (trade : TradeRecord) (venue : Venue) : Engine (List ExecutionEvent) := do
  let decision ← check (decisionForTrade env trade)
  let cancelled (journal reason : String) : Engine (List ExecutionEvent) := do
    let moved ← transitionWithEvent env decision trade .CANCELLED journal .ENTRY_CANCELLED
      { orderRole := some .ENTRY
        clientOrderId := some trade.entryClientOrderId
        requestedQuantity := trade.quantity
        details := [("reason", reason)] }
    return [moved.1.event]
  match trade.state with
  | .RECEIVED => cancelled "RECOVERED_CRASH_BEFORE_ENTRY_TRANSITION" "crash_before_entry_transition"
  | .ENTRY_PENDING =>
    match ← await (.getEffect (env.effectId trade.tradeId .ENTRY .place)) with
    | some _ => return []
    | none =>
      -- every mutation follows a durable row, so no row means no order was ever sent
      let exposed ← check (do
        if (← findOrder env.lib venue (some trade.entryClientOrderId)).isSome then return true
        if (← findHistoricalOrder env.lib venue trade.entryClientOrderId).isSome then return true
        return (← positionQuantityForTrade env venue trade) > 0)
      check (refuse exposed "venue exposure exists without the mandatory PREPARED entry effect")
      cancelled "RECOVERED_CRASH_BEFORE_ENTRY_EFFECT_PREPARE" "crash_before_durable_effect_prepare"
  | _ => return []

/-- `_record_cumulative_fill`: the trade and the fact of a fill beyond the durable one. -/
def recordCumulativeFill (decision : Decision) (trade : TradeRecord) (venue : Venue)
    (position : ℚ) : Engine (StoredTrade trade.tradeId × List ExecutionEvent) := do
  let tol := tolerance trade.quantity
  check (refuse (position < trade.filledQuantity - tol)
    "position quantity decreased without a uniquely attributable exit")
  if position ≤ trade.filledQuantity + tol then return (trade.stored, [])
  else
    let openOrder ← check (findOrder env.lib venue (some trade.entryClientOrderId))
    let source ← check (match orRecord openOrder none with
      | some record => .ok (some record)
      | none => findHistoricalOrder env.lib venue trade.entryClientOrderId)
    let averagePrice ← check (match source with
      | none => .ok none
      | some record => do
        return (← validateEntryResponse env.lib record decision trade.entryClientOrderId).averagePrice)
    let details ← check (executionShortfallDetails env decision averagePrice)
    let moved ← transitionWithEvent env decision trade trade.state "RECONCILED_CUMULATIVE_ENTRY_FILL"
      (fillEventType position trade.quantity)
      { orderRole := some .ENTRY
        clientOrderId := some trade.entryClientOrderId
        exchangeOrderId := trade.entryExchangeOrderId
        requestedQuantity := trade.quantity
        filledQuantity := position
        positionQuantity := some position
        averagePrice, details }
      { eventPayload := [("position_quantity_hex", .str (env.lib.hex position))]
        filledQuantity := some position }
    return (moved.stored, [moved.1.event])

/-- The exit of a trade whose position is gone: attribute it, persist the trigger, finish. -/
def closeTriggered (decision : Decision) (trade : TradeRecord) (venue : Venue)
    (sidecarEvents : List Record) : Engine (List ExecutionEvent) := do
  let attribution ← check (classifyFlatExit env trade venue sidecarEvents)
  let clientId := if attribution.role = .STOP_LOSS then trade.stopClientOrderId
    else trade.targetClientOrderId
  let moved ← transitionVenueExit env decision trade attribution clientId
  return moved.1.event :: (← finishVenueExit env decision moved.1.trade attribution.role
    attribution.reason none (some attribution) [])

/-- A pending entry that exceeds what was approved is in `PROTECTING` first. -/
def protectExcess (decision : Decision) (trade : TradeRecord) (position : ℚ) :
    Engine (StoredTrade trade.tradeId) := do
  if trade.state = .ENTRY_PENDING then
    let moved ← transitionWithEvent env decision trade .PROTECTING
      "AUTHORITATIVE_POSITION_EXCEEDS_APPROVED_QUANTITY" .FAILED
      { orderRole := some .ENTRY
        clientOrderId := some trade.entryClientOrderId
        requestedQuantity := trade.quantity
        filledQuantity := trade.quantity
        positionQuantity := some position
        details := [("reason", "authoritative_position_exceeds_approval")] }
      { eventPayload := [("observed_quantity_hex", .str (env.lib.hex position))]
        filledQuantity := some trade.quantity
        firstFillAt := some trade.entryEligibleAt
        entryExchangeOrderId := some trade.entryClientOrderId }
    return moved.stored
  else return trade.stored

/-- `_reconcile_trade` where the position exceeds what was approved. -/
def reconcileExcess (decision : Decision) (trade : TradeRecord) (position : ℚ) :
    Engine (List ExecutionEvent) := do
  let ⟨trade, _⟩ ← protectExcess env decision trade position
  if trade.state = .PROTECTING ∨ trade.state = .ACTIVE then
    emergencyClose env decision trade "authoritative position exceeds approved quantity"
  else raise "authoritative position exceeds approved quantity"

/-- `_reconcile_trade` of a pending entry that shows a position. -/
def reconcileFirstFill (decision : Decision) (now : ℤ) (trade : TradeRecord) (venue : Venue)
    (entry : Option Record) (position : ℚ) : Engine (List ExecutionEvent) := do
  let source ← check (match orRecord entry none with
    | some record => .ok record
    | none => do
      return (orRecord (← findHistoricalOrder env.lib venue trade.entryClientOrderId) none).getD [])
  check (if source.isEmpty then .ok ()
    else do let _ ← validateEntryResponse env.lib source decision trade.entryClientOrderId)
  let averagePrice ← check (positiveOptional env.lib (source.get "filledAvgPrice"))
  let details ← check (executionShortfallDetails env decision averagePrice)
  let firstFillAt ← check (responseTime env.lib source trade.entryEligibleAt now trade.entryEligibleAt)
  let exchangeId := responseIdOr env source trade.entryClientOrderId
  let moved ← transitionWithEvent env decision trade .PROTECTING "RECONCILED_FIRST_NONZERO_FILL"
    (fillEventType position trade.quantity)
    { orderRole := some .ENTRY
      clientOrderId := some trade.entryClientOrderId
      exchangeOrderId := some exchangeId
      requestedQuantity := trade.quantity
      filledQuantity := position
      positionQuantity := some position
      averagePrice, details }
    { filledQuantity := some position
      firstFillAt := some firstFillAt
      entryExchangeOrderId := some exchangeId }
  return moved.1.event :: (← protect env decision moved.1.trade)

/-- `placement.response_payload.get("reconciled_absent_and_flat") is True` -/
def markedAbsentAndFlat (placement : Option ExecutionEffect) : Bool :=
  match placement.bind (·.responsePayload) with
  | none => false
  | some payload => match payload.get "reconciled_absent_and_flat" with
    | .bool b => b
    | _ => false

/-- `_reconcile_trade` of a pending entry that is neither open nor filled in `venue`. -/
def reconcileAbsentEntry (decision : Decision) (trade : TradeRecord) (venue : Venue) :
    Engine (List ExecutionEvent) := do
  let cancelled (journal reason : String) : Engine (List ExecutionEvent) := do
    let moved ← transitionWithEvent env decision trade .CANCELLED journal .ENTRY_CANCELLED
      { orderRole := some .ENTRY
        clientOrderId := some trade.entryClientOrderId
        exchangeOrderId := trade.entryExchangeOrderId
        requestedQuantity := trade.quantity
        positionQuantity := some 0
        details := [("reason", reason)] }
    return [moved.1.event]
  let placement ← await (.getEffect (env.effectId trade.tradeId .ENTRY .place))
  if markedAbsentAndFlat placement then
    cancelled "ENTRY_EFFECT_RECONCILED_ABSENT_AND_FLAT" "prepared_entry_reconciled_absent_and_flat"
  else match ← check (findHistoricalOrder env.lib venue trade.entryClientOrderId) with
  | none =>
    await (.markReconciled trade.tradeId
      "entry absent from open projection; awaiting exact terminal history")
    return []
  | some historical =>
    let fill ← check (validateEntryResponse env.lib historical decision trade.entryClientOrderId)
    check (refuse (fill.filled > 0)
      "entry history reports a fill while authoritative position is flat")
    check (refuse (!terminalEntryStatus fill.status)
      "entry is absent from open orders without an exact terminal outcome")
    cancelled "ENTRY_TERMINAL_HISTORY_AND_AUTHORITATIVELY_FLAT" "terminal_entry_history_and_flat"

/-- `_reconcile_trade` of a trade in `ENTRY_PENDING`; `again` is the recursive call. -/
def reconcilePending (again : TradeRecord → Venue → Engine (List ExecutionEvent))
    (decision : Decision) (now : ℤ) (trade : TradeRecord) (venue : Venue) (entry : Option Record)
    (position : ℚ) : Engine (List ExecutionEvent) := do
  if position > 0 then reconcileFirstFill env decision now trade venue entry position
  else if entry.isNone then reconcileAbsentEntry env decision trade venue
  else if now ≥ trade.entryExpiresAt then
    let _ ← cancelEntryEffect env trade
    let venue ← await .fetchPaperState
    let entry ← check (findOrder env.lib venue (some trade.entryClientOrderId))
    check (refuse entry.isSome "expired entry remains open after cancel")
    let position ← check (positionQuantity env venue trade.symbol)
    if position > 0 then again trade venue
    else reconcileAbsentEntry env decision trade venue
  else
    await (.markReconciled trade.tradeId "entry pending before deterministic expiry")
    return []

/-- `_reconcile_trade` of a trade in `PROTECTING`. -/
def reconcileProtecting (decision : Decision) (trade : TradeRecord) (venue : Venue)
    (sidecarEvents : List Record) (position : ℚ) : Engine (List ExecutionEvent) := do
  if position ≤ 0 then closeTriggered env decision trade venue sidecarEvents
  else
    let (⟨trade, _⟩, events) ← recordCumulativeFill env decision trade venue position
    return events ++ (← protect env decision trade)

/-- `_reconcile_trade` of an `ACTIVE` trade whose position is open: both protections must
be live, and the holding time may be over. -/
def reconcileHolding (decision : Decision) (now : ℤ) (trade : TradeRecord) (venue : Venue)
    (events : List ExecutionEvent) : Engine (List ExecutionEvent) := do
  let stop ← check (findTpslById env.lib venue trade.stopExchangeOrderId)
  let target ← check (findTpslById env.lib venue trade.targetExchangeOrderId)
  let live (leg : ProtectionLeg) (record : Option Record) : Except Err Unit := do
    let some record := record
      | throw (.safety s!"ACTIVE trade lacks a live reconciled {leg.role.value}")
    validateTpslRecord env.lib record decision.venueSymbol trade.side.value leg.tpslType leg.price
      trade.entryClientOrderId true false
  check (live (stopLeg trade) stop)
  check (live (targetLeg trade) target)
  let some timeoutAt := trade.timeoutAt | raise "ACTIVE trade has no durable timeout clock"
  if now ≥ timeoutAt then return events ++ (← timeoutClose env decision trade)
  else
    await (.markReconciled trade.tradeId
      "position, entry expiry, stop, target and timeout reconciled")
    return events

/-- A fill beyond the durable one, where the position is open at all. -/
def recordOpenFill (decision : Decision) (trade : TradeRecord) (venue : Venue) (position : ℚ) :
    Engine (StoredTrade trade.tradeId × List ExecutionEvent) :=
  if position > 0 then recordCumulativeFill env decision trade venue position
  else pure (trade.stored, [])

/-- `_reconcile_trade` of a trade in `ACTIVE`. -/
def reconcileActive (decision : Decision) (now : ℤ) (trade : TradeRecord) (venue : Venue)
    (sidecarEvents : List Record) (entry : Option Record) (position : ℚ) :
    Engine (List ExecutionEvent) := do
  let (⟨trade, _⟩, events) ← recordOpenFill env decision trade venue position
  if entry.isSome ∧ now ≥ trade.entryExpiresAt then
    let _ ← cancelEntryEffect env trade
    let venue ← await .fetchPaperState
    let entry ← check (findOrder env.lib venue (some trade.entryClientOrderId))
    check (refuse entry.isSome "partial entry remainder survived expiry cancel")
    let position ← check (positionQuantityForTrade env venue trade)
    let (⟨trade, _⟩, later) ← recordOpenFill env decision trade venue position
    if position ≤ 0 then closeTriggered env decision trade venue sidecarEvents
    else reconcileHolding env decision now trade venue (events ++ later)
  else if position ≤ 0 then closeTriggered env decision trade venue sidecarEvents
  else reconcileHolding env decision now trade venue events

/-- The exit role and reason of an exiting state. -/
def exitFacts : TradeState → Option (OrderRole × ExitReason)
  | .EXITING_STOP => some (.STOP_LOSS, .STOP)
  | .EXITING_TARGET => some (.TAKE_PROFIT, .TARGET)
  | .EXITING_TIMEOUT => some (.TIMEOUT_EXIT, .TIMEOUT)
  | .EXITING_EMERGENCY => some (.EMERGENCY_EXIT, .EMERGENCY)
  | _ => none

/-- `_reconcile_trade` of a trade that is exiting. -/
def reconcileExiting (decision : Decision) (trade : TradeRecord) (role : OrderRole)
    (reason : ExitReason) (sidecarEvents : List Record) (position : ℚ) :
    Engine (List ExecutionEvent) := do
  if position ≤ 0 then finishVenueExit env decision trade role reason none none sidecarEvents
  else if trade.state = .EXITING_TIMEOUT ∨ trade.state = .EXITING_EMERGENCY then
    resumeCloseExit env decision trade role reason
  else
    await (.markReconciled trade.tradeId "venue-triggered exit is still settling")
    return []

/-- `_reconcile_trade` after the lifecycle gap was closed. -/
def reconcileKnown (again : TradeRecord → Venue → Engine (List ExecutionEvent))
    (decision : Decision) (now : ℤ) (trade : TradeRecord) (venue : Venue)
    (sidecarEvents : List Record) (entry : Option Record) (position : ℚ) :
    Engine (List ExecutionEvent) := do
  check (match entry with
    | none => .ok ()
    | some record => do
      let _ ← validateEntryResponse env.lib record decision trade.entryClientOrderId)
  if position > trade.quantity + tolerance trade.quantity then
    reconcileExcess env decision trade position
  else match trade.state with
  | .ENTRY_PENDING => reconcilePending env again decision now trade venue entry position
  | .PROTECTING => reconcileProtecting env decision trade venue sidecarEvents position
  | .ACTIVE => reconcileActive env decision now trade venue sidecarEvents entry position
  | .FAILED_BLOCKED => raise "trade requires operator recovery"
  | state => match exitFacts state with
    | some (role, reason) =>
      reconcileExiting env decision trade role reason sidecarEvents position
    | none => return []

/-- The body of `_reconcile_trade`; `again` is its recursive call. Facts of a closed gap
are returned only where the gap ended the trade, as there are none otherwise. -/
def reconcileTradeWith (again : TradeRecord → Venue → Engine (List ExecutionEvent))
    (trade : TradeRecord) (venue : Venue) (sidecarEvents : List Record) :
    Engine (List ExecutionEvent) := do
  let decision ← check (decisionForTrade env trade)
  let now ← await .clock
  let position ← check (positionQuantityForTrade env venue trade)
  let entry ← check (findOrder env.lib venue (some trade.entryClientOrderId))
  if trade.state = .RECEIVED ∨ trade.state = .ENTRY_PENDING then
    let gap ← recoverPreMutationGap env trade venue
    let some ⟨current, _⟩ ← await (.getTrade trade.tradeId)
      | raise "trade disappeared during lifecycle gap recovery"
    if current.state.terminal then return gap
    else
      return gap ++
        (← reconcileKnown env again decision now current venue sidecarEvents entry position)
  else reconcileKnown env again decision now trade venue sidecarEvents entry position

/-- `_reconcile_trade`. The recursive call is made on a snapshot that does not list the
entry, where the body does not call itself again. -/
def reconcileTrade (trade : TradeRecord) (venue : Venue) (sidecarEvents : List Record) :
    Engine (List ExecutionEvent) :=
  reconcileTradeWith env (fun trade venue =>
      reconcileTradeWith env (fun _ _ => raise "unreachable") trade venue sidecarEvents)
    trade venue sidecarEvents

theorem reconcileTradeWith_absent
    (again again' : TradeRecord → Venue → Engine (List ExecutionEvent)) (trade : TradeRecord)
    (venue : Venue) (sidecarEvents : List Record)
    (absent : findOrder env.lib venue (some trade.entryClientOrderId) = .ok none) :
    reconcileTradeWith env again trade venue sidecarEvents =
      reconcileTradeWith env again' trade venue sidecarEvents := by
  have known : ∀ decision now current position,
      reconcileKnown env again decision now current venue sidecarEvents none position =
        reconcileKnown env again' decision now current venue sidecarEvents none position := by
    intro decision now current position
    simp only [reconcileKnown, reconcilePending, Option.isNone_none, if_true]
  simp only [reconcileTradeWith, absent, check_ok_bind, known]

end KairosExecution.Paper
