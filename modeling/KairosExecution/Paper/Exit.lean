import KairosExecution.Paper.Journal

/-! The ways out of a position. A venue-triggered exit must be attributed to one filled
STOP or TARGET; a manual close must be proven filled and must not compete with such a
trigger; both cancel the protection that is left before the trade may become FLAT. A
manual close first cancels a fillable entry remainder and measures what is left. -/

namespace KairosExecution.Paper

open Python Interactive Interactive.Program

variable (env : Env)

/-- `a or b` of optional dicts: an empty dict counts as absent. -/
def orRecord (a b : Option Record) : Option Record :=
  match a with
  | some (field :: fields) => some (field :: fields)
  | _ => b

/-- What a trade keeps about one of its two protections. -/
structure ProtectionLeg where
  role : OrderRole
  exchangeId : Option String
  clientId : Option String
  tpslType : String
  price : ℚ
  reason : ExitReason
  exitState : TradeState

def stopLeg (trade : TradeRecord) : ProtectionLeg where
  role := .STOP_LOSS
  exchangeId := trade.stopExchangeOrderId
  clientId := trade.stopClientOrderId
  tpslType := "STOP_LOSS"
  price := trade.stopPrice
  reason := .STOP
  exitState := .EXITING_STOP

def targetLeg (trade : TradeRecord) : ProtectionLeg where
  role := .TAKE_PROFIT
  exchangeId := trade.targetExchangeOrderId
  clientId := trade.targetClientOrderId
  tpslType := "TAKE_PROFIT"
  price := trade.targetPrice
  reason := .TARGET
  exitState := .EXITING_TARGET

section Trigger

/-- `_validate_trigger_exit_order`: the filled quantity, the average price and the fee. -/
def validateTriggerExitOrder (trade : TradeRecord) (order : Record) (triggerOrderId : String)
    (triggeredQuantity : ℚ) : Except Err (ℚ × ℚ × ℚ) := do
  let lib := env.lib
  refuse ((← requiredText lib (order.get "id") "trigger order ID") ≠ triggerOrderId)
    "trigger order history changed the generated order ID"
  let expectedSymbol ← env.symbolMap trade.symbol
  refuse (upperField lib order "instrument" ≠ lib.upper expectedSymbol)
    "trigger order has the wrong DEV instrument"
  refuse (upperField lib order "side" ≠ (if trade.side = .BUY then "SELL" else "BUY"))
    "trigger order has the wrong closing side"
  refuse (upperField lib order "type" ≠ "MARKET") "generated TP/SL exit order is not MARKET"
  let group := order.get "group"
  refuse (!group.isNone && lib.replace (lib.casefold (lib.str group)) "_" "-" ∉ ["tpsl", "tp-sl"])
    "generated TP/SL exit order has the wrong order group"
  refuse (orderStatus lib order ≠ "FILLED") "generated TP/SL exit order is not FILLED"
  let quantity ← requiredNonnegativeNumber lib order "quantity"
  let remaining ← requiredNonnegativeNumber lib order "unFilledQuantity"
  let tol := tolerance triggeredQuantity
  refuse (!isclose quantity triggeredQuantity 1e-9 tol)
    "trigger order quantity differs from TP/SL evidence"
  refuse (!isclose remaining 0 1e-9 tol) "trigger order retains unfilled quantity"
  let averagePrice ← positive lib (order.get "filledAvgPrice") "trigger fill average price"
  return (quantity, averagePrice, ← orderFeeUsd lib order true)

/-- The terminal ones among the records of a protection; a record that is not terminal
must not name a generated exit order. -/
def terminalRecords (trade : TradeRecord) (leg : ProtectionLeg) (venueSymbol : String)
    (records : List Record) : Except Err (List Record) :=
  filterRows (fun record => do
    validateTpslRecord env.lib record venueSymbol trade.side.value leg.tpslType leg.price
      trade.entryClientOrderId false false
    if isTerminalTpsl env.lib record then return true
    match record.get "triggerOrder" with
    | .none | .str "" => return false
    | .list _ | .dict _ => throw (.raised "TypeError" "unhashable type")
    | _ => throw (.safety "non-triggered TP/SL unexpectedly references a generated exit order"))
    records

/-- The one value on which all the terminal records agree. -/
def agreed {α : Type} [DecidableEq α] (values : List α) (message : String) : Except Err α :=
  match values.dedup with
  | [value] => .ok value
  | _ => .error (.safety message)

/-- The records of one protection: the authoritative one, else those of the events. -/
def protectionRecords (authoritative : Option Record) (eventRecords : List Record)
    (protectionId : String) : List Record :=
  match authoritative with
  | some record => [record]
  | none => eventRecords.filter fun record => env.lib.str (record.get "id") = protectionId

/-- One round of `_proven_venue_trigger`: the exit that this protection's records prove. -/
def provenLeg (trade : TradeRecord) (venue : Venue) (eventRecords : List Record)
    (leg : ProtectionLeg) : Except Err (Option VenueTriggeredExit) := do
  let lib := env.lib
  match leg.exchangeId with
  | none => return none
  | some protectionId =>
    let authoritative ← findTpslById lib venue (some protectionId)
    let records := protectionRecords env authoritative eventRecords protectionId
    if records.isEmpty then return none
    let venueSymbol ← env.symbolMap trade.symbol
    let terminal ← terminalRecords env trade leg venueSymbol records
    if terminal.isEmpty then return none
    let triggerOrderId ← agreed (← terminal.mapM fun record =>
        requiredText lib (record.get "triggerOrder") "triggered TP/SL exit order ID")
      "TP/SL trigger projections disagree on exit order ID"
    let triggeredQuantity ← agreed (← terminal.mapM fun record =>
        positive lib (record.get "triggeredQuantity") "TP/SL triggeredQuantity")
      "TP/SL trigger projections disagree on quantity"
    refuse (!closeTo triggeredQuantity trade.filledQuantity)
      "triggered TP/SL quantity differs from durable filled exposure"
    refuse (terminal.any fun record => match record.get "cancelledReason" with
        | .str s => s ≠ ""
        | _ => true)
      "triggered TP/SL has a cancellation reason or malformed reason"
    let some triggerOrder ← findHistoricalOrder lib venue triggerOrderId
      | throw (.safety "triggered TP/SL lacks its generated order in complete order history")
    let (filledQuantity, averagePrice, feeUsd) ←
      validateTriggerExitOrder env trade triggerOrder triggerOrderId triggeredQuantity
    return some {
      role := leg.role, reason := leg.reason, targetState := leg.exitState
      protectionId, triggerOrderId, triggerOrder, filledQuantity, averagePrice, feeUsd }

def provenVenueTrigger (trade : TradeRecord) (venue : Venue) (sidecarEvents : List Record) :
    Except Err (Option VenueTriggeredExit) := do
  let eventRecords := (sidecarEvents.filter fun event =>
    upperField env.lib event "type" = "TPSL").flatMap fun event => eventObjects (event.get "payload")
  let stop ← provenLeg env trade venue eventRecords (stopLeg trade)
  let target ← provenLeg env trade venue eventRecords (targetLeg trade)
  match stop, target with
  | some _, some _ => throw (.safety "STOP and TARGET both have authoritative fill evidence")
  | some triggered, none | none, some triggered => return some triggered
  | none, none => return none

def classifyFlatExit (trade : TradeRecord) (venue : Venue) (sidecarEvents : List Record) :
    Except Err VenueTriggeredExit := do
  let some triggered ← provenVenueTrigger env trade venue sidecarEvents
    | throw (.safety "flat position cannot be attributed uniquely to a filled STOP or TARGET order")
  return triggered

end Trigger

/-- `_recover_terminal_public_fact`; it audits and never emits. -/
def recoverTerminalPublicFact (trade : TradeRecord) : Engine Unit := do
  let facts ← await (.listExecutionEvents trade.tradeId)
  match trade.state with
  | .CANCELLED =>
    check (refuse (!facts.any fun fact =>
        fact.eventType = .ENTRY_CANCELLED ∧ fact.lifecycleState = .CANCELLED)
      "terminal CANCELLED trade lacks its atomic public lifecycle fact")
  | .FLAT =>
    check (refuse (!facts.any fun fact => fact.lifecycleState = .FLAT
        ∧ (fact.eventType = .EXIT_FILLED ∨ fact.eventType = .EMERGENCY_CLOSE))
      "terminal FLAT trade lacks its atomic public lifecycle fact")
  | _ => pure ()

/-- `float.fromhex(value)` -/
def fromHex (lib : Lib) (text : String) : Except Err Number :=
  match lib.fromHex text with
  | some x => .ok x
  | none => .error (.raised "ValueError" "invalid hexadecimal floating-point string")

/-- The proof that a manual close filled: its order record reads FILLED over the whole
requested quantity. -/
def assertCloseFilled (closeRecord : Record) (closeClientId : String) (requested : Number) :
    Except Err Unit := do
  let some requested := requested
    | throw (.safety "close ACK quantity differs from authoritative exposure")
  let fill ← validateCloseResponse env.lib closeRecord closeClientId requested
  refuse (fill.status ≠ "FILLED" || !closeTo fill.filled requested)
    "manual close did not authoritatively fill its full quantity"

def assertManualCloseWon (trade : TradeRecord) (role : OrderRole) (response : Option Record) :
    Engine Unit := do
  let some effect ← await (.getEffect (env.effectId trade.tradeId role .close))
    | raise "flat position lacks a durable close effect"
  let quantityText ← check (requiredText env.lib (effect.requestPayload.get "quantity_hex")
    "close quantity")
  let requested ← check (fromHex env.lib quantityText)
  let closeClientId ← check (requiredOption env.lib trade.closeClientOrderId
    "durable close client order ID")
  let venue ← await .fetchPaperState
  let historical ← check (findHistoricalOrder env.lib venue closeClientId)
  let some closeRecord := orRecord historical (orRecord response effect.responsePayload)
    | raise "flat position lacks exact close-order fill proof"
  check (assertCloseFilled env closeRecord closeClientId requested)
  let triggered ← check (provenVenueTrigger env trade venue [])
  check (refuse triggered.isSome "manual close and TP/SL have competing terminal venue evidence")

section Cleanup

/-- The `id` of a create effect's recorded response, where it is not blank. -/
def responseId (effect : ExecutionEffect) : Option String :=
  match effect.responsePayload with
  | none => none
  | some payload => match payload.get "id" with
    | .none => none
    | raw => if env.lib.blank (env.lib.str raw) then none else some (env.lib.str raw)

/-- The lineage a create effect must share with its trade. -/
def sameLineage (trade : TradeRecord) (role : OrderRole) (effect : ExecutionEffect) : Bool :=
  effect.tradeId = some trade.tradeId && effect.accountId = trade.accountId
    && effect.environment = trade.environment && effect.orderRole = some role

/-- The protection record that matches a leg's geometry, validated. -/
def geometryRecord (trade : TradeRecord) (venue : Venue) (leg : ProtectionLeg) :
    Except Err (Option Record) := do
  let record ← findTpsl env.lib venue leg.tpslType leg.price trade.entryClientOrderId
  match record with
  | none => return none
  | some record =>
    let venueSymbol ← env.symbolMap trade.symbol
    validateTpslRecord env.lib record venueSymbol trade.side.value leg.tpslType leg.price
      trade.entryClientOrderId false true
    return some record

/-- The distinct exchange identities under which a protection is known. -/
def candidateIds (leg : ProtectionLeg) (effect : Option ExecutionEffect)
    (responseId geometryId : Option String) : List String :=
  ([leg.exchangeId, effect.bind (·.exchangeEffectId), responseId, geometryId].filterMap id).dedup

/-- What `_cancel_remaining_protection` decides about one leg from what it has read. -/
inductive LegVerdict
  | settled
  | cancel (tpslId : String)

/-- The decision part of one round of `_cancel_remaining_protection`. -/
def legVerdict (trade : TradeRecord) (venue : Venue) (leg : ProtectionLeg) (completed : Bool)
    (effect : Option ExecutionEffect) (responseId geometryId : Option String) :
    Except Err LegVerdict :=
  match candidateIds leg effect responseId geometryId with
  | [] =>
    if effect.isSome then
      .error (.safety "TP/SL create outcome is ambiguous and cancellation cannot be proven")
    else .ok .settled
  | [tpslId] => do
    let record ← findTpslById env.lib venue (some tpslId)
    match record with
    | some record =>
      let venueSymbol ← env.symbolMap trade.symbol
      validateTpslRecord env.lib record venueSymbol trade.side.value leg.tpslType leg.price
        trade.entryClientOrderId false (effect.all (·.status.unresolved))
      return if isLiveTpsl env.lib record then .cancel tpslId else .settled
    | none =>
      -- an absent record is terminal proof only where it was once reconciled
      return if completed || effect.any (·.status = .RECONCILED) then .settled else .cancel tpslId
  | _ => .error (.safety "TP/SL cleanup found conflicting exchange identities")

/-- The create effect of a protection that the snapshot shows: an unresolved one is
reconciled with the record. -/
def reconcileCreated (created : Option ExecutionEffect) (geometry : Option Record)
    (geometryId : Option String) : Engine (Option ExecutionEffect) := do
  match created, geometry with
  | some effect, some record =>
    if effect.status.unresolved then
      let reconciled ← await (.reconcileEffect effect.effectKey geometryId record)
      return some reconciled
    else return created
  | _, _ => return created

/-- One round of `_cancel_remaining_protection`. -/
def cancelLeg (decision : Decision) (trade : TradeRecord) (venue : Venue) (leg : ProtectionLeg)
    (completed : Bool) : Engine Unit := do
  let created ← await (.getEffect (env.effectId trade.tradeId leg.role .create))
  check (refuse (!created.all (sameLineage trade leg.role)) "TP/SL effect lineage is inconsistent")
  let response := created.bind (responseId env)
  let geometry ← check (geometryRecord env trade venue leg)
  let geometryId ← check (match geometry with
    | none => .ok none
    | some record => some <$> requiredText env.lib (record.get "id") "TP/SL exchange ID")
  let created ← reconcileCreated created geometry geometryId
  match ← check (legVerdict env trade venue leg completed created response geometryId) with
  | .settled => pure ()
  | .cancel tpslId =>
    let clientId := match orElseText leg.clientId (created.bind (·.clientOrderId)) with
      | some clientId => clientId
      | none => env.clientId trade.tradeId leg.role decision.decidedAtMs
    cancelTpslEffect env trade leg.role clientId tpslId
where
  /-- `a or b` of optional strings -/
  orElseText (a b : Option String) : Option String :=
    match a with
    | some "" | none => b
    | some text => some text

def cancelRemainingProtection (trade : TradeRecord) (completedRole : Option OrderRole) :
    Engine Unit := do
  let venue ← await .fetchPaperState
  let decision ← check (decisionForTrade env trade)
  cancelLeg env decision trade venue (stopLeg trade) (completedRole = some .STOP_LOSS)
  cancelLeg env decision trade venue (targetLeg trade) (completedRole = some .TAKE_PROFIT)

end Cleanup

/-- `ENTRY_FILLED` where the quantity is the whole approved one, else a partial fill. -/
def fillEventType (filled quantity : ℚ) : EventType :=
  if isclose filled quantity 1e-9 0 then .ENTRY_FILLED else .ENTRY_PARTIAL_FILL

/-- Cancel the entry remainder, and read the snapshot that no longer lists it. -/
def cancelOpenEntry (trade : TradeRecord) : Engine Venue := do
  let _ ← cancelEntryEffect env trade
  let venue ← await .fetchPaperState
  let entry ← check (findOrder env.lib venue (some trade.entryClientOrderId))
  check (refuse entry.isSome "entry remainder remains open before position close")
  return venue

/-- `_cancel_entry_and_measure_position`: the trade, the position to close, the facts. -/
def cancelEntryAndMeasurePosition (decision : Decision) (trade : TradeRecord) :
    Engine (StoredTrade trade.tradeId × ℚ × List ExecutionEvent) := do
  let first ← await .fetchPaperState
  let entry ← check (findOrder env.lib first (some trade.entryClientOrderId))
  let venue ← (if entry.isSome then cancelOpenEntry env trade else pure first)
  let quantity ← check (positionQuantityForTrade env venue trade)
  let tol := tolerance trade.quantity
  if quantity > trade.filledQuantity + tol ∧ quantity ≤ trade.quantity + tol
      ∧ (trade.state = .PROTECTING ∨ trade.state = .ACTIVE) then
    let moved ← transitionWithEvent env decision trade trade.state
      "CUMULATIVE_FILL_RECONCILED_BEFORE_CLOSE" (fillEventType quantity trade.quantity)
      { orderRole := some .ENTRY
        clientOrderId := some trade.entryClientOrderId
        exchangeOrderId := trade.entryExchangeOrderId
        requestedQuantity := trade.quantity
        filledQuantity := min quantity trade.quantity
        positionQuantity := some quantity
        details := [("reason", "cumulative_fill_reconciled_before_close")] }
      { eventPayload := [("position_quantity_hex", .str (env.lib.hex quantity))]
        filledQuantity := some (min quantity trade.quantity) }
    return (moved.stored, quantity, [moved.1.event])
  else return (trade.stored, quantity, [])

def freshCloseClientId (tradeId : String) (role : OrderRole) : Engine String := do
  let now ← await .clock
  return env.clientId tradeId role (milliseconds now)

/-- `position_quantity(venue) > 0 or find_order(venue, entry) is not None` -/
def stillExposed (venue : Venue) (trade : TradeRecord) : Except Err Bool := do
  let quantity ← positionQuantity env venue trade.symbol
  if quantity > 0 then return true
  let entry ← findOrder env.lib venue (some trade.entryClientOrderId)
  return entry.isSome

/-- `str(response.get("id", fallback))` -/
def responseIdOr (response : Record) (fallback : String) : String :=
  env.lib.str (response.getD "id" (.str fallback))

/-- Persist that an emergency close is required, unless that is the durable state. -/
def enterEmergency (decision : Decision) (trade : TradeRecord) (reason : String)
    (closeQuantity : ℚ) : Engine (StoredTrade trade.tradeId × List ExecutionEvent) := do
  if trade.state = .EXITING_EMERGENCY then return (trade.stored, [])
  else
    let closeClientId ← freshCloseClientId env trade.tradeId .EMERGENCY_EXIT
    let moved ← transitionWithEvent env decision trade .EXITING_EMERGENCY
      "EMERGENCY_CLOSE_REQUIRED" .EXIT_TRIGGERED
      { effectId := some (env.effectId trade.tradeId .EMERGENCY_EXIT .close)
        orderRole := some .EMERGENCY_EXIT
        clientOrderId := some closeClientId
        requestedQuantity := closeQuantity
        exitReason := some .EMERGENCY
        details := [("reason", reason)] }
      { eventPayload := [("reason", .str reason)], closeClientOrderId := some closeClientId }
    return (moved.stored, [moved.1.event])

def emergencyClose (decision : Decision) (trade : TradeRecord) (reason : String) :
    Engine (List ExecutionEvent) := do
  let (⟨trade, _⟩, closeQuantity, events) ← cancelEntryAndMeasurePosition env decision trade
  let effectId := env.effectId trade.tradeId .EMERGENCY_EXIT .close
  let (⟨trade, _⟩, triggered) ← enterEmergency env decision trade reason closeQuantity
  let closeClientId ← check (requiredOption env.lib trade.closeClientOrderId
    "durable emergency close client ID")
  let response : Record ← (if closeQuantity > 0 then
      closeEffect env trade effectId closeClientId decision.leverage .EMERGENCY_CLOSE .EMERGENCY_EXIT
        closeQuantity
    else pure [])
  let venue ← await .fetchPaperState
  let exchangeId := responseIdOr env response closeClientId
  let spec : FactSpec := {
    effectId := if closeQuantity > 0 then some effectId else none
    orderRole := some .EMERGENCY_EXIT
    clientOrderId := some closeClientId
    exchangeOrderId := some exchangeId
    requestedQuantity := closeQuantity
    exitReason := some .EMERGENCY
    details := [("reason", reason)] }
  let patch : TradePatch := {
    closeClientOrderId := some closeClientId, closeExchangeOrderId := some exchangeId }
  if ← check (stillExposed env venue trade) then
    let position ← check (positionQuantity env venue trade.symbol)
    let _ ← transitionWithEvent env decision trade .FAILED_BLOCKED "EMERGENCY_CLOSE_NOT_FLAT" .FAILED
      { spec with positionQuantity := some position }
      { patch with eventPayload := [("reason", .str reason)] }
    raise "emergency close did not reconcile entry and position to FLAT"
  else
    onlyIf (closeQuantity > 0) (assertManualCloseWon env trade .EMERGENCY_EXIT (some response))
    cancelRemainingProtection env trade none
    let closed ← transitionWithEvent env decision trade .FLAT "EMERGENCY_CLOSE_RECONCILED_FLAT"
      .EMERGENCY_CLOSE { spec with filledQuantity := closeQuantity, positionQuantity := some 0 } patch
    return events ++ triggered ++ [closed.1.event]

/-- The client id under which an exit of this role is known. -/
def exitClientId (trade : TradeRecord) (role : OrderRole) : Except Err String :=
  match role with
  | .STOP_LOSS => present trade.stopClientOrderId
  | .TAKE_PROFIT => present trade.targetClientOrderId
  | _ => requiredOption env.lib trade.closeClientOrderId "durable close client order ID"
where
  present : Option String → Except Err String
    | some id => .ok id
    | none => .error (.safety "exit role lacks deterministic client lineage")

/-- The attribution of a venue-triggered exit: the given one, or one from a fresh
snapshot; it must have the durable role and reason. -/
def exitAttribution (trade : TradeRecord) (role : OrderRole) (reason : ExitReason)
    (attribution : Option VenueTriggeredExit) (sidecarEvents : List Record) :
    Engine VenueTriggeredExit := do
  let attribution ← (match attribution with
    | some attribution => pure attribution
    | none => do
      let venue ← await .fetchPaperState
      check (classifyFlatExit env trade venue sidecarEvents))
  check (refuse (attribution.role ≠ role ∨ attribution.reason ≠ reason)
    "durable exit role differs from authoritative trigger")
  return attribution

def finishVenueExit (decision : Decision) (trade : TradeRecord) (role : OrderRole)
    (reason : ExitReason) (response : Option Record) (attribution : Option VenueTriggeredExit)
    (sidecarEvents : List Record) : Engine (List ExecutionEvent) := do
  let closeClientId ← check (exitClientId env trade role)
  onlyIf (role = .TIMEOUT_EXIT ∨ role = .EMERGENCY_EXIT)
    (assertManualCloseWon env trade role response)
  let protectionRole := role = .STOP_LOSS ∨ role = .TAKE_PROFIT
  let triggered ← (if protectionRole then
      some <$> exitAttribution env trade role reason attribution sidecarEvents
    else pure none)
  cancelRemainingProtection env trade (if protectionRole then some role else none)
  if trade.state = .FLAT then
    recoverTerminalPublicFact trade
    return []
  else
    let response := response.getD []
    let exchangeId := match triggered with
      | some exit => exit.triggerOrderId
      | none => responseIdOr env response closeClientId
    let averagePrice ← check (match triggered with
      | some exit => .ok (some exit.averagePrice)
      | none => positiveOptional env.lib (response.get "filledAvgPrice"))
    let feeUsd ← check (match triggered with
      | some exit => .ok exit.feeUsd
      | none => orderFeeUsd env.lib response false)
    let completed ← transitionWithEvent env decision trade .FLAT
      (reason.value ++ "_EXIT_RECONCILED_FLAT")
      (if reason = .EMERGENCY then .EMERGENCY_CLOSE else .EXIT_FILLED)
      { orderRole := some role
        clientOrderId := some closeClientId
        exchangeOrderId := some exchangeId
        requestedQuantity := trade.filledQuantity
        filledQuantity := trade.filledQuantity
        positionQuantity := some 0
        averagePrice, feeUsd
        exitReason := some reason
        details := match triggered with
          | none => []
          | some exit => [("evedex_protection_id", exit.protectionId)] }
      { closeClientOrderId := some closeClientId, closeExchangeOrderId := some exchangeId }
    return [completed.1.event]

def transitionVenueExit (decision : Decision) (trade : TradeRecord) (attribution : VenueTriggeredExit)
    (clientId : Option String) : Engine (Moved trade.tradeId attribution.targetState) := do
  let some clientId := clientId | raise "triggered TP/SL lacks deterministic client lineage"
  transitionWithEvent env decision trade attribution.targetState
    (attribution.reason.value ++ "_TRIGGER_RECONCILED") .EXIT_TRIGGERED
    { orderRole := some attribution.role
      clientOrderId := some clientId
      exchangeOrderId := some attribution.triggerOrderId
      requestedQuantity := trade.filledQuantity
      filledQuantity := attribution.filledQuantity
      positionQuantity := some 0
      averagePrice := some attribution.averagePrice
      feeUsd := attribution.feeUsd
      exitReason := some attribution.reason
      details := [("evedex_protection_id", attribution.protectionId)] }
    { closeClientOrderId := some clientId
      closeExchangeOrderId := some attribution.triggerOrderId }

def resumeCloseExit (decision : Decision) (trade : TradeRecord) (role : OrderRole)
    (reason : ExitReason) : Engine (List ExecutionEvent) := do
  let (⟨trade, _⟩, closeQuantity, events) ← cancelEntryAndMeasurePosition env decision trade
  if closeQuantity ≤ 0 then
    return events ++ (← finishVenueExit env decision trade role reason none none [])
  else
    let closeClientId ← check (requiredOption env.lib trade.closeClientOrderId
      "durable close client order ID")
    let effectType := if role = .TIMEOUT_EXIT then EffectType.TIMEOUT_CLOSE else .EMERGENCY_CLOSE
    let effectId := env.effectId trade.tradeId role .close
    let response ← closeEffect env trade effectId closeClientId decision.leverage effectType role
      closeQuantity
    let venue ← await .fetchPaperState
    if ← check (stillExposed env venue trade) then
      let position ← check (positionQuantity env venue trade.symbol)
      let exchangeId := responseIdOr env response closeClientId
      let failed ← transitionWithEvent env decision trade .FAILED_BLOCKED
        (reason.value ++ "_CLOSE_NOT_FLAT") .FAILED
        { effectId := some effectId
          orderRole := some role
          clientOrderId := some closeClientId
          exchangeOrderId := some exchangeId
          requestedQuantity := closeQuantity
          positionQuantity := some position
          exitReason := some reason
          details := [("reason", reason.value.toLower ++ "_close_not_flat")] }
        { closeClientOrderId := some closeClientId, closeExchangeOrderId := some exchangeId }
      raise (reason.value ++ " close did not reconcile entry and position to FLAT; failure fact " ++
        failed.1.event.eventId ++ " is durable")
    else
      let some ⟨latest, _⟩ ← await (.getTrade trade.tradeId)
        | raise "trade disappeared during close reconciliation"
      return events ++ (← finishVenueExit env decision latest role reason (some response) none [])

def timeoutClose (decision : Decision) (trade : TradeRecord) : Engine (List ExecutionEvent) := do
  let closeClientId ← freshCloseClientId env trade.tradeId .TIMEOUT_EXIT
  let moved ← transitionWithEvent env decision trade .EXITING_TIMEOUT "TIMEOUT_WON_EXIT_RACE"
    .EXIT_TRIGGERED
    { effectId := some (env.effectId trade.tradeId .TIMEOUT_EXIT .close)
      orderRole := some .TIMEOUT_EXIT
      clientOrderId := some closeClientId
      requestedQuantity := trade.filledQuantity
      exitReason := some .TIMEOUT }
    { closeClientOrderId := some closeClientId }
  return moved.1.event :: (← resumeCloseExit env decision moved.1.trade .TIMEOUT_EXIT .TIMEOUT)

end KairosExecution.Paper
