import KairosExecution.Interactive.Duty
import KairosExecution.Venue.Contracts

/-! `JournaledExchangeAdapter`. Every mutation is prepared in the effect journal before it is
submitted and confirmed after it; a call that finds its effect prepared by an earlier one
returns what is recorded of it, or recovers it under its lock. What the journal stores of a
request and of a response is kept by kind. -/

namespace KairosExecution.Venue

open Python Interactive

inductive EffectType
  | PLACE_ORDER | CLOSE_POSITION | PROTECTIVE_STOP | CANCEL_ORDER | SET_LEVERAGE
  deriving DecidableEq

def EffectType.value : EffectType → String
  | .PLACE_ORDER => "PLACE_ORDER"
  | .CLOSE_POSITION => "CLOSE_POSITION"
  | .PROTECTIVE_STOP => "PROTECTIVE_STOP"
  | .CANCEL_ORDER => "CANCEL_ORDER"
  | .SET_LEVERAGE => "SET_LEVERAGE"

/-- A mutation, as its caller asks for it and as the request of its effect records it. -/
inductive Mutation
  | place (intent : OrderIntent)
  | close (symbol : String) (quantity : Option ℚ) (side : Option OrderSide)
      (clientOrderId : Option String)
  | stop (symbol : String) (stopPrice : ℚ) (positionSide : OrderSide) (parentOrderId : String)
  | cancel (symbol clientOrderId : String)
  | leverage (symbol : String) (leverage : ℚ)
  deriving DecidableEq

/-- What the response of an effect records. -/
inductive Response
  | report (payload : Value)
  | stop (exchangeOrderId : String)
  | flat
  | inactive
  | leverage (leverage : ℚ)

/-- `ExecutionEffect`: a row of the effect journal. -/
structure ExecutionEffect where
  effectKey : String
  effectType : EffectType
  symbol : String
  clientOrderId : Option String
  request : Mutation
  status : EffectStatus
  exchangeEffectId : Option Value
  response : Option Response
  error : Option String

/-- `effect.status in {EffectStatus.CONFIRMED, EffectStatus.RECONCILED}` -/
def ExecutionEffect.settled (effect : ExecutionEffect) : Bool := !effect.status.unresolved

/-- What a preparation asks for. -/
structure Preparation where
  effectKey : String
  effectType : EffectType
  symbol : String
  clientOrderId : Option String
  request : Mutation
  deriving DecidableEq

structure EffectPreparation where
  effect : ExecutionEffect
  created : Bool

/-- What the adapter calls: the journal, and the venue. -/
inductive JournaledCall
  | prepare (preparation : Preparation)
  | confirm (effectKey : String) (exchangeEffectId : Value) (response : Response)
  | reconcile (effectKey : String) (exchangeEffectId : Option Value) (response : Response)
  | recoveryRequired
  | lock (effectKey : String)
  | unlock (effectKey : String)
  | venue (call : VenueCall)

abbrev JournaledCall.Answer : JournaledCall → Type
  | .prepare _ => EffectPreparation
  | .confirm .. | .reconcile .. | .lock _ | .unlock _ => Unit
  | .recoveryRequired => List ExecutionEffect
  | .venue call => call.Answer

abbrev journaled : Interface := ⟨JournaledCall, JournaledCall.Answer⟩

abbrev Journaled (α : Type) := Program journaled Err α

/-- A call, under its answer's type. -/
abbrev calls (c : JournaledCall) : Journaled c.Answer := @Program.ask journaled Err c

/-- A call of the venue. -/
abbrev venue (c : VenueCall) : Journaled c.Answer := calls (.venue c)

/-- `to_payload` and `model_validate` of the `ExecutionReport` of `kairos_core`: a report reads back as
it was written. -/
structure ReportFormat where
  toPayload : ExecutionReport → Value
  modelValidate : Value → Except Err ExecutionReport
  roundTrip : ∀ report, modelValidate (toPayload report) = .ok report

/-- The adapter that is wrapped, the format of the reports, the hexadecimal SHA-256 of an identity,
and `f"{symbol}:{float(leverage).hex()}"`. -/
structure Wrapped extends AdapterProfile, ReportFormat where
  digest : String → String
  leverageIdentity : String → ℚ → String

section Identity

def clientId (value : Option String) (operation : String) : Except Err String :=
  match value with
  | none => .error (.raised "ValueError" (operation ++ " requires a deterministic client order ID"))
  | some id =>
    if blank id then .error (.raised "ValueError" (operation ++ " requires a deterministic client order ID"))
    else .ok id

def Wrapped.key (w : Wrapped) (effectType : EffectType) (identity : String) : String :=
  w.name ++ ":" ++ effectType.value ++ ":" ++ w.digest identity

end Identity

section Cached

/-- What is recorded of a report. -/
def Wrapped.reported (w : Wrapped) (report : ExecutionReport) : Response :=
  .report (w.toPayload report)

/-- `_cached_report`, of a settled effect. -/
def cachedReport (w : Wrapped) (effect : ExecutionEffect) : Except Err ExecutionReport :=
  match effect.response with
  | none => .error (.recovery ("effect " ++ effect.effectKey ++ " has no cached response"))
  | some (.report payload) => w.modelValidate payload
  | some _ => .error (.raised "ValidationError" effect.effectKey)

def cachedStop (effect : ExecutionEffect) : Except Err ProtectiveStopAck :=
  match effect.response with
  | none => .error (.recovery ("effect " ++ effect.effectKey ++ " has no cached stop response"))
  | some (.stop id) =>
    if named : blank id = false then .ok ⟨id, named⟩
    else .error (.raised "ValueError" "protective-stop acknowledgement has no exchange order ID")
  | some _ => .error (.recovery ("effect " ++ effect.effectKey ++ " has an invalid cached stop ID"))

end Cached

/-- `report.exchange_order_id or client_id` -/
def exchangeIdOr (report : ExecutionReport) (clientId : String) : Value :=
  if Lib.truthy report.exchangeOrderId then report.exchangeOrderId else .str clientId

variable (w : Wrapped)

section Recovery

/-- `async with self.journal.recovery_lock(effect_key)` -/
def locked {α : Type} (effectKey : String) (body : Journaled α) : Journaled α :=
  Program.bracket (calls (.lock effectKey)) (calls (.unlock effectKey)) body

def neutralReport (intent : OrderIntent) (clientId detail : String) : ExecutionReport where
  source := "execution-engine"
  clientOrderId := .str clientId
  exchangeOrderId := .str clientId
  exchange := .str w.name
  symbol := .str intent.symbol
  side := .str intent.side.value
  status := .known .CANCELED
  requestedQty := .float intent.quantity
  message := detail

/-- An order that is active is cancelled, and is inactive then. -/
def cancelPrepared (symbol submittedId : String) : Journaled Unit := do
  let active ← venue (.isOrderActiveByClientId symbol submittedId)
  Program.onlyIf (active = true) do
    venue (.cancelOrderByClientId symbol submittedId)
    let remains ← venue (.isOrderActiveByClientId symbol submittedId)
    if remains then Program.raise (.recovery "prepared entry remains active after cancellation")
    else pure ()

/-- What `_recover_prepared_place` does under the lock. -/
def recoverPlace (effect : ExecutionEffect) (intent : OrderIntent) : Journaled ExecutionReport := do
  let submittedId ← clientId intent.clientOrderId "place order"
  cancelPrepared intent.symbol submittedId
  let flat ← venue (.isPositionFlat intent.symbol)
  if flat then do
    let response := neutralReport w intent submittedId "prepared entry reconciled inactive and flat"
    calls (.reconcile effect.effectKey (some (.str submittedId)) (w.reported response))
    return response
  else Program.raise (.recovery "prepared entry is inactive but the position is not flat")

def recoverPreparedPlace (effect : ExecutionEffect) (intent : OrderIntent) : Journaled ExecutionReport :=
  if effect.status = .FAILED then
    Program.raise (.recovery ("place effect " ++ effect.effectKey ++ " is FAILED"))
  else locked effect.effectKey (recoverPlace w effect intent)

/-- The report of a close that needed nothing more. -/
def flatCloseReport (effect : ExecutionEffect) (quantity : Option ℚ) (side : Option OrderSide) :
    ExecutionReport where
  source := "execution-engine"
  clientOrderId := .str ((effect.clientOrderId.filter (· ≠ "")).getD "unknown")
  exchangeOrderId := match effect.clientOrderId with
    | none => .none
    | some id => .str id
  exchange := .str w.name
  symbol := .str effect.symbol
  side := .str (side.getD .BUY).value
  status := .known .CANCELED
  requestedQty := .float (quantity.getD 0)
  message := "prepared close reconciled to the flat desired state"

/-- What `_recover_prepared_close` does under the lock. -/
def recoverClose (effect : ExecutionEffect) (quantity : Option ℚ) (side : Option OrderSide) :
    Journaled ExecutionReport := do
  let flat ← venue (.isPositionFlat effect.symbol)
  if flat then do
    let report := flatCloseReport w effect quantity side
    calls (.reconcile effect.effectKey (effect.clientOrderId.map Value.str) (w.reported report))
    return report
  else Program.raise (.recovery "prepared close has not reached a flat position")

def recoverPreparedClose (effect : ExecutionEffect) (quantity : Option ℚ) (side : Option OrderSide) :
    Journaled ExecutionReport :=
  if effect.status = .FAILED then
    Program.raise (.recovery ("close effect " ++ effect.effectKey ++ " is FAILED"))
  else locked effect.effectKey (recoverClose w effect quantity side)

/-- A stop whose position is flat needs no protection. -/
def noLongerRequired (effect : ExecutionEffect) : Journaled ProtectiveStopAck := do
  calls (.reconcile effect.effectKey none .flat)
  Program.raise (.noLongerRequired "position is already flat; protective stop is not required")

/-- The stop that is submitted where the venue proves that there is none. -/
def submitMissingStop (effect : ExecutionEffect) (stopPrice : ℚ) (positionSide : OrderSide)
    (parentOrderId : String) : Journaled ProtectiveStopAck := do
  let flat ← venue (.isPositionFlat effect.symbol)
  if flat then noLongerRequired effect
  else do
    let ack ← venue (.setProtectiveStop effect.symbol stopPrice positionSide parentOrderId)
    calls (.confirm effect.effectKey (.str ack.exchangeOrderId) (.stop ack.exchangeOrderId))
    return ack

/-- Where no lookup can prove that there is no stop, only a flat position settles it. -/
def settleFlatStop (effect : ExecutionEffect) : Journaled ProtectiveStopAck := do
  let flat ← venue (.isPositionFlat effect.symbol)
  if flat then noLongerRequired effect
  else Program.raise (.recovery (w.name ++ " cannot authoritatively deduplicate a prepared protective stop"))

/-- What `_recover_prepared_stop` does under the lock. -/
def recoverStop (effect : ExecutionEffect) (stopPrice : ℚ) (positionSide : OrderSide)
    (parentOrderId : String) : Journaled ProtectiveStopAck :=
  if w.protectiveStopLookupAuthoritative then do
    let existing ← venue (.findProtectiveStop effect.symbol stopPrice positionSide parentOrderId)
    match existing with
    | some ack => do
      calls (.reconcile effect.effectKey (some (.str ack.exchangeOrderId)) (.stop ack.exchangeOrderId))
      return ack
    | none => submitMissingStop effect stopPrice positionSide parentOrderId
  else settleFlatStop w effect

def recoverPreparedStop (effect : ExecutionEffect) (stopPrice : ℚ) (positionSide : OrderSide)
    (parentOrderId : String) : Journaled ProtectiveStopAck :=
  locked effect.effectKey (recoverStop w effect stopPrice positionSide parentOrderId)

end Recovery

section Operations

/-- A new place is submitted, and confirmed. -/
def submitPlace (effectKey clientId : String) (intent : OrderIntent) : Journaled ExecutionReport := do
  let report ← venue (.placeOrder intent)
  calls (.confirm effectKey (exchangeIdOr report clientId) (w.reported report))
  return report

def placeOrder (intent : OrderIntent) : Journaled ExecutionReport := do
  let id ← clientId intent.clientOrderId "place order"
  let preparation ← calls (.prepare {
    effectKey := w.key .PLACE_ORDER id
    effectType := .PLACE_ORDER
    symbol := intent.symbol
    clientOrderId := some id
    request := .place intent })
  let effect := preparation.effect
  if preparation.created then submitPlace w effect.effectKey id intent
  else if effect.settled then liftM (cachedReport w effect)
  else recoverPreparedPlace w effect intent

/-- A new close is submitted, and confirmed. -/
def submitClose (effectKey clientId symbol : String) (quantity : Option ℚ) (side : Option OrderSide) :
    Journaled ExecutionReport := do
  let report ← venue (.closePosition symbol quantity side clientId)
  calls (.confirm effectKey (exchangeIdOr report clientId) (w.reported report))
  return report

def closePosition (symbol : String) (quantity : Option ℚ) (side : Option OrderSide)
    (clientOrderId : Option String) : Journaled ExecutionReport := do
  let id ← clientId clientOrderId "close position"
  let preparation ← calls (.prepare {
    effectKey := w.key .CLOSE_POSITION id
    effectType := .CLOSE_POSITION
    symbol
    clientOrderId := some id
    request := .close symbol quantity side (some id) })
  let effect := preparation.effect
  if preparation.created then submitClose w effect.effectKey id symbol quantity side
  else if effect.settled then liftM (cachedReport w effect)
  else recoverPreparedClose w effect quantity side

/-- A new stop is submitted, and confirmed. -/
def submitStop (effectKey symbol : String) (stopPrice : ℚ) (positionSide : OrderSide)
    (parentOrderId : String) : Journaled ProtectiveStopAck := do
  let ack ← venue (.setProtectiveStop symbol stopPrice positionSide parentOrderId)
  calls (.confirm effectKey (.str ack.exchangeOrderId) (.stop ack.exchangeOrderId))
  return ack

def setProtectiveStop (symbol : String) (stopPrice : ℚ) (positionSide : OrderSide)
    (parentOrderId : String) : Journaled ProtectiveStopAck := do
  let effectKey := w.key .PROTECTIVE_STOP parentOrderId
  let preparation ← calls (.prepare {
    effectKey
    effectType := .PROTECTIVE_STOP
    symbol
    clientOrderId := some parentOrderId
    request := .stop symbol stopPrice positionSide parentOrderId })
  let effect := preparation.effect
  if preparation.created then submitStop effectKey symbol stopPrice positionSide parentOrderId
  else if effect.settled then liftM (cachedStop effect)
  else if effect.status = .FAILED then
    Program.raise (.recovery ("protective effect " ++ effect.effectKey ++ " is FAILED"))
  else recoverPreparedStop w effect stopPrice positionSide parentOrderId

/-- What `cancel_order_by_client_id` does under the lock. -/
def cancelActive (effectKey symbol clientOrderId : String) : Journaled Unit := do
  let active ← venue (.isOrderActiveByClientId symbol clientOrderId)
  if active then do
    venue (.cancelOrderByClientId symbol clientOrderId)
    let remains ← venue (.isOrderActiveByClientId symbol clientOrderId)
    if remains then
      Program.raise (.recovery ("order " ++ clientOrderId ++ " remains active after cancellation"))
    else calls (.confirm effectKey (.str clientOrderId) .inactive)
  else calls (.reconcile effectKey (some (.str clientOrderId)) .inactive)

def cancelOrderByClientId (symbol clientOrderId : String) : Journaled Unit := do
  let effectKey := w.key .CANCEL_ORDER clientOrderId
  let preparation ← calls (.prepare {
    effectKey
    effectType := .CANCEL_ORDER
    symbol
    clientOrderId := some clientOrderId
    request := .cancel symbol clientOrderId })
  let effect := preparation.effect
  if !preparation.created && effect.settled then return ()
  else if !preparation.created && effect.status = .FAILED then
    Program.raise (.recovery ("cancel effect " ++ effect.effectKey ++ " is FAILED"))
  else locked effectKey (cancelActive effectKey symbol clientOrderId)

/-- A new leverage is submitted, and confirmed. -/
def submitLeverage (effectKey symbol : String) (leverage : ℚ) : Journaled Unit := do
  venue (.setLeverage symbol leverage)
  calls (.confirm effectKey (.str symbol) (.leverage leverage))

def setLeverage (symbol : String) (leverage : ℚ) : Journaled Unit := do
  let effectKey := w.key .SET_LEVERAGE (w.leverageIdentity symbol leverage)
  let preparation ← calls (.prepare {
    effectKey
    effectType := .SET_LEVERAGE
    symbol
    clientOrderId := none
    request := .leverage symbol leverage })
  let effect := preparation.effect
  if preparation.created then submitLeverage effectKey symbol leverage
  else if effect.settled then return ()
  else Program.raise (.recovery ("leverage effect " ++ effect.effectKey ++ " requires reconciliation"))

def recoverEffect (effect : ExecutionEffect) : Journaled Unit :=
  match effect.request with
  | .stop _ stopPrice positionSide parentOrderId => do
    let _ ← recoverPreparedStop w effect stopPrice positionSide parentOrderId
    return ()
  | .cancel .. => do
    let id ← clientId effect.clientOrderId "cancel recovery"
    cancelOrderByClientId w effect.symbol id
  | .place intent => do
    let _ ← recoverPreparedPlace w effect intent
    return ()
  | .close _ quantity side _ => do
    let _ ← recoverPreparedClose w effect quantity side
    return ()
  | .leverage .. =>
    Program.raise (.recovery (effect.effectType.value ++ " cannot be reconciled automatically"))

/-- What `recover_pending` makes of the recovery of an effect. -/
def blocker (effect : ExecutionEffect) (recovered : Except Err Unit) : Except Err (List String) :=
  match recovered with
  | .ok () | .error (.noLongerRequired _) => .ok []
  | .error .cancelled => .error .cancelled
  | .error error => .ok [effect.effectKey ++ ": " ++ error.typeName ++ ": " ++ error.text]

/-- One effect of `recover_pending`. -/
def recoverOne (effect : ExecutionEffect) : Journaled (List String) :=
  if effect.status = .FAILED then
    pure [effect.effectKey ++ ": FAILED: " ++ (effect.error.filter (· ≠ "")).getD "unknown error"]
  else do
    let recovered ← (recoverEffect w effect).attempt
    liftM (blocker effect recovered)

/-- The effects of `recover_pending`, one after the other. -/
def recoverAll : List ExecutionEffect → Journaled (List String)
  | [] => pure []
  | effect :: effects => do
    let first ← recoverOne w effect
    let rest ← recoverAll effects
    return first ++ rest

def recoverPending : Journaled (List String) := do
  let effects ← calls .recoveryRequired
  recoverAll w effects

end Operations

end KairosExecution.Venue
