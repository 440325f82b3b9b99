import KairosExecution.Interactive.Session
import KairosExecution.Venue.Acknowledgement

/-! `ExecutionEngine.handle`. What the engine reads of itself before its first call, the cached
result of the order, its mode and its recovery blockers, is one call, and so is the storing of
a result; in between it talks to the venue only. -/

namespace KairosExecution.Venue

open Python Interactive

/-- What the engine reads of itself when it is handed an order. -/
structure Reading where
  completed : Option (String × Option ExecutionReport)
  mode : SystemMode
  blockers : List String

inductive EngineCall
  | read (messageId fingerprint : String)
  | complete (messageId fingerprint : String) (result : Option ExecutionReport)
  | venue (call : VenueCall)

abbrev EngineCall.Answer : EngineCall → Type
  | .read .. => Reading
  | .complete .. => Unit
  | .venue call => call.Answer

abbrev engine : Interface := ⟨EngineCall, EngineCall.Answer⟩

abbrev Engine (α : Type) := Program engine Err α

/-- A call, under its answer's type. -/
abbrev engineCall (c : EngineCall) : Engine c.Answer := @Program.ask engine Err c

/-- A call of the adapter. -/
abbrev adapter (c : VenueCall) : Engine c.Answer := engineCall (.venue c)

/-- `try: ... except Exception as exc: ...` -/
def rescue {α : Type} (body : Engine α) (handler : Err → Engine α) : Engine α := do
  let result ← body.attempt
  match result with
  | .ok a => pure a
  | .error .cancelled => Program.raise .cancelled
  | .error error => handler error

/-- `raise ExecutionSafetyError(...)` -/
def unsafeState {α : Type} (message : String) : Engine α := Program.raise (.safety message)

variable (e : EngineSettings)

section Reconciliation

def positionIsFlat (symbol context : String) : Engine Bool :=
  rescue (adapter (.isPositionFlat symbol)) fun exc =>
    unsafeState (context ++ " failed: " ++ exc.typeName)

def orderIsActive (symbol clientId context : String) : Engine Bool :=
  rescue (adapter (.isOrderActiveByClientId symbol clientId)) fun exc =>
    unsafeState (context ++ " failed: " ++ exc.typeName)

/-- The cancellation of `_cancel_if_active`. -/
def cancelActiveOrder (symbol clientId context : String) : Engine Unit := do
  rescue (adapter (.cancelOrderByClientId symbol clientId)) fun exc =>
    unsafeState (context ++ " cancellation failed: " ++ exc.typeName)
  let remains ← orderIsActive symbol clientId (context ++ " post-cancel lookup")
  if remains then
    unsafeState (context ++ ": order " ++ clientId ++ " remains active after cancellation")
  else pure ()

def cancelIfActive (symbol clientId context : String) : Engine Unit := do
  let active ← orderIsActive symbol clientId (context ++ " open-order lookup")
  if active then cancelActiveOrder symbol clientId context else pure ()

end Reconciliation

section Close

def desiredStateCloseReport (intent : OrderIntent) (closeId detail : String) : ExecutionReport where
  source := "execution-engine"
  clientOrderId := .str closeId
  exchangeOrderId := .none
  exchange := .str e.adapter.name
  symbol := .str intent.symbol
  side := .str intent.side.value
  status := .known .CANCELED
  requestedQty := .float intent.quantity
  filledQty := .float 0
  remainingQty := .float 0
  message := "desired state satisfied: " ++ detail ++ "; no unverified fill is claimed"

def resolveAmbiguousClose (intent : OrderIntent) (closeId : String) (error : Err) :
    Engine ExecutionReport := do
  let flat ← positionIsFlat intent.symbol "ambiguous close position reconciliation"
  if flat then do
    cancelIfActive intent.symbol closeId "ambiguous close already-flat reconciliation"
    return desiredStateCloseReport e intent closeId
      ("ambiguous close reconciled flat after " ++ error.typeName)
  else do
    let active ← orderIsActive intent.symbol closeId "ambiguous close order reconciliation"
    let detail := if active then "remains active" else "is inactive but the position is not flat"
    unsafeState ("ambiguous close " ++ closeId ++ " after " ++ error.typeName ++ " " ++ detail)

/-- What follows a close that was acknowledged. -/
def settleClose (intent : OrderIntent) (closeId : String) (report : ExecutionReport) :
    Engine ExecutionReport := do
  let error ← liftM (executionAckError e report intent closeId)
  let flat ← positionIsFlat intent.symbol "close-position post-submit reconciliation"
  match error with
  | some error => unsafeState ("malformed close acknowledgement: " ++ error)
  | none =>
    if !flat then
      unsafeState ("close acknowledgement status=" ++ report.status.text ++ " did not flatten position")
    else do
      cancelIfActive intent.symbol closeId "flat close post-submit reconciliation"
      return if report.status.is .FILLED then report else
        desiredStateCloseReport e intent closeId
          ("venue position is flat after close status=" ++ report.status.text)

/-- The submission of `_close_to_desired_state`. -/
def submitDesiredClose (intent : OrderIntent) (closeId : String) : Engine ExecutionReport := do
  let submitted ← (adapter (.closePosition intent.symbol (some intent.quantity) (some intent.side)
    closeId)).attempt
  match submitted with
  | .ok report => settleClose e intent closeId report
  | .error .cancelled => Program.raise .cancelled
  | .error error => resolveAmbiguousClose e intent closeId error

def closeToDesiredState (order : ValidatedOrder) : Engine ExecutionReport := do
  let symbol := order.intent.symbol
  let closeId ← liftM (clientOrderId e (order.messageId ++ ":close") e.adapter.name order.producedAt)
  let flat ← positionIsFlat symbol "close-position preflight reconciliation"
  if flat then do
    cancelIfActive symbol closeId "already-flat close preflight"
    return desiredStateCloseReport e order.intent closeId "position already flat"
  else do
    let active ← orderIsActive symbol closeId "close-position preflight order reconciliation"
    if active then
      unsafeState ("deterministic close " ++ closeId ++ " is still active; awaiting venue reconciliation")
    else submitDesiredClose e order.intent closeId

end Close

section Compensation

/-- A finite number that is not negative. -/
def safeNumber : Value → Except Err (Option Value)
  | .int n =>
    if overflows n then .error (.raised "OverflowError" "int too large to convert to float")
    else .ok (if 0 ≤ n then some (.int n) else none)
  | .float x => .ok (if 0 ≤ x then some (.float x) else none)
  | _ => .ok none

/-- `min(filled, quantity)` -/
def leastFill (quantity : ℚ) (filled : Value) : Value :=
  if quantity < amount filled then .float quantity else filled

def compensatedReport (entryReport : ExecutionReport) (intent : OrderIntent) (reason : String) :
    Except Err ExecutionReport := do
  let filled ← safeNumber entryReport.filledQty
  let avgPrice ← safeNumber entryReport.avgPrice
  let feesUsd ← safeNumber entryReport.feesUsd
  return { entryReport with
    clientOrderId := .str ((intent.clientOrderId.filter (· ≠ "")).getD "unknown")
    exchangeOrderId := .none
    exchange := .str e.adapter.name
    symbol := .str intent.symbol
    side := .str intent.side.value
    status := .known .CANCELED
    requestedQty := .float intent.quantity
    filledQty := (filled.map (leastFill intent.quantity)).getD (.float 0)
    remainingQty := .float 0
    avgPrice := avgPrice.getD (.float 0)
    feesUsd := feesUsd.getD (.float 0)
    message := reason ++ "; entry canceled/closed and venue position reconciled flat"
    retryable := false }

/-- The cancellation of an entry, which is inactive then. -/
def cancelEntry (symbol submittedId reason : String) : Engine Unit :=
  rescue
    (do
      adapter (.cancelOrderByClientId symbol submittedId)
      let remains ← adapter (.isOrderActiveByClientId symbol submittedId)
      if remains then
        unsafeState (reason ++ "; entry " ++ submittedId ++ " remains active after cancellation")
      else pure ())
    fun
      | .safety message => unsafeState message
      | exc => unsafeState (reason ++ "; entry cancellation could not be verified: " ++ exc.typeName)

/-- An active remainder of the entry is cancelled before anything else. -/
def cancelRemainder (intent : OrderIntent) (reason : String) : Engine Unit :=
  match intent.clientOrderId.filter (· ≠ "") with
  | none => unsafeState (reason ++ "; entry has no trusted submitted client ID and cannot be cancelled")
  | some id => cancelEntry intent.symbol id reason

/-- What follows an emergency close whose submission raised. -/
def resolveEmergency (intent : OrderIntent) (entryReport : ExecutionReport) (emergencyId reason : String)
    (error : Err) : Engine ExecutionReport := do
  let flat ← positionIsFlat intent.symbol
    (reason ++ "; ambiguous emergency-close position reconciliation")
  if flat then do
    cancelIfActive intent.symbol emergencyId (reason ++ "; ambiguous emergency close already flat")
    liftM (compensatedReport e entryReport intent reason)
  else do
    let active ← orderIsActive intent.symbol emergencyId
      (reason ++ "; ambiguous emergency-close order reconciliation")
    let detail := if active then "remains active" else "is inactive while the position remains open"
    unsafeState (reason ++ "; ambiguous emergency close after " ++ error.typeName ++ " " ++ detail)

/-- What an acknowledged emergency close is still to be refused for. -/
def emergencyError (report : ExecutionReport) (ackError : Option String) (flat : Bool) : Option String :=
  match ackError with
  | some error => some ("malformed emergency-close acknowledgement: " ++ error)
  | none =>
    if report.status.is .REJECTED || report.status.is .CANCELED then
      some ("emergency close status=" ++ report.status.text ++ "; flat=" ++ (if flat then "True" else "False"))
    else if !flat then
      some ("emergency close status=" ++ report.status.text ++ " did not flatten position")
    else none

/-- What follows an emergency close that was acknowledged. -/
def settleEmergency (intent : OrderIntent) (entryReport closeReport : ExecutionReport)
    (emergencyId reason : String) : Engine ExecutionReport := do
  let error ← liftM (ackError e closeReport emergencyId intent.symbol none none)
  let flat ← positionIsFlat intent.symbol (reason ++ "; emergency-close post-submit reconciliation")
  match emergencyError closeReport error flat with
  | some error => unsafeState (reason ++ "; " ++ error)
  | none => do
    cancelIfActive intent.symbol emergencyId (reason ++ "; flat emergency-close reconciliation")
    liftM (compensatedReport e entryReport intent reason)

/-- The emergency close of a position that is not flat. -/
def emergencyClose (order : ValidatedOrder) (intent : OrderIntent) (entryReport : ExecutionReport)
    (reason : String) : Engine ExecutionReport := do
  let emergencyId ← liftM
    (clientOrderId e (order.messageId ++ ":emergency-close") e.adapter.name order.producedAt)
  let active ← orderIsActive intent.symbol emergencyId
    (reason ++ "; emergency-close preflight reconciliation")
  if active then
    unsafeState (reason ++ "; emergency close " ++ emergencyId ++ " remains active")
  else do
    let submitted ← (adapter (.closePosition intent.symbol none none emergencyId)).attempt
    match submitted with
    | .ok report => settleEmergency e intent entryReport report emergencyId reason
    | .error .cancelled => Program.raise .cancelled
    | .error (.safety message) => unsafeState message
    | .error error => resolveEmergency e intent entryReport emergencyId reason error

/-- The remainder of the entry may be active at the venue. -/
def mayRemain (entryReport : ExecutionReport) : Bool :=
  entryReport.status.is .NEW || entryReport.status.is .PARTIALLY_FILLED

/-- A position that is flat before any close needs none. -/
def flatBeforeClose (intent : OrderIntent) (entryReport : ExecutionReport) (reason : String) :
    Engine (Option ExecutionReport) :=
  rescue
    (do
      let flat ← adapter (.isPositionFlat intent.symbol)
      if flat then do
        let report ← liftM (compensatedReport e entryReport intent reason)
        return some report
      else return none)
    fun exc => unsafeState (reason ++ "; pre-close position reconciliation failed: " ++ exc.typeName)

def compensateUnprotected (order : ValidatedOrder) (intent : OrderIntent) (entryReport : ExecutionReport)
    (reason : String) (cancelEntry : Bool) : Engine ExecutionReport := do
  Program.onlyIf ((cancelEntry || mayRemain entryReport) = true) (cancelRemainder intent reason)
  let neutral ← flatBeforeClose e intent entryReport reason
  match neutral with
  | some report => return report
  | none => emergencyClose e order intent entryReport reason

/-- The report of an entry whose submission raised. -/
def uncertainReport (intent : OrderIntent) (error : Err) : ExecutionReport where
  source := "execution-engine"
  clientOrderId := .str ((intent.clientOrderId.filter (· ≠ "")).getD "unknown")
  exchangeOrderId := .none
  exchange := .str e.adapter.name
  symbol := .str intent.symbol
  side := .str intent.side.value
  status := .known .NEW
  requestedQty := .float intent.quantity
  remainingQty := .float intent.quantity
  message := "ambiguous place_order after " ++ error.typeName

/-- `_resolve_ambiguous_entry`, which never returns. -/
def resolveAmbiguousEntry {α : Type} (order : ValidatedOrder) (intent : OrderIntent) (error : Err) :
    Engine α := do
  let _ ← compensateUnprotected e order intent (uncertainReport e intent error)
    ("ambiguous entry mutation after " ++ error.typeName) true
  unsafeState "ambiguous entry mutation was reconciled inactive and flat; delivery remains pending for deterministic redelivery"

end Compensation

section Entry

/-- The identity under which an entry is submitted: the intent's own, unless it has none or EVEDEX
needs another. -/
def exchangeClientId (order : ValidatedOrder) : Except Err String :=
  match order.intent.clientOrderId with
  | none => clientOrderId e order.messageId e.adapter.name order.producedAt
  | some id =>
    if e.casefold e.adapter.name = "evedex" ∧ isEvedexClientOrderId id = false then
      clientOrderId e (if id = "" then order.messageId else id) e.adapter.name order.producedAt
    else .ok id

/-- The intent that is submitted: with its identity, and the side of its action. -/
def submittedIntent (order : ValidatedOrder) (side : Option OrderSide) : Except Err OrderIntent := do
  let id ← exchangeClientId e order
  return { order.intent with clientOrderId := some id, side := side.getD order.intent.side }

/-- `report.avg_price or intent.price or 0.0` -/
def entryPrice (report : ExecutionReport) (intent : OrderIntent) : Number :=
  if amount report.avgPrice ≠ 0 then some (amount report.avgPrice)
  else match intent.price with
    | none => some 0
    | some none => none
    | some (some price) => some price

/-- What the protective stop trails by: an explicit stop's distance, or the default. -/
def trailFor (intent : OrderIntent) (entry : ℚ) : Option (Option ℚ) :=
  match intent.stopPrice with
  | none => some none
  | some stopPrice => (explicitTrail e intent.side entry stopPrice).map some

/-- The protective stop of an entry is computed and submitted. -/
def armStop (intent : OrderIntent) (clientId : String) (entry : ℚ) (trailPct : Option ℚ) :
    Engine ProtectiveStopAck := do
  let stop ← liftM (openTrailing e intent.side entry trailPct)
  let stopPrice ← liftM (stop.stopPrice e)
  adapter (.setProtectiveStop intent.symbol stopPrice intent.side clientId)

/-- An entry is protected, or compensated where its stop fails. -/
def protectEntry (order : ValidatedOrder) (intent : OrderIntent) (clientId : String)
    (report : ExecutionReport) (entry : ℚ) (trailPct : Option ℚ) : Engine ExecutionReport := do
  let armed ← (armStop e intent clientId entry trailPct).attempt
  match armed with
  | .ok _ => return report
  | .error .cancelled => Program.raise .cancelled
  | .error error =>
    compensateUnprotected e order intent report ("protective stop failed: " ++ error.typeName) false

/-- The price of an accepted entry, and how it is protected. -/
def priceEntry (order : ValidatedOrder) (intent : OrderIntent) (clientId : String)
    (report : ExecutionReport) : Engine ExecutionReport :=
  match (entryPrice report intent).filter (0 < ·) with
  | none =>
    compensateUnprotected e order intent report
      "entry submitted without a finite positive protection price" false
  | some entry =>
    match trailFor e intent entry with
    | none =>
      compensateUnprotected e order intent report "entry submitted with an invalid protective stop" false
    | some trailPct => protectEntry e order intent clientId report entry trailPct

/-- What follows an acknowledgement that is well formed. -/
def acceptEntry (order : ValidatedOrder) (intent : OrderIntent) (clientId : String)
    (report : ExecutionReport) : Engine ExecutionReport :=
  if report.status.is .REJECTED then
    if 0 < amount report.filledQty then
      compensateUnprotected e order intent report "rejected entry acknowledgement reported a fill" false
    else pure report
  else if report.status.is .CANCELED ∧ amount report.filledQty = 0 then pure report
  else if mayRemain report ∧ report.exchangeOrderId.isNone then
    compensateUnprotected e order intent report
      "active entry acknowledgement has no exchange order ID" false
  else priceEntry e order intent clientId report

/-- The entry of an order. -/
def openEntry (order : ValidatedOrder) (side : Option OrderSide) : Engine ExecutionReport := do
  let intent ← liftM (submittedIntent e order side)
  let clientId := intent.clientOrderId.getD ""
  let report ← rescue (adapter (.placeOrder intent)) (resolveAmbiguousEntry e order intent)
  let error ← liftM (executionAckError e report intent clientId)
  match error with
  | some error =>
    compensateUnprotected e order intent report ("malformed entry acknowledgement: " ++ error) true
  | none => acceptEntry e order intent clientId report

/-- What an order is handled by once it is not held back. -/
def act (order : ValidatedOrder) : Action × Option OrderSide → Engine (Option ExecutionReport)
  | (.NOOP, _) => pure none
  | (.CLOSE, _) => some <$> closeToDesiredState e order
  | (.REDUCE, _) => do
    adapter (.setLeverage order.intent.symbol (max 1 (order.intent.leverage / 2)))
    return none
  | (.OPEN, side) => some <$> openEntry e order side

/-- `_handle_once`, of what the engine has read. -/
def handleOnce (reading : Reading) (order : ValidatedOrder) : Engine (Option ExecutionReport) :=
  if e.upper order.intent.symbol ∉ e.allowedSymbols then pure none
  else if !order.approved then pure none
  else
    let action := actionFor order.reasonCode
    if reading.blockers ≠ [] ∧ action.1 ≠ .CLOSE then
      unsafeState ("execution journal recovery is incomplete; only protective closes are allowed: "
        ++ "; ".intercalate (reading.blockers.take 3))
    else if reading.mode = .LOCAL_QUANT_MODE ∧ action.1 = .OPEN then pure none
    else act e order action

def handle (order : ValidatedOrder) : Engine (Option ExecutionReport) := do
  let fingerprint := e.sha256 (e.dumpJson order)
  let reading ← engineCall (.read order.messageId fingerprint)
  match reading.completed with
  | some (cachedFingerprint, cachedReport) =>
    if cachedFingerprint ≠ fingerprint then
      unsafeState ("validated-order ID " ++ e.repr (.str order.messageId)
        ++ " was reused with a different payload")
    else pure cachedReport
  | none => do
    let result ← handleOnce e reading order
    engineCall (.complete order.messageId fingerprint result)
    return result

end Entry

end KairosExecution.Venue
