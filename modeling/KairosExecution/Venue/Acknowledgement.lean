import KairosExecution.Venue.Contracts

/-! `ExecutionEngine`, its parameters and its pure parts: what is wrong with an
acknowledgement, the price of a protective stop, and the identity of an order. An arithmetic
result of floats is the exact one, rounded. -/

namespace KairosExecution.Venue

open Python

inductive SystemMode
  | NORMAL | LOCAL_QUANT_MODE | other (name : String)
  deriving DecidableEq

inductive ReasonCode
  | ENTER_LONG_TREND | ENTER_SHORT_TREND | CLOSE_POSITION | REDUCE_LEVERAGE | REBALANCE | HOLD
  | NO_TRADE | other (name : String)
  deriving DecidableEq

inductive Action
  | OPEN | CLOSE | REDUCE | NOOP
  deriving DecidableEq

def actionFor : ReasonCode → Action × Option OrderSide
  | .ENTER_LONG_TREND => (.OPEN, some .BUY)
  | .ENTER_SHORT_TREND => (.OPEN, some .SELL)
  | .CLOSE_POSITION => (.CLOSE, none)
  | .REDUCE_LEVERAGE => (.REDUCE, none)
  | .REBALANCE => (.OPEN, none)
  | .HOLD | .NO_TRADE | .other _ => (.NOOP, none)

/-- `ValidatedOrder`; the time it was produced at is in microseconds since the epoch, in UTC. -/
structure ValidatedOrder where
  messageId : String
  approved : Bool
  reasonCode : ReasonCode
  intent : OrderIntent
  producedAt : ℤ

/-- What the engine is built with, and what it takes from the standard library. -/
structure EngineSettings where
  adapter : AdapterProfile
  defaultTrailPct : ℚ
  trailPositive : 0 < defaultTrailPct
  trailBelowOne : defaultTrailPct < 1
  allowedSymbols : List String
  idempotencyCacheSize : ℕ
  cachePositive : 1 ≤ idempotencyCacheSize
  upper : String → String
  casefold : String → String
  /-- `repr(value)` -/
  repr : Value → String
  /-- `sha256(text.encode()).hexdigest()` -/
  sha256 : String → String
  /-- `order.model_dump_json()` -/
  dumpJson : ValidatedOrder → String
  /-- A float result, which may overflow. -/
  rounded : ℚ → Number

variable (e : EngineSettings)

section Identity

/-- `EVEDEX_ORDER_ID_EPOCH`, in days since the epoch. -/
def evedexOrderIdEpoch : ℤ := 20293

/-- `f"{n:05d}"` of a number that has at most five digits. -/
def fiveDigits (n : ℕ) : String :=
  let digits := toString n
  "".pushn '0' (5 - digits.length) ++ digits

def clientOrderId (validatedOrderId exchange : String) (occurredAt : ℤ) : Except Err String :=
  let digest := (e.sha256 ("kairos:v1:" ++ exchange ++ ":" ++ validatedOrderId)).take 32
  if e.casefold exchange = "evedex" then
    let days := occurredAt / 86400000000 - evedexOrderIdEpoch
    if 0 ≤ days ∧ days ≤ 99999 then
      .ok (fiveDigits days.toNat ++ ":" ++ e.upper (digest.take 26).toString)
    else .error (.raised "ValueError" "EVEDEX order timestamp is outside the supported ID range")
  else .ok ("krs-" ++ digest.toString)

def isHexDigit (c : Char) : Bool :=
  c.isDigit || ('a' ≤ c && c ≤ 'f') || ('A' ≤ c && c ≤ 'F')

def isEvedexClientOrderId (value : String) : Bool :=
  let chars := value.toList
  chars.length = 32 && (chars.take 5).all Char.isDigit && chars[5]? = some ':'
    && (chars.drop 6).all isHexDigit

end Identity

section Numbers

/-- A value as the number that the comparisons use; it is one of a checked report. -/
def amount : Value → ℚ
  | .int n => n
  | .float x => x
  | _ => 0

/-- `math.isfinite` of an integer converts it to a float. -/
def overflows (n : ℤ) : Bool := 2 ^ 1024 - 2 ^ 970 ≤ |n|

/-- What is wrong with a numeric field of a report. -/
def numericError (field : String) : Value → Except Err (Option String)
  | .int n =>
    if overflows n then .error (.raised "OverflowError" "int too large to convert to float")
    else .ok (if n < 0 then some (field ++ " must be finite and non-negative") else none)
  | .float x => .ok (if x < 0 then some (field ++ " must be finite and non-negative") else none)
  | .nonfinite _ => .ok (some (field ++ " must be finite and non-negative"))
  | _ => .ok (some (field ++ " must be numeric"))

/-- The first field that is wrong. -/
def firstNumericError : List (String × Value) → Except Err (Option String)
  | [] => .ok none
  | (field, value) :: fields => do
    match ← numericError field value with
    | some error => return some error
    | none => firstNumericError fields

/-- The fields of a report that are numeric. -/
def ExecutionReport.numericFields (report : ExecutionReport) : List (String × Value) :=
  [("requested_qty", report.requestedQty), ("filled_qty", report.filledQty),
    ("remaining_qty", report.remainingQty), ("avg_price", report.avgPrice), ("fees_usd", report.feesUsd)]

/-- `x > limit` -/
def above (x : ℚ) : Number → Bool
  | none => false
  | some limit => limit < x

/-- `abs(x - y) > tolerance` -/
def differs (x y tolerance : ℚ) : Bool :=
  match e.rounded (x - y) with
  | none => true
  | some d => tolerance < |d|

/-- `x + y > limit` -/
def sumAbove (x y : ℚ) (limit : Number) : Bool :=
  match e.rounded (x + y), limit with
  | _, none => false
  | none, some _ => true
  | some sum, some limit => limit < sum

/-- `abs(x + y - z) > tolerance` -/
def sumDiffers (x y z tolerance : ℚ) : Bool :=
  match e.rounded (x + y) with
  | none => true
  | some sum => differs e sum z tolerance

end Numbers

section Acknowledgement

def ReportedStatus.is (reported : ReportedStatus) (status : OrderStatus) : Bool :=
  match reported with
  | .known s => s = status
  | .other _ => false

def ReportedStatus.text : ReportedStatus → String
  | .known s => s.value
  | .other _ => ""

/-- What is wrong with the status, the identity and the place of a report, in the order of the
checks. -/
def identityErrors (report : ExecutionReport) (expectedClientOrderId expectedSymbol : String)
    (expectedSide : Option OrderSide) : List (Option String) :=
  let hasExchangeOrderId := match report.exchangeOrderId with
    | .str id => !blank id
    | _ => false
  [match report.status with
    | .known _ => none
    | .other value => some ("status " ++ e.repr value ++ " is not a recognized OrderStatus"),
   match report.clientOrderId with
    | .str id =>
      if id = expectedClientOrderId then none
      else some ("client_order_id " ++ e.repr (.str id) ++ " does not match "
        ++ e.repr (.str expectedClientOrderId))
    | value => some ("client_order_id " ++ e.repr value ++ " does not match "
        ++ e.repr (.str expectedClientOrderId)),
   match report.exchange with
    | .str exchange =>
      if e.casefold exchange = e.casefold e.adapter.name then none
      else some ("exchange " ++ e.repr (.str exchange) ++ " does not match adapter "
        ++ e.repr (.str e.adapter.name))
    | value => some ("exchange " ++ e.repr value ++ " does not match adapter "
        ++ e.repr (.str e.adapter.name)),
   if !report.status.is .REJECTED && !hasExchangeOrderId then
     some "exchange_order_id is required for a submitted order acknowledgement"
   else none,
   match report.exchangeOrderId with
    | .none => none
    | .str id =>
      if e.adapter.exchangeOrderIdMatchesClientOrderId && id ≠ expectedClientOrderId then
        some "exchange_order_id does not match the deterministic submitted order ID"
      else none
    | _ =>
      if e.adapter.exchangeOrderIdMatchesClientOrderId then
        some "exchange_order_id does not match the deterministic submitted order ID"
      else none,
   match report.symbol with
    | .str symbol =>
      if e.upper symbol = e.upper expectedSymbol then none
      else some ("symbol " ++ e.repr (.str symbol) ++ " does not match " ++ e.repr (.str expectedSymbol))
    | value => some ("symbol " ++ e.repr value ++ " does not match " ++ e.repr (.str expectedSymbol)),
   match expectedSide, report.side with
    | none, _ => none
    | some side, .str reported =>
      if reported = side.value then none
      else some ("side " ++ e.repr (.str reported) ++ " does not match " ++ side.value)
    | some side, value => some ("side " ++ e.repr value ++ " does not match " ++ side.value)]

/-- What is wrong with the quantities of a report, in the order of the checks. -/
def quantityErrors (report : ExecutionReport) (expectedRequestedQty : Option ℚ) : List (Option String) :=
  let requested := amount report.requestedQty
  let filled := amount report.filledQty
  let remaining := amount report.remainingQty
  let base := expectedRequestedQty.getD requested
  let tolerance := max (1 / 10 ^ 12) ((e.rounded (base / 10 ^ 9)).getD 0)
  let limit := e.rounded (requested + tolerance)
  let failing (condition : Bool) (error : String) : Option String := if condition then some error else none
  [failing (expectedRequestedQty.any (differs e requested · tolerance))
      "requested_qty does not match the submitted quantity",
   failing (above filled limit) "filled_qty exceeds requested_qty",
   failing (above remaining limit) "remaining_qty exceeds requested_qty",
   failing (sumAbove e filled remaining limit) "filled_qty plus remaining_qty exceeds requested_qty",
   failing ((report.status.is .NEW || report.status.is .PARTIALLY_FILLED || report.status.is .FILLED)
      && sumDiffers e filled remaining requested tolerance)
      (report.status.text ++ " filled_qty plus remaining_qty must equal requested_qty"),
   failing (report.status.is .FILLED && (differs e filled requested tolerance || tolerance < remaining))
      "FILLED acknowledgement does not account for a complete fill",
   failing (report.status.is .PARTIALLY_FILLED && (filled ≤ 0 || remaining ≤ 0))
      "PARTIALLY_FILLED acknowledgement requires positive filled and remaining quantities"]

def ackError (report : ExecutionReport) (expectedClientOrderId expectedSymbol : String)
    (expectedSide : Option OrderSide) (expectedRequestedQty : Option ℚ) : Except Err (Option String) := do
  match ← firstNumericError report.numericFields with
  | some error => return some error
  | none =>
    return (identityErrors e report expectedClientOrderId expectedSymbol expectedSide
      ++ quantityErrors e report expectedRequestedQty).findSome? id

def executionAckError (report : ExecutionReport) (intent : OrderIntent) (expectedClientOrderId : String) :
    Except Err (Option String) :=
  ackError e report expectedClientOrderId intent.symbol (some intent.side) (some intent.quantity)

end Acknowledgement

section Stop

/-- `abs(entry - stop_price) / entry`, where the stop is protective. -/
def explicitTrail (side : OrderSide) (entry : ℚ) (stopPrice : Number) : Option ℚ := do
  let stop ← stopPrice
  let difference ← e.rounded (entry - stop)
  let trail ← e.rounded (|difference| / entry)
  let protective : Bool := match side with
    | .BUY => stop < entry
    | .SELL => entry < stop
  if protective = true ∧ 0 < trail ∧ trail < 1 then some trail else none

/-- `TrailingStop`, which cannot be made of an anchor or a trail that is out of its range. -/
structure TrailingStop where
  side : OrderSide
  trailPct : ℚ
  anchor : ℚ
  anchorPositive : 0 < anchor
  trailPositive : 0 < trailPct
  trailBelowOne : trailPct < 1

def TrailingStop.stopPrice (stop : TrailingStop) : Except Err ℚ :=
  let factor := match stop.side with
    | .BUY => 1 - stop.trailPct
    | .SELL => 1 + stop.trailPct
  match (e.rounded factor).bind fun factor => e.rounded (stop.anchor * factor) with
  | none => .error (.raised "ValueError" "computed protective-stop price must be finite and positive")
  | some result =>
    if 0 < result then .ok result
    else .error (.raised "ValueError" "computed protective-stop price must be finite and positive")

/-- `TrailingStopManager.open` -/
def openTrailing (side : OrderSide) (entryPrice : ℚ) (trailPct : Option ℚ) : Except Err TrailingStop :=
  let trail := trailPct.getD e.defaultTrailPct
  if anchor : 0 < entryPrice then
    if range : 0 < trail ∧ trail < 1 then .ok ⟨side, trail, entryPrice, anchor, range.1, range.2⟩
    else .error (.raised "ValueError" "trail_pct must be finite and within (0, 1)")
  else .error (.raised "ValueError" "trailing-stop anchor must be finite and positive")

end Stop

end KairosExecution.Venue
