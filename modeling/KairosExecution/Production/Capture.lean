import KairosExecution.Python.Base64
import KairosExecution.Python.JsonTree
import KairosExecution.Production.Wire

/-! Captures of HTTP responses: the fixed reads, and the parser that accepts the bytes of a
response for one of them. The parser answers for what it refuses with an error of its own; the
exceptions of the functions that it calls are told apart, since it names those that it catches. -/

namespace KairosExecution.Production.Capture

open Python

/-- What a call raises: an error of the bridge, or an exception of what the bridge calls. -/
inductive Raised
  | transport (message : String)
  | value
  | type
  | attribute
  | invalidOperation
  | recursion
  deriving DecidableEq

/-- `if condition: raise error` -/
def check (condition : Bool) (error : Raised) : Except Raised Unit :=
  if condition then .error error else .ok ()

@[simp] theorem check_eq_ok {condition : Bool} {error : Raised} {u : Unit} :
    check condition error = .ok u ↔ condition = false := by
  cases condition <;> simp [check]

/-- `except caught: raise ProductionTransportError(message)` -/
def catching {α : Type} (caught : List Raised) (message : String) : Except Raised α → Except Raised α
  | .ok a => .ok a
  | .error e => .error (if e ∈ caught then .transport message else e)

@[simp] theorem catching_eq_ok {α : Type} {caught : List Raised} {message : String}
    {x : Except Raised α} {a : α} : catching caught message x = .ok a ↔ x = .ok a := by
  cases x <;> simp [catching]

/-- A part that must be there. -/
abbrev required {α : Type} (error : Raised) (x : Option α) : Except Raised α := Json.required error x

section Requests

/-- A value of a query. -/
inductive Parameter
  | int (n : ℤ)
  | text (s : String)
  deriving DecidableEq

abbrev Query := List (String × Parameter)

namespace Parameter

/-- `str(value)` -/
def str : Parameter → List Char
  | .int n => (toString n).toList
  | .text s => s.toList

def asInt : Parameter → Option ℤ
  | .int n => some n
  | .text _ => none

def asText : Parameter → Option String
  | .int _ => none
  | .text s => some s

end Parameter

def rawCapturePaths : List (String × String × Query) := [
  ("account_identity", "/api/user/me", []), ("funding", "/api/user/funding", []),
  ("available_balance", "/api/market/available-balance", []), ("positions", "/api/position", []),
  ("open_orders", "/api/order/opened", []),
  ("instruments", "/api/market/instrument", [("fields", .text "metrics")])]

def fundingTransferTypes : List String := ["deposit", "withdraw", "faucet", "faucetLiquidity",
  "realizedPnl", "orderFillFee", "fundingRate", "liquidationFee", "bonusRefund", "yieldReward",
  "copyTradingFee"]

/-- A time with its offset from UTC, or without one, in microseconds. -/
inductive Instant
  | naive (time : ℤ)
  | aware (utc offset : ℤ)

/-- `later - earlier`, of two times that both have an offset or both have none. -/
def Instant.since : Instant → Instant → Option ℤ
  | .naive later, .naive earlier => some (later - earlier)
  | .aware later _, .aware earlier _ => some (later - earlier)
  | _, _ => none

/-- What the interpreter supplies: digests, the times of texts, and the room for nested calls of
the scanner. -/
structure Runtime where
  /-- `hashlib.sha256(body).hexdigest()` -/
  sha256 : List UInt8 → String
  /-- `datetime.fromisoformat`, `none` where it raises `ValueError` -/
  fromIsoFormat : String → Option Instant
  room : ℕ

/-- `text.replace("Z", "+00:00")` -/
def replaceZ (text : String) : String :=
  String.ofList (text.toList.flatMap fun c => if c = 'Z' then "+00:00".toList else [c])

/-- `[0-9]{4}-[0-9]{2}-[0-9]{2}T[0-9]{2}:[0-9]{2}:[0-9]{2}\.[0-9]{3}Z` -/
def isMillisecondUtc (text : String) : Bool :=
  let pattern := "0000-00-00T00:00:00.000Z".toList
  text.toList.length = pattern.length
    && (pattern.zip text.toList).all fun (p, c) => if p = '0' then c.isDigit else c = p

def historyInterval (rt : Runtime) (after before : Option String) : Except Raised (String × String) :=
  catching [.attribute, .type, .value]
    "history requires an explicit increasing UTC interval of at most one day" do
    let after ← required .value after
    let before ← required .value before
    check (!isMillisecondUtc after || !isMillisecondUtc before) .value
    let start ← required .value (rt.fromIsoFormat (replaceZ after))
    let stop ← required .value (rt.fromIsoFormat (replaceZ before))
    let span ← required .type (stop.since start)
    check (¬(0 < span ∧ span ≤ 86_400_000_000)) .value
    return (after, before)

/-- The arguments of `_raw_capture_request`. -/
structure Arguments where
  version : Option ℤ := none
  limit : Option ℤ := none
  offset : Option ℤ := none
  nextCursor : Option String := none
  instrument : Option String := none
  maxLevel : Option ℤ := none
  orderId : Option String := none
  after : Option String := none
  before : Option String := none
  transferType : Option String := none

/-- An integer of a range. -/
def within (low high : ℤ) (n : Option ℤ) : Option ℤ := n.filter fun n => low ≤ n ∧ n ≤ high

/-- A text under its field, where it is there. -/
def optionally (field : String) (value : Option String) : Query :=
  value.toList.map fun text => (field, .text text)

def orderFillsRequest (a : Arguments) : Except Raised (Query × Query) := do
  let error := Raised.transport "order fills require one exact V2 order ID"
  let orderId ← required error (a.orderId.filter isEvedexClientOrderId)
  check (a.version.isSome || a.limit.isSome || a.offset.isSome || a.nextCursor.isSome
    || a.instrument.isSome || a.maxLevel.isSome || a.after.isSome || a.before.isSome
    || a.transferType.isSome) error
  return ([("source", .text "order_fills"), ("order_id", .text orderId)], [("version", .int 2)])

/-- The part of a history page that its query and its payload share. -/
def historyPage (after before : String) (limit offset : ℤ) : Query :=
  [("after", .text after), ("before", .text before), ("limit", .int limit), ("offset", .int offset)]

def historyRequest (rt : Runtime) (source : String) (a : Arguments) :
    Except Raised (Query × Query) := do
  let (after, before) ← historyInterval rt a.after a.before
  let error := Raised.transport "history page query is outside the fixed read contract"
  let limit ← required error (within 1 100 a.limit)
  let offset ← required error (within 0 10_000 a.offset)
  check (a.version.isSome || a.nextCursor.isSome || a.maxLevel.isSome || a.orderId.isSome
    || (source = "funding_transfers" && a.instrument.isSome)
    || (source = "fill_history" && a.transferType.isSome)
    || a.transferType.any (· ∉ fundingTransferTypes) || a.instrument.any (!isInstrument ·)) error
  let page := historyPage after before limit offset
  return (("source", .text source) :: page ++ optionally "transfer_type" a.transferType
      ++ optionally "instrument" a.instrument,
    page ++ optionally "type" a.transferType ++ optionally "instrument" a.instrument)

def depthRequest (a : Arguments) : Except Raised (Query × Query) := do
  let error := Raised.transport "raw depth query is outside the fixed read contract"
  let instrument ← required error (a.instrument.filter isInstrument)
  let maxLevel ← required error (within 1 100 a.maxLevel)
  check (a.version.isSome || a.limit.isSome || a.offset.isSome || a.nextCursor.isSome) error
  return ([("source", .text "depth"), ("instrument", .text instrument), ("max_level", .int maxLevel)],
    [("maxLevel", .int maxLevel)])

def orderPageRequest (a : Arguments) : Except Raised (Query × Query) := do
  let error := Raised.transport "raw order capture query is outside the fixed read contract"
  let version ← required error (a.version.filter (· = 2))
  let limit ← required error (within 1 100 a.limit)
  let offset ← required error (within 0 10_000 a.offset)
  check (a.nextCursor.any fun cursor => cursor = "" || cursor.length > 500) error
  let query : Query := [("version", .int version), ("limit", .int limit), ("offset", .int offset)]
  return (("source", .text "order_page") :: query ++ optionally "next_cursor" a.nextCursor,
    query ++ optionally "next" a.nextCursor ++ [("withTpSL", .text "")])

def tpslPageRequest (a : Arguments) : Except Raised (Query × Query) := do
  let error := Raised.transport "raw TP/SL capture query is outside the fixed read contract"
  check (a.version.isSome || a.nextCursor.isSome) error
  let limit ← required error (within 1 100 a.limit)
  let offset ← required error (within 0 10_000 a.offset)
  let query : Query := [("limit", .int limit), ("offset", .int offset)]
  return (("source", .text "tpsl_page") :: query, query)

def fixedRequest (source : String) (query : Query) (a : Arguments) : Except Raised (Query × Query) := do
  check (a.version.isSome || a.limit.isSome || a.offset.isSome || a.nextCursor.isSome)
    (.transport "raw capture parameters are not valid for this fixed source")
  return ([("source", .text source)], query)

/-- `_raw_capture_request`: the payload of the request and its query. -/
def rawCaptureRequest (rt : Runtime) (source : String) (a : Arguments) : Except Raised (Query × Query) :=
  if source = "order_fills" then orderFillsRequest a
  else if source = "funding_transfers" ∨ source = "fill_history" then historyRequest rt source a
  else if a.orderId.isSome || a.after.isSome || a.before.isSome || a.transferType.isSome then
    .error (.transport "history parameters are not valid for this fixed source")
  else if source = "depth" then depthRequest a
  else if a.instrument.isSome || a.maxLevel.isSome then
    .error (.transport "raw capture instrument/depth fields are not valid for this source")
  else match rawCapturePaths.lookup source with
    | some (_, query) => fixedRequest source query a
    | none =>
      if source = "order_page" then orderPageRequest a
      else if source = "tpsl_page" then tpslPageRequest a
      else .error
        (.transport "raw capture source is outside the fixed account/history allowlist")

end Requests

section Routes

/-- `set(query) == keys` -/
def sameKeys {α : Type} (query : List (String × α)) (keys : List String) : Bool :=
  query.all (fun entry => entry.1 ∈ keys) && keys.all fun key => (query.lookup key).isSome

/-- `query == other` -/
def sameQuery (query other : Query) : Bool :=
  (query ++ other).all fun entry => query.lookup entry.1 = other.lookup entry.1

/-- A field that is a text where it is there; `none` where it is something else. -/
def textIfAny : Option Parameter → Option (Option String)
  | none => some none
  | some (.text s) => some (some s)
  | some (.int _) => none

def orderFillsPath (rt : Runtime) (query : Query) (orderId : Option String) :
    Except Raised (String × Query) := do
  check (!sameQuery query [("version", .int 2)])
    (.transport "raw order fills query differs from the fixed read contract")
  let (_, authorized) ← rawCaptureRequest rt "order_fills" { orderId := orderId }
  return ("/api/order/" ++ orderId.getD "None" ++ "/fill", authorized)

def historyPath (rt : Runtime) (source : String) (query : Query) : Except Raised (String × Query) := do
  let allowed := ["after", "before", "limit", "offset"]
  let optional := if source = "funding_transfers" then "type" else "instrument"
  check (!sameKeys query allowed && !sameKeys query (optional :: allowed))
    (.transport "raw history query differs from the fixed read contract")
  let error := Raised.transport "raw history query values are malformed"
  let limit ← required error ((query.lookup "limit").bind Parameter.asInt)
  let offset ← required error ((query.lookup "offset").bind Parameter.asInt)
  let after ← required error ((query.lookup "after").bind Parameter.asText)
  let before ← required error ((query.lookup "before").bind Parameter.asText)
  let transferType ← required error (textIfAny (query.lookup "type"))
  let instrument ← required error (textIfAny (query.lookup "instrument"))
  let (_, authorized) ← rawCaptureRequest rt source
    { limit := some limit, offset := some offset, after := some after, before := some before,
      transferType := transferType, instrument := instrument }
  return (if source = "funding_transfers" then "/api/user/funding-transfer" else "/api/fill", authorized)

def depthPath (rt : Runtime) (query : Query) (instrument : Option String) :
    Except Raised (String × Query) := do
  check (!sameKeys query ["maxLevel"])
    (.transport "raw depth query is outside the fixed read contract")
  let maxLevel ← required (.transport "raw depth maximum level must be an exact integer")
    ((query.lookup "maxLevel").bind Parameter.asInt)
  let (_, authorized) ← rawCaptureRequest rt "depth" { instrument := instrument, maxLevel := some maxLevel }
  return ("/api/market/" ++ instrument.getD "None" ++ "/deep", authorized)

def orderPagePath (rt : Runtime) (query : Query) : Except Raised (String × Query) := do
  check ((!sameKeys query ["version", "limit", "offset", "withTpSL"]
      && !sameKeys query ["version", "limit", "offset", "next", "withTpSL"])
      || query.lookup "withTpSL" ≠ some (.text ""))
    (.transport "raw order query is outside the fixed read contract")
  let nextCursor ← required (.transport "raw order cursor is malformed") (textIfAny (query.lookup "next"))
  let error := Raised.transport "raw order query values are malformed"
  let version ← required error ((query.lookup "version").bind Parameter.asInt)
  let limit ← required error ((query.lookup "limit").bind Parameter.asInt)
  let offset ← required error ((query.lookup "offset").bind Parameter.asInt)
  let (_, authorized) ← rawCaptureRequest rt "order_page"
    { version := some version, limit := some limit, offset := some offset, nextCursor := nextCursor }
  return ("/api/order", authorized)

def tpslPagePath (rt : Runtime) (query : Query) : Except Raised (String × Query) := do
  check (!sameKeys query ["limit", "offset"])
    (.transport "raw TP/SL query is outside the fixed read contract")
  let error := Raised.transport "raw TP/SL query values are malformed"
  let limit ← required error ((query.lookup "limit").bind Parameter.asInt)
  let offset ← required error ((query.lookup "offset").bind Parameter.asInt)
  let (_, authorized) ← rawCaptureRequest rt "tpsl_page" { limit := some limit, offset := some offset }
  return ("/api/tpsl", authorized)

def fixedPath (source : String) (query : Query) : Except Raised (Option (String × Query)) :=
  match rawCapturePaths.lookup source with
  | none => .ok none
  | some route => do
    check (!sameQuery query route.2)
      (.transport "raw capture query is outside the fixed read contract")
    return some route

/-- The route that the arguments name and its query, `expected_path`. -/
def expectedPath (rt : Runtime) (source : String) (query : Query) (instrument orderId : Option String) :
    Except Raised (Option (String × Query)) :=
  if source = "order_fills" then (orderFillsPath rt query orderId).map some
  else if source = "funding_transfers" ∨ source = "fill_history" then
    (historyPath rt source query).map some
  else if source = "depth" then (depthPath rt query instrument).map some
  else if source = "order_page" then (orderPagePath rt query).map some
  else if source = "tpsl_page" then (tpslPagePath rt query).map some
  else fixedPath source query

end Routes

end KairosExecution.Production.Capture
