import KairosExecution.Paper.Types

/-! Reading venue records: required fields, numbers, the unique record of an identity,
and the validators of the entry, close and TP/SL records. A reader that cannot prove
what it reads raises; it never returns a default in its place. -/

namespace KairosExecution.Paper

open Python

/-- A `fetch_paper_state` snapshot of the venue account. -/
abbrev Venue := Record

/-- `value["list"]` where `value` is a dict that holds a list there. -/
def unwrapList (value : Value) : Value :=
  match value with
  | .dict d => match Record.get d "list" with
    | .list items => Value.list items
    | _ => value
  | _ => value

def list (value : Value) : Except Err (List Record) :=
  match unwrapList value with
  | .none => .ok []
  | .list items => match items.mapM Value.asDict with
    | some rows => .ok rows
    | none => .error (.safety "venue reconciliation list is malformed")
  | _ => .error (.safety "venue reconciliation list is malformed")

def object (value : Value) (field : String) : Except Err Record :=
  match value with
  | .dict d => .ok d
  | _ => .error (.safety s!"venue {field} is malformed")

def eventObjects : Value → List Record
  | .dict d => match Record.get d "list" with
    | .list items => items.filterMap Value.asDict
    | _ => [d]
  | .list items => items.filterMap Value.asDict
  | _ => []

section Numbers

variable (lib : Lib)

def requiredText (value : Value) (field : String) : Except Err String :=
  match value with
  | .str s => if lib.blank s then .error (.safety s!"{field} is missing") else .ok s
  | _ => .error (.safety s!"{field} is missing")

/-- `_required_text` of an optional string of the durable rows. -/
def requiredOption (value : Option String) (field : String) : Except Err String :=
  match value with
  | some s => requiredText lib (.str s) field
  | none => .error (.safety s!"{field} is missing")

def finite (value : Value) : Except Err ℚ :=
  match (match value with
    | .none => .ok (some 0)
    | v => lib.toFloat v : Except FloatError Number) with
  | .error .malformed => .error (.safety "venue numeric value is malformed")
  | .error .overflow => .error (.raised "OverflowError" "int too large to convert to float")
  | .ok none => .error (.safety "venue numeric value must be finite and non-negative")
  | .ok (some x) =>
    if x < 0 then .error (.safety "venue numeric value must be finite and non-negative") else .ok x

def positive (value : Value) (field : String) : Except Err ℚ := do
  let result ← finite lib value
  if result ≤ 0 then throw (.safety s!"{field} must be positive")
  return result

def positiveOptional (value : Value) : Except Err (Option ℚ) := do
  let result ← finite lib value
  return if result > 0 then some result else none

def requiredNonnegativeNumber (value : Record) (field : String) : Except Err ℚ :=
  match value.get field with
  | .none | .bool _ => .error (.safety s!"venue ACK lacks explicit {field}")
  | v => finite lib v

def positiveDecimal (value : Value) (field : String) : Except Err ℚ :=
  match value with
  | .none | .bool _ => .error (.safety s!"{field} must be a finite positive decimal")
  | v => match lib.decimal (lib.str v) with
    | some (some x) =>
      if x ≤ 0 then .error (.safety s!"{field} must be a finite positive decimal") else .ok x
    | _ => .error (.safety s!"{field} must be a finite positive decimal")

def canonicalDecimal (value : ℚ) : String :=
  let text := lib.fixed value
  let text := if text.toList.contains '.' then lib.rstrip (lib.rstrip text "0") "." else text
  if text = "" ∨ text = "-0" then "0" else text

def isoTimestampMs (value : Value) (field : String) : Except Err ℤ :=
  match value with
  | .str s =>
    if s = "" then .error (.safety s!"{field} must be a non-empty ISO-8601 timestamp")
    else match lib.fromIsoFormat (lib.replace s "Z" "+00:00") with
      | none => .error (.safety s!"{field} must be a valid ISO-8601 timestamp")
      | some none => .error (.safety s!"{field} must be timezone-aware")
      | some (some t) => .ok (milliseconds t)
  | _ => .error (.safety s!"{field} must be a non-empty ISO-8601 timestamp")

theorem finite_nonneg {lib : Lib} {value : Value} {x : ℚ} (h : finite lib value = .ok x) :
    0 ≤ x := by
  unfold finite at h
  split at h
  · cases h
  · cases h
  · cases h
  · split at h
    · cases h
    · cases h; exact not_lt.1 ‹_›

theorem requiredNonnegativeNumber_nonneg {lib : Lib} {r : Record} {field : String} {x : ℚ}
    (h : requiredNonnegativeNumber lib r field = .ok x) : 0 ≤ x := by
  unfold requiredNonnegativeNumber at h
  split at h
  · cases h
  · cases h
  · exact finite_nonneg h

end Numbers

/-- The largest of an absolute floor and a relative part: `max(1e-12, x * 1e-9)`. -/
def tolerance (x : ℚ) : ℚ := max (nearest 1e-12) (nearest (x * nearest 1e-9))

section Lookup

variable (lib : Lib)

/-- `str(item.get(field, "")).upper()` -/
def upperField (item : Record) (field : String) : String :=
  lib.upper (lib.str (item.getD field (.str "")))

/-- `str(item.get(field, "")).casefold()` -/
def foldedField (item : Record) (field : String) : String :=
  lib.casefold (lib.str (item.getD field (.str "")))

/-- `str(item.get("status", "")).upper().replace("CANCELLED", "CANCELED")` -/
def orderStatus (item : Record) : String :=
  lib.replace (upperField lib item "status") "CANCELLED" "CANCELED"

/-- The one row that matches, or nothing; two matches raise. -/
def findUnique (rows : List Record) (message : String) : Except Err (Option Record) :=
  match rows with
  | [] => .ok none
  | [item] => .ok (some item)
  | _ => .error (.safety message)

/-- The unique row of `venue[field]` whose id reads `id`. -/
def findById (field message : String) (venue : Venue) (id : String) :
    Except Err (Option Record) := do
  let rows ← list (venue.get field)
  findUnique (rows.filter fun item => lib.str (item.get "id") = id) message

def findOrder (venue : Venue) (clientId : Option String) : Except Err (Option Record) :=
  match clientId with
  | none => .ok none
  | some id => findById lib "orders" "venue returned duplicate deterministic order IDs" venue id

def findHistoricalOrder (venue : Venue) (clientId : String) : Except Err (Option Record) :=
  findById lib "order_history" "venue returned duplicate deterministic order history" venue clientId

def findTpslById (venue : Venue) (exchangeId : Option String) : Except Err (Option Record) :=
  match exchangeId with
  | none => .ok none
  | some id => findById lib "tpsl" "venue returned duplicate TP/SL IDs" venue id

/-- `tpsl_type.casefold().replace("_", "-")` -/
def expectedTpslType (tpslType : String) : String :=
  lib.replace (lib.casefold tpslType) "_" "-"

def findTpsl (venue : Venue) (tpslType : String) (price : ℚ) (parentOrderId : String) :
    Except Err (Option Record) := do
  let rows ← list (venue.get "tpsl")
  let matching ← filterRows (fun item =>
    if foldedField lib item "type" = expectedTpslType lib tpslType then do
      let itemPrice ← finite lib (item.get "price")
      return isclose itemPrice price 1e-9 0
        && lib.str (item.getD "order" (.str "")) = parentOrderId
    else return false) rows
  findUnique matching "venue returned ambiguous TP/SL geometry"

def isLiveTpsl (record : Record) : Bool :=
  foldedField lib record "status" ∈ ["waitorder", "active"]

def isTerminalTpsl (record : Record) : Bool :=
  foldedField lib record "status" ∈ ["process", "triggered", "done"]

def assertKnownTpslStatus (record : Record) : Except Err Unit :=
  refuse (foldedField lib record "status"
      ∉ ["waitorder", "active", "process", "triggered", "done", "cancelled"])
    "EVEDEX TP/SL has an unknown lifecycle status"

end Lookup

section Positions

variable (env : Env)

def positionQuantity (venue : Venue) (logicalSymbol : String) : Except Err ℚ := do
  let expected ← env.symbolMap logicalSymbol
  let rows ← list (venue.get "positions")
  sumRows (requiredNonnegativeNumber env.lib · "quantity")
    (rows.filter fun item => upperField env.lib item "instrument" = expected)

/-- `math.isclose(leverage, approved, rel_tol=1e-9, abs_tol=max(1e-12, approved * 1e-9))`, and
the same tolerance around an approved quantity or price. -/
def closeTo (value approved : ℚ) : Bool :=
  isclose value approved 1e-9 (tolerance approved)

def positionQuantityForTrade (venue : Venue) (trade : TradeRecord) : Except Err ℚ := do
  let expected ← env.symbolMap trade.symbol
  let rows ← list (venue.get "positions")
  let matching ← filterRows (fun item =>
    if upperField env.lib item "instrument" = expected then do
      let quantity ← requiredNonnegativeNumber env.lib item "quantity"
      return quantity > 0
    else return false) rows
  match matching with
  | [] => return 0
  | [item] =>
    refuse (upperField env.lib item "side" ≠ trade.side.value)
      "venue position side differs from durable trade lineage"
    let leverage ← positive env.lib (item.get "leverage") "position leverage"
    refuse (!closeTo leverage trade.leverage)
      "venue position leverage differs from durable approval"
    requiredNonnegativeNumber env.lib item "quantity"
  | _ => throw (.safety "venue returned duplicate positions for one symbol")

end Positions

/-- What an entry or close record reports: the order, its status, the filled quantity
and the average price. -/
structure OrderFill where
  exchangeOrderId : String
  status : String
  filled : ℚ
  averagePrice : Option ℚ

/-- `status in {"CANCELED", "REJECTED", "EXPIRED", "REPLACED"}` -/
def terminalEntryStatus (status : String) : Bool :=
  status ∈ ["CANCELED", "REJECTED", "EXPIRED", "REPLACED"]

section Validators

variable (lib : Lib)

def validateEntryResponse (response : Record) (decision : Decision) (clientOrderId : String) :
    Except Err OrderFill := do
  let exchangeOrderId ← requiredText lib (response.get "id") "entry exchange order ID"
  refuse (exchangeOrderId ≠ clientOrderId) "entry ACK changed the deterministic client order ID"
  refuse (upperField lib response "instrument" ≠ lib.upper decision.venueSymbol)
    "entry ACK has the wrong DEV instrument"
  refuse (upperField lib response "side" ≠ (orderSide decision).value)
    "entry ACK has the wrong side"
  refuse (upperField lib response "type" ≠ "LIMIT")
    "technical canary entry ACK is not an IOC LIMIT"
  let limitPrice ← positive lib (response.get "limitPrice") "entry ACK limit price"
  refuse (!closeTo limitPrice decision.worstEntryPrice)
    "entry ACK changed the capped canary price"
  let status := orderStatus lib response
  refuse (status ∉ ["NEW", "PARTIALLY_FILLED", "FILLED", "CANCELED", "REJECTED", "EXPIRED",
    "REPLACED"]) "entry ACK has an unknown status"
  let quantity ← requiredNonnegativeNumber lib response "quantity"
  let remaining ← requiredNonnegativeNumber lib response "unFilledQuantity"
  let tol := tolerance decision.quantity
  refuse (!isclose quantity decision.quantity 1e-9 tol)
    "IOC LIMIT quantity differs from the exact approved canary quantity"
  let filled ←
    if status = "NEW" then do
      refuse (!isclose remaining quantity 1e-9 tol) "NEW entry ACK reports an incoherent fill"
      pure 0
    else do
      let filled ←
        if quantity ≤ 0 then do
          refuse (!terminalEntryStatus status) "filled entry ACK has no executed quantity"
          pure 0
        else do
          refuse (remaining > quantity + tol) "entry ACK remaining quantity exceeds quantity"
          pure (max 0 (quantity - remaining))
      refuse (status = "PARTIALLY_FILLED" ∧ ¬(filled > tol ∧ remaining > tol))
        "PARTIALLY_FILLED entry ACK is incoherent"
      refuse (status = "FILLED" ∧ (filled ≤ tol ∨ !isclose remaining 0 1e-9 tol))
        "FILLED entry ACK is incoherent"
      pure filled
  refuse (filled > decision.quantity + tol) "venue fill exceeds approved quantity"
  let averagePrice ← positiveOptional lib (response.get "filledAvgPrice")
  refuse (filled > tol ∧ averagePrice.isNone) "non-zero entry fill lacks an average price"
  match averagePrice with
  | none => pure ()
  | some price =>
    let priceTolerance := tolerance decision.worstEntryPrice
    refuse (decision.intent.side = .LONG ∧ price > decision.worstEntryPrice + priceTolerance)
      "LONG IOC fill breached the Risk-approved price cap"
    refuse (decision.intent.side = .SHORT ∧ price < decision.worstEntryPrice - priceTolerance)
      "SHORT IOC fill breached the Risk-approved price cap"
  return ⟨exchangeOrderId, status, min decision.quantity filled, averagePrice⟩

def validateCloseResponse (response : Record) (clientOrderId : String) (requestedQuantity : ℚ) :
    Except Err OrderFill := do
  let exchangeOrderId ← requiredText lib (response.get "id") "close exchange order ID"
  refuse (exchangeOrderId ≠ clientOrderId) "close ACK changed the deterministic client order ID"
  let status := orderStatus lib response
  refuse (status ∉ ["NEW", "PARTIALLY_FILLED", "FILLED", "CANCELED", "REJECTED"])
    "close ACK has an unknown status"
  let quantity ← requiredNonnegativeNumber lib response "quantity"
  let remaining ← requiredNonnegativeNumber lib response "unFilledQuantity"
  let tol := tolerance requestedQuantity
  refuse (!isclose quantity requestedQuantity 1e-9 tol)
    "close ACK quantity differs from authoritative exposure"
  refuse (remaining > quantity + tol) "close ACK remaining quantity exceeds quantity"
  let filled := max 0 (quantity - remaining)
  refuse (status = "NEW" ∧ !isclose remaining quantity 1e-9 tol)
    "NEW close ACK reports an incoherent fill"
  refuse (status = "PARTIALLY_FILLED" ∧ ¬(filled > tol ∧ remaining > tol))
    "PARTIALLY_FILLED close ACK is incoherent"
  refuse (status = "FILLED" ∧ !isclose remaining 0 1e-9 tol) "FILLED close ACK is incoherent"
  let averagePrice ← positiveOptional lib (response.get "filledAvgPrice")
  refuse (filled > tol ∧ averagePrice.isNone) "non-zero close fill lacks an average price"
  return ⟨exchangeOrderId, status, filled, averagePrice⟩

def validateTpslRecord (record : Record) (venueSymbol side tpslType : String) (price : ℚ)
    (parentOrderId : String) (requireLive requireParent : Bool) : Except Err Unit := do
  refuse (upperField lib record "instrument" ≠ lib.upper venueSymbol)
    "reconciled TP/SL has the wrong DEV instrument"
  refuse (lib.replace (foldedField lib record "type") "_" "-" ≠ expectedTpslType lib tpslType)
    "reconciled TP/SL has the wrong lifecycle role"
  refuse (upperField lib record "side" ≠ lib.upper side)
    "reconciled TP/SL has the wrong position side"
  let quantity ← requiredNonnegativeNumber lib record "quantity"
  refuse (!isclose quantity 0 1e-9 1e-12) "reconciled TP/SL does not protect the full position"
  let reconciledPrice ← positive lib (record.get "price") "TP/SL price"
  refuse (!isclose reconciledPrice price 1e-9 1e-9)
    "reconciled TP/SL price differs from the exit plan"
  let parent := record.get "order"
  refuse (!parent.isNone && lib.str parent ≠ parentOrderId)
    "reconciled TP/SL has conflicting parent-order lineage"
  refuse (requireParent && lib.strOrEmpty parent ≠ parentOrderId)
    "reconciled TP/SL lacks exact parent-order lineage"
  let _ ← requiredText lib (record.get "id") "TP/SL exchange ID"
  assertKnownTpslStatus lib record
  refuse (requireLive && !isLiveTpsl lib record) "reconciled TP/SL is not live"

def orderFeeUsd (order : Record) (required : Bool) : Except Err ℚ :=
  match order.get "fee" with
  | .none =>
    if required then .error (.safety "filled trigger order lacks explicit fee evidence") else .ok 0
  | .list items => match items.mapM Value.asDict with
    | none => .error (.safety "venue order fee list is malformed")
    | some rows => sumRows (fun item => do
        let coin ← requiredText lib (item.get "coin") "fee coin"
        refuse (lib.upper coin ∉ ["USD", "USDT", "USDC"])
          "trigger fee is not denominated in a USD stablecoin"
        requiredNonnegativeNumber lib item "quantity") rows
  | _ => .error (.safety "venue order fee list is malformed")

/-- `_VENUE_TIMESTAMP_SKEW`, two seconds -/
def venueTimestampSkew : ℤ := 2_000_000

def responseTime (response : Record) (fallback observedAt notBefore : ℤ) : Except Err ℤ := do
  let lowerBound := notBefore - venueTimestampSkew
  let candidate (key : String) : Except Err (Option ℤ) :=
    match response.get key with
    | .str s => match lib.fromIsoFormat (lib.replace s "Z" "+00:00") with
      | some (some parsed) => do
        refuse (parsed > observedAt + venueTimestampSkew) "venue fill timestamp is in the future"
        refuse (parsed < lowerBound) "venue fill timestamp predates entry eligibility"
        return some (min parsed observedAt)
      | _ => .ok none
    | _ => .ok none
  let updated ← candidate "updatedAt"
  let created ← candidate "createdAt"
  let conservative := if fallback > observedAt then observedAt else fallback
  let conservative := if conservative < lowerBound then notBefore else conservative
  return (updated.toList ++ created.toList).foldl min conservative

end Validators

end KairosExecution.Paper
