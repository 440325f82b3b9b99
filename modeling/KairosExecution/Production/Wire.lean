import KairosExecution.Interactive.Program
import KairosExecution.Production.Message
import KairosExecution.Python.Decimal

/-! The body of a signed POST, and the two validators that it passes before the network: that
of the transport, and that of the sidecar process behind it. Units of the signed message,
of which there are a hundred million in one, become canonical decimal texts. -/

namespace KairosExecution.Production

open Python Interactive

variable {Digest : Type}

section Body

/-- `_OPERATION_BINDINGS`, its path. -/
def wirePath (operation : SigningOperation) (instrument : String) : String :=
  match operation with
  | .newLimitOrder => "/api/v2/order/limit"
  | .newMarketOrder => "/api/v2/order/market"
  | .newStopLimitOrder => "/api/v2/order/stop-limit"
  | .positionCloseOrder => "/api/v2/position/" ++ instrument ++ "/close"
  | .newTakeProfitStopLoss => "/api/tpsl/" ++ instrument

/-- `_OPERATION_BINDINGS`, its effect type. -/
def wireEffectType : SigningOperation → WireEffectType
  | .newLimitOrder | .newMarketOrder | .newStopLimitOrder => .PLACE_ORDER
  | .positionCloseOrder => .CLOSE_POSITION
  | .newTakeProfitStopLoss => .PROTECTIVE_STOP

/-- `_OPERATION_BINDINGS`, its identity field. -/
def wireIdentityField : SigningOperation → String
  | .newTakeProfitStopLoss => "order"
  | _ => "id"

/-- The fields in units. -/
def wireNumbers : List String := ["quantity", "limitPrice", "stopPrice", "cashQuantity", "price"]

/-- The text of a number of units. -/
abbrev unitText (units : ℕ) : String := scaledText 8 units

/-- A field in units becomes its text, where it is there. -/
def wireNumber (message result : Record) (field : String) : Except Err Record :=
  match message.lookup field with
  | none => .ok result
  | some (.int value) => do
    refuse (value < 0) (.dispatch "wire numeric geometry must use exact unsigned EIP integers")
    return result.set field (.str (unitText value.toNat))
  | some _ => .error (.dispatch "wire numeric geometry must use exact unsigned EIP integers")

/-- The fixed policy of a limit order. -/
def withPolicy (operation : SigningOperation) (body : Record) : Record :=
  if operation = .newLimitOrder then body.set "timeInForce" (.str "IOC") else body

/-- `production_wire_body`; every operation of the enumeration has its binding. -/
def productionWireBody (operation : SigningOperation) (message : Record) (signature : String) :
    Except Err Record := do
  let result ← wireNumbers.foldlM (wireNumber message) message
  return (withPolicy operation result).set "signature" (.str signature)

def productionSignedMessage (operation : SigningOperation) (message : Record) : Except Err Record := do
  refuse (!fixedSchema operation message)
    (.signing "typed message does not match the production signing profile")
  return (productionSigningTypes operation).map fun field => (field.1, message.get field.1)

end Body

/-- `re.fullmatch(r"0x[0-9a-fA-F]{130}", signature)` -/
def wellFormedSignature (signature : String) : Bool :=
  signature.toList.take 2 = ['0', 'x'] ∧ (signature.toList.drop 2).length = 130
    ∧ (signature.toList.drop 2).all fun c => c.isDigit || ('a' ≤ c && c ≤ 'f') || ('A' ≤ c && c ≤ 'F')

/-- `[A-Z0-9]{1,32}` -/
def isInstrument (instrument : String) : Bool :=
  1 ≤ instrument.length ∧ instrument.length ≤ 32
    ∧ instrument.toList.all fun c => c.isDigit || ('A' ≤ c && c ≤ 'Z')

/-- What a path has between two texts, where it is an instrument. -/
def instrumentOf (before after path : String) : Option String :=
  let found := (path.toList.drop before.length).take (path.length - before.length - after.length)
  if path.toList = before.toList ++ found ++ after.toList ∧ isInstrument (String.ofList found)
  then some (String.ofList found) else none

/-- The keys of an object are the expected ones. -/
def sameFields (body : Record) (expected : List String) : Bool :=
  body.all (fun entry => entry.1 ∈ expected) && expected.all body.has

/-- `value == number` -/
def equalsNumber (value : Value) (number : ℤ) : Bool :=
  match value with
  | .int n => n = number
  | .float x => x = number
  | _ => false

/-- A field that is a text of the list, where it is there. -/
def oneOf (body : Record) (field : String) (texts : List String) : Bool :=
  match body.lookup field with
  | none => true
  | some (.str text) => text ∈ texts
  | some _ => false

/-- A field that is a canonical decimal text, where it is there. -/
def canonicalField (body : Record) (field : String) : Bool :=
  match body.lookup field with
  | none => true
  | some (.str text) => canonicalDecimal text
  | some _ => false

/-- The chain, where it is there. -/
def chainDiffers (body : Record) : Bool :=
  match body.lookup "chainId" with
  | none => false
  | some value => !equalsNumber value 42161

/-- A text of the body, or nothing. -/
def textIn (body : Record) (field : String) : Option String :=
  match body.lookup field with
  | some (.str text) => some text
  | _ => none

section Transport

/-- `_FIELDS` -/
def signedFields : List (String × List String) := [
  ("/api/v2/order/limit",
    ["id", "instrument", "side", "leverage", "quantity", "limitPrice", "chainId", "timeInForce",
      "signature"]),
  ("/api/v2/order/market",
    ["id", "instrument", "side", "timeInForce", "leverage", "cashQuantity", "chainId", "signature"]),
  ("/api/v2/order/stop-limit",
    ["id", "instrument", "side", "leverage", "quantity", "limitPrice", "stopPrice", "chainId",
      "signature"]),
  ("close", ["id", "instrument", "leverage", "quantity", "chainId", "signature"]),
  ("tpsl", ["instrument", "type", "side", "quantity", "price", "order", "signature"])]

/-- `_SIGNED_PATHS` and `_INSTRUMENT_PATHS`: the operation of a path, and its instrument. -/
def signedOperation (path : String) : Option (String × Option String) :=
  if path ∈ ["/api/v2/order/limit", "/api/v2/order/market", "/api/v2/order/stop-limit"]
  then some (path, none)
  else match instrumentOf "/api/v2/position/" "/close" path with
    | some instrument => some ("close", some instrument)
    | none => (instrumentOf "/api/tpsl/" "" path).map fun instrument => ("tpsl", some instrument)

/-- `_validate_signed_post`; a value that no set can hold is refused like one that it does not. -/
def validateSignedPost (method path : String) (body : Record) : Except Err (String × Option String) := do
  refuse (method ≠ "POST") (.transport "only an exact signed EVEDEX POST is supported")
  let (operation, instrument) ← required
    (.transport "signed operation is outside the fixed EVEDEX PROD allowlist") (signedOperation path)
  refuse (!sameFields body ((signedFields.lookup operation).getD []))
    (.transport "signed body fields differ from the pinned EVEDEX schema")
  refuse (!(textIn body "signature").any wellFormedSignature)
    (.transport "signed body signature is malformed")
  refuse (chainDiffers body)
    (.transport "signed message chain does not match the pinned EVEDEX PROD chain 42161")
  refuse (path = "/api/v2/order/limit" && textIn body "timeInForce" = some "IOC")
    (.transport ("official EVEDEX limit orders are GTC and cannot be changed via API; " ++
      "IOC limit dispatch is unsupported"))
  refuse (!(textIn body "instrument").any isInstrument) (.transport "signed instrument is malformed")
  refuse (instrument.isSome && textIn body "instrument" ≠ instrument)
    (.transport "signed instrument differs from the exact SDK route")
  refuse (!oneOf body "side" ["BUY", "SELL"]) (.transport "signed side is malformed")
  refuse (!oneOf body "timeInForce" ["IOC"])
    (.transport "signed operation differs from the reviewed IOC dispatch policy")
  refuse (body.has "postOnly")
    (.transport "unsigned postOnly metadata is not part of the reviewed wire body")
  refuse (!oneOf body "type" ["stop-loss", "take-profit"]) (.transport "TP/SL type is unsupported")
  wireNumbers.forM fun name => refuse (!canonicalField body name)
    (.transport (name ++ " must remain a canonical REST decimal string"))
  return (operation, instrument)

/-- What the transport posts through its client, and the sidecar through the SDK. -/
abbrev posting : Interface where
  Call := String × Record
  Answer _ := Value

/-- A response of the client, which has to be an object. -/
def postedResponse : Value → Except Err Record
  | .dict response => .ok response
  | _ => .error (.transport "EVEDEX SDK returned a malformed signed-operation response")

/-- `send_signed_post` of the transport. -/
def sendSignedPost (p : Primitives Digest) (preflight : Bool) (method path : String) (body : Record) :
    Program posting Err Record := do
  refuse (!preflight)
    (.transport "explicit EVEDEX PROD preflight must finish before authority checks and transport")
  let _ ← liftM (validateSignedPost method path body)
  let _ ← liftM (required (.transport "signed EVEDEX body is not canonical JSON") (p.canonical body))
  let result ← Program.ask (I := posting) (path, body)
  liftM (postedResponse result)

end Transport

section Sidecar

/-- `value.length`, in units of UTF-16. -/
def utf16Length (text : String) : ℕ := (text.toList.map fun c => if c.toNat < 0x10000 then 1 else 2).sum

/-- `text` -/
def sidecarText (body : Record) (field : String) : Except Err String :=
  match body.lookup field with
  | some (.str text) => do
    refuse (text = "" || 160 < utf16Length text || text.toList.any fun c => c.toNat < 32)
      (.type (field ++ " is malformed"))
    return text
  | _ => .error (.type (field ++ " is malformed"))

/-- A text, where the field is there. -/
def sidecarTextIn (body : Record) (field : String) : Except Err Unit :=
  if body.has field then do
    let _ ← sidecarText body field
    return ()
  else return ()

/-- `OPERATIONS`, the keys of each. -/
def sidecarOperations : List (String × List String) := [
  ("/api/v2/order/limit",
    ["id", "instrument", "side", "leverage", "quantity", "limitPrice", "chainId", "timeInForce",
      "signature"]),
  ("/api/v2/order/market",
    ["id", "instrument", "side", "timeInForce", "leverage", "cashQuantity", "chainId", "signature"]),
  ("/api/v2/order/stop-limit",
    ["id", "instrument", "side", "leverage", "quantity", "limitPrice", "stopPrice", "chainId",
      "signature"]),
  ("/api/v2/position/{instrument}/close",
    ["id", "instrument", "leverage", "quantity", "chainId", "signature"]),
  ("/api/tpsl/{instrument}", ["instrument", "type", "side", "quantity", "price", "order", "signature"])]

/-- The operation of a path, where the body is of the instrument in the path. -/
def sidecarPath (path : String) (body : Record) : Option String :=
  if (sidecarOperations.lookup path).isSome then some path
  else match instrumentOf "/api/v2/position/" "/close" path with
    | some instrument =>
      if textIn body "instrument" = some instrument then some "/api/v2/position/{instrument}/close"
      else none
    | none =>
      match instrumentOf "/api/tpsl/" "" path with
      | some instrument =>
        if textIn body "instrument" = some instrument then some "/api/tpsl/{instrument}" else none
      | none => none

/-- `validateBody`; the keys of an object are sorted and compared, so they are the same. The test
of the signature would also read a list of one text as that text. -/
def validateBody (path : String) (body : Record) : Except Err String := do
  let path ← required
    (.type "signed operation is outside the fixed EVEDEX production allowlist") (sidecarPath path body)
  refuse (!sameFields body ((sidecarOperations.lookup path).getD []))
    (.type "signed body fields differ from the pinned EVEDEX production schema")
  refuse (!(textIn body "signature").any wellFormedSignature)
    (.type "signed body signature is malformed")
  let instrument ← sidecarText body "instrument"
  refuse (!isInstrument instrument) (.type "instrument is malformed")
  refuse (chainDiffers body)
    (.type "signed message chain differs from the pinned EVEDEX production chain")
  refuse (path = "/api/v2/order/limit" && textIn body "timeInForce" = some "IOC")
    (.type ("official EVEDEX limit orders are GTC and cannot be changed via API; " ++
      "IOC limit dispatch is unsupported"))
  refuse (!oneOf body "side" ["BUY", "SELL"]) (.type "signed side is malformed")
  refuse (!oneOf body "timeInForce" ["IOC"]) (.type "only the pinned IOC policy is supported")
  wireNumbers.forM fun name => refuse (!canonicalField body name)
    (.type (name ++ " must be a canonical decimal string"))
  sidecarTextIn body "id"
  sidecarTextIn body "order"
  refuse (!oneOf body "type" ["stop-loss", "take-profit"]) (.type "TP/SL type is malformed")
  return path

/-- `sendSignedPost` of the sidecar. -/
def sidecarPost (preflight : Bool) (method path : String) (body : Record) : Program posting Err Value := do
  refuse (method ≠ "POST") (.type "only exact signed POST operations are supported")
  let operation ← liftM (validateBody path body)
  refuse (!preflight) (.transport "EVEDEX PROD SDK preflight is required before any operation")
  Program.ask (I := posting) (operation, body)

end Sidecar

end KairosExecution.Production
