import KairosExecution.Production.Wire
import KairosExecution.Python.JsonEqual

/-! The three validators behind the managed signer: the local custody backend, its worker
process up to where it opens its key files, and the verifier of the signature. Each has the
schemas of the five operations and the checks of their fields for itself. What goes to the
worker is JSON, and the process reads it back. -/

namespace KairosExecution.Production.Custody

open Python Python.Json

variable {Digest : Type}

inductive CustodyError
  /-- `LocalCustodyError` -/
  | custody (message : String)
  | value (message : String)
  | type (operation : String)
  | key (name : String)
  deriving DecidableEq

def refuse (condition : Bool) (error : CustodyError) : Except CustodyError Unit :=
  if condition then .error error else .ok ()

@[simp] theorem refuse_eq_ok {condition : Bool} {error : CustodyError} {u : Unit} :
    refuse condition error = .ok u ↔ condition = false := by
  cases condition <;> simp [refuse]

section Schemas

/-- `EIP712_SCHEMAS`, of the operations that are signed here. -/
def eip712Schemas : SigningOperation → List (String × FieldType)
  | .newLimitOrder => [
    ("id", .string), ("instrument", .string), ("side", .string), ("leverage", .uint 8),
    ("quantity", .uint 96), ("limitPrice", .uint 80), ("chainId", .uint 256)]
  | .newMarketOrder => [
    ("id", .string), ("instrument", .string), ("side", .string), ("timeInForce", .string),
    ("leverage", .uint 8), ("cashQuantity", .uint 96), ("chainId", .uint 256)]
  | .newStopLimitOrder => [
    ("id", .string), ("instrument", .string), ("side", .string), ("leverage", .uint 8),
    ("quantity", .uint 96), ("limitPrice", .uint 80), ("stopPrice", .uint 80), ("chainId", .uint 256)]
  | .positionCloseOrder => [
    ("id", .string), ("instrument", .string), ("leverage", .uint 8), ("quantity", .uint 96),
    ("chainId", .uint 256)]
  | .newTakeProfitStopLoss => [
    ("instrument", .string), ("type", .string), ("side", .string), ("quantity", .uint 96),
    ("price", .uint 80), ("order", .string)]

/-- `_OPS` -/
def workerOps : Dict String (List (String × FieldType)) := [
  ("New limit order", [
    ("id", .string), ("instrument", .string), ("side", .string), ("leverage", .uint 8),
    ("quantity", .uint 96), ("limitPrice", .uint 80), ("chainId", .uint 256)]),
  ("New market order", [
    ("id", .string), ("instrument", .string), ("side", .string), ("timeInForce", .string),
    ("leverage", .uint 8), ("cashQuantity", .uint 96), ("chainId", .uint 256)]),
  ("New stop-limit order", [
    ("id", .string), ("instrument", .string), ("side", .string), ("leverage", .uint 8),
    ("quantity", .uint 96), ("limitPrice", .uint 80), ("stopPrice", .uint 80), ("chainId", .uint 256)]),
  ("Position close order", [
    ("id", .string), ("instrument", .string), ("leverage", .uint 8), ("quantity", .uint 96),
    ("chainId", .uint 256)]),
  ("New take-profit/stop-loss", [
    ("instrument", .string), ("type", .string), ("side", .string), ("quantity", .uint 96),
    ("price", .uint 80), ("order", .string)])]

/-- `_PRODUCTION_OPS` -/
def workerProductionOps : Dict String (List (String × FieldType)) :=
  workerOps.set "New take-profit/stop-loss" [
    ("instrument", .string), ("type", .string), ("side", .string), ("quantity", .uint 96),
    ("price", .uint 80)]

def productionProfile : String := "kairos.evedex-managed-sdk.v1"

def legacyProfile : String := "kairos.evedex-legacy-signing.v1"

def fieldTypeText : FieldType → String
  | .string => "string"
  | .uint bits => "uint" ++ toString bits

/-- `{operation: [{"name": name, "type": kind} for name, kind in fields]}` -/
def typesOf (operation : String) (fields : List (String × FieldType)) : Record :=
  [(operation, .list (fields.map fun field =>
    .dict [("name", .str field.1), ("type", .str (fieldTypeText field.2))]))]

/-- `DOMAIN` -/
def fixedDomain : Record := [
  ("name", .str "EVEDEX"), ("version", .str "2"),
  ("salt", .str "0x5792f7333c35db190e30acc144f049fd15b24f552c0010b8b3e06f9105c37c5a")]

/-- `str(n)` -/
def decimalText (n : ℤ) : String := String.ofList (intText n)

def buildDomain (chainId : ℤ) : Record := fixedDomain ++ [("chainId", .str (decimalText chainId))]

/-- The operation of a name in `_OPERATIONS`. -/
def operationOf (name : String) : Option SigningOperation :=
  [.newLimitOrder, .newMarketOrder, .newStopLimitOrder, .positionCloseOrder,
    .newTakeProfitStopLoss].find? fun operation => operation.text = name

end Schemas

section Messages

/-- What a validator of a message raises, check by check. -/
structure Refusals where
  schema : CustodyError
  integer : CustodyError
  string : CustodyError
  instrument : CustodyError
  chain : CustodyError
  side : CustodyError
  leverage : CustodyError
  timeInForce : CustodyError
  id : CustodyError
  parent : CustodyError
  protection : CustodyError
  price : CustodyError
  quantity : CustodyError

/-- The message has these fields, and no others. -/
def hasFields (expected : List String) (message : Record) : Bool :=
  message.all (fun entry => entry.1 ∈ expected) && expected.all message.has

/-- A field that fits its type. -/
def fits (refusals : Refusals) (message : Record) (field : String × FieldType) :
    Except CustodyError Unit :=
  match field.2, message.get field.1 with
  | .uint bits, .int value => refuse (¬(0 ≤ value ∧ value < 2 ^ bits)) refusals.integer
  | .uint _, _ => .error refusals.integer
  | .string, .str value =>
    refuse (¬(0 < value.length ∧ value.length ≤ 160) ∨ value.toList.any fun c => c.toNat < 32)
      refusals.string
  | .string, _ => .error refusals.string

/-- A text, where the field is there. -/
def text (message : Record) (field : String) (accepted : String → Bool) (error : CustodyError) :
    Except CustodyError Unit :=
  match message.lookup field with
  | none => .ok ()
  | some (.str value) => refuse (!accepted value) error
  | some _ => .error (.type field)

/-- A number, where the field is there. -/
def number (message : Record) (field : String) (accepted : ℤ → Bool) (error : CustodyError) :
    Except CustodyError Unit :=
  match message.lookup field with
  | none => .ok ()
  | some (.int value) => refuse (!accepted value) error
  | some _ => .error (.type field)

/-- The checks of a message against the fields that are signed and those sent along with them. The
pattern of an order id is that of `is_evedex_client_order_id`. -/
def checkMessage (refusals : Refusals) (fields : List (String × FieldType)) (metadata : List String)
    (instruments : List String) (chainId : ℤ) (operation : String) (message : Record) :
    Except CustodyError Unit := do
  refuse (!hasFields (fields.map Prod.fst ++ metadata) message) refusals.schema
  fields.forM (fits refusals message)
  text message "instrument" (· ∈ instruments) refusals.instrument
  number message "chainId" (· = chainId) refusals.chain
  text message "side" (· ∈ ["BUY", "SELL"]) refusals.side
  number message "leverage" (· = 1) refusals.leverage
  text message "timeInForce" (· = "IOC") refusals.timeInForce
  text message "id" isEvedexClientOrderId refusals.id
  text message "order" isEvedexClientOrderId refusals.parent
  text message "type" (· ∈ ["stop-loss", "take-profit"]) refusals.protection
  ["cashQuantity", "limitPrice", "stopPrice", "price"].forM fun name =>
    number message name (0 < ·) refusals.price
  number message "quantity" (fun value => value ≠ 0 ∨ operation = "New take-profit/stop-loss")
    refusals.quantity

/-- The fields that a protection has besides those of its typehash. -/
def metadataOf (profile operation : String) : List String :=
  if profile = productionProfile ∧ operation = "New take-profit/stop-loss" then ["order"] else []

end Messages

section Backend

/-- `re.fullmatch(r"[A-Za-z0-9_.:-]{1,160}", reference)`, which `Identity` is as well -/
def isReference (reference : String) : Bool :=
  1 ≤ reference.length ∧ reference.length ≤ 160 ∧ reference.toList.all fun c =>
    c.isAlphanum || c = '_' || c = '.' || c = ':' || c = '-'

/-- `^0x[0-9a-fA-F]{40}$` -/
def isAddress (address : String) : Bool :=
  address.toList.take 2 = ['0', 'x'] ∧ (address.toList.drop 2).length = 40
    ∧ (address.toList.drop 2).all fun c => c.isDigit || ('a' ≤ c && c ≤ 'f') || ('A' ≤ c && c ≤ 'F')

/-- `LocalEncryptedKeystoreBackend`, the fields that it validates and sends. -/
structure Backend where
  keystoreFile : String
  unlockFile : String
  custodyReference : String
  walletAddress : String
  chainId : ℤ
  approvedInstruments : List String

def contractRefusals : Refusals where
  schema := .custody "typed message does not match its fixed schema"
  integer := .custody "typed integer violates the fixed schema"
  string := .custody "typed string violates the fixed schema"
  instrument := .custody "instrument is outside the custody universe"
  chain := .custody "typed chain differs from custody binding"
  side := .custody "typed side is invalid"
  leverage := .custody "typed leverage is not allowlisted"
  timeInForce := .custody "typed time-in-force is not allowlisted"
  id := .custody "typed order ID is invalid"
  parent := .custody "typed parent order ID is invalid"
  protection := .custody "typed protection is not allowlisted"
  price := .custody "typed price/cash quantity must be positive"
  quantity := .custody "typed quantity must be positive"

/-- The operation of a record of types, which has one key. -/
def contractOperation (types : Record) : Except CustodyError SigningOperation :=
  match types with
  | [(name, _)] => match operationOf name with
    | some operation => .ok operation
    | none => .error (.custody "typed schema is not allowlisted")
  | _ => .error (.custody "typed schema is not allowlisted")

/-- The profile that the types are of, its fields, and those sent along. -/
def contractProfile (operation : SigningOperation) (types : Record) :
    Except CustodyError (String × List (String × FieldType)) :=
  if same (.dict types) (.dict (typesOf operation.text (productionSigningTypes operation))) then
    .ok (productionProfile, productionSigningTypes operation)
  else if same (.dict types) (.dict (typesOf operation.text (eip712Schemas operation))) then
    .ok (legacyProfile, eip712Schemas operation)
  else .error (.custody "typed schema is not allowlisted")

/-- `_validate_contract`, of arguments that have their types. -/
def validateContract (backend : Backend) (custodyReference : String) (domain types message : Record) :
    Except CustodyError (String × String) := do
  refuse (backend.custodyReference = "") (.custody "custody reference is invalid")
  refuse (custodyReference ≠ backend.custodyReference)
    (.custody "request is outside this custody reference")
  refuse (!isReference backend.custodyReference) (.custody "custody reference is invalid")
  refuse (!isAddress backend.walletAddress || ¬(0 < backend.chainId ∧ backend.chainId < 2 ^ 256))
    (.custody "custody wallet or chain is invalid")
  refuse (backend.approvedInstruments.length ≠ 5 || backend.approvedInstruments.dedup.length ≠ 5
      || !backend.approvedInstruments.all (· ≠ ""))
    (.custody "custody instrument universe is invalid")
  let operation ← contractOperation types
  let (profile, fields) ← contractProfile operation types
  refuse (!same (.dict domain) (.dict (buildDomain backend.chainId)))
    (.custody "typed domain differs from custody binding")
  checkMessage contractRefusals fields (metadataOf profile operation.text)
    backend.approvedInstruments backend.chainId operation.text message
  return (operation.text, profile)

/-- What the worker is bound to. -/
def Backend.expectedBinding (backend : Backend) : Record := [
  ("custody_reference", .str backend.custodyReference), ("wallet_address", .str backend.walletAddress),
  ("chain_id", .int backend.chainId),
  ("approved_instruments", .list (backend.approvedInstruments.map .str))]

/-- The request of `sign_typed_data` to its worker. -/
def Backend.request (backend : Backend) (custodyReference operation profile : String)
    (domain types message : Record) : Record := [
  ("version", .str "kairos.local-keystore-sign.v1"), ("custody_reference", .str custodyReference),
  ("wallet_address", .str backend.walletAddress), ("chain_id", .int backend.chainId),
  ("approved_instruments", .list (backend.approvedInstruments.map .str)), ("domain", .dict domain),
  ("types", .dict types), ("message", .dict message), ("operation", .str operation),
  ("schema_profile", .str profile), ("keystore_file", .str backend.keystoreFile),
  ("unlock_file", .str backend.unlockFile)]

end Backend

end KairosExecution.Production.Custody
