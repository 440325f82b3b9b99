import KairosExecution.Production.LocalCustody

/-! The worker of the local custody backend, up to where it opens its key files, and the verifier
of its signature, beside the contract of the backend. A message that `_typed_message` accepts
passes all of them and is signed, hashed and projected as the same fields, exactly where no
approved instrument is longer than the worker allows, which is shorter than what the binding and
the contract allow. -/

namespace KairosExecution.Production.Custody

open Python Python.Json

variable {Digest D : Type}

/-- The text functions of the standard library. -/
structure Texts where
  casefold : String → String
  /-- `str(value)` of a value that is not a string -/
  repr : Value → String

def Texts.str (texts : Texts) : Value → String
  | .str s => s
  | v => texts.repr v

section Worker

def workerRefusals : Refusals where
  schema := .value "message/schema mismatch"
  integer := .value "invalid typed integer"
  string := .value "invalid typed string"
  instrument := .value "instrument outside custody universe"
  chain := .value "chain mismatch"
  side := .value "invalid side"
  leverage := .value "invalid leverage"
  timeInForce := .value "invalid time in force"
  id := .value "invalid order ID"
  parent := .value "invalid parent ID"
  protection := .value "invalid protective type"
  price := .value "non-positive price"
  quantity := .value "non-positive quantity"

def asObject (v : Value) (error : CustodyError) : Except CustodyError Record :=
  match v with
  | .dict fields => .ok fields
  | _ => .error error

def asText (v : Value) (error : CustodyError) : Except CustodyError String :=
  match v with
  | .str s => .ok s
  | _ => .error error

def asInteger (v : Value) (error : CustodyError) : Except CustodyError ℤ :=
  match v with
  | .int n => .ok n
  | _ => .error error

def asItems (v : Value) (error : CustodyError) : Except CustodyError (List Value) :=
  match v with
  | .list items => .ok items
  | _ => .error error

/-- The fields of an operation under a schema profile. -/
def workerFields (profile : Value) (operation : String) :
    Except CustodyError (List (String × FieldType)) := do
  let operations ←
    if same profile (.str productionProfile) then .ok workerProductionOps
    else if same profile (.str legacyProfile) then .ok workerOps
    else .error (.value "schema profile not allowlisted")
  match operations.get operation with
  | some fields => .ok fields
  | none => .error (.value "operation not allowlisted")

/-- The items of `set(items)`. -/
def distinct : List Value → List Value
  | [] => []
  | item :: items => if (distinct items).any (same item) then distinct items else item :: distinct items

/-- `len(set(items))`, which raises on a list or a dict. -/
def setLength (items : List Value) : Except CustodyError ℕ :=
  if items.all (fun item => match item with
    | .list _ | .dict _ => false
    | _ => true)
  then .ok (distinct items).length else .error (.type "set")

/-- An instrument of the worker's universe. -/
def workerInstrument (item : Value) : Except CustodyError String :=
  match item with
  | .str s => if 0 < s.length ∧ s.length ≤ 80 then .ok s else .error (.value "invalid custody binding")
  | _ => .error (.value "invalid custody binding")

/-- The instruments of a request. -/
def workerInstruments (items : List Value) : Except CustodyError (List String) :=
  items.mapM workerInstrument

/-- What `_run` has when it goes to its key files. -/
structure Reached where
  walletAddress : String
  keystoreFile : Value
  unlockFile : Value
  domain : Record
  types : Record
  signedMessage : Record

/-- `_run`, before it opens its key files. -/
def run (texts : Texts) (request : Value) (expected : Record) : Except CustodyError Reached := do
  let request ← asObject request (.value "invalid request")
  refuse (!same (request.get "version") (.str "kairos.local-keystore-sign.v1")) (.value "invalid request")
  let operation ← asText (request.get "operation") (.value "operation not allowlisted")
  let fields ← workerFields (request.get "schema_profile") operation
  let reference ← asText (request.get "custody_reference") (.value "invalid custody binding")
  refuse (reference = "" || !same (.str reference) (expected.get "custody_reference"))
    (.value "invalid custody binding")
  let wallet ← asText (request.get "wallet_address") (.value "invalid custody binding")
  refuse (!isAddress wallet || texts.casefold wallet ≠
      texts.casefold (texts.str (expected.getD "wallet_address" (.str ""))))
    (.value "invalid custody binding")
  let chainId ← asInteger (request.get "chain_id") (.value "invalid custody binding")
  refuse (chainId ≤ 0 || !same (.int chainId) (expected.get "chain_id")) (.value "invalid custody binding")
  let items ← asItems (request.get "approved_instruments") (.value "invalid custody binding")
  refuse (items.length ≠ 5) (.value "invalid custody binding")
  let count ← setLength items
  refuse (count ≠ 5 || !same (.list items) (expected.get "approved_instruments"))
    (.value "invalid custody binding")
  let instruments ← workerInstruments items
  let expectedDomain := fixedDomain ++ [("chainId", .str (decimalText chainId))]
  let expectedTypes := typesOf operation fields
  refuse (!same (request.get "domain") (.dict expectedDomain)
      || !same (request.get "types") (.dict expectedTypes))
    (.value "domain/schema mismatch")
  let message ← asObject (request.get "message") (.value "message/schema mismatch")
  let production := same (request.get "schema_profile") (.str productionProfile)
  checkMessage workerRefusals fields
    (metadataOf (if production then productionProfile else legacyProfile) operation)
    instruments chainId operation message
  return {
    walletAddress := wallet
    keystoreFile := request.get "keystore_file"
    unlockFile := request.get "unlock_file"
    domain := expectedDomain
    types := expectedTypes
    signedMessage := fields.map fun field => (field.1, message.get field.1) }

end Worker

section Delivery

variable (texts : Texts) (float : Literal → Option ℚ) (floatText : ℚ → List Char) (room : ℕ)

/-- `json.loads` of a text that is an object. -/
def loadsObject (text : String) : Except CustodyError Record :=
  match loads float room text with
  | some v => asObject v (.value "not an object")
  | none => .error (.value "malformed JSON")

/-- `json.loads(json.dumps(value))` -/
def copied (value : Record) : Except CustodyError Record :=
  loadsObject float room (String.ofList (dump floatText true (.dict value)))

/-- `sign_typed_data` as `_sign_claimed` calls it, and `main` of the worker with what it is sent,
up to the key files. -/
def signTypedData (backend : Backend) (custodyReference : String) (domain types message : Record) :
    Except CustodyError Reached := do
  let domain ← copied float floatText room domain
  let types ← copied float floatText room types
  let message ← copied float floatText room message
  let (operation, profile) ← validateContract backend custodyReference domain types message
  let expected ← loadsObject float room (dumpsSorted floatText (.dict backend.expectedBinding))
  refuse (!hasFields ["custody_reference", "wallet_address", "chain_id", "approved_instruments"] expected)
    (.value "invalid binding")
  let request ← loadsObject float room
    (dumpsSorted floatText (.dict (backend.request custodyReference operation profile domain types message)))
  run texts (.dict request) expected

end Delivery

section Verifier

/-- The full message that is encoded. -/
structure Payload where
  types : Record
  primaryType : String
  domain : Record
  message : Record
  deriving Inhabited

def domainFields (domain : Record) : Value :=
  .list (([("name", "string"), ("version", "string"), ("chainId", "uint256"),
    ("verifyingContract", "address"), ("salt", "bytes32")].filter fun field => domain.has field.1).map
      fun field => .dict [("name", .str field.1), ("type", .str field.2)])

/-- `int(text)`, of a text of digits; the other texts that Python reads are not the text of the
number they stand for, and are refused right after. -/
def readInt (text : String) : Option ℤ :=
  match literal text.toList with
  | some (l, []) => if l.isFloat then none else some (intValue l)
  | _ => none

def chainOf (domain : Record) : Option ℤ :=
  match domain.get "chainId" with
  | .int n => some n
  | .str s => readInt s
  | _ => none

/-- A field that fits its type, as far as the verifier looks. -/
def verifierFits (message : Record) (field : String × FieldType) : Bool :=
  match field.2, message.get field.1 with
  | .uint bits, .int value => 0 ≤ value ∧ value < 2 ^ bits
  | .string, .str value => 0 < value.length ∧ value.length ≤ 160
  | _, _ => false

def parentFits (message : Record) : Bool :=
  match message.lookup "order" with
  | none => true
  | some (.str value) => isEvedexClientOrderId value
  | some _ => false

/-- What `verify` encodes, where it gets so far. -/
def signable (walletAddress : String) (domain types message : Record) (signature : String) :
    Option Payload := do
  guard (isAddress walletAddress && wellFormedSignature signature)
  let primary ← types.head?.map Prod.fst
  let chainId ← chainOf domain
  let operation ← operationOf primary
  guard (same (.dict domain) (.dict (buildDomain chainId)))
  let production := same (.dict types) (.dict (typesOf primary (productionSigningTypes operation)))
  let legacy := same (.dict types) (.dict (typesOf primary (eip712Schemas operation)))
  guard (production || legacy)
  let fields := if production then productionSigningTypes operation else eip712Schemas operation
  let metadata := if production && operation = .newTakeProfitStopLoss then ["order"] else []
  guard (hasFields (fields.map Prod.fst) message
    || hasFields (fields.map Prod.fst ++ metadata) message)
  guard (fields.all (verifierFits message))
  guard (parentFits message)
  return {
    types := types ++ [("EIP712Domain", domainFields domain)]
    primaryType := primary
    domain := domain
    message := if production then fields.map fun field => (field.1, message.get field.1) else message }

/-- The recovery id of a signature. -/
def recoveryId (signature : String) : ℕ :=
  match (signature.toList.drop 130).map hexValue with
  | [some a, some b] => if 27 ≤ 16 * a + b then 16 * a + b - 27 else 16 * a + b
  | _ => 256

variable (texts : Texts) (encode : Payload → Option D) (recover : String → D → Option String)

/-- The recovery of the signer from a digest. -/
def recovered (walletAddress signature : String) (digest : D) : Bool :=
  decide (recoveryId signature ∈ [0, 1]) && match recover signature digest with
    | some address => texts.casefold address = texts.casefold walletAddress
    | none => false

def verify (walletAddress : String) (domain types message : Record) (signature : String) : Bool :=
  match (signable walletAddress domain types message signature).bind encode with
  | some digest => recovered texts recover walletAddress signature digest
  | none => false

end Verifier

section Acceptance

/-- The text of a field, where the field is there. -/
def TextOk (message : Record) (field : String) (accepted : String → Bool) : Prop :=
  ∀ v, message.lookup field = some v → ∃ s, v = .str s ∧ accepted s = true

/-- The number of a field, where the field is there. -/
def NumberOk (message : Record) (field : String) (accepted : ℤ → Bool) : Prop :=
  ∀ v, message.lookup field = some v → ∃ n, v = .int n ∧ accepted n = true

def FieldOk (message : Record) (field : String × FieldType) : Prop :=
  match field.2 with
  | .uint bits => ∃ n, message.get field.1 = .int n ∧ 0 ≤ n ∧ n < 2 ^ bits
  | .string => ∃ s, message.get field.1 = .str s ∧ (0 < s.length ∧ s.length ≤ 160) ∧
      ¬∃ c ∈ s.toList, c.toNat < 32

/-- What the checks of a message ask of it, by what is looked up in it. -/
structure Accepted (fields : List (String × FieldType)) (metadata instruments : List String)
    (chainId : ℤ) (operation : String) (message : Record) : Prop where
  only : ∀ name, message.has name = true → name ∈ fields.map Prod.fst ++ metadata
  every : ∀ name ∈ fields.map Prod.fst ++ metadata, message.has name = true
  fits : ∀ field ∈ fields, FieldOk message field
  instrument : TextOk message "instrument" (· ∈ instruments)
  chain : NumberOk message "chainId" (· = chainId)
  side : TextOk message "side" (· ∈ ["BUY", "SELL"])
  leverage : NumberOk message "leverage" (· = 1)
  timeInForce : TextOk message "timeInForce" (· = "IOC")
  id : TextOk message "id" isEvedexClientOrderId
  parent : TextOk message "order" isEvedexClientOrderId
  protection : TextOk message "type" (· ∈ ["stop-loss", "take-profit"])
  price : ∀ name ∈ ["cashQuantity", "limitPrice", "stopPrice", "price"], NumberOk message name (0 < ·)
  quantity : NumberOk message "quantity" fun value =>
    value ≠ 0 ∨ operation = "New take-profit/stop-loss"

variable {refusals : Refusals} {message : Record} {field : String}

theorem text_eq_ok {accepted : String → Bool} {error : CustodyError} :
    text message field accepted error = .ok () ↔ TextOk message field accepted := by
  unfold text TextOk
  cases message.lookup field with
  | none => simp
  | some v => cases v <;> simp

theorem number_eq_ok {accepted : ℤ → Bool} {error : CustodyError} :
    number message field accepted error = .ok () ↔ NumberOk message field accepted := by
  unfold number NumberOk
  cases message.lookup field with
  | none => simp
  | some v => cases v <;> simp

theorem fits_eq_ok {field : String × FieldType} :
    fits refusals message field = .ok () ↔ FieldOk message field := by
  obtain ⟨name, type⟩ := field
  unfold fits FieldOk
  cases type with
  | string => cases message.get name <;> simp
  | uint bits => cases message.get name <;> simp

theorem has_iff {name : String} : message.has name = true ↔ name ∈ message.map Prod.fst := by
  rw [Record.has]
  induction message with
  | nil => simp
  | cons entry message ih =>
    obtain ⟨key, value⟩ := entry
    by_cases same : name = key
    · simp [List.lookup, same]
    · have differs : (name == key) = false := by simpa using same
      simp only [List.lookup, differs, ih, List.map_cons, List.mem_cons, same, false_or]

theorem hasFields_iff {expected : List String} : hasFields expected message = true ↔
    (∀ name, message.has name = true → name ∈ expected) ∧ ∀ name ∈ expected, message.has name = true := by
  rw [hasFields, Bool.and_eq_true, List.all_eq_true, List.all_eq_true]
  refine and_congr_left fun _ => ?_
  constructor
  · intro all name has
    obtain ⟨entry, listed, rfl⟩ := List.mem_map.1 (has_iff.1 has)
    simpa using all entry listed
  · intro only entry listed
    simpa using only entry.1 (has_iff.2 (List.mem_map.2 ⟨entry, listed, rfl⟩))

/-- Which messages pass does not depend on what is raised of the others. -/
theorem checkMessage_eq_ok {fields : List (String × FieldType)} {metadata instruments : List String}
    {chainId : ℤ} {operation : String} :
    checkMessage refusals fields metadata instruments chainId operation message = .ok () ↔
      Accepted fields metadata instruments chainId operation message := by
  unfold checkMessage
  constructor
  · intro h
    obtain ⟨_, keys, h⟩ := bind_eq_ok.1 h
    obtain ⟨_, types, h⟩ := bind_eq_ok.1 h
    obtain ⟨_, instrument, h⟩ := bind_eq_ok.1 h
    obtain ⟨_, chain, h⟩ := bind_eq_ok.1 h
    obtain ⟨_, side, h⟩ := bind_eq_ok.1 h
    obtain ⟨_, leverage, h⟩ := bind_eq_ok.1 h
    obtain ⟨_, timeInForce, h⟩ := bind_eq_ok.1 h
    obtain ⟨_, id, h⟩ := bind_eq_ok.1 h
    obtain ⟨_, parent, h⟩ := bind_eq_ok.1 h
    obtain ⟨_, protection, h⟩ := bind_eq_ok.1 h
    obtain ⟨_, price, quantity⟩ := bind_eq_ok.1 h
    rw [refuse_eq_ok, Bool.not_eq_false', hasFields_iff] at keys
    exact {
      only := keys.1
      every := keys.2
      fits := fun field mem => fits_eq_ok.1 (forM_eq_ok.1 types field mem)
      instrument := text_eq_ok.1 instrument
      chain := number_eq_ok.1 chain
      side := text_eq_ok.1 side
      leverage := number_eq_ok.1 leverage
      timeInForce := text_eq_ok.1 timeInForce
      id := text_eq_ok.1 id
      parent := text_eq_ok.1 parent
      protection := text_eq_ok.1 protection
      price := fun name mem => number_eq_ok.1 (forM_eq_ok.1 price name mem)
      quantity := number_eq_ok.1 quantity }
  · intro h
    have keys : hasFields (fields.map Prod.fst ++ metadata) message = true :=
      hasFields_iff.2 ⟨h.only, h.every⟩
    refine bind_eq_ok.2 ⟨(), by rw [keys]; rfl, ?_⟩
    refine bind_eq_ok.2 ⟨(), forM_eq_ok.2 fun field mem => fits_eq_ok.2 (h.fits field mem), ?_⟩
    refine bind_eq_ok.2 ⟨(), text_eq_ok.2 h.instrument, ?_⟩
    refine bind_eq_ok.2 ⟨(), number_eq_ok.2 h.chain, ?_⟩
    refine bind_eq_ok.2 ⟨(), text_eq_ok.2 h.side, ?_⟩
    refine bind_eq_ok.2 ⟨(), number_eq_ok.2 h.leverage, ?_⟩
    refine bind_eq_ok.2 ⟨(), text_eq_ok.2 h.timeInForce, ?_⟩
    refine bind_eq_ok.2 ⟨(), text_eq_ok.2 h.id, ?_⟩
    refine bind_eq_ok.2 ⟨(), text_eq_ok.2 h.parent, ?_⟩
    refine bind_eq_ok.2 ⟨(), text_eq_ok.2 h.protection, ?_⟩
    refine bind_eq_ok.2 ⟨(), forM_eq_ok.2 fun name mem => number_eq_ok.2 (h.price name mem), ?_⟩
    exact number_eq_ok.2 h.quantity

theorem checkText_eq_ok {accepted : String → Bool} {error : Err} :
    checkText message field accepted error = .ok () ↔ TextOk message field accepted := by
  unfold checkText TextOk
  cases message.lookup field with
  | none => simp
  | some v => cases v <;> simp

theorem checkNumber_eq_ok {accepted : ℤ → Bool} {error : Err} :
    checkNumber message field accepted error = .ok () ↔ NumberOk message field accepted := by
  unfold checkNumber NumberOk
  cases message.lookup field with
  | none => simp
  | some v => cases v <;> simp

theorem checkField_eq_ok {field : String × FieldType} :
    checkField message field = .ok () ↔ FieldOk message field := by
  obtain ⟨name, type⟩ := field
  unfold checkField FieldOk
  cases type with
  | string => cases message.get name <;> simp
  | uint bits => cases message.get name <;> simp

theorem text_protection (operation : SigningOperation) :
    operation.text = "New take-profit/stop-loss" ↔ operation = .newTakeProfitStopLoss := by
  cases operation <;> decide

/-- What `_typed_message` returns passes the checks of the others. -/
theorem typedMessage_accepted {p : Primitives Digest} {request : ManagedSigningRequest Digest}
    {binding : CustodyBinding Digest} (h : typedMessage p request binding = .ok message) :
    p.loads request.messageJson = some (.dict message) ∧
      Accepted (productionSigningTypes request.operation) (metadataFields request.operation)
        binding.approvedInstruments binding.chainId request.operation.text message := by
  obtain ⟨loaded, parsed, h⟩ := bind_eq_ok.1 h
  obtain ⟨_, keys, h⟩ := bind_eq_ok.1 h
  obtain ⟨_, types, h⟩ := bind_eq_ok.1 h
  obtain ⟨_, instrument, h⟩ := bind_eq_ok.1 h
  obtain ⟨_, chain, h⟩ := bind_eq_ok.1 h
  obtain ⟨_, side, h⟩ := bind_eq_ok.1 h
  obtain ⟨_, leverage, h⟩ := bind_eq_ok.1 h
  obtain ⟨_, timeInForce, h⟩ := bind_eq_ok.1 h
  obtain ⟨_, id, h⟩ := bind_eq_ok.1 h
  obtain ⟨_, parent, h⟩ := bind_eq_ok.1 h
  obtain ⟨_, protection, h⟩ := bind_eq_ok.1 h
  obtain ⟨_, price, h⟩ := bind_eq_ok.1 h
  obtain ⟨_, quantity, h⟩ := bind_eq_ok.1 h
  cases h
  refine ⟨?_, ?_⟩
  · unfold parsedMessage at parsed
    split at parsed
    · cases parsed
    · cases parsed
      assumption
    · cases parsed
  · rw [Production.refuse_eq_ok, Bool.not_eq_false'] at keys
    have keys := hasFields_iff.1 keys
    exact {
      only := keys.1
      every := keys.2
      fits := fun field mem => checkField_eq_ok.1 (forM_eq_ok.1 types field mem)
      instrument := checkText_eq_ok.1 instrument
      chain := checkNumber_eq_ok.1 chain
      side := checkText_eq_ok.1 side
      leverage := checkNumber_eq_ok.1 leverage
      timeInForce := checkText_eq_ok.1 timeInForce
      id := checkText_eq_ok.1 id
      parent := checkText_eq_ok.1 parent
      protection := checkText_eq_ok.1 protection
      price := fun name mem => checkNumber_eq_ok.1 (forM_eq_ok.1 price name mem)
      quantity := by
        simpa only [text_protection] using checkNumber_eq_ok.1 quantity }

end Acceptance

section Values

/-- What pydantic validates of a `CustodyBindingV1`. -/
structure ValidBinding (binding : CustodyBinding Digest) : Prop where
  reference : isReference binding.custodyReference = true
  wallet : isAddress binding.walletAddress = true
  chain : 0 < binding.chainId ∧ binding.chainId < 2 ^ 256
  five : binding.approvedInstruments.length = 5
  distinct : binding.approvedInstruments.Nodup
  instruments : ∀ i ∈ binding.approvedInstruments, isReference i = true

/-- The backend of a binding, with its files. -/
def backendOf (binding : CustodyBinding Digest) (keystoreFile unlockFile : String) : Backend where
  keystoreFile := keystoreFile
  unlockFile := unlockFile
  custodyReference := binding.custodyReference
  walletAddress := binding.walletAddress
  chainId := binding.chainId
  approvedInstruments := binding.approvedInstruments

/-- The fields of a message that are signed, in the order of the schema. -/
def signedOf (operation : SigningOperation) (message : Record) : Record :=
  (productionSigningTypes operation).map fun field => (field.1, message.get field.1)

variable {operation : SigningOperation} {instruments : List String} {chainId : ℤ} {message : Record}
  {float : Literal → Option ℚ} {floatText : ℚ → List Char} {room : ℕ}

theorem plain_integer {n : ℤ} (nonneg : 0 ≤ n) (lt : n < 2 ^ 256) : Plain room (.int n) := by
  have digits : (Nat.toDigits 10 n.natAbs).length ≤ 78 := by
    rw [Nat.length_toDigits_le_iff (by decide) (by decide)]
    omega
  exact .int (digits.trans (by decide))

theorem bits_le : ∀ field ∈ productionSigningTypes operation, ∀ bits, field.2 = .uint bits →
    bits ≤ 256 := by
  cases operation <;> simp [productionSigningTypes]

theorem get_of_mem (nodup : (message.map Prod.fst).Nodup) {entry : String × Value}
    (mem : entry ∈ message) : message.get entry.1 = entry.2 :=
  get_of_lookup ((Dict.Unique.lookup_iff nodup entry.1 entry.2).2 mem)

/-- The values of a message are texts and integers of at most 256 bits. -/
theorem Accepted.scalar (nodup : (message.map Prod.fst).Nodup)
    (accepted : Accepted (productionSigningTypes operation) (metadataFields operation) instruments
      chainId operation.text message) {entry : String × Value} (mem : entry ∈ message) :
    Plain room entry.2 ∧ Json.sortKeys entry.2 = entry.2 := by
  have has : message.has entry.1 = true := has_iff.2 (List.mem_map_of_mem mem)
  have get := get_of_mem nodup mem
  rcases List.mem_append.1 (accepted.only _ has) with signed | metadata
  · obtain ⟨⟨name, type⟩, listed, eq⟩ := List.mem_map.1 signed
    have ok := accepted.fits _ listed
    dsimp only at eq
    subst eq
    unfold FieldOk at ok
    dsimp only at ok
    cases type with
    | string =>
      obtain ⟨s, eq, _⟩ := ok
      rw [get] at eq
      rw [eq]
      exact ⟨.str s, rfl⟩
    | uint bits =>
      obtain ⟨n, eq, nonneg, lt⟩ := ok
      rw [get] at eq
      rw [eq]
      have le : (2 : ℤ) ^ bits ≤ 2 ^ 256 := by
        have small := bits_le _ listed bits rfl
        gcongr
        decide
      exact ⟨plain_integer nonneg (lt.trans_le le), rfl⟩
  · have parent : entry.1 = "order" := by
      revert metadata
      cases operation <;> simp [metadataFields]
    have found : message.lookup "order" = some entry.2 := by
      rw [← parent]
      exact (Dict.Unique.lookup_iff nodup entry.1 entry.2).2 mem
    obtain ⟨s, eq, _⟩ := accepted.parent _ found
    rw [eq]
    exact ⟨.str s, rfl⟩

theorem plain_strings (texts : List String) : Plain (room + 1) (.list (texts.map .str)) := by
  refine .list fun item mem => ?_
  obtain ⟨s, _, rfl⟩ := List.mem_map.1 mem
  exact .str s

theorem plain_domain (chainId : ℤ) : Plain (room + 1) (.dict (buildDomain chainId)) := by
  refine .dict ?_ fun entry mem => ?_
  · show ["name", "version", "salt", "chainId"].Nodup
    decide
  · obtain ⟨s, eq⟩ : ∃ s, entry.2 = .str s := by
      revert entry
      simp [buildDomain, fixedDomain]
    rw [eq]
    exact .str s

theorem plain_types (name : String) (fields : List (String × FieldType)) :
    Plain (room + 3) (.dict (typesOf name fields)) := by
  refine .dict (List.nodup_singleton _) fun entry mem => ?_
  rw [List.mem_singleton.1 mem]
  refine .list fun item listed => ?_
  obtain ⟨field, _, rfl⟩ := List.mem_map.1 listed
  refine .dict ?_ fun entry mem => ?_
  · show ["name", "type"].Nodup
    decide
  · obtain ⟨s, eq⟩ : ∃ s, entry.2 = .str s := by
      revert entry
      simp
    rw [eq]
    exact .str s

theorem plain_message (nodup : (message.map Prod.fst).Nodup)
    (accepted : Accepted (productionSigningTypes operation) (metadataFields operation) instruments
      chainId operation.text message) : Plain (room + 1) (.dict message) :=
  .dict nodup fun _ mem => (accepted.scalar nodup mem).1

/-- What goes to a process as JSON arrives. -/
theorem copied_plain {value : Record} (plain : Plain room (.dict value)) :
    copied float floatText room value = .ok value := by
  rw [copied, loadsObject, loads, String.toList_ofList, plain.document]
  rfl

/-- The dict that the other process reads of a sorted text. -/
abbrev received (value : Record) : Record := Dict.sorted (· ≤ ·) (sortEntries value)

theorem loadsObject_sorted {value : Record} (plain : Plain room (.dict value)) :
    loadsObject float room (dumpsSorted floatText (.dict value)) = .ok (received value) := by
  rw [loadsObject, plain.loads_dumpsSorted]
  rfl

theorem received_get {value : Record} (nodup : (value.map Prod.fst).Nodup) (name : String) :
    Record.get (received value) name = Json.sortKeys (value.get name) := by
  rw [Record.get, lookup_sorted nodup, Record.get]
  cases value.lookup name with
  | none => rfl
  | some _ => rfl

theorem sortKeys_strings (texts : List String) :
    Json.sortKeys (.list (texts.map .str)) = .list (texts.map .str) := by
  rw [Json.sortKeys, sortItems_eq, List.map_map]
  rfl

/-- A message is received in another order. -/
theorem received_message (nodup : (message.map Prod.fst).Nodup)
    (accepted : Accepted (productionSigningTypes operation) (metadataFields operation) instruments
      chainId operation.text message) (name : String) :
    (received message).lookup name = message.lookup name := by
  rw [lookup_sorted nodup]
  cases found : message.lookup name with
  | none => rfl
  | some value =>
    have mem : (name, value) ∈ message := (Dict.Unique.lookup_iff nodup name value).1 found
    obtain ⟨-, same⟩ : Plain 0 value ∧ Json.sortKeys value = value := accepted.scalar nodup mem
    rw [Option.map_some, same]

theorem Accepted.congr {fields : List (String × FieldType)} {metadata : List String} {name : String}
    {other : Record} (h : Accepted fields metadata instruments chainId name message)
    (same : ∀ key, other.lookup key = message.lookup key) :
    Accepted fields metadata instruments chainId name other := by
  have has : ∀ key, other.has key = message.has key := fun key => by rw [Record.has, same, Record.has]
  have get : ∀ key, other.get key = message.get key := fun key => by rw [Record.get, same, Record.get]
  have texts : ∀ {key accepted}, TextOk message key accepted → TextOk other key accepted :=
    fun ok v found => ok v ((same _).symm.trans found)
  have numbers : ∀ {key accepted}, NumberOk message key accepted → NumberOk other key accepted :=
    fun ok v found => ok v ((same _).symm.trans found)
  exact {
    only := fun key present => h.only key ((has key).symm.trans present)
    every := fun key mem => (has key).trans (h.every key mem)
    fits := fun field mem => by
      unfold FieldOk
      rw [get]
      exact h.fits field mem
    instrument := texts h.instrument
    chain := numbers h.chain
    side := texts h.side
    leverage := numbers h.leverage
    timeInForce := texts h.timeInForce
    id := texts h.id
    parent := texts h.parent
    protection := texts h.protection
    price := fun key mem => numbers (h.price key mem)
    quantity := numbers h.quantity }

end Values

section Contract

variable {binding : CustodyBinding Digest} {operation : SigningOperation} {message : Record}

theorem operationOf_text (operation : SigningOperation) : operationOf operation.text = some operation := by
  cases operation <;> decide

theorem metadataOf_production (operation : SigningOperation) :
    metadataOf productionProfile operation.text = metadataFields operation := by
  cases operation <;> decide

theorem ValidBinding.nonempty (valid : ValidBinding binding) {instrument : String}
    (mem : instrument ∈ binding.approvedInstruments) : instrument ≠ "" := by
  rintro rfl
  have found := valid.instruments "" mem
  revert found
  decide

/-- The contract of the local backend. -/
theorem validateContract_eq_ok (valid : ValidBinding binding)
    (accepted : Accepted (productionSigningTypes operation) (metadataFields operation)
      binding.approvedInstruments binding.chainId operation.text message)
    (keystoreFile unlockFile : String) :
    validateContract (backendOf binding keystoreFile unlockFile) binding.custodyReference
      (buildDomain binding.chainId) (typesOf operation.text (productionSigningTypes operation)) message =
      .ok (operation.text, productionProfile) := by
  have reference : binding.custodyReference ≠ "" := by
    intro none
    have found := valid.reference
    rw [none] at found
    revert found
    decide
  have types : same (.dict (typesOf operation.text (productionSigningTypes operation)))
      (.dict (typesOf operation.text (productionSigningTypes operation))) = true := by
    have plain : Plain 3 (.dict (typesOf operation.text (productionSigningTypes operation))) :=
      plain_types _ _
    exact plain.same_self
  have domain : same (.dict (buildDomain binding.chainId)) (.dict (buildDomain binding.chainId)) =
      true := by
    have plain : Plain 1 (.dict (buildDomain binding.chainId)) := plain_domain _
    exact plain.same_self
  have named : binding.approvedInstruments.all (· ≠ "") = true := by
    rw [List.all_eq_true]
    exact fun i mem => decide_eq_true (valid.nonempty mem)
  unfold validateContract backendOf
  dsimp only
  refine bind_eq_ok.2 ⟨(), refuse_eq_ok.2 (decide_eq_false reference), ?_⟩
  refine bind_eq_ok.2 ⟨(), refuse_eq_ok.2 (by simp), ?_⟩
  refine bind_eq_ok.2 ⟨(), refuse_eq_ok.2 (by simp [valid.reference]), ?_⟩
  refine bind_eq_ok.2 ⟨(), refuse_eq_ok.2 (by simpa [valid.wallet] using valid.chain), ?_⟩
  refine bind_eq_ok.2 ⟨(), refuse_eq_ok.2 ?_, ?_⟩
  · rw [named, List.dedup_eq_self.2 valid.distinct, valid.five]
    rfl
  refine bind_eq_ok.2 ⟨operation, ?_, ?_⟩
  · unfold contractOperation typesOf
    simp only [operationOf_text]
  refine bind_eq_ok.2 ⟨(productionProfile, productionSigningTypes operation), if_pos types, ?_⟩
  refine bind_eq_ok.2 ⟨(), refuse_eq_ok.2 (by rw [domain]; rfl), ?_⟩
  refine bind_eq_ok.2 ⟨(), checkMessage_eq_ok.2 ?_, rfl⟩
  rw [metadataOf_production]
  exact accepted

end Contract

section Worker

variable {texts : Texts} {binding : CustodyBinding Digest} {operation : SigningOperation}
  {message : Record}

theorem ok_bind {ε α β : Type} (a : α) (f : α → Except ε β) : (Except.ok a >>= f) = f a := rfl

theorem refuse_false (error : CustodyError) : refuse false error = .ok () := rfl

theorem same_str (s : String) : same (.str s) (.str s) = true := by simp [same]

theorem same_int (n : ℤ) : same (.int n) (.int n) = true := by simp [same, Json.numberOf]

theorem workerFields_production (operation : SigningOperation) :
    workerFields (.str productionProfile) operation.text = .ok (productionSigningTypes operation) := by
  cases operation <;> rfl

theorem distinct_strings {texts : List String} (nodup : texts.Nodup) :
    distinct (texts.map .str) = texts.map .str := by
  induction texts with
  | nil => rfl
  | cons s texts ih =>
    obtain ⟨absent, nodup⟩ := List.nodup_cons.1 nodup
    rw [List.map_cons, distinct, ih nodup, if_neg]
    rw [List.any_map, List.any_eq_true]
    rintro ⟨t, listed, equal⟩
    have eq : s = t := by simpa [same] using equal
    exact absent (eq ▸ listed)

theorem setLength_strings {texts : List String} (nodup : texts.Nodup) :
    setLength (texts.map .str) = .ok texts.length := by
  rw [setLength, if_pos (by simp), distinct_strings nodup, List.length_map]

theorem workerInstruments_strings {texts texts' : List String} :
    workerInstruments (texts.map .str) = .ok texts' ↔
      texts' = texts ∧ ∀ s ∈ texts, 0 < s.length ∧ s.length ≤ 80 := by
  induction texts generalizing texts' with
  | nil =>
    show Except.ok [] = Except.ok texts' ↔ _
    simp [eq_comm]
  | cons s texts ih =>
    rw [workerInstruments, List.map_cons, List.mapM_cons]
    constructor
    · intro h
      obtain ⟨first, read, h⟩ := bind_eq_ok.1 h
      obtain ⟨others, rest, h⟩ := bind_eq_ok.1 h
      cases h
      obtain ⟨rfl, short⟩ := ih.1 rest
      unfold workerInstrument at read
      dsimp only at read
      split at read
      · cases read
        exact ⟨rfl, List.forall_mem_cons.2 ⟨‹_›, short⟩⟩
      · cases read
    · rintro ⟨rfl, short⟩
      obtain ⟨first, short⟩ := List.forall_mem_cons.1 short
      refine bind_eq_ok.2 ⟨s, if_pos first, ?_⟩
      exact bind_eq_ok.2 ⟨texts, ih.2 ⟨rfl, short⟩, rfl⟩

/-- The request of the backend to its worker. -/
abbrev requestOf (binding : CustodyBinding Digest) (operation : SigningOperation) (message : Record)
    (keystoreFile unlockFile : String) : Record :=
  (backendOf binding keystoreFile unlockFile).request binding.custodyReference operation.text
    productionProfile (buildDomain binding.chainId)
    (typesOf operation.text (productionSigningTypes operation)) message

theorem request_nodup (keystoreFile unlockFile : String) :
    ((requestOf binding operation message keystoreFile unlockFile).map Prod.fst).Nodup := by
  show ["version", "custody_reference", "wallet_address", "chain_id", "approved_instruments", "domain",
    "types", "message", "operation", "schema_profile", "keystore_file", "unlock_file"].Nodup
  decide

theorem expected_nodup (keystoreFile unlockFile : String) :
    ((backendOf binding keystoreFile unlockFile).expectedBinding.map Prod.fst).Nodup := by
  show ["custody_reference", "wallet_address", "chain_id", "approved_instruments"].Nodup
  decide

/-- Where the worker goes to its key files, and with what. -/
theorem run_eq_ok (valid : ValidBinding binding) (nodup : (message.map Prod.fst).Nodup)
    (accepted : Accepted (productionSigningTypes operation) (metadataFields operation)
      binding.approvedInstruments binding.chainId operation.text message)
    {keystoreFile unlockFile : String} {reached : Reached} :
    run texts (.dict (received (requestOf binding operation message keystoreFile unlockFile)))
      (received (backendOf binding keystoreFile unlockFile).expectedBinding) = .ok reached ↔
      (∀ i ∈ binding.approvedInstruments, i.length ≤ 80) ∧ reached = {
        walletAddress := binding.walletAddress
        keystoreFile := .str keystoreFile
        unlockFile := .str unlockFile
        domain := buildDomain binding.chainId
        types := typesOf operation.text (productionSigningTypes operation)
        signedMessage := signedOf operation message } := by
  have gets : ∀ name, Record.get (received (requestOf binding operation message keystoreFile unlockFile)) name =
      Json.sortKeys ((requestOf binding operation message keystoreFile unlockFile).get name) :=
    received_get (request_nodup _ _)
  have bound : ∀ name, Record.get (received (backendOf binding keystoreFile unlockFile).expectedBinding) name =
      Json.sortKeys ((backendOf binding keystoreFile unlockFile).expectedBinding.get name) :=
    received_get (expected_nodup _ _)
  have version : _ = Value.str "kairos.local-keystore-sign.v1" := gets "version"
  have name : _ = Value.str operation.text := gets "operation"
  have profile : _ = Value.str productionProfile := gets "schema_profile"
  have reference : _ = Value.str binding.custodyReference := gets "custody_reference"
  have wallet : _ = Value.str binding.walletAddress := gets "wallet_address"
  have chain : _ = Value.int binding.chainId := gets "chain_id"
  have instruments := (gets "approved_instruments").trans (sortKeys_strings binding.approvedInstruments)
  have domain : _ = Json.sortKeys (.dict (buildDomain binding.chainId)) := gets "domain"
  have types : _ = Json.sortKeys (.dict (typesOf operation.text (productionSigningTypes operation))) :=
    gets "types"
  have content : _ = Value.dict (received message) := gets "message"
  have keystore : _ = Value.str keystoreFile := gets "keystore_file"
  have unlock : _ = Value.str unlockFile := gets "unlock_file"
  have reference' : _ = Value.str binding.custodyReference := bound "custody_reference"
  have chain' : _ = Value.int binding.chainId := bound "chain_id"
  have instruments' := (bound "approved_instruments").trans (sortKeys_strings binding.approvedInstruments)
  have wallet' : Record.getD (received (backendOf binding keystoreFile unlockFile).expectedBinding)
      "wallet_address" (.str "") = .str binding.walletAddress := by
    rw [Record.getD, lookup_sorted (expected_nodup _ _)]
    rfl
  have sameDomain : same (Json.sortKeys (.dict (buildDomain binding.chainId)))
      (.dict (buildDomain binding.chainId)) = true := by
    have plain : Plain 1 (.dict (buildDomain binding.chainId)) := plain_domain _
    exact plain.same_sortKeys
  have sameTypes : same (Json.sortKeys (.dict (typesOf operation.text (productionSigningTypes operation))))
      (.dict (typesOf operation.text (productionSigningTypes operation))) = true := by
    have plain : Plain 3 (.dict (typesOf operation.text (productionSigningTypes operation))) :=
      plain_types _ _
    exact plain.same_sortKeys
  have sameItems : same (.list (binding.approvedInstruments.map .str))
      (.list (binding.approvedInstruments.map .str)) = true := by
    have plain : Plain 1 (.list (binding.approvedInstruments.map .str)) := plain_strings _
    exact plain.same_self
  have checked : checkMessage workerRefusals (productionSigningTypes operation)
      (metadataFields operation) binding.approvedInstruments binding.chainId operation.text
      (received message) = .ok () :=
    checkMessage_eq_ok.2 (accepted.congr (received_message nodup accepted))
  have signed : (productionSigningTypes operation).map (fun field =>
      (field.1, (received message).get field.1)) = signedOf operation message := by
    refine List.map_congr_left fun field _ => ?_
    rw [Record.get, received_message nodup accepted, Record.get]
  have nonempty : binding.custodyReference ≠ "" := by
    intro none
    have found := valid.reference
    rw [none] at found
    revert found
    decide
  have pos : ¬(binding.chainId : ℤ) ≤ 0 := by
    have := valid.chain.1
    omega
  generalize received (requestOf binding operation message keystoreFile unlockFile) = sent at *
  generalize received (backendOf binding keystoreFile unlockFile).expectedBinding = expected at *
  unfold run
  simp only [asObject, ok_bind, version, name, profile, reference, wallet, chain, instruments, domain,
    types, content, keystore, unlock, reference', chain', instruments', wallet', asText, asInteger,
    asItems, workerFields_production, setLength_strings valid.distinct, List.length_map, valid.five]
  have shown : fixedDomain ++ [("chainId", .str (decimalText binding.chainId))] =
      buildDomain binding.chainId := rfl
  have casefolds : texts.str (.str binding.walletAddress) = binding.walletAddress := rfl
  simp only [shown, casefolds, same_str, same_int, sameDomain, sameTypes, sameItems, nonempty, pos,
    valid.wallet, signed, metadataOf_production, refuse_false, ok_bind, ne_eq, not_true_eq_false,
    decide_false, Bool.not_true, Bool.or_false, if_true]
  rw [bind_eq_ok]
  constructor
  · rintro ⟨instruments, read, h⟩
    obtain ⟨rfl, short⟩ := workerInstruments_strings.1 read
    rw [checked, ok_bind] at h
    cases h
    exact ⟨fun i mem => (short i mem).2, rfl⟩
  · rintro ⟨short, rfl⟩
    refine ⟨binding.approvedInstruments, workerInstruments_strings.2 ⟨rfl, fun i mem => ?_⟩, ?_⟩
    · have nonempty := valid.nonempty mem
      exact ⟨by simpa [Nat.pos_iff_ne_zero] using nonempty, short i mem⟩
    · rw [checked]
      rfl

end Worker

section Verifier

variable {binding : CustodyBinding Digest} {operation : SigningOperation} {message : Record}
  {float : Literal → Option ℚ} {floatText : ℚ → List Char} {room : ℕ}

theorem names_nodup (operation : SigningOperation) :
    ((productionSigningTypes operation).map Prod.fst).Nodup := by
  cases operation <;> decide

theorem signedOf_keys (operation : SigningOperation) (message : Record) :
    (signedOf operation message).map Prod.fst = (productionSigningTypes operation).map Prod.fst := by
  rw [signedOf, List.map_map]
  rfl

theorem signedOf_nodup (operation : SigningOperation) (message : Record) :
    ((signedOf operation message).map Prod.fst).Nodup := by
  rw [signedOf_keys]
  exact names_nodup operation

/-- A signed field has the value that it has in the message. -/
theorem signedOf_get {field : String × FieldType} (mem : field ∈ productionSigningTypes operation) :
    (signedOf operation message).get field.1 = message.get field.1 :=
  get_of_mem (signedOf_nodup operation message) (List.mem_map_of_mem mem)

theorem signedOf_signedOf : signedOf operation (signedOf operation message) = signedOf operation message :=
  List.map_congr_left fun _ mem => by rw [signedOf_get mem]

theorem signedOf_hasFields : hasFields ((productionSigningTypes operation).map Prod.fst)
    (signedOf operation message) = true := by
  rw [hasFields_iff]
  constructor
  · intro name has
    rw [has_iff, signedOf_keys] at has
    exact has
  · intro name mem
    rw [has_iff, signedOf_keys]
    exact mem

theorem FieldOk.verifierFits {field : String × FieldType} (ok : FieldOk message field) :
    verifierFits message field = true := by
  obtain ⟨name, type⟩ := field
  unfold FieldOk at ok
  unfold Custody.verifierFits
  cases type with
  | string =>
    obtain ⟨s, eq, range, _⟩ := ok
    dsimp only at eq ⊢
    rw [eq]
    exact decide_eq_true range
  | uint bits =>
    obtain ⟨n, eq, range⟩ := ok
    dsimp only at eq ⊢
    rw [eq]
    exact decide_eq_true range

theorem readInt_decimalText (n : ℤ) : readInt (decimalText n) = some n := by
  have read : literal (intText n ++ []) = some (intLiteral n, []) :=
    literal_intText fun _ mem => nomatch mem
  rw [List.append_nil] at read
  have whole : (intLiteral n).isFloat = false := by simp [Literal.isFloat, intLiteral]
  rw [readInt, decimalText, String.toList_ofList, read]
  dsimp only
  rw [whole, intValue_intLiteral]
  rfl

/-- What the verifier encodes. -/
def payloadOf (binding : CustodyBinding Digest) (operation : SigningOperation) (signed : Record) :
    Payload where
  types := typesOf operation.text (productionSigningTypes operation) ++
    [("EIP712Domain", domainFields (buildDomain binding.chainId))]
  primaryType := operation.text
  domain := buildDomain binding.chainId
  message := signed

/-- A message that fits its types, as the verifier sees it. -/
structure Verifiable (operation : SigningOperation) (message : Record) : Prop where
  keys : hasFields ((productionSigningTypes operation).map Prod.fst) message = true ∨
    hasFields ((productionSigningTypes operation).map Prod.fst ++ metadataFields operation) message = true
  fields : ∀ field ∈ productionSigningTypes operation, FieldOk message field
  parent : TextOk message "order" isEvedexClientOrderId

theorem signable_eq (valid : ValidBinding binding) (verifiable : Verifiable operation message)
    {signature : String} (wellFormed : wellFormedSignature signature = true) :
    signable binding.walletAddress (buildDomain binding.chainId)
      (typesOf operation.text (productionSigningTypes operation)) message signature =
      some (payloadOf binding operation (signedOf operation message)) := by
  have domain : same (.dict (buildDomain binding.chainId)) (.dict (buildDomain binding.chainId)) =
      true := by
    have plain : Plain 1 (.dict (buildDomain binding.chainId)) := plain_domain _
    exact plain.same_self
  have types : same (.dict (typesOf operation.text (productionSigningTypes operation)))
      (.dict (typesOf operation.text (productionSigningTypes operation))) = true := by
    have plain : Plain 3 (.dict (typesOf operation.text (productionSigningTypes operation))) :=
      plain_types _ _
    exact plain.same_self
  have chain : chainOf (buildDomain binding.chainId) = some (binding.chainId : ℤ) :=
    readInt_decimalText binding.chainId
  have fields : (productionSigningTypes operation).all (verifierFits message) = true := by
    rw [List.all_eq_true]
    exact fun field mem => (verifiable.fields field mem).verifierFits
  have parent : parentFits message = true := by
    unfold parentFits
    cases found : message.lookup "order" with
    | none => rfl
    | some v =>
      obtain ⟨s, rfl, ok⟩ := verifiable.parent v found
      exact ok
  have metadata : (if (true && decide (operation = .newTakeProfitStopLoss)) = true then ["order"] else []) =
      metadataFields operation := by
    cases operation <;> rfl
  have keys : (hasFields ((productionSigningTypes operation).map Prod.fst) message
      || hasFields ((productionSigningTypes operation).map Prod.fst ++ metadataFields operation) message)
      = true := by
    rw [Bool.or_eq_true]
    exact verifiable.keys
  have head : (typesOf operation.text (productionSigningTypes operation)).head?.map Prod.fst =
      some operation.text := rfl
  unfold signable
  simp only [valid.wallet, wellFormed, head, chain, operationOf_text, domain, types, Bool.and_self,
    Bool.true_or, if_true, metadata, keys, fields, parent, guard_true, Option.bind_eq_bind,
    Option.bind_some, Option.pure_def]
  rfl

theorem Accepted.verifiable {instruments : List String} {chainId : ℤ}
    (accepted : Accepted (productionSigningTypes operation) (metadataFields operation) instruments
      chainId operation.text message) : Verifiable operation message where
  keys := .inr (hasFields_iff.2 ⟨accepted.only, accepted.every⟩)
  fields := accepted.fits
  parent := accepted.parent

/-- The projected message is verified without the parent order of a protection. -/
theorem Verifiable.signedOf (verifiable : Verifiable operation message) :
    Verifiable operation (Custody.signedOf operation message) where
  keys := .inl signedOf_hasFields
  fields field mem := by
    unfold FieldOk
    rw [signedOf_get mem]
    exact verifiable.fields field mem
  parent v found := by
    have has : (Custody.signedOf operation message).has "order" = true := by
      rw [Record.has, found]
      rfl
    rw [has_iff, signedOf_keys] at has
    have absent : "order" ∉ (productionSigningTypes operation).map Prod.fst := by
      cases operation <;> decide
    exact absurd has absent

end Verifier

section Agreement

variable (texts : Texts) (float : Literal → Option ℚ) (floatText : ℚ → List Char) (room : ℕ)
  (encode : Payload → Option D)

/-- A payload that follows its types, which is what `encode_typed_data` encodes. -/
def Payload.WellTyped (payload : Payload) : Prop :=
  ∃ (operation : SigningOperation) (chainId : ℕ),
    payload.types = typesOf operation.text (productionSigningTypes operation) ++
      [("EIP712Domain", domainFields (buildDomain chainId))] ∧
    payload.primaryType = operation.text ∧ payload.domain = buildDomain chainId ∧
    payload.message.map Prod.fst = (productionSigningTypes operation).map Prod.fst ∧
    ∀ field ∈ productionSigningTypes operation, FieldOk payload.message field

/-- What comes after `_typed_message` accepts: the contract of the backend, the worker, which goes to
its key files, and the verifier, which recovers the signer from the whole message and from the
projected one. They sign, hash and project the same fields. -/
structure Agreed (binding : CustodyBinding Digest) (operation : SigningOperation)
    (message signed : Record) : Prop where
  projected : productionSignedMessage operation message = .ok signed
  integers : ∀ field bits, (field, .uint bits) ∈ productionSigningTypes operation →
    ∃ n, message.lookup field = some (.int n) ∧ signed.lookup field = some (.int n)
  contract : ∀ keystoreFile unlockFile, ∃ domain types copy,
    copied float floatText room (buildDomain binding.chainId) = .ok domain ∧
    copied float floatText room (typesOf operation.text (productionSigningTypes operation)) = .ok types ∧
    copied float floatText room message = .ok copy ∧
    validateContract (backendOf binding keystoreFile unlockFile) binding.custodyReference domain types
      copy = .ok (operation.text, productionProfile)
  worker : ∀ keystoreFile unlockFile, ∃ reached,
    signTypedData texts float floatText room (backendOf binding keystoreFile unlockFile)
      binding.custodyReference (buildDomain binding.chainId)
      (typesOf operation.text (productionSigningTypes operation)) message = .ok reached ∧
    reached.domain = buildDomain binding.chainId ∧
    reached.types = typesOf operation.text (productionSigningTypes operation) ∧
    reached.signedMessage = signed
  verifier : ∃ digest, encode (payloadOf binding operation signed) = some digest ∧
    ∀ recover signature, wellFormedSignature signature = true → ∀ verified ∈ [message, signed],
      verify texts encode recover binding.walletAddress (buildDomain binding.chainId)
        (typesOf operation.text (productionSigningTypes operation)) verified signature =
        recovered texts recover binding.walletAddress signature digest

variable {texts float floatText room encode} {p : Primitives Digest}
  {request : ManagedSigningRequest Digest} {binding : CustodyBinding Digest} {message : Record}
  {operation : SigningOperation}

theorem request_plain (nodup : (message.map Prod.fst).Nodup)
    (accepted : Accepted (productionSigningTypes operation) (metadataFields operation)
      binding.approvedInstruments binding.chainId operation.text message)
    (chain : binding.chainId < 2 ^ 256) (keystoreFile unlockFile : String) :
    Plain (room + 4) (.dict (requestOf binding operation message keystoreFile unlockFile)) := by
  have integer : Plain (room + 3) (.int binding.chainId) :=
    plain_integer (Int.natCast_nonneg _) (by exact_mod_cast chain)
  refine .dict (request_nodup _ _) fun entry mem => ?_
  simp only [requestOf, Backend.request, backendOf, List.mem_cons, List.not_mem_nil, or_false] at mem
  rcases mem with rfl | rfl | rfl | rfl | rfl | rfl | rfl | rfl | rfl | rfl | rfl | rfl
  · exact .str _
  · exact .str _
  · exact .str _
  · exact integer
  · exact plain_strings _
  · exact plain_domain _
  · exact plain_types _ _
  · exact plain_message nodup accepted
  · exact .str _
  · exact .str _
  · exact .str _
  · exact .str _

theorem expected_plain (chain : binding.chainId < 2 ^ 256) (keystoreFile unlockFile : String) :
    Plain (room + 4) (.dict (backendOf binding keystoreFile unlockFile).expectedBinding) := by
  have integer : Plain (room + 3) (.int binding.chainId) :=
    plain_integer (Int.natCast_nonneg _) (by exact_mod_cast chain)
  refine .dict (expected_nodup _ _) fun entry mem => ?_
  simp only [Backend.expectedBinding, backendOf, List.mem_cons, List.not_mem_nil, or_false] at mem
  rcases mem with rfl | rfl | rfl | rfl
  · exact .str _
  · exact .str _
  · exact integer
  · exact plain_strings _

theorem expected_hasFields (keystoreFile unlockFile : String) :
    hasFields ["custody_reference", "wallet_address", "chain_id", "approved_instruments"]
      (received (backendOf binding keystoreFile unlockFile).expectedBinding) = true := by
  have has : ∀ name, Record.has (received (backendOf binding keystoreFile unlockFile).expectedBinding) name =
      (backendOf binding keystoreFile unlockFile).expectedBinding.has name := fun name => by
    rw [Record.has, lookup_sorted (expected_nodup _ _), Option.isSome_map, Record.has]
  rw [hasFields_iff]
  constructor
  · intro name found
    rw [has, has_iff] at found
    exact found
  · intro name mem
    rw [has, has_iff]
    exact mem

/-- The backend and its worker, with what they are sent. -/
theorem signTypedData_eq (valid : ValidBinding binding) (nodup : (message.map Prod.fst).Nodup)
    (accepted : Accepted (productionSigningTypes operation) (metadataFields operation)
      binding.approvedInstruments binding.chainId operation.text message)
    (keystoreFile unlockFile : String) :
    signTypedData texts float floatText (room + 4) (backendOf binding keystoreFile unlockFile)
      binding.custodyReference (buildDomain binding.chainId)
      (typesOf operation.text (productionSigningTypes operation)) message =
    run texts (.dict (received (requestOf binding operation message keystoreFile unlockFile)))
      (received (backendOf binding keystoreFile unlockFile).expectedBinding) := by
  unfold signTypedData
  rw [copied_plain (plain_domain _), ok_bind, copied_plain (plain_types _ _), ok_bind,
    copied_plain (plain_message nodup accepted), ok_bind, validateContract_eq_ok valid accepted, ok_bind]
  dsimp only
  rw [loadsObject_sorted (expected_plain valid.chain.2 _ _), ok_bind, expected_hasFields, Bool.not_true,
    refuse_false, ok_bind, loadsObject_sorted (request_plain nodup accepted valid.chain.2 _ _), ok_bind]

theorem projected_eq (accepted : Accepted (productionSigningTypes operation) (metadataFields operation)
    binding.approvedInstruments binding.chainId operation.text message) :
    productionSignedMessage operation message = .ok (signedOf operation message) := by
  have fixed : fixedSchema operation message = true := hasFields_iff.2 ⟨accepted.only, accepted.every⟩
  rw [productionSignedMessage, fixed]
  rfl

theorem payload_wellTyped (accepted : Accepted (productionSigningTypes operation)
    (metadataFields operation) binding.approvedInstruments binding.chainId operation.text message) :
    (payloadOf binding operation (signedOf operation message)).WellTyped :=
  ⟨operation, binding.chainId, rfl, rfl, rfl, signedOf_keys operation message, fun field mem => by
    unfold FieldOk payloadOf
    rw [signedOf_get mem]
    exact accepted.fits field mem⟩

theorem integer_kept (accepted : Accepted (productionSigningTypes operation) (metadataFields operation)
    binding.approvedInstruments binding.chainId operation.text message) {field : String} {bits : ℕ}
    (mem : (field, .uint bits) ∈ productionSigningTypes operation) :
    ∃ n, message.lookup field = some (.int n) ∧
      (signedOf operation message).lookup field = some (.int n) := by
  obtain ⟨n, found, -⟩ := accepted.fits _ mem
  have signed : (signedOf operation message).get field = .int n := (signedOf_get mem).trans found
  exact ⟨n, lookup_of_get found nofun, lookup_of_get signed nofun⟩

theorem Agreed.short {signed : Record} (valid : ValidBinding binding)
    (typed : typedMessage { p with loads := loads float (room + 4) } request binding = .ok message)
    (agreed : Agreed texts float floatText (room + 4) encode binding request.operation message signed) :
    ∀ i ∈ binding.approvedInstruments, i.length ≤ 80 := by
  obtain ⟨loaded, accepted⟩ := typedMessage_accepted typed
  have nodup := loads_nodup float loaded
  obtain ⟨reached, run, -⟩ := agreed.worker "" ""
  rw [signTypedData_eq valid nodup accepted, run_eq_ok valid nodup accepted] at run
  exact run.1

theorem agreed_of_short
    (encodes : ∀ payload : Payload, payload.WellTyped → (encode payload).isSome = true)
    (valid : ValidBinding binding)
    (typed : typedMessage { p with loads := loads float (room + 4) } request binding = .ok message)
    (short : ∀ i ∈ binding.approvedInstruments, i.length ≤ 80) :
    Agreed texts float floatText (room + 4) encode binding request.operation message
      (signedOf request.operation message) := by
  obtain ⟨loaded, accepted⟩ := typedMessage_accepted typed
  have nodup := loads_nodup float loaded
  obtain ⟨digest, encoded⟩ := Option.isSome_iff_exists.1 (encodes _ (payload_wellTyped accepted))
  refine ⟨projected_eq accepted, fun _ _ mem => integer_kept accepted mem,
    fun keystoreFile unlockFile => ?_, fun keystoreFile unlockFile => ?_, digest, encoded, ?_⟩
  · exact ⟨_, _, _, copied_plain (plain_domain _), copied_plain (plain_types _ _),
      copied_plain (plain_message nodup accepted), validateContract_eq_ok valid accepted _ _⟩
  · exact ⟨_, (signTypedData_eq valid nodup accepted _ _).trans
      ((run_eq_ok valid nodup accepted).2 ⟨short, rfl⟩), rfl, rfl, rfl⟩
  · intro recover signature wellFormed verified mem
    have same : signedOf request.operation verified = signedOf request.operation message := by
      rcases List.mem_cons.1 mem with rfl | mem
      · rfl
      · rw [List.mem_singleton.1 mem, signedOf_signedOf]
    have verifiable : Verifiable request.operation verified := by
      rcases List.mem_cons.1 mem with rfl | mem
      · exact accepted.verifiable
      · rw [List.mem_singleton.1 mem]
        exact accepted.verifiable.signedOf
    rw [verify, signable_eq valid verifiable wellFormed, same, Option.bind_some, encoded]

/-- The validators agree with `_typed_message` exactly where no approved instrument is longer than
eighty characters. -/
theorem custody_agreed_iff (deep : 4 ≤ room)
    (encodes : ∀ payload : Payload, payload.WellTyped → (encode payload).isSome = true)
    (valid : ValidBinding binding)
    (typed : typedMessage { p with loads := loads float room } request binding = .ok message) :
    (∃ signed, Agreed texts float floatText room encode binding request.operation message signed) ↔
      ∀ i ∈ binding.approvedInstruments, i.length ≤ 80 := by
  obtain ⟨room, rfl⟩ := Nat.exists_eq_add_of_le' deep
  exact ⟨fun ⟨_, agreed⟩ => agreed.short valid typed,
    fun short => ⟨_, agreed_of_short encodes valid typed short⟩⟩

end Agreement

section Samples

def closeId : String := "00001:AAAAAAAAAAAAAAAAAAAAAAAAAA"

/-- A close order of an instrument. -/
def closeMessage (instrument : String) : Record := [
  ("id", .str closeId), ("instrument", .str instrument), ("leverage", .int 1),
  ("quantity", .int 5), ("chainId", .int 42161)]

def closeRequest (instrument : String) : ManagedSigningRequest ℕ :=
  ⟨"request", ⟨"account", "system", 1, 2⟩, 15, 30, .positionCloseOrder,
    String.ofList (dump (fun _ => []) false (.dict (closeMessage instrument))), 0⟩

def sampleAddress : String := "0x00000000000000000000000000000000000000aA"

theorem sampleAddress_valid : isAddress sampleAddress = true := by decide +kernel

def bindingOf (instrument : String) : CustodyBinding ℕ :=
  ⟨⟨"account", "system", 1, 2⟩, "custody", sampleAddress, 42161, 19,
    [instrument, "ETHUSD", "SOLUSD", "XRPUSD", "ADAUSD"], 30⟩

def custodyPrimitives : Primitives ℕ where
  sha256 _ := 0
  hex := toString
  canonical record := some (String.join (record.map Prod.fst))
  casefold := String.toLower
  loads _ := none
  verifies _ _ _ := false
  round x := x

def custodyTexts : Texts := ⟨String.toLower, fun _ => ""⟩

/-- The text of a close order is read back. -/
theorem closeRequest_loads (instrument : String) :
    loads (fun _ => none) 4 (closeRequest instrument).messageJson =
      some (.dict (closeMessage instrument)) := by
  have plain : Plain 4 (.dict (closeMessage instrument)) := by
    refine .dict ?_ fun entry mem => ?_
    · show ["id", "instrument", "leverage", "quantity", "chainId"].Nodup
      decide
    · simp only [closeMessage, List.mem_cons, List.not_mem_nil, or_false] at mem
      rcases mem with rfl | rfl | rfl | rfl | rfl
      · exact .str _
      · exact .str _
      · exact plain_integer (by decide) (by decide)
      · exact plain_integer (by decide) (by decide)
      · exact plain_integer (by decide) (by decide)
  rw [loads, closeRequest, String.toList_ofList, plain.document]
  rfl

theorem fieldOk_string {message : Record} {name s : String} (get : message.get name = .str s)
    (fits : (0 < s.length ∧ s.length ≤ 160) ∧ (s.toList.any fun c => c.toNat < 32) = false) :
    FieldOk message (name, .string) :=
  ⟨s, get, fits.1, by simpa using fits.2⟩

theorem closeId_fits : (0 < closeId.length ∧ closeId.length ≤ 160) ∧
    (closeId.toList.any fun c => c.toNat < 32) = false := by
  decide +kernel

theorem closeRequest_typed (instrument : String)
    (fits : (0 < instrument.length ∧ instrument.length ≤ 160) ∧
      (instrument.toList.any fun c => c.toNat < 32) = false) :
    typedMessage { custodyPrimitives with loads := loads (fun _ => none) 4 } (closeRequest instrument)
      (bindingOf instrument) = .ok (closeMessage instrument) := by
  unfold typedMessage
  refine bind_eq_ok.2 ⟨closeMessage instrument, ?_, ?_⟩
  · dsimp only
    rw [closeRequest_loads]
    rfl
  refine bind_eq_ok.2 ⟨(), rfl, ?_⟩
  refine bind_eq_ok.2 ⟨(), ?_, ?_⟩
  · refine forM_eq_ok.2 fun field mem => checkField_eq_ok.2 ?_
    simp only [closeRequest, productionSigningTypes, List.mem_cons, List.not_mem_nil, or_false] at mem
    rcases mem with rfl | rfl | rfl | rfl | rfl
    · exact fieldOk_string rfl closeId_fits
    · exact fieldOk_string rfl fits
    · exact ⟨1, rfl, by decide, by decide⟩
    · exact ⟨5, rfl, by decide, by decide⟩
    · exact ⟨42161, rfl, by decide, by decide⟩
  refine bind_eq_ok.2 ⟨(), checkText_eq_ok.2 fun v found => ?_, ?_⟩
  · cases found
    exact ⟨instrument, rfl, by simp [bindingOf]⟩
  rfl

/-- An instrument of eighty-one characters, which the binding allows. -/
def longInstrument : String := String.ofList (List.replicate 81 'A')

theorem bindingOf_valid {instrument : String} (reference : isReference instrument = true)
    (new : instrument ∉ ["ETHUSD", "SOLUSD", "XRPUSD", "ADAUSD"]) :
    ValidBinding (bindingOf instrument) where
  reference := show isReference "custody" = true by decide
  wallet := sampleAddress_valid
  chain := show 0 < 42161 ∧ 42161 < 2 ^ 256 by decide
  five := rfl
  distinct := List.nodup_cons.2 ⟨new, by decide⟩
  instruments := List.forall_mem_cons.2 ⟨reference, by decide⟩

theorem longInstrument_fits : (0 < longInstrument.length ∧ longInstrument.length ≤ 160) ∧
    (longInstrument.toList.any fun c => c.toNat < 32) = false := by
  decide +kernel

theorem custody_agreed_sample :
    ∃ signed, Agreed custodyTexts (fun _ => none) (fun _ => []) 4 (some : Payload → Option Payload)
      (bindingOf "BTCUSD") .positionCloseOrder (closeMessage "BTCUSD") signed :=
  (custody_agreed_iff (by decide) (fun _ _ => rfl) (bindingOf_valid (by decide) (by decide))
    (closeRequest_typed "BTCUSD" (by decide))).2 (by decide)

/-- A binding and a message that it accepts, for which the worker does not go to its key files. -/
theorem custody_disagrees : ¬∀ (binding : CustodyBinding ℕ) (request : ManagedSigningRequest ℕ)
    (message : Record), ValidBinding binding →
    typedMessage { custodyPrimitives with loads := loads (fun _ => none) 4 } request binding = .ok message →
    ∃ signed, Agreed custodyTexts (fun _ => none) (fun _ => []) 4 (some : Payload → Option Payload)
      binding request.operation message signed := by
  intro agree
  have valid : ValidBinding (bindingOf longInstrument) :=
    bindingOf_valid (by decide +kernel) (by decide +kernel)
  have typed := closeRequest_typed longInstrument longInstrument_fits
  obtain ⟨signed, agreed⟩ := agree _ _ _ valid typed
  have short : longInstrument.length ≤ 80 :=
    Agreed.short valid typed agreed longInstrument List.mem_cons_self
  revert short
  decide +kernel

end Samples

end KairosExecution.Production.Custody
