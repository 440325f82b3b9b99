import KairosExecution.Production.Records

/-! The typed message of a signing request: the fixed schema of its operation, the checks
that its fields pass, and the effect that identifies it. -/

namespace KairosExecution.Production

open Python

variable {Digest : Type}

inductive FieldType
  | string
  | uint (bits : ℕ)
  deriving DecidableEq

/-- `EIP712_SCHEMAS[operation]`, without the parent order of a protection, which
`production_signing_types` takes out. -/
def productionSigningTypes : SigningOperation → List (String × FieldType)
  | .newLimitOrder => [
    ("id", .string), ("instrument", .string), ("side", .string), ("leverage", .uint 8),
    ("quantity", .uint 96), ("limitPrice", .uint 80), ("chainId", .uint 256)]
  | .newMarketOrder => [
    ("id", .string), ("instrument", .string), ("side", .string), ("timeInForce", .string),
    ("leverage", .uint 8), ("cashQuantity", .uint 96), ("chainId", .uint 256)]
  | .newStopLimitOrder => [
    ("id", .string), ("instrument", .string), ("side", .string), ("leverage", .uint 8),
    ("quantity", .uint 96), ("limitPrice", .uint 80), ("stopPrice", .uint 80), ("chainId", .uint 256)]
  | .positionCloseOrder => [
    ("id", .string), ("instrument", .string), ("leverage", .uint 8), ("quantity", .uint 96),
    ("chainId", .uint 256)]
  | .newTakeProfitStopLoss => [
    ("instrument", .string), ("type", .string), ("side", .string), ("quantity", .uint 96),
    ("price", .uint 80)]

/-- The fields that are sent along without being signed. -/
def metadataFields : SigningOperation → List String
  | .newTakeProfitStopLoss => ["order"]
  | _ => []

def isEvedexClientOrderId (value : String) : Bool :=
  let day := value.toList.take 5
  let rest := value.toList.drop 5
  day.length = 5 && day.all Char.isDigit && rest.head? = some ':' && rest.tail.length = 26
    && rest.tail.all fun c => c.isDigit || ('a' ≤ c && c ≤ 'f') || ('A' ≤ c && c ≤ 'F')

/-- A field that fits its type in the schema. -/
def checkField (message : Record) (field : String × FieldType) : Except Err Unit :=
  match field.2, message.get field.1 with
  | .uint bits, .int value =>
    refuse (¬(0 ≤ value ∧ value < 2 ^ bits)) (.signing "typed integer violates the fixed schema")
  | .uint _, _ => .error (.signing "typed integer violates the fixed schema")
  | .string, .str value =>
    refuse (¬(0 < value.length ∧ value.length ≤ 160) ∨ value.toList.any fun c => c.toNat < 32)
      (.signing "typed string violates the fixed schema")
  | .string, _ => .error (.signing "typed string violates the fixed schema")

/-- A text of the message, where the field is there. -/
def checkText (message : Record) (field : String) (accepted : String → Bool) (error : Err) :
    Except Err Unit :=
  match message.lookup field with
  | none => .ok ()
  | some (.str value) => refuse (!accepted value) error
  | some _ => .error (.type field)

/-- A number of the message, where the field is there. -/
def checkNumber (message : Record) (field : String) (accepted : ℤ → Bool) (error : Err) :
    Except Err Unit :=
  match message.lookup field with
  | none => .ok ()
  | some (.int value) => refuse (!accepted value) error
  | some _ => .error (.type field)

/-- The message has the fields of its schema, and no others. -/
def fixedSchema (operation : SigningOperation) (message : Record) : Bool :=
  let expected := (productionSigningTypes operation).map Prod.fst ++ metadataFields operation
  message.all (fun entry => entry.1 ∈ expected) && expected.all message.has

/-- What `json.loads` made of the text of a message. -/
def parsedMessage : Option Value → Except Err Record
  | none => .error (.signing "malformed typed message")
  | some (.dict message) => .ok message
  | some _ => .error (.signing "typed message does not match the fixed schema")

/-- `_typed_message`, its message. -/
def typedMessage (p : Primitives Digest) (request : ManagedSigningRequest Digest)
    (binding : CustodyBinding Digest) : Except Err Record := do
  let message ← parsedMessage (p.loads request.messageJson)
  refuse (!fixedSchema request.operation message)
    (.signing "typed message does not match the fixed schema")
  (productionSigningTypes request.operation).forM (checkField message)
  checkText message "instrument" (· ∈ binding.approvedInstruments)
    (.signing "instrument is not in the custody-approved universe")
  checkNumber message "chainId" (· = binding.chainId)
    (.signing "typed message chain differs from custody binding")
  checkText message "side" (· ∈ ["BUY", "SELL"]) (.signing "typed side is invalid")
  checkNumber message "leverage" (· = 1)
    (.signing "initial controlled signing permits only 1x leverage")
  checkText message "timeInForce" (· = "IOC")
    (.signing "initial controlled signing permits only IOC market orders")
  checkText message "id" isEvedexClientOrderId
    (.signing "typed order ID is not a deterministic EVEDEX ID")
  checkText message "order" isEvedexClientOrderId
    (.signing "protective request lacks an authoritative parent ID")
  checkText message "type" (· ∈ ["stop-loss", "take-profit"])
    (.signing "protective request type is not allowlisted")
  ["cashQuantity", "limitPrice", "stopPrice", "price"].forM fun name =>
    checkNumber message name (0 < ·) (.signing "price/cash quantity must be positive")
  checkNumber message "quantity" (fun value => value ≠ 0 ∨ request.operation = .newTakeProfitStopLoss)
    (.signing "entry/close quantity must be positive")
  return message

def signingEffectId (p : Primitives Digest) (request : ManagedSigningRequest Digest)
    (message : Record) (decisionId : String) : Digest :=
  p.sha256 (.effect (p.sha256 (.context request.context)) request.requestId decisionId
    request.operation message)

/-- An integer of the message, which every operation that reads it has. -/
def intOf (message : Record) (field : String) : Except Err ℤ :=
  match message.get field with
  | .int value => .ok value
  | _ => .error (.type field)

/-- A text of the message, which every operation that reads it has. -/
def textOf (message : Record) (field : String) : Except Err String :=
  match message.get field with
  | .str value => .ok value
  | _ => .error (.type field)

section Checked

theorem forM_eq_ok {ε α : Type} {xs : List α} {f : α → Except ε Unit} :
    xs.forM f = .ok () ↔ ∀ x ∈ xs, f x = .ok () := by
  induction xs with
  | nil => exact ⟨fun _ _ mem => (nomatch mem), fun _ => rfl⟩
  | cons x xs ih =>
    show (f x >>= fun _ => xs.forM f) = .ok () ↔ _
    rw [bind_eq_ok, List.forall_mem_cons, ← ih]
    constructor
    · rintro ⟨_, first, rest⟩
      exact ⟨first, rest⟩
    · rintro ⟨first, rest⟩
      exact ⟨(), first, rest⟩

variable {p : Primitives Digest} {request : ManagedSigningRequest Digest}
  {binding : CustodyBinding Digest} {message : Record}

/-- What a typed message carries. -/
structure Typed (binding : CustodyBinding Digest) (operation : SigningOperation) (message : Record) :
    Prop where
  string : ∀ field, (field, FieldType.string) ∈ productionSigningTypes operation →
    ∃ value, message.lookup field = some (.str value)
  uint : ∀ field bits, (field, FieldType.uint bits) ∈ productionSigningTypes operation →
    ∃ value, message.lookup field = some (.int value) ∧ 0 ≤ value ∧ value < 2 ^ bits
  parent : operation = .newTakeProfitStopLoss →
    ∃ value, message.lookup "order" = some (.str value) ∧ isEvedexClientOrderId value = true
  others : ∀ entry ∈ message, entry.1 ∈ (productionSigningTypes operation).map Prod.fst
    ++ metadataFields operation
  quantity : ∀ value, message.lookup "quantity" = some (.int value) →
    operation ≠ .newTakeProfitStopLoss → value ≠ 0

theorem get_of_lookup {field : String} {value : Value} (h : message.lookup field = some value) :
    message.get field = value := by
  rw [Record.get, h]
  rfl

theorem lookup_of_get {field : String} {value : Value} (h : message.get field = value)
    (some : value ≠ .none) : message.lookup field = Option.some value := by
  unfold Record.get at h
  cases found : message.lookup field with
  | none =>
    rw [found] at h
    exact absurd h.symm some
  | some v =>
    rw [found] at h
    rw [← h]
    rfl

theorem typedMessage_typed (h : typedMessage p request binding = .ok message) :
    Typed binding request.operation message := by
  obtain ⟨loaded, _, h⟩ := bind_eq_ok.1 h
  obtain ⟨_, fixed, h⟩ := bind_eq_ok.1 h
  obtain ⟨_, fields, h⟩ := bind_eq_ok.1 h
  obtain ⟨_, _, h⟩ := bind_eq_ok.1 h
  obtain ⟨_, _, h⟩ := bind_eq_ok.1 h
  obtain ⟨_, _, h⟩ := bind_eq_ok.1 h
  obtain ⟨_, _, h⟩ := bind_eq_ok.1 h
  obtain ⟨_, _, h⟩ := bind_eq_ok.1 h
  obtain ⟨_, _, h⟩ := bind_eq_ok.1 h
  obtain ⟨_, parent, h⟩ := bind_eq_ok.1 h
  obtain ⟨_, _, h⟩ := bind_eq_ok.1 h
  obtain ⟨_, _, h⟩ := bind_eq_ok.1 h
  obtain ⟨_, quantity, h⟩ := bind_eq_ok.1 h
  cases h
  have checked := forM_eq_ok.1 fields
  rw [refuse_eq_ok, Bool.not_eq_false', fixedSchema, Bool.and_eq_true, List.all_eq_true,
    List.all_eq_true] at fixed
  obtain ⟨others, present⟩ := fixed
  refine ⟨fun field mem => ?_, fun field bits mem => ?_, fun protection => ?_, fun entry mem => ?_,
    fun value found other zero => ?_⟩
  · have fits := checked _ mem
    unfold checkField at fits
    dsimp only at fits
    split at fits
    · cases ‹FieldType.string = _›
    · cases ‹FieldType.string = _›
    · exact ⟨_, lookup_of_get ‹_› (by simp)⟩
    · cases fits
  · have fits := checked _ mem
    unfold checkField at fits
    dsimp only at fits
    split at fits
    · cases ‹FieldType.uint bits = _›
      simp only [refuse_eq_ok, decide_eq_false_iff_not, not_not] at fits
      exact ⟨_, lookup_of_get ‹_› (by simp), fits⟩
    · cases fits
    · cases ‹FieldType.uint bits = _›
    · cases ‹FieldType.uint bits = _›
  · have has : message.has "order" = true := present "order" (by rw [protection]; decide)
    rw [Record.has, Option.isSome_iff_exists] at has
    obtain ⟨value, found⟩ := has
    unfold checkText at parent
    rw [found] at parent
    cases value with
    | str value =>
      refine ⟨value, found, ?_⟩
      simpa using parent
    | none => cases parent
    | bool => cases parent
    | int => cases parent
    | float => cases parent
    | nonfinite => cases parent
    | list => cases parent
    | dict => cases parent
  · simpa using others entry mem
  · unfold checkNumber at quantity
    rw [found] at quantity
    simp [zero, other] at quantity

end Checked

end KairosExecution.Production
