import KairosExecution.Production.Authorized
import KairosExecution.Production.Wire

/-! The three descriptions of the five signed messages agree: the schema that is signed, the
validator of the transport and that of the sidecar. What is derived from a signed message
passes both, and gives the signed numbers back; a limit order passes neither. -/

namespace KairosExecution.Production

open Python Interactive

variable {Digest : Type}

section Records

/-- The keys of an object, as it is read. -/
theorem sameFields_iff {body : Record} {expected : List String} :
    sameFields body expected = true ↔ ∀ field, (body.lookup field).isSome = true ↔ field ∈ expected := by
  have there : ∀ field, (body.lookup field).isSome = true ↔ ∃ entry ∈ body, entry.1 = field := by
    intro field
    rw [← Bool.not_eq_false, Option.isSome_eq_false_iff, Option.isNone_iff_eq_none,
      List.lookup_eq_none_iff]
    constructor
    · intro some
      by_contra none
      exact some fun entry mem => bne_iff_ne.2 fun same => none ⟨entry, mem, same.symm⟩
    · rintro ⟨entry, mem, rfl⟩ none
      simpa using none entry mem
  rw [sameFields, Bool.and_eq_true, List.all_eq_true, List.all_eq_true]
  constructor
  · rintro ⟨known, present⟩ field
    constructor
    · intro found
      obtain ⟨entry, mem, rfl⟩ := (there field).1 found
      simpa using known entry mem
    · exact present field
  · intro same
    constructor
    · intro entry mem
      exact decide_eq_true ((same entry.1).1 ((there entry.1).2 ⟨entry, mem, rfl⟩))
    · exact fun field mem => (same field).2 mem

/-- The schema of a message names its keys. -/
theorem fixedSchema_iff {operation : SigningOperation} {message : Record} :
    fixedSchema operation message = true ↔ ∀ field, (message.lookup field).isSome = true ↔
      field ∈ (productionSigningTypes operation).map Prod.fst ++ metadataFields operation :=
  sameFields_iff

/-- A text that is accepted, where it is there. -/
theorem checkText_eq_ok {message : Record} {field : String} {accepted : String → Bool} {error : Err} :
    checkText message field accepted error = .ok () ↔
      ∀ value, message.lookup field = some value → ∃ text, value = .str text ∧ accepted text = true := by
  unfold checkText
  cases message.lookup field with
  | none => simp
  | some value => cases value <;> simp

theorem checkNumber_eq_ok {message : Record} {field : String} {accepted : ℤ → Bool} {error : Err} :
    checkNumber message field accepted error = .ok () ↔
      ∀ value, message.lookup field = some value → ∃ n, value = .int n ∧ accepted n = true := by
  unfold checkNumber
  cases message.lookup field with
  | none => simp
  | some value => cases value <;> simp

end Records

section Message

variable {p : Primitives Digest} {request : ManagedSigningRequest Digest}
  {binding : CustodyBinding Digest} {message : Record}

/-- What else a typed message has passed. -/
structure Reviewed (binding : CustodyBinding Digest) (operation : SigningOperation) (message : Record) :
    Prop where
  fields : ∀ field, (message.lookup field).isSome = true ↔
    field ∈ (productionSigningTypes operation).map Prod.fst ++ metadataFields operation
  chain : ∀ value, message.lookup "chainId" = some value → value = .int binding.chainId
  side : oneOf message "side" ["BUY", "SELL"] = true
  timeInForce : oneOf message "timeInForce" ["IOC"] = true
  id : ∀ value, message.lookup "id" = some value → ∃ text, value = .str text ∧ isEvedexClientOrderId text = true
  order : ∀ value, message.lookup "order" = some value →
    ∃ text, value = .str text ∧ isEvedexClientOrderId text = true
  type : oneOf message "type" ["stop-loss", "take-profit"] = true

/-- The check of a text is the one that the validators make. -/
theorem oneOf_of_checkText {field : String} {texts : List String} {accepted : String → Bool}
    {error : Err} (checked : checkText message field accepted error = .ok ())
    (same : ∀ text, accepted text = true → text ∈ texts) : oneOf message field texts = true := by
  have found := checkText_eq_ok.1 checked
  unfold oneOf
  split
  · rfl
  next text lookup =>
    obtain ⟨text', eq, holds⟩ := found _ lookup
    cases eq
    exact decide_eq_true (same text holds)
  next value other lookup =>
    obtain ⟨text, rfl, -⟩ := found _ lookup
    exact absurd rfl (other text)

theorem typedMessage_reviewed (typed : typedMessage p request binding = .ok message) :
    Reviewed binding request.operation message := by
  obtain ⟨loaded, _, typed⟩ := bind_eq_ok.1 typed
  obtain ⟨_, fixed, typed⟩ := bind_eq_ok.1 typed
  obtain ⟨_, _, typed⟩ := bind_eq_ok.1 typed
  obtain ⟨_, _, typed⟩ := bind_eq_ok.1 typed
  obtain ⟨_, chain, typed⟩ := bind_eq_ok.1 typed
  obtain ⟨_, side, typed⟩ := bind_eq_ok.1 typed
  obtain ⟨_, _, typed⟩ := bind_eq_ok.1 typed
  obtain ⟨_, timeInForce, typed⟩ := bind_eq_ok.1 typed
  obtain ⟨_, id, typed⟩ := bind_eq_ok.1 typed
  obtain ⟨_, order, typed⟩ := bind_eq_ok.1 typed
  obtain ⟨_, type, typed⟩ := bind_eq_ok.1 typed
  obtain ⟨_, _, typed⟩ := bind_eq_ok.1 typed
  obtain ⟨_, _, typed⟩ := bind_eq_ok.1 typed
  cases typed
  rw [refuse_eq_ok, Bool.not_eq_false'] at fixed
  refine ⟨fixedSchema_iff.1 fixed, ?_, oneOf_of_checkText side fun _ => of_decide_eq_true,
    oneOf_of_checkText timeInForce fun _ eq => List.mem_singleton.2 (of_decide_eq_true eq),
    checkText_eq_ok.1 id, checkText_eq_ok.1 order, oneOf_of_checkText type fun _ => of_decide_eq_true⟩
  intro value found
  obtain ⟨n, rfl, same⟩ := checkNumber_eq_ok.1 chain value found
  rw [of_decide_eq_true same]

end Message

section Body

variable {operation : SigningOperation} {message body : Record} {signature : String}

/-- A field as it is sent. -/
def wired (field : String) : Value → Value
  | .int n => if field ∈ wireNumbers then .str (unitText n.toNat) else .int n
  | value => value

/-- The numbers of a message are not negative. -/
def Unsigned (message : Record) : Prop :=
  ∀ field ∈ wireNumbers, ∀ value, message.lookup field = some value → ∃ n : ℕ, value = .int n

theorem wireNumber_ok (unsigned : Unsigned message) (result : Record) {field : String}
    (mem : field ∈ wireNumbers) : ∃ result', wireNumber message result field = .ok result' ∧
      ∀ other, result'.lookup other =
        if other = field then ((message.lookup field).map (wired field)).or (result.lookup field)
        else result.lookup other := by
  unfold wireNumber
  cases found : message.lookup field with
  | none =>
    refine ⟨result, rfl, fun other => ?_⟩
    split
    next same => rw [same, Option.map_none, Option.none_or]
    next => rfl
  | some value =>
    obtain ⟨n, rfl⟩ := unsigned field mem value found
    refine ⟨result.set field (.str (unitText n)), ?_, fun other => ?_⟩
    · show (refuse (decide ((n : ℤ) < 0)) _ >>= fun _ => _) = _
      exact bind_eq_ok.2 ⟨(), refuse_eq_ok.2 (decide_eq_false (by omega)), rfl⟩
    · rw [Record.lookup_set, Option.map_some, Option.some_or, wired, if_pos mem]
      rfl

/-- After the numbers of a list, each of them is as it is sent, and other fields are as they were. -/
theorem wireNumbers_ok (unsigned : Unsigned message) (fields : List String) (known : fields ⊆ wireNumbers)
    (result : Record) : ∃ result', fields.foldlM (wireNumber message) result = .ok result' ∧
      ∀ other, result'.lookup other =
        if other ∈ fields then ((message.lookup other).map (wired other)).or (result.lookup other)
        else result.lookup other := by
  induction fields generalizing result with
  | nil => exact ⟨result, rfl, fun other => by rw [if_neg List.not_mem_nil]⟩
  | cons field fields ih =>
    obtain ⟨middle, first, lookups⟩ := wireNumber_ok unsigned result (known List.mem_cons_self)
    obtain ⟨result', rest, lookups'⟩ := ih (fun _ mem => known (List.mem_cons_of_mem _ mem)) middle
    refine ⟨result', ?_, fun other => ?_⟩
    · rw [List.foldlM_cons]
      exact bind_eq_ok.2 ⟨middle, first, rest⟩
    · rw [lookups' other, lookups other]
      by_cases same : other = field
      · subst same
        by_cases later : other ∈ fields
        · simp [later]
          cases message.lookup other <;> simp
        · simp [later]
      · simp [same]

/-- What the body has under a field. -/
structure Wired (operation : SigningOperation) (message : Record) (signature : String) (body : Record) :
    Prop where
  signature : body.lookup "signature" = some (.str signature)
  policy : operation = .newLimitOrder → body.lookup "timeInForce" = some (.str "IOC")
  others : ∀ field, field ≠ "signature" → ¬(operation = .newLimitOrder ∧ field = "timeInForce") →
    body.lookup field = (message.lookup field).map (wired field)

theorem productionWireBody_ok (unsigned : Unsigned message) :
    ∃ body, productionWireBody operation message signature = .ok body ∧
      Wired operation message signature body := by
  obtain ⟨result, numbers, lookups⟩ := wireNumbers_ok unsigned wireNumbers (List.Subset.refl _) message
  refine ⟨_, bind_eq_ok.2 ⟨result, numbers, rfl⟩, ?_, fun limit => ?_, fun field other unset => ?_⟩
  · rw [Record.lookup_set, if_pos rfl]
  · rw [Record.lookup_set, if_neg (by decide), withPolicy, if_pos limit, Record.lookup_set, if_pos rfl]
  · have policy : (withPolicy operation result).lookup field = result.lookup field := by
      unfold withPolicy
      split
      next limit =>
        rw [Record.lookup_set, if_neg fun same => unset ⟨limit, same⟩]
      next => rfl
    rw [Record.lookup_set, if_neg other, policy, lookups field]
    split
    next number => cases message.lookup field <;> rfl
    next kept =>
      cases message.lookup field with
      | none => rfl
      | some value => cases value <;> simp [wired, kept]

/-- Every field in units is of an integer type where the schema has it. -/
theorem wireNumbers_uint (operation : SigningOperation) : ∀ field ∈ wireNumbers,
    field ∈ (productionSigningTypes operation).map Prod.fst ++ metadataFields operation →
    (field, FieldType.uint 96) ∈ productionSigningTypes operation ∨
      (field, FieldType.uint 80) ∈ productionSigningTypes operation := by
  cases operation <;> decide

theorem Typed.unsigned {binding : CustodyBinding Digest} (typed : Typed binding operation message)
    (reviewed : Reviewed binding operation message) : Unsigned message := by
  intro field mem value found
  have known := (reviewed.fields field).1 (by rw [found]; rfl)
  have integer : ∃ n, message.lookup field = some (.int n) ∧ 0 ≤ n := by
    rcases wireNumbers_uint operation field mem known with wide | narrow
    · obtain ⟨n, lookup, nonneg, -⟩ := typed.uint field _ wide
      exact ⟨n, lookup, nonneg⟩
    · obtain ⟨n, lookup, nonneg, -⟩ := typed.uint field _ narrow
      exact ⟨n, lookup, nonneg⟩
  obtain ⟨n, lookup, nonneg⟩ := integer
  rw [found] at lookup
  cases lookup
  exact ⟨n.toNat, by rw [Int.toNat_of_nonneg nonneg]⟩

namespace Wired

variable (wiring : Wired operation message signature body)
include wiring

/-- A field that is neither a number nor set by the policy is sent as it is. -/
theorem same {field : String} (other : field ≠ "signature") (kept : field ∉ wireNumbers)
    (unset : ¬(operation = .newLimitOrder ∧ field = "timeInForce")) :
    body.lookup field = message.lookup field := by
  rw [wiring.others field other unset]
  cases message.lookup field with
  | none => rfl
  | some value => cases value <;> simp [wired, kept]

/-- The keys of a body. -/
theorem fields {binding : CustodyBinding Digest} (reviewed : Reviewed binding operation message)
    (field : String) : (body.lookup field).isSome = true ↔
      field = "signature" ∨ (operation = .newLimitOrder ∧ field = "timeInForce") ∨
        field ∈ (productionSigningTypes operation).map Prod.fst ++ metadataFields operation := by
  by_cases signed : field = "signature"
  · simp [signed, wiring.signature]
  by_cases policy : operation = .newLimitOrder ∧ field = "timeInForce"
  · obtain ⟨limit, rfl⟩ := policy
    simp [wiring.policy limit, limit]
  · rw [wiring.others field signed policy, Option.isSome_map, reviewed.fields field]
    simp [signed, policy]

/-- Every number is a canonical text. -/
theorem canonicalField (unsigned : Unsigned message) {field : String} (mem : field ∈ wireNumbers) :
    Production.canonicalField body field = true := by
  have lookup := wiring.others field (by rintro rfl; exact absurd mem (by decide))
    (by rintro ⟨-, rfl⟩; exact absurd mem (by decide))
  unfold Production.canonicalField
  rw [lookup]
  cases found : message.lookup field with
  | none => rfl
  | some value =>
    obtain ⟨n, rfl⟩ := unsigned field mem value found
    simp only [Option.map_some, wired, if_pos mem]
    exact canonicalDecimal_scaledText

theorem chain {binding : CustodyBinding Digest} (reviewed : Reviewed binding operation message)
    (prod : binding.chainId = 42161) : chainDiffers body = false := by
  unfold chainDiffers
  rw [wiring.same (by decide) (by decide) (by simp)]
  cases found : message.lookup "chainId" with
  | none => rfl
  | some value =>
    rw [reviewed.chain value found, prod]
    rfl

end Wired

end Body

section Paths

variable {instrument : String}

/-- What is between two texts is found, where it is an instrument. -/
theorem instrumentOf_between (before after : String) (valid : isInstrument instrument = true) :
    instrumentOf before after (before ++ instrument ++ after) = some instrument := by
  have found : ((before ++ instrument ++ after).toList.drop before.length).take
      ((before ++ instrument ++ after).length - before.length - after.length) = instrument.toList := by
    have length : (before ++ instrument ++ after).length - before.length - after.length =
        instrument.toList.length := by
      rw [String.length_append, String.length_append, String.length_toList]
      omega
    rw [length, String.toList_append, String.toList_append, List.append_assoc, ← String.length_toList,
      List.drop_left, List.take_left]
  unfold instrumentOf
  simp only [found, String.ofList_toList]
  rw [if_pos ⟨by rw [String.toList_append, String.toList_append], valid⟩]

/-- The beginning of a path. -/
theorem take_path {before after : String} {n : ℕ} (fits : n ≤ before.toList.length) :
    (before ++ after).toList.take n = before.toList.take n := by
  rw [String.toList_append, List.take_append_of_le_length fits]

/-- A path that begins otherwise has no instrument there. -/
theorem instrumentOf_none {before after path : String} {n : ℕ} (fits : n ≤ before.toList.length)
    (other : path.toList.take n ≠ before.toList.take n) : instrumentOf before after path = none := by
  unfold instrumentOf
  apply if_neg
  rintro ⟨split, -⟩
  apply other
  rw [split, List.append_assoc, List.take_append_of_le_length fits]

/-- The characters of an instrument. -/
theorem isInstrument_mem (valid : isInstrument instrument = true) {c : Char} (mem : c ∈ instrument.toList) :
    c.isDigit = true ∨ 'A' ≤ c ∧ c ≤ 'Z' := by
  have all := (of_decide_eq_true valid).2.2
  simpa using List.all_eq_true.1 all c mem

/-- What `_FIELDS` has of an operation. -/
def signedName : SigningOperation → String
  | .newLimitOrder => "/api/v2/order/limit"
  | .newMarketOrder => "/api/v2/order/market"
  | .newStopLimitOrder => "/api/v2/order/stop-limit"
  | .positionCloseOrder => "close"
  | .newTakeProfitStopLoss => "tpsl"

/-- The instrument that a path carries. -/
def pathInstrument (operation : SigningOperation) (instrument : String) : Option String :=
  if operation.exit then some instrument else none

theorem signedOperation_wirePath (operation : SigningOperation) (valid : isInstrument instrument = true) :
    signedOperation (wirePath operation instrument) =
      some (signedName operation, pathInstrument operation instrument) := by
  have orders : ∀ path ∈ ["/api/v2/order/limit", "/api/v2/order/market", "/api/v2/order/stop-limit"],
      path.toList.take 9 = "/api/v2/o".toList := by decide
  cases operation with
  | newLimitOrder => rfl
  | newMarketOrder => rfl
  | newStopLimitOrder => rfl
  | positionCloseOrder =>
    unfold signedOperation wirePath
    have position : ("/api/v2/position/" ++ instrument ++ "/close").toList.take 9 = "/api/v2/p".toList := by
      rw [String.append_assoc, take_path (by decide)]
      rfl
    rw [if_neg fun mem => absurd (position.symm.trans (orders _ mem)) (by decide),
      instrumentOf_between _ _ valid]
    rfl
  | newTakeProfitStopLoss =>
    unfold signedOperation wirePath
    have tpsl : ("/api/tpsl/" ++ instrument).toList.take 9 = "/api/tpsl".toList := by
      rw [take_path (by decide)]
      rfl
    have none : instrumentOf "/api/v2/position/" "/close" ("/api/tpsl/" ++ instrument) = none :=
      instrumentOf_none (n := 9) (by decide) (by rw [tpsl]; decide)
    have found := instrumentOf_between "/api/tpsl/" "" valid
    rw [String.append_empty] at found
    rw [if_neg fun mem => absurd (tpsl.symm.trans (orders _ mem)) (by decide), none, found]
    rfl

/-- What `OPERATIONS` has of an operation. -/
def sidecarName (operation : SigningOperation) : String := wirePath operation "{instrument}"

theorem sidecarPath_wirePath (operation : SigningOperation) (valid : isInstrument instrument = true)
    {body : Record} (own : textIn body "instrument" = some instrument) :
    sidecarPath (wirePath operation instrument) body = some (sidecarName operation) := by
  cases operation with
  | newLimitOrder => rfl
  | newMarketOrder => rfl
  | newStopLimitOrder => rfl
  | positionCloseOrder =>
    have found := instrumentOf_between "/api/v2/position/" "/close" valid
    have known : ∀ entry ∈ sidecarOperations,
        instrumentOf "/api/v2/position/" "/close" entry.1 = none := by decide
    have unknown : sidecarOperations.lookup ("/api/v2/position/" ++ instrument ++ "/close") = none := by
      apply List.lookup_eq_none_iff.2
      intro entry mem
      rw [bne_iff_ne]
      intro same
      rw [same, known entry mem] at found
      cases found
    unfold sidecarPath wirePath
    simp only [unknown, found, own, Option.isSome_none, Bool.false_eq_true, if_false, if_true]
    rfl
  | newTakeProfitStopLoss =>
    have found := instrumentOf_between "/api/tpsl/" "" valid
    rw [String.append_empty] at found
    have known : ∀ entry ∈ sidecarOperations, instrumentOf "/api/tpsl/" "" entry.1 = none := by decide
    have unknown : sidecarOperations.lookup ("/api/tpsl/" ++ instrument) = none := by
      apply List.lookup_eq_none_iff.2
      intro entry mem
      rw [bne_iff_ne]
      intro same
      rw [same, known entry mem] at found
      cases found
    have tpsl : ("/api/tpsl/" ++ instrument).toList.take 9 = "/api/tpsl".toList := by
      rw [take_path (by decide)]
      rfl
    have none : instrumentOf "/api/v2/position/" "/close" ("/api/tpsl/" ++ instrument) = none :=
      instrumentOf_none (n := 9) (by decide) (by rw [tpsl]; decide)
    unfold sidecarPath wirePath
    simp only [unknown, none, found, own, Option.isSome_none, Bool.false_eq_true, if_false, if_true]
    rfl

end Paths

section Texts

theorem utf16Length_le (text : String) : utf16Length text ≤ 2 * text.length := by
  rw [utf16Length, ← String.length_toList]
  induction text.toList with
  | nil => exact Nat.le_refl _
  | cons c cs ih =>
    rw [List.map_cons, List.sum_cons, List.length_cons]
    split <;> omega

/-- A short text of visible characters is one for the sidecar. -/
theorem sidecarText_ok {body : Record} {field text : String} (found : body.lookup field = some (.str text))
    (nonempty : text ≠ "") (short : text.length ≤ 80) (visible : ∀ c ∈ text.toList, ¬c.toNat < 32) :
    sidecarText body field = .ok text := by
  have length := utf16Length_le text
  unfold sidecarText
  rw [found]
  apply bind_eq_ok.2
  refine ⟨(), ?_, rfl⟩
  rw [refuse_eq_ok, Bool.or_eq_false_iff, Bool.or_eq_false_iff]
  refine ⟨⟨decide_eq_false nonempty, decide_eq_false (by omega)⟩, ?_⟩
  rw [List.any_eq_false]
  intro c mem
  simpa using visible c mem

theorem visible_of_isDigit {c : Char} (digit : c.isDigit = true) : ¬c.toNat < 32 := by
  rw [Char.isDigit_iff_toNat] at digit
  have zero : '0'.toNat = 48 := rfl
  omega

theorem visible_of_le {c : Char} (letter : 'A' ≤ c) : ¬c.toNat < 32 := by
  have bound : 'A'.toNat ≤ c.toNat := letter
  have letterA : 'A'.toNat = 65 := rfl
  omega

theorem visible_of_isInstrument {instrument : String} (valid : isInstrument instrument = true) :
    ∀ c ∈ instrument.toList, ¬c.toNat < 32 := by
  intro c mem
  rcases isInstrument_mem valid mem with digit | ⟨letter, -⟩
  · exact visible_of_isDigit digit
  · exact visible_of_le letter

/-- An order identity is a short text of visible characters. -/
theorem isEvedexClientOrderId_text {text : String} (valid : isEvedexClientOrderId text = true) :
    text ≠ "" ∧ text.length ≤ 80 ∧ ∀ c ∈ text.toList, ¬c.toNat < 32 := by
  simp only [isEvedexClientOrderId, Bool.and_eq_true, decide_eq_true_eq, List.all_eq_true] at valid
  obtain ⟨⟨⟨⟨day, digits⟩, colon⟩, tail⟩, hex⟩ := valid
  have split : text.toList = text.toList.take 5 ++ ':' :: (text.toList.drop 5).tail := by
    rw [List.cons_head?_tail (Option.mem_def.2 colon), List.take_append_drop]
  have length : text.length = 32 := by
    rw [← String.length_toList, split, List.length_append, List.length_cons, day, tail]
  refine ⟨?_, by omega, ?_⟩
  · rintro rfl
    cases length
  · intro c mem
    rw [split, List.mem_append, List.mem_cons] at mem
    rcases mem with digit | rfl | letter
    · exact visible_of_isDigit (digits c digit)
    · decide
    · have kind := hex c letter
      simp only [Bool.or_eq_true, Bool.and_eq_true, decide_eq_true_eq] at kind
      rcases kind with (digit | ⟨small, -⟩) | ⟨capital, -⟩
      · exact visible_of_isDigit digit
      · have bound : 'a'.toNat ≤ c.toNat := small
        have letterA : 'a'.toNat = 97 := rfl
        omega
      · exact visible_of_le capital

end Texts

section Accepted

variable {operation : SigningOperation} {binding : CustodyBinding Digest} {message body : Record}
  {signature instrument : String}

/-- A text that is there, or a field that is not. -/
theorem sidecarTextIn_ok {field : String} (texts : ∀ value, body.lookup field = some value →
    ∃ text, value = .str text ∧ isEvedexClientOrderId text = true) : sidecarTextIn body field = .ok () := by
  unfold sidecarTextIn Record.has
  cases found : body.lookup field with
  | none => rfl
  | some value =>
    obtain ⟨text, rfl, valid⟩ := texts value found
    obtain ⟨nonempty, short, visible⟩ := isEvedexClientOrderId_text valid
    rw [Option.isSome_some, if_pos rfl]
    exact bind_eq_ok.2 ⟨text, sidecarText_ok found nonempty short visible, rfl⟩

/-- What both validators ask of a body, apart from its path. -/
structure Acceptable (operation : SigningOperation) (instrument : String) (body : Record) : Prop where
  fields : ∀ field, (body.lookup field).isSome = true ↔
    field = "signature" ∨ field ∈ (productionSigningTypes operation).map Prod.fst ++ metadataFields operation
  signature : (textIn body "signature").any wellFormedSignature = true
  chain : chainDiffers body = false
  route : body.lookup "instrument" = some (.str instrument)
  valid : isInstrument instrument = true
  side : oneOf body "side" ["BUY", "SELL"] = true
  timeInForce : oneOf body "timeInForce" ["IOC"] = true
  type : oneOf body "type" ["stop-loss", "take-profit"] = true
  numbers : ∀ field ∈ wireNumbers, canonicalField body field = true
  id : sidecarTextIn body "id" = .ok ()
  order : sidecarTextIn body "order" = .ok ()

theorem oneOf_congr {field : String} {texts : List String} (same : body.lookup field = message.lookup field)
    (accepted : oneOf message field texts = true) : oneOf body field texts = true := by
  unfold oneOf at accepted ⊢
  rw [same]
  exact accepted

theorem Wired.acceptable (wiring : Wired operation message signature body)
    (typed : Typed binding operation message) (reviewed : Reviewed binding operation message)
    (prod : binding.chainId = 42161) (found : message.lookup "instrument" = some (.str instrument))
    (valid : isInstrument instrument = true) (signed : wellFormedSignature signature = true)
    (other : operation ≠ .newLimitOrder) : Acceptable operation instrument body := by
  have same : ∀ field, field ≠ "signature" → field ∉ wireNumbers →
      body.lookup field = message.lookup field := fun field apart kept =>
    wiring.same apart kept fun limit => other limit.1
  refine {
    fields := fun field => ?_
    signature := ?_
    chain := wiring.chain reviewed prod
    route := (same _ (by decide) (by decide)).trans found
    valid := valid
    side := oneOf_congr (same _ (by decide) (by decide)) reviewed.side
    timeInForce := oneOf_congr (same _ (by decide) (by decide)) reviewed.timeInForce
    type := oneOf_congr (same _ (by decide) (by decide)) reviewed.type
    numbers := fun field mem => wiring.canonicalField (typed.unsigned reviewed) mem
    id := sidecarTextIn_ok ?_
    order := sidecarTextIn_ok ?_ }
  · rw [wiring.fields reviewed field]
    simp [other]
  · rw [textIn, wiring.signature]
    exact signed
  · rw [same "id" (by decide) (by decide)]
    exact reviewed.id
  · rw [same "order" (by decide) (by decide)]
    exact reviewed.order

/-- Two lists of the same fields. -/
def Lists (expected names : List String) : Prop :=
  (∀ field ∈ expected, field ∈ names) ∧ ∀ field ∈ names, field ∈ expected

instance {expected names : List String} : Decidable (Lists expected names) :=
  inferInstanceAs (Decidable (_ ∧ _))

/-- The tables of the two validators have the fields of the schema, and the signature. -/
theorem signedFields_schema (other : operation ≠ .newLimitOrder) :
    Lists ((signedFields.lookup (signedName operation)).getD [])
      ("signature" :: ((productionSigningTypes operation).map Prod.fst ++ metadataFields operation)) := by
  revert other
  cases operation <;> decide

theorem sidecarOperations_schema (other : operation ≠ .newLimitOrder) :
    Lists ((sidecarOperations.lookup (sidecarName operation)).getD [])
      ("signature" :: ((productionSigningTypes operation).map Prod.fst ++ metadataFields operation)) := by
  revert other
  cases operation <;> decide

namespace Acceptable

variable (accepted : Acceptable operation instrument body)
include accepted

/-- The keys of the body are those of the schema, and the signature. -/
theorem sameFields {expected : List String} (lists : Lists expected
    ("signature" :: ((productionSigningTypes operation).map Prod.fst ++ metadataFields operation))) :
    sameFields body expected = true := by
  apply sameFields_iff.2
  intro field
  rw [accepted.fields field, ← List.mem_cons]
  exact ⟨lists.2 field, lists.1 field⟩

theorem textIn_instrument : textIn body "instrument" = some instrument := by
  rw [textIn, accepted.route]

theorem postOnly : body.has "postOnly" = false := by
  rw [Record.has, ← Bool.not_eq_true, accepted.fields "postOnly"]
  cases operation <;> decide

/-- The transport takes it on the path of its operation. -/
theorem validateSignedPost (other : operation ≠ .newLimitOrder) :
    validateSignedPost "POST" (wirePath operation instrument) body =
      .ok (signedName operation, pathInstrument operation instrument) := by
  have route : (pathInstrument operation instrument).isSome = true →
      textIn body "instrument" = pathInstrument operation instrument := by
    unfold pathInstrument
    split
    · exact fun _ => accepted.textIn_instrument
    · nofun
  have limit : wirePath operation instrument ≠ "/api/v2/order/limit" := by
    intro same
    have routed := signedOperation_wirePath operation accepted.valid
    rw [same] at routed
    have name : "/api/v2/order/limit" = signedName operation := congrArg Prod.fst (Option.some.inj routed)
    revert name other
    cases operation <;> decide
  unfold Production.validateSignedPost
  rw [refuse_bind (by rfl), signedOperation_wirePath operation accepted.valid]
  show (refuse _ _ >>= _) = _
  rw [refuse_bind (by rw [accepted.sameFields (signedFields_schema other)]; rfl),
    refuse_bind (by rw [accepted.signature]; rfl), refuse_bind accepted.chain,
    refuse_bind (by simp [limit]),
    refuse_bind (by rw [accepted.textIn_instrument, Option.any_some, accepted.valid]; rfl),
    refuse_bind (by simpa using route),
    refuse_bind (by rw [accepted.side]; rfl), refuse_bind (by rw [accepted.timeInForce]; rfl),
    refuse_bind accepted.postOnly, refuse_bind (by rw [accepted.type]; rfl)]
  have canonical : (wireNumbers.forM fun name => refuse (!canonicalField body name)
      (.transport (name ++ " must remain a canonical REST decimal string"))) = .ok () := by
    apply forM_eq_ok.2
    intro field mem
    rw [refuse_eq_ok, accepted.numbers field mem]
    rfl
  exact bind_eq_ok.2 ⟨(), canonical, rfl⟩

/-- The sidecar takes it on that path. -/
theorem validateBody (other : operation ≠ .newLimitOrder) :
    validateBody (wirePath operation instrument) body = .ok (sidecarName operation) := by
  have limit : sidecarName operation ≠ "/api/v2/order/limit" := by
    revert other
    cases operation <;> decide
  have text : sidecarText body "instrument" = .ok instrument := by
    have bounds := of_decide_eq_true accepted.valid
    apply sidecarText_ok accepted.route
    · rintro rfl
      exact absurd bounds.1 (by decide)
    · omega
    · exact visible_of_isInstrument accepted.valid
  unfold Production.validateBody
  rw [sidecarPath_wirePath operation accepted.valid accepted.textIn_instrument]
  show (refuse _ _ >>= _) = _
  rw [refuse_bind (by rw [accepted.sameFields (sidecarOperations_schema other)]; rfl),
    refuse_bind (by rw [accepted.signature]; rfl), text]
  show (refuse _ _ >>= _) = _
  rw [refuse_bind (by rw [accepted.valid]; rfl), refuse_bind accepted.chain,
    refuse_bind (by simp [limit]), refuse_bind (by rw [accepted.side]; rfl),
    refuse_bind (by rw [accepted.timeInForce]; rfl)]
  have canonical : (wireNumbers.forM fun name => refuse (!canonicalField body name)
      (.type (name ++ " must be a canonical decimal string"))) = .ok () := by
    apply forM_eq_ok.2
    intro field mem
    rw [refuse_eq_ok, accepted.numbers field mem]
    rfl
  apply bind_eq_ok.2
  refine ⟨(), canonical, ?_⟩
  rw [accepted.id, accepted.order]
  show (refuse _ _ >>= _) = _
  rw [refuse_bind (by rw [accepted.type]; rfl)]
  rfl

end Acceptable

end Accepted

section Limit

variable {body : Record} (policy : body.lookup "timeInForce" = some (.str "IOC"))
include policy

/-- Neither validator takes the policy of a limit order. -/
theorem validateSignedPost_limit (method : String) :
    ∃ error, validateSignedPost method "/api/v2/order/limit" body = .error error := by
  cases outcome : validateSignedPost method "/api/v2/order/limit" body with
  | error error => exact ⟨error, rfl⟩
  | ok accepted =>
    obtain ⟨_, -, outcome⟩ := bind_eq_ok.1 outcome
    obtain ⟨⟨operation, instrument⟩, -, outcome⟩ := bind_eq_ok.1 outcome
    obtain ⟨_, -, outcome⟩ := bind_eq_ok.1 outcome
    obtain ⟨_, -, outcome⟩ := bind_eq_ok.1 outcome
    obtain ⟨_, -, outcome⟩ := bind_eq_ok.1 outcome
    obtain ⟨_, gtc, -⟩ := bind_eq_ok.1 outcome
    rw [refuse_eq_ok, textIn, policy] at gtc
    exact absurd gtc (by decide)

theorem validateBody_limit : ∃ error, validateBody "/api/v2/order/limit" body = .error error := by
  cases outcome : validateBody "/api/v2/order/limit" body with
  | error error => exact ⟨error, rfl⟩
  | ok accepted =>
    obtain ⟨path, found, outcome⟩ := bind_eq_ok.1 outcome
    obtain ⟨_, -, outcome⟩ := bind_eq_ok.1 outcome
    obtain ⟨_, -, outcome⟩ := bind_eq_ok.1 outcome
    obtain ⟨_, -, outcome⟩ := bind_eq_ok.1 outcome
    obtain ⟨_, -, outcome⟩ := bind_eq_ok.1 outcome
    obtain ⟨_, -, outcome⟩ := bind_eq_ok.1 outcome
    obtain ⟨_, gtc, -⟩ := bind_eq_ok.1 outcome
    rw [required_eq_ok] at found
    cases found
    rw [refuse_eq_ok, textIn, policy] at gtc
    exact absurd gtc (by decide)

/-- So the transport raises before it calls its client, and the sidecar before it calls the SDK. -/
theorem sendSignedPost_limit (p : Primitives Digest) (preflight : Bool) (method : String) :
    ∃ error, sendSignedPost p preflight method "/api/v2/order/limit" body = Program.raise error := by
  obtain ⟨error, refused⟩ := validateSignedPost_limit policy method
  unfold sendSignedPost
  rw [refused]
  cases preflight with
  | false => exact ⟨_, rfl⟩
  | true => exact ⟨_, rfl⟩

theorem sidecarPost_limit (preflight : Bool) (method : String) :
    ∃ error, sidecarPost preflight method "/api/v2/order/limit" body = Program.raise error := by
  obtain ⟨error, refused⟩ := validateBody_limit policy
  unfold sidecarPost
  rw [refused]
  by_cases post : method = "POST"
  · exact ⟨error, by simp [post, refuse]; rfl⟩
  · exact ⟨_, by simp [post, refuse]; rfl⟩

end Limit

section Agreement

variable {p : Primitives Digest} {request : ManagedSigningRequest Digest}
  {binding : CustodyBinding Digest} {message : Record} {signature instrument : String}

/-- A number of the message, as it is sent and as it is read back. -/
theorem Wired.roundTrip {operation : SigningOperation} {body : Record}
    (wiring : Wired operation message signature body) (unsigned : Unsigned message) {field : String}
    (mem : field ∈ wireNumbers) {n : ℤ} (found : message.lookup field = some (.int n)) :
    ∃ text, body.lookup field = some (.str text) ∧ canonicalDecimal text = true ∧
      decimalValue text * 10 ^ 8 = n := by
  obtain ⟨units, same⟩ := unsigned field mem _ found
  cases same
  refine ⟨unitText units, ?_, canonicalDecimal_scaledText, decimalValue_scaledText⟩
  rw [wiring.others field (by rintro rfl; exact absurd mem (by decide))
    (by rintro ⟨-, rfl⟩; exact absurd mem (by decide)), found, Option.map_some, wired, if_pos mem]
  rfl

/-- The encoder and both validators agree on every signed message of the production chain but a
limit order, which neither takes; every number reads back as it was signed. -/
theorem signed_formats_agree (typed : typedMessage p request binding = .ok message)
    (prod : binding.chainId = 42161) (found : message.lookup "instrument" = some (.str instrument))
    (valid : isInstrument instrument = true) (signed : wellFormedSignature signature = true) :
    (∃ body, productionWireBody request.operation message signature = .ok body ∧
      (request.operation ≠ .newLimitOrder →
        validateSignedPost "POST" (wirePath request.operation instrument) body =
          .ok (signedName request.operation, pathInstrument request.operation instrument) ∧
        validateBody (wirePath request.operation instrument) body = .ok (sidecarName request.operation)) ∧
      (∀ field ∈ wireNumbers, ∀ n, message.lookup field = some (.int n) →
        ∃ text, body.lookup field = some (.str text) ∧ canonicalDecimal text = true ∧
          decimalValue text * 10 ^ 8 = n) ∧
      (request.operation = .newLimitOrder →
        (∃ error, validateSignedPost "POST" (wirePath request.operation instrument) body = .error error) ∧
        (∃ error, validateBody (wirePath request.operation instrument) body = .error error) ∧
        ∀ preflight,
          (∃ error, sendSignedPost p preflight "POST" (wirePath request.operation instrument) body =
            Program.raise error) ∧
          ∃ error, sidecarPost preflight "POST" (wirePath request.operation instrument) body =
            Program.raise error)) ∧
    Function.Injective unitText := by
  have fields := typedMessage_typed typed
  have reviewed := typedMessage_reviewed typed
  have unsigned := fields.unsigned reviewed
  obtain ⟨body, derived, wiring⟩ :=
    productionWireBody_ok unsigned
  refine ⟨⟨body, derived, fun other => ?_, fun field mem n lookup => wiring.roundTrip unsigned mem lookup,
    fun limit => ?_⟩, scaledText_injective⟩
  · have accepted := wiring.acceptable fields reviewed prod found valid signed other
    exact ⟨accepted.validateSignedPost other, accepted.validateBody other⟩
  · have policy := wiring.policy limit
    rw [limit]
    exact ⟨validateSignedPost_limit policy _, validateBody_limit policy, fun preflight =>
      ⟨sendSignedPost_limit policy p preflight _, sidecarPost_limit policy preflight _⟩⟩

def prodClose : Record := [("id", .str sampleOrderId), ("instrument", .str "BTC"), ("leverage", .int 1),
  ("quantity", .int 150_000_000), ("chainId", .int 42161)]

/-- A direct close of one and a half units, on the production chain. -/
theorem signed_formats_agree_close : ∃ body,
    productionWireBody .positionCloseOrder prodClose ("0x" ++ String.ofList (List.replicate 130 'a')) =
      .ok body ∧
    validateSignedPost "POST" "/api/v2/position/BTC/close" body = .ok ("close", some "BTC") ∧
    validateBody "/api/v2/position/BTC/close" body = .ok "/api/v2/position/{instrument}/close" ∧
    ∃ text, body.lookup "quantity" = some (.str text) ∧ decimalValue text * 10 ^ 8 = 150_000_000 := by
  have typed : typedMessage { samplePrimitives with loads := fun _ => some (.dict prodClose) }
      (sampleRequest .positionCloseOrder "close" 30) { sampleBinding with chainId := 42161 } =
        .ok prodClose := by rfl
  obtain ⟨⟨body, derived, accepted, numbers, -⟩, -⟩ :=
    signed_formats_agree typed rfl (show prodClose.lookup "instrument" = some (.str "BTC") from rfl)
      (by decide)
      (show wellFormedSignature ("0x" ++ String.ofList (List.replicate 130 'a')) = true by decide +kernel)
  obtain ⟨transport, sidecar⟩ := accepted (by decide)
  obtain ⟨text, lookup, -, value⟩ := numbers "quantity" (by decide) _ rfl
  exact ⟨body, derived, transport, sidecar, text, lookup, by simpa using value⟩

end Agreement

end KairosExecution.Production
