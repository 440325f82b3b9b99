import KairosExecution.Python.Decimal
import KairosExecution.Python.JsonTree

/-! JSON texts as `json.dumps` writes them, and that `json.loads` reads the value back: texts with
their characters outside ASCII escaped, exact integers, lists, and dictionaries in their order
or by their sorted keys. -/

namespace Python.Json

variable {F : Type}

section Escapes

def hexDigit (n : ℕ) : Char := "0123456789abcdef".toList.getD n '0'

/-- `"\\u{0:04x}"` -/
def unicodeEscape (n : ℕ) : List Char :=
  ['\\', 'u', hexDigit (n / 4096), hexDigit (n / 256 % 16), hexDigit (n / 16 % 16), hexDigit (n % 16)]

/-- A code point, or the surrogate pair of one above the sixteen bits. -/
def utf16 (n : ℕ) : List ℕ :=
  if n < 0x10000 then [n] else [0xd800 + (n - 0x10000) / 0x400, 0xdc00 + (n - 0x10000) % 0x400]

/-- `ESCAPE_DCT` -/
def shortEscapes : List (ℕ × Char) :=
  [(92, '\\'), (34, '"'), (8, 'b'), (12, 'f'), (10, 'n'), (13, 'r'), (9, 't')]

/-- `py_encode_basestring_ascii` of one character -/
def escapeChar (c : Char) : List Char :=
  match shortEscapes.lookup c.toNat with
  | some short => ['\\', short]
  | none => if 32 ≤ c.toNat ∧ c.toNat ≤ 126 then [c] else (utf16 c.toNat).flatMap unicodeEscape

def quote (s : String) : List Char := '"' :: s.toList.flatMap escapeChar ++ ['"']

theorem hexValue_hexDigit {n : ℕ} (lt : n < 16) : hexValue (hexDigit n) = some n := by
  have all : ∀ m : Fin 16, hexValue (hexDigit m) = some m.val := by decide +kernel
  exact all ⟨n, lt⟩

theorem units_unicodeEscape {n : ℕ} (lt : n < 0x10000) (text : List Char) :
    units (unicodeEscape n ++ text) = (units text).map fun (us, rest) => (n :: us, rest) := by
  have value : hexUnit (hexDigit (n / 4096)) (hexDigit (n / 256 % 16)) (hexDigit (n / 16 % 16))
      (hexDigit (n % 16)) = some n := by
    rw [hexUnit, hexValue_hexDigit (by omega), hexValue_hexDigit (by omega),
      hexValue_hexDigit (by omega), hexValue_hexDigit (by omega)]
    simp only [Option.bind_eq_bind, Option.bind_some, Option.pure_def, Option.some.injEq]
    omega
  rw [unicodeEscape, List.cons_append, List.cons_append, List.cons_append, List.cons_append,
    List.cons_append, List.cons_append, List.nil_append, units, value, Option.bind_some]

theorem toNat_range (c : Char) : c.toNat < 0xd800 ∨ 0xdfff < c.toNat ∧ c.toNat < 0x110000 := c.valid

theorem shortEscapes_simple : ∀ entry ∈ shortEscapes,
    simpleEscape entry.2 = some entry.1 ∧ entry.2 ≠ 'u' ∧ entry.1 < 0x10000 := by
  decide

theorem utf16_small {n : ℕ} (lt : n < 0x10000) : utf16 n = [n] := if_pos lt

theorem units_escapeChar (c : Char) (text : List Char) : units (escapeChar c ++ text) =
    (units text).map fun (us, rest) => (utf16 c.toNat ++ us, rest) := by
  have range := toNat_range c
  unfold escapeChar
  split
  · rename_i short found
    obtain ⟨before, after, entries, _⟩ := List.lookup_eq_some_iff.1 found
    have listed : (c.toNat, short) ∈ shortEscapes := by
      rw [entries]
      exact List.mem_append_right _ List.mem_cons_self
    obtain ⟨simple, notUnicode, small⟩ := shortEscapes_simple _ listed
    rw [List.cons_append, List.cons_append, List.nil_append, units, simple, Option.bind_some,
      utf16_small small]
    · rfl
    · exact fun _ _ _ _ _ unicode _ => notUnicode unicode
  · rename_i missing
    rw [List.lookup_eq_none_iff] at missing
    split
    · rename_i plain
      have notQuote : c ≠ '"' := by
        rintro rfl
        exact absurd (missing (34, '"') (by decide)) (by decide)
      have notSlash : c ≠ '\\' := by
        rintro rfl
        exact absurd (missing (92, '\\') (by decide)) (by decide)
      rw [List.cons_append, List.nil_append, units, if_neg (by omega), utf16_small (by omega)]
      · rfl
      · exact notQuote
      · exact fun _ _ _ _ _ slash _ => notSlash slash
      · exact fun _ _ slash _ => notSlash slash
    · unfold utf16
      split
      · rename_i small
        rw [List.flatMap_singleton, units_unicodeEscape small]
        rfl
      · simp only [List.flatMap_cons, List.flatMap_nil, List.append_nil, List.append_assoc]
        rw [units_unicodeEscape (by omega), units_unicodeEscape (by omega), Option.map_map]
        rfl

/-- The escapes of a text are read as its code units. -/
theorem units_escape (cs text : List Char) :
    units (cs.flatMap escapeChar ++ '"' :: text) = some (cs.flatMap fun c => utf16 c.toNat, text) := by
  induction cs with
  | nil =>
    rw [List.flatMap_nil, List.nil_append, units]
    rfl
  | cons c cs ih =>
    rw [List.flatMap_cons, List.append_assoc, units_escapeChar, ih, List.flatMap_cons]
    rfl

theorem joinSurrogates_cons {n : ℕ} (us : List ℕ) (single : isHigh n = false) :
    joinSurrogates (n :: us) = n :: joinSurrogates us := by
  cases us with
  | nil => rfl
  | cons m us => rw [joinSurrogates, single, Bool.false_and, if_neg Bool.false_ne_true]

/-- The code units of a character are joined to its code point. -/
theorem joinSurrogates_utf16 (c : Char) (us : List ℕ) :
    joinSurrogates (utf16 c.toNat ++ us) = c.toNat :: joinSurrogates us := by
  have range := toNat_range c
  unfold utf16
  split
  · refine joinSurrogates_cons us ?_
    rw [isHigh, decide_eq_false_iff_not]
    omega
  · have pair : (isHigh (0xd800 + (c.toNat - 0x10000) / 0x400)
        && isLow (0xdc00 + (c.toNat - 0x10000) % 0x400)) = true := by
      rw [isHigh, isLow, Bool.and_eq_true, decide_eq_true_eq, decide_eq_true_eq]
      omega
    have value : 0x10000 + (0xd800 + (c.toNat - 0x10000) / 0x400 - 0xd800) * 0x400
        + (0xdc00 + (c.toNat - 0x10000) % 0x400 - 0xdc00) = c.toNat := by omega
    rw [List.cons_append, List.cons_append, List.nil_append, joinSurrogates, if_pos pair, value]

/-- A quoted text is read back. -/
theorem string_quote (s : String) (text : List Char) :
    string (s.toList.flatMap escapeChar ++ '"' :: text) = some (points s, text) := by
  have joined : ∀ cs : List Char, joinSurrogates (cs.flatMap fun c => utf16 c.toNat) = cs.map Char.toNat := by
    intro cs
    induction cs with
    | nil => rfl
    | cons c cs ih => rw [List.flatMap_cons, joinSurrogates_utf16, ih, List.map_cons]
  rw [string, units_escape, Option.map_some]
  dsimp only
  rw [joined, points]

end Escapes

section Integers

/-- `int.__repr__` -/
def intText (n : ℤ) : List Char := (if n < 0 then ['-'] else []) ++ Nat.toDigits 10 n.natAbs

/-- The integer of a literal. -/
def intValue (l : Literal) : ℤ :=
  if l.negative then -Nat.ofDigitChars 10 l.whole 0 else Nat.ofDigitChars 10 l.whole 0

/-- What cannot go on with a number. -/
def Ends (text : List Char) : Prop :=
  ∀ c ∈ text.head?, c.isDigit = false ∧ c ≠ '.' ∧ c ≠ 'e' ∧ c ≠ 'E'

theorem takeWhile_digits {digits text : List Char} (all : ∀ c ∈ digits, c.isDigit = true)
    (ends : Ends text) : (digits ++ text).takeWhile Char.isDigit = digits ∧
      (digits ++ text).dropWhile Char.isDigit = text := by
  rw [List.takeWhile_append_of_pos all, List.dropWhile_append_of_pos all]
  cases text with
  | nil => simp
  | cons c text =>
    have stop := (ends c rfl).1
    rw [List.takeWhile_cons_of_neg (by simp [stop]), List.dropWhile_cons_of_neg (by simp [stop])]
    simp

theorem whole_digits {n : ℕ} {text : List Char} (ends : Ends text) :
    whole (Nat.toDigits 10 n ++ text) = some (Nat.toDigits 10 n, text) := by
  rcases Nat.eq_zero_or_pos n with rfl | pos
  · rfl
  · have all : ∀ c ∈ Nat.toDigits 10 n, c.isDigit = true := fun c => isDigit_of_mem_toDigits
    have first := toDigits_head pos
    cases split : Nat.toDigits 10 n with
    | nil => exact absurd split Nat.toDigits_ne_nil
    | cons c digits =>
      rw [split] at all first
      have nonzero : isNonzeroDigit c = true := first
      rw [isNonzeroDigit, Bool.and_eq_true, decide_eq_true_eq] at nonzero
      obtain ⟨taken, dropped⟩ :=
        takeWhile_digits (fun d mem => all d (List.mem_cons_of_mem _ mem)) ends
      rw [List.cons_append, whole, if_neg nonzero.2, if_pos nonzero.1, taken, dropped]

theorem fraction_ends {text : List Char} (ends : Ends text) : fraction text = ([], text) := by
  unfold fraction
  split
  · exact absurd rfl (ends _ rfl).2.1
  · rfl

theorem exponent_ends {text : List Char} (ends : Ends text) : exponent text = ([], text) := by
  cases text with
  | nil => rfl
  | cons c text =>
    obtain ⟨_, _, lower, upper⟩ := ends c rfl
    unfold exponent
    exact if_neg fun mark => mark.1.elim lower upper

/-- The literal of an integer. -/
def intLiteral (n : ℤ) : Literal := ⟨decide (n < 0), Nat.toDigits 10 n.natAbs, [], []⟩

theorem literal_intText {n : ℤ} {text : List Char} (ends : Ends text) :
    literal (intText n ++ text) = some (intLiteral n, text) := by
  have signed : sign (intText n ++ text) = (decide (n < 0), Nat.toDigits 10 n.natAbs ++ text) := by
    unfold intText
    split
    · rename_i negative
      rw [decide_eq_true negative]
      rfl
    · rename_i positive
      rw [decide_eq_false positive, List.nil_append]
      unfold sign
      split
      · rename_i minus
        cases digits : Nat.toDigits 10 n.natAbs with
        | nil => exact absurd digits Nat.toDigits_ne_nil
        | cons c rest =>
          have digit : c.isDigit = true := isDigit_of_mem_toDigits (digits ▸ List.mem_cons_self)
          rw [digits] at minus
          cases minus
          cases digit
      · rfl
  rw [literal, signed, whole_digits ends, Option.map_some]
  dsimp only
  rw [fraction_ends ends, exponent_ends ends]
  rfl

theorem intValue_intLiteral (n : ℤ) : intValue (intLiteral n) = n := by
  unfold intValue intLiteral
  dsimp only
  rw [Nat.ofDigitChars_ten_toDigits]
  split
  · rename_i negative
    have negative := of_decide_eq_true negative
    omega
  · rename_i positive
    have positive : ¬n < 0 := by simpa using positive
    omega

end Integers

section Sequences

variable {α : Type} {close : Char} {reads : List Char → α → List Char → Prop} {spaced : Bool}

/-- A space, where the separators have one. -/
def blank (spaced : Bool) : List Char := if spaced then [' '] else []

/-- `item_separator.join(texts)` -/
def joined (spaced : Bool) : List (List Char) → List Char
  | [] => []
  | [text] => text
  | text :: other :: texts => text ++ (',' :: blank spaced ++ joined spaced (other :: texts))

/-- A text begins with neither a space nor a closing delimiter nor a byte order mark. -/
def Starts (text : List Char) : Prop :=
  ∃ c rest, text = c :: rest ∧ isSpace c = false ∧ c ≠ ']' ∧ c ≠ '}' ∧ c ≠ '\ufeff'

theorem Starts.append {text : List Char} (starts : Starts text) (rest : List Char) :
    Starts (text ++ rest) := by
  obtain ⟨c, tail, rfl, plain⟩ := starts
  exact ⟨c, tail ++ rest, rfl, plain⟩

theorem skip_cons {c : Char} (rest : List Char) (plain : isSpace c = false) :
    skip (c :: rest) = c :: rest := List.dropWhile_cons_of_neg (by simp [plain])

theorem Starts.skip {text : List Char} (starts : Starts text) : skip text = text := by
  obtain ⟨c, rest, rfl, plain, -⟩ := starts
  exact skip_cons rest plain

theorem Starts.skip_blank {text : List Char} (starts : Starts text) (spaced : Bool) :
    Json.skip (blank spaced ++ text) = text := by
  cases spaced with
  | false => exact starts.skip
  | true => exact starts.skip

theorem joined_starts {texts : List (List Char)} (some : texts ≠ []) (starts : ∀ text ∈ texts, Starts text) :
    Starts (joined spaced texts) := by
  match texts with
  | [] => exact absurd rfl some
  | [text] => exact starts text List.mem_cons_self
  | text :: _ :: _ => exact (starts text List.mem_cons_self).append _

theorem ends_cons {c : Char} (rest : List Char) (h : c ∈ [',', ']', '}']) : Ends (c :: rest) := by
  intro d mem
  cases mem
  obtain rfl | rfl | rfl : c = ',' ∨ c = ']' ∨ c = '}' := by simpa using h
  all_goals decide

/-- Elements are read back, with what separates them and what closes them. -/
theorem elements_joined {text : α → List Char} {as : List α} (some : as ≠ [])
    (closes : close ∈ [']', '}'])
    (each : ∀ a ∈ as, Starts (text a) ∧ ∀ rest, Ends rest → reads (text a ++ rest) a rest)
    (rest : List Char) :
    Elements reads close (joined spaced (as.map text) ++ close :: rest) as rest := by
  have plain : isSpace close = false := by
    obtain rfl | rfl : close = ']' ∨ close = '}' := by simpa using closes
    all_goals rfl
  have last : Ends (close :: rest) := ends_cons rest (List.mem_cons_of_mem _ closes)
  induction as with
  | nil => exact absurd rfl some
  | cons a as ih =>
    obtain ⟨_, read⟩ := each a List.mem_cons_self
    cases as with
    | nil =>
      refine .last (read _ last) ?_
      rw [delimiter, skip_cons _ plain]
      exact if_pos rfl
    | cons b as =>
      have others := ih (List.cons_ne_nil _ _) fun c mem => each c (List.mem_cons_of_mem _ mem)
      have starts : Starts (joined spaced ((b :: as).map text) ++ close :: rest) := by
        refine (joined_starts (List.cons_ne_nil _ _) fun t mem => ?_).append _
        have mem : t ∈ (b :: as).map text := mem
        obtain ⟨c, listed, rfl⟩ := List.mem_map.1 mem
        exact (each c (List.mem_cons_of_mem _ listed)).1
      rw [List.map_cons, List.map_cons, joined, List.append_assoc]
      refine .more (read _ (ends_cons _ List.mem_cons_self)) ?_ others
      have notClose : ',' ≠ close := by
        rintro rfl
        simp at closes
      rw [List.cons_append, List.cons_append, delimiter, skip_cons _ (by decide)]
      dsimp only
      rw [if_neg notClose, if_pos rfl, List.append_assoc]
      exact congrArg (fun t => Option.some (false, t)) (starts.skip_blank spaced)

theorem contents_joined {text : α → List Char} {as : List α} (closes : close ∈ [']', '}'])
    (each : ∀ a ∈ as, Starts (text a) ∧ ∀ rest, Ends rest → reads (text a ++ rest) a rest)
    (rest : List Char) :
    Contents reads close (joined spaced (as.map text) ++ close :: rest) as rest := by
  by_cases none : as = []
  · subst none
    refine .none (skip_cons rest ?_)
    obtain rfl | rfl : close = ']' ∨ close = '}' := by simpa using closes
    all_goals rfl
  · have starts : Starts (joined spaced (as.map text) ++ close :: rest) := by
      refine (joined_starts (by simpa using none) fun t mem => ?_).append _
      obtain ⟨a, listed, rfl⟩ := List.mem_map.1 mem
      exact (each a listed).1
    have read : Elements reads close (joined spaced (as.map text) ++ close :: rest) as rest :=
      elements_joined none closes each rest
    obtain ⟨c, tail, eq, plain, list, dict, -⟩ := starts
    rw [eq] at read ⊢
    refine .some (skip_cons tail plain) ?_ read
    rintro rfl
    simp [list, dict] at closes

end Sequences

section Values

/-- The text of code points, none of which is half of a surrogate pair. -/
def ofPoints (s : Text) : Option String :=
  if s.all fun n => decide n.isValidChar then some (String.ofList (s.map Char.ofNat)) else none

theorem ofPoints_points (s : String) : ofPoints (points s) = some s := by
  have valid : (points s).all (fun n => decide n.isValidChar) = true := by
    rw [List.all_eq_true]
    intro n mem
    obtain ⟨c, _, rfl⟩ := List.mem_map.1 mem
    exact decide_eq_true c.valid
  rw [ofPoints, if_pos valid, points, List.map_map]
  have chars : s.toList.map (Char.ofNat ∘ Char.toNat) = s.toList := by
    conv_rhs => rw [← List.map_id s.toList]
    exact List.map_congr_left fun c _ => Char.ofNat_toNat c
  rw [chars, String.ofList_toList]

/-- `json.loads(text, object_pairs_hook=_reject_duplicate_keys)` on what `float` makes of a
literal, which it may take for an infinity. A text with half of a surrogate pair is refused. -/
def valueHooks (malformed depth : F) (float : Literal → Option ℚ) : Hooks F String Value where
  malformed := malformed
  depth := depth
  text s := required malformed (ofPoints s)
  str := .str
  null := .none
  bool := .bool
  number l :=
    if l.isFloat then .ok (match float l with
      | some x => .float x
      | none => .nonfinite "inf")
    else if 4300 < l.whole.length then .error malformed
    else .ok (.int (intValue l))
  constant name := .ok (.nonfinite name)
  list := .list
  pairs entries := (uniqueObject malformed entries).map .dict

variable (floatText : ℚ → List Char) (spaced : Bool)

mutual

/-- `json.dumps(value)`, with or without spaces after the separators. -/
def dump : Value → List Char
  | .none => "null".toList
  | .bool b => if b then "true".toList else "false".toList
  | .int n => intText n
  | .float x => floatText x
  | .nonfinite name => name.toList
  | .str s => quote s
  | .list items => '[' :: joined spaced (dumpItems items) ++ [']']
  | .dict entries => '{' :: joined spaced (dumpEntries entries) ++ ['}']

def dumpItems : List Value → List (List Char)
  | [] => []
  | item :: items => dump item :: dumpItems items

def dumpEntries : List (String × Value) → List (List Char)
  | [] => []
  | (key, value) :: entries => (quote key ++ ':' :: blank spaced ++ dump value) :: dumpEntries entries

end

/-- A key with its value. -/
def dumpEntry (entry : String × Value) : List Char :=
  quote entry.1 ++ ':' :: blank spaced ++ dump floatText spaced entry.2

theorem dumpItems_eq (items : List Value) :
    dumpItems floatText spaced items = items.map (dump floatText spaced) := by
  induction items with
  | nil => rfl
  | cons item items ih => rw [dumpItems, ih, List.map_cons]

theorem dumpEntries_eq (entries : List (String × Value)) :
    dumpEntries floatText spaced entries = entries.map (dumpEntry floatText spaced) := by
  induction entries with
  | nil => rfl
  | cons entry entries ih => rw [dumpEntries, ih, List.map_cons, dumpEntry]

/-- A value without floats, of which no object has a key twice, and of which the containers nest
no deeper than that. -/
inductive Plain : ℕ → Value → Prop
  | none {room : ℕ} : Plain room .none
  | bool {room : ℕ} (b : Bool) : Plain room (.bool b)
  | int {room : ℕ} {n : ℤ} : (Nat.toDigits 10 n.natAbs).length ≤ 4300 → Plain room (.int n)
  | str {room : ℕ} (s : String) : Plain room (.str s)
  | list {room : ℕ} {items : List Value} : (∀ item ∈ items, Plain room item) →
      Plain (room + 1) (.list items)
  | dict {room : ℕ} {entries : List (String × Value)} : (entries.map Prod.fst).Nodup →
      (∀ entry ∈ entries, Plain room entry.2) → Plain (room + 1) (.dict entries)

variable {floatText spaced} {malformed depth : F} {float : Literal → Option ℚ}

theorem intText_starts (n : ℤ) : Starts (intText n) := by
  unfold intText
  split
  · exact ⟨'-', _, rfl, by decide, by decide, by decide, by decide⟩
  · cases digits : Nat.toDigits 10 n.natAbs with
    | nil => exact absurd digits Nat.toDigits_ne_nil
    | cons c rest =>
      have digit : c.isDigit = true := isDigit_of_mem_toDigits (digits ▸ List.mem_cons_self)
      refine ⟨c, rest, rfl, ?_, ?_⟩
      · unfold isSpace
        simp only [Bool.or_eq_false_iff, decide_eq_false_iff_not]
        refine ⟨⟨⟨?_, ?_⟩, ?_⟩, ?_⟩ <;> rintro rfl <;> cases digit
      · refine ⟨?_, ?_, ?_⟩ <;> rintro rfl <;> cases digit

theorem quote_starts (s : String) : Starts (quote s) :=
  ⟨'"', _, rfl, by decide, by decide, by decide, by decide⟩

theorem Plain.starts {room : ℕ} {v : Value} (plain : Plain room v) :
    Starts (dump floatText spaced v) := by
  cases plain with
  | none => exact ⟨'n', _, rfl, by decide, by decide, by decide, by decide⟩
  | bool b =>
    cases b with
    | false => exact ⟨'f', _, rfl, by decide, by decide, by decide, by decide⟩
    | true => exact ⟨'t', _, rfl, by decide, by decide, by decide, by decide⟩
  | int _ =>
    rw [dump]
    exact intText_starts _
  | str s =>
    rw [dump]
    exact quote_starts s
  | list _ =>
    rw [dump]
    exact ⟨'[', _, rfl, by decide, by decide, by decide, by decide⟩
  | dict _ _ =>
    rw [dump]
    exact ⟨'{', _, rfl, by decide, by decide, by decide, by decide⟩

theorem key_dumpEntry {room : ℕ} (entry : String × Value) (plain : Plain room entry.2)
    (rest : List Char) : key (dumpEntry floatText spaced entry ++ rest) =
      some (points entry.1, dump floatText spaced entry.2 ++ rest) := by
  have starts : Starts (dump floatText spaced entry.2 ++ rest) := plain.starts.append rest
  have split : dumpEntry floatText spaced entry ++ rest = '"' :: (entry.1.toList.flatMap escapeChar
      ++ '"' :: (':' :: (blank spaced ++ (dump floatText spaced entry.2 ++ rest)))) := by
    simp [dumpEntry, quote]
  have colon : skip (':' :: (blank spaced ++ (dump floatText spaced entry.2 ++ rest))) = _ :=
    skip_cons _ (by decide)
  simp only [split, key, string_quote, Option.bind_some, colon, starts.skip_blank]

theorem Scalar.reads {V K : Type} {hooks : Hooks F K V} {room : ℕ} {v : V} {text rest : List Char}
    (h : Scalar hooks text v rest) : Reads hooks room text v rest := by
  cases room with
  | zero => exact h
  | succ room => exact .inl h

/-- A dumped value is read back. -/
theorem Plain.reads {room : ℕ} {v : Value} (plain : Plain room v) {rest : List Char}
    (ends : Ends rest) :
    Reads (valueHooks malformed depth float) room (dump floatText spaced v ++ rest) v rest := by
  induction plain generalizing rest with
  | none =>
    rw [dump]
    exact Scalar.reads (.named List.mem_cons_self)
  | bool b =>
    rw [dump]
    cases b with
    | false => exact Scalar.reads (.named (by simp [named, valueHooks]))
    | true => exact Scalar.reads (.named (by simp [named, valueHooks]))
  | int short =>
    rename_i room n
    rw [dump]
    refine Scalar.reads (.number (literal_intText ends) ?_)
    have whole : ¬(intLiteral n).isFloat = true := by simp [Literal.isFloat, intLiteral]
    have fits : ¬4300 < (intLiteral n).whole.length := not_lt.2 short
    simp only [valueHooks]
    rw [if_neg whole, if_neg fits, intValue_intLiteral]
  | str s =>
    rw [dump, quote]
    simp only [List.cons_append, List.append_assoc, List.nil_append]
    exact Scalar.reads (.quoted (string_quote s rest) (required_eq_ok.2 (ofPoints_points s)))
  | list _ ih =>
    rename_i room items plain
    refine .inr ?_
    rw [dump, dumpItems_eq]
    simp only [List.cons_append, List.append_assoc, List.nil_append]
    refine .list (contents_joined List.mem_cons_self (fun item mem => ⟨(plain item mem).starts, ?_⟩) rest)
    exact fun rest ends => ih item mem ends
  | dict nodup _ ih =>
    rename_i room entries plain
    refine .inr ?_
    rw [dump, dumpEntries_eq]
    simp only [List.cons_append, List.append_assoc, List.nil_append]
    refine .dict (contents_joined (List.mem_cons_of_mem _ List.mem_cons_self)
      (fun entry mem => ⟨(quote_starts _).append _ |>.append _, ?_⟩) rest) ?_
    · intro rest ends
      exact .mk (key_dumpEntry entry (plain entry mem) rest)
        (required_eq_ok.2 (ofPoints_points entry.1)) (ih entry mem ends)
    · exact map_eq_ok.2 ⟨entries, uniqueObject_eq_ok.2 ⟨nodup, rfl⟩, rfl⟩

/-- `json.loads` reads what `json.dumps` wrote. -/
theorem Plain.document {room : ℕ} {v : Value} (plain : Plain room v) :
    Json.document (valueHooks malformed depth float) room (dump floatText spaced v) = .ok v := by
  have starts : Starts (dump floatText spaced v) := plain.starts
  obtain ⟨c, tail, eq, space, -, -, mark⟩ := starts
  have read : Reads (valueHooks malformed depth float) room (dump floatText spaced v ++ []) v [] :=
    plain.reads fun _ mem => nomatch mem
  rw [List.append_nil] at read
  refine document_eq_ok.2 ⟨?_, [], ?_, rfl⟩
  · rw [eq]
    simpa using mark
  · rw [eq] at read ⊢
    rw [skip_cons _ space]
    exact read

end Values

end Python.Json
