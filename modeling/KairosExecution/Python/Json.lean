import KairosExecution.Python.Value

/-! The numbers and the quoted texts of a JSON text, as `json.loads` reads them. A number is kept
as the characters that it is made of; a quoted text becomes its code points. -/

namespace Python.Json

/-- The code points of a `str`; an escape can leave half of a surrogate pair among them. -/
abbrev Text := List ℕ

/-- The code points of a text. -/
def points (s : String) : Text := s.toList.map Char.toNat

/-- A part that must be there. -/
def required {F α : Type} (malformed : F) : Option α → Except F α
  | none => .error malformed
  | some a => .ok a

@[simp] theorem required_eq_ok {F α : Type} {malformed : F} {x : Option α} {a : α} :
    required malformed x = .ok a ↔ x = some a := by
  cases x <;> simp [required]

theorem required_eq_error {F α : Type} {malformed f : F} {x : Option α} (other : f ≠ malformed) :
    required malformed x ≠ .error f := by
  cases x <;> simp [required, other.symm]

section Number

/-- A number as it stands in a text: its sign, its digits, the point with the digits after it,
and the exponent with its mark and sign. The last two can be missing. -/
structure Literal where
  negative : Bool
  whole : List Char
  fraction : List Char
  exponent : List Char
  deriving DecidableEq

namespace Literal

def chars (literal : Literal) : List Char :=
  (if literal.negative then ['-'] else []) ++ literal.whole ++ literal.fraction ++ literal.exponent

/-- A number that goes to `parse_float`. -/
def isFloat (literal : Literal) : Bool := literal.fraction ≠ [] ∨ literal.exponent ≠ []

end Literal

def sign : List Char → Bool × List Char
  | '-' :: rest => (true, rest)
  | text => (false, text)

/-- `(0|[1-9]\d*)` -/
def whole : List Char → Option (List Char × List Char)
  | [] => none
  | c :: rest =>
    if c = '0' then some ([c], rest)
    else if c.isDigit then some (c :: rest.takeWhile Char.isDigit, rest.dropWhile Char.isDigit)
    else none

/-- `(\.\d+)?` -/
def fraction : List Char → List Char × List Char
  | '.' :: rest =>
    if rest.takeWhile Char.isDigit = [] then ([], '.' :: rest)
    else ('.' :: rest.takeWhile Char.isDigit, rest.dropWhile Char.isDigit)
  | text => ([], text)

def exponentSign : List Char → List Char × List Char
  | '+' :: rest => (['+'], rest)
  | '-' :: rest => (['-'], rest)
  | text => ([], text)

/-- `([eE][-+]?\d+)?` -/
def exponent : List Char → List Char × List Char
  | [] => ([], [])
  | c :: rest =>
    let (sign, after) := exponentSign rest
    if (c = 'e' ∨ c = 'E') ∧ after.takeWhile Char.isDigit ≠ []
    then (c :: (sign ++ after.takeWhile Char.isDigit), after.dropWhile Char.isDigit)
    else ([], c :: rest)

/-- The number at the front of a text, as far as it goes. -/
def literal (text : List Char) : Option (Literal × List Char) :=
  (whole (sign text).2).map fun (digits, rest) =>
    (⟨(sign text).1, digits, (fraction rest).1, (exponent (fraction rest).2).1⟩,
      (exponent (fraction rest).2).2)

theorem sign_chars (text : List Char) :
    (if (sign text).1 then ['-'] else []) ++ (sign text).2 = text := by
  unfold sign
  split <;> rfl

theorem whole_chars {text digits rest : List Char} (h : whole text = some (digits, rest)) :
    digits ++ rest = text := by
  cases text with
  | nil => cases h
  | cons c text =>
    simp only [whole] at h
    split at h
    · cases h
      rfl
    · split at h
      · cases h
        rw [List.cons_append, List.takeWhile_append_dropWhile]
      · cases h

theorem fraction_chars (text : List Char) : (fraction text).1 ++ (fraction text).2 = text := by
  unfold fraction
  split
  · split
    · rfl
    · simp
  · rfl

theorem exponentSign_chars (text : List Char) :
    (exponentSign text).1 ++ (exponentSign text).2 = text := by
  unfold exponentSign
  split <;> rfl

theorem exponent_chars (text : List Char) : (exponent text).1 ++ (exponent text).2 = text := by
  cases text with
  | nil => rfl
  | cons c rest =>
    unfold exponent
    dsimp only
    split
    · have parts := exponentSign_chars rest
      simp [List.append_assoc, parts]
    · rfl

/-- What is read of a number are its characters. -/
theorem literal_chars {text rest : List Char} {l : Literal} (h : literal text = some (l, rest)) :
    l.chars ++ rest = text := by
  obtain ⟨⟨digits, after⟩, found, eq⟩ := Option.map_eq_some_iff.1 h
  simp only [Prod.mk.injEq] at eq
  obtain ⟨rfl, rfl⟩ := eq
  rw [Literal.chars]
  simp only [List.append_assoc]
  rw [exponent_chars, fraction_chars, whole_chars found, sign_chars]

end Number

section String

def hexValue (c : Char) : Option ℕ :=
  if c.isDigit then some (c.toNat - 48)
  else if 'a' ≤ c ∧ c ≤ 'f' then some (c.toNat - 87)
  else if 'A' ≤ c ∧ c ≤ 'F' then some (c.toNat - 55)
  else none

/-- The value of four hexadecimal digits. -/
def hexUnit (a b c d : Char) : Option ℕ := do
  let a ← hexValue a
  let b ← hexValue b
  let c ← hexValue c
  let d ← hexValue d
  return ((a * 16 + b) * 16 + c) * 16 + d

/-- `BACKSLASH` -/
def simpleEscape (c : Char) : Option ℕ :=
  [('"', 34), ('\\', 92), ('/', 47), ('b', 8), ('f', 12), ('n', 10), ('r', 13), ('t', 9)].lookup c

/-- The code points and units up to the closing quote; a control character ends the text. -/
def units : List Char → Option (List ℕ × List Char)
  | '"' :: rest => some ([], rest)
  | '\\' :: 'u' :: a :: b :: c :: d :: rest =>
    (hexUnit a b c d).bind fun n => (units rest).map fun (us, rest) => (n :: us, rest)
  | '\\' :: c :: rest =>
    (simpleEscape c).bind fun n => (units rest).map fun (us, rest) => (n :: us, rest)
  | c :: rest =>
    if c.toNat < 32 then none else (units rest).map fun (us, rest) => (c.toNat :: us, rest)
  | [] => none

def isHigh (n : ℕ) : Bool := 0xd800 ≤ n ∧ n ≤ 0xdbff

def isLow (n : ℕ) : Bool := 0xdc00 ≤ n ∧ n ≤ 0xdfff

/-- The two halves of a surrogate pair become the code point that they stand for. -/
def joinSurrogates : List ℕ → Text
  | high :: low :: rest =>
    if isHigh high && isLow low
    then (0x10000 + (high - 0xd800) * 0x400 + (low - 0xdc00)) :: joinSurrogates rest
    else high :: joinSurrogates (low :: rest)
  | us => us

/-- `scanstring`, of what follows the opening quote. -/
def string (text : List Char) : Option (Text × List Char) :=
  (units text).map fun (us, rest) => (joinSurrogates us, rest)

theorem units_length {text rest : List Char} {us : List ℕ} (h : units text = some (us, rest)) :
    rest.length < text.length := by
  induction text using units.induct generalizing us with
  | case1 text =>
    cases h
    simp
  | case2 a b c d text ih =>
    rw [units] at h
    obtain ⟨n, _, h⟩ := Option.bind_eq_some_iff.1 h
    obtain ⟨⟨vs, after⟩, found, eq⟩ := Option.map_eq_some_iff.1 h
    cases eq
    have := ih found
    simp only [List.length_cons]
    omega
  | case3 c text other ih =>
    rw [units] at h
    · obtain ⟨n, _, h⟩ := Option.bind_eq_some_iff.1 h
      obtain ⟨⟨vs, after⟩, found, eq⟩ := Option.map_eq_some_iff.1 h
      cases eq
      have := ih found
      simp only [List.length_cons]
      omega
    · exact other
  | case4 c text quote escape slash control =>
    rw [units, if_pos control] at h
    · cases h
    all_goals assumption
  | case5 c text quote escape slash plain ih =>
    rw [units, if_neg plain] at h
    · obtain ⟨⟨vs, after⟩, found, eq⟩ := Option.map_eq_some_iff.1 h
      cases eq
      have := ih found
      simp only [List.length_cons]
      omega
    all_goals assumption
  | case6 => cases h

theorem string_length {text rest : List Char} {s : Text} (h : string text = some (s, rest)) :
    rest.length < text.length := by
  obtain ⟨⟨us, after⟩, found, eq⟩ := Option.map_eq_some_iff.1 h
  cases eq
  exact units_length found

end String

end Python.Json
