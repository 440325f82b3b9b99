import Mathlib

/-! Canonical decimal texts. A number of units, of which there are a power of ten in one, is
written as its whole part and its fraction without the zeros at the end. The text is
canonical, and its value is the number of units over that power, so that texts of different
numbers differ. -/

namespace Python

/-- `f"{n:0{places}d}"` -/
def padded (places n : ℕ) : List Char :=
  List.replicate (places - (Nat.toDigits 10 n).length) '0' ++ Nat.toDigits 10 n

/-- The fraction of a decimal text, of so many units. -/
def fractionText (places fraction : ℕ) : List Char :=
  if fraction = 0 then [] else '.' :: (padded places fraction).rdropWhile (· = '0')

/-- The decimal text of a number of units, of which there are `10 ^ places` in one. -/
def scaledText (places units : ℕ) : String :=
  String.ofList (Nat.toDigits 10 (units / 10 ^ places) ++ fractionText places (units % 10 ^ places))

/-- The whole part of a text, and what is after its point. -/
def wholePart (text : String) : List Char := text.toList.takeWhile (· ≠ '.')

def afterWhole (text : String) : List Char := text.toList.dropWhile (· ≠ '.')

/-- `[1-9]` -/
def isNonzeroDigit (c : Char) : Bool := c.isDigit && c ≠ '0'

/-- `(?:\.[0-9]*[1-9])?` -/
def canonicalFraction : List Char → Bool
  | [] => true
  | point :: digits => point = '.' && digits.all Char.isDigit && digits.getLast?.any isNonzeroDigit

/-- `^(?:0|[1-9][0-9]*)(?:\.[0-9]*[1-9])?$` -/
def canonicalDecimal (text : String) : Bool :=
  let whole := wholePart text
  (whole = ['0'] || whole.head?.any isNonzeroDigit && whole.all Char.isDigit)
    && canonicalFraction (afterWhole text)

/-- `Decimal(text)` of a canonical text. -/
def decimalValue (text : String) : ℚ :=
  let fraction := (afterWhole text).tail
  Nat.ofDigitChars 10 (wholePart text) 0 + Nat.ofDigitChars 10 fraction 0 / 10 ^ fraction.length

section Digits

variable {places n : ℕ}

theorem isDigit_of_mem_toDigits {c : Char} (mem : c ∈ Nat.toDigits 10 n) : c.isDigit = true :=
  Nat.isDigit_of_mem_toDigits (by omega) (by omega) mem

theorem padded_value : Nat.ofDigitChars 10 (padded places n) 0 = n := by
  rw [padded, Nat.ofDigitChars_append, Nat.ofDigitChars_replicate_zero, Nat.mul_zero,
    Nat.ofDigitChars_ten_toDigits]

theorem padded_length (pos : 0 < places) (fits : n < 10 ^ places) : (padded places n).length = places := by
  have short : (Nat.toDigits 10 n).length ≤ places :=
    (Nat.length_toDigits_le_iff (by omega) pos).2 fits
  rw [padded, List.length_append, List.length_replicate]
  omega

theorem isDigit_of_mem_padded {c : Char} (mem : c ∈ padded places n) : c.isDigit = true := by
  rcases List.mem_append.1 mem with zero | digit
  · rw [List.eq_of_mem_replicate zero]
    decide
  · exact isDigit_of_mem_toDigits digit

/-- Zeros at the end are a power of ten. -/
theorem rdropWhile_zero (cs : List Char) :
    ∃ k, (cs.rdropWhile (· = '0')).length + k = cs.length ∧
      Nat.ofDigitChars 10 (cs.rdropWhile (· = '0')) 0 * 10 ^ k = Nat.ofDigitChars 10 cs 0 := by
  have zeros : ∀ c ∈ cs.rtakeWhile (· = '0'), c = '0' := fun c mem => by
    simpa using List.mem_rtakeWhile_imp mem
  have split : cs.rdropWhile (· = '0') ++ List.replicate (cs.rtakeWhile (· = '0')).length '0' = cs := by
    rw [← List.eq_replicate_of_mem zeros]
    exact List.rdropWhile_append_rtakeWhile
  refine ⟨(cs.rtakeWhile (· = '0')).length, ?_, ?_⟩
  · have lengths := congrArg List.length split
    simpa using lengths
  · have values := congrArg (Nat.ofDigitChars 10 · 0) split
    rw [← values, Nat.ofDigitChars_append, Nat.ofDigitChars_replicate_zero, Nat.mul_comm]

/-- A positive number does not begin with a zero. -/
theorem toDigits_head (pos : 0 < n) : (Nat.toDigits 10 n).head?.any isNonzeroDigit = true := by
  induction n using Nat.base_induction 10 (by omega) with
  | single m small =>
    rw [Nat.toDigits_of_lt_base small]
    interval_cases m <;> decide
  | digit m k small more ih =>
    rw [← Nat.toDigits_append_toDigits (by omega) more small, List.head?_append]
    cases first : (Nat.toDigits 10 m).head? with
    | none => exact absurd (List.head?_eq_none_iff.1 first) Nat.toDigits_ne_nil
    | some c =>
      have digit := ih more
      rw [first] at digit
      exact digit

end Digits

section Texts

variable {places units : ℕ}

theorem fractionText_head {fraction : ℕ} : ∀ c ∈ (fractionText places fraction).head?, c = '.' := by
  intro c mem
  unfold fractionText at mem
  split at mem
  · cases mem
  · cases mem
    rfl

theorem scaledText_parts : wholePart (scaledText places units) = Nat.toDigits 10 (units / 10 ^ places) ∧
    afterWhole (scaledText places units) = fractionText places (units % 10 ^ places) := by
  have digits : ∀ c ∈ Nat.toDigits 10 (units / 10 ^ places), decide (c ≠ '.') = true := by
    intro c mem
    rw [decide_eq_true_eq]
    rintro rfl
    exact absurd (isDigit_of_mem_toDigits mem) (by decide)
  unfold wholePart afterWhole scaledText
  rw [String.toList_ofList, List.takeWhile_append_of_pos digits, List.dropWhile_append_of_pos digits]
  have head := @fractionText_head places (units % 10 ^ places)
  cases text : fractionText places (units % 10 ^ places) with
  | nil => simp
  | cons point rest =>
    rw [text] at head
    cases head point rfl
    simp

theorem canonicalFraction_fractionText {fraction : ℕ} :
    canonicalFraction (fractionText places fraction) = true := by
  unfold fractionText
  split
  · rfl
  next some =>
    have nonempty : (padded places fraction).rdropWhile (· = '0') ≠ [] := by
      intro empty
      obtain ⟨k, -, value⟩ := rdropWhile_zero (padded places fraction)
      rw [empty, padded_value] at value
      simp at value
      omega
    have digits : ∀ c ∈ (padded places fraction).rdropWhile (· = '0'), c.isDigit = true :=
      fun c mem => isDigit_of_mem_padded ((List.rdropWhile_prefix (· = '0') _).subset mem)
    have last := List.rdropWhile_last_not (· = '0') _ nonempty
    have lastDigit := digits _ (List.getLast_mem nonempty)
    simp only [canonicalFraction, decide_true, Bool.true_and, Bool.and_eq_true, List.all_eq_true]
    refine ⟨digits, ?_⟩
    rw [List.getLast?_eq_getLast_of_ne_nil nonempty]
    simpa [isNonzeroDigit, lastDigit] using last

/-- The text of every number is canonical. -/
theorem canonicalDecimal_scaledText : canonicalDecimal (scaledText places units) = true := by
  obtain ⟨whole, rest⟩ := @scaledText_parts places units
  simp only [canonicalDecimal, whole, rest, canonicalFraction_fractionText, Bool.and_true]
  rcases Nat.eq_zero_or_pos (units / 10 ^ places) with zero | pos
  · rw [zero, Nat.toDigits_zero]
    rfl
  · have digits : (Nat.toDigits 10 (units / 10 ^ places)).all Char.isDigit = true :=
      List.all_eq_true.2 fun c mem => isDigit_of_mem_toDigits mem
    rw [toDigits_head pos, digits]
    simp

/-- Its value is the number of units. -/
theorem decimalValue_scaledText : decimalValue (scaledText places units) * 10 ^ places = units := by
  obtain ⟨whole, rest⟩ := @scaledText_parts places units
  have split : ((units / 10 ^ places : ℕ) : ℚ) * 10 ^ places + (units % 10 ^ places : ℕ) = units := by
    exact_mod_cast Nat.div_add_mod' units (10 ^ places)
  simp only [decimalValue, whole, rest, Nat.ofDigitChars_ten_toDigits, add_mul]
  rw [← split]
  congr 1
  unfold fractionText
  split
  next zero => simp [zero]
  next some =>
    have fits : units % 10 ^ places < 10 ^ places := Nat.mod_lt _ (by positivity)
    have pos : 0 < places := by
      rcases Nat.eq_zero_or_pos places with rfl | pos
      · omega
      · exact pos
    obtain ⟨k, length, value⟩ := rdropWhile_zero (padded places (units % 10 ^ places))
    rw [padded_length pos fits] at length
    rw [padded_value] at value
    rw [List.tail_cons]
    generalize (padded places (units % 10 ^ places)).rdropWhile (· = '0') = digits at length value ⊢
    calc (Nat.ofDigitChars 10 digits 0 : ℚ) / 10 ^ digits.length * 10 ^ places
        = Nat.ofDigitChars 10 digits 0 / 10 ^ digits.length * 10 ^ (digits.length + k) := by
          rw [length]
      _ = Nat.ofDigitChars 10 digits 0 * 10 ^ k := by
          rw [pow_add]
          field_simp
      _ = (units % 10 ^ places : ℕ) := by exact_mod_cast value

/-- Texts of different numbers differ. -/
theorem scaledText_injective : Function.Injective (scaledText places) := by
  intro a b same
  have values : (a : ℚ) = b := by
    rw [← @decimalValue_scaledText places a, same, decimalValue_scaledText]
  exact_mod_cast values

end Texts

/-- A finite `decimal.Decimal`: its sign, which a zero has too, its digits and its exponent. -/
structure Decimal where
  negative : Bool
  coefficient : ℕ
  exponent : ℤ
  deriving DecidableEq

namespace Decimal

/-- The number without its sign. -/
def magnitude (d : Decimal) : ℚ := d.coefficient * 10 ^ d.exponent

def value (d : Decimal) : ℚ := if d.negative then -d.magnitude else d.magnitude

/-- The digits of `format(value, "f")`, all of them, with a point where some are a fraction. -/
def digits (d : Decimal) : List Char :=
  match d.exponent with
  | .ofNat zeros =>
    if d.coefficient = 0 then ['0'] else Nat.toDigits 10 d.coefficient ++ List.replicate zeros '0'
  | .negSucc n =>
    Nat.toDigits 10 (d.coefficient / 10 ^ (n + 1)) ++
      '.' :: padded (n + 1) (d.coefficient % 10 ^ (n + 1))

/-- `format(value, "f")` -/
def text (d : Decimal) : String :=
  String.ofList (if d.negative then '-' :: d.digits else d.digits)

end Decimal

/-- The number of a plain decimal text, as a numeric column reads it. -/
def numericOf (text : String) : ℚ :=
  match text.toList with
  | '-' :: rest => -decimalValue (String.ofList rest)
  | _ => decimalValue text

section Numbers

variable {d : Decimal}

end Numbers

end Python
