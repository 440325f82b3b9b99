import Mathlib.Data.Nat.Notation

/-! Base64 with the standard alphabet and padding: three bytes are four characters, and one or
two bytes left over are padded to four. Decoding is strict. -/

namespace Python.Base64

def alphabet : List Char :=
  "ABCDEFGHIJKLMNOPQRSTUVWXYZabcdefghijklmnopqrstuvwxyz0123456789+/".toList

/-- The character of a value below 64. -/
def digit (n : ℕ) : Char := alphabet.getD n '='

/-- The value of a character. -/
def value (c : Char) : Option ℕ := alphabet.idxOf? c

/-- `base64.b64encode` -/
def encode : List UInt8 → List Char
  | [] => []
  | [a] => [digit (a.toNat / 4), digit (a.toNat % 4 * 16), '=', '=']
  | [a, b] =>
    [digit (a.toNat / 4), digit (a.toNat % 4 * 16 + b.toNat / 16), digit (b.toNat % 16 * 4), '=']
  | a :: b :: c :: rest =>
    digit (a.toNat / 4) :: digit (a.toNat % 4 * 16 + b.toNat / 16)
      :: digit (b.toNat % 16 * 4 + c.toNat / 64) :: digit (c.toNat % 64) :: encode rest

/-- `base64.b64decode(text, validate=True)`; the bits under the padding are ignored. What follows a
full quad is not padding, as since CPython 3.13; 3.11 and 3.12 let one `=` pass there. -/
def decode : List Char → Option (List UInt8)
  | [] => some []
  | [w, x, '=', '='] => do
    let w ← value w
    let x ← value x
    return [UInt8.ofNat (w * 4 + x / 16)]
  | [w, x, y, '='] => do
    let w ← value w
    let x ← value x
    let y ← value y
    return [UInt8.ofNat (w * 4 + x / 16), UInt8.ofNat (x % 16 * 16 + y / 4)]
  | w :: x :: y :: z :: rest => do
    let w ← value w
    let x ← value x
    let y ← value y
    let z ← value z
    let bytes ← decode rest
    return UInt8.ofNat (w * 4 + x / 16) :: UInt8.ofNat (x % 16 * 16 + y / 4)
      :: UInt8.ofNat (y % 4 * 64 + z) :: bytes
  | _ => none

theorem value_digit {n : ℕ} (lt : n < 64) : value (digit n) = some n := by
  have all : ∀ m : Fin 64, value (digit m) = some m.val := by decide +kernel
  exact all ⟨n, lt⟩

theorem digit_ne_pad {n : ℕ} (lt : n < 64) : digit n ≠ '=' := by
  have all : ∀ m : Fin 64, digit m ≠ '=' := by decide +kernel
  exact all ⟨n, lt⟩

theorem ofNat_eq {n : ℕ} {a : UInt8} (h : n = a.toNat) : UInt8.ofNat n = a := by
  rw [h, UInt8.ofNat_toNat]

/-- Four characters stand for each three bytes, and for what is left over. -/
theorem length_encode (bytes : List UInt8) :
    (encode bytes).length = 4 * ((bytes.length + 2) / 3) := by
  induction bytes using encode.induct with
  | case1 => rfl
  | case2 a => simp [encode]
  | case3 a b => simp [encode]
  | case4 a b c rest ih =>
    simp only [encode, List.length_cons, ih]
    omega

theorem decode_encode (bytes : List UInt8) : decode (encode bytes) = some bytes := by
  induction bytes using encode.induct with
  | case1 => rfl
  | case2 a =>
    have := a.toNat_lt
    rw [encode, decode, value_digit (by omega), value_digit (by omega)]
    simp only [Option.bind_eq_bind, Option.bind_some, Option.pure_def]
    rw [ofNat_eq (a := a) (by omega)]
  | case3 a b =>
    have := a.toNat_lt
    have := b.toNat_lt
    rw [encode, decode, value_digit (by omega), value_digit (by omega), value_digit (by omega)]
    · simp only [Option.bind_eq_bind, Option.bind_some, Option.pure_def]
      rw [ofNat_eq (a := a) (by omega), ofNat_eq (a := b) (by omega)]
    · exact fun h => digit_ne_pad (by omega) h
  | case4 a b c rest ih =>
    have := a.toNat_lt
    have := b.toNat_lt
    have := c.toNat_lt
    have unpadded : digit (c.toNat % 64) ≠ '=' := digit_ne_pad (by omega)
    rw [encode, decode, value_digit (by omega), value_digit (by omega), value_digit (by omega),
      value_digit (by omega), ih]
    · simp only [Option.bind_eq_bind, Option.bind_some, Option.pure_def]
      rw [ofNat_eq (a := a) (by omega), ofNat_eq (a := b) (by omega), ofNat_eq (a := c) (by omega)]
    · exact fun _ h _ => unpadded h
    · exact fun h _ => unpadded h

end Python.Base64
