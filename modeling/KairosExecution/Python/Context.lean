import Mathlib

/-! Decimal arithmetic in a context of so many significant digits. Every operation gives
the exact result rounded to the digits of the context, the even neighbour of two that are
as near. A result that has no more digits is left alone, so it is enough to count the
decimals and the size of a number; and where the numerator of a quotient has fewer digits
than the context, rounding the quotient does not move it across an integer. -/

namespace Python

/-- `ROUND_HALF_EVEN` to an integer -/
def halfEven (x : ℚ) : ℤ :=
  let below := Rat.floor x
  if x - below < 1 / 2 then below
  else if 1 / 2 < x - below then below + 1
  else if below % 2 = 0 then below else below + 1

/-- `Context(prec=prec)` -/
structure Context where
  prec : ℕ
  prec_pos : 0 < prec

/-- `getcontext()`, as it is where nothing has set it -/
def Context.default : Context := ⟨28, by decide⟩

/-- The number has at most so many decimals. -/
def Decimals (k : ℕ) (x : ℚ) : Prop := ∃ n : ℤ, x = n / 10 ^ k

section Decimals

variable {k l m : ℕ} {x y : ℚ}

theorem Decimals.ofInt (n : ℤ) : Decimals k n := ⟨n * 10 ^ k, by push_cast; field_simp⟩

theorem Decimals.zero : Decimals k 0 := ⟨0, by simp⟩

theorem Decimals.mono (own : Decimals k x) (le : k ≤ l) : Decimals l x := by
  obtain ⟨n, rfl⟩ := own
  obtain ⟨j, rfl⟩ := Nat.exists_eq_add_of_le le
  refine ⟨n * 10 ^ j, ?_⟩
  push_cast
  rw [pow_add]
  field_simp

theorem Decimals.neg (own : Decimals k x) : Decimals k (-x) := by
  obtain ⟨n, rfl⟩ := own
  exact ⟨-n, by push_cast; ring⟩

theorem Decimals.add (left : Decimals k x) (right : Decimals k y) : Decimals k (x + y) := by
  obtain ⟨n, rfl⟩ := left
  obtain ⟨m, rfl⟩ := right
  exact ⟨n + m, by push_cast; ring⟩

theorem Decimals.sub (left : Decimals k x) (right : Decimals k y) : Decimals k (x - y) := by
  rw [sub_eq_add_neg]
  exact left.add right.neg

theorem Decimals.mul (left : Decimals k x) (right : Decimals l y) : Decimals (k + l) (x * y) := by
  obtain ⟨n, rfl⟩ := left
  obtain ⟨m, rfl⟩ := right
  exact ⟨n * m, by push_cast; rw [pow_add]; field_simp⟩

theorem Decimals.intMul (n : ℤ) (own : Decimals k x) : Decimals k (n * x) := by
  have scaled := (Decimals.ofInt (k := 0) n).mul own
  rwa [Nat.zero_add] at scaled

/-- A divisor of a power of ten adds as many decimals. -/
theorem Decimals.div (own : Decimals k x) {d e : ℕ} (j : ℕ) (power : d * e = 10 ^ j) :
    Decimals (k + j) (x / d) := by
  obtain ⟨n, rfl⟩ := own
  have cast : (d : ℚ) * e = 10 ^ j := by exact_mod_cast power
  have some : (d : ℚ) ≠ 0 := by
    intro zero
    rw [zero, zero_mul] at cast
    exact pow_ne_zero j (by norm_num) cast.symm
  refine ⟨n * e, ?_⟩
  push_cast
  rw [pow_add, ← cast]
  have ten : (10 : ℚ) ^ k ≠ 0 := pow_ne_zero k (by norm_num)
  have rest : (e : ℚ) ≠ 0 := by
    intro zero
    rw [zero, mul_zero] at cast
    exact pow_ne_zero j (by norm_num) cast.symm
  field_simp

theorem Decimals.min (left : Decimals k x) (right : Decimals k y) : Decimals k (min x y) := by
  rcases min_choice x y with same | same
  · rwa [same]
  · rwa [same]

theorem Decimals.max (left : Decimals k x) (right : Decimals k y) : Decimals k (max x y) := by
  rcases max_choice x y with same | same
  · rwa [same]
  · rwa [same]

theorem Decimals.sum {xs : List ℚ} (each : ∀ x ∈ xs, Decimals k x) : Decimals k xs.sum := by
  induction xs with
  | nil => exact .zero
  | cons x xs ih =>
    rw [List.sum_cons]
    exact (each x List.mem_cons_self).add (ih fun y mem => each y (List.mem_cons_of_mem _ mem))

end Decimals

section HalfEven

theorem halfEven_intCast (n : ℤ) : halfEven n = n := by
  unfold halfEven
  simp

/-- Rounding moves by a half at most. -/
theorem abs_halfEven_sub_le (x : ℚ) : |(halfEven x : ℚ) - x| ≤ 1 / 2 := by
  have low := Rat.floor_le x
  have high := Rat.lt_floor_add_one x
  push_cast at high
  unfold halfEven
  dsimp only
  rw [abs_le]
  split_ifs with below above even
  · constructor <;> linarith
  · push_cast
    constructor <;> linarith
  · constructor <;> linarith
  · push_cast
    constructor <;> linarith

theorem halfEven_nonneg {x : ℚ} (nonneg : 0 ≤ x) : 0 ≤ halfEven x := by
  have floor : 0 ≤ Rat.floor x := Rat.le_floor_iff.2 (by exact_mod_cast nonneg)
  unfold halfEven
  dsimp only
  split_ifs <;> omega

theorem halfEven_nonpos {x : ℚ} (nonpos : x ≤ 0) : halfEven x ≤ 0 := by
  have near := (abs_le.1 (abs_halfEven_sub_le x)).2
  have below : (halfEven x : ℚ) < 1 := by linarith
  have cast : halfEven x < 1 := by exact_mod_cast below
  omega

/-- Only an integer within a half is rounded to, and of two that are as near the even one. -/
theorem halfEven_eq {x : ℚ} {n : ℤ} (near : |(n : ℚ) - x| ≤ 1 / 2) (even : |(n : ℚ) - x| = 1 / 2 → n % 2 = 0) :
    halfEven x = n := by
  have low := Rat.floor_le x
  have high := Rat.lt_floor_add_one x
  push_cast at high
  unfold halfEven
  dsimp only
  generalize Rat.floor x = below at low high ⊢
  obtain ⟨left, right⟩ := abs_le.1 near
  -- the integer is one of the two around the number
  have least : below ≤ n := by
    have cast : (below : ℚ) < n + 1 := by linarith
    have less : below < n + 1 := by exact_mod_cast cast
    omega
  have most : n ≤ below + 1 := by
    have cast : (n : ℚ) < below + 2 := by linarith
    have less : n < below + 2 := by exact_mod_cast cast
    omega
  have tie : x - below = 1 / 2 → n % 2 = 0 := by
    intro half
    refine even ?_
    rcases (show n = below ∨ n = below + 1 by omega) with rfl | rfl
    · rw [abs_sub_comm, half]
      norm_num
    · push_cast
      rw [show (below : ℚ) + 1 - x = 1 - (x - below) by ring, half]
      norm_num
  split_ifs with under above floor
  · rcases (show n = below ∨ n = below + 1 by omega) with rfl | rfl
    · rfl
    · push_cast at left right
      linarith
  · rcases (show n = below ∨ n = below + 1 by omega) with rfl | rfl
    · linarith
    · rfl
  · have parity := tie (le_antisymm (not_lt.1 above) (not_lt.1 under))
    omega
  · have parity := tie (le_antisymm (not_lt.1 above) (not_lt.1 under))
    omega

/-- A tie is rounded to the even neighbour. -/
theorem halfEven_even {x : ℚ} (tie : |(halfEven x : ℚ) - x| = 1 / 2) : halfEven x % 2 = 0 := by
  have low := Rat.floor_le x
  have high := Rat.lt_floor_add_one x
  push_cast at high
  unfold halfEven at tie ⊢
  dsimp only at tie ⊢
  generalize Rat.floor x = below at tie low high ⊢
  split_ifs at tie ⊢ with under above floor
  · rw [abs_sub_comm, abs_of_nonneg (by linarith)] at tie
    linarith
  · push_cast at tie
    rw [abs_of_nonneg (by linarith)] at tie
    linarith
  · exact floor
  · omega

theorem halfEven_mono {x y : ℚ} (le : x ≤ y) : halfEven x ≤ halfEven y := by
  have left := abs_le.1 (abs_halfEven_sub_le x)
  have right := abs_le.1 (abs_halfEven_sub_le y)
  by_contra less
  have cast : (halfEven y : ℚ) + 1 ≤ halfEven x := by
    exact_mod_cast Int.add_one_le_of_lt (not_le.1 less)
  -- both are halfway, so they are one number
  have same : x = y := by linarith
  rw [same] at less
  exact less le_rfl

theorem halfEven_neg (x : ℚ) : halfEven (-x) = -halfEven x := by
  have same : |((-halfEven x : ℤ) : ℚ) - -x| = |(halfEven x : ℚ) - x| := by
    rw [← abs_neg]
    push_cast
    congr 1
    ring
  refine halfEven_eq (same ▸ abs_halfEven_sub_le x) fun tie => ?_
  have even := halfEven_even (same ▸ tie)
  omega

end HalfEven

namespace Context

variable (c : Context) {x y : ℚ}

/-- The unit of the last digit that the context keeps. -/
def ulp (x : ℚ) : ℚ := 10 ^ (Int.log 10 |x| - c.prec + 1)

/-- The result of an operation whose exact result is `x`. -/
def round (x : ℚ) : ℚ := halfEven (x / c.ulp x) * c.ulp x

/-- `sum(xs, Decimal(0))` -/
def sum (xs : List ℚ) : ℚ := xs.foldl (fun sum x => c.round (sum + x)) 0

theorem ulp_pos : 0 < c.ulp x := zpow_pos (by norm_num) _

@[simp] theorem round_zero : c.round 0 = 0 := by
  have whole := halfEven_intCast 0
  rw [Int.cast_zero] at whole
  rw [round, zero_div, whole, Int.cast_zero, zero_mul]

theorem round_nonneg (nonneg : 0 ≤ x) : 0 ≤ c.round x := by
  have unit := c.ulp_pos (x := x)
  have whole := halfEven_nonneg (div_nonneg nonneg unit.le)
  exact mul_nonneg (by exact_mod_cast whole) unit.le

theorem round_nonpos (nonpos : x ≤ 0) : c.round x ≤ 0 := by
  have unit := c.ulp_pos (x := x)
  have whole := halfEven_nonpos (div_nonpos_of_nonpos_of_nonneg nonpos unit.le)
  exact mul_nonpos_of_nonpos_of_nonneg (by exact_mod_cast whole) unit.le

/-- Rounding moves by half a unit of the last digit at most. -/
theorem abs_round_sub_le : |c.round x - x| ≤ c.ulp x / 2 := by
  have unit := c.ulp_pos (x := x)
  have split : c.round x - x = (halfEven (x / c.ulp x) - x / c.ulp x) * c.ulp x := by
    rw [round, sub_mul, div_mul_cancel₀ _ unit.ne']
  rw [split, abs_mul, abs_of_pos unit]
  have near := mul_le_mul_of_nonneg_right (abs_halfEven_sub_le (x / c.ulp x)) unit.le
  linarith

/-- The last unit is small against the number. -/
theorem ulp_le (some : x ≠ 0) : c.ulp x * 10 ^ (c.prec - 1) ≤ |x| := by
  have lead := Int.zpow_log_le_self (R := ℚ) (b := 10) (by norm_num) (abs_pos.2 some)
  have exponent : Int.log 10 |x| - (c.prec : ℤ) + 1 + ((c.prec - 1 : ℕ) : ℤ) = Int.log 10 |x| := by
    have positive := c.prec_pos
    omega
  rw [ulp, ← zpow_natCast, ← zpow_add₀ (by norm_num), exponent]
  exact_mod_cast lead

/-- A whole number of units of some power of ten, with no more digits than the context. -/
theorem round_of_digits (n : ℤ) (e : ℤ) (fits : |n| < 10 ^ c.prec) :
    c.round (n * 10 ^ e) = n * 10 ^ e := by
  by_cases zero : n = 0
  · simp [zero]
  have some : (n : ℚ) * 10 ^ e ≠ 0 :=
    mul_ne_zero (by exact_mod_cast zero) (zpow_ne_zero _ (by norm_num))
  have small : |(n : ℚ) * 10 ^ e| < 10 ^ ((c.prec : ℤ) + e) := by
    rw [abs_mul, abs_of_pos (zpow_pos (by norm_num : (0 : ℚ) < 10) e), zpow_add₀ (by norm_num)]
    refine mul_lt_mul_of_pos_right ?_ (zpow_pos (by norm_num) e)
    rw [zpow_natCast]
    exact_mod_cast fits
  have lead : Int.log 10 |(n : ℚ) * 10 ^ e| < (c.prec : ℤ) + e := by
    refine (Int.lt_zpow_iff_log_lt (by norm_num) (abs_pos.2 some)).1 ?_
    exact_mod_cast small
  -- the last unit divides the power of ten
  obtain ⟨j, exponent⟩ := Int.eq_ofNat_of_zero_le
    (show 0 ≤ e - (Int.log 10 |(n : ℚ) * 10 ^ e| - c.prec + 1) by omega)
  have unit := c.ulp_pos (x := n * 10 ^ e)
  have whole : (n : ℚ) * 10 ^ e / c.ulp (n * 10 ^ e) = ((n * 10 ^ j : ℤ) : ℚ) := by
    rw [div_eq_iff unit.ne', ulp]
    push_cast
    rw [mul_assoc, ← zpow_natCast, ← zpow_add₀ (by norm_num)]
    congr 2
    omega
  rw [round, whole, halfEven_intCast, ← whole, div_mul_cancel₀ _ unit.ne']

/-- The number has no more significant digits than the context. -/
def Holds (x : ℚ) : Prop := ∃ n e : ℤ, |n| < 10 ^ c.prec ∧ x = n * 10 ^ e

theorem ulp_neg : c.ulp (-x) = c.ulp x := by
  unfold ulp
  rw [abs_neg]

theorem round_neg : c.round (-x) = -c.round x := by
  unfold round
  rw [ulp_neg, neg_div, halfEven_neg]
  push_cast
  ring

theorem abs_lt_ulp : |x| < c.ulp x * 10 ^ c.prec := by
  have exponent : Int.log 10 |x| - (c.prec : ℤ) + 1 + (c.prec : ℤ) = Int.log 10 |x| + 1 := by ring
  have size := Int.lt_zpow_succ_log_self (R := ℚ) (b := 10) (by norm_num) |x|
  rw [ulp, ← zpow_natCast, ← zpow_add₀ (by norm_num), exponent]
  exact_mod_cast size

/-- A number stays on its side of the multiples of its last unit. -/
theorem round_le_units {n : ℤ} (le : x ≤ n * c.ulp x) : c.round x ≤ n * c.ulp x := by
  have unit := c.ulp_pos (x := x)
  have whole : halfEven (x / c.ulp x) ≤ n := by
    rw [← halfEven_intCast n]
    exact halfEven_mono ((div_le_iff₀ unit).2 le)
  exact mul_le_mul_of_nonneg_right (by exact_mod_cast whole) unit.le

theorem units_le_round {n : ℤ} (le : n * c.ulp x ≤ x) : n * c.ulp x ≤ c.round x := by
  have unit := c.ulp_pos (x := x)
  have whole : n ≤ halfEven (x / c.ulp x) := by
    rw [← halfEven_intCast n]
    exact halfEven_mono ((le_div_iff₀ unit).2 le)
  exact mul_le_mul_of_nonneg_right (by exact_mod_cast whole) unit.le

/-- What an operation gives has the digits of the context. -/
theorem round_holds : c.Holds (c.round x) := by
  have unit := c.ulp_pos (x := x)
  have size := abs_lt.1 (c.abs_lt_ulp (x := x))
  have most : halfEven (x / c.ulp x) ≤ 10 ^ c.prec := by
    rw [← halfEven_intCast (10 ^ c.prec)]
    refine halfEven_mono ((div_le_iff₀ unit).2 ?_)
    push_cast
    linarith [size.2]
  have least : -10 ^ c.prec ≤ halfEven (x / c.ulp x) := by
    rw [← halfEven_intCast (-10 ^ c.prec)]
    refine halfEven_mono ((le_div_iff₀ unit).2 ?_)
    push_cast
    linarith [size.1]
  have one : (1 : ℤ) < 10 ^ c.prec := one_lt_pow₀ (by norm_num) c.prec_pos.ne'
  by_cases carry : |halfEven (x / c.ulp x)| = 10 ^ c.prec
  · -- the digits are all nines, and one more is carried
    have place : (10 : ℚ) ^ (Int.log 10 |x| + 1) = 10 ^ c.prec * c.ulp x := by
      rw [ulp, ← zpow_natCast, ← zpow_add₀ (by norm_num)]
      congr 1
      ring
    rcases (abs_eq (by positivity)).1 carry with plus | minus
    · refine ⟨1, Int.log 10 |x| + 1, by simpa using one, ?_⟩
      rw [round, plus, place]
      push_cast
      ring
    · refine ⟨-1, Int.log 10 |x| + 1, by simpa using one, ?_⟩
      rw [round, minus, place]
      push_cast
      ring
  · exact ⟨halfEven (x / c.ulp x), _, lt_of_le_of_ne (abs_le.2 ⟨least, most⟩) carry, rfl⟩

theorem round_eq_self_iff : c.round x = x ↔ c.Holds x := by
  constructor
  · intro same
    rw [← same]
    exact c.round_holds
  · rintro ⟨n, e, fits, rfl⟩
    exact c.round_of_digits n e fits

@[simp] theorem round_round : c.round (c.round x) = c.round x := c.round_eq_self_iff.2 c.round_holds

/-- A power of ten more or less does not change the digits. -/
theorem Holds.scale (holds : c.Holds x) (e : ℤ) : c.Holds (x * 10 ^ e) := by
  obtain ⟨n, f, fits, rfl⟩ := holds
  exact ⟨n, f + e, fits, by rw [zpow_add₀ (by norm_num), mul_assoc]⟩

/-- Rounding keeps the order: where the first digits of two numbers have one place their last
units are the same, and else a power of ten lies between them. -/
theorem round_mono_pos (positive : 0 < x) (le : x ≤ y) : c.round x ≤ c.round y := by
  have later : 0 < y := positive.trans_le le
  have leads : Int.log 10 |x| ≤ Int.log 10 |y| := by
    rw [abs_of_pos positive, abs_of_pos later]
    exact Int.log_mono_right positive le
  rcases leads.eq_or_lt with same | less
  · have units : c.ulp x = c.ulp y := by rw [ulp, ulp, same]
    have unit := c.ulp_pos (x := y)
    have whole := halfEven_mono (div_le_div_of_nonneg_right le unit.le)
    rw [round, round, units]
    exact mul_le_mul_of_nonneg_right (by exact_mod_cast whole) unit.le
  · have top : x ≤ ((10 ^ c.prec : ℤ) : ℚ) * c.ulp x := by
      have size := (abs_lt.1 (c.abs_lt_ulp (x := x))).2
      push_cast
      linarith
    have bottom : ((10 ^ (c.prec - 1) : ℤ) : ℚ) * c.ulp y ≤ y := by
      have lead := c.ulp_le later.ne'
      rw [abs_of_pos later] at lead
      push_cast
      linarith
    have between : ((10 ^ c.prec : ℤ) : ℚ) * c.ulp x ≤ ((10 ^ (c.prec - 1) : ℤ) : ℚ) * c.ulp y := by
      have some := c.prec_pos
      push_cast
      rw [ulp, ulp, ← zpow_natCast, ← zpow_natCast, ← zpow_add₀ (by norm_num),
        ← zpow_add₀ (by norm_num)]
      refine zpow_le_zpow_right₀ (by norm_num) ?_
      omega
    exact (c.round_le_units top).trans (between.trans (c.units_le_round bottom))

theorem round_mono (le : x ≤ y) : c.round x ≤ c.round y := by
  rcases lt_trichotomy x 0 with negative | rfl | positive
  · rcases lt_or_ge y 0 with below | above
    · have mirrored := c.round_mono_pos (neg_pos.2 below) (neg_le_neg le)
      rw [c.round_neg, c.round_neg] at mirrored
      exact neg_le_neg_iff.1 mirrored
    · exact (c.round_nonpos negative.le).trans (c.round_nonneg above)
  · rw [c.round_zero]
    exact c.round_nonneg le
  · exact c.round_mono_pos positive le

/-- A number of so many decimals and digits before the point is not rounded. -/
theorem round_of_decimals {k m : ℕ} (own : Decimals k x) (small : |x| < 10 ^ m)
    (fits : m + k ≤ c.prec) : c.round x = x := by
  obtain ⟨n, rfl⟩ := own
  have power : (0 : ℚ) < 10 ^ k := by positivity
  rw [abs_div, abs_of_pos power, div_lt_iff₀ power, ← pow_add] at small
  have cast : |n| < 10 ^ (m + k) := by exact_mod_cast small
  have digits : |n| < 10 ^ c.prec := cast.trans_le (pow_le_pow_right₀ (by norm_num) fits)
  have exact := c.round_of_digits n (-k) digits
  rwa [zpow_neg, zpow_natCast, ← div_eq_mul_inv] at exact

/-- A sum of amounts that have so many decimals, and together so many digits. -/
theorem sum_of_decimals {k m : ℕ} {xs : List ℚ} (each : ∀ x ∈ xs, 0 ≤ x ∧ Decimals k x)
    (small : xs.sum < 10 ^ m) (fits : m + k ≤ c.prec) : c.sum xs = xs.sum := by
  have run : ∀ start : ℚ, 0 ≤ start → Decimals k start → start + xs.sum < 10 ^ m →
      xs.foldl (fun sum x => c.round (sum + x)) start = start + xs.sum := by
    clear small
    induction xs with
    | nil => exact fun start _ _ _ => by simp
    | cons x xs ih =>
      intro start positive own small
      obtain ⟨here, decimals⟩ := each x List.mem_cons_self
      have later := fun y mem => each y (List.mem_cons_of_mem x mem)
      have rest : 0 ≤ xs.sum := List.sum_nonneg fun y mem => (later y mem).1
      rw [List.sum_cons, ← add_assoc] at small
      have exact : c.round (start + x) = start + x := by
        refine c.round_of_decimals (own.add decimals) ?_ fits
        rw [abs_of_nonneg (by linarith)]
        linarith
      rw [List.foldl_cons, exact, ih later _ (by linarith) (own.add decimals) small, List.sum_cons,
        add_assoc]
  have whole := run 0 (le_refl 0) .zero (by rwa [zero_add])
  rwa [zero_add] at whole

section Quotient

variable {n : ℤ} {d : ℕ}

/-- A quotient that is an integer is not rounded. -/
theorem round_of_whole (positive : 0 < d) (fits : |n| ≤ 10 ^ (c.prec - 1))
    (whole : (n / d : ℚ) = Rat.floor (n / d)) : c.round (n / d) = n / d := by
  rw [whole]
  refine (c.round_of_decimals (.ofInt (k := 0) _) (m := c.prec) ?_ le_rfl)
  rw [← whole, abs_div, Nat.abs_cast]
  have one : (1 : ℚ) ≤ d := by exact_mod_cast positive
  have size : |(n : ℚ)| ≤ 10 ^ (c.prec - 1) := by exact_mod_cast fits
  calc |(n : ℚ)| / d ≤ |(n : ℚ)| := div_le_self (abs_nonneg _) one
    _ ≤ 10 ^ (c.prec - 1) := size
    _ < 10 ^ c.prec := pow_lt_pow_right₀ (by norm_num) (Nat.sub_lt c.prec_pos one_pos)

/-- A quotient that is no integer stays between the two integers around it. -/
theorem round_between (positive : 0 < d) (fits : |n| ≤ 10 ^ (c.prec - 1))
    (broken : (n / d : ℚ) ≠ Rat.floor (n / d)) :
    (Rat.floor (n / d : ℚ) : ℚ) < c.round (n / d) ∧
      c.round (n / d) < ((Rat.floor (n / d : ℚ) + 1 : ℤ) : ℚ) := by
  have den : (0 : ℚ) < d := by exact_mod_cast positive
  have keep : (0 : ℚ) < 10 ^ (c.prec - 1) := by positivity
  generalize floor : Rat.floor (n / d : ℚ) = below at broken ⊢
  have low : (below : ℚ) ≤ n / d := floor ▸ Rat.floor_le _
  have high : (n / d : ℚ) < ((below + 1 : ℤ) : ℚ) := floor ▸ Rat.lt_floor_add_one _
  rw [le_div_iff₀ den] at low
  rw [div_lt_iff₀ den] at high
  have apart : (below : ℚ) * d ≠ n := fun same => broken ((div_eq_iff den.ne').2 same.symm)
  -- the numerator is at least one away from the multiples of the denominator
  have above : (below : ℚ) * d + 1 ≤ n := by
    have cast : below * d < n := by
      exact_mod_cast lt_of_le_of_ne low apart
    exact_mod_cast Int.add_one_le_of_lt cast
  have under : (n : ℚ) + 1 ≤ ((below + 1 : ℤ) : ℚ) * d := by
    have cast : n < (below + 1) * d := by exact_mod_cast high
    exact_mod_cast Int.add_one_le_of_lt cast
  have some : (n / d : ℚ) ≠ 0 := by
    intro zero
    rw [zero] at broken floor
    rw [← floor] at broken
    exact broken (by norm_num [Rat.floor_def])
  have error : |c.round (n / d) - n / d| * d < 1 := by
    have half := c.abs_round_sub_le (x := n / d)
    have unit := c.ulp_le some
    rw [abs_div, Nat.abs_cast, le_div_iff₀ den] at unit
    have size : |(n : ℚ)| ≤ 10 ^ (c.prec - 1) := by exact_mod_cast fits
    have ratio : c.ulp (n / d) * d ≤ 1 := by
      refine le_of_mul_le_mul_right ?_ keep
      rw [one_mul]
      linarith
    have scaled := mul_le_mul_of_nonneg_right half den.le
    linarith
  have value : (n / d : ℚ) * d = n := div_mul_cancel₀ _ den.ne'
  have parts := abs_lt.1 (show |(c.round (n / d) - n / d) * d| < 1 by
    rwa [abs_mul, Nat.abs_cast])
  constructor
  · refine lt_of_mul_lt_mul_right ?_ den.le
    linarith [parts.1]
  · refine lt_of_mul_lt_mul_right ?_ den.le
    linarith [parts.2]

/-- Where the numerator has fewer digits than the context, rounding a quotient does not move
it across an integer, nor onto one. -/
theorem floor_round (positive : 0 < d) (fits : |n| ≤ 10 ^ (c.prec - 1)) :
    Rat.floor (c.round (n / d)) = Rat.floor (n / d : ℚ) := by
  by_cases whole : (n / d : ℚ) = Rat.floor (n / d)
  · rw [c.round_of_whole positive fits whole]
  · obtain ⟨low, high⟩ := c.round_between positive fits whole
    have least : Rat.floor (n / d : ℚ) ≤ Rat.floor (c.round (n / d)) := Rat.le_floor_iff.2 low.le
    have most : Rat.floor (c.round (n / d)) < Rat.floor (n / d : ℚ) + 1 := Rat.floor_lt_iff.2 high
    omega

theorem ceil_round (positive : 0 < d) (fits : |n| ≤ 10 ^ (c.prec - 1)) :
    Rat.ceil (c.round (n / d)) = Rat.ceil (n / d : ℚ) := by
  by_cases whole : (n / d : ℚ) = Rat.floor (n / d)
  · rw [c.round_of_whole positive fits whole]
  · obtain ⟨low, high⟩ := c.round_between positive fits whole
    have apart : (Rat.floor (n / d : ℚ) : ℚ) < n / d :=
      lt_of_le_of_ne (Rat.floor_le _) (Ne.symm whole)
    have one : Rat.ceil (c.round (n / d)) = Rat.floor (n / d : ℚ) + 1 := by
      have least := Rat.lt_ceil_iff.2 low
      have most := Rat.ceil_le_iff.2 high.le
      omega
    have other : Rat.ceil (n / d : ℚ) = Rat.floor (n / d : ℚ) + 1 := by
      have least := Rat.lt_ceil_iff.2 apart
      have most := Rat.ceil_le_iff.2 (Rat.lt_floor_add_one (n / d)).le
      omega
    rw [one, other]

theorem whole_round (positive : 0 < d) (fits : |n| ≤ 10 ^ (c.prec - 1)) :
    c.round (n / d) = Rat.floor (c.round (n / d)) ↔ (n / d : ℚ) = Rat.floor (n / d) := by
  constructor
  · intro whole
    by_contra broken
    obtain ⟨low, -⟩ := c.round_between positive fits broken
    rw [whole, c.floor_round positive fits] at low
    exact lt_irrefl _ low
  · intro whole
    rw [c.round_of_whole positive fits whole]
    exact whole

/-- A quotient of decimals, as one of integers. -/
theorem quotient_of_decimals {k l : ℕ} (numerator : Decimals k x) (denominator : Decimals l y)
    (positive : 0 < y) (le : l ≤ k) (fits : |x| * 10 ^ k ≤ 10 ^ (c.prec - 1)) :
    ∃ (n : ℤ) (d : ℕ), 0 < d ∧ |n| ≤ 10 ^ (c.prec - 1) ∧ x / y = n / d := by
  obtain ⟨n, rfl⟩ := numerator
  obtain ⟨m, rfl⟩ := denominator.mono le
  have power : (0 : ℚ) < 10 ^ k := by positivity
  have count : 0 < m := by
    have scaled := (div_pos_iff_of_pos_right power).1 positive
    exact_mod_cast scaled
  obtain ⟨d, rfl⟩ := Int.eq_ofNat_of_zero_le count.le
  refine ⟨n, d, by omega, ?_, ?_⟩
  · rw [abs_div, abs_of_pos power, div_mul_cancel₀ _ power.ne'] at fits
    exact_mod_cast fits
  · rw [Int.cast_natCast, div_div_div_cancel_right₀ power.ne']

end Quotient

end Context

end Python
