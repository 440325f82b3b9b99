import KairosExecution.Simulation.Arithmetic
import KairosExecution.Simulation.Totality
import KairosExecution.Simulation.Grid

/-! Ninety-six digits are enough. On amounts within the bounds of their fields every
product and every sum of a walk fits the context, and the two quotients that are rounded
up or down to an integer have a numerator that does, so what the walk computes are the
exact prices, capacities and totals. Only an average price is rounded. -/

namespace KairosExecution.Simulation

open Python

namespace Arithmetic

/-- An amount, or none: at most `1e18`, with at most 18 decimals. -/
structure Amount (value : ℚ) : Prop where
  nonneg : 0 ≤ value
  le : value ≤ 10 ^ 18
  decimals : Decimals 18 value

section Fields

variable {value : ℚ} {maxDigits places : ℕ}

theorem decimals_iff {k : ℕ} : (value * 10 ^ k).den = 1 ↔ Decimals k value := by
  have power : (10 : ℚ) ^ k ≠ 0 := by positivity
  constructor
  · intro whole
    refine ⟨(value * 10 ^ k).num, ?_⟩
    rw [Rat.coe_int_num_of_den_eq_one whole, mul_div_cancel_right₀ _ power]
  · rintro ⟨n, rfl⟩
    rw [div_mul_cancel₀ _ power]
    rfl

theorem digitsFit_iff : digitsFit maxDigits places value = true ↔
    Decimals places value ∧ |value| < 10 ^ (maxDigits - places) := by
  simp [digitsFit, decimals_iff]

theorem nonnegativeAmount_iff : nonnegativeAmount value = true ↔ Amount value := by
  simp only [nonnegativeAmount, Bool.and_eq_true, decide_eq_true_eq, digitsFit_iff]
  constructor
  · rintro ⟨⟨nonneg, le⟩, decimals, -⟩
    exact ⟨nonneg, le, decimals⟩
  · rintro ⟨nonneg, le, decimals⟩
    refine ⟨⟨nonneg, le⟩, decimals, ?_⟩
    rw [abs_of_nonneg nonneg]
    exact le.trans_lt (by norm_num)

theorem positiveAmount_iff : positiveAmount value = true ↔ 0 < value ∧ Amount value := by
  have same : nonnegativeAmount value = true ↔ Amount value := nonnegativeAmount_iff
  simp only [nonnegativeAmount, positiveAmount, Bool.and_eq_true, decide_eq_true_eq] at same ⊢
  constructor
  · rintro ⟨⟨positive, le⟩, fits⟩
    exact ⟨positive, same.1 ⟨⟨positive.le, le⟩, fits⟩⟩
  · rintro ⟨positive, own⟩
    obtain ⟨⟨-, le⟩, fits⟩ := same.2 own
    exact ⟨⟨positive, le⟩, fits⟩

end Fields

namespace Amount

variable {a b : ℚ}

theorem abs_lt (own : Amount a) : |a| < 10 ^ 19 := by
  rw [abs_of_nonneg own.nonneg]
  exact own.le.trans_lt (by norm_num)

theorem zero : Amount 0 := ⟨le_refl 0, by norm_num, .zero⟩

theorem min (left : Amount a) (right : Amount b) : Amount (min a b) :=
  ⟨le_min left.nonneg right.nonneg, (min_le_left _ _).trans left.le, left.decimals.min right.decimals⟩

theorem sub (left : Amount a) (right : Amount b) (le : b ≤ a) : Amount (a - b) :=
  ⟨sub_nonneg.2 le, (sub_le_self _ right.nonneg).trans left.le, left.decimals.sub right.decimals⟩

theorem mul_le (left : Amount a) (right : Amount b) : a * b ≤ 10 ^ 36 :=
  calc a * b ≤ 10 ^ 18 * 10 ^ 18 := mul_le_mul left.le right.le right.nonneg (by norm_num)
    _ = 10 ^ 36 := by norm_num

end Amount

/-- The assumptions are within the bounds of their fields. -/
structure Policed (policy : FillAssumptions) : Prop where
  fraction : Decimals 18 policy.depthParticipationFraction
  slippage : Amount policy.adverseSlippageBps
  fee : Amount policy.takerFeeBps
  tick : Amount policy.priceTick
  step : Amount policy.quantityStep

theorem policed {policy : FillAssumptions} (fields : assumptionFields policy = true) :
    Policed policy := by
  simp only [assumptionFields, Bool.and_eq_true, nonnegativeAmount_iff, positiveAmount_iff,
    digitsFit_iff] at fields
  obtain ⟨⟨⟨⟨⟨-, fraction, -⟩, slippage⟩, fee⟩, -, tick⟩, -, step⟩ := fields
  exact ⟨fraction, slippage, fee, tick, step⟩

section Price

variable {policy : FillAssumptions} {price : ℚ}

/-- The slipped price, before it is rounded to the tick. -/
def rawPrice (side : OrderSide) (policy : FillAssumptions) (bookPrice : ℚ) : ℚ :=
  bookPrice * (1 + side.direction * policy.adverseSlippageBps / 10_000)

theorem factor_range (side : OrderSide) (policy : FillAssumptions) :
    0 < 1 + side.direction * policy.adverseSlippageBps / 10_000 ∧
      1 + side.direction * policy.adverseSlippageBps / 10_000 < 2 := by
  obtain ⟨low, high⟩ := policy.slippage_range
  cases side with
  | BUY =>
    show 0 < 1 + 1 * policy.adverseSlippageBps / 10_000 ∧ 1 + 1 * policy.adverseSlippageBps / 10_000 < 2
    constructor <;> linarith
  | SELL =>
    show 0 < 1 + -1 * policy.adverseSlippageBps / 10_000 ∧ 1 + -1 * policy.adverseSlippageBps / 10_000 < 2
    constructor <;> linarith

theorem direction_decimals {k : ℕ} (side : OrderSide) : Decimals k side.direction := by
  cases side with
  | BUY => exact .ofInt 1
  | SELL => exact (Decimals.ofInt 1).neg

theorem abs_direction (side : OrderSide) : |side.direction| = 1 := by
  cases side with
  | BUY => exact abs_one
  | SELL => rw [OrderSide.direction, abs_neg, abs_one]

theorem factor_decimals (own : Policed policy) (side : OrderSide) :
    Decimals 22 (side.direction * policy.adverseSlippageBps / 10_000) := by
  have product := (direction_decimals (k := 0) side).mul own.slippage.decimals
  exact product.div (d := 10_000) (e := 1) 4 (by norm_num)

theorem rawPrice_decimals (own : Policed policy) (side : OrderSide) (amount : Amount price) :
    Decimals 40 (rawPrice side policy price) :=
  amount.decimals.mul ((Decimals.ofInt 1).add (factor_decimals own side))

theorem rawPrice_range (side : OrderSide) (policy : FillAssumptions) (amount : Amount price) :
    0 ≤ rawPrice side policy price ∧ rawPrice side policy price ≤ 2 * 10 ^ 18 := by
  obtain ⟨positive, small⟩ := factor_range side policy
  refine ⟨mul_nonneg amount.nonneg positive.le, ?_⟩
  calc rawPrice side policy price ≤ 10 ^ 18 * 2 :=
        mul_le_mul amount.le small.le positive.le (by norm_num)
    _ = 2 * 10 ^ 18 := by ring

theorem ticks_quotient (own : Policed policy) (side : OrderSide) (amount : Amount price) :
    ∃ (n : ℤ) (d : ℕ), 0 < d ∧ |n| ≤ 10 ^ (context.prec - 1) ∧
      rawPrice side policy price / policy.priceTick = n / d := by
  obtain ⟨nonneg, le⟩ := rawPrice_range side policy amount
  refine context.quotient_of_decimals (rawPrice_decimals own side amount) own.tick.decimals
    policy.tick_pos (by norm_num) ?_
  rw [abs_of_nonneg nonneg]
  calc rawPrice side policy price * 10 ^ 40 ≤ 2 * 10 ^ 18 * 10 ^ 40 :=
        mul_le_mul_of_nonneg_right le (by norm_num)
    _ ≤ 10 ^ (context.prec - 1) := by norm_num [context]

theorem executionPrice_eq (side : OrderSide) (policy : FillAssumptions) (bookPrice : ℚ) :
    Simulation.executionPrice side policy bookPrice =
      (match side with
        | .BUY => (Rat.ceil (rawPrice side policy bookPrice / policy.priceTick) : ℚ)
        | .SELL => Rat.floor (rawPrice side policy bookPrice / policy.priceTick)) *
        policy.priceTick := by
  cases side <;> rfl

theorem executionPrice_decimals (own : Policed policy) (side : OrderSide) (bookPrice : ℚ) :
    Decimals 18 (Simulation.executionPrice side policy bookPrice) := by
  rw [executionPrice_eq]
  cases side with
  | BUY => exact own.tick.decimals.intMul _
  | SELL => exact own.tick.decimals.intMul _

theorem executionPrice_range (own : Policed policy) (side : OrderSide) (amount : Amount price) :
    0 ≤ Simulation.executionPrice side policy price ∧
      Simulation.executionPrice side policy price < 10 ^ 19 := by
  obtain ⟨nonneg, le⟩ := rawPrice_range side policy amount
  have tick := policy.tick_pos
  have small := own.tick.le
  have quotient := div_nonneg nonneg tick.le
  rw [executionPrice_eq]
  cases side with
  | BUY =>
    dsimp only
    have low : (0 : ℤ) ≤ Rat.ceil (rawPrice .BUY policy price / policy.priceTick) := by
      have up := quotient.trans Rat.le_ceil
      exact_mod_cast up
    have high : (Rat.ceil (rawPrice .BUY policy price / policy.priceTick) : ℚ) <
        rawPrice .BUY policy price / policy.priceTick + 1 := Rat.ceil_lt
    refine ⟨mul_nonneg (by exact_mod_cast low) tick.le, ?_⟩
    have scaled := mul_lt_mul_of_pos_right high tick
    rw [add_mul, div_mul_cancel₀ _ tick.ne', one_mul] at scaled
    linarith
  | SELL =>
    dsimp only
    have low : (0 : ℤ) ≤ Rat.floor (rawPrice .SELL policy price / policy.priceTick) :=
      Rat.le_floor_iff.2 (by exact_mod_cast quotient)
    have high := mul_le_mul_of_nonneg_right
      (Rat.floor_le (rawPrice .SELL policy price / policy.priceTick)) tick.le
    rw [div_mul_cancel₀ _ tick.ne'] at high
    refine ⟨mul_nonneg (by exact_mod_cast low) tick.le, ?_⟩
    linarith

/-- The context rounds the quotient of the exact slipped price, and nothing before it. -/
theorem ticks_eq (own : Policed policy) (side : OrderSide) (amount : Amount price) :
    ticks context side policy price = context.round (rawPrice side policy price / policy.priceTick) := by
  have slip := own.slippage
  have small := policy.slippage_range.2
  have product : context.round (side.direction * policy.adverseSlippageBps) =
      side.direction * policy.adverseSlippageBps := by
    refine context.round_of_decimals (k := 18) (m := 4) ?_ ?_ (by norm_num [context])
    · exact ((direction_decimals (k := 0) side).mul slip.decimals).mono (by norm_num)
    · rw [abs_mul, abs_direction, one_mul, abs_of_nonneg slip.nonneg]
      exact small.trans_eq (by norm_num)
  have fraction := factor_decimals own side
  obtain ⟨positive, bound⟩ := factor_range side policy
  have slippage : context.round (side.direction * policy.adverseSlippageBps / 10_000) =
      side.direction * policy.adverseSlippageBps / 10_000 := by
    refine context.round_of_decimals (k := 22) (m := 1) fraction ?_ (by norm_num [context])
    rw [abs_lt]
    constructor <;> linarith
  have factor : context.round (1 + side.direction * policy.adverseSlippageBps / 10_000) =
      1 + side.direction * policy.adverseSlippageBps / 10_000 := by
    refine context.round_of_decimals (k := 22) (m := 1) ((Decimals.ofInt 1).add fraction) ?_
      (by norm_num [context])
    rw [abs_of_pos positive]
    linarith
  obtain ⟨nonneg, le⟩ := rawPrice_range side policy amount
  have raw : context.round (rawPrice side policy price) = rawPrice side policy price := by
    refine context.round_of_decimals (k := 40) (m := 19) (rawPrice_decimals own side amount) ?_
      (by norm_num [context])
    rw [abs_of_nonneg nonneg]
    exact le.trans_lt (by norm_num)
  have slipped : price * (1 + side.direction * policy.adverseSlippageBps / 10_000) =
      rawPrice side policy price := rfl
  unfold ticks
  dsimp only
  rw [product, slippage, factor, slipped, raw]

/-- A slipped price is a whole number of ticks in the context if and only if it is one. -/
theorem ticks_whole (own : Policed policy) (side : OrderSide) (amount : Amount price) :
    ticks context side policy price = Rat.floor (ticks context side policy price) ↔
      rawPrice side policy price / policy.priceTick =
        Rat.floor (rawPrice side policy price / policy.priceTick) := by
  obtain ⟨n, d, positive, fits, same⟩ := ticks_quotient own side amount
  rw [ticks_eq own side amount, same]
  exact context.whole_round positive fits

/-- The price of a level is the exact one. -/
theorem executionPrice_exact (own : Policed policy) (side : OrderSide) (amount : Amount price) :
    executionPrice context side policy price = Simulation.executionPrice side policy price := by
  obtain ⟨n, d, den, fits, same⟩ := ticks_quotient own side amount
  obtain ⟨low, high⟩ := executionPrice_range own side amount
  have whole : context.round (Simulation.executionPrice side policy price) =
      Simulation.executionPrice side policy price := by
    refine context.round_of_decimals (k := 18) (m := 19) (executionPrice_decimals own side price) ?_
      (by norm_num [context])
    rwa [abs_of_nonneg low]
  unfold executionPrice
  rw [ticks_eq own side amount, same]
  cases side with
  | BUY =>
    dsimp only
    rw [context.ceil_round den fits, ← same, ← executionPrice_eq .BUY, whole]
  | SELL =>
    dsimp only
    rw [context.floor_round den fits, ← same, ← executionPrice_eq .SELL, whole]

end Price

section Capacity

variable {policy : FillAssumptions} {level : BookLevel} {debit : ℚ}

/-- What a level still offers after a debit, before it is rounded to the step. -/
def available (policy : FillAssumptions) (level : BookLevel) (debit : ℚ) : ℚ :=
  max 0 (level.quantity * policy.depthParticipationFraction - debit)

theorem displayed_range (policy : FillAssumptions) (amount : Amount level.quantity) :
    0 ≤ level.quantity * policy.depthParticipationFraction ∧
      level.quantity * policy.depthParticipationFraction ≤ 10 ^ 18 := by
  obtain ⟨positive, one⟩ := policy.fraction_range
  exact ⟨mul_nonneg amount.nonneg positive.le,
    (mul_le_of_le_one_right amount.nonneg one).trans amount.le⟩

theorem displayed_decimals (own : Policed policy) (amount : Amount level.quantity) :
    Decimals 36 (level.quantity * policy.depthParticipationFraction) :=
  amount.decimals.mul own.fraction

theorem available_range (policy : FillAssumptions) (amount : Amount level.quantity) (nonneg : 0 ≤ debit) :
    0 ≤ available policy level debit ∧ available policy level debit ≤ 10 ^ 18 := by
  obtain ⟨-, le⟩ := displayed_range policy amount
  exact ⟨le_max_left _ _, max_le (by norm_num) (by linarith)⟩

theorem available_decimals (own : Policed policy) (amount : Amount level.quantity)
    (decimals : Decimals 77 debit) : Decimals 77 (available policy level debit) :=
  Decimals.max .zero (((displayed_decimals own amount).mono (by norm_num)).sub decimals)

/-- What is available is exact: below zero it does not matter, and above it is no larger than
what is displayed. -/
theorem available_exact (own : Policed policy) (amount : Amount level.quantity) (nonneg : 0 ≤ debit)
    (decimals : Decimals 77 debit) :
    max 0 (context.round (context.round (level.quantity * policy.depthParticipationFraction) - debit)) =
      available policy level debit := by
  obtain ⟨low, high⟩ := displayed_range policy amount
  have displayed : context.round (level.quantity * policy.depthParticipationFraction) =
      level.quantity * policy.depthParticipationFraction := by
    refine context.round_of_decimals (k := 36) (m := 19) (displayed_decimals own amount) ?_
      (by norm_num [context])
    rw [abs_of_nonneg low]
    exact high.trans_lt (by norm_num)
  rw [displayed]
  unfold available
  rcases le_total debit (level.quantity * policy.depthParticipationFraction) with some | none
  · have rest : Decimals 77 (level.quantity * policy.depthParticipationFraction - debit) :=
      ((displayed_decimals own amount).mono (by norm_num)).sub decimals
    rw [context.round_of_decimals (k := 77) (m := 19) rest ?_ (by norm_num [context])]
    rw [abs_of_nonneg (sub_nonneg.2 some)]
    calc level.quantity * policy.depthParticipationFraction - debit ≤ 10 ^ 18 := by linarith
      _ < 10 ^ 19 := by norm_num
  · rw [max_eq_left (context.round_nonpos (sub_nonpos.2 none)), max_eq_left (sub_nonpos.2 none)]

theorem steps_quotient (own : Policed policy) (amount : Amount level.quantity) (nonneg : 0 ≤ debit)
    (decimals : Decimals 77 debit) :
    ∃ (n : ℤ) (d : ℕ), 0 < d ∧ |n| ≤ 10 ^ (context.prec - 1) ∧
      available policy level debit / policy.quantityStep = n / d := by
  obtain ⟨low, high⟩ := available_range policy amount nonneg
  refine context.quotient_of_decimals (available_decimals own amount decimals) own.step.decimals
    policy.step_pos (by norm_num) ?_
  rw [abs_of_nonneg low]
  calc available policy level debit * 10 ^ 77 ≤ 10 ^ 18 * 10 ^ 77 :=
        mul_le_mul_of_nonneg_right high (by norm_num)
    _ = 10 ^ (context.prec - 1) := by norm_num [context]

theorem steps_eq (own : Policed policy) (amount : Amount level.quantity) (nonneg : 0 ≤ debit)
    (decimals : Decimals 77 debit) :
    steps context policy level debit =
      context.round (available policy level debit / policy.quantityStep) := by
  unfold steps
  dsimp only
  rw [available_exact own amount nonneg decimals]

/-- What is available is a whole number of steps in the context if and only if it is one. -/
theorem steps_whole (own : Policed policy) (amount : Amount level.quantity) (nonneg : 0 ≤ debit)
    (decimals : Decimals 77 debit) :
    steps context policy level debit = Rat.floor (steps context policy level debit) ↔
      available policy level debit / policy.quantityStep =
        Rat.floor (available policy level debit / policy.quantityStep) := by
  obtain ⟨n, d, positive, fits, same⟩ := steps_quotient own amount nonneg decimals
  rw [steps_eq own amount nonneg decimals, same]
  exact context.whole_round positive fits

theorem capacity_amount (own : Policed policy) (amount : Amount level.quantity) (nonneg : 0 ≤ debit) :
    Amount (Simulation.capacity policy level debit) :=
  ⟨capacity_nonneg level debit,
    (capacity_le level debit).trans (available_range policy amount nonneg).2,
    own.step.decimals.intMul _⟩

/-- The capacity of a level is the exact one. -/
theorem capacity_exact (own : Policed policy) (amount : Amount level.quantity) (nonneg : 0 ≤ debit)
    (decimals : Decimals 77 debit) :
    capacity context policy level debit = Simulation.capacity policy level debit := by
  obtain ⟨n, d, den, fits, same⟩ := steps_quotient own amount nonneg decimals
  have exact := capacity_amount own amount nonneg
  have whole : context.round (Simulation.capacity policy level debit) =
      Simulation.capacity policy level debit :=
    context.round_of_decimals exact.decimals exact.abs_lt (by norm_num [context])
  unfold capacity
  rw [steps_eq own amount nonneg decimals, same, context.floor_round den fits, ← same]
  exact whole

end Capacity

section Fee

variable {policy : FillAssumptions} {quantity price : ℚ}

/-- The fee of a fill. -/
def exactFee (policy : FillAssumptions) (quantity price : ℚ) : ℚ :=
  quantity * price * policy.takerFeeBps / 10_000

theorem exactFee_decimals (own : Policed policy) (q : Amount quantity) (p : Amount price) :
    Decimals 58 (exactFee policy quantity price) :=
  ((q.decimals.mul p.decimals).mul own.fee.decimals).div (d := 10_000) (e := 1) 4 (by norm_num)

theorem exactFee_range (policy : FillAssumptions) (q : Amount quantity) (p : Amount price) :
    0 ≤ exactFee policy quantity price ∧ exactFee policy quantity price ≤ quantity * 10 ^ 18 := by
  obtain ⟨low, high⟩ := policy.fee_range
  have notional := mul_nonneg q.nonneg p.nonneg
  have product := mul_le_mul_of_nonneg_left high notional
  have bound := mul_le_mul_of_nonneg_left p.le q.nonneg
  refine ⟨div_nonneg (mul_nonneg notional low) (by norm_num), ?_⟩
  unfold exactFee
  linarith

/-- The fee of a fill is exact: the longest product of a walk has 95 digits. -/
theorem feeOf_exact (own : Policed policy) (q : Amount quantity) (p : Amount price) :
    feeOf context policy quantity price = exactFee policy quantity price := by
  have notional := mul_nonneg q.nonneg p.nonneg
  have size := q.mul_le p
  obtain ⟨low, high⟩ := policy.fee_range
  have first : context.round (quantity * price) = quantity * price := by
    refine context.round_of_decimals (k := 36) (m := 37) (q.decimals.mul p.decimals) ?_
      (by norm_num [context])
    rw [abs_of_nonneg notional]
    exact size.trans_lt (by norm_num)
  have second : context.round (quantity * price * policy.takerFeeBps) =
      quantity * price * policy.takerFeeBps := by
    refine context.round_of_decimals (k := 54) (m := 41)
      ((q.decimals.mul p.decimals).mul own.fee.decimals) ?_ (by norm_num [context])
    rw [abs_of_nonneg (mul_nonneg notional low)]
    calc quantity * price * policy.takerFeeBps ≤ 10 ^ 36 * 10_000 :=
          mul_le_mul size high low (by norm_num)
      _ < 10 ^ 41 := by norm_num
  obtain ⟨nonneg, le⟩ := exactFee_range policy q p
  have third : context.round (exactFee policy quantity price) = exactFee policy quantity price := by
    refine context.round_of_decimals (k := 58) (m := 37) (exactFee_decimals own q p) ?_
      (by norm_num [context])
    rw [abs_of_nonneg nonneg]
    have most := mul_le_mul_of_nonneg_right q.le (by norm_num : (0 : ℚ) ≤ 10 ^ 18)
    calc exactFee policy quantity price ≤ 10 ^ 18 * 10 ^ 18 := le.trans most
      _ < 10 ^ 37 := by norm_num
  unfold feeOf
  rw [first, second]
  exact third

end Fee

section Walk

variable {command : IOCCommand} {policy : FillAssumptions}

/-- A price that is not beyond the cap is an amount. -/
theorem price_amount (own : Policed policy) (cap : Amount command.priceCap) {level : BookLevel}
    (amount : Amount level.price)
    (within : beyondCap command (Simulation.executionPrice command.side policy level.price) = false) :
    Amount (Simulation.executionPrice command.side policy level.price) := by
  refine ⟨(executionPrice_range own command.side amount).1, ?_,
    executionPrice_decimals own command.side level.price⟩
  have adverse := executionPrice_adverse command.side policy level.price_pos
  unfold beyondCap at within
  cases side : command.side with
  | BUY =>
    simp only [side, Bool.or_eq_false_iff, decide_eq_false_iff_not, not_lt] at within
    exact within.2.trans cap.le
  | SELL =>
    simp only [side, OrderSide.direction] at adverse
    have book := amount.le
    linarith

/-- Both sides of the book are within the bounds of their fields. -/
def Shown (levels : List BookLevel) : Prop :=
  ∀ level ∈ levels, Amount level.price ∧ Amount level.quantity

/-- Debits of so many decimals. -/
def Kept (k : ℕ) (consumed : Depth) : Prop := ∀ entry ∈ consumed, 0 < entry.2 ∧ Decimals k entry.2

theorem Kept.getD {k : ℕ} {consumed : Depth} (kept : Kept k consumed) (key : BookSide × ℚ) :
    0 ≤ consumed.getD key 0 ∧ Decimals k (consumed.getD key 0) := by
  rcases consumed.getD_cases key 0 with none | some
  · rw [none]
    exact ⟨le_refl 0, .zero⟩
  · obtain ⟨positive, decimals⟩ := kept _ some
    exact ⟨positive.le, decimals⟩

theorem Kept.set {k : ℕ} {consumed : Depth} (kept : Kept k consumed) (key : BookSide × ℚ) {debit : ℚ}
    (positive : 0 < debit) (decimals : Decimals k debit) : Kept k (consumed.set key debit) := by
  intro entry mem
  rcases Dict.mem_set mem with rfl | old
  · exact ⟨positive, decimals⟩
  · exact kept entry old

/-- A fill of a walk over the levels: its amounts are within the bounds of their fields. -/
structure Filled (command : IOCCommand) (policy : FillAssumptions) (levels : List BookLevel)
    (fill : LevelFill) : Prop where
  quantity : Amount fill.quantity
  positive : 0 < fill.quantity
  price : Amount fill.executionPrice
  fee : fill.feeQuote = exactFee policy fill.quantity fill.executionPrice
  level : ∃ level ∈ levels, Amount level.price ∧ fill.bookPrice = level.price ∧
    fill.executionPrice = Simulation.executionPrice command.side policy level.price
  within : beyondCap command fill.executionPrice = false

theorem Filled.later {levels : List BookLevel} {fill : LevelFill} (own : Filled command policy levels fill)
    (level : BookLevel) : Filled command policy (level :: levels) fill := by
  obtain ⟨l, mem, rest⟩ := own.level
  exact { own with level := ⟨l, List.mem_cons_of_mem _ mem, rest⟩ }

/-- The walk is the exact one, and keeps the decimals of the debits. -/
theorem walkLevels_exact (own : Policed policy) (cap : Amount command.priceCap) {k : ℕ}
    (enough : 18 ≤ k) (most : k ≤ 77) (levels : List BookLevel) (shown : Shown levels) {remaining : ℚ}
    (left : Amount remaining) {consumed : Depth} (kept : Kept k consumed) :
    walkLevels context command policy levels remaining consumed =
        Simulation.walkLevels command policy levels remaining consumed ∧
      Kept k (Simulation.walkLevels command policy levels remaining consumed).2 ∧
      ∀ fill ∈ (Simulation.walkLevels command policy levels remaining consumed).1,
        Filled command policy levels fill := by
  induction levels generalizing remaining consumed with
  | nil => exact ⟨rfl, kept, fun _ mem => absurd mem List.not_mem_nil⟩
  | cons level levels ih =>
    obtain ⟨price, quantity⟩ := shown level List.mem_cons_self
    have later : Shown levels := fun l mem => shown l (List.mem_cons_of_mem _ mem)
    obtain ⟨nonneg, decimals⟩ := kept.getD (command.side.book, level.price)
    have given := left.min (capacity_amount own quantity nonneg)
    unfold walkLevels Simulation.walkLevels
    dsimp only
    rw [executionPrice_exact own command.side price,
      capacity_exact own quantity nonneg (decimals.mono most)]
    by_cases beyond : beyondCap command (Simulation.executionPrice command.side policy level.price) = true
    · rw [if_pos beyond, if_pos beyond]
      exact ⟨rfl, kept, fun _ mem => absurd mem List.not_mem_nil⟩
    have within := price_amount own cap price (Bool.eq_false_iff.2 beyond)
    rw [if_neg beyond, if_neg beyond]
    generalize amount : min remaining (Simulation.capacity policy level
      (consumed.getD (command.side.book, level.price) 0)) = fill at given ⊢
    generalize debit : consumed.getD (command.side.book, level.price) 0 = old at nonneg decimals amount ⊢
    by_cases zero : fill = 0
    · rw [if_pos zero, if_pos zero]
      obtain ⟨same, after, filled⟩ := ih later left kept
      exact ⟨same, after, fun f mem => (filled f mem).later level⟩
    rw [if_neg zero, if_neg zero]
    have positive : 0 < fill := lt_of_le_of_ne given.nonneg (Ne.symm zero)
    have sum : Decimals k (old + fill) := decimals.add (given.decimals.mono enough)
    have debited : context.round (old + fill) = old + fill := by
      refine context.round_of_decimals (k := 77) (m := 19) (sum.mono most) ?_ (by norm_num [context])
      have shownHere := debit_le positive (amount ▸ min_le_right _ _)
      have range := (displayed_range policy quantity).2
      rw [abs_of_nonneg (add_nonneg nonneg positive.le)]
      calc old + fill ≤ 10 ^ 18 := shownHere.trans range
        _ < 10 ^ 19 := by norm_num
    have rest : Amount (remaining - fill) := left.sub given (amount ▸ min_le_left _ _)
    have subtracted : context.round (remaining - fill) = remaining - fill :=
      context.round_of_decimals rest.decimals rest.abs_lt (by norm_num [context])
    have next := kept.set (command.side.book, level.price) (add_pos_of_nonneg_of_pos nonneg positive) sum
    have here : Filled command policy (level :: levels) {
        bookPrice := level.price
        executionPrice := Simulation.executionPrice command.side policy level.price
        quantity := fill
        feeQuote := exactFee policy fill
          (Simulation.executionPrice command.side policy level.price) } :=
      ⟨given, positive, within, rfl, ⟨level, List.mem_cons_self, price, rfl, rfl⟩,
        Bool.eq_false_iff.2 beyond⟩
    rw [feeOf_exact own given within, debited, subtracted]
    by_cases done : remaining - fill = 0
    · rw [if_pos done, if_pos done]
      refine ⟨rfl, next, fun f mem => ?_⟩
      rw [List.mem_singleton.1 mem]
      exact here
    · rw [if_neg done, if_neg done]
      obtain ⟨same, after, filled⟩ := ih later rest next
      rw [same]
      refine ⟨rfl, after, fun f mem => ?_⟩
      rcases List.mem_cons.1 mem with rfl | deeper
      · exact here
      · exact (filled f deeper).later level

end Walk

section Totals

variable {command : IOCCommand} {policy : FillAssumptions} {levels : List BookLevel}
  {fills : List LevelFill}

/-- Fills of one walk, that together are no more than was asked for. -/
structure Fills (command : IOCCommand) (policy : FillAssumptions) (levels : List BookLevel)
    (fills : List LevelFill) : Prop where
  each : ∀ fill ∈ fills, Filled command policy levels fill
  most : Simulation.total fills (·.quantity) ≤ command.quantity
  asked : Amount command.quantity

theorem Fills.quantity (own : Fills command policy levels fills) :
    Amount (Simulation.total fills (·.quantity)) := by
  refine ⟨List.sum_nonneg fun x mem => ?_, own.most.trans own.asked.le, Decimals.sum fun x mem => ?_⟩
  · obtain ⟨fill, hf, rfl⟩ := List.mem_map.1 mem
    exact (own.each fill hf).positive.le
  · obtain ⟨fill, hf, rfl⟩ := List.mem_map.1 mem
    exact (own.each fill hf).quantity.decimals

/-- What the fills take of anything that each takes at most `1e18` times its quantity of. -/
theorem Fills.total_le (own : Fills command policy levels fills) {value : LevelFill → ℚ}
    (each : ∀ fill ∈ fills, value fill ≤ fill.quantity * 10 ^ 18) :
    Simulation.total fills value ≤ 10 ^ 36 := by
  have sum : Simulation.total fills value ≤ Simulation.total fills (·.quantity) * 10 ^ 18 := by
    unfold Simulation.total
    rw [← List.sum_map_mul_right]
    exact List.sum_le_sum each
  have bound := mul_le_mul_of_nonneg_right own.quantity.le (by norm_num : (0 : ℚ) ≤ 10 ^ 18)
  calc Simulation.total fills value ≤ 10 ^ 18 * 10 ^ 18 := sum.trans bound
    _ = 10 ^ 36 := by norm_num

theorem Fills.quantity_exact (own : Fills command policy levels fills) :
    total context fills (·.quantity) = Simulation.total fills (·.quantity) := by
  refine context.sum_of_decimals (k := 18) (m := 19) ?_ ?_ (by norm_num [context])
  · intro x mem
    obtain ⟨fill, hf, rfl⟩ := List.mem_map.1 mem
    exact ⟨(own.each fill hf).positive.le, (own.each fill hf).quantity.decimals⟩
  · exact own.quantity.le.trans_lt (by norm_num)

theorem Fills.notional_le (own : Fills command policy levels fills) :
    Simulation.total fills (fun fill => fill.quantity * fill.executionPrice) ≤ 10 ^ 36 :=
  own.total_le fun fill mem =>
    mul_le_mul_of_nonneg_left (own.each fill mem).price.le (own.each fill mem).positive.le

/-- One notional is not rounded, in whichever order its product is taken. -/
theorem Filled.notional_exact {fill : LevelFill} (own : Filled command policy levels fill) :
    context.round (fill.quantity * fill.executionPrice) = fill.quantity * fill.executionPrice := by
  refine context.round_of_decimals (k := 36) (m := 37)
    (own.quantity.decimals.mul own.price.decimals) ?_ (by norm_num [context])
  rw [abs_of_nonneg (mul_nonneg own.positive.le own.price.nonneg)]
  exact (own.quantity.mul_le own.price).trans_lt (by norm_num)

theorem Fills.notional_exact (own : Fills command policy levels fills) :
    total context fills (fun fill => context.round (fill.quantity * fill.executionPrice)) =
      Simulation.total fills fun fill => fill.quantity * fill.executionPrice := by
  have products : fills.map (fun fill => context.round (fill.quantity * fill.executionPrice)) =
      fills.map fun fill => fill.quantity * fill.executionPrice :=
    List.map_congr_left fun fill mem => (own.each fill mem).notional_exact
  unfold total Simulation.total
  rw [products]
  refine context.sum_of_decimals (k := 36) (m := 37) ?_ ?_ (by norm_num [context])
  · intro x mem
    obtain ⟨fill, hf, rfl⟩ := List.mem_map.1 mem
    have filled := own.each fill hf
    exact ⟨mul_nonneg filled.positive.le filled.price.nonneg,
      filled.quantity.decimals.mul filled.price.decimals⟩
  · exact own.notional_le.trans_lt (by norm_num)

theorem Fills.fees_le (own : Fills command policy levels fills) :
    Simulation.total fills (·.feeQuote) ≤ 10 ^ 36 := by
  refine own.total_le fun fill mem => ?_
  have filled := own.each fill mem
  rw [filled.fee]
  exact (exactFee_range policy filled.quantity filled.price).2

theorem Fills.fees_exact (own : Fills command policy levels fills) (policed : Policed policy) :
    total context fills (·.feeQuote) = Simulation.total fills (·.feeQuote) := by
  refine context.sum_of_decimals (k := 58) (m := 37) ?_ ?_ (by norm_num [context])
  · intro x mem
    obtain ⟨fill, hf, rfl⟩ := List.mem_map.1 mem
    have filled := own.each fill hf
    rw [filled.fee]
    exact ⟨(exactFee_range policy filled.quantity filled.price).1,
      exactFee_decimals policed filled.quantity filled.price⟩
  · exact own.fees_le.trans_lt (by norm_num)

/-- The amounts of a frame are within the bounds of their fields. -/
structure Framed (frame : AcceptedBookFrame) : Prop where
  bids : Shown frame.bids
  asks : Shown frame.asks

theorem Framed.shown {frame : AcceptedBookFrame} (own : Framed frame) (side : BookSide) :
    Shown (frame.levels side) := by
  cases side with
  | ASK => exact own.asks
  | BID => exact own.bids

theorem best_amount (shown : Shown levels) : Amount (best levels) := by
  cases levels with
  | nil => exact .zero
  | cons level levels => exact (shown level List.mem_cons_self).1

/-- The middle of the book. -/
def midOf (frame : AcceptedBookFrame) : ℚ := (best frame.bids + best frame.asks) / 2

theorem midOf_range {frame : AcceptedBookFrame} (own : Framed frame) :
    0 ≤ midOf frame ∧ midOf frame ≤ 10 ^ 18 ∧ Decimals 19 (midOf frame) := by
  have bid := best_amount own.bids
  have ask := best_amount own.asks
  have low := bid.nonneg
  have high := bid.le
  have low' := ask.nonneg
  have high' := ask.le
  refine ⟨?_, ?_, (bid.decimals.add ask.decimals).div (d := 2) (e := 5) 1 (by norm_num)⟩
  · unfold midOf
    linarith
  · unfold midOf
    linarith

theorem midOf_exact {frame : AcceptedBookFrame} (own : Framed frame) :
    context.round (context.round (best frame.bids + best frame.asks) / 2) = midOf frame := by
  have bid := best_amount own.bids
  have ask := best_amount own.asks
  have sum : context.round (best frame.bids + best frame.asks) = best frame.bids + best frame.asks := by
    refine context.round_of_decimals (k := 18) (m := 19) (bid.decimals.add ask.decimals) ?_
      (by norm_num [context])
    rw [abs_of_nonneg (add_nonneg bid.nonneg ask.nonneg)]
    have high := bid.le
    have high' := ask.le
    linarith
  obtain ⟨nonneg, le, decimals⟩ := midOf_range own
  rw [sum]
  refine context.round_of_decimals (k := 19) (m := 19) decimals ?_ (by norm_num [context])
  change |midOf frame| < _
  rw [abs_of_nonneg nonneg]
  exact le.trans_lt (by norm_num)

/-- What the fills cost beyond the middle of the book. -/
def excess (frame : AcceptedBookFrame) (fills : List LevelFill) : ℚ :=
  Simulation.total fills (fun fill => fill.quantity * fill.executionPrice) -
    Simulation.total fills (·.quantity) * midOf frame

theorem reference_range (own : Fills command policy levels fills) {frame : AcceptedBookFrame}
    (framed : Framed frame) : 0 ≤ Simulation.total fills (·.quantity) * midOf frame ∧
      Simulation.total fills (·.quantity) * midOf frame ≤ 10 ^ 36 ∧
      Decimals 37 (Simulation.total fills (·.quantity) * midOf frame) := by
  obtain ⟨nonneg, le, decimals⟩ := midOf_range framed
  refine ⟨mul_nonneg own.quantity.nonneg nonneg, ?_, own.quantity.decimals.mul decimals⟩
  calc Simulation.total fills (·.quantity) * midOf frame ≤ 10 ^ 18 * 10 ^ 18 :=
        mul_le_mul own.quantity.le le nonneg (by norm_num)
    _ = 10 ^ 36 := by norm_num

theorem excess_range (own : Fills command policy levels fills) {frame : AcceptedBookFrame}
    (framed : Framed frame) : |excess frame fills| < 10 ^ 37 ∧ Decimals 37 (excess frame fills) := by
  obtain ⟨low, high, value⟩ := reference_range own framed
  have paid : Decimals 37 (Simulation.total fills fun fill => fill.quantity * fill.executionPrice) := by
    refine (Decimals.sum fun x mem => ?_ : Decimals 36 _).mono (by norm_num)
    obtain ⟨fill, hf, rfl⟩ := List.mem_map.1 mem
    exact (own.each fill hf).quantity.decimals.mul (own.each fill hf).price.decimals
  have paid_nonneg : 0 ≤ Simulation.total fills fun fill => fill.quantity * fill.executionPrice := by
    refine List.sum_nonneg fun x mem => ?_
    obtain ⟨fill, hf, rfl⟩ := List.mem_map.1 mem
    exact mul_nonneg (own.each fill hf).positive.le (own.each fill hf).price.nonneg
  have paid_le := own.notional_le
  refine ⟨?_, paid.sub value⟩
  unfold excess
  rw [abs_lt]
  constructor <;> linarith

theorem shortfall_exact (own : Fills command policy levels fills) {frame : AcceptedBookFrame}
    (framed : Framed frame) (side : OrderSide) :
    context.round (context.round (Simulation.total fills (fun fill => fill.quantity * fill.executionPrice) -
        context.round (Simulation.total fills (·.quantity) * midOf frame)) * side.direction) =
      excess frame fills * side.direction := by
  obtain ⟨low, high, value⟩ := reference_range own framed
  obtain ⟨difference, decimals⟩ := excess_range own framed
  have first := context.round_of_decimals (k := 37) (m := 37) value
    (by rw [abs_of_nonneg low]; linarith) (by norm_num [context])
  have second := context.round_of_decimals (k := 37) (m := 37) decimals difference
    (by norm_num [context])
  rw [first]
  change context.round (context.round (excess frame fills) * side.direction) = _
  rw [second]
  refine context.round_of_decimals (k := 37) (m := 37)
    (decimals.mul (direction_decimals (k := 0) side)) ?_ (by norm_num [context])
  rwa [abs_mul, abs_direction, mul_one]

end Totals

section Outcome

variable {Digest : Type} {sha : Content → Digest} {command : IOCCommand} {frame : AcceptedBookFrame}
  {policy : FillAssumptions} {levels : List BookLevel} {fills : List LevelFill}

/-- The outcome with its average price as the context computes it. -/
def rounded (o : FillOutcome Digest) : FillOutcome Digest :=
  { o with averagePrice := o.averagePrice.map context.round }

theorem Fills.cancelled_exact (own : Fills command policy levels fills) :
    context.round (command.quantity - Simulation.total fills (·.quantity)) =
      command.quantity - Simulation.total fills (·.quantity) := by
  have rest := own.asked.sub own.quantity own.most
  exact context.round_of_decimals rest.decimals rest.abs_lt (by norm_num [context])

/-- All of an outcome is exact but its average price. -/
theorem walked_exact (policed : Policed policy) (framed : Framed frame)
    (own : Fills command policy levels fills) :
    walked context sha command frame policy fills =
      rounded (Simulation.walked sha command frame policy fills) := by
  have swap : (fun fill : LevelFill => context.round (fill.executionPrice * fill.quantity)) =
      fun fill => context.round (fill.quantity * fill.executionPrice) := by
    funext fill
    rw [mul_comm]
  unfold walked
  dsimp only
  rw [swap, own.quantity_exact, own.notional_exact, own.fees_exact policed, midOf_exact framed,
    shortfall_exact own framed, own.cancelled_exact]
  unfold Simulation.walked rounded excess midOf
  dsimp only
  congr 1
  split
  · rfl
  · rfl

end Outcome

section Judge

variable {Digest : Type} [DecidableEq Digest] {sha : Content → Digest} {command : IOCCommand}
  {frame : AcceptedBookFrame} {policy : FillAssumptions} {state : LiquidityState Digest} {asOfMs : ℕ}

/-- What is known of the inputs of a call: their amounts are within the bounds of their
fields, and the debits have so many decimals. -/
structure Bounded (k : ℕ) (command : IOCCommand) (frame : AcceptedBookFrame) (policy : FillAssumptions)
    (consumed : Depth) : Prop where
  policed : Policed policy
  framed : Framed frame
  quantity : Amount command.quantity
  cap : Amount command.priceCap
  kept : Kept k consumed

theorem shown_of_fields {levels : List BookLevel} (fields : levels.all levelFields = true) : Shown levels := by
  intro level mem
  have own := List.all_eq_true.1 fields level mem
  simp only [levelFields, Bool.and_eq_true, positiveAmount_iff] at own
  exact ⟨own.1.2, own.2.2⟩

theorem bounded {k : ℕ} {consumed : Depth} (commanded : commandFields command = true)
    (framed : frameFields frame = true) (assumed : assumptionFields policy = true)
    (kept : Kept k consumed) : Bounded k command frame policy consumed := by
  simp only [commandFields, Bool.and_eq_true, positiveAmount_iff] at commanded
  simp only [frameFields, Bool.and_eq_true] at framed
  obtain ⟨⟨⟨⟨⟨⟨⟨⟨-, -⟩, -⟩, -, quantity⟩, -, cap⟩, -⟩, -⟩, -⟩, -⟩ := commanded
  exact ⟨policed assumed, ⟨shown_of_fields framed.1.2, shown_of_fields framed.2⟩, quantity, cap, kept⟩

/-- The fills of the exact walk on such inputs. -/
theorem Bounded.fills {k : ℕ} {consumed : Depth} (own : Bounded k command frame policy consumed)
    (enough : 18 ≤ k) (most : k ≤ 77) :
    Fills command policy (frame.levels command.side.book) (Simulation.walkLevels command policy
      (frame.levels command.side.book) command.quantity consumed).1 :=
  ⟨(walkLevels_exact own.policed own.cap enough most _ (own.framed.shown _) own.quantity own.kept).2.2,
    walkLevels_total_le _ command.quantity_pos.le consumed, own.quantity⟩

omit [DecidableEq Digest] in
theorem Bounded.walk_exact {k : ℕ} (own : Bounded k command frame policy state.consumedDepth)
    (enough : 18 ≤ k) (most : k ≤ 77) :
    walk context command frame policy state = Simulation.walk command frame policy state := by
  have same := (walkLevels_exact own.policed own.cap enough most _ (own.framed.shown command.side.book)
    own.quantity own.kept).1
  unfold walk Simulation.walk
  rw [same]

/-- A command that has arrived is judged exactly, but for its average price. -/
theorem Bounded.judge_exact {k : ℕ} (own : Bounded k command frame policy state.consumedDepth)
    (enough : 18 ≤ k) (most : k ≤ 77) :
    judge context sha command frame policy state asOfMs =
      (rounded (Simulation.judge sha command frame policy state asOfMs).1,
        (Simulation.judge sha command frame policy state asOfMs).2) := by
  unfold judge Simulation.judge
  dsimp only
  cases commandIssue command policy (command.submittedAtMs + policy.latencyMs) with
  | some reason => rfl
  | none =>
    dsimp only
    cases frameIssue sha frame state (command.submittedAtMs + policy.latencyMs) policy with
    | some issue => rfl
    | none =>
      dsimp only
      rw [own.walk_exact enough most]
      exact congrArg (·, _) (walked_exact own.policed own.framed (own.fills enough most))

/-- The debits keep their decimals. -/
theorem Bounded.judge_kept {k : ℕ} (own : Bounded k command frame policy state.consumedDepth)
    (enough : 18 ≤ k) (most : k ≤ 77) :
    Kept k (Simulation.judge sha command frame policy state asOfMs).2.consumedDepth := by
  rcases judge_depth sha command frame policy state asOfMs with ⟨-, same⟩ | ⟨-, walked⟩
  · rw [same]
    exact own.kept
  · rw [walked]
    intro entry mem
    have kept := (walkLevels_exact own.policed own.cap enough most _ (own.framed.shown command.side.book)
      own.quantity own.kept).2.1
    exact kept entry ((Dict.sorted_perm _ _).mem_iff.1 mem)

end Judge

end Arithmetic

end KairosExecution.Simulation
