import KairosExecution.Simulation.Answers

/-! Price priority. The reference gives each level, in the order of the book, what is asked
for beyond the capacity of the levels before it, up to its own. Slippage and the tick keep
the order of the prices, so a level beyond the cap has none within it behind, and the walk
fills what the reference gives. -/

namespace KairosExecution.Simulation

open Python

section Reference

variable {ι : Type} (cap : ι → ℚ)

/-- Each of them in turn gives what is left to give after the capacity of those before it,
up to its own capacity. -/
def allocate : ℚ → List ι → List (ι × ℚ)
  | _, [] => []
  | left, x :: xs => (x, min (cap x) (max 0 left)) :: allocate (left - cap x) xs

variable {cap}

theorem allocate_none (nonneg : ∀ x, 0 ≤ cap x) {left : ℚ} (none : left ≤ 0) (xs : List ι) :
    allocate cap left xs = xs.map fun x => (x, 0) := by
  induction xs generalizing left with
  | nil => rfl
  | cons x xs ih =>
    have next : left - cap x ≤ 0 := by linarith [nonneg x]
    rw [allocate, ih next, max_eq_left none, min_eq_right (nonneg x)]
    rfl

theorem allocate_append (left : ℚ) (xs ys : List ι) :
    allocate cap left (xs ++ ys) = allocate cap left xs ++ allocate cap (left - (xs.map cap).sum) ys := by
  induction xs generalizing left with
  | nil => simp [allocate]
  | cons x xs ih =>
    rw [List.cons_append, allocate, ih, allocate, List.map_cons, List.sum_cons, List.cons_append,
      sub_sub]

theorem mem_of_allocate {left : ℚ} {xs : List ι} {p : ι × ℚ} (mem : p ∈ allocate cap left xs) : p.1 ∈ xs := by
  induction xs generalizing left with
  | nil => exact nomatch mem
  | cons x xs ih =>
    rcases List.mem_cons.1 mem with rfl | later
    · exact List.mem_cons_self
    · exact List.mem_cons_of_mem _ (ih later)

/-- Those whose capacity is needed in full give it in full. -/
theorem allocate_full (nonneg : ∀ x, 0 ≤ cap x) {left : ℚ} {xs : List ι}
    (needed : (xs.map cap).sum ≤ left) : allocate cap left xs = xs.map fun x => (x, cap x) := by
  induction xs generalizing left with
  | nil => rfl
  | cons x xs ih =>
    rw [List.map_cons, List.sum_cons] at needed
    have rest : 0 ≤ (xs.map cap).sum := List.sum_nonneg fun y mem => by
      obtain ⟨z, -, rfl⟩ := List.mem_map.1 mem
      exact nonneg z
    have own : cap x ≤ left := by linarith
    rw [allocate, ih (by linarith), max_eq_right ((nonneg x).trans own), min_eq_left own]
    rfl

/-- Together they give what is asked for, up to their capacity. -/
theorem allocate_sum (nonneg : ∀ x, 0 ≤ cap x) {left : ℚ} (some : 0 ≤ left) (xs : List ι) :
    ((allocate cap left xs).map Prod.snd).sum = min left (xs.map cap).sum := by
  induction xs generalizing left with
  | nil => simp [allocate, some]
  | cons x xs ih =>
    have rest : 0 ≤ (xs.map cap).sum := List.sum_nonneg fun y mem => by
      obtain ⟨z, -, rfl⟩ := List.mem_map.1 mem
      exact nonneg z
    rw [allocate, List.map_cons, List.sum_cons, List.map_cons, List.sum_cons, max_eq_right some]
    rcases le_total (cap x) left with within | beyond
    · rw [ih (by linarith), min_eq_left within, ← min_add_add_left, add_sub_cancel]
    · have none : ((xs.map fun x => (x, (0 : ℚ))).map Prod.snd).sum = 0 := by
        rw [List.map_map]
        exact List.sum_eq_zero fun y mem => by
          obtain ⟨z, -, rfl⟩ := List.mem_map.1 mem
          rfl
      rw [allocate_none nonneg (by linarith), none, min_eq_right beyond, min_eq_left (by linarith),
        add_zero]

/-- One that gives something comes after others that have given all they can. -/
theorem allocate_prior (nonneg : ∀ x, 0 ≤ cap x) {left : ℚ} (xs : List ι) (x : ι) (ys : List ι)
    (gives : min (cap x) (max 0 (left - (xs.map cap).sum)) ≠ 0) :
    allocate cap left (xs ++ x :: ys) =
      xs.map (fun y => (y, cap y)) ++ allocate cap (left - (xs.map cap).sum) (x :: ys) := by
  have needed : (xs.map cap).sum ≤ left := by
    by_contra short
    have zero : max 0 (left - (xs.map cap).sum) = 0 := max_eq_left (by linarith)
    rw [zero, min_eq_right (nonneg x)] at gives
    exact gives rfl
  rw [allocate_append, allocate_full nonneg needed]

end Reference

section Order

variable {command : IOCCommand} {policy : FillAssumptions}

/-- The levels of a side go away from the taker. -/
def Receding (side : OrderSide) (a b : BookLevel) : Prop := 0 < (b.price - a.price) * side.direction

theorem levels_receding (frame : AcceptedBookFrame) (side : OrderSide) :
    (frame.levels side.book).Pairwise (Receding side) := by
  cases side with
  | BUY =>
    refine frame.asks_ascend.imp fun {a b} less => ?_
    show 0 < (b.price - a.price) * 1
    linarith
  | SELL =>
    refine frame.bids_descend.imp fun {a b} less => ?_
    show 0 < (b.price - a.price) * -1
    linarith

theorem Receding.ne {side : OrderSide} {a b : BookLevel} (order : Receding side a b) :
    a.price ≠ b.price := by
  intro same
  unfold Receding at order
  rw [same, sub_self, zero_mul] at order
  exact lt_irrefl _ order

/-- Slippage and the tick keep the order of the prices. -/
theorem executionPrice_mono {side : OrderSide} {a b : BookLevel} (order : Receding side a b) :
    0 ≤ (executionPrice side policy b.price - executionPrice side policy a.price) * side.direction := by
  have tick := policy.tick_pos
  obtain ⟨positive, -⟩ := Arithmetic.factor_range side policy
  unfold Receding at order
  rw [Arithmetic.executionPrice_eq, Arithmetic.executionPrice_eq]
  cases side with
  | BUY =>
    simp only [OrderSide.direction, mul_one, sub_pos] at order ⊢
    have raw := div_le_div_of_nonneg_right (mul_le_mul_of_nonneg_right order.le positive.le) tick.le
    have whole : Rat.ceil (Arithmetic.rawPrice .BUY policy a.price / policy.priceTick) ≤
        Rat.ceil (Arithmetic.rawPrice .BUY policy b.price / policy.priceTick) :=
      Rat.ceil_le_iff.2 (raw.trans Rat.le_ceil)
    have scaled := mul_le_mul_of_nonneg_right (Int.cast_le (R := ℚ).2 whole) tick.le
    linarith
  | SELL =>
    simp only [OrderSide.direction] at order ⊢
    have less : b.price ≤ a.price := by linarith
    have raw := div_le_div_of_nonneg_right (mul_le_mul_of_nonneg_right less positive.le) tick.le
    have whole : Rat.floor (Arithmetic.rawPrice .SELL policy b.price / policy.priceTick) ≤
        Rat.floor (Arithmetic.rawPrice .SELL policy a.price / policy.priceTick) :=
      Rat.floor_monotone raw
    have scaled := mul_le_mul_of_nonneg_right (Int.cast_le (R := ℚ).2 whole) tick.le
    linarith

/-- Behind a level beyond the cap, all are. -/
theorem beyondCap_mono {a b : BookLevel} (order : Receding command.side a b)
    (beyond : beyondCap command (executionPrice command.side policy a.price) = true) :
    beyondCap command (executionPrice command.side policy b.price) = true := by
  have mono : 0 ≤ (executionPrice _ policy b.price - executionPrice _ policy a.price) * _ :=
    executionPrice_mono order
  have adverse := executionPrice_adverse command.side policy a.price_pos
  have price := a.price_pos
  unfold beyondCap at beyond ⊢
  cases side : command.side with
  | BUY =>
    simp only [side, OrderSide.direction, mul_one, Bool.or_eq_true, decide_eq_true_eq] at *
    right
    rcases beyond with none | some
    · linarith
    · linarith
  | SELL =>
    simp only [side, OrderSide.direction, Bool.or_eq_true, decide_eq_true_eq] at *
    rcases beyond with none | some
    · left
      linarith
    · right
      linarith

end Order

section Walk

variable {command : IOCCommand} {policy : FillAssumptions}

/-- What a level can give at a price within the cap: whole steps of what it displays to the
session beyond its debit. -/
def executable (command : IOCCommand) (policy : FillAssumptions) (consumed : Depth)
    (level : BookLevel) : ℚ :=
  if beyondCap command (executionPrice command.side policy level.price) then 0
  else capacity policy level (consumed.getD (command.side.book, level.price) 0)

theorem executable_nonneg (consumed : Depth) (level : BookLevel) :
    0 ≤ executable command policy consumed level := by
  unfold executable
  split
  · exact le_rfl
  · exact capacity_nonneg _ _

/-- What a fill says of the book: the level, the price and the quantity. -/
def LevelFill.taken (fill : LevelFill) : ℚ × ℚ × ℚ := (fill.bookPrice, fill.executionPrice, fill.quantity)

/-- The fills that an allocation stands for. -/
def allocated (command : IOCCommand) (policy : FillAssumptions) (given : List (BookLevel × ℚ)) :
    List (ℚ × ℚ × ℚ) :=
  (given.filter fun p => p.2 ≠ 0).map fun p =>
    (p.1.price, executionPrice command.side policy p.1.price, p.2)

theorem allocated_none (levels : List BookLevel) :
    allocated command policy (levels.map fun level => (level, 0)) = [] := by
  induction levels with
  | nil => rfl
  | cons level levels ih => simp [allocated]

/-- Debiting one price does not change what other prices can give. -/
theorem executable_set {consumed : Depth} {level other : BookLevel} (differs : level.price ≠ other.price)
    (debit : ℚ) :
    executable command policy (consumed.set (command.side.book, level.price) debit) other =
      executable command policy consumed other := by
  have key : ¬(command.side.book, other.price) = (command.side.book, level.price) :=
    fun same => differs (Prod.mk.inj same).2.symm
  unfold executable
  rw [Dict.getD_set, if_neg key]

theorem allocate_congr {ι : Type} {cap cap' : ι → ℚ} {xs : List ι} (same : ∀ x ∈ xs, cap x = cap' x)
    (left : ℚ) : allocate cap left xs = allocate cap' left xs := by
  induction xs generalizing left with
  | nil => rfl
  | cons x xs ih =>
    rw [allocate, allocate, same x List.mem_cons_self, ih fun y mem => same y (List.mem_cons_of_mem _ mem)]

/-- The walk fills what the reference allocates. -/
theorem walkLevels_allocated (levels : List BookLevel) (order : levels.Pairwise (Receding command.side))
    {remaining : ℚ} (some : 0 < remaining) (consumed : Depth) :
    (walkLevels command policy levels remaining consumed).1.map LevelFill.taken =
      allocated command policy (allocate (executable command policy consumed) remaining levels) := by
  induction levels generalizing remaining consumed with
  | nil => rfl
  | cons level levels ih =>
    obtain ⟨first, later⟩ := List.pairwise_cons.1 order
    have nonneg : ∀ level, 0 ≤ executable command policy consumed level := executable_nonneg consumed
    have positive : max 0 remaining = remaining := max_eq_right some.le
    unfold walkLevels
    dsimp only
    by_cases beyond : beyondCap command (executionPrice command.side policy level.price) = true
    · -- no level behind this one is within the cap
      have all : ∀ l ∈ level :: levels, executable command policy consumed l = 0 := by
        intro l mem
        rcases List.mem_cons.1 mem with rfl | deeper
        · exact if_pos beyond
        · exact if_pos (beyondCap_mono (first l deeper) beyond)
      have none : allocate (executable command policy consumed) remaining (level :: levels) =
          (level :: levels).map fun l => (l, 0) := by
        rw [allocate_congr all, allocate_full (fun _ => le_rfl) (by simpa using some.le)]
      rw [if_pos beyond, none, allocated_none]
      rfl
    have own : executable command policy consumed level =
        capacity policy level (consumed.getD (command.side.book, level.price) 0) := if_neg beyond
    rw [if_neg beyond, allocate, positive, own, min_comm (capacity policy level _) remaining]
    generalize debit : consumed.getD (command.side.book, level.price) 0 = old at own ⊢
    have given : 0 ≤ capacity policy level old := capacity_nonneg level old
    generalize capacity policy level old = most at own given ⊢
    by_cases zero : min remaining most = 0
    · have none : most = 0 := by
        rcases min_choice remaining most with here | here
        · exact absurd (here ▸ zero) some.ne'
        · exact here ▸ zero
      have head : allocated command policy ((level, min remaining most) ::
          allocate (executable command policy consumed) (remaining - most) levels) =
          allocated command policy
            (allocate (executable command policy consumed) (remaining - most) levels) := by
        simp [allocated, zero]
      rw [if_pos zero, head, none, sub_zero]
      exact ih later some consumed
    have head : ∀ rest, allocated command policy ((level, min remaining most) :: rest) =
        (level.price, executionPrice command.side policy level.price, min remaining most) ::
          allocated command policy rest := by
      intro rest
      simp [allocated, zero]
    rw [if_neg zero, head]
    by_cases done : remaining - min remaining most = 0
    · have full : remaining ≤ most := by
        have same : min remaining most = remaining := by linarith
        exact min_eq_left_iff.1 same
      rw [if_pos done, allocate_none nonneg (by linarith), allocated_none]
      rfl
    · have partly : min remaining most = most := by
        rcases min_choice remaining most with here | here
        · rw [here, sub_self] at done
          exact absurd rfl done
        · exact here
      have rest : 0 < remaining - most := by
        have le := min_le_left remaining most
        rw [partly] at le done
        exact lt_of_le_of_ne (by linarith) (Ne.symm done)
      rw [if_neg done, partly]
      have same : ∀ l ∈ levels, executable command policy
          (consumed.set (command.side.book, level.price) (old + most)) l =
            executable command policy consumed l :=
        fun l mem => executable_set (first l mem).ne _
      have deeper := ih later rest (consumed.set (command.side.book, level.price) (old + most))
      rw [allocate_congr same] at deeper
      rw [List.map_cons, deeper]
      rfl

theorem allocated_sum (given : List (BookLevel × ℚ)) :
    ((allocated command policy given).map fun taken => taken.2.2).sum = (given.map Prod.snd).sum := by
  induction given with
  | nil => rfl
  | cons p given ih =>
    unfold allocated at ih ⊢
    by_cases zero : p.2 = 0
    · rw [List.filter_cons_of_neg (by simpa using zero), ih, List.map_cons, List.sum_cons, zero, zero_add]
    · rw [List.filter_cons_of_pos (by simpa using zero), List.map_cons, List.map_cons, List.sum_cons, ih,
        List.map_cons, List.sum_cons]

theorem allocated_append (given rest : List (BookLevel × ℚ)) :
    allocated command policy (given ++ rest) =
      allocated command policy given ++ allocated command policy rest := by
  simp [allocated]

/-- Each fill of a walk for an amount on the grid is on it. -/
theorem walkLevels_steps (levels : List BookLevel) (remaining : ℚ) (consumed : Depth)
    (left : OnGrid policy.quantityStep remaining) :
    ∀ fill ∈ (walkLevels command policy levels remaining consumed).1,
      OnGrid policy.quantityStep fill.quantity := by
  induction levels generalizing remaining consumed with
  | nil => exact fun _ mem => absurd mem List.not_mem_nil
  | cons level levels ih =>
    have given := left.min
      (@capacity_onGrid policy level (consumed.getD (command.side.book, level.price) 0))
    unfold walkLevels
    dsimp only
    split
    · exact fun _ mem => absurd mem List.not_mem_nil
    split
    · exact ih _ _ left
    split
    · intro fill mem
      rw [List.mem_singleton.1 mem]
      exact given
    · intro fill mem
      rcases List.mem_cons.1 mem with rfl | later
      · exact given
      · exact ih _ _ (left.sub policy.step_pos given (min_le_left _ _)) fill later

/-- A fill is in whole steps, at a price on the tick, that is no better than the book's and
within the cap. -/
structure ProperFill (command : IOCCommand) (policy : FillAssumptions) (fill : LevelFill) : Prop where
  steps : ∃ n : ℕ, 0 < n ∧ fill.quantity = n * policy.quantityStep
  ticks : ∃ n : ℤ, fill.executionPrice = n * policy.priceTick
  positive : 0 < fill.executionPrice
  adverse : 0 ≤ (fill.executionPrice - fill.bookPrice) * command.side.direction
  within : 0 ≤ (command.priceCap - fill.executionPrice) * command.side.direction

theorem within_of_beyondCap {price : ℚ} (within : beyondCap command price = false) :
    0 < price ∧ 0 ≤ (command.priceCap - price) * command.side.direction := by
  unfold beyondCap at within
  cases side : command.side with
  | BUY =>
    simp only [side, Bool.or_eq_false_iff, decide_eq_false_iff_not, not_le, not_lt] at within
    refine ⟨within.1, ?_⟩
    rw [OrderSide.direction, mul_one]
    exact sub_nonneg.2 within.2
  | SELL =>
    simp only [side, Bool.or_eq_false_iff, decide_eq_false_iff_not, not_le, not_lt] at within
    refine ⟨within.1, ?_⟩
    rw [OrderSide.direction]
    linarith [within.2]

/-- The outcome is the one of price priority on the book of the frame. -/
structure PricePriority {Digest : Type} (command : IOCCommand) (frame : AcceptedBookFrame)
    (policy : FillAssumptions) (consumed : Depth) (o : FillOutcome Digest) : Prop where
  filled : o.filledQuantity = min command.quantity
    ((frame.levels command.side.book).map (executable command policy consumed)).sum
  taken : o.levelFills.map LevelFill.taken = allocated command policy
    (allocate (executable command policy consumed) command.quantity (frame.levels command.side.book))
  prior : ∀ better level worse, frame.levels command.side.book = better ++ level :: worse →
    (∃ fill ∈ o.levelFills, fill.bookPrice = level.price) →
      ∃ rest, o.levelFills.map LevelFill.taken =
        allocated command policy (better.map fun l => (l, executable command policy consumed l)) ++ rest
  stop : ∀ better level worse, frame.levels command.side.book = better ++ level :: worse →
    beyondCap command (executionPrice command.side policy level.price) = true →
      ∀ l ∈ worse, beyondCap command (executionPrice command.side policy l.price) = true
  fills : ∀ fill ∈ o.levelFills, ProperFill command policy fill

/-- A level of the book that is filled is one that the reference gives something. -/
theorem gives_of_filled {better worse : List BookLevel} {level : BookLevel} {left : ℚ} {consumed : Depth}
    (order : (better ++ level :: worse).Pairwise (Receding command.side)) {taken : ℚ × ℚ × ℚ}
    (filled : taken ∈ allocated command policy
      (allocate (executable command policy consumed) left (better ++ level :: worse)))
    (same : taken.1 = level.price) :
    min (executable command policy consumed level)
      (max 0 (left - (better.map (executable command policy consumed)).sum)) ≠ 0 := by
  obtain ⟨p, mem, rfl⟩ := List.mem_map.1 filled
  obtain ⟨mem, some⟩ := List.mem_filter.1 mem
  obtain ⟨-, tail, across⟩ := List.pairwise_append.1 order
  rw [allocate_append, List.mem_append, allocate, List.mem_cons] at mem
  rcases mem with before | here | behind
  · exact absurd same (across p.1 (mem_of_allocate before) level List.mem_cons_self).ne
  · rw [here] at some
    simpa using some
  · exact absurd same.symm ((List.pairwise_cons.1 tail).1 p.1 (mem_of_allocate behind)).ne

/-- The walk of a command on the grid is the one of price priority. -/
theorem walkLevels_priority {Digest : Type} {frame : AcceptedBookFrame} {consumed : Depth}
    {o : FillOutcome Digest} (onGrid : OnGrid policy.quantityStep command.quantity)
    (fills : o.levelFills = (walkLevels command policy (frame.levels command.side.book)
      command.quantity consumed).1)
    (filled : o.filledQuantity = total o.levelFills (·.quantity))
    (each : ∀ fill ∈ o.levelFills, ∃ level ∈ frame.levels command.side.book,
      fill.bookPrice = level.price ∧
        fill.executionPrice = executionPrice command.side policy level.price ∧
        beyondCap command fill.executionPrice = false) :
    PricePriority command frame policy consumed o := by
  have order := levels_receding frame command.side
  have nonneg : ∀ level, 0 ≤ executable command policy consumed level := executable_nonneg consumed
  have taken : (walkLevels command policy _ _ _).1.map LevelFill.taken = _ :=
    walkLevels_allocated _ order command.quantity_pos consumed
  rw [← fills] at taken
  refine ⟨?_, taken, ?_, ?_, ?_⟩
  · have sum := congrArg (fun taken => (taken.map fun t : ℚ × ℚ × ℚ => t.2.2).sum) taken
    rw [allocated_sum, allocate_sum nonneg command.quantity_pos.le, List.map_map] at sum
    rw [filled, ← sum]
    rfl
  · rintro better level worse split ⟨fill, mem, same⟩
    have entry : fill.taken ∈ allocated command policy (allocate (executable command policy consumed)
        command.quantity (frame.levels command.side.book)) := by
      rw [← taken]
      exact List.mem_map_of_mem mem
    rw [split] at order entry taken
    have gives := gives_of_filled order entry same
    rw [allocate_prior nonneg better level worse gives, allocated_append] at taken
    exact ⟨_, taken⟩
  · intro better level worse split beyond l mem
    rw [split] at order
    have behind := (List.pairwise_cons.1 (List.pairwise_append.1 order).2.1).1 l mem
    exact beyondCap_mono behind beyond
  · intro fill mem
    obtain ⟨level, -, book, price, within⟩ := each fill mem
    obtain ⟨positive, capped⟩ := within_of_beyondCap within
    have some := (walkLevels_fills _ command.quantity_pos.le consumed fill (fills ▸ mem)).1
    obtain ⟨n, steps⟩ := walkLevels_steps _ _ consumed onGrid fill (fills ▸ mem)
    refine ⟨⟨n, ?_, steps⟩, ?_, positive, ?_, capped⟩
    · by_contra none
      have zero : n = 0 := by omega
      rw [steps, zero, Nat.cast_zero, zero_mul] at some
      exact lt_irrefl _ some
    · rw [price, Arithmetic.executionPrice_eq]
      cases command.side with
      | BUY => exact ⟨_, rfl⟩
      | SELL => exact ⟨_, rfl⟩
    · rw [price, book]
      exact executionPrice_adverse command.side policy level.price_pos

end Walk

namespace Arithmetic

variable {Digest : Type} [DecidableEq Digest] {sha : Content → Digest} {command : IOCCommand}
  {frame : AcceptedBookFrame} {policy : FillAssumptions} {state : LiquidityState Digest} {asOfMs : ℕ}

/-- The state is valid, and its debits have so few decimals that subtracting them is exact. -/
structure Debited (state : LiquidityState Digest) : Prop where
  valid : validateState context state = .ok state
  short : ∀ entry ∈ state.consumedDepth, Decimals 77 entry.2

theorem Debited.kept (debited : Debited state) : Kept 77 state.consumedDepth := by
  intro entry mem
  have coherent := coherent_iff.1 (validateState_eq_ok.1 debited.valid).2.1
  exact ⟨coherent.positive entry mem, debited.short entry mem⟩

omit [DecidableEq Digest] in
theorem onGrid_of_commandIssue {arrival : ℕ} (passes : commandIssue command policy arrival = none) :
    OnGrid policy.quantityStep command.quantity := by
  refine onGrid_of_offGrid policy.step_pos command.quantity_pos.le ?_
  unfold commandIssue at passes
  split_ifs at passes with _ _ _ off
  simpa using off

/-- The shortfall of every outcome is nonnegative. -/
theorem judge_shortfall (own : Bounded 77 command frame policy state.consumedDepth) :
    0 ≤ (judge context sha command frame policy state asOfMs).1.implementationShortfallQuote := by
  rw [own.judge_exact (by norm_num) le_rfl]
  show 0 ≤ (Simulation.judge sha command frame policy state asOfMs).1.implementationShortfallQuote
  unfold Simulation.judge
  dsimp only
  cases commandIssue command policy (command.submittedAtMs + policy.latencyMs) with
  | some reason => exact le_rfl
  | none =>
    dsimp only
    cases issue : frameIssue sha frame state (command.submittedAtMs + policy.latencyMs) policy with
    | some issue => exact le_rfl
    | none =>
      refine shortfall_nonneg _ _ _ fun fill mem => ?_
      obtain ⟨positive, level, book, -, price⟩ :=
        walkLevels_fills _ command.quantity_pos.le state.consumedDepth fill mem
      have slipped := executionPrice_adverse command.side policy level.price_pos
      have above := mid_between (soundFrame_of_issue issue).admitted book
      rw [price]
      exact ⟨positive.le, by linarith⟩

/-- A command that passes the guards fills by price priority, and no outcome has a negative
shortfall. -/
theorem judge_price_priority (debited : Debited state) (fielded : Fielded command frame policy) :
    (commandIssue command policy (arrivalOf command policy) = none →
      frameIssue sha frame state (arrivalOf command policy) policy = none →
      PricePriority command frame policy state.consumedDepth
        (judge context sha command frame policy state asOfMs).1) ∧
      0 ≤ (judge context sha command frame policy state asOfMs).1.implementationShortfallQuote := by
  have own := bounded fielded.commanded fielded.framed fielded.policed debited.kept
  refine ⟨fun passes clean => ?_, judge_shortfall own⟩
  have each := (own.fills (by norm_num) le_rfl).each
  have outcome : (judge context sha command frame policy state asOfMs).1 =
      rounded (Simulation.walked sha command frame policy (Simulation.walk command frame policy state).1) := by
    rw [own.judge_exact (by norm_num) le_rfl]
    show rounded (Simulation.judge sha command frame policy state asOfMs).1 = _
    unfold Simulation.judge
    dsimp only
    rw [passes]
    dsimp only
    rw [clean]
  rw [outcome]
  refine walkLevels_priority (onGrid_of_commandIssue passes) rfl rfl fun fill mem => ?_
  have filled := each fill mem
  obtain ⟨level, book, -, price, executed⟩ := filled.level
  exact ⟨level, book, price, executed, filled.within⟩

section Sample

theorem judge_price_priority_sample : PricePriority (sampleCommand "b" 20) (sampleFrame 2 .ADMITTED)
    samplePolicy sampleReached.consumedDepth
    (judge context id (sampleCommand "b" 20) (sampleFrame 2 .ADMITTED) samplePolicy sampleReached 25).1 :=
  (judge_price_priority ⟨(sampleReached_reached.sound rfl freshState_valid).valid, fun entry mem =>
      ((sampleReached_reached.sound rfl freshState_valid).kept entry mem).2.mono (by norm_num)⟩
    ⟨by decide +kernel, by decide +kernel, by decide +kernel⟩).1 (by decide +kernel) (by decide +kernel)

/-- A state with a debit that is too small to be seen beside what is displayed. -/
def fineState : LiquidityState Content :=
  { freshState Content with
    assumptionsSha256 := some (.assumptions samplePolicy)
    consumedDepth := [((.ASK, 100), 1 / 10 ^ 120)] }

/-- An order for more than the book displays. -/
def largeCommand : IOCCommand :=
  { sampleCommand "a" 10 with
    quantity := 5 / 2
    quantity_pos := by norm_num }

/-- Subtracting such a debit is rounded away, and the level fills a step more than it has. -/
theorem judge_beyond_capacity : validateState context fineState = .ok fineState ∧
    Fielded largeCommand (sampleFrame 1 .ADMITTED) samplePolicy ∧
    commandIssue largeCommand samplePolicy (arrivalOf largeCommand samplePolicy) = none ∧
    frameIssue id (sampleFrame 1 .ADMITTED) fineState (arrivalOf largeCommand samplePolicy)
      samplePolicy = none ∧
    (judge context id largeCommand (sampleFrame 1 .ADMITTED) samplePolicy fineState 15).1.filledQuantity ≠
      min largeCommand.quantity (((sampleFrame 1 .ADMITTED).levels largeCommand.side.book).map
        (executable largeCommand samplePolicy fineState.consumedDepth)).sum :=
  ⟨validateState_eq_ok.2 ⟨by decide +kernel, by decide +kernel, rfl⟩,
    ⟨by decide +kernel, by decide +kernel, by decide +kernel⟩, by decide +kernel, by decide +kernel,
    by decide +kernel⟩

end Sample

end Arithmetic

end KairosExecution.Simulation
