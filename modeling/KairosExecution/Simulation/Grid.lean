import KairosExecution.Simulation.Depth
import KairosExecution.Simulation.Evaluation

/-! Fills in whole steps. A command off the grid of its session is not filled, and a level
gives whole steps of one that is on it, so that a model fill is one step at least. Where
the step is an amount of the float contract, rounding cannot make a fill vanish: what a
receipt calls a fill has a positive quantity. -/

namespace KairosExecution.Simulation

open Python

/-- The amount is a whole number of steps. -/
def OnGrid (step amount : ℚ) : Prop := ∃ n : ℕ, amount = n * step

section Grid

variable {step a b : ℚ}

theorem OnGrid.zero : OnGrid step 0 := ⟨0, by simp⟩

theorem OnGrid.add (left : OnGrid step a) (right : OnGrid step b) : OnGrid step (a + b) := by
  obtain ⟨n, rfl⟩ := left
  obtain ⟨m, rfl⟩ := right
  exact ⟨n + m, by push_cast; ring⟩

theorem OnGrid.sub (positive : 0 < step) (left : OnGrid step a) (right : OnGrid step b) (le : b ≤ a) :
    OnGrid step (a - b) := by
  obtain ⟨n, rfl⟩ := left
  obtain ⟨m, rfl⟩ := right
  have order : m ≤ n := by
    have cast := le_of_mul_le_mul_right le positive
    exact_mod_cast cast
  exact ⟨n - m, by rw [Nat.cast_sub order]; ring⟩

theorem OnGrid.min (left : OnGrid step a) (right : OnGrid step b) : OnGrid step (min a b) := by
  rcases min_choice a b with same | same
  · rwa [same]
  · rwa [same]

/-- An amount on the grid, if any, is one step at least. -/
theorem OnGrid.step_le (positive : 0 < step) (own : OnGrid step a) (some : a ≠ 0) : step ≤ a := by
  obtain ⟨n, rfl⟩ := own
  have count : 1 ≤ n := by
    by_contra none
    have zero : n = 0 := by omega
    simp [zero] at some
  have one : (1 : ℚ) ≤ n := by exact_mod_cast count
  have scaled := mul_le_mul_of_nonneg_right one positive.le
  simpa using scaled

/-- What `offGrid` lets pass is on the grid. -/
theorem onGrid_of_offGrid (positive : 0 < step) (nonneg : 0 ≤ a) (passes : offGrid a step = false) :
    OnGrid step a := by
  have whole : a = step * Rat.floor (a / step) := by
    simpa [offGrid, sub_eq_zero] using passes
  have floor : 0 ≤ Rat.floor (a / step) := by
    rw [Rat.le_floor_iff]
    exact_mod_cast div_nonneg nonneg positive.le
  obtain ⟨n, count⟩ := Int.eq_ofNat_of_zero_le floor
  rw [count] at whole
  refine ⟨n, whole.trans ?_⟩
  rw [Int.cast_natCast, mul_comm]

end Grid

section Walk

variable {command : IOCCommand} {policy : FillAssumptions}

theorem capacity_onGrid (level : BookLevel) (debit : ℚ) :
    OnGrid policy.quantityStep (capacity policy level debit) := by
  have floor : 0 ≤ Rat.floor
      (max 0 (level.quantity * policy.depthParticipationFraction - debit) / policy.quantityStep) := by
    rw [Rat.le_floor_iff]
    exact_mod_cast div_nonneg (le_max_left _ _) policy.step_pos.le
  obtain ⟨n, count⟩ := Int.eq_ofNat_of_zero_le floor
  refine ⟨n, ?_⟩
  unfold capacity
  dsimp only
  rw [count, Int.cast_natCast]

/-- A walk for an amount on the grid fills amounts on the grid. -/
theorem walkLevels_onGrid (levels : List BookLevel) (remaining : ℚ) (consumed : Depth)
    (left : OnGrid policy.quantityStep remaining) :
    OnGrid policy.quantityStep (total (walkLevels command policy levels remaining consumed).1
      (·.quantity)) := by
  induction levels generalizing remaining consumed with
  | nil => exact .zero
  | cons level levels ih =>
    have given := left.min
      (@capacity_onGrid policy level (consumed.getD (command.side.book, level.price) 0))
    unfold walkLevels
    dsimp only
    split
    · exact .zero
    split
    · exact ih _ _ left
    split
    · simpa [total] using given
    · have rest := ih _ (consumed.set (command.side.book, level.price)
        (consumed.getD (command.side.book, level.price) 0 + min remaining
          (capacity policy level (consumed.getD (command.side.book, level.price) 0))))
        (left.sub policy.step_pos given (min_le_left _ _))
      simpa [total] using given.add rest

variable {Digest : Type} [DecidableEq Digest]

/-- What the model calls a fill is one step at least. -/
theorem judge_step_le (sha : Content → Digest) (command : IOCCommand) (frame : AcceptedBookFrame)
    (policy : FillAssumptions) (state : LiquidityState Digest) (asOfMs : ℕ) :
    (judge sha command frame policy state asOfMs).1.status.fills = true →
      policy.quantityStep ≤ (judge sha command frame policy state asOfMs).1.filledQuantity := by
  unfold judge
  dsimp only
  cases accepted : commandIssue command policy (command.submittedAtMs + policy.latencyMs) with
  | some reason => exact fun fills => nomatch fills
  | none =>
    dsimp only
    cases frameIssue sha frame state (command.submittedAtMs + policy.latencyMs) policy with
    | some issue => exact fun fills => nomatch fills
    | none =>
      intro fills
      have onGrid : OnGrid policy.quantityStep command.quantity := by
        refine onGrid_of_offGrid policy.step_pos command.quantity_pos.le ?_
        unfold commandIssue at accepted
        split_ifs at accepted with _ _ _ off
        simpa using off
      have filled := @walkLevels_onGrid command policy (frame.levels command.side.book) _
        state.consumedDepth onGrid
      refine filled.step_le policy.step_pos fun none => ?_
      have empty : total (walk command frame policy state).1 (·.quantity) = 0 := none
      simp [walked, unfilled, empty, Status.fills] at fills

end Walk

section Receipt

variable {Digest : Type} [DecidableEq Digest] {sha : Content → Digest} {contract : FloatContract}
  {command : SimulationCommand} {receipt : SimulationReceipt Digest}

/-- The quantity step of the session is an amount of the float contract. -/
def Sized (contract : FloatContract) (trade : SimulationTrade) : Prop :=
  contract.value trade.admission.session.assumptions.quantityStep =
    trade.admission.session.assumptions.quantityStep

/-- What the receipt calls a fill has a positive quantity of the contract. -/
structure Backed (contract : FloatContract) (receipt : SimulationReceipt Digest) : Prop where
  positive : receipt.status.fills = true → 0 < receipt.filledQuantity
  rounded : contract.value receipt.filledQuantity = receipt.filledQuantity

omit [DecidableEq Digest] in
/-- A fill of one step or more is one after rounding. -/
theorem commandReceipt_backed {outcome : FillOutcome Digest} {frame : Option AcceptedBookFrame}
    (sized : Sized contract command.trade)
    (made : commandReceipt sha command outcome frame contract = .ok receipt)
    (step : outcome.status.fills = true →
      command.trade.admission.session.assumptions.quantityStep ≤ outcome.filledQuantity) :
    Backed contract receipt := by
  have rounded : outcome.status.fills = true → 0 < contract.value outcome.filledQuantity := by
    intro filled
    have le := contract.mono (step filled)
    rw [sized] at le
    exact command.trade.admission.session.assumptions.step_pos.trans_le le
  unfold commandReceipt at made
  dsimp only at made
  split at made
  · cases made
  split at made
  · rename_i positive
    split at made
    · cases made
    · cases made
    · cases made
    · cases made
      exact ⟨fun _ => positive, contract.idempotent _⟩
  · rename_i none
    cases made
    exact ⟨fun fills => absurd (rounded fills) none, contract.zero⟩

/-- What the model makes of a command on a frame is backed. -/
theorem evaluateOn_backed {state next : LiquidityState Digest} {asOfMs : ℕ}
    {frame : Option AcceptedBookFrame} (sized : Sized contract command.trade)
    (fresh : ∀ receipt ∈ state.receipts, receipt.commandId ≠ command.commandId)
    (made : evaluateOn sha command state asOfMs frame contract = .ok (receipt, next)) :
    Backed contract receipt := by
  cases frame with
  | none =>
    obtain ⟨step, model, made⟩ := bind_eq_ok.1 made
    obtain ⟨receipt', own, made⟩ := bind_eq_ok.1 made
    cases made
    obtain ⟨-, outcome, -⟩ := terminalWithoutBook_advanced (fromModel_ok.1 model)
    refine commandReceipt_backed sized own fun fills => ?_
    rw [outcome] at fills
    cases fills
  | some frame =>
    obtain ⟨_, -, made⟩ := bind_eq_ok.1 made
    obtain ⟨step, model, made⟩ := bind_eq_ok.1 made
    obtain ⟨receipt', own, made⟩ := bind_eq_ok.1 made
    cases made
    refine commandReceipt_backed sized own ?_
    obtain ⟨-, served⟩ := simulateIoc_ok (fromModel_ok.1 model)
    cases served with
    | replayed receipt mem id => exact absurd id (fresh receipt mem)
    | waiting => exact fun fills => nomatch fills
    | ended => exact judge_step_le sha _ frame _ state asOfMs

end Receipt

end KairosExecution.Simulation
