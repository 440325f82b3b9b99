import KairosExecution.Simulation.Run

/-! The debit of displayed depth. A walk adds to the debit of a side and price exactly
what it fills there, and only up to what its own frame displays there, so over a run the
debit is the sum of the recorded fills and never beyond what some frame has shown. -/

namespace KairosExecution.Simulation

open Python

variable {Digest : Type} [DecidableEq Digest] {sha : Content → Digest}

/-- What the fills take at one book price. -/
def filledAt (price : ℚ) (fills : List LevelFill) : ℚ :=
  total (fills.filter fun fill => fill.bookPrice = price) (·.quantity)

theorem filledAt_cons (price : ℚ) (fill : LevelFill) (fills : List LevelFill) :
    filledAt price (fill :: fills) =
      (if fill.bookPrice = price then fill.quantity else 0) + filledAt price fills := by
  by_cases same : fill.bookPrice = price
  · simp [filledAt, total, same]
  · simp [filledAt, total, same]

section Walk

variable {command : IOCCommand} {policy : FillAssumptions}

theorem capacity_nonneg (level : BookLevel) (debit : ℚ) : 0 ≤ capacity policy level debit := by
  have step := policy.step_pos
  have available : (0 : ℚ) ≤ max 0 (level.quantity * policy.depthParticipationFraction - debit) :=
    le_max_left _ _
  have whole : (0 : ℤ) ≤ Rat.floor
      (max 0 (level.quantity * policy.depthParticipationFraction - debit) / policy.quantityStep) := by
    rw [Rat.le_floor_iff]
    exact_mod_cast div_nonneg available step.le
  exact mul_nonneg (by exact_mod_cast whole) step.le

/-- A level gives no more than what it displays beyond its debit. -/
theorem capacity_le (level : BookLevel) (debit : ℚ) :
    capacity policy level debit ≤
      max 0 (level.quantity * policy.depthParticipationFraction - debit) := by
  have step := policy.step_pos
  have floor := Rat.floor_le
    (max 0 (level.quantity * policy.depthParticipationFraction - debit) / policy.quantityStep)
  exact (le_div_iff₀ step).1 floor

/-- A level that gives something is then debited at most what it displays. -/
theorem debit_le {level : BookLevel} {debit quantity : ℚ} (positive : 0 < quantity)
    (le : quantity ≤ capacity policy level debit) :
    debit + quantity ≤ level.quantity * policy.depthParticipationFraction := by
  have bound := le.trans (capacity_le level debit)
  rcases le_max_iff.1 bound with none | some
  · linarith
  · linarith

/-- One fill of the walk, as the debit of its price sees it. -/
theorem getD_fill (command : IOCCommand) (consumed : Depth) (side : BookSide) (price : ℚ) (fill : LevelFill) :
    (consumed.set (command.side.book, fill.bookPrice)
        (consumed.getD (command.side.book, fill.bookPrice) 0 + fill.quantity)).getD (side, price) 0 =
      consumed.getD (side, price) 0 + if command.side.book = side then
        if fill.bookPrice = price then fill.quantity else 0 else 0 := by
  rw [Dict.getD_set]
  by_cases own : command.side.book = side
  · by_cases here : fill.bookPrice = price
    · simp [own, here]
    · have other : ¬price = fill.bookPrice := fun h => here h.symm
      simp [own, here, other]
  · have other : ¬side = command.side.book := fun h => own h.symm
    simp [own, other]

/-- The walk debits each price with what it fills there, and leaves the other side alone. -/
theorem walkLevels_debit (levels : List BookLevel) (remaining : ℚ) (consumed : Depth)
    (side : BookSide) (price : ℚ) :
    (walkLevels command policy levels remaining consumed).2.getD (side, price) 0 =
      consumed.getD (side, price) 0 + if command.side.book = side then
        filledAt price (walkLevels command policy levels remaining consumed).1 else 0 := by
  induction levels generalizing remaining consumed with
  | nil => simp [walkLevels, filledAt, total]
  | cons level levels ih =>
    let fill : LevelFill := {
      bookPrice := level.price
      executionPrice := executionPrice command.side policy level.price
      quantity := min remaining
        (capacity policy level (consumed.getD (command.side.book, level.price) 0))
      feeQuote := min remaining
        (capacity policy level (consumed.getD (command.side.book, level.price) 0))
          * executionPrice command.side policy level.price * policy.takerFeeBps / 10_000 }
    have step := getD_fill command consumed side price fill
    unfold walkLevels
    dsimp only
    split
    · simp [filledAt, total]
    split
    · exact ih _ _
    split
    · rw [filledAt_cons]
      simpa [filledAt, total] using step
    · rw [filledAt_cons, ih]
      refine (congrArg (· + _) step).trans ?_
      by_cases own : command.side.book = side
      · simp only [if_pos own]
        ring
      · simp only [if_neg own]
        ring

theorem walkLevels_unique (levels : List BookLevel) (remaining : ℚ) {consumed : Depth}
    (unique : consumed.Unique) :
    (walkLevels command policy levels remaining consumed).2.Unique := by
  induction levels generalizing remaining consumed with
  | nil => exact unique
  | cons level levels ih =>
    unfold walkLevels
    dsimp only
    split
    · exact unique
    split
    · exact ih _ unique
    split
    · exact unique.set _ _
    · exact ih _ (unique.set _ _)

variable (command policy) in
/-- What the walk debits stays within what its own levels display. -/
theorem walkLevels_displayed (levels : List BookLevel) {remaining : ℚ} (left : 0 ≤ remaining)
    (consumed : Depth) (side : BookSide) (price : ℚ) :
    (walkLevels command policy levels remaining consumed).2.getD (side, price) 0 =
        consumed.getD (side, price) 0 ∨
      side = command.side.book ∧ ∃ level ∈ levels, level.price = price ∧
        (walkLevels command policy levels remaining consumed).2.getD (side, price) 0 ≤
          level.quantity * policy.depthParticipationFraction := by
  induction levels generalizing remaining consumed with
  | nil => exact .inl rfl
  | cons level levels ih =>
    have deeper : ∀ {x y : ℚ}, (x = y ∨ side = command.side.book ∧ ∃ level ∈ levels,
        level.price = price ∧ x ≤ level.quantity * policy.depthParticipationFraction) →
        x = y ∨ side = command.side.book ∧ ∃ l ∈ level :: levels,
        l.price = price ∧ x ≤ l.quantity * policy.depthParticipationFraction := by
      rintro x y (same | ⟨own, l, hl, rest⟩)
      · exact .inl same
      · exact .inr ⟨own, l, List.mem_cons_of_mem _ hl, rest⟩
    unfold walkLevels
    dsimp only
    split
    · exact .inl rfl
    split
    · exact deeper (ih left _)
    rename_i hq
    -- the level is debited once, up to what it displays
    have positive : 0 < min remaining
        (capacity policy level (consumed.getD (command.side.book, level.price) 0)) :=
      lt_of_le_of_ne (le_min left (capacity_nonneg _ _)) (Ne.symm hq)
    have bound := debit_le positive (min_le_right _ _)
    have set_cases : ∀ value : ℚ, value ≤ level.quantity * policy.depthParticipationFraction →
        (consumed.set (command.side.book, level.price) value).getD (side, price) 0 =
          consumed.getD (side, price) 0 ∨
        side = command.side.book ∧ level.price = price ∧
        (consumed.set (command.side.book, level.price) value).getD (side, price) 0 ≤
          level.quantity * policy.depthParticipationFraction := by
      intro value le
      rw [Dict.getD_set]
      split
      · rename_i same
        obtain ⟨rfl, rfl⟩ := Prod.mk.inj same
        exact .inr ⟨rfl, rfl, le⟩
      · exact .inl rfl
    have here := set_cases _ bound
    split
    · rcases here with same | ⟨own, at', le⟩
      · exact .inl same
      · exact .inr ⟨own, level, List.mem_cons_self, at', le⟩
    · have rest : 0 ≤ remaining - min remaining
          (capacity policy level (consumed.getD (command.side.book, level.price) 0)) :=
        sub_nonneg.2 (min_le_left _ _)
      rcases ih rest (consumed.set (command.side.book, level.price) _) with same | deep
      · rcases here with same' | ⟨own, at', le⟩
        · exact .inl (same.trans same')
        · exact .inr ⟨own, level, List.mem_cons_self, at', same.trans_le le⟩
      · obtain ⟨own, l, hl, rest⟩ := deep
        exact .inr ⟨own, l, List.mem_cons_of_mem _ hl, rest⟩

end Walk

section Runs

variable {start state : LiquidityState Digest} {entries : List (Entry Digest)}

/-- What a command that ends fills and debits: nothing, or what its walk does. -/
theorem judge_depth (sha : Content → Digest) (command : IOCCommand) (frame : AcceptedBookFrame) (policy : FillAssumptions)
    (state : LiquidityState Digest) (asOfMs : ℕ) :
    ((judge sha command frame policy state asOfMs).1.levelFills = [] ∧
      (judge sha command frame policy state asOfMs).2.consumedDepth = state.consumedDepth) ∨
    ((judge sha command frame policy state asOfMs).1.levelFills =
        (walkLevels command policy (frame.levels command.side.book) command.quantity
          state.consumedDepth).1 ∧
      (judge sha command frame policy state asOfMs).2.consumedDepth =
        (walkLevels command policy (frame.levels command.side.book) command.quantity
          state.consumedDepth).2.sorted keyOrder) := by
  unfold judge
  dsimp only
  split
  · exact .inl ⟨rfl, rfl⟩
  split
  · exact .inl ⟨rfl, rfl⟩
  · exact .inr ⟨rfl, rfl⟩

/-- What a recorded receipt took at a side and price. -/
def Entry.debit (e : Entry Digest) (side : BookSide) (price : ℚ) : ℚ :=
  if e.command.side.book = side then filledAt price e.step.outcome.levelFills else 0

/-- The sum of the fills at a side and price over all recorded receipts. -/
def debited (entries : List (Entry Digest)) (side : BookSide) (price : ℚ) : ℚ :=
  ((recorded entries).map fun e => e.debit side price).sum

/-- The state's debits are those of the recorded receipts, within what was displayed. -/
structure Debited (sha : Content → Digest) (policy : FillAssumptions)
    (entries : List (Entry Digest)) (state : LiquidityState Digest) : Prop where
  receipts : state.receipts = ((recorded entries).map (Entry.receipt sha)).reverse
  unique : state.consumedDepth.Unique
  positive : ∀ entry ∈ state.consumedDepth, 0 < entry.2
  exact : ∀ side price, state.consumedDepth.getD (side, price) 0 = debited entries side price
  displayed : ∀ side price, state.consumedDepth.getD (side, price) 0 = 0 ∨
    ∃ e ∈ entries, ∃ level ∈ e.frame.levels side, level.price = price ∧
      state.consumedDepth.getD (side, price) 0 ≤ level.quantity * policy.depthParticipationFraction

omit [DecidableEq Digest] in
/-- A call that records nothing leaves the account as it is. -/
theorem Debited.skip {policy : FillAssumptions} (account : Debited sha policy entries state)
    {e : Entry Digest} (silent : e.recorded = false) : Debited sha policy (e :: entries) state := by
  have same : recorded (e :: entries) = recorded entries := by simp [recorded, silent]
  refine ⟨by rw [same]; exact account.receipts, account.unique, account.positive, ?_, ?_⟩
  · intro side price
    rw [debited, same]
    exact account.exact side price
  · intro side price
    refine (account.displayed side price).imp_right ?_
    rintro ⟨x, hx, rest⟩
    exact ⟨x, List.mem_cons_of_mem _ hx, rest⟩

theorem positive_of_coherent (coherent : state.coherent = .ok ()) :
    ∀ entry ∈ state.consumedDepth, 0 < entry.2 := by
  obtain ⟨_, _, h⟩ := bind_eq_ok.1 coherent
  obtain ⟨_, _, h⟩ := bind_eq_ok.1 h
  obtain ⟨_, positive, _⟩ := bind_eq_ok.1 h
  simpa using positive

/-- What a command that ends does to the debit of a side and price. -/
theorem ended_debit (command : IOCCommand) (frame : AcceptedBookFrame) (policy : FillAssumptions)
    (unique : state.consumedDepth.Unique) (asOfMs : ℕ) (side : BookSide) (price : ℚ) :
    (ended sha command frame policy state asOfMs).consumedDepth.getD (side, price) 0 =
      state.consumedDepth.getD (side, price) 0 + if command.side.book = side then
        filledAt price (judge sha command frame policy state asOfMs).1.levelFills else 0 := by
  show (judge sha command frame policy state asOfMs).2.consumedDepth.getD (side, price) 0 = _
  rcases judge_depth sha command frame policy state asOfMs with ⟨hf, hd⟩ | ⟨hf, hd⟩
  · rw [hf, hd]
    simp [filledAt, total]
  · rw [hf, hd, (walkLevels_unique _ _ unique).getD_perm (Dict.sorted_perm _ _)]
    exact walkLevels_debit _ _ _ side price

theorem ended_unique (command : IOCCommand) (frame : AcceptedBookFrame) (policy : FillAssumptions)
    (unique : state.consumedDepth.Unique) (asOfMs : ℕ) :
    (ended sha command frame policy state asOfMs).consumedDepth.Unique := by
  show (judge sha command frame policy state asOfMs).2.consumedDepth.Unique
  rcases judge_depth sha command frame policy state asOfMs with ⟨-, hd⟩ | ⟨-, hd⟩
  · rw [hd]
    exact unique
  · rw [hd]
    exact (((Dict.sorted_perm _ _).map Prod.fst).nodup_iff).2 (walkLevels_unique _ _ unique)

/-- Where a command that ends changes a debit, its frame displays as much. -/
theorem ended_displayed (sha : Content → Digest) (command : IOCCommand) (frame : AcceptedBookFrame)
    (policy : FillAssumptions) (unique : state.consumedDepth.Unique) (asOfMs : ℕ)
    (side : BookSide) (price : ℚ) :
    (ended sha command frame policy state asOfMs).consumedDepth.getD (side, price) 0 =
        state.consumedDepth.getD (side, price) 0 ∨
      ∃ level ∈ frame.levels side, level.price = price ∧
        (ended sha command frame policy state asOfMs).consumedDepth.getD (side, price) 0 ≤
          level.quantity * policy.depthParticipationFraction := by
  show (judge sha command frame policy state asOfMs).2.consumedDepth.getD (side, price) 0 = _ ∨
    ∃ level ∈ frame.levels side, level.price = price ∧
      (judge sha command frame policy state asOfMs).2.consumedDepth.getD (side, price) 0 ≤ _
  rcases judge_depth sha command frame policy state asOfMs with ⟨-, hd⟩ | ⟨-, hd⟩
  · rw [hd]
    exact .inl rfl
  · rw [hd, (walkLevels_unique _ _ unique).getD_perm (Dict.sorted_perm _ _)]
    rcases walkLevels_displayed command policy (frame.levels command.side.book)
      command.quantity_pos.le state.consumedDepth side price with same | ⟨rfl, shown⟩
    · exact .inl same
    · exact .inr shown

/-- A command that ends adds its own fills to the account. -/
theorem Debited.ended {policy : FillAssumptions} (account : Debited sha policy entries state)
    (command : IOCCommand) (frame : AcceptedBookFrame) (asOfMs : ℕ)
    (valid : (ended sha command frame policy state asOfMs).validate =
      .ok (ended sha command frame policy state asOfMs)) :
    Debited sha policy (⟨command, frame, policy, asOfMs,
      (judge sha command frame policy state asOfMs).1, Simulation.ended sha command frame policy state asOfMs,
        false⟩ :: entries) (Simulation.ended sha command frame policy state asOfMs) := by
  refine ⟨?_, ended_unique command frame policy account.unique asOfMs,
    positive_of_coherent (validate_eq_ok.1 valid).1, fun side price => ?_, fun side price => ?_⟩
  · rw [recorded_ended, List.map_cons, List.reverse_cons, ← account.receipts]
    rfl
  · rw [debited, recorded_ended, List.map_cons, List.sum_cons, ended_debit _ _ _ account.unique,
      account.exact, add_comm]
    rfl
  · rcases ended_displayed sha command frame policy account.unique asOfMs side price with
      same | ⟨level, hl, at', le⟩
    · rw [same]
      refine (account.displayed side price).imp_right ?_
      rintro ⟨x, hx, rest⟩
      exact ⟨x, List.mem_cons_of_mem _ hx, rest⟩
    · exact .inr ⟨_, List.mem_cons_self, level, hl, at', le⟩

/-- Consumed depth is never replenished: in every state of a run under one set of
assumptions, each debit is the sum of the recorded fills at its side and price, and no
larger than what some frame of the run displays there. -/
theorem consumed_depth_debited {policy : FillAssumptions} (run : Run sha start entries state)
    (unused : start.receipts = [] ∧ start.consumedDepth = [])
    (assumed : ∀ e ∈ entries, e.assumptions = policy) : Debited sha policy entries state := by
  induction run with
  | start =>
    refine ⟨by rw [unused.1]; rfl, by rw [unused.2]; exact List.nodup_nil, ?_, ?_, ?_⟩
    · rw [unused.2]
      exact fun _ he => nomatch he
    · intro side price
      rw [unused.2]
      rfl
    · intro side price
      rw [unused.2]
      exact .inl rfl
  | @served entries state before command frame assumptions asOfMs step ok ih =>
    have account := ih fun e he => assumed e (List.mem_cons_of_mem _ he)
    obtain rfl := assumed _ List.mem_cons_self
    obtain ⟨-, served⟩ := simulateIoc_ok ok
    cases served with
    | replayed receipt => exact account.skip rfl
    | waiting => exact account.skip rfl
    | ended _ _ _ _ _ valid => exact account.ended command frame asOfMs valid
  | raised _ _ _ _ _ _ _ ih => exact ih assumed

/-- Three orders of the sample run end at the book or before it; the asks at 100 and 101
are debited up to half of what they display. -/
theorem consumed_depth_debited_sample : Debited id samplePolicy sampleRun.1 sampleRun.2 ∧
    sampleRun.2.consumedDepth = [((.ASK, 100), 1 / 2), ((.ASK, 101), 2)] :=
  ⟨consumed_depth_debited sampleRun_run ⟨rfl, rfl⟩ (by decide +kernel), by decide +kernel⟩

end Runs

end KairosExecution.Simulation
