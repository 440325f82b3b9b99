import KairosExecution.Simulation.Precision

/-! What a session reaches in the decimal context. Debits are whole steps of what was
displayed, so on every state that a session can reach the walk is the exact one, and what
it builds is within the bounds of its fields: no call fails because of what it made
itself. -/

namespace KairosExecution.Simulation.Arithmetic

open Python

variable {Digest : Type} [DecidableEq Digest] {sha : Content → Digest} {command : IOCCommand}
  {frame : AcceptedBookFrame} {policy : FillAssumptions} {state : LiquidityState Digest} {asOfMs : ℕ}

section Bounds

variable {value : ℚ} {k : ℕ}

/-- A value below `1e40`, of at most 120 decimals. -/
theorem calculatedNonnegative_of (nonneg : 0 ≤ value) (small : value < 10 ^ 40)
    (decimals : Decimals k value) (le : k ≤ 120) : calculatedNonnegative value = true := by
  simp only [calculatedNonnegative, Bool.and_eq_true, decide_eq_true_eq, digitsFit_iff]
  refine ⟨⟨nonneg, small.le⟩, decimals.mono le, ?_⟩
  rw [abs_of_nonneg nonneg]
  exact small

theorem calculatedPositive_of (positive : 0 < value) (small : value < 10 ^ 40)
    (decimals : Decimals k value) (le : k ≤ 120) : calculatedPositive value = true := by
  have nonneg := calculatedNonnegative_of positive.le small decimals le
  simp only [calculatedNonnegative, calculatedPositive, Bool.and_eq_true, decide_eq_true_eq] at nonneg ⊢
  exact ⟨⟨positive, nonneg.1.2⟩, nonneg.2⟩

end Bounds

section Outcomes

omit [DecidableEq Digest]

variable {levels : List BookLevel} {fills : List LevelFill}

theorem validateOutcome_eq_ok {c : Context} {o o' : FillOutcome Digest} :
    validateOutcome c o = .ok o' ↔ outcomeFields o = true ∧ coherentOutcome c o = .ok () ∧ o' = o := by
  unfold validateOutcome
  rw [refuse_bind_eq_ok, bind_eq_ok, Bool.not_eq_false']
  constructor
  · rintro ⟨fields, _, coherent, h⟩
    cases h
    exact ⟨fields, coherent, rfl⟩
  · rintro ⟨fields, coherent, rfl⟩
    exact ⟨fields, (), coherent, rfl⟩

theorem Filled.price_pos {fill : LevelFill} (own : Filled command policy levels fill) :
    0 < fill.executionPrice := by
  have within := own.within
  unfold beyondCap at within
  rw [Bool.or_eq_false_iff, decide_eq_false_iff_not, not_le] at within
  exact within.1

theorem Filled.fields {fill : LevelFill} (policed : Policed policy)
    (own : Filled command policy levels fill) : fillFields fill = true := by
  obtain ⟨level, -, amount, book, -⟩ := own.level
  obtain ⟨nonneg, le⟩ := exactFee_range policy own.quantity own.price
  have most := mul_le_mul_of_nonneg_right own.quantity.le (by norm_num : (0 : ℚ) ≤ 10 ^ 18)
  simp only [fillFields, Bool.and_eq_true, positiveAmount_iff]
  refine ⟨⟨⟨?_, ?_⟩, own.positive, own.quantity⟩, ?_⟩
  · rw [book]
    exact ⟨level.price_pos, amount⟩
  · exact calculatedPositive_of own.price_pos (own.price.le.trans_lt (by norm_num))
      own.price.decimals (by norm_num)
  · rw [own.fee]
    exact calculatedNonnegative_of nonneg (by linarith) (exactFee_decimals policed own.quantity own.price)
      (by norm_num)

end Outcomes

section Reasons

theorem fits_ite {condition : Prop} [Decidable condition] {given reason : String} {rest : Option String}
    (fits : reasonFits given = true) (later : rest = some reason → reasonFits reason = true) :
    (if condition then some given else rest) = some reason → reasonFits reason = true := by
  intro issue
  split at issue
  · cases issue
    exact fits
  · exact later issue

/-- So has one that a frame blocks the session with, if the barrier has. -/
theorem frameIssue_fits {arrival : ℕ} {reason : String}
    (barrier : state.barrierReason.all reasonFits = true) :
    frameIssue sha frame state arrival policy = some reason → reasonFits reason = true := by
  have source : reasonFits ("SOURCE_" ++ frame.continuity.value) = true := by
    cases frame.continuity <;> decide
  unfold frameIssue
  cases raised : state.barrierReason with
  | some old =>
    intro issue
    cases issue
    rw [raised] at barrier
    exact barrier
  | none =>
    refine fits_ite (by decide) (fits_ite source ?_)
    iterate 8 refine fits_ite (by decide) ?_
    exact fun h => nomatch h

end Reasons

section Judged

theorem frame_short (framed : frameFields frame = true) (side : BookSide) :
    (frame.levels side).length ≤ 100 := by
  simp only [frameFields, Bool.and_eq_true, decide_eq_true_eq] at framed
  obtain ⟨⟨⟨⟨-, bids⟩, asks⟩, -⟩, -⟩ := framed
  cases side with
  | ASK => exact asks
  | BID => exact bids

end Judged

section Depth

omit [DecidableEq Digest]

/-- Debits at prices of the book, that are no more than it can display. -/
def Placed (consumed : Depth) : Prop :=
  ∀ entry ∈ consumed, positiveAmount entry.1.2 = true ∧ entry.2 ≤ 10 ^ 18

/-- A walk debits what its levels display, and at most one price for each of them. -/
theorem walkLevels_placed (levels : List BookLevel) (shown : Shown levels) {remaining : ℚ}
    (left : 0 ≤ remaining) {consumed : Depth} (placed : Placed consumed) :
    Placed (Simulation.walkLevels command policy levels remaining consumed).2 ∧
      (Simulation.walkLevels command policy levels remaining consumed).2.length ≤
        consumed.length + levels.length := by
  induction levels generalizing remaining consumed with
  | nil => exact ⟨placed, le_rfl⟩
  | cons level levels ih =>
    obtain ⟨price, quantity⟩ := shown level List.mem_cons_self
    have later : Shown levels := fun l mem => shown l (List.mem_cons_of_mem _ mem)
    unfold Simulation.walkLevels
    dsimp only
    split
    · exact ⟨placed, Nat.le_add_right _ _⟩
    split
    · obtain ⟨own, length⟩ := ih later left placed
      exact ⟨own, length.trans (Nat.le_succ _)⟩
    rename_i some
    have positive : 0 < min remaining
        (Simulation.capacity policy level (consumed.getD (command.side.book, level.price) 0)) :=
      lt_of_le_of_ne (le_min left (capacity_nonneg _ _)) (Ne.symm some)
    have bound := (debit_le positive (min_le_right _ _)).trans (displayed_range policy quantity).2
    have rest := sub_nonneg.2 (min_le_left remaining
      (Simulation.capacity policy level (consumed.getD (command.side.book, level.price) 0)))
    generalize min remaining
      (Simulation.capacity policy level (consumed.getD (command.side.book, level.price) 0)) = fill
      at bound rest ⊢
    generalize consumed.getD (command.side.book, level.price) 0 + fill = debit at bound ⊢
    have next : Placed (consumed.set (command.side.book, level.price) debit) := by
      intro entry mem
      rcases Dict.mem_set mem with rfl | old
      · exact ⟨positiveAmount_iff.2 ⟨level.price_pos, price⟩, bound⟩
      · exact placed entry old
    have grown := consumed.length_set_le (command.side.book, level.price) debit
    rw [List.length_cons]
    split
    · exact ⟨next, grown.trans (by omega)⟩
    · obtain ⟨own, length⟩ := ih later rest next
      exact ⟨own, length.trans (by omega)⟩

end Depth

section Sessions

theorem validateState_eq_ok {c : Context} {s s' : LiquidityState Digest} :
    validateState c s = .ok s' ↔ stateFields c s = true ∧ s.coherent = .ok () ∧ s' = s := by
  unfold validateState
  rw [refuse_bind_eq_ok, validate_eq_ok, Bool.not_eq_false']

/-- The state after a command has ended. -/
def ended (sha : Content → Digest) (command : IOCCommand) (frame : AcceptedBookFrame)
    (policy : FillAssumptions) (state : LiquidityState Digest) (asOfMs : ℕ) : LiquidityState Digest :=
  let (outcome, fields) := judge context sha command frame policy state asOfMs
  { fields with receipts := state.receipts ++ [receiptOf sha command policy outcome] }

/-- The states that calls can reach, each on the state that the one before returned; a call
that raises returns none. -/
inductive Reached (sha : Content → Digest) (start : LiquidityState Digest) :
    LiquidityState Digest → Prop
  | start : Reached sha start start
  | call {state : LiquidityState Digest} (before : Reached sha start state) (command : IOCCommand)
      (frame : AcceptedBookFrame) (policy : FillAssumptions) (asOfMs : ℕ) (step : ModelStep Digest)
      (ok : simulateIoc context sha command frame policy state asOfMs = .ok step) :
      Reached sha start step.state

/-- What is known of a state that a session has reached. -/
structure Sound (state : LiquidityState Digest) : Prop where
  valid : validateState context state = .ok state
  kept : Kept 18 state.consumedDepth
  placed : Placed state.consumedDepth
  length : state.consumedDepth.length ≤ 100 * state.receipts.length

/-- The inputs of a call are valid. -/
structure Fielded (command : IOCCommand) (frame : AcceptedBookFrame) (policy : FillAssumptions) :
    Prop where
  commanded : commandFields command = true
  framed : frameFields frame = true
  policed : assumptionFields policy = true

/-- A call that returns has had valid inputs, and leaves its state or ends its command. -/
theorem simulateIoc_state {step : ModelStep Digest}
    (h : simulateIoc context sha command frame policy state asOfMs = .ok step) :
    Fielded command frame policy ∧ (step.state = state ∨
      step.state = ended sha command frame policy state asOfMs ∧
        validateState context step.state = .ok step.state) := by
  unfold simulateIoc at h
  rw [refuse_bind_eq_ok, refuse_bind_eq_ok, refuse_bind_eq_ok] at h
  obtain ⟨commanded, framed, assumed, h⟩ := h
  refine ⟨⟨by simpa using commanded, by simpa using framed, by simpa using assumed⟩, ?_⟩
  obtain ⟨s, valid, h⟩ := bind_eq_ok.1 h
  obtain ⟨-, -, same⟩ := validateState_eq_ok.1 valid
  rw [same] at h
  obtain ⟨_, -, h⟩ := bind_eq_ok.1 h
  obtain ⟨_, -, h⟩ := bind_eq_ok.1 h
  obtain ⟨_, -, h⟩ := bind_eq_ok.1 h
  obtain ⟨_, -, h⟩ := bind_eq_ok.1 h
  split at h
  · obtain ⟨_, -, h⟩ := bind_eq_ok.1 h
    cases h
    exact .inl rfl
  · obtain ⟨_, -, h⟩ := bind_eq_ok.1 h
    obtain ⟨_, -, h⟩ := bind_eq_ok.1 h
    unfold evaluate at h
    split at h
    · obtain ⟨_, -, h⟩ := bind_eq_ok.1 h
      cases h
      exact .inl rfl
    · obtain ⟨o, outcome, h⟩ := bind_eq_ok.1 h
      obtain ⟨-, -, rfl⟩ := validateOutcome_eq_ok.1 outcome
      obtain ⟨s', next, h⟩ := bind_eq_ok.1 h
      obtain ⟨fields, coherent, same'⟩ := validateState_eq_ok.1 next
      cases h
      refine .inr ⟨same', ?_⟩
      rw [same']
      exact validateState_eq_ok.2 ⟨fields, coherent, rfl⟩

/-- A command that ends leaves debits as they were, and at most a hundred more of them. -/
theorem Sound.ended_depth (sound : Sound state) (fielded : Fielded command frame policy) :
    Kept 18 (ended sha command frame policy state asOfMs).consumedDepth ∧
      Placed (ended sha command frame policy state asOfMs).consumedDepth ∧
      (ended sha command frame policy state asOfMs).consumedDepth.length ≤
        100 * (state.receipts.length + 1) := by
  have own := bounded fielded.commanded fielded.framed fielded.policed sound.kept
  have length := sound.length
  unfold ended
  rw [own.judge_exact le_rfl (by norm_num)]
  refine ⟨own.judge_kept le_rfl (by norm_num), ?_⟩
  dsimp only
  rcases judge_depth sha command frame policy state asOfMs with ⟨-, same⟩ | ⟨-, walked⟩
  · rw [same]
    exact ⟨sound.placed, by omega⟩
  · obtain ⟨placed, grown⟩ : Placed (Simulation.walkLevels command policy _ _ _).2 ∧ _ :=
      walkLevels_placed _ (own.framed.shown command.side.book) command.quantity_pos.le sound.placed
    have short := frame_short fielded.framed command.side.book
    rw [walked, (Dict.sorted_perm _ _).length_eq]
    refine ⟨fun entry mem => placed entry ((Dict.sorted_perm _ _).mem_iff.1 mem), grown.trans ?_⟩
    omega

theorem Sound.start (fresh : Fresh state) (valid : validateState context state = .ok state) :
    Sound state := by
  have none : state.consumedDepth = [] := by rw [fresh]
  refine ⟨valid, ?_, ?_, ?_⟩
  · rw [none]
    exact fun _ mem => nomatch mem
  · rw [none]
    exact fun _ mem => nomatch mem
  · rw [none]
    exact Nat.zero_le _

theorem Reached.sound {start : LiquidityState Digest} (reached : Reached sha start state)
    (fresh : Fresh start) (valid : validateState context start = .ok start) : Sound state := by
  induction reached with
  | start => exact .start fresh valid
  | @call state before command frame policy asOfMs step ok ih =>
    obtain ⟨fielded, same | ⟨made, checked⟩⟩ := simulateIoc_state ok
    · rw [same]
      exact ih
    · obtain ⟨kept, placed, length⟩ := ih.ended_depth fielded
      rw [made] at checked ⊢
      refine ⟨checked, kept, placed, length.trans_eq ?_⟩
      simp [ended]

/-- What the walk of a call computes in the context is exact. -/
structure ExactWalk (sha : Content → Digest) (command : IOCCommand) (frame : AcceptedBookFrame)
    (policy : FillAssumptions) (state : LiquidityState Digest) (asOfMs : ℕ) : Prop where
  prices : ∀ level ∈ frame.levels command.side.book,
    executionPrice context command.side policy level.price =
      Simulation.executionPrice command.side policy level.price
  ticks : ∀ level ∈ frame.levels command.side.book,
    (ticks context command.side policy level.price =
        Rat.floor (ticks context command.side policy level.price) ↔
      rawPrice command.side policy level.price / policy.priceTick =
        Rat.floor (rawPrice command.side policy level.price / policy.priceTick))
  capacities : ∀ level ∈ frame.levels command.side.book,
    capacity context policy level (state.consumedDepth.getD (command.side.book, level.price) 0) =
      Simulation.capacity policy level (state.consumedDepth.getD (command.side.book, level.price) 0)
  steps : ∀ level ∈ frame.levels command.side.book,
    (steps context policy level (state.consumedDepth.getD (command.side.book, level.price) 0) =
        Rat.floor (steps context policy level
          (state.consumedDepth.getD (command.side.book, level.price) 0)) ↔
      available policy level (state.consumedDepth.getD (command.side.book, level.price) 0) /
          policy.quantityStep =
        Rat.floor (available policy level
          (state.consumedDepth.getD (command.side.book, level.price) 0) / policy.quantityStep))
  walk : walk context command frame policy state = Simulation.walk command frame policy state
  judged : judge context sha command frame policy state asOfMs =
    (rounded (Simulation.judge sha command frame policy state asOfMs).1,
      (Simulation.judge sha command frame policy state asOfMs).2)

/-- On every state that a session reaches the walk in the decimal context is the exact one:
prices, capacities, notional, fees, middle and shortfall. Only the average price of the
outcome is rounded. -/
theorem reached_walk_exact {start : LiquidityState Digest} (reached : Reached sha start state)
    (fresh : Fresh start) (valid : validateState context start = .ok start)
    (fielded : Fielded command frame policy) : ExactWalk sha command frame policy state asOfMs := by
  have sound := reached.sound fresh valid
  have own := bounded fielded.commanded fielded.framed fielded.policed sound.kept
  have shown := own.framed.shown command.side.book
  have debit : ∀ level : BookLevel, 0 ≤ state.consumedDepth.getD (command.side.book, level.price) 0 ∧
      Decimals 77 (state.consumedDepth.getD (command.side.book, level.price) 0) := by
    intro level
    obtain ⟨nonneg, decimals⟩ := sound.kept.getD (command.side.book, level.price)
    exact ⟨nonneg, decimals.mono (by norm_num)⟩
  exact {
    prices := fun level mem => executionPrice_exact own.policed _ (shown level mem).1
    ticks := fun level mem => ticks_whole own.policed _ (shown level mem).1
    capacities := fun level mem =>
      capacity_exact own.policed (shown level mem).2 (debit level).1 (debit level).2
    steps := fun level mem =>
      steps_whole own.policed (shown level mem).2 (debit level).1 (debit level).2
    walk := own.walk_exact le_rfl (by norm_num)
    judged := own.judge_exact le_rfl (by norm_num) }

/-- The inputs of a call are valid, its identities match those of the session, neither its
clock nor its arrival regresses, there is room for a receipt, and its times are timestamps. -/
structure Permits (sha : Content → Digest) (command : IOCCommand) (frame : AcceptedBookFrame)
    (policy : FillAssumptions) (state : LiquidityState Digest) (asOfMs : ℕ) : Prop
    extends Fielded command frame policy where
  session : command.sessionId = state.sessionId ∧ command.symbol = state.symbol
  tape : frame.tapeId = state.tapeId ∧ frame.symbol = state.symbol
  assumed : ∀ digest ∈ state.assumptionsSha256, digest = sha (.assumptions policy)
  known : ∀ receipt ∈ state.receipts, receipt.commandId = command.commandId →
    receipt.commandSha256 = sha (.command command) ∧
      receipt.assumptionsSha256 = sha (.assumptions policy)
  clock : state.lastAsOfMs ≤ asOfMs
  ordered : state.lastArrivalAtMs ≤ arrivalOf command policy
  room : state.receipts.length < maxCommands
  asOf : asOfMs ≤ maxTimestamp
  arrival : arrivalOf command policy ≤ maxTimestamp

theorem Sound.coherent (sound : Sound state) : StateCoherent state :=
  coherent_iff.1 (validateState_eq_ok.1 sound.valid).2.1

theorem Sound.barrier (sound : Sound state) : state.barrierReason.all reasonFits = true := by
  have fields := (validateState_eq_ok.1 sound.valid).1
  simp only [stateFields, Bool.and_eq_true] at fields
  exact fields.1.1.1.1.2

/-- The fields of a state that a command leaves when it ends, but for debits and receipts. -/
theorem Sound.judge_fields (sound : Sound state) (fielded : Fielded command frame policy) :
    let next := (Simulation.judge sha command frame policy state asOfMs).2
    next.streamEpoch = state.streamEpoch ∧ timestamp next.lastExchangeAtMs = true ∧
      timestamp next.lastReceivedAtMs = true ∧ next.barrierReason.all reasonFits = true := by
  have barrier := sound.barrier
  have fields := (validateState_eq_ok.1 sound.valid).1
  simp only [stateFields, Bool.and_eq_true] at fields
  obtain ⟨⟨⟨⟨⟨⟨⟨-, exchange⟩, received⟩, -⟩, -⟩, -⟩, -⟩, -⟩ := fields
  have framed := fielded.framed
  simp only [frameFields, Bool.and_eq_true] at framed
  obtain ⟨⟨⟨⟨⟨⟨⟨-, exchanged⟩, taken⟩, -⟩, -⟩, -⟩, -⟩, -⟩ := framed
  unfold Simulation.judge
  dsimp only
  cases commandIssue command policy (command.submittedAtMs + policy.latencyMs) with
  | some reason => exact ⟨rfl, exchange, received, barrier⟩
  | none =>
    dsimp only
    cases blocked : frameIssue sha frame state (command.submittedAtMs + policy.latencyMs) policy with
    | some issue => exact ⟨rfl, exchange, received, frameIssue_fits barrier blocked⟩
    | none => exact ⟨rfl, exchanged, taken, barrier⟩

/-- The state in which a command has ended, as the exact model has it but for the receipt. -/
theorem ended_eq (own : Bounded 18 command frame policy state.consumedDepth) :
    ended sha command frame policy state asOfMs =
      { Simulation.ended sha command frame policy state asOfMs with
        receipts := state.receipts ++ [receiptOf sha command policy
          (rounded (Simulation.judge sha command frame policy state asOfMs).1)] } := by
  unfold ended
  rw [own.judge_exact le_rfl (by norm_num)]
  rfl

theorem Sound.ended_coherent (sound : Sound state)
    (permits : Permits sha command frame policy state asOfMs)
    (fresh : ∀ receipt ∈ state.receipts, receipt.commandId ≠ command.commandId)
    (arrived : arrivalOf command policy ≤ asOfMs) :
    StateCoherent (ended sha command frame policy state asOfMs) := by
  have takes : Takes sha command policy state asOfMs :=
    ⟨sound.coherent, fresh, permits.assumed, permits.clock, arrived, permits.ordered, permits.room,
      permits.asOf⟩
  have exact := takes.ended_coherent frame
  obtain ⟨-, arrival, asOf, assumed⟩ := ended_fields sha command frame policy state asOfMs
  have made := judge_made sha command frame policy state asOfMs
  rw [ended_eq (bounded permits.commanded permits.framed permits.policed sound.kept)]
  exact takes.coherent_next rfl assumed asOf arrival made exact.positive exact.unique exact.framed
    exact.updated

/-- What a call returns is valid: the outcome adds up, and the state is within its bounds. -/
structure Answered (step : ModelStep Digest) : Prop where
  outcome : validateOutcome context step.outcome = .ok step.outcome
  state : validateState context step.state = .ok step.state
  conserved : step.outcome.status ≠ .WAIT →
    step.outcome.filledQuantity + step.outcome.cancelledQuantity = step.outcome.requestedQuantity
  shortfall : 0 ≤ step.outcome.implementationShortfallQuote
  depth : step.state.consumedDepth.length ≤ 102_400
  receipts : step.state.receipts.length ≤ maxCommands

end Sessions

section Sample

/-- The state after a call, which one that raises leaves as it was. -/
def after (sha : Content → Digest) (r : Request) (state : LiquidityState Digest) :
    LiquidityState Digest :=
  match simulateIoc context sha r.command r.frame r.assumptions state r.asOfMs with
  | .ok step => step.state
  | .error _ => state

theorem Reached.after {start : LiquidityState Digest} (reached : Reached sha start state) (r : Request) :
    Reached sha start (Arithmetic.after sha r state) := by
  unfold Arithmetic.after
  cases ok : simulateIoc context sha r.command r.frame r.assumptions state r.asOfMs with
  | ok step => exact .call reached r.command r.frame r.assumptions r.asOfMs step ok
  | error e => exact reached

/-- The state that the first of the sample requests leaves. -/
def sampleReached : LiquidityState Content :=
  Arithmetic.after id ⟨sampleCommand "a" 10, sampleFrame 1 .ADMITTED, samplePolicy, 15⟩
    (freshState Content)

theorem sampleReached_reached : Reached id (freshState Content) sampleReached := Reached.start.after _

example : sampleReached.consumedDepth = [((.ASK, 100), 1 / 2), ((.ASK, 101), 3 / 2)] := by
  decide +kernel

theorem freshState_valid : validateState context (freshState Content) = .ok (freshState Content) :=
  validateState_eq_ok.2 ⟨by decide +kernel, by decide +kernel, rfl⟩

theorem reached_walk_exact_sample : ExactWalk id (sampleCommand "b" 20) (sampleFrame 2 .ADMITTED)
    samplePolicy sampleReached 25 :=
  reached_walk_exact sampleReached_reached rfl freshState_valid
    ⟨by decide +kernel, by decide +kernel, by decide +kernel⟩

end Sample

end KairosExecution.Simulation.Arithmetic
