import KairosExecution.Simulation.Run

/-! Causality of a run. A barrier, once recorded, stays, and nothing fills behind it. A
fill was computed from an admitted frame that was durable when its command arrived; and
from one fill to the next neither the arrival nor the frame's place in the stream goes
back. The cursor carries this: every step leaves it where it was or moves it ahead. -/

namespace KairosExecution.Simulation

open Python

variable {Digest : Type} [DecidableEq Digest] {sha : Content → Digest}

section Judge

variable {command : IOCCommand} {frame : AcceptedBookFrame} {policy : FillAssumptions}
  {state : LiquidityState Digest} {asOfMs : ℕ}

/-- Behind a barrier no command fills, and the barrier stays. -/
theorem judge_barrier (sha : Content → Digest) (command : IOCCommand) (frame : AcceptedBookFrame)
    (policy : FillAssumptions) (asOfMs : ℕ) {reason : String} (barrier : state.barrierReason = some reason) :
    (judge sha command frame policy state asOfMs).2.barrierReason = some reason ∧
      (judge sha command frame policy state asOfMs).1.status.fills = false := by
  have issue : ∀ arrival, frameIssue sha frame state arrival policy = some reason := by
    intro arrival
    simp [frameIssue, barrier]
  unfold judge
  dsimp only
  split
  · exact ⟨barrier, rfl⟩
  · rw [issue]
    exact ⟨rfl, rfl⟩

/-- What was checked before a book was walked: the command's own times, and the frame. -/
structure Walkable (sha : Content → Digest) (command : IOCCommand) (frame : AcceptedBookFrame)
    (policy : FillAssumptions) (state : LiquidityState Digest) : Prop where
  timely : commandIssue command policy (arrivalOf command policy) = none
  sound : frameIssue sha frame state (arrivalOf command policy) policy = none

/-- A command that fills was walked. -/
theorem walkable_of_fills (fills : (judge sha command frame policy state asOfMs).1.status.fills) :
    Walkable sha command frame policy state := by
  unfold judge at fills
  dsimp only at fills
  split at fills
  · cases fills
  · rename_i timely
    split at fills
    · cases fills
    · exact ⟨timely, ‹_›⟩

/-- What the checks of a frame come to where it has no issue. -/
structure SoundFrame (sha : Content → Digest) (frame : AcceptedBookFrame)
    (state : LiquidityState Digest) (arrival : ℕ) (policy : FillAssumptions) : Prop where
  unblocked : state.barrierReason = none
  epoch : frame.streamEpoch = state.streamEpoch
  admitted : frame.continuity = .ADMITTED
  durable : frame.persistedAtMs ≤ arrival
  recent : arrival - frame.exchangeAtMs ≤ policy.maximumBookAgeMs
  sequence : state.lastFrameSequence ≤ frame.sequence
  same : frame.sequence = state.lastFrameSequence → some (sha (.frame frame)) = state.lastFrameSha256
  newer : frame.sequence ≠ state.lastFrameSequence →
    state.lastExchangeUpdateId < frame.exchangeUpdateId ∧
    state.lastExchangeAtMs ≤ frame.exchangeAtMs ∧ state.lastReceivedAtMs ≤ frame.receivedAtMs

theorem soundFrame_of_issue {arrival : ℕ} (sound : frameIssue sha frame state arrival policy = none) :
    SoundFrame sha frame state arrival policy := by
  unfold frameIssue at sound
  split at sound
  · cases sound
  rename_i unblocked
  split_ifs at sound with epoch admitted durable recent latency sequence same newer
  refine ⟨?_, not_not.1 epoch, not_not.1 admitted, not_lt.1 durable, not_lt.1 recent,
    not_lt.1 sequence, fun at' => ?_, fun beyond => ?_⟩
  · cases barrier : state.barrierReason with
    | none => rfl
    | some reason => exact absurd barrier (unblocked reason)
  · by_contra differs
    exact same ⟨at', differs⟩
  · have ordered : ¬(frame.exchangeUpdateId ≤ state.lastExchangeUpdateId ∨
        frame.exchangeAtMs < state.lastExchangeAtMs ∨
        frame.receivedAtMs < state.lastReceivedAtMs) := fun h => newer ⟨beyond, h⟩
    omega

/-- A walked command leaves the cursor at its own frame and arrival. -/
structure CursorAt (sha : Content → Digest) (frame : AcceptedBookFrame) (state : LiquidityState Digest) :
    Prop where
  sequence : state.lastFrameSequence = frame.sequence
  sha256 : state.lastFrameSha256 = some (sha (.frame frame))
  update : state.lastExchangeUpdateId = frame.exchangeUpdateId
  exchange : state.lastExchangeAtMs = frame.exchangeAtMs
  received : state.lastReceivedAtMs = frame.receivedAtMs

/-- What a command that ends leaves of the cursor: the one it found, or its own frame. -/
theorem ended_cursor (sha : Content → Digest) (command : IOCCommand) (frame : AcceptedBookFrame)
    (policy : FillAssumptions) (state : LiquidityState Digest) (asOfMs : ℕ) : (ended sha command frame policy state asOfMs).lastFrameSequence =
      state.lastFrameSequence ∧
    (ended sha command frame policy state asOfMs).lastFrameSha256 = state.lastFrameSha256 ∧
    (ended sha command frame policy state asOfMs).lastExchangeUpdateId = state.lastExchangeUpdateId ∧
    (ended sha command frame policy state asOfMs).lastExchangeAtMs = state.lastExchangeAtMs ∧
    (ended sha command frame policy state asOfMs).lastReceivedAtMs = state.lastReceivedAtMs ∧
    (judge sha command frame policy state asOfMs).1.status.fills = false ∨
    Walkable sha command frame policy state ∧
      CursorAt sha frame (ended sha command frame policy state asOfMs) ∧
      (ended sha command frame policy state asOfMs).barrierReason = state.barrierReason := by
  unfold ended judge
  dsimp only
  split
  · exact .inl ⟨rfl, rfl, rfl, rfl, rfl, rfl⟩
  · rename_i timely
    split
    · exact .inl ⟨rfl, rfl, rfl, rfl, rfl, rfl⟩
    · exact .inr ⟨⟨timely, ‹_›⟩, ⟨rfl, rfl, rfl, rfl, rfl⟩, rfl⟩

theorem ended_arrival : (ended sha command frame policy state asOfMs).lastArrivalAtMs =
    arrivalOf command policy := by
  unfold ended judge
  dsimp only
  split
  · rfl
  · split <;> rfl

theorem ended_epoch : (ended sha command frame policy state asOfMs).streamEpoch =
    state.streamEpoch := by
  unfold ended judge
  dsimp only
  split
  · rfl
  · split <;> rfl

end Judge

section Barrier

variable {start state : LiquidityState Digest} {entries later earlier : List (Entry Digest)}

/-- A call that fills leaves no barrier, and found none. -/
theorem no_barrier_of_filled {e : Entry Digest} {before : LiquidityState Digest}
    (ok : simulateIoc sha e.command e.frame e.assumptions before e.asOfMs = .ok e.step)
    (filled : e.filled) : before.barrierReason = none ∧ e.step.state.barrierReason = none := by
  obtain ⟨command, frame, policy, asOfMs, step⟩ := e
  have served : Served sha command frame policy before asOfMs step := (simulateIoc_ok ok).2
  cases served with
  | replayed receipt => cases filled
  | waiting => cases filled
  | ended =>
    have fills : (judge sha command frame policy before asOfMs).1.status.fills = true := by
      simpa [Entry.filled] using filled
    have clear := (soundFrame_of_issue (walkable_of_fills fills).sound).unblocked
    rcases ended_cursor sha command frame policy before asOfMs with quiet | ⟨-, -, same⟩
    · rw [quiet.2.2.2.2.2] at fills
      cases fills
    · exact ⟨clear, same.trans clear⟩

/-- From a state with a barrier on, the barrier stays, and a fill is a replay of one that
the state recorded before. -/
theorem Run.behind_barrier {reason : String} (run : Run sha start entries state)
    (barrier : start.barrierReason = some reason) :
    state.barrierReason = some reason ∧ ∀ e ∈ entries, e.step.state.barrierReason = some reason ∧
      (e.step.outcome.status.fills → e.step.replayed = true ∧
        ∃ receipt ∈ start.receipts, receipt.outcome = e.step.outcome) := by
  induction run with
  | start => exact ⟨barrier, fun _ he => nomatch he⟩
  | raised _ _ _ _ _ _ _ ih => exact ih
  | @served entries state before command frame policy asOfMs step ok ih =>
    obtain ⟨holds, older⟩ := ih
    have here : step.state.barrierReason = some reason ∧ (step.outcome.status.fills →
        step.replayed = true ∧ ∃ receipt ∈ start.receipts, receipt.outcome = step.outcome) := by
      have served : Served sha command frame policy state asOfMs step := (simulateIoc_ok ok).2
      cases served with
      | waiting => exact ⟨holds, fun fills => nomatch fills⟩
      | ended =>
        have judged := judge_barrier sha command frame policy asOfMs holds
        refine ⟨judged.1, fun fills => ?_⟩
        rw [judged.2] at fills
        cases fills
      | replayed receipt mem =>
        refine ⟨holds, fun fills => ⟨rfl, ?_⟩⟩
        rw [before.receipts] at mem
        rcases List.mem_append.1 mem with old | new
        · exact ⟨receipt, old, rfl⟩
        · -- a receipt of the run since the barrier is no fill
          obtain ⟨x, hx, rfl⟩ := List.mem_map.1 (List.mem_reverse.1 new)
          obtain ⟨hx, kept⟩ := List.mem_filter.1 hx
          obtain ⟨replayed, -⟩ := (older x hx).2 fills
          simp [Entry.recorded, replayed] at kept
    refine ⟨here.1, fun e he => ?_⟩
    rcases List.mem_cons.1 he with rfl | he
    · exact here
    · exact older e he

/-- Once a call has recorded a barrier it stays, and every later fill is the replay of one
that was recorded before it, when there was none. -/
theorem barrier_final {reason : String} {e : Entry Digest}
    (run : Run sha start (later ++ e :: earlier) state) (fresh : start.receipts = [])
    (recorded : e.step.state.barrierReason = some reason) :
    state.barrierReason = some reason ∧ ∀ x ∈ later, x.step.state.barrierReason = some reason ∧
      (x.step.outcome.status.fills → x.step.replayed = true ∧
        ∃ y ∈ earlier, y.filled ∧ y.step.outcome = x.step.outcome ∧
          y.step.state.barrierReason = none) := by
  obtain ⟨middle, older, newer⟩ := run.split
  obtain ⟨rfl, before, first, ok⟩ := older.latest
  obtain ⟨holds, since⟩ := newer.behind_barrier recorded
  refine ⟨holds, fun x hx => ⟨(since x hx).1, fun fills => ?_⟩⟩
  obtain ⟨replayed, receipt, mem, same⟩ := (since x hx).2 fills
  refine ⟨replayed, ?_⟩
  rw [older.receipts, fresh, List.nil_append] at mem
  obtain ⟨y, hy, rfl⟩ := List.mem_map.1 (List.mem_reverse.1 mem)
  obtain ⟨hy, kept⟩ := List.mem_filter.1 hy
  have filled : y.filled := by
    have fills' : y.step.outcome.status.fills = true := by
      rw [← same] at fills
      exact fills
    simp only [Entry.recorded, Bool.and_eq_true, Bool.not_eq_true'] at kept
    simp [Entry.filled, kept.1, fills']
  -- the call that recorded the barrier did not fill
  rcases List.mem_cons.1 hy with rfl | hy
  · rw [(no_barrier_of_filled ok filled).2] at recorded
    cases recorded
  · obtain ⟨a, b, rfl⟩ := List.append_of_mem hy
    obtain ⟨middle', older', -⟩ := first.split
    obtain ⟨rfl, before', -, ok'⟩ := older'.latest
    exact ⟨y, hy, filled, same, (no_barrier_of_filled ok' filled).2⟩

end Barrier

section Cursor

variable {start state : LiquidityState Digest} {entries : List (Entry Digest)}

/-- The cursor is at a frame, or has seen none yet. -/
def CursorKnown (sha : Content → Digest) (state : LiquidityState Digest) : Prop :=
  (state.lastFrameSequence = 0 ∧ state.lastExchangeUpdateId = 0 ∧ state.lastExchangeAtMs = 0 ∧
    state.lastReceivedAtMs = 0) ∨ ∃ frame, CursorAt sha frame state

/-- The cursor has not gone back. -/
structure NotAfter (s s' : LiquidityState Digest) : Prop where
  arrival : s.lastArrivalAtMs ≤ s'.lastArrivalAtMs
  sequence : s.lastFrameSequence ≤ s'.lastFrameSequence
  update : s.lastExchangeUpdateId ≤ s'.lastExchangeUpdateId
  exchange : s.lastExchangeAtMs ≤ s'.lastExchangeAtMs
  received : s.lastReceivedAtMs ≤ s'.lastReceivedAtMs
  same : s.lastFrameSequence = s'.lastFrameSequence → s.lastFrameSha256 = s'.lastFrameSha256

omit [DecidableEq Digest] in
theorem NotAfter.refl (s : LiquidityState Digest) : NotAfter s s :=
  ⟨le_refl _, le_refl _, le_refl _, le_refl _, le_refl _, fun _ => rfl⟩

omit [DecidableEq Digest] in
theorem NotAfter.trans {a b c : LiquidityState Digest} (h : NotAfter a b) (k : NotAfter b c) :
    NotAfter a c := by
  refine ⟨h.arrival.trans k.arrival, h.sequence.trans k.sequence, h.update.trans k.update,
    h.exchange.trans k.exchange, h.received.trans k.received, fun eq => ?_⟩
  have ab := h.sequence
  have bc := k.sequence
  exact (h.same (by omega)).trans (k.same (by omega))

omit [DecidableEq Digest] in
/-- A sound frame is not behind the cursor; on the cursor's own sequence it is its frame. -/
theorem SoundFrame.notAfter {frame : AcceptedBookFrame} {policy : FillAssumptions} {arrival : ℕ}
    (injective : Function.Injective sha) (known : CursorKnown sha state)
    (sound : SoundFrame sha frame state arrival policy) {s' : LiquidityState Digest}
    (at' : CursorAt sha frame s') (arrived : state.lastArrivalAtMs ≤ s'.lastArrivalAtMs) :
    NotAfter state s' := by
  obtain ⟨sequence, sha256, update, exchange, received⟩ := at'
  by_cases here : frame.sequence = state.lastFrameSequence
  · have positive := frame.sequence_pos
    rcases known with ⟨zero, -⟩ | ⟨frame', cursor⟩
    · omega
    · have same := sound.same here
      rw [cursor.sha256] at same
      have one : frame = frame' := Content.frame.inj (injective (Option.some.inj same))
      subst one
      exact ⟨arrived, by rw [sequence, here], by rw [update, cursor.update],
        by rw [exchange, cursor.exchange], by rw [received, cursor.received],
        fun _ => by rw [sha256, cursor.sha256]⟩
  · have newer := sound.newer here
    have behind := sound.sequence
    refine ⟨arrived, by rw [sequence]; exact behind, by rw [update]; exact newer.1.le,
      by rw [exchange]; exact newer.2.1, by rw [received]; exact newer.2.2, fun eq => ?_⟩
    rw [sequence] at eq
    exact absurd eq.symm here

/-- One call moves the cursor ahead, or leaves it. -/
theorem simulateIoc_notAfter (injective : Function.Injective sha) {command : IOCCommand}
    {frame : AcceptedBookFrame} {policy : FillAssumptions} {asOfMs : ℕ} {step : ModelStep Digest}
    (ok : simulateIoc sha command frame policy state asOfMs = .ok step)
    (known : CursorKnown sha state) : NotAfter state step.state ∧ CursorKnown sha step.state := by
  cases (simulateIoc_ok ok).2 with
  | replayed receipt => exact ⟨.refl _, known⟩
  | waiting => exact ⟨.refl _, known⟩
  | ended _ _ ordered =>
    have arrived : state.lastArrivalAtMs ≤
        (ended sha command frame policy state asOfMs).lastArrivalAtMs := by
      rw [ended_arrival]
      exact ordered
    rcases ended_cursor sha command frame policy state asOfMs with
      ⟨sequence, sha256, update, exchange, received, -⟩ | ⟨walkable, at', -⟩
    · refine ⟨⟨arrived, sequence.ge, update.ge, exchange.ge, received.ge, fun _ => sha256.symm⟩, ?_⟩
      dsimp only
      rcases known with zero | ⟨frame', cursor⟩
      · rw [← sequence, ← update, ← exchange, ← received] at zero
        exact .inl zero
      · exact .inr ⟨frame', sequence.trans cursor.sequence, sha256.trans cursor.sha256,
          update.trans cursor.update, exchange.trans cursor.exchange,
          received.trans cursor.received⟩
    · exact ⟨(soundFrame_of_issue walkable.sound).notAfter injective known at' arrived,
        .inr ⟨frame, at'⟩⟩

theorem Run.notAfter (injective : Function.Injective sha) (run : Run sha start entries state)
    (known : CursorKnown sha start) : NotAfter start state ∧ CursorKnown sha state := by
  induction run with
  | start => exact ⟨.refl _, known⟩
  | served _ command frame assumptions asOfMs step ok ih =>
    have moved := simulateIoc_notAfter injective ok ih.2
    exact ⟨ih.1.trans moved.1, moved.2⟩
  | raised _ _ _ _ _ _ _ ih => exact ih

theorem Run.epoch (run : Run sha start entries state) : state.streamEpoch = start.streamEpoch := by
  induction run with
  | start => rfl
  | served _ command frame assumptions asOfMs step ok ih =>
    cases (simulateIoc_ok ok).2 with
    | replayed receipt => exact ih
    | waiting => exact ih
    | ended => exact ended_epoch.trans ih
  | raised _ _ _ _ _ _ _ ih => exact ih

end Cursor

section Fills

variable {start state : LiquidityState Digest} {entries : List (Entry Digest)}

/-- What the frame and the command of a fill were at its arrival. -/
structure Causal (epoch : String) (e : Entry Digest) : Prop where
  admitted : e.frame.continuity = .ADMITTED
  epoch : e.frame.streamEpoch = epoch
  times : e.frame.exchangeAtMs ≤ e.frame.receivedAtMs ∧ e.frame.receivedAtMs ≤ e.frame.persistedAtMs ∧
    e.frame.persistedAtMs ≤ arrivalOf e.command e.assumptions ∧
    arrivalOf e.command e.assumptions ≤ e.asOfMs
  age : arrivalOf e.command e.assumptions - e.frame.exchangeAtMs ≤ e.assumptions.maximumBookAgeMs
  eligible : e.command.eligibleAtMs ≤ e.command.submittedAtMs
  expires : arrivalOf e.command e.assumptions ≤ e.command.expiresAtMs

theorem timely_of_commandIssue {command : IOCCommand} {policy : FillAssumptions} {arrival : ℕ}
    (timely : commandIssue command policy arrival = none) :
    command.eligibleAtMs ≤ command.submittedAtMs ∧ arrival ≤ command.expiresAtMs := by
  unfold commandIssue at timely
  split_ifs at timely
  omega

/-- What a filled call was, and where it left the cursor. -/
theorem filled_causal {e : Entry Digest} {before : LiquidityState Digest}
    (ok : simulateIoc sha e.command e.frame e.assumptions before e.asOfMs = .ok e.step)
    (filled : e.filled) : Causal before.streamEpoch e ∧ CursorAt sha e.frame e.step.state ∧
      e.step.state.lastArrivalAtMs = arrivalOf e.command e.assumptions := by
  obtain ⟨command, frame, policy, asOfMs, step⟩ := e
  have served : Served sha command frame policy before asOfMs step := (simulateIoc_ok ok).2
  cases served with
  | replayed receipt => cases filled
  | waiting => cases filled
  | ended _ arrived =>
    have fills : (judge sha command frame policy before asOfMs).1.status.fills = true := by
      simpa [Entry.filled] using filled
    have walkable := walkable_of_fills fills
    have sound := soundFrame_of_issue walkable.sound
    have timely := timely_of_commandIssue walkable.timely
    refine ⟨⟨sound.admitted, sound.epoch, ⟨frame.times.1, frame.times.2, sound.durable, arrived⟩,
      sound.recent, timely.1, timely.2⟩, ?_, ended_arrival⟩
    rcases ended_cursor sha command frame policy before asOfMs with quiet | ⟨-, at', -⟩
    · rw [quiet.2.2.2.2.2] at fills
      cases fills
    · exact at'

/-- Of two fills, the later one is not behind the earlier one. -/
structure InOrder (sha : Content → Digest) (earlier later : Entry Digest) : Prop where
  arrival : arrivalOf earlier.command earlier.assumptions ≤ arrivalOf later.command later.assumptions
  sequence : earlier.frame.sequence ≤ later.frame.sequence
  update : earlier.frame.exchangeUpdateId ≤ later.frame.exchangeUpdateId
  exchange : earlier.frame.exchangeAtMs ≤ later.frame.exchangeAtMs
  received : earlier.frame.receivedAtMs ≤ later.frame.receivedAtMs
  same : earlier.frame.sequence = later.frame.sequence →
    sha (.frame earlier.frame) = sha (.frame later.frame)

/-- A run obeys causality: its barrier is final, and its fills are causal and in order. -/
structure CausalRun (sha : Content → Digest) (start : LiquidityState Digest)
    (entries : List (Entry Digest)) (state : LiquidityState Digest) : Prop where
  barrier : ∀ later e earlier reason, entries = later ++ e :: earlier →
    e.step.state.barrierReason = some reason → state.barrierReason = some reason ∧
    ∀ x ∈ later, x.step.state.barrierReason = some reason ∧
      (x.step.outcome.status.fills → x.step.replayed = true ∧
        ∃ y ∈ earlier, y.filled ∧ y.step.outcome = x.step.outcome ∧
          y.step.state.barrierReason = none)
  causal : ∀ e ∈ entries, e.filled → Causal start.streamEpoch e
  ordered : ∀ newest later middle earlier oldest,
    entries = newest ++ later :: (middle ++ earlier :: oldest) →
    later.filled → earlier.filled → InOrder sha earlier later

theorem simulated_run_causal (injective : Function.Injective sha)
    (run : Run sha start entries state) (fresh : Fresh start) :
    CausalRun sha start entries state where
  barrier later e earlier reason eq recorded := by
    subst eq
    exact barrier_final run (by rw [fresh]) recorded
  causal e he filled := by
    obtain ⟨l, k, rfl⟩ := List.append_of_mem he
    obtain ⟨middle, older, -⟩ := run.split
    obtain ⟨rfl, before, first, ok⟩ := older.latest
    rw [← first.epoch]
    exact (filled_causal ok filled).1
  ordered newest later middle earlier oldest eq filled filled' := by
    subst eq
    have known : CursorKnown sha start := .inl ⟨by rw [fresh], by rw [fresh], by rw [fresh],
      by rw [fresh]⟩
    obtain ⟨m₁, upto, -⟩ := run.split
    obtain ⟨rfl, b₁, -, ok⟩ := id upto.latest
    rw [← List.cons_append] at upto
    obtain ⟨m₂, older, since⟩ := upto.split
    obtain ⟨rfl, b₂, -, ok'⟩ := older.latest
    obtain ⟨-, at', arrival⟩ := filled_causal ok filled
    obtain ⟨-, at'', arrival'⟩ := filled_causal ok' filled'
    have ahead := (since.notAfter injective (.inr ⟨_, at''⟩)).1
    refine ⟨?_, ?_, ?_, ?_, ?_, fun same => ?_⟩
    · rw [← arrival, ← arrival']
      exact ahead.arrival
    · rw [← at'.sequence, ← at''.sequence]
      exact ahead.sequence
    · rw [← at'.update, ← at''.update]
      exact ahead.update
    · rw [← at'.exchange, ← at''.exchange]
      exact ahead.exchange
    · rw [← at'.received, ← at''.received]
      exact ahead.received
    · have digests := ahead.same (by rw [at'.sequence, at''.sequence, same])
      rw [at'.sha256, at''.sha256] at digests
      exact Option.some.inj digests

/-- Two orders of the sample run fill before the gap, and none after it. -/
theorem simulated_run_causal_sample :
    CausalRun id (freshState Content) sampleRun.1 sampleRun.2 ∧
      sampleRun.1.map Entry.filled = [false, false, false, true, true] ∧
      sampleRun.2.barrierReason = some "SOURCE_GAP" :=
  ⟨simulated_run_causal Function.injective_id sampleRun_run rfl, by decide +kernel,
    by decide +kernel⟩

end Fills

end KairosExecution.Simulation
