import KairosExecution.Simulation.Run

/-! Idempotence. A receipt, once recorded, stays, under an id of its own and under the
one set of assumptions of its session. So a command that has ended is answered from its
receipt at any later time, whatever the book and the clock, and its id with anything
else is refused. -/

namespace KairosExecution.Simulation

open Python

variable {Digest : Type} [DecidableEq Digest] {sha : Content → Digest}
  {start state : LiquidityState Digest} {entries later earlier : List (Entry Digest)}

/-- A state in which the receipts are coherent, under the assumptions that all share. -/
structure Bound (state : LiquidityState Digest) : Prop where
  coherent : state.coherent = .ok ()
  unique : (state.receipts.map (·.commandId)).Nodup
  assumed : ∀ receipt ∈ state.receipts, state.assumptionsSha256 = some receipt.assumptionsSha256

theorem bound_of_coherent (coherent : state.coherent = .ok ()) : Bound state := by
  obtain ⟨_, _, h⟩ := bind_eq_ok.1 coherent
  obtain ⟨_, _, h⟩ := bind_eq_ok.1 h
  obtain ⟨_, _, h⟩ := bind_eq_ok.1 h
  obtain ⟨_, _, h⟩ := bind_eq_ok.1 h
  obtain ⟨_, unique, h⟩ := bind_eq_ok.1 h
  obtain ⟨_, _, h⟩ := bind_eq_ok.1 h
  obtain ⟨_, _, h⟩ := bind_eq_ok.1 h
  obtain ⟨_, _, h⟩ := bind_eq_ok.1 h
  obtain ⟨_, _, h⟩ := bind_eq_ok.1 h
  obtain ⟨_, _, lineage⟩ := bind_eq_ok.1 h
  have unique : (state.receipts.map (·.commandId)).Nodup := by simpa using unique
  have lineage : ∀ receipt ∈ state.receipts, state.lineage receipt = true := by
    simpa using lineage
  refine ⟨coherent, unique, fun receipt mem => ?_⟩
  have own := lineage receipt mem
  simp only [LiquidityState.lineage, Bool.and_eq_true, decide_eq_true_eq] at own
  exact own.1.2.symm

/-- Every state of a run from a fresh one is bound. -/
theorem Run.bound (run : Run sha start entries state) (fresh : Fresh start) : Bound state := by
  apply bound_of_coherent
  induction run with
  | start =>
    rw [fresh]
    rfl
  | served _ command frame assumptions asOfMs step ok ih =>
    cases (simulateIoc_ok ok).2 with
    | replayed receipt => exact ih
    | waiting => exact ih
    | ended _ _ _ _ _ valid => exact (validate_eq_ok.1 valid).1
  | raised _ _ _ _ _ _ _ ih => exact ih

/-- Receipts are only ever appended. -/
theorem Run.appends (run : Run sha start entries state) : start.receipts <+: state.receipts :=
  ⟨_, run.receipts.symm⟩

/-- The receipt of an id is found under it. -/
theorem find_receipt (bound : Bound state) {receipt : CommandReceipt Digest}
    (mem : receipt ∈ state.receipts) :
    (state.receipts.find? fun r => r.commandId = receipt.commandId) = some receipt := by
  cases found : state.receipts.find? fun r => r.commandId = receipt.commandId with
  | none => simpa using List.find?_eq_none.1 found receipt mem
  | some other =>
    have id : other.commandId = receipt.commandId := by simpa using List.find?_some found
    have one := List.inj_on_of_nodup_map bound.unique (List.mem_of_find?_eq_some found) mem id
    rw [one]

/-- A command that has a receipt is answered from it. -/
theorem simulateIoc_replays (bound : Bound state) {command : IOCCommand} {frame : AcceptedBookFrame}
    {policy : FillAssumptions} {asOfMs : ℕ} {receipt : CommandReceipt Digest}
    (mem : receipt ∈ state.receipts) (id : receipt.commandId = command.commandId)
    (content : receipt.commandSha256 = sha (.command command))
    (assumed : receipt.assumptionsSha256 = sha (.assumptions policy))
    (clock : state.lastAsOfMs ≤ asOfMs)
    (own : command.sessionId = state.sessionId ∧ command.symbol = state.symbol)
    (tape : frame.tapeId = state.tapeId ∧ frame.symbol = state.symbol) :
    simulateIoc sha command frame policy state asOfMs = .ok ⟨receipt.outcome, state, true⟩ := by
  have valid : state.validate = .ok state := validate_eq_ok.2 ⟨bound.coherent, rfl⟩
  have policyHash : state.assumptionsSha256.all (· = sha (.assumptions policy)) := by
    rw [bound.assumed receipt mem, assumed]
    simp
  have found := find_receipt bound mem
  rw [id] at found
  have refused : ∀ error : Err, refuse false error = .ok () := fun _ => rfl
  unfold simulateIoc
  simp only [valid, not_lt.2 clock, own.1, own.2, tape.1, tape.2, policyHash, found, content,
    assumed, ne_eq, not_true_eq_false, or_self, decide_false, refused, bind, Except.bind]
  rfl

/-- An id that has a receipt is refused with any other content or assumptions. -/
theorem simulateIoc_refuses (injective : Function.Injective sha) (bound : Bound state)
    {command other : IOCCommand} {frame : AcceptedBookFrame} {policy assumptions : FillAssumptions}
    {asOfMs : ℕ} {receipt : CommandReceipt Digest} (mem : receipt ∈ state.receipts)
    (id : receipt.commandId = other.commandId)
    (content : receipt.commandSha256 = sha (.command command))
    (assumed : receipt.assumptionsSha256 = sha (.assumptions policy))
    (differs : other ≠ command ∨ assumptions ≠ policy) :
    ∃ error, simulateIoc sha other frame assumptions state asOfMs = .error error := by
  cases result : simulateIoc sha other frame assumptions state asOfMs with
  | error error => exact ⟨error, rfl⟩
  | ok step =>
    exfalso
    obtain ⟨admitted, served⟩ := simulateIoc_ok result
    have samePolicy : assumptions = policy := by
      have digest := admitted.assumed receipt.assumptionsSha256 (bound.assumed receipt mem)
      rw [assumed] at digest
      exact (Content.assumptions.inj (injective digest)).symm
    have sameCommand : other = command := by
      cases served with
      | waiting fresh => exact absurd id (fresh receipt mem)
      | ended fresh => exact absurd id (fresh receipt mem)
      | replayed receipt' mem' id' content' =>
        have one := List.inj_on_of_nodup_map bound.unique mem' mem (id'.trans id.symm)
        subst one
        rw [content] at content'
        exact (Content.command.inj (injective content')).symm
    rcases differs with h | h
    · exact h sameCommand
    · exact h samePolicy

section Runs

/-- A state still serves the session that it was opened for. -/
def SameSession (s s' : LiquidityState Digest) : Prop :=
  s'.sessionId = s.sessionId ∧ s'.tapeId = s.tapeId ∧ s'.symbol = s.symbol

omit [DecidableEq Digest] in
theorem SameSession.refl (s : LiquidityState Digest) : SameSession s s := ⟨rfl, rfl, rfl⟩

omit [DecidableEq Digest] in
theorem SameSession.trans {a b c : LiquidityState Digest} (h : SameSession a b)
    (k : SameSession b c) : SameSession a c :=
  ⟨k.1.trans h.1, k.2.1.trans h.2.1, k.2.2.trans h.2.2⟩

theorem ended_session (command : IOCCommand) (frame : AcceptedBookFrame) (policy : FillAssumptions)
    (state : LiquidityState Digest) (asOfMs : ℕ) :
    SameSession state (ended sha command frame policy state asOfMs) := by
  unfold ended judge
  dsimp only
  split
  · exact .refl _
  · split <;> exact .refl _

theorem Run.session (run : Run sha start entries state) : SameSession start state := by
  induction run with
  | start => exact .refl _
  | served _ command frame assumptions asOfMs step ok ih =>
    cases (simulateIoc_ok ok).2 with
    | replayed receipt => exact ih
    | waiting => exact ih
    | ended => exact ih.trans (ended_session command frame assumptions _ asOfMs)
  | raised _ _ _ _ _ _ _ ih => exact ih

/-- The receipt of a command that ended, for the content and the assumptions of its call. -/
structure ReceiptOf (sha : Content → Digest) (e : Entry Digest) (receipt : CommandReceipt Digest) :
    Prop where
  id : receipt.commandId = e.command.commandId
  content : receipt.commandSha256 = sha (.command e.command)
  assumed : receipt.assumptionsSha256 = sha (.assumptions e.assumptions)
  outcome : receipt.outcome = e.step.outcome

/-- A call that ended its command leaves a receipt of it, its own or the one it replayed. -/
theorem receipt_of_terminal {e : Entry Digest} {before : LiquidityState Digest}
    (ok : simulateIoc sha e.command e.frame e.assumptions before e.asOfMs = .ok e.step)
    (terminal : e.step.outcome.status ≠ .WAIT) :
    ∃ receipt ∈ e.step.state.receipts, ReceiptOf sha e receipt := by
  obtain ⟨command, frame, policy, asOfMs, step⟩ := e
  have served : Served sha command frame policy before asOfMs step := (simulateIoc_ok ok).2
  cases served with
  | waiting => exact absurd rfl terminal
  | replayed receipt mem id content assumed => exact ⟨receipt, mem, id, content, assumed, rfl⟩
  | ended => exact ⟨_, List.mem_append_right _ List.mem_cons_self, rfl, rfl, rfl, rfl⟩

/-- What a terminal call comes to in any later state: it is answered from its receipt, and
nothing else is done under its id. -/
structure Settled (sha : Content → Digest) (e : Entry Digest) (state : LiquidityState Digest) :
    Prop where
  replays : ∀ frame asOfMs, frame.tapeId = state.tapeId → frame.symbol = state.symbol →
    state.lastAsOfMs ≤ asOfMs →
    simulateIoc sha e.command frame e.assumptions state asOfMs = .ok ⟨e.step.outcome, state, true⟩
  refuses : ∀ other frame assumptions asOfMs, other.commandId = e.command.commandId →
    other ≠ e.command ∨ assumptions ≠ e.assumptions →
    ∃ error, simulateIoc sha other frame assumptions state asOfMs = .error error
  appended : e.step.state.receipts <+: state.receipts
  unique : (state.receipts.map (·.commandId)).Nodup

/-- In every later state of a run a command that reached a terminal outcome is settled. -/
theorem terminal_command_settled (injective : Function.Injective sha) {e : Entry Digest}
    (run : Run sha start (later ++ e :: earlier) state) (fresh : Fresh start)
    (terminal : e.step.outcome.status ≠ .WAIT) : Settled sha e state := by
  have bound := run.bound fresh
  obtain ⟨middle, older, newer⟩ := run.split
  obtain ⟨rfl, before, first, ok⟩ := older.latest
  obtain ⟨receipt, mem, of⟩ := receipt_of_terminal ok terminal
  have kept : receipt ∈ state.receipts := newer.appends.subset mem
  obtain ⟨session, -, symbol⟩ := first.session
  obtain ⟨session', -, symbol'⟩ := run.session
  obtain ⟨ofSession, ofSymbol⟩ := (simulateIoc_ok ok).1.command
  have own : e.command.sessionId = state.sessionId ∧ e.command.symbol = state.symbol := by
    rw [ofSession, ofSymbol, session, symbol, session', symbol']
    exact ⟨rfl, rfl⟩
  refine ⟨fun frame asOfMs tape frameSymbol clock => ?_, ?_, newer.appends, bound.unique⟩
  · rw [← of.outcome]
    exact simulateIoc_replays bound kept of.id of.content of.assumed clock own ⟨tape, frameSymbol⟩
  · intro other frame assumptions asOfMs id differs
    exact simulateIoc_refuses injective bound kept (of.id.trans id.symm) of.content of.assumed
      differs

/-- The first order of the sample run, behind the gap that came after it. -/
theorem terminal_command_settled_sample :
    ∃ e ∈ sampleRun.1, e.step.outcome.status = .FILLED ∧ Settled id e sampleRun.2 ∧
      sampleRun.2.barrierReason = some "SOURCE_GAP" := by
  have split : ∃ later e, sampleRun.1 = later ++ [e] ∧ e.step.outcome.status = .FILLED := by
    refine ⟨sampleRun.1.dropLast, sampleRun.1.getLast (by decide +kernel), ?_, by decide +kernel⟩
    exact (List.dropLast_append_getLast _).symm
  obtain ⟨later, e, eq, filled⟩ := split
  have run := sampleRun_run
  rw [eq] at run
  exact ⟨e, by simp [eq], filled, terminal_command_settled Function.injective_id run rfl
    (by rw [filled]; decide), by decide +kernel⟩

end Runs

end KairosExecution.Simulation
