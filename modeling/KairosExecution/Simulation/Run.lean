import KairosExecution.Simulation.FillModel
import KairosExecution.Python.Value

/-! Runs of the IOC model: calls with any commands, frames, assumptions and clocks, each
on the state that the one before returned; a call that raises leaves the state as it
was. One lemma says all that a call can do: replay a receipt, wait, or end the command
with one receipt more. What holds of a run is proved from that by induction on it. -/

namespace KairosExecution.Simulation

open Python

variable {Digest : Type} [DecidableEq Digest] {sha : Content → Digest}

/-- When a command reaches the book. -/
abbrev arrivalOf (command : IOCCommand) (policy : FillAssumptions) : ℕ :=
  command.submittedAtMs + policy.latencyMs

/-- The state after a command has ended. -/
def ended (sha : Content → Digest) (command : IOCCommand) (frame : AcceptedBookFrame)
    (policy : FillAssumptions) (state : LiquidityState Digest) (asOfMs : ℕ) :
    LiquidityState Digest :=
  let (outcome, fields) := judge sha command frame policy state asOfMs
  { fields with receipts := state.receipts ++ [receiptOf sha command policy outcome] }

/-- What a call that returns has done. -/
inductive Served (sha : Content → Digest) (command : IOCCommand) (frame : AcceptedBookFrame)
    (policy : FillAssumptions) (state : LiquidityState Digest) (asOfMs : ℕ) :
    ModelStep Digest → Prop
  | replayed (receipt : CommandReceipt Digest) (mem : receipt ∈ state.receipts)
      (id : receipt.commandId = command.commandId)
      (content : receipt.commandSha256 = sha (.command command))
      (assumed : receipt.assumptionsSha256 = sha (.assumptions policy)) :
      Served sha command frame policy state asOfMs ⟨receipt.outcome, state, true⟩
  | waiting (fresh : ∀ receipt ∈ state.receipts, receipt.commandId ≠ command.commandId)
      (early : asOfMs < arrivalOf command policy) :
      Served sha command frame policy state asOfMs
        ⟨unfilled sha command frame policy .WAIT "NOT_ARRIVED", state, false⟩
  | ended (fresh : ∀ receipt ∈ state.receipts, receipt.commandId ≠ command.commandId)
      (arrived : arrivalOf command policy ≤ asOfMs)
      (ordered : state.lastArrivalAtMs ≤ arrivalOf command policy)
      (bound : ∀ digest ∈ state.assumptionsSha256, digest = sha (.assumptions policy))
      (sound : (judge sha command frame policy state asOfMs).1.coherent = .ok ())
      (valid : (Simulation.ended sha command frame policy state asOfMs).validate =
        .ok (Simulation.ended sha command frame policy state asOfMs)) :
      Served sha command frame policy state asOfMs
        ⟨(judge sha command frame policy state asOfMs).1,
          Simulation.ended sha command frame policy state asOfMs, false⟩

omit [DecidableEq Digest] in
theorem checked_eq_ok {o o' : FillOutcome Digest} :
    o.checked = .ok o' ↔ o.coherent = .ok () ∧ o' = o := by
  unfold FillOutcome.checked
  rw [bind_eq_ok]
  constructor
  · rintro ⟨_, coherent, h⟩
    cases h
    exact ⟨coherent, rfl⟩
  · rintro ⟨coherent, rfl⟩
    exact ⟨(), coherent, rfl⟩

theorem validate_eq_ok {s s' : LiquidityState Digest} :
    s.validate = .ok s' ↔ s.coherent = .ok () ∧ s' = s := by
  unfold LiquidityState.validate
  rw [bind_eq_ok]
  constructor
  · rintro ⟨_, coherent, h⟩
    cases h
    exact ⟨coherent, rfl⟩
  · rintro ⟨coherent, rfl⟩
    exact ⟨(), coherent, rfl⟩

/-- What every call that returns has checked of the state first. -/
structure Admitted (sha : Content → Digest) (command : IOCCommand) (frame : AcceptedBookFrame)
    (policy : FillAssumptions) (state : LiquidityState Digest) (asOfMs : ℕ) : Prop where
  coherent : state.coherent = .ok ()
  clock : state.lastAsOfMs ≤ asOfMs
  command : command.sessionId = state.sessionId ∧ command.symbol = state.symbol
  frame : frame.tapeId = state.tapeId ∧ frame.symbol = state.symbol
  assumed : ∀ digest ∈ state.assumptionsSha256, digest = sha (.assumptions policy)

variable {command : IOCCommand} {frame : AcceptedBookFrame} {policy : FillAssumptions}
  {state : LiquidityState Digest} {asOfMs : ℕ} {step : ModelStep Digest}

/-- A call that returns was admitted, and has replayed, waited or ended its command. -/
theorem simulateIoc_ok (h : simulateIoc sha command frame policy state asOfMs = .ok step) :
    Admitted sha command frame policy state asOfMs ∧
      Served sha command frame policy state asOfMs step := by
  unfold simulateIoc at h
  obtain ⟨s, valid, h⟩ := bind_eq_ok.1 h
  obtain ⟨coherent, same⟩ := validate_eq_ok.1 valid
  rw [same] at h
  obtain ⟨_, clock, h⟩ := bind_eq_ok.1 h
  obtain ⟨_, own, h⟩ := bind_eq_ok.1 h
  obtain ⟨_, tape, h⟩ := bind_eq_ok.1 h
  obtain ⟨_, assumed, h⟩ := bind_eq_ok.1 h
  simp only [refuse_eq_ok, decide_eq_false_iff_not, not_or, not_not, not_lt, Option.all_eq_true,
    decide_eq_true_eq] at clock own tape assumed
  refine ⟨⟨coherent, clock, own, tape, assumed⟩, ?_⟩
  split at h
  · rename_i receipt found
    obtain ⟨_, same, h⟩ := bind_eq_ok.1 h
    simp only [refuse_eq_ok, decide_eq_false_iff_not, not_or, not_not] at same
    cases h
    have id := List.find?_some found
    exact .replayed receipt (List.mem_of_find?_eq_some found) (by simpa using id) same.1 same.2
  · rename_i absent
    obtain ⟨_, -, h⟩ := bind_eq_ok.1 h
    obtain ⟨_, ordered, h⟩ := bind_eq_ok.1 h
    simp only [refuse_eq_ok, decide_eq_false_iff_not, not_lt] at ordered
    have fresh : ∀ receipt ∈ state.receipts, receipt.commandId ≠ command.commandId := by
      simpa using List.find?_eq_none.1 absent
    unfold evaluate at h
    split at h
    · obtain ⟨o, outcome, h⟩ := bind_eq_ok.1 h
      obtain ⟨-, rfl⟩ := checked_eq_ok.1 outcome
      cases h
      exact .waiting fresh ‹_›
    · obtain ⟨o, outcome, h⟩ := bind_eq_ok.1 h
      obtain ⟨sound, rfl⟩ := checked_eq_ok.1 outcome
      obtain ⟨s', valid, h⟩ := bind_eq_ok.1 h
      obtain ⟨coherent', same⟩ := validate_eq_ok.1 valid
      rw [same] at h
      cases h
      exact .ended fresh (not_lt.1 ‹_›) ordered assumed sound (validate_eq_ok.2 ⟨coherent', rfl⟩)

/-- A request to the model, and what it returned. -/
structure Entry (Digest : Type) where
  command : IOCCommand
  frame : AcceptedBookFrame
  assumptions : FillAssumptions
  asOfMs : ℕ
  step : ModelStep Digest

/-- The calls of a run that returned, the latest first, and the state they leave. -/
inductive Run (sha : Content → Digest) (start : LiquidityState Digest) :
    List (Entry Digest) → LiquidityState Digest → Prop
  | start : Run sha start [] start
  | served {entries : List (Entry Digest)} {state : LiquidityState Digest}
      (before : Run sha start entries state) (command : IOCCommand) (frame : AcceptedBookFrame)
      (assumptions : FillAssumptions) (asOfMs : ℕ) (step : ModelStep Digest)
      (ok : simulateIoc sha command frame assumptions state asOfMs = .ok step) :
      Run sha start (⟨command, frame, assumptions, asOfMs, step⟩ :: entries) step.state
  | raised {entries : List (Entry Digest)} {state : LiquidityState Digest}
      (before : Run sha start entries state) (command : IOCCommand) (frame : AcceptedBookFrame)
      (assumptions : FillAssumptions) (asOfMs : ℕ) (error : Err)
      (failed : simulateIoc sha command frame assumptions state asOfMs = .error error) :
      Run sha start entries state

/-- The call ended its command, and recorded it. -/
def Entry.recorded (e : Entry Digest) : Bool := !e.step.replayed && e.step.outcome.status ≠ .WAIT

/-- The call filled its command, and did not merely repeat that it had. -/
def Entry.filled (e : Entry Digest) : Bool := !e.step.replayed && e.step.outcome.status.fills

/-- The receipt that the call recorded. -/
def Entry.receipt (sha : Content → Digest) (e : Entry Digest) : CommandReceipt Digest :=
  receiptOf sha e.command e.assumptions e.step.outcome

/-- The recorded calls of a run, the latest first. -/
def recorded (entries : List (Entry Digest)) : List (Entry Digest) := entries.filter Entry.recorded

omit [DecidableEq Digest] in
theorem walked_terminal (command : IOCCommand) (frame : AcceptedBookFrame)
    (policy : FillAssumptions) (fills : List LevelFill) :
    (walked sha command frame policy fills).status ≠ .WAIT := by
  show (if total fills (·.quantity) = 0 then Status.NO_FILL
    else if total fills (·.quantity) = command.quantity then .FILLED else .PARTIAL) ≠ .WAIT
  split
  · exact fun h => nomatch h
  split
  · exact fun h => nomatch h
  · exact fun h => nomatch h

theorem judge_terminal (command : IOCCommand) (frame : AcceptedBookFrame) (policy : FillAssumptions)
    (state : LiquidityState Digest) (asOfMs : ℕ) :
    (judge sha command frame policy state asOfMs).1.status ≠ .WAIT := by
  unfold judge
  dsimp only
  split
  · exact fun h => nomatch h
  split
  · exact fun h => nomatch h
  · exact walked_terminal command frame policy _

theorem recorded_ended (command : IOCCommand) (frame : AcceptedBookFrame) (policy : FillAssumptions)
    (state : LiquidityState Digest) (asOfMs : ℕ) (entries : List (Entry Digest)) :
    recorded (⟨command, frame, policy, asOfMs, (judge sha command frame policy state asOfMs).1,
      ended sha command frame policy state asOfMs, false⟩ :: entries) =
    ⟨command, frame, policy, asOfMs, (judge sha command frame policy state asOfMs).1,
      ended sha command frame policy state asOfMs, false⟩ :: recorded entries :=
  List.filter_cons_of_pos (by simp [Entry.recorded, judge_terminal])

namespace Run

variable {start state : LiquidityState Digest} {entries later earlier : List (Entry Digest)}

/-- The receipts of a state are those of the recorded calls, in their order. -/
theorem receipts (run : Run sha start entries state) :
    state.receipts = start.receipts ++ ((recorded entries).map (Entry.receipt sha)).reverse := by
  induction run with
  | start => simp [recorded]
  | served _ command frame assumptions asOfMs step ok ih =>
    obtain ⟨-, served⟩ := simulateIoc_ok ok
    cases served with
    | replayed receipt => exact ih
    | waiting => exact ih
    | ended =>
      rw [recorded_ended, List.map_cons, List.reverse_cons, ← List.append_assoc, ← ih]
      rfl
  | raised _ _ _ _ _ _ _ ih => exact ih

/-- The older part of a run is a run, and the newer part is one from where it stopped. -/
theorem split (run : Run sha start (later ++ earlier) state) :
    ∃ middle, Run sha start earlier middle ∧ Run sha middle later state := by
  generalize eq : later ++ earlier = entries at run
  induction run generalizing later with
  | start =>
    obtain ⟨rfl, rfl⟩ := List.append_eq_nil_iff.1 eq
    exact ⟨start, .start, .start⟩
  | @served entries state before command frame assumptions asOfMs step ok ih =>
    cases later with
    | nil =>
      rw [List.nil_append] at eq
      subst eq
      exact ⟨_, .served before command frame assumptions asOfMs step ok, .start⟩
    | cons x later =>
      obtain ⟨rfl, tail⟩ := List.cons.inj eq
      obtain ⟨middle, older, newer⟩ := ih tail
      exact ⟨middle, older, .served newer command frame assumptions asOfMs step ok⟩
  | raised _ command frame assumptions asOfMs error failed ih =>
    obtain ⟨middle, older, newer⟩ := ih eq
    exact ⟨middle, older, .raised newer command frame assumptions asOfMs error failed⟩

/-- The latest call of a run left its state, and was made on the state of a shorter run. -/
theorem latest {e : Entry Digest} (run : Run sha start (e :: earlier) state) :
    state = e.step.state ∧ ∃ before, Run sha start earlier before ∧
      simulateIoc sha e.command e.frame e.assumptions before e.asOfMs = .ok e.step := by
  generalize eq : e :: earlier = entries at run
  induction run with
  | start => cases eq
  | served before command frame assumptions asOfMs step ok =>
    cases eq
    exact ⟨rfl, _, before, ok⟩
  | raised _ _ _ _ _ _ _ ih => exact ih eq

end Run

/-- The state is as a session starts: only what it is bound to is set. -/
def Fresh (state : LiquidityState Digest) : Prop :=
  state = {
    sessionId := state.sessionId
    tapeId := state.tapeId
    streamEpoch := state.streamEpoch
    symbol := state.symbol }

section Execution

/-- A request to the model. -/
structure Request where
  command : IOCCommand
  frame : AcceptedBookFrame
  assumptions : FillAssumptions
  asOfMs : ℕ

/-- Serve the requests in order, from a state and after the calls so far. -/
def serve (sha : Content → Digest) :
    List Request → LiquidityState Digest → List (Entry Digest) →
      List (Entry Digest) × LiquidityState Digest
  | [], state, entries => (entries, state)
  | r :: rest, state, entries =>
    match simulateIoc sha r.command r.frame r.assumptions state r.asOfMs with
    | .ok step => serve sha rest step.state (⟨r.command, r.frame, r.assumptions, r.asOfMs, step⟩ :: entries)
    | .error _ => serve sha rest state entries

theorem Run.serve {start state : LiquidityState Digest} {entries : List (Entry Digest)}
    (run : Run sha start entries state) (requests : List Request) :
    Run sha start (serve sha requests state entries).1 (serve sha requests state entries).2 := by
  induction requests generalizing state entries with
  | nil => exact run
  | cons r rest ih =>
    unfold Simulation.serve
    split
    · exact ih (.served run r.command r.frame r.assumptions r.asOfMs _ ‹_›)
    · exact ih (.raised run r.command r.frame r.assumptions r.asOfMs _ ‹_›)

/-- A session of one symbol on one tape, as it starts. -/
def freshState (Digest : Type) : LiquidityState Digest where
  sessionId := "S"
  tapeId := "tape"
  streamEpoch := "epoch"
  symbol := "BTCUSDT"

theorem sampleQuantity_pos : (0 : ℚ) < 1 := by norm_num

theorem samplePrice_pos : (0 : ℚ) < 100 := by norm_num

/-- Half of the displayed depth takes part, in steps of a half. -/
def samplePolicy : FillAssumptions where
  latencyMs := 5
  maximumBookAgeMs := 1_000
  maximumFrameLatencyMs := 100
  depthParticipationFraction := 1 / 2
  adverseSlippageBps := 0
  takerFeeBps := 5
  priceTick := 1
  quantityStep := 1 / 2
  fraction_range := by norm_num
  slippage_range := by norm_num
  fee_range := by norm_num
  tick_pos := sampleQuantity_pos
  step_pos := by norm_num

/-- A book with one bid and two asks. -/
def sampleFrame (n : ℕ) (continuity : Continuity) : AcceptedBookFrame where
  tapeId := "tape"
  streamEpoch := "epoch"
  symbol := "BTCUSDT"
  sequence := n + 1
  exchangeUpdateId := n + 1
  exchangeAtMs := 10 * n
  receivedAtMs := 10 * n + 1
  persistedAtMs := 10 * n + 2
  rawPayloadSha256 := "raw"
  continuity := continuity
  bids := [⟨99, 3, by norm_num, by norm_num⟩]
  asks := [⟨100, 1, samplePrice_pos, sampleQuantity_pos⟩, ⟨101, 4, by norm_num, by norm_num⟩]
  sequence_pos := by omega
  update_pos := by omega
  times := by omega
  both_sides := by simp
  bids_descend := by simp
  asks_ascend := by norm_num
  uncrossed := by norm_num

/-- An order to buy two units at 101 or better. -/
def sampleCommand (id : String) (submittedAtMs : ℕ) : IOCCommand where
  sessionId := "S"
  commandId := id
  symbol := "BTCUSDT"
  side := .BUY
  quantity := 2
  priceCap := 101
  submittedAtMs := submittedAtMs
  persistedAtMs := submittedAtMs
  eligibleAtMs := 0
  expiresAtMs := 1_000
  quantity_pos := by norm_num
  cap_pos := by norm_num
  persisted := le_refl _
  expires := by omega

/-- Two orders, the first of them sent again, and a third after a gap in the stream. -/
def sampleRequests : List Request := [
  ⟨sampleCommand "a" 10, sampleFrame 1 .ADMITTED, samplePolicy, 15⟩,
  ⟨sampleCommand "b" 20, sampleFrame 2 .ADMITTED, samplePolicy, 25⟩,
  ⟨sampleCommand "a" 10, sampleFrame 2 .ADMITTED, samplePolicy, 25⟩,
  ⟨sampleCommand "c" 30, sampleFrame 3 .GAP, samplePolicy, 35⟩,
  ⟨sampleCommand "d" 40, sampleFrame 4 .ADMITTED, samplePolicy, 45⟩]

/-- The run of the sample requests, contents standing for their own digests. -/
def sampleRun : List (Entry Content) × LiquidityState Content :=
  serve id sampleRequests (freshState Content) []

theorem sampleRun_run : Run id (freshState Content) sampleRun.1 sampleRun.2 :=
  Run.serve .start sampleRequests

end Execution

end KairosExecution.Simulation
