import KairosExecution.Simulation.Evaluation

/-! Exits and the time of the entry. The fill of an entry is dated at its arrival, one
latency after the trade was created; an exit is dated at the close of its bar. A bar that
closed no later than the fill is told from the others by nothing but the order of
arrivals, which shifts both by the same latency. So an exit looks behind its entry where
such a bar crosses the stop or the target of an active trade, and nowhere else. -/

namespace KairosExecution.Simulation

open Python Interactive

variable {Digest : Type} [DecidableEq Digest] {sha : Content → Digest} {ids : Ids}
  {order : List SimulationCommand → List SimulationCommand}

/-- When the entry of a trade arrives at the book. -/
def SimulationTrade.enteredAtMs (trade : SimulationTrade) : ℕ :=
  trade.createdAtMs + trade.admission.session.assumptions.latencyMs

/-- The calls that a runner makes. -/
inductive Operation
  | startTrade (admission : SimulationAdmission) (createdAtMs : ℕ)
  | submitEntry (trade : SimulationTrade) (asOfMs : ℕ)
  | processClosedBar (trade : SimulationTrade) (bar : ClosedBar) (asOfMs : ℕ)
  | recoverPrepared (sessionId : String) (asOfMs : ℕ)

/-- From `r` the call reaches `r'`, at its end or where a crash cuts it. -/
def Operation.Reaches (sha : Content → Digest) (ids : Ids)
    (order : List SimulationCommand → List SimulationCommand) (r r' : Repository Digest) :
    Operation → Prop
  | .startTrade admission createdAtMs =>
    Interactive.Reaches (Repository.answer order) (Simulation.startTrade ids admission createdAtMs) r r'
  | .submitEntry trade asOfMs =>
    Interactive.Reaches (Repository.answer order) (Simulation.submitEntry sha ids trade asOfMs) r r'
  | .processClosedBar trade bar asOfMs =>
    Interactive.Reaches (Repository.answer order)
      (Simulation.processClosedBar sha ids trade bar asOfMs) r r'
  | .recoverPrepared sessionId asOfMs =>
    Interactive.Reaches (Repository.answer order) (Simulation.recoverPrepared sha sessionId asOfMs) r r'

/-- The repositories that calls within a condition lead to, from recorded frames alone:
any calls in any order, each cut anywhere. -/
inductive ControllerRun (sha : Content → Digest) (ids : Ids)
    (order : List SimulationCommand → List SimulationCommand)
    (within : Repository Digest → Operation → Prop) : Repository Digest → Prop
  | start (frames : List AcceptedBookFrame) : ControllerRun sha ids order within { frames }
  | call {r r' : Repository Digest} (before : ControllerRun sha ids order within r) (op : Operation)
      (allowed : within r op) (reach : op.Reaches sha ids order r r') :
      ControllerRun sha ids order within r'

/-- Every prepared exit is of a bar that closed after the recorded fill of its entry. -/
def NoLookBehind (r : Repository Digest) : Prop :=
  ∀ id current, r.prepared.get id = some current → current.command.commandKind ≠ .ENTRY_IOC →
    ∀ journal, HasJournal r current.command.trade journal →
      ∀ event ∈ journal.events, event.eventType.entryFill →
        event.occurredAtMs < current.command.submittedAtMs

/-- The bar is one for the trade that closed no later than its entry arrived, and calls
for an exit all the same. -/
structure LooksBehind (trade : SimulationTrade) (bar : ClosedBar) : Prop where
  matching : Matching trade bar
  behind : bar.closeTimeMs + 1 ≤ trade.enteredAtMs
  triggers : ∃ plan ∈ trade.admission.intent.exitPlan,
    ∃ exit ∈ exitTrigger trade.admission.side plan bar trade.enteredAtMs,
      ∃ cap, adverseExitCap exit.2 trade = .ok cap

/-- The call is not handed such a bar of an active trade, within its session and by its clock. -/
def InFront (r : Repository Digest) : Operation → Prop
  | .processClosedBar trade bar asOfMs =>
    ∀ journal, HasJournal r trade journal → journal.state = .ACTIVE →
      bar.closeTimeMs + 1 ≤ asOfMs → bar.closeTimeMs + 1 ≤ trade.admission.session.endsAtMs →
      ¬LooksBehind trade bar
  | _ => True

/-- An entry is dated when its trade was created, an exit after the entry arrived. -/
def CommandDated (command : SimulationCommand) : Prop :=
  if command.commandKind = .ENTRY_IOC then command.submittedAtMs = command.trade.createdAtMs
  else command.trade.enteredAtMs < command.submittedAtMs

/-- How the recorded commands and entries are dated. -/
structure Dated (r : Repository Digest) : Prop where
  entries : ∀ id journal, r.journals.get id = some journal → ∀ event ∈ journal.events,
    event.eventType.entryFill → event.occurredAtMs = journal.trade.enteredAtMs
  commands : ∀ entry ∈ r.prepared, CommandDated entry.2.command

omit [DecidableEq Digest] in
theorem noLookBehind_of_dated {r : Repository Digest} (dated : Dated r) : NoLookBehind r := by
  intro id current stored exit journal own event mem fill
  rw [dated.entries _ journal own.1 event mem fill, own.2]
  have after := dated.commands _ (Dict.mem_of_lookup stored)
  rwa [CommandDated, if_neg exit] at after

section Kept

variable {r : Repository Digest}

omit [DecidableEq Digest] in
theorem Dated.prepare (dated : Dated r) {command : SimulationCommand} (own : CommandDated command) :
    Dated (r.prepareCommand command).2 := by
  rcases prepareCommand_snd r command with same | ⟨-, new⟩
  · rw [same]
    exact dated
  · rw [new]
    refine ⟨dated.entries, fun entry mem => ?_⟩
    rcases Dict.mem_set mem with rfl | old
    · exact own
    · exact dated.commands entry old

/-- An event that is no entry fill, or is dated as one, may be appended. -/
theorem Dated.append (dated : Dated r) (event : TradeEvent Digest)
    (entry : event.eventType.entryFill → ∀ journal, r.journals.get event.tradeId = some journal →
      event.occurredAtMs = journal.trade.enteredAtMs) : Dated (r.appendTradeEvent event).2 := by
  rcases appendTradeEvent_snd r event with same | ⟨journal, found, -, new⟩
  · rw [same]
    exact dated
  · rw [new]
    refine ⟨fun id journal' found' other mem fill => ?_, dated.commands⟩
    rw [Dict.get_set] at found'
    split at found'
    · cases found'
      rcases List.mem_append.1 mem with old | here
      · exact dated.entries _ journal found other old fill
      · cases List.mem_singleton.1 here
        exact entry fill journal found
    · exact dated.entries id journal' found' other mem fill

omit [DecidableEq Digest] in
/-- The event of a receipt is one of its trade, dated at the arrival; only that of an
entry is an entry fill. -/
theorem eventForReceipt_dated {command : SimulationCommand} {receipt : SimulationReceipt Digest}
    {journal : TradeJournal Digest} {event : TradeEvent Digest}
    (h : eventForReceipt command receipt journal = .ok event) :
    event.tradeId = command.trade.tradeId ∧ event.occurredAtMs = receipt.arrivalAtMs ∧
      (event.eventType.entryFill → command.commandKind = .ENTRY_IOC) := by
  obtain ⟨transition, made, h⟩ := bind_eq_ok.1 h
  cases h
  refine ⟨rfl, rfl, fun fill => ?_⟩
  by_contra exit
  rw [transitionFor, if_neg exit] at made
  obtain ⟨_, -, made⟩ := bind_eq_ok.1 made
  unfold exitTransition at made
  split at made
  · dsimp only at made
    split at made
    · cases made
    · cases made
      revert fill
      cases command.commandKind <;> exact fun fill => nomatch fill
  · cases made
    cases fill

theorem dated_stable (asOfMs : ℕ) : Stable sha order asOfMs (Dated : Repository Digest → Prop) where
  complete r command journal receipt state event dated prepared own evaluated built := by
    obtain ⟨before, facts⟩ := evaluationOf_some evaluated
    obtain ⟨trade, occurred, entry⟩ := eventForReceipt_dated built
    have appended : Dated (r.appendTradeEvent event).2 := by
      refine dated.append event fun fill journal' found => ?_
      rw [trade, own.1] at found
      cases found
      have submitted := dated.commands _ (Dict.mem_of_lookup prepared)
      rw [CommandDated, if_pos (entry fill)] at submitted
      rw [occurred, facts.facts.arrival, own.2, SimulationCommand.arrivalAtMs, submitted]
      rfl
    rcases completeCommand_snd r command receipt state event with same | ⟨-, new⟩
    · rw [same]
      exact dated
    · rw [new]
      refine ⟨appended.entries, fun entry mem => ?_⟩
      rcases Dict.mem_set mem with rfl | old
      · have own := dated.commands _ (Dict.mem_of_lookup prepared)
        exact own
      · exact dated.commands entry old
  record r trade journal result dated own terminal ran := by
    rcases recordResult_snd r result with same | ⟨-, new⟩
    · rw [same]
      exact dated
    · rw [new]
      exact ⟨dated.entries, dated.commands⟩

/-- What a command is built of. -/
theorem buildCommand_ok {trade : SimulationTrade} {kind : CommandKind} {quantity cap : ℚ}
    {submittedAtMs eligibleAtMs expiresAtMs : ℕ} {command : SimulationCommand}
    (h : buildCommand ids trade kind quantity cap submittedAtMs eligibleAtMs expiresAtMs = .ok command) :
    command.trade = trade ∧ command.commandKind = kind ∧ command.quantity = quantity ∧
      command.submittedAtMs = submittedAtMs := by
  unfold buildCommand at h
  split at h
  · cases h
    exact ⟨rfl, rfl, rfl, rfl⟩
  · cases h

/-- The entry command of a trade is dated when the trade was created. -/
theorem entryCommand_dated {trade : SimulationTrade} {command : SimulationCommand}
    (h : entryCommand ids trade = .ok command) : CommandDated command := by
  obtain ⟨trade', kind, -, submitted⟩ := buildCommand_ok h
  rw [CommandDated, if_pos kind, submitted, trade']

/-- What a bar triggers is an exit. -/
theorem exitTrigger_exit {side : Side} {plan : ExitPlan} {bar : ClosedBar} {enteredAtMs : ℕ}
    {kind : CommandKind} {price : ℚ}
    (h : exitTrigger side plan bar enteredAtMs = some (kind, price)) : kind ≠ .ENTRY_IOC := by
  unfold exitTrigger at h
  cases side <;> (dsimp only at h; split_ifs at h <;> cases h <;> exact fun eq => nomatch eq)

omit [DecidableEq Digest] in
/-- The exit that a bar calls for is of a trade with one entry fill. -/
theorem barExit_ok {trade : SimulationTrade} {journal : TradeJournal Digest} {bar : ClosedBar}
    {command : SimulationCommand} {contract : FloatContract}
    (h : barExit ids trade journal bar contract = .ok (some command)) :
    command.trade = trade ∧ command.commandKind ≠ .ENTRY_IOC ∧
      command.quantity = contract.value (remainingQuantity journal) ∧
      command.submittedAtMs = bar.closeTimeMs + 1 ∧
      ∃ event ∈ journal.events, event.eventType.entryFill ∧ ∃ plan ∈ trade.admission.intent.exitPlan,
        ∃ exit ∈ exitTrigger trade.admission.side plan bar event.occurredAtMs,
          ∃ cap, adverseExitCap exit.2 trade = .ok cap := by
  obtain ⟨event, first, h⟩ := bind_eq_ok.1 h
  have entry : event ∈ journal.events ∧ event.eventType.entryFill := by
    unfold firstEntryEvent at first
    split at first
    · rename_i found
      cases first
      exact List.mem_filter.1 (by rw [found]; exact List.mem_cons_self)
    · cases first
  split at h
  · cases h
  rename_i plan planned
  split at h
  · cases h
  rename_i kind price triggered
  obtain ⟨_, -, h⟩ := bind_eq_ok.1 h
  obtain ⟨cap, capped, h⟩ := bind_eq_ok.1 h
  obtain ⟨built, made, h⟩ := bind_eq_ok.1 h
  cases h
  obtain ⟨own, same, quantity, submitted⟩ := buildCommand_ok made
  refine ⟨own, ?_, quantity, submitted, event, entry.1, entry.2, plan, planned, (kind, price),
    triggered, cap, capped⟩
  rw [same]
  exact exitTrigger_exit triggered

end Kept

section Runs

variable {r r' : Repository Digest}

theorem openTrade_dated (dated : Dated r) (trade : SimulationTrade) :
    Keeps (Repository.answer order) Dated (fun _ _ => True) (openTrade trade) r := by
  have created : Dated (r.createTrade trade).2 := by
    rcases createTrade_snd r trade with same | ⟨-, new⟩
    · rw [same]
      exact dated
    · rw [new]
      refine ⟨fun id journal found event mem fill => ?_, dated.commands⟩
      rw [Dict.get_set] at found
      split at found
      · cases found
        cases mem
      · exact dated.entries id journal found event mem fill
  have rooted := created.append (rootEvent trade) fun fill => by cases fill
  refine .ask_bind dated created fun _ _ => .ask_bind created rooted fun _ _ => ?_
  refine (journalOf_keeps rooted _).bind fun _ _ holds _ => ?_
  exact .lift_bind holds fun _ _ => .pure holds trivial

theorem startTrade_dated (dated : Dated r) (admission : SimulationAdmission) (createdAtMs : ℕ) :
    Keeps (Repository.answer order) Dated (fun _ _ => True) (startTrade ids admission createdAtMs)
      r :=
  .lift_bind dated fun _ _ => .lift_bind dated fun _ _ =>
    .ask_bind dated dated fun _ _ => openTrade_dated dated _

/-- A call that is not handed a bar from behind keeps the dates. -/
theorem Operation.dated (listed : ∀ commands, ∀ command ∈ order commands, command ∈ commands)
    (dated : Dated r) {op : Operation} (front : InFront r op) (reach : op.Reaches sha ids order r r') :
    Dated r' := by
  cases op with
  | startTrade admission createdAtMs => exact (startTrade_dated dated _ _).reaches reach
  | submitEntry trade asOfMs =>
    exact (submitEntry_keeps (dated_stable asOfMs) dated
      fun command built => dated.prepare (entryCommand_dated built)).reaches reach
  | recoverPrepared sessionId asOfMs =>
    refine (recoverPrepared_keeps (dated_stable asOfMs) (fun s command holds own => holds.prepare own)
      sessionId (fun command mem => ?_) dated).reaches reach
    obtain ⟨entry, stored, rfl⟩ := List.mem_map.1 (listed _ command mem)
    exact dated.commands entry (List.mem_filter.1 stored).1
  | processClosedBar trade bar asOfMs =>
    refine (processClosedBar_keeps (dated_stable asOfMs) dated ?_ ?_).reaches reach
    · intro journal processed event trade' seq type from' to' receipt
      exact dated.append event fun fill => by rw [type] at fill; cases fill
    · intro journal command processed open' called
      obtain ⟨own, exit, -, submitted, event, mem, fill, plan, planned, triggers⟩ := barExit_ok called
      refine dated.prepare ?_
      rw [CommandDated, if_neg exit, own, submitted]
      by_contra behind
      refine front journal processed.own processed.active processed.closed open' ?_
      have entered := dated.entries _ journal processed.own.1 event mem fill
      rw [entered, processed.own.2] at triggers
      exact ⟨processed.matching, not_lt.1 behind, plan, planned, triggers⟩

/-- In a run of the controller, crashes and recoveries included, that is handed no bar
from behind, no exit looks behind its entry. -/
theorem exits_never_look_behind
    (listed : ∀ commands, ∀ command ∈ order commands, command ∈ commands)
    (run : ControllerRun sha ids order InFront r) : NoLookBehind r := by
  apply noLookBehind_of_dated
  induction run with
  | start frames => exact ⟨fun _ _ found => (nomatch found), fun _ mem => (nomatch mem)⟩
  | call before op allowed reach ih => exact op.dated listed ih allowed reach

/-- A trade created at 10, with its entry arriving at 15. -/
def sampleTrade : SimulationTrade where
  tradeId := "trade"
  createdAtMs := 10
  admission := {
    admissionId := "admission"
    session := {
      sessionId := "S"
      tapeId := "tape"
      assumptions := samplePolicy
      endsAtMs := 300 }
    intent := {
      entryEligibleTsMs := 10
      entryExpiresTsMs := 200
      exitPlan := some { stopPrice := 95, targetPrice := 110, maxHoldingMs := 100 } }
    symbol := "BTCUSDT"
    side := .LONG
    quantity := 1 / 2
    priceCap := 101
    streamEpoch := "epoch" }

/-- One id for the trade, one for its entry, and one for the exits of each bar. -/
def sampleIds : Ids where
  trade _ _ := "trade"
  command content := if content.commandKind = .ENTRY_IOC then "entry"
    else "exit" ++ String.ofList (List.replicate content.submittedAtMs '.')

/-- A bar that crosses the stop. -/
def stopBar (closeTimeMs : ℕ) : ClosedBar where
  symbol := "BTCUSDT"
  venue := "BINANCE_UM"
  barSha256 := some "bar"
  closeTimeMs := closeTimeMs
  low := 90
  high := 100
  close := 96

/-- The repository after the sample trade was started and entered, and one bar was processed. -/
def sampleStopped (closeTimeMs asOfMs : ℕ) : Repository Content :=
  let answer := Repository.answer id
  let started := ((startTrade sampleIds sampleTrade.admission 10).run answer
    { frames := [sampleFrame 1 .ADMITTED] }).2
  let entered := ((submitEntry id sampleIds sampleTrade 15).run answer started).2
  ((processClosedBar id sampleIds sampleTrade (stopBar closeTimeMs) asOfMs).run answer entered).2

theorem sampleStopped_run {within : Repository Content → Operation → Prop} {closeTimeMs asOfMs : ℕ}
    (bar : ∀ r, within r (.processClosedBar sampleTrade (stopBar closeTimeMs) asOfMs))
    (others : ∀ r, within r (.startTrade sampleTrade.admission 10) ∧ within r (.submitEntry sampleTrade 15)) :
    ControllerRun id sampleIds id within (sampleStopped closeTimeMs asOfMs) := by
  have started : ControllerRun id sampleIds id within _ :=
    .call (.start [sampleFrame 1 .ADMITTED]) (.startTrade sampleTrade.admission 10) (others _).1
      (reaches_run _ _)
  have entered : ControllerRun id sampleIds id within _ :=
    .call started (.submitEntry sampleTrade 15) (others _).2 (reaches_run _ _)
  exact .call entered _ (bar _) (reaches_run _ _)

/-- An exit of the sample trade that was submitted by the time of its entry's fill. -/
def exitLooksBehind {Digest : Type} (current : Option PreparedCommand)
    (journal : Option (TradeJournal Digest)) : Bool :=
  match current, journal with
  | some current, some journal => decide (current.command.trade = sampleTrade)
    && decide (journal.trade = sampleTrade) && decide (current.command.commandKind ≠ .ENTRY_IOC)
    && journal.events.any fun event => event.eventType.entryFill
      && decide (current.command.submittedAtMs ≤ event.occurredAtMs)
  | _, _ => false

/-- A bar that closed before the entry arrived stops the position that the entry opened. -/
theorem stop_looks_behind : ∃ r, ControllerRun id sampleIds id (fun _ _ => True) r ∧
    ¬NoLookBehind r ∧ (r.journals.get "trade").map (·.state) = some .FLAT := by
  refine ⟨sampleStopped 11 20, sampleStopped_run (fun _ => trivial) fun _ => ⟨trivial, trivial⟩, ?_,
    by decide +kernel⟩
  intro never
  have behind : exitLooksBehind ((sampleStopped 11 20).prepared.get "exit............")
      ((sampleStopped 11 20).journals.get "trade") = true := by decide +kernel
  unfold exitLooksBehind at behind
  split at behind
  · rename_i current journal stored found
    simp only [Bool.and_eq_true, decide_eq_true_eq, List.any_eq_true] at behind
    obtain ⟨⟨⟨own, same⟩, exit⟩, event, mem, fill, before⟩ := behind
    have journalOf : HasJournal (sampleStopped 11 20) current.command.trade journal := by
      rw [own]
      exact ⟨found, same⟩
    exact absurd (never _ current stored exit journal journalOf event mem fill) (not_lt.2 before)
  · cases behind

/-- A bar that closed after the entry arrived stops it in its time. -/
theorem exits_never_look_behind_sample : NoLookBehind (sampleStopped 19 30) ∧
    ((sampleStopped 19 30).journals.get "trade").map (·.state) = some .FLAT := by
  refine ⟨exits_never_look_behind (fun _ _ mem => mem) (sampleStopped_run ?_ fun _ =>
    ⟨trivial, trivial⟩), by decide +kernel⟩
  intro r journal _ _ _ _ behind
  exact absurd behind.behind (by decide)

end Runs

end KairosExecution.Simulation
