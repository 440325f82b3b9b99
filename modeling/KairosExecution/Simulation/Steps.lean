import KairosExecution.Simulation.Controller

/-! What a controller call can do to the repository. It loads at will; beyond that it
prepares a command, completes one with what the model made of it, closes a trade whose
session has ended, or records the result of a trade. An invariant that these keep holds
between any two calls to the repository, so also after a crash. -/

namespace KairosExecution.Simulation

open Python Interactive

variable {Digest : Type} [DecidableEq Digest] {sha : Content → Digest} {ids : Ids}
  {order : List SimulationCommand → List SimulationCommand}

/-- The calls that leave the repository as it is. -/
def Loads : RepositoryCall Digest → Prop
  | .loadCommandReceipt _ | .loadLiquidityState .. | .loadLatestBookFrame .. | .loadTradeJournal _
  | .listPreparedCommands _ | .listTerminalTradesWithoutResult _ => True
  | _ => False

theorem loads_same (r : Repository Digest) (c : RepositoryCall Digest) (loads : Loads c) :
    (Repository.answer order r c).2 = r := by
  cases c with
  | loadCommandReceipt => rfl
  | loadLiquidityState => rfl
  | loadLatestBookFrame => rfl
  | loadTradeJournal => rfl
  | listPreparedCommands => rfl
  | listTerminalTradesWithoutResult => rfl
  | createAdmission => cases loads
  | createTrade => cases loads
  | appendTradeEvent => cases loads
  | prepareCommand => cases loads
  | completeCommand => cases loads
  | recordResult => cases loads

section Writing

/-- Appending an event continues its journal, or changes nothing. -/
theorem appendTradeEvent_snd (r : Repository Digest) (event : TradeEvent Digest) :
    (r.appendTradeEvent event).2 = r ∨ ∃ journal, r.journals.get event.tradeId = some journal ∧
      Repository.continues journal event = true ∧
      (r.appendTradeEvent event).2 = { r with
        journals := r.journals.set event.tradeId { journal with
          state := event.toState
          events := journal.events ++ [event] } } := by
  unfold Repository.appendTradeEvent
  split
  · exact .inl rfl
  · rename_i journal found
    split
    · exact .inl rfl
    split
    · exact .inr ⟨journal, found, ‹_›, rfl⟩
    · exact .inl rfl

/-- Completing a command appends its event and writes the rest, or does nothing. -/
theorem completeCommand_snd (r : Repository Digest) (command : SimulationCommand)
    (receipt : SimulationReceipt Digest) (state : LiquidityState Digest) (event : TradeEvent Digest) :
    (r.completeCommand command receipt state event).2 = r ∨
      r.receipts.get command.commandId = none ∧
      (r.completeCommand command receipt state event).2 = { (r.appendTradeEvent event).2 with
        prepared := r.prepared.set command.commandId { command, completed := true }
        receipts := r.receipts.set command.commandId receipt
        liquidity := r.liquidity.set (command.trade.admission.session.sessionId,
          command.trade.admission.symbol) state } := by
  unfold Repository.completeCommand
  split
  · split
    · exact .inl rfl
    · exact .inl rfl
  · rename_i absent
    split
    · rename_i appended ok
      rw [ok]
      exact .inr ⟨absent, rfl⟩
    · exact .inl rfl
    · exact .inl rfl

omit [DecidableEq Digest] in
theorem recordResult_snd (r : Repository Digest) (result : SimulationResult) :
    (r.recordResult result).2 = r ∨ r.results.get result.tradeId = none ∧
      (r.recordResult result).2 = { r with results := r.results.set result.tradeId result } := by
  unfold Repository.recordResult
  split
  · split
    · exact .inl rfl
    · exact .inl rfl
  · exact .inr ⟨‹_›, rfl⟩

omit [DecidableEq Digest] in
theorem createTrade_snd (r : Repository Digest) (trade : SimulationTrade) :
    (r.createTrade trade).2 = r ∨ r.journals.get trade.tradeId = none ∧
      (r.createTrade trade).2 = { r with
        journals := r.journals.set trade.tradeId { trade, state := .PENDING, events := [] } } := by
  unfold Repository.createTrade
  split
  · split
    · exact .inl rfl
    · exact .inl rfl
  · exact .inr ⟨‹_›, rfl⟩

omit [DecidableEq Digest] in
theorem prepareCommand_snd (r : Repository Digest) (command : SimulationCommand) :
    (r.prepareCommand command).2 = r ∨ r.prepared.get command.commandId = none ∧
      (r.prepareCommand command).2 = { r with
        prepared := r.prepared.set command.commandId { command, completed := false } } := by
  unfold Repository.prepareCommand
  split
  · split
    · exact .inl rfl
    · exact .inl rfl
  · exact .inr ⟨‹_›, rfl⟩

end Writing

section Reading

omit [DecidableEq Digest] in
theorem journalOf_loads (trade : SimulationTrade) :
    Calls Loads (journalOf trade : Sim Digest (TradeJournal Digest)) :=
  .bind (.ask trivial) fun _ => .lift

theorem fillTotals_loads (kind : EventType → Bool) (events : List (TradeEvent Digest)) :
    Calls Loads (fillTotals kind events) := by
  induction events with
  | nil => exact .pure
  | cons event events ih =>
    unfold fillTotals
    split
    · split
      · exact .raise
      · exact .bind (.ask trivial) fun _ => .bind .lift fun _ => .bind ih fun _ => .pure
    · exact ih

theorem resultOf_loads (trade : SimulationTrade) (journal : TradeJournal Digest) :
    Calls Loads (resultOf trade journal) := by
  unfold resultOf
  split
  · exact .raise
  · split
    · exact .pure
    · exact .bind (fillTotals_loads _ _) fun _ => .bind (fillTotals_loads _ _) fun _ => .lift

theorem evaluatePrepared_loads (command : SimulationCommand) (asOfMs : ℕ) :
    Calls Loads (evaluatePrepared sha command asOfMs) := by
  unfold evaluatePrepared
  refine .bind .lift fun _ => .bind (.ask trivial) fun _ => .bind .lift fun state => .bind .lift fun _ => ?_
  split
  · exact .pure
  refine .bind .lift fun _ => ?_
  split
  · exact .bind .lift fun _ => .bind .lift fun _ => .pure
  · exact .bind (.ask trivial) fun _ => .bind .lift fun _ => .pure

/-- What the model makes of a prepared command, on what the repository holds. -/
def evaluationOf (sha : Content → Digest) (r : Repository Digest) (command : SimulationCommand)
    (asOfMs : ℕ) : Except Failure (Option (SimulationReceipt Digest × LiquidityState Digest)) := do
  let session := command.trade.admission.session
  let symbol := command.trade.admission.symbol
  build (Arithmetic.assumptionFields session.assumptions) "FillAssumptions"
  let state ← liquidityOf command (r.liquidity.get (session.sessionId, symbol))
  build (Arithmetic.commandFields (kernelCommand command)) "IOCCommand"
  if asOfMs < command.arrivalAtMs then return none
  else do
    reject (state.receipts.any (·.commandId = command.commandId)) (.integrity
      "prepared simulation command is already present in private liquidity state")
    if command.arrivalAtMs > command.expiresAtMs then do
      let step ← fromModel (terminalWithoutBook sha command state asOfMs "COMMAND_EXPIRED" .NO_FILL)
      let receipt ← commandReceipt sha command step.outcome none
      return some (receipt, step.state)
    else do
      let evaluated ← evaluateOn sha command state asOfMs
        (r.latestBookFrame session.tapeId symbol command.arrivalAtMs)
      return some evaluated

theorem run_evaluatePrepared (command : SimulationCommand) (asOfMs : ℕ) (r : Repository Digest) :
    (evaluatePrepared sha command asOfMs).run (Repository.answer order) r =
      (evaluationOf sha r command asOfMs, r) := by
  refine Program.run_lift_bind fun _ => (Program.run_read rfl).trans (Program.run_lift_bind fun state => ?_)
  refine Program.run_lift_bind fun _ => ?_
  split
  · rfl
  refine Program.run_lift_bind fun _ => ?_
  split
  · refine Program.run_lift_bind fun step => ?_
    exact Program.run_lift_bind fun receipt => rfl
  · exact (Program.run_read rfl).trans (Program.run_lift_bind fun evaluated => rfl)

/-- Loading the journal of a trade. -/
theorem run_journalOf {trade : SimulationTrade} {r : Repository Digest}
    {journal : TradeJournal Digest} {r' : Repository Digest} :
    (journalOf trade).run (Repository.answer order) r = (.ok journal, r') ↔
      r' = r ∧ r.journals.get trade.tradeId = some journal ∧ journal.trade = trade := by
  have loaded : (journalOf trade).run (Repository.answer order) r =
      (ownJournal trade (r.journals.get trade.tradeId), r) := rfl
  rw [loaded]
  cases r.journals.get trade.tradeId with
  | none => simp [ownJournal]
  | some found =>
    by_cases same : found.trade = trade
    · simp only [ownJournal, same, if_true, Prod.mk.injEq, Except.ok.injEq, Option.some.injEq]
      constructor
      · rintro ⟨rfl, rfl⟩
        exact ⟨rfl, rfl, same⟩
      · rintro ⟨rfl, rfl, -⟩
        exact ⟨rfl, rfl⟩
    · simp only [ownJournal, same, if_false, Prod.mk.injEq, Option.some.injEq]
      constructor
      · rintro ⟨h, -⟩
        cases h
      · rintro ⟨-, rfl, own⟩
        exact absurd own same

end Reading

/-- The journal of a trade, where the repository has it. -/
def HasJournal (r : Repository Digest) (trade : SimulationTrade) (journal : TradeJournal Digest) :
    Prop := r.journals.get trade.tradeId = some journal ∧ journal.trade = trade

/-- What completing a command by a clock and recording a result keep. -/
structure Stable (sha : Content → Digest) (order : List SimulationCommand → List SimulationCommand)
    (asOfMs : ℕ) (P : Repository Digest → Prop) : Prop where
  complete : ∀ r command journal receipt state event, P r →
    r.prepared.get command.commandId = some ⟨command, false⟩ →
    HasJournal r command.trade journal →
    evaluationOf sha r command asOfMs = .ok (some (receipt, state)) →
    eventForReceipt command receipt journal = .ok event →
    P (r.completeCommand command receipt state event).2
  record : ∀ r trade journal result, P r → HasJournal r trade journal →
    journal.state.terminal = true →
    (resultOf trade journal).run (Repository.answer order) r = (.ok result, r) →
    P (r.recordResult result).2

variable {asOfMs : ℕ} {P : Repository Digest → Prop} {r : Repository Digest}

theorem journalOf_keeps (holds : P r) (trade : SimulationTrade) :
    Keeps (Repository.answer order) P (fun journal s => s = r ∧ HasJournal r trade journal)
      (journalOf trade) r := by
  refine ((journalOf_loads trade).reads loads_same holds).mono ?_
  rintro journal s _ ⟨same, ran⟩
  exact ⟨same, (run_journalOf.1 ran).2⟩

theorem ensureTerminalResult_keeps (stable : Stable sha order asOfMs P) (holds : P r)
    (trade : SimulationTrade) :
    Keeps (Repository.answer order) P (fun _ _ => True) (ensureTerminalResult trade) r := by
  refine (journalOf_keeps holds trade).bind ?_
  rintro journal s holds ⟨rfl, own⟩
  split
  · rename_i terminal
    refine ((resultOf_loads trade journal).reads loads_same holds).bind ?_
    rintro result s holds ⟨rfl, ran⟩
    refine .ask_bind holds (stable.record s trade journal result holds own terminal ran) ?_
    intro _ _
    exact .pure (stable.record s trade journal result holds own terminal ran) trivial
  · exact .pure holds trivial

theorem replayCompleted_keeps (stable : Stable sha order asOfMs P) (holds : P r)
    (command : SimulationCommand) :
    Keeps (Repository.answer order) P (fun _ _ => True) (replayCompleted command) r := by
  refine .read_bind holds rfl fun found _ => ?_
  cases found with
  | none => exact .raise holds
  | some receipt =>
    refine (ensureTerminalResult_keeps stable holds command.trade).bind fun _ s holds _ => ?_
    exact (journalOf_keeps holds command.trade).bind fun _ _ holds _ => .pure holds trivial

theorem processPrepared_keeps (stable : Stable sha order asOfMs P) (holds : P r)
    {command : SimulationCommand} {journal : TradeJournal Digest}
    (prepared : r.prepared.get command.commandId = some ⟨command, false⟩)
    (own : HasJournal r command.trade journal) :
    Keeps (Repository.answer order) P (fun _ _ => True) (processPrepared sha command journal asOfMs)
      r := by
  refine ((evaluatePrepared_loads command asOfMs).reads loads_same holds).bind ?_
  rintro evaluated s holds ⟨rfl, ran⟩
  rw [run_evaluatePrepared] at ran
  cases evaluated with
  | none => exact .pure holds trivial
  | some pair =>
    obtain ⟨receipt, state⟩ := pair
    refine .lift_bind holds fun event built => ?_
    have completed := stable.complete s command journal receipt state event holds prepared own
      (Prod.mk.inj ran).1 built
    refine .ask_bind holds completed fun completion _ => ?_
    refine (ensureTerminalResult_keeps stable completed command.trade).bind fun _ s holds _ => ?_
    exact (journalOf_keeps holds command.trade).bind fun _ _ holds _ => .pure holds trivial

omit [DecidableEq Digest] in
/-- Preparing a command hands back the one that stands under its id. -/
theorem prepareCommand_ok {command : SimulationCommand} {current : PreparedCommand}
    (h : (r.prepareCommand command).1 = .ok current) :
    current.command = command ∧
      (r.prepareCommand command).2.prepared.get command.commandId = some current ∧
      (r.prepareCommand command).2.journals = r.journals := by
  unfold Repository.prepareCommand at h ⊢
  cases found : r.prepared.get command.commandId with
  | none =>
    rw [found] at h
    cases h
    exact ⟨rfl, by simp [Dict.get_set], rfl⟩
  | some stored =>
    rw [found] at h
    dsimp only at h ⊢
    split at h
    · rename_i same
      cases h
      rw [if_pos same]
      exact ⟨same, found, rfl⟩
    · cases h

theorem processCommand_keeps (stable : Stable sha order asOfMs P) (holds : P r)
    {command : SimulationCommand} (prepares : P (r.prepareCommand command).2) :
    Keeps (Repository.answer order) P (fun _ _ => True) (processCommand sha command asOfMs) r := by
  refine .ask_bind holds prepares fun current answered => ?_
  obtain ⟨same, stored, -⟩ := prepareCommand_ok answered
  refine (journalOf_keeps prepares current.command.trade).bind ?_
  rintro journal s holds ⟨rfl, own⟩
  split
  · exact replayCompleted_keeps stable holds _
  · rename_i open'
    refine processPrepared_keeps stable holds ?_ own
    obtain ⟨stored', completed⟩ := current
    cases same
    simp only [Bool.not_eq_true] at open'
    rw [← open']
    exact stored

omit [DecidableEq Digest] in
/-- Recovery prepares commands that stand prepared, so that it changes nothing by that. -/
theorem prepareCommand_stored {command : SimulationCommand} {completed : Bool}
    (stored : r.prepared.get command.commandId = some ⟨command, completed⟩) :
    r.prepareCommand command = (.ok ⟨command, completed⟩, r) := by
  simp [Repository.prepareCommand, stored]

theorem reportAll_keeps (stable : Stable sha order asOfMs P) (holds : P r)
    (trades : List SimulationTrade) :
    Keeps (Repository.answer order) P (fun _ _ => True) (reportAll trades) r := by
  induction trades generalizing r with
  | nil => exact .pure holds trivial
  | cons trade trades ih =>
    exact (ensureTerminalResult_keeps stable holds trade).bind fun _ _ holds _ => ih holds

/-- The closing of a trade whose session has ended appends one event to it. -/
theorem markUnresolved_keeps (stable : Stable sha order asOfMs P) (holds : P r) (trade : SimulationTrade)
    (journal : TradeJournal Digest) (occurredAtMs : ℕ) (reason : String)
    (marks : ∀ event : TradeEvent Digest, event.tradeId = trade.tradeId →
      event.eventSeq = journal.events.length + 1 → event.eventType = .UNRESOLVED →
      event.fromState = some .ACTIVE → event.toState = .UNRESOLVED →
      event.receipt = none → P (r.appendTradeEvent event).2) :
    Keeps (Repository.answer order) P (fun _ _ => True)
      (markUnresolved trade journal occurredAtMs reason) r := by
  have marked := marks { tradeId := trade.tradeId
                         eventSeq := journal.events.length + 1
                         eventType := .UNRESOLVED
                         fromState := some .ACTIVE
                         toState := .UNRESOLVED
                         occurredAtMs := occurredAtMs
                         reasonCodes := [reason] } rfl rfl rfl rfl rfl rfl
  refine .ask_bind holds marked fun _ _ => ?_
  exact (ensureTerminalResult_keeps stable marked trade).bind fun _ _ holds _ => .pure holds trivial

/-- Recovery keeps what preparing the listed commands again keeps. -/
theorem resumeAll_keeps {Q : SimulationCommand → Prop} (stable : Stable sha order asOfMs P)
    (prepares : ∀ s command, P s → Q command → P (s.prepareCommand command).2)
    (commands : List SimulationCommand) (each : ∀ command ∈ commands, Q command) (holds : P r) :
    Keeps (Repository.answer order) P (fun _ _ => True) (resumeAll sha asOfMs commands) r := by
  induction commands generalizing r with
  | nil => exact .pure holds trivial
  | cons command commands ih =>
    have first := prepares r command holds (each command List.mem_cons_self)
    refine (processCommand_keeps stable holds first).bind fun _ s holds _ => ?_
    refine (ih (fun c hc => each c (List.mem_cons_of_mem _ hc)) holds).bind fun _ _ holds _ => ?_
    exact .pure holds trivial

theorem recoverPrepared_keeps {Q : SimulationCommand → Prop} (stable : Stable sha order asOfMs P)
    (prepares : ∀ s command, P s → Q command → P (s.prepareCommand command).2) (sessionId : String)
    (each : ∀ command ∈ order (r.pending sessionId), Q command) (holds : P r) :
    Keeps (Repository.answer order) P (fun _ _ => True) (recoverPrepared sha sessionId asOfMs) r := by
  refine .read_bind holds rfl fun commands listed => ?_
  cases listed
  refine (resumeAll_keeps stable prepares _ each holds).bind fun _ s holds _ => ?_
  refine .read_bind holds rfl fun trades _ => ?_
  exact (reportAll_keeps stable holds trades).bind fun _ _ holds _ => .pure holds trivial

theorem submitEntry_keeps (stable : Stable sha order asOfMs P) (holds : P r) {trade : SimulationTrade}
    (prepares : ∀ command, entryCommand ids trade = .ok command → P (r.prepareCommand command).2) :
    Keeps (Repository.answer order) P (fun _ _ => True) (submitEntry sha ids trade asOfMs) r :=
  .lift_bind holds fun command built => processCommand_keeps stable holds (prepares command built)

/-- The bar is one that the trade may exit by. -/
def Matching (trade : SimulationTrade) (bar : ClosedBar) : Prop :=
  bar.symbol = trade.admission.symbol ∧ bar.venue = "BINANCE_UM" ∧ bar.barSha256 ≠ none

/-- The trade is active, and the bar has closed by the clock of the call. -/
structure Processed (r : Repository Digest) (trade : SimulationTrade) (bar : ClosedBar) (asOfMs : ℕ)
    (journal : TradeJournal Digest) : Prop where
  matching : Matching trade bar
  closed : bar.closeTimeMs + 1 ≤ asOfMs
  own : HasJournal r trade journal
  active : journal.state = .ACTIVE

/-- A closed bar closes its trade after the session, or prepares the exit it calls for. -/
theorem processClosedBar_keeps (stable : Stable sha order asOfMs P) (holds : P r) {trade : SimulationTrade}
    {bar : ClosedBar}
    (marks : ∀ journal, Processed r trade bar asOfMs journal →
      ∀ event : TradeEvent Digest, event.tradeId = trade.tradeId →
      event.eventSeq = journal.events.length + 1 → event.eventType = .UNRESOLVED →
      event.fromState = some .ACTIVE → event.toState = .UNRESOLVED →
      event.receipt = none → P (r.appendTradeEvent event).2)
    (prepares : ∀ journal command, Processed r trade bar asOfMs journal →
      bar.closeTimeMs + 1 ≤ trade.admission.session.endsAtMs →
      barExit ids trade journal bar = .ok (some command) → P (r.prepareCommand command).2) :
    Keeps (Repository.answer order) P (fun _ _ => True) (processClosedBar sha ids trade bar asOfMs) r := by
  refine .lift_bind holds fun _ checked => ?_
  split
  · exact .pure holds trivial
  rename_i closed
  refine (journalOf_keeps holds trade).bind ?_
  rintro journal s holds ⟨rfl, own⟩
  split
  · exact .pure holds trivial
  rename_i active
  have processed : Processed s trade bar asOfMs journal := by
    refine ⟨?_, not_lt.1 closed, own, not_not.1 active⟩
    simpa [Matching] using checked
  split
  · exact (markUnresolved_keeps stable holds trade journal _ _ (marks journal processed)).bind
      fun _ _ holds _ => .pure holds trivial
  rename_i open'
  refine .lift_bind holds fun exit called => ?_
  cases exit with
  | none => exact .pure holds trivial
  | some command =>
    have prepared := prepares journal command processed (not_lt.1 open') called
    exact (processCommand_keeps stable holds prepared).bind fun _ _ holds _ =>
      .pure holds trivial

end KairosExecution.Simulation
