import KairosExecution.Interactive.Session
import KairosExecution.Simulation.Grid
import KairosExecution.Simulation.Ledger

/-! Callers of the controller, any number of them at once, on one repository. Each makes
one of its calls, and may be lost at any await; what a caller has read may be old when it
acts on it. The repository keeps what it has committed and answers with it. A caller
appends to a journal, completes a command or records a result only by what it has loaded
itself. -/

namespace KairosExecution.Simulation

open Python Interactive

variable {Digest : Type} [DecidableEq Digest]

abbrev RepositoryEvent (Digest : Type) := Event (RepositoryI Digest) Failure

abbrev RepositoryHistory (Digest : Type) := History (RepositoryI Digest) Failure

/-- The answers that nothing is relied on for: whatever states, frames and listings the
repository answers with, the kernel makes of them what it makes of them. -/
def Free : RepositoryCall Digest → Prop
  | .createAdmission _ | .loadLiquidityState .. | .loadLatestBookFrame ..
  | .listPreparedCommands _ | .listTerminalTradesWithoutResult _ => True
  | _ => False

/-- What the repository does with a call. One that raised or was lost has taken effect as a
whole, or has not; one that was answered has, and is answered with what is committed. The
commands that are listed are commands of the contract. -/
structure Law (contract : FloatContract) (r : Repository Digest) (e : RepositoryEvent Digest)
    (r' : Repository Digest) : Prop where
  effect : r' = r ∨ r' = (Repository.answer id r e.call).2
  answered : ∀ answer, e.outcome = some (.ok answer) → ¬Free e.call →
    Repository.answer id r e.call = (.ok answer, r')
  listed : ∀ (sessionId : String) (commands : List SimulationCommand), e = ⟨.listPreparedCommands sessionId, some (.ok commands)⟩ →
    ∀ command ∈ commands, Sized contract command.trade

section Calls

variable (sha : Content → Digest) (ids : Ids) (contract : FloatContract)

/-- The program of a call, without its result. -/
def Operation.program : Operation → Sim Digest Unit
  | .startTrade admission createdAtMs => (fun _ => ()) <$> Simulation.startTrade ids admission createdAtMs
  | .submitEntry trade asOfMs => (fun _ => ()) <$> Simulation.submitEntry sha ids trade asOfMs contract
  | .processClosedBar trade bar asOfMs =>
    (fun _ => ()) <$> Simulation.processClosedBar sha ids trade bar asOfMs contract
  | .recoverPrepared sessionId asOfMs =>
    (fun _ => ()) <$> Simulation.recoverPrepared sha sessionId asOfMs contract

/-- The trade of a call is one of the contract. -/
def Operation.Sized : Operation → Prop
  | .submitEntry trade _ | .processClosedBar trade _ _ => Simulation.Sized contract trade
  | .startTrade .. | .recoverPrepared .. => True

/-- The events of one call, whole or cut. -/
def IsCall (own : RepositoryHistory Digest) : Prop :=
  ∃ op : Operation, op.Sized contract ∧ ∃ o, Runs (op.program sha ids contract) [] own o

/-- Callers that interleave in any way, from recorded frames alone, and the repository at two
moments of it. -/
structure CallerRun (later earlier : List (ℕ × RepositoryEvent Digest))
    (middle r : Repository Digest) : Prop where
  callers : Interleaved (IsCall sha ids contract) (later ++ earlier)
  before : ∃ frames, Follows (Law contract) { frames } (earlier.map Prod.snd) middle
  after : Follows (Law contract) middle (later.map Prod.snd) r

end Calls

section Duty

variable (contract : FloatContract) (own : RepositoryHistory Digest)

/-- The caller has loaded the journal of the trade. -/
def Read (trade : SimulationTrade) (journal : TradeJournal Digest) : Prop :=
  (⟨.loadTradeJournal trade.tradeId, some (.ok (some journal))⟩ : RepositoryEvent Digest) ∈ own ∧
    journal.trade = trade

/-- The caller was told that the command stands prepared. -/
def Stands (command : SimulationCommand) : Prop :=
  ∃ asked current, (⟨.prepareCommand asked, some (.ok current)⟩ : RepositoryEvent Digest) ∈ own ∧
    current.command = command

/-- The command is of a trade of the contract, or the repository has listed it. -/
def Listed (command : SimulationCommand) : Prop :=
  Sized contract command.trade ∨ ∃ (sessionId : String) (commands : List SimulationCommand), command ∈ commands ∧
    (⟨.listPreparedCommands sessionId, some (.ok commands)⟩ : RepositoryEvent Digest) ∈ own

variable {contract own}

/-- The event that closes an active trade whose session has ended. -/
structure Marks (trade : SimulationTrade) (journal : TradeJournal Digest) (event : TradeEvent Digest) :
    Prop where
  trade : event.tradeId = trade.tradeId
  number : event.eventSeq = journal.events.length + 1
  fromState : event.fromState = some .ACTIVE
  toState : event.toState = .UNRESOLVED
  quiet : event.eventType = .UNRESOLVED

/-- What the receipts of the events of a kind have filled. -/
def receiptedQuantity (kind : EventType → Bool) (events : List (TradeEvent Digest)) : ℚ :=
  ((events.filter (kind ·.eventType)).map fun event =>
    (event.receipt.map (·.filledQuantity)).getD 0).sum

/-- The result says the state of the journal, and what its receipts have filled. -/
structure Reported (contract : FloatContract) (journal : TradeJournal Digest)
    (result : SimulationResult) : Prop where
  trade : result.tradeId = journal.trade.tradeId
  state : result.finalState = journal.state
  quantities : if journal.state = .NO_FILL ∨ journal.state = .BLOCKED then
      result.entryFilledQuantity = 0 ∧ result.exitFilledQuantity = 0
    else
      result.entryFilledQuantity =
          contract.value (receiptedQuantity EventType.entryFill journal.events) ∧
        result.exitFilledQuantity =
          contract.value (receiptedQuantity EventType.exitFill journal.events)

/-- What a caller owes before it writes. -/
def TradeDuty (contract : FloatContract) (own : RepositoryHistory Digest) :
    RepositoryCall Digest → Prop
  | .appendTradeEvent event => (∃ trade, event = rootEvent trade) ∨
      ∃ trade journal, Read own trade journal ∧ journal.state = .ACTIVE ∧ Marks trade journal event
  | .prepareCommand command => Listed contract own command
  | .completeCommand command receipt _ event => ∃ journal, Read own command.trade journal ∧
      Stands own command ∧ (Sized contract command.trade → Backed contract receipt) ∧
      eventForReceipt command receipt journal = .ok event
  | .recordResult result => ∃ trade journal, Read own trade journal ∧
      journal.state.terminal = true ∧ Reported contract journal result
  | _ => True

end Duty

section Owed

variable {sha : Content → Digest} {ids : Ids} {contract : FloatContract}
  {own : RepositoryHistory Digest} {trade : SimulationTrade} {journal : TradeJournal Digest}

omit [DecidableEq Digest] in
theorem Read.later {own' : RepositoryHistory Digest} (read : Read own trade journal)
    (later : own <:+ own') : Read own' trade journal := ⟨later.mem read.1, read.2⟩

omit [DecidableEq Digest] in
theorem Listed.later {own' : RepositoryHistory Digest} {command : SimulationCommand}
    (listed : Listed contract own command) (later : own <:+ own') : Listed contract own' command := by
  rcases listed with sized | ⟨sessionId, commands, mem, told⟩
  · exact .inl sized
  · exact .inr ⟨sessionId, commands, mem, later.mem told⟩

omit [DecidableEq Digest] in
theorem journalOf_meets (trade : SimulationTrade) (own : RepositoryHistory Digest) :
    Meets (TradeDuty contract) (journalOf trade) own fun journal own' => Read own' trade journal := by
  refine .ask_bind trivial fun found => .lift fun journal same => ?_
  cases found with
  | none => cases same
  | some other =>
    unfold ownJournal at same
    dsimp only at same
    split at same
    · cases same
      exact ⟨List.mem_cons_self, ‹_›⟩
    · cases same

/-- The totals of a kind are those of its receipts. -/
theorem fillTotals_meets (kind : EventType → Bool) (events : List (TradeEvent Digest))
    (own : RepositoryHistory Digest) :
    Meets (TradeDuty contract) (fillTotals kind events) own fun totals _ =>
      totals.1 = receiptedQuantity kind events := by
  induction events generalizing own with
  | nil => exact .pure rfl
  | cons event events ih =>
    unfold fillTotals
    split
    · rename_i fills
      cases event.commandId with
      | none => exact .raise
      | some commandId =>
        refine .ask_bind trivial fun receipt => .lift_bind fun fill made => ?_
        refine (ih _).bind fun rest _ _ totals => .pure ?_
        have quantity : (event.receipt.map (·.filledQuantity)).getD 0 = fill.1 := by
          cases receipt with
          | none => cases made
          | some receipt =>
            unfold fillOf at made
            dsimp only at made
            split at made
            · cases made
            · rename_i same
              rw [not_not.1 same]
              split at made
              · cases made
              · cases made
                rfl
        show fill.1 + rest.1 = _
        simp [receiptedQuantity, fills, quantity, totals]
    · rename_i other
      refine (ih own).mono fun totals _ _ same => ?_
      rw [same]
      simp [receiptedQuantity, other]

theorem resultOf_meets (own : RepositoryHistory Digest) (mine : journal.trade = trade) :
    Meets (TradeDuty contract) (resultOf trade journal contract) own fun result _ =>
      Reported contract journal result := by
  have id : trade.tradeId = journal.trade.tradeId := by rw [mine]
  unfold resultOf
  split
  · exact .raise
  split
  · rename_i unfilled
    refine .pure ⟨id, rfl, ?_⟩
    rw [if_pos unfilled]
    exact ⟨rfl, rfl⟩
  · rename_i filled
    refine (fillTotals_meets _ _ _).bind fun entry _ _ entered => ?_
    refine (fillTotals_meets _ _ _).bind fun exit _ _ exited => .lift fun result made => ?_
    obtain ⟨_, -, made⟩ := bind_eq_ok.1 made
    obtain ⟨_, -, made⟩ := bind_eq_ok.1 made
    obtain ⟨_, -, made⟩ := bind_eq_ok.1 made
    cases made
    refine ⟨id, rfl, ?_⟩
    rw [if_neg filled, ← entered, ← exited]
    exact ⟨rfl, rfl⟩

theorem ensureTerminalResult_meets (trade : SimulationTrade) (own : RepositoryHistory Digest) :
    Meets (TradeDuty contract) (ensureTerminalResult trade contract) own fun _ _ => True := by
  refine (journalOf_meets trade own).bind fun journal own' _ read => ?_
  split
  · rename_i terminal
    refine (resultOf_meets own' read.2).bind fun result own' later reported => ?_
    exact .ask_bind ⟨trade, journal, read.later later, terminal, reported⟩ fun _ => .pure trivial
  · exact .pure trivial

theorem markUnresolved_meets (read : Read own trade journal) (active : journal.state = .ACTIVE)
    (occurredAtMs : ℕ) (reason : String) : Meets (TradeDuty contract)
      (markUnresolved trade journal occurredAtMs reason contract) own fun _ _ => True := by
  refine .ask_bind (.inr ⟨trade, journal, read, active, ⟨rfl, rfl, rfl, rfl, rfl⟩⟩) fun _ => ?_
  exact (ensureTerminalResult_meets trade _).bind fun _ _ _ _ => .pure trivial

omit [DecidableEq Digest] in
theorem startTrade_meets (admission : SimulationAdmission) (createdAtMs : ℕ)
    (own : RepositoryHistory Digest) :
    Meets (TradeDuty contract) (startTrade ids admission createdAtMs) own fun _ _ => True := by
  refine .lift_bind fun _ _ => .lift_bind fun _ _ => .ask_bind trivial fun _ => ?_
  refine .ask_bind trivial fun _ => .ask_bind (.inl ⟨_, rfl⟩) fun _ => ?_
  exact (journalOf_meets _ _).bind fun _ _ _ _ => .lift_bind fun _ _ => .pure trivial

/-- A command that is evaluated to a receipt has a backed one. -/
theorem evaluatePrepared_meets (command : SimulationCommand) (asOfMs : ℕ)
    (own : RepositoryHistory Digest) :
    Meets (TradeDuty contract) (evaluatePrepared sha command asOfMs contract) own fun evaluated _ =>
      ∀ receipt state, evaluated = some (receipt, state) → Sized contract command.trade →
        Backed contract receipt := by
  refine .lift_bind fun _ _ => .ask_bind trivial fun stored => .lift_bind fun state _ => .lift_bind fun _ _ => ?_
  split
  · exact .pure fun _ _ none => nomatch none
  refine .lift_bind fun _ absent => ?_
  have fresh : ∀ receipt ∈ state.receipts, receipt.commandId ≠ command.commandId := by
    simpa using absent
  split
  · refine .lift_bind fun step model => .lift_bind fun receipt made => .pure ?_
    intro _ _ same sized
    cases same
    obtain ⟨-, outcome, -⟩ := terminalWithoutBook_advanced (fromModel_ok.1 model)
    refine commandReceipt_backed sized made fun fills => ?_
    rw [outcome] at fills
    cases fills
  · refine .ask_bind trivial fun frame => .lift_bind fun evaluated made => .pure ?_
    intro receipt next same sized
    cases same
    exact evaluateOn_backed sized fresh made

theorem replayCompleted_meets (command : SimulationCommand) (own : RepositoryHistory Digest) :
    Meets (TradeDuty contract) (replayCompleted command contract) own fun _ _ => True := by
  refine .ask_bind trivial fun found => ?_
  cases found with
  | none => exact .raise
  | some receipt =>
    refine (ensureTerminalResult_meets command.trade _).bind fun _ _ _ _ => ?_
    exact (journalOf_meets command.trade _).bind fun _ _ _ _ => .pure trivial

theorem processPrepared_meets {command : SimulationCommand} (read : Read own command.trade journal)
    (stands : Stands own command) (asOfMs : ℕ) : Meets (TradeDuty contract)
      (processPrepared sha command journal asOfMs contract) own fun _ _ => True := by
  refine (evaluatePrepared_meets command asOfMs own).bind fun evaluated own' later backed => ?_
  cases evaluated with
  | none => exact .pure trivial
  | some pair =>
    obtain ⟨receipt, state⟩ := pair
    refine .lift_bind fun event built => ?_
    have prepared : Stands own' command := by
      obtain ⟨asked, current, told, same⟩ := stands
      exact ⟨asked, current, later.mem told, same⟩
    refine .ask_bind ⟨journal, read.later later, prepared, backed receipt state rfl, built⟩
      fun _ => ?_
    refine (ensureTerminalResult_meets command.trade _).bind fun _ _ _ _ => ?_
    exact (journalOf_meets command.trade _).bind fun _ _ _ _ => .pure trivial

theorem processCommand_meets {command : SimulationCommand} (listed : Listed contract own command)
    (asOfMs : ℕ) :
    Meets (TradeDuty contract) (processCommand sha command asOfMs contract) own fun _ _ => True := by
  refine .ask_bind listed fun current => ?_
  refine (journalOf_meets current.command.trade _).bind fun journal own' later read => ?_
  split
  · exact replayCompleted_meets _ _
  · exact processPrepared_meets read ⟨command, current, later.mem List.mem_cons_self, rfl⟩ asOfMs

theorem submitEntry_meets (sized : Sized contract trade) (asOfMs : ℕ)
    (own : RepositoryHistory Digest) :
    Meets (TradeDuty contract) (submitEntry sha ids trade asOfMs contract) own fun _ _ => True := by
  refine .lift_bind fun command built => processCommand_meets (.inl ?_) asOfMs
  rw [(buildCommand_ok built).1]
  exact sized

theorem processClosedBar_meets (sized : Sized contract trade) (bar : ClosedBar) (asOfMs : ℕ)
    (own : RepositoryHistory Digest) :
    Meets (TradeDuty contract) (processClosedBar sha ids trade bar asOfMs contract) own
      fun _ _ => True := by
  refine .lift_bind fun _ _ => ?_
  split
  · exact .pure trivial
  refine (journalOf_meets trade own).bind fun journal own' _ read => ?_
  split
  · exact .pure trivial
  rename_i active
  split
  · exact (markUnresolved_meets read (not_not.1 active) _ _).bind fun _ _ _ _ => .pure trivial
  refine .lift_bind fun exit called => ?_
  cases exit with
  | none => exact .pure trivial
  | some command =>
    have listed : Listed contract own' command := by
      rw [Listed, (barExit_ok called).1]
      exact .inl sized
    exact (processCommand_meets listed asOfMs).bind fun _ _ _ _ => .pure trivial

theorem resumeAll_meets (commands : List SimulationCommand) (asOfMs : ℕ)
    (own : RepositoryHistory Digest) (listed : ∀ command ∈ commands, Listed contract own command) :
    Meets (TradeDuty contract) (resumeAll sha asOfMs commands contract) own fun _ _ => True := by
  induction commands generalizing own with
  | nil => exact .pure trivial
  | cons command commands ih =>
    have first : Meets (TradeDuty contract) (processCommand sha command asOfMs contract) own _ :=
      processCommand_meets (listed command List.mem_cons_self) asOfMs
    refine first.bind fun _ own' later _ => ?_
    refine (ih own' fun other mem => ?_).bind fun _ _ _ _ => .pure trivial
    exact (listed other (List.mem_cons_of_mem _ mem)).later later

theorem reportAll_meets (trades : List SimulationTrade) (own : RepositoryHistory Digest) :
    Meets (TradeDuty contract) (reportAll trades contract) own fun _ _ => True := by
  induction trades generalizing own with
  | nil => exact .pure trivial
  | cons trade trades ih => exact (ensureTerminalResult_meets trade own).bind fun _ _ _ _ => ih _

theorem recoverPrepared_meets (sessionId : String) (asOfMs : ℕ) (own : RepositoryHistory Digest) :
    Meets (TradeDuty contract) (recoverPrepared sha sessionId asOfMs contract) own fun _ _ => True := by
  refine .ask_bind trivial fun commands => ?_
  refine (resumeAll_meets commands asOfMs _ fun command mem => ?_).bind fun _ _ _ _ => ?_
  · exact .inr ⟨sessionId, commands, mem, List.mem_cons_self⟩
  · refine .ask_bind trivial fun trades => ?_
    exact (reportAll_meets trades _).bind fun _ _ _ _ => .pure trivial

/-- Every call of the controller meets the duty. -/
theorem isCall_dutiful (call : IsCall sha ids contract own) : Dutiful (TradeDuty contract) own := by
  obtain ⟨op, sized, o, run⟩ := call
  have meets : Meets (TradeDuty contract) (op.program sha ids contract) [] fun _ _ => True := by
    cases op with
    | startTrade admission createdAtMs => exact (startTrade_meets admission createdAtMs []).map
    | submitEntry trade asOfMs => exact (submitEntry_meets sized asOfMs []).map
    | processClosedBar trade bar asOfMs => exact (processClosedBar_meets sized bar asOfMs []).map
    | recoverPrepared sessionId asOfMs => exact (recoverPrepared_meets sessionId asOfMs []).map
  exact (meets.sound run trivial).1

end Owed

end KairosExecution.Simulation
