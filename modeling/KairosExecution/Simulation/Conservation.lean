import KairosExecution.Simulation.Callers

/-! What a trade buys and sells. A journal moves by one event at a time: a trade enters once,
and leaves by one exit of at most what it entered with, to the state that says which. A
caller acts on the journal that it has read, but its event is numbered after it, so that
the repository takes it only where that journal still stands. Whoever interleaves with
whom, the journals and the results of all trades keep to this. -/

namespace KairosExecution.Simulation

open Python Interactive

section Positions

/-- The quantities that a trade in a state has entered and left with. -/
inductive Position : TradeState → List ℚ → List ℚ → Prop
  | pending : Position .PENDING [] []
  | unfilled : Position .NO_FILL [] []
  | blocked : Position .BLOCKED [] []
  | active {entered : ℚ} (some : 0 < entered) : Position .ACTIVE [entered] []
  | held {entered : ℚ} (some : 0 < entered) : Position .UNRESOLVED [entered] []
  | reduced {entered left : ℚ} (some : 0 < left) (less : left < entered) :
      Position .UNRESOLVED [entered] [left]
  | flat {entered : ℚ} (some : 0 < entered) : Position .FLAT [entered] [entered]

variable {state : TradeState} {entries exits : List ℚ}

/-- What has been left with is within what was entered with; all of it is left with just
where the trade is flat, and otherwise an entered trade ends unresolved. -/
theorem Position.within (position : Position state entries exits) :
    exits.sum ≤ entries.sum ∧
      (state = .FLAT ↔ 0 < entries.sum ∧ exits.sum = entries.sum) ∧
      (state = .UNRESOLVED ↔ 0 < entries.sum ∧ exits.sum ≠ entries.sum ∧ state.terminal = true) := by
  cases position with
  | pending => simp
  | unfilled => simp
  | blocked => simp
  | active some => simp [some, some.le, some.ne, TradeState.terminal]
  | held some => simp [some, some.le, some.ne, TradeState.terminal]
  | reduced some less => simp [some.trans less, less.le, less.ne, TradeState.terminal]
  | flat some => simp [some]

theorem Position.once (position : Position state entries exits) :
    entries.length ≤ 1 ∧ exits.length ≤ 1 ∧ ∀ left ∈ exits, 0 < left := by
  cases position with
  | pending => simp
  | unfilled => simp
  | blocked => simp
  | active => simp
  | held => simp
  | reduced some => simpa using some
  | flat some => simpa using some

theorem Position.none (position : Position state entries exits)
    (unfilled : state = .NO_FILL ∨ state = .BLOCKED) : entries = [] ∧ exits = [] := by
  cases position with
  | pending => exact ⟨rfl, rfl⟩
  | unfilled => exact ⟨rfl, rfl⟩
  | blocked => exact ⟨rfl, rfl⟩
  | active => simp at unfilled
  | held => simp at unfilled
  | reduced => simp at unfilled
  | flat => simp at unfilled

end Positions

variable {Digest : Type} [DecidableEq Digest] {contract : FloatContract}
  {journal current : TradeJournal Digest} {event : TradeEvent Digest}

/-- The quantities of the events of a kind. -/
def quantities (kind : EventType → Bool) (events : List (TradeEvent Digest)) : List ℚ :=
  (events.filter (kind ·.eventType)).map (·.filledQuantity)

omit [DecidableEq Digest] in
theorem quantities_moved (kind : EventType → Bool) : quantities kind (moved journal event).events =
    quantities kind journal.events ++ if kind event.eventType then [event.filledQuantity] else [] := by
  by_cases own : kind event.eventType
  · simp [quantities, moved, List.filter_append, own]
  · simp [quantities, moved, List.filter_append, own]

/-- The receipt of a fill is in its event, and of an amount of the contract. -/
def Filled (contract : FloatContract) (event : TradeEvent Digest) : Prop :=
  event.eventType.entryFill = true ∨ event.eventType.exitFill = true →
    event.receipt.map (·.filledQuantity) = some event.filledQuantity ∧
      contract.value event.filledQuantity = event.filledQuantity

/-- A journal that keeps to its state. -/
structure Keeping (contract : FloatContract) (journal : TradeJournal Digest) : Prop where
  rooted : journal.events = [] → journal.state = .PENDING
  position : Position journal.state (quantities EventType.entryFill journal.events)
    (quantities EventType.exitFill journal.events)
  filled : ∀ event ∈ journal.events, Filled contract event

/-- The events that a journal takes. -/
inductive Moves (contract : FloatContract) (journal : TradeJournal Digest) (event : TradeEvent Digest) :
    Prop
  | root (empty : journal.events = []) (trade : SimulationTrade) (own : event = rootEvent trade)
  | mark (active : journal.state = .ACTIVE) (marks : Marks journal.trade journal event)
  | completed (command : SimulationCommand) (receipt : SimulationReceipt Digest)
      (backed : Backed contract receipt) (built : eventForReceipt command receipt journal = .ok event)

omit [DecidableEq Digest] in
/-- What `_event_for_receipt` makes of the position of a trade. -/
theorem eventForReceipt_position {command : SimulationCommand} {receipt : SimulationReceipt Digest}
    (built : eventForReceipt command receipt journal = .ok event) (backed : Backed contract receipt)
    (position : Position journal.state (quantities EventType.entryFill journal.events)
      (quantities EventType.exitFill journal.events)) :
    journal.state.terminal = false ∧ Position event.toState
      (quantities EventType.entryFill (moved journal event).events)
      (quantities EventType.exitFill (moved journal event).events) := by
  rw [quantities_moved, quantities_moved]
  obtain ⟨transition, made, h⟩ := bind_eq_ok.1 built
  cases h
  have sums : (quantities EventType.entryFill journal.events).sum = entryFilledQuantity journal ∧
      (quantities EventType.exitFill journal.events).sum = exitFilledQuantity journal := ⟨rfl, rfl⟩
  by_cases kind : command.commandKind = .ENTRY_IOC
  · rw [transitionFor, if_pos kind] at made
    obtain ⟨_, pending, made⟩ := bind_eq_ok.1 made
    simp only [reject_eq_ok, decide_eq_false_iff_not, not_not] at pending
    cases made
    rw [pending] at position ⊢
    refine ⟨rfl, ?_⟩
    generalize quantities EventType.entryFill journal.events = entries at position
    generalize quantities EventType.exitFill journal.events = exits at position
    cases position
    unfold entryTransition
    cases status : receipt.status with
    | FILLED => exact .active (backed.positive (by rw [status]; rfl))
    | PARTIAL => exact .active (backed.positive (by rw [status]; rfl))
    | NO_FILL => exact .unfilled
    | BLOCKED =>
      dsimp only
      split
      · exact .blocked
      · exact .blocked
    | WAIT =>
      dsimp only
      split
      · exact .blocked
      · exact .blocked
  · rw [transitionFor, if_neg kind] at made
    obtain ⟨_, active, made⟩ := bind_eq_ok.1 made
    simp only [reject_eq_ok, decide_eq_false_iff_not, not_not] at active
    rw [active] at position ⊢
    refine ⟨rfl, ?_⟩
    unfold exitTransition at made
    rw [← sums.1, ← sums.2] at made
    generalize quantities EventType.entryFill journal.events = entries at position made
    generalize quantities EventType.exitFill journal.events = exits at position made
    cases position with
    | active some =>
      split at made
      · dsimp only at made
        split at made
        · cases made
        rename_i within
        cases made
        simp only [List.sum_nil, zero_add, List.sum_singleton, not_or, not_le, not_lt] at within
        simp only [List.sum_nil, zero_add, List.sum_singleton, triggered_exit.1, triggered_exit.2]
        split
        · rename_i all
          rw [← all]
          exact .flat within.1
        · rename_i partly
          exact .reduced within.1 (lt_of_le_of_ne within.2 partly)
      · cases made
        exact .held some

omit [DecidableEq Digest] in
/-- A journal that moves was open, and keeps to the state it moves to. -/
theorem Moves.keeping (moves : Moves contract journal event) (keeping : Keeping contract journal) :
    journal.state.terminal = false ∧ Keeping contract (moved journal event) := by
  have rooted : (moved journal event).events = [] → (moved journal event).state = .PENDING := by
    simp [moved]
  have filled : Filled contract event → ∀ e ∈ (moved journal event).events, Filled contract e := by
    intro own e mem
    rcases List.mem_append.1 mem with old | new
    · exact keeping.filled e old
    · cases List.mem_singleton.1 new
      exact own
  cases moves with
  | root empty trade own =>
    subst own
    have pending := keeping.rooted empty
    refine ⟨by rw [pending]; rfl, rooted, ?_, filled fun fill => by rcases fill with entry | exit; cases entry; cases exit⟩
    rw [quantities_moved, quantities_moved, empty]
    exact .pending
  | mark active marks =>
    have position := keeping.position
    rw [active] at position
    refine ⟨by rw [active]; rfl, rooted, ?_, filled fun fill => ?_⟩
    · rw [quantities_moved, quantities_moved, marks.quiet]
      show Position event.toState _ _
      rw [marks.toState]
      generalize quantities EventType.entryFill journal.events = entries at position
      generalize quantities EventType.exitFill journal.events = exits at position
      cases position with
      | active some => exact .held some
    · rw [marks.quiet] at fill
      simp [EventType.entryFill, EventType.exitFill] at fill
  | completed command receipt backed built =>
    obtain ⟨isOpen, position⟩ := eventForReceipt_position built backed keeping.position
    refine ⟨isOpen, rooted, position, filled fun _ => ?_⟩
    obtain ⟨transition, -, same⟩ := bind_eq_ok.1 built
    cases same
    exact ⟨rfl, backed.rounded⟩

section Growth

/-- The journal as it was read, and as it stands: each event makes it longer, and none
comes once it is terminal. -/
structure Grown (journal current : TradeJournal Digest) : Prop where
  trade : current.trade = journal.trade
  length : journal.events.length ≤ current.events.length
  same : journal.events.length = current.events.length → current = journal
  terminal : journal.state.terminal = true → current = journal

omit [DecidableEq Digest] in
theorem Grown.refl (journal : TradeJournal Digest) : Grown journal journal :=
  ⟨rfl, le_refl _, fun _ => rfl, fun _ => rfl⟩

omit [DecidableEq Digest] in
theorem Grown.trans {last : TradeJournal Digest} (first : Grown journal current)
    (second : Grown current last) : Grown journal last := by
  have le := first.length
  have le' := second.length
  refine ⟨second.trade.trans first.trade, le.trans le', fun same => ?_, fun terminal => ?_⟩
  · have early : current = journal := first.same (le_antisymm le (same ▸ le'))
    have late : last = current := second.same (by rw [early, same])
    exact late.trans early
  · have early : current = journal := first.terminal terminal
    have late : last = current := second.terminal (by rw [early, terminal])
    exact late.trans early

/-- What happens to the journals of a repository in one event. -/
inductive JournalStep (contract : FloatContract) (r r' : Repository Digest) : Prop
  | same (journals : r'.journals = r.journals)
  | created (trade : SimulationTrade) (absent : r.journals.get trade.tradeId = none)
      (journals : r'.journals = r.journals.set trade.tradeId { trade, state := .PENDING, events := [] })
  | moved (id : String) (journal : TradeJournal Digest) (event : TradeEvent Digest)
      (found : r.journals.get id = some journal) (moves : Moves contract journal event)
      (journals : r'.journals = r.journals.set id (moved journal event))

/-- Every journal of the repository keeps to its state. -/
def Kept (contract : FloatContract) (r : Repository Digest) : Prop :=
  ∀ id journal, r.journals.get id = some journal → Keeping contract journal

/-- Every journal of the first repository has grown to one of the second. -/
def Grows (r r' : Repository Digest) : Prop :=
  ∀ id journal, r.journals.get id = some journal →
    ∃ current, r'.journals.get id = some current ∧ Grown journal current

variable {r r' : Repository Digest}

omit [DecidableEq Digest] in
theorem Grows.refl (r : Repository Digest) : Grows r r :=
  fun _ journal found => ⟨journal, found, .refl journal⟩

omit [DecidableEq Digest] in
theorem Grows.trans {r'' : Repository Digest} (first : Grows r r') (second : Grows r' r'') :
    Grows r r'' := by
  intro id journal found
  obtain ⟨current, found', grown⟩ := first id journal found
  obtain ⟨last, found'', grown'⟩ := second id current found'
  exact ⟨last, found'', grown.trans grown'⟩

omit [DecidableEq Digest] in
theorem JournalStep.kept (step : JournalStep contract r r') (kept : Kept contract r) :
    Kept contract r' := by
  intro id journal found
  cases step with
  | same journals =>
    rw [journals] at found
    exact kept id journal found
  | created trade absent journals =>
    rw [journals, Dict.get_set] at found
    split at found
    · cases found
      exact ⟨fun _ => rfl, .pending, fun _ mem => absurd mem List.not_mem_nil⟩
    · exact kept id journal found
  | moved id' old event found' moves journals =>
    rw [journals, Dict.get_set] at found
    split at found
    · cases found
      exact (moves.keeping (kept _ _ found')).2
    · exact kept id journal found

omit [DecidableEq Digest] in
theorem JournalStep.grows (step : JournalStep contract r r') (kept : Kept contract r) : Grows r r' := by
  intro id journal found
  cases step with
  | same journals => exact ⟨journal, journals ▸ found, .refl journal⟩
  | created trade absent journals =>
    refine ⟨journal, ?_, .refl journal⟩
    rw [journals, Dict.get_set, if_neg]
    · exact found
    · rintro rfl
      rw [absent] at found
      cases found
  | moved id' old event found' moves journals =>
    by_cases here : id = id'
    · subst here
      rw [found'] at found
      cases found
      refine ⟨Simulation.moved journal event, by rw [journals, Dict.get_set, if_pos rfl], rfl, ?_, ?_, ?_⟩
      · simp [Simulation.moved]
      · simp [Simulation.moved]
      · intro terminal
        rw [(moves.keeping (kept _ _ found')).1] at terminal
        cases terminal
    · exact ⟨journal, by rw [journals, Dict.get_set, if_neg here, found], .refl journal⟩

/-- An event that was made of a journal read before is taken only where that journal stands. -/
theorem append_step {trade : SimulationTrade}
    (read : ∃ current, r.journals.get trade.tradeId = some current ∧ Grown journal current)
    (own : event.tradeId = trade.tradeId) (number : event.eventSeq = journal.events.length + 1)
    (moves : Moves contract journal event) : JournalStep contract r (r.appendTradeEvent event).2 := by
  rcases appendTradeEvent_snd r event with same | ⟨current, found, continues, new⟩
  · exact .same (by rw [same])
  · obtain ⟨other, found', grown⟩ := read
    rw [own, found'] at found
    cases found
    simp only [Repository.continues, Bool.and_eq_true, decide_eq_true_eq] at continues
    have stands : current = journal := grown.same (by omega)
    subst stands
    exact .moved trade.tradeId current event found' moves (by rw [new, own]; rfl)

end Growth

section Session

/-- The result says of its trade what the journal says. -/
structure Reports (journal : TradeJournal Digest) (result : SimulationResult) : Prop where
  trade : result.tradeId = journal.trade.tradeId
  state : result.finalState = journal.state
  entered : result.entryFilledQuantity = entryFilledQuantity journal
  left : result.exitFilledQuantity = exitFilledQuantity journal

omit [DecidableEq Digest] in
/-- The receipts of a journal that keeps to its state say what its events do, and no text
rounds it. -/
theorem Keeping.receipted (keeping : Keeping contract journal) (kind : EventType → Bool)
    (fills : ∀ type, kind type = true → type.entryFill = true ∨ type.exitFill = true)
    (once : (quantities kind journal.events).length ≤ 1) :
    contract.value (receiptedQuantity kind journal.events) = (quantities kind journal.events).sum := by
  have same : receiptedQuantity kind journal.events = (quantities kind journal.events).sum := by
    refine congrArg List.sum (List.map_congr_left fun event mem => ?_)
    obtain ⟨mem, own⟩ := List.mem_filter.1 mem
    rw [(keeping.filled event mem (fills _ own)).1]
    rfl
  rw [same]
  have rounded : ∀ amount ∈ quantities kind journal.events, contract.value amount = amount := by
    intro amount mem
    obtain ⟨event, listed, rfl⟩ := List.mem_map.1 mem
    obtain ⟨here, own⟩ := List.mem_filter.1 listed
    exact (keeping.filled event here (fills _ own)).2
  generalize quantities kind journal.events = amounts at once rounded
  match amounts with
  | [] => exact contract.zero
  | [amount] => simpa using rounded amount List.mem_cons_self
  | _ :: _ :: _ =>
    simp only [List.length_cons] at once
    omega

omit [DecidableEq Digest] in
theorem Keeping.reports (keeping : Keeping contract journal) {result : SimulationResult}
    (reported : Reported contract journal result) : Reports journal result := by
  have position := keeping.position
  obtain ⟨entries, exits, -⟩ := position.once
  have entered := keeping.receipted EventType.entryFill (fun _ => .inl) entries
  have left := keeping.receipted EventType.exitFill (fun _ => .inr) exits
  have said := reported.quantities
  split at said
  · rename_i unfilled
    have none := position.none unfilled
    refine ⟨reported.trade, reported.state, said.1.trans ?_, said.2.trans ?_⟩
    · exact (congrArg List.sum none.1).symm
    · exact (congrArg List.sum none.2).symm
  · exact ⟨reported.trade, reported.state, said.1.trans entered, said.2.trans left⟩

/-- What an answer has told is still so. -/
structure Told (contract : FloatContract) (r : Repository Digest) (e : RepositoryEvent Digest) :
    Prop where
  loaded : ∀ (tradeId : String) (journal : TradeJournal Digest),
    e = ⟨.loadTradeJournal tradeId, some (.ok (some journal))⟩ →
      ∃ current, r.journals.get tradeId = some current ∧ Grown journal current
  prepared : ∀ (asked : SimulationCommand) (current : PreparedCommand),
    e = ⟨.prepareCommand asked, some (.ok current)⟩ → Sized contract current.command.trade
  listed : ∀ (sessionId : String) (commands : List SimulationCommand),
    e = ⟨.listPreparedCommands sessionId, some (.ok commands)⟩ →
      ∀ command ∈ commands, Sized contract command.trade
  recorded : ∀ (result : SimulationResult) (created : Bool),
    e = ⟨.recordResult result, some (.ok created)⟩ → r.results.get result.tradeId = some result

/-- What holds of the repository after the events of its callers. -/
structure Consistent (contract : FloatContract) (h : List (ℕ × RepositoryEvent Digest))
    (r : Repository Digest) : Prop where
  kept : Kept contract r
  results : ∀ id result, r.results.get id = some result → ∃ journal,
    r.journals.get id = some journal ∧ journal.state.terminal = true ∧ Reports journal result
  told : ∀ n e, (n, e) ∈ h → Told contract r e

variable {h : List (ℕ × RepositoryEvent Digest)} {r r' : Repository Digest} {n : ℕ}
  {e : RepositoryEvent Digest} {trade : SimulationTrade}

omit [DecidableEq Digest] in
theorem Consistent.read (consistent : Consistent contract h r) (read : Read (ownEvents n h) trade journal) :
    ∃ current, r.journals.get trade.tradeId = some current ∧ Grown journal current :=
  (consistent.told n _ (mem_ownEvents.1 read.1)).loaded _ _ rfl

omit [DecidableEq Digest] in
theorem Consistent.sized (consistent : Consistent contract h r) {command : SimulationCommand}
    (stands : Stands (ownEvents n h) command) : Sized contract command.trade := by
  obtain ⟨asked, current, told, rfl⟩ := stands
  exact (consistent.told n _ (mem_ownEvents.1 told)).prepared _ _ rfl

omit [DecidableEq Digest] in
theorem JournalStep.congr {r'' : Repository Digest} (step : JournalStep contract r r')
    (same : r''.journals = r'.journals) : JournalStep contract r r'' := by
  cases step with
  | same journals => exact .same (same.trans journals)
  | created trade absent journals => exact .created trade absent (same.trans journals)
  | moved id journal event found moves journals =>
    exact .moved id journal event found moves (same.trans journals)

/-- Whatever a caller that meets its duty does moves the journals by one event at most. -/
theorem Consistent.journal_step (consistent : Consistent contract h r)
    (duty : TradeDuty contract (ownEvents n h) e.call) (law : Law contract r e r') :
    JournalStep contract r r' := by
  rcases law.effect with same | effect
  · exact .same (by rw [same])
  rw [effect]
  obtain ⟨call, outcome⟩ := e
  cases call with
  | createTrade trade =>
    rcases createTrade_snd r trade with same | ⟨absent, new⟩
    · exact .same (congrArg Repository.journals same)
    · exact .created trade absent (congrArg Repository.journals new)
  | appendTradeEvent event =>
    rcases duty with ⟨trade, root⟩ | ⟨trade, journal, read, active, marks⟩
    · rcases appendTradeEvent_snd r event with same | ⟨current, found, continues, new⟩
      · exact .same (congrArg Repository.journals same)
      · simp only [Repository.continues, Bool.and_eq_true, decide_eq_true_eq] at continues
        have empty : current.events = [] := by
          apply List.eq_nil_of_length_eq_zero
          have first : event.eventSeq = 1 := by rw [root]; rfl
          omega
        exact .moved _ current event found (.root empty trade root)
          (congrArg Repository.journals new)
    · refine append_step (consistent.read read) marks.trade marks.number (.mark active ?_)
      rw [read.2]
      exact marks
  | completeCommand command receipt state event =>
    obtain ⟨journal, read, stands, backed, built⟩ := duty
    have moves : Moves contract journal event :=
      .completed command receipt (backed (consistent.sized stands)) built
    obtain ⟨transition, -, same⟩ := bind_eq_ok.1 built
    have step : JournalStep contract r (r.appendTradeEvent event).2 := by
      cases same
      exact append_step (consistent.read read) rfl rfl moves
    rcases completeCommand_snd r command receipt state event with same | ⟨-, new⟩
    · exact .same (congrArg Repository.journals same)
    · exact step.congr ((congrArg Repository.journals new).trans rfl)
  | prepareCommand command =>
    rcases prepareCommand_snd r command with same | ⟨-, new⟩
    · exact .same (congrArg Repository.journals same)
    · exact .same ((congrArg Repository.journals new).trans rfl)
  | recordResult result =>
    rcases recordResult_snd r result with same | ⟨-, new⟩
    · exact .same (congrArg Repository.journals same)
    · exact .same ((congrArg Repository.journals new).trans rfl)
  | createAdmission => exact .same rfl
  | loadCommandReceipt => exact .same rfl
  | loadLiquidityState => exact .same rfl
  | loadLatestBookFrame => exact .same rfl
  | loadTradeJournal => exact .same rfl
  | listPreparedCommands => exact .same rfl
  | listTerminalTradesWithoutResult => exact .same rfl

/-- What happens to the results of a repository in one event. -/
inductive ResultStep (r r' : Repository Digest) : Prop
  | same (results : r'.results = r.results)
  | recorded (result : SimulationResult) (journal : TradeJournal Digest)
      (absent : r.results.get result.tradeId = none)
      (results : r'.results = r.results.set result.tradeId result)
      (found : r.journals.get result.tradeId = some journal)
      (terminal : journal.state.terminal = true) (reports : Reports journal result)

/-- A result is recorded of a journal that stands as it was read. -/
theorem Consistent.result_step (consistent : Consistent contract h r)
    (duty : TradeDuty contract (ownEvents n h) e.call) (law : Law contract r e r') :
    ResultStep r r' := by
  rcases law.effect with same | effect
  · exact .same (by rw [same])
  rw [effect]
  obtain ⟨call, outcome⟩ := e
  cases call with
  | recordResult result =>
    obtain ⟨trade, journal, read, terminal, reported⟩ := duty
    rcases recordResult_snd r result with same | ⟨absent, new⟩
    · exact .same (congrArg Repository.results same)
    · obtain ⟨current, found, grown⟩ := consistent.read read
      have stands := grown.terminal terminal
      subst stands
      have own : r.journals.get result.tradeId = some current := by
        rw [reported.trade, read.2]
        exact found
      exact .recorded result current absent (congrArg Repository.results new) own terminal
        ((consistent.kept _ _ own).reports reported)
  | createTrade trade =>
    rcases createTrade_snd r trade with same | ⟨-, new⟩
    · exact .same (congrArg Repository.results same)
    · exact .same ((congrArg Repository.results new).trans rfl)
  | appendTradeEvent event =>
    rcases appendTradeEvent_snd r event with same | ⟨journal, -, -, new⟩
    · exact .same (congrArg Repository.results same)
    · exact .same ((congrArg Repository.results new).trans rfl)
  | completeCommand command receipt state event =>
    have appended : (r.appendTradeEvent event).2.results = r.results := by
      rcases appendTradeEvent_snd r event with same | ⟨journal, -, -, new⟩
      · rw [same]
      · rw [new]
    rcases completeCommand_snd r command receipt state event with same | ⟨-, new⟩
    · exact .same (congrArg Repository.results same)
    · exact .same ((congrArg Repository.results new).trans appended)
  | prepareCommand command =>
    rcases prepareCommand_snd r command with same | ⟨-, new⟩
    · exact .same (congrArg Repository.results same)
    · exact .same ((congrArg Repository.results new).trans rfl)
  | createAdmission => exact .same rfl
  | loadCommandReceipt => exact .same rfl
  | loadLiquidityState => exact .same rfl
  | loadLatestBookFrame => exact .same rfl
  | loadTradeJournal => exact .same rfl
  | listPreparedCommands => exact .same rfl
  | listTerminalTradesWithoutResult => exact .same rfl

omit [DecidableEq Digest] in
/-- A recorded result stays. -/
theorem ResultStep.stays (step : ResultStep r r') {id : String} {result : SimulationResult}
    (found : r.results.get id = some result) : r'.results.get id = some result := by
  cases step with
  | same results => rw [results, found]
  | recorded other journal absent results =>
    rw [results, Dict.get_set, if_neg]
    · exact found
    · rintro rfl
      rw [absent] at found
      cases found

omit [DecidableEq Digest] in
theorem recordResult_ok {result : SimulationResult} {created : Bool}
    (answered : r.recordResult result = (.ok created, r')) :
    r'.results.get result.tradeId = some result := by
  unfold Repository.recordResult at answered
  split at answered
  · rename_i existing found
    split at answered
    · rename_i same
      cases answered
      rw [found, same]
    · cases answered
  · cases answered
    simp [Dict.get_set]

/-- What an event has told holds after it. -/
theorem Consistent.told_now (consistent : Consistent contract h r)
    (duty : TradeDuty contract (ownEvents n h) e.call) (law : Law contract r e r') :
    Told contract r' e where
  loaded tradeId journal eq := by
    subst eq
    have answered := law.answered _ rfl (by simp [Free])
    obtain ⟨found, rfl⟩ := Prod.mk.inj answered
    exact ⟨journal, Except.ok.inj found, .refl journal⟩
  prepared asked current eq := by
    subst eq
    have answered := law.answered _ rfl (by simp [Free])
    have stored := congrArg Prod.fst answered
    rw [(prepareCommand_ok stored).1]
    rcases duty with sized | ⟨sessionId, commands, mem, listed⟩
    · exact sized
    · exact (consistent.told n _ (mem_ownEvents.1 listed)).listed _ _ rfl _ mem
  listed sessionId commands eq := law.listed sessionId commands eq
  recorded result created eq := by
    subst eq
    exact recordResult_ok (law.answered _ rfl (by simp [Free]))

/-- Every event of a caller that meets its duty keeps the repository consistent. -/
theorem Consistent.step (consistent : Consistent contract h r)
    (duty : TradeDuty contract (ownEvents n h) e.call) (law : Law contract r e r') :
    Consistent contract ((n, e) :: h) r' := by
  have journals := consistent.journal_step duty law
  have results := consistent.result_step duty law
  have grows := journals.grows consistent.kept
  -- a terminal journal does not grow, so that what its result says of it stays
  have reported : ∀ id journal result, r.journals.get id = some journal →
      journal.state.terminal = true → Reports journal result → ∃ journal,
        r'.journals.get id = some journal ∧ journal.state.terminal = true ∧
          Reports journal result := by
    intro id journal result found terminal reports
    obtain ⟨current, found', grown⟩ := grows id journal found
    have same := grown.terminal terminal
    subst same
    exact ⟨current, found', terminal, reports⟩
  refine ⟨journals.kept consistent.kept, fun id result found => ?_, fun m x mem => ?_⟩
  · cases results with
    | same same =>
      rw [same] at found
      obtain ⟨journal, own, terminal, reports⟩ := consistent.results id result found
      exact reported id journal result own terminal reports
    | recorded new journal absent same own terminal reports =>
      rw [same, Dict.get_set] at found
      split at found
      · rename_i here
        cases found
        rw [here]
        exact reported _ journal _ own terminal reports
      · obtain ⟨journal, own, terminal, reports⟩ := consistent.results id result found
        exact reported id journal result own terminal reports
  · rcases List.mem_cons.1 mem with new | old
    · cases new
      exact consistent.told_now duty law
    · have told := consistent.told m x old
      refine ⟨fun tradeId journal eq => ?_, told.prepared, told.listed, fun result created eq =>
        results.stays (told.recorded result created eq)⟩
      obtain ⟨current, found, grown⟩ := told.loaded tradeId journal eq
      obtain ⟨last, found', grown'⟩ := grows _ current found
      exact ⟨last, found', grown.trans grown'⟩

end Session

section Runs

variable {sha : Content → Digest} {ids : Ids} {later earlier : List (ℕ × RepositoryEvent Digest)}
  {middle r : Repository Digest}

/-- The repository is consistent at every moment, and its journals only grow. -/
theorem CallerRun.consistent (run : CallerRun sha ids contract later earlier middle r) :
    Consistent contract (later ++ earlier) r ∧ Grows middle r := by
  obtain ⟨frames, before⟩ := run.before
  have each : ∀ l n e k, later ++ earlier = l ++ (n, e) :: k →
      TradeDuty contract (ownEvents n k) e.call :=
    fun l n e k => run.callers.duty fun _ => isCall_dutiful
  have start : Consistent contract [] ({ frames } : Repository Digest) :=
    ⟨fun _ _ found => (nomatch found), fun _ _ found => (nomatch found), fun _ _ mem => (nomatch mem)⟩
  have first : Consistent contract (earlier ++ []) middle := by
    refine before.owed (fun l n e k eq => ?_) start fun h n e s s' consistent duty law =>
      consistent.step duty law
    rw [List.append_nil]
    exact each (later ++ l) n e k (by rw [eq, List.append_assoc])
  rw [List.append_nil] at first
  have others : ∀ l n e k, later = l ++ (n, e) :: k →
      TradeDuty contract (ownEvents n (k ++ earlier)) e.call :=
    fun l n e k eq => each l n e (k ++ earlier) (by rw [eq, List.append_assoc, List.cons_append])
  have kept : ∀ (h : List (ℕ × RepositoryEvent Digest)) n e (s s' : Repository Digest),
      Consistent contract h s ∧ Grows middle s → TradeDuty contract (ownEvents n h) e.call →
        Law contract s e s' → Consistent contract ((n, e) :: h) s' ∧ Grows middle s' := by
    rintro h n e s s' ⟨consistent, grows⟩ duty law
    exact ⟨consistent.step duty law,
      grows.trans ((consistent.journal_step duty law).grows consistent.kept)⟩
  exact run.after.owed others ⟨first, Grows.refl middle⟩ kept

/-- A journal says what its trade bought and sold. -/
structure Conserved (journal : TradeJournal Digest) : Prop where
  entered : (journal.events.filter (·.eventType.entryFill)).length ≤ 1
  left : (journal.events.filter (·.eventType.exitFill)).length ≤ 1
  positive : ∀ event ∈ journal.events, event.eventType.exitFill → 0 < event.filledQuantity
  within : exitFilledQuantity journal ≤ entryFilledQuantity journal
  flat : journal.state = .FLAT ↔ 0 < entryFilledQuantity journal ∧
    exitFilledQuantity journal = entryFilledQuantity journal
  unresolved : journal.state = .UNRESOLVED ↔ 0 < entryFilledQuantity journal ∧
    exitFilledQuantity journal ≠ entryFilledQuantity journal ∧ journal.state.terminal = true

omit [DecidableEq Digest] in
theorem Keeping.conserved (keeping : Keeping contract journal) : Conserved journal := by
  obtain ⟨entries, exits, positive⟩ := keeping.position.once
  obtain ⟨within, flat, unresolved⟩ := keeping.position.within
  refine ⟨?_, ?_, fun event mem exit => ?_, within, flat, unresolved⟩
  · simpa [quantities] using entries
  · simpa [quantities] using exits
  · exact positive _ (List.mem_map_of_mem (List.mem_filter.2 ⟨mem, exit⟩))

/-- Whoever interleaves with whom, however often a call is repeated or cut: every journal says
that its trade entered once at most and left at most once, with no more than it entered with;
a terminal journal stays as it is; and a trade has one result, which says what its journal
says. -/
theorem trades_conserved (run : CallerRun sha ids contract later earlier middle r) :
    (∀ id journal, r.journals.get id = some journal → Conserved journal) ∧
      (∀ id journal, middle.journals.get id = some journal → journal.state.terminal = true →
        r.journals.get id = some journal) ∧
      (∀ id result, r.results.get id = some result → ∃ journal,
        r.journals.get id = some journal ∧ journal.state.terminal = true ∧
          Reports journal result) ∧
      ∀ n (result : SimulationResult) (created : Bool),
        (n, (⟨.recordResult result, some (.ok created)⟩ : RepositoryEvent Digest)) ∈
          later ++ earlier → r.results.get result.tradeId = some result := by
  obtain ⟨consistent, grows⟩ := run.consistent
  refine ⟨fun id journal found => (consistent.kept id journal found).conserved, ?_, consistent.results, ?_⟩
  · intro id journal found terminal
    obtain ⟨current, found', grown⟩ := grows id journal found
    rw [found', grown.terminal terminal]
  · intro n result created mem
    exact (consistent.told n _ mem).recorded result created rfl

/-- A caller starts a trade, a second enters it, a third repeats that, and all others process a
bar that crosses the stop. -/
def sampleCalls : ℕ → Operation
  | 0 => .startTrade sampleTrade.admission 10
  | 1 | 2 => .submitEntry sampleTrade 15
  | _ => .processClosedBar sampleTrade (stopBar 19) 30

/-- Five of the callers, one after the other. -/
def sampleCallers : Repository Content × List (ℕ × RepositoryEvent Content) :=
  inTurn (Repository.answer id) (fun n => (sampleCalls n).program id sampleIds .exact) 5
    { frames := [sampleFrame 1 .ADMITTED] }

theorem sampleCallers_run : CallerRun id sampleIds .exact sampleCallers.2 []
    { frames := [sampleFrame 1 .ADMITTED] } sampleCallers.1 where
  callers n := by
    rw [List.append_nil]
    refine ⟨sampleCalls n, ?_, _, inTurn_runs _ (fun n => (sampleCalls n).program id sampleIds .exact)
      5 n _⟩
    match n with
    | 0 => trivial
    | 1 => rfl
    | 2 => rfl
    | _ + 3 => rfl
  before := ⟨_, .start⟩
  after := by
    refine Follows.inTurn id (fun r c => ⟨.inr rfl, fun answer same _ => ?_, fun _ _ _ _ _ => rfl⟩) 5 _
    exact Prod.ext (Option.some.inj same) rfl

theorem trades_conserved_sample :
    (∀ journal, sampleCallers.1.journals.get "trade" = some journal → Conserved journal) ∧
      (sampleCallers.1.journals.get "trade").map (·.state) = some .FLAT ∧
      (sampleCallers.1.results.get "trade").map (·.exitFilledQuantity) = some (1 / 2) :=
  ⟨(trades_conserved sampleCallers_run).1 _, by decide +kernel, by decide +kernel⟩

end Runs

end KairosExecution.Simulation
