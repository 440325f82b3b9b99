import KairosExecution.Simulation.LookBehind

/-! The ledger of one session. The fills of a trade and its state fit together and stand on
recorded receipts; a command is of a journal that stands where the command can start, or
has its receipt; a liquidity state is coherent and of the session, and its receipts are
of completed commands; a result is of a terminal trade. Every call of the controller
keeps this, so that it also holds after a crash. -/

namespace KairosExecution.Simulation

open Python Interactive

variable {Digest : Type}

/-- The event has its receipt on record, and the receipt its price. -/
def Recorded (receipts : Dict String (SimulationReceipt Digest)) (event : TradeEvent Digest) : Prop :=
  ∃ id receipt, event.commandId = some id ∧ receipts.get id = some receipt ∧
    event.receipt = some receipt ∧ receipt.filledQuantity = event.filledQuantity ∧
    0 < event.filledQuantity ∧ receipt.averagePrice ≠ none

/-- The entry fills and the exit fills that a trade in a state has. -/
inductive Fills (receipts : Dict String (SimulationReceipt Digest)) :
    TradeState → List (TradeEvent Digest) → List (TradeEvent Digest) → Prop
  | pending : Fills receipts .PENDING [] []
  | unfilled : Fills receipts .NO_FILL [] []
  | blocked : Fills receipts .BLOCKED [] []
  | active (entry : TradeEvent Digest) (recorded : Recorded receipts entry) :
      Fills receipts .ACTIVE [entry] []
  | held (entry : TradeEvent Digest) (recorded : Recorded receipts entry) :
      Fills receipts .UNRESOLVED [entry] []
  | reduced (entry exit : TradeEvent Digest) (recorded : Recorded receipts entry)
      (recorded' : Recorded receipts exit) (less : exit.filledQuantity < entry.filledQuantity) :
      Fills receipts .UNRESOLVED [entry] [exit]
  | flat (entry exit : TradeEvent Digest) (recorded : Recorded receipts entry)
      (recorded' : Recorded receipts exit) (all : exit.filledQuantity = entry.filledQuantity) :
      Fills receipts .FLAT [entry] [exit]

/-- A journal of the session that has its root, and the fills of its state. -/
structure JournalSound (session : SimulationSession)
    (receipts : Dict String (SimulationReceipt Digest)) (id : String) (journal : TradeJournal Digest) :
    Prop where
  key : journal.trade.tradeId = id
  session : journal.trade.admission.session = session
  rooted : journal.events ≠ []
  numbered : ∀ event ∈ journal.events, event.eventSeq ≤ journal.events.length
  fills : Fills receipts journal.state (journal.events.filter (·.eventType.entryFill))
    (journal.events.filter (·.eventType.exitFill))

/-- A prepared command fits the journal of its trade. -/
structure CommandSound (ids : Ids) (r : Repository Digest) (id : String) (current : PreparedCommand) :
    Prop where
  key : current.command.commandId = id
  completed : current.completed = (r.receipts.get id).isSome
  entry : current.command.commandKind = .ENTRY_IOC →
    entryCommand ids current.command.trade = .ok current.command
  journal : ∃ journal, HasJournal r current.command.trade journal ∧
    (current.command.commandKind = .ENTRY_IOC → current.completed = false →
      journal.state = .PENDING) ∧
    (current.command.commandKind ≠ .ENTRY_IOC → journal.state ≠ .PENDING ∧
      current.command.quantity = entryFilledQuantity journal)

variable [DecidableEq Digest]

/-- A liquidity state of the session, as of no later than `now`. -/
structure LiquiditySound (sha : Content → Digest) (session : SimulationSession) (now : ℕ)
    (r : Repository Digest) (key : String × String) (state : LiquidityState Digest) : Prop where
  key : key.1 = session.sessionId ∧ state.sessionId = key.1 ∧ state.tapeId = session.tapeId ∧
    state.symbol = key.2
  coherent : state.coherent = .ok ()
  clock : state.lastAsOfMs ≤ now
  assumed : state.assumptionsSha256 = some (sha (.assumptions session.assumptions))
  receipts : ∀ receipt ∈ state.receipts, (r.receipts.get receipt.commandId).isSome

/-- The ledger of a session, by its clock. -/
structure Sound (sha : Content → Digest) (ids : Ids) (session : SimulationSession) (now : ℕ)
    (r : Repository Digest) : Prop where
  journals : r.journals.Unique
  journal : ∀ id journal, r.journals.get id = some journal →
    JournalSound session r.receipts id journal
  prepared : r.prepared.Unique
  command : ∀ id current, r.prepared.get id = some current → CommandSound ids r id current
  receipt : ∀ id, (r.receipts.get id).isSome → (r.prepared.get id).isSome
  entered : ∀ id journal, r.journals.get id = some journal → journal.state ≠ .PENDING →
    ∀ command, entryCommand ids journal.trade = .ok command →
      (r.prepared.get command.commandId).isSome
  liquidity : ∀ key state, r.liquidity.get key = some state → LiquiditySound sha session now r key state
  results : ∀ id, (r.results.get id).isSome →
    ∃ journal, r.journals.get id = some journal ∧ journal.state.terminal = true

variable {sha : Content → Digest} {ids : Ids} {session : SimulationSession} {now : ℕ}
  {order : List SimulationCommand → List SimulationCommand} {r : Repository Digest}

theorem sound_start (frames : List AcceptedBookFrame) :
    Sound sha ids session 0 ({ frames } : Repository Digest) where
  journals := List.nodup_nil
  journal _ _ found := nomatch found
  prepared := List.nodup_nil
  command _ _ found := nomatch found
  receipt _ found := nomatch found
  entered _ _ found := nomatch found
  liquidity _ _ found := nomatch found
  results _ found := nomatch found

/-- The clock of a session only goes on. -/
theorem Sound.later (sound : Sound sha ids session now r) {asOfMs : ℕ} (le : now ≤ asOfMs) :
    Sound sha ids session asOfMs r :=
  ⟨sound.journals, sound.journal, sound.prepared, sound.command, sound.receipt, sound.entered,
    fun key state found =>
      have own := sound.liquidity key state found
      ⟨own.key, own.coherent, own.clock.trans le, own.assumed, own.receipts⟩,
    sound.results⟩

section Fills

omit [DecidableEq Digest]

variable {receipts receipts' : Dict String (SimulationReceipt Digest)}

theorem Recorded.mono {event : TradeEvent Digest} (recorded : Recorded receipts event)
    (le : ∀ id receipt, receipts.get id = some receipt → receipts'.get id = some receipt) :
    Recorded receipts' event := by
  obtain ⟨id, receipt, command, found, rest⟩ := recorded
  exact ⟨id, receipt, command, le id receipt found, rest⟩

theorem Fills.mono {state : TradeState} {entries exits : List (TradeEvent Digest)}
    (fills : Fills receipts state entries exits)
    (le : ∀ id receipt, receipts.get id = some receipt → receipts'.get id = some receipt) :
    Fills receipts' state entries exits := by
  cases fills with
  | pending => exact .pending
  | unfilled => exact .unfilled
  | blocked => exact .blocked
  | active entry recorded => exact .active entry (recorded.mono le)
  | held entry recorded => exact .held entry (recorded.mono le)
  | reduced entry exit recorded recorded' less =>
    exact .reduced entry exit (recorded.mono le) (recorded'.mono le) less
  | flat entry exit recorded recorded' all =>
    exact .flat entry exit (recorded.mono le) (recorded'.mono le) all

theorem JournalSound.mono {id : String} {journal : TradeJournal Digest}
    (sound : JournalSound session receipts id journal)
    (le : ∀ id receipt, receipts.get id = some receipt → receipts'.get id = some receipt) :
    JournalSound session receipts' id journal :=
  ⟨sound.key, sound.session, sound.rooted, sound.numbered, sound.fills.mono le⟩

end Fills

section Journals

variable {trade : SimulationTrade} {journal : TradeJournal Digest}

omit [DecidableEq Digest] in
/-- A trade has one journal. -/
theorem HasJournal.unique {other : TradeJournal Digest} (own : HasJournal r trade journal)
    (own' : HasJournal r trade other) : other = journal := by
  have eq := own.1.symm.trans own'.1
  exact (Option.some.inj eq).symm

theorem Sound.journalOf (sound : Sound sha ids session now r) (own : HasJournal r trade journal) :
    JournalSound session r.receipts trade.tradeId journal := sound.journal _ _ own.1

theorem Sound.sessionOf (sound : Sound sha ids session now r) (own : HasJournal r trade journal) :
    trade.admission.session = session := by
  rw [← own.2]
  exact (sound.journalOf own).session

end Journals

section Moves

variable {trade : SimulationTrade} {journal : TradeJournal Digest} {event : TradeEvent Digest}
  {r' : Repository Digest}

/-- The journal with one more event. -/
def moved (journal : TradeJournal Digest) (event : TradeEvent Digest) : TradeJournal Digest :=
  { journal with state := event.toState, events := journal.events ++ [event] }

/-- An event that is numbered next and starts where its trade is. -/
structure Next (trade : SimulationTrade) (journal : TradeJournal Digest) (event : TradeEvent Digest) :
    Prop where
  trade : event.tradeId = trade.tradeId
  number : event.eventSeq = journal.events.length + 1
  fromState : event.fromState = some journal.state

/-- The repository takes the next event of a journal. -/
theorem Sound.append_next (sound : Sound sha ids session now r) (own : HasJournal r trade journal)
    (next : Next trade journal event) : r.appendTradeEvent event =
      (.ok true, { r with journals := r.journals.set trade.tradeId (moved journal event) }) := by
  have held := sound.journalOf own
  have absent : event ∉ journal.events := by
    intro mem
    have le := held.numbered event mem
    have number := next.number
    omega
  have continues : Repository.continues journal event = true := by
    simp [Repository.continues, next.number, next.fromState, held.rooted]
  unfold Repository.appendTradeEvent
  rw [next.trade, own.1]
  dsimp only
  rw [if_neg absent, if_pos continues]
  rfl

omit [DecidableEq Digest] in
/-- What a command keeps where the journal of some trade moves. -/
theorem CommandSound.moved {id : String} {current : PreparedCommand}
    (sound : CommandSound ids r id current) (own : HasJournal r trade journal)
    (journals : r'.journals = r.journals.set trade.tradeId (moved journal event))
    (receipt : (r'.receipts.get id).isSome = (r.receipts.get id).isSome)
    (entry : current.command.trade = trade → current.command.commandKind = .ENTRY_IOC →
      current.completed = true)
    (exit : current.command.trade = trade → current.command.commandKind ≠ .ENTRY_IOC →
      event.toState ≠ .PENDING ∧ event.eventType.entryFill = false) :
    CommandSound ids r' id current := by
  refine ⟨sound.key, sound.completed.trans receipt.symm, sound.entry, ?_⟩
  obtain ⟨journal', own', starts, closes⟩ := sound.journal
  by_cases same : current.command.trade.tradeId = trade.tradeId
  · have one : journal' = journal := by
      have eq := own'.1
      rw [same, own.1] at eq
      exact (Option.some.inj eq).symm
    have trades : current.command.trade = trade := by rw [← own'.2, ← own.2, one]
    subst one
    refine ⟨Simulation.moved journal' event, ⟨?_, own'.2⟩, ?_, ?_⟩
    · rw [journals, same, Dict.get_set, if_pos rfl]
    · intro kind open'
      rw [entry trades kind] at open'
      cases open'
    · intro kind
      obtain ⟨after, quiet⟩ := exit trades kind
      refine ⟨after, ?_⟩
      rw [(closes kind).2]
      simp [entryFilledQuantity, Simulation.moved, List.filter_append, quiet]
  · refine ⟨journal', ⟨?_, own'.2⟩, starts, closes⟩
    rw [journals, Dict.get_set, if_neg same]
    exact own'.1

/-- A move of one journal, on receipts that stay, keeps the ledger of journals. -/
theorem Sound.journal_moved (sound : Sound sha ids session now r) (own : HasJournal r trade journal)
    (next : Next trade journal event)
    (journals : r'.journals = r.journals.set trade.tradeId (moved journal event))
    (receipts : ∀ id receipt, r.receipts.get id = some receipt → r'.receipts.get id = some receipt)
    (fills : Fills r'.receipts event.toState ((moved journal event).events.filter (·.eventType.entryFill))
      ((moved journal event).events.filter (·.eventType.exitFill))) :
    ∀ id journal, r'.journals.get id = some journal → JournalSound session r'.receipts id journal := by
  intro id journal' found
  rw [journals, Dict.get_set] at found
  split at found
  · rename_i here
    cases found
    have held := sound.journalOf own
    refine ⟨?_, held.session, by simp [moved], ?_, fills⟩
    · rw [here]
      exact held.key
    · intro e mem
      show e.eventSeq ≤ (journal.events ++ [event]).length
      rw [List.length_append, List.length_singleton]
      rcases List.mem_append.1 mem with old | new
      · have le := held.numbered e old
        omega
      · cases List.mem_singleton.1 new
        exact next.number.le
  · exact (sound.journal id journal' found).mono receipts

/-- Results are of terminal trades, also after a trade that was not terminal has moved. -/
theorem Sound.results_moved (sound : Sound sha ids session now r) (own : HasJournal r trade journal)
    (open' : journal.state.terminal = false)
    (journals : r'.journals = r.journals.set trade.tradeId (moved journal event)) (id : String)
    (recorded : (r.results.get id).isSome) :
    ∃ journal, r'.journals.get id = some journal ∧ journal.state.terminal = true := by
  obtain ⟨journal', found, terminal⟩ := sound.results id recorded
  refine ⟨journal', ?_, terminal⟩
  rw [journals, Dict.get_set, if_neg]
  · exact found
  · intro here
    rw [here, own.1] at found
    cases found
    rw [open'] at terminal
    cases terminal

end Moves

section Completion

variable {command : SimulationCommand} {journal : TradeJournal Digest} {event : TradeEvent Digest}
  {receipt : SimulationReceipt Digest} {receipts receipts' : Dict String (SimulationReceipt Digest)}

/-- Where a command starts, and where its event leaves the trade. -/
structure Transition (command : SimulationCommand) (journal : TradeJournal Digest)
    (event : TradeEvent Digest) : Prop where
  next : Next command.trade journal event
  entry : command.commandKind = .ENTRY_IOC → journal.state = .PENDING
  exit : command.commandKind ≠ .ENTRY_IOC → journal.state = .ACTIVE ∧
    event.eventType.entryFill = false ∧ event.toState.terminal = true
  after : event.toState ≠ .PENDING

omit [DecidableEq Digest] in
theorem triggered_exit {kind : CommandKind} :
    kind.triggered.entryFill = false ∧ kind.triggered.exitFill = true := by
  cases kind <;> exact ⟨rfl, rfl⟩

omit [DecidableEq Digest] in
/-- What `_event_for_receipt` comes to: the fills of the trade with the new event. -/
theorem eventForReceipt_transition (built : eventForReceipt command receipt journal = .ok event)
    (facts : ReceiptFacts command receipt)
    (fills : Fills receipts journal.state (journal.events.filter (·.eventType.entryFill))
      (journal.events.filter (·.eventType.exitFill)))
    (stay : ∀ id receipt, receipts.get id = some receipt → receipts'.get id = some receipt)
    (stored : receipts'.get command.commandId = some receipt) :
    Transition command journal event ∧ Fills receipts' event.toState
      ((moved journal event).events.filter (·.eventType.entryFill))
      ((moved journal event).events.filter (·.eventType.exitFill)) := by
  obtain ⟨transition, made, h⟩ := bind_eq_ok.1 built
  cases h
  have recorded : receipt.status.fills = true → ∀ event : TradeEvent Digest,
      event.commandId = some command.commandId → event.receipt = some receipt →
      event.filledQuantity = receipt.filledQuantity → Recorded receipts' event := by
    intro filled event id own quantity
    have some := facts.fills.1 filled
    refine ⟨command.commandId, receipt, id, stored, own, quantity.symm, quantity ▸ some, fun none => ?_⟩
    exact some.ne' (facts.average.1 none)
  by_cases kind : command.commandKind = .ENTRY_IOC
  · rw [transitionFor, if_pos kind] at made
    obtain ⟨_, pending, made⟩ := bind_eq_ok.1 made
    simp only [reject_eq_ok, decide_eq_false_iff_not, not_not] at pending
    rw [pending] at fills
    cases made
    generalize entered : journal.events.filter (·.eventType.entryFill) = entries at fills
    generalize exited : journal.events.filter (·.eventType.exitFill) = exits at fills
    cases fills
    simp only [moved, List.filter_append, entered, exited, List.nil_append]
    unfold entryTransition
    cases status : receipt.status with
    | FILLED =>
      refine ⟨⟨⟨rfl, rfl, by rw [pending]⟩, fun _ => pending, fun exit => absurd kind exit, nofun⟩, ?_⟩
      exact .active _ (recorded (by rw [status]; rfl) _ rfl rfl rfl)
    | PARTIAL =>
      refine ⟨⟨⟨rfl, rfl, by rw [pending]⟩, fun _ => pending, fun exit => absurd kind exit, nofun⟩, ?_⟩
      exact .active _ (recorded (by rw [status]; rfl) _ rfl rfl rfl)
    | NO_FILL =>
      exact ⟨⟨⟨rfl, rfl, by rw [pending]⟩, fun _ => pending, fun exit => absurd kind exit, nofun⟩,
        .unfilled⟩
    | BLOCKED =>
      by_cases noBook : "NO_ADMITTED_BOOK" ∈ receipt.reasonCodes
      · simp only [if_pos noBook]
        exact ⟨⟨⟨rfl, rfl, by rw [pending]⟩, fun _ => pending, fun exit => absurd kind exit, nofun⟩,
          .blocked⟩
      · simp only [if_neg noBook]
        exact ⟨⟨⟨rfl, rfl, by rw [pending]⟩, fun _ => pending, fun exit => absurd kind exit, nofun⟩,
          .blocked⟩
    | WAIT =>
      by_cases noBook : "NO_ADMITTED_BOOK" ∈ receipt.reasonCodes
      · simp only [if_pos noBook]
        exact ⟨⟨⟨rfl, rfl, by rw [pending]⟩, fun _ => pending, fun exit => absurd kind exit, nofun⟩,
          .blocked⟩
      · simp only [if_neg noBook]
        exact ⟨⟨⟨rfl, rfl, by rw [pending]⟩, fun _ => pending, fun exit => absurd kind exit, nofun⟩,
          .blocked⟩
  · rw [transitionFor, if_neg kind] at made
    obtain ⟨_, active, made⟩ := bind_eq_ok.1 made
    simp only [reject_eq_ok, decide_eq_false_iff_not, not_not] at active
    rw [active] at fills
    generalize entered : journal.events.filter (·.eventType.entryFill) = entries at fills
    generalize exited : journal.events.filter (·.eventType.exitFill) = exits at fills
    cases fills with
    | active entry entry' =>
      have opened := entry'.mono stay
      have quantity : entryFilledQuantity journal = entry.filledQuantity := by
        simp [entryFilledQuantity, entered]
      have closed : exitFilledQuantity journal = 0 := by simp [exitFilledQuantity, exited]
      unfold exitTransition at made
      simp only [moved, List.filter_append, entered, exited, List.nil_append]
      by_cases filled : receipt.status.fills = true
      · rw [if_pos filled] at made
        dsimp only at made
        rw [closed, zero_add, quantity] at made
        split at made
        · cases made
        rename_i within
        rw [not_or, not_le, not_lt] at within
        cases made
        have mine := recorded filled
        simp only [List.filter_cons, List.filter_nil, triggered_exit.1, triggered_exit.2]
        split
        · rename_i all
          refine ⟨⟨⟨rfl, rfl, by rw [active]⟩, fun entry => absurd entry kind, fun _ =>
            ⟨active, triggered_exit.1, rfl⟩, nofun⟩, ?_⟩
          exact .flat entry _ opened (mine _ rfl rfl rfl) all
        · rename_i partly
          refine ⟨⟨⟨rfl, rfl, by rw [active]⟩, fun entry => absurd entry kind, fun _ =>
            ⟨active, triggered_exit.1, rfl⟩, nofun⟩, ?_⟩
          exact .reduced entry _ opened (mine _ rfl rfl rfl) (lt_of_le_of_ne within.2 partly)
      · rw [if_neg filled] at made
        cases made
        exact ⟨⟨⟨rfl, rfl, by rw [active]⟩, fun entry => absurd entry kind, fun _ =>
          ⟨active, rfl, rfl⟩, nofun⟩, .held entry opened⟩

/-- The repository after a command has been completed. -/
def completed (r : Repository Digest) (command : SimulationCommand) (journal : TradeJournal Digest)
    (receipt : SimulationReceipt Digest) (state : LiquidityState Digest) (event : TradeEvent Digest) :
    Repository Digest :=
  { r with
    journals := r.journals.set command.trade.tradeId (moved journal event)
    prepared := r.prepared.set command.commandId { command, completed := true }
    receipts := r.receipts.set command.commandId receipt
    liquidity := r.liquidity.set (command.trade.admission.session.sessionId,
      command.trade.admission.symbol) state }

variable (receipt) in
/-- The repository completes a prepared command. -/
theorem Sound.complete_eq (sound : Sound sha ids session now r)
    (stored : r.prepared.get command.commandId = some ⟨command, false⟩)
    (own : HasJournal r command.trade journal) (next : Next command.trade journal event)
    (state : LiquidityState Digest) : r.completeCommand command receipt state event =
      (.ok (receipt, true), completed r command journal receipt state event) := by
  have absent : r.receipts.get command.commandId = none := by
    have flag := (sound.command _ _ stored).completed
    rw [Option.eq_none_iff_forall_ne_some]
    intro other found
    rw [found] at flag
    cases flag
  unfold Repository.completeCommand
  rw [absent, stored, sound.append_next own next]
  rfl

/-- What a command is evaluated on is of its session, and not ahead of the clock. -/
theorem Sound.loaded (sound : Sound sha ids session now r) {state : LiquidityState Digest}
    (own : command.trade.admission.session = session)
    (loaded : liquidityOf command (r.liquidity.get (command.trade.admission.session.sessionId,
      command.trade.admission.symbol)) = .ok state) :
    (state.sessionId = session.sessionId ∧ state.tapeId = session.tapeId ∧
      state.symbol = command.trade.admission.symbol) ∧ state.lastAsOfMs ≤ now ∧
      ∀ receipt ∈ state.receipts, (r.receipts.get receipt.commandId).isSome := by
  cases found : r.liquidity.get (command.trade.admission.session.sessionId,
      command.trade.admission.symbol) with
  | none =>
    rw [found] at loaded
    obtain ⟨_, -, loaded⟩ := bind_eq_ok.1 loaded
    cases loaded
    rw [← own]
    exact ⟨⟨rfl, rfl, rfl⟩, Nat.zero_le _, fun _ mem => nomatch mem⟩
  | some stored =>
    rw [found] at loaded
    have held := sound.liquidity _ _ found
    have valid : stored.validate = .ok stored := validate_eq_ok.2 ⟨held.coherent, rfl⟩
    unfold liquidityOf at loaded
    simp only [valid] at loaded
    obtain ⟨_, _, same⟩ := bind_eq_ok.1 loaded
    cases same
    obtain ⟨id, sessionId, tape, symbol⟩ := held.key
    exact ⟨⟨sessionId.trans id, tape, symbol⟩, held.clock, held.receipts⟩

theorem get_isSome_set {ν : Type} (d : Dict String ν) (key other : String) (value : ν)
    (h : (d.get other).isSome) : ((d.set key value).get other).isSome := by
  rw [Dict.get_set]
  split
  · rfl
  · exact h

section Complete

variable {next : LiquidityState Digest} (sound : Sound sha ids session now r)
  (stored : r.prepared.get command.commandId = some ⟨command, false⟩)
  (own : HasJournal r command.trade journal)

include sound stored

/-- A command that is not completed has no receipt, so its own leaves the others. -/
theorem Sound.receipts_kept (id : String) (kept : SimulationReceipt Digest)
    (found : r.receipts.get id = some kept) :
    (r.receipts.set command.commandId receipt).get id = some kept := by
  rw [Dict.get_set, if_neg]
  · exact found
  · rintro rfl
    have absent : (r.receipts.get command.commandId).isSome = false :=
      (sound.command _ _ stored).completed.symm
    rw [found] at absent
    cases absent

include own

/-- The command that is completed fits its journal, which has moved. -/
theorem Sound.completed_own (transition : Transition command journal event) :
    CommandSound ids (completed r command journal receipt next event) command.commandId
      ⟨command, true⟩ := by
  have old := sound.command _ _ stored
  refine ⟨rfl, ?_, old.entry, moved journal event, ⟨?_, own.2⟩,
    fun _ pending => (by cases pending), fun exit => ?_⟩
  · show true = ((r.receipts.set command.commandId receipt).get command.commandId).isSome
    rw [Dict.get_set, if_pos rfl]
    rfl
  · show (r.journals.set command.trade.tradeId (moved journal event)).get command.trade.tradeId = _
    rw [Dict.get_set, if_pos rfl]
  · obtain ⟨journal', own', -, closes⟩ := old.journal
    obtain ⟨-, quiet, -⟩ := transition.exit exit
    refine ⟨transition.after, ?_⟩
    rw [(closes exit).2, own.unique own']
    simp [entryFilledQuantity, moved, List.filter_append, quiet]

/-- The one entry command of a pending trade is the one that is completed. -/
theorem Sound.entry_unique (transition : Transition command journal event) {id : String}
    {current : PreparedCommand} (found : r.prepared.get id = some current)
    (trade : current.command.trade = command.trade) (kind : current.command.commandKind = .ENTRY_IOC)
    (pending : current.completed = false) : current.command = command := by
  have old := sound.command id current found
  obtain ⟨journal', own', starts, -⟩ := old.journal
  have state := starts kind pending
  rw [trade] at own'
  rw [own.unique own'] at state
  by_cases entry : command.commandKind = .ENTRY_IOC
  · have its := old.entry kind
    rw [trade] at its
    exact Except.ok.inj (its.symm.trans ((sound.command _ _ stored).entry entry))
  · rw [(transition.exit entry).1] at state
    cases state

/-- The other commands fit the journals still. -/
theorem Sound.completed_other (transition : Transition command journal event) {id : String}
    {current : PreparedCommand} (found : r.prepared.get id = some current)
    (other : id ≠ command.commandId) :
    CommandSound ids (completed r command journal receipt next event) id current := by
  have old := sound.command id current found
  refine old.moved own rfl ?_ ?_ ?_
  · show ((r.receipts.set command.commandId receipt).get id).isSome = _
    rw [Dict.get_set, if_neg other]
  · intro trade kind
    by_contra pending
    rw [Bool.not_eq_true] at pending
    have same := sound.entry_unique stored own transition found trade kind pending
    rw [← old.key, same] at other
    exact other rfl
  · intro trade kind
    by_cases entry : command.commandKind = .ENTRY_IOC
    · obtain ⟨journal', own', -, closes⟩ := old.journal
      rw [trade] at own'
      have apart := (closes kind).1
      rw [own.unique own', transition.entry entry] at apart
      exact absurd rfl apart
    · exact ⟨transition.after, (transition.exit entry).2.1⟩

/-- A trade that has left its pending state has its entry command prepared. -/
theorem Sound.completed_entered (transition : Transition command journal event) {id : String}
    {journal' : TradeJournal Digest} {entry : SimulationCommand}
    (found : (completed r command journal receipt next event).journals.get id = some journal')
    (apart : journal'.state ≠ .PENDING) (built : entryCommand ids journal'.trade = .ok entry) :
    ((completed r command journal receipt next event).prepared.get entry.commandId).isSome := by
  refine get_isSome_set _ _ _ _ ?_
  change (r.journals.set command.trade.tradeId (moved journal event)).get id = some journal' at found
  rw [Dict.get_set] at found
  split at found
  · cases found
    change entryCommand ids journal.trade = .ok entry at built
    by_cases kind : command.commandKind = .ENTRY_IOC
    · have mine := (sound.command _ _ stored).entry kind
      rw [own.2] at built
      have same := Except.ok.inj (mine.symm.trans built)
      change command = entry at same
      rw [← same, stored]
      rfl
    · refine sound.entered _ journal own.1 ?_ entry built
      rw [(transition.exit kind).1]
      exact fun same => by cases same
  · exact sound.entered id journal' found apart entry built

omit stored

/-- The liquidity state of the command's symbol advances to the command; the others stay. -/
theorem Sound.completed_liquidity {asOfMs : ℕ} (clock : asOfMs ≤ now) {before : LiquidityState Digest}
    (result : EvaluatedTo sha r command asOfMs receipt before next) {key : String × String}
    {state : LiquidityState Digest}
    (found : (completed r command journal receipt next event).liquidity.get key = some state) :
    LiquiditySound sha session now (completed r command journal receipt next event) key state := by
  have session' := sound.sessionOf own
  change (r.liquidity.set (command.trade.admission.session.sessionId,
    command.trade.admission.symbol) next).get key = some state at found
  rw [Dict.get_set] at found
  split at found
  · rename_i same
    cases found
    have advanced := result.advanced
    obtain ⟨lineage, -, receipts⟩ := sound.loaded session' result.loaded
    refine ⟨?_, advanced.coherent, advanced.asOf.trans_le clock, ?_, ?_⟩
    · rw [same, session', advanced.session.1, advanced.session.2.1, advanced.session.2.2]
      exact ⟨rfl, lineage.1, lineage.2.1, lineage.2.2⟩
    · rw [advanced.assumed, session']
    · intro made mem
      show ((r.receipts.set command.commandId receipt).get made.commandId).isSome
      have id : made.commandId ∈ next.receipts.map (·.commandId) := List.mem_map_of_mem mem
      rw [advanced.receipts] at id
      rcases List.mem_append.1 id with old | new
      · obtain ⟨receipt', mem', same'⟩ := List.mem_map.1 old
        rw [← same']
        exact get_isSome_set _ _ _ _ (receipts receipt' mem')
      · rw [List.mem_singleton.1 new, Dict.get_set, if_pos rfl]
        rfl
  · have old := sound.liquidity key state found
    exact ⟨old.key, old.coherent, old.clock, old.assumed, fun receipt' mem =>
      get_isSome_set _ _ _ _ (old.receipts receipt' mem)⟩

end Complete

omit [DecidableEq Digest] in
/-- Each receipt is of a prepared command, also of the one that is completed. -/
theorem completed_receipt {next : LiquidityState Digest}
    (prepared : ∀ id, (r.receipts.get id).isSome → (r.prepared.get id).isSome) {id : String}
    (some : ((completed r command journal receipt next event).receipts.get id).isSome) :
    ((completed r command journal receipt next event).prepared.get id).isSome := by
  change ((r.receipts.set command.commandId receipt).get id).isSome at some
  rw [Dict.get_set] at some
  show ((r.prepared.set command.commandId ⟨command, true⟩).get id).isSome
  rw [Dict.get_set]
  split at some
  · rw [if_pos ‹_›]
    rfl
  · rw [if_neg ‹_›]
    exact prepared id some

/-- Completing a command keeps the ledger. -/
theorem Sound.complete (sound : Sound sha ids session now r) {asOfMs : ℕ} (clock : asOfMs ≤ now)
    (stored : r.prepared.get command.commandId = some ⟨command, false⟩)
    (own : HasJournal r command.trade journal) {next : LiquidityState Digest}
    (evaluated : evaluationOf sha r command asOfMs = .ok (some (receipt, next)))
    (built : eventForReceipt command receipt journal = .ok event) :
    Transition command journal event ∧
      Sound sha ids session now (completed r command journal receipt next event) := by
  obtain ⟨before, result⟩ := evaluationOf_some evaluated
  have held := sound.journalOf own
  have stay : ∀ id kept, r.receipts.get id = some kept →
      (r.receipts.set command.commandId receipt).get id = some kept := sound.receipts_kept stored
  have here : (r.receipts.set command.commandId receipt).get command.commandId = some receipt := by
    rw [Dict.get_set, if_pos rfl]
  obtain ⟨transition, fills⟩ := eventForReceipt_transition built result.facts held.fills stay here
  have open' : journal.state.terminal = false := by
    by_cases kind : command.commandKind = .ENTRY_IOC
    · rw [transition.entry kind]
      rfl
    · rw [(transition.exit kind).1]
      rfl
  refine ⟨transition, {
    journals := sound.journals.set _ _
    journal := sound.journal_moved own transition.next rfl stay fills
    prepared := sound.prepared.set _ _
    command := fun id current found => ?_
    receipt := fun _ some => completed_receipt sound.receipt some
    entered := fun _ _ found apart _ => sound.completed_entered stored own transition found apart
    liquidity := fun _ _ found => sound.completed_liquidity own clock result found
    results := sound.results_moved own open' rfl }⟩
  change (r.prepared.set command.commandId ⟨command, true⟩).get id = some current at found
  rw [Dict.get_set] at found
  split at found
  · rename_i same
    cases found
    rw [same]
    exact sound.completed_own stored own transition
  · rename_i other
    exact sound.completed_other stored own transition found other

end Completion

section Others

variable {trade : SimulationTrade} {journal : TradeJournal Digest} {command : SimulationCommand}

/-- A result is of its trade. -/
theorem resultOf_tradeId {result : SimulationResult} {r' : Repository Digest}
    (h : (resultOf trade journal).run (Repository.answer order) r = (.ok result, r')) :
    result.tradeId = trade.tradeId := by
  unfold resultOf at h
  split at h
  · cases h
  split at h
  · cases h
    rfl
  · obtain ⟨entry, _, _, h⟩ := Program.run_bind_ok.1 h
    obtain ⟨exit, _, _, h⟩ := Program.run_bind_ok.1 h
    have made := (Prod.mk.inj h).1
    obtain ⟨_, _, made⟩ := bind_eq_ok.1 made
    obtain ⟨_, _, made⟩ := bind_eq_ok.1 made
    obtain ⟨_, _, made⟩ := bind_eq_ok.1 made
    cases made
    rfl

/-- Recording the result of a terminal trade keeps the ledger. -/
theorem Sound.record (sound : Sound sha ids session now r) (own : HasJournal r trade journal)
    (terminal : journal.state.terminal = true) {result : SimulationResult}
    (same : result.tradeId = trade.tradeId) : Sound sha ids session now (r.recordResult result).2 := by
  rcases recordResult_snd r result with unchanged | ⟨-, new⟩
  · rw [unchanged]
    exact sound
  · rw [new]
    have command : ∀ id current, r.prepared.get id = some current →
        CommandSound ids { r with results := r.results.set result.tradeId result } id current :=
      fun id current found =>
        have old := sound.command id current found
        ⟨old.key, old.completed, old.entry, old.journal⟩
    have liquidity : ∀ key state, r.liquidity.get key = some state → LiquiditySound sha session now
        { r with results := r.results.set result.tradeId result } key state := fun key state found =>
      have old := sound.liquidity key state found
      ⟨old.key, old.coherent, old.clock, old.assumed, old.receipts⟩
    refine ⟨sound.journals, sound.journal, sound.prepared, command, sound.receipt, sound.entered,
      liquidity, fun id found => ?_⟩
    change ((r.results.set result.tradeId result).get id).isSome at found
    rw [Dict.get_set] at found
    split at found
    · rename_i here
      exact ⟨journal, by rw [here, same]; exact own.1, terminal⟩
    · exact sound.results id found

/-- Preparing a command that fits its journal keeps the ledger. -/
theorem Sound.prepare (sound : Sound sha ids session now r)
    (entry : command.commandKind = .ENTRY_IOC → entryCommand ids command.trade = .ok command)
    (own : HasJournal r command.trade journal)
    (starts : command.commandKind = .ENTRY_IOC → r.prepared.get command.commandId = none →
      journal.state = .PENDING)
    (closes : command.commandKind ≠ .ENTRY_IOC → journal.state ≠ .PENDING ∧
      command.quantity = entryFilledQuantity journal) :
    Sound sha ids session now (r.prepareCommand command).2 := by
  rcases prepareCommand_snd r command with unchanged | ⟨absent, new⟩
  · rw [unchanged]
    exact sound
  · rw [new]
    have unreceived : (r.receipts.get command.commandId).isSome = false := by
      by_contra some
      rw [Bool.not_eq_false] at some
      have prepared := sound.receipt _ some
      rw [absent] at prepared
      cases prepared
    refine ⟨sound.journals, sound.journal, sound.prepared.set _ _, fun id current found => ?_,
      fun id some => get_isSome_set _ _ _ _ (sound.receipt id some),
      fun id journal' found apart entry' built =>
        get_isSome_set _ _ _ _ (sound.entered id journal' found apart entry' built),
      fun key state found => ?_, sound.results⟩
    · change (r.prepared.set command.commandId ⟨command, false⟩).get id = some current at found
      rw [Dict.get_set] at found
      split at found
      · rename_i here
        cases found
        refine ⟨here.symm, ?_, entry, journal, own, fun kind _ => starts kind absent, closes⟩
        rw [here]
        exact unreceived.symm
      · have old := sound.command id current found
        exact ⟨old.key, old.completed, old.entry, old.journal⟩
    · have old := sound.liquidity key state found
      exact ⟨old.key, old.coherent, old.clock, old.assumed, old.receipts⟩

/-- An active trade may be closed as unresolved. -/
theorem Sound.mark (sound : Sound sha ids session now r) (own : HasJournal r trade journal)
    (active : journal.state = .ACTIVE) {event : TradeEvent Digest} (next : Next trade journal event)
    (type : event.eventType = .UNRESOLVED) (to' : event.toState = .UNRESOLVED) :
    Sound sha ids session now (r.appendTradeEvent event).2 := by
  rw [sound.append_next own next]
  have held := (sound.journalOf own).fills
  rw [active] at held
  have fills : Fills r.receipts event.toState
      ((moved journal event).events.filter (·.eventType.entryFill))
      ((moved journal event).events.filter (·.eventType.exitFill)) := by
    have quiet : event.eventType.entryFill = false ∧ event.eventType.exitFill = false := by
      rw [type]
      exact ⟨rfl, rfl⟩
    simp only [moved, List.filter_append, List.filter_cons, List.filter_nil, quiet.1, quiet.2, to']
    generalize journal.events.filter (·.eventType.entryFill) = entries at held
    generalize journal.events.filter (·.eventType.exitFill) = exits at held
    cases held with
    | active entry recorded => exact .held entry recorded
  refine ⟨sound.journals.set _ _, sound.journal_moved own next rfl (fun _ _ found => found) fills,
    sound.prepared, fun id current found => ?_, sound.receipt, ?_, fun key state found => ?_,
    sound.results_moved own (by rw [active]; rfl) rfl⟩
  · have old := sound.command id current found
    refine old.moved own rfl rfl ?_ fun _ _ => ?_
    · intro same kind
      by_contra pending
      rw [Bool.not_eq_true] at pending
      obtain ⟨journal', own', starts, -⟩ := old.journal
      have state := starts kind pending
      rw [same] at own'
      rw [own.unique own', active] at state
      cases state
    · rw [to', type]
      exact ⟨fun same => (by cases same), rfl⟩
  · intro id journal' found apart entry built
    change (r.journals.set trade.tradeId (moved journal event)).get id = some journal' at found
    rw [Dict.get_set] at found
    split at found
    · cases found
      refine sound.entered _ journal own.1 ?_ entry built
      rw [active]
      exact fun same => by cases same
    · exact sound.entered id journal' found apart entry built
  · have old := sound.liquidity key state found
    exact ⟨old.key, old.coherent, old.clock, old.assumed, old.receipts⟩

variable (order) in
/-- Opening a trade leaves the repository, or adds a journal with its root. -/
theorem openTrade_snd (sound : Sound sha ids session now r) (trade : SimulationTrade) :
    ((openTrade trade).run (Repository.answer order) r).2 = r ∨
      r.journals.get trade.tradeId = none ∧
      ((openTrade trade).run (Repository.answer order) r).2 = { r with
        journals := r.journals.set trade.tradeId {
          trade, state := .PENDING, events := [rootEvent trade] } } := by
  -- what follows the root only loads
  have after : ∀ (created : Bool) (s : Repository Digest), ((do
      let _ ← await (.appendTradeEvent (rootEvent trade))
      let journal ← journalOf trade
      liftM (reject (created ∧ journal.state ≠ .PENDING)
        (.integrity "new simulation trade is not pending after admission"))
      return trade : Sim Digest SimulationTrade).run (Repository.answer order) s).2 =
      (s.appendTradeEvent (rootEvent trade)).2 := by
    intro created s
    have loads : Calls Loads (do
        let journal ← journalOf trade
        liftM (reject (created ∧ journal.state ≠ .PENDING)
          (.integrity "new simulation trade is not pending after admission"))
        return trade : Sim Digest SimulationTrade) :=
      .bind (journalOf_loads trade) fun _ => .bind .lift fun _ => .pure
    cases appended : s.appendTradeEvent (rootEvent trade) with
    | mk answered s' =>
      cases answered with
      | error e => exact congrArg Prod.snd (Program.run_refused appended)
      | ok b =>
        exact (congrArg Prod.snd (Program.run_answered appended)).trans (loads.run_same loads_same s')
  cases found : r.journals.get trade.tradeId with
  | none =>
    right
    refine ⟨rfl, ?_⟩
    have created : r.createTrade trade = (.ok true, { r with
        journals := r.journals.set trade.tradeId { trade, state := .PENDING, events := [] } }) := by
      simp [Repository.createTrade, found]
    refine (congrArg Prod.snd (Program.run_answered created)).trans ((after true _).trans ?_)
    simp [Repository.appendTradeEvent, Dict.get_set, rootEvent, Repository.continues, Dict.set_set]
  | some journal =>
    left
    by_cases same : journal.trade = trade
    · have created : r.createTrade trade = (.ok false, r) := by
        simp [Repository.createTrade, found, same]
      refine (congrArg Prod.snd (Program.run_answered created)).trans ((after false _).trans ?_)
      have rooted := (sound.journal _ _ found).rooted
      have stays : Repository.continues journal (rootEvent trade) = false := by
        simp [Repository.continues, rootEvent, rooted]
      have id : (rootEvent trade : TradeEvent Digest).tradeId = trade.tradeId := rfl
      unfold Repository.appendTradeEvent
      rw [id, found]
      dsimp only
      split
      · rfl
      · rw [stays]
        rfl
    · have refused : r.createTrade trade =
          (.error (.repository "trade id was reused with different content"), r) := by
        simp [Repository.createTrade, found, same]
      exact congrArg Prod.snd (Program.run_refused refused)

/-- A trade of the session may be opened. -/
theorem Sound.openTrade (sound : Sound sha ids session now r) {trade : SimulationTrade}
    (own : trade.admission.session = session) :
    Sound sha ids session now ((Simulation.openTrade trade).run (Repository.answer order) r).2 := by
  rcases openTrade_snd order sound trade with same | ⟨absent, new⟩
  · rw [same]
    exact sound
  rw [new]
  have elsewhere : ∀ id journal, r.journals.get id = some journal → id ≠ trade.tradeId := by
    rintro id journal found rfl
    rw [absent] at found
    cases found
  refine ⟨sound.journals.set _ _, ?_, sound.prepared, ?_, sound.receipt, ?_, ?_, ?_⟩
  · intro id journal found
    change (r.journals.set trade.tradeId ⟨trade, .PENDING, [rootEvent trade]⟩).get id = some journal
      at found
    rw [Dict.get_set] at found
    split at found
    · rename_i here
      cases found
      refine ⟨here.symm, own, fun opened => (by cases opened), ?_, .pending⟩
      intro event mem
      cases List.mem_singleton.1 mem
      exact le_refl 1
    · exact sound.journal id journal found
  · intro id current found
    have old := sound.command id current found
    obtain ⟨journal, held, rest⟩ := old.journal
    refine ⟨old.key, old.completed, old.entry, journal, ⟨?_, held.2⟩, rest⟩
    show (r.journals.set trade.tradeId _).get _ = _
    rw [Dict.get_set, if_neg (elsewhere _ _ held.1)]
    exact held.1
  · intro id journal found apart
    change (r.journals.set trade.tradeId ⟨trade, .PENDING, [rootEvent trade]⟩).get id = some journal
      at found
    rw [Dict.get_set] at found
    split at found
    · cases found
      exact absurd rfl apart
    · exact sound.entered id journal found apart
  · intro key state found
    have old := sound.liquidity key state found
    exact ⟨old.key, old.coherent, old.clock, old.assumed, old.receipts⟩
  · intro id recorded
    obtain ⟨journal, found, terminal⟩ := sound.results id recorded
    refine ⟨journal, ?_, terminal⟩
    show (r.journals.set trade.tradeId _).get _ = _
    rw [Dict.get_set, if_neg (elsewhere _ _ found)]
    exact found

theorem Sound.startTrade (sound : Sound sha ids session now r) {admission : SimulationAdmission}
    (own : admission.session = session) (createdAtMs : ℕ) : Sound sha ids session now
      ((Simulation.startTrade ids admission createdAtMs).run (Repository.answer order) r).2 := by
  unfold Simulation.startTrade
  by_cases ended : createdAtMs > admission.session.endsAtMs
  · simp only [ended, reject, decide_true, if_true]
    exact sound
  by_cases expired : createdAtMs > admission.intent.entryExpiresTsMs
  · simp only [ended, expired, reject, decide_true, decide_false, if_true, Bool.false_eq_true, if_false]
    exact sound
  simp only [ended, expired, decide_false, reject, Bool.false_eq_true, if_false]
  exact sound.openTrade own

end Others

end KairosExecution.Simulation
