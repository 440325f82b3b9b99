import KairosExecution.Simulation.Sessions
import KairosExecution.Simulation.Totality

/-! Draining the prepared commands of a session. Recovery resumes them one by one, and one
that raises keeps it from all that follow. It passes through exactly where every listed
command fits: the kernel takes its fields, the arrivals of a symbol ascend from the last one
that ended, the symbol has room for them, and every exit is the only one of a trade that is
still active. Any
call that completes a later exit of the same trade first, or a later command of the same
symbol, breaks this for good. -/

namespace KairosExecution.Simulation

open Python Interactive

variable {Digest : Type} [DecidableEq Digest] {sha : Content → Digest} {ids : Ids}
  {session : SimulationSession} {now asOfMs : ℕ}
  {order : List SimulationCommand → List SimulationCommand} {r : Repository Digest}

section Reporting

variable {trade : SimulationTrade} {journal : TradeJournal Digest}

variable (order) in
/-- The totals of recorded fills. -/
theorem run_fillTotals (kind : EventType → Bool) (events : List (TradeEvent Digest))
    (recorded : ∀ event ∈ events.filter (kind ·.eventType), Recorded r.receipts event) :
    ∃ rest, (fillTotals kind events).run (Repository.answer order) r =
      (.ok (((events.filter (kind ·.eventType)).map (·.filledQuantity)).sum, rest), r) := by
  induction events with
  | nil => exact ⟨(0, 0), rfl⟩
  | cons event events ih =>
    unfold fillTotals
    by_cases fills : kind event.eventType = true
    · simp only [List.filter_cons, fills, if_true] at recorded ⊢
      obtain ⟨id, receipt, command, found, own, quantity, -, price⟩ :=
        recorded event List.mem_cons_self
      obtain ⟨rest, ran⟩ := ih fun e mem => recorded e (List.mem_cons_of_mem _ mem)
      obtain ⟨average, priced⟩ := Option.ne_none_iff_exists'.1 price
      have made : fillOf event (some receipt) =
          .ok (receipt.filledQuantity, receipt.filledQuantity * average, receipt.feeQuote) := by
        simp [fillOf, own, priced]
      simp only [command]
      refine ⟨(receipt.filledQuantity * average + rest.1, receipt.feeQuote + rest.2), ?_⟩
      refine (Program.run_read (congrArg (fun x => (Except.ok x, r)) found)).trans ?_
      rw [made, Program.run_bind, Program.run_lift]
      dsimp only
      rw [Program.run_bind, ran]
      simp [quantity]
    · simp only [List.filter_cons, fills, if_false, Bool.false_eq_true] at recorded ⊢
      exact ih recorded

omit [DecidableEq Digest] in
theorem Recorded.positive {receipts : Dict String (SimulationReceipt Digest)} {event : TradeEvent Digest}
    (recorded : Recorded receipts event) : 0 < event.filledQuantity := by
  obtain ⟨_, _, _, _, _, _, positive, _⟩ := recorded
  exact positive

/-- What the fills of a trade that ended with some come to. -/
structure Closed (receipts : Dict String (SimulationReceipt Digest)) (journal : TradeJournal Digest) :
    Prop where
  entries : ∀ event ∈ journal.events.filter (·.eventType.entryFill), Recorded receipts event
  exits : ∀ event ∈ journal.events.filter (·.eventType.exitFill), Recorded receipts event
  entered : 0 < entryFilledQuantity journal
  flat : journal.state = .FLAT → exitFilledQuantity journal = entryFilledQuantity journal
  unresolved : journal.state = .UNRESOLVED →
    0 ≤ exitFilledQuantity journal ∧ exitFilledQuantity journal < entryFilledQuantity journal

omit [DecidableEq Digest] in
theorem JournalSound.closed {id : String} (sound : JournalSound session r.receipts id journal)
    (terminal : journal.state.terminal = true)
    (filled : ¬(journal.state = .NO_FILL ∨ journal.state = .BLOCKED)) : Closed r.receipts journal := by
  have fills := sound.fills
  generalize entered : journal.events.filter (·.eventType.entryFill) = entries at fills
  generalize exited : journal.events.filter (·.eventType.exitFill) = exits at fills
  generalize reached : journal.state = state at fills terminal filled
  have entryTotal : entryFilledQuantity journal = (entries.map (·.filledQuantity)).sum := by
    rw [entryFilledQuantity, entered]
  have exitTotal : exitFilledQuantity journal = (exits.map (·.filledQuantity)).sum := by
    rw [exitFilledQuantity, exited]
  cases fills with
  | pending => cases terminal
  | unfilled => exact absurd (.inl rfl) filled
  | blocked => exact absurd (.inr rfl) filled
  | active => cases terminal
  | held entry recorded =>
    have positive := recorded.positive
    constructor
    · simpa [entered] using recorded
    · simp [exited]
    · simpa [entryTotal] using positive
    · simp [reached]
    · simpa [reached, entryTotal, exitTotal] using positive
  | reduced entry exit recorded recorded' less =>
    have positive := recorded.positive
    have positive' := recorded'.positive
    constructor
    · simpa [entered] using recorded
    · simpa [exited] using recorded'
    · simpa [entryTotal] using positive
    · simp [reached]
    · simpa [reached, entryTotal, exitTotal] using ⟨positive'.le, less⟩
  | flat entry exit recorded recorded' all =>
    have positive := recorded.positive
    constructor
    · simpa [entered] using recorded
    · simpa [exited] using recorded'
    · simpa [entryTotal] using positive
    · simpa [reached, entryTotal, exitTotal] using all
    · simp [reached]

omit [DecidableEq Digest] in
theorem filledResult_total (trade : SimulationTrade) (state : TradeState) (last : TradeEvent Digest)
    {entry exit : ℚ} (entryRest exitRest : ℚ × ℚ) (entered : 0 < entry)
    (flat : state = .FLAT → exit = entry) (unresolved : state = .UNRESOLVED → 0 ≤ exit ∧ exit < entry) :
    ∃ result, filledResult trade state last (entry, entryRest) (exit, exitRest) = .ok result := by
  have positive : decide (entry ≤ 0) = false := decide_eq_false (not_le.2 entered)
  have matched : decide (state = .FLAT ∧ exit ≠ entry) = false :=
    decide_eq_false fun h => h.2 (flat h.1)
  have remaining : decide (state = .UNRESOLVED ∧ ¬(0 ≤ exit ∧ exit < entry)) = false :=
    decide_eq_false fun h => h.2 (unresolved h.1)
  unfold filledResult
  simp only [positive, matched, remaining, reject, Bool.false_eq_true, if_false, bind, Except.bind]
  exact ⟨_, rfl⟩

variable (order) in
/-- A terminal trade has a result. -/
theorem Sound.run_resultOf (sound : Sound sha ids session now r) (own : HasJournal r trade journal)
    (terminal : journal.state.terminal = true) :
    ∃ result, (resultOf trade journal).run (Repository.answer order) r = (.ok result, r) := by
  have held := sound.journalOf own
  obtain ⟨last, ended⟩ := Option.ne_none_iff_exists'.1 (mt List.getLast?_eq_none_iff.1 held.rooted)
  unfold resultOf
  simp only [ended]
  by_cases unfilled : journal.state = .NO_FILL ∨ journal.state = .BLOCKED
  · rw [if_pos unfilled]
    exact ⟨_, rfl⟩
  rw [if_neg unfilled]
  have closed := held.closed terminal unfilled
  obtain ⟨entryRest, entered⟩ :=
    run_fillTotals order EventType.entryFill _ closed.entries
  obtain ⟨exitRest, exited⟩ := run_fillTotals order EventType.exitFill _ closed.exits
  obtain ⟨result, made⟩ := filledResult_total trade journal.state last entryRest exitRest
    closed.entered closed.flat closed.unresolved
  rw [Program.run_bind, entered]
  dsimp only
  rw [Program.run_bind, exited]
  exact ⟨result, congrArg (·, r) made⟩

variable (order) in
/-- Where a trade has no result yet, its end is recorded. -/
theorem Sound.run_ensureTerminalResult (sound : Sound sha ids session now r)
    (own : HasJournal r trade journal) (fresh : r.results.get trade.tradeId = none) :
    ∃ made r', (ensureTerminalResult trade).run (Repository.answer order) r = (.ok made, r') ∧
      Sound sha ids session now r' ∧
      (r' = r ∧ journal.state.terminal = false ∨ journal.state.terminal = true ∧
        ∃ result : SimulationResult, r' = { r with results := r.results.set trade.tradeId result }) := by
  have loaded : (Simulation.journalOf trade).run (Repository.answer order) r = (.ok journal, r) :=
    run_journalOf.2 ⟨rfl, own⟩
  unfold ensureTerminalResult
  rw [Program.run_bind, loaded]
  dsimp only
  by_cases terminal : journal.state.terminal = true
  · obtain ⟨result, made⟩ := sound.run_resultOf order own terminal
    have same := resultOf_tradeId made
    have recorded : r.recordResult result =
        (.ok true, { r with results := r.results.set trade.tradeId result }) := by
      rw [Repository.recordResult, same, fresh]
    rw [if_pos terminal, Program.run_bind, made]
    have kept := sound.record own terminal same
    rw [recorded] at kept
    exact ⟨some result, _, Program.run_answered recorded, kept, .inr ⟨terminal, result, rfl⟩⟩
  · rw [if_neg terminal]
    exact ⟨none, r, rfl, sound, .inl ⟨rfl, by simpa using terminal⟩⟩

end Reporting

section Condition

/-- When the last command of a symbol that ended had arrived. -/
def lastArrival (session : SimulationSession) (r : Repository Digest) (symbol : String) : ℕ :=
  ((r.liquidity.get (session.sessionId, symbol)).map (·.lastArrivalAtMs)).getD 0

/-- How many commands of a symbol have ended. -/
def used (session : SimulationSession) (r : Repository Digest) (symbol : String) : ℕ :=
  ((r.liquidity.get (session.sessionId, symbol)).map (·.receipts.length)).getD 0

/-- The symbol of a command. -/
abbrev SimulationCommand.symbol (command : SimulationCommand) : String := command.trade.admission.symbol

/-- The trade of an exit is active. -/
def Open (r : Repository Digest) (command : SimulationCommand) : Prop :=
  command.commandKind ≠ .ENTRY_IOC → ∃ journal, HasJournal r command.trade journal ∧
    journal.state = .ACTIVE

/-- Two exits of one trade. -/
def Rivals (c d : SimulationCommand) : Prop :=
  c.commandKind ≠ .ENTRY_IOC ∧ d.commandKind ≠ .ENTRY_IOC ∧ c.trade = d.trade

/-- Prepared commands that can be resumed one by one in the listed order. -/
structure Drainable (session : SimulationSession) (r : Repository Digest) (asOfMs : ℕ)
    (commands : List SimulationCommand) : Prop where
  bounded : commands ≠ [] → asOfMs ≤ maxTimestamp
  ahead : ∀ c ∈ commands, lastArrival session r c.symbol ≤ c.arrivalAtMs
  ascending : commands.Pairwise fun c d => c.symbol = d.symbol → c.arrivalAtMs ≤ d.arrivalAtMs
  room : ∀ symbol, used session r symbol + commands.countP (·.symbol = symbol) ≤ maxCommands
  active : ∀ c ∈ commands, Open r c
  single : commands.Pairwise fun c d => ¬Rivals c d
  fielded : ∀ c ∈ commands, Fielded r c
  opening : ∀ symbol c, r.liquidity.get (session.sessionId, symbol) = none →
    commands.find? (·.symbol = symbol) = some c → openingFields c = true

/-- A prepared command that can be resumed. -/
structure Ready (session : SimulationSession) (r : Repository Digest) (asOfMs : ℕ)
    (c : SimulationCommand) : Prop where
  bounded : asOfMs ≤ maxTimestamp
  ahead : lastArrival session r c.symbol ≤ c.arrivalAtMs
  room : used session r c.symbol < maxCommands
  active : Open r c
  fielded : Fielded r c
  opening : r.liquidity.get (session.sessionId, c.symbol) = none → openingFields c = true

/-- What resuming a command has changed. -/
structure Resumed (sha : Content → Digest) (ids : Ids) (session : SimulationSession) (asOfMs : ℕ)
    (c : SimulationCommand) (r r' : Repository Digest) : Prop where
  sound : Sound sha ids session asOfMs r'
  prepared : r'.prepared = r.prepared.set c.commandId ⟨c, true⟩
  others : ∀ trade, trade ≠ c.trade → ∀ journal, HasJournal r' trade journal ↔ HasJournal r trade journal
  closed : c.commandKind ≠ .ENTRY_IOC → ¬Open r' c
  arrival : ∀ symbol, lastArrival session r' symbol =
    if symbol = c.symbol then c.arrivalAtMs else lastArrival session r symbol
  used : ∀ symbol, used session r' symbol =
    used session r symbol + if symbol = c.symbol then 1 else 0
  frames : r'.frames = r.frames
  opened : ∀ symbol, r'.liquidity.get (session.sessionId, symbol) = none ↔
    symbol ≠ c.symbol ∧ r.liquidity.get (session.sessionId, symbol) = none

omit [DecidableEq Digest] in
/-- The recorded frames are all that a repository has to do with the fields of a command. -/
theorem Fielded.of_frames {c : SimulationCommand} {r' : Repository Digest} (same : r'.frames = r.frames)
    (fielded : Fielded r c) : Fielded r' c := by
  refine ⟨fielded.assumed, fielded.commanded, fun current frame found => fielded.framed current frame ?_⟩
  unfold Repository.latestBookFrame at found ⊢
  rwa [← same]

variable {c : SimulationCommand} {commands : List SimulationCommand} {r' : Repository Digest}

/-- A command is ready and the rest can be drained after it exactly where all can be. -/
theorem drainable_cons (sound : Sound sha ids session asOfMs r)
    (stored : ∀ d ∈ c :: commands, r.prepared.get d.commandId = some ⟨d, false⟩)
    (resumed : Resumed sha ids session asOfMs c r r') :
    Drainable session r asOfMs (c :: commands) ↔
      Ready session r asOfMs c ∧ Drainable session r' asOfMs commands := by
  -- an entry that is prepared and an exit are not of one trade
  have apart : c.commandKind = .ENTRY_IOC → ∀ d ∈ commands, d.commandKind ≠ .ENTRY_IOC →
      d.trade ≠ c.trade := by
    intro entry d mem exit same
    obtain ⟨journal, own, starts, -⟩ := (sound.command _ _ (stored c List.mem_cons_self)).journal
    obtain ⟨journal', own', -, closes⟩ :=
      (sound.command _ _ (stored d (List.mem_cons_of_mem _ mem))).journal
    change HasJournal r d.trade journal' at own'
    rw [same] at own'
    have past := (closes exit).1
    rw [own.unique own'] at past
    exact past (starts entry rfl)
  have kept : ∀ d ∈ commands, d.trade ≠ c.trade → (Open r' d ↔ Open r d) := by
    intro d _ other
    simp only [Open, resumed.others d.trade other]
  have counted : ∀ symbol, (c :: commands).countP (·.symbol = symbol) =
      commands.countP (·.symbol = symbol) + if symbol = c.symbol then 1 else 0 := by
    intro symbol
    rw [List.countP_cons]
    simp [eq_comm]
  have found (symbol : String) : (c :: commands).find? (·.symbol = symbol) =
      if c.symbol = symbol then some c else commands.find? (·.symbol = symbol) := by
    rw [List.find?_cons]
    by_cases here : c.symbol = symbol <;> simp [here]
  constructor
  · rintro ⟨bounded, ahead, ascending, room, active, single, fielded, opening⟩
    obtain ⟨first, ascending⟩ := List.pairwise_cons.1 ascending
    obtain ⟨alone, single⟩ := List.pairwise_cons.1 single
    have first' : r.liquidity.get (session.sessionId, c.symbol) = none → openingFields c = true :=
      fun new => opening c.symbol c new (by rw [found, if_pos rfl])
    refine ⟨⟨bounded nofun, ahead c List.mem_cons_self, ?_, active c List.mem_cons_self,
        fielded c List.mem_cons_self, first'⟩,
      fun _ => bounded nofun, fun d mem => ?_, ascending, fun symbol => ?_, fun d mem => ?_, single,
      fun d mem => (fielded d (List.mem_cons_of_mem _ mem)).of_frames resumed.frames,
      fun symbol d new listed => ?_⟩
    · have limit := room c.symbol
      rw [counted, if_pos rfl] at limit
      omega
    · rw [resumed.arrival]
      split
      · rename_i same
        exact first d mem same.symm
      · exact ahead d (List.mem_cons_of_mem _ mem)
    · have limit := room symbol
      rw [counted] at limit
      rw [resumed.used]
      omega
    · have here := active d (List.mem_cons_of_mem _ mem)
      by_cases exit : d.commandKind = .ENTRY_IOC
      · exact fun other => absurd exit other
      refine (kept d mem fun same => ?_).2 here
      by_cases entry : c.commandKind = .ENTRY_IOC
      · exact apart entry d mem exit same
      · exact alone d mem ⟨entry, exit, same.symm⟩
    · obtain ⟨other, new⟩ := (resumed.opened symbol).1 new
      exact opening symbol d new (by rw [found, if_neg fun same => other same.symm, listed])
  · rintro ⟨ready, bounded, ahead, ascending, room, active, single, fielded, opening⟩
    have distinct : ∀ d ∈ commands, d.commandKind ≠ .ENTRY_IOC → d.trade ≠ c.trade := by
      intro d mem exit same
      by_cases entry : c.commandKind = .ENTRY_IOC
      · exact apart entry d mem exit same
      · refine resumed.closed entry fun _ => ?_
        rw [← same]
        exact active d mem exit
    refine ⟨fun _ => ready.bounded, ?_, List.pairwise_cons.2 ⟨fun d mem same => ?_, ascending⟩,
      fun symbol => ?_, ?_, List.pairwise_cons.2 ⟨fun d mem rivals => ?_, single⟩, fun d mem => ?_,
      fun symbol d new listed => ?_⟩
    · intro d mem
      rcases List.mem_cons.1 mem with rfl | mem
      · exact ready.ahead
      · have after := ahead d mem
        rw [resumed.arrival] at after
        split at after
        · rename_i same
          rw [same]
          exact ready.ahead.trans after
        · exact after
    · have after := ahead d mem
      rw [resumed.arrival, if_pos same.symm] at after
      exact after
    · have limit := room symbol
      rw [resumed.used] at limit
      rw [counted]
      omega
    · intro d mem
      rcases List.mem_cons.1 mem with rfl | mem
      · exact ready.active
      · intro exit
        exact (kept d mem (distinct d mem exit)).1 (active d mem) exit
    · exact distinct d mem rivals.2.1 rivals.2.2.symm
    · rcases List.mem_cons.1 mem with rfl | mem
      · exact ready.fielded
      · exact (fielded d mem).of_frames resumed.frames.symm
    · rw [found] at listed
      split at listed
      · rename_i here
        cases listed
        rw [← here] at new
        exact ready.opening new
      · rename_i other
        exact opening symbol d ((resumed.opened symbol).2 ⟨fun same => other same.symm, new⟩) listed

end Condition

section Resuming

variable {c : SimulationCommand} {journal : TradeJournal Digest} {receipt : SimulationReceipt Digest}
  {next state : LiquidityState Digest} {event : TradeEvent Digest} {r' : Repository Digest}

/-- The liquidity state that a command is evaluated on. -/
theorem Sound.line (sound : Sound sha ids session now r) (own : c.trade.admission.session = session)
    (opening : r.liquidity.get (session.sessionId, c.symbol) = none → openingFields c = true) :
    ∃ state, liquidityOf c (r.liquidity.get (c.trade.admission.session.sessionId, c.symbol)) =
        .ok state ∧
      StateCoherent state ∧ state.lastArrivalAtMs = lastArrival session r c.symbol ∧
      state.receipts.length = used session r c.symbol ∧
      ∀ digest ∈ state.assumptionsSha256, digest = sha (.assumptions session.assumptions) := by
  unfold lastArrival used
  rw [own]
  cases found : r.liquidity.get (session.sessionId, c.symbol) with
  | none =>
    refine ⟨openingState c, ?_, ?_, rfl, rfl, nofun⟩
    · rw [liquidityOf, (build_eq_ok (u := ())).2 (opening found)]
      rfl
    constructor <;> simp [openingState, maxTimestamp, Dict.Unique]
  | some stored =>
    have held := sound.liquidity _ _ found
    have valid : stored.validate = .ok stored := validate_eq_ok.2 ⟨held.coherent, rfl⟩
    refine ⟨stored, ?_, coherent_iff.1 held.coherent, rfl, rfl, fun digest mem => ?_⟩
    · obtain ⟨id, sessionId, tape, symbol⟩ := held.key
      change stored.symbol = c.symbol at symbol
      unfold liquidityOf
      simp [valid, own, sessionId, tape, symbol, reject, bind, Except.bind, pure, Except.pure]
    · rw [held.assumed] at mem
      exact (Option.mem_some_iff.1 mem).symm

omit [DecidableEq Digest] in
/-- A command was evaluated on a state that was there, or could be opened. -/
theorem opening_of_loaded [DecidableEq Digest] (own : c.trade.admission.session = session)
    (loaded : liquidityOf c (r.liquidity.get (c.trade.admission.session.sessionId, c.symbol)) = .ok state)
    (new : r.liquidity.get (session.sessionId, c.symbol) = none) : openingFields c = true := by
  rw [own, new] at loaded
  obtain ⟨_, built, -⟩ := bind_eq_ok.1 loaded
  exact build_eq_ok.1 built

theorem evaluationOf_arrived {evaluated : Option (SimulationReceipt Digest × LiquidityState Digest)}
    (h : evaluationOf sha r c asOfMs = .ok evaluated) (arrived : c.arrivalAtMs ≤ asOfMs) :
    ∃ receipt next, evaluated = some (receipt, next) := by
  obtain ⟨_, -, h⟩ := bind_eq_ok.1 h
  obtain ⟨state, -, h⟩ := bind_eq_ok.1 h
  obtain ⟨_, -, h⟩ := bind_eq_ok.1 h
  rw [if_neg (not_lt.2 arrived)] at h
  obtain ⟨_, -, h⟩ := bind_eq_ok.1 h
  split at h
  · obtain ⟨_, -, h⟩ := bind_eq_ok.1 h
    obtain ⟨_, -, h⟩ := bind_eq_ok.1 h
    cases h
    exact ⟨_, _, rfl⟩
  · obtain ⟨evaluated, -, h⟩ := bind_eq_ok.1 h
    cases h
    exact ⟨_, _, rfl⟩

/-- The completion of a command, and what it changes. -/
theorem Sound.resumed_completed (sound : Sound sha ids session asOfMs r)
    (stored : r.prepared.get c.commandId = some ⟨c, false⟩) (own : HasJournal r c.trade journal)
    (evaluated : evaluationOf sha r c asOfMs = .ok (some (receipt, next)))
    (built : eventForReceipt c receipt journal = .ok event) :
    Resumed sha ids session asOfMs c r (completed r c journal receipt next event) := by
  obtain ⟨transition, kept⟩ := sound.complete (le_refl _) stored own evaluated built
  obtain ⟨state, result⟩ := evaluationOf_some evaluated
  obtain ⟨state', loaded, -, arrivals, count, -⟩ :=
    sound.line (sound.sessionOf own) (opening_of_loaded (sound.sessionOf own) result.loaded)
  have same : state' = state := by
    rw [result.loaded] at loaded
    exact (Except.ok.inj loaded).symm
  rw [same] at arrivals count
  have mine : (r.journals.set c.trade.tradeId (moved journal event)).get c.trade.tradeId =
      some (moved journal event) := by
    rw [Dict.get_set, if_pos rfl]
  refine ⟨kept, rfl, fun trade other journal' => ?_, fun exit open' => ?_, fun symbol => ?_,
    fun symbol => ?_, rfl, fun symbol => ?_⟩
  · by_cases id : trade.tradeId = c.trade.tradeId
    · constructor
      · rintro ⟨found, lineage⟩
        rw [id] at found
        have one := Option.some.inj (mine.symm.trans found)
        rw [← one] at lineage
        exact absurd (lineage.symm.trans own.2) other
      · rintro ⟨found, lineage⟩
        rw [id, own.1] at found
        cases found
        exact absurd (lineage.symm.trans own.2) other
    · have elsewhere : (r.journals.set c.trade.tradeId (moved journal event)).get trade.tradeId =
          r.journals.get trade.tradeId := by
        rw [Dict.get_set, if_neg id]
      constructor
      · rintro ⟨found, lineage⟩
        exact ⟨elsewhere.symm.trans found, lineage⟩
      · rintro ⟨found, lineage⟩
        exact ⟨elsewhere.trans found, lineage⟩
  · obtain ⟨journal', own', active⟩ := open' exit
    have one := Option.some.inj (mine.symm.trans own'.1)
    have terminal := (transition.exit exit).2.2
    rw [← one] at active
    change event.toState = .ACTIVE at active
    rw [active] at terminal
    cases terminal
  · show (((r.liquidity.set (c.trade.admission.session.sessionId, c.symbol) next).get
      (session.sessionId, symbol)).map (·.lastArrivalAtMs)).getD 0 = _
    rw [Dict.get_set, sound.sessionOf own]
    by_cases here : symbol = c.symbol
    · rw [if_pos (by rw [here]), if_pos here]
      exact result.advanced.arrival
    · rw [if_neg (fun eq => here (Prod.mk.inj eq).2), if_neg here]
      rfl
  · show (((r.liquidity.set (c.trade.admission.session.sessionId, c.symbol) next).get
      (session.sessionId, symbol)).map (·.receipts.length)).getD 0 = _
    rw [Dict.get_set, sound.sessionOf own]
    by_cases here : symbol = c.symbol
    · rw [if_pos (by rw [here]), if_pos here, here, ← count]
      have receipts := congrArg List.length result.advanced.receipts
      simpa using receipts
    · rw [if_neg (fun eq => here (Prod.mk.inj eq).2), if_neg here]
      rfl
  · show (r.liquidity.set (c.trade.admission.session.sessionId, c.symbol) next).get
      (session.sessionId, symbol) = none ↔ _
    rw [Dict.get_set, sound.sessionOf own]
    by_cases here : symbol = c.symbol
    · simp [here]
    · simp [here]

omit [DecidableEq Digest] in
/-- Recording a result changes nothing that resuming looks at. -/
theorem Resumed.recorded [DecidableEq Digest] {results : Dict String SimulationResult}
    (resumed : Resumed sha ids session asOfMs c r r')
    (sound : Sound sha ids session asOfMs { r' with results }) :
    Resumed sha ids session asOfMs c r { r' with results } :=
  ⟨sound, resumed.prepared, resumed.others, resumed.closed, resumed.arrival, resumed.used, resumed.frames,
    resumed.opened⟩

variable (order) in
/-- A command that was evaluated, and for which the trade has an event, is completed. -/
theorem Sound.run_completePrepared (sound : Sound sha ids session asOfMs r)
    (stored : r.prepared.get c.commandId = some ⟨c, false⟩) (own : HasJournal r c.trade journal)
    (evaluated : evaluationOf sha r c asOfMs = .ok (some (receipt, next)))
    (built : eventForReceipt c receipt journal = .ok event) :
    ∃ outcome r', (completePrepared c journal receipt next).run (Repository.answer order) r =
      (.ok outcome, r') ∧ Resumed sha ids session asOfMs c r r' := by
  obtain ⟨transition, kept⟩ := sound.complete (le_refl _) stored own evaluated built
  have resumed := sound.resumed_completed stored own evaluated built
  have mine : HasJournal (completed r c journal receipt next event) c.trade (moved journal event) := by
    refine ⟨?_, own.2⟩
    show (r.journals.set c.trade.tradeId (moved journal event)).get c.trade.tradeId = _
    rw [Dict.get_set, if_pos rfl]
  have fresh : (completed r c journal receipt next event).results.get c.trade.tradeId = none := by
    show r.results.get c.trade.tradeId = none
    by_contra recorded
    obtain ⟨journal', found, terminal⟩ :=
      sound.results c.trade.tradeId (Option.isSome_iff_ne_none.2 recorded)
    rw [own.1] at found
    cases found
    by_cases kind : c.commandKind = .ENTRY_IOC
    · rw [transition.entry kind] at terminal
      cases terminal
    · rw [(transition.exit kind).1] at terminal
      cases terminal
  obtain ⟨made, r', ensured, kept', changed⟩ :=
    kept.run_ensureTerminalResult order mine fresh
  have mine' : HasJournal r' c.trade (moved journal event) := by
    rcases changed with ⟨rfl, -⟩ | ⟨-, result, rfl⟩
    · exact mine
    · exact mine
  have resumed' : Resumed sha ids session asOfMs c r r' := by
    rcases changed with ⟨rfl, -⟩ | ⟨-, result, rfl⟩
    · exact resumed
    · exact resumed.recorded kept'
  have loaded : (Simulation.journalOf c.trade).run (Repository.answer order) r' =
      (.ok (moved journal event), r') := run_journalOf.2 ⟨rfl, mine'⟩
  have completes := sound.complete_eq receipt stored own transition.next next
  unfold completePrepared
  rw [built, Program.run_bind, Program.run_lift]
  dsimp only
  refine ⟨{ command := c, receipt := some receipt, lifecycleState := (moved journal event).state,
            replayed := false }, r', ?_, resumed'⟩
  refine (Program.run_answered completes).trans ?_
  rw [Program.run_bind, ensured]
  dsimp only
  rw [Program.run_bind, loaded]
  rfl

/-- A prepared command is handed to its evaluation. -/
theorem run_processCommand (stored : r.prepared.get c.commandId = some ⟨c, false⟩)
    (own : HasJournal r c.trade journal) :
    (processCommand sha c asOfMs).run (Repository.answer order) r =
      (processPrepared sha c journal asOfMs).run (Repository.answer order) r := by
  have loaded : (Simulation.journalOf c.trade).run (Repository.answer order) r = (.ok journal, r) :=
    run_journalOf.2 ⟨rfl, own⟩
  refine (Program.run_answered (prepareCommand_stored stored)).trans ?_
  rw [Program.run_bind, loaded]
  rfl

variable (order) in
/-- A prepared command that has arrived and is ready is resumed. -/
theorem Sound.resume (sound : Sound sha ids session asOfMs r)
    (stored : r.prepared.get c.commandId = some ⟨c, false⟩) (arrived : c.arrivalAtMs ≤ asOfMs)
    (ready : Ready session r asOfMs c) :
    ∃ outcome r', (processCommand sha c asOfMs).run (Repository.answer order) r = (.ok outcome, r') ∧
      Resumed sha ids session asOfMs c r r' := by
  obtain ⟨journal, own, starts, closes⟩ := (sound.command _ _ stored).journal
  obtain ⟨state, loaded, coherent, arrivals, count, assumed⟩ :=
    sound.line (sound.sessionOf own) ready.opening
  obtain ⟨lineage, clock, receipts⟩ := sound.loaded (sound.sessionOf own) loaded
  have unreceived : (r.receipts.get c.commandId).isSome = false :=
    (sound.command _ _ stored).completed.symm
  have takes : TakesCommand sha c state asOfMs := by
    refine ⟨coherent, fun receipt mem same => ?_, ?_, clock, arrived, ?_, ?_, ready.bounded⟩
    · have known := receipts receipt mem
      rw [same] at known
      exact absurd (unreceived.symm.trans known) nofun
    · rw [sound.sessionOf own]
      exact assumed
    · rw [arrivals]
      exact ready.ahead
    · rw [count]
      exact ready.room
  rw [← sound.sessionOf own] at lineage
  obtain ⟨receipt, next, evaluated⟩ := evaluationOf_total loaded lineage takes ready.fielded
  obtain ⟨_, result⟩ := evaluationOf_some evaluated
  have built : ∃ event, eventForReceipt c receipt journal = .ok event := by
    by_cases kind : c.commandKind = .ENTRY_IOC
    · have pending := starts kind rfl
      simp [eventForReceipt, transitionFor, kind, pending, reject, bind, Except.bind, pure, Except.pure]
    · obtain ⟨journal', own', active⟩ := ready.active kind
      rw [own.unique own'] at active
      have remaining := sound.remaining own active
      have quantity : c.quantity = entryFilledQuantity journal := (closes kind).2
      have unfilled : exitFilledQuantity journal = 0 := by
        unfold remainingQuantity at remaining
        linarith
      have within := result.facts.le
      have fills := result.facts.fills
      by_cases filled : receipt.status.fills = true
      · have fits : ¬(receipt.filledQuantity ≤ 0 ∨
            entryFilledQuantity journal < exitFilledQuantity journal + receipt.filledQuantity) := by
          rw [unfilled, zero_add, ← quantity, not_or, not_le, not_lt]
          exact ⟨fills.1 filled, within⟩
        simp [eventForReceipt, transitionFor, exitTransition, kind, active, filled, fits, reject, bind,
          Except.bind, pure, Except.pure]
      · simp [eventForReceipt, transitionFor, exitTransition, kind, active, filled, reject, bind,
          Except.bind, pure, Except.pure]
  obtain ⟨event, built⟩ := built
  obtain ⟨outcome, r', ran, resumed⟩ :=
    sound.run_completePrepared order stored own evaluated built
  refine ⟨outcome, r', ?_, resumed⟩
  rw [run_processCommand stored own, processPrepared, Program.run_bind, run_evaluatePrepared,
    evaluated]
  exact ran

/-- A prepared command that has arrived and is resumed was ready. -/
theorem Sound.resumed (sound : Sound sha ids session asOfMs r)
    (stored : r.prepared.get c.commandId = some ⟨c, false⟩) (arrived : c.arrivalAtMs ≤ asOfMs)
    {outcome : ExecutionOutcome Digest}
    (ran : (processCommand sha c asOfMs).run (Repository.answer order) r = (.ok outcome, r')) :
    Ready session r asOfMs c ∧ Resumed sha ids session asOfMs c r r' := by
  obtain ⟨journal, own, -, -⟩ := (sound.command _ _ stored).journal
  rw [run_processCommand stored own, processPrepared, Program.run_bind, run_evaluatePrepared] at ran
  cases evaluated : evaluationOf sha r c asOfMs with
  | error e =>
    rw [evaluated] at ran
    cases ran
  | ok evaluation =>
    obtain ⟨receipt, next, rfl⟩ := evaluationOf_arrived evaluated arrived
    rw [evaluated] at ran
    change (completePrepared c journal receipt next).run _ r = _ at ran
    cases built : eventForReceipt c receipt journal with
    | error e =>
      unfold completePrepared at ran
      rw [built] at ran
      cases ran
    | ok event =>
      obtain ⟨outcome', r'', ran', resumed⟩ :=
        sound.run_completePrepared order stored own evaluated built
      have same := (Prod.mk.inj (ran'.symm.trans ran)).2
      rw [same] at resumed
      obtain ⟨state, result⟩ := evaluationOf_some evaluated
      obtain ⟨transition, -⟩ := sound.complete (le_refl _) stored own evaluated built
      have opening := opening_of_loaded (sound.sessionOf own) result.loaded
      obtain ⟨state', loaded, -, arrivals, count, -⟩ := sound.line (sound.sessionOf own) opening
      have one : state' = state := by
        rw [result.loaded] at loaded
        exact (Except.ok.inj loaded).symm
      rw [one] at arrivals count
      have coherent := coherent_iff.1 result.advanced.coherent
      refine ⟨⟨?_, ?_, ?_, fun exit => ⟨journal, own, (transition.exit exit).1⟩, result.fielded, opening⟩,
        resumed⟩
      · rw [← result.advanced.asOf]
        exact coherent.asOf
      · rw [← arrivals]
        exact result.advanced.ordered
      · have capacity := coherent.capacity
        have receipts := congrArg List.length result.advanced.receipts
        simp only [List.length_map, List.length_append, List.length_singleton] at receipts
        rw [← count]
        omega

end Resuming

section Draining

variable {commands : List SimulationCommand} {trades : List SimulationTrade} {r' : Repository Digest}

/-- What resuming all listed commands has changed. -/
structure Drained (sha : Content → Digest) (ids : Ids) (session : SimulationSession) (asOfMs : ℕ)
    (commands : List SimulationCommand) (r r' : Repository Digest) : Prop where
  sound : Sound sha ids session asOfMs r'
  left : ∀ id current, r'.prepared.get id = some current → current.completed = false →
    r.prepared.get id = some current ∧ ∀ c ∈ commands, c.commandId ≠ id

theorem Resumed.drained {c : SimulationCommand} {m : Repository Digest}
    (first : Resumed sha ids session asOfMs c r m)
    (rest : Drained sha ids session asOfMs commands m r') :
    Drained sha ids session asOfMs (c :: commands) r r' := by
  refine ⟨rest.sound, fun id current found open' => ?_⟩
  obtain ⟨before, others⟩ := rest.left id current found open'
  rw [first.prepared, Dict.get_set] at before
  split at before
  · cases before
    cases open'
  · rename_i apart
    refine ⟨before, fun d mem => ?_⟩
    rcases List.mem_cons.1 mem with rfl | mem
    · exact fun same => apart same.symm
    · exact others d mem

/-- The tail of a list of prepared commands still stands after its head was resumed. -/
theorem Resumed.stored {c : SimulationCommand}
    (first : Resumed sha ids session asOfMs c r r')
    (distinct : ((c :: commands).map (·.commandId)).Nodup)
    (stored : ∀ d ∈ c :: commands, r.prepared.get d.commandId = some ⟨d, false⟩) :
    ∀ d ∈ commands, r'.prepared.get d.commandId = some ⟨d, false⟩ := by
  intro d mem
  rw [List.map_cons, List.nodup_cons] at distinct
  have apart : d.commandId ≠ c.commandId := by
    intro same
    exact distinct.1 (same ▸ List.mem_map_of_mem mem)
  rw [first.prepared, Dict.get_set, if_neg apart]
  exact stored d (List.mem_cons_of_mem _ mem)

theorem drainable_nil (sound : Sound sha ids session asOfMs r) : Drainable session r asOfMs [] := by
  refine ⟨fun some => absurd rfl some, fun _ mem => (nomatch mem), .nil, fun symbol => ?_,
    fun _ mem => (nomatch mem), .nil, fun _ mem => (nomatch mem), fun _ _ _ found => (nomatch found)⟩
  rw [List.countP_nil, add_zero, used]
  cases found : r.liquidity.get (session.sessionId, symbol) with
  | none => exact Nat.zero_le _
  | some state =>
    have capacity := (coherent_iff.1 (sound.liquidity _ _ found).coherent).capacity
    rw [Option.map_some, Option.getD_some]
    exact capacity

variable (order) in
/-- Commands that can be drained are resumed one by one. -/
theorem Sound.resumeAll (sound : Sound sha ids session asOfMs r)
    (stored : ∀ d ∈ commands, r.prepared.get d.commandId = some ⟨d, false⟩)
    (distinct : (commands.map (·.commandId)).Nodup) (arrived : ∀ d ∈ commands, d.arrivalAtMs ≤ asOfMs)
    (drainable : Drainable session r asOfMs commands) :
    ∃ outcomes r', (resumeAll sha asOfMs commands).run (Repository.answer order) r =
      (.ok outcomes, r') ∧ Drained sha ids session asOfMs commands r r' := by
  induction commands generalizing r with
  | nil => exact ⟨[], r, rfl, sound, fun id current found _ => ⟨found, fun _ mem => nomatch mem⟩⟩
  | cons c commands ih =>
    have mine := stored c List.mem_cons_self
    have here := arrived c List.mem_cons_self
    have ready : Ready session r asOfMs c := by
      refine ⟨drainable.bounded nofun, drainable.ahead c List.mem_cons_self, ?_,
        drainable.active c List.mem_cons_self, drainable.fielded c List.mem_cons_self,
        fun new => drainable.opening c.symbol c new (by simp)⟩
      have limit := drainable.room c.symbol
      rw [List.countP_cons_of_pos (by simp)] at limit
      omega
    obtain ⟨outcome, m, ran, resumed⟩ := sound.resume order mine here ready
    obtain ⟨outcomes, r', ran', drained⟩ := ih resumed.sound (resumed.stored distinct stored)
      (List.nodup_cons.1 distinct).2 (fun d mem => arrived d (List.mem_cons_of_mem _ mem))
      ((drainable_cons sound stored resumed).1 drainable).2
    refine ⟨outcome :: outcomes, r', ?_, resumed.drained drained⟩
    unfold Simulation.resumeAll
    rw [Program.run_bind, ran]
    dsimp only
    rw [Program.run_bind, ran']
    rfl

/-- Commands that were resumed one by one could be drained. -/
theorem Sound.resumedAll (sound : Sound sha ids session asOfMs r)
    (stored : ∀ d ∈ commands, r.prepared.get d.commandId = some ⟨d, false⟩)
    (distinct : (commands.map (·.commandId)).Nodup) (arrived : ∀ d ∈ commands, d.arrivalAtMs ≤ asOfMs)
    {outcomes : List (ExecutionOutcome Digest)}
    (ran : (Simulation.resumeAll sha asOfMs commands).run (Repository.answer order) r =
      (.ok outcomes, r')) : Drainable session r asOfMs commands := by
  induction commands generalizing r outcomes r' with
  | nil => exact drainable_nil sound
  | cons c commands ih =>
    obtain ⟨outcome, m, first, ran⟩ := Program.run_bind_ok.1 ran
    obtain ⟨rest, m', tail, -⟩ := Program.run_bind_ok.1 ran
    obtain ⟨ready, resumed⟩ :=
      sound.resumed (stored c List.mem_cons_self) (arrived c List.mem_cons_self) first
    refine (drainable_cons sound stored resumed).2 ⟨ready, ?_⟩
    exact ih resumed.sound (resumed.stored distinct stored) (List.nodup_cons.1 distinct).2
      (fun d mem => arrived d (List.mem_cons_of_mem _ mem)) tail

variable (order) in
/-- Terminal trades without results get theirs. -/
theorem Sound.reportAll (sound : Sound sha ids session now r)
    (open' : ∀ trade ∈ trades, r.results.get trade.tradeId = none ∧
      ∃ journal, HasJournal r trade journal ∧ journal.state.terminal = true)
    (distinct : (trades.map (·.tradeId)).Nodup) :
    ∃ r', (Simulation.reportAll trades).run (Repository.answer order) r = (.ok (), r') ∧
      r'.journals = r.journals ∧ r'.prepared = r.prepared ∧
      (∀ id, (r.results.get id).isSome → (r'.results.get id).isSome) ∧
      ∀ trade ∈ trades, (r'.results.get trade.tradeId).isSome := by
  induction trades generalizing r with
  | nil => exact ⟨r, rfl, rfl, rfl, fun _ found => found, nofun⟩
  | cons trade trades ih =>
    obtain ⟨fresh, journal, own, terminal⟩ := open' trade List.mem_cons_self
    obtain ⟨made, m, ran, kept, changed⟩ := sound.run_ensureTerminalResult order own fresh
    obtain ⟨result, rfl⟩ : ∃ result : SimulationResult,
        m = { r with results := r.results.set trade.tradeId result } := by
      rcases changed with ⟨-, quiet⟩ | ⟨-, result, new⟩
      · rw [terminal] at quiet
        cases quiet
      · exact ⟨result, new⟩
    rw [List.map_cons, List.nodup_cons] at distinct
    have apart : ∀ other ∈ trades, other.tradeId ≠ trade.tradeId := fun other mem same =>
      distinct.1 (same ▸ List.mem_map_of_mem mem)
    obtain ⟨r', ran', journals, prepared, stay, each⟩ := ih kept (fun other mem => by
      obtain ⟨none, journal', own', terminal'⟩ := open' other (List.mem_cons_of_mem _ mem)
      refine ⟨?_, journal', own', terminal'⟩
      show (r.results.set trade.tradeId result).get other.tradeId = _
      rw [Dict.get_set, if_neg (apart other mem)]
      exact none) distinct.2
    have mine : ((r.results.set trade.tradeId result).get trade.tradeId).isSome := by
      rw [Dict.get_set, if_pos rfl]
      rfl
    refine ⟨r', ?_, journals, prepared, fun id found => stay id (get_isSome_set _ _ _ _ found), ?_⟩
    · unfold Simulation.reportAll
      rw [Program.run_bind, ran]
      exact ran'
    · intro other mem
      rcases List.mem_cons.1 mem with rfl | mem
      · exact stay _ mine
      · exact each other mem

theorem Sound.pending_distinct (sound : Sound sha ids session now r) (sessionId : String) :
    ((r.pending sessionId).map (·.commandId)).Nodup := by
  have keys : (r.pending sessionId).map (·.commandId) = (r.prepared.filter fun entry =>
      !entry.2.completed && decide (entry.2.command.trade.admission.session.sessionId = sessionId)).map
        Prod.fst := by
    rw [Repository.pending, List.map_map]
    refine List.map_congr_left fun entry mem => ?_
    have found := (sound.prepared.lookup_iff entry.1 entry.2).2 (List.mem_filter.1 mem).1
    exact (sound.command _ _ found).key
  rw [keys]
  exact sound.prepared.sublist (List.filter_sublist.map _)

/-- The terminal trades without results, and that each is listed once. -/
theorem Sound.unreported (sound : Sound sha ids session now r) (sessionId : String) :
    (∀ trade ∈ r.unreported sessionId, r.results.get trade.tradeId = none ∧
      ∃ journal, HasJournal r trade journal ∧ journal.state.terminal = true) ∧
      ((r.unreported sessionId).map (·.tradeId)).Nodup := by
  have held : ∀ entry ∈ r.journals, r.journals.get entry.1 = some entry.2 ∧
      entry.2.trade.tradeId = entry.1 := by
    intro entry mem
    have found := (sound.journals.lookup_iff entry.1 entry.2).2 mem
    exact ⟨found, (sound.journal _ _ found).key⟩
  constructor
  · intro trade mem
    obtain ⟨entry, stored, rfl⟩ := List.mem_map.1 mem
    obtain ⟨stored, kept⟩ := List.mem_filter.1 stored
    obtain ⟨found, key⟩ := held entry stored
    simp only [Bool.and_eq_true, Option.isNone_iff_eq_none] at kept
    rw [key]
    refine ⟨kept.2, entry.2, ⟨?_, rfl⟩, kept.1.2⟩
    rw [key]
    exact found
  · have keys : (r.unreported sessionId).map (·.tradeId) = (r.journals.filter fun entry =>
        decide (entry.2.trade.admission.session.sessionId = sessionId) && entry.2.state.terminal
          && (r.results.get entry.1).isNone).map Prod.fst := by
      rw [Repository.unreported, List.map_map]
      exact List.map_congr_left fun entry mem => (held entry (List.mem_filter.1 mem).1).2
    rw [keys]
    exact sound.journals.sublist (List.filter_sublist.map _)

/-- Recovery drains the prepared commands of a session, once all of them have arrived,
exactly where they can be resumed in the listed order. -/
theorem recovery_drains (listed : ∀ commands, (order commands).Perm commands)
    {bars : List (SimulationTrade × ClosedBar)} (run : SessionRun sha ids order session now bars r)
    (clock : now ≤ asOfMs) (arrived : ∀ c ∈ r.pending session.sessionId, c.arrivalAtMs ≤ asOfMs) :
    (∃ outcomes r', (recoverPrepared sha session.sessionId asOfMs).run (Repository.answer order) r =
      (.ok outcomes, r') ∧ r'.pending session.sessionId = [] ∧ r'.unreported session.sessionId = []) ↔
    Drainable session r asOfMs (order (r.pending session.sessionId)) := by
  have sound := (run.sound listed).later clock
  have perm := listed (r.pending session.sessionId)
  have stored : ∀ d ∈ order (r.pending session.sessionId),
      r.prepared.get d.commandId = some ⟨d, false⟩ := fun d mem => sound.listed (perm.subset mem)
  have distinct : ((order (r.pending session.sessionId)).map (·.commandId)).Nodup :=
    (perm.map _).nodup_iff.2 (sound.pending_distinct _)
  have here : ∀ d ∈ order (r.pending session.sessionId), d.arrivalAtMs ≤ asOfMs :=
    fun d mem => arrived d (perm.subset mem)
  have start : (recoverPrepared sha session.sessionId asOfMs).run (Repository.answer order) r =
      (do
        let outcomes ← resumeAll sha asOfMs (order (r.pending session.sessionId))
        let trades ← await (.listTerminalTradesWithoutResult session.sessionId)
        Simulation.reportAll trades
        return outcomes : Sim Digest _).run (Repository.answer order) r := Program.run_read rfl
  rw [start]
  constructor
  · rintro ⟨outcomes, r', ran, -⟩
    obtain ⟨_, _, resumed, -⟩ := Program.run_bind_ok.1 ran
    exact sound.resumedAll stored distinct here resumed
  · intro drainable
    obtain ⟨outcomes, m, resumed, drained⟩ :=
      sound.resumeAll order stored distinct here drainable
    obtain ⟨open', once⟩ := drained.sound.unreported session.sessionId
    obtain ⟨r', reported, journals, prepared, stay, each⟩ :=
      drained.sound.reportAll order open' once
    refine ⟨outcomes, r', ?_, ?_, ?_⟩
    · rw [Program.run_bind, resumed]
      refine (Program.run_read rfl).trans ?_
      rw [Program.run_bind, reported]
      rfl
    · rw [Repository.pending, List.map_eq_nil_iff, List.filter_eq_nil_iff]
      rintro ⟨id, current⟩ mem
      rw [prepared] at mem
      simp only [Bool.and_eq_true, Bool.not_eq_true', decide_eq_true_eq, not_and]
      intro left own
      have found := (drained.sound.prepared.lookup_iff id current).2 mem
      obtain ⟨before, others⟩ := drained.left id current found left
      refine others current.command (perm.symm.subset ?_) (drained.sound.command _ _ found).key
      refine List.mem_map.2 ⟨(id, current), List.mem_filter.2 ⟨Dict.mem_of_lookup before, ?_⟩, rfl⟩
      simp [left, own]
    · rw [Repository.unreported, List.map_eq_nil_iff, List.filter_eq_nil_iff]
      rintro ⟨id, journal⟩ mem
      rw [journals] at mem
      simp only [Bool.and_eq_true, decide_eq_true_eq, Option.isNone_iff_eq_none, not_and, and_imp]
      intro own terminal absent
      have found := (drained.sound.journals.lookup_iff id journal).2 mem
      have key := (drained.sound.journal _ _ found).key
      have listed' : journal.trade ∈ m.unreported session.sessionId := by
        refine List.mem_map.2 ⟨(id, journal), List.mem_filter.2 ⟨mem, ?_⟩, rfl⟩
        have before : m.results.get id = none := by
          by_contra recorded
          have later := stay id (Option.isSome_iff_ne_none.2 recorded)
          rw [absent] at later
          cases later
        simp [own, terminal, before]
      have recorded := each _ listed'
      rw [key, absent] at recorded
      cases recorded

end Draining

section Samples

/-- The session of the sample trade. -/
abbrev sampleSession : SimulationSession := sampleTrade.admission.session

/-- The repository after the sample trade was entered and one bar, closed at 19, was
processed before the exit that it prepared had arrived. -/
def sampleLeft : Repository Content := sampleStopped 19 21

/-- The repository after a second bar, closed at 24, was processed past its own arrival. -/
def sampleOvertaken : Repository Content :=
  ((processClosedBar id sampleIds sampleTrade (stopBar 24) 35).run (Repository.answer id) sampleLeft).2

theorem sampleLeft_run :
    SessionRun id sampleIds id sampleSession 21 [(sampleTrade, stopBar 19)] sampleLeft := by
  have started : SessionRun id sampleIds id sampleSession 0 [] _ :=
    .started (.start [sampleFrame 1 .ADMITTED]) sampleTrade.admission rfl 10
  have entered : SessionRun id sampleIds id sampleSession 15 [] _ :=
    .submitted started sampleTrade
      ⟨⟨sampleTrade, .PENDING, [rootEvent sampleTrade]⟩, by decide +kernel, rfl⟩ 15 (by decide)
      (reaches_run _ _)
  exact .processed entered sampleTrade (stopBar 19) 21 (by decide) (by decide) (fun _ mem => nomatch mem)
    (reaches_run _ _)

theorem sampleOvertaken_run : SessionRun id sampleIds id sampleSession 35
    [(sampleTrade, stopBar 24), (sampleTrade, stopBar 19)] sampleOvertaken := by
  refine .processed sampleLeft_run sampleTrade (stopBar 24) 35 (by decide) (by decide) ?_ (reaches_run _ _)
  intro earlier mem _
  cases List.mem_singleton.1 mem
  decide

/-- The second exit of a trade has left the first one prepared and its trade flat; the
first one has arrived, and recovery raises. -/
theorem overtaken_exit_blocks : ∃ now bars r,
    SessionRun id sampleIds id sampleSession now bars (r : Repository Content) ∧ now ≤ 40 ∧
      (r.journals.get "trade").map (·.state) = some .FLAT ∧ r.pending "S" ≠ [] ∧
      (∀ c ∈ r.pending "S", c.arrivalAtMs ≤ 40) ∧
      ((recoverPrepared id "S" 40).run (Repository.answer id) r).1 = .error (.model
        (.identity "new command arrival predates an already processed terminal command")) := by
  refine ⟨35, _, sampleOvertaken, sampleOvertaken_run, by decide, ?_, ?_, ?_, ?_⟩
  · decide +kernel
  · decide +kernel
  · decide +kernel
  · decide +kernel

/-- A recovery that returned left nothing to evaluate and nothing to report. -/
def leavesNothing {α Digest : Type} (ran : Except Failure α × Repository Digest) : Bool :=
  match ran with
  | (.ok _, r) => decide (r.pending "S" = []) && decide (r.unreported "S" = [])
  | _ => false

/-- Where no other exit came first, the prepared one can be drained, and is. -/
theorem recovery_drains_sample : sampleLeft.pending "S" ≠ [] ∧
    Drainable sampleSession sampleLeft 40 (sampleLeft.pending "S") := by
  refine ⟨by decide +kernel, ?_⟩
  refine (recovery_drains (fun _ => .refl _) sampleLeft_run (by decide) (by decide +kernel)).1 ?_
  have drained : leavesNothing ((recoverPrepared id "S" 40).run (Repository.answer id) sampleLeft) =
      true := by decide +kernel
  unfold leavesNothing at drained
  split at drained
  · rename_i outcomes r' ran
    simp only [Bool.and_eq_true, decide_eq_true_eq] at drained
    exact ⟨outcomes, r', ran, drained⟩
  · cases drained

end Samples

end KairosExecution.Simulation
