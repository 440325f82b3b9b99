import KairosExecution.Simulation.Ledger

/-! Runs of the controller over the trades of one session, by one clock that never goes
back. The bars of a trade come in the order of their closes and not before they closed;
a call may be cut at any write. Every repository that such a run leads to is a sound
ledger of the session. -/

namespace KairosExecution.Simulation

open Python Interactive

variable {Digest : Type} [DecidableEq Digest]

/-- The repositories of a session, by its clock and with the bars handed in so far. -/
inductive SessionRun (sha : Content → Digest) (ids : Ids)
    (order : List SimulationCommand → List SimulationCommand) (session : SimulationSession) :
    ℕ → List (SimulationTrade × ClosedBar) → Repository Digest → Prop
  | start (frames : List AcceptedBookFrame) : SessionRun sha ids order session 0 [] { frames }
  | started {now : ℕ} {bars : List (SimulationTrade × ClosedBar)} {r : Repository Digest}
      (before : SessionRun sha ids order session now bars r) (admission : SimulationAdmission)
      (own : admission.session = session) (createdAtMs : ℕ) :
      SessionRun sha ids order session now bars
        ((startTrade ids admission createdAtMs).run (Repository.answer order) r).2
  | submitted {now : ℕ} {bars : List (SimulationTrade × ClosedBar)} {r r' : Repository Digest}
      (before : SessionRun sha ids order session now bars r) (trade : SimulationTrade)
      (started : ∃ journal, HasJournal r trade journal) (asOfMs : ℕ) (clock : now ≤ asOfMs)
      (reach : Reaches (Repository.answer order) (submitEntry sha ids trade asOfMs) r r') :
      SessionRun sha ids order session asOfMs bars r'
  | processed {now : ℕ} {bars : List (SimulationTrade × ClosedBar)} {r r' : Repository Digest}
      (before : SessionRun sha ids order session now bars r) (trade : SimulationTrade)
      (bar : ClosedBar) (asOfMs : ℕ) (clock : now ≤ asOfMs) (closed : bar.closeTimeMs + 1 ≤ asOfMs)
      (ascending : ∀ earlier ∈ bars, earlier.1 = trade → earlier.2.closeTimeMs < bar.closeTimeMs)
      (reach : Reaches (Repository.answer order) (processClosedBar sha ids trade bar asOfMs) r r') :
      SessionRun sha ids order session asOfMs ((trade, bar) :: bars) r'
  | recovered {now : ℕ} {bars : List (SimulationTrade × ClosedBar)} {r r' : Repository Digest}
      (before : SessionRun sha ids order session now bars r) (asOfMs : ℕ) (clock : now ≤ asOfMs)
      (reach : Reaches (Repository.answer order) (recoverPrepared sha session.sessionId asOfMs) r r') :
      SessionRun sha ids order session asOfMs bars r'

variable {sha : Content → Digest} {ids : Ids} {session : SimulationSession} {now asOfMs : ℕ}
  {order : List SimulationCommand → List SimulationCommand} {r : Repository Digest}
  {bars : List (SimulationTrade × ClosedBar)}

/-- Completing commands and recording results by the clock keeps the ledger. -/
theorem sound_stable : Stable sha order asOfMs (Sound sha ids session asOfMs : Repository Digest → Prop) where
  complete r command journal receipt state event sound stored own evaluated built := by
    obtain ⟨transition, kept⟩ := sound.complete (le_refl _) stored own evaluated built
    rw [sound.complete_eq receipt stored own transition.next]
    exact kept
  record r trade journal result sound own terminal ran :=
    sound.record own terminal (resultOf_tradeId ran)

/-- An active trade has all that its entry filled. -/
theorem Sound.remaining {trade : SimulationTrade} {journal : TradeJournal Digest}
    (sound : Sound sha ids session now r) (own : HasJournal r trade journal)
    (active : journal.state = .ACTIVE) : remainingQuantity journal = entryFilledQuantity journal := by
  have fills := (sound.journalOf own).fills
  rw [active] at fills
  have exited : journal.events.filter (·.eventType.exitFill) = [] := by
    generalize journal.events.filter (·.eventType.entryFill) = entries at fills
    generalize journal.events.filter (·.eventType.exitFill) = exits at fills ⊢
    cases fills
    rfl
  simp [remainingQuantity, exitFilledQuantity, exited]

theorem Sound.submitted {trade : SimulationTrade} {r' : Repository Digest}
    (sound : Sound sha ids session asOfMs r) (started : ∃ journal, HasJournal r trade journal)
    (reach : Reaches (Repository.answer order) (submitEntry sha ids trade asOfMs) r r') :
    Sound sha ids session asOfMs r' := by
  obtain ⟨journal, own⟩ := started
  refine (submitEntry_keeps sound_stable sound fun command built => ?_).reaches reach
  obtain ⟨trade', kind, -⟩ := buildCommand_ok built
  have entered : HasJournal r command.trade journal := by
    rw [trade']
    exact own
  refine sound.prepare (fun _ => ?_) entered (fun _ absent => ?_) fun exit => absurd kind exit
  · rw [trade']
    exact built
  · -- a trade that is past its entry has the entry command
    by_contra apart
    have stored := sound.entered _ journal own.1 apart command (by rw [own.2]; exact built)
    rw [absent] at stored
    cases stored

theorem Sound.processed {trade : SimulationTrade} {bar : ClosedBar} {r' : Repository Digest}
    (sound : Sound sha ids session asOfMs r)
    (reach : Reaches (Repository.answer order) (processClosedBar sha ids trade bar asOfMs) r r') :
    Sound sha ids session asOfMs r' := by
  refine (processClosedBar_keeps sound_stable sound ?_ ?_).reaches reach
  · intro journal processed event id number type from' to' _
    refine sound.mark processed.own processed.active ⟨id, number, ?_⟩ type to'
    rw [from', processed.active]
  · intro journal command processed _ called
    obtain ⟨trade', exit, quantity, -⟩ := barExit_ok called
    have own : HasJournal r command.trade journal := by
      rw [trade']
      exact processed.own
    refine sound.prepare (fun kind => absurd kind exit) own (fun kind => absurd kind exit)
      fun _ => ⟨?_, ?_⟩
    · rw [processed.active]
      nofun
    · rw [quantity, sound.remaining processed.own processed.active, FloatContract.exact_value]

/-- The listed commands of a session stand prepared. -/
theorem Sound.listed (sound : Sound sha ids session now r) {sessionId : String}
    {command : SimulationCommand} (mem : command ∈ r.pending sessionId) :
    r.prepared.get command.commandId = some ⟨command, false⟩ := by
  obtain ⟨⟨id, current⟩, stored, rfl⟩ := List.mem_map.1 mem
  obtain ⟨stored, kept⟩ := List.mem_filter.1 stored
  have found : r.prepared.get id = some current := (sound.prepared.lookup_iff id current).2 stored
  rw [(sound.command id current found).key, found]
  simp only [Bool.and_eq_true, Bool.not_eq_true'] at kept
  obtain ⟨command, completed⟩ := current
  obtain ⟨rfl, -⟩ := kept
  rfl

/-- The ledger with some commands that stay prepared or completed. -/
def Standing (sha : Content → Digest) (ids : Ids) (session : SimulationSession) (now : ℕ)
    (commands : List SimulationCommand) (r : Repository Digest) : Prop :=
  Sound sha ids session now r ∧ ∀ command ∈ commands, ∃ completed,
    r.prepared.get command.commandId = some ⟨command, completed⟩

theorem standing_stable (commands : List SimulationCommand) :
    Stable sha order asOfMs
      (Standing sha ids session asOfMs commands : Repository Digest → Prop) where
  complete r command journal receipt state event standing stored own evaluated built := by
    obtain ⟨sound, stands⟩ := standing
    obtain ⟨transition, kept⟩ := sound.complete (le_refl _) stored own evaluated built
    rw [sound.complete_eq receipt stored own transition.next]
    refine ⟨kept, fun listed mem => ?_⟩
    obtain ⟨completed, found⟩ := stands listed mem
    show ∃ completed, (r.prepared.set command.commandId ⟨command, true⟩).get listed.commandId = _
    rw [Dict.get_set]
    split
    · rename_i same
      rw [same, stored] at found
      cases found
      exact ⟨true, rfl⟩
    · exact ⟨completed, found⟩
  record r trade journal result standing own terminal ran := by
    refine ⟨standing.1.record own terminal (resultOf_tradeId ran), ?_⟩
    rcases recordResult_snd r result with same | ⟨-, new⟩
    · rw [same]
      exact standing.2
    · rw [new]
      exact standing.2

theorem Sound.recovered {r' : Repository Digest} (listed : ∀ commands, (order commands).Perm commands)
    (sound : Sound sha ids session asOfMs r)
    (reach : Reaches (Repository.answer order) (recoverPrepared sha session.sessionId asOfMs) r r') :
    Sound sha ids session asOfMs r' := by
  have stands : Standing sha ids session asOfMs (order (r.pending session.sessionId)) r :=
    ⟨sound, fun command mem => ⟨false, sound.listed ((listed _).subset mem)⟩⟩
  refine ((recoverPrepared_keeps (standing_stable _) (fun s command holds mem => ?_) _
    (fun _ mem => mem) stands).reaches reach).1
  obtain ⟨completed, stored⟩ := holds.2 command mem
  rw [prepareCommand_stored stored]
  exact holds

/-- Every repository of a session is a sound ledger of it. -/
theorem SessionRun.sound (listed : ∀ commands, (order commands).Perm commands)
    (run : SessionRun sha ids order session now bars r) : Sound sha ids session now r := by
  induction run with
  | start frames => exact sound_start frames
  | started _ admission own createdAtMs ih => exact ih.startTrade own createdAtMs
  | submitted _ trade started asOfMs clock reach ih => exact (ih.later clock).submitted started reach
  | processed _ trade bar asOfMs clock _ _ reach ih => exact (ih.later clock).processed reach
  | recovered _ asOfMs clock reach ih => exact (ih.later clock).recovered listed reach

end KairosExecution.Simulation
