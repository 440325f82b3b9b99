import KairosExecution.Paper.Duty.Exit

/-! Protection and reconciliation meet the duty. A trade is brought forward from a
record and a snapshot of the same call: the snapshot stays the last one until the trade
moves, which is what a triggered exit and a cancellation rely on. -/

namespace KairosExecution.Paper

open Python Interactive Interactive.Program

variable {env : Env} {handled : Option Decision} {h : EngineHistory}

section Protect

theorem reconcileProtection_meets {decision : Decision} {trade : TradeRecord}
    {block : ProtectionBlock} {effectId exchangeId : String} {spec : FactSpec} {patch : TradePatch}
    (plain : block.reconciledState = .PROTECTING ∨ block.reconciledState = .ACTIVE) :
    Meets (Justified env handled)
      (reconcileProtection env decision trade block effectId exchangeId spec patch) h
      fun moved h' => Known moved.1.trade h' := by
  refine .ask_bind trivial fun record => ?_
  cases record with
  | none => exact .raise
  | some record =>
    refine .lift_bind fun _ _ => .ask_bind trivial fun _ => ?_
    exact .mono (plainTransition_meets (by tauto)) fun _ _ _ done => done.known

/-- Wherever a protection block ends, its trade is one the repository has shown. -/
theorem armProtection_meets {decision : Decision} {trade : TradeRecord} {block : ProtectionBlock}
    (plain : block.reconciledState = .PROTECTING ∨ block.reconciledState = .ACTIVE)
    (protection : block.role.manual = false) (known : Known trade h)
    (past : trade.state.pastEntry) :
    Meets (Justified env handled) (armProtection env decision trade block) h
      fun p h' => Known p.trade.1 h' ∧ p.trade.1.state.pastEntry := by
  have create : Dutifully env handled (do
      let response ← tpslEffect env trade (env.effectId trade.tradeId block.role .create)
        (env.clientId trade.tradeId block.role decision.decidedAtMs) block.role (block.price trade)
      check (requiredText env.lib (response.get "id") block.idField)) h :=
    .bind (tpslEffect_meets ⟨_, _, _, rfl⟩ protection) fun _ _ _ _ => .lift fun _ _ => trivial
  refine .attempt_bind create (fun exchangeId h₁ hs₁ _ => ?_)
    fun exc h₁ hs₁ => .pure ⟨known.mono hs₁, past⟩
  refine .attempt_bind (plainTransition_meets (by tauto)) ?_
    fun exc h₂ hs₂ => .pure ⟨known.mono (hs₁.trans hs₂), past⟩
  rintro ⟨created, kept, state₂⟩ h₂ hs₂ done
  have past₂ : created.trade.state.pastEntry := by
    rw [state₂]
    rfl
  refine .attempt_bind (reconcileProtection_meets plain) ?_
    fun exc h₃ hs₃ => .pure ⟨done.known.mono hs₃, past₂⟩
  rintro ⟨reconciled, same, state₃⟩ h₃ hs₃ known₃
  refine .pure ⟨known₃, ?_⟩
  show reconciled.trade.state.pastEntry
  rw [state₃]
  rcases plain with eq | eq <;> rw [eq] <;> rfl

theorem protect_meets {decision : Decision} {trade : TradeRecord} (known : Known trade h)
    (past : trade.state.pastEntry) : Dutifully env handled (protect env decision trade) h := by
  refine .bind (armProtection_meets (.inl rfl) rfl known past) ?_
  rintro ⟨⟨trade₁, own₁⟩, events, failure⟩ h₁ - ⟨known₁, past₁⟩
  cases failure with
  | some exc => exact .bind (emergencyClose_meets known₁ past₁) fun _ _ _ _ => .pure trivial
  | none =>
    refine .bind (armProtection_meets (.inr rfl) rfl known₁ past₁) ?_
    rintro ⟨⟨trade₂, own₂⟩, later, failure⟩ h₂ - ⟨known₂, past₂⟩
    cases failure with
    | some exc => exact .bind (emergencyClose_meets known₂ past₂) fun _ _ _ _ => .pure trivial
    | none => exact .pure trivial

end Protect

section Effects

theorem reconcileFound_meets {effect : ExecutionEffect} {record : Record} :
    Dutifully env handled (reconcileFound env effect record) h := by
  refine .bind (Q := fun _ _ => True) ?_ fun _ _ _ _ => .ask_bind trivial fun _ => .pure trivial
  unfold validateRecoveredEntryEffect
  split
  · refine .ask_bind trivial fun trade => ?_
    cases trade with
    | none => exact .raise
    | some trade => exact .lift_bind fun _ _ => .lift_bind fun _ _ => .pure trivial
  · exact .raise

theorem reconcilePlaceOrder_meets {effect : ExecutionEffect} {venue : Venue} :
    Dutifully env handled (reconcilePlaceOrder env effect venue) h := by
  refine .lift_bind fun active _ => .lift_bind fun historical _ => .lift_bind fun quantity _ => ?_
  cases active with
  | some record => exact reconcileFound_meets
  | none => cases historical with
    | some record => exact reconcileFound_meets
    | none =>
      dsimp only
      split
      · exact .ask_bind trivial fun _ => .pure trivial
      · exact .raise

theorem reconcileProtectionCreate_meets {effect : ExecutionEffect} {venue : Venue} :
    Dutifully env handled (reconcileProtectionCreate env effect venue) h := by
  refine .lift_bind fun tpslType _ => .lift_bind fun price _ => .lift_bind fun parent _ => ?_
  refine .lift_bind fun found _ => ?_
  cases found with
  | none =>
    refine .lift_bind fun quantity _ => ?_
    split
    · exact .raise
    · exact .raise
  | some found =>
    refine .lift_bind fun quantity _ => .lift_bind fun _ _ => .lift_bind fun _ _ => ?_
    refine .lift_bind fun _ _ => .lift_bind fun _ _ => .lift_bind fun _ _ => ?_
    refine .ask_bind trivial fun _ => ?_
    dsimp only
    split
    · exact .pure trivial
    · cases effect.tradeId with
      | none => exact .raise
      | some tradeId =>
        refine .ask_bind trivial fun trade => ?_
        cases trade with
        | none => exact .raise
        | some trade => exact cancelRemainingProtection_meets

theorem reconcileEffect_meets {effect : ExecutionEffect} {venue : Venue} :
    Dutifully env handled (reconcileEffect env effect venue) h := by
  unfold reconcileEffect
  split
  · exact .raise
  split
  · exact reconcilePlaceOrder_meets
  · exact reconcileProtectionCreate_meets
  · exact reconcileProtectionCreate_meets
  · refine .lift_bind fun entry _ => ?_
    split
    · exact .ask_bind trivial fun _ => .pure trivial
    · exact .raise
  · refine .lift_bind fun id _ => .lift_bind fun record _ => .lift_bind fun _ _ => ?_
    split
    · exact .raise
    · exact .ask_bind trivial fun _ => .pure trivial
  · refine .lift_bind fun quantity _ => ?_
    split
    · exact .ask_bind trivial fun _ => .pure trivial
    · exact .raise
  · refine .lift_bind fun quantity _ => ?_
    split
    · exact .ask_bind trivial fun _ => .pure trivial
    · exact .raise
  · refine .lift_bind fun quantity _ => ?_
    split
    · exact .ask_bind trivial fun _ => .pure trivial
    · exact .raise
  · exact .raise

/-- Taking and giving back a lock owes nothing. -/
theorem withLock_meets {α : Type} {lock : Lock} {body : Engine α}
    (m : ∀ h', Dutifully env handled body h') : Dutifully env handled (withLock lock body) h :=
  .bracket (P := fun _ => True) (.ask trivial fun _ => trivial) (fun h' _ _ => m h')
    fun _ _ _ _ => .ask trivial fun _ _ _ => trivial

theorem recoverEffectLocked_meets {effect : ExecutionEffect} :
    Dutifully env handled (recoverEffectLocked env effect) h := by
  refine withLock_meets fun h' => .ask_bind trivial fun current => ?_
  cases current with
  | none => exact .pure trivial
  | some current =>
    dsimp only
    split
    · exact .ask_bind trivial fun venue => reconcileEffect_meets
    · exact .pure trivial

end Effects

section Trades

/-- A record and a snapshot of the same call, with nothing between that could part them. -/
structure Ready (env : Env) (trade : TradeRecord) (venue : Venue) (h : EngineHistory) : Prop where
  known : Known trade h
  fresh : Lately Call.calm (read venue) h
  received : trade.state = .RECEIVED → Untouched trade.tradeId h

theorem Untouched.silent {tradeId : String} {t : EngineHistory} (untouched : Untouched tradeId h)
    (ht : ∀ e ∈ t, e.call.silent) : Untouched tradeId (t ++ h) := by
  obtain ⟨e, record, since, rest⟩ := untouched
  exact ⟨e, record, since.append ht, rest⟩

theorem Ready.calm {trade : TradeRecord} {venue : Venue} {t : EngineHistory}
    (ready : Ready env trade venue h) (ht : ∀ e ∈ t, e.call.calm) :
    Ready env trade venue (t ++ h) where
  known := ready.known.mono (List.suffix_append t h)
  fresh := ready.fresh.append ht
  received state := (ready.received state).silent fun e he => Call.silent_of_calm (ht e he)

/-- All calls of `p` leave the last snapshot the one that describes the trade. -/
abbrev Calm {α : Type} (p : Engine α) : Prop := Calls (fun c : Call => c.calm = true) p

theorem calm_of_bookkeeps {α : Type} {p : Engine α} (m : Bookkeeps p) : Calm p :=
  m.mono fun _ h => Call.calm_of_inert (Call.inert_of_bookkeeping h)

theorem cancelling_calm {decision : Decision} {trade : TradeRecord} {journal : String}
    {event : EventType} {spec : FactSpec} {patch : TradePatch} :
    Calm (transitionWithEvent env decision trade .CANCELLED journal event spec patch) := by
  refine .bind (calm_of_bookkeeps (eventSpec_calls env _ _ _ _ _ _)) fun fact => ?_
  exact .bind (.ask rfl) fun stored => .ask rfl

theorem recoverPreMutationGap_calm {trade : TradeRecord} {venue : Venue} :
    Calm (recoverPreMutationGap env trade venue) := by
  refine .bind .lift fun decision => ?_
  dsimp only
  split
  · exact .bind cancelling_calm fun _ => .pure
  · refine .bind (.ask rfl) fun placement => ?_
    cases placement with
    | some placement => exact .pure
    | none =>
      refine .bind .lift fun exposed => .bind .lift fun _ => ?_
      exact .bind cancelling_calm fun _ => .pure
  · exact .pure

/-- A gap is closed only before anything was sent: for a received trade nothing was yet,
and for a pending one the journal row that would precede it does not exist. -/
theorem recoverPreMutationGap_meets {trade : TradeRecord} {venue : Venue}
    (ready : Ready env trade venue h) :
    Dutifully env handled (recoverPreMutationGap env trade venue) h := by
  refine .lift_bind fun decision _ => ?_
  dsimp only
  split
  · rename_i received
    exact .bind (transitionWithEvent_meets (.untouched (ready.received received)))
      fun _ _ _ _ => .pure trivial
  · refine .ask_bind trivial fun placement => ?_
    cases placement with
    | some placement => exact .pure trivial
    | none =>
      refine .lift_bind fun exposed _ => .lift_bind fun _ _ => ?_
      exact .bind (transitionWithEvent_meets (.unprepared .here)) fun _ _ _ _ => .pure trivial
  · exact .pure trivial

theorem recordCumulativeFill_meets {decision : Decision} {trade : TradeRecord} {venue : Venue}
    {position : ℚ} (known : Known trade h)
    (exposed : trade.state = .PROTECTING ∨ trade.state = .ACTIVE) :
    Meets (Justified env handled) (recordCumulativeFill env decision trade venue position) h
      fun result h' => Known result.1.1 h' ∧ result.1.1.state = trade.state := by
  refine .lift_bind fun _ _ => ?_
  split
  · exact .pure ⟨known, rfl⟩
  · refine .lift_bind fun openOrder _ => .lift_bind fun source _ => .lift_bind fun average _ => ?_
    refine .lift_bind fun details _ => .bind (plainTransition_meets (by tauto)) ?_
    intro moved h₁ _ done
    exact .pure ⟨done.known, moved.2.2⟩

/-- Where the position is gone there is no fill to record, and nothing is called. -/
theorem recordOpenFill_meets {decision : Decision} {trade : TradeRecord} {venue : Venue}
    {position : ℚ} (known : Known trade h)
    (exposed : trade.state = .PROTECTING ∨ trade.state = .ACTIVE) :
    Meets (Justified env handled) (recordOpenFill env decision trade venue position) h
      fun result h' => Known result.1.1 h' ∧ result.1.1.state = trade.state ∧
        (position ≤ 0 → h' = h) := by
  unfold recordOpenFill
  split
  · rename_i positive
    refine .mono (recordCumulativeFill_meets known exposed) fun result h' _ ⟨known, state⟩ => ?_
    exact ⟨known, state, fun le => absurd positive (not_lt.2 le)⟩
  · exact .pure ⟨known, rfl, fun _ => rfl⟩

/-- A leg proves the exit into its own state. -/
theorem provenLeg_state {trade : TradeRecord} {venue : Venue} {records : List Record}
    {leg : ProtectionLeg} {exit : VenueTriggeredExit}
    (h : provenLeg env trade venue records leg = .ok (some exit)) :
    exit.targetState = leg.exitState := by
  unfold provenLeg at h
  split at h
  · cases h
  · obtain ⟨authoritative, -, h⟩ := bind_eq_ok.1 h
    dsimp only at h
    split at h
    · cases h
    obtain ⟨venueSymbol, -, h⟩ := bind_eq_ok.1 h
    obtain ⟨terminal, -, h⟩ := bind_eq_ok.1 h
    split at h
    · cases h
    obtain ⟨ids, -, h⟩ := bind_eq_ok.1 h
    obtain ⟨id, -, h⟩ := bind_eq_ok.1 h
    obtain ⟨quantities, -, h⟩ := bind_eq_ok.1 h
    obtain ⟨quantity, -, h⟩ := bind_eq_ok.1 h
    obtain ⟨-, -, h⟩ := bind_eq_ok.1 h
    obtain ⟨-, -, h⟩ := bind_eq_ok.1 h
    obtain ⟨order, -, h⟩ := bind_eq_ok.1 h
    split at h
    · obtain ⟨facts, -, h⟩ := bind_eq_ok.1 h
      cases h
      rfl
    · cases h

theorem classifyFlatExit_state {trade : TradeRecord} {venue : Venue} {events : List Record}
    {exit : VenueTriggeredExit} (h : classifyFlatExit env trade venue events = .ok exit) :
    exit.targetState = .EXITING_STOP ∨ exit.targetState = .EXITING_TARGET := by
  obtain ⟨triggered, proven, h⟩ := bind_eq_ok.1 h
  obtain ⟨stop, hs, proven⟩ := bind_eq_ok.1 proven
  obtain ⟨target, ht, proven⟩ := bind_eq_ok.1 proven
  split at h
  · cases h
    split at proven
    · cases proven
    · cases proven
      exact .inl (provenLeg_state hs)
    · cases proven
      exact .inr (provenLeg_state ht)
    · cases proven
  · cases h

/-- A position that is gone while the trade is past its entry may be a triggered exit. -/
theorem closeTriggered_meets {decision : Decision} {trade : TradeRecord} {venue : Venue}
    {sidecarEvents : List Record} (ev : TriggerEvidence env trade.tradeId h) :
    Dutifully env handled (closeTriggered env decision trade venue sidecarEvents) h := by
  refine .lift_bind fun attribution classified => ?_
  have state := classifyFlatExit_state classified
  have evidence : TransitionEvidence env trade.tradeId attribution.targetState h := by
    rcases state with eq | eq <;> rw [eq] <;> exact ev
  refine .bind (transitionVenueExit_meets evidence) fun moved h₁ _ done => ?_
  obtain ⟨move, result, t, rfl, -, own, target, same⟩ := done
  have exit : move.target.triggered := by
    rw [target]
    rcases state with eq | eq <;> rw [eq] <;> rfl
  have finishable : Finishable env moved.1.trade.tradeId attribution.role
      (answered (.transition move) result :: (t ++ h)) := by
    rw [moved.2.1]
    exact .inl (.triggered move result List.mem_cons_self own exit)
  exact .bind (finishVenueExit_meets finishable) fun _ _ _ _ => .pure trivial

theorem reconcileExcess_meets {decision : Decision} {trade : TradeRecord} {position : ℚ}
    (known : Known trade h) :
    Dutifully env handled (reconcileExcess env decision trade position) h := by
  have protecting : Meets (Justified env handled) (protectExcess env decision trade position) h
      fun result h' => Known result.1 h' := by
    unfold protectExcess
    split
    · exact .bind (plainTransition_meets (by tauto)) fun _ _ _ done => .pure done.known
    · exact .pure known
  refine .bind protecting fun trade₁ h₁ _ known₁ => ?_
  obtain ⟨trade₁, own₁⟩ := trade₁
  dsimp only
  split
  · rename_i exposed
    refine emergencyClose_meets known₁ ?_
    rcases exposed with eq | eq <;> rw [eq] <;> rfl
  · exact .raise

theorem reconcileFirstFill_meets {decision : Decision} {now : ℤ} {trade : TradeRecord}
    {venue : Venue} {entry : Option Record} {position : ℚ} :
    Dutifully env handled (reconcileFirstFill env decision now trade venue entry position) h := by
  refine .lift_bind fun source _ => .lift_bind fun _ _ => .lift_bind fun averagePrice _ => ?_
  refine .lift_bind fun details _ => .lift_bind fun firstFillAt _ => ?_
  refine .bind (plainTransition_meets (by tauto)) fun moved h₁ _ done => ?_
  have past : moved.1.trade.state.pastEntry := by
    rw [moved.2.2]
    rfl
  exact .bind (protect_meets done.known past) fun _ _ _ _ => .pure trivial

/-- What a snapshot must show before an absent entry may be given up. -/
structure AbsentIn (env : Env) (decision : Decision) (tradeId : String) (venue : Venue)
    (h : EngineHistory) : Prop where
  fresh : Lately Call.calm (read venue) h
  flat : FlatIn env tradeId venue h
  gone : GoneIn env tradeId venue h
  of : Shown tradeId (DecisionOf env decision) h

theorem reconcileAbsentEntry_meets {decision : Decision} {trade : TradeRecord} {venue : Venue}
    (known : Known trade h) (absent : AbsentIn env decision trade.tradeId venue h) :
    Dutifully env handled (reconcileAbsentEntry env decision trade venue) h := by
  refine .ask_bind trivial fun placement => ?_
  have suffix : h <:+ answered (.getEffect (env.effectId trade.tradeId .ENTRY .place)) placement :: h :=
    List.suffix_cons _ _
  have last := (absent.fresh.mono fun _ => Call.blind_of_calm).cons
    (x := answered (.getEffect (env.effectId trade.tradeId .ENTRY .place)) placement) rfl
  dsimp only
  split
  · rename_i mark
    cases placement with
    | none => cases mark
    | some effect =>
      have ev : CancelEvidence env trade.tradeId _ :=
        .marked venue last (absent.flat.mono suffix) (absent.gone.mono suffix) effect
          List.mem_cons_self mark
      exact .bind (transitionWithEvent_meets ev) fun _ _ _ _ => .pure trivial
  · refine .lift_bind fun historical found => ?_
    cases historical with
    | none => exact .ask_bind trivial fun _ => .pure trivial
    | some historical =>
      refine .lift_bind fun fill valid => .lift_bind fun _ unfilled => .lift_bind fun _ _ => ?_
      have history : HistoryUnfilled env decision venue trade.entryClientOrderId := by
        refine ⟨some historical, found, fun record eq => ?_⟩
        cases eq
        exact ⟨fill, valid, by simpa using unfilled⟩
      have ev : CancelEvidence env trade.tradeId _ :=
        .clean venue last (absent.flat.mono suffix) (absent.gone.mono suffix)
          ⟨decision, absent.of.mono suffix, (known.mono suffix).shown rfl history⟩
      exact .bind (transitionWithEvent_meets ev) fun _ _ _ _ => .pure trivial

/-- What was read of the position and the entry, in a snapshot that still describes them. -/
structure Seen (env : Env) (decision : Decision) (tradeId : String) (venue : Venue)
    (entry : Option Record) (position : ℚ) (h : EngineHistory) : Prop where
  fresh : Lately Call.calm (read venue) h
  flat : position ≤ 0 → FlatIn env tradeId venue h
  gone : entry = none → GoneIn env tradeId venue h
  readable : EntryReadable env tradeId venue h
  of : Shown tradeId (DecisionOf env decision) h

/-- The recursive call of `_reconcile_trade`, as its caller relies on it. -/
abbrev AgainMeets (env : Env) (handled : Option Decision)
    (again : TradeRecord → Venue → Engine (List ExecutionEvent)) : Prop :=
  ∀ trade venue h, Ready env trade venue h → Dutifully env handled (again trade venue) h

theorem reconcilePending_meets {again : TradeRecord → Venue → Engine (List ExecutionEvent)}
    (recursion : AgainMeets env handled again) {decision : Decision} {now : ℤ}
    {trade : TradeRecord} {venue : Venue} {entry : Option Record} {position : ℚ}
    (known : Known trade h) (pending : trade.state = .ENTRY_PENDING)
    (seen : Seen env decision trade.tradeId venue entry position h) :
    Dutifully env handled
      (reconcilePending env again decision now trade venue entry position) h := by
  unfold reconcilePending
  split
  · exact reconcileFirstFill_meets
  rename_i closed
  split
  · rename_i unlisted
    exact reconcileAbsentEntry_meets known
      ⟨seen.fresh, seen.flat (not_lt.1 closed), seen.gone (by simpa using unlisted), seen.of⟩
  split
  · refine .bind cancelEntryEffect_meets fun _ h₁ hs₁ _ => .ask_bind trivial fun venue₁ => ?_
    refine .lift_bind fun entry₁ found => .lift_bind fun _ unlisted => ?_
    refine .lift_bind fun position₁ measured => ?_
    have suffix : h <:+ read venue₁ :: h₁ := hs₁.trans (List.suffix_cons _ _)
    have known₁ := known.mono suffix
    split
    · refine recursion _ _ _ ⟨known₁, .here, fun received => ?_⟩
      rw [pending] at received
      cases received
    · rename_i closed₁
      have absent : entry₁ = none := by simpa using unlisted
      rw [absent] at found
      exact reconcileAbsentEntry_meets known₁
        ⟨.here, known₁.shown rfl (showsFlat_of_quantity measured (not_lt.1 closed₁)),
          known₁.shown rfl found, seen.of.mono suffix⟩
  · exact .ask_bind trivial fun _ => .pure trivial

theorem reconcileProtecting_meets {decision : Decision} {trade : TradeRecord} {venue : Venue}
    {sidecarEvents : List Record} {entry : Option Record} {position : ℚ} (known : Known trade h)
    (protecting : trade.state = .PROTECTING)
    (seen : Seen env decision trade.tradeId venue entry position h) :
    Dutifully env handled
      (reconcileProtecting env decision trade venue sidecarEvents position) h := by
  have past : trade.state.pastEntry := by
    rw [protecting]
    rfl
  unfold reconcileProtecting
  split
  · exact closeTriggered_meets ⟨venue, seen.fresh, known.shown rfl past, seen.flat ‹_›,
      seen.readable⟩
  · refine .bind (recordCumulativeFill_meets known (.inl protecting)) ?_
    rintro ⟨⟨trade₁, own₁⟩, events⟩ h₁ - ⟨known₁, state₁⟩
    refine .bind (protect_meets known₁ ?_) fun _ _ _ _ => .pure trivial
    show trade₁.state.pastEntry
    rw [state₁]
    exact past

theorem reconcileHolding_meets {decision : Decision} {now : ℤ} {trade : TradeRecord}
    {venue : Venue} {events : List ExecutionEvent} :
    Dutifully env handled (reconcileHolding env decision now trade venue events) h := by
  refine .lift_bind fun stop _ => .lift_bind fun target _ => ?_
  refine .lift_bind fun _ _ => .lift_bind fun _ _ => ?_
  cases trade.timeoutAt with
  | none => exact .raise
  | some timeoutAt =>
    dsimp only
    split
    · exact .bind timeoutClose_meets fun _ _ _ _ => .pure trivial
    · exact .ask_bind trivial fun _ => .pure trivial

theorem reconcileActive_meets {decision : Decision} {now : ℤ} {trade : TradeRecord}
    {venue : Venue} {sidecarEvents : List Record} {entry : Option Record} {position : ℚ}
    (known : Known trade h) (active : trade.state = .ACTIVE)
    (seen : Seen env decision trade.tradeId venue entry position h) :
    Dutifully env handled
      (reconcileActive env decision now trade venue sidecarEvents entry position) h := by
  refine .bind (recordOpenFill_meets known (.inr active)) ?_
  rintro ⟨⟨trade₁, own₁⟩, events⟩ h₁ - ⟨known₁, state₁, quiet₁⟩
  have active₁ : trade₁.state = .ACTIVE := state₁.trans active
  have past₁ : trade₁.state.pastEntry := by
    rw [active₁]
    rfl
  dsimp only
  split
  · refine .bind cancelEntryEffect_meets fun _ h₂ hs₂ _ => .ask_bind trivial fun venue₂ => ?_
    refine .lift_bind fun entry₂ found => .lift_bind fun _ _ => ?_
    refine .lift_bind fun position₂ measured => ?_
    have known₂ : Known trade₁ (read venue₂ :: h₂) :=
      known₁.mono (hs₂.trans (List.suffix_cons _ _))
    refine .bind (recordOpenFill_meets known₂ (.inr active₁)) ?_
    rintro ⟨⟨trade₃, own₃⟩, later⟩ h₃ - ⟨known₃, state₃, quiet₃⟩
    dsimp only
    split
    · rename_i closed
      have same : h₃ = read venue₂ :: h₂ := quiet₃ closed
      subst same
      have past₃ : trade₃.state.pastEntry := by
        rw [show trade₃.state = .ACTIVE from state₃.trans active₁]
        rfl
      exact closeTriggered_meets ⟨venue₂, .here, known₃.shown rfl past₃,
        known₂.shown own₃.symm (showsFlat_of_tradeQuantity measured closed),
        known₂.shown own₃.symm ⟨entry₂, found⟩⟩
    · exact reconcileHolding_meets
  split
  · rename_i closed
    have same : h₁ = h := quiet₁ closed
    subst same
    refine closeTriggered_meets ⟨venue, seen.fresh, known₁.shown rfl past₁, ?_, ?_⟩
    · rw [own₁]
      exact seen.flat closed
    · rw [own₁]
      exact seen.readable
  · exact reconcileHolding_meets

theorem exitFacts_state {state : TradeState} {role : OrderRole} {reason : ExitReason}
    (h : exitFacts state = some (role, reason)) :
    state.pastEntry ∧ (role.manual ∨ state.triggered) := by
  cases state <;> cases h <;> exact ⟨rfl, by decide⟩

theorem reconcileExiting_meets {decision : Decision} {trade : TradeRecord} {venue : Venue}
    {role : OrderRole} {reason : ExitReason} {sidecarEvents : List Record}
    {entry : Option Record} {position : ℚ} (known : Known trade h)
    (exiting : exitFacts trade.state = some (role, reason))
    (seen : Seen env decision trade.tradeId venue entry position h) :
    Dutifully env handled
      (reconcileExiting env decision trade role reason sidecarEvents position) h := by
  obtain ⟨past, kind⟩ := exitFacts_state exiting
  unfold reconcileExiting
  split
  · rename_i closed
    have since : ClosedSince env trade.tradeId h :=
      ⟨venue, seen.fresh.mono fun _ => Call.held_of_calm, seen.flat closed⟩
    refine finishVenueExit_meets ?_
    rcases kind with manual | triggered
    · exact .inr ⟨since, manual⟩
    · exact .inl (.resumedTrigger since (known.shown rfl triggered))
  split
  · exact resumeCloseExit_meets known past
  · exact .ask_bind trivial fun _ => .pure trivial

theorem reconcileKnown_meets {again : TradeRecord → Venue → Engine (List ExecutionEvent)}
    (recursion : AgainMeets env handled again) {decision : Decision} {now : ℤ}
    {trade : TradeRecord} {venue : Venue} {sidecarEvents : List Record} {entry : Option Record}
    {position : ℚ} (known : Known trade h)
    (seen : Seen env decision trade.tradeId venue entry position h) :
    Dutifully env handled
      (reconcileKnown env again decision now trade venue sidecarEvents entry position) h := by
  refine .lift_bind fun _ _ => ?_
  split
  · exact reconcileExcess_meets known
  split
  · exact reconcilePending_meets recursion known ‹_› seen
  · exact reconcileProtecting_meets known ‹_› seen
  · exact reconcileActive_meets known ‹_› seen
  · exact .raise
  · split
    · exact reconcileExiting_meets known ‹_› seen
    · exact .pure trivial

theorem reconcileTradeWith_meets {again : TradeRecord → Venue → Engine (List ExecutionEvent)}
    (recursion : AgainMeets env handled again) {trade : TradeRecord} {venue : Venue}
    {sidecarEvents : List Record} (ready : Ready env trade venue h) :
    Dutifully env handled (reconcileTradeWith env again trade venue sidecarEvents) h := by
  refine .lift_bind fun decision of => .ask_bind trivial fun now => ?_
  refine .lift_bind fun position measured => .lift_bind fun entry found => ?_
  have ready₁ : Ready env trade venue (answered .clock now :: h) :=
    ready.calm (t := [answered .clock now]) fun e he => by
      cases List.mem_singleton.1 he
      rfl
  have seen : Seen env decision trade.tradeId venue entry position (answered .clock now :: h) := {
    fresh := ready₁.fresh
    flat le := ready₁.known.shown rfl (showsFlat_of_tradeQuantity measured le)
    gone none := ready₁.known.shown rfl (by rw [none] at found; exact found)
    readable := ready₁.known.shown rfl ⟨entry, found⟩
    of := ready₁.known.shown rfl (.inl of) }
  split
  · refine .bind ((recoverPreMutationGap_meets ready₁).frame recoverPreMutationGap_calm) ?_
    rintro gap h₂ - ⟨-, t, rfl, calm⟩
    refine .ask_bind trivial fun current => ?_
    cases current with
    | none => exact .raise
    | some current =>
      obtain ⟨current, own⟩ := current
      dsimp only
      split
      · exact .pure trivial
      · have suffix : answered .clock now :: h <:+
            answered (.getTrade trade.tradeId) (some ⟨current, own⟩) ::
              (t ++ answered .clock now :: h) :=
          (List.suffix_append _ _).trans (List.suffix_cons _ _)
        refine .bind (reconcileKnown_meets recursion (known_getTrade ⟨current, own⟩ _) ?_)
          fun _ _ _ _ => .pure trivial
        rw [own]
        exact ⟨(seen.fresh.append calm).cons rfl, fun le => (seen.flat le).mono suffix,
          fun none => (seen.gone none).mono suffix, seen.readable.mono suffix,
          seen.of.mono suffix⟩
  · exact reconcileKnown_meets recursion ready₁.known seen

theorem reconcileTrade_meets {trade : TradeRecord} {venue : Venue} {sidecarEvents : List Record}
    (ready : Ready env trade venue h) :
    Dutifully env handled (reconcileTrade env trade venue sidecarEvents) h :=
  reconcileTradeWith_meets
    (fun _ _ _ ready => reconcileTradeWith_meets (fun _ _ _ _ => .raise) ready) ready

end Trades

end KairosExecution.Paper
