import KairosExecution.Paper.Justified

/-! The exits meet the duty. A journal helper arms its key before it mutates. A manual
close reads a snapshot without the entry order before it prepares anything, and one
that is closed as well before the trade becomes `FLAT`; an exit that is taken up again
relies on the row or the state that an earlier call has left. -/

namespace KairosExecution.Paper

open Python Interactive Interactive.Program

variable {env : Env} {handled : Option Decision} {h : EngineHistory}

/-- Meeting the duty, with nothing promised about the result. -/
abbrev Dutifully {α : Type} (env : Env) (handled : Option Decision) (p : Engine α)
    (h : EngineHistory) : Prop := Meets (Justified env handled) p h fun _ _ => True

section Journal

/-- Bookkeeping owes nothing, and adds only itself. -/
theorem bookkeeps_meets {α : Type} {p : Engine α} (m : Bookkeeps p) (h : EngineHistory) :
    Meets (Justified env handled) p h fun _ h' => Adds (fun c : Call => c.bookkeeping = true) h h' :=
  m.meets (fun _ c hc => by cases c <;> trivial) h

theorem inert_meets {α : Type} {p : Engine α} (m : Inert p) (h : EngineHistory) :
    Meets (Justified env handled) p h fun _ h' => Adds (fun c : Call => c.inert = true) h h' :=
  m.meets (fun _ c hc => by cases c <;> trivial) h

/-- A transition was acknowledged as the last event, after bookkeeping only. -/
def Transitioned (tradeId : String) (target : TradeState) (result : TradeMutationResult)
    (h' h : EngineHistory) : Prop :=
  ∃ (move : TransitionRequest) (moved : Moved move.tradeId move.target) (t : EngineHistory),
    h' = answered (.transition move) moved :: (t ++ h) ∧ (∀ e ∈ t, e.call.bookkeeping) ∧
    move.tradeId = tradeId ∧ move.target = target ∧ moved.1 = result

theorem Transitioned.known {tradeId : String} {target : TradeState} {result : TradeMutationResult}
    {h' : EngineHistory} (done : Transitioned tradeId target result h' h) :
    Known result.trade h' := by
  obtain ⟨move, moved, t, rfl, -, -, -, rfl⟩ := done
  exact known_moved move moved _

theorem transitionWithEvent_meets {decision : Decision} {trade : TradeRecord}
    {target : TradeState} {journal : String} {event : EventType} {spec : FactSpec}
    {patch : TradePatch} (ev : TransitionEvidence env trade.tradeId target h) :
    Meets (Justified env handled)
      (transitionWithEvent env decision trade target journal event spec patch) h
      fun moved h' => Transitioned trade.tradeId target moved.1 h' h := by
  refine .bind (bookkeeps_meets (eventSpec_calls env _ _ _ _ _ _) h) fun fact h₁ _ ⟨t, eq, ht⟩ => ?_
  refine .ask_bind trivial fun stored => ?_
  have quiet : ∀ e ∈ answered (.getExecutionEvent trade.tradeId fact.1) stored :: t,
      e.call.bookkeeping := by
    intro e he
    rcases List.mem_cons.1 he with rfl | he
    · rfl
    · exact ht e he
  refine .ask ?_ fun moved => ?_
  · show TransitionEvidence env trade.tradeId target _
    rw [eq]
    exact ev.bookkeeping quiet
  · refine ⟨_, moved, _, ?_, quiet, rfl, rfl, rfl⟩
    rw [eq]
    rfl

/-- A transition whose target no evidence is asked for. -/
theorem plainTransition_meets {decision : Decision} {trade : TradeRecord}
    {target : TradeState} {journal : String} {event : EventType} {spec : FactSpec}
    {patch : TradePatch} (plain : target = .ENTRY_PENDING ∨ target = .PROTECTING ∨
      target = .ACTIVE ∨ target = .EXITING_TIMEOUT ∨ target = .EXITING_EMERGENCY ∨
      target = .FAILED_BLOCKED) :
    Meets (Justified env handled)
      (transitionWithEvent env decision trade target journal event spec patch) h
      fun moved h' => Transitioned trade.tradeId target moved.1 h' h := by
  apply transitionWithEvent_meets
  rcases plain with rfl | rfl | rfl | rfl | rfl | rfl <;> trivial

/-- A mutation under an armed key, right after its reservation. -/
theorem reservedMutate_meets {α : Type} {m : Mutation} {effectId operation : String}
    {compensation headroom : Bool} {next : Record → Engine α} {R : α → EngineHistory → Prop}
    (armed : Armed effectId h) (key : IsEffectKey env effectId) (under : m.effectId = effectId)
    (other : m.places = false)
    (k : ∀ response h', h <:+ h' → Meets (Justified env handled) (next response) h' R) :
    Meets (Justified env handled)
      (reserveMutation env effectId operation compensation headroom >>= fun _ =>
        await (.mutate m) >>= next) h R := by
  subst under
  refine .bind (inert_meets (reserveMutation_calls env _ _ _ _) h) fun _ h₁ hs added => ?_
  have armed₁ := armed.still (added.mono fun _ => Call.still_of_inert)
  refine .ask_bind ⟨armed₁, key, ?_⟩ fun response => k response _ (hs.trans (List.suffix_cons _ _))
  cases m with
  | placeLimit => cases other
  | _ => trivial

theorem tpslEffect_meets {trade : TradeRecord} {effectId clientId : String} {role : OrderRole}
    {price : ℚ} (key : IsEffectKey env effectId) (protection : role.manual = false) :
    Dutifully env handled (tpslEffect env trade effectId clientId role price) h := by
  refine .lift_bind fun venueSymbol _ => .ask_bind ?_ fun preparation => ?_
  · intro manual
    rw [show role.manual = true from manual] at protection
    cases protection
  refine .lift_bind fun cached _ => ?_
  cases cached with
  | some cached => exact .pure trivial
  | none =>
    refine .lift_bind fun _ unmade => ?_
    have created : preparation.created = true := by simpa using unmade
    refine reservedMutate_meets (armed_prepare created h) key rfl rfl
      fun response h' _ => ?_
    exact .lift_bind fun _ _ => .ask_bind trivial fun _ => .pure trivial

theorem closeEffect_meets {trade : TradeRecord} {effectId clientId : String} {leverage : ℚ}
    {effectType : EffectType} {role : OrderRole} {quantity : ℚ} (key : IsEffectKey env effectId)
    (gone : EntryGone env trade.tradeId h) :
    Dutifully env handled
      (closeEffect env trade effectId clientId leverage effectType role quantity) h := by
  refine .lift_bind fun _ _ => .lift_bind fun venueSymbol _ => ?_
  refine .ask_bind (fun _ => gone) fun preparation => .lift_bind fun cached _ => ?_
  cases cached with
  | some cached => exact .lift_bind fun _ _ => .pure trivial
  | none =>
    refine .lift_bind fun _ unmade => ?_
    have created : preparation.created = true := by simpa using unmade
    refine reservedMutate_meets (armed_prepare created h) key rfl rfl
      fun response h' _ => ?_
    exact .lift_bind fun _ _ => .ask_bind trivial fun _ => .pure trivial

theorem cancelEntryEffect_meets {trade : TradeRecord} :
    Dutifully env handled (cancelEntryEffect env trade) h := by
  refine .lift_bind fun venueSymbol _ => .ask_bind (fun manual => nomatch manual) ?_
  intro preparation
  refine .lift_bind fun cached _ => ?_
  cases cached with
  | some cached => exact .pure trivial
  | none =>
    refine .lift_bind fun _ unmade => ?_
    have created : preparation.created = true := by simpa using unmade
    refine reservedMutate_meets (armed_prepare created h) ⟨_, _, _, rfl⟩ rfl rfl
      fun response h' _ => ?_
    exact .ask_bind trivial fun _ => .pure trivial

theorem cancelTpslEffect_meets {trade : TradeRecord} {role : OrderRole} {clientId tpslId : String}
    (protection : role.manual = false) :
    Dutifully env handled (cancelTpslEffect env trade role clientId tpslId) h := by
  refine .lift_bind fun venueSymbol _ => .ask_bind ?_ fun preparation => ?_
  · intro manual
    rw [show role.manual = true from manual] at protection
    cases protection
  refine .lift_bind fun cached _ => ?_
  cases cached with
  | some cached => exact .ask_bind trivial fun _ => .lift_bind fun _ _ => .lift fun _ _ => trivial
  | none =>
    refine .lift_bind fun _ unmade => ?_
    have created : preparation.created = true := by simpa using unmade
    refine reservedMutate_meets (armed_prepare created h) ⟨_, _, _, rfl⟩ rfl rfl
      fun response h' _ => ?_
    refine .ask_bind trivial fun _ => .ask_bind trivial fun _ => ?_
    exact .lift_bind fun _ _ => .lift fun _ _ => trivial

end Journal

section Cleanup

/-- Calls that neither prepare a close nor record a triggered exit. -/
abbrev Holds {α : Type} (p : Engine α) : Prop := Calls (fun c : Call => c.held = true) p

theorem holds_of_inert {α : Type} {p : Engine α} (m : Inert p) : Holds p :=
  m.mono fun _ => Call.held_of_inert

theorem cancelTpslEffect_holds {trade : TradeRecord} {role : OrderRole} {clientId tpslId : String}
    (protection : role.manual = false) :
    Holds (cancelTpslEffect env trade role clientId tpslId) := by
  refine .bind .lift fun venueSymbol => .bind (.ask ?_) fun preparation => .bind .lift fun cached => ?_
  · show (!role.manual) = true
    rw [protection]
    rfl
  cases cached with
  | some cached => exact .bind (.ask rfl) fun _ => .bind .lift fun _ => .lift
  | none =>
    refine .bind .lift fun _ => .bind (holds_of_inert (reserveMutation_calls env _ _ _ _)) fun _ => ?_
    refine .bind (.ask rfl) fun _ => .bind (.ask rfl) fun _ => .bind (.ask rfl) fun _ => ?_
    exact .bind .lift fun _ => .lift

theorem reconcileCreated_calls (created : Option ExecutionEffect) (geometry : Option Record)
    (geometryId : Option String) : Inert (reconcileCreated created geometry geometryId) := by
  unfold reconcileCreated
  split
  · split
    · exact .bind (.ask rfl) fun _ => .pure
    · exact .pure
  · exact .pure

theorem cancelLeg_holds {decision : Decision} {trade : TradeRecord} {venue : Venue}
    {leg : ProtectionLeg} {completed : Bool} (protection : leg.role.manual = false) :
    Holds (cancelLeg env decision trade venue leg completed) := by
  refine .bind (.ask rfl) fun created => .bind .lift fun _ => .bind .lift fun geometry => ?_
  refine .bind .lift fun geometryId => .bind (holds_of_inert (reconcileCreated_calls _ _ _)) ?_
  intro created
  refine .bind .lift fun verdict => ?_
  cases verdict with
  | settled => exact .pure
  | cancel tpslId => exact cancelTpslEffect_holds protection

theorem cancelRemainingProtection_holds {trade : TradeRecord} {completed : Option OrderRole} :
    Holds (cancelRemainingProtection env trade completed) := by
  refine .bind (.ask rfl) fun venue => .bind .lift fun decision => ?_
  exact .bind (cancelLeg_holds rfl) fun _ => cancelLeg_holds rfl

theorem cancelLeg_meets {decision : Decision} {trade : TradeRecord} {venue : Venue}
    {leg : ProtectionLeg} {completed : Bool} (protection : leg.role.manual = false) :
    Dutifully env handled (cancelLeg env decision trade venue leg completed) h := by
  refine .ask_bind trivial fun created => .lift_bind fun _ _ => .lift_bind fun geometry _ => ?_
  refine .lift_bind fun geometryId _ => .bind (inert_meets (reconcileCreated_calls _ _ _) _) ?_
  intro created h' _ _
  refine .lift_bind fun verdict _ => ?_
  cases verdict with
  | settled => exact .pure trivial
  | cancel tpslId => exact cancelTpslEffect_meets protection

theorem cancelRemainingProtection_meets {trade : TradeRecord} {completed : Option OrderRole} :
    Dutifully env handled (cancelRemainingProtection env trade completed) h := by
  refine .ask_bind trivial fun venue => .lift_bind fun decision _ => ?_
  exact .bind (cancelLeg_meets rfl) fun _ _ _ _ => cancelLeg_meets rfl

theorem assertManualCloseWon_holds {trade : TradeRecord} {role : OrderRole}
    {response : Option Record} : Holds (assertManualCloseWon env trade role response) := by
  refine .bind (.ask rfl) fun effect => ?_
  cases effect with
  | none => exact .raise
  | some effect =>
    refine .bind .lift fun text => .bind .lift fun requested => .bind .lift fun closeClientId => ?_
    refine .bind (.ask rfl) fun venue => .bind .lift fun historical => ?_
    split
    · exact .bind .lift fun _ => .bind .lift fun _ => .lift
    · exact .raise

/-- A manual close is proven won only against the journal row of the close. -/
theorem assertManualCloseWon_meets {trade : TradeRecord} {role : OrderRole}
    {response : Option Record} :
    Meets (Justified env handled) (assertManualCloseWon env trade role response) h fun _ h' =>
      ∃ effect, RowRead (env.effectId trade.tradeId role .close) effect h' := by
  refine .ask_bind trivial fun effect => ?_
  cases effect with
  | none => exact .raise
  | some effect =>
    refine .lift_bind fun text _ => .lift_bind fun requested _ => ?_
    refine .lift_bind fun closeClientId _ => .ask_bind trivial fun venue => ?_
    refine .lift_bind fun historical _ => ?_
    split
    · refine .lift_bind fun _ _ => .lift_bind fun _ _ => .lift fun _ _ => ⟨effect, ?_⟩
      exact List.mem_cons_of_mem _ List.mem_cons_self
    · exact .raise

end Cleanup

section Manual

theorem cancelOpenEntry_meets {trade : TradeRecord} :
    Meets (Justified env handled) (cancelOpenEntry env trade) h fun venue h' =>
      OrderGone env venue trade.entryClientOrderId ∧ ∃ k, h' = read venue :: k ∧ h <:+ k := by
  refine .bind cancelEntryEffect_meets fun _ h₁ hs _ => .ask_bind trivial fun venue => ?_
  refine .lift_bind fun entry found => .lift_bind fun _ unlisted => .pure ⟨?_, h₁, rfl, hs⟩
  have absent : entry = none := by simpa using unlisted
  rw [absent] at found
  exact found

/-- The snapshot that the close quantity is measured in no longer lists the entry. -/
theorem cancelEntryAndMeasurePosition_meets {decision : Decision} {trade : TradeRecord}
    (known : Known trade h) (past : trade.state.pastEntry) :
    Meets (Justified env handled) (cancelEntryAndMeasurePosition env decision trade) h
      fun measured h' => Known measured.1.1 h' ∧ measured.1.1.state = trade.state ∧
        EntryGone env trade.tradeId h' ∧
        (measured.2.1 ≤ 0 → ClosedAndGone env trade.tradeId h') := by
  refine .ask_bind trivial fun first => .lift_bind fun entry found => ?_
  have snapshot : Meets (Justified env handled)
      (if entry.isSome then cancelOpenEntry env trade else pure first) (read first :: h)
      fun venue h' => OrderGone env venue trade.entryClientOrderId ∧
        ∃ k, h' = read venue :: k ∧ h <:+ k := by
    cases entry with
    | none => exact .pure ⟨found, h, rfl, List.suffix_refl h⟩
    | some order =>
      refine .mono cancelOpenEntry_meets fun venue h' _ ⟨gone, k, eq, suffix⟩ => ?_
      exact ⟨gone, k, eq, (List.suffix_cons _ _).trans suffix⟩
  refine .bind snapshot fun venue h₁ _ ⟨gone, k, eq, suffix⟩ => .lift_bind fun quantity measured => ?_
  have known₁ : Known trade k := known.mono suffix
  have entryGone : EntryGone env trade.tradeId h₁ :=
    ⟨[], venue, k, eq, known₁.shown rfl past, known₁.shown rfl gone⟩
  have closed : quantity ≤ 0 → ClosedAndGone env trade.tradeId h₁ := fun le =>
    ⟨[], venue, k, eq, known₁.shown rfl past, known₁.shown rfl gone,
      known₁.shown rfl (showsFlat_of_tradeQuantity measured le)⟩
  dsimp only
  split
  · rename_i exceeds
    have exposed : trade.state = .PROTECTING ∨ trade.state = .ACTIVE := exceeds.2.2
    refine .bind (plainTransition_meets (by tauto)) fun moved h₂ hs done => .pure ?_
    exact ⟨done.known, moved.2.2, entryGone.mono hs, fun le => (closed le).mono hs⟩
  · refine .pure ⟨?_, rfl, entryGone, closed⟩
    rw [eq]
    exact known₁.mono (List.suffix_cons _ _)

theorem enterEmergency_meets {decision : Decision} {trade : TradeRecord} {reason : String}
    {quantity : ℚ} (known : Known trade h) :
    Meets (Justified env handled) (enterEmergency env decision trade reason quantity) h
      fun entered h' => Known entered.1.1 h' ∧ entered.1.1.state = .EXITING_EMERGENCY := by
  unfold enterEmergency
  split
  · exact .pure ⟨known, ‹_›⟩
  · refine .bind (bookkeeps_meets (freshCloseClientId_calls env _ _) h) fun id h₁ _ _ => ?_
    refine .bind (plainTransition_meets (by tauto)) fun moved h₂ _ done => .pure ?_
    exact ⟨done.known, moved.2.2⟩

theorem emergencyClose_meets {decision : Decision} {trade : TradeRecord} {reason : String}
    (known : Known trade h) (past : trade.state.pastEntry) :
    Dutifully env handled (emergencyClose env decision trade reason) h := by
  refine .bind (cancelEntryAndMeasurePosition_meets known past) ?_
  rintro ⟨⟨trade₁, own₁⟩, quantity, events⟩ h₁ - ⟨known₁, state₁, gone₁, -⟩
  refine .bind (enterEmergency_meets known₁) ?_
  rintro ⟨⟨trade₂, own₂⟩, triggered⟩ h₂ hs₂ ⟨known₂, state₂⟩
  have same : trade₂.tradeId = trade.tradeId := own₂.trans own₁
  have gone₂ : EntryGone env trade₂.tradeId h₂ := by
    rw [same]
    exact gone₁.mono hs₂
  refine .lift_bind fun closeClientId _ => ?_
  have closing : Dutifully env handled
      (if quantity > 0 then
        closeEffect env trade₂ (env.effectId trade₁.tradeId .EMERGENCY_EXIT .close) closeClientId
          decision.leverage .EMERGENCY_CLOSE .EMERGENCY_EXIT quantity
      else pure []) h₂ := by
    split
    · exact closeEffect_meets ⟨_, _, _, rfl⟩ gone₂
    · exact .pure trivial
  refine .bind closing fun response h₃ hs₃ _ => .ask_bind trivial fun venue => ?_
  refine .lift_bind fun exposed checked => ?_
  cases exposed with
  | true =>
    refine .lift_bind fun position _ => ?_
    exact .bind (plainTransition_meets (by tauto)) fun _ _ _ _ => .raise
  | false =>
    obtain ⟨flat, gone⟩ := not_stillExposed checked
    have known₃ := known₂.mono hs₃
    have past₃ : trade₂.state.pastEntry := by
      rw [state₂]
      rfl
    have closed : ClosedAndGone env trade₂.tradeId (read venue :: h₃) :=
      ⟨[], venue, h₃, rfl, known₃.shown rfl past₃, known₃.shown rfl gone, known₃.shown rfl flat⟩
    refine .onlyIf_bind (P := fun _ => True)
      (fun _ => .mono assertManualCloseWon_meets fun _ _ _ _ => trivial) (fun _ => trivial) ?_
    intro h₄ hs₄ _
    refine .bind cancelRemainingProtection_meets fun _ h₅ hs₅ _ => ?_
    have ev : TransitionEvidence env trade₂.tradeId .FLAT h₅ := .gone (closed.mono (hs₄.trans hs₅))
    exact .bind (transitionWithEvent_meets ev) fun _ _ _ _ => .pure trivial

end Manual

section Finish

theorem exitAttribution_holds {trade : TradeRecord} {role : OrderRole} {reason : ExitReason}
    {attribution : Option VenueTriggeredExit} {sidecarEvents : List Record} :
    Holds (exitAttribution env trade role reason attribution sidecarEvents) := by
  refine .bind ?_ fun attribution => .bind .lift fun _ => .pure
  cases attribution with
  | some attribution => exact .pure
  | none => exact .bind (.ask rfl) fun venue => .lift

theorem exitAttribution_meets {trade : TradeRecord} {role : OrderRole} {reason : ExitReason}
    {attribution : Option VenueTriggeredExit} {sidecarEvents : List Record} :
    Dutifully env handled (exitAttribution env trade role reason attribution sidecarEvents) h := by
  refine .bind (Q := fun _ _ => True) ?_ fun _ _ _ _ => .lift_bind fun _ _ => .pure trivial
  cases attribution with
  | some attribution => exact .pure trivial
  | none => exact .ask_bind trivial fun venue => .lift fun _ _ => trivial

/-- What an exit must bring to be finished: the evidence of a close, or for a manual close
a closed snapshot, since the journal row is looked for here. -/
def Finishable (env : Env) (tradeId : String) (role : OrderRole) (h : EngineHistory) : Prop :=
  CloseEvidence env tradeId h ∨ (ClosedSince env tradeId h ∧ role.manual)

theorem manual_iff {role : OrderRole} :
    role.manual ↔ role = .TIMEOUT_EXIT ∨ role = .EMERGENCY_EXIT := by
  cases role <;> simp [OrderRole.manual]

theorem finishVenueExit_meets {decision : Decision} {trade : TradeRecord} {role : OrderRole}
    {reason : ExitReason} {response : Option Record} {attribution : Option VenueTriggeredExit}
    {sidecarEvents : List Record} (ready : Finishable env trade.tradeId role h) :
    Dutifully env handled
      (finishVenueExit env decision trade role reason response attribution sidecarEvents) h := by
  refine .lift_bind fun closeClientId _ => ?_
  have proven : role = .TIMEOUT_EXIT ∨ role = .EMERGENCY_EXIT →
      Meets (Justified env handled) (assertManualCloseWon env trade role response) h
        fun _ h' => CloseEvidence env trade.tradeId h' := by
    intro manual
    refine .mono (assertManualCloseWon_meets.frame assertManualCloseWon_holds) ?_
    rintro _ h' - ⟨⟨effect, row⟩, t, rfl, held⟩
    rcases ready with ev | ⟨closed, -⟩
    · exact ev.held held
    · exact .resumedClose (closed.held held) role (manual_iff.2 manual) effect row
  have standing : ¬(role = .TIMEOUT_EXIT ∨ role = .EMERGENCY_EXIT) →
      CloseEvidence env trade.tradeId h := by
    intro automatic
    rcases ready with ev | ⟨-, manual⟩
    · exact ev
    · exact absurd (manual_iff.1 manual) automatic
  refine .onlyIf_bind proven standing fun h₁ _ ev₁ => ?_
  have attributed : Meets (Justified env handled)
      (if role = .STOP_LOSS ∨ role = .TAKE_PROFIT then
        some <$> exitAttribution env trade role reason attribution sidecarEvents
      else pure none) h₁ fun _ h' => CloseEvidence env trade.tradeId h' := by
    split
    · refine .bind (exitAttribution_meets.frame exitAttribution_holds) ?_
      rintro exit h' - ⟨-, t, rfl, held⟩
      exact .pure (ev₁.held held)
    · exact .pure ev₁
  refine .bind attributed fun triggered h₂ _ ev₂ => ?_
  refine .bind (cancelRemainingProtection_meets.frame cancelRemainingProtection_holds) ?_
  rintro _ h₃ - ⟨-, t, rfl, held⟩
  dsimp only
  split
  · exact .bind (inert_meets (recoverTerminalPublicFact_calls trade) _) fun _ _ _ _ => .pure trivial
  · refine .lift_bind fun averagePrice _ => .lift_bind fun feeUsd _ => ?_
    exact .bind (transitionWithEvent_meets (ev₂.held held)) fun _ _ _ _ => .pure trivial

theorem transitionVenueExit_meets {decision : Decision} {trade : TradeRecord}
    {attribution : VenueTriggeredExit} {clientId : Option String}
    (ev : TransitionEvidence env trade.tradeId attribution.targetState h) :
    Meets (Justified env handled) (transitionVenueExit env decision trade attribution clientId) h
      fun moved h' => Transitioned trade.tradeId attribution.targetState moved.1 h' h := by
  cases clientId with
  | none => exact .raise
  | some clientId => exact transitionWithEvent_meets ev

theorem resumeCloseExit_meets {decision : Decision} {trade : TradeRecord} {role : OrderRole}
    {reason : ExitReason} (known : Known trade h) (past : trade.state.pastEntry) :
    Dutifully env handled (resumeCloseExit env decision trade role reason) h := by
  refine .bind (cancelEntryAndMeasurePosition_meets known past) ?_
  rintro ⟨⟨trade₁, own₁⟩, quantity, events⟩ h₁ - ⟨known₁, state₁, gone₁, closed₁⟩
  dsimp only
  split
  · have ready : Finishable env trade₁.tradeId role h₁ := by
      rw [own₁]
      exact .inl (.gone (closed₁ ‹_›))
    exact .bind (finishVenueExit_meets ready) fun _ _ _ _ => .pure trivial
  · refine .lift_bind fun closeClientId _ => ?_
    have gone : EntryGone env trade₁.tradeId h₁ := by
      rw [own₁]
      exact gone₁
    refine .bind (closeEffect_meets ⟨_, _, _, rfl⟩ gone) fun response h₂ hs₂ _ => ?_
    refine .ask_bind trivial fun venue => .lift_bind fun exposed checked => ?_
    cases exposed with
    | true =>
      refine .lift_bind fun position _ => ?_
      exact .bind (plainTransition_meets (by tauto)) fun _ _ _ _ => .raise
    | false =>
      obtain ⟨flat, unlisted⟩ := not_stillExposed checked
      have past₁ : trade₁.state.pastEntry := by
        rw [state₁]
        exact past
      have known₂ := known₁.mono hs₂
      have closed : ClosedAndGone env trade₁.tradeId (read venue :: h₂) :=
        ⟨[], venue, h₂, rfl, known₂.shown rfl past₁, known₂.shown rfl unlisted,
          known₂.shown rfl flat⟩
      refine .ask_bind trivial fun latest => ?_
      cases latest with
      | none => exact .raise
      | some latest =>
        have ready : Finishable env latest.1.tradeId role
            (answered (.getTrade trade₁.tradeId) (some latest) :: read venue :: h₂) := by
          rw [latest.2]
          exact .inl (.gone (closed.mono (List.suffix_cons _ _)))
        exact .bind (finishVenueExit_meets ready) fun _ _ _ _ => .pure trivial

theorem timeoutClose_meets {decision : Decision} {trade : TradeRecord} :
    Dutifully env handled (timeoutClose env decision trade) h := by
  refine .bind (bookkeeps_meets (freshCloseClientId_calls env _ _) h) fun id h₁ _ _ => ?_
  refine .bind (plainTransition_meets (by tauto)) fun moved h₂ _ done => ?_
  have past : moved.1.trade.state.pastEntry := by
    rw [moved.2.2]
    rfl
  exact .bind (resumeCloseExit_meets done.known past) fun _ _ _ _ => .pure trivial

end Finish

end KairosExecution.Paper
