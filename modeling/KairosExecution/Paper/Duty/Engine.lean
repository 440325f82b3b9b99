import KairosExecution.Interactive.Session
import KairosExecution.Paper.Duty.Entry

/-! The entry points meet the duty, whatever the events before them were. A call of the
engine is any cut of a run of one entry point; a session is any number of calls, of any
engine instances, serial or interleaved. -/

namespace KairosExecution.Paper

open Python Interactive Interactive.Program

variable {env : Env} {handled : Option Decision} {h : EngineHistory}

section Handle

theorem ambiguousEntry_meets {decision : Decision} {trade : TradeRecord}
    {effectId clientOrderId : String} {exc : Err} :
    Dutifully env handled (ambiguousEntry env decision trade effectId clientOrderId exc) h := by
  refine .bind (inert_meets (blockEntriesUnlocked_calls env _) h) fun _ h₁ _ _ => ?_
  refine .ask_bind trivial fun venue => .lift_bind fun exposed _ => ?_
  split
  · exact .raise
  · refine .bind (plainTransition_meets (by tauto)) fun moved h₂ _ done => ?_
    have past : moved.1.trade.state.pastEntry := by
      rw [moved.2.2]
      rfl
    exact .bind (emergencyClose_meets done.known past) fun _ _ _ _ => .pure trivial

theorem recordEntry_meets {decision : Decision} {trade : TradeRecord} {clientOrderId : String}
    {response : Record} {fill : OrderFill} (ev : fill.filled ≤ 0 →
      terminalEntryStatus fill.status → CancelEvidence env trade.tradeId h) :
    Dutifully env handled (recordEntry env decision trade clientOrderId response fill) h := by
  unfold recordEntry
  dsimp only
  split
  · rename_i unfilled
    exact .bind (transitionWithEvent_meets (ev unfilled.1 unfilled.2)) fun _ _ _ _ => .pure trivial
  split
  · exact .bind (plainTransition_meets (by tauto)) fun _ _ _ _ => .pure trivial
  · refine .ask_bind trivial fun observedAt => .lift_bind fun fillAt _ => ?_
    refine .lift_bind fun details _ => .bind (plainTransition_meets (by tauto)) ?_
    intro moved h₁ _ done
    have past : moved.1.trade.state.pastEntry := by
      rw [moved.2.2]
      rfl
    exact .bind (protect_meets done.known past) fun _ _ _ _ => .pure trivial

/-- The calls between the creation of a trade and the order it is for send nothing. -/
theorem handleReceived_meets {decision : Decision} {trade : TradeRecord} {clientOrderId : String}
    {now : ℤ} (received : Untouched trade.tradeId h)
    (handling : handled = some decision) (own : decision.tradeId = some trade.tradeId)
    (unblocked : answered .recoveryBlockers [] ∈ h) (approved : decision.approved = true)
    (valid : validateDecision env decision = .ok ()) :
    Dutifully env handled (handleReceived env decision trade clientOrderId now) h := by
  unfold handleReceived
  dsimp only
  split
  · exact .bind (transitionWithEvent_meets (.untouched received)) fun _ _ _ _ => .pure trivial
  refine .bind (plainTransition_meets (by tauto)) fun moved h₁ hs₁ done => ?_
  have known₁ := done.known
  obtain ⟨move, result, t, eq, quiet, moves, target, same⟩ := done
  have received₁ : Untouched moved.1.trade.tradeId h₁ := by
    rw [moved.2.1, eq]
    exact (received.silent fun e he =>
      Call.silent_of_inert (Call.inert_of_bookkeeping (quiet e he))).silent
        (t := [answered (.transition move) result]) fun e he => by
          cases List.mem_singleton.1 he
          rfl
  refine .bind prepareEntryEffect_meets fun preparation h₂ hs₂ prepared => ?_
  obtain ⟨request, u, rfl, key, for', still⟩ := prepared
  have begun : Begun env handled decision moved.1.trade (u ++ h₁) := {
    handled := handling
    own := by rw [moved.2.1]; exact own
    unblocked := List.mem_append_right u (hs₁.subset unblocked)
    pending := ⟨move, result, List.mem_append_right u (eq ▸ List.mem_cons_self),
      by rw [moved.2.1]; exact moves, target⟩ }
  have received₂ : Untouched moved.1.trade.tradeId (u ++ h₁) :=
    received₁.silent fun e he => Call.silent_of_still (still e he)
  refine .attempt_bind (submitEntry_meets key for' begun (known₁.mono (List.suffix_append u h₁))
    approved valid received₂) (fun result h₃ _ ev => ?_) fun exc h₃ _ => ?_
  · obtain ⟨response, fill⟩ := result
    exact .bind (recordEntry_meets ev) fun _ _ _ _ => .pure trivial
  · exact .bind ambiguousEntry_meets fun _ _ _ _ => .pure trivial

theorem recoverEffectsOf_meets {tradeId : String} (effects : List ExecutionEffect) :
    Dutifully env handled (recoverEffectsOf env tradeId effects) h := by
  induction effects generalizing h with
  | nil => exact .pure trivial
  | cons effect rest ih =>
    exact .onlyIf_bind (P := fun _ => True) (fun _ => recoverEffectLocked_meets)
      (fun _ => trivial) fun _ _ _ => ih

theorem reconcileRedeliveryLocked_meets {tradeId : String} :
    Dutifully env handled (reconcileRedeliveryLocked env tradeId) h := by
  refine .ask_bind trivial fun health => ?_
  refine .bind (bookkeeps_meets (observeHealth_calls env _ _) _) fun _ h₁ _ _ => ?_
  refine .ask_bind trivial fun venue => .ask_bind trivial fun current => ?_
  cases current with
  | none => exact .raise
  | some current =>
    obtain ⟨current, own⟩ := current
    dsimp only
    split
    · refine .ask_bind trivial fun emitted => ?_
      exact .bind (inert_meets (recoverTerminalPublicFact_calls _) _) fun _ _ _ _ => .pure trivial
    have ready : Ready env current venue
        (answered (.getTrade tradeId) (some ⟨current, own⟩) :: read venue :: h₁) :=
      ⟨known_getTrade ⟨current, own⟩ _, .cons .here rfl,
        fun received => ⟨_, current, .here, rfl, rfl, received⟩⟩
    refine .bind (recoverPreMutationGap_meets ready) fun gap h₂ _ _ => ?_
    refine .ask_bind trivial fun current => ?_
    cases current with
    | none => exact .raise
    | some current =>
      dsimp only
      split
      · exact .bind (inert_meets (recoverTerminalPublicFact_calls _) _) fun _ _ _ _ => .pure trivial
      refine .ask_bind trivial fun effects => .bind (recoverEffectsOf_meets _) fun _ h₃ _ _ => ?_
      refine .ask_bind trivial fun current => ?_
      have asked : Dutifully env handled (if current.isSome then
          unripeEffects env tradeId (effects.map (·.effectKey)) else pure [])
          (answered (.getTrade tradeId) current :: h₃) := by
        split
        · exact .mono (inert_meets (unripeEffects_calls env _ _) _) fun _ _ _ _ => trivial
        · exact .pure trivial
      refine .bind asked fun unripe h₄ _ _ => .lift_bind fun _ _ => ?_
      refine .ask_bind trivial fun venue => .ask_bind trivial fun sidecarEvents => ?_
      refine .ask_bind trivial fun current => .ask_bind trivial fun recovered => ?_
      cases current with
      | none => exact .pure trivial
      | some current =>
        obtain ⟨current, own⟩ := current
        dsimp only
        split
        · exact .bind (inert_meets (recoverTerminalPublicFact_calls _) _)
            fun _ _ _ _ => .pure trivial
        · refine .bind (reconcileTrade_meets ⟨(known_getTrade ⟨current, own⟩ _).mono
            (List.suffix_cons _ _), .cons (.cons (.cons .here rfl) rfl) rfl, fun received => ?_⟩)
            fun _ _ _ _ => .pure trivial
          exact ⟨_, current, .cons .here rfl, rfl, rfl, received⟩

/-- The trade is created under an approved decision, and shown as the last event. -/
theorem createTradeWithEvent_meets {decision : Decision} {newTrade : NewTrade}
    (approved : decision.approved = true) (valid : validateDecision env decision = .ok ())
    (payload : newTrade.riskDecisionPayload = env.toPayload decision) :
    Meets (Justified env handled) (createTradeWithEvent env decision newTrade) h
      fun result h' => ∃ e k, h' = e :: k ∧ h <:+ k ∧ recordOf e = some result.1.1.trade := by
  refine .ask_bind trivial fun existed => ?_
  refine .bind (bookkeeps_meets (eventSpec_calls env _ _ _ _ _ _) _) fun fact h₁ hs₁ _ => ?_
  obtain ⟨factKey, body⟩ := fact
  have looked : Dutifully env handled (if existed.isSome then
      await (.getExecutionEvent newTrade.tradeId factKey) else pure none) h₁ := by
    split
    · exact .ask trivial fun _ => trivial
    · exact .pure trivial
  refine .bind looked fun stored h₂ hs₂ _ => ?_
  refine .ask_bind ⟨decision, approved, valid, payload⟩ fun result => .pure ?_
  exact ⟨_, h₂, rfl, ((List.suffix_cons _ _).trans hs₁).trans hs₂, rfl⟩

theorem handleApproved_meets {decision : Decision} {tradeId : String}
    (own : decision.tradeId = some tradeId) (approved : decision.approved = true)
    (valid : validateDecision env decision = .ok ()) :
    Dutifully env (some decision) (handleApproved env decision tradeId) h := by
  refine .ask_bind trivial fun blockers => ?_
  have admitted : Meets (Justified env (some decision)) (if blockers.isEmpty then
      await (.entriesAllowed env.accountScope) else pure false)
      (answered .recoveryBlockers blockers :: h) fun allowed _ => allowed = true → blockers = [] := by
    cases blockers with
    | nil => exact .ask trivial fun _ _ => rfl
    | cons => exact .pure fun allowed => nomatch allowed
  refine .bind admitted fun allowed h₁ hs₁ empty => .lift_bind fun _ opened => ?_
  have unblocked : answered .recoveryBlockers [] ∈ h₁ := by
    rw [empty (by simpa using opened)] at hs₁
    exact hs₁.subset List.mem_cons_self
  refine .bind (bookkeeps_meets (awaitEligibility_calls decision) h₁) fun now h₂ hs₂ _ => ?_
  refine .lift_bind fun _ _ => .ask_bind trivial fun existing => ?_
  have bind : Dutifully env (some decision) (do
      checkOperatorEntry env decision (env.effectId tradeId .ENTRY .place)
      bindCanaryEntry env decision (env.effectId tradeId .ENTRY .place))
      (answered (.getTrade tradeId) existing :: h₂) := by
    refine .bind checkOperatorEntry_meets fun _ _ _ _ => ?_
    exact .mono (bookkeeps_meets (bindCanaryEntry_calls env _ _) _) fun _ _ _ _ => trivial
  refine .onlyIf_bind (P := fun _ => True) (fun _ => bind) (fun _ => trivial) fun h₃ hs₃ _ => ?_
  refine .lift_bind fun intentId _ => .lift_bind fun decisionId _ => ?_
  refine .bind (createTradeWithEvent_meets approved valid rfl) ?_
  rintro ⟨creation, created⟩ h₄ hs₄ ⟨e, k, rfl, suffix, shown⟩
  have same : creation.1.trade.tradeId = tradeId := creation.2
  dsimp only
  split
  · exact reconcileRedeliveryLocked_meets
  · rename_i received
    have untouched : Untouched creation.1.trade.tradeId (e :: k) :=
      ⟨e, creation.1.trade, .here, shown, rfl, not_not.1 received⟩
    have earlier : h₁ <:+ e :: k :=
      ((hs₂.trans (List.suffix_cons _ _)).trans hs₃).trans hs₄
    refine .bind (handleReceived_meets untouched rfl ?_ (earlier.subset unblocked) approved valid)
      fun _ _ _ _ => .pure trivial
    rw [same]
    exact own

theorem handleOnce_meets {decision : Decision} {tradeId : String}
    (own : decision.tradeId = some tradeId) :
    Dutifully env (some decision) (handleOnce env decision tradeId) h := by
  refine .lift_bind fun _ valid => ?_
  split
  · exact .pure trivial
  · rename_i approved
    exact handleApproved_meets own (by simpa using approved) valid

theorem requiredOption_ok {value : Option String} {field text : String}
    (h : requiredOption env.lib value field = .ok text) : value = some text := by
  cases value with
  | none => cases h
  | some s =>
    unfold requiredOption requiredText at h
    dsimp only at h
    split at h
    · cases h
    · cases h
      rfl

theorem handle_meets {decision : Decision} :
    Dutifully env (some decision) (handle env decision) h := by
  unfold handle
  split
  · exact .lift_bind fun _ _ => .pure trivial
  refine .lift_bind fun tradeId own => withLock_meets fun h₁ => .lift_bind fun scope _ => ?_
  exact withLock_meets fun h₂ => withLock_meets fun h₃ => handleOnce_meets (requiredOption_ok own)

end Handle

section Reconcile

theorem reconcileTrades_meets (trades : List TradeRecord) (sidecarEvents : List Record) :
    Dutifully env handled (reconcileTrades env trades sidecarEvents) h := by
  induction trades generalizing h sidecarEvents with
  | nil => exact .pure trivial
  | cons trade rest ih =>
    refine .bind (withLock_meets fun h₁ => .ask_bind trivial fun current => ?_) ?_
    · cases current with
      | none => exact .pure trivial
      | some current =>
        obtain ⟨current, own⟩ := current
        dsimp only
        split
        · exact .pure trivial
        refine .bind (inert_meets (unripeEffects_calls env _ _) _) fun unripe h₂ hs₂ quiet => ?_
        refine .lift_bind fun _ _ => .ask_bind trivial fun venue => .ask_bind trivial fun drained => ?_
        obtain ⟨t, rfl, inert⟩ := quiet
        refine .bind (reconcileTrade_meets ⟨?_, .cons .here rfl, fun received => ?_⟩)
          fun _ _ _ _ => .pure trivial
        · exact (known_getTrade ⟨current, own⟩ h₁).mono
            ((hs₂.trans (List.suffix_cons _ _)).trans (List.suffix_cons _ _))
        · have silent : ∀ e ∈ t, e.call.silent := fun e he => Call.silent_of_inert (inert e he)
          exact ⟨_, current, .cons (.cons (.append .here silent) rfl) rfl, rfl, rfl, received⟩
    · rintro ⟨events, sidecarEvents⟩ h₂ - -
      exact .bind (ih _) fun _ _ _ _ => .pure trivial

theorem reconcileOnceUnlocked_meets :
    Dutifully env handled (reconcileOnceUnlocked env) h := by
  refine .ask_bind trivial fun blockers => ?_
  split
  · exact .pure trivial
  refine .ask_bind trivial fun allowed => ?_
  split
  · exact .ask_bind trivial fun _ => .pure trivial
  refine .ask_bind trivial fun effects => .lift_bind fun _ _ => .ask_bind trivial fun health => ?_
  refine .bind (bookkeeps_meets (observeHealth_calls env _ _) _) fun _ h₁ _ _ => ?_
  refine .ask_bind trivial fun sidecarEvents => .ask_bind trivial fun emitted => ?_
  refine .ask_bind trivial fun trades => ?_
  exact .bind (reconcileTrades_meets trades sidecarEvents) fun _ _ _ _ => .pure trivial

theorem reconcileOnce_meets : Dutifully env handled (reconcileOnce env) h := by
  refine withLock_meets fun h₁ => .lift_bind fun scope _ => withLock_meets fun h₂ => ?_
  refine .attempt_bind reconcileOnceUnlocked_meets (fun events _ _ _ => .pure trivial) ?_
  intro exc h₃ _
  exact .bind (inert_meets (blockEntriesUnlocked_calls env _) h₃) fun _ _ _ _ => .raise

end Reconcile

section Initialize

theorem auditTrades_meets (trades : List TradeRecord) :
    Dutifully env handled (auditTrades env trades) h := by
  induction trades generalizing h with
  | nil => exact .pure trivial
  | cons trade rest ih => exact .ask_bind trivial fun facts => .lift_bind fun _ _ => ih

/-- What is handled as a blocker owes what it owes where it is not handled. -/
theorem asBlockers_meets {subject : String} {body : Engine Unit}
    (m : Dutifully env handled body h) : Dutifully env handled (asBlockers subject body) h :=
  .attempt_bind m (fun _ _ _ _ => .pure trivial) fun _ _ _ => .pure trivial

theorem recoverEffects_meets (effects : List ExecutionEffect) :
    Dutifully env handled (recoverEffects env effects) h := by
  induction effects generalizing h with
  | nil => exact .pure trivial
  | cons effect rest ih =>
    have recovered : Dutifully env handled (recoverEffect env effect) h := by
      unfold recoverEffect
      split
      · exact recoverEffectLocked_meets
      · exact withLock_meets fun h₁ => recoverEffectLocked_meets
    refine .bind (asBlockers_meets recovered) fun found h₁ _ _ => ?_
    exact .bind ih fun _ _ _ _ => .pure trivial

theorem recoverTrade_meets {tradeId : String} {eligible : List String} :
    Dutifully env handled (recoverTrade env tradeId eligible) h := by
  refine withLock_meets fun h₁ => .ask_bind trivial fun current => ?_
  cases current with
  | none => exact .pure trivial
  | some current =>
    obtain ⟨current, own⟩ := current
    dsimp only
    split
    · exact .pure trivial
    refine .bind (inert_meets (unripeEffects_calls env _ _) _) fun unripe h₂ hs₂ quiet => ?_
    refine .lift_bind fun _ _ => .ask_bind trivial fun venue => ?_
    obtain ⟨t, rfl, inert⟩ := quiet
    refine .bind (reconcileTrade_meets ⟨?_, .here, fun received => ?_⟩)
      fun _ _ _ _ => .ask trivial fun _ => trivial
    · exact (known_getTrade ⟨current, own⟩ h₁).mono (hs₂.trans (List.suffix_cons _ _))
    · have silent : ∀ e ∈ t, e.call.silent := fun e he => Call.silent_of_inert (inert e he)
      exact ⟨_, current, .cons (.append .here silent) rfl, rfl, rfl, received⟩

theorem recoverTrades_meets {eligible : List String} (trades : List TradeRecord) :
    Dutifully env handled (recoverTrades env eligible trades) h := by
  induction trades generalizing h with
  | nil => exact .pure trivial
  | cons trade rest ih =>
    refine .bind (asBlockers_meets recoverTrade_meets) fun found h₁ _ _ => ?_
    exact .bind ih fun _ _ _ _ => .pure trivial

theorem completeRecovery_meets {epoch : ℤ} {blockers : List String} :
    Dutifully env handled (completeRecovery env epoch blockers) h := by
  have wide : Dutifully env handled (accountWideBlockers env) h := by
    have asked : Dutifully env handled (do
        let venue ← await .fetchPaperState
        let trades ← await (.tradesRecoveryRequired env.scope.environment env.scope.accountId)
        check (authoritativeAccountBlockers env venue trades none)) h :=
      .ask_bind trivial fun _ => .ask_bind trivial fun _ => .lift fun _ _ => trivial
    exact .attempt_bind asked (fun _ _ _ _ => .pure trivial) fun _ _ _ => .pure trivial
  have found : Dutifully env handled
      (if blockers.isEmpty then accountWideBlockers env else pure blockers) h := by
    split
    · exact wide
    · exact .pure trivial
  refine .bind found fun blockers h₁ _ _ => ?_
  refine .onlyIf_bind (P := fun _ => True) (fun _ => .ask trivial fun _ => trivial)
    (fun _ => trivial) fun h₂ _ _ => ?_
  exact .ask_bind trivial fun _ => .pure trivial

theorem initializeRecovery_meets : Dutifully env handled (initializeRecovery env) h := by
  refine withLock_meets fun h₁ => .lift_bind fun scope _ => withLock_meets fun h₂ => ?_
  refine .ask_bind trivial fun epoch => ?_
  have preflight : Dutifully env handled (do
      let health ← await .preflight
      observeHealth env health false
      let _ ← await .fetchPaperState) (answered (.beginRecovery env.accountScope) epoch :: h₂) := by
    refine .ask_bind trivial fun health => ?_
    refine .bind (bookkeeps_meets (observeHealth_calls env _ _) _) fun _ _ _ _ => ?_
    exact .ask_bind trivial fun _ => .pure trivial
  have blocked : ∀ (blocker : String) (h' : EngineHistory),
      Dutifully env handled (blockWith blocker) h' :=
    fun _ _ => .ask_bind trivial fun _ => .pure trivial
  refine .attempt_bind preflight (fun _ h₃ _ _ => ?_) fun exc h₃ _ => blocked _ h₃
  refine .attempt_bind (Q := fun _ _ => True) ?_ (fun _ h₄ _ _ => ?_) fun exc h₄ _ => blocked _ h₄
  · exact .ask_bind trivial fun trades => auditTrades_meets trades
  refine .ask_bind trivial fun effects => .bind (recoverEffects_meets effects) ?_
  intro effectBlockers h₅ _ _
  refine .ask_bind trivial fun trades => .bind (recoverTrades_meets trades) ?_
  intro tradeBlockers h₆ _ _
  exact completeRecovery_meets

theorem blockEntries_meets {detail : String} :
    Dutifully env handled (blockEntries env detail) h := by
  refine withLock_meets fun h₁ => .lift_bind fun scope _ => withLock_meets fun h₂ => ?_
  exact .mono (inert_meets (blockEntriesUnlocked_calls env _) h₂) fun _ _ _ _ => trivial

end Initialize

section Sessions

/-- What one call of the engine may leave: the events of an entry point, cut anywhere. -/
inductive EngineCall (env : Env) : EngineHistory → Prop
  | handle (decision : Decision) (h : EngineHistory) (o : Option (Except Err (List ExecutionEvent)))
      (run : Runs (handle env decision) [] h o) : EngineCall env h
  | reconcileOnce (h : EngineHistory) (o : Option (Except Err (List ExecutionEvent)))
      (run : Runs (reconcileOnce env) [] h o) : EngineCall env h
  | initializeRecovery (h : EngineHistory) (o : Option (Except Err (List String)))
      (run : Runs (initializeRecovery env) [] h o) : EngineCall env h
  | blockEntries (detail : String) (h : EngineHistory) (o : Option (Except Err Unit))
      (run : Runs (blockEntries env detail) [] h o) : EngineCall env h

/-- What an event of a call owes, where the decision that is handled is not of interest. -/
def Owed (env : Env) (h : EngineHistory) (c : Call) : Prop :=
  ∃ handled, Justified env handled h c

theorem dutiful_owed {h : EngineHistory} (d : Dutiful (Justified env handled) h) :
    Dutiful (Owed env) h := by
  induction h with
  | nil => trivial
  | cons e h ih => exact ⟨⟨handled, d.1⟩, ih d.2⟩

/-- Every call of the engine meets its duty at every event. -/
theorem EngineCall.dutiful {h : EngineHistory} (call : EngineCall env h) :
    Dutiful (Owed env) h := by
  cases call with
  | handle decision h o run => exact dutiful_owed (handle_meets.sound run trivial).1
  | reconcileOnce h o run =>
    have met : Dutiful (Justified env none) h := (reconcileOnce_meets.sound run trivial).1
    exact dutiful_owed met
  | initializeRecovery h o run =>
    have met : Dutiful (Justified env none) h := (initializeRecovery_meets.sound run trivial).1
    exact dutiful_owed met
  | blockEntries detail h o run =>
    have met : Dutiful (Justified env none) h := (blockEntries_meets.sound run trivial).1
    exact dutiful_owed met

end Sessions

end KairosExecution.Paper
