import KairosExecution.Paper.Duty.Reconcile

/-! Submitting an entry meets the duty. The checks between the journal row and the order
leave their events in a fixed sequence, which is the gate of the order; an order without
a fill is given up only on its own acknowledgement or on a snapshot that settles it. -/

namespace KairosExecution.Paper

open Python Interactive Interactive.Program

variable {env : Env} {handled : Option Decision} {h : EngineHistory}

section Gate

theorem checkOperatorEntry_meets {decision : Decision} {effectId : String} :
    Meets (Justified env handled) (checkOperatorEntry env decision effectId) h
      fun _ h' => h' = answered (.checkEntry decision effectId) () :: h := by
  have asked : Meets (Justified env handled) (await (.checkEntry decision effectId)) h
      fun _ h' => h' = answered (.checkEntry decision effectId) () :: h :=
    .ask trivial fun _ => rfl
  refine .lift_bind fun _ _ => .attempt_bind asked (fun _ h' _ eq => .pure eq) fun exc h' _ => ?_
  dsimp only
  split
  · exact .raise
  · exact .raise

theorem observeHealth_meets {health : Record} :
    Meets (Justified env handled) (observeHealth env health true) h fun _ h' =>
      (∃ telemetry, acceptHealth env health = .ok telemetry) ∧
        acceptEntryReserve health = .ok () ∧
        ∃ t, h' = t ++ h ∧ ∀ e ∈ t, e.call.bookkeeping := by
  have accepted : Meets (Justified env handled) (observeHealth env health true) h fun _ _ =>
      (∃ telemetry, acceptHealth env health = .ok telemetry) ∧
        acceptEntryReserve health = .ok () := by
    refine .lift_bind fun telemetry accepted => .ask_bind trivial fun _ => ?_
    refine .lift_bind fun _ funded => .ask_bind trivial fun _ => .lift_bind fun scope _ => ?_
    refine .ask_bind trivial fun previous => ?_
    exact .mono (bookkeeps_meets (recordRuntimeHealth_calls env _ _) _)
      fun _ _ _ _ => ⟨⟨telemetry, accepted⟩, funded⟩
  refine .mono (accepted.frame (observeHealth_calls env health true)) ?_
  rintro _ h' - ⟨⟨accepted, funded⟩, t⟩
  exact ⟨accepted, funded, t⟩

theorem blockIf_eq_nil {condition : Bool} {blocker : String} :
    blockIf condition blocker = [] ↔ condition = false := by
  cases condition <;> simp [blockIf]

theorem assertEntryAdmission_meets {trade : TradeRecord} :
    Meets (Justified env handled) (assertEntryAdmission env trade) h
      fun _ h' => AdmissionPassed env trade h' h := by
  refine .ask_bind trivial fun allowed => .lift_bind fun _ open' => .ask_bind trivial fun health => ?_
  have allowed_true : allowed = true := by simpa using open'
  subst allowed_true
  refine .bind observeHealth_meets fun _ h₁ _ ⟨⟨telemetry, accepted⟩, funded, u, eq, hu⟩ => ?_
  refine .ask_bind trivial fun venue => .ask_bind trivial fun durable => ?_
  refine .lift_bind fun blockers clean => .lift_bind fun decision of => ?_
  refine .lift_bind fun rule bound => .ask_bind trivial fun _ => .lift fun _ empty => ?_
  have none_found : blockers ++ blockIf
      (!(durable.filter fun candidate => candidate.tradeId ≠ trade.tradeId).isEmpty)
      "PAPER canary permits only one nonterminal trade globally" = [] := by simpa using empty
  obtain ⟨rfl, alone⟩ := List.append_eq_nil_iff.1 none_found
  refine ⟨[answered (.updateOperationalTelemetry rule) ()], u, venue, durable, health, telemetry,
    decision, rule, ?_, ?_, hu, accepted, funded, ?_, clean, of, bound⟩
  · rw [eq]
    rfl
  · intro e he
    cases List.mem_singleton.1 he
    rfl
  · simpa using blockIf_eq_nil.1 alone

theorem reserveEntry_meets {effectId : String} :
    Meets (Justified env handled) (reserveMutation env effectId "place_limit" false true) h
      fun _ h' => BudgetReserved effectId h' h := by
  refine .lift_bind fun scope _ => .ask_bind trivial fun reservation => ?_
  refine .ask_bind trivial fun _ => .ask_bind trivial fun health => ?_
  refine .onlyIf_bind (P := fun h' => ∃ t, h' = t ++
      answered (.reserve scope effectId "place_limit" false) reservation :: h ∧
      ∀ e ∈ t, e.call.bookkeeping) (fun _ => ?_) (fun _ => ?_) ?_
  · refine .mono (bookkeeps_meets (recordRuntimeHealth_calls env _ _) _) ?_
    rintro _ h' - ⟨t, rfl, ht⟩
    refine ⟨t ++ [_, _], (List.append_assoc t [_, _] _).symm, fun e he => ?_⟩
    rcases List.mem_append.1 he with he | he
    · exact ht e he
    · simp only [List.mem_cons, List.not_mem_nil, or_false] at he
      rcases he with rfl | rfl <;> rfl
  · refine ⟨[_, _], rfl, fun e he => ?_⟩
    simp only [List.mem_cons, List.not_mem_nil, or_false] at he
    rcases he with rfl | rfl <;> rfl
  · rintro h' - ⟨t, rfl, ht⟩
    refine .lift_bind fun _ fresh => .lift_bind fun _ granted => .lift fun _ funded => ?_
    refine ⟨t, scope, reservation, rfl, ht, by simpa using granted, by simpa using fresh, ?_⟩
    simpa using funded

/-- The journal row is the last event, and nothing was sent before it. -/
theorem prepareEntryEffect_meets {decision : Decision} {trade : TradeRecord}
    {effectId clientOrderId : String} :
    Meets (Justified env handled) (prepareEntryEffect env decision trade effectId clientOrderId) h
      fun preparation h' => ∃ request t, h' = answered (.prepare request) preparation :: (t ++ h) ∧
        request.effectKey = effectId ∧ request.tradeId = trade.tradeId ∧
        ∀ e ∈ t, e.call.still := by
  refine .bind checkOperatorEntry_meets fun _ h₁ _ eq₁ => ?_
  refine .bind (bookkeeps_meets (bindCanaryEntry_calls env _ _) _) fun _ h₂ _ bound => ?_
  refine .bind (bookkeeps_meets nowMs_calls _) fun now h₃ _ read => ?_
  refine .lift_bind fun _ _ => .bind assertEntryAdmission_meets fun _ h₄ _ passed => ?_
  have still : ∀ c : Call, c.bookkeeping → c.still :=
    fun c hc => Call.still_of_inert (Call.inert_of_bookkeeping hc)
  have first : Still h h₁ := by
    rw [eq₁]
    exact .cons .refl rfl
  obtain ⟨t, eq, ht⟩ :=
    ((first.trans (bound.mono still)).trans (read.mono still)).trans passed.still
  rw [eq]
  exact .ask (fun manual => nomatch manual) fun preparation => ⟨_, t, rfl, rfl, rfl, ht⟩

theorem nowMs_meets :
    Meets (Justified env handled) nowMs h fun now h' =>
      ∃ instant, h' = answered .clock instant :: h ∧ now = milliseconds instant :=
  .ask_bind trivial fun instant => .pure ⟨instant, rfl, rfl⟩

/-- The body runs with both guards held; what it promises must survive their release. -/
theorem entryDispatchGuard_meets {α : Type} {decision : Decision} {effectId : String}
    {body : Engine α} {Q : α → EngineHistory → Prop}
    (m : ∀ h', GuardsHeld decision effectId h' h → Meets (Justified env handled) body h' Q)
    (keep : ∀ a h₁ h₂, h₁ <:+ h₂ → Q a h₁ → Q a h₂) :
    Meets (Justified env handled) (entryDispatchGuard env decision effectId body) h Q := by
  refine .lift_bind fun _ _ => ?_
  refine .bracket (P := fun h' => h' = answered (.enterOperatorGuard decision effectId) () :: h)
    (.ask trivial fun _ => rfl) (fun h₁ _ eq₁ => ?_)
    fun r h' _ q => .ask trivial fun _ a eq => keep a _ _ (List.suffix_cons _ _) (q a eq)
  refine .bracket (P := fun h' => h' = answered (.enterCanaryDispatch decision effectId) () :: h₁)
    (.ask trivial fun _ => rfl) (fun h₂ _ eq₂ => ?_)
    fun r h' _ q => .ask trivial fun _ a eq => keep a _ _ (List.suffix_cons _ _) (q a eq)
  refine .bind checkOperatorEntry_meets fun _ h₃ _ eq₃ => m h₃ ?_
  subst eq₁ eq₂
  exact eq₃

/-- What a handled decision has done before its journal row is prepared. -/
structure Begun (env : Env) (handled : Option Decision) (decision : Decision)
    (trade : TradeRecord) (h : EngineHistory) : Prop where
  handled : handled = some decision
  own : decision.tradeId = some trade.tradeId
  unblocked : answered .recoveryBlockers [] ∈ h
  pending : ∃ move moved, answered (.transition move) moved ∈ h ∧
    move.tradeId = trade.tradeId ∧ move.target = .ENTRY_PENDING

/-- The response is that of the order just placed, or the row had one and nothing was called. -/
theorem entryEffect_meets {decision : Decision} {trade : TradeRecord} {clientOrderId : String}
    {request : PrepareRequest} {preparation : EffectPreparation}
    (key : request.effectKey = env.effectId trade.tradeId .ENTRY .place)
    (own : request.tradeId = trade.tradeId) (begun : Begun env handled decision trade h) :
    Meets (Justified env handled)
      (entryEffect env decision trade (env.effectId trade.tradeId .ENTRY .place) clientOrderId
        preparation) (answered (.prepare request) preparation :: h)
      fun response h' => answered (.mutate (entryOrder decision trade
        (env.effectId trade.tradeId .ENTRY .place) clientOrderId)) response ∈ h' ∨
        h' = answered (.prepare request) preparation :: h := by
  refine .lift_bind fun _ _ => .lift_bind fun cached _ => ?_
  cases cached with
  | some cached => exact .lift_bind fun _ _ => .pure (.inr rfl)
  | none =>
    refine .lift_bind fun _ unmade => .ask_bind trivial fun allowed => .lift_bind fun _ opened => ?_
    have created : preparation.created = true := by simpa using unmade
    have allowed_true : allowed = true := by simpa using opened
    subst allowed_true
    refine .bind assertEntryAdmission_meets fun _ h₁ _ admission => ?_
    refine .ask_bind trivial fun depth => .bind (bookkeeps_meets nowMs_calls _) ?_
    rintro bookTime h₂ - ⟨w, rfl, hw⟩
    refine .lift_bind fun telemetry _ => .ask_bind trivial fun _ => .bind nowMs_meets ?_
    rintro now h₃ - ⟨instant, rfl, rfl⟩
    refine .lift_bind fun _ fresh => .bind checkOperatorEntry_meets fun _ h₄ _ eq₄ => ?_
    have freshness : FreshnessChecked decision (env.effectId trade.tradeId .ENTRY .place) h₄ h₁ := by
      refine ⟨instant, _ :: w, _, depth, eq₄, fun e he => ?_, assertFreshEntryMarket_ok.1 fresh⟩
      rcases List.mem_cons.1 he with rfl | he
      · rfl
      · exact hw e he
    refine .bind reserveEntry_meets fun _ h₅ _ budget => ?_
    have sent : ∀ h₆, GuardsHeld decision (env.effectId trade.tradeId .ENTRY .place) h₆ h₅ →
        Meets (Justified env handled) (do
          let response ← await (.mutate (entryOrder decision trade
            (env.effectId trade.tradeId .ENTRY .place) clientOrderId))
          let fill ← check (validateEntryResponse env.lib response decision clientOrderId)
          await (.confirm (env.effectId trade.tradeId .ENTRY .place) fill.exchangeOrderId response)
          return response) h₆ fun response h' => answered (.mutate (entryOrder decision trade
            (env.effectId trade.tradeId .ENTRY .place) clientOrderId)) response ∈ h' := by
      intro h₆ guards
      have gate : EntryGate env decision h₆ (entryOrder decision trade
          (env.effectId trade.tradeId .ENTRY .place) clientOrderId) :=
        .admitted trade clientOrderId request preparation h _ h₁ h₄ h₅ rfl guards budget freshness
          admission rfl key own created begun.unblocked begun.pending begun.own
      have checked : Still (answered (.prepare request) preparation :: h) h₁ :=
        .trans (.cons .refl rfl) admission.still
      have still := ((checked.trans freshness.still).trans budget.still).trans guards.still
      have armed : Armed (env.effectId trade.tradeId .ENTRY .place) h₆ := by
        rw [← key]
        exact (armed_prepare created h).still still
      refine .ask_bind ⟨armed, ⟨_, _, _, rfl⟩, decision, begun.handled, gate⟩ fun response => ?_
      refine .lift_bind fun fill _ => .ask_bind trivial fun _ => .pure ?_
      exact List.mem_cons_of_mem _ List.mem_cons_self
    refine .mono (entryDispatchGuard_meets sent fun response _ _ suffix => (suffix.subset ·)) ?_
    exact fun _ _ _ placed => .inl placed

end Gate

section Settle

/-- The last snapshot settles the entry with this record. -/
def SettledBy (env : Env) (decision : Decision) (trade : TradeRecord) (record : Record)
    (h : EngineHistory) : Prop :=
  ∃ venue seen, LastRead venue h ∧
    settledEntryProjection env decision trade venue = .ok (some record, seen)

theorem settlePolls_meets {decision : Decision} {trade : TradeRecord} (left : ℕ) (seen : Bool) :
    Meets (Justified env handled) (settlePolls env decision trade left seen) h
      fun result h' => ∀ record, result.1 = some record → SettledBy env decision trade record h' := by
  induction left generalizing seen h with
  | zero => exact .pure fun record eq => nomatch eq
  | succ left ih =>
    refine .ask_bind trivial fun venue => .lift_bind fun projection settles => ?_
    obtain ⟨settled, observed⟩ := projection
    cases settled with
    | some record => exact .pure fun _ eq => by cases eq; exact ⟨venue, observed, .here, settles⟩
    | none =>
      refine .onlyIf_bind (P := fun _ => True)
        (fun _ => .ask trivial fun _ => trivial) (fun _ => trivial) ?_
      exact fun h' _ _ => ih (h := h') _

/-- The last snapshot shows neither the entry nor a fill of it. -/
def NothingLeft (env : Env) (decision : Decision) (trade : TradeRecord) (venue : Venue)
    (h : EngineHistory) : Prop :=
  LastRead venue h ∧ settledEntryProjection env decision trade venue = .ok (none, false) ∧
    OrderGone env venue trade.entryClientOrderId

theorem cancelPolls_meets {decision : Decision} {trade : TradeRecord} (left : ℕ)
    (last : Option Venue)
    (start : left = 0 → ∀ venue, last = some venue → NothingLeft env decision trade venue h) :
    Meets (Justified env handled) (cancelPolls env decision trade left last) h fun result h' =>
      (∀ record, result.1 = some record → SettledBy env decision trade record h') ∧
      (result.1 = none → ∀ venue, result.2 = some venue →
        NothingLeft env decision trade venue h') := by
  induction left generalizing last h with
  | zero => exact .pure ⟨(fun _ eq => nomatch eq), fun _ venue eq => start rfl venue eq⟩
  | succ left ih =>
    refine .ask_bind trivial fun venue => .lift_bind fun projection settles => ?_
    obtain ⟨settled, observed⟩ := projection
    cases settled with
    | some record =>
      refine .pure ⟨fun _ eq => ?_, fun eq => nomatch eq⟩
      cases eq
      exact ⟨venue, observed, .here, settles⟩
    | none =>
      refine .lift_bind fun _ unseen => .lift_bind fun entry found => .lift_bind fun _ proven => ?_
      have unseen : observed = false := by simpa using unseen
      subst unseen
      refine .onlyIf_bind (P := fun h' => left = 0 → NothingLeft env decision trade venue h')
        (fun more => .ask trivial fun _ none => absurd none more.ne') (fun _ none => ?_) ?_
      · have absent : entry = .none := by simpa [none] using proven
        rw [absent] at found
        exact ⟨.here, settles, found⟩
      · intro h' _ nothing
        exact ih (h := h') _ fun zero _ eq => by cases eq; exact nothing zero

theorem settleOrCancelIocEntry_meets {decision : Decision} {trade : TradeRecord}
    {acknowledged : Record} :
    Meets (Justified env handled) (settleOrCancelIocEntry env decision trade acknowledged) h
      fun response h' => SettledBy env decision trade response h' ∨
        ∃ venue position, NothingLeft env decision trade venue h' ∧
          positionQuantityForTrade env venue trade = .ok position ∧ position ≤ 0 := by
  refine .bind (settlePolls_meets _ _) fun polled h₁ _ settles => ?_
  obtain ⟨settled, seen⟩ := polled
  cases settled with
  | some record => exact .pure (.inl (settles record rfl))
  | none =>
    refine .lift_bind fun _ _ => .bind cancelEntryEffect_meets fun ack h₂ _ _ => ?_
    refine .lift_bind fun ackId _ => .lift_bind fun _ _ => .lift_bind fun _ _ => ?_
    refine .bind (cancelPolls_meets _ _ fun zero => nomatch zero) ?_
    rintro ⟨settled, last⟩ h₃ - ⟨settles, nothing⟩
    cases settled with
    | some record => exact .pure (.inl (settles record rfl))
    | none => cases last with
      | none => exact .raise
      | some venue =>
        refine .lift_bind fun position measured => .lift_bind fun _ closed => .pure (.inr ?_)
        exact ⟨venue, position, nothing rfl venue rfl, measured, by simpa using closed⟩

/-- Where no projection settles the entry and none shows a fill, its history has none. -/
theorem historyUnfilled_of_projection {decision : Decision} {trade : TradeRecord} {venue : Venue}
    (unsettled : settledEntryProjection env decision trade venue = .ok (none, false)) :
    HistoryUnfilled env decision venue trade.entryClientOrderId := by
  obtain ⟨position, -, unsettled⟩ := bind_eq_ok.1 unsettled
  obtain ⟨candidates, hc, unsettled⟩ := bind_eq_ok.1 unsettled
  obtain ⟨validated, hv, unsettled⟩ := bind_eq_ok.1 unsettled
  obtain ⟨openOrder, -, hc⟩ := bind_eq_ok.1 hc
  obtain ⟨historical, hh, hc⟩ := bind_eq_ok.1 hc
  refine ⟨historical, hh, fun record found => ?_⟩
  cases found
  have candidate : record ∈ candidates := by
    cases openOrder with
    | none => cases hc; exact List.mem_singleton_self _
    | some order =>
      dsimp only at hc
      split at hc
      · cases hc; exact List.mem_singleton_self _
      · cases hc; exact List.mem_cons_of_mem _ (List.mem_singleton_self _)
  obtain ⟨entry, he, valid⟩ := (mem_mapM hv).1 record candidate
  obtain ⟨fill, hf, valid⟩ := bind_eq_ok.1 valid
  cases valid
  refine ⟨fill, hf, not_lt.1 fun positive => ?_⟩
  split at unsettled
  · split at unsettled
    · cases unsettled
    · cases unsettled
  · dsimp only at unsettled
    split at unsettled
    · have observed : validated.any (fun entry => entry.2.filled > 0) = true :=
        List.any_eq_true.2 ⟨_, he, by simpa using positive⟩
      rw [observed] at unsettled
      cases unsettled
    · cases unsettled
    · obtain ⟨-, -, unsettled⟩ := bind_eq_ok.1 unsettled
      cases unsettled

/-- An order without a fill may be given up on what submitting it has shown. -/
theorem submitEntry_meets {decision : Decision} {trade : TradeRecord}
    {clientOrderId : String} {request : PrepareRequest} {preparation : EffectPreparation}
    (key : request.effectKey = env.effectId trade.tradeId .ENTRY .place)
    (own : request.tradeId = trade.tradeId) (begun : Begun env handled decision trade h)
    (known : Known trade h) (approved : decision.approved = true)
    (valid : validateDecision env decision = .ok ()) (untouched : Untouched trade.tradeId h) :
    Meets (Justified env handled)
      (submitEntry env decision trade (env.effectId trade.tradeId .ENTRY .place)
        clientOrderId preparation) (answered (.prepare request) preparation :: h)
      fun result h' => result.2.filled ≤ 0 → terminalEntryStatus result.2.status →
        CancelEvidence env trade.tradeId h' := by
  refine .bind (entryEffect_meets key own begun) fun response h₁ hs₁ placed => ?_
  refine .lift_bind fun fill validated => ?_
  split
  · refine .bind settleOrCancelIocEntry_meets fun response h₂ hs₂ settled => ?_
    refine .lift_bind fun fill validated => .pure fun unfilled _ => ?_
    have known₂ : Known trade h₂ :=
      known.mono ((List.suffix_cons _ _).trans (hs₁.trans hs₂))
    rcases settled with ⟨venue, seen, last, settles⟩ | ⟨venue, position, nothing, measured, le⟩
    · exact .settled trade decision venue response seen clientOrderId fill last known₂ rfl
        (.inr ⟨approved, valid⟩) settles validated unfilled
    · obtain ⟨last, unsettled, gone⟩ := nothing
      exact .clean venue last (known₂.shown rfl (showsFlat_of_tradeQuantity measured le))
        (known₂.shown rfl gone) ⟨decision, known₂.shown rfl (.inr ⟨approved, valid⟩),
          known₂.shown rfl (historyUnfilled_of_projection unsettled)⟩
  · refine .pure fun unfilled terminal => ?_
    rcases placed with sent | same
    · exact .acknowledged ⟨decision, trade, clientOrderId, response, fill, sent, approved, valid,
        validated, unfilled, terminal⟩
    · rw [same]
      exact .untouched (untouched.silent (t := [answered (.prepare request) preparation])
        fun e he => by cases List.mem_singleton.1 he; rfl)

end Settle

end KairosExecution.Paper
