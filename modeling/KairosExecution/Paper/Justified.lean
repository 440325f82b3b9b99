import KairosExecution.Paper.Evidence

/-! What the engine owes before it changes anything: the events of the call that must
stand behind a mutation, a prepared row and a lifecycle transition. Each kind of
evidence survives the bookkeeping that every transition does first. -/

namespace KairosExecution.Paper

open Python Interactive

variable (env : Env)

section Exits

/-- The trade has been shown in a state that its entry's fill precedes. -/
abbrev PastEntry (tradeId : String) : EngineHistory → Prop :=
  Shown tradeId fun record => record.state.pastEntry

/-- The snapshot shows the position of the trade closed. -/
abbrev FlatIn (tradeId : String) (venue : Venue) : EngineHistory → Prop :=
  Shown tradeId fun record => ShowsFlat env venue record.symbol

/-- The snapshot does not list the trade's entry order. -/
abbrev GoneIn (tradeId : String) (venue : Venue) : EngineHistory → Prop :=
  Shown tradeId fun record => OrderGone env venue record.entryClientOrderId

/-- The snapshot's open orders can be read for the trade's entry. -/
abbrev EntryReadable (tradeId : String) (venue : Venue) : EngineHistory → Prop :=
  Shown tradeId fun record => ∃ found,
    findOrder env.lib venue (some record.entryClientOrderId) = .ok found

/-- A snapshot without the entry order was read once the trade was past its entry. -/
def EntryGone (tradeId : String) (h : EngineHistory) : Prop :=
  ∃ l venue k, h = l ++ read venue :: k ∧ PastEntry tradeId k ∧ GoneIn env tradeId venue k

/-- The same snapshot also showed the position closed. -/
def ClosedAndGone (tradeId : String) (h : EngineHistory) : Prop :=
  ∃ l venue k, h = l ++ read venue :: k ∧ PastEntry tradeId k ∧ GoneIn env tradeId venue k ∧
    FlatIn env tradeId venue k

/-- The position was shown closed, and no exit was started since. -/
def ClosedSince (tradeId : String) (h : EngineHistory) : Prop :=
  ∃ venue, Lately Call.held (read venue) h ∧ FlatIn env tradeId venue h

/-- What stands behind a transition to `FLAT`: a snapshot of a closed trade, a triggered
exit of this call, or an exit of an earlier call that is taken up again. -/
inductive CloseEvidence (tradeId : String) (h : EngineHistory) : Prop
  | gone (snapshot : ClosedAndGone env tradeId h)
  | triggered (request : TransitionRequest) (moved : Moved request.tradeId request.target)
      (done : answered (.transition request) moved ∈ h)
      (own : request.tradeId = tradeId) (exit : request.target.triggered)
  | resumedTrigger (closed : ClosedSince env tradeId h)
      (exit : Shown tradeId (fun record => record.state.triggered) h)
  | resumedClose (closed : ClosedSince env tradeId h) (role : OrderRole) (manual : role.manual)
      (effect : ExecutionEffect) (row : RowRead (env.effectId tradeId role .close) effect h)

/-- What stands behind a transition to `EXITING_STOP` or `EXITING_TARGET`: the last
snapshot shows the position of a filled entry closed. -/
def TriggerEvidence (tradeId : String) (h : EngineHistory) : Prop :=
  ∃ venue, Lately Call.calm (read venue) h ∧ PastEntry tradeId h ∧ FlatIn env tradeId venue h ∧
    EntryReadable env tradeId venue h

end Exits

section Cancellation

/-- The last snapshot that was asked for is this one. -/
abbrev LastRead (venue : Venue) (h : EngineHistory) : Prop := Lately Call.blind (read venue) h

/-- The decision that the trade was made from, as the engine comes by it. -/
def DecisionOf (decision : Decision) (trade : TradeRecord) : Prop :=
  decisionForTrade env trade = .ok decision ∨
    (decision.approved = true ∧ validateDecision env decision = .ok ())

/-- The snapshot's history of the trade's entry is without a fill. -/
def UnfilledIn (tradeId : String) (venue : Venue) (h : EngineHistory) : Prop :=
  ∃ decision, Shown tradeId (DecisionOf env decision) h ∧
    Shown tradeId (fun record =>
      HistoryUnfilled env decision venue record.entryClientOrderId) h

/-- The trade was read as `RECEIVED`, and nothing was sent to the venue since. -/
def Untouched (tradeId : String) (h : EngineHistory) : Prop :=
  ∃ e record, Lately Call.silent e h ∧ recordOf e = some record ∧
    record.tradeId = tradeId ∧ record.state = .RECEIVED

/-- The acknowledgement of the order is terminal and without a fill. -/
def AckWithoutFill (tradeId : String) (h : EngineHistory) : Prop :=
  ∃ decision trade clientOrderId response fill,
    answered (.mutate (entryOrder decision trade (env.effectId tradeId .ENTRY .place)
      clientOrderId)) response ∈ h ∧
    decision.approved = true ∧ validateDecision env decision = .ok () ∧
    validateEntryResponse env.lib response decision clientOrderId = .ok fill ∧
    fill.filled ≤ 0 ∧ terminalEntryStatus fill.status

/-- What stands behind a transition to `CANCELLED`. -/
inductive CancelEvidence (tradeId : String) (h : EngineHistory) : Prop
  | untouched (received : Untouched tradeId h)
  | unprepared (absent : Lately Call.silent
      (answered (.getEffect (env.effectId tradeId .ENTRY .place)) none) h)
  | acknowledged (ack : AckWithoutFill env tradeId h)
  | settled (record : TradeRecord) (decision : Decision) (venue : Venue) (response : Record)
      (seen : Bool) (clientOrderId : String) (fill : OrderFill) (last : LastRead venue h)
      (known : Known record h) (own : record.tradeId = tradeId)
      (of : DecisionOf env decision record)
      (projection : settledEntryProjection env decision record venue = .ok (some response, seen))
      (valid : validateEntryResponse env.lib response decision clientOrderId = .ok fill)
      (unfilled : fill.filled ≤ 0)
  | clean (venue : Venue) (last : LastRead venue h) (flat : FlatIn env tradeId venue h)
      (gone : GoneIn env tradeId venue h) (history : UnfilledIn env tradeId venue h)
  | marked (venue : Venue) (last : LastRead venue h) (flat : FlatIn env tradeId venue h)
      (gone : GoneIn env tradeId venue h) (effect : ExecutionEffect)
      (row : RowRead (env.effectId tradeId .ENTRY .place) effect h)
      (mark : markedAbsentAndFlat (some effect) = true)

end Cancellation

/-- What stands behind a lifecycle transition. -/
def TransitionEvidence (tradeId : String) (target : TradeState) (h : EngineHistory) : Prop :=
  match target with
  | .RECEIVED => False
  | .FLAT => CloseEvidence env tradeId h
  | .EXITING_STOP | .EXITING_TARGET => TriggerEvidence env tradeId h
  | .CANCELLED => CancelEvidence env tradeId h
  | _ => True

section Admission

/-- `_assert_entry_admission` passed, in these events since `h₀`. -/
def AdmissionPassed (trade : TradeRecord) (h h₀ : EngineHistory) : Prop :=
  ∃ t u venue durable health telemetry decision rule,
    h = t ++ (answered (.tradesRecoveryRequired env.scope.environment env.scope.accountId) durable ::
      read venue :: (u ++ (answered .preflight health ::
        answered (.entriesAllowed env.accountScope) true :: h₀))) ∧
    (∀ e ∈ t, e.call.bookkeeping) ∧ (∀ e ∈ u, e.call.bookkeeping) ∧
    acceptHealth env health = .ok telemetry ∧ acceptEntryReserve health = .ok () ∧
    (∀ candidate ∈ durable, candidate.tradeId = trade.tradeId) ∧
    authoritativeAccountBlockers env venue durable (some trade.tradeId) = .ok [] ∧
    decisionForTrade env trade = .ok decision ∧
    assertTechnicalCanaryInstrument env decision venue = .ok rule

/-- The budget of the entry was reserved afresh, in these events since `h₀`. -/
def BudgetReserved (effectId : String) (h h₀ : EngineHistory) : Prop :=
  ∃ t scope reservation,
    h = t ++ answered (.reserve scope effectId "place_limit" false) reservation :: h₀ ∧
    (∀ e ∈ t, e.call.bookkeeping) ∧ reservation.granted = true ∧ reservation.replay = false ∧
    6 ≤ reservation.remaining

/-- The live book, freshness and the operator were checked, in these events since `h₀`. -/
def FreshnessChecked (decision : Decision) (effectId : String) (h h₀ : EngineHistory) : Prop :=
  ∃ now w symbol depth,
    h = answered (.checkEntry decision effectId) () :: answered .clock now ::
      (w ++ answered (.fetchDepth symbol 100) depth :: h₀) ∧
    (∀ e ∈ w, e.call.bookkeeping) ∧ freshAt decision (milliseconds now)

/-- Both dispatch guards were entered, and the operator was asked again inside. -/
def GuardsHeld (decision : Decision) (effectId : String) (h h₀ : EngineHistory) : Prop :=
  h = answered (.checkEntry decision effectId) () ::
    answered (.enterCanaryDispatch decision effectId) () ::
    answered (.enterOperatorGuard decision effectId) () :: h₀

/-- What stands behind `place_limit`, from the first event of the call to the last. -/
inductive EntryGate (decision : Decision) (h : EngineHistory) (m : Mutation) : Prop
  | admitted (trade : TradeRecord) (clientOrderId : String) (request : PrepareRequest)
      (preparation : EffectPreparation) (begun prepared admitted fresh reserved : EngineHistory)
      (order : m = entryOrder decision trade (env.effectId trade.tradeId .ENTRY .place) clientOrderId)
      (guards : GuardsHeld decision (env.effectId trade.tradeId .ENTRY .place) h reserved)
      (budget : BudgetReserved (env.effectId trade.tradeId .ENTRY .place) reserved fresh)
      (freshness : FreshnessChecked decision (env.effectId trade.tradeId .ENTRY .place) fresh admitted)
      (admission : AdmissionPassed env trade admitted
        (answered (.entriesAllowed env.accountScope) true :: prepared))
      (row : prepared = answered (.prepare request) preparation :: begun)
      (key : request.effectKey = env.effectId trade.tradeId .ENTRY .place)
      (own : request.tradeId = trade.tradeId)
      (created : preparation.created = true)
      (unblocked : answered .recoveryBlockers [] ∈ begun)
      (pending : ∃ move moved, answered (.transition move) moved ∈ begun ∧
        move.tradeId = trade.tradeId ∧ move.target = .ENTRY_PENDING)
      (handled : decision.tradeId = some trade.tradeId)

end Admission

/-- Every effect of a trade is under a key of its own. -/
def IsEffectKey (key : String) : Prop := ∃ tradeId role operation,
  key = env.effectId tradeId role operation

variable (handled : Option Decision)

/-- What the engine owes before a call, while it handles a decision or does not. -/
def Justified (h : EngineHistory) : Call → Prop
  | .mutate m => Armed m.effectId h ∧ IsEffectKey env m.effectId ∧ match m with
    | .placeLimit .. => ∃ decision, handled = some decision ∧ EntryGate env decision h m
    | _ => True
  | .prepare request => request.orderRole.manual → EntryGone env request.tradeId h
  | .createTrade trade _ _ => ∃ decision, decision.approved = true ∧
      validateDecision env decision = .ok () ∧ trade.riskDecisionPayload = env.toPayload decision
  | .transition request => TransitionEvidence env request.tradeId request.target h
  | _ => True

section Stability

/-- The gate of an entry neither prepares nor sends anything on its way. -/
abbrev Still : EngineHistory → EngineHistory → Prop := Adds fun c : Call => c.still = true

theorem still_of_bookkeeping {t h : EngineHistory} (ht : ∀ e ∈ t, e.call.bookkeeping) :
    Still h (t ++ h) :=
  ⟨t, rfl, fun e he => Call.still_of_inert (Call.inert_of_bookkeeping (ht e he))⟩

theorem AdmissionPassed.still {env : Env} {trade : TradeRecord} {h h₀ : EngineHistory}
    (passed : AdmissionPassed env trade h h₀) : Still h₀ h := by
  obtain ⟨t, u, venue, durable, health, -, -, -, rfl, ht, hu, -⟩ := passed
  have asked : Still h₀ (answered .preflight health ::
      answered (.entriesAllowed env.accountScope) true :: h₀) := .cons (.cons .refl rfl) rfl
  have listed := asked.trans (still_of_bookkeeping hu)
  exact .trans (.cons (.cons listed rfl) rfl) (still_of_bookkeeping ht)

theorem FreshnessChecked.still {decision : Decision} {effectId : String} {h h₀ : EngineHistory}
    (checked : FreshnessChecked decision effectId h h₀) : Still h₀ h := by
  obtain ⟨now, w, symbol, depth, rfl, hw, -⟩ := checked
  have book : Still h₀ (answered (.fetchDepth symbol 100) depth :: h₀) := .cons .refl rfl
  exact .cons (.cons (book.trans (still_of_bookkeeping hw)) rfl) rfl

theorem BudgetReserved.still {effectId : String} {h h₀ : EngineHistory}
    (reserved : BudgetReserved effectId h h₀) : Still h₀ h := by
  obtain ⟨t, scope, reservation, rfl, ht, -⟩ := reserved
  exact .trans (.cons .refl rfl) (still_of_bookkeeping ht)

theorem GuardsHeld.still {decision : Decision} {effectId : String} {h h₀ : EngineHistory}
    (held : GuardsHeld decision effectId h h₀) : Still h₀ h := by
  rw [held]
  exact .cons (.cons (.cons .refl rfl) rfl) rfl

variable {env handled} {tradeId : String} {t h h' : EngineHistory}

theorem EntryGone.mono (gone : EntryGone env tradeId h) (suffix : h <:+ h') :
    EntryGone env tradeId h' := by
  obtain ⟨t, rfl⟩ := suffix
  obtain ⟨l, venue, k, rfl, rest⟩ := gone
  exact ⟨t ++ l, venue, k, (List.append_assoc ..).symm, rest⟩

theorem ClosedAndGone.mono (closed : ClosedAndGone env tradeId h) (suffix : h <:+ h') :
    ClosedAndGone env tradeId h' := by
  obtain ⟨t, rfl⟩ := suffix
  obtain ⟨l, venue, k, rfl, rest⟩ := closed
  exact ⟨t ++ l, venue, k, (List.append_assoc ..).symm, rest⟩

theorem ClosedSince.held (closed : ClosedSince env tradeId h) (ht : ∀ e ∈ t, e.call.held) :
    ClosedSince env tradeId (t ++ h) := by
  obtain ⟨venue, since, flat⟩ := closed
  exact ⟨venue, since.append ht, flat.mono (List.suffix_append t h)⟩

/-- The evidence of a close survives calls that neither prepare nor trigger an exit. -/
theorem CloseEvidence.held (ev : CloseEvidence env tradeId h) (ht : ∀ e ∈ t, e.call.held) :
    CloseEvidence env tradeId (t ++ h) := by
  have suffix : h <:+ t ++ h := List.suffix_append t h
  cases ev with
  | gone snapshot => exact .gone (snapshot.mono suffix)
  | triggered request moved done own exit =>
    exact .triggered request moved (suffix.subset done) own exit
  | resumedTrigger closed exit => exact .resumedTrigger (closed.held ht) (exit.mono suffix)
  | resumedClose closed role manual effect row =>
    exact .resumedClose (closed.held ht) role manual effect (suffix.subset row)

theorem TriggerEvidence.calm (ev : TriggerEvidence env tradeId h) (ht : ∀ e ∈ t, e.call.calm) :
    TriggerEvidence env tradeId (t ++ h) := by
  have suffix : h <:+ t ++ h := List.suffix_append t h
  obtain ⟨venue, since, past, flat, readable⟩ := ev
  exact ⟨venue, since.append ht, past.mono suffix, flat.mono suffix, readable.mono suffix⟩

theorem CancelEvidence.calm (ev : CancelEvidence env tradeId h) (ht : ∀ e ∈ t, e.call.calm) :
    CancelEvidence env tradeId (t ++ h) := by
  have silent : ∀ e ∈ t, e.call.silent := fun e he => Call.silent_of_calm (ht e he)
  have blind : ∀ e ∈ t, e.call.blind := fun e he => Call.blind_of_calm (ht e he)
  have suffix : h <:+ t ++ h := List.suffix_append t h
  cases ev with
  | untouched received =>
    obtain ⟨e, record, since, rest⟩ := received
    exact .untouched ⟨e, record, since.append silent, rest⟩
  | unprepared absent => exact .unprepared (absent.append silent)
  | acknowledged ack =>
    obtain ⟨decision, trade, clientId, response, fill, sent, rest⟩ := ack
    exact .acknowledged ⟨decision, trade, clientId, response, fill, suffix.subset sent, rest⟩
  | settled record decision venue response seen clientId fill last known own of projection valid
      unfilled =>
    exact .settled record decision venue response seen clientId fill (last.append blind)
      (known.mono suffix) own of projection valid unfilled
  | clean venue last flat gone history =>
    obtain ⟨decision, of, unfilled⟩ := history
    exact .clean venue (last.append blind) (flat.mono suffix) (gone.mono suffix)
      ⟨decision, of.mono suffix, unfilled.mono suffix⟩
  | marked venue last flat gone effect row mark =>
    exact .marked venue (last.append blind) (flat.mono suffix) (gone.mono suffix) effect
      (suffix.subset row) mark

theorem TransitionEvidence.bookkeeping {target : TradeState}
    (ev : TransitionEvidence env tradeId target h) (ht : ∀ e ∈ t, e.call.bookkeeping) :
    TransitionEvidence env tradeId target (t ++ h) := by
  have inert : ∀ e ∈ t, e.call.inert := fun e he => Call.inert_of_bookkeeping (ht e he)
  have calm : ∀ e ∈ t, e.call.calm := fun e he => Call.calm_of_inert (inert e he)
  have held : ∀ e ∈ t, e.call.held := fun e he => Call.held_of_inert (inert e he)
  cases target with
  | RECEIVED => exact ev
  | FLAT => exact CloseEvidence.held ev held
  | CANCELLED => exact CancelEvidence.calm ev calm
  | EXITING_STOP => exact TriggerEvidence.calm ev calm
  | EXITING_TARGET => exact TriggerEvidence.calm ev calm
  | _ => trivial

end Stability

end KairosExecution.Paper
