import KairosExecution.Paper.Engine

/-! What the events of one call of the engine prove. Each fact reads the history: the
last snapshot of the venue, whether an effect key is armed, what is known of a trade,
and whether a snapshot was read after the trade had left its entry. Facts of the form
"there was an event" survive any later event; facts about the latest one survive the
calls that cannot change it. -/

namespace KairosExecution.Paper

open Python Interactive

section Kinds

/-- Calls that keep records or ask an entry control, and nothing else. -/
def Call.bookkeeping : Call → Bool
  | .operationalTelemetry | .setOperationalTelemetry _ | .updateOperationalTelemetry _
  | .lastSidecarHealth | .setLastSidecarHealth _ | .latestHealth _ | .recordHealth _ | .clock
  | .sleep _ | .checkEntry .. | .bindEntry .. | .getExecutionEvent .. => true
  | _ => false

/-- Calls that neither read the venue account nor reach for the venue, the effect rows
or the trade rows. -/
def Call.inert : Call → Bool
  | .fetchPaperState | .mutate _ | .prepare _ | .transition _ | .createTrade .. => false
  | _ => true

/-- Calls after which the last snapshot still describes a trade that is not exiting:
all but another snapshot, a venue effect and a transition other than a cancellation. -/
def Call.calm : Call → Bool
  | .fetchPaperState | .mutate _ | .prepare _ => false
  | .transition request => request.target = .CANCELLED
  | _ => true

/-- Calls that do not reach for the venue with an effect. -/
def Call.silent : Call → Bool
  | .mutate _ => false
  | _ => true

/-- Calls that neither prepare a journal row nor reach for the venue with one. -/
def Call.still : Call → Bool
  | .mutate _ | .prepare _ => false
  | _ => true

/-- Calls that do not read the venue account. -/
def Call.blind : Call → Bool
  | .fetchPaperState => false
  | _ => true

/-- `EXITING_STOP` or `EXITING_TARGET`: the exit that a venue trigger started. -/
def TradeState.triggered : TradeState → Bool
  | .EXITING_STOP | .EXITING_TARGET => true
  | _ => false

/-- The roles of an exit that the engine sends itself. -/
def OrderRole.manual : OrderRole → Bool
  | .TIMEOUT_EXIT | .EMERGENCY_EXIT => true
  | _ => false

/-- Calls that neither prepare a close nor record that a venue trigger started an exit. -/
def Call.held : Call → Bool
  | .prepare request => !request.orderRole.manual
  | .transition request => !request.target.triggered
  | _ => true

theorem Call.inert_of_bookkeeping {c : Call} (h : c.bookkeeping) : c.inert := by
  cases c <;> first | rfl | cases h

theorem Call.calm_of_inert {c : Call} (h : c.inert) : c.calm := by
  cases c <;> first | rfl | cases h

theorem Call.held_of_inert {c : Call} (h : c.inert) : c.held := by
  cases c <;> first | rfl | cases h

theorem Call.still_of_inert {c : Call} (h : c.inert) : c.still := by
  cases c <;> first | rfl | cases h

theorem Call.silent_of_still {c : Call} (h : c.still) : c.silent := by
  cases c <;> first | rfl | cases h

theorem Call.silent_of_inert {c : Call} (h : c.inert) : c.silent := by
  cases c <;> first | rfl | cases h

theorem Call.blind_of_calm {c : Call} (h : c.calm) : c.blind := by
  cases c <;> first | rfl | cases h

theorem Call.held_of_calm {c : Call} (h : c.calm) : c.held := by
  cases c with
  | transition request =>
    have cancelled : request.target = .CANCELLED := by simpa [Call.calm] using h
    simp [Call.held, cancelled, TradeState.triggered]
  | prepare => cases h
  | _ => rfl

theorem Call.silent_of_calm {c : Call} (h : c.calm) : c.silent := by
  cases c <;> first | rfl | cases h

end Kinds

section Events

/-- A call that was answered with a value. -/
abbrev answered (c : Call) (answer : Call.Answer c) : EngineEvent := ⟨c, some (.ok answer)⟩

/-- A snapshot of the venue account was read. -/
abbrev read (venue : Venue) : EngineEvent := answered .fetchPaperState venue

/-- The event lies in the history, and only calls of the class were issued since. -/
abbrev Lately (S : Call → Bool) (e : EngineEvent) (h : EngineHistory) : Prop :=
  Since (fun c : Call => S c = true) e h

/-- The trade record that an event shows. -/
def recordOf : EngineEvent → Option TradeRecord
  | ⟨.getTrade _, some (.ok (some record))⟩ => some record.1
  | ⟨.createTrade .., some (.ok result)⟩ => some result.1.trade
  | ⟨.transition _, some (.ok result)⟩ => some result.1.trade
  | _ => none

/-- The repository has shown this record of a trade. -/
def Known (record : TradeRecord) (h : EngineHistory) : Prop := ∃ e ∈ h, recordOf e = some record

theorem Known.mono {record : TradeRecord} {h h' : EngineHistory} (known : Known record h)
    (suffix : h <:+ h') : Known record h' := by
  obtain ⟨e, he, eq⟩ := known
  exact ⟨e, suffix.subset he, eq⟩

theorem known_getTrade {id : String} (record : StoredTrade id) (h : EngineHistory) :
    Known record.1 (answered (.getTrade id) (some record) :: h) :=
  ⟨_, List.mem_cons_self, rfl⟩

theorem known_moved (request : TransitionRequest) (moved : Moved request.tradeId request.target)
    (h : EngineHistory) : Known moved.1.trade (answered (.transition request) moved :: h) :=
  ⟨_, List.mem_cons_self, rfl⟩

/-- The repository has shown a record of the trade of which `P` holds. -/
def Shown (tradeId : String) (P : TradeRecord → Prop) (h : EngineHistory) : Prop :=
  ∃ record, Known record h ∧ record.tradeId = tradeId ∧ P record

theorem Shown.mono {tradeId : String} {P : TradeRecord → Prop} {h h' : EngineHistory}
    (shown : Shown tradeId P h) (suffix : h <:+ h') : Shown tradeId P h' := by
  obtain ⟨record, known, own, holds⟩ := shown
  exact ⟨record, known.mono suffix, own, holds⟩

theorem Known.shown {record : TradeRecord} {h : EngineHistory} (known : Known record h)
    {tradeId : String} {P : TradeRecord → Prop} (own : record.tradeId = tradeId)
    (holds : P record) : Shown tradeId P h := ⟨record, known, own, holds⟩

/-- The states a trade can be in once its entry has shown a fill. -/
def TradeState.pastEntry : TradeState → Bool
  | .RECEIVED | .ENTRY_PENDING | .CANCELLED => false
  | _ => true

/-- A journal row was read under the key. -/
def RowRead (key : String) (effect : ExecutionEffect) (h : EngineHistory) : Prop :=
  answered (.getEffect key) (some effect) ∈ h

/-- Whether the latest step of a key prepared a new row: a mutation, or a prepare that
made none, ends the right to mutate. -/
def effectStep (key : String) : EngineEvent → Option Bool
  | ⟨.prepare request, some (.ok preparation)⟩ =>
    if request.effectKey = key then some preparation.created else none
  | ⟨.mutate m, _⟩ => if m.effectId = key then some false else none
  | _ => none

/-- The key's row was made by this call, and nothing was sent under it since. -/
def Armed (key : String) (h : EngineHistory) : Prop := latest (effectStep key) h = some true

theorem effectStep_still {e : EngineEvent} (still : e.call.still) (key : String) :
    effectStep key e = none := by
  obtain ⟨c, o⟩ := e
  cases c <;> first | rfl | cases still

theorem Armed.still {key : String} {h h' : EngineHistory} (armed : Armed key h)
    (added : Adds (fun c : Call => c.still = true) h h') : Armed key h' := by
  obtain ⟨t, rfl, still⟩ := added
  rw [Armed, latest_append fun e he => effectStep_still (still e he) key]
  exact armed

theorem armed_prepare {request : PrepareRequest} {preparation : EffectPreparation}
    (created : preparation.created = true) (h : EngineHistory) :
    Armed request.effectKey (answered (.prepare request) preparation :: h) := by
  simp [Armed, latest, effectStep, created]

end Events

section Snapshots

variable (env : Env)

/-- The snapshot shows no position on the symbol. -/
def ShowsFlat (venue : Venue) (symbol : String) : Prop :=
  ∃ venueSymbol rows, env.symbolMap symbol = .ok venueSymbol ∧
    list (venue.get "positions") = .ok rows ∧
    ∀ row ∈ rows, upperField env.lib row "instrument" = venueSymbol →
      ∃ quantity, requiredNonnegativeNumber env.lib row "quantity" = .ok quantity ∧ quantity ≤ 0

/-- The open orders of the snapshot can be read, and none has the client id. -/
def OrderGone (venue : Venue) (clientId : String) : Prop :=
  findOrder env.lib venue (some clientId) = .ok none

/-- The history of the order, where there is one, is that of an order without a fill. -/
def HistoryUnfilled (decision : Decision) (venue : Venue) (clientId : String) : Prop :=
  ∃ found, findHistoricalOrder env.lib venue clientId = .ok found ∧
    ∀ record ∈ found, ∃ fill,
      validateEntryResponse env.lib record decision clientId = .ok fill ∧ fill.filled ≤ 0

variable {env}

theorem showsFlat_of_quantity {venue : Venue} {symbol : String} {quantity : ℚ}
    (h : positionQuantity env venue symbol = .ok quantity) (le : quantity ≤ 0) :
    ShowsFlat env venue symbol := by
  obtain ⟨venueSymbol, hs, h⟩ := bind_eq_ok.1 h
  obtain ⟨rows, hrows, h⟩ := bind_eq_ok.1 h
  refine ⟨venueSymbol, rows, hs, hrows, fun row hrow on => ?_⟩
  have bound := (le_sumRows h fun _ _ => requiredNonnegativeNumber_nonneg).2
  obtain ⟨x, hx, hle⟩ := bound row (by simpa using ⟨hrow, on⟩)
  exact ⟨x, hx, hle.trans le⟩

theorem showsFlat_of_tradeQuantity {venue : Venue} {trade : TradeRecord} {quantity : ℚ}
    (h : positionQuantityForTrade env venue trade = .ok quantity) (le : quantity ≤ 0) :
    ShowsFlat env venue trade.symbol := by
  obtain ⟨venueSymbol, hs, h⟩ := bind_eq_ok.1 h
  obtain ⟨rows, hrows, h⟩ := bind_eq_ok.1 h
  obtain ⟨matching, hm, h⟩ := bind_eq_ok.1 h
  -- a kept row has a positive quantity, which the result would repeat
  have none_kept : matching = [] := by
    cases matching with
    | nil => rfl
    | cons item rest =>
      cases rest with
      | cons => cases h
      | nil =>
        have kept := ((mem_filterRows hm item).1 (List.mem_singleton_self _)).2
        obtain ⟨-, -, h⟩ := bind_eq_ok.1 h
        obtain ⟨leverage, -, h⟩ := bind_eq_ok.1 h
        obtain ⟨-, -, h⟩ := bind_eq_ok.1 h
        split at kept
        · obtain ⟨x, hx, kept⟩ := bind_eq_ok.1 kept
          rw [hx] at h
          cases h
          have positive : 0 < quantity := of_decide_eq_true (Except.ok.inj kept)
          exact absurd positive (not_lt.2 le)
        · cases kept
  refine ⟨venueSymbol, rows, hs, hrows, fun row hrow on => ?_⟩
  obtain ⟨b, hb⟩ := filterRows_keep hm hrow
  rw [if_pos on] at hb
  obtain ⟨x, hx, hb'⟩ := bind_eq_ok.1 hb
  refine ⟨x, hx, not_lt.1 fun positive => ?_⟩
  have kept : row ∈ matching := (mem_filterRows hm row).2 ⟨hrow, by
    rw [if_pos on, hx]
    simp [positive]⟩
  rw [none_kept] at kept
  cases kept

/-- Where the position is neither open nor the entry listed, the trade is not exposed. -/
theorem not_stillExposed {venue : Venue} {trade : TradeRecord}
    (h : stillExposed env venue trade = .ok false) :
    ShowsFlat env venue trade.symbol ∧ OrderGone env venue trade.entryClientOrderId := by
  obtain ⟨quantity, hq, h⟩ := bind_eq_ok.1 h
  split at h
  · cases h
  · obtain ⟨entry, he, h⟩ := bind_eq_ok.1 h
    cases entry with
    | some => cases h
    | none => exact ⟨showsFlat_of_quantity hq (not_lt.1 ‹_›), he⟩

end Snapshots

section Footprints

variable (env : Env)

/-- All calls of `p` keep records or ask an entry control. -/
abbrev Bookkeeps {α : Type} (p : Engine α) : Prop := Calls (fun c : Call => c.bookkeeping = true) p

/-- All calls of `p` are inert. -/
abbrev Inert {α : Type} (p : Engine α) : Prop := Calls (fun c : Call => c.inert = true) p

theorem inert_of_bookkeeps {α : Type} {p : Engine α} (m : Bookkeeps p) : Inert p :=
  m.mono fun _ => Call.inert_of_bookkeeping

theorem nowMs_calls : Bookkeeps nowMs := .bind (.ask rfl) fun _ => .pure

theorem freshCloseClientId_calls (tradeId : String) (role : OrderRole) :
    Bookkeeps (freshCloseClientId env tradeId role) := .bind (.ask rfl) fun _ => .pure

theorem eventSpec_calls (decision : Decision) (trade : NewTrade) (eventType : EventType)
    (state : TradeState) (spec : FactSpec) (position : ℚ) :
    Bookkeeps (eventSpec env decision trade eventType state spec position) :=
  .bind (.ask rfl) fun _ => .bind (.ask rfl) fun _ => .pure

theorem recordRuntimeHealth_calls (health : Record) (reserve : ℤ) :
    Bookkeeps (recordRuntimeHealth env health reserve) := by
  refine .bind .lift fun scope => .bind (.ask rfl) fun observedAt => ?_
  refine .bind .lift fun age => .bind .lift fun expires => ?_
  exact .bind .lift fun _ => .bind .lift fun _ => .ask rfl

theorem observeHealth_calls (health : Record) (requireEntry : Bool) :
    Bookkeeps (observeHealth env health requireEntry) := by
  refine .bind .lift fun telemetry => .bind (.ask rfl) fun _ => .bind .lift fun _ => ?_
  refine .bind (.ask rfl) fun _ => .bind .lift fun scope => .bind (.ask rfl) fun previous => ?_
  exact recordRuntimeHealth_calls env health _

/-- What `_reserve_mutation` does after the reservation itself. -/
theorem reserveMutation_calls (effectId operation : String) (compensation headroom : Bool) :
    Inert (reserveMutation env effectId operation compensation headroom) := by
  refine .bind .lift fun scope => .bind (.ask rfl) fun reservation => ?_
  refine .bind (.ask rfl) fun _ => .bind (.ask rfl) fun health => .bind ?_ fun _ => ?_
  · exact .onlyIf (inert_of_bookkeeps (recordRuntimeHealth_calls env health _))
  · exact .bind .lift fun _ => .bind .lift fun _ => .lift

theorem checkOperatorEntry_calls (decision : Decision) (effectId : String) :
    Bookkeeps (checkOperatorEntry env decision effectId) := by
  refine .bind .lift fun _ => .bind (.attempt (.ask rfl)) fun outcome => ?_
  cases outcome with
  | ok => exact .pure
  | error exc =>
    dsimp only
    split
    · exact .raise
    · exact .raise

theorem bindCanaryEntry_calls (decision : Decision) (effectId : String) :
    Bookkeeps (bindCanaryEntry env decision effectId) := .bind .lift fun _ => .ask rfl

theorem recoverTerminalPublicFact_calls (trade : TradeRecord) :
    Inert (recoverTerminalPublicFact trade) := by
  refine .bind (.ask rfl) fun facts => ?_
  split
  · exact .lift
  · exact .lift
  · exact .pure

theorem unripeEffects_calls (tradeId : String) (eligible : List String) :
    Inert (unripeEffects env tradeId eligible) := by
  unfold unripeEffects
  induction effectIdentities with
  | nil => exact .pure
  | cons identity rest ih => exact .bind (.ask rfl) fun _ => .bind ih fun _ => .pure

theorem blockEntriesUnlocked_calls (detail : String) : Inert (blockEntriesUnlocked env detail) :=
  .bind (.ask rfl) fun _ => .ask rfl

theorem awaitEligibility_calls (decision : Decision) : Bookkeeps (awaitEligibility decision) := by
  refine .bind nowMs_calls fun now => ?_
  dsimp only
  split
  · refine .bind ?_ fun _ => .bind .lift fun _ => .pure
    split
    · exact .bind (.ask rfl) fun _ => nowMs_calls
    · exact .pure
  · exact .pure

end Footprints

end KairosExecution.Paper
