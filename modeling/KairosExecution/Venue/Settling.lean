import KairosExecution.Table.Aggregate
import KairosExecution.Venue.Rows

/-! What the operations of the journaled adapter do to the journal. An operation moves the row
of its own key only: it prepares it, and settles it with a response that fits the request; and
it ends as the response says. A row that is settled is not moved again. -/

namespace KairosExecution.Venue

open Python Interactive

/-- What an operation returns. -/
inductive Outcome
  | report (report : ExecutionReport)
  | stop (ack : ProtectiveStopAck)
  | done

/-- How the operation that records a response ends. -/
def Response.outcome (w : Wrapped) : Response → Except Err Outcome
  | .report payload => .report <$> w.modelValidate payload
  | .stop id =>
    if named : blank id = false then .ok (.stop ⟨id, named⟩)
    else .error (.raised "ValueError" "protective-stop acknowledgement has no exchange order ID")
  | .flat => .error (.noLongerRequired "position is already flat; protective stop is not required")
  | .inactive | .leverage _ => .ok .done

/-- `{"position_flat": True, "protective_stop_required": False}` -/
def Response.isFlat : Response → Bool
  | .flat => true
  | _ => false

/-- The responses that an operation of a request records. -/
def Mutation.fits : Mutation → Response → Prop
  | .place _, .report _ | .close .., .report _ => True
  | .stop .., .stop id => blank id = false
  | .stop .., .flat | .cancel .., .inactive | .leverage .., .leverage _ => True
  | _, _ => False

variable (w : Wrapped)

/-- What an operation prepares. -/
def Wrapped.prepares : Mutation → Except Err Preparation
  | .place intent => do
    let id ← clientId intent.clientOrderId "place order"
    return {
      effectKey := w.key .PLACE_ORDER id
      effectType := .PLACE_ORDER
      symbol := intent.symbol
      clientOrderId := some id
      request := .place intent }
  | .close symbol quantity side clientOrderId => do
    let id ← clientId clientOrderId "close position"
    return {
      effectKey := w.key .CLOSE_POSITION id
      effectType := .CLOSE_POSITION
      symbol
      clientOrderId := some id
      request := .close symbol quantity side (some id) }
  | .stop symbol stopPrice positionSide parentOrderId => return {
      effectKey := w.key .PROTECTIVE_STOP parentOrderId
      effectType := .PROTECTIVE_STOP
      symbol
      clientOrderId := some parentOrderId
      request := .stop symbol stopPrice positionSide parentOrderId }
  | .cancel symbol clientOrderId => return {
      effectKey := w.key .CANCEL_ORDER clientOrderId
      effectType := .CANCEL_ORDER
      symbol
      clientOrderId := some clientOrderId
      request := .cancel symbol clientOrderId }
  | .leverage symbol leverage => return {
      effectKey := w.key .SET_LEVERAGE (w.leverageIdentity symbol leverage)
      effectType := .SET_LEVERAGE
      symbol
      clientOrderId := none
      request := .leverage symbol leverage }

/-- The operation that a caller asks for. -/
def perform : Mutation → Journaled Outcome
  | .place intent => .report <$> placeOrder w intent
  | .close symbol quantity side clientOrderId => .report <$> closePosition w symbol quantity side clientOrderId
  | .stop symbol stopPrice positionSide parentOrderId =>
    .stop <$> setProtectiveStop w symbol stopPrice positionSide parentOrderId
  | .cancel symbol clientOrderId => (fun _ => .done) <$> cancelOrderByClientId w symbol clientOrderId
  | .leverage symbol leverage => (fun _ => .done) <$> setLeverage w symbol leverage

/-- How an operation goes on once it has its preparation. -/
def proceed (p : Preparation) (preparation : EffectPreparation) : Journaled Outcome :=
  let effect := preparation.effect
  match p.request with
  | .place intent =>
    .report <$>
      if preparation.created then submitPlace w effect.effectKey (p.clientOrderId.getD "") intent
      else if effect.settled then liftM (cachedReport w effect)
      else recoverPreparedPlace w effect intent
  | .close symbol quantity side _ =>
    .report <$>
      if preparation.created then submitClose w effect.effectKey (p.clientOrderId.getD "") symbol quantity side
      else if effect.settled then liftM (cachedReport w effect)
      else recoverPreparedClose w effect quantity side
  | .stop symbol stopPrice positionSide parentOrderId =>
    .stop <$>
      if preparation.created then submitStop p.effectKey symbol stopPrice positionSide parentOrderId
      else if effect.settled then liftM (cachedStop effect)
      else if effect.status = .FAILED then
        Program.raise (.recovery ("protective effect " ++ effect.effectKey ++ " is FAILED"))
      else recoverPreparedStop w effect stopPrice positionSide parentOrderId
  | .cancel symbol clientOrderId =>
    (fun _ => .done) <$>
      if !preparation.created && effect.settled then pure ()
      else if !preparation.created && effect.status = .FAILED then
        Program.raise (.recovery ("cancel effect " ++ effect.effectKey ++ " is FAILED"))
      else locked p.effectKey (cancelActive p.effectKey symbol clientOrderId)
  | .leverage symbol leverage =>
    (fun _ => .done) <$>
      if preparation.created then submitLeverage p.effectKey symbol leverage
      else if effect.settled then pure ()
      else Program.raise (.recovery ("leverage effect " ++ effect.effectKey ++ " requires reconciliation"))

theorem clientId_eq {value : Option String} {operation id : String}
    (named : clientId value operation = .ok id) : value = some id := by
  cases value with
  | none => cases named
  | some text =>
    unfold clientId at named
    dsimp only at named
    split at named <;> cases named
    rfl

/-- Every operation prepares first, and goes on as its preparation says. -/
theorem perform_eq (m : Mutation) :
    perform w m = (do
      let p ← liftM (w.prepares m)
      let preparation ← calls (.prepare p)
      proceed w p preparation) := by
  cases m with
  | place intent =>
    cases named : clientId intent.clientOrderId "place order" <;>
      simp [perform, placeOrder, Wrapped.prepares, named, proceed] <;> rfl
  | close symbol quantity side id =>
    cases named : clientId id "close position" <;>
      simp [perform, closePosition, Wrapped.prepares, named, proceed] <;> rfl
  | stop symbol stopPrice side parent =>
    simp [perform, setProtectiveStop, Wrapped.prepares, proceed]
    rfl
  | cancel symbol id =>
    simp [perform, cancelOrderByClientId, Wrapped.prepares, proceed]
    rfl
  | leverage symbol leverage =>
    simp [perform, setLeverage, Wrapped.prepares, proceed]
    rfl

/-- What a call returns that finds its effect settled. -/
def readBack (effect : ExecutionEffect) : Mutation → Except Err Outcome
  | .place _ | .close .. => .report <$> cachedReport w effect
  | .stop .. => .stop <$> cachedStop effect
  | .cancel .. | .leverage .. => .ok .done

theorem proceed_settled (p : Preparation) {effect : ExecutionEffect} (settled : effect.settled = true) :
    proceed w p ⟨effect, false⟩ = liftM (readBack w effect p.request) := by
  unfold proceed readBack
  cases p.request <;> simp [settled, Program.map_lift] <;> rfl

/-- What is recorded is returned again. -/
theorem readBack_same {effect : ExecutionEffect} {m : Mutation} {response : Response}
    (recorded : effect.response = some response) (fits : m.fits response)
    (open' : response.isFlat = false) : readBack w effect m = response.outcome w := by
  cases m with
  | place | close =>
    cases response <;> first
      | exact fits.elim
      | simp [readBack, cachedReport, recorded, Response.outcome]
  | stop =>
    cases response <;> first
      | exact fits.elim
      | simp [readBack, cachedStop, recorded, Response.outcome, show blank _ = false from fits]
      | cases open'
  | cancel | leverage =>
    cases response <;> first
      | exact fits.elim
      | rfl

/-- But that the position was flat is not. -/
theorem readBack_flat {effect : ExecutionEffect} {m : Mutation}
    (recorded : effect.response = some .flat) (fits : m.fits .flat) :
    readBack w effect m =
      .error (.recovery ("effect " ++ effect.effectKey ++ " has an invalid cached stop ID")) := by
  cases m <;> first
    | exact fits.elim
    | simp [readBack, cachedStop, recorded]

section Filed

/-- A row that an operation filed: it is prepared, or settled with a response that fits. -/
structure Filed (effect : ExecutionEffect) : Prop where
  prepared : ∃ p, w.prepares effect.request = .ok p ∧ p.effectKey = effect.effectKey ∧
    p.symbol = effect.symbol ∧ p.clientOrderId = effect.clientOrderId
  status : effect.status = .PREPARED ∨
    effect.settled = true ∧ ∃ response, effect.response = some response ∧ effect.request.fits response

/-- A journal of such rows, each under a key of its own. -/
structure WellFiled (rows : Rows) : Prop where
  distinct : (rows.map (·.effectKey)).Nodup
  filed : ∀ effect ∈ rows, Filed w effect

variable {w} {rows rows' : Rows} {m : Mutation} {p : Preparation} {response : Response}

theorem prepares_request (prepares : w.prepares m = .ok p) : p.request = m := by
  cases m with
  | place intent =>
    obtain ⟨id, _, eq⟩ := bind_eq_ok.1 prepares
    cases eq
    rfl
  | close symbol quantity side clientOrderId =>
    obtain ⟨id, named, eq⟩ := bind_eq_ok.1 prepares
    cases eq
    rw [clientId_eq named]
  | stop symbol stopPrice side parent =>
    cases prepares
    rfl
  | cancel symbol id =>
    cases prepares
    rfl
  | leverage symbol leverage =>
    cases prepares
    rfl

theorem WellFiled.prepare (filed : WellFiled w rows) (prepares : w.prepares m = .ok p)
    (free : rows.row p.effectKey = none) : WellFiled w (rows ++ [Rows.prepared p]) := by
  constructor
  · exact Table.nodup_map_append filed.distinct (Rows.row_none free)
  · intro effect mem
    rcases List.mem_append.1 mem with old | new
    · exact filed.filed effect old
    · rw [List.mem_singleton.1 new]
      have request := prepares_request prepares
      exact ⟨⟨p, by rw [← prepares, ← request]; rfl, rfl, rfl, rfl⟩, .inl rfl⟩

/-- The row of the key settled. -/
theorem WellFiled.settle (filed : WellFiled w rows) {key : String} {status : EffectStatus}
    (settles : status.unresolved = false) (id : Option Value) {effect : ExecutionEffect}
    (found : rows.row key = some effect) (fits : effect.request.fits response) :
    WellFiled w (rows.settle key status id response) := by
  constructor
  · rw [Rows.settle_keys]
    exact filed.distinct
  · intro row mem
    obtain ⟨old, inside, rfl⟩ := List.mem_map.1 mem
    by_cases own : old.effectKey = key
    · have same : old = effect := by
        have here := Rows.row_of_mem filed.distinct inside
        rw [own, found] at here
        exact (Option.some.inj here).symm
      subst same
      rw [if_pos own]
      obtain ⟨p, prepares, rest⟩ := (filed.filed old inside).prepared
      exact ⟨⟨p, prepares, rest⟩, .inr ⟨by simp [ExecutionEffect.settled, Rows.settled, settles],
        response, rfl, fits⟩⟩
    · rw [if_neg own]
      exact filed.filed old inside

end Filed

section Moving

variable {w} {s s₁ : Rows} {key : String} {m : Mutation} {α : Type}

/-- The row of a key is prepared and not settled yet. -/
def Held (m : Mutation) (key : String) (rows : Rows) : Prop :=
  ∃ effect, rows.row key = some effect ∧ effect.settled = false ∧ effect.request = m

/-- The row of a key is settled with a response. -/
def Recorded (m : Mutation) (key : String) (response : Response) (rows : Rows) : Prop :=
  ∃ effect, rows.row key = some effect ∧ effect.settled = true ∧ effect.request = m ∧
    effect.response = some response

/-- From one journal to another only the row of a key has moved, and not where it was settled. -/
structure Moved (w : Wrapped) (s : Rows) (key : String) (rows : Rows) : Prop where
  filed : WellFiled w rows
  others : ∀ other ≠ key, rows.row other = s.row other
  kept : ∀ effect, s.row key = some effect → effect.settled = true → rows.row key = some effect

/-- An operation that ends has not settled its row, or ends as the response says. -/
def Ended (w : Wrapped) (m : Mutation) (key : String) (r : Except Err Outcome) (rows : Rows) : Prop :=
  Held m key rows ∨ ∃ response, m.fits response ∧ Recorded m key response rows ∧ r = response.outcome w

theorem Moved.start (filed : WellFiled w s) : Moved w s key s :=
  ⟨filed, fun _ _ => rfl, fun _ found _ => found⟩

theorem Moved.settle (moved : Moved w s key s₁) (held : Held m key s₁) {status : EffectStatus}
    (settles : status.unresolved = false) (id : Option Value) {response : Response}
    (fits : m.fits response) :
    Moved w s key (s₁.settle key status id response) ∧
      Recorded m key response (s₁.settle key status id response) := by
  obtain ⟨effect, found, unsettled, request⟩ := held
  have row (other : String) := @Rows.row_settle s₁ key status id response other
  refine ⟨⟨moved.filed.settle settles id found (request ▸ fits), fun other apart => ?_, fun old was done => ?_⟩,
    Rows.settled status id response effect, ?_, ?_, request, rfl⟩
  · rw [row, if_neg apart]
    exact moved.others other apart
  · have same := moved.kept old was done
    rw [found, Option.some.injEq] at same
    simp [same, done] at unsettled
  · rw [row, if_pos rfl, found]
    rfl
  · simp [ExecutionEffect.settled, Rows.settled, settles]

/-- What an operation does once its row is prepared; `emb` is how it hands its result over. -/
def Settles (w : Wrapped) (s : Rows) (key : String) (m : Mutation) (emb : α → Outcome)
    (body : Journaled α) (s₁ : Rows) : Prop :=
  Upholds Rows.step (Moved w s key) (fun r rows => Ended w m key (emb <$> r) rows) body s₁

variable {emb : α → Outcome}

theorem step_venue {c : VenueCall} {o : Option (Except Err c.Answer)} {rows : Rows}
    (step : Rows.step s₁ ⟨.venue c, o⟩ rows) : rows = s₁ := by
  rcases o with _ | _ | _ <;> exact step

theorem Settles.raise (moved : Moved w s key s₁) (held : Held m key s₁) (e : Err) :
    Settles w s key m emb (Program.raise e) s₁ :=
  Upholds.raise moved (.inl held)

/-- A call of the venue leaves the journal as it is. -/
theorem upholds_venue_bind {β : Type} {inv : Rows → Prop} {R : Except Err β → Rows → Prop}
    {c : VenueCall} {f : c.Answer → Journaled β} (holds : inv s₁) (error : ∀ e, R (.error e) s₁)
    (next : ∀ a, Upholds Rows.step inv R (f a) s₁) : Upholds Rows.step inv R (venue c >>= f) s₁ := by
  apply Upholds.ask_bind holds
  · intro rows step
    rw [step_venue step]
    exact holds
  · intro e rows step
    rw [step_venue step]
    exact ⟨holds, error e⟩
  · intro a rows step
    rw [step_venue step]
    exact next a

theorem Settles.venue_bind {c : VenueCall} {f : c.Answer → Journaled α} (moved : Moved w s key s₁)
    (held : Held m key s₁) (next : ∀ a, Settles w s key m emb (f a) s₁) :
    Settles w s key m emb (venue c >>= f) s₁ :=
  upholds_venue_bind moved (fun _ => .inl held) next

/-- The call that settles the row, and what the operation ends with after it. -/
theorem Settles.settle_bind {c : JournaledCall} {f : c.Answer → Journaled α} {response : Response}
    {r : Except Err α} (moved : Moved w s key s₁) (held : Held m key s₁) (fits : m.fits response)
    (law : ∀ o rows, Rows.step s₁ ⟨c, o⟩ rows →
      rows = s₁ ∧ (∀ a, o ≠ some (.ok a)) ∨
      ∃ status id, status.unresolved = false ∧ rows = s₁.settle key status id response ∧
        ∀ e, o ≠ some (.error e))
    (ends : ∀ a, f a = .done r) (same : emb <$> r = response.outcome w) :
    Settles w s key m emb (calls c >>= f) s₁ := by
  apply Upholds.ask_bind moved
  · intro rows step
    rcases law none rows step with ⟨rfl, _⟩ | ⟨status, id, settles, rfl, _⟩
    · exact moved
    · exact (moved.settle held settles id fits).1
  · intro e rows step
    rcases law _ rows step with ⟨rfl, _⟩ | ⟨_, _, _, _, answered⟩
    · exact ⟨moved, .inl held⟩
    · exact absurd rfl (answered e)
  · intro a rows step
    rcases law _ rows step with ⟨_, lost⟩ | ⟨status, id, settles, rfl, _⟩
    · exact absurd rfl (lost a)
    · have settled := moved.settle held settles id fits
      rw [ends a]
      exact ⟨settled.1, .inr ⟨response, fits, settled.2, same⟩⟩

theorem confirm_law {id : Value} {response : Response}
    (o : Option (Except Err Unit)) (rows : Rows) (step : Rows.step s₁ ⟨.confirm key id response, o⟩ rows) :
    rows = s₁ ∧ (∀ a, o ≠ some (.ok a)) ∨
    ∃ status id, status.unresolved = false ∧ rows = s₁.settle key status id response ∧
      ∀ e, o ≠ some (.error e) := by
  rcases o with _ | e | a
  · rcases step with rfl | rfl
    · exact .inl ⟨rfl, by simp⟩
    · exact .inr ⟨.CONFIRMED, some id, rfl, rfl, by simp⟩
  · exact .inl ⟨step, by simp⟩
  · exact .inr ⟨.CONFIRMED, some id, rfl, step, by simp⟩

theorem reconcile_law {id : Option Value} {response : Response}
    (o : Option (Except Err Unit)) (rows : Rows) (step : Rows.step s₁ ⟨.reconcile key id response, o⟩ rows) :
    rows = s₁ ∧ (∀ a, o ≠ some (.ok a)) ∨
    ∃ status id, status.unresolved = false ∧ rows = s₁.settle key status id response ∧
      ∀ e, o ≠ some (.error e) := by
  rcases o with _ | e | a
  · rcases step with rfl | rfl
    · exact .inl ⟨rfl, by simp⟩
    · exact .inr ⟨.RECONCILED, id, rfl, rfl, by simp⟩
  · exact .inl ⟨step, by simp⟩
  · exact .inr ⟨.RECONCILED, id, rfl, step, by simp⟩

theorem Settles.confirm_bind {id : Value} {response : Response} {f : Unit → Journaled α}
    {r : Except Err α} (moved : Moved w s key s₁) (held : Held m key s₁) (fits : m.fits response)
    (ends : f () = .done r) (same : emb <$> r = response.outcome w) :
    Settles w s key m emb (calls (.confirm key id response) >>= f) s₁ :=
  settle_bind moved held fits confirm_law (fun _ => ends) same

theorem Settles.reconcile_bind {id : Option Value} {response : Response} {f : Unit → Journaled α}
    {r : Except Err α} (moved : Moved w s key s₁) (held : Held m key s₁) (fits : m.fits response)
    (ends : f () = .done r) (same : emb <$> r = response.outcome w) :
    Settles w s key m emb (calls (.reconcile key id response) >>= f) s₁ :=
  settle_bind moved held fits reconcile_law (fun _ => ends) same

/-- Under its lock, whose release never raises. -/
theorem Settles.locked {lock : String} {body : Journaled α} (moved : Moved w s key s₁)
    (held : Held m key s₁) (inner : Settles w s key m emb body s₁) :
    Settles w s key m emb (locked lock body) s₁ := by
  apply Upholds.ask_bind moved
  · intro rows step
    rw [show rows = s₁ from step]
    exact moved
  · intro e rows step
    rw [show rows = s₁ from step]
    exact ⟨moved, .inl held⟩
  · intro _ rows step
    rw [show rows = s₁ from step]
    have attempted : Upholds Rows.step (Moved w s key)
        (fun r rows => ∃ x, r = .ok x ∧ Ended w m key (emb <$> x) rows) body.attempt s₁ :=
      Upholds.attempt (inner.mono fun r rows _ ended => ⟨r, rfl, ended⟩)
    apply attempted.bind
    · rintro r left keeps ⟨_, same, ended⟩
      cases same
      apply Upholds.ask_bind keeps
      · intro rows step
        rw [show rows = left from step]
        exact keeps
      · intro e rows step
        exact step.elim
      · intro _ rows step
        rw [show rows = left from step]
        exact Upholds.lift keeps ended
    · rintro e left keeps ⟨_, raised, _⟩
      cases raised

variable {effect : ExecutionEffect}

/-- A report that is recorded is read back. -/
theorem outcome_report (report : ExecutionReport) :
    Outcome.report <$> (.ok report : Except Err ExecutionReport) = (w.reported report).outcome w := by
  simp [Wrapped.reported, Response.outcome, w.roundTrip]

/-- A new effect is submitted, and confirmed with what the venue answers. -/
theorem submitPlace_settles {clientId : String} {intent : OrderIntent} (moved : Moved w s key s₁)
    (held : Held m key s₁) (fits : ∀ report, m.fits (w.reported report)) :
    Settles w s key m .report (submitPlace w key clientId intent) s₁ :=
  .venue_bind moved held fun report => .confirm_bind moved held (fits report) rfl (outcome_report report)

theorem submitClose_settles {clientId symbol : String} {quantity : Option ℚ} {side : Option OrderSide}
    (moved : Moved w s key s₁) (held : Held m key s₁) (fits : ∀ report, m.fits (w.reported report)) :
    Settles w s key m .report (submitClose w key clientId symbol quantity side) s₁ :=
  .venue_bind moved held fun report => .confirm_bind moved held (fits report) rfl (outcome_report report)

/-- An acknowledgement that is recorded is read back. -/
theorem outcome_stop (ack : ProtectiveStopAck) :
    Outcome.stop <$> (.ok ack : Except Err ProtectiveStopAck) =
      (Response.stop ack.exchangeOrderId).outcome w := by
  simp [Response.outcome, ack.named]

theorem submitStop_settles {symbol : String} {stopPrice : ℚ} {side : OrderSide} {parent : String}
    (moved : Moved w s key s₁) (held : Held m key s₁)
    (fits : ∀ ack : ProtectiveStopAck, m.fits (.stop ack.exchangeOrderId)) :
    Settles w s key m .stop (submitStop key symbol stopPrice side parent) s₁ :=
  .venue_bind moved held fun ack => .confirm_bind moved held (fits ack) rfl (outcome_stop ack)

theorem submitLeverage_settles {symbol : String} {leverage : ℚ} (moved : Moved w s key s₁)
    (held : Held m key s₁) (fits : m.fits (.leverage leverage)) :
    Settles w s key m (fun _ => .done) (submitLeverage key symbol leverage) s₁ := by
  apply Settles.venue_bind moved held
  intro _
  rw [← bind_pure (calls (.confirm ..))]
  exact .confirm_bind moved held fits rfl rfl

theorem cancelActive_settles {symbol clientOrderId : String} (moved : Moved w s key s₁)
    (held : Held m key s₁) (fits : m.fits .inactive) :
    Settles w s key m (fun _ => .done) (cancelActive key symbol clientOrderId) s₁ := by
  apply Settles.venue_bind moved held
  intro active
  cases active with
  | true =>
    apply Settles.venue_bind moved held
    intro _
    apply Settles.venue_bind moved held
    intro remains
    cases remains with
    | true => exact .raise moved held _
    | false =>
      simp only [Bool.false_eq_true, if_false]
      rw [← bind_pure (calls (.confirm ..))]
      exact .confirm_bind moved held fits rfl rfl
  | false =>
    simp only [Bool.false_eq_true, if_false]
    rw [← bind_pure (calls (.reconcile ..))]
    exact .reconcile_bind moved held fits rfl rfl

/-- Cancelling a prepared entry leaves its row prepared. -/
theorem cancelPrepared_holds {symbol submittedId : String} (moved : Moved w s key s₁)
    (held : Held m key s₁) :
    Upholds Rows.step (Moved w s key) (fun _ rows => Held m key rows)
      (cancelPrepared symbol submittedId) s₁ := by
  apply upholds_venue_bind moved fun _ => held
  intro active
  cases active with
  | false => exact .pure moved held
  | true =>
    apply upholds_venue_bind moved fun _ => held
    intro _
    apply upholds_venue_bind moved fun _ => held
    intro remains
    cases remains with
    | true => exact .raise moved held
    | false => exact .pure moved held

theorem recoverPlace_settles {intent : OrderIntent} (moved : Moved w s effect.effectKey s₁)
    (held : Held m effect.effectKey s₁) (fits : ∀ report, m.fits (w.reported report)) :
    Settles w s effect.effectKey m .report (recoverPlace w effect intent) s₁ := by
  apply Upholds.lift_bind moved
  · intro submittedId _
    apply (cancelPrepared_holds moved held).bind
    · intro _ rows keeps pending
      apply Settles.venue_bind keeps pending
      intro flat
      cases flat with
      | true => exact .reconcile_bind keeps pending (fits _) rfl (outcome_report _)
      | false => exact .raise keeps pending _
    · intro e rows keeps pending
      exact .inl pending
  · intro e _
    exact .inl held

theorem recoverClose_settles {quantity : Option ℚ} {side : Option OrderSide}
    (moved : Moved w s effect.effectKey s₁) (held : Held m effect.effectKey s₁)
    (fits : ∀ report, m.fits (w.reported report)) :
    Settles w s effect.effectKey m .report (recoverClose w effect quantity side) s₁ := by
  apply Settles.venue_bind moved held
  intro flat
  cases flat with
  | true => exact .reconcile_bind moved held (fits _) rfl (outcome_report _)
  | false => exact .raise moved held _

theorem noLongerRequired_settles (moved : Moved w s effect.effectKey s₁)
    (held : Held m effect.effectKey s₁) (fits : m.fits .flat) :
    Settles w s effect.effectKey m .stop (noLongerRequired effect) s₁ :=
  .reconcile_bind moved held fits rfl rfl

theorem recoverStop_settles {stopPrice : ℚ} {side : OrderSide} {parent : String}
    (moved : Moved w s effect.effectKey s₁) (held : Held m effect.effectKey s₁)
    (fits : ∀ ack : ProtectiveStopAck, m.fits (.stop ack.exchangeOrderId)) (flatFits : m.fits .flat) :
    Settles w s effect.effectKey m .stop (recoverStop w effect stopPrice side parent) s₁ := by
  unfold recoverStop
  split
  · apply Settles.venue_bind moved held
    intro existing
    cases existing with
    | some ack => exact .reconcile_bind moved held (fits ack) rfl (outcome_stop ack)
    | none =>
      apply Settles.venue_bind moved held
      intro flat
      cases flat with
      | true => exact noLongerRequired_settles moved held flatFits
      | false => exact submitStop_settles moved held fits
  · apply Settles.venue_bind moved held
    intro flat
    cases flat with
    | true => exact noLongerRequired_settles moved held flatFits
    | false => exact .raise moved held _

theorem recoverPreparedPlace_settles {intent : OrderIntent} (moved : Moved w s effect.effectKey s₁)
    (held : Held m effect.effectKey s₁) (fits : ∀ report, m.fits (w.reported report)) :
    Settles w s effect.effectKey m .report (recoverPreparedPlace w effect intent) s₁ := by
  unfold recoverPreparedPlace
  split
  · exact .raise moved held _
  · exact .locked moved held (recoverPlace_settles moved held fits)

theorem recoverPreparedClose_settles {quantity : Option ℚ} {side : Option OrderSide}
    (moved : Moved w s effect.effectKey s₁) (held : Held m effect.effectKey s₁)
    (fits : ∀ report, m.fits (w.reported report)) :
    Settles w s effect.effectKey m .report (recoverPreparedClose w effect quantity side) s₁ := by
  unfold recoverPreparedClose
  split
  · exact .raise moved held _
  · exact .locked moved held (recoverClose_settles moved held fits)

theorem recoverPreparedStop_settles {stopPrice : ℚ} {side : OrderSide} {parent : String}
    (moved : Moved w s effect.effectKey s₁) (held : Held m effect.effectKey s₁)
    (fits : ∀ ack : ProtectiveStopAck, m.fits (.stop ack.exchangeOrderId)) (flatFits : m.fits .flat) :
    Settles w s effect.effectKey m .stop (recoverPreparedStop w effect stopPrice side parent) s₁ :=
  .locked moved held (recoverStop_settles moved held fits flatFits)

/-- Going on with a row that is prepared. -/
theorem proceed_settles {p : Preparation} {created : Bool} (moved : Moved w s p.effectKey s₁)
    (held : Held m p.effectKey s₁) (asked : p.request = m) (own : effect.effectKey = p.effectKey)
    (unsettled : effect.settled = false) :
    Upholds Rows.step (Moved w s p.effectKey) (Ended w m p.effectKey) (proceed w p ⟨effect, created⟩) s₁ := by
  unfold proceed
  rw [asked]
  rw [← own] at moved held ⊢
  cases m with
  | place intent =>
    apply Upholds.map
    cases created with
    | true => exact submitPlace_settles moved held fun _ => trivial
    | false =>
      simp only [Bool.false_eq_true, if_false, unsettled]
      exact recoverPreparedPlace_settles moved held fun _ => trivial
  | close symbol quantity side clientOrderId =>
    apply Upholds.map
    cases created with
    | true => exact submitClose_settles moved held fun _ => trivial
    | false =>
      simp only [Bool.false_eq_true, if_false, unsettled]
      exact recoverPreparedClose_settles moved held fun _ => trivial
  | stop symbol stopPrice side parent =>
    apply Upholds.map
    cases created with
    | true => exact submitStop_settles moved held fun ack => ack.named
    | false =>
      simp only [Bool.false_eq_true, if_false, unsettled]
      split
      · exact Settles.raise moved held _
      · exact recoverPreparedStop_settles moved held (fun ack => ack.named) trivial
  | cancel symbol clientOrderId =>
    apply Upholds.map
    simp only [unsettled, Bool.and_false, Bool.false_eq_true, if_false]
    split
    · exact Settles.raise moved held _
    · exact Settles.locked moved held (cancelActive_settles moved held trivial)
  | leverage symbol leverage =>
    apply Upholds.map
    cases created with
    | true => exact submitLeverage_settles moved held trivial
    | false =>
      simp only [Bool.false_eq_true, if_false, unsettled]
      exact Settles.raise moved held _

/-- A preparation that commits leaves the row that it hands over. -/
theorem Moved.prepare (filed : WellFiled w s) (prepares : w.prepares m = .ok p)
    {preparation : EffectPreparation} (ok : s.prepare p = .ok (s₁, preparation)) :
    Moved w s p.effectKey s₁ ∧ s₁.row p.effectKey = some preparation.effect ∧
      preparation.effect.request = m ∧
      (preparation.effect.settled = true → s₁ = s ∧ preparation.created = false) := by
  rcases Rows.prepare_ok ok with ⟨free, rfl, rfl⟩ | ⟨effect, found, same, rfl, rfl⟩
  · have row := Rows.row_prepared p free
    refine ⟨⟨filed.prepare prepares free, fun other apart => ?_, fun effect found => ?_⟩, ?_, ?_, ?_⟩
    · rw [row, if_neg apart]
    · rw [free] at found
      cases found
    · rw [row, if_pos rfl]
    · exact prepares_request prepares
    · intro settled
      cases settled
  · exact ⟨.start filed, found, same.trans (prepares_request prepares), fun _ => ⟨rfl, rfl⟩⟩

/-- An operation as a whole: it leaves its row as it was, or ends as the row says. -/
theorem perform_settles (filed : WellFiled w s) (prepares : w.prepares m = .ok p) :
    Upholds Rows.step (Moved w s p.effectKey)
      (fun r rows => rows.row p.effectKey = s.row p.effectKey ∨ Ended w m p.effectKey r rows)
      (perform w m) s := by
  rw [perform_eq, prepares]
  apply Upholds.lift_bind (.start filed)
  · rintro _ ⟨⟩
    apply Upholds.ask_bind (.start filed)
    · rintro rows (rfl | ⟨preparation, ok⟩)
      · exact .start filed
      · exact (Moved.prepare filed prepares ok).1
    · intro e rows step
      rw [show rows = s from step]
      exact ⟨.start filed, .inl rfl⟩
    · rintro ⟨effect, created⟩ rows step
      obtain ⟨moved, found, request, again⟩ := Moved.prepare filed prepares step
      cases settled : effect.settled with
      | true =>
        obtain ⟨rfl, rfl⟩ := again settled
        rw [proceed_settled w p settled]
        exact Upholds.lift moved (.inl rfl)
      | false =>
        have held : Held m p.effectKey rows := ⟨effect, found, settled, request⟩
        exact (proceed_settles moved held (prepares_request prepares) (Rows.row_key found) settled).mono
          fun _ _ _ ended => .inr ended
  · intro e raised
    cases raised

end Moving

section Pending

variable {w} {s s₀ : Rows} {effect : ExecutionEffect}

/-- From one journal to another no row has moved that was settled. -/
structure Kept (w : Wrapped) (s rows : Rows) : Prop where
  filed : WellFiled w rows
  settled : ∀ key effect, s.row key = some effect → effect.settled = true → rows.row key = some effect

theorem Kept.trans {rows : Rows} (kept : Kept w s₀ s) (later : Kept w s rows) : Kept w s₀ rows :=
  ⟨later.filed, fun key effect found settled =>
    later.settled key effect (kept.settled key effect found settled) settled⟩

theorem Moved.keeps {key : String} {rows : Rows} (moved : Moved w s key rows) : Kept w s rows := by
  refine ⟨moved.filed, fun other effect found settled => ?_⟩
  by_cases same : other = key
  · subst same
    exact moved.kept effect found settled
  · rw [moved.others other same]
    exact found

/-- The recovery of an effect moves its row only. -/
theorem recoverEffect_moves (filed : WellFiled w s) (found : s.row effect.effectKey = some effect)
    (unsettled : effect.settled = false) :
    Upholds Rows.step (Moved w s effect.effectKey) (fun _ _ => True) (recoverEffect w effect) s := by
  have moved : Moved w s effect.effectKey s := .start filed
  have held : Held effect.request effect.effectKey s := ⟨effect, found, unsettled, rfl⟩
  obtain ⟨p, prepares, own, symbol, clientOrderId⟩ := (filed.filed effect (Rows.row_mem found)).prepared
  have ends {α : Type} {emb : α → Outcome} {body : Journaled α}
      (settles : Settles w s effect.effectKey effect.request emb body s) :
      Upholds Rows.step (Moved w s effect.effectKey) (fun _ _ => True) (body >>= fun _ => pure ()) s :=
    settles.bind_anyway fun _ _ keeps => .pure keeps trivial
  unfold recoverEffect
  cases request : effect.request with
  | place intent =>
    exact ends (recoverPreparedPlace_settles moved held
      (by simp [request, Mutation.fits, Wrapped.reported]))
  | close _ quantity side _ =>
    exact ends (recoverPreparedClose_settles moved held
      (by simp [request, Mutation.fits, Wrapped.reported]))
  | stop _ stopPrice side parent =>
    exact ends (recoverPreparedStop_settles moved held
      (by simp [request, Mutation.fits, ProtectiveStopAck.named]) (by simp [request, Mutation.fits]))
  | cancel _ id =>
    rw [request] at prepares
    have operation := (perform_settles filed prepares).of_map
    cases prepares
    change Upholds _ _ _ (liftM (clientId effect.clientOrderId "cancel recovery") >>= fun id =>
      cancelOrderByClientId w effect.symbol id) s
    rw [← symbol, ← clientOrderId, ← own]
    apply Upholds.lift_bind (.start filed)
    · intro named same
      rw [show named = id from (Option.some.inj (clientId_eq same)).symm]
      exact operation.anyway
    · exact fun _ _ => trivial
  | leverage => exact Upholds.raise moved trivial

/-- One effect of a recovery pass. -/
theorem recoverOne_moves (filed : WellFiled w s) (found : s.row effect.effectKey = some effect)
    (unsettled : effect.settled = false) :
    Upholds Rows.step (Moved w s effect.effectKey) (fun _ _ => True) (recoverOne w effect) s := by
  unfold recoverOne
  split
  · exact .pure (.start filed) trivial
  · have moves : Upholds Rows.step (Moved w s effect.effectKey) (fun _ _ => True) (recoverEffect w effect).attempt s :=
      Upholds.attempt (recoverEffect_moves filed found unsettled)
    exact moves.bind_anyway fun _ _ keeps => .lift keeps trivial

/-- The effects that are left are as they were read, whatever was recovered before. -/
theorem recoverAll_keeps {effects : List ExecutionEffect} (distinct : (effects.map (·.effectKey)).Nodup)
    (found : ∀ effect ∈ effects, s.row effect.effectKey = some effect)
    (unsettled : ∀ effect ∈ effects, effect.settled = false) (kept : Kept w s₀ s) :
    Upholds Rows.step (Kept w s₀) (fun _ _ => True) (recoverAll w effects) s := by
  induction effects generalizing s with
  | nil => exact .pure kept trivial
  | cons effect effects ih =>
    rw [List.map_cons, List.nodup_cons] at distinct
    have first := recoverOne_moves kept.filed (found _ List.mem_cons_self) (unsettled _ List.mem_cons_self)
    have both : Upholds Rows.step (Moved w s effect.effectKey) (fun _ rows => Moved w s effect.effectKey rows)
        (recoverOne w effect) s := first.mono fun _ _ moved _ => moved
    apply Upholds.bind (both.weaken fun _ moved => kept.trans moved.keeps)
    · intro _ rows keeps moved
      apply Upholds.bind_anyway (ih distinct.2 _ (fun later mem => unsettled _ (List.mem_cons_of_mem _ mem)) keeps)
      · exact fun _ _ keeps => .pure keeps trivial
      intro later mem
      have apart : later.effectKey ≠ effect.effectKey := fun eq =>
        distinct.1 (eq ▸ List.mem_map_of_mem mem)
      rw [moved.others _ apart]
      exact found later (List.mem_cons_of_mem _ mem)
    · exact fun _ _ _ _ => trivial

theorem recoverPending_keeps (filed : WellFiled w s) :
    Upholds Rows.step (Kept w s) (fun _ _ => True) (recoverPending w) s := by
  have kept : Kept w s s := ⟨filed, fun _ _ found _ => found⟩
  apply Upholds.ask_bind kept
  · intro rows step
    rw [show rows = s from step]
    exact kept
  · intro e rows step
    rw [show rows = s from step]
    exact ⟨kept, trivial⟩
  · rintro effects rows ⟨rfl, rfl⟩
    apply recoverAll_keeps _ _ _ kept
    · exact filed.distinct.sublist (List.filter_sublist.map _)
    · intro effect mem
      exact Rows.row_of_mem filed.distinct (List.mem_of_mem_filter mem)
    · intro effect mem
      have unresolved := List.of_mem_filter mem
      simp [ExecutionEffect.settled, unresolved]

end Pending

end KairosExecution.Venue
