import KairosExecution.Venue.Engine

/-! What the engine has established when it returns a report for an entry: that the entry was
refused without a fill, that its protective stop was acknowledged, or that the position was
flat after everything that was submitted, an entry that might remain being inactive after it
was cancelled. An adversarial venue answers every call. -/

namespace KairosExecution.Venue

open Python Interactive

abbrev EngineEvent := Event engine Err

/-- A call that submits something that opens, closes or protects a position. -/
def EngineCall.submits : EngineCall → Bool
  | .venue (.placeOrder _) | .venue (.closePosition ..) | .venue (.setProtectiveStop ..) => true
  | _ => false

/-- The venue answers that the position is flat. -/
def flatAnswer (symbol : String) : EngineEvent := ⟨.venue (.isPositionFlat symbol), some (.ok true)⟩

/-- The venue answers that an order is inactive. -/
def inactiveAnswer (symbol id : String) : EngineEvent :=
  ⟨.venue (.isOrderActiveByClientId symbol id), some (.ok false)⟩

/-- After every submission the venue answered that the position is flat. -/
def FlatAfter (symbol : String) (t : History engine Err) : Prop :=
  Since (fun c : EngineCall => c.submits = false) (flatAnswer symbol) t

/-- The order was cancelled, and answered inactive after its last cancel. -/
def InactiveAfter (symbol id : String) (t : History engine Err) : Prop :=
  ∃ l k, t = l ++ inactiveAnswer symbol id :: k ∧
    (∀ x ∈ l, x.call ≠ .venue (.cancelOrderByClientId symbol id)) ∧
    ∃ x ∈ k, x.call = .venue (.cancelOrderByClientId symbol id)

section Promise

variable (e : EngineSettings)

/-- The entry was refused: its acknowledgement is well formed, and no fill is reported. -/
def Refused (intent : OrderIntent) (id : String) (ack : ExecutionReport) : Prop :=
  executionAckError e ack intent id = .ok none ∧
    (ack.status.is .REJECTED = true ∨ ack.status.is .CANCELED = true) ∧ amount ack.filledQty = 0

/-- The protective stop of the entry was acknowledged, at a positive price that its entry price
gives. -/
def Protected (intent : OrderIntent) (id : String) (ack : ExecutionReport) (t : History engine Err) : Prop :=
  ∃ entry trailPct stop price, entryPrice ack intent = some entry ∧
    trailFor e intent entry = some trailPct ∧ openTrailing e intent.side entry trailPct = .ok stop ∧
    stop.stopPrice e = .ok price ∧ 0 < price ∧
    ∃ stopAck, (⟨.venue (.setProtectiveStop intent.symbol price intent.side id), some (.ok stopAck)⟩ :
      EngineEvent) ∈ t

/-- The position was flat after everything that was submitted, and an entry that might remain was
inactive after its last cancel. -/
def Neutralized (intent : OrderIntent) (id : String) (ack : ExecutionReport) (t : History engine Err) :
    Prop :=
  FlatAfter intent.symbol t ∧
    (executionAckError e ack intent id ≠ .ok none ∨ mayRemain ack = true → InactiveAfter intent.symbol id t)

/-- What holds of a call for an entry that returns its report. -/
def SafeReturn (order : ValidatedOrder) (t : History engine Err) : Prop :=
  ∃ intent id ack, submittedIntent e order (actionFor order.reasonCode).2 = .ok intent ∧
    intent.clientOrderId = some id ∧
    (⟨.venue (.placeOrder intent), some (.ok ack)⟩ : EngineEvent) ∈ t ∧
    (Refused e intent id ack ∨ Protected e intent id ack t ∨ Neutralized e intent id ack t)

/-- An approved order on an allowed symbol, whose reason opens a position. -/
def Eligible (order : ValidatedOrder) : Prop :=
  order.approved = true ∧ e.upper order.intent.symbol ∈ e.allowedSymbols ∧
    (actionFor order.reasonCode).1 = .OPEN

/-- `sha256(order.model_dump_json().encode()).hexdigest()` -/
def fingerprint (order : ValidatedOrder) : String := e.sha256 (e.dumpJson order)

/-- What holds of a call for an entry that has a result: a report is safe, and there is none only where
the engine was read in `LOCAL_QUANT_MODE` and nothing was done since. -/
def Concluded (order : ValidatedOrder) (t : History engine Err) : Option ExecutionReport → Prop
  | some _ => SafeReturn e order t
  | none => ∃ reading : Reading, t = [⟨.read order.messageId (fingerprint e order), some (.ok reading)⟩] ∧
      reading.mode = .LOCAL_QUANT_MODE

/-- What a call of `handle` owes: an order is placed only right after the engine was read, without
blockers and in another mode than `LOCAL_QUANT_MODE`; and a result is stored under the order's
identity, and is concluded where the order is an entry. -/
def handleDuty (order : ValidatedOrder) (own : History engine Err) : EngineCall → Prop
  | .venue (.placeOrder _) => ∃ reading : Reading,
      own = [⟨.read order.messageId (fingerprint e order), some (.ok reading)⟩] ∧
        reading.blockers = [] ∧ reading.mode ≠ .LOCAL_QUANT_MODE
  | .complete messageId stored result => messageId = order.messageId ∧ stored = fingerprint e order ∧
      (Eligible e order → Concluded e order own result)
  | _ => True

end Promise

variable {e : EngineSettings} {order : ValidatedOrder} {h h' : History engine Err} {α β : Type}

section Relations

theorem InactiveAfter.append {symbol id : String} (inactive : InactiveAfter symbol id h)
    {t : History engine Err} (calm : ∀ x ∈ t, x.call ≠ .venue (.cancelOrderByClientId symbol id)) :
    InactiveAfter symbol id (t ++ h) := by
  obtain ⟨l, k, rfl, none, cancelled⟩ := inactive
  refine ⟨t ++ l, k, by rw [List.append_assoc], fun x mem => ?_, cancelled⟩
  rcases List.mem_append.1 mem with new | old
  · exact calm x new
  · exact none x old

/-- What reconciling adds: no submission, and where an order was inactive after its last cancel it
is so again. -/
def Reconciled (h h' : History engine Err) : Prop :=
  (∃ t, h' = t ++ h ∧ ∀ x ∈ t, x.call.submits = false) ∧
    ∀ symbol id, InactiveAfter symbol id h → InactiveAfter symbol id h'

theorem Reconciled.refl : Reconciled h h := ⟨⟨[], rfl, fun _ mem => nomatch mem⟩, fun _ _ => id⟩

/-- A call that neither submits nor cancels. -/
theorem Reconciled.cons (reconciled : Reconciled h h') {x : EngineEvent} (idle : x.call.submits = false)
    (calm : ∀ symbol id, x.call ≠ .venue (.cancelOrderByClientId symbol id)) :
    Reconciled h (x :: h') := by
  obtain ⟨⟨t, rfl, quiet⟩, inactive⟩ := reconciled
  refine ⟨⟨x :: t, rfl, ?_⟩, fun symbol id was => ?_⟩
  · intro y mem
    rcases List.mem_cons.1 mem with rfl | older
    · exact idle
    · exact quiet y older
  · exact (inactive symbol id was).append (t := [x]) fun y mem => by
      rw [List.mem_singleton.1 mem]
      exact calm symbol id

theorem FlatAfter.reconciled {symbol : String} (flat : FlatAfter symbol h) (reconciled : Reconciled h h') :
    FlatAfter symbol h' := by
  obtain ⟨⟨t, rfl, quiet⟩, _⟩ := reconciled
  exact flat.append quiet

end Relations

section Calls

/-- A handled body: what it promises, and what the handler promises wherever it raised. -/
theorem rescue_meets {body : Engine α} {handler : Err → Engine α} {Q : α → History engine Err → Prop}
    (inner : Meets (handleDuty e order) body h Q)
    (handled : ∀ error h', h <:+ h' → Meets (handleDuty e order) (handler error) h' Q) :
    Meets (handleDuty e order) (rescue body handler) h Q := by
  apply inner.attempt_bind
  · exact fun a h' _ q => .pure q
  · intro error h' suffix
    cases error with
    | cancelled => exact .raise
    | safety | recovery | noLongerRequired | raised => exact handled _ h' suffix

theorem adapter_meets {c : VenueCall} (owed : (handleDuty e order) h (.venue c)) :
    Meets (handleDuty e order) (adapter c) h fun a h' => h' = ⟨.venue c, some (.ok a)⟩ :: h :=
  .ask owed fun _ => rfl

/-- A call whose exception is turned into another. -/
theorem guarded_meets {c : VenueCall} (owed : (handleDuty e order) h (.venue c)) (message : Err → String) :
    Meets (handleDuty e order) (rescue (adapter c) fun exc => unsafeState (message exc)) h fun a h' =>
      h' = ⟨.venue c, some (.ok a)⟩ :: h :=
  rescue_meets (adapter_meets owed) fun _ _ _ => .raise

theorem positionIsFlat_meets (symbol context : String) :
    Meets (handleDuty e order) (positionIsFlat symbol context) h fun flat h' =>
      h' = ⟨.venue (.isPositionFlat symbol), some (.ok flat)⟩ :: h :=
  guarded_meets (by trivial) _

theorem orderIsActive_meets (symbol id context : String) :
    Meets (handleDuty e order) (orderIsActive symbol id context) h fun active h' =>
      h' = ⟨.venue (.isOrderActiveByClientId symbol id), some (.ok active)⟩ :: h :=
  guarded_meets (by trivial) _

/-- An order that is cancelled is inactive then. -/
theorem cancelActiveOrder_meets (symbol id context : String) :
    Meets (handleDuty e order) (cancelActiveOrder symbol id context) h fun _ h' =>
      h' = inactiveAnswer symbol id ::
        ⟨.venue (.cancelOrderByClientId symbol id), some (.ok ())⟩ :: h := by
  apply Meets.bind (guarded_meets (by trivial) _)
  rintro _ _ _ rfl
  apply Meets.bind (orderIsActive_meets ..)
  rintro remains _ _ rfl
  cases remains with
  | true => exact .raise
  | false => exact .pure rfl

theorem cancelIfActive_meets (symbol id context : String) :
    Meets (handleDuty e order) (cancelIfActive symbol id context) h fun _ h' => Reconciled h h' := by
  apply Meets.bind (orderIsActive_meets ..)
  rintro active _ _ rfl
  cases active with
  | false => exact .pure (Reconciled.refl.cons rfl fun _ _ eq => by cases eq)
  | true =>
    apply (cancelActiveOrder_meets symbol id context).mono
    rintro _ _ _ rfl
    constructor
    · exact ⟨[_, _, _], rfl, by simp [inactiveAnswer, EngineCall.submits]⟩
    intro symbol' id' was
    by_cases same : symbol' = symbol ∧ id' = id
    · obtain ⟨rfl, rfl⟩ := same
      exact ⟨[], _, rfl, by simp, _, List.mem_cons_self, rfl⟩
    · apply was.append (t := [_, _, _])
      intro x mem
      simp only [List.mem_cons, List.not_mem_nil, or_false] at mem
      rcases mem with rfl | rfl | rfl <;> intro eq <;> cases eq
      exact same ⟨rfl, rfl⟩

/-- A call whose exception is handled by what follows. -/
theorem attempted_bind {c : VenueCall} {f : Except Err c.Answer → Engine β}
    {R : β → History engine Err → Prop} (owed : (handleDuty e order) h (.venue c))
    (next : ∀ r, Meets (handleDuty e order) (f r) (⟨.venue c, some r⟩ :: h) R) :
    Meets (handleDuty e order) ((adapter c).attempt >>= f) h R :=
  ⟨owed, next⟩

end Calls

section Compensation

variable {intent : OrderIntent} {report : ExecutionReport} {reason : String}

theorem cancelEntry_meets (symbol id : String) :
    Meets (handleDuty e order) (cancelEntry symbol id reason) h fun _ h' => InactiveAfter symbol id h' := by
  apply rescue_meets
  · apply Meets.bind (adapter_meets (by trivial))
    rintro _ _ _ rfl
    apply Meets.bind (adapter_meets (by trivial))
    rintro remains _ _ rfl
    cases remains with
    | true => exact .raise
    | false => exact .pure ⟨[], _, rfl, by simp, _, List.mem_cons_self, rfl⟩
  · intro error _ _
    cases error <;> exact .raise

/-- What is neutral: the position is flat after everything that was submitted, and an order that
was inactive after its last cancel is so still. -/
def Neutral (symbol : String) (h h' : History engine Err) : Prop :=
  FlatAfter symbol h' ∧ ∀ id, InactiveAfter symbol id h → InactiveAfter symbol id h'

/-- A flat position is reported once its emergency order is no longer active. -/
theorem neutralized_meets {id context : String} (flat : FlatAfter intent.symbol h) :
    Meets (handleDuty e order) (do
      cancelIfActive intent.symbol id context
      liftM (compensatedReport e report intent reason)) h fun _ h' => Neutral intent.symbol h h' := by
  apply (cancelIfActive_meets ..).bind
  intro _ h' _ reconciled
  exact .lift fun _ _ => ⟨flat.reconciled reconciled, fun id => reconciled.2 intent.symbol id⟩

theorem InactiveAfter.cons {symbol id : String} {x : EngineEvent} (inactive : InactiveAfter symbol id h)
    (calm : x.call ≠ .venue (.cancelOrderByClientId symbol id)) : InactiveAfter symbol id (x :: h) :=
  inactive.append (t := [x]) fun y mem => by
    rw [List.mem_singleton.1 mem]
    exact calm

theorem resolveEmergency_meets {id : String} {error : Err} :
    Meets (handleDuty e order) (resolveEmergency e intent report id reason error) h fun _ h' =>
      Neutral intent.symbol h h' := by
  apply Meets.bind (positionIsFlat_meets ..)
  rintro flat _ _ rfl
  cases flat with
  | true =>
    apply (neutralized_meets Since.here).mono
    exact fun _ _ _ neutral => ⟨neutral.1, fun id was => neutral.2 id (was.cons fun eq => by cases eq)⟩
  | false =>
    apply Meets.bind (orderIsActive_meets ..)
    exact fun _ _ _ _ => .raise

theorem settleEmergency_meets {closeReport : ExecutionReport} {id : String} :
    Meets (handleDuty e order) (settleEmergency e intent report closeReport id reason) h fun _ h' =>
      Neutral intent.symbol h h' := by
  apply Meets.lift_bind
  intro error _
  apply Meets.bind (positionIsFlat_meets ..)
  rintro flat _ _ rfl
  cases refused : emergencyError closeReport error flat with
  | some error => exact .raise
  | none =>
    have proved : flat = true := by
      cases flat with
      | true => rfl
      | false =>
        cases error with
        | some error => cases refused
        | none =>
          simp only [emergencyError, Bool.not_false, if_true] at refused
          split at refused <;> cases refused
    subst proved
    apply (neutralized_meets Since.here).mono
    exact fun _ _ _ neutral => ⟨neutral.1, fun id was => neutral.2 id (was.cons fun eq => by cases eq)⟩

theorem emergencyClose_meets :
    Meets (handleDuty e order) (emergencyClose e order intent report reason) h fun _ h' =>
      Neutral intent.symbol h h' := by
  apply Meets.lift_bind
  intro id _
  apply Meets.bind (orderIsActive_meets ..)
  rintro active _ _ rfl
  cases active with
  | true => exact .raise
  | false =>
    apply attempted_bind (by trivial)
    intro closed
    have submitted (h' : History engine Err) (neutral : Neutral intent.symbol
        (⟨.venue (.closePosition intent.symbol none none id), some closed⟩ ::
          ⟨.venue (.isOrderActiveByClientId intent.symbol id), some (.ok false)⟩ :: h) h') :
        Neutral intent.symbol h h' :=
      ⟨neutral.1, fun id was =>
        neutral.2 id ((was.cons fun eq => by cases eq).cons fun eq => by cases eq)⟩
    rcases closed with error | closeReport
    · cases error with
      | cancelled | safety => exact .raise
      | recovery | noLongerRequired | raised =>
        exact resolveEmergency_meets.mono fun _ h' _ neutral => submitted h' neutral
    · exact settleEmergency_meets.mono fun _ h' _ neutral => submitted h' neutral

/-- A compensation that returns has left the position flat, and an entry that might remain
inactive. -/
theorem compensateUnprotected_meets {cancels : Bool} :
    Meets (handleDuty e order) (compensateUnprotected e order intent report reason cancels) h fun _ h' =>
      FlatAfter intent.symbol h' ∧
      ((cancels || mayRemain report) = true →
        ∃ id, intent.clientOrderId = some id ∧ InactiveAfter intent.symbol id h') := by
  apply Meets.onlyIf_bind (P := fun h₁ => (cancels || mayRemain report) = true →
    ∃ id, intent.clientOrderId = some id ∧ InactiveAfter intent.symbol id h₁)
  · intro _
    unfold cancelRemainder
    cases submitted : intent.clientOrderId.filter (· ≠ "") with
    | none => exact .raise
    | some id =>
      have known : intent.clientOrderId = some id := (Option.filter_eq_some_iff.1 submitted).1
      exact (cancelEntry_meets intent.symbol id).mono fun _ _ _ inactive _ => ⟨id, known, inactive⟩
  · exact fun none some => absurd some none
  · intro h₁ _ cancelled
    have known {h' : History engine Err} (neutral : Neutral intent.symbol h₁ h') :
        FlatAfter intent.symbol h' ∧ ((cancels || mayRemain report) = true →
          ∃ id, intent.clientOrderId = some id ∧ InactiveAfter intent.symbol id h') :=
      ⟨neutral.1, fun needed => (cancelled needed).imp fun id ⟨same, was⟩ => ⟨same, neutral.2 id was⟩⟩
    have before : Meets (handleDuty e order) (flatBeforeClose e intent report reason) h₁ fun result h' =>
        Neutral intent.symbol h₁ h' ∨ result = none ∧ ∀ id, InactiveAfter intent.symbol id h₁ →
          InactiveAfter intent.symbol id h' := by
      apply rescue_meets _ fun _ _ _ => .raise
      apply Meets.bind (adapter_meets (by trivial))
      rintro flat _ _ rfl
      have kept (id : String) (was : InactiveAfter intent.symbol id h₁) :
          InactiveAfter intent.symbol id (⟨.venue (.isPositionFlat intent.symbol), some (.ok flat)⟩ :: h₁) :=
        was.cons fun eq => by cases eq
      cases flat with
      | true => exact .lift_bind fun _ _ => .pure (.inl ⟨Since.here, kept⟩)
      | false => exact .pure (.inr ⟨rfl, kept⟩)
    apply before.bind
    intro result h₂ _ known₂
    cases result with
    | some report =>
      rcases known₂ with neutral | ⟨none, _⟩
      · exact .pure (known neutral)
      · cases none
    | none =>
      apply emergencyClose_meets.mono
      intro _ h' _ neutral
      apply known ⟨neutral.1, fun id was => neutral.2 id ?_⟩
      exact known₂.elim (fun neutral => neutral.2 id was) fun kept => kept.2 id was

end Compensation

section Entry

variable {intent : OrderIntent} {report : ExecutionReport} {id : String}

theorem stopPrice_pos {stop : TrailingStop} {price : ℚ} (computed : stop.stopPrice e = .ok price) :
    0 < price := by
  unfold TrailingStop.stopPrice at computed
  dsimp only at computed
  split at computed
  · cases computed
  · split at computed
    · cases computed
      assumption
    · cases computed

theorem amount_nonneg {field : String} {value : Value} (sound : numericError field value = .ok none) :
    0 ≤ amount value := by
  cases value with
  | int n =>
    simp only [numericError] at sound
    split at sound
    · cases sound
    · split at sound
      · cases sound
      next positive =>
        show (0 : ℚ) ≤ n
        exact_mod_cast not_lt.1 positive
  | float x =>
    simp only [numericError] at sound
    split at sound
    · cases sound
    next positive => exact not_lt.1 positive
  | none | bool | nonfinite | str | list | dict => exact le_refl 0

theorem numericError_of_first {fields : List (String × Value)} (sound : firstNumericError fields = .ok none) :
    ∀ field ∈ fields, numericError field.1 field.2 = .ok none := by
  induction fields with
  | nil => exact fun _ mem => nomatch mem
  | cons field fields ih =>
    obtain ⟨error, checked, rest⟩ := bind_eq_ok.1 sound
    cases error with
    | some error => cases rest
    | none =>
      intro other mem
      rcases List.mem_cons.1 mem with rfl | later
      · exact checked
      · exact ih rest other later

/-- The fill of a well-formed acknowledgement is not negative. -/
theorem filled_nonneg (sound : executionAckError e report intent id = .ok none) :
    0 ≤ amount report.filledQty := by
  obtain ⟨error, checked, rest⟩ := bind_eq_ok.1 sound
  cases error with
  | some error => cases rest
  | none =>
    have numeric := numericError_of_first checked ("filled_qty", report.filledQty)
      (by simp [ExecutionReport.numericFields])
    exact amount_nonneg numeric

theorem submittedIntent_named {side : Option OrderSide} (named : submittedIntent e order side = .ok intent) :
    ∃ id, intent.clientOrderId = some id := by
  obtain ⟨id, _, rest⟩ := bind_eq_ok.1 named
  cases rest
  exact ⟨id, rfl⟩

/-- An entry whose submission raised is compensated, and never returned. -/
theorem resolveAmbiguousEntry_meets {error : Err} {Q : ExecutionReport → History engine Err → Prop} :
    Meets (handleDuty e order) (resolveAmbiguousEntry e order intent error) h Q :=
  compensateUnprotected_meets.bind fun _ _ _ _ => .raise

theorem armStop_meets {entry : ℚ} {trailPct : Option ℚ} :
    Meets (handleDuty e order) (armStop e intent id entry trailPct) h fun _ h' =>
      ∃ stop price stopAck, openTrailing e intent.side entry trailPct = .ok stop ∧
        stop.stopPrice e = .ok price ∧
        (⟨.venue (.setProtectiveStop intent.symbol price intent.side id), some (.ok stopAck)⟩ :
          EngineEvent) ∈ h' := by
  apply Meets.lift_bind
  intro stop opened
  apply Meets.lift_bind
  intro price computed
  exact .ask trivial fun stopAck => ⟨stop, price, stopAck, opened, computed, List.mem_cons_self⟩

/-- A compensation of the entry neutralizes it. -/
theorem compensated {reason : String} {cancels : Bool} (submitted : intent.clientOrderId = some id)
    (needed : executionAckError e report intent id ≠ .ok none → cancels = true) :
    Meets (handleDuty e order) (compensateUnprotected e order intent report reason cancels) h fun _ h' =>
      Neutralized e intent id report h' := by
  apply compensateUnprotected_meets.mono
  rintro _ h' _ ⟨flat, inactive⟩
  refine ⟨flat, fun might => ?_⟩
  have asked : (cancels || mayRemain report) = true := by
    rcases might with malformed | remains
    · simp [needed malformed]
    · simp [remains]
  obtain ⟨id', same, was⟩ := inactive asked
  rw [submitted, Option.some.injEq] at same
  rwa [same]

theorem priceEntry_meets (submitted : intent.clientOrderId = some id)
    (sound : executionAckError e report intent id = .ok none) :
    Meets (handleDuty e order) (priceEntry e order intent id report) h fun _ h' =>
      Protected e intent id report h' ∨ Neutralized e intent id report h' := by
  have neutral (reason : String) {h₁ : History engine Err} :
      Meets (handleDuty e order) (compensateUnprotected e order intent report reason false) h₁ fun _ h' =>
        Protected e intent id report h' ∨ Neutralized e intent id report h' :=
    (compensated submitted fun malformed => absurd sound malformed).mono fun _ _ _ => .inr
  unfold priceEntry
  cases priced : (entryPrice report intent).filter (0 < ·) with
  | none => exact neutral _
  | some entry =>
    dsimp only
    cases trailing : trailFor e intent entry with
    | none => exact neutral _
    | some trailPct =>
      apply armStop_meets.attempt_bind
      · rintro _ h' _ ⟨stop, price, stopAck, opened, computed, acknowledged⟩
        exact .pure (.inl ⟨entry, trailPct, stop, price, (Option.filter_eq_some_iff.1 priced).1, trailing,
          opened, computed, stopPrice_pos computed, stopAck, acknowledged⟩)
      · intro error h' _
        cases error with
        | cancelled => exact .raise
        | safety | recovery | noLongerRequired | raised => exact neutral _

theorem acceptEntry_meets (submitted : intent.clientOrderId = some id)
    (sound : executionAckError e report intent id = .ok none) :
    Meets (handleDuty e order) (acceptEntry e order intent id report) h fun _ h' =>
      Refused e intent id report ∨ Protected e intent id report h' ∨ Neutralized e intent id report h' := by
  have neutral (reason : String) :
      Meets (handleDuty e order) (compensateUnprotected e order intent report reason false) h fun _ h' =>
        Refused e intent id report ∨ Protected e intent id report h' ∨ Neutralized e intent id report h' :=
    (compensated submitted fun malformed => absurd sound malformed).mono fun _ _ _ => .inr ∘ .inr
  unfold acceptEntry
  split
  next rejected =>
    split
    · exact neutral _
    next unfilled =>
      have none : amount report.filledQty = 0 := le_antisymm (not_lt.1 unfilled) (filled_nonneg sound)
      exact .pure (.inl ⟨sound, .inl rejected, none⟩)
  next =>
    split
    next canceled => exact .pure (.inl ⟨sound, .inr canceled.1, canceled.2⟩)
    next =>
      split
      · exact neutral _
      · exact (priceEntry_meets submitted sound).mono fun _ _ _ => .inr

/-- An entry that returns is safe, whatever the venue answers. -/
theorem openEntry_meets (owed : ∀ intent, (handleDuty e order) h (.venue (.placeOrder intent))) :
    Meets (handleDuty e order) (openEntry e order (actionFor order.reasonCode).2) h fun _ h' =>
      SafeReturn e order h' := by
  apply Meets.lift_bind
  intro intent named
  obtain ⟨id, submitted⟩ := submittedIntent_named named
  rw [submitted]
  have place : Meets (handleDuty e order) (rescue (adapter (.placeOrder intent)) (resolveAmbiguousEntry e order intent)) h
      fun ack h' => h' = ⟨.venue (.placeOrder intent), some (.ok ack)⟩ :: h :=
    rescue_meets (adapter_meets (owed intent)) fun _ _ _ => resolveAmbiguousEntry_meets
  apply place.bind
  rintro ack _ _ rfl
  apply Meets.lift_bind
  intro error checked
  have safe {h' : History engine Err} (suffix : ⟨.venue (.placeOrder intent), some (.ok ack)⟩ :: h <:+ h')
      (outcome : Refused e intent id ack ∨ Protected e intent id ack h' ∨ Neutralized e intent id ack h') :
      SafeReturn e order h' :=
    ⟨intent, id, ack, named, submitted, suffix.subset List.mem_cons_self, outcome⟩
  cases error with
  | some error =>
    exact (compensated submitted fun _ => rfl).mono fun _ _ suffix neutral =>
      safe suffix (.inr (.inr neutral))
  | none =>
    exact (acceptEntry_meets submitted checked).mono fun _ _ suffix outcome => safe suffix outcome

end Entry

end KairosExecution.Venue
