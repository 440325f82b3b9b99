import KairosExecution.Paper.World

/-! At most one venue mutation per effect key, over any interleaving of calls of any
number of engine instances, each cut anywhere. The one assumption is on the journal: a
prepare that says it made the row has found none. A caller sends only under a row that
it made itself and has not sent under since, so two sends under one key would need two
rows. A helper that finds a row returns what the row records, or raises. -/

namespace KairosExecution.Paper

open Python Interactive Interactive.Program

variable {env : Env}

section Keys

/-- The event reaches for the venue under the key. -/
def mutates (key : String) (e : ℕ × EngineEvent) : Bool :=
  match e.2.call with
  | .mutate m => m.effectId = key
  | _ => false

theorem eq_mutate {key : String} {e : ℕ × EngineEvent} (h : mutates key e) :
    ∃ n m o, e = (n, ⟨.mutate m, o⟩) ∧ m.effectId = key := by
  obtain ⟨n, c, o⟩ := e
  cases c with
  | mutate m => exact ⟨n, m, o, rfl, by simpa [mutates] using h⟩
  | _ => cases h

/-- The caller was told of the key's row: the one it made, or the one that was there. -/
def Prepared (n : ℕ) (key : String) (created : Bool) (e : ℕ × EngineEvent) : Prop :=
  ∃ request preparation, e = (n, answered (.prepare request) preparation) ∧
    request.effectKey = key ∧ preparation.created = created

/-- The law of the journal: rows are durable, and each is made by one prepare. -/
def JournalLaw (h : List (ℕ × EngineEvent)) : Prop :=
  ∀ l n request preparation k, h = l ++ (n, answered (.prepare request) preparation) :: k →
    preparation.created = true → ∀ m created, ∀ e ∈ k, ¬Prepared m request.effectKey created e

/-- The caller made the key's row, and did not send under it since. -/
def Holding (n : ℕ) (key : String) (h : List (ℕ × EngineEvent)) : Prop :=
  ∃ l e k, h = l ++ e :: k ∧ Prepared n key true e ∧
    ∀ x ∈ l, x.1 = n → mutates key x = false ∧ ∀ created, ¬Prepared n key created x

theorem holding_of_armed {n : ℕ} {key : String} {h : List (ℕ × EngineEvent)}
    (armed : Armed key (ownEvents n h)) : Holding n key h := by
  obtain ⟨a, e, b, split, made, quiet⟩ := latest_split armed
  obtain ⟨l, k, eq, hl, -⟩ := ownEvents_split split
  refine ⟨l, (n, e), k, eq, ?_, fun x hx own => ?_⟩
  · obtain ⟨c, o⟩ := e
    cases c with
    | prepare request =>
      rcases o with _ | _ | preparation
      · cases made
      · cases made
      · simp only [effectStep] at made
        split at made
        · exact ⟨request, preparation, rfl, ‹_›, by simpa using made⟩
        · cases made
    | mutate m =>
      simp only [effectStep] at made
      split at made <;> cases made
    | _ => cases made
  · obtain ⟨m, y⟩ := x
    cases own
    have unseen : effectStep key y = none := quiet y (by rw [← hl]; simpa using hx)
    constructor
    · by_contra sent
      obtain ⟨_, m, o, eq, hm⟩ := eq_mutate (Bool.eq_true_of_not_eq_false sent)
      cases eq
      simp [effectStep, hm] at unseen
    · rintro created ⟨request, preparation, eq, hr, -⟩
      cases eq
      simp [effectStep, hr] at unseen

/-- Every venue mutation of an interleaved session is sent by the caller that made the
row of its key, under an effect identity. -/
theorem holding_of_mutate {h : List (ℕ × EngineEvent)} (session : Interleaved (EngineCall env) h)
    {l k : List (ℕ × EngineEvent)} {n : ℕ} {m : Mutation}
    {o : Option (Except Err (Call.Answer (.mutate m)))} (eq : h = l ++ (n, ⟨.mutate m, o⟩) :: k) :
    IsEffectKey env m.effectId ∧ Holding n m.effectId k := by
  obtain ⟨handled, justified⟩ := session.duty (fun _ call => call.dutiful) eq
  exact ⟨justified.2.1, holding_of_armed justified.1⟩

/-- Of two prepares of one key that made its row, the later one is the earlier one. -/
theorem JournalLaw.same_row {h l k : List (ℕ × EngineEvent)} (law : JournalLaw h) {n n' : ℕ}
    {key : String} {e e' : ℕ × EngineEvent} {created : Bool} (eq : h = l ++ e :: k)
    (made : Prepared n key true e) (found : Prepared n' key created e') : e' ∉ k := by
  obtain ⟨request, preparation, rfl, rfl, fresh⟩ := made
  exact fun earlier => law l n request preparation k eq fresh n' created e' earlier found

/-- Nothing older than a mutation reached for the venue under its key. -/
theorem not_mutated_before {h : List (ℕ × EngineEvent)} (session : Interleaved (EngineCall env) h)
    (law : JournalLaw h) {l k : List (ℕ × EngineEvent)} {e : ℕ × EngineEvent} {key : String}
    (eq : h = l ++ e :: k) (sends : mutates key e) : ∀ x ∈ k, mutates key x = false := by
  intro x hx
  by_contra older
  obtain ⟨n, m, o, rfl, hm⟩ := eq_mutate sends
  obtain ⟨n', m', o', rfl, hm'⟩ := eq_mutate (Bool.eq_true_of_not_eq_false older)
  obtain ⟨-, a, made, b, rfl, row, quiet⟩ := holding_of_mutate session eq
  rw [hm] at row quiet
  have unique : ∀ {n e}, Prepared n key true e → e ∉ b := fun row' =>
    law.same_row (l := l ++ (n, ⟨.mutate m, o⟩) :: a) (by rw [eq]; simp) row row'
  -- the row that the older mutation was sent under is this row, or it is a second one
  rcases List.mem_append.1 hx with between | before
  · obtain ⟨p, q, rfl⟩ := List.append_of_mem between
    obtain ⟨-, a', made', b', split, row', -⟩ := holding_of_mutate session (n := n') (m := m')
      (o := o') (l := l ++ (n, ⟨.mutate m, o⟩) :: p) (k := q ++ made :: b) (by rw [eq]; simp)
    rw [hm'] at row'
    have somewhere : made' ∈ q ++ made :: b := by rw [split]; simp
    rcases List.mem_append.1 somewhere with later | here
    · obtain ⟨c, d, rfl⟩ := List.append_of_mem later
      refine law.same_row (k := d ++ made :: b)
        (l := l ++ (n, ⟨.mutate m, o⟩) :: (p ++ (n', ⟨.mutate m', o'⟩) :: c)) ?_ row' row (by simp)
      rw [eq]
      simp
    · rcases List.mem_cons.1 here with rfl | earlier
      · obtain ⟨_, _, same, _⟩ := row
        obtain ⟨_, _, same', _⟩ := row'
        have own : n' = n := (congrArg Prod.fst same').symm.trans (congrArg Prod.fst same)
        have silent := (quiet _ between own).1
        simp [mutates, hm'] at silent
      · exact unique row' earlier
  · rcases List.mem_cons.1 before with same | before
    · obtain ⟨_, _, rfl, _⟩ := row
      cases same
    · obtain ⟨p, q, rfl⟩ := List.append_of_mem before
      obtain ⟨-, a', made', b', rfl, row', -⟩ := holding_of_mutate session (n := n') (m := m')
        (o := o') (l := l ++ (n, ⟨.mutate m, o⟩) :: (a ++ made :: p)) (k := q) (by rw [eq]; simp)
      rw [hm'] at row'
      exact unique row' (by simp)

/-- A caller that was told of a row it did not make never sends under its key. -/
theorem not_mutated_on_found_row {h : List (ℕ × EngineEvent)}
    (session : Interleaved (EngineCall env) h) (law : JournalLaw h) {n : ℕ}
    {l k : List (ℕ × EngineEvent)} {e x : ℕ × EngineEvent} {key : String} (eq : h = l ++ e :: k)
    (found : Prepared n key false e) (hx : x ∈ l) (own : x.1 = n) : mutates key x = false := by
  by_contra sent
  obtain ⟨n', m, o, rfl, hm⟩ := eq_mutate (Bool.eq_true_of_not_eq_false sent)
  cases own
  obtain ⟨p, q, rfl⟩ := List.append_of_mem hx
  obtain ⟨-, a, made, b, split, row, quiet⟩ := holding_of_mutate session (n := n') (m := m)
    (o := o) (l := p) (k := q ++ e :: k) (by rw [eq]; simp)
  rw [hm] at row quiet
  have older : e ∈ a ++ made :: b := by rw [← split]; simp
  rcases List.mem_append.1 older with later | here
  · have own : e.1 = n' := by
      obtain ⟨_, _, rfl, _⟩ := found
      rfl
    exact (quiet _ later own).2 false found
  · rcases List.mem_cons.1 here with rfl | earlier
    · obtain ⟨_, _, rfl, _, fresh⟩ := row
      obtain ⟨_, _, same, _, stale⟩ := found
      cases same
      rw [fresh] at stale
      cases stale
    · refine law.same_row (l := p ++ (n', ⟨.mutate m, o⟩) :: a) (k := b) ?_ row found earlier
      rw [eq, List.append_assoc, List.cons_append, split]
      simp

end Keys

section Helpers

/-- Calls that prepare no journal row. -/
def Call.rowless : Call → Bool
  | .prepare _ => false
  | _ => true

theorem Call.rowless_of_inert {c : Call} (h : c.inert) : c.rowless := by
  cases c <;> first | rfl | cases h

variable {α β : Type}

/-- In every run of `p` in which a row is found and not made, nothing is sent to the
venue, and a normal return is what the row records. -/
def RespectsRow (p : Engine α) (recorded : ExecutionEffect → α → Prop) : Prop :=
  ∀ h h' o, Runs p h h' o → ∀ t, h' = t ++ h → ∀ request preparation,
    answered (.prepare request) preparation ∈ t → preparation.created = false →
    (∀ e ∈ t, e.call.silent) ∧ ∀ a, o = some (.ok a) → recorded preparation.effect a

/-- A run that adds calls of a class adds nothing else. -/
theorem added_calls {S : Call → Bool} {h t : EngineHistory}
    (added : Adds (fun c : Call => S c = true) h (t ++ h)) : ∀ e ∈ t, S e.call = true := by
  obtain ⟨u, eq, hu⟩ := added
  rw [List.append_cancel_right eq]
  exact hu

/-- Where no row is found, there is nothing to respect. -/
theorem RespectsRow.of_rowless {p : Engine α} (calls : Calls (fun c : Call => c.rowless = true) p)
    (recorded : ExecutionEffect → α → Prop) : RespectsRow p recorded := by
  rintro h h' o run t rfl request preparation found -
  exact absurd (added_calls (calls.adds run) _ found) Bool.false_ne_true

theorem RespectsRow.check_bind {x : Except Err β} {f : β → Engine α}
    {recorded : ExecutionEffect → α → Prop} (k : ∀ b, x = .ok b → RespectsRow (f b) recorded) :
    RespectsRow (check x >>= f) recorded := by
  cases x with
  | ok b => exact k b rfl
  | error e => exact .of_rowless (show Calls _ (.done (.error e)) from trivial) recorded

/-- What runs before the prepare must send nothing. -/
theorem RespectsRow.after {p : Engine β} {f : β → Engine α}
    {recorded : ExecutionEffect → α → Prop} (quiet : Calls (fun c : Call => c.still = true) p)
    (k : ∀ b, RespectsRow (f b) recorded) : RespectsRow (p >>= f) recorded := by
  rintro h h' o run t rfl request preparation found stale
  have before : ∀ {u : EngineHistory}, (∀ e ∈ u, e.call.still) →
      answered (.prepare request) preparation ∉ u := fun hu he => absurd (hu _ he) Bool.false_ne_true
  rcases run.bind_cases with ⟨o', first, -⟩ | ⟨b, m, first, second⟩
  · exact absurd found (before (added_calls (quiet.adds first)))
  · obtain ⟨u, rfl, hu⟩ := quiet.adds first
    obtain ⟨v, eq⟩ := second.suffix
    rw [← List.append_assoc] at eq
    obtain rfl := List.append_cancel_right eq
    have later : answered (.prepare request) preparation ∈ v :=
      (List.mem_append.1 found).resolve_right (before hu)
    obtain ⟨silent, returns⟩ := k b _ _ o second v (List.append_assoc v u h) request preparation later stale
    refine ⟨fun e he => ?_, returns⟩
    rcases List.mem_append.1 he with he | he
    · exact silent e he
    · exact Call.silent_of_still (hu e he)

/-- How a helper goes on from its preparation: it prepares nothing else, and where the row
was found it sends nothing and returns what the row records. -/
structure Journalled (f : EffectPreparation → Engine α) (recorded : ExecutionEffect → α → Prop) :
    Prop where
  rowless : ∀ preparation, Calls (fun c : Call => c.rowless = true) (f preparation)
  found : ∀ preparation, preparation.created = false →
    Calls (fun c : Call => c.silent = true) (f preparation)
  returns : ∀ preparation h, preparation.created = false →
    Meets (fun _ _ => True) (f preparation) h fun a _ => recorded preparation.effect a

theorem RespectsRow.prepare {request : PrepareRequest} {f : EffectPreparation → Engine α}
    {recorded : ExecutionEffect → α → Prop} (journalled : Journalled f recorded) :
    RespectsRow (await (.prepare request) >>= f) recorded := by
  obtain ⟨rowless, found, returns⟩ := journalled
  rintro h h' o run t rfl request' preparation row stale
  rcases run.bind_cases with ⟨o', first, never⟩ | ⟨made, m, first, second⟩
  · -- the caller was cut at the prepare
    have prepares : Calls (fun c : Call => c.silent = true) (await (.prepare request)) := .ask rfl
    exact ⟨added_calls (prepares.adds first), fun a ok => absurd ok (never a)⟩
  · obtain ⟨v, eq⟩ := second.suffix
    have event : m = answered (.prepare request) made :: h := by
      cases first with
      | answered _ _ _ _ r _ rest => cases rest; rfl
    subst event
    obtain rfl : v ++ [answered (.prepare request) made] = t :=
      List.append_cancel_right ((List.append_assoc ..).trans eq)
    rw [← eq] at second
    have later : answered (.prepare request') preparation ∉ v := fun he =>
      absurd (added_calls ((rowless made).adds second) _ he) Bool.false_ne_true
    rcases List.mem_append.1 row with he | he
    · exact absurd he later
    · cases List.mem_singleton.1 he
      refine ⟨fun e he => ?_, fun a ok => ?_⟩
      · rcases List.mem_append.1 he with he | he
        · exact added_calls ((found made stale).adds second) e he
        · cases List.mem_singleton.1 he
          rfl
      · subst ok
        exact (returns made _ stale).returns second

/-- The response that a row records. -/
def Recorded (effect : ExecutionEffect) (response : Record) : Prop :=
  effect.status.unresolved = false ∧ effect.responsePayload = some response

theorem recorded_of_cached {effect : ExecutionEffect} {response : Record}
    (cached : cachedEffect effect = .ok (some response)) : Recorded effect response := by
  unfold cachedEffect at cached
  split at cached
  · cases cached
  · split at cached
    · cases cached
      exact ⟨Bool.eq_false_of_not_eq_true ‹_›, ‹_›⟩
    · cases cached

theorem Journalled.checked {x : EffectPreparation → Except Err Unit}
    {f : EffectPreparation → Engine α} {recorded : ExecutionEffect → α → Prop}
    (journalled : Journalled f recorded) :
    Journalled (fun preparation => check (x preparation) >>= fun _ => f preparation) recorded where
  rowless preparation := .bind .lift fun _ => journalled.rowless preparation
  found preparation stale := .bind .lift fun _ => journalled.found preparation stale
  returns preparation h stale := .lift_bind fun _ _ => journalled.returns preparation h stale

/-- The common end of the helpers: `cached` where the row records a response, and `send`
where this call made the row. -/
theorem Journalled.cases {message : String} {cached : Record → Engine α}
    {send : EffectPreparation → Engine α} {recorded : ExecutionEffect → α → Prop}
    (quiet : ∀ response, Calls (fun c : Call => c.still = true) (cached response))
    (returns : ∀ effect response h, Recorded effect response →
      Meets (fun _ _ => True) (cached response) h fun a _ => recorded effect a)
    (rowless : ∀ preparation, Calls (fun c : Call => c.rowless = true) (send preparation)) :
    Journalled (fun preparation => do
      match ← check (cachedEffect preparation.effect) with
      | some response => cached response
      | none => do
        check (refuse (!preparation.created) message)
        send preparation) recorded := by
  have refused : ∀ preparation : EffectPreparation, preparation.created = false →
      ∃ e, refuse (!preparation.created) message = .error e := fun _ stale => by
    rw [stale]
    exact ⟨_, rfl⟩
  constructor
  · refine fun preparation => .bind .lift fun found => ?_
    cases found with
    | none => exact .bind .lift fun _ => rowless preparation
    | some response =>
      refine (quiet response).mono fun c still => ?_
      cases c <;> first | rfl | cases still
  · refine fun preparation stale => .bind .lift fun found => ?_
    cases found with
    | none =>
      obtain ⟨e, eq⟩ := refused preparation stale
      dsimp only
      rw [eq]
      trivial
    | some response => exact (quiet response).mono fun c => Call.silent_of_still
  · refine fun preparation h stale => .lift_bind fun found eq => ?_
    cases found with
    | none =>
      obtain ⟨e, eq⟩ := refused preparation stale
      dsimp only
      rw [eq]
      exact .raise
    | some response => exact returns _ response h (recorded_of_cached eq)

/-- What a helper calls between its prepare and its end prepares no other row. -/
theorem rowless_of_inert {p : Engine α} (m : Inert p) :
    Calls (fun c : Call => c.rowless = true) p := m.mono fun _ => Call.rowless_of_inert

theorem tpslEffect_respects (trade : TradeRecord) (effectId clientOrderId : String)
    (role : OrderRole) (price : ℚ) :
    RespectsRow (tpslEffect env trade effectId clientOrderId role price) Recorded := by
  refine .check_bind fun venueSymbol _ => ?_
  refine .prepare (.cases (fun response => .pure) (fun effect response h row => .pure row) ?_)
  intro preparation
  refine .bind (rowless_of_inert (reserveMutation_calls env _ _ _ _)) fun _ => ?_
  refine .bind (.ask rfl) fun response => .bind .lift fun exchangeId => ?_
  exact .bind (.ask rfl) fun _ => .pure

theorem closeEffect_respects (trade : TradeRecord) (effectId clientOrderId : String)
    (leverage : ℚ) (effectType : EffectType) (role : OrderRole) (quantity : ℚ) :
    RespectsRow (closeEffect env trade effectId clientOrderId leverage effectType role quantity)
      Recorded := by
  refine .check_bind fun _ _ => .check_bind fun venueSymbol _ => ?_
  refine .prepare (.cases (fun response => .bind .lift fun _ => .pure)
    (fun effect response h row => .lift_bind fun _ _ => .pure row) ?_)
  intro preparation
  refine .bind (rowless_of_inert (reserveMutation_calls env _ _ _ _)) fun _ => ?_
  refine .bind (.ask rfl) fun response => .bind .lift fun fill => ?_
  exact .bind (.ask rfl) fun _ => .pure

theorem cancelEntryEffect_respects (trade : TradeRecord) :
    RespectsRow (cancelEntryEffect env trade) Recorded := by
  refine .check_bind fun venueSymbol _ => ?_
  refine .prepare (.cases (fun response => .pure) (fun effect response h row => .pure row) ?_)
  intro preparation
  refine .bind (rowless_of_inert (reserveMutation_calls env _ _ _ _)) fun _ => ?_
  exact .bind (.ask rfl) fun response => .bind (.ask rfl) fun _ => .pure

theorem cancelTpslEffect_respects (trade : TradeRecord) (role : OrderRole)
    (clientId tpslId : String) :
    RespectsRow (cancelTpslEffect env trade role clientId tpslId)
      fun effect _ => ∃ response, Recorded effect response := by
  refine .check_bind fun venueSymbol _ => ?_
  refine .prepare (.cases (fun response => ?_) (fun effect response h row => ?_)
    fun preparation => ?_)
  · exact .bind (.ask rfl) fun verified => .bind .lift fun record => .lift
  · refine .ask_bind trivial fun verified => .lift_bind fun record _ => .lift fun _ _ => ?_
    exact ⟨response, row⟩
  · refine .bind (rowless_of_inert (reserveMutation_calls env _ _ _ _)) fun _ => ?_
    refine .bind (.ask rfl) fun response => .bind (.ask rfl) fun _ => ?_
    exact .bind (.ask rfl) fun verified => .bind .lift fun record => .lift

/-- The admission check prepares and sends nothing. -/
theorem assertEntryAdmission_still (trade : TradeRecord) :
    Calls (fun c : Call => c.still = true) (assertEntryAdmission env trade) := by
  have health : ∀ health, Calls (fun c : Call => c.still = true) (observeHealth env health true) :=
    fun health => (inert_of_bookkeeps (observeHealth_calls env health true)).mono
      fun _ => Call.still_of_inert
  refine .bind (.ask rfl) fun allowed => .bind .lift fun _ => .bind (.ask rfl) fun found => ?_
  refine .bind (health found) fun _ => .bind (.ask rfl) fun venue => .bind (.ask rfl) fun durable => ?_
  refine .bind .lift fun _ => .bind .lift fun _ => .bind .lift fun _ => .bind (.ask rfl) fun _ => ?_
  exact .lift

/-- The entry is prepared and submitted by two functions, which run one after the other. -/
theorem entryEffect_respects (decision : Decision) (trade : TradeRecord)
    (effectId clientOrderId : String) :
    RespectsRow (prepareEntryEffect env decision trade effectId clientOrderId >>=
      entryEffect env decision trade effectId clientOrderId) Recorded := by
  have still : ∀ {γ : Type} {p : Engine γ}, Inert p → Calls (fun c : Call => c.still = true) p :=
    fun m => m.mono fun _ => Call.still_of_inert
  simp only [prepareEntryEffect, bind_assoc]
  refine .after (still (inert_of_bookkeeps (checkOperatorEntry_calls env _ _))) fun _ => ?_
  refine .after (still (inert_of_bookkeeps (bindCanaryEntry_calls env _ _))) fun _ => ?_
  refine .after (still (inert_of_bookkeeps nowMs_calls)) fun now => .check_bind fun _ _ => ?_
  refine .after (assertEntryAdmission_still trade) fun _ => .prepare ?_
  refine .checked (.cases (fun response => .bind .lift fun _ => .pure)
    (fun effect response h row => .lift_bind fun _ _ => .pure row) fun preparation => ?_)
  refine .bind (.ask rfl) fun allowed => .bind .lift fun _ => ?_
  refine .bind ((assertEntryAdmission_still trade).mono ?_) fun _ => .bind (.ask rfl) fun depth => ?_
  · intro c still
    cases c <;> first | rfl | cases still
  refine .bind (rowless_of_inert (inert_of_bookkeeps nowMs_calls)) fun _ => .bind .lift fun _ => ?_
  refine .bind (.ask rfl) fun _ => ?_
  refine .bind (rowless_of_inert (inert_of_bookkeeps nowMs_calls)) fun _ => .bind .lift fun _ => ?_
  have operator := rowless_of_inert
    (inert_of_bookkeeps (checkOperatorEntry_calls env decision effectId))
  refine .bind operator fun _ => ?_
  refine .bind (rowless_of_inert (reserveMutation_calls env _ _ _ _)) fun _ => .bind .lift fun _ => ?_
  refine .bracket (.ask rfl) (.ask rfl) (.bracket (.ask rfl) (.ask rfl) (.bind operator fun _ => ?_))
  exact .bind (.ask rfl) fun response => .bind .lift fun fill => .bind (.ask rfl) fun _ => .pure

end Helpers

section Sessions

/-- Each of the five mutation helpers respects a row that it finds. -/
structure HelpersRespectRows (env : Env) : Prop where
  placeLimit : ∀ decision trade effectId clientOrderId,
    RespectsRow (prepareEntryEffect env decision trade effectId clientOrderId >>=
      entryEffect env decision trade effectId clientOrderId) Recorded
  createTpsl : ∀ trade effectId clientOrderId role price,
    RespectsRow (tpslEffect env trade effectId clientOrderId role price) Recorded
  closePosition : ∀ trade effectId clientOrderId leverage effectType role quantity,
    RespectsRow (closeEffect env trade effectId clientOrderId leverage effectType role quantity)
      Recorded
  cancelOrder : ∀ trade, RespectsRow (cancelEntryEffect env trade) Recorded
  cancelTpsl : ∀ trade role clientId tpslId,
    RespectsRow (cancelTpslEffect env trade role clientId tpslId)
      fun effect _ => ∃ response, Recorded effect response

/-- Under every effect identity at most one mutation is sent, by the caller that made the
row before; who was told of a row that it did not make sends nothing under its key. -/
structure AtMostOnce (env : Env) (h : List (ℕ × EngineEvent)) : Prop where
  once : ∀ tradeId role operation,
    (h.filter (mutates (env.effectId tradeId role operation))).length ≤ 1
  identity : ∀ e ∈ h, ∀ m, e.2.call = .mutate m → IsEffectKey env m.effectId
  prepared : ∀ l n m o k, h = l ++ (n, ⟨.mutate m, o⟩) :: k →
    ∃ e ∈ k, Prepared n m.effectId true e
  found : ∀ l n key e k, h = l ++ e :: k → Prepared n key false e →
    ∀ x ∈ l, x.1 = n → mutates key x = false
  helpers : HelpersRespectRows env

theorem venue_mutation_at_most_once {h : List (ℕ × EngineEvent)}
    (session : Interleaved (EngineCall env) h) (law : JournalLaw h) : AtMostOnce env h where
  once tradeId role operation := filter_length_le_one fun l e k eq sends =>
    not_mutated_before session law eq sends
  identity := by
    rintro ⟨n, c, o⟩ he m call
    obtain ⟨l, k, eq⟩ := List.append_of_mem he
    cases (show c = .mutate m from call)
    exact (holding_of_mutate session eq).1
  prepared l n m o k eq := by
    obtain ⟨-, a, e, b, rfl, row, -⟩ := holding_of_mutate session eq
    exact ⟨e, by simp, row⟩
  found l n key e k eq row x hx own := not_mutated_on_found_row session law eq row hx own
  helpers := {
    placeLimit := entryEffect_respects
    createTpsl := tpslEffect_respects
    closePosition := closeEffect_respects
    cancelOrder := cancelEntryEffect_respects
    cancelTpsl := cancelTpslEffect_respects }

/-- Durable rows keep the law of the journal, whoever calls. -/
theorem journalLaw_of_stores {h : EngineHistory} {s : Durable} (stores : Stores h s) (n : ℕ) :
    JournalLaw (h.map fun e => (n, e)) := by
  intro l n' request preparation k eq created m fresh e he row
  obtain ⟨a, b, rfl, ha, hb⟩ := List.map_eq_append_iff.1 eq
  obtain ⟨x, c, rfl, hx, hc⟩ := List.map_eq_cons_iff.1 hb
  obtain ⟨before, after, older, step, -⟩ := stores.split rfl
  obtain ⟨-, rfl⟩ := Prod.mk.inj hx
  obtain ⟨request', preparation', rfl, same, -⟩ := row
  rw [← hc] at he
  obtain ⟨y, hy, eq'⟩ := List.mem_map.1 he
  obtain ⟨-, rfl⟩ := Prod.mk.inj eq'
  have present := Stores.row_of_prepared older hy
  rw [same] at present
  dsimp only [Durable.Step] at step
  rw [if_pos created] at step
  exact present step.1

/-- One caller's events are an interleaving, the other callers having none. -/
theorem interleaved_of_call {h : EngineHistory} (call : EngineCall env h) (d : Decision) :
    Interleaved (EngineCall env) (h.map fun e => (0, e)) := by
  intro n
  rw [ownEvents_map]
  split
  · exact call
  · exact .handle d [] none (.stopped _ _)

/-- The canary decision is filled at once and protected, in a world that answers. -/
theorem venue_mutation_at_most_once_canary :
    AtMostOnce canaryEnv ((execute (World.answer (canaryRules (entryRecord "FILLED" 0)))
      (handle canaryEnv canaryDecision) { canaryWorld [snapshot [] [] [] []] with
        blockers := [], allowed := true } []).2.2.map fun e => (0, e)) := by
  have run := execute_runs (World.answer (canaryRules (entryRecord "FILLED" 0)))
    (handle canaryEnv canaryDecision) { canaryWorld [snapshot [] [] [] []] with
      blockers := [], allowed := true } []
  have stores := Follows.execute (World.answer_step (canaryRules (entryRecord "FILLED" 0)))
    (handle canaryEnv canaryDecision) (t := { canaryWorld [snapshot [] [] [] []] with
      blockers := [], allowed := true }) (h := []) .start
  exact venue_mutation_at_most_once (interleaved_of_call (.handle _ _ _ run) canaryDecision)
    (journalLaw_of_stores stores 0)

end Sessions

end KairosExecution.Paper
