import KairosExecution.Venue.Redelivery

/-! A call whose lookup finds the stop under its lock. Whatever the journal says by then, the
call writes the stop that it found, releases the lock and returns that stop; so where the stop
is the recorded one, nothing is lost by the call's having read the effect before the lock. -/

namespace KairosExecution.Venue

open Python Interactive

/-- The recovery lock of a key is granted. -/
def granted (key : String) : JournaledEvent := ⟨.lock key, some (.ok ())⟩

/-- The stop that a lookup finds. -/
def foundStop : JournaledEvent → Option ProtectiveStopAck
  | ⟨.venue (.findProtectiveStop ..), some (.ok existing)⟩ => existing
  | _ => none

def raises : JournaledEvent → Bool
  | ⟨_, some (.error _)⟩ => true
  | _ => false

/-- A call's lookup found the stop as soon as its lock was granted; what it did after that. -/
def FoundAt (key : String) (ack : ProtectiveStopAck) (late own : History journaled Err) : Prop :=
  ∃ e earlier, own = late ++ e :: granted key :: earlier ∧ foundStop e = some ack

/-- It has not released the lock since. -/
def Holding (key : String) (ack : ProtectiveStopAck) (own : History journaled Err) : Prop :=
  ∃ late, FoundAt key ack late own ∧ ∀ e ∈ late, e.call ≠ .unlock key

/-- What is found under the lock is recorded, and the lock released. -/
def lookupDuty (own : History journaled Err) (c : JournaledCall) : Prop :=
  ∀ key ack, Holding key ack own →
    c = .unlock key ∨ c = .reconcile key (some (.str ack.exchangeOrderId)) (.stop ack.exchangeOrderId)

/-- No lock is held under which a stop was found. -/
def Released (own : History journaled Err) : Prop := ∀ key ack, ¬Holding key ack own

/-- No stop was found under a lock. -/
def Unfound (own : History journaled Err) : Prop := ∀ key ack late, ¬FoundAt key ack late own

/-- The stop that was found is returned, unless a call raised after that. -/
def ReturnsFound {α : Type} (value : ProtectiveStopAck → α) (r : Except Err α)
    (own : History journaled Err) : Prop :=
  ∀ key ack late, FoundAt key ack late own → (∀ e ∈ late, raises e = false) → r = .ok (value ack)

def JournaledCall.looksUp : JournaledCall → Bool
  | .venue (.findProtectiveStop ..) => true
  | _ => false

/-- A part that looks no stop up. -/
abbrev Plain {α : Type} (body : Journaled α) : Prop := Calls (fun c : JournaledCall => c.looksUp = false) body

section Histories

variable {key other : String} {ack found : ProtectiveStopAck} {late own : History journaled Err}
  {e : JournaledEvent}

theorem foundStop_plain {c : JournaledCall} (plain : c.looksUp = false)
    (o : Option (Except Err (journaled.Answer c))) : foundStop ⟨c, o⟩ = none := by
  cases c with
  | venue c =>
    cases c with
    | findProtectiveStop => cases plain
    | _ => rfl
  | _ => rfl

theorem lookup_of_found (finds : foundStop e = some found) :
    ∃ symbol price side parent, e.call = .venue (.findProtectiveStop symbol price side parent) := by
  unfold foundStop at finds
  split at finds
  · exact ⟨_, _, _, _, rfl⟩
  · cases finds

theorem FoundAt.older (at_ : FoundAt key ack late (e :: own)) (plain : foundStop e = none) :
    ∃ late', late = e :: late' ∧ FoundAt key ack late' own := by
  obtain ⟨x, earlier, eq, found⟩ := at_
  cases late with
  | nil =>
    obtain ⟨rfl, -⟩ := List.cons.inj eq
    rw [plain] at found
    cases found
  | cons y late =>
    obtain ⟨rfl, rest⟩ := List.cons.inj eq
    exact ⟨late, rfl, x, earlier, rest, found⟩

theorem Holding.older (holding : Holding key ack (e :: own)) (plain : foundStop e = none) :
    Holding key ack own ∧ e.call ≠ .unlock key := by
  obtain ⟨late, at_, open'⟩ := holding
  obtain ⟨late', rfl, older⟩ := at_.older plain
  exact ⟨⟨late', older, fun x mem => open' x (List.mem_cons_of_mem _ mem)⟩, open' e List.mem_cons_self⟩

/-- A lookup right after the grant: it is this one, or an older one. -/
theorem FoundAt.first (at_ : FoundAt key ack late (e :: granted other :: own))
    (finds : foundStop e = some found) :
    (late = [] ∧ key = other ∧ ack = found) ∨ ∃ late', FoundAt key ack late' own ∧
      late = e :: granted other :: late' := by
  obtain ⟨x, earlier, eq, same⟩ := at_
  cases late with
  | nil =>
    obtain ⟨rfl, rest⟩ := List.cons.inj eq
    obtain ⟨grant, -⟩ := List.cons.inj rest
    rw [finds] at same
    cases grant
    exact .inl ⟨rfl, rfl, (Option.some.inj same).symm⟩
  | cons y late =>
    obtain ⟨rfl, rest⟩ := List.cons.inj eq
    obtain ⟨late, rfl, older⟩ := FoundAt.older ⟨x, earlier, rest, same⟩ rfl
    exact .inr ⟨late, older, rfl⟩

theorem Released.cons (released : Released own) (plain : foundStop e = none) : Released (e :: own) :=
  fun key ack holding => released key ack (holding.older plain).1

theorem Unfound.cons (unfound : Unfound own) (plain : foundStop e = none) : Unfound (e :: own) := by
  intro key ack late at_
  obtain ⟨late, -, older⟩ := at_.older plain
  exact unfound key ack late older

theorem Unfound.released (unfound : Unfound own) : Released own :=
  fun key ack ⟨late, at_, _⟩ => unfound key ack late at_

theorem unfound_nil : Unfound [] := by
  rintro key ack late ⟨e, earlier, eq, -⟩
  simp at eq

end Histories

section Duty

variable {w : Wrapped} {own : History journaled Err} {α β : Type} {body : Journaled α}
  {effect : ExecutionEffect} {key : String} {value : ProtectiveStopAck → α}

/-- How a part ends that was started with no lock held: with none held, and with what it found. -/
def Finishes (value : ProtectiveStopAck → α) (own : History journaled Err) (r : Except Err α)
    (own' : History journaled Err) : Prop :=
  Released own' ∧ (Unfound own → ReturnsFound value r own')

/-- How a body ends under the lock of a key. -/
def FinishesUnder (key : String) (value : ProtectiveStopAck → α) (own : History journaled Err)
    (r : Except Err α) (own' : History journaled Err) : Prop :=
  (∀ other ack, Holding other ack own' → other = key) ∧ (Unfound own → ReturnsFound value r own')

theorem plain_safe (plain : Plain body) (released : Released own) :
    Safe lookupDuty (fun _ own' => Released own' ∧ (Unfound own → Unfound own')) body own := by
  induction body generalizing own with
  | done r => exact ⟨released, id⟩
  | call c next ih =>
    refine ⟨fun key ack holding => absurd holding (released key ack), fun r => ?_⟩
    refine (ih r (plain.2 r) (released.cons (foundStop_plain plain.1 _))).mono fun _ _ _ ended => ?_
    exact ⟨ended.1, fun unfound => ended.2 (unfound.cons (foundStop_plain plain.1 _))⟩

theorem plain_finishes (plain : Plain body) (released : Released own) :
    Safe lookupDuty (Finishes value own) body own :=
  (plain_safe plain released).mono fun _ _ _ ended =>
    ⟨ended.1, fun unfound key ack late at_ => absurd at_ (ended.2 unfound key ack late)⟩

/-- A call that looks no stop up, before a part that finishes. -/
theorem Finishes.older {e : JournaledEvent} (plain : foundStop e = none)
    (rest : Safe lookupDuty (Finishes value (e :: own)) body (e :: own)) :
    Safe lookupDuty (Finishes value own) body (e :: own) :=
  rest.mono fun _ _ _ ended => ⟨ended.1, fun unfound => ended.2 (unfound.cons plain)⟩

theorem ReturnsFound.released {r : Except Err α} {own : History journaled Err}
    (returns : ReturnsFound value r own) (released : Except Err Unit) :
    ReturnsFound value (released >>= fun _ => r) (⟨.unlock key, some released⟩ :: own) := by
  intro other ack late at_ calm
  obtain ⟨late, rfl, older⟩ := at_.older rfl
  cases released with
  | error e => cases calm _ List.mem_cons_self
  | ok _ => exact returns other ack late older fun e mem => calm e (List.mem_cons_of_mem _ mem)

/-- What is done under a lock: the lock is released whatever comes of it. -/
theorem locked_finishes (released : Released own)
    (inside : Safe lookupDuty (FinishesUnder key value own) body (granted key :: own)) :
    Safe lookupDuty (Finishes value own) (locked key body) own := by
  refine Safe.ask_bind (fun other ack holding => absurd holding (released other ack)) (fun _ => ?_)
    fun e => ⟨released.cons rfl, fun unfound other ack late at_ => absurd at_ (unfound.cons rfl other ack late)⟩
  refine Safe.handled inside fun r own' _ ended => ?_
  have after (answer : Except Err Unit) :
      Finishes value own (answer >>= fun _ => r) (⟨.unlock key, some answer⟩ :: own') := by
    refine ⟨fun other ack holding => ?_, fun unfound => (ended.2 unfound).released answer⟩
    obtain ⟨holding, open'⟩ := holding.older rfl
    rw [ended.1 other ack holding] at open'
    exact open' rfl
  refine Safe.ask_bind (fun other ack holding => .inl ?_) (fun _ => after (.ok ())) fun e => after (.error e)
  rw [ended.1 other ack holding]

/-- A body that looks no stop up, or goes on without one. -/
theorem plain_inside {inside : History journaled Err} (plain : Plain body)
    (released : Released inside) (unfound : Unfound own → Unfound inside) :
    Safe lookupDuty (FinishesUnder key value own) body inside :=
  (plain_safe plain released).mono fun _ _ _ ended =>
    ⟨fun other ack holding => absurd holding (ended.1 other ack),
      fun none other ack late at_ => absurd at_ (ended.2 (unfound none) other ack late)⟩

/-- With the stop found under the lock, it is recorded and returned. -/
theorem found_inside {e : JournaledEvent} {ack : ProtectiveStopAck} (released : Released own)
    (finds : foundStop e = some ack) :
    Safe lookupDuty (FinishesUnder key id own)
      (do
        calls (.reconcile key (some (.str ack.exchangeOrderId)) (.stop ack.exchangeOrderId))
        return ack)
      (e :: granted key :: own) := by
  have holds {other : String} {a : ProtectiveStopAck} (holding : Holding other a (e :: granted key :: own)) :
      other = key ∧ a = ack := by
    obtain ⟨late, at_, open'⟩ := holding
    rcases at_.first finds with ⟨-, same⟩ | ⟨late', older, rfl⟩
    · exact same
    · exact absurd ⟨late', older, fun x mem => open' x (by simp [mem])⟩ (released other a)
  have after (answer : Except Err Unit) : FinishesUnder key id own (answer >>= fun _ => .ok ack)
      (⟨.reconcile key (some (.str ack.exchangeOrderId)) (.stop ack.exchangeOrderId), some answer⟩ ::
        e :: granted key :: own) := by
    refine ⟨fun other a holding => (holds (holding.older rfl).1).1, fun unfound other a late at_ calm => ?_⟩
    obtain ⟨late', rfl, before⟩ := at_.older rfl
    rcases before.first finds with ⟨-, -, rfl⟩ | ⟨late'', older, -⟩
    · cases answer with
      | error error => cases calm _ List.mem_cons_self
      | ok _ => rfl
    · exact absurd older (unfound other a late'')
  refine Safe.ask_bind (fun other a holding => .inr ?_) (fun _ => after (.ok ())) fun error => after (.error error)
  obtain ⟨rfl, rfl⟩ := holds holding
  rfl

theorem noLongerRequired_plain : Plain (noLongerRequired effect) :=
  .bind (.ask rfl) fun _ => .raise

theorem submitMissingStop_plain (stopPrice : ℚ) (side : OrderSide) (parent : String) :
    Plain (submitMissingStop effect stopPrice side parent) := by
  refine .bind (.ask rfl) fun flat => ?_
  cases flat
  · exact .bind (.ask rfl) fun _ => .bind (.ask rfl) fun _ => .pure
  · exact noLongerRequired_plain

theorem settleFlatStop_plain : Plain (settleFlatStop w effect) := by
  refine .bind (.ask rfl) fun flat => ?_
  cases flat
  · exact .raise
  · exact noLongerRequired_plain

theorem recoverStop_inside (stopPrice : ℚ) (side : OrderSide) (parent : String) (released : Released own) :
    Safe lookupDuty (FinishesUnder effect.effectKey id own) (recoverStop w effect stopPrice side parent)
      (granted effect.effectKey :: own) := by
  have calm : Released (granted effect.effectKey :: own) := released.cons rfl
  unfold recoverStop
  split
  · refine Safe.ask_bind (fun other ack holding => absurd holding (calm other ack)) (fun existing => ?_) fun e => ?_
    · cases existing with
      | none =>
        exact plain_inside (submitMissingStop_plain ..) (calm.cons rfl) fun unfound => (unfound.cons rfl).cons rfl
      | some ack => exact found_inside released rfl
    · exact ⟨fun other ack holding => absurd holding ((calm.cons rfl) other ack),
        fun unfound other ack late at_ => absurd at_ ((unfound.cons rfl).cons rfl other ack late)⟩
  · exact plain_inside settleFlatStop_plain calm fun unfound => unfound.cons rfl

theorem recoverPreparedStop_finishes (stopPrice : ℚ) (side : OrderSide) (parent : String) (released : Released own) :
    Safe lookupDuty (Finishes id own) (recoverPreparedStop w effect stopPrice side parent) own :=
  locked_finishes released (recoverStop_inside stopPrice side parent released)

theorem cancelPrepared_plain (symbol id : String) :
    Plain (cancelPrepared symbol id) := by
  refine .bind (.ask rfl) fun active => .onlyIf (.bind (.ask rfl) fun _ => .bind (.ask rfl) ?_)
  intro remains
  cases remains
  · exact .pure
  · exact .raise

theorem locked_plain {key : String} (plain : Plain body) :
    Plain (locked key body) :=
  .bracket (.ask rfl) (.ask rfl) plain

theorem recoverPreparedPlace_plain (intent : OrderIntent) :
    Plain (recoverPreparedPlace w effect intent) := by
  unfold recoverPreparedPlace
  split
  · exact .raise
  · refine locked_plain (.bind .lift fun id => .bind (cancelPrepared_plain ..) fun _ => .bind (.ask rfl) ?_)
    intro flat
    cases flat
    · exact .raise
    · exact .bind (.ask rfl) fun _ => .pure

theorem recoverPreparedClose_plain (quantity : Option ℚ) (side : Option OrderSide) :
    Plain (recoverPreparedClose w effect quantity side) := by
  unfold recoverPreparedClose
  split
  · exact .raise
  · refine locked_plain (.bind (.ask rfl) fun flat => ?_)
    cases flat
    · exact .raise
    · exact .bind (.ask rfl) fun _ => .pure

theorem cancelActive_plain (key symbol id : String) :
    Plain (cancelActive key symbol id) := by
  refine .bind (.ask rfl) fun active => ?_
  cases active
  · exact .ask rfl
  · refine .bind (.ask rfl) fun _ => .bind (.ask rfl) fun remains => ?_
    cases remains
    · exact .ask rfl
    · exact .raise

theorem cancelOrderByClientId_plain (symbol id : String) : Plain (cancelOrderByClientId w symbol id) := by
  refine .bind (.ask rfl) fun preparation => ?_
  dsimp only
  split
  · exact .pure
  · split
    · exact .raise
    · exact locked_plain (cancelActive_plain ..)

/-- No operation but that on stops looks one up. -/
theorem perform_plain {m : Mutation} (other : ∀ symbol price side parent, m ≠ .stop symbol price side parent) :
    Plain (perform w m) := by
  cases m with
  | place intent =>
    refine .map (.bind .lift fun id => .bind (.ask rfl) fun preparation => ?_)
    dsimp only
    split
    · exact .bind (.ask rfl) fun _ => .bind (.ask rfl) fun _ => .pure
    · split
      · exact .lift
      · exact recoverPreparedPlace_plain intent
  | close symbol quantity side id =>
    refine .map (.bind .lift fun id => .bind (.ask rfl) fun preparation => ?_)
    dsimp only
    split
    · exact .bind (.ask rfl) fun _ => .bind (.ask rfl) fun _ => .pure
    · split
      · exact .lift
      · exact recoverPreparedClose_plain quantity side
  | stop symbol price side parent => exact absurd rfl (other symbol price side parent)
  | cancel symbol id => exact .map (cancelOrderByClientId_plain symbol id)
  | leverage symbol leverage =>
    refine .map (.bind (.ask rfl) fun preparation => ?_)
    dsimp only
    split
    · exact .bind (.ask rfl) fun _ => .ask rfl
    · split
      · exact .pure
      · exact .raise

theorem setProtectiveStop_finishes (symbol : String) (price : ℚ) (side : OrderSide) (parent : String)
    (released : Released own) :
    Safe lookupDuty (Finishes id own) (setProtectiveStop w symbol price side parent) own := by
  refine Safe.ask_bind (fun key ack holding => absurd holding (released key ack)) (fun preparation => ?_) fun e =>
    ⟨released.cons rfl, fun unfound key ack late at_ => absurd at_ (unfound.cons rfl key ack late)⟩
  apply Finishes.older (foundStop_plain rfl _)
  have calm {e : JournaledEvent} (plain : foundStop e = none) : Released (e :: own) := released.cons plain
  dsimp only
  split
  · exact plain_finishes (.bind (.ask rfl) fun _ => .bind (.ask rfl) fun _ => .pure) (calm rfl)
  · split
    · exact plain_finishes .lift (calm rfl)
    · split
      · exact plain_finishes .raise (calm rfl)
      · exact recoverPreparedStop_finishes price side parent (calm rfl)

theorem recoverEffect_released (released : Released own) :
    Safe lookupDuty (fun _ own' => Released own') (recoverEffect w effect) own := by
  unfold recoverEffect
  cases effect.request with
  | stop _ price side parent =>
    exact Safe.seq (recoverPreparedStop_finishes price side parent released) (fun _ _ _ ended => ended.1)
      fun _ _ _ ended => ended.1
  | cancel _ _ =>
    exact (plain_safe (.bind .lift fun id => cancelOrderByClientId_plain ..) released).mono fun _ _ _ ended => ended.1
  | place intent =>
    exact (plain_safe (.bind (recoverPreparedPlace_plain intent) fun _ => .pure) released).mono fun _ _ _ ended => ended.1
  | close _ quantity side _ =>
    exact (plain_safe (.bind (recoverPreparedClose_plain quantity side) fun _ => .pure) released).mono
      fun _ _ _ ended => ended.1
  | leverage => exact released

theorem recoverAll_released (effects : List ExecutionEffect) (released : Released own) :
    Safe lookupDuty (fun _ own' => Released own') (recoverAll w effects) own := by
  induction effects generalizing own with
  | nil => exact released
  | cons effect effects ih =>
    have first : Safe lookupDuty (fun _ own' => Released own') (recoverOne w effect) own := by
      unfold recoverOne
      split
      · exact released
      · exact Safe.handled (recoverEffect_released released) fun _ _ _ ended => ended
    exact Safe.seq first (fun _ _ _ ended => Safe.seq (ih ended) (fun _ _ _ ended => ended) fun _ _ _ ended => ended)
      fun _ _ _ ended => ended

/-- In every call, what is done under a lock that found the stop is right; and an operation that
found one returns it. -/
theorem program_finishes (request : Request) :
    Safe lookupDuty (fun r own => ∀ m, request = .perform m → Unfound own ∨
        (∃ symbol price side parent, m = .stop symbol price side parent) ∧
          ReturnsFound (fun ack => .outcome (.stop ack)) r own)
      (request.program w) [] := by
  have released : Released ([] : History journaled Err) := unfound_nil.released
  cases request with
  | recoverPending =>
    apply Safe.map
    refine Safe.ask_bind (fun key ack holding => absurd holding (released key ack)) (fun effects => ?_) fun _ _ m =>
      nomatch m
    exact (recoverAll_released effects (released.cons rfl)).mono fun _ _ _ _ _ m => nomatch m
  | perform m =>
    apply Safe.map
    by_cases stop : ∃ symbol price side parent, m = .stop symbol price side parent
    · obtain ⟨symbol, price, side, parent, rfl⟩ := stop
      apply Safe.map
      refine (setProtectiveStop_finishes symbol price side parent released).mono fun r own _ ended => ?_
      rintro m same
      cases same
      refine .inr ⟨⟨symbol, price, side, parent, rfl⟩, fun key ack late at_ calm => ?_⟩
      rw [ended.2 unfound_nil key ack late at_ calm]
      rfl
    · push Not at stop
      exact (plain_safe (perform_plain stop) released).mono fun _ _ _ ended _ _ => .inl (ended.2 unfound_nil)

end Duty

end KairosExecution.Venue
