import KairosExecution.Venue.StopLookup

/-! Calls of the journaled adapter that interleave at every event. A recovery reads its effect
before it holds the lock and acts on what it has read. While no call settles the effect between
the reading and the lock, it is prepared still when the lock is granted. Where another call
settles it in between, the recovery cancels, submits and records over it all the same, unless it
recovers a stop and the venue's lookup gives it the very one that is recorded. -/

namespace KairosExecution.Venue

open Python Interactive

/-- Calls that may interleave, one for each caller, and what each has returned by then. -/
structure Concurrent (w : Wrapped) (requests : ℕ → Request) (h : List (ℕ × JournaledEvent))
    (returned : ℕ → Option (Except Err Reply)) : Prop where
  runs : ∀ n, Runs ((requests n).program w) [] (ownEvents n h) (returned n)
  follows : ∃ rows, Follows Rows.step [] (h.map Prod.snd) rows

/-- A call reads the effect of a key, and finds it open. -/
def ReadsOpen (key : String) : JournaledEvent → Prop
  | ⟨.prepare p, some (.ok preparation)⟩ =>
    (p.effectKey = key ∨ preparation.effect.effectKey = key) ∧
      (preparation.created = true ∨ preparation.effect.settled = false)
  | ⟨.recoveryRequired, some (.ok effects)⟩ => ∃ effect ∈ effects, effect.effectKey = key
  | _ => False

/-- Before the events of which the latest is the grant of its lock to a call, the effect was not
settled since the call read it. -/
def Undisturbed (n : ℕ) (key : String) (k : List (ℕ × JournaledEvent)) : Prop :=
  ∀ newer e older, k = newer ++ (n, e) :: older → ReadsOpen key e →
    ∀ x ∈ newer, ¬Rows.MaySettle key x.2

/-- The call that holds the lock has come no further, or its lookup found the stop that the row
records, and no call it made after that raised. -/
def FindsRecorded (effect : ExecutionEffect) (own : History journaled Err)
    (returned : Option (Except Err Reply)) : Prop :=
  (own = [] ∧ returned = none) ∨ ∃ late e ack, own = late ++ [e] ∧ foundStop e = some ack ∧
    effect.exchangeEffectId = some (.str ack.exchangeOrderId) ∧
    effect.response = some (.stop ack.exchangeOrderId) ∧ ∀ x ∈ late, raises x = false

/-- Each lock is granted with its effect undisturbed, or to a call that finds what the row records. -/
def Careful (returned : ℕ → Option (Except Err Reply)) (h : List (ℕ × JournaledEvent)) : Prop :=
  ∀ l n key k, h = l ++ (n, granted key) :: k → Undisturbed n key k ∨
    ∀ rows effect, Follows Rows.step [] (k.map Prod.snd) rows → rows.row key = some effect →
      FindsRecorded effect (ownEvents n l) (returned n)

/-- The call is no release of the lock. -/
def JournaledCall.holds (key : String) : JournaledCall → Bool
  | .unlock other => other ≠ key
  | _ => true

/-- The events under a lock: those before its release. -/
def underLock (key : String) (later : History journaled Err) : History journaled Err :=
  later.reverse.takeWhile fun e => JournaledCall.holds key e.call

/-- A call that leaves the venue and the journal as they are, or writes down again what the
journal records. -/
def Keeps (effect : ExecutionEffect) : JournaledCall → Prop
  | .venue c => c.mutates = false
  | .confirm .. => False
  | .reconcile key id response =>
    key = effect.effectKey ∧ id = effect.exchangeEffectId ∧ some response = effect.response
  | _ => True

/-- A recovery whose effect was settled when its lock was granted leaves the venue and the record
of the effect as they are, and returns the recorded outcome. -/
def RespectsStatus (w : Wrapped) (requests : ℕ → Request) (returned : ℕ → Option (Except Err Reply))
    (h : List (ℕ × JournaledEvent)) : Prop :=
  ∀ l n key k, h = l ++ (n, granted key) :: k →
    ∀ rows effect, Follows Rows.step [] (k.map Prod.snd) rows → rows.row key = some effect →
      effect.settled = true →
      (∀ e ∈ underLock key (ownEvents n l), Keeps effect e.call) ∧
      ∀ m r, requests n = .perform m → returned n = some r → r = Reply.outcome <$> readBack w effect m

section Duty

/-- A lock is asked for after the effect was read, and found open. -/
def lockDuty (own : History journaled Err) : JournaledCall → Prop
  | .lock key => ∃ e ∈ own, ReadsOpen key e
  | _ => True

def Unlocking : JournaledCall → Prop
  | .lock _ => False
  | _ => True

variable {w : Wrapped} {own : History journaled Err} {α : Type} {body : Journaled α}
  {effect : ExecutionEffect}

/-- A part that asks for no lock owes nothing. -/
theorem unlocking_meets (calls : Calls Unlocking body) : Meets lockDuty body own fun _ _ => True :=
  (calls.meets (fun _ c free => by cases c <;> trivial) own).mono
    fun _ _ _ _ => trivial

theorem locked_meets {key : String} (read : ∃ e ∈ own, ReadsOpen key e) (calls : Calls Unlocking body) :
    Meets lockDuty (locked key body) own fun _ _ => True :=
  .ask_bind read fun _ => unlocking_meets (.bind (.attempt calls) fun _ => .bind (.ask trivial) fun _ => .lift)

theorem cancelPrepared_unlocking (symbol id : String) : Calls Unlocking (cancelPrepared symbol id) := by
  refine .bind (.ask trivial) fun active => .onlyIf (.bind (.ask trivial) fun _ => .bind (.ask trivial) ?_)
  intro remains
  cases remains
  · exact .pure
  · exact .raise

theorem recoverPlace_unlocking (intent : OrderIntent) : Calls Unlocking (recoverPlace w effect intent) := by
  refine .bind .lift fun id => .bind (cancelPrepared_unlocking ..) fun _ => .bind (.ask trivial) ?_
  intro flat
  cases flat
  · exact .raise
  · exact .bind (.ask trivial) fun _ => .pure

theorem recoverClose_unlocking (quantity : Option ℚ) (side : Option OrderSide) :
    Calls Unlocking (recoverClose w effect quantity side) := by
  refine .bind (.ask trivial) fun flat => ?_
  cases flat
  · exact .raise
  · exact .bind (.ask trivial) fun _ => .pure

theorem noLongerRequired_unlocking : Calls Unlocking (noLongerRequired effect) :=
  .bind (.ask trivial) fun _ => .raise

theorem submitMissingStop_unlocking (stopPrice : ℚ) (side : OrderSide) (parent : String) :
    Calls Unlocking (submitMissingStop effect stopPrice side parent) := by
  refine .bind (.ask trivial) fun flat => ?_
  cases flat
  · exact .bind (.ask trivial) fun _ => .bind (.ask trivial) fun _ => .pure
  · exact noLongerRequired_unlocking

theorem recoverStop_unlocking (stopPrice : ℚ) (side : OrderSide) (parent : String) :
    Calls Unlocking (recoverStop w effect stopPrice side parent) := by
  unfold recoverStop
  split
  · refine .bind (.ask trivial) fun existing => ?_
    cases existing
    · exact submitMissingStop_unlocking ..
    · exact .bind (.ask trivial) fun _ => .pure
  · refine .bind (.ask trivial) fun flat => ?_
    cases flat
    · exact .raise
    · exact noLongerRequired_unlocking

theorem cancelActive_unlocking (key symbol id : String) : Calls Unlocking (cancelActive key symbol id) := by
  refine .bind (.ask trivial) fun active => ?_
  cases active
  · exact .ask trivial
  · refine .bind (.ask trivial) fun _ => .bind (.ask trivial) fun remains => ?_
    cases remains
    · exact .ask trivial
    · exact .raise

/-- An effect that was read and found open is recovered under its lock. -/
theorem recoverPreparedPlace_meets (read : ∃ e ∈ own, ReadsOpen effect.effectKey e) (intent : OrderIntent) :
    Meets lockDuty (recoverPreparedPlace w effect intent) own fun _ _ => True := by
  unfold recoverPreparedPlace
  split
  · exact .raise
  · exact locked_meets read (recoverPlace_unlocking intent)

theorem recoverPreparedClose_meets (read : ∃ e ∈ own, ReadsOpen effect.effectKey e)
    (quantity : Option ℚ) (side : Option OrderSide) :
    Meets lockDuty (recoverPreparedClose w effect quantity side) own fun _ _ => True := by
  unfold recoverPreparedClose
  split
  · exact .raise
  · exact locked_meets read (recoverClose_unlocking quantity side)

theorem proceed_meets {p : Preparation} {preparation : EffectPreparation}
    (read : (⟨.prepare p, some (.ok preparation)⟩ : JournaledEvent) ∈ own) :
    Meets lockDuty (proceed w p preparation) own fun _ _ => True := by
  obtain ⟨effect, created⟩ := preparation
  have asked (found : created = true ∨ effect.settled = false) :
      ∃ e ∈ own, ReadsOpen p.effectKey e := ⟨_, read, .inl rfl, found⟩
  have answered (found : created = true ∨ effect.settled = false) :
      ∃ e ∈ own, ReadsOpen effect.effectKey e := ⟨_, read, .inr rfl, found⟩
  unfold proceed
  cases p.request with
  | place intent =>
    apply Meets.map
    dsimp only
    split
    · exact unlocking_meets (.bind (.ask trivial) fun _ => .bind (.ask trivial) fun _ => .pure)
    · split
      · exact .lift fun _ _ => trivial
      · exact recoverPreparedPlace_meets (answered (.inr (by simpa using ‹¬effect.settled = true›))) intent
  | close symbol quantity side _ =>
    apply Meets.map
    dsimp only
    split
    · exact unlocking_meets (.bind (.ask trivial) fun _ => .bind (.ask trivial) fun _ => .pure)
    · split
      · exact .lift fun _ _ => trivial
      · exact recoverPreparedClose_meets (answered (.inr (by simpa using ‹¬effect.settled = true›))) quantity side
  | stop symbol stopPrice side parent =>
    apply Meets.map
    dsimp only
    split
    · exact unlocking_meets (.bind (.ask trivial) fun _ => .bind (.ask trivial) fun _ => .pure)
    · split
      · exact .lift fun _ _ => trivial
      · split
        · exact .raise
        · exact locked_meets (answered (.inr (by simpa using ‹¬effect.settled = true›)))
            (recoverStop_unlocking stopPrice side parent)
  | cancel symbol id =>
    apply Meets.map
    dsimp only
    split
    · exact .pure trivial
    · split
      · exact .raise
      · exact locked_meets (asked (by cases created <;> simp_all)) (cancelActive_unlocking ..)
  | leverage symbol leverage =>
    apply Meets.map
    dsimp only
    split
    · exact unlocking_meets (.bind (.ask trivial) fun _ => .ask trivial)
    · split
      · exact .pure trivial
      · exact .raise

theorem perform_meets (m : Mutation) : Meets lockDuty (perform w m) own fun _ _ => True := by
  rw [perform_eq]
  exact .lift_bind fun p _ => .ask_bind trivial fun preparation => proceed_meets List.mem_cons_self

theorem recoverEffect_meets (read : ∃ e ∈ own, ReadsOpen effect.effectKey e) :
    Meets lockDuty (recoverEffect w effect) own fun _ _ => True := by
  unfold recoverEffect
  cases effect.request with
  | place intent => exact .bind (recoverPreparedPlace_meets read intent) fun _ _ _ _ => .pure trivial
  | close _ quantity side _ =>
    exact .bind (recoverPreparedClose_meets read quantity side) fun _ _ _ _ => .pure trivial
  | stop _ stopPrice side parent =>
    exact .bind (locked_meets read (recoverStop_unlocking stopPrice side parent)) fun _ _ _ _ => .pure trivial
  | cancel _ _ => exact .lift_bind fun id _ => (perform_meets (.cancel effect.symbol id)).of_map
  | leverage => exact .raise

/-- The effects that were listed are recovered one after the other. -/
theorem recoverAll_meets {effects : List ExecutionEffect}
    (read : ∀ effect ∈ effects, ∃ e ∈ own, ReadsOpen effect.effectKey e) :
    Meets lockDuty (recoverAll w effects) own fun _ _ => True := by
  induction effects generalizing own with
  | nil => exact .pure trivial
  | cons effect effects ih =>
    have first : Meets lockDuty (recoverOne w effect) own fun _ _ => True := by
      unfold recoverOne
      split
      · exact .pure trivial
      · exact .attempt_bind (recoverEffect_meets (read effect List.mem_cons_self))
          (fun _ _ _ _ => .lift fun _ _ => trivial) fun _ _ _ => .lift fun _ _ => trivial
    refine .bind first fun _ later suffix _ => .bind (ih fun effect mem => ?_) fun _ _ _ _ => .pure trivial
    obtain ⟨e, older, reads⟩ := read effect (List.mem_cons_of_mem _ mem)
    exact ⟨e, suffix.subset older, reads⟩

theorem program_meets (request : Request) : Meets lockDuty (request.program w) own fun _ _ => True := by
  cases request with
  | perform m => exact .map (perform_meets m)
  | recoverPending =>
    apply Meets.map
    exact .ask_bind trivial fun effects => recoverAll_meets fun effect mem =>
      ⟨_, List.mem_cons_self, effect, mem, rfl⟩

end Duty

section Status

variable {rows rows' : Rows} {key : String} {e : JournaledEvent}

theorem nodup_step (distinct : (rows.map (·.effectKey)).Nodup) (step : Rows.step rows e rows') :
    (rows'.map (·.effectKey)).Nodup := by
  rcases Rows.step_cases step with rfl | ⟨p, free, rfl⟩ | ⟨other, status, id, response, _, rfl, _⟩
  · exact distinct
  · exact Table.nodup_map_append distinct (Rows.row_none free)
  · rw [Rows.settle_keys]
    exact distinct

/-- The row of a key is there, and open. -/
def Rows.IsOpen (rows : Rows) (key : String) : Prop :=
  ∃ effect, rows.row key = some effect ∧ effect.settled = false

/-- What a call finds open is open then. -/
theorem isOpen_of_reads (distinct : (rows.map (·.effectKey)).Nodup) (step : Rows.step rows e rows')
    (reads : ReadsOpen key e) : rows'.IsOpen key := by
  unfold ReadsOpen at reads
  split at reads
  next p preparation =>
    obtain ⟨own, found⟩ := reads
    rcases Rows.prepare_ok step with ⟨free, rfl, rfl⟩ | ⟨effect, there, _, rfl, rfl⟩
    · have same : p.effectKey = key := own.elim id id
      subst same
      exact ⟨_, (Rows.row_prepared p free p.effectKey).trans (if_pos rfl), rfl⟩
    · have same : p.effectKey = key := own.elim id ((Rows.row_key there).symm.trans ·)
      subst same
      exact ⟨effect, there, found.resolve_left (by simp)⟩
  next effects =>
    obtain ⟨rfl, rfl⟩ := step
    obtain ⟨effect, listed, rfl⟩ := reads
    have unresolved := List.of_mem_filter listed
    exact ⟨effect, Rows.row_of_mem distinct (List.mem_of_mem_filter listed),
      by simp [ExecutionEffect.settled, unresolved]⟩
  next => exact reads.elim

/-- It stays open while no call settles it. -/
theorem isOpen_step (opened : rows.IsOpen key) (step : Rows.step rows e rows')
    (calm : ¬Rows.MaySettle key e) : rows'.IsOpen key := by
  obtain ⟨effect, found, unsettled⟩ := opened
  rcases Rows.step_cases step with rfl | ⟨p, free, rfl⟩ | ⟨other, status, id, response, _, rfl, settles⟩
  · exact ⟨effect, found, unsettled⟩
  · have apart : key ≠ p.effectKey := by
      rintro rfl
      rw [free] at found
      cases found
    exact ⟨effect, by rw [Rows.row_prepared p free, if_neg apart, found], unsettled⟩
  · have apart : key ≠ other := by
      rintro rfl
      exact calm settles
    exact ⟨effect, by rw [Rows.row_settle, if_neg apart, found], unsettled⟩

end Status

section Session

variable {w : Wrapped} {requests : ℕ → Request} {returned : ℕ → Option (Except Err Reply)}
  {h l k : List (ℕ × JournaledEvent)} {n : ℕ} {key : String} {rows : Rows}

/-- Where no call comes in between, a lock is granted on an effect that is open. -/
theorem isOpen_of_granted (session : Concurrent w requests h returned)
    (eq : h = l ++ (n, granted key) :: k) (undisturbed : Undisturbed n key k)
    (follows : Follows Rows.step [] (k.map Prod.snd) rows) : rows.IsOpen key := by
  have dutiful : Dutiful lockDuty (ownEvents n h) :=
    (Meets.sound (program_meets (requests n)) (session.runs n) trivial).1
  obtain ⟨e, read, reads⟩ := dutiful.own eq
  obtain ⟨newer, older, rfl⟩ := List.append_of_mem (mem_ownEvents.1 read)
  rw [List.map_append, List.map_cons] at follows
  apply follows.through
  · intro before reading
    cases reading with
    | next earlier step =>
      have distinct := earlier.invariant (P := fun _ rows => (rows.map (·.effectKey)).Nodup) List.nodup_nil
        fun _ _ _ _ _ distinct step => nodup_step distinct step
      exact isOpen_of_reads distinct step reads
  · intro x mem before after opened step
    obtain ⟨moved, later, rfl⟩ := List.mem_map.1 mem
    exact isOpen_step opened step (undisturbed newer e older rfl reads moved later)

/-- An event under a lock follows others that do not release it. -/
theorem mem_underLock {later : History journaled Err} {e : JournaledEvent} (mem : e ∈ underLock key later) :
    e.call ≠ .unlock key ∧
      ∃ newer older, later = newer ++ e :: older ∧ ∀ x ∈ older, x.call ≠ .unlock key := by
  have apart {x : JournaledEvent} (mem : x ∈ underLock key later) : x.call ≠ .unlock key := by
    have holds := List.mem_takeWhile_imp mem
    intro unlock
    simp [unlock, JournaledCall.holds] at holds
  obtain ⟨older, newer, split⟩ := List.append_of_mem mem
  obtain ⟨rest, whole⟩ := List.takeWhile_prefix (l := later.reverse) fun e => JournaledCall.holds key e.call
  change underLock key later ++ rest = later.reverse at whole
  refine ⟨apart mem, (newer ++ rest).reverse, older.reverse, ?_, fun x own => ?_⟩
  · rw [← List.reverse_reverse later, ← whole, split]
    simp
  · apply apart
    rw [split]
    exact List.mem_append_left _ (List.mem_reverse.1 own)

/-- A call that finds what the row records keeps it, and returns it. -/
theorem keeps_of_found {effect : ExecutionEffect} (session : Concurrent w requests h returned)
    (eq : h = l ++ (n, granted key) :: k) (own : effect.effectKey = key)
    (finds : FindsRecorded effect (ownEvents n l) (returned n)) :
    (∀ e ∈ underLock key (ownEvents n l), Keeps effect e.call) ∧
      ∀ m r, requests n = .perform m → returned n = some r → r = Reply.outcome <$> readBack w effect m := by
  obtain ⟨nothing, cut⟩ | ⟨late, found, ack, split, finds, id, response, calm⟩ := finds
  · rw [nothing, cut]
    refine ⟨fun e mem => ?_, fun m r _ ended => nomatch ended⟩
    simp [underLock] at mem
  have events : ownEvents n h = late ++ found :: granted key :: ownEvents n k := by
    have whole : ownEvents n h = ownEvents n l ++ granted key :: ownEvents n k := by
      rw [eq]
      simp [ownEvents, List.filter_append]
    rw [whole, split]
    simp
  obtain ⟨dutiful, ends⟩ := Safe.sound (program_finishes (requests n)) (session.runs n) trivial
  constructor
  · intro e mem
    obtain ⟨held, newer, older, before, open'⟩ := mem_underLock mem
    rw [split] at before
    rcases List.eq_nil_or_concat older with rfl | ⟨older, x, rfl⟩
    · -- the lookup itself
      obtain ⟨-, last⟩ := List.append_inj' before rfl
      obtain rfl : e = found := (List.cons.inj last).1.symm
      obtain ⟨symbol, price, side, parent, lookup⟩ := lookup_of_found finds
      rw [lookup]
      exact rfl
    · rw [List.concat_eq_append, ← List.cons_append, ← List.append_assoc] at before
      obtain ⟨between, last⟩ := List.append_inj' before rfl
      cases last
      subst between
      have holding : Holding key ack (older ++ found :: granted key :: ownEvents n k) :=
        ⟨older, ⟨found, _, rfl, finds⟩, fun x mem => open' x (by simp [mem])⟩
      have duty := dutiful.at (l := newer) (e := e) (k := older ++ found :: granted key :: ownEvents n k)
        (by rw [events]; simp)
      rcases duty key ack holding with release | record
      · exact absurd release held
      · rw [record]
        exact ⟨own.symm, id.symm, response.symm⟩
  · intro m r asks ended
    obtain none | ⟨⟨symbol, price, side, parent, rfl⟩, returns⟩ := ends r ended m asks
    · exact absurd ⟨found, _, events, finds⟩ (none key ack late)
    · rw [returns key ack late ⟨found, _, events, finds⟩ calm]
      unfold readBack cachedStop
      rw [response]
      simp [ack.named]

/-- In every run in which each lock is granted with its effect undisturbed since the call read it,
or to a call that finds the recorded stop, every recovery respects the status its effect has when
the lock is granted; an effect that was left undisturbed is open then. -/
theorem recovery_respects_status (session : Concurrent w requests h returned)
    (careful : Careful returned h) :
    RespectsStatus w requests returned h ∧ ∀ l n key k rows, h = l ++ (n, granted key) :: k →
      Undisturbed n key k → Follows Rows.step [] (k.map Prod.snd) rows → rows.IsOpen key := by
  refine ⟨fun l n key k eq rows effect follows found settled => ?_,
    fun l n key k rows eq undisturbed follows => isOpen_of_granted session eq undisturbed follows⟩
  rcases careful l n key k eq with undisturbed | finds
  · obtain ⟨effect', found', unsettled⟩ := isOpen_of_granted session eq undisturbed follows
    rw [found, Option.some.injEq] at found'
    simp [← found', settled] at unsettled
  · exact keeps_of_found session eq (Rows.row_key found) (finds rows effect follows found)

end Session

section Sample

/-- An entry, and an adapter for its identity. -/
def sampleEntry : OrderIntent where
  clientOrderId := some "entry-1"
  symbol := "BTCUSDT"
  side := .BUY
  quantity := 1
  price := none
  stopPrice := none
  leverage := 1

def entryAdapter : Wrapped where
  toReportFormat := sampleFormat
  name := "fake"
  exchangeOrderIdMatchesClientOrderId := false
  protectiveStopLookupAuthoritative := false
  digest := fun _ => "5e2d5d1e58e94d7607e0745cd3e612c4a358fc93f37fc5ab1fed8d04bbf7ce77"
  leverageIdentity := fun symbol _ => symbol

def samplePlacement : Preparation where
  effectKey := entryAdapter.key .PLACE_ORDER "entry-1"
  effectType := .PLACE_ORDER
  symbol := "BTCUSDT"
  clientOrderId := some "entry-1"
  request := .place sampleEntry

/-- The order rests at the venue. -/
def restingReport : ExecutionReport where
  source := "venue"
  clientOrderId := .str "entry-1"
  exchangeOrderId := .str "77"
  exchange := .str "fake"
  symbol := .str "BTCUSDT"
  side := .str "BUY"
  status := .known .NEW
  requestedQty := .float 1
  remainingQty := .float 1
  message := ""

/-- A venue that accepts the entry and keeps it active. -/
def restingVenue : (c : VenueCall) → Except Err c.Answer
  | .placeOrder _ => .ok restingReport
  | .isOrderActiveByClientId .. => .ok true
  | .cancelOrderByClientId .. => .ok ()
  | _ => .error (.raised "RuntimeError" "")

def placeSample (_ : ℕ) : Request := .perform (.place sampleEntry)

/-- The events of the two calls, the latest first: the second call reads the effect before the
first confirms it, and takes its lock after that. -/
def staleEvents : List (ℕ × JournaledEvent) :=
  [(1, ⟨.unlock samplePlacement.effectKey, some (.ok ())⟩),
    (1, ⟨.venue (.isOrderActiveByClientId "BTCUSDT" "entry-1"), some (.ok true)⟩),
    (1, ⟨.venue (.cancelOrderByClientId "BTCUSDT" "entry-1"), some (.ok ())⟩),
    (1, ⟨.venue (.isOrderActiveByClientId "BTCUSDT" "entry-1"), some (.ok true)⟩),
    (1, granted samplePlacement.effectKey),
    (0, ⟨.confirm samplePlacement.effectKey (.str "77") (entryAdapter.reported restingReport), some (.ok ())⟩),
    (1, ⟨.prepare samplePlacement, some (.ok ⟨Rows.prepared samplePlacement, false⟩)⟩),
    (0, ⟨.venue (.placeOrder sampleEntry), some (.ok restingReport)⟩),
    (0, ⟨.prepare samplePlacement, some (.ok ⟨Rows.prepared samplePlacement, true⟩)⟩)]

def staleReturned : ℕ → Option (Except Err Reply)
  | 0 => some (.ok (.outcome (.report restingReport)))
  | 1 => some (.error (.recovery "prepared entry remains active after cancellation"))
  | _ => none

/-- The entry is confirmed when the lock is granted. -/
theorem staleEvents_older :
    Follows Rows.step [] ((staleEvents.drop 5).map Prod.snd)
      (Rows.settle [Rows.prepared samplePlacement] samplePlacement.effectKey .CONFIRMED (some (.str "77"))
        (entryAdapter.reported restingReport)) :=
  .next (.next (.next (.next .start rfl) rfl) rfl) rfl

theorem staleEvents_concurrent : Concurrent entryAdapter placeSample staleEvents staleReturned := by
  constructor
  · intro n
    match n with
    | 0 => exact execute_runs (Rows.keeper restingVenue) ((placeSample 0).program entryAdapter) [] []
    | 1 =>
      exact execute_runs (Rows.keeper restingVenue) ((placeSample 1).program entryAdapter)
        [Rows.prepared samplePlacement] []
    | n + 2 => exact .stopped _ _
  · exact ⟨_, .next (.next (.next (.next (.next staleEvents_older rfl) rfl) rfl) rfl) rfl⟩

/-- A recovery cancels an entry that is confirmed by then. -/
theorem recovery_disrespects_status :
    ¬∀ (w : Wrapped) (requests : ℕ → Request) (h : List (ℕ × JournaledEvent))
      (returned : ℕ → Option (Except Err Reply)),
      Concurrent w requests h returned → RespectsStatus w requests returned h := by
  intro respects
  have quiet := (respects entryAdapter placeSample staleEvents staleReturned staleEvents_concurrent
    (staleEvents.take 4) 1 samplePlacement.effectKey (staleEvents.drop 5) rfl
    _ _ staleEvents_older rfl rfl).1
  have cancelled := quiet ⟨.venue (.cancelOrderByClientId "BTCUSDT" "entry-1"), some (.ok ())⟩
    (.tail _ (.head _))
  cases cancelled

/-- An adapter whose lookup of stops is authoritative. -/
def lookupAdapter : Wrapped := { sampleAdapter with protectiveStopLookupAuthoritative := true }

def stopPreparation : Preparation :=
  { samplePreparation with effectKey := lookupAdapter.key .PROTECTIVE_STOP "parent-1" }

def sampleAck : ProtectiveStopAck := ⟨"stop-1", stop_not_blank⟩

/-- A venue that places the stop, and finds it. -/
def lookupVenue : (c : VenueCall) → Except Err c.Answer
  | .setProtectiveStop .. => .ok sampleAck
  | .findProtectiveStop .. => .ok (some sampleAck)
  | _ => .error (.raised "RuntimeError" "")

def stopSample (_ : ℕ) : Request := sampleStop

/-- The second call reads the effect of the stop before the first confirms it, takes its lock after
that, and finds the stop. -/
def foundEvents : List (ℕ × JournaledEvent) :=
  [(1, ⟨.unlock stopPreparation.effectKey, some (.ok ())⟩),
    (1, ⟨.reconcile stopPreparation.effectKey (some (.str "stop-1")) (.stop "stop-1"), some (.ok ())⟩),
    (1, ⟨.venue (.findProtectiveStop "BTCUSDT" 90 .BUY "parent-1"), some (.ok (some sampleAck))⟩),
    (1, granted stopPreparation.effectKey),
    (0, ⟨.confirm stopPreparation.effectKey (.str "stop-1") (.stop "stop-1"), some (.ok ())⟩),
    (1, ⟨.prepare stopPreparation, some (.ok ⟨Rows.prepared stopPreparation, false⟩)⟩),
    (0, ⟨.venue (.setProtectiveStop "BTCUSDT" 90 .BUY "parent-1"), some (.ok sampleAck)⟩),
    (0, ⟨.prepare stopPreparation, some (.ok ⟨Rows.prepared stopPreparation, true⟩)⟩)]

def foundReturned : ℕ → Option (Except Err Reply)
  | 0 | 1 => some (.ok (.outcome (.stop sampleAck)))
  | _ => none

theorem foundEvents_concurrent : Concurrent lookupAdapter stopSample foundEvents foundReturned := by
  constructor
  · intro n
    match n with
    | 0 => exact execute_runs (Rows.keeper lookupVenue) ((stopSample 0).program lookupAdapter) [] []
    | 1 =>
      exact execute_runs (Rows.keeper lookupVenue) ((stopSample 1).program lookupAdapter)
        [Rows.prepared stopPreparation] []
    | n + 2 => exact .stopped _ _
  · exact ⟨_, .next (.next (.next (.next (.next (.next (.next (.next .start rfl) rfl) rfl) rfl) rfl) rfl) rfl) rfl⟩

/-- The row of the stop when the lock is granted. -/
def confirmedStop : ExecutionEffect :=
  Rows.settled .CONFIRMED (some (.str "stop-1")) (.stop "stop-1") (Rows.prepared stopPreparation)

theorem foundEvents_older :
    Follows Rows.step [] ((foundEvents.drop 4).map Prod.snd) [confirmedStop] :=
  .next (.next (.next (.next .start rfl) rfl) rfl) rfl

/-- The journal has one row by then, whatever is known of it. -/
theorem foundEvents_row {rows : Rows} (follows : Follows Rows.step [] ((foundEvents.drop 4).map Prod.snd) rows) :
    rows = [confirmedStop] := by
  obtain - | ⟨before, confirmed⟩ := follows
  obtain - | ⟨before, read⟩ := before
  obtain - | ⟨before, submitted⟩ := before
  obtain - | ⟨before, prepared⟩ := before
  cases before
  have first := (congrArg Prod.fst (Except.ok.inj prepared)).symm
  cases submitted
  subst first
  have second := (congrArg Prod.fst (Except.ok.inj read)).symm
  subst second
  exact confirmed

/-- Before the one lock there are four events, and the row is confirmed by them. -/
theorem foundEvents_careful : Careful foundReturned foundEvents := by
  intro l n key k eq
  have earlier : l = foundEvents.take l.length := by rw [eq]; simp
  have older : k = foundEvents.drop (l.length + 1) := by rw [eq]; simp
  have grant : foundEvents[l.length]? = some (n, granted key) := by rw [eq]; simp
  have short : l.length < 8 := by
    have length := congrArg List.length eq
    simp only [foundEvents, List.length_append, List.length_cons, List.length_nil] at length
    omega
  generalize l.length = place at *
  obtain rfl | other := eq_or_ne place 3
  · cases grant
    subst earlier older
    refine .inr fun rows effect follows found => .inr ?_
    rw [foundEvents_row follows] at found
    cases found
    refine ⟨ownEvents 1 (foundEvents.take 2),
      ⟨.venue (.findProtectiveStop "BTCUSDT" 90 .BUY "parent-1"), some (.ok (some sampleAck))⟩,
      sampleAck, rfl, rfl, rfl, rfl, fun x mem => ?_⟩
    have after : x ∈ [_, _] := mem
    simp only [List.mem_cons, List.not_mem_nil, or_false] at after
    rcases after with rfl | rfl <;> rfl
  · interval_cases place <;> first | exact absurd rfl other | cases grant

theorem recovery_respects_status_sample :
    Follows Rows.step [] ((foundEvents.drop 4).map Prod.snd) [confirmedStop] ∧ confirmedStop.settled = true ∧
      RespectsStatus lookupAdapter stopSample foundReturned foundEvents :=
  ⟨foundEvents_older, rfl, (recovery_respects_status foundEvents_concurrent foundEvents_careful).1⟩

end Sample

end KairosExecution.Venue
