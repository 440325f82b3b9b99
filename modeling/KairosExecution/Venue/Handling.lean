import KairosExecution.Python.Dict
import KairosExecution.Venue.Returns

/-! Orders that the engine handles, concurrently, with the cache of what it has completed. A
result is stored only by the call that concluded it, so a report that is returned from the
cache was safe when it was stored. -/

namespace KairosExecution.Venue

open Python Interactive

abbrev Completed := Dict String (String × Option ExecutionReport)

variable (e : EngineSettings)

namespace Completed

/-- `move_to_end`, where the entry is of the same payload. -/
def touch (completed : Completed) (messageId stored : String) : Completed :=
  match completed.lookup messageId with
  | some entry =>
    if entry.1 = stored then completed.filter (·.1 ≠ messageId) ++ [(messageId, entry)] else completed
  | none => completed

/-- The entry is stored, and the oldest one dropped where there are too many. -/
def store (completed : Completed) (messageId stored : String) (result : Option ExecutionReport) :
    Completed :=
  let stored := completed.set messageId (stored, result)
  if e.idempotencyCacheSize < stored.length then stored.tail else stored

/-- What an event does to the cache. -/
def step (completed : Completed) : EngineEvent → Completed → Prop
  | ⟨.read messageId stored, some (.ok reading)⟩, completed' =>
    reading.completed = completed.lookup messageId ∧ completed' = completed.touch messageId stored
  | ⟨.complete messageId stored result, some (.ok _)⟩, completed' =>
    completed' = completed.store e messageId stored result
  | ⟨.complete messageId stored result, none⟩, completed' =>
    completed' = completed ∨ completed' = completed.store e messageId stored result
  | _, completed' => completed' = completed

/-- Every entry was stored by some call. -/
def Stored (h : List EngineEvent) (completed : Completed) : Prop :=
  ∀ entry ∈ completed, ∃ event ∈ h, event.call = .complete entry.1 entry.2.1 entry.2.2

end Completed

/-- Orders that are handled by one engine, each by a call of its own, and what has been returned. -/
structure HandlingSession (orders : ℕ → ValidatedOrder) (h : List (ℕ × EngineEvent))
    (returned : ℕ → Option (Except Err (Option ExecutionReport))) : Prop where
  runs : ∀ n, Runs (handle e (orders n)) [] (ownEvents n h) (returned n)
  follows : ∃ completed, Follows (Completed.step e) [] (h.map Prod.snd) completed

section Call

variable {e} {order : ValidatedOrder} {h : History engine Err}

theorem resolveAmbiguousClose_meets {intent : OrderIntent} {id : String} {error : Err} :
    Meets (handleDuty e order) (resolveAmbiguousClose e intent id error) h fun _ _ => True := by
  apply (positionIsFlat_meets ..).bind
  intro flat _ _ _
  cases flat with
  | true => exact (cancelIfActive_meets ..).bind fun _ _ _ _ => .pure trivial
  | false => exact (orderIsActive_meets ..).bind fun _ _ _ _ => .raise

theorem settleClose_meets {intent : OrderIntent} {id : String} {report : ExecutionReport} :
    Meets (handleDuty e order) (settleClose e intent id report) h fun _ _ => True := by
  apply Meets.lift_bind
  intro error _
  apply (positionIsFlat_meets ..).bind
  intro flat _ _ _
  cases error with
  | some error => exact .raise
  | none =>
    cases flat with
    | false => exact .raise
    | true => exact (cancelIfActive_meets ..).bind fun _ _ _ _ => .pure trivial

/-- A close places no order. -/
theorem closeToDesiredState_meets :
    Meets (handleDuty e order) (closeToDesiredState e order) h fun _ _ => True := by
  apply Meets.lift_bind
  intro id _
  apply (positionIsFlat_meets ..).bind
  intro flat _ _ _
  cases flat with
  | true => exact (cancelIfActive_meets ..).bind fun _ _ _ _ => .pure trivial
  | false =>
    apply (orderIsActive_meets ..).bind
    intro active _ _ _
    cases active with
    | true => exact .raise
    | false =>
      apply attempted_bind (by trivial)
      intro submitted
      rcases submitted with error | report
      · cases error with
        | cancelled => exact .raise
        | safety | recovery | noLongerRequired | raised => exact resolveAmbiguousClose_meets
      · exact settleClose_meets

/-- The engine was read, and nothing was done since. -/
def readAlone (e : EngineSettings) (order : ValidatedOrder) (reading : Reading) : History engine Err :=
  [⟨.read order.messageId (fingerprint e order), some (.ok reading)⟩]

theorem handleOnce_meets {reading : Reading} :
    Meets (handleDuty e order) (handleOnce e reading order) (readAlone e order reading) fun result h' =>
      Eligible e order → Concluded e order h' result := by
  unfold handleOnce
  split
  next forbidden => exact .pure fun eligible => absurd eligible.2.1 forbidden
  next =>
    split
    next unapproved => exact .pure fun eligible => by simp [eligible.1] at unapproved
    next =>
      dsimp only
      split
      · exact .raise
      next free =>
        split
        next held => exact .pure fun _ => ⟨reading, rfl, held.1⟩
        next allowed =>
          have acts : ∀ side, actionFor order.reasonCode = (.OPEN, side) →
              Meets (handleDuty e order) (openEntry e order side) (readAlone e order reading) fun _ h' =>
                SafeReturn e order h' := by
            intro side opens
            rw [opens] at free allowed
            have owed : ∀ intent, handleDuty e order (readAlone e order reading) (.venue (.placeOrder intent)) :=
              fun _ => ⟨reading, rfl, by simpa using free, fun held => allowed ⟨held, rfl⟩⟩
            simpa only [opens] using openEntry_meets owed
          rcases action : actionFor order.reasonCode with ⟨kind, side⟩
          cases kind with
          | OPEN => exact .map ((acts side action).mono fun _ _ _ safe _ => safe)
          | CLOSE =>
            exact .map (closeToDesiredState_meets.mono fun _ _ _ _ eligible => by
              simp [Eligible, action] at eligible)
          | REDUCE =>
            exact .ask_bind trivial fun _ => .pure fun eligible => by simp [Eligible, action] at eligible
          | NOOP => exact .pure fun eligible => by simp [Eligible, action] at eligible

/-- A call returns what the cache holds for its order, or what it has concluded and stored. -/
def Answers (e : EngineSettings) (order : ValidatedOrder) (result : Option ExecutionReport)
    (t : History engine Err) : Prop :=
  (∃ reading, t = readAlone e order reading ∧ reading.completed = some (fingerprint e order, result)) ∨
  ∃ own, t = ⟨.complete order.messageId (fingerprint e order) result, some (.ok ())⟩ :: own ∧
    (Eligible e order → Concluded e order own result)

theorem handle_meets : Meets (handleDuty e order) (handle e order) [] (Answers e order) := by
  apply Meets.ask_bind trivial
  intro reading
  cases cached : reading.completed with
  | some entry =>
    obtain ⟨stored, report⟩ := entry
    dsimp only
    split
    · exact .raise
    next same =>
      rw [not_not] at same
      exact .pure (.inl ⟨reading, rfl, by rw [cached, same]; rfl⟩)
  | none =>
    apply handleOnce_meets.bind
    intro result own _ concluded
    exact .ask_bind ⟨rfl, rfl, concluded⟩ fun _ => .pure (.inr ⟨own, rfl, concluded⟩)

end Call

section Cache

variable {e} {h : List EngineEvent} {completed completed' : Completed}

theorem Completed.Stored.older {x : EngineEvent} (stored : completed.Stored h) : completed.Stored (x :: h) := by
  intro entry mem
  obtain ⟨event, older, stores⟩ := stored entry mem
  exact ⟨event, List.mem_cons_of_mem _ older, stores⟩

theorem Completed.Stored.touch (stored : completed.Stored h) (messageId fingerprint : String) :
    (completed.touch messageId fingerprint).Stored h := by
  unfold Completed.touch
  split
  next entry found =>
    split
    · intro other mem
      rcases List.mem_append.1 mem with old | last
      · exact stored other (List.mem_of_mem_filter old)
      · rw [List.mem_singleton.1 last]
        exact stored _ (Dict.mem_of_lookup found)
    · exact stored
  next => exact stored

theorem Completed.Stored.store {messageId fingerprint : String} {result : Option ExecutionReport}
    (stored : completed.Stored h) {x : EngineEvent} (stores : x.call = .complete messageId fingerprint result) :
    (completed.store e messageId fingerprint result).Stored (x :: h) := by
  have all : Completed.Stored (x :: h) (completed.set messageId (fingerprint, result)) := by
    intro entry mem
    rcases Dict.mem_set mem with rfl | old
    · exact ⟨x, List.mem_cons_self, stores⟩
    · exact stored.older entry old
  unfold Completed.store
  dsimp only
  split
  · exact fun entry mem => all entry (List.mem_of_mem_tail mem)
  · exact all

theorem Completed.stored_step (stored : completed.Stored h) {x : EngineEvent}
    (step : Completed.step e completed x completed') : completed'.Stored (x :: h) := by
  obtain ⟨call, o⟩ := x
  cases call with
  | read messageId fingerprint =>
    rcases o with _ | error | reading
    · rw [show completed' = completed from step]
      exact stored.older
    · rw [show completed' = completed from step]
      exact stored.older
    · rw [step.2]
      exact (stored.touch messageId fingerprint).older
  | complete messageId fingerprint result =>
    rcases o with _ | error | answer
    · rcases step with rfl | rfl
      · exact stored.older
      · exact stored.store rfl
    · rw [show completed' = completed from step]
      exact stored.older
    · rw [show completed' = completed.store e messageId fingerprint result from step]
      exact stored.store rfl
  | venue c =>
    rcases o with _ | error | answer <;>
    · rw [show completed' = completed from step]
      exact stored.older

end Cache

section Session

variable {e} {orders : ℕ → ValidatedOrder} {h : List (ℕ × EngineEvent)}
  {returned : ℕ → Option (Except Err (Option ExecutionReport))}

/-- A result that is cached was stored by the call of an order of the same identity and payload. -/
theorem HandlingSession.stored (session : HandlingSession e orders h returned) {n : ℕ} {reading : Reading}
    {result : Option ExecutionReport} (alone : ownEvents n h = readAlone e (orders n) reading)
    (cached : reading.completed = some (fingerprint e (orders n), result)) :
    ∃ m own, (orders m).messageId = (orders n).messageId ∧
      fingerprint e (orders m) = fingerprint e (orders n) ∧ own <:+ ownEvents m h ∧
      (Eligible e (orders m) → Concluded e (orders m) own result) := by
  have dutiful (m : ℕ) : Dutiful (handleDuty e (orders m)) (ownEvents m h) :=
    (Meets.sound handle_meets (session.runs m) trivial).1
  obtain ⟨l, k, rfl, _, _⟩ := ownEvents_split (a := []) alone
  obtain ⟨completed, follows⟩ := session.follows
  rw [List.map_append, List.map_cons] at follows
  obtain ⟨before, _, older, step, _⟩ := follows.split rfl
  have stored : before.Stored (k.map Prod.snd) :=
    older.invariant (P := fun h completed => Completed.Stored h completed) (fun _ mem => nomatch mem)
      fun _ _ _ _ _ stored step => Completed.stored_step stored step
  have entry := Dict.mem_of_lookup (step.1.symm.trans cached)
  obtain ⟨event, mem, stores⟩ := stored _ entry
  obtain ⟨⟨m, x⟩, among, rfl⟩ := List.mem_map.1 mem
  obtain ⟨newer, earlier, rfl⟩ := List.append_of_mem among
  have duty := (dutiful m).own (l := l ++ (n, _) :: newer) (by rw [List.append_assoc]; rfl)
  dsimp only at stores
  rw [stores] at duty
  obtain ⟨same, payload, concluded⟩ := duty
  have suffix {y : ℕ × EngineEvent} : earlier <:+ l ++ y :: (newer ++ (m, x) :: earlier) :=
    ⟨l ++ y :: newer ++ [(m, x)], by simp⟩
  exact ⟨m, ownEvents m earlier, same.symm, payload.symm, (suffix.filter _).map _, concluded⟩

/-- For every adapter and every interleaving of the orders that one engine handles: an order is placed
only right after the engine was read, without recovery blockers and not in `LOCAL_QUANT_MODE`; and
a call that returns has a result that some call of the same order, itself or an earlier one, has
concluded: with a report, which is safe then, or with none, in `LOCAL_QUANT_MODE` and without a call
of the venue. In every other case it raises. -/
theorem handle_safe (session : HandlingSession e orders h returned) (n : ℕ) :
    (∀ intent o, (n, ⟨.venue (.placeOrder intent), o⟩) ∈ h → ∃ later reading,
      ownEvents n h = later ++ ⟨.venue (.placeOrder intent), o⟩ :: readAlone e (orders n) reading ∧
        reading.blockers = [] ∧ reading.mode ≠ .LOCAL_QUANT_MODE) ∧
    ∀ result, returned n = some (.ok result) → ∃ m own,
      (orders m).messageId = (orders n).messageId ∧
      fingerprint e (orders m) = fingerprint e (orders n) ∧ own <:+ ownEvents m h ∧
      (m = n ∨ ∃ reading, ownEvents n h = readAlone e (orders n) reading) ∧
      (Eligible e (orders m) → Concluded e (orders m) own result) := by
  have dutiful (m : ℕ) : Dutiful (handleDuty e (orders m)) (ownEvents m h) :=
    (Meets.sound handle_meets (session.runs m) trivial).1
  constructor
  · intro intent o mem
    obtain ⟨later, own, eq⟩ := List.append_of_mem (mem_ownEvents.2 mem)
    obtain ⟨reading, alone, blockers, mode⟩ := (dutiful n).at eq
    exact ⟨later, reading, by rw [eq, alone]; rfl, blockers, mode⟩
  · intro result ended
    have runs := session.runs n
    rw [ended] at runs
    rcases handle_meets.returns runs with ⟨reading, alone, cached⟩ | ⟨own, eq, concluded⟩
    · obtain ⟨m, own, same, payload, suffix, concluded⟩ := session.stored alone cached
      exact ⟨m, own, same, payload, suffix, .inr ⟨reading, alone⟩, concluded⟩
    · exact ⟨n, own, rfl, rfl, eq ▸ List.suffix_cons _ _, .inl rfl, concluded⟩

end Session

section Sample

/-- An engine that answers for its cache, in a mode and without blockers, and a venue that answers as it
is given. -/
def Completed.keeper (mode : SystemMode) (venue : (c : VenueCall) → Except Err c.Answer) :
    Handler engine Err Completed
  | completed, .read messageId stored =>
    (.ok ⟨completed.lookup messageId, mode, []⟩, completed.touch messageId stored)
  | completed, .complete messageId stored result => (.ok (), completed.store e messageId stored result)
  | completed, .venue c => (venue c, completed)

theorem Completed.keeper_law (mode : SystemMode) (venue : (c : VenueCall) → Except Err c.Answer)
    (completed : Completed) (c : EngineCall) :
    Completed.step e completed ⟨c, some (Completed.keeper e mode venue completed c).1⟩
      (Completed.keeper e mode venue completed c).2 := by
  cases c with
  | read messageId stored => exact ⟨rfl, rfl⟩
  | complete messageId stored result => rfl
  | venue c =>
    simp only [Completed.keeper]
    cases venue c <;> rfl

def sampleSettings : EngineSettings where
  adapter :=
    { name := "fake", exchangeOrderIdMatchesClientOrderId := false, protectiveStopLookupAuthoritative := false }
  defaultTrailPct := 1 / 100
  trailPositive := by decide +kernel
  trailBelowOne := by decide +kernel
  allowedSymbols := ["BTCUSDT"]
  idempotencyCacheSize := 1
  cachePositive := le_refl 1
  upper := id
  casefold := id
  repr := fun _ => ""
  sha256 := fun _ => "44136fa355b3678a1146ad16f7e8649e94fb4fc21fe77e8310c060f61caaff8a"
  dumpJson := fun _ => "{}"
  rounded := some

def sampleOrder : ValidatedOrder where
  messageId := "m-1"
  approved := true
  reasonCode := .ENTER_LONG_TREND
  intent :=
    { clientOrderId := some "entry-1", symbol := "BTCUSDT", side := .BUY, quantity := 1, price := none,
      stopPrice := none, leverage := 1 }
  producedAt := 0

/-- The entry is filled, and its stop acknowledged. -/
def fillingVenue : (c : VenueCall) → Except Err c.Answer
  | .placeOrder intent => .ok {
      source := "venue"
      clientOrderId := .str "entry-1"
      exchangeOrderId := .str "77"
      exchange := .str "fake"
      symbol := .str "BTCUSDT"
      side := .str "BUY"
      status := .known .FILLED
      requestedQty := .float intent.quantity
      filledQty := .float intent.quantity
      remainingQty := .float 0
      avgPrice := .float 100
      feesUsd := .float 0
      message := "" }
  | .setProtectiveStop .. => .ok ⟨"stop-1", by decide⟩
  | _ => .error (.raised "RuntimeError" "")

/-- The order is handled twice; the second call returns the report of the first. -/
def sampleSession : Completed × List (ℕ × EngineEvent) :=
  inTurn (Completed.keeper sampleSettings .NORMAL fillingVenue)
    (fun _ => handle sampleSettings sampleOrder) 2 []

def sampleReturned : ℕ → Option (Except Err (Option ExecutionReport)) :=
  inTurnReturned (Completed.keeper sampleSettings .NORMAL fillingVenue)
    (fun _ => handle sampleSettings sampleOrder) 2 []

/-- A call returned a report. -/
def reports (returned : Option (Except Err (Option ExecutionReport))) : Bool :=
  match returned with
  | some (.ok (some _)) => true
  | _ => false

theorem sampleSession_handling :
    HandlingSession sampleSettings (fun _ => sampleOrder) sampleSession.2 sampleReturned where
  runs n := inTurn_runs (Completed.keeper sampleSettings .NORMAL fillingVenue)
    (fun _ => handle sampleSettings sampleOrder) 2 n []
  follows := ⟨sampleSession.1, Follows.inTurn id (Completed.keeper_law sampleSettings .NORMAL fillingVenue) 2 []⟩

theorem handle_safe_sample :
    ∃ m own, own <:+ ownEvents m sampleSession.2 ∧ SafeReturn sampleSettings sampleOrder own := by
  have answered : reports (sampleReturned 1) = true := by decide +kernel
  unfold reports at answered
  split at answered
  next report returned =>
    obtain ⟨m, own, _, _, suffix, _, concluded⟩ := (handle_safe sampleSession_handling 1).2 (some report) returned
    exact ⟨m, own, suffix, concluded ⟨rfl, by decide, rfl⟩⟩
  next => cases answered

/-- In `LOCAL_QUANT_MODE` an entry is neither reported nor refused with an exception. -/
theorem local_quant_mode_returns_none :
    ¬∀ (e : EngineSettings) (order : ValidatedOrder) (t : History engine Err)
      (r : Except Err (Option ExecutionReport)), Eligible e order → Runs (handle e order) [] t (some r) →
        (∃ report, r = .ok (some report)) ∨ ∃ error, r = .error error := by
  intro ends
  have run := execute_runs (Completed.keeper sampleSettings .LOCAL_QUANT_MODE fillingVenue)
    (handle sampleSettings sampleOrder) [] []
  rcases ends sampleSettings sampleOrder _ _ ⟨rfl, by decide, rfl⟩ run with
    ⟨report, none⟩ | ⟨error, none⟩
  · cases none
  · cases none

end Sample

end KairosExecution.Venue
