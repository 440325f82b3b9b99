import KairosExecution.Production.Service

/-! Admission to the service driver is one-way, as long as `start` resumes from
its recovery in time. The gate is what a schedule leaves of the driver for this
question: its flags, whether each task exists and runs, the identities that wait
for the coordinator, and the history. Every segment other than a resumption of
`start` is a few steps of the gate, and each of these keeps the gate one-way.
`start` assigns its flags after the await, so it can reopen an admission that was
closed in between, and it creates its tasks even when `close` has returned. -/

namespace KairosExecution.Production.Service

section Gate

/-- The flags, tasks and identities that decide admission. -/
structure Gate where
  started : Bool
  closing : Bool
  blocked : Bool
  starting : Bool
  created : Bool
  workerRunning : Bool
  lifecycleRunning : Bool
  closers : ℕ
  seen : List String
  /-- the identities queued or taken that have not reached the coordinator -/
  pending : List String
  history : List Event

/-- What an event forbids later: after admission has closed no entry begins, an
identity enters once, and after `close` has returned no task is created. -/
def Event.Allows : Event → Event → Prop
  | .closed, .entered _ => False
  | .closed, .handled _ => False
  | .entered envelopeId, .entered other => envelopeId ≠ other
  | .returned, .created => False
  | _, _ => True

namespace Gate

/-- Admission that has closed is closed, no task outlives `close`, and no event
of the history forbids a later one. -/
structure OneWay (gate : Gate) : Prop where
  latched : .closed ∈ gate.history → gate.blocked = true
  stopped : .returned ∈ gate.history →
    gate.workerRunning = false ∧ gate.lifecycleRunning = false
  ordered : gate.history.Pairwise Event.Allows

def shut (gate : Gate) : Gate :=
  { gate with blocked := true, history := gate.history ++ [.closed] }

/-- `close` up to its wait for the tasks. -/
def close (gate : Gate) : Gate := { gate.shut with closing := true }

/-- The end of `close`. -/
def finish (gate : Gate) : Gate :=
  { gate with started := false, pending := [], history := gate.history ++ [.returned] }

/-- `start` resumed: both tasks are created, and admission is open or closed. -/
def resume (opens : Bool) (gate : Gate) : Gate :=
  { gate with
    starting := false
    created := true
    workerRunning := true
    lifecycleRunning := true
    blocked := !opens
    history := gate.history ++ (if opens then [] else [.closed]) ++ [.created] }

/-- Every change of the gate other than a resumption of `start`. -/
inductive Step (gate : Gate) : Gate → Prop
  | shut : Step gate gate.shut
  | fence {envelopeId : String} (new : envelopeId ∉ gate.seen) :
      Step gate { gate with seen := envelopeId :: gate.seen }
  | submit {envelopeId : String} (new : envelopeId ∉ gate.seen) :
      Step gate { gate with
        seen := envelopeId :: gate.seen
        pending := gate.pending ++ [envelopeId] }
  | drop {rest : List String} (part : rest.Sublist gate.pending) :
      Step gate { gate with pending := rest }
  | enter {envelopeId : String} {rest : List String} (head : gate.pending = envelopeId :: rest)
      (isOpen : gate.blocked = false) :
      Step gate { gate with pending := rest, history := gate.history ++ [.entered envelopeId] }
  | handle {envelopeId : String} (isOpen : gate.blocked = false) :
      Step gate { gate with history := gate.history ++ [.handled envelopeId] }
  | start (idle : gate.started = false) (living : gate.closing = false) :
      Step gate { gate with started := true, starting := true }
  | abandon (suspended : gate.starting = true) :
      Step gate { gate.shut with starting := false, started := false, closing := true }
  | endWorker : Step gate { gate with workerRunning := false }
  | endLifecycle : Step gate { gate with lifecycleRunning := false }
  | close (tasks : gate.created = true) :
      Step gate { gate.close with closers := gate.closers + 1 }
  | closeAtOnce (none : gate.created = false) : Step gate gate.close.finish
  | leave (waiting : 0 < gate.closers) : Step gate { gate with closers := gate.closers - 1 }
  | finish (waiting : 0 < gate.closers) (worker : gate.workerRunning = false)
      (lifecycle : gate.lifecycleRunning = false) :
      Step gate { gate.finish with closers := gate.closers - 1 }

/-- What holds of every gate a schedule reaches. -/
structure Orderly (gate : Gate) : Prop where
  idle : gate.started = false → gate.closing = false →
    gate.starting = false ∧ gate.created = false
  suspended : gate.starting = true → gate.created = false
  early : gate.starting = true → gate.closing = true → .returned ∈ gate.history
  tasks : gate.workerRunning = true ∨ gate.lifecycleRunning = true → gate.created = true
  waited : 0 < gate.closers → gate.closing = true
  finished : .returned ∈ gate.history → gate.closing = true
  distinct : gate.pending.Nodup
  fenced : ∀ envelopeId ∈ gate.pending,
    envelopeId ∈ gate.seen ∧ .entered envelopeId ∉ gate.history
  known : ∀ envelopeId, .entered envelopeId ∈ gate.history → envelopeId ∈ gate.seen

/-- A change of the queue and the history, under the flags as they are. -/
theorem Orderly.queue {gate : Gate} (orderly : gate.Orderly) {blocked : Bool}
    {seen pending : List String} {event : Event} (later : event ≠ .returned)
    (distinct : pending.Nodup)
    (fenced : ∀ envelopeId ∈ pending,
      envelopeId ∈ seen ∧ .entered envelopeId ∉ gate.history ++ [event])
    (known : ∀ envelopeId, .entered envelopeId ∈ gate.history ++ [event] → envelopeId ∈ seen) :
    { gate with
      blocked := blocked
      seen := seen
      pending := pending
      history := gate.history ++ [event] }.Orderly := by
  refine ⟨orderly.idle, orderly.suspended, ?_, orderly.tasks, orderly.waited, ?_, distinct, fenced, known⟩
  · exact fun starting closing => List.mem_append_left _ (orderly.early starting closing)
  · intro left
    rcases List.mem_append.1 left with before | last
    · exact orderly.finished before
    · exact absurd (List.mem_singleton.1 last).symm later

/-- An event that neither enters nor returns leaves the queue. -/
theorem Orderly.note {gate : Gate} (orderly : gate.Orderly) (blocked : Bool) {event : Event}
    (later : event ≠ .returned) (other : ∀ envelopeId, event ≠ .entered envelopeId) :
    { gate with blocked := blocked, history := gate.history ++ [event] }.Orderly := by
  have before : ∀ envelopeId, .entered envelopeId ∈ gate.history ++ [event] →
      .entered envelopeId ∈ gate.history := by
    intro envelopeId entered
    rcases List.mem_append.1 entered with before | last
    · exact before
    · exact absurd (List.mem_singleton.1 last).symm (other envelopeId)
  apply orderly.queue later orderly.distinct
  · intro envelopeId mem
    exact ⟨(orderly.fenced _ mem).1, fun entered => (orderly.fenced _ mem).2 (before _ entered)⟩
  · exact fun envelopeId entered => orderly.known _ (before _ entered)

theorem Orderly.shut {gate : Gate} (orderly : gate.Orderly) : gate.shut.Orderly :=
  orderly.note true (by simp) (by simp)

/-- The end of `close`, which has begun before. -/
theorem Orderly.finish {gate : Gate} (orderly : gate.Orderly) {closing : Bool} {closers : ℕ}
    (closed : closing = true) : { gate.finish with closing := closing, closers := closers }.Orderly where
  idle := fun _ living => absurd (closed.symm.trans living) (by decide)
  suspended := orderly.suspended
  early := fun _ _ => List.mem_append_right _ (List.mem_singleton_self _)
  tasks := orderly.tasks
  waited := fun _ => closed
  finished := fun _ => closed
  distinct := List.nodup_nil
  fenced := fun _ mem => nomatch mem
  known := by simpa [Gate.finish] using orderly.known

theorem Orderly.submit {gate : Gate} (orderly : gate.Orderly) {envelopeId : String}
    (new : envelopeId ∉ gate.seen) : { gate with
      seen := envelopeId :: gate.seen
      pending := gate.pending ++ [envelopeId] }.Orderly := by
  have outside : envelopeId ∉ gate.pending := fun queued => new (orderly.fenced _ queued).1
  refine { orderly with distinct := ?_, fenced := ?_, known := ?_ }
  · exact orderly.distinct.append (List.nodup_singleton _) (by simpa using outside)
  · intro other mem
    rcases List.mem_append.1 mem with queued | last
    · exact ⟨List.mem_cons_of_mem _ (orderly.fenced _ queued).1, (orderly.fenced _ queued).2⟩
    · rw [List.mem_singleton.1 last]
      exact ⟨List.mem_cons_self, fun entered => new (orderly.known _ entered)⟩
  · exact fun other entered => List.mem_cons_of_mem _ (orderly.known _ entered)

theorem Orderly.enter {gate : Gate} (orderly : gate.Orderly) {envelopeId : String}
    {rest : List String} (head : gate.pending = envelopeId :: rest) :
    { gate with pending := rest, history := gate.history ++ [Event.entered envelopeId] }.Orderly := by
  have distinct := orderly.distinct
  have fenced := orderly.fenced
  have known := orderly.known
  rw [head] at distinct fenced
  apply orderly.queue (by simp) <;> grind

theorem Orderly.step {gate next : Gate} (orderly : gate.Orderly) (stepped : gate.Step next) :
    next.Orderly := by
  cases stepped with
  | submit new => exact orderly.submit new
  | enter head _ => exact orderly.enter head
  | handle _ => exact orderly.note gate.blocked (by simp) (by simp)
  | fence new =>
    exact { orderly with
      fenced := fun envelopeId mem => ⟨List.mem_cons_of_mem _ (orderly.fenced _ mem).1,
        (orderly.fenced _ mem).2⟩
      known := fun envelopeId mem => List.mem_cons_of_mem _ (orderly.known _ mem) }
  | drop part =>
    exact { orderly with
      distinct := orderly.distinct.sublist part
      fenced := fun envelopeId mem => orderly.fenced _ (part.subset mem) }
  | endWorker =>
    exact { orderly with tasks := fun running => orderly.tasks (.inr (by simpa using running)) }
  | endLifecycle =>
    exact { orderly with tasks := fun running => orderly.tasks (.inl (by simpa using running)) }
  | leave waiting =>
    exact { orderly with waited := fun left => orderly.waited (by dsimp only at left; omega) }
  | shut => exact orderly.shut
  | start idle living =>
    exact { orderly with
      idle := fun stopped => nomatch stopped
      suspended := fun _ => (orderly.idle idle living).2
      early := fun _ closing => absurd (living.symm.trans closing) (by decide) }
  | abandon _ =>
    exact { orderly.shut with
      idle := fun _ living => nomatch living
      suspended := fun starting => nomatch starting
      early := fun starting => nomatch starting
      waited := fun _ => rfl
      finished := fun _ => rfl }
  | close tasks =>
    -- once `start` has created the tasks it is not suspended
    refine { orderly.shut with
      idle := fun _ living => nomatch living
      early := fun starting _ => ?_
      waited := fun _ => rfl
      finished := fun _ => rfl }
    exact absurd ((orderly.suspended starting).symm.trans tasks) (by decide)
  | closeAtOnce none => exact orderly.shut.finish rfl
  | finish waiting _ _ => exact orderly.finish (orderly.waited waiting)

theorem Orderly.resume {gate : Gate} (orderly : gate.Orderly) (started : gate.starting = true)
    (opens : Bool) : (gate.resume opens).Orderly := by
  have noted : { gate with
      blocked := !opens
      history := gate.history ++ if opens then [] else [Event.closed] }.Orderly := by
    cases opens with
    | true =>
      simp only [if_true, List.append_nil]
      exact { orderly with }
    | false => exact orderly.shut
  have created := noted.note (!opens) (by simp : Event.created ≠ .returned) (by simp)
  refine { created with
    idle := fun stopped living => ?_
    suspended := fun starting => nomatch starting
    early := fun starting => nomatch starting
    tasks := fun _ => rfl }
  exact absurd ((orderly.idle stopped living).1.symm.trans started) (by decide)

/-- An event that no earlier one forbids keeps the history in order. -/
theorem ordered_snoc {history : List Event} (ordered : history.Pairwise Event.Allows) {event : Event}
    (allowed : ∀ earlier ∈ history, earlier.Allows event) :
    (history ++ [event]).Pairwise Event.Allows := by
  simpa [List.pairwise_append, ordered] using allowed

theorem allows_closed (event : Event) : event.Allows .closed := by cases event <;> trivial

theorem allows_returned (event : Event) : event.Allows .returned := by cases event <;> trivial

theorem OneWay.shut {gate : Gate} (oneWay : gate.OneWay) : gate.shut.OneWay where
  latched := fun _ => rfl
  stopped := by simpa [Gate.shut] using oneWay.stopped
  ordered := ordered_snoc oneWay.ordered fun event _ => allows_closed event

theorem OneWay.finish {gate : Gate} (oneWay : gate.OneWay) (worker : gate.workerRunning = false)
    (lifecycle : gate.lifecycleRunning = false) : gate.finish.OneWay where
  latched := by simpa [Gate.finish] using oneWay.latched
  stopped := fun _ => ⟨worker, lifecycle⟩
  ordered := ordered_snoc oneWay.ordered fun event _ => allows_returned event

/-- While admission is open it has never closed, so an entry may go on. -/
theorem OneWay.open_ {gate : Gate} (oneWay : gate.OneWay) (isOpen : gate.blocked = false) :
    .closed ∉ gate.history := by
  intro closed
  simp [oneWay.latched closed] at isOpen

theorem OneWay.step {gate next : Gate} (oneWay : gate.OneWay) (orderly : gate.Orderly)
    (stepped : gate.Step next) : next.OneWay := by
  cases stepped with
  | shut => exact oneWay.shut
  | fence new | submit new | drop part | start idle living | leave waiting =>
    exact ⟨oneWay.latched, oneWay.stopped, oneWay.ordered⟩
  | @enter envelopeId rest head isOpen =>
    have never := oneWay.open_ isOpen
    have fresh := (orderly.fenced envelopeId (by simp [head])).2
    refine ⟨by simpa using oneWay.latched, by simpa using oneWay.stopped,
      ordered_snoc oneWay.ordered fun earlier before => ?_⟩
    cases earlier <;> grind [Event.Allows]
  | @handle envelopeId isOpen =>
    have never := oneWay.open_ isOpen
    refine ⟨by simpa using oneWay.latched, by simpa using oneWay.stopped,
      ordered_snoc oneWay.ordered fun earlier before => ?_⟩
    cases earlier <;> grind [Event.Allows]
  | abandon suspended =>
    exact ⟨oneWay.shut.latched, oneWay.shut.stopped, oneWay.shut.ordered⟩
  | endWorker => exact ⟨oneWay.latched, fun left => ⟨rfl, (oneWay.stopped left).2⟩, oneWay.ordered⟩
  | endLifecycle =>
    exact ⟨oneWay.latched, fun left => ⟨(oneWay.stopped left).1, rfl⟩, oneWay.ordered⟩
  | close tasks => exact ⟨oneWay.shut.latched, oneWay.shut.stopped, oneWay.shut.ordered⟩
  | closeAtOnce none =>
    have idle : gate.workerRunning = false ∧ gate.lifecycleRunning = false := by
      have := orderly.tasks
      grind
    have finished := oneWay.shut.finish idle.1 idle.2
    exact ⟨finished.latched, finished.stopped, finished.ordered⟩
  | finish waiting worker lifecycle =>
    have finished := oneWay.finish worker lifecycle
    exact ⟨finished.latched, finished.stopped, finished.ordered⟩

/-- `start` resumes before `close` is called, and where it opens admission,
before anything has closed it. -/
def InTime (opens : Bool) (gate : Gate) : Prop :=
  gate.closing = false ∧ (opens = true → .closed ∉ gate.history)

theorem OneWay.resume {gate : Gate} {opens : Bool} (oneWay : gate.OneWay) (orderly : gate.Orderly)
    (inTime : gate.InTime opens) : (gate.resume opens).OneWay := by
  have living : .returned ∉ gate.history := fun left => by
    have closing := orderly.finished left
    simp [inTime.1] at closing
  have ordered : (gate.history ++ if opens then [] else [Event.closed]).Pairwise Event.Allows := by
    cases opens with
    | true => simpa using oneWay.ordered
    | false => exact ordered_snoc oneWay.ordered fun event _ => allows_closed event
  refine ⟨?_, ?_, ordered_snoc ordered fun earlier before => ?_⟩
  · cases opens <;> simp [Gate.resume, inTime.2]
  · cases opens <;> simp [Gate.resume, living]
  · cases earlier <;> cases opens <;> simp_all [Event.Allows]

/-- A resumption out of time undoes what the gate was to keep. -/
theorem OneWay.of_resume {gate : Gate} {opens : Bool} (oneWay : (gate.resume opens).OneWay)
    (orderly : gate.Orderly) (suspended : gate.starting = true) :
    gate.InTime opens := by
  constructor
  · by_contra closing
    have left := orderly.early suspended (by simpa using closing)
    have stopped := oneWay.stopped (by simp [Gate.resume, left])
    simp [Gate.resume] at stopped
  · intro reopened closed
    have latched := oneWay.latched (by simp [Gate.resume, closed])
    simp [Gate.resume, reopened] at latched

end Gate

end Gate

/-- Any number of gate steps. -/
abbrev Gate.Steps : Gate → Gate → Prop := Relation.ReflTransGen Gate.Step

/-- The identity a worker has taken and not yet handed to the coordinator. -/
def WorkerPoint.taken : WorkerPoint → List String
  | .locking item => [item.envelopeId]
  | _ => []

def takenBy : Task WorkerPoint → List String
  | .running point => point.taken
  | _ => []

/-- The gate of a driver. -/
def ProductionServiceDriver.gate (driver : ProductionServiceDriver) : Gate where
  started := driver.started
  closing := driver.closing
  blocked := driver.entriesBlocked
  starting := driver.starting.isSome
  created := driver.workerTask.exists || driver.lifecycleTask.exists
  workerRunning := driver.workerTask.isRunning
  lifecycleRunning := driver.lifecycleTask.isRunning
  closers := driver.closers
  seen := driver.seenEnvelopeIds
  pending := takenBy driver.workerTask ++ driver.queue.map (·.envelopeId)
  history := driver.history

namespace ProductionServiceDriver

variable {driver : ProductionServiceDriver}

@[simp] theorem gate_unknown (reason : String) (driver : ProductionServiceDriver) :
    (driver.unknown reason).gate = driver.gate.shut := rfl

@[simp] theorem gate_blockEntries (driver : ProductionServiceDriver) :
    driver.blockEntries.gate = driver.gate.shut := rfl

@[simp] theorem gate_release (party : Party) (driver : ProductionServiceDriver) :
    (driver.release party).gate = driver.gate := rfl

@[simp] theorem gate_settle (outcome : EntryOutcome) (envelopeId : String)
    (driver : ProductionServiceDriver) :
    (driver.settle outcome envelopeId).gate = driver.gate := by
  unfold settle
  split <;> rfl

@[simp] theorem settle_workerTask (outcome : EntryOutcome) (envelopeId : String)
    (driver : ProductionServiceDriver) :
    (driver.settle outcome envelopeId).workerTask = driver.workerTask := by
  unfold settle
  split <;> rfl

/-- The interlock only lets an entry go on while admission is open. -/
theorem open_of_interlock {envelopeId : String} (go : driver.entryInterlock envelopeId = true) :
    driver.gate.blocked = false := by
  simp only [entryInterlock, Bool.and_eq_true, Bool.not_eq_true'] at go
  exact go.2

theorem blockNewEntries_gate (reason : String) (driver : ProductionServiceDriver) :
    driver.gate.Steps (driver.blockNewEntries reason).2.gate := by
  unfold blockNewEntries
  split
  · exact .single .shut
  · exact .refl

theorem checkHealth_gate (driver : ProductionServiceDriver) :
    driver.gate.Steps driver.checkHealth.2.gate := by
  simp only [checkHealth]
  split
  · exact .single .shut
  · exact .refl

theorem start_gate (driver : ProductionServiceDriver) :
    driver.gate.Steps driver.start.2.gate := by
  unfold start
  split
  · exact .refl
  · next idle =>
    simp only [Bool.or_eq_true, not_or, Bool.not_eq_true] at idle
    exact .single (.start idle.1 idle.2)

theorem submit_gate (settings : DriverSettings) (envelope : ProductionEntryEnvelope)
    (driver : ProductionServiceDriver) :
    driver.gate.Steps (driver.submit settings envelope).2.gate := by
  unfold submit
  split_ifs with closed seen full queued
  · exact .refl
  · exact .refl
  · exact .single .shut
  · exact .single (.fence seen)
  · have pushed : driver.gate.Step _ := .submit seen
    simpa [gate] using Relation.ReflTransGen.single pushed

theorem submitResumes_gate (waited : Waited) (envelopeId : String)
    (driver : ProductionServiceDriver) :
    driver.gate.Steps (driver.submitResumes waited envelopeId).gate := by
  cases waited with
  | answered => exact .refl
  | timedOut | cancelled =>
    simp only [submitResumes, gate_unknown, gate_settle]
    exact .single .shut

theorem maintained_gate (maintenance : Maintenance) (outcome : Maintained)
    (driver : ProductionServiceDriver) :
    driver.gate.Steps (driver.maintained maintenance outcome).gate := by
  unfold maintained
  split
  all_goals first | exact .refl | exact .single .shut

section Worker

/-- Dropping what the worker had taken. -/
theorem pending_sublist (driver : ProductionServiceDriver) :
    (driver.queue.map (·.envelopeId)).Sublist driver.gate.pending :=
  List.sublist_append_right _ _

variable {driver : ProductionServiceDriver} {point : WorkerPoint}

theorem workerWaits_gate (running : driver.workerTask = .running point) :
    driver.gate.Steps driver.workerWaits.gate := by
  have dropped := Gate.Step.drop (pending_sublist driver)
  simpa [gate, workerWaits, release, running, Task.exists, Task.isRunning, takenBy,
    WorkerPoint.taken] using Relation.ReflTransGen.single dropped

theorem workerUnresolved_gate (running : driver.workerTask = .running point) (envelopeId : String) :
    driver.gate.Steps (driver.workerUnresolved envelopeId).gate := by
  have shut : driver.gate.Steps driver.gate.shut := .single .shut
  refine shut.trans ?_
  rw [← gate_unknown "ENTRY_PROCESSING_UNRESOLVED", ← gate_settle
    (.error "entry outcome unresolved; recovery required") envelopeId]
  exact workerWaits_gate ((settle_workerTask _ _ _).trans running)

theorem workerAnswers_gate (running : driver.workerTask = .running point) (outcome : EntryOutcome)
    (envelopeId : String) : driver.gate.Steps (driver.workerAnswers outcome envelopeId).gate := by
  rw [← gate_settle outcome envelopeId]
  exact workerWaits_gate (by simpa using running)

/-- A worker that ends drops what it had taken. -/
theorem workerEnds_gate (running : driver.workerTask = .running point) :
    driver.gate.Steps { driver with workerTask := .ended : ProductionServiceDriver }.gate := by
  have dropped := Gate.Step.drop (pending_sublist driver)
  have ended : Gate.Step { driver.gate with pending := driver.queue.map (·.envelopeId) } _ :=
    .endWorker
  simpa [gate, running, Task.exists, Task.isRunning, takenBy] using
    (Relation.ReflTransGen.single dropped).tail ended

theorem workerCancelled_gate (running : driver.workerTask = .running point)
    (item : ProductionEntryEnvelope) : driver.gate.Steps (driver.workerCancelled item).gate := by
  have shut : driver.gate.Steps driver.gate.shut := .single .shut
  refine shut.trans ?_
  rw [← gate_unknown "ENTRY_WORKER_CANCELLED", ← gate_settle
    (.error "entry outcome unknown; recovery required") item.envelopeId]
  exact workerEnds_gate ((settle_workerTask _ _ _).trans running)

theorem admitted_gate (settings : DriverSettings) (recoveryBlocked : Bool)
    (answer : AdmissionAnswer) (envelopeId : String) (driver : ProductionServiceDriver) :
    driver.gate.Steps (driver.admitted settings recoveryBlocked answer envelopeId).2.gate := by
  unfold admitted
  split_ifs
  · exact .refl
  · exact .single .shut
  · exact .single .shut
  · cases answer with
    | raised | awaitable | exactlyTrue => exact .refl
    | somethingElse => exact .single .shut

theorem admitted_workerTask (settings : DriverSettings) (recoveryBlocked : Bool)
    (answer : AdmissionAnswer) (envelopeId : String) (driver : ProductionServiceDriver) :
    (driver.admitted settings recoveryBlocked answer envelopeId).2.workerTask =
      driver.workerTask := by
  unfold admitted
  split_ifs
  all_goals first | rfl | cases answer <;> rfl

/-- An admitted entry leaves the driver as it was, with admission open. -/
theorem admitted_ok {settings : DriverSettings} {recoveryBlocked : Bool}
    {answer : AdmissionAnswer} {envelopeId : String} {asked : ProductionServiceDriver}
    (admits : driver.admitted settings recoveryBlocked answer envelopeId = (.ok true, asked)) :
    asked = driver ∧ driver.gate.blocked = false := by
  unfold admitted at admits
  split_ifs at admits with blocked
  all_goals simp_all [gate]
  cases answer <;> simp_all

theorem workerTakes_gate {item : ProductionEntryEnvelope} {rest : List ProductionEntryEnvelope}
    (waiting : driver.workerTask = .running .waiting) (queued : driver.queue = item :: rest) :
    driver.gate.Steps (driver.workerTakes item rest).gate := by
  unfold workerTakes
  split
  · have dropped : (rest.map (·.envelopeId)).Sublist driver.gate.pending := by
      simp [gate, waiting, queued, takenBy, WorkerPoint.taken]
    simpa [gate, waiting, takenBy, WorkerPoint.taken] using
      Relation.ReflTransGen.single (Gate.Step.drop dropped)
  · have same : driver.gate = { driver with
        queue := rest, workerTask := .running (.locking item) : ProductionServiceDriver }.gate := by
      simp [gate, waiting, queued, takenBy, WorkerPoint.taken, Task.exists, Task.isRunning]
    exact same ▸ .refl

theorem coordinatorBegins_gate {item : ProductionEntryEnvelope}
    (locking : driver.workerTask = .running (.locking item)) (isOpen : driver.gate.blocked = false)
    (reading : EntryReading) : driver.gate.Steps (driver.coordinatorBegins reading item).gate := by
  have entered : driver.gate.Step { driver with
      workerTask := .running (.staging item)
      history := driver.history ++ [.entered item.envelopeId] : ProductionServiceDriver }.gate := by
    have head : driver.gate.pending = item.envelopeId :: driver.queue.map (·.envelopeId) := by
      simp [gate, locking, takenBy, WorkerPoint.taken]
    simpa [gate, locking, takenBy, WorkerPoint.taken, Task.exists, Task.isRunning] using
      Gate.Step.enter head isOpen
  simp only [coordinatorBegins]
  split
  · exact .single entered
  · exact (Relation.ReflTransGen.single entered).trans (workerUnresolved_gate rfl item.envelopeId)

theorem workerAcquires_gate {item : ProductionEntryEnvelope}
    (locking : driver.workerTask = .running (.locking item)) (settings : DriverSettings)
    (reading : EntryReading) :
    driver.gate.Steps (driver.workerAcquires settings reading item).gate := by
  simp only [workerAcquires]
  set locked := { driver with accountLock := some Party.worker } with taken
  have asking := admitted_gate settings reading.recoveryBlocked reading.admission item.envelopeId
    locked
  have still := admitted_workerTask settings reading.recoveryBlocked reading.admission
    item.envelopeId locked
  generalize answered : locked.admitted settings reading.recoveryBlocked reading.admission
    item.envelopeId = asked at asking still
  have running : asked.2.workerTask = .running (.locking item) := still.trans locking
  obtain ⟨answer, asked⟩ := asked
  have refused := asking.trans (workerUnresolved_gate running item.envelopeId)
  split
  · next same =>
    cases same
    obtain ⟨rfl, isOpen⟩ := admitted_ok answered
    split
    · have held : locked.workerTask = .running (.locking item) := locking
      exact coordinatorBegins_gate held isOpen reading
    · exact refused
  · next same =>
    cases same
    exact refused

theorem workerStaged_gate {item : ProductionEntryEnvelope}
    (staging : driver.workerTask = .running (.staging item)) (settings : DriverSettings)
    (answer : Staged) : driver.gate.Steps (driver.workerStaged settings answer item).gate := by
  unfold workerStaged
  cases answer with
  | staged =>
    dsimp only
    split
    · have same : driver.gate = { driver with
          workerTask := .running (.inspecting item) : ProductionServiceDriver }.gate := by
        simp [gate, staging, takenBy, WorkerPoint.taken, Task.exists, Task.isRunning]
      exact same ▸ .refl
    · exact workerUnresolved_gate staging item.envelopeId
  | refused reviewed =>
    dsimp only
    split
    · exact workerAnswers_gate staging .refusal item.envelopeId
    · exact workerUnresolved_gate staging item.envelopeId

theorem workerInspected_gate {item : ProductionEntryEnvelope}
    (inspecting : driver.workerTask = .running (.inspecting item)) :
    driver.gate.Steps (driver.workerInspected item).gate := by
  unfold workerInspected
  split
  · next go =>
    have handled := @Gate.Step.handle driver.gate item.envelopeId (open_of_interlock go)
    simpa [gate, inspecting, takenBy, WorkerPoint.taken, Task.exists, Task.isRunning] using
      Relation.ReflTransGen.single handled
  · exact workerUnresolved_gate inspecting item.envelopeId

/-- Every segment of the worker is gate steps. -/
theorem workerStep_gate (running : driver.workerTask = .running point) {settings : DriverSettings}
    {segment : Segment} {next : ProductionServiceDriver}
    (stepped : workerStep settings segment point driver = some next) :
    driver.gate.Steps next.gate := by
  unfold workerStep at stepped
  split at stepped
  · split at stepped
    · cases stepped
    · next queued =>
      cases stepped
      exact workerTakes_gate running queued
  · split_ifs at stepped
    cases stepped
    exact workerAcquires_gate running settings _
  · cases stepped
    exact workerStaged_gate running settings _
  · cases stepped
    exact workerInspected_gate running
  · cases stepped
    exact workerAnswers_gate running _ _
  · simp only [Option.map_eq_some_iff] at stepped
    obtain ⟨item, -, rfl⟩ := stepped
    exact workerUnresolved_gate running item.envelopeId
  · split at stepped
    · cases stepped
      exact workerEnds_gate running
    · cases stepped
      exact workerCancelled_gate running _
  · cases stepped

end Worker

section Lifecycle

variable {point : LifecyclePoint} (driver : ProductionServiceDriver)

/-- The gate does not see where a running lifecycle task is suspended. -/
theorem lifecycle_moves (running : driver.lifecycleTask = .running point) (other : LifecyclePoint) :
    { driver with lifecycleTask := .running other : ProductionServiceDriver }.gate = driver.gate := by
  simp [gate, running, Task.exists, Task.isRunning]

theorem lifecycle_ends (running : driver.lifecycleTask = .running point) :
    driver.gate.Step { driver with lifecycleTask := .ended : ProductionServiceDriver }.gate := by
  simpa [gate, running, Task.exists, Task.isRunning] using
    (Gate.Step.endLifecycle : driver.gate.Step _)

theorem lifecycleWakes_gate (running : driver.lifecycleTask = .running point) :
    driver.gate.Steps driver.lifecycleWakes.gate := by
  unfold lifecycleWakes
  split
  · have moved := lifecycle_moves (driver.unknown "MAINTENANCE_UNRESOLVED") running .sleeping
    exact moved ▸ .single .shut
  · exact (lifecycle_moves driver running .locking) ▸ .refl

theorem maintained_lifecycleTask (maintenance : Maintenance) (outcome : Maintained)
    (driver : ProductionServiceDriver) :
    (driver.maintained maintenance outcome).lifecycleTask = driver.lifecycleTask := by
  unfold maintained
  split <;> rfl

theorem lifecycleResumes_gate (running : driver.lifecycleTask = .running point)
    (outcome : Maintained) : driver.gate.Steps (driver.lifecycleResumes outcome).gate := by
  have latched := maintained_gate .once outcome driver
  have still : ((driver.maintained .once outcome).release .lifecycle).lifecycleTask =
    .running point := (maintained_lifecycleTask .once outcome driver).trans running
  cases outcome with
  | answered recoveryBlocked => exact (lifecycle_moves _ still .sleeping) ▸ latched
  | failed =>
    have moved := lifecycle_moves (((driver.maintained .once .failed).release
      .lifecycle).unknown "MAINTENANCE_UNRESOLVED") still .sleeping
    exact moved ▸ latched.tail .shut
  | cancelled => exact latched.tail (lifecycle_ends _ still)

/-- Every segment of the lifecycle task is gate steps. -/
theorem lifecycleStep_gate (running : driver.lifecycleTask = .running point) {segment : Segment}
    {next : ProductionServiceDriver} (stepped : lifecycleStep segment point driver = some next) :
    driver.gate.Steps next.gate := by
  unfold lifecycleStep at stepped
  split at stepped
  · cases stepped
    exact lifecycleWakes_gate driver running
  · cases stepped
    exact lifecycleWakes_gate driver running
  · split_ifs at stepped
    cases stepped
    exact (lifecycle_moves { driver with accountLock := some .lifecycle } running
      .reconciling) ▸ .refl
  all_goals cases stepped
  all_goals first
    | exact lifecycleResumes_gate driver running _
    | exact .single (lifecycle_ends driver running)

end Lifecycle

section Host

variable {driver : ProductionServiceDriver}

/-- The drain of `close` settles futures only. -/
theorem drain_futures (items : List ProductionEntryEnvelope) (driver : ProductionServiceDriver) :
    ∃ futures, items.foldl (fun draining item => draining.settle
      (.error "service stopped before envelope processing") item.envelopeId) driver =
        { driver with futures := futures } := by
  induction items generalizing driver with
  | nil => exact ⟨driver.futures, rfl⟩
  | cons item rest ih =>
    obtain ⟨futures, drained⟩ := ih (driver.settle
      (.error "service stopped before envelope processing") item.envelopeId)
    refine ⟨futures, ?_⟩
    rw [List.foldl_cons, drained]
    unfold settle
    split <;> rfl

theorem closeFinishes_gate (driver : ProductionServiceDriver)
    (idle : takenBy driver.workerTask = []) :
    driver.closeFinishes.gate = driver.gate.finish := by
  obtain ⟨futures, drained⟩ := drain_futures driver.queue driver
  simp [closeFinishes, drained, gate, Gate.finish, idle]

theorem close_gate (driver : ProductionServiceDriver) : driver.gate.Steps driver.close.gate := by
  simp only [close]
  split
  · next tasks => exact .single (.close tasks)
  · next none =>
    simp only [Bool.or_eq_true, not_or, Bool.not_eq_true] at none
    have absent : driver.workerTask = .absent := by
      cases task : driver.workerTask <;> simp [task, Task.exists] at none ⊢
    have idle : takenBy driver.workerTask = [] := by rw [absent]; rfl
    rw [closeFinishes_gate { driver.blockEntries with closing := true } idle]
    exact .single (.closeAtOnce (by simp [gate, none]))

theorem closeResumes_gate {wait : Closed} (waiting : 0 < driver.closers)
    (may : driver.mayEnd wait = true) : driver.gate.Steps (driver.closeResumes wait).gate := by
  have left : driver.gate.Steps { driver with closers := driver.closers - 1 :
      ProductionServiceDriver }.gate := .single (.leave waiting)
  cases wait with
  | done =>
    simp only [mayEnd, Bool.and_eq_true, Bool.not_eq_true'] at may
    have idle : takenBy driver.workerTask = [] := by
      cases task : driver.workerTask <;> simp_all [Task.isRunning, takenBy]
    simp only [closeResumes, closeFinishes_gate { driver with closers := driver.closers - 1 } idle]
    exact .single (.finish waiting may.1 may.2)
  | pending => exact left.tail .shut
  | cancelled => exact left

/-- Every segment of the host's calls is gate steps. -/
theorem hostStep_gate {settings : DriverSettings} {segment : Segment}
    {next : ProductionServiceDriver} (stepped : hostStep settings segment driver = some next) :
    driver.gate.Steps next.gate := by
  unfold hostStep at stepped
  split at stepped
  · cases stepped
    exact blockNewEntries_gate _ driver
  · cases stepped
    exact checkHealth_gate driver
  · cases stepped
    exact start_gate driver
  · cases stepped
    exact submit_gate settings _ driver
  · split at stepped <;> cases stepped
    exact submitResumes_gate _ _ driver
  · cases stepped
    unfold callMaintenance
    split <;> exact .refl
  · split at stepped <;> cases stepped
    exact .refl
  · next maintenance cancelled =>
    split at stepped <;> cases stepped
    exact maintained_gate maintenance _ { driver with callers := driver.callers.erase maintenance }
  · split at stepped <;> cases stepped
    exact maintained_gate _ _ driver
  · cases stepped
    exact close_gate driver
  · split at stepped
    · next allowed =>
      cases stepped
      exact closeResumes_gate allowed.1 allowed.2
    · cases stepped
  · cases stepped

end Host

end ProductionServiceDriver

/-- Where a segment is `start` resuming otherwise than by a cancellation:
whether it opens admission. -/
def Segment.reopening (settings : DriverSettings) : Segment → Option Bool
  | .startResumes (.recovered blockers) => some (blockers.isEmpty && settings.entryAdmission)
  | .startResumes .failed => some false
  | _ => none

section Run

variable {settings : DriverSettings} {segment : Segment} {driver next : ProductionServiceDriver}

theorem startStep_gate {point : StartPoint} (suspended : driver.starting = some point)
    (quiet : segment.reopening settings = none)
    (stepped : startStep settings segment point driver = some next) :
    driver.gate.Steps next.gate := by
  unfold startStep at stepped
  split at stepped
  · split at stepped <;> cases stepped
    have same : driver.gate = { driver with
        accountLock := some .start, starting := some .recovering : ProductionServiceDriver }.gate := by
      simp [ProductionServiceDriver.gate, suspended]
    exact same ▸ .refl
  · cases quiet
  · cases quiet
  · cases stepped
    exact .single (.abandon (by simp [ProductionServiceDriver.gate, suspended]))
  · cases stepped

/-- A segment that is not such a resumption is gate steps. -/
theorem step_gate (quiet : segment.reopening settings = none)
    (stepped : step settings driver segment = some next) : driver.gate.Steps next.gate := by
  unfold step at stepped
  split at stepped
  · obtain ⟨point, suspended, stepped⟩ := Option.bind_eq_some_iff.1 stepped
    exact startStep_gate suspended quiet stepped
  · obtain ⟨point, suspended, stepped⟩ := Option.bind_eq_some_iff.1 stepped
    exact startStep_gate suspended quiet stepped
  all_goals first
    | exact ProductionServiceDriver.hostStep_gate stepped
    | split at stepped
      · next running => first
        | exact ProductionServiceDriver.workerStep_gate running stepped
        | exact ProductionServiceDriver.lifecycleStep_gate driver running stepped
      · cases stepped

/-- Before `start` has created its tasks the worker has taken nothing. -/
theorem untaken (orderly : driver.gate.Orderly) (suspended : driver.gate.starting = true) :
    takenBy driver.workerTask = [] := by
  have none := orderly.suspended suspended
  simp only [ProductionServiceDriver.gate, Bool.or_eq_false_iff] at none
  cases task : driver.workerTask <;> simp [task, Task.exists, takenBy] at none ⊢

theorem startResumes_gate (orderly : driver.gate.Orderly) (suspended : driver.gate.starting = true)
    {recovery : ProductionServiceDriver.Recovery} {opens : Bool}
    (resumes : (Segment.startResumes recovery).reopening settings = some opens) :
    (driver.startResumes settings recovery).gate = driver.gate.resume opens := by
  have idle := untaken orderly suspended
  have waits : takenBy (.running .waiting) = [] := rfl
  cases recovery with
  | recovered blockers =>
    cases resumes
    cases blockers <;> cases admission : settings.entryAdmission <;>
      simp [ProductionServiceDriver.gate, ProductionServiceDriver.startResumes,
        ProductionServiceDriver.recovered, ProductionServiceDriver.createTasks,
        ProductionServiceDriver.release, Gate.resume, idle, waits, admission, Task.exists,
        Task.isRunning]
  | failed =>
    cases resumes
    simp [ProductionServiceDriver.gate, ProductionServiceDriver.startResumes,
      ProductionServiceDriver.unknown, ProductionServiceDriver.blockEntries,
      ProductionServiceDriver.createTasks, ProductionServiceDriver.release, Gate.resume, idle, waits,
      Task.exists, Task.isRunning]
  | cancelled => cases resumes

/-- A resumption sets the gate as `start` does. -/
theorem step_resumes (orderly : driver.gate.Orderly) {opens : Bool}
    (resumes : segment.reopening settings = some opens)
    (stepped : step settings driver segment = some next) :
    driver.gate.starting = true ∧ next.gate = driver.gate.resume opens := by
  cases segment with
  | startResumes recovery =>
    obtain ⟨point, suspended, stepped⟩ := Option.bind_eq_some_iff.1 stepped
    have starting : driver.gate.starting = true := by
      simp [ProductionServiceDriver.gate, suspended]
    refine ⟨starting, ?_⟩
    rw [← startResumes_gate orderly starting resumes]
    cases recovery <;> cases point <;> cases stepped <;> rfl
  | _ => cases resumes

theorem Gate.Orderly.steps {gate later : Gate} (orderly : gate.Orderly)
    (steps : gate.Steps later) : later.Orderly := by
  induction steps with
  | refl => exact orderly
  | tail _ stepped ih => exact ih.step stepped

theorem Gate.OneWay.steps {gate later : Gate} (oneWay : gate.OneWay) (orderly : gate.Orderly)
    (steps : gate.Steps later) : later.OneWay := by
  induction steps with
  | refl => exact oneWay
  | tail earlier stepped ih => exact ih.step (orderly.steps earlier) stepped

theorem orderly_step (orderly : driver.gate.Orderly)
    (stepped : step settings driver segment = some next) : next.gate.Orderly := by
  cases resumes : segment.reopening settings with
  | none => exact orderly.steps (step_gate resumes stepped)
  | some opens =>
    obtain ⟨suspended, resumed⟩ := step_resumes orderly resumes stepped
    rw [resumed]
    exact orderly.resume suspended opens

theorem execute_snoc (settings : DriverSettings) (before : List Segment) (segment : Segment) :
    execute settings (before ++ [segment]) =
      (execute settings before).bind fun driver => step settings driver segment := by
  simp [execute, List.foldlM_append, Option.bind_eq_bind]

theorem fresh_orderly : ProductionServiceDriver.fresh.gate.Orderly := by
  constructor <;> simp [ProductionServiceDriver.gate, ProductionServiceDriver.fresh, Task.exists,
    Task.isRunning, takenBy]

/-- Every schedule leaves the gate orderly, in time or not. -/
theorem execute_orderly {before : List Segment} (reached : execute settings before = some driver) :
    driver.gate.Orderly := by
  induction before using List.reverseRecOn generalizing driver with
  | nil =>
    cases reached
    exact fresh_orderly
  | append_singleton earlier segment ih =>
    rw [execute_snoc] at reached
    obtain ⟨middle, ran, stepped⟩ := Option.bind_eq_some_iff.1 reached
    exact orderly_step (ih ran) stepped

/-- Where `start` resumes from its recovery otherwise than by a cancellation,
`close` has not been called, and admission it opens has not been closed before. -/
def InTime (settings : DriverSettings) (driver : ProductionServiceDriver) (segment : Segment) :
    Prop :=
  ∀ opens, segment.reopening settings = some opens → driver.gate.InTime opens

theorem oneWay_step (oneWay : driver.gate.OneWay) (orderly : driver.gate.Orderly)
    (inTime : InTime settings driver segment)
    (stepped : step settings driver segment = some next) : next.gate.OneWay := by
  cases resumes : segment.reopening settings with
  | none => exact oneWay.steps orderly (step_gate resumes stepped)
  | some opens =>
    rw [(step_resumes orderly resumes stepped).2]
    exact oneWay.resume orderly (inTime opens resumes)

/-- A schedule keeps admission one-way throughout exactly if every resumption of
`start` in it is in time. -/
theorem admission_one_way (settings : DriverSettings) (segments : List Segment) :
    (∀ before driver, before <+: segments → execute settings before = some driver →
      driver.gate.OneWay) ↔
    ∀ before segment driver next, before ++ [segment] <+: segments →
      execute settings before = some driver → step settings driver segment = some next →
      InTime settings driver segment := by
  constructor
  · intro oneWay before segment driver next part reached stepped opens resumes
    have reachedNext : execute settings (before ++ [segment]) = some next := by
      rw [execute_snoc, reached]
      exact stepped
    obtain ⟨suspended, resumed⟩ := step_resumes (execute_orderly reached) resumes stepped
    have kept := oneWay _ next part reachedNext
    rw [resumed] at kept
    exact kept.of_resume (execute_orderly reached) suspended
  · intro inTime before
    induction before using List.reverseRecOn with
    | nil =>
      intro driver _ reached
      cases reached
      constructor <;> simp [ProductionServiceDriver.gate, ProductionServiceDriver.fresh]
    | append_singleton earlier segment ih =>
      intro next part reached
      rw [execute_snoc] at reached
      obtain ⟨driver, ran, stepped⟩ := Option.bind_eq_some_iff.1 reached
      have oneWay := ih driver ((List.prefix_append earlier [segment]).trans part) ran
      exact oneWay_step oneWay (execute_orderly ran) (inTime earlier segment driver next part ran
        stepped) stepped

/-- A driver with an admission callback. -/
def sampleSettings : DriverSettings where
  entryAdmission := true
  queueCapacity := 8
  maximumAdmissions := 10000
  boundOwnerArm := none
  reviewedCoordinator := true
  queue_bounds := by decide
  admission_bounds := by decide

/-- The host blocks entries while `start` awaits its recovery, and `start`
reopens them; `close` returns while `start` awaits, and `start` creates its tasks. -/
theorem interlock_undone :
    (∃ driver, execute sampleSettings [.start, .startAcquires, .blockNewEntries "HOST_STOP",
      .startResumes (.recovered [])] = some driver ∧
      .closed ∈ driver.history ∧ driver.entriesBlocked = false ∧ ¬driver.gate.OneWay) ∧
    ∃ driver, execute sampleSettings [.start, .startAcquires, .close, .startResumes .failed] =
      some driver ∧ .returned ∈ driver.history ∧ driver.workerTask.isRunning = true ∧
      ¬driver.gate.OneWay := by
  refine ⟨⟨_, rfl, by decide, rfl, fun oneWay => ?_⟩, ⟨_, rfl, by decide, rfl, fun oneWay => ?_⟩⟩
  · exact absurd (oneWay.latched (by decide)) (by decide)
  · exact absurd (oneWay.stopped (by decide)).1 (by decide)

end Run

end KairosExecution.Production.Service
