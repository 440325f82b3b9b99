import KairosExecution.Production.Records

/-! The single-account service driver, one segment between two awaits at a time.
The event loop runs one coroutine until it awaits, so a schedule is a list of
segments: a call from the host up to its first await, a suspended coroutine up
to its next one, or its end by an exception, a timeout or a cancellation. The
driver keeps its own flags, its queue and futures, the account lock, and where
each coroutine it has started is suspended. What the coordinator, the engine's
clock and the admission callback answer is input of the segment that asks them.
A task may be cancelled at any await, so a request to cancel it needs no state;
a party waiting for the lock may take it whenever it is free. -/

namespace KairosExecution.Production.Service

/-- What the driver reads of an entry envelope. `ownerArm` is the canonical
digest of the signed arm, absent where the envelope carries no signed arm. -/
structure ProductionEntryEnvelope where
  envelopeId : String
  ownerArm : Option String
  expiresAt : Timestamp
  deriving DecidableEq

/-- The constructor's arguments; its time bounds are left to the schedule. -/
structure DriverSettings where
  /-- whether an admission callback was given -/
  entryAdmission : Bool
  queueCapacity : ℕ
  maximumAdmissions : ℕ
  boundOwnerArm : Option String
  /-- whether the coordinator is exactly the reviewed class -/
  reviewedCoordinator : Bool
  queue_bounds : 1 ≤ queueCapacity ∧ queueCapacity ≤ 128
  admission_bounds : 1 ≤ maximumAdmissions ∧ maximumAdmissions ≤ 100000

/-- How the future of a queued entry was settled. -/
inductive EntryOutcome
  | result
  | refusal
  | error (text : String)
  | cancelled
  deriving DecidableEq

/-- A task the driver created: none yet, suspended somewhere, or done. -/
inductive Task (Point : Type)
  | absent
  | running (point : Point)
  | ended
  deriving DecidableEq

def Task.isRunning {Point : Type} : Task Point → Bool
  | .running _ => true
  | _ => false

/-- `task is not None` -/
def Task.exists {Point : Type} : Task Point → Bool
  | .absent => false
  | _ => true

/-- Where `_entry_worker` is suspended. -/
inductive WorkerPoint
  | waiting
  | locking (item : ProductionEntryEnvelope)
  | staging (item : ProductionEntryEnvelope)
  | inspecting (item : ProductionEntryEnvelope)
  | handling (item : ProductionEntryEnvelope)
  deriving DecidableEq

/-- Where `_lifecycle_loop` is suspended. -/
inductive LifecyclePoint
  | ready
  | locking
  | reconciling
  | sleeping
  deriving DecidableEq

/-- Where `start` is suspended. -/
inductive StartPoint
  | locking
  | recovering
  deriving DecidableEq

/-- The two public maintenance calls. -/
inductive Maintenance
  | once
  | closedAccount
  deriving DecidableEq

/-- Who holds the account lock. -/
inductive Party
  | start
  | worker
  | lifecycle
  | caller (maintenance : Maintenance)
  deriving DecidableEq

/-- What a run did, in order; no function of the driver reads it. -/
inductive Event
  /-- an assignment closed entry admission -/
  | closed
  /-- `start` created the worker and the lifecycle task -/
  | created
  /-- `coordinator.admit_and_handle_entry` began -/
  | entered (envelopeId : String)
  /-- `engine.handle` began -/
  | handled (envelopeId : String)
  /-- `close` returned -/
  | returned
  deriving DecidableEq

structure ProductionServiceDriver where
  started : Bool
  closing : Bool
  recoveryComplete : Bool
  recoveryBlockers : List String
  entriesBlocked : Bool
  cleanupUnresolved : Bool
  seenEnvelopeIds : List String
  queue : List ProductionEntryEnvelope
  /-- the futures that are done, by envelope identity -/
  futures : List (String × EntryOutcome)
  accountLock : Option Party
  starting : Option StartPoint
  workerTask : Task WorkerPoint
  lifecycleTask : Task LifecyclePoint
  /-- callers of `submit` suspended on their future -/
  submitters : List String
  /-- callers of a maintenance method waiting for the lock -/
  callers : List Maintenance
  /-- callers of `close` waiting for the captured tasks -/
  closers : ℕ
  history : List Event

structure ProductionServiceStatus where
  started : Bool
  recoveryComplete : Bool
  recoveryBlockers : List String
  entriesBlocked : Bool
  entryPolicy : String
  cleanupUnresolved : Bool
  entryWorkerRunning : Bool
  lifecycleWorkerRunning : Bool
  closing : Bool
  deriving DecidableEq

namespace ProductionServiceDriver

/-- `__init__` -/
def fresh : ProductionServiceDriver where
  started := false
  closing := false
  recoveryComplete := false
  recoveryBlockers := ["STARTUP_RECOVERY_REQUIRED"]
  entriesBlocked := true
  cleanupUnresolved := false
  seenEnvelopeIds := []
  queue := []
  futures := []
  accountLock := none
  starting := none
  workerTask := .absent
  lifecycleTask := .absent
  submitters := []
  callers := []
  closers := 0
  history := []

def status (driver : ProductionServiceDriver) : ProductionServiceStatus where
  started := driver.started
  recoveryComplete := driver.recoveryComplete
  recoveryBlockers := driver.recoveryBlockers
  entriesBlocked := driver.entriesBlocked
  entryPolicy := if driver.entriesBlocked then "REJECT_ALL" else "EXTERNAL_ADMISSION_REQUIRED"
  cleanupUnresolved := driver.cleanupUnresolved
  entryWorkerRunning := driver.workerTask.isRunning
  lifecycleWorkerRunning := driver.lifecycleTask.isRunning
  closing := driver.closing

/-- `self._entries_blocked = True` -/
def blockEntries (driver : ProductionServiceDriver) : ProductionServiceDriver :=
  { driver with entriesBlocked := true, history := driver.history ++ [.closed] }

def unknown (reason : String) (driver : ProductionServiceDriver) : ProductionServiceDriver :=
  { driver.blockEntries with recoveryComplete := false, recoveryBlockers := [reason] }

/-- `re.fullmatch(r"[A-Z][A-Z0-9_]{0,95}", reason)` -/
def isReasonCode (reason : String) : Bool :=
  match reason.toList with
  | [] => false
  | first :: rest =>
    first.isUpper && rest.length ≤ 95 && rest.all fun c => c.isUpper || c.isDigit || c == '_'

def blockNewEntries (reason : String) (driver : ProductionServiceDriver) :
    Except String ProductionServiceStatus × ProductionServiceDriver :=
  if isReasonCode reason then (.ok (driver.unknown reason).status, driver.unknown reason)
  else (.error "a bounded public uppercase reason code is required", driver)

def checkHealth (driver : ProductionServiceDriver) :
    ProductionServiceStatus × ProductionServiceDriver :=
  let current := driver.status
  if current.started && !current.closing &&
      (!current.entryWorkerRunning || !current.lifecycleWorkerRunning) then
    ((driver.unknown "SERVICE_BACKGROUND_WORKER_STOPPED").status,
      driver.unknown "SERVICE_BACKGROUND_WORKER_STOPPED")
  else (driver.status, driver)

/-- Leaving `async with self._account_lock`, for a party that may only be waiting for it. -/
def release (party : Party) (driver : ProductionServiceDriver) : ProductionServiceDriver :=
  { driver with accountLock := if driver.accountLock = some party then none else driver.accountLock }

/-- `start` up to the lock. -/
def start (driver : ProductionServiceDriver) : Except String Unit × ProductionServiceDriver :=
  if driver.started || driver.closing then
    (.error "service cannot be started in its current state", driver)
  else (.ok (), { driver with started := true, starting := some .locking })

/-- How `start` leaves its recovery: with the coordinator's blockers, by an
exception or timeout, or cancelled. -/
inductive Recovery
  | recovered (blockers : List String)
  | failed
  | cancelled
  deriving DecidableEq

/-- The two `asyncio.create_task` calls of `start`. -/
def createTasks (driver : ProductionServiceDriver) : ProductionServiceDriver :=
  { driver with
    workerTask := .running .waiting
    lifecycleTask := .running .ready
    history := driver.history ++ [.created] }

/-- The three assignments after `initialize_recovery`. -/
def recovered (settings : DriverSettings) (blockers : List String)
    (driver : ProductionServiceDriver) : ProductionServiceDriver :=
  let blocked := !blockers.isEmpty || !settings.entryAdmission
  { driver with
    recoveryComplete := blockers.isEmpty
    recoveryBlockers := if blockers.isEmpty then [] else ["AUTHORITATIVE_RECOVERY_BLOCKED"]
    entriesBlocked := blocked
    history := driver.history ++ if blocked then [.closed] else [] }

/-- `start` from its recovery to its end. -/
def startResumes (settings : DriverSettings) (recovery : Recovery)
    (driver : ProductionServiceDriver) : ProductionServiceDriver :=
  let resumed := { driver.release .start with starting := none }
  match recovery with
  | .recovered blockers => (resumed.recovered settings blockers).createTasks
  | .failed => (resumed.unknown "STARTUP_RECOVERY_UNRESOLVED").createTasks
  | .cancelled =>
    { resumed.unknown "STARTUP_RECOVERY_CANCELLED" with started := false, closing := true }

/-- `item.result.done()` -/
def isDone (envelopeId : String) (driver : ProductionServiceDriver) : Bool :=
  driver.futures.any fun future => future.1 == envelopeId

/-- `if not item.result.done(): item.result.set_…` -/
def settle (outcome : EntryOutcome) (envelopeId : String) (driver : ProductionServiceDriver) :
    ProductionServiceDriver :=
  if driver.isDone envelopeId then driver
  else { driver with futures := (envelopeId, outcome) :: driver.futures }

/-- `submit` up to the await of its future. -/
def submit (settings : DriverSettings) (envelope : ProductionEntryEnvelope)
    (driver : ProductionServiceDriver) : Except String Unit × ProductionServiceDriver :=
  if !driver.started || driver.closing || driver.entriesBlocked then
    (.error "entries are blocked; recovery and admission are required", driver)
  else if envelope.envelopeId ∈ driver.seenEnvelopeIds then
    (.error "entry envelope identity was already seen in this process", driver)
  else if settings.maximumAdmissions ≤ driver.seenEnvelopeIds.length then
    (.error "process admission capacity exhausted; no identities are evicted", driver.blockEntries)
  else
    let fenced :=
      { driver with seenEnvelopeIds := envelope.envelopeId :: driver.seenEnvelopeIds }
    if settings.queueCapacity ≤ driver.queue.length then
      (.error "entry queue is full; refused identity remains fenced", fenced)
    else
      (.ok (), { fenced with
        queue := driver.queue ++ [envelope]
        submitters := envelope.envelopeId :: driver.submitters })

/-- How the await of `submit` ends. -/
inductive Waited
  | answered
  | timedOut
  | cancelled
  deriving DecidableEq

/-- `submit` from its await: a timeout or a cancellation cancels the future too. -/
def submitResumes (waited : Waited) (envelopeId : String) (driver : ProductionServiceDriver) :
    ProductionServiceDriver :=
  let resumed := { driver with submitters := driver.submitters.erase envelopeId }
  match waited with
  | .answered => resumed
  | .timedOut => (resumed.settle .cancelled envelopeId).unknown "ENTRY_OUTCOME_TIMEOUT"
  | .cancelled => (resumed.settle .cancelled envelopeId).unknown "ENTRY_OUTCOME_CANCELLED"

/-- What the admission callback does. -/
inductive AdmissionAnswer
  | exactlyTrue
  | somethingElse
  | awaitable
  | raised
  deriving DecidableEq

def admitted (settings : DriverSettings) (recoveryBlocked : Bool) (answer : AdmissionAnswer)
    (envelopeId : String) (driver : ProductionServiceDriver) :
    Except String Bool × ProductionServiceDriver :=
  if driver.isDone envelopeId || driver.closing || driver.entriesBlocked then (.ok false, driver)
  else if recoveryBlocked then (.ok false, driver.unknown "AUTHORITATIVE_RECOVERY_BLOCKED")
  else if !settings.entryAdmission then (.ok false, driver.blockEntries)
  else match answer with
    | .raised => (.error "entry admission callback raised", driver)
    | .awaitable => (.error "entry admission must be synchronous and exactly true", driver)
    | .somethingElse => (.ok false, driver.blockEntries)
    | .exactlyTrue => (.ok true, driver)

/-- `entry_interlock`, and `_check_entry_interlock` with it. -/
def entryInterlock (envelopeId : String) (driver : ProductionServiceDriver) : Bool :=
  !driver.isDone envelopeId && !driver.closing && !driver.entriesBlocked

/-- The worker back at `queue.get()`, the lock released. -/
def workerWaits (driver : ProductionServiceDriver) : ProductionServiceDriver :=
  { driver.release .worker with workerTask := .running .waiting }

/-- `except Exception` of the worker. -/
def workerUnresolved (envelopeId : String) (driver : ProductionServiceDriver) :
    ProductionServiceDriver :=
  ((driver.unknown "ENTRY_PROCESSING_UNRESOLVED").settle
    (.error "entry outcome unresolved; recovery required") envelopeId).workerWaits

/-- What the driver and the coordinator read while the worker holds the lock and
has not yet awaited: the engine's recovery flag, the callback's answer, the
driver's and the coordinator's clock readings (absent where not explicit UTC),
and whether the owner's signed arm verifies. -/
structure EntryReading where
  recoveryBlocked : Bool
  admission : AdmissionAnswer
  now : Option Timestamp
  pathNow : Option Timestamp
  ownerVerified : Bool
  deriving DecidableEq

/-- The envelope carries the session's own arm, and its deadline lies ahead. -/
def isCurrent (settings : DriverSettings) (reading : EntryReading)
    (item : ProductionEntryEnvelope) : Bool :=
  (settings.boundOwnerArm.all fun arm => item.ownerArm == some arm) &&
    reading.now.any fun now => now < item.expiresAt

/-- `admit_and_handle_entry` up to its first await. -/
def coordinatorBegins (reading : EntryReading) (item : ProductionEntryEnvelope)
    (driver : ProductionServiceDriver) : ProductionServiceDriver :=
  let entered := { driver with
    workerTask := .running (.staging item)
    history := driver.history ++ [.entered item.envelopeId] }
  if reading.pathNow.isSome && entered.entryInterlock item.envelopeId && reading.ownerVerified then
    entered
  else entered.workerUnresolved item.envelopeId

/-- The worker with the lock, up to the coordinator's first await. -/
def workerAcquires (settings : DriverSettings) (reading : EntryReading)
    (item : ProductionEntryEnvelope) (driver : ProductionServiceDriver) :
    ProductionServiceDriver :=
  let locked := { driver with accountLock := some .worker }
  match locked.admitted settings reading.recoveryBlocked reading.admission item.envelopeId with
  | (.ok true, asked) =>
    if isCurrent settings reading item then asked.coordinatorBegins reading item
    else asked.workerUnresolved item.envelopeId
  | (_, asked) => asked.workerUnresolved item.envelopeId

/-- How `evaluate_and_stage_entry` ends, short of raising: staged, or refused by
a publisher and evaluator that are or are not the reviewed classes. -/
inductive Staged
  | staged
  | refused (reviewed : Bool)
  deriving DecidableEq

/-- The worker after a result: its future is set and the lock released. -/
def workerAnswers (outcome : EntryOutcome) (envelopeId : String)
    (driver : ProductionServiceDriver) : ProductionServiceDriver :=
  (driver.settle outcome envelopeId).workerWaits

/-- The coordinator after `evaluate_and_stage_entry`. -/
def workerStaged (settings : DriverSettings) (answer : Staged) (item : ProductionEntryEnvelope)
    (driver : ProductionServiceDriver) : ProductionServiceDriver :=
  match answer with
  | .staged =>
    if driver.entryInterlock item.envelopeId then
      { driver with workerTask := .running (.inspecting item) }
    else driver.workerUnresolved item.envelopeId
  | .refused reviewed =>
    if reviewed && driver.entryInterlock item.envelopeId && settings.reviewedCoordinator then
      driver.workerAnswers .refusal item.envelopeId
    else driver.workerUnresolved item.envelopeId

/-- The coordinator after `_inspect_staged`. -/
def workerInspected (item : ProductionEntryEnvelope) (driver : ProductionServiceDriver) :
    ProductionServiceDriver :=
  if driver.entryInterlock item.envelopeId then
    { driver with
      workerTask := .running (.handling item)
      history := driver.history ++ [.handled item.envelopeId] }
  else driver.workerUnresolved item.envelopeId

/-- `queue.get()` answers: an entry whose future is done is dropped. -/
def workerTakes (item : ProductionEntryEnvelope) (rest : List ProductionEntryEnvelope)
    (driver : ProductionServiceDriver) : ProductionServiceDriver :=
  if driver.isDone item.envelopeId then { driver with queue := rest }
  else { driver with queue := rest, workerTask := .running (.locking item) }


/-- `except asyncio.CancelledError` of the worker, which ends it. -/
def workerCancelled (item : ProductionEntryEnvelope) (driver : ProductionServiceDriver) :
    ProductionServiceDriver :=
  { ((driver.unknown "ENTRY_WORKER_CANCELLED").settle
      (.error "entry outcome unknown; recovery required") item.envelopeId).release .worker with
    workerTask := .ended }

/-- How a maintenance call leaves the lock: the coordinator answered, with the
engine's recovery flag after it; an exception or a timeout; a cancellation. -/
inductive Maintained
  | answered (recoveryBlocked : Bool)
  | failed
  | cancelled
  deriving DecidableEq

/-- The latch at the end of `reconcile_once` and of `reconcile_closed_account`. -/
def maintained (maintenance : Maintenance) (outcome : Maintained)
    (driver : ProductionServiceDriver) : ProductionServiceDriver :=
  match maintenance, outcome with
  | .once, .answered true => driver.unknown "AUTHORITATIVE_RECOVERY_BLOCKED"
  | .once, .failed => driver.unknown "MAINTENANCE_UNRESOLVED"
  | .once, .cancelled => driver.unknown "MAINTENANCE_CANCELLED"
  | .closedAccount, .failed => driver.unknown "CLOSED_RECONCILIATION_UNRESOLVED"
  | .closedAccount, .cancelled => driver.unknown "CLOSED_RECONCILIATION_CANCELLED"
  | _, _ => driver

/-- `reconcile_once` or `reconcile_closed_account` of an outside caller, up to the lock. -/
def callMaintenance (maintenance : Maintenance) (driver : ProductionServiceDriver) :
    Except String Unit × ProductionServiceDriver :=
  if !driver.started || driver.closing then (.error "service is not running", driver)
  else (.ok (), { driver with callers := maintenance :: driver.callers })

/-- An iteration of `_lifecycle_loop` up to the lock. -/
def lifecycleWakes (driver : ProductionServiceDriver) : ProductionServiceDriver :=
  if !driver.started || driver.closing then
    { driver.unknown "MAINTENANCE_UNRESOLVED" with lifecycleTask := .running .sleeping }
  else { driver with lifecycleTask := .running .locking }

/-- `_lifecycle_loop` after its `reconcile_once`: a failure is latched a second
time and the loop sleeps; a cancellation ends it. -/
def lifecycleResumes (outcome : Maintained) (driver : ProductionServiceDriver) :
    ProductionServiceDriver :=
  let resumed := (driver.maintained .once outcome).release .lifecycle
  match outcome with
  | .answered _ => { resumed with lifecycleTask := .running .sleeping }
  | .failed => { resumed.unknown "MAINTENANCE_UNRESOLVED" with lifecycleTask := .running .sleeping }
  | .cancelled => { resumed with lifecycleTask := .ended }

/-- The end of `close`: the queue is drained, then `close` returns. -/
def closeFinishes (driver : ProductionServiceDriver) : ProductionServiceDriver :=
  let drained := driver.queue.foldl
    (fun draining item => draining.settle
      (.error "service stopped before envelope processing") item.envelopeId) driver
  { drained with
    queue := []
    cleanupUnresolved := false
    started := false
    history := driver.history ++ [.returned] }

/-- `close` up to its wait for the tasks, or to its end where there are none. -/
def close (driver : ProductionServiceDriver) : ProductionServiceDriver :=
  let closing := { driver.blockEntries with closing := true }
  if driver.workerTask.exists || driver.lifecycleTask.exists then
    { closing with closers := driver.closers + 1 }
  else closing.closeFinishes

/-- How the wait of `close` ends: all tasks done, some still pending, or cancelled. -/
inductive Closed
  | done
  | pending
  | cancelled
  deriving DecidableEq

/-- Whether the captured tasks let the wait end so. -/
def mayEnd (wait : Closed) (driver : ProductionServiceDriver) : Bool :=
  match wait with
  | .done => !driver.workerTask.isRunning && !driver.lifecycleTask.isRunning
  | .pending => driver.workerTask.isRunning || driver.lifecycleTask.isRunning
  | .cancelled => true

/-- `close` from its wait. -/
def closeResumes (wait : Closed) (driver : ProductionServiceDriver) : ProductionServiceDriver :=
  let resumed := { driver with closers := driver.closers - 1 }
  match wait with
  | .done => resumed.closeFinishes
  | .pending => { resumed.unknown "SHUTDOWN_UNRESOLVED" with cleanupUnresolved := true }
  | .cancelled => resumed

end ProductionServiceDriver

open ProductionServiceDriver

/-- One segment of a schedule. -/
inductive Segment
  | blockNewEntries (reason : String)
  | checkHealth
  | start
  | startAcquires
  | startResumes (recovery : Recovery)
  | submit (envelope : ProductionEntryEnvelope)
  | submitResumes (envelopeId : String) (waited : Waited)
  | workerTakes
  | workerAcquires (reading : EntryReading)
  | workerStaged (answer : Staged)
  | workerInspected
  | workerHandled
  | workerFails
  | workerCancelled
  | callMaintenance (maintenance : Maintenance)
  | callerAcquires (maintenance : Maintenance)
  | callerGivesUp (maintenance : Maintenance) (cancelled : Bool)
  | callerResumes (maintenance : Maintenance) (outcome : Maintained)
  | lifecycleWakes
  | lifecycleAcquires
  | lifecycleResumes (outcome : Maintained)
  | lifecycleCancelled
  | close
  | closeResumes (wait : Closed)
  deriving DecidableEq

/-- The entry a worker holds, inside the `try` of its loop. -/
def WorkerPoint.item : WorkerPoint → Option ProductionEntryEnvelope
  | .waiting => none
  | .locking item | .staging item | .inspecting item | .handling item => some item

/-- The segments of the worker, by where it is suspended. -/
def workerStep (settings : DriverSettings) (segment : Segment) (point : WorkerPoint)
    (driver : ProductionServiceDriver) : Option ProductionServiceDriver :=
  match segment, point with
  | .workerTakes, .waiting =>
    match driver.queue with
    | [] => none
    | item :: rest => some (driver.workerTakes item rest)
  | .workerAcquires reading, .locking item =>
    if driver.accountLock = none then some (driver.workerAcquires settings reading item) else none
  | .workerStaged answer, .staging item => some (driver.workerStaged settings answer item)
  | .workerInspected, .inspecting item => some (driver.workerInspected item)
  | .workerHandled, .handling item => some (driver.workerAnswers .result item.envelopeId)
  | .workerFails, point => point.item.map fun item => driver.workerUnresolved item.envelopeId
  | .workerCancelled, point =>
    match point.item with
    | none => some { driver with workerTask := .ended }
    | some item => some (driver.workerCancelled item)
  | _, _ => none

/-- The segments of the lifecycle task, by where it is suspended. -/
def lifecycleStep (segment : Segment) (point : LifecyclePoint)
    (driver : ProductionServiceDriver) : Option ProductionServiceDriver :=
  match segment, point with
  | .lifecycleWakes, .ready | .lifecycleWakes, .sleeping => some driver.lifecycleWakes
  | .lifecycleAcquires, .locking =>
    if driver.accountLock = none then
      some { driver with accountLock := some .lifecycle, lifecycleTask := .running .reconciling }
    else none
  | .lifecycleResumes (.answered recoveryBlocked), .reconciling =>
    some (driver.lifecycleResumes (.answered recoveryBlocked))
  | .lifecycleResumes .failed, .locking | .lifecycleResumes .failed, .reconciling =>
    some (driver.lifecycleResumes .failed)
  | .lifecycleCancelled, .ready | .lifecycleCancelled, .sleeping =>
    some { driver with lifecycleTask := .ended }
  | .lifecycleCancelled, .locking | .lifecycleCancelled, .reconciling =>
    some (driver.lifecycleResumes .cancelled)
  | _, _ => none

/-- The segments of `start` after its first, by where it is suspended. -/
def startStep (settings : DriverSettings) (segment : Segment) (point : StartPoint)
    (driver : ProductionServiceDriver) : Option ProductionServiceDriver :=
  match segment, point with
  | .startAcquires, .locking =>
    if driver.accountLock = none then
      some { driver with accountLock := some .start, starting := some .recovering }
    else none
  | .startResumes (.recovered blockers), .recovering =>
    some (driver.startResumes settings (.recovered blockers))
  | .startResumes .failed, _ => some (driver.startResumes settings .failed)
  | .startResumes .cancelled, _ => some (driver.startResumes settings .cancelled)
  | _, _ => none

/-- The segments of the host's own calls. -/
def hostStep (settings : DriverSettings) (segment : Segment) (driver : ProductionServiceDriver) :
    Option ProductionServiceDriver :=
  match segment with
  | .blockNewEntries reason => some (driver.blockNewEntries reason).2
  | .checkHealth => some driver.checkHealth.2
  | .start => some driver.start.2
  | .submit envelope => some (driver.submit settings envelope).2
  | .submitResumes envelopeId waited =>
    if envelopeId ∈ driver.submitters ∧ (waited = .answered → driver.isDone envelopeId = true) then
      some (driver.submitResumes waited envelopeId)
    else none
  | .callMaintenance maintenance => some (driver.callMaintenance maintenance).2
  | .callerAcquires maintenance =>
    if maintenance ∈ driver.callers ∧ driver.accountLock = none then
      some { driver with
        accountLock := some (.caller maintenance)
        callers := driver.callers.erase maintenance }
    else none
  | .callerGivesUp maintenance cancelled =>
    if maintenance ∈ driver.callers then
      some ({ driver with callers := driver.callers.erase maintenance }.maintained maintenance
        (if cancelled then .cancelled else .failed))
    else none
  | .callerResumes maintenance outcome =>
    if driver.accountLock = some (.caller maintenance) then
      some ((driver.maintained maintenance outcome).release (.caller maintenance))
    else none
  | .close => some driver.close
  | .closeResumes wait =>
    if 0 < driver.closers ∧ driver.mayEnd wait = true then some (driver.closeResumes wait)
    else none
  | _ => none

/-- One segment, where the schedule may run it. -/
def step (settings : DriverSettings) (driver : ProductionServiceDriver) (segment : Segment) :
    Option ProductionServiceDriver :=
  match segment with
  | .startAcquires | .startResumes _ =>
    driver.starting.bind fun point => startStep settings segment point driver
  | .workerTakes | .workerAcquires _ | .workerStaged _ | .workerInspected | .workerHandled
  | .workerFails | .workerCancelled =>
    match driver.workerTask with
    | .running point => workerStep settings segment point driver
    | _ => none
  | .lifecycleWakes | .lifecycleAcquires | .lifecycleResumes _ | .lifecycleCancelled =>
    match driver.lifecycleTask with
    | .running point => lifecycleStep segment point driver
    | _ => none
  | _ => hostStep settings segment driver

/-- The driver after a schedule, from its construction on. -/
def execute (settings : DriverSettings) (segments : List Segment) :
    Option ProductionServiceDriver :=
  segments.foldlM (step settings) .fresh

end KairosExecution.Production.Service
