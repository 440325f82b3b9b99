import KairosExecution.Interactive.Exclusive
import KairosExecution.Python.JsonDump

/-! The native capture store of one session: for each observation a slot for its raw record and one
for the witness that its write was acknowledged. `create_only` runs under one lock, while readers
look at the files at any time; a write may fail before, during or after its file, the clock may
fault, and a crash may leave the session anywhere. A slot is written once, and what can be read
back is the record that was submitted, with the clock of its own acknowledgement. -/

namespace KairosExecution.Production.NativeCapture

open Python Interactive

abbrev Bytes := List UInt8

/-- What is raised: `NativeCapturePersistenceError`, `NativeCapturePartialError`,
`NativeCaptureConflictError`, `KeyError`, or what the storage or the clock raises. -/
inductive CaptureError
  | persistence (message : String)
  | unresolved (message : String)
  | conflict (message : String)
  | key (observationId : String)
  | other (message : String)
  deriving DecidableEq

inductive Slot
  | started | completed
  deriving DecidableEq

/-- `NativeCapturePersistenceWitnessV1`, whose other fields are constants. -/
structure Witness where
  observationId : String
  recordSha256 : String
  recordBytes : ℕ
  acknowledgedAtMs : ℕ
  deriving DecidableEq

/-- `NativeCaptureStoredObservation` -/
structure StoredObservation where
  record : Bytes
  witness : Witness
  witnessBytes : Bytes
  deriving DecidableEq

/-- What is used of the libraries: the digest, the canonical JSON of a witness, and the witness that
is validated from JSON. -/
structure Codec where
  sha256 : Bytes → String
  canonicalJsonBytes : Witness → Bytes
  validateJson : Bytes → Option Witness

/-- The canonical text of an object is no beginning of another one's. -/
def Codec.Sealed (c : Codec) : Prop :=
  ∀ w w', c.canonicalJsonBytes w <+: c.canonicalJsonBytes w' → w = w'

section Source

/-- `_OBSERVATION_ID` -/
def isIdentifier (value : String) : Bool :=
  value.length = 32 && value.toList.all fun c => c.isDigit || ('a' ≤ c && c ≤ 'f')

def maxRecordBytes : ℕ := 4_000_000

def maxWitnessBytes : ℕ := 4_096

def maxSessionObservations : ℕ := 10_000

def refuse (condition : Bool) (error : CaptureError) : Except CaptureError Unit :=
  if condition then .error error else .ok ()

@[simp] theorem refuse_eq_ok {condition : Bool} {error : CaptureError} {u : Unit} :
    refuse condition error = .ok u ↔ condition = false := by
  cases condition <;> simp [refuse]

/-- `_read_file`, of a file with these bytes. -/
def readFile (data : Bytes) (maximum : ℕ) : Except CaptureError Bytes := do
  refuse (data = [] ∨ maximum < data.length)
    (.unresolved "invalid or partial native pair retained without repair")
  return data

/-- What is in the two slots of an observation. -/
abbrev Found := Option Bytes × Option Bytes

variable (c : Codec)

/-- The pair of two files, which are both there. -/
def readPair (observationId : String) (raw witnessRaw : Bytes) : Except CaptureError StoredObservation := do
  let raw ← readFile raw maxRecordBytes
  let witnessRaw ← readFile witnessRaw maxWitnessBytes
  match c.validateJson witnessRaw with
  | none => .error (.unresolved "invalid or partial native pair retained without repair")
  | some witness => do
    refuse (c.canonicalJsonBytes witness ≠ witnessRaw ∨ witness.observationId ≠ observationId
        ∨ witness.recordBytes ≠ raw.length ∨ witness.recordSha256 ≠ c.sha256 raw)
      (.conflict "native persistence witness does not bind the exact original record")
    return ⟨raw, witness, witnessRaw⟩

/-- `NativeCaptureSessionReader.read`, where this is found. -/
def read (observationId : String) (found : Found) : Except CaptureError StoredObservation := do
  refuse (!isIdentifier observationId)
    (.persistence "native observation ID must be exactly 32 lowercase hex characters")
  match found with
  | (none, none) => .error (.key observationId)
  | (some raw, some witnessRaw) => readPair c observationId raw witnessRaw
  | _ => .error (.unresolved "partial native observation retained; no new persistence clock allowed")

/-- What `create_only` calls, and what it reads and writes of its own session: what it attempted and
its last clock. The clock answers no integer where its value is none. -/
inductive CaptureCall
  | look (observationId : String)
  | memory
  | attempt (observationId : String)
  | clock
  | tick (value : ℕ)
  | write (observationId : String) (slot : Slot) (record : Bytes)

/-- A write answers whether it returned `None`. -/
abbrev CaptureCall.Answer : CaptureCall → Type
  | .look _ => Found
  | .memory => List String × Option ℕ
  | .attempt _ => Unit
  | .clock => Option ℤ
  | .tick _ => Unit
  | .write .. => Bool

abbrev capturing : Interface := ⟨CaptureCall, CaptureCall.Answer⟩

abbrev Capturing (α : Type) := Program capturing CaptureError α

/-- A call, under its answer's type. -/
abbrev captures (call : CaptureCall) : Capturing (CaptureCall.Answer call) :=
  @Program.ask capturing CaptureError call

/-- The clock reads that are accepted after the last one. -/
def validTime (value : Option ℤ) (last : Option ℕ) : Except CaptureError ℕ :=
  match value with
  | some value =>
    if 0 ≤ value ∧ value < 2 ^ 63 ∧ ∀ earlier ∈ last, (earlier : ℤ) ≤ value then .ok value.toNat
    else .error (.persistence "native persistence clock is asynchronous, invalid or backwards")
  | none => .error (.persistence "native persistence clock is asynchronous, invalid or backwards")

def time : Capturing ℕ := do
  let value ← captures .clock
  let (_, last) ← captures .memory
  let value ← liftM (validTime value last)
  captures (.tick value)
  return value

def write (observationId : String) (slot : Slot) (record : Bytes) : Capturing Unit := do
  let acknowledged ← captures (.write observationId slot record)
  liftM (refuse (!acknowledged)
    (.persistence "native storage did not synchronously acknowledge fsync"))

/-- The witness of a record. -/
def witnessOf (observationId : String) (record : Bytes) (acknowledgedAt : ℕ) : Witness :=
  ⟨observationId, c.sha256 record, record.length, acknowledgedAt⟩

/-- What `create_only` does for an observation that it has not attempted. -/
def persist (observationId : String) (record : Bytes) : Capturing Unit := do
  captures (.attempt observationId)
  let _ ← time
  write observationId .started record
  let acknowledgedAt ← time
  let witness := witnessOf c observationId record acknowledgedAt
  write observationId .completed (c.canonicalJsonBytes witness)
  let found ← captures (.look observationId)
  let retained ← liftM (read c observationId found)
  liftM (refuse (retained.record ≠ record ∨ retained.witness ≠ witness)
    (.conflict "native persisted pair differs after synchronous acknowledgement"))

/-- `NativeCaptureSessionSink.create_only`, inside the lock. -/
def createOnly (observationId : String) (record : Bytes) : Capturing Unit := do
  liftM (refuse (!isIdentifier observationId)
    (.persistence "native observation ID must be exactly 32 lowercase hex characters"))
  liftM (refuse (record = [] ∨ maxRecordBytes < record.length)
    (.persistence "bounded immutable original native observation bytes are required"))
  let found ← captures (.look observationId)
  match read c observationId found with
  | .ok existing =>
    liftM (refuse (existing.record ≠ record)
      (.conflict "native observation ID already names different original bytes"))
  | .error (.key _) => do
    let (attempted, _) ← captures .memory
    liftM (refuse (observationId ∈ attempted)
      (.unresolved "native persistence attempt is unresolved; no blind retry"))
    liftM (refuse (maxSessionObservations ≤ attempted.length)
      (.persistence "native capture session reached its bounded observation limit"))
    persist c observationId record
  | .error error => Program.raise error

end Source

section Law

/-- The files of a session's directory, and the memory of its sink. -/
structure Sink where
  disk : String × Slot → Option Bytes := fun _ => none
  attempted : List String := []
  lastClock : Option ℕ := none

def Sink.put (s : Sink) (file : String × Slot) (bytes : Bytes) : Sink :=
  { s with disk := Function.update s.disk file (some bytes) }

/-- A file is created, or what this write has put there so far goes on. -/
def Sink.Admits (s : Sink) (file : String × Slot) (bytes : Bytes) : Prop :=
  ∀ old, s.disk file = some old → old <+: bytes

/-- What may be seen while a call is made, or is left where it fails: of a write, its first bytes. -/
def seenDuring (s : Sink) (call : CaptureCall) (s' : Sink) : Prop :=
  match call with
  | .write observationId slot record => s' = s ∨ ∃ bytes, bytes <+: record ∧
      s.Admits (observationId, slot) bytes ∧ s' = s.put (observationId, slot) bytes
  | _ => s' = s

/-- What an answer leaves. -/
def leftAfter (s : Sink) : (call : CaptureCall) → Except CaptureError call.Answer → Sink → Prop
  | .look observationId, r, s' => s' = s ∧ ∀ found, r = .ok found →
      found = (s.disk (observationId, .started), s.disk (observationId, .completed))
  | .memory, r, s' => s' = s ∧ ∀ known, r = .ok known → known = (s.attempted, s.lastClock)
  | .attempt observationId, .ok (), s' => s' = { s with attempted := s.attempted ++ [observationId] }
  | .tick value, .ok (), s' => s' = { s with lastClock := some value }
  | .write observationId slot record, .ok true, s' =>
    s.Admits (observationId, slot) record ∧ s' = s.put (observationId, slot) record
  | .write observationId slot record, _, s' => seenDuring s (.write observationId slot record) s'
  | _, _, s' => s' = s

variable {s s' m : Sink} {file : String × Slot} {bytes : Bytes}

@[simp] theorem Sink.put_disk_self : (s.put file bytes).disk file = some bytes :=
  Function.update_self ..

theorem Sink.put_disk_other {other : String × Slot} (apart : other ≠ file) :
    (s.put file bytes).disk other = s.disk other :=
  Function.update_of_ne apart ..

@[simp] theorem Sink.put_attempted : (s.put file bytes).attempted = s.attempted := rfl

@[simp] theorem Sink.put_lastClock : (s.put file bytes).lastClock = s.lastClock := rfl

theorem Sink.put_put {later : Bytes} : (s.put file bytes).put file later = s.put file later := by
  simp [Sink.put]

theorem seenDuring_trans {call : CaptureCall} (first : seenDuring s call m)
    (second : seenDuring m call s') : seenDuring s call s' := by
  cases call with
  | write observationId slot record =>
    rcases first with rfl | ⟨bytes, part, admits, rfl⟩
    · exact second
    rcases second with rfl | ⟨later, part', admits', rfl⟩
    · exact .inr ⟨bytes, part, admits, rfl⟩
    · have grows : bytes <+: later := admits' bytes Sink.put_disk_self
      exact .inr ⟨later, part', fun old found => (admits old found).trans grows, Sink.put_put⟩
  | _ => exact second.trans first

/-- The effects of the calls on the session. -/
def captureEffects : Effects capturing CaptureError Sink where
  during := seenDuring
  after := leftAfter
  refl s call := by
    cases call with
    | write => exact .inl rfl
    | _ => rfl
  trans _ _ _ _ := seenDuring_trans

end Law

section Invariant

variable (c : Codec)

abbrev CaptureEvent := Event capturing CaptureError

abbrev CaptureHistory := History capturing CaptureError

/-- The file that a call writes. -/
def CaptureCall.file : CaptureCall → Option (String × Slot)
  | .write observationId slot _ => some (observationId, slot)
  | _ => none

/-- A clock value that was accepted. -/
def accepted : CaptureEvent → Option ℕ
  | ⟨.tick value, some (.ok _)⟩ => some value
  | _ => none

/-- The clock values that were accepted, the latest first. -/
def clocks (h : CaptureHistory) : List ℕ := h.filterMap accepted

/-- The record was written, and this acknowledged, after a clock value that is no later. -/
def Recorded (observationId : String) (record : Bytes) (acknowledgedAt : ℕ) (h : CaptureHistory) : Prop :=
  ∃ newer older before, h = newer ++ ⟨.write observationId .started record, some (.ok true)⟩ :: older ∧
    (clocks older).head? = some before ∧ before ≤ acknowledgedAt

/-- What holds at every moment of a session: each file was attempted and written once, the clock did
not go back, a witness is one of the record that is there, and carries the clock after its write. -/
structure Sound (x : CaptureHistory × Sink) : Prop where
  known : ∀ file, x.2.disk file ≠ none → file.1 ∈ x.2.attempted
  listed : ∀ e ∈ x.1, ∀ file, e.call.file = some file → file.1 ∈ x.2.attempted
  once : ∀ l e k, x.1 = l ++ e :: k → ∀ file, e.call.file = some file → ∀ e' ∈ k, e'.call.file ≠ some file
  forward : (clocks x.1).Pairwise (· ≥ ·)
  latest : (clocks x.1).head? = x.2.lastClock
  paired : ∀ observationId bytes, x.2.disk (observationId, .completed) = some bytes →
    ∃ record acknowledgedAt, x.2.disk (observationId, .started) = some record ∧
      bytes <+: c.canonicalJsonBytes (witnessOf c observationId record acknowledgedAt) ∧
      Recorded observationId record acknowledgedAt x.1
  stamped : ∀ l observationId bytes o k, x.1 = l ++ ⟨.write observationId .completed bytes, o⟩ :: k →
    ∃ record acknowledgedAt, bytes = c.canonicalJsonBytes (witnessOf c observationId record acknowledgedAt) ∧
      Recorded observationId record acknowledgedAt k ∧ (clocks k).head? = some acknowledgedAt

/-- What a call of `create_only` for an observation may do to a session: an observation that was
attempted before it, and every other one, stays as it is. -/
structure Visit (observationId : String) (x x' : CaptureHistory × Sink) : Prop where
  sound : Sound c x'
  frame : ∀ file : String × Slot, file.1 ≠ observationId ∨ observationId ∈ x.2.attempted →
    x'.2.disk file = x.2.disk file
  attempted : x.2.attempted ⊆ x'.2.attempted

variable {c} {h k : CaptureHistory} {s : Sink} {e : CaptureEvent} {observationId : String}
  {record bytes : Bytes} {acknowledgedAt : ℕ} {x x' : CaptureHistory × Sink}

theorem Recorded.cons (recorded : Recorded observationId record acknowledgedAt h) :
    Recorded observationId record acknowledgedAt (e :: h) := by
  obtain ⟨newer, older, before, rfl, clock, le⟩ := recorded
  exact ⟨e :: newer, older, before, rfl, clock, le⟩

theorem clocks_cons (quiet : accepted e = none) : clocks (e :: h) = clocks h :=
  List.filterMap_cons_none quiet

/-- An event that accepts no clock value, and writes no file that was written before. -/
theorem Sound.event (sound : Sound c (h, s)) (quiet : accepted e = none)
    (file : ∀ file, e.call.file = some file → file.1 ∈ s.attempted ∧ ∀ e' ∈ h, e'.call.file ≠ some file)
    (stamp : ∀ observationId bytes, e.call = .write observationId .completed bytes →
      ∃ record acknowledgedAt, bytes = c.canonicalJsonBytes (witnessOf c observationId record acknowledgedAt) ∧
        Recorded observationId record acknowledgedAt h ∧ (clocks h).head? = some acknowledgedAt) :
    Sound c (e :: h, s) where
  known := sound.known
  listed e' mem target isTarget := by
    rcases List.mem_cons.1 mem with rfl | older
    · exact (file target isTarget).1
    · exact sound.listed e' older target isTarget
  once l e' k eq target isTarget := by
    rcases List.cons_eq_append_iff.1 eq with ⟨rfl, same⟩ | ⟨l', rfl, older⟩
    · obtain ⟨rfl, rfl⟩ := List.cons.inj same
      exact (file target isTarget).2
    · exact sound.once l' e' k older target isTarget
  forward := by
    rw [clocks_cons quiet]
    exact sound.forward
  latest := by
    rw [clocks_cons quiet]
    exact sound.latest
  paired observationId bytes found := by
    obtain ⟨record, acknowledgedAt, raw, part, recorded⟩ := sound.paired observationId bytes found
    exact ⟨record, acknowledgedAt, raw, part, recorded.cons⟩
  stamped l observationId bytes o k eq := by
    rcases List.cons_eq_append_iff.1 eq with ⟨rfl, same⟩ | ⟨l', rfl, older⟩
    · obtain ⟨rfl, rfl⟩ := List.cons.inj same
      exact stamp observationId bytes rfl
    · exact sound.stamped l' observationId bytes o k older

/-- A file of an observation that was attempted, which holds part of what is written to it. -/
theorem Sound.put (sound : Sound c (h, s)) {slot : Slot} (attempted : observationId ∈ s.attempted)
    (pair : match slot with
      | .started => s.disk (observationId, .completed) = none
      | .completed => ∃ record acknowledgedAt, s.disk (observationId, .started) = some record ∧
        bytes <+: c.canonicalJsonBytes (witnessOf c observationId record acknowledgedAt) ∧
        Recorded observationId record acknowledgedAt h) :
    Sound c (h, s.put (observationId, slot) bytes) where
  known file found := by
    by_cases same : file = (observationId, slot)
    · rw [same]
      exact attempted
    · rw [Sink.put_disk_other same] at found
      exact sound.known file found
  listed := sound.listed
  once := sound.once
  forward := sound.forward
  latest := sound.latest
  paired other content found := by
    by_cases same : other = observationId
    · subst same
      cases slot with
      | started =>
        rw [Sink.put_disk_other (by simp), pair] at found
        cases found
      | completed =>
        obtain ⟨record, acknowledgedAt, raw, part, recorded⟩ := pair
        rw [Sink.put_disk_self] at found
        cases found
        exact ⟨record, acknowledgedAt, by rw [Sink.put_disk_other (by simp), raw], part, recorded⟩
    · rw [Sink.put_disk_other (by simp [same])] at found ⊢
      exact sound.paired other content found
  stamped := sound.stamped

theorem Sound.attempt (sound : Sound c (h, s)) :
    Sound c (h, { s with attempted := s.attempted ++ [observationId] }) where
  known file found := List.mem_append_left _ (sound.known file found)
  listed e mem file isFile := List.mem_append_left _ (sound.listed e mem file isFile)
  once := sound.once
  forward := sound.forward
  latest := sound.latest
  paired := sound.paired
  stamped := sound.stamped

/-- A clock value that is not behind the last one. -/
theorem Sound.tick (sound : Sound c (h, s)) {value : ℕ} (after : ∀ earlier ∈ s.lastClock, earlier ≤ value) :
    Sound c (⟨.tick value, some (.ok ())⟩ :: h, { s with lastClock := some value }) where
  known := sound.known
  listed e' mem target isTarget := by
    rcases List.mem_cons.1 mem with rfl | older
    · cases isTarget
    · exact sound.listed e' older target isTarget
  once l e' k eq target isTarget := by
    rcases List.cons_eq_append_iff.1 eq with ⟨rfl, same⟩ | ⟨l', rfl, older⟩
    · obtain ⟨rfl, rfl⟩ := List.cons.inj same
      cases isTarget
    · exact sound.once l' e' k older target isTarget
  forward := by
    have latest := sound.latest
    have forward := sound.forward
    show (value :: clocks h).Pairwise (· ≥ ·)
    refine List.pairwise_cons.2 ⟨fun earlier mem => ?_, forward⟩
    cases all : clocks h with
    | nil =>
      rw [all] at mem
      cases mem
    | cons last rest =>
      rw [all] at mem forward latest
      have bound : last ≤ value := after last latest.symm
      rcases List.mem_cons.1 mem with rfl | older
      · exact bound
      · exact ((List.pairwise_cons.1 forward).1 earlier older).trans bound
  latest := rfl
  paired observationId bytes found := by
    obtain ⟨record, acknowledgedAt, raw, part, recorded⟩ := sound.paired observationId bytes found
    exact ⟨record, acknowledgedAt, raw, part, recorded.cons⟩
  stamped l observationId bytes o k eq := by
    rcases List.cons_eq_append_iff.1 eq with ⟨rfl, same⟩ | ⟨l', rfl, older⟩
    · have other := (List.cons.inj same).1
      cases other
    · exact sound.stamped l' observationId bytes o k older

end Invariant

section Visits

variable {c : Codec} {h : CaptureHistory} {s : Sink} {observationId : String} {record : Bytes}
  {x : CaptureHistory × Sink} {α β : Type}

/-- An event that neither writes nor accepts a clock value. -/
theorem Visit.quiet (visit : Visit c observationId x (h, s)) {e : CaptureEvent} (quiet : accepted e = none)
    (plain : e.call.file = none) : Visit c observationId x (e :: h, s) where
  sound := by
    apply visit.sound.event quiet
    · intro file isFile
      rw [plain] at isFile
      cases isFile
    · intro other bytes isWrite
      rw [isWrite] at plain
      cases plain
  frame := visit.frame
  attempted := visit.attempted

/-- A call that changes nothing. -/
theorem quiet_bind {call : CaptureCall} {f : call.Answer → Capturing β}
    {R : Except CaptureError β → CaptureHistory × Sink → Prop}
    (visit : Visit c observationId x (h, s)) (quiet : ∀ o, accepted ⟨call, o⟩ = none)
    (plain : call.file = none) (during : ∀ s', seenDuring s call s' → s' = s)
    (after : ∀ r s', leftAfter s call r s' → s' = s)
    (raised : ∀ e x', Visit c observationId x x' → R (.error e) x')
    (ok : ∀ a, leftAfter s call (.ok a) s →
      Upholds captureEffects.law (Visit c observationId x) R (f a) (⟨call, some (.ok a)⟩ :: h, s)) :
    Upholds captureEffects.law (Visit c observationId x) R (captures call >>= f) (h, s) := by
  apply Upholds.ask_bind visit
  · rintro ⟨h', s'⟩ ⟨same, seen⟩
    cases same
    cases during s' seen
    exact visit
  · rintro e ⟨h', s'⟩ ⟨same, m, seen, left⟩
    cases same
    cases during m seen
    cases after _ s' left
    have visited := visit.quiet (quiet (some (.error e))) plain
    exact ⟨visited, raised e _ visited⟩
  · rintro a ⟨h', s'⟩ ⟨same, m, seen, left⟩
    cases same
    cases during m seen
    cases after _ s' left
    exact ok a left

theorem validTime_ok {value : Option ℤ} {last : Option ℕ} {now : ℕ} (valid : validTime value last = .ok now) :
    ∀ earlier ∈ last, earlier ≤ now := by
  unfold validTime at valid
  split at valid
  · split at valid
    · rename_i value inRange
      cases valid
      intro earlier mem
      have le := inRange.2.2 earlier mem
      omega
    · cases valid
  · cases valid

/-- A time that is accepted is not behind the last one, and is the last one from then on. -/
theorem time_upholds (visit : Visit c observationId x (h, s)) :
    Upholds captureEffects.law (Visit c observationId x) (fun r x' => ∀ value, r = .ok value →
      ∃ newer, x' = (newer ++ h, { s with lastClock := some value }) ∧ (∀ e ∈ newer, e.call.file = none) ∧
        (clocks (newer ++ h)).head? = some value ∧ ∀ earlier ∈ s.lastClock, earlier ≤ value)
      time (h, s) := by
  unfold time
  apply quiet_bind visit (fun _ => rfl) rfl
  · exact fun _ seen => seen
  · exact fun _ _ left => left
  · rintro e x' - value eq
    cases eq
  intro read _
  have visit₁ := visit.quiet (e := ⟨.clock, some (.ok read)⟩) rfl rfl
  apply quiet_bind visit₁ (fun _ => rfl) rfl
  · exact fun _ seen => seen
  · exact fun _ _ left => left.1
  · rintro e x' - value eq
    cases eq
  rintro ⟨attempted, last⟩ known
  cases known.2 _ rfl
  have visit₂ := visit₁.quiet (e := ⟨.memory, some (.ok (s.attempted, s.lastClock))⟩) rfl rfl
  apply Upholds.lift_bind visit₂
  · intro value valid
    have after := validTime_ok valid
    have ticked : Visit c observationId x (⟨.tick value, some (.ok ())⟩ ::
        ⟨.memory, some (.ok (s.attempted, s.lastClock))⟩ :: ⟨.clock, some (.ok read)⟩ :: h,
        { s with lastClock := some value }) :=
      ⟨visit₂.sound.tick after, visit₂.frame, visit₂.attempted⟩
    apply Upholds.ask_bind visit₂
    · rintro ⟨h', s'⟩ ⟨same, seen⟩
      cases same
      cases seen
      exact visit₂
    · rintro e ⟨h', s'⟩ ⟨same, m, seen, left⟩
      cases same
      cases seen
      cases left
      refine ⟨visit₂.quiet rfl rfl, fun value' eq => ?_⟩
      cases eq
    · rintro ⟨⟩ ⟨h', s'⟩ ⟨same, m, seen, left⟩
      cases same
      cases seen
      cases left
      apply Upholds.pure ticked
      intro value' eq
      cases eq
      refine ⟨[⟨.tick value, some (.ok ())⟩, ⟨.memory, some (.ok (s.attempted, s.lastClock))⟩,
        ⟨.clock, some (.ok read)⟩], rfl, ?_, rfl, after⟩
      intro e mem
      simp only [List.mem_cons, List.not_mem_nil, or_false] at mem
      rcases mem with rfl | rfl | rfl <;> rfl
  · intro e _ value eq
    cases eq

/-- A file that is written first, as it may be, holds what was written to it. -/
theorem write_upholds {slot : Slot} (visit : Visit c observationId x (h, s))
    (new : observationId ∉ x.2.attempted) (attempted : observationId ∈ s.attempted)
    (free : ∀ e ∈ h, e.call.file ≠ some (observationId, slot))
    (pair : ∀ bytes, bytes <+: record → Sound c (h, s.put (observationId, slot) bytes))
    (stamp : slot = .completed → ∃ record' acknowledgedAt,
      record = c.canonicalJsonBytes (witnessOf c observationId record' acknowledgedAt) ∧
      Recorded observationId record' acknowledgedAt h ∧ (clocks h).head? = some acknowledgedAt) :
    Upholds captureEffects.law (Visit c observationId x) (fun r x' => r = .ok () →
      x' = (⟨.write observationId slot record, some (.ok true)⟩ :: h, s.put (observationId, slot) record))
      (write observationId slot record) (h, s) := by
  have apart : ∀ file : String × Slot, file.1 ≠ observationId ∨ observationId ∈ x.2.attempted →
      file ≠ (observationId, slot) := by
    rintro file (other | old) rfl
    · exact other rfl
    · exact new old
  have put : ∀ bytes, bytes <+: record → Visit c observationId x (h, s.put (observationId, slot) bytes) := by
    intro bytes part
    refine ⟨pair bytes part, fun file kept => ?_, visit.attempted⟩
    rw [Sink.put_disk_other (apart file kept)]
    exact visit.frame file kept
  have seen : ∀ s', seenDuring s (.write observationId slot record) s' →
      Visit c observationId x (h, s') ∧ s'.attempted = s.attempted := by
    rintro s' (rfl | ⟨bytes, part, -, rfl⟩)
    · exact ⟨visit, rfl⟩
    · exact ⟨put bytes part, rfl⟩
  have event : ∀ {s'} r, seenDuring s (.write observationId slot record) s' →
      Visit c observationId x (⟨.write observationId slot record, some r⟩ :: h, s') := by
    intro s' r during
    obtain ⟨visited, same⟩ := seen s' during
    refine ⟨visited.sound.event rfl ?_ ?_, visited.frame, visited.attempted⟩
    · rintro file isFile
      cases isFile
      exact ⟨same ▸ attempted, free⟩
    · rintro other bytes isWrite
      cases isWrite
      exact stamp rfl
  unfold write
  apply Upholds.ask_bind visit
  · rintro ⟨h', s'⟩ ⟨same, during⟩
    cases same
    exact (seen s' during).1
  · rintro e ⟨h', s'⟩ ⟨same, m, during, left⟩
    cases same
    exact ⟨event _ (seenDuring_trans during left), nofun⟩
  · rintro acknowledged ⟨h', s'⟩ ⟨same, m, seen', left⟩
    cases same
    have during : seenDuring s (.write observationId slot record) m := seen'
    cases acknowledged with
    | false => exact Upholds.lift (event _ (seenDuring_trans during left)) nofun
    | true =>
      obtain ⟨admits, rfl⟩ := left
      have written : seenDuring m (.write observationId slot record) (m.put (observationId, slot) record) :=
        .inr ⟨record, List.prefix_refl _, admits, rfl⟩
      have whole : m.put (observationId, slot) record = s.put (observationId, slot) record := by
        rcases during with rfl | ⟨bytes, -, -, rfl⟩
        · rfl
        · exact Sink.put_put
      have there : seenDuring s (.write observationId slot record) (m.put (observationId, slot) record) :=
        seenDuring_trans during written
      apply Upholds.lift (event _ there)
      intro _
      rw [whole]

/-- An observation that was not attempted: its two files are written once, one after the other. -/
theorem persist_upholds (visit : Visit c observationId x (h, s)) (new : observationId ∉ x.2.attempted)
    (unattempted : observationId ∉ s.attempted) :
    Upholds captureEffects.law (Visit c observationId x) (fun _ x' => Sound c x')
      (persist c observationId record) (h, s) := by
  have free : ∀ e ∈ h, ∀ slot, e.call.file ≠ some (observationId, slot) := by
    intro e mem slot isFile
    exact unattempted (visit.sound.listed e mem _ isFile)
  have empty : ∀ slot, s.disk (observationId, slot) = none := by
    intro slot
    by_contra found
    exact unattempted (visit.sound.known _ found)
  have attempt : Visit c observationId x (h, { s with attempted := s.attempted ++ [observationId] }) :=
    ⟨visit.sound.attempt, visit.frame, fun _ mem => List.mem_append_left _ (visit.attempted mem)⟩
  have visit₁ := attempt.quiet (e := ⟨.attempt observationId, some (.ok ())⟩) rfl rfl
  have mine : observationId ∈ s.attempted ++ [observationId] := by simp
  unfold persist
  apply Upholds.ask_bind visit
  · rintro ⟨h', s'⟩ ⟨same, seen⟩
    cases same
    cases seen
    exact visit
  · rintro e ⟨h', s'⟩ ⟨same, m, seen, left⟩
    cases same
    cases seen
    cases left
    have visited := visit.quiet (e := ⟨.attempt observationId, some (.error e)⟩) rfl rfl
    exact ⟨visited, visited.sound⟩
  rintro ⟨⟩ ⟨h', s'⟩ ⟨same, m, seen, left⟩
  cases same
  cases seen
  cases left
  apply Upholds.bind (time_upholds visit₁)
  · rintro before x₂ visit₂ spec
    obtain ⟨newer, rfl, plain, clock, -⟩ := spec before rfl
    have free₂ : ∀ slot, ∀ e ∈ newer ++ ⟨.attempt observationId, some (.ok ())⟩ :: h,
        e.call.file ≠ some (observationId, slot) := by
      intro slot e mem
      rcases List.mem_append.1 mem with mem | mem
      · rw [plain e mem]
        nofun
      · rcases List.mem_cons.1 mem with rfl | mem
        · nofun
        · exact free e mem slot
    apply Upholds.bind (write_upholds visit₂ new mine (free₂ .started)
      (fun bytes _ => visit₂.sound.put mine (empty .completed)) nofun)
    · rintro ⟨⟩ x₃ visit₃ spec₃
      cases spec₃ rfl
      apply Upholds.bind (time_upholds visit₃)
      · rintro acknowledgedAt x₄ visit₄ spec₄
        obtain ⟨newer', rfl, plain', clock', after⟩ := spec₄ acknowledgedAt rfl
        have recorded : Recorded observationId record acknowledgedAt
            (newer' ++ ⟨.write observationId .started record, some (.ok true)⟩ ::
              (newer ++ ⟨.attempt observationId, some (.ok ())⟩ :: h)) :=
          ⟨newer', _, before, rfl, clock, after before rfl⟩
        have free₄ : ∀ e ∈ newer' ++ ⟨.write observationId .started record, some (.ok true)⟩ ::
            (newer ++ ⟨.attempt observationId, some (.ok ())⟩ :: h),
            e.call.file ≠ some (observationId, .completed) := by
          intro e mem
          rcases List.mem_append.1 mem with mem | mem
          · rw [plain' e mem]
            nofun
          · rcases List.mem_cons.1 mem with rfl | mem
            · nofun
            · exact free₂ .completed e mem
        apply Upholds.bind (write_upholds visit₄ new mine free₄
          (fun bytes part => visit₄.sound.put mine
            ⟨record, acknowledgedAt, Sink.put_disk_self, part, recorded⟩)
          fun _ => ⟨record, acknowledgedAt, rfl, recorded, clock'⟩)
        · rintro ⟨⟩ x₅ visit₅ spec₅
          cases spec₅ rfl
          apply quiet_bind visit₅ (fun _ => rfl) rfl
          · exact fun _ seen => seen
          · exact fun _ _ left => left.1
          · exact fun _ _ visited => visited.sound
          intro found _
          have visit₆ := visit₅.quiet (e := ⟨.look observationId, some (.ok found)⟩) rfl rfl
          apply Upholds.lift_bind visit₆
          · intro retained _
            exact Upholds.lift visit₆ visit₆.sound
          · intro e _
            exact visit₆.sound
        · exact fun e x' visited _ => visited.sound
      · exact fun e x' visited _ => visited.sound
    · exact fun e x' visited _ => visited.sound
  · exact fun e x' visited _ => visited.sound

/-- A call of `create_only` visits the session, and leaves it sound. -/
theorem createOnly_upholds (sound : Sound c x) :
    Upholds captureEffects.law (Visit c observationId x) (fun _ x' => Sound c x')
      (createOnly c observationId record) x := by
  obtain ⟨h, s⟩ := x
  have start : Visit c observationId (h, s) (h, s) := ⟨sound, fun _ _ => rfl, List.Subset.refl _⟩
  unfold createOnly
  apply Upholds.lift_bind start _ fun _ _ => sound
  rintro ⟨⟩ -
  apply Upholds.lift_bind start _ fun _ _ => sound
  rintro ⟨⟩ -
  apply quiet_bind start (fun _ => rfl) rfl
  · exact fun _ seen => seen
  · exact fun _ _ left => left.1
  · exact fun _ _ visited => visited.sound
  intro found _
  have visit₁ := start.quiet (e := ⟨.look observationId, some (.ok found)⟩) rfl rfl
  dsimp only
  split
  · exact Upholds.lift visit₁ visit₁.sound
  · apply quiet_bind visit₁ (fun _ => rfl) rfl
    · exact fun _ seen => seen
    · exact fun _ _ left => left.1
    · exact fun _ _ visited => visited.sound
    rintro ⟨attempted, last⟩ known
    cases known.2 _ rfl
    have visit₂ := visit₁.quiet (e := ⟨.memory, some (.ok (s.attempted, s.lastClock))⟩) rfl rfl
    apply Upholds.lift_bind visit₂ _ fun _ _ => visit₂.sound
    rintro ⟨⟩ fresh
    rw [refuse_eq_ok, decide_eq_false_iff_not] at fresh
    apply Upholds.lift_bind visit₂ _ fun _ _ => visit₂.sound
    rintro ⟨⟩ -
    exact persist_upholds visit₂ fresh fresh
  · exact Upholds.raise visit₁ visit₁.sound

end Visits

section Session

variable (c : Codec)

/-- A record that is submitted under an observation id. -/
def submit (submitted : String × Bytes) : Capturing Unit := createOnly c submitted.1 submitted.2

abbrev CaptureMoment := Moment capturing CaptureError Sink (String × Bytes) Unit

/-- Calls of `create_only` under the lock, from one moment to another. -/
abbrev CaptureSession : CaptureMoment → CaptureMoment → Prop := Session captureEffects (submit c)

/-- A new session. -/
def newSession : CaptureMoment := ⟨([], {}), none⟩

/-- The two files of an observation. -/
def Sink.files (s : Sink) (observationId : String) : Found :=
  (s.disk (observationId, .started), s.disk (observationId, .completed))

/-- What holds of a session from one moment to a later one. A file is written in one call, and only
grows while it is; between two calls an observation that was attempted has the files that it has
ever after. A reader that finds the record first and the witness later, and accepts them, has a
record that was written whole, and its one witness. The clocks of the witnesses do not go back, and
none is behind the clock before its record was written. -/
structure CaptureKept (m m' : CaptureMoment) : Prop where
  grows : ∀ file content, m.at_.2.disk file = some content →
    ∃ content', m'.at_.2.disk file = some content' ∧ content <+: content'
  once : ∀ l e k, m'.at_.1 = l ++ e :: k → ∀ file, e.call.file = some file →
    ∀ e' ∈ k, e'.call.file ≠ some file
  frozen : m.inside = none → ∀ observationId ∈ m.at_.2.attempted,
    m'.at_.2.files observationId = m.at_.2.files observationId
  attempted : ∀ observationId, m.at_.2.files observationId ≠ (none, none) →
    observationId ∈ m.at_.2.attempted
  reads : ∀ observationId stored,
    read c observationId (m.at_.2.disk (observationId, .started), m'.at_.2.disk (observationId, .completed)) =
      .ok stored →
    m'.at_.2.files observationId = (some stored.record, some (c.canonicalJsonBytes stored.witness)) ∧
    stored.witness = witnessOf c observationId stored.record stored.witness.acknowledgedAtMs ∧
    Recorded observationId stored.record stored.witness.acknowledgedAtMs m'.at_.1
  ordered : ∀ l e' k observationId observationId' w w', m'.at_.1 = l ++ e' :: k →
    e'.call = .write observationId' .completed (c.canonicalJsonBytes w') →
    (∃ e ∈ k, e.call = .write observationId .completed (c.canonicalJsonBytes w)) →
    w.acknowledgedAtMs ≤ w'.acknowledgedAtMs
  stamped : ∀ l observationId bytes o k, m'.at_.1 = l ++ ⟨.write observationId .completed bytes, o⟩ :: k →
    ∃ record acknowledgedAt, bytes = c.canonicalJsonBytes (witnessOf c observationId record acknowledgedAt) ∧
      Recorded observationId record acknowledgedAt k
  replays : m'.inside = none → ∀ observationId stored,
    read c observationId (m'.at_.2.files observationId) = .ok stored → ∀ record own o x,
    Runs (createOnly c observationId record) [] own o → Follows captureEffects.law m'.at_ own x →
    x.2 = m'.at_.2 ∧ (∀ e ∈ own, e.call = .look observationId) ∧ ∀ r, o = some r →
      (record = stored.record → r = .ok () ∨ ∃ e, own = [⟨.look observationId, some (.error e)⟩]) ∧
      (record ≠ stored.record → ∃ e, r = .error e)

variable {c} {m m' : CaptureMoment} {x x' : CaptureHistory × Sink}

theorem sound_newSession : Sound c newSession.at_ where
  known _ found := absurd rfl found
  listed _ mem := by cases mem
  once l e k eq := by
    have none : l ++ e :: k = [] := eq.symm
    simp at none
  forward := List.Pairwise.nil
  latest := rfl
  paired _ _ found := by cases found
  stamped l observationId bytes o k eq := by
    have none : l ++ ⟨.write observationId .completed bytes, o⟩ :: k = [] := eq.symm
    simp at none

/-- What was attempted stays, with its files. -/
def Frozen (x x' : CaptureHistory × Sink) : Prop :=
  x.2.attempted ⊆ x'.2.attempted ∧ ∀ file : String × Slot, file.1 ∈ x.2.attempted →
    x'.2.disk file = x.2.disk file

theorem Visit.frozen {observationId : String} (visit : Visit c observationId x x') : Frozen x x' := by
  refine ⟨visit.attempted, fun file attempted => visit.frame file ?_⟩
  by_cases same : file.1 = observationId
  · exact .inr (same ▸ attempted)
  · exact .inl same

theorem Frozen.trans {x'' : CaptureHistory × Sink} (first : Frozen x x') (second : Frozen x' x'') :
    Frozen x x'' :=
  ⟨fun _ mem => second.1 (first.1 mem), fun file attempted =>
    (second.2 file (first.1 attempted)).trans (first.2 file attempted)⟩

/-- A session that starts between two calls is sound, and what was attempted before it is frozen. -/
theorem CaptureSession.sound (session : CaptureSession c ⟨x, none⟩ m) (start : Sound c x) :
    Sound c m.at_ ∧ Frozen x m.at_ := by
  have bodies : ∀ (i : String × Bytes) (y : CaptureHistory × Sink), Sound c y →
      Upholds captureEffects.law (Visit c i.1 y) (fun _ => Sound c) (submit c i) y := by
    intro i y sound
    exact createOnly_upholds sound
  obtain ⟨y, chain, sound, within⟩ := Session.sections bodies session start
  have frozen : Frozen x y := by
    clear within sound session
    induction chain with
    | refl => exact ⟨fun _ mem => mem, fun _ _ => rfl⟩
    | tail _ moved ih =>
      obtain ⟨⟨i, visit⟩, -⟩ := moved
      exact ih.trans visit.frozen
  obtain ⟨at_, inside⟩ := m
  cases inside with
  | none =>
    cases within
    exact ⟨sound, frozen⟩
  | some section' =>
    obtain ⟨i, program⟩ := section'
    obtain ⟨visit, -⟩ := within
    exact ⟨visit.sound, frozen.trans visit.frozen⟩

/-- Every file that is there stays, and only grows. -/
def Sink.Grows (s s' : Sink) : Prop :=
  ∀ file content, s.disk file = some content → ∃ content', s'.disk file = some content' ∧ content <+: content'

theorem Sink.Grows.refl (s : Sink) : s.Grows s := fun _ content found => ⟨content, found, List.prefix_refl _⟩

theorem Sink.Grows.trans {s s' s'' : Sink} (first : s.Grows s') (second : s'.Grows s'') : s.Grows s'' := by
  intro file content found
  obtain ⟨content', found', part⟩ := first file content found
  obtain ⟨content'', found'', part'⟩ := second file content' found'
  exact ⟨content'', found'', part.trans part'⟩

theorem Sink.grows_put {s : Sink} {file : String × Slot} {bytes : Bytes} (admits : s.Admits file bytes) :
    s.Grows (s.put file bytes) := by
  intro other content found
  by_cases same : other = file
  · subst same
    exact ⟨bytes, Sink.put_disk_self, admits content found⟩
  · exact ⟨content, by rw [Sink.put_disk_other same, found], List.prefix_refl _⟩

theorem seenDuring_grows {s s' : Sink} {call : CaptureCall} (seen : seenDuring s call s') : s.Grows s' := by
  cases call with
  | write observationId slot record =>
    rcases seen with rfl | ⟨bytes, -, admits, rfl⟩
    · exact .refl _
    · exact Sink.grows_put admits
  | _ =>
    cases seen
    exact .refl _

theorem leftAfter_grows {s s' : Sink} {call : CaptureCall} {r : Except CaptureError call.Answer}
    (left : leftAfter s call r s') : s.Grows s' := by
  cases call with
  | write observationId slot record =>
    match r with
    | .ok true =>
      obtain ⟨admits, rfl⟩ := left
      exact Sink.grows_put admits
    | .ok false =>
      have seen : seenDuring s (.write observationId slot record) s' := left
      exact seenDuring_grows seen
    | .error e =>
      have seen : seenDuring s (.write observationId slot record) s' := left
      exact seenDuring_grows seen
  | look =>
    cases left.1
    exact .refl _
  | memory =>
    cases left.1
    exact .refl _
  | clock =>
    cases left
    exact .refl _
  | attempt => cases r <;> cases left <;> exact Sink.Grows.refl s
  | tick => cases r <;> cases left <;> exact Sink.Grows.refl s

theorem CaptureSession.grows (session : CaptureSession c m m') : m.at_.2.Grows m'.at_.2 := by
  induction session with
  | refl => exact .refl _
  | tail _ moved ih =>
    apply ih.trans
    cases moved with
    | enter => exact .refl _
    | during seen => exact seenDuring_grows seen
    | answered left => exact leftAfter_grows left
    | leave => exact .refl _

end Session

section Reads

variable {c : Codec} {observationId : String} {stored : StoredObservation} {record : Bytes}

theorem readFile_ok {data result : Bytes} {maximum : ℕ} (h : readFile data maximum = .ok result) :
    result = data ∧ data ≠ [] ∧ data.length ≤ maximum := by
  obtain ⟨_, bounded, h⟩ := bind_eq_ok.1 h
  cases h
  rw [refuse_eq_ok, decide_eq_false_iff_not, not_or, not_lt] at bounded
  exact ⟨rfl, bounded⟩

/-- A pair that is accepted: its witness is of its record. -/
theorem readPair_ok {raw witnessRaw : Bytes} (h : readPair c observationId raw witnessRaw = .ok stored) :
    stored.record = raw ∧ (raw ≠ [] ∧ raw.length ≤ maxRecordBytes) ∧
      witnessRaw = c.canonicalJsonBytes stored.witness ∧
      stored.witness = witnessOf c observationId raw stored.witness.acknowledgedAtMs := by
  unfold readPair at h
  obtain ⟨raw', bounded, h₁⟩ := bind_eq_ok.1 h
  obtain ⟨witnessRaw', bounded', h₂⟩ := bind_eq_ok.1 h₁
  obtain ⟨same, inBounds⟩ := readFile_ok bounded
  obtain ⟨same', -⟩ := readFile_ok bounded'
  subst same same'
  cases valid : c.validateJson witnessRaw' with
  | none =>
    rw [valid] at h₂
    cases h₂
  | some witness =>
    rw [valid] at h₂
    obtain ⟨_, binds, h₃⟩ := bind_eq_ok.1 h₂
    cases h₃
    simp only [refuse_eq_ok, decide_eq_false_iff_not, not_or, not_not] at binds
    obtain ⟨canonical, identity, length, digest⟩ := binds
    refine ⟨rfl, inBounds, canonical.symm, ?_⟩
    cases witness
    simp only [witnessOf, Witness.mk.injEq] at identity length digest ⊢
    exact ⟨identity, digest, length, trivial⟩

theorem read_ok {found : Found} (h : read c observationId found = .ok stored) :
    isIdentifier observationId = true ∧ found = (some stored.record,
      some (c.canonicalJsonBytes stored.witness)) ∧
      (stored.record ≠ [] ∧ stored.record.length ≤ maxRecordBytes) ∧
      stored.witness = witnessOf c observationId stored.record stored.witness.acknowledgedAtMs := by
  obtain ⟨_, identity, h⟩ := bind_eq_ok.1 h
  rw [refuse_eq_ok, Bool.not_eq_false'] at identity
  obtain ⟨raw, witnessRaw⟩ := found
  cases raw with
  | none => cases witnessRaw <;> cases h
  | some raw =>
    cases witnessRaw with
    | none => cases h
    | some witnessRaw =>
      obtain ⟨rfl, bounds, rfl, witness⟩ := readPair_ok h
      exact ⟨identity, rfl, bounds, witness⟩

end Reads

section Replays

variable {c : Codec} {observationId : String} {stored : StoredObservation} {record : Bytes} {s : Sink}

/-- The looks at an observation were answered with these files. -/
def Answers (observationId : String) (found : Found) (own : CaptureHistory) : Prop :=
  ∀ e ∈ own, ∀ found', e = ⟨.look observationId, some (.ok found')⟩ → found' = found

/-- What is submitted for an observation that can be read back: nothing but a look at it, which
accepts its very record. -/
def Replayed (observationId : String) (stored : StoredObservation) (record : Bytes)
    (r : Except CaptureError Unit) (own : CaptureHistory) : Prop :=
  (record = stored.record → r = .ok () ∨ ∃ e, own = [⟨.look observationId, some (.error e)⟩]) ∧
    (record ≠ stored.record → ∃ e, r = .error e)

/-- Where nothing is owed and nothing promised from here on. -/
theorem safe_of_free {α : Type} {duty : CaptureHistory → CaptureCall → Prop}
    {post : Except CaptureError α → CaptureHistory → Prop} {p : Capturing α} {own : CaptureHistory}
    (free : ∀ newer call, duty (newer ++ own) call) (holds : ∀ newer r, post r (newer ++ own)) :
    Safe duty post p own := by
  induction p generalizing own with
  | done r => exact holds [] r
  | call call next ih =>
    refine ⟨free [] call, fun r => ih r ?_ ?_⟩
    · intro newer call'
      rw [List.append_cons]
      exact free _ call'
    · intro newer r'
      rw [List.append_cons]
      exact holds _ r'

theorem createOnly_replays {found : Found} (reads : read c observationId found = .ok stored) :
    Safe (fun own call => Answers observationId found own → call = .look observationId)
      (fun r own => Answers observationId found own → Replayed observationId stored record r own)
      (createOnly c observationId record) [] := by
  obtain ⟨identity, -, bounds, -⟩ := read_ok reads
  unfold createOnly
  apply Safe.lift_bind
  · rintro ⟨⟩ -
    apply Safe.lift_bind
    · rintro ⟨⟩ -
      apply Safe.ask_bind (fun _ => rfl)
      · intro found'
        by_cases same : found' = found
        · subst same
          rw [reads]
          intro _
          refine ⟨fun eq => .inl ?_, fun other =>
            ⟨.conflict "native observation ID already names different original bytes", ?_⟩⟩
          · simp [refuse, eq]
          · simp [refuse, Ne.symm other]
        · have wrong : ∀ newer, ¬Answers observationId found
              (newer ++ [⟨.look observationId, some (.ok found')⟩]) := by
            intro newer answers
            exact same (answers _ (by simp) found' rfl)
          exact safe_of_free (fun newer _ answers => absurd answers (wrong newer))
            fun newer _ answers => absurd answers (wrong newer)
      · exact fun e _ => ⟨fun _ => .inr ⟨e, rfl⟩, fun _ => ⟨e, rfl⟩⟩
    · rintro e refused -
      refine ⟨fun eq => ?_, fun _ => ⟨e, rfl⟩⟩
      have fine : refuse (record = [] ∨ maxRecordBytes < record.length)
          (.persistence "bounded immutable original native observation bytes are required") = .ok () := by
        rw [refuse_eq_ok, decide_eq_false_iff_not, not_or, not_lt, eq]
        exact bounds
      rw [fine] at refused
      cases refused
  · rintro e refused -
    rw [identity] at refused
    cases refused

/-- Looks leave the session as it is, and are answered with its files. -/
theorem looks_stay {own : CaptureHistory} {h : CaptureHistory} {x : CaptureHistory × Sink}
    (looks : Dutiful (fun own call => Answers observationId (s.files observationId) own →
      call = .look observationId) own)
    (f : Follows captureEffects.law (h, s) own x) :
    x.2 = s ∧ (∀ e ∈ own, e.call = .look observationId) ∧ Answers observationId (s.files observationId) own := by
  induction own generalizing x with
  | nil =>
    cases f
    exact ⟨rfl, by simp, by simp [Answers]⟩
  | cons e own ih =>
    cases f with
    | next before moved =>
      obtain ⟨duty, looks⟩ := looks
      obtain ⟨same, all, answers⟩ := ih looks before
      have look := duty answers
      obtain ⟨call, outcome⟩ := e
      cases look
      have stays : x.2 = s ∧ ∀ found, outcome = some (.ok found) → found = s.files observationId := by
        cases outcome with
        | none =>
          obtain ⟨-, seen⟩ := moved
          exact ⟨seen.trans same, nofun⟩
        | some r =>
          obtain ⟨-, m, seen, left⟩ := moved
          obtain ⟨left, answered⟩ := left
          cases seen
          refine ⟨left.trans same, fun found eq => ?_⟩
          rw [← same]
          exact answered found (Option.some.inj eq)
      refine ⟨stays.1, ?_, ?_⟩
      · intro e mem
        rcases List.mem_cons.1 mem with rfl | mem
        · rfl
        · exact all e mem
      · intro e mem found eq
        rcases List.mem_cons.1 mem with rfl | mem
        · cases eq
          exact stays.2 found rfl
        · exact answers e mem found eq

end Replays

section Kept

variable {c : Codec} {x x' : CaptureHistory × Sink} {observationId : String}

theorem Sound.attempted_of_found (sound : Sound c x) (found : x.2.files observationId ≠ (none, none)) :
    observationId ∈ x.2.attempted := by
  by_contra unattempted
  have empty : ∀ slot, x.2.disk (observationId, slot) = none := by
    intro slot
    by_contra found
    exact unattempted (sound.known _ found)
  exact found (by rw [Sink.files, empty, empty])

/-- The record was found first and the witness later. -/
theorem Sound.read_whole (closed : c.Sealed) (sound : Sound c x') (grows : x.2.Grows x'.2)
    {stored : StoredObservation}
    (reads : read c observationId (x.2.disk (observationId, .started), x'.2.disk (observationId, .completed)) =
      .ok stored) :
    x'.2.files observationId = (some stored.record, some (c.canonicalJsonBytes stored.witness)) ∧
    stored.witness = witnessOf c observationId stored.record stored.witness.acknowledgedAtMs ∧
    Recorded observationId stored.record stored.witness.acknowledgedAtMs x'.1 := by
  obtain ⟨-, found, -, witness⟩ := read_ok reads
  rw [Prod.mk.injEq] at found
  obtain ⟨raw, whole⟩ := found
  obtain ⟨record, acknowledgedAt, there, part, recorded⟩ := sound.paired observationId _ whole
  have same := closed _ _ part
  obtain ⟨content, there', grown⟩ := grows _ _ raw
  cases there.symm.trans there'
  have length : stored.record.length = record.length := by
    have first := congrArg Witness.recordBytes witness
    have second := congrArg Witness.recordBytes same
    exact first.symm.trans second
  -- what was found is the beginning of the record, and as long
  have whole' : stored.record = record := grown.eq_of_length length
  have clock : stored.witness.acknowledgedAtMs = acknowledgedAt := congrArg Witness.acknowledgedAtMs same
  subst whole' clock
  exact ⟨by rw [Sink.files, there, whole], witness, recorded⟩

/-- A witness that is written has the clock that was accepted last. -/
theorem Sound.clock (closed : c.Sealed) (sound : Sound c x) {l k : CaptureHistory} {e : CaptureEvent}
    {w : Witness} (eq : x.1 = l ++ e :: k)
    (call : e.call = .write observationId .completed (c.canonicalJsonBytes w)) :
    (clocks k).head? = some w.acknowledgedAtMs := by
  obtain ⟨_, o⟩ := e
  obtain rfl := call
  obtain ⟨record, acknowledgedAt, bytes, -, clock⟩ := sound.stamped _ _ _ _ _ eq
  have same : w = witnessOf c observationId record acknowledgedAt :=
    closed w _ ⟨[], by rw [List.append_nil, bytes]⟩
  rw [same]
  exact clock

theorem Sound.ordered (closed : c.Sealed) (sound : Sound c x) {l k : CaptureHistory}
    {e e' : CaptureEvent} {observationId' : String} {w w' : Witness} (eq : x.1 = l ++ e' :: k)
    (isLast : e'.call = .write observationId' .completed (c.canonicalJsonBytes w')) (mem : e ∈ k)
    (isFirst : e.call = .write observationId .completed (c.canonicalJsonBytes w)) :
    w.acknowledgedAtMs ≤ w'.acknowledgedAtMs := by
  have last := sound.clock closed eq isLast
  obtain ⟨l', k', rfl⟩ := List.append_of_mem mem
  have place : x.1 = (l ++ e' :: l') ++ e :: k' := by
    rw [eq]
    simp
  have first := sound.clock closed place isFirst
  have forward := sound.forward
  rw [eq, List.append_cons, clocks, List.filterMap_append] at forward
  have ordered := (List.pairwise_append.1 forward).2.1
  have earlier : w.acknowledgedAtMs ∈ clocks (l' ++ e :: k') := by
    rw [clocks, List.append_cons, List.filterMap_append]
    exact List.mem_append_right _ (List.mem_of_mem_head? first)
  obtain ⟨rest, split⟩ := List.head?_eq_some_iff.1 last
  change (clocks (l' ++ e :: k')).Pairwise (· ≥ ·) at ordered
  rw [split] at ordered earlier
  rcases List.mem_cons.1 earlier with same | older
  · exact same.le
  · exact (List.pairwise_cons.1 ordered).1 _ older

end Kept

/-- The store of native observations, over every session and at every two moments of it. -/
theorem capture_store {c : Codec} (closed : c.Sealed) {m m' : CaptureMoment}
    (session : CaptureSession c newSession m) (later : CaptureSession c m m') : CaptureKept c m m' := by
  have sound : Sound c m.at_ := (CaptureSession.sound session sound_newSession).1
  have sound' : Sound c m'.at_ := (CaptureSession.sound (session.trans later) sound_newSession).1
  have grows : m.at_.2.Grows m'.at_.2 := CaptureSession.grows later
  refine {
    grows := grows
    once := sound'.once
    frozen := fun rest observationId attempted => ?_
    attempted := fun observationId found => sound.attempted_of_found found
    reads := fun observationId stored reads => sound'.read_whole closed grows reads
    ordered := fun l e' k observationId observationId' w w' eq isLast ⟨e, mem, isFirst⟩ =>
      sound'.ordered closed eq isLast mem isFirst
    stamped := fun l observationId bytes o k eq => ?_
    replays := fun rest observationId stored reads record own o x run f => ?_ }
  · obtain ⟨x, inside⟩ := m
    cases rest
    have frozen := (CaptureSession.sound later sound).2
    simp only [Sink.files]
    rw [frozen.2 _ attempted, frozen.2 _ attempted]
  · obtain ⟨record, acknowledgedAt, bytes', recorded, -⟩ := sound'.stamped l observationId bytes o k eq
    exact ⟨record, acknowledgedAt, bytes', recorded⟩
  · obtain ⟨dutiful, ended⟩ := (createOnly_replays reads).sound run trivial
    obtain ⟨stays, all, answers⟩ := looks_stay (s := m'.at_.2) (h := m'.at_.1) dutiful f
    exact ⟨stays, all, fun r eq => ended r eq answers⟩

section Samples

theorem quote_cancel {s s' : String} {text text' : List Char}
    (h : Json.quote s ++ text = Json.quote s' ++ text') : s = s' ∧ text = text' := by
  have split : ∀ (s : String) text, Json.quote s ++ text =
      '"' :: (s.toList.flatMap Json.escapeChar ++ '"' :: text) := by
    intro s text
    simp [Json.quote]
  rw [split, split] at h
  have read := congrArg Json.string (List.cons.inj h).2
  rw [Json.string_quote, Json.string_quote] at read
  have same := Option.some.inj read
  have points := congrArg (fun r => Json.ofPoints r.1) same
  simp only [Json.ofPoints_points, Option.some.injEq] at points
  exact ⟨points, congrArg Prod.snd same⟩

theorem intText_cancel {n n' : ℤ} {text text' : List Char}
    (h : Json.intText n ++ ',' :: text = Json.intText n' ++ ',' :: text') : n = n' ∧ text = text' := by
  have ends : ∀ text, Json.Ends (',' :: text) := fun text => Json.ends_cons text (by simp)
  have read := congrArg Json.literal h
  rw [Json.literal_intText (ends text), Json.literal_intText (ends text')] at read
  have same := Option.some.inj read
  have values := congrArg (fun r => Json.intValue r.1) same
  have rest := congrArg Prod.snd same
  simp only [Json.intValue_intLiteral] at values
  exact ⟨values, (List.cons.inj rest).2⟩

/-- The canonical JSON text of a witness. -/
def witnessText (w : Witness) : List Char :=
  "\x7b\"acknowledged_at_ms\":".toList ++ (Json.intText w.acknowledgedAtMs ++ ',' ::
    ("\"observation_id\":".toList ++ (Json.quote w.observationId ++
    (",\"purpose\":\"LOCAL_RECORD_FSYNC_ACK_ONLY\",\"record_bytes\":".toList ++
    (Json.intText w.recordBytes ++ ',' :: ("\"record_sha256\":".toList ++ (Json.quote w.recordSha256 ++
    (",\"storage_layout\":\"OPAQUE_STARTED_RAW_COMPLETED_NATIVE_WITNESS\",\"version\":" ++
      "\"kairos.native-capture-persistence-witness.v1\"\x7d").toList)))))))

theorem witnessText_closed {w w' : Witness} {rest : List Char} (h : witnessText w ++ rest = witnessText w') :
    w = w' := by
  unfold witnessText at h
  simp only [List.append_assoc, List.cons_append] at h
  obtain ⟨acknowledgedAt, h⟩ := intText_cancel (List.append_cancel_left h)
  obtain ⟨observationId, h⟩ := quote_cancel (List.append_cancel_left h)
  obtain ⟨recordBytes, h⟩ := intText_cancel (List.append_cancel_left h)
  obtain ⟨recordSha256, -⟩ := quote_cancel (List.append_cancel_left h)
  cases w
  cases w'
  simp only [Nat.cast_inj] at acknowledgedAt recordBytes observationId recordSha256
  rw [acknowledgedAt, observationId, recordBytes, recordSha256]

/-- A text of ASCII characters, each in a byte. -/
def ascii (text : List Char) : Bytes := text.map fun c => c.toNat.toUInt8

theorem ascii_prefix {text text' : List Char} (plain : ∀ c ∈ text, c.toNat < 256)
    (plain' : ∀ c ∈ text', c.toNat < 256) (h : ascii text <+: ascii text') : text <+: text' := by
  have back : ∀ {text : List Char}, (∀ c ∈ text, c.toNat < 256) →
      (ascii text).map (fun b => Char.ofNat b.toNat) = text := by
    intro text plain
    rw [ascii, List.map_map]
    conv_rhs => rw [← List.map_id text]
    apply List.map_congr_left
    intro c mem
    have small := plain c mem
    show Char.ofNat (c.toNat.toUInt8).toNat = c
    rw [Nat.toUInt8_eq, UInt8.toNat_ofNat', Nat.mod_eq_of_lt small, Char.ofNat_toNat]
  have mapped := h.map fun b => Char.ofNat b.toNat
  rwa [back plain, back plain'] at mapped

theorem hexDigit_plain (n : ℕ) : (Json.hexDigit n).toNat < 256 := by
  unfold Json.hexDigit
  by_cases lt : n < 16
  · have all : ∀ m : Fin 16, ("0123456789abcdef".toList.getD m '0').toNat < 256 := by decide +kernel
    exact all ⟨n, lt⟩
  · rw [List.getD_eq_default _ _ (by simpa using not_lt.1 lt)]
    decide

theorem escapeChar_plain (c : Char) : ∀ d ∈ Json.escapeChar c, d.toNat < 256 := by
  have shorts : ∀ entry ∈ Json.shortEscapes, entry.2.toNat < 256 := by decide +kernel
  intro d mem
  unfold Json.escapeChar at mem
  split at mem
  · rename_i short found
    obtain ⟨l, k, eq, -⟩ := List.lookup_eq_some_iff.1 found
    rcases List.mem_cons.1 mem with rfl | mem
    · decide
    · rw [List.mem_singleton.1 mem]
      exact shorts (c.toNat, short) (by rw [eq]; simp)
  · split at mem
    · cases List.mem_singleton.1 mem
      omega
    · obtain ⟨n, -, mem⟩ := List.mem_flatMap.1 mem
      unfold Json.unicodeEscape at mem
      simp only [List.mem_cons, List.not_mem_nil, or_false] at mem
      rcases mem with rfl | rfl | rfl | rfl | rfl | rfl
      · decide
      · decide
      · exact hexDigit_plain _
      · exact hexDigit_plain _
      · exact hexDigit_plain _
      · exact hexDigit_plain _

theorem quote_plain (s : String) : ∀ c ∈ Json.quote s, c.toNat < 256 := by
  intro c mem
  unfold Json.quote at mem
  simp only [List.cons_append, List.mem_cons, List.mem_append, List.not_mem_nil, or_false] at mem
  rcases mem with rfl | mem | rfl
  · decide
  · obtain ⟨d, -, mem⟩ := List.mem_flatMap.1 mem
    exact escapeChar_plain d c mem
  · decide

theorem intText_plain (n : ℕ) : ∀ c ∈ Json.intText n, c.toNat < 256 := by
  intro c mem
  unfold Json.intText at mem
  rw [if_neg (by omega), List.nil_append] at mem
  have digit := isDigit_of_mem_toDigits mem
  simp only [Char.isDigit, Bool.and_eq_true, decide_eq_true_eq] at digit
  have le : c.val ≤ 57 := digit.2
  have small : c.toNat ≤ 57 := by exact_mod_cast UInt32.le_iff_toNat_le.1 le
  omega

theorem constant_plain {text : String} (plain : (text.toList.all fun c => c.toNat < 256) = true) :
    ∀ c ∈ text.toList, c.toNat < 256 := fun c mem =>
  of_decide_eq_true (List.all_eq_true.1 plain c mem)

theorem witnessText_plain (w : Witness) : ∀ c ∈ witnessText w, c.toNat < 256 := by
  intro c mem
  unfold witnessText at mem
  simp only [List.mem_append, List.mem_cons] at mem
  rcases mem with mem | mem | rfl | mem | mem | mem | mem | rfl | mem | mem | mem
  · exact constant_plain (by decide +kernel) c mem
  · exact intText_plain _ c mem
  · decide
  · exact constant_plain (by decide +kernel) c mem
  · exact quote_plain _ c mem
  · exact constant_plain (by decide +kernel) c mem
  · exact intText_plain _ c mem
  · decide
  · exact constant_plain (by decide +kernel) c mem
  · exact quote_plain _ c mem
  · exact constant_plain (by decide +kernel) c mem

/-- The record `{}`. -/
def sampleRecord : Bytes := [123, 125]

/-- The identifier of the sample. -/
def sampleId : String := "0123456789abcdef0123456789abcdef"

/-- The witness of the sample, at clock 100. -/
def sampleWitness : Witness :=
  ⟨sampleId, "44136fa355b3678a1146ad16f7e8649e94fb4fc21fe77e8310c060f61caaff8a", 2, 100⟩

/-- The libraries, as far as the sample needs them: one digest, one witness that is validated. -/
def sampleCodec : Codec where
  sha256 record := if record = sampleRecord then sampleWitness.recordSha256 else ""
  canonicalJsonBytes w := ascii (witnessText w)
  validateJson bytes := if bytes = ascii (witnessText sampleWitness) then some sampleWitness else none

theorem sampleCodec_sealed : sampleCodec.Sealed := by
  intro w w' part
  obtain ⟨rest, eq⟩ := ascii_prefix (witnessText_plain w) (witnessText_plain w') part
  exact witnessText_closed eq

/-- A storage that acknowledges each write of a new file, and a clock that stands at 100. -/
def sampleStorage : Handler capturing CaptureError Sink
  | s, .look observationId => (.ok (s.files observationId), s)
  | s, .memory => (.ok (s.attempted, s.lastClock), s)
  | s, .attempt observationId => (.ok (), { s with attempted := s.attempted ++ [observationId] })
  | s, .clock => (.ok (some 100), s)
  | s, .tick value => (.ok (), { s with lastClock := some value })
  | s, .write observationId slot record =>
    match s.disk (observationId, slot) with
    | none => (.ok true, s.put (observationId, slot) record)
    | some _ => (.error (.other "FileExistsError"), s)

theorem sampleStorage_lawful (s : Sink) (call : CaptureCall) :
    captureEffects.after s call (sampleStorage s call).1 (sampleStorage s call).2 := by
  cases call with
  | look => exact ⟨rfl, fun _ eq => (Except.ok.inj eq).symm⟩
  | memory => exact ⟨rfl, fun _ eq => (Except.ok.inj eq).symm⟩
  | write observationId slot record =>
    cases there : s.disk (observationId, slot) with
    | none =>
      simp only [sampleStorage, there]
      refine ⟨fun old found => ?_, rfl⟩
      cases there.symm.trans found
    | some content =>
      simp only [sampleStorage, there]
      exact .inl rfl
  | _ => rfl

/-- The moment after a record was submitted to a new session. -/
def submittedMoment (c : Codec) (submitted : String × Bytes) : CaptureMoment :=
  let (_, s, h) := execute sampleStorage (submit c submitted) {} []
  ⟨(h, s), none⟩

theorem submitted_session (c : Codec) (submitted : String × Bytes) :
    CaptureSession c newSession (submittedMoment c submitted) :=
  Session.execute_section sampleStorage_lawful submitted ({} : Sink) []

/-- The moment after the sample was. -/
def sampleMoment : CaptureMoment := submittedMoment sampleCodec (sampleId, sampleRecord)

theorem ok_of_toOption {α : Type} {x : Except CaptureError α} {a : α} (h : x.toOption = some a) :
    x = .ok a := by
  cases x with
  | ok b => exact congrArg Except.ok (Option.some.inj h)
  | error e => cases h

/-- It is read back, and was recorded when the clock stood at 100. -/
theorem capture_store_sample :
    (read sampleCodec sampleId (sampleMoment.at_.2.files sampleId)).toOption =
      some ⟨sampleRecord, sampleWitness, ascii (witnessText sampleWitness)⟩ ∧
    Recorded sampleId sampleRecord 100 sampleMoment.at_.1 := by
  have read : (read sampleCodec sampleId (sampleMoment.at_.2.files sampleId)).toOption =
      some ⟨sampleRecord, sampleWitness, ascii (witnessText sampleWitness)⟩ := by
    decide +kernel
  have session : CaptureSession sampleCodec newSession sampleMoment :=
    submitted_session sampleCodec (sampleId, sampleRecord)
  have kept : CaptureKept sampleCodec sampleMoment sampleMoment :=
    capture_store sampleCodec_sealed session Relation.ReflTransGen.refl
  refine ⟨read, ?_⟩
  generalize sampleMoment = m at read kept
  obtain ⟨-, -, recorded⟩ := kept.reads sampleId _ (ok_of_toOption read)
  exact recorded

end Samples

end KairosExecution.Production.NativeCapture
