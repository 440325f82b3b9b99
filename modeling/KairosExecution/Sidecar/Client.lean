import KairosExecution.Python.JsonEqual
import KairosExecution.Sidecar.Child

/-! The client of the DEV sidecar and the child processes that it starts one after the other. The
lock leaves one call at a time on the pipes, but calls are given up in the middle, processes
are aborted, exit and are started again, and an aborted one may still read what was written to
it. Each request is handled at most once, and what a call returns is what the gateway answered
to that very request. -/

namespace KairosExecution.Sidecar

open Python Production

/-- A call of the client; the payload that was not given is empty. -/
structure SidecarCall where
  operation : String
  payload : Record
  mutation : Bool

/-- `{"data": result, "effect_id": response.get("effect_id")}` -/
structure Reply where
  data : Value
  effectId : Value

/-- A `SidecarError` or `SidecarMutationError`, and whether the process is aborted with it. -/
structure Failed where
  mutation : Bool
  message : String
  abort : Bool
  deriving DecidableEq

section Verdict

variable (str : Value → String) (call : SidecarCall) (id : String)

/-- What `call` makes of a response that was decoded. -/
def verdict (response : Value) : Except Failed Reply :=
  match response with
  | .dict fields =>
    if !Json.same (Record.get fields "id") (.str id) then
      .error ⟨call.mutation, "sidecar response identity does not match the request", true⟩
    else match Record.get fields "ok" with
      | .bool true =>
        if call.mutation && !Json.same (Record.get fields "effect_id") (call.payload.get "effect_id") then
          .error ⟨true, s!"EVEDEX sidecar {call.operation} returned a mismatched effect identity", true⟩
        else match Record.get fields "result" with
          | .dict _ | .list _ => .ok ⟨Record.get fields "result", Record.get fields "effect_id"⟩
          | _ => .error ⟨call.mutation, "sidecar result must be a JSON object or list", true⟩
      | _ =>
        let detail := match Record.get fields "error" with
          | .dict error => str (Record.get error "message")
          | _ => "unknown sidecar error"
        .error ⟨call.mutation, s!"EVEDEX sidecar {call.operation} failed: {detail}", false⟩
  | _ => .error ⟨call.mutation, "sidecar response identity does not match the request", true⟩

variable {str call id}

theorem eq_of_same_str {v : Value} {text : String} (h : Json.same v (.str text) = true) :
    v = .str text := by
  cases v with
  | str other =>
    rw [Json.same, decide_eq_true_eq] at h
    rw [h]
  | _ => simp [Json.same, Json.numberOf] at h

theorem verdict_eq_ok {response : Value} {answer : Reply} (h : verdict str call id response = .ok answer) :
    ∃ fields, response = .dict fields ∧ Record.get fields "id" = .str id ∧
      Record.get fields "ok" = .bool true ∧
      (call.mutation → Json.same (Record.get fields "effect_id") (call.payload.get "effect_id") = true) ∧
      answer = ⟨Record.get fields "result", Record.get fields "effect_id"⟩ := by
  cases response with
  | dict fields =>
    simp only [verdict] at h
    split at h
    · cases h
    rename_i own
    have named : Record.get fields "id" = .str id := eq_of_same_str (by simpa using own)
    split at h
    · rename_i fine
      split at h
      · cases h
      rename_i effect
      refine ⟨fields, rfl, named, fine, fun mutation => ?_, ?_⟩
      · simpa [mutation] using effect
      · split at h
        · exact (Except.ok.inj h).symm
        · exact (Except.ok.inj h).symm
        · cases h
    · cases h
  | _ => cases h

end Verdict

section Pipes

variable (uuid : ℕ → String) (wire : Value → Value)

/-- What one side reads of a JSON text that the other side wrote: texts, booleans and null are
the same, and an object has the same keys. Of numbers nothing is said. -/
structure Carries : Prop where
  null : wire .none = .none
  bool : ∀ b, wire (.bool b) = .bool b
  str : ∀ text, wire (.str text) = .str text
  dict : ∀ fields, ∃ read, wire (.dict fields) = .dict read ∧
    ((fields.map Prod.fst).Nodup → ∀ key, Record.get read key = wire (Record.get fields key))

/-- The line of the call of this number. -/
def lineOf (n : ℕ) (call : SidecarCall) (bytes : ℕ) : Line :=
  ⟨bytes, .ok (wire (.dict [("id", .str (uuid n)), ("operation", .str call.operation),
    ("payload", .dict call.payload)]))⟩

variable {uuid wire}

theorem requestOf_lineOf (carries : Carries wire) {n : ℕ} {call : SidecarCall} {bytes : ℕ}
    {request : Request} (h : requestOf (lineOf uuid wire n call bytes) = .ok request) :
    request.id = uuid n ∧ request.operation = call.operation ∧
      wire (.dict call.payload) = .dict request.payload := by
  obtain ⟨fields, read, keys⟩ := carries.dict [("id", .str (uuid n)),
    ("operation", .str call.operation), ("payload", .dict call.payload)]
  have key := keys (by simp)
  have id : Record.get fields "id" = .str (uuid n) := (key "id").trans (carries.str _)
  have operation : Record.get fields "operation" = .str call.operation :=
    (key "operation").trans (carries.str _)
  obtain ⟨payload, written, -⟩ := carries.dict call.payload
  have sent : Record.get fields "payload" = .dict payload := (key "payload").trans written
  unfold requestOf lineOf at h
  split at h
  · cases h
  rw [read] at h
  simp only [Except.bind, validateRequest, id, operation] at h
  split at h
  · cases h
  split at h
  · cases h
  obtain ⟨found, known, h⟩ := bind_eq_ok.1 h
  unfold payloadOf at known
  rw [sent] at known
  cases known
  have same : request = ⟨uuid n, call.operation, payload⟩ := by
    split at h
    · obtain ⟨_, _, h⟩ := bind_eq_ok.1 h
      split at h
      · obtain ⟨_, _, h⟩ := bind_eq_ok.1 h
        exact (Except.ok.inj h).symm
      · exact (Except.ok.inj h).symm
    · exact (Except.ok.inj h).symm
  rw [same]
  exact ⟨rfl, rfl, written⟩

variable (uuid wire) in
/-- What a process makes of the request: what went to the gateway is the request, and only an
answer of the gateway is a success. -/
theorem handle_lineOf (carries : Carries wire) {publicError : Thrown → Value} {n : ℕ}
    {call : SidecarCall} {bytes : ℕ} {answer : Except Thrown Value} {seen : List String}
    {fields : Record} {id : String}
    (read : wire (handle publicError (lineOf uuid wire n call bytes) answer seen).1.response = .dict fields)
    (named : Record.get fields "id" = .str id) (fine : Record.get fields "ok" = .bool true) :
    id = uuid n ∧ ∃ payload result, wire (.dict call.payload) = .dict payload ∧
      answer = .ok result ∧
      (handle publicError (lineOf uuid wire n call bytes) answer seen).1.submitted =
        some ⟨uuid n, call.operation, payload⟩ ∧
      Record.get fields "result" = wire result ∧
      Record.get fields "effect_id" = wire (Record.get payload "effect_id") := by
  have refused : ∀ name error, wire (failed publicError name error) ≠ .dict fields := by
    intro name error eq
    obtain ⟨found, same, keys⟩ := carries.dict
      [("id", .str name), ("ok", .bool false), ("error", publicError error)]
    have ok := keys (by simp) "ok"
    rw [failed, same] at eq
    cases eq
    rw [fine] at ok
    have other := ok.trans (carries.bool false)
    cases other
  unfold handle at read ⊢
  cases requested : requestOf (lineOf uuid wire n call bytes) with
  | error e =>
    rw [requested] at read
    exact absurd read (refused _ _)
  | ok request =>
    rw [requested] at read
    dsimp only at read ⊢
    cases admitted : letThrough request seen with
    | error e =>
      rw [admitted] at read
      exact absurd read (refused _ _)
    | ok seen =>
      rw [admitted] at read
      dsimp only at read ⊢
      cases answer with
      | error e => exact absurd read (refused _ _)
      | ok result =>
        obtain ⟨own, operation, payload⟩ := requestOf_lineOf carries requested
        obtain ⟨found, same, keys⟩ := carries.dict [("id", .str request.id), ("ok", .bool true),
          ("result", result), ("effect_id", request.payload.get "effect_id")]
        have key := keys (by simp)
        dsimp only [succeeded] at read
        rw [same] at read
        cases read
        have id' := (key "id").trans (carries.str _)
        rw [named, own] at id'
        cases id'
        refine ⟨rfl, request.payload, result, payload, rfl, ?_, key "result", key "effect_id"⟩
        rw [← own, ← operation]

end Pipes

section Runs

variable (uuid : ℕ → String) (wire : Value → Value) (publicError : Thrown → Value)
  (str : Value → String)

/-- A child process: the lines that it has not read yet and the responses that were not read of it,
under the numbers of their calls. -/
structure Process where
  stdin : List (ℕ × Line) := []
  stdout : List (ℕ × Value) := []
  seen : List String := []

/-- A line that a process handled, with the number of its call. -/
structure Entry where
  process : ℕ
  call : ℕ
  handled : Handled

/-- The client with all its calls and all its processes. -/
structure World where
  begun : List SidecarCall := []
  /-- `self._process` -/
  current : Option ℕ := none
  spawned : ℕ := 0
  processes : ℕ → Process := fun _ => {}
  /-- the call that holds the lock and awaits its response, and from which process -/
  waiting : Option (ℕ × ℕ) := none
  handled : List Entry := []
  returned : List (ℕ × Reply) := []

/-- What may happen next. A call whose arguments were refused writes nothing. -/
inductive Action
  /-- `start`, where no process runs -/
  | start
  /-- a call writes its line, of so many bytes -/
  | write (call : SidecarCall) (bytes : ℕ)
  /-- a process handles its next line, and the gateway answers in this way -/
  | serve (process : ℕ) (answer : Except Thrown Value)
  /-- a process ends; so many of its responses can still be read -/
  | exit (process kept : ℕ)
  /-- the call reads the next response of its process -/
  | receive
  /-- the call ends without a response: cancelled, timed out, at the end of the stream, or
  over a line that is too long or does not decode -/
  | giveUp (abort : Bool)
  /-- `close`, which does not take the lock -/
  | close

namespace World

def put (w : World) (p : ℕ) (process : Process) : World :=
  { w with processes := Function.update w.processes p process }

/-- The world after an action that can happen. -/
def next (w : World) : Action → Option World
  | .start =>
    if w.waiting.isNone then some { w with current := some w.spawned, spawned := w.spawned + 1 }
    else none
  | .write call bytes =>
    match w.waiting, w.current with
    | none, some p =>
      if bytes ≤ 1024 * 1024 then
        let process := w.processes p
        let line := lineOf uuid wire w.begun.length call bytes
        some { w.put p { process with stdin := process.stdin ++ [(w.begun.length, line)] } with
          begun := w.begun ++ [call], waiting := some (w.begun.length, p) }
      else none
    | _, _ => none
  | .serve p answer =>
    match (w.processes p).stdin with
    | [] => none
    | (n, line) :: rest =>
      let (handled, seen) := handle publicError line answer (w.processes p).seen
      some { w.put p ⟨rest, (w.processes p).stdout ++ [(n, handled.response)], seen⟩ with
        handled := w.handled ++ [⟨p, n, handled⟩] }
  | .exit p kept =>
    some (w.put p { w.processes p with stdin := [], stdout := (w.processes p).stdout.take kept })
  | .receive =>
    match w.waiting with
    | none => none
    | some (n, p) =>
      match (w.processes p).stdout, w.begun[n]? with
      | (_, v) :: rest, some call =>
        let read := { w.put p { w.processes p with stdout := rest } with waiting := none }
        match verdict str call (uuid n) (wire v) with
        | .ok answer => some { read with returned := read.returned ++ [(n, answer)] }
        | .error failed => some (if failed.abort then { read with current := none } else read)
      | _, _ => none
  | .giveUp abort =>
    if w.waiting.isSome then
      some { w with waiting := none, current := if abort then none else w.current }
    else none
  | .close => some { w with current := none }

/-- The world after these actions, as far as each can happen. -/
def run (w : World) : List Action → World
  | [] => w
  | action :: actions => ((w.next uuid wire publicError str action).getD w).run actions

/-- The worlds that the client comes to. -/
inductive Reachable : World → Prop
  | start : Reachable {}
  | next {w w' : World} (before : Reachable w) (action : Action)
      (moved : w.next uuid wire publicError str action = some w') : Reachable w'

end World

variable {uuid wire publicError str} {w w' : World}

section Invariant

/-- The line was written by the call of this number. -/
def World.Sent (uuid : ℕ → String) (wire : Value → Value) (w : World) (n : ℕ) (line : Line) : Prop :=
  ∃ call bytes, w.begun[n]? = some call ∧ line = lineOf uuid wire n call bytes

/-- What a call returned is what the gateway answered to its own request, and carries the effect
of a mutation. -/
def World.Answered (uuid : ℕ → String) (wire : Value → Value) (w : World) (n : ℕ) (answer : Reply) :
    Prop :=
  ∃ call payload result entry, w.begun[n]? = some call ∧ wire (.dict call.payload) = .dict payload ∧
    entry ∈ w.handled ∧ entry.call = n ∧
    entry.handled.submitted = some ⟨uuid n, call.operation, payload⟩ ∧
    entry.handled.response = succeeded ⟨uuid n, call.operation, payload⟩ result ∧
    answer = ⟨wire result, wire (Record.get payload "effect_id")⟩ ∧
    (call.mutation → Json.same answer.effectId (call.payload.get "effect_id") = true)

/-- The calls whose lines a process handled, in their order. -/
def World.served (w : World) (p : ℕ) : List ℕ :=
  (w.handled.filter fun entry => entry.process = p).map Entry.call

/-- The calls whose lines a process handled or has still to read. -/
def World.numbers (w : World) (p : ℕ) : List ℕ := w.served p ++ (w.processes p).stdin.map Prod.fst

/-- The effects that went to the gateway from a process. -/
def World.effects (w : World) (p : ℕ) : List String :=
  (w.handled.filter fun entry => entry.process = p).filterMap fun entry => entry.handled.effect

structure World.Sound (uuid : ℕ → String) (wire : Value → Value) (publicError : Thrown → Value)
    (w : World) : Prop where
  ordered : ∀ p, (w.numbers p).Pairwise (· < ·)
  begun : ∀ p, ∀ n ∈ w.numbers p, n < w.begun.length
  apart : ∀ p q n, n ∈ w.numbers p → n ∈ w.numbers q → p = q
  lines : ∀ p n line, (n, line) ∈ (w.processes p).stdin → w.Sent uuid wire n line
  handled : ∀ entry ∈ w.handled, ∃ line answer seen, w.Sent uuid wire entry.call line ∧
    entry.handled = (handle publicError line answer seen).1
  replies : ∀ p n v, (n, v) ∈ (w.processes p).stdout →
    ∃ entry ∈ w.handled, entry.call = n ∧ entry.handled.response = v
  returned : ∀ n answer, (n, answer) ∈ w.returned → w.Answered uuid wire n answer
  remembered : ∀ p, (w.processes p).seen = recent (w.effects p) ∧ Apart (w.effects p)

theorem World.Sent.mono {n : ℕ} {line : Line} (sent : w.Sent uuid wire n line)
    {calls : List SidecarCall} (more : w'.begun = w.begun ++ calls) : w'.Sent uuid wire n line := by
  obtain ⟨call, bytes, found, rfl⟩ := sent
  refine ⟨call, bytes, ?_, rfl⟩
  rw [more, List.getElem?_append_left (List.getElem?_eq_some_iff.1 found).1, found]

theorem World.Answered.mono {n : ℕ} {answer : Reply} (answered : w.Answered uuid wire n answer)
    {calls : List SidecarCall} (more : w'.begun = w.begun ++ calls)
    (kept : w.handled ⊆ w'.handled) : w'.Answered uuid wire n answer := by
  obtain ⟨call, payload, result, entry, found, read, mem, rest⟩ := answered
  refine ⟨call, payload, result, entry, ?_, read, kept mem, rest⟩
  rw [more, List.getElem?_append_left (List.getElem?_eq_some_iff.1 found).1, found]

/-- A change of one process that handles nothing: lines and responses may be dropped. -/
theorem World.Sound.shrink (sound : w.Sound uuid wire publicError) {p : ℕ} {process : Process}
    (stdin : process.stdin.Sublist (w.processes p).stdin) (stdout : process.stdout ⊆ (w.processes p).stdout)
    (seen : process.seen = (w.processes p).seen) : (w.put p process).Sound uuid wire publicError := by
  have read : ∀ q, ((w.put p process).processes q).stdin.Sublist (w.processes q).stdin := by
    intro q
    by_cases same : q = p
    · subst same
      simpa [World.put] using stdin
    · simp [World.put, same]
  have left : ∀ q, ((w.put p process).numbers q).Sublist (w.numbers q) :=
    fun q => (List.Sublist.refl _).append ((read q).map _)
  have listed : ∀ q n v, (n, v) ∈ ((w.put p process).processes q).stdout →
      (n, v) ∈ (w.processes q).stdout := by
    intro q n v mem
    by_cases same : q = p
    · subst same
      exact stdout (by simpa [World.put] using mem)
    · simpa [World.put, same] using mem
  have known : ∀ q, ((w.put p process).processes q).seen = (w.processes q).seen := by
    intro q
    by_cases same : q = p
    · subst same
      simpa [World.put] using seen
    · simp [World.put, same]
  exact {
    ordered := fun q => (sound.ordered q).sublist (left q)
    begun := fun q n mem => sound.begun q n ((left q).subset mem)
    apart := fun q r n first second => sound.apart q r n ((left q).subset first) ((left r).subset second)
    lines := fun q n line mem => sound.lines q n line ((read q).subset mem)
    handled := sound.handled
    replies := fun q n v mem => sound.replies q n v (listed q n v mem)
    returned := sound.returned
    remembered := fun q => by rw [known q]; exact sound.remembered q }

/-- The pointers of the client are no part of the invariant. -/
theorem World.Sound.pointers (sound : w.Sound uuid wire publicError) (current : Option ℕ)
    (spawned : ℕ) (waiting : Option (ℕ × ℕ)) :
    ({ w with current, spawned, waiting } : World).Sound uuid wire publicError where
  ordered := sound.ordered
  begun := sound.begun
  apart := sound.apart
  lines := sound.lines
  handled := sound.handled
  replies := sound.replies
  returned := sound.returned
  remembered := sound.remembered

/-- The world after a call wrote its line. -/
def World.written (uuid : ℕ → String) (wire : Value → Value) (w : World) (p : ℕ) (call : SidecarCall)
    (bytes : ℕ) : World :=
  { w.put p { w.processes p with
      stdin := (w.processes p).stdin ++ [(w.begun.length, lineOf uuid wire w.begun.length call bytes)] } with
    begun := w.begun ++ [call], waiting := some (w.begun.length, p) }

theorem World.numbers_written (p q : ℕ) (call : SidecarCall) (bytes : ℕ) :
    (w.written uuid wire p call bytes).numbers q =
      w.numbers q ++ if q = p then [w.begun.length] else [] := by
  by_cases same : q = p
  · subst same
    simp [World.numbers, World.served, World.written, World.put]
  · simp [World.numbers, World.served, World.written, World.put, same]

theorem World.Sound.write (sound : w.Sound uuid wire publicError) (p : ℕ) (call : SidecarCall)
    (bytes : ℕ) : (w.written uuid wire p call bytes).Sound uuid wire publicError := by
  have more : (w.written uuid wire p call bytes).begun = w.begun ++ [call] := rfl
  have stdout : ∀ q, ((w.written uuid wire p call bytes).processes q).stdout = (w.processes q).stdout ∧
      ((w.written uuid wire p call bytes).processes q).seen = (w.processes q).seen := by
    intro q
    by_cases same : q = p
    · subst same
      simp [World.written, World.put]
    · simp [World.written, World.put, same]
  have last : ∀ q n, n ∈ (w.written uuid wire p call bytes).numbers q →
      n ∈ w.numbers q ∨ (q = p ∧ n = w.begun.length) := by
    intro q n mem
    rw [World.numbers_written, List.mem_append] at mem
    by_cases same : q = p
    · simpa [same] using mem
    · simpa [same] using mem
  refine {
    ordered := fun q => ?_
    begun := fun q n mem => ?_
    apart := fun q r n first second => ?_
    lines := fun q n line mem => ?_
    handled := fun entry mem => ?_
    replies := fun q n v mem => sound.replies q n v (by rwa [(stdout q).1] at mem)
    returned := fun n answer mem =>
      (sound.returned n answer mem).mono more fun _ mem => mem
    remembered := fun q => by rw [(stdout q).2]; exact sound.remembered q }
  · rw [World.numbers_written]
    by_cases same : q = p
    · rw [if_pos same, List.pairwise_append]
      refine ⟨sound.ordered q, List.pairwise_singleton .., fun a ha b hb => ?_⟩
      cases List.mem_singleton.1 hb
      exact sound.begun q a ha
    · rw [if_neg same, List.append_nil]
      exact sound.ordered q
  · rw [more, List.length_append, List.length_singleton]
    rcases last q n mem with old | ⟨-, rfl⟩
    · have lt := sound.begun q n old
      omega
    · omega
  · rcases last q n first with old | ⟨rfl, rfl⟩
    · rcases last r n second with old' | ⟨rfl, rfl⟩
      · exact sound.apart q r n old old'
      · exact absurd (sound.begun q _ old) (lt_irrefl _)
    · rcases last r _ second with old' | ⟨rfl, -⟩
      · exact absurd (sound.begun r _ old') (lt_irrefl _)
      · rfl
  · by_cases same : q = p
    · subst same
      have mem' : (n, line) ∈ (w.processes q).stdin ++
          [(w.begun.length, lineOf uuid wire w.begun.length call bytes)] := by
        simpa [World.written, World.put] using mem
      rcases List.mem_append.1 mem' with old | new
      · exact (sound.lines q n line old).mono more
      · cases List.mem_singleton.1 new
        exact ⟨call, bytes, by rw [more, List.getElem?_concat_length], rfl⟩
    · have old : (n, line) ∈ (w.processes q).stdin := by
        simpa [World.written, World.put, same] using mem
      exact (sound.lines q n line old).mono more
  · obtain ⟨line, answer, seen, sent, eq⟩ := sound.handled entry mem
    exact ⟨line, answer, seen, sent.mono more, eq⟩

/-- The world after a process handled its next line. -/
def World.servedNext (publicError : Thrown → Value) (w : World) (p n : ℕ) (line : Line)
    (rest : List (ℕ × Line)) (answer : Except Thrown Value) : World :=
  let handled := handle publicError line answer (w.processes p).seen
  { w.put p ⟨rest, (w.processes p).stdout ++ [(n, handled.1.response)], handled.2⟩ with
    handled := w.handled ++ [⟨p, n, handled.1⟩] }

theorem World.Sound.serve (sound : w.Sound uuid wire publicError) {p n : ℕ} {line : Line}
    {rest : List (ℕ × Line)} (stdin : (w.processes p).stdin = (n, line) :: rest)
    (answer : Except Thrown Value) :
    (w.servedNext publicError p n line rest answer).Sound uuid wire publicError := by
  set w' := w.servedNext publicError p n line rest answer with new
  have more : w'.begun = w.begun ++ [] := (List.append_nil _).symm
  have numbers : ∀ q, w'.numbers q = w.numbers q := by
    intro q
    by_cases same : q = p
    · subst same
      simp [new, World.numbers, World.served, World.servedNext, World.put, stdin]
    · have other : ¬p = q := fun eq => same eq.symm
      simp [new, World.numbers, World.served, World.servedNext, World.put, same, other]
  have sent : w.Sent uuid wire n line := sound.lines p n line (by rw [stdin]; exact List.mem_cons_self)
  refine {
    ordered := fun q => by rw [numbers]; exact sound.ordered q
    begun := fun q m mem => sound.begun q m (by rwa [numbers] at mem)
    apart := fun q r m first second =>
      sound.apart q r m (by rwa [numbers] at first) (by rwa [numbers] at second)
    lines := fun q m line' mem => ?_
    handled := fun entry mem => ?_
    replies := fun q m v mem => ?_
    returned := fun m answer' mem => ?_
    remembered := fun q => ?_ }
  · by_cases same : q = p
    · subst same
      have old : (m, line') ∈ rest := by simpa [new, World.servedNext, World.put] using mem
      exact (sound.lines q m line' (by rw [stdin]; exact List.mem_cons_of_mem _ old)).mono more
    · have old : (m, line') ∈ (w.processes q).stdin := by
        simpa [new, World.servedNext, World.put, same] using mem
      exact (sound.lines q m line' old).mono more
  · rcases List.mem_append.1 mem with old | last
    · obtain ⟨line, answer, seen, sent, eq⟩ := sound.handled entry old
      exact ⟨line, answer, seen, sent.mono more, eq⟩
    · cases List.mem_singleton.1 last
      exact ⟨line, answer, _, sent.mono more, rfl⟩
  · have kept : ∀ {m v}, (m, v) ∈ (w.processes q).stdout →
        ∃ entry ∈ w'.handled, entry.call = m ∧ entry.handled.response = v := by
      intro m v old
      obtain ⟨entry, mem, rest⟩ := sound.replies q m v old
      exact ⟨entry, List.mem_append_left _ mem, rest⟩
    by_cases same : q = p
    · subst same
      have mem' : (m, v) ∈ (w.processes q).stdout ++
          [(n, (handle publicError line answer (w.processes q).seen).1.response)] := by
        simpa [new, World.servedNext, World.put] using mem
      rcases List.mem_append.1 mem' with old | last
      · exact kept old
      · cases List.mem_singleton.1 last
        exact ⟨_, List.mem_append_right _ List.mem_cons_self, rfl, rfl⟩
    · exact kept (by simpa [new, World.servedNext, World.put, same] using mem)
  · exact (sound.returned m answer' mem).mono more (List.subset_append_left _ _)
  · obtain ⟨seen, apart⟩ := sound.remembered q
    by_cases same : q = p
    · subst same
      obtain ⟨apart', seen'⟩ := handle_effects publicError line answer apart
      rw [← seen] at apart' seen'
      have effects : w'.effects q = w.effects q ++
          (handle publicError line answer (w.processes q).seen).1.effect.toList := by
        cases effect : (handle publicError line answer (w.processes q).seen).1.effect with
        | none => simp [new, World.effects, World.servedNext, World.put, List.filterMap_append, effect]
        | some e => simp [new, World.effects, World.servedNext, World.put, List.filterMap_append, effect]
      rw [effects]
      exact ⟨by simpa [new, World.servedNext, World.put] using seen', apart'⟩
    · have other : ¬p = q := fun eq => same eq.symm
      have effects : w'.effects q = w.effects q := by
        simp [new, World.effects, World.servedNext, World.put, other]
      rw [effects]
      exact ⟨by simpa [new, World.servedNext, World.put, same] using seen, apart⟩

/-- A response that is accepted is the gateway's answer to the request of the call. -/
theorem World.Sound.answered (sound : w.Sound uuid wire publicError) (carries : Carries wire)
    (distinct : Function.Injective uuid) {n p m : ℕ} {v : Value} (reply : (m, v) ∈ (w.processes p).stdout)
    {call : SidecarCall} (own : w.begun[n]? = some call) {answer : Reply}
    (accepted : verdict str call (uuid n) (wire v) = .ok answer) : w.Answered uuid wire n answer := by
  obtain ⟨entry, mem, rfl, rfl⟩ := sound.replies p m v reply
  obtain ⟨line, gateway, seen, ⟨call', bytes, sent, rfl⟩, handled⟩ := sound.handled entry mem
  obtain ⟨fields, read, named, fine, effect, rfl⟩ := verdict_eq_ok accepted
  rw [handled] at read
  obtain ⟨same, payload, result, written, ok, submitted, data, id⟩ :=
    handle_lineOf uuid wire carries read named fine
  cases distinct same
  cases own.symm.trans sent
  refine ⟨call, payload, result, entry, sent, written, mem, rfl, by rw [handled]; exact submitted, ?_,
    by rw [data, id], effect⟩
  rw [handled]
  subst ok
  unfold handle at submitted ⊢
  split at submitted
  · cases submitted
  · split at submitted
    · cases submitted
    · cases submitted
      rfl

/-- The processes that are read of lose nothing that was sent to them. -/
theorem World.Sound.receive (sound : w.Sound uuid wire publicError) (carries : Carries wire)
    (distinct : Function.Injective uuid) (moved : w.next uuid wire publicError str .receive = some w') :
    w'.Sound uuid wire publicError := by
  simp only [World.next] at moved
  split at moved
  · cases moved
  rename_i n p awaited
  split at moved
  · rename_i m v rest call stdout own
    have reply : (m, v) ∈ (w.processes p).stdout := by
      rw [stdout]
      exact List.mem_cons_self
    have read : (w.put p { w.processes p with stdout := rest }).Sound uuid wire publicError := by
      refine sound.shrink (List.Sublist.refl _) ?_ rfl
      rw [stdout]
      exact List.subset_cons_self _ _
    split at moved
    · rename_i answer accepted
      cases moved
      have answered := sound.answered carries distinct reply own accepted
      refine { read.pointers w.current w.spawned none with returned := fun m answer' mem => ?_ }
      rcases List.mem_append.1 mem with old | last
      · exact sound.returned m answer' old
      · cases List.mem_singleton.1 last
        exact answered
    · rename_i failed _
      cases moved
      split
      · exact read.pointers none w.spawned none
      · exact read.pointers w.current w.spawned none
  · cases moved

theorem World.Sound.next (sound : w.Sound uuid wire publicError) (carries : Carries wire)
    (distinct : Function.Injective uuid) {action : Action}
    (moved : w.next uuid wire publicError str action = some w') : w'.Sound uuid wire publicError := by
  cases action with
  | start =>
    simp only [World.next] at moved
    split at moved
    · cases moved
      exact sound.pointers _ _ _
    · cases moved
  | write call bytes =>
    simp only [World.next] at moved
    split at moved
    · split at moved
      · cases moved
        exact sound.write _ call bytes
      · cases moved
    · cases moved
  | serve p answer =>
    simp only [World.next] at moved
    split at moved
    · cases moved
    · rename_i n line rest stdin
      cases moved
      exact sound.serve stdin answer
  | exit p kept =>
    cases moved
    exact sound.shrink (List.nil_sublist _) (List.take_subset ..) rfl
  | receive => exact sound.receive carries distinct moved
  | giveUp abort =>
    simp only [World.next] at moved
    split at moved
    · cases moved
      exact sound.pointers _ _ _
    · cases moved
  | close =>
    cases moved
    exact sound.pointers _ _ _

theorem World.Reachable.sound (carries : Carries wire) (distinct : Function.Injective uuid)
    (reachable : Reachable uuid wire publicError str w) : w.Sound uuid wire publicError := by
  induction reachable with
  | start =>
    have none : Apart [] := fun i j _ e first => by simp at first
    refine ⟨fun p => ?_, fun p n mem => ?_, fun p q n first => ?_, fun p n line mem => ?_,
      fun entry mem => ?_, fun p n v mem => ?_, fun n answer mem => ?_, fun p => ⟨List.drop_nil.symm, none⟩⟩
    · exact List.Pairwise.nil
    · simp [World.numbers, World.served] at mem
    · simp [World.numbers, World.served] at first
    · simp at mem
    · simp at mem
    · simp at mem
    · simp at mem
  | next _ action moved ih => exact ih.next carries distinct moved

end Invariant

/-- What holds of the pipes: a call returns what the gateway answered to its own request, no
request is handled twice, a process handles its requests in the order of the calls, and no effect
goes to the gateway again among the ten thousand that come next in its process. -/
structure World.Faithful (uuid : ℕ → String) (wire : Value → Value) (w : World) : Prop where
  answered : ∀ n answer, (n, answer) ∈ w.returned → w.Answered uuid wire n answer
  once : (w.handled.map Entry.call).Nodup
  ordered : ∀ p, (w.served p).Pairwise (· < ·)
  apart : ∀ p, Apart (w.effects p)

theorem World.Sound.once (sound : w.Sound uuid wire publicError) : (w.handled.map Entry.call).Nodup := by
  rw [List.Nodup, List.pairwise_map, List.pairwise_iff_getElem]
  intro i j hi hj lt same
  have listed : ∀ entry ∈ w.handled, entry.call ∈ w.numbers entry.process := by
    intro entry mem
    refine List.mem_append_left _ (List.mem_map.2 ⟨entry, List.mem_filter.2 ⟨mem, ?_⟩, rfl⟩)
    exact decide_eq_true rfl
  have process := sound.apart _ _ _ (listed _ (List.getElem_mem hi))
    (by rw [same]; exact listed _ (List.getElem_mem hj))
  have pair : [w.handled[i], w.handled[j]].Sublist w.handled := by
    have tail : [w.handled[j]].Sublist (w.handled.drop (i + 1)) := by
      rw [List.singleton_sublist, List.mem_drop_iff_getElem]
      exact ⟨j - (i + 1), by omega, by congr 1; omega⟩
    have all := tail.cons_cons w.handled[i]
    rw [← List.drop_eq_getElem_cons hi] at all
    exact all.trans (List.drop_sublist _ _)
  have kept := ((pair.filter fun entry => entry.process = (w.handled[i]).process).map Entry.call)
  have numbers := (sound.ordered (w.handled[i]).process).sublist
    (kept.trans (List.sublist_append_left _ _))
  simp [process, same] at numbers

theorem sidecar_faithful (carries : Carries wire) (distinct : Function.Injective uuid)
    (reachable : World.Reachable uuid wire publicError str w) : w.Faithful uuid wire where
  answered := (reachable.sound carries distinct).returned
  once := (reachable.sound carries distinct).once
  ordered p := ((reachable.sound carries distinct).ordered p).sublist (List.sublist_append_left _ _)
  apart p := ((reachable.sound carries distinct).remembered p).2

theorem World.Reachable.run (reachable : Reachable uuid wire publicError str w)
    (actions : List Action) : Reachable uuid wire publicError str (w.run uuid wire publicError str actions) := by
  induction actions generalizing w with
  | nil => exact reachable
  | cons action actions ih =>
    apply ih
    cases moved : w.next uuid wire publicError str action with
    | none => exact reachable
    | some w' => exact .next reachable action moved

end Runs

section Samples

def sampleUuid (n : ℕ) : String := String.ofList (List.replicate (n + 1) 'a')

theorem sampleUuid_injective : Function.Injective sampleUuid := by
  intro n m same
  have length := congrArg List.length (String.ofList_injective same)
  simpa using length

def samplePublicError (error : Thrown) : Value :=
  .dict [("code", .str error.code), ("message", .str error.message)]

def sampleEntry : SidecarCall :=
  ⟨"place_limit", [("effect_id", .str "effect"), ("client_order_id", .str "order")], true⟩

/-- An entry is given up in time and its process aborted, which still sends it to the gateway; the
next call is answered by a process of its own. -/
def sampleActions : List Action :=
  [.start, .write sampleEntry 100, .giveUp true, .start, .write ⟨"fetch_positions", [], false⟩ 90,
    .serve 0 (.ok (.dict [])), .serve 1 (.ok (.list [])), .receive]

def sampleWorld : World := ({} : World).run sampleUuid id samplePublicError (fun _ => "") sampleActions

theorem sidecar_faithful_sample : sampleWorld.Faithful sampleUuid id ∧
    sampleWorld.returned.map Prod.fst = [1] ∧ sampleWorld.handled.map Entry.call = [0, 1] ∧
    sampleWorld.effects 0 = ["effect"] := by
  refine ⟨sidecar_faithful ⟨rfl, fun _ => rfl, fun _ => rfl, fun fields => ⟨fields, rfl, fun _ _ => rfl⟩⟩
    sampleUuid_injective (World.Reachable.start.run sampleActions), ?_, ?_, ?_⟩
  · decide +kernel
  · decide +kernel
  · decide +kernel

end Samples

end KairosExecution.Sidecar
