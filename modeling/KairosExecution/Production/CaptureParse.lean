import KairosExecution.Production.Capture

/-! The parser of captures. A capture is refused with the error of the bridge, or its body is
returned as it was read, unless one of the two JSON texts makes the scanner raise what the
parser does not catch: a number that no `Decimal` holds, or containers that nest too deep. -/

namespace KairosExecution.Production.Capture

open Python Json

section Parser

/-- `decimal.Decimal` -/
inductive DecimalNumber
  | finite (negative : Bool) (coefficient : ℕ) (exponent : ℤ)
  | infinity (negative : Bool)
  | nan
  deriving DecidableEq

def DecimalNumber.isFinite : DecimalNumber → Bool
  | .finite .. => true
  | .infinity _ | .nan => false

/-- The number of an exponent with its mark and sign. -/
def exponentValue : List Char → ℤ
  | [] => 0
  | _ :: '-' :: digits => -Nat.ofDigitChars 10 digits 0
  | _ :: '+' :: digits => Nat.ofDigitChars 10 digits 0
  | _ :: digits => Nat.ofDigitChars 10 digits 0

def coefficient (l : Literal) : ℕ := Nat.ofDigitChars 10 (l.whole ++ l.fraction.tail) 0

def scale (l : Literal) : ℤ := exponentValue l.exponent - l.fraction.tail.length

/-- The number that a literal says. -/
def exactNumber (l : Literal) : DecimalNumber := .finite l.negative (coefficient l) (scale l)

/-- The numbers that `Decimal` holds exactly: the place of the first digit up to `MAX_EMAX`, that
of the last one from `MIN_ETINY` on. -/
def isDecimal (l : Literal) : Bool :=
  scale l + (Nat.toDigits 10 (coefficient l)).length - 1 ≤ 999_999_999_999_999_999
    ∧ -1_999_999_999_999_999_997 ≤ scale l

/-- `Decimal(literal)` -/
def decimal (l : Literal) : Except Raised DecimalNumber :=
  if isDecimal l then .ok (exactNumber l) else .error .invalidOperation

/-- `parse_constant`, which refuses each. -/
def rejectConstant (_ : String) : Except Raised DecimalNumber := .error .value

/-- How the body is read. -/
abbrev bodyHooks : Hooks Raised Text (JsonValue DecimalNumber) := treeHooks .value .recursion decimal rejectConstant

/-- How a body is to be read: each number as it stands there. -/
abbrev exactHooks : Hooks Raised Text (JsonValue DecimalNumber) :=
  treeHooks .value .recursion (fun l => .ok (exactNumber l)) rejectConstant

/-- What the query makes of a number; no number is compared with anything but a text. -/
def queryNumber (l : Literal) : Except Raised (Option Literal) :=
  if !l.isFloat && 4300 < l.whole.length then .error .value else .ok (some l)

/-- How the query is read. -/
abbrev queryHooks : Hooks Raised Text (JsonValue (Option Literal)) :=
  treeHooks .value .recursion queryNumber fun _ => .ok none

/-- `{key: str(value) for key, value in query.items()}` -/
def wireQuery (query : Query) : List (Text × Text) :=
  query.map fun entry => (points entry.1, entry.2.str.map Char.toNat)

def isText {N : Type} (tree : JsonValue N) (text : Text) : Bool :=
  match tree with
  | .str s => s = text
  | _ => false

/-- `query == expected_wire_query` -/
def equalsQuery {N : Type} (query : JsonValue N) (expected : List (Text × Text)) : Bool :=
  match query with
  | .dict entries =>
    entries.all (fun entry => (expected.lookup entry.1).any (isText entry.2))
      && expected.all fun entry => (entries.lookup entry.1).isSome
  | _ => false

/-- `value == text` -/
def isStr (value : Value) (text : String) : Bool :=
  match value with
  | .str s => s = text
  | _ => false

def asStr : Value → Option String
  | .str s => some s
  | _ => none

/-- An exact integer of a range. -/
def intWithin (low high : ℤ) : Value → Bool
  | .int n => low ≤ n ∧ n ≤ high
  | _ => false

/-- `[a-f0-9]{64}` -/
def isDigest (text : String) : Bool :=
  text.length = 64 && text.toList.all fun c => c.isDigit || ('a' ≤ c && c ≤ 'f')

def maxRawCaptureBytes : ℤ := 2 * 1024 * 1024

def captureFields : List String := ["source", "path", "query_json", "status", "requested_at",
  "received_at", "body_bytes", "body_sha256", "body_base64"]

/-- The shape of a capture and its route. -/
def routed (rt : Runtime) (capture : Record) (source : String) (query : Query)
    (instrument orderId : Option String) : Except Raised (String × Query) := do
  check (!sameKeys capture captureFields) (.transport "raw HTTP capture shape is malformed")
  let expected ← expectedPath rt source query instrument orderId
  let error := Raised.transport "raw HTTP capture differs from the fixed read route"
  let (path, authorized) ← required error expected
  check (!isStr (capture.get "source") source || !isStr (capture.get "path") path) error
  return (path, authorized)

/-- `json.loads(capture["query_json"], ...)` -/
def loadedQuery (rt : Runtime) (capture : Record) : Except Raised (JsonValue (Option Literal)) := do
  let text ← required .type (asStr (capture.get "query_json"))
  document queryHooks rt.room text.toList

/-- The status and the bytes of a capture. -/
def captureBody (rt : Runtime) (capture : Record) : Except Raised (List UInt8) := do
  check (!intWithin 100 599 (capture.get "status")) (.transport "raw HTTP capture status is malformed")
  check (!intWithin 0 maxRawCaptureBytes (capture.get "body_bytes"))
    (.transport "raw HTTP capture exceeds its byte bound")
  let error := Raised.transport "raw HTTP capture digest or body is malformed"
  let digest ← required error ((asStr (capture.get "body_sha256")).filter isDigest)
  let body64 ← required error ((asStr (capture.get "body_base64")).filter fun text =>
    (text.length : ℤ) ≤ (maxRawCaptureBytes + 2) / 3 * 4)
  let body ← required (.transport "raw HTTP capture body is malformed base64")
    (Base64.decode body64.toList)
  check (!intWithin body.length body.length (capture.get "body_bytes") || rt.sha256 body ≠ digest)
    (.transport "raw HTTP capture body digest or length differs")
  return body

/-- `datetime.fromisoformat(value.replace("Z", "+00:00"))` -/
def captureTime (rt : Runtime) (value : Value) : Except Raised Instant := do
  let text ← required .attribute (asStr value)
  required .value (rt.fromIsoFormat (replaceZ text))

/-- `received`, explicitly in UTC, is not before `requested`, which is too. -/
def orderedUtc : Instant → Instant → Bool
  | .aware requested 0, .aware received 0 => requested ≤ received
  | _, _ => false

/-- The times of a capture and the text of its body. -/
def captureText (rt : Runtime) (capture : Record) (body : List UInt8) : Except Raised (List Char) := do
  let requested ← captureTime rt (capture.get "requested_at")
  let received ← captureTime rt (capture.get "received_at")
  check (!orderedUtc requested received) .value
  let text ← required .value (ByteArray.utf8Decode? ⟨body.toArray⟩)
  return text.toList

def parseRawResponseCapture (rt : Runtime) (capture : Record) (source : String) (query : Query)
    (instrument orderId : Option String) : Except Raised (JsonValue DecimalNumber) := do
  let (_, authorized) ← routed rt capture source query instrument orderId
  let loaded ← catching [.type, .value] "raw HTTP capture query is malformed" (loadedQuery rt capture)
  check (!equalsQuery loaded (wireQuery authorized))
    (.transport "raw HTTP capture query differs from the exact read request")
  let body ← captureBody rt capture
  catching [.attribute, .type, .value] "raw HTTP capture timestamps or JSON body are invalid" do
    let text ← captureText rt capture body
    document bodyHooks rt.room text

end Parser

section Refusals

variable {α β : Type} {cause : Raised} {message : String}

/-- Nothing but an error of the bridge is raised. -/
def Refuses (x : Except Raised α) : Prop := ∀ e, x = .error e → ∃ message, e = .transport message

theorem Refuses.ok (a : α) : Refuses (.ok a) := fun _ h => nomatch h

theorem Refuses.error : Refuses (.error (.transport message) : Except Raised α) := fun e h => by
  cases h
  exact ⟨message, rfl⟩

theorem Refuses.bind {x : Except Raised α} {f : α → Except Raised β} (first : Refuses x)
    (rest : ∀ a, x = .ok a → Refuses (f a)) : Refuses (x >>= f) := by
  intro e h
  rcases bind_eq_error.1 h with raised | ⟨a, returned, raised⟩
  · exact first e raised
  · exact rest a returned e raised

theorem Refuses.map {x : Except Raised α} {f : α → β} (first : Refuses x) : Refuses (x.map f) :=
  fun e h => first e (map_eq_error.1 h)

theorem Refuses.check (condition : Bool) : Refuses (check condition (.transport message)) := by
  unfold Capture.check
  split
  · exact .error
  · exact .ok ()

theorem Refuses.required (x : Option α) : Refuses (required (.transport message) x) := by
  cases x with
  | none => exact .error
  | some a => exact .ok a

/-- What is caught becomes an error of the bridge. -/
theorem Refuses.catching {caught : List Raised} {x : Except Raised α}
    (all : ∀ e, x = .error e → e ∈ caught) : Refuses (catching caught message x) := by
  intro e h
  cases x with
  | ok a => cases h
  | error e' =>
    rw [Capture.catching, if_pos (all e' rfl)] at h
    cases h
    exact ⟨message, rfl⟩

variable {rt : Runtime} {source : String} {a : Arguments} {query : Query}
  {instrument orderId : Option String}

theorem check_raises {condition : Bool} {e : Raised} (h : check condition cause = .error e) :
    e = cause := by
  unfold check at h
  split at h
  · cases h
    rfl
  · cases h

theorem required_raises {x : Option α} {e : Raised} (h : required cause x = .error e) :
    e = cause := by
  cases x with
  | none =>
    cases h
    rfl
  | some a => cases h

theorem historyInterval_refuses (after before : Option String) :
    Refuses (historyInterval rt after before) := by
  refine .catching fun e h => ?_
  rcases bind_eq_error.1 h with raised | ⟨_, _, h⟩
  · simp [required_raises raised]
  rcases bind_eq_error.1 h with raised | ⟨_, _, h⟩
  · simp [required_raises raised]
  rcases bind_eq_error.1 h with raised | ⟨_, _, h⟩
  · simp [check_raises raised]
  rcases bind_eq_error.1 h with raised | ⟨_, _, h⟩
  · simp [required_raises raised]
  rcases bind_eq_error.1 h with raised | ⟨_, _, h⟩
  · simp [required_raises raised]
  rcases bind_eq_error.1 h with raised | ⟨_, _, h⟩
  · simp [required_raises raised]
  rcases bind_eq_error.1 h with raised | ⟨_, _, h⟩
  · simp [check_raises raised]
  · cases h

theorem rawCaptureRequest_refuses : Refuses (rawCaptureRequest rt source a) := by
  unfold rawCaptureRequest
  split
  · exact .bind (.required _) fun _ _ => .bind (.check _) fun _ _ => .ok _
  split
  · exact .bind (historyInterval_refuses _ _) fun _ _ => .bind (.required _) fun _ _ =>
      .bind (.required _) fun _ _ => .bind (.check _) fun _ _ => .ok _
  split
  · exact .error
  split
  · exact .bind (.required _) fun _ _ => .bind (.required _) fun _ _ => .bind (.check _) fun _ _ => .ok _
  split
  · exact .error
  split
  · exact .bind (.check _) fun _ _ => .ok _
  split
  · exact .bind (.required _) fun _ _ => .bind (.required _) fun _ _ => .bind (.required _) fun _ _ =>
      .bind (.check _) fun _ _ => .ok _
  split
  · exact .bind (.check _) fun _ _ => .bind (.required _) fun _ _ => .bind (.required _) fun _ _ => .ok _
  · exact .error

theorem expectedPath_refuses : Refuses (expectedPath rt source query instrument orderId) := by
  unfold expectedPath
  split
  · exact (Refuses.bind (.check _) fun _ _ => .bind rawCaptureRequest_refuses fun _ _ => .ok _).map
  split
  · refine (Refuses.bind (.check _) fun _ _ => .bind (.required _) fun _ _ => .bind (.required _) fun _ _ =>
      .bind (.required _) fun _ _ => .bind (.required _) fun _ _ => .bind (.required _) fun _ _ =>
      .bind (.required _) fun _ _ => .bind rawCaptureRequest_refuses fun _ _ => .ok _).map
  split
  · exact (Refuses.bind (.check _) fun _ _ => .bind (.required _) fun _ _ =>
      .bind rawCaptureRequest_refuses fun _ _ => .ok _).map
  split
  · exact (Refuses.bind (.check _) fun _ _ => .bind (.required _) fun _ _ => .bind (.required _) fun _ _ =>
      .bind (.required _) fun _ _ => .bind (.required _) fun _ _ =>
      .bind rawCaptureRequest_refuses fun _ _ => .ok _).map
  split
  · exact (Refuses.bind (.check _) fun _ _ => .bind (.required _) fun _ _ => .bind (.required _) fun _ _ =>
      .bind rawCaptureRequest_refuses fun _ _ => .ok _).map
  · unfold fixedPath
    split
    · exact .ok _
    · exact .bind (.check _) fun _ _ => .ok _

theorem routed_refuses {capture : Record} :
    Refuses (routed rt capture source query instrument orderId) :=
  .bind (.check _) fun _ _ => .bind expectedPath_refuses fun _ _ => .bind (.required _) fun _ _ =>
    .bind (.check _) fun _ _ => .ok _

theorem captureBody_refuses {capture : Record} : Refuses (captureBody rt capture) :=
  .bind (.check _) fun _ _ => .bind (.check _) fun _ _ => .bind (.required _) fun _ _ =>
    .bind (.required _) fun _ _ => .bind (.required _) fun _ _ => .bind (.check _) fun _ _ => .ok _

theorem captureTime_raises {value : Value} {e : Raised} (h : captureTime rt value = .error e) :
    e ∈ [Raised.attribute, .type, .value] := by
  rcases bind_eq_error.1 h with raised | ⟨_, _, h⟩
  · simp [required_raises raised]
  · simp [required_raises h]

theorem captureText_raises {capture : Record} {body : List UInt8} {e : Raised}
    (h : captureText rt capture body = .error e) : e ∈ [Raised.attribute, .type, .value] := by
  rcases bind_eq_error.1 h with raised | ⟨_, _, h⟩
  · exact captureTime_raises raised
  rcases bind_eq_error.1 h with raised | ⟨_, _, h⟩
  · exact captureTime_raises raised
  rcases bind_eq_error.1 h with raised | ⟨_, _, h⟩
  · simp [check_raises raised]
  rcases bind_eq_error.1 h with raised | ⟨_, _, h⟩
  · simp [required_raises raised]
  · cases h

end Refusals

section Queries

variable {rt : Runtime} {source path : String} {query authorized payload : Query}
  {instrument orderId : Option String} {a : Arguments}

theorem either {b c : Bool} : (!b && !c) = false ↔ b = true ∨ c = true := by
  cases b <;> cases c <;> simp

theorem lookup_eq_none {α : Type} {entries : List (String × α)} {key : String}
    (absent : key ∉ entries.map Prod.fst) : entries.lookup key = none := by
  rw [List.lookup_eq_none_iff]
  intro entry mem
  rw [bne_iff_ne]
  rintro rfl
  exact absent (List.mem_map_of_mem mem)

theorem mem_of_lookup {κ ν : Type} [BEq κ] [LawfulBEq κ] {entries : List (κ × ν)} {key : κ} {value : ν}
    (h : entries.lookup key = some value) : (key, value) ∈ entries := by
  obtain ⟨before, after, rfl, _⟩ := List.lookup_eq_some_iff.1 h
  exact List.mem_append_right _ List.mem_cons_self

theorem sameQuery_lookup {other : Query} (h : sameQuery query other = true) (key : String) :
    query.lookup key = other.lookup key := by
  by_cases mem : key ∈ (query ++ other).map Prod.fst
  · obtain ⟨entry, found, rfl⟩ := List.mem_map.1 mem
    simpa using List.all_eq_true.1 h entry found
  · rw [List.map_append, List.mem_append, not_or] at mem
    rw [lookup_eq_none mem.1, lookup_eq_none mem.2]

theorem sameKeys_lookup {keys : List String} (h : sameKeys query keys = true) {key : String}
    (other : key ∉ keys) : query.lookup key = none := by
  refine lookup_eq_none fun mem => other ?_
  obtain ⟨entry, found, rfl⟩ := List.mem_map.1 mem
  rw [sameKeys, Bool.and_eq_true, List.all_eq_true] at h
  simpa using h.1 entry found

/-- Entries that a query has, and all of them, are the query. -/
theorem lookup_of_entries {entries : Query} (each : ∀ entry ∈ entries, query.lookup entry.1 = some entry.2)
    (others : ∀ key, key ∉ entries.map Prod.fst → query.lookup key = none) (key : String) :
    entries.lookup key = query.lookup key := by
  cases found : entries.lookup key with
  | none =>
    by_cases mem : key ∈ entries.map Prod.fst
    · obtain ⟨entry, standing, rfl⟩ := List.mem_map.1 mem
      rw [List.lookup_eq_none_iff] at found
      simpa using found entry standing
    · exact (others key mem).symm
  | some value => exact (each _ (mem_of_lookup found)).symm

theorem historyInterval_eq_ok {after before : Option String} {texts : String × String}
    (h : historyInterval rt after before = .ok texts) :
    after = some texts.1 ∧ before = some texts.2 := by
  obtain ⟨start, first, h⟩ := bind_eq_ok.1 (catching_eq_ok.1 h)
  obtain ⟨stop, last, h⟩ := bind_eq_ok.1 h
  obtain ⟨_, _, h⟩ := bind_eq_ok.1 h
  obtain ⟨_, _, h⟩ := bind_eq_ok.1 h
  obtain ⟨_, _, h⟩ := bind_eq_ok.1 h
  obtain ⟨_, _, h⟩ := bind_eq_ok.1 h
  obtain ⟨_, _, h⟩ := bind_eq_ok.1 h
  cases h
  exact ⟨Json.required_eq_ok.1 first, Json.required_eq_ok.1 last⟩

theorem within_eq_some {low high n : ℤ} {x : Option ℤ} (h : within low high x = some n) :
    x = some n := (Option.filter_eq_some_iff.1 h).1

theorem rawCaptureRequest_history (history : source = "funding_transfers" ∨ source = "fill_history") :
    rawCaptureRequest rt source a = historyRequest rt source a := by
  rcases history with rfl | rfl <;> rfl

theorem historyRequest_eq_ok (h : historyRequest rt source a = .ok (payload, authorized)) :
    ∃ after before limit offset, a.after = some after ∧ a.before = some before ∧
      a.limit = some limit ∧ a.offset = some offset ∧
      authorized = historyPage after before limit offset ++ optionally "type" a.transferType
        ++ optionally "instrument" a.instrument := by
  obtain ⟨⟨after, before⟩, interval, h⟩ := bind_eq_ok.1 h
  obtain ⟨limit, limited, h⟩ := bind_eq_ok.1 h
  obtain ⟨offset, shifted, h⟩ := bind_eq_ok.1 h
  obtain ⟨_, _, h⟩ := bind_eq_ok.1 h
  cases h
  obtain ⟨first, last⟩ := historyInterval_eq_ok interval
  exact ⟨after, before, limit, offset, first, last, within_eq_some (Json.required_eq_ok.1 limited),
    within_eq_some (Json.required_eq_ok.1 shifted), rfl⟩

theorem asInt_eq_some {x : Option Parameter} {n : ℤ} (h : x.bind Parameter.asInt = some n) :
    x = some (.int n) := by
  obtain ⟨value, rfl, h⟩ := Option.bind_eq_some_iff.1 h
  cases value with
  | int m =>
    cases h
    rfl
  | text s => cases h

theorem asText_eq_some {x : Option Parameter} {s : String} (h : x.bind Parameter.asText = some s) :
    x = some (.text s) := by
  obtain ⟨value, rfl, h⟩ := Option.bind_eq_some_iff.1 h
  cases value with
  | int m => cases h
  | text t =>
    cases h
    rfl

theorem textIfAny_eq_some {x : Option Parameter} {s : Option String} (h : textIfAny x = some s) :
    x = s.map Parameter.text := by
  unfold textIfAny at h
  split at h <;> cases h <;> rfl

/-- An optional field stands in the query as it does in what is authorized. -/
theorem lookup_optionally {field : String} {value : Option String}
    (h : query.lookup field = value.map Parameter.text) :
    (∀ entry ∈ optionally field value, query.lookup entry.1 = some entry.2) ∧
      (field ∉ (optionally field value).map Prod.fst → query.lookup field = none) := by
  cases value with
  | none => exact ⟨fun _ mem => (nomatch mem), fun _ => h⟩
  | some text =>
    refine ⟨?_, fun absent => absurd List.mem_cons_self absent⟩
    intro entry mem
    cases List.mem_singleton.1 mem
    exact h

theorem orderFillsPath_query (h : orderFillsPath rt query orderId = .ok (path, authorized))
    (key : String) : authorized.lookup key = query.lookup key := by
  obtain ⟨_, same, h⟩ := bind_eq_ok.1 h
  obtain ⟨⟨_, found⟩, requested, h⟩ := bind_eq_ok.1 h
  obtain ⟨_, _, requested⟩ := bind_eq_ok.1 requested
  obtain ⟨_, _, requested⟩ := bind_eq_ok.1 requested
  cases requested
  cases h
  rw [check_eq_ok, Bool.not_eq_false'] at same
  exact (sameQuery_lookup same key).symm

theorem historyPath_query (history : source = "funding_transfers" ∨ source = "fill_history")
    (h : historyPath rt source query = .ok (path, authorized)) (key : String) :
    authorized.lookup key = query.lookup key := by
  obtain ⟨_, keys, h⟩ := bind_eq_ok.1 h
  obtain ⟨limit, limited, h⟩ := bind_eq_ok.1 h
  obtain ⟨offset, shifted, h⟩ := bind_eq_ok.1 h
  obtain ⟨after, first, h⟩ := bind_eq_ok.1 h
  obtain ⟨before, last, h⟩ := bind_eq_ok.1 h
  obtain ⟨transferType, typed, h⟩ := bind_eq_ok.1 h
  obtain ⟨instrument, named, h⟩ := bind_eq_ok.1 h
  obtain ⟨⟨_, found⟩, requested, h⟩ := bind_eq_ok.1 h
  cases h
  rw [rawCaptureRequest_history history] at requested
  obtain ⟨_, _, _, _, ⟨⟩, ⟨⟩, ⟨⟩, ⟨⟩, rfl⟩ := historyRequest_eq_ok requested
  have typed := lookup_optionally (textIfAny_eq_some (Json.required_eq_ok.1 typed))
  have named := lookup_optionally (textIfAny_eq_some (Json.required_eq_ok.1 named))
  have limited := asInt_eq_some (Json.required_eq_ok.1 limited)
  have shifted := asInt_eq_some (Json.required_eq_ok.1 shifted)
  have first := asText_eq_some (Json.required_eq_ok.1 first)
  have last := asText_eq_some (Json.required_eq_ok.1 last)
  refine lookup_of_entries ?_ ?_ key
  · intro entry mem
    simp only [List.mem_append, historyPage, List.mem_cons, List.not_mem_nil, or_false] at mem
    rcases mem with ((rfl | rfl | rfl | rfl) | mem) | mem
    · exact first
    · exact last
    · exact limited
    · exact shifted
    · exact typed.1 entry mem
    · exact named.1 entry mem
  · intro k absent
    simp only [List.map_append, List.mem_append, not_or] at absent
    by_cases isType : k = "type"
    · subst isType
      exact typed.2 absent.1.2
    by_cases isInstrument : k = "instrument"
    · subst isInstrument
      exact named.2 absent.2
    have outside := absent.1.1
    simp only [historyPage, List.map_cons, List.map_nil, List.mem_cons, List.not_mem_nil, or_false,
      not_or] at outside
    rcases either.1 (check_eq_ok.1 keys) with keys | keys
    · exact sameKeys_lookup keys (by simpa using outside)
    · refine sameKeys_lookup keys ?_
      split <;> simp [isType, isInstrument, outside]

theorem depthPath_query (h : depthPath rt query instrument = .ok (path, authorized)) (key : String) :
    authorized.lookup key = query.lookup key := by
  obtain ⟨_, keys, h⟩ := bind_eq_ok.1 h
  obtain ⟨level, leveled, h⟩ := bind_eq_ok.1 h
  obtain ⟨⟨_, found⟩, requested, h⟩ := bind_eq_ok.1 h
  cases h
  obtain ⟨_, _, requested⟩ := bind_eq_ok.1 requested
  obtain ⟨_, bounded, requested⟩ := bind_eq_ok.1 requested
  obtain ⟨_, _, requested⟩ := bind_eq_ok.1 requested
  cases requested
  cases within_eq_some (Json.required_eq_ok.1 bounded)
  rw [check_eq_ok, Bool.not_eq_false'] at keys
  refine lookup_of_entries ?_ ?_ key
  · intro entry mem
    cases List.mem_singleton.1 mem
    exact asInt_eq_some (Json.required_eq_ok.1 leveled)
  · exact fun k absent => sameKeys_lookup keys absent

theorem orderPagePath_query (h : orderPagePath rt query = .ok (path, authorized)) (key : String) :
    authorized.lookup key = query.lookup key := by
  obtain ⟨_, shape, h⟩ := bind_eq_ok.1 h
  obtain ⟨cursor, next, h⟩ := bind_eq_ok.1 h
  obtain ⟨version, versioned, h⟩ := bind_eq_ok.1 h
  obtain ⟨limit, limited, h⟩ := bind_eq_ok.1 h
  obtain ⟨offset, shifted, h⟩ := bind_eq_ok.1 h
  obtain ⟨⟨_, found⟩, requested, h⟩ := bind_eq_ok.1 h
  cases h
  obtain ⟨_, filtered, requested⟩ := bind_eq_ok.1 requested
  obtain ⟨_, bounded, requested⟩ := bind_eq_ok.1 requested
  obtain ⟨_, bounded', requested⟩ := bind_eq_ok.1 requested
  obtain ⟨_, _, requested⟩ := bind_eq_ok.1 requested
  cases requested
  cases (Option.filter_eq_some_iff.1 (Json.required_eq_ok.1 filtered)).1
  cases within_eq_some (Json.required_eq_ok.1 bounded)
  cases within_eq_some (Json.required_eq_ok.1 bounded')
  have next := lookup_optionally (textIfAny_eq_some (Json.required_eq_ok.1 next))
  rw [check_eq_ok, Bool.or_eq_false_iff] at shape
  obtain ⟨keys, last⟩ := shape
  have last : query.lookup "withTpSL" = some (.text "") := by simpa using last
  refine lookup_of_entries ?_ ?_ key
  · intro entry mem
    simp only [List.mem_append, List.mem_cons, List.not_mem_nil, or_false] at mem
    rcases mem with ((rfl | rfl | rfl) | mem) | rfl
    · exact asInt_eq_some (Json.required_eq_ok.1 versioned)
    · exact asInt_eq_some (Json.required_eq_ok.1 limited)
    · exact asInt_eq_some (Json.required_eq_ok.1 shifted)
    · exact next.1 entry mem
    · exact last
  · intro k absent
    simp only [List.map_append, List.mem_append, List.map_cons, List.map_nil, List.mem_cons,
      List.not_mem_nil, or_false, not_or] at absent
    by_cases isNext : k = "next"
    · subst isNext
      exact next.2 absent.1.2
    rcases either.1 keys with keys | keys
    · exact sameKeys_lookup keys (by simp [absent])
    · exact sameKeys_lookup keys (by simp [absent, isNext])

theorem tpslPagePath_query (h : tpslPagePath rt query = .ok (path, authorized)) (key : String) :
    authorized.lookup key = query.lookup key := by
  obtain ⟨_, keys, h⟩ := bind_eq_ok.1 h
  obtain ⟨limit, limited, h⟩ := bind_eq_ok.1 h
  obtain ⟨offset, shifted, h⟩ := bind_eq_ok.1 h
  obtain ⟨⟨_, found⟩, requested, h⟩ := bind_eq_ok.1 h
  cases h
  obtain ⟨_, _, requested⟩ := bind_eq_ok.1 requested
  obtain ⟨_, bounded, requested⟩ := bind_eq_ok.1 requested
  obtain ⟨_, bounded', requested⟩ := bind_eq_ok.1 requested
  cases requested
  cases within_eq_some (Json.required_eq_ok.1 bounded)
  cases within_eq_some (Json.required_eq_ok.1 bounded')
  rw [check_eq_ok, Bool.not_eq_false'] at keys
  refine lookup_of_entries ?_ ?_ key
  · intro entry mem
    simp only [List.mem_cons, List.not_mem_nil, or_false] at mem
    rcases mem with rfl | rfl
    · exact asInt_eq_some (Json.required_eq_ok.1 limited)
    · exact asInt_eq_some (Json.required_eq_ok.1 shifted)
  · exact fun k absent => sameKeys_lookup keys absent

/-- The query of a route is the query that was expected. -/
theorem expectedPath_query
    (h : expectedPath rt source query instrument orderId = .ok (some (path, authorized))) (key : String) :
    authorized.lookup key = query.lookup key := by
  unfold expectedPath at h
  split at h
  · obtain ⟨_, found, ⟨⟩⟩ := map_eq_ok.1 h
    exact orderFillsPath_query found key
  split at h
  · obtain ⟨_, found, ⟨⟩⟩ := map_eq_ok.1 h
    exact historyPath_query ‹_› found key
  split at h
  · obtain ⟨_, found, ⟨⟩⟩ := map_eq_ok.1 h
    exact depthPath_query found key
  split at h
  · obtain ⟨_, found, ⟨⟩⟩ := map_eq_ok.1 h
    exact orderPagePath_query found key
  split at h
  · obtain ⟨_, found, ⟨⟩⟩ := map_eq_ok.1 h
    exact tpslPagePath_query found key
  · unfold fixedPath at h
    split at h
    · cases h
    · obtain ⟨_, same, h⟩ := bind_eq_ok.1 h
      cases h
      rw [check_eq_ok, Bool.not_eq_false'] at same
      exact (sameQuery_lookup same key).symm

end Queries

section Outcome

variable {rt : Runtime} {capture : Record} {source : String} {query : Query}
  {instrument orderId : Option String}

/-- A body that is returned as it was read, for the request that was expected. -/
structure Lossless (rt : Runtime) (capture : Record) (source : String) (query : Query)
    (instrument orderId : Option String) (value : JsonValue DecimalNumber) : Prop where
  origin : capture.get "source" = .str source
  route : ∃ path authorized, expectedPath rt source query instrument orderId = .ok (some (path, authorized)) ∧
    capture.get "path" = .str path ∧ (∀ key, authorized.lookup key = query.lookup key) ∧
    ∃ text entries, capture.get "query_json" = .str text ∧
      Document queryHooks rt.room text.toList (.dict entries) ∧
      ∀ key, entries.lookup key = ((wireQuery authorized).lookup key).map .str
  body : ∃ encoded body text, capture.get "body_base64" = .str encoded ∧
    Base64.decode encoded.toList = some body ∧ capture.get "body_bytes" = .int body.length ∧
    capture.get "body_sha256" = .str (rt.sha256 body) ∧
    ByteArray.utf8Decode? ⟨body.toArray⟩ = some text ∧ Document exactHooks rt.room text.toList value
  finite : value.Holds (fun n => n.isFinite = true) List.Nodup

/-- The parser raises its own error or returns a body as it was read. -/
def Accounted (rt : Runtime) (capture : Record) (source : String) (query : Query)
    (instrument orderId : Option String) : Except Raised (JsonValue DecimalNumber) → Prop
  | .ok value => Lossless rt capture source query instrument orderId value
  | .error (.transport _) => True
  | .error _ => False

/-- A capture whose query, on the right route, nests too deep, or whose body, after every other
check, does, or has a number that is no decimal: each of them the first thing wrong in its text. -/
inductive Overruns (rt : Runtime) (capture : Record) (source : String) (query : Query)
    (instrument orderId : Option String) : Prop
  | query {route : String × Query} {text : String} :
      routed rt capture source query instrument orderId = .ok route →
      capture.get "query_json" = .str text →
      DocumentRaises queryHooks .recursion rt.room text.toList →
      Overruns rt capture source query instrument orderId
  | body {route : String × Query} {loaded : JsonValue (Option Literal)} {body : List UInt8}
      {text : List Char} {f : Raised} :
      routed rt capture source query instrument orderId = .ok route →
      loadedQuery rt capture = .ok loaded → equalsQuery loaded (wireQuery route.2) = true →
      captureBody rt capture = .ok body → captureText rt capture body = .ok text →
      f = .invalidOperation ∨ f = .recursion → DocumentRaises bodyHooks f rt.room text →
      Overruns rt capture source query instrument orderId

theorem asStr_eq_some {value : Value} {text : String} (h : asStr value = some text) :
    value = .str text := by
  cases value with
  | str s =>
    cases h
    rfl
  | _ => cases h

theorem isStr_eq_true {value : Value} {text : String} (h : isStr value text = true) :
    value = .str text := by
  cases value with
  | str s =>
    have same : s = text := by simpa [isStr] using h
    rw [same]
  | _ => cases h

theorem equalsQuery_lookup {N : Type} {loaded : JsonValue N} {expected : List (Text × Text)}
    (h : equalsQuery loaded expected = true) : ∃ entries, loaded = .dict entries ∧
      ∀ key, entries.lookup key = (expected.lookup key).map .str := by
  cases loaded with
  | dict entries =>
    rw [equalsQuery, Bool.and_eq_true, List.all_eq_true, List.all_eq_true] at h
    refine ⟨entries, rfl, fun key => ?_⟩
    cases found : entries.lookup key with
    | none =>
      cases wanted : expected.lookup key with
      | none => rfl
      | some text =>
        have present := h.2 _ (mem_of_lookup wanted)
        rw [found] at present
        cases present
    | some tree =>
      have same := h.1 _ (mem_of_lookup found)
      rw [Option.any_eq_true] at same
      obtain ⟨text, wanted, same⟩ := same
      dsimp only at wanted same
      rw [wanted]
      cases tree with
      | str s =>
        have same : s = text := by simpa [isText] using same
        rw [same]
        rfl
      | _ => cases same
  | _ => cases h

theorem routed_eq_ok {route : String × Query}
    (h : routed rt capture source query instrument orderId = .ok route) :
    expectedPath rt source query instrument orderId = .ok (some route) ∧
      capture.get "source" = .str source ∧ capture.get "path" = .str route.1 := by
  obtain ⟨_, _, h⟩ := bind_eq_ok.1 h
  obtain ⟨expected, found, h⟩ := bind_eq_ok.1 h
  obtain ⟨⟨path, authorized⟩, named, h⟩ := bind_eq_ok.1 h
  obtain ⟨_, same, h⟩ := bind_eq_ok.1 h
  cases h
  rw [Json.required_eq_ok.1 named] at found
  rw [check_eq_ok, Bool.or_eq_false_iff, Bool.not_eq_false', Bool.not_eq_false'] at same
  exact ⟨found, isStr_eq_true same.1, isStr_eq_true same.2⟩

theorem captureBody_eq_ok {body : List UInt8} (h : captureBody rt capture = .ok body) :
    ∃ encoded, capture.get "body_base64" = .str encoded ∧
      Base64.decode encoded.toList = some body ∧ capture.get "body_bytes" = .int body.length ∧
      capture.get "body_sha256" = .str (rt.sha256 body) := by
  obtain ⟨_, _, h⟩ := bind_eq_ok.1 h
  obtain ⟨_, _, h⟩ := bind_eq_ok.1 h
  obtain ⟨digest, digested, h⟩ := bind_eq_ok.1 h
  obtain ⟨encoded, bounded, h⟩ := bind_eq_ok.1 h
  obtain ⟨decoded, found, h⟩ := bind_eq_ok.1 h
  obtain ⟨_, same, h⟩ := bind_eq_ok.1 h
  cases h
  have digested := asStr_eq_some (Option.filter_eq_some_iff.1 (Json.required_eq_ok.1 digested)).1
  have bounded := asStr_eq_some (Option.filter_eq_some_iff.1 (Json.required_eq_ok.1 bounded)).1
  rw [check_eq_ok, Bool.or_eq_false_iff, Bool.not_eq_false'] at same
  obtain ⟨length, digest_eq⟩ := same
  refine ⟨encoded, bounded, Json.required_eq_ok.1 found, ?_, ?_⟩
  · cases bytes : capture.get "body_bytes" with
    | int n =>
      rw [bytes] at length
      have same : n = body.length := by
        simp only [intWithin, decide_eq_true_eq] at length
        omega
      rw [same]
    | _ =>
      rw [bytes] at length
      cases length
  · have same : rt.sha256 body = digest := by simpa using digest_eq
    rw [same, digested]

theorem loadedQuery_raises {e : Raised} (h : loadedQuery rt capture = .error e) :
    e ∈ [Raised.type, .value] ∨ e = .recursion ∧ ∃ text, capture.get "query_json" = .str text ∧
      DocumentRaises queryHooks .recursion rt.room text.toList := by
  rcases bind_eq_error.1 h with raised | ⟨text, found, h⟩
  · simp [required_raises raised]
  by_cases refused : e = .value
  · simp [refused]
  have raised := (document_eq_error refused).1 h
  rcases raised.2.cause with cause | cause | ⟨l, cause⟩ | ⟨_, cause⟩
  · exact absurd cause refused
  · rw [cause] at raised
    exact .inr ⟨cause, text, asStr_eq_some (Json.required_eq_ok.1 found), raised⟩
  · unfold queryNumber at cause
    split at cause
    · cases cause
      exact absurd rfl refused
    · cases cause
  · cases cause

theorem document_raises {text : List Char} {e : Raised}
    (h : document bodyHooks rt.room text = .error e) :
    e = .value ∨ (e = .invalidOperation ∨ e = .recursion) ∧ DocumentRaises bodyHooks e rt.room text := by
  by_cases refused : e = .value
  · exact .inl refused
  have raised := (document_eq_error refused).1 h
  refine .inr ⟨?_, raised⟩
  rcases raised.2.cause with cause | cause | ⟨l, cause⟩ | ⟨_, cause⟩
  · exact absurd cause refused
  · exact .inr cause
  · unfold decimal at cause
    split at cause
    · cases cause
    · cases cause
      exact .inl rfl
  · cases cause
    exact absurd rfl refused

/-- Where the parser returns a body, it is the body that was captured. -/
theorem parse_lossless {value : JsonValue DecimalNumber}
    (h : parseRawResponseCapture rt capture source query instrument orderId = .ok value) :
    Lossless rt capture source query instrument orderId value := by
  obtain ⟨⟨path, authorized⟩, route, h⟩ := bind_eq_ok.1 h
  obtain ⟨loaded, read, h⟩ := bind_eq_ok.1 h
  obtain ⟨_, same, h⟩ := bind_eq_ok.1 h
  obtain ⟨body, taken, h⟩ := bind_eq_ok.1 h
  obtain ⟨text, decoded, h⟩ := bind_eq_ok.1 (catching_eq_ok.1 h)
  obtain ⟨expected, named, located⟩ := routed_eq_ok route
  obtain ⟨json, found, read⟩ := bind_eq_ok.1 (catching_eq_ok.1 read)
  rw [check_eq_ok, Bool.not_eq_false'] at same
  obtain ⟨entries, rfl, entry⟩ := equalsQuery_lookup same
  obtain ⟨encoded, stored, bytes, length, digest⟩ := captureBody_eq_ok taken
  obtain ⟨_, _, decoded⟩ := bind_eq_ok.1 decoded
  obtain ⟨_, _, decoded⟩ := bind_eq_ok.1 decoded
  obtain ⟨_, _, decoded⟩ := bind_eq_ok.1 decoded
  obtain ⟨chars, utf8, decoded⟩ := bind_eq_ok.1 decoded
  cases decoded
  have value_read := document_eq_ok.1 h
  refine ⟨named, ⟨path, authorized, expected, located, expectedPath_query expected, json, entries,
    asStr_eq_some (Json.required_eq_ok.1 found), document_eq_ok.1 read, entry⟩,
    ⟨encoded, body, chars, stored, bytes, length, digest, Json.required_eq_ok.1 utf8, ?_⟩, ?_⟩
  · refine value_read.mono fun l n fits => ?_
    unfold decimal at fits
    split at fits
    · exact fits
    · cases fits
  · obtain ⟨_, _, read, _⟩ := value_read
    refine read.holds (fun l n fits => ?_) fun name n made => nomatch made
    unfold decimal at fits
    split at fits
    · cases fits
      rfl
    · cases fits

/-- What is raised is an error of the bridge, or a text overruns the scanner. -/
theorem parse_raises {e : Raised}
    (h : parseRawResponseCapture rt capture source query instrument orderId = .error e) :
    (∃ message, e = .transport message) ∨ Overruns rt capture source query instrument orderId := by
  rcases bind_eq_error.1 h with raised | ⟨⟨path, authorized⟩, route, h⟩
  · exact .inl (routed_refuses e raised)
  rcases bind_eq_error.1 h with raised | ⟨loaded, read, h⟩
  · cases outcome : loadedQuery rt capture with
    | ok loaded =>
      rw [outcome] at raised
      cases raised
    | error e' =>
      rw [outcome] at raised
      rcases loadedQuery_raises outcome with caught | ⟨_, text, found, deep⟩
      · rw [catching, if_pos caught] at raised
        cases raised
        exact .inl ⟨_, rfl⟩
      · exact .inr (.query route found deep)
  rcases bind_eq_error.1 h with raised | ⟨_, same, h⟩
  · exact .inl (Refuses.check _ e raised)
  rcases bind_eq_error.1 h with raised | ⟨body, taken, h⟩
  · exact .inl (captureBody_refuses e raised)
  rw [check_eq_ok, Bool.not_eq_false'] at same
  cases outcome : captureText rt capture body with
  | error e' =>
    rw [outcome] at h
    have caught := captureText_raises outcome
    have h : catching _ _ (Except.error e') = Except.error e := h
    rw [catching, if_pos caught] at h
    cases h
    exact .inl ⟨_, rfl⟩
  | ok text =>
    rw [outcome] at h
    have h : catching _ _ (document bodyHooks rt.room text) = Except.error e := h
    cases parsed : document bodyHooks rt.room text with
    | ok value =>
      rw [parsed] at h
      cases h
    | error e' =>
      rw [parsed] at h
      rcases document_raises parsed with rfl | ⟨escaping, raised⟩
      · cases h
        exact .inl ⟨_, rfl⟩
      · exact .inr (.body route (catching_eq_ok.1 read) same taken outcome escaping raised)

/-- A text that overruns the scanner makes the parser raise what it does not catch. -/
theorem overruns_raises (h : Overruns rt capture source query instrument orderId) :
    ∃ e, parseRawResponseCapture rt capture source query instrument orderId = .error e ∧
      (e = .invalidOperation ∨ e = .recursion) := by
  cases h with
  | query route found deep =>
    refine ⟨.recursion, bind_eq_error.2 (.inr ⟨_, route, bind_eq_error.2 (.inl ?_)⟩), .inr rfl⟩
    have raised : loadedQuery rt capture = .error .recursion := by
      rw [loadedQuery, found]
      exact (document_eq_error (by decide)).2 deep
    rw [raised]
    rfl
  | body route read same taken decoded escaping raised =>
    refine ⟨_, bind_eq_error.2 (.inr ⟨_, route, bind_eq_error.2 (.inr ⟨_, catching_eq_ok.2 read,
      bind_eq_error.2 (.inr ⟨(), ?_, bind_eq_error.2 (.inr ⟨_, taken, ?_⟩)⟩)⟩)⟩), escaping⟩
    · rw [check_eq_ok, same]
      rfl
    · rw [decoded]
      rcases escaping with rfl | rfl
      · have outcome := (document_eq_error (by decide)).2 raised
        show catching _ _ (document bodyHooks rt.room _) = _
        rw [outcome]
        rfl
      · have outcome := (document_eq_error (by decide)).2 raised
        show catching _ _ (document bodyHooks rt.room _) = _
        rw [outcome]
        rfl

/-- The parser raises its own error or returns the body as it was read, exactly where no text
overruns the scanner. -/
theorem parseRawResponseCapture_iff (rt : Runtime) (capture : Record) (source : String)
    (query : Query) (instrument orderId : Option String) :
    Accounted rt capture source query instrument orderId
        (parseRawResponseCapture rt capture source query instrument orderId) ↔
      ¬Overruns rt capture source query instrument orderId := by
  constructor
  · intro accounted overruns
    obtain ⟨e, raised, escaping⟩ := overruns_raises overruns
    rw [raised] at accounted
    rcases escaping with rfl | rfl <;> exact accounted
  · intro fits
    cases outcome : parseRawResponseCapture rt capture source query instrument orderId with
    | ok value => exact parse_lossless outcome
    | error e =>
      rcases parse_raises outcome with ⟨message, rfl⟩ | overruns
      · exact trivial
      · exact absurd overruns fits

/-- The runtime of the capture below: its digest, and the one time that it has. -/
def sampleRuntime : Runtime where
  sha256 _ := "2f83d4148d9a3e596c5661cf576a91a97b9efc3a309f4c45ad0ebc19e0e35760"
  fromIsoFormat _ := some (.aware 1_767_225_600_000_000 0)
  room := 900

/-- A capture whose body is an object with one number, of which no `Decimal` has the exponent. -/
def hugeExponent : Record := [("source", .str "funding"), ("path", .str "/api/user/funding"),
  ("query_json", .str "{}"), ("status", .int 200), ("requested_at", .str "2026-01-01T00:00:00Z"),
  ("received_at", .str "2026-01-01T00:00:00Z"), ("body_bytes", .int 27),
  ("body_sha256", .str (sampleRuntime.sha256 [])),
  ("body_base64", .str "eyJuIjoxZTk5OTk5OTk5OTk5OTk5OTk5OTl9")]

/-- The exception of an outcome. -/
def raisedBy {α : Type} : Except Raised α → Option Raised
  | .ok _ => none
  | .error e => some e

theorem hugeExponent_escapes : ¬Accounted sampleRuntime hugeExponent "funding" [] none none
    (parseRawResponseCapture sampleRuntime hugeExponent "funding" [] none none) := by
  have raised : raisedBy (parseRawResponseCapture sampleRuntime hugeExponent "funding" [] none none)
      = some .invalidOperation := by decide +kernel
  intro accounted
  cases outcome : parseRawResponseCapture sampleRuntime hugeExponent "funding" [] none none with
  | ok value =>
    rw [outcome] at raised
    cases raised
  | error e =>
    rw [outcome] at raised accounted
    cases raised
    exact accounted

end Outcome

end KairosExecution.Production.Capture
