import KairosExecution.Pagination.Snapshot

/-! `pages` of the history collector: it asks from the number of rows it has seen, follows the
cursor of the page before for orders, and retains every page with the clock readings around it.
All pages of one capture share a bound on their bytes. -/

namespace KairosExecution.Pagination

open Python Interactive Interactive.Program

/-- `ProductionHistoryComponentV1` -/
structure Component where
  path : String
  queryJson : String
  payloadJson : String
  payloadSha256 : String
  startedAt : ℤ
  finishedAt : ℤ

/-- What `capture_once` keeps between its reads. -/
structure Capture where
  totalBytes : ℕ
  previous : ℤ
  components : List Component

/-- The collector: the account of its context, and the functions of the standard library. -/
structure Collector where
  remoteAccountId : String
  /-- `str(value)` -/
  str : Value → String
  /-- `_canonical`, where it does not raise -/
  canonical : Value → Except Err String
  sha256 : String → String

variable (c : Collector)

/-- `read` of `capture_once`, for a page -/
def read (path : String) (params : Record) (capture : Capture) : Pager (Value × Capture) := do
  let before ← clock
  liftM (refuse (before < capture.previous) (.history "history clock moved backwards"))
  let answer ← fetch ⟨path, params⟩
  let after ← clock
  liftM (refuse (after < before) (.history "history clock moved backwards"))
  let payload ← liftM (c.canonical answer.value)
  let totalBytes := capture.totalBytes + payload.utf8ByteSize
  liftM (refuse (totalBytes > 4_000_000)
    (.history "history capture exceeds its cumulative size bound"))
  let query ← liftM (c.canonical (.dict params))
  return (answer.value, ⟨totalBytes, after,
    capture.components ++ [⟨path, query, payload, c.sha256 payload, before, after⟩]⟩)

/-- What `pages` has seen. -/
structure Seen where
  ids : List String := []
  cursors : List String := []
  expected : Option ℤ := none
  nextCursor : Option String := none
  capture : Capture

/-- The check of a page's shape in `pages`: its rows, its count and its cursor. -/
def historyPage (page : Value) : Except Err (List Value × ℤ × Value) :=
  match page with
  | .dict d => match Record.get d "list", Record.get d "count" with
    | .list rows, .int count =>
      if ¬(0 ≤ count ∧ count ≤ 10_000) ∨ rows.length > 100 then
        .error (.history "history pagination is malformed or exceeds its bound")
      else .ok (rows, count, Record.get d "next")
    | _, _ => .error (.history "history pagination is malformed or exceeds its bound")
  | _ => .error (.history "history page is not an object")

/-- The account checks of a row. -/
def checkOwner (orders : Bool) (row : Record) : Except Err Unit := do
  let user := row.get "user"
  refuse (orders && ((match user with | .bool _ => true | _ => false)
      || c.str user ≠ c.remoteAccountId))
    (.history "history row belongs to a different authenticated account")
  refuse (row.has "user" && c.str user ≠ c.remoteAccountId)
    (.history "history row account contradicts the capture")

/-- One row of a page in `pages`. -/
def addRow (orders : Bool) (seen : List String) : Value → Except Err (List String)
  | .dict row => match Record.get row "id" with
    | .str id => do
      refuse (¬(1 ≤ id.length ∧ id.length ≤ 160) || id ∈ seen)
        (.history "history row ID is absent, duplicate or unbounded")
      checkOwner c orders row
      return seen ++ [id]
    | _ => .error (.history "history row ID is absent, duplicate or unbounded")
  | _ => .error (.history "history row is not an object")

/-- `page.get("next")`, checked; an empty cursor is none. -/
def historyCursor (orders : Bool) (cursors : List String) : Value → Except Err (Option String)
  | .none => .ok none
  | .str text => do
    refuse (text.length > 2048) (.history "history next cursor is malformed")
    if text = "" then return none
    else do
      refuse (!orders || text ∈ cursors)
        (.history "history next cursor is unsupported or repeated")
      return some text
  | _ => .error (.history "history next cursor is malformed")

/-- What `pages` does with a page: it goes on, or returns the number of the rows seen. -/
def takeHistory (orders : Bool) (seen : Seen) (page : Value) (capture : Capture) :
    Except Err (Seen ⊕ ℕ × Capture) := do
  let (rows, count, next) ← historyPage page
  refuse (seen.expected.any (· ≠ count)) (.history "history count changed during pagination")
  let ids ← rows.foldlM (addRow c orders) seen.ids
  let cursor ← historyCursor orders seen.cursors next
  if ids.length = count then do
    refuse cursor.isSome (.history "history next cursor contradicts exhausted count")
    return .inr (ids.length, capture)
  else do
    refuse (rows.isEmpty || ids.length > count)
      (.history "history pagination ended before its reported count")
    return .inl ⟨ids, seen.cursors ++ cursor.toList, some count, cursor, capture⟩

/-- The query of `pages`. -/
def historyQuery (orders : Bool) (offset : ℕ) (nextCursor : Option String) : Record :=
  let page : Record := [("limit", .int 100), ("offset", .int offset)]
  if orders then
    page ++ ("version", .int 2) :: (nextCursor.map fun text => ("next", Value.str text)).toList
  else page

/-- One round of `pages`. -/
def historyRound (path : String) (orders : Bool) (_ : ℕ) (seen : Seen) :
    Pager (Seen ⊕ ℕ × Capture) := do
  let (page, capture) ←
    read c path (historyQuery orders seen.ids.length seen.nextCursor) seen.capture
  takeHistory c orders seen page capture

def pages (path : String) (orders : Bool) (capture : Capture) : Pager (ℕ × Capture) :=
  rounds (historyRound c path orders)
    (.history "history pagination exceeded its page bound") 100 0 { capture }

section Adversarial

variable {c}

theorem historyPage_eq_ok {page : Value} {rows : List Value} {count : ℤ} {next : Value}
    (h : historyPage page = .ok (rows, count, next)) :
    itemsOf page = rows ∧ countOf page = some count := by
  cases page with
  | dict d =>
    simp only [historyPage] at h
    split at h
    · rename_i listed counted
      split at h
      · cases h
      · cases h
        exact ⟨by simp [itemsOf, listed], by simp [countOf, counted, whole]⟩
    · cases h
  | _ => cases h

theorem addRow_appends {orders : Bool} :
    Appends (fun v => (identified v).map Prod.fst) id (addRow c orders) := by
  intro seen v seen' h
  cases v with
  | dict row =>
    simp only [addRow] at h
    split at h
    · rename_i id read
      obtain ⟨_, fresh, h⟩ := bind_eq_ok.1 h
      obtain ⟨_, -, h⟩ := bind_eq_ok.1 h
      cases h
      have unseen := (Bool.or_eq_false_iff.1 (refuse_eq_ok.1 fresh)).2
      exact ⟨id, by simp [identified, read], rfl, by simpa using unseen⟩
    · cases h
  | _ => cases h

/-- A page that is taken in appends its ids, and either more are to come or they are counted. -/
theorem takeHistory_eq_ok {orders : Bool} {seen : Seen} {page : Value} {capture : Capture}
    {turn : Seen ⊕ ℕ × Capture} (h : takeHistory c orders seen page capture = .ok turn) :
    ∃ ids count, Taken seen.ids seen.expected page ids count ∧ match turn with
      | .inl seen' => seen'.ids = ids ∧ seen'.expected = some count ∧ itemsOf page ≠ []
      | .inr result => result.1 = ids.length ∧ (ids.length : ℤ) = count := by
  obtain ⟨⟨rows, count, next⟩, shape, h⟩ := bind_eq_ok.1 h
  obtain ⟨_, same, h⟩ := bind_eq_ok.1 h
  obtain ⟨ids, added, h⟩ := bind_eq_ok.1 h
  obtain ⟨cursor, -, h⟩ := bind_eq_ok.1 h
  obtain ⟨rfl, counted⟩ := historyPage_eq_ok shape
  obtain ⟨appended, identified, distinct⟩ := addRow_appends.foldlM added
  have idsOf_page : idsOf page
      = (itemsOf page).filterMap fun v => (Pagination.identified v).map Prod.fst := by
    rw [idsOf, rowsOf, List.map_filterMap]
  have taken : Taken seen.ids seen.expected page ids count := by
    constructor
    · intro n eq
      have agree := refuse_eq_ok.1 same
      rw [eq, Option.any_some, decide_eq_false_iff_not, not_not] at agree
      exact agree.symm
    · exact counted
    · rw [appended, idsOf_page]
    · rw [identified, ← idsOf_page, idsOf, List.length_map]
    · simpa only [List.map_id] using distinct
  refine ⟨ids, count, taken, ?_⟩
  split at h
  · rename_i reached
    obtain ⟨_, -, h⟩ := bind_eq_ok.1 h
    cases h
    exact ⟨rfl, reached⟩
  · obtain ⟨_, incomplete, h⟩ := bind_eq_ok.1 h
    cases h
    have nonempty := (Bool.or_eq_false_iff.1 (refuse_eq_ok.1 incomplete)).1
    exact ⟨rfl, rfl, by simpa using nonempty⟩

/-- A read asks for one page. -/
theorem read_meets {path : String} {params : Record} {capture : Capture} {bound : ℕ}
    {h : History pageInterface Err} (room : fetches h < bound) :
    Meets (within bound) (read c path params capture) h fun result h' =>
      fetched h' = fetched h ++ [result.1] ∧ fetches h' = fetches h + 1 := by
  apply meets_clock_bind
  intro before
  apply Meets.lift_bind
  intro _ _
  apply meets_fetch_bind
  · rwa [fetches_clock]
  intro answer
  apply meets_clock_bind
  intro after
  apply Meets.lift_bind
  intro _ _
  apply Meets.lift_bind
  intro payload _
  apply Meets.lift_bind
  intro _ _
  apply Meets.lift_bind
  intro query _
  apply Meets.pure
  constructor
  · rw [fetched_clock, fetched_answer, fetched_clock]
  · rw [fetches_clock, fetches_answer, fetches_clock]

theorem pages_meets (path : String) (orders : Bool) (capture : Capture) :
    Meets (within 100) (pages c path orders capture) [] fun result h =>
      ∃ ids, Authoritative (fetched h) ids ∧ result.1 = ids.length := by
  apply Meets.rounds 100 fun i (seen : Seen) h =>
    fetches h = i ∧ Sofar (fetched h) seen.ids seen.expected
  · rintro i seen h before ⟨count, sofar⟩
    apply Meets.bind (read_meets (by rwa [count]))
    rintro ⟨page, capture⟩ h' _ ⟨brought, once⟩
    apply Meets.lift
    intro turn eq
    obtain ⟨ids, reported, taken, turned⟩ := takeHistory_eq_ok eq
    cases turn with
    | inl seen' =>
      obtain ⟨rfl, expected, nonempty⟩ := turned
      refine ⟨by rw [once, count], ?_⟩
      rw [brought, expected]
      exact sofar.next taken nonempty
    | inr result =>
      obtain ⟨number, reached⟩ := turned
      refine ⟨ids, ?_, number⟩
      rw [brought]
      exact sofar.last taken reached
  · rfl
  · exact ⟨rfl, .start⟩

end Adversarial

section Served

variable {c} {s : Snapshot} {time : ℕ → ℤ} {orders : Bool}

/-- The number of pages that a snapshot is served in. -/
def Snapshot.pageTotal (s : Snapshot) : ℕ := (s.rows.length - 1) / 100 + 1

/-- The snapshot is one that the collector may retain, its pages are written as `texts`, and
the clock does not go back. -/
structure Retainable (c : Collector) (s : Snapshot) (orders : Bool) (capture : Capture)
    (time : ℕ → ℤ) (texts : ℕ → String) : Prop where
  short : ∀ row ∈ s.rows, row.1.length ≤ 160
  owned : ∀ row ∈ s.rows, checkOwner c orders row.2 = .ok ()
  written : ∀ i, c.canonical (s.page (100 * i) 100) = .ok (texts i)
  asked : ∀ offset, ∃ text, c.canonical (.dict (historyQuery orders offset none)) = .ok text
  size : capture.totalBytes
    + ((List.range s.pageTotal).map fun i => (texts i).utf8ByteSize).sum ≤ 4_000_000
  forward : Monotone time
  later : capture.previous ≤ time 0

theorem historyPage_page (offset : ℕ) :
    historyPage (s.page offset 100)
      = .ok ((s.slice offset 100).map fun row => .dict row.2, (s.rows.length : ℤ), .none) := by
  have bounded := s.bounded
  have short := s.length_slice_le offset 100
  have fits : ¬(¬(0 ≤ (s.rows.length : ℤ) ∧ (s.rows.length : ℤ) ≤ 10_000)
      ∨ ((s.slice offset 100).map fun row => Value.dict row.2).length > 100) := by
    rw [List.length_map]
    omega
  simp only [historyPage, Snapshot.page, Record.get, List.lookup]
  exact if_neg fits

theorem addRow_row {seen : List String} {row : String × Record} (mem : row ∈ s.rows)
    (short : row.1.length ≤ 160) (owned : checkOwner c orders row.2 = .ok ())
    (fresh : row.1 ∉ seen) : addRow c orders seen (.dict row.2) = .ok (seen ++ [row.1]) := by
  have positive : 1 ≤ row.1.length := by
    rw [Nat.one_le_iff_ne_zero, ne_eq, String.length_eq_zero_iff]
    exact s.named row mem
  simp only [addRow, s.get_id mem]
  exact bind_eq_ok.2 ⟨(), refuse_eq_ok.2 (by simp [positive, short, fresh]),
    bind_eq_ok.2 ⟨(), owned, rfl⟩⟩

/-- A served page is taken in: it is the last one where the rows end with it. -/
theorem takeHistory_page {seen : Seen} {i : ℕ} {capture : Capture}
    (short : ∀ row ∈ s.rows, row.1.length ≤ 160)
    (owned : ∀ row ∈ s.rows, checkOwner c orders row.2 = .ok ())
    (ids : seen.ids = (s.rows.take (100 * i)).map Prod.fst)
    (same : ∀ n, seen.expected = some n → n = s.rows.length) :
    takeHistory c orders seen (s.page (100 * i) 100) capture
      = .ok (if s.rows.length ≤ 100 * (i + 1) then .inr (s.rows.length, capture)
        else .inl ⟨(s.rows.take (100 * (i + 1))).map Prod.fst, seen.cursors,
          some s.rows.length, none, capture⟩) := by
  have added := s.foldlM_slice (addRow c orders) Prod.fst id (100 * i) 100 (fun _ => rfl)
    fun seen row mem fresh =>
      addRow_row mem (short row mem) (owned row mem) (by simpa using fresh)
  rw [← ids] at added
  have agree : seen.expected.any (· ≠ (s.rows.length : ℤ)) = false := by
    cases eq : seen.expected with
    | none => rfl
    | some n => simp [same n eq]
  rw [takeHistory, historyPage_page]
  refine bind_eq_ok.2 ⟨_, rfl, bind_eq_ok.2 ⟨(), refuse_eq_ok.2 agree, bind_eq_ok.2 ⟨_, added,
    bind_eq_ok.2 ⟨none, rfl, ?_⟩⟩⟩⟩
  by_cases last : s.rows.length ≤ 100 * (i + 1)
  · have all : s.rows.take (100 * i + 100) = s.rows := List.take_of_length_le (by omega)
    rw [if_pos last, all, List.length_map, if_pos rfl]
    rfl
  · have nonempty := s.slice_ne_nil (100 * i) 100 (by omega) (by omega)
    have length : (s.rows.take (100 * i + 100)).length = 100 * i + 100 := by
      rw [List.length_take]
      omega
    rw [if_neg last, List.length_map, if_neg (by rw [length]; omega)]
    refine bind_eq_ok.2 ⟨(), refuse_eq_ok.2 ?_, by simp; rfl⟩
    simp only [Bool.or_eq_false_iff, decide_eq_false_iff_not, length]
    exact ⟨by simpa using nonempty, by omega⟩

@[simp] theorem execute_clock (reads : ℕ) (h : History pageInterface Err) :
    execute (s.serve time) clock reads h
      = (.ok (time reads), reads + 1, ⟨PageCall.clock, some (.ok (time reads))⟩ :: h) := rfl

@[simp] theorem execute_lift {α : Type} (x : Except Err α) (reads : ℕ)
    (h : History pageInterface Err) :
    execute (s.serve time) (liftM x : Pager α) reads h = (x, reads, h) := rfl

/-- A read of a served page retains it, where the clock and the size allow. -/
theorem execute_read (path : String) {params : Record} {capture : Capture} {reads : ℕ}
    {h : History pageInterface Err} {page : Value} {text query : String}
    (served : s.page (natOf (params.get "offset")) (natOf (params.get "limit")) = page)
    (later : capture.previous ≤ time reads) (forward : time reads ≤ time (reads + 1))
    (written : c.canonical page = .ok text)
    (size : capture.totalBytes + text.utf8ByteSize ≤ 4_000_000)
    (asked : c.canonical (.dict params) = .ok query) :
    ∃ h', execute (s.serve time) (read c path params capture) reads h
      = (.ok (page, ⟨capture.totalBytes + text.utf8ByteSize, time (reads + 1),
          capture.components
            ++ [⟨path, query, text, c.sha256 text, time reads, time (reads + 1)⟩]⟩),
        reads + 2, h') := by
  have first : refuse (time reads < capture.previous) (.history "history clock moved backwards")
      = .ok () := refuse_eq_ok.2 (decide_eq_false (not_lt.2 later))
  have second : refuse (time (reads + 1) < time reads)
      (.history "history clock moved backwards") = .ok () :=
    refuse_eq_ok.2 (decide_eq_false (not_lt.2 forward))
  have fits : refuse (capture.totalBytes + text.utf8ByteSize > 4_000_000)
      (.history "history capture exceeds its cumulative size bound") = .ok () :=
    refuse_eq_ok.2 (decide_eq_false (not_lt.2 size))
  subst page
  have fetch_page : ∀ h', execute (s.serve time) (fetch ⟨path, params⟩) (reads + 1) h'
      = (.ok ⟨s.page (natOf (params.get "offset")) (natOf (params.get "limit")), []⟩, reads + 1,
        ⟨PageCall.fetch ⟨path, params⟩, some (.ok ⟨s.page (natOf (params.get "offset"))
          (natOf (params.get "limit")), []⟩)⟩ :: h') := fun _ => rfl
  constructor
  simp only [read, execute_bind, execute_clock, execute_lift, first, fetch_page, second, written,
    fits, asked]
  rfl

/-- The payloads that a capture retains. -/
def Capture.payloads (capture : Capture) : List String := capture.components.map (·.payloadJson)

/-- With `n` rounds left, the pages before round `i` have been taken in and retained. -/
structure Retaining (s : Snapshot) (start : Capture) (time : ℕ → ℤ) (texts : ℕ → String) (n i : ℕ)
    (seen : Seen) (reads : ℕ) : Prop where
  rounds : i + n = 100
  more : i = 0 ∨ 100 * i < s.rows.length
  ids : seen.ids = (s.rows.take (100 * i)).map Prod.fst
  same : ∀ count, seen.expected = some count → count = s.rows.length
  cursor : seen.nextCursor = none
  clock : seen.capture.previous ≤ time reads
  bytes : seen.capture.totalBytes
    = start.totalBytes + ((List.range i).map fun i => (texts i).utf8ByteSize).sum
  retained : seen.capture.payloads = start.payloads ++ (List.range i).map texts

theorem natOf_historyQuery_offset (orders : Bool) (offset : ℕ) :
    natOf ((historyQuery orders offset none).get "offset") = offset := by
  cases orders <;> simp [historyQuery, Record.get, List.lookup, natOf]

theorem natOf_historyQuery_limit (orders : Bool) (offset : ℕ) :
    natOf ((historyQuery orders offset none).get "limit") = 100 := by
  cases orders <;> simp [historyQuery, Record.get, natOf]

theorem sum_range_le {f : ℕ → ℕ} {m n : ℕ} (le : m ≤ n) :
    ((List.range m).map f).sum ≤ ((List.range n).map f).sum := by
  induction le with
  | refl => exact le_refl _
  | step _ ih =>
    rw [List.range_succ, List.map_append, List.sum_append]
    exact Nat.le_add_right_of_le ih

theorem Retaining.next {start : Capture} {texts : ℕ → String} {n i : ℕ} {seen : Seen} {reads : ℕ}
    {h : History pageInterface Err} (path : String)
    (fits : Retainable c s orders start time texts)
    (ready : Retaining s start time texts (n + 1) i seen reads) :
    ∃ capture h', execute (s.serve time) (read c path
          (historyQuery orders seen.ids.length seen.nextCursor) seen.capture) reads h
        = (.ok (s.page (100 * i) 100, capture), reads + 2, h')
      ∧ capture.previous = time (reads + 1)
      ∧ capture.totalBytes
        = start.totalBytes + ((List.range (i + 1)).map fun i => (texts i).utf8ByteSize).sum
      ∧ capture.payloads = start.payloads ++ (List.range (i + 1)).map texts := by
  have offset : seen.ids.length = 100 * i := by
    rw [ready.ids, List.length_map, List.length_take]
    rcases ready.more with rfl | more <;> omega
  obtain ⟨query, asked⟩ := fits.asked (100 * i)
  have served : s.page (natOf ((historyQuery orders (100 * i) none).get "offset"))
      (natOf ((historyQuery orders (100 * i) none).get "limit")) = s.page (100 * i) 100 := by
    rw [natOf_historyQuery_offset, natOf_historyQuery_limit]
  have bytes : seen.capture.totalBytes + (texts i).utf8ByteSize
      = start.totalBytes + ((List.range (i + 1)).map fun i => (texts i).utf8ByteSize).sum := by
    rw [ready.bytes, List.range_succ, List.map_append, List.sum_append, List.map_singleton,
      List.sum_singleton, Nat.add_assoc]
  have asked_pages : i + 1 ≤ s.pageTotal := by
    unfold Snapshot.pageTotal
    rcases ready.more with rfl | more <;> omega
  have size : seen.capture.totalBytes + (texts i).utf8ByteSize ≤ 4_000_000 := by
    rw [bytes]
    exact (Nat.add_le_add_left (sum_range_le asked_pages) _).trans fits.size
  obtain ⟨h', executed⟩ := execute_read path (h := h) served ready.clock
    (fits.forward (Nat.le_succ reads)) (fits.written i) size asked
  rw [offset, ready.cursor]
  refine ⟨_, h', executed, rfl, bytes, ?_⟩
  rw [List.range_succ, List.map_append, ← List.append_assoc, ← ready.retained]
  simp [Capture.payloads]

/-- `pages` counts every row of a snapshot and retains every page, in order. -/
theorem pages_serve {capture : Capture} {texts : ℕ → String}
    (fits : Retainable c s orders capture time texts) (path : String) :
    ∃ r, (execute (s.serve time) (pages c path orders capture) 0 []).1 = .ok r
      ∧ r.1 = s.rows.length
      ∧ r.2.payloads = capture.payloads ++ (List.range s.pageTotal).map texts := by
  apply execute_rounds (fun n i (seen : Seen) reads =>
      Retaining s capture time texts n i seen reads)
    fun (r : ℕ × Capture) => r.1 = s.rows.length
      ∧ r.2.payloads = capture.payloads ++ (List.range s.pageTotal).map texts
  · rintro i seen reads ⟨rounds, more, -⟩
    have := s.bounded
    omega
  · intro n i seen reads h ready
    obtain ⟨capture', h', executed, previous, bytes, retained⟩ := ready.next (h := h) path fits
    have turn : takeHistory c orders seen (s.page (100 * i) 100) capture' = _ :=
      takeHistory_page fits.short fits.owned ready.ids ready.same
    by_cases last : s.rows.length ≤ 100 * (i + 1)
    · have total : s.pageTotal = i + 1 := by
        unfold Snapshot.pageTotal
        rcases ready.more with rfl | more <;> omega
      rw [if_pos last] at turn
      refine .inr ⟨(s.rows.length, capture'), reads + 2, h', ?_, rfl, by rw [total]; exact retained⟩
      rw [historyRound, execute_bind, executed]
      simp only [turn]
      rfl
    · rw [if_neg last] at turn
      refine .inl ⟨⟨(s.rows.take (100 * (i + 1))).map Prod.fst, seen.cursors, some s.rows.length,
        none, capture'⟩, reads + 2, h', ?_, ?_⟩
      · rw [historyRound, execute_bind, executed]
        simp only [turn]
        rfl
      · have rounds := ready.rounds
        exact {
          rounds := by omega
          more := .inr (by omega)
          ids := rfl
          same := by
            rintro count ⟨⟩
            rfl
          cursor := rfl
          clock := previous.trans_le (fits.forward (Nat.le_succ _))
          bytes := bytes
          retained := retained }
  · exact {
      rounds := rfl
      more := .inl rfl
      ids := rfl
      same := fun _ eq => nomatch eq
      cursor := rfl
      clock := fits.later
      bytes := rfl
      retained := (List.append_nil _).symm }

end Served

end KairosExecution.Pagination
