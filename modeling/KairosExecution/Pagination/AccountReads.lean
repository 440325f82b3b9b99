import KairosExecution.Pagination.Snapshot

/-! `_pages` of the account reader: a fixed stride and, for orders, the cursor of the page
before. It returns the rows and the captures that they were read from. -/

namespace KairosExecution.Pagination

open Python Interactive Interactive.Program

def object : Value → Except Err Record
  | .dict d => .ok d
  | _ => .error (.unavailable "native PROD object is absent or malformed")

/-- `_list`: its items are objects. -/
def list : Value → Except Err (List Value)
  | .list items =>
    if items.all fun item => item.asDict.isSome then .ok items
    else .error (.unavailable "native PROD list is absent or malformed; absence is not empty")
  | _ => .error (.unavailable "native PROD list is absent or malformed; absence is not empty")

/-- `_integer`, of an integer or a decimal -/
def integer (value : Value) (label : String) (maximum : ℤ) : Except Err ℤ := do
  match whole value with
  | none => .error (.unavailable s!"{label} is not an exact integer")
  | some n => do
    refuse (n < 0 || n > maximum) (.unavailable s!"{label} exceeds its bounds")
    return n

/-- What `_pages` has read: the rows, their captures, the cursors seen, and the next one. -/
structure Reading where
  collected : Collected := {}
  captures : List Record := []
  seenCursors : List String := []
  nextCursor : Option String := none

/-- One row of a page in `_pages`, an object. -/
def addItem (records : List (String × Record)) (item : Value) :
    Except Err (List (String × Record)) :=
  match identified item with
  | some (id, row) =>
    if id = "" ∨ id ∈ records.map Prod.fst then
      .error (.unavailable "native PROD history identities are absent or repeated")
    else .ok (records ++ [(id, row)])
  | none => .error (.unavailable "native PROD history identities are absent or repeated")

/-- `page.get("next")`, checked -/
def nativeCursor (seen : List String) : Value → Except Err (Option String)
  | .none => .ok none
  | .str text =>
    if text = "" ∨ text ∈ seen then
      .error (.unavailable "native PROD pagination cursor is invalid or repeated")
    else .ok (some text)
  | _ => .error (.unavailable "native PROD pagination cursor is invalid or repeated")

/-- What `_pages` does with a page and its capture. -/
def readPage (source : String) (reading : Reading) (answer : PageAnswer) :
    Except Err (Reading ⊕ List Record × List Record) := do
  let page ← object answer.value
  let captures := reading.captures ++ [answer.capture]
  let count ← integer (page.get "count") "native page count" 10_000
  let expected := reading.collected.expected.getD count
  refuse (count ≠ expected)
    (.unavailable "native PROD history changed during bounded pagination")
  let rows ← list (page.get "list")
  refuse (rows.length > 100) (.unavailable "native PROD page exceeds requested size")
  let records ← rows.foldlM addItem reading.collected.records
  let cursor ← nativeCursor reading.seenCursors (page.get "next")
  if records.length = count then do
    refuse cursor.isSome
      (.unavailable "native PROD pagination contradicts its terminal count")
    return .inr (records.map Prod.snd, captures)
  else do
    refuse (records.length > count || rows.isEmpty)
      (.unavailable "native PROD history is incomplete or exceeds its count")
    refuse (cursor.isSome && source ≠ "order_page")
      (.unavailable "native TP/SL cursor is unsupported by pinned SDK query")
    return .inl ⟨⟨records, some expected⟩, captures, reading.seenCursors ++ cursor.toList, cursor⟩

/-- The arguments of `_read` in round `i`. -/
def readQuery (source : String) (i : ℕ) (nextCursor : Option String) : Record :=
  let page : Record := [("limit", .int 100), ("offset", .int (100 * i : ℕ))]
  if source = "order_page" then
    page ++ ("version", .int 2) :: (nextCursor.map fun text => ("next_cursor", Value.str text)).toList
  else page

/-- One round of `_pages`. -/
def readRound (source : String) (i : ℕ) (reading : Reading) :
    Pager (Reading ⊕ List Record × List Record) := do
  let answer ← fetch ⟨source, readQuery source i reading.nextCursor⟩
  readPage source reading answer

/-- `_pages` of the account reader; a fetch is a `_read` here, with its capture. -/
def accountPages (source : String) : Pager (List Record × List Record) :=
  rounds (readRound source)
    (.unavailable "native PROD history exceeded the bounded read contract") 101 0 {}

section Adversarial

theorem object_eq_ok {value : Value} {d : Record} (h : object value = .ok d) :
    value = .dict d := by
  cases value with
  | dict d' =>
    cases h
    rfl
  | _ => cases h

theorem list_eq_ok {value : Value} {items : List Value} (h : list value = .ok items) :
    value = .list items := by
  cases value with
  | list items' =>
    simp only [list] at h
    split at h
    · cases h
      rfl
    · cases h
  | _ => cases h

theorem integer_eq_ok {value : Value} {label : String} {maximum n : ℤ}
    (h : integer value label maximum = .ok n) : whole value = some n := by
  unfold integer at h
  split at h
  · cases h
  · rename_i read
    obtain ⟨_, -, h⟩ := bind_eq_ok.1 h
    cases h
    exact read

theorem addItem_appends : Appends identified Prod.fst addItem := by
  intro c v c' h
  unfold addItem at h
  split at h
  · rename_i id row read
    split at h
    · cases h
    · rename_i fresh
      cases h
      exact ⟨(id, row), read, rfl, fun mem => fresh (.inr mem)⟩
  · cases h

/-- What `_pages` does with a page, apart from cursors and captures. -/
def step (turn : Reading ⊕ List Record × List Record) : Collected ⊕ List Record :=
  turn.map Reading.collected Prod.fst

theorem readPage_advances {source : String} {reading : Reading} {answer : PageAnswer}
    {turn : Reading ⊕ List Record × List Record} (h : readPage source reading answer = .ok turn) :
    Advances reading.collected answer.value (step turn) := by
  obtain ⟨page, isObject, h⟩ := bind_eq_ok.1 h
  obtain ⟨count, counted, h⟩ := bind_eq_ok.1 h
  obtain ⟨_, same, h⟩ := bind_eq_ok.1 h
  obtain ⟨items, listed, h⟩ := bind_eq_ok.1 h
  obtain ⟨_, -, h⟩ := bind_eq_ok.1 h
  obtain ⟨records, added, h⟩ := bind_eq_ok.1 h
  obtain ⟨cursor, -, h⟩ := bind_eq_ok.1 h
  have value := object_eq_ok isObject
  have itemsOf_value : itemsOf answer.value = items := by
    simp [value, itemsOf, list_eq_ok listed]
  obtain ⟨appended, identified, distinct⟩ := addItem_appends.foldlM added
  have expected : count = reading.collected.expected.getD count := by
    simpa using refuse_eq_ok.1 same
  have taken : Taken reading.collected.ids reading.collected.expected answer.value
      (records.map Prod.fst) count := by
    constructor
    · intro n eq
      simpa [eq] using expected
    · rw [value]
      exact integer_eq_ok counted
    · rw [appended, List.map_append, idsOf, rowsOf, itemsOf_value]
      rfl
    · rw [rowsOf, itemsOf_value]
      exact identified
    · exact distinct
  have rows : records = reading.collected.records ++ rowsOf answer.value := by
    rw [appended, rowsOf, itemsOf_value]
  rw [← expected] at h
  split at h
  · rename_i reached
    obtain ⟨_, -, h⟩ := bind_eq_ok.1 h
    cases h
    exact ⟨records, count, taken, rows, reached, rfl⟩
  · obtain ⟨_, incomplete, h⟩ := bind_eq_ok.1 h
    obtain ⟨_, -, h⟩ := bind_eq_ok.1 h
    cases h
    have nonempty := (Bool.or_eq_false_iff.1 (refuse_eq_ok.1 incomplete)).2
    exact ⟨count, taken, rows, rfl, by rw [itemsOf_value]; simpa using nonempty⟩

theorem accountPages_meets (source : String) :
    Meets (within 101) (accountPages source) [] fun result => Delivers result.1 := by
  apply Meets.rounds 101 fun i reading h => fetches h = i ∧ reading.collected.Holds h
  · rintro i reading h before ⟨count, holds⟩
    apply meets_fetch_bind
    · rw [count]
      exact before
    · intro answer
      apply Meets.lift
      intro turn eq
      have advances := readPage_advances eq
      cases turn with
      | inl next => exact ⟨by rw [fetches_answer, count], holds.next advances (fetched_answer ..)⟩
      | inr result => exact holds.last advances (fetched_answer ..)
  · rfl
  · exact ⟨rfl, .start⟩

end Adversarial

section Served

variable {s : Snapshot}

theorem addItem_row {records : List (String × Record)} {row : String × Record}
    (mem : row ∈ s.rows) (fresh : row.1 ∉ records.map Prod.fst) :
    addItem records (.dict row.2) = .ok (records ++ [row]) := by
  have named := s.named row mem
  simp only [addItem, s.identified row mem]
  exact if_neg (not_or.2 ⟨named, fresh⟩)

/-- A served page is taken in: it is the last one where the rows end with it. -/
theorem readPage_page {source : String} {reading : Reading} {i : ℕ} {capture : Record}
    (records : reading.collected.records = s.rows.take (100 * i))
    (same : ∀ n, reading.collected.expected = some n → n = s.rows.length) :
    readPage source reading ⟨s.page (100 * i) 100, capture⟩
      = .ok (if s.rows.length ≤ 100 * (i + 1) then
          .inr (s.rows.map Prod.snd, reading.captures ++ [capture])
        else .inl ⟨⟨s.rows.take (100 * (i + 1)), some s.rows.length⟩,
          reading.captures ++ [capture], reading.seenCursors, none⟩) := by
  have bounded := s.bounded
  have short := s.length_slice_le (100 * i) 100
  have count : reading.collected.expected.getD s.rows.length = (s.rows.length : ℤ) := by
    cases eq : reading.collected.expected with
    | none => rfl
    | some n => exact same n eq
  have added := s.foldlM_slice addItem id Prod.fst (100 * i) 100 (fun _ => rfl)
    fun c row mem fresh => addItem_row mem fresh
  rw [List.map_id, List.map_id, ← records] at added
  have counted : integer (.int s.rows.length) "native page count" 10_000
      = .ok (s.rows.length : ℤ) :=
    bind_eq_ok.2 ⟨(), refuse_eq_ok.2 (by simp; omega), rfl⟩
  have listed : list (.list ((s.slice (100 * i) 100).map fun row => .dict row.2))
      = .ok ((s.slice (100 * i) 100).map fun row => .dict row.2) := by
    simp [list, Value.asDict]
  refine bind_eq_ok.2 ⟨_, rfl, bind_eq_ok.2 ⟨_, counted, bind_eq_ok.2 ⟨(), ?_,
    bind_eq_ok.2 ⟨_, listed, bind_eq_ok.2 ⟨(), ?_, bind_eq_ok.2 ⟨_, added,
    bind_eq_ok.2 ⟨none, rfl, ?_⟩⟩⟩⟩⟩⟩⟩
  · simp [count]
  · simpa using short
  · simp only [count]
    by_cases last : s.rows.length ≤ 100 * (i + 1)
    · have all : s.rows.take (100 * i + 100) = s.rows := List.take_of_length_le (by omega)
      rw [if_pos last, all, if_pos rfl]
      rfl
    · have nonempty := s.slice_ne_nil (100 * i) 100 (by omega) (by omega)
      have length : (s.rows.take (100 * i + 100)).length = 100 * i + 100 := by
        rw [List.length_take]
        omega
      rw [if_neg last, if_neg (by rw [length]; omega)]
      refine bind_eq_ok.2 ⟨(), refuse_eq_ok.2 ?_, bind_eq_ok.2 ⟨(), rfl, by simp; rfl⟩⟩
      simp only [Bool.or_eq_false_iff, decide_eq_false_iff_not, length]
      exact ⟨by omega, by simpa using nonempty⟩

theorem natOf_readQuery_offset (source : String) (i : ℕ) (cursor : Option String) :
    natOf ((readQuery source i cursor).get "offset") = 100 * i := by
  unfold readQuery
  split <;> simp [Record.get, List.lookup, natOf] <;> omega

theorem natOf_readQuery_limit (source : String) (i : ℕ) (cursor : Option String) :
    natOf ((readQuery source i cursor).get "limit") = 100 := by
  unfold readQuery
  split <;> simp [Record.get, List.lookup, natOf]

/-- `_pages` returns every row of a snapshot, in order. -/
theorem accountPages_serve (clock : ℕ → ℤ) (source : String) :
    ∃ captures, (execute (s.serve clock) (accountPages source) 0 []).1
      = .ok (s.rows.map Prod.snd, captures) := by
  have returned : ∃ r, (execute (s.serve clock) (accountPages source) 0 []).1 = .ok r
      ∧ r.1 = s.rows.map Prod.snd := by
    apply execute_rounds (fun n i (reading : Reading) _ => s.Ready n i reading.collected)
      fun (r : List Record × List Record) => r.1 = s.rows.map Prod.snd
    · intro i reading _ ready
      exact ready.left
    · intro n i reading reads h ready
      obtain ⟨h', executed⟩ := s.execute_fetch_bind clock
        ⟨source, readQuery source i reading.nextCursor⟩
        (fun answer => liftM (readPage source reading answer)) reads h
      have turn := @readPage_page s source reading i [] ready.records ready.same
      rw [natOf_readQuery_offset, natOf_readQuery_limit] at executed
      by_cases last : s.rows.length ≤ 100 * (i + 1)
      · rw [if_pos last] at turn
        exact .inr ⟨_, reads, h', by rw [readRound, executed, turn]; rfl, rfl⟩
      · rw [if_neg last] at turn
        exact .inl ⟨_, reads, h', by rw [readRound, executed, turn]; rfl, ready.next last⟩
    · exact .start
  obtain ⟨⟨_, captures⟩, eq, rfl⟩ := returned
  exact ⟨captures, eq⟩

end Served

end KairosExecution.Pagination
