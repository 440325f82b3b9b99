import KairosExecution.Pagination.Snapshot

/-! `fetchAllPages` of the sidecar: it asks at a fixed stride, and returns the records. -/

namespace KairosExecution.Pagination

open Python Interactive Interactive.Program

/-- The check of a page's shape in `fetchAllPages`: its items and its count. -/
def authoritativePage (page : Value) : Except Err (List Value × ℤ) :=
  let malformed : Except Err (List Value × ℤ) :=
    .error (.error "EVEDEX authoritative paginated response is malformed or exceeds its bound")
  match page with
  | .dict d => match Record.get d "list", whole (Record.get d "count") with
    | .list items, some count =>
      if count < 0 ∨ count > 10_000 ∨ items.length > 100 then malformed else .ok (items, count)
    | _, _ => malformed
  | _ => malformed

/-- One record of a page in `fetchAllPages`. -/
def addRecord (records : List (String × Record)) (record : Value) :
    Except Err (List (String × Record)) :=
  match identified record with
  | some (id, row) =>
    if id = "" ∨ id ∈ records.map Prod.fst then
      .error (.error "EVEDEX authoritative paginated response has missing or duplicate IDs")
    else .ok (records ++ [(id, row)])
  | none => .error (.error "EVEDEX authoritative paginated response has missing or duplicate IDs")

/-- What `fetchAllPages` does with a page: it goes on, or returns the records. -/
def takePage (c : Collected) (page : Value) : Except Err (Collected ⊕ List Record) := do
  let (items, count) ← authoritativePage page
  let expected := c.expected.getD count
  refuse (count ≠ expected)
    (.error "EVEDEX authoritative paginated response changed during reconciliation")
  let records ← items.foldlM addRecord c.records
  if records.length = expected then return .inr (records.map Prod.snd)
  else do
    refuse (items.isEmpty || records.length > expected)
      (.error "EVEDEX authoritative paginated response is incomplete")
    return .inl ⟨records, some expected⟩

/-- `{...baseQuery, limit: PAGE_LIMIT, offset}` -/
def strideQuery (baseQuery : Record) (i : ℕ) : Record :=
  (baseQuery.set "limit" (.int 100)).set "offset" (.int (100 * i : ℕ))

/-- One round of `fetchAllPages`. -/
def fetchRound (source : String) (baseQuery : Record) (i : ℕ) (c : Collected) :
    Pager (Collected ⊕ List Record) := do
  let answer ← fetch ⟨source, strideQuery baseQuery i⟩
  takePage c answer.value

def fetchAllPages (source : String) (baseQuery : Record) : Pager (List Record) :=
  rounds (fetchRound source baseQuery)
    (.error "EVEDEX authoritative pagination exceeded its safety bound") 101 0 {}

section Adversarial

theorem authoritativePage_eq_ok {page : Value} {items : List Value} {count : ℤ}
    (h : authoritativePage page = .ok (items, count)) :
    itemsOf page = items ∧ countOf page = some count := by
  cases page with
  | dict d =>
    simp only [authoritativePage] at h
    split at h
    · rename_i listed counted
      split at h
      · cases h
      · cases h
        exact ⟨by simp [itemsOf, listed], counted⟩
    · cases h
  | _ => cases h

theorem addRecord_appends : Appends identified Prod.fst addRecord := by
  intro c v c' h
  unfold addRecord at h
  split at h
  · rename_i id row read
    split at h
    · cases h
    · rename_i fresh
      cases h
      exact ⟨(id, row), read, rfl, fun mem => fresh (.inr mem)⟩
  · cases h

theorem takePage_advances {c : Collected} {page : Value} {turn : Collected ⊕ List Record}
    (h : takePage c page = .ok turn) : Advances c page turn := by
  obtain ⟨⟨items, count⟩, shape, h⟩ := bind_eq_ok.1 h
  obtain ⟨_, same, h⟩ := bind_eq_ok.1 h
  obtain ⟨records, added, h⟩ := bind_eq_ok.1 h
  obtain ⟨rfl, counted⟩ := authoritativePage_eq_ok shape
  obtain ⟨appended, identified, distinct⟩ := addRecord_appends.foldlM added
  have expected : count = c.expected.getD count := by simpa using refuse_eq_ok.1 same
  have taken : Taken c.ids c.expected page (records.map Prod.fst) count := by
    constructor
    · intro n eq
      simpa [eq] using expected
    · exact counted
    · rw [appended, List.map_append]
      rfl
    · exact identified
    · exact distinct
  rw [← expected] at h
  split at h
  · rename_i reached
    cases h
    exact ⟨records, count, taken, appended, reached, rfl⟩
  · obtain ⟨_, incomplete, h⟩ := bind_eq_ok.1 h
    cases h
    have nonempty := (Bool.or_eq_false_iff.1 (refuse_eq_ok.1 incomplete)).1
    exact ⟨count, taken, appended, rfl, by simpa using nonempty⟩

theorem fetchAllPages_meets (source : String) (baseQuery : Record) :
    Meets (within 101) (fetchAllPages source baseQuery) [] Delivers := by
  apply Meets.rounds 101 fun i c h => fetches h = i ∧ c.Holds h
  · rintro i c h before ⟨count, holds⟩
    apply meets_fetch_bind
    · rw [count]
      exact before
    · intro answer
      apply Meets.lift
      intro turn eq
      have advances := takePage_advances eq
      cases turn with
      | inl c' => exact ⟨by rw [fetches_answer, count], holds.next advances (fetched_answer ..)⟩
      | inr result => exact holds.last advances (fetched_answer ..)
  · rfl
  · exact ⟨rfl, .start⟩

end Adversarial

section Served

variable {s : Snapshot}

theorem authoritativePage_page (offset : ℕ) :
    authoritativePage (s.page offset 100)
      = .ok ((s.slice offset 100).map fun row => .dict row.2, (s.rows.length : ℤ)) := by
  have bounded := s.bounded
  have short := s.length_slice_le offset 100
  have fits : ¬((s.rows.length : ℤ) < 0 ∨ (s.rows.length : ℤ) > 10_000
      ∨ ((s.slice offset 100).map fun row => Value.dict row.2).length > 100) := by
    rw [List.length_map]
    omega
  simp only [authoritativePage, Snapshot.page, Record.get, List.lookup]
  exact if_neg fits

theorem addRecord_row {records : List (String × Record)} {row : String × Record}
    (mem : row ∈ s.rows) (fresh : row.1 ∉ records.map Prod.fst) :
    addRecord records (.dict row.2) = .ok (records ++ [row]) := by
  have named := s.named row mem
  simp only [addRecord, s.identified row mem]
  exact if_neg (not_or.2 ⟨named, fresh⟩)

/-- A served page is taken in: it is the last one where the rows end with it. -/
theorem takePage_page {i : ℕ} {expected : Option ℤ}
    (same : ∀ n, expected = some n → n = s.rows.length) :
    takePage ⟨s.rows.take (100 * i), expected⟩ (s.page (100 * i) 100)
      = .ok (if s.rows.length ≤ 100 * (i + 1) then .inr (s.rows.map Prod.snd)
        else .inl ⟨s.rows.take (100 * (i + 1)), some s.rows.length⟩) := by
  have count : expected.getD s.rows.length = (s.rows.length : ℤ) := by
    cases expected with
    | none => rfl
    | some n => exact same n rfl
  have added := s.foldlM_slice addRecord id Prod.fst (100 * i) 100 (fun _ => rfl)
    fun c row mem fresh => addRecord_row mem fresh
  simp only [List.map_id] at added
  rw [takePage, authoritativePage_page]
  refine bind_eq_ok.2 ⟨_, rfl, bind_eq_ok.2 ⟨(), ?_, bind_eq_ok.2 ⟨_, added, ?_⟩⟩⟩
  · simp [count]
  · simp only [count]
    by_cases last : s.rows.length ≤ 100 * (i + 1)
    · have all : s.rows.take (100 * i + 100) = s.rows := List.take_of_length_le (by omega)
      rw [if_pos last, all, if_pos rfl]
      rfl
    · have nonempty := s.slice_ne_nil (100 * i) 100 (by omega) (by omega)
      have length : (s.rows.take (100 * i + 100)).length = 100 * i + 100 := by
        rw [List.length_take]
        omega
      rw [if_neg last, if_neg (by rw [length]; omega)]
      refine bind_eq_ok.2 ⟨(), refuse_eq_ok.2 ?_, rfl⟩
      simp only [Bool.or_eq_false_iff, decide_eq_false_iff_not, length]
      exact ⟨by simpa using nonempty, by omega⟩

theorem natOf_offset (baseQuery : Record) (i : ℕ) :
    natOf ((strideQuery baseQuery i).get "offset") = 100 * i := by
  simp only [strideQuery, Record.get_set, natOf, if_true]
  omega

theorem natOf_limit (baseQuery : Record) (i : ℕ) :
    natOf ((strideQuery baseQuery i).get "limit") = 100 := by
  simp [strideQuery, Record.get_set, natOf]

/-- `fetchAllPages` returns every row of a snapshot, in order. -/
theorem fetchAllPages_serve (clock : ℕ → ℤ) (source : String) (baseQuery : Record) :
    (execute (s.serve clock) (fetchAllPages source baseQuery) 0 []).1
      = .ok (s.rows.map Prod.snd) := by
  have returned : ∃ r, (execute (s.serve clock) (fetchAllPages source baseQuery) 0 []).1 = .ok r
      ∧ r = s.rows.map Prod.snd := by
    apply execute_rounds (fun n i c _ => s.Ready n i c) fun r => r = s.rows.map Prod.snd
    · intro i c _ ready
      exact ready.left
    · intro n i c reads h ready
      obtain ⟨h', executed⟩ := s.execute_fetch_bind clock ⟨source, strideQuery baseQuery i⟩
        (fun answer => liftM (takePage c answer.value)) reads h
      obtain ⟨records, expected⟩ := c
      cases ready.records
      have turn := @takePage_page s i _ ready.same
      rw [natOf_offset, natOf_limit] at executed
      by_cases last : s.rows.length ≤ 100 * (i + 1)
      · rw [if_pos last] at turn
        exact .inr ⟨_, reads, h', by rw [fetchRound, executed, turn]; rfl, rfl⟩
      · rw [if_neg last] at turn
        exact .inl ⟨_, reads, h', by rw [fetchRound, executed, turn]; rfl, ready.next last⟩
    · exact .start
  obtain ⟨_, eq, rfl⟩ := returned
  exact eq

end Served

end KairosExecution.Pagination
