import KairosExecution.Pagination.Page

/-! A fixed snapshot, served page by page: each request is answered with the rows at its offset,
as many as it allows, and the number of all rows. -/

namespace KairosExecution.Pagination

open Python Interactive

/-- The rows of a snapshot with their ids. -/
structure Snapshot where
  rows : List (String × Record)
  identified : ∀ row ∈ rows, identified (.dict row.2) = some row
  named : ∀ row ∈ rows, row.1 ≠ ""
  distinct : (rows.map Prod.fst).Nodup
  bounded : rows.length ≤ 10_000

/-- A nonnegative integer of a query. -/
def natOf : Value → ℕ
  | .int n => n.toNat
  | _ => 0

namespace Snapshot

variable (s : Snapshot)

/-- The rows that a page at `offset` holds. -/
def slice (offset limit : ℕ) : List (String × Record) := (s.rows.drop offset).take limit

def page (offset limit : ℕ) : Value :=
  .dict [("list", .list ((s.slice offset limit).map fun row => .dict row.2)),
    ("count", .int s.rows.length)]

/-- The server: a query without an offset starts at the first row. -/
def serve (clock : ℕ → ℤ) : Handler pageInterface Err ℕ
  | reads, .clock => (.ok (clock reads), reads + 1)
  | reads, .fetch query =>
    (.ok { value := s.page (natOf (query.params.get "offset")) (natOf (query.params.get "limit")) },
      reads)

theorem mem_rows_of_mem_slice {offset limit : ℕ} {row : String × Record}
    (mem : row ∈ s.slice offset limit) : row ∈ s.rows :=
  List.mem_of_mem_drop (List.mem_of_mem_take mem)

theorem take_append_slice (offset limit : ℕ) :
    s.rows.take offset ++ s.slice offset limit = s.rows.take (offset + limit) :=
  List.take_add.symm

theorem length_slice_le (offset limit : ℕ) : (s.slice offset limit).length ≤ limit :=
  List.length_take_le ..

theorem slice_ne_nil (offset limit : ℕ) (more : offset < s.rows.length) (positive : 0 < limit) :
    s.slice offset limit ≠ [] := by
  rw [← List.length_pos_iff, slice, List.length_take, List.length_drop]
  omega

/-- A server's rows can be added page by page, where each can be added under a new id. -/
theorem foldlM_slice {γ : Type} (add : List γ → Value → Except Err (List γ))
    (item : String × Record → γ) (key : γ → String) (offset limit : ℕ)
    (keyed : ∀ row, key (item row) = row.1)
    (accepts : ∀ c row, row ∈ s.rows → row.1 ∉ c.map key →
      add c (.dict row.2) = .ok (c ++ [item row])) :
    ((s.slice offset limit).map fun row => Value.dict row.2).foldlM add
        ((s.rows.take offset).map item) = .ok ((s.rows.take (offset + limit)).map item) := by
  rw [← s.take_append_slice, List.map_append]
  apply @foldlM_append _ add key
  · intro c x v mem fresh
    rw [List.zip_map'] at mem
    obtain ⟨row, here, eq⟩ := List.mem_map.1 mem
    cases eq
    rw [keyed] at fresh
    exact accepts c row (s.mem_rows_of_mem_slice here) fresh
  · simp
  · rw [← List.map_append, s.take_append_slice, List.map_map]
    have keys : key ∘ item = Prod.fst := funext keyed
    rw [keys, List.map_take]
    exact s.distinct.sublist (List.take_sublist _ _)

theorem get_id {row : String × Record} (mem : row ∈ s.rows) : row.2.get "id" = .str row.1 := by
  have read := s.identified row mem
  simp only [Pagination.identified] at read
  cases named : row.2.get "id" with
  | str id =>
    rw [named] at read
    exact congrArg Value.str (congrArg Prod.fst (Option.some.inj read))
  | _ => simp [named] at read

theorem execute_fetch_bind {β : Type} (clock : ℕ → ℤ) (query : PageQuery)
    (f : PageAnswer → Pager β) (reads : ℕ) (h : History pageInterface Err) :
    ∃ h', execute (s.serve clock) (fetch query >>= f) reads h
      = execute (s.serve clock)
        (f ⟨s.page (natOf (query.params.get "offset")) (natOf (query.params.get "limit")), []⟩)
        reads h' :=
  ⟨_, rfl⟩

/-- With `n` rounds left, the rows before round `i` have been collected, and there are more. -/
structure Ready (s : Snapshot) (n i : ℕ) (c : Collected) : Prop where
  rounds : i + n = 101
  more : i = 0 ∨ 100 * i < s.rows.length
  records : c.records = s.rows.take (100 * i)
  same : ∀ count, c.expected = some count → count = s.rows.length

variable {s}

theorem Ready.start : s.Ready 101 0 {} where
  rounds := rfl
  more := .inl rfl
  records := rfl
  same := fun _ eq => nomatch eq

theorem Ready.left {i : ℕ} {c : Collected} : ¬s.Ready 0 i c := by
  rintro ⟨rounds, more, -, -⟩
  have := s.bounded
  omega

theorem Ready.next {n i : ℕ} {c : Collected} (ready : s.Ready (n + 1) i c)
    (more : ¬s.rows.length ≤ 100 * (i + 1)) :
    s.Ready n (i + 1) ⟨s.rows.take (100 * (i + 1)), some s.rows.length⟩ where
  rounds := by
    have := ready.rounds
    omega
  more := .inr (by omega)
  records := rfl
  same := by
    rintro count ⟨⟩
    rfl

end Snapshot

end KairosExecution.Pagination
