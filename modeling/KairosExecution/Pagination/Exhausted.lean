import KairosExecution.Pagination.AccountReads
import KairosExecution.Pagination.FetchAll
import KairosExecution.Pagination.History

/-! The three pagers together. Whatever is answered, each asks for a bounded number of pages and
returns only a history that every page agrees on; a fixed snapshot is read whole. -/

namespace KairosExecution.Pagination

open Python Interactive

/-- A pager within its bound that returns what it promises. -/
theorem paginates {R : Type} {bound : ℕ} {pager : Pager R}
    {post : R → History pageInterface Err → Prop} (meets : Meets (within bound) pager [] post)
    {h : History pageInterface Err} {o : Option (Except Err R)} (run : Runs pager [] h o) :
    fetches h ≤ bound ∧ ∀ r, o = some (.ok r) → post r h :=
  have sound := meets.sound run trivial
  ⟨fetches_le_of_dutiful sound.1, sound.2⟩

/-- The pagers of authoritative histories: bounded, complete where they return, and total on
snapshots. -/
theorem pagination_exhausted :
    (∀ (source : String) (baseQuery : Record) (h : History pageInterface Err)
        (o : Option (Except Err (List Record))),
      Runs (fetchAllPages source baseQuery) [] h o →
      fetches h ≤ 101 ∧ ∀ records, o = some (.ok records) → Delivers records h)
    ∧ (∀ (source : String) (h : History pageInterface Err)
        (o : Option (Except Err (List Record × List Record))),
      Runs (accountPages source) [] h o →
      fetches h ≤ 101 ∧ ∀ result, o = some (.ok result) → Delivers result.1 h)
    ∧ (∀ (c : Collector) (path : String) (orders : Bool) (capture : Capture)
        (h : History pageInterface Err) (o : Option (Except Err (ℕ × Capture))),
      Runs (pages c path orders capture) [] h o →
      fetches h ≤ 100 ∧ ∀ result, o = some (.ok result) →
        ∃ ids, Authoritative (fetched h) ids ∧ result.1 = ids.length)
    ∧ ∀ (s : Snapshot) (time : ℕ → ℤ),
      (∀ (source : String) (baseQuery : Record),
        (execute (s.serve time) (fetchAllPages source baseQuery) 0 []).1
          = .ok (s.rows.map Prod.snd))
      ∧ (∀ source : String, ∃ captures, (execute (s.serve time) (accountPages source) 0 []).1
          = .ok (s.rows.map Prod.snd, captures))
      ∧ ∀ (c : Collector) (path : String) (orders : Bool) (capture : Capture) (texts : ℕ → String),
        Retainable c s orders capture time texts →
        ∃ r, (execute (s.serve time) (pages c path orders capture) 0 []).1 = .ok r
          ∧ r.1 = s.rows.length
          ∧ r.2.payloads = capture.payloads ++ (List.range s.pageTotal).map texts := by
  refine ⟨fun source baseQuery h o run => ?_, fun source h o run => ?_,
    fun c path orders capture h o run => ?_, fun s time => ⟨fun source baseQuery => ?_,
    fun source => ?_, fun c path orders capture texts fits => ?_⟩⟩
  · exact paginates (fetchAllPages_meets source baseQuery) run
  · exact paginates (accountPages_meets source) run
  · exact paginates (pages_meets path orders capture) run
  · exact fetchAllPages_serve time source baseQuery
  · exact accountPages_serve time source
  · exact pages_serve fits path

/-- A snapshot of rows with ids of one character, of two, and so on. -/
def growingRows (count : ℕ) (bounded : count ≤ 10_000) : Snapshot where
  rows := (List.range count).map fun n =>
    let id := String.ofList (List.replicate (n + 1) 'a')
    (id, [("id", .str id)])
  identified := by simp [identified, Record.get]
  named := by
    intro row mem
    obtain ⟨n, -, rfl⟩ := List.mem_map.1 mem
    intro empty
    have length := congrArg String.length empty
    simp at length
  distinct := by
    rw [List.map_map]
    refine List.Nodup.map (fun n m same => ?_) List.nodup_range
    have length := congrArg String.length same
    simpa using length
  bounded := by simpa using bounded

theorem growingRows_length (count : ℕ) (bounded : count ≤ 10_000) :
    (growingRows count bounded).rows.length = count := by
  simp [growingRows]

/-- The id of a row, set apart from the next one. -/
def rowText : Value → String
  | .dict row => match Record.get row "id" with
    | .str id => id ++ ","
    | _ => ","
  | _ => ","

/-- A collector that writes a page as the ids of its rows. -/
def idCollector : Collector where
  remoteAccountId := "42"
  str := fun _ => "42"
  canonical := fun page => .ok (match page with
    | .dict fields => match Record.get fields "list" with
      | .list rows => String.join (rows.map rowText)
      | _ => ""
    | _ => "")
  sha256 := fun text => text

/-- What the collector writes of a page of the snapshot. -/
def pageText (s : Snapshot) (i : ℕ) : String :=
  String.join ((s.slice (100 * i) 100).map fun row => rowText (.dict row.2))

theorem growingRows_retainable :
    Retainable idCollector (growingRows 150 (by decide)) false ⟨0, 0, []⟩ (fun n => n)
      (pageText (growingRows 150 (by decide))) where
  short := by
    intro row mem
    obtain ⟨n, below, rfl⟩ := List.mem_map.1 mem
    have := List.mem_range.1 below
    simp
    omega
  owned := by
    intro row mem
    obtain ⟨n, below, rfl⟩ := List.mem_map.1 mem
    rfl
  written := by
    intro i
    simp [idCollector, Snapshot.page, pageText, Record.get]
    rfl
  asked := fun _ => ⟨_, rfl⟩
  size := by decide +kernel
  forward := fun _ _ le => Int.ofNat_le.2 le
  later := by simp

theorem pagination_exhausted_sample :
    (fetches (execute ((growingRows 150 (by decide)).serve fun n => n)
        (fetchAllPages "tpsl" []) 0 []).2.2 ≤ 101)
    ∧ fetches (execute ((growingRows 150 (by decide)).serve fun n => n)
        (accountPages "order_page") 0 []).2.2 ≤ 101
    ∧ fetches (execute ((growingRows 150 (by decide)).serve fun n => n)
        (pages idCollector "/api/tpsl" false ⟨0, 0, []⟩) 0 []).2.2 ≤ 100
    ∧ ∃ r, (execute ((growingRows 150 (by decide)).serve fun n => n)
          (pages idCollector "/api/tpsl" false ⟨0, 0, []⟩) 0 []).1 = .ok r
        ∧ r.1 = 150
        ∧ r.2.payloads = [pageText (growingRows 150 (by decide)) 0,
            pageText (growingRows 150 (by decide)) 1] := by
  refine ⟨(pagination_exhausted.1 _ _ _ _ (execute_runs _ _ _ _)).1,
    (pagination_exhausted.2.1 _ _ _ (execute_runs _ _ _ _)).1,
    (pagination_exhausted.2.2.1 _ _ _ _ _ _ (execute_runs _ _ _ _)).1, ?_⟩
  obtain ⟨r, returned, count, payloads⟩ :=
    (pagination_exhausted.2.2.2 (growingRows 150 (by decide)) fun n => n).2.2 idCollector
      "/api/tpsl" false ⟨0, 0, []⟩ _ growingRows_retainable
  refine ⟨r, returned, ?_, ?_⟩
  · rw [count, growingRows_length]
  · rw [payloads, Snapshot.pageTotal, growingRows_length]
    rfl

/-- A snapshot of one row. -/
def singleRow (id : String) (named : id ≠ "") : Snapshot where
  rows := [(id, [("id", .str id)])]
  identified := by simp [identified, Record.get]
  named := by simpa using named
  distinct := by simp
  bounded := by simp

/-- The text of the error that a call ends with. -/
def failure {α : Type} : Except Err α → Option Err
  | .ok _ => none
  | .error e => some e

/-- The history pager refuses a snapshot whose row has an id of more than 160 characters. -/
theorem long_id_refused :
    ¬∀ (c : Collector) (s : Snapshot) (path : String) (orders : Bool) (capture : Capture),
      ∃ r, (execute (s.serve fun _ => capture.previous) (pages c path orders capture) 0 []).1
        = .ok r := by
  intro complete
  obtain ⟨r, returned⟩ := complete idCollector
    (singleRow (String.ofList (List.replicate 161 'a')) (by decide +kernel)) "/api/tpsl" false
    ⟨0, 0, []⟩
  have raised : failure (execute ((singleRow (String.ofList (List.replicate 161 'a'))
      (by decide +kernel)).serve fun _ => 0) (pages idCollector "/api/tpsl" false ⟨0, 0, []⟩)
      0 []).1 = some (.history "history row ID is absent, duplicate or unbounded") := by
    decide +kernel
  rw [returned] at raised
  cases raised

end KairosExecution.Pagination
