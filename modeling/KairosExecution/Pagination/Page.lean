import KairosExecution.Interactive.Rounds
import KairosExecution.Python.Value

/-! Paginated answers and what a pager makes of them. A page is whatever the venue answers: its
rows and the count it reports are read off it here, and the pagers judge the rest. A history is
authoritative where every page reported the one count, and the pages held that many rows with
distinct ids. -/

namespace KairosExecution.Pagination

open Python Interactive

/-- What a pager raises, or a call of it. -/
inductive Err
  | error (message : String)
  | history (message : String)
  | unavailable (message : String)
  | raised (kind message : String)
  deriving DecidableEq

/-- `if condition: raise error` -/
def refuse (condition : Bool) (error : Err) : Except Err Unit :=
  if condition then .error error else .ok ()

@[simp] theorem refuse_eq_ok {condition : Bool} {error : Err} {u : Unit} :
    refuse condition error = .ok u ↔ condition = false := by
  cases condition <;> simp [refuse]

/-- One request for a page: the endpoint and the parameters. -/
structure PageQuery where
  source : String
  params : Record

/-- The answer to it: the parsed body, and the capture that the account reader retains. -/
structure PageAnswer where
  value : Value
  capture : Record := []

inductive PageCall
  | clock
  | fetch (query : PageQuery)

/-- The calls of the pagers; a clock answers in microseconds, UTC. -/
abbrev pageInterface : Interface where
  Call := PageCall
  Answer
    | .clock => ℤ
    | .fetch _ => PageAnswer

abbrev Pager := Program pageInterface Err

/-- The page that an event brought. -/
def Event.page : Event pageInterface Err → Option Value
  | ⟨.fetch _, some (.ok answer)⟩ => some answer.value
  | _ => none

/-- The call is a request for a page. -/
def PageCall.isFetch : PageCall → Bool
  | .fetch _ => true
  | .clock => false

/-- The pages of a run, in the order in which they were fetched. -/
def fetched (h : History pageInterface Err) : List Value := h.reverse.filterMap Event.page

/-- How many pages a run has asked for, whether they were answered or not. -/
def fetches (h : History pageInterface Err) : ℕ := h.countP fun e => PageCall.isFetch e.call

theorem fetched_cons (e : Event pageInterface Err) (h : History pageInterface Err) :
    fetched (e :: h) = fetched h ++ (Event.page e).toList := by
  rw [fetched, List.reverse_cons, List.filterMap_append, fetched]
  cases read : Event.page e <;> simp [read]

@[simp] theorem fetched_answer (q : PageQuery) (answer : PageAnswer)
    (h : History pageInterface Err) :
    fetched (⟨PageCall.fetch q, some (.ok answer)⟩ :: h) = fetched h ++ [answer.value] :=
  fetched_cons _ _

@[simp] theorem fetched_clock (outcome : Option (Except Err ℤ)) (h : History pageInterface Err) :
    fetched (⟨PageCall.clock, outcome⟩ :: h) = fetched h := by
  rw [fetched_cons]
  exact List.append_nil _

@[simp] theorem fetches_answer (q : PageQuery) (outcome : Option (Except Err PageAnswer))
    (h : History pageInterface Err) :
    fetches (⟨PageCall.fetch q, outcome⟩ :: h) = fetches h + 1 :=
  List.countP_cons_of_pos rfl

@[simp] theorem fetches_clock (outcome : Option (Except Err ℤ)) (h : History pageInterface Err) :
    fetches (⟨PageCall.clock, outcome⟩ :: h) = fetches h :=
  List.countP_cons_of_neg Bool.false_ne_true

/-- Another page may be asked for while fewer than `bound` have been. -/
def within (bound : ℕ) (h : History pageInterface Err) (c : PageCall) : Prop :=
  c.isFetch → fetches h < bound

def clock : Pager ℤ := Program.ask (I := pageInterface) .clock

def fetch (query : PageQuery) : Pager PageAnswer := Program.ask (I := pageInterface) (.fetch query)

section Rules

variable {β : Type} {bound : ℕ} {h : History pageInterface Err}
  {R : β → History pageInterface Err → Prop}

theorem meets_clock_bind {f : ℤ → Pager β}
    (k : ∀ t, Meets (within bound) (f t) (⟨PageCall.clock, some (.ok t)⟩ :: h) R) :
    Meets (within bound) (clock >>= f) h R :=
  Meets.ask_bind (I := pageInterface) (fun isFetch => absurd isFetch Bool.false_ne_true) k

theorem meets_fetch_bind {query : PageQuery} {f : PageAnswer → Pager β} (room : fetches h < bound)
    (k : ∀ answer, Meets (within bound) (f answer)
      (⟨PageCall.fetch query, some (.ok answer)⟩ :: h) R) :
    Meets (within bound) (fetch query >>= f) h R :=
  Meets.ask_bind (I := pageInterface) (fun _ => room) k

end Rules

theorem fetches_le_of_dutiful {bound : ℕ} {h : History pageInterface Err}
    (dutiful : Dutiful (within bound) h) : fetches h ≤ bound := by
  induction h with
  | nil => exact Nat.zero_le _
  | cons e h ih =>
    obtain ⟨call, outcome⟩ := e
    cases call with
    | clock => exact (fetches_clock outcome h).trans_le (ih dutiful.2)
    | fetch q => exact (fetches_answer q outcome h).trans_le (dutiful.1 rfl)

section Pages

/-- An exact integer, written as one or as a fraction with integral value. -/
def whole : Value → Option ℤ
  | .int n => some n
  | .float x => if x.den = 1 then some x.num else none
  | _ => none

/-- A row with the text it has as its id. -/
def identified : Value → Option (String × Record)
  | .dict row => match Record.get row "id" with
    | .str id => some (id, row)
    | _ => none
  | _ => none

/-- `page["list"]` -/
def itemsOf : Value → List Value
  | .dict page => match Record.get page "list" with
    | .list items => items
    | _ => []
  | _ => []

/-- The rows of a page with their ids. -/
def rowsOf (page : Value) : List (String × Record) := (itemsOf page).filterMap identified

def idsOf (page : Value) : List String := (rowsOf page).map Prod.fst

/-- The count that a page reports. -/
def countOf : Value → Option ℤ
  | .dict page => whole (Record.get page "count")
  | _ => none

/-- The pages are one complete history of rows with distinct ids: each of them reported the
number of the ids, every row has one, and only the last page may be empty. -/
structure Authoritative (pages : List Value) (ids : List String) : Prop where
  listed : ids = pages.flatMap idsOf
  distinct : ids.Nodup
  counted : ∀ page ∈ pages, countOf page = some (ids.length : ℤ)
  whole : ∀ page ∈ pages, (itemsOf page).length = (rowsOf page).length
  advancing : ∀ page ∈ pages.dropLast, itemsOf page ≠ []

/-- What holds while pages are collected. -/
structure Sofar (pages : List Value) (ids : List String) (expected : Option ℤ) : Prop where
  listed : ids = pages.flatMap idsOf
  distinct : ids.Nodup
  counted : ∀ page ∈ pages, ∃ n, expected = some n ∧ countOf page = some n
  whole : ∀ page ∈ pages, (itemsOf page).length = (rowsOf page).length
  advancing : ∀ page ∈ pages, itemsOf page ≠ []

/-- What a pager has made sure of when it has taken in a page. -/
structure Taken (ids : List String) (expected : Option ℤ) (page : Value) (ids' : List String)
    (count : ℤ) : Prop where
  same : ∀ n, expected = some n → count = n
  counted : countOf page = some count
  appended : ids' = ids ++ idsOf page
  whole : (itemsOf page).length = (rowsOf page).length
  distinct : ids.Nodup → ids'.Nodup

theorem Sofar.start : Sofar [] [] none where
  listed := rfl
  distinct := List.nodup_nil
  counted := fun _ mem => nomatch mem
  whole := fun _ mem => nomatch mem
  advancing := fun _ mem => nomatch mem

variable {pages : List Value} {ids ids' : List String} {expected : Option ℤ} {page : Value}
  {count : ℤ}

theorem Sofar.counted_of_taken (h : Sofar pages ids expected)
    (taken : Taken ids expected page ids' count) :
    ∀ other ∈ pages ++ [page], countOf other = some count := by
  intro other mem
  rcases List.mem_append.1 mem with before | here
  · obtain ⟨n, eq, reported⟩ := h.counted other before
    rw [reported, taken.same n eq]
  · cases List.mem_singleton.1 here
    exact taken.counted

theorem Sofar.whole_of_taken (h : Sofar pages ids expected)
    (taken : Taken ids expected page ids' count) :
    ∀ other ∈ pages ++ [page], (itemsOf other).length = (rowsOf other).length := by
  intro other mem
  rcases List.mem_append.1 mem with before | here
  · exact h.whole other before
  · cases List.mem_singleton.1 here
    exact taken.whole

theorem Sofar.listed_of_taken (h : Sofar pages ids expected)
    (taken : Taken ids expected page ids' count) : ids' = (pages ++ [page]).flatMap idsOf := by
  rw [taken.appended, h.listed]
  simp

/-- A page that is not the last one. -/
theorem Sofar.next (h : Sofar pages ids expected) (taken : Taken ids expected page ids' count)
    (nonempty : itemsOf page ≠ []) : Sofar (pages ++ [page]) ids' (some count) where
  listed := h.listed_of_taken taken
  distinct := taken.distinct h.distinct
  counted := fun other mem => ⟨count, rfl, h.counted_of_taken taken other mem⟩
  whole := h.whole_of_taken taken
  advancing := by
    intro other mem
    rcases List.mem_append.1 mem with before | here
    · exact h.advancing other before
    · cases List.mem_singleton.1 here
      exact nonempty

/-- The page with which the ids reach the count. -/
theorem Sofar.last (h : Sofar pages ids expected) (taken : Taken ids expected page ids' count)
    (reached : (ids'.length : ℤ) = count) : Authoritative (pages ++ [page]) ids' where
  listed := h.listed_of_taken taken
  distinct := taken.distinct h.distinct
  counted := by
    rw [reached]
    exact h.counted_of_taken taken
  whole := h.whole_of_taken taken
  advancing := by
    rw [List.dropLast_concat]
    exact h.advancing

end Pages

section Records

/-- The records collected so far with their ids, and the count of the first page. -/
structure Collected where
  records : List (String × Record) := []
  expected : Option ℤ := none

def Collected.ids (c : Collected) : List String := c.records.map Prod.fst

/-- A page is taken in: its rows are appended, and either more are to come or the count is
reached and the records are returned. -/
def Advances (c : Collected) (page : Value) : Collected ⊕ List Record → Prop
  | .inl c' => ∃ count, Taken c.ids c.expected page c'.ids count
      ∧ c'.records = c.records ++ rowsOf page ∧ c'.expected = some count ∧ itemsOf page ≠ []
  | .inr result => ∃ records count, Taken c.ids c.expected page (records.map Prod.fst) count
      ∧ records = c.records ++ rowsOf page ∧ (records.length : ℤ) = count
      ∧ result = records.map Prod.snd

/-- The pages of the run are the history collected so far. -/
structure Collected.Holds (c : Collected) (h : History pageInterface Err) : Prop where
  sofar : Sofar (fetched h) c.ids c.expected
  listed : c.records = (fetched h).flatMap rowsOf

/-- The records are all the rows of the pages of the run, which are authoritative. -/
def Delivers (records : List Record) (h : History pageInterface Err) : Prop :=
  (∃ ids, Authoritative (fetched h) ids)
    ∧ records = ((fetched h).flatMap rowsOf).map Prod.snd

variable {c : Collected} {h h' : History pageInterface Err} {page : Value}

theorem Collected.Holds.start : Collected.Holds {} [] := ⟨Sofar.start, rfl⟩

theorem Collected.Holds.next (holds : c.Holds h) {c' : Collected}
    (advances : Advances c page (.inl c')) (brought : fetched h' = fetched h ++ [page]) :
    c'.Holds h' := by
  obtain ⟨count, taken, appended, expected, nonempty⟩ := advances
  constructor
  · rw [brought, expected]
    exact holds.sofar.next taken nonempty
  · rw [brought, appended, holds.listed]
    simp

theorem Collected.Holds.last (holds : c.Holds h) {result : List Record}
    (advances : Advances c page (.inr result)) (brought : fetched h' = fetched h ++ [page]) :
    Delivers result h' := by
  obtain ⟨records, count, taken, appended, reached, rfl⟩ := advances
  constructor
  · rw [brought]
    exact ⟨_, holds.sofar.last taken (by simpa using reached)⟩
  · rw [brought, appended, holds.listed]
    simp

end Records

section Collecting

variable {γ : Type} {add : List γ → Value → Except Err (List γ)} {item : Value → Option γ}
  {key : γ → String}

/-- Adding a row appends what it is read as, under a key that was not there. -/
def Appends (item : Value → Option γ) (key : γ → String) (add : List γ → Value → Except Err (List γ)) :
    Prop :=
  ∀ c v c', add c v = .ok c' → ∃ x, item v = some x ∧ c' = c ++ [x] ∧ key x ∉ c.map key

/-- Rows that are added one after another are all appended, and their keys stay distinct. -/
theorem Appends.foldlM (h : Appends item key add) {items : List Value} {c c' : List γ}
    (ok : items.foldlM add c = .ok c') :
    c' = c ++ items.filterMap item ∧ items.length = (items.filterMap item).length
      ∧ ((c.map key).Nodup → (c'.map key).Nodup) := by
  induction items generalizing c with
  | nil =>
    cases ok
    simp
  | cons v items ih =>
    rw [List.foldlM_cons] at ok
    obtain ⟨m, added, rest⟩ := bind_eq_ok.1 ok
    obtain ⟨x, read, rfl, fresh⟩ := h c v m added
    obtain ⟨rfl, length, distinct⟩ := ih rest
    refine ⟨by simp [read], by simp [read, length], ?_⟩
    intro nodup
    apply distinct
    rw [List.map_append, List.map_singleton]
    exact List.Nodup.append nodup (List.nodup_singleton _)
      (List.disjoint_singleton.2 fresh)

/-- Rows that can be added under distinct new keys are. -/
theorem foldlM_append {values : List Value} {xs c : List γ}
    (accepts : ∀ c x v, (x, v) ∈ xs.zip values → key x ∉ c.map key → add c v = .ok (c ++ [x]))
    (aligned : xs.length = values.length) (distinct : ((c ++ xs).map key).Nodup) :
    values.foldlM add c = .ok (c ++ xs) := by
  induction values generalizing xs c with
  | nil =>
    cases List.length_eq_zero_iff.1 aligned
    simp [pure, Except.pure]
  | cons v values ih =>
    cases xs with
    | nil => simp at aligned
    | cons x xs =>
      have fresh : key x ∉ c.map key := by
        intro mem
        rw [List.map_append, List.nodup_append] at distinct
        exact distinct.2.2 _ mem _ (List.mem_map_of_mem (List.mem_cons_self ..)) rfl
      rw [List.foldlM_cons, accepts c x v (by simp) fresh]
      have rest : values.foldlM add (c ++ [x]) = .ok (c ++ [x] ++ xs) :=
        ih (fun c x v mem => accepts c x v (by simpa using .inr mem)) (by simpa using aligned)
          (by simpa using distinct)
      simpa [bind, Except.bind] using rest

end Collecting

end KairosExecution.Pagination
