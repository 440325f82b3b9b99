import KairosExecution.Python.Double

/-! Python values as decoded JSON delivers them, and the standard-library functions
that read them. A finite float is the rational it stands for; an integer is
rounded to a double where it is read as one. The infinities and NaN are kept apart, since
JSON decoding admits them. Text functions whose result depends on the Unicode tables or on
number formatting are parameters, collected in `Lib`: every theorem holds whatever they
compute. -/

namespace Python

inductive Value
  | none
  | bool (b : Bool)
  | int (n : ℤ)
  | float (x : ℚ)
  | nonfinite (name : String)
  | str (s : String)
  | list (items : List Value)
  | dict (fields : List (String × Value))

/-- A `dict[str, Any]`; the first entry of a key is its value. -/
abbrev Record := List (String × Value)

/-- `field in record` -/
def Record.has (r : Record) (field : String) : Bool := (r.lookup field).isSome

/-- `record.get(field)` -/
def Record.get (r : Record) (field : String) : Value := (r.lookup field).getD .none

/-- `record.get(field, default)` -/
def Record.getD (r : Record) (field : String) (default : Value) : Value :=
  (r.lookup field).getD default

/-- `{**record, field: value}` -/
def Record.set (r : Record) (field : String) (value : Value) : Record :=
  (field, value) :: r.filter fun kv => kv.1 != field

def Value.isNone : Value → Bool
  | .none => true
  | _ => false

def Value.asDict : Value → Option Record
  | .dict d => some d
  | _ => Option.none

theorem Record.lookup_set (r : Record) (field other : String) (value : Value) :
    (r.set field value).lookup other = if other = field then some value else r.lookup other := by
  by_cases h : other = field
  · subst h
    simp [set]
  have hne : (other == field) = false := by simpa using h
  have filtered : (r.filter fun kv => kv.1 != field).lookup other = r.lookup other := by
    induction r with
    | nil => rfl
    | cons kv r ih =>
      obtain ⟨k, v⟩ := kv
      by_cases hk : k = field
      · subst hk
        simpa [List.lookup, hne] using ih
      · simp [hk, List.lookup, ih]
  simp [set, List.lookup, hne, filtered, h]

theorem Record.get_set (r : Record) (field other : String) (value : Value) :
    (r.set field value).get other = if other = field then value else r.get other := by
  rw [get, lookup_set]
  split
  · rfl
  · rfl

/-- A float: a finite one, or an infinity or NaN. -/
abbrev Number := Option ℚ

/-- A parsed ISO-8601 time in microseconds since the epoch; `none` for a naive one. -/
abbrev IsoTime := Option ℤ

/-- The text functions of the standard library. -/
structure Lib where
  upper : String → String
  casefold : String → String
  /-- `text.replace(old, new)` -/
  replace : String → String → String → String
  strip : String → String
  startsWith : String → String → Bool
  rstrip : String → String → String
  /-- `str(value)` of a value that is not a string -/
  repr : Value → String
  /-- `float(text)`, `none` where it raises `ValueError` -/
  float : String → Option Number
  fromHex : String → Option Number
  hex : ℚ → String
  /-- `Decimal(text)`, `none` where it raises -/
  decimal : String → Option Number
  /-- `Decimal(str(x))` of a finite float; it keeps the sign -/
  shortest : ℚ → ℚ
  shortest_pos : ∀ x, 0 < shortest x → 0 < x
  /-- rounding to the decimal context, applied to every arithmetic result -/
  context : ℚ → ℚ
  /-- `format(value, "f")` of a decimal -/
  fixed : ℚ → String
  /-- `format(value, ".12g")` -/
  general : ℚ → String
  /-- `int(text)` -/
  int : String → Option ℤ
  fromIsoFormat : String → Option IsoTime
  /-- `json.dumps(value, sort_keys=True, separators=(",", ":"), default=str)` -/
  dumps : Record → String

/-- What `float(value)` raises: a `TypeError` or a `ValueError`, or an `OverflowError`. -/
inductive FloatError
  | malformed
  | overflow

namespace Lib

variable (lib : Lib)

/-- `not text.strip()` -/
def blank (text : String) : Bool := lib.strip text = ""

/-- `str(value)` -/
def str : Value → String
  | .str s => s
  | v => lib.repr v

/-- `bool(value)` -/
def truthy : Value → Bool
  | .none => false
  | .bool b => b
  | .int n => n ≠ 0
  | .float x => x ≠ 0
  | .nonfinite _ => true
  | .str s => s ≠ ""
  | .list items => !items.isEmpty
  | .dict fields => !fields.isEmpty

/-- `str(value or "")` -/
def strOrEmpty (v : Value) : String := if truthy v then lib.str v else lib.str (.str "")

/-- `float(value)`; an integer is rounded to a double, or too large for one. -/
def toFloat : Value → Except FloatError Number
  | .bool b => .ok (some (if b then 1 else 0))
  | .int n => match double n with
    | some x => .ok (some x)
    | none => .error .overflow
  | .float x => .ok (some x)
  | .nonfinite _ => .ok none
  | .str s => match lib.float s with
    | some x => .ok x
    | none => .error .malformed
  | .none | .list _ | .dict _ => .error .malformed

end Lib

/-- `rows`, as far as `keep` raises nothing on them, that `keep` keeps. -/
def filterRows {ε α : Type} (keep : α → Except ε Bool) : List α → Except ε (List α)
  | [] => .ok []
  | row :: rows => do
    let kept ← keep row
    let rest ← filterRows keep rows
    return if kept then row :: rest else rest

/-- `sum(number(row) for row in rows)` -/
def sumRows {ε α : Type} (number : α → Except ε ℚ) : List α → Except ε ℚ
  | [] => .ok 0
  | row :: rows => do
    let x ← number row
    let rest ← sumRows number rows
    return x + rest

section Checks

variable {ε α β : Type}

/-- A sequence of checks passes exactly when each of its parts does. -/
theorem bind_eq_ok {x : Except ε α} {f : α → Except ε β} {b : β} :
    (x >>= f) = .ok b ↔ ∃ a, x = .ok a ∧ f a = .ok b := by
  cases x with
  | ok a => exact ⟨fun h => ⟨a, rfl, h⟩, fun ⟨_, ha, h⟩ => by cases ha; exact h⟩
  | error e => exact ⟨(fun h => nomatch h), fun ⟨_, ha, _⟩ => nomatch ha⟩

theorem map_eq_ok {x : Except ε α} {f : α → β} {b : β} :
    x.map f = .ok b ↔ ∃ a, x = .ok a ∧ f a = b := by
  cases x with
  | ok a => simp [Except.map]
  | error e => simp [Except.map]

theorem mem_filterRows {keep : α → Except ε Bool} {rows kept : List α}
    (h : filterRows keep rows = .ok kept) (row : α) :
    row ∈ kept ↔ row ∈ rows ∧ keep row = .ok true := by
  induction rows generalizing kept with
  | nil => cases h; simp
  | cons r rows ih =>
    obtain ⟨b, hb, h⟩ := bind_eq_ok.1 h
    obtain ⟨rest, hrest, h⟩ := bind_eq_ok.1 h
    cases h
    have tail := ih hrest
    cases b with
    | true =>
      rw [if_pos rfl, List.mem_cons, List.mem_cons, tail]
      constructor
      · rintro (rfl | ⟨hm, hk⟩)
        · exact ⟨.inl rfl, hb⟩
        · exact ⟨.inr hm, hk⟩
      · rintro ⟨rfl | hm, hk⟩
        · exact .inl rfl
        · exact .inr ⟨hm, hk⟩
    | false =>
      rw [if_neg Bool.false_ne_true, List.mem_cons, tail]
      constructor
      · rintro ⟨hm, hk⟩
        exact ⟨.inr hm, hk⟩
      · rintro ⟨rfl | hm, hk⟩
        · rw [hb] at hk; cases hk
        · exact ⟨hm, hk⟩

theorem filterRows_keep {keep : α → Except ε Bool} {rows kept : List α}
    (h : filterRows keep rows = .ok kept) {row : α} (hm : row ∈ rows) :
    ∃ b, keep row = .ok b := by
  induction rows generalizing kept with
  | nil => cases hm
  | cons r rows ih =>
    obtain ⟨b, hb, h⟩ := bind_eq_ok.1 h
    obtain ⟨rest, hrest, -⟩ := bind_eq_ok.1 h
    rcases List.mem_cons.1 hm with rfl | hm
    · exact ⟨b, hb⟩
    · exact ih hrest hm

/-- Nothing is kept exactly when no row is, and none raises. -/
theorem filterRows_eq_nil {keep : α → Except ε Bool} {rows : List α} :
    filterRows keep rows = .ok [] ↔ ∀ row ∈ rows, keep row = .ok false := by
  induction rows with
  | nil => simp [filterRows]
  | cons r rows ih =>
    rw [List.forall_mem_cons, ← ih]
    constructor
    · intro h
      obtain ⟨b, hb, h⟩ := bind_eq_ok.1 h
      obtain ⟨rest, hrest, h⟩ := bind_eq_ok.1 h
      cases b with
      | true => cases h
      | false => cases h; exact ⟨hb, hrest⟩
    · rintro ⟨hb, hrest⟩
      exact bind_eq_ok.2 ⟨false, hb, bind_eq_ok.2 ⟨[], hrest, rfl⟩⟩

/-- A sum of nonnegative numbers bounds each of them. -/
theorem le_sumRows {number : α → Except ε ℚ} {rows : List α} {total : ℚ}
    (h : sumRows number rows = .ok total) (nonneg : ∀ row x, number row = .ok x → 0 ≤ x) :
    0 ≤ total ∧ ∀ row ∈ rows, ∃ x, number row = .ok x ∧ x ≤ total := by
  induction rows generalizing total with
  | nil => cases h; exact ⟨le_refl _, fun _ hm => nomatch hm⟩
  | cons r rows ih =>
    obtain ⟨x, hx, h⟩ := bind_eq_ok.1 h
    obtain ⟨rest, hrest, h⟩ := bind_eq_ok.1 h
    cases h
    obtain ⟨rest_nonneg, bound⟩ := ih hrest
    have x_nonneg := nonneg r x hx
    refine ⟨add_nonneg x_nonneg rest_nonneg, fun row hm => ?_⟩
    rcases List.mem_cons.1 hm with rfl | hm
    · exact ⟨x, hx, le_add_of_nonneg_right rest_nonneg⟩
    · obtain ⟨y, hy, le⟩ := bound row hm
      exact ⟨y, hy, le.trans (le_add_of_nonneg_left x_nonneg)⟩

/-- Every element of a checked list has its result in the list of results. -/
theorem mem_mapM {f : α → Except ε β} {xs : List α} {ys : List β} (h : xs.mapM f = .ok ys) :
    (∀ x ∈ xs, ∃ y ∈ ys, f x = .ok y) ∧ ∀ y ∈ ys, ∃ x ∈ xs, f x = .ok y := by
  induction xs generalizing ys with
  | nil =>
    rw [List.mapM_nil] at h
    cases h
    exact ⟨(fun _ hm => nomatch hm), fun _ hm => nomatch hm⟩
  | cons x xs ih =>
    rw [List.mapM_cons] at h
    obtain ⟨y, hy, h⟩ := bind_eq_ok.1 h
    obtain ⟨rest, hrest, h⟩ := bind_eq_ok.1 h
    cases h
    obtain ⟨left, right⟩ := ih hrest
    constructor
    · intro z hz
      rcases List.mem_cons.1 hz with rfl | hz
      · exact ⟨y, List.mem_cons_self, hy⟩
      · obtain ⟨w, hw, eq⟩ := left z hz
        exact ⟨w, List.mem_cons_of_mem _ hw, eq⟩
    · intro w hw
      rcases List.mem_cons.1 hw with rfl | hw
      · exact ⟨x, List.mem_cons_self, hy⟩
      · obtain ⟨z, hz, eq⟩ := right w hw
        exact ⟨z, List.mem_cons_of_mem _ hz, eq⟩

end Checks

/-- `int(datetime.timestamp() * 1000)` of a time in microseconds. The quotient is exact, as the two
roundings leave it for every instant from 2005 to 2037. -/
def milliseconds (instant : ℤ) : ℤ := instant.tdiv 1000

end Python
