import Mathlib.Algebra.BigOperators.Group.List.Basic
import Mathlib.Data.List.Nodup
import Mathlib.Data.List.Perm.Basic
import Mathlib.Order.MinMax

/-! Aggregates of the rows of a table: the greatest and the smallest value of a column,
which are absent where there is no row, and the left join of the rows with those of
another table. A table whose keys are distinct is joined row by row. -/

namespace KairosExecution.Table

section Extremes

variable {K : Type*} [LinearOrder K]

/-- `max(...)`, which is NULL of no rows. -/
def maxOf : List K → Option K
  | [] => none
  | x :: xs => some (xs.foldl max x)

/-- `min(...)` -/
def minOf : List K → Option K
  | [] => none
  | x :: xs => some (xs.foldl min x)

theorem foldl_max_le {xs : List K} {x bound : K} :
    xs.foldl max x ≤ bound ↔ x ≤ bound ∧ ∀ y ∈ xs, y ≤ bound := by
  induction xs generalizing x with
  | nil => simp
  | cons y xs ih => simp [ih, and_assoc]

theorem le_foldl_min {xs : List K} {x bound : K} :
    bound ≤ xs.foldl min x ↔ bound ≤ x ∧ ∀ y ∈ xs, bound ≤ y := by
  induction xs generalizing x with
  | nil => simp
  | cons y xs ih => simp [ih, and_assoc]

/-- The greatest value is the least bound of all of them. -/
theorem maxOf_le {xs : List K} {bound : K} :
    (∀ top ∈ maxOf xs, top ≤ bound) ↔ ∀ x ∈ xs, x ≤ bound := by
  cases xs with
  | nil => simp [maxOf]
  | cons x xs => simp [maxOf, foldl_max_le]

theorem le_minOf {xs : List K} {bound : K} :
    (∀ low ∈ minOf xs, bound ≤ low) ↔ ∀ x ∈ xs, bound ≤ x := by
  cases xs with
  | nil => simp [minOf]
  | cons x xs => simp [minOf, le_foldl_min]

/-- A value is at most the greatest, whatever stands for the greatest of no values. -/
theorem le_maxOf_getD {xs : List K} {x : K} (mem : x ∈ xs) (absent : K) :
    x ≤ (maxOf xs).getD absent := by
  cases found : maxOf xs with
  | none => cases xs <;> simp_all [maxOf]
  | some top => exact maxOf_le.1 (by simp [found]) x mem

theorem minOf_getD_le {xs : List K} {x : K} (mem : x ∈ xs) (absent : K) :
    (minOf xs).getD absent ≤ x := by
  cases found : minOf xs with
  | none => cases xs <;> simp_all [minOf]
  | some low => exact le_minOf.1 (by simp [found]) x mem

theorem foldl_max_mem (xs : List K) (x : K) : xs.foldl max x ∈ x :: xs := by
  induction xs generalizing x with
  | nil => exact List.mem_singleton.2 rfl
  | cons y xs ih =>
    rw [List.foldl_cons]
    rcases List.mem_cons.1 (ih (max x y)) with same | later
    · rw [same]
      rcases max_choice x y with left' | right' <;> simp [*]
    · exact List.mem_cons_of_mem _ (List.mem_cons_of_mem _ later)

theorem foldl_min_mem (xs : List K) (x : K) : xs.foldl min x ∈ x :: xs := by
  induction xs generalizing x with
  | nil => exact List.mem_singleton.2 rfl
  | cons y xs ih =>
    rw [List.foldl_cons]
    rcases List.mem_cons.1 (ih (min x y)) with same | later
    · rw [same]
      rcases min_choice x y with left' | right' <;> simp [*]
    · exact List.mem_cons_of_mem _ (List.mem_cons_of_mem _ later)

/-- The greatest value is one of them. -/
theorem mem_of_maxOf {xs : List K} {top : K} (isTop : top ∈ maxOf xs) : top ∈ xs := by
  cases xs with
  | nil => cases isTop
  | cons x xs =>
    cases isTop
    exact foldl_max_mem xs x

theorem mem_of_minOf {xs : List K} {low : K} (isLow : low ∈ minOf xs) : low ∈ xs := by
  cases xs with
  | nil => cases isLow
  | cons x xs =>
    cases isLow
    exact foldl_min_mem xs x

end Extremes

section Bounds

variable {α K : Type*} [LinearOrder K] {rows : List α} {new row : α}

/-- A new row and the greatest value there is bound every value of the table with the row. -/
theorem le_max_maxOf (base : α → K) (absent : K) (mem : row ∈ rows ++ [new]) :
    base row ≤ max (base new) ((maxOf (rows.map base)).getD absent) := by
  rcases List.mem_append.1 mem with old | last
  · exact le_max_of_le_right (le_maxOf_getD (List.mem_map_of_mem old) absent)
  · obtain rfl := List.mem_singleton.1 last
    exact le_max_left _ _

theorem min_minOf_le (cap : α → K) (absent : K) (mem : row ∈ rows ++ [new]) :
    min (cap new) ((minOf (rows.map cap)).getD absent) ≤ cap row := by
  rcases List.mem_append.1 mem with old | last
  · exact min_le_of_right_le (minOf_getD_le (List.mem_map_of_mem old) absent)
  · obtain rfl := List.mem_singleton.1 last
    exact min_le_left _ _

/-- A relation of every two rows is one of the greatest value of a column and the smallest of
another. -/
theorem maxOf_minOf {base cap : α → K} {R : K → K → Prop}
    (related : ∀ b ∈ rows, ∀ c ∈ rows, R (base b) (cap c)) :
    ∀ top ∈ maxOf (rows.map base), ∀ low ∈ minOf (rows.map cap), R top low := by
  intro top isTop low isLow
  obtain ⟨b, inBases, rfl⟩ := List.mem_map.1 (mem_of_maxOf isTop)
  obtain ⟨c, inCaps, rfl⟩ := List.mem_map.1 (mem_of_minOf isLow)
  exact related b inBases c inCaps

end Bounds

section Join

variable {α β κ : Type*}

/-- A row under a new key leaves the keys distinct. -/
theorem nodup_map_append {key : α → κ} {rows : List α} {new : α} (distinct : (rows.map key).Nodup)
    (fresh : ∀ row ∈ rows, key row ≠ key new) : ((rows ++ [new]).map key).Nodup := by
  rw [List.map_append, List.map_singleton, List.nodup_append]
  refine ⟨distinct, List.nodup_singleton _, fun a old b last => ?_⟩
  obtain ⟨row, mem, rfl⟩ := List.mem_map.1 old
  rw [List.mem_singleton.1 last]
  exact fresh row mem

/-- A left join on what joins each row. -/
def leftJoin (joins : α → List β) (rows : List α) : List (α × Option β) :=
  rows.flatMap fun row => match joins row with
    | [] => [(row, none)]
    | matching => matching.map fun other => (row, some other)

theorem leftJoin_cons (joins : α → List β) (row : α) (rows : List α) :
    leftJoin joins (row :: rows) = leftJoin joins [row] ++ leftJoin joins rows := by
  simp [leftJoin]

/-- Where a row is joined by one at most, the join has each row once. -/
theorem leftJoin_fst {joins : α → List β} {rows : List α}
    (single : ∀ row ∈ rows, (joins row).length ≤ 1) : (leftJoin joins rows).map Prod.fst = rows := by
  induction rows with
  | nil => rfl
  | cons row rows ih =>
    have rest := ih fun other mem => single other (List.mem_cons_of_mem _ mem)
    have one := single row (List.mem_cons_self ..)
    rw [leftJoin_cons, List.map_append, rest]
    cases found : joins row with
    | nil => simp [leftJoin, found]
    | cons other others =>
      have none' : others = [] := by
        rw [found, List.length_cons] at one
        exact List.eq_nil_of_length_eq_zero (by omega)
      simp [leftJoin, found, none']

/-- Distinct keys have one row at most. -/
theorem length_filter_key_le_one [DecidableEq κ] {key : α → κ} {rows : List α}
    (distinct : (rows.map key).Nodup) (k : κ) : (rows.filter (key · = k)).length ≤ 1 := by
  have same : (rows.filter (key · = k)).map key = List.replicate (rows.filter (key · = k)).length k := by
    rw [List.eq_replicate_iff]
    refine ⟨List.length_map _, fun other mem => ?_⟩
    obtain ⟨row, kept, rfl⟩ := List.mem_map.1 mem
    exact of_decide_eq_true (List.mem_filter.1 kept).2
  have nodup : ((rows.filter (key · = k)).map key).Nodup :=
    distinct.sublist (List.filter_sublist.map key)
  rw [same] at nodup
  exact List.nodup_replicate.1 nodup

variable {K : Type*} [AddCommMonoid K]

/-- What the joined rows of the other table add up to. -/
theorem leftJoin_sum_snd (joins : α → List β) (rows : List α) (amount : β → K) :
    ((leftJoin joins rows).map fun entry => (entry.2.map amount).getD 0).sum =
      ((rows.flatMap joins).map amount).sum := by
  induction rows with
  | nil => rfl
  | cons row rows ih =>
    rw [leftJoin_cons, List.map_append, List.sum_append, ih, List.flatMap_cons, List.map_append,
      List.sum_append]
    congr 1
    cases found : joins row with
    | nil => simp [leftJoin, found]
    | cons other others => simp [leftJoin, found, Function.comp_def]

/-- What the rows that nothing joins add up to. -/
theorem leftJoin_sum_fst (joins : α → List β) (rows : List α) (amount : α → K) :
    ((leftJoin joins rows).map fun entry => if entry.2.isNone then amount entry.1 else 0).sum =
      ((rows.filter fun row => (joins row).isEmpty).map amount).sum := by
  induction rows with
  | nil => rfl
  | cons row rows ih =>
    rw [leftJoin_cons, List.map_append, List.sum_append, ih]
    cases found : joins row with
    | nil => simp [leftJoin, found]
    | cons other others => simp [leftJoin, found, Function.comp_def]

variable [DecidableEq κ]

/-- Rows of another table that are taken key by key are all of them, where the keys are
distinct and each of these rows has one. -/
theorem flatMap_filter_perm {key : α → κ} {rows : List α} {key' : β → κ} {others : List β}
    (distinct : (rows.map key).Nodup) (covered : ∀ other ∈ others, key' other ∈ rows.map key) :
    (rows.flatMap fun row => others.filter (key' · = key row)).Perm others := by
  induction rows generalizing others with
  | nil =>
    cases others with
    | nil => rfl
    | cons other others => exact absurd (covered other (List.mem_cons_self ..)) (by simp)
  | cons row rows ih =>
    rw [List.map_cons, List.nodup_cons] at distinct
    obtain ⟨fresh, distinct⟩ := distinct
    -- the rest of the keys take what the first one leaves
    have left' : ∀ other ∈ others.filter fun other => !decide (key' other = key row),
        key' other ∈ rows.map key := by
      intro other mem
      obtain ⟨mem, apart⟩ := List.mem_filter.1 mem
      have either := covered other mem
      rw [List.map_cons, List.mem_cons] at either
      exact either.resolve_left (by simpa using apart)
    have rest := ih distinct left'
    have same : (rows.flatMap fun row' =>
        (others.filter fun other => !decide (key' other = key row)).filter (key' · = key row')) =
        rows.flatMap fun row' => others.filter (key' · = key row') := by
      apply List.flatMap_congr
      intro row' mem
      rw [List.filter_filter]
      apply List.filter_congr
      intro other _
      have apart : key row' ≠ key row := fun same => fresh (same ▸ List.mem_map_of_mem mem)
      by_cases matched : key' other = key row' <;> simp [matched, apart]
    rw [List.flatMap_cons]
    rw [same] at rest
    exact (rest.append_left _).trans (List.filter_append_perm _ _)

end Join

end KairosExecution.Table
