import Mathlib

/-! A `dict` as the list of its entries: assignment replaces the value of a key where
the key stands, or appends it. Sorting the entries changes the order and nothing that
can be looked up. -/

namespace Python

abbrev Dict (κ ν : Type) := List (κ × ν)

namespace Dict

variable {κ ν : Type} [DecidableEq κ]

/-- `d[key] = value` -/
def set (d : Dict κ ν) (key : κ) (value : ν) : Dict κ ν :=
  match d with
  | [] => [(key, value)]
  | (k, v) :: rest => if k = key then (k, value) :: rest else (k, v) :: set rest key value

/-- `d.get(key)` -/
abbrev get (d : Dict κ ν) (key : κ) : Option ν := d.lookup key

/-- `d.get(key, default)` -/
def getD (d : Dict κ ν) (key : κ) (default : ν) : ν := (d.lookup key).getD default

/-- No key stands twice. -/
def Unique (d : Dict κ ν) : Prop := (d.map Prod.fst).Nodup

instance (d : Dict κ ν) : Decidable d.Unique := inferInstanceAs (Decidable (List.Nodup _))

theorem lookup_set (d : Dict κ ν) (key other : κ) (value : ν) :
    (d.set key value).lookup other = if other = key then some value else d.lookup other := by
  induction d with
  | nil =>
    by_cases same : other = key
    · simp [set, same]
    · have differs : (other == key) = false := by simpa using same
      simp [set, List.lookup, same, differs]
  | cons entry rest ih =>
    obtain ⟨k, v⟩ := entry
    by_cases here : k = key
    · subst here
      by_cases same : other = k
      · simp [set, same]
      · have differs : (other == k) = false := by simpa using same
        simp [set, List.lookup, same, differs]
    · rw [set, if_neg here]
      by_cases same : other = k
      · subst same
        simp [List.lookup, here]
      · have differs : (other == k) = false := by simpa using same
        simp only [List.lookup, differs]
        exact ih

theorem get_set (d : Dict κ ν) (key other : κ) (value : ν) :
    (d.set key value).get other = if other = key then some value else d.get other :=
  lookup_set d key other value

theorem getD_set (d : Dict κ ν) (key other : κ) (value default : ν) :
    (d.set key value).getD other default = if other = key then value else d.getD other default := by
  unfold getD
  rw [lookup_set]
  split <;> rfl

theorem mem_keys_set (d : Dict κ ν) (key other : κ) (value : ν) :
    other ∈ (d.set key value).map Prod.fst ↔ other = key ∨ other ∈ d.map Prod.fst := by
  induction d with
  | nil => simp [set]
  | cons entry rest ih =>
    obtain ⟨k, v⟩ := entry
    by_cases here : k = key
    · subst here
      simp [set]
    · rw [set, if_neg here, List.map_cons, List.mem_cons, ih, List.map_cons, List.mem_cons]
      tauto

theorem length_set_le (d : Dict κ ν) (key : κ) (value : ν) : (d.set key value).length ≤ d.length + 1 := by
  induction d with
  | nil => simp [set]
  | cons entry rest ih =>
    obtain ⟨k, v⟩ := entry
    by_cases here : k = key
    · simp [set, here]
    · simpa [set, here] using ih

/-- Only the last of two assignments to a key stands. -/
theorem set_set (d : Dict κ ν) (key : κ) (value value' : ν) :
    (d.set key value).set key value' = d.set key value' := by
  induction d with
  | nil => simp [set]
  | cons entry rest ih =>
    obtain ⟨k, v⟩ := entry
    by_cases here : k = key
    · simp [set, here]
    · simp [set, here, ih]

/-- An assignment adds one entry, and may replace one. -/
theorem mem_set {d : Dict κ ν} {key : κ} {value : ν} {entry : κ × ν} (h : entry ∈ d.set key value) :
    entry = (key, value) ∨ entry ∈ d := by
  induction d with
  | nil => exact .inl (List.mem_singleton.1 h)
  | cons first rest ih =>
    obtain ⟨k, v⟩ := first
    by_cases here : k = key
    · rw [Dict.set, if_pos here] at h
      rcases List.mem_cons.1 h with rfl | older
      · rw [here]
        exact .inl rfl
      · exact .inr (List.mem_cons_of_mem _ older)
    · rw [Dict.set, if_neg here] at h
      rcases List.mem_cons.1 h with rfl | later
      · exact .inr List.mem_cons_self
      · exact (ih later).imp_right (List.mem_cons_of_mem _)

theorem mem_of_lookup {d : Dict κ ν} {key : κ} {value : ν} (h : d.lookup key = some value) :
    (key, value) ∈ d := by
  induction d with
  | nil => cases h
  | cons first rest ih =>
    obtain ⟨k, v⟩ := first
    by_cases same : key = k
    · subst same
      simp only [List.lookup, beq_self_eq_true, Option.some.injEq] at h
      rw [h]
      exact List.mem_cons_self
    · have differs : (key == k) = false := by simpa using same
      simp only [List.lookup, differs] at h
      exact List.mem_cons_of_mem _ (ih h)

theorem getD_cases (d : Dict κ ν) (key : κ) (default : ν) :
    d.getD key default = default ∨ (key, d.getD key default) ∈ d := by
  unfold getD
  cases found : d.lookup key with
  | none => exact .inl rfl
  | some value => exact .inr (mem_of_lookup found)

theorem Unique.set {d : Dict κ ν} (unique : d.Unique) (key : κ) (value : ν) :
    (d.set key value).Unique := by
  induction d with
  | nil => simp [Dict.set, Unique]
  | cons entry rest ih =>
    obtain ⟨k, v⟩ := entry
    obtain ⟨absent, unique⟩ := List.nodup_cons.1 unique
    by_cases here : k = key
    · rw [Dict.set, if_pos here]
      exact List.nodup_cons.2 ⟨absent, unique⟩
    · rw [Dict.set, if_neg here]
      refine List.nodup_cons.2 ⟨fun found => ?_, ih unique⟩
      rcases (mem_keys_set rest key k value).1 found with same | older
      · exact here same
      · exact absent older

/-- An entry of a dict is what its key looks up. -/
theorem Unique.lookup_iff {d : Dict κ ν} (unique : d.Unique) (key : κ) (value : ν) :
    d.lookup key = some value ↔ (key, value) ∈ d := by
  induction d with
  | nil => simp
  | cons entry rest ih =>
    obtain ⟨k, v⟩ := entry
    obtain ⟨absent, unique⟩ := List.nodup_cons.1 unique
    by_cases same : key = k
    · subst same
      have elsewhere : (key, value) ∉ rest := fun found =>
        absent (List.mem_map.2 ⟨(key, value), found, rfl⟩)
      simp [List.lookup, elsewhere, eq_comm]
    · have differs : (key == k) = false := by simpa using same
      simp [List.lookup, differs, same, ih unique]

/-- The order of the entries does not matter. -/
theorem Unique.getD_perm {d d' : Dict κ ν} (unique : d.Unique) (perm : d'.Perm d) (key : κ)
    (default : ν) : d'.getD key default = d.getD key default := by
  have unique' : d'.Unique := (perm.map Prod.fst).nodup_iff.2 unique
  have same : d'.lookup key = d.lookup key := by
    apply Option.ext
    intro value
    rw [unique'.lookup_iff, unique.lookup_iff]
    exact perm.mem_iff
  unfold getD
  rw [same]

/-- `sorted(d.items())`, by the keys. -/
def sorted (before : κ → κ → Prop) [DecidableRel before] (d : Dict κ ν) : Dict κ ν :=
  d.insertionSort fun a b => before a.1 b.1

omit [DecidableEq κ] in
theorem sorted_perm (before : κ → κ → Prop) [DecidableRel before] (d : Dict κ ν) :
    (d.sorted before).Perm d := List.perm_insertionSort _ d

end Dict

end Python
