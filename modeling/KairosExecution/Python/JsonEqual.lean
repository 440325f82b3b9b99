import KairosExecution.Python.Dict
import KairosExecution.Python.JsonDump

/-! Python's `==` on decoded JSON, and what `json.dumps` makes of an object under
`sort_keys=True`. Two dicts are equal when they have the same keys with equal values, in
whatever order, so a value is equal to what is read back of its sorted text. -/

namespace Python.Json

/-- The number that a value is, where it is a finite one. -/
def numberOf : Value → Option ℚ
  | .bool b => some (if b then 1 else 0)
  | .int n => some n
  | .float x => some x
  | _ => none

/-- The names of the positive infinity, as a constant and as the value of a literal. -/
def sameNonfinite (name other : String) : Bool :=
  name = other || (name ∈ ["inf", "Infinity"] && other ∈ ["inf", "Infinity"])

mutual

/-- `a == b`. The decoder has one object for NaN, which a container finds equal to itself. -/
def same : Value → Value → Bool
  | .none, .none => true
  | .str s, .str t => s = t
  | .nonfinite name, .nonfinite other => sameNonfinite name other
  | .list items, .list others => sameItems items others
  | .dict entries, .dict others => decide (entries.length = others.length) && sameEntries entries others
  | a, b => (numberOf a).isSome && numberOf a = numberOf b

def sameItems : List Value → List Value → Bool
  | [], [] => true
  | item :: items, other :: others => same item other && sameItems items others
  | _, _ => false

def sameEntries : List (String × Value) → List (String × Value) → Bool
  | [], _ => true
  | (key, value) :: entries, others =>
    (match others.lookup key with
      | some other => same value other
      | none => false) && sameEntries entries others

end

mutual

/-- The value of which every dict has its keys sorted. -/
def sortKeys : Value → Value
  | .list items => .list (sortItems items)
  | .dict entries => .dict (Dict.sorted (· ≤ ·) (sortEntries entries))
  | v => v

def sortItems : List Value → List Value
  | [] => []
  | item :: items => sortKeys item :: sortItems items

def sortEntries : List (String × Value) → List (String × Value)
  | [] => []
  | (key, value) :: entries => (key, sortKeys value) :: sortEntries entries

end

theorem sortItems_eq (items : List Value) : sortItems items = items.map sortKeys := by
  induction items with
  | nil => rfl
  | cons item items ih => rw [sortItems, ih, List.map_cons]

theorem sortEntries_eq (entries : List (String × Value)) :
    sortEntries entries = entries.map fun entry => (entry.1, sortKeys entry.2) := by
  induction entries with
  | nil => rfl
  | cons entry entries ih => rw [sortEntries, ih, List.map_cons]

theorem sameItems_map (f : Value → Value) {items : List Value}
    (each : ∀ item ∈ items, same (f item) item = true) : sameItems (items.map f) items = true := by
  induction items with
  | nil => rfl
  | cons item items ih =>
    rw [List.map_cons, sameItems, each item List.mem_cons_self, Bool.true_and]
    exact ih fun other mem => each other (List.mem_cons_of_mem _ mem)

theorem sameEntries_eq (entries others : List (String × Value)) :
    sameEntries entries others = entries.all fun entry =>
      match others.lookup entry.1 with
      | some other => same entry.2 other
      | none => false := by
  induction entries with
  | nil => rfl
  | cons entry entries ih => rw [sameEntries, ih, List.all_cons]

/-- Dicts are equal when the one has the entries of the other, in any order, with equal values. -/
theorem same_dict (f : Value → Value) {entries others : List (String × Value)}
    (nodup : (entries.map Prod.fst).Nodup)
    (perm : others.Perm (entries.map fun entry => (entry.1, f entry.2)))
    (each : ∀ entry ∈ entries, same (f entry.2) entry.2 = true) :
    same (.dict others) (.dict entries) = true := by
  have length : others.length = entries.length := by rw [perm.length_eq, List.length_map]
  rw [same, decide_eq_true length, Bool.true_and, sameEntries_eq, List.all_eq_true]
  intro other mem
  obtain ⟨entry, listed, rfl⟩ := List.mem_map.1 (perm.mem_iff.1 mem)
  have found : entries.lookup entry.1 = some entry.2 :=
    (Dict.Unique.lookup_iff nodup entry.1 entry.2).2 listed
  dsimp only
  rw [found]
  exact each entry listed

theorem sortEntries_perm (entries : List (String × Value)) :
    (Dict.sorted (· ≤ ·) (sortEntries entries)).Perm
      (entries.map fun entry => (entry.1, sortKeys entry.2)) := by
  rw [← sortEntries_eq]
  exact Dict.sorted_perm _ _

/-- A value is equal to itself. -/
theorem Plain.same_self {room : ℕ} {v : Value} (plain : Plain room v) : same v v = true := by
  induction plain with
  | none => rfl
  | bool b => simp [same, numberOf]
  | int _ => simp [same, numberOf]
  | str s => simp [same]
  | list _ ih =>
    rename_i items _
    have all : sameItems (items.map id) items = true := sameItems_map id ih
    rw [List.map_id] at all
    rw [same, all]
  | dict nodup _ ih => exact same_dict id nodup (by simp) ih

theorem Plain.same_sortKeys {room : ℕ} {v : Value} (plain : Plain room v) :
    same (sortKeys v) v = true := by
  induction plain with
  | none => rfl
  | bool b => simp [sortKeys, same, numberOf]
  | int _ => simp [sortKeys, same, numberOf]
  | str s => simp [sortKeys, same]
  | list _ ih =>
    rw [sortKeys, same, sortItems_eq]
    exact sameItems_map sortKeys ih
  | dict nodup _ ih =>
    rw [sortKeys]
    exact same_dict sortKeys nodup (sortEntries_perm _) ih

theorem Plain.sortKeys {room : ℕ} {v : Value} (plain : Plain room v) :
    Plain room (Json.sortKeys v) := by
  induction plain with
  | none => exact .none
  | bool b => exact .bool b
  | int short => exact .int short
  | str s => exact .str s
  | list _ ih =>
    rw [Json.sortKeys, sortItems_eq]
    refine .list fun item mem => ?_
    obtain ⟨original, listed, rfl⟩ := List.mem_map.1 mem
    exact ih original listed
  | dict nodup _ ih =>
    rename_i entries _
    have perm := sortEntries_perm entries
    have keys : (Dict.sorted (· ≤ ·) (sortEntries entries)).map Prod.fst |>.Perm
        (entries.map Prod.fst) := by
      simpa [Function.comp_def] using perm.map Prod.fst
    rw [Json.sortKeys]
    refine .dict (keys.nodup_iff.2 nodup) fun entry mem => ?_
    obtain ⟨original, listed, rfl⟩ := List.mem_map.1 (perm.mem_iff.1 mem)
    exact ih original listed

/-- What is looked up in a sorted dict. -/
theorem lookup_sorted {entries : List (String × Value)} (nodup : (entries.map Prod.fst).Nodup)
    (key : String) : (Dict.sorted (· ≤ ·) (sortEntries entries)).lookup key =
      (entries.lookup key).map sortKeys := by
  have perm := sortEntries_perm entries
  have nodup' : Dict.Unique (Dict.sorted (· ≤ ·) (sortEntries entries)) := by
    refine ((perm.map Prod.fst).nodup_iff).2 ?_
    simpa [Function.comp_def] using nodup
  apply Option.ext
  intro value
  rw [nodup'.lookup_iff, perm.mem_iff, Option.map_eq_some_iff, List.mem_map]
  constructor
  · rintro ⟨entry, listed, eq⟩
    cases eq
    exact ⟨entry.2, (Dict.Unique.lookup_iff nodup _ _).2 listed, rfl⟩
  · rintro ⟨original, found, rfl⟩
    exact ⟨(key, original), (Dict.Unique.lookup_iff nodup _ _).1 found, rfl⟩

section Texts

variable (float : Literal → Option ℚ) (floatText : ℚ → List Char)

/-- `json.loads(text, object_pairs_hook=_reject_duplicates)`; the decoder of the standard library
nests no deeper than its recursion limit. -/
def loads (room : ℕ) (text : String) : Option Value :=
  (document (valueHooks () () float) room text.toList).toOption

/-- `json.dumps(value, sort_keys=True, separators=(",", ":"))` -/
def dumpsSorted (v : Value) : String := String.ofList (dump floatText false (sortKeys v))

/-- What is read back of a sorted text. -/
theorem Plain.loads_dumpsSorted {room : ℕ} {v : Value} (plain : Plain room v) :
    loads float room (dumpsSorted floatText v) = some (Json.sortKeys v) := by
  rw [loads, dumpsSorted, String.toList_ofList, plain.sortKeys.document]
  rfl

theorem Scalar.not_dict {text rest : List Char} {entries : List (String × Value)} :
    ¬Scalar (valueHooks () () float) text (.dict entries) rest := by
  intro scalar
  generalize eq : Value.dict entries = v at scalar
  cases scalar with
  | quoted _ _ => cases eq
  | named mem =>
    subst eq
    simp [Json.named, valueHooks] at mem
  | number _ made =>
    subst eq
    simp only [valueHooks] at made
    split at made
    · split at made <;> cases made
    · split at made <;> cases made

theorem Nested.dict_nodup {reads : List Char → Value → List Char → Prop} {text rest : List Char}
    {entries : List (String × Value)}
    (nested : Nested (valueHooks () () float) reads text (.dict entries) rest) :
    (entries.map Prod.fst).Nodup := by
  generalize eq : Value.dict entries = v at nested
  cases nested with
  | dict _ built =>
    subst eq
    obtain ⟨object, built, same⟩ := map_eq_ok.1 built
    cases same
    obtain ⟨nodup, rfl⟩ := uniqueObject_eq_ok.1 built
    exact nodup
  | list _ => cases eq

/-- An object that was read has no key twice. -/
theorem loads_nodup {room : ℕ} {text : String} {entries : List (String × Value)}
    (h : loads float room text = some (.dict entries)) : (entries.map Prod.fst).Nodup := by
  unfold loads at h
  cases read : document (valueHooks () () float) room text.toList with
  | error _ =>
    rw [read] at h
    cases h
  | ok v =>
    rw [read] at h
    cases h
    obtain ⟨_, rest, reads, -⟩ := document_eq_ok.1 read
    cases room with
    | zero => exact absurd reads (Scalar.not_dict float)
    | succ room =>
      rcases reads with scalar | nested
      · exact absurd scalar (Scalar.not_dict float)
      · exact nested.dict_nodup

end Texts

end Python.Json
