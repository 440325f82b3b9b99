import Mathlib

/-! Dumped records: trees of dictionaries and lists over leaves. Each leaf stands under a
key, the one of the innermost dictionary entry that holds it. -/

namespace Python

inductive Dump (Leaf : Type)
  | leaf (value : Leaf)
  | list (items : List (Dump Leaf))
  | dict (entries : List (String × Dump Leaf))

namespace Dump

variable {Leaf : Type}

/-! ### The leaves under their keys -/

mutual

/-- The leaves, each with the key that it stands under. -/
def leaves : Dump Leaf → String → List (String × Leaf)
  | .leaf value, name => [(name, value)]
  | .list items, name => leavesItems items name
  | .dict entries, _ => leavesEntries entries

def leavesItems : List (Dump Leaf) → String → List (String × Leaf)
  | [], _ => []
  | item :: items, name => leaves item name ++ leavesItems items name

def leavesEntries : List (String × Dump Leaf) → List (String × Leaf)
  | [] => []
  | (key, value) :: entries => leaves value key ++ leavesEntries entries

end

@[simp] theorem leaves_leaf (value : Leaf) (name : String) :
    (Dump.leaf value).leaves name = [(name, value)] := by
  rw [leaves]

theorem leavesItems_eq (items : List (Dump Leaf)) (name : String) :
    leavesItems items name = items.flatMap fun item => item.leaves name := by
  induction items with
  | nil => rw [leavesItems, List.flatMap_nil]
  | cons item items ih => rw [leavesItems, ih, List.flatMap_cons]

theorem leavesEntries_eq (entries : List (String × Dump Leaf)) :
    leavesEntries entries = entries.flatMap fun entry => entry.2.leaves entry.1 := by
  induction entries with
  | nil => rw [leavesEntries, List.flatMap_nil]
  | cons entry entries ih => rw [leavesEntries, ih, List.flatMap_cons]

@[simp] theorem leaves_list (items : List (Dump Leaf)) (name : String) :
    (Dump.list items).leaves name = items.flatMap fun item => item.leaves name := by
  rw [leaves, leavesItems_eq]

@[simp] theorem leaves_dict (entries : List (String × Dump Leaf)) (name : String) :
    (Dump.dict entries).leaves name = entries.flatMap fun entry => entry.2.leaves entry.1 := by
  rw [leaves, leavesEntries_eq]

/-! ### A walk that collects -/

variable {α : Type} (collect : String → Leaf → List α)

mutual

/-- What is collected of each leaf by its key, dictionaries and lists united. -/
def walk : Dump Leaf → String → List α
  | .dict entries, _ => walkEntries entries
  | .list items, name => walkItems items name
  | .leaf value, name => collect name value

def walkItems : List (Dump Leaf) → String → List α
  | [], _ => []
  | item :: items, name => walk item name ++ walkItems items name

def walkEntries : List (String × Dump Leaf) → List α
  | [] => []
  | (key, value) :: entries => walk value key ++ walkEntries entries

end

mutual

/-- A walk collects from every leaf, and from nothing else. -/
theorem walk_eq (dump : Dump Leaf) (name : String) :
    dump.walk collect name = (dump.leaves name).flatMap fun entry => collect entry.1 entry.2 := by
  cases dump with
  | leaf value => rw [walk, leaves_leaf, List.flatMap_singleton]
  | list items => rw [walk, leaves, walkItems_eq]
  | dict entries => rw [walk, leaves, walkEntries_eq]

theorem walkItems_eq (items : List (Dump Leaf)) (name : String) :
    walkItems collect items name =
      (leavesItems items name).flatMap fun entry => collect entry.1 entry.2 := by
  cases items with
  | nil => rw [walkItems, leavesItems, List.flatMap_nil]
  | cons item items =>
    rw [walkItems, leavesItems, walk_eq, walkItems_eq items name, List.flatMap_append]

theorem walkEntries_eq (entries : List (String × Dump Leaf)) :
    walkEntries collect entries =
      (leavesEntries entries).flatMap fun entry => collect entry.1 entry.2 := by
  cases entries with
  | nil => rw [walkEntries, leavesEntries, List.flatMap_nil]
  | cons entry entries =>
    rw [walkEntries, leavesEntries, walk_eq, walkEntries_eq entries, List.flatMap_append]

end

theorem mem_walk {dump : Dump Leaf} {name : String} {a : α} :
    a ∈ dump.walk collect name ↔ ∃ entry ∈ dump.leaves name, a ∈ collect entry.1 entry.2 := by
  rw [walk_eq, List.mem_flatMap]

end Dump

end Python
