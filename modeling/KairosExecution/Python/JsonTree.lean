import KairosExecution.Python.JsonScan

/-! JSON documents as trees, and objects of which the keys differ. Where a caller's functions
return no more than another's, they read no more. -/

namespace Python.Json

variable {F K V N : Type}

/-- A value of a document, over the numbers `N`. -/
inductive JsonValue (N : Type)
  | null
  | bool (b : Bool)
  | number (n : N)
  | str (s : Text)
  | list (items : List (JsonValue N))
  | dict (entries : List (Text × JsonValue N))

/-- What holds of every number, and of the keys of every object. -/
inductive JsonValue.Holds (onNumber : N → Prop) (onKeys : List Text → Prop) : JsonValue N → Prop
  | null : Holds onNumber onKeys .null
  | bool (b : Bool) : Holds onNumber onKeys (.bool b)
  | number {n : N} : onNumber n → Holds onNumber onKeys (.number n)
  | str (s : Text) : Holds onNumber onKeys (.str s)
  | list {items : List (JsonValue N)} : (∀ item ∈ items, Holds onNumber onKeys item) →
      Holds onNumber onKeys (.list items)
  | dict {entries : List (Text × JsonValue N)} : onKeys (entries.map Prod.fst) →
      (∀ entry ∈ entries, Holds onNumber onKeys entry.2) → Holds onNumber onKeys (.dict entries)

section Unique

variable [DecidableEq K]

/-- A key that is there already is refused. -/
def addPair (malformed : F) (object : List (K × V)) (pair : K × V) : Except F (List (K × V)) :=
  if pair.1 ∈ object.map Prod.fst then .error malformed else .ok (object ++ [pair])

/-- An object is built pair by pair. -/
def uniqueObject (malformed : F) (pairs : List (K × V)) : Except F (List (K × V)) :=
  pairs.foldlM (addPair malformed) []

theorem foldlM_addPair_eq_ok {malformed : F} {pairs object result : List (K × V)} :
    pairs.foldlM (addPair malformed) object = .ok result ↔
      (pairs.map Prod.fst).Nodup ∧ (∀ key ∈ pairs.map Prod.fst, key ∉ object.map Prod.fst) ∧
        result = object ++ pairs := by
  induction pairs generalizing object with
  | nil => simp [eq_comm, pure, Except.pure]
  | cons pair pairs ih =>
    rw [List.foldlM_cons]
    constructor
    · intro h
      obtain ⟨next, added, h⟩ := bind_eq_ok.1 h
      unfold addPair at added
      split at added
      · cases added
      · rename_i fresh
        cases added
        obtain ⟨nodup, apart, rfl⟩ := ih.1 h
        simp only [List.map_append, List.map_cons, List.map_nil, List.mem_append,
          List.mem_singleton, not_or] at apart
        refine ⟨?_, ?_, by simp⟩
        · rw [List.map_cons, List.nodup_cons]
          exact ⟨fun mem => (apart _ mem).2 rfl, nodup⟩
        · rw [List.map_cons, List.forall_mem_cons]
          exact ⟨fresh, fun key mem => (apart key mem).1⟩
    · rintro ⟨nodup, apart, rfl⟩
      rw [List.map_cons, List.nodup_cons] at nodup
      rw [List.map_cons, List.forall_mem_cons] at apart
      refine bind_eq_ok.2 ⟨object ++ [pair], if_neg apart.1, ih.2 ⟨nodup.2, ?_, by simp⟩⟩
      intro key mem
      simp only [List.map_append, List.map_cons, List.map_nil, List.mem_append,
        List.mem_singleton, not_or]
      refine ⟨apart.2 key mem, ?_⟩
      rintro rfl
      exact nodup.1 mem

/-- The object is the pairs, where no key stands twice. -/
theorem uniqueObject_eq_ok {malformed : F} {pairs object : List (K × V)} :
    uniqueObject malformed pairs = .ok object ↔ (pairs.map Prod.fst).Nodup ∧ object = pairs := by
  rw [uniqueObject, foldlM_addPair_eq_ok]
  simp

theorem foldlM_addPair_eq_error {malformed f : F} {pairs object : List (K × V)}
    (h : pairs.foldlM (addPair malformed) object = .error f) : f = malformed := by
  induction pairs generalizing object with
  | nil => cases h
  | cons pair pairs ih =>
    rw [List.foldlM_cons] at h
    rcases bind_eq_error.1 h with raised | ⟨next, _, h⟩
    · unfold addPair at raised
      split at raised
      · cases raised
        rfl
      · cases raised
    · exact ih h

theorem uniqueObject_eq_error {malformed f : F} {pairs : List (K × V)}
    (h : uniqueObject malformed pairs = .error f) : f = malformed :=
  foldlM_addPair_eq_error h

end Unique

/-- A tree of which every object is built pair by pair. -/
def treeHooks (malformed depth : F) (number : Literal → Except F N) (constant : String → Except F N) :
    Hooks F Text (JsonValue N) where
  malformed := malformed
  depth := depth
  text := .ok
  str := .str
  null := .null
  bool := .bool
  number literal := (number literal).map .number
  constant name := (constant name).map .number
  list := .list
  pairs entries := (uniqueObject malformed entries).map .dict

section Sequences

variable {α : Type} {close : Char} {reads reads' : List Char → α → List Char → Prop}

theorem Elements.mono (le : ∀ text a rest, reads text a rest → reads' text a rest)
    {text rest : List Char} {as : List α} (h : Elements reads close text as rest) :
    Elements reads' close text as rest := by
  induction h with
  | last read closed => exact .last (le _ _ _ read) closed
  | more read next _ ih => exact .more (le _ _ _ read) next ih

theorem Contents.mono (le : ∀ text a rest, reads text a rest → reads' text a rest)
    {text rest : List Char} {as : List α} (h : Contents reads close text as rest) :
    Contents reads' close text as rest := by
  cases h with
  | none skipped => exact .none skipped
  | some skipped differs read => exact .some skipped differs (read.mono le)

/-- Whatever is read was read as one of the elements. -/
theorem Elements.mem {text rest : List Char} {as : List α} (h : Elements reads close text as rest) :
    ∀ a ∈ as, ∃ from_ to_, reads from_ a to_ := by
  induction h with
  | last read _ => exact List.forall_mem_singleton.2 ⟨_, _, read⟩
  | more read _ _ ih => exact List.forall_mem_cons.2 ⟨⟨_, _, read⟩, ih⟩

theorem Contents.mem {text rest : List Char} {as : List α} (h : Contents reads close text as rest) :
    ∀ a ∈ as, ∃ from_ to_, reads from_ a to_ := by
  cases h with
  | none _ => exact fun _ mem => nomatch mem
  | some _ _ read => exact read.mem

end Sequences

section Trees

variable {malformed depth : F} {number number' : Literal → Except F N}
  {constant : String → Except F N}

/-- Every number of a tree comes from the caller's functions, and no key of an object stands
twice. -/
theorem Reads.holds {onNumber : N → Prop} (numbers : ∀ l n, number l = .ok n → onNumber n)
    (constants : ∀ name n, constant name = .ok n → onNumber n) {room : ℕ} {text rest : List Char}
    {tree : JsonValue N} (h : Reads (treeHooks malformed depth number constant) room text tree rest) :
    tree.Holds onNumber List.Nodup := by
  have scalars : ∀ {text tree rest},
      Scalar (treeHooks malformed depth number constant) text tree rest →
        tree.Holds onNumber List.Nodup := by
    intro text tree rest h
    cases h with
    | quoted _ _ => exact .str _
    | named mem =>
      simp only [named, List.mem_cons, List.not_mem_nil, or_false, Prod.mk.injEq] at mem
      rcases mem with ⟨_, eq⟩ | ⟨_, eq⟩ | ⟨_, eq⟩ | ⟨_, eq⟩ | ⟨_, eq⟩ | ⟨_, eq⟩
      · cases eq
        exact .null
      · cases eq
        exact .bool true
      · cases eq
        exact .bool false
      all_goals
        obtain ⟨n, made, rfl⟩ := map_eq_ok.1 eq.symm
        exact .number (constants _ n made)
    | number _ made =>
      obtain ⟨n, converted, rfl⟩ := map_eq_ok.1 made
      exact .number (numbers _ n converted)
  induction room generalizing text tree rest with
  | zero => exact scalars h
  | succ room ih =>
    rcases h with scalar | nested
    · exact scalars scalar
    cases nested with
    | dict read made =>
      obtain ⟨object, built, rfl⟩ := map_eq_ok.1 made
      obtain ⟨nodup, rfl⟩ := uniqueObject_eq_ok.1 built
      refine .dict nodup fun entry mem => ?_
      obtain ⟨_, _, member⟩ := read.mem entry mem
      cases member with
      | mk _ _ value => exact ih value
    | list read =>
      refine .list fun item mem => ?_
      obtain ⟨_, _, value⟩ := read.mem item mem
      exact ih value

theorem Scalar.mono (le : ∀ l n, number l = .ok n → number' l = .ok n) {text rest : List Char}
    {tree : JsonValue N} (h : Scalar (treeHooks malformed depth number constant) text tree rest) :
    Scalar (treeHooks malformed depth number' constant) text tree rest := by
  cases h with
  | quoted found converted => exact .quoted found converted
  | named mem => exact .named mem
  | number found made =>
    obtain ⟨n, converted, rfl⟩ := map_eq_ok.1 made
    exact .number found (map_eq_ok.2 ⟨n, le _ n converted, rfl⟩)

theorem Reads.mono (le : ∀ l n, number l = .ok n → number' l = .ok n) {room : ℕ}
    {text rest : List Char} {tree : JsonValue N}
    (h : Reads (treeHooks malformed depth number constant) room text tree rest) :
    Reads (treeHooks malformed depth number' constant) room text tree rest := by
  induction room generalizing text tree rest with
  | zero => exact Scalar.mono le h
  | succ room ih =>
    rcases h with scalar | nested
    · exact .inl (scalar.mono le)
    refine .inr ?_
    cases nested with
    | dict read made =>
      refine .dict (read.mono fun _ _ _ member => ?_) made
      cases member with
      | mk found converted value => exact .mk found converted (ih value)
    | list read => exact .list (read.mono fun _ _ _ => ih)

theorem Document.mono (le : ∀ l n, number l = .ok n → number' l = .ok n) {room : ℕ}
    {text : List Char} {tree : JsonValue N}
    (h : Document (treeHooks malformed depth number constant) room text tree) :
    Document (treeHooks malformed depth number' constant) room text tree := by
  obtain ⟨unmarked, rest, read, ended⟩ := h
  exact ⟨unmarked, rest, read.mono le, ended⟩

end Trees

section Causes

variable {α : Type} {close : Char} {reads : List Char → α → List Char → Prop}
  {raises : List Char → Prop} {malformed depth f : F} {number : Literal → Except F N}
  {constant : String → Except F N}

theorem ElementsRaises.cause {text : List Char} (h : ElementsRaises reads raises close text) :
    ∃ t, raises t := by
  induction h with
  | here raised => exact ⟨_, raised⟩
  | later _ _ _ ih => exact ih

theorem ContentsRaises.cause {text : List Char} (h : ContentsRaises reads raises close text) :
    ∃ t, raises t := by
  cases h with
  | some _ _ raised => exact raised.cause

theorem map_eq_error {β : Type} {x : Except F α} {g : α → β} :
    x.map g = .error f ↔ x = .error f := by
  cases x <;> simp [Except.map]

/-- A fault comes from a number, from a constant, from a key that stands twice or from containers
that nest too deep. -/
theorem Raises.cause {room : ℕ} {text : List Char}
    (h : Raises (treeHooks malformed depth number constant) f room text) :
    f = malformed ∨ f = depth ∨ (∃ l, number l = .error f) ∨ ∃ name, constant name = .error f := by
  have scalars : ∀ {text}, ScalarRaises (treeHooks malformed depth number constant) f text →
      (∃ l, number l = .error f) ∨ ∃ name, constant name = .error f := by
    intro text h
    cases h with
    | quoted _ raised => cases raised
    | named mem =>
      simp only [named, List.mem_cons, List.not_mem_nil, or_false, Prod.mk.injEq] at mem
      rcases mem with ⟨_, eq⟩ | ⟨_, eq⟩ | ⟨_, eq⟩ | ⟨_, eq⟩ | ⟨_, eq⟩ | ⟨_, eq⟩
      · cases eq
      · cases eq
      · cases eq
      all_goals exact .inr ⟨_, map_eq_error.1 eq.symm⟩
    | number _ raised => exact .inl ⟨_, map_eq_error.1 raised⟩
  induction room generalizing text with
  | zero =>
    rcases h with scalar | ⟨_, deep⟩
    · exact .inr (.inr (scalars scalar))
    · exact .inr (.inl deep)
  | succ room ih =>
    rcases h with scalar | nested
    · exact .inr (.inr (scalars scalar))
    cases nested with
    | entry raised =>
      obtain ⟨_, member⟩ := raised.cause
      cases member with
      | key _ raised => cases raised
      | value _ _ raised => exact ih raised
    | pairs _ raised => exact .inl (uniqueObject_eq_error (map_eq_error.1 raised))
    | item raised =>
      obtain ⟨_, raised⟩ := raised.cause
      exact ih raised

end Causes

end Python.Json
