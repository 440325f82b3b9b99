import KairosExecution.Python.Json

/-! JSON documents as `json.loads` reads them. The scanner is given, by its caller, what becomes
of texts, numbers, named constants and the pairs of an object, each of which may raise, and how
many containers there is room to nest. The grammar says which value stands at the front of a
text, and which of the caller's faults is the first thing wrong there: the scanner returns
exactly the one and raises exactly the other. -/

namespace Python.Json

/-- What the caller of `json.loads` makes of the parts of a document, keys `K` and values `V`,
and the faults `F` of a malformed document and of a container with no room to nest. -/
structure Hooks (F K V : Type) where
  malformed : F
  depth : F
  text : Text → Except F K
  str : K → V
  null : V
  bool : Bool → V
  number : Literal → Except F V
  constant : String → Except F V
  list : List V → V
  pairs : List (K × V) → Except F V

variable {F K V α : Type}

def isSpace (c : Char) : Bool := c = ' ' || c = '\t' || c = '\n' || c = '\r'

def skip (text : List Char) : List Char := text.dropWhile isSpace

/-- What follows an element: whether the container is closed, and where the text goes on. -/
def delimiter (close : Char) (text : List Char) : Option (Bool × List Char) :=
  match skip text with
  | [] => none
  | c :: rest =>
    if c = close then some (true, rest) else if c = ',' then some (false, skip rest) else none

/-- A key and its colon. -/
def key : List Char → Option (Text × List Char)
  | '"' :: text => (string text).bind fun (s, rest) =>
    match skip rest with
    | ':' :: after => some (s, skip after)
    | _ => none
  | _ => none

def opens : List Char → Bool
  | '{' :: _ => true
  | '[' :: _ => true
  | _ => false

section Scanner

variable (hooks : Hooks F K V)

/-- The constants with a name. -/
def named : List (List Char × Except F V) := [
  ("null".toList, .ok hooks.null), ("true".toList, .ok (hooks.bool true)),
  ("false".toList, .ok (hooks.bool false)), ("NaN".toList, hooks.constant "NaN"),
  ("Infinity".toList, hooks.constant "Infinity"), ("-Infinity".toList, hooks.constant "-Infinity")]

def quoted (text : List Char) : Except F (V × List Char) := do
  let (s, rest) ← required hooks.malformed (string text)
  let k ← hooks.text s
  return (hooks.str k, rest)

/-- `_match_number_unicode` -/
def numeric (text : List Char) : Except F (V × List Char) := do
  let (literal, rest) ← required hooks.malformed (literal text)
  let v ← hooks.number literal
  return (v, rest)

/-- `scan_once` of what is no container. -/
def scalar : List Char → Except F (V × List Char)
  | '"' :: text => quoted hooks text
  | text => match (named hooks).find? fun entry => entry.1.isPrefixOf text with
    | some (name, v) => v.map fun v => (v, text.drop name.length)
    | none => numeric hooks text

/-- The elements up to the closing delimiter, each of which takes some of the text. -/
def elements (close : Char) (element : List Char → Except F (α × List Char)) :
    ℕ → List Char → Except F (List α × List Char)
  | 0, _ => .error hooks.malformed
  | fuel + 1, text => do
    let (a, rest) ← element text
    let (closed, rest) ← required hooks.malformed (delimiter close rest)
    let (as, rest) ← (if closed then .ok ([], rest) else elements close element fuel rest)
    return (a :: as, rest)

/-- The elements of a container, after its opening delimiter. -/
def contents (close : Char) (element : List Char → Except F (α × List Char)) (text : List Char) :
    Except F (List α × List Char) :=
  match skip text with
  | [] => .error hooks.malformed
  | c :: rest =>
    if c = close then .ok ([], rest)
    else elements hooks close element (rest.length + 2) (c :: rest)

/-- A key with its value. -/
def member (value : List Char → Except F (V × List Char)) (text : List Char) :
    Except F ((K × V) × List Char) := do
  let (s, rest) ← required hooks.malformed (key text)
  let k ← hooks.text s
  let (v, rest) ← value rest
  return ((k, v), rest)

/-- `scan_once`, with room for so many nested containers. -/
def value : ℕ → List Char → Except F (V × List Char)
  | 0, text => if opens text then .error hooks.depth else scalar hooks text
  | _ + 1, [] => scalar hooks []
  | room + 1, c :: text =>
    if c = '{' then do
      let (entries, rest) ← contents hooks '}' (member hooks (value room)) text
      let v ← hooks.pairs entries
      return (v, rest)
    else if c = '[' then do
      let (items, rest) ← contents hooks ']' (value room) text
      return (hooks.list items, rest)
    else scalar hooks (c :: text)

/-- `json.loads` -/
def document (room : ℕ) (text : List Char) : Except F V := do
  let (v, rest) ← (if text.head? = some '\ufeff' then .error hooks.malformed
    else value hooks room (skip text))
  if skip rest = [] then .ok v else .error hooks.malformed

end Scanner

section Grammar

/-- One element after the other, up to the closing delimiter. -/
inductive Elements (reads : List Char → α → List Char → Prop) (close : Char) :
    List Char → List α → List Char → Prop
  | last {text rest after : List Char} {a : α} : reads text a rest →
      delimiter close rest = some (true, after) → Elements reads close text [a] after
  | more {text rest next after : List Char} {a : α} {as : List α} : reads text a rest →
      delimiter close rest = some (false, next) → Elements reads close next as after →
      Elements reads close text (a :: as) after

/-- What a container holds, after its opening delimiter. -/
inductive Contents (reads : List Char → α → List Char → Prop) (close : Char) :
    List Char → List α → List Char → Prop
  | none {text rest : List Char} : skip text = close :: rest → Contents reads close text [] rest
  | some {text rest after : List Char} {c : Char} {as : List α} : skip text = c :: rest →
      c ≠ close → Elements reads close (c :: rest) as after → Contents reads close text as after

/-- An element of which something raises, after others. -/
inductive ElementsRaises (reads : List Char → α → List Char → Prop) (raises : List Char → Prop)
    (close : Char) : List Char → Prop
  | here {text : List Char} : raises text → ElementsRaises reads raises close text
  | later {text rest next : List Char} {a : α} : reads text a rest →
      delimiter close rest = some (false, next) → ElementsRaises reads raises close next →
      ElementsRaises reads raises close text

inductive ContentsRaises (reads : List Char → α → List Char → Prop) (raises : List Char → Prop)
    (close : Char) : List Char → Prop
  | some {text rest : List Char} {c : Char} : skip text = c :: rest → c ≠ close →
      ElementsRaises reads raises close (c :: rest) → ContentsRaises reads raises close text

variable (hooks : Hooks F K V)

/-- A value that is no container. -/
inductive Scalar : List Char → V → List Char → Prop
  | quoted {text rest : List Char} {s : Text} {k : K} : string text = some (s, rest) →
      hooks.text s = .ok k → Scalar ('"' :: text) (hooks.str k) rest
  | named {name rest : List Char} {v : V} : (name, .ok v) ∈ named hooks → Scalar (name ++ rest) v rest
  | number {text rest : List Char} {l : Literal} {v : V} : literal text = some (l, rest) →
      hooks.number l = .ok v → Scalar text v rest

/-- A key with its value. -/
inductive Member (reads : List Char → V → List Char → Prop) : List Char → K × V → List Char → Prop
  | mk {text rest after : List Char} {s : Text} {k : K} {v : V} : key text = some (s, rest) →
      hooks.text s = .ok k → reads rest v after → Member reads text (k, v) after

/-- A container of values that `reads` reads. -/
inductive Nested (reads : List Char → V → List Char → Prop) : List Char → V → List Char → Prop
  | dict {text rest : List Char} {entries : List (K × V)} {v : V} :
      Contents (Member hooks reads) '}' text entries rest → hooks.pairs entries = .ok v →
      Nested reads ('{' :: text) v rest
  | list {text rest : List Char} {items : List V} : Contents reads ']' text items rest →
      Nested reads ('[' :: text) (hooks.list items) rest

/-- The value at the front of a text, with room for so many nested containers. -/
def Reads : ℕ → List Char → V → List Char → Prop
  | 0, text, v, rest => Scalar hooks text v rest
  | room + 1, text, v, rest => Scalar hooks text v rest ∨ Nested hooks (Reads room) text v rest

/-- A text, a constant or a number of which the caller's function raises. -/
inductive ScalarRaises (f : F) : List Char → Prop
  | quoted {text rest : List Char} {s : Text} : string text = some (s, rest) →
      hooks.text s = .error f → ScalarRaises f ('"' :: text)
  | named {name rest : List Char} : (name, .error f) ∈ named hooks → ScalarRaises f (name ++ rest)
  | number {text rest : List Char} {l : Literal} : literal text = some (l, rest) →
      hooks.number l = .error f → ScalarRaises f text

inductive MemberRaises (raises : List Char → Prop) (f : F) : List Char → Prop
  | key {text rest : List Char} {s : Text} : key text = some (s, rest) → hooks.text s = .error f →
      MemberRaises raises f text
  | value {text rest : List Char} {s : Text} {k : K} : Json.key text = some (s, rest) →
      hooks.text s = .ok k → raises rest → MemberRaises raises f text

/-- A container in which something raises, or of which the pairs do. -/
inductive NestedRaises (reads : List Char → V → List Char → Prop) (raises : List Char → Prop) (f : F) :
    List Char → Prop
  | entry {text : List Char} :
      ContentsRaises (Member hooks reads) (MemberRaises hooks raises f) '}' text →
      NestedRaises reads raises f ('{' :: text)
  | pairs {text rest : List Char} {entries : List (K × V)} :
      Contents (Member hooks reads) '}' text entries rest → hooks.pairs entries = .error f →
      NestedRaises reads raises f ('{' :: text)
  | item {text : List Char} : ContentsRaises reads raises ']' text →
      NestedRaises reads raises f ('[' :: text)

/-- The first thing wrong in a text is this fault of the caller's, or, where there is no room, a
container. -/
def Raises (f : F) : ℕ → List Char → Prop
  | 0, text => ScalarRaises hooks f text ∨ opens text = true ∧ f = hooks.depth
  | room + 1, text =>
    ScalarRaises hooks f text ∨ NestedRaises hooks (Reads hooks room) (Raises f room) f text

/-- A whole document. -/
def Document (room : ℕ) (text : List Char) (v : V) : Prop :=
  text.head? ≠ some '\ufeff' ∧ ∃ rest, Reads hooks room (skip text) v rest ∧ skip rest = []

def DocumentRaises (f : F) (room : ℕ) (text : List Char) : Prop :=
  text.head? ≠ some '\ufeff' ∧ Raises hooks f room (skip text)

end Grammar

section Scalars

variable {hooks : Hooks F K V}

theorem literal_named {name : List Char} {v : Except F V} (mem : (name, v) ∈ named hooks)
    (rest : List Char) : literal (name ++ rest) = none ∧ ∀ t, name ++ rest ≠ '"' :: t := by
  simp only [named, List.mem_cons, List.not_mem_nil, or_false, Prod.mk.injEq] at mem
  rcases mem with ⟨rfl, _⟩ | ⟨rfl, _⟩ | ⟨rfl, _⟩ | ⟨rfl, _⟩ | ⟨rfl, _⟩ | ⟨rfl, _⟩
  all_goals exact ⟨rfl, fun t h => by simp at h⟩

/-- No constant's name begins that of another. -/
theorem find_named {name : List Char} {v : Except F V} (mem : (name, v) ∈ named hooks)
    (rest : List Char) :
    (named hooks).find? (fun entry => entry.1.isPrefixOf (name ++ rest)) = some (name, v) := by
  simp only [named, List.mem_cons, List.not_mem_nil, or_false, Prod.mk.injEq] at mem
  rcases mem with ⟨rfl, rfl⟩ | ⟨rfl, rfl⟩ | ⟨rfl, rfl⟩ | ⟨rfl, rfl⟩ | ⟨rfl, rfl⟩ | ⟨rfl, rfl⟩
  all_goals rfl

theorem scalar_named {name : List Char} {v : Except F V} (mem : (name, v) ∈ named hooks)
    (rest : List Char) : scalar hooks (name ++ rest) = v.map fun v => (v, rest) := by
  have plain := (literal_named mem rest).2
  unfold scalar
  split
  · exact absurd ‹_› (plain _)
  · rw [find_named mem]
    simp

theorem scalar_numeric {text rest : List Char} {l : Literal} (h : literal text = some (l, rest)) :
    scalar hooks text = numeric hooks text := by
  unfold scalar
  split
  · cases h
  · split
    · have prefixed := List.find?_some ‹_›
      obtain ⟨t, rfl⟩ := List.isPrefixOf_iff_prefix.1 prefixed
      rw [(literal_named (List.mem_of_find?_eq_some ‹_›) t).1] at h
      cases h
    · rfl

/-- The three ways in which a text is scanned that opens no container. -/
theorem scalar_cases (hooks : Hooks F K V) (text : List Char) :
    (∃ t, text = '"' :: t ∧ scalar hooks text = quoted hooks t) ∨
    (∃ name v rest, (name, v) ∈ named hooks ∧ text = name ++ rest ∧
      scalar hooks text = v.map fun v => (v, rest)) ∨
    scalar hooks text = numeric hooks text := by
  unfold scalar
  split
  · exact .inl ⟨_, rfl, rfl⟩
  · split
    · have prefixed := List.find?_some ‹_›
      obtain ⟨t, rfl⟩ := List.isPrefixOf_iff_prefix.1 prefixed
      exact .inr (.inl ⟨_, _, t, List.mem_of_find?_eq_some ‹_›, rfl, by simp⟩)
    · exact .inr (.inr rfl)

theorem quoted_eq_ok {text rest : List Char} {v : V} : quoted hooks text = .ok (v, rest) ↔
    ∃ s k, string text = some (s, rest) ∧ hooks.text s = .ok k ∧ hooks.str k = v := by
  constructor
  · intro h
    obtain ⟨⟨s, after⟩, found, h⟩ := bind_eq_ok.1 h
    obtain ⟨k, converted, h⟩ := bind_eq_ok.1 h
    cases h
    exact ⟨s, k, required_eq_ok.1 found, converted, rfl⟩
  · rintro ⟨s, k, found, converted, rfl⟩
    exact bind_eq_ok.2 ⟨_, required_eq_ok.2 found, bind_eq_ok.2 ⟨k, converted, rfl⟩⟩

theorem numeric_eq_ok {text rest : List Char} {v : V} : numeric hooks text = .ok (v, rest) ↔
    ∃ l, literal text = some (l, rest) ∧ hooks.number l = .ok v := by
  constructor
  · intro h
    obtain ⟨⟨l, after⟩, found, h⟩ := bind_eq_ok.1 h
    obtain ⟨w, converted, h⟩ := bind_eq_ok.1 h
    cases h
    exact ⟨l, required_eq_ok.1 found, converted⟩
  · rintro ⟨l, found, converted⟩
    exact bind_eq_ok.2 ⟨_, required_eq_ok.2 found, bind_eq_ok.2 ⟨v, converted, rfl⟩⟩

theorem scalar_eq_ok {text rest : List Char} {v : V} :
    scalar hooks text = .ok (v, rest) ↔ Scalar hooks text v rest := by
  constructor
  · intro h
    rcases scalar_cases hooks text with
      ⟨t, rfl, scanned⟩ | ⟨name, w, after, mem, rfl, scanned⟩ | scanned
    · obtain ⟨s, k, found, converted, rfl⟩ := quoted_eq_ok.1 (scanned ▸ h)
      exact .quoted found converted
    · rw [scanned] at h
      obtain ⟨u, rfl, eq⟩ := map_eq_ok.1 h
      cases eq
      exact .named mem
    · obtain ⟨l, found, converted⟩ := numeric_eq_ok.1 (scanned ▸ h)
      exact .number found converted
  · intro h
    cases h with
    | quoted found converted => exact quoted_eq_ok.2 ⟨_, _, found, converted, rfl⟩
    | named mem =>
      rw [scalar_named mem]
      rfl
    | number found converted =>
      rw [scalar_numeric found]
      exact numeric_eq_ok.2 ⟨_, found, converted⟩

end Scalars

theorem bind_eq_error {β : Type} {x : Except F α} {g : α → Except F β} {f : F} :
    (x >>= g) = .error f ↔ x = .error f ∨ ∃ a, x = .ok a ∧ g a = .error f := by
  cases x with
  | ok a => simp [bind, Except.bind]
  | error e => simp [bind, Except.bind]

section ScalarFaults

variable {hooks : Hooks F K V} {f : F}

theorem quoted_eq_error (other : f ≠ hooks.malformed) {text : List Char} :
    quoted hooks text = .error f ↔ ∃ s rest, string text = some (s, rest) ∧ hooks.text s = .error f := by
  constructor
  · intro h
    rcases bind_eq_error.1 h with missing | ⟨⟨s, rest⟩, found, h⟩
    · exact absurd missing (required_eq_error other)
    · rcases bind_eq_error.1 h with raised | ⟨k, _, h⟩
      · exact ⟨s, rest, required_eq_ok.1 found, raised⟩
      · cases h
  · rintro ⟨s, rest, found, raised⟩
    exact bind_eq_error.2 (.inr ⟨_, required_eq_ok.2 found, bind_eq_error.2 (.inl raised)⟩)

theorem numeric_eq_error (other : f ≠ hooks.malformed) {text : List Char} :
    numeric hooks text = .error f ↔
      ∃ l rest, literal text = some (l, rest) ∧ hooks.number l = .error f := by
  constructor
  · intro h
    rcases bind_eq_error.1 h with missing | ⟨⟨l, rest⟩, found, h⟩
    · exact absurd missing (required_eq_error other)
    · rcases bind_eq_error.1 h with raised | ⟨v, _, h⟩
      · exact ⟨l, rest, required_eq_ok.1 found, raised⟩
      · cases h
  · rintro ⟨l, rest, found, raised⟩
    exact bind_eq_error.2 (.inr ⟨_, required_eq_ok.2 found, bind_eq_error.2 (.inl raised)⟩)

theorem scalar_eq_error (other : f ≠ hooks.malformed) {text : List Char} :
    scalar hooks text = .error f ↔ ScalarRaises hooks f text := by
  constructor
  · intro h
    rcases scalar_cases hooks text with
      ⟨t, rfl, scanned⟩ | ⟨name, w, after, mem, rfl, scanned⟩ | scanned
    · obtain ⟨s, rest, found, raised⟩ := (quoted_eq_error other).1 (scanned ▸ h)
      exact .quoted found raised
    · rw [scanned] at h
      cases w with
      | ok v => cases h
      | error e =>
        cases h
        exact .named mem
    · obtain ⟨l, rest, found, raised⟩ := (numeric_eq_error other).1 (scanned ▸ h)
      exact .number found raised
  · intro h
    cases h with
    | quoted found raised => exact (quoted_eq_error other).2 ⟨_, _, found, raised⟩
    | named mem =>
      rw [scalar_named mem]
      rfl
    | number found raised =>
      rw [scalar_numeric found]
      exact (numeric_eq_error other).2 ⟨_, _, found, raised⟩

end ScalarFaults

section Sequences

variable {hooks : Hooks F K V} {close : Char} {element : List Char → Except F (α × List Char)}
  {reads : List Char → α → List Char → Prop} {raises : List Char → Prop} {f : F}

theorem skip_length (text : List Char) : (skip text).length ≤ text.length :=
  (List.dropWhile_sublist _).length_le

theorem delimiter_length {text rest : List Char} {closed : Bool}
    (h : delimiter close text = some (closed, rest)) : rest.length < text.length := by
  have shorter := skip_length text
  unfold delimiter at h
  split at h
  · cases h
  · rename_i c after skipped
    rw [skipped, List.length_cons] at shorter
    split at h
    · cases h
      omega
    · split at h
      · cases h
        have := skip_length after
        omega
      · cases h

/-- What is read of a text is no more than there is. -/
abbrev Shrinks (reads : List Char → α → List Char → Prop) : Prop :=
  ∀ text a rest, reads text a rest → rest.length ≤ text.length

theorem Elements.length (shrinks : Shrinks reads) {text rest : List Char} {as : List α}
    (h : Elements reads close text as rest) : rest.length ≤ text.length := by
  induction h with
  | last read closed =>
    have := shrinks _ _ _ read
    have := delimiter_length closed
    omega
  | more read next _ ih =>
    have := shrinks _ _ _ read
    have := delimiter_length next
    omega

theorem Contents.length (shrinks : Shrinks reads) {text rest : List Char} {as : List α}
    (h : Contents reads close text as rest) : rest.length ≤ text.length := by
  have shorter := skip_length text
  cases h with
  | none skipped =>
    rw [skipped, List.length_cons] at shorter
    omega
  | some skipped _ read =>
    have := read.length shrinks
    rw [skipped] at shorter
    omega

theorem elements_eq_ok (element_ok : ∀ text a rest, element text = .ok (a, rest) ↔ reads text a rest)
    (shrinks : Shrinks reads) {fuel : ℕ} {text rest : List Char} {as : List α}
    (enough : text.length < fuel) :
    elements hooks close element fuel text = .ok (as, rest) ↔ Elements reads close text as rest := by
  induction fuel generalizing text as with
  | zero => omega
  | succ fuel ih =>
    constructor
    · intro h
      obtain ⟨⟨a, after⟩, read, h⟩ := bind_eq_ok.1 h
      obtain ⟨⟨closed, next⟩, limit, h⟩ := bind_eq_ok.1 h
      obtain ⟨⟨others, last⟩, rest_read, h⟩ := bind_eq_ok.1 h
      cases h
      have read := (element_ok _ _ _).1 read
      have limit := required_eq_ok.1 limit
      cases closed with
      | true =>
        cases rest_read
        exact .last read limit
      | false =>
        have := shrinks _ _ _ read
        have := delimiter_length limit
        exact .more read limit ((ih (by omega)).1 rest_read)
    · intro h
      cases h with
      | last read limit =>
        exact bind_eq_ok.2 ⟨_, (element_ok _ _ _).2 read,
          bind_eq_ok.2 ⟨_, required_eq_ok.2 limit, bind_eq_ok.2 ⟨([], rest), rfl, rfl⟩⟩⟩
      | more read limit others =>
        have := shrinks _ _ _ read
        have := delimiter_length limit
        exact bind_eq_ok.2 ⟨_, (element_ok _ _ _).2 read,
          bind_eq_ok.2 ⟨_, required_eq_ok.2 limit,
            bind_eq_ok.2 ⟨_, (ih (by omega)).2 others, rfl⟩⟩⟩

theorem elements_eq_error (other : f ≠ hooks.malformed)
    (element_ok : ∀ text a rest, element text = .ok (a, rest) ↔ reads text a rest)
    (element_error : ∀ text, element text = .error f ↔ raises text) (shrinks : Shrinks reads)
    {fuel : ℕ} {text : List Char} (enough : text.length < fuel) :
    elements hooks close element fuel text = .error f ↔ ElementsRaises reads raises close text := by
  induction fuel generalizing text with
  | zero => omega
  | succ fuel ih =>
    constructor
    · intro h
      rcases bind_eq_error.1 h with raised | ⟨⟨a, after⟩, read, h⟩
      · exact .here ((element_error _).1 raised)
      have read := (element_ok _ _ _).1 read
      rcases bind_eq_error.1 h with missing | ⟨⟨closed, next⟩, limit, h⟩
      · exact absurd missing (required_eq_error other)
      have limit := required_eq_ok.1 limit
      rcases bind_eq_error.1 h with raised | ⟨_, _, h⟩
      · cases closed with
        | true => cases raised
        | false =>
          have := shrinks _ _ _ read
          have := delimiter_length limit
          exact .later read limit ((ih (by omega)).1 raised)
      · cases h
    · intro h
      cases h with
      | here raised => exact bind_eq_error.2 (.inl ((element_error _).2 raised))
      | later read limit raised =>
        have := shrinks _ _ _ read
        have := delimiter_length limit
        exact bind_eq_error.2 (.inr ⟨_, (element_ok _ _ _).2 read,
          bind_eq_error.2 (.inr ⟨_, required_eq_ok.2 limit,
            bind_eq_error.2 (.inl ((ih (by omega)).2 raised))⟩)⟩)

theorem contents_eq_ok (element_ok : ∀ text a rest, element text = .ok (a, rest) ↔ reads text a rest)
    (shrinks : Shrinks reads) {text rest : List Char} {as : List α} :
    contents hooks close element text = .ok (as, rest) ↔ Contents reads close text as rest := by
  constructor
  · intro h
    unfold contents at h
    split at h
    · cases h
    · split at h
      · cases h
        subst_vars
        exact .none ‹_›
      · exact .some ‹_› ‹_› ((elements_eq_ok element_ok shrinks (by simp)).1 h)
  · intro h
    cases h with
    | none skipped =>
      rw [contents, skipped]
      exact if_pos rfl
    | some skipped differs read =>
      rw [contents, skipped]
      dsimp only
      rw [if_neg differs, elements_eq_ok element_ok shrinks (by simp)]
      exact read

theorem contents_eq_error (other : f ≠ hooks.malformed)
    (element_ok : ∀ text a rest, element text = .ok (a, rest) ↔ reads text a rest)
    (element_error : ∀ text, element text = .error f ↔ raises text) (shrinks : Shrinks reads)
    {text : List Char} :
    contents hooks close element text = .error f ↔ ContentsRaises reads raises close text := by
  constructor
  · intro h
    unfold contents at h
    split at h
    · cases h
      exact absurd rfl other
    · split at h
      · cases h
      · exact .some ‹_› ‹_› ((elements_eq_error other element_ok element_error shrinks (by simp)).1 h)
  · intro h
    cases h with
    | some skipped differs raised =>
      rw [contents, skipped]
      dsimp only
      rw [if_neg differs, elements_eq_error other element_ok element_error shrinks (by simp)]
      exact raised

end Sequences

section Values

variable {hooks : Hooks F K V} {element : List Char → Except F (V × List Char)}
  {reads : List Char → V → List Char → Prop} {raises : List Char → Prop} {f : F}

theorem key_length {text rest : List Char} {s : Text} (h : key text = some (s, rest)) :
    rest.length < text.length := by
  unfold key at h
  split at h
  · rename_i text
    obtain ⟨⟨t, after⟩, found, h⟩ := Option.bind_eq_some_iff.1 h
    have := string_length found
    have shorter := skip_length after
    dsimp only at h
    split at h
    · rename_i last skipped
      cases h
      have := skip_length last
      rw [skipped, List.length_cons] at shorter
      rw [List.length_cons]
      omega
    · cases h
  · cases h

theorem Scalar.length {text rest : List Char} {v : V} (h : Scalar hooks text v rest) :
    rest.length ≤ text.length := by
  cases h with
  | quoted found _ =>
    have := string_length found
    rw [List.length_cons]
    omega
  | named _ =>
    rw [List.length_append]
    omega
  | number found _ =>
    rw [← literal_chars found, List.length_append]
    omega

theorem Member.length (shrinks : Shrinks reads) {text rest : List Char} {entry : K × V}
    (h : Member hooks reads text entry rest) : rest.length ≤ text.length := by
  obtain ⟨found, _, read⟩ := h
  have := key_length found
  have := shrinks _ _ _ read
  omega

theorem Nested.length (shrinks : Shrinks reads) {text rest : List Char} {v : V}
    (h : Nested hooks reads text v rest) : rest.length ≤ text.length := by
  cases h with
  | dict read _ =>
    have := read.length fun _ _ _ => Member.length shrinks
    rw [List.length_cons]
    omega
  | list read =>
    have := read.length shrinks
    rw [List.length_cons]
    omega

theorem Reads.length (room : ℕ) : Shrinks (Reads hooks room) := by
  induction room with
  | zero => exact fun _ _ _ h => Scalar.length h
  | succ room ih =>
    intro text v rest h
    rcases h with scalar | nested
    · exact scalar.length
    · exact nested.length ih

theorem member_eq_ok (element_ok : ∀ text a rest, element text = .ok (a, rest) ↔ reads text a rest)
    (text : List Char) (entry : K × V) (rest : List Char) :
    member hooks element text = .ok (entry, rest) ↔ Member hooks reads text entry rest := by
  constructor
  · intro h
    obtain ⟨⟨s, after⟩, found, h⟩ := bind_eq_ok.1 h
    obtain ⟨k, converted, h⟩ := bind_eq_ok.1 h
    obtain ⟨⟨v, last⟩, read, h⟩ := bind_eq_ok.1 h
    cases h
    exact .mk (required_eq_ok.1 found) converted ((element_ok _ _ _).1 read)
  · rintro ⟨found, converted, read⟩
    exact bind_eq_ok.2 ⟨_, required_eq_ok.2 found, bind_eq_ok.2 ⟨_, converted,
      bind_eq_ok.2 ⟨_, (element_ok _ _ _).2 read, rfl⟩⟩⟩

theorem member_eq_error (other : f ≠ hooks.malformed)
    (element_error : ∀ text, element text = .error f ↔ raises text) (text : List Char) :
    member hooks element text = .error f ↔ MemberRaises hooks raises f text := by
  constructor
  · intro h
    rcases bind_eq_error.1 h with missing | ⟨⟨s, rest⟩, found, h⟩
    · exact absurd missing (required_eq_error other)
    have found := required_eq_ok.1 found
    rcases bind_eq_error.1 h with raised | ⟨k, converted, h⟩
    · exact .key found raised
    rcases bind_eq_error.1 h with raised | ⟨_, _, h⟩
    · exact .value found converted ((element_error _).1 raised)
    · cases h
  · intro h
    cases h with
    | key found raised =>
      exact bind_eq_error.2 (.inr ⟨_, required_eq_ok.2 found, bind_eq_error.2 (.inl raised)⟩)
    | value found converted raised =>
      exact bind_eq_error.2 (.inr ⟨_, required_eq_ok.2 found, bind_eq_error.2 (.inr ⟨_, converted,
        bind_eq_error.2 (.inl ((element_error _).2 raised))⟩)⟩)

theorem Scalar.opens {text rest : List Char} {v : V} (h : Scalar hooks text v rest) :
    opens text = false := by
  cases h with
  | quoted _ _ => rfl
  | named mem =>
    simp only [Json.named, List.mem_cons, List.not_mem_nil, or_false, Prod.mk.injEq] at mem
    rcases mem with ⟨rfl, _⟩ | ⟨rfl, _⟩ | ⟨rfl, _⟩ | ⟨rfl, _⟩ | ⟨rfl, _⟩ | ⟨rfl, _⟩
    all_goals rfl
  | number found _ =>
    unfold Json.opens
    split
    · cases found
    · cases found
    · rfl

theorem ScalarRaises.opens {text : List Char} (h : ScalarRaises hooks f text) :
    opens text = false := by
  cases h with
  | quoted _ _ => rfl
  | named mem =>
    simp only [Json.named, List.mem_cons, List.not_mem_nil, or_false, Prod.mk.injEq] at mem
    rcases mem with ⟨rfl, _⟩ | ⟨rfl, _⟩ | ⟨rfl, _⟩ | ⟨rfl, _⟩ | ⟨rfl, _⟩ | ⟨rfl, _⟩
    all_goals rfl
  | number found _ =>
    unfold Json.opens
    split
    · cases found
    · cases found
    · rfl

/-- Where a text opens no container, the scanner has a scalar to read. -/
theorem value_scalar {room : ℕ} {text : List Char} (plain : opens text = false) :
    value hooks room text = scalar hooks text := by
  cases room with
  | zero => rw [value, plain, if_neg Bool.false_ne_true]
  | succ room =>
    cases text with
    | nil => rw [value]
    | cons c text =>
      have dict : c ≠ '{' := by rintro rfl; cases plain
      have list : c ≠ '[' := by rintro rfl; cases plain
      rw [value, if_neg dict, if_neg list]

theorem opens_cases {text : List Char} (h : opens text = true) :
    (∃ rest, text = '{' :: rest) ∨ ∃ rest, text = '[' :: rest := by
  unfold opens at h
  split at h
  · exact .inl ⟨_, rfl⟩
  · exact .inr ⟨_, rfl⟩
  · cases h

theorem value_eq_ok (room : ℕ) (text : List Char) (v : V) (rest : List Char) :
    value hooks room text = .ok (v, rest) ↔ Reads hooks room text v rest := by
  induction room generalizing text v rest with
  | zero =>
    cases opened : opens text with
    | false =>
      rw [value_scalar opened]
      exact scalar_eq_ok
    | true =>
      rw [value, opened, if_pos rfl]
      exact ⟨(fun h => nomatch h), fun h => absurd (Scalar.opens h) (by simp [opened])⟩
  | succ room ih =>
    cases opened : opens text with
    | false =>
      rw [value_scalar opened, scalar_eq_ok]
      refine ⟨.inl, fun h => h.resolve_right fun nested => ?_⟩
      cases nested <;> cases opened
    | true =>
      have container : Reads hooks (room + 1) text v rest ↔ Nested hooks (Reads hooks room) text v rest :=
        ⟨fun h => h.resolve_left fun h => absurd h.opens (by simp [opened]), .inr⟩
      rw [container]
      rcases opens_cases opened with ⟨text, rfl⟩ | ⟨text, rfl⟩
      · rw [value, if_pos rfl]
        constructor
        · intro h
          obtain ⟨⟨entries, after⟩, read, h⟩ := bind_eq_ok.1 h
          obtain ⟨w, made, h⟩ := bind_eq_ok.1 h
          cases h
          rw [contents_eq_ok (member_eq_ok ih) fun _ _ _ => Member.length (Reads.length room)] at read
          exact .dict read made
        · rintro (⟨read, made⟩ | _)
          rw [← contents_eq_ok (member_eq_ok ih) fun _ _ _ => Member.length (Reads.length room)] at read
          exact bind_eq_ok.2 ⟨_, read, bind_eq_ok.2 ⟨_, made, rfl⟩⟩
      · rw [value, if_neg (by decide), if_pos rfl]
        constructor
        · intro h
          obtain ⟨⟨items, after⟩, read, h⟩ := bind_eq_ok.1 h
          cases h
          exact .list ((contents_eq_ok ih (Reads.length room)).1 read)
        · rintro (_ | ⟨read⟩)
          exact bind_eq_ok.2 ⟨_, (contents_eq_ok ih (Reads.length room)).2 read, rfl⟩

theorem value_eq_error (other : f ≠ hooks.malformed) (room : ℕ) (text : List Char) :
    value hooks room text = .error f ↔ Raises hooks f room text := by
  induction room generalizing text with
  | zero =>
    cases opened : opens text with
    | false =>
      rw [value_scalar opened, scalar_eq_error other]
      exact ⟨.inl, fun h => h.resolve_right fun h => absurd h.1 (by simp [opened])⟩
    | true =>
      rw [value, opened, if_pos rfl]
      constructor
      · intro h
        cases h
        exact .inr ⟨opened, rfl⟩
      · rintro (raised | ⟨_, rfl⟩)
        · cases opened.symm.trans raised.opens
        · rfl
  | succ room ih =>
    cases opened : opens text with
    | false =>
      rw [value_scalar opened, scalar_eq_error other]
      refine ⟨.inl, fun h => h.resolve_right fun nested => ?_⟩
      cases nested <;> cases opened
    | true =>
      have container : Raises hooks f (room + 1) text ↔
          NestedRaises hooks (Reads hooks room) (Raises hooks f room) f text :=
        ⟨fun h => h.resolve_left fun h => absurd h.opens (by simp [opened]), .inr⟩
      rw [container]
      rcases opens_cases opened with ⟨text, rfl⟩ | ⟨text, rfl⟩
      · have entries : contents hooks '}' (member hooks (value hooks room)) text = .error f ↔ _ :=
          contents_eq_error other (member_eq_ok (value_eq_ok room)) (member_eq_error other ih)
            fun _ _ _ => Member.length (Reads.length room)
        have pairs : ∀ {as rest}, contents hooks '}' (member hooks (value hooks room)) text = .ok (as, rest) ↔ _ :=
          contents_eq_ok (member_eq_ok (value_eq_ok room)) fun _ _ _ => Member.length (Reads.length room)
        rw [value, if_pos rfl]
        constructor
        · intro h
          rcases bind_eq_error.1 h with raised | ⟨⟨_, _⟩, read, h⟩
          · exact .entry (entries.1 raised)
          · rcases bind_eq_error.1 h with raised | ⟨_, _, h⟩
            · exact .pairs (pairs.1 read) raised
            · cases h
        · rintro (raised | ⟨read, raised⟩ | _)
          · exact bind_eq_error.2 (.inl (entries.2 raised))
          · exact bind_eq_error.2 (.inr ⟨_, pairs.2 read, bind_eq_error.2 (.inl raised)⟩)
      · have items : contents hooks ']' (value hooks room) text = .error f ↔ _ :=
          contents_eq_error other (value_eq_ok room) ih (Reads.length room)
        rw [value, if_neg (by decide), if_pos rfl]
        constructor
        · intro h
          rcases bind_eq_error.1 h with raised | ⟨_, _, h⟩
          · exact .item (items.1 raised)
          · cases h
        · rintro (_ | _ | raised)
          exact bind_eq_error.2 (.inl (items.2 raised))

/-- `json.loads` returns the value of a document. -/
theorem document_eq_ok {room : ℕ} {text : List Char} {v : V} :
    document hooks room text = .ok v ↔ Document hooks room text v := by
  unfold document Document
  constructor
  · intro h
    obtain ⟨⟨w, rest⟩, read, h⟩ := bind_eq_ok.1 h
    dsimp only at h
    split at read
    · cases read
    · split at h
      · cases h
        exact ⟨‹_›, rest, (value_eq_ok _ _ _ _).1 read, ‹_›⟩
      · cases h
  · rintro ⟨unmarked, rest, read, ended⟩
    rw [if_neg unmarked]
    refine bind_eq_ok.2 ⟨_, (value_eq_ok _ _ _ _).2 read, ?_⟩
    exact if_pos ended

/-- `json.loads` raises a fault of its caller's where that is the first thing wrong. -/
theorem document_eq_error (other : f ≠ hooks.malformed) {room : ℕ} {text : List Char} :
    document hooks room text = .error f ↔ DocumentRaises hooks f room text := by
  unfold document DocumentRaises
  constructor
  · intro h
    rcases bind_eq_error.1 h with raised | ⟨⟨w, rest⟩, _, h⟩
    · split at raised
      · cases raised
        exact absurd rfl other
      · exact ⟨‹_›, (value_eq_error other _ _).1 raised⟩
    · dsimp only at h
      split at h
      · cases h
      · cases h
        exact absurd rfl other
  · rintro ⟨unmarked, raised⟩
    rw [if_neg unmarked]
    exact bind_eq_error.2 (.inl ((value_eq_error other _ _).2 raised))

end Values

end Python.Json
