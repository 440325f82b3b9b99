import KairosExecution.Interactive.Session

/-! Acts that are done at most once. Callers that interleave at every event share a store;
the store grants a key where it is free and holds it from then on, so that it grants a key
once. A caller acts under a key only where it was granted the key, and acts once, so that
over all the callers there is one act under each key. -/

namespace Interactive

variable {I : Interface} {ε σ κ : Type}

/-- The events of an interleaved session, whoever's they are. -/
abbrev events (h : List (ℕ × Event I ε)) : History I ε := h.map Prod.snd

theorem mem_events {n : ℕ} {h : List (ℕ × Event I ε)} {e : Event I ε} (mem : e ∈ ownEvents n h) :
    e ∈ events h :=
  List.mem_map_of_mem (f := Prod.snd) (mem_ownEvents.1 mem)

/-- Of two members that differ one is the older. -/
theorem older_of_ne {α : Type} {a b : α} {h : List α} (inA : a ∈ h) (inB : b ∈ h) (apart : a ≠ b) :
    (∃ l k, h = l ++ a :: k ∧ b ∈ k) ∨ ∃ l k, h = l ++ b :: k ∧ a ∈ k := by
  obtain ⟨l, k, rfl⟩ := List.append_of_mem inA
  rcases List.mem_append.1 inB with newer | rest
  · obtain ⟨u, v, rfl⟩ := List.append_of_mem newer
    exact .inr ⟨u, v ++ a :: k, by simp, by simp⟩
  · rcases List.mem_cons.1 rest with same | older
    · exact absurd same.symm apart
    · exact .inl ⟨l, k, rfl, older⟩

/-- What an event brings about and every step keeps holds after the event. -/
theorem Follows.since {step : σ → Event I ε → σ → Prop} {start s : σ} {h : History I ε}
    (f : Follows step start h s) {e : Event I ε} (mem : e ∈ h) {P : σ → Prop}
    (made : ∀ before after, step before e after → P after)
    (kept : ∀ before x after, step before x after → P before → P after) : P s := by
  induction f with
  | start => cases mem
  | next before moved ih =>
    rcases List.mem_cons.1 mem with rfl | older
    · exact made _ _ moved
    · exact kept _ _ _ moved (ih older)

/-- What every step relates, where that is reflexive and transitive, relates the state at any
point to the last one. -/
theorem Follows.grows {step : σ → Event I ε → σ → Prop} {start s : σ} {l k : History I ε}
    (f : Follows step start (l ++ k) s) {R : σ → σ → Prop} (refl : ∀ s, R s s)
    (trans : ∀ a b c, R a b → R b c → R a c) (grows : ∀ s e s', step s e s' → R s s') :
    ∃ middle, Follows step start k middle ∧ R middle s := by
  induction l generalizing s with
  | nil => exact ⟨s, f, refl s⟩
  | cons x l ih =>
    cases f with
    | next older moved =>
      obtain ⟨middle, f, related⟩ := ih older
      exact ⟨middle, f, trans _ _ _ related (grows _ _ _ moved)⟩

/-- The store grants a key where it is free, and holds it from then on. -/
structure Grants (step : σ → Event I ε → σ → Prop) (granted : Event I ε → Option κ)
    (held : σ → κ → Prop) : Prop where
  kept : ∀ s e s' key, step s e s' → held s key → held s' key
  free : ∀ s e s' key, step s e s' → granted e = some key → ¬held s key
  taken : ∀ s e s' key, step s e s' → granted e = some key → held s' key

namespace Grants

variable {step : σ → Event I ε → σ → Prop} {granted : Event I ε → Option κ} {held : σ → κ → Prop}
  {start s : σ}

theorem held_of_mem (law : Grants step granted held) {h : History I ε} (f : Follows step start h s)
    {e : Event I ε} {key : κ} (mem : e ∈ h) (grant : granted e = some key) : held s key :=
  f.since mem (fun before after moved => law.taken before e after key moved grant)
    fun before x after moved => law.kept before x after key moved

/-- A key that is granted was not granted before. -/
theorem once (law : Grants step granted held) {h l k : History I ε} (f : Follows step start h s)
    {e x : Event I ε} {key : κ} (eq : h = l ++ e :: k) (grant : granted e = some key) (mem : x ∈ k) :
    granted x ≠ some key := by
  intro again
  obtain ⟨before, after, older, moved, -⟩ := f.split eq
  exact law.free before e after key moved grant (law.held_of_mem older mem again)

/-- A caller may act under a key that it was granted, and has not acted before. -/
def Entitled (granted : Event I ε → Option κ) (acts : I.Call → Option κ) (own : History I ε)
    (c : I.Call) : Prop :=
  ∀ key, acts c = some key → (∃ x ∈ own, granted x = some key) ∧ ∀ x ∈ own, acts x.call = none

/-- Where every caller acts as it is entitled to, there is one act at most under a key. -/
theorem acted_once [DecidableEq κ] (law : Grants step granted held) {h : List (ℕ × Event I ε)}
    (f : Follows step start (events h) s) {acts : ℕ → I.Call → Option κ}
    (entitled : ∀ n, Dutiful (Entitled granted (acts n)) (ownEvents n h)) (key : κ) :
    (h.filter fun e => acts e.1 e.2.call = some key).length ≤ 1 := by
  apply filter_length_le_one
  rintro l ⟨n, e⟩ k eq act ⟨m, y⟩ mem
  rw [decide_eq_false_iff_not]
  intro again
  rw [decide_eq_true_eq] at act
  -- the duty of a caller at an event of its own
  have entitlement : ∀ {l k n e}, h = l ++ (n, e) :: k → acts n e.call = some key →
      (∃ x, (n, x) ∈ k ∧ granted x = some key) ∧ ∀ x, (n, x) ∈ k → acts n x.call = none := by
    intro l k n e eq act
    obtain ⟨⟨x, granted, grant⟩, none⟩ := (entitled n).own eq key act
    exact ⟨⟨x, mem_ownEvents.1 granted, grant⟩, fun x mem => none x (mem_ownEvents.2 mem)⟩
  obtain ⟨⟨x, inX, grant⟩, none⟩ := entitlement eq act
  obtain ⟨u, v, rfl⟩ := List.append_of_mem mem
  obtain ⟨⟨z, inZ, grant'⟩, -⟩ := entitlement
    (show h = (l ++ (n, e) :: u) ++ (m, y) :: v by rw [eq]; simp) again
  by_cases same : m = n
  · subst same
    have unacted := none y (by simp)
    rw [again] at unacted
    cases unacted
  · -- the two grants are at two events, and the later one is of a key that is held
    have apart : (n, x) ≠ (m, z) := fun eq => same (congrArg Prod.fst eq).symm
    have inX' : (n, x) ∈ h := by
      rw [eq]
      exact List.mem_append_right _ (List.mem_cons_of_mem _ inX)
    have inZ' : (m, z) ∈ h := by
      rw [eq]
      simp [inZ]
    rcases older_of_ne inX' inZ' apart with ⟨a, b, split, older⟩ | ⟨a, b, split, older⟩
    · have eq' : events h = events a ++ x :: events b := by
        rw [split]
        simp
      exact law.once f eq' grant (List.mem_map_of_mem older) grant'
    · have eq' : events h = events a ++ z :: events b := by
        rw [split]
        simp
      exact law.once f eq' grant' (List.mem_map_of_mem older) grant

end Grants

end Interactive
