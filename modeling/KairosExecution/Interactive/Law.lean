import KairosExecution.Interactive.Session

/-! Programs under a law. The state of the environment moves with every event as the law
allows, an event that was lost included; nothing else moves it while the program runs. What
a program upholds under the law is proved along its shape, and holds of every run: of the
state that a crash leaves at any event, and of the result and the state where it ends. -/

namespace Interactive

variable {I : Interface} {ε α β σ : Type}

/-- Started in `s`, every state of a run satisfies `inv`, and where the run ends `post` holds of
its result and its state. -/
def Upholds (step : σ → Event I ε → σ → Prop) (inv : σ → Prop) (post : Except ε α → σ → Prop) :
    Program I ε α → σ → Prop
  | .done r, s => inv s ∧ post r s
  | .call c next, s => inv s ∧ (∀ s', step s ⟨c, none⟩ s' → inv s') ∧
      ∀ r s', step s ⟨c, some r⟩ s' → Upholds step inv post (next r) s'

/-- The first event of a history, and those after it. -/
theorem Follows.first {step : σ → Event I ε → σ → Prop} {h : History I ε} {e : Event I ε} {s s' : σ}
    (f : Follows step s (h ++ [e]) s') : ∃ m, step s e m ∧ Follows step m h s' := by
  induction h generalizing s' with
  | nil =>
    cases f with
    | next before moved =>
      cases before
      exact ⟨_, moved, .start⟩
  | cons x h ih =>
    cases f with
    | next before moved =>
      obtain ⟨m, first, rest⟩ := ih before
      exact ⟨m, first, .next rest moved⟩

namespace Upholds

variable {step : σ → Event I ε → σ → Prop} {inv : σ → Prop} {post : Except ε α → σ → Prop}
  {p : Program I ε α} {f : α → Program I ε β} {s : σ} {R : Except ε β → σ → Prop}

theorem now (u : Upholds step inv post p s) : inv s := by
  cases p with
  | done r => exact u.1
  | call c next => exact u.1

theorem mono {post' : Except ε α → σ → Prop} (u : Upholds step inv post p s)
    (le : ∀ r s', inv s' → post r s' → post' r s') : Upholds step inv post' p s := by
  induction p generalizing s with
  | done r => exact ⟨u.1, le r s u.1 u.2⟩
  | call c next ih => exact ⟨u.1, u.2.1, fun r s' moved => ih r (u.2.2 r s' moved)⟩

theorem weaken {inv' : σ → Prop} (u : Upholds step inv post p s) (le : ∀ s', inv s' → inv' s') :
    Upholds step inv' post p s := by
  induction p generalizing s with
  | done r => exact ⟨le s u.1, u.2⟩
  | call c next ih =>
    exact ⟨le s u.1, fun s' moved => le s' (u.2.1 s' moved), fun r s' moved => ih r (u.2.2 r s' moved)⟩

theorem pure {a : α} (holds : inv s) (q : post (.ok a) s) :
    Upholds step inv post (pure a : Program I ε α) s := ⟨holds, q⟩

theorem raise {e : ε} (holds : inv s) (q : post (.error e) s) :
    Upholds step inv post (Program.raise e : Program I ε α) s := ⟨holds, q⟩

theorem lift {x : Except ε α} (holds : inv s) (q : post x s) :
    Upholds step inv post (liftM x : Program I ε α) s := ⟨holds, q⟩

theorem bind (u : Upholds step inv post p s)
    (ok : ∀ a s', inv s' → post (.ok a) s' → Upholds step inv R (f a) s')
    (error : ∀ e s', inv s' → post (.error e) s' → R (.error e) s') :
    Upholds step inv R (p >>= f) s := by
  induction p generalizing s with
  | done r =>
    cases r with
    | ok a => exact ok a s u.1 u.2
    | error e => exact ⟨u.1, error e s u.1 u.2⟩
  | call c next ih => exact ⟨u.1, u.2.1, fun r s' moved => ih r (u.2.2 r s' moved)⟩

theorem ask {c : I.Call} {post : Except ε (I.Answer c) → σ → Prop} (before : inv s)
    (lost : ∀ s', step s ⟨c, none⟩ s' → inv s')
    (after : ∀ r s', step s ⟨c, some r⟩ s' → inv s' ∧ post r s') :
    Upholds step inv post (Program.ask c) s :=
  ⟨before, lost, after⟩

/-- A call: its answer is what the law allows, and where it raises the sequence does. -/
theorem ask_bind {c : I.Call} {f : I.Answer c → Program I ε β} (before : inv s)
    (lost : ∀ s', step s ⟨c, none⟩ s' → inv s')
    (error : ∀ e s', step s ⟨c, some (.error e)⟩ s' → inv s' ∧ R (.error e) s')
    (ok : ∀ a s', step s ⟨c, some (.ok a)⟩ s' → Upholds step inv R (f a) s') :
    Upholds step inv R (Program.ask c >>= f) s := by
  refine ⟨before, lost, fun r s' moved => ?_⟩
  cases r with
  | ok a => exact ok a s' moved
  | error e => exact error e s' moved

theorem lift_bind {x : Except ε α} (holds : inv s)
    (ok : ∀ a, x = .ok a → Upholds step inv R (f a) s) (error : ∀ e, x = .error e → R (.error e) s) :
    Upholds step inv R ((liftM x : Program I ε α) >>= f) s := by
  cases x with
  | ok a => exact ok a rfl
  | error e => exact ⟨holds, error e rfl⟩

theorem map {g : α → β} (u : Upholds step inv (fun r s' => R (g <$> r) s') p s) :
    Upholds step inv R (g <$> p) s := by
  rw [map_eq_pure_bind]
  exact u.bind (fun a s' holds q => pure holds q) fun e s' _ q => q

theorem of_map {g : α → β} (u : Upholds step inv R (g <$> p) s) :
    Upholds step inv (fun r s' => R (g <$> r) s') p s := by
  rw [map_eq_pure_bind] at u
  induction p generalizing s with
  | done r => cases r <;> exact u
  | call c next ih => exact ⟨u.1, u.2.1, fun r s' moved => ih r (u.2.2 r s' moved)⟩

theorem attempt {post : Except ε (Except ε α) → σ → Prop}
    (u : Upholds step inv (fun r s' => post (.ok r) s') p s) : Upholds step inv post p.attempt s := by
  induction p generalizing s with
  | done r => exact u
  | call c next ih => exact ⟨u.1, u.2.1, fun r s' moved => ih r (u.2.2 r s' moved)⟩

/-- Where nothing is said of the result. -/
theorem anyway (u : Upholds step inv post p s) : Upholds step inv (fun _ _ => True) p s :=
  u.mono fun _ _ _ _ => trivial

theorem bind_anyway (u : Upholds step inv post p s)
    (next : ∀ a s', inv s' → Upholds step inv (fun _ _ => True) (f a) s') :
    Upholds step inv (fun _ _ => True) (p >>= f) s :=
  u.bind (fun a s' holds _ => next a s' holds) fun _ _ _ _ => trivial

/-- It holds of every run. -/
theorem sound (u : Upholds step inv post p s) {h t h' : History I ε} {o : Option (Except ε α)}
    (run : Runs p h h' o) (added : h' = t ++ h) {s' : σ} (f : Follows step s t s') :
    inv s' ∧ ∀ r, o = some r → post r s' := by
  induction run generalizing t s with
  | done r h =>
    rw [List.self_eq_append_left] at added
    subst added
    cases f
    exact ⟨u.1, fun _ eq => Option.some.inj eq ▸ u.2⟩
  | stopped p h =>
    rw [List.self_eq_append_left] at added
    subst added
    cases f
    exact ⟨u.now, fun _ eq => nomatch eq⟩
  | lost c next h =>
    rw [List.cons_eq_append_iff] at added
    rcases added with ⟨rfl, same⟩ | ⟨t, rfl, same⟩
    · exact absurd same (by simp)
    · rw [List.self_eq_append_left] at same
      subst same
      obtain ⟨m, first, rest⟩ := Follows.first (h := []) f
      cases rest
      exact ⟨u.2.1 _ first, fun _ eq => nomatch eq⟩
  | answered c next h h' r o rest ih =>
    obtain ⟨t', split⟩ := rest.suffix
    have same : t = t' ++ [⟨c, some r⟩] := by
      apply (List.append_left_inj h).1
      rw [← added, ← split, List.append_assoc]
      rfl
    subst same
    obtain ⟨m, first, later⟩ := f.first
    exact ih (u.2.2 r m first) split.symm later

end Upholds

end Interactive
