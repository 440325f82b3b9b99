import KairosExecution.Interactive.Duty

/-! Loops of a bounded number of rounds. A round goes on with a new state or ends the loop
with a result; where no round has ended it, the loop raises. What every round keeps holds of
the whole loop: of its calls, of its result, and of the one run against a handler. -/

namespace Interactive

variable {I : Interface} {ε P R : Type}

namespace Program

/-- At most `n` rounds, the first of them with number `i`. -/
def rounds (body : ℕ → P → Program I ε (P ⊕ R)) (exhausted : ε) : ℕ → ℕ → P → Program I ε R
  | 0, _, _ => raise exhausted
  | n + 1, i, p => do
    match ← body i p with
    | .inl p => rounds body exhausted n (i + 1) p
    | .inr r => return r

end Program

open Program

variable {body : ℕ → P → Program I ε (P ⊕ R)} {exhausted : ε}

/-- What every round keeps while it meets the duty, and the last one turns into the
postcondition, holds of the loop. -/
theorem Meets.rounds {duty : History I ε → I.Call → Prop} (bound : ℕ)
    (inv : ℕ → P → History I ε → Prop) {post : R → History I ε → Prop}
    (step : ∀ i p h, i < bound → inv i p h → Meets duty (body i p) h fun turn h' =>
      match turn with
      | .inl p' => inv (i + 1) p' h'
      | .inr r => post r h')
    {n i : ℕ} {p : P} {h : History I ε} (fits : i + n ≤ bound) (start : inv i p h) :
    Meets duty (rounds body exhausted n i p) h post := by
  induction n generalizing i p h with
  | zero => exact Meets.raise
  | succ n ih =>
    apply Meets.bind (step i p h (by omega) start)
    intro turn h' _ kept
    cases turn with
    | inl p' => exact ih (by omega) kept
    | inr r => exact Meets.pure kept

/-- A loop whose rounds stay ready until one of them ends it returns what that one delivers.
Nothing is ready when no round is left. -/
theorem execute_rounds {σ : Type} {answer : Handler I ε σ} (ready : ℕ → ℕ → P → σ → Prop)
    (goal : R → Prop) (left : ∀ i p s, ¬ready 0 i p s)
    (step : ∀ n i p s h, ready (n + 1) i p s →
      (∃ p' s' h', execute answer (body i p) s h = (.ok (.inl p'), s', h') ∧ ready n (i + 1) p' s')
        ∨ ∃ r s' h', execute answer (body i p) s h = (.ok (.inr r), s', h') ∧ goal r)
    {n i : ℕ} {p : P} {s : σ} {h : History I ε} (start : ready n i p s) :
    ∃ r, (execute answer (rounds body exhausted n i p) s h).1 = .ok r ∧ goal r := by
  induction n generalizing i p s h with
  | zero => exact absurd start (left i p s)
  | succ n ih =>
    unfold rounds
    rw [execute_bind]
    rcases step n i p s h start with ⟨p', s', h', eq, again⟩ | ⟨r, s', h', eq, reached⟩
    · rw [eq]
      exact ih again
    · rw [eq]
      exact ⟨r, rfl, reached⟩

end Interactive
