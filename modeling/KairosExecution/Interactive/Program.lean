import Mathlib

/-! Programs that talk to an environment. A program is a tree: it either ends with
a result, or issues one call and continues with whatever the environment answers,
a value or an exception. Exceptions raised by the program itself and exceptions
raised by the environment are the same, so a handler catches both. Nothing is said
here about what the environment may answer; a run is fixed by the list of its events. -/

namespace Interactive

/-- The calls a program may issue and the type of the answer to each. -/
structure Interface where
  Call : Type
  Answer : Call → Type

inductive Program (I : Interface) (ε α : Type)
  | done (result : Except ε α)
  | call (c : I.Call) (next : Except ε (I.Answer c) → Program I ε α)

variable {I : Interface} {ε α β : Type}

namespace Program

def bind (p : Program I ε α) (f : α → Program I ε β) : Program I ε β :=
  match p with
  | .done (.ok a) => f a
  | .done (.error e) => .done (.error e)
  | .call c next => .call c fun r => (next r).bind f

instance : Monad (Program I ε) where
  pure a := .done (.ok a)
  bind := bind

private theorem id_map_eq (p : Program I ε α) : id <$> p = p := by
  induction p with
  | done r => cases r <;> rfl
  | call c next ih => exact congrArg (Program.call c) (funext ih)

private theorem bind_assoc_eq {γ : Type} (p : Program I ε α) (f : α → Program I ε β)
    (g : β → Program I ε γ) : p >>= f >>= g = p >>= fun a => f a >>= g := by
  induction p with
  | done r => cases r <;> rfl
  | call c next ih => exact congrArg (Program.call c) (funext ih)

instance : LawfulMonad (Program I ε) :=
  LawfulMonad.mk' _ id_map_eq (fun _ _ => rfl) bind_assoc_eq

/-- Pure checks run inside a program; a failed check raises. -/
instance : MonadLift (Except ε) (Program I ε) where
  monadLift r := .done r

def ask (c : I.Call) : Program I ε (I.Answer c) := .call c .done

def raise (e : ε) : Program I ε α := .done (.error e)

/-- Run `p` and hand its result over as a value, an exception included. -/
def attempt : Program I ε α → Program I ε (Except ε α)
  | .done r => .done (.ok r)
  | .call c next => .call c fun r => (next r).attempt

/-- Run `body` where the condition holds. -/
def onlyIf (condition : Prop) [Decidable condition] (body : Program I ε Unit) : Program I ε Unit :=
  if condition then body else pure ()

/-- Run `body` between `enter` and `leave`, which also runs where `body` raises. -/
def bracket (enter leave : Program I ε Unit) (body : Program I ε α) : Program I ε α := do
  enter
  let result ← body.attempt
  leave
  liftM result

@[simp] theorem done_ok_bind (a : α) (f : α → Program I ε β) :
    (Program.done (.ok a) >>= f) = f a := rfl

@[simp] theorem done_error_bind (e : ε) (f : α → Program I ε β) :
    (Program.done (.error e) >>= f) = .done (.error e) := rfl

@[simp] theorem call_bind (c : I.Call) (next : Except ε (I.Answer c) → Program I ε α)
    (f : α → Program I ε β) : (Program.call c next >>= f) = .call c fun r => next r >>= f := rfl

theorem map_lift (g : α → β) (x : Except ε α) :
    (g <$> (liftM x : Program I ε α)) = liftM (g <$> x) := by
  cases x <;> rfl

@[simp] theorem raise_bind (e : ε) (f : α → Program I ε β) :
    ((raise e : Program I ε α) >>= f) = raise e := rfl

end Program

/-- One call and how it ended for its caller: answered, or lost to a crash or a
cancellation, in which case the caller never runs again. -/
structure Event (I : Interface) (ε : Type) where
  call : I.Call
  outcome : Option (Except ε (I.Answer call))

/-- The events of a call or a run, the latest first. -/
abbrev History (I : Interface) (ε : Type) := List (Event I ε)

/-- `Runs p h h' o`: started after the events `h`, `p` can reach the events `h'`
with outcome `o`, where `none` says that it was cut at its last call or before it. -/
inductive Runs : Program I ε α → History I ε → History I ε → Option (Except ε α) → Prop
  | done (r : Except ε α) (h : History I ε) : Runs (.done r) h h (some r)
  | stopped (p : Program I ε α) (h : History I ε) : Runs p h h none
  | lost (c : I.Call) (next : Except ε (I.Answer c) → Program I ε α) (h : History I ε) :
      Runs (.call c next) h (⟨c, none⟩ :: h) none
  | answered (c : I.Call) (next : Except ε (I.Answer c) → Program I ε α) (h h' : History I ε)
      (r : Except ε (I.Answer c)) (o : Option (Except ε α))
      (rest : Runs (next r) (⟨c, some r⟩ :: h) h' o) : Runs (.call c next) h h' o

theorem Runs.suffix {p : Program I ε α} {h h' : History I ε} {o : Option (Except ε α)}
    (run : Runs p h h' o) : h <:+ h' := by
  induction run with
  | done => exact List.suffix_refl _
  | stopped => exact List.suffix_refl _
  | lost => exact List.suffix_cons _ _
  | answered c next h h' r o _ ih => exact (List.suffix_cons _ _).trans ih

/-- A run of a program that has ended. -/
theorem Runs.of_done {r : Except ε α} {h h' : History I ε} {o : Option (Except ε α)}
    (run : Runs (.done r : Program I ε α) h h' o) : h' = h ∧ ∀ x, o = some x → x = r := by
  cases run with
  | done => exact ⟨rfl, fun _ eq => (Option.some.inj eq).symm⟩
  | stopped => exact ⟨rfl, fun _ eq => nomatch eq⟩

/-- A run of a sequence is a run of its first part that did not return, or one that did
and then a run of the rest. -/
theorem Runs.bind_cases {p : Program I ε α} {f : α → Program I ε β} {h h' : History I ε}
    {o : Option (Except ε β)} (run : Runs (p >>= f) h h' o) :
    (∃ o', Runs p h h' o' ∧ ∀ b, o ≠ some (.ok b)) ∨
    ∃ a m, Runs p h m (some (.ok a)) ∧ Runs (f a) m h' o := by
  induction p generalizing h with
  | done r =>
    cases r with
    | ok a => exact .inr ⟨a, h, .done _ h, run⟩
    | error e =>
      cases run with
      | done => exact .inl ⟨_, .done _ _, fun _ eq => nomatch eq⟩
      | stopped => exact .inl ⟨_, .stopped _ _, fun _ eq => nomatch eq⟩
  | call c next ih =>
    cases run with
    | stopped => exact .inl ⟨_, .stopped _ _, fun _ eq => nomatch eq⟩
    | lost => exact .inl ⟨_, .lost c next _, fun _ eq => nomatch eq⟩
    | answered _ _ _ _ r _ rest =>
      rcases ih r rest with ⟨o', first, open'⟩ | ⟨a, m, first, second⟩
      · exact .inl ⟨o', .answered c next h h' r o' first, open'⟩
      · exact .inr ⟨a, m, .answered c next h m r _ first, second⟩

/-- An environment with a state of its own that answers every call. -/
abbrev Handler (I : Interface) (ε σ : Type) :=
  σ → (c : I.Call) → Except ε (I.Answer c) × σ

/-- The one run of `p` against a handler: its result, the final state and the events. -/
def execute {σ : Type} (answer : Handler I ε σ) :
    Program I ε α → σ → History I ε → Except ε α × σ × History I ε
  | .done r, s, h => (r, s, h)
  | .call c next, s, h =>
    execute answer (next (answer s c).1) (answer s c).2 (⟨c, some (answer s c).1⟩ :: h)

theorem execute_runs {σ : Type} (answer : Handler I ε σ) (p : Program I ε α) (s : σ)
    (h : History I ε) :
    Runs p h (execute answer p s h).2.2 (some (execute answer p s h).1) := by
  induction p generalizing s h with
  | done r => exact .done r h
  | call c next ih => exact .answered c next h _ (answer s c).1 _ (ih _ _ _)

/-- The events before a run do not change what it does. -/
theorem execute_append {σ : Type} (answer : Handler I ε σ) (p : Program I ε α) (s : σ)
    (h k : History I ε) :
    execute answer p s (h ++ k) =
      ((execute answer p s h).1, (execute answer p s h).2.1, (execute answer p s h).2.2 ++ k) := by
  induction p generalizing s h with
  | done r => rfl
  | call c next ih => exact ih _ _ (⟨c, some (answer s c).1⟩ :: h)

/-- Running a handler through a sequence is running it through the parts. -/
theorem execute_bind {σ : Type} (answer : Handler I ε σ) (p : Program I ε α)
    (f : α → Program I ε β) (s : σ) (h : History I ε) :
    execute answer (p >>= f) s h =
      match execute answer p s h with
      | (.ok a, s', h') => execute answer (f a) s' h'
      | (.error e, s', h') => (.error e, s', h') := by
  induction p generalizing s h with
  | done r => cases r <;> rfl
  | call c next ih => exact ih _ _ _

end Interactive
