import KairosExecution.Interactive.Duty

/-! Programs against a store: an environment whose state fixes every answer. A program then
has one run from each state. A crash leaves the store as it is between two calls of the
program, so what is to survive a crash has to hold at each of these states. -/

namespace Interactive

variable {I : Interface} {ε α β σ : Type}

/-- The result of a program, and the state it leaves. -/
def Program.run (answer : Handler I ε σ) : Program I ε α → σ → Except ε α × σ
  | .done r, s => (r, s)
  | .call c next, s => (next (answer s c).1).run answer (answer s c).2

/-- The states between the calls of a program, the first and the last one included. -/
inductive Reaches (answer : Handler I ε σ) : Program I ε α → σ → σ → Prop
  | here (p : Program I ε α) (s : σ) : Reaches answer p s s
  | later (c : I.Call) (next : Except ε (I.Answer c) → Program I ε α) (s s' : σ)
      (rest : Reaches answer (next (answer s c).1) (answer s c).2 s') :
      Reaches answer (.call c next) s s'

variable {answer : Handler I ε σ}

theorem reaches_run (p : Program I ε α) (s : σ) : Reaches answer p s (p.run answer s).2 := by
  induction p generalizing s with
  | done r => exact .here _ s
  | call c next ih => exact .later c next s _ (ih _ _)

namespace Program

@[simp] theorem run_done (r : Except ε α) (s : σ) :
    (Program.done r : Program I ε α).run answer s = (r, s) := rfl

@[simp] theorem run_pure (a : α) (s : σ) :
    (pure a : Program I ε α).run answer s = (.ok a, s) := rfl

@[simp] theorem run_raise (e : ε) (s : σ) :
    (raise e : Program I ε α).run answer s = (.error e, s) := rfl

@[simp] theorem run_lift (x : Except ε α) (s : σ) :
    (liftM x : Program I ε α).run answer s = (x, s) := rfl

@[simp] theorem run_ask (c : I.Call) (s : σ) :
    (ask c : Program I ε (I.Answer c)).run answer s = answer s c := rfl

theorem run_bind (p : Program I ε α) (f : α → Program I ε β) (s : σ) :
    (p >>= f).run answer s =
      match p.run answer s with
      | (.ok a, s') => (f a).run answer s'
      | (.error e, s') => (.error e, s') := by
  induction p generalizing s with
  | done r => cases r <;> rfl
  | call c next ih => exact ih _ _

/-- A sequence returns where its parts do. -/
theorem run_bind_ok {p : Program I ε α} {f : α → Program I ε β} {s s' : σ} {b : β} :
    (p >>= f).run answer s = (.ok b, s') ↔
      ∃ a m, p.run answer s = (.ok a, m) ∧ (f a).run answer m = (.ok b, s') := by
  rw [run_bind]
  constructor
  · intro h
    split at h
    · exact ⟨_, _, ‹_›, h⟩
    · cases h
  · rintro ⟨a, m, first, second⟩
    rw [first]
    exact second

/-- A call that is answered. -/
theorem run_answered {c : I.Call} {f : I.Answer c → Program I ε β} {s s' : σ} {a : I.Answer c}
    (answered : answer s c = (.ok a, s')) : (ask c >>= f).run answer s = (f a).run answer s' := by
  show (Program.done (answer s c).1 >>= f).run answer (answer s c).2 = _
  rw [answered]
  rfl

/-- A call that raises. -/
theorem run_refused {c : I.Call} {f : I.Answer c → Program I ε β} {s s' : σ} {e : ε}
    (refused : answer s c = (.error e, s')) : (ask c >>= f).run answer s = (.error e, s') := by
  show (Program.done (answer s c).1 >>= f).run answer (answer s c).2 = _
  rw [refused]
  rfl

/-- A call that is answered and leaves the store as it is. -/
theorem run_read {c : I.Call} {f : I.Answer c → Program I ε β} {s : σ} {a : I.Answer c}
    (loaded : answer s c = (.ok a, s)) : (ask c >>= f).run answer s = (f a).run answer s :=
  run_answered loaded

/-- A check inside a program whose rest leaves the store as it is. -/
theorem run_lift_bind {x : Except ε α} {p : α → Program I ε β} {q : α → Except ε β} {s : σ}
    (rest : ∀ a, (p a).run answer s = (q a, s)) :
    ((liftM x : Program I ε α) >>= p).run answer s = (x >>= q, s) := by
  cases x with
  | ok a => exact rest a
  | error e => rfl

end Program

/-- Started in `s`, the program keeps the store in states of `P`, and where it returns
normally `Q` holds of its value and the state then. -/
def Keeps (answer : Handler I ε σ) (P : σ → Prop) (Q : α → σ → Prop) : Program I ε α → σ → Prop
  | .done r, s => P s ∧ ∀ a, r = .ok a → Q a s
  | .call c next, s => P s ∧ Keeps answer P Q (next (answer s c).1) (answer s c).2

namespace Keeps

variable {P : σ → Prop} {p : Program I ε α} {f : α → Program I ε β} {s : σ} {Q : α → σ → Prop}
  {R : β → σ → Prop}

theorem now (k : Keeps answer P Q p s) : P s := by
  cases p with
  | done r => exact k.1
  | call c next => exact k.1

theorem pure {a : α} (holds : P s) (q : Q a s) : Keeps answer P Q (pure a) s :=
  ⟨holds, fun _ eq => by cases eq; exact q⟩

theorem raise {e : ε} (holds : P s) : Keeps answer P Q (Program.raise e) s :=
  ⟨holds, fun _ eq => nomatch eq⟩

theorem mono {Q' : α → σ → Prop} (k : Keeps answer P Q p s) (le : ∀ a s', P s' → Q a s' → Q' a s') :
    Keeps answer P Q' p s := by
  induction p generalizing s with
  | done r => exact ⟨k.1, fun a eq => le a s k.1 (k.2 a eq)⟩
  | call c next ih => exact ⟨k.1, ih _ k.2⟩

theorem bind (k : Keeps answer P Q p s) (rest : ∀ a s', P s' → Q a s' → Keeps answer P R (f a) s') :
    Keeps answer P R (p >>= f) s := by
  induction p generalizing s with
  | done r =>
    cases r with
    | ok a => exact rest a s k.1 (k.2 a rfl)
    | error e => exact ⟨k.1, fun _ eq => nomatch eq⟩
  | call c next ih => exact ⟨k.1, ih _ k.2⟩

theorem lift_bind {x : Except ε α} (holds : P s)
    (rest : ∀ a, x = .ok a → Keeps answer P R (f a) s) :
    Keeps answer P R ((liftM x : Program I ε α) >>= f) s := by
  cases x with
  | ok a => exact rest a rfl
  | error e => exact ⟨holds, fun _ eq => nomatch eq⟩

theorem ask_bind {c : I.Call} {f : I.Answer c → Program I ε β} (before : P s)
    (after : P (answer s c).2)
    (rest : ∀ a, (answer s c).1 = .ok a → Keeps answer P R (f a) (answer s c).2) :
    Keeps answer P R (Program.ask c >>= f) s := by
  refine ⟨before, ?_⟩
  show Keeps answer P R (Program.done (answer s c).1 >>= f) (answer s c).2
  cases result : (answer s c).1 with
  | ok a => exact rest a result
  | error e => exact ⟨after, fun _ eq => nomatch eq⟩

/-- A call that leaves the store as it is. -/
theorem read_bind {c : I.Call} {f : I.Answer c → Program I ε β} (holds : P s)
    (same : (answer s c).2 = s)
    (rest : ∀ a, (answer s c).1 = .ok a → Keeps answer P R (f a) s) :
    Keeps answer P R (Program.ask c >>= f) s := by
  apply ask_bind holds
  · rw [same]
    exact holds
  · rw [same]
    exact rest

/-- It is kept at every state that a crash may leave. -/
theorem reaches {s' : σ} (k : Keeps answer P Q p s) (reach : Reaches answer p s s') : P s' := by
  induction reach with
  | here => exact k.now
  | later c next s s' _ ih => exact ih k.2

end Keeps

/-- A program that only reads leaves the store as it is, and returns what its run says. -/
theorem Calls.reads {S : I.Call → Prop} {p : Program I ε α} (m : Calls S p)
    (same : ∀ s c, S c → (answer s c).2 = s) {P : σ → Prop} {s : σ} (holds : P s) :
    Keeps answer P (fun a s' => s' = s ∧ p.run answer s = (.ok a, s)) p s := by
  suffices h : ∀ q : Program I ε α, Calls S q → q.run answer s = p.run answer s →
      Keeps answer P (fun a s' => s' = s ∧ p.run answer s = (.ok a, s)) q s from h p m rfl
  intro q
  induction q with
  | done r =>
    intro _ eq
    refine ⟨holds, fun a ret => ⟨rfl, ?_⟩⟩
    rw [← eq, ret]
    rfl
  | call c next ih =>
    intro reads eq
    refine ⟨holds, ?_⟩
    have here := same s c reads.1
    rw [here]
    refine ih _ (reads.2 _) ?_
    rw [← eq]
    show _ = (next (answer s c).1).run answer (answer s c).2
    rw [here]

theorem Calls.run_same {S : I.Call → Prop} {p : Program I ε α} (m : Calls S p)
    (same : ∀ s c, S c → (answer s c).2 = s) (s : σ) : (p.run answer s).2 = s := by
  induction p with
  | done r => rfl
  | call c next ih =>
    show ((next (answer s c).1).run answer (answer s c).2).2 = s
    rw [same s c m.1]
    exact ih _ (m.2 _)

end Interactive
