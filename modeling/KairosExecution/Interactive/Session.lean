import KairosExecution.Interactive.Duty

/-! Many calls of a service. A call is known by its own history; a serial session runs
the calls one after another, an interleaved one in any order, each event under the
number of its caller. What each call owes holds of every event of the session. The
environment may keep a state of its own, which follows the events. -/

namespace Interactive

variable {I : Interface} {ε σ : Type}

/-- Histories of calls that ran one after the other, each on its own events. -/
inductive Serial (call : History I ε → Prop) : History I ε → Prop
  | start : Serial call []
  | next {h t : History I ε} (before : Serial call h) (own : call t) : Serial call (t ++ h)

/-- Every event of a serial session was issued by some call, and met that call's duty
on the events of its own. -/
theorem Serial.duty {call : History I ε → Prop} {duty : History I ε → I.Call → Prop}
    (dutiful : ∀ t, call t → Dutiful duty t) {h : History I ε} (serial : Serial call h)
    {l k : History I ε} {e : Event I ε} (eq : h = l ++ e :: k) :
    ∃ own older, k = own ++ older ∧ Serial call older ∧ duty own e.call := by
  induction serial generalizing l k with
  | start => exact absurd eq (by simp)
  | @next h t before own ih =>
    rcases List.append_eq_append_iff.1 eq with ⟨m, hl, hh⟩ | ⟨m, ht, hk⟩
    · exact ih hh
    · cases m with
      | nil =>
        rw [List.nil_append] at hk
        exact ih (l := []) hk.symm
      | cons x m =>
        obtain ⟨rfl, rfl⟩ := List.cons.inj hk
        exact ⟨m, h, rfl, before, (dutiful t own).at ht⟩

/-- The events of one caller, the latest first. -/
def ownEvents (n : ℕ) (h : List (ℕ × Event I ε)) : History I ε :=
  (h.filter fun e => e.1 = n).map Prod.snd

@[simp] theorem mem_ownEvents {n : ℕ} {h : List (ℕ × Event I ε)} {e : Event I ε} :
    e ∈ ownEvents n h ↔ (n, e) ∈ h := by
  simp [ownEvents]

/-- All events of one caller are its own, and no other caller's. -/
theorem ownEvents_map (n m : ℕ) (h : History I ε) :
    ownEvents n (h.map fun e => (m, e)) = if m = n then h else [] := by
  induction h with
  | nil => simp [ownEvents]
  | cons e h ih =>
    by_cases same : m = n
    · simp [ownEvents, same] at ih ⊢
      exact ih
    · simp [ownEvents, same]

/-- A place among a caller's own events is a place among all events. -/
theorem ownEvents_split {n : ℕ} {h : List (ℕ × Event I ε)} {a b : History I ε} {e : Event I ε}
    (eq : ownEvents n h = a ++ e :: b) :
    ∃ l k, h = l ++ (n, e) :: k ∧ ownEvents n l = a ∧ ownEvents n k = b := by
  induction h generalizing a with
  | nil => simp [ownEvents] at eq
  | cons x h ih =>
    obtain ⟨m, y⟩ := x
    by_cases own : m = n
    · subst own
      have step : ownEvents m ((m, y) :: h) = y :: ownEvents m h := by simp [ownEvents]
      rw [step] at eq
      cases a with
      | nil =>
        obtain ⟨rfl, rest⟩ := List.cons.inj eq
        exact ⟨[], h, rfl, rfl, rest⟩
      | cons z a =>
        obtain ⟨rfl, rest⟩ := List.cons.inj eq
        obtain ⟨l, k, rfl, hl, hk⟩ := ih rest
        exact ⟨(m, y) :: l, k, rfl, by simp [ownEvents, ← hl], hk⟩
    · have step : ownEvents n ((m, y) :: h) = ownEvents n h := by simp [ownEvents, own]
      rw [step] at eq
      obtain ⟨l, k, rfl, hl, hk⟩ := ih eq
      exact ⟨(m, y) :: l, k, rfl, by simpa [ownEvents, own] using hl, hk⟩

/-- An event met its caller's duty on what the caller had done before. -/
theorem Dutiful.own {duty : History I ε → I.Call → Prop} {n : ℕ} {h l k : List (ℕ × Event I ε)}
    {e : Event I ε} (dutiful : Dutiful duty (ownEvents n h)) (eq : h = l ++ (n, e) :: k) :
    duty (ownEvents n k) e.call := by
  apply dutiful.at (l := ownEvents n l)
  rw [eq]
  simp [ownEvents, List.filter_append]

/-- Calls that may interleave at every event; each caller's own events are one call. -/
def Interleaved (call : History I ε → Prop) (h : List (ℕ × Event I ε)) : Prop :=
  ∀ n, call (ownEvents n h)

/-- In an interleaved session too, every event met its caller's duty. -/
theorem Interleaved.duty {call : History I ε → Prop} {duty : History I ε → I.Call → Prop}
    (dutiful : ∀ t, call t → Dutiful duty t) {h : List (ℕ × Event I ε)}
    (session : Interleaved call h) {l k : List (ℕ × Event I ε)} {n : ℕ} {e : Event I ε}
    (eq : h = l ++ (n, e) :: k) : duty (ownEvents n k) e.call :=
  (dutiful _ (session n)).own eq

/-- Where nothing older is of the kind of an event of the kind, there is at most one. -/
theorem filter_length_le_one {γ : Type} {kind : γ → Bool} {h : List γ}
    (once : ∀ l e k, h = l ++ e :: k → kind e → ∀ x ∈ k, kind x = false) :
    (h.filter kind).length ≤ 1 := by
  induction h with
  | nil => exact Nat.zero_le 1
  | cons e h ih =>
    by_cases hit : kind e = true
    · have none : h.filter kind = [] := by
        apply List.filter_eq_nil_iff.2
        intro x hx
        simp [once [] e h rfl hit x hx]
      simp [hit, none]
    · rw [List.filter_cons_of_neg hit]
      exact ih fun l x k eq => once (e :: l) x k (by rw [eq, List.cons_append])

/-- The state of an environment after the events of a history: each event may change it
as `step` allows. -/
inductive Follows (step : σ → Event I ε → σ → Prop) (start : σ) : History I ε → σ → Prop
  | start : Follows step start [] start
  | next {h : History I ε} {e : Event I ε} {s s' : σ} (before : Follows step start h s)
      (moved : step s e s') : Follows step start (e :: h) s'

namespace Follows

variable {step : σ → Event I ε → σ → Prop} {start s : σ} {h : History I ε}

/-- The state just before an event, and the one just after it. -/
theorem split (f : Follows step start h s) {l k : History I ε} {e : Event I ε}
    (eq : h = l ++ e :: k) :
    ∃ before after, Follows step start k before ∧ step before e after ∧
      Follows step start (e :: k) after := by
  induction f generalizing l with
  | start => exact absurd eq (by simp)
  | next before st ih =>
    cases l with
    | nil =>
      obtain ⟨rfl, rfl⟩ := List.cons.inj eq
      exact ⟨_, _, before, st, .next before st⟩
    | cons x l => exact ih (List.cons.inj eq).2

/-- What holds at the start and is kept by every step holds after every history. -/
theorem invariant (f : Follows step start h s) {P : History I ε → σ → Prop} (base : P [] start)
    (keep : ∀ h s e s', Follows step start h s → P h s → step s e s' → P (e :: h) s') : P h s := by
  induction f with
  | start => exact base
  | next before st ih => exact keep _ _ _ _ before ih st

/-- A part of the history that keeps `P` of the state. -/
theorem through {l k : History I ε} (f : Follows step start (l ++ k) s) {P : σ → Prop}
    (base : ∀ before, Follows step start k before → P before)
    (keep : ∀ e ∈ l, ∀ s s', P s → step s e s' → P s') : P s := by
  induction l generalizing s with
  | nil => exact base s f
  | cons x l ih =>
    cases f with
    | next before st =>
      exact keep x List.mem_cons_self _ _
        (ih before fun e he => keep e (List.mem_cons_of_mem _ he)) st

/-- A run against a handler whose answers keep the law follows it. -/
theorem execute {τ α : Type} {answer : Handler I ε τ} {view : τ → σ}
    (law : ∀ t c, step (view t) ⟨c, some (answer t c).1⟩ (view (answer t c).2))
    (p : Program I ε α) {t : τ} {h : History I ε} (f : Follows step start h (view t)) :
    Follows step start (Interactive.execute answer p t h).2.2
      (view (Interactive.execute answer p t h).2.1) := by
  induction p generalizing t h with
  | done r => exact f
  | call c next ih => exact ih _ (.next f (law t c))

end Follows

/-- What holds at some moment, and is kept by every event that meets its caller's duty and
follows the law, holds at every later moment. -/
theorem Follows.owed {duty : History I ε → I.Call → Prop} {later earlier : List (ℕ × Event I ε)}
    (each : ∀ l n e k, later = l ++ (n, e) :: k → duty (ownEvents n (k ++ earlier)) e.call)
    {step : σ → Event I ε → σ → Prop} {s s' : σ} (f : Follows step s (later.map Prod.snd) s')
    {P : List (ℕ × Event I ε) → σ → Prop} (base : P earlier s)
    (keep : ∀ h n e s s', P h s → duty (ownEvents n h) e.call → step s e s' → P ((n, e) :: h) s') :
    P (later ++ earlier) s' := by
  induction later generalizing s' with
  | nil =>
    cases f
    exact base
  | cons x later ih =>
    obtain ⟨n, e⟩ := x
    cases f with
    | next before moved =>
      have older := ih (fun l n e k eq => each (_ :: l) n e k (by rw [eq, List.cons_append])) before
      exact keep _ n e _ _ older (each [] n e later rfl) moved

section Turns

variable {α : Type}

/-- The first callers in turn, each run whole against the handler: the state they leave, and the
events of the session. -/
def inTurn (answer : Handler I ε σ) (program : ℕ → Program I ε α) :
    ℕ → σ → σ × List (ℕ × Event I ε)
  | 0, s => (s, [])
  | n + 1, s =>
    let older := inTurn answer program n s
    let last := execute answer (program n) older.1 []
    (last.2.1, last.2.2.map (fun e => (n, e)) ++ older.2)

/-- What a caller has returned by then. -/
def inTurnReturned (answer : Handler I ε σ) (program : ℕ → Program I ε α) (n : ℕ) (s : σ) (m : ℕ) :
    Option (Except ε α) :=
  if m < n then some (execute answer (program m) (inTurn answer program m s).1 []).1 else none

variable (answer : Handler I ε σ) (program : ℕ → Program I ε α)

/-- The own events of a caller are those of its turn. -/
theorem ownEvents_inTurn (n m : ℕ) (s : σ) :
    ownEvents m (inTurn answer program n s).2 =
      if m < n then (execute answer (program m) (inTurn answer program m s).1 []).2.2 else [] := by
  induction n with
  | zero => rfl
  | succ n ih =>
    have split : ownEvents m (inTurn answer program (n + 1) s).2 =
        ownEvents m ((execute answer (program n) (inTurn answer program n s).1 []).2.2.map
          fun e => (n, e)) ++ ownEvents m (inTurn answer program n s).2 := by
      simp [inTurn, ownEvents]
    rw [split, ownEvents_map, ih]
    rcases Nat.lt_trichotomy n m with older | rfl | newer
    · rw [if_neg (by omega), if_neg (by omega), if_neg (by omega), List.nil_append]
    · simp
    · rw [if_neg (by omega), if_pos newer, if_pos (by omega), List.nil_append]

theorem inTurn_runs (n m : ℕ) (s : σ) :
    Runs (program m) [] (ownEvents m (inTurn answer program n s).2)
      (inTurnReturned answer program n s m) := by
  rw [ownEvents_inTurn, inTurnReturned]
  by_cases served : m < n
  · rw [if_pos served, if_pos served]
    exact execute_runs ..
  · rw [if_neg served, if_neg served]
    exact .stopped _ _

variable {answer program}

theorem Follows.inTurn {τ : Type} {step : τ → Event I ε → τ → Prop} (view : σ → τ)
    (law : ∀ t c, step (view t) ⟨c, some (answer t c).1⟩ (view (answer t c).2)) (n : ℕ) (s : σ) :
    Follows step (view s) ((Interactive.inTurn answer program n s).2.map Prod.snd)
      (view (Interactive.inTurn answer program n s).1) := by
  induction n with
  | zero => exact .start
  | succ n ih =>
    have next := Follows.execute law (program n) ih
    rw [← List.nil_append (List.map ..), execute_append] at next
    simpa [Interactive.inTurn, Function.comp_def] using next

end Turns

end Interactive
