import KairosExecution.Interactive.OneShot
import KairosExecution.Production.Claims

/-! Coroutines of the production boundary, and the claim store that they share. A
cancellation is raised at an await and is no `Exception`. A transaction on the claim store
that is not acknowledged may have committed or not, and between any two events other
parties may have written claims and terminals under keys of their own. Rows are only ever
added. -/

namespace KairosExecution.Production

open Python Interactive

section Exceptions

variable {I : Interface} {α β : Type}

/-- `except Exception: ...` -/
def onException (body : Program I Err α) (handler : Err → Program I Err α) : Program I Err α := do
  match ← body.attempt with
  | .ok a => return a
  | .error .cancelled => Program.raise .cancelled
  | .error error => handler error

/-- `except Exception: raise error from None` -/
def guarded (error : Err) (body : Program I Err α) : Program I Err α :=
  onException body fun _ => Program.raise error

/-- `async with asyncio.timeout_at(...)`: a cancellation that the timeout caused becomes
its own. -/
def boundedBy (timedOut : Program I Err Bool) (body : Program I Err α) : Program I Err α := do
  match ← body.attempt with
  | .error .cancelled => do
    let expired ← timedOut
    Program.raise (if expired then .timeout else .cancelled)
  | result => liftM result

/-- `except TimeoutError: raise error from None` -/
def onTimeout (error : Err) (body : Program I Err α) : Program I Err α := do
  match ← body.attempt with
  | .error .timeout => Program.raise error
  | result => liftM result

variable {duty : History I Err → I.Call → Prop} {p : Program I Err α} {h : History I Err}
  {Q : α → History I Err → Prop} {R : β → History I Err → Prop}

/-- Where nothing is promised of a raise, a handler that only raises promises what its body
does. -/
theorem Meets.onException {handler : Err → Program I Err α} (m : Meets duty p h Q)
    (handled : ∀ e h', h <:+ h' → Meets duty (handler e) h' Q) :
    Meets duty (Production.onException p handler) h Q := by
  apply Meets.attempt_bind m
  · intro a h' _ q
    exact Meets.pure q
  · intro e h' older
    cases e with
    | cancelled => exact Meets.raise
    | _ => exact handled _ h' older

theorem Meets.guarded {error : Err} (m : Meets duty p h Q) :
    Meets duty (Production.guarded error p) h Q :=
  Meets.onException m fun _ _ _ => Meets.raise

/-- A guarded call, with the event that it leaves where it is answered. -/
theorem Meets.guarded_ask_bind {error : Err} {c : I.Call} {f : I.Answer c → Program I Err β}
    (d : duty h c) (k : ∀ a, Meets duty (f a) (⟨c, some (.ok a)⟩ :: h) R) :
    Meets duty (Production.guarded error (Program.ask c) >>= f) h R := by
  refine ⟨d, fun r => ?_⟩
  cases r with
  | ok a => exact k a
  | error e => cases e <;> exact fun _ eq => nomatch eq

theorem Meets.boundedBy {timedOut : Program I Err Bool} (m : Meets duty p h Q)
    (asked : ∀ h', h <:+ h' → Meets duty timedOut h' fun _ _ => True) :
    Meets duty (Production.boundedBy timedOut p) h Q := by
  apply Meets.attempt_bind m
  · intro a h' _ q
    exact Meets.pure q
  · intro e h' older
    cases e with
    | cancelled => exact Meets.bind (asked h' older) fun _ _ _ _ => Meets.raise
    | _ => exact Meets.raise

theorem Meets.onTimeout {error : Err} (m : Meets duty p h Q) :
    Meets duty (Production.onTimeout error p) h Q := by
  apply Meets.attempt_bind m
  · intro a h' _ q
    exact Meets.pure q
  · intro e h' older
    cases e with
    | timeout => exact Meets.raise
    | _ => exact Meets.raise

variable {post : History I Err → Prop}

/-- What a program leaves, however it ends, it leaves within a handler that only raises. -/
theorem Safe.guarded {error : Err} (s : Safe duty (fun _ h' => post h') p h) :
    Safe duty (fun _ h' => post h') (Production.guarded error p) h := by
  apply Safe.handled s
  intro r h' _ left
  match r with
  | .ok a => exact left
  | .error e => cases e <;> exact left

theorem Safe.boundedBy {timedOut : Program I Err Bool} (s : Safe duty (fun _ h' => post h') p h)
    (asked : ∀ h', post h' → Safe duty (fun _ h'' => post h'') timedOut h') :
    Safe duty (fun _ h' => post h') (Production.boundedBy timedOut p) h := by
  apply Safe.handled s
  intro r h' _ left
  match r with
  | .ok a => exact left
  | .error e =>
    cases e with
    | cancelled => exact Safe.seq (asked h' left) (fun _ _ _ kept => kept) fun _ _ _ kept => kept
    | _ => exact left

theorem Safe.onTimeout {error : Err} (s : Safe duty (fun _ h' => post h') p h) :
    Safe duty (fun _ h' => post h') (Production.onTimeout error p) h := by
  apply Safe.handled s
  intro r h' _ left
  match r with
  | .ok a => exact left
  | .error e => cases e <;> exact left

end Exceptions

section Store

variable {Digest : Type} [DecidableEq Digest]

/-- Rows of one store are those of the other, with more after them. -/
structure ClaimStore.Extends (s s' : ClaimStore Digest) : Prop where
  claims : s.claims <+: s'.claims
  terminals : s.terminals <+: s'.terminals

/-- A claim that is answered has committed; one that is not may have. -/
def ClaimStore.Claims (s : ClaimStore Digest) (row : ClaimRow Digest) (s' : ClaimStore Digest) :
    Option (Except Err Bool) → Prop
  | some (.ok first) => s.claim row = .ok (s', first)
  | _ => s' = s ∨ ∃ first, s.claim row = .ok (s', first)

/-- A terminal that is acknowledged has committed; one that is not may have. -/
def ClaimStore.Finishes (s : ClaimStore Digest) (contextSha256 : Digest) (row : TerminalRow Digest)
    (s' : ClaimStore Digest) : Option (Except Err Unit) → Prop
  | some (.ok ()) => s.finish contextSha256 row = .ok s'
  | _ => s' = s ∨ s.finish contextSha256 row = .ok s'

/-- A claim that is read is there. -/
def ClaimStore.Loads (s : ClaimStore Digest) (contextSha256 : Digest) (key : ClaimKey) :
    Option (Except Err (Option (ClaimRow Digest × Option (TerminalRow Digest)))) → Prop
  | some (.ok found) => s.load contextSha256 key = .ok found
  | _ => True

variable {s s' m : ClaimStore Digest} {row : ClaimRow Digest} {contextSha256 : Digest}
  {terminal : TerminalRow Digest}

namespace ClaimStore

omit [DecidableEq Digest] in
theorem Extends.refl : s.Extends s := ⟨List.prefix_refl _, List.prefix_refl _⟩

omit [DecidableEq Digest] in
theorem Extends.trans (first : s.Extends m) (second : m.Extends s') : s.Extends s' :=
  ⟨first.claims.trans second.claims, first.terminals.trans second.terminals⟩

omit [DecidableEq Digest] in
/-- The row that a key has stays the one it has. -/
theorem Extends.find_claim (more : s.Extends s') {key : ClaimKey}
    (found : s.claims.find? (·.key = key) = some row) : s'.claims.find? (·.key = key) = some row := by
  obtain ⟨rows, eq⟩ := more.claims
  rw [← eq, List.find?_append, found, Option.some_or]

omit [DecidableEq Digest] in
theorem Extends.find_terminal (more : s.Extends s') {key : ClaimKey}
    (found : s.terminals.find? (·.key = key) = some terminal) :
    s'.terminals.find? (·.key = key) = some terminal := by
  obtain ⟨rows, eq⟩ := more.terminals
  rw [← eq, List.find?_append, found, Option.some_or]

/-- A claim that commits is the first, under a key that is free, or repeats one. -/
theorem claim_ok {first : Bool} (ok : s.claim row = .ok (s', first)) :
    s.Extends s' ∧
    (first = true ∧ s.claims.find? (·.key = row.key) = none ∧
        s' = { s with claims := s.claims ++ [row] } ∨
      first = false ∧ s' = s) := by
  unfold claim at ok
  obtain ⟨⟨claims, first'⟩, inserted, ok⟩ := bind_eq_ok.1 ok
  cases ok
  unfold insertClaim at inserted
  split at inserted
  next free =>
    cases inserted
    exact ⟨⟨List.prefix_append _ _, List.prefix_refl _⟩, .inl ⟨rfl, free, rfl⟩⟩
  next prior found =>
    obtain ⟨_, -, inserted⟩ := bind_eq_ok.1 inserted
    cases inserted
    exact ⟨.refl, .inr ⟨rfl, rfl⟩⟩

/-- A terminal that commits resolves its exact claim, and is there. -/
theorem finish_ok (ok : s.finish contextSha256 terminal = .ok s') :
    s.Extends s' ∧ terminal.valid = true ∧
    (∃ prior, s.claims.find? (·.key = terminal.key) = some prior ∧
      prior.requestSha256 = terminal.requestSha256 ∧ prior.contextSha256 = contextSha256) ∧
    (∃ row, s'.terminals.find? (·.key = terminal.key) = some row ∧
      row.status = terminal.status ∧ row.resultSha256 = terminal.resultSha256) ∧
    (s' = s ∨ s.terminals.find? (·.key = terminal.key) = none ∧
      s' = { s with terminals := s.terminals ++ [terminal] }) := by
  unfold finish at ok
  obtain ⟨_, valid, ok⟩ := bind_eq_ok.1 ok
  obtain ⟨prior, claimed, ok⟩ := bind_eq_ok.1 ok
  obtain ⟨_, same, ok⟩ := bind_eq_ok.1 ok
  rw [refuse_eq_ok, Bool.not_eq_false'] at valid
  rw [required_eq_ok] at claimed
  simp only [refuse_eq_ok, decide_eq_false_iff_not, not_or, not_not] at same
  split at ok
  next free =>
    cases ok
    refine ⟨⟨List.prefix_refl _, List.prefix_append _ _⟩, valid, ⟨prior, claimed, same⟩, ?_,
      .inr ⟨free, rfl⟩⟩
    refine ⟨terminal, ?_, rfl, rfl⟩
    simp [List.find?_append, free]
  next existing found =>
    obtain ⟨_, agreed, ok⟩ := bind_eq_ok.1 ok
    cases ok
    simp only [refuse_eq_ok, decide_eq_false_iff_not, not_or, not_not] at agreed
    exact ⟨.refl, valid, ⟨prior, claimed, same⟩, ⟨existing, found, agreed⟩, .inl rfl⟩

/-- A terminal that conflicts with one that is there raises. -/
theorem finish_conflict {existing : TerminalRow Digest}
    (found : s.terminals.find? (·.key = terminal.key) = some existing)
    (conflict : existing.status ≠ terminal.status ∨ existing.resultSha256 ≠ terminal.resultSha256) :
    ∃ error, s.finish contextSha256 terminal = .error error := by
  cases finished : s.finish contextSha256 terminal with
  | error error => exact ⟨error, rfl⟩
  | ok s' =>
    obtain ⟨more, -, -, ⟨row, kept, status, result⟩, -⟩ := finish_ok finished
    rw [more.find_terminal found] at kept
    cases kept
    rcases conflict with other | other
    · exact absurd status other
    · exact absurd result other

theorem Claims.extends {outcome : Option (Except Err Bool)} (claims : s.Claims row s' outcome) :
    s.Extends s' := by
  have either : s' = s ∨ ∃ first, s.claim row = .ok (s', first) := by
    match outcome, claims with
    | some (.ok first), claims => exact .inr ⟨first, claims⟩
    | some (.error _), claims => exact claims
    | none, claims => exact claims
  rcases either with rfl | ⟨first, ok⟩
  · exact .refl
  · exact (claim_ok ok).1

theorem Finishes.extends {outcome : Option (Except Err Unit)}
    (finishes : s.Finishes contextSha256 terminal s' outcome) : s.Extends s' := by
  have either : s' = s ∨ s.finish contextSha256 terminal = .ok s' := by
    match outcome, finishes with
    | some (.ok ()), finishes => exact .inr finishes
    | some (.error _), finishes => exact finishes
    | none, finishes => exact finishes
  rcases either with rfl | ok
  · exact .refl
  · exact (finish_ok ok).1

end ClaimStore

end Store

end KairosExecution.Production
