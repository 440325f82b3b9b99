import KairosExecution.Production.Dispatch
import KairosExecution.Production.Signatures

/-! The terminal of a claimed wire effect. A dispatch that was the first to claim, and ends
before its deadline, submits one terminal exactly where the reads of the wall clock that stand
outside every handler pass: the one just after the claim, and, where the sender returned an
object, the two after it. -/

namespace KairosExecution.Production

open Python Interactive

variable {Digest : Type}

abbrev DispatchEvent (Digest : Type) := Event (dispatching Digest) Err

section Trace

/-- What a dispatch read of the wall clock, claimed first, was returned as an object, and
submitted, the oldest first. -/
structure WireTrace (Digest : Type) where
  walls : List (Except Err (Option Timestamp)) := []
  claims : List (ClaimRow Digest) := []
  objects : List Record := []
  terminals : List (TerminalRow Digest) := []

def WireTrace.add (t : WireTrace Digest) : DispatchEvent Digest → WireTrace Digest
  | ⟨.clock, some read⟩ => { t with walls := t.walls ++ [read] }
  | ⟨.claimWireOnce row, some (.ok true)⟩ => { t with claims := t.claims ++ [row] }
  | ⟨.send .., some (.ok answer)⟩ => { t with objects := t.objects ++ answer.asDict.toList }
  | ⟨.finishWire _ row, _⟩ => { t with terminals := t.terminals ++ [row] }
  | _ => t

def wireTrace (own : History (dispatching Digest) Err) : WireTrace Digest :=
  own.foldr (fun e t => t.add e) {}

/-- A read of the clock of the loop. -/
def loopRead : DispatchEvent Digest → Option (Except Err ℤ)
  | ⟨.loopTime, some read⟩ => some read
  | _ => none

/-- The reads of the clock of the loop, the latest first. -/
def loopReads (own : History (dispatching Digest) Err) : List (Except Err ℤ) := own.filterMap loopRead

/-- The read of the wall clock after the `n`th is not behind it, and before the expiry. -/
def WireTrace.Passes (t : WireTrace Digest) (expiry : Timestamp) (n : ℕ) : Prop :=
  ∃ before now, t.walls[n]? = some (.ok (some before)) ∧ t.walls[n + 1]? = some (.ok (some now)) ∧
    before ≤ now ∧ now < expiry

/-- The reads that no handler is around pass: the fifth, which follows the claim, and the two
after the sender where it returned an object, which has to have a canonical text. -/
def WireTrace.GuardsPass (p : Primitives Digest) (t : WireTrace Digest) (expiry : Timestamp) : Prop :=
  t.Passes expiry 3 ∧ ∀ response ∈ t.objects,
    p.canonical response ≠ none ∧ t.Passes expiry 6 ∧ t.Passes expiry 7

/-- One terminal was submitted, of the claim, and completed where an object was returned. -/
def WireTrace.Settled (t : WireTrace Digest) (row : ClaimRow Digest) : Prop :=
  ∃ terminal, t.terminals = [terminal] ∧ terminal.key = row.key ∧
    terminal.requestSha256 = row.requestSha256 ∧
    terminal.status = if t.objects = [] then .UNRESOLVED else .COMPLETED

/-- The clocks of a dispatch when it was started, which fix its deadline. -/
def Began (arguments : DispatchArguments Digest) (own : History (dispatching Digest) Err)
    (deadline : ℤ) : Prop :=
  ∃ started initial, (loopReads own).getLast? = some (.ok started) ∧
    (wireTrace own).walls.head? = some (.ok (some initial)) ∧
    deadline = arguments.deadline started initial

/-- A dispatch ends before its deadline, as far as it reads the clock of the loop. -/
def EndsInTime (arguments : DispatchArguments Digest) (own : History (dispatching Digest) Err) : Prop :=
  ∃ deadline, Began arguments own deadline ∧
    ∀ read ∈ loopReads own, ∃ time, read = .ok time ∧ time < deadline

/-- A claim that ends in time is settled exactly where the guards pass. -/
def TerminalKept (p : Primitives Digest) (arguments : DispatchArguments Digest)
    (own : History (dispatching Digest) Err) : Prop :=
  ∀ row ∈ (wireTrace own).claims, EndsInTime arguments own →
    ((wireTrace own).Settled row ↔ (wireTrace own).GuardsPass p arguments.expiry)

/-- The clock of the loop was read at the deadline, or not at all. -/
def Late (deadline : ℤ) (own : History (dispatching Digest) Err) : Prop :=
  ∃ read ∈ loopReads own, ∀ time, read = .ok time → deadline ≤ time

/-- Every way that the program ends, whatever it is answered. -/
abbrev Ends {α : Type} (post : Except Err α → History (dispatching Digest) Err → Prop)
    (program : Dispatching Digest α) (own : History (dispatching Digest) Err) : Prop :=
  Safe (fun _ _ => True) post program own

end Trace

section Growth

variable {own own' : History (dispatching Digest) Err} {arguments : DispatchArguments Digest}
  {deadline : ℤ} {p : Primitives Digest}

@[simp] theorem wireTrace_cons (e : DispatchEvent Digest) :
    wireTrace (e :: own) = (wireTrace own).add e := rfl

theorem WireTrace.add_walls (t : WireTrace Digest) (e : DispatchEvent Digest) :
    t.walls <+: (t.add e).walls := by
  unfold add
  split
  · exact List.prefix_append _ _
  · exact List.prefix_refl _
  · exact List.prefix_refl _
  · exact List.prefix_refl _
  · exact List.prefix_refl _

theorem walls_prefix (older : own <:+ own') : (wireTrace own).walls <+: (wireTrace own').walls := by
  obtain ⟨newer, rfl⟩ := older
  induction newer with
  | nil => exact List.prefix_refl _
  | cons e newer ih => exact ih.trans (WireTrace.add_walls _ e)

theorem Began.later (began : Began arguments own deadline) (older : own <:+ own') :
    Began arguments own' deadline := by
  obtain ⟨started, initial, loop, wall, eq⟩ := began
  refine ⟨started, initial, getLast?_of_suffix (older.filterMap loopRead) loop, ?_, eq⟩
  obtain ⟨newer, eq'⟩ := walls_prefix older
  rw [← eq', List.head?_append, wall, Option.some_or]

theorem Late.later (late : Late deadline own) (older : own <:+ own') : Late deadline own' := by
  obtain ⟨read, mem, after⟩ := late
  exact ⟨read, (older.filterMap loopRead).subset mem, after⟩

/-- What a late dispatch does is not asked. -/
theorem Late.terminalKept (late : Late deadline own) (began : Began arguments own deadline) :
    TerminalKept p arguments own := by
  rintro row - ⟨other, began', inTime⟩
  obtain ⟨started, initial, loop, wall, rfl⟩ := began
  obtain ⟨started', initial', loop', wall', rfl⟩ := began'
  obtain ⟨read, mem, after⟩ := late
  obtain ⟨time, rfl, before⟩ := inTime read mem
  have sameLoop := loop.symm.trans loop'
  have sameWall := wall.symm.trans wall'
  cases sameLoop
  cases sameWall
  exact absurd before (not_lt.2 (after time rfl))

end Growth

section Steps

variable {own : History (dispatching Digest) Err} {p : Primitives Digest}
  {arguments : DispatchArguments Digest} {row : ClaimRow Digest} {expiry high : Timestamp} {deadline : ℤ}

/-- Reads of the wall clock. -/
def WireTrace.read (t : WireTrace Digest) (reads : List (Except Err (Option Timestamp))) :
    WireTrace Digest :=
  { t with walls := t.walls ++ reads }

/-- A terminal that is submitted. -/
def WireTrace.submit (t : WireTrace Digest) (terminal : TerminalRow Digest) : WireTrace Digest :=
  { t with terminals := t.terminals ++ [terminal] }

/-- Objects that the sender returned. -/
def WireTrace.receive (t : WireTrace Digest) (objects : List Record) : WireTrace Digest :=
  { t with objects := t.objects ++ objects }

/-- A read that is not one of an aware time from the high water on and before the expiry. -/
def Misread (expiry high : Timestamp) (read : Except Err (Option Timestamp)) : Prop :=
  ∀ now, read = .ok (some now) → high ≤ now → expiry ≤ now

/-- A read of the wall clock passes, or is misread where it stands. -/
theorem freshTime_ends : Ends (fun r own' => Late deadline own' ∨ match r with
    | .ok now => high ≤ now ∧ now < expiry ∧ wireTrace own' = (wireTrace own).read [.ok (some now)]
    | .error _ => ∃ read, Misread expiry high read ∧ wireTrace own' = (wireTrace own).read [read])
    (freshTime expiry high deadline) own := by
  unfold freshTime
  apply Safe.ask_bind trivial
  · intro read
    apply Safe.lift_bind
    · intro now isAware
      rw [aware, required_eq_ok] at isAware
      subst isAware
      apply Safe.lift_bind
      · rintro ⟨⟩ forward
        rw [refuse_eq_ok, decide_eq_false_iff_not, not_lt] at forward
        apply Safe.lift_bind
        · rintro ⟨⟩ early
          rw [refuse_eq_ok, decide_eq_false_iff_not, not_le] at early
          apply Safe.ask_bind trivial
          · intro time
            apply Safe.lift_bind
            · rintro ⟨⟩ -
              exact .inr ⟨forward, early, rfl⟩
            · intro e late
              rw [refuse_eq_error, decide_eq_true_eq] at late
              left
              refine ⟨.ok time, List.mem_cons_self, ?_⟩
              rintro _ ⟨⟩
              exact late.1
          · intro e
            exact .inl ⟨.error e, List.mem_cons_self, nofun⟩
        · intro e late
          rw [refuse_eq_error, decide_eq_true_eq] at late
          refine .inr ⟨.ok (some now), ?_, rfl⟩
          rintro _ ⟨⟩ -
          exact late.1
      · intro e behind
        rw [refuse_eq_error, decide_eq_true_eq] at behind
        refine .inr ⟨.ok (some now), ?_, rfl⟩
        rintro _ ⟨⟩ forward
        exact absurd behind.1 (not_lt.2 forward)
    · intro e naive
      refine .inr ⟨.ok read, ?_, rfl⟩
      rintro now ⟨⟩
      cases naive
  · intro e
    exact .inr ⟨.error e, nofun, rfl⟩

/-- A terminal is submitted, however its writer ends. -/
theorem finishShielded_ends {status : TerminalStatus} {responseSha256 : Option Digest} :
    Ends (fun _ own' => Late deadline own' ∨
      wireTrace own' = (wireTrace own).submit (row.terminal status responseSha256))
      (finishShielded row status responseSha256 deadline) own := by
  unfold finishShielded
  apply Safe.ask_bind trivial
  · intro time
    apply Safe.lift_bind
    · rintro ⟨⟩ -
      apply Safe.guarded
      apply Safe.boundedBy
      · exact ⟨trivial, fun _ => .inr rfl⟩
      · intro own' left
        exact ⟨trivial, fun _ => left⟩
    · intro e late
      rw [refuse_eq_error, decide_eq_true_eq] at late
      left
      refine ⟨.ok time, List.mem_cons_self, ?_⟩
      rintro _ ⟨⟩
      exact late.1
  · intro e
    exact .inl ⟨.error e, List.mem_cons_self, nofun⟩

/-- What fails in a handler leaves what it did, and a terminal that is unresolved. -/
theorem orUnresolved_ends {α : Type} {message : String} {body : Dispatching Digest α}
    {post : Except Err α → History (dispatching Digest) Err → Prop} (ended : Ends post body own) :
    Ends (fun r own' => Late deadline own' ∨ match r with
      | .ok a => post (.ok a) own'
      | .error _ => ∃ e middle, middle <:+ own' ∧ post (.error e) middle ∧
        wireTrace own' = (wireTrace middle).submit (row.terminal .UNRESOLVED none))
      (orUnresolved row deadline message body) own := by
  have finishes : ∀ e e' middle, post (.error e) middle →
      Ends (fun r own' => Late deadline own' ∨ match r with
        | .ok a => post (.ok a) own'
        | .error _ => ∃ e middle, middle <:+ own' ∧ post (.error e) middle ∧
          wireTrace own' = (wireTrace middle).submit (row.terminal .UNRESOLVED none))
        (finishShielded row .UNRESOLVED none deadline >>= fun _ => Program.raise e') middle := by
    intro e e' middle failed
    apply Safe.seq finishShielded_ends
    · rintro ⟨⟩ own' older (late | submitted)
      · exact .inl late
      · exact .inr ⟨e, middle, older, failed, submitted⟩
    · rintro _ own' older (late | submitted)
      · exact .inl late
      · exact .inr ⟨e, middle, older, failed, submitted⟩
  apply Safe.handled ended
  intro r middle _ left
  match r with
  | .ok a => exact .inr left
  | .error e => cases e <;> exact finishes _ _ middle left

/-- The token is issued on two reads of the wall clock. -/
theorem issueToken_ends [DecidableEq Digest] {body : Record} :
    Ends (fun r own' => Late deadline own' ∨ match r with
      | .ok now => ∃ first, wireTrace own' = (wireTrace own).read [first, .ok (some now)]
      | .error _ => ∃ reads, wireTrace own' = (wireTrace own).read reads)
      (issueToken p arguments body high deadline) own := by
  unfold issueToken
  apply Safe.ask_bind trivial
  · rintro ⟨⟩
    apply Safe.seq freshTime_ends
    · rintro first own₁ - (late | ⟨-, -, read₁⟩)
      · exact Safe.of_post (fun _ _ => trivial) fun _ _ older => .inl (late.later older)
      apply Safe.seq freshTime_ends
      · rintro now own₂ - (late | ⟨-, -, read₂⟩)
        · exact Safe.of_post (fun _ _ => trivial) fun _ _ older => .inl (late.later older)
        have reads : wireTrace own₂ = (wireTrace own).read [.ok (some first), .ok (some now)] := by
          rw [read₂, read₁]
          simp [WireTrace.read, WireTrace.add]
        apply Safe.lift_bind
        · intro _ _
          exact .inr ⟨_, reads⟩
        · intro _ _
          exact .inr ⟨_, reads⟩
      · rintro e own₂ - (late | ⟨read, -, read₂⟩)
        · exact .inl late
        refine .inr ⟨[.ok (some first), read], ?_⟩
        rw [read₂, read₁]
        simp [WireTrace.read, WireTrace.add]
    · rintro e own₁ - (late | ⟨read, -, read₁⟩)
      · exact .inl late
      · exact .inr ⟨[read], by rw [read₁]; rfl⟩
  · intro e
    refine .inr ⟨[], ?_⟩
    simp [WireTrace.read, WireTrace.add]

/-- What a POST that fails has left: where an object was returned, it has no canonical text or
the read after it is misread. -/
def Unsent (p : Primitives Digest) (expiry high : Timestamp) (objects : List Record)
    (reads : List (Except Err (Option Timestamp))) : Prop :=
  objects = [] ∨ ∃ response, objects = [response] ∧
    (p.canonical response = none ∨ ∃ read, reads = [read] ∧ Misread expiry high read)

/-- The one POST returns an object with a canonical text, and reads the wall clock. -/
theorem sendOnce_ends {body : Record} :
    Ends (fun r own' => Late deadline own' ∨ match r with
      | .ok (response, _, now) => p.canonical response ≠ none ∧ high ≤ now ∧ now < arguments.expiry ∧
        wireTrace own' = ((wireTrace own).receive [response]).read [.ok (some now)]
      | .error _ => ∃ objects reads, Unsent p arguments.expiry high objects reads ∧
        wireTrace own' = ((wireTrace own).receive objects).read reads)
      (sendOnce p arguments body high deadline) own := by
  unfold sendOnce
  apply Safe.ask_bind trivial
  · intro answer
    have received : wireTrace (⟨.send arguments.request.method arguments.request.path body,
        some (.ok answer)⟩ :: own) = (wireTrace own).receive answer.asDict.toList := rfl
    have unsent : ∀ reads, (∃ read, reads = [read] ∧ Misread arguments.expiry high read) →
        Unsent p arguments.expiry high answer.asDict.toList reads := by
      intro reads misread
      cases answer.asDict with
      | none => exact .inl rfl
      | some response => exact .inr ⟨response, rfl, .inr misread⟩
    apply Safe.seq freshTime_ends
    · rintro now own₁ - (late | ⟨forward, early, read⟩)
      · exact Safe.of_post (fun _ _ => trivial) fun _ _ older => .inl (late.later older)
      rw [received] at read
      apply Safe.lift_bind
      · intro response isObject
        rw [responseObject, required_eq_ok] at isObject
        rw [isObject] at read
        apply Safe.lift_bind
        · intro text isText
          rw [canonicalText, required_eq_ok] at isText
          exact .inr ⟨by simp [isText], forward, early, read⟩
        · intro e noText
          rw [canonicalText, required_eq_error] at noText
          exact .inr ⟨_, _, .inr ⟨response, rfl, .inl noText.1⟩, read⟩
      · intro e noObject
        rw [responseObject, required_eq_error] at noObject
        rw [noObject.1] at read
        exact .inr ⟨_, _, .inl rfl, read⟩
    · rintro e own₁ - (late | ⟨read, misread, seen⟩)
      · exact .inl late
      · exact .inr ⟨_, _, unsent _ ⟨read, rfl, misread⟩, by rw [seen, received]⟩
  · intro e
    refine .inr ⟨[], [], .inl rfl, ?_⟩
    simp [WireTrace.receive, WireTrace.read, WireTrace.add]

theorem TerminalKept.of_trace {t : WireTrace Digest} {own' : History (dispatching Digest) Err}
    (eq : wireTrace own' = t)
    (same : ∀ row ∈ t.claims, t.Settled row ↔ t.GuardsPass p arguments.expiry) :
    TerminalKept p arguments own' := by
  intro row mem _
  rw [eq] at mem ⊢
  exact same row mem

/-- A read that is misread does not pass after the high water. -/
theorem Misread.fails {t : WireTrace Digest} {n : ℕ} {read : Except Err (Option Timestamp)}
    (misread : Misread expiry high read) (before : t.walls[n]? = some (.ok (some high)))
    (now : t.walls[n + 1]? = some read) : ¬t.Passes expiry n := by
  rintro ⟨high', now', before', eq, forward, early⟩
  rw [before] at before'
  rw [now] at eq
  cases before'
  cases eq
  exact absurd early (not_lt.2 (misread now' rfl forward))

/-- A read from the high water on and before the expiry passes. -/
theorem WireTrace.passes_of {t : WireTrace Digest} {n : ℕ} {now : Timestamp}
    (before : t.walls[n]? = some (.ok (some high)))
    (after : t.walls[n + 1]? = some (.ok (some now))) (forward : high ≤ now) (early : now < expiry) :
    t.Passes expiry n :=
  ⟨high, now, before, after, forward, early⟩

/-- Where nothing was submitted a guard has to have failed. -/
theorem WireTrace.unsettled_iff {t : WireTrace Digest} (none : t.terminals = [])
    (fails : ¬t.GuardsPass p expiry) : t.Settled row ↔ t.GuardsPass p expiry := by
  constructor
  · rintro ⟨terminal, submitted, -⟩
    rw [none] at submitted
    cases submitted
  · intro passes
    exact absurd passes fails

/-- What is left is settled, whatever a late dispatch goes on to do. -/
theorem Late.ends {α : Type} {m : Dispatching Digest α} (late : Late deadline own)
    (began : Began arguments own deadline) : Ends (fun _ own' => TerminalKept p arguments own') m own :=
  Safe.of_post (fun _ _ => trivial) fun _ _ newer => (late.later newer).terminalKept (began.later newer)

/-- What comes after the token settles the claim exactly where the guards pass. -/
theorem sendClaimed_ends {body : Record} {w₀ w₁ w₂ w₃ w₄ w₅ : Except Err (Option Timestamp)}
    (began : Began arguments own deadline)
    (trace : wireTrace own = ⟨[w₀, w₁, w₂, w₃, w₄, w₅, .ok (some high)], [row], [], []⟩)
    (claim : ∀ walls objects terminals,
      (⟨[w₀, w₁, w₂, w₃, w₄] ++ walls, [row], objects, terminals⟩ : WireTrace Digest).Passes
        arguments.expiry 3) :
    Ends (fun _ own' => TerminalKept p arguments own')
      (sendClaimed p arguments row body high deadline) own := by
  unfold sendClaimed
  apply Safe.seq (orUnresolved_ends sendOnce_ends)
  · rintro ⟨response, responseSha256, c⟩ own₁ older₁ (late | late | ⟨text, forward₁, early₁, read₁⟩)
    · exact late.ends (began.later older₁)
    · exact late.ends (began.later older₁)
    rw [trace] at read₁
    apply Safe.seq freshTime_ends
    · rintro d own₂ older₂ (late | ⟨forward₂, early₂, read₂⟩)
      · exact late.ends (began.later (older₁.trans older₂))
      rw [read₁] at read₂
      -- the terminal is completed, whatever the wall clock says after it
      have completed : ∀ walls own',
          wireTrace own' = ⟨[w₀, w₁, w₂, w₃, w₄, w₅, .ok (some high), .ok (some c), .ok (some d)] ++ walls,
            [row], [response], [row.terminal .COMPLETED (some responseSha256)]⟩ →
          TerminalKept p arguments own' := by
        intro walls own' eq
        apply TerminalKept.of_trace eq
        intro row' mem
        cases List.mem_singleton.1 mem
        refine iff_of_true ⟨_, rfl, rfl, rfl, rfl⟩ ⟨claim _ _ _, fun response' mem => ?_⟩
        cases List.mem_singleton.1 mem
        exact ⟨text, WireTrace.passes_of rfl rfl forward₁ early₁,
          WireTrace.passes_of rfl rfl forward₂ early₂⟩
      apply Safe.seq finishShielded_ends
      · rintro ⟨⟩ own₃ older₃ (late | submitted)
        · exact late.ends (began.later (older₁.trans (older₂.trans older₃)))
        rw [read₂] at submitted
        apply Safe.seq freshTime_ends
        · rintro now own₄ older₄ (late | ⟨-, -, read₄⟩)
          · exact late.ends (began.later (older₁.trans (older₂.trans (older₃.trans older₄))))
          exact completed _ _ (read₄.trans (by rw [submitted]; rfl))
        · rintro e own₄ older₄ (late | ⟨read, -, read₄⟩)
          · exact late.terminalKept (began.later (older₁.trans (older₂.trans (older₃.trans older₄))))
          exact completed _ _ (read₄.trans (by rw [submitted]; rfl))
      · rintro e own₃ older₃ (late | submitted)
        · exact late.terminalKept (began.later (older₁.trans (older₂.trans older₃)))
        exact completed [] _ (submitted.trans (by rw [read₂]; rfl))
    · rintro e own₂ older₂ (late | ⟨read, misread, read₂⟩)
      · exact late.terminalKept (began.later (older₁.trans older₂))
      rw [read₁] at read₂
      apply TerminalKept.of_trace read₂
      intro row' _
      apply WireTrace.unsettled_iff rfl
      rintro ⟨-, guards⟩
      exact misread.fails rfl rfl (guards response (by simp [WireTrace.read, WireTrace.receive])).2.2
  · rintro e own₁ older₁ (late | ⟨_, middle, kept, late | ⟨objects, reads, unsent, read₁⟩, submitted⟩)
    · exact late.terminalKept (began.later older₁)
    · exact (late.later kept).terminalKept (began.later older₁)
    rw [read₁, trace] at submitted
    apply TerminalKept.of_trace submitted
    intro row' mem
    cases List.mem_singleton.1 mem
    rcases unsent with rfl | ⟨response, rfl, failed⟩
    · exact iff_of_true ⟨_, rfl, rfl, rfl, rfl⟩ ⟨claim _ _ _, nofun⟩
    · -- an object was returned, and the terminal is unresolved
      apply iff_of_false
      · rintro ⟨terminal, only, -, -, status⟩
        cases List.singleton_inj.1 only
        cases status
      · rintro ⟨-, guards⟩
        obtain ⟨text, passes, -⟩ := guards response (by
          simp [WireTrace.read, WireTrace.receive, WireTrace.submit])
        rcases failed with noText | ⟨read, rfl, misread⟩
        · exact text noText
        · exact misread.fails rfl rfl passes

/-- What comes after a claim settles it exactly where the guards pass. -/
theorem dispatchClaimed_ends [DecidableEq Digest] {body : Record} {claimed : Bool}
    {w₀ w₁ w₂ : Except Err (Option Timestamp)} (began : Began arguments own deadline)
    (trace : wireTrace own = ⟨[w₀, w₁, w₂, .ok (some high)], if claimed then [row] else [], [], []⟩) :
    Ends (fun _ own' => TerminalKept p arguments own')
      (dispatchClaimed p arguments row body high deadline claimed) own := by
  unfold dispatchClaimed
  apply Safe.seq freshTime_ends
  · rintro a own₁ older₁ (late | ⟨forward₁, early₁, read₁⟩)
    · exact late.ends (began.later older₁)
    rw [trace] at read₁
    apply Safe.lift_bind
    · rintro ⟨⟩ first
      rw [refuse_eq_ok, Bool.not_eq_false'] at first
      subst first
      rw [if_pos rfl] at read₁
      have passes : ∀ walls objects terminals,
          (⟨[w₀, w₁, w₂, .ok (some high), .ok (some a)] ++ walls, [row], objects, terminals⟩ :
            WireTrace Digest).Passes arguments.expiry 3 :=
        fun walls objects terminals => WireTrace.passes_of rfl rfl forward₁ early₁
      apply Safe.seq (orUnresolved_ends issueToken_ends)
      · rintro b own₂ older₂ (late | late | ⟨first, read₂⟩)
        · exact late.ends (began.later (older₁.trans older₂))
        · exact late.ends (began.later (older₁.trans older₂))
        exact sendClaimed_ends (began.later (older₁.trans older₂)) (read₂.trans (by rw [read₁]; rfl))
          passes
      · rintro e own₂ older₂ (late | ⟨_, middle, kept, late | ⟨reads, read₂⟩, submitted⟩)
        · exact late.terminalKept (began.later (older₁.trans older₂))
        · exact (late.later kept).terminalKept (began.later (older₁.trans older₂))
        rw [read₂, read₁] at submitted
        apply TerminalKept.of_trace submitted
        intro row' mem
        cases List.mem_singleton.1 mem
        exact iff_of_true ⟨_, rfl, rfl, rfl, rfl⟩ ⟨passes _ _ _, nofun⟩
    · intro e again
      rw [refuse_eq_error, Bool.not_eq_true'] at again
      apply TerminalKept.of_trace read₁
      simp [again.1, WireTrace.read]
  · rintro e own₁ older₁ (late | ⟨read, misread, read₁⟩)
    · exact late.terminalKept (began.later older₁)
    rw [trace] at read₁
    apply TerminalKept.of_trace read₁
    intro row' _
    apply WireTrace.unsettled_iff rfl
    rintro ⟨passes, -⟩
    exact misread.fails rfl rfl passes

/-- A call that leaves no trace. -/
theorem guarded_quiet {c : DispatchCall Digest} {error : Err}
    (quiet : ∀ (t : WireTrace Digest) r, t.add ⟨c, some r⟩ = t) :
    Ends (fun _ own' => wireTrace own' = wireTrace own) (guarded error (dispatches c)) own := by
  apply Safe.guarded
  exact ⟨trivial, fun r => quiet _ r⟩

theorem verifiedBy_ends {typed : Record} :
    Ends (fun _ own' => wireTrace own' = wireTrace own) (verifiedBy arguments typed) own := by
  have asked : Ends (fun _ own' => wireTrace own' = wireTrace own) (do
      let message ← liftM (productionSignedMessage arguments.request.signingRequest.operation typed)
      dispatches (.verifySignature arguments.request.custodyBinding.walletAddress
        arguments.request.custodyBinding.chainId arguments.request.signingRequest.operation message
        arguments.request.signed.signature)) own := by
    apply Safe.lift_bind
    · intro message _
      exact ⟨trivial, fun r => rfl⟩
    · intro _ _
      rfl
  apply Safe.handled asked
  intro r own' _ same
  match r with
  | .ok verified => exact same
  | .error e => cases e <;> exact same

/-- What comes before a claim only reads the clocks. -/
theorem admitEffect_ends [DecidableEq Digest] {initial : Timestamp} :
    Ends (fun r own' => Late deadline own' ∨ match r with
      | .ok high => ∃ w₁ w₂, wireTrace own' = (wireTrace own).read [w₁, w₂, .ok (some high)]
      | .error _ => ∃ reads, wireTrace own' = (wireTrace own).read reads)
      (admitEffect p arguments initial deadline) own := by
  unfold admitEffect
  have none : (wireTrace own).read [] = wireTrace own := by simp [WireTrace.read]
  apply Safe.seq (guarded_quiet fun _ _ => rfl)
  · intro found own₁ _ same₁
    apply Safe.seq freshTime_ends
    · rintro w₁ own₂ - (late | ⟨-, -, read₂⟩)
      · exact Safe.of_post (fun _ _ => trivial) fun _ _ older => .inl (late.later older)
      rw [same₁] at read₂
      apply Safe.lift_bind
      · rintro ⟨⟩ -
        apply Safe.lift_bind
        · intro typed _
          apply Safe.seq verifiedBy_ends
          · intro verified own₃ _ same₃
            apply Safe.seq freshTime_ends
            · rintro w₂ own₄ - (late | ⟨-, -, read₄⟩)
              · exact Safe.of_post (fun _ _ => trivial) fun _ _ older => .inl (late.later older)
              have twice : wireTrace own₄ =
                  (wireTrace own).read [.ok (some w₁), .ok (some w₂)] := by
                rw [read₄, same₃, read₂]
                simp [WireTrace.read]
              apply Safe.lift_bind
              · rintro ⟨⟩ -
                apply Safe.seq (guarded_quiet fun _ _ => rfl)
                · rintro ⟨⟩ own₅ _ same₅
                  rw [twice] at same₅
                  apply freshTime_ends.mono
                  rintro (e | high) own₆ - (late | left)
                  · exact .inl late
                  · obtain ⟨read, -, read₆⟩ := left
                    refine .inr ⟨[.ok (some w₁), .ok (some w₂), read], ?_⟩
                    rw [read₆, same₅]
                    simp [WireTrace.read]
                  · exact .inl late
                  · obtain ⟨-, -, read₆⟩ := left
                    refine .inr ⟨.ok (some w₁), .ok (some w₂), ?_⟩
                    rw [read₆, same₅]
                    simp [WireTrace.read]
                · intro e own₅ _ same₅
                  exact .inr ⟨_, same₅.trans twice⟩
              · intro _ _
                exact .inr ⟨_, twice⟩
            · rintro e own₄ - (late | ⟨read, -, read₄⟩)
              · exact .inl late
              refine .inr ⟨[.ok (some w₁), read], ?_⟩
              rw [read₄, same₃, read₂]
              simp [WireTrace.read]
          · intro e own₃ _ same₃
            exact .inr ⟨_, same₃.trans read₂⟩
        · intro _ _
          exact .inr ⟨_, read₂⟩
      · intro _ _
        exact .inr ⟨_, read₂⟩
    · rintro e own₂ - (late | ⟨read, -, read₂⟩)
      · exact .inl late
      · exact .inr ⟨[read], by rw [read₂, same₁]⟩
  · intro e own₁ _ same₁
    exact .inr ⟨[], same₁.trans none.symm⟩

/-- Where nothing was claimed there is nothing to settle. -/
theorem TerminalKept.unclaimed (none : (wireTrace own).claims = []) : TerminalKept p arguments own := by
  intro row mem
  rw [none] at mem
  cases mem

theorem dispatchOneBounded_ends [DecidableEq Digest] {initial : Timestamp}
    (began : Began arguments own deadline)
    (trace : wireTrace own = ⟨[.ok (some initial)], [], [], []⟩) :
    Ends (fun _ own' => TerminalKept p arguments own')
      (dispatchOneBounded p arguments initial deadline) own := by
  unfold dispatchOneBounded
  apply Safe.lift_bind
  · intro body _
    apply Safe.seq admitEffect_ends
    · rintro high own₁ older₁ (late | ⟨w₁, w₂, read₁⟩)
      · exact late.ends (began.later older₁)
      rw [trace] at read₁
      have claims : Ends (fun r own₂ => match r with
          | .ok claimed => wireTrace own₂ = ⟨[.ok (some initial), w₁, w₂, .ok (some high)],
              if claimed then [arguments.claimRow p body] else [], [], []⟩
          | .error _ => (wireTrace own₂).claims = [])
          (guarded (.dispatch "wire claim outcome is unresolved; do not retry")
            (dispatches (.claimWireOnce (arguments.claimRow p body)))) own₁ := by
        refine ⟨trivial, fun r => ?_⟩
        match r with
        | .ok claimed =>
          show wireTrace (⟨.claimWireOnce (arguments.claimRow p body), some (.ok claimed)⟩ :: own₁) = _
          rw [wireTrace_cons, read₁]
          cases claimed with
          | true => rfl
          | false => rfl
        | .error e =>
          have none : (wireTrace own₁).claims = [] := by rw [read₁]; rfl
          cases e <;> exact none
      apply Safe.seq claims
      · intro claimed own₂ older₂ claim
        exact dispatchClaimed_ends (began.later (older₁.trans older₂)) claim
      · intro e own₂ _ none
        exact TerminalKept.unclaimed none
    · rintro e own₁ older₁ (late | ⟨reads, read₁⟩)
      · exact late.terminalKept (began.later older₁)
      rw [trace] at read₁
      exact TerminalKept.unclaimed (by rw [read₁]; rfl)
  · intro _ _
    exact TerminalKept.unclaimed (by rw [trace])

/-- However a dispatch ends, what it claimed first it settles exactly where the guards pass. -/
theorem dispatchOne_ends [DecidableEq Digest] :
    Ends (fun _ own => TerminalKept p arguments own) (dispatchOne p arguments) [] := by
  unfold dispatchOne
  apply Safe.ask_bind trivial
  · intro started
    apply Safe.ask_bind trivial
    · intro read
      apply Safe.lift_bind
      · intro initial isAware
        rw [aware, required_eq_ok] at isAware
        subst isAware
        apply Safe.lift_bind
        · rintro ⟨⟩ -
          apply Safe.lift_bind
          · rintro ⟨⟩ -
            have began : Began arguments [⟨.clock, some (.ok (some initial))⟩,
                ⟨.loopTime, some (.ok started)⟩] (arguments.deadline started initial) :=
              ⟨started, initial, rfl, rfl, rfl⟩
            apply Safe.onTimeout
            apply Safe.boundedBy
            · exact dispatchOneBounded_ends began rfl
            · intro own kept
              exact ⟨trivial, fun _ => kept⟩
          · intro _ _
            exact TerminalKept.unclaimed rfl
        · intro _ _
          exact TerminalKept.unclaimed rfl
      · intro _ _
        exact TerminalKept.unclaimed rfl
    · intro _
      exact TerminalKept.unclaimed rfl
  · intro _
    exact TerminalKept.unclaimed rfl

end Steps

/-- A dispatch that claims an effect, and ends before its deadline, submits one terminal of the
claim, completed exactly where the sender returned an object, if and only if the guards that
stand outside every handler pass. -/
theorem wire_terminal_iff [DecidableEq Digest] {p : Primitives Digest}
    {arguments : DispatchArguments Digest} {own : History (dispatching Digest) Err}
    {result : Except Err Record} {row : ClaimRow Digest}
    (run : Runs (dispatchOne p arguments) [] own (some result))
    (claimed : row ∈ (wireTrace own).claims) (inTime : EndsInTime arguments own) :
    (wireTrace own).Settled row ↔ (wireTrace own).GuardsPass p arguments.expiry := by
  have owed : Dutiful (fun _ _ => True) ([] : History (dispatching Digest) Err) := trivial
  exact (dispatchOne_ends.sound run owed).2 result rfl row claimed inTime

section Samples

/-- The body of the sample limit order. -/
def sampleWireBody : Record := [
  ("signature", .str sampleSignature), ("timeInForce", .str "IOC"), ("limitPrice", .str "1"),
  ("quantity", .str "1"), ("id", .str sampleOrderId), ("instrument", .str "BTC"), ("side", .str "BUY"),
  ("leverage", .int 1), ("chainId", .int 1)]

def sampleDispatch : DispatchArguments ℕ where
  context := sampleContext
  databaseUuid := 7
  request := {
    context := sampleContext
    databaseUuid := 7
    decisionId := "decision"
    effectId := "20"
    effectType := .PLACE_ORDER
    method := "POST"
    path := "/api/v2/order/limit"
    body := sampleWireBody
    signingRequest := sampleRequest .newLimitOrder "limit" 30
    custodyBinding := sampleBinding
    signed := ⟨24, "wallet", 25, sampleSignature⟩ }

/-- A store, an authority and a sender that answer, a loop that stands, and a wall clock of
given reads. -/
def sampleWire : Handler (dispatching ℕ) Err (List Timestamp)
  | read :: reads, .clock => (.ok (some read), reads)
  | [], .clock => (.ok none, [])
  | reads, .loopTime => (.ok 0, reads)
  | reads, .loadClaim contextSha256 key =>
    (.ok (some (⟨key, 24, contextSha256⟩, some ⟨key, 24, .COMPLETED, some 25⟩)), reads)
  | reads, .verifySignature .. => (.ok true, reads)
  | reads, .verifyEffect .. => (.ok (), reads)
  | reads, .claimWireOnce _ => (.ok true, reads)
  | reads, .send .. => (.ok (.dict [("ok", .bool true)]), reads)
  | reads, .finishWire .. => (.ok (), reads)
  | reads, .timedOut => (.ok false, reads)

/-- The sample dispatch under a wall clock, as it ended and with its events. -/
def sampleSent (reads : List Timestamp) :
    Except Err Record × List Timestamp × History (dispatching ℕ) Err :=
  execute sampleWire (dispatchOne samplePrimitives sampleDispatch) reads []

abbrev sampleClaim : ClaimRow ℕ := sampleDispatch.claimRow samplePrimitives sampleWireBody

theorem sampleSent_runs (reads : List Timestamp) :
    Runs (dispatchOne samplePrimitives sampleDispatch) [] (sampleSent reads).2.2
      (some (sampleSent reads).1) :=
  execute_runs sampleWire _ reads []

/-- The sample dispatch ends in time, and claims. -/
theorem sampleSent_ends (reads : List Timestamp)
    (began : (loopReads (sampleSent reads).2.2).getLast? = some (.ok 0) ∧
      (wireTrace (sampleSent reads).2.2).walls.head? = some (.ok (some (seconds 10))))
    (stands : (loopReads (sampleSent reads).2.2).all (· = .ok 0)) :
    EndsInTime sampleDispatch (sampleSent reads).2.2 := by
  refine ⟨_, ⟨0, seconds 10, began.1, began.2, rfl⟩, fun read mem => ?_⟩
  have zero := of_decide_eq_true (List.all_eq_true.1 stands read mem)
  exact ⟨0, zero, by decide⟩

/-- A wall clock that stands: the effect is claimed, its object returned, and one terminal of the
claim submitted, which is completed. -/
theorem wire_terminal_iff_sample :
    (wireTrace (sampleSent (List.replicate 10 (seconds 10))).2.2).Settled sampleClaim := by
  have run := sampleSent_runs (List.replicate 10 (seconds 10))
  have claimed : sampleClaim ∈ (wireTrace (sampleSent (List.replicate 10 (seconds 10))).2.2).claims := by
    decide +kernel
  have walls : (wireTrace (sampleSent (List.replicate 10 (seconds 10))).2.2).walls =
      List.replicate 10 (.ok (some (seconds 10))) := by decide +kernel
  have inTime := sampleSent_ends (List.replicate 10 (seconds 10)) (by decide +kernel) (by decide +kernel)
  apply (wire_terminal_iff run claimed inTime).2
  have passes : ∀ n < 9, (wireTrace (sampleSent (List.replicate 10 (seconds 10))).2.2).Passes
      sampleDispatch.expiry n := by
    intro n small
    have wall : ∀ k < 10, (wireTrace (sampleSent (List.replicate 10 (seconds 10))).2.2).walls[k]? =
        some (.ok (some (seconds 10))) := by
      intro k bound
      rw [walls, List.getElem?_replicate, if_pos bound]
    exact WireTrace.passes_of (wall n (by omega)) (wall (n + 1) (by omega)) le_rfl (by decide)
  exact ⟨passes 3 (by omega), fun _ _ => ⟨nofun, passes 6 (by omega), passes 7 (by omega)⟩⟩

/-- A wall clock that moves back after the sender returned its object: the effect is claimed and
its response received, and no terminal is submitted. -/
theorem response_unrecorded :
    ∃ result own row, Runs (dispatchOne samplePrimitives sampleDispatch) [] own (some result) ∧
      row ∈ (wireTrace own).claims ∧ EndsInTime sampleDispatch own ∧ (wireTrace own).objects.length = 1 ∧
      (wireTrace own).terminals = [] ∧ ¬(wireTrace own).Settled row := by
  have run := sampleSent_runs (List.replicate 8 (seconds 10) ++ [seconds 9])
  have none : (wireTrace (sampleSent (List.replicate 8 (seconds 10) ++ [seconds 9])).2.2).terminals =
      [] := by decide +kernel
  refine ⟨_, _, sampleClaim, run, by decide +kernel, sampleSent_ends _ (by decide +kernel)
    (by decide +kernel), by decide +kernel, none, ?_⟩
  rintro ⟨terminal, submitted, -⟩
  rw [none] at submitted
  cases submitted

end Samples

end KairosExecution.Production
