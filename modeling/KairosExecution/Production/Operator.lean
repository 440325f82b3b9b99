import KairosExecution.Production.Runs

/-! The history of the operator's latch. Every observation is later than the one before,
and either repeats its command or revises it by one version that names the command it
follows; a revision that arms follows one that is not armed, and the arm it names was
accepted and is named by no other revision. The trigger reads only the latest row for
most of this; under the law the latest row is the last one. -/

namespace KairosExecution.Production

open Python Table

variable {Digest : Type} [DecidableEq Digest]

section Law

/-- A row of owner arms is the one that an observation names. -/
def OwnerArmRow.bound (arm : OwnerArmRow Digest) (row : OperatorRow Digest) : Prop :=
  arm.contextSha256 = row.contextSha256 ∧ row.payload.armRequestSha256 = some arm.requestSha256 ∧
    row.payload.armNonce = some arm.nonce

/-- What a revision that arms has to do with the row it directly follows. -/
structure Arms (arms : List (OwnerArmRow Digest)) (prior new : OperatorRow Digest) : Prop where
  disarmed : prior.payload.state ≠ .ARMED
  expires : ∃ expiry ∈ new.payload.expiresAt, new.observedAt < expiry
  accepted : ∃ arm ∈ arms, arm.bound new

/-- A new revision of the command. -/
structure Revises (arms : List (OwnerArmRow Digest)) (prior new : OperatorRow Digest) : Prop where
  version : new.version = prior.version + 1
  command : new.payload.previousCommandSha256 = prior.payload.commandSha256
  changed : prior.payload.changedAt ≤ new.payload.changedAt
  armed : new.payload.state = .ARMED → Arms arms prior new

/-- A row observes the revision before it once more, or is a new one. -/
inductive Continues (arms : List (OwnerArmRow Digest)) (prior new : OperatorRow Digest) : Prop
  | observes (version : new.version = prior.version)
      (payload : undated new.payload = undated prior.payload)
  | revises (revision : Revises arms prior new)

/-- The law of a context's history, by the owner arms that were accepted. -/
structure OperatorHistory (arms : List (OwnerArmRow Digest)) (history : List (OperatorRow Digest)) :
    Prop where
  increasing : history.Pairwise fun a b => a.observedAt < b.observedAt
  starts : ∀ first ∈ history.head?, first.payload.state = .DISARMED
  continues : history.IsChain (Continues arms)
  once : ∀ a ∈ history, ∀ b ∈ history, a.payload.state = .ARMED → b.payload.state = .ARMED →
    a.payload.armNonce = b.payload.armNonce →
    a.payload.armRequestSha256 = b.payload.armRequestSha256 → a.version = b.version

end Law

section Steps

variable {p : Primitives Digest} {db db' : Database Digest} {history : List (OperatorRow Digest)}
  {prior new : OperatorRow Digest} {arms arms' : List (OwnerArmRow Digest)}

omit [DecidableEq Digest] in
/-- Of rows in the order of their times the latest is the last. -/
theorem latest_eq_getLast? (increasing : history.Pairwise fun a b => a.observedAt < b.observedAt) :
    latest history = history.getLast? := by
  cases history with
  | nil => rfl
  | cons row rows =>
    show some (rows.foldl later row) = (row :: rows).getLast?
    induction rows generalizing row with
    | nil => rfl
    | cons next rows ih =>
      rw [List.pairwise_cons] at increasing
      obtain ⟨before, increasing⟩ := increasing
      have passed : later row next = next := by
        rw [later, if_pos (.inl (before next (List.mem_cons_self ..)))]
      rw [List.foldl_cons, passed, ih next increasing, List.getLast?_cons_cons]

theorem armAccepted_iff {contextSha256 : Digest} {nonce : Option String}
    {requestSha256 : Option Digest} : armAccepted db contextSha256 nonce requestSha256 = true ↔
      ∃ arm ∈ db.ownerArms, arm.contextSha256 = contextSha256 ∧ requestSha256 = some arm.requestSha256 ∧
        nonce = some arm.nonce := by
  rw [armAccepted, List.any_eq_true]
  constructor
  · rintro ⟨arm, mem, bound⟩
    obtain ⟨context, request, same⟩ := of_decide_eq_true bound
    exact ⟨arm, mem, context, request.symm, same.symm⟩
  · rintro ⟨arm, mem, context, request, same⟩
    exact ⟨arm, mem, decide_eq_true ⟨context, request.symm, same.symm⟩⟩

omit [DecidableEq Digest] in
/-- More owner arms accept no less. -/
theorem Continues.mono (continues : Continues arms prior new) (more : arms ⊆ arms') :
    Continues arms' prior new := by
  cases continues with
  | observes version payload => exact .observes version payload
  | revises revision =>
    apply Continues.revises
    refine ⟨revision.version, revision.command, revision.changed, fun armed => ?_⟩
    obtain ⟨disarmed, expires, arm, accepted, bound⟩ := revision.armed armed
    exact ⟨disarmed, expires, arm, more accepted, bound⟩

omit [DecidableEq Digest] in
theorem OperatorHistory.mono (law : OperatorHistory arms history) (more : arms ⊆ arms') :
    OperatorHistory arms' history :=
  ⟨law.increasing, law.starts, law.continues.imp fun _ _ continues => continues.mono more, law.once⟩

/-- What the trigger has let pass after a prior row. -/
theorem enforceRevision_ok (passed : enforceRevision db new prior = .ok ()) :
    prior.observedAt < new.observedAt ∧ Continues db.ownerArms prior new ∧
      (undated new.payload = undated prior.payload ∧ new.version = prior.version ∨
        (new.payload.state = .ARMED → ∀ row ∈ db.history new.contextSha256,
          row.payload.state = .ARMED → row.payload.armNonce = new.payload.armNonce →
          row.payload.armRequestSha256 ≠ new.payload.armRequestSha256)) := by
  unfold enforceRevision at passed
  obtain ⟨_, later', passed⟩ := bind_eq_ok.1 passed
  rw [refuse_eq_ok, decide_eq_false_iff_not, not_le] at later'
  by_cases same : new.version = prior.version
  · rw [if_pos same, refuse_eq_ok, decide_eq_false_iff_not, not_not] at passed
    exact ⟨later', .observes same passed, .inl ⟨passed, same⟩⟩
  rw [if_neg same] at passed
  obtain ⟨_, armed, passed⟩ := bind_eq_ok.1 passed
  simp only [refuse_eq_ok, decide_eq_false_iff_not, not_or, not_not, not_lt] at passed
  obtain ⟨version, command, changed⟩ := passed
  have checked : new.payload.state = .ARMED → checkRearm db new prior = .ok () := by
    intro isArmed
    rwa [rearmed, if_pos isArmed] at armed
  refine ⟨later', .revises ⟨version, command, changed, fun isArmed => ?_⟩, .inr fun isArmed => ?_⟩
  · obtain ⟨_, fresh, rest⟩ := bind_eq_ok.1 (checked isArmed)
    obtain ⟨_, -, rest⟩ := bind_eq_ok.1 rest
    simp only [refuse_eq_ok, decide_eq_false_iff_not, not_or, Bool.not_eq_true',
      Bool.not_eq_false, Option.any_eq_true, decide_eq_true_eq] at fresh
    simp only [refuse_eq_ok, Bool.not_eq_false'] at rest
    obtain ⟨disarmed, -, -, expires⟩ := fresh
    exact ⟨disarmed, expires, armAccepted_iff.1 rest⟩
  · obtain ⟨_, -, rest⟩ := bind_eq_ok.1 (checked isArmed)
    obtain ⟨_, unused, -⟩ := bind_eq_ok.1 rest
    rw [refuse_eq_ok, List.any_eq_false] at unused
    intro row mem rowArmed nonce request
    exact unused row mem (by simp [rowArmed, nonce, request])

omit [DecidableEq Digest] in
/-- A row that continues the last one, and that names no arm of another revision, keeps
the law. -/
theorem OperatorHistory.append (law : OperatorHistory arms history)
    (last : history.getLast? = some prior) (passed : prior.observedAt < new.observedAt)
    (continues : Continues arms prior new)
    (unused : undated new.payload = undated prior.payload ∧ new.version = prior.version ∨
      (new.payload.state = .ARMED → ∀ row ∈ history, row.payload.state = .ARMED →
        row.payload.armNonce = new.payload.armNonce →
        row.payload.armRequestSha256 ≠ new.payload.armRequestSha256)) :
    OperatorHistory arms (history ++ [new]) := by
  have isLast : prior ∈ history := List.mem_of_getLast? last
  have before : ∀ row ∈ history, row.observedAt < new.observedAt := by
    intro row mem
    -- the last row is the latest
    obtain ⟨earlier, split⟩ := List.getLast?_eq_some_iff.1 last
    rw [split] at mem
    rcases List.mem_append.1 mem with old | same
    · have increasing := law.increasing
      rw [split] at increasing
      exact ((List.pairwise_append.1 increasing).2.2 row old prior (by simp)).trans passed
    · obtain rfl := List.mem_singleton.1 same
      exact passed
  have apart : ∀ row ∈ history, row.payload.state = .ARMED → new.payload.state = .ARMED →
      row.payload.armNonce = new.payload.armNonce →
      row.payload.armRequestSha256 = new.payload.armRequestSha256 → row.version = new.version := by
    intro row mem rowArmed armed nonce request
    rcases unused with ⟨payload, version⟩ | unused
    · rw [undated, undated, LiveOperatorState.mk.injEq] at payload
      obtain ⟨-, -, state, nonce', request', -⟩ := payload
      rw [version]
      apply law.once row mem prior isLast rowArmed (state ▸ armed)
      · rw [nonce, nonce']
      · rw [request, request']
    · exact absurd request (unused armed row mem rowArmed nonce)
  constructor
  · rw [List.pairwise_append]
    exact ⟨law.increasing, List.pairwise_singleton _ _, fun row mem row' isNew =>
      List.mem_singleton.1 isNew ▸ before row mem⟩
  · intro first isFirst
    have nonempty : history ≠ [] := List.ne_nil_of_mem isLast
    rw [List.head?_append_of_ne_nil _ nonempty] at isFirst
    exact law.starts first isFirst
  · apply law.continues.append (List.isChain_singleton _)
    rintro row isLast' row' isNew
    rw [last] at isLast'
    cases isLast'
    cases isNew
    exact continues
  · intro a inA b inB armedA armedB nonce request
    rcases List.mem_append.1 inA with oldA | newA <;> rcases List.mem_append.1 inB with oldB | newB
    · exact law.once a oldA b oldB armedA armedB nonce request
    · obtain rfl := List.mem_singleton.1 newB
      exact apart a oldA armedA armedB nonce request
    · obtain rfl := List.mem_singleton.1 newA
      exact (apart b oldB armedB armedA nonce.symm request.symm).symm
    · obtain rfl := List.mem_singleton.1 newA
      obtain rfl := List.mem_singleton.1 newB
      rfl

/-- What the trigger lets pass keeps the law of the context it is of. -/
theorem OperatorHistory.observed {clock : Timestamp}
    (law : OperatorHistory db.ownerArms (db.history new.contextSha256))
    (passed : enforceOperatorAppend db new clock = .ok ()) :
    OperatorHistory db.ownerArms (db.history new.contextSha256 ++ [new]) := by
  unfold enforceOperatorAppend at passed
  obtain ⟨_, -, passed⟩ := bind_eq_ok.1 passed
  rw [latest_eq_getLast? law.increasing] at passed
  cases last : (db.history new.contextSha256).getLast? with
  | none =>
    rw [last] at passed
    simp only [refuse_eq_ok, decide_eq_false_iff_not, not_not] at passed
    rw [List.getLast?_eq_none_iff.1 last, List.nil_append]
    refine ⟨List.pairwise_singleton _ _, ?_, List.isChain_singleton _, ?_⟩
    · rintro first isFirst
      cases isFirst
      exact passed
    · intro a inA b inB _ _ _ _
      rw [List.mem_singleton.1 inA, List.mem_singleton.1 inB]
  | some prior =>
    rw [last] at passed
    obtain ⟨later', continues, unused⟩ := enforceRevision_ok passed
    exact law.append last later' continues unused

theorem operatorHistory_committed
    (law : ∀ contextSha256, OperatorHistory db.ownerArms (db.history contextSha256))
    (committed : Committed db db') (contextSha256 : Digest) :
    OperatorHistory db'.ownerArms (db'.history contextSha256) := by
  cases committed with
  | kept => exact law contextSha256
  | ownerArm row => exact (law contextSha256).mono (List.subset_append_left _ _)
  | operator row clock passed =>
    show OperatorHistory db.ownerArms
      ((db.operatorObservations ++ [row]).filter (·.contextSha256 = contextSha256))
    rw [List.filter_append]
    by_cases mine : row.contextSha256 = contextSha256
    · subst mine
      rw [List.filter_singleton, decide_eq_true rfl]
      exact (law row.contextSha256).observed passed
    · rw [List.filter_singleton, decide_eq_false mine, cond_false, List.append_nil]
      exact law contextSha256
  | risk row fresh => exact law contextSha256
  | claim claims => exact law contextSha256
  | reservation new nowAt fresh inserted =>
    obtain ⟨-, -, -, rfl⟩ := insertReservation_ok inserted
    exact law contextSha256
  | receipt row fresh => exact law contextSha256
  | release new clock inserted =>
    obtain ⟨-, -, -, rfl⟩ := insertRelease_ok inserted
    exact law contextSha256

/-- The history of every context keeps the law along every run. -/
theorem operatorHistory_lawful (run : Run p db) (contextSha256 : Digest) :
    OperatorHistory db.ownerArms (db.history contextSha256) := by
  revert contextSha256
  apply run.induction
  · intro schema databaseUuid accountSha256 contextSha256
    show OperatorHistory [] []
    exact ⟨.nil, fun _ isFirst => (nomatch isFirst), .nil, fun _ mem => (nomatch mem)⟩
  · intro db db' law committed contextSha256
    exact operatorHistory_committed law committed contextSha256

end Steps

/-- A latch that was disarmed and is armed. -/
theorem operatorHistory_lawful_sample :
    ((sampleDatabase .V2).history 11).map (·.payload.state) = [.DISARMED, .ARMED] ∧
    OperatorHistory (sampleDatabase .V2).ownerArms ((sampleDatabase .V2).history 11) :=
  ⟨by decide +kernel, operatorHistory_lawful (sampleDatabase_run .V2) 11⟩

end KairosExecution.Production
