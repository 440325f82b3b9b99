import KairosExecution.Production.WireTerminals

/-! One POST for each wire effect. Any number of calls of `dispatch_one` interleave at every
await on one claim store, to which others write as well; each may be cancelled or lost at any of
them. The sender is called under a claim that was the first of its effect, so once for each
effect; by then the signature was proved and verified, the authority accepted before the claim
and again after it, and the last read of the wall clock was before the expiry. -/

namespace KairosExecution.Production

open Python Interactive

variable {Digest : Type} [DecidableEq Digest]

section Law

/-- What a call does to the claim store, or reads of it. -/
def dispatchEffect (s s' : ClaimStore Digest) : DispatchEvent Digest → Prop
  | ⟨.claimWireOnce row, outcome⟩ => s.Claims row s' outcome
  | ⟨.finishWire contextSha256 row, outcome⟩ => s.Finishes contextSha256 row s' outcome
  | ⟨.loadClaim contextSha256 key, outcome⟩ => s' = s ∧ s.Loads contextSha256 key outcome
  | _ => s' = s

/-- A call, before which others may have written what they will. -/
def DispatchStep (s : ClaimStore Digest) (e : DispatchEvent Digest) (s' : ClaimStore Digest) : Prop :=
  ∃ m, s.Extends m ∧ dispatchEffect m s' e

/-- A call of the sender. -/
def DispatchCall.sends : DispatchCall Digest → Bool
  | .send .. => true
  | _ => false

/-- The key of a wire claim that was the first. -/
def wonKey : DispatchEvent Digest → Option ClaimKey
  | ⟨.claimWireOnce row, some (.ok true)⟩ => some row.key
  | _ => none

/-- A read of the wall clock. -/
def wallRead : DispatchEvent Digest → Option (Except Err (Option Timestamp))
  | ⟨.clock, some read⟩ => some read
  | _ => none

variable (p : Primitives Digest)

/-- Callers of `dispatch_one`, what each has returned, and the claim store after their events. -/
structure DispatchSession (arguments : ℕ → DispatchArguments Digest)
    (returned : ℕ → Option (Except Err Record)) (start s : ClaimStore Digest)
    (h : List (ℕ × DispatchEvent Digest)) : Prop where
  callers : ∀ n, Runs (dispatchOne p (arguments n)) [] (ownEvents n h) (returned n)
  store : Follows DispatchStep start (events h) s

variable (arguments : DispatchArguments Digest)

/-- The claim of the signature. -/
def DispatchArguments.signingKey : ClaimKey :=
  ⟨.TYPED_SIGNING, arguments.request.custodyBinding.custodyReference,
    arguments.request.signingRequest.requestId⟩

/-- `verify_effect_async`, which accepts. -/
abbrev DispatchArguments.accepted : DispatchEvent Digest :=
  ⟨.verifyEffect arguments.request.signingRequest arguments.request.custodyBinding
    arguments.request.decisionId arguments.request.effectId, some (.ok ())⟩

/-- The store told that the signature was claimed and completed. -/
def Proved (own : History (dispatching Digest) Err) : Prop :=
  ∃ found, ⟨.loadClaim (p.sha256 (.context arguments.context)) arguments.signingKey,
    some (.ok found)⟩ ∈ own ∧ provesSignature p arguments found = true

/-- The signature was verified for the message. -/
def VerifiedFor (message : Record) (own : History (dispatching Digest) Err) : Prop :=
  ∃ signed, productionSignedMessage arguments.request.signingRequest.operation message = .ok signed ∧
    ⟨.verifySignature arguments.request.custodyBinding.walletAddress
      arguments.request.custodyBinding.chainId arguments.request.signingRequest.operation signed
      arguments.request.signed.signature, some (.ok true)⟩ ∈ own

/-- The message of a request, the digests that were made for it, and the body that it has. -/
structure Exact (message body : Record) : Prop where
  typed : typedMessage p arguments.request.signingRequest arguments.request.custodyBinding = .ok message
  signature : p.sha256 (.signature arguments.request.signed.signature) =
    arguments.request.signed.signatureSha256
  request : signingDigest p arguments.request.signingRequest message =
    arguments.request.signed.requestSha256
  body : productionWireBody arguments.request.signingRequest.operation message
    arguments.request.signed.signature = .ok body

/-- What has been done where the body may be sent. -/
structure Sendable (message body : Record) (own : History (dispatching Digest) Err) : Prop where
  derived : Exact p arguments message body
  proved : Proved p arguments own
  verified : VerifiedFor arguments message own
  claimed : ∃ newer older, own = newer ++ ⟨.claimWireOnce (arguments.claimRow p body),
    some (.ok true)⟩ :: older ∧ arguments.accepted ∈ newer ∧ arguments.accepted ∈ older
  inTime : ∃ now, Interactive.latest wallRead own = some (.ok (some now)) ∧ now < arguments.expiry

/-- The sender returned the object. -/
def Responded (response : Record) (own : History (dispatching Digest) Err) : Prop :=
  ∃ method path body answer, ⟨.send method path body, some (.ok answer)⟩ ∈ own ∧
    answer.asDict = some response

/-- What the sender may be given, once, and what a completed terminal carries. -/
def SendDuty (own : History (dispatching Digest) Err) : DispatchCall Digest → Prop
  | .send method path body =>
    (method = arguments.request.method ∧ path = arguments.request.path) ∧
    (∃ message, Sendable p arguments message body own) ∧ ∀ x ∈ own, x.call.sends = false
  | .finishWire _ row => row.status = .COMPLETED → ∃ response, Responded response own ∧
    row.key = arguments.key p ∧ row.resultSha256 = some (p.sha256 (.response response))
  | _ => True

end Law

section Steps

variable {s s' start : ClaimStore Digest} {e : DispatchEvent Digest}

theorem dispatchEffect_extends (effect : dispatchEffect s s' e) : s.Extends s' := by
  obtain ⟨c, outcome⟩ := e
  cases c with
  | claimWireOnce row => exact ClaimStore.Claims.extends effect
  | finishWire contextSha256 row => exact ClaimStore.Finishes.extends effect
  | loadClaim contextSha256 key =>
    obtain ⟨rfl, -⟩ := effect
    exact .refl
  | _ =>
    cases effect
    exact .refl

theorem DispatchStep.extends (step : DispatchStep s e s') : s.Extends s' := by
  obtain ⟨m, others, effect⟩ := step
  exact others.trans (dispatchEffect_extends effect)

omit [DecidableEq Digest] in
theorem wonKey_eq {key : ClaimKey} (grant : wonKey e = some key) :
    ∃ row, e = ⟨.claimWireOnce row, some (.ok true)⟩ ∧ row.key = key := by
  unfold wonKey at grant
  split at grant
  next row =>
    cases grant
    exact ⟨row, rfl, rfl⟩
  next => cases grant

/-- A claim that was the first found its key free, and its row is there. -/
theorem DispatchStep.claimed {row : ClaimRow Digest}
    (step : DispatchStep s ⟨.claimWireOnce row, some (.ok true)⟩ s') :
    s.claims.find? (·.key = row.key) = none ∧ s'.claims.find? (·.key = row.key) = some row := by
  obtain ⟨m, others, effect⟩ := step
  rcases (ClaimStore.claim_ok effect).2 with ⟨-, free, rfl⟩ | ⟨again, -⟩
  · constructor
    · cases found : s.claims.find? (·.key = row.key) with
      | none => rfl
      | some prior =>
        rw [others.find_claim found] at free
        cases free
    · simp [List.find?_append, free]
  · cases again

/-- A terminal that is acknowledged is there. -/
theorem DispatchStep.finished {contextSha256 : Digest} {row : TerminalRow Digest}
    (step : DispatchStep s ⟨.finishWire contextSha256 row, some (.ok ())⟩ s') :
    ∃ terminal, s'.terminals.find? (·.key = row.key) = some terminal ∧
      terminal.status = row.status ∧ terminal.resultSha256 = row.resultSha256 := by
  obtain ⟨m, others, effect⟩ := step
  exact (ClaimStore.finish_ok effect).2.2.2.1

/-- A claim that is read is there, with its terminal. -/
theorem DispatchStep.loaded {contextSha256 : Digest} {key : ClaimKey} {claim : ClaimRow Digest}
    {terminal : TerminalRow Digest}
    (step : DispatchStep s ⟨.loadClaim contextSha256 key, some (.ok (some (claim, some terminal)))⟩ s') :
    s'.claims.find? (·.key = key) = some claim ∧ s'.terminals.find? (·.key = key) = some terminal := by
  obtain ⟨m, others, rfl, loads⟩ := step
  have load : s'.load contextSha256 key = .ok (some (claim, some terminal)) := loads
  unfold ClaimStore.load at load
  split at load
  next => cases load
  next row found =>
    obtain ⟨_, -, load⟩ := bind_eq_ok.1 load
    have pair := Option.some.inj (Except.ok.inj load)
    rw [Prod.mk.injEq] at pair
    exact ⟨pair.1 ▸ found, pair.2⟩

/-- A wire claim that was the first found its key free, and holds it. -/
theorem dispatch_grants : Grants (@DispatchStep Digest _) wonKey
    fun s key => ∃ row, s.claims.find? (·.key = key) = some row where
  kept s e s' key step held := by
    obtain ⟨row, found⟩ := held
    exact ⟨row, step.extends.find_claim found⟩
  free s e s' key step grant held := by
    obtain ⟨row, rfl, rfl⟩ := wonKey_eq grant
    obtain ⟨prior, found⟩ := held
    rw [step.claimed.1] at found
    cases found
  taken s e s' key step grant := by
    obtain ⟨row, rfl, rfl⟩ := wonKey_eq grant
    exact ⟨row, step.claimed.2⟩

end Steps

section Duty

variable {p : Primitives Digest} {arguments : DispatchArguments Digest}
  {own : History (dispatching Digest) Err} {message body : Record} {expiry high : Timestamp}
  {deadline : ℤ} {row : ClaimRow Digest}

omit [DecidableEq Digest] in
theorem Responded.later {response : Record} {own' : History (dispatching Digest) Err}
    (responded : Responded response own) (older : own <:+ own') : Responded response own' := by
  obtain ⟨method, path, body, answer, mem, isObject⟩ := responded
  exact ⟨method, path, body, answer, older.subset mem, isObject⟩

/-- A fresh time was read just now, before the expiry. -/
theorem freshTime_meets : Meets (SendDuty p arguments) (freshTime expiry high deadline) own
    fun now own' => now < expiry ∧ ∃ time,
      own' = ⟨.loopTime, some (.ok time)⟩ :: ⟨.clock, some (.ok (some now))⟩ :: own := by
  unfold freshTime
  apply Meets.ask_bind trivial
  intro read
  apply Meets.lift_bind
  intro now isAware
  rw [aware, required_eq_ok] at isAware
  subst isAware
  apply Meets.lift_bind
  rintro ⟨⟩ -
  apply Meets.lift_bind
  rintro ⟨⟩ early
  rw [refuse_eq_ok, decide_eq_false_iff_not, not_le] at early
  apply Meets.ask_bind trivial
  intro time
  apply Meets.lift_bind
  rintro ⟨⟩ -
  exact Meets.pure ⟨early, time, rfl⟩

/-- A terminal that is written is acknowledged. -/
theorem finishShielded_meets {status : TerminalStatus} {responseSha256 : Option Digest}
    (may : ∀ time, SendDuty p arguments (⟨.loopTime, some (.ok time)⟩ :: own)
      (.finishWire row.contextSha256 (row.terminal status responseSha256))) :
    Meets (SendDuty p arguments) (finishShielded row status responseSha256 deadline) own
      fun _ own' => ⟨.finishWire row.contextSha256 (row.terminal status responseSha256),
        some (.ok ())⟩ ∈ own' := by
  unfold finishShielded
  apply Meets.ask_bind trivial
  intro time
  apply Meets.lift_bind
  rintro ⟨⟩ -
  apply Meets.guarded
  apply Meets.boundedBy
  · exact Meets.ask (may time) fun _ => List.mem_cons_self
  · intro own' _
    exact Meets.ask trivial fun _ => trivial

/-- What fails after the claim is finished as unresolved, which asks nothing, and raises. -/
theorem orUnresolved_meets {α : Type} {message : String} {program : Dispatching Digest α}
    {Q : α → History (dispatching Digest) Err → Prop} (m : Meets (SendDuty p arguments) program own Q) :
    Meets (SendDuty p arguments) (orUnresolved row deadline message program) own Q := by
  have unresolved : ∀ e own', Meets (SendDuty p arguments)
      (finishShielded row .UNRESOLVED none deadline >>= fun _ => Program.raise e : Dispatching Digest α)
      own' Q := by
    intro e own'
    have may : ∀ time, SendDuty p arguments (⟨.loopTime, some (.ok time)⟩ :: own')
        (.finishWire row.contextSha256 (row.terminal .UNRESOLVED none)) := by
      intro time completed
      cases completed
    apply Meets.bind (finishShielded_meets may)
    intro _ _ _ _
    exact Meets.raise
  unfold orUnresolved
  apply Meets.attempt_bind m
  · intro a own' _ q
    exact Meets.pure q
  · intro e own' _
    cases e with
    | cancelled => exact unresolved _ own'
    | _ => exact unresolved _ own'

/-- Where the verifier answers that it verified, it did so for the message. -/
theorem verifiedBy_meets : Meets (SendDuty p arguments) (verifiedBy arguments message) own
    fun verified own' => verified = true → VerifiedFor arguments message own' := by
  unfold verifiedBy
  apply Meets.onException
  · apply Meets.lift_bind
    intro signed isSigned
    apply Meets.ask trivial
    rintro _ rfl
    exact ⟨signed, isSigned, List.mem_cons_self⟩
  · intro e own' _
    apply Meets.pure
    intro no
    cases no

omit [DecidableEq Digest] in
theorem verifiedBy_calls : Calls (fun c : DispatchCall Digest => c.sends = false)
    (verifiedBy arguments message) := by
  unfold verifiedBy onException
  apply Calls.bind
  · apply Calls.attempt
    apply Calls.bind .lift
    intro signed
    exact Calls.ask rfl
  · intro r
    match r with
    | .ok a => exact .pure
    | .error e => cases e <;> exact trivial

/-- What has been done before the claim; nothing was sent. -/
structure Admissible (p : Primitives Digest) (arguments : DispatchArguments Digest) (message : Record)
    (own : History (dispatching Digest) Err) : Prop where
  proved : Proved p arguments own
  verified : VerifiedFor arguments message own
  accepted : arguments.accepted ∈ own
  unsent : ∀ x ∈ own, x.call.sends = false

theorem admitEffect_meets {initial : Timestamp}
    (typed : typedMessage p arguments.request.signingRequest arguments.request.custodyBinding = .ok message)
    (unsent : ∀ x ∈ own, x.call.sends = false) :
    Meets (SendDuty p arguments) (admitEffect p arguments initial deadline) own
      fun _ own' => Admissible p arguments message own' := by
  unfold admitEffect verifyEffectAsync
  apply Meets.guarded_ask_bind trivial
  intro found
  apply Meets.bind freshTime_meets
  rintro w₁ _ - ⟨-, t₁, rfl⟩
  apply Meets.lift_bind
  rintro ⟨⟩ proves
  rw [refuse_eq_ok, Bool.not_eq_false'] at proves
  apply Meets.lift_bind
  intro typed' isTyped
  cases typed.symm.trans isTyped
  apply Meets.bind (Meets.frame verifiedBy_meets verifiedBy_calls)
  rintro verified _ - ⟨yes, newer, rfl, quiet⟩
  apply Meets.bind freshTime_meets
  rintro w₂ _ - ⟨-, t₂, rfl⟩
  apply Meets.lift_bind
  rintro ⟨⟩ isVerified
  rw [refuse_eq_ok, Bool.not_eq_false'] at isVerified
  obtain ⟨signed, isSigned, asked⟩ := yes isVerified
  apply Meets.guarded_ask_bind trivial
  rintro ⟨⟩
  apply Meets.mono freshTime_meets
  rintro w₃ _ - ⟨-, t₃, rfl⟩
  refine ⟨⟨found, ?_, proves⟩, ⟨signed, isSigned, ?_⟩, ?_, ?_⟩
  · simp [DispatchArguments.signingKey]
  · simp only [List.mem_cons]
    exact .inr (.inr (.inr (.inr (.inr asked))))
  · simp
  · intro x mem
    simp only [List.mem_cons, List.mem_append] at mem
    grind [DispatchCall.sends]

/-- The authority accepts again, and the token is consumed before the expiry. -/
theorem issueToken_meets : Meets (SendDuty p arguments) (issueToken p arguments body high deadline) own
    fun now own' => now < arguments.expiry ∧ ∃ first t₁ t₂, own' = ⟨.loopTime, some (.ok t₂)⟩ ::
      ⟨.clock, some (.ok (some now))⟩ :: ⟨.loopTime, some (.ok t₁)⟩ ::
      ⟨.clock, some (.ok (some first))⟩ :: arguments.accepted :: own := by
  unfold issueToken verifyEffectAsync
  apply Meets.ask_bind trivial
  rintro ⟨⟩
  apply Meets.bind freshTime_meets
  rintro first _ - ⟨-, t₁, rfl⟩
  apply Meets.bind freshTime_meets
  rintro now _ - ⟨early, t₂, rfl⟩
  apply Meets.lift_bind
  intro _ _
  exact Meets.pure ⟨early, first, t₁, t₂, rfl⟩

theorem sendOnce_meets (may : SendDuty p arguments own
      (.send arguments.request.method arguments.request.path body)) :
    Meets (SendDuty p arguments) (sendOnce p arguments body high deadline) own
      fun sent own' => Responded sent.1 own' ∧ sent.2.1 = p.sha256 (.response sent.1) := by
  unfold sendOnce
  apply Meets.ask_bind may
  intro answer
  apply Meets.bind freshTime_meets
  rintro now _ - ⟨-, t, rfl⟩
  apply Meets.lift_bind
  intro response isObject
  rw [responseObject, required_eq_ok] at isObject
  apply Meets.lift_bind
  intro _ _
  exact Meets.pure ⟨⟨_, _, _, answer, by simp, isObject⟩, rfl⟩

/-- What has been done where a response is returned. -/
structure Answered (p : Primitives Digest) (arguments : DispatchArguments Digest) (response : Record)
    (own : History (dispatching Digest) Err) : Prop where
  responded : Responded response own
  finished : ∃ body, ⟨.finishWire (p.sha256 (.context arguments.context))
    ((arguments.claimRow p body).terminal .COMPLETED (some (p.sha256 (.response response)))),
    some (.ok ())⟩ ∈ own

theorem sendClaimed_meets (may : SendDuty p arguments own
      (.send arguments.request.method arguments.request.path body)) :
    Meets (SendDuty p arguments)
      (sendClaimed p arguments (arguments.claimRow p body) body high deadline) own
      fun response own' => Answered p arguments response own' := by
  unfold sendClaimed
  apply Meets.bind (orUnresolved_meets (sendOnce_meets may))
  rintro ⟨response, responseSha256, now⟩ own₁ - ⟨responded, digest⟩
  dsimp only at responded digest
  subst digest
  apply Meets.bind freshTime_meets
  rintro w₁ own₂ older₂ -
  have responded₂ := responded.later older₂
  apply Meets.bind (finishShielded_meets fun time _ =>
    ⟨response, responded₂.later (List.suffix_cons _ _), rfl, rfl⟩)
  intro _ own₃ older₃ finished
  apply Meets.bind freshTime_meets
  rintro w₂ own₄ older₄ -
  exact Meets.pure ⟨(responded₂.later older₃).later older₄, body, older₄.subset finished⟩

/-- What comes after the claim sends what was admitted before it, if the claim was the first. -/
theorem dispatchClaimed_meets {claimed : Bool} (derived : Exact p arguments message body)
    (admissible : Admissible p arguments message own) :
    Meets (SendDuty p arguments)
      (dispatchClaimed p arguments (arguments.claimRow p body) body high deadline claimed)
      (⟨.claimWireOnce (arguments.claimRow p body), some (.ok claimed)⟩ :: own)
      fun response own' => Answered p arguments response own' := by
  obtain ⟨⟨found, loaded, proves⟩, ⟨signed, isSigned, asked⟩, accepted, unsent⟩ := admissible
  unfold dispatchClaimed
  apply Meets.bind freshTime_meets
  rintro w₁ _ - ⟨-, t₁, rfl⟩
  apply Meets.lift_bind
  rintro ⟨⟩ first
  rw [refuse_eq_ok, Bool.not_eq_false'] at first
  subst first
  apply Meets.bind (orUnresolved_meets issueToken_meets)
  rintro w₂ _ - ⟨early, w₃, t₂, t₃, rfl⟩
  apply sendClaimed_meets
  refine ⟨⟨rfl, rfl⟩, ⟨message, derived, ⟨found, ?_, proves⟩, ⟨signed, isSigned, ?_⟩, ?_, w₂, rfl, early⟩, ?_⟩
  · simp [loaded]
  · simp [asked]
  · refine ⟨[_, _, _, _, arguments.accepted, _, _], own, rfl, ?_, accepted⟩
    simp
  · intro x mem
    simp only [List.mem_cons] at mem
    grind [DispatchCall.sends]

theorem validateEffect_ok {request : WireRequest Digest} (h : validateEffect p request = .ok message) :
    typedMessage p request.signingRequest request.custodyBinding = .ok message ∧
    p.sha256 (.signature request.signed.signature) = request.signed.signatureSha256 ∧
    signingDigest p request.signingRequest message = request.signed.requestSha256 := by
  unfold validateEffect at h
  obtain ⟨_, -, h⟩ := bind_eq_ok.1 h
  obtain ⟨typed, isTyped, h⟩ := bind_eq_ok.1 h
  rw [instead_eq_ok] at isTyped
  obtain ⟨_, -, h⟩ := bind_eq_ok.1 h
  obtain ⟨_, -, h⟩ := bind_eq_ok.1 h
  obtain ⟨_, -, h⟩ := bind_eq_ok.1 h
  obtain ⟨_, -, h⟩ := bind_eq_ok.1 h
  obtain ⟨_, -, h⟩ := bind_eq_ok.1 h
  obtain ⟨_, -, h⟩ := bind_eq_ok.1 h
  obtain ⟨_, signature, h⟩ := bind_eq_ok.1 h
  obtain ⟨_, digest, h⟩ := bind_eq_ok.1 h
  obtain ⟨_, -, h⟩ := bind_eq_ok.1 h
  obtain ⟨_, -, h⟩ := bind_eq_ok.1 h
  obtain ⟨_, -, h⟩ := bind_eq_ok.1 h
  obtain ⟨_, -, h⟩ := bind_eq_ok.1 h
  cases h
  simp only [refuse_eq_ok, decide_eq_false_iff_not, not_or, not_not] at signature digest
  exact ⟨isTyped, signature.2.1, digest⟩

/-- The body is derived from the message that was validated, not from the body of the caller. -/
theorem prepareEffect_ok {initial : Timestamp} (h : prepareEffect p arguments initial = .ok body) :
    ∃ message, Exact p arguments message body := by
  unfold prepareEffect at h
  obtain ⟨_, -, h⟩ := bind_eq_ok.1 h
  obtain ⟨message, validated, h⟩ := bind_eq_ok.1 h
  obtain ⟨_, -, h⟩ := bind_eq_ok.1 h
  obtain ⟨body', isDerived, h⟩ := bind_eq_ok.1 h
  obtain ⟨_, -, h⟩ := bind_eq_ok.1 h
  cases h
  obtain ⟨typed, signature, request⟩ := validateEffect_ok validated
  exact ⟨message, typed, signature, request, isDerived⟩

theorem dispatchOne_meets : Meets (SendDuty p arguments) (dispatchOne p arguments) []
    fun response own => Answered p arguments response own := by
  unfold dispatchOne
  apply Meets.ask_bind trivial
  intro started
  apply Meets.ask_bind trivial
  intro read
  apply Meets.lift_bind
  intro initial _
  apply Meets.lift_bind
  rintro ⟨⟩ -
  apply Meets.lift_bind
  rintro ⟨⟩ -
  apply Meets.onTimeout
  apply Meets.boundedBy
  · unfold dispatchOneBounded
    apply Meets.lift_bind
    intro body prepared
    obtain ⟨message, derived⟩ := prepareEffect_ok prepared
    apply Meets.bind (admitEffect_meets derived.typed (by simp [DispatchCall.sends]))
    intro high own _ admissible
    apply Meets.guarded_ask_bind trivial
    intro claimed
    exact dispatchClaimed_meets derived admissible
  · intro own _
    exact Meets.ask trivial fun _ => trivial

end Duty

section Session

variable {p : Primitives Digest} {arguments : ℕ → DispatchArguments Digest}
  {returned : ℕ → Option (Except Err Record)} {start s : ClaimStore Digest}
  {h : List (ℕ × DispatchEvent Digest)}

namespace DispatchSession

/-- The row of a claim that was the first is there from then on. -/
theorem claimed (f : Follows DispatchStep start (events h) s) {n : ℕ} {row : ClaimRow Digest}
    (mem : ⟨.claimWireOnce row, some (.ok true)⟩ ∈ ownEvents n h) :
    s.claims.find? (·.key = row.key) = some row :=
  f.since (mem_events mem) (fun _ _ step => step.claimed.2) fun _ _ _ step found =>
    step.extends.find_claim found

theorem finished (f : Follows DispatchStep start (events h) s) {n : ℕ} {contextSha256 : Digest}
    {row : TerminalRow Digest}
    (mem : ⟨.finishWire contextSha256 row, some (.ok ())⟩ ∈ ownEvents n h) :
    ∃ terminal, s.terminals.find? (·.key = row.key) = some terminal ∧
      terminal.status = row.status ∧ terminal.resultSha256 = row.resultSha256 := by
  refine f.since (mem_events mem) (fun _ _ step => step.finished) ?_
  rintro _ _ _ step ⟨terminal, found, same⟩
  exact ⟨terminal, step.extends.find_terminal found, same⟩

/-- The evidence of the signature that was read is there from then on. -/
theorem proved (f : Follows DispatchStep start (events h) s) {n : ℕ} {arguments : DispatchArguments Digest}
    (proved : Proved p arguments (ownEvents n h)) :
    ∃ claim terminal, s.claims.find? (·.key = arguments.signingKey) = some claim ∧
      s.terminals.find? (·.key = arguments.signingKey) = some terminal ∧
      claim.requestSha256 = arguments.request.signed.requestSha256 ∧ terminal.status = .COMPLETED ∧
      terminal.resultSha256 = some arguments.request.signed.signatureSha256 := by
  obtain ⟨found, mem, proves⟩ := proved
  unfold provesSignature at proves
  split at proves
  next claim terminal =>
    rw [decide_eq_true_eq] at proves
    obtain ⟨request, -, status, result⟩ := proves
    refine ⟨claim, terminal, ?_, ?_, request, status, result⟩
    · exact f.since (mem_events mem) (fun _ _ step => step.loaded.1) fun _ _ _ step found =>
        step.extends.find_claim found
    · exact f.since (mem_events mem) (fun _ _ step => step.loaded.2) fun _ _ _ step found =>
        step.extends.find_terminal found
  next => cases proves

theorem dutiful (session : DispatchSession p arguments returned start s h) (n : ℕ) :
    Dutiful (SendDuty p (arguments n)) (ownEvents n h) :=
  (dispatchOne_meets.sound (session.callers n) trivial).1

/-- A caller sends under the key that it was granted, and once. -/
theorem entitled (session : DispatchSession p arguments returned start s h) (n : ℕ) :
    Dutiful (Grants.Entitled wonKey fun c => if c.sends then some ((arguments n).key p) else none)
      (ownEvents n h) := by
  apply (session.dutiful n).mono
  intro own c duty key acts
  cases c with
  | send =>
    cases acts
    obtain ⟨-, ⟨message, sendable⟩, unsent⟩ := duty
    obtain ⟨newer, older, rfl, -⟩ := sendable.claimed
    refine ⟨⟨_, List.mem_append_right _ List.mem_cons_self, rfl⟩, fun x mem => ?_⟩
    show (if x.call.sends = true then some ((arguments n).key p) else none) = none
    rw [unsent x mem]
    rfl
  | _ => cases acts

end DispatchSession

/-- Over all callers the sender is called once for an effect of a context: for the body of the
verified message, under the claim of its digest and the evidence of its signature, after the
authority accepted twice, and before the expiry. A completed terminal carries the digest of what
the sender returned, and of what the caller is returned. -/
theorem dispatch_one_sends_once (session : DispatchSession p arguments returned start s h) :
    (∀ context effectId, (h.filter fun e => e.2.call.sends ∧ (arguments e.1).context = context ∧
      (arguments e.1).request.effectId = effectId).length ≤ 1) ∧
    (∀ l n method path body outcome k, h = l ++ (n, ⟨.send method path body, outcome⟩) :: k →
      (method = (arguments n).request.method ∧ path = (arguments n).request.path) ∧
      (∃ message, Sendable p (arguments n) message body (ownEvents n k)) ∧
      ∃ before, Follows DispatchStep start (events k) before ∧
        before.claims.find? (·.key = (arguments n).key p) = some ((arguments n).claimRow p body) ∧
        ∃ claim terminal, before.claims.find? (·.key = (arguments n).signingKey) = some claim ∧
          before.terminals.find? (·.key = (arguments n).signingKey) = some terminal ∧
          claim.requestSha256 = (arguments n).request.signed.requestSha256 ∧
          terminal.status = .COMPLETED ∧
          terminal.resultSha256 = some (arguments n).request.signed.signatureSha256) ∧
    (∀ l n contextSha256 row outcome k, h = l ++ (n, ⟨.finishWire contextSha256 row, outcome⟩) :: k →
      row.status = .COMPLETED → ∃ response, Responded response (ownEvents n k) ∧
        row.key = (arguments n).key p ∧ row.resultSha256 = some (p.sha256 (.response response))) ∧
    ∀ n response, returned n = some (.ok response) → Responded response (ownEvents n h) ∧
      ∃ terminal, s.terminals.find? (·.key = (arguments n).key p) = some terminal ∧
        terminal.status = .COMPLETED ∧ terminal.resultSha256 = some (p.sha256 (.response response)) := by
  refine ⟨?_, ?_, ?_, ?_⟩
  · intro context effectId
    have once := dispatch_grants.acted_once session.store session.entitled
      ⟨.WIRE_DISPATCH, "wire:" ++ p.hex (p.sha256 (.context context)), effectId⟩
    refine le_trans (List.Sublist.length_le (List.monotone_filter_right h ?_)) once
    intro e sent
    rw [decide_eq_true_eq] at sent ⊢
    obtain ⟨sends, rfl, rfl⟩ := sent
    rw [if_pos sends]
    rfl
  · rintro l n method path body outcome k eq
    obtain ⟨same, ⟨message, sendable⟩, -⟩ := (session.dutiful n).own eq
    obtain ⟨before, -, older, -⟩ := session.store.split (show events h = events l ++ _ :: events k by
      rw [eq, events, List.map_append, List.map_cons])
    refine ⟨same, ⟨message, sendable⟩, before, older, ?_, DispatchSession.proved older sendable.proved⟩
    obtain ⟨newer, rest, split, -⟩ := sendable.claimed
    have claimed : ⟨.claimWireOnce ((arguments n).claimRow p body), some (.ok true)⟩ ∈ ownEvents n k := by
      rw [split]
      simp
    exact DispatchSession.claimed older claimed
  · intro l n contextSha256 row outcome k eq completed
    exact (session.dutiful n).own eq completed
  · intro n response result
    obtain ⟨responded, body, finished⟩ := dispatchOne_meets.returns (result ▸ session.callers n)
    exact ⟨responded, DispatchSession.finished session.store finished⟩

end Session

section Samples

/-- A claim store, a verifier, an authority and a sender that answer, and clocks that stand. -/
def sampleDispatcher : Handler (dispatching ℕ) Err (ClaimStore ℕ)
  | s, .claimWireOnce row =>
    match s.claim row with
    | .ok (s', first) => (.ok first, s')
    | .error error => (.error error, s)
  | s, .finishWire contextSha256 row =>
    match s.finish contextSha256 row with
    | .ok s' => (.ok (), s')
    | .error error => (.error error, s)
  | s, .loadClaim contextSha256 key => (s.load contextSha256 key, s)
  | s, .clock => (.ok (some (seconds 10)), s)
  | s, .loopTime => (.ok 0, s)
  | s, .verifySignature .. => (.ok true, s)
  | s, .verifyEffect .. => (.ok (), s)
  | s, .send .. => (.ok (.dict [("ok", .bool true)]), s)
  | s, .timedOut => (.ok false, s)

theorem sampleDispatcher_step (s : ClaimStore ℕ) (c : DispatchCall ℕ) :
    DispatchStep s ⟨c, some (sampleDispatcher s c).1⟩ (sampleDispatcher s c).2 := by
  refine ⟨s, .refl, ?_⟩
  cases c with
  | claimWireOnce row =>
    cases claimed : s.claim row with
    | ok found => simp [sampleDispatcher, claimed, dispatchEffect, ClaimStore.Claims]
    | error error => simp [sampleDispatcher, claimed, dispatchEffect, ClaimStore.Claims]
  | finishWire contextSha256 row =>
    cases finished : s.finish contextSha256 row with
    | ok s' => simp [sampleDispatcher, finished, dispatchEffect, ClaimStore.Finishes]
    | error error => simp [sampleDispatcher, finished, dispatchEffect, ClaimStore.Finishes]
  | loadClaim contextSha256 key =>
    refine ⟨rfl, ?_⟩
    cases loaded : s.load contextSha256 key with
    | ok found => simp [sampleDispatcher, loaded, ClaimStore.Loads]
    | error error => simp [sampleDispatcher, loaded, ClaimStore.Loads]
  | _ => rfl

/-- A store in which the signature of the sample is claimed and completed. -/
def sampleSignedStore : ClaimStore ℕ where
  claims := [⟨sampleDispatch.signingKey, 24, samplePrimitives.sha256 (.context sampleContext)⟩]
  terminals := [⟨sampleDispatch.signingKey, 24, .COMPLETED, some 25⟩]

/-- A caller is returned a response. -/
def isReturned : Option (Except Err Record) → Bool
  | some (.ok _) => true
  | _ => false

theorem isReturned_iff {result : Option (Except Err Record)} :
    isReturned result = true ↔ ∃ response, result = some (.ok response) := by
  match result with
  | none => simp [isReturned]
  | some (.ok response) => simp [isReturned]
  | some (.error e) => simp [isReturned]

/-- Callers of one dispatch. -/
def sampleDispatchers (_ : ℕ) : Dispatching ℕ Record := dispatchOne samplePrimitives sampleDispatch

/-- Two of them. -/
abbrev sampleDispatched : ClaimStore ℕ × List (ℕ × DispatchEvent ℕ) :=
  inTurn sampleDispatcher sampleDispatchers 2 sampleSignedStore

/-- The first caller sends and is returned the response, the second is refused, and the sender was
called once. -/
theorem dispatch_one_sends_once_sample :
    isReturned (inTurnReturned sampleDispatcher sampleDispatchers 2 sampleSignedStore 0) = true ∧
    isReturned (inTurnReturned sampleDispatcher sampleDispatchers 2 sampleSignedStore 1) = false ∧
    (sampleDispatched.2.filter fun e => e.2.call.sends ∧ sampleDispatch.context = sampleContext ∧
      sampleDispatch.request.effectId = "20").length ≤ 1 ∧
    ∃ terminal, sampleDispatched.1.terminals.find? (·.key = sampleDispatch.key samplePrimitives) =
      some terminal ∧ terminal.status = .COMPLETED := by
  have session : DispatchSession samplePrimitives (fun _ => sampleDispatch)
      (inTurnReturned sampleDispatcher sampleDispatchers 2 sampleSignedStore) sampleSignedStore
      sampleDispatched.1 sampleDispatched.2 :=
    ⟨fun n => inTurn_runs sampleDispatcher sampleDispatchers 2 n _,
      Follows.inTurn id sampleDispatcher_step 2 _⟩
  obtain ⟨once, -, -, done⟩ := dispatch_one_sends_once session
  have first : isReturned (inTurnReturned sampleDispatcher sampleDispatchers 2 sampleSignedStore 0) =
      true := by decide +kernel
  obtain ⟨response, result⟩ := isReturned_iff.1 first
  obtain ⟨-, terminal, found, completed, -⟩ := done 0 response result
  exact ⟨first, by decide +kernel, once sampleContext "20", terminal, found, completed⟩

end Samples

end KairosExecution.Production
