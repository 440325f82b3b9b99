import KairosExecution.Production.Signing
import KairosExecution.Production.Authorized

/-! One signature for each request. Any number of callers of `sign_async` interleave at
every await on one claim store, to which others write as well; each may be cancelled or
lost at any of them. The backend is asked under a claim that was the first of its key, so
once for each request; what is returned was claimed, signed, and finished before the
deadline; and rows of the store never change. -/

namespace KairosExecution.Production

open Python Interactive

variable {Digest : Type} [DecidableEq Digest]

abbrev SigningEvent (Digest : Type) := Event (signing Digest) Err

section Law

/-- What a call does to the claim store. -/
def signingEffect (s : ClaimStore Digest) (s' : ClaimStore Digest) : SigningEvent Digest → Prop
  | ⟨.claimOnce row, outcome⟩ => s.Claims row s' outcome
  | ⟨.finishSigning contextSha256 row, outcome⟩ => s.Finishes contextSha256 row s' outcome
  | _ => s' = s

/-- A call, before which others may have written what they will. -/
def SigningStep (s : ClaimStore Digest) (e : SigningEvent Digest) (s' : ClaimStore Digest) : Prop :=
  ∃ m, s.Extends m ∧ signingEffect m s' e

/-- A call asks the backend. -/
def SigningCall.asks : SigningCall Digest → Bool
  | .signTypedData .. => true
  | _ => false

/-- The key of a claim that was the first. -/
def admittedKey : SigningEvent Digest → Option ClaimKey
  | ⟨.claimOnce row, some (.ok true)⟩ => some row.key
  | _ => none

variable (p : Primitives Digest)

/-- Callers of `sign_async`, what each has returned, and the claim store after their events. -/
structure SigningSession (arguments : ℕ → SigningArguments Digest)
    (returned : ℕ → Option (Except Err (SignedTypedData Digest))) (start s : ClaimStore Digest)
    (h : List (ℕ × SigningEvent Digest)) : Prop where
  callers : ∀ n, Runs (signAsync p (arguments n)) [] (ownEvents n h) (returned n)
  store : Follows SigningStep start (events h) s

variable (arguments : SigningArguments Digest)

/-- What the backend may be asked: the validated message, under the first claim of its digest,
and once. -/
def SigningDuty (own : History (signing Digest) Err) : SigningCall Digest → Prop
  | .signTypedData custodyReference chainId operation message =>
    (custodyReference = arguments.binding.custodyReference ∧ chainId = arguments.binding.chainId ∧
      operation = arguments.request.operation) ∧
    typedMessage p arguments.request arguments.binding = .ok message ∧
    ⟨.claimOnce (arguments.claimRow (signingDigest p arguments.request message)), some (.ok true)⟩ ∈ own ∧
    ∀ x ∈ own, x.call.asks = false
  | _ => True

/-- What has been done where a signature is returned. -/
structure Signed (signed : SignedTypedData Digest) (own : History (signing Digest) Err)
    (message : Record) (started final : ℤ) : Prop where
  typed : typedMessage p arguments.request arguments.binding = .ok message
  claimed : ⟨.claimOnce (arguments.claimRow (signingDigest p arguments.request message)),
    some (.ok true)⟩ ∈ own
  asked : ⟨.signTypedData arguments.binding.custodyReference arguments.binding.chainId
    arguments.request.operation message, some (.ok signed.signature)⟩ ∈ own
  finished : ⟨.finishSigning arguments.contextSha256 ⟨arguments.key,
    signingDigest p arguments.request message, .COMPLETED, some signed.signatureSha256⟩,
    some (.ok ())⟩ ∈ own
  digests : signed.requestSha256 = signingDigest p arguments.request message ∧
    signed.signatureSha256 = p.sha256 (.signature signed.signature)
  first : own.getLast? = some ⟨.loopTime, some (.ok started)⟩
  last : own.head? = some ⟨.loopTime, some (.ok final)⟩
  inTime : final < arguments.deadline started

end Law

section Steps

variable {s s' start : ClaimStore Digest} {e : SigningEvent Digest}

theorem signingEffect_extends (effect : signingEffect s s' e) : s.Extends s' := by
  obtain ⟨c, outcome⟩ := e
  cases c with
  | claimOnce row => exact ClaimStore.Claims.extends effect
  | finishSigning contextSha256 row => exact ClaimStore.Finishes.extends effect
  | _ =>
    cases effect
    exact .refl

theorem SigningStep.extends (step : SigningStep s e s') : s.Extends s' := by
  obtain ⟨m, others, effect⟩ := step
  exact others.trans (signingEffect_extends effect)

omit [DecidableEq Digest] in
theorem admittedKey_eq {key : ClaimKey} (grant : admittedKey e = some key) :
    ∃ row, e = ⟨.claimOnce row, some (.ok true)⟩ ∧ row.key = key := by
  unfold admittedKey at grant
  split at grant
  next row =>
    cases grant
    exact ⟨row, rfl, rfl⟩
  next => cases grant

/-- A claim that was the first found its key free, and its row is there. -/
theorem SigningStep.claimed {row : ClaimRow Digest}
    (step : SigningStep s ⟨.claimOnce row, some (.ok true)⟩ s') :
    s.claims.find? (·.key = row.key) = none ∧ s'.claims.find? (·.key = row.key) = some row := by
  obtain ⟨m, others, effect⟩ := step
  rcases (ClaimStore.claim_ok effect).2 with ⟨-, free, rfl⟩ | ⟨again, -⟩
  · constructor
    · cases found : s.claims.find? (·.key = row.key) with
      | none => rfl
      | some prior =>
        rw [others.find_claim found] at free
        cases free
    · simp [List.find?_append, free]
  · cases again

/-- A terminal that is acknowledged is there. -/
theorem SigningStep.finished {contextSha256 : Digest} {row : TerminalRow Digest}
    (step : SigningStep s ⟨.finishSigning contextSha256 row, some (.ok ())⟩ s') :
    ∃ terminal, s'.terminals.find? (·.key = row.key) = some terminal ∧
      terminal.status = row.status ∧ terminal.resultSha256 = row.resultSha256 := by
  obtain ⟨m, others, effect⟩ := step
  exact (ClaimStore.finish_ok effect).2.2.2.1

/-- A claim that was the first found its key free, and holds it. -/
theorem signing_grants : Grants (@SigningStep Digest _) admittedKey
    fun s key => ∃ row, s.claims.find? (·.key = key) = some row where
  kept s e s' key step held := by
    obtain ⟨row, found⟩ := held
    exact ⟨row, step.extends.find_claim found⟩
  free s e s' key step grant held := by
    obtain ⟨row, rfl, rfl⟩ := admittedKey_eq grant
    obtain ⟨prior, found⟩ := held
    rw [step.claimed.1] at found
    cases found
  taken s e s' key step grant := by
    obtain ⟨row, rfl, rfl⟩ := admittedKey_eq grant
    exact ⟨row, step.claimed.2⟩

end Steps

section Duty

variable {p : Primitives Digest} {arguments : SigningArguments Digest}
  {own : History (signing Digest) Err} {message : Record} {deadline : ℤ} {digest : Digest}

omit [DecidableEq Digest] in
theorem Meets.checkDeadline_bind {β : Type} {f : Unit → Signing Digest β}
    {R : β → History (signing Digest) Err → Prop}
    (k : ∀ time, time < deadline →
      Meets (SigningDuty p arguments) (f ()) (⟨.loopTime, some (.ok time)⟩ :: own) R) :
    Meets (SigningDuty p arguments) (checkDeadline deadline >>= f) own R := by
  unfold checkDeadline
  rw [bind_assoc]
  apply Meets.ask_bind trivial
  intro time
  apply Meets.lift_bind
  rintro ⟨⟩ passed
  rw [refuse_eq_ok, decide_eq_false_iff_not, not_le] at passed
  exact k time passed

omit [DecidableEq Digest] in
/-- The thread asks the backend for the message, and returns what the backend answered. -/
theorem signClaimed_meets
    (may : SigningDuty p arguments own (.signTypedData arguments.binding.custodyReference
      arguments.binding.chainId arguments.request.operation message)) :
    Meets (SigningDuty p arguments) (signClaimed p arguments message digest) own fun signed own' =>
      ⟨.signTypedData arguments.binding.custodyReference arguments.binding.chainId
        arguments.request.operation message, some (.ok signed.signature)⟩ ∈ own' ∧
      signed.requestSha256 = digest ∧ signed.signatureSha256 = p.sha256 (.signature signed.signature) := by
  unfold signClaimed signAndVerify
  have asked : Meets (SigningDuty p arguments) (signAndVerify arguments message) own
      fun signature own' => ⟨.signTypedData arguments.binding.custodyReference
        arguments.binding.chainId arguments.request.operation message, some (.ok signature)⟩ ∈ own' := by
    unfold signAndVerify
    apply Meets.ask_bind may
    intro signature
    apply Meets.lift_bind
    intro _ _
    apply Meets.ask_bind trivial
    intro verified
    apply Meets.lift_bind
    intro _ _
    exact Meets.pure (by simp)
  apply Meets.bind (Meets.guarded asked)
  intro signature own' _ answered
  exact Meets.pure ⟨answered, rfl, rfl⟩

/-- A history that goes on began where it did. -/
theorem getLast?_of_suffix {α : Type} {h h' : List α} {a : α} (older : h <:+ h')
    (first : h.getLast? = some a) : h'.getLast? = some a := by
  obtain ⟨newer, rfl⟩ := older
  rw [List.getLast?_append, first, Option.some_or]

theorem signAsync_meets : Meets (SigningDuty p arguments) (signAsync p arguments) []
    fun signed own => ∃ message started final, Signed p arguments signed own message started final := by
  unfold signAsync
  apply Meets.ask_bind trivial
  intro started
  apply Meets.lift_bind
  rintro ⟨message, digest⟩ prepared
  obtain ⟨_, -, prepared⟩ := bind_eq_ok.1 prepared
  obtain ⟨_, -, prepared⟩ := bind_eq_ok.1 prepared
  obtain ⟨_, -, prepared⟩ := bind_eq_ok.1 prepared
  obtain ⟨typed, isTyped, prepared⟩ := bind_eq_ok.1 prepared
  cases prepared
  apply Meets.onTimeout
  apply Meets.boundedBy
  · unfold signBounded
    apply Meets.checkDeadline_bind
    intro _ _
    apply Meets.guarded_ask_bind trivial
    intro _
    apply Meets.checkDeadline_bind
    intro _ _
    apply Meets.guarded_ask_bind trivial
    intro admitted
    apply Meets.lift_bind
    rintro ⟨⟩ first
    rw [refuse_eq_ok, Bool.not_eq_false'] at first
    subst first
    apply Meets.checkDeadline_bind
    intro _ _
    -- the backend is asked under the claim, which was the first
    apply Meets.bind (Meets.onException (signClaimed_meets
      ⟨⟨rfl, rfl, rfl⟩, isTyped, by simp, by simp [SigningCall.asks]⟩) ?_)
    · rintro signed own older ⟨asked, request, signature⟩
      apply Meets.checkDeadline_bind
      intro _ _
      apply Meets.guarded_ask_bind trivial
      intro _
      apply Meets.checkDeadline_bind
      intro final inTime
      apply Meets.pure
      refine ⟨_, started, final, ⟨isTyped, ?_, ?_, ?_, ⟨request, signature⟩, ?_, rfl, inTime⟩⟩
      · have claimed := older.subset (show ⟨.claimOnce (arguments.claimRow (signingDigest p
          arguments.request message)), some (.ok true)⟩ ∈ _ by simp)
        simp [claimed]
      · simp [asked]
      · simp
      · exact getLast?_of_suffix (older.trans (List.suffix_append [_, _, _] own)) (by simp)
    · -- what failed is finished as unresolved, and raises
      intro _ own _
      unfold finishUnresolved
      apply Meets.guarded_ask_bind trivial
      intro _
      exact Meets.raise
  · intro own older
    exact Meets.ask trivial fun _ => trivial

end Duty

section Session

variable {p : Primitives Digest} {arguments : ℕ → SigningArguments Digest}
  {returned : ℕ → Option (Except Err (SignedTypedData Digest))} {start s : ClaimStore Digest}
  {h : List (ℕ × SigningEvent Digest)}

namespace SigningSession

/-- The row of a claim that was the first is there from then on. -/
theorem claimed (f : Follows SigningStep start (events h) s) {n : ℕ} {row : ClaimRow Digest}
    (mem : ⟨.claimOnce row, some (.ok true)⟩ ∈ ownEvents n h) :
    s.claims.find? (·.key = row.key) = some row := by
  exact f.since (mem_events mem) (fun _ _ step => step.claimed.2) fun _ _ _ step found =>
    step.extends.find_claim found

theorem finished (f : Follows SigningStep start (events h) s) {n : ℕ} {contextSha256 : Digest}
    {row : TerminalRow Digest}
    (mem : ⟨.finishSigning contextSha256 row, some (.ok ())⟩ ∈ ownEvents n h) :
    ∃ terminal, s.terminals.find? (·.key = row.key) = some terminal ∧
      terminal.status = row.status ∧ terminal.resultSha256 = row.resultSha256 := by
  refine f.since (mem_events mem) (fun _ _ step => step.finished) ?_
  rintro _ _ _ step ⟨terminal, found, same⟩
  exact ⟨terminal, step.extends.find_terminal found, same⟩

theorem dutiful (session : SigningSession p arguments returned start s h) (n : ℕ) :
    Dutiful (SigningDuty p (arguments n)) (ownEvents n h) :=
  (signAsync_meets.sound (session.callers n) trivial).1

/-- A caller asks under the key that it was granted, and once. -/
theorem entitled (session : SigningSession p arguments returned start s h) (n : ℕ) :
    Dutiful (Grants.Entitled admittedKey fun c => if c.asks then some (arguments n).key else none)
      (ownEvents n h) := by
  apply (session.dutiful n).mono
  intro own c duty key acts
  cases c with
  | signTypedData =>
    cases acts
    obtain ⟨-, -, claimed, unasked⟩ := duty
    refine ⟨⟨_, claimed, rfl⟩, fun x mem => ?_⟩
    show (if x.call.asks = true then some (arguments n).key else none) = none
    rw [unasked x mem]
    rfl
  | _ => cases acts

end SigningSession

/-- Over all callers the backend is asked once for a request, for the validated message of the
digest that is claimed; what is returned is claimed and completed under its digest, within the
deadline; rows stay as they are, and a terminal that conflicts with one raises. -/
theorem sign_async_once (session : SigningSession p arguments returned start s h)
    {custodyReference : String}
    (one : ∀ n, (arguments n).binding.custodyReference = custodyReference) :
    (∀ requestId, (h.filter fun e => e.2.call.asks ∧
      (arguments e.1).request.requestId = requestId).length ≤ 1) ∧
    (∀ l n custody chainId operation message outcome k,
      h = l ++ (n, ⟨.signTypedData custody chainId operation message, outcome⟩) :: k →
      typedMessage p (arguments n).request (arguments n).binding = .ok message ∧
      ∃ before, Follows SigningStep start (events k) before ∧
        before.claims.find? (·.key = (arguments n).key) =
          some ((arguments n).claimRow (signingDigest p (arguments n).request message))) ∧
    (∀ n signed, returned n = some (.ok signed) →
      ∃ message started final, Signed p (arguments n) signed (ownEvents n h) message started final ∧
      s.claims.find? (·.key = (arguments n).key) =
        some ((arguments n).claimRow signed.requestSha256) ∧
      ∃ terminal, s.terminals.find? (·.key = (arguments n).key) = some terminal ∧
        terminal.status = .COMPLETED ∧ terminal.resultSha256 = some signed.signatureSha256) ∧
    (∀ l k, h = l ++ k → ∃ before, Follows SigningStep start (events k) before ∧ before.Extends s) ∧
    ∀ contextSha256 terminal existing, s.terminals.find? (·.key = terminal.key) = some existing →
      existing.status ≠ terminal.status ∨ existing.resultSha256 ≠ terminal.resultSha256 →
      ∃ error, s.finish contextSha256 terminal = .error error := by
  refine ⟨?_, ?_, ?_, ?_, ?_⟩
  · intro requestId
    have once := signing_grants.acted_once session.store session.entitled
      ⟨.TYPED_SIGNING, custodyReference, requestId⟩
    convert once using 3
    funext e
    by_cases asks : e.2.call.asks = true
    · simp [asks, SigningArguments.key, one]
    · simp [asks]
  · rintro l n custody chainId operation message outcome k eq
    obtain ⟨-, typed, claimed, -⟩ := (session.dutiful n).own eq
    obtain ⟨before, -, older, -⟩ := session.store.split (show events h = events l ++ _ :: events k by
      rw [eq, events, List.map_append, List.map_cons])
    exact ⟨typed, before, older, SigningSession.claimed older claimed⟩
  · intro n signed result
    obtain ⟨message, started, final, done⟩ :=
      signAsync_meets.returns (result ▸ session.callers n)
    refine ⟨message, started, final, done, ?_, SigningSession.finished session.store done.finished⟩
    rw [done.digests.1]
    exact SigningSession.claimed session.store done.claimed
  · rintro l k rfl
    have f := session.store
    rw [events, List.map_append] at f
    exact f.grows (fun _ => .refl) (fun _ _ _ => .trans) fun _ _ _ step => step.extends
  · intro contextSha256 terminal existing found conflict
    exact ClaimStore.finish_conflict found conflict

end Session

section Samples

def sampleSignature : String := String.ofList ('0' :: 'x' :: List.replicate 130 'a')

/-- A claim store, a backend and a verifier that answer, and a clock that stands. -/
def sampleSigner : Handler (signing ℕ) Err (ClaimStore ℕ)
  | s, .claimOnce row =>
    match s.claim row with
    | .ok (s', first) => (.ok first, s')
    | .error error => (.error error, s)
  | s, .finishSigning contextSha256 row =>
    match s.finish contextSha256 row with
    | .ok s' => (.ok (), s')
    | .error error => (.error error, s)
  | s, .loopTime => (.ok 0, s)
  | s, .verifyRequest .. => (.ok (), s)
  | s, .signTypedData .. => (.ok sampleSignature, s)
  | s, .verifySignature .. => (.ok true, s)
  | s, .timedOut => (.ok false, s)

theorem sampleSigner_step (s : ClaimStore ℕ) (c : SigningCall ℕ) :
    SigningStep s ⟨c, some (sampleSigner s c).1⟩ (sampleSigner s c).2 := by
  refine ⟨s, .refl, ?_⟩
  cases c with
  | claimOnce row =>
    cases claimed : s.claim row with
    | ok found => simp [sampleSigner, claimed, signingEffect, ClaimStore.Claims]
    | error error => simp [sampleSigner, claimed, signingEffect, ClaimStore.Claims]
  | finishSigning contextSha256 row =>
    cases finished : s.finish contextSha256 row with
    | ok s' => simp [sampleSigner, finished, signingEffect, ClaimStore.Finishes]
    | error error => simp [sampleSigner, finished, signingEffect, ClaimStore.Finishes]
  | _ => rfl

def sampleSigning : SigningArguments ℕ :=
  ⟨sampleBinding, sampleRequest .newLimitOrder "limit" 30, seconds 10, 11⟩

/-- Callers of one request. -/
def sampleSigners (_ : ℕ) : Signing ℕ (SignedTypedData ℕ) := signAsync samplePrimitives sampleSigning

/-- Two of them. -/
abbrev sampleSigned : ClaimStore ℕ × List (ℕ × SigningEvent ℕ) := inTurn sampleSigner sampleSigners 2 {}

/-- The first caller is returned a signature, the second is refused, and the backend was asked
once. -/
theorem sign_async_once_sample :
    inTurnReturned sampleSigner sampleSigners 2 {} 0 =
      some (.ok ⟨24, "wallet", 25, sampleSignature⟩) ∧
    inTurnReturned sampleSigner sampleSigners 2 {} 1 =
      some (.error (.signing "signing request is already claimed or unresolved")) ∧
    (sampleSigned.2.filter fun e => e.2.call.asks ∧ sampleSigning.request.requestId = "request").length
      ≤ 1 ∧
    sampleSigned.1.claims.find? (·.key = sampleSigning.key) = some (sampleSigning.claimRow 24) := by
  have session : SigningSession samplePrimitives (fun _ => sampleSigning)
      (inTurnReturned sampleSigner sampleSigners 2 {}) {}
      sampleSigned.1 sampleSigned.2 :=
    ⟨fun n => inTurn_runs sampleSigner sampleSigners 2 n _, Follows.inTurn id sampleSigner_step 2 _⟩
  have one : ∀ n : ℕ, ((fun _ => sampleSigning) n : SigningArguments ℕ).binding.custodyReference =
      "custody" := fun _ => rfl
  obtain ⟨once, -, done, -⟩ := sign_async_once session one
  have first : inTurnReturned sampleSigner sampleSigners 2 {} 0 =
      some (.ok ⟨24, "wallet", 25, sampleSignature⟩) := by decide +kernel
  obtain ⟨-, -, -, -, claimed, -⟩ := done 0 _ first
  exact ⟨first, by decide +kernel, once "request", claimed⟩

end Samples

end KairosExecution.Production
