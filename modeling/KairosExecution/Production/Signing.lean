import KairosExecution.Production.Async
import KairosExecution.Production.Authorization
import KairosExecution.Production.Wire

/-! `sign_async`: one deadline over the authorization, the durable claim, the backend and
the terminal. The backend runs in a thread, which a cancellation of its caller does not
stop: a call of the backend that is cancelled or lost was made all the same, and nothing
waits for its answer. The clock of the event loop is in microseconds. -/

namespace KairosExecution.Production

open Python Interactive

variable {Digest : Type}

/-- `SignedTypedDataV1` -/
structure SignedTypedData (Digest : Type) where
  requestSha256 : Digest
  walletAddress : String
  signatureSha256 : Digest
  signature : String
  deriving DecidableEq

/-- What `sign_async` calls. -/
inductive SigningCall (Digest : Type)
  | loopTime
  | verifyRequest (request : ManagedSigningRequest Digest) (binding : CustodyBinding Digest)
  | claimOnce (row : ClaimRow Digest)
  | signTypedData (custodyReference : String) (chainId : ℕ) (operation : SigningOperation)
    (message : Record)
  | verifySignature (walletAddress : String) (chainId : ℕ) (operation : SigningOperation)
    (message : Record) (signature : String)
  | finishSigning (contextSha256 : Digest) (row : TerminalRow Digest)
  | timedOut

abbrev SigningCall.Answer : SigningCall Digest → Type
  | .loopTime => ℤ
  | .verifyRequest .. => Unit
  | .claimOnce _ => Bool
  | .signTypedData .. => String
  | .verifySignature .. => Bool
  | .finishSigning .. => Unit
  | .timedOut => Bool

abbrev signing (Digest : Type) : Interface := ⟨SigningCall Digest, SigningCall.Answer⟩

abbrev Signing (Digest α : Type) := Program (signing Digest) Err α

/-- A call, under its answer's type. -/
abbrev signs (c : SigningCall Digest) : Signing Digest (SigningCall.Answer c) :=
  @Program.ask (signing Digest) Err c

/-- A boundary, what it is asked to sign and when, and the context of the claims. -/
structure SigningArguments (Digest : Type) where
  binding : CustodyBinding Digest
  request : ManagedSigningRequest Digest
  now : Timestamp
  contextSha256 : Digest
  deriving DecidableEq

section Boundary

variable [DecidableEq Digest] (p : Primitives Digest) (arguments : SigningArguments Digest)

/-- The digest of a request, in which the message stands for its text. -/
def signingDigest (request : ManagedSigningRequest Digest) (message : Record) : Digest :=
  p.sha256 (.signing { request with messageJson := "" } message)

/-- `_prepare_fields`, its message and its digest. -/
def prepareFields : Except Err (Record × Digest) := do
  let request := arguments.request
  let binding := arguments.binding
  refuse (request.context ≠ binding.context
      ∨ request.custodyReceiptSha256 ≠ binding.custodyReceiptSha256)
    (.signing "request is not bound to this production custody scope")
  refuse (binding.schemaSha256 ≠ reviewedSchemaSha256 p binding.chainId)
    (.signing "reviewed typed schema/domain digest changed")
  refuse (¬(arguments.now < request.expiresAt ∧ request.expiresAt ≤ arguments.now + seconds 30))
    (.signing "signing deadline is expired or exceeds the fixed bound")
  let message ← typedMessage p request binding
  return (message, signingDigest p request message)

/-- The claim of a request, under the custody reference. -/
def SigningArguments.key : ClaimKey :=
  ⟨.TYPED_SIGNING, arguments.binding.custodyReference, arguments.request.requestId⟩

def SigningArguments.claimRow (digest : Digest) : ClaimRow Digest :=
  ⟨arguments.key, digest, arguments.contextSha256⟩

/-- What the thread does before it returns. -/
def signAndVerify (message : Record) : Signing Digest String := do
  let binding := arguments.binding
  let operation := arguments.request.operation
  let signature ← signs (.signTypedData binding.custodyReference binding.chainId operation message)
  refuse (!wellFormedSignature signature) (.signing "managed backend returned a malformed signature")
  let verified ← signs (.verifySignature binding.walletAddress binding.chainId operation message signature)
  refuse (!verified) (.signing "managed signature failed independent verification")
  return signature

def signClaimed (message : Record) (digest : Digest) : Signing Digest (SignedTypedData Digest) := do
  let signature ← guarded (.signing "managed signing outcome failed or is unresolved; do not retry")
    (signAndVerify arguments message)
  return {
    requestSha256 := digest
    walletAddress := arguments.binding.walletAddress
    signatureSha256 := p.sha256 (.signature signature)
    signature := signature }

/-- `if loop.time() >= deadline: raise TimeoutError` -/
def checkDeadline (deadline : ℤ) : Signing Digest Unit := do
  let time ← signs .loopTime
  refuse (deadline ≤ time) .timeout

/-- The end of a signing that failed. -/
def finishUnresolved (digest : Digest) : Signing Digest (SignedTypedData Digest) := do
  guarded (.signing "managed signing and terminal outcomes unresolved; do not retry")
    (signs (.finishSigning arguments.contextSha256 ⟨arguments.key, digest, .UNRESOLVED, none⟩))
  Program.raise (.signing "managed signing outcome failed or is unresolved; do not retry")

/-- What the timeout is around. -/
def signBounded (message : Record) (digest : Digest) (deadline : ℤ) :
    Signing Digest (SignedTypedData Digest) := do
  checkDeadline deadline
  guarded (.signing "independent signing authorization failed")
    (signs (.verifyRequest arguments.request arguments.binding))
  checkDeadline deadline
  let admitted ← guarded (.signing "signing claim outcome is unresolved; do not retry")
    (signs (.claimOnce (arguments.claimRow digest)))
  refuse (!admitted) (.signing "signing request is already claimed or unresolved")
  checkDeadline deadline
  let signed ← onException (signClaimed p arguments message digest) fun _ =>
    finishUnresolved arguments digest
  checkDeadline deadline
  guarded (.signing "signing terminal outcome is unresolved; do not retry")
    (signs (.finishSigning arguments.contextSha256
      ⟨arguments.key, digest, .COMPLETED, some signed.signatureSha256⟩))
  checkDeadline deadline
  return signed

/-- The deadline of a request, by the clock of the loop when it was started. -/
def SigningArguments.deadline (started : ℤ) : ℤ :=
  started + min (seconds 30) (arguments.request.expiresAt - arguments.now)

def signAsync : Signing Digest (SignedTypedData Digest) := do
  let started ← signs .loopTime
  let (message, digest) ← liftM (prepareFields p arguments)
  onTimeout (.signing "end-to-end signing deadline expired; outcome unresolved; do not retry")
    (boundedBy (signs .timedOut)
      (signBounded p arguments message digest (arguments.deadline started)))

end Boundary

end KairosExecution.Production
