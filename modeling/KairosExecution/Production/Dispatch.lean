import KairosExecution.Production.Signing

/-! `dispatch_one`: one deadline over the evidence of the signature, the verifier, the
authorization, the durable wire claim, one POST and the terminal. The wall clock is read
against a high water, and a read that is behind it, or at the expiry, raises where it stands.
The writer of a terminal is shielded: one that is cancelled or late was submitted all the
same. The clock of the event loop is in microseconds. -/

namespace KairosExecution.Production

open Python Interactive

variable {Digest : Type}

/-- `ProductionWireRequestV1` -/
structure WireRequest (Digest : Type) where
  context : ProductionContext Digest
  databaseUuid : ℕ
  decisionId : String
  effectId : String
  effectType : WireEffectType
  method : String
  path : String
  body : Record
  signingRequest : ManagedSigningRequest Digest
  custodyBinding : CustodyBinding Digest
  signed : SignedTypedData Digest

/-- What `dispatch_one` calls. The wall clock may answer a time without a zone. -/
inductive DispatchCall (Digest : Type)
  | clock
  | loopTime
  | loadClaim (contextSha256 : Digest) (key : ClaimKey)
  | verifySignature (walletAddress : String) (chainId : ℕ) (operation : SigningOperation)
    (message : Record) (signature : String)
  | verifyEffect (request : ManagedSigningRequest Digest) (binding : CustodyBinding Digest)
    (decisionId effectId : String)
  | claimWireOnce (row : ClaimRow Digest)
  | send (method path : String) (body : Record)
  | finishWire (contextSha256 : Digest) (row : TerminalRow Digest)
  | timedOut

abbrev DispatchCall.Answer : DispatchCall Digest → Type
  | .clock => Option Timestamp
  | .loopTime => ℤ
  | .loadClaim .. => Option (ClaimRow Digest × Option (TerminalRow Digest))
  | .verifySignature .. => Bool
  | .verifyEffect .. => Unit
  | .claimWireOnce _ => Bool
  | .send .. => Value
  | .finishWire .. => Unit
  | .timedOut => Bool

abbrev dispatching (Digest : Type) : Interface := ⟨DispatchCall Digest, DispatchCall.Answer⟩

abbrev Dispatching (Digest α : Type) := Program (dispatching Digest) Err α

/-- A call, under its answer's type. -/
abbrev dispatches (c : DispatchCall Digest) : Dispatching Digest (DispatchCall.Answer c) :=
  @Program.ask (dispatching Digest) Err c

/-- A dispatcher's scope, and what it is given to send. -/
structure DispatchArguments (Digest : Type) where
  context : ProductionContext Digest
  databaseUuid : ℕ
  request : WireRequest Digest

structure WireToken (Digest : Type) where
  method : String
  path : String
  bodySha256 : Digest
  expiresAt : Timestamp
  used : Bool

def aware (now : Option Timestamp) : Except Err Timestamp :=
  required (.value "an explicit UTC timestamp is required") now

/-- A response of the sender, which has to be an object. -/
def responseObject (answer : Value) : Except Err Record :=
  required (.value "transport returned a malformed response") answer.asDict

section Boundary

variable [DecidableEq Digest] (p : Primitives Digest)

def WireToken.consume (token : WireToken Digest) (method path : String) (bodySha256 : Digest)
    (now : Timestamp) : Except Err (WireToken Digest) := do
  refuse (token.used ∨ method ≠ token.method ∨ path ≠ token.path ∨ bodySha256 ≠ token.bodySha256
      ∨ token.expiresAt ≤ now)
    (.dispatch "exact one-use wire authorization is absent, expired, or already consumed")
  return { token with used := true }

/-- The path of an operation on the instrument of its message. -/
def expectedPath (operation : SigningOperation) (message : Record) : Except Err String :=
  if operation.exit then
    match message.get "instrument" with
    | .str instrument => do
      refuse (!isInstrument instrument) (.dispatch "signed instrument is malformed")
      return wirePath operation instrument
    | _ => .error (.dispatch "signed instrument is malformed")
  else .ok (wirePath operation "")

/-- `_canonical_bytes` -/
def canonicalText (value : Record) : Except Err String :=
  required (.value "Out of range float values are not JSON compliant") (p.canonical value)

def validateEffect (request : WireRequest Digest) : Except Err Record := do
  let signing := request.signingRequest
  let binding := request.custodyBinding
  refuse (request.context ≠ signing.context ∨ request.context ≠ binding.context
      ∨ signing.custodyReceiptSha256 ≠ binding.custodyReceiptSha256)
    (.dispatch "wire context differs from the managed signing context")
  let message ← instead (.dispatch "managed signing message is malformed")
    (typedMessage p signing binding)
  refuse (request.effectType ≠ wireEffectType signing.operation)
    (.dispatch "wire effect type differs from signed operation")
  refuse (request.effectId ≠ p.hex (signingEffectId p signing message request.decisionId))
    (.dispatch "wire effect identity differs from the authorized decision geometry")
  refuse (!(textIn message (wireIdentityField signing.operation)).isSome)
    (.dispatch "signed wire message lacks its deterministic venue identity")
  let path ← expectedPath signing.operation message
  refuse (request.path ≠ path) (.dispatch "wire path differs from the signed operation")
  refuse (request.method ≠ "POST") (.dispatch "wire method is unsupported")
  refuse (!wellFormedSignature request.signed.signature
      ∨ p.sha256 (.signature request.signed.signature) ≠ request.signed.signatureSha256
      ∨ p.casefold request.signed.walletAddress ≠ p.casefold binding.walletAddress)
    (.dispatch "managed signature is malformed or changed")
  refuse (signingDigest p signing message ≠ request.signed.requestSha256)
    (.dispatch "managed signature belongs to a different signing request")
  let given ← canonicalText p request.body
  let body ← productionWireBody signing.operation message request.signed.signature
  let derived ← canonicalText p body
  refuse (given ≠ derived) (.dispatch "wire body differs from the exact independently signed message")
  return message

variable (arguments : DispatchArguments Digest)

/-- `request.signing_request.expires_at` -/
abbrev DispatchArguments.expiry : Timestamp := arguments.request.signingRequest.expiresAt

/-- The claim of a wire effect, under its context. -/
def DispatchArguments.key : ClaimKey :=
  ⟨.WIRE_DISPATCH, "wire:" ++ p.hex (p.sha256 (.context arguments.context)), arguments.request.effectId⟩

def DispatchArguments.claimRecord (body : Record) : WireClaimRecord Digest where
  contextSha256 := p.sha256 (.context arguments.context)
  databaseUuid := arguments.databaseUuid
  effectId := arguments.request.effectId
  effectType := arguments.request.effectType
  method := arguments.request.method
  path := arguments.request.path
  bodySha256 := p.sha256 (.body body)
  signingRequestSha256 := arguments.request.signed.requestSha256
  signingSignatureSha256 := arguments.request.signed.signatureSha256
  expiresAt := arguments.expiry

def DispatchArguments.claimRow (body : Record) : ClaimRow Digest :=
  ⟨arguments.key p, p.sha256 (.wire (arguments.claimRecord p body)),
    p.sha256 (.context arguments.context)⟩

/-- The terminal of a claim. -/
def ClaimRow.terminal (row : ClaimRow Digest) (status : TerminalStatus)
    (responseSha256 : Option Digest) : TerminalRow Digest :=
  ⟨row.key, row.requestSha256, status, responseSha256⟩

/-- `fresh_time`, against the high water, which the read becomes. -/
def freshTime (expiry high : Timestamp) (deadline : ℤ) : Dispatching Digest Timestamp := do
  let read ← dispatches .clock
  let now ← liftM (aware read)
  refuse (now < high) (.dispatch "wall clock moved backwards during wire dispatch")
  refuse (expiry ≤ now) (.dispatch "wire request expired during bounded dispatch")
  let time ← dispatches .loopTime
  refuse (deadline ≤ time) (.dispatch "wire request expired during bounded dispatch")
  return now

def finishShielded (row : ClaimRow Digest) (status : TerminalStatus) (responseSha256 : Option Digest)
    (deadline : ℤ) : Dispatching Digest Unit := do
  let time ← dispatches .loopTime
  refuse (deadline ≤ time) (.dispatch "wire terminal outcome unresolved; do not retry")
  guarded (.dispatch "wire terminal outcome unresolved; do not retry")
    (boundedBy (dispatches .timedOut)
      (dispatches (.finishWire row.contextSha256 (row.terminal status responseSha256))))

/-- What fails after the claim is finished as unresolved, and raises. -/
def orUnresolved {α : Type} (row : ClaimRow Digest) (deadline : ℤ) (message : String)
    (body : Dispatching Digest α) : Dispatching Digest α := do
  match ← body.attempt with
  | .ok a => return a
  | .error .cancelled => do
    finishShielded row .UNRESOLVED none deadline
    Program.raise .cancelled
  | .error _ => do
    finishShielded row .UNRESOLVED none deadline
    Program.raise (.dispatch message)

/-- The durable evidence of the signature. -/
def provesSignature (found : Option (ClaimRow Digest × Option (TerminalRow Digest))) : Bool :=
  match found with
  | some (claim, some terminal) =>
    claim.requestSha256 = arguments.request.signed.requestSha256
      ∧ claim.contextSha256 = p.sha256 (.context arguments.context)
      ∧ terminal.status = .COMPLETED
      ∧ terminal.resultSha256 = some arguments.request.signed.signatureSha256
  | _ => false

/-- `verify` in its thread, and whether it verified. -/
def verifiedBy (typed : Record) : Dispatching Digest Bool :=
  let request := arguments.request
  onException (do
    let message ← liftM (productionSignedMessage request.signingRequest.operation typed)
    dispatches (.verifySignature request.custodyBinding.walletAddress request.custodyBinding.chainId
      request.signingRequest.operation message request.signed.signature))
    fun _ => return false

def verifyEffectAsync : Dispatching Digest Unit :=
  dispatches (.verifyEffect arguments.request.signingRequest arguments.request.custodyBinding
    arguments.request.decisionId arguments.request.effectId)

/-- What comes before the claim; the high water after it. -/
def admitEffect (initial : Timestamp) (deadline : ℤ) : Dispatching Digest Timestamp := do
  let request := arguments.request
  let found ← guarded (.dispatch "durable signing evidence is unavailable")
    (dispatches (.loadClaim (p.sha256 (.context arguments.context))
      ⟨.TYPED_SIGNING, request.custodyBinding.custodyReference, request.signingRequest.requestId⟩))
  let high ← freshTime arguments.expiry initial deadline
  refuse (!provesSignature p arguments found)
    (.dispatch "signature has no exact completed durable signing claim")
  let typed ← liftM (typedMessage p request.signingRequest request.custodyBinding)
  let verified ← verifiedBy arguments typed
  let high ← freshTime arguments.expiry high deadline
  refuse (!verified) (.dispatch "managed signature failed independent wire-bound verification")
  guarded (.dispatch "authoritative wire-time state check failed") (verifyEffectAsync arguments)
  freshTime arguments.expiry high deadline

/-- The authority is checked again, and a token issued and consumed; the high water after it. -/
def issueToken (body : Record) (high : Timestamp) (deadline : ℤ) : Dispatching Digest Timestamp := do
  verifyEffectAsync arguments
  let high ← freshTime arguments.expiry high deadline
  let token : WireToken Digest :=
    ⟨arguments.request.method, arguments.request.path, p.sha256 (.body body), arguments.expiry, false⟩
  let now ← freshTime arguments.expiry high deadline
  let _ ← liftM (token.consume arguments.request.method arguments.request.path
    (p.sha256 (.body body)) now)
  return now

/-- The one POST; its response with the digest, and the high water after it. -/
def sendOnce (body : Record) (high : Timestamp) (deadline : ℤ) :
    Dispatching Digest (Record × Digest × Timestamp) := do
  let answer ← dispatches (.send arguments.request.method arguments.request.path body)
  let now ← freshTime arguments.expiry high deadline
  let response ← liftM (responseObject answer)
  let _ ← liftM (canonicalText p response)
  return (response, p.sha256 (.response response), now)

/-- What comes after the token: the POST, and its completed terminal. -/
def sendClaimed (row : ClaimRow Digest) (body : Record) (high : Timestamp) (deadline : ℤ) :
    Dispatching Digest Record := do
  let (response, responseSha256, high) ← orUnresolved row deadline
    "wire outcome is unresolved; do not retry" (sendOnce p arguments body high deadline)
  let high ← freshTime arguments.expiry high deadline
  finishShielded row .COMPLETED (some responseSha256) deadline
  let _ ← freshTime arguments.expiry high deadline
  return response

/-- What comes after the claim. -/
def dispatchClaimed (row : ClaimRow Digest) (body : Record) (high : Timestamp) (deadline : ℤ)
    (claimed : Bool) : Dispatching Digest Record := do
  let high ← freshTime arguments.expiry high deadline
  refuse (!claimed) (.dispatch "wire effect is already claimed or unresolved")
  let high ← orUnresolved row deadline
    "wire-time authorization failed; durable claim is not retryable"
    (issueToken p arguments body high deadline)
  sendClaimed p arguments row body high deadline

/-- What is checked, and derived from the verified message, before anything is awaited. -/
def prepareEffect (initial : Timestamp) : Except Err Record := do
  let request := arguments.request
  refuse (request.context ≠ arguments.context ∨ request.databaseUuid ≠ arguments.databaseUuid)
    (.dispatch "wire request differs from the pinned production scope")
  let message ← validateEffect p request
  refuse (arguments.expiry ≤ initial) (.dispatch "wire request expired before durable admission")
  let body ← productionWireBody request.signingRequest.operation message request.signed.signature
  let _ ← canonicalText p body
  return body

def dispatchOneBounded (initial : Timestamp) (deadline : ℤ) : Dispatching Digest Record := do
  let body ← liftM (prepareEffect p arguments initial)
  let high ← admitEffect p arguments initial deadline
  let claimed ← guarded (.dispatch "wire claim outcome is unresolved; do not retry")
    (dispatches (.claimWireOnce (arguments.claimRow p body)))
  dispatchClaimed p arguments (arguments.claimRow p body) body high deadline claimed

/-- The deadline of a request, by the two clocks when it was started. -/
def DispatchArguments.deadline (started : ℤ) (initial : Timestamp) : ℤ :=
  started + min (arguments.expiry - initial) (seconds 30)

def dispatchOne : Dispatching Digest Record := do
  let started ← dispatches .loopTime
  let read ← dispatches .clock
  let initial ← liftM (aware read)
  refuse (arguments.expiry - initial ≤ 0)
    (.dispatch "wire request expired before durable admission")
  refuse (arguments.expiry - initial > seconds 30)
    (.dispatch "wire request expiry exceeds the 30-second dispatch bound")
  let deadline := arguments.deadline started initial
  onTimeout (.dispatch "wire dispatch deadline elapsed; outcome may be unresolved; do not retry")
    (boundedBy (dispatches .timedOut) (dispatchOneBounded p arguments initial deadline))

end Boundary

end KairosExecution.Production
