import KairosExecution.Production.Records

/-! The one-use claims and their terminals. A claim is unique for its kind, namespace and
identity, and so is a terminal; a row is inserted where there is none and is never
changed. A second claim of the same digest is told that it is not the first, one of
another digest raises; a terminal has to resolve its exact claim. -/

namespace KairosExecution.Production

open Python

inductive ClaimKind
  | MANUAL_NONCE | TYPED_SIGNING | WIRE_DISPATCH
  deriving DecidableEq

/-- What a claim is unique for. -/
structure ClaimKey where
  kind : ClaimKind
  «namespace» : String
  identity : String
  deriving DecidableEq

/-- A row of `claims`. -/
structure ClaimRow (Digest : Type) where
  key : ClaimKey
  requestSha256 : Digest
  contextSha256 : Digest
  deriving DecidableEq

inductive TerminalStatus
  | COMPLETED | UNRESOLVED
  deriving DecidableEq

/-- A row of `terminals`, or of `wire_terminals`: the kind says of which. -/
structure TerminalRow (Digest : Type) where
  key : ClaimKey
  requestSha256 : Digest
  status : TerminalStatus
  resultSha256 : Option Digest
  deriving DecidableEq

/-- The tables of the claims schema. -/
structure ClaimStore (Digest : Type) where
  claims : List (ClaimRow Digest) := []
  terminals : List (TerminalRow Digest) := []
  deriving DecidableEq

variable {Digest : Type} [DecidableEq Digest]

/-- `claim`, as a transaction on the table: whether the claim is the first. -/
def insertClaim (claims : List (ClaimRow Digest)) (row : ClaimRow Digest) :
    Except Err (List (ClaimRow Digest) × Bool) :=
  match claims.find? (·.key = row.key) with
  | none => .ok (claims ++ [row], true)
  | some prior => do
    refuse (prior.requestSha256 ≠ row.requestSha256 ∨ prior.contextSha256 ≠ row.contextSha256)
      (.claim "one-use claim identity was rebound")
    return (claims, false)

def ClaimStore.claim (store : ClaimStore Digest) (row : ClaimRow Digest) :
    Except Err (ClaimStore Digest × Bool) := do
  let (claims, first) ← insertClaim store.claims row
  return ({ store with claims }, first)

/-- What is finished, as the messages name it. -/
def ClaimKind.finished : ClaimKind → String
  | .WIRE_DISPATCH => "wire"
  | _ => "signing"

/-- A terminal has a result where it is completed, and only there. -/
def TerminalRow.valid (row : TerminalRow Digest) : Bool :=
  match row.status with
  | .COMPLETED => row.resultSha256.isSome
  | .UNRESOLVED => row.resultSha256.isNone

/-- `finish_signing_async` and `finish_wire_async`, by the kind of the key, of the runtime
of a context. -/
def ClaimStore.finish (store : ClaimStore Digest) (contextSha256 : Digest)
    (row : TerminalRow Digest) : Except Err (ClaimStore Digest) := do
  let what := row.key.kind.finished
  refuse (!row.valid) (.claim s!"invalid {what} terminal evidence")
  let prior ← required (.claim s!"{what} terminal does not resolve its exact claim")
    (store.claims.find? (·.key = row.key))
  refuse (prior.requestSha256 ≠ row.requestSha256 ∨ prior.contextSha256 ≠ contextSha256)
    (.claim s!"{what} terminal does not resolve its exact claim")
  match store.terminals.find? (·.key = row.key) with
  | none => return { store with terminals := store.terminals ++ [row] }
  | some existing => do
    refuse (existing.status ≠ row.status ∨ existing.resultSha256 ≠ row.resultSha256)
      (.claim s!"immutable {what} terminal conflict")
    return store

/-- `load_claim`: a claim of the runtime's context, with its terminal. -/
def ClaimStore.load (store : ClaimStore Digest) (contextSha256 : Digest) (key : ClaimKey) :
    Except Err (Option (ClaimRow Digest × Option (TerminalRow Digest))) :=
  match store.claims.find? (·.key = key) with
  | none => .ok none
  | some row => do
    refuse (row.contextSha256 ≠ contextSha256)
      (.claim "production claim observation scope mismatch")
    return some (row, store.terminals.find? (·.key = key))

end KairosExecution.Production
