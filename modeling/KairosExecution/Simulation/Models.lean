import KairosExecution.Python.Dict

/-! The immutable inputs and outputs of the IOC model. An amount is an exact rational:
the decimal context of the source has 96 digits, which hold every sum and product of
admitted amounts that a quantity depends on. What a model validator demands of inputs is
carried by the structures; outcomes and states are checked where they are built, and a
check that fails raises. A digest is what SHA-256 makes of canonical JSON. -/

namespace KairosExecution.Simulation

open Python

/-- `ValueError`, a pydantic one included, or `SimulationIdentityConflict`. -/
inductive Err
  | value (message : String)
  | identity (message : String)
  deriving DecidableEq

/-- `if condition: raise error` -/
def refuse (condition : Bool) (error : Err) : Except Err Unit :=
  if condition then .error error else .ok ()

@[simp] theorem refuse_eq_ok {condition : Bool} {error : Err} {u : Unit} :
    refuse condition error = .ok u ↔ condition = false := by
  cases condition <;> simp [refuse]

/-- `Timestamp`: at most `9_223_372_036_854_775_807`. -/
def maxTimestamp : ℕ := 9_223_372_036_854_775_807

inductive OrderSide
  | BUY | SELL
  deriving DecidableEq

inductive BookSide
  | ASK | BID
  deriving DecidableEq

/-- The side of the book that an order trades against. -/
def OrderSide.book : OrderSide → BookSide
  | .BUY => .ASK
  | .SELL => .BID

/-- `+1` for a buyer, `-1` for a seller. -/
def OrderSide.direction : OrderSide → ℚ
  | .BUY => 1
  | .SELL => -1

def maxCommands : ℕ := 1_024

@[ext] structure BookLevel where
  price : ℚ
  quantity : ℚ
  price_pos : 0 < price
  quantity_pos : 0 < quantity

instance : DecidableEq BookLevel := fun _ _ => decidable_of_iff _ BookLevel.ext_iff.symm

inductive Continuity
  | ADMITTED | GAP | RECONNECT | UNKNOWN | UNAVAILABLE | CLOCK_SKEW
  deriving DecidableEq

def Continuity.value : Continuity → String
  | .ADMITTED => "ADMITTED"
  | .GAP => "GAP"
  | .RECONNECT => "RECONNECT"
  | .UNKNOWN => "UNKNOWN"
  | .UNAVAILABLE => "UNAVAILABLE"
  | .CLOCK_SKEW => "CLOCK_SKEW"

/-- `AcceptedBookFrame`, with what `coherent_frame` demands. -/
@[ext] structure AcceptedBookFrame where
  tapeId : String
  streamEpoch : String
  symbol : String
  sequence : ℕ
  exchangeUpdateId : ℕ
  exchangeAtMs : ℕ
  receivedAtMs : ℕ
  persistedAtMs : ℕ
  rawPayloadSha256 : String
  continuity : Continuity
  bids : List BookLevel
  asks : List BookLevel
  sequence_pos : 0 < sequence
  update_pos : 0 < exchangeUpdateId
  times : exchangeAtMs ≤ receivedAtMs ∧ receivedAtMs ≤ persistedAtMs
  both_sides : continuity = .ADMITTED → bids ≠ [] ∧ asks ≠ []
  bids_descend : bids.Pairwise fun a b => b.price < a.price
  asks_ascend : asks.Pairwise fun a b => a.price < b.price
  uncrossed : ∀ bid ∈ bids.head?, ∀ ask ∈ asks.head?, bid.price < ask.price

instance : DecidableEq AcceptedBookFrame := fun _ _ => decidable_of_iff _ AcceptedBookFrame.ext_iff.symm

/-- The levels on one side of the book. -/
def AcceptedBookFrame.levels (frame : AcceptedBookFrame) : BookSide → List BookLevel
  | .ASK => frame.asks
  | .BID => frame.bids

/-- `IOCCommand`, with what `coherent_command` demands. -/
@[ext] structure IOCCommand where
  sessionId : String
  commandId : String
  symbol : String
  side : OrderSide
  quantity : ℚ
  priceCap : ℚ
  submittedAtMs : ℕ
  persistedAtMs : ℕ
  eligibleAtMs : ℕ
  expiresAtMs : ℕ
  quantity_pos : 0 < quantity
  cap_pos : 0 < priceCap
  persisted : submittedAtMs ≤ persistedAtMs
  expires : eligibleAtMs ≤ expiresAtMs

instance : DecidableEq IOCCommand := fun _ _ => decidable_of_iff _ IOCCommand.ext_iff.symm

/-- `FillAssumptions`, with what `finite_adverse_costs` demands. -/
@[ext] structure FillAssumptions where
  latencyMs : ℕ
  maximumBookAgeMs : ℕ
  maximumFrameLatencyMs : ℕ
  depthParticipationFraction : ℚ
  adverseSlippageBps : ℚ
  takerFeeBps : ℚ
  priceTick : ℚ
  quantityStep : ℚ
  fraction_range : 0 < depthParticipationFraction ∧ depthParticipationFraction ≤ 1
  slippage_range : 0 ≤ adverseSlippageBps ∧ adverseSlippageBps < 10_000
  fee_range : 0 ≤ takerFeeBps ∧ takerFeeBps ≤ 10_000
  tick_pos : 0 < priceTick
  step_pos : 0 < quantityStep

instance : DecidableEq FillAssumptions := fun _ _ => decidable_of_iff _ FillAssumptions.ext_iff.symm

structure LevelFill where
  bookPrice : ℚ
  executionPrice : ℚ
  quantity : ℚ
  feeQuote : ℚ
  deriving DecidableEq

inductive Status
  | WAIT | FILLED | PARTIAL | NO_FILL | BLOCKED
  deriving DecidableEq

/-- Whether the outcome is a model fill. -/
def Status.fills : Status → Bool
  | .FILLED | .PARTIAL => true
  | _ => false

/-- The models that are fingerprinted. -/
inductive Content
  | frame (frame : AcceptedBookFrame)
  | command (command : IOCCommand)
  | assumptions (assumptions : FillAssumptions)
  deriving DecidableEq

variable {Digest : Type}

/-- `FillOutcome`; the fixed fields that say it is simulated are left out. -/
structure FillOutcome (Digest : Type) where
  commandId : String
  commandSha256 : Digest
  assumptionsSha256 : Digest
  frameSha256 : Option Digest
  status : Status
  reason : String
  arrivalAtMs : ℕ
  requestedQuantity : ℚ
  filledQuantity : ℚ
  cancelledQuantity : ℚ
  averagePrice : Option ℚ
  notionalQuote : ℚ
  feeQuote : ℚ
  arrivalMidPrice : Option ℚ
  implementationShortfallQuote : ℚ
  levelFills : List LevelFill
  deriving DecidableEq

/-- `sum(value(fill) for fill in fills)` -/
def total (fills : List LevelFill) (value : LevelFill → ℚ) : ℚ := (fills.map value).sum

/-- `coherent_outcome`, and the bounds of the fields that a call could exceed -/
def FillOutcome.coherent (o : FillOutcome Digest) : Except Err Unit := do
  let quantity := total o.levelFills (·.quantity)
  let notional := total o.levelFills fun fill => fill.quantity * fill.executionPrice
  let fees := total o.levelFills (·.feeQuote)
  refuse (o.arrivalAtMs > maxTimestamp) (.value "arrival_at_ms")
  refuse (o.implementationShortfallQuote < 0) (.value "implementation_shortfall_quote")
  refuse (quantity ≠ o.filledQuantity ∨ notional ≠ o.notionalQuote ∨ fees ≠ o.feeQuote)
    (.value "fill totals must match their immutable level fills")
  refuse (o.status = .WAIT ∧ (quantity ≠ 0 ∨ o.cancelledQuantity ≠ 0))
    (.value "WAIT cannot consume or cancel quantity")
  refuse (o.status ≠ .WAIT ∧ quantity + o.cancelledQuantity ≠ o.requestedQuantity)
    (.value "terminal quantity must be filled or cancelled exactly once")
  refuse (o.status = .FILLED ∧ quantity ≠ o.requestedQuantity)
    (.value "FILLED requires the entire requested quantity")
  refuse (o.status = .PARTIAL ∧ ¬(0 < quantity ∧ quantity < o.requestedQuantity))
    (.value "PARTIAL requires strictly partial quantity")
  refuse ((o.status = .WAIT ∨ o.status = .NO_FILL ∨ o.status = .BLOCKED) ∧ quantity ≠ 0)
    (.value "non-fill statuses cannot contain fills")
  refuse (quantity ≠ 0 ∧ o.frameSha256.isNone)
    (.value "a model fill requires its exact accepted book frame")
  refuse (o.averagePrice ≠ (if quantity = 0 then none else some (notional / quantity)))
    (.value "average price must match filled notional and quantity")
  refuse (quantity ≠ 0 ∧ o.arrivalMidPrice.isNone)
    (.value "a model fill requires its arrival book reference")
  refuse (quantity = 0 ∧ o.implementationShortfallQuote ≠ 0)
    (.value "no quantity means no execution shortfall")

/-- `FillOutcome(...)` -/
def FillOutcome.checked (o : FillOutcome Digest) : Except Err (FillOutcome Digest) := do
  o.coherent
  return o

structure CommandReceipt (Digest : Type) where
  commandId : String
  commandSha256 : Digest
  assumptionsSha256 : Digest
  outcome : FillOutcome Digest
  deriving DecidableEq

/-- The debits of a session, by book side and price. -/
abbrev Depth := Dict (BookSide × ℚ) ℚ

/-- The order of `sorted` on the keys of a debit: by side, then by price. -/
def keyOrder (a b : BookSide × ℚ) : Prop :=
  (a.1 = .ASK ∧ b.1 = .BID) ∨ (a.1 = b.1 ∧ a.2 ≤ b.2)

instance : DecidableRel keyOrder := fun _ _ => inferInstanceAs (Decidable (_ ∨ _))

structure LiquidityState (Digest : Type) where
  sessionId : String
  tapeId : String
  streamEpoch : String
  symbol : String
  assumptionsSha256 : Option Digest := none
  lastAsOfMs : ℕ := 0
  lastArrivalAtMs : ℕ := 0
  lastFrameSequence : ℕ := 0
  lastExchangeUpdateId : ℕ := 0
  lastExchangeAtMs : ℕ := 0
  lastReceivedAtMs : ℕ := 0
  lastFrameSha256 : Option Digest := none
  barrierReason : Option String := none
  consumedDepth : Depth := []
  receipts : List (CommandReceipt Digest) := []
  deriving DecidableEq

variable [DecidableEq Digest]

/-- The lineage that `coherent_state` demands of a receipt. -/
def LiquidityState.lineage (s : LiquidityState Digest) (receipt : CommandReceipt Digest) : Bool :=
  receipt.commandId = receipt.outcome.commandId
    && receipt.commandSha256 = receipt.outcome.commandSha256
    && receipt.assumptionsSha256 = receipt.outcome.assumptionsSha256
    && some receipt.assumptionsSha256 = s.assumptionsSha256
    && receipt.outcome.status ≠ .WAIT

/-- `coherent_state`, and the bounds of the fields that a call could exceed -/
def LiquidityState.coherent (s : LiquidityState Digest) : Except Err Unit := do
  let arrivals := s.receipts.map (·.outcome.arrivalAtMs)
  refuse (s.lastAsOfMs > maxTimestamp) (.value "last_as_of_ms")
  refuse (s.receipts.length > maxCommands) (.value "receipts")
  refuse (s.consumedDepth.any fun entry => entry.2 ≤ 0) (.value "consumed_depth")
  refuse (¬s.consumedDepth.Unique) (.value "depth consumption keys must be unique")
  refuse (¬(s.receipts.map (·.commandId)).Nodup) (.value "command receipts must be unique")
  refuse (decide (s.lastFrameSequence = 0) ≠ s.lastFrameSha256.isNone)
    (.value "frame cursor requires its immutable hash")
  refuse (decide (s.lastFrameSequence = 0) ≠ decide (s.lastExchangeUpdateId = 0))
    (.value "frame cursor requires its exchange update ID")
  refuse ((s.receipts ≠ [] ∨ s.consumedDepth ≠ []) ∧ s.assumptionsSha256 = none)
    (.value "used liquidity state requires its immutable model fingerprint")
  refuse (s.lastArrivalAtMs > s.lastAsOfMs)
    (.value "terminal arrivals cannot follow their evaluation clock")
  refuse (¬arrivals.Pairwise (· ≤ ·) ∨ ¬arrivals.getLast?.all (· = s.lastArrivalAtMs))
    (.value "terminal receipt arrival order must match the causal cursor")
  refuse (!s.receipts.all s.lineage) (.value "receipt lineage or terminality is inconsistent")

/-- `LiquidityState.model_validate` -/
def LiquidityState.validate (s : LiquidityState Digest) : Except Err (LiquidityState Digest) := do
  s.coherent
  return s

structure ModelStep (Digest : Type) where
  outcome : FillOutcome Digest
  state : LiquidityState Digest
  replayed : Bool := false
  deriving DecidableEq

end KairosExecution.Simulation
