import KairosExecution.Simulation.Models

/-! The causal IOC depth walk. A command is judged at its arrival: what is wrong with
the command itself ends it without a fill, what is wrong with the frame blocks the
session for good, and otherwise the book is walked against what the session has already
consumed. A command that has ended is recorded once, and replayed ever after. -/

namespace KairosExecution.Simulation

open Python

variable {Digest : Type} [DecidableEq Digest] (sha : Content → Digest)

/-- `value % increment` of positive decimals is not zero. -/
def offGrid (value increment : ℚ) : Bool := value - increment * Rat.floor (value / increment) ≠ 0

def frameIssue (frame : AcceptedBookFrame) (state : LiquidityState Digest) (arrival : ℕ)
    (policy : FillAssumptions) : Option String :=
  if let some reason := state.barrierReason then some reason
  else if frame.streamEpoch ≠ state.streamEpoch then some "STREAM_EPOCH_CHANGED"
  else if frame.continuity ≠ .ADMITTED then some ("SOURCE_" ++ frame.continuity.value)
  else if frame.persistedAtMs > arrival then some "FRAME_NOT_DURABLE_AT_ARRIVAL"
  else if arrival - frame.exchangeAtMs > policy.maximumBookAgeMs then some "STALE_BOOK"
  else if frame.receivedAtMs - frame.exchangeAtMs > policy.maximumFrameLatencyMs then
    some "EXCESSIVE_FRAME_LATENCY"
  else if frame.sequence < state.lastFrameSequence then some "FRAME_SEQUENCE_REGRESSION"
  else if frame.sequence = state.lastFrameSequence
      ∧ some (sha (.frame frame)) ≠ state.lastFrameSha256 then some "FRAME_IDENTITY_CONFLICT"
  else if frame.sequence ≠ state.lastFrameSequence
      ∧ (frame.exchangeUpdateId ≤ state.lastExchangeUpdateId
        ∨ frame.exchangeAtMs < state.lastExchangeAtMs
        ∨ frame.receivedAtMs < state.lastReceivedAtMs) then some "EXCHANGE_ORDER_REGRESSION"
  else if (frame.bids ++ frame.asks).any fun level => offGrid level.price policy.priceTick then
    some "BOOK_PRICE_RULE_MISMATCH"
  else if (frame.bids ++ frame.asks).any fun level => offGrid level.quantity policy.quantityStep then
    some "BOOK_QUANTITY_RULE_MISMATCH"
  else none

section Walk

/-- The price at which a level would execute: slipped, and rounded to the tick away
from the taker. -/
def executionPrice (side : OrderSide) (policy : FillAssumptions) (bookPrice : ℚ) : ℚ :=
  let rawPrice := bookPrice * (1 + side.direction * policy.adverseSlippageBps / 10_000)
  let ticks := rawPrice / policy.priceTick
  (match side with
    | .BUY => Rat.ceil ticks
    | .SELL => Rat.floor ticks) * policy.priceTick

/-- The level is beyond the command's cap. -/
def beyondCap (command : IOCCommand) (price : ℚ) : Bool :=
  price ≤ 0 || match command.side with
    | .BUY => decide (price > command.priceCap)
    | .SELL => decide (price < command.priceCap)

/-- What a level still offers after a debit, in whole steps. -/
def capacity (policy : FillAssumptions) (level : BookLevel) (debit : ℚ) : ℚ :=
  let available := max 0 (level.quantity * policy.depthParticipationFraction - debit)
  Rat.floor (available / policy.quantityStep) * policy.quantityStep

/-- The loop of `_walk` over the levels that are left. -/
def walkLevels (command : IOCCommand) (policy : FillAssumptions) :
    List BookLevel → ℚ → Depth → List LevelFill × Depth
  | [], _, consumed => ([], consumed)
  | level :: levels, remaining, consumed =>
    let price := executionPrice command.side policy level.price
    if beyondCap command price then ([], consumed)
    else
      let key := (command.side.book, level.price)
      let debit := consumed.getD key 0
      let quantity := min remaining (capacity policy level debit)
      if quantity = 0 then walkLevels command policy levels remaining consumed
      else
        let fill : LevelFill := {
          bookPrice := level.price
          executionPrice := price
          quantity
          feeQuote := quantity * price * policy.takerFeeBps / 10_000 }
        let consumed := consumed.set key (debit + quantity)
        if remaining - quantity = 0 then ([fill], consumed)
        else
          let (fills, consumed) := walkLevels command policy levels (remaining - quantity) consumed
          (fill :: fills, consumed)

def walk (command : IOCCommand) (frame : AcceptedBookFrame) (policy : FillAssumptions)
    (state : LiquidityState Digest) : List LevelFill × Depth :=
  let (fills, consumed) := walkLevels command policy (frame.levels command.side.book)
    command.quantity state.consumedDepth
  (fills, consumed.sorted keyOrder)

end Walk

/-- The reason why a command ends without regard to the book. -/
def commandIssue (command : IOCCommand) (policy : FillAssumptions) (arrival : ℕ) : Option String :=
  if command.persistedAtMs > arrival then some "COMMAND_NOT_DURABLE_AT_ARRIVAL"
  else if arrival < command.eligibleAtMs ∨ command.submittedAtMs < command.eligibleAtMs then
    some "NOT_YET_ELIGIBLE"
  else if arrival > command.expiresAtMs then some "ENTRY_EXPIRED"
  else if offGrid command.quantity policy.quantityStep then some "INVALID_QUANTITY_STEP"
  else if offGrid command.priceCap policy.priceTick then some "INVALID_PRICE_CAP_STEP"
  else none

/-- `outcome_fields`: the outcome of a command that has not filled. -/
def unfilled (command : IOCCommand) (frame : AcceptedBookFrame) (policy : FillAssumptions)
    (status : Status) (reason : String) : FillOutcome Digest where
  commandId := command.commandId
  commandSha256 := sha (.command command)
  assumptionsSha256 := sha (.assumptions policy)
  frameSha256 := some (sha (.frame frame))
  status := status
  reason := reason
  arrivalAtMs := command.submittedAtMs + policy.latencyMs
  requestedQuantity := command.quantity
  filledQuantity := 0
  cancelledQuantity := if status = .WAIT then 0 else command.quantity
  averagePrice := none
  notionalQuote := 0
  feeQuote := 0
  arrivalMidPrice := none
  implementationShortfallQuote := 0
  levelFills := []

/-- The price of the first level of a side; an admitted frame has one. -/
def best (levels : List BookLevel) : ℚ := (levels.head?.map (·.price)).getD 0

/-- The outcome of a command whose book was walked. -/
def walked (command : IOCCommand) (frame : AcceptedBookFrame) (policy : FillAssumptions)
    (fills : List LevelFill) : FillOutcome Digest :=
  let quantity := total fills (·.quantity)
  let notional := total fills fun fill => fill.quantity * fill.executionPrice
  let mid := (best frame.bids + best frame.asks) / 2
  { unfilled sha command frame policy
      (if quantity = 0 then .NO_FILL else if quantity = command.quantity then .FILLED else .PARTIAL)
      (if quantity = 0 then "NO_EXECUTABLE_DISPLAYED_CAPACITY" else "MODEL_IOC") with
    filledQuantity := quantity
    cancelledQuantity := command.quantity - quantity
    notionalQuote := notional
    feeQuote := total fills (·.feeQuote)
    averagePrice := if quantity = 0 then none else some (notional / quantity)
    arrivalMidPrice := some mid
    implementationShortfallQuote := (notional - quantity * mid) * command.side.direction
    levelFills := fills }

/-- `_evaluate` of a command that has arrived: its outcome, and the state without the
receipt of it. -/
def judge (command : IOCCommand) (frame : AcceptedBookFrame) (policy : FillAssumptions)
    (state : LiquidityState Digest) (asOfMs : ℕ) : FillOutcome Digest × LiquidityState Digest :=
  let arrival := command.submittedAtMs + policy.latencyMs
  let fields := { state with
    assumptionsSha256 := some (sha (.assumptions policy))
    lastAsOfMs := asOfMs
    lastArrivalAtMs := arrival }
  match commandIssue command policy arrival with
  | some reason => (unfilled sha command frame policy .NO_FILL reason, fields)
  | none => match frameIssue sha frame state arrival policy with
    | some issue =>
      (unfilled sha command frame policy .BLOCKED issue, { fields with barrierReason := some issue })
    | none =>
      let (fills, consumption) := walk command frame policy state
      (walked sha command frame policy fills, { fields with
        lastFrameSequence := frame.sequence
        lastFrameSha256 := some (sha (.frame frame))
        lastExchangeUpdateId := frame.exchangeUpdateId
        lastExchangeAtMs := frame.exchangeAtMs
        lastReceivedAtMs := frame.receivedAtMs
        consumedDepth := consumption })

/-- The receipt of a command that has ended. -/
def receiptOf (command : IOCCommand) (policy : FillAssumptions) (outcome : FillOutcome Digest) :
    CommandReceipt Digest where
  commandId := command.commandId
  commandSha256 := sha (.command command)
  assumptionsSha256 := sha (.assumptions policy)
  outcome := outcome

def evaluate (command : IOCCommand) (frame : AcceptedBookFrame) (policy : FillAssumptions)
    (state : LiquidityState Digest) (asOfMs : ℕ) : Except Err (ModelStep Digest) := do
  if asOfMs < command.submittedAtMs + policy.latencyMs then
    let outcome ← (unfilled sha command frame policy .WAIT "NOT_ARRIVED").checked
    return { outcome, state }
  else
    let (outcome, fields) := judge sha command frame policy state asOfMs
    let outcome ← outcome.checked
    let receipt := receiptOf sha command policy outcome
    let state ← LiquidityState.validate { fields with receipts := state.receipts ++ [receipt] }
    return { outcome, state }

/-- `simulate_ioc`; the clock event is an integer. -/
def simulateIoc (command : IOCCommand) (frame : AcceptedBookFrame) (assumptions : FillAssumptions)
    (state : LiquidityState Digest) (asOfMs : ℕ) : Except Err (ModelStep Digest) := do
  let state ← state.validate
  refuse (asOfMs < state.lastAsOfMs)
    (.value "as_of_ms must be a non-negative non-regressing integer clock event")
  refuse (command.sessionId ≠ state.sessionId ∨ command.symbol ≠ state.symbol)
    (.identity "command belongs to a different simulation session/symbol")
  refuse (frame.tapeId ≠ state.tapeId ∨ frame.symbol ≠ state.symbol)
    (.identity "book belongs to a different tape/symbol")
  let policyHash := sha (.assumptions assumptions)
  refuse (¬state.assumptionsSha256.all (· = policyHash))
    (.identity "simulation assumptions changed inside one session")
  match state.receipts.find? fun receipt => receipt.commandId = command.commandId with
  | some receipt =>
    refuse (receipt.commandSha256 ≠ sha (.command command) ∨ receipt.assumptionsSha256 ≠ policyHash)
      (.identity "command ID was reused with different content")
    return { outcome := receipt.outcome, state, replayed := true }
  | none =>
    refuse (state.receipts.length ≥ maxCommands)
      (.value "bounded simulation receipt capacity exhausted; never evict idempotency evidence")
    refuse (command.submittedAtMs + assumptions.latencyMs < state.lastArrivalAtMs)
      (.identity "new command arrival predates an already processed terminal command")
    evaluate sha command frame assumptions state asOfMs

end KairosExecution.Simulation
