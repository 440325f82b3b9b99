import KairosExecution.Python.Context
import KairosExecution.Simulation.Fields
import KairosExecution.Simulation.Run

/-! The IOC model in the decimal context of the source. Every operation of the walk and of
its totals is rounded to 96 significant digits, and what is built is checked against the
bounds of its fields: the size, the digits and the decimals of an amount, the length of a
text, the number of entries. Nothing that has been computed is taken for exact here. -/

namespace KairosExecution.Simulation.Arithmetic

open Python

/-- `_ARITHMETIC` -/
def context : Context := ⟨96, by norm_num⟩

section Walk

variable (c : Context)

/-- `raw_price / policy.price_tick` -/
def ticks (side : OrderSide) (policy : FillAssumptions) (bookPrice : ℚ) : ℚ :=
  let slippage := c.round (c.round (side.direction * policy.adverseSlippageBps) / 10_000)
  let rawPrice := c.round (bookPrice * c.round (1 + slippage))
  c.round (rawPrice / policy.priceTick)

/-- The price at which a level would execute. -/
def executionPrice (side : OrderSide) (policy : FillAssumptions) (bookPrice : ℚ) : ℚ :=
  c.round ((match side with
    | .BUY => Rat.ceil (ticks c side policy bookPrice)
    | .SELL => Rat.floor (ticks c side policy bookPrice)) * policy.priceTick)

/-- `available / policy.quantity_step` -/
def steps (policy : FillAssumptions) (level : BookLevel) (debit : ℚ) : ℚ :=
  let displayed := c.round (level.quantity * policy.depthParticipationFraction)
  let available := max 0 (c.round (displayed - debit))
  c.round (available / policy.quantityStep)

/-- What a level still offers after a debit, in whole steps. -/
def capacity (policy : FillAssumptions) (level : BookLevel) (debit : ℚ) : ℚ :=
  c.round (Rat.floor (steps c policy level debit) * policy.quantityStep)

/-- `quantity * price * policy.taker_fee_bps / _BPS` -/
def feeOf (policy : FillAssumptions) (quantity price : ℚ) : ℚ :=
  c.round (c.round (c.round (quantity * price) * policy.takerFeeBps) / 10_000)

/-- The loop of `_walk` over the levels that are left. -/
def walkLevels (command : IOCCommand) (policy : FillAssumptions) :
    List BookLevel → ℚ → Depth → List LevelFill × Depth
  | [], _, consumed => ([], consumed)
  | level :: levels, remaining, consumed =>
    let price := executionPrice c command.side policy level.price
    if beyondCap command price then ([], consumed)
    else
      let key := (command.side.book, level.price)
      let debit := consumed.getD key 0
      let quantity := min remaining (capacity c policy level debit)
      if quantity = 0 then walkLevels command policy levels remaining consumed
      else
        let fill : LevelFill := {
          bookPrice := level.price
          executionPrice := price
          quantity
          feeQuote := feeOf c policy quantity price }
        let consumed := consumed.set key (c.round (debit + quantity))
        let remaining := c.round (remaining - quantity)
        if remaining = 0 then ([fill], consumed)
        else
          let (fills, consumed) := walkLevels command policy levels remaining consumed
          (fill :: fills, consumed)

variable {Digest : Type} [DecidableEq Digest] (sha : Content → Digest)

def walk (command : IOCCommand) (frame : AcceptedBookFrame) (policy : FillAssumptions)
    (state : LiquidityState Digest) : List LevelFill × Depth :=
  let (fills, consumed) := walkLevels c command policy (frame.levels command.side.book)
    command.quantity state.consumedDepth
  (fills, consumed.sorted keyOrder)

/-- `sum(value(fill) for fill in fills)` -/
def total (fills : List LevelFill) (value : LevelFill → ℚ) : ℚ := c.sum (fills.map value)

/-- The outcome of a command whose book was walked. -/
def walked (command : IOCCommand) (frame : AcceptedBookFrame) (policy : FillAssumptions)
    (fills : List LevelFill) : FillOutcome Digest :=
  let quantity := total c fills (·.quantity)
  let notional := total c fills fun fill => c.round (fill.executionPrice * fill.quantity)
  let mid := c.round (c.round (best frame.bids + best frame.asks) / 2)
  let shortfall := c.round (c.round (notional - c.round (quantity * mid)) * command.side.direction)
  { unfilled sha command frame policy
      (if quantity = 0 then .NO_FILL else if quantity = command.quantity then .FILLED else .PARTIAL)
      (if quantity = 0 then "NO_EXECUTABLE_DISPLAYED_CAPACITY" else "MODEL_IOC") with
    filledQuantity := quantity
    cancelledQuantity := c.round (command.quantity - quantity)
    notionalQuote := notional
    feeQuote := total c fills (·.feeQuote)
    averagePrice := if quantity = 0 then none else some (c.round (notional / quantity))
    arrivalMidPrice := some mid
    implementationShortfallQuote := shortfall
    levelFills := fills }

/-- `_evaluate` of a command that has arrived. A remainder that is rounded is zero only if
it is zero, so the reasons to stop before the walk are those of exact amounts. -/
def judge (command : IOCCommand) (frame : AcceptedBookFrame) (policy : FillAssumptions)
    (state : LiquidityState Digest) (asOfMs : ℕ) : FillOutcome Digest × LiquidityState Digest :=
  let arrival := command.submittedAtMs + policy.latencyMs
  let fields := { state with
    assumptionsSha256 := some (sha (.assumptions policy))
    lastAsOfMs := asOfMs
    lastArrivalAtMs := arrival }
  match commandIssue command policy arrival with
  | some reason => (unfilled sha command frame policy .NO_FILL reason, fields)
  | none => match frameIssue sha frame state arrival policy with
    | some issue =>
      (unfilled sha command frame policy .BLOCKED issue, { fields with barrierReason := some issue })
    | none =>
      let (fills, consumption) := walk c command frame policy state
      (walked c sha command frame policy fills, { fields with
        lastFrameSequence := frame.sequence
        lastFrameSha256 := some (sha (.frame frame))
        lastExchangeUpdateId := frame.exchangeUpdateId
        lastExchangeAtMs := frame.exchangeAtMs
        lastReceivedAtMs := frame.receivedAtMs
        consumedDepth := consumption })

end Walk

section Validation

variable (c : Context) {Digest : Type} [DecidableEq Digest]

omit [DecidableEq Digest] in
/-- `coherent_outcome`, which has a context of its own of as many digits. -/
def coherentOutcome (o : FillOutcome Digest) : Except Err Unit := do
  let quantity := total c o.levelFills (·.quantity)
  let notional := total c o.levelFills fun fill => c.round (fill.quantity * fill.executionPrice)
  let fees := total c o.levelFills (·.feeQuote)
  refuse (quantity ≠ o.filledQuantity ∨ notional ≠ o.notionalQuote ∨ fees ≠ o.feeQuote)
    (.value "fill totals must match their immutable level fills")
  refuse (o.status = .WAIT ∧ (quantity ≠ 0 ∨ o.cancelledQuantity ≠ 0))
    (.value "WAIT cannot consume or cancel quantity")
  refuse (o.status ≠ .WAIT ∧ c.round (quantity + o.cancelledQuantity) ≠ o.requestedQuantity)
    (.value "terminal quantity must be filled or cancelled exactly once")
  refuse (o.status = .FILLED ∧ quantity ≠ o.requestedQuantity)
    (.value "FILLED requires the entire requested quantity")
  refuse (o.status = .PARTIAL ∧ ¬(0 < quantity ∧ quantity < o.requestedQuantity))
    (.value "PARTIAL requires strictly partial quantity")
  refuse ((o.status = .WAIT ∨ o.status = .NO_FILL ∨ o.status = .BLOCKED) ∧ quantity ≠ 0)
    (.value "non-fill statuses cannot contain fills")
  refuse (quantity ≠ 0 ∧ o.frameSha256.isNone)
    (.value "a model fill requires its exact accepted book frame")
  refuse (o.averagePrice ≠ (if quantity = 0 then none else some (c.round (notional / quantity))))
    (.value "average price must match filled notional and quantity")
  refuse (quantity ≠ 0 ∧ o.arrivalMidPrice.isNone)
    (.value "a model fill requires its arrival book reference")
  refuse (quantity = 0 ∧ o.implementationShortfallQuote ≠ 0)
    (.value "no quantity means no execution shortfall")

omit [DecidableEq Digest] in
/-- `FillOutcome(...)` -/
def validateOutcome (o : FillOutcome Digest) : Except Err (FillOutcome Digest) := do
  refuse (!outcomeFields o) (.value "outcome")
  coherentOutcome c o
  return o

omit [DecidableEq Digest] in
/-- `CommandReceipt(...)` -/
def receiptFields (receipt : CommandReceipt Digest) : Bool :=
  identifier receipt.commandId && (validateOutcome c receipt.outcome).isOk

omit [DecidableEq Digest] in
/-- The fields of a `LiquidityState` that are bounded. -/
def stateFields (s : LiquidityState Digest) : Bool :=
  identifier s.sessionId && identifier s.tapeId && identifier s.streamEpoch && s.symbol ∈ symbols
    && timestamp s.lastAsOfMs && timestamp s.lastArrivalAtMs
    && timestamp s.lastExchangeAtMs && timestamp s.lastReceivedAtMs
    && s.barrierReason.all reasonFits
    && s.consumedDepth.length ≤ 102_400
    && (s.consumedDepth.all fun entry => positiveAmount entry.1.2 && calculatedPositive entry.2)
    && s.receipts.length ≤ maxCommands && s.receipts.all (receiptFields c)

/-- `LiquidityState.model_validate` -/
def validateState (s : LiquidityState Digest) : Except Err (LiquidityState Digest) := do
  refuse (!stateFields c s) (.value "state")
  s.validate

variable (sha : Content → Digest)

def evaluate (command : IOCCommand) (frame : AcceptedBookFrame) (policy : FillAssumptions)
    (state : LiquidityState Digest) (asOfMs : ℕ) : Except Err (ModelStep Digest) := do
  if asOfMs < command.submittedAtMs + policy.latencyMs then
    let outcome ← validateOutcome c (unfilled sha command frame policy .WAIT "NOT_ARRIVED")
    return { outcome, state }
  else
    let (outcome, fields) := judge c sha command frame policy state asOfMs
    let outcome ← validateOutcome c outcome
    let receipt := receiptOf sha command policy outcome
    let state ← validateState c { fields with receipts := state.receipts ++ [receipt] }
    return { outcome, state }

def simulateIoc (command : IOCCommand) (frame : AcceptedBookFrame) (assumptions : FillAssumptions)
    (state : LiquidityState Digest) (asOfMs : ℕ) : Except Err (ModelStep Digest) := do
  refuse (!commandFields command) (.value "command")
  refuse (!frameFields frame) (.value "frame")
  refuse (!assumptionFields assumptions) (.value "assumptions")
  let state ← validateState c state
  refuse (asOfMs < state.lastAsOfMs)
    (.value "as_of_ms must be a non-negative non-regressing integer clock event")
  refuse (command.sessionId ≠ state.sessionId ∨ command.symbol ≠ state.symbol)
    (.identity "command belongs to a different simulation session/symbol")
  refuse (frame.tapeId ≠ state.tapeId ∨ frame.symbol ≠ state.symbol)
    (.identity "book belongs to a different tape/symbol")
  let policyHash := sha (.assumptions assumptions)
  refuse (¬state.assumptionsSha256.all (· = policyHash))
    (.identity "simulation assumptions changed inside one session")
  match state.receipts.find? fun receipt => receipt.commandId = command.commandId with
  | some receipt =>
    refuse (receipt.commandSha256 ≠ sha (.command command) ∨ receipt.assumptionsSha256 ≠ policyHash)
      (.identity "command ID was reused with different content")
    return { outcome := receipt.outcome, state, replayed := true }
  | none =>
    refuse (state.receipts.length ≥ maxCommands)
      (.value "bounded simulation receipt capacity exhausted; never evict idempotency evidence")
    refuse (command.submittedAtMs + assumptions.latencyMs < state.lastArrivalAtMs)
      (.identity "new command arrival predates an already processed terminal command")
    evaluate c sha command frame assumptions state asOfMs

end Validation

end KairosExecution.Simulation.Arithmetic
