import KairosExecution.Simulation.FillModel

/-! What the fields of the kernel's models are bounded by: the size, the digits and the
decimals of an amount, the length of a text, the number of entries. A model whose fields are
out of bounds cannot be built. A digest is taken for one. -/

namespace KairosExecution.Simulation.Arithmetic

/-- `max_digits` and `decimal_places`: zeros at the end do not count. -/
def digitsFit (maxDigits places : ℕ) (value : ℚ) : Bool :=
  (value * 10 ^ places).den = 1 && |value| < 10 ^ (maxDigits - places)

def positiveAmount (value : ℚ) : Bool := 0 < value && value ≤ 10 ^ 18 && digitsFit 38 18 value

def nonnegativeAmount (value : ℚ) : Bool := 0 ≤ value && value ≤ 10 ^ 18 && digitsFit 38 18 value

def calculatedPositive (value : ℚ) : Bool := 0 < value && value ≤ 10 ^ 40 && digitsFit 160 120 value

def calculatedNonnegative (value : ℚ) : Bool :=
  0 ≤ value && value ≤ 10 ^ 40 && digitsFit 160 120 value

def identifier (text : String) : Bool :=
  let rest (c : Char) : Bool := c.isAlphanum || c ∈ ['_', '.', ':', '/', '-']
  1 ≤ text.length && text.length ≤ 128 && text.toList.head?.any Char.isAlphanum
    && text.toList.tail.all rest

/-- `Symbol` -/
def symbols : List String := ["BTCUSDT", "ETHUSDT", "SOLUSDT", "BNBUSDT", "XRPUSDT"]

/-- A reason has between one and a hundred characters. -/
def reasonFits (reason : String) : Bool := 1 ≤ reason.length && reason.length ≤ 100

def timestamp (ms : ℕ) : Bool := ms ≤ maxTimestamp

def levelFields (level : BookLevel) : Bool :=
  positiveAmount level.price && positiveAmount level.quantity

/-- The fields of an `AcceptedBookFrame` that are bounded. -/
def frameFields (frame : AcceptedBookFrame) : Bool :=
  identifier frame.tapeId && identifier frame.streamEpoch && frame.symbol ∈ symbols
    && timestamp frame.exchangeAtMs && timestamp frame.receivedAtMs && timestamp frame.persistedAtMs
    && frame.bids.length ≤ 100 && frame.asks.length ≤ 100
    && frame.bids.all levelFields && frame.asks.all levelFields

/-- The fields of an `IOCCommand` that are bounded. -/
def commandFields (command : IOCCommand) : Bool :=
  identifier command.sessionId && identifier command.commandId && command.symbol ∈ symbols
    && positiveAmount command.quantity && positiveAmount command.priceCap
    && timestamp command.submittedAtMs && timestamp command.persistedAtMs
    && timestamp command.eligibleAtMs && timestamp command.expiresAtMs

/-- The fields of `FillAssumptions` that are bounded. -/
def assumptionFields (policy : FillAssumptions) : Bool :=
  policy.latencyMs ≤ 60_000
    && 0 < policy.maximumBookAgeMs && policy.maximumBookAgeMs ≤ 60_000
    && 0 < policy.maximumFrameLatencyMs && policy.maximumFrameLatencyMs ≤ 60_000
    && digitsFit 19 18 policy.depthParticipationFraction
    && nonnegativeAmount policy.adverseSlippageBps && nonnegativeAmount policy.takerFeeBps
    && positiveAmount policy.priceTick && positiveAmount policy.quantityStep

def fillFields (fill : LevelFill) : Bool :=
  positiveAmount fill.bookPrice && calculatedPositive fill.executionPrice
    && positiveAmount fill.quantity && calculatedNonnegative fill.feeQuote

variable {Digest : Type}

/-- The fields of a `FillOutcome` that are bounded. -/
def outcomeFields (o : FillOutcome Digest) : Bool :=
  identifier o.commandId && reasonFits o.reason && timestamp o.arrivalAtMs
    && positiveAmount o.requestedQuantity && nonnegativeAmount o.filledQuantity
    && nonnegativeAmount o.cancelledQuantity && o.averagePrice.all calculatedPositive
    && calculatedNonnegative o.notionalQuote && calculatedNonnegative o.feeQuote
    && o.arrivalMidPrice.all calculatedPositive
    && calculatedNonnegative o.implementationShortfallQuote
    && o.levelFills.length ≤ 100 && o.levelFills.all fillFields

end KairosExecution.Simulation.Arithmetic
