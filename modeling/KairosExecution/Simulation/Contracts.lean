import KairosExecution.Simulation.FillModel

/-! The contracts of the simulator: what the controller reads of sessions, admissions,
trades, bars and commands, and the facts that it records. Amounts are the decimals of
their texts, and an amount that is computed is rounded where a contract takes it, which
the float contract says; where none is given, amounts are exact. Optional fields that a contract always derives are taken as present, and a
command carries the signs and the orders of times that its validator demands; what the kernel's
own models demand beyond that is checked where the controller builds them. A receipt stands for
its own id, and the place of an event in its journal for its hash link. -/

namespace KairosExecution.Simulation

/-- What a contract makes of an amount: the decimal that the text of the nearest float
says. Rounding keeps the order, and what a text says is read back as it stands. Amounts
beyond the floats are not told apart, since a contract that refuses one only stops its
call. -/
structure FloatContract where
  value : ℚ → ℚ
  mono : Monotone value
  idempotent : ∀ amount, value (value amount) = value amount
  zero : value 0 = 0

/-- Amounts that need no rounding. -/
def FloatContract.exact : FloatContract := ⟨id, monotone_id, fun _ => rfl, rfl⟩

@[simp] theorem FloatContract.exact_value (amount : ℚ) : FloatContract.exact.value amount = amount := rfl

inductive Side
  | LONG | SHORT
  deriving DecidableEq

structure ExitPlan where
  stopPrice : ℚ
  targetPrice : ℚ
  maxHoldingMs : ℕ
  deriving DecidableEq

/-- `StrategyIntentV1` -/
structure StrategyIntent where
  entryEligibleTsMs : ℕ
  entryExpiresTsMs : ℕ
  exitPlan : Option ExitPlan
  deriving DecidableEq

/-- `SimulationSessionV1` -/
structure SimulationSession where
  sessionId : String
  tapeId : String
  assumptions : FillAssumptions
  endsAtMs : ℕ
  deriving DecidableEq

/-- `SimulationAdmissionV2`, with the stream epoch of the selected book frame. -/
structure SimulationAdmission where
  admissionId : String
  session : SimulationSession
  intent : StrategyIntent
  symbol : String
  side : Side
  quantity : ℚ
  priceCap : ℚ
  streamEpoch : String
  deriving DecidableEq

/-- `SimulationTradeV1` -/
structure SimulationTrade where
  tradeId : String
  admission : SimulationAdmission
  createdAtMs : ℕ
  deriving DecidableEq

/-- `ClosedBarEventV1` -/
structure ClosedBar where
  symbol : String
  venue : String
  barSha256 : Option String
  closeTimeMs : ℕ
  low : ℚ
  high : ℚ
  close : ℚ
  deriving DecidableEq

inductive CommandKind
  | ENTRY_IOC | STOP_EXIT_IOC | TARGET_EXIT_IOC | TIMEOUT_EXIT_IOC
  deriving DecidableEq

/-- The content of a command, without its id. -/
@[ext] structure CommandContent where
  trade : SimulationTrade
  commandKind : CommandKind
  quantity : ℚ
  priceCap : ℚ
  submittedAtMs : ℕ
  persistedAtMs : ℕ
  eligibleAtMs : ℕ
  expiresAtMs : ℕ
  quantity_pos : 0 < quantity
  cap_pos : 0 < priceCap
  persisted : submittedAtMs ≤ persistedAtMs
  expires : eligibleAtMs ≤ expiresAtMs

instance : DecidableEq CommandContent := fun _ _ => decidable_of_iff _ CommandContent.ext_iff.symm

/-- `SimulationCommandV1` -/
structure SimulationCommand extends CommandContent where
  commandId : String
  deriving DecidableEq

/-- The ids that the contracts derive from the content. -/
structure Ids where
  trade : SimulationAdmission → ℕ → String
  command : CommandContent → String

inductive TradeState
  | PENDING | ACTIVE | FLAT | UNRESOLVED | NO_FILL | BLOCKED
  deriving DecidableEq

/-- `_TERMINAL_STATES` -/
def TradeState.terminal : TradeState → Bool
  | .PENDING | .ACTIVE => false
  | _ => true

inductive EventType
  | ADMITTED | ENTRY_FILLED | ENTRY_PARTIAL | ENTRY_NO_FILL | NO_ADMITTED_BOOK | SOURCE_BARRIER
  | STOP_TRIGGERED | TARGET_TRIGGERED | TIMEOUT_TRIGGERED | UNRESOLVED
  deriving DecidableEq

/-- `{"ENTRY_FILLED", "ENTRY_PARTIAL"}` -/
def EventType.entryFill : EventType → Bool
  | .ENTRY_FILLED | .ENTRY_PARTIAL => true
  | _ => false

/-- `{"STOP_TRIGGERED", "TARGET_TRIGGERED", "TIMEOUT_TRIGGERED"}` -/
def EventType.exitFill : EventType → Bool
  | .STOP_TRIGGERED | .TARGET_TRIGGERED | .TIMEOUT_TRIGGERED => true
  | _ => false

/-- `SimulationCommandReceiptV1` -/
structure SimulationReceipt (Digest : Type) where
  commandId : String
  status : Status
  reasonCodes : List String
  arrivalAtMs : ℕ
  filledQuantity : ℚ
  cancelledQuantity : ℚ
  averagePrice : Option ℚ
  notionalQuote : ℚ
  feeQuote : ℚ
  arrivalMidPrice : Option ℚ
  implementationShortfallQuote : ℚ
  levelFills : List LevelFill
  modelFrameSha256 : Option Digest
  deriving DecidableEq

/-- `SimulationTradeEventV2` -/
structure TradeEvent (Digest : Type) where
  tradeId : String
  eventSeq : ℕ
  eventType : EventType
  fromState : Option TradeState
  toState : TradeState
  occurredAtMs : ℕ
  commandId : Option String := none
  receipt : Option (SimulationReceipt Digest) := none
  filledQuantity : ℚ := 0
  averagePrice : Option ℚ := none
  modelFrameSha256 : Option Digest := none
  reasonCodes : List String
  deriving DecidableEq

/-- `SimulationTradeJournal` -/
structure TradeJournal (Digest : Type) where
  trade : SimulationTrade
  state : TradeState
  events : List (TradeEvent Digest)
  deriving DecidableEq

/-- `SimulationResultV1` -/
structure SimulationResult where
  tradeId : String
  completedAtMs : ℕ
  finalState : TradeState
  entryFilledQuantity : ℚ
  exitFilledQuantity : ℚ
  entryAveragePrice : Option ℚ := none
  exitAveragePrice : Option ℚ := none
  modelRealizedPnlQuote : Option ℚ := none
  modelFeeQuote : Option ℚ := none
  reasonCodes : List String
  deriving DecidableEq

/-- `order_side` of a command. -/
def orderSide : Side → CommandKind → OrderSide
  | .LONG, .ENTRY_IOC => .BUY
  | .LONG, _ => .SELL
  | .SHORT, .ENTRY_IOC => .SELL
  | .SHORT, _ => .BUY

def kernelCommand (command : SimulationCommand) : IOCCommand where
  sessionId := command.trade.admission.session.sessionId
  commandId := command.commandId
  symbol := command.trade.admission.symbol
  side := orderSide command.trade.admission.side command.commandKind
  quantity := command.quantity
  priceCap := command.priceCap
  submittedAtMs := command.submittedAtMs
  persistedAtMs := command.persistedAtMs
  eligibleAtMs := command.eligibleAtMs
  expiresAtMs := command.expiresAtMs
  quantity_pos := command.quantity_pos
  cap_pos := command.cap_pos
  persisted := command.persisted
  expires := command.expires

/-- When a command reaches the book. -/
def SimulationCommand.arrivalAtMs (command : SimulationCommand) : ℕ :=
  command.submittedAtMs + command.trade.admission.session.assumptions.latencyMs

end KairosExecution.Simulation
