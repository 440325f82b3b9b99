import KairosExecution.Simulation.Fields
import KairosExecution.Simulation.Repository

/-! The controller of the offline simulator. An entry, and an exit that a closed bar
triggers, are prepared as commands, evaluated by the IOC model once their latency has
passed, and completed with the receipt, the next liquidity state and one event of the
trade. A command whose arrival is still ahead stays prepared, for the recovery to
resume. -/

namespace KairosExecution.Simulation

open Python Interactive

variable {Digest : Type} [DecidableEq Digest]

abbrev Sim (Digest : Type) := Program (RepositoryI Digest) Failure

/-- Await an answer of the repository. -/
abbrev await (c : RepositoryCall Digest) : Sim Digest (RepositoryCall.Answer c) :=
  Program.ask (I := RepositoryI Digest) c

section Pure

/-- The journal of the trade. -/
def ownJournal (trade : SimulationTrade) :
    Option (TradeJournal Digest) → Except Failure (TradeJournal Digest)
  | some journal =>
    if journal.trade = trade then .ok journal
    else .error (.integrity "simulation trade journal is missing or has mixed lineage")
  | none => .error (.integrity "simulation trade journal is missing or has mixed lineage")

/-- `SimulationCommandV1(...)`, with the id that its content has. -/
def buildCommand (ids : Ids) (trade : SimulationTrade) (commandKind : CommandKind)
    (quantity priceCap : ℚ) (submittedAtMs eligibleAtMs expiresAtMs : ℕ) :
    Except Failure SimulationCommand :=
  if h : 0 < quantity ∧ 0 < priceCap ∧ eligibleAtMs ≤ expiresAtMs then
    let content : CommandContent := {
      trade, commandKind, quantity, priceCap, submittedAtMs, eligibleAtMs, expiresAtMs
      persistedAtMs := submittedAtMs
      quantity_pos := h.1
      cap_pos := h.2.1
      persisted := le_refl _
      expires := h.2.2 }
    .ok { content with commandId := ids.command content }
  else .error (.value "simulation command")

def entryCommand (ids : Ids) (trade : SimulationTrade) : Except Failure SimulationCommand :=
  let intent := trade.admission.intent
  buildCommand ids trade .ENTRY_IOC trade.admission.quantity trade.admission.priceCap
    trade.createdAtMs (max intent.entryEligibleTsMs trade.createdAtMs) intent.entryExpiresTsMs

def exitCommand (ids : Ids) (trade : SimulationTrade) (commandKind : CommandKind)
    (quantity priceCap : ℚ) (triggerAtMs : ℕ) (contract : FloatContract := .exact) :
    Except Failure SimulationCommand :=
  let session := trade.admission.session
  buildCommand ids trade commandKind (contract.value quantity) (contract.value priceCap)
    triggerAtMs triggerAtMs
    (min (triggerAtMs + session.assumptions.maximumBookAgeMs) session.endsAtMs)

def adverseExitCap (price : ℚ) (trade : SimulationTrade) : Except Failure ℚ :=
  let tick := trade.admission.session.assumptions.priceTick
  let rounded := (match trade.admission.side with
    | .LONG => Rat.floor (price / tick)
    | .SHORT => Rat.ceil (price / tick)) * tick
  if rounded ≤ 0 then .error (.integrity "adverse simulator exit price cap is not positive")
  else .ok rounded

/-- The exit that a bar triggers, and its price before rounding: the stop wins over the
target, and a bar that crosses neither may close the holding time. -/
def exitTrigger (side : Side) (plan : ExitPlan) (bar : ClosedBar) (enteredAtMs : ℕ) :
    Option (CommandKind × ℚ) :=
  let crossed : Option (CommandKind × ℚ) := match side with
    | .LONG =>
      if bar.low ≤ plan.stopPrice then some (.STOP_EXIT_IOC, plan.stopPrice)
      else if plan.targetPrice ≤ bar.high then some (.TARGET_EXIT_IOC, plan.targetPrice)
      else none
    | .SHORT =>
      if plan.stopPrice ≤ bar.high then some (.STOP_EXIT_IOC, plan.stopPrice)
      else if bar.low ≤ plan.targetPrice then some (.TARGET_EXIT_IOC, plan.targetPrice)
      else none
  match crossed with
  | some exit => some exit
  | none =>
    if enteredAtMs + plan.maxHoldingMs ≤ bar.closeTimeMs + 1 then some (.TIMEOUT_EXIT_IOC, bar.close)
    else none

def firstEntryEvent (journal : TradeJournal Digest) : Except Failure (TradeEvent Digest) :=
  match journal.events.filter (·.eventType.entryFill) with
  | [event] => .ok event
  | _ => .error (.integrity "active simulation trade must have exactly one entry fill")

def entryFilledQuantity (journal : TradeJournal Digest) : ℚ :=
  ((journal.events.filter (·.eventType.entryFill)).map (·.filledQuantity)).sum

def exitFilledQuantity (journal : TradeJournal Digest) : ℚ :=
  ((journal.events.filter (·.eventType.exitFill)).map (·.filledQuantity)).sum

def remainingQuantity (journal : TradeJournal Digest) : ℚ :=
  entryFilledQuantity journal - exitFilledQuantity journal

/-- The exit command that a bar calls for, where it does. -/
def barExit (ids : Ids) (trade : SimulationTrade) (journal : TradeJournal Digest) (bar : ClosedBar)
    (contract : FloatContract := .exact) : Except Failure (Option SimulationCommand) := do
  let entryEvent ← firstEntryEvent journal
  match trade.admission.intent.exitPlan with
  | none => .error (.integrity "active simulation trade has no immutable exit plan")
  | some plan =>
    match exitTrigger trade.admission.side plan bar entryEvent.occurredAtMs with
    | none => return none
    | some (kind, price) => do
      reject (remainingQuantity journal ≤ 0)
        (.integrity "active simulation trade has no positive remaining exposure")
      let cap ← adverseExitCap price trade
      let command ← exitCommand ids trade kind (remainingQuantity journal) cap (bar.closeTimeMs + 1)
        contract
      return some command

/-- `SimulationFillLevelV1(...)` -/
def FloatContract.level (contract : FloatContract) (fill : LevelFill) : LevelFill where
  bookPrice := contract.value fill.bookPrice
  executionPrice := contract.value fill.executionPrice
  quantity := contract.value fill.quantity
  feeQuote := contract.value fill.feeQuote

def commandReceipt (sha : Content → Digest) (command : SimulationCommand)
    (outcome : FillOutcome Digest) (recordedFrame : Option AcceptedBookFrame)
    (contract : FloatContract := .exact) : Except Failure (SimulationReceipt Digest) :=
  let filled := contract.value outcome.filledQuantity
  let unfilled : SimulationReceipt Digest := {
    commandId := command.commandId
    status := outcome.status
    reasonCodes := [outcome.reason]
    arrivalAtMs := outcome.arrivalAtMs
    filledQuantity := 0
    cancelledQuantity := contract.value outcome.cancelledQuantity
    averagePrice := none
    notionalQuote := 0
    feeQuote := 0
    arrivalMidPrice := none
    implementationShortfallQuote := 0
    levelFills := []
    modelFrameSha256 := none }
  if outcome.status = .WAIT then
    .error (.value "a non-terminal kernel WAIT outcome cannot become durable evidence")
  else if 0 < filled then
    match recordedFrame, outcome.averagePrice, outcome.arrivalMidPrice with
    | none, _, _ =>
      .error (.value "a terminal model fill requires its exact public recorded book frame")
    | _, none, _ => .error (.value "average_price is required for a non-zero model fill")
    | _, _, none => .error (.value "arrival_mid_price is required for a non-zero model fill")
    | some frame, some averagePrice, some arrivalMidPrice =>
      .ok { unfilled with
        modelFrameSha256 := some (sha (.frame frame))
        filledQuantity := filled
        averagePrice := some (contract.value averagePrice)
        notionalQuote := contract.value outcome.notionalQuote
        feeQuote := contract.value outcome.feeQuote
        arrivalMidPrice := some (contract.value arrivalMidPrice)
        implementationShortfallQuote := contract.value outcome.implementationShortfallQuote
        levelFills := outcome.levelFills.map contract.level }
  else .ok unfilled

/-- The state after a terminal command that no book was walked for. -/
def bookless (sha : Content → Digest) (command : SimulationCommand) (state : LiquidityState Digest)
    (asOfMs : ℕ) (reason : String) (status : Status) : FillOutcome Digest × LiquidityState Digest :=
  let kernel := kernelCommand command
  let assumptionsSha256 := sha (.assumptions command.trade.admission.session.assumptions)
  let outcome : FillOutcome Digest := {
    commandId := kernel.commandId
    commandSha256 := sha (.command kernel)
    assumptionsSha256 := assumptionsSha256
    frameSha256 := none
    status := status
    reason := reason
    arrivalAtMs := command.arrivalAtMs
    requestedQuantity := kernel.quantity
    filledQuantity := 0
    cancelledQuantity := kernel.quantity
    averagePrice := none
    notionalQuote := 0
    feeQuote := 0
    arrivalMidPrice := none
    implementationShortfallQuote := 0
    levelFills := [] }
  let receipt : CommandReceipt Digest := {
    commandId := kernel.commandId
    commandSha256 := sha (.command kernel)
    assumptionsSha256 := assumptionsSha256
    outcome := outcome }
  (outcome, { state with
    assumptionsSha256 := some assumptionsSha256
    lastAsOfMs := asOfMs
    lastArrivalAtMs := command.arrivalAtMs
    receipts := state.receipts ++ [receipt] })

def terminalWithoutBook (sha : Content → Digest) (command : SimulationCommand)
    (state : LiquidityState Digest) (asOfMs : ℕ) (reason : String) (status : Status) :
    Except Err (ModelStep Digest) := do
  let assumptionsSha256 := sha (.assumptions command.trade.admission.session.assumptions)
  refuse (asOfMs < command.arrivalAtMs)
    (.value "a terminal simulator outcome cannot predate command arrival")
  refuse (asOfMs < state.lastAsOfMs) (.value "simulator evaluation clock cannot regress")
  refuse (command.arrivalAtMs < state.lastArrivalAtMs)
    (.identity "new command arrival predates an already processed terminal command")
  refuse (¬state.assumptionsSha256.all (· = assumptionsSha256))
    (.identity "simulation assumptions changed inside one session")
  let outcome ← (bookless sha command state asOfMs reason status).1.checked
  let state ← (bookless sha command state asOfMs reason status).2.validate
  return { outcome, state }

/-- The event of an entry that has ended. -/
def entryTransition (receipt : SimulationReceipt Digest) : EventType × TradeState :=
  match receipt.status with
  | .FILLED => (.ENTRY_FILLED, .ACTIVE)
  | .PARTIAL => (.ENTRY_PARTIAL, .ACTIVE)
  | .NO_FILL => (.ENTRY_NO_FILL, .NO_FILL)
  | _ =>
    if "NO_ADMITTED_BOOK" ∈ receipt.reasonCodes then (.NO_ADMITTED_BOOK, .BLOCKED)
    else (.SOURCE_BARRIER, .BLOCKED)

/-- The event type of a fill of an exit. -/
def CommandKind.triggered : CommandKind → EventType
  | .STOP_EXIT_IOC => .STOP_TRIGGERED
  | .TARGET_EXIT_IOC => .TARGET_TRIGGERED
  | _ => .TIMEOUT_TRIGGERED

/-- The event of an exit that has ended. -/
def exitTransition (command : SimulationCommand) (receipt : SimulationReceipt Digest)
    (journal : TradeJournal Digest) : Except Failure (EventType × TradeState) :=
  if receipt.status.fills then
    let closed := exitFilledQuantity journal + receipt.filledQuantity
    if receipt.filledQuantity ≤ 0 ∨ entryFilledQuantity journal < closed then
      .error (.integrity "simulator exit receipt exceeds active exposure")
    else .ok (command.commandKind.triggered,
      if closed = entryFilledQuantity journal then .FLAT else .UNRESOLVED)
  else .ok (.UNRESOLVED, .UNRESOLVED)

/-- The type and the target of the event of a command that has ended. -/
def transitionFor (command : SimulationCommand) (receipt : SimulationReceipt Digest)
    (journal : TradeJournal Digest) : Except Failure (EventType × TradeState) :=
  if command.commandKind = .ENTRY_IOC then do
    reject (journal.state ≠ .PENDING) (.integrity "simulator entry does not start from PENDING")
    return entryTransition receipt
  else do
    reject (journal.state ≠ .ACTIVE) (.integrity "simulator exit does not start from ACTIVE")
    exitTransition command receipt journal

def eventForReceipt (command : SimulationCommand) (receipt : SimulationReceipt Digest)
    (journal : TradeJournal Digest) : Except Failure (TradeEvent Digest) := do
  let transition ← transitionFor command receipt journal
  return {
    tradeId := command.trade.tradeId
    eventSeq := journal.events.length + 1
    eventType := transition.1
    fromState := some journal.state
    toState := transition.2
    occurredAtMs := receipt.arrivalAtMs
    commandId := some command.commandId
    receipt := some receipt
    filledQuantity := receipt.filledQuantity
    averagePrice := receipt.averagePrice
    modelFrameSha256 := receipt.modelFrameSha256
    reasonCodes := "SIM_IOC" :: receipt.reasonCodes }

/-- A model of the kernel is built from fields within their bounds only. -/
def build (fields : Bool) (model : String) : Except Failure Unit := reject (!fields) (.value model)

@[simp] theorem build_eq_ok {fields : Bool} {model : String} {u : Unit} :
    build fields model = .ok u ↔ fields = true := by
  simp [build]

/-- The bounded fields of the first liquidity state of a session and symbol. -/
def openingFields (command : SimulationCommand) : Bool :=
  let session := command.trade.admission.session
  Arithmetic.identifier session.sessionId && Arithmetic.identifier session.tapeId
    && Arithmetic.identifier command.trade.admission.streamEpoch
    && command.trade.admission.symbol ∈ Arithmetic.symbols

/-- The first liquidity state of a session and symbol. -/
def openingState (command : SimulationCommand) : LiquidityState Digest where
  sessionId := command.trade.admission.session.sessionId
  tapeId := command.trade.admission.session.tapeId
  streamEpoch := command.trade.admission.streamEpoch
  symbol := command.trade.admission.symbol

/-- The liquidity state that a command is evaluated on. -/
def liquidityOf (command : SimulationCommand) :
    Option (LiquidityState Digest) → Except Failure (LiquidityState Digest)
  | none => do
    build (openingFields command) "LiquidityState"
    return openingState command
  | some stored => do
    let session := command.trade.admission.session
    match stored.validate with
    | .error _ => .error (.integrity
      "stored simulator liquidity state no longer satisfies its immutable model")
    | .ok state =>
      reject (state.sessionId ≠ session.sessionId ∨ state.tapeId ≠ session.tapeId
        ∨ state.symbol ≠ command.trade.admission.symbol)
        (.integrity "stored simulator liquidity state has mixed lineage")
      return state

/-- What a fill event adds to the totals of its trade. -/
def fillOf (event : TradeEvent Digest) (receipt : Option (SimulationReceipt Digest)) :
    Except Failure (ℚ × ℚ × ℚ) :=
  match receipt with
  | none => .error (.integrity "simulation fill event is missing its durable receipt")
  | some receipt =>
    if event.receipt ≠ some receipt then
      .error (.integrity "simulation fill event is missing its durable receipt")
    else match receipt.averagePrice with
      | none => .error (.integrity "simulation fill receipt is missing its average price")
      | some price =>
        .ok (receipt.filledQuantity, receipt.filledQuantity * price, receipt.feeQuote)

/-- The result of a trade that ended with fills, from the totals of its entry and its exit. -/
def filledResult (trade : SimulationTrade) (state : TradeState) (terminal : TradeEvent Digest)
    (entry exit : ℚ × ℚ × ℚ) (contract : FloatContract := .exact) :
    Except Failure SimulationResult := do
  let (entryQuantity, entryNotional, entryFees) := entry
  let (exitQuantity, exitNotional, exitFees) := exit
  reject (entryQuantity ≤ 0)
    (.integrity "terminal simulation trade has no entry fill evidence")
  reject (state = .FLAT ∧ exitQuantity ≠ entryQuantity)
    (.integrity "flat simulation trade does not have matched fill quantities")
  reject (state = .UNRESOLVED ∧ ¬(0 ≤ exitQuantity ∧ exitQuantity < entryQuantity))
    (.integrity "unresolved simulation trade does not retain positive remaining exposure")
  let entryAverage := entryNotional / entryQuantity
  let exitAverage := if exitQuantity = 0 then none else some (exitNotional / exitQuantity)
  let entryMatchedNotional := entryAverage * exitQuantity
  return {
    tradeId := trade.tradeId
    completedAtMs := terminal.occurredAtMs
    finalState := state
    entryFilledQuantity := contract.value entryQuantity
    exitFilledQuantity := contract.value exitQuantity
    entryAveragePrice := some (contract.value entryAverage)
    exitAveragePrice := exitAverage.map contract.value
    modelRealizedPnlQuote := some (contract.value (match trade.admission.side with
      | .LONG => exitNotional - entryMatchedNotional
      | .SHORT => entryMatchedNotional - exitNotional))
    modelFeeQuote := some (contract.value (entryFees + exitFees))
    reasonCodes := terminal.reasonCodes }

/-- The result of a trade that never filled. -/
def unfilledResult (trade : SimulationTrade) (state : TradeState) (terminal : TradeEvent Digest) :
    SimulationResult where
  tradeId := trade.tradeId
  completedAtMs := terminal.occurredAtMs
  finalState := state
  entryFilledQuantity := 0
  exitFilledQuantity := 0
  reasonCodes := terminal.reasonCodes

end Pure

section Calls

/-- `_journal` -/
def journalOf (trade : SimulationTrade) : Sim Digest (TradeJournal Digest) := do
  let found ← await (.loadTradeJournal trade.tradeId)
  liftM (ownJournal trade found)

/-- `_fill_totals`: quantity, notional and fees of the events of a kind. -/
def fillTotals (kind : EventType → Bool) : List (TradeEvent Digest) → Sim Digest (ℚ × ℚ × ℚ)
  | [] => return (0, 0, 0)
  | event :: events =>
    if kind event.eventType then
      match event.commandId with
      | none => .raise (.integrity "simulation fill event is missing command lineage")
      | some commandId => do
        let receipt ← await (.loadCommandReceipt commandId)
        let own ← (liftM (fillOf event receipt) : Sim Digest (ℚ × ℚ × ℚ))
        let rest ← fillTotals kind events
        return (own.1 + rest.1, own.2.1 + rest.2.1, own.2.2 + rest.2.2)
    else fillTotals kind events

/-- The result of a terminal trade. -/
def resultOf (trade : SimulationTrade) (journal : TradeJournal Digest)
    (contract : FloatContract := .exact) : Sim Digest SimulationResult :=
  match journal.events.getLast? with
  | none => .raise (.integrity "terminal simulation trade has no lifecycle events")
  | some terminal =>
    if journal.state = .NO_FILL ∨ journal.state = .BLOCKED then
      return unfilledResult trade journal.state terminal
    else do
      let entry ← fillTotals EventType.entryFill journal.events
      let exit ← fillTotals EventType.exitFill journal.events
      liftM (filledResult trade journal.state terminal entry exit contract)

def ensureTerminalResult (trade : SimulationTrade) (contract : FloatContract := .exact) :
    Sim Digest (Option SimulationResult) := do
  let journal ← journalOf trade
  if journal.state.terminal then do
    let result ← resultOf trade journal contract
    let _ ← await (.recordResult result)
    return some result
  else return none

def markUnresolved (trade : SimulationTrade) (journal : TradeJournal Digest) (occurredAtMs : ℕ)
    (reason : String) (contract : FloatContract := .exact) : Sim Digest Unit := do
  let event : TradeEvent Digest := {
    tradeId := trade.tradeId
    eventSeq := journal.events.length + 1
    eventType := .UNRESOLVED
    fromState := some .ACTIVE
    toState := .UNRESOLVED
    occurredAtMs := occurredAtMs
    reasonCodes := [reason] }
  let _ ← await (.appendTradeEvent event)
  let _ ← ensureTerminalResult trade contract
  return ()

variable (sha : Content → Digest) (ids : Ids)

/-- The root event of a trade. -/
def rootEvent (trade : SimulationTrade) : TradeEvent Digest where
  tradeId := trade.tradeId
  eventSeq := 1
  eventType := .ADMITTED
  fromState := none
  toState := .PENDING
  occurredAtMs := trade.createdAtMs
  reasonCodes := ["SIM_ADMISSION"]

/-- `start_trade` once the admission is recorded. -/
def openTrade (trade : SimulationTrade) : Sim Digest SimulationTrade := do
  let created : Bool ← await (.createTrade trade)
  let _ ← await (.appendTradeEvent (rootEvent trade))
  let journal ← journalOf trade
  liftM (reject (created ∧ journal.state ≠ .PENDING)
    (.integrity "new simulation trade is not pending after admission"))
  return trade

def startTrade (admission : SimulationAdmission) (createdAtMs : ℕ) :
    Sim Digest SimulationTrade := do
  liftM (reject (createdAtMs > admission.session.endsAtMs)
    (.value "simulation trade cannot start after its immutable session ends"))
  liftM (reject (createdAtMs > admission.intent.entryExpiresTsMs)
    (.value "simulation trade cannot start after its immutable intent expires"))
  let _ ← await (.createAdmission admission)
  openTrade { tradeId := ids.trade admission createdAtMs, admission, createdAtMs }

/-- `_evaluate_prepared` of a command that has arrived, on the frame of its arrival. -/
def evaluateOn (command : SimulationCommand) (state : LiquidityState Digest) (asOfMs : ℕ)
    (frame : Option AcceptedBookFrame) (contract : FloatContract := .exact) :
    Except Failure (SimulationReceipt Digest × LiquidityState Digest) :=
  match frame with
  | none => do
    let step ← fromModel (terminalWithoutBook sha command state asOfMs "NO_ADMITTED_BOOK" .BLOCKED)
    let receipt ← commandReceipt sha command step.outcome none contract
    return (receipt, step.state)
  | some frame => do
    build (Arithmetic.frameFields frame) "AcceptedBookFrame"
    let step ← fromModel (simulateIoc sha (kernelCommand command) frame
      command.trade.admission.session.assumptions state asOfMs)
    let receipt ← commandReceipt sha command step.outcome (some frame) contract
    return (receipt, step.state)

def evaluatePrepared (command : SimulationCommand) (asOfMs : ℕ)
    (contract : FloatContract := .exact) :
    Sim Digest (Option (SimulationReceipt Digest × LiquidityState Digest)) := do
  let session := command.trade.admission.session
  liftM (build (Arithmetic.assumptionFields session.assumptions) "FillAssumptions")
  let stored ← await (.loadLiquidityState session.sessionId command.trade.admission.symbol)
  let state ← (liftM (liquidityOf command stored) : Sim Digest (LiquidityState Digest))
  liftM (build (Arithmetic.commandFields (kernelCommand command)) "IOCCommand")
  if asOfMs < command.arrivalAtMs then return none
  else do
    liftM (reject (state.receipts.any (·.commandId = command.commandId)) (.integrity
      "prepared simulation command is already present in private liquidity state"))
    if command.arrivalAtMs > command.expiresAtMs then do
      let step ← (liftM (fromModel (terminalWithoutBook sha command state asOfMs "COMMAND_EXPIRED"
        .NO_FILL)) : Sim Digest (ModelStep Digest))
      let receipt ← (liftM (commandReceipt sha command step.outcome none contract) :
        Sim Digest (SimulationReceipt Digest))
      return some (receipt, step.state)
    else do
      let frame ← await (.loadLatestBookFrame session.tapeId command.trade.admission.symbol
        command.arrivalAtMs)
      let evaluated ← (liftM (evaluateOn sha command state asOfMs frame contract) :
        Sim Digest (SimulationReceipt Digest × LiquidityState Digest))
      return some evaluated

/-- `SimulationExecutionOutcome` -/
structure ExecutionOutcome (Digest : Type) where
  command : SimulationCommand
  receipt : Option (SimulationReceipt Digest)
  lifecycleState : TradeState
  replayed : Bool
  deriving DecidableEq

/-- `_process_command` of a command that was completed before. -/
def replayCompleted (command : SimulationCommand) (contract : FloatContract := .exact) :
    Sim Digest (ExecutionOutcome Digest) := do
  let found ← await (.loadCommandReceipt command.commandId)
  match found with
  | none => .raise (.integrity "completed simulation command has no durable receipt")
  | some receipt => do
    let _ ← ensureTerminalResult command.trade contract
    let refreshed ← journalOf command.trade
    return { command, receipt := some receipt, lifecycleState := refreshed.state, replayed := true }

/-- `_process_command` of a command that was evaluated. -/
def completePrepared (command : SimulationCommand) (journal : TradeJournal Digest)
    (receipt : SimulationReceipt Digest) (state : LiquidityState Digest)
    (contract : FloatContract := .exact) : Sim Digest (ExecutionOutcome Digest) := do
  let event ← (liftM (eventForReceipt command receipt journal) : Sim Digest (TradeEvent Digest))
  let completion ← await (.completeCommand command receipt state event)
  let _ ← ensureTerminalResult command.trade contract
  let refreshed ← journalOf command.trade
  return {
    command
    receipt := some completion.1
    lifecycleState := refreshed.state
    replayed := !completion.2 }

/-- `_process_command` of a command that is still prepared. -/
def processPrepared (command : SimulationCommand) (journal : TradeJournal Digest) (asOfMs : ℕ)
    (contract : FloatContract := .exact) : Sim Digest (ExecutionOutcome Digest) := do
  let evaluated ← evaluatePrepared sha command asOfMs contract
  match evaluated with
  | none =>
    return { command, receipt := none, lifecycleState := journal.state, replayed := false }
  | some (receipt, state) => completePrepared command journal receipt state contract

def processCommand (command : SimulationCommand) (asOfMs : ℕ)
    (contract : FloatContract := .exact) : Sim Digest (ExecutionOutcome Digest) := do
  let prepared ← await (.prepareCommand command)
  let journal ← journalOf prepared.command.trade
  if prepared.completed then replayCompleted prepared.command contract
  else processPrepared sha prepared.command journal asOfMs contract

def submitEntry (trade : SimulationTrade) (asOfMs : ℕ) (contract : FloatContract := .exact) :
    Sim Digest (ExecutionOutcome Digest) := do
  let command ← (liftM (entryCommand ids trade) : Sim Digest SimulationCommand)
  processCommand sha command asOfMs contract

/-- `process_closed_bar` of an active trade, in its session. -/
def processExit (trade : SimulationTrade) (journal : TradeJournal Digest) (bar : ClosedBar)
    (asOfMs : ℕ) (contract : FloatContract := .exact) :
    Sim Digest (Option (ExecutionOutcome Digest)) := do
  let exit ← (liftM (barExit ids trade journal bar contract) : Sim Digest (Option SimulationCommand))
  match exit with
  | none => return none
  | some command => do
    let outcome ← processCommand sha command asOfMs contract
    return some outcome

def processClosedBar (trade : SimulationTrade) (bar : ClosedBar) (asOfMs : ℕ)
    (contract : FloatContract := .exact) : Sim Digest (Option (ExecutionOutcome Digest)) := do
  liftM (reject (bar.symbol ≠ trade.admission.symbol ∨ bar.venue ≠ "BINANCE_UM"
    ∨ bar.barSha256 = none) (.value
      "simulation exit processing requires its matching canonical Binance UM closed bar"))
  if asOfMs < bar.closeTimeMs + 1 then return none
  else do
    let journal ← journalOf trade
    if journal.state ≠ .ACTIVE then return none
    else if bar.closeTimeMs + 1 > trade.admission.session.endsAtMs then do
      markUnresolved trade journal (bar.closeTimeMs + 1) "SESSION_ENDED_BEFORE_EXIT" contract
      return none
    else processExit sha ids trade journal bar asOfMs contract

/-- The first loop of `recover_prepared`. -/
def resumeAll (asOfMs : ℕ) (commands : List SimulationCommand)
    (contract : FloatContract := .exact) : Sim Digest (List (ExecutionOutcome Digest)) :=
  match commands with
  | [] => return []
  | command :: commands => do
    let outcome ← processCommand sha command asOfMs contract
    let outcomes ← resumeAll asOfMs commands contract
    return outcome :: outcomes

/-- The second loop of `recover_prepared`. -/
def reportAll (trades : List SimulationTrade) (contract : FloatContract := .exact) :
    Sim Digest Unit :=
  match trades with
  | [] => return ()
  | trade :: trades => do
    let _ ← ensureTerminalResult trade contract
    reportAll trades contract

def recoverPrepared (sessionId : String) (asOfMs : ℕ) (contract : FloatContract := .exact) :
    Sim Digest (List (ExecutionOutcome Digest)) := do
  let commands ← await (.listPreparedCommands sessionId)
  let outcomes ← resumeAll sha asOfMs commands contract
  let trades ← await (.listTerminalTradesWithoutResult sessionId)
  reportAll trades contract
  return outcomes

end Calls

end KairosExecution.Simulation
