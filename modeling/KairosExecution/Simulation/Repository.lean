import KairosExecution.Interactive.Store
import KairosExecution.Simulation.Contracts

/-! The simulator's repository, as its in-memory double has it: journals, prepared commands,
receipts, liquidity states and results, each under its id, and the recorded frames. A
command that is prepared again is handed back as it stands; a completion writes the
receipt, the state and the event together or nothing. In which order the prepared
commands of a session are listed is left to the repository. -/

namespace KairosExecution.Simulation

open Python Interactive

/-- What a controller call raises: `ValueError`, `SimulationControllerIntegrityError`, an
error of the kernel, or a refusal of the repository. -/
inductive Failure
  | value (message : String)
  | integrity (message : String)
  | model (error : Err)
  | repository (message : String)
  deriving DecidableEq

/-- `if condition: raise error` -/
def reject (condition : Bool) (error : Failure) : Except Failure Unit :=
  if condition then .error error else .ok ()

@[simp] theorem reject_eq_ok {condition : Bool} {error : Failure} {u : Unit} :
    reject condition error = .ok u ↔ condition = false := by
  cases condition <;> simp [reject]

/-- What the kernel raises goes through the controller. -/
def fromModel {α : Type} : Except Err α → Except Failure α
  | .ok a => .ok a
  | .error e => .error (.model e)

structure PreparedCommand where
  command : SimulationCommand
  completed : Bool
  deriving DecidableEq

/-- `SimulationRepository` -/
structure Repository (Digest : Type) where
  frames : List AcceptedBookFrame
  journals : Dict String (TradeJournal Digest) := []
  prepared : Dict String PreparedCommand := []
  receipts : Dict String (SimulationReceipt Digest) := []
  liquidity : Dict (String × String) (LiquidityState Digest) := []
  results : Dict String SimulationResult := []
  deriving DecidableEq

/-- The calls of the controller to its repository. -/
inductive RepositoryCall (Digest : Type)
  | createAdmission (admission : SimulationAdmission)
  | createTrade (trade : SimulationTrade)
  | appendTradeEvent (event : TradeEvent Digest)
  | prepareCommand (command : SimulationCommand)
  | completeCommand (command : SimulationCommand) (receipt : SimulationReceipt Digest)
      (state : LiquidityState Digest) (event : TradeEvent Digest)
  | loadCommandReceipt (commandId : String)
  | loadLiquidityState (sessionId symbol : String)
  | loadLatestBookFrame (tapeId symbol : String) (asOfMs : ℕ)
  | loadTradeJournal (tradeId : String)
  | listPreparedCommands (sessionId : String)
  | listTerminalTradesWithoutResult (sessionId : String)
  | recordResult (result : SimulationResult)

def RepositoryCall.Answer {Digest : Type} : RepositoryCall Digest → Type
  | .createAdmission _ => Bool
  | .createTrade _ => Bool
  | .appendTradeEvent _ => Bool
  | .prepareCommand _ => PreparedCommand
  | .completeCommand .. => SimulationReceipt Digest × Bool
  | .loadCommandReceipt _ => Option (SimulationReceipt Digest)
  | .loadLiquidityState .. => Option (LiquidityState Digest)
  | .loadLatestBookFrame .. => Option AcceptedBookFrame
  | .loadTradeJournal _ => Option (TradeJournal Digest)
  | .listPreparedCommands _ => List SimulationCommand
  | .listTerminalTradesWithoutResult _ => List SimulationTrade
  | .recordResult _ => Bool

abbrev RepositoryI (Digest : Type) : Interface := ⟨RepositoryCall Digest, RepositoryCall.Answer⟩

namespace Repository

variable {Digest : Type} [DecidableEq Digest]

def createTrade (r : Repository Digest) (trade : SimulationTrade) :
    Except Failure Bool × Repository Digest :=
  match r.journals.get trade.tradeId with
  | some journal =>
    if journal.trade = trade then (.ok false, r)
    else (.error (.repository "trade id was reused with different content"), r)
  | none =>
    let journal := { trade, state := .PENDING, events := [] }
    (.ok true, { r with journals := r.journals.set trade.tradeId journal })

/-- The event continues the journal: it is numbered next, and starts where the trade is. -/
def continues (journal : TradeJournal Digest) (event : TradeEvent Digest) : Bool :=
  event.eventSeq = journal.events.length + 1
    && event.fromState = if journal.events = [] then none else some journal.state

def appendTradeEvent (r : Repository Digest) (event : TradeEvent Digest) :
    Except Failure Bool × Repository Digest :=
  match r.journals.get event.tradeId with
  | none => (.error (.repository "event of an unknown trade"), r)
  | some journal =>
    if event ∈ journal.events then (.ok false, r)
    else if continues journal event then
      let journal := { journal with state := event.toState, events := journal.events ++ [event] }
      (.ok true, { r with journals := r.journals.set event.tradeId journal })
    else (.error (.repository "event does not continue its trade"), r)

def prepareCommand (r : Repository Digest) (command : SimulationCommand) :
    Except Failure PreparedCommand × Repository Digest :=
  match r.prepared.get command.commandId with
  | some current =>
    if current.command = command then (.ok current, r)
    else (.error (.repository "command id was reused with different content"), r)
  | none =>
    let current := { command, completed := false }
    (.ok current, { r with prepared := r.prepared.set command.commandId current })

/-- The receipt, the liquidity state and the event of a completion, at once. -/
def completeCommand (r : Repository Digest) (command : SimulationCommand)
    (receipt : SimulationReceipt Digest) (state : LiquidityState Digest) (event : TradeEvent Digest) :
    Except Failure (SimulationReceipt Digest × Bool) × Repository Digest :=
  match r.receipts.get command.commandId with
  | some existing =>
    if existing = receipt then (.ok (existing, false), r)
    else (.error (.repository "command was completed with another receipt"), r)
  | none =>
    match r.prepared.get command.commandId, r.appendTradeEvent event with
    | some ⟨_, false⟩, (.ok _, appended) =>
      let session := command.trade.admission.session
      (.ok (receipt, true), { appended with
        prepared := r.prepared.set command.commandId { command, completed := true }
        receipts := r.receipts.set command.commandId receipt
        liquidity := r.liquidity.set (session.sessionId, command.trade.admission.symbol) state })
    | some ⟨_, false⟩, (.error e, _) => (.error e, r)
    | _, _ => (.error (.repository "command is not prepared"), r)

/-- The frame that a later one with the same or a newer key replaces. -/
def newer (a b : AcceptedBookFrame) : AcceptedBookFrame :=
  if a.persistedAtMs < b.persistedAtMs
      ∨ (a.persistedAtMs = b.persistedAtMs ∧ a.sequence < b.sequence) then b else a

def latestBookFrame (r : Repository Digest) (tapeId symbol : String) (asOfMs : ℕ) :
    Option AcceptedBookFrame :=
  let eligible := r.frames.filter fun frame =>
    frame.tapeId = tapeId ∧ frame.symbol = symbol ∧ frame.continuity = .ADMITTED
      ∧ frame.persistedAtMs ≤ asOfMs
  match eligible with
  | [] => none
  | frame :: frames => some (frames.foldl newer frame)

/-- The commands of a session that are prepared and not completed, the oldest first. -/
def pending (r : Repository Digest) (sessionId : String) : List SimulationCommand :=
  (r.prepared.filter fun entry => !entry.2.completed
    && decide (entry.2.command.trade.admission.session.sessionId = sessionId)).map (·.2.command)

/-- The terminal trades of a session that have no result yet. -/
def unreported (r : Repository Digest) (sessionId : String) : List SimulationTrade :=
  (r.journals.filter fun entry =>
    decide (entry.2.trade.admission.session.sessionId = sessionId) && entry.2.state.terminal
      && (r.results.get entry.1).isNone).map (·.2.trade)

def recordResult (r : Repository Digest) (result : SimulationResult) :
    Except Failure Bool × Repository Digest :=
  match r.results.get result.tradeId with
  | some existing =>
    if existing = result then (.ok false, r)
    else (.error (.repository "trade has another result"), r)
  | none => (.ok true, { r with results := r.results.set result.tradeId result })

/-- The repository answers a call; `order` is the order of its listing. -/
def answer (order : List SimulationCommand → List SimulationCommand) :
    Handler (RepositoryI Digest) Failure (Repository Digest)
  | r, .createAdmission _ => (.ok true, r)
  | r, .createTrade trade => r.createTrade trade
  | r, .appendTradeEvent event => r.appendTradeEvent event
  | r, .prepareCommand command => r.prepareCommand command
  | r, .completeCommand command receipt state event => r.completeCommand command receipt state event
  | r, .loadCommandReceipt commandId => (.ok (r.receipts.get commandId), r)
  | r, .loadLiquidityState sessionId symbol => (.ok (r.liquidity.get (sessionId, symbol)), r)
  | r, .loadLatestBookFrame tapeId symbol asOfMs => (.ok (r.latestBookFrame tapeId symbol asOfMs), r)
  | r, .loadTradeJournal tradeId => (.ok (r.journals.get tradeId), r)
  | r, .listPreparedCommands sessionId => (.ok (order (r.pending sessionId)), r)
  | r, .listTerminalTradesWithoutResult sessionId => (.ok (r.unreported sessionId), r)
  | r, .recordResult result => r.recordResult result

end Repository

end KairosExecution.Simulation
