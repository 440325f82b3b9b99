import KairosExecution.Paper.Exit

/-! Protecting a fill: STOP first, then TARGET. Each block creates its TP/SL under a
journal row, persists the server identity, reads the record back, validates it and
reconciles the row. Whatever a block raises, the trade as far as the block got is
closed at once. -/

namespace KairosExecution.Paper

open Python Interactive Interactive.Program

variable (env : Env)

/-- The values by which the two protection blocks of `_protect` differ. -/
structure ProtectionBlock where
  role : OrderRole
  idField : String
  tpslType : String
  queryType : String
  price : TradeRecord → ℚ
  createdJournal : String
  createdEvent : EventType
  missing : String
  reconciledState : TradeState
  reconciledJournal : String
  reconciledEvent : EventType
  lineage : String → String → TradePatch

def stopBlock : ProtectionBlock where
  role := .STOP_LOSS
  idField := "stop exchange ID"
  tpslType := "STOP_LOSS"
  queryType := "stop-loss"
  price := (·.stopPrice)
  createdJournal := "STOP_EFFECT_CONFIRMED_PENDING_RECONCILIATION"
  createdEvent := .STOP_CREATED
  missing := "created stop was not authoritatively reconciled"
  reconciledState := .PROTECTING
  reconciledJournal := "STOP_RECONCILED"
  reconciledEvent := .STOP_RECONCILED
  lineage clientId exchangeId :=
    { stopClientOrderId := some clientId, stopExchangeOrderId := some exchangeId }

def targetBlock : ProtectionBlock where
  role := .TAKE_PROFIT
  idField := "target exchange ID"
  tpslType := "TAKE_PROFIT"
  queryType := "take-profit"
  price := (·.targetPrice)
  createdJournal := "TARGET_EFFECT_CONFIRMED_PENDING_RECONCILIATION"
  createdEvent := .TARGET_CREATED
  missing := "created target was not authoritatively reconciled"
  reconciledState := .ACTIVE
  reconciledJournal := "TARGET_RECONCILED_POSITION_ACTIVE"
  reconciledEvent := .TARGET_RECONCILED
  lineage clientId exchangeId :=
    { targetClientOrderId := some clientId, targetExchangeOrderId := some exchangeId }

/-- Where a protection block ended: the trade and the facts as far as it got, and the
exception it raised, if it did. -/
structure Protection (tradeId : String) where
  trade : StoredTrade tradeId
  events : List ExecutionEvent
  failure : Option Err

/-- The last part of a block: read the record back, validate it live, reconcile the
journal row and persist the state it proves. -/
def reconcileProtection (decision : Decision) (trade : TradeRecord) (block : ProtectionBlock)
    (effectId exchangeId : String) (spec : FactSpec) (patch : TradePatch) :
    Engine (Moved trade.tradeId block.reconciledState) := do
  let some record ← await (.findTpslRecord trade.symbol exchangeId block.queryType
      (block.price trade))
    | raise block.missing
  check (validateTpslRecord env.lib record decision.venueSymbol trade.side.value block.tpslType
    (block.price trade) trade.entryClientOrderId true false)
  let _ ← await (.reconcileEffect effectId (some exchangeId) record)
  transitionWithEvent env decision trade block.reconciledState block.reconciledJournal
    block.reconciledEvent spec patch

/-- One `try` block of `_protect`. -/
def armProtection (decision : Decision) (trade : TradeRecord) (block : ProtectionBlock) :
    Engine (Protection trade.tradeId) := do
  let clientId := env.clientId trade.tradeId block.role decision.decidedAtMs
  let effectId := env.effectId trade.tradeId block.role .create
  let create : Engine String := do
    let response ← tpslEffect env trade effectId clientId block.role (block.price trade)
    check (requiredText env.lib (response.get "id") block.idField)
  match ← create.attempt with
  | .error exc => return ⟨trade.stored, [], some exc⟩
  | .ok exchangeId =>
    let patch := block.lineage clientId exchangeId
    let spec (trade : TradeRecord) : FactSpec := {
      effectId := some effectId
      orderRole := some block.role
      clientOrderId := some clientId
      exchangeOrderId := some exchangeId
      requestedQuantity := trade.filledQuantity
      positionQuantity := some trade.filledQuantity }
    match ← (transitionWithEvent env decision trade .PROTECTING block.createdJournal
        block.createdEvent
        { spec trade with details := [("reason", "pending_authoritative_reconciliation")] }
        patch).attempt with
    | .error exc => return ⟨trade.stored, [], some exc⟩
    | .ok ⟨created, kept, _⟩ =>
      match ← (reconcileProtection env decision created.trade block effectId exchangeId
          (spec created.trade) patch).attempt with
      | .error exc => return ⟨⟨created.trade, kept⟩, [created.event], some exc⟩
      | .ok ⟨reconciled, same, _⟩ =>
        return ⟨⟨reconciled.trade, same.trans kept⟩, [created.event, reconciled.event], none⟩

def protect (decision : Decision) (trade : TradeRecord) : Engine (List ExecutionEvent) := do
  let stop ← armProtection env decision trade stopBlock
  match stop.failure with
  | some exc =>
    return stop.events
      ++ (← emergencyClose env decision stop.trade.1 ("stop failed: " ++ exc.typeName))
  | none =>
    let target ← armProtection env decision stop.trade.1 targetBlock
    match target.failure with
    | some exc =>
      return stop.events ++ target.events
        ++ (← emergencyClose env decision target.trade.1 ("target failed: " ++ exc.typeName))
    | none => return stop.events ++ target.events

end KairosExecution.Paper
