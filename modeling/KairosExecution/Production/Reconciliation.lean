import KairosExecution.Paper.Types
import KairosExecution.Production.Runs
import KairosExecution.Python.Decimal

/-! The terminal reconciliation of a closed trade, receipt schema 2. Outside any
transaction a call asks its registered verifier for the venue's evidence and the
journals for the trade, its effects and its facts, and checks them against the
binding; then one transaction, under the account's lock, compares the evidence
with the reservation, looks for a receipt of the effect, and inserts one where
there is none. What the journals answered is input of the call, so that another
writer may have moved them by the time of the transaction. -/

namespace KairosExecution.Production

open Python

variable {Digest : Type} [DecidableEq Digest]

/-- `ReservationTradeBindingV1` -/
structure ReservationTradeBinding (Digest : Type) where
  tradeId : String
  decisionId : String
  effectId : Digest
  lifecycleEntryEffectId : String
  signingRequestId : String
  clientOrderId : String
  exchangeParentOrderId : String
  deriving DecidableEq

/-- `VenueTerminalEvidenceV2`, as its validators let it pass. -/
structure VenueTerminalEvidence (Digest : Type) where
  sourceId : String
  sourceEvidenceSha256 : Digest
  contextSha256 : Digest
  accountId : String
  tradeId : String
  decisionId : String
  effectId : Digest
  lifecycleEntryEffectId : String
  signingRequestId : String
  clientOrderId : String
  exchangeParentOrderId : String
  collectionStartedAt : Timestamp
  collectionFinishedAt : Timestamp
  observedAt : Timestamp
  complete : Bool
  terminal : Bool
  entryFilledQuantity : Decimal
  closedQuantity : Decimal
  entryNotionalUsd : Decimal
  exitNotionalUsd : Decimal
  entryFeesUsd : Decimal
  exitFeesUsd : Decimal
  residualPositionQuantity : Decimal
  residualOrderCount : ℕ
  residualProtectionCount : ℕ
  unownedExposureCount : ℕ
  entrySide : Side
  fundingCostUsd : Decimal
  settledAt : Timestamp
  ownerArmSha256 : Digest
  reservationRequestSha256 : Digest
  filled_pos : 0 < entryFilledQuantity.value
  closed_pos : 0 < closedQuantity.value
  entry_pos : 0 < entryNotionalUsd.value
  exit_pos : 0 < exitNotionalUsd.value
  entryFees_nonneg : 0 ≤ entryFeesUsd.value
  exitFees_nonneg : 0 ≤ exitFeesUsd.value
  residual_nonneg : 0 ≤ residualPositionQuantity.value
  collected : collectionStartedAt ≤ collectionFinishedAt
  observed : collectionFinishedAt ≤ observedAt
  settled : settledAt ≤ collectionFinishedAt

/-- The durable trade as the reconciler reads it. -/
structure LiveTrade (Digest : Type) where
  tradeId : String
  state : Paper.TradeState
  stateVersion : ℕ
  riskDecisionId : String
  tradingMode : String
  environment : String
  profile : String
  exchange : String
  accountId : String
  side : Paper.OrderSide
  entryClientOrderId : String
  entryExchangeOrderId : Option String
  filledQuantity : ℚ
  journalHeadSha256 : Digest
  deriving DecidableEq

/-- A row of the effect journal, the columns that the reconciler selects. -/
structure OwnedEffect (Digest : Type) where
  effectKey : String
  status : Paper.EffectStatus
  tradeId : Option String
  accountId : String
  environment : String
  exchange : String
  symbol : String
  clientOrderId : Option String
  exchangeEffectId : Option String
  journalHeadSha256 : Digest
  deriving DecidableEq

/-- A public fact of a trade, with the scope that the shared engine's facts leave out. -/
structure LiveFact extends Paper.ExecutionEvent where
  tradingMode : String
  evedexProfile : String

/-- What the journals answered to one call. -/
structure JournalReads (Digest : Type) where
  trade : Option (LiveTrade Digest)
  tradeChain : Bool
  /-- absent where the effect journal has no pool -/
  effects : Option (List (OwnedEffect Digest))
  effectChain : String → Bool
  facts : List LiveFact

/-- The canonical payload of a receipt: amounts are the texts of their decimals. -/
structure TerminalPayload (Digest : Type) where
  databaseUuid : ℕ
  contextSha256 : Digest
  accountSha256 : Digest
  tradeId : String
  decisionId : String
  effectId : Digest
  lifecycleEntryEffectId : String
  signingRequestId : String
  clientOrderId : String
  exchangeParentOrderId : String
  tradeJournalHeadSha256 : Digest
  executionFactsSha256 : Digest
  ownedEffectsSha256 : Digest
  entryFilledQuantity : String
  closedQuantity : String
  entryNotionalUsd : String
  exitNotionalUsd : String
  entryFeesUsd : String
  exitFeesUsd : String
  venueSourceId : String
  venueEvidenceSha256 : Digest
  venueComplete : Bool
  venueTerminal : Bool
  collectionStartedAt : Timestamp
  collectionFinishedAt : Timestamp
  observedAt : Timestamp
  residualPositionQuantity : String
  residualOrderCount : ℕ
  residualProtectionCount : ℕ
  entrySide : Side
  fundingCostUsd : String
  fundingComplete : Bool
  settledAt : Timestamp
  ownerArmSha256 : Digest
  reservationRequestSha256 : Digest
  unownedExposureCount : ℕ
  deriving DecidableEq

/-- The primitives of the boundary with the digests of the reconciler's own contents. -/
structure ReceiptPrimitives (Digest : Type) extends Primitives Digest where
  payloadSha256 : TerminalPayload Digest → Digest
  effectsSha256 : List (OwnedEffect Digest) → Digest
  factsSha256 : List LiveFact → Digest

/-- `jsonb_populate_record`: the columns read the payload, its texts as numbers. -/
def TerminalPayload.columns (payload : TerminalPayload Digest) : ReceiptColumns Digest where
  databaseUuid := payload.databaseUuid
  contextSha256 := payload.contextSha256
  accountSha256 := payload.accountSha256
  tradeId := payload.tradeId
  decisionId := payload.decisionId
  effectId := payload.effectId
  signingRequestId := payload.signingRequestId
  clientOrderId := payload.clientOrderId
  entryFilledQuantity := numericOf payload.entryFilledQuantity
  closedQuantity := numericOf payload.closedQuantity
  entryNotionalUsd := numericOf payload.entryNotionalUsd
  exitNotionalUsd := numericOf payload.exitNotionalUsd
  entryFeesUsd := numericOf payload.entryFeesUsd
  exitFeesUsd := numericOf payload.exitFeesUsd
  venueComplete := payload.venueComplete
  venueTerminal := payload.venueTerminal
  collectionStartedAt := payload.collectionStartedAt
  collectionFinishedAt := payload.collectionFinishedAt
  observedAt := payload.observedAt
  residualPositionQuantity := numericOf payload.residualPositionQuantity
  residualOrderCount := payload.residualOrderCount
  residualProtectionCount := payload.residualProtectionCount
  entrySide := payload.entrySide
  fundingCostUsd := numericOf payload.fundingCostUsd
  fundingComplete := payload.fundingComplete
  settledAt := payload.settledAt
  ownerArmSha256 := payload.ownerArmSha256
  reservationRequestSha256 := payload.reservationRequestSha256
  unownedExposureCount := payload.unownedExposureCount

/-- A row of the schema-2 `terminal_receipts`; its columns are those of its payload. -/
structure TerminalReceipt (Digest : Type) where
  receiptId : ℕ
  payload : TerminalPayload Digest
  payloadSha256 : Digest
  insertedAt : Timestamp
  deriving DecidableEq

/-- The row as the accounting acceptor reads it. -/
def TerminalReceipt.row (receipt : TerminalReceipt Digest) : ReceiptRow Digest :=
  { receipt.payload.columns with
    receiptId := receipt.receiptId
    payload := receipt.payload.columns
    payloadSha256 := receipt.payloadSha256
    insertedAt := receipt.insertedAt }

/-- The production database with its receipts in full. -/
structure ReceiptLedger (Digest : Type) where
  db : Database Digest
  receipts : List (TerminalReceipt Digest)
  rows : db.terminalReceipts = receipts.map TerminalReceipt.row

/-- A registered adapter: the evidence of raw venue evidence, absent where it raises
or where the evidence does not validate. -/
abbrev EvidenceVerifier (Raw Digest : Type) :=
  Raw → ProductionContext Digest → ReservationTradeBinding Digest →
    Option (VenueTerminalEvidence Digest)

/-- `ProductionReservationReconciler`, of schema version 2. -/
structure Reconciler (Raw Digest : Type) where
  databaseUuid : ℕ
  context : ProductionContext Digest
  sourceVerifiers : String → Option (EvidenceVerifier Raw Digest)
  uuid_pos : 0 < databaseUuid

section Checks

variable {Raw : Type} (p : ReceiptPrimitives Digest) (r : Reconciler Raw Digest)
  (binding : ReservationTradeBinding Digest) (evidence : VenueTerminalEvidence Digest)

def Reconciler.contextSha256 : Digest := p.sha256 (.context r.context)

def Reconciler.accountSha256 : Digest := accountScopeSha256 p.toPrimitives r.context

def Reconciler.lifecycleEnvironment : String :=
  "PROD:" ++ p.hex (r.contextSha256 p) ++ ":LIVE"

def verifyTrade (trade : Option (LiveTrade Digest)) (chain : Bool) :
    Except Err (LiveTrade Digest) := do
  let trade ← required (.reconciliation "durable trade is absent or not FLAT") trade
  refuse (trade.state ≠ .FLAT) (.reconciliation "durable trade is absent or not FLAT")
  refuse (!chain) (.reconciliation "durable trade lifecycle chain is invalid")
  refuse (trade.tradeId ≠ binding.tradeId ∨ trade.riskDecisionId ≠ binding.decisionId
      ∨ trade.tradingMode ≠ "LIVE" ∨ trade.environment ≠ r.lifecycleEnvironment p
      ∨ trade.profile ≠ "PROD" ∨ p.casefold trade.exchange ≠ "evedex"
      ∨ trade.accountId ≠ r.context.remoteAccountId
      ∨ trade.entryClientOrderId ≠ binding.clientOrderId
      ∨ trade.entryExchangeOrderId ≠ some binding.exchangeParentOrderId)
    (.reconciliation "durable trade identity differs from exact reservation lineage")
  refuse (trade.filledQuantity ≤ 0) (.reconciliation "trade has no actual durable entry fill")
  refuse (evidence.entryFilledQuantity.value ≠ trade.filledQuantity)
    (.reconciliation "venue entry quantity differs from durable trade fill")
  return trade

/-- The checks of one owned effect. -/
def verifyEffect (trade : LiveTrade Digest) (chain : String → Bool) (effect : OwnedEffect Digest) :
    Except Err Unit := do
  refuse (effect.accountId ≠ r.context.remoteAccountId ∨ effect.tradeId ≠ some trade.tradeId
      ∨ effect.environment ≠ r.lifecycleEnvironment p ∨ p.casefold effect.exchange ≠ "evedex"
      ∨ (effect.status ≠ .RECONCILED ∧ effect.status ≠ .CONFIRMED))
    (.reconciliation "owned execution effect is unknown, unresolved, or out of scope")
  refuse (!chain effect.effectKey)
    (.reconciliation "owned execution effect journal chain is invalid")
  refuse (effect.effectKey = binding.lifecycleEntryEffectId
      ∧ (effect.clientOrderId ≠ some binding.clientOrderId
        ∨ effect.exchangeEffectId ≠ some binding.exchangeParentOrderId))
    (.reconciliation "entry effect is not bound to exact venue order identifiers")

def verifyEffects (trade : LiveTrade Digest) (effects : List (OwnedEffect Digest))
    (chain : String → Bool) : Except Err Unit := do
  refuse effects.isEmpty (.reconciliation "trade has no owned durable execution effects")
  effects.forM (verifyEffect p r binding trade chain)
  refuse (!effects.any (·.effectKey = binding.lifecycleEntryEffectId))
    (.reconciliation "entry reservation effect is absent from owned trade journal")

/-- `event.event_type.value in {"EXIT_FILLED", "EMERGENCY_CLOSE"} and event.filled_quantity > 0` -/
def isExitFill (fact : LiveFact) : Bool :=
  (fact.eventType = .EXIT_FILLED ∨ fact.eventType = .EMERGENCY_CLOSE) ∧ 0 < fact.filledQuantity

/-- An entry fill of the entry's own order. -/
def isEntryFill (fact : LiveFact) : Bool :=
  (fact.eventType = .ENTRY_FILLED ∨ fact.eventType = .ENTRY_PARTIAL_FILL)
    ∧ fact.orderRole = some .ENTRY ∧ 0 < fact.filledQuantity

def verifyFacts (trade : LiveTrade Digest) (facts : List LiveFact) : Except Err Unit := do
  refuse facts.isEmpty (.reconciliation "durable execution facts are absent")
  refuse (facts.length ≠ trade.stateVersion + 1
      ∨ facts.map (·.eventSeq) ≠ List.range' 1 facts.length
      ∨ !(facts.getLast?.any fun last => last.lifecycleState = .FLAT ∧ last.positionQuantity = 0))
    (.reconciliation "durable execution fact sequence is not complete and FLAT")
  refuse (facts.any fun fact => fact.tradeId ≠ binding.tradeId
      ∨ fact.riskDecisionId ≠ binding.decisionId ∨ fact.accountId ≠ trade.accountId
      ∨ fact.tradingMode ≠ "LIVE" ∨ fact.evedexProfile ≠ "PROD")
    (.reconciliation "durable execution facts conflict with trade identity")
  refuse (!facts.any isExitFill) (.reconciliation "durable execution facts lack an actual exit fill")
  refuse (!facts.any isEntryFill)
    (.reconciliation "durable execution facts lack an actual entry fill")
  refuse (evidence.closedQuantity.value ≠ evidence.entryFilledQuantity.value)
    (.reconciliation "closed quantity does not exactly equal actual entry fills")

def verifyVenueEvidence (now : Timestamp) : Except Err Unit := do
  refuse (!(r.sourceVerifiers evidence.sourceId).isSome
      ∨ evidence.contextSha256 ≠ r.contextSha256 p ∨ evidence.accountId ≠ r.context.remoteAccountId
      ∨ evidence.tradeId ≠ binding.tradeId ∨ evidence.decisionId ≠ binding.decisionId
      ∨ evidence.effectId ≠ binding.effectId
      ∨ evidence.lifecycleEntryEffectId ≠ binding.lifecycleEntryEffectId
      ∨ evidence.signingRequestId ≠ binding.signingRequestId
      ∨ evidence.clientOrderId ≠ binding.clientOrderId
      ∨ evidence.exchangeParentOrderId ≠ binding.exchangeParentOrderId)
    (.reconciliation "venue evidence identity does not match exact trade/reservation")
  refuse (!evidence.complete ∨ !evidence.terminal ∨ evidence.unownedExposureCount ≠ 0)
    (.reconciliation "venue evidence is incomplete, nonterminal, or has unowned exposure")
  refuse (evidence.residualPositionQuantity.value ≠ 0 ∨ evidence.residualOrderCount ≠ 0
      ∨ evidence.residualProtectionCount ≠ 0)
    (.reconciliation "venue evidence reports nonzero residual exposure/order/protection")
  refuse (evidence.entryFilledQuantity.value ≤ 0
      ∨ evidence.closedQuantity.value ≠ evidence.entryFilledQuantity.value)
    (.reconciliation "venue evidence does not prove a fully filled and closed trade")
  refuse (evidence.entryNotionalUsd.value ≤ 0 ∨ evidence.exitNotionalUsd.value ≤ 0)
    (.reconciliation "venue evidence lacks exact positive entry/exit notionals")
  refuse (evidence.collectionFinishedAt < evidence.collectionStartedAt
      ∨ evidence.observedAt < evidence.collectionFinishedAt ∨ now < evidence.observedAt
      ∨ now - evidence.observedAt > maxEvidenceAge)
    (.reconciliation "venue evidence collection is stale or has invalid bounds")

/-- `_verify_reservation`, of the joined row. -/
def verifyReservation (reservation : ReservationRow Digest) (risk : RiskRow Digest) :
    Except Err Unit := do
  refuse (reservation.effectId ≠ binding.effectId ∨ reservation.decisionId ≠ binding.decisionId
      ∨ reservation.signingRequestId ≠ binding.signingRequestId
      ∨ reservation.contextSha256 ≠ r.contextSha256 p
      ∨ reservation.accountSha256 ≠ r.accountSha256 p
      ∨ risk.payload.clientOrderId ≠ some binding.clientOrderId
      ∨ risk.payload.effectId ≠ binding.effectId ∨ risk.payload.decisionId ≠ binding.decisionId
      ∨ risk.payload.signingRequestId ≠ binding.signingRequestId)
    (.reconciliation "reservation does not match immutable risk decision/order binding")
  refuse (p.sha256 (.risk risk.payload) ≠ risk.payloadSha256)
    (.reconciliation "persisted risk decision digest is invalid")

end Checks

section Transaction

variable {Raw : Type} (p : ReceiptPrimitives Digest) (r : Reconciler Raw Digest)

/-- One call of `reconcile_terminal`. -/
structure TerminalCall (Raw Digest : Type) where
  reconciler : Reconciler Raw Digest
  binding : ReservationTradeBinding Digest
  rawVenueEvidence : Raw
  sourceId : String
  /-- what the journals answered to it -/
  reads : JournalReads Digest

/-- What a call has established before its transaction. -/
structure PreparedReceipt (Digest : Type) where
  evidence : VenueTerminalEvidence Digest
  trade : LiveTrade Digest
  payload : TerminalPayload Digest

/-- The canonical payload. -/
def terminalPayload (binding : ReservationTradeBinding Digest)
    (evidence : VenueTerminalEvidence Digest) (trade : LiveTrade Digest)
    (effects : List (OwnedEffect Digest)) (facts : List LiveFact) : TerminalPayload Digest where
  databaseUuid := r.databaseUuid
  contextSha256 := r.contextSha256 p
  accountSha256 := r.accountSha256 p
  tradeId := binding.tradeId
  decisionId := binding.decisionId
  effectId := binding.effectId
  lifecycleEntryEffectId := binding.lifecycleEntryEffectId
  signingRequestId := binding.signingRequestId
  clientOrderId := binding.clientOrderId
  exchangeParentOrderId := binding.exchangeParentOrderId
  tradeJournalHeadSha256 := trade.journalHeadSha256
  executionFactsSha256 := p.factsSha256 facts
  ownedEffectsSha256 := p.effectsSha256 effects
  entryFilledQuantity := evidence.entryFilledQuantity.text
  closedQuantity := evidence.closedQuantity.text
  entryNotionalUsd := evidence.entryNotionalUsd.text
  exitNotionalUsd := evidence.exitNotionalUsd.text
  entryFeesUsd := evidence.entryFeesUsd.text
  exitFeesUsd := evidence.exitFeesUsd.text
  venueSourceId := evidence.sourceId
  venueEvidenceSha256 := evidence.sourceEvidenceSha256
  venueComplete := evidence.complete
  venueTerminal := evidence.terminal
  collectionStartedAt := evidence.collectionStartedAt
  collectionFinishedAt := evidence.collectionFinishedAt
  observedAt := evidence.observedAt
  residualPositionQuantity := "0"
  residualOrderCount := 0
  residualProtectionCount := 0
  entrySide := evidence.entrySide
  fundingCostUsd := evidence.fundingCostUsd.text
  fundingComplete := true
  settledAt := evidence.settledAt
  ownerArmSha256 := evidence.ownerArmSha256
  reservationRequestSha256 := evidence.reservationRequestSha256
  unownedExposureCount := 0

/-- The evidence that the registered verifier returns under its own source. -/
def TerminalCall.evidence (call : TerminalCall Raw Digest) :
    Except Err (VenueTerminalEvidence Digest) := do
  let verifier ← required (.reconciliation "venue evidence source is not registered")
    (call.reconciler.sourceVerifiers call.sourceId)
  let evidence ← required (.reconciliation "terminal reconciliation refused")
    (verifier call.rawVenueEvidence call.reconciler.context call.binding)
  refuse (evidence.sourceId ≠ call.sourceId)
    (.reconciliation "registered verifier returned evidence under a different source identity")
  return evidence

/-- `reconcile_terminal` up to its transaction. -/
def TerminalCall.prepare (call : TerminalCall Raw Digest) : Except Err (PreparedReceipt Digest) := do
  let evidence ← call.evidence
  let trade ← verifyTrade p call.reconciler call.binding evidence call.reads.trade
    call.reads.tradeChain
  let effects ← required
    (.reconciliation "execution journal has no durable query source") call.reads.effects
  verifyEffects p call.reconciler call.binding trade effects call.reads.effectChain
  verifyFacts call.binding evidence trade call.reads.facts
  return {
    evidence := evidence
    trade := trade
    payload := terminalPayload p call.reconciler call.binding evidence trade effects
      call.reads.facts }

/-- `_inspect`, as far as it reads the identity rows. -/
def inspectReconciliation (db : Database Digest) : Except Err Unit := do
  refuse (db.databaseUuid ≠ r.databaseUuid ∨ db.accountSha256 ≠ r.accountSha256 p)
    (.reconciliation "production state identity differs from reconciliation scope")
  refuse (db.schema ≠ .V3) (.reconciliation "unsupported production state schema")

/-- The reservation of an effect, joined with its risk decision. -/
def ReceiptLedger.reservation (ledger : ReceiptLedger Digest) (accountSha256 effectId : Digest) :
    Option (ReservationRow Digest × RiskRow Digest) := do
  let reservation ← (ledger.db.reservations accountSha256).find? (·.effectId = effectId)
  let risk ← ledger.db.riskDecision reservation.contextSha256 reservation.signingRequestId
  return (reservation, risk)

/-- The receipt of an effect. -/
def ReceiptLedger.receipt (ledger : ReceiptLedger Digest) (accountSha256 effectId : Digest) :
    Option (TerminalReceipt Digest) :=
  ledger.receipts.find? fun receipt =>
    receipt.payload.accountSha256 = accountSha256 ∧ receipt.payload.effectId = effectId

/-- What a call returns. -/
structure ReconciledReceipt (Digest : Type) where
  receiptId : ℕ
  created : Bool
  payloadSha256 : Digest
  deriving DecidableEq

/-- What differs from call to call: the clock of the caller, a new receipt id, and
the clock of the database. -/
structure CallMoment where
  now : Timestamp
  receiptId : ℕ
  clock : Timestamp

/-- `INSERT`, with the trigger, the checks and the keys of the table. -/
def ReceiptLedger.insert (ledger : ReceiptLedger Digest) (receipt : TerminalReceipt Digest) :
    Except Err (ReceiptLedger Digest) :=
  match inserted : insertReceipt ledger.db receipt.receiptId receipt.payload.columns
      receipt.payload.columns receipt.payloadSha256 receipt.insertedAt with
  | .error error => .error error
  | .ok db => .ok {
      db := db
      receipts := ledger.receipts ++ [receipt]
      rows := by
        obtain ⟨-, -, rfl⟩ := insertReceipt_ok inserted
        simp [ledger.rows, TerminalReceipt.row] }

/-- The evidence is of the owner, the request and the side of the reservation. -/
def verifyLineageOf (prepared : PreparedReceipt Digest) (reservation : ReservationRow Digest)
    (risk : RiskRow Digest) : Except Err Unit :=
  refuse (prepared.evidence.ownerArmSha256 ≠ reservation.ownerArmSha256
      ∨ prepared.evidence.reservationRequestSha256 ≠ reservation.requestSha256
      ∨ some prepared.evidence.entrySide ≠ risk.payload.side
      ∨ prepared.evidence.entrySide.text ≠ prepared.trade.side.value)
    (.reconciliation "accounting economics/owner lineage mismatch")

/-- An effect that has a receipt: the exact replay, by the time of its acceptance. -/
def replayReceipt (binding : ReservationTradeBinding Digest) (prepared : PreparedReceipt Digest)
    (existing : TerminalReceipt Digest) : Except Err (ReconciledReceipt Digest) := do
  refuse (existing.payloadSha256 ≠ p.payloadSha256 prepared.payload)
    (.reconciliation "terminal receipt identity was rebound")
  verifyVenueEvidence p r binding prepared.evidence existing.insertedAt
  return {
    receiptId := existing.receiptId
    created := false
    payloadSha256 := p.payloadSha256 prepared.payload }

/-- An effect that has none. -/
def createReceipt (ledger : ReceiptLedger Digest) (binding : ReservationTradeBinding Digest)
    (prepared : PreparedReceipt Digest) (moment : CallMoment) :
    Except Err (ReceiptLedger Digest × ReconciledReceipt Digest) := do
  verifyVenueEvidence p r binding prepared.evidence moment.now
  let ledger' ← ledger.insert {
    receiptId := moment.receiptId
    payload := prepared.payload
    payloadSha256 := p.payloadSha256 prepared.payload
    insertedAt := moment.clock }
  return (ledger', {
    receiptId := moment.receiptId
    created := true
    payloadSha256 := p.payloadSha256 prepared.payload })

/-- The receipt's part of the transaction. -/
def findOrCreate (ledger : ReceiptLedger Digest) (binding : ReservationTradeBinding Digest)
    (prepared : PreparedReceipt Digest) (moment : CallMoment) :
    Except Err (ReceiptLedger Digest × ReconciledReceipt Digest) :=
  match ledger.receipt (r.accountSha256 p) binding.effectId with
  | some existing => do
    let replayed ← replayReceipt p r binding prepared existing
    return (ledger, replayed)
  | none => createReceipt p r ledger binding prepared moment

/-- The transaction of a prepared call. -/
def TerminalCall.transact (call : TerminalCall Raw Digest) (ledger : ReceiptLedger Digest)
    (prepared : PreparedReceipt Digest) (moment : CallMoment) :
    Except Err (ReceiptLedger Digest × ReconciledReceipt Digest) := do
  inspectReconciliation p call.reconciler ledger.db
  let (reservation, risk) ← required (.reconciliation "exact durable entry reservation is absent")
    (ledger.reservation (call.reconciler.accountSha256 p) call.binding.effectId)
  verifyReservation p call.reconciler call.binding reservation risk
  verifyLineageOf prepared reservation risk
  findOrCreate p call.reconciler ledger call.binding prepared moment

/-- `reconcile_terminal`: what it returns and the ledger it leaves, where it does not raise. -/
def TerminalCall.reconcile (call : TerminalCall Raw Digest) (ledger : ReceiptLedger Digest)
    (moment : CallMoment) : Except Err (ReceiptLedger Digest × ReconciledReceipt Digest) := do
  let prepared ← call.prepare p
  call.transact p ledger prepared moment

end Transaction

end KairosExecution.Production
