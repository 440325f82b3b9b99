import KairosExecution.Production.Message
import KairosExecution.Production.State
import KairosExecution.Table.Aggregate

/-! The reservation of an entry's risk, and the guard that its row passes. Both add up what
the account has reserved, take the greatest baseline and the smallest cap and equity of
its whole history, and compare; the writer in the decimal context, the guard in exact
numerics. The writer takes an effect that is reserved already for a redelivery. -/

namespace KairosExecution.Production

open Python Table

variable {Digest : Type} [DecidableEq Digest]

section Totals

/-- `_reservation_totals_query` -/
structure Totals where
  riskUsd : ℚ
  notionalUsd : ℚ
  baseRisk : Option ℚ
  baseNotional : Option ℚ
  dailyRealized : Option ℚ
  accountEquity : Option ℚ
  dollarCap : Option ℚ
  dailyStop : Option ℚ
  realizedCharge : ℚ

/-- The reservations of an account. -/
def Database.reservations (db : Database Digest) (accountSha256 : Digest) :
    List (ReservationRow Digest) :=
  db.riskReservations.filter (·.accountSha256 = accountSha256)

/-- The releases that join a reservation. -/
def Database.releasesOf (db : Database Digest) (row : ReservationRow Digest) :
    List (ReleaseRow Digest) :=
  db.acceptedReleases.filter fun release =>
    release.accountSha256 = row.accountSha256 ∧ release.effectId = row.effectId

/-- The rows of the query: in `V2` the reservations alone, in `V3` with their releases. -/
def Database.counted (db : Database Digest) (accountSha256 : Digest) :
    List (ReservationRow Digest × Option (ReleaseRow Digest)) :=
  match db.schema with
  | .V2 => (db.reservations accountSha256).map fun row => (row, none)
  | .V3 => leftJoin db.releasesOf (db.reservations accountSha256)

/-- `CASE WHEN a.effect_id IS NULL THEN ... ELSE 0 END` -/
def unreleased (amount : ReservationRow Digest → ℚ)
    (entry : ReservationRow Digest × Option (ReleaseRow Digest)) : ℚ :=
  if entry.2.isNone then amount entry.1 else 0

/-- The charge of a joined release, which a sum leaves out where it is NULL. -/
def charge (entry : ReservationRow Digest × Option (ReleaseRow Digest)) : ℚ :=
  (entry.2.map (·.lossChargeUsd)).getD 0

def Database.totals (db : Database Digest) (accountSha256 : Digest) : Totals :=
  let rows := db.counted accountSha256
  { riskUsd := (rows.map (unreleased (·.riskUsd))).sum
    notionalUsd := (rows.map (unreleased (·.notionalUsd))).sum
    baseRisk := maxOf (rows.map (·.1.aggregateOpenRiskUsd))
    baseNotional := maxOf (rows.map (·.1.aggregateOpenNotionalUsd))
    dailyRealized := maxOf (rows.map (·.1.dailyRealizedLossUsd))
    accountEquity := minOf (rows.map (·.1.accountEquityUsd))
    dollarCap := minOf (rows.map (·.1.dollarCap))
    dailyStop := minOf (rows.map (·.1.dailyStopLossUsd))
    realizedCharge := (rows.map charge).sum }

end Totals

section Guard

variable (p : Primitives Digest)

/-- The notional that a risk decision stands for. -/
def expectedNotional (risk : RiskGeometry Digest) : Except Err ℚ :=
  match risk.cashQuantity with
  | some cash => .ok (cash / 100_000_000)
  | none => do
    let price ← required (.database "risk decision lacks exact entry price") risk.price
    return risk.quantity * price / 10_000_000_000_000_000

/-- What the caps of an account leave no room for. -/
def exceedsCaps (new : ReservationRow Digest) (prior : Totals) : Bool :=
  let baseRisk := max new.aggregateOpenRiskUsd (prior.baseRisk.getD 0)
  let baseNotional := max new.aggregateOpenNotionalUsd (prior.baseNotional.getD 0)
  let dailyLoss := max new.dailyRealizedLossUsd (prior.dailyRealized.getD 0) + prior.realizedCharge
  let accountEquity := min new.accountEquityUsd (prior.accountEquity.getD new.accountEquityUsd)
  let dollarLimit := min new.dollarCap (prior.dollarCap.getD new.dollarCap)
  let dailyLimit := min new.dailyStopLossUsd (prior.dailyStop.getD new.dailyStopLossUsd)
  new.riskUsd > dollarLimit ∨ new.riskUsd > accountEquity * (25 / 10_000)
    ∨ baseRisk + prior.riskUsd + new.riskUsd > accountEquity * (1 / 100)
    ∨ dailyLoss + prior.riskUsd + new.riskUsd > dailyLimit
    ∨ baseNotional + prior.notionalUsd + new.notionalUsd > dollarLimit

/-- `enforce_risk_reservation`, by the clock of the database. -/
def enforceRiskReservation (db : Database Digest) (new : ReservationRow Digest) (nowAt : Timestamp) :
    Except Err Unit := do
  refuse (db.accountSha256 ≠ new.accountSha256) (.database "reservation account scope mismatch")
  let risk ← required (.database "reservation differs from exact risk decision")
    (db.riskDecision new.contextSha256 new.signingRequestId)
  refuse (risk.decisionId ≠ new.decisionId ∨ risk.observedAt ≠ new.observedAt
      ∨ risk.payloadSha256 ≠ new.evidenceSha256 ∨ risk.payload.effectId ≠ new.effectId
      ∨ risk.payload.worstCaseLossUsd ≠ new.riskUsd
      ∨ risk.payload.accountEquityUsd ≠ new.accountEquityUsd
      ∨ risk.payload.dailyRealizedLossUsd ≠ new.dailyRealizedLossUsd
      ∨ risk.payload.aggregateOpenRiskUsd ≠ new.aggregateOpenRiskUsd
      ∨ risk.payload.aggregateOpenNotionalUsd ≠ new.aggregateOpenNotionalUsd
      ∨ risk.payload.leverage ≠ 1)
    (.database "reservation differs from exact risk decision")
  let notional ← expectedNotional risk.payload
  refuse (notional ≠ new.notionalUsd ∨ risk.validUntil ≤ nowAt ∨ nowAt ≤ risk.observedAt
      ∨ nowAt - risk.observedAt > seconds 5)
    (.database "reservation notional or evidence lease is invalid")
  let arm ← required (.database "reservation owner arm is absent") (db.ownerArms.find? fun arm =>
    arm.contextSha256 = new.contextSha256 ∧ arm.requestSha256 = new.ownerArmSha256)
  refuse (arm.payload.request.dollarCap ≠ new.dollarCap
      ∨ arm.payload.request.dailyStopLossUsd ≠ new.dailyStopLossUsd
      ∨ arm.payload.request.expiresAt ≤ nowAt)
    (.database "reservation owner limits changed or expired")
  refuse (exceedsCaps new (db.totals new.accountSha256))
    (.database "account risk reservation exceeds cap")

/-- The checks of the columns, and the keys of the table. -/
def insertReservation (db : Database Digest) (new : ReservationRow Digest) (nowAt : Timestamp) :
    Except Err (Database Digest) := do
  enforceRiskReservation db new nowAt
  refuse (¬(0 < new.riskUsd ∧ 0 < new.notionalUsd ∧ 0 < new.accountEquityUsd
      ∧ 0 ≤ new.dailyRealizedLossUsd ∧ 0 ≤ new.aggregateOpenRiskUsd
      ∧ 0 ≤ new.aggregateOpenNotionalUsd ∧ 0 < new.dollarCap ∧ 0 < new.dailyStopLossUsd))
    (.database "23514")
  refuse ((db.reservations new.accountSha256).any fun row =>
      row.effectId = new.effectId ∨ row.signingRequestId = new.signingRequestId)
    (.database "23505")
  return { db with riskReservations := db.riskReservations ++ [new] }

end Guard

section Reserve

variable (p : Primitives Digest)

def entryNotionalUsd (message : Record) : Except Err ℚ :=
  if message.has "cashQuantity" then do
    let amount ← instead (.state "entry cash notional is not an exact positive integer")
      (intOf message "cashQuantity")
    refuse (amount ≤ 0) (.state "entry cash notional is not an exact positive integer")
    return p.round (amount / 10 ^ 8)
  else do
    let quantity ← instead (.state "entry quantity/price notional is not exact")
      (intOf message "quantity")
    let price ← instead (.state "entry quantity/price notional is not exact")
      (intOf message (if message.has "limitPrice" then "limitPrice" else "price"))
    refuse (quantity ≤ 0 ∨ price ≤ 0) (.state "entry quantity/price notional is not exact")
    let notional := p.round (p.round (quantity * price) / 10 ^ 16)
    refuse (notional ≤ 0) (.state "entry notional is outside the exact positive range")
    return notional

/-- The row that a reservation inserts. -/
def reservationRow (context : ProductionContext Digest) (request : ManagedSigningRequest Digest)
    (binding : CustodyBinding Digest) (evidence : SigningEvidence Digest) (notional : ℚ) :
    ReservationRow Digest :=
  let risk := evidence.risk
  let arm := evidence.ownerArm.request
  { contextSha256 := p.sha256 (.context context)
    accountSha256 := accountScopeSha256 p context
    effectId := risk.effectId
    signingRequestId := request.requestId
    decisionId := risk.decisionId
    ownerArmSha256 := p.sha256 (.arm arm)
    observedAt := risk.observedAt
    riskUsd := risk.worstCaseLossUsd
    notionalUsd := notional
    accountEquityUsd := risk.accountEquityUsd
    dailyRealizedLossUsd := risk.dailyRealizedLossUsd
    aggregateOpenRiskUsd := risk.aggregateOpenRiskUsd
    aggregateOpenNotionalUsd := risk.aggregateOpenNotionalUsd
    dollarCap := arm.dollarCap
    dailyStopLossUsd := arm.dailyStopLossUsd
    evidenceSha256 := p.sha256 (.risk risk)
    requestSha256 := p.sha256 (.reservation request binding (p.sha256 (.risk risk))
      (p.sha256 (.arm arm)) risk.effectId) }

/-- The evidence is still current, persisted, and accepted. -/
def verifyLineage (db : Database Digest) (context : ProductionContext Digest)
    (request : ManagedSigningRequest Digest) (evidence : SigningEvidence Digest)
    (maxSnapshotAge : ℤ) (dbNow : Timestamp) : Except Err Unit := do
  let risk := evidence.risk
  let arm := evidence.ownerArm.request
  let contextSha256 := p.sha256 (.context context)
  let armSha256 := p.sha256 (.arm arm)
  refuse (risk.observedAt > dbNow ∨ dbNow - risk.observedAt > maxSnapshotAge
      ∨ risk.validUntil ≤ dbNow ∨ risk.validUntil - risk.observedAt > seconds 30
      ∨ ¬(arm.createdAt ≤ dbNow ∧ dbNow < arm.expiresAt))
    (.state "risk or owner limit evidence expired before reservation")
  let riskRow ← required (.state "risk reservation is not bound to its persisted decision")
    (db.riskDecision contextSha256 request.requestId)
  refuse (riskRow.decisionId ≠ risk.decisionId ∨ riskRow.observedAt ≠ risk.observedAt
      ∨ riskRow.payloadSha256 ≠ p.sha256 (.risk risk))
    (.state "risk reservation is not bound to its persisted decision")
  let armRow ← required (.state "risk reservation lacks the accepted exact owner arm")
    (db.ownerArms.find? fun row => row.contextSha256 = contextSha256 ∧ row.requestSha256 = armSha256
      ∧ row.ownerIdentity = arm.ownerIdentity ∧ row.nonce = arm.nonce)
  let nonceRow ← required (.state "risk reservation lacks the accepted exact owner arm")
    (db.claims.find? (·.key = ⟨.MANUAL_NONCE, arm.ownerIdentity, arm.nonce⟩))
  refuse (armRow.payloadSha256 ≠ p.sha256 (.signedArm evidence.ownerArm)
      ∨ nonceRow.requestSha256 ≠ armSha256 ∨ nonceRow.contextSha256 ≠ contextSha256)
    (.state "risk reservation lacks the accepted exact owner arm")
  let operatorRow ← required (.state "risk reservation lacks current operator state")
    (latest (db.history contextSha256))
  let operator := operatorRow.payload
  refuse (p.sha256 (.operator operator) ≠ operatorRow.payloadSha256
      ∨ some operator ≠ evidence.operator ∨ operator.state ≠ .ARMED
      ∨ operator.armNonce ≠ some arm.nonce ∨ operator.armRequestSha256 ≠ some armSha256
      ∨ !(operator.expiresAt.any (dbNow < ·)))
    (.state "current operator command changed before reservation")

/-- The columns that a redelivered reservation has to repeat. -/
def reboundReservation (existing new : ReservationRow Digest) : Bool :=
  existing.contextSha256 ≠ new.contextSha256 ∨ existing.ownerArmSha256 ≠ new.ownerArmSha256
    ∨ existing.accountSha256 ≠ new.accountSha256
    ∨ existing.signingRequestId ≠ new.signingRequestId ∨ existing.decisionId ≠ new.decisionId
    ∨ existing.riskUsd ≠ new.riskUsd ∨ existing.notionalUsd ≠ new.notionalUsd
    ∨ existing.accountEquityUsd ≠ new.accountEquityUsd
    ∨ existing.dailyRealizedLossUsd ≠ new.dailyRealizedLossUsd
    ∨ existing.aggregateOpenRiskUsd ≠ new.aggregateOpenRiskUsd
    ∨ existing.aggregateOpenNotionalUsd ≠ new.aggregateOpenNotionalUsd
    ∨ existing.dollarCap ≠ new.dollarCap ∨ existing.dailyStopLossUsd ≠ new.dailyStopLossUsd
    ∨ existing.evidenceSha256 ≠ new.evidenceSha256 ∨ existing.requestSha256 ≠ new.requestSha256

/-- The caps, as the writer computes them in the decimal context. The charges of releases are
added in `V3` alone. -/
def exceedsDecimalCaps (schema : StateSchema) (new : ReservationRow Digest) (totals : Totals) : Bool :=
  let baseRisk := max new.aggregateOpenRiskUsd (totals.baseRisk.getD 0)
  let baseNotional := max new.aggregateOpenNotionalUsd (totals.baseNotional.getD 0)
  let snapshot := max new.dailyRealizedLossUsd (totals.dailyRealized.getD 0)
  let dailyRealized := match schema with
    | .V2 => snapshot
    | .V3 => p.round (snapshot + totals.realizedCharge)
  let accountEquity := min new.accountEquityUsd (totals.accountEquity.getD new.accountEquityUsd)
  let dollarLimit := min new.dollarCap (totals.dollarCap.getD new.dollarCap)
  let dailyLimit := min new.dailyStopLossUsd (totals.dailyStop.getD new.dailyStopLossUsd)
  new.riskUsd > dollarLimit ∨ new.riskUsd > p.round (accountEquity * (25 / 10_000))
    ∨ p.round (p.round (baseRisk + totals.riskUsd) + new.riskUsd) > p.round (accountEquity * (1 / 100))
    ∨ p.round (p.round (dailyRealized + totals.riskUsd) + new.riskUsd) > dailyLimit
    ∨ p.round (p.round (baseNotional + totals.notionalUsd) + new.notionalUsd) > dollarLimit

/-- The reservation of a row that is not there yet. -/
def reserveNew (db : Database Digest) (new : ReservationRow Digest) (leverage : ℕ) (nowAt : Timestamp) :
    Except Err (Database Digest) := do
  refuse ((db.reservations new.accountSha256).any (·.signingRequestId = new.signingRequestId))
    (.state "signing request already reserves a different effect")
  refuse (leverage ≠ 1 ∨ exceedsDecimalCaps p db.schema new (db.totals new.accountSha256))
    (.state "account risk reservation exceeds the current exact-decimal cap")
  insertReservation db new nowAt

/-- The reservation of a row, which may be there. -/
def reserveRow (db : Database Digest) (new : ReservationRow Digest) (leverage : ℕ) (nowAt : Timestamp) :
    Except Err (Database Digest) :=
  match (db.reservations new.accountSha256).find? (·.effectId = new.effectId) with
  | some existing => do
    refuse (reboundReservation existing new)
      (.state "risk reservation effect identity was rebound")
    return db
  | none => reserveNew p db new leverage nowAt

/-- `reserve_entry_async` of the source of a context: the clock of the database is read by
the transaction, and again by the guard. -/
def reserveEntry (db : Database Digest) (context : ProductionContext Digest) (maxSnapshotAge : ℤ)
    (request : ManagedSigningRequest Digest) (binding : CustodyBinding Digest)
    (evidence : SigningEvidence Digest) (dbNow nowAt : Timestamp) : Except Err (Database Digest) :=
  if request.operation.exit then .ok db
  else do
    refuse (request.context ≠ context ∨ binding.context ≠ context)
      (.state "risk reservation context differs from source scope")
    refuse (evidence.operator = none ∨ evidence.risk.context ≠ context
        ∨ evidence.risk.signingRequestId ≠ request.requestId
        ∨ request.manualRequestSha256 ≠ p.sha256 (.arm evidence.ownerArm.request)
        ∨ evidence.ownerArm.request.context ≠ context)
      (.state "risk reservation lacks the exact verified entry lineage")
    let message ← typedMessage p request binding
    let notional ← entryNotionalUsd p message
    refuse (evidence.risk.worstCaseLossUsd ≤ 0)
      (.state "risk reservation loss must be finite and positive")
    inspect p db context
    verifyLineage p db context request evidence maxSnapshotAge dbNow
    reserveRow p db (reservationRow p context request binding evidence notional)
      evidence.risk.leverage nowAt

end Reserve

end KairosExecution.Production
