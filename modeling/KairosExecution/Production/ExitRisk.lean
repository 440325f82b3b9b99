import KairosExecution.Production.DecimalCaps

/-! The staging of an exit: the loss that is bounded for one prepared effect, from the
verified prices of its evidence. The bound holds for every fill that is at least as good as
the adverse one, because a fee is less than the whole of a fill. It grows with the quantity
and the fee. A larger slippage makes it larger too, except where a long is sold above its
entry: there the loss of price is already none, and the fee falls with the fill. -/

namespace KairosExecution.Production

open Python

variable {Digest : Type}

section Records

/-- The roles of `_ROLE_CONFIG` -/
inductive ExitRole
  | STOP_LOSS | TAKE_PROFIT | TIMEOUT_EXIT | EMERGENCY_EXIT
  deriving DecidableEq

/-- `role in {"STOP_LOSS", "TAKE_PROFIT"}` -/
def ExitRole.protective : ExitRole → Bool
  | .STOP_LOSS | .TAKE_PROFIT => true
  | .TIMEOUT_EXIT | .EMERGENCY_EXIT => false

/-- `VerifiedLiveExitEvidenceV1` -/
structure VerifiedExitEvidence (Digest : Type) where
  sourceId : String
  contextSha256 : Digest
  tradeId : String
  originalDecisionId : String
  originalDecisionSha256 : Digest
  effectId : Digest
  effectRequestSha256 : Digest
  role : ExitRole
  exposure : ExposureSnapshot Digest
  positionEntryPriceUsd : ℚ
  referencePriceUsd : ℚ
  executableExitPriceUsd : ℚ
  exitFeeRate : ℚ
  adverseSlippageRate : ℚ
  observedAt : Timestamp
  validUntil : Timestamp
  entry_pos : 0 < positionEntryPriceUsd
  reference_pos : 0 < referencePriceUsd
  executable_pos : 0 < executableExitPriceUsd
  fee_nonneg : 0 ≤ exitFeeRate
  fee_lt : exitFeeRate < 1
  slippage_nonneg : 0 ≤ adverseSlippageRate
  slippage_lt : adverseSlippageRate < 1

/-- `RiskTradeDecisionV1`, its amounts those of floats. -/
structure ExitDecision where
  decisionId : String
  quantity : ℚ
  worstEntryPrice : ℚ
  stopPrice : ℚ
  targetPrice : ℚ

/-- `TradeRecord` -/
structure ExitTrade where
  tradeId : String
  venueSymbol : String
  side : Side
  quantity : ℚ
  filledQuantity : ℚ
  stopPrice : ℚ
  targetPrice : ℚ
  entryClientOrderId : String
  closeClientOrderId : Option String

/-- The payload of an effect, its hexadecimal floats read. -/
inductive ExitPayload
  | protective (parentOrderId : String) (side : Side) (tpslType : ExitRole) (quantity price : ℚ)
  | close (quantity leverage : ℚ)

/-- `ExecutionEffect` -/
structure ExitEffect (Digest : Type) where
  effectKey : Digest
  requestSha256 : Digest
  clientOrderId : Option String
  requestPayload : ExitPayload

/-- What the publisher takes from elsewhere: the digests of its records, and
`Decimal(str(value))` of a float. -/
structure ExitPrimitives (Digest : Type) extends Primitives Digest where
  decisionSha256 : ExitDecision → Digest
  shortest : ℚ → ℚ

/-- The publisher's arithmetic, exact. -/
def ExitPrimitives.exact (p : ExitPrimitives Digest) : ExitPrimitives Digest := { p with round := id }

@[simp] theorem ExitPrimitives.exact_round (p : ExitPrimitives Digest) (x : ℚ) : p.exact.round x = x := rfl

@[simp] theorem ExitPrimitives.exact_shortest (p : ExitPrimitives Digest) (x : ℚ) :
    p.exact.shortest x = p.shortest x := rfl

/-- The publisher, with the source of its verifier. -/
structure ExitPublisher (Digest : Type) where
  sourceId : String
  context : ProductionContext Digest

end Records

section Amounts

variable (p : ExitPrimitives Digest)

def toWireQuantity (value : ℚ) : Except Err ℤ := do
  refuse (value ≤ 0) (.exitRisk "position quantity is invalid")
  let scaled := p.round (p.shortest value * 10 ^ 8)
  refuse (scaled ≠ Rat.floor scaled) (.exitRisk "position quantity is not exact at EVEDEX precision")
  return Rat.floor scaled

def exactEvedexInteger (value : ℚ) (field : String) : Except Err ℤ := do
  let decimal := p.shortest value
  refuse (decimal ≤ 0) (.value (field ++ " must be finite and positive"))
  let scaled := p.round (decimal * 10 ^ 8)
  refuse (scaled ≠ Rat.floor scaled)
    (.value (field ++ " is not exactly representable at EVEDEX precision 1e8"))
  return Rat.floor scaled

/-- `float.fromhex(effect.request_payload["quantity_hex"])` -/
def ExitPayload.quantity : ExitPayload → ℚ
  | .protective _ _ _ quantity _ => quantity
  | .close quantity _ => quantity

/-- `float.fromhex(effect.request_payload["price_hex"])`, which a close has none of. -/
def ExitPayload.price : ExitPayload → Except Err ℚ
  | .protective _ _ _ _ price => .ok price
  | .close _ _ => .error (.type "price_hex")

/-- The price of the exit plan that a protection carries. -/
def plannedPrice (role : ExitRole) (stopPrice targetPrice : ℚ) : ℚ :=
  if role = .STOP_LOSS then stopPrice else targetPrice

/-- `_check_effect_geometry`, without the client ids of protections -/
def checkEffectGeometry (effect : ExitEffect Digest) (trade : ExitTrade) (decision : ExitDecision)
    (role : ExitRole) : Except Err Unit :=
  match effect.requestPayload with
  | .protective parentOrderId side tpslType quantity price =>
    refuse (!role.protective ∨ parentOrderId ≠ trade.entryClientOrderId ∨ side ≠ trade.side
        ∨ tpslType ≠ role ∨ quantity ≠ 0
        ∨ price ≠ plannedPrice role decision.stopPrice decision.targetPrice
        ∨ p.shortest (plannedPrice role decision.stopPrice decision.targetPrice)
          ≠ p.shortest (plannedPrice role trade.stopPrice trade.targetPrice))
      (.value "protective effect differs from original exit plan")
  | .close quantity leverage => do
    refuse role.protective (.value "close effect payload fields differ from the exact close contract")
    refuse (effect.clientOrderId ≠ trade.closeClientOrderId ∨ quantity ≤ 0
        ∨ quantity > trade.filledQuantity ∨ leverage ≠ 1)
      (.value "close effect differs from durable trade quantity/leverage")

/-- The amounts that `_load_exact_prepared` checks of a prepared effect. -/
def loadExactPrepared (effect : ExitEffect Digest) (trade : ExitTrade) (decision : ExitDecision)
    (role : ExitRole) : Except Err Unit :=
  instead (.exitRisk "durable PREPARED effect/trade lineage is invalid") do
    let filled ← toWireQuantity p trade.filledQuantity
    let approved ← toWireQuantity p decision.quantity
    let whole ← toWireQuantity p trade.quantity
    refuse (filled > approved ∨ whole ≠ approved)
      (.value "durable quantity differs from the decision")
    checkEffectGeometry p effect trade decision role

/-- `_MAX_AGE` -/
def maxExitAge : ℤ := seconds 5

def checkVerified (publisher : ExitPublisher Digest) (value : VerifiedExitEvidence Digest)
    [DecidableEq Digest] (effect : ExitEffect Digest) (trade : ExitTrade) (decision : ExitDecision)
    (role : ExitRole) (now : Timestamp) : Except Err Unit := do
  let filled ← toWireQuantity p trade.filledQuantity
  let approved ← toWireQuantity p decision.quantity
  refuse (value.sourceId ≠ publisher.sourceId
      ∨ value.contextSha256 ≠ p.sha256 (.context publisher.context)
      ∨ value.tradeId ≠ trade.tradeId ∨ value.originalDecisionId ≠ decision.decisionId
      ∨ value.originalDecisionSha256 ≠ p.decisionSha256 decision
      ∨ value.effectId ≠ effect.effectKey ∨ value.effectRequestSha256 ≠ effect.requestSha256
      ∨ value.role ≠ role ∨ value.exposure.context ≠ publisher.context
      ∨ value.exposure.instrument ≠ trade.venueSymbol ∨ value.exposure.positionSide ≠ trade.side
      ∨ value.exposure.parentOrderId ≠ trade.entryClientOrderId
      ∨ (value.exposure.remainingQuantity : ℤ) > filled
      ∨ (value.exposure.remainingQuantity : ℤ) > approved
      ∨ value.observedAt > now ∨ now - value.observedAt > maxExitAge ∨ value.validUntil ≤ now
      ∨ value.validUntil - value.observedAt > maxExitAge ∨ value.exposure.observedAt > now
      ∨ now - value.exposure.observedAt > maxExitAge ∨ value.exposure.validUntil ≤ now
      ∨ value.exposure.validUntil - value.exposure.observedAt > maxExitAge)
    (.exitRisk "verified exit evidence is stale or not bound to exact effect/exposure")
  if role.protective then return ()
  else do
    let quantity ← toWireQuantity p effect.requestPayload.quantity
    refuse (quantity > value.exposure.remainingQuantity)
      (.exitRisk "prepared exit would close more than current exposure")

/-- The quantity that the loss is bounded for: of a protection the approved one, so that later
fills stay within it, and of a close its own. -/
def quantityUnits (effect : ExitEffect Digest) (decision : ExitDecision) (role : ExitRole) :
    Except Err ℤ :=
  if role.protective then toWireQuantity p decision.quantity
  else toWireQuantity p effect.requestPayload.quantity

/-- The entry price that is used: the worse of the position's and the approved one. -/
def entryUsed (evidence : VerifiedExitEvidence Digest) (decision : ExitDecision) : ℚ :=
  match evidence.exposure.positionSide with
  | .BUY => max evidence.positionEntryPriceUsd (p.shortest decision.worstEntryPrice)
  | .SELL => min evidence.positionEntryPriceUsd (p.shortest decision.worstEntryPrice)

/-- The price before slippage: of a stop the worse of its trigger and the executable quote. -/
def baseExit (evidence : VerifiedExitEvidence Digest) (effect : ExitEffect Digest) (role : ExitRole) :
    Except Err ℚ :=
  if role = .STOP_LOSS then do
    let price ← effect.requestPayload.price
    return match evidence.exposure.positionSide with
      | .BUY => min (p.shortest price) evidence.executableExitPriceUsd
      | .SELL => max (p.shortest price) evidence.executableExitPriceUsd
  else return evidence.executableExitPriceUsd

/-- The price after slippage. -/
def adverseFill (side : Side) (base slippageRate : ℚ) : ℚ :=
  let slippage := p.round (base * slippageRate)
  match side with
  | .BUY => p.round (base - slippage)
  | .SELL => p.round (base + slippage)

def worstCaseLoss (evidence : VerifiedExitEvidence Digest) (effect : ExitEffect Digest)
    (decision : ExitDecision) (role : ExitRole) : Except Err ℚ := do
  let units ← quantityUnits p effect decision role
  let quantity := p.round (units / 10 ^ 8)
  let entry := entryUsed p evidence decision
  refuse (match evidence.exposure.positionSide with
      | .BUY => evidence.executableExitPriceUsd > evidence.referencePriceUsd
      | .SELL => evidence.executableExitPriceUsd < evidence.referencePriceUsd)
    (.value "executable exit bound is not conservative to the reference")
  let base ← baseExit p evidence effect role
  let fill := adverseFill p evidence.exposure.positionSide base evidence.adverseSlippageRate
  let priceLossPerUnit := match evidence.exposure.positionSide with
    | .BUY => max (p.round (entry - fill)) 0
    | .SELL => max (p.round (fill - entry)) 0
  let feesPerUnit := p.round (fill * evidence.exitFeeRate)
  return p.round (quantity * p.round (priceLossPerUnit + feesPerUnit))

/-- The amounts of the message that `build_production_lifecycle_binding` makes for the exit. -/
def bindingAmounts (effect : ExitEffect Digest) (decision : ExitDecision) (role : ExitRole) :
    Except Err Unit := do
  let _ ← exactEvedexInteger p decision.quantity "decision quantity"
  if role.protective then do
    let _ ← exactEvedexInteger p (plannedPrice role decision.stopPrice decision.targetPrice)
      "protective trigger price"
    return ()
  else do
    let _ ← exactEvedexInteger p effect.requestPayload.quantity "close quantity"
    return ()

/-- `stage_prepared_exit` of a prepared effect that is loaded with its trade, decision and
role, and of the evidence that its verifier has returned: the loss of the risk row. -/
def stagePreparedExit [DecidableEq Digest] (publisher : ExitPublisher Digest)
    (verified : VerifiedExitEvidence Digest) (effect : ExitEffect Digest) (trade : ExitTrade)
    (decision : ExitDecision) (role : ExitRole) (expiresAt now : Timestamp) : Except Err ℚ := do
  refuse (¬(now < expiresAt ∧ expiresAt ≤ now + maxExitAge))
    (.exitRisk "exit request lease must be positive and at most five seconds")
  loadExactPrepared p effect trade decision role
  checkVerified p publisher verified effect trade decision role now
  let lease := min (min expiresAt (now + maxExitAge)) (min verified.validUntil verified.exposure.validUntil)
  refuse (lease ≤ now) (.exitRisk "exit risk/exposure lease expired before staging")
  let riskLoss ← instead (.exitRisk "qualified source facts cannot bound this exit loss")
    (worstCaseLoss p verified effect decision role)
  refuse (riskLoss ≤ 0)
    (.exitRisk "qualified source facts produce no positive conservative exit cost/loss")
  instead (.exitRisk "exact per-effect exit request geometry could not be bound")
    (bindingAmounts p effect decision role)
  return riskLoss

end Amounts

section Bound

/-- The loss of price of a unit: of a long how far it is sold below the entry, of a short how
far it is bought above. -/
def priceLoss (side : Side) (entry fill : ℚ) : ℚ :=
  match side with
  | .BUY => entry - fill
  | .SELL => fill - entry

/-- What a position loses that is closed by a fill, with the fee. -/
def realizedLoss (side : Side) (quantity entry fill feeRate : ℚ) : ℚ :=
  quantity * (priceLoss side entry fill + fill * feeRate)

/-- The same, where a gain of price does not count. -/
def exitBound (side : Side) (quantity entry fill feeRate : ℚ) : ℚ :=
  quantity * (max (priceLoss side entry fill) 0 + fill * feeRate)

/-- An entry price at least as good: of a long at or below the other, of a short at or above. -/
def EntryAsGood (side : Side) (entry actual : ℚ) : Prop :=
  match side with
  | .BUY => actual ≤ entry
  | .SELL => entry ≤ actual

/-- A fill of the exit at least as good: of a long at or above the other, of a short at or below. -/
def FillAsGood (side : Side) (fill actual : ℚ) : Prop :=
  match side with
  | .BUY => fill ≤ actual
  | .SELL => actual ≤ fill

variable {side : Side} {quantity quantity' entry entry' fill fill' feeRate feeRate' : ℚ}

/-- A better entry and a better fill lose less by the unit: of a better fill of a long the fee
takes less than the price gives. -/
theorem unitLoss_le (nonneg : 0 ≤ feeRate) (fraction : feeRate ≤ 1)
    (entered : EntryAsGood side entry entry') (filled : FillAsGood side fill fill') :
    priceLoss side entry' fill' + fill' * feeRate ≤ priceLoss side entry fill + fill * feeRate := by
  cases side with
  | BUY =>
    simp only [EntryAsGood, FillAsGood, priceLoss] at entered filled ⊢
    have kept := mul_le_mul_of_nonneg_right filled (sub_nonneg.2 fraction)
    linarith
  | SELL =>
    simp only [EntryAsGood, FillAsGood, priceLoss] at entered filled ⊢
    have fee := mul_le_mul_of_nonneg_right filled nonneg
    linarith

/-- Less of a position, better entered and better closed, loses at most the bound. -/
theorem realizedLoss_le (nonneg : 0 ≤ feeRate) (fraction : feeRate ≤ 1) (positive : 0 ≤ fill)
    (some : 0 ≤ quantity') (within : quantity' ≤ quantity) (entered : EntryAsGood side entry entry')
    (filled : FillAsGood side fill fill') :
    realizedLoss side quantity' entry' fill' feeRate ≤ exitBound side quantity entry fill feeRate := by
  have unit : priceLoss side entry' fill' + fill' * feeRate ≤
      max (priceLoss side entry fill) 0 + fill * feeRate := by
    have better := unitLoss_le nonneg fraction entered filled
    linarith [le_max_left (priceLoss side entry fill) 0]
  have bound : 0 ≤ max (priceLoss side entry fill) 0 + fill * feeRate :=
    add_nonneg (le_max_right _ _) (mul_nonneg positive nonneg)
  exact (mul_le_mul_of_nonneg_left unit some).trans (mul_le_mul_of_nonneg_right within bound)

/-- The bound grows with the quantity and the fee. -/
theorem exitBound_mono (nonneg : 0 ≤ feeRate) (positive : 0 ≤ fill) (some : 0 ≤ quantity)
    (more : quantity ≤ quantity') (fee : feeRate ≤ feeRate') :
    exitBound side quantity entry fill feeRate ≤ exitBound side quantity' entry fill feeRate' := by
  have unit := mul_le_mul_of_nonneg_left fee positive
  have bound : 0 ≤ max (priceLoss side entry fill) 0 + fill * feeRate :=
    add_nonneg (le_max_right _ _) (mul_nonneg positive nonneg)
  unfold exitBound
  calc quantity * (max (priceLoss side entry fill) 0 + fill * feeRate)
      ≤ quantity' * (max (priceLoss side entry fill) 0 + fill * feeRate) :=
        mul_le_mul_of_nonneg_right more bound
    _ ≤ quantity' * (max (priceLoss side entry fill) 0 + fill * feeRate') :=
        mul_le_mul_of_nonneg_left (by linarith) (some.trans more)

/-- A worse fill of a short makes the bound larger. One of a long does so just while the fee
that it saves is no more than the price that it loses against the entry. -/
theorem exitBound_fill (nonneg : 0 ≤ feeRate) (fraction : feeRate ≤ 1) (some : 0 < quantity)
    (worse : FillAsGood side fill' fill) :
    exitBound side quantity entry fill feeRate ≤ exitBound side quantity entry fill' feeRate ↔
      side = .SELL ∨ (fill - fill') * feeRate ≤ max (entry - fill') 0 := by
  unfold exitBound
  rw [mul_le_mul_iff_right₀ some]
  cases side with
  | SELL =>
    simp only [FillAsGood, priceLoss] at worse ⊢
    refine iff_of_true ?_ (.inl trivial)
    have fee := mul_le_mul_of_nonneg_right worse nonneg
    have price := max_le_max_right 0 (sub_le_sub_right worse entry)
    linarith
  | BUY =>
    simp only [FillAsGood, priceLoss, reduceCtorEq, false_or] at worse ⊢
    have saved : fill * feeRate - fill' * feeRate = (fill - fill') * feeRate := by ring
    rcases le_total fill entry with below | above
    · -- at or below the entry the price loses more than the fee saves
      have fee := mul_le_of_le_one_right (sub_nonneg.2 worse) fraction
      rw [max_eq_left (sub_nonneg.2 below), max_eq_left (by linarith)]
      constructor <;> intro <;> linarith
    · rw [max_eq_right (sub_nonpos.2 above)]
      constructor <;> intro <;> linarith

end Bound

section Staged

variable {p : ExitPrimitives Digest} {verified : VerifiedExitEvidence Digest} {effect : ExitEffect Digest}
  {trade : ExitTrade} {decision : ExitDecision} {role : ExitRole} {loss : ℚ}

theorem toWireQuantity_exact {value : ℚ} {units : ℤ} (ok : toWireQuantity p.exact value = .ok units) :
    (units : ℚ) = p.shortest value * 10 ^ 8 := by
  unfold toWireQuantity at ok
  obtain ⟨_, -, ok⟩ := bind_eq_ok.1 ok
  obtain ⟨_, whole, ok⟩ := bind_eq_ok.1 ok
  rw [refuse_eq_ok, decide_eq_false_iff_not, not_not] at whole
  cases ok
  exact whole.symm

theorem exactEvedexInteger_pos {value : ℚ} {field : String} {n : ℤ}
    (ok : exactEvedexInteger p value field = .ok n) : 0 < p.shortest value := by
  unfold exactEvedexInteger at ok
  obtain ⟨_, positive, -⟩ := bind_eq_ok.1 ok
  rw [refuse_eq_ok, decide_eq_false_iff_not, not_le] at positive
  exact positive

/-- The loss is the bound of the quantity, the entry and the adverse fill that are used. -/
theorem worstCaseLoss_exact (ok : worstCaseLoss p.exact verified effect decision role = .ok loss) :
    ∃ units base, quantityUnits p.exact effect decision role = .ok units ∧
      baseExit p.exact verified effect role = .ok base ∧
      loss = exitBound verified.exposure.positionSide (units / 10 ^ 8) (entryUsed p.exact verified decision)
        (adverseFill p.exact verified.exposure.positionSide base verified.adverseSlippageRate)
        verified.exitFeeRate := by
  unfold worstCaseLoss at ok
  obtain ⟨units, counted, ok⟩ := bind_eq_ok.1 ok
  obtain ⟨_, -, ok⟩ := bind_eq_ok.1 ok
  obtain ⟨base, based, ok⟩ := bind_eq_ok.1 ok
  cases ok
  refine ⟨units, base, counted, based, ?_⟩
  cases side : verified.exposure.positionSide with
  | BUY => simp [exitBound, priceLoss]
  | SELL => simp [exitBound, priceLoss]

/-- What a staging has found: the bounded loss, and amounts that its message can carry. -/
theorem stagePreparedExit_ok [DecidableEq Digest] {publisher : ExitPublisher Digest} {expiresAt now : Timestamp}
    (ok : stagePreparedExit p publisher verified effect trade decision role expiresAt now = .ok loss) :
    checkEffectGeometry p effect trade decision role = .ok () ∧
      worstCaseLoss p verified effect decision role = .ok loss ∧
      bindingAmounts p effect decision role = .ok () := by
  unfold stagePreparedExit at ok
  obtain ⟨_, -, ok⟩ := bind_eq_ok.1 ok
  obtain ⟨_, loaded, ok⟩ := bind_eq_ok.1 ok
  obtain ⟨_, -, ok⟩ := bind_eq_ok.1 ok
  obtain ⟨_, -, ok⟩ := bind_eq_ok.1 ok
  obtain ⟨riskLoss, computed, ok⟩ := bind_eq_ok.1 ok
  obtain ⟨_, -, ok⟩ := bind_eq_ok.1 ok
  obtain ⟨_, bound, ok⟩ := bind_eq_ok.1 ok
  cases ok
  unfold loadExactPrepared at loaded
  obtain ⟨_, -, loaded⟩ := bind_eq_ok.1 (instead_eq_ok.1 loaded)
  obtain ⟨_, -, loaded⟩ := bind_eq_ok.1 loaded
  obtain ⟨_, -, loaded⟩ := bind_eq_ok.1 loaded
  obtain ⟨_, -, loaded⟩ := bind_eq_ok.1 loaded
  exact ⟨loaded, instead_eq_ok.1 computed, instead_eq_ok.1 bound⟩

/-- The quantity that the loss is bounded for is positive: the message could not carry it else. -/
theorem quantityUnits_pos {units : ℤ} (bound : bindingAmounts p.exact effect decision role = .ok ())
    (counted : quantityUnits p.exact effect decision role = .ok units) : (0 : ℚ) < units / 10 ^ 8 := by
  unfold bindingAmounts at bound
  obtain ⟨n, approved, bound⟩ := bind_eq_ok.1 bound
  unfold quantityUnits at counted
  by_cases protective : role.protective = true
  · rw [if_pos protective] at counted
    rw [toWireQuantity_exact counted]
    have positive := exactEvedexInteger_pos approved
    rw [ExitPrimitives.exact_shortest] at positive
    positivity
  · rw [if_neg protective] at counted bound
    obtain ⟨n, close, -⟩ := bind_eq_ok.1 bound
    rw [toWireQuantity_exact counted]
    have positive := exactEvedexInteger_pos close
    rw [ExitPrimitives.exact_shortest] at positive
    positivity

/-- The price before slippage is positive: that of a stop is its trigger, which the message
carries, or the executable quote. -/
theorem baseExit_pos {base : ℚ} (geometry : checkEffectGeometry p effect trade decision role = .ok ())
    (bound : bindingAmounts p effect decision role = .ok ())
    (based : baseExit p verified effect role = .ok base) : 0 < base := by
  unfold baseExit at based
  by_cases stop : role = .STOP_LOSS
  · subst stop
    rw [if_pos rfl] at based
    obtain ⟨price, planned, based⟩ := bind_eq_ok.1 based
    have trigger : 0 < p.shortest price := by
      unfold checkEffectGeometry at geometry
      unfold bindingAmounts at bound
      obtain ⟨_, -, bound⟩ := bind_eq_ok.1 bound
      obtain ⟨_, carried, -⟩ := bind_eq_ok.1 bound
      cases payload : effect.requestPayload with
      | protective parentOrderId side tpslType quantity price' =>
        rw [payload] at geometry planned
        cases planned
        rw [refuse_eq_ok, decide_eq_false_iff_not] at geometry
        push Not at geometry
        rw [geometry.2.2.2.2.2.1]
        exact exactEvedexInteger_pos carried
      | close quantity leverage =>
        rw [payload] at planned
        cases planned
    cases based
    cases verified.exposure.positionSide with
    | BUY => exact lt_min trigger verified.executable_pos
    | SELL => exact lt_max_of_lt_left trigger
  · rw [if_neg stop] at based
    cases based
    exact verified.executable_pos

theorem adverseFill_nonneg {side : Side} {base slippageRate : ℚ} (positive : 0 < base)
    (nonneg : 0 ≤ slippageRate) (lt : slippageRate < 1) :
    0 ≤ adverseFill p.exact side base slippageRate := by
  have slippage := mul_nonneg positive.le nonneg
  have part := mul_le_of_le_one_right positive.le lt.le
  cases side with
  | BUY =>
    simp only [adverseFill, ExitPrimitives.exact_round]
    linarith
  | SELL =>
    simp only [adverseFill, ExitPrimitives.exact_round]
    linarith

/-- A larger slippage makes the fill worse. -/
theorem adverseFill_worse {side : Side} {base slippageRate slippageRate' : ℚ} (positive : 0 < base)
    (more : slippageRate ≤ slippageRate') :
    FillAsGood side (adverseFill p.exact side base slippageRate')
      (adverseFill p.exact side base slippageRate) := by
  have slippage := mul_le_mul_of_nonneg_left more positive.le
  cases side with
  | BUY =>
    simp only [FillAsGood, adverseFill, ExitPrimitives.exact_round]
    linarith
  | SELL =>
    simp only [FillAsGood, adverseFill, ExitPrimitives.exact_round]
    linarith

end Staged

section Stagings

variable [DecidableEq Digest]

/-- A staging of an exit: what it reads, and the loss that it stages. -/
structure Staging (p : ExitPrimitives Digest) where
  publisher : ExitPublisher Digest
  verified : VerifiedExitEvidence Digest
  effect : ExitEffect Digest
  trade : ExitTrade
  decision : ExitDecision
  role : ExitRole
  expiresAt : Timestamp
  now : Timestamp
  loss : ℚ
  units : ℤ
  base : ℚ
  staged : stagePreparedExit p publisher verified effect trade decision role expiresAt now = .ok loss
  counted : quantityUnits p effect decision role = .ok units
  based : baseExit p verified effect role = .ok base

namespace Staging

variable {p : ExitPrimitives Digest} (s : Staging p)

/-- The side of the position. -/
def side : Side := s.verified.exposure.positionSide

/-- The quantity that is staged. -/
def quantity : ℚ := s.units / 10 ^ 8

/-- The entry price that is used. -/
def entry : ℚ := entryUsed p s.verified s.decision

/-- The adverse fill. -/
def fill : ℚ := adverseFill p s.side s.base s.verified.adverseSlippageRate

end Staging

/-- Every staging has its quantity and its price before slippage. -/
theorem exists_staging {p : ExitPrimitives Digest} {publisher : ExitPublisher Digest}
    {verified : VerifiedExitEvidence Digest} {effect : ExitEffect Digest} {trade : ExitTrade}
    {decision : ExitDecision} {role : ExitRole} {expiresAt now : Timestamp} {loss : ℚ}
    (ok : stagePreparedExit p.exact publisher verified effect trade decision role expiresAt now = .ok loss) :
    ∃ s : Staging p.exact, s.verified = verified ∧ s.effect = effect ∧ s.decision = decision ∧
      s.role = role ∧ s.loss = loss := by
  obtain ⟨units, base, counted, based, -⟩ := worstCaseLoss_exact (stagePreparedExit_ok ok).2.1
  exact ⟨⟨publisher, verified, effect, trade, decision, role, expiresAt, now, loss, units, base, ok,
    counted, based⟩, rfl, rfl, rfl, rfl, rfl⟩

variable {p : ExitPrimitives Digest} (s : Staging p.exact)

theorem Staging.loss_eq :
    s.loss = exitBound s.side s.quantity s.entry s.fill s.verified.exitFeeRate := by
  obtain ⟨units, base, counted, based, computed⟩ := worstCaseLoss_exact (stagePreparedExit_ok s.staged).2.1
  cases s.counted.symm.trans counted
  cases s.based.symm.trans based
  exact computed

theorem Staging.quantity_pos : 0 < s.quantity :=
  quantityUnits_pos (stagePreparedExit_ok s.staged).2.2 s.counted

theorem Staging.base_pos : 0 < s.base :=
  baseExit_pos (stagePreparedExit_ok s.staged).1 (stagePreparedExit_ok s.staged).2.2 s.based

theorem Staging.fill_nonneg : 0 ≤ s.fill :=
  adverseFill_nonneg s.base_pos s.verified.slippage_nonneg s.verified.slippage_lt

/-- The staged loss bounds every loss of up to the staged quantity that was entered and is
closed at least as well as assumed. Between stagings of one side, entry and price it grows
with the quantity and the fee; with the slippage it grows too, of a long just while the fee
that the lower fill saves is no more than the price that it loses against the entry. -/
theorem stagedLoss_bounds :
    (∀ quantity entry fill, 0 ≤ quantity → quantity ≤ s.quantity → EntryAsGood s.side s.entry entry →
      FillAsGood s.side s.fill fill →
      realizedLoss s.side quantity entry fill s.verified.exitFeeRate ≤ s.loss) ∧
    ∀ t : Staging p.exact, t.side = s.side → t.entry = s.entry → t.base = s.base →
      (s.quantity ≤ t.quantity → s.verified.exitFeeRate ≤ t.verified.exitFeeRate →
        t.verified.adverseSlippageRate = s.verified.adverseSlippageRate → s.loss ≤ t.loss) ∧
      (t.quantity = s.quantity → t.verified.exitFeeRate = s.verified.exitFeeRate →
        s.verified.adverseSlippageRate ≤ t.verified.adverseSlippageRate →
        (s.loss ≤ t.loss ↔ s.side = .SELL ∨
          (s.fill - t.fill) * s.verified.exitFeeRate ≤ max (s.entry - t.fill) 0)) := by
  have nonneg := s.verified.fee_nonneg
  have fraction := s.verified.fee_lt.le
  constructor
  · intro quantity entry fill some within entered filled
    rw [s.loss_eq]
    exact realizedLoss_le nonneg fraction s.fill_nonneg some within entered filled
  · intro t side entry base
    rw [s.loss_eq, t.loss_eq, side, entry]
    constructor
    · intro more fee slippage
      have same : t.fill = s.fill := by
        unfold Staging.fill
        rw [side, base, slippage]
      rw [same]
      exact exitBound_mono nonneg s.fill_nonneg s.quantity_pos.le more fee
    · intro same fee slippage
      rw [same, fee]
      refine exitBound_fill nonneg fraction s.quantity_pos ?_
      have worse := @adverseFill_worse _ p s.side s.base _ _ s.base_pos slippage
      unfold Staging.fill
      rw [side, base]
      exact worse

end Stagings

section Samples

def sampleExitPrimitives : ExitPrimitives ℕ where
  toPrimitives := samplePrimitives
  decisionSha256 _ := 31
  shortest := id

theorem sampleEntryPrice_pos : (0 : ℚ) < 100 := by norm_num

/-- A long of eight units, entered at a hundred dollars, that can be sold at two hundred. -/
def sampleExitEvidence (slippageRate : ℚ) (nonneg : 0 ≤ slippageRate) (lt : slippageRate < 1) :
    VerifiedExitEvidence ℕ where
  sourceId := "source"
  contextSha256 := 11
  tradeId := "trade"
  originalDecisionId := "decision"
  originalDecisionSha256 := 31
  effectId := 20
  effectRequestSha256 := 21
  role := .TIMEOUT_EXIT
  exposure := sampleExposure (seconds 10)
  positionEntryPriceUsd := 100
  referencePriceUsd := 200
  executableExitPriceUsd := 200
  exitFeeRate := 1 / 10
  adverseSlippageRate := slippageRate
  observedAt := seconds 10
  validUntil := seconds 12
  entry_pos := sampleEntryPrice_pos
  reference_pos := by norm_num
  executable_pos := by norm_num
  fee_nonneg := by norm_num
  fee_lt := by norm_num
  slippage_nonneg := nonneg
  slippage_lt := lt

def sampleExitDecision : ExitDecision := ⟨"decision", 8 / 10 ^ 8, 100, 90, 200⟩

def sampleExitTrade : ExitTrade :=
  ⟨"trade", "BTC", .BUY, 8 / 10 ^ 8, 8 / 10 ^ 8, 90, 200, "parent", some "close"⟩

def sampleExitEffect : ExitEffect ℕ := ⟨20, 21, some "close", .close (8 / 10 ^ 8) 1⟩

/-- The staging of its close, at a fee of a tenth. -/
def sampleStaging (slippageRate : ℚ) (nonneg : 0 ≤ slippageRate) (lt : slippageRate < 1) (loss : ℚ)
    (staged : stagePreparedExit sampleExitPrimitives.exact ⟨"source", sampleContext⟩
      (sampleExitEvidence slippageRate nonneg lt) sampleExitEffect sampleExitTrade sampleExitDecision
      .TIMEOUT_EXIT (seconds 11) (seconds 10) = .ok loss) : Staging sampleExitPrimitives.exact where
  publisher := ⟨"source", sampleContext⟩
  verified := sampleExitEvidence slippageRate nonneg lt
  effect := sampleExitEffect
  trade := sampleExitTrade
  decision := sampleExitDecision
  role := .TIMEOUT_EXIT
  expiresAt := seconds 11
  now := seconds 10
  loss := loss
  units := 8
  base := 200
  staged := staged
  counted := by decide +kernel
  based := rfl

/-- The stagings of the close of this long, without slippage and at a tenth of it: what a close in
full at the adverse fill loses is bounded, and the second bound is the lower one. -/
theorem stagedLoss_bounds_sample :
    let s := sampleStaging 0 (by norm_num) (by norm_num) (16 / 10 ^ 7) (by decide +kernel)
    let t := sampleStaging (1 / 10) (by norm_num) (by norm_num) (144 / 10 ^ 8) (by decide +kernel)
    realizedLoss s.side s.quantity s.entry s.fill s.verified.exitFeeRate ≤ s.loss ∧
      ¬(s.side = .SELL ∨ (s.fill - t.fill) * s.verified.exitFeeRate ≤ max (s.entry - t.fill) 0) := by
  intro s t
  have bounds := stagedLoss_bounds s
  constructor
  · exact bounds.1 s.quantity s.entry s.fill s.quantity_pos.le (le_refl _)
      (show s.entry ≤ s.entry from le_refl _) (show s.fill ≤ s.fill from le_refl _)
  · rw [← (bounds.2 t rfl rfl rfl).2 rfl rfl (by norm_num [s, t, sampleStaging, sampleExitEvidence])]
    norm_num [s, t, sampleStaging]

/-- The long gains even at a slippage of a tenth. Its bound is the fee alone, which is smaller
at the lower fill. -/
theorem slippage_lowers_bound :
    ¬∀ s t : Staging sampleExitPrimitives.exact, t.side = s.side → t.entry = s.entry → t.base = s.base →
      t.quantity = s.quantity → t.verified.exitFeeRate = s.verified.exitFeeRate →
      s.verified.adverseSlippageRate ≤ t.verified.adverseSlippageRate → s.loss ≤ t.loss := by
  intro grows
  have le := grows
    (sampleStaging 0 (by norm_num) (by norm_num) (16 / 10 ^ 7) (by decide +kernel))
    (sampleStaging (1 / 10) (by norm_num) (by norm_num) (144 / 10 ^ 8) (by decide +kernel))
    rfl rfl rfl rfl rfl (by norm_num [sampleStaging, sampleExitEvidence])
  norm_num [sampleStaging] at le

end Samples

end KairosExecution.Production
