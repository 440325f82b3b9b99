import KairosExecution.Production.Authorization

/-! What an authorized request stands on. The scope, the arm and its nonce agree and the
evidence is recent; an entry has the operator's current arm and is within the limits; an
exit leaves the position that it acts on no larger and on no other side. -/

namespace KairosExecution.Production

open Python

variable {Digest : Type} [DecidableEq Digest]

section Statement

/-- The scope of the request, its owner's arm and the accepted nonce agree. -/
structure Agreed (p : Primitives Digest) (v : Verifier Digest) (request : ManagedSigningRequest Digest)
    (binding : CustodyBinding Digest) (evidence : SigningEvidence Digest) : Prop where
  context : request.context = binding.context ∧ request.context = v.preconditions.context ∧
    evidence.ownerArm.request.context = request.context ∧ evidence.risk.context = request.context
  custody : request.custodyReceiptSha256 = binding.custodyReceiptSha256
  arm : request.manualRequestSha256 = p.sha256 (.arm evidence.ownerArm.request)
  nonce : evidence.ownerNonceClaim.requestSha256 = p.sha256 (.arm evidence.ownerArm.request) ∧
    evidence.ownerNonceClaim.nonce = evidence.ownerArm.request.nonce ∧
    evidence.ownerNonceClaim.ownerIdentity = evidence.ownerArm.request.ownerIdentity ∧
    evidence.ownerNonceClaim.contextSha256 = p.sha256 (.context request.context)

/-- A time that has come, no longer ago than an age. -/
def Recent (now : Timestamp) (age : ℤ) (value : Timestamp) : Prop := value ≤ now ∧ now - value ≤ age

/-- The operator is armed for the accepted request, and the leases outlast the signing. -/
structure EntryAuthorized (p : Primitives Digest) (v : Verifier Digest)
    (request : ManagedSigningRequest Digest) (evidence : SigningEvidence Digest)
    (operator : LiveOperatorState Digest) (message : Record) (now : Timestamp) : Prop where
  current : evidence.operator = some operator
  recent : Recent now v.maxAge operator.observedAt
  armed : operator.state = .ARMED ∧ ∃ expiresAt, operator.expiresAt = some expiresAt ∧ now < expiresAt ∧
    request.expiresAt ≤ expiresAt
  bound : operator.armNonce = some evidence.ownerArm.request.nonce ∧
    operator.armRequestSha256 = some (p.sha256 (.arm evidence.ownerArm.request))
  lease : request.expiresAt ≤ evidence.risk.validUntil
  loss : evidence.risk.worstCaseLossUsd ≤ evidence.ownerArm.request.dollarCap
  daily : p.round (evidence.risk.dailyRealizedLossUsd + evidence.risk.worstCaseLossUsd) ≤
    evidence.ownerArm.request.dailyStopLossUsd
  trade : evidence.risk.worstCaseLossUsd ≤ p.round (evidence.risk.accountEquityUsd * (25 / 10_000))
  aggregate : p.round (evidence.risk.aggregateOpenRiskUsd + evidence.risk.worstCaseLossUsd) ≤
    p.round (evidence.risk.accountEquityUsd * (1 / 100))
  notional : ∃ notional, orderNotional p message = .ok notional ∧
    p.round (evidence.risk.aggregateOpenNotionalUsd + notional) ≤ evidence.ownerArm.request.dollarCap

/-- The sign of a position on a side. -/
def Side.sign : Side → ℤ
  | .BUY => 1
  | .SELL => -1

/-- The position of a snapshot, counted up for BUY and down for SELL. -/
def ExposureSnapshot.position (exposure : ExposureSnapshot Digest) : ℤ :=
  exposure.positionSide.sign * exposure.remainingQuantity

/-- What a fill of an exit makes of a position. A direct close trades on the side of its
risk decision; a protection closes the side that its message names, and one of quantity
zero whatever is held. -/
inductive Executes (message : Record) (risk : RiskGeometry Digest) (position : ℤ) :
    SigningOperation → ℤ → Prop
  | close (side : Side) (quantity filled : ℤ) (direction : risk.side = some side)
      (asked : message.get "quantity" = .int quantity) (nonneg : 0 ≤ filled) (within : filled ≤ quantity) :
      Executes message risk position .positionCloseOrder (position + side.sign * filled)
  | protect (side : Side) (quantity filled : ℤ) (direction : message.get "side" = .str side.text)
      (asked : message.get "quantity" = .int quantity) (nonneg : 0 ≤ filled)
      (within : filled ≤ if quantity = 0 then |position| else quantity) :
      Executes message risk position .newTakeProfitStopLoss (position - side.sign * filled)

/-- The position on a side has neither grown nor changed over. -/
def Reduced (side : Side) (position position' : ℤ) : Prop :=
  0 ≤ side.sign * position' ∧ side.sign * position' ≤ side.sign * position

/-- The exposure is current, the leases outlast the signing, and the order reduces or
protects the side that is held. -/
structure ExitAuthorized (request : ManagedSigningRequest Digest) (evidence : SigningEvidence Digest)
    (exposure : ExposureSnapshot Digest) (message : Record) (now : Timestamp) : Prop where
  current : evidence.exposure = some exposure ∧ exposure.context = request.context ∧
    now < exposure.validUntil
  recent : Recent now (seconds 5) exposure.observedAt
  lease : request.expiresAt ≤ evidence.risk.validUntil ∧ request.expiresAt ≤ exposure.validUntil
  instrument : message.get "instrument" = .str exposure.instrument
  parent : evidence.risk.parentOrderId = some exposure.parentOrderId
  close : request.operation = .positionCloseOrder →
    evidence.risk.side = some exposure.positionSide.opposite ∧
      ∃ quantity, message.get "quantity" = .int quantity ∧ 0 < quantity ∧
        quantity ≤ exposure.remainingQuantity
  protection : request.operation = .newTakeProfitStopLoss →
    message.get "side" = .str exposure.positionSide.text ∧
      message.get "order" = .str exposure.parentOrderId ∧
      (∃ type, message.get "type" = .str type ∧ evidence.risk.protectionType = some type) ∧
      (∃ price : ℕ, message.get "price" = .int price ∧ evidence.risk.triggerPrice = some price) ∧
      ∃ quantity, message.get "quantity" = .int quantity ∧ 0 ≤ quantity ∧
        quantity ≤ exposure.remainingQuantity
  reduces : ∀ position', Executes message evidence.risk exposure.position request.operation position' →
    Reduced exposure.positionSide exposure.position position'

end Statement

section Parts

variable {p : Primitives Digest} {v : Verifier Digest} {request : ManagedSigningRequest Digest}
  {binding : CustodyBinding Digest} {evidence : SigningEvidence Digest} {now : Timestamp}
  {message : Record}

theorem verifyOwnerSignedArm_ok {signed : SignedManualArmRequest Digest}
    {result : ManualArmRequest Digest × Digest} (h : verifyOwnerSignedArm p v signed now = .ok result) :
    result = (signed.request, p.sha256 (.arm signed.request)) ∧
      signed.request.context = v.preconditions.context := by
  obtain ⟨_, _, h⟩ := bind_eq_ok.1 h
  obtain ⟨request, validated, h⟩ := bind_eq_ok.1 h
  obtain ⟨_, _, h⟩ := bind_eq_ok.1 h
  obtain ⟨_, _, h⟩ := bind_eq_ok.1 h
  cases h
  obtain ⟨_, _, validated⟩ := bind_eq_ok.1 validated
  obtain ⟨_, scope, validated⟩ := bind_eq_ok.1 validated
  obtain ⟨_, _, validated⟩ := bind_eq_ok.1 validated
  obtain ⟨_, _, validated⟩ := bind_eq_ok.1 validated
  obtain ⟨_, _, validated⟩ := bind_eq_ok.1 validated
  cases validated
  simp only [refuse_eq_ok, decide_eq_false_iff_not, not_or, not_not] at scope
  exact ⟨rfl, scope.1⟩

/-- An authorized operator latch. -/
theorem verifyOperator_ok {operator : LiveOperatorState Digest} {arm : ManualArmRequest Digest}
    {context : ProductionContext Digest} {requestExpiresAt : Timestamp}
    (h : verifyOperator p operator arm context requestExpiresAt now = .ok ()) :
    (operator.state = .ARMED ∧ ∃ expiresAt, operator.expiresAt = some expiresAt ∧ now < expiresAt ∧
      requestExpiresAt ≤ expiresAt) ∧
      operator.armNonce = some arm.nonce ∧ operator.armRequestSha256 = some (p.sha256 (.arm arm)) := by
  obtain ⟨_, _, h⟩ := bind_eq_ok.1 h
  obtain ⟨expiresAt, expires, h⟩ := bind_eq_ok.1 h
  obtain ⟨_, armed, h⟩ := bind_eq_ok.1 h
  obtain ⟨_, bound, lease⟩ := bind_eq_ok.1 h
  rw [required_eq_ok] at expires
  simp only [refuse_eq_ok, decide_eq_false_iff_not, not_or, not_not, not_le] at armed bound lease
  exact ⟨⟨armed.1, expiresAt, expires, armed.2, not_lt.1 lease⟩, bound⟩

theorem textOf_eq_ok {field value : String} :
    textOf message field = .ok value ↔ message.get field = .str value := by
  unfold textOf
  cases message.get field <;> simp

theorem intOf_eq_ok {field : String} {value : ℤ} :
    intOf message field = .ok value ↔ message.get field = .int value := by
  unfold intOf
  cases message.get field <;> simp

theorem Side.sign_opposite (side : Side) : side.opposite.sign = -side.sign := by
  cases side <;> rfl

theorem Side.sign_mul_self (side : Side) : side.sign * side.sign = 1 := by
  cases side <;> rfl

theorem Side.text_inj {a b : Side} (h : a.text = b.text) : a = b := by
  revert h
  cases a <;> cases b <;> decide

omit [DecidableEq Digest] in
/-- A fill that takes no more than is held off the held side reduces the position. -/
theorem reduced_of_filled (exposure : ExposureSnapshot Digest) {filled : ℤ} (nonneg : 0 ≤ filled)
    (within : filled ≤ exposure.remainingQuantity) : Reduced exposure.positionSide exposure.position
      (exposure.position - exposure.positionSide.sign * filled) := by
  have unit := exposure.positionSide.sign_mul_self
  have held : exposure.positionSide.sign * exposure.position = exposure.remainingQuantity := by
    rw [ExposureSnapshot.position, ← mul_assoc, unit, one_mul]
  have left : exposure.positionSide.sign * (exposure.position - exposure.positionSide.sign * filled) =
      exposure.remainingQuantity - filled := by
    rw [mul_sub, held, ← mul_assoc, unit, one_mul]
  constructor
  · rw [left]
    linarith
  · rw [left, held]
    linarith

/-- What `_verify_exit` checks of an exit, before it looks at a trigger. -/
structure ExitChecked (evidence : SigningEvidence Digest) (request : ManagedSigningRequest Digest)
    (message : Record) (context : ProductionContext Digest) (now : Timestamp)
    (exposure : ExposureSnapshot Digest) (quantity : ℤ) : Prop where
  current : evidence.exposure = some exposure
  scope : exposure.context = context
  valid : now < exposure.validUntil
  outlasts : request.expiresAt ≤ exposure.validUntil
  recent : Recent now (seconds 5) exposure.observedAt
  instrument : message.get "instrument" = .str exposure.instrument
  side : evidence.risk.side = some (requiredSide request.operation exposure)
  messageSide : sideDiffers message (requiredSide request.operation exposure) = false
  asked : message.get "quantity" = .int quantity
  bounded : (request.operation = .newTakeProfitStopLoss ∧ quantity = 0) ∨
    (0 < quantity ∧ quantity ≤ exposure.remainingQuantity)
  order : matchesRisk message "order" (.str exposure.parentOrderId) = true
  parent : evidence.risk.parentOrderId = some exposure.parentOrderId
  trigger : evidence.risk.operation = SigningOperation.newTakeProfitStopLoss.text →
    verifyTrigger message evidence.risk = .ok ()

theorem verifyExit_checked {context : ProductionContext Digest}
    (h : verifyExit evidence request message evidence.risk context now = .ok ()) :
    ∃ exposure quantity, ExitChecked evidence request message context now exposure quantity := by
  obtain ⟨exposure, current, h⟩ := bind_eq_ok.1 h
  obtain ⟨_, scope, h⟩ := bind_eq_ok.1 h
  obtain ⟨_, valid, h⟩ := bind_eq_ok.1 h
  obtain ⟨_, outlasts, h⟩ := bind_eq_ok.1 h
  obtain ⟨_, recent, h⟩ := bind_eq_ok.1 h
  obtain ⟨instrument, named, h⟩ := bind_eq_ok.1 h
  obtain ⟨_, own, h⟩ := bind_eq_ok.1 h
  obtain ⟨_, sides, h⟩ := bind_eq_ok.1 h
  obtain ⟨quantity, asked, h⟩ := bind_eq_ok.1 h
  obtain ⟨_, bounded, h⟩ := bind_eq_ok.1 h
  obtain ⟨_, order, h⟩ := bind_eq_ok.1 h
  obtain ⟨_, parent, trigger⟩ := bind_eq_ok.1 h
  rw [required_eq_ok] at current
  rw [textOf_eq_ok] at named
  rw [intOf_eq_ok] at asked
  simp only [refuse_eq_ok, decide_eq_false_iff_not, not_or, not_not, not_le, not_lt,
    Bool.not_eq_true] at scope valid outlasts recent own sides parent
  rw [refuse_eq_ok, decide_eq_false_iff_not] at bounded
  rw [refuse_eq_ok, Bool.not_eq_false'] at order
  refine ⟨exposure, quantity, current, scope, valid.1, outlasts, ⟨recent.1, recent.2⟩, ?_, sides.1, sides.2,
    asked, ?_, order, parent, fun operation => ?_⟩
  · rw [named, own]
  · rwa [not_and_or, not_not, not_or, not_le, not_lt] at bounded
  · rwa [if_pos operation] at trigger

section Checked

omit [DecidableEq Digest]

variable {context : ProductionContext Digest} {exposure : ExposureSnapshot Digest} {quantity : ℤ}

/-- A close asks for some of what is held, on the side that reduces it. -/
theorem ExitChecked.close (checked : ExitChecked evidence request message context now exposure quantity)
    (kind : request.operation = .positionCloseOrder) :
    evidence.risk.side = some exposure.positionSide.opposite ∧
      ∃ quantity, message.get "quantity" = .int quantity ∧ 0 < quantity ∧
        quantity ≤ exposure.remainingQuantity := by
  have side := checked.side
  rw [requiredSide, kind, if_neg (by decide)] at side
  refine ⟨side, quantity, checked.asked, ?_⟩
  rcases checked.bounded with whole | part
  · rw [kind] at whole
    cases whole.1
  · exact part

theorem ExitChecked.protects_side
    (checked : ExitChecked evidence request message context now exposure quantity)
    (typed : Typed binding request.operation message)
    (kind : request.operation = .newTakeProfitStopLoss) :
    message.get "side" = .str exposure.positionSide.text := by
  obtain ⟨text, carried⟩ := typed.string "side" (by rw [kind]; decide)
  have same := checked.messageSide
  unfold sideDiffers at same
  rw [get_of_lookup carried, requiredSide, if_pos kind] at same
  simp only [decide_eq_false_iff_not, not_not] at same
  rw [get_of_lookup carried, same]

theorem ExitChecked.protects_order
    (checked : ExitChecked evidence request message context now exposure quantity)
    (typed : Typed binding request.operation message)
    (kind : request.operation = .newTakeProfitStopLoss) :
    message.get "order" = .str exposure.parentOrderId := by
  obtain ⟨order, carried, -⟩ := typed.parent kind
  have same := checked.order
  unfold matchesRisk at same
  rw [carried] at same
  simp only [decide_eq_true_eq] at same
  rw [get_of_lookup carried, same]

/-- A trigger that has been verified is the one that the risk decision names. -/
theorem verifyTrigger_ok {risk : RiskGeometry Digest} (h : verifyTrigger message risk = .ok ()) :
    (∃ type, message.get "type" = .str type ∧ risk.protectionType = some type) ∧
      ∃ price : ℕ, message.get "price" = .int price ∧ risk.triggerPrice = some price := by
  obtain ⟨type, typeOf, h⟩ := bind_eq_ok.1 h
  obtain ⟨price, priceOf, h⟩ := bind_eq_ok.1 h
  rw [textOf_eq_ok] at typeOf
  rw [intOf_eq_ok] at priceOf
  simp only [refuse_eq_ok, decide_eq_false_iff_not, not_or, not_not] at h
  obtain ⟨types, prices, -⟩ := h
  obtain ⟨triggerPrice, held, eq⟩ := Option.map_eq_some_iff.1 prices.symm
  refine ⟨⟨type, typeOf, types.symm⟩, triggerPrice, ?_, held⟩
  rw [priceOf, ← eq]
  rfl

/-- A protection asks for no more than is held, or for zero, which stands for all of it. -/
theorem ExitChecked.within
    (checked : ExitChecked evidence request message context now exposure quantity) :
    ∃ quantity, message.get "quantity" = .int quantity ∧ 0 ≤ quantity ∧
      quantity ≤ exposure.remainingQuantity := by
  refine ⟨quantity, checked.asked, ?_⟩
  rcases checked.bounded with ⟨-, whole⟩ | ⟨positive, part⟩
  · rw [whole]
    exact ⟨le_rfl, Int.natCast_nonneg _⟩
  · exact ⟨positive.le, part⟩

theorem ExitChecked.protection
    (checked : ExitChecked evidence request message context now exposure quantity)
    (typed : Typed binding request.operation message)
    (operation : evidence.risk.operation = request.operation.text)
    (kind : request.operation = .newTakeProfitStopLoss) :
    message.get "side" = .str exposure.positionSide.text ∧
      message.get "order" = .str exposure.parentOrderId ∧
      (∃ type, message.get "type" = .str type ∧ evidence.risk.protectionType = some type) ∧
      (∃ price : ℕ, message.get "price" = .int price ∧ evidence.risk.triggerPrice = some price) ∧
      ∃ quantity, message.get "quantity" = .int quantity ∧ 0 ≤ quantity ∧
        quantity ≤ exposure.remainingQuantity := by
  obtain ⟨types, prices⟩ := verifyTrigger_ok (checked.trigger (by rw [operation, kind]))
  exact ⟨checked.protects_side typed kind, checked.protects_order typed kind, types, prices,
    checked.within⟩

/-- However the venue executes a checked exit, the position that is held shrinks. -/
theorem ExitChecked.reduces
    (checked : ExitChecked evidence request message context now exposure quantity)
    (typed : Typed binding request.operation message) {position' : ℤ}
    (executes : Executes message evidence.risk exposure.position request.operation position') :
    Reduced exposure.positionSide exposure.position position' := by
  generalize kind : request.operation = operation at executes
  cases executes with
  | close side' quantity filled direction asked lower upper =>
    obtain ⟨reducing, held, asked', -, fits⟩ := checked.close kind
    rw [reducing] at direction
    cases direction
    rw [asked'] at asked
    cases asked
    rw [Side.sign_opposite, neg_mul, ← sub_eq_add_neg]
    exact reduced_of_filled exposure lower (upper.trans fits)
  | protect side' quantity filled direction asked lower upper =>
    rw [checked.protects_side typed kind] at direction
    have one := Side.text_inj (Value.str.inj direction)
    obtain ⟨held, asked', -, fits⟩ := checked.within
    rw [asked'] at asked
    cases asked
    rw [← one]
    refine reduced_of_filled exposure lower ?_
    split at upper
    · refine upper.trans (le_of_eq ?_)
      rw [ExposureSnapshot.position, abs_mul, Nat.abs_cast]
      cases exposure.positionSide <;> simp [Side.sign]
    · exact upper.trans fits

end Checked

/-- An exit that `_verify_exit` lets through, its message being typed, is authorized. -/
theorem verifyExit_ok (typed : Typed binding request.operation message)
    (operation : evidence.risk.operation = request.operation.text)
    (context : binding.context = request.context) (lease : request.expiresAt ≤ evidence.risk.validUntil)
    (h : verifyExit evidence request message evidence.risk binding.context now = .ok ()) :
    ∃ exposure, ExitAuthorized request evidence exposure message now := by
  obtain ⟨exposure, quantity, checked⟩ := verifyExit_checked h
  exact ⟨exposure, {
    current := ⟨checked.current, checked.scope.trans context, checked.valid⟩
    recent := checked.recent
    lease := ⟨lease, checked.outlasts⟩
    instrument := checked.instrument
    parent := checked.parent
    close := checked.close
    protection := checked.protection typed operation
    reduces := fun _ executes => checked.reduces typed executes }⟩

/-- An evaluation by one clock, after the scope was checked, is sound. -/
theorem authorize_sound (h : authorize p v request binding evidence now = .ok ()) :
    Agreed p v request binding evidence ∧ Recent now v.maxAge evidence.resolvedAt ∧
      Recent now v.maxAge evidence.risk.observedAt ∧
      ∃ message, typedMessage p request binding = .ok message ∧
        (request.operation.exit = false →
          ∃ operator, EntryAuthorized p v request evidence operator message now) ∧
        (request.operation.exit = true → ∃ exposure, ExitAuthorized request evidence exposure message now) := by
  obtain ⟨_, inScope, h⟩ := bind_eq_ok.1 h
  obtain ⟨_, scope, inScope⟩ := bind_eq_ok.1 inScope
  obtain ⟨_, custody, -⟩ := bind_eq_ok.1 inScope
  obtain ⟨⟨arm, digest⟩, owner, h⟩ := bind_eq_ok.1 h
  obtain ⟨_, claim, h⟩ := bind_eq_ok.1 h
  obtain ⟨message, typed, h⟩ := bind_eq_ok.1 h
  obtain ⟨_, _, h⟩ := bind_eq_ok.1 h
  obtain ⟨ages, resolved, h⟩ := bind_eq_ok.1 h
  obtain ⟨_, recent, h⟩ := bind_eq_ok.1 h
  obtain ⟨_, valid, h⟩ := bind_eq_ok.1 h
  obtain ⟨_, lease, h⟩ := bind_eq_ok.1 h
  obtain ⟨instrument, _, h⟩ := bind_eq_ok.1 h
  obtain ⟨_, operation, h⟩ := bind_eq_ok.1 h
  obtain ⟨_, _, h⟩ := bind_eq_ok.1 h
  obtain ⟨_, direction, h⟩ := bind_eq_ok.1 h
  obtain ⟨notional, moved, limits⟩ := bind_eq_ok.1 h
  rw [instead_eq_ok] at owner typed
  obtain ⟨eq, armContext⟩ := verifyOwnerSignedArm_ok owner
  obtain ⟨rfl, rfl⟩ := Prod.mk.inj eq
  simp only [refuse_eq_ok, decide_eq_false_iff_not, not_or, not_not, not_lt] at scope custody claim
  simp only [refuse_eq_ok, decide_eq_false_iff_not, not_or, not_not, not_lt] at valid lease operation
  obtain ⟨armDigest, identity, nonce, requested, context, -, -, -⟩ := claim
  have agreed : Agreed p v request binding evidence := by
    refine ⟨⟨scope.1, scope.2, armContext.trans scope.2.symm, valid.1.trans scope.1.symm⟩, custody.1,
      armDigest, requested, nonce, identity, ?_⟩
    rw [context, armContext, scope.2]
  have aged : ∀ value ∈ ages, Recent now v.maxAge value := by
    intro value mem
    rw [refuse_eq_ok, List.any_eq_false] at recent
    have bounds := recent value mem
    simp only [decide_eq_true_eq, not_or, not_lt] at bounds
    exact bounds
  by_cases exit : request.operation.exit = true
  · rw [freshness, if_pos exit] at resolved
    cases resolved
    rw [verifyDirection, if_pos exit] at direction
    refine ⟨agreed, aged _ (by simp), aged _ (by simp), message, typed,
      fun entry => absurd (exit.symm.trans entry) (by decide), fun _ => ?_⟩
    exact verifyExit_ok (typedMessage_typed typed) operation.1 scope.1.symm lease direction
  · rw [freshness, if_neg exit] at resolved
    obtain ⟨operator, current, resolved⟩ := bind_eq_ok.1 resolved
    cases resolved
    rw [verifyDirection, if_neg exit] at direction
    obtain ⟨operator', current', direction⟩ := bind_eq_ok.1 direction
    rw [required_eq_ok] at current current'
    obtain rfl : operator' = operator := by
      rw [current] at current'
      exact (Option.some.inj current').symm
    obtain ⟨armed, bound⟩ := verifyOperator_ok direction
    rw [Bool.not_eq_true] at exit
    simp only [refuse_eq_ok, exit, Bool.not_false, exceedsLimits, decide_eq_true_eq, true_and,
      decide_eq_false_iff_not, not_or, not_lt, not_not] at limits
    obtain ⟨loss, daily, trade, aggregate, cap, -⟩ := limits
    refine ⟨agreed, aged _ (by simp), aged _ (by simp), message, typed, fun _ => ⟨operator', ?_⟩,
      fun entry => absurd (exit.symm.trans entry) (by decide)⟩
    exact ⟨current', aged _ (by simp), armed, bound, lease, loss, daily, trade, aggregate, notional,
      moved, cap⟩

end Parts

section Samples

/-- One digest for the contents of a kind. -/
def sampleSha : Content ℕ → ℕ
  | .context _ => 11
  | .account .. => 12
  | .preconditions _ => 13
  | .ownerKey _ => 14
  | .arm _ => 15
  | .signedArm _ => 16
  | .operator _ => 17
  | .risk _ => 18
  | .schema _ => 19
  | .effect .. => 20
  | .reservation .. => 21
  | .receipt _ => 22
  | .signing .. => 24
  | .signature _ => 25
  | .body _ => 26
  | .wire _ => 27
  | .response _ => 28

def sampleOrderId : String := "00001:00000000000000000000000000"

/-- The texts of a limit order over one dollar, and of a direct close of five units. -/
def sampleLoads (text : String) : Option Value :=
  if text = "limit" then some (.dict [("id", .str sampleOrderId), ("instrument", .str "BTC"),
    ("side", .str "BUY"), ("leverage", .int 1), ("quantity", .int 100_000_000),
    ("limitPrice", .int 100_000_000), ("chainId", .int 1)])
  else if text = "close" then some (.dict [("id", .str sampleOrderId), ("instrument", .str "BTC"),
    ("leverage", .int 1), ("quantity", .int 5), ("chainId", .int 1)])
  else none

/-- Twenty-eight significant digits, for amounts from one to below ten. -/
def samplePrimitives : Primitives ℕ where
  sha256 := sampleSha
  hex := toString
  canonical record := some (String.join (record.map Prod.fst))
  casefold := String.toLower
  loads := sampleLoads
  verifies _ signature _ := signature = "signed"
  round x := Rat.floor (x * 10 ^ 27 + 1 / 2) / 10 ^ 27

def sampleContext : ProductionContext ℕ := ⟨"account", "system", 1, 2⟩

def sampleArm : ManualArmRequest ℕ where
  context := sampleContext
  preconditionsSha256 := 13
  nonce := "nonce"
  ownerIdentity := "owner"
  createdAt := 0
  expiresAt := seconds 600
  dollarCap := 100
  dailyStopLossUsd := 5
  cap_pos := by norm_num
  stop_pos := by norm_num
  interval := by decide
  stop_le := by norm_num

/-- A verifier that takes evidence of up to one second. -/
def sampleVerifier : Verifier ℕ where
  preconditions := ⟨sampleContext, 3, 0, seconds 1_000, "owner", 100, 5⟩
  ownerKey := ⟨"owner", "key", "public", sampleContext, 0, seconds 1_000, by decide⟩
  ownerKeySha256 := 14
  owner := "owner"
  claimDatabaseUuid := 7
  armLifetime := seconds 600
  maxAge := seconds 1
  lifetime_range := by decide
  age_range := by decide
  uuid_pos := by decide

def sampleBinding : CustodyBinding ℕ :=
  ⟨sampleContext, "custody", "wallet", 1, 19, ["BTC", "ETH", "SOL", "XRP", "ADA"], 30⟩

/-- A request under a custody receipt. -/
def sampleRequest (operation : SigningOperation) (text : String) (receipt : ℕ) :
    ManagedSigningRequest ℕ :=
  ⟨"request", sampleContext, 15, receipt, operation, text, seconds 11⟩

/-- A decision that sizes both messages of the operation, with a loss of its own and one of
the day. -/
def sampleRisk (operation : SigningOperation) (quantity : ℕ) (side : Side) (daily loss : ℚ)
    (daily_nonneg : 0 ≤ daily) (loss_pos : 0 < loss) : RiskGeometry ℕ where
  context := sampleContext
  decisionId := "decision"
  signingRequestId := "request"
  effectId := 20
  clientOrderId := some sampleOrderId
  operation := operation.text
  instrument := "BTC"
  side := some side
  quantity := quantity
  cashQuantity := none
  price := some 100_000_000
  stopPrice := none
  protectionType := none
  triggerPrice := none
  parentOrderId := some "parent"
  leverage := 1
  worstCaseLossUsd := loss
  accountEquityUsd := 800
  dailyRealizedLossUsd := daily
  aggregateOpenRiskUsd := 1
  aggregateOpenNotionalUsd := 1
  observedAt := seconds 10
  validUntil := seconds 12
  leverage_one := rfl
  loss_pos := loss_pos
  equity_pos := by norm_num
  daily_nonneg := daily_nonneg
  risk_nonneg := by norm_num
  notional_nonneg := by norm_num

/-- A held BUY of eight units, seen at a time. -/
def sampleExposure (observedAt : Timestamp) : ExposureSnapshot ℕ :=
  ⟨sampleContext, "BTC", .BUY, 8, "parent", observedAt, seconds 11, by decide⟩

def sampleOperator : LiveOperatorState ℕ where
  context := sampleContext
  version := 2
  state := .ARMED
  armNonce := some "nonce"
  armRequestSha256 := some 15
  observedAt := seconds 10
  changedAt := seconds 10
  expiresAt := some (seconds 60)
  commandSha256 := 41
  previousCommandSha256 := 40
  version_pos := by decide

/-- Evidence resolved at ten seconds. -/
def sampleEvidence (risk : RiskGeometry ℕ) (exposure : ExposureSnapshot ℕ) : SigningEvidence ℕ where
  ownerArm := ⟨sampleArm, "key", "signed"⟩
  ownerNonceClaim := ⟨"owner", "nonce", 15, 11, 7, seconds 5⟩
  operator := some sampleOperator
  risk := risk
  exposure := some exposure
  resolvedAt := seconds 10

/-- A direct close of five of eight units, on an exposure seen at a time. -/
def sampleClose (observedAt : Timestamp) : SigningEvidence ℕ :=
  sampleEvidence (sampleRisk .positionCloseOrder 5 .SELL 1 1 (by norm_num) (by norm_num))
    (sampleExposure observedAt)

/-- An entry, with a loss of the day. -/
def sampleEntry (daily loss : ℚ) (daily_nonneg : 0 ≤ daily) (loss_pos : 0 < loss) : SigningEvidence ℕ :=
  sampleEvidence (sampleRisk .newLimitOrder 100_000_000 .BUY daily loss daily_nonneg loss_pos)
    (sampleExposure (seconds 10))

/-- The evidence check alone takes a request of another custody receipt. Even after the
scope check the exposure of an exit may be older than the age that bounds the rest, and
the exact loss of the day may exceed the stop by what the decimal context rounds off. -/
theorem evidence_alone_says_less :
    (verifyEvidence samplePrimitives sampleVerifier (sampleRequest .positionCloseOrder "close" 31)
        sampleBinding (sampleClose (seconds 10)) (seconds 10) = .ok () ∧
      (sampleRequest .positionCloseOrder "close" 31).custodyReceiptSha256 ≠
        sampleBinding.custodyReceiptSha256) ∧
    (authorize samplePrimitives sampleVerifier (sampleRequest .positionCloseOrder "close" 30)
        sampleBinding (sampleClose (seconds 7)) (seconds 10) = .ok () ∧
      seconds 10 - (sampleExposure (seconds 7)).observedAt > sampleVerifier.maxAge) ∧
    (authorize samplePrimitives sampleVerifier (sampleRequest .newLimitOrder "limit" 30) sampleBinding
        (sampleEntry 5 (1 / 10 ^ 28) (by norm_num) (by norm_num)) (seconds 10) = .ok () ∧
      sampleArm.dailyStopLossUsd <
        (sampleEntry 5 (1 / 10 ^ 28) (by norm_num) (by norm_num)).risk.dailyRealizedLossUsd +
        (sampleEntry 5 (1 / 10 ^ 28) (by norm_num) (by norm_num)).risk.worstCaseLossUsd) := by
  refine ⟨⟨by decide +kernel, by decide⟩, ⟨by decide +kernel, by decide⟩, by decide +kernel, ?_⟩
  show (5 : ℚ) < 5 + 1 / 10 ^ 28
  norm_num

/-- An entry and a direct close that are authorized. -/
theorem authorize_sound_sample :
    (∃ operator message, EntryAuthorized samplePrimitives sampleVerifier
      (sampleRequest .newLimitOrder "limit" 30) (sampleEntry 1 1 (by norm_num) (by norm_num)) operator
      message (seconds 10)) ∧
    ∃ exposure message, ExitAuthorized (sampleRequest .positionCloseOrder "close" 30)
      (sampleClose (seconds 10)) exposure message (seconds 10) := by
  constructor
  · have evaluated : authorize samplePrimitives sampleVerifier (sampleRequest .newLimitOrder "limit" 30)
        sampleBinding (sampleEntry 1 1 (by norm_num) (by norm_num)) (seconds 10) = .ok () := by
      decide +kernel
    obtain ⟨-, -, -, message, -, entry, -⟩ := authorize_sound evaluated
    obtain ⟨operator, authorized⟩ := entry rfl
    exact ⟨operator, message, authorized⟩
  · have evaluated : authorize samplePrimitives sampleVerifier
        (sampleRequest .positionCloseOrder "close" 30) sampleBinding (sampleClose (seconds 10))
        (seconds 10) = .ok () := by decide +kernel
    obtain ⟨-, -, -, message, -, -, exit⟩ := authorize_sound evaluated
    obtain ⟨exposure, authorized⟩ := exit rfl
    exact ⟨exposure, message, authorized⟩

end Samples

end KairosExecution.Production
