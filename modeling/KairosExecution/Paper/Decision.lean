import KairosExecution.Paper.Records

/-! Admission of a Risk decision: its scope, the exact technical-canary binding, the
comparison with the instrument rule of an authenticated snapshot, the executable
depth of the live book, and freshness. The checks stand in the order of the source
and raise its messages; the two that also record telemetry return what they record. -/

namespace KairosExecution.Paper

open Python

/-- `PaperDevCanaryPolicy.validate_decision_scope`, as `_validate_decision` reports it. -/
def validateDecisionScope (scope : LifecycleScope) (decision : Decision) : Except Err Unit := do
  refuse (!decision.paperMode) "PAPER consumer rejects non-PAPER decisions"
  refuse (!decision.devProfile) "PAPER consumer rejects non-DEV decisions"
  refuse (decision.accountId ≠ scope.accountId) "risk decision targets a different PAPER account"
  refuse (scope.symbolMap.lookup decision.intent.symbol ≠ some decision.venueSymbol)
    "risk decision venue symbol is outside the DEV allowlist"

/-- `_CANARY_RULE_DECIMAL_FIELDS`, each with the field of the venue's instrument. -/
def canaryRuleDecimalFields : List (String × String) :=
  [("venue_lot_size", "lotSize"), ("venue_price_increment", "priceIncrement"),
    ("venue_quantity_increment", "quantityIncrement"), ("venue_multiplier", "multiplier"),
    ("venue_min_volume_usd", "minVolume"), ("venue_min_price", "minPrice"),
    ("venue_max_price", "maxPrice"), ("venue_min_quantity", "minQuantity"),
    ("venue_max_quantity", "maxQuantity")]

def canaryMetadataKeys : List String :=
  ["account_id", "alpha_claim", "canary_entry_order", "canary_quantity", "entry_policy",
    "instrument_rules_sha256", "purpose"] ++ canaryRuleDecimalFields.map Prod.fst ++
  ["venue_market_state", "venue_symbol", "venue_trading", "venue_updated_at_ms"]

/-- `dict(intent.metadata)[key]` -/
def metadataAt (metadata : List (String × String)) (key : String) : Except Err String :=
  match metadata.reverse.lookup key with
  | some value => .ok value
  | none => .error (.raised "KeyError" key)

/-- The decimals of an instrument rule, by field name. -/
abbrev RuleDecimals := List (String × ℚ)

def RuleDecimals.value (decimals : RuleDecimals) (field : String) : ℚ :=
  (decimals.lookup field).getD 0

/-- `value % increment` of positive decimals -/
def remainder (lib : Lib) (value increment : ℚ) : ℚ :=
  lib.context (value - increment * Rat.floor (value / increment))

/-- `(volume / price / increment).to_integral_value(rounding=ROUND_CEILING) * increment` -/
def volumeQuantity (lib : Lib) (volume price increment : ℚ) : ℚ :=
  lib.context (Rat.ceil (lib.context (lib.context (volume / price) / increment)) * increment)

section Canary

variable (env : Env)

/-- The rule bound into the intent's metadata. -/
def boundRule (metadata : List (String × String)) (updatedAtMs : ℤ) : Except Err CanaryRule := do
  let decimals ← canaryRuleDecimalFields.mapM fun field => do
    return (field.1, ← metadataAt metadata field.1)
  return {
    fields := ("domain", "evedex-dev-instrument-rule.v1") :: decimals ++
      [("venue_market_state", ← metadataAt metadata "venue_market_state"),
        ("venue_symbol", ← metadataAt metadata "venue_symbol"),
        ("venue_trading", ← metadataAt metadata "venue_trading")]
    updatedAtMs := updatedAtMs }

/-- The lineage half of `_assert_technical_canary_binding`: source, identities, route,
review policy, timing and the absence of an alpha claim. -/
def assertCanaryLineage (decision : Decision) : Except Err Unit := do
  let intent := decision.intent
  let review := decision.review
  let route := review.route
  let source := "kairos-paper-canary"
  refuse (!decision.approved || !decision.rejectionReasons.isEmpty)
    "PAPER mutations require an approved canary decision"
  refuse (!decision.nextBarMarket) "technical canary requires NEXT_BAR_MARKET policy"
  refuse (intent.strategyId ≠ "technical-canary" ∨ intent.strategyRevision ≠ "1")
    "PAPER mutations are restricted to technical-canary@1"
  refuse (intent.source ≠ source ∨ route.source ≠ source ∨ review.source ≠ source)
    "technical canary requires dedicated source lineage"
  refuse (intent.messageId ≠ intent.intentId ∨ review.messageId ≠ review.reviewId)
    "technical canary message identities are not canonical"
  refuse (route.correlationId ≠ intent.intentId ∨ route.causationId ≠ intent.messageId
      ∨ review.correlationId ≠ intent.intentId ∨ review.causationId ≠ route.messageId)
    "technical canary route/review lineage is invalid"
  refuse (route.intent ≠ intent) "technical canary route changed its immutable intent"
  refuse (!review.allow || review.reviewer ≠ "DETERMINISTIC" || review.modelProvenance.isSome
      || review.reasonCodes ≠ ["TECHNICAL_CANARY_MANUAL_POLICY"] || review.priority ≠ 0
      || !route.normalTier || !route.mediumEffort || route.conflictRationale.isSome)
    "technical canary deterministic review policy is not exact"
  refuse (route.routedAtMs ≠ intent.decisionTsMs ∨ route.reviewDeadlineMs ≠ intent.entryExpiresTsMs
      ∨ review.reviewedAtMs ≠ intent.entryEligibleTsMs)
    "technical canary route/review timing is not exact"
  refuse (intent.signalStrength ≠ 0) "technical canary must not claim alpha confidence"

/-- The metadata half: exact keys, fixed policy values, canonical decimals and their
coherence. It returns the time and the decimals of the bound rule. -/
def canaryMetadata (decision : Decision) : Except Err (ℤ × RuleDecimals) := do
  let metadata := decision.intent.metadata
  let keys := metadata.map Prod.fst
  refuse (!(keys.all (canaryMetadataKeys.contains ·) && canaryMetadataKeys.all (keys.contains ·)))
    "technical canary metadata set is not exact"
  let read := metadataAt metadata
  refuse ((← read "account_id") ≠ decision.accountId || (← read "alpha_claim") ≠ "false"
      || (← read "canary_entry_order") ≠ "MARKETABLE_IOC_LIMIT"
      || (← read "entry_policy") ≠ "NEXT_BAR_MARKET"
      || (← read "purpose") ≠ "technical_execution_canary"
      || (← read "venue_symbol") ≠ decision.venueSymbol || (← read "venue_trading") ≠ "all"
      || (← read "venue_market_state") ≠ "OPEN")
    "technical canary fixed policy metadata is invalid"
  let updatedText ← read "venue_updated_at_ms"
  let some updatedAtMs := env.lib.int updatedText
    | throw (.safety "venue_updated_at_ms is invalid")
  refuse (env.lib.str (.int updatedAtMs) ≠ updatedText ∨ updatedAtMs < 0)
    "venue_updated_at_ms is not canonical"
  let decimals ← canaryRuleDecimalFields.mapM fun field => do
    let text ← read field.1
    let value ← positiveDecimal env.lib (.str text) field.1
    refuse (canonicalDecimal env.lib value ≠ text) (field.1 ++ " is not canonical")
    return (field.1, value)
  let decimalOf := RuleDecimals.value decimals
  refuse (decimalOf "venue_lot_size" ≠ 1 ∨ decimalOf "venue_multiplier" ≠ 1)
    "technical canary supports only lotSize=1 and multiplier=1"
  refuse (decimalOf "venue_min_price" ≥ decimalOf "venue_max_price")
    "technical canary price bounds are invalid"
  refuse (decimalOf "venue_min_quantity" > decimalOf "venue_max_quantity")
    "technical canary quantity bounds are invalid"
  refuse (remainder env.lib (decimalOf "venue_min_price") (decimalOf "venue_price_increment") ≠ 0
      ∨ remainder env.lib (decimalOf "venue_max_price") (decimalOf "venue_price_increment") ≠ 0
      ∨ remainder env.lib (decimalOf "venue_min_quantity")
          (decimalOf "venue_quantity_increment") ≠ 0)
    "technical canary bound instrument increments are invalid"
  return (updatedAtMs, decimals)

/-- The evidence of the closed bar and of the instrument, bound to the rule's digest. -/
def assertCanaryEvidence (decision : Decision) (updatedAtMs : ℤ) (rulesSha256 : String) :
    Except Err Unit := do
  let intent := decision.intent
  match intent.evidence.filter (·.kind = "closed_bar"),
      intent.evidence.filter (·.kind = "venue_instrument"),
      intent.evidence.all fun item => item.kind = "closed_bar" ∨ item.kind = "venue_instrument" with
  | [bar], [instrument], true =>
    match intent.inputBarSha256s with
    | [inputBar] =>
      let time := env.lib.str (.int updatedAtMs)
      refuse (bar.contentSha256 ≠ inputBar || bar.observedAtMs ≠ intent.decisionTsMs
          || !env.lib.startsWith bar.reference s!"BINANCE_UM:{intent.symbol}:"
          || instrument.contentSha256 ≠ rulesSha256 || instrument.observedAtMs ≠ updatedAtMs
          || instrument.reference ≠ s!"EVEDEX_DEV:{decision.venueSymbol}:{time}"
          || decision.review.evidence ≠ intent.evidence
          || decision.review.route.evidenceIds ≠
            (if rulesSha256 < inputBar then [rulesSha256, inputBar] else [inputBar, rulesSha256]))
        "technical canary evidence binding is invalid"
    | _ => throw (.safety "technical canary evidence binding is invalid")
  | _, _, _ => throw (.safety "technical canary requires exactly two evidence kinds")

def assertTechnicalCanaryBinding (decision : Decision) : Except Err Unit := do
  assertCanaryLineage decision
  let metadata := decision.intent.metadata
  let (updatedAtMs, decimals) ← canaryMetadata env decision
  let rule ← boundRule metadata updatedAtMs
  let rulesSha256 := env.ruleSha256 rule
  refuse ((← metadataAt metadata "instrument_rules_sha256") ≠ rulesSha256)
    "technical canary instrument rule hash is invalid"
  assertCanaryEvidence env decision updatedAtMs rulesSha256
  let decimalOf := RuleDecimals.value decimals
  let quantityText ← metadataAt metadata "canary_quantity"
  let boundQuantity ← positiveDecimal env.lib (.str quantityText) "canary_quantity"
  refuse (canonicalDecimal env.lib boundQuantity ≠ quantityText)
    "technical canary quantity is not canonical"
  refuse (env.lib.shortest decision.quantity ≠ boundQuantity)
    "Risk decision changed the bound canary quantity"
  let price := env.lib.shortest decision.worstEntryPrice
  refuse (price < decimalOf "venue_min_price" ∨ price > decimalOf "venue_max_price")
    "canary entry price is outside bound instrument limits"
  refuse (remainder env.lib price (decimalOf "venue_price_increment") ≠ 0)
    "canary entry price is not bound-price quantized"
  let volumeMinimum := volumeQuantity env.lib (decimalOf "venue_min_volume_usd") price
    (decimalOf "venue_quantity_increment")
  let effectiveMinimum := max (decimalOf "venue_min_quantity") volumeMinimum
  refuse (boundQuantity ≠ effectiveMinimum ∨ boundQuantity > decimalOf "venue_max_quantity"
      ∨ remainder env.lib boundQuantity (decimalOf "venue_quantity_increment") ≠ 0)
    "technical canary quantity is not the Risk-bound effective venue minimum"

def validateDecision (decision : Decision) : Except Err Unit := do
  validateDecisionScope env.scope decision
  if !decision.approved then
    refuse (env.modelValidate (env.toPayload decision)).isNone
      "rejected risk decision has invalid canonical lineage"
    refuse ([decision.quantity, decision.notionalUsd, decision.worstCaseLossUsd,
        decision.estimatedFeesUsd, decision.estimatedSlippageUsd].any (· ≠ 0))
      "rejected risk decision must have zero execution economics"
  else
    refuse (decision.intent.entryEligibleTsMs > decision.venueQuality.expiresAtMs)
      "venue quality expires before NEXT_BAR_MARKET entry becomes eligible"
    assertTechnicalCanaryBinding env decision

def decisionForTrade (trade : TradeRecord) : Except Err Decision := do
  let some decision := env.modelValidate trade.riskDecisionPayload
    | throw (.raised "ValidationError" "RiskTradeDecisionV1")
  validateDecision env decision
  refuse (decision.tradeId ≠ some trade.tradeId ∨ decision.decisionId ≠ some trade.riskDecisionId
      ∨ decision.intent.intentId ≠ some trade.strategyIntentId
      ∨ decision.intent.symbol ≠ trade.symbol)
    "durable trade lineage differs from RiskTradeDecisionV1"
  return decision

/-- The fresh rule of the instrument, from the decimals and time the venue reports. -/
def currentRule (decision : Decision) (decimals : RuleDecimals) (updatedAtMs : ℤ) : CanaryRule where
  fields := ("domain", "evedex-dev-instrument-rule.v1") ::
    decimals.map (fun field => (field.1, canonicalDecimal env.lib field.2)) ++
    [("venue_market_state", "OPEN"), ("venue_symbol", decision.venueSymbol),
      ("venue_trading", "all")]
  updatedAtMs := updatedAtMs

/-- `_assert_technical_canary_instrument`; the result is the telemetry it records. -/
def assertTechnicalCanaryInstrument (decision : Decision) (venue : Venue) :
    Except Err (List (String × String)) := do
  refuse (!isclose decision.leverage 1 0 1e-12) "technical canary requires exactly 1x leverage"
  let instruments ← list (venue.get "instruments")
  let some instrument := (match instruments.filter fun item =>
      upperField env.lib item "name" = env.lib.upper decision.venueSymbol with
    | [item] => some item
    | _ => none) | throw (.safety "DEV instrument metadata is missing or duplicated")
  refuse (foldedField env.lib instrument "trading" ≠ "all")
    "technical canary instrument is not trading=all"
  refuse (foldedField env.lib instrument "visibility" ≠ "all")
    "technical canary instrument is not visibility=all"
  refuse (upperField env.lib instrument "marketState" ≠ "OPEN")
    "technical canary instrument marketState is not OPEN"
  let decimals : RuleDecimals ← canaryRuleDecimalFields.mapM fun field => do
    return (field.1, ← positiveDecimal env.lib (instrument.get field.2) field.2)
  let updatedAtMs ← isoTimestampMs env.lib (instrument.get "updatedAt") "instrument updatedAt"
  let rule := currentRule env decision decimals updatedAtMs
  let metadata := decision.intent.metadata
  let some boundTime := env.lib.int (← metadataAt metadata "venue_updated_at_ms")
    | throw (.raised "ValueError" "venue_updated_at_ms")
  let bound ← boundRule metadata boundTime
  refuse (rule ≠ bound) "fresh EVEDEX DEV instrument rule differs from the Risk-bound canary rule"
  let currentHash := env.ruleSha256 rule
  refuse (currentHash ≠ (← metadataAt metadata "instrument_rules_sha256"))
    "fresh EVEDEX DEV instrument rule hash changed"
  let decimalOf := RuleDecimals.value decimals
  let priceIncrement := decimalOf "venue_price_increment"
  let quantityIncrement := decimalOf "venue_quantity_increment"
  let minQuantity := decimalOf "venue_min_quantity"
  let minPrice := decimalOf "venue_min_price"
  let maxPrice := decimalOf "venue_max_price"
  refuse (decimalOf "venue_lot_size" ≠ 1 ∨ decimalOf "venue_multiplier" ≠ 1)
    "technical canary supports only lotSize=1 and multiplier=1"
  refuse (minPrice ≥ maxPrice ∨ minQuantity > decimalOf "venue_max_quantity")
    "DEV instrument price/quantity bounds are incoherent"
  refuse (remainder env.lib minPrice priceIncrement ≠ 0
      ∨ remainder env.lib maxPrice priceIncrement ≠ 0)
    "DEV price bounds are not priceIncrement-quantized"
  let entryPrice := env.lib.shortest decision.worstEntryPrice
  let quantity := env.lib.shortest decision.quantity
  for (role, price) in [("entry", entryPrice), ("stop", env.lib.shortest decision.exitPlan.stopPrice),
      ("target", env.lib.shortest decision.exitPlan.targetPrice)] do
    refuse (price < minPrice ∨ price > maxPrice)
      s!"canary {role} price is outside DEV instrument bounds"
    refuse (remainder env.lib price priceIncrement ≠ 0)
      s!"canary {role} price is not priceIncrement-quantized"
  refuse (remainder env.lib minQuantity quantityIncrement ≠ 0)
    "DEV quantity bounds are not increment-quantized"
  let effectiveMinimum := max minQuantity
    (volumeQuantity env.lib (decimalOf "venue_min_volume_usd") entryPrice quantityIncrement)
  refuse (quantity ≠ effectiveMinimum ∨ remainder env.lib quantity quantityIncrement ≠ 0)
    "canary decision quantity is not the current effective DEV minimum"
  refuse (quantity > decimalOf "venue_max_quantity") "canary decision quantity exceeds maxQuantity"
  return [("evedex_canary_instrument_rules_sha256", currentHash),
    ("evedex_canary_effective_min_quantity", canonicalDecimal env.lib effectiveMinimum),
    ("evedex_canary_instrument_updated_at_ms", env.lib.str (.int updatedAtMs))]

/-- The price levels of one side of the book. -/
def depthLevels (depth : Record) (field : String) : Except Err (List (ℚ × ℚ)) := do
  let rows ← list (depth.get field)
  refuse rows.isEmpty s!"EVEDEX depth has no {field}"
  rows.mapM fun row => do
    let price ← positiveDecimal env.lib (row.get "price") s!"depth {field} price"
    let quantity ← positiveDecimal env.lib (row.get "quantity") s!"depth {field} quantity"
    return (price, quantity)

/-- `_assert_live_entry_book` at the time `nowMs`; the result is the telemetry it records. -/
def assertLiveEntryBook (decision : Decision) (depth : Record) (nowMs : ℤ) :
    Except Err (List (String × String)) := do
  let timestamp ← match depth.get "t" with
    | .int t => Except.ok t
    | _ => throw (.safety "EVEDEX depth timestamp is malformed")
  refuse (timestamp < decision.venueQuality.bookTimestampMs)
    "EVEDEX depth projection predates the Risk-bound book"
  let ageMs := nowMs - timestamp
  refuse (ageMs < -2_000 ∨ ageMs > 5_000) "EVEDEX depth is stale or has excessive timestamp skew"
  let asks ← depthLevels env depth "asks"
  let bids ← depthLevels env depth "bids"
  let bestAsk := (asks.map Prod.fst).foldl min ((asks.map Prod.fst).headD 0)
  let bestBid := (bids.map Prod.fst).foldl max ((bids.map Prod.fst).headD 0)
  refuse (bestBid ≥ bestAsk) "EVEDEX depth is crossed"
  let cap := env.lib.shortest decision.worstEntryPrice
  let (marketablePrice, executable) ←
    if decision.intent.side = .LONG then do
      refuse (cap < bestAsk) "canary IOC BUY cap is no longer marketable"
      pure (bestAsk, asks.filter (·.1 ≤ cap))
    else do
      refuse (cap > bestBid) "canary IOC SELL cap is no longer marketable"
      pure (bestBid, bids.filter (·.1 ≥ cap))
  let executableDepth := executable.foldl
    (fun total level => env.lib.context (total + env.lib.context (level.1 * level.2))) 0
  refuse (executableDepth <
      env.lib.shortest (max decision.notionalUsd decision.venueQuality.assessedNotionalUsd))
    "canary IOC has insufficient current executable depth"
  let field (name : String) : Except Err ℚ := do
    positiveDecimal env.lib (.str (← metadataAt decision.intent.metadata name)) name
  let increment ← field "venue_quantity_increment"
  let minQuantity ← field "venue_min_quantity"
  let minVolume ← field "venue_min_volume_usd"
  refuse (env.lib.shortest decision.quantity ≠
      max minQuantity (volumeQuantity env.lib minVolume marketablePrice increment))
    "canary quantity is not the effective minimum at the current marketable IOC price"
  return [("evedex_entry_book_age_ms", env.lib.str (.int (max 0 ageMs))),
    ("evedex_entry_executable_depth_usd", canonicalDecimal env.lib executableDepth),
    ("evedex_entry_marketable_price", canonicalDecimal env.lib marketablePrice)]

def assertFreshEntryMarket (decision : Decision) (nowMs : ℤ) : Except Err Unit := do
  refuse (nowMs > decision.intent.entryExpiresTsMs) "entry deadline expired before venue mutation"
  refuse (nowMs > decision.venueQuality.expiresAtMs)
    "EVEDEX venue quality expired before venue mutation"

/-- `_execution_shortfall_details`; an exact shortfall is never non-finite. -/
def executionShortfallDetails (decision : Decision) (averagePrice : Option ℚ) :
    Except Err (List (String × String)) :=
  match averagePrice with
  | none => .ok [("execution_shortfall_bps", "unknown")]
  | some price => do
    if decision.worstEntryPrice = 0 then throw (.raised "ZeroDivisionError" "float division by zero")
    let direction : ℚ := if decision.intent.side = .LONG then 1 else -1
    let shortfallBps :=
      (price - decision.worstEntryPrice) / decision.worstEntryPrice * 10_000 * direction
    return [("decision_worst_entry_price", env.lib.general decision.worstEntryPrice),
      ("execution_average_price", env.lib.general price),
      ("execution_shortfall_bps", env.lib.general shortfallBps)]

end Canary

/-- The two deadlines of an entry. -/
def freshAt (decision : Decision) (nowMs : ℤ) : Prop :=
  nowMs ≤ decision.intent.entryExpiresTsMs ∧ nowMs ≤ decision.venueQuality.expiresAtMs

theorem assertFreshEntryMarket_ok {decision : Decision} {nowMs : ℤ} {u : Unit} :
    assertFreshEntryMarket decision nowMs = .ok u ↔ freshAt decision nowMs := by
  unfold assertFreshEntryMarket freshAt
  rw [bind_eq_ok]
  simp only [refuse_eq_ok, decide_eq_false_iff_not, not_lt]
  constructor
  · rintro ⟨-, expires, quality⟩
    exact ⟨expires, quality⟩
  · rintro ⟨expires, quality⟩
    exact ⟨(), expires, quality⟩

end KairosExecution.Paper
