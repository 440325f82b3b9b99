import KairosExecution.Paper.Durable

/-! A small world for the engine to run in: a store with room for one trade, a clock that
each call advances, a venue that shows a script of snapshots and answers mutations by
rule. It keeps the law of the durable rows, so whatever a call of the engine does here
is a session. The decision and the scope are those of one canary trade. -/

namespace KairosExecution.Paper

open Python Interactive

section Scope

/-- A number in decimal digits. -/
def digits (text : String) : Option ℕ :=
  if text ≠ "" ∧ text.toList.all Char.isDigit then
    some (text.toList.foldl (fun n c => 10 * n + (c.toNat - '0'.toNat)) 0)
  else none

/-- `text.upper()` of ASCII text -/
def asciiUpper (text : String) : String := String.ofList (text.toList.map Char.toUpper)

/-- `text.casefold()` of ASCII text -/
def asciiFold (text : String) : String := String.ofList (text.toList.map Char.toLower)

/-- `text.replace(old, new)` for one old character and at most one new one. -/
def replaceChar (text old new : String) : String :=
  if text = "CANCELLED" ∧ old = text then new
  else match old.toList with
    | [c] => String.ofList (text.toList.flatMap fun x => if x = c then new.toList else [x])
    | _ => text

/-- `float.hex` of the quantities and prices of the canary trade. -/
def hexTexts : List (ℚ × String) :=
  [(0, "0x0.0p+0"), (1, "0x1.0000000000000p+0"), (2, "0x1.0000000000000p+1"),
    (90, "0x1.6800000000000p+6"), (100, "0x1.9000000000000p+6"), (110, "0x1.b800000000000p+6")]

/-- The standard library on the ASCII texts and whole numbers of the canary trade. -/
def asciiLib : Lib where
  upper := asciiUpper
  casefold := asciiFold
  replace := replaceChar
  strip text := if text.toList.all (· = ' ') then "" else text
  startsWith text start := start.toList.isPrefixOf text.toList
  rstrip text _ := text
  repr
    | .int n => toString n
    | .none => "None"
    | _ => ""
  float text := (digits text).map fun n => some (n : ℚ)
  fromHex text := (hexTexts.find? (·.2 = text)).map fun entry => some entry.1
  hex x := (hexTexts.lookup x).getD ""
  decimal text := (digits text).map fun n => some (n : ℚ)
  shortest x := x
  shortest_pos _ h := h
  context x := x
  fixed x := toString x.num
  general x := toString x.num
  int text := (digits text).map Int.ofNat
  fromIsoFormat text := if text = "1970-01-01T00:00:00.500+00:00" then some (some 500_000) else none
  dumps record := ",".intercalate (record.map fun kv => kv.1)

/-- The lifecycle scope of the canary account. -/
def canaryScope : LifecycleScope where
  environment := "PAPER"
  accountId := "canary"
  remoteEnvironment := "DEV"
  remoteAccountId := some "42"
  exchange := "evedex"
  symbolMap := [("BTCUSDT", "BTCUSD")]

def canaryIntent : Intent where
  intentId := some "I1"
  messageId := some "I1"
  source := "kairos-paper-canary"
  strategyId := "technical-canary"
  strategyRevision := "1"
  symbol := "BTCUSDT"
  side := .LONG
  decisionTsMs := 1_000
  entryEligibleTsMs := 2_000
  entryExpiresTsMs := 60_000
  signalStrength := 0
  metadata := [("account_id", "canary"), ("alpha_claim", "false"),
    ("canary_entry_order", "MARKETABLE_IOC_LIMIT"), ("canary_quantity", "2"),
    ("entry_policy", "NEXT_BAR_MARKET"), ("instrument_rules_sha256", "rule"),
    ("purpose", "technical_execution_canary"), ("venue_lot_size", "1"),
    ("venue_price_increment", "1"), ("venue_quantity_increment", "1"), ("venue_multiplier", "1"),
    ("venue_min_volume_usd", "200"), ("venue_min_price", "1"), ("venue_max_price", "1000"),
    ("venue_min_quantity", "1"), ("venue_max_quantity", "10"), ("venue_market_state", "OPEN"),
    ("venue_symbol", "BTCUSD"), ("venue_trading", "all"), ("venue_updated_at_ms", "500")]
  evidence := [
    { kind := "closed_bar", contentSha256 := "bar", observedAtMs := 1_000
      reference := "BINANCE_UM:BTCUSDT:1m" },
    { kind := "venue_instrument", contentSha256 := "rule", observedAtMs := 500
      reference := "EVEDEX_DEV:BTCUSD:500" }]
  inputBarSha256s := ["bar"]

/-- A decision to buy two units at 100, with the stop at 90 and the target at 110. -/
def canaryDecision : Decision where
  approved := true
  rejectionReasons := []
  paperMode := true
  devProfile := true
  accountId := "canary"
  venueSymbol := "BTCUSD"
  tradeId := some "T1"
  decisionId := some "D1"
  decidedAtMs := 1_500
  nextBarMarket := true
  quantity := 2
  leverage := 1
  notionalUsd := 200
  worstCaseLossUsd := 20
  estimatedFeesUsd := 1
  estimatedSlippageUsd := 1
  worstEntryPrice := 100
  intent := canaryIntent
  exitPlan := { stopPrice := 90, targetPrice := 110, maxHoldingMs := 600_000 }
  venueQuality := { expiresAtMs := 50_000, bookTimestampMs := 1_500, assessedNotionalUsd := 200 }
  review := {
    source := "kairos-paper-canary"
    reviewId := some "R1"
    messageId := some "R1"
    correlationId := some "I1"
    causationId := some "M1"
    allow := true
    reviewer := "DETERMINISTIC"
    modelProvenance := none
    reasonCodes := ["TECHNICAL_CANARY_MANUAL_POLICY"]
    priority := 0
    reviewedAtMs := 2_000
    evidence := canaryIntent.evidence
    route := {
      source := "kairos-paper-canary"
      messageId := some "M1"
      correlationId := some "I1"
      causationId := some "I1"
      intent := canaryIntent
      normalTier := true
      mediumEffort := true
      conflictRationale := none
      routedAtMs := 1_000
      reviewDeadlineMs := 60_000
      evidenceIds := ["bar", "rule"] } }

/-- The payload of a decision; the canary decision is the one that reads back. -/
def canaryPayload (decision : Decision) : Record :=
  if decision = canaryDecision then [("decision_id", .str "D1")] else []

def readPayload (payload : Record) : Option Decision :=
  match payload with
  | [("decision_id", .str "D1")] => some canaryDecision
  | _ => none

def Operation.value : Operation → String
  | .place => "place"
  | .create => "create"
  | .close => "close"
  | .cancel => "cancel"

def canaryEnv : Env where
  lib := asciiLib
  scope := canaryScope
  adapterName := "evedex"
  modelValidate := readPayload
  toPayload := canaryPayload
  validated_payload decision other h := by
    unfold canaryPayload at h
    split at h
    · cases h
      exact Eq.symm ‹_›
    · cases h
  effectId tradeId role operation := tradeId ++ "/" ++ role.value ++ "/" ++ operation.value
  clientId tradeId role ms := tradeId ++ "-" ++ role.value ++ "-" ++ toString ms
  factKey identity := identity.lifecycleState.value
  canaryScopeError := none
  ruleSha256 _ := "rule"

end Scope

/-- The world between two calls. -/
structure World where
  /-- microseconds since the epoch -/
  now : ℤ
  /-- what is left of the script of snapshots; the last one stays -/
  snapshots : List Venue
  blockers : List String := ["startup recovery required"]
  allowed : Bool := false
  lastHealth : Record := []
  trade : Option TradeRecord := none
  effects : List (String × ExecutionEffect) := []
  facts : List ExecutionEvent := []

/-- The parts of a world that do not change: how long each call takes, and how the
venue answers. -/
structure Rules where
  latency : Call → ℤ := fun _ => 0
  respond : Mutation → Except Err Record := fun _ => .ok []
  /-- the TP/SL that `find_tpsl_record` reads back, by type -/
  protection : String → Option Record := fun _ => none
  health : Record
  depth : Record

namespace World

/-- The rows behind the repositories of this world. -/
def durable (w : World) : Durable where
  trades id := w.trade.filter fun record => record.tradeId = id
  effects key := w.effects.lookup key

/-- A trade as it is created. -/
def received (trade : NewTrade) : TradeRecord where
  toNewTrade := trade
  state := .RECEIVED
  stateVersion := 0
  filledQuantity := 0
  timeoutAt := none
  entryExchangeOrderId := none
  stopClientOrderId := none
  stopExchangeOrderId := none
  targetClientOrderId := none
  targetExchangeOrderId := none
  closeClientOrderId := none
  closeExchangeOrderId := none

/-- A trade after a transition: the fields that are given are set. -/
def moved (record : TradeRecord) (request : TransitionRequest) : TradeRecord :=
  { record with
    state := request.target
    stateVersion := record.stateVersion + 1
    filledQuantity := request.patch.filledQuantity.getD record.filledQuantity
    timeoutAt := record.timeoutAt.or
      (request.patch.firstFillAt.map fun at' => at' + fromMs record.maxHoldingMs)
    entryExchangeOrderId := request.patch.entryExchangeOrderId.or record.entryExchangeOrderId
    stopClientOrderId := request.patch.stopClientOrderId.or record.stopClientOrderId
    stopExchangeOrderId := request.patch.stopExchangeOrderId.or record.stopExchangeOrderId
    targetClientOrderId := request.patch.targetClientOrderId.or record.targetClientOrderId
    targetExchangeOrderId := request.patch.targetExchangeOrderId.or record.targetExchangeOrderId
    closeClientOrderId := request.patch.closeClientOrderId.or record.closeClientOrderId
    closeExchangeOrderId := request.patch.closeExchangeOrderId.or record.closeExchangeOrderId }

/-- The fact that a write appends. -/
def fact (w : World) (build : FactBuild) : ExecutionEvent :=
  match build with
  | .replay stored => stored
  | .fresh body => { body with
      eventId := "fact-" ++ toString (w.facts.length + 1), eventSeq := w.facts.length + 1 }

/-- A row as it is prepared. -/
def row (request : PrepareRequest) : ExecutionEffect where
  effectKey := request.effectKey
  effectType := request.effectType
  status := .PREPARED
  symbol := request.symbol
  clientOrderId := some request.clientOrderId
  exchangeEffectId := none
  requestPayload := request.requestPayload
  responsePayload := none
  tradeId := some request.tradeId
  accountId := request.accountId
  environment := request.environment
  orderRole := some request.orderRole
  error := none

/-- The row of a key with a status and a response, where there is one. -/
def settle (w : World) (key : String) (status : EffectStatus) (exchangeId : Option String)
    (payload : Record) : Option ExecutionEffect :=
  (w.effects.lookup key).map fun effect =>
    { effect with status, exchangeEffectId := exchangeId, responsePayload := some payload }

def store (w : World) (key : String) (effect : ExecutionEffect) : World :=
  { w with effects := (key, effect) :: w.effects }

/-- The answer to a call, and the world after it. -/
def answer (rules : Rules) : Handler engineCalls Err World := fun before c =>
  let w := { before with now := before.now + rules.latency c }
  match c with
  | .recoveryBlockers => (.ok w.blockers, w)
  | .setRecoveryBlockers blockers => (.ok (), { w with blockers })
  | .takeRecoveredEvents => (.ok [], w)
  | .extendRecoveredEvents _ => (.ok (), w)
  | .operationalTelemetry => (.ok [], w)
  | .setOperationalTelemetry _ => (.ok (), w)
  | .updateOperationalTelemetry _ => (.ok (), w)
  | .lastSidecarHealth => (.ok w.lastHealth, w)
  | .setLastSidecarHealth health => (.ok (), { w with lastHealth := health })
  | .clock => (.ok w.now, w)
  | .sleep _ => (.ok (), w)
  | .preflight => (.ok rules.health, w)
  | .fetchPaperState => match w.snapshots with
    | [] => (.error (.safety "the venue is unreachable"), w)
    | [venue] => (.ok venue, w)
    | venue :: rest => (.ok venue, { w with snapshots := rest })
  | .fetchDepth .. => (.ok rules.depth, w)
  | .drainEvents _ => (.ok [], w)
  | .findTpslRecord _ _ tpslType _ => (.ok (rules.protection tpslType), w)
  | .mutate m => (rules.respond m, w)
  | .beginRecovery _ => (.ok 1, { w with allowed := false })
  | .completeRecovery .. => (.ok (), { w with allowed := true })
  | .entriesAllowed _ => (.ok w.allowed, w)
  | .listTradesForScope _ => (.ok w.trade.toList, w)
  | .listExecutionEvents _ => (.ok w.facts, w)
  | .getTrade id => (.ok (match w.trade with
      | some record => if own : record.tradeId = id then some ⟨record, own⟩ else none
      | none => none), w)
  | .tradesRecoveryRequired environment accountId => (.ok (w.trade.toList.filter fun record =>
      record.environment = environment ∧ record.accountId = accountId
        ∧ record.state.terminal = false), w)
  | .createTrade trade _ build => match w.trade with
    | none =>
      let event := w.fact build
      (.ok ⟨⟨received trade, event⟩, rfl⟩,
        { w with trade := some (received trade), facts := w.facts ++ [event] })
    | some record =>
      if own : record.tradeId = trade.tradeId then (.ok ⟨⟨record, w.fact build⟩, own⟩, w)
      else (.error (.safety "the store holds one trade"), w)
  | .getExecutionEvent .. => (.ok none, w)
  | .transition request => match w.trade with
    | none => (.error (.safety "the trade is unknown"), w)
    | some record =>
      if own : record.tradeId = request.tradeId then
        let event := w.fact request.build
        (.ok ⟨⟨moved record request, event⟩, own, rfl⟩,
          { w with trade := some (moved record request), facts := w.facts ++ [event] })
      else (.error (.safety "the trade is unknown"), w)
  | .markReconciled .. => (.ok (), w)
  | .getEffect key => (.ok (w.effects.lookup key), w)
  | .effectsRecoveryRequired _ => (.ok [], w)
  | .prepare request => match w.effects.lookup request.effectKey with
    | some effect => (.ok ⟨effect, false⟩, w)
    | none => (.ok ⟨row request, true⟩, w.store request.effectKey (row request))
  | .confirm key exchangeId payload =>
    match w.settle key .CONFIRMED (some exchangeId) payload with
    | some effect => (.ok (), w.store key effect)
    | none => (.error (.safety "the effect is unknown"), w)
  | .reconcileEffect key exchangeId payload =>
    match w.settle key .RECONCILED exchangeId payload with
    | some effect => (.ok effect, w.store key effect)
    | none => (.error (.safety "the effect is unknown"), w)
  | .acquire _ => (.ok (), w)
  | .release _ => (.ok (), w)
  | .reserve .. => (.ok ⟨true, false, 20⟩, w)
  | .latestHealth _ => (.ok none, w)
  | .recordHealth _ => (.ok (), w)
  | .checkEntry .. => (.ok (), w)
  | .bindEntry .. => (.ok (), w)
  | .enterOperatorGuard .. => (.ok (), w)
  | .exitOperatorGuard => (.ok (), w)
  | .enterCanaryDispatch .. => (.ok (), w)
  | .exitCanaryDispatch => (.ok (), w)

@[simp] theorem store_durable (w : World) (key : String) (effect : ExecutionEffect) :
    (w.store key effect).durable = w.durable.putEffect key effect := by
  unfold store durable Durable.putEffect
  congr 1
  funext other
  by_cases same : other = key
  · simp [same]
  · have differs : (other == key) = false := by simpa using same
    simp [List.lookup, differs, same]

theorem put_durable {w : World} (w' : World) {id : String} {record : TradeRecord}
    (trade : w'.trade = some record) (effects : w'.effects = w.effects)
    (key : record.tradeId = id) (own : ∀ old ∈ w.trade, old.tradeId = id) :
    w'.durable = w.durable.putTrade id record := by
  subst key
  unfold durable Durable.putTrade
  rw [trade, effects]
  congr 1
  funext other
  by_cases same : other = record.tradeId
  · simp [same]
  · have differs : ¬record.tradeId = other := fun h => same h.symm
    have absent : w.trade.filter (fun record => decide (record.tradeId = other)) = none := by
      cases hold : w.trade with
      | none => rfl
      | some old => simp [own old hold, differs]
    simp [same, differs, absent]

theorem settle_step (w w' : World) (key : String) (status : EffectStatus)
    (exchangeId : Option String) (payload : Record) (effect : ExecutionEffect)
    (same : w'.durable = w.durable) (found : w'.settle key status exchangeId payload = some effect) :
    w.durable.Rewrites key (w'.store key effect).durable := by
  obtain ⟨old, present, -⟩ := Option.map_eq_some_iff.1 found
  refine .inr ⟨old, effect, ?_, by rw [store_durable, same]⟩
  rw [← same]
  exact present

/-- Every answer keeps the law of the durable rows. -/
theorem answer_step (rules : Rules) (w : World) (c : Call) :
    w.durable.Step ⟨c, some (answer rules w c).1⟩ (answer rules w c).2.durable := by
  cases c with
  | fetchPaperState =>
    simp only [answer]
    split <;> rfl
  | getTrade id =>
    refine ⟨rfl, fun found eq => ?_⟩
    cases eq
    show w.trade.filter _ = _
    cases w.trade with
    | none => rfl
    | some record =>
      by_cases own : record.tradeId = id
      · simp [own]
      · simp [own]
  | tradesRecoveryRequired environment accountId =>
    refine ⟨rfl, fun rows eq record => ?_⟩
    cases eq
    have stored : (∃ id, w.durable.trades id = some record) ↔ w.trade = some record := by
      constructor
      · rintro ⟨id, eq⟩
        exact (Option.filter_eq_some_iff.1 eq).1
      · intro eq
        exact ⟨record.tradeId, Option.filter_eq_some_iff.2 ⟨eq, by simp⟩⟩
    rw [stored]
    cases w.trade with
    | none => simp
    | some old =>
      simp only [Option.toList_some, List.mem_filter, List.mem_singleton, Option.some.injEq,
        decide_eq_true_eq]
      constructor
      · rintro ⟨rfl, rest⟩
        exact ⟨rfl, rest⟩
      · rintro ⟨rfl, rest⟩
        exact ⟨rfl, rest⟩
  | createTrade trade factKey build =>
    simp only [answer]
    split
    · rename_i hold
      refine .inr ⟨?_, rfl, rfl, put_durable ⟨_, _, _, _, _, some (received trade), _, _⟩ rfl rfl rfl
        fun old eq => ?_⟩
      · show w.trade.filter _ = none
        rw [show w.trade = none from hold]
        rfl
      · rw [show w.trade = none from hold] at eq
        cases eq
    · rename_i record hold
      split
      · rename_i own
        refine .inl ⟨rfl, ?_⟩
        show w.trade.filter _ = some record
        rw [show w.trade = some record from hold]
        simp [own]
      · exact .inl rfl
  | transition request =>
    simp only [answer]
    split
    · exact .inl rfl
    · rename_i record hold
      split
      · rename_i own
        refine ⟨record, ?_, rfl, rfl, ?_⟩
        · show w.trade.filter _ = some record
          rw [show w.trade = some record from hold]
          simp [own]
        · refine put_durable { w with trade := some (moved record request) } rfl rfl own ?_
          intro old eq
          rw [show w.trade = some record from hold] at eq
          cases eq
          exact own
      · exact .inl rfl
  | getEffect key => exact ⟨rfl, fun found eq => by cases eq; rfl⟩
  | prepare request =>
    simp only [answer]
    cases found : w.effects.lookup request.effectKey with
    | some effect => exact ⟨rfl, found⟩
    | none => exact ⟨found, store_durable _ _ _⟩
  | confirm key exchangeId payload =>
    simp only [answer]
    split
    · exact settle_step w _ key _ _ _ _ rfl ‹_›
    · exact .inl rfl
  | reconcileEffect key exchangeId payload =>
    simp only [answer]
    split
    · exact settle_step w _ key _ _ _ _ rfl ‹_›
    · exact .inl rfl
  | _ => rfl

end World

section Venue

/-- The sidecar's health as the pinned profile has it. -/
def canaryHealth : Record := [("profile", .str "DEV"), ("chain_id", .int 16182),
  ("exchange_url", .str "https://trading-api.evedex.tech"),
  ("auth_url", .str "https://auth-api.evedex.tech"), ("sdk_version", .str "1.2.11"),
  ("auth_age_ms", .int 5), ("local_mutation_rate_limit_capacity", .int 30),
  ("local_mutation_rate_limit_reserve", .int 30),
  ("local_mutation_rate_limit_window_ms", .int 60_000),
  ("local_mutation_compensation_reserve", .int 4), ("local_mutation_entry_min_reserve", .int 7),
  ("venue_rate_limit_observable", .bool false)]

def canaryInstrument : Record := [("name", .str "BTCUSD"), ("trading", .str "all"),
  ("visibility", .str "all"), ("marketState", .str "OPEN"), ("lotSize", .str "1"),
  ("priceIncrement", .str "1"), ("quantityIncrement", .str "1"), ("multiplier", .str "1"),
  ("minVolume", .str "200"), ("minPrice", .str "1"), ("maxPrice", .str "1000"),
  ("minQuantity", .str "1"), ("maxQuantity", .str "10"),
  ("updatedAt", .str "1970-01-01T00:00:00.500Z")]

/-- A snapshot of the account, its balance in accord with its rows. -/
def snapshot (positions orders tpsl history : List Record) : Venue := [
  ("account", .dict [("id", .str "42"), ("marginCall", .bool false)]),
  ("positions", .list (positions.map .dict)), ("orders", .list (orders.map .dict)),
  ("tpsl", .list (tpsl.map .dict)), ("order_history", .list (history.map .dict)),
  ("balance", .dict [
    ("positions", .list (positions.map fun row : Record => .dict (("volume", row.get "quantity") :: row))),
    ("openOrders", .list (orders.map fun row : Record =>
      .dict (("unFilledVolume", row.get "unFilledQuantity") :: row)))]),
  ("instruments", .list [.dict canaryInstrument])]

/-- The canary's entry order, as an acknowledgement, an open order or in the history. -/
def entryRecord (status : String) (unfilled : ℚ) : Record := [("id", .str "T1-ENTRY-1500"),
  ("instrument", .str "BTCUSD"), ("side", .str "BUY"), ("type", .str "LIMIT"),
  ("limitPrice", .float 100), ("status", .str status), ("quantity", .float 2),
  ("unFilledQuantity", .float unfilled), ("filledAvgPrice", .float 100)]

/-- One of the canary's two protections. -/
def protectionRecord (id type : String) (price : ℚ) (status : String) : Record := [
  ("id", .str id), ("instrument", .str "BTCUSD"), ("type", .str type), ("side", .str "BUY"),
  ("quantity", .float 0), ("price", .float price), ("order", .str "T1-ENTRY-1500"),
  ("status", .str status)]

def liveStop : Record := protectionRecord "SL" "stop-loss" 90 "active"

def liveTarget : Record := protectionRecord "TP" "take-profit" 110 "active"

def canaryDepth : Record := [("t", .int 2_000),
  ("asks", .list [.dict [("price", .str "100"), ("quantity", .str "5")]]),
  ("bids", .list [.dict [("price", .str "99"), ("quantity", .str "5")]])]

/-- A venue that acknowledges the entry as given, and every other mutation as asked. -/
def canaryRules (entry : Record) : Rules where
  respond
    | .placeLimit .. => .ok entry
    | .createTpsl _ _ _ tpslType .. =>
      .ok [("id", .str (if tpslType = "STOP_LOSS" then "SL" else "TP"))]
    | .paperClosePosition _ clientId _ quantity _ => .ok [("id", .str clientId),
        ("status", .str "FILLED"), ("quantity", .float quantity), ("unFilledQuantity", .float 0),
        ("filledAvgPrice", .float 100)]
    | .paperCancelOrder .. => .ok [("id", .str "T1-ENTRY-1500"), ("status", .str "CANCELED")]
    | .cancelTpsl .. => .ok []
  protection tpslType := if tpslType = "stop-loss" then some liveStop else some liveTarget
  health := canaryHealth
  depth := canaryDepth

/-- The world two seconds after the epoch, with a script of snapshots. -/
def canaryWorld (snapshots : List Venue) : World := { now := 2_000_000, snapshots }

end Venue

section Runs

/-- The world and the events of the session after one more call of the engine. -/
def World.after {α : Type} (rules : Rules) (p : Engine α) (state : World × EngineHistory) :
    World × EngineHistory :=
  let run := execute (World.answer rules) p state.1 []
  (run.2.1, run.2.2 ++ state.2)

/-- A session of the canary engine in the world. -/
def World.InSession (state : World × EngineHistory) : Prop :=
  Session canaryEnv state.2 state.1.durable

theorem World.inSession_start {w : World} (no_trade : w.trade = none) (no_rows : w.effects = []) :
    InSession (w, []) := by
  have empty : w.durable = .empty := by
    unfold durable Durable.empty
    rw [no_trade, no_rows]
    rfl
  exact ⟨.start, by rw [show (w, ([] : EngineHistory)).1.durable = .empty from empty]; exact .start⟩

theorem World.InSession.after {α : Type} {state : World × EngineHistory}
    (session : InSession state) (rules : Rules) {p : Engine α}
    (call : ∀ h o, Runs p [] h o → EngineCall canaryEnv h) : InSession (World.after rules p state) := by
  have run := execute_runs (World.answer rules) p state.1 []
  refine ⟨.next session.serial (call _ _ run), ?_⟩
  have follows := Follows.execute (answer_step rules) p session.stores
  have moved := execute_append (World.answer rules) p state.1 [] state.2
  rw [List.nil_append] at moved
  rw [moved] at follows
  exact follows

/-- Startup recovery over the empty store, and then the canary decision. -/
def World.handled (rules : Rules) (snapshots : List Venue) : World × EngineHistory :=
  World.after rules (handle canaryEnv canaryDecision)
    (World.after rules (initializeRecovery canaryEnv) (canaryWorld snapshots, []))

theorem World.inSession_handled (rules : Rules) (snapshots : List Venue) :
    InSession (World.handled rules snapshots) := by
  have recovered := (World.inSession_start (w := canaryWorld snapshots) rfl rfl).after rules
    (p := initializeRecovery canaryEnv) fun h o run => .initializeRecovery h o run
  exact recovered.after rules fun h o run => .handle canaryDecision h o run

end Runs

end KairosExecution.Paper
