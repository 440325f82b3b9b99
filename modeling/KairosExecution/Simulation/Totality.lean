import KairosExecution.Simulation.Causality
import KairosExecution.Simulation.Depth
import KairosExecution.Simulation.Evaluation

/-! The kernel always answers. On a coherent state, for a command of its session that has
arrived and is not behind its cursor, with room for one more receipt, no check of an
outcome or of a state can fail: a walk fills at most what was asked for, at prices that
are never better than the mid, and the next state is coherent again. -/

namespace KairosExecution.Simulation

open Python

variable {Digest : Type} {sha : Content → Digest}

theorem refuse_bind_eq_ok {α : Type} {condition : Bool} {error : Err} {f : Unit → Except Err α}
    {a : α} : (refuse condition error >>= f) = .ok a ↔ condition = false ∧ f () = .ok a := by
  cases condition with
  | true => exact ⟨(fun h => nomatch h), fun h => nomatch h.1⟩
  | false => exact ⟨fun h => ⟨rfl, h⟩, fun h => h.2⟩

section Walk

variable {command : IOCCommand} {policy : FillAssumptions}

/-- A taker's price is never better than the book's. -/
theorem executionPrice_adverse (side : OrderSide) (policy : FillAssumptions) {bookPrice : ℚ}
    (positive : 0 < bookPrice) :
    0 ≤ (executionPrice side policy bookPrice - bookPrice) * side.direction := by
  have tick := policy.tick_pos
  have slipped : 0 ≤ bookPrice * policy.adverseSlippageBps / 10_000 := by
    have slippage := policy.slippage_range.1
    positivity
  cases side with
  | BUY =>
    have whole := (div_le_iff₀ tick).1 (Rat.le_ceil
      : bookPrice * (1 + OrderSide.BUY.direction * policy.adverseSlippageBps / 10_000) / policy.priceTick ≤ _)
    have raw : bookPrice * (1 + OrderSide.BUY.direction * policy.adverseSlippageBps / 10_000) =
        bookPrice + bookPrice * policy.adverseSlippageBps / 10_000 := by
      show bookPrice * (1 + 1 * policy.adverseSlippageBps / 10_000) = _
      ring
    rw [raw] at whole
    show 0 ≤ (executionPrice .BUY policy bookPrice - bookPrice) * 1
    rw [mul_one, sub_nonneg]
    unfold executionPrice
    dsimp only
    rw [raw]
    linarith
  | SELL =>
    have whole := (le_div_iff₀ tick).1 (Rat.floor_le
      (bookPrice * (1 + OrderSide.SELL.direction * policy.adverseSlippageBps / 10_000) / policy.priceTick))
    have raw : bookPrice * (1 + OrderSide.SELL.direction * policy.adverseSlippageBps / 10_000) =
        bookPrice - bookPrice * policy.adverseSlippageBps / 10_000 := by
      show bookPrice * (1 + -1 * policy.adverseSlippageBps / 10_000) = _
      ring
    rw [raw] at whole
    show 0 ≤ (executionPrice .SELL policy bookPrice - bookPrice) * -1
    unfold executionPrice
    dsimp only
    rw [raw]
    linarith

/-- What a walk fills: positive quantities, at the adverse prices of its own levels. -/
theorem walkLevels_fills (levels : List BookLevel) {remaining : ℚ} (left : 0 ≤ remaining)
    (consumed : Depth) : ∀ fill ∈ (walkLevels command policy levels remaining consumed).1,
    0 < fill.quantity ∧ ∃ level ∈ levels, fill.bookPrice = level.price ∧
      fill.executionPrice = executionPrice command.side policy level.price := by
  induction levels generalizing remaining consumed with
  | nil => exact fun _ mem => absurd mem List.not_mem_nil
  | cons level levels ih =>
    have deeper : ∀ {remaining : ℚ} (consumed : Depth), 0 ≤ remaining →
        ∀ fill ∈ (walkLevels command policy levels remaining consumed).1,
        0 < fill.quantity ∧ ∃ l ∈ level :: levels, fill.bookPrice = l.price ∧
          fill.executionPrice = executionPrice command.side policy l.price := by
      intro remaining consumed left fill mem
      obtain ⟨positive, l, hl, rest⟩ := ih left consumed fill mem
      exact ⟨positive, l, List.mem_cons_of_mem _ hl, rest⟩
    unfold walkLevels
    dsimp only
    split
    · exact fun _ mem => absurd mem List.not_mem_nil
    split
    · exact deeper consumed left
    rename_i some
    have positive : 0 < min remaining
        (capacity policy level (consumed.getD (command.side.book, level.price) 0)) :=
      lt_of_le_of_ne (le_min left (capacity_nonneg _ _)) (Ne.symm some)
    split
    · intro fill mem
      cases List.mem_singleton.1 mem
      exact ⟨positive, level, List.mem_cons_self, rfl, rfl⟩
    · intro fill mem
      rcases List.mem_cons.1 mem with rfl | later
      · exact ⟨positive, level, List.mem_cons_self, rfl, rfl⟩
      · exact deeper _ (sub_nonneg.2 (min_le_left _ _)) fill later

theorem total_cons (fill : LevelFill) (fills : List LevelFill) (value : LevelFill → ℚ) :
    total (fill :: fills) value = value fill + total fills value := by
  simp [total]

/-- A walk fills at most what is left. -/
theorem walkLevels_total_le (levels : List BookLevel) {remaining : ℚ} (left : 0 ≤ remaining)
    (consumed : Depth) :
    total (walkLevels command policy levels remaining consumed).1 (·.quantity) ≤ remaining := by
  induction levels generalizing remaining consumed with
  | nil => exact left
  | cons level levels ih =>
    unfold walkLevels
    dsimp only
    split
    · exact left
    split
    · exact ih left consumed
    have most := min_le_left remaining
      (capacity policy level (consumed.getD (command.side.book, level.price) 0))
    split
    · rw [total_cons]
      simp [total]
    · rw [total_cons]
      have rest := ih (sub_nonneg.2 most) (consumed.set (command.side.book, level.price)
        (consumed.getD (command.side.book, level.price) 0 + min remaining
          (capacity policy level (consumed.getD (command.side.book, level.price) 0))))
      linarith

/-- A walk keeps every debit positive. -/
theorem walkLevels_positive (levels : List BookLevel) {remaining : ℚ} (left : 0 ≤ remaining)
    {consumed : Depth} (positive : ∀ entry ∈ consumed, 0 < entry.2) :
    ∀ entry ∈ (walkLevels command policy levels remaining consumed).2, 0 < entry.2 := by
  induction levels generalizing remaining consumed with
  | nil => exact positive
  | cons level levels ih =>
    unfold walkLevels
    dsimp only
    split
    · exact positive
    split
    · exact ih left positive
    rename_i some
    have debit : 0 ≤ consumed.getD (command.side.book, level.price) 0 := by
      rcases consumed.getD_cases (command.side.book, level.price) 0 with none | some
      · exact none.ge
      · exact (positive _ some).le
    have taken : 0 < min remaining
        (capacity policy level (consumed.getD (command.side.book, level.price) 0)) :=
      lt_of_le_of_ne (le_min left (capacity_nonneg _ _)) (Ne.symm some)
    have set : ∀ entry ∈ consumed.set (command.side.book, level.price)
        (consumed.getD (command.side.book, level.price) 0 + min remaining
          (capacity policy level (consumed.getD (command.side.book, level.price) 0))),
        0 < entry.2 := by
      intro entry mem
      rcases Dict.mem_set mem with rfl | old
      · exact add_pos_of_nonneg_of_pos debit taken
      · exact positive entry old
    split
    · exact set
    · exact ih (sub_nonneg.2 (min_le_left _ _)) set

/-- The mid of an admitted book is between its sides. -/
theorem mid_between {frame : AcceptedBookFrame} (admitted : frame.continuity = .ADMITTED)
    {level : BookLevel} {side : OrderSide} (mem : level ∈ frame.levels side.book) :
    0 ≤ (level.price - (best frame.bids + best frame.asks) / 2) * side.direction := by
  obtain ⟨bids, asks⟩ := frame.both_sides admitted
  obtain ⟨bid, lower, hb⟩ := List.exists_cons_of_ne_nil bids
  obtain ⟨ask, upper, ha⟩ := List.exists_cons_of_ne_nil asks
  have apart : bid.price < ask.price :=
    frame.uncrossed bid (by rw [hb]; rfl) ask (by rw [ha]; rfl)
  have bestBid : best frame.bids = bid.price := by rw [hb]; rfl
  have bestAsk : best frame.asks = ask.price := by rw [ha]; rfl
  rw [bestBid, bestAsk]
  cases side with
  | BUY =>
    have above : ask.price ≤ level.price := by
      have ascending := frame.asks_ascend
      change level ∈ frame.asks at mem
      rw [ha] at mem ascending
      rcases List.mem_cons.1 mem with rfl | later
      · exact le_refl _
      · exact ((List.pairwise_cons.1 ascending).1 level later).le
    show 0 ≤ (level.price - (bid.price + ask.price) / 2) * 1
    linarith
  | SELL =>
    have below : level.price ≤ bid.price := by
      have descending := frame.bids_descend
      change level ∈ frame.bids at mem
      rw [hb] at mem descending
      rcases List.mem_cons.1 mem with rfl | later
      · exact le_refl _
      · exact ((List.pairwise_cons.1 descending).1 level later).le
    show 0 ≤ (level.price - (bid.price + ask.price) / 2) * -1
    linarith

/-- Fills that are each no better than the mid fall short of it together. -/
theorem shortfall_nonneg (fills : List LevelFill) (mid direction : ℚ)
    (each : ∀ fill ∈ fills, 0 ≤ fill.quantity ∧ 0 ≤ (fill.executionPrice - mid) * direction) :
    0 ≤ (total fills (fun fill => fill.quantity * fill.executionPrice) -
      total fills (·.quantity) * mid) * direction := by
  induction fills with
  | nil => simp [total]
  | cons fill fills ih =>
    obtain ⟨quantity, adverse⟩ := each fill List.mem_cons_self
    have rest := ih fun f hf => each f (List.mem_cons_of_mem _ hf)
    have here := mul_nonneg quantity adverse
    rw [total_cons, total_cons]
    nlinarith only [rest, here]

end Walk

section Outcome

/-- What `coherent_outcome` and the field bounds demand. -/
structure OutcomeCoherent (o : FillOutcome Digest) : Prop where
  arrival : o.arrivalAtMs ≤ maxTimestamp
  shortfall : 0 ≤ o.implementationShortfallQuote
  quantity : total o.levelFills (·.quantity) = o.filledQuantity
  notional : total o.levelFills (fun fill => fill.quantity * fill.executionPrice) = o.notionalQuote
  fees : total o.levelFills (·.feeQuote) = o.feeQuote
  terminal : o.status ≠ .WAIT
  cancelled : o.filledQuantity + o.cancelledQuantity = o.requestedQuantity
  full : o.status = .FILLED → o.filledQuantity = o.requestedQuantity
  part : o.status = .PARTIAL → 0 < o.filledQuantity ∧ o.filledQuantity < o.requestedQuantity
  unfilled : o.status = .NO_FILL ∨ o.status = .BLOCKED → o.filledQuantity = 0
  framed : o.filledQuantity ≠ 0 → o.frameSha256 ≠ none
  average : o.averagePrice =
    if o.filledQuantity = 0 then none else some (o.notionalQuote / o.filledQuantity)
  mid : o.filledQuantity ≠ 0 → o.arrivalMidPrice ≠ none
  still : o.filledQuantity = 0 → o.implementationShortfallQuote = 0

theorem OutcomeCoherent.checked {o : FillOutcome Digest} (c : OutcomeCoherent o) :
    o.coherent = .ok () := by
  unfold FillOutcome.coherent
  simp only [refuse_bind_eq_ok, refuse_eq_ok, c.quantity, c.notional, c.fees]
  have unfilled := c.unfilled
  have terminal := c.terminal
  refine ⟨by simpa using c.arrival, by simpa using c.shortfall, by simp, by simp [terminal], ?_, ?_, ?_,
    ?_, ?_, ?_, ?_, ?_⟩
  · simp [c.cancelled]
  · simpa using c.full
  · have part := c.part
    simp only [decide_eq_false_iff_not]
    tauto
  · simp only [decide_eq_false_iff_not]
    tauto
  · have framed := c.framed
    simp only [decide_eq_false_iff_not, Option.isNone_iff_eq_none]
    tauto
  · simpa using c.average
  · have mid := c.mid
    simp only [decide_eq_false_iff_not, Option.isNone_iff_eq_none]
    tauto
  · have still := c.still
    simp only [decide_eq_false_iff_not]
    tauto

theorem unfilled_coherent {command : IOCCommand} {frame : AcceptedBookFrame} {policy : FillAssumptions}
    {status : Status} {reason : String} (quiet : status.fills = false) (terminal : status ≠ .WAIT)
    (arrival : arrivalOf command policy ≤ maxTimestamp) :
    OutcomeCoherent (unfilled sha command frame policy status reason) := by
  refine ⟨arrival, le_refl _, rfl, rfl, rfl, terminal, ?_, ?_, ?_, fun _ => rfl, ?_, rfl, ?_,
    fun _ => rfl⟩
  · show 0 + (if status = .WAIT then 0 else command.quantity) = command.quantity
    rw [if_neg terminal, zero_add]
  · intro full
    change status = .FILLED at full
    rw [full] at quiet
    cases quiet
  · intro part
    change status = .PARTIAL at part
    rw [part] at quiet
    cases quiet
  · exact fun some => absurd rfl some
  · exact fun some => absurd rfl some

theorem walked_coherent {command : IOCCommand} {frame : AcceptedBookFrame} {policy : FillAssumptions}
    (admitted : frame.continuity = .ADMITTED) (arrival : arrivalOf command policy ≤ maxTimestamp)
    (consumed : Depth) :
    OutcomeCoherent (walked sha command frame policy (walkLevels command policy
      (frame.levels command.side.book) command.quantity consumed).1) := by
  generalize taken : (walkLevels command policy (frame.levels command.side.book) command.quantity
    consumed).1 = fills
  have each : ∀ fill ∈ fills, 0 < fill.quantity ∧ ∃ level ∈ frame.levels command.side.book,
      fill.bookPrice = level.price ∧
        fill.executionPrice = executionPrice command.side policy level.price := by
    rw [← taken]
    exact walkLevels_fills _ command.quantity_pos.le consumed
  have most : total fills (·.quantity) ≤ command.quantity := by
    rw [← taken]
    exact walkLevels_total_le _ command.quantity_pos.le consumed
  have least : 0 ≤ total fills (·.quantity) := by
    refine List.sum_nonneg fun x mem => ?_
    obtain ⟨fill, hf, rfl⟩ := List.mem_map.1 mem
    exact (each fill hf).1.le
  have none : total fills (·.quantity) = 0 → fills = [] := by
    intro zero
    cases fills with
    | nil => rfl
    | cons fill rest =>
      have some := (each fill List.mem_cons_self).1
      have others : 0 ≤ total rest (·.quantity) := by
        refine List.sum_nonneg fun x mem => ?_
        obtain ⟨f, hf, rfl⟩ := List.mem_map.1 mem
        exact (each f (List.mem_cons_of_mem _ hf)).1.le
      rw [total_cons] at zero
      linarith
  have adverse : ∀ fill ∈ fills, 0 ≤ fill.quantity ∧
      0 ≤ (fill.executionPrice - (best frame.bids + best frame.asks) / 2) * command.side.direction := by
    intro fill mem
    obtain ⟨positive, level, hl, -, price⟩ := each fill mem
    have slipped := executionPrice_adverse command.side policy level.price_pos
    have booked := mid_between admitted hl
    rw [price]
    exact ⟨positive.le, by linarith⟩
  refine ⟨arrival, shortfall_nonneg fills _ _ adverse, rfl, rfl, rfl, walked_terminal command frame policy fills,
    ?_, ?_, ?_, ?_, fun _ => nofun, rfl, fun _ => nofun, ?_⟩
  · show total fills (·.quantity) + (command.quantity - total fills (·.quantity)) = command.quantity
    ring
  · intro full
    by_contra partly
    change (if total fills (·.quantity) = 0 then Status.NO_FILL
      else if total fills (·.quantity) = command.quantity then .FILLED else .PARTIAL) = .FILLED at full
    change ¬total fills (·.quantity) = command.quantity at partly
    rw [if_neg partly] at full
    split at full <;> cases full
  · intro part
    change (if total fills (·.quantity) = 0 then Status.NO_FILL
      else if total fills (·.quantity) = command.quantity then .FILLED else .PARTIAL) = .PARTIAL at part
    show 0 < total fills (·.quantity) ∧ total fills (·.quantity) < command.quantity
    split at part
    · cases part
    · rename_i some
      split at part
      · cases part
      · rename_i partly
        exact ⟨lt_of_le_of_ne least (Ne.symm some), lt_of_le_of_ne most partly⟩
  · intro nothing
    by_contra some
    change (if total fills (·.quantity) = 0 then Status.NO_FILL
      else if total fills (·.quantity) = command.quantity then .FILLED else .PARTIAL) = .NO_FILL ∨
      (if total fills (·.quantity) = 0 then Status.NO_FILL
      else if total fills (·.quantity) = command.quantity then .FILLED else .PARTIAL) = .BLOCKED at nothing
    change ¬total fills (·.quantity) = 0 at some
    rw [if_neg some] at nothing
    rcases nothing with h | h <;> split at h <;> cases h
  · intro zero
    show (total fills (fun fill => fill.quantity * fill.executionPrice) -
      total fills (·.quantity) * _) * command.side.direction = 0
    rw [none zero]
    simp [total]

end Outcome

section State

variable [DecidableEq Digest] {state : LiquidityState Digest}

/-- What `coherent_state` and the field bounds demand. -/
structure StateCoherent (s : LiquidityState Digest) : Prop where
  asOf : s.lastAsOfMs ≤ maxTimestamp
  capacity : s.receipts.length ≤ maxCommands
  positive : ∀ entry ∈ s.consumedDepth, 0 < entry.2
  unique : s.consumedDepth.Unique
  commands : (s.receipts.map (·.commandId)).Nodup
  framed : s.lastFrameSequence = 0 ↔ s.lastFrameSha256 = none
  updated : s.lastFrameSequence = 0 ↔ s.lastExchangeUpdateId = 0
  assumed : s.receipts ≠ [] ∨ s.consumedDepth ≠ [] → s.assumptionsSha256 ≠ none
  arrived : s.lastArrivalAtMs ≤ s.lastAsOfMs
  ordered : (s.receipts.map (·.outcome.arrivalAtMs)).Pairwise (· ≤ ·)
  last : ∀ arrival ∈ (s.receipts.map (·.outcome.arrivalAtMs)).getLast?, arrival = s.lastArrivalAtMs
  lineage : ∀ receipt ∈ s.receipts, s.lineage receipt = true

theorem coherent_iff : state.coherent = .ok () ↔ StateCoherent state := by
  unfold LiquidityState.coherent
  simp only [refuse_bind_eq_ok, refuse_eq_ok]
  constructor
  · rintro ⟨asOf, capacity, positive, unique, commands, framed, updated, assumed, arrived, ordered,
      lineage⟩
    refine ⟨by simpa using asOf, by simpa using capacity, by simpa using positive,
      by simpa using unique, by simpa using commands, ?_, ?_, ?_, by simpa using arrived, ?_, ?_,
      by simpa using lineage⟩
    · by_cases h : state.lastFrameSequence = 0 <;> simp_all
    · by_cases h : state.lastFrameSequence = 0 <;> simp_all
    · simp only [decide_eq_false_iff_not] at assumed
      tauto
    · simp only [decide_eq_false_iff_not, not_or, not_not] at ordered
      exact ordered.1
    · simp only [decide_eq_false_iff_not, not_or, not_not, Option.all_eq_true, decide_eq_true_eq]
        at ordered
      exact ordered.2
  · intro c
    have framed := c.framed
    have updated := c.updated
    have assumed := c.assumed
    refine ⟨by simpa using c.asOf, by simpa using c.capacity, by simpa using c.positive,
      by simpa using c.unique, by simpa using c.commands, ?_, ?_, ?_, by simpa using c.arrived, ?_,
      by simpa using c.lineage⟩
    · by_cases h : state.lastFrameSequence = 0 <;> simp_all
    · by_cases h : state.lastFrameSequence = 0 <;> simp_all
    · simp only [decide_eq_false_iff_not]
      tauto
    · simp only [decide_eq_false_iff_not, not_or, not_not, Option.all_eq_true, decide_eq_true_eq]
      exact ⟨c.ordered, c.last⟩

/-- A state takes one more terminal receipt, of its session and not behind it. -/
structure Takes (sha : Content → Digest) (command : IOCCommand) (policy : FillAssumptions)
    (state : LiquidityState Digest) (asOfMs : ℕ) : Prop where
  coherent : StateCoherent state
  fresh : ∀ receipt ∈ state.receipts, receipt.commandId ≠ command.commandId
  assumed : ∀ digest ∈ state.assumptionsSha256, digest = sha (.assumptions policy)
  clock : state.lastAsOfMs ≤ asOfMs
  arrived : arrivalOf command policy ≤ asOfMs
  ordered : state.lastArrivalAtMs ≤ arrivalOf command policy
  room : state.receipts.length < maxCommands
  bounded : asOfMs ≤ maxTimestamp

/-- The state with one more receipt is coherent, whatever else moved in a coherent way. -/
theorem Takes.coherent_next {command : IOCCommand} {policy : FillAssumptions} {asOfMs : ℕ}
    (takes : Takes sha command policy state asOfMs) {next : LiquidityState Digest}
    {outcome : FillOutcome Digest}
    (receipts : next.receipts = state.receipts ++ [receiptOf sha command policy outcome])
    (assumed : next.assumptionsSha256 = some (sha (.assumptions policy)))
    (asOf : next.lastAsOfMs = asOfMs) (arrival : next.lastArrivalAtMs = arrivalOf command policy)
    (made : outcome.commandId = command.commandId ∧ outcome.commandSha256 = sha (.command command) ∧
      outcome.assumptionsSha256 = sha (.assumptions policy) ∧
      outcome.arrivalAtMs = arrivalOf command policy ∧ outcome.status ≠ .WAIT)
    (positive : ∀ entry ∈ next.consumedDepth, 0 < entry.2) (unique : next.consumedDepth.Unique)
    (framed : next.lastFrameSequence = 0 ↔ next.lastFrameSha256 = none)
    (updated : next.lastFrameSequence = 0 ↔ next.lastExchangeUpdateId = 0) : StateCoherent next := by
  obtain ⟨id, content, policySha, dated, terminal⟩ := made
  have below : ∀ receipt ∈ state.receipts, receipt.outcome.arrivalAtMs ≤ state.lastArrivalAtMs := by
    intro receipt mem
    have arrivals := takes.coherent.ordered
    obtain ⟨init, last, eq⟩ := List.eq_nil_or_concat' (state.receipts.map (·.outcome.arrivalAtMs))
        |>.resolve_left (by
          intro none
          rw [List.map_eq_nil_iff.1 none] at mem
          cases mem)
    have atLast : last = state.lastArrivalAtMs := takes.coherent.last last (by rw [eq]; simp)
    have mem' : receipt.outcome.arrivalAtMs ∈ state.receipts.map (·.outcome.arrivalAtMs) :=
      List.mem_map_of_mem mem
    rw [eq] at arrivals mem'
    rcases List.mem_append.1 mem' with old | here
    · have le := (List.pairwise_append.1 arrivals).2.2 _ old last (by simp)
      omega
    · have same := List.mem_singleton.1 here
      omega
  refine ⟨by rw [asOf]; exact takes.bounded, ?_, positive, unique, ?_, framed, updated, ?_, ?_, ?_, ?_,
    ?_⟩
  · rw [receipts, List.length_append, List.length_singleton]
    exact takes.room
  · rw [receipts, List.map_append]
    refine List.Nodup.append takes.coherent.commands (List.nodup_singleton _) ?_
    intro other old new
    obtain ⟨receipt, mem, rfl⟩ := List.mem_map.1 old
    exact takes.fresh receipt mem (List.mem_singleton.1 new)
  · rw [assumed]
    exact fun _ => nofun
  · rw [arrival, asOf]
    exact takes.arrived
  · rw [receipts, List.map_append]
    refine List.pairwise_append.2 ⟨takes.coherent.ordered, List.pairwise_singleton _ _, ?_⟩
    intro a old b new
    obtain ⟨receipt, mem, rfl⟩ := List.mem_map.1 old
    cases List.mem_singleton.1 new
    exact ((below receipt mem).trans takes.ordered).trans dated.ge
  · rw [receipts, List.map_append, arrival]
    intro last eq
    simp only [List.map_cons, List.map_nil, List.getLast?_append, List.getLast?_singleton,
      Option.some_or, Option.mem_def, Option.some.injEq] at eq
    rw [← eq]
    exact dated
  · intro receipt mem
    rw [receipts] at mem
    unfold LiquidityState.lineage
    rw [assumed]
    rcases List.mem_append.1 mem with old | new
    · have own := takes.coherent.lineage receipt old
      simp only [LiquidityState.lineage, Bool.and_eq_true, decide_eq_true_eq] at own ⊢
      refine ⟨⟨own.1.1, ?_⟩, own.2⟩
      rw [takes.assumed _ own.1.2.symm]
    · cases List.mem_singleton.1 new
      simp [receiptOf, id, content, policySha, terminal]

theorem judge_made (sha : Content → Digest) (command : IOCCommand) (frame : AcceptedBookFrame)
    (policy : FillAssumptions) (state : LiquidityState Digest) (asOfMs : ℕ) :
    (judge sha command frame policy state asOfMs).1.commandId = command.commandId ∧
      (judge sha command frame policy state asOfMs).1.commandSha256 = sha (.command command) ∧
      (judge sha command frame policy state asOfMs).1.assumptionsSha256 = sha (.assumptions policy) ∧
      (judge sha command frame policy state asOfMs).1.arrivalAtMs = arrivalOf command policy ∧
      (judge sha command frame policy state asOfMs).1.status ≠ .WAIT := by
  refine ⟨?_, ?_, ?_, (judge_fields sha command frame policy state asOfMs).1,
    judge_terminal command frame policy state asOfMs⟩
  all_goals
    unfold judge
    dsimp only
    split
    · rfl
    · split <;> rfl

theorem Takes.judge_coherent {command : IOCCommand} {policy : FillAssumptions} {asOfMs : ℕ}
    (takes : Takes sha command policy state asOfMs) (frame : AcceptedBookFrame) :
    OutcomeCoherent (judge sha command frame policy state asOfMs).1 := by
  have arrival := takes.arrived.trans takes.bounded
  unfold judge
  dsimp only
  split
  · exact unfilled_coherent rfl nofun arrival
  split
  · exact unfilled_coherent rfl nofun arrival
  · rename_i sound
    exact walked_coherent (soundFrame_of_issue sound).admitted arrival _

theorem Takes.ended_coherent {command : IOCCommand} {policy : FillAssumptions} {asOfMs : ℕ}
    (takes : Takes sha command policy state asOfMs) (frame : AcceptedBookFrame) :
    StateCoherent (ended sha command frame policy state asOfMs) := by
  obtain ⟨-, arrival, asOf, assumed⟩ := ended_fields sha command frame policy state asOfMs
  refine takes.coherent_next rfl assumed asOf arrival (judge_made sha command frame policy state asOfMs)
    ?_ (ended_unique command frame policy takes.coherent.unique asOfMs) ?_ ?_
  · show ∀ entry ∈ (judge sha command frame policy state asOfMs).2.consumedDepth, 0 < entry.2
    rcases judge_depth sha command frame policy state asOfMs with ⟨-, same⟩ | ⟨-, walked⟩
    · rw [same]
      exact takes.coherent.positive
    · rw [walked]
      intro entry mem
      exact walkLevels_positive _ command.quantity_pos.le takes.coherent.positive entry
        ((Dict.sorted_perm _ _).mem_iff.1 mem)
  · rcases ended_cursor sha command frame policy state asOfMs with ⟨sequence, sha256, -⟩ | ⟨-, at', -⟩
    · rw [sequence, sha256]
      exact takes.coherent.framed
    · have positive := frame.sequence_pos
      rw [at'.sequence, at'.sha256]
      simp
      omega
  · rcases ended_cursor sha command frame policy state asOfMs with
      ⟨sequence, -, update, -⟩ | ⟨-, at', -⟩
    · rw [sequence, update]
      exact takes.coherent.updated
    · have positive := frame.sequence_pos
      have update := frame.update_pos
      rw [at'.sequence, at'.update]
      omega

/-- The kernel answers a command that its state takes. -/
theorem Takes.simulateIoc {command : IOCCommand} {policy : FillAssumptions} {asOfMs : ℕ}
    (takes : Takes sha command policy state asOfMs) (frame : AcceptedBookFrame)
    (own : command.sessionId = state.sessionId ∧ command.symbol = state.symbol)
    (tape : frame.tapeId = state.tapeId ∧ frame.symbol = state.symbol) :
    ∃ step, Simulation.simulateIoc sha command frame policy state asOfMs = .ok step ∧
      step.outcome = (judge sha command frame policy state asOfMs).1 := by
  refine ⟨⟨_, ended sha command frame policy state asOfMs, false⟩, ?_, rfl⟩
  have valid : state.validate = .ok state := validate_eq_ok.2 ⟨coherent_iff.2 takes.coherent, rfl⟩
  have absent : state.receipts.find? (fun receipt => receipt.commandId = command.commandId) = none := by
    simpa using takes.fresh
  have assumed : state.assumptionsSha256.all (· = sha (.assumptions policy)) = true := by
    rw [Option.all_eq_true]
    exact fun digest mem => decide_eq_true (takes.assumed digest mem)
  have outcome : (judge sha command frame policy state asOfMs).1.checked =
      .ok (judge sha command frame policy state asOfMs).1 :=
    checked_eq_ok.2 ⟨(takes.judge_coherent frame).checked, rfl⟩
  have next : LiquidityState.validate { (judge sha command frame policy state asOfMs).2 with
      receipts := state.receipts ++
        [receiptOf sha command policy (judge sha command frame policy state asOfMs).1] } =
      .ok (ended sha command frame policy state asOfMs) :=
    validate_eq_ok.2 ⟨coherent_iff.2 (takes.ended_coherent frame), rfl⟩
  have refused : ∀ error : Err, refuse false error = .ok () := fun _ => rfl
  unfold Simulation.simulateIoc
  simp only [valid, not_lt.2 takes.clock, own.1, own.2, tape.1, tape.2, assumed, absent,
    not_le.2 takes.room, not_lt.2 takes.ordered, ne_eq, not_true_eq_false, or_self, decide_false,
    refused, bind, Except.bind]
  unfold evaluate
  rw [if_neg (not_lt.2 takes.arrived)]
  simp only [outcome, bind, Except.bind]
  rw [next]
  rfl

end State

section Command

variable [DecidableEq Digest] {state : LiquidityState Digest} {command : SimulationCommand} {asOfMs : ℕ}

/-- The state takes a command of the controller, under the assumptions of its session. -/
abbrev TakesCommand (sha : Content → Digest) (command : SimulationCommand)
    (state : LiquidityState Digest) (asOfMs : ℕ) : Prop :=
  Takes sha (kernelCommand command) command.trade.admission.session.assumptions state asOfMs

omit [DecidableEq Digest] in
theorem bookless_coherent {reason : String} {status : Status} (quiet : status.fills = false)
    (terminal : status ≠ .WAIT) (arrival : command.arrivalAtMs ≤ maxTimestamp) :
    OutcomeCoherent (bookless sha command state asOfMs reason status).1 := by
  refine ⟨arrival, le_refl _, rfl, rfl, rfl, terminal, zero_add _, ?_, ?_, fun _ => rfl, ?_, rfl, ?_,
    fun _ => rfl⟩
  · intro full
    change status = .FILLED at full
    rw [full] at quiet
    cases quiet
  · intro part
    change status = .PARTIAL at part
    rw [part] at quiet
    cases quiet
  · exact fun some => absurd rfl some
  · exact fun some => absurd rfl some

/-- Without a book a command that its state takes ends as well. -/
theorem Takes.terminalWithoutBook (takes : TakesCommand sha command state asOfMs) (reason : String)
    (status : Status) (quiet : status.fills = false) (terminal : status ≠ .WAIT) :
    ∃ step, Simulation.terminalWithoutBook sha command state asOfMs reason status = .ok step ∧
      step.outcome = (bookless sha command state asOfMs reason status).1 := by
  refine ⟨⟨_, (bookless sha command state asOfMs reason status).2, false⟩, ?_, rfl⟩
  have arrived : command.arrivalAtMs ≤ asOfMs := takes.arrived
  have ordered : state.lastArrivalAtMs ≤ command.arrivalAtMs := takes.ordered
  have assumed : state.assumptionsSha256.all
      (· = sha (.assumptions command.trade.admission.session.assumptions)) = true := by
    rw [Option.all_eq_true]
    exact fun digest mem => decide_eq_true (takes.assumed digest mem)
  have outcome : (bookless sha command state asOfMs reason status).1.checked =
      .ok (bookless sha command state asOfMs reason status).1 :=
    checked_eq_ok.2 ⟨(bookless_coherent quiet terminal (arrived.trans takes.bounded)).checked, rfl⟩
  have next : (bookless sha command state asOfMs reason status).2.validate =
      .ok (bookless sha command state asOfMs reason status).2 := by
    refine validate_eq_ok.2 ⟨coherent_iff.2 ?_, rfl⟩
    exact takes.coherent_next rfl rfl rfl rfl ⟨rfl, rfl, rfl, rfl, terminal⟩ takes.coherent.positive
      takes.coherent.unique takes.coherent.framed takes.coherent.updated
  have refused : ∀ error : Err, refuse false error = .ok () := fun _ => rfl
  unfold Simulation.terminalWithoutBook
  simp only [not_lt.2 arrived, not_lt.2 takes.clock, not_lt.2 ordered, assumed, not_true_eq_false,
    decide_false, refused, outcome, next, bind, Except.bind]
  rfl

omit [DecidableEq Digest] in
/-- A coherent outcome becomes a receipt; a fill needs the frame that it came from. -/
theorem commandReceipt_total (sha : Content → Digest) (command : SimulationCommand)
    {outcome : FillOutcome Digest} (c : OutcomeCoherent outcome) (frame : Option AcceptedBookFrame)
    (framed : 0 < outcome.filledQuantity → frame ≠ none) :
    ∃ receipt, commandReceipt sha command outcome frame = .ok receipt := by
  unfold commandReceipt
  dsimp only
  rw [if_neg c.terminal]
  split
  · rename_i filled
    rw [FloatContract.exact_value] at filled
    have average := c.average
    rw [if_neg filled.ne'] at average
    cases frame with
    | none => exact absurd rfl (framed filled)
    | some frame =>
      cases mid : outcome.arrivalMidPrice with
      | none => exact absurd mid (c.mid filled.ne')
      | some price =>
        rw [average]
        exact ⟨_, rfl⟩
  · exact ⟨_, rfl⟩

theorem fromModel_of_ok {α : Type} {x : Except Err α} {a : α} (h : x = .ok a) :
    fromModel x = .ok a := by
  rw [h]
  rfl

omit [DecidableEq Digest] in
/-- The frame that a repository loads is of the tape and the symbol that were asked for. -/
theorem latestBookFrame_own {r : Repository Digest} {tapeId symbol : String} {frame : AcceptedBookFrame}
    (h : r.latestBookFrame tapeId symbol asOfMs = some frame) :
    frame.tapeId = tapeId ∧ frame.symbol = symbol := by
  have folded : ∀ (frames : List AcceptedBookFrame) (first : AcceptedBookFrame),
      frames.foldl Repository.newer first ∈ first :: frames := by
    intro frames
    induction frames with
    | nil => exact fun first => List.mem_singleton.2 rfl
    | cons next frames ih =>
      intro first
      have chosen : Repository.newer first next = first ∨ Repository.newer first next = next := by
        unfold Repository.newer
        split
        · exact .inr rfl
        · exact .inl rfl
      rcases List.mem_cons.1 (ih (Repository.newer first next)) with here | later
      · rw [List.foldl_cons, here]
        rcases chosen with same | same <;> simp [same]
      · exact List.mem_cons_of_mem _ (List.mem_cons_of_mem _ later)
  unfold Repository.latestBookFrame at h
  dsimp only at h
  split at h
  · cases h
  · rename_i first frames eligible
    cases h
    have mem := folded frames first
    rw [← eligible] at mem
    have kept := (List.mem_filter.1 mem).2
    simp only [decide_eq_true_eq] at kept
    exact ⟨kept.1, kept.2.1⟩

/-- A prepared command that its liquidity state takes is evaluated to a receipt. -/
theorem evaluationOf_total {r : Repository Digest}
    (loaded : liquidityOf command (r.liquidity.get (command.trade.admission.session.sessionId,
      command.trade.admission.symbol)) = .ok state)
    (lineage : state.sessionId = command.trade.admission.session.sessionId ∧
      state.tapeId = command.trade.admission.session.tapeId ∧
      state.symbol = command.trade.admission.symbol)
    (takes : TakesCommand sha command state asOfMs) (fielded : Fielded r command) :
    ∃ receipt next, evaluationOf sha r command asOfMs = .ok (some (receipt, next)) := by
  have built : ∀ model, build true model = .ok () := fun _ => rfl
  have arrived : ¬asOfMs < command.arrivalAtMs := not_lt.2 takes.arrived
  have bounded : command.arrivalAtMs ≤ maxTimestamp := takes.arrived.trans takes.bounded
  have absent : state.receipts.any (·.commandId = command.commandId) = false := by
    have fresh : ∀ receipt ∈ state.receipts, receipt.commandId ≠ command.commandId := takes.fresh
    simpa using fresh
  have start : ∀ error, reject false error = .ok () := fun _ => rfl
  unfold evaluationOf
  simp only [fielded.assumed, fielded.commanded, built, loaded, bind, Except.bind, if_neg arrived, absent, start]
  split
  · obtain ⟨step, model, outcome⟩ := takes.terminalWithoutBook "COMMAND_EXPIRED" .NO_FILL
      rfl (fun same => by cases same)
    have coherent : OutcomeCoherent step.outcome := by
      rw [outcome]
      exact bookless_coherent rfl (fun same => by cases same) bounded
    obtain ⟨receipt, made⟩ := commandReceipt_total sha command coherent none
      fun filled => by rw [outcome] at filled; exact absurd filled (lt_irrefl _)
    simp only [fromModel_of_ok model, made]
    exact ⟨_, _, rfl⟩
  · rename_i current
    unfold evaluateOn
    cases found : r.latestBookFrame command.trade.admission.session.tapeId
        command.trade.admission.symbol command.arrivalAtMs with
    | none =>
      obtain ⟨step, model, outcome⟩ := takes.terminalWithoutBook "NO_ADMITTED_BOOK" .BLOCKED
        rfl (fun same => by cases same)
      have coherent : OutcomeCoherent step.outcome := by
        rw [outcome]
        exact bookless_coherent rfl (fun same => by cases same) bounded
      obtain ⟨receipt, made⟩ := commandReceipt_total sha command coherent none
        fun filled => by rw [outcome] at filled; exact absurd filled (lt_irrefl _)
      simp only [fromModel_of_ok model, made, bind, Except.bind]
      exact ⟨_, _, rfl⟩
    | some frame =>
      obtain ⟨tape, symbol⟩ := latestBookFrame_own found
      obtain ⟨step, model, outcome⟩ := takes.simulateIoc frame ⟨lineage.1.symm, lineage.2.2.symm⟩
        ⟨tape.trans lineage.2.1.symm, symbol.trans lineage.2.2.symm⟩
      have coherent : OutcomeCoherent step.outcome := by
        rw [outcome]
        exact takes.judge_coherent frame
      obtain ⟨receipt, made⟩ := commandReceipt_total sha command coherent (some frame) (fun _ => (by simp))
      simp only [fielded.framed (not_lt.1 current) frame found, built, fromModel_of_ok model, made, bind, Except.bind]
      exact ⟨_, _, rfl⟩

end Command

end KairosExecution.Simulation
