import KairosExecution.Simulation.Run
import KairosExecution.Simulation.Steps

/-! The evaluation of a prepared command. Where it returns a receipt, the command had
arrived, was new to its liquidity state and not behind it; the receipt is dated at the
arrival and fills at most what was asked for; and the next state differs from the one
before by that one command. -/

namespace KairosExecution.Simulation

open Python Interactive

variable {Digest : Type} {sha : Content → Digest}

section Outcome

/-- What `coherent_outcome` says of quantities. -/
structure Quantities (o : FillOutcome Digest) : Prop where
  nonneg : 0 ≤ o.filledQuantity
  le : o.filledQuantity ≤ o.requestedQuantity
  fills : o.status.fills = true ↔ 0 < o.filledQuantity
  average : o.averagePrice = none ↔ o.filledQuantity = 0

/-- What a receipt says of its command. -/
structure ReceiptFacts (command : SimulationCommand) (receipt : SimulationReceipt Digest) : Prop where
  id : receipt.commandId = command.commandId
  arrival : receipt.arrivalAtMs = command.arrivalAtMs
  nonneg : 0 ≤ receipt.filledQuantity
  le : receipt.filledQuantity ≤ command.quantity
  fills : receipt.status.fills = true ↔ 0 < receipt.filledQuantity
  average : receipt.averagePrice = none ↔ receipt.filledQuantity = 0

theorem quantities_of_coherent {o : FillOutcome Digest} (coherent : o.coherent = .ok ())
    (requested : 0 < o.requestedQuantity) : Quantities o := by
  obtain ⟨_, _, h⟩ := bind_eq_ok.1 coherent
  obtain ⟨_, _, h⟩ := bind_eq_ok.1 h
  obtain ⟨_, totals, h⟩ := bind_eq_ok.1 h
  obtain ⟨_, _, h⟩ := bind_eq_ok.1 h
  obtain ⟨_, _, h⟩ := bind_eq_ok.1 h
  obtain ⟨_, full, h⟩ := bind_eq_ok.1 h
  obtain ⟨_, part, h⟩ := bind_eq_ok.1 h
  obtain ⟨_, none', h⟩ := bind_eq_ok.1 h
  obtain ⟨_, _, h⟩ := bind_eq_ok.1 h
  obtain ⟨_, average, h⟩ := bind_eq_ok.1 h
  simp only [refuse_eq_ok, decide_eq_false_iff_not, not_or, not_not, not_and] at totals full part none' average
  obtain ⟨quantity, -⟩ := totals
  rw [quantity] at full part none' average
  have averaged : o.averagePrice = none ↔ o.filledQuantity = 0 := by
    rw [average]
    split <;> simp_all
  cases status : o.status with
  | FILLED =>
    have all := full status
    have positive : 0 < o.filledQuantity := by
      rw [all]
      exact requested
    exact ⟨positive.le, all.le, by simp [status, Status.fills, positive], averaged⟩
  | PARTIAL =>
    have some : 0 < o.filledQuantity ∧ o.filledQuantity < o.requestedQuantity := by
      have partly := part status
      tauto
    exact ⟨some.1.le, some.2.le, by simp [status, Status.fills, some.1], averaged⟩
  | WAIT =>
    have zero := none' (.inl status)
    exact ⟨zero.ge, by linarith, by simp [status, Status.fills, zero], averaged⟩
  | NO_FILL =>
    have zero := none' (.inr (.inl status))
    exact ⟨zero.ge, by linarith, by simp [status, Status.fills, zero], averaged⟩
  | BLOCKED =>
    have zero := none' (.inr (.inr status))
    exact ⟨zero.ge, by linarith, by simp [status, Status.fills, zero], averaged⟩

theorem commandReceipt_facts {command : SimulationCommand} {outcome : FillOutcome Digest}
    {frame : Option AcceptedBookFrame} {receipt : SimulationReceipt Digest}
    (h : commandReceipt sha command outcome frame = .ok receipt) (quantities : Quantities outcome)
    (requested : outcome.requestedQuantity = command.quantity)
    (arrival : outcome.arrivalAtMs = command.arrivalAtMs) : ReceiptFacts command receipt := by
  obtain ⟨nonneg, le, fills, average⟩ := quantities
  rw [requested] at le
  unfold commandReceipt at h
  dsimp only at h
  split at h
  · cases h
  split at h
  · rename_i filled
    rw [FloatContract.exact_value] at filled
    split at h
    · cases h
    · cases h
    · cases h
    · cases h
      exact ⟨rfl, arrival, nonneg, le, fills, by simp [filled.ne']⟩
  · rename_i unfilled
    cases h
    have zero : outcome.filledQuantity = 0 := le_antisymm (not_lt.1 unfilled) nonneg
    rw [zero] at fills
    exact ⟨rfl, arrival, le_refl _, command.quantity_pos.le, fills, by simp⟩

end Outcome

section Judged

variable [DecidableEq Digest] {command : SimulationCommand} {state : LiquidityState Digest}
  {asOfMs : ℕ}

/-- What one command that has ended does to its liquidity state. -/
structure Advanced (sha : Content → Digest) (command : SimulationCommand) (asOfMs : ℕ)
    (state next : LiquidityState Digest) : Prop where
  ordered : state.lastArrivalAtMs ≤ command.arrivalAtMs
  clock : state.lastAsOfMs ≤ asOfMs
  coherent : next.coherent = .ok ()
  session : next.sessionId = state.sessionId ∧ next.tapeId = state.tapeId ∧ next.symbol = state.symbol
  arrival : next.lastArrivalAtMs = command.arrivalAtMs
  asOf : next.lastAsOfMs = asOfMs
  assumed : next.assumptionsSha256 =
    some (sha (.assumptions command.trade.admission.session.assumptions))
  receipts : next.receipts.map (·.commandId) = state.receipts.map (·.commandId) ++ [command.commandId]

theorem terminalWithoutBook_advanced {reason : String} {status : Status} {step : ModelStep Digest}
    (h : terminalWithoutBook sha command state asOfMs reason status = .ok step) :
    Advanced sha command asOfMs state step.state ∧
      step.outcome = (bookless sha command state asOfMs reason status).1 ∧
      step.outcome.coherent = .ok () := by
  obtain ⟨_, _, h⟩ := bind_eq_ok.1 h
  obtain ⟨_, clock, h⟩ := bind_eq_ok.1 h
  obtain ⟨_, ordered, h⟩ := bind_eq_ok.1 h
  obtain ⟨_, _, h⟩ := bind_eq_ok.1 h
  obtain ⟨outcome, checked, h⟩ := bind_eq_ok.1 h
  obtain ⟨next, valid, h⟩ := bind_eq_ok.1 h
  obtain ⟨sound, rfl⟩ := checked_eq_ok.1 checked
  obtain ⟨coherent, rfl⟩ := validate_eq_ok.1 valid
  simp only [refuse_eq_ok, decide_eq_false_iff_not, not_lt] at clock ordered
  cases h
  refine ⟨⟨ordered, clock, coherent, ⟨rfl, rfl, rfl⟩, rfl, rfl, rfl, ?_⟩, rfl, sound⟩
  show (state.receipts ++ [_]).map _ = _
  rw [List.map_append]
  rfl

theorem judge_fields (sha : Content → Digest) (kernel : IOCCommand) (frame : AcceptedBookFrame) (policy : FillAssumptions)
    (state : LiquidityState Digest) (asOfMs : ℕ) :
    (judge sha kernel frame policy state asOfMs).1.arrivalAtMs = arrivalOf kernel policy ∧
      (judge sha kernel frame policy state asOfMs).1.requestedQuantity = kernel.quantity := by
  unfold judge
  dsimp only
  split
  · exact ⟨rfl, rfl⟩
  · split <;> exact ⟨rfl, rfl⟩

theorem ended_fields (sha : Content → Digest) (kernel : IOCCommand) (frame : AcceptedBookFrame) (policy : FillAssumptions)
    (state : LiquidityState Digest) (asOfMs : ℕ) :
    let next := ended sha kernel frame policy state asOfMs
    (next.sessionId = state.sessionId ∧ next.tapeId = state.tapeId ∧ next.symbol = state.symbol) ∧
      next.lastArrivalAtMs = arrivalOf kernel policy ∧ next.lastAsOfMs = asOfMs ∧
      next.assumptionsSha256 = some (sha (.assumptions policy)) := by
  unfold ended judge
  dsimp only
  split
  · exact ⟨⟨rfl, rfl, rfl⟩, rfl, rfl, rfl⟩
  · split <;> exact ⟨⟨rfl, rfl, rfl⟩, rfl, rfl, rfl⟩

/-- A call of the kernel for a command that is new to its state and has arrived. -/
theorem simulateIoc_advanced {frame : AcceptedBookFrame} {step : ModelStep Digest}
    (fresh : ∀ receipt ∈ state.receipts, receipt.commandId ≠ command.commandId)
    (arrived : command.arrivalAtMs ≤ asOfMs)
    (h : simulateIoc sha (kernelCommand command) frame command.trade.admission.session.assumptions
      state asOfMs = .ok step) :
    Advanced sha command asOfMs state step.state ∧ Quantities step.outcome ∧
      step.outcome.requestedQuantity = command.quantity ∧
      step.outcome.arrivalAtMs = command.arrivalAtMs := by
  obtain ⟨admitted, served⟩ := simulateIoc_ok h
  cases served with
  | replayed receipt mem id => exact absurd id (fresh receipt mem)
  | waiting _ early => exact absurd arrived (not_le.2 early)
  | ended _ _ ordered _ sound valid =>
    have fields := ended_fields sha (kernelCommand command) frame
      command.trade.admission.session.assumptions state asOfMs
    obtain ⟨arrival, requested⟩ := judge_fields sha (kernelCommand command) frame
      command.trade.admission.session.assumptions state asOfMs
    have positive : 0 < (judge sha (kernelCommand command) frame
        command.trade.admission.session.assumptions state asOfMs).1.requestedQuantity := by
      rw [requested]
      exact command.quantity_pos
    refine ⟨⟨ordered, admitted.clock, (validate_eq_ok.1 valid).1, fields.1, fields.2.1, fields.2.2.1,
      fields.2.2.2, ?_⟩, quantities_of_coherent sound positive, requested, arrival⟩
    show (state.receipts ++ [_]).map _ = _
    rw [List.map_append]
    rfl

/-- What the models of the kernel demand of a prepared command, of the assumptions of its session and,
unless it has expired, of the book at its arrival. -/
structure Fielded (r : Repository Digest) (command : SimulationCommand) : Prop where
  assumed : Arithmetic.assumptionFields command.trade.admission.session.assumptions = true
  commanded : Arithmetic.commandFields (kernelCommand command) = true
  framed : command.arrivalAtMs ≤ command.expiresAtMs → ∀ frame, r.latestBookFrame
    command.trade.admission.session.tapeId command.trade.admission.symbol command.arrivalAtMs =
      some frame → Arithmetic.frameFields frame = true

/-- A command whose evaluation returned a receipt: its state before, and what came of it. -/
structure EvaluatedTo (sha : Content → Digest) (r : Repository Digest) (command : SimulationCommand)
    (asOfMs : ℕ) (receipt : SimulationReceipt Digest) (state next : LiquidityState Digest) : Prop where
  loaded : liquidityOf command (r.liquidity.get (command.trade.admission.session.sessionId,
    command.trade.admission.symbol)) = .ok state
  arrived : command.arrivalAtMs ≤ asOfMs
  fresh : ∀ receipt ∈ state.receipts, receipt.commandId ≠ command.commandId
  advanced : Advanced sha command asOfMs state next
  facts : ReceiptFacts command receipt
  fielded : Fielded r command

theorem fromModel_ok {α : Type} {x : Except Err α} {a : α} :
    fromModel x = .ok a ↔ x = .ok a := by
  cases x <;> simp [fromModel]

theorem evaluationOf_some {r : Repository Digest} {receipt : SimulationReceipt Digest}
    {next : LiquidityState Digest}
    (h : evaluationOf sha r command asOfMs = .ok (some (receipt, next))) :
    ∃ state, EvaluatedTo sha r command asOfMs receipt state next := by
  obtain ⟨_, assumed, h⟩ := bind_eq_ok.1 h
  obtain ⟨state, loaded, h⟩ := bind_eq_ok.1 h
  obtain ⟨_, commanded, h⟩ := bind_eq_ok.1 h
  rw [build_eq_ok] at assumed commanded
  refine ⟨state, ?_⟩
  by_cases early : asOfMs < command.arrivalAtMs
  · rw [if_pos early] at h
    cases h
  rw [if_neg early] at h
  obtain ⟨_, absent, h⟩ := bind_eq_ok.1 h
  have arrived := not_lt.1 early
  have fresh : ∀ receipt ∈ state.receipts, receipt.commandId ≠ command.commandId := by
    simpa using absent
  -- a command without a book has its quantity cancelled as a whole
  have booked : ∀ {reason status frame step receipt'}, status.fills = false →
      terminalWithoutBook sha command state asOfMs reason status = .ok step →
      commandReceipt sha command step.outcome frame = .ok receipt' → Fielded r command →
      EvaluatedTo sha r command asOfMs receipt' state step.state := by
    intro reason status frame step receipt' quiet model made fielded
    obtain ⟨advanced, outcome, -⟩ := terminalWithoutBook_advanced model
    refine ⟨loaded, arrived, fresh, advanced, commandReceipt_facts made ?_ ?_ ?_, fielded⟩
    · rw [outcome]
      exact ⟨le_refl _, command.quantity_pos.le, by simp [bookless, quiet], by simp [bookless]⟩
    · rw [outcome]
      rfl
    · rw [outcome]
      rfl
  by_cases expired : command.arrivalAtMs > command.expiresAtMs
  · rw [if_pos expired] at h
    obtain ⟨step, model, h⟩ := bind_eq_ok.1 h
    obtain ⟨receipt', made, h⟩ := bind_eq_ok.1 h
    cases h
    exact booked rfl (fromModel_ok.1 model) made
      ⟨assumed, commanded, fun current => absurd current (not_le.2 expired)⟩
  rw [if_neg expired] at h
  obtain ⟨evaluated, on, h⟩ := bind_eq_ok.1 h
  cases h
  unfold evaluateOn at on
  cases found : r.latestBookFrame command.trade.admission.session.tapeId
      command.trade.admission.symbol command.arrivalAtMs with
  | none =>
    rw [found] at on
    obtain ⟨step, model, on⟩ := bind_eq_ok.1 on
    obtain ⟨receipt', made, on⟩ := bind_eq_ok.1 on
    cases on
    refine booked rfl (fromModel_ok.1 model) made ⟨assumed, commanded, fun _ frame same => ?_⟩
    rw [found] at same
    cases same
  | some frame =>
    rw [found] at on
    obtain ⟨_, framed, on⟩ := bind_eq_ok.1 on
    rw [build_eq_ok] at framed
    obtain ⟨step, model, on⟩ := bind_eq_ok.1 on
    obtain ⟨receipt', made, on⟩ := bind_eq_ok.1 on
    cases on
    obtain ⟨advanced, quantities, requested, arrival⟩ :=
      simulateIoc_advanced fresh arrived (fromModel_ok.1 model)
    refine ⟨loaded, arrived, fresh, advanced, commandReceipt_facts made quantities requested arrival,
      assumed, commanded, fun _ frame' same => ?_⟩
    cases found.symm.trans same
    exact framed

end Judged

end KairosExecution.Simulation
