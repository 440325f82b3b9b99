import KairosExecution.Paper.Duty.Engine

/-! The durable rows behind the repositories, as far as the engine relies on them. A
read answers what is stored; a write that was acknowledged is stored, and one that was
not may or may not be. Rows are never removed, the terms of a trade never change, and
only a prepare makes a journal row, once. -/

namespace KairosExecution.Paper

open Python Interactive

/-- The trade rows by trade id, and the journal rows by effect key. -/
structure Durable where
  trades : String → Option TradeRecord
  effects : String → Option ExecutionEffect

namespace Durable

def empty : Durable := ⟨fun _ => none, fun _ => none⟩

def putTrade (s : Durable) (id : String) (record : TradeRecord) : Durable :=
  { s with trades := Function.update s.trades id (some record) }

def putEffect (s : Durable) (key : String) (effect : ExecutionEffect) : Durable :=
  { s with effects := Function.update s.effects key (some effect) }

@[simp] theorem putTrade_trades (s : Durable) (id other : String) (record : TradeRecord) :
    (s.putTrade id record).trades other = if other = id then some record else s.trades other := by
  simp [putTrade, Function.update_apply]

@[simp] theorem putTrade_effects (s : Durable) (id : String) (record : TradeRecord) :
    (s.putTrade id record).effects = s.effects := rfl

@[simp] theorem putEffect_trades (s : Durable) (key : String) (effect : ExecutionEffect) :
    (s.putEffect key effect).trades = s.trades := rfl

@[simp] theorem putEffect_effects (s : Durable) (key other : String) (effect : ExecutionEffect) :
    (s.putEffect key effect).effects other = if other = key then some effect else s.effects other := by
  simp [putEffect, Function.update_apply]

/-- The creation of a trade that is not there yet. -/
def Creates (s : Durable) (trade : NewTrade) (record : TradeRecord) (s' : Durable) : Prop :=
  s.trades trade.tradeId = none ∧ record.toNewTrade = trade ∧ record.state = .RECEIVED ∧
    s' = s.putTrade trade.tradeId record

/-- A transition of a stored trade; its terms stay. -/
def Moves (s : Durable) (request : TransitionRequest) (record : TradeRecord) (s' : Durable) : Prop :=
  ∃ old, s.trades request.tradeId = some old ∧ record.toNewTrade = old.toNewTrade ∧
    record.state = request.target ∧ s' = s.putTrade request.tradeId record

/-- A journal row that is there is rewritten. -/
def Rewrites (s : Durable) (key : String) (s' : Durable) : Prop :=
  s' = s ∨ ∃ old effect, s.effects key = some old ∧ s' = s.putEffect key effect

/-- What one event may do to the rows, and what its answer tells of them. -/
def Step (s : Durable) (e : EngineEvent) (s' : Durable) : Prop :=
  match e with
  | ⟨.getTrade id, o⟩ => s' = s ∧
      ∀ found, o = some (.ok found) → s.trades id = found.map Subtype.val
  | ⟨.tradesRecoveryRequired environment accountId, o⟩ => s' = s ∧
      ∀ rows, o = some (.ok rows) → ∀ record, record ∈ rows ↔
        (∃ id, s.trades id = some record) ∧ record.environment = environment ∧
          record.accountId = accountId ∧ record.state.terminal = false
  | ⟨.createTrade trade _ _, some (.ok result)⟩ =>
      (s' = s ∧ s.trades trade.tradeId = some result.1.trade) ∨ s.Creates trade result.1.trade s'
  | ⟨.createTrade trade _ _, _⟩ => s' = s ∨ ∃ record, s.Creates trade record s'
  | ⟨.transition request, some (.ok moved)⟩ => s.Moves request moved.1.trade s'
  | ⟨.transition request, _⟩ => s' = s ∨ ∃ record, s.Moves request record s'
  | ⟨.getEffect key, o⟩ => s' = s ∧ ∀ found, o = some (.ok found) → s.effects key = found
  | ⟨.prepare request, some (.ok preparation)⟩ =>
      if preparation.created then s.effects request.effectKey = none ∧
        s' = s.putEffect request.effectKey preparation.effect
      else s' = s ∧ s.effects request.effectKey = some preparation.effect
  | ⟨.prepare request, _⟩ => s' = s ∨ ∃ effect,
      s.effects request.effectKey = none ∧ s' = s.putEffect request.effectKey effect
  | ⟨.confirm key _ _, _⟩ => s.Rewrites key s'
  | ⟨.reconcileEffect key _ _, _⟩ => s.Rewrites key s'
  | _ => s' = s

/-- The changes that one event can make to the trade rows. -/
inductive TradeChange (s : Durable) (e : EngineEvent) (s' : Durable) : Prop
  | kept (same : s'.trades = s.trades)
  | created (trade : NewTrade) (factKey : String) (build : FactBuild) (record : TradeRecord)
      (call : e.call = .createTrade trade factKey build) (creates : s.Creates trade record s')
  | moved (request : TransitionRequest) (record : TradeRecord)
      (call : e.call = .transition request) (moves : s.Moves request record s')

theorem Step.tradeChange {s s' : Durable} {e : EngineEvent} (step : s.Step e s') :
    TradeChange s e s' := by
  have rewrites : ∀ key, s.Rewrites key s' → TradeChange s e s' := by
    rintro key (rfl | ⟨old, effect, -, rfl⟩)
    · exact .kept rfl
    · exact .kept rfl
  obtain ⟨c, o⟩ := e
  cases c with
  | getTrade id => exact .kept (by rw [step.1])
  | tradesRecoveryRequired environment accountId => exact .kept (by rw [step.1])
  | getEffect key => exact .kept (by rw [step.1])
  | confirm key exchangeId payload => exact rewrites key step
  | reconcileEffect key exchangeId payload => exact rewrites key step
  | createTrade trade factKey build =>
    rcases o with _ | _ | result
    · rcases step with rfl | ⟨record, creates⟩
      · exact .kept rfl
      · exact .created trade factKey build record rfl creates
    · rcases step with rfl | ⟨record, creates⟩
      · exact .kept rfl
      · exact .created trade factKey build record rfl creates
    · rcases step with ⟨rfl, -⟩ | creates
      · exact .kept rfl
      · exact .created trade factKey build _ rfl creates
  | transition request =>
    rcases o with _ | _ | moved
    · rcases step with rfl | ⟨record, moves⟩
      · exact .kept rfl
      · exact .moved request record rfl moves
    · rcases step with rfl | ⟨record, moves⟩
      · exact .kept rfl
      · exact .moved request record rfl moves
    · exact .moved request _ rfl step
  | prepare request =>
    rcases o with _ | _ | preparation
    · rcases step with rfl | ⟨effect, -, rfl⟩ <;> exact .kept rfl
    · rcases step with rfl | ⟨effect, -, rfl⟩ <;> exact .kept rfl
    · dsimp only [Step] at step
      split at step
      · exact .kept (by rw [step.2]; rfl)
      · exact .kept (by rw [step.1])
  | _ => exact .kept (by rw [show s' = s from step])

/-- The changes that one event can make to the journal rows. -/
inductive EffectChange (s : Durable) (e : EngineEvent) (s' : Durable) : Prop
  | kept (same : s'.effects = s.effects)
  | prepared (request : PrepareRequest) (effect : ExecutionEffect)
      (call : e.call = .prepare request) (fresh : s.effects request.effectKey = none)
      (put : s' = s.putEffect request.effectKey effect)
  | rewritten (key : String) (old effect : ExecutionEffect) (present : s.effects key = some old)
      (put : s' = s.putEffect key effect)

theorem Step.effectChange {s s' : Durable} {e : EngineEvent} (step : s.Step e s') :
    EffectChange s e s' := by
  have rewrites : ∀ key, s.Rewrites key s' → EffectChange s e s' := by
    rintro key (rfl | ⟨old, effect, present, rfl⟩)
    · exact .kept rfl
    · exact .rewritten key old effect present rfl
  obtain ⟨c, o⟩ := e
  cases c with
  | getTrade id => exact .kept (by rw [step.1])
  | tradesRecoveryRequired environment accountId => exact .kept (by rw [step.1])
  | getEffect key => exact .kept (by rw [step.1])
  | confirm key exchangeId payload => exact rewrites key step
  | reconcileEffect key exchangeId payload => exact rewrites key step
  | createTrade trade factKey build =>
    rcases o with _ | _ | result
    · rcases step with rfl | ⟨record, -, -, -, rfl⟩ <;> exact .kept rfl
    · rcases step with rfl | ⟨record, -, -, -, rfl⟩ <;> exact .kept rfl
    · rcases step with ⟨rfl, -⟩ | ⟨-, -, -, rfl⟩ <;> exact .kept rfl
  | transition request =>
    rcases o with _ | _ | moved
    · rcases step with rfl | ⟨record, old, -, -, -, rfl⟩ <;> exact .kept rfl
    · rcases step with rfl | ⟨record, old, -, -, -, rfl⟩ <;> exact .kept rfl
    · obtain ⟨old, -, -, -, rfl⟩ := step
      exact .kept rfl
  | prepare request =>
    rcases o with _ | _ | preparation
    · rcases step with rfl | ⟨effect, fresh, rfl⟩
      · exact .kept rfl
      · exact .prepared request effect rfl fresh rfl
    · rcases step with rfl | ⟨effect, fresh, rfl⟩
      · exact .kept rfl
      · exact .prepared request effect rfl fresh rfl
    · dsimp only [Step] at step
      split at step
      · exact .prepared request preparation.effect rfl step.1 step.2
      · exact .kept (by rw [step.1])
  | _ => exact .kept (by rw [show s' = s from step])

/-- A journal row stays. -/
theorem Step.row {s s' : Durable} {e : EngineEvent} (step : s.Step e s') {key : String}
    (present : s.effects key ≠ none) : s'.effects key ≠ none := by
  cases step.effectChange with
  | kept same => rw [same]; exact present
  | prepared request effect call fresh put =>
    rw [put, putEffect_effects]
    split
    · exact Option.some_ne_none _
    · exact present
  | rewritten other old effect _ put =>
    rw [put, putEffect_effects]
    split
    · exact Option.some_ne_none _
    · exact present

end Durable

/-- The rows after the events of a session that started with none. -/
abbrev Stores (h : EngineHistory) (s : Durable) : Prop := Follows Durable.Step .empty h s

namespace Stores

variable {h : EngineHistory} {s : Durable}

/-- An acknowledged prepare leaves a row that stays. -/
theorem row_of_prepared (stores : Stores h s) {request : PrepareRequest}
    {preparation : EffectPreparation} (prepared : answered (.prepare request) preparation ∈ h) :
    s.effects request.effectKey ≠ none := by
  obtain ⟨l, k, rfl⟩ := List.append_of_mem prepared
  refine Follows.through (P := fun s => s.effects request.effectKey ≠ none) stores ?_
    fun e _ _ _ present step => step.row present
  intro before stores'
  cases stores' with
  | next _ step =>
    dsimp only [Durable.Step] at step
    split at step
    · rw [step.2, Durable.putEffect_effects, if_pos rfl]
      exact Option.some_ne_none _
    · rw [step.1, step.2]
      exact Option.some_ne_none _

end Stores

/-- A serial session of the engine over durable rows, from none on. -/
structure Session (env : Env) (h : EngineHistory) (s : Durable) : Prop where
  serial : Serial (EngineCall env) h
  stores : Stores h s

namespace Session

variable {env : Env} {h : EngineHistory} {s : Durable}

/-- Every event of a session met its duty, on the events of its own call. -/
theorem owed (session : Session env h s) {l k : EngineHistory} {e : EngineEvent}
    (eq : h = l ++ e :: k) :
    ∃ own older handled, k = own ++ older ∧ Justified env handled own e.call := by
  obtain ⟨own, older, rfl, -, handled, justified⟩ :=
    session.serial.duty (fun _ call => call.dutiful) eq
  exact ⟨own, older, handled, rfl, justified⟩

end Session

end KairosExecution.Paper
