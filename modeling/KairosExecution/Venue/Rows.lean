import KairosExecution.Interactive.Law
import KairosExecution.Venue.Journaled

/-! The effect journal: rows by key, each prepared once and settled later. An operation that is
answered has committed, one that raises has not, and one that is lost may have. A lock that
is released is released without an exception. -/

namespace KairosExecution.Venue

open Python Interactive

abbrev Rows := List ExecutionEffect

abbrev JournaledEvent := Event journaled Err

namespace Rows

/-- The row of a key. -/
def row (rows : Rows) (key : String) : Option ExecutionEffect := rows.find? (·.effectKey = key)

/-- The row that a preparation makes. -/
def prepared (p : Preparation) : ExecutionEffect where
  effectKey := p.effectKey
  effectType := p.effectType
  symbol := p.symbol
  clientOrderId := p.clientOrderId
  request := p.request
  status := .PREPARED
  exchangeEffectId := none
  response := none
  error := none

/-- `prepare`: a new row, or the one that is there where it is of the same request. -/
def prepare (rows : Rows) (p : Preparation) : Except Err (Rows × EffectPreparation) :=
  match rows.row p.effectKey with
  | none => .ok (rows ++ [prepared p], ⟨prepared p, true⟩)
  | some effect =>
    if effect.request = p.request then .ok (rows, ⟨effect, false⟩)
    else .error (.raised "MessageIdentityConflict" p.effectKey)

/-- A row as it is settled. -/
def settled (status : EffectStatus) (exchangeEffectId : Option Value) (response : Response)
    (effect : ExecutionEffect) : ExecutionEffect :=
  { effect with
    status
    exchangeEffectId := exchangeEffectId.or effect.exchangeEffectId
    response := some response }

/-- `confirm` and `reconcile`, by the status. -/
def settle (rows : Rows) (key : String) (status : EffectStatus) (exchangeEffectId : Option Value)
    (response : Response) : Rows :=
  rows.map fun effect =>
    if effect.effectKey = key then settled status exchangeEffectId response effect else effect

def recoveryRequired (rows : Rows) : List ExecutionEffect := rows.filter (·.status.unresolved)

/-- What an event does to the journal. -/
def step (rows : Rows) : JournaledEvent → Rows → Prop
  | ⟨.prepare p, some (.ok preparation)⟩, rows' => rows.prepare p = .ok (rows', preparation)
  | ⟨.prepare p, none⟩, rows' => rows' = rows ∨ ∃ preparation, rows.prepare p = .ok (rows', preparation)
  | ⟨.confirm key id response, some (.ok _)⟩, rows' => rows' = rows.settle key .CONFIRMED (some id) response
  | ⟨.confirm key id response, none⟩, rows' =>
    rows' = rows ∨ rows' = rows.settle key .CONFIRMED (some id) response
  | ⟨.reconcile key id response, some (.ok _)⟩, rows' => rows' = rows.settle key .RECONCILED id response
  | ⟨.reconcile key id response, none⟩, rows' =>
    rows' = rows ∨ rows' = rows.settle key .RECONCILED id response
  | ⟨.recoveryRequired, some (.ok effects)⟩, rows' => rows' = rows ∧ effects = rows.recoveryRequired
  | ⟨.unlock _, some (.error _)⟩, _ => False
  | _, rows' => rows' = rows

/-- A call settles the row of a key, or may have where it was cut. -/
def MaySettle (key : String) : JournaledEvent → Prop
  | ⟨.confirm _ _ _, some (.error _)⟩ | ⟨.reconcile _ _ _, some (.error _)⟩ => False
  | ⟨.confirm other _ _, _⟩ | ⟨.reconcile other _ _, _⟩ => other = key
  | _ => False

variable {rows rows' : Rows} {key : String}

theorem row_prepared (p : Preparation) (free : rows.row p.effectKey = none) (other : String) :
    Rows.row (rows ++ [prepared p]) other =
      if other = p.effectKey then some (prepared p) else rows.row other := by
  unfold row at free ⊢
  rw [List.find?_append]
  by_cases same : other = p.effectKey
  · subst same
    simp [free, prepared]
  · have apart : ¬p.effectKey = other := fun eq => same eq.symm
    simp [same, prepared, apart]

theorem row_key {effect : ExecutionEffect} (found : rows.row key = some effect) :
    effect.effectKey = key := by
  have holds := List.find?_some found
  exact of_decide_eq_true holds

theorem row_mem {effect : ExecutionEffect} (found : rows.row key = some effect) : effect ∈ rows :=
  List.mem_of_find?_eq_some found

/-- Where the keys are distinct, every row is found by its key. -/
theorem row_of_mem (distinct : (rows.map (·.effectKey)).Nodup) {effect : ExecutionEffect}
    (mem : effect ∈ rows) : rows.row effect.effectKey = some effect := by
  unfold row
  induction rows with
  | nil => cases mem
  | cons first rows ih =>
    rw [List.map_cons, List.nodup_cons] at distinct
    rw [List.find?_cons]
    rcases List.mem_cons.1 mem with rfl | later
    · simp
    · have apart : first.effectKey ≠ effect.effectKey := fun eq =>
        distinct.1 (eq ▸ List.mem_map_of_mem later)
      simpa [apart] using ih distinct.2 later

theorem row_none (free : rows.row key = none) : ∀ effect ∈ rows, effect.effectKey ≠ key := by
  rintro effect inside rfl
  have none := List.find?_eq_none.1 free effect inside
  simp at none

theorem settle_keys (status : EffectStatus) (id : Option Value) (response : Response) :
    (rows.settle key status id response).map (·.effectKey) = rows.map (·.effectKey) := by
  rw [settle, List.map_map]
  apply List.map_congr_left
  intro effect mem
  by_cases own : effect.effectKey = key <;> simp [own, settled]

theorem row_settle (status : EffectStatus) (id : Option Value) (response : Response) (other : String) :
    (rows.settle key status id response).row other =
      if other = key then (rows.row key).map (settled status id response) else rows.row other := by
  unfold row settle
  induction rows with
  | nil => simp
  | cons effect rows ih =>
    rw [List.map_cons, List.find?_cons, List.find?_cons, List.find?_cons]
    by_cases own : effect.effectKey = key
    · subst own
      by_cases same : other = effect.effectKey
      · subst same
        simp [settled]
      · have apart : ¬effect.effectKey = other := fun eq => same eq.symm
        simpa [settled, same, apart] using ih
    · by_cases same : effect.effectKey = other
      · subst same
        simp [own]
      · simpa [own, same] using ih

/-- A preparation that commits. -/
theorem prepare_ok {p : Preparation} {preparation : EffectPreparation}
    (ok : rows.prepare p = .ok (rows', preparation)) :
    (rows.row p.effectKey = none ∧ rows' = rows ++ [prepared p] ∧ preparation = ⟨prepared p, true⟩) ∨
    ∃ effect, rows.row p.effectKey = some effect ∧ effect.request = p.request ∧ rows' = rows ∧
      preparation = ⟨effect, false⟩ := by
  unfold prepare at ok
  split at ok
  next free =>
    cases ok
    exact .inl ⟨free, rfl, rfl⟩
  next effect found =>
    split at ok
    next same =>
      cases ok
      exact .inr ⟨effect, found, same, rfl, rfl⟩
    next => cases ok

/-- What an event can do to the journal. -/
theorem step_cases {e : JournaledEvent} (moved : step rows e rows') :
    rows' = rows ∨
    (∃ p, rows.row p.effectKey = none ∧ rows' = rows ++ [prepared p]) ∨
    ∃ key status id response, status.unresolved = false ∧ rows' = rows.settle key status id response ∧
      MaySettle key e := by
  obtain ⟨call, o⟩ := e
  cases call with
  | prepare p =>
    have commits {preparation : EffectPreparation} (ok : rows.prepare p = .ok (rows', preparation)) :
        rows' = rows ∨ rows.row p.effectKey = none ∧ rows' = rows ++ [prepared p] := by
      rcases prepare_ok ok with ⟨free, same, _⟩ | ⟨_, _, _, same, _⟩
      · exact .inr ⟨free, same⟩
      · exact .inl same
    have either : rows' = rows ∨ rows.row p.effectKey = none ∧ rows' = rows ++ [prepared p] := by
      rcases o with _ | e | preparation
      · rcases moved with same | ⟨_, ok⟩
        · exact .inl same
        · exact commits ok
      · exact .inl moved
      · exact commits moved
    exact either.imp_right fun ⟨free, same⟩ => .inl ⟨p, free, same⟩
  | confirm key id response =>
    rcases o with _ | e | a
    · rcases moved with same | same
      · exact .inl same
      · exact .inr (.inr ⟨key, _, _, _, rfl, same, rfl⟩)
    · exact .inl moved
    · exact .inr (.inr ⟨key, _, _, _, rfl, moved, rfl⟩)
  | reconcile key id response =>
    rcases o with _ | e | a
    · rcases moved with same | same
      · exact .inl same
      · exact .inr (.inr ⟨key, _, _, _, rfl, same, rfl⟩)
    · exact .inl moved
    · exact .inr (.inr ⟨key, _, _, _, rfl, moved, rfl⟩)
  | recoveryRequired =>
    rcases o with _ | e | a
    · exact .inl moved
    · exact .inl moved
    · exact .inl moved.1
  | lock key => rcases o with _ | e | a <;> exact .inl moved
  | unlock key =>
    rcases o with _ | e | a
    · exact .inl moved
    · exact moved.elim
    · exact .inl moved
  | venue c => rcases o with _ | e | a <;> exact .inl moved

/-- A journal that answers every call, and a venue that answers as it is given. -/
def keeper (venue : (c : VenueCall) → Except Err c.Answer) : Handler journaled Err Rows
  | rows, .prepare p =>
    match rows.prepare p with
    | .ok (rows', preparation) => (.ok preparation, rows')
    | .error e => (.error e, rows)
  | rows, .confirm key id response => (.ok (), rows.settle key .CONFIRMED (some id) response)
  | rows, .reconcile key id response => (.ok (), rows.settle key .RECONCILED id response)
  | rows, .recoveryRequired => (.ok rows.recoveryRequired, rows)
  | rows, .lock _ | rows, .unlock _ => (.ok (), rows)
  | rows, .venue c => (venue c, rows)

theorem keeper_law (venue : (c : VenueCall) → Except Err c.Answer) (rows : Rows) (c : JournaledCall) :
    step rows ⟨c, some (keeper venue rows c).1⟩ (keeper venue rows c).2 := by
  cases c with
  | prepare p =>
    simp only [keeper]
    cases prepared : rows.prepare p with
    | ok pair => exact prepared
    | error e => rfl
  | venue c =>
    simp only [keeper]
    cases venue c <;> rfl
  | recoveryRequired => exact ⟨rfl, rfl⟩
  | confirm | reconcile | lock | unlock => rfl

end Rows

end KairosExecution.Venue
