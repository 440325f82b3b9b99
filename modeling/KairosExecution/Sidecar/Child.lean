import KairosExecution.Production.Wire

/-! The child process of the DEV sidecar: what it makes of a line, and the effects that it
remembers. A mutation goes to the gateway after its effect id was remembered; the oldest of more
than ten thousand ids is forgotten, so an id may come again only after ten thousand others. -/

namespace KairosExecution.Sidecar

open Python Production

/-- An error that is thrown, by its name and its message. -/
structure Thrown where
  code : String
  message : String
  deriving DecidableEq

section Requests

def mutations : List String :=
  ["place_market", "place_limit", "close_position", "cancel_order", "create_tpsl", "cancel_tpsl",
    "set_leverage"]

def reads : List String :=
  ["health", "fetch_account", "fetch_open_orders", "fetch_positions", "fetch_tpsl",
    "fetch_instruments", "fetch_depth", "drain_events"]

def isMutation (operation : String) : Bool := operation ∈ mutations

structure Request where
  id : String
  operation : String
  payload : Record

def requireText (payload : Record) (field : String) : Except Thrown String :=
  match payload.lookup field with
  | some (.str value) =>
    if value = "" ∨ 500 < utf16Length value then
      .error ⟨"TypeError", field ++ " must be a non-empty string of at most 500 characters"⟩
    else .ok value
  | _ => .error ⟨"TypeError", field ++ " must be a non-empty string of at most 500 characters"⟩

/-- `value.payload ?? {}` -/
def payloadOf (value : Record) : Except Thrown Record :=
  match value.get "payload" with
  | .none => .ok []
  | .dict payload => .ok payload
  | _ => .error ⟨"TypeError", "request.payload must be a JSON object"⟩

def validateRequest (value : Value) : Except Thrown Request :=
  match value with
  | .dict fields =>
    match Record.get fields "id", Record.get fields "operation" with
    | .str id, .str operation =>
      if id = "" ∨ 200 < utf16Length id then
        .error ⟨"TypeError", "request.id must be a non-empty string of at most 200 characters"⟩
      else if operation ∉ reads ∧ operation ∉ mutations then
        .error ⟨"TypeError", "request.operation is not supported"⟩
      else do
        let payload ← payloadOf fields
        if isMutation operation then
          let _ ← requireText payload "effect_id"
          if operation ∈ ["place_market", "place_limit", "close_position"] then
            let _ ← requireText payload "client_order_id"
        return ⟨id, operation, payload⟩
    | .str id, _ =>
      if id = "" ∨ 200 < utf16Length id then
        .error ⟨"TypeError", "request.id must be a non-empty string of at most 200 characters"⟩
      else .error ⟨"TypeError", "request.operation is not supported"⟩
    | _, _ => .error ⟨"TypeError", "request.id must be a non-empty string of at most 200 characters"⟩
  | _ => .error ⟨"TypeError", "request must be a JSON object"⟩

/-- The effect of a request, which a mutation has. -/
def Request.effectId (request : Request) : String :=
  match request.payload.lookup "effect_id" with
  | some (.str effect) => effect
  | _ => ""

end Requests

section Effects

def maxEffects : ℕ := 10_000

/-- `rememberEffect`, on the ids in the order in which they were remembered. -/
def rememberEffect (effect : String) (seen : List String) : Except Thrown (List String) :=
  if effect ∈ seen then
    .error ⟨"Error", "effect_id was already submitted during this sidecar process"⟩
  else .ok (if maxEffects < (seen ++ [effect]).length then (seen ++ [effect]).tail else seen ++ [effect])

/-- The effects that are remembered of all those so far. -/
def recent (effects : List String) : List String := effects.drop (effects.length - maxEffects)

theorem maxEffects_pos : 0 < maxEffects := by norm_num [maxEffects]

theorem mem_recent {effects : List String} {i : ℕ} (lt : i < effects.length)
    (late : effects.length ≤ i + maxEffects) : effects[i] ∈ recent effects := by
  unfold recent
  generalize maxEffects = limit at late ⊢
  rw [List.mem_drop_iff_getElem]
  refine ⟨i - (effects.length - limit), by omega, ?_⟩
  congr 1
  omega

theorem rememberEffect_recent {effect : String} {effects seen : List String}
    (h : rememberEffect effect (recent effects) = .ok seen) :
    effect ∉ recent effects ∧ seen = recent (effects ++ [effect]) := by
  have pos := maxEffects_pos
  unfold rememberEffect at h
  unfold recent at h ⊢
  generalize maxEffects = limit at h pos ⊢
  split at h
  · cases h
  · rename_i new
    refine ⟨new, (Except.ok.inj h).symm.trans ?_⟩
    rw [List.length_append, List.length_append, List.length_singleton, List.length_drop,
      List.drop_append_of_le_length (by omega)]
    split
    · have some : effects.drop (effects.length - limit) ≠ [] := by
        rw [ne_eq, ← List.length_eq_zero_iff, List.length_drop]
        omega
      rw [List.tail_append_of_ne_nil some, List.tail_drop]
      congr 2
      omega
    · congr 2
      omega

/-- No effect is among the ten thousand before it. -/
def Apart (effects : List String) : Prop :=
  ∀ i j, i < j → ∀ effect, effects[i]? = some effect → effects[j]? = some effect → maxEffects < j - i

theorem Apart.snoc {effects : List String} (apart : Apart effects) {effect : String}
    (new : effect ∉ recent effects) : Apart (effects ++ [effect]) := by
  intro i j lt e first second
  have bound : j < effects.length + 1 := by
    have := (List.getElem?_eq_some_iff.1 second).1
    simpa using this
  have earlier : i < effects.length := by omega
  rw [List.getElem?_append_left earlier] at first
  by_cases last : j = effects.length
  · subst last
    rw [List.getElem?_concat_length] at second
    cases second
    by_contra near
    obtain ⟨_, same⟩ := List.getElem?_eq_some_iff.1 first
    have listed : effects[i] ∈ recent effects := mem_recent earlier (by omega)
    exact new (same ▸ listed)
  · rw [List.getElem?_append_left (by omega)] at second
    exact apart i j lt e first second

end Effects

section Lines

/-- A line of the standard input: its length in bytes, and what `JSON.parse` makes of it. -/
structure Line where
  bytes : ℕ
  parsed : Except Thrown Value

/-- The response to a line, and the request that went to the gateway. -/
structure Handled where
  response : Value
  submitted : Option Request

variable (publicError : Thrown → Value)

/-- The request of a line. -/
def requestOf (line : Line) : Except Thrown Request :=
  if 1024 * 1024 < line.bytes then .error ⟨"TypeError", "request exceeds the 1 MiB protocol limit"⟩
  else line.parsed.bind validateRequest

/-- The ids that are remembered when a request goes to the gateway. -/
def letThrough (request : Request) (seen : List String) : Except Thrown (List String) :=
  if isMutation request.operation then rememberEffect request.effectId seen else .ok seen

def failed (id : String) (error : Thrown) : Value :=
  .dict [("id", .str id), ("ok", .bool false), ("error", publicError error)]

def succeeded (request : Request) (result : Value) : Value :=
  .dict [("id", .str request.id), ("ok", .bool true), ("result", result),
    ("effect_id", request.payload.get "effect_id")]

/-- `handle`, where the gateway answers in this way. -/
def handle (line : Line) (answer : Except Thrown Value) (seen : List String) : Handled × List String :=
  match requestOf line with
  | .error e => (⟨failed publicError "invalid" e, none⟩, seen)
  | .ok request =>
    match letThrough request seen with
    | .error e => (⟨failed publicError request.id e, none⟩, seen)
    | .ok seen =>
      match answer with
      | .ok result => (⟨succeeded request result, some request⟩, seen)
      | .error e => (⟨failed publicError request.id e, some request⟩, seen)

/-- The effect of a mutation that went to the gateway. -/
def Handled.effect (handled : Handled) : Option String :=
  match handled.submitted with
  | some request => if isMutation request.operation then some request.effectId else none
  | none => none

/-- What one line adds to the effects, and what is remembered of them. -/
theorem handle_effects (line : Line) (answer : Except Thrown Value) {effects : List String}
    (apart : Apart effects) :
    Apart (effects ++ (handle publicError line answer (recent effects)).1.effect.toList) ∧
      (handle publicError line answer (recent effects)).2 =
        recent (effects ++ (handle publicError line answer (recent effects)).1.effect.toList) := by
  unfold handle
  cases requestOf line with
  | error e => simpa [Handled.effect] using apart
  | ok request =>
    dsimp only
    cases admitted : letThrough request (recent effects) with
    | error e => simpa [Handled.effect] using apart
    | ok seen =>
      have submitted : ∀ handled : Handled, handled.submitted = some request →
          Apart (effects ++ handled.effect.toList) ∧ seen = recent (effects ++ handled.effect.toList) := by
        intro handled same
        unfold letThrough at admitted
        unfold Handled.effect
        rw [same]
        dsimp only
        split at admitted
        · rename_i mutation
          obtain ⟨new, remembered⟩ := rememberEffect_recent admitted
          rw [if_pos mutation]
          exact ⟨apart.snoc new, remembered⟩
        · rename_i read
          rw [if_neg read, Option.toList_none, List.append_nil]
          exact ⟨apart, (Except.ok.inj admitted).symm⟩
      cases answer with
      | ok result => exact submitted _ rfl
      | error e => exact submitted _ rfl

end Lines

end KairosExecution.Sidecar
