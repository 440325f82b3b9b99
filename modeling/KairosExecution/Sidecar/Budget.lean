import Mathlib

/-! The local mutation budget of the sidecar: a log of the times at which mutations were let
through, pruned from its front by a sliding window. An entry needs two units more than the
compensation reserve, a compensating operation needs one, and every other operation leaves the
reserve alone. Times are exact: the clock and the window are whole milliseconds, of which the
doubles of JavaScript keep every difference; a window with a fraction of a millisecond would
have its cutoff rounded. -/

namespace KairosExecution.Sidecar

/-- The settings that the constructor of `LocalMutationBudget` accepts. -/
structure LocalMutationBudget where
  capacity : ℕ
  windowMs : ℚ
  entryCompensationReserve : ℕ
  capacity_pos : 0 < capacity
  window_pos : 0 < windowMs
  reserve_lt : entryCompensationReserve < capacity

/-- `Number.isInteger` of a finite number -/
def isInteger (x : ℚ) : Bool := (⌊x⌋ : ℚ) = x

theorem toNat_lt_toNat {x y : ℚ} (wholeX : isInteger x) (wholeY : isInteger y) (nonneg : 0 ≤ x)
    (lt : x < y) : ⌊x⌋.toNat < ⌊y⌋.toNat := by
  have eqX : (⌊x⌋ : ℚ) = x := of_decide_eq_true wholeX
  have eqY : (⌊y⌋ : ℚ) = y := of_decide_eq_true wholeY
  have below : ⌊x⌋ < ⌊y⌋ := by
    rw [← eqX, ← eqY] at lt
    exact_mod_cast lt
  have start : 0 ≤ ⌊x⌋ := by
    rw [← eqX] at nonneg
    exact_mod_cast nonneg
  omega

theorem toNat_pos {x : ℚ} (whole : isInteger x) (pos : 0 < x) : 0 < ⌊x⌋.toNat := by
  have lt := toNat_lt_toNat (x := 0) (by simp [isInteger]) whole (le_refl 0) pos
  simpa using lt

/-- A budget at work: the timestamps that it keeps, and how often it has read its clock. -/
structure Meter where
  timestamps : List ℚ := []
  reads : ℕ := 0

/-- How `reserve` tells the operations apart. -/
inductive OperationClass
  | entry
  | compensating
  | other
  deriving DecidableEq

def operationClass (operation : String) : OperationClass :=
  if operation ∈ ["place_market", "place_limit"] then .entry
  else if operation ∈ ["cancel_order", "cancel_tpsl", "close_position"] then .compensating
  else .other

namespace LocalMutationBudget

/-- The constructor; `none` is a number that is not finite. -/
def create : Option ℚ → Option ℚ → Option ℚ → Except String LocalMutationBudget
  | some capacity, some windowMs, some reserve =>
    if valid : isInteger capacity ∧ 0 < capacity ∧ 0 < windowMs ∧ isInteger reserve
        ∧ 0 ≤ reserve ∧ reserve < capacity then
      .ok {
        capacity := ⌊capacity⌋.toNat
        windowMs
        entryCompensationReserve := ⌊reserve⌋.toNat
        capacity_pos := toNat_pos valid.1 valid.2.1
        window_pos := valid.2.2.1
        reserve_lt := toNat_lt_toNat valid.2.2.2.1 valid.1 valid.2.2.2.2.1 valid.2.2.2.2.2 }
    else .error "local mutation budget requires a positive capacity and window"
  | _, _, _ => .error "local mutation budget requires a positive capacity and window"

/-- Every budget is the one that the constructor makes of its settings. -/
theorem create_settings (b : LocalMutationBudget) :
    create (some b.capacity) (some b.windowMs) (some b.entryCompensationReserve) = .ok b := by
  have capacity : (0 : ℚ) < b.capacity := by exact_mod_cast b.capacity_pos
  have reserve : (b.entryCompensationReserve : ℚ) < b.capacity := by exact_mod_cast b.reserve_lt
  simp [create, isInteger, capacity, b.window_pos, reserve]

variable (b : LocalMutationBudget)

/-- `this.capacity - this.timestamps.length` -/
def free (m : Meter) : ℤ := b.capacity - m.timestamps.length

/-- The units that an operation must leave after it takes its own. -/
def held (operation : String) : ℕ :=
  match operationClass operation with
  | .entry => b.entryCompensationReserve + 2
  | .compensating => 0
  | .other => b.entryCompensationReserve

/-- The error that `reserve` throws where `remaining` units are free. -/
def refusal (operation : String) (remaining : ℤ) : Option String :=
  let entry := operationClass operation = .entry
  let compensating := operationClass operation = .compensating
  if remaining ≤ 0 then some "local EVEDEX mutation rate-limit reserve is exhausted"
  else if entry ∧ remaining ≤ b.entryCompensationReserve + 2 then
    some "local EVEDEX mutation reserve cannot fund mandatory STOP and TARGET"
  else if ¬entry ∧ ¬compensating ∧ remaining ≤ b.entryCompensationReserve then
    some "local EVEDEX mutation reserve is held for exposure compensation"
  else none

section Clocked

variable (clock : ℕ → ℚ)

/-- `#prune` -/
def prune (m : Meter) : Meter where
  timestamps := m.timestamps.dropWhile (· ≤ clock m.reads - b.windowMs)
  reads := m.reads + 1

def remaining (m : Meter) : ℤ × Meter := (b.free (b.prune clock m), b.prune clock m)

/-- `this.timestamps.push(this.clock())` -/
def push (m : Meter) : Meter where
  timestamps := m.timestamps ++ [clock m.reads]
  reads := m.reads + 1

def reserve (operation : String) (m : Meter) : Except String ℤ × Meter :=
  let m := b.prune clock m
  match b.refusal operation (b.free m) with
  | some error => (.error error, m)
  | none =>
    let (left, m) := b.remaining clock (push clock m)
    (.ok left, m)

end Clocked

section Funding

variable {b} {clock : ℕ → ℚ}

theorem refusal_eq_none {operation : String} {remaining : ℤ} :
    b.refusal operation remaining = none ↔ (b.held operation : ℤ) < remaining := by
  unfold refusal held
  cases operationClass operation with
  | entry => simp only [true_and, not_true, false_and, if_false, Nat.cast_add]; grind
  | compensating => simp
  | other => simp only; grind

theorem free_le_prune (b : LocalMutationBudget) (clock : ℕ → ℚ) (m : Meter) : b.free m ≤ b.free (b.prune clock m) := by
  have shorter := (List.dropWhile_sublist (l := m.timestamps)
    (· ≤ clock m.reads - b.windowMs)).length_le
  simp only [free, prune]
  omega

theorem free_push (m : Meter) : b.free (push clock m) = b.free m - 1 := by
  simp [free, push]
  omega

/-- A granted call has left the units that its operation must leave. -/
theorem reserve_eq_ok {operation : String} {m : Meter} {left : ℤ}
    (h : (b.reserve clock operation m).1 = .ok left) :
    (b.held operation : ℤ) < b.free (b.prune clock m)
      ∧ b.reserve clock operation m
        = (.ok left, b.prune clock (push clock (b.prune clock m)))
      ∧ left = b.free (b.prune clock (push clock (b.prune clock m))) := by
  unfold reserve at h ⊢
  cases refused : b.refusal operation (b.free (b.prune clock m)) with
  | some error => simp [refused] at h
  | none =>
    simp only [refused, remaining, Except.ok.injEq] at h ⊢
    exact ⟨refusal_eq_none.1 refused, by rw [h], h.symm⟩

/-- An operation that finds more units than it must leave is granted, and takes one. -/
theorem reserve_of_held_lt (clock : ℕ → ℚ) {operation : String} {m : Meter}
    (h : (b.held operation : ℤ) < b.free m) :
    ∃ left, (b.reserve clock operation m).1 = .ok left ∧ b.free m - 1 ≤ left
      ∧ b.free (b.reserve clock operation m).2 = left := by
  have pruned := b.free_le_prune clock m
  have granted : b.refusal operation (b.free (b.prune clock m)) = none :=
    refusal_eq_none.2 (by omega)
  have kept := b.free_le_prune clock (push clock (b.prune clock m))
  rw [free_push] at kept
  simp only [reserve, granted, remaining]
  exact ⟨_, rfl, by omega, rfl⟩

end Funding

end LocalMutationBudget

/-- What is asked of a budget: a unit for an operation, or how many units are free. -/
inductive Call
  | reserve (operation : String)
  | remaining
  deriving DecidableEq

/-- How a call ends: with the timestamp that was pushed for it and the units left, with the
error thrown, or with the units that are free. -/
inductive Answer
  | granted (stamp : ℚ) (left : ℤ)
  | refused (error : String)
  | counted (left : ℤ)
  deriving DecidableEq

/-- The timestamp of a granted call. -/
def Answer.stamp : Answer → Option ℚ
  | .granted stamp _ => some stamp
  | _ => none

namespace LocalMutationBudget

variable (b : LocalMutationBudget) (clock : ℕ → ℚ)

/-- One call: its answer, and the budget after it. -/
def call (m : Meter) : Call → Answer × Meter
  | .reserve operation =>
    match b.reserve clock operation m with
    | (.ok left, m') => (.granted (clock (b.prune clock m).reads) left, m')
    | (.error error, m') => (.refused error, m')
  | .remaining =>
    let (left, m') := b.remaining clock m
    (.counted left, m')

/-- The answers to a sequence of calls. -/
def answers (m : Meter) : List Call → List Answer
  | [] => []
  | c :: calls => (b.call clock m c).1 :: answers (b.call clock m c).2 calls

/-- The timestamps of the granted calls. -/
def stamps (m : Meter) (calls : List Call) : List ℚ :=
  (b.answers clock m calls).filterMap Answer.stamp

theorem stamps_cons (m : Meter) (c : Call) (calls : List Call) :
    b.stamps clock m (c :: calls) = (b.call clock m c).1.stamp.toList
      ++ b.stamps clock (b.call clock m c).2 calls := by
  simp only [stamps, answers, List.filterMap_cons]
  cases (b.call clock m c).1.stamp with
  | none => rfl
  | some stamp => rfl

section Window

variable {b} {clock}

/-- The times at which calls were granted, `past`, are those that the budget dropped when the
window had left them behind, and those that it still keeps. -/
def Logged (b : LocalMutationBudget) (clock : ℕ → ℚ) (past : List ℚ) (m : Meter) : Prop :=
  ∃ dropped, past = dropped ++ m.timestamps
    ∧ ∀ t ∈ dropped, ∃ n < m.reads, t ≤ clock n - b.windowMs

theorem Logged.prune {past : List ℚ} {m : Meter} (h : Logged b clock past m) :
    Logged b clock past (b.prune clock m) := by
  obtain ⟨dropped, split, left⟩ := h
  refine ⟨dropped ++ m.timestamps.takeWhile (· ≤ clock m.reads - b.windowMs), ?_, ?_⟩
  · rw [List.append_assoc, split]
    simp only [LocalMutationBudget.prune, List.takeWhile_append_dropWhile]
  · intro t mem
    rcases List.mem_append.1 mem with earlier | now
    · obtain ⟨n, before, bound⟩ := left t earlier
      exact ⟨n, Nat.lt_succ_of_lt before, bound⟩
    · exact ⟨m.reads, Nat.lt_succ_self _, by simpa using List.mem_takeWhile_imp now⟩

theorem Logged.push {past : List ℚ} {m : Meter} (h : Logged b clock past m) :
    Logged b clock (past ++ [clock m.reads]) (push clock m) := by
  obtain ⟨dropped, split, left⟩ := h
  refine ⟨dropped, by simp [LocalMutationBudget.push, split], fun t mem => ?_⟩
  obtain ⟨n, before, bound⟩ := left t mem
  exact ⟨n, Nat.lt_succ_of_lt before, bound⟩

/-- A call keeps the log of the granted times. -/
theorem Logged.call {past : List ℚ} {m : Meter} (h : Logged b clock past m) (c : Call) :
    Logged b clock (past ++ (b.call clock m c).1.stamp.toList) (b.call clock m c).2 := by
  cases c with
  | remaining => simpa [LocalMutationBudget.call, remaining, Answer.stamp] using h.prune
  | reserve operation =>
    cases refused : b.refusal operation (b.free (b.prune clock m)) with
    | some error => simpa [LocalMutationBudget.call, reserve, refused, Answer.stamp] using h.prune
    | none =>
      simpa [LocalMutationBudget.call, reserve, refused, remaining, Answer.stamp]
        using h.prune.push.prune

/-- A set of moments no two of which lie a window apart. -/
def Narrow (b : LocalMutationBudget) (inside : ℚ → Bool) : Prop :=
  ∀ s t, inside s → inside t → t < s + b.windowMs

/-- A granted call fits into every narrow set of moments: what was dropped lies a window back,
and what is kept is below the capacity. -/
theorem Logged.countP_call (nondecreasing : Monotone clock) {past : List ℚ} {m : Meter}
    (h : Logged b clock past m) {inside : ℚ → Bool} (narrow : b.Narrow inside)
    (bound : past.countP inside ≤ b.capacity) (c : Call) :
    (past ++ (b.call clock m c).1.stamp.toList).countP inside ≤ b.capacity := by
  cases c with
  | remaining => simpa [LocalMutationBudget.call, Answer.stamp] using bound
  | reserve operation =>
    cases refused : b.refusal operation (b.free (b.prune clock m)) with
    | some error => simpa [LocalMutationBudget.call, reserve, refused, Answer.stamp] using bound
    | none =>
      have room : (b.prune clock m).timestamps.length < b.capacity := by
        have := refusal_eq_none.1 refused
        simp only [free] at this
        omega
      obtain ⟨dropped, split, left⟩ := h.prune
      simp only [LocalMutationBudget.call, reserve, refused, remaining, Answer.stamp,
        Option.toList_some, List.countP_append, List.countP_singleton]
      split
      · rename_i now
        have gone : dropped.countP inside = 0 := by
          rw [List.countP_eq_zero]
          intro t mem there
          obtain ⟨n, before, behind⟩ := left t mem
          have := nondecreasing before.le
          have := narrow t _ there now
          linarith
        have kept := List.countP_le_length (p := inside) (l := (b.prune clock m).timestamps)
        rw [split, List.countP_append, gone]
        omega
      · exact bound

theorem countP_stamps_le (nondecreasing : Monotone clock) {inside : ℚ → Bool}
    (narrow : b.Narrow inside) (calls : List Call) {past : List ℚ} {m : Meter}
    (h : Logged b clock past m) (bound : past.countP inside ≤ b.capacity) :
    (past ++ b.stamps clock m calls).countP inside ≤ b.capacity := by
  induction calls generalizing past m with
  | nil => simpa [stamps, answers] using bound
  | cons c calls ih =>
    have rest := ih (h.call c) (h.countP_call nondecreasing narrow bound c)
    rw [List.append_assoc] at rest
    rwa [stamps_cons]

end Window

section Promise

variable {b} {clock}

/-- Where `units` are free, each operation in turn finds more than it must leave. -/
def Funds (b : LocalMutationBudget) : ℤ → List String → Prop
  | _, [] => True
  | units, operation :: operations =>
    (b.held operation : ℤ) < units ∧ Funds b (units - 1) operations

theorem Funds.mono {units more : ℤ} (le : units ≤ more) {operations : List String}
    (h : b.Funds units operations) : b.Funds more operations := by
  induction operations generalizing units more with
  | nil => trivial
  | cons operation operations ih => exact ⟨h.1.trans_le le, ih (by omega) h.2⟩

/-- Compensating operations are funded by as many units. -/
theorem funds_compensating {units : ℤ} {operations : List String}
    (compensating : ∀ operation ∈ operations, operationClass operation = .compensating)
    (enough : (operations.length : ℤ) ≤ units) : b.Funds units operations := by
  induction operations generalizing units with
  | nil => trivial
  | cons operation operations ih =>
    have first := compensating operation (List.mem_cons_self ..)
    simp only [List.length_cons, Nat.cast_add, Nat.cast_one] at enough
    constructor
    · simp only [held, first]
      omega
    · exact ih (fun other mem => compensating other (List.mem_cons_of_mem _ mem)) (by omega)

/-- The operations for which units are asked. -/
def operations (calls : List Call) : List String :=
  calls.filterMap fun
    | .reserve operation => some operation
    | .remaining => none

/-- A funded sequence is granted in full, whatever the clock shows and however often the free
units are counted in between. -/
theorem granted_of_funds (calls : List Call) {m : Meter}
    (h : b.Funds (b.free m) (operations calls)) (error : String) :
    .refused error ∉ b.answers clock m calls := by
  induction calls generalizing m with
  | nil => simp [answers]
  | cons c calls ih =>
    cases c with
    | remaining =>
      have rest := ih (h.mono (b.free_le_prune clock m))
      simpa [answers, call, remaining] using rest
    | reserve operation =>
      obtain ⟨first, later⟩ := h
      obtain ⟨left, granted, enough, kept⟩ := reserve_of_held_lt clock first
      have answer : b.call clock m (.reserve operation)
          = (.granted (clock (b.prune clock m).reads) left, (b.reserve clock operation m).2) := by
        simp only [call]
        split
        · rename_i eq
          simp only [eq, Except.ok.injEq] at granted ⊢
          rw [granted]
        · rename_i eq
          simp [eq] at granted
      have rest := ih (m := (b.reserve clock operation m).2)
        (later.mono (by rw [kept]; exact enough))
      simpa [answers, answer] using rest

end Promise

/-- The times of the granted calls that lie in a set of moments. -/
def grantedWithin (calls : List Call) (inside : ℚ → Bool) : ℕ :=
  ((b.stamps clock {} calls).filter inside).length

/-- Within one window at most the capacity is granted; a granted entry has funded its two
protections and the compensation of all of them; no other operation takes from the reserve. -/
theorem mutation_budget :
    (Monotone clock → ∀ (calls : List Call) (a : ℚ),
      b.grantedWithin clock calls (fun t => a ≤ t ∧ t < a + b.windowMs) ≤ b.capacity
        ∧ b.grantedWithin clock calls (fun t => a < t ∧ t ≤ a + b.windowMs) ≤ b.capacity)
    ∧ (∀ (m : Meter) (operation : String) (left : ℤ) (calls : List Call) (compensation : List String),
      operationClass operation = .entry → (b.reserve clock operation m).1 = .ok left →
      operations calls = "create_tpsl" :: "create_tpsl" :: compensation →
      (∀ other ∈ compensation, operationClass other = .compensating) →
      compensation.length = b.entryCompensationReserve →
      ∀ error, .refused error ∉ b.answers clock (b.reserve clock operation m).2 calls)
    ∧ ∀ (m : Meter) (operation : String) (left : ℤ),
      operationClass operation = .other → (b.reserve clock operation m).1 = .ok left →
      (b.entryCompensationReserve : ℤ) ≤ b.free (push clock (b.prune clock m))
        ∧ (b.entryCompensationReserve : ℤ) ≤ left := by
  refine ⟨fun nondecreasing calls a => ?_, ?_, ?_⟩
  · have logged : Logged b clock [] {} := ⟨[], rfl, fun _ mem => nomatch mem⟩
    have closedLeft : b.Narrow fun t => a ≤ t ∧ t < a + b.windowMs := by
      intro s t hs ht
      simp only [decide_eq_true_eq] at hs ht
      linarith
    have closedRight : b.Narrow fun t => a < t ∧ t ≤ a + b.windowMs := by
      intro s t hs ht
      simp only [decide_eq_true_eq] at hs ht
      linarith
    simp only [grantedWithin, ← List.countP_eq_length_filter]
    exact ⟨countP_stamps_le nondecreasing closedLeft calls logged (Nat.zero_le _),
      countP_stamps_le nondecreasing closedRight calls logged (Nat.zero_le _)⟩
  · intro m operation left calls compensation entry granted asked compensating length error
    obtain ⟨held, after, left_eq⟩ := reserve_eq_ok granted
    have kept := b.free_le_prune clock (push clock (b.prune clock m))
    rw [free_push] at kept
    have free : b.free (b.reserve clock operation m).2 = left := by rw [after, left_eq]
    apply granted_of_funds
    rw [asked, free]
    have other : operationClass "create_tpsl" = .other := by decide
    simp only [LocalMutationBudget.held, entry] at held
    refine ⟨?_, ?_, funds_compensating compensating ?_⟩
    · simp only [LocalMutationBudget.held, other]
      omega
    · simp only [LocalMutationBudget.held, other]
      omega
    · omega
  · intro m operation left other granted
    obtain ⟨held, -, left_eq⟩ := reserve_eq_ok granted
    have kept := b.free_le_prune clock (push clock (b.prune clock m))
    simp only [LocalMutationBudget.held, other] at held
    rw [free_push] at kept ⊢
    omega

/-- `new LocalMutationBudget()` -/
def default : LocalMutationBudget where
  capacity := 30
  windowMs := 60_000
  entryCompensationReserve := 4
  capacity_pos := by decide
  window_pos := by norm_num
  reserve_lt := by decide

theorem mutation_budget_default :
    default.grantedWithin (fun _ => 0) [.reserve "place_limit"] (fun t => 0 ≤ t ∧ t < 0 + 60_000) ≤ 30
    ∧ (∀ error, .refused error ∉ default.answers (fun _ => 0)
        (default.reserve (fun _ => 0) "place_limit" {}).2
        [.reserve "create_tpsl", .remaining, .reserve "create_tpsl", .reserve "cancel_tpsl",
          .reserve "cancel_tpsl", .reserve "cancel_order", .reserve "close_position"])
    ∧ (4 : ℤ) ≤ 29 :=
  have budget := mutation_budget default fun _ => 0
  ⟨(budget.1 monotone_const [.reserve "place_limit"] 0).1,
    budget.2.1 {} "place_limit" 29 _ ["cancel_tpsl", "cancel_tpsl", "cancel_order", "close_position"]
      (by decide) (by decide +kernel) rfl (by decide) rfl,
    (budget.2.2 {} "create_tpsl" 29 (by decide) (by decide +kernel)).2⟩

/-- A closed interval holds one unit more: the window lets go of a timestamp when it is exactly
its length old. -/
theorem closed_interval_exceeds :
    ¬∀ (b : LocalMutationBudget) (clock : ℕ → ℚ), Monotone clock → ∀ (calls : List Call) (a : ℚ),
      b.grantedWithin clock calls (fun t => a ≤ t ∧ t ≤ a + b.windowMs) ≤ b.capacity := by
  intro h
  have monotone : Monotone fun n : ℕ => if n < 3 then (0 : ℚ) else 60_000 := by
    intro m n le
    dsimp only
    split <;> split
    · rfl
    · norm_num
    · omega
    · rfl
  have one := h ⟨1, 60_000, 0, by decide, by norm_num, by decide⟩ _ monotone
    [.reserve "cancel_order", .reserve "cancel_order"] 0
  revert one
  decide +kernel

end LocalMutationBudget

section Health

/-- The mutation numbers of a health answer. -/
structure MutationTelemetry where
  rateLimitReserve : ℤ
  rateLimitCapacity : ℕ
  rateLimitWindowMs : ℚ
  compensationReserve : ℕ
  entryMinReserve : ℕ

/-- The mutation part of `readHealth`. -/
def LocalMutationBudget.readHealth (b : LocalMutationBudget) (clock : ℕ → ℚ) (m : Meter) :
    MutationTelemetry × Meter :=
  let (left, m) := b.remaining clock m
  ({ rateLimitReserve := left
     rateLimitCapacity := b.capacity
     rateLimitWindowMs := b.windowMs
     compensationReserve := b.entryCompensationReserve
     entryMinReserve := b.entryCompensationReserve + 3 }, m)

/-- The mutation part of `_accept_health`. -/
def acceptHealth (health : MutationTelemetry) : Except String Unit :=
  if health.rateLimitReserve < 0 ∨ !isInteger health.rateLimitWindowMs
      ∨ health.rateLimitWindowMs < 0 then
    .error "sidecar telemetry must be a non-negative integer"
  else if health.rateLimitCapacity ≤ 0 ∨ health.rateLimitReserve > health.rateLimitCapacity
      ∨ health.compensationReserve ≥ health.rateLimitCapacity
      ∨ health.entryMinReserve ≤ health.compensationReserve + 2
      ∨ health.entryMinReserve > health.rateLimitCapacity ∨ health.rateLimitWindowMs ≤ 0 then
    .error "sidecar mutation reserve telemetry is inconsistent"
  else .ok ()

/-- The mutation part of `_accept_entry_health`. -/
def acceptEntryHealth (health : MutationTelemetry) : Except String Unit := do
  acceptHealth health
  if health.rateLimitReserve < health.entryMinReserve then
    throw "sidecar mutation reserve cannot fund entry plus mandatory STOP/TARGET"

/-- A health answer that the engine accepts for an entry promises the unit for one. -/
theorem reserve_of_acceptEntryHealth {b : LocalMutationBudget} {clock : ℕ → ℚ} {m : Meter}
    (h : acceptEntryHealth (b.readHealth clock m).1 = .ok ()) {operation : String}
    (entry : operationClass operation = .entry) :
    ∃ left, (b.reserve clock operation (b.readHealth clock m).2).1 = .ok left := by
  have enough : ¬(b.readHealth clock m).1.rateLimitReserve
      < (b.readHealth clock m).1.entryMinReserve := by
    intro low
    unfold acceptEntryHealth at h
    cases accepted : acceptHealth (b.readHealth clock m).1 with
    | error e => simp [accepted, bind, Except.bind] at h
    | ok u => simp [accepted, bind, Except.bind, low, throw, throwThe, MonadExceptOf.throw] at h
  have held : (b.held operation : ℤ) < b.free (b.readHealth clock m).2 := by
    simp only [LocalMutationBudget.readHealth, LocalMutationBudget.remaining] at enough ⊢
    simp only [LocalMutationBudget.held, entry]
    omega
  obtain ⟨left, granted, -⟩ := LocalMutationBudget.reserve_of_held_lt clock held
  exact ⟨left, granted⟩

end Health

section Requests

/-- `/^\/api\/v2\/position\/[A-Z0-9]{1,32}\/close$/` -/
def isPositionClose (pathname : String) : Bool :=
  let path := pathname.toList
  let start := "/api/v2/position/".toList
  let close := "/close".toList
  let symbol := (path.drop start.length).take (path.length - start.length - close.length)
  start.isPrefixOf path && close.isSuffixOf path && symbol.length ∈ List.range' 1 32
    && symbol.all fun c => c.isUpper || c.isDigit

/-- The operation for which `PinnedProdRestClient.request` reserves before it sends a mutation,
by the upper-case method and the path. -/
def mutationOperation (method pathname : String) : Except String String :=
  if pathname ∈ ["/api/v2/order/limit", "/api/v2/order/stop-limit"] then .ok "place_limit"
  else if pathname = "/api/v2/order/market" then .ok "place_market"
  else if isPositionClose pathname then .ok "close_position"
  else if method = "POST" ∧ "/api/tpsl/".toList.isPrefixOf pathname.toList then .ok "create_tpsl"
  else if method = "DELETE" ∧ "/api/tpsl/".toList.isPrefixOf pathname.toList then .ok "cancel_tpsl"
  else if method = "DELETE" ∧ "/api/order/".toList.isPrefixOf pathname.toList then .ok "cancel_order"
  else .error "PROD mutation has no enforced local budget classification"

/-- What may draw on the compensation reserve closes a position or deletes an order; only an
order path is an entry, and the rest are protections being created. -/
theorem operationClass_mutationOperation {method pathname operation : String}
    (h : mutationOperation method pathname = .ok operation) :
    match operationClass operation with
    | .entry => "/api/v2/order/".toList.isPrefixOf pathname.toList
    | .compensating => isPositionClose pathname ∨ method = "DELETE"
    | .other => operation = "create_tpsl" ∧ method = "POST" := by
  unfold mutationOperation at h
  split at h
  · rename_i path
    cases h
    rcases List.mem_pair.1 path with rfl | rfl
    · exact (by decide : "/api/v2/order/".toList.isPrefixOf "/api/v2/order/limit".toList = true)
    · exact (by decide : "/api/v2/order/".toList.isPrefixOf "/api/v2/order/stop-limit".toList = true)
  split at h
  · rename_i path
    cases h
    subst path
    exact (by decide : "/api/v2/order/".toList.isPrefixOf "/api/v2/order/market".toList = true)
  split at h
  · rename_i close
    cases h
    exact .inl close
  split at h
  · rename_i post
    cases h
    exact ⟨rfl, post.1⟩
  split at h
  · rename_i delete
    cases h
    exact .inr delete.1
  split at h
  · rename_i delete
    cases h
    exact .inr delete.1
  · cases h

end Requests

end KairosExecution.Sidecar
