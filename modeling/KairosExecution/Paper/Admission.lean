import KairosExecution.Paper.World

/-! What holds at the moment at which an entry is sent: the checks that were made again after its
row was prepared, that no other trade of the account is open in the store, and how long ago its
deadlines were looked at. -/

namespace KairosExecution.Paper

open Python Interactive

section Kinds

/-- The last such call is the one in question where none of them followed. -/
def Call.asksAuthority : Call → Bool
  | .entriesAllowed _ => true
  | _ => false

def Call.asksHealth : Call → Bool
  | .preflight => true
  | _ => false

def Call.reserves : Call → Bool
  | .reserve .. => true
  | _ => false

def Call.leavesGuard : Call → Bool
  | .exitOperatorGuard | .exitCanaryDispatch => true
  | _ => false

/-- Calls that change the trade rows, the journal rows or the venue. -/
def Call.changes : Call → Bool
  | .createTrade .. | .transition _ | .prepare _ | .mutate _ => true
  | _ => false

/-- Calls that come after the last look at the deadlines. -/
def Call.dispatches : Call → Bool
  | .checkEntry .. | .enterOperatorGuard .. | .enterCanaryDispatch .. | .reserve .. => true
  | c => c.bookkeeping

def Call.sendsEntry : Call → Bool
  | .mutate m => m.places
  | _ => false

end Kinds

section Exclusive

variable (env : Env) (decision : Decision) (trade : TradeRecord)

/-- What was found between the prepared row of an entry and its submission; each check is the last
of its kind. -/
structure Rechecked (late : EngineHistory) : Prop where
  quiet : ∀ e ∈ late, e.call.changes = false
  allowed : Since (fun c : Call => c.asksAuthority = false)
    (answered (.entriesAllowed env.accountScope) true) late
  healthy : ∃ health telemetry, Since (fun c : Call => c.asksHealth = false)
      (answered .preflight health) late ∧
    acceptHealth env health = .ok telemetry ∧ acceptEntryReserve health = .ok ()
  clean : ∃ venue durable risk rule, Lately Call.blind (read venue) late ∧
    answered (.tradesRecoveryRequired env.scope.environment env.scope.accountId) durable ∈ late ∧
    (∀ candidate ∈ durable, candidate.tradeId = trade.tradeId) ∧
    authoritativeAccountBlockers env venue durable (some trade.tradeId) = .ok [] ∧
    decisionForTrade env trade = .ok risk ∧
    assertTechnicalCanaryInstrument env risk venue = .ok rule
  budget : ∃ scope reservation, Since (fun c : Call => c.reserves = false)
      (answered (.reserve scope (env.effectId trade.tradeId .ENTRY .place) "place_limit" false)
        reservation) late ∧
    reservation.granted = true ∧ reservation.replay = false ∧ 6 ≤ reservation.remaining
  operator : Since (fun c : Call => c.leavesGuard = false)
    (answered (.enterOperatorGuard decision (env.effectId trade.tradeId .ENTRY .place)) ()) late
  canary : Since (fun c : Call => c.leavesGuard = false)
    (answered (.enterCanaryDispatch decision (env.effectId trade.tradeId .ENTRY .place)) ()) late

/-- What stands behind an entry in the events of its own call: the blockers were empty before its
row was made, and everything was checked again since. -/
def EntryExclusive (own : EngineHistory) : Prop :=
  ∃ late request preparation begun, own = late ++ answered (.prepare request) preparation :: begun ∧
    request.effectKey = env.effectId trade.tradeId .ENTRY .place ∧ preparation.created = true ∧
    answered .recoveryBlockers [] ∈ begun ∧ Rechecked env decision trade late

/-- No other trade of the account is open in the store. -/
def SoleTrade (rows : Durable) : Prop :=
  ∀ id record, rows.trades id = some record → record.environment = env.scope.environment →
    record.accountId = env.scope.accountId → record.state.terminal = false →
    record.tradeId = trade.tradeId

variable {env decision trade}

theorem Call.of_bookkeeping {c : Call} (h : c.bookkeeping) : c.asksAuthority = false ∧
    c.asksHealth = false ∧ c.reserves = false ∧ c.leavesGuard = false ∧ c.changes = false ∧
    c.blind = true := by
  cases c <;> first | exact ⟨rfl, rfl, rfl, rfl, rfl, rfl⟩ | cases h

/-- The gate of an entry, read from the prepared row on. -/
theorem EntryGate.exclusive {h : EngineHistory} {m : Mutation} (gate : EntryGate env decision h m) :
    ∃ trade clientOrderId, decision.tradeId = some trade.tradeId ∧
      m = entryOrder decision trade (env.effectId trade.tradeId .ENTRY .place) clientOrderId ∧
      EntryExclusive env decision trade h := by
  obtain ⟨trade, clientOrderId, request, preparation, begun, prepared, admitted, fresh, reserved, order,
    guards, budget, freshness, admission, row, key, -, created, unblocked, -, handled⟩ := gate
  refine ⟨trade, clientOrderId, handled, order, ?_⟩
  obtain ⟨t, u, venue, durable, health, telemetry, risk, rule, rfl, ht, hu, accepted, spare, sole, clean,
    known, instrument⟩ := admission
  obtain ⟨now, w, symbol, depth, rfl, hw, -⟩ := freshness
  obtain ⟨v, scope, reservation, rfl, hv, granted, replay, headroom⟩ := budget
  subst row
  have of := fun {c : Call} (h : c.bookkeeping) => Call.of_bookkeeping h
  have t' := fun e he => of (ht e he)
  have u' := fun e he => of (hu e he)
  have v' := fun e he => of (hv e he)
  have w' := fun e he => of (hw e he)
  -- the events since the row, the latest first
  let asked : EngineHistory := [answered .preflight health,
    answered (.entriesAllowed env.accountScope) true, answered (.entriesAllowed env.accountScope) true]
  let listed : EngineHistory :=
    answered (.tradesRecoveryRequired env.scope.environment env.scope.accountId) durable ::
      read venue :: (u ++ asked)
  let booked : EngineHistory :=
    answered (.checkEntry decision (env.effectId trade.tradeId .ENTRY .place)) () ::
      answered .clock now :: (w ++ answered (.fetchDepth symbol 100) depth :: (t ++ listed))
  let paid : EngineHistory := v ++ answered (.reserve scope (env.effectId trade.tradeId .ENTRY .place)
    "place_limit" false) reservation :: booked
  let late : EngineHistory :=
    answered (.checkEntry decision (env.effectId trade.tradeId .ENTRY .place)) () ::
      answered (.enterCanaryDispatch decision (env.effectId trade.tradeId .ENTRY .place)) () ::
      answered (.enterOperatorGuard decision (env.effectId trade.tradeId .ENTRY .place)) () :: paid
  have later : ∀ {S : Call → Prop} {e : EngineEvent}, (∀ c : Call, c.bookkeeping → S c) →
      (∀ d i, S (.enterCanaryDispatch d i)) → (∀ d i, S (.enterOperatorGuard d i)) →
      (∀ s i o b, S (.reserve s i o b)) → (∀ y n, S (.fetchDepth y n)) →
      Since S e listed → Since S e late := by
    intro S e books canary operator reserves depths since
    have before := (((since.append fun x hx => books _ (ht x hx)).cons
      (x := answered (.fetchDepth symbol 100) depth) (depths _ _)).append fun x hx => books _ (hw x hx))
    have checked := ((before.cons (x := answered .clock now) (books _ rfl)).cons
      (x := answered (.checkEntry decision (env.effectId trade.tradeId .ENTRY .place)) ()) (books _ rfl))
    have paid := (checked.cons (x := answered (.reserve scope (env.effectId trade.tradeId .ENTRY .place)
      "place_limit" false) reservation) (reserves _ _ _ _)).append fun x hx => books _ (hv x hx)
    exact ((paid.cons (operator _ _)).cons (canary _ _)).cons (books _ rfl)
  refine ⟨late, request, preparation, begun, ?_, key, created, unblocked, ?_⟩
  · rw [guards]
    simp [late, paid, booked, listed, asked]
  refine {
    quiet := ?_
    allowed := later (fun _ h => (of h).1) (fun _ _ => rfl) (fun _ _ => rfl) (fun _ _ _ _ => rfl)
      (fun _ _ => rfl) ?_
    healthy := ⟨health, telemetry, later (fun _ h => (of h).2.1) (fun _ _ => rfl) (fun _ _ => rfl)
      (fun _ _ _ _ => rfl) (fun _ _ => rfl) ?_, accepted, spare⟩
    clean := ⟨venue, durable, risk, rule, later (fun _ h => (of h).2.2.2.2.2) (fun _ _ => rfl)
      (fun _ _ => rfl) (fun _ _ _ _ => rfl) (fun _ _ => rfl) (Since.here.cons rfl), ?_, sole, clean,
      known, instrument⟩
    budget := ⟨scope, reservation, ?_, granted, replay, headroom⟩
    operator := ?_
    canary := ?_ }
  · intro e he
    simp only [late, paid, booked, listed, asked, List.mem_cons, List.mem_append, List.not_mem_nil,
      or_false] at he
    rcases he with rfl | rfl | rfl | he | rfl | rfl | rfl | he | rfl | he | rfl | rfl | he | rfl | rfl | rfl
    all_goals first | rfl | exact (of (hv e he)).2.2.2.2.1 | exact (of (hw e he)).2.2.2.2.1 |
      exact (of (ht e he)).2.2.2.2.1 | exact (of (hu e he)).2.2.2.2.1
  · have first : Since (fun c : Call => c.asksAuthority = false)
        (answered (.entriesAllowed env.accountScope) true) asked := Since.here.cons rfl
    exact ((first.append fun x hx => (of (hu x hx)).1).cons rfl).cons rfl
  · have first : Since (fun c : Call => c.asksHealth = false) (answered .preflight health) asked :=
      .here
    exact ((first.append fun x hx => (of (hu x hx)).2.1).cons rfl).cons rfl
  · simp [late, paid, booked, listed]
  · have first : Since (fun c : Call => c.reserves = false) (answered (.reserve scope
        (env.effectId trade.tradeId .ENTRY .place) "place_limit" false) reservation)
        (answered (.reserve scope (env.effectId trade.tradeId .ENTRY .place) "place_limit" false)
          reservation :: booked) := .here
    exact (((first.append fun x hx => (of (hv x hx)).2.2.1).cons rfl).cons rfl).cons rfl
  · have first : Since (fun c : Call => c.leavesGuard = false)
        (answered (.enterOperatorGuard decision (env.effectId trade.tradeId .ENTRY .place)) ())
        (answered (.enterOperatorGuard decision (env.effectId trade.tradeId .ENTRY .place)) () ::
          paid) := .here
    exact (first.cons rfl).cons rfl
  · have first : Since (fun c : Call => c.leavesGuard = false)
        (answered (.enterCanaryDispatch decision (env.effectId trade.tradeId .ENTRY .place)) ())
        (answered (.enterCanaryDispatch decision (env.effectId trade.tradeId .ENTRY .place)) () ::
          answered (.enterOperatorGuard decision (env.effectId trade.tradeId .ENTRY .place)) () ::
            paid) := .here
    exact first.cons rfl

/-- A state that follows calls that change nothing has the trades of the state before them. -/
theorem trades_of_quiet {s s' : Durable} {e : EngineEvent} (quiet : e.call.changes = false)
    (step : s.Step e s') : s'.trades = s.trades := by
  cases step.tradeChange with
  | kept same => exact same
  | created trade factKey build record call creates =>
    rw [call] at quiet
    cases quiet
  | moved request record call moves =>
    rw [call] at quiet
    cases quiet

/-- What the recheck listed is still all there is when the entry is sent. -/
theorem EntryExclusive.sole {own older : EngineHistory} {rows : Durable}
    (exclusive : EntryExclusive env decision trade own) (stores : Stores (own ++ older) rows) :
    SoleTrade env trade rows := by
  obtain ⟨late, request, preparation, begun, rfl, -, -, -, rechecked⟩ := exclusive
  obtain ⟨venue, durable, risk, rule, -, listed, sole, -⟩ := rechecked.clean
  obtain ⟨a, b, rfl⟩ := List.append_of_mem listed
  rw [List.append_assoc, List.append_assoc] at stores
  refine Follows.through (P := SoleTrade env trade) stores ?_ ?_
  · intro before reached
    cases reached with
    | next older step =>
      obtain ⟨rfl, law⟩ := step
      intro id record stored environment account open'
      exact sole record ((law durable rfl record).2 ⟨⟨id, stored⟩, environment, account, open'⟩)
  · intro e he s s' holds step id record stored
    rw [trades_of_quiet (rechecked.quiet e (List.mem_append_left _ he)) step] at stored
    exact holds id record stored

/-- Whenever an entry is sent in a session, everything that admits it was checked again since its
row was prepared, its budget and both guards are held, and no other trade of the account is open. -/
theorem entry_exclusive {h l k : EngineHistory} {s : Durable} {m : Mutation}
    {o : Option (Except Err (Call.Answer (.mutate m)))} (session : Session env h s)
    (sent : h = l ++ ⟨.mutate m, o⟩ :: k) (places : m.places = true) :
    ∃ decision trade clientOrderId own older, k = own ++ older ∧
      decision.tradeId = some trade.tradeId ∧
      m = entryOrder decision trade (env.effectId trade.tradeId .ENTRY .place) clientOrderId ∧
      EntryExclusive env decision trade own ∧ ∀ rows, Stores k rows → SoleTrade env trade rows := by
  obtain ⟨own, older, handled, rfl, justified⟩ := session.owed sent
  obtain ⟨-, -, gated⟩ := justified
  cases m with
  | placeLimit effectId clientOrderId symbol side quantity limitPrice leverage =>
    obtain ⟨decision, -, gate⟩ := gated
    obtain ⟨trade, clientId, id, order, exclusive⟩ := gate.exclusive
    exact ⟨decision, trade, clientId, own, older, rfl, id, order, exclusive,
      fun rows stores => exclusive.sole stores⟩
  | _ => cases places

/-- The session in which the canary decision is handled after startup recovery sends its entry. -/
theorem entry_exclusive_canary :
    let session := World.handled (canaryRules (entryRecord "FILLED" 0)) [snapshot [] [] [] []]
    ∃ l m o k, session.2 = l ++ ⟨.mutate m, o⟩ :: k ∧ m.places = true ∧
      ∃ decision trade clientOrderId own older, k = own ++ older ∧
        decision.tradeId = some trade.tradeId ∧
        m = entryOrder decision trade (canaryEnv.effectId trade.tradeId .ENTRY .place) clientOrderId ∧
        EntryExclusive canaryEnv decision trade own ∧
        ∀ rows, Stores k rows → SoleTrade canaryEnv trade rows := by
  intro session
  have placed : session.2.any (fun e => e.call.sendsEntry) = true := by decide +kernel
  obtain ⟨⟨c, o⟩, mem, places⟩ := List.any_eq_true.1 placed
  obtain ⟨l, k, sent⟩ := List.append_of_mem mem
  cases c with
  | mutate m =>
    refine ⟨l, m, o, k, sent, places, ?_⟩
    exact entry_exclusive (World.inSession_handled (canaryRules (entryRecord "FILLED" 0))
      [snapshot [] [] [] []]) sent places
  | _ => cases places

end Exclusive

section Deadlines

/-- The events of a call, the latest first, each with how long it took. -/
abbrev Timeline := List (ℕ × EngineEvent)

/-- How long the events took together. -/
def elapsed (h : Timeline) : ℕ := (h.map Prod.fst).sum

@[simp] theorem elapsed_append (late early : Timeline) :
    elapsed (late ++ early) = elapsed late + elapsed early := by
  simp [elapsed]

@[simp] theorem elapsed_cons (e : ℕ × EngineEvent) (early : Timeline) :
    elapsed (e :: early) = e.1 + elapsed early := rfl

/-- The clock tells what has elapsed since the start, whatever the awaits of the call took. -/
def Timed (start : ℤ) (h : Timeline) : Prop :=
  ∀ l took now k, h = l ++ (took, answered .clock now) :: k → now = start + elapsed k + took

/-- The last instant of which the milliseconds do not exceed this number. -/
def lastInstant (ms : ℤ) : ℤ := if 0 ≤ ms then 1000 * ms + 999 else 1000 * ms

theorem milliseconds_le {instant ms : ℤ} : milliseconds instant ≤ ms ↔ instant ≤ lastInstant ms := by
  unfold milliseconds lastInstant
  by_cases nonneg : 0 ≤ instant
  · rw [Int.tdiv_eq_ediv_of_nonneg nonneg]
    split <;> omega
  · have pos : 0 ≤ -instant := by omega
    have flipped := Int.neg_tdiv instant 1000
    rw [Int.tdiv_eq_ediv_of_nonneg pos] at flipped
    split <;> omega

/-- The time that is left of both deadlines of an entry. -/
def timeLeft (decision : Decision) (now : ℤ) : ℤ :=
  lastInstant (min decision.intent.entryExpiresTsMs decision.venueQuality.expiresAtMs) - now

instance {decision : Decision} {nowMs : ℤ} : Decidable (freshAt decision nowMs) :=
  inferInstanceAs (Decidable (_ ∧ _))

theorem freshAt_later {decision : Decision} {now : ℤ} {awaited : ℕ} :
    freshAt decision (milliseconds (now + awaited)) ↔ awaited ≤ timeLeft decision now := by
  rw [freshAt, ← le_min_iff, milliseconds_le, timeLeft]
  omega

variable {env : Env} {decision : Decision}

/-- An entry is sent after a freshness check that it passed, with only the dispatch in between. -/
theorem dispatched_after_check {own : EngineHistory} {m : Mutation}
    (justified : Justified env (some decision) own (.mutate m)) (places : m.places = true) :
    ∃ late now early, own = late ++ answered .clock now :: early ∧
      (∀ e ∈ late, e.call.dispatches) ∧ freshAt decision (milliseconds now) := by
  obtain ⟨-, -, gated⟩ := justified
  cases m with
  | placeLimit effectId clientOrderId symbol side quantity limitPrice leverage =>
    obtain ⟨decision', same, gate⟩ := gated
    cases same
    obtain ⟨trade, clientId, request, preparation, begun, prepared, admitted, fresh, reserved, order,
      guards, budget, freshness, -⟩ := gate
    obtain ⟨now, w, symbol, depth, rfl, -, inTime⟩ := freshness
    obtain ⟨v, scope, reservation, rfl, hv, -⟩ := budget
    unfold GuardsHeld at guards
    set late : EngineHistory :=
      answered (.checkEntry decision (env.effectId trade.tradeId .ENTRY .place)) () ::
      answered (.enterCanaryDispatch decision (env.effectId trade.tradeId .ENTRY .place)) () ::
      answered (.enterOperatorGuard decision (env.effectId trade.tradeId .ENTRY .place)) () ::
      (v ++ [answered (.reserve scope (env.effectId trade.tradeId .ENTRY .place) "place_limit" false)
        reservation, answered (.checkEntry decision (env.effectId trade.tradeId .ENTRY .place)) ()])
      with eq
    refine ⟨late, now, w ++ answered (.fetchDepth symbol 100) depth :: admitted, ?_, fun e mem => ?_, inTime⟩
    · rw [guards, eq]
      simp
    · simp only [eq, List.mem_cons, List.mem_append, List.not_mem_nil, or_false] at mem
      rcases mem with same | same | same | mem | same | same
      · rw [same]; rfl
      · rw [same]; rfl
      · rw [same]; rfl
      · have books := hv e mem
        revert books
        cases e.call <;> first | exact fun _ => rfl | exact fun books => by cases books
      · rw [same]; rfl
      · rw [same]; rfl
  | _ => cases places

/-- The deadlines are looked at once more before an entry is sent; what is awaited after that is the
operator's admission, the budget and the two guards, and the entry is in time where these take no
longer together than what was left then. -/
theorem entry_in_time_iff {start : ℤ} {h l k : Timeline} {took : ℕ} {m : Mutation}
    {o : Option (Except Err (Call.Answer (.mutate m)))} {result : Option (Except Err (List ExecutionEvent))}
    (timed : Timed start h) (run : Runs (handle env decision) [] (h.map Prod.snd) result)
    (sent : h = l ++ (took, ⟨.mutate m, o⟩) :: k) (places : m.places = true) :
    ∃ late read now early, k = late ++ (read, answered .clock now) :: early ∧
      (∀ e ∈ late, e.2.call.dispatches) ∧ freshAt decision (milliseconds now) ∧
      (freshAt decision (milliseconds (start + elapsed k)) ↔ elapsed late ≤ timeLeft decision now) := by
  have dutiful : Dutiful (Justified env (some decision)) (h.map Prod.snd) :=
    (handle_meets.sound run trivial).1
  have justified := dutiful.at (e := ⟨.mutate m, o⟩) (l := l.map Prod.snd) (k := k.map Prod.snd)
    (by rw [sent]; simp)
  obtain ⟨late, now, early, split, dispatching, inTime⟩ := dispatched_after_check justified places
  obtain ⟨late, rest, rfl, rfl, restEq⟩ := List.map_eq_append_iff.1 split
  obtain ⟨⟨read, event⟩, early, rfl, clock, -⟩ := List.map_eq_cons_iff.1 restEq
  obtain rfl : event = answered .clock now := clock
  have told : now = start + elapsed early + read :=
    timed (l ++ (took, ⟨.mutate m, o⟩) :: late) read now early (by rw [sent]; simp)
  have sentAt : start + (elapsed (late ++ (read, answered .clock now) :: early) : ℤ) = now + elapsed late := by
    rw [elapsed_append, elapsed_cons, told]
    push_cast
    ring
  refine ⟨late, read, now, early, rfl, fun e mem => dispatching e.2 (List.mem_map_of_mem mem), inTime, ?_⟩
  rw [sentAt]
  exact freshAt_later

/-- The answers of the world, with how long each call took. -/
def World.timing (rules : Rules) : Handler engineCalls Err (World × List ℕ) := fun state c =>
  let (r, w) := World.answer rules state.1 c
  (r, w, (w.now - state.1.now).toNat :: state.2)

/-- The events of a program in the world, each with how long it took. -/
def World.timedRun {α : Type} (rules : Rules) (p : Engine α) (w : World) : Timeline :=
  (execute (World.timing rules) p (w, []) []).2.1.2.zip (execute (World.timing rules) p (w, []) []).2.2

theorem World.timing_length {α : Type} (rules : Rules) (p : Engine α) {w : World} {times : List ℕ}
    {h : EngineHistory} (same : times.length = h.length) :
    (execute (World.timing rules) p (w, times) h).2.1.2.length =
      (execute (World.timing rules) p (w, times) h).2.2.length := by
  induction p generalizing w times h with
  | done r => exact same
  | call c next ih => exact ih _ (by rw [List.length_cons, List.length_cons, same])

theorem World.timedRun_runs {α : Type} (rules : Rules) (p : Engine α) (w : World) :
    Runs p [] ((World.timedRun rules p w).map Prod.snd)
      (some (execute (World.timing rules) p (w, []) []).1) := by
  rw [World.timedRun, List.map_snd_zip (World.timing_length rules p rfl).ge]
  exact execute_runs (World.timing rules) p (w, []) []

/-- The clock told the time at each of its reads. -/
def tellsTime (start : ℤ) : Timeline → Bool
  | [] => true
  | (took, ⟨.clock, some (.ok now)⟩) :: early => now = start + elapsed early + took && tellsTime start early
  | _ :: early => tellsTime start early

theorem Timed.of_reads {start : ℤ} {h : Timeline} (tells : tellsTime start h = true) : Timed start h := by
  intro l took now k eq
  subst eq
  induction l with
  | nil =>
    simp only [List.nil_append, answered, tellsTime, Bool.and_eq_true, decide_eq_true_eq] at tells
    exact tells.1
  | cons e l ih =>
    apply ih
    rw [List.cons_append] at tells
    unfold tellsTime at tells
    split at tells
    · rename_i nothing
      cases nothing
    · rename_i same
      cases same
      exact (Bool.and_eq_true_iff.1 tells).2
    · rename_i same
      cases same
      exact tells

/-- The canary decision, handled where the reservation of the budget takes this long. -/
def sampleTimed (reservation : ℤ) : Timeline :=
  World.timedRun { canaryRules (entryRecord "FILLED" 0) with
      latency := fun c => if c.reserves then reservation else 0 } (handle canaryEnv canaryDecision)
    { canaryWorld [snapshot [] [] [] []] with blockers := [], allowed := true }

/-- The start of the sample. -/
def sampleStart : ℤ := (canaryWorld []).now

/-- When the entry of a timeline is sent. -/
def sendingTimes (start : ℤ) : Timeline → List ℤ
  | [] => []
  | (_, e) :: early => (if e.call.sendsEntry then [start + elapsed early] else []) ++ sendingTimes start early

theorem mem_sendingTimes {start t : ℤ} {h : Timeline} (mem : t ∈ sendingTimes start h) :
    ∃ l took m o k, h = l ++ (took, ⟨.mutate m, o⟩) :: k ∧ m.places = true ∧ t = start + elapsed k := by
  induction h with
  | nil => cases mem
  | cons e early ih =>
    obtain ⟨took, c, o⟩ := e
    rcases List.mem_append.1 mem with now | later
    · cases c with
      | mutate m =>
        by_cases places : m.places = true
        · have sends : Call.sendsEntry (.mutate m) = true := places
          rw [sends, if_pos rfl, List.mem_singleton] at now
          exact ⟨[], took, m, o, early, rfl, places, now⟩
        · have calm : Call.sendsEntry (.mutate m) = false := Bool.eq_false_iff.2 places
          rw [calm] at now
          cases now
      | _ => cases now
    · obtain ⟨l, took', m, o', k, rfl, places, at_⟩ := ih later
      exact ⟨_ :: l, took', m, o', k, rfl, places, at_⟩

/-- Within ten seconds the entry is still in time. -/
theorem entry_in_time_iff_canary : ∃ l took m o k, sampleTimed 10_000_000 = l ++ (took, ⟨.mutate m, o⟩) :: k ∧
    m.places = true ∧ freshAt canaryDecision (milliseconds (sampleStart + elapsed k)) ∧
    ∃ late read now early, k = late ++ (read, answered .clock now) :: early ∧
      (∀ e ∈ late, e.2.call.dispatches) ∧ freshAt canaryDecision (milliseconds now) ∧
      (freshAt canaryDecision (milliseconds (sampleStart + elapsed k)) ↔
        elapsed late ≤ timeLeft canaryDecision now) := by
  have placed : (sendingTimes sampleStart (sampleTimed 10_000_000)).any (fun t =>
      decide (freshAt canaryDecision (milliseconds t))) = true := by decide +kernel
  obtain ⟨t, mem, inTime⟩ := List.any_eq_true.1 placed
  obtain ⟨l, took, m, o, k, sent, places, rfl⟩ := mem_sendingTimes mem
  have timed : Timed sampleStart (sampleTimed 10_000_000) := .of_reads (by decide +kernel)
  exact ⟨l, took, m, o, k, sent, places, of_decide_eq_true inTime,
    entry_in_time_iff timed (World.timedRun_runs _ _ _) sent places⟩

/-- Where the reservation takes a hundred seconds, the entry is sent past both deadlines. -/
theorem entry_sent_late : ¬∀ start h result, Timed start h →
    Runs (handle canaryEnv canaryDecision) [] (h.map Prod.snd) result →
    ∀ l took m o k, h = l ++ (took, ⟨.mutate m, o⟩) :: k → m.places = true →
      freshAt canaryDecision (milliseconds (start + elapsed k)) := by
  intro never
  have placed : (sendingTimes sampleStart (sampleTimed 100_000_000)).any (fun t =>
      !decide (freshAt canaryDecision (milliseconds t))) = true := by decide +kernel
  obtain ⟨t, mem, late⟩ := List.any_eq_true.1 placed
  obtain ⟨l, took, m, o, k, sent, places, rfl⟩ := mem_sendingTimes mem
  have timed : Timed sampleStart (sampleTimed 100_000_000) := .of_reads (by decide +kernel)
  have fresh := never _ _ _ timed (World.timedRun_runs _ _ _) l took m o k sent places
  simp [fresh] at late

end Deadlines

end KairosExecution.Paper
