import KairosExecution.Venue.Settling

/-! Calls of the journaled adapter, one after the other. Each may be cut at any event; the
journal keeps what it committed. Once the effect of an identity is settled, a call that asks
for it again makes no mutation, and ends as the operation that settled it did, unless that was
a protective stop whose position was flat: the response records that, and is not read back. -/

namespace KairosExecution.Venue

open Python Interactive

/-- What a caller asks of the adapter. -/
inductive Request
  | perform (m : Mutation)
  | recoverPending

inductive Reply
  | outcome (outcome : Outcome)
  | blockers (blockers : List String)

def Request.program (w : Wrapped) : Request → Journaled Reply
  | .perform m => .outcome <$> Venue.perform w m
  | .recoverPending => .blockers <$> Venue.recoverPending w

/-- A call: the journal it found, its events, how it ended, and the journal it left. -/
structure Turn where
  request : Request
  before : Rows
  events : History journaled Err
  ended : Option (Except Err Reply)
  after : Rows

structure Turn.Ran (w : Wrapped) (t : Turn) : Prop where
  runs : Runs (t.request.program w) [] t.events t.ended
  follows : Follows Rows.step t.before t.events t.after

/-- Calls one after the other, the latest first, from a journal that is empty. -/
inductive Sequential (w : Wrapped) : List Turn → Rows → Prop
  | start : Sequential w [] []
  | next {turns : List Turn} {turn : Turn} (older : Sequential w turns turn.before)
      (ran : turn.Ran w) : Sequential w (turn :: turns) turn.after

/-- A row of the journal was not settled. -/
def Unsettled (rows : Rows) (key : String) : Prop :=
  ∀ effect, rows.row key = some effect → effect.settled = false

/-- The call settles the row of a key. -/
def Turn.Settles (t : Turn) (key : String) (m : Mutation) (response : Response) : Prop :=
  Recorded m key response t.after ∧
    Unsettled t.before key

/-- Two calls end the same: with what they return, or with exceptions of one class. -/
def sameEnd : Except Err Reply → Except Err Reply → Prop
  | .ok reply, .ok reply' => reply = reply'
  | .error e, .error e' => e.typeName = e'.typeName
  | _, _ => False

/-- A call that changes something at the venue. -/
def JournaledCall.mutates : JournaledCall → Bool
  | .venue c => c.mutates
  | _ => false

variable {w : Wrapped} {turns : List Turn} {rows : Rows} {t : Turn}

/-- A row is recorded in one way. -/
theorem Recorded.unique {m m' : Mutation} {key : String} {response response' : Response}
    (recorded : Recorded m key response rows) (again : Recorded m' key response' rows) :
    m = m' ∧ response = response' := by
  obtain ⟨effect, found, _, request, recorded⟩ := recorded
  obtain ⟨effect', found', _, request', recorded'⟩ := again
  rw [found, Option.some.injEq] at found'
  subst found'
  rw [recorded, Option.some.injEq] at recorded'
  exact ⟨request ▸ request', recorded'⟩

/-- An operation, whatever it is, moves no row that is settled, and where it settles one it ends
as the response says. -/
theorem perform_ends (filed : WellFiled w rows) (m : Mutation) :
    Upholds Rows.step (Kept w rows)
      (fun r after => ∀ key request response, Unsettled rows key → Recorded request key response after →
        r = response.outcome w) (perform w m) rows := by
  cases prepares : w.prepares m with
  | error e =>
    rw [perform_eq, prepares]
    apply Upholds.raise ⟨filed, fun _ _ found _ => found⟩
    rintro key request response unsettled ⟨effect, found, settled, _⟩
    simp [unsettled effect found] at settled
  | ok p =>
    have operation := perform_settles filed prepares
    have pair : Upholds Rows.step (Moved w rows p.effectKey)
        (fun r after => Moved w rows p.effectKey after ∧
          (after.row p.effectKey = rows.row p.effectKey ∨ Ended w m p.effectKey r after)) (perform w m) rows :=
      operation.mono fun _ _ moved ended => ⟨moved, ended⟩
    apply (pair.weaken fun _ moved => moved.keeps).mono
    rintro r after _ ⟨moved, ended⟩ key request response unsettled recorded
    have ⟨effect, found, settled, _⟩ := recorded
    by_cases own : key = p.effectKey
    · subst own
      rcases ended with same | held | ⟨response', _, recorded', ends⟩
      · rw [found] at same
        simp [unsettled effect same.symm] at settled
      · obtain ⟨effect', found', unsettled', _⟩ := held
        rw [found, Option.some.injEq] at found'
        subst found'
        simp [settled] at unsettled'
      · rw [ends, (recorded.unique recorded').2]
    · have same := moved.others key own
      rw [found] at same
      simp [unsettled effect same.symm] at settled

theorem Turn.Ran.kept (ran : t.Ran w) (filed : WellFiled w t.before) : Kept w t.before t.after := by
  have upholds : Upholds Rows.step (Kept w t.before) (fun _ _ => True) (t.request.program w) t.before := by
    cases t.request with
    | perform m => exact (perform_ends filed m).anyway.map
    | recoverPending => exact (recoverPending_keeps filed).map
  exact (upholds.sound ran.runs (List.append_nil _).symm ran.follows).1

theorem Sequential.filed (history : Sequential w turns rows) : WellFiled w rows := by
  induction history with
  | start => exact ⟨List.nodup_nil, fun _ mem => nomatch mem⟩
  | next older ran ih => exact (ran.kept ih).filed

/-- What was settled at any time is settled still. -/
theorem Sequential.kept (history : Sequential w turns rows) {later earlier : List Turn}
    (order : turns = later ++ t :: earlier) : Kept w t.after rows := by
  induction history generalizing later with
  | start => simp at order
  | @next turns turn older ran ih =>
    cases later with
    | nil =>
      obtain ⟨rfl, rfl⟩ := List.cons.inj order
      exact ⟨(ran.kept older.filed).filed, fun _ _ found _ => found⟩
    | cons _ later => exact (ih (List.cons.inj order).2).trans (ran.kept older.filed)

/-- A call of the history found the journal that the calls before it left. -/
theorem Sequential.at_turn (history : Sequential w turns rows) {later earlier : List Turn}
    (order : turns = later ++ t :: earlier) : Sequential w earlier t.before ∧ t.Ran w := by
  induction history generalizing later with
  | start => simp at order
  | @next turns turn older ran ih =>
    cases later with
    | nil =>
      obtain ⟨rfl, rfl⟩ := List.cons.inj order
      exact ⟨older, ran⟩
    | cons _ later => exact ih (List.cons.inj order).2

section Settling

variable {key : String} {m : Mutation} {response : Response}

/-- The operation that settles a row ends as the response says. -/
theorem Turn.Ran.settles (ran : t.Ran w) (filed : WellFiled w t.before)
    (settles : t.Settles key m response) {asked : Mutation} (request : t.request = .perform asked)
    {r : Except Err Reply} (ended : t.ended = some r) : r = Reply.outcome <$> response.outcome w := by
  have runs := ran.runs
  rw [request] at runs
  have upholds : Upholds Rows.step (Kept w t.before)
      (fun r after => ∀ key request response, Unsettled t.before key →
        Recorded request key response after → r = Reply.outcome <$> response.outcome w)
      (Request.program w (.perform asked)) t.before := by
    apply Upholds.map
    apply (perform_ends filed asked).mono
    intro r after _ ends key request response unsettled recorded
    rw [ends key request response unsettled recorded]
  exact (upholds.sound runs (List.append_nil _).symm ran.follows).2 r ended key m response
    settles.2 settles.1

/-- What is recorded fits what was asked for. -/
theorem WellFiled.fits (filed : WellFiled w rows) (recorded : Recorded m key response rows) :
    m.fits response := by
  obtain ⟨effect, found, settled, rfl, recorded⟩ := recorded
  rcases (filed.filed effect (Rows.row_mem found)).status with prepared | ⟨_, response', same, fits⟩
  · simp only [ExecutionEffect.settled, prepared] at settled
    cases settled
  · rw [recorded, Option.some.injEq] at same
    rwa [same]

/-- A call that asks again for what is settled reads the journal, and returns what it finds. -/
theorem Turn.Ran.again (ran : t.Ran w) (filed : WellFiled w t.before)
    (recorded : Recorded m key response t.before) (request : t.request = .perform m) :
    (∀ e ∈ t.events, e.call.mutates = false) ∧ t.after = t.before ∧
    ∃ effect, t.before.row key = some effect ∧ effect.response = some response ∧
      ∀ p preparation, (⟨.prepare p, some (.ok preparation)⟩ : JournaledEvent) ∈ t.events →
        ∀ r, t.ended = some r → r = Reply.outcome <$> readBack w effect m := by
  obtain ⟨effect, found, settled, same, answered⟩ := recorded
  obtain ⟨p, prepares, filedKey, _⟩ := (filed.filed effect (Rows.row_mem found)).prepared
  have own : p.effectKey = key := filedKey.trans (Rows.row_key found)
  rw [same] at prepares
  have program : Request.program w t.request = (do
      let preparation ← calls (.prepare p)
      Reply.outcome <$> proceed w p preparation) := by
    rw [request, Request.program, perform_eq, prepares]
    simp only [map_eq_pure_bind, bind_assoc]
    rfl
  have prepare {rows : Rows} {preparation : EffectPreparation}
      (ok : t.before.prepare p = .ok (rows, preparation)) : rows = t.before ∧ preparation = ⟨effect, false⟩ := by
    rcases Rows.prepare_ok ok with ⟨free, _⟩ | ⟨effect', found', _, rfl, rfl⟩
    · rw [own, found] at free
      cases free
    · rw [own, found, Option.some.injEq] at found'
      exact ⟨rfl, by rw [found']⟩
  obtain ⟨asked, before, events, ended, after⟩ := t
  have runs : Runs _ [] events ended := program ▸ ran.runs
  have follows : Follows Rows.step before events after := ran.follows
  cases runs with
  | stopped =>
    cases follows
    exact ⟨by simp, rfl, effect, found, answered, by simp⟩
  | lost =>
    obtain ⟨_, step, rest⟩ := Follows.first (h := []) follows
    cases rest
    have unmoved : after = before := by
      rcases step with same | ⟨preparation, ok⟩
      · exact same
      · exact (prepare ok).1
    exact ⟨by simp [JournaledCall.mutates], unmoved, effect, found, answered, by simp⟩
  | answered _ _ _ _ r _ rest =>
    cases r with
    | error e =>
      obtain ⟨rfl, _⟩ := Runs.of_done rest
      obtain ⟨_, step, later⟩ := Follows.first (h := []) follows
      cases later
      exact ⟨by simp [JournaledCall.mutates], step, effect, found, answered, by simp⟩
    | ok preparation =>
      obtain ⟨added, split⟩ := rest.suffix
      subst split
      obtain ⟨_, step, later⟩ := Follows.first follows
      obtain ⟨rfl, rfl⟩ := prepare step
      have last : Runs (Reply.outcome <$> proceed w p ⟨effect, false⟩) _ _ ended := rest
      rw [proceed_settled w p settled, Program.map_lift, prepares_request prepares] at last
      obtain ⟨none, ends⟩ := Runs.of_done last
      rw [List.append_left_eq_self] at none
      subst none
      cases later
      exact ⟨by simp [JournaledCall.mutates], rfl, effect, found, answered, fun _ _ _ r same => ends r same⟩

/-- In every sequential history, a call that asks again for an effect that is settled makes no
mutation and leaves the journal as it is; and where its preparation is answered, it ends as the
operation that settled the effect ends if and only if the response is no flat position. -/
theorem redelivery_idempotent (history : Sequential w turns rows) {later between earlier : List Turn}
    {again settling : Turn} (order : turns = later ++ again :: (between ++ settling :: earlier))
    (settles : settling.Settles key m response) (asks : again.request = .perform m) :
    (∀ e ∈ again.events, e.call.mutates = false) ∧ again.after = again.before ∧
    (∀ asked r, settling.request = .perform asked → settling.ended = some r →
      r = Reply.outcome <$> response.outcome w) ∧
    ∀ p preparation, (⟨.prepare p, some (.ok preparation)⟩ : JournaledEvent) ∈ again.events →
      ∀ r, again.ended = some r →
        (sameEnd r (Reply.outcome <$> response.outcome w) ↔ response.isFlat = false) := by
  obtain ⟨olderHistory, ran⟩ := history.at_turn order
  obtain ⟨firstHistory, settled⟩ := olderHistory.at_turn rfl
  have kept := olderHistory.kept rfl
  obtain ⟨effect, found, done, request, recorded⟩ := settles.1
  have still : Recorded m key response again.before :=
    ⟨effect, kept.settled key effect found done, done, request, recorded⟩
  obtain ⟨idle, unmoved, effect', found', answered, ends⟩ := ran.again olderHistory.filed still asks
  refine ⟨idle, unmoved, fun asked r request ended => settled.settles firstHistory.filed settles request ended,
    fun p preparation prepared r ended => ?_⟩
  have fits := olderHistory.filed.fits still
  rw [ends p preparation prepared r ended]
  cases flat : response.isFlat with
  | false =>
    rw [readBack_same w answered fits flat]
    cases response.outcome w <;> simp [sameEnd]
  | true =>
    cases response with
    | flat =>
      rw [readBack_flat w answered fits]
      simp [sameEnd, Response.outcome, Err.typeName]
    | report | stop | inactive | leverage => cases flat

end Settling

section Sample

/-- A call whose journal is kept and whose venue answers as it is given. -/
def Turn.against (w : Wrapped) (venue : (c : VenueCall) → Except Err c.Answer) (request : Request)
    (rows : Rows) : Turn :=
  let run := execute (Rows.keeper venue) (request.program w) rows []
  ⟨request, rows, run.2.2, some run.1, run.2.1⟩

theorem Turn.against_ran (w : Wrapped) (venue : (c : VenueCall) → Except Err c.Answer)
    (request : Request) (rows : Rows) : (Turn.against w venue request rows).Ran w :=
  have law : ∀ rows c, Rows.step (id rows) ⟨c, some (Rows.keeper venue rows c).1⟩
      (id (Rows.keeper venue rows c).2) := Rows.keeper_law venue
  ⟨execute_runs .., Follows.execute law _ .start⟩

/-- A status as it is written. -/
def ReportedStatus.toPayload : ReportedStatus → Value
  | .known status => .str status.value
  | .other value => .list [value]

def ReportedStatus.read : Value → Option ReportedStatus
  | .str text =>
    .known <$> [OrderStatus.NEW, .PARTIALLY_FILLED, .FILLED, .CANCELED, .REJECTED].find? (·.value = text)
  | .list [value] => some (.other value)
  | _ => none

theorem ReportedStatus.read_toPayload (status : ReportedStatus) :
    read status.toPayload = some status := by
  cases status with
  | known status => cases status <;> rfl
  | other value => rfl

/-- A report as the record of its fields. -/
def sampleFormat : ReportFormat where
  toPayload report := .dict [("source", .str report.source), ("client_order_id", report.clientOrderId),
    ("exchange_order_id", report.exchangeOrderId), ("exchange", report.exchange),
    ("symbol", report.symbol), ("side", report.side), ("status", report.status.toPayload),
    ("requested_qty", report.requestedQty), ("filled_qty", report.filledQty),
    ("remaining_qty", report.remainingQty), ("avg_price", report.avgPrice),
    ("fees_usd", report.feesUsd), ("message", .str report.message), ("retryable", .bool report.retryable)]
  modelValidate
    | .dict fields =>
      match Record.get fields "source", ReportedStatus.read (Record.get fields "status"),
        Record.get fields "message", Record.get fields "retryable" with
      | .str source, some status, .str message, .bool retryable => .ok {
          source
          clientOrderId := Record.get fields "client_order_id"
          exchangeOrderId := Record.get fields "exchange_order_id"
          exchange := Record.get fields "exchange"
          symbol := Record.get fields "symbol"
          side := Record.get fields "side"
          status
          requestedQty := Record.get fields "requested_qty"
          filledQty := Record.get fields "filled_qty"
          remainingQty := Record.get fields "remaining_qty"
          avgPrice := Record.get fields "avg_price"
          feesUsd := Record.get fields "fees_usd"
          message
          retryable }
      | _, _, _, _ => .error (.raised "ValidationError" "ExecutionReport")
    | _ => .error (.raised "ValidationError" "ExecutionReport")
  roundTrip report := by simp [Record.get, List.lookup, ReportedStatus.read_toPayload]

/-- An adapter without an authoritative lookup of its stops, for one parent order. -/
def sampleAdapter : Wrapped where
  toReportFormat := sampleFormat
  name := "fake"
  exchangeOrderIdMatchesClientOrderId := false
  protectiveStopLookupAuthoritative := false
  digest := fun _ => "f2a0ede82b5b172b5fe082f344cf232da686bda1c8e73017009cdf979efd52ad"
  leverageIdentity := fun symbol _ => symbol

/-- The stop of a long position. -/
def sampleStop : Request := .perform (.stop "BTCUSDT" 90 .BUY "parent-1")

theorem stop_not_blank : blank "stop-1" = false := by decide

/-- A venue whose position is flat, and which acknowledges a stop. -/
def flatVenue : (c : VenueCall) → Except Err c.Answer
  | .isPositionFlat _ => .ok true
  | .setProtectiveStop .. => .ok ⟨"stop-1", stop_not_blank⟩
  | _ => .error (.raised "RuntimeError" "")

/-- The stop is acknowledged and confirmed, and asked for again. -/
def sampleFirst : Turn := .against sampleAdapter flatVenue sampleStop []

def sampleAgain : Turn := .against sampleAdapter flatVenue sampleStop sampleFirst.after

theorem sampleFirst_settles :
    sampleFirst.Settles (sampleAdapter.key .PROTECTIVE_STOP "parent-1") (.stop "BTCUSDT" 90 .BUY "parent-1")
      (.stop "stop-1") :=
  ⟨⟨_, rfl, rfl, rfl, rfl⟩, fun _ found => nomatch found⟩

theorem redelivery_idempotent_sample :
    (∀ e ∈ sampleAgain.events, e.call.mutates = false) ∧ sampleAgain.after = sampleAgain.before :=
  have history : Sequential sampleAdapter ([] ++ sampleAgain :: ([] ++ sampleFirst :: [])) sampleAgain.after :=
    .next (.next .start (Turn.against_ran ..)) (Turn.against_ran ..)
  have again := redelivery_idempotent history rfl sampleFirst_settles rfl
  ⟨again.1, again.2.1⟩

def samplePreparation : Preparation where
  effectKey := sampleAdapter.key .PROTECTIVE_STOP "parent-1"
  effectType := .PROTECTIVE_STOP
  symbol := "BTCUSDT"
  clientOrderId := some "parent-1"
  request := .stop "BTCUSDT" 90 .BUY "parent-1"

/-- The stop is prepared, and its submission lost. -/
def sampleCrash : Turn where
  request := sampleStop
  before := []
  events := [⟨.venue (.setProtectiveStop "BTCUSDT" 90 .BUY "parent-1"), none⟩,
    ⟨.prepare samplePreparation, some (.ok ⟨Rows.prepared samplePreparation, true⟩)⟩]
  ended := none
  after := [Rows.prepared samplePreparation]

theorem sampleCrash_ran : sampleCrash.Ran sampleAdapter := by
  constructor
  · apply Runs.answered (I := journaled) (.prepare samplePreparation) _ [] _
      (Except.ok (EffectPreparation.mk (Rows.prepared samplePreparation) true)) none
    exact Runs.lost (I := journaled) (.venue (.setProtectiveStop "BTCUSDT" 90 .BUY "parent-1")) _ _
  · exact .next (.next .start rfl) rfl

/-- The position is flat by then, and the effect is reconciled so. -/
def sampleFlat : Turn := .against sampleAdapter flatVenue sampleStop sampleCrash.after

def sampleFlatAgain : Turn := .against sampleAdapter flatVenue sampleStop sampleFlat.after

theorem sampleFlat_settles :
    sampleFlat.Settles (sampleAdapter.key .PROTECTIVE_STOP "parent-1") (.stop "BTCUSDT" 90 .BUY "parent-1")
      .flat :=
  ⟨⟨_, rfl, rfl, rfl, rfl⟩, fun _ found => Option.some.inj found ▸ rfl⟩

/-- A protective stop that was settled because its position was flat raised
`ProtectionNoLongerRequired`; asked for again it raises another exception. -/
theorem flat_stop_ends_otherwise :
    ¬∀ (w : Wrapped) (turns : List Turn) (rows : Rows), Sequential w turns rows →
      ∀ (later between earlier : List Turn) (again settling : Turn),
        turns = later ++ again :: (between ++ settling :: earlier) →
        ∀ key m response, settling.Settles key m response → again.request = .perform m →
          ∀ r r', settling.ended = some r → again.ended = some r' → sameEnd r' r := by
  intro same
  have ends := same sampleAdapter [sampleFlatAgain, sampleFlat, sampleCrash] sampleFlatAgain.after
    (.next (.next (.next .start sampleCrash_ran) (Turn.against_ran ..)) (Turn.against_ran ..))
    [] [] [sampleCrash] sampleFlatAgain sampleFlat rfl _ _ _ sampleFlat_settles rfl _ _ rfl rfl
  have classes : "ExecutionRecoveryError" = "ProtectionNoLongerRequired" := ends
  exact absurd classes (by decide)

end Sample

end KairosExecution.Venue
