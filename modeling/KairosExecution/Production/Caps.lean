import KairosExecution.Production.Operator

/-! The ledger of reservations. The guard of a new row compares the greatest baselines, the
sums and the smallest caps of the whole history with the row added, so that what it lets
pass is within the caps whatever the history was; where nothing is released, what is
within the caps stays so until the next row. A row is bound to its risk decision, and an
effect and a signing request have one row each. -/

namespace KairosExecution.Production

open Python Table

variable {Digest : Type} [DecidableEq Digest]

section Law

/-- Amounts that, on top of the greatest baselines of some rows, are within their smallest
caps. -/
structure WithinCaps (rows : List (ReservationRow Digest)) (notionalUsd riskUsd lossUsd : ℚ) : Prop where
  notional : ∀ base ∈ maxOf (rows.map (·.aggregateOpenNotionalUsd)),
    ∀ cap ∈ minOf (rows.map (·.dollarCap)), base + notionalUsd ≤ cap
  risk : ∀ base ∈ maxOf (rows.map (·.aggregateOpenRiskUsd)),
    ∀ equity ∈ minOf (rows.map (·.accountEquityUsd)), base + riskUsd ≤ equity * (1 / 100)
  daily : ∀ base ∈ maxOf (rows.map (·.dailyRealizedLossUsd)),
    ∀ stop ∈ minOf (rows.map (·.dailyStopLossUsd)), base + lossUsd ≤ stop

/-- A reservation is of the account, and of the decision under its request. -/
structure Decided (db : Database Digest) (row : ReservationRow Digest) : Prop where
  account : row.accountSha256 = db.accountSha256
  decision : ∃ risk, db.riskDecision row.contextSha256 row.signingRequestId = some risk ∧
    risk.observedAt = row.observedAt ∧ risk.decisionId = row.decisionId ∧
    risk.payloadSha256 = row.evidenceSha256

/-- The keys of the reservations, and what each is of. -/
structure ReservationKeys (db : Database Digest) : Prop where
  decided : ∀ row ∈ db.riskReservations, Decided db row
  effects : (db.riskReservations.map (·.effectId)).Nodup
  requests : (db.riskReservations.map (·.signingRequestId)).Nodup

end Law

section Steps

variable {p : Primitives Digest} {db db' : Database Digest} {new : ReservationRow Digest}
  {nowAt : Timestamp}

/-- The guard has found the decision of the row, and room for it. -/
theorem enforceRiskReservation_ok (passed : enforceRiskReservation db new nowAt = .ok ()) :
    Decided db new ∧ exceedsCaps new (db.totals new.accountSha256) = false := by
  unfold enforceRiskReservation at passed
  obtain ⟨_, account, passed⟩ := bind_eq_ok.1 passed
  obtain ⟨risk, found, passed⟩ := bind_eq_ok.1 passed
  obtain ⟨_, exact', passed⟩ := bind_eq_ok.1 passed
  obtain ⟨_, -, passed⟩ := bind_eq_ok.1 passed
  obtain ⟨_, -, passed⟩ := bind_eq_ok.1 passed
  obtain ⟨_, -, passed⟩ := bind_eq_ok.1 passed
  obtain ⟨_, -, room⟩ := bind_eq_ok.1 passed
  rw [refuse_eq_ok, decide_eq_false_iff_not, not_not] at account
  rw [required_eq_ok] at found
  simp only [refuse_eq_ok, decide_eq_false_iff_not, not_or, not_not] at exact'
  obtain ⟨decision, observed, evidence, -⟩ := exact'
  exact ⟨⟨account.symm, risk, found, observed, decision, evidence⟩, refuse_eq_ok.1 room⟩

omit [DecidableEq Digest] in
/-- What a guard finds room for is within the caps of the history with the row. -/
theorem withinCaps_of_room {rows : List (ReservationRow Digest)} {prior : Totals}
    (baseRisk : prior.baseRisk = maxOf (rows.map (·.aggregateOpenRiskUsd)))
    (baseNotional : prior.baseNotional = maxOf (rows.map (·.aggregateOpenNotionalUsd)))
    (dailyRealized : prior.dailyRealized = maxOf (rows.map (·.dailyRealizedLossUsd)))
    (accountEquity : prior.accountEquity = minOf (rows.map (·.accountEquityUsd)))
    (dollarCap : prior.dollarCap = minOf (rows.map (·.dollarCap)))
    (dailyStop : prior.dailyStop = minOf (rows.map (·.dailyStopLossUsd)))
    (room : exceedsCaps new prior = false) :
    WithinCaps (rows ++ [new]) (prior.notionalUsd + new.notionalUsd) (prior.riskUsd + new.riskUsd)
      (prior.realizedCharge + (prior.riskUsd + new.riskUsd)) := by
  rw [exceedsCaps, baseRisk, baseNotional, dailyRealized, accountEquity, dollarCap, dailyStop] at room
  simp only [decide_eq_false_iff_not, not_or, not_lt, gt_iff_lt] at room
  obtain ⟨-, -, risk, daily, notional⟩ := room
  constructor
  · apply maxOf_minOf
    intro b inBases c inCaps
    have below := le_max_maxOf (·.aggregateOpenNotionalUsd) 0 inBases
    have above := min_minOf_le (·.dollarCap) new.dollarCap inCaps
    linarith
  · apply maxOf_minOf
    intro b inBases c inCaps
    have below := le_max_maxOf (·.aggregateOpenRiskUsd) 0 inBases
    have above := min_minOf_le (·.accountEquityUsd) new.accountEquityUsd inCaps
    linarith
  · apply maxOf_minOf
    intro b inBases c inCaps
    have below := le_max_maxOf (·.dailyRealizedLossUsd) 0 inBases
    have above := min_minOf_le (·.dailyStopLossUsd) new.dailyStopLossUsd inCaps
    linarith

/-- A decision that is there stays the one of its request. -/
theorem riskDecision_append {contextSha256 : Digest} {signingRequestId : String} {risk row : RiskRow Digest}
    (found : db.riskDecision contextSha256 signingRequestId = some risk) :
    Database.riskDecision { db with riskDecisions := db.riskDecisions ++ [row] } contextSha256
      signingRequestId = some risk := by
  unfold Database.riskDecision at found ⊢
  rw [List.find?_append, found, Option.some_or]

theorem Decided.committed {row : ReservationRow Digest} (decided : Decided db row)
    (committed : Committed db db') : Decided db' row := by
  obtain ⟨account, risk, found, bound⟩ := decided
  cases committed with
  | risk decision fresh => exact ⟨account, risk, riskDecision_append found, bound⟩
  | reservation new nowAt fresh inserted =>
    obtain ⟨-, -, -, rfl⟩ := insertReservation_ok inserted
    exact ⟨account, risk, found, bound⟩
  | release new clock inserted =>
    obtain ⟨-, -, -, rfl⟩ := insertRelease_ok inserted
    exact ⟨account, risk, found, bound⟩
  | _ => exact ⟨account, risk, found, bound⟩

/-- A transaction other than of a reservation leaves the reservations. -/
theorem Committed.reservations (committed : Committed db db') :
    db'.riskReservations = db.riskReservations ∨
    ∃ new nowAt, insertReservation db new nowAt = .ok db' ∧
      db' = { db with riskReservations := db.riskReservations ++ [new] } := by
  cases committed with
  | reservation new nowAt fresh inserted =>
    exact .inr ⟨new, nowAt, inserted, (insertReservation_ok inserted).2.2.2⟩
  | release new clock inserted =>
    obtain ⟨-, -, -, rfl⟩ := insertRelease_ok inserted
    exact .inl rfl
  | _ => exact .inl rfl

/-- All the rows are of the account of the database. -/
theorem ReservationKeys.all (keys : ReservationKeys db) :
    db.reservations db.accountSha256 = db.riskReservations := by
  rw [Database.reservations, List.filter_eq_self]
  exact fun row mem => decide_eq_true (keys.decided row mem).account

/-- A row that is inserted is bound, and its keys are new. -/
theorem ReservationKeys.insert (keys : ReservationKeys db)
    (inserted : insertReservation db new nowAt = .ok db') : ReservationKeys db' := by
  obtain ⟨passed, -, fresh, rfl⟩ := insertReservation_ok inserted
  obtain ⟨decided, -⟩ := enforceRiskReservation_ok passed
  rw [decided.account, keys.all] at fresh
  constructor
  · intro row mem
    rcases List.mem_append.1 mem with old | last
    · obtain ⟨account, decision⟩ := keys.decided row old
      exact ⟨account, decision⟩
    · rw [List.mem_singleton.1 last]
      obtain ⟨account, decision⟩ := decided
      exact ⟨account, decision⟩
  · exact nodup_map_append keys.effects fun row old => (fresh row old).1
  · exact nodup_map_append keys.requests fun row old => (fresh row old).2

theorem ReservationKeys.committed (keys : ReservationKeys db) (committed : Committed db db') :
    ReservationKeys db' := by
  rcases committed.reservations with same | ⟨new, nowAt, inserted, -⟩
  · constructor
    · intro row mem
      rw [same] at mem
      exact (keys.decided row mem).committed committed
    · rw [same]
      exact keys.effects
    · rw [same]
      exact keys.requests
  · exact keys.insert inserted

/-- Every reservation that is unreleased counts. -/
theorem totals_of_unjoined (schema : db.schema = .V2) (accountSha256 : Digest) :
    db.totals accountSha256 =
      { riskUsd := ((db.reservations accountSha256).map (·.riskUsd)).sum
        notionalUsd := ((db.reservations accountSha256).map (·.notionalUsd)).sum
        baseRisk := maxOf ((db.reservations accountSha256).map (·.aggregateOpenRiskUsd))
        baseNotional := maxOf ((db.reservations accountSha256).map (·.aggregateOpenNotionalUsd))
        dailyRealized := maxOf ((db.reservations accountSha256).map (·.dailyRealizedLossUsd))
        accountEquity := minOf ((db.reservations accountSha256).map (·.accountEquityUsd))
        dollarCap := minOf ((db.reservations accountSha256).map (·.dollarCap))
        dailyStop := minOf ((db.reservations accountSha256).map (·.dailyStopLossUsd))
        realizedCharge := 0 } := by
  have counted : db.counted accountSha256 =
      (db.reservations accountSha256).map fun row => (row, none) := by
    rw [Database.counted, schema]
  have uncharged : ((db.reservations accountSha256).map fun _ => (0 : ℚ)).sum = 0 := by simp
  simp only [Database.totals, counted, List.map_map, Function.comp_def, unreleased, charge,
    Option.isNone_none, if_true, Option.map_none, Option.getD_none, uncharged]

/-- No transaction changes the account or the schema. -/
theorem Committed.identity (committed : Committed db db') :
    db'.accountSha256 = db.accountSha256 ∧ db'.schema = db.schema := by
  cases committed with
  | reservation new nowAt fresh inserted =>
    obtain ⟨-, -, -, rfl⟩ := insertReservation_ok inserted
    exact ⟨rfl, rfl⟩
  | release new clock inserted =>
    obtain ⟨-, -, -, rfl⟩ := insertRelease_ok inserted
    exact ⟨rfl, rfl⟩
  | _ => exact ⟨rfl, rfl⟩

/-- In the schema without releases all reservations together are within the caps. -/
theorem withinCaps_of_run (run : Run p db) : ReservationKeys db ∧ (db.schema = .V2 →
    WithinCaps db.riskReservations (db.riskReservations.map (·.notionalUsd)).sum
      (db.riskReservations.map (·.riskUsd)).sum (db.riskReservations.map (·.riskUsd)).sum) := by
  apply run.induction
  · intro schema databaseUuid accountSha256
    refine ⟨⟨fun _ mem => (nomatch mem), .nil, .nil⟩, fun _ => ?_⟩
    exact ⟨fun _ none' => (nomatch none'), fun _ none' => (nomatch none'),
      fun _ none' => (nomatch none')⟩
  · rintro db db' ⟨keys, within⟩ committed
    refine ⟨keys.committed committed, fun schema => ?_⟩
    rw [committed.identity.2] at schema
    rcases committed.reservations with same | ⟨new, nowAt, inserted, changed⟩
    · rw [same]
      exact within schema
    · obtain ⟨decided, room⟩ := enforceRiskReservation_ok (insertReservation_ok inserted).1
      rw [totals_of_unjoined schema, decided.account, keys.all] at room
      have bounds := withinCaps_of_room rfl rfl rfl rfl rfl rfl room
      rw [changed]
      simpa using bounds

/-- The rows of another account are none. -/
theorem ReservationKeys.others (keys : ReservationKeys db) {accountSha256 : Digest}
    (apart : accountSha256 ≠ db.accountSha256) : db.reservations accountSha256 = [] := by
  rw [Database.reservations, List.filter_eq_nil_iff]
  intro row mem same
  have account := (keys.decided row mem).account
  rw [of_decide_eq_true same] at account
  exact apart account

end Steps

section Again

variable {p : Primitives Digest} {db db' : Database Digest} {context : ProductionContext Digest}
  {maxSnapshotAge : ℤ} {request : ManagedSigningRequest Digest} {binding : CustodyBinding Digest}
  {evidence : SigningEvidence Digest} {dbNow nowAt : Timestamp}

/-- The lineage of an entry is of the decision that its evidence holds. -/
theorem verifyLineage_decision
    (lineage : verifyLineage p db context request evidence maxSnapshotAge dbNow = .ok ()) :
    ∃ risk, db.riskDecision (p.sha256 (.context context)) request.requestId = some risk ∧
      risk.observedAt = evidence.risk.observedAt := by
  unfold verifyLineage at lineage
  obtain ⟨_, -, lineage⟩ := bind_eq_ok.1 lineage
  obtain ⟨risk, found, lineage⟩ := bind_eq_ok.1 lineage
  obtain ⟨_, same, -⟩ := bind_eq_ok.1 lineage
  simp only [refuse_eq_ok, decide_eq_false_iff_not, not_or, not_not] at same
  exact ⟨risk, required_eq_ok.1 found, same.2.1⟩

/-- A row that is not rebound, of a decision seen at the same time, is the same row. -/
theorem eq_of_not_rebound {existing new : ReservationRow Digest}
    (same : reboundReservation existing new = false) (effect : existing.effectId = new.effectId)
    (observed : existing.observedAt = new.observedAt) : existing = new := by
  simp only [reboundReservation, decide_eq_false_iff_not, not_or, not_not] at same
  obtain ⟨context, arm, account, request, decision, risk, notional, equity, daily, openRisk,
    openNotional, cap, stop, evidence, digest⟩ := same
  obtain ⟨⟩ := existing
  obtain ⟨⟩ := new
  simp only at *
  simp only [*]

/-- An effect that is reserved already is reserved again by the same row only, and that adds
nothing. -/
theorem ReservationKeys.again (keys : ReservationKeys db) {existing : ReservationRow Digest}
    (mem : existing ∈ db.riskReservations) (effect : existing.effectId = evidence.risk.effectId)
    (ok : reserveEntry p db context maxSnapshotAge request binding evidence dbNow nowAt = .ok db') :
    db' = db ∧ (request.operation.exit = false → ∃ message notional,
      typedMessage p request binding = .ok message ∧ entryNotionalUsd p message = .ok notional ∧
      existing = reservationRow p context request binding evidence notional) := by
  rcases reserveEntry_ok ok with ⟨exit, same⟩ | ⟨message, notional, typed, amount, inspected, lineage, ok⟩
  · exact ⟨same, fun entry => absurd (exit.symm.trans entry) nofun⟩
  have account : db.accountSha256 = accountScopeSha256 p context := by
    simpa [inspect] using inspected
  have own : (reservationRow p context request binding evidence notional).accountSha256 =
      db.accountSha256 := account.symm
  rcases reserveRow_ok ok with ⟨found, isFound, unbound, same⟩ | ⟨absent, -⟩
  · refine ⟨same, fun _ => ⟨message, notional, typed, amount, ?_⟩⟩
    rw [own, keys.all] at isFound
    have foundEffect : found.effectId = evidence.risk.effectId := by
      have matched := List.find?_some isFound
      exact of_decide_eq_true matched
    -- the effect has one row
    have isExisting : existing = found := by
      apply List.inj_on_of_nodup_map keys.effects mem (List.mem_of_find?_eq_some isFound)
      rw [effect, foundEffect]
    rw [isExisting]
    apply eq_of_not_rebound unbound foundEffect
    -- and its decision is the one of the request
    obtain ⟨risk, decided, observed, -⟩ := (keys.decided found (List.mem_of_find?_eq_some isFound)).decision
    obtain ⟨risk', decided', observed'⟩ := verifyLineage_decision lineage
    simp only [reboundReservation, decide_eq_false_iff_not, not_or, not_not] at unbound
    rw [unbound.1, unbound.2.2.2.1] at decided
    change db.riskDecision (p.sha256 (.context context)) request.requestId = some risk at decided
    rw [decided'] at decided
    cases decided
    exact observed.symm.trans observed'
  · rw [own, keys.all, List.find?_eq_none] at absent
    exact absurd (decide_eq_true effect) (absent existing mem)

/-- In the schema without releases: along every run the reservations of an account, all of
them, are within its caps, an effect and a signing request have one row each, and an effect
that is reserved again adds nothing and repeats its row. -/
theorem reservations_within_caps (run : Run p db) (schema : db.schema = .V2) (accountSha256 : Digest) :
    WithinCaps (db.reservations accountSha256)
      ((db.reservations accountSha256).map (·.notionalUsd)).sum
      ((db.reservations accountSha256).map (·.riskUsd)).sum
      ((db.reservations accountSha256).map (·.riskUsd)).sum ∧
    ((db.reservations accountSha256).map (·.effectId)).Nodup ∧
    ((db.reservations accountSha256).map (·.signingRequestId)).Nodup ∧
    ∀ existing ∈ db.reservations accountSha256,
      ∀ context maxSnapshotAge request binding evidence dbNow nowAt db',
      existing.effectId = evidence.risk.effectId →
      reserveEntry p db context maxSnapshotAge request binding evidence dbNow nowAt = .ok db' →
      db' = db ∧ (request.operation.exit = false → ∃ message notional,
        typedMessage p request binding = .ok message ∧ entryNotionalUsd p message = .ok notional ∧
        existing = reservationRow p context request binding evidence notional) := by
  obtain ⟨keys, within⟩ := withinCaps_of_run run
  by_cases own : accountSha256 = db.accountSha256
  · rw [own, keys.all]
    refine ⟨within schema, keys.effects, keys.requests, ?_⟩
    intro existing mem context maxSnapshotAge request binding evidence dbNow nowAt db' effect ok
    exact keys.again mem effect ok
  · rw [keys.others own]
    exact ⟨⟨fun _ none' => (nomatch none'), fun _ none' => (nomatch none'),
      fun _ none' => (nomatch none')⟩, .nil, .nil, fun _ mem => (nomatch mem)⟩

end Again

/-- A reservation of one dollar, on baselines of one dollar. -/
theorem reservations_within_caps_sample :
    ((sampleDatabase .V2).reservations 12).map (·.notionalUsd) = [1] ∧
    WithinCaps ((sampleDatabase .V2).reservations 12)
      (((sampleDatabase .V2).reservations 12).map (·.notionalUsd)).sum
      (((sampleDatabase .V2).reservations 12).map (·.riskUsd)).sum
      (((sampleDatabase .V2).reservations 12).map (·.riskUsd)).sum :=
  ⟨by decide +kernel, (reservations_within_caps (sampleDatabase_run .V2) (by decide +kernel) 12).1⟩

end KairosExecution.Production
