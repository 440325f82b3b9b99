import KairosExecution.Production.Caps

/-! The ledger of reservations with releases. A release joins one reservation, and a
reservation is joined by one release at most, so that the left join of the query counts
each row once: the maxima and minima are those of the whole history, released or not, the
sums are those of the unreleased rows, and the charges those of all releases. A release
is of a receipt that matches its reservation and the decision of that; it leaves the
reservations, and its charge is not negative whatever the trade made. -/

namespace KairosExecution.Production

open Python Table

variable {Digest : Type} [DecidableEq Digest]

section Law

/-- A release of a reservation by a receipt, under a decision. -/
structure ReleaseOf (release : ReleaseRow Digest) (t : ReceiptRow Digest) (r : ReservationRow Digest)
    (d : RiskRow Digest) : Prop where
  receiptId : t.receiptId = release.receiptId
  context : t.contextSha256 = r.contextSha256
  account : t.accountSha256 = r.accountSha256 ∧ release.accountSha256 = r.accountSha256
  effect : t.effectId = r.effectId ∧ release.effectId = r.effectId
  ownerArm : t.ownerArmSha256 = r.ownerArmSha256
  request : t.reservationRequestSha256 = r.requestSha256
  decision : t.signingRequestId = r.signingRequestId ∧ t.decisionId = r.decisionId ∧
    d.signingRequestId = r.signingRequestId ∧ d.contextSha256 = r.contextSha256 ∧
    d.payloadSha256 = r.evidenceSha256
  side : d.payload.side = some t.entrySide
  client : d.payload.clientOrderId = some t.clientOrderId
  flat : t.residualPositionQuantity = 0 ∧ t.residualOrderCount = 0 ∧ t.residualProtectionCount = 0 ∧
    t.unownedExposureCount = 0
  closed : 0 < t.entryFilledQuantity ∧ t.entryFilledQuantity = t.closedQuantity
  charge : release.lossChargeUsd =
    max 0 (-release.grossPnlUsd) + release.feesUsd + max 0 release.fundingCostUsd
  charge_nonneg : 0 ≤ release.lossChargeUsd

/-- Every release is of a reservation and a receipt, of which no other release is. -/
structure ReleaseLedger (db : Database Digest) : Prop where
  bound : ∀ release ∈ db.acceptedReleases, ∃ t ∈ db.terminalReceipts, ∃ r ∈ db.riskReservations,
    ∃ d ∈ db.riskDecisions, ReleaseOf release t r d
  effects : (db.acceptedReleases.map (·.effectId)).Nodup
  receipts : (db.acceptedReleases.map (·.receiptId)).Nodup

/-- The reservations of an account that no release joins. -/
def Database.unreleasedRows (db : Database Digest) (accountSha256 : Digest) :
    List (ReservationRow Digest) :=
  (db.reservations accountSha256).filter fun row => (db.releasesOf row).isEmpty

/-- What the releases of an account charge. -/
def Database.chargesUsd (db : Database Digest) (accountSha256 : Digest) : ℚ :=
  ((db.acceptedReleases.filter (·.accountSha256 = accountSha256)).map (·.lossChargeUsd)).sum

/-- The floors and the caps of the history that a query finds stay, and its charges are not
lowered. -/
structure Retained (before after : Totals) : Prop where
  baseRisk : after.baseRisk = before.baseRisk
  baseNotional : after.baseNotional = before.baseNotional
  dailyRealized : after.dailyRealized = before.dailyRealized
  accountEquity : after.accountEquity = before.accountEquity
  dollarCap : after.dollarCap = before.dollarCap
  dailyStop : after.dailyStop = before.dailyStop
  charged : before.realizedCharge ≤ after.realizedCharge

end Law

section Steps

variable {p : Primitives Digest} {db db' : Database Digest} {new : ReleaseRow Digest} {clock : Timestamp}

/-- The guard has found what the release is of. -/
theorem enforceRelease_ok (passed : enforceRelease db new clock = .ok ())
    (columns : 0 ≤ new.lossChargeUsd ∧
      new.lossChargeUsd = max 0 (-new.grossPnlUsd) + new.feesUsd + max 0 new.fundingCostUsd) :
    ∃ t ∈ db.terminalReceipts, ∃ r ∈ db.riskReservations, ∃ d ∈ db.riskDecisions,
      ReleaseOf new t r d := by
  unfold enforceRelease at passed
  obtain ⟨t, isReceipt, passed⟩ := bind_eq_ok.1 passed
  obtain ⟨r, isReservation, passed⟩ := bind_eq_ok.1 passed
  obtain ⟨_, -, passed⟩ := bind_eq_ok.1 passed
  obtain ⟨d, isDecision, passed⟩ := bind_eq_ok.1 passed
  obtain ⟨_, same, -⟩ := bind_eq_ok.1 passed
  rw [required_eq_ok] at isReceipt isReservation isDecision
  have receiptId := List.find?_some isReceipt
  have effect := List.find?_some isReservation
  have decided := List.find?_some isDecision
  obtain ⟨reserved, account⟩ := List.mem_filter.1 (List.mem_of_find?_eq_some isReservation)
  simp only [decide_eq_true_eq] at receiptId effect decided account
  simp only [differsFromLineage, notTerminal, refuse_eq_ok, decide_eq_false_iff_not, decide_eq_true_eq,
    not_or, not_not, not_le, not_lt] at same
  obtain ⟨lineage, terminal, -⟩ := same
  obtain ⟨-, -, -, context, context', account', effect', -, -, arm, arm', request, request',
    signing, decision, side, client, evidence⟩ := lineage
  obtain ⟨-, -, -, unowned, position, orders, protections, filled, closed, -⟩ := terminal
  refine ⟨t, List.mem_of_find?_eq_some isReceipt, r, reserved, d, List.mem_of_find?_eq_some isDecision, ?_⟩
  exact {
    receiptId := receiptId
    context := context.trans context'.symm
    account := ⟨account'.trans account.symm, account.symm⟩
    effect := ⟨effect'.trans effect.symm, effect.symm⟩
    ownerArm := arm.trans arm'.symm
    request := request.trans request'.symm
    decision := ⟨signing, decision, decided.2, decided.1, evidence⟩
    side := side.symm
    client := client.symm
    flat := ⟨position, orders, protections, unowned⟩
    closed := ⟨filled, closed⟩
    charge := columns.2
    charge_nonneg := columns.1 }

/-- No transaction removes a receipt, a reservation or a decision. -/
theorem Committed.grows (committed : Committed db db') : db.terminalReceipts ⊆ db'.terminalReceipts ∧
    db.riskReservations ⊆ db'.riskReservations ∧ db.riskDecisions ⊆ db'.riskDecisions := by
  cases committed with
  | risk row fresh => exact ⟨fun _ mem => mem, fun _ mem => mem, List.subset_append_left _ _⟩
  | receipt row fresh => exact ⟨List.subset_append_left _ _, fun _ mem => mem, fun _ mem => mem⟩
  | reservation new nowAt fresh inserted =>
    obtain ⟨-, -, -, rfl⟩ := insertReservation_ok inserted
    exact ⟨fun _ mem => mem, List.subset_append_left _ _, fun _ mem => mem⟩
  | release new clock inserted =>
    obtain ⟨-, -, -, rfl⟩ := insertRelease_ok inserted
    exact ⟨fun _ mem => mem, fun _ mem => mem, fun _ mem => mem⟩
  | _ => exact ⟨fun _ mem => mem, fun _ mem => mem, fun _ mem => mem⟩

/-- A transaction other than of a release leaves the releases. -/
theorem Committed.releases (committed : Committed db db') :
    db'.acceptedReleases = db.acceptedReleases ∨ ∃ new clock, insertRelease db new clock = .ok db' := by
  cases committed with
  | reservation new nowAt fresh inserted =>
    obtain ⟨-, -, -, rfl⟩ := insertReservation_ok inserted
    exact .inl rfl
  | release new clock inserted => exact .inr ⟨new, clock, inserted⟩
  | _ => exact .inl rfl

/-- All the releases are of the account of the database. -/
theorem ReleaseLedger.account (ledger : ReleaseLedger db) (keys : ReservationKeys db)
    {release : ReleaseRow Digest} (mem : release ∈ db.acceptedReleases) :
    release.accountSha256 = db.accountSha256 := by
  obtain ⟨t, -, r, reserved, d, -, bound⟩ := ledger.bound release mem
  exact bound.account.2.trans (keys.decided r reserved).account

theorem ReleaseLedger.committed (ledger : ReleaseLedger db) (keys : ReservationKeys db)
    (committed : Committed db db') : ReleaseLedger db' := by
  obtain ⟨receipts, reservations, decisions⟩ := committed.grows
  have kept : ∀ release ∈ db.acceptedReleases, ∃ t ∈ db'.terminalReceipts, ∃ r ∈ db'.riskReservations,
      ∃ d ∈ db'.riskDecisions, ReleaseOf release t r d := by
    intro release mem
    obtain ⟨t, isReceipt, r, reserved, d, decided, bound⟩ := ledger.bound release mem
    exact ⟨t, receipts isReceipt, r, reservations reserved, d, decisions decided, bound⟩
  rcases committed.releases with same | ⟨new, clock, inserted⟩
  · exact ⟨same ▸ kept, same ▸ ledger.effects, same ▸ ledger.receipts⟩
  · obtain ⟨passed, columns, fresh, changed⟩ := insertRelease_ok inserted
    obtain ⟨t, isReceipt, r, reserved, d, decided, bound⟩ :=
      enforceRelease_ok passed ⟨columns.2.1, columns.2.2.2⟩
    have all : db'.acceptedReleases = db.acceptedReleases ++ [new] := by rw [changed]
    refine ⟨?_, ?_, ?_⟩
    · intro release mem
      rw [all] at mem
      rcases List.mem_append.1 mem with old | last
      · exact kept release old
      · rw [List.mem_singleton.1 last]
        exact ⟨t, receipts isReceipt, r, reservations reserved, d, decisions decided, bound⟩
    · rw [all]
      apply nodup_map_append ledger.effects
      intro release mem
      apply ((fresh release mem).2 _).1
      rw [ledger.account keys mem, bound.account.2, (keys.decided r reserved).account]
    · rw [all]
      exact nodup_map_append ledger.receipts fun release mem => (fresh release mem).1

theorem releaseLedger_of_run (run : Run p db) : ReservationKeys db ∧ ReleaseLedger db := by
  apply run.induction
  · intro schema databaseUuid accountSha256
    exact ⟨⟨fun _ mem => (nomatch mem), .nil, .nil⟩, ⟨fun _ mem => (nomatch mem), .nil, .nil⟩⟩
  · rintro db db' ⟨keys, ledger⟩ committed
    exact ⟨keys.committed committed, ledger.committed keys committed⟩

end Steps

section Totals

variable {p : Primitives Digest} {db db' : Database Digest}

/-- A reservation is joined by one release at most. -/
theorem ReleaseLedger.single (ledger : ReleaseLedger db) (row : ReservationRow Digest) :
    (db.releasesOf row).length ≤ 1 := by
  have fewer : (db.releasesOf row).length ≤
      (db.acceptedReleases.filter (·.effectId = row.effectId)).length := by
    unfold Database.releasesOf
    apply List.Sublist.length_le
    apply List.monotone_filter_right
    intro release joined
    exact decide_eq_true (of_decide_eq_true joined).2
  exact fewer.trans (length_filter_key_le_one ledger.effects row.effectId)

/-- The releases that join the reservations are all of them. -/
theorem ReleaseLedger.joined (ledger : ReleaseLedger db) (keys : ReservationKeys db) :
    (db.riskReservations.flatMap db.releasesOf).Perm db.acceptedReleases := by
  have distinct : (db.riskReservations.map fun row => (row.accountSha256, row.effectId)).Nodup := by
    apply List.Nodup.of_map Prod.snd
    rw [List.map_map]
    exact keys.effects
  have covered : ∀ release ∈ db.acceptedReleases, (release.accountSha256, release.effectId) ∈
      db.riskReservations.map fun row => (row.accountSha256, row.effectId) := by
    intro release mem
    obtain ⟨t, -, r, reserved, d, -, bound⟩ := ledger.bound release mem
    rw [bound.account.2, bound.effect.2]
    exact List.mem_map.2 ⟨r, reserved, rfl⟩
  have all := flatMap_filter_perm distinct covered
  simp only [Prod.mk.injEq] at all
  exact all

/-- The totals of the query are of the whole history, of the unreleased rows, and of all
the releases. -/
theorem totals_of_joined (ledger : ReleaseLedger db) (keys : ReservationKeys db) (schema : db.schema = .V3) :
    db.totals db.accountSha256 =
      { riskUsd := ((db.unreleasedRows db.accountSha256).map (·.riskUsd)).sum
        notionalUsd := ((db.unreleasedRows db.accountSha256).map (·.notionalUsd)).sum
        baseRisk := maxOf (db.riskReservations.map (·.aggregateOpenRiskUsd))
        baseNotional := maxOf (db.riskReservations.map (·.aggregateOpenNotionalUsd))
        dailyRealized := maxOf (db.riskReservations.map (·.dailyRealizedLossUsd))
        accountEquity := minOf (db.riskReservations.map (·.accountEquityUsd))
        dollarCap := minOf (db.riskReservations.map (·.dollarCap))
        dailyStop := minOf (db.riskReservations.map (·.dailyStopLossUsd))
        realizedCharge := db.chargesUsd db.accountSha256 } := by
  have counted : db.counted db.accountSha256 = leftJoin db.releasesOf db.riskReservations := by
    rw [Database.counted, schema, keys.all]
  have rows : (leftJoin db.releasesOf db.riskReservations).map Prod.fst = db.riskReservations :=
    leftJoin_fst fun row _ => ledger.single row
  have column : ∀ f : ReservationRow Digest → ℚ,
      (leftJoin db.releasesOf db.riskReservations).map (fun entry => f entry.1) =
        db.riskReservations.map f := by
    intro f
    conv_rhs => rw [← rows, List.map_map]
    rfl
  have sums : ∀ f : ReservationRow Digest → ℚ,
      ((leftJoin db.releasesOf db.riskReservations).map (unreleased f)).sum =
        ((db.unreleasedRows db.accountSha256).map f).sum := by
    intro f
    rw [Database.unreleasedRows, keys.all]
    exact leftJoin_sum_fst db.releasesOf db.riskReservations f
  have charged : ((leftJoin db.releasesOf db.riskReservations).map charge).sum =
      db.chargesUsd db.accountSha256 := by
    have own : db.acceptedReleases.filter (·.accountSha256 = db.accountSha256) = db.acceptedReleases := by
      rw [List.filter_eq_self]
      exact fun release mem => decide_eq_true (ledger.account keys mem)
    rw [Database.chargesUsd, own, ← ((ledger.joined keys).map _).sum_eq]
    exact leftJoin_sum_snd db.releasesOf db.riskReservations (·.lossChargeUsd)
  simp only [Database.totals, counted, column, sums, charged]

/-- A row that is inserted is not released, and with it the account is within its caps. -/
theorem ReleaseLedger.reserved (ledger : ReleaseLedger db) (keys : ReservationKeys db)
    (schema : db.schema = .V3) {new : ReservationRow Digest} {nowAt : Timestamp}
    (inserted : insertReservation db new nowAt = .ok db') :
    WithinCaps db'.riskReservations
      ((db'.unreleasedRows db.accountSha256).map (·.notionalUsd)).sum
      ((db'.unreleasedRows db.accountSha256).map (·.riskUsd)).sum
      (db'.chargesUsd db.accountSha256 +
        ((db'.unreleasedRows db.accountSha256).map (·.riskUsd)).sum) := by
  obtain ⟨passed, -, fresh, rfl⟩ := insertReservation_ok inserted
  obtain ⟨decided, room⟩ := enforceRiskReservation_ok passed
  rw [decided.account, totals_of_joined ledger keys schema] at room
  rw [decided.account, keys.all] at fresh
  have unjoined : (db.releasesOf new).isEmpty = true := by
    rw [List.isEmpty_iff, Database.releasesOf, List.filter_eq_nil_iff]
    intro release mem joins
    obtain ⟨t, -, r, reserved, d, -, bound⟩ := ledger.bound release mem
    have effect := (of_decide_eq_true joins).2
    exact (fresh r reserved).1 (bound.effect.2.symm.trans effect)
  have own : [new].filter (·.accountSha256 = db.accountSha256) = [new] := by
    simp [decided.account]
  have rows : Database.unreleasedRows { db with riskReservations := db.riskReservations ++ [new] }
      db.accountSha256 = db.unreleasedRows db.accountSha256 ++ [new] := by
    show ((db.riskReservations ++ [new]).filter _).filter (fun row => (db.releasesOf row).isEmpty) = _
    rw [List.filter_append, own, List.filter_append, List.filter_singleton, unjoined]
    rfl
  rw [rows]
  have bounds := withinCaps_of_room rfl rfl rfl rfl rfl rfl room
  simpa [Database.chargesUsd] using bounds

/-- A release leaves every reservation, floor and cap, and adds a charge. -/
theorem ReleaseLedger.released (ledger : ReleaseLedger db) (keys : ReservationKeys db)
    (schema : db.schema = .V3) {new : ReleaseRow Digest} {clock : Timestamp}
    (inserted : insertRelease db new clock = .ok db') :
    db'.riskReservations = db.riskReservations ∧
      Retained (db.totals db.accountSha256) (db'.totals db.accountSha256) := by
  have committed : Committed db db' := .release new clock inserted
  have ledger' := ledger.committed keys committed
  have keys' := keys.committed committed
  obtain ⟨-, columns, -, changed⟩ := insertRelease_ok inserted
  have rows : db'.riskReservations = db.riskReservations := by rw [changed]
  obtain ⟨account, schema'⟩ := committed.identity
  have after := totals_of_joined ledger' keys' (schema'.trans schema)
  rw [account, rows] at after
  rw [totals_of_joined ledger keys schema, after]
  refine ⟨rows, rfl, rfl, rfl, rfl, rfl, rfl, ?_⟩
  show db.chargesUsd db.accountSha256 ≤ db'.chargesUsd db.accountSha256
  rw [changed]
  unfold Database.chargesUsd
  rw [List.filter_append, List.map_append, List.sum_append, List.filter_singleton]
  -- what is added is the charge of the release, or nothing
  cases decide (new.accountSha256 = db.accountSha256)
  · simp
  · simpa using columns.2.1

/-- In the schema with releases: along every run a newly committed reservation is within the
caps of the whole history, by what is unreleased and what was charged; a reservation is
released at most once, and by a receipt of its own; and an acceptance leaves every
reservation, floor and cap, and lowers no charge. -/
theorem releases_keep_caps (run : Run p db) (schema : db.schema = .V3) :
    (∀ call db', Call.apply p db call = .ok db' →
      ∀ new ∈ db'.riskReservations, new ∉ db.riskReservations →
        WithinCaps (db'.reservations new.accountSha256)
          ((db'.unreleasedRows new.accountSha256).map (·.notionalUsd)).sum
          ((db'.unreleasedRows new.accountSha256).map (·.riskUsd)).sum
          (db'.chargesUsd new.accountSha256 +
            ((db'.unreleasedRows new.accountSha256).map (·.riskUsd)).sum)) ∧
    ReleaseLedger db ∧
    ∀ databaseUuid context receiptId receiptPayloadSha256 now clock db' returned,
      acceptTerminalReceipt p db databaseUuid context receiptId receiptPayloadSha256 now clock =
        .ok (db', returned) →
      db'.riskReservations = db.riskReservations ∧
        Retained (db.totals db.accountSha256) (db'.totals db.accountSha256) := by
  obtain ⟨keys, ledger⟩ := releaseLedger_of_run run
  refine ⟨?_, ledger, ?_⟩
  · intro call db' ok new mem fresh
    have committed := Call.committed ok
    have keys' := keys.committed committed
    have own : new.accountSha256 = db.accountSha256 :=
      (keys'.decided new mem).account.trans committed.identity.1
    rcases committed.reservations with same | ⟨row, nowAt, inserted, -⟩
    · rw [same] at mem
      exact absurd mem fresh
    · have within := ledger.reserved keys schema inserted
      rw [own, ← committed.identity.1, keys'.all]
      rwa [← committed.identity.1] at within
  · intro databaseUuid context receiptId receiptPayloadSha256 now clock db' returned accepted
    rcases acceptTerminalReceipt_ok accepted with rfl | ⟨new, -, inserted⟩
    · exact ⟨rfl, rfl, rfl, rfl, rfl, rfl, rfl, le_refl _⟩
    · exact ledger.released keys schema inserted

end Totals

section Samples

/-- The receipt of the sample's entry, bought at one dollar and sold at two. -/
def sampleReceipt : ReceiptColumns ℕ where
  databaseUuid := 7
  contextSha256 := 11
  accountSha256 := 12
  tradeId := "trade"
  decisionId := "decision"
  effectId := 20
  signingRequestId := "request"
  clientOrderId := sampleOrderId
  entryFilledQuantity := 1
  closedQuantity := 1
  entryNotionalUsd := 1
  exitNotionalUsd := 2
  entryFeesUsd := 1
  exitFeesUsd := 0
  venueComplete := true
  venueTerminal := true
  collectionStartedAt := seconds 10
  collectionFinishedAt := seconds 10
  observedAt := seconds 10
  residualPositionQuantity := 0
  residualOrderCount := 0
  residualProtectionCount := 0
  entrySide := .BUY
  fundingCostUsd := 0
  fundingComplete := true
  settledAt := seconds 10
  ownerArmSha256 := 15
  reservationRequestSha256 := 21
  unownedExposureCount := 0

/-- The sample's reservation is released, and the risk of another entry is decided. -/
def sampleReleased : Database ℕ :=
  match applyAll samplePrimitives (sampleDatabase .V3) [
    .insertReceipt 1 sampleReceipt sampleReceipt 22 (seconds 11),
    .acceptTerminalReceipt 7 sampleContext 1 22 (seconds 11) (seconds 11),
    .appendRiskDecision sampleContext (sampleEntryOf "next request" 23).risk] with
  | .ok db => db
  | .error _ => sampleDatabase .V3

theorem sampleReleased_run : Run samplePrimitives sampleReleased := by
  unfold sampleReleased
  split
  next db ok => exact (sampleDatabase_run .V3).applyAll ok
  next => exact sampleDatabase_run .V3

/-- The other entry is reserved: of two reservations one is released, at a charge of its fee. -/
theorem releases_keep_caps_sample :
    ∃ db', (sampleReserve "next request" 23).apply samplePrimitives sampleReleased = .ok db' ∧
      ∃ new ∈ db'.riskReservations, new ∉ sampleReleased.riskReservations ∧
        WithinCaps (db'.reservations new.accountSha256)
          ((db'.unreleasedRows new.accountSha256).map (·.notionalUsd)).sum
          ((db'.unreleasedRows new.accountSha256).map (·.riskUsd)).sum
          (db'.chargesUsd new.accountSha256 +
            ((db'.unreleasedRows new.accountSha256).map (·.riskUsd)).sum) := by
  have added : ((sampleReserve "next request" 23).apply samplePrimitives sampleReleased).toOption.any
      (fun db' => db'.riskReservations.any fun new => new ∉ sampleReleased.riskReservations) = true := by
    decide +kernel
  cases ok : (sampleReserve "next request" 23).apply samplePrimitives sampleReleased with
  | error error =>
    rw [ok] at added
    cases added
  | ok db' =>
    rw [ok] at added
    obtain ⟨new, mem, fresh⟩ := List.any_eq_true.1 added
    refine ⟨db', rfl, new, mem, of_decide_eq_true fresh, ?_⟩
    have schema : sampleReleased.schema = .V3 := by decide +kernel
    exact (releases_keep_caps sampleReleased_run schema).1 _ db' ok new mem (of_decide_eq_true fresh)

end Samples

end KairosExecution.Production
