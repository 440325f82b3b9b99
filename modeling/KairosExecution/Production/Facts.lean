import KairosExecution.Production.Records
import KairosExecution.Python.Context
import KairosExecution.Python.Dump

/-! The facts of production evidence, a schema for each kind. A record carries what its
validators ask for, so that facts that a schema refuses cannot be built. `dump` writes a
record under the names of its fields; a leaf keeps whether its field is a digest. -/

namespace KairosExecution.Production.Evidence

open Python

section Leaves

/-- `Digest`: 64 hexadecimal digits in lower case -/
structure HexDigest where
  text : String
  valid : text.length = 64 ∧ text.toList.all (fun c => c.isDigit || ('a' ≤ c && c ≤ 'f')) = true
  deriving DecidableEq

structure Identity where
  text : String
  valid : 1 ≤ text.length ∧ text.length ≤ 160 ∧
    text.toList.all (fun c => c.isAlphanum || c = '_' || c = '.' || c = ':' || c = '-') = true
  deriving DecidableEq

/-- A scalar that is dumped. -/
inductive Leaf
  | digest (value : HexDigest)
  | text (value : String)
  | int (value : ℤ)
  | decimal (value : ℚ)
  | date (day : ℤ)
  | time (value : Timestamp)
  deriving DecidableEq

abbrev Json := Dump Leaf

/-- The fields of a record. -/
abbrev Fields := List (String × Json)

def digest (value : HexDigest) : Json := .leaf (.digest value)
def text (value : String) : Json := .leaf (.text value)
def identity (value : Identity) : Json := .leaf (.text value.text)
def int (value : ℤ) : Json := .leaf (.int value)
def decimal (value : ℚ) : Json := .leaf (.decimal value)
def time (value : Timestamp) : Json := .leaf (.time value)

/-- A tuple of what is dumped one by one. -/
def tuple {α : Type} (dump : α → Json) (items : List α) : Json := .list (items.map dump)

/-- Midnight of a day, counted from the epoch. -/
def midnight (day : ℤ) : Timestamp := day * seconds 86_400

/-- `value.date()` -/
def dateOf (value : Timestamp) : ℤ := value / seconds 86_400

/-- An operation of the decimal context. -/
abbrev context (x : ℚ) : ℚ := Context.default.round x

inductive Symbol
  | BTC | ETH | SOL | BNB | XRP
  deriving DecidableEq

def Symbol.text : Symbol → String
  | .BTC => "BTC"
  | .ETH => "ETH"
  | .SOL => "SOL"
  | .BNB => "BNB"
  | .XRP => "XRP"

end Leaves

section Schemas

/-- `EvidenceArtifactsV1` -/
structure Artifacts where
  artifactSha256s : List HexDigest
  count : 1 ≤ artifactSha256s.length ∧ artifactSha256s.length ≤ 10_000
  unique : artifactSha256s.Nodup

def Artifacts.dump (facts : Artifacts) : Fields := [
  ("schema_version", text "kairos.production-gate-facts.v1"),
  ("artifact_sha256s", tuple digest facts.artifactSha256s)]

/-- `SymbolDayV1` -/
structure SymbolDay where
  symbol : Symbol
  barsSha256 : HexDigest

def SymbolDay.dump (item : SymbolDay) : Json := .dict [
  ("symbol", text item.symbol.text),
  ("bars_sha256", digest item.barsSha256),
  ("closed_one_minute_bars", int 1440),
  ("missing_bars", int 0),
  ("conflicting_bars", int 0)]

/-- `CompleteDayV1` -/
structure CompleteDay where
  day : ℤ
  symbols : List SymbolDay
  five : symbols.length = 5
  complete : ∀ symbol, symbol ∈ symbols.map (·.symbol)

def CompleteDay.dump (item : CompleteDay) : Json := .dict [
  ("day", .leaf (.date item.day)),
  ("symbols", tuple SymbolDay.dump item.symbols)]

/-- `ForwardFactsV1` -/
structure ForwardFacts extends Artifacts where
  campaignId : Identity
  evaluatorSha256 : HexDigest
  observationStartedAt : Timestamp
  sealedAt : Timestamp
  days : List CompleteDay
  many : 365 ≤ days.length ∧ days.length ≤ 10_000
  ordered : (days.map (·.day)).Pairwise (· < ·)
  consecutive : (days.map (·.day)).IsChain fun a b => b - a = 1
  started : ∀ first ∈ days.head?, observationStartedAt ≤ midnight first.day
  closed : ∀ last ∈ days.getLast?, last.day < dateOf sealedAt
  future : 365 * seconds 86_400 ≤ sealedAt - observationStartedAt

def ForwardFacts.dump (facts : ForwardFacts) : Fields := facts.toArtifacts.dump ++ [
  ("campaign_id", identity facts.campaignId),
  ("evaluator_sha256", digest facts.evaluatorSha256),
  ("observation_started_at", time facts.observationStartedAt),
  ("sealed_at", time facts.sealedAt),
  ("days", tuple CompleteDay.dump facts.days)]

/-- `NaturalCloseV1` -/
structure NaturalClose where
  tradeId : Identity
  intentId : Identity
  openedAt : Timestamp
  closedAt : Timestamp
  closure : String
  lifecycleSha256 : HexDigest
  natural : closure ∈ ["STOP", "TARGET", "TIMEOUT"]
  ordered : openedAt < closedAt

def NaturalClose.dump (item : NaturalClose) : Json := .dict [
  ("trade_id", identity item.tradeId),
  ("intent_id", identity item.intentId),
  ("opened_at", time item.openedAt),
  ("closed_at", time item.closedAt),
  ("closure", text item.closure),
  ("lifecycle_sha256", digest item.lifecycleSha256)]

/-- `TradesFactsV1` -/
structure TradesFacts extends Artifacts where
  campaignId : Identity
  evaluatorSha256 : HexDigest
  sealedAt : Timestamp
  trades : List NaturalClose
  profitFactor : ℚ
  maximumDrawdownFraction : ℚ
  many : 500 ≤ trades.length ∧ trades.length ≤ 100_000
  factor_pos : 0 < profitFactor
  drawdown_nonneg : 0 ≤ maximumDrawdownFraction
  trade_unique : (trades.map (·.tradeId)).Nodup
  intent_unique : (trades.map (·.intentId)).Nodup
  closed : ∀ trade ∈ trades, trade.closedAt ≤ sealedAt

def TradesFacts.dump (facts : TradesFacts) : Fields := facts.toArtifacts.dump ++ [
  ("campaign_id", identity facts.campaignId),
  ("evaluator_sha256", digest facts.evaluatorSha256),
  ("sealed_at", time facts.sealedAt),
  ("trades", tuple NaturalClose.dump facts.trades),
  ("profit_factor", decimal facts.profitFactor),
  ("maximum_drawdown_fraction", decimal facts.maximumDrawdownFraction)]

/-- `CrashScenarioV1` -/
structure CrashScenario where
  scenarioSha256 : HexDigest
  grossPnlUsd : ℚ
  feesUsd : ℚ
  fundingUsd : ℚ
  spreadCostUsd : ℚ
  slippageCostUsd : ℚ
  netPnlUsd : ℚ
  fees_nonneg : 0 ≤ feesUsd
  spread_nonneg : 0 ≤ spreadCostUsd
  slippage_nonneg : 0 ≤ slippageCostUsd
  net_pos : 0 < netPnlUsd
  net_eq : netPnlUsd = context (context (context (context (grossPnlUsd - feesUsd) - fundingUsd)
    - spreadCostUsd) - slippageCostUsd)

def CrashScenario.dump (item : CrashScenario) : Json := .dict [
  ("scenario_sha256", digest item.scenarioSha256),
  ("gross_pnl_usd", decimal item.grossPnlUsd),
  ("fees_usd", decimal item.feesUsd),
  ("funding_usd", decimal item.fundingUsd),
  ("spread_cost_usd", decimal item.spreadCostUsd),
  ("slippage_cost_usd", decimal item.slippageCostUsd),
  ("net_pnl_usd", decimal item.netPnlUsd)]

/-- `CrashFactsV1` -/
structure CrashFacts extends Artifacts where
  campaignId : Identity
  evaluatorSha256 : HexDigest
  scenarios : List CrashScenario
  many : 1 ≤ scenarios.length ∧ scenarios.length ≤ 100

def CrashFacts.dump (facts : CrashFacts) : Fields := facts.toArtifacts.dump ++ [
  ("campaign_id", identity facts.campaignId),
  ("evaluator_sha256", digest facts.evaluatorSha256),
  ("scenarios", tuple CrashScenario.dump facts.scenarios)]

/-- `VenueWindowV1` -/
structure VenueWindow where
  symbol : Symbol
  expectedSamples : ℕ
  availableSamples : ℕ
  p95BasisBps : ℚ
  p95SpreadBps : ℚ
  p95SlippageBps : ℚ
  maximumBookAgeMs : ℕ
  maximumSkewMs : ℕ
  expected_ge : 8640 ≤ expectedSamples
  basis_nonneg : 0 ≤ p95BasisBps
  spread_nonneg : 0 ≤ p95SpreadBps
  slippage_nonneg : 0 ≤ p95SlippageBps
  age_le : maximumBookAgeMs ≤ 5000
  skew_le : maximumSkewMs ≤ 2000
  available : availableSamples ≤ expectedSamples ∧
    context (expectedSamples * (99 / 100)) ≤ availableSamples
  quality : max (max p95BasisBps p95SpreadBps) p95SlippageBps ≤ 25

def VenueWindow.dump (item : VenueWindow) : Json := .dict [
  ("symbol", text item.symbol.text),
  ("expected_samples", int item.expectedSamples),
  ("available_samples", int item.availableSamples),
  ("p95_basis_bps", decimal item.p95BasisBps),
  ("p95_spread_bps", decimal item.p95SpreadBps),
  ("p95_slippage_bps", decimal item.p95SlippageBps),
  ("maximum_book_age_ms", int item.maximumBookAgeMs),
  ("maximum_skew_ms", int item.maximumSkewMs),
  ("empty_required_books", int 0),
  ("unresolved_gaps", int 0),
  ("reconciliation_drift", int 0)]

/-- `ReadonlyFactsV1` -/
structure ReadonlyFacts extends Artifacts where
  devRemoteAccountId : Identity
  startedAt : Timestamp
  endedAt : Timestamp
  windows : List VenueWindow
  five : windows.length = 5
  window : seconds 86_400 ≤ endedAt - startedAt
  symbol_set : ∀ symbol, symbol ∈ windows.map (·.symbol)

def ReadonlyFacts.dump (facts : ReadonlyFacts) : Fields := facts.toArtifacts.dump ++ [
  ("dev_remote_account_id", identity facts.devRemoteAccountId),
  ("started_at", time facts.startedAt),
  ("ended_at", time facts.endedAt),
  ("windows", tuple VenueWindow.dump facts.windows),
  ("mutation_attempts", int 0)]

/-- `CanaryRoundTripV1` -/
structure CanaryRoundTrip where
  symbol : Symbol
  tradeId : Identity
  entryClaimSha256 : HexDigest
  terminalLifecycleSha256 : HexDigest

def CanaryRoundTrip.dump (item : CanaryRoundTrip) : Json := .dict [
  ("symbol", text item.symbol.text),
  ("trade_id", identity item.tradeId),
  ("entry_claim_sha256", digest item.entryClaimSha256),
  ("terminal_lifecycle_sha256", digest item.terminalLifecycleSha256),
  ("leverage", int 1),
  ("final_position_quantity", int 0),
  ("unresolved_orders", int 0)]

/-- `dict[Literal["CANCEL", "SL", "TP", "TIMEOUT", "RESTART_RECOVERY"], Digest]`, which has
every key -/
structure ScenarioArtifacts where
  cancel : HexDigest
  sl : HexDigest
  tp : HexDigest
  timeout : HexDigest
  restartRecovery : HexDigest

def ScenarioArtifacts.dump (item : ScenarioArtifacts) : Json := .dict [
  ("CANCEL", digest item.cancel),
  ("SL", digest item.sl),
  ("TP", digest item.tp),
  ("TIMEOUT", digest item.timeout),
  ("RESTART_RECOVERY", digest item.restartRecovery)]

def ScenarioArtifacts.values (item : ScenarioArtifacts) : List HexDigest :=
  [item.cancel, item.sl, item.tp, item.timeout, item.restartRecovery]

/-- `CanaryFactsV1` -/
structure CanaryFacts extends Artifacts where
  devRemoteAccountId : Identity
  startedAt : Timestamp
  endedAt : Timestamp
  attemptCount : ℕ
  minimumQuantityRulesSha256 : HexDigest
  roundTrips : List CanaryRoundTrip
  scenarioArtifacts : ScenarioArtifacts
  attempts : 5 ≤ attemptCount ∧ attemptCount ≤ 10
  many : 5 ≤ roundTrips.length ∧ roundTrips.length ≤ 10
  bounded : 0 < endedAt - startedAt ∧ endedAt - startedAt ≤ seconds 7_200
  symbol_set : ∀ symbol, symbol ∈ roundTrips.map (·.symbol)
  trade_unique : (roundTrips.map (·.tradeId)).Nodup
  attempt_ge : roundTrips.length ≤ attemptCount

def CanaryFacts.dump (facts : CanaryFacts) : Fields := facts.toArtifacts.dump ++ [
  ("dev_remote_account_id", identity facts.devRemoteAccountId),
  ("started_at", time facts.startedAt),
  ("ended_at", time facts.endedAt),
  ("attempt_count", int facts.attemptCount),
  ("maximum_global_positions", int 1),
  ("minimum_quantity_rules_sha256", digest facts.minimumQuantityRulesSha256),
  ("round_trips", tuple CanaryRoundTrip.dump facts.roundTrips),
  ("scenario_artifacts", facts.scenarioArtifacts.dump)]

/-- `SoakFactsV1` -/
structure SoakFacts extends Artifacts where
  devRemoteAccountId : Identity
  startedAt : Timestamp
  endedAt : Timestamp
  windows : List VenueWindow
  executionEffectCount : ℕ
  reconciledEffectCount : ℕ
  tcaReportSha256 : HexDigest
  five : windows.length = 5
  effects_pos : 0 < executionEffectCount ∧ 0 < reconciledEffectCount
  soaked : 7 * seconds 86_400 ≤ endedAt - startedAt
  reconciled : executionEffectCount = reconciledEffectCount
  symbol_set : ∀ symbol, symbol ∈ windows.map (·.symbol)

def SoakFacts.dump (facts : SoakFacts) : Fields := facts.toArtifacts.dump ++ [
  ("dev_remote_account_id", identity facts.devRemoteAccountId),
  ("started_at", time facts.startedAt),
  ("ended_at", time facts.endedAt),
  ("windows", tuple VenueWindow.dump facts.windows),
  ("execution_effect_count", int facts.executionEffectCount),
  ("reconciled_effect_count", int facts.reconciledEffectCount),
  ("unresolved_effect_count", int 0),
  ("tca_report_sha256", digest facts.tcaReportSha256)]

/-- `RecoveryFactsV1` -/
structure RecoveryFacts extends Artifacts where
  primaryDatabaseIdentity : Identity
  backupSha256 : HexDigest
  restoredBackupSha256 : HexDigest
  nativeCommitReceiptSha256 : HexDigest
  primaryAcceptanceReceiptSha256 : HexDigest
  beforeHistorySha256 : HexDigest
  afterHistorySha256 : HexDigest
  restored : backupSha256 = restoredBackupSha256 ∧ beforeHistorySha256 = afterHistorySha256

def RecoveryFacts.dump (facts : RecoveryFacts) : Fields := facts.toArtifacts.dump ++ [
  ("primary_database_identity", identity facts.primaryDatabaseIdentity),
  ("backup_sha256", digest facts.backupSha256),
  ("restored_backup_sha256", digest facts.restoredBackupSha256),
  ("native_commit_receipt_sha256", digest facts.nativeCommitReceiptSha256),
  ("primary_acceptance_receipt_sha256", digest facts.primaryAcceptanceReceiptSha256),
  ("before_history_sha256", digest facts.beforeHistorySha256),
  ("after_history_sha256", digest facts.afterHistorySha256),
  ("unresolved_inbox", int 0),
  ("unresolved_outbox", int 0),
  ("duplicate_publications", int 0),
  ("unresolved_leases", int 0),
  ("bar_chain_conflicts", int 0)]

/-- `SecurityFactsV1` -/
structure SecurityFacts extends Artifacts where
  threatModelSha256 : HexDigest
  reviewedSourceSetSha256 : HexDigest
  independentReviewerIdentity : Identity
  reviewedSecurityBoundaryCount : ℕ
  deploymentReviewSha256 : HexDigest
  boundary_pos : 0 < reviewedSecurityBoundaryCount

def SecurityFacts.dump (facts : SecurityFacts) : Fields := facts.toArtifacts.dump ++ [
  ("threat_model_sha256", digest facts.threatModelSha256),
  ("reviewed_source_set_sha256", digest facts.reviewedSourceSetSha256),
  ("independent_reviewer_identity", identity facts.independentReviewerIdentity),
  ("reviewed_security_boundary_count", int facts.reviewedSecurityBoundaryCount),
  ("unresolved_critical_findings", int 0),
  ("unresolved_high_findings", int 0),
  ("unresolved_medium_findings", int 0),
  ("deployment_review_sha256", digest facts.deploymentReviewSha256)]

/-- `^0x[0-9a-fA-F]{40}$` -/
structure WalletAddress where
  text : String
  valid : text.length = 42 ∧ text.toList.take 2 = ['0', 'x'] ∧ (text.toList.drop 2).all
    (fun c => c.isDigit || ('a' ≤ c && c ≤ 'f') || ('A' ≤ c && c ≤ 'F')) = true
  deriving DecidableEq

/-- `CustodyFactsV1` -/
structure CustodyFacts extends Artifacts where
  custodyReference : Identity
  walletAddress : WalletAddress
  chainId : ℕ
  typedSchemaSha256 : HexDigest
  independentRecoveryTestSha256 : HexDigest
  devCustodyReference : Identity
  successfulVerifiedSignatures : ℕ
  malformedRequestsRejected : ℕ
  unauthorizedRequestsRejected : ℕ
  chain_pos : 0 < chainId
  counts_pos : 0 < successfulVerifiedSignatures ∧ 0 < malformedRequestsRejected ∧
    0 < unauthorizedRequestsRejected
  separate : custodyReference ≠ devCustodyReference

def CustodyFacts.dump (facts : CustodyFacts) : Fields := facts.toArtifacts.dump ++ [
  ("custody_reference", identity facts.custodyReference),
  ("wallet_address", text facts.walletAddress.text),
  ("chain_id", int facts.chainId),
  ("typed_schema_sha256", digest facts.typedSchemaSha256),
  ("independent_recovery_test_sha256", digest facts.independentRecoveryTestSha256),
  ("dev_custody_reference", identity facts.devCustodyReference),
  ("successful_verified_signatures", int facts.successfulVerifiedSignatures),
  ("malformed_requests_rejected", int facts.malformedRequestsRejected),
  ("unauthorized_requests_rejected", int facts.unauthorizedRequestsRejected),
  ("unverified_signatures", int 0)]

/-- `RestoreFactsV1` -/
structure RestoreFacts extends Artifacts where
  sourceFailureDomain : Identity
  restoreFailureDomain : Identity
  keyCustodyReceiptSha256 : HexDigest
  sourceDatabaseDumpSha256 : HexDigest
  restoredDatabaseDumpSha256 : HexDigest
  encryptedSnapshotSha256 : HexDigest
  databaseIntegrityReceiptSha256 : HexDigest
  wrongKeyRejections : ℕ
  rejections_pos : 0 < wrongKeyRejections
  offhost : sourceFailureDomain ≠ restoreFailureDomain ∧
    sourceDatabaseDumpSha256 = restoredDatabaseDumpSha256

def RestoreFacts.dump (facts : RestoreFacts) : Fields := facts.toArtifacts.dump ++ [
  ("source_failure_domain", identity facts.sourceFailureDomain),
  ("restore_failure_domain", identity facts.restoreFailureDomain),
  ("encryption", text "RESTIC_AUTHENTICATED_ENCRYPTION"),
  ("key_custody_receipt_sha256", digest facts.keyCustodyReceiptSha256),
  ("source_database_dump_sha256", digest facts.sourceDatabaseDumpSha256),
  ("restored_database_dump_sha256", digest facts.restoredDatabaseDumpSha256),
  ("encrypted_snapshot_sha256", digest facts.encryptedSnapshotSha256),
  ("database_integrity_receipt_sha256", digest facts.databaseIntegrityReceiptSha256),
  ("wrong_key_rejections", int facts.wrongKeyRejections),
  ("authenticated_errors", int 0)]

/-- `AlertDeliveryV1` -/
structure AlertDelivery where
  alertName : Identity
  firingEventSha256 : HexDigest
  resolvedEventSha256 : HexDigest
  receiverIdentity : Identity
  firingReceivedAt : Timestamp
  resolvedReceivedAt : Timestamp
  ownerAcknowledgedAt : Timestamp
  delivered : firingReceivedAt < resolvedReceivedAt ∧ resolvedReceivedAt ≤ ownerAcknowledgedAt

def AlertDelivery.dump (item : AlertDelivery) : Json := .dict [
  ("alert_name", identity item.alertName),
  ("firing_event_sha256", digest item.firingEventSha256),
  ("resolved_event_sha256", digest item.resolvedEventSha256),
  ("receiver_identity", identity item.receiverIdentity),
  ("firing_received_at", time item.firingReceivedAt),
  ("resolved_received_at", time item.resolvedReceivedAt),
  ("owner_acknowledged_at", time item.ownerAcknowledgedAt)]

/-- The alerts that were delivered are those that are required, each delivered once. -/
structure Delivered (required : List Identity) (deliveries : List AlertDelivery) : Prop where
  unique : (deliveries.map (·.alertName)).Nodup
  coverage : ∀ name, name ∈ deliveries.map (·.alertName) ↔ name ∈ required

/-- `AlertFactsV1` -/
structure AlertFacts extends Artifacts where
  requiredAlertNames : List Identity
  deliveries : List AlertDelivery
  notifierRestartReceiptSha256 : HexDigest
  independentHostLossReceiptSha256 : HexDigest
  many : 1 ≤ requiredAlertNames.length ∧ 1 ≤ deliveries.length
  delivered : Delivered requiredAlertNames deliveries

def AlertFacts.dump (facts : AlertFacts) : Fields := facts.toArtifacts.dump ++ [
  ("required_alert_names", tuple identity facts.requiredAlertNames),
  ("deliveries", tuple AlertDelivery.dump facts.deliveries),
  ("notifier_restart_receipt_sha256", digest facts.notifierRestartReceiptSha256),
  ("independent_host_loss_receipt_sha256", digest facts.independentHostLossReceiptSha256),
  ("unknown_sends", int 0)]

def singleHostRequiredAlertNames : List String := ["local-supervisor-restart", "local-process-health"]

/-- `SingleHostAlertFactsV1`, which has the fields of `EvidenceArtifactsV1` under a version of
its own -/
structure SingleHostAlertFacts extends Artifacts where
  requiredAlertNames : List Identity
  deliveries : List AlertDelivery
  notifierRestartReceiptSha256 : HexDigest
  localSupervisorIdentity : Identity
  localSupervisorRestartReceiptSha256 : HexDigest
  localHealthCheckReceiptSha256 : HexDigest
  two : requiredAlertNames.length = 2 ∧ deliveries.length = 2
  delivered : Delivered requiredAlertNames deliveries
  fixed : ∀ name, name ∈ requiredAlertNames.map (·.text) ↔ name ∈ singleHostRequiredAlertNames

def SingleHostAlertFacts.dump (facts : SingleHostAlertFacts) : Fields := [
  ("schema_version", text "kairos.single-host-alert-facts.v1"),
  ("artifact_sha256s", tuple digest facts.artifactSha256s),
  ("required_alert_names", tuple identity facts.requiredAlertNames),
  ("deliveries", tuple AlertDelivery.dump facts.deliveries),
  ("notifier_restart_receipt_sha256", digest facts.notifierRestartReceiptSha256),
  ("local_supervisor_identity", identity facts.localSupervisorIdentity),
  ("local_supervisor_restart_receipt_sha256", digest facts.localSupervisorRestartReceiptSha256),
  ("local_health_check_receipt_sha256", digest facts.localHealthCheckReceiptSha256),
  ("host_loss_resilience", text "NOT_ESTABLISHED"),
  ("unknown_sends", int 0)]

/-- `OperatorFactsV1` -/
structure OperatorFacts extends Artifacts where
  controlDatabaseIdentity : Identity
  operatorRole : Identity
  runtimeRole : Identity
  operatorVersion : ℕ
  killedAt : Timestamp
  resumedAt : Timestamp
  restartObservedVersion : ℕ
  deniedUnsafePrivilegeCount : ℕ
  version_pos : 0 < operatorVersion ∧ 0 < restartObservedVersion ∧ 0 < deniedUnsafePrivilegeCount
  durable : runtimeRole ≠ operatorRole ∧ operatorVersion ≤ restartObservedVersion
  ordered : killedAt < resumedAt

def OperatorFacts.dump (facts : OperatorFacts) : Fields := facts.toArtifacts.dump ++ [
  ("control_database_identity", identity facts.controlDatabaseIdentity),
  ("operator_role", identity facts.operatorRole),
  ("runtime_role", identity facts.runtimeRole),
  ("operator_version", int facts.operatorVersion),
  ("killed_at", time facts.killedAt),
  ("resumed_at", time facts.resumedAt),
  ("restart_observed_version", int facts.restartObservedVersion),
  ("entries_dispatched_after_kill", int 0),
  ("protected_exit_failures", int 0),
  ("duplicate_dispatches", int 0),
  ("unknown_claim_retries", int 0),
  ("denied_unsafe_privilege_count", int facts.deniedUnsafePrivilegeCount)]

/-- `PairingFactsV1` -/
structure PairingFacts extends Artifacts where
  remoteAccountId : Identity
  walletAddress : WalletAddress
  authenticatedReadChallengeSha256 : HexDigest
  signingChallengeSha256 : HexDigest
  chainId : ℕ
  chain_pos : 0 < chainId

def PairingFacts.dump (facts : PairingFacts) : Fields := facts.toArtifacts.dump ++ [
  ("environment", text "PROD"),
  ("remote_account_id", identity facts.remoteAccountId),
  ("wallet_address", text facts.walletAddress.text),
  ("authenticated_read_challenge_sha256", digest facts.authenticatedReadChallengeSha256),
  ("signing_challenge_sha256", digest facts.signingChallengeSha256),
  ("chain_id", int facts.chainId),
  ("credential_pairing_conflicts", int 0)]

/-- `LimitsFactsV1` -/
structure LimitsFacts extends Artifacts where
  ownerIdentity : Identity
  dollarCap : ℚ
  dailyStopLossUsd : ℚ
  riskPerTradeFraction : ℚ
  maximumTotalOpenRiskFraction : ℚ
  blockedMissingLimitCount : ℕ
  blockedOverCapCount : ℕ
  blockedDailyStopCount : ℕ
  restartAccountingReceiptSha256 : HexDigest
  pendingRiskReceiptSha256 : HexDigest
  limits_pos : 0 < dollarCap ∧ 0 < dailyStopLossUsd ∧ 0 < riskPerTradeFraction ∧
    0 < maximumTotalOpenRiskFraction
  counts_pos : 0 < blockedMissingLimitCount ∧ 0 < blockedOverCapCount ∧ 0 < blockedDailyStopCount
  ceilings : dailyStopLossUsd ≤ dollarCap ∧ riskPerTradeFraction ≤ 25 / 10_000 ∧
    maximumTotalOpenRiskFraction ≤ 1 / 100

def LimitsFacts.dump (facts : LimitsFacts) : Fields := facts.toArtifacts.dump ++ [
  ("owner_identity", identity facts.ownerIdentity),
  ("dollar_cap", decimal facts.dollarCap),
  ("daily_stop_loss_usd", decimal facts.dailyStopLossUsd),
  ("risk_per_trade_fraction", decimal facts.riskPerTradeFraction),
  ("maximum_total_open_risk_fraction", decimal facts.maximumTotalOpenRiskFraction),
  ("maximum_leverage", int 1),
  ("blocked_missing_limit_count", int facts.blockedMissingLimitCount),
  ("blocked_over_cap_count", int facts.blockedOverCapCount),
  ("blocked_daily_stop_count", int facts.blockedDailyStopCount),
  ("restart_accounting_receipt_sha256", digest facts.restartAccountingReceiptSha256),
  ("pending_risk_receipt_sha256", digest facts.pendingRiskReceiptSha256)]

end Schemas

end KairosExecution.Production.Evidence
