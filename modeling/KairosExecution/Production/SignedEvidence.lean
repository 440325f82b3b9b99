import KairosExecution.Production.Facts
import KairosExecution.Production.Message

/-! Signed evidence. A receipt is accepted if its issuer is registered for its kind and its
signature, schema, facts and frozen policy agree, and if the digests that its facts name
are among the artifacts that it declares, each of which resolves to its bytes. The walk
knows a digest by the key it stands under. In the scenario artifacts of a canary the keys
are those of the scenarios, so that these digests alone escape it. -/

namespace KairosExecution.Production.Evidence

open Python

section Receipts

inductive EvidenceKind
  | ADAPTIVE_SEALED_FORWARD | ADAPTIVE_SEALED_TRADES | CRASH_NET_GATE | DEV_READONLY_24H | DEV_CANARY
  | DEV_SOAK_TCA | PRIMARY_RECOVERY | SECURITY_REVIEW | MANAGED_CUSTODY | OFFHOST_RESTORE
  | ALERT_DELIVERY | GLOBAL_OPERATOR_CONTROL | PROD_ACCOUNT_PAIRING | PRODUCTION_LIMITS
  deriving DecidableEq

/-- The schemas of `FACT_SCHEMAS` and of the single-host profile. -/
inductive Schema
  | forward | trades | crash | readonly | canary | soak | recovery | security | custody | restore
  | alert | operator | pairing | limits | singleHostAlert
  deriving DecidableEq

def factSchemas : EvidenceKind → Schema
  | .ADAPTIVE_SEALED_FORWARD => .forward
  | .ADAPTIVE_SEALED_TRADES => .trades
  | .CRASH_NET_GATE => .crash
  | .DEV_READONLY_24H => .readonly
  | .DEV_CANARY => .canary
  | .DEV_SOAK_TCA => .soak
  | .PRIMARY_RECOVERY => .recovery
  | .SECURITY_REVIEW => .security
  | .MANAGED_CUSTODY => .custody
  | .OFFHOST_RESTORE => .restore
  | .ALERT_DELIVERY => .alert
  | .GLOBAL_OPERATOR_CONTROL => .operator
  | .PROD_ACCOUNT_PAIRING => .pairing
  | .PRODUCTION_LIMITS => .limits

/-- The facts of a receipt. -/
inductive Facts
  | forward (facts : ForwardFacts)
  | trades (facts : TradesFacts)
  | crash (facts : CrashFacts)
  | readonly (facts : ReadonlyFacts)
  | canary (facts : CanaryFacts)
  | soak (facts : SoakFacts)
  | recovery (facts : RecoveryFacts)
  | security (facts : SecurityFacts)
  | custody (facts : CustodyFacts)
  | restore (facts : RestoreFacts)
  | alert (facts : AlertFacts)
  | operator (facts : OperatorFacts)
  | pairing (facts : PairingFacts)
  | limits (facts : LimitsFacts)
  | singleHostAlert (facts : SingleHostAlertFacts)

def Facts.schema : Facts → Schema
  | .forward _ => .forward
  | .trades _ => .trades
  | .crash _ => .crash
  | .readonly _ => .readonly
  | .canary _ => .canary
  | .soak _ => .soak
  | .recovery _ => .recovery
  | .security _ => .security
  | .custody _ => .custody
  | .restore _ => .restore
  | .alert _ => .alert
  | .operator _ => .operator
  | .pairing _ => .pairing
  | .limits _ => .limits
  | .singleHostAlert _ => .singleHostAlert

/-- `facts.artifact_sha256s` -/
def Facts.artifacts : Facts → Artifacts
  | .forward facts => facts.toArtifacts
  | .trades facts => facts.toArtifacts
  | .crash facts => facts.toArtifacts
  | .readonly facts => facts.toArtifacts
  | .canary facts => facts.toArtifacts
  | .soak facts => facts.toArtifacts
  | .recovery facts => facts.toArtifacts
  | .security facts => facts.toArtifacts
  | .custody facts => facts.toArtifacts
  | .restore facts => facts.toArtifacts
  | .alert facts => facts.toArtifacts
  | .operator facts => facts.toArtifacts
  | .pairing facts => facts.toArtifacts
  | .limits facts => facts.toArtifacts
  | .singleHostAlert facts => facts.toArtifacts

/-- `facts.model_dump(mode="json")` -/
def Facts.dump : Facts → Json
  | .forward facts => .dict facts.dump
  | .trades facts => .dict facts.dump
  | .crash facts => .dict facts.dump
  | .readonly facts => .dict facts.dump
  | .canary facts => .dict facts.dump
  | .soak facts => .dict facts.dump
  | .recovery facts => .dict facts.dump
  | .security facts => .dict facts.dump
  | .custody facts => .dict facts.dump
  | .restore facts => .dict facts.dump
  | .alert facts => .dict facts.dump
  | .operator facts => .dict facts.dump
  | .pairing facts => .dict facts.dump
  | .limits facts => .dict facts.dump
  | .singleHostAlert facts => .dict facts.dump

/-- `SignedReceiptBodyV1` -/
structure SignedReceiptBody where
  kind : EvidenceKind
  receiptId : Identity
  issuerId : Identity
  keyId : Identity
  context : ProductionContext HexDigest
  issuedAt : Timestamp
  validUntil : Timestamp
  factsSchemaSha256 : HexDigest
  factsJson : String
  interval : issuedAt < validUntil

/-- `SignedReceiptV1` -/
structure SignedReceipt where
  body : SignedReceiptBody
  signatureBase64 : String

/-- `IssuerPolicyV1` -/
structure IssuerPolicy where
  issuerId : Identity
  keyId : Identity
  publicKeyBase64 : String
  context : ProductionContext HexDigest
  allowedKinds : List EvidenceKind
  validFrom : Timestamp
  validUntil : Timestamp
  maximumReceiptLifetimeSeconds : ℕ
  campaignId : Identity
  evaluatorSha256 : HexDigest
  crashScenarioSha256s : List HexDigest
  minimumProfitFactor : ℚ
  maximumDrawdownFraction : ℚ

/-- `FrozenGatePolicyV1` -/
structure FrozenGatePolicy where
  adaptiveSystemId : String
  sourceSetSha256 : HexDigest
  campaignId : Identity
  evaluatorSha256 : HexDigest
  minimumProfitFactor : ℚ
  maximumDrawdownFraction : ℚ
  crashScenarioSha256s : List HexDigest
  requiredAlertNames : List Identity
  minimumForwardDays : ℕ
  minimumNaturalCloses : ℕ
  frozenAt : Timestamp

/-- `ReceiptReferenceV1` -/
structure ReceiptReference where
  kind : EvidenceKind
  receiptId : Identity
  contentSha256 : HexDigest
  issuerId : Identity
  deriving DecidableEq

/-- `VerifiedEvidenceV1` -/
structure VerifiedEvidence where
  reference : ReceiptReference
  context : ProductionContext HexDigest
  verifiedAt : Timestamp
  validUntil : Timestamp
  completeForwardDays : Option ℕ
  naturallyClosedSimulatedTrades : Option ℕ
  factsSha256 : HexDigest
  factsSchemaSha256 : HexDigest
  verifiedIssuerKeyId : Identity
  bindingFacts : Fields

end Receipts

section Verification

variable {Bytes : Type}

/-- What the interpreter takes from elsewhere: SHA-256 of bytes and of canonical JSON, the
models read from JSON without duplicate keys, base64, Ed25519 under the domain of the
evidence, and the texts of scalars. -/
structure EvidencePrimitives (Bytes : Type) where
  length : Bytes → ℕ
  sha256 : Bytes → HexDigest
  parseReceipt : Bytes → Option SignedReceipt
  parseFacts : Schema → String → Option Facts
  parsePolicy : Bytes → Option FrozenGatePolicy
  decoded : String → Option Bytes
  verifies : Bytes → Bytes → SignedReceiptBody → Bool
  schemaSha256 : Schema → HexDigest
  reviewedSchemaSha256 : ℕ → HexDigest
  factsSha256 : Facts → HexDigest
  str : Leaf → String
  str_digest : ∀ value, str (.digest value) = value.text
  parse_schema : ∀ schema json facts, parseFacts schema json = some facts → facts.schema = schema

structure EvidenceResolver (Bytes : Type) where
  receiptBytes : HexDigest → Option Bytes
  artifactBytes : HexDigest → Option Bytes

/-- `SignedReceiptInterpreter`, or the one of the single-host profile. -/
structure Interpreter where
  kind : EvidenceKind
  registry : List IssuerPolicy
  singleHost : Bool

variable (p : EvidencePrimitives Bytes) (resolver : EvidenceResolver Bytes)

def maxBytes : ℕ := 4 * 1024 * 1024

def Interpreter.factsSchema (self : Interpreter) : Schema :=
  if self.singleHost then .singleHostAlert else factSchemas self.kind

/-- The names of digests that are not artifacts. -/
def unreferenced : List String := ["evaluator_sha256", "reviewed_source_set_sha256", "typed_schema_sha256"]

/-- `name.endswith("_sha256") and name not in {...}` -/
def referenced (name : String) : Bool :=
  "_sha256".toList.isSuffixOf name.toList ∧ name ∉ unreferenced

def artifactReferences (value : Json) (name : String) : List String :=
  value.walk (fun name leaf => if referenced name then [p.str leaf] else []) name

/-- The bytes that a digest resolves to. -/
def resolved (bytes : HexDigest → Option Bytes) (expected : HexDigest) (message : String) :
    Except Err Bytes := do
  let raw ← required (.value "evidence reference escapes immutable store") (bytes expected)
  refuse (p.length raw > maxBytes ∨ p.sha256 raw ≠ expected) (.value message)
  return raw

/-- The bytes of the declared artifacts. -/
def resolveArtifacts (facts : Facts) : Except Err Unit :=
  facts.artifacts.artifactSha256s.forM fun expected => do
    let _ ← resolved p resolver.artifactBytes expected "independent underlying artifact hash mismatch"
    return ()

/-- The campaign and the evaluator of facts that have them. -/
def Facts.campaign : Facts → Option (Identity × HexDigest)
  | .forward facts => some (facts.campaignId, facts.evaluatorSha256)
  | .trades facts => some (facts.campaignId, facts.evaluatorSha256)
  | .crash facts => some (facts.campaignId, facts.evaluatorSha256)
  | _ => none

/-- What the facts of a kind have to agree with. -/
def verifyKind (facts : Facts) (body : SignedReceiptBody) (policy : IssuerPolicy)
    (frozen : FrozenGatePolicy) (context : ProductionContext HexDigest) : Except Err Unit :=
  match facts with
  | .forward facts => do
    refuse (facts.sealedAt > body.issuedAt) (.value "forward receipt predates its seal")
    refuse (facts.days.length < frozen.minimumForwardDays ∨ facts.observationStartedAt ≤ frozen.frozenAt)
      (.value "forward campaign predates freezing or lacks preregistered days")
  | .trades facts =>
    refuse (facts.sealedAt > body.issuedAt ∨ facts.profitFactor < policy.minimumProfitFactor
        ∨ facts.maximumDrawdownFraction > policy.maximumDrawdownFraction
        ∨ facts.trades.length < frozen.minimumNaturalCloses
        ∨ facts.trades.any fun trade => trade.openedAt ≤ frozen.frozenAt)
      (.value "sealed trade economics violate frozen gates")
  | .crash facts =>
    refuse (!(facts.scenarios.map (·.scenarioSha256)).isPerm policy.crashScenarioSha256s)
      (.value "crash set differs from the preregistered set")
  | .security facts =>
    refuse (facts.reviewedSourceSetSha256 ≠ context.sourceSetSha256)
      (.value "security review is for another source set")
  | .pairing facts =>
    refuse (facts.remoteAccountId.text ≠ context.remoteAccountId)
      (.value "PROD pairing is for another remote account")
  | .custody facts =>
    refuse (facts.typedSchemaSha256 ≠ p.reviewedSchemaSha256 facts.chainId)
      (.value "custody proof uses an unreviewed local typed schema/domain")
  | _ => .ok ()

def Interpreter.validateProfileAlertFacts (self : Interpreter) (facts : Facts) (frozen : FrozenGatePolicy)
    (body : SignedReceiptBody) : Except Err Unit :=
  if self.singleHost then
    match facts with
    | .singleHostAlert facts => do
      refuse (!(facts.requiredAlertNames.map (·.text)).isPerm singleHostRequiredAlertNames
          ∨ !(frozen.requiredAlertNames.map (·.text)).isPerm singleHostRequiredAlertNames)
        (.value "single-host alert names differ from the fresh local profile policy")
      refuse (facts.deliveries.any fun delivery => delivery.ownerAcknowledgedAt > body.issuedAt)
        (.value "single-host alert receipt includes a future owner acknowledgment")
    | _ => .error (.value "single-host profile requires its versioned local alert facts")
  else
    match facts with
    | .alert facts => do
      refuse (!facts.requiredAlertNames.isPerm frozen.requiredAlertNames)
        (.value "alert set differs from frozen required coverage")
      refuse (facts.deliveries.any fun delivery => delivery.ownerAcknowledgedAt > body.issuedAt)
        (.value "alert receipt includes a future owner acknowledgment")
    | _ => .ok ()

/-- The operational observations that facts have. -/
def Facts.observations : Facts → List Timestamp
  | .readonly facts => [facts.endedAt]
  | .canary facts => [facts.endedAt]
  | .soak facts => [facts.endedAt]
  | .operator facts => [facts.resumedAt, facts.killedAt]
  | _ => []

def bindingNames : List String := ["owner_identity", "dollar_cap", "daily_stop_loss_usd", "wallet_address",
  "chain_id", "custody_reference", "dev_remote_account_id"]

/-- The facts that a proof carries. -/
def bindingFacts (facts : Facts) : Fields :=
  match facts.dump with
  | .dict fields => fields.filter fun field => field.1 ∈ bindingNames
  | _ => []

/-- `verify`, with the facts that it has read. -/
def verify (self : Interpreter) (reference : ReceiptReference) (context : ProductionContext HexDigest) :
    Except Err (VerifiedEvidence × Facts) := do
  let raw ← resolved p resolver.receiptBytes reference.contentSha256 "signed receipt hash mismatch"
  let receipt ← required (.value "signed receipt is malformed") (p.parseReceipt raw)
  let body := receipt.body
  let policy ← required (.value "signed receipt issuer/kind/context mismatch")
    (self.registry.find? fun policy => policy.issuerId = body.issuerId ∧ policy.keyId = body.keyId)
  refuse (body.kind ≠ self.kind ∨ reference.kind ≠ self.kind ∨ body.receiptId ≠ reference.receiptId
      ∨ body.issuerId ≠ reference.issuerId ∨ body.context ≠ context ∨ policy.context ≠ context
      ∨ body.kind ∉ policy.allowedKinds)
    (.value "signed receipt issuer/kind/context mismatch")
  refuse (¬(policy.validFrom ≤ body.issuedAt ∧ body.issuedAt < body.validUntil
        ∧ body.validUntil ≤ policy.validUntil)
      ∨ body.validUntil - body.issuedAt > seconds policy.maximumReceiptLifetimeSeconds)
    (.value "signed receipt exceeds issuer validity/lifetime")
  let public' ← required (.value "invalid public key or detached signature length")
    (p.decoded policy.publicKeyBase64)
  let signature ← required (.value "invalid public key or detached signature length")
    (p.decoded receipt.signatureBase64)
  refuse (p.length public' ≠ 32 ∨ p.length signature ≠ 64)
    (.value "invalid public key or detached signature length")
  refuse (!p.verifies public' signature body) (.signing "invalid signature")
  let schema := self.factsSchema
  refuse (body.factsSchemaSha256 ≠ p.schemaSha256 schema) (.value "unreviewed substantive gate schema")
  let facts ← required (.value "gate facts violate their schema") (p.parseFacts schema body.factsJson)
  let policyRaw ← resolved p resolver.artifactBytes context.frozenPolicySha256
    "frozen policy artifact hash mismatch"
  let frozen ← required (.value "frozen policy is malformed") (p.parsePolicy policyRaw)
  refuse (frozen.adaptiveSystemId ≠ context.adaptiveSystemId
      ∨ frozen.sourceSetSha256 ≠ context.sourceSetSha256 ∨ frozen.frozenAt ≥ body.issuedAt
      ∨ frozen.campaignId ≠ policy.campaignId ∨ frozen.evaluatorSha256 ≠ policy.evaluatorSha256
      ∨ frozen.minimumProfitFactor ≠ policy.minimumProfitFactor
      ∨ frozen.maximumDrawdownFraction ≠ policy.maximumDrawdownFraction
      ∨ frozen.crashScenarioSha256s ≠ policy.crashScenarioSha256s)
    (.value "issuer thresholds are not bound to exact frozen preregistration")
  refuse (!(artifactReferences p facts.dump "").all
      fun reference => facts.artifacts.artifactSha256s.any fun artifact => artifact.text = reference)
    (.value "gate fact references an undeclared underlying artifact")
  resolveArtifacts p resolver facts
  refuse (facts.campaign.any fun campaign => campaign ≠ (policy.campaignId, policy.evaluatorSha256))
    (.value "adaptive campaign/evaluator differs from frozen issuer policy")
  verifyKind p facts body policy frozen context
  self.validateProfileAlertFacts facts frozen body
  refuse (facts.observations.any fun observed => observed > body.issuedAt)
    (.value "receipt includes future operational observations")
  return ({
    reference := reference
    context := context
    verifiedAt := body.issuedAt
    validUntil := body.validUntil
    completeForwardDays := match facts with
      | .forward facts => some facts.days.length
      | _ => none
    naturallyClosedSimulatedTrades := match facts with
      | .trades facts => some facts.trades.length
      | _ => none
    factsSha256 := p.factsSha256 facts
    factsSchemaSha256 := p.schemaSha256 schema
    verifiedIssuerKeyId := body.keyId
    bindingFacts := bindingFacts facts }, facts)

end Verification

section Coverage

variable {Bytes : Type} {p : EvidencePrimitives Bytes} {resolver : EvidenceResolver Bytes}

/-- The walk looks at the digest under this key, or leaves it out by name. -/
def walked (name : String) : Bool := name ∈ unreferenced || referenced name

/-- Every digest stands under a key that the walk knows, or is declared. -/
def Covered (declared : List HexDigest) (value : Json) (name : String) : Prop :=
  ∀ entry ∈ value.leaves name, ∀ found, entry.2 = .digest found → walked entry.1 = true ∨ found ∈ declared

variable {declared : List HexDigest} {name : String}

@[simp] theorem covered_digest {found : HexDigest} :
    Covered declared (digest found) name ↔ walked name = true ∨ found ∈ declared := by
  simp [Covered, digest]

@[simp] theorem covered_text {value : String} : Covered declared (text value) name := by
  simp [Covered, text]

@[simp] theorem covered_identity {value : Identity} : Covered declared (identity value) name := by
  simp [Covered, identity]

@[simp] theorem covered_int {value : ℤ} : Covered declared (int value) name := by
  simp [Covered, int]

@[simp] theorem covered_decimal {value : ℚ} : Covered declared (decimal value) name := by
  simp [Covered, decimal]

@[simp] theorem covered_time {value : Timestamp} : Covered declared (time value) name := by
  simp [Covered, time]

@[simp] theorem covered_date {value : ℤ} : Covered declared (.leaf (.date value)) name := by
  simp [Covered]

@[simp] theorem covered_dict {fields : Fields} :
    Covered declared (.dict fields) name ↔ ∀ field ∈ fields, Covered declared field.2 field.1 := by
  simp only [Covered, Dump.leaves_dict, List.mem_flatMap]
  constructor
  · exact fun all field mem entry found => all entry ⟨field, mem, found⟩
  · rintro all entry ⟨field, mem, found⟩
    exact all field mem entry found

@[simp] theorem covered_tuple {α : Type} {dump : α → Json} {items : List α} :
    Covered declared (tuple dump items) name ↔ ∀ item ∈ items, Covered declared (dump item) name := by
  simp only [Covered, tuple, Dump.leaves_list, List.mem_flatMap, List.mem_map]
  constructor
  · exact fun all item mem entry found => all entry ⟨_, ⟨item, mem, rfl⟩, found⟩
  · rintro all entry ⟨_, ⟨item, mem, rfl⟩, found⟩
    exact all item mem entry found

theorem SymbolDay.covered (item : SymbolDay) : Covered declared item.dump name := by
  simp +decide [SymbolDay.dump]

theorem CompleteDay.covered (item : CompleteDay) : Covered declared item.dump name := by
  simp [CompleteDay.dump, SymbolDay.covered]

theorem NaturalClose.covered (item : NaturalClose) : Covered declared item.dump name := by
  simp +decide [NaturalClose.dump]

theorem CrashScenario.covered (item : CrashScenario) : Covered declared item.dump name := by
  simp +decide [CrashScenario.dump]

theorem VenueWindow.covered (item : VenueWindow) : Covered declared item.dump name := by
  simp [VenueWindow.dump]

theorem CanaryRoundTrip.covered (item : CanaryRoundTrip) : Covered declared item.dump name := by
  simp +decide [CanaryRoundTrip.dump]

theorem AlertDelivery.covered (item : AlertDelivery) : Covered declared item.dump name := by
  simp +decide [AlertDelivery.dump]

/-- The digests that stand under no name of a digest: those of the scenarios of a canary. -/
def Facts.labelled : Facts → List HexDigest
  | .canary facts => facts.scenarioArtifacts.values
  | _ => []

theorem Artifacts.covered (facts : Artifacts) (more : List HexDigest) :
    ∀ field ∈ facts.dump, Covered (facts.artifactSha256s ++ more) field.2 field.1 := by
  simp only [Artifacts.dump, List.forall_mem_cons, covered_text, covered_tuple, covered_digest,
    List.mem_append]
  exact ⟨trivial, fun item mem => .inr (.inl mem), fun _ mem => (nomatch mem)⟩

theorem ScenarioArtifacts.covered (item : ScenarioArtifacts) (all : ∀ value ∈ item.values, value ∈ declared) :
    Covered declared item.dump name := by
  simp only [ScenarioArtifacts.values, List.forall_mem_cons] at all
  simp only [ScenarioArtifacts.dump, covered_dict, List.forall_mem_cons, covered_digest]
  exact ⟨.inr all.1, .inr all.2.1, .inr all.2.2.1, .inr all.2.2.2.1, .inr all.2.2.2.2.1,
    fun _ mem => (nomatch mem)⟩

/-- The facts of every schema name their digests so that the walk finds them, but for the
scenarios of a canary. -/
theorem Facts.covered (facts : Facts) :
    Covered (facts.artifacts.artifactSha256s ++ facts.labelled) facts.dump "" := by
  cases facts with
  | forward facts =>
    simp +decide only [Facts.dump, ForwardFacts.dump, covered_dict, List.forall_mem_append]
    exact ⟨facts.toArtifacts.covered _, by simp +decide [CompleteDay.covered]⟩
  | trades facts =>
    simp +decide only [Facts.dump, TradesFacts.dump, covered_dict, List.forall_mem_append]
    exact ⟨facts.toArtifacts.covered _, by simp +decide [NaturalClose.covered]⟩
  | crash facts =>
    simp +decide only [Facts.dump, CrashFacts.dump, covered_dict, List.forall_mem_append]
    exact ⟨facts.toArtifacts.covered _, by simp +decide [CrashScenario.covered]⟩
  | readonly facts =>
    simp +decide only [Facts.dump, ReadonlyFacts.dump, covered_dict, List.forall_mem_append]
    exact ⟨facts.toArtifacts.covered _, by simp +decide [VenueWindow.covered]⟩
  | canary facts =>
    simp +decide only [Facts.dump, CanaryFacts.dump, covered_dict, List.forall_mem_append]
    have scenarios : Covered (facts.artifactSha256s ++ facts.scenarioArtifacts.values)
        facts.scenarioArtifacts.dump "scenario_artifacts" :=
      facts.scenarioArtifacts.covered fun value mem => List.mem_append_right _ mem
    exact ⟨facts.toArtifacts.covered _, by
      simp +decide [CanaryRoundTrip.covered, Facts.artifacts, Facts.labelled, scenarios]⟩
  | soak facts =>
    simp +decide only [Facts.dump, SoakFacts.dump, covered_dict, List.forall_mem_append]
    exact ⟨facts.toArtifacts.covered _, by simp +decide [VenueWindow.covered]⟩
  | recovery facts =>
    simp +decide only [Facts.dump, RecoveryFacts.dump, covered_dict, List.forall_mem_append]
    exact ⟨facts.toArtifacts.covered _, by simp +decide⟩
  | security facts =>
    simp +decide only [Facts.dump, SecurityFacts.dump, covered_dict, List.forall_mem_append]
    exact ⟨facts.toArtifacts.covered _, by simp +decide⟩
  | custody facts =>
    simp +decide only [Facts.dump, CustodyFacts.dump, covered_dict, List.forall_mem_append]
    exact ⟨facts.toArtifacts.covered _, by simp +decide⟩
  | restore facts =>
    simp +decide only [Facts.dump, RestoreFacts.dump, covered_dict, List.forall_mem_append]
    exact ⟨facts.toArtifacts.covered _, by simp +decide⟩
  | alert facts =>
    simp +decide only [Facts.dump, AlertFacts.dump, covered_dict, List.forall_mem_append]
    exact ⟨facts.toArtifacts.covered _, by simp +decide [AlertDelivery.covered]⟩
  | operator facts =>
    simp +decide only [Facts.dump, OperatorFacts.dump, covered_dict, List.forall_mem_append]
    exact ⟨facts.toArtifacts.covered _, by simp +decide⟩
  | pairing facts =>
    simp +decide only [Facts.dump, PairingFacts.dump, covered_dict, List.forall_mem_append]
    exact ⟨facts.toArtifacts.covered _, by simp +decide⟩
  | limits facts =>
    simp +decide only [Facts.dump, LimitsFacts.dump, covered_dict, List.forall_mem_append]
    exact ⟨facts.toArtifacts.covered _, by simp +decide⟩
  | singleHostAlert facts =>
    simp +decide [Facts.dump, SingleHostAlertFacts.dump, Facts.artifacts, Facts.labelled,
      AlertDelivery.covered]

end Coverage

section Verified

variable {Bytes : Type} {p : EvidencePrimitives Bytes} {resolver : EvidenceResolver Bytes}

theorem resolved_ok {bytes : HexDigest → Option Bytes} {expected : HexDigest} {message : String} {raw : Bytes}
    (ok : resolved p bytes expected message = .ok raw) : bytes expected = some raw ∧ p.sha256 raw = expected := by
  unfold resolved at ok
  obtain ⟨found, asked, ok⟩ := bind_eq_ok.1 ok
  obtain ⟨_, same, ok⟩ := bind_eq_ok.1 ok
  cases ok
  rw [refuse_eq_ok, decide_eq_false_iff_not] at same
  push Not at same
  exact ⟨required_eq_ok.1 asked, same.2⟩

theorem mem_artifactReferences {value : Json} {name reference : String} :
    reference ∈ artifactReferences p value name ↔
      ∃ entry ∈ value.leaves name, referenced entry.1 = true ∧ reference = p.str entry.2 := by
  unfold artifactReferences
  rw [Dump.mem_walk]
  constructor
  · rintro ⟨entry, mem, collected⟩
    by_cases known : referenced entry.1 = true
    · rw [if_pos known] at collected
      exact ⟨entry, mem, known, List.mem_singleton.1 collected⟩
    · rw [if_neg known] at collected
      cases collected
  · rintro ⟨entry, mem, known, rfl⟩
    exact ⟨entry, mem, by rw [if_pos known]; exact List.mem_singleton_self _⟩

/-- What an accepted receipt has been checked for: its facts are of the schema, their references
are declared, and what is declared resolves. -/
theorem verify_ok {self : Interpreter} {reference : ReceiptReference}
    {context : ProductionContext HexDigest} {evidence : VerifiedEvidence} {facts : Facts}
    (accepted : verify p resolver self reference context = .ok (evidence, facts)) :
    (∃ json, p.parseFacts self.factsSchema json = some facts) ∧
    (∀ reference ∈ artifactReferences p facts.dump "",
      ∃ artifact ∈ facts.artifacts.artifactSha256s, artifact.text = reference) ∧
    ∀ artifact ∈ facts.artifacts.artifactSha256s,
      ∃ raw, resolver.artifactBytes artifact = some raw ∧ p.sha256 raw = artifact := by
  unfold verify at accepted
  obtain ⟨raw, -, accepted⟩ := bind_eq_ok.1 accepted
  obtain ⟨receipt, -, accepted⟩ := bind_eq_ok.1 accepted
  obtain ⟨policy, -, accepted⟩ := bind_eq_ok.1 accepted
  obtain ⟨_, -, accepted⟩ := bind_eq_ok.1 accepted
  obtain ⟨_, -, accepted⟩ := bind_eq_ok.1 accepted
  obtain ⟨_, -, accepted⟩ := bind_eq_ok.1 accepted
  obtain ⟨_, -, accepted⟩ := bind_eq_ok.1 accepted
  obtain ⟨_, -, accepted⟩ := bind_eq_ok.1 accepted
  obtain ⟨_, -, accepted⟩ := bind_eq_ok.1 accepted
  obtain ⟨_, -, accepted⟩ := bind_eq_ok.1 accepted
  obtain ⟨facts', parsed, accepted⟩ := bind_eq_ok.1 accepted
  obtain ⟨_, -, accepted⟩ := bind_eq_ok.1 accepted
  obtain ⟨frozen, -, accepted⟩ := bind_eq_ok.1 accepted
  obtain ⟨_, -, accepted⟩ := bind_eq_ok.1 accepted
  obtain ⟨_, declared, accepted⟩ := bind_eq_ok.1 accepted
  obtain ⟨_, bytes, accepted⟩ := bind_eq_ok.1 accepted
  obtain ⟨_, -, accepted⟩ := bind_eq_ok.1 accepted
  obtain ⟨_, -, accepted⟩ := bind_eq_ok.1 accepted
  obtain ⟨_, -, accepted⟩ := bind_eq_ok.1 accepted
  obtain ⟨_, -, accepted⟩ := bind_eq_ok.1 accepted
  cases accepted
  rw [refuse_eq_ok, Bool.not_eq_false', List.all_eq_true] at declared
  refine ⟨⟨_, required_eq_ok.1 parsed⟩, ?_, ?_⟩
  · intro reference mem
    obtain ⟨artifact, found, same⟩ := List.any_eq_true.1 (declared reference mem)
    exact ⟨artifact, found, of_decide_eq_true same⟩
  · intro artifact mem
    obtain ⟨raw, ok, -⟩ := bind_eq_ok.1 (forM_eq_ok.1 bytes artifact mem)
    exact ⟨raw, resolved_ok ok⟩

/-- The digests of facts, but for those that are not artifacts by name, are declared, and what
is declared has been resolved to its bytes. -/
structure Closes (p : EvidencePrimitives Bytes) (resolver : EvidenceResolver Bytes) (facts : Facts) :
    Prop where
  members : ∀ entry ∈ facts.dump.leaves "", ∀ found, entry.2 = .digest found →
    entry.1 ∉ unreferenced → found ∈ facts.artifacts.artifactSha256s
  bytes : ∀ artifact ∈ facts.artifacts.artifactSha256s,
    ∃ raw, resolver.artifactBytes artifact = some raw ∧ p.sha256 raw = artifact

theorem mem_labelled {facts : Facts} {value : HexDigest} (mem : value ∈ facts.labelled) :
    ∃ entry ∈ facts.dump.leaves "", entry.2 = .digest value ∧ entry.1 ∉ unreferenced := by
  cases facts with
  | canary facts =>
    have scenarios : ("scenario_artifacts", facts.scenarioArtifacts.dump) ∈ facts.dump := by
      simp [CanaryFacts.dump]
    have found : ∃ entry ∈ facts.scenarioArtifacts.dump.leaves "scenario_artifacts",
        entry.2 = .digest value ∧ entry.1 ∉ unreferenced := by
      simp only [Facts.labelled, ScenarioArtifacts.values, List.mem_cons, List.not_mem_nil, or_false] at mem
      simp only [ScenarioArtifacts.dump, digest, Dump.leaves_dict, List.flatMap_cons, Dump.leaves_leaf,
        List.flatMap_nil]
      rcases mem with rfl | rfl | rfl | rfl | rfl
      · exact ⟨("CANCEL", _), by simp, rfl, by simp [unreferenced]⟩
      · exact ⟨("SL", _), by simp, rfl, by simp [unreferenced]⟩
      · exact ⟨("TP", _), by simp, rfl, by simp [unreferenced]⟩
      · exact ⟨("TIMEOUT", _), by simp, rfl, by simp [unreferenced]⟩
      · exact ⟨("RESTART_RECOVERY", _), by simp, rfl, by simp [unreferenced]⟩
    obtain ⟨entry, leaf, same, name⟩ := found
    refine ⟨entry, ?_, same, name⟩
    simp only [Facts.dump, Dump.leaves_dict, List.mem_flatMap]
    exact ⟨_, scenarios, leaf⟩
  | _ => cases mem

/-- Accepted evidence closes over its artifacts if and only if the digests of a canary's
scenarios are declared. -/
theorem closes_iff {self : Interpreter} {reference : ReceiptReference}
    {context : ProductionContext HexDigest} {evidence : VerifiedEvidence} {facts : Facts}
    (accepted : verify p resolver self reference context = .ok (evidence, facts)) :
    Closes p resolver facts ↔ ∀ value ∈ facts.labelled, value ∈ facts.artifacts.artifactSha256s := by
  obtain ⟨-, declared, bytes⟩ := verify_ok accepted
  constructor
  · intro closes value mem
    obtain ⟨entry, leaf, same, name⟩ := mem_labelled mem
    exact closes.members entry leaf value same name
  · intro labelled
    refine ⟨fun entry leaf found same name => ?_, bytes⟩
    rcases facts.covered entry leaf found same with known | mem
    · have known : referenced entry.1 = true := by
        rw [walked, Bool.or_eq_true] at known
        exact known.resolve_left fun skipped => name (of_decide_eq_true skipped)
      obtain ⟨artifact, mem, same'⟩ := declared _ (mem_artifactReferences.2 ⟨entry, leaf, known, rfl⟩)
      rw [same, p.str_digest] at same'
      obtain ⟨text, valid⟩ := artifact
      obtain ⟨text', valid'⟩ := found
      cases same'
      exact mem
    · exact (List.mem_append.1 mem).elim id (labelled found)

end Verified

section Samples

/-- A digest of one digit. -/
def sampleDigest (digit : Char)
    (valid : (String.ofList (List.replicate 64 digit)).length = 64 ∧
      (String.ofList (List.replicate 64 digit)).toList.all
        (fun c => c.isDigit || ('a' ≤ c && c ≤ 'f')) = true) : HexDigest :=
  ⟨String.ofList (List.replicate 64 digit), valid⟩

def sampleIdentity (digit : Char)
    (valid : 1 ≤ (String.singleton digit).length ∧ (String.singleton digit).length ≤ 160 ∧
      (String.singleton digit).toList.all
        (fun c => c.isAlphanum || c = '_' || c = '.' || c = ':' || c = '-') = true) : Identity :=
  ⟨String.singleton digit, valid⟩

/-- The artifact, the receipt, the policy, and a digest of nothing. -/
def digestA : HexDigest := sampleDigest 'a' (by decide +kernel)
def digestB : HexDigest := sampleDigest 'b' (by decide +kernel)
def digestC : HexDigest := sampleDigest 'c' (by decide +kernel)
def digestD : HexDigest := sampleDigest 'd' (by decide +kernel)

def sampleId : Identity := sampleIdentity '1' (by decide +kernel)

def sampleTrip (symbol : Symbol) (digit : Char)
    (valid : 1 ≤ (String.singleton digit).length ∧ (String.singleton digit).length ≤ 160 ∧
      (String.singleton digit).toList.all
        (fun c => c.isAlphanum || c = '_' || c = '.' || c = ':' || c = '-') = true) : CanaryRoundTrip :=
  ⟨symbol, sampleIdentity digit valid, digestA, digestA⟩

/-- A canary of five round trips, with one artifact declared and one digest for all scenarios. -/
def sampleCanary (scenario : HexDigest) : CanaryFacts where
  artifactSha256s := [digestA]
  count := by decide
  unique := List.nodup_singleton _
  devRemoteAccountId := sampleId
  startedAt := 0
  endedAt := seconds 60
  attemptCount := 5
  minimumQuantityRulesSha256 := digestA
  roundTrips := [sampleTrip .BTC '1' (by decide +kernel), sampleTrip .ETH '2' (by decide +kernel),
    sampleTrip .SOL '3' (by decide +kernel), sampleTrip .BNB '4' (by decide +kernel),
    sampleTrip .XRP '5' (by decide +kernel)]
  scenarioArtifacts := ⟨scenario, scenario, scenario, scenario, scenario⟩
  attempts := by decide
  many := by decide
  bounded := by decide
  symbol_set := by
    intro symbol
    cases symbol <;> decide +kernel
  trade_unique := by decide +kernel
  attempt_ge := by decide

def sampleGateContext : ProductionContext HexDigest := ⟨"account", "system", digestC, digestA⟩

def sampleReceiptBody : SignedReceiptBody where
  kind := .DEV_CANARY
  receiptId := sampleId
  issuerId := sampleId
  keyId := sampleId
  context := sampleGateContext
  issuedAt := seconds 120
  validUntil := seconds 180
  factsSchemaSha256 := digestA
  factsJson := "facts"
  interval := by decide

def samplePolicy : IssuerPolicy where
  issuerId := sampleId
  keyId := sampleId
  publicKeyBase64 := "public"
  context := sampleGateContext
  allowedKinds := [.DEV_CANARY]
  validFrom := 0
  validUntil := seconds 600
  maximumReceiptLifetimeSeconds := 600
  campaignId := sampleId
  evaluatorSha256 := digestA
  crashScenarioSha256s := [digestA]
  minimumProfitFactor := 1
  maximumDrawdownFraction := 1

/-- Bytes are numbers: those of the artifact, the receipt and the policy, and two lengths. -/
def sampleEvidencePrimitives (scenario : HexDigest) : EvidencePrimitives ℕ where
  length n := n
  sha256 n := if n = 1 then digestA else if n = 2 then digestB else if n = 3 then digestC else digestD
  parseReceipt _ := some ⟨sampleReceiptBody, "signature"⟩
  parseFacts schema _ := if schema = .canary then some (.canary (sampleCanary scenario)) else none
  parsePolicy _ := some ⟨"system", digestA, sampleId, digestA, 1, 1, [digestA], [sampleId], 365, 500, 0⟩
  decoded text := if text = "public" then some 32 else some 64
  verifies _ _ _ := true
  schemaSha256 _ := digestA
  reviewedSchemaSha256 _ := digestA
  factsSha256 _ := digestA
  str leaf := match leaf with
    | .digest value => value.text
    | _ => ""
  str_digest _ := rfl
  parse_schema schema json facts parsed := by
    split at parsed
    next same =>
      cases parsed
      exact same.symm
    next => cases parsed

def sampleResolver : EvidenceResolver ℕ where
  receiptBytes expected := if expected = digestB then some 2 else none
  artifactBytes expected := if expected = digestA then some 1 else if expected = digestC then some 3 else none

def sampleInterpreter : Interpreter := ⟨.DEV_CANARY, [samplePolicy], false⟩

def sampleReference : ReceiptReference := ⟨.DEV_CANARY, sampleId, digestB, sampleId⟩

theorem sampleCanary_accepted (scenario : HexDigest)
    (ok : (verify (sampleEvidencePrimitives scenario) sampleResolver sampleInterpreter sampleReference
      sampleGateContext).isOk = true) :
    ∃ evidence, verify (sampleEvidencePrimitives scenario) sampleResolver sampleInterpreter sampleReference
      sampleGateContext = .ok (evidence, .canary (sampleCanary scenario)) := by
  cases accepted : verify (sampleEvidencePrimitives scenario) sampleResolver sampleInterpreter
      sampleReference sampleGateContext with
  | error error =>
    rw [accepted] at ok
    cases ok
  | ok result =>
    obtain ⟨evidence, facts⟩ := result
    obtain ⟨⟨json, parsed⟩, -⟩ := verify_ok accepted
    cases parsed
    exact ⟨evidence, rfl⟩

/-- A canary whose scenarios are the declared artifact closes. -/
theorem closes_iff_sample :
    ∃ evidence, verify (sampleEvidencePrimitives digestA) sampleResolver sampleInterpreter sampleReference
        sampleGateContext = .ok (evidence, .canary (sampleCanary digestA)) ∧
      Closes (sampleEvidencePrimitives digestA) sampleResolver (.canary (sampleCanary digestA)) := by
  obtain ⟨evidence, accepted⟩ := sampleCanary_accepted digestA (by decide +kernel)
  exact ⟨evidence, accepted, (closes_iff accepted).2 (by decide +kernel)⟩

/-- A canary is accepted whose scenarios name a digest that is not declared, and that the
resolver has nothing for. -/
theorem scenario_undeclared :
    ∃ evidence, verify (sampleEvidencePrimitives digestD) sampleResolver sampleInterpreter sampleReference
        sampleGateContext = .ok (evidence, .canary (sampleCanary digestD)) ∧
      sampleResolver.artifactBytes digestD = none ∧
      ¬Closes (sampleEvidencePrimitives digestD) sampleResolver (.canary (sampleCanary digestD)) := by
  obtain ⟨evidence, accepted⟩ := sampleCanary_accepted digestD (by decide +kernel)
  refine ⟨evidence, accepted, by decide +kernel, fun closes => ?_⟩
  have declared := closes.members ("CANCEL", .digest digestD) (by
    simp [Facts.dump, CanaryFacts.dump, sampleCanary, ScenarioArtifacts.dump, digest]) digestD rfl (by decide)
  exact absurd declared (by decide +kernel)

end Samples

end KairosExecution.Production.Evidence
