import KairosExecution.Production.Records
import KairosExecution.Python.Base64

/-! The sizes of captured stages. A producer emits the bytes of a stage as base64; before any
other work `_preflight` bounds the encoded texts, and `verify` then bounds the decoded bytes.
The encoded limits are the decoded ones times four thirds, rounded once, while padding rounds
every stage up. -/

namespace KairosExecution.Production

open Python

def maxReceiptBytes : ℕ := 1_000_000

def maxTotalBytes : ℕ := 4_000_000

def maxReceipts : ℕ := 32

def maxContextBytes : ℕ := maxReceiptBytes

/-- `(_MAX_RECEIPT_BYTES * 4 + 2) // 3` -/
def maxReceiptChars : ℕ := (maxReceiptBytes * 4 + 2) / 3

/-- `_MAX_TOTAL_BASE64_CHARS` -/
def maxTotalChars : ℕ := (maxTotalBytes * 4 + 2) / 3

/-- The size check of `_receipt` and the text under which it emits the bytes. -/
def receiptContent (content : List UInt8) : Except Err String := do
  refuse (content.isEmpty || content.length > maxReceiptBytes)
    (.value "projected native stage bytes are empty or exceed their bound")
  return String.ofList (Base64.encode content)

section Preflight

/-- The payload texts of the native context, `total` of whose bytes have been counted. -/
def checkPayloads (total : ℕ) : List Value → Except Err Unit
  | [] => .ok ()
  | .none :: payloads => checkPayloads total payloads
  | .str text :: payloads => do
    let total := total + text.utf8ByteSize
    refuse (total > maxContextBytes)
      (.value "native DecisionContext exceeds its aggregate payload bound")
    checkPayloads total payloads
  | _ :: _ => .error (.value "native context payloads must be bounded canonical JSON text")

/-- The stage checks of `_preflight`: the encoded texts, `total` of whose characters have been
counted. -/
def checkContents (total : ℕ) : List Value → Except Err Unit
  | [] => .ok ()
  | .none :: contents => checkContents total contents
  | .str text :: contents => do
    refuse (text.length > maxReceiptChars)
      (.value "stage content exceeds the per-receipt encoded bound")
    let total := total + text.length
    refuse (total > maxTotalChars)
      (.value "signed source manifest exceeds the aggregate encoded bound")
    checkContents total contents
  | _ :: _ => .error (.value "signed stage content must be bounded base64 text")

/-- The fields of `SignedLiveInputsEnvelopeV1` -/
def envelopeFields : List String :=
  ["version", "producer_id", "source_id", "purpose", "registration_id",
    "capture_implementation_id", "capture_implementation_sha256", "source_set_sha256",
    "policy_sha256", "scope_sha256", "observed_at_ms", "route", "review", "context", "venue",
    "allocation", "system_mode", "stages", "signature_base64"]

/-- What `_preflight` is given: a native envelope, of which it reads the stage contents and the
context payloads, a mapping, or anything else. -/
inductive RawProof
  | envelope (contents payloads : List (Option String))
  | mapping (fields : Record)
  | other

/-- A text or `None` -/
def optionalText : Option String → Value
  | some text => .str text
  | none => .none

/-- `[item.get(field) for item in items if isinstance(item, Mapping)]` -/
def fieldsOf (field : String) (items : List Value) : List Value :=
  items.filterMap fun item => item.asDict.map (·.get field)

/-- The stage contents and context payloads that `_preflight` reads. -/
def preflightParts : RawProof → Except Err (List Value × List Value)
  | .envelope contents payloads => .ok (contents.map optionalText, payloads.map optionalText)
  | .mapping fields => do
    refuse (fields.any fun kv => kv.1 ∉ envelopeFields)
      (.value "signed envelope has fields outside its bounded contract")
    match fields.get "stages" with
    | .list stages => do
      refuse (stages.length > maxReceipts)
        (.value "signed source manifest exceeds the bounded stage count")
      match fields.get "context" with
      | .dict context => match Record.get context "sources" with
        | .list sources => do
          refuse (sources.length ≠ 4)
            (.value "native DecisionContext must contain its four explicit source slots")
          return (fieldsOf "content_base64" stages, fieldsOf "payloads_json" sources)
        | _ => .error (.value "native DecisionContext must contain its four explicit source slots")
      | _ =>
        .error (.value "signed source manifest requires a bounded native DecisionContext")
    | _ => .error (.value "signed source manifest exceeds the bounded stage count")
  | .other => .error (.value "signed upstream proof must be a native envelope or mapping")

def preflight (rawProof : RawProof) : Except Err Unit := do
  let (contents, payloads) ← preflightParts rawProof
  checkPayloads 0 payloads
  checkContents 0 contents

end Preflight

section Verify

/-- The stage size checks of `verify`, `total` bytes of captured stages counted: the total size. -/
def stageSizes (total : ℕ) : List (Option String) → Except Err ℕ
  | [] => .ok total
  | none :: stages => stageSizes total stages
  | some text :: stages => do
    let raw ← required (.value "stage content is not valid base64") (Base64.decode text.toList)
    refuse (raw.isEmpty || raw.length > maxReceiptBytes)
      (.value "stage content is empty or exceeds per-receipt bounds")
    stageSizes (total + raw.length) stages

/-- The size checks of `verify`, the aggregate one last. -/
def verifySizes (stages : List (Option String)) : Except Err Unit := do
  let total ← stageSizes 0 stages
  refuse (total > maxTotalBytes)
    (.value "signed stage manifest exceeds the aggregate byte bound")

end Verify

/-- The bytes of the stages of an envelope, a stage that is not captured without any. -/
abbrev Stages := List (Option (List UInt8))

namespace Stages

/-- The stages as they are transmitted: standard padded base64. -/
def texts (stages : Stages) : List (Option String) :=
  stages.map fun stage => stage.map fun bytes => String.ofList (Base64.encode bytes)

/-- The stage contents as `_preflight` reads them. -/
def contents (stages : Stages) : List Value := stages.texts.map optionalText

/-- The total number of decoded bytes. -/
def size : Stages → ℕ
  | [] => 0
  | none :: stages => size stages
  | some bytes :: stages => bytes.length + size stages

/-- The total number of base64 quanta of three bytes, the last of each stage padded. -/
def quanta : Stages → ℕ
  | [] => 0
  | none :: stages => quanta stages
  | some bytes :: stages => (bytes.length + 2) / 3 + quanta stages

/-- The captured stages are what `verify` accepts by size. -/
structure Fits (stages : Stages) : Prop where
  captured : ∀ bytes, some bytes ∈ stages → 1 ≤ bytes.length ∧ bytes.length ≤ maxReceiptBytes
  total : stages.size ≤ maxTotalBytes

/-- The stages are within the decoded bounds, and no more than an envelope may hold. -/
structure Within (stages : Stages) : Prop extends Fits stages where
  count : stages.length ≤ maxReceipts

theorem size_le_quanta (stages : Stages) : stages.size ≤ 3 * stages.quanta := by
  induction stages with
  | nil => exact le_refl _
  | cons stage stages ih =>
    cases stage with
    | none => exact ih
    | some bytes =>
      simp only [size, quanta]
      omega

theorem length_text (bytes : List UInt8) :
    (String.ofList (Base64.encode bytes)).length = 4 * ((bytes.length + 2) / 3) := by
  rw [String.length_ofList, Base64.length_encode]

/-- The stage checks of `_preflight` accept stages of at most 999,999 bytes, and at most 1,333,333
quanta over all of them. -/
theorem checkContents_eq_ok {stages : Stages} {total : ℕ} (room : total ≤ maxTotalChars) :
    checkContents total stages.contents = .ok () ↔
      (∀ bytes, some bytes ∈ stages → bytes.length ≤ 999_999)
        ∧ total + 4 * stages.quanta ≤ maxTotalChars := by
  induction stages generalizing total with
  | nil => simpa [contents, texts, checkContents, quanta] using room
  | cons stage stages ih =>
    cases stage with
    | none =>
      have rest := ih room
      simpa [contents, texts, checkContents, optionalText, quanta] using rest
    | some bytes =>
      have step : checkContents total (contents (some bytes :: stages)) = (do
          refuse (4 * ((bytes.length + 2) / 3) > maxReceiptChars)
            (.value "stage content exceeds the per-receipt encoded bound")
          refuse (total + 4 * ((bytes.length + 2) / 3) > maxTotalChars)
            (.value "signed source manifest exceeds the aggregate encoded bound")
          checkContents (total + 4 * ((bytes.length + 2) / 3)) (contents stages)) := by
        rw [← length_text]
        rfl
      have limit : maxReceiptChars = 1_333_334 := by decide
      rw [step]
      simp only [bind_eq_ok, refuse_eq_ok, decide_eq_false_iff_not, not_lt, quanta, limit,
        List.mem_cons, Option.some.injEq, forall_eq_or_imp, gt_iff_lt]
      constructor
      · rintro ⟨_, small, _, more, rest⟩
        obtain ⟨others, fits⟩ := (ih more).1 rest
        exact ⟨⟨by omega, others⟩, by omega⟩
      · rintro ⟨⟨small, others⟩, fits⟩
        have more : total + 4 * ((bytes.length + 2) / 3) ≤ maxTotalChars := by omega
        exact ⟨(), by omega, (), more, (ih more).2 ⟨others, by omega⟩⟩

/-- `verify` reads the sizes of the bytes that were encoded. -/
theorem stageSizes_eq_ok {stages : Stages} {total n : ℕ} :
    stageSizes total stages.texts = .ok n ↔
      (∀ bytes, some bytes ∈ stages → 1 ≤ bytes.length ∧ bytes.length ≤ maxReceiptBytes)
        ∧ n = total + stages.size := by
  induction stages generalizing total with
  | nil => simp [texts, stageSizes, size, eq_comm]
  | cons stage stages ih =>
    cases stage with
    | none =>
      have rest := @ih total
      simpa [texts, stageSizes, size] using rest
    | some bytes =>
      have step : stageSizes total (texts (some bytes :: stages)) = (do
          refuse (bytes.isEmpty || bytes.length > maxReceiptBytes)
            (.value "stage content is empty or exceeds per-receipt bounds")
          stageSizes (total + bytes.length) (texts stages)) := by
        simp [texts, stageSizes, Base64.decode_encode, required]
        rfl
      have positive : bytes.isEmpty = false ↔ 1 ≤ bytes.length := by
        cases bytes <;> simp
      rw [step]
      simp only [bind_eq_ok, refuse_eq_ok, Bool.or_eq_false_iff, decide_eq_false_iff_not, not_lt,
        gt_iff_lt, positive, ih, size, List.mem_cons, Option.some.injEq, forall_eq_or_imp]
      constructor
      · rintro ⟨_, here, others, eq⟩
        exact ⟨⟨here, others⟩, by omega⟩
      · rintro ⟨⟨here, others⟩, eq⟩
        exact ⟨(), here, others, by omega⟩

/-- The size checks of `verify` accept exactly the decoded bounds. -/
theorem verifySizes_eq_ok {stages : Stages} :
    verifySizes stages.texts = .ok () ↔ Fits stages := by
  simp only [verifySizes, bind_eq_ok, refuse_eq_ok, decide_eq_false_iff_not, not_lt, gt_iff_lt,
    stageSizes_eq_ok]
  constructor
  · rintro ⟨n, ⟨captured, rfl⟩, total⟩
    exact ⟨captured, by simpa using total⟩
  · intro fits
    exact ⟨_, ⟨fits.captured, rfl⟩, by simpa using fits.total⟩

theorem receiptContent_eq_ok {bytes : List UInt8} {text : String} :
    receiptContent bytes = .ok text ↔ (1 ≤ bytes.length ∧ bytes.length ≤ maxReceiptBytes)
      ∧ text = String.ofList (Base64.encode bytes) := by
  have positive : bytes.isEmpty = false ↔ 1 ≤ bytes.length := by
    cases bytes <;> simp
  simp only [receiptContent, bind_eq_ok, refuse_eq_ok, Bool.or_eq_false_iff,
    decide_eq_false_iff_not, not_lt, gt_iff_lt, positive]
  constructor
  · rintro ⟨_, fits, eq⟩
    cases eq
    exact ⟨fits, rfl⟩
  · rintro ⟨fits, rfl⟩
    exact ⟨(), fits, rfl⟩

/-- The encoded preflight is as strict as the decoded bounds: it accepts what is within them,
what it accepts is beyond them by less than a quantum a stage and then refused by `verify`, and
it accepts the size of whatever a projector may emit. -/
structure AsStrict (stages : Stages) : Prop where
  accepts : Within stages → checkContents 0 stages.contents = .ok ()
  receipts : checkContents 0 stages.contents = .ok () →
    ∀ bytes, some bytes ∈ stages → bytes.length < maxReceiptBytes + 3
  total : checkContents 0 stages.contents = .ok () →
    stages.size ≤ maxTotalBytes + 2 * stages.countP Option.isSome
  refused : checkContents 0 stages.contents = .ok () → ¬Fits stages →
    verifySizes stages.texts ≠ .ok ()
  projected : ∀ bytes text, some bytes ∈ stages → receiptContent bytes = .ok text →
    text.length ≤ maxReceiptChars

/-- The preflight is as strict as the decoded bounds exactly where no stage has the greatest
size and what is within the bounds fills at most 1,333,333 quanta. -/
theorem asStrict_iff (stages : Stages) :
    AsStrict stages ↔ (∀ bytes, some bytes ∈ stages → bytes.length ≠ 1_000_000)
      ∧ (Within stages → stages.quanta ≤ 1_333_333) := by
  have accepted := @checkContents_eq_ok stages 0 (Nat.zero_le _)
  have limit : maxTotalChars = 5_333_334 := by decide
  have greatest : maxReceiptBytes = 1_000_000 := rfl
  have aggregate : maxTotalBytes = 4_000_000 := rfl
  have chars : maxReceiptChars = 1_333_334 := by decide
  constructor
  · intro strict
    constructor
    · intro bytes mem full
      have emitted : receiptContent bytes = .ok (String.ofList (Base64.encode bytes)) :=
        receiptContent_eq_ok.2 ⟨by omega, rfl⟩
      have := strict.projected bytes _ mem emitted
      rw [length_text] at this
      omega
    · intro within
      have := (accepted.1 (strict.accepts within)).2
      omega
  · rintro ⟨notFull, few⟩
    constructor
    · intro within
      refine accepted.2 ⟨fun bytes mem => ?_, ?_⟩
      · have := (within.captured bytes mem).2
        have := notFull bytes mem
        omega
      · have := few within
        omega
    · intro ok bytes mem
      have := (accepted.1 ok).1 bytes mem
      omega
    · intro ok
      have := (accepted.1 ok).2
      have := size_le_quanta stages
      omega
    · intro _ unfit verified
      exact unfit (verifySizes_eq_ok.1 verified)
    · intro bytes text mem emitted
      obtain ⟨⟨_, small⟩, rfl⟩ := receiptContent_eq_ok.1 emitted
      have := notFull bytes mem
      rw [length_text]
      omega

section Whole

variable {stages : Stages} {rawProof : RawProof} {payloads : List Value}

/-- A native envelope with these stages gives their contents to the checks. -/
theorem preflightParts_envelope (stages : Stages) (payloads : List (Option String)) :
    preflightParts (.envelope stages.texts payloads) =
      .ok (stages.contents, payloads.map optionalText) := rfl

/-- A mapping gives the contents of as many stages as an envelope may hold. -/
theorem preflightParts_mapping {fields : Record} {contents : List Value}
    (parts : preflightParts (.mapping fields) = .ok (contents, payloads)) :
    contents.length ≤ maxReceipts := by
  obtain ⟨_, -, parts⟩ := bind_eq_ok.1 parts
  split at parts
  · rename_i items _
    obtain ⟨_, count, parts⟩ := bind_eq_ok.1 parts
    rw [refuse_eq_ok, decide_eq_false_iff_not, not_lt] at count
    split at parts
    · split at parts
      · obtain ⟨_, -, parts⟩ := bind_eq_ok.1 parts
        cases parts
        exact (List.length_filterMap_le _ items).trans count
      · cases parts
    · cases parts
  · cases parts

/-- What `_preflight` makes of a proof with these stages, the payloads of its context being within
their bound, is what the checks of the stages make of them. -/
theorem preflight_eq_ok (parts : preflightParts rawProof = .ok (stages.contents, payloads))
    (bounded : checkPayloads 0 payloads = .ok ()) :
    preflight rawProof = .ok () ↔ checkContents 0 stages.contents = .ok () := by
  unfold preflight
  rw [parts]
  simp [bounded, bind, Except.bind]

/-- So `_preflight` is as strict as the decoded bounds where the checks of the stages are. -/
theorem AsStrict.preflight (strict : AsStrict stages)
    (parts : preflightParts rawProof = .ok (stages.contents, payloads))
    (bounded : checkPayloads 0 payloads = .ok ()) :
    (Within stages → Production.preflight rawProof = .ok ()) ∧
      (Production.preflight rawProof = .ok () →
        (∀ bytes, some bytes ∈ stages → bytes.length < maxReceiptBytes + 3) ∧
          stages.size ≤ maxTotalBytes + 2 * stages.countP Option.isSome ∧
          (¬Fits stages → verifySizes stages.texts ≠ .ok ())) := by
  rw [preflight_eq_ok parts bounded]
  exact ⟨strict.accepts, fun ok => ⟨strict.receipts ok, strict.total ok, strict.refused ok⟩⟩

/-- A native envelope within the decoded bounds is accepted, where the preflight is as strict. -/
theorem AsStrict.preflight_envelope (strict : AsStrict stages) (within : Within stages)
    {payloads : List (Option String)} (bounded : checkPayloads 0 (payloads.map optionalText) = .ok ()) :
    Production.preflight (.envelope stages.texts payloads) = .ok () :=
  (strict.preflight (preflightParts_envelope stages payloads) bounded).1 within

/-- A mapping that is accepted has no more stages than an envelope may hold, and their contents pass
the checks. -/
theorem preflight_mapping {fields : Record} (ok : Production.preflight (.mapping fields) = .ok ()) :
    ∃ contents payloads, preflightParts (.mapping fields) = .ok (contents, payloads) ∧
      contents.length ≤ maxReceipts ∧ checkContents 0 contents = .ok () := by
  obtain ⟨⟨contents, payloads⟩, parts, checks⟩ := bind_eq_ok.1 ok
  obtain ⟨_, -, checks⟩ := bind_eq_ok.1 checks
  exact ⟨contents, payloads, parts, preflightParts_mapping parts, checks⟩

end Whole

/-- Six stages of one byte, and one of the greatest size that may be emitted. -/
def fullStage : Stages :=
  some (List.replicate 1_000_000 0) :: List.replicate 6 (some [0])

theorem fullStage_within : Within fullStage where
  captured := by
    intro bytes mem
    rcases List.mem_cons.1 mem with full | rest
    · cases full
      rw [List.length_replicate]
      decide
    · cases List.eq_of_mem_replicate rest
      decide
  total := by
    have rest : size (List.replicate 6 (some [0])) = 6 := rfl
    have fits : 1_000_000 + 6 ≤ maxTotalBytes := by decide
    rwa [fullStage, size, List.length_replicate, rest]
  count := by decide

theorem fullStage_not_asStrict : Within fullStage ∧ ¬AsStrict fullStage := by
  refine ⟨fullStage_within, fun strict => ?_⟩
  have emitted : receiptContent (List.replicate 1_000_000 0)
      = .ok (String.ofList (Base64.encode (List.replicate 1_000_000 0))) := by
    rw [receiptContent_eq_ok, List.length_replicate]
    exact ⟨by decide, rfl⟩
  have short := strict.projected _ _ (List.mem_cons_self ..) emitted
  rw [length_text, List.length_replicate] at short
  revert short
  decide

end Stages

end KairosExecution.Production
