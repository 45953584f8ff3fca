import GhostArk.Verifiers.NodeV2

/-!
Contract: what an accepting verdict of the second-layer verifier says of the
receipt, measured by the emitter's own assertions.

Owns the list of the emitter's checks that the verifier leaves out, and the
equivalence: an accepted receipt is well formed exactly when it passes these.

Does not own the cryptographic checks; any digest and HMAC function will do.
-/

namespace GhostArk.Verifiers.NodeV2

open Js
open EnforcementRuntime.Policy (property)
open EnforcementRuntime.Receipts
open EnforcementRuntime.Receipts.V2

theorem property_without {entries : List (JsString × JsValue)} {key : JsString} {name : String}
    (other : js name ≠ key) : property (without key entries) name = property entries name := by
  have sameTest : (fun entry : JsString × JsValue =>
      decide (decide (entry.1 ≠ key) = true ∧ decide (entry.1 = js name) = true)) =
        fun entry => decide (entry.1 = js name) := by
    funext entry
    by_cases read : entry.1 = js name
    · simp [read, other]
    · simp [read]
  rw [property, property, without, List.find?_filter, sameTest]

/-- The receipt without id and signature. -/
def buildInput (receipt : List (JsString × JsValue)) : List (JsString × JsValue) :=
  without (js "receipt_id") (without (js "receipt_signature") receipt)

theorem property_buildInput {receipt : List (JsString × JsValue)} {name : String}
    (notId : js name ≠ js "receipt_id") (notSignature : js name ≠ js "receipt_signature") :
    property (buildInput receipt) name = property receipt name := by
  rw [buildInput, property_without notId, property_without notSignature]

def isString (value : JsValue) : Bool := (readString value).isSome

/-- Both digests of a trace entry are strings, and not values with a fitting text. -/
def hasTextDigests (entry : JsValue) : Bool :=
  (objectMembers entry).any fun members =>
    isString (property members "request_payload_digest") &&
      isString (property members "response_payload_digest")

theorem isText_iff_isString {coercion : Coercion} {pattern : JsString → Bool} {value : JsValue}
    (fits : coercion.test pattern value = .ok true) :
    isText pattern value = true ↔ isString value = true := by
  cases value with
  | string text =>
    rw [Coercion.test_string, Except.ok.injEq] at fits
    exact iff_of_true fits rfl
  | _ => exact Iff.rfl

section Soundness

variable {runtime : NodeRuntime}

theorem assertTraceEntry_of_checked {entry : JsValue} {index sequenceNum : Nat} {previous : Int}
    (checked : checkTraceEntry runtime entry index previous = .ok (some sequenceNum))
    (found : Nat) :
    assertTraceEntry entry index previous = .ok found ↔
      found = sequenceNum ∧ hasTextDigests entry = true := by
  rw [checkTraceEntry_eq_some_iff] at checked
  rcases checked with ⟨members, isObject, sequenced, increasing, named, request, response, allowed⟩
  rw [assertTraceEntry_eq_ok_iff, hasTextDigests, isObject, Option.any_some, Bool.and_eq_true,
    ← isText_iff_isString request, ← isText_iff_isString response]
  constructor
  · rintro ⟨_, ⟨⟩, found, -, -, requestText, responseText, -⟩
    rw [sequenced] at found
    exact ⟨(Option.some.inj found).symm, requestText, responseText⟩
  · rintro ⟨rfl, requestText, responseText⟩
    exact ⟨members, rfl, sequenced, fun repeated => increasing repeated.symm, named, requestText,
      responseText, allowed⟩

theorem assertTraceFrom_of_checked {index : Nat} {previous : Int} {entries : List JsValue}
    (checked : checkTraceFrom runtime index previous entries = .ok true) :
    assertTraceFrom index previous entries = .ok () ↔
      ∀ entry ∈ entries, hasTextDigests entry = true := by
  induction entries generalizing index previous with
  | nil => simp [assertTraceFrom]
  | cons entry rest ih =>
    rw [checkTraceFrom_cons_eq_true_iff] at checked
    rcases checked with ⟨sequenceNum, entryChecked, restChecked⟩
    rw [assertTraceFrom_cons_eq_ok_iff, List.forall_mem_cons, ← ih restChecked]
    simp only [assertTraceEntry_of_checked entryChecked, and_assoc, exists_eq_left]

/-! ### The receipt -/

def traceEntries : JsValue → List JsValue
  | .array entries => entries
  | _ => []

/-- What the emitter and its envelope constrain and the verifier does not check. -/
structure PassesOmittedChecks (receipt envelope : List (JsString × JsValue)) : Prop where
  user : isText isDigest (property receipt "user_id_hash") = true
  session : isText isDigest (property receipt "session_id_hash") = true
  retrieved : ∃ digests, iterate (js "input.retrieved_context_digests")
      (property receipt "retrieved_context_digests") = .ok digests ∧
    ∀ digest ∈ digests, isText isDigest digest = true
  traceDigests : ∀ entry ∈ traceEntries (property receipt "execution_trace"),
    hasTextDigests entry = true
  previous : property receipt "prev_receipt_hash" = .null ∨
    isText isReceiptHash (property receipt "prev_receipt_hash") = true
  algorithm : readString (property receipt "signature_alg") = some HMAC_ALGORITHM
  schemaVersion : readString (property envelope "schemaVersion") = some ENVELOPE_SCHEMA_VERSION

/-- The input passes the emitter's assertions, declares the algorithm of its
envelope, and the envelope has the pinned version. -/
structure WellFormedReceipt (coercion : Coercion) (receipt envelope : List (JsString × JsValue)) :
    Prop where
  input : assertBuildInput coercion (buildInput receipt) = .ok ()
  algorithm : ∃ algorithm, property receipt "signature_alg" = .string algorithm ∧
    property envelope "algorithm" = .string algorithm
  schemaVersion : property envelope "schemaVersion" = .string ENVELOPE_SCHEMA_VERSION

theorem test_of_isText {coercion : Coercion} {pattern : JsString → Bool} {value : JsValue}
    (shaped : isText pattern value = true) : coercion.test pattern value = .ok true := by
  rcases isText_iff.mp shaped with ⟨text, rfl, fits⟩
  rw [Coercion.test_string, fits]

/-- The emitter accepts the input of an accepted receipt exactly when the members
that the verifier does not check have the shapes that the emitter asks for. -/
theorem assertBuildInput_of_accepted {receipt envelope : List (JsString × JsValue)}
    (accepted : Accepted runtime receipt envelope) :
    assertBuildInput runtime.coercion (buildInput receipt) = .ok () ↔
      isText isDigest (property receipt "user_id_hash") = true ∧
      isText isDigest (property receipt "session_id_hash") = true ∧
      (∃ digests, iterate (js "input.retrieved_context_digests")
          (property receipt "retrieved_context_digests") = .ok digests ∧
        ∀ digest ∈ digests, isText isDigest digest = true) ∧
      (∀ entry ∈ traceEntries (property receipt "execution_trace"),
        hasTextDigests entry = true) ∧
      (property receipt "prev_receipt_hash" = .null ∨
        isText isReceiptHash (property receipt "prev_receipt_hash") = true) := by
  rcases accepted.trace with ⟨entries, isArray, checked⟩
  rw [assertBuildInput_eq_ok_iff]
  simp only [property_buildInput (show js "tenant_id_hash" ≠ js "receipt_id" by decide)
      (by decide), property_buildInput (show js "user_id_hash" ≠ js "receipt_id" by decide)
      (by decide), property_buildInput (show js "session_id_hash" ≠ js "receipt_id" by decide)
      (by decide), property_buildInput (show js "input_digest" ≠ js "receipt_id" by decide)
      (by decide), property_buildInput (show js "execution_context_hash" ≠ js "receipt_id" by decide)
      (by decide), property_buildInput (show js "policy_hash" ≠ js "receipt_id" by decide)
      (by decide), property_buildInput (show js "execution_nonce" ≠ js "receipt_id" by decide)
      (by decide), property_buildInput
        (show js "retrieved_context_digests" ≠ js "receipt_id" by decide) (by decide),
      property_buildInput (show js "execution_trace" ≠ js "receipt_id" by decide) (by decide),
      property_buildInput (show js "prev_receipt_hash" ≠ js "receipt_id" by decide) (by decide),
      accepted.tenant, accepted.input, accepted.context, test_of_isText accepted.policy,
      test_of_isText accepted.nonce, isArray, assertTrace, traceEntries,
      assertTraceFrom_of_checked checked, true_and]

/-- For every value that the verifier accepts under whatever options: it is a well-formed
second-layer receipt exactly when it passes the checks that the verifier leaves out. -/
theorem verifyReceiptV2_wellFormed_iff {value : JsValue} {options : VerificationOptions}
    {result : VerificationResult} (returned : verifyReceiptV2 runtime value options = .ok result)
    (verdict : result.verdict = true) :
    ∃ receipt envelope, recordEntries value = some receipt ∧
      decodeEnvelope runtime (property receipt "receipt_signature") = .ok envelope ∧
      (WellFormedReceipt runtime.coercion receipt envelope ↔
        PassesOmittedChecks receipt envelope) := by
  rcases accepted_of_verdict returned verdict with ⟨receipt, envelope, isRecord, accepted⟩
  refine ⟨receipt, envelope, isRecord, accepted.decoded, ?_⟩
  have envelopeAlgorithm := readString_eq_some_iff.mp accepted.algorithm
  constructor
  · rintro ⟨input, ⟨algorithm, declared, enveloped⟩, schemaVersion⟩
    rcases (assertBuildInput_of_accepted accepted).mp input with
      ⟨user, session, retrieved, traceDigests, previous⟩
    rw [envelopeAlgorithm] at enveloped
    cases enveloped
    exact ⟨user, session, retrieved, traceDigests, previous, readString_eq_some_iff.mpr declared,
      readString_eq_some_iff.mpr schemaVersion⟩
  · rintro ⟨user, session, retrieved, traceDigests, previous, algorithm, schemaVersion⟩
    exact ⟨(assertBuildInput_of_accepted accepted).mpr
        ⟨user, session, retrieved, traceDigests, previous⟩,
      ⟨HMAC_ALGORITHM, readString_eq_some_iff.mp algorithm, envelopeAlgorithm⟩,
      readString_eq_some_iff.mp schemaVersion⟩

end Soundness

namespace Sample

def runtime : NodeRuntime where
  toReceiptRuntime := EnforcementRuntime.Receipts.Sample.runtime
  syntaxErrorMessage := fun _ => js "Unexpected token"
  hostText := fun _ => .error cannotConvertError
  base64Buffer := fun value =>
    match readString value with
    | some text => .ok (Signer.base64Bytes text)
    | none => .error (typeError (js "The first argument must be of type string"))

def evaluationRuntime : NodeRuntime :=
  { runtime with toReceiptRuntime := EnforcementRuntime.Receipts.Sample.evaluationRuntime }

theorem runtime_eq : runtime = evaluationRuntime := by
  rw [evaluationRuntime, ← EnforcementRuntime.Receipts.Sample.runtime_eq]
  rfl

def secret : JsString := js "verifier-secret"

def options : VerificationOptions := ⟨none, some secret⟩

def digest (digit : Char) : JsValue := .string (js "sha256:" ++ .replicate 64 (unit digit))

def identityPayload (algorithm : JsString) : List (JsString × JsValue) :=
  [(js "schema_version", .string V2_SCHEMA_VERSION), (js "tenant_id_hash", digest 'a'),
    (js "user_id_hash", digest 'b'), (js "session_id_hash", digest 'c'),
    (js "input_digest", digest 'd'), (js "execution_context_hash", digest 'e'),
    (js "policy_hash", .string (.replicate 64 (unit 'f'))),
    (js "execution_nonce", .string (js "nonce-0001")),
    (js "retrieved_context_digests", .array []), (js "execution_trace", .array []),
    (js "prev_receipt_hash", .null), (js "signature_alg", .string algorithm)]

def sign (payload : List (JsString × JsValue)) : Except JsError JsValue := do
  let identityText ← canonicalize runtime.numbers (.object payload)
  let receiptId := js "grct2_" ++ runtime.sha256.sha256Hex identityText
  let unsigned := payload ++ [(js "receipt_id", .string receiptId)]
  let canonicalUnsigned ← canonicalize runtime.numbers (.object unsigned)
  let hmac := Signer.hexBytes (runtime.hmacSha256.hmacHex secret canonicalUnsigned)
  let envelope ← canonicalize runtime.numbers (.object [
    (js "algorithm", .string HMAC_ALGORITHM),
    (js "digestSha256", .string (runtime.sha256.sha256Hex canonicalUnsigned)),
    (js "keyId", .string (js "local-dev-hmac")),
    (js "schemaVersion", .string ENVELOPE_SCHEMA_VERSION),
    (js "signature", .string (Signer.base64 hmac))])
  return .object (unsigned ++
    [(js "receipt_signature", .string (Signer.base64Url (utf8 envelope)))])

def accepts (payload : List (JsString × JsValue)) : Bool :=
  (sign payload).toOption.any fun value =>
    (verifyReceiptV2 runtime value options).toOption.any (·.verdict)

theorem exists_of_accepts {payload : List (JsString × JsValue)} (accepted : accepts payload = true) :
    ∃ later result, verifyReceiptV2 runtime (.object (payload ++ later)) options = .ok result ∧
      result.verdict = true := by
  rcases exists_ok_of_any accepted with ⟨value, signed, verified⟩
  rcases exists_ok_of_any verified with ⟨result, returned, verdict⟩
  unfold sign at signed
  simp only [bind_eq_ok, pure_eq_ok, List.append_assoc] at signed
  rcases signed with ⟨identityText, -, canonicalUnsigned, -, envelope, -, rfl⟩
  exact ⟨_, result, returned, verdict⟩

end Sample

/-- A receipt that declares the KMS algorithm is accepted on an HMAC. -/
theorem verifyReceiptV2_kms_on_hmac :
    ∃ value result receipt envelope,
      verifyReceiptV2 Sample.runtime value Sample.options = .ok result ∧ result.verdict = true ∧
      recordEntries value = some receipt ∧
      decodeEnvelope Sample.runtime (property receipt "receipt_signature") = .ok envelope ∧
      property receipt "signature_alg" = .string KMS_ALGORITHM ∧
      property envelope "algorithm" = .string HMAC_ALGORITHM := by
  have evaluated : Sample.accepts (Sample.identityPayload KMS_ALGORITHM) = true := by
    unfold Sample.accepts Sample.sign
    rw [Sample.runtime_eq]
    decide +kernel
  rcases Sample.exists_of_accepts evaluated with ⟨later, result, returned, verdict⟩
  rcases accepted_of_verdict returned verdict with ⟨receipt, envelope, isRecord, accepted⟩
  obtain rfl : Sample.identityPayload KMS_ALGORITHM ++ later = receipt := Option.some.inj isRecord
  exact ⟨_, result, _, envelope, returned, verdict, isRecord, accepted.decoded, rfl,
    readString_eq_some_iff.mp accepted.algorithm⟩

/-- On a receipt that declares the HMAC algorithm. -/
theorem verifyReceiptV2_wellFormed_hmac :
    ∃ later receipt envelope,
      recordEntries (.object (Sample.identityPayload HMAC_ALGORITHM ++ later)) = some receipt ∧
      decodeEnvelope Sample.runtime (property receipt "receipt_signature") = .ok envelope ∧
      (WellFormedReceipt Sample.runtime.coercion receipt envelope ↔
        PassesOmittedChecks receipt envelope) := by
  have evaluated : Sample.accepts (Sample.identityPayload HMAC_ALGORITHM) = true := by
    unfold Sample.accepts Sample.sign
    rw [Sample.runtime_eq]
    decide +kernel
  rcases Sample.exists_of_accepts evaluated with ⟨later, result, returned, verdict⟩
  exact ⟨later, verifyReceiptV2_wellFormed_iff returned verdict⟩

end GhostArk.Verifiers.NodeV2
