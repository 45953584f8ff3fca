import GhostArk.EnforcementRuntime.Receipts.EmissionInvariant
import GhostArk.EnforcementRuntime.Receipts.Verifier

/-!
Contract: `DefaultDecisionReceiptEmitter.emit` against `verifyDecisionReceipt`.

Owns signers as the emitter admits them, receipts as their emitters sign them, the
invariant that a run of `emit` calls only stores and returns such receipts, and
when the verifier of the same key accepts them: always under local signing, and
under KMS signing exactly for immutable key ids.
-/

namespace GhostArk.EnforcementRuntime.Receipts

open Js ReceiptSchema Aws

/-- A signer as `assertSigner` admits it. -/
structure DecisionReceiptAsyncSigner where
  keyId : JsString
  algorithm : SignatureAlgorithm
  /-- The signatures that `signCanonical` may return for a payload. -/
  signs : (canonicalPayload signature : JsString) → Prop
  keyIdNonempty : keyId ≠ []

/-- The envelope that `sign` encodes. -/
def DecisionReceiptAsyncSigner.envelope (signer : DecisionReceiptAsyncSigner)
    (digestSha256 signature : JsString) : Signer.DecisionReceiptSignatureEnvelope :=
  ⟨signer.keyId, signer.algorithm, digestSha256, signature⟩

/-- A verifier of the signer's key that accepts exactly the signer's signatures. -/
structure DecisionReceiptCanonicalVerifier.Matches (verifier : DecisionReceiptCanonicalVerifier)
    (signer : DecisionReceiptAsyncSigner) : Prop where
  algorithm : verifier.algorithm = signer.algorithm
  keyId : verifier.keyId = some signer.keyId
  accepts : ∀ canonicalPayload signature receipt envelope,
    verifier.verifyCanonical canonicalPayload signature receipt envelope = .ok true ↔
      signer.signs canonicalPayload signature

/-- A receipt with the signer's signature over its canonical text. -/
structure SignedOver (runtime : ReceiptRuntime) (signer : DecisionReceiptAsyncSigner)
    (receipt : SignedDecisionReceipt) (canonicalPayload signature : JsString) : Prop where
  algorithm : receipt.signature_alg = signer.algorithm
  receiptId : receiptIdFromUnsignedDecisionReceipt runtime receipt.toReceiptBody =
    .ok receipt.receipt_id
  canonical : canonicalUnsignedDecisionReceipt runtime receipt.toUnsignedDecisionReceipt =
    .ok canonicalPayload
  signed : signer.signs canonicalPayload signature
  encoded : Signer.encodeDecisionReceiptSignatureEnvelope runtime
    (signer.envelope (sha256Hex runtime.toRuntime canonicalPayload) signature) =
      .ok receipt.receipt_signature

def SignedBy (runtime : ReceiptRuntime) (signer : DecisionReceiptAsyncSigner)
    (receipt : SignedDecisionReceipt) : Prop :=
  ∃ canonicalPayload signature, SignedOver runtime signer receipt canonicalPayload signature

/-- `verifyDecisionReceipt` returns the verdict true. -/
def Verified (runtime : Signer.VerifierRuntime) (verifier : DecisionReceiptCanonicalVerifier)
    (receipt : SignedDecisionReceipt) : Prop :=
  ∃ result, verifyDecisionReceipt runtime verifier receipt.toJs = .ok result ∧
    result.verdict = true

section Verdict

variable {runtime : Signer.VerifierRuntime} {signer : DecisionReceiptAsyncSigner}
  {verifier : DecisionReceiptCanonicalVerifier} {receipt : SignedDecisionReceipt}

theorem keyIdPassed_self (signer : DecisionReceiptAsyncSigner) :
    keyIdPassed signer.algorithm signer.keyId (some signer.keyId) = true ↔
      signer.algorithm = .LOCAL_HMAC_SHA256_DEV_ONLY ∨
        isImmutableKmsKeyId signer.keyId = true := by
  have nonempty : (signer.keyId != []) = true := by simpa using signer.keyIdNonempty
  have expected : (some signer.keyId).filter (· != []) = some signer.keyId := by
    rw [Option.filter_some, if_pos nonempty]
  rw [keyIdPassed, expected]
  cases signer.algorithm with
  | LOCAL_HMAC_SHA256_DEV_ONLY => simp [nonempty]
  | KMS_SIGN_RSASSA_PSS_SHA_256 => simp [immutableKmsKeyIdsMatch_self]

/-- The verifier of the signer's key accepts its receipts exactly if their key id is one that it
requires of the algorithm. -/
theorem verified_iff_of_signedBy (matching : verifier.Matches signer)
    (signed : SignedBy runtime.toReceiptRuntime signer receipt) :
    Verified runtime verifier receipt ↔
      signer.algorithm = .LOCAL_HMAC_SHA256_DEV_ONLY ∨
        isImmutableKmsKeyId signer.keyId = true := by
  rcases signed with ⟨canonicalPayload, signature, signed⟩
  have decoded := Signer.decodeDecisionReceiptSignatureEnvelope_encoded signed.encoded
  have shape := Signer.envelopeShape_encoded signed.encoded
  have accepted := @verdict_iff_of_decoded _ verifier _ _ _ _ _
    signed.receiptId signed.canonical (Signer.envelopeJson_encoded signed.encoded) decoded shape
    _ (validateSignedDecisionReceipt_toJs runtime.toReceiptRuntime receipt)
  rw [← keyIdPassed_self, Verified, accepted, matching.keyId, matching.algorithm]
  constructor
  · rintro ⟨-, -, -, keyPassed, -, -⟩
    rw [signed.algorithm] at keyPassed
    exact keyPassed
  · intro keyPassed
    refine ⟨rfl, signed.algorithm, signed.algorithm.symm, ?_, rfl, ?_⟩
    · rw [signed.algorithm]
      exact keyPassed
    · exact (matching.accepts _ _ _ _).mpr signed.signed

end Verdict

section Emission

variable (runtime : ReceiptRuntime) (signer : DecisionReceiptAsyncSigner)

/-- What the signer replies to the request to sign a receipt. Its key id never changes. -/
def DecisionReceiptAsyncSigner.Replies (unsigned : UnsignedDecisionReceipt)
    (reply : SignerReply) : Prop :=
  ∀ signature signatureKeyId, reply = .ok (signature, signatureKeyId) →
    signatureKeyId = signer.keyId ∧
      ∀ canonicalPayload, canonicalUnsignedDecisionReceipt runtime unsigned = .ok canonicalPayload →
        signer.signs canonicalPayload signature

/-- Every reply in a run is the signer's. -/
def RepliesThroughout {ι : Type} [DecidableEq ι] (calls : ι → EmitCall) :
    EmissionState ι → List (EmissionEvent ι) → Prop
  | _, [] => True
  | state, event :: rest =>
    (∀ attempt unsigned, state.phases event.1 = .signing attempt unsigned →
      signer.Replies runtime unsigned event.2) ∧
      RepliesThroughout calls (stepEmission runtime calls state event) rest

/-- `emit` of an emitter without a repository. -/
def emitUnrecorded (call : EmitCall) (reply : UnsignedDecisionReceipt → SignerReply) :
    Except JsError SignedDecisionReceipt := do
  let tenantIdHash ← call.begin runtime
  let unsigned ← buildUnsigned runtime call.emitter call.input tenantIdHash
    (call.input.previousReceiptHash.getD none)
  sign runtime call.emitter unsigned (reply unsigned)

/-- The receipts that `emit` returns under the signer. -/
inductive Emitted : SignedDecisionReceipt → Prop where
  | unrecorded {call : EmitCall} {reply : UnsignedDecisionReceipt → SignerReply}
      {receipt : SignedDecisionReceipt} (sameAlgorithm : call.emitter.algorithm = signer.algorithm)
      (replies : ∀ unsigned, signer.Replies runtime unsigned (reply unsigned))
      (returned : emitUnrecorded runtime call reply = .ok receipt) : Emitted receipt
  /-- Any interleaving of calls, over a repository with receipts of this signer only. -/
  | recorded {ι : Type} [DecidableEq ι] {calls : ι → EmitCall} {repository : InMemoryRepository}
      {events : List (EmissionEvent ι)} {process : ι} {receipt : SignedDecisionReceipt}
      (sameAlgorithm : ∀ process, (calls process).emitter.algorithm = signer.algorithm)
      (own : ∀ stored ∈ repository.receipts.values, SignedBy runtime signer stored)
      (replies : RepliesThroughout runtime signer calls (.initial repository) events)
      (returned : (runEmissions runtime calls (.initial repository) events).phases process =
        .returned receipt) : Emitted receipt

/-! ### The invariant of a run -/

structure BuiltFor (unsigned : UnsignedDecisionReceipt) : Prop where
  algorithm : unsigned.signature_alg = signer.algorithm
  receiptId : receiptIdFromUnsignedDecisionReceipt runtime unsigned.toReceiptBody =
    .ok unsigned.receipt_id

/-- The receipt in flight is the signer's, or is being made for it. -/
def Phase.Owned : Phase → Prop
  | .lookingUp _ unsigned => BuiltFor runtime signer unsigned
  | .signing _ unsigned => BuiltFor runtime signer unsigned
  | .putting _ signed => SignedBy runtime signer signed
  | .returned receipt => SignedBy runtime signer receipt
  | _ => True

def InMemoryRepository.Owned (repository : InMemoryRepository) : Prop :=
  ∀ stored ∈ repository.receipts.values, SignedBy runtime signer stored

variable {runtime signer}

variable {emitter : DefaultDecisionReceiptEmitter} {unsigned : UnsignedDecisionReceipt}

theorem builtFor_of_buildUnsigned {input : DecisionReceiptEmissionInput} {tenantIdHash : JsString}
    {previousReceiptHash : Option JsString} (sameAlgorithm : emitter.algorithm = signer.algorithm)
    (built : buildUnsigned runtime emitter input tenantIdHash previousReceiptHash = .ok unsigned) :
    BuiltFor runtime signer unsigned := by
  rw [buildUnsigned, bind_eq_ok] at built
  rcases built with ⟨userIdHash, -, built⟩
  rw [bind_eq_ok] at built
  rcases built with ⟨sessionIdHash, -, built⟩
  rw [buildUnsignedDecisionReceipt, bind_eq_ok] at built
  rcases built with ⟨⟨⟩, -, built⟩
  rw [bind_eq_ok] at built
  rcases built with ⟨receiptId, computed, validated⟩
  rcases validateUnsignedDecisionReceipt_fields runtime validated with ⟨body, rfl⟩
  constructor
  · rw [← sameAlgorithm]
    exact congrArg ReceiptBody.signature_alg body
  · rw [body]
    exact computed

theorem signedBy_of_sign {reply : SignerReply} {receipt : SignedDecisionReceipt}
    (sameAlgorithm : emitter.algorithm = signer.algorithm)
    (built : BuiltFor runtime signer unsigned) (replies : signer.Replies runtime unsigned reply)
    (isSigned : sign runtime emitter unsigned reply = .ok receipt) :
    SignedBy runtime signer receipt := by
  rw [sign, bind_eq_ok] at isSigned
  rcases isSigned with ⟨canonicalPayload, canonical, isSigned⟩
  rw [bind_eq_ok] at isSigned
  rcases isSigned with ⟨⟨signature, signatureKeyId⟩, replied, isSigned⟩
  rcases replies signature signatureKeyId replied with ⟨rfl, signs⟩
  rw [bind_eq_ok] at isSigned
  rcases isSigned with ⟨⟨⟩, -, isSigned⟩
  rw [bind_eq_ok] at isSigned
  rcases isSigned with ⟨⟨⟩, -, isSigned⟩
  rw [decisionReceiptDigest, canonical, ok_bind, bind_eq_ok] at isSigned
  rcases isSigned with ⟨digestSha256, digested, isSigned⟩
  rw [pure_eq_ok] at digested
  subst digested
  rw [bind_eq_ok] at isSigned
  rcases isSigned with ⟨receiptSignature, encoded, validated⟩
  rcases validateSignedDecisionReceipt_fields runtime validated with ⟨unsignedPart, rfl⟩
  refine ⟨canonicalPayload, signature, ?_, ?_, ?_, signs canonicalPayload canonical, ?_⟩
  · rw [unsignedPart]
    exact built.algorithm
  · rw [unsignedPart]
    exact built.receiptId
  · rw [unsignedPart]
    exact canonical
  · rw [DecisionReceiptAsyncSigner.envelope, ← sameAlgorithm]
    exact encoded

theorem Phase.owned_iff_carries {phase : Phase} :
    phase.Owned runtime signer ↔
      phase.Carries (BuiltFor runtime signer) (SignedBy runtime signer) := by
  cases phase <;> exact Iff.rfl

theorem signsThroughout_of_replies {ι : Type} [DecidableEq ι] {calls : ι → EmitCall}
    (sameAlgorithm : ∀ process, (calls process).emitter.algorithm = signer.algorithm)
    {state : EmissionState ι} {events : List (EmissionEvent ι)}
    (replies : RepliesThroughout runtime signer calls state events) :
    SignsThroughout (BuiltFor runtime signer) (SignedBy runtime signer) runtime calls state
      events := by
  induction events generalizing state with
  | nil => exact trivial
  | cons event rest ih =>
    refine ⟨?_, ih replies.2⟩
    intro attempt unsigned signing signed built isSigned
    exact signedBy_of_sign (sameAlgorithm event.1) built (replies.1 attempt unsigned signing)
      isSigned

theorem signedBy_of_runEmissions {ι : Type} [DecidableEq ι] {calls : ι → EmitCall}
    (sameAlgorithm : ∀ process, (calls process).emitter.algorithm = signer.algorithm)
    {state : EmissionState ι} {events : List (EmissionEvent ι)}
    (owned : state.repository.Owned runtime signer)
    (phasesOwned : ∀ process, (state.phases process).Owned runtime signer)
    (replies : RepliesThroughout runtime signer calls state events) (process : ι) :
    ((runEmissions runtime calls state events).phases process).Owned runtime signer := by
  apply Phase.owned_iff_carries.mpr
  apply runEmissions_carries _ owned fun process => Phase.owned_iff_carries.mp (phasesOwned process)
  · exact signsThroughout_of_replies sameAlgorithm replies
  · intro process tenantIdHash previousReceiptHash unsigned built
    exact builtFor_of_buildUnsigned (sameAlgorithm process) built

/-- An emitted receipt is signed over its own canonical text. -/
theorem signedBy_of_emitted {receipt : SignedDecisionReceipt}
    (emitted : Emitted runtime signer receipt) : SignedBy runtime signer receipt := by
  cases emitted with
  | unrecorded sameAlgorithm replies returned =>
    rw [emitUnrecorded, bind_eq_ok] at returned
    rcases returned with ⟨tenantIdHash, -, returned⟩
    rw [bind_eq_ok] at returned
    rcases returned with ⟨unsigned, built, isSigned⟩
    exact signedBy_of_sign sameAlgorithm (builtFor_of_buildUnsigned sameAlgorithm built)
      (replies unsigned) isSigned
  | @recorded ι _ calls repository events process _ sameAlgorithm own replies returned =>
    have owned : ((runEmissions runtime calls (.initial repository) events).phases
        process).Owned runtime signer :=
      @signedBy_of_runEmissions runtime signer ι _ calls sameAlgorithm (.initial repository) events
        own (fun _ => trivial) replies process
    rw [returned] at owned
    exact owned

end Emission

/-- What `emit` returns, the verifier of the same key accepts exactly if the signing is local or
the key id is an immutable KMS key id. -/
theorem emitted_verified_iff {runtime : Signer.VerifierRuntime}
    {signer : DecisionReceiptAsyncSigner} {verifier : DecisionReceiptCanonicalVerifier}
    {receipt : SignedDecisionReceipt} (matching : verifier.Matches signer)
    (emitted : Emitted runtime.toReceiptRuntime signer receipt) :
    Verified runtime verifier receipt ↔
      signer.algorithm = .LOCAL_HMAC_SHA256_DEV_ONLY ∨
        isImmutableKmsKeyId signer.keyId = true :=
  verified_iff_of_signedBy matching (signedBy_of_emitted emitted)

namespace Sample

def verifierRuntime : Signer.VerifierRuntime where
  toReceiptRuntime := runtime
  syntaxErrorMessage := fun _ => js "Unexpected token"

/-- An HMAC of the payload. Its hex digits are a base64 text. -/
def signature (canonicalPayload : JsString) : JsString :=
  runtime.hmacSha256.hmacHex (js "signing-secret") canonicalPayload

def signer (keyId : String) (named : js keyId ≠ []) : DecisionReceiptAsyncSigner where
  keyId := js keyId
  algorithm := .KMS_SIGN_RSASSA_PSS_SHA_256
  signs := fun canonicalPayload signed => signed = signature canonicalPayload
  keyIdNonempty := named

def verifier (keyId : String) : DecisionReceiptCanonicalVerifier where
  algorithm := .KMS_SIGN_RSASSA_PSS_SHA_256
  keyId := some (js keyId)
  verifyCanonical := fun canonicalPayload signed _ _ =>
    .ok (signed == signature canonicalPayload)

theorem verifier_matches {keyId : String} (named : js keyId ≠ []) :
    (verifier keyId).Matches (signer keyId named) where
  algorithm := rfl
  keyId := rfl
  accepts := by
    intro canonicalPayload signed receipt envelope
    rw [verifier, signer, Except.ok.injEq, beq_iff_eq]

def kmsCall : EmitCall :=
  ⟨{ emitter with algorithm := .KMS_SIGN_RSASSA_PSS_SHA_256 },
    emissionInput "req-1" "2026-07-07T12:00:00Z"⟩

def kmsReply (keyId : String) (unsigned : UnsignedDecisionReceipt) : SignerReply :=
  (canonicalUnsignedDecisionReceipt runtime unsigned).map fun canonicalPayload =>
    (signature canonicalPayload, js keyId)

theorem evaluated_my_key : (emitUnrecorded runtime kmsCall (kmsReply "my-key")).toBool = true := by
  unfold kmsReply
  rw [runtime_eq]
  decide +kernel

/-- A call that evaluates to a receipt has emitted it. -/
theorem emitted_of_evaluated {keyId : String} (named : js keyId ≠ [])
    (evaluated : (emitUnrecorded runtime kmsCall (kmsReply keyId)).toBool = true) :
    ∃ receipt, Emitted runtime (signer keyId named) receipt := by
  rcases exists_eq_ok evaluated with ⟨receipt, returned⟩
  refine ⟨receipt, .unrecorded rfl ?_ returned⟩
  intro unsigned signed signatureKeyId replied
  rw [kmsReply] at replied
  cases canonical : canonicalUnsignedDecisionReceipt runtime unsigned with
  | error error =>
    rw [canonical] at replied
    cases replied
  | ok canonicalPayload =>
    rw [canonical] at replied
    cases replied
    refine ⟨rfl, ?_⟩
    intro payload same
    cases same
    rfl

end Sample

/-- A key named by its UUID. -/
theorem emitted_verified_key_uuid :
    ∃ receipt, Emitted Sample.runtime
        (Sample.signer "00000000-0000-0000-0000-00000000000a" (by decide)) receipt ∧
      Verified Sample.verifierRuntime
        (Sample.verifier "00000000-0000-0000-0000-00000000000a") receipt := by
  have named : js "00000000-0000-0000-0000-00000000000a" ≠ [] := by decide
  have evaluated : (emitUnrecorded Sample.runtime Sample.kmsCall
      (Sample.kmsReply "00000000-0000-0000-0000-00000000000a")).toBool = true := by
    unfold Sample.kmsReply
    rw [Sample.runtime_eq]
    decide +kernel
  rcases Sample.emitted_of_evaluated named evaluated with ⟨receipt, emitted⟩
  have accepted : Verified Sample.verifierRuntime _ receipt ↔ _ :=
    emitted_verified_iff (Sample.verifier_matches named) emitted
  have immutable : isImmutableKmsKeyId (js "00000000-0000-0000-0000-00000000000a") = true := by
    decide +kernel
  exact ⟨receipt, emitted, accepted.mpr (.inr immutable)⟩

/-- A KMS signer with another key id is admitted, and its receipts are refused. -/
theorem emitted_not_verified :
    ∃ receipt, Emitted Sample.runtime (Sample.signer "my-key" (by decide)) receipt ∧
      (Sample.verifier "my-key").Matches (Sample.signer "my-key" (by decide)) ∧
      ¬ Verified Sample.verifierRuntime (Sample.verifier "my-key") receipt := by
  have named : js "my-key" ≠ [] := by decide
  rcases Sample.emitted_of_evaluated named Sample.evaluated_my_key with ⟨receipt, emitted⟩
  have accepted : Verified Sample.verifierRuntime _ receipt ↔ _ :=
    verified_iff_of_signedBy (Sample.verifier_matches named) (signedBy_of_emitted emitted)
  refine ⟨receipt, emitted, Sample.verifier_matches named, ?_⟩
  intro verified
  rcases accepted.mp verified with isLocal | immutable
  · cases isLocal
  · have mutable : isImmutableKmsKeyId (js "my-key") = false := by decide +kernel
    rw [Sample.signer, mutable] at immutable
    cases immutable

end GhostArk.EnforcementRuntime.Receipts
