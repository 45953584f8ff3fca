import GhostArk.Js.ByteOrderMark
import GhostArk.Verifiers.NodeDecisionContract

/-!
Contract: the standalone verifier against the library under local signing.

Owns what a PASS report says, the envelopes that both programs decode, and when
the library accepts what the standalone verifier passes: its vocabulary of
decisions, its format of timestamps, and its reading of a byte order mark differ.
-/

namespace GhostArk.Verifiers.NodeDecision

open Js ReceiptSchema EnforcementRuntime.Policy
open EnforcementRuntime.Receipts
open EnforcementRuntime.Receipts.V2 (isText isText_iff)
open EnforcementRuntime.Receipts.Signer (LocalDevHmacReceiptSigner EnvelopeShape
  DecisionReceiptSignatureEnvelope)

/-! ### Envelopes -/

theorem decodeStrictBase64_eq_ok_iff {text : JsString} {bytes : List Nat} :
    decodeStrictBase64 text = .ok bytes ↔
      Signer.assertStandardBase64Signature text = .ok () ∧
        Signer.base64 (Signer.base64Bytes text) = text ∧ Signer.base64Bytes text = bytes := by
  rw [decodeStrictBase64, check_eq_ok, check_eq_ok, pure_eq_ok]
  have sameLength (canonical : Signer.base64 (Signer.base64Bytes text) = text) :
      Signer.base64DecodedLength text = (Signer.base64Bytes text).length := by
    have lengthEq := Signer.base64DecodedLength_base64 (Signer.base64Bytes_byte text)
    rw [canonical] at lengthEq
    exact lengthEq
  constructor
  · rintro ⟨shaped, decoded, same⟩
    rw [not_or, Bool.not_eq_true', Bool.not_eq_false] at shaped
    rw [not_or, not_not] at decoded
    refine ⟨?_, decoded.2, same⟩
    rw [Signer.assertStandardBase64Signature, if_neg shaped.1, shaped.2, if_neg (by decide),
      sameLength decoded.2, if_neg decoded.1]
  · rintro ⟨asserted, canonical, same⟩
    rw [Signer.assertStandardBase64Signature] at asserted
    split at asserted
    next => cases asserted
    next nonempty =>
      split at asserted
      next => cases asserted
      next shaped =>
        split at asserted
        next => cases asserted
        next decoded =>
          rw [sameLength canonical] at decoded
          exact ⟨not_or.mpr ⟨nonempty, shaped⟩, not_or.mpr ⟨decoded, not_not.mpr canonical⟩, same⟩

variable {envelope : DecisionReceiptSignatureEnvelope}

variable {members : Members}

theorem readEnvelope_eq_ok_iff :
    readEnvelope members = .ok envelope ↔
      EnvelopeShape members envelope ∧
        Signer.base64 (Signer.base64Bytes envelope.signature) = envelope.signature := by
  constructor
  · intro read
    rw [readEnvelope, check_eq_ok, check_eq_ok] at read
    rcases read with ⟨keys, version, read⟩
    split at read
    next algorithm isAlgorithm =>
      split at read
      next keyId isKeyId =>
        split at read
        next digestSha256 isDigest =>
          split at read
          next signature isSignature =>
            rw [bind_eq_ok] at read
            rcases read with ⟨bytes, decoded, read⟩
            rw [pure_eq_ok] at read
            subst read
            rcases Option.filter_eq_some_iff.mp isKeyId with ⟨isKeyText, nonempty⟩
            rcases Option.filter_eq_some_iff.mp isDigest with ⟨isDigestText, digestShape⟩
            rcases decodeStrictBase64_eq_ok_iff.mp decoded with ⟨asserted, canonical, -⟩
            refine ⟨?_, canonical⟩
            exact {
              keys := not_not.mp keys
              version := readString_eq_some_iff.mp (not_not.mp version)
              algorithm := eq_string_of_readEnum isAlgorithm
              keyId := readString_eq_some_iff.mp isKeyText
              keyIdNonempty := bne_iff_ne.mp nonempty
              digestSha256 := readString_eq_some_iff.mp isDigestText
              digestShape := digestShape
              signature := readString_eq_some_iff.mp isSignature
              signatureShape := asserted }
          next => cases read
        next => cases read
      next => cases read
    next => cases read
  · rintro ⟨shape, canonical⟩
    have keys : ¬ sortStrings (members.map Prod.fst) ≠ ENVELOPE_FIELDS := not_not.mpr shape.keys
    have version : ¬ readString (.string Signer.signatureEnvelopeSchemaVersion) ≠
        some ENVELOPE_SCHEMA_VERSION := not_not.mpr rfl
    have named : (envelope.keyId != []) = true := bne_iff_ne.mpr shape.keyIdNonempty
    have decoded : decodeStrictBase64 envelope.signature =
        .ok (Signer.base64Bytes envelope.signature) :=
      decodeStrictBase64_eq_ok_iff.mpr ⟨shape.signatureShape, canonical, rfl⟩
    rw [readEnvelope, shape.version, if_neg keys, if_neg version, shape.algorithm, shape.keyId,
      shape.digestSha256, shape.signature, readEnum_signatureAlgorithm]
    simp only [EnforcementRuntime.Receipts.readString, Option.filter_some, if_pos named,
      if_pos shape.digestShape]
    rw [decoded]
    rfl

/-- What decoding an envelope has checked. -/
structure DecodesTo (numbers : NumberText) (encoded : JsString) (members : Members)
    (envelope : DecisionReceiptSignatureEnvelope) : Prop where
  urlText : Signer.isBase64UrlText encoded = true
  aligned : encoded.length % 4 ≠ 1
  canonicalBytes : Signer.base64Url (Signer.base64Bytes encoded) = encoded
  text : ∃ decoded, decodeUtf8Fatal (Signer.base64Bytes encoded) = some decoded ∧
    parse numbers decoded = some (.object members) ∧
    canonicalize numbers (.object members) = .ok decoded
  shape : EnvelopeShape members envelope
  canonicalSignature : Signer.base64 (Signer.base64Bytes envelope.signature) = envelope.signature

theorem eq_object_of_recordEntries {value : JsValue} (isRecord : recordEntries value = some members)
    (nonempty : members ≠ []) : value = .object members := by
  cases value with
  | object entries => exact congrArg JsValue.object (Option.some.inj isRecord)
  | host kind =>
    have bare : objectMembers (.host kind) = none ∨ objectMembers (.host kind) = some [] := by
      cases kind <;> simp [objectMembers]
    rw [recordEntries] at isRecord
    rcases bare with none | empty
    · rw [none] at isRecord
      cases isRecord
    · rw [empty] at isRecord
      exact absurd (Option.some.inj isRecord).symm nonempty
    · simp
  | _ => cases isRecord

variable {encoded : JsString}

theorem decodeDecisionEnvelope_eq_ok_iff {numbers : NumberText} :
    decodeDecisionEnvelope numbers encoded = .ok envelope ↔
      ∃ members, DecodesTo numbers encoded members envelope := by
  constructor
  · intro decodes
    rw [decodeDecisionEnvelope, check_eq_ok, check_eq_ok] at decodes
    rcases decodes with ⟨urlText, canonicalBytes, decodes⟩
    rw [not_or, Bool.not_eq_true', Bool.not_eq_false] at urlText
    split at decodes
    next decoded isDecoded =>
      split at decodes
      next parsed isParsed =>
        split at decodes
        next members isRecord =>
          rw [bind_eq_ok] at decodes
          rcases decodes with ⟨read, isRead, decodes⟩
          rw [bind_eq_ok] at decodes
          rcases decodes with ⟨text, rendered, decodes⟩
          rcases check_eq_ok.mp decodes with ⟨canonical, decodes⟩
          rw [pure_eq_ok] at decodes
          subst decodes
          rw [not_not] at canonical
          subst canonical
          rcases readEnvelope_eq_ok_iff.mp isRead with ⟨shape, canonicalSignature⟩
          have nonempty : members ≠ [] := by
            rintro rfl
            have keys := shape.keys
            cases keys
          obtain rfl := eq_object_of_recordEntries isRecord nonempty
          exact ⟨members, urlText.1, urlText.2, not_not.mp canonicalBytes,
            ⟨_, isDecoded, isParsed, rendered⟩, shape, canonicalSignature⟩
        next => cases decodes
      next => cases decodes
    next => cases decodes
  · rintro ⟨members, decodesTo⟩
    rcases decodesTo.text with ⟨decoded, isDecoded, isParsed, rendered⟩
    have urlText : ¬ ((!Signer.isBase64UrlText encoded) = true ∨ encoded.length % 4 = 1) := by
      rw [not_or, Bool.not_eq_true', Bool.not_eq_false]
      exact ⟨decodesTo.urlText, decodesTo.aligned⟩
    rw [decodeDecisionEnvelope, if_neg urlText, if_neg (not_not.mpr decodesTo.canonicalBytes),
      isDecoded]
    dsimp only
    rw [isParsed]
    simp only [recordEntries, objectMembers]
    rw [readEnvelope_eq_ok_iff.mpr ⟨decodesTo.shape, decodesTo.canonicalSignature⟩, ok_bind,
      rendered, ok_bind, if_neg (not_not.mpr rfl)]
    rfl

theorem library_decodes {runtime : NodeRuntime}
    (decodesTo : DecodesTo runtime.numbers encoded members envelope)
    (unmarked : byteOrderMark.isPrefixOf (Signer.base64Bytes encoded) = false) :
    Signer.envelopeJson runtime.toVerifierRuntime encoded = some (.object members) ∧
      Signer.decodeDecisionReceiptSignatureEnvelope runtime.toVerifierRuntime encoded =
        .ok envelope := by
  rcases decodesTo.text with ⟨decoded, isDecoded, isParsed, -⟩
  have parsed : Signer.envelopeJson runtime.toVerifierRuntime encoded = some (.object members) := by
    rw [Signer.envelopeJson, decodeUtf8_of_fatal isDecoded, unmarked]
    exact isParsed
  refine ⟨parsed, ?_⟩
  have nonempty : ¬ encoded.length = 0 := by
    intro empty
    have urlText := decodesTo.urlText
    rw [List.length_eq_zero_iff.mp empty] at urlText
    cases urlText
  have asserted : Signer.assertBase64urlEnvelope encoded = .ok () := by
    rw [Signer.assertBase64urlEnvelope, if_neg nonempty, decodesTo.urlText]
    rfl
  rw [Signer.decodeDecisionReceiptSignatureEnvelope, asserted, ok_bind, parsed]
  exact Signer.assertUntypedEnvelopeShape_eq_ok_iff.mpr decodesTo.shape

theorem library_refuses_mark {runtime : NodeRuntime}
    (decodesTo : DecodesTo runtime.numbers encoded members envelope)
    (marked : byteOrderMark.isPrefixOf (Signer.base64Bytes encoded) = true) :
    Signer.envelopeJson runtime.toVerifierRuntime encoded = none := by
  rcases decodesTo.text with ⟨decoded, isDecoded, -, -⟩
  rw [Signer.envelopeJson, decodeUtf8_of_fatal isDecoded, if_pos marked]
  exact parse_byteOrderMark _ _

/-! ### Passing -/

/-- The options `{ expectedKeyId, hmacSecret }` of a local signer. -/
def localOptions (signer : LocalDevHmacReceiptSigner) : VerificationOptions :=
  ⟨some signer.keyId, some signer.secret, none, none, none, none, none⟩

/-- What the checks of a passed receipt have compared. -/
structure Passes (runtime : NodeRuntime) (signer : LocalDevHmacReceiptSigner) (filled : Members)
    (canonicalPayload canonicalIdentity : JsString) (envelope : DecisionReceiptSignatureEnvelope) :
    Prop where
  texts : canonicalTexts runtime filled = .ok (canonicalPayload, canonicalIdentity)
  receiptId : js "grct_" ++ runtime.sha256.sha256Hex canonicalIdentity =
    fieldText filled .receipt_id
  decoded : decodeDecisionEnvelope runtime.numbers (fieldText filled .receipt_signature) =
    .ok envelope
  declared : fieldText filled .signature_alg = HMAC_ALGORITHM
  algorithm : envelope.algorithm = .LOCAL_HMAC_SHA256_DEV_ONLY
  keyId : envelope.keyId = signer.keyId
  digest : envelope.digestSha256 = runtime.sha256.sha256Hex canonicalPayload
  signature : Signer.base64Bytes envelope.signature =
    signer.digest runtime.hmacSha256 canonicalPayload

section Passing

variable {runtime : NodeRuntime} {signer : LocalDevHmacReceiptSigner}

private theorem truthy_some {text : JsString} (nonempty : text ≠ []) :
    truthy (some text) = some text := by
  rw [truthy, Option.filter_some, if_pos (bne_iff_ne.mpr nonempty)]

theorem signatureCheck_passed_iff {checks : List NodeV2.Check}
    {signature_alg canonicalPayload digestSha256 signature pssMode : JsString} :
    (signatureCheck runtime checks signature_alg canonicalPayload digestSha256 signature
      (localOptions signer) pssMode).passed = true ↔
      checks.all (·.passed) = true ∧ signature_alg = HMAC_ALGORITHM ∧
        decodeStrictBase64 signature = .ok (signer.digest runtime.hmacSha256 canonicalPayload) := by
  unfold signatureCheck
  cases allPassed : checks.all (·.passed) with
  | false => simp [check]
  | true =>
    by_cases isHmac : signature_alg = HMAC_ALGORITHM
    swap
    · rw [if_neg (by decide), if_neg isHmac]
      refine iff_of_false (fun passed => ?_) fun facts => isHmac facts.2.1
      cases passed
    rw [if_neg (by decide), if_pos isHmac, localOptions, truthy_some signer.secretNonempty]
    simp only [hmacCheck, check, isHmac, true_and, beq_iff_eq]
    cases decodeStrictBase64 signature with
    | error error => simp [Except.toOption]
    | ok bytes => simp [Except.toOption, LocalDevHmacReceiptSigner.digest]

private theorem keyIdCheck_passed_iff {keyId : JsString} :
    (keyIdCheck HMAC_ALGORITHM keyId (some signer.keyId)).passed = true ↔ keyId = signer.keyId := by
  have notKms : ¬ HMAC_ALGORITHM = KMS_ALGORITHM := by decide
  rw [keyIdCheck, if_neg notKms, truthy_some signer.keyIdNonempty, Option.filter_some]
  by_cases same : keyId = signer.keyId
  · subst same
    have matched : ¬ (signer.keyId != signer.keyId) = true := by simp
    rw [if_neg matched]
    exact iff_of_true (decide_eq_true (List.length_pos_iff.mpr signer.keyIdNonempty)) rfl
  · rw [if_pos (bne_iff_ne.mpr same)]
    exact iff_of_false (fun passed => by cases passed) same

private theorem envelopeCheck_passed_iff {algorithm signature_alg : JsString} :
    (envelopeCheck algorithm signature_alg).passed = true ↔ algorithm = signature_alg := by
  unfold envelopeCheck
  split
  next differs => exact iff_of_false (fun passed => by cases passed) differs
  next same => exact iff_of_true rfl (not_not.mp same)

theorem receiptChecks_passed_iff {filled : Members}
    {canonicalPayload receiptId digestSha256 pssMode : JsString} :
    (receiptChecks runtime filled canonicalPayload receiptId digestSha256 (localOptions signer)
      pssMode).all (·.passed) = true ↔
      ∃ envelope, receiptId = fieldText filled .receipt_id ∧
        decodeDecisionEnvelope runtime.numbers (fieldText filled .receipt_signature) =
          .ok envelope ∧
        fieldText filled .signature_alg = HMAC_ALGORITHM ∧
        envelope.algorithm = .LOCAL_HMAC_SHA256_DEV_ONLY ∧ envelope.keyId = signer.keyId ∧
        envelope.digestSha256 = digestSha256 ∧
        Signer.base64Bytes envelope.signature =
          signer.digest runtime.hmacSha256 canonicalPayload := by
  have algorithmText (algorithm : SignatureAlgorithm) :
      algorithm.text = HMAC_ALGORITHM ↔ algorithm = .LOCAL_HMAC_SHA256_DEV_ONLY := by
    cases algorithm <;> decide
  unfold receiptChecks
  cases decoded : decodeDecisionEnvelope runtime.numbers (fieldText filled .receipt_signature) with
  | error error => simp [check]
  | ok envelope =>
    have decodesStrictly : ∀ bytes, decodeStrictBase64 envelope.signature = .ok bytes ↔
        Signer.base64Bytes envelope.signature = bytes := by
      rcases decodeDecisionEnvelope_eq_ok_iff.mp decoded with ⟨members, decodesTo⟩
      intro bytes
      rw [decodeStrictBase64_eq_ok_iff, and_iff_right decodesTo.shape.signatureShape,
        and_iff_right decodesTo.canonicalSignature]
    have noTenant (observed : JsString) :
        tenantExpectationCheck runtime observed (localOptions signer) = [] := rfl
    simp only [noTenant, List.append_nil, List.all_append, List.all_cons, List.all_nil,
      Bool.and_true, Bool.and_eq_true, signatureCheck_passed_iff, envelopeCheck_passed_iff,
      decodesStrictly, Except.ok.injEq, exists_and_left, exists_eq_left', receiptIdCheck,
      digestCheck, check, beq_iff_eq, true_and]
    constructor
    · rintro ⟨⟨receiptId, algorithm, keyId, digest⟩, -, declared, signature⟩
      rw [declared] at algorithm keyId
      exact ⟨receiptId, declared, (algorithmText _).mp algorithm, keyIdCheck_passed_iff.mp keyId,
        digest, signature⟩
    · rintro ⟨receiptId, declared, algorithm, keyId, digest, signature⟩
      rw [declared]
      have opening := And.intro receiptId (And.intro ((algorithmText _).mpr algorithm)
        (And.intro (keyIdCheck_passed_iff.mpr keyId) digest))
      exact ⟨opening, opening, rfl, signature⟩

private theorem receiptChecks_nonempty {filled : Members}
    {canonicalPayload receiptId digestSha256 pssMode : JsString} {options : VerificationOptions} :
    (receiptChecks runtime filled canonicalPayload receiptId digestSha256 options
      pssMode).length > 0 := by
  unfold receiptChecks
  split <;> exact Nat.succ_pos _

/-- What a passing verdict has checked. -/
theorem verdict_eq_pass_iff {value : JsValue} :
    (verifyDecisionReceipt runtime value (localOptions signer)).verdict = .PASS ↔
      ∃ filled canonicalPayload canonicalIdentity envelope,
        validateDecisionReceipt runtime.numbers runtime.dates value = .ok filled ∧
          Passes runtime signer filled canonicalPayload canonicalIdentity envelope := by
  have supported : ¬ (!PSS_MODES.contains ((localOptions signer).pssMode.getD PSS_MODE_MESSAGE)) =
      true := by
    have isMode : (!PSS_MODES.contains PSS_MODE_MESSAGE) = false := by decide
    exact Bool.eq_false_iff.mp isMode
  have failing {checks : List NodeV2.Check} {limitations : List JsString} {pssMode : JsString}
      {recomputed : Option Recomputed} (failed : ¬ checks.all (·.passed) = true) :
      (buildReport checks limitations pssMode recomputed).verdict ≠ .PASS := by
    rw [buildReport]
    dsimp only
    rw [if_neg (fun both => failed both.2)]
    exact Verdict.noConfusion
  unfold verifyDecisionReceipt
  rw [if_neg supported]
  cases validated : validateDecisionReceipt runtime.numbers runtime.dates value with
  | error error =>
    apply iff_of_false (failing (by simp [check]))
    rintro ⟨filled, _, _, _, same, -⟩
    cases same
  | ok filled =>
    dsimp only
    cases texts : canonicalTexts runtime filled with
    | error error =>
      apply iff_of_false (failing (by simp [check]))
      rintro ⟨found, _, _, _, same, passes⟩
      obtain rfl := Except.ok.inj same
      rw [passes.texts] at texts
      cases texts
    | ok both =>
      rcases both with ⟨canonicalPayload, canonicalIdentity⟩
      dsimp only
      by_cases passed : (receiptChecks runtime filled canonicalPayload
          (js "grct_" ++ runtime.sha256.sha256Hex canonicalIdentity)
          (runtime.sha256.sha256Hex canonicalPayload) (localOptions signer)
          ((localOptions signer).pssMode.getD PSS_MODE_MESSAGE)).all (·.passed) = true
      · rcases receiptChecks_passed_iff.mp passed with ⟨envelope, receiptId, decoded, declared,
          algorithm, keyId, digest, signature⟩
        apply iff_of_true
        · rw [buildReport]
          dsimp only
          exact if_pos ⟨receiptChecks_nonempty, passed⟩
        · exact ⟨filled, canonicalPayload, canonicalIdentity, envelope, rfl, texts, receiptId,
            decoded, declared, algorithm, keyId, digest, signature⟩
      · apply iff_of_false (failing passed)
        rintro ⟨found, payload, identity, envelope, same, passes⟩
        obtain rfl := Except.ok.inj same
        have sameTexts := passes.texts
        rw [texts, Except.ok.injEq, Prod.mk.injEq] at sameTexts
        rcases sameTexts with ⟨rfl, rfl⟩
        exact passed (receiptChecks_passed_iff.mpr ⟨envelope, passes.receiptId, passes.decoded,
          passes.declared, passes.algorithm, passes.keyId, passes.digest, passes.signature⟩)

end Passing

/-! ### Refinement -/

def libraryVerifier (signer : LocalDevHmacReceiptSigner) (hmacSha256 : HmacSha256) :
    DecisionReceiptCanonicalVerifier where
  algorithm := .LOCAL_HMAC_SHA256_DEV_ONLY
  keyId := some signer.keyId
  verifyCanonical := fun canonicalPayload signature _ _ =>
    signer.verifyCanonical hmacSha256 canonicalPayload signature

/-- The library returns the verdict true on the value. -/
def LibraryAccepts (runtime : Signer.VerifierRuntime) (verifier : DecisionReceiptCanonicalVerifier)
    (value : JsValue) : Prop :=
  ∃ result, EnforcementRuntime.Receipts.verifyDecisionReceipt runtime verifier value =
    .ok result ∧ result.verdict = true

/-- The decisions are of the library's vocabulary, the timestamp is in its format, and the envelope
does not start with a byte order mark. -/
def isInLibraryTerms (value : JsValue) : Bool :=
  (recordEntries value).any fun members =>
    isDecisionKind (readEntry members .decision_pre) &&
      isDecisionKind (readEntry members .decision_post) &&
      isText isDatetime (readEntry members .timestamp) &&
      isText (fun encoded => !byteOrderMark.isPrefixOf (Signer.base64Bytes encoded))
        (readEntry members .receipt_signature)

section Refinement

variable {runtime : NodeRuntime} {signer : LocalDevHmacReceiptSigner}

variable {members : Members}

theorem library_validates_iff (admitted : Admitted runtime.dates members)
    (distinct : (members.map Prod.fst).Nodup) {receipt : SignedDecisionReceipt} :
    validateSignedDecisionReceipt runtime.toReceiptRuntime (.object members) = .ok receipt ↔
      readSigned (readEntry (fillDefaults members)) = some receipt := by
  have known : (members.all fun entry =>
      (ReceiptField.signed.map ReceiptField.text).contains entry.1) = true := by
    rw [List.all_eq_true]
    intro entry member
    rcases admitted.known entry member with ⟨field, isField⟩
    rw [List.contains_iff_mem, isField]
    exact List.mem_map_of_mem field.mem_signed
  rw [validateSignedDecisionReceipt, readStrict, if_pos known,
    readSigned_fillDefaults distinct admitted.present]
  cases readSigned (readEntry (fillDefaults members)) with
  | none => simp
  | some found => simp

theorem libraryAccepts_of_passes (admitted : Admitted runtime.dates members)
    (distinct : (members.map Prod.fst).Nodup) {receipt : SignedDecisionReceipt}
    (agrees : ∀ field, readEntry (fillDefaults members) field = receipt.value field)
    (finite : receipt.cost_estimate_usd.isFinite = true)
    {canonicalPayload canonicalIdentity : JsString} {envelope : DecisionReceiptSignatureEnvelope}
    (passes : Passes runtime signer (fillDefaults members) canonicalPayload canonicalIdentity
      envelope)
    (unmarked : byteOrderMark.isPrefixOf (Signer.base64Bytes receipt.receipt_signature) = false) :
    LibraryAccepts runtime.toVerifierRuntime (libraryVerifier signer runtime.hmacSha256)
      (.object members) := by
  have fieldTexts : ∀ {field text}, receipt.value field = .string text →
      fieldText (fillDefaults members) field = text := by
    intro field text isText
    rw [fieldText, agrees, isText]
    rfl
  have read : readSigned (readEntry (fillDefaults members)) = some receipt :=
    readSigned_of_agrees agrees
  have texts := passes.texts
  rw [canonicalTexts_eq finite (admitted.perm_signed distinct agrees), bind_eq_ok] at texts
  rcases texts with ⟨payload, canonical, texts⟩
  rw [bind_eq_ok] at texts
  rcases texts with ⟨identity, identified, same⟩
  rw [pure_eq_ok, Prod.mk.injEq] at same
  rcases same with ⟨rfl, rfl⟩
  have isReceiptId : receiptIdFromUnsignedDecisionReceipt runtime.toReceiptRuntime
      receipt.toReceiptBody = .ok receipt.receipt_id := by
    rw [receiptIdFromUnsignedDecisionReceipt, canonicalSha256Hex, identified,
      ← @fieldTexts .receipt_id _ rfl, ← passes.receiptId]
    rfl
  have decoded := passes.decoded
  rw [@fieldTexts .receipt_signature _ rfl] at decoded
  rcases decodeDecisionEnvelope_eq_ok_iff.mp decoded with ⟨envelopeMembers, decodesTo⟩
  rcases library_decodes decodesTo unmarked with ⟨parsed, libraryDecoded⟩
  have isLocal : receipt.signature_alg = .LOCAL_HMAC_SHA256_DEV_ONLY := by
    have declared := passes.declared
    rw [@fieldTexts .signature_alg _ rfl] at declared
    revert declared
    cases receipt.signature_alg <;> decide
  have verified : signer.verifyCanonical runtime.hmacSha256 payload envelope.signature =
      .ok true :=
    (LocalDevHmacReceiptSigner.verifyCanonical_eq_true_iff (canonicalUnsigned_ne_nil canonical)).mpr
      ⟨decodesTo.shape.signatureShape, passes.signature⟩
  have validated := (library_validates_iff admitted distinct).mpr read
  refine (verdict_iff_of_decoded isReceiptId canonical parsed libraryDecoded decodesTo.shape
    validated).mpr ⟨rfl, isLocal, ?_, ?_, passes.digest, verified⟩
  · rw [passes.algorithm, isLocal]
  · have named : (envelope.keyId != []) = true :=
      bne_iff_ne.mpr decodesTo.shape.keyIdNonempty
    rw [isLocal, keyIdPassed, if_neg (by decide), named, libraryVerifier, ← passes.keyId,
      Option.filter_some, if_pos named]
    simp

theorem exists_admitted_of_pass {value : JsValue}
    (pass : (verifyDecisionReceipt runtime value (localOptions signer)).verdict = .PASS) :
    ∃ members canonicalPayload canonicalIdentity envelope, value = .object members ∧
      Admitted runtime.dates members ∧
        Passes runtime signer (fillDefaults members) canonicalPayload canonicalIdentity
          envelope := by
  rcases verdict_eq_pass_iff.mp pass with ⟨filled, canonicalPayload, canonicalIdentity, envelope,
    validated, passes⟩
  rcases validateDecisionReceipt_eq_ok_iff.mp validated with ⟨members, isRecord, admitted, rfl⟩
  have nonempty : members ≠ [] := by
    rintro rfl
    have version := admitted.version
    cases version
  exact ⟨members, canonicalPayload, canonicalIdentity, envelope,
    eq_object_of_recordEntries isRecord nonempty, admitted, passes⟩

theorem isInLibraryTerms_iff (admitted : Admitted runtime.dates members)
    (distinct : (members.map Prod.fst).Nodup) :
    isInLibraryTerms (.object members) = true ↔
      isDecisionKind (readEntry (fillDefaults members) .decision_pre) = true ∧
      isDecisionKind (readEntry (fillDefaults members) .decision_post) = true ∧
      isText isDatetime (readEntry (fillDefaults members) .timestamp) = true ∧
      isText (fun encoded => !byteOrderMark.isPrefixOf (Signer.base64Bytes encoded))
        (readEntry (fillDefaults members) .receipt_signature) = true := by
  have required (field : ReceiptField)
      (isRequired : field ∈ DECISION_REQUIRED_FIELDS ++ [ReceiptField.receipt_signature]) :
      readEntry (fillDefaults members) field = readEntry members field :=
    readEntry_fillDefaults_of_hasOwnField distinct (admitted.present field isRequired)
  rw [required .decision_pre (by decide), required .decision_post (by decide),
    required .timestamp (by decide), required .receipt_signature (by decide), isInLibraryTerms]
  simp only [recordEntries, objectMembers, Option.any_some, Bool.and_eq_true, and_assoc]

theorem isInLibraryTerms_of_libraryAccepts {value : JsValue} (shaped : value.isJson = true)
    (pass : (verifyDecisionReceipt runtime value (localOptions signer)).verdict = .PASS)
    (accepts : LibraryAccepts runtime.toVerifierRuntime
      (libraryVerifier signer runtime.hmacSha256) value) : isInLibraryTerms value = true := by
  rcases exists_admitted_of_pass pass with ⟨members, _, _, _, rfl, admitted, passes⟩
  have distinct := (isJson_object_iff.mp shaped).2
  rcases accepts with ⟨result, returned, verdict⟩
  rcases decoded_of_verdict returned verdict with ⟨receipt, found, validated, decoded⟩
  have isRead :=
    signedRead_of_readSigned ((library_validates_iff admitted distinct).mp validated)
  have signature := readString_eq_some_iff.mp isRead.receipt_signature
  rw [isInLibraryTerms_iff admitted distinct]
  refine ⟨?_, ?_, ?_, ?_⟩
  · exact isDecisionKind_iff.mpr ⟨_, eq_string_of_readEnum isRead.body.decision_pre⟩
  · exact isDecisionKind_iff.mpr ⟨_, eq_string_of_readEnum isRead.body.decision_post⟩
  · have valid := receipt.validBody
    simp only [ReceiptBody.isValid, Bool.and_eq_true] at valid
    apply isText_iff.mpr
    exact ⟨_, readString_eq_some_iff.mp isRead.body.timestamp, by tauto⟩
  · apply isText_iff.mpr
    refine ⟨_, signature, ?_⟩
    rw [Bool.not_eq_true']
    by_contra marked
    rw [Bool.not_eq_false] at marked
    have nodeDecoded := passes.decoded
    rw [fieldText, signature] at nodeDecoded
    rcases decodeDecisionEnvelope_eq_ok_iff.mp nodeDecoded with ⟨_, decodesTo⟩
    have unparsed : Signer.envelopeJson runtime.toVerifierRuntime receipt.receipt_signature =
        none := library_refuses_mark decodesTo marked
    rw [Signer.decodeDecisionReceiptSignatureEnvelope, bind_eq_ok] at decoded
    rcases decoded with ⟨⟨⟩, -, decoded⟩
    rw [unparsed] at decoded
    cases decoded

/-- Where the standalone verifier passes a JSON value, the library accepts it exactly if the value
is in the library's terms. -/
theorem libraryAccepts_iff_of_pass {value : JsValue} (shaped : value.isJson = true)
    (pass : (verifyDecisionReceipt runtime value (localOptions signer)).verdict = .PASS) :
    LibraryAccepts runtime.toVerifierRuntime (libraryVerifier signer runtime.hmacSha256) value ↔
      isInLibraryTerms value = true := by
  refine ⟨isInLibraryTerms_of_libraryAccepts shaped pass, ?_⟩
  intro terms
  rcases exists_admitted_of_pass pass with ⟨members, _, _, _, rfl, admitted, passes⟩
  have distinct := (isJson_object_iff.mp shaped).2
  rcases (isInLibraryTerms_iff admitted distinct).mp terms with ⟨pre, post, timestamp, unmarked⟩
  have version := readEntry_fillDefaults_of_hasOwnField distinct
    (admitted.present .schema_version (by decide))
  rcases exists_receipt admitted.contract (admitted.isJson_readEntry shaped)
    (version.trans admitted.version) pre post timestamp with ⟨receipt, agrees, finite⟩
  apply libraryAccepts_of_passes admitted distinct agrees finite passes
  rw [agrees .receipt_signature] at unmarked
  simpa [isText, EnforcementRuntime.Receipts.readString, SignedDecisionReceipt.value]
    using unmarked

end Refinement

namespace Sample

def runtime : NodeRuntime where
  toReceiptRuntime := EnforcementRuntime.Receipts.Sample.runtime
  syntaxErrorMessage := fun _ => js "Unexpected token"
  verifyRsaPssDigest := fun _ _ _ _ => .ok false

def evaluationRuntime : NodeRuntime :=
  { runtime with toReceiptRuntime := EnforcementRuntime.Receipts.Sample.evaluationRuntime }

theorem runtime_eq : runtime = evaluationRuntime := by
  rw [evaluationRuntime, ← EnforcementRuntime.Receipts.Sample.runtime_eq]
  rfl

def signer : LocalDevHmacReceiptSigner where
  keyId := js "local-dev-hmac"
  secret := js "verifier-secret"
  keyIdNonempty := by decide
  secretNonempty := by decide

def digest (digit : Char) : JsValue := .string (js "sha256:" ++ .replicate 64 (unit digit))

def identityMembers (decision : String) : Members :=
  [(js "schema_version", .string DECISION_SCHEMA_VERSION), (js "request_id", .string (js "req-1")),
    (js "tenant_id_hash", digest 'a'), (js "user_id_hash", digest 'b'),
    (js "session_id_hash", digest 'c'), (js "timestamp", .string (js "2026-07-07T12:00:00Z")),
    (js "model_id", .string (js "model")), (js "policy_version", .string (js "v1")),
    (js "policy_hash", .string (.replicate 64 (unit 'd'))), (js "input_digest", digest 'e'),
    (js "execution_context_hash", digest 'f'), (js "execution_nonce", .string (js "nonce-0001")),
    (js "decision_pre", .string (js decision)), (js "decision_post", .string (js decision)),
    (js "risk_score", .number (.ofNat 0)), (js "consent_state", .string (js "granted")),
    (js "memory_written", .bool false), (js "latency_ms", .number (.ofNat 12)),
    (js "cost_estimate_usd", .number (.ofNat 0)), (js "signature_alg", .string HMAC_ALGORITHM),
    (js "retrieved_context_digests", .array []), (js "action_taken", .array []),
    (js "prev_receipt_hash", .null)]

def sign (members : Members) : Except JsError JsValue := do
  let identityText ← canonicalize runtime.numbers (.object members)
  let receiptId := js "grct_" ++ runtime.sha256.sha256Hex identityText
  let unsigned := members ++ [(js "receipt_id", .string receiptId)]
  let canonicalPayload ← canonicalize runtime.numbers (.object unsigned)
  let envelope ← canonicalize runtime.numbers (.object [
    (js "algorithm", .string HMAC_ALGORITHM),
    (js "digestSha256", .string (runtime.sha256.sha256Hex canonicalPayload)),
    (js "keyId", .string signer.keyId),
    (js "schemaVersion", .string ENVELOPE_SCHEMA_VERSION),
    (js "signature", .string (Signer.base64 (signer.digest runtime.hmacSha256 canonicalPayload)))])
  return .object (unsigned ++
    [(js "receipt_signature", .string (Signer.base64Url (utf8 envelope)))])

/-- Whether the signed receipt is passed, and in the library's terms or not. -/
def isPassed (decision : String) (inLibraryTerms : Bool) : Bool :=
  (sign (identityMembers decision)).toOption.any fun value =>
    value.isJson && (verifyDecisionReceipt runtime value (localOptions signer)).verdict = .PASS &&
      isInLibraryTerms value == inLibraryTerms

theorem exists_of_isPassed {decision : String} {inLibraryTerms : Bool}
    (evaluated : isPassed decision inLibraryTerms = true) :
    ∃ value, sign (identityMembers decision) = .ok value ∧ value.isJson = true ∧
      (verifyDecisionReceipt runtime value (localOptions signer)).verdict = .PASS ∧
      isInLibraryTerms value = inLibraryTerms := by
  rcases exists_ok_of_any evaluated with ⟨value, signed, facts⟩
  simp only [Bool.and_eq_true, decide_eq_true_eq, beq_iff_eq] at facts
  exact ⟨value, signed, facts.1.1, facts.1.2, facts.2⟩

end Sample

theorem libraryAccepts_iff_of_pass_allow :
    ∃ value, Sample.sign (Sample.identityMembers "ALLOW") = .ok value ∧
      LibraryAccepts Sample.runtime.toVerifierRuntime
        (libraryVerifier Sample.signer Sample.runtime.hmacSha256) value := by
  have evaluated : Sample.isPassed "ALLOW" true = true := by
    unfold Sample.isPassed Sample.sign
    rw [Sample.runtime_eq]
    decide +kernel
  rcases Sample.exists_of_isPassed evaluated with ⟨value, signed, shaped, pass, terms⟩
  exact ⟨value, signed, (libraryAccepts_iff_of_pass shaped pass).mpr terms⟩

/-- A signed receipt of a decision that the library does not know is passed and not accepted. -/
theorem pass_not_libraryAccepts :
    ∃ value, Sample.sign (Sample.identityMembers "ALLOW_WITH_CONSTRAINTS") = .ok value ∧
      value.isJson = true ∧
      (verifyDecisionReceipt Sample.runtime value (localOptions Sample.signer)).verdict = .PASS ∧
      ¬ LibraryAccepts Sample.runtime.toVerifierRuntime
        (libraryVerifier Sample.signer Sample.runtime.hmacSha256) value := by
  have evaluated : Sample.isPassed "ALLOW_WITH_CONSTRAINTS" false = true := by
    unfold Sample.isPassed Sample.sign
    rw [Sample.runtime_eq]
    decide +kernel
  rcases Sample.exists_of_isPassed evaluated with ⟨value, signed, shaped, pass, terms⟩
  refine ⟨value, signed, shaped, pass, ?_⟩
  intro accepts
  have inTerms : isInLibraryTerms value = true :=
    isInLibraryTerms_of_libraryAccepts shaped pass accepts
  rw [terms] at inTerms
  cases inTerms

end GhostArk.Verifiers.NodeDecision
