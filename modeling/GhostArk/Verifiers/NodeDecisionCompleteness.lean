import GhostArk.EnforcementRuntime.Receipts.EmissionVerification
import GhostArk.Verifiers.NodeDecisionSoundness

/-!
Contract: `DefaultDecisionReceiptEmitter.emit` against the standalone verifier.

Owns when the standalone verifier passes what is emitted under local signing: it
knows four of the emitter's ten decisions, wants seconds in a timestamp, and
refuses latencies beyond the safe integers.
-/

namespace GhostArk.Verifiers.NodeDecision

open Js ReceiptSchema EnforcementRuntime.Policy
open EnforcementRuntime.Receipts
open EnforcementRuntime.Receipts.Signer (LocalDevHmacReceiptSigner EnvelopeShape
  DecisionReceiptSignatureEnvelope)

/-- The emitter's view of a local signer. -/
def asyncSigner (signer : LocalDevHmacReceiptSigner) (hmacSha256 : HmacSha256) :
    DecisionReceiptAsyncSigner where
  keyId := signer.keyId
  algorithm := .LOCAL_HMAC_SHA256_DEV_ONLY
  signs := fun canonicalPayload signature =>
    signer.signCanonical hmacSha256 canonicalPayload = .ok signature
  keyIdNonempty := signer.keyIdNonempty

/-- `Date.parse` reads every calendar date and time of day that is written with seconds in UTC. -/
def ReadsUtc (dates : DateParser) : Prop :=
  ∀ text, isDatetime text = true → isIsoUtcPattern text = true →
    (dates.parse text).isFinite = true

/-! ### Encoded envelopes -/

private theorem length_base64Url (bytes : List Nat) : (Signer.base64Url bytes).length % 4 ≠ 1 := by
  fun_induction Signer.base64Url bytes with
  | case1 => decide
  | case2 b0 => simp
  | case3 b0 b1 => simp
  | case4 b0 b1 b2 rest ih =>
    simp only [List.length_append, List.length_map, List.length_cons, List.length_nil]
    omega

private theorem decodeUtf8Fatal_utf8 {first : CodeUnit} {rest : JsString}
    (ascii : first.val < 0x80) (wellFormed : isWellFormed (first :: rest) = true) :
    decodeUtf8Fatal (utf8 (first :: rest)) = some (first :: rest) := by
  have single : isHighSurrogate first = false :=
    (Bool.or_eq_false_iff.mp (isSurrogate_ascii ascii)).1
  have head : (scalars (first :: rest)).head? = some first.val := by
    cases rest with
    | nil => rfl
    | cons second later =>
      rw [scalars, single, Bool.false_and, if_neg (by decide)]
      rfl
  have notMark : (scalars (first :: rest)).head? ≠ some 0xFEFF := by
    rw [head, Ne, Option.some.injEq]
    omega
  rw [decodeUtf8Fatal, codePoints_utf8 wellFormed, Option.map_some, if_neg notMark,
    flatMap_utf16_scalars]

/-- What the library encodes, the standalone verifier decodes, if the signature is base64 text in
its only spelling. -/
theorem decodesTo_encoded {runtime : NodeRuntime} {envelope : DecisionReceiptSignatureEnvelope}
    {value : JsString}
    (encoded : Signer.encodeDecisionReceiptSignatureEnvelope runtime.toReceiptRuntime envelope =
      .ok value)
    (canonical : Signer.base64 (Signer.base64Bytes envelope.signature) = envelope.signature) :
    DecodesTo runtime.numbers value envelope.entries envelope := by
  have urlText := @Signer.isBase64UrlText_encoded runtime.toVerifierRuntime _ _ encoded
  have isParsed := @Signer.envelopeJson_encoded runtime.toVerifierRuntime _ _ encoded
  have shape := @Signer.envelopeShape_encoded runtime.toVerifierRuntime _ _ encoded
  have isText := (@Signer.encoded_eq runtime.toVerifierRuntime _ _ encoded).2
  have bytes : Signer.base64Bytes value =
      utf8 (render runtime.numbers (.object envelope.entries)) := by
    rw [isText, Signer.base64Bytes_base64Url fun byte => utf8_byte]
  rw [Signer.envelopeJson, bytes, decodeUtf8_utf8 (isWellFormed_render _ _)] at isParsed
  have rendered : canonicalize runtime.numbers (.object envelope.entries) =
      .ok (render runtime.numbers (.object envelope.entries)) := by
    rw [(canonicalSerializer runtime.numbers).eq_render
      (Signer.isJson_entries envelope)]
    rfl
  exact {
    urlText := urlText
    aligned := by
      rw [isText]
      exact length_base64Url _
    canonicalBytes := by
      rw [bytes, isText]
    text := by
      refine ⟨_, ?_, isParsed, rendered⟩
      have starts : ∃ rest, render runtime.numbers (.object envelope.entries) = 0x7B :: rest :=
        ⟨_, rfl⟩
      have wellFormed := isWellFormed_render runtime.numbers (.object envelope.entries)
      rcases starts with ⟨rest, isText⟩
      rw [bytes]
      rw [isText] at wellFormed ⊢
      exact decodeUtf8Fatal_utf8 (by decide) wellFormed
    shape := shape
    canonicalSignature := canonical }

section Emitted

variable {runtime : NodeRuntime} {signer : LocalDevHmacReceiptSigner}
  {receipt : SignedDecisionReceipt}

theorem fillDefaults_record (receipt : SignedDecisionReceipt) :
    fillDefaults (ReceiptField.signed.map fun field => (field.text, receipt.value field)) =
      ReceiptField.signed.map fun field => (field.text, receipt.value field) := by
  have own (field : ReceiptField) : hasOwnField
      (ReceiptField.signed.map fun field => (field.text, receipt.value field)) field = true :=
    hasOwnField_iff.mpr ⟨receipt.value field, List.mem_map_of_mem field.mem_signed⟩
  have none : addedDefaults
      (ReceiptField.signed.map fun field => (field.text, receipt.value field)) = [] := by
    rw [addedDefaults, List.map_eq_nil_iff, List.filter_eq_nil_iff]
    intro entry _
    rw [own]
    decide
  rw [fillDefaults_eq, none, List.append_nil]

/-- The contract admits the object of a typed receipt exactly if its timestamp, its decisions and
its latency are ones that the standalone verifier takes. -/
theorem validateDecisionReceipt_toJs_iff (finite : receipt.cost_estimate_usd.isFinite = true)
    {filled : Members} :
    validateDecisionReceipt runtime.numbers runtime.dates receipt.toJs = .ok filled ↔
      (isIsoUtcTimestamp runtime.dates receipt.timestamp = true ∧
        isSharedKind receipt.decision_pre = true ∧ isSharedKind receipt.decision_post = true ∧
        receipt.latency_ms.safeNat?.isSome = true) ∧
      (ReceiptField.signed.map fun field => (field.text, receipt.value field)) = filled := by
  have reads : (readEntry
      (ReceiptField.signed.map fun field => (field.text, receipt.value field))) =
        receipt.value := by
    funext field
    exact readEntry_record receipt.value field.mem_signed
  rw [validateDecisionReceipt_eq_ok_iff, SignedDecisionReceipt.toJs, record]
  simp only [recordEntries, objectMembers, Option.some.injEq, exists_eq_left',
    fillDefaults_record]
  refine and_congr_left fun _ => ⟨fun admitted => ?_, fun accepted => ?_⟩
  · have contract := admitted.contract
    rw [fillDefaults_record, reads] at contract
    exact (contractMet_value finite).mp contract
  · refine ⟨?_, ?_, ?_, ?_⟩
    · rw [reads]
      rfl
    · intro entry member
      rcases List.mem_map.mp member with ⟨field, -, rfl⟩
      exact ⟨field, rfl⟩
    · intro field _
      exact hasOwnField_iff.mpr ⟨receipt.value field, List.mem_map_of_mem field.mem_signed⟩
    · rw [fillDefaults_record, reads]
      exact (contractMet_value finite).mpr accepted

theorem exists_passes_of_signedBy
    (signed : SignedBy runtime.toReceiptRuntime (asyncSigner signer runtime.hmacSha256) receipt) :
    ∃ canonicalPayload canonicalIdentity envelope,
      Passes runtime signer
        (ReceiptField.signed.map fun field => (field.text, receipt.value field))
        canonicalPayload canonicalIdentity envelope := by
  rcases signed with ⟨canonicalPayload, signature, signed⟩
  have finite := finite_of_canonicalUnsigned signed.canonical
  have isSignature : Signer.base64 (signer.digest runtime.hmacSha256 canonicalPayload) =
      signature := by
    have signs : signer.signCanonical runtime.hmacSha256 canonicalPayload = .ok signature :=
      signed.signed
    rw [LocalDevHmacReceiptSigner.signCanonical_eq (canonicalUnsigned_ne_nil signed.canonical),
      Except.ok.injEq] at signs
    exact signs
  have isDigest : Signer.base64Bytes signature =
      signer.digest runtime.hmacSha256 canonicalPayload := by
    rw [← isSignature]
    exact Signer.base64Bytes_base64 (Signer.hexBytes_byte _)
  have decodesTo := @decodesTo_encoded runtime _ _ signed.encoded
    (by rw [DecisionReceiptAsyncSigner.envelope, isDigest, isSignature])
  have texts : ∀ {field text}, receipt.value field = .string text →
      fieldText (ReceiptField.signed.map fun field => (field.text, receipt.value field)) field =
        text := by
    intro field text isText
    rw [fieldText, readEntry_record receipt.value field.mem_signed, isText]
    rfl
  have identified := signed.receiptId
  rw [receiptIdFromUnsignedDecisionReceipt, bind_eq_ok] at identified
  rcases identified with ⟨digest, digested, isReceiptId⟩
  rw [pure_eq_ok] at isReceiptId
  rw [canonicalSha256Hex] at digested
  cases identity : ReceiptSchema.canonicalize runtime.numbers
      (record ReceiptField.text ReceiptField.identity receipt.toReceiptBody.value) with
  | error error =>
    rw [identity] at digested
    cases digested
  | ok canonicalIdentity =>
    rw [identity] at digested
    obtain rfl := Except.ok.inj digested
    refine ⟨canonicalPayload, canonicalIdentity,
      (asyncSigner signer runtime.hmacSha256).envelope
        (sha256Hex runtime.toRuntime canonicalPayload) signature,
      ?_, ?_, ?_, ?_, rfl, rfl, rfl, isDigest⟩
    · rw [canonicalTexts_eq finite (.refl _), signed.canonical, ok_bind, identity]
      rfl
    · rw [@texts .receipt_id _ rfl]
      exact isReceiptId
    · rw [@texts .receipt_signature _ rfl]
      exact decodeDecisionEnvelope_eq_ok_iff.mpr ⟨_, decodesTo⟩
    · rw [@texts .signature_alg _ rfl, signed.algorithm]
      rfl

/-- The standalone verifier passes an emitted receipt exactly if it knows its decisions, its
timestamp has seconds, and its latency is a safe integer. -/
theorem pass_iff_of_emitted (readsUtc : ReadsUtc runtime.dates)
    (emitted : Emitted runtime.toReceiptRuntime (asyncSigner signer runtime.hmacSha256) receipt) :
    (verifyDecisionReceipt runtime receipt.toJs (localOptions signer)).verdict = .PASS ↔
      isSharedKind receipt.decision_pre = true ∧ isSharedKind receipt.decision_post = true ∧
        isIsoUtcPattern receipt.timestamp = true ∧ receipt.latency_ms.safeNat?.isSome = true := by
  have signed := signedBy_of_emitted emitted
  rcases exists_passes_of_signedBy signed with ⟨canonicalPayload, canonicalIdentity, envelope,
    passes⟩
  have finite : receipt.cost_estimate_usd.isFinite = true := by
    rcases signed with ⟨_, _, signedOver⟩
    exact finite_of_canonicalUnsigned signedOver.canonical
  have timestamp : isIsoUtcTimestamp runtime.dates receipt.timestamp = true ↔
      isIsoUtcPattern receipt.timestamp = true := by
    have valid := receipt.validBody
    simp only [ReceiptBody.isValid, Bool.and_eq_true] at valid
    have isDate : isDatetime receipt.timestamp = true := by tauto
    rw [isIsoUtcTimestamp, Bool.and_eq_true, and_iff_left_iff_imp]
    exact readsUtc _ isDate
  rw [verdict_eq_pass_iff]
  simp only [validateDecisionReceipt_toJs_iff finite, timestamp]
  constructor
  · rintro ⟨_, _, _, _, ⟨⟨seconds, pre, post, latency⟩, -⟩, -⟩
    exact ⟨pre, post, seconds, latency⟩
  · rintro ⟨pre, post, seconds, latency⟩
    exact ⟨_, canonicalPayload, canonicalIdentity, envelope,
      ⟨⟨seconds, pre, post, latency⟩, rfl⟩, passes⟩

end Emitted

/-! ### Samples -/

private theorem digitsValue_isSome_iff {text : JsString} :
    (Date.digitsValue text).isSome = true ↔ text ≠ [] ∧ text.all isDigit = true := by
  unfold Date.digitsValue
  split
  next digits => exact iff_of_true rfl digits
  next other => exact iff_of_false (fun found => by cases found) other

private theorem fractionMillis_isSome {tail : JsString}
    (shaped : tail = js "Z" ∨ (tail.head? = some (unit '.') ∧ tail.getLast? = some (unit 'Z') ∧
      (Date.digitsValue (tail.drop 1).dropLast).isSome = true)) :
    (Date.fractionMillis tail.dropLast).isSome = true := by
  rcases shaped with rfl | ⟨point, -, digits⟩
  · rfl
  · cases tail with
    | nil => cases point
    | cons first rest =>
      obtain rfl := Option.some.inj point
      rw [List.drop_one, List.tail_cons] at digits
      have nonempty : rest ≠ [] := by
        rintro rfl
        cases digits
      rcases digitsValue_isSome_iff.mp digits with ⟨some, allDigits⟩
      have padded : (Date.digitsValue ((rest.dropLast ++ js "00").take 3)).isSome = true := by
        rw [digitsValue_isSome_iff]
        constructor
        · intro empty
          rw [List.take_eq_nil_iff] at empty
          rcases empty with impossible | empty
          · omega
          · exact some (List.append_eq_nil_iff.mp empty).1
        · rw [List.all_eq_true] at allDigits ⊢
          intro codeUnit member
          rcases List.mem_append.mp (List.mem_of_mem_take member) with inDigits | inZeros
          · exact allDigits codeUnit inDigits
          · have zeros : (js "00").all isDigit = true := by decide
            exact List.all_eq_true.mp zeros codeUnit inZeros
      rw [List.dropLast_cons_of_ne_nil nonempty, Date.fractionMillis, if_pos rfl]
      cases found : Date.digitsValue rest.dropLast with
      | none =>
        rw [found] at digits
        cases digits
      | some value => exact padded

theorem readsUtc_utcDates : ReadsUtc utcDates := by
  intro text isDate isPattern
  simp only [isIsoUtcPattern, Bool.and_eq_true, Bool.or_eq_true, beq_iff_eq] at isPattern
  rcases isPattern with ⟨⟨⟨⟨⟨⟨⟨year, month⟩, day⟩, hour⟩, minute⟩, second⟩, separators⟩, tail⟩
  rw [Option.isSome_iff_exists] at year month day hour minute second
  rcases year with ⟨year, isYear⟩
  rcases month with ⟨month, isMonth⟩
  rcases day with ⟨day, isDay⟩
  rcases hour with ⟨hour, isHour⟩
  rcases minute with ⟨minute, isMinute⟩
  rcases second with ⟨second, isSecond⟩
  have colon : text[16]? = some (unit ':') := by
    simp only [List.map_cons, List.cons.injEq] at separators
    exact separators.2.2.2.2.1
  have head : (text.drop 16).head? = some (unit ':') := by
    rw [List.head?_drop]
    exact colon
  simp only [isDatetime, isYear, isMonth, isDay, isHour, isMinute, Bool.and_eq_true,
    decide_eq_true_eq, Option.any_some] at isDate
  rcases isDate with ⟨⟨⟨⟨inYear, inDay⟩, inHour⟩, -⟩, dateTail⟩
  have inMinute : second ≤ 59 := by
    have notZ : ¬ text.drop 16 = js "Z" := by
      intro isZ
      rw [isZ] at head
      cases head
    simp only [isDatetimeTail, Bool.or_eq_true, Bool.and_eq_true, beq_iff_eq, notZ, false_or,
      List.drop_drop] at dateTail
    have bounded := dateTail.1.1.2
    rw [isSecond, Option.any_some, decide_eq_true_eq] at bounded
    exact bounded
  have last : text.getLast? = some (unit 'Z') := by
    have tailLast : (text.drop 19).getLast? = some (unit 'Z') := by
      rcases tail with isZ | ⟨⟨-, isLast⟩, -⟩
      · rw [isZ]
        rfl
      · exact isLast
    have long : ¬ text.length ≤ 19 := by
      intro short
      rw [List.drop_eq_nil_of_le short] at tailLast
      cases tailLast
    rw [List.getLast?_drop, if_neg long] at tailLast
    exact tailLast
  have millisRead : (Date.fractionMillis ((text.drop 19).dropLast)).isSome = true := by
    apply fractionMillis_isSome
    rw [List.drop_drop]
    simpa only [and_assoc] using tail
  rw [Option.isSome_iff_exists] at millisRead
  rcases millisRead with ⟨millis, isMillis⟩
  have parsed : ∃ value, Date.parseUtc text = some value := by
    unfold Date.parseUtc
    simp only [isYear, isMonth, isDay, isHour, isMinute, isSecond, Option.bind_eq_bind,
      Option.bind_some, isMillis]
    rw [guard, if_pos ⟨separators, last⟩, guard, if_pos ⟨inYear.1.1.1, inYear.1.1.2, inYear.1.2,
      inYear.2, inDay, inHour, inMinute⟩]
    exact ⟨_, rfl⟩
  rcases parsed with ⟨value, isValue⟩
  rw [utcDates]
  dsimp only
  rw [isValue]
  rfl

namespace Sample

def emissionInput (decision : DecisionKind) : DecisionReceiptEmissionInput :=
  { EnforcementRuntime.Receipts.Sample.emissionInput "req-1" "2026-07-07T12:00:00Z" with
    preDecision := ⟨decision, [], .ofNat 0⟩
    postDecision := ⟨decision, [], .ofNat 0⟩ }

def call (decision : DecisionKind) : EmitCall :=
  ⟨EnforcementRuntime.Receipts.Sample.emitter, emissionInput decision⟩

def reply (unsigned : UnsignedDecisionReceipt) : SignerReply := do
  let canonicalPayload ← canonicalUnsignedDecisionReceipt runtime.toReceiptRuntime unsigned
  let signature ← signer.signCanonical runtime.hmacSha256 canonicalPayload
  return (signature, signer.keyId)

def emits (decision : DecisionKind) : Bool :=
  (emitUnrecorded runtime.toReceiptRuntime (call decision) reply).toOption.any fun receipt =>
    receipt.decision_pre = decision && receipt.decision_post = decision &&
      isIsoUtcPattern receipt.timestamp && receipt.latency_ms.safeNat?.isSome

theorem exists_emitted {decision : DecisionKind} (evaluated : emits decision = true) :
    ∃ receipt, emitUnrecorded runtime.toReceiptRuntime (call decision) reply = .ok receipt ∧
      Emitted runtime.toReceiptRuntime (asyncSigner signer runtime.hmacSha256) receipt ∧
      receipt.decision_pre = decision ∧ receipt.decision_post = decision ∧
      isIsoUtcPattern receipt.timestamp = true ∧ receipt.latency_ms.safeNat?.isSome = true := by
  rcases exists_ok_of_any evaluated with ⟨receipt, returned, facts⟩
  simp only [Bool.and_eq_true, decide_eq_true_eq] at facts
  refine ⟨receipt, returned, .unrecorded rfl ?_ returned, facts.1.1.1, facts.1.1.2, facts.1.2,
    facts.2⟩
  intro unsigned signature signatureKeyId replied
  rw [reply, bind_eq_ok] at replied
  rcases replied with ⟨payload, canonical, replied⟩
  rw [bind_eq_ok] at replied
  rcases replied with ⟨found, signs, replied⟩
  rw [pure_eq_ok, Prod.mk.injEq] at replied
  rcases replied with ⟨rfl, rfl⟩
  refine ⟨rfl, ?_⟩
  intro canonicalPayload rendered
  rw [canonical, Except.ok.injEq] at rendered
  rw [← rendered]
  exact signs

end Sample

theorem pass_iff_of_emitted_allow :
    ∃ receipt, emitUnrecorded Sample.runtime.toReceiptRuntime (Sample.call .ALLOW) Sample.reply =
        .ok receipt ∧
      (verifyDecisionReceipt Sample.runtime receipt.toJs (localOptions Sample.signer)).verdict =
        .PASS := by
  have evaluated : Sample.emits .ALLOW = true := by
    unfold Sample.emits Sample.reply
    rw [Sample.runtime_eq]
    decide +kernel
  rcases Sample.exists_emitted evaluated with ⟨receipt, returned, emitted, pre, post, seconds,
    latency⟩
  refine ⟨receipt, returned, ?_⟩
  have readsUtc : ReadsUtc Sample.runtime.dates := readsUtc_utcDates
  rw [pass_iff_of_emitted readsUtc emitted, pre, post]
  exact ⟨rfl, rfl, seconds, latency⟩

/-- A decision of the emitter's vocabulary that the standalone verifier does not know. -/
theorem emitted_not_pass :
    ∃ receipt, emitUnrecorded Sample.runtime.toReceiptRuntime (Sample.call .MODIFY) Sample.reply =
        .ok receipt ∧
      Emitted Sample.runtime.toReceiptRuntime
        (asyncSigner Sample.signer Sample.runtime.hmacSha256) receipt ∧
      (verifyDecisionReceipt Sample.runtime receipt.toJs (localOptions Sample.signer)).verdict ≠
        .PASS := by
  have evaluated : Sample.emits .MODIFY = true := by
    unfold Sample.emits Sample.reply
    rw [Sample.runtime_eq]
    decide +kernel
  rcases Sample.exists_emitted evaluated with ⟨receipt, returned, emitted, pre, -⟩
  refine ⟨receipt, returned, emitted, ?_⟩
  intro pass
  rcases signedBy_of_emitted emitted with ⟨_, _, signedOver⟩
  have finite := finite_of_canonicalUnsigned signedOver.canonical
  rcases verdict_eq_pass_iff.mp pass with ⟨_, _, _, _, validated, -⟩
  have shared := ((validateDecisionReceipt_toJs_iff finite).mp validated).1.2.1
  rw [pre] at shared
  cases shared

end GhostArk.Verifiers.NodeDecision
