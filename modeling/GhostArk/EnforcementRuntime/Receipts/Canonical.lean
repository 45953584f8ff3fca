import GhostArk.EnforcementRuntime.Receipts.Schema

/-!
Contract: `packages/enforcement-runtime/src/receipts/canonical.ts`.

Owns the construction of unsigned receipts, the default execution boundary, the
three digests of a receipt (unsigned, request-stable and signed), and what they
identify: two receipts with the same canonical text are the same receipt.

A function that accepts both unsigned and signed receipts strips the signature
first; here it takes the unsigned part.
-/

namespace GhostArk.EnforcementRuntime.Receipts

open Js ReceiptSchema Policy

/-! ### Defaults and shape assertions -/

def DEFAULT_EXECUTION_CONTEXT_HASH : JsString :=
  js "sha256:" ++ List.replicate 64 (unit '0')

def DEFAULT_EXECUTION_NONCE : JsString := js "local-dev-execution-nonce"

def receiptCanonicalizationError (message : JsString) (context : List (JsString × JsValue)) :
    JsError :=
  ⟨.validationError, message,
    (js "domain", .string (js "ghost_ark.decision_receipt_canonical.v1")) :: context⟩

def assertNonEmptyString (name value : JsString) : Except JsError Unit :=
  if value.length = 0 then
    .error (receiptCanonicalizationError (name ++ js " must be a non-empty string.")
      [(js "field", .string name)])
  else .ok ()

def assertDigestShape (name value : JsString) (pattern : JsString → Bool) : Except JsError Unit :=
  if pattern value then .ok ()
  else
    .error (receiptCanonicalizationError (name ++ js " has an invalid digest shape.")
      [(js "field", .string name), (js "value", .string value)])

def assertExecutionNonceShape (value : JsString) : Except JsError Unit :=
  if isExecutionNonce value then .ok ()
  else
    .error (receiptCanonicalizationError
      (js "execution_nonce must be 8-256 characters of URL-safe text.")
      [(js "field", .string (js "execution_nonce"))])

/-- `/^hmac-sha256:[a-f0-9]{64}$/`. -/
def isHmacDigest (value : JsString) : Bool := isTaggedHex64 "hmac-sha256:" value

def sortStrings (items : List JsString) : List JsString :=
  items.insertionSort fun left right => stringLt right left = false

/-- `Omit<UnsignedDecisionReceipt, "receipt_id">`. -/
def ReceiptField.identity : List ReceiptField := ReceiptField.unsigned.erase .receipt_id

/-- The fields that a retry against another chain head keeps. -/
def ReceiptField.requestStable : List ReceiptField :=
  ReceiptField.identity.erase .prev_receipt_hash

structure DecisionReceiptBuildInputWithDefaults where
  receipt_id : Option JsString
  request_id : JsString
  tenant_id_hash : JsString
  user_id_hash : JsString
  session_id_hash : JsString
  timestamp : JsString
  model_id : JsString
  policy_version : JsString
  policy_hash : JsString
  input_digest : JsString
  retrieved_context_digests : List JsString
  execution_context_hash : Option JsString
  execution_nonce : Option JsString
  decision_pre : DecisionKind
  decision_post : DecisionKind
  action_taken : List JsString
  risk_score : JsNumber
  consent_state : ConsentState
  memory_written : Bool
  latency_ms : JsNumber
  cost_estimate_usd : JsNumber
  prev_receipt_hash : Option JsString
  signature_alg : SignatureAlgorithm

/-- `withoutId` of the builder. -/
def DecisionReceiptBuildInputWithDefaults.withoutId
    (input : DecisionReceiptBuildInputWithDefaults) : ReceiptBody where
  request_id := input.request_id
  tenant_id_hash := input.tenant_id_hash
  user_id_hash := input.user_id_hash
  session_id_hash := input.session_id_hash
  timestamp := input.timestamp
  model_id := input.model_id
  policy_version := input.policy_version
  policy_hash := input.policy_hash
  input_digest := input.input_digest
  retrieved_context_digests := sortStrings input.retrieved_context_digests
  execution_context_hash := input.execution_context_hash.getD DEFAULT_EXECUTION_CONTEXT_HASH
  execution_nonce := input.execution_nonce.getD DEFAULT_EXECUTION_NONCE
  decision_pre := input.decision_pre
  decision_post := input.decision_post
  action_taken := sortStrings input.action_taken
  risk_score := input.risk_score
  consent_state := input.consent_state
  memory_written := input.memory_written
  latency_ms := input.latency_ms
  cost_estimate_usd := input.cost_estimate_usd
  prev_receipt_hash := input.prev_receipt_hash
  signature_alg := input.signature_alg

def assertBuildInputShapes (input : DecisionReceiptBuildInputWithDefaults) :
    Except JsError Unit := do
  if let some hash := input.execution_context_hash then
    assertDigestShape (js "execution_context_hash") hash isReceiptHash
  if (js "hmac-sha256:").isPrefixOf input.input_digest then
    assertDigestShape (js "input_digest") input.input_digest isHmacDigest
  else
    assertDigestShape (js "input_digest") input.input_digest isReceiptHash
  assertExecutionNonceShape (input.execution_nonce.getD DEFAULT_EXECUTION_NONCE)

section Digests

variable (runtime : ReceiptRuntime)

def publicSha256Digest (value : JsString) : JsString :=
  js "sha256:" ++ sha256Hex runtime.toRuntime value

def privateHmacDigest (secret value : JsString) : Except JsError JsString := do
  assertNonEmptyString (js "secret") secret
  return js "hmac-sha256:" ++ runtime.hmacSha256.hmacHex secret value

def receiptIdFromUnsignedDecisionReceipt (input : ReceiptBody) : Except JsError JsString := do
  let digest ← canonicalSha256Hex runtime.toRuntime
    (record ReceiptField.text ReceiptField.identity input.value)
  return js "grct_" ++ digest

def buildUnsignedDecisionReceipt (input : DecisionReceiptBuildInputWithDefaults) :
    Except JsError UnsignedDecisionReceipt := do
  assertBuildInputShapes input
  let receipt_id ← input.receipt_id.elim
    (receiptIdFromUnsignedDecisionReceipt runtime input.withoutId) .ok
  validateUnsignedDecisionReceipt runtime (input.withoutId.toJsWithId receipt_id)

def unsignedReceiptForSigning (receipt : UnsignedDecisionReceipt) :
    Except JsError UnsignedDecisionReceipt :=
  validateUnsignedDecisionReceipt runtime receipt.toJs

def isDefaultExecutionBoundary (receipt : ReceiptBody) : Bool :=
  receipt.execution_context_hash = DEFAULT_EXECUTION_CONTEXT_HASH ||
    receipt.execution_nonce = DEFAULT_EXECUTION_NONCE

def assertNonDefaultExecutionBoundary (receipt : UnsignedDecisionReceipt) :
    Except JsError Unit := do
  let unsigned ← unsignedReceiptForSigning runtime receipt
  if unsigned.execution_context_hash = DEFAULT_EXECUTION_CONTEXT_HASH then
    throw (receiptCanonicalizationError
      (js "Production decision receipts must not use the default execution_context_hash.")
      [(js "field", .string (js "execution_context_hash"))])
  if unsigned.execution_nonce = DEFAULT_EXECUTION_NONCE then
    throw (receiptCanonicalizationError
      (js "Production decision receipts must not use the default local-dev execution_nonce.")
      [(js "field", .string (js "execution_nonce"))])

def canonicalUnsignedDecisionReceipt (receipt : UnsignedDecisionReceipt) :
    Except JsError JsString := do
  let unsigned ← unsignedReceiptForSigning runtime receipt
  canonicalize runtime.numbers unsigned.toJs

def decisionReceiptDigest (receipt : UnsignedDecisionReceipt) : Except JsError JsString := do
  let text ← canonicalUnsignedDecisionReceipt runtime receipt
  return sha256Hex runtime.toRuntime text

/-- The canonical text without `receipt_id` and `prev_receipt_hash`. -/
def requestStableText (receipt : UnsignedDecisionReceipt) : Except JsError JsString := do
  let unsigned ← unsignedReceiptForSigning runtime receipt
  canonicalize runtime.numbers
    (record ReceiptField.text ReceiptField.requestStable unsigned.value)

def decisionReceiptRequestDigest (receipt : UnsignedDecisionReceipt) : Except JsError JsString := do
  let text ← requestStableText runtime receipt
  return sha256Hex runtime.toRuntime text

def signedText (receipt : SignedDecisionReceipt) : Except JsError JsString := do
  let validated ← validateSignedDecisionReceipt runtime receipt.toJs
  canonicalize runtime.numbers validated.toJs

def signedDecisionReceiptHash (receipt : SignedDecisionReceipt) : Except JsError JsString := do
  let text ← signedText runtime receipt
  return js "sha256:" ++ sha256Hex runtime.toRuntime text

variable {receipt : UnsignedDecisionReceipt}

theorem buildUnsignedDecisionReceipt_fields {input : DecisionReceiptBuildInputWithDefaults}
    (built : buildUnsignedDecisionReceipt runtime input = .ok receipt) :
    receipt.toReceiptBody = input.withoutId := by
  rw [buildUnsignedDecisionReceipt, bind_eq_ok] at built
  obtain ⟨-, -, built⟩ := built
  rw [bind_eq_ok] at built
  obtain ⟨receipt_id, -, validated⟩ := built
  exact (validateUnsignedDecisionReceipt_fields runtime validated).1

/-! ### Texts of receipts -/

theorem nodup_unsigned : ReceiptField.unsigned.Nodup := by decide

theorem nodup_signed : ReceiptField.signed.Nodup := by decide

private theorem isFinite_of_isNonNegative {value : JsNumber} (valid : isNonNegative value = true)
    (bounded : (JsNumber.ofNat 1).lt value = false) : value.isFinite = true := by
  cases value with
  | finite _ => rfl
  | nan => simp [isNonNegative] at valid
  | positiveInfinity => simp [JsNumber.ofNat, JsNumber.lt] at bounded
  | negativeInfinity => simp [isNonNegative, JsNumber.ofNat, JsNumber.lt] at valid

private theorem isFinite_of_isInteger {value : JsNumber} (integer : value.isInteger = true) :
    value.isFinite = true := by
  cases value with
  | finite _ => rfl
  | nan => cases integer
  | positiveInfinity => cases integer
  | negativeInfinity => cases integer

private theorem isJson_stringArray (items : List JsString) :
    (stringArray items).isJson = true := by
  rw [stringArray, isJson_array_iff]
  intro item member
  obtain ⟨text, -, rfl⟩ := List.mem_map.mp member
  rfl

private theorem normalForm_stringArray (items : List JsString) :
    normalForm (stringArray items) = stringArray items := by
  rw [stringArray, normalForm]
  congr 1
  induction items with
  | nil => rfl
  | cons item rest ih =>
    rw [List.map_cons, normalItems, ih]
    rfl

private theorem isJson_value {body : ReceiptBody} (valid : body.isValid = true)
    (finite : body.cost_estimate_usd.isFinite = true) {field : ReceiptField}
    (notId : field ≠ .receipt_id) (notSignature : field ≠ .receipt_signature) :
    (body.value field).isJson = true := by
  obtain ⟨risk, latency, -⟩ := ReceiptBody.numbers_of_isValid valid
  cases field with
  | receipt_id => contradiction
  | receipt_signature => contradiction
  | risk_score => exact isFinite_of_isNonNegative risk.1 risk.2
  | latency_ms => exact isFinite_of_isInteger latency.1
  | cost_estimate_usd => exact finite
  | retrieved_context_digests => exact isJson_stringArray _
  | action_taken => exact isJson_stringArray _
  | prev_receipt_hash =>
    simp only [ReceiptBody.value]
    cases body.prev_receipt_hash <;> rfl
  | _ => rfl

private theorem normalForm_value (body : ReceiptBody) (field : ReceiptField) :
    normalForm (body.value field) = body.value field := by
  cases field with
  | retrieved_context_digests => exact normalForm_stringArray _
  | action_taken => exact normalForm_stringArray _
  | prev_receipt_hash =>
    simp only [ReceiptBody.value]
    cases body.prev_receipt_hash <;> rfl
  | _ => rfl

private theorem normalForm_unsignedValue (receipt : UnsignedDecisionReceipt)
    (field : ReceiptField) : normalForm (receipt.value field) = receipt.value field := by
  by_cases isId : field = .receipt_id
  · subst isId
    rfl
  · rw [receipt.value_of_ne isId]
    exact normalForm_value receipt.toReceiptBody field

private theorem normalForm_signedValue (receipt : SignedDecisionReceipt)
    (field : ReceiptField) : normalForm (receipt.value field) = receipt.value field := by
  by_cases isSignature : field = .receipt_signature
  · subst isSignature
    rfl
  · rw [receipt.value_of_ne isSignature]
    exact normalForm_unsignedValue receipt.toUnsignedDecisionReceipt field

private theorem isJson_unsignedValue (finite : receipt.cost_estimate_usd.isFinite = true)
    {field : ReceiptField} (notSignature : field ≠ .receipt_signature) :
    (receipt.value field).isJson = true := by
  by_cases isId : field = .receipt_id
  · subst isId
    rfl
  · rw [receipt.value_of_ne isId]
    exact isJson_value receipt.validBody finite isId notSignature

private theorem isJson_signedValue {receipt : SignedDecisionReceipt}
    (finite : receipt.cost_estimate_usd.isFinite = true) (field : ReceiptField) :
    (receipt.value field).isJson = true := by
  by_cases isSignature : field = .receipt_signature
  · subst isSignature
    rfl
  · rw [receipt.value_of_ne isSignature]
    exact isJson_unsignedValue finite isSignature

theorem isJson_unsigned (finite : receipt.cost_estimate_usd.isFinite = true) :
    receipt.toJs.isJson = true := by
  apply isJson_record (ReceiptField.nodup_texts nodup_unsigned)
  intro field isField
  exact isJson_unsignedValue finite fun equal => by
    subst equal
    revert isField
    decide

theorem isJson_identity (finite : receipt.cost_estimate_usd.isFinite = true) :
    (record ReceiptField.text ReceiptField.identity receipt.toReceiptBody.value).isJson = true := by
  apply isJson_record (ReceiptField.nodup_texts (by decide))
  intro field isField
  have isBody : field ≠ .receipt_id ∧ field ≠ .receipt_signature := by
    constructor
    all_goals
      rintro rfl
      revert isField
      decide
  exact isJson_value receipt.validBody finite isBody.1 isBody.2

theorem isJson_signed {receipt : SignedDecisionReceipt}
    (finite : receipt.cost_estimate_usd.isFinite = true) : receipt.toJs.isJson = true := by
  apply isJson_record (ReceiptField.nodup_texts nodup_signed)
  intro field _
  exact isJson_signedValue finite field

variable {text : JsString}

theorem finite_of_canonicalize_record {fields : List ReceiptField} {value : ReceiptField → JsValue}
    {cost : JsNumber} (hasCost : .cost_estimate_usd ∈ fields)
    (isCost : value .cost_estimate_usd = .number cost)
    (rendered : canonicalize runtime.numbers (record ReceiptField.text fields value) = .ok text) :
    cost.isFinite = true := by
  have entry := canonicalize_entry runtime.numbers rendered
    (ReceiptField.text .cost_estimate_usd, value .cost_estimate_usd)
    (List.mem_map_of_mem (f := fun field => (ReceiptField.text field, value field)) hasCost)
  rw [isCost] at entry
  obtain ⟨costText, costRendered⟩ := entry
  exact isFinite_of_canonicalize runtime.numbers costRendered

theorem canonicalUnsignedDecisionReceipt_eq (receipt : UnsignedDecisionReceipt) :
    canonicalUnsignedDecisionReceipt runtime receipt =
      canonicalize runtime.numbers receipt.toJs := by
  rw [canonicalUnsignedDecisionReceipt, unsignedReceiptForSigning,
    validateUnsignedDecisionReceipt_toJs, ok_bind]

theorem requestStableText_eq (receipt : UnsignedDecisionReceipt) :
    requestStableText runtime receipt = canonicalize runtime.numbers
      (record ReceiptField.text ReceiptField.requestStable receipt.value) := by
  rw [requestStableText, unsignedReceiptForSigning, validateUnsignedDecisionReceipt_toJs, ok_bind]

theorem signedText_eq (receipt : SignedDecisionReceipt) :
    signedText runtime receipt = canonicalize runtime.numbers receipt.toJs := by
  rw [signedText, validateSignedDecisionReceipt_toJs, ok_bind]

variable {runtime}

theorem finite_of_requestStableText (rendered : requestStableText runtime receipt = .ok text) :
    receipt.cost_estimate_usd.isFinite = true := by
  rw [requestStableText_eq] at rendered
  exact finite_of_canonicalize_record runtime (by decide) rfl rendered

theorem finite_of_canonicalUnsigned
    (rendered : canonicalUnsignedDecisionReceipt runtime receipt = .ok text) :
    receipt.cost_estimate_usd.isFinite = true := by
  rw [canonicalUnsignedDecisionReceipt_eq] at rendered
  exact finite_of_canonicalize_record runtime (by decide) rfl rendered

theorem finite_of_signedText {receipt : SignedDecisionReceipt}
    (rendered : signedText runtime receipt = .ok text) :
    receipt.cost_estimate_usd.isFinite = true := by
  rw [signedText_eq] at rendered
  exact finite_of_canonicalize_record runtime (ReceiptField.mem_signed _) rfl rendered

theorem canonicalUnsigned_ne_nil
    (rendered : canonicalUnsignedDecisionReceipt runtime receipt = .ok text) : text ≠ [] := by
  have shaped := isJson_unsigned (finite_of_canonicalUnsigned rendered)
  rw [canonicalUnsignedDecisionReceipt_eq, canonicalize_of_isJson _ shaped,
    Except.ok.injEq] at rendered
  rintro rfl
  cases rendered

theorem exists_signedText {receipt : SignedDecisionReceipt}
    (finite : receipt.cost_estimate_usd.isFinite = true) :
    ∃ text, signedText runtime receipt = .ok text := by
  rw [signedText_eq]
  exact ⟨_, canonicalize_of_isJson runtime.numbers (isJson_signed finite)⟩

theorem exists_signedDecisionReceiptHash {receipt : SignedDecisionReceipt}
    {requestDigest : JsString}
    (digested : decisionReceiptRequestDigest runtime receipt.toUnsignedDecisionReceipt =
      .ok requestDigest) : ∃ hash, signedDecisionReceiptHash runtime receipt = .ok hash := by
  rw [decisionReceiptRequestDigest, bind_eq_ok] at digested
  obtain ⟨stableText, isText, -⟩ := digested
  obtain ⟨text, isSigned⟩ := exists_signedText (finite_of_requestStableText isText)
  refine ⟨js "sha256:" ++ sha256Hex runtime.toRuntime text, ?_⟩
  rw [signedDecisionReceiptHash, isSigned]
  rfl

theorem eq_of_canonicalUnsigned {left right : UnsignedDecisionReceipt}
    (leftText : canonicalUnsignedDecisionReceipt runtime left = .ok text)
    (rightText : canonicalUnsignedDecisionReceipt runtime right = .ok text) : left = right := by
  have leftShaped := isJson_unsigned (finite_of_canonicalUnsigned leftText)
  have rightShaped := isJson_unsigned (finite_of_canonicalUnsigned rightText)
  rw [canonicalUnsignedDecisionReceipt_eq] at leftText rightText
  have sameForm := normalForm_eq_of_canonicalize runtime.numbers leftShaped rightShaped
    leftText rightText
  apply UnsignedDecisionReceipt.eq_of_value
  intro field isField
  have same := normalForm_record_inj (ReceiptField.nodup_texts nodup_unsigned) sameForm
    field isField
  exact (normalForm_unsignedValue left field).symm.trans
    (same.trans (normalForm_unsignedValue right field))

theorem eq_of_signedText {left right : SignedDecisionReceipt}
    (leftText : signedText runtime left = .ok text)
    (rightText : signedText runtime right = .ok text) : left = right := by
  have leftShaped := isJson_signed (finite_of_signedText leftText)
  have rightShaped := isJson_signed (finite_of_signedText rightText)
  rw [signedText_eq] at leftText rightText
  have sameForm := normalForm_eq_of_canonicalize runtime.numbers leftShaped rightShaped
    leftText rightText
  apply SignedDecisionReceipt.eq_of_value
  intro field isField
  have same := normalForm_record_inj (ReceiptField.nodup_texts nodup_signed) sameForm
    field isField
  exact (normalForm_signedValue left field).symm.trans
    (same.trans (normalForm_signedValue right field))

theorem eq_of_decisionReceiptDigest {left right : UnsignedDecisionReceipt} {texts : List JsString}
    {digest : JsString} (collisionFree : runtime.sha256.CollisionFreeOn texts)
    (leftHashed : ∀ text, canonicalUnsignedDecisionReceipt runtime left = .ok text → text ∈ texts)
    (rightHashed : ∀ text, canonicalUnsignedDecisionReceipt runtime right = .ok text →
      text ∈ texts)
    (leftDigest : decisionReceiptDigest runtime left = .ok digest)
    (rightDigest : decisionReceiptDigest runtime right = .ok digest) : left = right := by
  rw [decisionReceiptDigest, bind_eq_ok] at leftDigest rightDigest
  obtain ⟨leftText, isLeftText, leftHash⟩ := leftDigest
  obtain ⟨rightText, isRightText, rightHash⟩ := rightDigest
  rw [pure_eq_ok] at leftHash rightHash
  have sameText := collisionFree leftText (leftHashed leftText isLeftText) rightText
    (rightHashed rightText isRightText) (leftHash.trans rightHash.symm)
  rw [← sameText] at isRightText
  exact eq_of_canonicalUnsigned isLeftText isRightText

end Digests

end GhostArk.EnforcementRuntime.Receipts
