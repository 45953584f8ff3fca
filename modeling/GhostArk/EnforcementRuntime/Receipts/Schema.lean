import GhostArk.EnforcementRuntime.Policy.Decisions
import GhostArk.Js.Date
import GhostArk.ReceiptSchema.HashCanonicalization

/-!
Contract: `packages/enforcement-runtime/src/receipts/schema.ts`.

Owns the unsigned and the signed decision receipt with their field checks,
strict validation of untyped values, and the plain object of a receipt. A
receipt cannot be built with a field its schema refuses; validating the object
of a receipt returns the receipt.

The text of a schema error is the schema library's own and stays a parameter.
-/

namespace GhostArk.EnforcementRuntime.Receipts

open Js ReceiptSchema Policy

/-- Host functions of the receipt modules. -/
structure ReceiptRuntime extends Runtime where
  hmacSha256 : HmacSha256
  /-- The message of the `ZodError` for a value the unsigned schema refuses. -/
  unsignedIssues : JsValue → JsString
  /-- The message of the `ZodError` for a value the signed schema refuses. -/
  signedIssues : JsValue → JsString

def decisionReceiptSchemaVersion : JsString := js "ghost.receipt.v1"

inductive SignatureAlgorithm where
  | LOCAL_HMAC_SHA256_DEV_ONLY
  | KMS_SIGN_RSASSA_PSS_SHA_256
deriving DecidableEq, Repr

def decisionReceiptSignatureAlgorithms : List SignatureAlgorithm :=
  [.LOCAL_HMAC_SHA256_DEV_ONLY, .KMS_SIGN_RSASSA_PSS_SHA_256]

def SignatureAlgorithm.text : SignatureAlgorithm → JsString
  | .LOCAL_HMAC_SHA256_DEV_ONLY => js "LOCAL_HMAC_SHA256_DEV_ONLY"
  | .KMS_SIGN_RSASSA_PSS_SHA_256 => js "KMS_SIGN_RSASSA_PSS_SHA_256"

/-- `/^(sha256|hmac-sha256):[a-f0-9]{64}$/`. -/
def isDigest (value : JsString) : Bool :=
  isTaggedHex64 "sha256:" value || isTaggedHex64 "hmac-sha256:" value

/-- `/^sha256:[a-f0-9]{64}$/`. -/
def isReceiptHash (value : JsString) : Bool := isTaggedHex64 "sha256:" value

/-- `/^[A-Za-z0-9._:-]{8,256}$/`. -/
def isExecutionNonce (value : JsString) : Bool :=
  8 ≤ value.length && value.length ≤ 256 &&
    value.all fun codeUnit => isAlphanumeric codeUnit || (js "._:-").contains codeUnit

/-- `(:[0-5]\d(\.\d+)?)?Z`. -/
def isDatetimeTail (tail : JsString) : Bool :=
  tail == js "Z" ||
    (tail.head? == some (unit ':') &&
      (Date.digitsValue ((tail.drop 1).take 2)).any (· ≤ 59) &&
      (tail.drop 3).getLast? == some (unit 'Z') &&
      ((tail.drop 3).dropLast == [] ||
        ((tail.drop 3).head? == some (unit '.') &&
          (Date.digitsValue ((tail.drop 4).dropLast)).isSome)))

/-- `z.string().datetime()`: a calendar date, hours and minutes, optional seconds, `Z`. -/
def isDatetime (text : JsString) : Bool :=
  let field (start width : Nat) : Option Nat := Date.digitsValue ((text.drop start).take width)
  let isDate : Bool :=
    match field 0 4, field 5 2, field 8 2 with
    | some year, some month, some day =>
      1 ≤ month && month ≤ 12 && 1 ≤ day && day ≤ Date.daysInMonth year month
    | _, _, _ => false
  isDate && (field 11 2).any (· ≤ 23) && (field 14 2).any (· ≤ 59) &&
    [4, 7, 10, 13].map (fun index => text[index]?) ==
      [some (unit '-'), some (unit '-'), some (unit 'T'), some (unit ':')] &&
    isDatetimeTail (text.drop 16)

example : isDatetime (js "2024-02-29T12:34:56.7Z") = true ∧
    isDatetime (js "2023-02-29T12:34:56Z") = false := by
  decide +kernel

/-- `z.number().min(0)`, which refuses NaN. -/
def isNonNegative (value : JsNumber) : Bool := value != .nan && !value.lt (.ofNat 0)

/-- `Omit<UnsignedDecisionReceipt, "receipt_id">` less the constant schema version. -/
structure ReceiptBody where
  request_id : JsString
  tenant_id_hash : JsString
  user_id_hash : JsString
  session_id_hash : JsString
  timestamp : JsString
  model_id : JsString
  policy_version : JsString
  policy_hash : JsString
  input_digest : JsString
  retrieved_context_digests : List JsString
  execution_context_hash : JsString
  execution_nonce : JsString
  decision_pre : DecisionKind
  decision_post : DecisionKind
  action_taken : List JsString
  risk_score : JsNumber
  consent_state : ConsentState
  memory_written : Bool
  latency_ms : JsNumber
  cost_estimate_usd : JsNumber
  prev_receipt_hash : Option JsString
  signature_alg : SignatureAlgorithm
deriving DecidableEq, Repr

def ReceiptBody.isValid (body : ReceiptBody) : Bool :=
  body.request_id != [] && isDigest body.tenant_id_hash && isDigest body.user_id_hash &&
    isDigest body.session_id_hash && isDatetime body.timestamp && body.model_id != [] &&
    body.policy_version != [] && isHex64 body.policy_hash && isDigest body.input_digest &&
    body.retrieved_context_digests.all isDigest && isDigest body.execution_context_hash &&
    isExecutionNonce body.execution_nonce && body.action_taken.all (· != []) &&
    isNonNegative body.risk_score && !(JsNumber.ofNat 1).lt body.risk_score &&
    body.latency_ms.isInteger && isNonNegative body.latency_ms &&
    isNonNegative body.cost_estimate_usd && body.prev_receipt_hash.all isReceiptHash

structure UnsignedDecisionReceipt extends ReceiptBody where
  receipt_id : JsString
  validBody : toReceiptBody.isValid = true
  receiptIdShape : isTaggedHex64 "grct_" receipt_id = true
deriving DecidableEq

structure SignedDecisionReceipt extends UnsignedDecisionReceipt where
  receipt_signature : JsString
  signatureNonempty : receipt_signature ≠ []
deriving DecidableEq

/-! ### Objects -/

inductive ReceiptField where
  | schema_version
  | receipt_id
  | request_id
  | tenant_id_hash
  | user_id_hash
  | session_id_hash
  | timestamp
  | model_id
  | policy_version
  | policy_hash
  | input_digest
  | retrieved_context_digests
  | execution_context_hash
  | execution_nonce
  | decision_pre
  | decision_post
  | action_taken
  | risk_score
  | consent_state
  | memory_written
  | latency_ms
  | cost_estimate_usd
  | prev_receipt_hash
  | signature_alg
  | receipt_signature
deriving DecidableEq, Repr

namespace ReceiptField

def text : ReceiptField → JsString
  | schema_version => js "schema_version"
  | receipt_id => js "receipt_id"
  | request_id => js "request_id"
  | tenant_id_hash => js "tenant_id_hash"
  | user_id_hash => js "user_id_hash"
  | session_id_hash => js "session_id_hash"
  | timestamp => js "timestamp"
  | model_id => js "model_id"
  | policy_version => js "policy_version"
  | policy_hash => js "policy_hash"
  | input_digest => js "input_digest"
  | retrieved_context_digests => js "retrieved_context_digests"
  | execution_context_hash => js "execution_context_hash"
  | execution_nonce => js "execution_nonce"
  | decision_pre => js "decision_pre"
  | decision_post => js "decision_post"
  | action_taken => js "action_taken"
  | risk_score => js "risk_score"
  | consent_state => js "consent_state"
  | memory_written => js "memory_written"
  | latency_ms => js "latency_ms"
  | cost_estimate_usd => js "cost_estimate_usd"
  | prev_receipt_hash => js "prev_receipt_hash"
  | signature_alg => js "signature_alg"
  | receipt_signature => js "receipt_signature"

def signed : List ReceiptField :=
  [schema_version, receipt_id, request_id, tenant_id_hash, user_id_hash, session_id_hash,
    timestamp, model_id, policy_version, policy_hash, input_digest, retrieved_context_digests,
    execution_context_hash, execution_nonce, decision_pre, decision_post, action_taken, risk_score,
    consent_state, memory_written, latency_ms, cost_estimate_usd, prev_receipt_hash, signature_alg,
    receipt_signature]

def unsigned : List ReceiptField := signed.erase receipt_signature

theorem mem_signed (field : ReceiptField) : field ∈ signed := by
  cases field <;> decide

theorem mem_unsigned {field : ReceiptField} (kept : field ≠ receipt_signature) :
    field ∈ unsigned := by
  revert kept
  cases field <;> decide

theorem nodup_text : (signed.map text).Nodup := by
  decide +kernel

theorem text_injective : Function.Injective text := by
  intro left right same
  exact List.inj_on_of_nodup_map nodup_text (mem_signed left) (mem_signed right) same

theorem nodup_texts {fields : List ReceiptField} (distinct : fields.Nodup) :
    (fields.map text).Nodup :=
  distinct.map text_injective

end ReceiptField

def stringArray (items : List JsString) : JsValue := .array (items.map .string)

def ReceiptBody.value (body : ReceiptBody) : ReceiptField → JsValue
  | .schema_version => .string decisionReceiptSchemaVersion
  | .request_id => .string body.request_id
  | .tenant_id_hash => .string body.tenant_id_hash
  | .user_id_hash => .string body.user_id_hash
  | .session_id_hash => .string body.session_id_hash
  | .timestamp => .string body.timestamp
  | .model_id => .string body.model_id
  | .policy_version => .string body.policy_version
  | .policy_hash => .string body.policy_hash
  | .input_digest => .string body.input_digest
  | .retrieved_context_digests => stringArray body.retrieved_context_digests
  | .execution_context_hash => .string body.execution_context_hash
  | .execution_nonce => .string body.execution_nonce
  | .decision_pre => .string body.decision_pre.text
  | .decision_post => .string body.decision_post.text
  | .action_taken => stringArray body.action_taken
  | .risk_score => .number body.risk_score
  | .consent_state => .string body.consent_state.text
  | .memory_written => .bool body.memory_written
  | .latency_ms => .number body.latency_ms
  | .cost_estimate_usd => .number body.cost_estimate_usd
  | .prev_receipt_hash => (body.prev_receipt_hash.map .string).getD .null
  | .signature_alg => .string body.signature_alg.text
  | .receipt_id => .undefined
  | .receipt_signature => .undefined

/-- The fields `{ ...body, receipt_id }`. -/
def ReceiptBody.valueWithId (body : ReceiptBody) (receipt_id : JsString) : ReceiptField → JsValue
  | .receipt_id => .string receipt_id
  | field => body.value field

def UnsignedDecisionReceipt.value (receipt : UnsignedDecisionReceipt) : ReceiptField → JsValue :=
  receipt.toReceiptBody.valueWithId receipt.receipt_id

def SignedDecisionReceipt.value (receipt : SignedDecisionReceipt) : ReceiptField → JsValue
  | .receipt_signature => .string receipt.receipt_signature
  | field => receipt.toUnsignedDecisionReceipt.value field

variable {field : ReceiptField}

theorem UnsignedDecisionReceipt.value_of_ne (receipt : UnsignedDecisionReceipt)
    (notId : field ≠ .receipt_id) : receipt.value field = receipt.toReceiptBody.value field := by
  cases field <;> first | rfl | contradiction

theorem SignedDecisionReceipt.value_of_ne (receipt : SignedDecisionReceipt)
    (notSignature : field ≠ .receipt_signature) :
    receipt.value field = receipt.toUnsignedDecisionReceipt.value field := by
  cases field <;> first | rfl | contradiction

/-- The plain object `{ ...body, receipt_id }`. -/
def ReceiptBody.toJsWithId (body : ReceiptBody) (receipt_id : JsString) : JsValue :=
  record ReceiptField.text ReceiptField.unsigned (body.valueWithId receipt_id)

def UnsignedDecisionReceipt.toJs (receipt : UnsignedDecisionReceipt) : JsValue :=
  receipt.toReceiptBody.toJsWithId receipt.receipt_id

/-- The fields `{ ...unsigned, receipt_signature }`. -/
def UnsignedDecisionReceipt.valueWithSignature (receipt : UnsignedDecisionReceipt)
    (receipt_signature : JsString) : ReceiptField → JsValue
  | .receipt_signature => .string receipt_signature
  | field => receipt.value field

/-- The plain object `{ ...unsigned, receipt_signature }`. -/
def UnsignedDecisionReceipt.toJsWithSignature (receipt : UnsignedDecisionReceipt)
    (receipt_signature : JsString) : JsValue :=
  record ReceiptField.text ReceiptField.signed (receipt.valueWithSignature receipt_signature)

def SignedDecisionReceipt.toJs (receipt : SignedDecisionReceipt) : JsValue :=
  record ReceiptField.text ReceiptField.signed receipt.value

/-! ### Validation -/

def readString : JsValue → Option JsString
  | .string value => some value
  | _ => none

/-- `z.array(z.string()).default([])`. -/
def readStrings : JsValue → Option (List JsString)
  | .undefined => some []
  | .array items => items.mapM readString
  | _ => none

/-- `z.number()`: NaN is not a number to the schema. -/
def readNumber : JsValue → Option JsNumber
  | .number value => if value = .nan then none else some value
  | _ => none

def readBool : JsValue → Option Bool
  | .bool value => some value
  | _ => none

def readEnum {α : Type} (vocabulary : List α) (text : α → JsString) : JsValue → Option α
  | .string value => vocabulary.find? fun word => text word = value
  | _ => none

/-- `z.string().nullable().default(null)`. -/
def readNullable : JsValue → Option (Option JsString)
  | .undefined => some none
  | .null => some none
  | .string value => some (some value)
  | _ => none

def readEntry (entries : List (JsString × JsValue)) (field : ReceiptField) : JsValue :=
  ((entries.find? fun entry => entry.1 = field.text).map Prod.snd).getD .undefined

def readBody (read : ReceiptField → JsValue) : Option ReceiptBody := do
  let schema_version ← readString (read .schema_version)
  guard (schema_version = decisionReceiptSchemaVersion)
  let request_id ← readString (read .request_id)
  let tenant_id_hash ← readString (read .tenant_id_hash)
  let user_id_hash ← readString (read .user_id_hash)
  let session_id_hash ← readString (read .session_id_hash)
  let timestamp ← readString (read .timestamp)
  let model_id ← readString (read .model_id)
  let policy_version ← readString (read .policy_version)
  let policy_hash ← readString (read .policy_hash)
  let input_digest ← readString (read .input_digest)
  let retrieved_context_digests ← readStrings (read .retrieved_context_digests)
  let execution_context_hash ← readString (read .execution_context_hash)
  let execution_nonce ← readString (read .execution_nonce)
  let decision_pre ← readEnum decisionVocabulary DecisionKind.text (read .decision_pre)
  let decision_post ← readEnum decisionVocabulary DecisionKind.text (read .decision_post)
  let action_taken ← readStrings (read .action_taken)
  let risk_score ← readNumber (read .risk_score)
  let consent_state ← readEnum consentStates ConsentState.text (read .consent_state)
  let memory_written ← readBool (read .memory_written)
  let latency_ms ← readNumber (read .latency_ms)
  let cost_estimate_usd ← readNumber (read .cost_estimate_usd)
  let prev_receipt_hash ← readNullable (read .prev_receipt_hash)
  let signature_alg ←
    readEnum decisionReceiptSignatureAlgorithms SignatureAlgorithm.text (read .signature_alg)
  return {
    request_id, tenant_id_hash, user_id_hash, session_id_hash, timestamp, model_id, policy_version,
    policy_hash, input_digest, retrieved_context_digests, execution_context_hash, execution_nonce,
    decision_pre, decision_post, action_taken, risk_score, consent_state, memory_written,
    latency_ms, cost_estimate_usd, prev_receipt_hash, signature_alg }

def readUnsigned (read : ReceiptField → JsValue) : Option UnsignedDecisionReceipt := do
  let body ← readBody read
  let receipt_id ← readString (read .receipt_id)
  if valid : body.isValid = true ∧ isTaggedHex64 "grct_" receipt_id = true then
    return ⟨body, receipt_id, valid.1, valid.2⟩
  else none

def readSigned (read : ReceiptField → JsValue) : Option SignedDecisionReceipt := do
  let unsigned ← readUnsigned read
  let receipt_signature ← readString (read .receipt_signature)
  if nonempty : receipt_signature ≠ [] then
    return ⟨unsigned, receipt_signature, nonempty⟩
  else none

/-- `.strict()`: an object whose keys are all known. -/
def readStrict {α : Type} (fields : List ReceiptField)
    (read : (ReceiptField → JsValue) → Option α) : JsValue → Option α
  | .object entries =>
    if entries.all fun entry => (fields.map ReceiptField.text).contains entry.1 then
      read (readEntry entries)
    else none
  | _ => none

section Validation

variable (runtime : ReceiptRuntime)

def validateUnsignedDecisionReceipt (value : JsValue) : Except JsError UnsignedDecisionReceipt :=
  match readStrict ReceiptField.unsigned readUnsigned value with
  | some receipt => .ok receipt
  | none => .error ⟨.zodError, runtime.unsignedIssues value, []⟩

def validateSignedDecisionReceipt (value : JsValue) : Except JsError SignedDecisionReceipt :=
  match readStrict ReceiptField.signed readSigned value with
  | some receipt => .ok receipt
  | none => .error ⟨.zodError, runtime.signedIssues value, []⟩

end Validation

/-! ### Validating the object of a receipt -/

variable {fields : List ReceiptField}

theorem readEntry_record (value : ReceiptField → JsValue) (isField : field ∈ fields) :
    readEntry (fields.map fun field => (field.text, value field)) field = value field := by
  unfold readEntry
  induction fields with
  | nil => cases isField
  | cons first rest ih =>
    rw [List.map_cons, List.find?_cons]
    by_cases same : first = field
    · simp [same]
    · have differs : first.text ≠ field.text := fun equal =>
        same (ReceiptField.text_injective equal)
      simp only [differs, decide_false]
      exact ih (List.mem_of_ne_of_mem (Ne.symm same) isField)

private theorem keys_known (value : ReceiptField → JsValue) :
    (fields.map fun field => (field.text, value field)).all
      (fun entry => (fields.map ReceiptField.text).contains entry.1) = true := by
  rw [List.all_eq_true]
  intro entry member
  obtain ⟨field, isField, rfl⟩ := List.mem_map.mp member
  rw [List.contains_iff_mem]
  exact List.mem_map_of_mem isField

theorem readStrict_record {α : Type} {value : ReceiptField → JsValue}
    {read : (ReceiptField → JsValue) → Option α} {result : α}
    (reads : ∀ source, (∀ field ∈ fields, source field = value field) → read source = some result) :
    readStrict fields read (record ReceiptField.text fields value) = some result := by
  rw [record, readStrict, if_pos (keys_known value)]
  apply reads
  intro field isField
  exact readEntry_record value isField

theorem readString_eq_some_iff {value : JsValue} {text : JsString} :
    readString value = some text ↔ value = .string text := by
  cases value <;> simp [readString]

theorem eq_string_of_readEnum {α : Type} {vocabulary : List α} {text : α → JsString}
    {value : JsValue} {word : α} (isRead : readEnum vocabulary text value = some word) :
    value = .string (text word) := by
  cases value with
  | string found =>
    have same := List.find?_some isRead
    rw [decide_eq_true_eq] at same
    rw [same]
  | _ => cases isRead

theorem readStrings_stringArray (items : List JsString) :
    readStrings (stringArray items) = some items := by
  rw [stringArray, readStrings]
  induction items with
  | nil => rfl
  | cons item rest ih =>
    rw [List.map_cons, List.mapM_cons, ih]
    rfl

private theorem readEnum_decisionKind (kind : DecisionKind) :
    readEnum decisionVocabulary DecisionKind.text (.string kind.text) = some kind := by
  cases kind <;> rfl

private theorem readEnum_consentState (state : ConsentState) :
    readEnum consentStates ConsentState.text (.string state.text) = some state := by
  cases state <;> rfl

theorem readEnum_signatureAlgorithm (algorithm : SignatureAlgorithm) :
    readEnum decisionReceiptSignatureAlgorithms SignatureAlgorithm.text
      (.string algorithm.text) = some algorithm := by
  cases algorithm <;> rfl

private theorem readNumber_of_isNonNegative {value : JsNumber}
    (valid : isNonNegative value = true) : readNumber (.number value) = some value := by
  rw [isNonNegative, Bool.and_eq_true, bne_iff_ne] at valid
  rw [readNumber, if_neg valid.1]

private theorem readNullable_value (hash : Option JsString) :
    readNullable ((hash.map JsValue.string).getD .null) = some hash := by
  cases hash <;> rfl

namespace ReceiptBody

variable {body : ReceiptBody}

theorem numbers_of_isValid (valid : body.isValid = true) :
    (isNonNegative body.risk_score = true ∧ (JsNumber.ofNat 1).lt body.risk_score = false) ∧
      (body.latency_ms.isInteger = true ∧ isNonNegative body.latency_ms = true) ∧
      isNonNegative body.cost_estimate_usd = true := by
  simp only [isValid, Bool.and_eq_true, Bool.not_eq_true'] at valid
  tauto

theorem isDigest_tenant_of_isValid (valid : body.isValid = true) :
    isDigest body.tenant_id_hash = true := by
  simp only [isValid, Bool.and_eq_true] at valid
  tauto

end ReceiptBody

theorem UnsignedDecisionReceipt.isDigest_tenant (receipt : UnsignedDecisionReceipt) :
    isDigest receipt.tenant_id_hash = true :=
  ReceiptBody.isDigest_tenant_of_isValid receipt.validBody

variable {read : ReceiptField → JsValue}

variable {body : ReceiptBody}

private theorem readBody_agrees
    (agrees : ∀ field, field ≠ .receipt_id → field ≠ .receipt_signature →
      read field = body.value field) :
    readBody read = do
      let risk_score ← readNumber (.number body.risk_score)
      let latency_ms ← readNumber (.number body.latency_ms)
      let cost_estimate_usd ← readNumber (.number body.cost_estimate_usd)
      return { body with risk_score, latency_ms, cost_estimate_usd } := by
  unfold readBody
  simp only [agrees, ne_eq, reduceCtorEq, not_false_eq_true, ReceiptBody.value, readString,
    readStrings_stringArray, readEnum_decisionKind, readEnum_consentState,
    readEnum_signatureAlgorithm, readBool, readNullable_value]
  rfl

private theorem readBody_of_agrees (valid : body.isValid = true)
    (agrees : ∀ field, field ≠ .receipt_id → field ≠ .receipt_signature →
      read field = body.value field) : readBody read = some body := by
  obtain ⟨risk, latency, cost⟩ := ReceiptBody.numbers_of_isValid valid
  rw [readBody_agrees agrees, readNumber_of_isNonNegative risk.1,
    readNumber_of_isNonNegative latency.2, readNumber_of_isNonNegative cost]
  rfl

theorem readBody_unique {body found : ReceiptBody}
    (agrees : ∀ field, field ≠ .receipt_id → field ≠ .receipt_signature →
      read field = body.value field) (isRead : readBody read = some found) : found = body := by
  have number : ∀ {value other : JsNumber}, readNumber (.number value) = some other →
      other = value := by
    intro value other isNumber
    rw [readNumber] at isNumber
    split at isNumber
    · cases isNumber
    · exact (Option.some.inj isNumber).symm
  rw [readBody_agrees agrees] at isRead
  simp only [Option.bind_eq_bind, Option.bind_eq_some_iff, Option.pure_def, Option.some.injEq]
    at isRead
  obtain ⟨risk, riskRead, latency, latencyRead, cost, costRead, rfl⟩ := isRead
  rw [number riskRead, number latencyRead, number costRead]

private theorem readUnsigned_of_agrees {receipt : UnsignedDecisionReceipt}
    (agrees : ∀ field, field ≠ .receipt_signature → read field = receipt.value field) :
    readUnsigned read = some receipt := by
  have bodyAgrees : ∀ field, field ≠ .receipt_id → field ≠ .receipt_signature →
      read field = receipt.toReceiptBody.value field := by
    intro field notId notSignature
    rw [agrees field notSignature, receipt.value_of_ne notId]
  have idAgrees := agrees .receipt_id (by decide)
  unfold readUnsigned
  rw [readBody_of_agrees receipt.validBody bodyAgrees, idAgrees]
  simp [UnsignedDecisionReceipt.value, ReceiptBody.valueWithId, readString, receipt.validBody,
    receipt.receiptIdShape]

theorem readSigned_of_agrees {receipt : SignedDecisionReceipt}
    (agrees : ∀ field, read field = receipt.value field) : readSigned read = some receipt := by
  have unsignedReads : readUnsigned read = some receipt.toUnsignedDecisionReceipt := by
    apply readUnsigned_of_agrees
    intro field kept
    rw [agrees field, receipt.value_of_ne kept]
  unfold readSigned
  rw [unsignedReads, agrees .receipt_signature]
  simp [SignedDecisionReceipt.value, readString, receipt.signatureNonempty]

structure BodyRead (read : ReceiptField → JsValue) (body : ReceiptBody) : Prop where
  schema_version : read .schema_version = .string decisionReceiptSchemaVersion
  request_id : readString (read .request_id) = some body.request_id
  tenant_id_hash : readString (read .tenant_id_hash) = some body.tenant_id_hash
  user_id_hash : readString (read .user_id_hash) = some body.user_id_hash
  session_id_hash : readString (read .session_id_hash) = some body.session_id_hash
  timestamp : readString (read .timestamp) = some body.timestamp
  model_id : readString (read .model_id) = some body.model_id
  policy_version : readString (read .policy_version) = some body.policy_version
  policy_hash : readString (read .policy_hash) = some body.policy_hash
  input_digest : readString (read .input_digest) = some body.input_digest
  retrieved_context_digests : readStrings (read .retrieved_context_digests) =
    some body.retrieved_context_digests
  execution_context_hash : readString (read .execution_context_hash) =
    some body.execution_context_hash
  execution_nonce : readString (read .execution_nonce) = some body.execution_nonce
  decision_pre : readEnum decisionVocabulary DecisionKind.text (read .decision_pre) =
    some body.decision_pre
  decision_post : readEnum decisionVocabulary DecisionKind.text (read .decision_post) =
    some body.decision_post
  action_taken : readStrings (read .action_taken) = some body.action_taken
  risk_score : readNumber (read .risk_score) = some body.risk_score
  consent_state : readEnum consentStates ConsentState.text (read .consent_state) =
    some body.consent_state
  memory_written : readBool (read .memory_written) = some body.memory_written
  latency_ms : readNumber (read .latency_ms) = some body.latency_ms
  cost_estimate_usd : readNumber (read .cost_estimate_usd) = some body.cost_estimate_usd
  prev_receipt_hash : readNullable (read .prev_receipt_hash) = some body.prev_receipt_hash
  signature_alg :
    readEnum decisionReceiptSignatureAlgorithms SignatureAlgorithm.text (read .signature_alg) =
    some body.signature_alg

theorem bodyRead_of_readBody (isRead : readBody read = some body) : BodyRead read body := by
  unfold readBody at isRead
  rcases Option.bind_eq_some_iff.mp isRead with ⟨version, isVersion, isRead⟩
  rcases Option.bind_eq_some_iff.mp isRead with ⟨⟨⟩, isCurrent, isRead⟩
  rcases Option.bind_eq_some_iff.mp isRead with ⟨_, request, isRead⟩
  rcases Option.bind_eq_some_iff.mp isRead with ⟨_, tenant, isRead⟩
  rcases Option.bind_eq_some_iff.mp isRead with ⟨_, user, isRead⟩
  rcases Option.bind_eq_some_iff.mp isRead with ⟨_, session, isRead⟩
  rcases Option.bind_eq_some_iff.mp isRead with ⟨_, timestamp, isRead⟩
  rcases Option.bind_eq_some_iff.mp isRead with ⟨_, model, isRead⟩
  rcases Option.bind_eq_some_iff.mp isRead with ⟨_, policy, isRead⟩
  rcases Option.bind_eq_some_iff.mp isRead with ⟨_, policyHash, isRead⟩
  rcases Option.bind_eq_some_iff.mp isRead with ⟨_, input, isRead⟩
  rcases Option.bind_eq_some_iff.mp isRead with ⟨_, contexts, isRead⟩
  rcases Option.bind_eq_some_iff.mp isRead with ⟨_, context, isRead⟩
  rcases Option.bind_eq_some_iff.mp isRead with ⟨_, nonce, isRead⟩
  rcases Option.bind_eq_some_iff.mp isRead with ⟨_, pre, isRead⟩
  rcases Option.bind_eq_some_iff.mp isRead with ⟨_, post, isRead⟩
  rcases Option.bind_eq_some_iff.mp isRead with ⟨_, actions, isRead⟩
  rcases Option.bind_eq_some_iff.mp isRead with ⟨_, risk, isRead⟩
  rcases Option.bind_eq_some_iff.mp isRead with ⟨_, consent, isRead⟩
  rcases Option.bind_eq_some_iff.mp isRead with ⟨_, memory, isRead⟩
  rcases Option.bind_eq_some_iff.mp isRead with ⟨_, latency, isRead⟩
  rcases Option.bind_eq_some_iff.mp isRead with ⟨_, cost, isRead⟩
  rcases Option.bind_eq_some_iff.mp isRead with ⟨_, previous, isRead⟩
  rcases Option.bind_eq_some_iff.mp isRead with ⟨_, algorithm, isRead⟩
  obtain rfl := Option.some.inj isRead
  have isSchema : version = decisionReceiptSchemaVersion := by
    by_contra other
    rw [guard, if_neg other] at isCurrent
    cases isCurrent
  subst isSchema
  exact ⟨readString_eq_some_iff.mp isVersion, request, tenant, user, session, timestamp, model,
    policy, policyHash, input, contexts, context, nonce, pre, post, actions, risk, consent,
    memory, latency, cost, previous, algorithm⟩

structure SignedRead (read : ReceiptField → JsValue) (receipt : SignedDecisionReceipt) : Prop where
  body : BodyRead read receipt.toReceiptBody
  receipt_id : readString (read .receipt_id) = some receipt.receipt_id
  receipt_signature : readString (read .receipt_signature) = some receipt.receipt_signature

theorem signedRead_of_readSigned {receipt : SignedDecisionReceipt}
    (isRead : readSigned read = some receipt) : SignedRead read receipt := by
  unfold readSigned at isRead
  rcases Option.bind_eq_some_iff.mp isRead with ⟨unsigned, isUnsigned, isRead⟩
  rcases Option.bind_eq_some_iff.mp isRead with ⟨signature, isSignature, isRead⟩
  split at isRead
  next nonempty =>
    obtain rfl := Option.some.inj isRead
    unfold readUnsigned at isUnsigned
    rcases Option.bind_eq_some_iff.mp isUnsigned with ⟨body, isBody, isUnsigned⟩
    rcases Option.bind_eq_some_iff.mp isUnsigned with ⟨receiptId, isReceiptId, isUnsigned⟩
    split at isUnsigned
    next valid =>
      obtain rfl := Option.some.inj isUnsigned
      exact ⟨bodyRead_of_readBody isBody, isReceiptId, isSignature⟩
    next => cases isUnsigned
  next => cases isRead

theorem UnsignedDecisionReceipt.eq_of_value {left right : UnsignedDecisionReceipt}
    (same : ∀ field ∈ ReceiptField.unsigned, left.value field = right.value field) :
    left = right := by
  have readLeft : readUnsigned left.value = some left := readUnsigned_of_agrees fun _ _ => rfl
  have readRight : readUnsigned left.value = some right := by
    apply readUnsigned_of_agrees
    intro field kept
    exact same field (ReceiptField.mem_unsigned kept)
  exact Option.some.inj (readLeft.symm.trans readRight)

theorem SignedDecisionReceipt.eq_of_value {left right : SignedDecisionReceipt}
    (same : ∀ field ∈ ReceiptField.signed, left.value field = right.value field) :
    left = right := by
  have readLeft : readSigned left.value = some left := readSigned_of_agrees fun _ => rfl
  have readRight : readSigned left.value = some right := by
    apply readSigned_of_agrees
    intro field
    exact same field (ReceiptField.mem_signed field)
  exact Option.some.inj (readLeft.symm.trans readRight)

section Validation

variable (runtime : ReceiptRuntime)

theorem validateUnsignedDecisionReceipt_toJs (receipt : UnsignedDecisionReceipt) :
    validateUnsignedDecisionReceipt runtime receipt.toJs = .ok receipt := by
  have reads : readStrict ReceiptField.unsigned readUnsigned receipt.toJs = some receipt := by
    apply readStrict_record
    intro source agrees
    apply readUnsigned_of_agrees
    intro field kept
    exact agrees field (ReceiptField.mem_unsigned kept)
  rw [validateUnsignedDecisionReceipt, reads]

theorem validateUnsignedDecisionReceipt_fields {body : ReceiptBody} {receipt_id : JsString}
    {receipt : UnsignedDecisionReceipt}
    (validated : validateUnsignedDecisionReceipt runtime (body.toJsWithId receipt_id) =
      .ok receipt) : receipt.toReceiptBody = body ∧ receipt.receipt_id = receipt_id := by
  unfold validateUnsignedDecisionReceipt ReceiptBody.toJsWithId record at validated
  rw [readStrict, if_pos (keys_known _)] at validated
  have reads : ∀ field ∈ ReceiptField.unsigned, _ = body.valueWithId receipt_id field :=
    fun field isField => readEntry_record (body.valueWithId receipt_id) isField
  generalize readEntry _ = read at validated reads
  have bodyAgrees : ∀ field, field ≠ .receipt_id → field ≠ .receipt_signature →
      read field = body.value field := by
    intro field notId notSignature
    rw [reads field (ReceiptField.mem_unsigned notSignature)]
    cases field <;> first | rfl | contradiction
  have idRead := reads .receipt_id (ReceiptField.mem_unsigned (by decide))
  unfold readUnsigned at validated
  rw [idRead] at validated
  cases isBody : readBody read with
  | none => simp [isBody] at validated
  | some found =>
    obtain rfl := readBody_unique bodyAgrees isBody
    simp only [isBody, ReceiptBody.valueWithId, readString, Option.bind_eq_bind,
      Option.bind_some] at validated
    split at validated
    next found isFound =>
      obtain rfl := Except.ok.inj validated
      split at isFound
      · obtain rfl := Option.some.inj isFound
        exact ⟨rfl, rfl⟩
      · cases isFound
    next => cases validated

/-- A signed receipt passes the validation that builds it. -/
theorem validateSignedDecisionReceipt_toJs (receipt : SignedDecisionReceipt) :
    validateSignedDecisionReceipt runtime receipt.toJs = .ok receipt := by
  have reads : readStrict ReceiptField.signed readSigned receipt.toJs = some receipt := by
    apply readStrict_record
    intro source agrees
    apply readSigned_of_agrees
    intro field
    exact agrees field (ReceiptField.mem_signed field)
  rw [validateSignedDecisionReceipt, reads]

private theorem readSigned_of_empty {read : ReceiptField → JsValue}
    (isEmpty : read .receipt_signature = .string []) : readSigned read = none := by
  unfold readSigned
  rw [isEmpty]
  cases readUnsigned read <;> rfl

theorem validateSignedDecisionReceipt_fields {unsigned : UnsignedDecisionReceipt}
    {receipt_signature : JsString} {receipt : SignedDecisionReceipt}
    (validated : validateSignedDecisionReceipt runtime
      (unsigned.toJsWithSignature receipt_signature) = .ok receipt) :
    receipt.toUnsignedDecisionReceipt = unsigned ∧
      receipt.receipt_signature = receipt_signature := by
  by_cases isEmpty : receipt_signature = []
  · unfold validateSignedDecisionReceipt UnsignedDecisionReceipt.toJsWithSignature record at validated
    rw [readStrict, if_pos (keys_known _), readSigned_of_empty] at validated
    · cases validated
    · rw [readEntry_record _ (ReceiptField.mem_signed _), isEmpty]
      rfl
  · have sameValue : unsigned.valueWithSignature receipt_signature =
        (⟨unsigned, receipt_signature, isEmpty⟩ : SignedDecisionReceipt).value := by
      funext field
      cases field <;> rfl
    rw [UnsignedDecisionReceipt.toJsWithSignature, sameValue, ← SignedDecisionReceipt.toJs,
      validateSignedDecisionReceipt_toJs, Except.ok.injEq] at validated
    subst validated
    exact ⟨rfl, rfl⟩

end Validation

end GhostArk.EnforcementRuntime.Receipts
