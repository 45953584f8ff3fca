import GhostArk.Verifiers.NodeDecision

/-!
Contract: the field contract of the standalone verifier against the receipt schema.

Owns what acceptance of an object says of its members, the typed receipt behind
an accepted object, and when the object of a typed receipt is accepted.
-/

namespace GhostArk.Verifiers.NodeDecision

open Js ReceiptSchema EnforcementRuntime.Policy
open EnforcementRuntime.Receipts
open EnforcementRuntime.Receipts.V2 (isText isText_iff)
open Verifiers.NodeV2 (without)

theorem firstError_eq_none_iff {requirements : List Requirement} :
    firstError requirements = none ↔
      ∀ requirement ∈ requirements, requirement.isMet = true := by
  rw [firstError, Option.map_eq_none_iff, List.find?_eq_none]
  simp

/-- What the requirements say of the members. -/
structure ContractMet (dates : DateParser) (filled : ReceiptField → JsValue) : Prop where
  receipt_id : isText (isTaggedHex64 "grct_") (filled .receipt_id) = true
  tenant_id_hash : isText isDigest (filled .tenant_id_hash) = true
  user_id_hash : isText isDigest (filled .user_id_hash) = true
  session_id_hash : isText isDigest (filled .session_id_hash) = true
  input_digest : isText isDigest (filled .input_digest) = true
  execution_context_hash : isText isDigest (filled .execution_context_hash) = true
  policy_hash : isText isHex64 (filled .policy_hash) = true
  execution_nonce : isText isExecutionNonce (filled .execution_nonce) = true
  request_id : isText (· != []) (filled .request_id) = true
  model_id : isText (· != []) (filled .model_id) = true
  policy_version : isText (· != []) (filled .policy_version) = true
  timestamp : isText (isIsoUtcTimestamp dates) (filled .timestamp) = true
  decision_pre : isText DECISION_KINDS.contains (filled .decision_pre) = true
  decision_post : isText DECISION_KINDS.contains (filled .decision_post) = true
  consent_state : isText CONSENT_STATES.contains (filled .consent_state) = true
  memory_written : (readBool (filled .memory_written)).isSome = true
  retrieved_context_digests : isTextArray isDigest (filled .retrieved_context_digests) = true
  action_taken : isTextArray (· != []) (filled .action_taken) = true
  prev_receipt_hash : isNullOrText isReceiptHash (filled .prev_receipt_hash) = true
  risk_score : isUnitInterval (filled .risk_score) = true
  latency_ms : isNonNegativeSafeInteger (filled .latency_ms) = true
  cost_estimate_usd : isNonNegativeFinite (filled .cost_estimate_usd) = true
  signature_alg : isText SIGNATURE_ALGORITHMS.contains (filled .signature_alg) = true
  receipt_signature : isText (· != []) (filled .receipt_signature) = true

variable {dates : DateParser}

theorem requirements_met_iff {numbers : NumberText} {filled : ReceiptField → JsValue} :
    (∀ requirement ∈ requirements numbers dates filled, requirement.isMet = true) ↔
      ContractMet dates filled := by
  simp only [requirements, digestRequirement, textRequirement, List.map_cons, List.map_nil,
    List.cons_append, List.nil_append, List.forall_mem_cons, Bool.and_eq_true]
  constructor
  · rintro ⟨receiptId, tenant, user, session, input, context, policy, nonce, request, model,
      version, timestamp, ⟨pre, post⟩, consent, memory, contexts, actions, previous, risk, latency,
      cost, algorithm, signature, -⟩
    exact ⟨receiptId, tenant, user, session, input, context, policy, nonce, request, model,
      version, timestamp, pre, post, consent, memory, contexts, actions, previous, risk, latency,
      cost, algorithm, signature⟩
  · rintro ⟨receiptId, tenant, user, session, input, context, policy, nonce, request, model,
      version, timestamp, pre, post, consent, memory, contexts, actions, previous, risk, latency,
      cost, algorithm, signature⟩
    exact ⟨receiptId, tenant, user, session, input, context, policy, nonce, request, model,
      version, timestamp, ⟨pre, post⟩, consent, memory, contexts, actions, previous, risk, latency,
      cost, algorithm, signature, by simp⟩

/-! ### Typed members -/

variable {value : JsValue}

theorem isTextArray_iff {pattern : JsString → Bool} (shaped : value.isJson = true) :
    isTextArray pattern value = true ↔
      ∃ items, value = stringArray items ∧ items.all pattern = true := by
  constructor
  · intro accepted
    cases value with
    | array items =>
      rw [isJson_array_iff] at shaped
      rw [isTextArray] at accepted
      induction items with
      | nil => exact ⟨[], rfl, rfl⟩
      | cons item rest ih =>
        rw [List.forall_mem_cons] at shaped
        rw [List.all_cons, Bool.and_eq_true] at accepted
        rcases ih shaped.2 accepted.2 with ⟨texts, isRest, allTexts⟩
        have isItem : isText pattern item = true := by
          cases item with
          | hole => cases shaped.1
          | _ => exact accepted.1
        rcases isText_iff.mp isItem with ⟨text, rfl, fits⟩
        rw [stringArray, JsValue.array.injEq] at isRest
        refine ⟨text :: texts, ?_, ?_⟩
        · rw [stringArray, List.map_cons, isRest]
        · rw [List.all_cons, fits, allTexts]
          rfl
    | _ => cases accepted
  · rintro ⟨items, rfl, allTexts⟩
    rw [stringArray, isTextArray, List.all_map]
    simpa [isText, EnforcementRuntime.Receipts.readString] using allTexts

theorem isNullOrText_iff {pattern : JsString → Bool} :
    isNullOrText pattern value = true ↔
      ∃ hash : Option JsString, value = (hash.map JsValue.string).getD .null ∧
        hash.all pattern = true := by
  constructor
  · intro accepted
    cases value with
    | null => exact ⟨none, rfl, rfl⟩
    | string text =>
      have fits : pattern text = true := by
        simpa [isNullOrText, isText, EnforcementRuntime.Receipts.readString] using accepted
      exact ⟨some text, rfl, fits⟩
    | _ => cases accepted
  · rintro ⟨hash, rfl, fits⟩
    cases hash with
    | none => rfl
    | some text =>
      simpa [isNullOrText, isText, EnforcementRuntime.Receipts.readString] using fits

theorem isUnitInterval_iff :
    isUnitInterval value = true ↔
      ∃ number, value = .number number ∧ isNonNegative number = true ∧
        (JsNumber.ofNat 1).lt number = false := by
  cases value with
  | number number =>
    cases number <;> simp [isUnitInterval, isNonNegative, JsNumber.isFinite, JsNumber.ofNat,
      JsNumber.lt]
  | _ => simp [isUnitInterval]

theorem isNonNegativeFinite_iff :
    isNonNegativeFinite value = true ↔
      ∃ number, value = .number number ∧ isNonNegative number = true ∧
        number.isFinite = true := by
  cases value with
  | number number =>
    cases number <;> simp [isNonNegativeFinite, isNonNegative, JsNumber.isFinite,
      JsNumber.ofNat, JsNumber.lt]
  | _ => simp [isNonNegativeFinite]

theorem isNonNegativeSafeInteger_iff :
    isNonNegativeSafeInteger value = true ↔
      ∃ natural : Nat, value = .number (.ofNat natural) ∧ natural ≤ JsNumber.maxSafeInteger := by
  cases value with
  | number number =>
    rw [isNonNegativeSafeInteger, Option.isSome_iff_exists]
    constructor
    · rintro ⟨natural, isSafe⟩
      rcases JsNumber.eq_ofNat_of_safeNat? isSafe with ⟨rfl, small⟩
      exact ⟨natural, rfl, small⟩
    · rintro ⟨natural, same, small⟩
      obtain rfl := JsValue.number.inj same
      exact ⟨natural, JsNumber.safeNat?_ofNat small⟩
  | _ => simp [isNonNegativeSafeInteger]

theorem isConsentState_iff :
    isText CONSENT_STATES.contains value = true ↔
      ∃ state : ConsentState, value = .string state.text := by
  rw [isText_iff]
  constructor
  · rintro ⟨text, rfl, listed⟩
    have member : text ∈ consentStates.map ConsentState.text := List.contains_iff_mem.mp listed
    rcases List.mem_map.mp member with ⟨state, -, rfl⟩
    exact ⟨state, rfl⟩
  · rintro ⟨state, rfl⟩
    refine ⟨state.text, rfl, ?_⟩
    cases state <;> rfl

theorem isSignatureAlgorithm_iff :
    isText SIGNATURE_ALGORITHMS.contains value = true ↔
      ∃ algorithm : SignatureAlgorithm, value = .string algorithm.text := by
  rw [isText_iff]
  constructor
  · rintro ⟨text, rfl, listed⟩
    have member : text ∈ decisionReceiptSignatureAlgorithms.map SignatureAlgorithm.text :=
      List.contains_iff_mem.mp listed
    rcases List.mem_map.mp member with ⟨algorithm, -, rfl⟩
    exact ⟨algorithm, rfl⟩
  · rintro ⟨algorithm, rfl⟩
    refine ⟨algorithm.text, rfl, ?_⟩
    cases algorithm <;> rfl

/-- A text of the library's decision vocabulary. -/
def isDecisionKind (value : JsValue) : Bool :=
  isText (decisionVocabulary.map DecisionKind.text).contains value

theorem isDecisionKind_iff :
    isDecisionKind value = true ↔ ∃ kind : DecisionKind, value = .string kind.text := by
  rw [isDecisionKind, isText_iff]
  constructor
  · rintro ⟨text, rfl, listed⟩
    rcases List.mem_map.mp (List.contains_iff_mem.mp listed) with ⟨kind, -, rfl⟩
    exact ⟨kind, rfl⟩
  · rintro ⟨kind, rfl⟩
    refine ⟨kind.text, rfl, ?_⟩
    cases kind <;> rfl

/-! ### Typed receipts -/

private theorem latency_ofNat (natural : Nat) :
    (JsNumber.ofNat natural).isInteger = true ∧ isNonNegative (.ofNat natural) = true := by
  constructor
  · rw [JsNumber.ofNat, JsNumber.isInteger, decide_eq_true_eq]
    exact Rat.den_natCast natural
  · simp [isNonNegative, JsNumber.ofNat, JsNumber.lt]

/-- Members under the contract are those of a typed receipt, if its decisions and its timestamp
are the library's. -/
theorem exists_receipt {filled : ReceiptField → JsValue} (contract : ContractMet dates filled)
    (shaped : ∀ field, (filled field).isJson = true)
    (version : filled .schema_version = .string decisionReceiptSchemaVersion)
    (pre : isDecisionKind (filled .decision_pre) = true)
    (post : isDecisionKind (filled .decision_post) = true)
    (timestamp : isText isDatetime (filled .timestamp) = true) :
    ∃ receipt : SignedDecisionReceipt, (∀ field, filled field = receipt.value field) ∧
      receipt.cost_estimate_usd.isFinite = true := by
  rcases isText_iff.mp contract.receipt_id with ⟨receiptId, receiptIdEq, receiptIdShape⟩
  rcases isText_iff.mp contract.tenant_id_hash with ⟨tenant, tenantEq, tenantShape⟩
  rcases isText_iff.mp contract.user_id_hash with ⟨user, userEq, userShape⟩
  rcases isText_iff.mp contract.session_id_hash with ⟨session, sessionEq, sessionShape⟩
  rcases isText_iff.mp contract.input_digest with ⟨input, inputEq, inputShape⟩
  rcases isText_iff.mp contract.execution_context_hash with ⟨context, contextEq, contextShape⟩
  rcases isText_iff.mp contract.policy_hash with ⟨policy, policyEq, policyShape⟩
  rcases isText_iff.mp contract.execution_nonce with ⟨nonce, nonceEq, nonceShape⟩
  rcases isText_iff.mp contract.request_id with ⟨request, requestEq, requestNonempty⟩
  rcases isText_iff.mp contract.model_id with ⟨model, modelEq, modelNonempty⟩
  rcases isText_iff.mp contract.policy_version with ⟨policyVersion, versionEq, versionNonempty⟩
  rcases isText_iff.mp contract.receipt_signature with ⟨signature, signatureEq, signatureNonempty⟩
  rcases isText_iff.mp timestamp with ⟨time, timeEq, timeShape⟩
  rcases isDecisionKind_iff.mp pre with ⟨preKind, preEq⟩
  rcases isDecisionKind_iff.mp post with ⟨postKind, postEq⟩
  rcases isConsentState_iff.mp contract.consent_state with ⟨consent, consentEq⟩
  rcases isSignatureAlgorithm_iff.mp contract.signature_alg with ⟨algorithm, algorithmEq⟩
  rcases (isTextArray_iff (shaped _)).mp contract.retrieved_context_digests with
    ⟨contexts, contextsEq, contextsShape⟩
  rcases (isTextArray_iff (shaped _)).mp contract.action_taken with
    ⟨actions, actionsEq, actionsNonempty⟩
  rcases isNullOrText_iff.mp contract.prev_receipt_hash with ⟨previous, previousEq, previousShape⟩
  rcases isUnitInterval_iff.mp contract.risk_score with ⟨risk, riskEq, riskLow, riskHigh⟩
  rcases isNonNegativeSafeInteger_iff.mp contract.latency_ms with ⟨latency, latencyEq, -⟩
  rcases isNonNegativeFinite_iff.mp contract.cost_estimate_usd with ⟨cost, costEq, costLow, finite⟩
  have memoryIs : ∃ memory, filled .memory_written = .bool memory := by
    have isBool := contract.memory_written
    cases found : filled .memory_written with
    | bool memory => exact ⟨memory, rfl⟩
    | _ =>
      rw [found] at isBool
      cases isBool
  rcases memoryIs with ⟨memory, memoryEq⟩
  let body : ReceiptBody := {
    request_id := request
    tenant_id_hash := tenant
    user_id_hash := user
    session_id_hash := session
    timestamp := time
    model_id := model
    policy_version := policyVersion
    policy_hash := policy
    input_digest := input
    retrieved_context_digests := contexts
    execution_context_hash := context
    execution_nonce := nonce
    decision_pre := preKind
    decision_post := postKind
    action_taken := actions
    risk_score := risk
    consent_state := consent
    memory_written := memory
    latency_ms := .ofNat latency
    cost_estimate_usd := cost
    prev_receipt_hash := previous
    signature_alg := algorithm }
  have valid : body.isValid = true := by
    simp only [ReceiptBody.isValid, body, requestNonempty, tenantShape, userShape, sessionShape,
      timeShape, modelNonempty, versionNonempty, policyShape, inputShape, contextsShape,
      contextShape, nonceShape, actionsNonempty, riskLow, riskHigh, (latency_ofNat latency).1,
      (latency_ofNat latency).2, costLow, previousShape]
    rfl
  refine ⟨⟨⟨body, receiptId, valid, receiptIdShape⟩, signature, bne_iff_ne.mp signatureNonempty⟩,
    ?_, finite⟩
  intro field
  cases field <;> assumption

def isSharedKind : DecisionKind → Bool
  | .ALLOW => true
  | .REDACT => true
  | .REFUSE => true
  | .ESCALATE => true
  | _ => false

theorem isText_decisionKinds (kind : DecisionKind) :
    isText DECISION_KINDS.contains (.string kind.text) = isSharedKind kind := by
  cases kind <;> rfl

theorem contractMet_value {receipt : SignedDecisionReceipt}
    (finite : receipt.cost_estimate_usd.isFinite = true) :
    ContractMet dates receipt.value ↔
      isIsoUtcTimestamp dates receipt.timestamp = true ∧
        isSharedKind receipt.decision_pre = true ∧ isSharedKind receipt.decision_post = true ∧
        receipt.latency_ms.safeNat?.isSome = true := by
  have valid := receipt.validBody
  simp only [ReceiptBody.isValid, Bool.and_eq_true, Bool.not_eq_true'] at valid
  rcases valid with ⟨⟨⟨⟨⟨⟨⟨⟨⟨⟨⟨⟨⟨⟨⟨⟨⟨⟨request, tenant⟩, user⟩, session⟩, -⟩, model⟩, version⟩, policy⟩,
    input⟩, contexts⟩, context⟩, nonce⟩, actions⟩, riskLow⟩, riskHigh⟩, -⟩, -⟩, cost⟩, previous⟩
  have shaped (items : List JsString) : (stringArray items).isJson = true := by
    rw [stringArray, isJson_array_iff]
    intro item member
    rcases List.mem_map.mp member with ⟨text, -, rfl⟩
    rfl
  constructor
  · intro contract
    have pre := contract.decision_pre
    have post := contract.decision_post
    exact ⟨contract.timestamp, (isText_decisionKinds _).symm.trans pre,
      (isText_decisionKinds _).symm.trans post, contract.latency_ms⟩
  · rintro ⟨timestamp, pre, post, latency⟩
    exact {
      receipt_id := receipt.receiptIdShape
      tenant_id_hash := tenant
      user_id_hash := user
      session_id_hash := session
      input_digest := input
      execution_context_hash := context
      policy_hash := policy
      execution_nonce := nonce
      request_id := request
      model_id := model
      policy_version := version
      timestamp := timestamp
      decision_pre := (isText_decisionKinds _).trans pre
      decision_post := (isText_decisionKinds _).trans post
      consent_state := isConsentState_iff.mpr ⟨receipt.consent_state, rfl⟩
      memory_written := rfl
      retrieved_context_digests := (isTextArray_iff (shaped _)).mpr ⟨_, rfl, contexts⟩
      action_taken := (isTextArray_iff (shaped _)).mpr ⟨_, rfl, actions⟩
      prev_receipt_hash := isNullOrText_iff.mpr ⟨receipt.prev_receipt_hash, rfl, previous⟩
      risk_score := isUnitInterval_iff.mpr ⟨receipt.risk_score, rfl, riskLow, riskHigh⟩
      latency_ms := latency
      cost_estimate_usd :=
        isNonNegativeFinite_iff.mpr ⟨receipt.cost_estimate_usd, rfl, cost, finite⟩
      signature_alg := isSignatureAlgorithm_iff.mpr ⟨receipt.signature_alg, rfl⟩
      receipt_signature := bne_iff_ne.mpr receipt.signatureNonempty }

variable {members : Members} {field : ReceiptField}

theorem readEntry_of_mem (distinct : (members.map Prod.fst).Nodup)
    (member : (field.text, value) ∈ members) : readEntry members field = value := by
  unfold readEntry
  cases found : members.find? fun entry => entry.1 = field.text with
  | none =>
    rw [List.find?_eq_none] at found
    exact absurd (decide_eq_true rfl) (found _ member)
  | some entry =>
    have isKey : entry.1 = field.text := by simpa using List.find?_some found
    have same := List.inj_on_of_nodup_map distinct (List.mem_of_find?_eq_some found) member isKey
    rw [same]
    rfl

theorem hasOwnField_iff :
    hasOwnField members field = true ↔ ∃ value, (field.text, value) ∈ members := by
  rw [hasOwnField, List.contains_iff_mem, List.mem_map]
  constructor
  · rintro ⟨⟨key, value⟩, member, rfl⟩
    exact ⟨value, member⟩
  · rintro ⟨value, member⟩
    exact ⟨_, member, rfl⟩

theorem readEntry_of_not_hasOwnField (absent : hasOwnField members field = false) :
    readEntry members field = .undefined := by
  have notFound : members.find? (fun entry => entry.1 = field.text) = none := by
    rw [List.find?_eq_none]
    rintro ⟨key, value⟩ member isKey
    rw [decide_eq_true_eq] at isKey
    rw [hasOwnField_iff.mpr ⟨value, isKey ▸ member⟩] at absent
    cases absent
  rw [readEntry, notFound]
  rfl

theorem perm_record {value : ReceiptField → JsValue} (distinct : (members.map Prod.fst).Nodup)
    (known : ∀ entry ∈ members, ∃ field : ReceiptField, entry.1 = field.text)
    (complete : ∀ field, hasOwnField members field = true)
    (agrees : ∀ field, readEntry members field = value field) :
    members.Perm (ReceiptField.signed.map fun field => (field.text, value field)) := by
  have keysDistinct : ((ReceiptField.signed.map fun field =>
      (field.text, value field)).map Prod.fst).Nodup := by
    rw [List.map_map]
    exact ReceiptField.nodup_text
  rw [List.perm_ext_iff_of_nodup (.of_map _ distinct) (.of_map _ keysDistinct)]
  rintro ⟨key, found⟩
  rw [List.mem_map]
  constructor
  · intro member
    rcases known _ member with ⟨field, isField⟩
    dsimp only at isField
    subst isField
    refine ⟨field, field.mem_signed, ?_⟩
    rw [← agrees, readEntry_of_mem distinct member]
  · rintro ⟨field, -, same⟩
    rcases hasOwnField_iff.mp (complete field) with ⟨held, member⟩
    rw [← same, ← agrees, readEntry_of_mem distinct member]
    exact member

/-! ### Defaults -/

def addedDefaults (members : Members) : Members :=
  (DECISION_DEFAULTS.filter fun entry => !hasOwnField members entry.1).map
    fun entry => (entry.1.text, entry.2)

private theorem mem_addedDefaults {key : JsString} :
    (key, value) ∈ addedDefaults members ↔ ∃ field, (field, value) ∈ DECISION_DEFAULTS ∧
      hasOwnField members field = false ∧ key = field.text := by
  rw [addedDefaults, List.mem_map]
  constructor
  · rintro ⟨⟨field, default⟩, member, same⟩
    rw [List.mem_filter, Bool.not_eq_true'] at member
    obtain ⟨rfl, rfl⟩ := Prod.mk.inj same
    exact ⟨field, member.1, member.2, rfl⟩
  · rintro ⟨field, listed, absent, rfl⟩
    exact ⟨(field, value), by simp [listed, absent], rfl⟩

theorem fillDefaults_eq (members : Members) :
    fillDefaults members = members ++ addedDefaults members := rfl

section Distinct

variable (distinct : (members.map Prod.fst).Nodup)
include distinct

theorem nodup_fillDefaults : ((fillDefaults members).map Prod.fst).Nodup := by
  rw [fillDefaults_eq, List.map_append, List.nodup_append']
  refine ⟨distinct, ?_, ?_⟩
  · have kept : (addedDefaults members).map Prod.fst =
        ((DECISION_DEFAULTS.filter fun entry => !hasOwnField members entry.1).map
          Prod.fst).map ReceiptField.text := by
      rw [addedDefaults, List.map_map, List.map_map]
      rfl
    have listed : (DECISION_DEFAULTS.map Prod.fst).Nodup := by decide
    rw [kept]
    exact ReceiptField.nodup_texts (listed.sublist (List.filter_sublist.map _))
  · intro key inMembers inDefaults
    rcases List.mem_map.mp inMembers with ⟨⟨_, held⟩, member, rfl⟩
    rcases List.mem_map.mp inDefaults with ⟨⟨_, value⟩, added, same⟩
    rcases mem_addedDefaults.mp added with ⟨field, -, absent, isField⟩
    dsimp only at same isField
    rw [hasOwnField_iff.mpr ⟨held, by rw [← isField, same]; exact member⟩] at absent
    cases absent

theorem readEntry_fillDefaults_of_hasOwnField (present : hasOwnField members field = true) :
    readEntry (fillDefaults members) field = readEntry members field := by
  rcases hasOwnField_iff.mp present with ⟨value, member⟩
  rw [readEntry_of_mem distinct member]
  exact readEntry_of_mem (nodup_fillDefaults distinct) (List.mem_append_left _ member)

theorem readEntry_fillDefaults_of_default {default : JsValue}
    (listed : (field, default) ∈ DECISION_DEFAULTS)
    (absent : hasOwnField members field = false) :
    readEntry (fillDefaults members) field = default := by
  apply readEntry_of_mem (nodup_fillDefaults distinct)
  exact List.mem_append_right _ (mem_addedDefaults.mpr ⟨field, listed, absent, rfl⟩)

theorem readSigned_fillDefaults
    (present : ∀ field ∈ DECISION_REQUIRED_FIELDS ++ [ReceiptField.receipt_signature],
      hasOwnField members field = true) :
    readSigned (readEntry members) = readSigned (readEntry (fillDefaults members)) := by
  have same : ∀ field ∈ DECISION_REQUIRED_FIELDS ++ [ReceiptField.receipt_signature],
      readEntry members field = readEntry (fillDefaults members) field := by
    intro field required
    exact (readEntry_fillDefaults_of_hasOwnField distinct (present field required)).symm
  have reads {α : Type} (read : JsValue → Option α) (field : ReceiptField) (default : JsValue)
      (listed : (field, default) ∈ DECISION_DEFAULTS) (isDefault : read .undefined = read default) :
      read (readEntry members field) = read (readEntry (fillDefaults members) field) := by
    cases own : hasOwnField members field with
    | true => rw [readEntry_fillDefaults_of_hasOwnField distinct own]
    | false =>
      rw [readEntry_fillDefaults_of_default distinct listed own,
        readEntry_of_not_hasOwnField own, isDefault]
  have contexts :=
    reads readStrings .retrieved_context_digests (.array []) (by simp [DECISION_DEFAULTS]) rfl
  have actions := reads readStrings .action_taken (.array []) (by simp [DECISION_DEFAULTS]) rfl
  have previous := reads readNullable .prev_receipt_hash .null (by simp [DECISION_DEFAULTS]) rfl
  simp only [DECISION_REQUIRED_FIELDS, List.cons_append, List.nil_append, List.forall_mem_cons]
    at same
  rcases same with ⟨version, receiptId, request, tenant, user, session, timestamp, model, policy,
    policyHash, input, context, nonce, pre, post, risk, consent, memory, latency, cost, algorithm,
    signature, -⟩
  unfold readSigned readUnsigned readBody
  rw [version, receiptId, request, tenant, user, session, timestamp, model, policy, policyHash,
    input, context, nonce, pre, post, risk, consent, memory, latency, cost, algorithm, signature,
    contexts, actions, previous]

end Distinct

/-! ### Admission -/

/-- An object that the field contract admits. -/
structure Admitted (dates : DateParser) (members : Members) : Prop where
  version : readEntry members .schema_version = .string decisionReceiptSchemaVersion
  known : ∀ entry ∈ members, ∃ field : ReceiptField, entry.1 = field.text
  present : ∀ field ∈ DECISION_REQUIRED_FIELDS ++ [ReceiptField.receipt_signature],
    hasOwnField members field = true
  contract : ContractMet dates (readEntry (fillDefaults members))

private theorem unknownFields_eq_nil_iff :
    unknownFields members = [] ↔ ∀ entry ∈ members, ∃ field : ReceiptField, entry.1 = field.text := by
  have sorted : unknownFields members = [] ↔ (members.map Prod.fst).filter (fun key =>
      !(DECISION_ALL_FIELDS.map ReceiptField.text).contains key) = [] := by
    rw [← List.length_eq_zero_iff, unknownFields, sortStrings,
      (List.perm_insertionSort _ _).length_eq, List.length_eq_zero_iff]
  have listed : ∀ field, field ∈ DECISION_ALL_FIELDS := by
    intro field
    cases field <;> decide
  rw [sorted, List.filter_eq_nil_iff, List.forall_mem_map]
  apply forall₂_congr
  intro entry _
  rw [Bool.not_eq_true', Bool.not_eq_false, List.contains_iff_mem, List.mem_map]
  constructor
  · rintro ⟨field, -, isField⟩
    exact ⟨field, isField.symm⟩
  · rintro ⟨field, isField⟩
    exact ⟨field, listed field, isField.symm⟩

private theorem missingFields_eq_nil_iff :
    missingFields members = [] ↔
      ∀ field ∈ DECISION_REQUIRED_FIELDS ++ [ReceiptField.receipt_signature],
        hasOwnField members field = true := by
  rw [missingFields, List.map_eq_nil_iff, List.filter_eq_nil_iff]
  simp only [Bool.not_eq_true', Bool.not_eq_false]

theorem validateDecisionReceipt_eq_ok_iff {numbers : NumberText} {filled : Members} :
    validateDecisionReceipt numbers dates value = .ok filled ↔
      ∃ members, recordEntries value = some members ∧ Admitted dates members ∧
        fillDefaults members = filled := by
  unfold validateDecisionReceipt
  cases recordEntries value with
  | none => simp
  | some members =>
    simp only [Option.some.injEq, exists_eq_left']
    by_cases version : readString (readEntry members .schema_version) =
        some DECISION_SCHEMA_VERSION
    swap
    · rw [if_pos version]
      refine iff_of_false (fun returned => by cases returned) ?_
      rintro ⟨admitted, -⟩
      exact version (readString_eq_some_iff.mpr admitted.version)
    rw [if_neg (not_not.mpr version)]
    by_cases known : unknownFields members = []
    swap
    · rw [if_pos known]
      refine iff_of_false (fun returned => by cases returned) ?_
      rintro ⟨admitted, -⟩
      exact known (unknownFields_eq_nil_iff.mpr admitted.known)
    rw [if_neg (not_not.mpr known)]
    by_cases present : missingFields members = []
    swap
    · rw [if_pos present]
      refine iff_of_false (fun returned => by cases returned) ?_
      rintro ⟨admitted, -⟩
      exact present (missingFields_eq_nil_iff.mpr admitted.present)
    rw [if_neg (not_not.mpr present)]
    cases first : firstError (requirements numbers dates (readEntry (fillDefaults members))) with
    | some error =>
      refine iff_of_false (fun returned => by cases returned) ?_
      rintro ⟨admitted, -⟩
      rw [firstError_eq_none_iff.mpr (requirements_met_iff.mpr admitted.contract)] at first
      cases first
    | none =>
      have contract := requirements_met_iff.mp (firstError_eq_none_iff.mp first)
      rw [Except.ok.injEq]
      refine ⟨fun same => ⟨?_, same⟩, fun both => both.2⟩
      exact ⟨readString_eq_some_iff.mp version, unknownFields_eq_nil_iff.mp known,
        missingFields_eq_nil_iff.mp present, contract⟩

namespace Admitted

variable {dates : DateParser} {members : Members} (admitted : Admitted dates members)

include admitted

theorem complete (field : ReceiptField) : hasOwnField (fillDefaults members) field = true := by
  cases own : hasOwnField members field with
  | true =>
    rcases hasOwnField_iff.mp own with ⟨value, member⟩
    exact hasOwnField_iff.mpr ⟨value, List.mem_append_left _ member⟩
  | false =>
    have covered : field ∈ DECISION_REQUIRED_FIELDS ++ [ReceiptField.receipt_signature] ∨
        ∃ default, (field, default) ∈ DECISION_DEFAULTS := by
      cases field <;> simp [DECISION_REQUIRED_FIELDS, DECISION_DEFAULTS]
    rcases covered with required | ⟨default, listed⟩
    · rw [admitted.present field required] at own
      cases own
    · apply hasOwnField_iff.mpr
      exact ⟨default, List.mem_append_right _ (mem_addedDefaults.mpr ⟨field, listed, own, rfl⟩)⟩

theorem known_fillDefaults :
    ∀ entry ∈ fillDefaults members, ∃ field : ReceiptField, entry.1 = field.text := by
  intro entry member
  rcases List.mem_append.mp member with own | added
  · exact admitted.known entry own
  · rcases mem_addedDefaults.mp added with ⟨field, -, -, isField⟩
    exact ⟨field, isField⟩

omit admitted in
private theorem isJson_fillDefaults (shaped : ∀ entry ∈ members, entry.2.isJson = true) :
    ∀ entry ∈ fillDefaults members, entry.2.isJson = true := by
  intro entry member
  rcases List.mem_append.mp member with own | added
  · exact shaped entry own
  · rcases mem_addedDefaults.mp added with ⟨field, listed, -, -⟩
    simp only [DECISION_DEFAULTS, List.mem_cons, Prod.mk.injEq, List.not_mem_nil, or_false]
      at listed
    rcases listed with ⟨-, isDefault⟩ | ⟨-, isDefault⟩ | ⟨-, isDefault⟩
    all_goals
      rw [isDefault]
      rfl

theorem isJson_readEntry (shaped : (JsValue.object members).isJson = true)
    (field : ReceiptField) : (readEntry (fillDefaults members) field).isJson = true := by
  rw [isJson_object_iff] at shaped
  rcases hasOwnField_iff.mp (admitted.complete field) with ⟨value, member⟩
  rw [readEntry_of_mem (nodup_fillDefaults shaped.2) member]
  exact isJson_fillDefaults shaped.1 _ member

theorem perm_signed (distinct : (members.map Prod.fst).Nodup) {receipt : SignedDecisionReceipt}
    (agrees : ∀ field, readEntry (fillDefaults members) field = receipt.value field) :
    (fillDefaults members).Perm
      (ReceiptField.signed.map fun field => (field.text, receipt.value field)) :=
  perm_record (nodup_fillDefaults distinct) admitted.known_fillDefaults admitted.complete agrees

end Admitted

private theorem without_map (removed : ReceiptField) (fields : List ReceiptField)
    (value : ReceiptField → JsValue) :
    without removed.text (fields.map fun field => (field.text, value field)) =
      (fields.filter (· ≠ removed)).map fun field => (field.text, value field) := by
  rw [without, List.filter_map]
  congr 1
  apply List.filter_congr
  intro field _
  simp [ReceiptField.text_injective.eq_iff]

theorem canonicalTexts_eq {runtime : NodeRuntime} {filled : Members}
    {receipt : SignedDecisionReceipt} (finite : receipt.cost_estimate_usd.isFinite = true)
    (permuted : filled.Perm
      (ReceiptField.signed.map fun field => (field.text, receipt.value field))) :
    canonicalTexts runtime filled = do
      let canonicalPayload ← canonicalUnsignedDecisionReceipt runtime.toReceiptRuntime
        receipt.toUnsignedDecisionReceipt
      let canonicalIdentity ← ReceiptSchema.canonicalize runtime.numbers
        (record ReceiptField.text ReceiptField.identity receipt.toReceiptBody.value)
      return (canonicalPayload, canonicalIdentity) := by
  have serializer := canonicalSerializer runtime.numbers
  have unsignedFields : ReceiptField.signed.filter (· ≠ .receipt_signature) =
      ReceiptField.unsigned := by decide
  have identityFields : ReceiptField.unsigned.filter (· ≠ .receipt_id) =
      ReceiptField.identity := by decide
  have unsigned : (without ReceiptField.receipt_signature.text filled).Perm
      (ReceiptField.unsigned.map fun field =>
        (field.text, receipt.toUnsignedDecisionReceipt.value field)) := by
    have removed := permuted.filter fun entry => entry.1 ≠ ReceiptField.receipt_signature.text
    have textsEq := without_map .receipt_signature ReceiptField.signed receipt.value
    rw [without] at textsEq
    rw [textsEq, unsignedFields] at removed
    have sameValues : ∀ field ∈ ReceiptField.unsigned,
        (field.text, receipt.value field) =
          (field.text, receipt.toUnsignedDecisionReceipt.value field) := by
      intro field isField
      rw [receipt.value_of_ne]
      rintro rfl
      revert isField
      decide
    rw [List.map_congr_left sameValues] at removed
    exact removed
  have identity : (without ReceiptField.receipt_id.text
      (without ReceiptField.receipt_signature.text filled)).Perm
      (ReceiptField.identity.map fun field => (field.text, receipt.toReceiptBody.value field)) := by
    have removed := unsigned.filter fun entry => entry.1 ≠ ReceiptField.receipt_id.text
    have textsEq := without_map .receipt_id ReceiptField.unsigned
      receipt.toUnsignedDecisionReceipt.value
    rw [without] at textsEq
    rw [textsEq, identityFields] at removed
    have sameValues : ∀ field ∈ ReceiptField.identity,
        (field.text, receipt.toUnsignedDecisionReceipt.value field) =
          (field.text, receipt.toReceiptBody.value field) := by
      intro field isField
      rw [UnsignedDecisionReceipt.value_of_ne]
      rintro rfl
      revert isField
      decide
    rw [List.map_congr_left sameValues] at removed
    exact removed
  have unsignedShaped := @isJson_unsigned receipt.toUnsignedDecisionReceipt finite
  have identityShaped : (record ReceiptField.text ReceiptField.identity
      receipt.toReceiptBody.value).isJson = true :=
        @isJson_identity receipt.toUnsignedDecisionReceipt finite
  rw [canonicalTexts, serializer.eq_canonicalize_of_perm unsigned unsignedShaped,
    serializer.eq_canonicalize_of_perm identity identityShaped,
    canonicalUnsignedDecisionReceipt_eq]
  rfl

end GhostArk.Verifiers.NodeDecision
