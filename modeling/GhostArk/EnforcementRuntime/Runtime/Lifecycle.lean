import GhostArk.EnforcementRuntime.Identity.Context
import GhostArk.EnforcementRuntime.Retrieval.Filter
import GhostArk.EnforcementRuntime.Runtime.ExecutionContext
import GhostArk.EnforcementRuntime.Vault.Store
import GhostArk.Lib.Interaction

/-!
Contract: `packages/enforcement-runtime/src/runtime`: `lifecycle.ts`, `result.ts`, `metrics.ts` and
`errors.ts`; `bedrock/modelAllowlist.ts` and `bedrock/types.ts`.

Owns requests, results, the configuration of the dependencies, the calls that
are made to them with the type of their replies, and the helpers that classify
decisions and redact output.

A thrown value that is no `Error` stands here as an error whose message is the
text `String` gives it.
-/

namespace GhostArk.EnforcementRuntime.Runtime

open Js ReceiptSchema Policy
open Receipts Retrieval
open Vault Identity Lib

structure RequestAuth where
  tenantId : JsString
  userId : JsString
  role : Option JsString
  sessionId : Option JsString
  requestId : Option JsString
  source : IdentitySource
deriving DecidableEq, Repr

structure RequestModel where
  modelId : JsString
  temperature : Option JsNumber
  maxTokens : Option JsNumber
deriving DecidableEq, Repr

structure RequestInput where
  text : JsString
  contentDigest : Option JsString
deriving DecidableEq, Repr

structure RequestRetrieval where
  enabled : Bool
  contexts : Option (List RetrievedContextCandidate)
deriving DecidableEq, Repr

structure GovernedInvokeRequest where
  pathTenantId : JsString
  body : JsValue
  auth : RequestAuth
  model : RequestModel
  input : RequestInput
  retrieval : Option RequestRetrieval
  memoryWrite : Option RequestedMemoryWrite
  consentState : Option ConsentState
  executionNonce : Option JsString
  now : Option JsString

/-- `request.consentState ?? "missing"`. -/
def GovernedInvokeRequest.consent (request : GovernedInvokeRequest) : ConsentState :=
  request.consentState.getD .missing

inductive GovernedInvokeStatus where
  | completed
  | refused_pre_model
  | refused_post_model
  | requires_consent
  | escalated
  | human_review
  | failed_closed
deriving DecidableEq, Repr

structure MemoryReport where
  attempted : Bool
  written : Bool
  reason : JsString
deriving DecidableEq, Repr

/-- `receipt` and `receiptV2` of a result. -/
structure ReceiptReport where
  attempted : Bool
  emitted : Bool
  receiptId : Option JsString
  failureReason : Option JsString
deriving DecidableEq, Repr

structure DecisionSummary where
  preRetrieval : Option PhaseDecision
  preModel : PhaseDecision
  postModel : Option PhaseDecision
  memoryWrite : Option PhaseDecision
deriving DecidableEq, Repr

/-- A result, less its constant schema version. -/
structure GovernedInvokeResult where
  requestId : JsString
  tenantIdHash : JsString
  userIdHash : JsString
  modelId : JsString
  status : GovernedInvokeStatus
  responseText : Option JsString
  redacted : Option Bool
  decisionSummary : DecisionSummary
  memory : MemoryReport
  receipt : ReceiptReport
  receiptV2 : Option ReceiptReport
  errors : List JsString
deriving DecidableEq, Repr

inductive GovernedInvokeMetricName where
  | GovernedInvokeCompleted
  | GovernedInvokeFailedClosed
  | GovernedInvokeReceiptEmissionFailed
  | GovernedInvokePolicyLoadFailed
  | GovernedInvokeKmsSigningFailed
  | GovernedInvokeCrossTenantRetrievalBlocked
  | GovernedInvokeBedrockFailed
  | GovernedInvokeMemorySuppressed
deriving DecidableEq, Repr

def GovernedInvokeMetricName.text : GovernedInvokeMetricName → JsString
  | .GovernedInvokeCompleted => js "GovernedInvokeCompleted"
  | .GovernedInvokeFailedClosed => js "GovernedInvokeFailedClosed"
  | .GovernedInvokeReceiptEmissionFailed => js "GovernedInvokeReceiptEmissionFailed"
  | .GovernedInvokePolicyLoadFailed => js "GovernedInvokePolicyLoadFailed"
  | .GovernedInvokeKmsSigningFailed => js "GovernedInvokeKmsSigningFailed"
  | .GovernedInvokeCrossTenantRetrievalBlocked => js "GovernedInvokeCrossTenantRetrievalBlocked"
  | .GovernedInvokeBedrockFailed => js "GovernedInvokeBedrockFailed"
  | .GovernedInvokeMemorySuppressed => js "GovernedInvokeMemorySuppressed"

structure GovernedInvokeMetric where
  name : GovernedInvokeMetricName
  stage : JsString
  status : GovernedInvokeStatus
  modelId : Option JsString
deriving DecidableEq, Repr

/-- The replacement takes whole code points: the two halves of a pair give one `_`. -/
def metricUnits : JsString → JsString
  | [] => []
  | [single] =>
    if isAlphanumeric single || (js "_.:-").contains single then [single] else js "_"
  | first :: second :: rest =>
    if isHighSurrogate first && isLowSurrogate second then unit '_' :: metricUnits rest
    else if isAlphanumeric first || (js "_.:-").contains first then
      first :: metricUnits (second :: rest)
    else unit '_' :: metricUnits (second :: rest)

def normalizeModelIdForMetric (modelId : JsString) : Option JsString :=
  if modelId = [] then none else some ((metricUnits modelId).take 128)

/-! ### Dependencies -/

structure RetrievalOptions where
  rejectCallerSuppliedContexts : Option Bool
  requireProviderWhenEnabled : Option Bool
  allowTaintedDigestOnly : Option Bool
deriving DecidableEq, Repr

/-- Which optional dependencies are configured, and the plain data among them. -/
structure GovernedInvokeDependencies where
  hasLogger : Bool
  identityDigestSecret : Option JsString
  modelAllowlist : Option (List JsString)
  hasRetrievalProvider : Bool
  retrievalOptions : Option RetrievalOptions
  hasMetrics : Bool
  stage : Option JsString
  hasExecutionNonceStore : Bool
  hasReceiptEmitterV2 : Bool
  hasTransitLedger : Bool
deriving DecidableEq, Repr

inductive LogLevel where
  | warn
  | error
deriving DecidableEq, Repr

structure PolicyRepositoryLoadInput where
  tenantId : JsString
  userId : JsString
  role : Option JsString
deriving DecidableEq, Repr

structure RetrievalInput where
  tenantId : JsString
  userId : JsString
  queryText : JsString
  requestId : JsString
deriving DecidableEq, Repr

structure ModelInvokeInput where
  modelId : JsString
  prompt : JsString
  temperature : Option JsNumber
  maxTokens : Option JsNumber
  requestId : JsString
deriving DecidableEq, Repr

structure ModelInvokeOutput where
  outputText : JsString
  latencyMs : JsNumber
  costEstimateUsd : Option JsNumber
deriving DecidableEq, Repr

inductive ProvenanceClass where
  | AGENT_ASSERTED
  | GATEWAY_RECORDED
  | SOURCE_SIGNED
  | CROSS_WITNESSED
  | EXTERNALLY_ATTESTED
deriving DecidableEq, Repr

structure TransitRecord where
  sequenceNum : Nat
  toolName : JsString
  requestDigest : JsString
  responseDigest : JsString
  provenanceClass : ProvenanceClass
deriving DecidableEq, Repr

structure DecisionReceiptV2TraceEntry where
  sequence_num : Nat
  tool_name : JsString
  request_payload_digest : JsString
  response_payload_digest : JsString
  provenance_class : ProvenanceClass
deriving DecidableEq, Repr

def executionTraceFromTransitRecords (records : List TransitRecord) :
    List DecisionReceiptV2TraceEntry :=
  (records.insertionSort fun left right => left.sequenceNum ≤ right.sequenceNum).map fun record =>
    ⟨record.sequenceNum, record.toolName, record.requestDigest, record.responseDigest,
      record.provenanceClass⟩

/-- The input of the second layer: that of the first one, with the execution trace. -/
structure DecisionReceiptV2EmissionInput extends DecisionReceiptEmissionInput where
  executionTrace : List DecisionReceiptV2TraceEntry
deriving DecidableEq, Repr

/-- What the runtime reads of a receipt of the second layer. -/
structure SignedDecisionReceiptV2 where
  receipt_id : JsString
deriving DecidableEq, Repr

/-- Everything `governedInvoke` asks of its dependencies and of the clock. -/
inductive DependencyCall where
  | currentTime
  | log (level : LogLevel) (message : JsString) (fields : List (JsString × JsValue))
  | emitMetric (metric : GovernedInvokeMetric)
  | loadPolicies (input : PolicyRepositoryLoadInput)
  | retrieve (input : RetrievalInput)
  | reserve (input : ExecutionNonceReservation)
  | invoke (input : ModelInvokeInput)
  | write (request : MemoryWriteRequest) (decision : PhaseDecision) (consentState : ConsentState)
  | emit (input : DecisionReceiptEmissionInput)
  | transitRecords
  | emitV2 (input : DecisionReceiptV2EmissionInput)

/-- What a call can give back: a value, or a thrown error where the call can throw. -/
abbrev Reply : DependencyCall → Type
  | .currentTime => JsString
  | .log _ _ _ => Except JsError Unit
  | .emitMetric _ => Except JsError Unit
  | .loadPolicies _ => Except JsError (List JsValue)
  | .retrieve _ => Except JsError (List RetrievedContextCandidate)
  | .reserve _ => Except JsError ReservationStatus
  | .invoke _ => Except JsError ModelInvokeOutput
  | .write _ _ _ => Except JsError MemoryWriteResult
  | .emit _ => Except JsError SignedDecisionReceipt
  | .transitRecords => Except JsError (List TransitRecord)
  | .emitV2 _ => Except JsError SignedDecisionReceiptV2

instance (call : DependencyCall) : Nonempty (Reply call) := by
  cases call with
  | currentTime => exact ⟨([] : JsString)⟩
  | _ => exact ⟨Except.error (.plain [])⟩

/-- The exchanges of a run. -/
abbrev Trace := List (Exchange Reply)

def isModelInvocationAllowed (decision : PhaseDecision) : Bool :=
  [DecisionKind.ALLOW, .RECEIPT_ONLY, .MODIFY].contains decision.decision

def isMemoryWriteAllowed (decision : PhaseDecision) : Bool :=
  [DecisionKind.ALLOW, .RECEIPT_ONLY, .MODIFY, .REDACT].contains decision.decision

def statusForBlockingDecision (decision : DecisionKind) (fallback : GovernedInvokeStatus) :
    GovernedInvokeStatus :=
  match decision with
  | .REQUIRE_CONSENT => .requires_consent
  | .ESCALATE => .escalated
  | .HUMAN_REVIEW => .human_review
  | .REFUSE => fallback
  | .SILENCE => fallback
  | _ => .failed_closed

def syntheticDecision (phase : EnforcementPhase) (decision : DecisionKind)
    (policyVersion policyHash reason : JsString) (actionTaken : List JsString)
    (riskScore : JsNumber) : PhaseDecision where
  phase
  decision
  policyVersion
  policyHash
  matchedRuleIds := []
  matchedLayers := []
  actionTaken
  riskScore
  reasons := [reason]

def isModelAllowed (modelId : JsString) (allowlist : List JsString) : Bool :=
  allowlist.contains modelId

def assertModelAllowed (modelId : JsString) (allowlist : List JsString) : Except JsError Unit :=
  if isModelAllowed modelId allowlist then .ok ()
  else .error ⟨.validationError,
    js "Requested Bedrock model is not in the governed invoke allowlist",
    [(js "modelId", .string modelId)]⟩

section Redaction

open Pattern

def oneOf (characters : String) : Pattern := one fun codeUnit => (js characters).contains codeUnit

/-- `[A-Z0-9]` with the flags `iu`, and the given characters. -/
def isFoldedAlphanumeric (others : String) (codeUnit : CodeUnit) : Bool :=
  isLowerAlphanumeric (foldUnit codeUnit) || (js others).contains codeUnit

/-- `[A-Z]` with the flags `iu`. -/
def isFoldedLetter (codeUnit : CodeUnit) : Bool := inRange 'a' 'z' (foldUnit codeUnit)

/-- `/[A-Z0-9._%+-]+@[A-Z0-9.-]+\.[A-Z]{2,}/giu`. -/
def emailPattern : Pattern :=
  all (many1 (isFoldedAlphanumeric "._%+-")) [oneOf "@", many1 (isFoldedAlphanumeric ".-"),
    oneOf ".", one isFoldedLetter, many1 isFoldedLetter]

/-- `[-.\s]?`. -/
def optionalSeparator : Pattern :=
  optional (one fun codeUnit => (js "-.").contains codeUnit || isSpace codeUnit)

/-- `/\b(?:\+?1[-.\s]?)?(?:\(?\d{3}\)?[-.\s]?)\d{3}[-.\s]?\d{4}\b/gu`. -/
def phonePattern : Pattern :=
  all (boundary isWordUnit)
    [optional (all (optional (oneOf "+")) [oneOf "1", optionalSeparator]),
      optional (oneOf "("), times isDigit 2, optional (oneOf ")"), optionalSeparator,
      times isDigit 2, optionalSeparator, times isDigit 3, boundary isWordUnit]

/-- `/\b(?:api[_-]?key|secret|password|token)\s*[:=]\s*["']?[^"'\s]+/giu`. -/
def secretPattern : Pattern :=
  let word (first : Char) (letters : String) : Pattern := Pattern.word foldUnit first letters
  all (boundary fun codeUnit => isWordUnit (foldUnit codeUnit))
    [either (all (word 'a' "pi") [optional (oneOf "_-"), word 'k' "ey"])
        (either (word 's' "ecret") (either (word 'p' "assword") (word 't' "oken"))),
      many isSpace, oneOf ":=", many isSpace, optional (oneOf "\"'"),
      many1 fun codeUnit => !((js "\"'").contains codeUnit || isSpace codeUnit)]

def redactModelOutput (output : JsString) : JsString :=
  secretPattern.replaceAll (js "[REDACTED_SECRET]")
    (phonePattern.replaceAll (js "[REDACTED_PHONE]")
      (emailPattern.replaceAll (js "[REDACTED_EMAIL]") output))

example : redactModelOutput (js "mail a.b@c.org, +1 (555) 123-4567, API-key = 'x1'") =
    js "mail [REDACTED_EMAIL], +[REDACTED_PHONE], [REDACTED_SECRET]'" := by
  decide +kernel

end Redaction

end GhostArk.EnforcementRuntime.Runtime
