import GhostArk.EnforcementRuntime.Policy.Composition
import GhostArk.EnforcementRuntime.Runtime.Reporting

/-!
Contract: `packages/enforcement-runtime/src/runtime/governedInvoke.ts`, the function
`governedInvoke`.

Owns the run from a request to a result, cut at its gates into stages: each
stage passes on what the later ones read, or leaves the run by an early return.

`new Date().toISOString()` is a call of the clock. The text of a caught error is
its message.
-/

namespace GhostArk.EnforcementRuntime.Runtime

open Js ReceiptSchema Policy
open Receipts Retrieval
open Vault Identity Lib Program

def resolveIdentity (request : GovernedInvokeRequest) :
    Except JsError Identity.VerifiedIdentityContext := do
  let identity ← resolveVerifiedIdentity
    { tenantId := some request.auth.tenantId
      userId := some request.auth.userId
      role := request.auth.role
      sessionId := request.auth.sessionId
      requestId := request.auth.requestId
      source := some request.auth.source }
    request.auth.requestId
  if identity.tenantId ≠ request.pathTenantId then
    throw ⟨.external (js "AuthorizationError"),
      js "Path tenant does not match authenticated tenant",
      [(js "pathTenantId", .string request.pathTenantId),
        (js "authTenantId", .string identity.tenantId)]⟩
  return identity

/-- The body of the first `try`. -/
def verifiedIdentity (request : GovernedInvokeRequest) :
    Except JsError Identity.VerifiedIdentityContext := do
  assertNoClientDeclaredIdentity request.body true
  resolveIdentity request

def allowedCandidates (candidates : List RetrievedContextCandidate)
    (allowedDigests : List JsString) : List RetrievedContextCandidate :=
  candidates.filter fun candidate => allowedDigests.contains candidate.digest

def strictRetrievalTaintBlockingEnabled (deps : GovernedInvokeDependencies) : Bool :=
  (deps.retrievalOptions.bind RetrievalOptions.allowTaintedDigestOnly) != some true &&
    ((deps.retrievalOptions.bind RetrievalOptions.rejectCallerSuppliedContexts) == some true ||
      (deps.retrievalOptions.bind RetrievalOptions.requireProviderWhenEnabled) == some true)

/-- The constants at the head of the function. -/
structure Opening where
  now : JsString
  requestId : JsString
  tenantIdHash : JsString
  userIdHash : JsString
  sessionIdHash : JsString
  inputDigest : JsString

/-- The constants after the policies are compiled. -/
structure Session extends Opening where
  identity : Identity.VerifiedIdentityContext
  executionNonce : JsString
  compiledPolicy : CompiledPolicy

/-- The constants when the model is about to be invoked. -/
structure Admission extends Session where
  preRetrieval : PhaseDecision
  retrieval : RetrievalFilterResult
  preModel : PhaseDecision
  preExecutionContextHash : JsString

/-- `retrieval.allowed.map((context) => context.digest).sort()`. -/
def retrievedContextDigests (retrieval : RetrievalFilterResult) : List JsString :=
  sortStrings (retrieval.allowed.map RetrievedContextForPolicy.digest)

section GovernedInvoke

variable (runtime : PolicyRuntime) (deps : GovernedInvokeDependencies)
variable (request : GovernedInvokeRequest)

/-- `value ? privateHmacDigest(secret, value) : publicSha256Digest("")`. -/
def identifierHash (secret value : JsString) : Except JsError JsString :=
  if value = [] then .ok (publicSha256Digest runtime.toReceiptRuntime [])
  else privateHmacDigest runtime.toReceiptRuntime secret value

def currentTime : Run JsString :=
  match request.now with
  | some now => pure now
  | none => await .currentTime

/-- The rest of the opening: it throws if the secret is empty and one of the ids is not. -/
def openingAt (now : JsString) : Except JsError Opening := do
  let digestSecret := deps.identityDigestSecret.getD DEFAULT_DECISION_RECEIPT_HMAC_SECRET
  let tenantIdHash ← identifierHash runtime digestSecret request.auth.tenantId
  let userIdHash ← identifierHash runtime digestSecret request.auth.userId
  let sessionIdHash ← identifierHash runtime digestSecret (request.auth.sessionId.getD [])
  return {
    now
    requestId := request.auth.requestId.getD (js "request-unknown")
    tenantIdHash
    userIdHash
    sessionIdHash
    inputDigest := request.input.contentDigest.getD
      (publicSha256Digest runtime.toReceiptRuntime request.input.text) }

def openRun : Body Opening := do
  let now ← (currentTime request).inBody
  (throwing (openingAt runtime deps request now)).inBody

def rejected (opening : Opening) (requestId : JsString) (preModel : PhaseDecision)
    (error : JsError) (extraMetrics : List GovernedInvokeMetricName) : Run GovernedInvokeResult :=
  finalizeResult deps
    (baseResult {
      requestId
      tenantIdHash := opening.tenantIdHash
      userIdHash := opening.userIdHash
      modelId := request.model.modelId
      status := .failed_closed
      preModel
      errors := [error.message] })
    extraMetrics

def identify (opening : Opening) : Body Identity.VerifiedIdentityContext :=
  match verifiedIdentity request with
  | .ok identity => pure identity
  | .error error => returning do
      log deps .warn "governed invoke identity rejected"
        [(js "error", .string error.message), (js "requestId", .string opening.requestId)]
      rejected deps request opening opening.requestId (emptyDecision .pre_model) error []

def admitNonce (opening : Opening) (identity : Identity.VerifiedIdentityContext) : Body JsString :=
  match normalizeExecutionNonce request.executionNonce identity.requestId with
  | .ok executionNonce => pure executionNonce
  | .error error => returning do
      log deps .warn "governed invoke execution nonce rejected"
        [(js "error", .string error.message), (js "requestId", .string identity.requestId)]
      rejected deps request opening identity.requestId (emptyDecision .pre_model) error []

/-- `assertModelAllowed`, if an allowlist is configured. -/
def checkAllowlist : Except JsError Unit :=
  match deps.modelAllowlist with
  | none => .ok ()
  | some allowlist => assertModelAllowed request.model.modelId allowlist

def admitModel (opening : Opening) (identity : Identity.VerifiedIdentityContext) : Body Unit :=
  match checkAllowlist deps request with
  | .ok _ => pure ()
  | .error error => returning do
      log deps .warn "governed invoke model rejected by allowlist"
        [(js "error", .string error.message), (js "requestId", .string identity.requestId),
          (js "modelId", .string request.model.modelId)]
      rejected deps request opening identity.requestId
        (syntheticDecision .pre_model .REFUSE (js "unavailable") zeroPolicyHash
          (js "model id is not in governed invoke allowlist") [js "block_model_invocation"]
          (.ofNat 1))
        error []

def policyRepositoryLoadInput (identity : Identity.VerifiedIdentityContext) :
    PolicyRepositoryLoadInput :=
  ⟨identity.tenantId, identity.userId, some identity.role⟩

def loadPolicy (opening : Opening) (identity : Identity.VerifiedIdentityContext) :
    Body CompiledPolicy := do
  let loaded : Except JsError (List JsValue) ←
    (await (.loadPolicies (policyRepositoryLoadInput identity))).inBody
  match loaded >>= compilePolicySet runtime with
  | .ok compiledPolicy => pure compiledPolicy
  | .error error => returning do
      log deps .error "governed invoke policy load failed"
        [(js "error", .string error.message), (js "requestId", .string identity.requestId)]
      rejected deps request opening identity.requestId (emptyDecision .pre_model) error
        [.GovernedInvokePolicyLoadFailed]

/-- `executionHashFor`. Every call passes a decision and the request's own memory write. -/
def executionHashFor (session : Session) (digests : List JsString) (preDecision : PhaseDecision) :
    Except JsError JsString :=
  executionContextHash runtime {
    requestId := session.identity.requestId
    tenantIdHash := session.tenantIdHash
    userIdHash := session.userIdHash
    sessionIdHash := session.sessionIdHash
    modelId := request.model.modelId
    policyVersion := session.compiledPolicy.policyVersion
    policyHash := session.compiledPolicy.policyHash
    inputDigest := session.inputDigest
    retrievedContextDigests := digests
    consentState := request.consent
    executionNonce := session.executionNonce
    preDecision := some preDecision
    memoryWrite := request.memoryWrite }

def Session.decide (session : Session) (phase : EnforcementPhase) (decision : DecisionKind)
    (reason : String) (actionTaken : List JsString) (riskScore : JsNumber) : PhaseDecision :=
  syntheticDecision phase decision session.compiledPolicy.policyVersion
    session.compiledPolicy.policyHash (js reason) actionTaken riskScore

/-- What differs between the exits that emit a receipt first. -/
structure BlockedExit where
  preRetrieval : PhaseDecision
  preDecision : PhaseDecision
  postDecision : PhaseDecision
  digests : List JsString
  executionContextHash : JsString
  /-- The status if the receipt is emitted. -/
  status : GovernedInvokeStatus
  errors : List JsString
  extraMetrics : List GovernedInvokeMetricName := []
  memoryWrite : Option PhaseDecision := none
  memory : Option MemoryReport := none
  latencyMs : JsNumber := .ofNat 0
  costEstimateUsd : Option JsNumber := none
  modelInvocationSucceeded : Bool := false

def receiptInput (session : Session) (exit : BlockedExit) (memoryWritten : Bool) :
    ReceiptEmissionInput where
  identity := session.identity
  request
  inputDigest := session.inputDigest
  retrievedContextDigests := exit.digests
  preDecision := exit.preDecision
  postDecision := exit.postDecision
  memoryWritten
  latencyMs := exit.latencyMs
  costEstimateUsd := exit.costEstimateUsd
  executionContextHash := exit.executionContextHash
  executionNonce := session.executionNonce
  now := session.now
  modelInvocationSucceeded := exit.modelInvocationSucceeded

def blockedResult (session : Session) (exit : BlockedExit) (receipt : ReceiptEmission) :
    Run GovernedInvokeResult :=
  finalizeResult deps
    (baseResult {
      requestId := session.identity.requestId
      tenantIdHash := session.tenantIdHash
      userIdHash := session.userIdHash
      modelId := request.model.modelId
      status := if receipt.isEmitted then exit.status else .failed_closed
      preRetrieval := some exit.preRetrieval
      preModel := exit.preDecision
      postModel := some exit.postDecision
      memoryWrite := exit.memoryWrite
      memory := exit.memory
      receipt := some receipt.report
      receiptV2 := receipt.v2
      errors := exit.errors ++ receipt.failures })
    (exit.extraMetrics ++ receiptFailureMetrics receipt)

def blocked (session : Session) (exit : BlockedExit) : Run GovernedInvokeResult := do
  let receipt ← emitReceipt deps (receiptInput request session exit false)
  blockedResult deps request session exit receipt

/-- An exit before the nonce is reserved: its execution hash is over its own decision. -/
def blockedEarly {α : Type} (session : Session) (preRetrieval : PhaseDecision)
    (digests : List JsString) (decision : PhaseDecision) (status : GovernedInvokeStatus)
    (errors : List JsString) (extraMetrics : List GovernedInvokeMetricName) : Body α :=
  returning do
    let hash ← throwing (executionHashFor runtime request session digests decision)
    blocked deps request session {
      preRetrieval
      preDecision := decision
      postDecision := decision
      digests
      executionContextHash := hash
      status
      errors
      extraMetrics }

/-! ### Retrieval -/

def preRetrievalContext : PolicyEvaluationContext where
  phase := .pre_retrieval
  requestText := some request.input.text
  outputText := none
  riskTags := none
  retrievedContext := none
  memoryWrite := none
  consentState := some request.consent
  bodyDeclaredTenant := none

/-- `["ALLOW", "RECEIPT_ONLY", "MODIFY", "REDACT"].includes(preRetrieval.decision)`. -/
def isRetrievalAllowed (decision : PhaseDecision) : Bool :=
  [DecisionKind.ALLOW, .RECEIPT_ONLY, .MODIFY, .REDACT].contains decision.decision

def admitRetrieval (session : Session) : Body PhaseDecision :=
  let preRetrieval := evaluatePolicy runtime session.compiledPolicy (preRetrievalContext request)
  if isRetrievalAllowed preRetrieval then pure preRetrieval
  else
    blockedEarly runtime deps request session preRetrieval []
      (session.decide .pre_model preRetrieval.decision
        "pre-retrieval decision blocked model invocation" preRetrieval.actionTaken
        preRetrieval.riskScore)
      (statusForBlockingDecision preRetrieval.decision .refused_pre_model) [] []

/-- `deps.retrievalOptions?.rejectCallerSuppliedContexts`. -/
def rejectsCallerContexts : Bool :=
  (deps.retrievalOptions.bind RetrievalOptions.rejectCallerSuppliedContexts).getD false

def requiresProvider : Bool :=
  (deps.retrievalOptions.bind RetrievalOptions.requireProviderWhenEnabled).getD false

def isRetrievalEnabled : Bool := request.retrieval.any RequestRetrieval.enabled

def callerSuppliedContexts : List RetrievedContextCandidate :=
  if isRetrievalEnabled request then (request.retrieval.bind RequestRetrieval.contexts).getD []
  else []

def retrievalInput (session : Session) : RetrievalInput :=
  ⟨session.identity.tenantId, session.identity.userId, request.input.text,
    session.identity.requestId⟩

/-- A refusal of retrieval: `failed_closed`, under a reason that is also the error. -/
def retrievalRefused {α : Type} (session : Session) (preRetrieval : PhaseDecision)
    (reason : String) (error : JsString) (actionTaken : List JsString) : Body α :=
  blockedEarly runtime deps request session preRetrieval []
    (session.decide .pre_model .REFUSE reason actionTaken (.ofNat 1)) .failed_closed [error] []

def requestedContexts (session : Session) (preRetrieval : PhaseDecision) :
    Body (List RetrievedContextCandidate) :=
  if !isRetrievalEnabled request then pure []
  else if rejectsCallerContexts deps && (callerSuppliedContexts request).length > 0 then
    retrievalRefused runtime deps request session preRetrieval
      "caller-supplied retrieval context is not trusted in this runtime mode"
      (js "caller-supplied retrieval context is not trusted in this runtime mode")
      [js "block_model_invocation", js "quarantine_retrieval"]
  else if deps.hasRetrievalProvider then do
    let retrieved : Except JsError (List RetrievedContextCandidate) ←
      (await (.retrieve (retrievalInput request session))).inBody
    match retrieved with
    | .ok contexts =>
      if rejectsCallerContexts deps then return contexts
      else return contexts ++ callerSuppliedContexts request
    | .error error =>
      retrievalRefused runtime deps request session preRetrieval
        "server-side retrieval provider failed" error.message [js "fail_closed"]
  else if requiresProvider deps then
    retrievalRefused runtime deps request session preRetrieval
      "server-side retrieval provider is required when retrieval is enabled"
      (js "server-side retrieval provider is required when retrieval is enabled")
      [js "block_model_invocation"]
  else return callerSuppliedContexts request

def filterContexts (session : Session) (preRetrieval : PhaseDecision)
    (contexts : List RetrievedContextCandidate) : Body RetrievalFilterResult :=
  let retrieval := filterRetrievedContext runtime session.identity.tenantId contexts
    (some preRetrieval)
  if retrieval.riskTags.contains crossTenantTag then
    blockedEarly runtime deps request session preRetrieval (retrievedContextDigests retrieval)
      (session.decide .pre_model .REFUSE "cross-tenant retrieval contamination detected"
        [js "block_model_invocation", js "quarantine_retrieval"] (.ofNat 1))
      .failed_closed [js "cross-tenant retrieval contamination detected"]
      [.GovernedInvokeCrossTenantRetrievalBlocked]
  else pure retrieval

/-! ### Before the model -/

def preModelContext (retrieval : RetrievalFilterResult) : PolicyEvaluationContext where
  phase := .pre_model
  requestText := some request.input.text
  outputText := none
  riskTags := some retrieval.riskTags
  retrievedContext := some retrieval.allowed
  memoryWrite := none
  consentState := some request.consent
  bodyDeclaredTenant := none

def blocksTaint (retrieval : RetrievalFilterResult) (preModel : PhaseDecision) : Bool :=
  retrieval.riskTags.contains untrustedInstructionTag &&
    strictRetrievalTaintBlockingEnabled deps && isModelInvocationAllowed preModel

def admitInvocation (session : Session) (preRetrieval : PhaseDecision)
    (retrieval : RetrievalFilterResult) : Body PhaseDecision :=
  let preModel := evaluatePolicy runtime session.compiledPolicy (preModelContext request retrieval)
  if blocksTaint deps retrieval preModel then
    let strictTaintDecision := session.decide .pre_model .ESCALATE
      "untrusted retrieval instructions detected before prompt construction"
      [js "block_model_invocation", js "quarantine_retrieval", js "digest_only_receipt"] (.ofNat 1)
    blockedEarly runtime deps request session preRetrieval (retrievedContextDigests retrieval)
      strictTaintDecision (statusForBlockingDecision strictTaintDecision.decision .refused_pre_model)
      [js "untrusted retrieval instructions detected before prompt construction"] []
  else if !isModelInvocationAllowed preModel then
    blockedEarly runtime deps request session preRetrieval (retrievedContextDigests retrieval)
      preModel (statusForBlockingDecision preModel.decision .refused_pre_model) [] []
  else pure preModel

/-- `24 * 60 * 60`. -/
def reservationTtlSeconds : JsNumber := .ofNat (24 * 60 * 60)

def reservation (session : Session) (preExecutionContextHash : JsString) :
    ExecutionNonceReservation where
  tenantIdHash := session.tenantIdHash
  nonce := session.executionNonce
  executionContextHash := preExecutionContextHash
  requestId := session.identity.requestId
  now := session.now
  ttlSeconds := some reservationTtlSeconds

/-- What the two exits of a reservation that is not fresh share. -/
def replayExit (session : Session) (preRetrieval : PhaseDecision)
    (retrieval : RetrievalFilterResult) (hash : JsString) (reason : String) (error : JsString) :
    BlockedExit :=
  let replayDecision := session.decide .pre_model .REFUSE reason
    [js "block_replay", js "fail_closed"] (.ofNat 1)
  { preRetrieval
    preDecision := replayDecision
    postDecision := replayDecision
    digests := retrievedContextDigests retrieval
    executionContextHash := hash
    status := .failed_closed
    errors := [error] }

/-- The `catch` around the reservation. -/
def reservationFailed (session : Session) (preRetrieval : PhaseDecision)
    (retrieval : RetrievalFilterResult) (hash : JsString) (error : JsError) :
    Run GovernedInvokeResult :=
  blocked deps request session (replayExit session preRetrieval retrieval hash
    (if error.name = executionNonceReplayError then "execution nonce replay detected"
    else "execution nonce reservation failed")
    error.message)

/-- The exit of an idempotent replay. Its receipt is emitted inside the `try`: what the emission
throws is caught there. -/
def replayed (session : Session) (preRetrieval : PhaseDecision)
    (retrieval : RetrievalFilterResult) (hash : JsString) : Run GovernedInvokeResult := do
  let exit := replayExit session preRetrieval retrieval hash
    "execution nonce has already been used for this context" (js "execution nonce replay detected")
  let attempted : Except JsError ReceiptEmission ←
    (emitReceipt deps (receiptInput request session exit false)).attempt
  match attempted with
  | .ok receipt => blockedResult deps request session exit receipt
  | .error error => reservationFailed deps request session preRetrieval retrieval hash error

def reserveNonce (session : Session) (preRetrieval : PhaseDecision)
    (retrieval : RetrievalFilterResult) (preExecutionContextHash : JsString) : Body Unit :=
  if deps.hasExecutionNonceStore then do
    let reply : Except JsError ReservationStatus ←
      (await (.reserve (reservation session preExecutionContextHash))).inBody
    match reply with
    | .ok .RESERVED => pure ()
    | .ok .IDEMPOTENT_REPLAY =>
      (replayed deps request session preRetrieval retrieval preExecutionContextHash).returning
    | .error error =>
      (reservationFailed deps request session preRetrieval retrieval preExecutionContextHash
        error).returning
  else pure ()

def enter (opening : Opening) : Body Admission := do
  let identity ← identify deps request opening
  let executionNonce ← admitNonce deps request opening identity
  admitModel deps request opening identity
  let compiledPolicy ← loadPolicy runtime deps request opening identity
  let session : Session := { opening with identity, executionNonce, compiledPolicy }
  let preRetrieval ← admitRetrieval runtime deps request session
  let contexts ← requestedContexts runtime deps request session preRetrieval
  let retrieval ← filterContexts runtime deps request session preRetrieval contexts
  let preModel ← admitInvocation runtime deps request session preRetrieval retrieval
  let preExecutionContextHash ← (throwing
    (executionHashFor runtime request session (retrievedContextDigests retrieval) preModel)).inBody
  reserveNonce deps request session preRetrieval retrieval preExecutionContextHash
  return { session with preRetrieval, retrieval, preModel, preExecutionContextHash }

def modelInvokeInput (admission : Admission) : ModelInvokeInput where
  modelId := request.model.modelId
  prompt := buildPromptContext request.input.text
    (allowedCandidates admission.retrieval.sanitized (retrievedContextDigests admission.retrieval))
  temperature := request.model.temperature
  maxTokens := request.model.maxTokens
  requestId := admission.identity.requestId

def Admission.exit (admission : Admission) (postDecision : PhaseDecision) (errors : List JsString) :
    BlockedExit where
  preRetrieval := admission.preRetrieval
  preDecision := admission.preModel
  postDecision
  digests := retrievedContextDigests admission.retrieval
  executionContextHash := admission.preExecutionContextHash
  status := .failed_closed
  errors

def invocationFailedExit (admission : Admission) (error : JsError) : BlockedExit :=
  { admission.exit
      (admission.decide .post_model .REFUSE "model invocation failed" [js "fail_closed"] (.ofNat 1))
      [error.message] with
    extraMetrics := [.GovernedInvokeBedrockFailed] }

def invokeModel (admission : Admission) : Body ModelInvokeOutput := do
  let reply : Except JsError ModelInvokeOutput ←
    (await (.invoke (modelInvokeInput request admission))).inBody
  match reply with
  | .ok output => pure output
  | .error error =>
    (blocked deps request admission.toSession
      (invocationFailedExit admission error)).returning

/-! ### After the model -/

def postModelContext (retrieval : RetrievalFilterResult) (outputText : JsString) :
    PolicyEvaluationContext where
  phase := .post_model
  requestText := some request.input.text
  outputText := some outputText
  riskTags := some retrieval.riskTags
  retrievedContext := some retrieval.allowed
  memoryWrite := none
  consentState := some request.consent
  bodyDeclaredTenant := none

def memoryWriteContext (retrieval : RetrievalFilterResult) (outputText : JsString)
    (memoryWrite : RequestedMemoryWrite) : PolicyEvaluationContext where
  phase := .memory_write
  requestText := some request.input.text
  outputText := some outputText
  riskTags := some retrieval.riskTags
  retrievedContext := some retrieval.allowed
  memoryWrite := some ⟨memoryWrite.tier, memoryWrite.classificationTags, memoryWrite.contentDigest⟩
  consentState := some request.consent
  bodyDeclaredTenant := none

def refusalText : JsString := js "The governed runtime refused this model output."

/-- `status`, `responseText` and `redacted`. -/
structure Release where
  status : GovernedInvokeStatus
  responseText : Option JsString
  redacted : Bool
deriving DecidableEq, Repr

def releaseFor (decision : DecisionKind) (outputText : JsString) : Release :=
  match decision with
  | .REDACT => ⟨.completed, some (redactModelOutput outputText), true⟩
  | .REFUSE => ⟨.refused_post_model, some refusalText, false⟩
  | .SILENCE => ⟨.refused_post_model, none, false⟩
  | .ESCALATE | .HUMAN_REVIEW | .REQUIRE_CONSENT =>
    ⟨statusForBlockingDecision decision .refused_post_model, none, false⟩
  | _ => ⟨.completed, some outputText, false⟩

/-- `memoryDecision`, for a run with a memory write. -/
def memoryDecision (admission : Admission) (outputText : JsString) (postModel : PhaseDecision)
    (memoryWrite : RequestedMemoryWrite) : PhaseDecision :=
  let evaluated := evaluatePolicy runtime admission.compiledPolicy
    (memoryWriteContext request admission.retrieval outputText memoryWrite)
  if postModel.decision = .MEMORY_SUPPRESS then
    admission.decide .memory_write .MEMORY_SUPPRESS
      "post-model decision suppressed memory persistence" [js "drop_memory_write"]
      (postModel.riskScore.max evaluated.riskScore)
  else evaluated

def memoryWriteRequest (admission : Admission) (memoryWrite : RequestedMemoryWrite) :
    MemoryWriteRequest where
  tenantId := admission.identity.tenantId
  userId := admission.identity.userId
  sessionId := some admission.identity.sessionId
  tier := memoryWrite.tier
  contentDigest := memoryWrite.contentDigest
  classificationTags := some memoryWrite.classificationTags
  expiresAt := memoryWrite.expiresAt
  now := some admission.now

/-- What a run carries from the model to its end. -/
structure Answer where
  output : ModelInvokeOutput
  postModel : PhaseDecision

/-- `costEstimateUsd`, which is 0 if the model reports none. -/
def Answer.cost (answer : Answer) : JsNumber := answer.output.costEstimateUsd.getD (.ofNat 0)

def answeredExit (admission : Admission) (answer : Answer) (errors : List JsString) : BlockedExit :=
  { admission.exit answer.postModel errors with
    latencyMs := answer.output.latencyMs
    costEstimateUsd := some answer.cost
    modelInvocationSucceeded := true }

def writeFailedExit (admission : Admission) (answer : Answer) (decision : PhaseDecision)
    (error : JsError) : BlockedExit :=
  { answeredExit admission answer [error.message] with
    memoryWrite := some decision
    memory := some ⟨true, false, error.message⟩ }

/-- The memory write of a run: its result, and its decision if one was requested. -/
def persistMemory (admission : Admission) (answer : Answer) :
    Body (MemoryWriteResult × Option PhaseDecision) :=
  match request.memoryWrite with
  | none => pure (⟨false, js "no memory write requested", none⟩, none)
  | some memoryWrite =>
    let decision :=
      memoryDecision runtime request admission answer.output.outputText answer.postModel memoryWrite
    if !isMemoryWriteAllowed decision then
      pure (⟨false, js "policy decision " ++ decision.decision.text ++
        js " prevented persistence", none⟩, some decision)
    else do
      let reply : Except JsError MemoryWriteResult ← (await (.write
        (memoryWriteRequest admission memoryWrite) decision request.consent)).inBody
      match reply with
      | .ok result => pure (result, some decision)
      | .error error =>
        (blocked deps request admission.toSession
          (writeFailedExit admission answer decision error)).returning

/-- `memoryDecision?.decision === "MEMORY_SUPPRESS" ? ["GovernedInvokeMemorySuppressed"] : []`. -/
def suppressionMetrics (decision : Option PhaseDecision) : List GovernedInvokeMetricName :=
  if decision.map (fun decision => decision.decision) = some .MEMORY_SUPPRESS then
    [.GovernedInvokeMemorySuppressed]
  else []

/-- The fields that the two ends of a run share. -/
def answeredResult (admission : Admission) (answer : Answer) (memoryResult : MemoryWriteResult)
    (memoryDecision : Option PhaseDecision) (receipt : ReceiptEmission)
    (status : GovernedInvokeStatus) : BaseResultInput where
  requestId := admission.identity.requestId
  tenantIdHash := admission.tenantIdHash
  userIdHash := admission.userIdHash
  modelId := request.model.modelId
  status
  preRetrieval := some admission.preRetrieval
  preModel := admission.preModel
  postModel := some answer.postModel
  memoryWrite := memoryDecision
  memory := some ⟨request.memoryWrite.isSome, memoryResult.written, memoryResult.reason⟩
  receipt := some receipt.report
  receiptV2 := receipt.v2
  errors := receipt.failures

def conclude (admission : Admission) (answer : Answer) (memoryResult : MemoryWriteResult)
    (memoryDecision : Option PhaseDecision) : Run GovernedInvokeResult := do
  let receipt ← emitReceipt deps (receiptInput request admission.toSession
    (answeredExit admission answer []) memoryResult.written)
  if !receipt.isEmitted then
    finalizeResult deps
      (baseResult (answeredResult request admission answer memoryResult memoryDecision receipt
        .failed_closed))
      (receiptFailureMetrics receipt ++ suppressionMetrics memoryDecision)
  else
    let release := releaseFor answer.postModel.decision answer.output.outputText
    finalizeResult deps
      (baseResult
        { answeredResult request admission answer memoryResult memoryDecision receipt
            release.status with
          responseText := release.responseText
          redacted := some release.redacted })
      (suppressionMetrics memoryDecision)

def postModelDecision (admission : Admission) (output : ModelInvokeOutput) : PhaseDecision :=
  evaluatePolicy runtime admission.compiledPolicy
    (postModelContext request admission.retrieval output.outputText)

def answerOf (admission : Admission) (output : ModelInvokeOutput) : Answer :=
  ⟨output, postModelDecision runtime request admission output⟩

def settle (admission : Admission) (output : ModelInvokeOutput) : Body GovernedInvokeResult := do
  let answer := answerOf runtime request admission output
  let memory ← persistMemory runtime deps request admission answer
  (conclude deps request admission answer memory.1 memory.2).inBody

def reachModel : Body Admission := do
  let opening ← openRun runtime deps request
  enter runtime deps request opening

def governedInvoke : Run GovernedInvokeResult :=
  function do
    let admission ← reachModel runtime deps request
    let output ← invokeModel deps request admission
    settle runtime deps request admission output

end GovernedInvoke

namespace Sample

/-- Every optional dependency except logger and metrics. -/
def deps : GovernedInvokeDependencies where
  hasLogger := false
  identityDigestSecret := none
  modelAllowlist := some [js "model"]
  hasRetrievalProvider := true
  retrievalOptions := none
  hasMetrics := false
  stage := none
  hasExecutionNonceStore := true
  hasReceiptEmitterV2 := true
  hasTransitLedger := true

def request : GovernedInvokeRequest where
  pathTenantId := js "tenant"
  body := .object []
  auth := ⟨js "tenant", js "user", none, none, some (js "request-1"), .jwt⟩
  model := ⟨js "model", none, none⟩
  input := ⟨js "hello", none⟩
  retrieval := some ⟨true, none⟩
  memoryWrite := some ⟨.AUDIT, js "digest", [], none⟩
  consentState := none
  executionNonce := none
  now := some (js "2026-07-07T12:00:00Z")

def record : TransitRecord := ⟨0, js "model", js "request", js "response", .GATEWAY_RECORDED⟩

def candidate : RetrievedContextCandidate :=
  ⟨js "tenant", js "digest", some (js "text"), [], none, none⟩

/-- A repository with the given rules, a model with the given output, receipt emitters that
work or not, an in-memory vault, and nothing else that fails. -/
def serve (rules : List JsValue) (outputText : JsString) (emits : Bool)
    (vault : InMemoryVaultStore) : (call : DependencyCall) → Reply call × InMemoryVaultStore
  | .currentTime => (js "2026-07-07T12:00:00Z", vault)
  | .log _ _ _ => (Except.ok (), vault)
  | .emitMetric _ => (Except.ok (), vault)
  | .loadPolicies _ => (Except.ok [Policy.Sample.source "policy" rules], vault)
  | .retrieve _ => (Except.ok [candidate], vault)
  | .reserve _ => (Except.ok .RESERVED, vault)
  | .invoke _ => (Except.ok ⟨outputText, .ofNat 5, none⟩, vault)
  | .write request decision consentState =>
    Vault.write Policy.Sample.runtime vault (js "2026-07-07T12:00:00Z") request decision
      consentState
  | .emit _ =>
    (if emits then Except.ok Receipts.Sample.firstReceipt
    else Except.error (.plain (js "receipt table unavailable")), vault)
  | .transitRecords => (Except.ok [record], vault)
  | .emitV2 _ => (Except.ok ⟨js "grct2"⟩, vault)

def runWith (rules : List JsValue) (outputText : JsString) (emits : Bool) :
    Trace × Except JsError GovernedInvokeResult × InMemoryVaultStore :=
  (governedInvoke Policy.Sample.runtime deps request).run (serve rules outputText emits) .empty

theorem executes_runWith (rules : List JsValue) (outputText : JsString) (emits : Bool) :
    Executes (governedInvoke Policy.Sample.runtime deps request)
      (runWith rules outputText emits).1 (runWith rules outputText emits).2.1 :=
  executes_run _ _ _

def reachWith (rules : List JsValue) (outputText : JsString) (emits : Bool) :
    Trace × Except (Exit JsError GovernedInvokeResult) Admission × InMemoryVaultStore :=
  (reachModel Policy.Sample.runtime deps request).run (serve rules outputText emits) .empty

end Sample

end GhostArk.EnforcementRuntime.Runtime
