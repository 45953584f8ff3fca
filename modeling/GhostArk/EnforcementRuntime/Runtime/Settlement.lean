import GhostArk.EnforcementRuntime.Runtime.Admission

/-!
Contract: whole runs of `governedInvoke`.

Owns the decomposition of a run at the call of the model, what a run does after
the model has answered, and the release theorem: nothing is released without the
receipts that evidence it.
-/

namespace GhostArk.EnforcementRuntime.Runtime

open Js ReceiptSchema Policy
open Receipts Retrieval
open Vault Identity Lib Program

variable (runtime : PolicyRuntime) (deps : GovernedInvokeDependencies)
variable (request : GovernedInvokeRequest)

/-- A run that has passed the gates and is about to ask the model. -/
def Asked (before : Trace) (admission : Admission) : Prop :=
  Executes (reachModel runtime deps request) before (.ok admission)

def afterReply (admission : Admission) : Except JsError ModelInvokeOutput → Run GovernedInvokeResult
  | .ok output => (settle runtime deps request admission output).function
  | .error error => blocked deps request admission.toSession (invocationFailedExit admission error)

variable {runtime deps request}

variable {admission : Admission}

variable {before : Trace}

theorem Asked.admitted (asked : Asked runtime deps request before admission) :
    ∃ now opening, openingAt runtime deps request now = .ok opening ∧
      Admitted runtime deps request opening before admission :=
  passes_reachModel before _ asked

theorem Asked.unique {admission other : Admission}
    (asked : Asked runtime deps request before admission)
    (askedOther : Asked runtime deps request before other) : admission = other :=
  Except.ok.inj (Executes.unique asked askedOther)

variable {trace : Trace}

theorem executes_invokeModel
    {ended : Except (Exit JsError GovernedInvokeResult) GovernedInvokeResult}
    (executes : Executes (invokeModel deps request admission >>= fun output =>
      settle runtime deps request admission output) trace ended) :
    ∃ reply after, trace = ⟨.invoke (modelInvokeInput request admission), reply⟩ :: after ∧
      Executes (afterReply runtime deps request admission reply) after (bodyOutcome ended) := by
  rcases executes_ask_iff.mp executes with ⟨reply, after, rfl, rest⟩
  refine ⟨reply, after, rfl, ?_⟩
  cases reply with
  | ok output => exact executes_function_iff.mpr ⟨ended, rest, rfl⟩
  | error error =>
    rcases executes_returning_bind rest with ⟨exit, rfl, isBlocked⟩
    exact isBlocked

variable {outcome : Except JsError GovernedInvokeResult}

/-- A run is refused at a gate, or asks the model behind all of them. -/
theorem executes_governedInvoke
    (executes : Executes (governedInvoke runtime deps request) trace outcome) :
    Refused deps trace outcome ∨
      ∃ before admission reply after,
        trace = before ++ ⟨.invoke (modelInvokeInput request admission), reply⟩ :: after ∧
        Asked runtime deps request before admission ∧
        Executes (afterReply runtime deps request admission reply) after outcome := by
  rcases executes_function_iff.mp executes with ⟨ended, isBody, rfl⟩
  rcases executes_bind_iff.mp isBody with
    ⟨exit, left, rfl⟩ | ⟨admission, before, asks, rfl, asked, invokes⟩
  · exact Or.inl (passes_reachModel trace _ left)
  rcases executes_invokeModel invokes with ⟨reply, after, rfl, later⟩
  exact Or.inr ⟨before, admission, reply, after, rfl, asked, later⟩

/-! ### After the model -/

variable (runtime request) in
/-- The write that a run asks of the vault, with its decision. -/
def plannedWrite (admission : Admission) (answer : Answer) :
    Option (RequestedMemoryWrite × PhaseDecision) :=
  request.memoryWrite.bind fun memoryWrite =>
    let decision :=
      memoryDecision runtime request admission answer.output.outputText answer.postModel memoryWrite
    if isMemoryWriteAllowed decision then some (memoryWrite, decision) else none

abbrev writeExchange (request : GovernedInvokeRequest) (admission : Admission)
    (memoryWrite : RequestedMemoryWrite) (decision : PhaseDecision)
    (reply : Except JsError MemoryWriteResult) : Exchange Reply :=
  ⟨.write (memoryWriteRequest admission memoryWrite) decision request.consent, reply⟩

variable (runtime deps request) in
/-- The three ways to go on after the model's answer. -/
inductive Settled (admission : Admission) (answer : Answer) :
    Trace → Except JsError GovernedInvokeResult → Prop
  | unwritten {memory : MemoryWriteResult} {decision : Option PhaseDecision} {trace : Trace}
      {outcome : Except JsError GovernedInvokeResult} :
      plannedWrite runtime request admission answer = none → memory.written = false →
      Executes (conclude deps request admission answer memory decision) trace outcome →
      Settled admission answer trace outcome
  | written {memoryWrite : RequestedMemoryWrite} {decision : PhaseDecision}
      {memory : MemoryWriteResult} {trace : Trace}
      {outcome : Except JsError GovernedInvokeResult} :
      plannedWrite runtime request admission answer = some (memoryWrite, decision) →
      Executes (conclude deps request admission answer memory (some decision)) trace outcome →
      Settled admission answer
        (writeExchange request admission memoryWrite decision (.ok memory) :: trace) outcome
  | failed {memoryWrite : RequestedMemoryWrite} {decision : PhaseDecision} {error : JsError}
      {trace : Trace} {outcome : Except JsError GovernedInvokeResult} :
      plannedWrite runtime request admission answer = some (memoryWrite, decision) →
      Executes (blocked deps request admission.toSession
        (writeFailedExit admission answer decision error)) trace outcome →
      Settled admission answer
        (writeExchange request admission memoryWrite decision (.error error) :: trace) outcome

/-- What the function after the model reply does in every execution. -/
theorem settled_of_executes {output : ModelInvokeOutput}
    (executes : Executes (settle runtime deps request admission output).function trace outcome) :
    Settled runtime deps request admission (answerOf runtime request admission output) trace
      outcome := by
  rcases executes_function_iff.mp executes with ⟨ended, isBody, rfl⟩
  unfold settle persistMemory at isBody
  cases requested : request.memoryWrite with
  | none =>
    have unplanned : plannedWrite runtime request admission
        (answerOf runtime request admission output) = none := by
      simp [plannedWrite, requested]
    simp only [requested] at isBody
    exact .unwritten unplanned rfl (executes_of_inBody isBody)
  | some memoryWrite =>
    simp only [requested] at isBody
    split at isBody
    case isTrue refused =>
      have unplanned : plannedWrite runtime request admission
          (answerOf runtime request admission output) = none := by
        simpa [plannedWrite, requested] using refused
      exact .unwritten unplanned rfl (executes_of_inBody isBody)
    case isFalse allowed =>
      have planned : plannedWrite runtime request admission
          (answerOf runtime request admission output) =
            some (memoryWrite, memoryDecision runtime request admission output.outputText
              (postModelDecision runtime request admission output) memoryWrite) := by
        rw [plannedWrite, requested]
        exact if_pos (by simpa using allowed)
      rcases executes_ask_iff.mp isBody with ⟨reply, after, rfl, rest⟩
      cases reply with
      | ok memory => exact .written planned (executes_of_inBody rest)
      | error error =>
        rcases executes_returning_bind rest with ⟨exit, rfl, isBlocked⟩
        exact .failed planned isBlocked

variable {answer : Answer}

theorem reporting_conclude {memory : MemoryWriteResult} {decision : Option PhaseDecision} :
    Reporting (conclude deps request admission answer memory decision) := by
  refine (reporting_emitReceipt _).bind fun receipt => ?_
  dsimp only
  split <;> exact (telemetry_finalizeResult _ _).reporting

/-- The end of a run: without its receipts it fails closed, with them it releases what the
post-model decision allows. -/
theorem executes_conclude {memory : MemoryWriteResult} {decision : Option PhaseDecision}
    {result : GovernedInvokeResult}
    (executes : Executes (conclude deps request admission answer memory decision) trace
      (.ok result)) :
    result.memory.written = memory.written ∧
      ((¬ ReceiptsReturned deps trace ∧ result.status = .failed_closed ∧
          result.responseText = none) ∨
        ∃ receiptId, Evidence deps trace true receiptId ∧
          result.receipt.receiptId = some receiptId ∧
          result.status = (releaseFor answer.postModel.decision answer.output.outputText).status ∧
          result.responseText =
            (releaseFor answer.postModel.decision answer.output.outputText).responseText) := by
  rcases executes_bind_ok executes with ⟨receipt, emission, after, rfl, emitted, rest⟩
  rcases executes_emitReceipt emitted with
    ⟨failureReason, v2, rfl, unreturned⟩ | ⟨receiptId, v2, rfl, evidence⟩
  · have isResult := eq_of_executes_finalizeResult rest
    refine ⟨by rw [isResult]; rfl, Or.inl ⟨?_, by rw [isResult]; rfl, by rw [isResult]; rfl⟩⟩
    refine fun returned => unreturned (returned.of_mem ?_)
    intro exchange member isEmission
    rcases List.mem_append.mp member with inEmission | inMetrics
    · exact inEmission
    · have isTelemetry : exchange.call.isTelemetry = true :=
        telemetry_finalizeResult _ _ after _ rest exchange inMetrics
      rw [isTelemetry_eq_false isEmission] at isTelemetry
      cases isTelemetry
  · have isResult := eq_of_executes_finalizeResult rest
    refine ⟨by rw [isResult]; rfl, Or.inr ⟨receiptId, ?_, ?_, ?_, ?_⟩⟩
    · exact evidence.mono (List.subset_append_left _ _)
    all_goals rw [isResult]; rfl

variable {reply : Except JsError ModelInvokeOutput}

theorem not_invoke_of_executes_afterReply {after : Trace}
    (executes : Executes (afterReply runtime deps request admission reply) after outcome)
    {exchange : Exchange Reply} (member : exchange ∈ after) (input : ModelInvokeInput) :
    exchange.call ≠ .invoke input := by
  have reports : ∀ {program : Run GovernedInvokeResult} {trace : Trace}, Reporting program →
      Executes program trace outcome → exchange ∈ trace → exchange.call ≠ .invoke input := by
    intro program trace reporting isProgram inTrace isInvoke
    have isReport := reporting trace outcome isProgram exchange inTrace
    rw [isInvoke] at isReport
    cases isReport
  have writes : ∀ {memoryWrite decision memory trace}, exchange ∈
      writeExchange request admission memoryWrite decision memory :: trace →
      (exchange ∈ trace → exchange.call ≠ .invoke input) → exchange.call ≠ .invoke input := by
    intro memoryWrite decision memory trace inTrace rest
    rcases List.mem_cons.mp inTrace with isWrite | inRest
    · rw [isWrite]
      intro isInvoke
      cases isInvoke
    · exact rest inRest
  cases reply with
  | error error => exact reports reporting_blocked executes member
  | ok output =>
    cases settled_of_executes executes with
    | unwritten _ _ concluded => exact reports reporting_conclude concluded member
    | written _ concluded => exact writes member (reports reporting_conclude concluded)
    | failed _ isBlocked => exact writes member (reports reporting_blocked isBlocked)

/-- A run, cut at any call of the model: the run asks once, so this call is that one. -/
theorem executes_at_invoke {before after : Trace} {input : ModelInvokeInput}
    (executes : Executes (governedInvoke runtime deps request)
      (before ++ ⟨.invoke input, reply⟩ :: after) outcome) :
    ∃ admission, input = modelInvokeInput request admission ∧
      Asked runtime deps request before admission ∧
      Executes (afterReply runtime deps request admission reply) after outcome := by
  rcases executes_governedInvoke executes with
    refused | ⟨passed, admission, found, rest, isTrace, asked, later⟩
  · have isEgress := refused.quiet ⟨.invoke input, reply⟩ (by simp)
    cases isEgress
  rcases asked.admitted with ⟨now, opening, -, admitted⟩
  have notBefore : (⟨.invoke input, reply⟩ : Exchange Reply) ∉ passed := by
    intro member
    cases admitted.calls _ member
  have notAfter : (⟨.invoke input, reply⟩ : Exchange Reply) ∉ rest :=
    fun member => not_invoke_of_executes_afterReply later member input rfl
  have split := (List.append_cons_inj_of_notMem notBefore notAfter).mp isTrace.symm
  rw [← split.1, ← split.2.2]
  cases split.2.1
  exact ⟨admission, rfl, asked, later⟩

/-- In a trace the model is invoked once at most. -/
theorem invoke_unique {before after otherBefore otherAfter : Trace}
    {input otherInput : ModelInvokeInput} {reply otherReply : Except JsError ModelInvokeOutput}
    (executes : Executes (governedInvoke runtime deps request)
      (before ++ ⟨.invoke input, reply⟩ :: after) outcome)
    (same : before ++ ⟨.invoke input, reply⟩ :: after =
      otherBefore ++ ⟨.invoke otherInput, otherReply⟩ :: otherAfter) :
    before = otherBefore ∧ reply = otherReply ∧ after = otherAfter := by
  rcases executes_at_invoke executes with ⟨admission, -, asked, later⟩
  rcases asked.admitted with ⟨now, opening, -, admitted⟩
  have notBefore : (⟨.invoke otherInput, otherReply⟩ : Exchange Reply) ∉ before := by
    intro member
    cases admitted.calls _ member
  have notAfter : (⟨.invoke otherInput, otherReply⟩ : Exchange Reply) ∉ after :=
    fun member => not_invoke_of_executes_afterReply later member otherInput rfl
  have split := (List.append_cons_inj_of_notMem notBefore notAfter).mp same
  refine ⟨split.1, ?_, split.2.2⟩
  cases split.2.1
  rfl

/-- The model is asked only with the input of an admission. -/
theorem asked_of_reaches {input : ModelInvokeInput}
    {resume : Reply (.invoke input) → Run GovernedInvokeResult}
    (reaches : Reaches (governedInvoke runtime deps request) before (.ask (.invoke input) resume)) :
    ∃ admission, input = modelInvokeInput request admission ∧
      Asked runtime deps request before admission := by
  have reply : Reply (.invoke input) := Except.error (.plain [])
  rcases (Reaches.step reply reaches).exists_executes with ⟨rest, outcome, executes⟩
  rw [List.append_assoc] at executes
  rcases executes_at_invoke executes with ⟨admission, isInput, asked, -⟩
  exact ⟨admission, isInput, asked⟩

theorem executes_afterReply {before after : Trace}
    (executes : Executes (governedInvoke runtime deps request)
      (before ++ ⟨.invoke (modelInvokeInput request admission), reply⟩ :: after) outcome)
    (asked : Asked runtime deps request before admission) :
    Executes (afterReply runtime deps request admission reply) after outcome := by
  rcases executes_at_invoke executes with ⟨found, -, askedFound, later⟩
  rw [asked.unique askedFound]
  exact later

/-! ### Egress -/

/-- What must hold for a call of the model after the given exchanges. -/
structure EgressGate (runtime : PolicyRuntime) (deps : GovernedInvokeDependencies)
    (request : GovernedInvokeRequest) (before : Trace) (input : ModelInvokeInput)
    (admission : Admission) : Prop where
  noClientIdentity : assertNoClientDeclaredIdentity request.body true = .ok ()
  identity : resolveIdentity request = .ok admission.identity
  nonce : normalizeExecutionNonce request.executionNonce admission.identity.requestId =
    .ok admission.executionNonce
  allowlisted : ∀ allowlist, deps.modelAllowlist = some allowlist →
    request.model.modelId ∈ allowlist
  compiled : ∃ policies,
    ⟨.loadPolicies (policyRepositoryLoadInput admission.identity), Except.ok policies⟩ ∈ before ∧
      compilePolicySet runtime policies = .ok admission.compiledPolicy
  preRetrieval : (evaluatePolicy runtime admission.compiledPolicy
    (preRetrievalContext request)).decision ∈ [.ALLOW, .RECEIPT_ONLY, .MODIFY, .REDACT]
  retrieved : ∃ contexts, Retrieved request before contexts ∧
    admission.retrieval = filterRetrievedContext runtime admission.identity.tenantId contexts
      (some (evaluatePolicy runtime admission.compiledPolicy (preRetrievalContext request))) ∧
    ∀ candidate ∈ contexts, candidate.tenantId = admission.identity.tenantId
  preModel : isModelInvocationAllowed (evaluatePolicy runtime admission.compiledPolicy
    (preModelContext request admission.retrieval)) = true
  untainted : ¬ (untrustedInstructionTag ∈ admission.retrieval.riskTags ∧
    strictRetrievalTaintBlockingEnabled deps = true)
  reserved : deps.hasExecutionNonceStore = true → ∃ reservation,
    ⟨.reserve reservation, Except.ok .RESERVED⟩ ∈ before ∧
      reservation.tenantIdHash = admission.tenantIdHash ∧
      reservation.nonce = admission.executionNonce
  prompt : ∃ candidates, candidates.Sublist admission.retrieval.sanitized ∧
    input.prompt = buildPromptContext request.input.text candidates ∧
      ∀ candidate ∈ candidates, candidate.tenantId = admission.identity.tenantId

theorem verifiedIdentity_eq_ok {identity : Identity.VerifiedIdentityContext}
    (verified : verifiedIdentity request = .ok identity) :
    assertNoClientDeclaredIdentity request.body true = .ok () ∧
      resolveIdentity request = .ok identity := by
  rcases bind_eq_ok.mp verified with ⟨_, undeclared, resolved⟩
  exact ⟨undeclared, resolved⟩

theorem mem_of_checkAllowlist (checked : checkAllowlist deps request = .ok ())
    {allowlist : List JsString} (configured : deps.modelAllowlist = some allowlist) :
    request.model.modelId ∈ allowlist := by
  rw [checkAllowlist, configured] at checked
  unfold assertModelAllowed isModelAllowed at checked
  dsimp only at checked
  split at checked
  · rename_i allowed
    simpa using allowed
  · cases checked

theorem egressGate_of_admitted {opening : Opening}
    (admitted : Admitted runtime deps request opening before admission) :
    EgressGate runtime deps request before (modelInvokeInput request admission) admission := by
  rcases admitted.contexts with ⟨contexts, retrieved, isRetrieval⟩
  have clean := admitted.clean
  rw [isRetrieval] at clean
  have own := tenantId_eq_of_not_crossTenant runtime clean
  have invocable := admitted.invocationAllowed
  have untainted := admitted.untainted
  exact {
    noClientIdentity := (verifiedIdentity_eq_ok admitted.identity).1
    identity := (verifiedIdentity_eq_ok admitted.identity).2
    nonce := admitted.nonce
    allowlisted := fun allowlist => mem_of_checkAllowlist admitted.allowlist
    compiled := admitted.policies
    preRetrieval := by
      have allowed := admitted.retrievalAllowed
      rw [admitted.isPreRetrieval] at allowed
      exact List.contains_iff_mem.mp allowed
    retrieved := ⟨contexts, retrieved, by rw [isRetrieval, admitted.isPreRetrieval], own⟩
    preModel := admitted.isPreModel ▸ invocable
    untainted := by
      rintro ⟨tainted, strict⟩
      rw [blocksTaint, invocable, strict, List.contains_iff_mem.mpr tainted] at untainted
      cases untainted
    reserved := fun configured => ⟨_, admitted.reserved configured, rfl, rfl⟩
    prompt := by
      refine ⟨_, List.filter_sublist, rfl, ?_⟩
      intro candidate member
      have sanitized := (List.mem_filter.mp member).1
      rw [isRetrieval] at sanitized
      rcases List.mem_map.mp sanitized with ⟨original, inContexts, rfl⟩
      exact own original inContexts }

/-- **Egress.** Whatever the dependencies do, the model is asked at most once in a run, and only
behind all gates. -/
theorem invoke_gated {before : Trace} {input : ModelInvokeInput}
    {resume : Reply (.invoke input) → Run GovernedInvokeResult}
    (reaches : Reaches (governedInvoke runtime deps request) before (.ask (.invoke input) resume)) :
    (∀ exchange ∈ before, ∀ earlier, exchange.call ≠ .invoke earlier) ∧
      ∃ admission, EgressGate runtime deps request before input admission := by
  rcases asked_of_reaches reaches with ⟨admission, rfl, asked⟩
  rcases asked.admitted with ⟨now, opening, -, admitted⟩
  refine ⟨?_, admission, egressGate_of_admitted admitted⟩
  intro exchange member earlier isInvoke
  have isGate := admitted.calls exchange member
  rw [isInvoke] at isGate
  cases isGate

theorem Sample.exists_asked {rules : List JsValue} {outputText : JsString} {emits : Bool}
    {test : Admission → Bool}
    (admits : (Sample.reachWith rules outputText emits).2.1.toOption.any test = true) :
    ∃ before admission after,
      (Sample.runWith rules outputText emits).1 = before ++
        ⟨.invoke (modelInvokeInput Sample.request admission),
          Except.ok ⟨outputText, .ofNat 5, none⟩⟩ :: after ∧
      Asked Policy.Sample.runtime Sample.deps Sample.request before admission ∧
      test admission = true := by
  rcases exists_ok_of_any admits with ⟨admission, isAdmission, tested⟩
  have asked : Executes (reachModel Policy.Sample.runtime Sample.deps Sample.request)
      (Sample.reachWith rules outputText emits).1 (Sample.reachWith rules outputText emits).2.1 :=
    executes_run _ _ _
  rw [isAdmission] at asked
  refine ⟨(Sample.reachWith rules outputText emits).1, admission, ?rest, ?cut, asked, tested⟩
  case cut =>
    rw [Sample.runWith, governedInvoke, trace_run_function, trace_run_bind _ isAdmission]
    rfl

/-- The gates of a run without rules. -/
theorem invoke_gated_sample :
    ∃ before input resume,
      Reaches (governedInvoke Policy.Sample.runtime Sample.deps Sample.request) before
        (.ask (.invoke input) resume) ∧
      (∀ exchange ∈ before, ∀ earlier, exchange.call ≠ .invoke earlier) ∧
      ∃ admission,
        EgressGate Policy.Sample.runtime Sample.deps Sample.request before input admission := by
  have executes := Sample.executes_runWith [] (js "answer") true
  have admits : (Sample.reachWith [] (js "answer") true).2.1.toOption.any (fun _ => true) = true := by
    decide +kernel
  rcases Sample.exists_asked admits with ⟨before, admission, after, isTrace, -, -⟩
  rw [isTrace] at executes
  rcases executes.reaches with ⟨resume, reaches⟩
  exact ⟨before, _, resume, reaches, invoke_gated reaches⟩

/-! ### Release -/

/-- The end of an answered run: it fails closed, or releases what the post-model decision
allows, backed by receipts. -/
theorem Settled.released {result : GovernedInvokeResult}
    (settled : Settled runtime deps request admission answer trace (.ok result)) :
    (result.status = .failed_closed ∧ result.responseText = none) ∨
      ∃ receiptId, Evidence deps trace true receiptId ∧
        result.receipt.receiptId = some receiptId ∧
        result.responseText =
          (releaseFor answer.postModel.decision answer.output.outputText).responseText := by
  cases settled with
  | unwritten _ _ concluded =>
    rcases (executes_conclude concluded).2 with
      ⟨-, failed, withheld⟩ | ⟨receiptId, evidence, isId, -, isText⟩
    · exact Or.inl ⟨failed, withheld⟩
    · exact Or.inr ⟨receiptId, evidence, isId, isText⟩
  | written _ concluded =>
    rcases (executes_conclude concluded).2 with
      ⟨-, failed, withheld⟩ | ⟨receiptId, evidence, isId, -, isText⟩
    · exact Or.inl ⟨failed, withheld⟩
    · exact Or.inr ⟨receiptId, evidence.mono (List.subset_cons_self _ _), isId, isText⟩
  | failed _ isBlocked =>
    have withheld := withheld_blocked (by simp [writeFailedExit]) isBlocked
    exact Or.inl ⟨status_blocked rfl isBlocked, withheld.responseText⟩

/-- **Release.** Whatever the dependencies do, a result with a response or with a status other
than `failed_closed` is backed by a receipt of every configured layer. -/
theorem release_evidenced {trace : Trace} {result : GovernedInvokeResult}
    (executes : Executes (governedInvoke runtime deps request) trace (.ok result))
    (released : result.responseText.isSome = true ∨ result.status ≠ .failed_closed) :
    (∃ input receipt, ⟨.emit input, Except.ok receipt⟩ ∈ trace ∧
        result.receipt.receiptId = some receipt.receipt_id) ∧
      (deps.hasReceiptEmitterV2 = true → ∃ input receipt,
        ⟨.emitV2 input, Except.ok receipt⟩ ∈ trace ∧
          ((∃ asked reply, ⟨.invoke asked, reply⟩ ∈ trace) → input.executionTrace ≠ [])) := by
  -- a run that releases nothing and fails closed is not in question
  have unreleased : ∀ {P : Prop}, result.status = .failed_closed → result.responseText = none →
      P := by
    intro P failed withheld
    rcases released with response | status
    · rw [withheld] at response
      cases response
    · exact absurd failed status
  have evidenced : ∃ answered receiptId, result.receipt.receiptId = some receiptId ∧
      Evidence deps trace answered receiptId ∧
      ((∃ asked reply, ⟨.invoke asked, reply⟩ ∈ trace) → answered = true) := by
    rcases executes_governedInvoke executes with
      refused | ⟨before, admission, reply, after, rfl, asked, later⟩
    · have withheld := refused.withheld result rfl
      by_cases failed : result.status = .failed_closed
      · exact unreleased failed withheld.responseText
      rcases withheld.evidence failed with ⟨receiptId, isId, evidence⟩
      refine ⟨false, receiptId, isId, evidence, ?_⟩
      rintro ⟨input, reply, member⟩
      cases refused.quiet _ member
    cases reply with
    | error error =>
      exact unreleased (status_blocked rfl later)
        (withheld_blocked (by simp [invocationFailedExit, Admission.exit]) later).responseText
    | ok output =>
      rcases (settled_of_executes later).released with
        ⟨failed, withheld⟩ | ⟨receiptId, evidence, isId, -⟩
      · exact unreleased failed withheld
      refine ⟨true, receiptId, isId, evidence.mono ?_, fun _ => rfl⟩
      exact fun exchange member => List.mem_append_right _ (List.mem_cons_of_mem _ member)
  rcases evidenced with ⟨answered, receiptId, isId, evidence, isAnswered⟩
  constructor
  · rcases evidence.v1 with ⟨input, receipt, member, isReceipt⟩
    exact ⟨input, receipt, member, by rw [isId, isReceipt]⟩
  · intro configured
    rcases evidence.v2 configured with ⟨input, receipt, member, attested⟩
    exact ⟨input, receipt, member, fun invoked => attested (isAnswered invoked)⟩

/-- The receipts of a run without rules. -/
theorem release_evidenced_sample :
    ∃ trace result,
      Executes (governedInvoke Policy.Sample.runtime Sample.deps Sample.request) trace
        (.ok result) ∧
      result.responseText.isSome = true ∧
      (∃ input receipt, ⟨.emit input, Except.ok receipt⟩ ∈ trace ∧
        result.receipt.receiptId = some receipt.receipt_id) ∧
      (Sample.deps.hasReceiptEmitterV2 = true → ∃ input receipt,
        ⟨.emitV2 input, Except.ok receipt⟩ ∈ trace ∧
          ((∃ asked reply, ⟨.invoke asked, reply⟩ ∈ trace) → input.executionTrace ≠ [])) := by
  have executes := Sample.executes_runWith [] (js "answer") true
  have responds : (Sample.runWith [] (js "answer") true).2.1.toOption.any
      (fun result => result.responseText.isSome) = true := by
    decide +kernel
  rcases exists_ok_of_any responds with ⟨result, isResult, response⟩
  rw [isResult] at executes
  exact ⟨_, result, executes, response, release_evidenced executes (Or.inl response)⟩

end GhostArk.EnforcementRuntime.Runtime
