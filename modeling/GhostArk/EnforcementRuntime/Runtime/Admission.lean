import GhostArk.EnforcementRuntime.Runtime.GovernedInvoke

/-!
Contract: the gates of `governedInvoke`.

Owns what a run knows when it passes the gates, what it leaves behind when a
gate refuses it, and the egress theorem: the model is asked at most once, only
behind all gates, and only about candidates of the caller's tenant.
-/

namespace GhostArk.EnforcementRuntime.Runtime

open Js ReceiptSchema Policy
open Receipts Retrieval
open Vault Identity Lib Program

/-! ### Refusals -/

def DependencyCall.isEgress : DependencyCall → Bool
  | .invoke _ => true
  | .write _ _ _ => true
  | _ => false

theorem isEgress_of_isReport {call : DependencyCall} (isReport : call.isReport = true) :
    call.isEgress = false := by
  cases call <;> first | rfl | cases isReport

def DependencyCall.isGate : DependencyCall → Bool
  | .currentTime => true
  | .loadPolicies _ => true
  | .retrieve _ => true
  | .reserve _ => true
  | _ => false

theorem isEmission_of_isGate {call : DependencyCall} (isGate : call.isGate = true) :
    call.isEmission = false := by
  cases call <;> first | rfl | cases isGate

/-- Neither the model nor the vault is called. -/
def Quiet (trace : Trace) : Prop := ∀ exchange ∈ trace, exchange.call.isEgress = false

theorem Quiet.append {before after : Trace} (quietBefore : Quiet before)
    (quietAfter : Quiet after) : Quiet (before ++ after) :=
  List.forall_mem_append.mpr ⟨quietBefore, quietAfter⟩

theorem quiet_nil : Quiet [] := by
  intro exchange member
  cases member

theorem quiet_singleton {exchange : Exchange Reply} (silent : exchange.call.isEgress = false) :
    Quiet [exchange] :=
  List.forall_mem_singleton.mpr silent

theorem quiet_of_isGate {trace : Trace}
    (gates : ∀ exchange ∈ trace, exchange.call.isGate = true) : Quiet trace := by
  intro exchange member
  have isGate := gates exchange member
  cases call : exchange.call <;> first | rfl | simp [call, DependencyCall.isGate] at isGate

theorem quiet_of_reporting {E α : Type} {program : Program Reply E α} {trace : Trace}
    {outcome : Except E α} (reporting : Reporting program)
    (executes : Executes program trace outcome) : Quiet trace := by
  intro exchange member
  exact isEgress_of_isReport (reporting trace outcome executes exchange member)

variable (deps : GovernedInvokeDependencies)

/-- A result that releases nothing, and has its receipt unless it failed closed. -/
structure Withheld (trace : Trace) (answered : Bool) (result : GovernedInvokeResult) : Prop where
  responseText : result.responseText = none
  written : result.memory.written = false
  evidence : result.status ≠ .failed_closed →
    ∃ receiptId, result.receipt.receiptId = some receiptId ∧ Evidence deps trace answered receiptId

/-- How a run ends that a gate refuses. -/
structure Refused (trace : Trace) (outcome : Except JsError GovernedInvokeResult) : Prop where
  quiet : Quiet trace
  withheld : ∀ result, outcome = .ok result → Withheld deps trace false result

/-- A gate: it lets pass with the given facts, or refuses. -/
def Passes {α : Type} (passed : Trace → α → Prop) :
    Trace → Except (Exit JsError GovernedInvokeResult) α → Prop
  | trace, .ok value => passed trace value
  | trace, .error exit => Refused deps trace exit.outcome

variable {deps}

theorem Withheld.mono {trace more : Trace} {answered : Bool} {result : GovernedInvokeResult}
    (withheld : Withheld deps trace answered result) (subset : trace ⊆ more) :
    Withheld deps more answered result where
  responseText := withheld.responseText
  written := withheld.written
  evidence := by
    intro released
    rcases withheld.evidence released with ⟨receiptId, isId, evidence⟩
    exact ⟨receiptId, isId, evidence.mono subset⟩

theorem Refused.prepend {before after : Trace} {outcome : Except JsError GovernedInvokeResult}
    (quietBefore : Quiet before) (refused : Refused deps after outcome) :
    Refused deps (before ++ after) outcome where
  quiet := quietBefore.append refused.quiet
  withheld := fun result isResult =>
    (refused.withheld result isResult).mono (List.subset_append_right before after)

theorem refused_of_error {trace : Trace} {error : JsError} (quiet : Quiet trace) :
    Refused deps trace (.error error) :=
  ⟨quiet, by simp⟩

theorem Ensures.behind {α : Type} {program : Body α} {before : Trace}
    {passed later : Trace → α → Prop} (quietBefore : Quiet before)
    (ensures : Ensures program (Passes deps passed))
    (isLater : ∀ trace value, passed trace value → later (before ++ trace) value) :
    Ensures program fun trace => Passes deps later (before ++ trace) := by
  refine ensures.mono fun trace ended holds => ?_
  cases ended with
  | ok value => exact isLater trace value holds
  | error exit => exact Refused.prepend quietBefore holds

/-- The rule of gates: what comes after a gate is behind everything the gate has let pass. -/
theorem Ensures.gate {α β : Type} {first : Body α} {next : α → Body β} {before : Trace}
    {passed : Trace → α → Prop} {later : Trace → β → Prop} (quietBefore : Quiet before)
    (isFirst : Ensures first (Passes deps passed))
    (isNext : ∀ trace value, passed trace value →
      Ensures (next value) fun after => Passes deps later ((before ++ trace) ++ after)) :
    Ensures (first >>= next) fun after => Passes deps later (before ++ after) := by
  refine Ensures.bind isFirst ?_ ?_
  · intro trace exit refused
    exact Refused.prepend quietBefore refused
  · intro trace value isPassed
    refine (isNext trace value isPassed).mono fun after ended holds => ?_
    rw [← List.append_assoc]
    exact holds

variable {program : Run GovernedInvokeResult}

theorem Ensures.refuse {α : Type} {passed : Trace → α → Prop}
    (refused : Ensures program (Refused deps)) :
    Ensures (program.returning (α := α)) (Passes deps passed) := by
  apply Ensures.returning
  intro trace outcome executes exit isExit
  change Refused deps trace exit.outcome
  rw [isExit]
  exact refused trace outcome executes

theorem Ensures.refuse_behind {α : Type} {before : Trace} {passed : Trace → α → Prop}
    (quietBefore : Quiet before) (refused : Ensures program (Refused deps)) :
    Ensures (program.returning (α := α)) fun trace => Passes deps passed (before ++ trace) := by
  have refuses : Ensures (program.returning (α := α)) (Passes deps fun _ _ => False) :=
    Ensures.refuse refused
  exact Ensures.behind quietBefore refuses fun _ _ => False.elim

section Exits

variable {request : GovernedInvokeRequest} {session : Session} {exit : BlockedExit}

theorem reporting_blockedResult (receipt : ReceiptEmission) :
    Reporting (blockedResult deps request session exit receipt) :=
  (telemetry_finalizeResult _ _).reporting

theorem reporting_blocked : Reporting (blocked deps request session exit) :=
  (reporting_emitReceipt _).bind fun receipt => reporting_blockedResult receipt

variable {result : GovernedInvokeResult}

theorem withheld_blockedResult {receipt : ReceiptEmission} {emission trace : Trace}
    (unwritten : ∀ memory, exit.memory = some memory → memory.written = false)
    (emitted : Executes (emitReceipt deps (receiptInput request session exit false)) emission
      (.ok receipt))
    (executes : Executes (blockedResult deps request session exit receipt) trace (.ok result)) :
    Withheld deps (emission ++ trace) exit.modelInvocationSucceeded result := by
  rw [eq_of_executes_finalizeResult executes]
  refine ⟨rfl, ?_, ?_⟩
  · cases memory : exit.memory with
    | none => simp [baseResult]
    | some report => simpa [baseResult] using unwritten report memory
  · intro released
    rcases executes_emitReceipt emitted with
      ⟨failureReason, v2, rfl, -⟩ | ⟨receiptId, v2, rfl, evidence⟩
    · exact absurd rfl released
    · exact ⟨receiptId, rfl, evidence.mono (List.subset_append_left emission trace)⟩

theorem withheld_blocked {trace : Trace}
    (unwritten : ∀ memory, exit.memory = some memory → memory.written = false)
    (executes : Executes (blocked deps request session exit) trace (.ok result)) :
    Withheld deps trace exit.modelInvocationSucceeded result := by
  rcases executes_bind_ok executes with ⟨receipt, emission, after, rfl, emitted, rest⟩
  exact withheld_blockedResult unwritten emitted rest

/-- A blocked request that failed closed reports it. -/
theorem status_blocked {trace : Trace} (failedClosed : exit.status = .failed_closed)
    (executes : Executes (blocked deps request session exit) trace (.ok result)) :
    result.status = .failed_closed := by
  rcases executes_bind_ok executes with ⟨receipt, emission, after, rfl, -, rest⟩
  rw [eq_of_executes_finalizeResult rest, baseResult]
  dsimp only
  rw [failedClosed, ite_self]

theorem refused_blocked (noMemory : exit.memory = none)
    (unanswered : exit.modelInvocationSucceeded = false) :
    Ensures (blocked deps request session exit) (Refused deps) := by
  intro trace outcome executes
  refine ⟨quiet_of_reporting reporting_blocked executes, ?_⟩
  rintro result rfl
  have withheld := withheld_blocked (by simp [noMemory]) executes
  rw [unanswered] at withheld
  exact withheld

theorem refused_rejected {opening : Opening} {requestId : JsString} {preModel : PhaseDecision}
    {error : JsError} {extraMetrics : List GovernedInvokeMetricName} {level : LogLevel}
    {message : String} {fields : List (JsString × JsValue)} :
    Ensures (log deps level message fields >>= fun _ =>
      rejected deps request opening requestId preModel error extraMetrics) (Refused deps) := by
  intro trace outcome executes
  have telemetry : Telemetry (log deps level message fields >>= fun _ =>
      rejected deps request opening requestId preModel error extraMetrics) :=
    (telemetry_log level message fields).bind fun _ => telemetry_finalizeResult _ _
  refine ⟨quiet_of_reporting telemetry.reporting executes, ?_⟩
  rintro result rfl
  rcases executes_bind_ok executes with ⟨_, before, after, rfl, -, rest⟩
  rw [eq_of_executes_finalizeResult rest]
  exact ⟨rfl, rfl, fun released => absurd rfl released⟩

end Exits

section Gates

variable {runtime : PolicyRuntime} {request : GovernedInvokeRequest} {opening : Opening}
variable {identity : Identity.VerifiedIdentityContext} {session : Session}
variable {preRetrieval : PhaseDecision}

theorem Ensures.pass {α : Type} {value : α} {passed : Trace → α → Prop}
    (isPassed : passed [] value) : Ensures (pure value : Body α) (Passes deps passed) :=
  Ensures.done isPassed

theorem passes_identify :
    Ensures (identify deps request opening) (Passes deps fun trace identity =>
      trace = [] ∧ verifiedIdentity request = .ok identity) := by
  unfold identify
  cases verified : verifiedIdentity request with
  | ok identity => exact Ensures.pass ⟨rfl, rfl⟩
  | error error => exact Ensures.refuse refused_rejected

theorem passes_admitNonce :
    Ensures (admitNonce deps request opening identity) (Passes deps fun trace executionNonce =>
      trace = [] ∧
        normalizeExecutionNonce request.executionNonce identity.requestId = .ok executionNonce) := by
  unfold admitNonce
  cases normalizeExecutionNonce request.executionNonce identity.requestId with
  | ok executionNonce => exact Ensures.pass ⟨rfl, rfl⟩
  | error error => exact Ensures.refuse refused_rejected

theorem passes_admitModel :
    Ensures (admitModel deps request opening identity) (Passes deps fun trace _ =>
      trace = [] ∧ checkAllowlist deps request = .ok ()) := by
  unfold admitModel
  cases checkAllowlist deps request with
  | ok _ => exact Ensures.pass ⟨rfl, rfl⟩
  | error error => exact Ensures.refuse refused_rejected

theorem passes_loadPolicy :
    Ensures (loadPolicy runtime deps request opening identity) (Passes deps fun trace policy =>
      ∃ policies, trace = [⟨.loadPolicies (policyRepositoryLoadInput identity),
        Except.ok policies⟩] ∧ compilePolicySet runtime policies = .ok policy) := by
  unfold loadPolicy
  refine Ensures.perform_bind fun reply => ?_
  have quietCall : Quiet [⟨.loadPolicies (policyRepositoryLoadInput identity), reply⟩] :=
    quiet_singleton rfl
  cases reply with
  | error error =>
    exact Ensures.refuse_behind quietCall refused_rejected
  | ok policies =>
    rw [ok_bind]
    cases compiled : compilePolicySet runtime policies with
    | error error =>
      exact Ensures.refuse_behind quietCall refused_rejected
    | ok policy => exact Ensures.done ⟨policies, rfl, compiled⟩

theorem passes_blockedEarly {α : Type} {digests : List JsString} {decision : PhaseDecision}
    {status : GovernedInvokeStatus} {errors : List JsString}
    {extraMetrics : List GovernedInvokeMetricName} (passed : Trace → α → Prop) :
    Ensures (blockedEarly runtime deps request session preRetrieval digests decision status errors
      extraMetrics) (Passes deps passed) := by
  apply Ensures.refuse
  have hashed : Ensures (throwing (executionHashFor runtime request session digests decision))
      fun trace _ => trace = [] :=
    Ensures.done rfl
  refine Ensures.bind hashed ?_ ?_
  · rintro trace error rfl
    exact refused_of_error quiet_nil
  · rintro trace hash rfl
    exact refused_blocked rfl rfl

theorem passes_admitRetrieval :
    Ensures (admitRetrieval runtime deps request session) (Passes deps fun trace preRetrieval =>
      trace = [] ∧ isRetrievalAllowed preRetrieval = true ∧
        preRetrieval =
          evaluatePolicy runtime session.compiledPolicy (preRetrievalContext request)) := by
  unfold admitRetrieval
  dsimp only
  split
  · rename_i allowed
    exact Ensures.pass ⟨rfl, allowed, rfl⟩
  · exact passes_blockedEarly _

/-- The candidates of a run: those its provider returned and those its caller supplied. -/
structure Retrieved (request : GovernedInvokeRequest) (trace : Trace)
    (contexts : List RetrievedContextCandidate) : Prop where
  provided : ∀ input found, ⟨.retrieve input, Except.ok found⟩ ∈ trace → found ⊆ contexts
  supplied : callerSuppliedContexts request ⊆ contexts
  origin : ∀ candidate ∈ contexts, candidate ∈ callerSuppliedContexts request ∨
    ∃ input found, ⟨.retrieve input, Except.ok found⟩ ∈ trace ∧ candidate ∈ found

theorem passes_requestedContexts :
    Ensures (requestedContexts runtime deps request session preRetrieval)
      (Passes deps fun trace contexts => Retrieved request trace contexts ∧
        ∀ exchange ∈ trace, ∃ input, exchange.call = .retrieve input) := by
  have supplied : Retrieved request [] (callerSuppliedContexts request) ∧
      ∀ exchange ∈ ([] : Trace), ∃ input, exchange.call = .retrieve input :=
    ⟨⟨by simp, List.Subset.refl _, fun _ => Or.inl⟩, by simp⟩
  unfold requestedContexts
  split
  · rename_i disabled
    have none : callerSuppliedContexts request = [] := by
      simpa [callerSuppliedContexts] using fun enabled => absurd enabled (by simpa using disabled)
    rw [none] at supplied
    exact Ensures.pass supplied
  split
  · exact passes_blockedEarly _
  rename_i unsupplied
  split
  · refine Ensures.perform_bind fun reply => ?_
    cases reply with
    | error error =>
      exact Ensures.behind (quiet_singleton rfl) (passes_blockedEarly fun _ _ => False)
        fun _ _ => False.elim
    | ok contexts =>
      have passed : ∀ {more}, (more = [] ∨ more = callerSuppliedContexts request) →
          callerSuppliedContexts request ⊆ contexts ++ more →
          Retrieved request [⟨.retrieve (retrievalInput request session), Except.ok contexts⟩]
            (contexts ++ more) := by
        intro more isMore suppliedSubset
        refine ⟨?_, suppliedSubset, ?_⟩
        · intro input found member
          cases List.mem_singleton.mp member
          exact List.subset_append_left _ _
        · intro candidate member
          rcases List.mem_append.mp member with inContexts | inMore
          · exact Or.inr ⟨_, contexts, List.mem_singleton.mpr rfl, inContexts⟩
          · rcases isMore with isNil | isSupplied
            · rw [isNil] at inMore
              cases inMore
            · exact Or.inl (isSupplied ▸ inMore)
      have calls : ∀ exchange ∈ [(⟨.retrieve (retrievalInput request session),
          Except.ok contexts⟩ : Exchange Reply)], ∃ input, exchange.call = .retrieve input :=
        List.forall_mem_singleton.mpr ⟨_, rfl⟩
      dsimp only
      split
      · rename_i rejects
        have none : callerSuppliedContexts request = [] := by simpa [rejects] using unsupplied
        have alone := passed (Or.inl rfl) (by rw [none]; exact List.nil_subset _)
        rw [List.append_nil] at alone
        exact Ensures.done ⟨alone, calls⟩
      · exact Ensures.done ⟨passed (Or.inr rfl) (List.subset_append_right _ _), calls⟩
  split
  · exact passes_blockedEarly _
  · exact Ensures.pass supplied

variable {contexts : List RetrievedContextCandidate}

theorem passes_filterContexts :
    Ensures (filterContexts runtime deps request session preRetrieval contexts)
      (Passes deps fun trace retrieval => trace = [] ∧ crossTenantTag ∉ retrieval.riskTags ∧
        retrieval = filterRetrievedContext runtime session.identity.tenantId contexts
          (some preRetrieval)) := by
  unfold filterContexts
  dsimp only
  split
  · exact passes_blockedEarly _
  · rename_i clean
    exact Ensures.pass ⟨rfl, by simpa using clean, rfl⟩

variable {retrieval : RetrievalFilterResult}

theorem passes_admitInvocation :
    Ensures (admitInvocation runtime deps request session preRetrieval retrieval)
      (Passes deps fun trace preModel => trace = [] ∧
        isModelInvocationAllowed preModel = true ∧ blocksTaint deps retrieval preModel = false ∧
        preModel =
          evaluatePolicy runtime session.compiledPolicy (preModelContext request retrieval)) := by
  unfold admitInvocation
  dsimp only
  split
  · exact passes_blockedEarly _
  rename_i untainted
  split
  · exact passes_blockedEarly _
  rename_i allowed
  exact Ensures.pass ⟨rfl, by simpa using allowed, by simpa using untainted, rfl⟩

variable {hash : JsString}

theorem refused_reservationFailed {error : JsError} :
    Ensures (reservationFailed deps request session preRetrieval retrieval hash error)
      (Refused deps) :=
  refused_blocked rfl rfl

theorem refused_replayed :
    Ensures (replayed deps request session preRetrieval retrieval hash) (Refused deps) := by
  have attempted : ∀ exit, Ensures
      (emitReceipt deps (receiptInput request session exit false)).attempt
      fun trace (ended : Except JsError (Except JsError ReceiptEmission)) =>
        ∃ outcome, ended = .ok outcome ∧
          Executes (emitReceipt deps (receiptInput request session exit false)) trace outcome :=
    fun exit => Ensures.attempt fun trace outcome executes => ⟨outcome, rfl, executes⟩
  refine Ensures.bind (attempted _) ?_ ?_
  · rintro trace error ⟨outcome, absurd, -⟩
    cases absurd
  rintro emission attempted ⟨outcome, isOutcome, emitted⟩
  cases Except.ok.inj isOutcome
  have quietEmission := quiet_of_reporting (reporting_emitReceipt _) emitted
  cases attempted with
  | error error =>
    exact refused_reservationFailed.mono fun trace outcome refused =>
      refused.prepend quietEmission
  | ok receipt =>
    intro trace outcome executes
    refine ⟨quietEmission.append
      (quiet_of_reporting (reporting_blockedResult receipt) executes), ?_⟩
    rintro result rfl
    exact withheld_blockedResult (by simp [replayExit]) emitted executes

def FreshlyReserved (deps : GovernedInvokeDependencies) (session : Session) (hash : JsString)
    (trace : Trace) : Prop :=
  deps.hasExecutionNonceStore = true →
    ⟨.reserve (reservation session hash), Except.ok .RESERVED⟩ ∈ trace

theorem passes_reserveNonce :
    Ensures (reserveNonce deps request session preRetrieval retrieval hash)
      (Passes deps fun trace _ => FreshlyReserved deps session hash trace ∧
        ∀ exchange ∈ trace, ∃ input, exchange.call = .reserve input) := by
  unfold reserveNonce
  split
  · refine Ensures.perform_bind fun reply => ?_
    cases reply with
    | error error =>
      exact Ensures.refuse_behind (quiet_singleton rfl) refused_reservationFailed
    | ok status =>
      cases status with
      | IDEMPOTENT_REPLAY =>
        exact Ensures.refuse_behind (quiet_singleton rfl) refused_replayed
      | RESERVED =>
        exact Ensures.done ⟨fun _ => List.mem_singleton.mpr rfl,
          List.forall_mem_singleton.mpr ⟨_, rfl⟩⟩
  · rename_i unconfigured
    exact Ensures.pass ⟨fun configured => absurd configured unconfigured, by simp⟩

/-! ### All gates -/

/-- What is known of a run, and of its exchanges, when the model is about to be asked. -/
structure Admitted (runtime : PolicyRuntime) (deps : GovernedInvokeDependencies)
    (request : GovernedInvokeRequest) (opening : Opening) (trace : Trace)
    (admission : Admission) : Prop where
  isOpening : admission.toOpening = opening
  identity : verifiedIdentity request = .ok admission.identity
  nonce : normalizeExecutionNonce request.executionNonce admission.identity.requestId =
    .ok admission.executionNonce
  allowlist : checkAllowlist deps request = .ok ()
  policies : ∃ policies,
    ⟨.loadPolicies (policyRepositoryLoadInput admission.identity), Except.ok policies⟩ ∈ trace ∧
      compilePolicySet runtime policies = .ok admission.compiledPolicy
  isPreRetrieval : admission.preRetrieval =
    evaluatePolicy runtime admission.compiledPolicy (preRetrievalContext request)
  retrievalAllowed : isRetrievalAllowed admission.preRetrieval = true
  contexts : ∃ contexts, Retrieved request trace contexts ∧
    admission.retrieval = filterRetrievedContext runtime admission.identity.tenantId contexts
      (some admission.preRetrieval)
  clean : crossTenantTag ∉ admission.retrieval.riskTags
  isPreModel : admission.preModel =
    evaluatePolicy runtime admission.compiledPolicy (preModelContext request admission.retrieval)
  invocationAllowed : isModelInvocationAllowed admission.preModel = true
  untainted : blocksTaint deps admission.retrieval admission.preModel = false
  isHash : executionHashFor runtime request admission.toSession
    (retrievedContextDigests admission.retrieval) admission.preModel =
      .ok admission.preExecutionContextHash
  reserved : FreshlyReserved deps admission.toSession admission.preExecutionContextHash trace
  calls : ∀ exchange ∈ trace, exchange.call.isGate = true

theorem Retrieved.of_mem {trace more : Trace} (retrieved : Retrieved request trace contexts)
    (same : ∀ input found, ⟨.retrieve input, Except.ok found⟩ ∈ more ↔
      (⟨.retrieve input, Except.ok found⟩ : Exchange Reply) ∈ trace) :
    Retrieved request more contexts where
  provided := fun input found member =>
    retrieved.provided input found ((same input found).mp member)
  supplied := retrieved.supplied
  origin := by
    intro candidate member
    rcases retrieved.origin candidate member with isSupplied | ⟨input, found, inTrace, isFound⟩
    · exact Or.inl isSupplied
    · exact Or.inr ⟨input, found, (same input found).mpr inTrace, isFound⟩

theorem passes_enter (opening : Opening) :
    Ensures (enter runtime deps request opening)
      (Passes deps (Admitted runtime deps request opening)) := by
  refine Ensures.gate quiet_nil passes_identify ?_
  rintro _ identity ⟨rfl, isIdentity⟩
  refine Ensures.gate quiet_nil passes_admitNonce ?_
  rintro _ executionNonce ⟨rfl, isNonce⟩
  refine Ensures.gate quiet_nil passes_admitModel ?_
  rintro _ _ ⟨rfl, isAllowed⟩
  refine Ensures.gate quiet_nil passes_loadPolicy ?_
  rintro _ compiledPolicy ⟨policies, rfl, isCompiled⟩
  have quietLoad : Quiet [⟨.loadPolicies (policyRepositoryLoadInput identity),
      Except.ok policies⟩] :=
    quiet_singleton rfl
  refine Ensures.gate quietLoad passes_admitRetrieval ?_
  rintro _ preRetrieval ⟨rfl, retrievalAllowed, isPreRetrieval⟩
  refine Ensures.gate quietLoad passes_requestedContexts ?_
  rintro retrieves contexts ⟨isRetrieved, onlyRetrieves⟩
  have loadedGates : ∀ exchange ∈ [⟨.loadPolicies (policyRepositoryLoadInput identity),
      Except.ok policies⟩] ++ retrieves, exchange.call.isGate = true := by
    refine List.forall_mem_append.mpr ⟨List.forall_mem_singleton.mpr rfl, ?_⟩
    intro exchange member
    rcases onlyRetrieves exchange member with ⟨input, isCall⟩
    rw [isCall]
    rfl
  have quietLoaded := quiet_of_isGate loadedGates
  refine Ensures.gate quietLoaded passes_filterContexts ?_
  rintro _ retrieval ⟨rfl, clean, isRetrieval⟩
  rw [List.append_nil]
  refine Ensures.gate quietLoaded passes_admitInvocation ?_
  rintro _ preModel ⟨rfl, invocationAllowed, untainted, isPreModel⟩
  rw [List.append_nil]
  have hashed : ∀ outcome, Ensures (throwing outcome).inBody
      (Passes deps fun trace (hash : JsString) => trace = [] ∧ outcome = .ok hash) := by
    intro outcome
    cases outcome with
    | ok hash => exact Ensures.done ⟨rfl, rfl⟩
    | error error => exact Ensures.done (refused_of_error quiet_nil)
  refine Ensures.gate quietLoaded (hashed _) ?_
  rintro _ hash ⟨rfl, isHash⟩
  rw [List.append_nil]
  refine Ensures.gate quietLoaded passes_reserveNonce ?_
  rintro reserves _ ⟨isReserved, onlyReserves⟩
  have reservesGates : ∀ exchange ∈ reserves, exchange.call.isGate = true := by
    intro exchange member
    rcases onlyReserves exchange member with ⟨input, isCall⟩
    rw [isCall]
    rfl
  have contextsSame : ∀ input found, ⟨.retrieve input, Except.ok found⟩ ∈
      ([⟨.loadPolicies (policyRepositoryLoadInput identity), Except.ok policies⟩] ++ retrieves) ++
        reserves ↔ (⟨.retrieve input, Except.ok found⟩ : Exchange Reply) ∈ retrieves := by
    intro input found
    refine ⟨fun member => ?_, fun member => by simp [member]⟩
    rcases List.mem_append.mp member with inLoaded | inReserves
    · rcases List.mem_cons.mp inLoaded with isLoad | inRetrieves
      · cases isLoad
      · exact inRetrieves
    · rcases onlyReserves _ inReserves with ⟨reservation, isCall⟩
      cases isCall
  refine Ensures.done ?_
  rw [List.append_nil]
  exact {
    isOpening := rfl
    identity := isIdentity
    nonce := isNonce
    allowlist := isAllowed
    policies := ⟨policies, by simp, isCompiled⟩
    isPreRetrieval
    retrievalAllowed
    contexts := ⟨contexts, isRetrieved.of_mem contextsSame, isRetrieval⟩
    clean
    isPreModel
    invocationAllowed
    untainted
    isHash
    reserved := fun configured => List.mem_append_right _ (isReserved configured)
    calls := List.forall_mem_append.mpr ⟨loadedGates, reservesGates⟩ }

theorem callsOnly_currentTime : CallsOnly (· = .currentTime) (currentTime request) := by
  unfold currentTime
  split
  · exact CallsOnly.pure _
  · exact CallsOnly.perform_bind rfl fun reply => CallsOnly.pure reply

theorem quiet_of_currentTime {clock : Trace}
    (calls : ∀ exchange ∈ clock, exchange.call = .currentTime) : Quiet clock := by
  intro exchange member
  rw [calls exchange member]
  rfl

theorem passes_openRun :
    Ensures (openRun runtime deps request) (Passes deps fun trace opening =>
      (∀ exchange ∈ trace, exchange.call = .currentTime) ∧
        ∃ now, openingAt runtime deps request now = .ok opening) := by
  have clock : Ensures (currentTime request).inBody (Passes deps fun trace (_ : JsString) =>
      ∀ exchange ∈ trace, exchange.call = .currentTime) := by
    refine Ensures.inBody (Ensures.mono callsOnly_currentTime fun trace outcome calls => ?_)
    cases outcome with
    | ok now => exact calls
    | error error => exact refused_of_error (quiet_of_currentTime calls)
  refine Ensures.bind clock (fun _ _ refused => refused) fun trace now calls => ?_
  cases opened : openingAt runtime deps request now with
  | ok opening =>
    refine Ensures.done ?_
    rw [List.append_nil]
    exact ⟨calls, now, opened⟩
  | error error =>
    refine Ensures.done ?_
    rw [List.append_nil]
    exact refused_of_error (quiet_of_currentTime calls)

theorem Admitted.behind_clock {opening : Opening} {clock gates : Trace} {admission : Admission}
    (admitted : Admitted runtime deps request opening gates admission)
    (clockCalls : ∀ exchange ∈ clock, exchange.call = .currentTime) :
    Admitted runtime deps request opening (clock ++ gates) admission := by
  refine { admitted with policies := ?_, contexts := ?_, reserved := ?_, calls := ?_ }
  · rcases admitted.policies with ⟨policies, member, compiled⟩
    exact ⟨policies, List.mem_append_right _ member, compiled⟩
  · rcases admitted.contexts with ⟨contexts, retrieved, isRetrieval⟩
    refine ⟨contexts, retrieved.of_mem ?_, isRetrieval⟩
    intro input found
    refine ⟨fun member => ?_, List.mem_append_right _⟩
    rcases List.mem_append.mp member with inClock | inGates
    · cases clockCalls _ inClock
    · exact inGates
  · exact fun configured => List.mem_append_right _ (admitted.reserved configured)
  · refine List.forall_mem_append.mpr ⟨?_, admitted.calls⟩
    intro exchange member
    rw [clockCalls exchange member]
    rfl

theorem passes_reachModel :
    Ensures (reachModel runtime deps request) (Passes deps fun trace admission =>
      ∃ now opening, openingAt runtime deps request now = .ok opening ∧
        Admitted runtime deps request opening trace admission) := by
  refine Ensures.gate quiet_nil passes_openRun ?_
  rintro clock opening ⟨clockCalls, now, isOpening⟩
  refine Ensures.behind (quiet_of_currentTime clockCalls) (passes_enter opening) ?_
  intro gates admission admitted
  exact ⟨now, opening, isOpening, admitted.behind_clock clockCalls⟩

end Gates

end GhostArk.EnforcementRuntime.Runtime
