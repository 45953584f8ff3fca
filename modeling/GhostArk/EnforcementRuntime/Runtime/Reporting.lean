import GhostArk.EnforcementRuntime.Runtime.Lifecycle

/-!
Contract: the reporting half of `packages/enforcement-runtime/src/runtime/governedInvoke.ts`: from
`emptyDecision` to `emitReceipt`.

Owns result construction, metrics, the two-layer receipt emission, the exits
that carry a receipt, and what they leave behind: reporting calls neither the
model nor the vault, and a receipt is reported as emitted only when every
configured layer returned one.
-/

namespace GhostArk.EnforcementRuntime.Runtime

open Js ReceiptSchema Policy
open Receipts Identity Lib Program

/-- An asynchronous function over the dependencies. -/
abbrev Run (α : Type) := Program Reply JsError α

/-- A part of a body that can leave `governedInvoke`. -/
abbrev Body (α : Type) := Program Reply (Exit JsError GovernedInvokeResult) α

abbrev await (call : DependencyCall) : Run (Reply call) := perform call

/-- A synchronous computation: what it throws is not caught. -/
def throwing {α : Type} (outcome : Except JsError α) : Run α := .done outcome

def zeroPolicyHash : JsString := List.replicate 64 (unit '0')

/-- `emptyDecision` with its default version and hash, which no caller replaces. -/
def emptyDecision (phase : EnforcementPhase) : PhaseDecision :=
  syntheticDecision phase .REFUSE (js "unavailable") zeroPolicyHash
    (js "runtime failed before policy decision") [js "fail_closed"] (.ofNat 1)

/-- The input of `baseResult`. -/
structure BaseResultInput where
  requestId : JsString
  tenantIdHash : JsString
  userIdHash : JsString
  modelId : JsString
  status : GovernedInvokeStatus
  preRetrieval : Option PhaseDecision := none
  preModel : PhaseDecision
  postModel : Option PhaseDecision := none
  memoryWrite : Option PhaseDecision := none
  memory : Option MemoryReport := none
  receipt : Option ReceiptReport := none
  receiptV2 : Option ReceiptReport := none
  responseText : Option JsString := none
  redacted : Option Bool := none
  errors : List JsString := []

def baseResult (input : BaseResultInput) : GovernedInvokeResult where
  requestId := input.requestId
  tenantIdHash := input.tenantIdHash
  userIdHash := input.userIdHash
  modelId := input.modelId
  status := input.status
  responseText := input.responseText
  redacted := input.redacted
  decisionSummary := ⟨input.preRetrieval, input.preModel, input.postModel, input.memoryWrite⟩
  memory := input.memory.getD ⟨false, false, js "no memory write requested"⟩
  receipt := input.receipt.getD ⟨false, false, none, none⟩
  receiptV2 := input.receiptV2
  errors := input.errors

section Reports

variable (deps : GovernedInvokeDependencies)

/-- `deps.logger?.warn(…)` and `deps.logger?.error(…)`. -/
def log (level : LogLevel) (message : String) (fields : List (JsString × JsValue)) : Run Unit :=
  if deps.hasLogger then do
    let reply : Except JsError Unit ← await (.log level (js message) fields)
    throwing reply
  else pure ()

def emitMetric (name : GovernedInvokeMetricName) (status : GovernedInvokeStatus)
    (modelId : JsString) : Run Unit :=
  if deps.hasMetrics then do
    let reply : Except JsError Unit ← await (.emitMetric
      ⟨name, deps.stage.getD (js "unknown"), status, normalizeModelIdForMetric modelId⟩)
    match reply with
    | .ok _ => pure ()
    | .error error =>
      log deps .warn "governed invoke metric emission failed"
        [(js "error", .string error.message), (js "metricName", .string name.text)]
  else pure ()

def emitMetrics (status : GovernedInvokeStatus) (modelId : JsString) :
    List GovernedInvokeMetricName → Run Unit
  | [] => pure ()
  | name :: rest => do
    emitMetric deps name status modelId
    emitMetrics status modelId rest

def statusMetrics : GovernedInvokeStatus → List GovernedInvokeMetricName
  | .completed => [.GovernedInvokeCompleted]
  | .failed_closed => [.GovernedInvokeFailedClosed]
  | _ => []

def finalizeResult (result : GovernedInvokeResult)
    (extraMetrics : List GovernedInvokeMetricName) : Run GovernedInvokeResult := do
  emitMetrics deps result.status result.modelId extraMetrics
  emitMetrics deps result.status result.modelId (statusMetrics result.status)
  return result

/-! ### Receipts -/

structure ReceiptEmissionInput where
  identity : Identity.VerifiedIdentityContext
  request : GovernedInvokeRequest
  inputDigest : JsString
  retrievedContextDigests : List JsString
  preDecision : PhaseDecision
  postDecision : PhaseDecision
  memoryWritten : Bool
  latencyMs : JsNumber
  costEstimateUsd : Option JsNumber
  executionContextHash : JsString
  executionNonce : JsString
  now : JsString
  modelInvocationSucceeded : Bool

/-- What both layers are given. -/
def ReceiptEmissionInput.emitted (input : ReceiptEmissionInput) : DecisionReceiptEmissionInput where
  identity := input.identity.toVerifiedIdentityContext
  modelId := input.request.model.modelId
  policyVersion := input.preDecision.policyVersion
  policyHash := input.preDecision.policyHash
  inputDigest := input.inputDigest
  retrievedContextDigests := input.retrievedContextDigests
  preDecision := input.preDecision.toPolicyDecision
  postDecision := input.postDecision.toPolicyDecision
  memoryWritten := input.memoryWritten
  consentState := input.request.consent
  latencyMs := input.latencyMs
  costEstimateUsd := input.costEstimateUsd
  previousReceiptHash := none
  executionContextHash := some input.executionContextHash
  executionNonce := some input.executionNonce
  timestamp := input.now

/-- `input.deps.transitLedger?.records() ?? []`. -/
def transitRecords : Run (List TransitRecord) :=
  if deps.hasTransitLedger then do
    let reply : Except JsError (List TransitRecord) ← await .transitRecords
    throwing reply
  else pure []

def emitReceiptV2Layer (input : ReceiptEmissionInput) : Run (Option ReceiptReport) :=
  if deps.hasReceiptEmitterV2 then do
    let records ← transitRecords deps
    if input.modelInvocationSucceeded ∧ records.length = 0 then
      return some ⟨true, false, none, some (js (
        "model egress completed outside gateway custody; refusing to emit a v2 receipt " ++
          "attesting an empty execution trace"))⟩
    else
      let reply : Except JsError SignedDecisionReceiptV2 ← await (.emitV2
        { input.emitted with executionTrace := executionTraceFromTransitRecords records })
      match reply with
      | .ok receipt => return some ⟨true, true, some receipt.receipt_id, none⟩
      | .error error => return some ⟨true, false, none, some error.message⟩
  else return none

/-- The outcome of `emitReceipt`. -/
inductive ReceiptEmission where
  | emitted (receiptId : JsString) (v2 : Option ReceiptReport)
  | failed (failureReason : JsString) (v2 : Option ReceiptReport)

namespace ReceiptEmission

def isEmitted : ReceiptEmission → Bool
  | emitted _ _ => true
  | failed _ _ => false

def v2 : ReceiptEmission → Option ReceiptReport
  | emitted _ v2 => v2
  | failed _ v2 => v2

/-- The `receipt` of a result. -/
def report : ReceiptEmission → ReceiptReport
  | emitted receiptId _ => ⟨true, true, some receiptId, none⟩
  | failed failureReason _ => ⟨true, false, none, some failureReason⟩

/-- `receipt.emitted ? [] : [receipt.failureReason]`. -/
def failures : ReceiptEmission → List JsString
  | emitted _ _ => []
  | failed failureReason _ => [failureReason]

end ReceiptEmission

def emitReceipt (input : ReceiptEmissionInput) : Run ReceiptEmission := do
  let reply : Except JsError SignedDecisionReceipt ← await (.emit input.emitted)
  match reply with
  | .error error =>
    return .failed error.message
      (if deps.hasReceiptEmitterV2 then
        some ⟨false, false, none,
          some (js "v1 receipt emission failed before the v2 layer was attempted")⟩
      else none)
  | .ok receipt =>
    let v2 ← emitReceiptV2Layer deps input
    match v2 with
    | none => return .emitted receipt.receipt_id none
    | some report =>
      if report.emitted then return .emitted receipt.receipt_id (some report)
      else
        return .failed (report.failureReason.getD (js "v2 receipt emission failed"))
          (some report)

/-- `/kms|sign/iu`. -/
def namesSigning (text : JsString) : Bool :=
  includesText (text.map foldUnit) (js "kms") || includesText (text.map foldUnit) (js "sign")

def receiptFailureMetrics : ReceiptEmission → List GovernedInvokeMetricName
  | .emitted _ _ => []
  | .failed failureReason _ =>
    .GovernedInvokeReceiptEmissionFailed ::
      if namesSigning failureReason then [.GovernedInvokeKmsSigningFailed] else []

def DependencyCall.isTelemetry : DependencyCall → Bool
  | .log _ _ _ => true
  | .emitMetric _ => true
  | _ => false

/-- Calls of the logger, of the metrics and of the receipt layers. -/
def DependencyCall.isReport : DependencyCall → Bool
  | .emit _ => true
  | .transitRecords => true
  | .emitV2 _ => true
  | call => call.isTelemetry

/-- A run that only logs and counts. -/
abbrev Telemetry {E α : Type} (program : Program Reply E α) : Prop :=
  CallsOnly (fun call => call.isTelemetry = true) program

abbrev Reporting {E α : Type} (program : Program Reply E α) : Prop :=
  CallsOnly (fun call => call.isReport = true) program

theorem Telemetry.reporting {E α : Type} {program : Program Reply E α}
    (telemetry : Telemetry program) : Reporting program := by
  refine CallsOnly.mono telemetry fun call isTelemetry => ?_
  cases call <;> first | rfl | cases isTelemetry

variable {deps}

theorem telemetry_log (level : LogLevel) (message : String)
    (fields : List (JsString × JsValue)) : Telemetry (log deps level message fields) := by
  unfold log
  split
  · exact CallsOnly.perform_bind rfl fun reply => CallsOnly.done reply
  · exact CallsOnly.pure ()

theorem telemetry_emitMetric (name : GovernedInvokeMetricName) (status : GovernedInvokeStatus)
    (modelId : JsString) : Telemetry (emitMetric deps name status modelId) := by
  unfold emitMetric
  split
  · refine CallsOnly.perform_bind rfl fun reply => ?_
    cases reply with
    | ok _ => exact CallsOnly.pure ()
    | error error => exact telemetry_log _ _ _
  · exact CallsOnly.pure ()

theorem telemetry_emitMetrics (status : GovernedInvokeStatus) (modelId : JsString)
    (names : List GovernedInvokeMetricName) :
    Telemetry (emitMetrics deps status modelId names) := by
  induction names with
  | nil => exact CallsOnly.pure ()
  | cons name rest ih =>
    exact (telemetry_emitMetric name status modelId).bind fun _ => ih

theorem telemetry_finalizeResult (result : GovernedInvokeResult)
    (extraMetrics : List GovernedInvokeMetricName) :
    Telemetry (finalizeResult deps result extraMetrics) :=
  (telemetry_emitMetrics _ _ _).bind fun _ =>
    (telemetry_emitMetrics _ _ _).bind fun _ => CallsOnly.pure result

theorem callsOnly_transitRecords : CallsOnly (· = .transitRecords) (transitRecords deps) := by
  unfold transitRecords
  split
  · exact CallsOnly.perform_bind rfl fun reply => CallsOnly.done reply
  · exact CallsOnly.pure []

theorem reporting_emitReceiptV2Layer (input : ReceiptEmissionInput) :
    Reporting (emitReceiptV2Layer deps input) := by
  unfold emitReceiptV2Layer
  split
  · have reporting : Reporting (transitRecords deps) :=
      callsOnly_transitRecords.mono fun call isRecords => by rw [isRecords]; rfl
    refine reporting.bind fun records => ?_
    split
    · exact CallsOnly.pure _
    · refine CallsOnly.perform_bind rfl fun reply => ?_
      cases reply <;> exact CallsOnly.pure _
  · exact CallsOnly.pure none

theorem reporting_emitReceipt (input : ReceiptEmissionInput) :
    Reporting (emitReceipt deps input) := by
  unfold emitReceipt
  refine CallsOnly.perform_bind rfl fun reply => ?_
  cases reply with
  | error error => exact CallsOnly.pure _
  | ok receipt =>
    refine (reporting_emitReceiptV2Layer input).bind fun v2 => ?_
    cases v2 with
    | none => exact CallsOnly.pure _
    | some report =>
      dsimp only
      split <;> exact CallsOnly.pure _

/-! ### Evidence -/

variable (deps) in
def ReceiptsReturned (trace : Trace) : Prop :=
  (∃ input receipt, ⟨.emit input, Except.ok receipt⟩ ∈ trace) ∧
    (deps.hasReceiptEmitterV2 = true →
      ∃ input receipt, ⟨.emitV2 input, Except.ok receipt⟩ ∈ trace)

def DependencyCall.isEmission : DependencyCall → Bool
  | .emit _ => true
  | .emitV2 _ => true
  | _ => false

theorem isTelemetry_eq_false {call : DependencyCall} (isEmission : call.isEmission = true) :
    call.isTelemetry = false := by
  cases call <;> first | rfl | cases isEmission

theorem ReceiptsReturned.of_mem {trace more : Trace} (returned : ReceiptsReturned deps more)
    (same : ∀ exchange ∈ more, exchange.call.isEmission = true → exchange ∈ trace) :
    ReceiptsReturned deps trace := by
  refine ⟨?_, fun configured => ?_⟩
  · rcases returned.1 with ⟨input, receipt, member⟩
    exact ⟨input, receipt, same _ member rfl⟩
  · rcases returned.2 configured with ⟨input, receipt, member⟩
    exact ⟨input, receipt, same _ member rfl⟩

variable (deps) in
/-- Every configured layer returned a receipt, and the receipt of the second one attests a
nonempty execution trace if the model has answered. -/
structure Evidence (trace : Trace) (answered : Bool) (receiptId : JsString) : Prop where
  v1 : ∃ input receipt, ⟨.emit input, Except.ok receipt⟩ ∈ trace ∧ receipt.receipt_id = receiptId
  v2 : deps.hasReceiptEmitterV2 = true → ∃ input receipt,
    ⟨.emitV2 input, Except.ok receipt⟩ ∈ trace ∧ (answered = true → input.executionTrace ≠ [])

theorem Evidence.mono {trace more : Trace} {answered : Bool} {receiptId : JsString}
    (evidence : Evidence deps trace answered receiptId) (subset : trace ⊆ more) :
    Evidence deps more answered receiptId where
  v1 := by
    rcases evidence.v1 with ⟨input, receipt, member, isId⟩
    exact ⟨input, receipt, subset member, isId⟩
  v2 := by
    intro configured
    rcases evidence.v2 configured with ⟨input, receipt, member, attested⟩
    exact ⟨input, receipt, subset member, attested⟩

variable {trace : Trace}

theorem eq_of_executes_finalizeResult {result found : GovernedInvokeResult}
    {extraMetrics : List GovernedInvokeMetricName}
    (executes : Executes (finalizeResult deps result extraMetrics) trace (.ok found)) :
    found = result := by
  rcases executes_bind_ok executes with ⟨_, _, _, -, -, rest⟩
  rcases executes_bind_ok rest with ⟨_, _, _, -, -, last⟩
  exact Except.ok.inj (executes_pure_iff.mp last).2

theorem Evidence.returned {answered : Bool} {receiptId : JsString}
    (evidence : Evidence deps trace answered receiptId) : ReceiptsReturned deps trace := by
  refine ⟨?_, fun configured => ?_⟩
  · rcases evidence.v1 with ⟨input, receipt, member, -⟩
    exact ⟨input, receipt, member⟩
  · rcases evidence.v2 configured with ⟨input, receipt, member, -⟩
    exact ⟨input, receipt, member⟩

theorem executionTrace_ne_nil {records : List TransitRecord} (nonempty : records.length ≠ 0) :
    executionTraceFromTransitRecords records ≠ [] := by
  intro empty
  have lengths := congrArg List.length empty
  rw [executionTraceFromTransitRecords, List.length_map, List.length_insertionSort] at lengths
  exact nonempty lengths

/-- A second layer that is absent is not configured; one that is present reports whether it
returned a receipt, and has then attested a nonempty trace. -/
theorem executes_emitReceiptV2Layer {input : ReceiptEmissionInput} {report : Option ReceiptReport}
    (executes : Executes (emitReceiptV2Layer deps input) trace (.ok report)) :
    (deps.hasReceiptEmitterV2 = false ∧ report = none) ∨
      ∃ found, report = some found ∧ deps.hasReceiptEmitterV2 = true ∧
        (found.emitted = true ↔
          ∃ emission receipt, ⟨.emitV2 emission, Except.ok receipt⟩ ∈ trace) ∧
        ∀ emission reply, ⟨.emitV2 emission, reply⟩ ∈ trace →
          input.modelInvocationSucceeded = true → emission.executionTrace ≠ [] := by
  unfold emitReceiptV2Layer at executes
  split at executes
  case isFalse unconfigured =>
    exact Or.inl ⟨by simpa using unconfigured, Except.ok.inj (executes_pure_iff.mp executes).2⟩
  case isTrue configured =>
    rcases executes_bind_ok executes with ⟨records, before, after, rfl, isRecords, rest⟩
    have noEmission : ∀ {emission reply}, (⟨.emitV2 emission, reply⟩ : Exchange Reply) ∉ before := by
      intro emission reply member
      cases callsOnly_transitRecords before _ isRecords _ member
    split at rest
    case isTrue refused =>
      have same := executes_pure_iff.mp rest
      rw [same.1, List.append_nil]
      refine Or.inr ⟨_, Except.ok.inj same.2, configured, ?_, ?_⟩
      · exact ⟨fun emitted => absurd emitted Bool.false_ne_true,
          fun ⟨_, _, member⟩ => absurd member noEmission⟩
      · exact fun emission reply member => absurd member noEmission
    case isFalse attested =>
      rcases executes_perform_bind_iff.mp rest with ⟨reply, later, rfl, last⟩
      have ended : later = [] := by
        cases reply <;> exact (executes_pure_iff.mp last).1
      rw [ended] at last ⊢
      have single : ∀ {emission other}, (⟨.emitV2 emission, other⟩ : Exchange Reply) ∈
          before ++ [⟨_, reply⟩] → (⟨.emitV2 emission, other⟩ : Exchange Reply) = ⟨_, reply⟩ := by
        intro emission other member
        rcases List.mem_append.mp member with inBefore | isCall
        · exact absurd inBefore noEmission
        · exact List.mem_singleton.mp isCall
      have traced : ∀ emission other, ⟨.emitV2 emission, other⟩ ∈ before ++ [⟨_, reply⟩] →
          input.modelInvocationSucceeded = true → emission.executionTrace ≠ [] := by
        intro emission other member answered
        cases single member
        exact executionTrace_ne_nil fun empty => attested ⟨answered, empty⟩
      cases reply with
      | error error =>
        refine Or.inr ⟨_, Except.ok.inj (executes_pure_iff.mp last).2, configured, ?_, traced⟩
        refine ⟨fun emitted => absurd emitted Bool.false_ne_true, ?_⟩
        rintro ⟨emission, receipt, member⟩
        cases single member
      | ok receipt =>
        refine Or.inr ⟨_, Except.ok.inj (executes_pure_iff.mp last).2, configured, ?_, traced⟩
        exact ⟨fun _ => ⟨_, receipt, List.mem_append_right _ (List.mem_singleton.mpr rfl)⟩,
          fun _ => rfl⟩

theorem executes_emitReceipt {input : ReceiptEmissionInput} {emission : ReceiptEmission}
    (executes : Executes (emitReceipt deps input) trace (.ok emission)) :
    (∃ failureReason v2, emission = .failed failureReason v2 ∧ ¬ ReceiptsReturned deps trace) ∨
      ∃ receiptId v2, emission = .emitted receiptId v2 ∧
        Evidence deps trace input.modelInvocationSucceeded receiptId := by
  rcases executes_perform_bind_iff.mp executes with ⟨reply, rest, rfl, later⟩
  cases reply with
  | error error =>
    have same := executes_pure_iff.mp later
    rw [same.1]
    refine Or.inl ⟨_, _, Except.ok.inj same.2, ?_⟩
    rintro ⟨⟨emitted, receipt, member⟩, -⟩
    cases List.mem_singleton.mp member
  | ok receipt =>
    rcases executes_bind_ok later with ⟨report, before, after, rfl, layer, last⟩
    rcases executes_emitReceiptV2Layer layer with
      ⟨unconfigured, rfl⟩ | ⟨found, rfl, configured, returned, attested⟩
    · refine Or.inr ⟨_, _, Except.ok.inj (executes_pure_iff.mp last).2, ?_⟩
      refine ⟨⟨_, receipt, List.mem_cons_self, rfl⟩, fun configured => ?_⟩
      rw [unconfigured] at configured
      cases configured
    dsimp only at last
    split at last
    case isTrue emitted =>
      refine Or.inr ⟨_, _, Except.ok.inj (executes_pure_iff.mp last).2, ?_⟩
      refine ⟨⟨_, receipt, List.mem_cons_self, rfl⟩, fun _ => ?_⟩
      rcases returned.mp emitted with ⟨second, secondReceipt, member⟩
      exact ⟨second, secondReceipt, List.mem_cons_of_mem _ (List.mem_append_left _ member),
        attested second _ member⟩
    case isFalse unemitted =>
      have same := executes_pure_iff.mp last
      rw [same.1, List.append_nil]
      refine Or.inl ⟨_, _, Except.ok.inj same.2, ?_⟩
      rintro ⟨-, second⟩
      rcases second configured with ⟨emitted, secondReceipt, member⟩
      rcases List.mem_cons.mp member with isFirst | inLayer
      · cases isFirst
      · exact unemitted (returned.mpr ⟨emitted, secondReceipt, inLayer⟩)

end Reports

end GhostArk.EnforcementRuntime.Runtime
