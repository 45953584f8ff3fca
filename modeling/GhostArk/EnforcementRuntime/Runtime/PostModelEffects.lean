import GhostArk.EnforcementRuntime.Runtime.Settlement

/-!
Contract: what the post-model decision of `governedInvoke` does to the response and to memory.

One winning decision is dispatched to effects that the rank of decisions does not
order: `MEMORY_SUPPRESS` outranks `REDACT` and redacts nothing, and `REFUSE`
outranks `MEMORY_SUPPRESS` and suppresses nothing. Owns the exact conditions under
which a matched redaction or suppression is lost that way.
-/

namespace GhostArk.EnforcementRuntime.Runtime

open Js ReceiptSchema Policy
open Receipts Retrieval
open Vault Identity Lib Program

section Rules

variable (runtime : PolicyRuntime) (request : GovernedInvokeRequest) (admission : Admission)

def postModelRules (output : ModelInvokeOutput) : List CompiledPolicyRule :=
  matchingRules runtime admission.compiledPolicy
    (postModelContext request admission.retrieval output.outputText)

def postModelContenders (output : ModelInvokeOutput) : List DecisionKind :=
  contenders runtime admission.compiledPolicy
    (postModelContext request admission.retrieval output.outputText)

def memoryContenders (output : ModelInvokeOutput) (memoryWrite : RequestedMemoryWrite) :
    List DecisionKind :=
  contenders runtime admission.compiledPolicy
    (memoryWriteContext request admission.retrieval output.outputText memoryWrite)

end Rules

namespace Sample

def redactingRules : List JsValue :=
  [Policy.Sample.rule "redact" .post_model .REDACT,
    Policy.Sample.rule "suppress" .post_model .MEMORY_SUPPRESS]

def suppressingRules : List JsValue :=
  [Policy.Sample.rule "suppress" .post_model .MEMORY_SUPPRESS,
    Policy.Sample.rule "refuse" .post_model .REFUSE]

def leak : JsString := js "password: hunter2"

def output (outputText : JsString) : ModelInvokeOutput := ⟨outputText, .ofNat 5, none⟩

/-- Whether a post-model rule with the given decision matches the sample run. -/
def matchesDecision (decision : DecisionKind) (outputText : JsString) (admission : Admission) :
    Bool :=
  (postModelRules Policy.Sample.runtime request admission (output outputText)).any fun rule =>
    rule.decision == decision

theorem exists_rule {decision : DecisionKind} {outputText : JsString} {admission : Admission}
    (isMatch : matchesDecision decision outputText admission = true) :
    ∃ rule ∈ postModelRules Policy.Sample.runtime request admission (output outputText),
      rule.decision = decision := by
  rcases List.any_eq_true.mp isMatch with ⟨rule, member, isDecision⟩
  exact ⟨rule, member, eq_of_beq isDecision⟩

def isWrite : DependencyCall → Bool
  | .write _ _ _ => true
  | _ => false

theorem exists_write {call : DependencyCall} (isCall : isWrite call = true) :
    ∃ write decision consentState, call = .write write decision consentState := by
  cases call with
  | write write decision consentState => exact ⟨write, decision, consentState, rfl⟩
  | _ => cases isCall

end Sample

section Effects

variable {runtime : PolicyRuntime} {deps : GovernedInvokeDependencies}
variable {request : GovernedInvokeRequest} {admission : Admission} {output : ModelInvokeOutput}

/-- The decision of a matching rule contends. -/
theorem mem_postModelContenders {rule : CompiledPolicyRule}
    (isMatch : rule ∈ postModelRules runtime request admission output) :
    rule.decision ∈ postModelContenders runtime request admission output :=
  List.mem_cons_of_mem _ (List.mem_map_of_mem isMatch)

/-! ### Redaction -/

/-- The response does not expose an output that redaction would change. -/
def RedactionKept (outputText : JsString) (result : GovernedInvokeResult) : Prop :=
  result.responseText ≠ some outputText ∧
    (result.responseText = some (redactModelOutput outputText) ∨
      result.responseText = some refusalText ∨ result.responseText = none)

/-- Memory suppression is the strictest post-model decision. -/
def SuppressionWins (runtime : PolicyRuntime) (request : GovernedInvokeRequest)
    (admission : Admission) (output : ModelInvokeOutput) : Prop :=
  .MEMORY_SUPPRESS ∈ postModelContenders runtime request admission output ∧
    ∀ decision ∈ postModelContenders runtime request admission output,
      decision ≤ .MEMORY_SUPPRESS

/-- Suppression wins exactly if it is the decision made. -/
theorem suppressionWins_iff :
    SuppressionWins runtime request admission output ↔
      (postModelDecision runtime request admission output).decision = .MEMORY_SUPPRESS :=
  evaluatePolicy_decision_eq_iff.symm

theorem plannedWrite_of_suppressed
    (suppressed : (postModelDecision runtime request admission output).decision =
      .MEMORY_SUPPRESS) :
    plannedWrite runtime request admission (answerOf runtime request admission output) = none := by
  unfold plannedWrite memoryDecision answerOf
  cases request.memoryWrite with
  | none => rfl
  | some memoryWrite =>
    dsimp only [Option.bind_some]
    rw [if_pos suppressed]
    rfl

theorem redactModelOutput_refusalText : redactModelOutput refusalText = refusalText := by
  decide +kernel

theorem redactionKept_of_none {outputText : JsString} {result : GovernedInvokeResult}
    (withheld : result.responseText = none) : RedactionKept outputText result := by
  rw [RedactionKept, withheld]
  exact ⟨(Option.some_ne_none outputText).symm, Or.inr (Or.inr rfl)⟩

theorem redactionKept_of_release {decision : DecisionKind} {outputText : JsString}
    {result : GovernedInvokeResult} (strict : .REDACT ≤ decision)
    (other : decision ≠ .MEMORY_SUPPRESS) (differs : redactModelOutput outputText ≠ outputText)
    (isText : result.responseText = (releaseFor decision outputText).responseText) :
    RedactionKept outputText result := by
  have notRefusal : refusalText ≠ outputText := by
    intro isRefusal
    apply differs
    rw [← isRefusal]
    exact redactModelOutput_refusalText
  rw [RedactionKept, isText]
  cases decision with
  | REDACT => exact ⟨fun same => differs (Option.some.inj same), Or.inl rfl⟩
  | REFUSE => exact ⟨fun same => notRefusal (Option.some.inj same), Or.inr (Or.inl rfl)⟩
  | SILENCE | ESCALATE | HUMAN_REVIEW | REQUIRE_CONSENT =>
    exact ⟨(Option.some_ne_none outputText).symm, Or.inr (Or.inr rfl)⟩
  | MEMORY_SUPPRESS => exact absurd rfl other
  | ALLOW | RECEIPT_ONLY | MODIFY => exact absurd strict (by decide)

/-- **Redaction.** A run that matches a redacting rule redacts, refuses or withholds the output,
unless memory suppression is the strictest decision and the receipts are returned. -/
theorem redaction_kept_iff {before after : Trace} {result : GovernedInvokeResult}
    (executes : Executes (governedInvoke runtime deps request)
      (before ++ ⟨.invoke (modelInvokeInput request admission), Except.ok output⟩ :: after)
      (.ok result))
    (asked : Asked runtime deps request before admission)
    (redacts : ∃ rule ∈ postModelRules runtime request admission output, rule.decision = .REDACT)
    (differs : redactModelOutput output.outputText ≠ output.outputText) :
    RedactionKept output.outputText result ↔
      ¬ (SuppressionWins runtime request admission output ∧ ReceiptsReturned deps after) := by
  have settled := settled_of_executes (executes_afterReply executes asked)
  have strict : .REDACT ≤ (postModelDecision runtime request admission output).decision := by
    rcases redacts with ⟨rule, isMatch, isRedact⟩
    rw [← isRedact]
    exact le_evaluatePolicy_decision (mem_postModelContenders isMatch)
  rw [suppressionWins_iff]
  by_cases wins : (postModelDecision runtime request admission output).decision = .MEMORY_SUPPRESS
  · have unplanned := plannedWrite_of_suppressed wins
    cases settled with
    | unwritten _ _ concluded =>
      rcases (executes_conclude concluded).2 with
        ⟨unreturned, -, withheld⟩ | ⟨receiptId, evidence, -, -, isText⟩
      · exact iff_of_true (redactionKept_of_none withheld) fun lost => unreturned lost.2
      · have exposed : result.responseText = some output.outputText := by
          rw [isText, answerOf, wins]
          rfl
        exact iff_of_false (fun kept => kept.1 exposed) fun kept => kept ⟨wins, evidence.returned⟩
    | written planned _ =>
      rw [unplanned] at planned
      cases planned
    | failed planned _ =>
      rw [unplanned] at planned
      cases planned
  · refine iff_of_true ?_ fun lost => wins lost.1
    rcases settled.released with ⟨-, withheld⟩ | ⟨receiptId, -, -, isText⟩
    · exact redactionKept_of_none withheld
    · exact redactionKept_of_release strict wins differs isText

end Effects

/-- A suppressing rule beside a redacting one releases a credential. -/
theorem redaction_dropped :
    ∃ before after admission output result,
      Executes (governedInvoke Policy.Sample.runtime Sample.deps Sample.request)
        (before ++ ⟨.invoke (modelInvokeInput Sample.request admission), Except.ok output⟩ :: after)
        (.ok result) ∧
      Asked Policy.Sample.runtime Sample.deps Sample.request before admission ∧
      (∃ rule ∈ postModelRules Policy.Sample.runtime Sample.request admission output,
        rule.decision = .REDACT) ∧
      redactModelOutput output.outputText ≠ output.outputText ∧
      result.responseText = some output.outputText := by
  have executes := Sample.executes_runWith Sample.redactingRules Sample.leak true
  have admits : (Sample.reachWith Sample.redactingRules Sample.leak true).2.1.toOption.any
      (Sample.matchesDecision .REDACT Sample.leak) = true := by
    decide +kernel
  have responds : (Sample.runWith Sample.redactingRules Sample.leak true).2.1.toOption.any
      (fun result => result.responseText == some Sample.leak) = true := by
    decide +kernel
  rcases Sample.exists_asked admits with ⟨before, admission, after, isTrace, asked, isMatch⟩
  rcases exists_ok_of_any responds with ⟨result, isResult, response⟩
  rw [isTrace, isResult] at executes
  exact ⟨before, after, admission, _, result, executes, asked, Sample.exists_rule isMatch,
    by decide +kernel, eq_of_beq response⟩

/-- The condition at the sample run without a suppressing rule. -/
theorem redaction_kept_iff_sample :
    ∃ before after admission output result,
      Executes (governedInvoke Policy.Sample.runtime Sample.deps Sample.request)
        (before ++ ⟨.invoke (modelInvokeInput Sample.request admission), Except.ok output⟩ :: after)
        (.ok result) ∧
      (RedactionKept output.outputText result ↔
        ¬ (SuppressionWins Policy.Sample.runtime Sample.request admission output ∧
          ReceiptsReturned Sample.deps after)) := by
  have executes := Sample.executes_runWith (Sample.redactingRules.take 1) Sample.leak true
  have admits : (Sample.reachWith (Sample.redactingRules.take 1) Sample.leak true).2.1.toOption.any
      (Sample.matchesDecision .REDACT Sample.leak) = true := by
    decide +kernel
  have returns : (Sample.runWith (Sample.redactingRules.take 1) Sample.leak true).2.1.toOption.any
      (fun _ => true) = true := by
    decide +kernel
  rcases Sample.exists_asked admits with ⟨before, admission, after, isTrace, asked, isMatch⟩
  rcases exists_ok_of_any returns with ⟨result, isResult, -⟩
  rw [isTrace, isResult] at executes
  exact ⟨before, after, admission, _, result, executes,
    redaction_kept_iff executes asked (Sample.exists_rule isMatch) (by decide +kernel)⟩

section Effects

variable {runtime : PolicyRuntime} {deps : GovernedInvokeDependencies}
variable {request : GovernedInvokeRequest} {admission : Admission} {output : ModelInvokeOutput}

/-! ### Memory suppression -/

theorem isMemoryWriteAllowed_iff {decision : PhaseDecision} :
    isMemoryWriteAllowed decision = true ↔ decision.decision ≤ .REDACT := by
  unfold isMemoryWriteAllowed
  cases decision.decision <;> decide

theorem isSome_plannedWrite_iff {memoryWrite : RequestedMemoryWrite}
    (requested : request.memoryWrite = some memoryWrite) :
    (plannedWrite runtime request admission (answerOf runtime request admission output)).isSome =
        true ↔
      (postModelDecision runtime request admission output).decision ≠ .MEMORY_SUPPRESS ∧
        ∀ decision ∈ memoryContenders runtime request admission output memoryWrite,
          decision ≤ .REDACT := by
  by_cases wins : (postModelDecision runtime request admission output).decision = .MEMORY_SUPPRESS
  · rw [plannedWrite_of_suppressed wins]
    exact iff_of_false Bool.false_ne_true fun both => both.1 wins
  have isDecision : memoryDecision runtime request admission output.outputText
      (postModelDecision runtime request admission output) memoryWrite =
        evaluatePolicy runtime admission.compiledPolicy
          (memoryWriteContext request admission.retrieval output.outputText memoryWrite) :=
    if_neg wins
  rw [memoryContenders, ← evaluatePolicy_decision_le_iff, ← isMemoryWriteAllowed_iff, ← isDecision,
    and_iff_right wins, plannedWrite, requested, Option.bind_some, answerOf]
  dsimp only
  split
  · rename_i allowed
    exact iff_of_true rfl allowed
  · rename_i refused
    exact iff_of_false Bool.false_ne_true refused

/-- A settled answer has a write call exactly if it plans one. -/
theorem exists_write_iff {answer : Answer} {after : Trace}
    {outcome : Except JsError GovernedInvokeResult}
    (settled : Settled runtime deps request admission answer after outcome) :
    (∃ exchange ∈ after, ∃ write decision consentState,
        exchange.call = .write write decision consentState) ↔
      (plannedWrite runtime request admission answer).isSome = true := by
  cases settled with
  | unwritten unplanned _ concluded =>
    rw [unplanned]
    refine iff_of_false ?_ Bool.false_ne_true
    rintro ⟨exchange, member, write, decision, consentState, isCall⟩
    have isReport := reporting_conclude after outcome concluded exchange member
    rw [isCall] at isReport
    cases isReport
  | written planned _ =>
    rw [planned]
    exact iff_of_true ⟨_, List.mem_cons_self, _, _, _, rfl⟩ rfl
  | failed planned _ =>
    rw [planned]
    exact iff_of_true ⟨_, List.mem_cons_self, _, _, _, rfl⟩ rfl

/-- **Suppression.** A run with a suppressing rule, or one that withholds its output, asks for a
memory write exactly when a stricter rule wins and the rules of the memory phase allow the write. -/
theorem memory_suppression_kept_iff {before after : Trace} {memoryWrite : RequestedMemoryWrite}
    {outcome : Except JsError GovernedInvokeResult}
    (executes : Executes (governedInvoke runtime deps request)
      (before ++ ⟨.invoke (modelInvokeInput request admission), Except.ok output⟩ :: after) outcome)
    (asked : Asked runtime deps request before admission)
    (requested : request.memoryWrite = some memoryWrite)
    (suppresses :
      (∃ rule ∈ postModelRules runtime request admission output,
        rule.decision = .MEMORY_SUPPRESS) ∨
      (postModelDecision runtime request admission output).decision ∈
        [.REFUSE, .SILENCE, .ESCALATE, .HUMAN_REVIEW]) :
    (∀ exchange ∈ before ++
        ⟨.invoke (modelInvokeInput request admission), Except.ok output⟩ :: after,
      ∀ write decision consentState, exchange.call ≠ .write write decision consentState) ↔
      ¬ ((∃ decision ∈ postModelContenders runtime request admission output,
          .MEMORY_SUPPRESS < decision) ∧
        ∀ decision ∈ memoryContenders runtime request admission output memoryWrite,
          decision ≤ .REDACT) := by
  have settled := settled_of_executes (executes_afterReply executes asked)
  rcases asked.admitted with ⟨now, opening, -, admitted⟩
  have atLeast : .MEMORY_SUPPRESS ≤ (postModelDecision runtime request admission output).decision := by
    rcases suppresses with ⟨rule, isMatch, isSuppress⟩ | withholds
    · rw [← isSuppress]
      exact le_evaluatePolicy_decision (mem_postModelContenders isMatch)
    · revert withholds
      cases (postModelDecision runtime request admission output).decision <;> decide
  have stricter : (∃ decision ∈ postModelContenders runtime request admission output,
      .MEMORY_SUPPRESS < decision) ↔
        (postModelDecision runtime request admission output).decision ≠ .MEMORY_SUPPRESS := by
    rw [← atLeast.lt_iff_ne']
    exact lt_evaluatePolicy_decision_iff.symm
  -- only the part after the model's answer can hold a write
  have onlyAfter : (∀ exchange ∈ before ++
      ⟨.invoke (modelInvokeInput request admission), Except.ok output⟩ :: after,
        ∀ write decision consentState, exchange.call ≠ .write write decision consentState) ↔
      ¬ ∃ exchange ∈ after, ∃ write decision consentState,
        exchange.call = .write write decision consentState := by
    constructor
    · rintro noWrite ⟨exchange, member, write, decision, consentState, isCall⟩
      exact noWrite exchange (List.mem_append_right _ (List.mem_cons_of_mem _ member)) _ _ _ isCall
    · intro noWrite exchange member write decision consentState isCall
      rcases List.mem_append.mp member with inBefore | inRest
      · have isGate := admitted.calls exchange inBefore
        rw [isCall] at isGate
        cases isGate
      · rcases List.mem_cons.mp inRest with isInvoke | inAfter
        · rw [isInvoke] at isCall
          cases isCall
        · exact noWrite ⟨exchange, inAfter, write, decision, consentState, isCall⟩
  rw [onlyAfter, exists_write_iff settled, isSome_plannedWrite_iff requested, stricter]

end Effects

/-- A refusing rule beside a suppressing one lets memory be written. -/
theorem memory_suppression_lost :
    ∃ before after admission output outcome,
      Executes (governedInvoke Policy.Sample.runtime Sample.deps Sample.request)
        (before ++ ⟨.invoke (modelInvokeInput Sample.request admission), Except.ok output⟩ :: after)
        outcome ∧
      Asked Policy.Sample.runtime Sample.deps Sample.request before admission ∧
      Sample.request.memoryWrite.isSome = true ∧
      (∃ rule ∈ postModelRules Policy.Sample.runtime Sample.request admission output,
        rule.decision = .MEMORY_SUPPRESS) ∧
      ∃ exchange ∈ before ++
          ⟨.invoke (modelInvokeInput Sample.request admission), Except.ok output⟩ :: after,
        ∃ write decision consentState, exchange.call = .write write decision consentState := by
  have executes := Sample.executes_runWith Sample.suppressingRules (js "answer") true
  have admits : (Sample.reachWith Sample.suppressingRules (js "answer") true).2.1.toOption.any
      (Sample.matchesDecision .MEMORY_SUPPRESS (js "answer")) = true := by
    decide +kernel
  have writes : (Sample.runWith Sample.suppressingRules (js "answer") true).1.any
      (fun exchange => Sample.isWrite exchange.call) = true := by
    decide +kernel
  rcases Sample.exists_asked admits with ⟨before, admission, after, isTrace, asked, isMatch⟩
  rw [isTrace] at executes writes
  rcases List.any_eq_true.mp writes with ⟨exchange, member, isCall⟩
  exact ⟨before, after, admission, _, _, executes, asked, rfl, Sample.exists_rule isMatch,
    exchange, member, Sample.exists_write isCall⟩

/-- The condition at the same run. -/
theorem memory_suppression_kept_iff_sample :
    ∃ before after admission output memoryWrite,
      Asked Policy.Sample.runtime Sample.deps Sample.request before admission ∧
      ((∀ exchange ∈ before ++
          ⟨.invoke (modelInvokeInput Sample.request admission), Except.ok output⟩ :: after,
        ∀ write decision consentState, exchange.call ≠ .write write decision consentState) ↔
      ¬ ((∃ decision ∈ postModelContenders Policy.Sample.runtime Sample.request admission output,
          .MEMORY_SUPPRESS < decision) ∧
        ∀ decision ∈ memoryContenders Policy.Sample.runtime Sample.request admission output
          memoryWrite, decision ≤ .REDACT)) := by
  have executes := Sample.executes_runWith Sample.suppressingRules (js "answer") true
  have admits : (Sample.reachWith Sample.suppressingRules (js "answer") true).2.1.toOption.any
      (Sample.matchesDecision .MEMORY_SUPPRESS (js "answer")) = true := by
    decide +kernel
  rcases Sample.exists_asked admits with ⟨before, admission, after, isTrace, asked, isMatch⟩
  rw [isTrace] at executes
  exact ⟨before, after, admission, _, _, asked,
    memory_suppression_kept_iff executes asked rfl (Or.inl (Sample.exists_rule isMatch))⟩

end GhostArk.EnforcementRuntime.Runtime
