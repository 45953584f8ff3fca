import GhostArk.EnforcementRuntime.Policy.Compiler
import GhostArk.EnforcementRuntime.Receipts.Repository
import GhostArk.Js.Double

/-!
Contract: `packages/enforcement-runtime/src/policy/evaluator.ts`.

Owns rule matching, the choice of a decision with everything a policy decision
reports, and the rule of choice: the decision is the strictest of the fallback
and the decisions of the matching rules.
-/

namespace GhostArk.EnforcementRuntime.Policy

open Js ReceiptSchema Receipts

/-- `intersects`: an absent or empty list of wanted values does not restrict. -/
def intersects {α : Type} [DecidableEq α] (left right : Option (List α)) : Bool :=
  match right with
  | none => true
  | some wanted => wanted.isEmpty || wanted.any fun value => (left.getD []).contains value

def hasUnknownRisk (context : PolicyEvaluationContext) : Bool :=
  (context.riskTags.getD []).any fun tag =>
    [js "unknown", js "unknown_risk", js "unclassified"].contains tag

section Evaluate

variable (runtime : PolicyRuntime)

/-- `includesText` of the evaluator. -/
def containsAny (haystack : Option JsString) (needles : Option (List JsString)) : Bool :=
  match needles with
  | none => true
  | some wanted =>
    wanted.isEmpty ||
      wanted.any fun needle =>
        includesText (runtime.toLowerCase (haystack.getD [])) (runtime.toLowerCase needle)

def matchesRule (rule : CompiledPolicyRule) (context : PolicyEvaluationContext) : Bool :=
  let condition := rule.ruleMatch
  rule.phase == context.phase &&
    containsAny runtime context.requestText condition.textContainsAny &&
    containsAny runtime context.outputText condition.outputContainsAny &&
    intersects context.riskTags condition.riskTagsAny &&
    intersects (context.memoryWrite.map MemoryWriteForPolicy.classificationTags)
      condition.memoryClassificationAny &&
    condition.memoryTierAny.all (fun tiers =>
      context.memoryWrite.any fun memoryWrite => tiers.contains memoryWrite.tier) &&
    condition.consentStateAny.all (fun states =>
      states.contains (context.consentState.getD .missing)) &&
    !(condition.requiresConsent == some true && context.consentState == some .granted) &&
    condition.retrievalTaintAny.all (fun taints =>
      intersects (some ((context.retrievedContext.getD []).flatMap
        RetrievedContextForPolicy.taint)) (some taints)) &&
    condition.bodyDeclaredTenant.all (fun declared =>
      declared == (context.bodyDeclaredTenant == some true))

def matchingRules (policy : CompiledPolicy) (context : PolicyEvaluationContext) :
    List CompiledPolicyRule :=
  policy.rules.filter fun rule => matchesRule runtime rule context

/-! ### Choice -/

def chooseDecision (rules : List CompiledPolicyRule) (fallback : DecisionKind) : DecisionKind :=
  rules.foldl (fun current rule => stricterDecision current rule.decision) fallback

/-- Winners of higher layers come first, then smaller rule ids. -/
def winnerLe (left right : CompiledPolicyRule) : Prop :=
  layerPrecedence right.layer < layerPrecedence left.layer ∨
    layerPrecedence right.layer = layerPrecedence left.layer ∧
      stringLt right.canonicalRuleId left.canonicalRuleId = false

instance : DecidableRel winnerLe := fun _ _ => inferInstanceAs (Decidable (_ ∨ _ ∧ _))

def winningRules (rules : List CompiledPolicyRule) (decision : DecisionKind) :
    List CompiledPolicyRule :=
  (rules.filter fun rule => rule.decision == decision).insertionSort winnerLe

def fallbackDecision (policy : CompiledPolicy) (context : PolicyEvaluationContext) :
    DecisionKind :=
  if (matchingRules runtime policy context).length > 0 then policy.defaultDecision
  else if hasUnknownRisk context then policy.unknownRiskDecision
  else policy.defaultDecision

/-- `[...new Set(items)].sort()`. -/
def sortedSet (items : List JsString) : List JsString := sortStrings items.eraseDups

theorem mem_sortedSet {items : List JsString} {item : JsString} :
    item ∈ sortedSet items ↔ item ∈ items := by
  rw [sortedSet, sortStrings, (List.perm_insertionSort _ _).mem_iff, List.mem_eraseDups]

def evaluatePolicy (policy : CompiledPolicy) (context : PolicyEvaluationContext) :
    PhaseDecision :=
  let rules := matchingRules runtime policy context
  let decision := chooseDecision rules (fallbackDecision runtime policy context)
  let winners := winningRules rules decision
  let initialRisk : JsNumber := if hasUnknownRisk context then .finite (1 / 2) else .ofNat 0
  let maxRisk := rules.foldl (fun current rule => current.max rule.riskScore) initialRisk
  { phase := context.phase
    decision
    policyVersion := policy.policyVersion
    policyHash := policy.policyHash
    matchedRuleIds := sortStrings (rules.map CompiledPolicyRule.canonicalRuleId)
    matchedLayers := sortedSet (rules.map fun rule => rule.layer.text)
    actionTaken := sortedSet (rules.flatMap fun rule => rule.actionTaken)
    riskScore := maxRisk.toFixedNumber 4
    reasons :=
      if winners.length > 0 then
        winners.map fun rule => rule.description.getD rule.canonicalRuleId
      else if hasUnknownRisk context then [js "unknown risk default"]
      else [js "policy default"] }

def contenders (policy : CompiledPolicy) (context : PolicyEvaluationContext) :
    List DecisionKind :=
  fallbackDecision runtime policy context ::
    (matchingRules runtime policy context).map fun rule => rule.decision

variable {runtime}

private theorem evaluatePolicy_decision (policy : CompiledPolicy)
    (context : PolicyEvaluationContext) :
    (evaluatePolicy runtime policy context).decision =
      ((matchingRules runtime policy context).map fun rule => rule.decision).foldl
        stricterDecision (fallbackDecision runtime policy context) := by
  rw [List.foldl_map]
  rfl

variable {policy : CompiledPolicy} {context : PolicyEvaluationContext}

theorem evaluatePolicy_decision_le_iff {bound : DecisionKind} :
    (evaluatePolicy runtime policy context).decision ≤ bound ↔
      ∀ decision ∈ contenders runtime policy context, decision ≤ bound := by
  rw [evaluatePolicy_decision, foldl_stricterDecision_le_iff, contenders, List.forall_mem_cons]

/-- No contending decision is stricter than the one made. -/
theorem le_evaluatePolicy_decision {decision : DecisionKind}
    (contends : decision ∈ contenders runtime policy context) :
    decision ≤ (evaluatePolicy runtime policy context).decision :=
  evaluatePolicy_decision_le_iff.mp (le_refl _) decision contends

theorem evaluatePolicy_decision_mem (policy : CompiledPolicy) (context : PolicyEvaluationContext) :
    (evaluatePolicy runtime policy context).decision ∈ contenders runtime policy context := by
  rw [evaluatePolicy_decision]
  exact foldl_stricterDecision_mem _ _

theorem evaluatePolicy_decision_eq_iff {decision : DecisionKind} :
    (evaluatePolicy runtime policy context).decision = decision ↔
      decision ∈ contenders runtime policy context ∧
        ∀ other ∈ contenders runtime policy context, other ≤ decision := by
  rw [← evaluatePolicy_decision_le_iff]
  constructor
  · intro isDecision
    exact ⟨isDecision ▸ evaluatePolicy_decision_mem policy context, le_of_eq isDecision⟩
  · intro ⟨contends, bounds⟩
    exact le_antisymm bounds (le_evaluatePolicy_decision contends)

theorem lt_evaluatePolicy_decision_iff {bound : DecisionKind} :
    bound < (evaluatePolicy runtime policy context).decision ↔
      ∃ decision ∈ contenders runtime policy context, bound < decision := by
  rw [← not_le, evaluatePolicy_decision_le_iff]
  simp only [not_forall, not_le, exists_prop]

end Evaluate

end GhostArk.EnforcementRuntime.Policy
