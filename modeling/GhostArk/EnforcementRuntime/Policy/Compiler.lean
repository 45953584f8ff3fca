import GhostArk.EnforcementRuntime.Policy.Schema
import GhostArk.EnforcementRuntime.Receipts.Canonical

/-!
Contract: `packages/enforcement-runtime/src/policy/compiler.ts` and `policy/canonical.ts`.

Owns validation of sources, their order, the compiled policy with its hash, and
what compilation keeps: the compiled rules are those of the sources, and the two
compiled defaults are the strictest of the sources.
-/

namespace GhostArk.EnforcementRuntime.Policy

open Js ReceiptSchema Receipts

/-- Host functions of the policy modules. -/
structure PolicyRuntime extends ReceiptRuntime where
  /-- `String.prototype.toLowerCase`. -/
  toLowerCase : JsString → JsString
  /-- The issues the schema library reports for a value it refuses. -/
  policyIssues : JsValue → JsValue

def layerPrecedence : PolicyLayer → Nat
  | .default => 0
  | .user => 1
  | .organization => 2
  | .regulated => 3
  | .emergency => 4

structure CompiledPolicyRule extends PolicyRule where
  canonicalRuleId : JsString
  sourcePolicyId : JsString
  sourceVersion : JsString
  layer : PolicyLayer
deriving DecidableEq

/-- `Omit<CompiledPolicy, "policyHash">` less the two constant versions. -/
structure CompiledPolicyBody where
  policyVersion : JsString
  defaultDecision : DecisionKind
  unknownRiskDecision : DecisionKind
  rules : List CompiledPolicyRule
deriving DecidableEq

structure CompiledPolicy extends CompiledPolicyBody where
  policyHash : JsString
deriving DecidableEq

def optionalEntry (key : String) (value : Option JsValue) : List (JsString × JsValue) :=
  (value.map fun given => (js key, given)).toList

def undefinedEntries (keys : List JsString) : List (JsString × JsValue) :=
  keys.map fun key => (key, .undefined)

def PolicyRuleMatch.toJs (ruleMatch : PolicyRuleMatch) : JsValue :=
  let words {α : Type} (text : α → JsString) (values : List α) : JsValue :=
    stringArray (values.map text)
  .object
    (optionalEntry "textContainsAny" (ruleMatch.textContainsAny.map stringArray) ++
      optionalEntry "outputContainsAny" (ruleMatch.outputContainsAny.map stringArray) ++
      optionalEntry "riskTagsAny" (ruleMatch.riskTagsAny.map stringArray) ++
      optionalEntry "retrievalTaintAny"
        (ruleMatch.retrievalTaintAny.map (words RetrievalTaint.text)) ++
      optionalEntry "memoryTierAny" (ruleMatch.memoryTierAny.map (words MemoryTier.text)) ++
      optionalEntry "memoryClassificationAny"
        (ruleMatch.memoryClassificationAny.map stringArray) ++
      optionalEntry "consentStateAny" (ruleMatch.consentStateAny.map (words ConsentState.text)) ++
      optionalEntry "requiresConsent" (ruleMatch.requiresConsent.map .bool) ++
      optionalEntry "bodyDeclaredTenant" (ruleMatch.bodyDeclaredTenant.map .bool) ++
      undefinedEntries ruleMatch.undefinedKeys)

def CompiledPolicyRule.toJs (rule : CompiledPolicyRule) : JsValue :=
  .object
    ([(js "id", .string rule.id)] ++
      optionalEntry "description" (rule.description.map .string) ++
      undefinedEntries rule.undefinedKeys ++
      [(js "phase", .string rule.phase.text),
        (js "decision", .string rule.decision.text),
        (js "riskScore", .number rule.riskScore),
        (js "actionTaken", stringArray rule.actionTaken),
        (js "match", rule.ruleMatch.toJs),
        (js "canonicalRuleId", .string rule.canonicalRuleId),
        (js "sourcePolicyId", .string rule.sourcePolicyId),
        (js "sourceVersion", .string rule.sourceVersion),
        (js "layer", .string rule.layer.text)])

def CompiledPolicyBody.toJs (policy : CompiledPolicyBody) : JsValue :=
  .object
    [(js "schemaVersion", .string (js "ghost.compiled_policy.v1")),
      (js "compilerVersion", .string (js "ghost-policy-compiler-ts.1")),
      (js "policyVersion", .string policy.policyVersion),
      (js "defaultDecision", .string policy.defaultDecision.text),
      (js "unknownRiskDecision", .string policy.unknownRiskDecision.text),
      (js "rules", .array (policy.rules.map CompiledPolicyRule.toJs))]

/-- `items.sort((left, right) => …)` by a text of each item. -/
def sortByText {α : Type} (text : α → JsString) (items : List α) : List α :=
  items.insertionSort fun left right => stringLt (text right) (text left) = false

theorem perm_sortByText {α : Type} (text : α → JsString) (items : List α) :
    (sortByText text items).Perm items :=
  List.perm_insertionSort _ items

def precedenceDigit (layer : PolicyLayer) : JsString :=
  [hexDigit (Fin.ofNat 16 (layerPrecedence layer))]

def sourceSortKey (policy : PolicySource) : JsString :=
  precedenceDigit policy.layer ++ js ":" ++ policy.layer.text ++ js ":" ++ policy.policyId ++
    js ":" ++ policy.version

def ruleSortKey (rule : CompiledPolicyRule) : JsString :=
  join (js ":") [rule.phase.text, js "0" ++ precedenceDigit rule.layer, rule.sourcePolicyId,
    rule.sourceVersion, rule.id]

def compileRule (policy : PolicySource) (rule : PolicyRule) : CompiledPolicyRule where
  toPolicyRule := rule
  canonicalRuleId := policy.layer.text ++ js ":" ++ policy.policyId ++ js ":" ++ policy.version ++
    js ":" ++ rule.id
  sourcePolicyId := policy.policyId
  sourceVersion := policy.version
  layer := policy.layer

def compileBody (policies : List PolicySource) : CompiledPolicyBody where
  policyVersion := join (js "+") (policies.map fun policy =>
    policy.layer.text ++ js ":" ++ policy.policyId ++ js "@" ++ policy.version)
  defaultDecision := mostRestrictiveDecision (policies.map PolicySource.defaultDecision)
  unknownRiskDecision := mostRestrictiveDecision (policies.map PolicySource.unknownRiskDecision)
  rules := sortByText ruleSortKey
    (policies.flatMap fun policy => policy.rules.map (compileRule policy))

section Compile

variable (runtime : PolicyRuntime)

def canonicalPolicyHash (policy : CompiledPolicyBody) : Except JsError JsString :=
  canonicalSha256Hex runtime.toRuntime policy.toJs

def validatePolicySource (value : JsValue) : Except JsError PolicySource :=
  match readSource value with
  | some source => .ok source
  | none => .error ⟨.validationError, js "Invalid policy source",
      [(js "issues", runtime.policyIssues value)]⟩

def compilePolicySet (policies : List JsValue) : Except JsError CompiledPolicy := do
  let sources ← policies.mapM (validatePolicySource runtime)
  let sorted := sortByText sourceSortKey sources
  if sorted.length = 0 then
    .error ⟨.validationError, js "At least one policy source is required", []⟩
  else
    let policyHash ← canonicalPolicyHash runtime (compileBody sorted)
    return { compileBody sorted with policyHash }

variable {runtime}

theorem compilePolicySet_eq_ok {policies : List JsValue} {compiled : CompiledPolicy}
    (isCompiled : compilePolicySet runtime policies = .ok compiled) :
    ∃ sources, policies.mapM (validatePolicySource runtime) = .ok sources ∧ sources ≠ [] ∧
      compiled.toCompiledPolicyBody = compileBody (sortByText sourceSortKey sources) := by
  rw [compilePolicySet, bind_eq_ok] at isCompiled
  cases isCompiled with
  | intro sources both =>
    refine ⟨sources, both.1, ?_⟩
    have isCompiled := both.2
    have sameLength := (perm_sortByText sourceSortKey sources).length_eq
    dsimp only at isCompiled
    split at isCompiled
    next => cases isCompiled
    next nonempty =>
      rw [bind_eq_ok] at isCompiled
      cases isCompiled with
      | intro policyHash hashed =>
        refine ⟨?_, congrArg CompiledPolicy.toCompiledPolicyBody (pure_eq_ok.mp hashed.2).symm⟩
        intro empty
        rw [empty] at sameLength
        exact nonempty (empty ▸ sameLength)

theorem mem_rules_compileBody {policies : List PolicySource} {rule : CompiledPolicyRule} :
    rule ∈ (compileBody policies).rules ↔
      ∃ policy ∈ policies, ∃ sourceRule ∈ policy.rules, rule = compileRule policy sourceRule := by
  rw [compileBody, (perm_sortByText _ _).mem_iff, List.mem_flatMap]
  simp only [List.mem_map, eq_comm]

end Compile

end GhostArk.EnforcementRuntime.Policy
