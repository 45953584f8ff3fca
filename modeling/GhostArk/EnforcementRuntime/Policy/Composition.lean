import GhostArk.EnforcementRuntime.Policy.Evaluator
import GhostArk.EnforcementRuntime.Receipts.Chain

/-!
Contract: what adding policy sources does to a decision.

Owns the comparison of a policy set with an extension of it. The decision stays
at least as strict, except that a matching rule of the extension switches off
the unknown-risk decision of a set in which nothing matched.
-/

namespace GhostArk.EnforcementRuntime.Policy

open Js ReceiptSchema Receipts

section Composition

variable (runtime : PolicyRuntime)

def SourceMatches (source : PolicySource) (context : PolicyEvaluationContext) : Prop :=
  ∃ rule ∈ source.rules, matchesRule runtime (compileRule source rule) context = true

/-- The extension switches off an unknown-risk decision that nothing else in
the extended set is as strict as. -/
def UnknownRiskSwitchedOff (sources further : List PolicySource)
    (context : PolicyEvaluationContext) : Prop :=
  hasUnknownRisk context = true ∧
    (∀ source ∈ sources, ¬ SourceMatches runtime source context) ∧
    (∃ source ∈ further, SourceMatches runtime source context) ∧
    ∃ source ∈ sources,
      (∀ other ∈ sources ++ further, other.defaultDecision < source.unknownRiskDecision) ∧
      ∀ other ∈ further, ∀ rule ∈ other.rules,
        matchesRule runtime (compileRule other rule) context = true →
          rule.decision < source.unknownRiskDecision

/-- The compiled policy of a list of sources, as evaluation reads it. -/
structure CompiledFrom (sources : List PolicySource) (compiled : CompiledPolicy) : Prop where
  mem_rules : ∀ rule, rule ∈ compiled.rules ↔
    ∃ source ∈ sources, ∃ sourceRule ∈ source.rules, rule = compileRule source sourceRule
  default_mem : ∃ source ∈ sources, source.defaultDecision = compiled.defaultDecision
  default_le : ∀ bound, compiled.defaultDecision ≤ bound ↔
    ∀ source ∈ sources, source.defaultDecision ≤ bound
  unknownRisk_le : ∀ bound, compiled.unknownRiskDecision ≤ bound ↔
    ∀ source ∈ sources, source.unknownRiskDecision ≤ bound

variable {runtime}

/-- What evaluation reads of a compiled set comes from its sources. -/
theorem compiledFrom_of_compilePolicySet {policies : List JsValue} {sources : List PolicySource}
    {compiled : CompiledPolicy}
    (validated : policies.mapM (validatePolicySource runtime) = .ok sources)
    (isCompiled : compilePolicySet runtime policies = .ok compiled) :
    CompiledFrom sources compiled := by
  rcases compilePolicySet_eq_ok isCompiled with ⟨found, foundValid, nonempty, body⟩
  obtain rfl : found = sources := Except.ok.inj (foundValid.symm.trans validated)
  have permuted := perm_sortByText sourceSortKey found
  have sortedNonempty : sortByText sourceSortKey found ≠ [] := by
    intro empty
    rw [empty] at permuted
    exact nonempty permuted.symm.eq_nil
  have bounds : ∀ (read : PolicySource → DecisionKind) (bound : DecisionKind),
      mostRestrictiveDecision ((sortByText sourceSortKey found).map read) ≤ bound ↔
        ∀ source ∈ found, read source ≤ bound := by
    intro read bound
    rw [mostRestrictiveDecision_le_iff (by simpa using sortedNonempty), List.forall_mem_map]
    exact forall_congr' fun source => imp_congr_left permuted.mem_iff
  refine ⟨fun rule => ?_, ?_, fun bound => ?_, fun bound => ?_⟩
  · rw [body, mem_rules_compileBody]
    exact exists_congr fun source => and_congr_left fun _ => permuted.mem_iff
  · rw [body]
    have someDefault : (sortByText sourceSortKey found).map PolicySource.defaultDecision ≠ [] := by
      simpa using sortedNonempty
    rcases List.mem_map.mp (mostRestrictiveDecision_mem someDefault) with ⟨source, inSorted, isDefault⟩
    exact ⟨source, permuted.mem_iff.mp inSorted, isDefault⟩
  · rw [body]
    exact bounds PolicySource.defaultDecision bound
  · rw [body]
    exact bounds PolicySource.unknownRiskDecision bound

theorem CompiledFrom.mem_matchingRules {sources : List PolicySource} {compiled : CompiledPolicy}
    (from' : CompiledFrom sources compiled) {context : PolicyEvaluationContext}
    {rule : CompiledPolicyRule} :
    rule ∈ matchingRules runtime compiled context ↔
      ∃ source ∈ sources, ∃ sourceRule ∈ source.rules, rule = compileRule source sourceRule ∧
        matchesRule runtime (compileRule source sourceRule) context = true := by
  rw [matchingRules, List.mem_filter, from'.mem_rules]
  constructor
  · rintro ⟨⟨source, inSources, sourceRule, inRules, rfl⟩, isMatch⟩
    exact ⟨source, inSources, sourceRule, inRules, rfl, isMatch⟩
  · rintro ⟨source, inSources, sourceRule, inRules, rfl, isMatch⟩
    exact ⟨⟨source, inSources, sourceRule, inRules, rfl⟩, isMatch⟩

section Fallback

variable {sources : List PolicySource} {compiled : CompiledPolicy}
  {context : PolicyEvaluationContext}

theorem CompiledFrom.fallbackDecision_default (from' : CompiledFrom sources compiled)
    (matchedOrKnown : (∃ source ∈ sources, SourceMatches runtime source context) ∨
      hasUnknownRisk context = false) :
    fallbackDecision runtime compiled context = compiled.defaultDecision := by
  rcases matchedOrKnown with ⟨source, inSources, rule, inRules, isMatch⟩ | known
  · have isMatching := from'.mem_matchingRules.mpr ⟨source, inSources, rule, inRules, rfl, isMatch⟩
    rw [fallbackDecision, if_pos (List.length_pos_of_mem isMatching)]
  · rw [fallbackDecision, known]
    split <;> rfl

theorem CompiledFrom.fallbackDecision_unknownRisk (from' : CompiledFrom sources compiled)
    (unmatched : ∀ source ∈ sources, ¬ SourceMatches runtime source context)
    (unknown : hasUnknownRisk context = true) :
    fallbackDecision runtime compiled context = compiled.unknownRiskDecision := by
  have none : matchingRules runtime compiled context = [] := by
    rw [List.eq_nil_iff_forall_not_mem]
    intro rule isMatching
    rcases from'.mem_matchingRules.mp isMatching with
      ⟨source, inSources, sourceRule, inRules, -, isMatch⟩
    exact unmatched source inSources ⟨sourceRule, inRules, isMatch⟩
  rw [fallbackDecision, none, unknown]
  rfl

end Fallback

variable {sources further : List PolicySource} {base composed : CompiledPolicy}
  {context : PolicyEvaluationContext}

/-- With the unknown-risk rule as it was, further sources make no decision weaker. -/
theorem decision_le_of_not_switchedOff (baseFrom : CompiledFrom sources base)
    (composedFrom : CompiledFrom (sources ++ further) composed)
    (kept : ¬ UnknownRiskSwitchedOff runtime sources further context) :
    (evaluatePolicy runtime base context).decision ≤
      (evaluatePolicy runtime composed context).decision := by
  have fallbackLe : fallbackDecision runtime composed context ≤
      (evaluatePolicy runtime composed context).decision :=
    le_evaluatePolicy_decision List.mem_cons_self
  have matchedLe : ∀ source ∈ sources ++ further, ∀ rule ∈ source.rules,
      matchesRule runtime (compileRule source rule) context = true →
        rule.decision ≤ (evaluatePolicy runtime composed context).decision := by
    intro source inSources rule inRules isMatch
    refine le_evaluatePolicy_decision
      (List.mem_cons_of_mem _ (List.mem_map.mpr ⟨compileRule source rule, ?_, rfl⟩))
    exact composedFrom.mem_matchingRules.mpr ⟨source, inSources, rule, inRules, rfl, isMatch⟩
  rw [evaluatePolicy_decision_le_iff, contenders, List.forall_mem_cons]
  constructor
  · by_cases matchedOrKnown : (∃ source ∈ sources, SourceMatches runtime source context) ∨
        hasUnknownRisk context = false
    · have composedDefault := composedFrom.fallbackDecision_default
        (matchedOrKnown.imp_left fun found => found.imp fun source both =>
          ⟨List.mem_append_left further both.1, both.2⟩)
      rw [composedDefault] at fallbackLe
      rw [baseFrom.fallbackDecision_default matchedOrKnown, baseFrom.default_le]
      intro source inSources
      exact (composedFrom.default_le _).mp fallbackLe source (List.mem_append_left _ inSources)
    · rw [not_or, not_exists, Bool.not_eq_false] at matchedOrKnown
      have unmatched : ∀ source ∈ sources, ¬ SourceMatches runtime source context :=
        fun source inSources isMatch => matchedOrKnown.1 source ⟨inSources, isMatch⟩
      rw [baseFrom.fallbackDecision_unknownRisk unmatched matchedOrKnown.2,
        baseFrom.unknownRisk_le]
      intro source inSources
      by_cases furtherMatches : ∃ source ∈ further, SourceMatches runtime source context
      · -- Otherwise this source's decision would be the one that is switched off.
        by_contra exceeds
        rw [not_le] at exceeds
        refine kept ⟨matchedOrKnown.2, unmatched, furtherMatches, source, inSources, ?_, ?_⟩
        · intro other isOther
          refine lt_of_le_of_lt ?_ exceeds
          rw [composedFrom.fallbackDecision_default (Or.inl (furtherMatches.imp fun source both =>
            ⟨List.mem_append_right sources both.1, both.2⟩))] at fallbackLe
          exact (composedFrom.default_le _).mp fallbackLe other isOther
        · intro other isOther rule inRules isMatch
          exact lt_of_le_of_lt
            (matchedLe other (List.mem_append_right _ isOther) rule inRules isMatch) exceeds
      · have noneMatches : ∀ source ∈ sources ++ further,
            ¬ SourceMatches runtime source context := by
          intro other isOther isMatch
          rcases List.mem_append.mp isOther with inBase | inFurther
          · exact unmatched other inBase isMatch
          · exact furtherMatches ⟨other, inFurther, isMatch⟩
        rw [composedFrom.fallbackDecision_unknownRisk noneMatches matchedOrKnown.2] at fallbackLe
        exact (composedFrom.unknownRisk_le _).mp fallbackLe source
          (List.mem_append_left _ inSources)
  · rw [List.forall_mem_map]
    intro rule isMatching
    rcases baseFrom.mem_matchingRules.mp isMatching with
      ⟨source, inSources, sourceRule, inRules, rfl, isMatch⟩
    exact matchedLe source (List.mem_append_left _ inSources) sourceRule inRules isMatch

/-- A source that switches the unknown-risk rule off makes the decision weaker. -/
theorem decision_lt_of_switchedOff (baseFrom : CompiledFrom sources base)
    (composedFrom : CompiledFrom (sources ++ further) composed)
    (switchedOff : UnknownRiskSwitchedOff runtime sources further context) :
    (evaluatePolicy runtime composed context).decision <
      (evaluatePolicy runtime base context).decision := by
  rcases switchedOff with ⟨unknown, unmatched, furtherMatches, source, inSources, defaults, rules⟩
  have baseLe : source.unknownRiskDecision ≤ (evaluatePolicy runtime base context).decision := by
    have fallbackLe : fallbackDecision runtime base context ≤
        (evaluatePolicy runtime base context).decision :=
      le_evaluatePolicy_decision List.mem_cons_self
    rw [baseFrom.fallbackDecision_unknownRisk unmatched unknown] at fallbackLe
    exact (baseFrom.unknownRisk_le _).mp fallbackLe source inSources
  refine lt_of_lt_of_le ?_ baseLe
  rcases List.mem_cons.mp (evaluatePolicy_decision_mem composed context) with
    isFallback | isRule
  · rw [isFallback, composedFrom.fallbackDecision_default (Or.inl (furtherMatches.imp
      fun source both => ⟨List.mem_append_right sources both.1, both.2⟩))]
    rcases composedFrom.default_mem with ⟨other, isOther, isDefault⟩
    rw [← isDefault]
    exact defaults other isOther
  · rcases List.mem_map.mp isRule with ⟨rule, isMatching, isDecision⟩
    rcases composedFrom.mem_matchingRules.mp isMatching with
      ⟨other, isOther, sourceRule, inRules, rfl, isMatch⟩
    rw [← isDecision]
    rcases List.mem_append.mp isOther with inBase | inFurther
    · exact absurd ⟨sourceRule, inRules, isMatch⟩ (unmatched other inBase)
    · exact rules other inFurther sourceRule inRules isMatch

/-- **Composition.** Adding valid sources never loosens a decision, unless it
switches off an unknown-risk decision. -/
theorem composition_monotone_iff {policies further : List JsValue}
    {sources furtherSources : List PolicySource} {base composed : CompiledPolicy}
    (validated : policies.mapM (validatePolicySource runtime) = .ok sources)
    (furtherValidated : further.mapM (validatePolicySource runtime) = .ok furtherSources)
    (baseCompiled : compilePolicySet runtime policies = .ok base)
    (composedCompiled : compilePolicySet runtime (policies ++ further) = .ok composed)
    (context : PolicyEvaluationContext) :
    decisionAtLeastAsRestrictiveAs (evaluatePolicy runtime composed context).decision
        (evaluatePolicy runtime base context).decision = true ↔
      ¬ UnknownRiskSwitchedOff runtime sources furtherSources context := by
  have composedValidated : (policies ++ further).mapM (validatePolicySource runtime) =
      .ok (sources ++ furtherSources) := by
    rw [List.mapM_append, validated, furtherValidated]
    rfl
  have baseFrom := compiledFrom_of_compilePolicySet validated baseCompiled
  have composedFrom := compiledFrom_of_compilePolicySet composedValidated composedCompiled
  rw [decisionAtLeastAsRestrictiveAs, decide_eq_true_eq, ← decisionKind_le_iff]
  constructor
  · intro stays switchedOff
    exact absurd stays (not_le.mpr (decision_lt_of_switchedOff baseFrom composedFrom switchedOff))
  · exact decision_le_of_not_switchedOff baseFrom composedFrom

end Composition

namespace Sample

def runtime : PolicyRuntime where
  toReceiptRuntime := Receipts.Sample.runtime
  toLowerCase := List.map fun codeUnit =>
    if inRange 'A' 'Z' codeUnit then Fin.ofNat 65536 (codeUnit.val + 32) else codeUnit
  policyIssues := fun _ => .array []

def source (policyId : String) (rules : List JsValue) : JsValue :=
  .object [(js "schemaVersion", .string policySchemaVersion), (js "policyId", .string (js policyId)),
    (js "version", .string (js "1.0.0")), (js "layer", .string (js "default")),
    (js "rules", .array rules)]

def rule (id : String) (phase : EnforcementPhase) (decision : DecisionKind) : JsValue :=
  .object [(js "id", .string (js id)), (js "phase", .string phase.text),
    (js "decision", .string decision.text)]

def base : List JsValue := [source "base" []]

def permissive : List JsValue := [source "permissive" [rule "allow-all" .pre_model .ALLOW]]

def strict : List JsValue := [source "strict" [rule "refuse-all" .pre_model .REFUSE]]

def unknownRisk : PolicyEvaluationContext where
  phase := .pre_model
  requestText := none
  outputText := none
  riskTags := some [js "unknown"]
  retrievedContext := none
  memoryWrite := none
  consentState := none
  bodyDeclaredTenant := none

end Sample

/-- A source that allows everything turns a request for consent into permission. -/
theorem composition_loosens :
    ∃ base composed, compilePolicySet Sample.runtime Sample.base = .ok base ∧
      compilePolicySet Sample.runtime (Sample.base ++ Sample.permissive) = .ok composed ∧
      (evaluatePolicy Sample.runtime base Sample.unknownRisk).decision = .REQUIRE_CONSENT ∧
      (evaluatePolicy Sample.runtime composed Sample.unknownRisk).decision = .ALLOW ∧
      decisionAtLeastAsRestrictiveAs
        (evaluatePolicy Sample.runtime composed Sample.unknownRisk).decision
        (evaluatePolicy Sample.runtime base Sample.unknownRisk).decision = false := by
  have decisionOf : ∀ (policies : List JsValue) (decision : DecisionKind),
      (compilePolicySet Sample.runtime policies).toOption.map (fun compiled =>
        (evaluatePolicy Sample.runtime compiled Sample.unknownRisk).decision) = some decision →
      ∃ compiled, compilePolicySet Sample.runtime policies = .ok compiled ∧
        (evaluatePolicy Sample.runtime compiled Sample.unknownRisk).decision = decision := by
    intro policies decision evaluated
    rcases Option.map_eq_some_iff.mp evaluated with ⟨compiled, isCompiled, isDecision⟩
    exact ⟨compiled, eq_ok_of_toOption isCompiled, isDecision⟩
  rcases decisionOf Sample.base .REQUIRE_CONSENT (by decide +kernel) with ⟨base, isBase, baseDecision⟩
  rcases decisionOf (Sample.base ++ Sample.permissive) .ALLOW (by decide +kernel) with
    ⟨composed, isComposed, composedDecision⟩
  refine ⟨base, composed, isBase, isComposed, baseDecision, composedDecision, ?_⟩
  rw [baseDecision, composedDecision]
  rfl

theorem composition_monotone_iff_strict :
    ∃ sources furtherSources base composed,
      Sample.base.mapM (validatePolicySource Sample.runtime) = .ok sources ∧
      Sample.strict.mapM (validatePolicySource Sample.runtime) = .ok furtherSources ∧
      compilePolicySet Sample.runtime Sample.base = .ok base ∧
      compilePolicySet Sample.runtime (Sample.base ++ Sample.strict) = .ok composed ∧
      (decisionAtLeastAsRestrictiveAs
          (evaluatePolicy Sample.runtime composed Sample.unknownRisk).decision
          (evaluatePolicy Sample.runtime base Sample.unknownRisk).decision = true ↔
        ¬ UnknownRiskSwitchedOff Sample.runtime sources furtherSources Sample.unknownRisk) := by
  have validates : (Sample.base.mapM (validatePolicySource Sample.runtime)).toBool = true := by
    decide +kernel
  have furtherValidates :
      (Sample.strict.mapM (validatePolicySource Sample.runtime)).toBool = true := by
    decide +kernel
  have compiles : (compilePolicySet Sample.runtime Sample.base).toBool = true := by
    decide +kernel
  have composes :
      (compilePolicySet Sample.runtime (Sample.base ++ Sample.strict)).toBool = true := by
    decide +kernel
  rcases exists_eq_ok validates with ⟨sources, validated⟩
  rcases exists_eq_ok furtherValidates with ⟨furtherSources, furtherValidated⟩
  rcases exists_eq_ok compiles with ⟨base, isBase⟩
  rcases exists_eq_ok composes with ⟨composed, isComposed⟩
  exact ⟨sources, furtherSources, base, composed, validated, furtherValidated, isBase, isComposed,
    composition_monotone_iff validated furtherValidated isBase isComposed Sample.unknownRisk⟩

end GhostArk.EnforcementRuntime.Policy
