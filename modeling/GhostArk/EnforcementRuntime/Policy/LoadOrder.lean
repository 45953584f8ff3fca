import GhostArk.EnforcementRuntime.Policy.Composition
import GhostArk.Lib.Framing
import GhostArk.ReceiptSchema.CanonicalAcceptance

/-!
Contract: policy sets, whatever order their sources and rules are loaded in.

Owns rearranged policy sets, the injectivity of the joined sort keys on what the schema accepts, and
that a rearranged set compiles when the set does, decides every context alike, and is compiled to
the same policy if no source and no rule of a source repeats the ids of another.

Does not own the reasons of a decision, which keep the load order of winners with one id.
-/

namespace GhostArk.EnforcementRuntime.Policy

open Js ReceiptSchema Receipts

structure SameUpToRuleOrder (source other : PolicySource) : Prop where
  policyId : source.policyId = other.policyId
  version : source.version = other.version
  layer : source.layer = other.layer
  defaultDecision : source.defaultDecision = other.defaultDecision
  unknownRiskDecision : source.unknownRiskDecision = other.unknownRiskDecision
  rules : source.rules.Perm other.rules

/-- The same sources in any order, each with its rules in any order. -/
def Rearranged (sources others : List PolicySource) : Prop :=
  ∃ reordered, sources.Perm reordered ∧ List.Forall₂ SameUpToRuleOrder reordered others

/-- No two sources share their layer, policy id and version, and no source repeats a rule id. -/
structure DistinctIds (sources : List PolicySource) : Prop where
  sourceIds : (sources.map fun source => (source.layer, source.policyId, source.version)).Nodup
  ruleIds : ∀ source ∈ sources, (source.rules.map PolicyRule.id).Nodup

theorem SameUpToRuleOrder.refl (source : PolicySource) : SameUpToRuleOrder source source :=
  ⟨rfl, rfl, rfl, rfl, rfl, List.Perm.refl _⟩

theorem rearranged_of_perm {sources others : List PolicySource} (permuted : sources.Perm others) :
    Rearranged sources others :=
  ⟨others, permuted, List.forall₂_same.mpr fun source _ => SameUpToRuleOrder.refl source⟩

section Rearranged

variable {sources others : List PolicySource}

theorem Rearranged.map_perm {γ : Type} {read : PolicySource → γ}
    (rearranged : Rearranged sources others)
    (ignores : ∀ {source other}, SameUpToRuleOrder source other → read source = read other) :
    (sources.map read).Perm (others.map read) := by
  have equal : ∀ {left right : List PolicySource}, List.Forall₂ SameUpToRuleOrder left right →
      left.map read = right.map read := by
    intro left right same
    induction same with
    | nil => rfl
    | cons first _ ih =>
      rw [List.map_cons, List.map_cons, ignores first, ih]
  rcases rearranged with ⟨reordered, permuted, same⟩
  exact equal same ▸ permuted.map read

theorem compileRule_eq {source other : PolicySource} (same : SameUpToRuleOrder source other) :
    compileRule source = compileRule other := by
  funext rule
  rw [compileRule, compileRule, same.layer, same.policyId, same.version]

def compiledRules (sources : List PolicySource) : List CompiledPolicyRule :=
  sources.flatMap fun source => source.rules.map (compileRule source)

theorem Rearranged.compiledRules_perm (rearranged : Rearranged sources others) :
    (compiledRules sources).Perm (compiledRules others) := by
  have inPlace : ∀ {left right : List PolicySource}, List.Forall₂ SameUpToRuleOrder left right →
      (compiledRules left).Perm (compiledRules right) := by
    intro left right same
    induction same with
    | nil => exact List.Perm.refl _
    | cons first _ ih =>
      rw [compiledRules, compiledRules, List.flatMap_cons, List.flatMap_cons,
        compileRule_eq first]
      exact (first.rules.map _).append ih
  rcases rearranged with ⟨reordered, permuted, same⟩
  exact (permuted.flatMap_right _).trans (inPlace same)

end Rearranged

/-! ### Sort keys -/

theorem sortByText_eq_sortBy {α : Type} (text : α → JsString) (items : List α) :
    sortByText text items = Lib.sortBy text items := by
  have isLe : (fun left right : α => stringLt (text right) (text left) = false) =
      fun left right => text left ≤ text right := by
    funext left right
    rw [Bool.eq_false_iff, ne_eq, stringLt_iff, not_lt]
  unfold sortByText Lib.sortBy
  simp only [isLe]

theorem sortStrings_eq_sortBy (items : List JsString) : sortStrings items = Lib.sortBy id items :=
  sortByText_eq_sortBy id items

theorem sortStrings_eq_of_perm {left right : List JsString} (permuted : left.Perm right) :
    sortStrings left = sortStrings right := by
  rw [sortStrings_eq_sortBy, sortStrings_eq_sortBy]
  exact Lib.sortBy_eq_of_perm (fun _ _ _ _ same => same) permuted

theorem sortedSet_eq_of_perm {left right : List JsString} (permuted : left.Perm right) :
    sortedSet left = sortedSet right :=
  sortStrings_eq_of_perm (Lib.perm_eraseDups permuted)

theorem colon_not_mem_of_isPolicyId {id : JsString} (shape : isPolicyId id = true) :
    unit ':' ∉ id := by
  cases id with
  | nil => exact List.not_mem_nil
  | cons first rest =>
    simp only [isPolicyId, Bool.and_eq_true, List.head?_cons, Option.any_some,
      List.drop_succ_cons, List.drop_zero, List.all_eq_true] at shape
    rcases shape with ⟨⟨⟨isFirst, -⟩, -⟩, areRest⟩
    rw [List.mem_cons, not_or]
    refine ⟨?_, fun inRest => absurd (areRest _ inRest) (by decide)⟩
    rintro rfl
    exact absurd isFirst (by decide)

theorem precedenceDigit_injective {left right : PolicyLayer}
    (same : precedenceDigit left = precedenceDigit right) : left = right := by
  revert same
  cases left <;> cases right <;> decide

/-- The sort key of a source tells sources apart by layer, policy id and version: only the version
may hold a colon, and it comes last. -/
theorem sourceSortKey_injective {left right : PolicySource}
    (same : sourceSortKey left = sourceSortKey right) :
    left.layer = right.layer ∧ left.policyId = right.policyId ∧ left.version = right.version := by
  have shape : ∀ source : PolicySource, sourceSortKey source = precedenceDigit source.layer ++
      unit ':' :: (source.layer.text ++
        unit ':' :: (source.policyId ++ unit ':' :: source.version)) := by
    intro source
    unfold sourceSortKey
    simp only [List.append_assoc]
    rfl
  have digitFree : ∀ layer, unit ':' ∉ precedenceDigit layer := by
    intro layer
    cases layer <;> decide
  have textFree : ∀ layer : PolicyLayer, unit ':' ∉ layer.text := by
    intro layer
    cases layer <;> decide
  rw [shape, shape] at same
  have digits := Lib.firstField_inj (digitFree _) (digitFree _) same
  have texts := Lib.firstField_inj (textFree _) (textFree _) digits.2
  have ids := Lib.firstField_inj (colon_not_mem_of_isPolicyId left.idShape)
    (colon_not_mem_of_isPolicyId right.idShape) texts.2
  exact ⟨precedenceDigit_injective digits.1, ids.1, ids.2⟩

/-- The sort key of a rule tells the rules of valid sources apart by the ids of the source and of
the rule: only the version may hold a colon, and all but one field precede it. -/
theorem ruleSortKey_injective {left right : PolicySource} {leftRule rightRule : PolicyRule}
    (same : ruleSortKey (compileRule left leftRule) = ruleSortKey (compileRule right rightRule)) :
    left.layer = right.layer ∧ left.policyId = right.policyId ∧ left.version = right.version ∧
      leftRule.id = rightRule.id := by
  have shape : ∀ (source : PolicySource) (rule : PolicyRule),
      ruleSortKey (compileRule source rule) = rule.phase.text ++ unit ':' ::
        ((js "0" ++ precedenceDigit source.layer) ++ unit ':' ::
          (source.policyId ++ unit ':' :: (source.version ++ unit ':' :: rule.id))) := by
    intro source rule
    change rule.phase.text ++ js ":" ++ ((js "0" ++ precedenceDigit source.layer) ++ js ":" ++
      (source.policyId ++ js ":" ++ (source.version ++ js ":" ++ rule.id))) = _
    simp only [List.append_assoc]
    rfl
  have phaseFree : ∀ phase : EnforcementPhase, unit ':' ∉ phase.text := by
    intro phase
    cases phase <;> decide
  have digitFree : ∀ layer, unit ':' ∉ js "0" ++ precedenceDigit layer := by
    intro layer
    cases layer <;> decide
  rw [shape, shape] at same
  have phases := Lib.firstField_inj (phaseFree _) (phaseFree _) same
  have digits := Lib.firstField_inj (digitFree _) (digitFree _) phases.2
  have ids := Lib.firstField_inj (colon_not_mem_of_isPolicyId left.idShape)
    (colon_not_mem_of_isPolicyId right.idShape) digits.2
  have versions := Lib.lastField_inj (colon_not_mem_of_isPolicyId leftRule.idShape)
    (colon_not_mem_of_isPolicyId rightRule.idShape) ids.2
  exact ⟨precedenceDigit_injective (List.append_cancel_left digits.1), ids.1, versions.1,
    versions.2⟩

section Compilation

variable {sources others : List PolicySource}

theorem compileBody_rules_perm (sources : List PolicySource) :
    (compileBody (sortByText sourceSortKey sources)).rules.Perm (compiledRules sources) :=
  (perm_sortByText ruleSortKey _).trans
    ((perm_sortByText sourceSortKey sources).flatMap_right _)

/-- A rearranged set has the same rules. -/
theorem Rearranged.rules_perm (rearranged : Rearranged sources others) :
    (compileBody (sortByText sourceSortKey sources)).rules.Perm
      (compileBody (sortByText sourceSortKey others)).rules :=
  ((compileBody_rules_perm sources).trans rearranged.compiledRules_perm).trans
    (compileBody_rules_perm others).symm

theorem mostRestrictiveDecision_eq_of_perm {left right : List DecisionKind}
    (permuted : left.Perm right) :
    mostRestrictiveDecision left = mostRestrictiveDecision right := by
  rcases eq_or_ne left [] with rfl | nonempty
  · rw [permuted.nil_eq]
  · have alsoNonempty : right ≠ [] := by
      rintro rfl
      exact nonempty permuted.eq_nil
    have sameBounds : ∀ bound, mostRestrictiveDecision left ≤ bound ↔
        mostRestrictiveDecision right ≤ bound := by
      intro bound
      rw [mostRestrictiveDecision_le_iff nonempty, mostRestrictiveDecision_le_iff alsoNonempty]
      exact forall_congr' fun decision => imp_congr_left permuted.mem_iff
    exact le_antisymm ((sameBounds _).mpr le_rfl) ((sameBounds _).mp le_rfl)

/-- Version and defaults of a policy do not depend on the load order. -/
theorem Rearranged.header_eq (rearranged : Rearranged sources others) :
    (compileBody (sortByText sourceSortKey sources)).policyVersion =
        (compileBody (sortByText sourceSortKey others)).policyVersion ∧
      (compileBody (sortByText sourceSortKey sources)).defaultDecision =
        (compileBody (sortByText sourceSortKey others)).defaultDecision ∧
      (compileBody (sortByText sourceSortKey sources)).unknownRiskDecision =
        (compileBody (sortByText sourceSortKey others)).unknownRiskDecision := by
  have sorted : ∀ {γ : Type} {read : PolicySource → γ},
      (∀ {source other}, SameUpToRuleOrder source other → read source = read other) →
      ((sortByText sourceSortKey sources).map read).Perm
        ((sortByText sourceSortKey others).map read) := by
    intro γ read ignores
    exact (((perm_sortByText _ sources).map read).trans (rearranged.map_perm ignores)).trans
      ((perm_sortByText _ others).map read).symm
  refine ⟨?_, mostRestrictiveDecision_eq_of_perm (sorted fun same => same.defaultDecision),
    mostRestrictiveDecision_eq_of_perm (sorted fun same => same.unknownRiskDecision)⟩
  -- the version reads what the sort keys tell apart of each source
  let ids : PolicySource → PolicyLayer × JsString × JsString := fun source =>
    (source.layer, source.policyId, source.version)
  let key : PolicyLayer × JsString × JsString → JsString := fun (layer, policyId, version) =>
    precedenceDigit layer ++ js ":" ++ layer.text ++ js ":" ++ policyId ++ js ":" ++ version
  let text : PolicyLayer × JsString × JsString → JsString := fun (layer, policyId, version) =>
    layer.text ++ js ":" ++ policyId ++ js "@" ++ version
  have sameIds : (sortByText sourceSortKey sources).map ids =
      (sortByText sourceSortKey others).map ids := by
    rw [sortByText_eq_sortBy, sortByText_eq_sortBy]
    have keeps : ∀ source, key (ids source) = sourceSortKey source := fun _ => rfl
    refine Lib.map_sortBy_eq_of_perm keeps ?_ (rearranged.map_perm ?_)
    · intro first _ second _ sameKey
      rcases sourceSortKey_injective sameKey with ⟨layer, policyId, version⟩
      exact Prod.ext layer (Prod.ext policyId version)
    · intro source other same
      exact Prod.ext same.layer (Prod.ext same.policyId same.version)
  have texts := congrArg (List.map text) sameIds
  rw [List.map_map, List.map_map] at texts
  exact congrArg (join (js "+")) texts

/-- Sort keys of rules tell distinct ids apart. -/
theorem DistinctIds.separates (distinct : DistinctIds sources) :
    ∀ first ∈ compiledRules sources, ∀ second ∈ compiledRules sources,
      ruleSortKey first = ruleSortKey second → first = second := by
  intro first isFirst second isSecond sameKey
  rcases List.mem_flatMap.mp isFirst with ⟨source, inSources, inRules⟩
  rcases List.mem_flatMap.mp isSecond with ⟨other, alsoInSources, inOtherRules⟩
  rcases List.mem_map.mp inRules with ⟨rule, isRule, rfl⟩
  rcases List.mem_map.mp inOtherRules with ⟨otherRule, isOtherRule, rfl⟩
  rcases ruleSortKey_injective sameKey with ⟨layer, policyId, version, ruleId⟩
  obtain rfl : source = other :=
    List.inj_on_of_nodup_map distinct.sourceIds inSources alsoInSources
      (Prod.ext layer (Prod.ext policyId version))
  obtain rfl : rule = otherRule :=
    List.inj_on_of_nodup_map (distinct.ruleIds source inSources) isRule isOtherRule ruleId
  rfl

/-- With distinct ids, a rearranged set is compiled to the same body. -/
theorem Rearranged.compileBody_eq (rearranged : Rearranged sources others)
    (distinct : DistinctIds sources) :
    compileBody (sortByText sourceSortKey sources) =
      compileBody (sortByText sourceSortKey others) := by
  have sortedPerm : ∀ set : List PolicySource,
      (compiledRules (sortByText sourceSortKey set)).Perm (compiledRules set) :=
    fun set => (perm_sortByText sourceSortKey set).flatMap_right _
  have sameRules : sortByText ruleSortKey (compiledRules (sortByText sourceSortKey sources)) =
      sortByText ruleSortKey (compiledRules (sortByText sourceSortKey others)) := by
    have permuted :=
      ((sortedPerm sources).trans rearranged.compiledRules_perm).trans (sortedPerm others).symm
    rw [sortByText_eq_sortBy ruleSortKey, sortByText_eq_sortBy ruleSortKey]
    apply Lib.sortBy_eq_of_perm _ permuted
    intro first isFirst second isSecond
    exact distinct.separates first ((sortedPerm sources).mem_iff.mp isFirst) second
      ((sortedPerm sources).mem_iff.mp isSecond)
  rcases rearranged.header_eq with ⟨version, defaultDecision, unknownRiskDecision⟩
  rw [CompiledPolicyBody.mk.injEq]
  exact ⟨version, defaultDecision, unknownRiskDecision, sameRules⟩

end Compilation

/-- Whether a policy can be hashed does not depend on the order of its rules. -/
theorem exists_canonicalPolicyHash {runtime : PolicyRuntime} {body other : CompiledPolicyBody}
    (permuted : body.rules.Perm other.rules)
    (hashed : ∃ policyHash, canonicalPolicyHash runtime body = .ok policyHash) :
    ∃ policyHash, canonicalPolicyHash runtime other = .ok policyHash := by
  have accepted : ∀ body : CompiledPolicyBody,
      (∃ policyHash, canonicalPolicyHash runtime body = .ok policyHash) ↔
        ∀ rule ∈ body.rules, ∃ text, canonicalize runtime.numbers rule.toJs = .ok text := by
    intro body
    have isText : (∃ policyHash, canonicalPolicyHash runtime body = .ok policyHash) ↔
        ∃ text, canonicalize runtime.numbers body.toJs = .ok text := by
      unfold canonicalPolicyHash canonicalSha256Hex
      cases canonicalize runtime.numbers body.toJs with
      | error error => exact iff_of_false (by rintro ⟨_, ⟨⟩⟩) (by rintro ⟨_, ⟨⟩⟩)
      | ok text => exact iff_of_true ⟨_, rfl⟩ ⟨_, rfl⟩
    rw [isText, CompiledPolicyBody.toJs, exists_canonicalize_object_iff]
    simp only [List.forall_mem_cons, exists_canonicalize_array_iff, List.forall_mem_map]
    constructor
    · intro values
      exact values.2.2.2.2.2.1
    · intro rules
      exact ⟨⟨_, rfl⟩, ⟨_, rfl⟩, ⟨_, rfl⟩, ⟨_, rfl⟩, ⟨_, rfl⟩, rules, List.forall_mem_nil _⟩
  rw [accepted] at hashed ⊢
  exact fun rule member => hashed rule (permuted.mem_iff.mpr member)

/-! ### Evaluation -/

/-- Decisions that agree on all but the reasons and the policy's own version and hash. -/
structure SameVerdict (left right : PhaseDecision) : Prop where
  decision : left.decision = right.decision
  matchedRuleIds : left.matchedRuleIds = right.matchedRuleIds
  matchedLayers : left.matchedLayers = right.matchedLayers
  actionTaken : left.actionTaken = right.actionTaken
  riskScore : left.riskScore = right.riskScore

private theorem max_finite (left right : ℚ) :
    (JsNumber.finite left).max (.finite right) = .finite (max left right) := by
  change (if JsNumber.lt (.finite left) (.finite right) = true then _ else _) = _
  simp only [JsNumber.lt, decide_eq_true_eq]
  split
  next less => rw [max_eq_right less.le]
  next notLess => rw [max_eq_left (not_lt.mp notLess)]

private theorem max_right_comm_finite (current : JsNumber) (first second : ℚ) :
    (current.max (.finite first)).max (.finite second) =
      (current.max (.finite second)).max (.finite first) := by
  cases current with
  | nan => rfl
  | positiveInfinity => rfl
  | negativeInfinity =>
    change (JsNumber.finite first).max (.finite second) =
      (JsNumber.finite second).max (.finite first)
    rw [max_finite, max_finite, max_comm]
  | finite value => rw [max_finite, max_finite, max_finite, max_finite, max_right_comm]

theorem exists_riskScore (rule : PolicyRule) : ∃ value, rule.riskScore = .finite value := by
  have range := rule.riskRange
  cases isScore : rule.riskScore with
  | finite value => exact ⟨value, rfl⟩
  | nan =>
    rw [isScore] at range
    cases range
  | positiveInfinity =>
    rw [isScore] at range
    cases range
  | negativeInfinity =>
    rw [isScore] at range
    cases range

section Evaluation

variable {runtime : PolicyRuntime} {policy other : CompiledPolicy}

/-- The order of rules decides no context. -/
theorem sameVerdict_of_perm (permuted : policy.rules.Perm other.rules)
    (defaultDecision : policy.defaultDecision = other.defaultDecision)
    (unknownRiskDecision : policy.unknownRiskDecision = other.unknownRiskDecision)
    (context : PolicyEvaluationContext) :
    SameVerdict (evaluatePolicy runtime policy context) (evaluatePolicy runtime other context) := by
  have matching : (matchingRules runtime policy context).Perm
      (matchingRules runtime other context) :=
    permuted.filter _
  have fallback : fallbackDecision runtime policy context =
      fallbackDecision runtime other context := by
    rw [fallbackDecision, fallbackDecision, matching.length_eq, defaultDecision,
      unknownRiskDecision]
  have sameContenders : (contenders runtime policy context).Perm
      (contenders runtime other context) := by
    rw [contenders, contenders, fallback]
    exact (matching.map _).cons _
  have sameBounds : ∀ bound, (evaluatePolicy runtime policy context).decision ≤ bound ↔
      (evaluatePolicy runtime other context).decision ≤ bound := by
    intro bound
    rw [evaluatePolicy_decision_le_iff, evaluatePolicy_decision_le_iff]
    exact forall_congr' fun decision => imp_congr_left sameContenders.mem_iff
  have commute : ∀ first ∈ matchingRules runtime policy context,
      ∀ second ∈ matchingRules runtime policy context, ∀ current : JsNumber,
        (current.max first.riskScore).max second.riskScore =
          (current.max second.riskScore).max first.riskScore := by
    intro first _ second _ current
    rcases exists_riskScore first.toPolicyRule with ⟨firstScore, isFirst⟩
    rcases exists_riskScore second.toPolicyRule with ⟨secondScore, isSecond⟩
    rw [isFirst, isSecond, max_right_comm_finite]
  have risks : ∀ initial : JsNumber, (matchingRules runtime policy context).foldl
      (fun current rule => current.max rule.riskScore) initial =
        (matchingRules runtime other context).foldl
          (fun current rule => current.max rule.riskScore) initial :=
    matching.foldl_eq' commute
  exact {
    decision := le_antisymm ((sameBounds _).mpr le_rfl) ((sameBounds _).mp le_rfl)
    matchedRuleIds := sortStrings_eq_of_perm (matching.map _)
    matchedLayers := sortedSet_eq_of_perm (matching.map _)
    actionTaken := sortedSet_eq_of_perm (matching.flatMap_right _)
    riskScore := congrArg (fun risk : JsNumber => risk.toFixedNumber 4) (risks _) }

end Evaluation

section LoadOrder

variable {runtime : PolicyRuntime} {policies reloaded : List JsValue}
  {sources others : List PolicySource}

section Validated

variable (validated : policies.mapM (validatePolicySource runtime) = .ok sources)
include validated

/-- Compilation of validated sources, apart from the validation. -/
theorem compilePolicySet_of_validated :
    compilePolicySet runtime policies =
      if sources.length = 0 then
        .error ⟨.validationError, js "At least one policy source is required", []⟩
      else do
        let policyHash ←
          canonicalPolicyHash runtime (compileBody (sortByText sourceSortKey sources))
        return { compileBody (sortByText sourceSortKey sources) with policyHash } := by
  rw [compilePolicySet, validated, ok_bind]
  dsimp only
  rw [(perm_sortByText sourceSortKey sources).length_eq]

/-- Validated sources compile exactly if there is one and the body can be hashed. -/
theorem compiles_iff :
    (∃ compiled, compilePolicySet runtime policies = .ok compiled) ↔ sources.length ≠ 0 ∧
      ∃ policyHash, canonicalPolicyHash runtime
        (compileBody (sortByText sourceSortKey sources)) = .ok policyHash := by
  rw [compilePolicySet_of_validated validated]
  split
  next empty => exact iff_of_false (by rintro ⟨_, ⟨⟩⟩) fun both => both.1 empty
  next nonempty =>
    rw [and_iff_right nonempty]
    cases canonicalPolicyHash runtime (compileBody (sortByText sourceSortKey sources)) with
    | error error => exact iff_of_false (by rintro ⟨_, ⟨⟩⟩) (by rintro ⟨_, ⟨⟩⟩)
    | ok policyHash => exact iff_of_true ⟨_, rfl⟩ ⟨_, rfl⟩

theorem body_of_compiled {compiled : CompiledPolicy}
    (isCompiled : compilePolicySet runtime policies = .ok compiled) :
    compiled.toCompiledPolicyBody = compileBody (sortByText sourceSortKey sources) := by
  rcases compilePolicySet_eq_ok isCompiled with ⟨found, foundValid, -, body⟩
  obtain rfl : found = sources := Except.ok.inj (foundValid.symm.trans validated)
  exact body

end Validated

/-- **Load order.** Of a valid set and a rearrangement of it, either none compiles or both do; then
every context gets the same verdict; and with distinct ids the compiled policy, with its version
and hash, is the same. -/
theorem loadOrder_irrelevant
    (validated : policies.mapM (validatePolicySource runtime) = .ok sources)
    (reloadedValidated : reloaded.mapM (validatePolicySource runtime) = .ok others)
    (rearranged : Rearranged sources others) :
    ((∃ compiled, compilePolicySet runtime policies = .ok compiled) ↔
        ∃ compiled, compilePolicySet runtime reloaded = .ok compiled) ∧
      (∀ compiled recompiled, compilePolicySet runtime policies = .ok compiled →
        compilePolicySet runtime reloaded = .ok recompiled → ∀ context,
          SameVerdict (evaluatePolicy runtime compiled context)
            (evaluatePolicy runtime recompiled context)) ∧
      (DistinctIds sources →
        compilePolicySet runtime policies = compilePolicySet runtime reloaded) := by
  have sameLength : sources.length = others.length := by
    have ids : (sources.map PolicySource.policyId).Perm (others.map PolicySource.policyId) :=
      rearranged.map_perm fun same => same.policyId
    simpa only [List.length_map] using ids.length_eq
  refine ⟨?_, ?_, ?_⟩
  · rw [compiles_iff validated, compiles_iff reloadedValidated, sameLength]
    exact and_congr_right fun _ => ⟨exists_canonicalPolicyHash rearranged.rules_perm,
      exists_canonicalPolicyHash rearranged.rules_perm.symm⟩
  · intro compiled recompiled isCompiled isRecompiled context
    have body := body_of_compiled validated isCompiled
    have otherBody := body_of_compiled reloadedValidated isRecompiled
    rcases rearranged.header_eq with ⟨-, defaultDecision, unknownRiskDecision⟩
    have permuted := rearranged.rules_perm
    rw [← body, ← otherBody] at permuted defaultDecision unknownRiskDecision
    exact sameVerdict_of_perm permuted defaultDecision unknownRiskDecision context
  · intro distinct
    rw [compilePolicySet_of_validated validated, compilePolicySet_of_validated reloadedValidated,
      sameLength, rearranged.compileBody_eq distinct]

theorem loadOrder_irrelevant_swapped :
    ∃ sources others,
      (Sample.strict ++ Sample.permissive).mapM (validatePolicySource Sample.runtime) =
          .ok sources ∧
        (Sample.permissive ++ Sample.strict).mapM (validatePolicySource Sample.runtime) =
          .ok others ∧
        Rearranged sources others ∧
        ((∃ compiled, compilePolicySet Sample.runtime (Sample.strict ++ Sample.permissive) =
            .ok compiled) ↔
          ∃ compiled, compilePolicySet Sample.runtime (Sample.permissive ++ Sample.strict) =
            .ok compiled) ∧
        (∀ compiled recompiled,
          compilePolicySet Sample.runtime (Sample.strict ++ Sample.permissive) = .ok compiled →
          compilePolicySet Sample.runtime (Sample.permissive ++ Sample.strict) = .ok recompiled →
            ∀ context, SameVerdict (evaluatePolicy Sample.runtime compiled context)
              (evaluatePolicy Sample.runtime recompiled context)) ∧
        (DistinctIds sources →
          compilePolicySet Sample.runtime (Sample.strict ++ Sample.permissive) =
            compilePolicySet Sample.runtime (Sample.permissive ++ Sample.strict)) := by
  have strictValidates :
      (Sample.strict.mapM (validatePolicySource Sample.runtime)).toBool = true := by
    decide +kernel
  have permissiveValidates :
      (Sample.permissive.mapM (validatePolicySource Sample.runtime)).toBool = true := by
    decide +kernel
  rcases exists_eq_ok strictValidates with ⟨strict, isStrict⟩
  rcases exists_eq_ok permissiveValidates with ⟨permissive, isPermissive⟩
  have validated : (Sample.strict ++ Sample.permissive).mapM (validatePolicySource Sample.runtime) =
      .ok (strict ++ permissive) := by
    rw [List.mapM_append, isStrict, isPermissive]
    rfl
  have reloadedValidated : (Sample.permissive ++ Sample.strict).mapM
      (validatePolicySource Sample.runtime) = .ok (permissive ++ strict) := by
    rw [List.mapM_append, isStrict, isPermissive]
    rfl
  have rearranged : Rearranged (strict ++ permissive) (permissive ++ strict) :=
    rearranged_of_perm List.perm_append_comm
  exact ⟨_, _, validated, reloadedValidated, rearranged,
    loadOrder_irrelevant validated reloadedValidated rearranged⟩

end LoadOrder

end GhostArk.EnforcementRuntime.Policy
