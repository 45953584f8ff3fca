import GhostArk.EnforcementRuntime.Evidence.EvidenceFloor

/-!
Contract: derive-only provenance in the evaluation of a floor.

Owns elements that are labelled CROSS_WITNESSED themselves, the sources that an
element brings into an evaluation, and exactly when such an element brings in none:
no check of the floor evaluator refuses it, so only a floor above it does.
-/

namespace GhostArk.EnforcementRuntime.Evidence

open Js

def IsDeriveOnlyElement (element : JsValue) : Prop :=
  ∃ label, HasLabel element label ∧ isDeriveOnly label = true

def FloorAtMost (requirement : JsValue) (bound : ProvenanceClass) : Prop :=
  ∃ provenance ≤ bound, HasFloor requirement provenance.text

/-- The element alone makes the source qualify. -/
def BringsIn (element requirement : JsValue) (sourceId : JsString) : Prop :=
  ∃ evaluation, evaluateEvidenceFloor (.array [element]) requirement = .ok evaluation ∧
    sourceId ∈ evaluation.qualifyingSourceIds

def NoneByDeriveOnly (items : List JsValue) (requirement : JsValue)
    (evaluation : EvidenceFloorEvaluation) : Prop :=
  ∀ element ∈ items, IsDeriveOnlyElement element →
    ∀ sourceId ∈ evaluation.qualifyingSourceIds, ¬ BringsIn element requirement sourceId

/-- The aggregate refuses every derive-only element. -/
theorem not_isDeriveOnlyElement_of_aggregate {items : List JsValue} {aggregate : JsString}
    (returned : deriveAggregateClass (.array items) = .ok aggregate) :
    ∀ element ∈ presentItems items, ¬ IsDeriveOnlyElement element := by
  intro element member
  rintro ⟨label, isLabel, derived⟩
  cases items with
  | nil => cases returned
  | cons first rest =>
    rw [deriveAggregateClass] at returned
    · rcases bind_eq_ok.mp returned with ⟨evidence, visited, -⟩
      rcases exists_of_forEachItem visited member with ⟨position, found, -, checked⟩
      rw [assertAggregateElement] at checked
      rcases bind_eq_ok.mp checked with ⟨shaped, isShaped, later⟩
      rcases check_eq_ok.mp later with ⟨assignable, -⟩
      rw [isLabel.unique (label_of_assertEvidenceShape isShaped).1] at derived
      exact assignable derived
    · exact List.cons_ne_nil first rest

section Counting

variable {items : List JsValue} {element requirement : JsValue} {sourceId : JsString}

theorem presentItems_singleton {members : List (JsString × JsValue)}
    (isObject : objectMembers element = some members) : presentItems [element] = [element] := by
  cases element with
  | hole => cases isObject
  | _ => rfl

variable {required : EvidenceFloorRequirement}

/-- A source counts through an element exactly if the class of the element reaches the floor. -/
theorem bringsIn_iff {evidence : ProvenanceLabeledEvidence}
    (isRequired : assertRequirementShape requirement = .ok required)
    (shaped : assertEvidenceShape element 0 = .ok evidence) :
    BringsIn element requirement sourceId ↔
      meetsProvenanceFloor evidence.provenanceClass required.floor = .ok true ∧
        evidence.sourceId = sourceId := by
  rcases (label_of_assertEvidenceShape shaped).1 with ⟨members, isObject, isLabel⟩
  have present : presentItems [element] = [element] := presentItems_singleton isObject
  have visited : forEachItem assertEvidenceShape 0 [element] = .ok [evidence] := by
    have isPresent : isHole element = false := by
      cases element with
      | hole => cases isObject
      | _ => rfl
    rw [forEachItem, isPresent, if_neg Bool.false_ne_true, shaped]
    rfl
  constructor
  · rintro ⟨evaluation, returned, qualifies⟩
    rcases evaluatedFloor returned with ⟨evaluated⟩
    rcases evaluated.mem_qualifyingSourceIds_iff.mp qualifies with
      ⟨held, member, found, isFound, meets, isSource⟩
    rw [present, List.mem_singleton] at member
    subst member
    obtain rfl : found = evidence := Except.ok.inj (isFound.symm.trans shaped)
    obtain rfl : evaluated.required = required :=
      Except.ok.inj (evaluated.isRequired.symm.trans isRequired)
    exact ⟨meets, isSource⟩
  · rintro ⟨meets, isSource⟩
    rcases exists_evaluateEvidenceFloor_of_checked isRequired visited with ⟨evaluation, returned⟩
    rcases evaluatedFloor returned with ⟨evaluated⟩
    obtain rfl : evaluated.required = required :=
      Except.ok.inj (evaluated.isRequired.symm.trans isRequired)
    refine ⟨evaluation, returned, evaluated.mem_qualifyingSourceIds_iff.mpr ?_⟩
    exact ⟨element, by rw [present]; exact List.mem_singleton_self element, evidence, shaped, meets,
      isSource⟩

theorem meets_crossWitnessed_iff (isRequired : assertRequirementShape requirement = .ok required) :
    meetsProvenanceFloor ProvenanceClass.CROSS_WITNESSED.text required.floor = .ok true ↔
      FloorAtMost requirement .CROSS_WITNESSED := by
  rcases floor_of_assertRequirementShape isRequired with ⟨isFloor, known⟩
  constructor
  · intro meets
    rcases isSome_provenanceRankByClass_iff.mp known with ⟨provenance, isText⟩ | inherits
    · rw [← isText, meetsProvenanceFloor_text] at meets
      exact ⟨provenance, of_decide_eq_true (Except.ok.inj meets), by rw [isText]; exact isFloor⟩
    · have noClass := not_isClassLabel_of_inherited _ inherits
      have found := provenanceRankByClass_inherited inherits noClass
      rw [meetsProvenanceFloor, provenanceRank_text, ok_bind,
        provenanceRank_eq_ok_iff.mpr found, ok_bind] at meets
      cases meets
  · rintro ⟨provenance, below, members, isObject, isText⟩
    rcases isFloor with ⟨others, sameObject, isFloor⟩
    obtain rfl : members = others := Option.some.inj (isObject.symm.trans sameObject)
    rw [isText] at isFloor
    rw [← JsValue.string.inj isFloor, meetsProvenanceFloor_text, decide_eq_true below]

end Counting

/-- Derive-only elements bring in no source exactly when there are none, or when the floor is
not a class that CROSS_WITNESSED reaches. -/
theorem noneByDeriveOnly_iff {items : List JsValue} {requirement : JsValue}
    {evaluation : EvidenceFloorEvaluation}
    (returned : evaluateEvidenceFloor (.array items) requirement = .ok evaluation) :
    NoneByDeriveOnly items requirement evaluation ↔
      (∀ element ∈ items, ¬ IsDeriveOnlyElement element) ∨
        ¬ FloorAtMost requirement .CROSS_WITNESSED := by
  rcases evaluatedFloor returned with ⟨evaluated⟩
  -- the checked form of a derive-only element of the list
  have checked {element : JsValue} (member : element ∈ items)
      (derived : IsDeriveOnlyElement element) :
      element ∈ presentItems items ∧ ∃ evidence, assertEvidenceShape element 0 = .ok evidence ∧
        evidence.provenanceClass = ProvenanceClass.CROSS_WITNESSED.text := by
    rcases derived with ⟨label, isLabel, isDerived⟩
    have present := mem_presentItems_of_hasLabel member isLabel
    rcases exists_of_forEachItem evaluated.isEvidence present with ⟨_, evidence, -, shaped⟩
    refine ⟨present, evidence, assertEvidenceShape_index shaped, ?_⟩
    rw [← isLabel.unique (label_of_assertEvidenceShape shaped).1]
    exact isDeriveOnly_iff.mp isDerived
  have reached := meets_crossWitnessed_iff evaluated.isRequired
  constructor
  · intro noneBy
    by_contra both
    rw [not_or, not_not] at both
    rcases both with ⟨some, below⟩
    push Not at some
    rcases some with ⟨element, member, derived⟩
    rcases checked member derived with ⟨present, evidence, shaped, isLabel⟩
    have meets : meetsProvenanceFloor evidence.provenanceClass evaluated.required.floor =
        .ok true := by
      rw [isLabel]
      exact reached.mpr below
    exact noneBy element member derived evidence.sourceId
      (evaluated.mem_qualifyingSourceIds_iff.mpr
        ⟨element, present, evidence, shaped, meets, rfl⟩)
      ((bringsIn_iff evaluated.isRequired shaped).mpr ⟨meets, rfl⟩)
  · intro condition element member derived sourceId _ brings
    rcases condition with none | above
    · exact none element member derived
    · rcases checked member derived with ⟨-, evidence, shaped, isLabel⟩
      have meets := ((bringsIn_iff evaluated.isRequired shaped).mp brings).1
      rw [isLabel] at meets
      exact above (reached.mp meets)

def sampleDigest : JsString := js "sha256:" ++ List.replicate 64 (unit '0')

def sampleElement (sourceId label : String) : JsValue :=
  .object [(js "evidenceId", .string (js "claim-1")), (js "contentDigest", .string sampleDigest),
    (js "sourceId", .string (js sourceId)), (js "provenanceClass", .string (js label))]

def sampleRequirement (floor : String) : JsValue :=
  .object [(js "effectClass", .string (js "payment")), (js "floor", .string (js floor)),
    (js "minimumDistinctSources", .number (.ofNat 1))]

/-- An element above CROSS_WITNESSED counts, and one of that class does not. -/
theorem noneByDeriveOnly_iff_attested :
    ∃ evaluation,
      (evaluation.satisfied = true ∧ evaluation.qualifyingSourceIds = [js "notary"]) ∧
        NoneByDeriveOnly
          [sampleElement "notary" "EXTERNALLY_ATTESTED", sampleElement "agent" "CROSS_WITNESSED"]
          (sampleRequirement "EXTERNALLY_ATTESTED") evaluation := by
  have evaluated : (evaluateEvidenceFloor
      (.array [sampleElement "notary" "EXTERNALLY_ATTESTED",
        sampleElement "agent" "CROSS_WITNESSED"])
      (sampleRequirement "EXTERNALLY_ATTESTED")).toOption.any (fun evaluation =>
        evaluation.satisfied && evaluation.qualifyingSourceIds == [js "notary"]) = true := by
    decide +kernel
  rcases exists_ok_of_any evaluated with ⟨evaluation, returned, facts⟩
  rw [Bool.and_eq_true, beq_iff_eq] at facts
  refine ⟨evaluation, facts, (noneByDeriveOnly_iff returned).mpr (Or.inr ?_)⟩
  rintro ⟨provenance, below, members, ⟨⟩, isText⟩
  have same : js "EXTERNALLY_ATTESTED" = provenance.text := JsValue.string.inj isText
  cases provenance with
  | EXTERNALLY_ATTESTED => exact absurd below (by decide)
  | _ => exact absurd same (by decide)

/-- An agent's own record, relabelled CROSS_WITNESSED, meets a floor of that class, and the
aggregate of the same list refuses it. -/
theorem relabelled_satisfies_floor :
    (∃ evaluation, evaluateEvidenceFloor (.array [sampleElement "agent" "CROSS_WITNESSED"])
        (sampleRequirement "CROSS_WITNESSED") = .ok evaluation ∧ evaluation.satisfied = true ∧
      ¬ NoneByDeriveOnly [sampleElement "agent" "CROSS_WITNESSED"]
        (sampleRequirement "CROSS_WITNESSED") evaluation) ∧
      ∀ aggregate,
        deriveAggregateClass (.array [sampleElement "agent" "CROSS_WITNESSED"]) ≠ .ok aggregate := by
  have derived : IsDeriveOnlyElement (sampleElement "agent" "CROSS_WITNESSED") :=
    ⟨_, ⟨_, rfl, rfl⟩, by decide +kernel⟩
  constructor
  · have evaluated : (evaluateEvidenceFloor (.array [sampleElement "agent" "CROSS_WITNESSED"])
        (sampleRequirement "CROSS_WITNESSED")).toOption.any (fun evaluation =>
          evaluation.satisfied && evaluation.qualifyingSourceIds.contains (js "agent")) = true := by
      decide +kernel
    rcases exists_ok_of_any evaluated with ⟨evaluation, returned, facts⟩
    rw [Bool.and_eq_true, List.contains_iff_mem] at facts
    refine ⟨evaluation, returned, facts.1, ?_⟩
    intro noneBy
    exact noneBy _ (List.mem_singleton_self _) derived _ facts.2 ⟨evaluation, returned, facts.2⟩
  · intro aggregate returned
    exact not_isDeriveOnlyElement_of_aggregate returned _
      (List.mem_singleton_self (sampleElement "agent" "CROSS_WITNESSED")) derived

end GhostArk.EnforcementRuntime.Evidence
