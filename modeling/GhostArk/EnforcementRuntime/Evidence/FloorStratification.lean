import GhostArk.EnforcementRuntime.Evidence.DeriveOnlyEvidence
import GhostArk.Lib.KeyedSort

/-!
Contract: the evaluators of `packages/enforcement-runtime/src/evidence/provenanceLattice.ts` on
elements whose labels name classes.

Owns what the evaluators compute from the set of checked elements: the sources at or above a floor,
and the strongest class with its upgrade; that they therefore read neither order nor repetition; that
elements below a floor change none of its sources, and no element unsatisfies it; and that an
aggregate becomes cross-witnessed only by two sources that signed one digest.
-/

namespace GhostArk.EnforcementRuntime.Evidence

open Js
open Lib

/-! ### Valid elements -/

/-- The element passes its check and its label names the class. -/
def IsElement (element : JsValue) (evidence : ProvenanceLabeledEvidence)
    (provenance : ProvenanceClass) : Prop :=
  assertEvidenceShape element 0 = .ok evidence ∧ evidence.provenanceClass = provenance.text

def IsValidElement (element : JsValue) : Prop :=
  ∃ evidence provenance, IsElement element evidence provenance

/-- An element of the list is the evidence. -/
def Holds (items : List JsValue) (evidence : ProvenanceLabeledEvidence)
    (provenance : ProvenanceClass) : Prop :=
  ∃ element ∈ items, IsElement element evidence provenance

/-- The requirement passes its check and its floor names the class. -/
def IsRequirement (requirement : JsValue) (required : EvidenceFloorRequirement)
    (floor : ProvenanceClass) : Prop :=
  assertRequirementShape requirement = .ok required ∧ required.floor = floor.text

def IsValidRequirement (requirement : JsValue) : Prop :=
  ∃ required floor, IsRequirement requirement required floor

def IsBelowFloor (element requirement : JsValue) : Prop :=
  ∃ evidence provenance required floor, IsElement element evidence provenance ∧
    IsRequirement requirement required floor ∧ provenance < floor

section Checked

variable {items others : List JsValue}

theorem isHole_of_isValidElement {element : JsValue} (valid : IsValidElement element) :
    isHole element = false := by
  rcases valid with ⟨evidence, provenance, checked, -⟩
  cases element with
  | hole => cases checked
  | _ => rfl

theorem presentItems_of_valid (valid : ∀ element ∈ items, IsValidElement element) :
    presentItems items = items := by
  refine List.filter_eq_self.mpr fun element member => ?_
  rw [isHole_of_isValidElement (valid element member)]
  rfl

/-- What passes the check at one index passes it at every index. -/
def IndexFree (check : JsValue → Nat → Except JsError ProvenanceLabeledEvidence) : Prop :=
  ∀ element index other evidence, check element index = .ok evidence →
    check element other = .ok evidence

theorem indexFree_assertEvidenceShape : IndexFree assertEvidenceShape :=
  fun _ _ _ _ => assertEvidenceShape_index

theorem indexFree_assertAggregateElement : IndexFree assertAggregateElement := by
  intro element index other evidence returned
  rw [assertAggregateElement] at returned ⊢
  rcases bind_eq_ok.mp returned with ⟨held, shaped, later⟩
  rw [assertEvidenceShape_index shaped, ok_bind]
  rw [check_eq_ok] at later ⊢
  exact later

variable {found : List ProvenanceLabeledEvidence} {evidence : ProvenanceLabeledEvidence}

theorem mem_checked_iff {check : JsValue → Nat → Except JsError ProvenanceLabeledEvidence}
    (anywhere : IndexFree check) (valid : ∀ element ∈ items, IsValidElement element)
    (checked : forEachItem check 0 items = .ok found) :
    evidence ∈ found ↔ ∃ element ∈ items, check element 0 = .ok evidence := by
  rw [← presentItems_of_valid valid]
  constructor
  · intro member
    rcases exists_item_of_forEachItem checked member with ⟨element, isItem, position, passed⟩
    exact ⟨element, isItem, anywhere _ _ _ _ passed⟩
  · rintro ⟨element, isItem, passed⟩
    rcases exists_of_forEachItem checked isItem with ⟨position, held, member, isHeld⟩
    have same : held = evidence := Except.ok.inj ((anywhere _ _ _ _ isHeld).symm.trans passed)
    exact same ▸ member

/-- All elements of a valid list pass the check. -/
theorem exists_checked (valid : ∀ element ∈ items, IsValidElement element) :
    ∃ found, forEachItem assertEvidenceShape 0 items = .ok found := by
  apply exists_forEachItem
  intro element isItem position
  rw [presentItems_of_valid valid] at isItem
  rcases valid element isItem with ⟨evidence, -, checked, -⟩
  exact ⟨evidence, assertEvidenceShape_index checked⟩

def classOf (evidence : ProvenanceLabeledEvidence) : ProvenanceClass :=
  (classOfLabel evidence.provenanceClass).getD .AGENT_ASSERTED

theorem IsElement.classOf {element : JsValue} {provenance : ProvenanceClass}
    (isElement : IsElement element evidence provenance) : classOf evidence = provenance := by
  rw [Evidence.classOf, isElement.2, classOfLabel_text, Option.getD_some]

theorem filterChecked_floor {floor : ProvenanceClass}
    (labelled : ∀ evidence ∈ found, evidence.provenanceClass = (classOf evidence).text) :
    filterChecked (fun evidence => meetsProvenanceFloor evidence.provenanceClass floor.text) found =
      .ok (found.filter fun evidence => floor ≤ classOf evidence) := by
  induction found with
  | nil => rfl
  | cons first rest ih =>
    rw [List.forall_mem_cons] at labelled
    have meets : meetsProvenanceFloor first.provenanceClass floor.text =
        .ok (decide (floor ≤ classOf first)) := by
      rw [labelled.1, meetsProvenanceFloor_text]
    rw [filterChecked, meets, ih labelled.2, List.filter_cons]
    rfl

end Checked

def sourcesAt (floor : ProvenanceClass) (found : List ProvenanceLabeledEvidence) : List JsString :=
  (found.filter fun evidence => floor ≤ classOf evidence).map (·.sourceId)

def evaluationOf (required : EvidenceFloorRequirement) (sourceIds : List JsString) :
    EvidenceFloorEvaluation :=
  let satisfied := decide (required.minimumDistinctSources ≤ sourceIds.length)
  ⟨satisfied, sourceIds, floorDetail required sourceIds.length satisfied⟩

section Floors

variable {items : List JsValue} {requirement : JsValue} {required : EvidenceFloorRequirement}
  {floor : ProvenanceClass} {found : List ProvenanceLabeledEvidence}

theorem labelled_of_checked (valid : ∀ element ∈ items, IsValidElement element)
    (checked : forEachItem assertEvidenceShape 0 items = .ok found) :
    ∀ evidence ∈ found, evidence.provenanceClass = (classOf evidence).text := by
  intro evidence member
  rcases (mem_checked_iff indexFree_assertEvidenceShape valid checked).mp member with
    ⟨element, isItem, passed⟩
  rcases valid element isItem with ⟨held, provenance, isElement⟩
  have same : held = evidence := Except.ok.inj (isElement.1.symm.trans passed)
  rw [← same, isElement.classOf, isElement.2]

/-- The evaluation of a valid list counts the sources at or above the floor. -/
theorem evaluateEvidenceFloor_of_valid (isRequired : IsRequirement requirement required floor)
    (valid : ∀ element ∈ items, IsValidElement element)
    (checked : forEachItem assertEvidenceShape 0 items = .ok found) :
    evaluateEvidenceFloor (.array items) requirement =
      .ok (evaluationOf required (sortTexts (distinct (sourcesAt floor found)))) := by
  have filtered := @filterChecked_floor _ floor (labelled_of_checked valid checked)
  rw [← isRequired.2] at filtered
  rw [evaluateEvidenceFloor, isRequired.1, ok_bind]
  simp only [checked, ok_bind, filtered]
  rfl

theorem mem_sourcesAt_iff (valid : ∀ element ∈ items, IsValidElement element)
    (checked : forEachItem assertEvidenceShape 0 items = .ok found) {sourceId : JsString} :
    sourceId ∈ sourcesAt floor found ↔ ∃ evidence provenance,
      Holds items evidence provenance ∧ floor ≤ provenance ∧ evidence.sourceId = sourceId := by
  simp only [sourcesAt, List.mem_map, List.mem_filter, decide_eq_true_eq]
  constructor
  · rintro ⟨evidence, ⟨member, reaches⟩, isSource⟩
    rcases (mem_checked_iff indexFree_assertEvidenceShape valid checked).mp member with
      ⟨element, isItem, passed⟩
    have isElement : IsElement element evidence (classOf evidence) :=
      ⟨passed, labelled_of_checked valid checked evidence member⟩
    exact ⟨evidence, classOf evidence, ⟨element, isItem, isElement⟩, reaches, isSource⟩
  · rintro ⟨evidence, provenance, ⟨element, isItem, isElement⟩, reaches, isSource⟩
    refine ⟨evidence, ⟨?_, isElement.classOf ▸ reaches⟩, isSource⟩
    exact (mem_checked_iff indexFree_assertEvidenceShape valid checked).mpr
      ⟨element, isItem, isElement.1⟩

end Floors

/-! ### Aggregates -/

def strongest (found : List ProvenanceLabeledEvidence) : ProvenanceClass :=
  found.foldl (fun class_ evidence => max class_ (classOf evidence)) .AGENT_ASSERTED

/-- The strongest class, upgraded if two sources have signed. -/
def aggregateOf (found : List ProvenanceLabeledEvidence) : ProvenanceClass :=
  if 2 ≤ (distinct (sourcesAt .SOURCE_SIGNED found)).length then
    max (strongest found) .CROSS_WITNESSED
  else strongest found

/-- The elements of an aggregate: they are some, and commit to one digest. -/
structure IsAggregate (items : List JsValue) (found : List ProvenanceLabeledEvidence) : Prop where
  checked : forEachItem assertAggregateElement 0 items = .ok found
  nonempty : found ≠ []
  oneDigest : (distinct (found.map (·.contentDigest))).length = 1

section Aggregates

variable {items : List JsValue} {found : List ProvenanceLabeledEvidence}

theorem foldl_max_le_iff (found : List ProvenanceLabeledEvidence) (start : ProvenanceClass)
    {bound : ProvenanceClass} :
    found.foldl (fun class_ evidence => max class_ (classOf evidence)) start ≤ bound ↔
      start ≤ bound ∧ ∀ evidence ∈ found, classOf evidence ≤ bound := by
  induction found generalizing start with
  | nil => simp
  | cons first rest ih =>
    rw [List.foldl_cons, ih, max_le_iff, List.forall_mem_cons, and_assoc]

theorem agentAsserted_le (provenance : ProvenanceClass) : .AGENT_ASSERTED ≤ provenance :=
  Nat.zero_le provenance.rank

theorem strongest_le_iff {bound : ProvenanceClass} :
    strongest found ≤ bound ↔ ∀ evidence ∈ found, classOf evidence ≤ bound := by
  rw [strongest, foldl_max_le_iff]
  exact and_iff_right (agentAsserted_le bound)

theorem joinAll_text {start : ProvenanceClass}
    (labelled : ∀ evidence ∈ found, evidence.provenanceClass = (classOf evidence).text) :
    joinAll start.text found =
      .ok (found.foldl (fun class_ evidence => max class_ (classOf evidence)) start).text := by
  induction found generalizing start with
  | nil => rfl
  | cons first rest ih =>
    rw [List.forall_mem_cons] at labelled
    rw [joinAll, labelled.1, joinProvenance_text, ok_bind, ih labelled.2]
    rfl

theorem strongest_cons (first : ProvenanceLabeledEvidence)
    (others : List ProvenanceLabeledEvidence) :
    strongest (first :: others) =
      others.foldl (fun class_ evidence => max class_ (classOf evidence)) (classOf first) := by
  rw [strongest, List.foldl_cons, max_eq_right (agentAsserted_le (classOf first))]

theorem upgraded_text (found : List ProvenanceLabeledEvidence) :
    (if 2 ≤ (distinct (sourcesAt .SOURCE_SIGNED found)).length then
      joinProvenance (strongest found).text ProvenanceClass.CROSS_WITNESSED.text
    else pure (strongest found).text) = .ok (aggregateOf found).text := by
  rw [aggregateOf, joinProvenance_text]
  split <;> rfl

theorem mem_aggregate_iff (valid : ∀ element ∈ items, IsValidElement element)
    (checked : forEachItem assertAggregateElement 0 items = .ok found)
    {evidence : ProvenanceLabeledEvidence} :
    evidence ∈ found ↔ ∃ element ∈ items, ∃ provenance,
      IsElement element evidence provenance ∧ provenance ≠ .CROSS_WITNESSED := by
  rw [mem_checked_iff indexFree_assertAggregateElement valid checked]
  refine exists_congr fun element => and_congr_right fun isItem => ?_
  rw [assertAggregateElement, bind_eq_ok]
  constructor
  · rintro ⟨held, shaped, later⟩
    rw [check_eq_ok, pure_eq_ok] at later
    rcases later with ⟨notDeriveOnly, rfl⟩
    rcases valid element isItem with ⟨other, provenance, isElement⟩
    have same : other = held := Except.ok.inj (isElement.1.symm.trans shaped)
    subst same
    refine ⟨provenance, isElement, ?_⟩
    rintro rfl
    exact notDeriveOnly (isDeriveOnly_iff.mpr isElement.2)
  · rintro ⟨provenance, isElement, assignable⟩
    refine ⟨evidence, isElement.1, ?_⟩
    rw [check_eq_ok, pure_eq_ok]
    refine ⟨?_, rfl⟩
    rw [isDeriveOnly_iff, isElement.2]
    revert assignable
    cases provenance <;> decide +kernel

theorem labelled_of_aggregate (valid : ∀ element ∈ items, IsValidElement element)
    (checked : forEachItem assertAggregateElement 0 items = .ok found) :
    ∀ evidence ∈ found, evidence.provenanceClass = (classOf evidence).text := by
  intro evidence member
  rcases (mem_aggregate_iff valid checked).mp member with ⟨element, -, provenance, isElement, -⟩
  rw [isElement.classOf, isElement.2]

/-- The aggregate of a valid list is the strongest class found, or its upgrade. -/
theorem deriveAggregateClass_eq_ok_iff (valid : ∀ element ∈ items, IsValidElement element)
    {label : JsString} :
    deriveAggregateClass (.array items) = .ok label ↔
      ∃ found, IsAggregate items found ∧ label = (aggregateOf found).text := by
  have noHole : items.any isHole = false := by
    rw [List.any_eq_false]
    intro element isItem
    rw [isHole_of_isValidElement (valid element isItem)]
    exact Bool.false_ne_true
  have counted (found : List ProvenanceLabeledEvidence) : observedDigestCount items found =
      (distinct (found.map (·.contentDigest))).length := by
    rw [observedDigestCount, noHole]
    rfl
  cases items with
  | nil =>
    refine iff_of_false (fun returned => by cases returned) ?_
    rintro ⟨found, aggregate, -⟩
    cases aggregate.checked
    exact aggregate.nonempty rfl
  | cons item rest =>
    have parts (found : List ProvenanceLabeledEvidence) : IsAggregate (item :: rest) found ↔
        forEachItem assertAggregateElement 0 (item :: rest) = .ok found ∧ found ≠ [] ∧
          (distinct (found.map (·.contentDigest))).length = 1 :=
      ⟨fun aggregate => ⟨aggregate.checked, aggregate.nonempty, aggregate.oneDigest⟩,
        fun both => ⟨both.1, both.2.1, both.2.2⟩⟩
    rw [deriveAggregateClass, bind_eq_ok]
    · refine exists_congr fun found => ?_
      rw [parts, and_assoc, and_assoc]
      refine and_congr_right fun checked => ?_
      simp only [counted]
      rw [check_eq_ok, not_not]
      cases found with
      | nil => exact iff_of_false (fun both => by cases both.2) fun all => all.1 rfl
      | cons first others =>
        have labelled := labelled_of_aggregate valid checked
        have filtered := @filterChecked_floor _ .SOURCE_SIGNED labelled
        rw [List.forall_mem_cons] at labelled
        have joined := @joinAll_text _ (classOf first) labelled.2
        rw [← labelled.1, ← strongest_cons] at joined
        simp only [joined, filtered, ok_bind]
        constructor
        · rintro ⟨one, derived⟩
          have same := (upgraded_text (first :: others)).symm.trans derived
          exact ⟨List.cons_ne_nil _ _, one, (Except.ok.inj same).symm⟩
        · rintro ⟨-, one, rfl⟩
          exact ⟨one, upgraded_text (first :: others)⟩
    · exact List.cons_ne_nil item rest

end Aggregates

/-! ### Stratification -/

/-- The lists hold the same elements, in whatever order and however often. -/
def SameElements (items others : List JsValue) : Prop := ∀ element, element ∈ others ↔ element ∈ items

/-- Two elements of different sources, both signed by their source or better, under one digest. -/
def CrossWitnessed (items : List JsValue) : Prop :=
  ∃ first ∈ items, ∃ second ∈ items, ∃ evidence other provenance otherProvenance,
    IsElement first evidence provenance ∧ IsElement second other otherProvenance ∧
      .SOURCE_SIGNED ≤ provenance ∧ .SOURCE_SIGNED ≤ otherProvenance ∧
      evidence.sourceId ≠ other.sourceId ∧ evidence.contentDigest = other.contentDigest

/-- What the evaluators compute of a list, with what other lists make of it. -/
structure Stratified (items : List JsValue) (requirement : JsValue) : Prop where
  floorOrderFree : ∀ others, SameElements items others →
    evaluateEvidenceFloor (.array others) requirement =
      evaluateEvidenceFloor (.array items) requirement
  aggregateOrderFree : ∀ others, SameElements items others →
    (deriveAggregateClass (.array others)).toOption =
      (deriveAggregateClass (.array items)).toOption
  belowFloor : ∀ more, items ⊆ more →
    (∀ element ∈ more, element ∈ items ∨ IsBelowFloor element requirement) →
      ∃ evaluation later, evaluateEvidenceFloor (.array items) requirement = .ok evaluation ∧
        evaluateEvidenceFloor (.array more) requirement = .ok later ∧
        later.qualifyingSourceIds = evaluation.qualifyingSourceIds
  monotone : ∀ more, items ⊆ more → (∀ element ∈ more, IsValidElement element) →
    ∃ evaluation later, evaluateEvidenceFloor (.array items) requirement = .ok evaluation ∧
      evaluateEvidenceFloor (.array more) requirement = .ok later ∧
      (evaluation.satisfied = true → later.satisfied = true)
  crossWitnessed : deriveAggregateClass (.array items) =
    .ok ProvenanceClass.CROSS_WITNESSED.text → CrossWitnessed items

section Stratification

variable {items others : List JsValue} {requirement : JsValue} {required : EvidenceFloorRequirement}
  {floor : ProvenanceClass}

theorem sortTexts_distinct_congr {left right : List JsString}
    (same : ∀ text, text ∈ left ↔ text ∈ right) :
    sortTexts (distinct left) = sortTexts (distinct right) :=
  sortTexts_congr (perm_eraseDups_of_mem_iff same)

theorem length_sortTexts (texts : List JsString) :
    (sortTexts (distinct texts)).length = (distinct texts).length :=
  (List.perm_insertionSort _ _).length_eq

/-- Validity is a matter of the elements, whatever their order and repetition. -/
theorem SameElements.valid (same : SameElements items others)
    (valid : ∀ element ∈ items, IsValidElement element) :
    ∀ element ∈ others, IsValidElement element :=
  fun element member => valid element ((same element).mp member)

/-- Lists with the same elements at or above the floor are evaluated alike. -/
theorem evaluation_congr (isRequired : IsRequirement requirement required floor)
    (valid : ∀ element ∈ items, IsValidElement element)
    (otherValid : ∀ element ∈ others, IsValidElement element)
    (same : ∀ evidence provenance, floor ≤ provenance →
      (Holds others evidence provenance ↔ Holds items evidence provenance)) :
    evaluateEvidenceFloor (.array others) requirement =
      evaluateEvidenceFloor (.array items) requirement := by
  rcases exists_checked valid with ⟨found, checked⟩
  rcases exists_checked otherValid with ⟨otherFound, otherChecked⟩
  have sameSources : sortTexts (distinct (sourcesAt floor otherFound)) =
      sortTexts (distinct (sourcesAt floor found)) := by
    apply sortTexts_distinct_congr
    intro sourceId
    rw [mem_sourcesAt_iff valid checked, mem_sourcesAt_iff otherValid otherChecked]
    refine exists_congr fun evidence => exists_congr fun provenance => ?_
    have sameHolds := same evidence provenance
    tauto
  rw [evaluateEvidenceFloor_of_valid isRequired valid checked,
    evaluateEvidenceFloor_of_valid isRequired otherValid otherChecked, sameSources]

theorem Holds.mono (subset : items ⊆ others) {evidence : ProvenanceLabeledEvidence}
    {provenance : ProvenanceClass} (holds : Holds items evidence provenance) :
    Holds others evidence provenance := by
  rcases holds with ⟨element, isItem, isElement⟩
  exact ⟨element, subset isItem, isElement⟩

/-- More elements never unsatisfy a floor. -/
theorem satisfied_mono (isRequired : IsRequirement requirement required floor)
    (valid : ∀ element ∈ items, IsValidElement element)
    (otherValid : ∀ element ∈ others, IsValidElement element) (subset : items ⊆ others) :
    ∃ evaluation later, evaluateEvidenceFloor (.array items) requirement = .ok evaluation ∧
      evaluateEvidenceFloor (.array others) requirement = .ok later ∧
      (evaluation.satisfied = true → later.satisfied = true) := by
  rcases exists_checked valid with ⟨found, checked⟩
  rcases exists_checked otherValid with ⟨otherFound, otherChecked⟩
  refine ⟨_, _, evaluateEvidenceFloor_of_valid isRequired valid checked,
    evaluateEvidenceFloor_of_valid isRequired otherValid otherChecked, ?_⟩
  have fewer : (distinct (sourcesAt floor found)).length ≤
      (distinct (sourcesAt floor otherFound)).length := by
    apply length_eraseDups_le
    intro sourceId member
    rw [mem_sourcesAt_iff valid checked] at member
    rw [mem_sourcesAt_iff otherValid otherChecked]
    rcases member with ⟨evidence, provenance, holds, reaches⟩
    exact ⟨evidence, provenance, holds.mono subset, reaches⟩
  simp only [evaluationOf, decide_eq_true_eq, length_sortTexts]
  exact fun enough => enough.trans fewer

theorem aggregate_congr (same : SameElements items others)
    (valid : ∀ element ∈ items, IsValidElement element) {label : JsString}
    (derived : deriveAggregateClass (.array items) = .ok label) :
    deriveAggregateClass (.array others) = .ok label := by
  have otherValid := same.valid valid
  rcases (deriveAggregateClass_eq_ok_iff valid).mp derived with ⟨found, aggregate, isLabel⟩
  have assigned : ∃ otherFound, forEachItem assertAggregateElement 0 others = .ok otherFound := by
    apply exists_forEachItem
    intro element isPresent position
    rw [presentItems_of_valid otherValid, same] at isPresent
    rw [← presentItems_of_valid valid] at isPresent
    rcases exists_of_forEachItem aggregate.checked isPresent with ⟨_, evidence, -, passed⟩
    exact ⟨evidence, indexFree_assertAggregateElement _ _ _ _ passed⟩
  rcases assigned with ⟨otherFound, otherChecked⟩
  have sameFound (evidence : ProvenanceLabeledEvidence) :
      evidence ∈ otherFound ↔ evidence ∈ found := by
    rw [mem_aggregate_iff otherValid otherChecked, mem_aggregate_iff valid aggregate.checked]
    exact exists_congr fun element => and_congr_left fun _ => same element
  have sameLength (field : ProvenanceLabeledEvidence → JsString)
      (keeps : ProvenanceLabeledEvidence → Bool) :
      (distinct ((otherFound.filter keeps).map field)).length =
        (distinct ((found.filter keeps).map field)).length := by
    apply (perm_eraseDups_of_mem_iff ?_).length_eq
    intro text
    simp only [List.mem_map, List.mem_filter, sameFound]
  have sameStrongest : strongest otherFound = strongest found := by
    apply eq_of_forall_ge_iff
    intro bound
    simp only [strongest_le_iff, sameFound]
  rw [deriveAggregateClass_eq_ok_iff otherValid]
  refine ⟨otherFound, ⟨otherChecked, ?_, ?_⟩, ?_⟩
  · intro isEmpty
    rcases List.exists_mem_of_ne_nil _ aggregate.nonempty with ⟨evidence, member⟩
    rw [← sameFound, isEmpty] at member
    cases member
  · have digests := sameLength (·.contentDigest) fun _ => true
    rw [List.filter_true, List.filter_true] at digests
    rw [digests, aggregate.oneDigest]
  · rw [isLabel, aggregateOf, aggregateOf, sameStrongest, sourcesAt, sourcesAt, sameLength]

theorem exists_two_of_length {texts : List JsString} (twoTexts : 2 ≤ (distinct texts).length) :
    ∃ first second, first ∈ texts ∧ second ∈ texts ∧ first ≠ second := by
  have once : (distinct texts).Nodup := nodup_eraseDups texts
  have held {text : JsString} (member : text ∈ distinct texts) : text ∈ texts :=
    List.mem_eraseDups.mp member
  match isList : distinct texts with
  | [] =>
    rw [isList] at twoTexts
    exact absurd twoTexts (by decide)
  | [_] =>
    rw [isList] at twoTexts
    exact absurd twoTexts (by simp)
  | first :: second :: rest =>
    rw [isList] at once held
    exact ⟨first, second, held List.mem_cons_self,
      held (List.mem_cons_of_mem _ List.mem_cons_self),
      fun same => (List.nodup_cons.mp once).1 (same ▸ List.mem_cons_self)⟩

variable {found : List ProvenanceLabeledEvidence}

theorem exists_signed (valid : ∀ element ∈ items, IsValidElement element)
    (aggregate : IsAggregate items found) {sourceId : JsString}
    (isSource : sourceId ∈ sourcesAt floor found) :
    ∃ element ∈ items, ∃ evidence provenance, IsElement element evidence provenance ∧
      floor ≤ provenance ∧ evidence ∈ found ∧ evidence.sourceId = sourceId := by
  rcases List.mem_map.mp isSource with ⟨evidence, member, same⟩
  rcases List.mem_filter.mp member with ⟨inFound, reaches⟩
  rcases (mem_aggregate_iff valid aggregate.checked).mp inFound with
    ⟨element, isItem, provenance, isElement, -⟩
  rw [decide_eq_true_eq, isElement.classOf] at reaches
  exact ⟨element, isItem, evidence, provenance, isElement, reaches, inFound, same⟩

/-- An aggregate is cross-witnessed only by two sources that signed one digest. -/
theorem crossWitnessed_of_aggregate (valid : ∀ element ∈ items, IsValidElement element)
    (aggregate : IsAggregate items found) (isCross : aggregateOf found = .CROSS_WITNESSED) :
    CrossWitnessed items := by
  have assignable : strongest found ≠ .CROSS_WITNESSED := by
    intro strongestCross
    have below : strongest found ≤ .SOURCE_SIGNED := by
      rw [strongest_le_iff]
      intro evidence member
      have bound := strongest_le_iff.mp strongestCross.le evidence member
      rcases (mem_aggregate_iff valid aggregate.checked).mp member with
        ⟨element, -, provenance, isElement, notCross⟩
      rw [isElement.classOf] at bound ⊢
      revert bound notCross
      cases provenance <;> decide
    rw [strongestCross] at below
    exact absurd below (by decide)
  rw [aggregateOf] at isCross
  split at isCross
  next twoSources =>
    rcases exists_two_of_length twoSources with ⟨sourceId, other, isSource, isOther, different⟩
    rcases exists_signed valid aggregate isSource with
      ⟨first, isFirst, evidence, provenance, isElement, signed, inFound, rfl⟩
    rcases exists_signed valid aggregate isOther with
      ⟨second, isSecond, otherEvidence, otherProvenance, isOtherElement, otherSigned, otherInFound,
        rfl⟩
    refine ⟨first, isFirst, second, isSecond, evidence, otherEvidence, provenance, otherProvenance,
      isElement, isOtherElement, signed, otherSigned, different, ?_⟩
    rcases List.length_eq_one_iff.mp aggregate.oneDigest with ⟨digest, isDigest⟩
    have only {element : ProvenanceLabeledEvidence} (member : element ∈ found) :
        element.contentDigest = digest := by
      rw [← List.mem_singleton, ← isDigest, distinct, List.mem_eraseDups]
      exact List.mem_map_of_mem member
    rw [only inFound, only otherInFound]
  next => exact absurd isCross assignable

theorem ProvenanceClass.text_injective : Function.Injective ProvenanceClass.text := by
  intro left right same
  have found := congrArg classOfLabel same
  rw [classOfLabel_text, classOfLabel_text] at found
  exact Option.some.inj found

/-- **Floors.** On valid elements and a valid requirement the evaluators read neither the order nor
the repetition of the elements, elements below the floor change no source, no element unsatisfies
the floor, and an aggregate is cross-witnessed only by two sources that signed one digest. -/
theorem stratified_of_valid (items : List JsValue) (requirement : JsValue)
    (valid : ∀ element ∈ items, IsValidElement element)
    (validRequirement : IsValidRequirement requirement) : Stratified items requirement := by
  rcases validRequirement with ⟨required, floor, isRequired⟩
  constructor
  · intro others same
    refine evaluation_congr isRequired valid (same.valid valid) fun evidence provenance _ => ?_
    exact exists_congr fun element => and_congr_left fun _ => same element
  · intro others same
    have back : SameElements others items := fun element => (same element).symm
    apply Option.ext
    intro label
    constructor
    · intro derived
      exact congrArg Except.toOption
        (aggregate_congr back (same.valid valid) (eq_ok_of_toOption derived))
    · intro derived
      exact congrArg Except.toOption (aggregate_congr same valid (eq_ok_of_toOption derived))
  · intro more subset belowOrHeld
    have moreValid : ∀ element ∈ more, IsValidElement element := by
      intro element member
      rcases belowOrHeld element member with isItem | ⟨evidence, provenance, _, _, isElement, -⟩
      · exact valid element isItem
      · exact ⟨evidence, provenance, isElement⟩
    have same := evaluation_congr isRequired valid moreValid fun evidence provenance reaches => by
      refine ⟨?_, Holds.mono subset⟩
      rintro ⟨element, isMore, isElement⟩
      rcases belowOrHeld element isMore with
        isItem | ⟨other, otherProvenance, otherRequired, otherFloor, isOther, isFloor, below⟩
      · exact ⟨element, isItem, isElement⟩
      · -- the element is below the floor, so it is not the evidence
        have sameEvidence : evidence = other := Except.ok.inj (isElement.1.symm.trans isOther.1)
        have sameRequired : required = otherRequired :=
          Except.ok.inj (isRequired.1.symm.trans isFloor.1)
        subst sameEvidence sameRequired
        have sameClass := ProvenanceClass.text_injective (isElement.2.symm.trans isOther.2)
        have sameFloor := ProvenanceClass.text_injective (isRequired.2.symm.trans isFloor.2)
        rw [← sameClass, ← sameFloor] at below
        exact absurd reaches (not_le.mpr below)
    rcases exists_checked valid with ⟨found, checked⟩
    have evaluated := evaluateEvidenceFloor_of_valid isRequired valid checked
    exact ⟨_, _, evaluated, same.trans evaluated, rfl⟩
  · exact fun more subset moreValid => satisfied_mono isRequired valid moreValid subset
  · intro derived
    rcases (deriveAggregateClass_eq_ok_iff valid).mp derived with ⟨found, aggregate, isCross⟩
    exact crossWitnessed_of_aggregate valid aggregate
      (ProvenanceClass.text_injective isCross.symm)

end Stratification

namespace StratificationSample

/-- Two signed records and an assertion, all under one digest. -/
def items : List JsValue :=
  [sampleElement "tool" "SOURCE_SIGNED", sampleElement "agent" "AGENT_ASSERTED",
    sampleElement "bank" "SOURCE_SIGNED"]

theorem isElement_sample (sourceId label : String) (provenance : ProvenanceClass)
    (checked : (assertEvidenceShape (sampleElement sourceId label) 0).toOption =
      some ⟨js "claim-1", sampleDigest, js sourceId, provenance.text⟩) :
    IsValidElement (sampleElement sourceId label) :=
  ⟨_, provenance, eq_ok_of_toOption checked, rfl⟩

/-- Two signed records and an assertion under one digest. -/
theorem stratified_items : Stratified items (sampleRequirement "SOURCE_SIGNED") := by
  apply stratified_of_valid
  · intro element member
    simp only [items, List.mem_cons, List.not_mem_nil, or_false] at member
    rcases member with rfl | rfl | rfl
    · exact isElement_sample _ _ .SOURCE_SIGNED (by decide +kernel)
    · exact isElement_sample _ _ .AGENT_ASSERTED (by decide +kernel)
    · exact isElement_sample _ _ .SOURCE_SIGNED (by decide +kernel)
  · have checked : (assertRequirementShape (sampleRequirement "SOURCE_SIGNED")).toOption =
        some ⟨js "payment", ProvenanceClass.SOURCE_SIGNED.text, 1⟩ := by
      decide +kernel
    exact ⟨_, .SOURCE_SIGNED, eq_ok_of_toOption checked, rfl⟩

example : (deriveAggregateClass (.array items)).toOption =
    some ProvenanceClass.CROSS_WITNESSED.text := by
  decide +kernel

end StratificationSample


end GhostArk.EnforcementRuntime.Evidence
