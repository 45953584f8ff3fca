import GhostArk.EnforcementRuntime.Evidence.ProvenanceLattice
import GhostArk.EnforcementRuntime.Policy.Schema
import GhostArk.Js.Coercion

/-!
Contract: the evaluators of `packages/enforcement-runtime/src/evidence/provenanceLattice.ts`.

Owns labelled evidence elements and floor requirements read from untyped values,
the aggregate class of a set of records, the evaluation of a floor, and what a floor
counts: the elements that reach it, by source.

On evidence labelled CROSS_WITNESSED the two evaluators disagree: the aggregate
refuses such an element, the floor counts it.
-/

namespace GhostArk.EnforcementRuntime.Evidence

open Js
open Js.Decimal (natText)
open Policy (property)

def isIdentifierUnit (codeUnit : CodeUnit) : Bool :=
  isAlphanumeric codeUnit || codeUnit == unit '.' || codeUnit == unit '_' ||
    codeUnit == unit ':' || codeUnit == unit '-'

def isIdentifier (text : JsString) : Bool :=
  1 ≤ text.length && text.length ≤ 256 && text.all isIdentifierUnit

def isSha256Digest (text : JsString) : Bool := isTaggedHex64 "sha256:" text

structure ProvenanceLabeledEvidence where
  evidenceId : JsString
  contentDigest : JsString
  sourceId : JsString
  provenanceClass : JsString
deriving DecidableEq

structure EvidenceFloorRequirement where
  effectClass : JsString
  floor : JsString
  minimumDistinctSources : Nat
deriving DecidableEq

structure EvidenceFloorEvaluation where
  satisfied : Bool
  qualifyingSourceIds : List JsString
  detail : JsString
deriving DecidableEq

def checkText (members : List (JsString × JsValue)) (field : String)
    (pattern : JsString → Bool) (error : JsError) : Except JsError JsString :=
  match property members field with
  | .string text => if pattern text then .ok text else .error error
  | _ => .error error

def elementError (message : String) (index : Nat) : JsError :=
  provenanceError (js message) [(js "index", .number (.ofNat index))]

def assertEvidenceShape (element : JsValue) (index : Nat) :
    Except JsError ProvenanceLabeledEvidence :=
  match objectMembers element with
  | none => .error (elementError "Evidence element must be an object." index)
  | some members => do
    let evidenceId ← checkText members "evidenceId" isIdentifier
      (elementError "Evidence element evidenceId must be 1-256 characters of URL-safe text." index)
    let sourceId ← checkText members "sourceId" isIdentifier
      (elementError "Evidence element sourceId must be 1-256 characters of URL-safe text." index)
    let contentDigest ← checkText members "contentDigest" isSha256Digest
      (elementError "Evidence element contentDigest must be a sha256:<hex> digest." index)
    let provenanceClass ← assertProvenanceClass (property members "provenanceClass")
    return { evidenceId, contentDigest, sourceId, provenanceClass }

def assertRequirementShape (requirement : JsValue) : Except JsError EvidenceFloorRequirement :=
  match objectMembers requirement with
  | none => .error (provenanceError (js "Evidence floor requirement must be an object.") [])
  | some members => do
    let effectClass ← checkText members "effectClass" isIdentifier
      (provenanceError (js "Requirement effectClass must be 1-256 characters of URL-safe text.")
        [])
    let floor ← assertProvenanceClass (property members "floor")
    let observed := property members "minimumDistinctSources"
    let invalid := provenanceError
      (js "Requirement minimumDistinctSources must be a positive safe integer.")
      [(js "observed", observed)]
    match observed with
    | .number value =>
      match value.safeNat? with
      | some (minimum + 1) => .ok ⟨effectClass, floor, minimum + 1⟩
      | _ => .error invalid
    | _ => .error invalid

def assertAggregateElement (element : JsValue) (index : Nat) :
    Except JsError ProvenanceLabeledEvidence := do
  let evidence ← assertEvidenceShape element index
  if isDeriveOnly evidence.provenanceClass then
    throw (elementError
      "Individual evidence elements cannot carry a derive-only provenance class." index)
  return evidence

def joinAll (aggregate : JsString) : List ProvenanceLabeledEvidence → Except JsError JsString
  | [] => .ok aggregate
  | element :: rest => do
    let joined ← joinProvenance aggregate element.provenanceClass
    joinAll joined rest

/-- `elements.map(element => element.contentDigest)` as a set: a hole reads as one more value. -/
def observedDigestCount (items : List JsValue) (evidence : List ProvenanceLabeledEvidence) : Nat :=
  (distinct (evidence.map (·.contentDigest))).length + if items.any isHole then 1 else 0

def deriveAggregateClass (elements : JsValue) : Except JsError JsString :=
  let empty := provenanceError
    (js "Aggregate provenance requires at least one evidence element.") []
  match elements with
  | .array [] => .error empty
  | .array items => do
    let evidence ← forEachItem assertAggregateElement 0 items
    let digests := observedDigestCount items evidence
    if digests ≠ 1 then
      throw (provenanceError
        (js "Aggregate provenance requires all elements to commit to the same content digest.")
        [(js "observedDigestCount", .number (.ofNat digests))])
    match evidence with
    -- one digest and no element: every item is a hole
    | [] => throw (typeError (js "Cannot read properties of undefined (reading 'provenanceClass')"))
    | first :: others =>
      let aggregate ← joinAll first.provenanceClass others
      let signed ← filterChecked (fun element => meetsProvenanceFloor element.provenanceClass
        ProvenanceClass.SOURCE_SIGNED.text) evidence
      if 2 ≤ (distinct (signed.map (·.sourceId))).length then
        joinProvenance aggregate ProvenanceClass.CROSS_WITNESSED.text
      else return aggregate
  | _ => .error empty

def floorDetail (requirement : EvidenceFloorRequirement) (count : Nat) (satisfied : Bool) :
    JsString :=
  if satisfied then
    js "Requirement " ++ requirement.effectClass ++ js " met by " ++ natText count ++
      js " distinct source(s) at or above " ++ requirement.floor ++ js "."
  else
    js "Requirement " ++ requirement.effectClass ++ js " needs " ++
      natText requirement.minimumDistinctSources ++ js " distinct source(s) at or above " ++
      requirement.floor ++ js "; observed " ++ natText count ++ js "."

def evaluateEvidenceFloor (elements requirement : JsValue) :
    Except JsError EvidenceFloorEvaluation := do
  let required ← assertRequirementShape requirement
  match elements with
  | .array items =>
    let evidence ← forEachItem assertEvidenceShape 0 items
    let qualifying ← filterChecked
      (fun element => meetsProvenanceFloor element.provenanceClass required.floor) evidence
    let qualifyingSourceIds := sortTexts (distinct (qualifying.map (·.sourceId)))
    let satisfied := decide (required.minimumDistinctSources ≤ qualifyingSourceIds.length)
    return ⟨satisfied, qualifyingSourceIds,
      floorDetail required qualifyingSourceIds.length satisfied⟩
  | _ => throw (provenanceError (js "Evidence elements must be an array.") [])

/-! ### What the checks let through -/

def HasLabel (element : JsValue) (label : JsString) : Prop :=
  ∃ members, objectMembers element = some members ∧
    property members "provenanceClass" = .string label

def HasFloor (requirement : JsValue) (floor : JsString) : Prop :=
  ∃ members, objectMembers requirement = some members ∧ property members "floor" = .string floor

variable {element : JsValue}

theorem HasLabel.unique {left right : JsString} (isLeft : HasLabel element left)
    (isRight : HasLabel element right) : left = right := by
  rcases isLeft with ⟨members, isObject, isLeft⟩
  rcases isRight with ⟨others, sameObject, isRight⟩
  obtain rfl : members = others := Option.some.inj (isObject.symm.trans sameObject)
  rw [isLeft] at isRight
  cases isRight
  rfl

variable {items : List JsValue}

theorem mem_presentItems_of_hasLabel {label : JsString} (member : element ∈ items)
    (labelled : HasLabel element label) : element ∈ presentItems items := by
  refine List.mem_filter.mpr ⟨member, ?_⟩
  rcases labelled with ⟨members, isObject, -⟩
  cases element with
  | hole => cases isObject
  | _ => rfl

variable {evidence : ProvenanceLabeledEvidence}

/-- A checked element carries a label with a rank. -/
theorem label_of_assertEvidenceShape {index : Nat}
    (returned : assertEvidenceShape element index = .ok evidence) :
    HasLabel element evidence.provenanceClass ∧
      (provenanceRankByClass evidence.provenanceClass).isSome = true := by
  rw [assertEvidenceShape] at returned
  cases isObject : objectMembers element with
  | none =>
    rw [isObject] at returned
    cases returned
  | some members =>
    rw [isObject] at returned
    rcases bind_eq_ok.mp returned with ⟨evidenceId, -, afterId⟩
    rcases bind_eq_ok.mp afterId with ⟨sourceId, -, afterSource⟩
    rcases bind_eq_ok.mp afterSource with ⟨contentDigest, -, afterDigest⟩
    rcases bind_eq_ok.mp afterDigest with ⟨label, asserted, done⟩
    obtain rfl := pure_eq_ok.mp done
    rcases assertProvenanceClass_eq_ok_iff.mp asserted with ⟨isLabel, known⟩
    exact ⟨⟨members, isObject, isLabel⟩, known⟩

/-- The index of an element matters to the text of its error only. -/
theorem assertEvidenceShape_index {index other : Nat}
    (returned : assertEvidenceShape element index = .ok evidence) :
    assertEvidenceShape element other = .ok evidence := by
  have checked {members : List (JsString × JsValue)} {field : String} {pattern : JsString → Bool}
      {error error' : JsError} {text : JsString}
      (passed : checkText members field pattern error = .ok text) :
      checkText members field pattern error' = .ok text := by
    rw [checkText] at passed ⊢
    split at passed
    next held isText =>
      split at passed
      next matched =>
        rw [if_pos matched]
        exact passed
      next => cases passed
    next => cases passed
  rw [assertEvidenceShape] at returned ⊢
  cases isObject : objectMembers element with
  | none =>
    rw [isObject] at returned
    cases returned
  | some members =>
    rw [isObject] at returned
    rcases bind_eq_ok.mp returned with ⟨evidenceId, isId, afterId⟩
    rcases bind_eq_ok.mp afterId with ⟨sourceId, isSource, afterSource⟩
    rcases bind_eq_ok.mp afterSource with ⟨contentDigest, isDigest, afterDigest⟩
    simp only [checked isId, checked isSource, checked isDigest, ok_bind]
    exact afterDigest

variable {requirement : JsValue} {required : EvidenceFloorRequirement}

theorem floor_of_assertRequirementShape
    (returned : assertRequirementShape requirement = .ok required) :
    HasFloor requirement required.floor ∧
      (provenanceRankByClass required.floor).isSome = true := by
  rw [assertRequirementShape] at returned
  cases isObject : objectMembers requirement with
  | none =>
    rw [isObject] at returned
    cases returned
  | some members =>
    rw [isObject] at returned
    rcases bind_eq_ok.mp returned with ⟨effectClass, -, afterEffect⟩
    rcases bind_eq_ok.mp afterEffect with ⟨floor, asserted, afterFloor⟩
    rcases assertProvenanceClass_eq_ok_iff.mp asserted with ⟨isFloor, known⟩
    have same : required.floor = floor := by
      simp only at afterFloor
      split at afterFloor
      next =>
        split at afterFloor
        next =>
          cases afterFloor
          rfl
        next => cases afterFloor
      next => cases afterFloor
    rw [same]
    exact ⟨⟨members, isObject, isFloor⟩, known⟩

/-! ### What a floor counts -/

/-- The steps of an evaluation that returns. -/
structure EvaluatedFloor (items : List JsValue) (requirement : JsValue)
    (evaluation : EvidenceFloorEvaluation) where
  required : EvidenceFloorRequirement
  evidence : List ProvenanceLabeledEvidence
  qualifying : List ProvenanceLabeledEvidence
  isRequired : assertRequirementShape requirement = .ok required
  isEvidence : forEachItem assertEvidenceShape 0 items = .ok evidence
  isQualifying : filterChecked
    (fun element => meetsProvenanceFloor element.provenanceClass required.floor) evidence =
      .ok qualifying
  sourceIds : evaluation.qualifyingSourceIds = sortTexts (distinct (qualifying.map (·.sourceId)))
  satisfied : evaluation.satisfied =
    decide (required.minimumDistinctSources ≤ evaluation.qualifyingSourceIds.length)

/-- What an evaluation that returns has read of requirement and elements. -/
theorem evaluatedFloor {evaluation : EvidenceFloorEvaluation}
    (returned : evaluateEvidenceFloor (.array items) requirement = .ok evaluation) :
    Nonempty (EvaluatedFloor items requirement evaluation) := by
  rw [evaluateEvidenceFloor] at returned
  rcases bind_eq_ok.mp returned with ⟨required, isRequired, afterRequirement⟩
  rcases bind_eq_ok.mp afterRequirement with ⟨evidence, isEvidence, afterEvidence⟩
  rcases bind_eq_ok.mp afterEvidence with ⟨qualifying, isQualifying, done⟩
  obtain rfl := pure_eq_ok.mp done
  exact ⟨⟨required, evidence, qualifying, isRequired, isEvidence, isQualifying, rfl, rfl⟩⟩

namespace EvaluatedFloor

variable {items : List JsValue} {requirement : JsValue} {evaluation : EvidenceFloorEvaluation}

theorem mem_qualifyingSourceIds_iff (floor : EvaluatedFloor items requirement evaluation)
    {sourceId : JsString} :
    sourceId ∈ evaluation.qualifyingSourceIds ↔
      ∃ element ∈ presentItems items, ∃ evidence, assertEvidenceShape element 0 = .ok evidence ∧
        meetsProvenanceFloor evidence.provenanceClass floor.required.floor = .ok true ∧
        evidence.sourceId = sourceId := by
  rw [floor.sourceIds, mem_sortTexts_distinct, List.mem_map]
  constructor
  · rintro ⟨evidence, counts, isSource⟩
    rcases (filterChecked_eq_ok floor.isQualifying evidence).mp counts with ⟨member, meets⟩
    rcases exists_item_of_forEachItem floor.isEvidence member with ⟨element, inItems, _, shaped⟩
    exact ⟨element, inItems, evidence, assertEvidenceShape_index shaped, meets, isSource⟩
  · rintro ⟨element, inItems, evidence, shaped, meets, isSource⟩
    rcases exists_of_forEachItem floor.isEvidence inItems with ⟨position, held, member, isHeld⟩
    obtain rfl : held = evidence :=
      Except.ok.inj ((assertEvidenceShape_index isHeld).symm.trans shaped)
    exact ⟨held, (filterChecked_eq_ok floor.isQualifying held).mpr ⟨member, meets⟩, isSource⟩

end EvaluatedFloor

theorem exists_evaluateEvidenceFloor_of_checked {evidence : List ProvenanceLabeledEvidence}
    (isRequired : assertRequirementShape requirement = .ok required)
    (isEvidence : forEachItem assertEvidenceShape 0 items = .ok evidence) :
    ∃ evaluation, evaluateEvidenceFloor (.array items) requirement = .ok evaluation := by
  have floorKnown := (floor_of_assertRequirementShape isRequired).2
  have meets : ∀ element ∈ evidence, ∃ keeps,
      meetsProvenanceFloor element.provenanceClass required.floor = .ok keeps := by
    intro element member
    rcases exists_item_of_forEachItem isEvidence member with ⟨item, -, position, shaped⟩
    exact exists_meetsProvenanceFloor_iff.mpr
      ⟨(label_of_assertEvidenceShape shaped).2, floorKnown⟩
  rcases exists_filterChecked_iff.mpr meets with ⟨qualifying, isQualifying⟩
  rw [evaluateEvidenceFloor, isRequired, ok_bind]
  simp only [isEvidence, ok_bind, isQualifying]
  exact ⟨_, rfl⟩

/-- The requirement and every element pass their checks. -/
def WellFormedFloor (elements requirement : JsValue) : Prop :=
  (∃ required, assertRequirementShape requirement = .ok required) ∧
    ∃ items, elements = .array items ∧
      ∀ element ∈ presentItems items, ∃ evidence, assertEvidenceShape element 0 = .ok evidence

theorem exists_evaluateEvidenceFloor_iff {elements requirement : JsValue} :
    (∃ evaluation, evaluateEvidenceFloor elements requirement = .ok evaluation) ↔
      WellFormedFloor elements requirement := by
  constructor
  · rintro ⟨evaluation, returned⟩
    cases elements with
    | array items =>
      rcases evaluatedFloor returned with ⟨evaluated⟩
      refine ⟨⟨_, evaluated.isRequired⟩, items, rfl, ?_⟩
      intro element member
      rcases exists_of_forEachItem evaluated.isEvidence member with ⟨_, evidence, -, shaped⟩
      exact ⟨evidence, assertEvidenceShape_index shaped⟩
    | _ =>
      rw [evaluateEvidenceFloor] at returned
      rcases bind_eq_ok.mp returned with ⟨_, -, thrown⟩
      cases thrown
  · rintro ⟨⟨required, isRequired⟩, items, rfl, shaped⟩
    have visited : ∃ found, forEachItem assertEvidenceShape 0 items = .ok found := by
      apply exists_forEachItem
      intro element member position
      rcases shaped element member with ⟨evidence, isEvidence⟩
      exact ⟨evidence, assertEvidenceShape_index isEvidence⟩
    rcases visited with ⟨evidence, isEvidence⟩
    exact exists_evaluateEvidenceFloor_of_checked isRequired isEvidence

end GhostArk.EnforcementRuntime.Evidence
