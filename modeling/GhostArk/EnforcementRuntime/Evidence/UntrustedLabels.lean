import GhostArk.EnforcementRuntime.Evidence.EvidenceFloor

/-!
Contract: unknown provenance labels fail closed, except those that every object
literal inherits.

Owns the operations that take a label, what each does with a label that is not
found, and chains of delegation hops: the admitted class of a chain of class
labels is the least of them.

A lookup in an object literal also finds the properties of `Object.prototype`, so
exactly those names pass for classes, with a rank that compares as equal.
-/

namespace GhostArk.EnforcementRuntime.Evidence

open Js

def Throws {α : Type} (outcome : Except JsError α) : Prop := ∃ error, outcome = .error error

theorem throws_iff {α : Type} {outcome : Except JsError α} :
    Throws outcome ↔ ¬ ∃ value, outcome = .ok value := by
  cases outcome with
  | ok value => exact iff_of_false (fun ⟨_, thrown⟩ => by cases thrown) fun none => none ⟨value, rfl⟩
  | error error => exact iff_of_true ⟨error, rfl⟩ fun ⟨_, returned⟩ => by cases returned

/-- Every operation that is given the label as a class throws. -/
structure FailsClosed (label : JsString) : Prop where
  rank : Throws (provenanceRank label)
  compareLeft : ∀ right, Throws (compareProvenance label right)
  compareRight : ∀ left, Throws (compareProvenance left label)
  joinLeft : ∀ right, Throws (joinProvenance label right)
  joinRight : ∀ left, Throws (joinProvenance left label)
  meetLeft : ∀ right, Throws (meetProvenance label right)
  meetRight : ∀ left, Throws (meetProvenance left label)
  observed : ∀ floor, Throws (meetsProvenanceFloor label floor)
  floor : ∀ observed, Throws (meetsProvenanceFloor observed label)
  claimed : ∀ reverified, Throws (admitDelegatedEvidence label reverified)
  reverified : ∀ claimed, Throws (admitDelegatedEvidence claimed label)
  aggregate : ∀ items, (∃ element ∈ items, HasLabel element label) →
    Throws (deriveAggregateClass (.array items))
  evidence : ∀ items requirement, (∃ element ∈ items, HasLabel element label) →
    Throws (evaluateEvidenceFloor (.array items) requirement)
  requirement : ∀ elements requirement, HasFloor requirement label →
    Throws (evaluateEvidenceFloor elements requirement)

section Unknown

variable {label : JsString}

theorem throws_forEachItem (unknown : provenanceRankByClass label = none)
    {check : JsValue → Nat → Except JsError ProvenanceLabeledEvidence}
    (checks : ∀ element index evidence, check element index = .ok evidence →
      HasLabel element evidence.provenanceClass ∧
        (provenanceRankByClass evidence.provenanceClass).isSome = true)
    {items : List JsValue} (labelled : ∃ element ∈ items, HasLabel element label) :
    ¬ ∃ evidence, forEachItem check 0 items = .ok evidence := by
  rintro ⟨evidence, visited⟩
  rcases labelled with ⟨element, member, isLabel⟩
  rcases exists_of_forEachItem visited (mem_presentItems_of_hasLabel member isLabel)
    with ⟨position, found, -, checked⟩
  rcases checks element position found checked with ⟨sameLabel, known⟩
  rw [← isLabel.unique sameLabel, unknown] at known
  cases known

theorem label_of_assertAggregateElement {element : JsValue} {index : Nat}
    {evidence : ProvenanceLabeledEvidence}
    (returned : assertAggregateElement element index = .ok evidence) :
    HasLabel element evidence.provenanceClass ∧
      (provenanceRankByClass evidence.provenanceClass).isSome = true := by
  rw [assertAggregateElement] at returned
  rcases bind_eq_ok.mp returned with ⟨shaped, isShaped, later⟩
  obtain rfl := pure_eq_ok.mp (check_eq_ok.mp later).2
  exact label_of_assertEvidenceShape isShaped

theorem admitDelegatedEvidence_eq_ok {claimed reverified admitted : JsString}
    (returned : admitDelegatedEvidence claimed reverified = .ok admitted) :
    (provenanceRankByClass claimed).isSome = true ∧
      (provenanceRankByClass reverified).isSome = true ∧
      meetProvenance claimed reverified = .ok admitted := by
  rw [admitDelegatedEvidence] at returned
  rcases bind_eq_ok.mp returned with ⟨_, -, afterClaimed⟩
  rcases bind_eq_ok.mp afterClaimed with ⟨_, -, met⟩
  have known := exists_meetProvenance_iff.mp ⟨admitted, met⟩
  exact ⟨known.1, known.2, met⟩

theorem not_exists_admitDelegatedEvidence {claimed reverified : JsString}
    (unknown : provenanceRankByClass claimed = none ∨ provenanceRankByClass reverified = none) :
    ¬ ∃ admitted, admitDelegatedEvidence claimed reverified = .ok admitted := by
  rintro ⟨admitted, returned⟩
  have known := admitDelegatedEvidence_eq_ok returned
  rcases unknown with absent | absent
  · rw [absent] at known
    cases known.1
  · rw [absent] at known
    cases known.2.1

/-- A label without a rank is refused by every function that reads one. -/
theorem failsClosed_of_unknown (unknown : provenanceRankByClass label = none) :
    FailsClosed label where
  rank := throws_iff.mpr fun ⟨entry, returned⟩ => by
    rw [provenanceRank_eq_ok_iff, unknown] at returned
    cases returned
  compareLeft right := throws_iff.mpr fun returned => by
    simpa [unknown] using exists_compareProvenance_iff.mp returned
  compareRight left := throws_iff.mpr fun returned => by
    simpa [unknown] using exists_compareProvenance_iff.mp returned
  joinLeft right := throws_iff.mpr fun returned => by
    simpa [unknown] using exists_joinProvenance_iff.mp returned
  joinRight left := throws_iff.mpr fun returned => by
    simpa [unknown] using exists_joinProvenance_iff.mp returned
  meetLeft right := throws_iff.mpr fun returned => by
    simpa [unknown] using exists_meetProvenance_iff.mp returned
  meetRight left := throws_iff.mpr fun returned => by
    simpa [unknown] using exists_meetProvenance_iff.mp returned
  observed floor := throws_iff.mpr fun returned => by
    simpa [unknown] using exists_meetsProvenanceFloor_iff.mp returned
  floor observed := throws_iff.mpr fun returned => by
    simpa [unknown] using exists_meetsProvenanceFloor_iff.mp returned
  claimed reverified := throws_iff.mpr (not_exists_admitDelegatedEvidence (Or.inl unknown))
  reverified claimed := throws_iff.mpr (not_exists_admitDelegatedEvidence (Or.inr unknown))
  aggregate items labelled := throws_iff.mpr fun ⟨aggregate, returned⟩ => by
    cases items with
    | nil => cases returned
    | cons first rest =>
      rw [deriveAggregateClass] at returned
      · rcases bind_eq_ok.mp returned with ⟨evidence, visited, -⟩
        exact throws_forEachItem unknown
          (fun _ _ _ => label_of_assertAggregateElement) labelled ⟨evidence, visited⟩
      · exact List.cons_ne_nil first rest
  evidence items requirement labelled := throws_iff.mpr fun ⟨evaluation, returned⟩ => by
    rcases evaluatedFloor returned with ⟨evaluated⟩
    exact throws_forEachItem unknown (fun _ _ _ => label_of_assertEvidenceShape) labelled
      ⟨_, evaluated.isEvidence⟩
  requirement elements requirement hasFloor := throws_iff.mpr fun ⟨evaluation, returned⟩ => by
    rw [evaluateEvidenceFloor] at returned
    rcases bind_eq_ok.mp returned with ⟨required, isRequired, -⟩
    rcases floor_of_assertRequirementShape isRequired with ⟨sameFloor, known⟩
    rcases hasFloor with ⟨members, isObject, isFloor⟩
    rcases sameFloor with ⟨others, sameObject, isSame⟩
    obtain rfl : members = others := Option.some.inj (isObject.symm.trans sameObject)
    rw [isFloor] at isSame
    cases isSame
    rw [unknown] at known
    cases known

end Unknown

/-! ### Delegation chains -/

/-- The class admitted after every hop: each hop claims what the one before admitted. -/
def admitChain (claimed : JsString) : List JsString → Except JsError JsString
  | [] => .ok claimed
  | reverified :: hops => do
    let admitted ← admitDelegatedEvidence claimed reverified
    admitChain admitted hops

def RanksAtMost (admitted other : JsString) : Prop :=
  ∃ lower upper : ProvenanceClass, lower.text = admitted ∧ upper.text = other ∧ lower ≤ upper

theorem RanksAtMost.trans {first second third : JsString} (below : RanksAtMost first second)
    (above : RanksAtMost second third) : RanksAtMost first third := by
  rcases below with ⟨low, middle, rfl, rfl, lowMiddle⟩
  rcases above with ⟨same, high, isSame, rfl, middleHigh⟩
  obtain rfl : same = middle :=
    Option.some.inj ((classOfLabel_eq_some_iff.mpr isSame).symm.trans (classOfLabel_text middle))
  exact ⟨low, high, rfl, rfl, lowMiddle.trans middleHigh⟩

theorem ranksAtMost_of_hop {claimed reverified admitted : JsString}
    (isClaimed : IsClassLabel claimed) (isReverified : IsClassLabel reverified)
    (returned : admitDelegatedEvidence claimed reverified = .ok admitted) :
    RanksAtMost admitted claimed ∧ RanksAtMost admitted reverified := by
  rcases isClaimed with ⟨left, rfl⟩
  rcases isReverified with ⟨right, rfl⟩
  have met := (admitDelegatedEvidence_eq_ok returned).2.2
  rw [meetProvenance_text] at met
  cases met
  exact ⟨⟨min left right, left, rfl, rfl, min_le_left left right⟩,
    ⟨min left right, right, rfl, rfl, min_le_right left right⟩⟩

/-- Along a chain of delegations the admitted class is not above any class on the way. -/
theorem ranksAtMost_of_chain {claimed admitted : JsString} {hops : List JsString}
    (isClaimed : IsClassLabel claimed) (areClasses : ∀ label ∈ hops, IsClassLabel label)
    (returned : admitChain claimed hops = .ok admitted) :
    ∀ label ∈ claimed :: hops, RanksAtMost admitted label := by
  induction hops generalizing claimed with
  | nil =>
    cases returned
    rcases isClaimed with ⟨provenance, rfl⟩
    intro label member
    obtain rfl := List.mem_singleton.mp member
    exact ⟨provenance, provenance, rfl, rfl, le_rfl⟩
  | cons reverified rest ih =>
    rcases bind_eq_ok.mp returned with ⟨middle, hop, later⟩
    have below := ranksAtMost_of_hop isClaimed (areClasses _ List.mem_cons_self) hop
    have isMiddle : IsClassLabel middle := ⟨_, below.1.choose_spec.choose_spec.1⟩
    have onward := ih isMiddle
      (fun label member => areClasses label (List.mem_cons_of_mem _ member)) later
    have final := onward middle List.mem_cons_self
    intro label member
    rcases List.mem_cons.mp member with rfl | inHops
    · exact final.trans below.1
    · rcases List.mem_cons.mp inHops with rfl | inRest
      · exact final.trans below.2
      · exact onward label (List.mem_cons_of_mem _ inRest)

/-- A chain that is admitted names ranked labels only. -/
theorem isSome_of_chain {claimed admitted : JsString} {first : JsString} {hops : List JsString}
    (returned : admitChain claimed (first :: hops) = .ok admitted) :
    ∀ label ∈ claimed :: first :: hops, (provenanceRankByClass label).isSome = true := by
  induction hops generalizing claimed first with
  | nil =>
    rcases bind_eq_ok.mp returned with ⟨middle, hop, -⟩
    have known := admitDelegatedEvidence_eq_ok hop
    simp [known.1, known.2.1]
  | cons second rest ih =>
    rcases bind_eq_ok.mp returned with ⟨middle, hop, later⟩
    have known := admitDelegatedEvidence_eq_ok hop
    have onward := ih later
    intro label member
    rcases List.mem_cons.mp member with rfl | inHops
    · exact known.1
    · rcases List.mem_cons.mp inHops with rfl | inRest
      · exact known.2.1
      · exact onward label (List.mem_cons_of_mem _ inRest)

/-- A label that names no class fails closed exactly when no object literal inherits it, and
the class that a chain admits is bounded by its labels exactly when none is inherited. -/
theorem labelsFailClosed_iff (unknown claimed first : JsString) (hops : List JsString)
    (admitted : JsString) :
    (¬ IsClassLabel unknown → (FailsClosed unknown ↔ unknown ∉ objectPrototypeKeys)) ∧
      (admitChain claimed (first :: hops) = .ok admitted →
        ((∀ label ∈ claimed :: first :: hops, RanksAtMost admitted label) ↔
          ∀ label ∈ claimed :: first :: hops, label ∉ objectPrototypeKeys)) := by
  constructor
  · intro noClass
    constructor
    · intro closed inherits
      rcases closed.rank with ⟨error, thrown⟩
      have found := provenanceRank_eq_ok_iff.mpr (provenanceRankByClass_inherited inherits noClass)
      rw [thrown] at found
      cases found
    · intro notInherited
      apply failsClosed_of_unknown
      rw [← Option.not_isSome_iff_eq_none, isSome_provenanceRankByClass_iff]
      exact not_or.mpr ⟨noClass, notInherited⟩
  · intro returned
    constructor
    · intro bounded label member inherits
      rcases bounded label member with ⟨_, upper, -, isUpper, -⟩
      exact not_isClassLabel_of_inherited label inherits ⟨upper, isUpper⟩
    · intro noneInherited
      have areClasses : ∀ label ∈ claimed :: first :: hops, IsClassLabel label := by
        intro label member
        have found := isSome_provenanceRankByClass_iff.mp (isSome_of_chain returned label member)
        exact found.resolve_right (noneInherited label member)
      exact ranksAtMost_of_chain (areClasses claimed List.mem_cons_self)
        (fun label member => areClasses label (List.mem_cons_of_mem _ member)) returned

theorem failsClosed_iff_unknown_and_chain :
    FailsClosed (js "TRUSTED") ∧
      ∀ label ∈ [ProvenanceClass.SOURCE_SIGNED.text, ProvenanceClass.GATEWAY_RECORDED.text],
        RanksAtMost ProvenanceClass.GATEWAY_RECORDED.text label := by
  have noClass : ¬ IsClassLabel (js "TRUSTED") :=
    classOfLabel_eq_none_iff.mp (by decide +kernel)
  have returned : admitChain ProvenanceClass.SOURCE_SIGNED.text
      [ProvenanceClass.GATEWAY_RECORDED.text] = .ok ProvenanceClass.GATEWAY_RECORDED.text :=
    eq_ok_of_toOption (by decide +kernel)
  have both := labelsFailClosed_iff (js "TRUSTED") ProvenanceClass.SOURCE_SIGNED.text
    ProvenanceClass.GATEWAY_RECORDED.text [] ProvenanceClass.GATEWAY_RECORDED.text
  exact ⟨(both.1 noClass).mpr (by decide +kernel), (both.2 returned).mpr (by decide +kernel)⟩

/-- `"toString"` is no class, and is admitted as one. -/
theorem toString_not_failsClosed :
    ¬ IsClassLabel (js "toString") ∧ ¬ FailsClosed (js "toString") ∧
      admitDelegatedEvidence (js "toString") ProvenanceClass.GATEWAY_RECORDED.text =
        .ok (js "toString") := by
  have inherits : js "toString" ∈ objectPrototypeKeys := by decide +kernel
  have noClass := not_isClassLabel_of_inherited _ inherits
  have admitted : admitDelegatedEvidence (js "toString") ProvenanceClass.GATEWAY_RECORDED.text =
      .ok (js "toString") := eq_ok_of_toOption (by decide +kernel)
  refine ⟨noClass, ?_, admitted⟩
  intro closed
  rcases closed.claimed ProvenanceClass.GATEWAY_RECORDED.text with ⟨error, thrown⟩
  rw [admitted] at thrown
  cases thrown

end GhostArk.EnforcementRuntime.Evidence
