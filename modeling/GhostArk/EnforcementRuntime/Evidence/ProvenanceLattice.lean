import Mathlib.Algebra.Order.Group.Unbundled.Basic
import Mathlib.Data.Rat.Cast.Order
import GhostArk.Js.Collections

/-!
Contract: `packages/enforcement-runtime/src/evidence/provenanceLattice.ts`.

Owns provenance classes as a chain, and the operations on labels: rank, comparison,
join, meet, floors and the admission of delegated evidence. Labels are texts, looked
up in an object literal; on labels that name classes the operations are those of the
chain.

Does not own: evidence elements and requirements.
-/

namespace GhostArk.EnforcementRuntime.Evidence

open Js

inductive ProvenanceClass where
  | AGENT_ASSERTED
  | GATEWAY_RECORDED
  | SOURCE_SIGNED
  | CROSS_WITNESSED
  | EXTERNALLY_ATTESTED
deriving DecidableEq, Repr

namespace ProvenanceClass

def text : ProvenanceClass → JsString
  | AGENT_ASSERTED => js "AGENT_ASSERTED"
  | GATEWAY_RECORDED => js "GATEWAY_RECORDED"
  | SOURCE_SIGNED => js "SOURCE_SIGNED"
  | CROSS_WITNESSED => js "CROSS_WITNESSED"
  | EXTERNALLY_ATTESTED => js "EXTERNALLY_ATTESTED"

def rank : ProvenanceClass → Nat
  | AGENT_ASSERTED => 0
  | GATEWAY_RECORDED => 1
  | SOURCE_SIGNED => 2
  | CROSS_WITNESSED => 3
  | EXTERNALLY_ATTESTED => 4

theorem rank_injective : Function.Injective rank := by
  intro left right same
  cases left <;> cases right <;> first | rfl | cases same

/-- Who must be compromised to fabricate the evidence: more is greater. -/
instance instLinearOrder : LinearOrder ProvenanceClass := LinearOrder.lift' rank rank_injective

theorem le_iff {left right : ProvenanceClass} : left ≤ right ↔ left.rank ≤ right.rank := Iff.rfl

theorem lt_iff {left right : ProvenanceClass} : left < right ↔ left.rank < right.rank := by
  rw [lt_iff_not_ge, le_iff, Nat.not_le]

end ProvenanceClass

def provenanceClasses : List ProvenanceClass :=
  [.AGENT_ASSERTED, .GATEWAY_RECORDED, .SOURCE_SIGNED, .CROSS_WITNESSED, .EXTERNALLY_ATTESTED]

def deriveOnlyClasses : List ProvenanceClass := [.CROSS_WITNESSED]

def IsClassLabel (label : JsString) : Prop := ∃ provenance : ProvenanceClass, provenance.text = label

/-- `deriveOnlyClasses.has(label)`. -/
def isDeriveOnly (label : JsString) : Bool :=
  (deriveOnlyClasses.map ProvenanceClass.text).contains label

variable {label : JsString}

theorem isDeriveOnly_iff :
    isDeriveOnly label = true ↔ label = ProvenanceClass.CROSS_WITNESSED.text := by
  rw [isDeriveOnly, List.contains_iff_mem]
  exact List.mem_singleton

def provenanceError (message : JsString) (context : List (JsString × JsValue)) : JsError :=
  ⟨.validationError, message,
    (js "domain", .string (js "ghost_ark.evidence_provenance.v1")) :: context⟩

/-- What a lookup in the rank table finds. -/
inductive RankEntry where
  | own (rank : Nat)
  /-- A value of `Object.prototype`, with the primitive it converts to. -/
  | inherited (primitive : JsString)
deriving DecidableEq, Repr

def classOfLabel (label : JsString) : Option ProvenanceClass :=
  provenanceClasses.find? fun provenance => provenance.text = label

/-- `provenanceRankByClass[label]`; nothing where `label in provenanceRankByClass` is false. -/
def provenanceRankByClass (label : JsString) : Option RankEntry :=
  match classOfLabel label with
  | some provenance => some (.own provenance.rank)
  | none =>
    if label ∈ objectPrototypeKeys then some (.inherited (inheritedText label)) else none

@[simp] theorem classOfLabel_text (provenance : ProvenanceClass) :
    classOfLabel provenance.text = some provenance := by
  cases provenance <;> decide +kernel

theorem classOfLabel_eq_some_iff {provenance : ProvenanceClass} :
    classOfLabel label = some provenance ↔ provenance.text = label := by
  constructor
  · intro found
    simpa using List.find?_some found
  · rintro rfl
    exact classOfLabel_text provenance

theorem classOfLabel_eq_none_iff : classOfLabel label = none ↔ ¬ IsClassLabel label := by
  rw [Option.eq_none_iff_forall_ne_some]
  constructor
  · rintro absent ⟨provenance, isText⟩
    exact absent provenance (classOfLabel_eq_some_iff.mpr isText)
  · intro absent provenance found
    exact absent ⟨provenance, classOfLabel_eq_some_iff.mp found⟩

@[simp] theorem provenanceRankByClass_text (provenance : ProvenanceClass) :
    provenanceRankByClass provenance.text = some (.own provenance.rank) := by
  rw [provenanceRankByClass, classOfLabel_text]

/-- A name of `Object.prototype` has the rank that the prototype holds under it. -/
theorem provenanceRankByClass_inherited (inherits : label ∈ objectPrototypeKeys)
    (noClass : ¬ IsClassLabel label) :
    provenanceRankByClass label = some (.inherited (inheritedText label)) := by
  rw [provenanceRankByClass, classOfLabel_eq_none_iff.mpr noClass]
  exact if_pos inherits

/-- A label is found exactly when it names a class or a property of `Object.prototype`. -/
theorem isSome_provenanceRankByClass_iff :
    (provenanceRankByClass label).isSome = true ↔
      IsClassLabel label ∨ label ∈ objectPrototypeKeys := by
  rw [provenanceRankByClass]
  cases found : classOfLabel label with
  | some provenance =>
    exact iff_of_true rfl (Or.inl ⟨provenance, classOfLabel_eq_some_iff.mp found⟩)
  | none =>
    have noClass := classOfLabel_eq_none_iff.mp found
    by_cases inherits : label ∈ objectPrototypeKeys <;> simp [inherits, noClass]

theorem not_isClassLabel_of_inherited : ∀ label ∈ objectPrototypeKeys, ¬ IsClassLabel label := by
  have apart : ∀ label ∈ objectPrototypeKeys, classOfLabel label = none := by decide +kernel
  exact fun label inherits => classOfLabel_eq_none_iff.mp (apart label inherits)

/-- `assertProvenanceClass(value)`, with the label that `value` then is. -/
def assertProvenanceClass (value : JsValue) : Except JsError JsString :=
  match value with
  | .string label =>
    if (provenanceRankByClass label).isSome then .ok label
    else .error (provenanceError (js "Unknown evidence provenance class.")
      [(js "observed", value)])
  | _ => .error (provenanceError (js "Unknown evidence provenance class.") [(js "observed", value)])

def assertAssignableProvenanceClass (value : JsValue) : Except JsError JsString := do
  let label ← assertProvenanceClass value
  if isDeriveOnly label then
    throw (provenanceError
      (js "Provenance class is derive-only and cannot be assigned to a single evidence element.")
      [(js "observed", value)])
  return label

def provenanceRank (label : JsString) : Except JsError RankEntry :=
  match provenanceRankByClass label with
  | some entry => .ok entry
  | none => .error (provenanceError (js "Unknown evidence provenance class.")
      [(js "observed", .string label)])

/-- `left - right`: an inherited value converts to NaN. -/
def RankEntry.minus : RankEntry → RankEntry → JsNumber
  | .own left, .own right => .finite ((left : ℚ) - right)
  | _, _ => .nan

/-- `left >= right`: two inherited values are compared as texts, and one against a number
is not comparable. -/
def RankEntry.ge : RankEntry → RankEntry → Bool
  | .own left, .own right => right ≤ left
  | .inherited left, .inherited right => right ≤ left
  | _, _ => false

/-- `-1`, `0` or `1`. -/
def compareProvenance (left right : JsString) : Except JsError Int := do
  let leftRank ← provenanceRank left
  let rightRank ← provenanceRank right
  let delta := leftRank.minus rightRank
  return if delta.lt (.finite 0) then -1 else if (JsNumber.finite 0).lt delta then 1 else 0

def joinProvenance (left right : JsString) : Except JsError JsString := do
  let comparison ← compareProvenance left right
  return if 0 ≤ comparison then left else right

def meetProvenance (left right : JsString) : Except JsError JsString := do
  let comparison ← compareProvenance left right
  return if comparison ≤ 0 then left else right

def meetsProvenanceFloor (observed floor : JsString) : Except JsError Bool := do
  let observedRank ← provenanceRank observed
  let floorRank ← provenanceRank floor
  return observedRank.ge floorRank

def admitDelegatedEvidence (claimedClass reverifiedClass : JsString) : Except JsError JsString := do
  let _ ← assertProvenanceClass (.string claimedClass)
  let _ ← assertAssignableProvenanceClass (.string reverifiedClass)
  meetProvenance claimedClass reverifiedClass

/-! ### Unknown labels -/

theorem assertProvenanceClass_eq_ok_iff {value : JsValue} :
    assertProvenanceClass value = .ok label ↔
      value = .string label ∧ (provenanceRankByClass label).isSome = true := by
  cases value with
  | string text =>
    rw [assertProvenanceClass]
    by_cases known : (provenanceRankByClass text).isSome = true
    · rw [if_pos known]
      constructor
      · intro returned
        cases returned
        exact ⟨rfl, known⟩
      · rintro ⟨same, -⟩
        cases same
        rfl
    · rw [if_neg known]
      refine iff_of_false (fun returned => by cases returned) ?_
      rintro ⟨same, isKnown⟩
      cases same
      exact known isKnown
  | _ => simp [assertProvenanceClass]

theorem provenanceRank_eq_ok_iff {entry : RankEntry} :
    provenanceRank label = .ok entry ↔ provenanceRankByClass label = some entry := by
  rw [provenanceRank]
  cases provenanceRankByClass label <;> simp

theorem exists_compareProvenance_iff {left right : JsString} :
    (∃ comparison, compareProvenance left right = .ok comparison) ↔
      (provenanceRankByClass left).isSome = true ∧
        (provenanceRankByClass right).isSome = true := by
  rw [compareProvenance, provenanceRank, provenanceRank]
  cases provenanceRankByClass left with
  | none => simp
  | some leftRank =>
    cases provenanceRankByClass right with
    | none => simp
    | some rightRank => simp

theorem exists_joinProvenance_iff {left right : JsString} :
    (∃ label, joinProvenance left right = .ok label) ↔
      (provenanceRankByClass left).isSome = true ∧
        (provenanceRankByClass right).isSome = true := by
  rw [← exists_compareProvenance_iff, joinProvenance]
  cases compareProvenance left right <;> simp

theorem exists_meetProvenance_iff {left right : JsString} :
    (∃ label, meetProvenance left right = .ok label) ↔
      (provenanceRankByClass left).isSome = true ∧
        (provenanceRankByClass right).isSome = true := by
  rw [← exists_compareProvenance_iff, meetProvenance]
  cases compareProvenance left right <;> simp

theorem exists_meetsProvenanceFloor_iff {observed floor : JsString} :
    (∃ meets, meetsProvenanceFloor observed floor = .ok meets) ↔
      (provenanceRankByClass observed).isSome = true ∧
        (provenanceRankByClass floor).isSome = true := by
  rw [meetsProvenanceFloor, provenanceRank, provenanceRank]
  cases provenanceRankByClass observed with
  | none => simp
  | some observedRank =>
    cases provenanceRankByClass floor with
    | none => simp
    | some floorRank => simp

@[simp] theorem provenanceRank_text (provenance : ProvenanceClass) :
    provenanceRank provenance.text = .ok (.own provenance.rank) :=
  provenanceRank_eq_ok_iff.mpr (provenanceRankByClass_text provenance)

theorem compareProvenance_text (left right : ProvenanceClass) :
    compareProvenance left.text right.text =
      .ok (if left < right then -1 else if right < left then 1 else 0) := by
  rw [compareProvenance, provenanceRank_text, ok_bind, provenanceRank_text, ok_bind]
  have negative : (JsNumber.finite ((left.rank : ℚ) - right.rank)).lt (.finite 0) =
      decide (left < right) := by
    rw [JsNumber.lt, decide_eq_decide, sub_neg, Nat.cast_lt, ProvenanceClass.lt_iff]
  have positive : (JsNumber.finite 0).lt (.finite ((left.rank : ℚ) - right.rank)) =
      decide (right < left) := by
    rw [JsNumber.lt, decide_eq_decide, sub_pos, Nat.cast_lt, ProvenanceClass.lt_iff]
  simp only [RankEntry.minus, negative, positive, decide_eq_true_eq]
  rfl

theorem joinProvenance_text (left right : ProvenanceClass) :
    joinProvenance left.text right.text = .ok (max left right).text := by
  rw [joinProvenance, compareProvenance_text, ok_bind]
  rcases lt_trichotomy left right with below | rfl | above
  · simp [below, max_eq_right below.le]
  · simp
  · simp [above, not_lt.mpr above.le, max_eq_left above.le]

theorem meetProvenance_text (left right : ProvenanceClass) :
    meetProvenance left.text right.text = .ok (min left right).text := by
  rw [meetProvenance, compareProvenance_text, ok_bind]
  rcases lt_trichotomy left right with below | rfl | above
  · simp [below, min_eq_left below.le]
  · simp
  · simp [above, not_lt.mpr above.le, min_eq_right above.le]

theorem meetsProvenanceFloor_text (observed floor : ProvenanceClass) :
    meetsProvenanceFloor observed.text floor.text = .ok (decide (floor ≤ observed)) := by
  rw [meetsProvenanceFloor, provenanceRank_text, ok_bind, provenanceRank_text, ok_bind]
  rfl

end GhostArk.EnforcementRuntime.Evidence
