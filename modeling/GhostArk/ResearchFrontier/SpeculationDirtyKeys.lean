import GhostArk.ResearchFrontier.SpeculationCollapse

/-!
Contract: what a satisfied commit of the speculative context manager reports.

Owns when a member of two states differs, the keys that are compared as they are and the names of
`Object.prototype` that are not, and that a satisfied commit returns with exactly the keys that
differ under the exact condition on those names.

Does not own: the evaluation of evidence, and commits that are refused.
-/

namespace GhostArk.ResearchFrontier

open Js
open Lib
open ReceiptSchema
open EnforcementRuntime.Evidence (evaluateEvidenceFloor)

/-! ### Members that differ -/

/-- The key is in only one of the two, or they hold different JSON values under it. -/
def Differs (base draft : JsonObject) (key : JsString) : Prop :=
  ¬ (key ∈ base.keys ↔ key ∈ draft.keys) ∨
    key ∈ base.keys ∧ key ∈ draft.keys ∧
      ¬ SameUpToKeyOrder (readProperty base.entries key) (readProperty draft.entries key)

/-- `{}` under the name `__proto__`, in the first of the two only. -/
def HidesProto (object other : JsonObject) : Prop :=
  (js "__proto__", .object []) ∈ object.entries ∧ js "__proto__" ∉ other.keys

/-- No inherited name keeps the comparison from seeing a difference. -/
structure Distinguishable (base draft : JsonObject) : Prop where
  /-- The methods of `Object.prototype` are names of both or of neither. -/
  methods : ∀ key ∈ objectPrototypeKeys, key ≠ js "__proto__" →
    (key ∈ base.keys ↔ key ∈ draft.keys)
  /-- The prototype itself is read as `{}`. -/
  prototype : ¬ HidesProto base draft ∧ ¬ HidesProto draft base

section Members

variable (runtime : Runtime) {base draft : JsonObject} {key : JsString}

theorem readProperty_of_mem {object : JsonObject} {value : JsValue}
    (member : (key, value) ∈ object.entries) : readProperty object.entries key = value := by
  have own : key ∈ object.entries.map Prod.fst := List.mem_map_of_mem member
  have distinct := (isJson_object_iff.mp object.shaped).2
  have same := List.inj_on_of_nodup_map distinct (readProperty_own own) member rfl
  exact congrArg Prod.snd same

theorem isJson_readProperty {object : JsonObject} (own : key ∈ object.keys) :
    (readProperty object.entries key).isJson = true :=
  (isJson_object_iff.mp object.shaped).1 _ (readProperty_own own)

theorem isDirty_of_found (same : hasProperty base.entries key = hasProperty draft.entries key)
    (beforeShaped : (readProperty base.entries key).isJson = true)
    (afterShaped : (readProperty draft.entries key).isJson = true) :
    isDirty runtime base draft key = .ok true ↔
      ¬ SameUpToKeyOrder (readProperty base.entries key) (readProperty draft.entries key) := by
  rw [← canonicalize_eq_iff runtime.numbers beforeShaped afterShaped, isDirty,
    if_neg (not_not.mpr same), canonicalize_of_isJson runtime.numbers beforeShaped,
    canonicalize_of_isJson runtime.numbers afterShaped, ok_bind, ok_bind]
  change Except.ok (_ != _) = Except.ok true ↔ _
  rw [Except.ok.injEq, Except.ok.injEq, bne_iff_ne]

theorem same_comm {left right : JsValue} (leftShaped : left.isJson = true)
    (rightShaped : right.isJson = true) :
    SameUpToKeyOrder left right ↔ SameUpToKeyOrder right left := by
  rw [same_iff_normalForm_eq leftShaped rightShaped, same_iff_normalForm_eq rightShaped leftShaped]
  exact eq_comm

theorem same_emptyObject_iff {value : JsValue} :
    SameUpToKeyOrder value (.object []) ↔ value = .object [] := by
  constructor
  · intro same
    cases same with
    | object entries permuted =>
      rw [List.perm_nil.mp permuted] at entries
      cases entries
      rfl
  · rintro rfl
    exact .object .nil (.refl _)

theorem readProperty_proto (foreign : js "__proto__" ∉ base.keys) :
    readProperty base.entries (js "__proto__") = .object [] := by
  rw [readProperty_inherited foreign, inheritedValue, if_pos rfl]

theorem hidesProto_iff (own : js "__proto__" ∈ base.keys) (foreign : js "__proto__" ∉ draft.keys) :
    HidesProto base draft ↔ SameUpToKeyOrder (readProperty base.entries (js "__proto__"))
      (readProperty draft.entries (js "__proto__")) := by
  rw [readProperty_proto foreign, same_emptyObject_iff]
  constructor
  · rintro ⟨member, -⟩
    exact readProperty_of_mem member
  · intro isEmpty
    exact ⟨isEmpty ▸ readProperty_own own, foreign⟩

theorem found_in_both_iff (own : key ∈ base.keys ∨ key ∈ draft.keys) :
    hasProperty base.entries key = hasProperty draft.entries key ↔
      (key ∈ base.keys ↔ key ∈ draft.keys) ∨ key ∈ objectPrototypeKeys := by
  rw [Bool.eq_iff_iff, hasProperty_iff, hasProperty_iff]
  change (key ∈ base.keys ∨ _ ↔ key ∈ draft.keys ∨ _) ↔ _
  tauto

theorem isDirty_iff (own : key ∈ base.keys ∨ key ∈ draft.keys)
    (methods : ∀ name ∈ objectPrototypeKeys, name ≠ js "__proto__" →
      (name ∈ base.keys ↔ name ∈ draft.keys)) :
    isDirty runtime base draft key = .ok true ↔
      Differs base draft key ∧
        (key = js "__proto__" → ¬ HidesProto base draft ∧ ¬ HidesProto draft base) := by
  have isProtoKey : js "__proto__" ∈ objectPrototypeKeys := by decide +kernel
  by_cases both : key ∈ base.keys ↔ key ∈ draft.keys
  · have inBase : key ∈ base.keys := own.elim id both.mpr
    have inDraft := both.mp inBase
    rw [isDirty_of_found runtime ((found_in_both_iff own).mpr (Or.inl both))
      (isJson_readProperty inBase) (isJson_readProperty inDraft)]
    constructor
    · intro different
      refine ⟨Or.inr ⟨inBase, inDraft, different⟩, ?_⟩
      rintro rfl
      exact ⟨fun hides => hides.2 inDraft, fun hides => hides.2 inBase⟩
    · rintro ⟨oneSided | ⟨-, -, different⟩, -⟩
      · exact absurd both oneSided
      · exact different
  · have differs : Differs base draft key := Or.inl both
    by_cases inherited : key ∈ objectPrototypeKeys
    · obtain rfl : key = js "__proto__" := by
        by_contra notProto
        exact both (methods key inherited notProto)
      have found := (found_in_both_iff own).mpr (Or.inr inherited)
      have emptyShaped : (JsValue.object []).isJson = true := rfl
      rcases own with inBase | inDraft
      · have notInDraft : js "__proto__" ∉ draft.keys := fun inDraft =>
          both (iff_of_true inBase inDraft)
        have afterShaped := (readProperty_proto notInDraft).symm ▸ emptyShaped
        rw [isDirty_of_found runtime found (isJson_readProperty inBase) afterShaped,
          ← hidesProto_iff inBase notInDraft]
        constructor
        · intro shows
          exact ⟨differs, fun _ => ⟨shows, fun hides => hides.2 inBase⟩⟩
        · rintro ⟨-, shows⟩
          exact (shows rfl).1
      · have notInBase : js "__proto__" ∉ base.keys := fun inBase =>
          both (iff_of_true inBase inDraft)
        have beforeShaped := (readProperty_proto notInBase).symm ▸ emptyShaped
        rw [isDirty_of_found runtime found beforeShaped (isJson_readProperty inDraft),
          same_comm beforeShaped (isJson_readProperty inDraft), ← hidesProto_iff inDraft notInBase]
        constructor
        · intro shows
          exact ⟨differs, fun _ => ⟨fun hides => hides.2 inDraft, shows⟩⟩
        · rintro ⟨-, shows⟩
          exact (shows rfl).2
    · have notFound : hasProperty base.entries key ≠ hasProperty draft.entries key := by
        rw [ne_eq, found_in_both_iff own]
        exact not_or.mpr ⟨both, inherited⟩
      rw [isDirty, if_pos notFound]
      refine iff_of_true rfl ⟨differs, ?_⟩
      rintro rfl
      exact absurd isProtoKey inherited

end Members

section Report

variable (runtime : Runtime) {base draft : JsonObject}

theorem filterChecked_sublist {V : Type} {callback : V → Except JsError Bool} {values kept : List V}
    (returned : filterChecked callback values = .ok kept) : kept.Sublist values := by
  induction values generalizing kept with
  | nil =>
    cases returned
    exact .slnil
  | cons first rest ih =>
    rcases bind_eq_ok.mp returned with ⟨keeps, -, later⟩
    rcases bind_eq_ok.mp later with ⟨others, isOthers, isKept⟩
    have sublist := ih isOthers
    rw [← pure_eq_ok.mp isKept]
    cases keeps with
    | false => exact sublist.cons first
    | true => exact sublist.cons_cons first

/-- The keys found are sorted, and exactly the dirty ones. -/
theorem dirtyKeysBetween_spec {dirtyKeys : List JsString}
    (returned : dirtyKeysBetween runtime base draft = .ok dirtyKeys) :
    dirtyKeys.Pairwise (· < ·) ∧ ∀ key, key ∈ dirtyKeys ↔
      (key ∈ base.keys ∨ key ∈ draft.keys) ∧ isDirty runtime base draft key = .ok true := by
  rcases bind_eq_ok.mp returned with ⟨kept, filtered, sorts⟩
  rw [← pure_eq_ok.mp sorts]
  constructor
  · have once : (sortTexts kept).Nodup := by
      rw [sortTexts, (List.perm_insertionSort _ _).nodup_iff]
      exact (filterChecked_sublist filtered).nodup (nodup_eraseDups _)
    have sorted : (sortTexts kept).Pairwise (· ≤ ·) := List.pairwise_insertionSort _ kept
    exact (sorted.and once).imp fun both => lt_of_le_of_ne both.1 both.2
  · intro key
    rw [sortTexts, (List.perm_insertionSort _ _).mem_iff, filterChecked_eq_ok filtered, distinct,
      List.mem_eraseDups, List.mem_append]

end Report

/-! ### Satisfied commits -/

/-- A satisfied commit makes the draft the base and reports exactly the keys that differ. -/
def CommitsExactly (runtime : Runtime) (manager : SpeculativeContextManager) (draft : JsonObject)
    (evidence requirement : JsValue) : Prop :=
  ∃ commit, (commitSpeculation runtime manager evidence requirement).1 = .ok (.committed commit) ∧
    SameUpToKeyOrder (commitSpeculation runtime manager evidence requirement).2.base.value
      draft.value ∧
    commit.dirtyKeys.Pairwise (· < ·) ∧
    ∀ key, key ∈ commit.dirtyKeys ↔ Differs manager.base draft key

section Commit

variable (runtime : Runtime) {base draft clone : JsonObject}

theorem clone_members (cloned : canonicalClone runtime draft.held "draft" = .ok clone) :
    (∀ key, key ∈ clone.keys ↔ key ∈ draft.keys) ∧
      ∀ key ∈ draft.keys, readProperty clone.entries key =
        normalForm (readProperty draft.entries key) := by
  have same : JsValue.object (sortEntries (normalEntries draft.entries)) = .object clone.entries :=
    ((canonicalClone_eq_ok_iff runtime).mp cloned).2
  have isClone : sortEntries (normalEntries draft.entries) = clone.entries :=
    JsValue.object.inj same
  constructor
  · intro key
    rw [JsonObject.keys, ← isClone, ((perm_sortEntries _).map Prod.fst).mem_iff,
      keys_normalEntries]
    rfl
  · intro key own
    apply readProperty_of_mem
    rw [← isClone, (perm_sortEntries _).mem_iff, normalEntries_eq_map]
    exact List.mem_map.mpr ⟨_, readProperty_own own, rfl⟩

theorem isDirty_clone (cloned : canonicalClone runtime draft.held "draft" = .ok clone)
    (key : JsString) : isDirty runtime base clone key = isDirty runtime base draft key := by
  rcases clone_members runtime cloned with ⟨sameKeys, members⟩
  have found : hasProperty clone.entries key = hasProperty draft.entries key := by
    rw [Bool.eq_iff_iff, hasProperty_iff, hasProperty_iff]
    exact or_congr_left (sameKeys key)
  have text : canonicalize runtime.numbers (readProperty clone.entries key) =
      canonicalize runtime.numbers (readProperty draft.entries key) := by
    by_cases own : key ∈ draft.keys
    · rw [members key own, canonicalize_normalForm (isJson_readProperty own)]
    · have foreign : key ∉ clone.keys := mt (sameKeys key).mp own
      rw [readProperty_inherited own, readProperty_inherited foreign]
  rw [isDirty, isDirty, found, text]

/-- **Satisfied speculations.** A commit whose evidence satisfies the floor returns with exactly the
keys that differ just when no inherited name hides a difference. -/
theorem commitsExactly_iff (manager : SpeculativeContextManager) (draft : JsonObject)
    (isActive : manager.draft = some draft.held) {evidence requirement : JsValue}
    (satisfied : ∃ evaluation, evaluateEvidenceFloor evidence requirement = .ok evaluation ∧
      evaluation.satisfied = true) :
    CommitsExactly runtime manager draft evidence requirement ↔
      Distinguishable manager.base draft := by
  rcases satisfied with ⟨evaluation, evaluated, isSatisfied⟩
  obtain ⟨clone, cloned⟩ : ∃ clone, canonicalClone runtime draft.held "draft" = .ok clone :=
    (exists_canonicalClone_iff runtime "draft").mpr ⟨draft.shaped, draft.entries, rfl⟩
  have sameKeys := (clone_members runtime cloned).1
  have throws {error : JsError}
      (compared : dirtyKeysBetween runtime manager.base clone = .error error) :
      commitSpeculation runtime manager evidence requirement = (.error error, manager) := by
    simp only [commitSpeculation, isActive, cloned, evaluated, isSatisfied, if_true, compared]
  have commits {dirtyKeys : List JsString}
      (compared : dirtyKeysBetween runtime manager.base clone = .ok dirtyKeys) :
      commitSpeculation runtime manager evidence requirement =
        (.ok (.committed ⟨dirtyKeys, evaluation.detail⟩),
          { manager with base := clone, draft := none }) := by
    simp only [commitSpeculation, isActive, cloned, evaluated, isSatisfied, if_true, compared]
  have reported {dirtyKeys : List JsString}
      (returned : dirtyKeysBetween runtime manager.base clone = .ok dirtyKeys) (key : JsString) :
      key ∈ dirtyKeys ↔ (key ∈ manager.base.keys ∨ key ∈ draft.keys) ∧
        isDirty runtime manager.base draft key = .ok true := by
    rw [(dirtyKeysBetween_spec runtime returned).2, sameKeys, isDirty_clone runtime cloned]
  have returns : (∃ dirtyKeys, dirtyKeysBetween runtime manager.base clone = .ok dirtyKeys) ↔
      ∀ key ∈ objectPrototypeKeys, key ≠ js "__proto__" →
        (key ∈ manager.base.keys ↔ key ∈ draft.keys) := by
    rw [exists_dirtyKeysBetween_iff]
    simp only [sameKeys]
  constructor
  · rintro ⟨commit, committed, -, -, exactly⟩
    cases compared : dirtyKeysBetween runtime manager.base clone with
    | error error =>
      rw [throws compared] at committed
      cases committed
    | ok dirtyKeys =>
      rw [commits compared] at committed
      cases committed
      have methods := returns.mp ⟨dirtyKeys, compared⟩
      have shows {one other : JsonObject} (hides : HidesProto one other)
          (differs : Differs manager.base draft (js "__proto__")) :
          ¬ HidesProto manager.base draft ∧ ¬ HidesProto draft manager.base := by
        have inKeys := (exactly (js "__proto__")).mpr differs
        rcases (reported compared _).mp inKeys with ⟨own, dirty⟩
        exact ((isDirty_iff runtime own methods).mp dirty).2 rfl
      refine ⟨methods, fun hides => ?_, fun hides => ?_⟩
      · have own : js "__proto__" ∈ manager.base.keys := List.mem_map_of_mem hides.1
        exact (shows hides (Or.inl fun both => hides.2 (both.mp own))).1 hides
      · have own : js "__proto__" ∈ draft.keys := List.mem_map_of_mem hides.1
        exact (shows hides (Or.inl fun both => hides.2 (both.mpr own))).2 hides
  · rintro ⟨methods, prototype⟩
    rcases returns.mpr methods with ⟨dirtyKeys, compared⟩
    rw [CommitsExactly, commits compared]
    refine ⟨⟨dirtyKeys, evaluation.detail⟩, rfl, (same_of_canonicalClone runtime cloned).1,
      (dirtyKeysBetween_spec runtime compared).1, fun key => ?_⟩
    rw [reported compared]
    constructor
    · rintro ⟨own, dirty⟩
      exact ((isDirty_iff runtime own methods).mp dirty).1
    · intro differs
      have own : key ∈ manager.base.keys ∨ key ∈ draft.keys := by
        rcases differs with oneSided | ⟨inBase, -, -⟩
        · by_contra neither
          rw [not_or] at neither
          exact oneSided (iff_of_false neither.1 neither.2)
        · exact Or.inl inBase
      exact ⟨own, (isDirty_iff runtime own methods).mpr ⟨differs, fun _ => prototype⟩⟩

end Commit

namespace DirtyKeysSample

open SpeculationSample (runtime emptyObject requirement)

def evidence : JsValue :=
  .array [.object [(js "evidenceId", .string (js "e-1")), (js "sourceId", .string (js "s-1")),
    (js "contentDigest", .string (js "sha256:" ++ List.replicate 64 (unit '0'))),
    (js "provenanceClass", .string (js "SOURCE_SIGNED"))]]

theorem evidence_satisfied : ∃ evaluation, evaluateEvidenceFloor evidence requirement =
    .ok evaluation ∧ evaluation.satisfied = true := by
  have satisfied : ((evaluateEvidenceFloor evidence requirement).map (·.satisfied)).toOption =
      some true := by
    decide +kernel
  cases evaluated : evaluateEvidenceFloor evidence requirement with
  | error error =>
    rw [evaluated] at satisfied
    cases satisfied
  | ok evaluation =>
    rw [evaluated] at satisfied
    exact ⟨evaluation, rfl, Option.some.inj satisfied⟩

def amount : JsonObject := ⟨[(js "amount", .number (.ofNat 5))], by decide⟩

/-- A draft with a member that is named like a method of `Object.prototype`. -/
def toStringDraft : JsonObject := ⟨[(js "toString", .null)], by decide⟩

/-- The manager after a fork of the empty object, and an edit of the draft. -/
def manager (draft : JsonObject) : SpeculativeContextManager := ⟨emptyObject, some draft.held, []⟩

theorem amount_committed :
    (manager amount).draft = some amount.held ∧
      (∃ evaluation, evaluateEvidenceFloor evidence requirement = .ok evaluation ∧
        evaluation.satisfied = true) ∧
      (CommitsExactly runtime (manager amount) amount evidence requirement ↔
        Distinguishable (manager amount).base amount) :=
  ⟨rfl, evidence_satisfied, commitsExactly_iff runtime (manager amount) amount rfl
    evidence_satisfied⟩

/-- A draft with a member named `toString` is not committed, whatever its evidence. -/
theorem toString_refused :
    ¬ ∀ (manager : SpeculativeContextManager) (draft : JsonObject) (evidence requirement : JsValue),
      manager.draft = some draft.held →
      (∃ evaluation, evaluateEvidenceFloor evidence requirement = .ok evaluation ∧
        evaluation.satisfied = true) →
      CommitsExactly runtime manager draft evidence requirement := by
  intro exactly
  have commits := exactly (manager toStringDraft) toStringDraft evidence requirement rfl
    evidence_satisfied
  rcases commits with ⟨commit, committed, -⟩
  have refused : ((commitSpeculation runtime (manager toStringDraft) evidence
      requirement).1.toOption).isNone = true := by
    decide +kernel
  rw [committed] at refused
  cases refused

end DirtyKeysSample

end GhostArk.ResearchFrontier
