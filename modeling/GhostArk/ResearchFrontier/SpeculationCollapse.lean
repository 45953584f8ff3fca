import GhostArk.Js.Sha256
import GhostArk.ResearchFrontier.SpeculativeContext

/-!
Contract: what a step of the speculative context manager leaves behind.

Owns the fail-closed contract of one call, exactly when a commit meets it, and the
same for whole runs of forks, edits, commits and aborts.

A commit that throws before it reaches the evaluation of a floor, or after it,
records no abort and keeps the draft: the exact condition says when none does.
-/

namespace GhostArk.ResearchFrontier

open Js
open Lib
open ReceiptSchema
open EnforcementRuntime.Evidence (EvidenceFloorEvaluation evaluateEvidenceFloor WellFormedFloor
  exists_evaluateEvidenceFloor_iff)

section Collapse

variable (runtime : Runtime)

/-- The marker names the draft by its digest. -/
def IsDigestOf (marker : SpeculationAbortMarker) (draft : HeldValue) : Prop :=
  ∃ text, canonicalize runtime.numbers draft.value = .ok text ∧
    marker.draftDigest = js "sha256:" ++ sha256Hex runtime text

structure CollapsesFailClosed (manager : SpeculativeContextManager) (call : SpeculationCall) :
    Prop where
  /-- Only a commit that returns changes the base. -/
  unchanged : (∀ commit, (speculation runtime manager call).1 ≠ .ok (.committed commit)) →
    (speculation runtime manager call).2.base = manager.base
  /-- A commit that returns makes the draft the base. -/
  becomes : ∀ commit, (speculation runtime manager call).1 = .ok (.committed commit) →
    ∃ draft, manager.draft = some draft ∧
      SameUpToKeyOrder (speculation runtime manager call).2.base.value draft.value
  /-- A commit that throws discards the active draft and records its digest. -/
  thrown : ∀ evidence requirement draft error, call = .commitSpeculation evidence requirement →
    manager.draft = some draft → (speculation runtime manager call).1 = .error error →
      (speculation runtime manager call).2.base = manager.base ∧
        (speculation runtime manager call).2.draft = none ∧
        ∃ marker, (speculation runtime manager call).2.markers = manager.markers ++ [marker] ∧
          IsDigestOf runtime marker draft

/-! ### Comparable states -/

/-- No method of `Object.prototype` is the name of a member of just one of the two. -/
def Comparable (base : JsonObject) (draft : HeldValue) : Prop :=
  ∀ entries, draft.value = .object entries → ∀ key ∈ objectPrototypeKeys, key ≠ js "__proto__" →
    (key ∈ base.keys ↔ key ∈ entries.map Prod.fst)

theorem exists_canonicalize_readProperty_iff {object : JsonObject} {key : JsString}
    (found : hasProperty object.entries key = true) :
    (∃ text, canonicalize runtime.numbers (readProperty object.entries key) = .ok text) ↔
      key ∈ object.keys ∨ key = js "__proto__" := by
  by_cases own : key ∈ object.keys
  · have shaped := (isJson_object_iff.mp object.shaped).1 _ (readProperty_own own)
    exact iff_of_true ⟨_, canonicalize_of_isJson runtime.numbers shaped⟩ (Or.inl own)
  · have inherited := (hasProperty_iff.mp found).resolve_left own
    rw [readProperty_inherited own, inheritedValue]
    by_cases isProto : key = js "__proto__"
    · rw [if_pos isProto]
      exact iff_of_true ⟨_, canonicalize_of_isJson runtime.numbers rfl⟩ (Or.inr isProto)
    · rw [if_neg isProto, if_pos inherited]
      refine iff_of_false ?_ (not_or.mpr ⟨own, isProto⟩)
      rintro ⟨text, rendered⟩
      cases rendered

theorem exists_isDirty_iff {base draft : JsonObject} {key : JsString} :
    (∃ dirty, isDirty runtime base draft key = .ok dirty) ↔
      (hasProperty base.entries key = hasProperty draft.entries key →
        (∃ text, canonicalize runtime.numbers (readProperty base.entries key) = .ok text) ∧
          ∃ text, canonicalize runtime.numbers (readProperty draft.entries key) = .ok text) := by
  rw [isDirty]
  by_cases same : hasProperty base.entries key = hasProperty draft.entries key
  · rw [if_neg (not_not.mpr same)]
    constructor
    · rintro ⟨dirty, returned⟩ -
      rcases bind_eq_ok.mp returned with ⟨before, isBefore, later⟩
      rcases bind_eq_ok.mp later with ⟨after, isAfter, -⟩
      exact ⟨⟨before, isBefore⟩, after, isAfter⟩
    · intro both
      rcases both same with ⟨⟨before, isBefore⟩, after, isAfter⟩
      exact ⟨before != after, by rw [isBefore, ok_bind, isAfter, ok_bind]; rfl⟩
  · rw [if_pos same]
    exact iff_of_true ⟨true, rfl⟩ fun equal => absurd equal same

theorem exists_dirtyKeysBetween_iff {base draft : JsonObject} :
    (∃ dirty, dirtyKeysBetween runtime base draft = .ok dirty) ↔
      ∀ key ∈ objectPrototypeKeys, key ≠ js "__proto__" →
        (key ∈ base.keys ↔ key ∈ draft.keys) := by
  have returns : (∃ dirty, dirtyKeysBetween runtime base draft = .ok dirty) ↔
      ∀ key ∈ distinct (base.keys ++ draft.keys), ∃ dirty,
        isDirty runtime base draft key = .ok dirty := by
    rw [← exists_filterChecked_iff, dirtyKeysBetween]
    constructor
    · rintro ⟨dirty, returned⟩
      rcases bind_eq_ok.mp returned with ⟨kept, filtered, -⟩
      exact ⟨kept, filtered⟩
    · rintro ⟨kept, filtered⟩
      exact ⟨sortTexts kept, by rw [filtered]; rfl⟩
  rw [returns]
  simp only [distinct, List.mem_eraseDups, List.mem_append, exists_isDirty_iff runtime]
  constructor
  · intro dirty key inherited notProto
    have inBoth : hasProperty base.entries key = true ∧ hasProperty draft.entries key = true :=
      ⟨hasProperty_iff.mpr (Or.inr inherited), hasProperty_iff.mpr (Or.inr inherited)⟩
    have both := inBoth.1.trans inBoth.2.symm
    constructor
    · intro inBase
      have text := (dirty key (Or.inl inBase) both).2
      exact ((exists_canonicalize_readProperty_iff runtime inBoth.2).mp text).resolve_right notProto
    · intro inDraft
      have text := (dirty key (Or.inr inDraft) both).1
      exact ((exists_canonicalize_readProperty_iff runtime inBoth.1).mp text).resolve_right notProto
  · intro comparable key inEither both
    -- a member of one side is found there, so on the other side too
    have inBase : hasProperty base.entries key = true := by
      rcases inEither with own | own
      · exact hasProperty_iff.mpr (Or.inl own)
      · rw [both]
        exact hasProperty_iff.mpr (Or.inl own)
    have inDraft := both.symm.trans inBase
    rw [exists_canonicalize_readProperty_iff runtime inBase,
      exists_canonicalize_readProperty_iff runtime inDraft]
    by_cases inherited : key ∈ objectPrototypeKeys
    · by_cases isProto : key = js "__proto__"
      · exact ⟨Or.inr isProto, Or.inr isProto⟩
      · have same := comparable key inherited isProto
        have own : key ∈ base.keys := inEither.elim id same.mpr
        exact ⟨Or.inl own, Or.inl (same.mp own)⟩
    · exact ⟨Or.inl ((hasProperty_iff.mp inBase).resolve_right inherited),
        Or.inl ((hasProperty_iff.mp inDraft).resolve_right inherited)⟩

/-! ### One call -/

/-- The commit of the active draft returns, or is refused by the floor. -/
def CommitSettles (manager : SpeculativeContextManager) (evidence requirement : JsValue) : Prop :=
  ∀ draft, manager.draft = some draft →
    (draft.value.isJson = true ∧ ∃ entries, draft.value = .object entries) ∧
      WellFormedFloor evidence requirement ∧
      ∀ evaluation, evaluateEvidenceFloor evidence requirement = .ok evaluation →
        evaluation.satisfied = true → Comparable manager.base draft

/-- The condition on one call. -/
def Settles (manager : SpeculativeContextManager) : SpeculationCall → Prop
  | .commitSpeculation evidence requirement => CommitSettles manager evidence requirement
  | _ => True

theorem recordAbort_eq (manager : SpeculativeContextManager) (draft : JsonObject)
    (effectClass : JsValue) : ∃ text, canonicalize runtime.numbers draft.value = .ok text ∧
      recordAbort runtime manager draft effectClass =
        (.ok ⟨js "sha256:" ++ sha256Hex runtime text, effectClass⟩,
          { manager with
            draft := none
            markers := manager.markers ++ [⟨js "sha256:" ++ sha256Hex runtime text, effectClass⟩] }) := by
  have rendered := canonicalize_of_isJson runtime.numbers draft.shaped
  refine ⟨_, rendered, ?_⟩
  rw [recordAbort, JsonObject.value, rendered]

variable {draft : HeldValue}

theorem same_of_canonicalClone {field : String} {clone : JsonObject}
    (cloned : canonicalClone runtime draft field = .ok clone) :
    SameUpToKeyOrder clone.value draft.value ∧
      canonicalize runtime.numbers clone.value = canonicalize runtime.numbers draft.value := by
  rcases (canonicalClone_eq_ok_iff runtime).mp cloned with ⟨shaped, same⟩
  have cloneShaped : clone.value.isJson = true := clone.shaped
  constructor
  · rw [same_iff_normalForm_eq cloneShaped shaped, ← same, normalForm_normalForm]
  · rw [← same, canonicalize_normalForm shaped]

theorem exists_canonicalClone_iff (field : String) :
    (∃ clone, canonicalClone runtime draft field = .ok clone) ↔
      draft.value.isJson = true ∧ ∃ entries, draft.value = .object entries := by
  simp only [canonicalClone_eq_ok_iff]
  constructor
  · rintro ⟨clone, shaped, same⟩
    refine ⟨shaped, ?_⟩
    cases isValue : draft.value with
    | object entries => exact ⟨entries, rfl⟩
    | _ =>
      rw [isValue] at same
      cases same
  · rintro ⟨shaped, entries, isObject⟩
    rw [isObject] at shaped
    refine ⟨⟨sortEntries (normalEntries entries), isJson_normalForm shaped⟩, ?_⟩
    rw [isObject]
    exact ⟨shaped, rfl⟩

theorem comparable_iff (base : JsonObject) {clone : JsonObject} {field : String}
    (cloned : canonicalClone runtime draft field = .ok clone) :
    Comparable base draft ↔ ∀ key ∈ objectPrototypeKeys, key ≠ js "__proto__" →
      (key ∈ base.keys ↔ key ∈ clone.keys) := by
  rcases (exists_canonicalClone_iff runtime field).mp ⟨clone, cloned⟩ with ⟨-, entries, isObject⟩
  have same := ((canonicalClone_eq_ok_iff runtime).mp cloned).2
  rw [isObject, normalForm] at same
  have sameKeys (key : JsString) : key ∈ clone.keys ↔ key ∈ entries.map Prod.fst := by
    rw [JsonObject.keys, ← JsValue.object.inj same,
      ((perm_sortEntries _).map Prod.fst).mem_iff, keys_normalEntries]
  simp only [Comparable, isObject, JsValue.object.injEq, forall_eq', sameKeys]

variable {manager : SpeculativeContextManager}

theorem collapsesFailClosed_of_keepsBase {call : SpeculationCall}
    (notCommit : ∀ evidence requirement, call ≠ .commitSpeculation evidence requirement)
    (noCommit : ∀ commit, (speculation runtime manager call).1 ≠ .ok (.committed commit))
    (keeps : (speculation runtime manager call).2.base = manager.base) :
    CollapsesFailClosed runtime manager call where
  unchanged _ := keeps
  becomes commit committed := absurd committed (noCommit commit)
  thrown evidence requirement _ _ isCommit := absurd isCommit (notCommit evidence requirement)

theorem collapsesFailClosed_fork (manager : SpeculativeContextManager) :
    CollapsesFailClosed runtime manager .fork := by
  have step : (∀ commit, (fork runtime manager).1 ≠ .ok (.committed commit)) ∧
      (fork runtime manager).2.base = manager.base := by
    rw [fork]
    split
    next => exact ⟨nofun, rfl⟩
    next =>
      split
      next => exact ⟨nofun, rfl⟩
      next => exact ⟨nofun, rfl⟩
  exact collapsesFailClosed_of_keepsBase runtime nofun step.1 step.2

theorem collapsesFailClosed_abort (manager : SpeculativeContextManager) (effectClass : JsValue) :
    CollapsesFailClosed runtime manager (.abortSpeculation effectClass) := by
  have step : (∀ commit, (abortSpeculation runtime manager effectClass).1 ≠
        .ok (.committed commit)) ∧
      (abortSpeculation runtime manager effectClass).2.base = manager.base := by
    rw [abortSpeculation]
    split
    next => exact ⟨nofun, rfl⟩
    next active =>
      split
      next => exact ⟨nofun, rfl⟩
      next draft cloned =>
        rcases recordAbort_eq runtime manager draft effectClass with ⟨text, -, recorded⟩
        rw [recorded]
        exact ⟨nofun, rfl⟩
  exact collapsesFailClosed_of_keepsBase runtime nofun step.1 step.2

theorem not_collapsesFailClosed_of_stuck {evidence requirement : JsValue} {active : HeldValue}
    {error : JsError} (isActive : manager.draft = some active)
    (stuck : commitSpeculation runtime manager evidence requirement = (.error error, manager)) :
    ¬ CollapsesFailClosed runtime manager (.commitSpeculation evidence requirement) := by
  intro closed
  have step : speculation runtime manager (.commitSpeculation evidence requirement) =
      (.error error, manager) := stuck
  have after := (closed.thrown evidence requirement active error rfl isActive (by rw [step])).2.1
  rw [step, isActive] at after
  cases after

section Commit

variable {evidence requirement : JsValue}

/-- Without an active draft there is none to discard. -/
theorem collapsesFailClosed_inactive (inactive : manager.draft = none) :
    CollapsesFailClosed runtime manager (.commitSpeculation evidence requirement) := by
  have step : speculation runtime manager (.commitSpeculation evidence requirement) =
      (.error (forkerError (js "No active speculation to commit.") []), manager) := by
    simp only [speculation, commitSpeculation, inactive]
  refine ⟨fun _ => by rw [step], fun commit committed => ?_, fun _ _ draft _ _ isSome => ?_⟩
  · rw [step] at committed
    cases committed
  · rw [inactive] at isSome
    cases isSome

variable {active : HeldValue} (isActive : manager.draft = some active)
include isActive

theorem commitSettles_iff_of_active :
    CommitSettles manager evidence requirement ↔
      (∃ draft, canonicalClone runtime active "draft" = .ok draft) ∧
        (∃ evaluation, evaluateEvidenceFloor evidence requirement = .ok evaluation) ∧
        ∀ evaluation, evaluateEvidenceFloor evidence requirement = .ok evaluation →
          evaluation.satisfied = true → Comparable manager.base active := by
  rw [exists_canonicalClone_iff, exists_evaluateEvidenceFloor_iff]
  simp only [CommitSettles, isActive, Option.some.injEq, forall_eq']

variable {draft : JsonObject} {evaluation : EvidenceFloorEvaluation}
  (cloned : canonicalClone runtime active "draft" = .ok draft)
  (evaluated : evaluateEvidenceFloor evidence requirement = .ok evaluation)
include cloned evaluated

/-- A commit that the floor refuses records the digest of the draft it discards. -/
theorem collapsesFailClosed_unsatisfied (unsatisfied : evaluation.satisfied = false) :
    CollapsesFailClosed runtime manager (.commitSpeculation evidence requirement) := by
  have same := same_of_canonicalClone runtime cloned
  rcases recordAbort_eq runtime manager draft
    (readProperty ((objectMembers requirement).getD []) (js "effectClass"))
    with ⟨text, rendered, recorded⟩
  have step : ∃ error, speculation runtime manager (.commitSpeculation evidence requirement) =
      (.error error, { manager with
        draft := none
        markers := manager.markers ++ [⟨js "sha256:" ++ sha256Hex runtime text,
          readProperty ((objectMembers requirement).getD []) (js "effectClass")⟩] }) := by
    simp only [speculation, commitSpeculation, isActive, cloned, evaluated, unsatisfied, recorded,
      Bool.false_eq_true, if_false]
    exact ⟨_, rfl⟩
  rcases step with ⟨error, step⟩
  refine ⟨fun _ => by rw [step], fun commit committed => ?_, fun _ _ held _ _ isHeld _ => ?_⟩
  · rw [step] at committed
    cases committed
  · obtain rfl : active = held := Option.some.inj (isActive.symm.trans isHeld)
    rw [step]
    exact ⟨rfl, rfl, _, rfl, text, same.2.symm.trans rendered, rfl⟩

/-- A commit that the floor lets pass is left to the comparison of the draft with the base. -/
theorem collapsesFailClosed_satisfied_iff (satisfied : evaluation.satisfied = true) :
    CollapsesFailClosed runtime manager (.commitSpeculation evidence requirement) ↔
      Comparable manager.base active := by
  rw [comparable_iff runtime manager.base cloned, ← exists_dirtyKeysBetween_iff runtime]
  cases compared : dirtyKeysBetween runtime manager.base draft with
  | error error =>
    have stuck : commitSpeculation runtime manager evidence requirement =
        (.error error, manager) := by
      simp only [commitSpeculation, isActive, cloned, evaluated, satisfied, compared, if_true]
    refine iff_of_false (not_collapsesFailClosed_of_stuck runtime isActive stuck) ?_
    rintro ⟨dirty, returned⟩
    cases returned
  | ok dirtyKeys =>
    have step : speculation runtime manager (.commitSpeculation evidence requirement) =
        (.ok (.committed ⟨dirtyKeys, evaluation.detail⟩),
          { manager with base := draft, draft := none }) := by
      simp only [speculation, commitSpeculation, isActive, cloned, evaluated, satisfied, compared,
        if_true]
    refine iff_of_true ⟨fun noCommit => ?_, fun commit _ => ?_, fun _ _ _ error _ _ thrown => ?_⟩
      ⟨dirtyKeys, rfl⟩
    · exact absurd (by rw [step]) (noCommit ⟨dirtyKeys, evaluation.detail⟩)
    · rw [step]
      exact ⟨active, isActive, (same_of_canonicalClone runtime cloned).1⟩
    · rw [step] at thrown
      cases thrown

end Commit

theorem collapsesFailClosed_commit_iff {evidence requirement : JsValue} :
    CollapsesFailClosed runtime manager (.commitSpeculation evidence requirement) ↔
      CommitSettles manager evidence requirement := by
  cases isActive : manager.draft with
  | none =>
    refine iff_of_true (collapsesFailClosed_inactive runtime isActive) fun draft isSome => ?_
    rw [isActive] at isSome
    cases isSome
  | some active =>
    rw [commitSettles_iff_of_active runtime isActive]
    cases cloned : canonicalClone runtime active "draft" with
    | error error =>
      have stuck : commitSpeculation runtime manager evidence requirement =
          (.error error, manager) := by
        simp only [commitSpeculation, isActive, cloned]
      refine iff_of_false (not_collapsesFailClosed_of_stuck runtime isActive stuck) ?_
      rintro ⟨⟨clone, returned⟩, -⟩
      cases returned
    | ok draft =>
      cases evaluated : evaluateEvidenceFloor evidence requirement with
      | error error =>
        have stuck : commitSpeculation runtime manager evidence requirement =
            (.error error, manager) := by
          simp only [commitSpeculation, isActive, cloned, evaluated]
        refine iff_of_false (not_collapsesFailClosed_of_stuck runtime isActive stuck) ?_
        rintro ⟨-, ⟨evaluation, returned⟩, -⟩
        cases returned
      | ok evaluation =>
        simp only [Except.ok.injEq, exists_eq', forall_eq', true_and]
        cases satisfied : evaluation.satisfied with
        | true =>
          rw [collapsesFailClosed_satisfied_iff runtime isActive cloned evaluated satisfied]
          exact ⟨fun comparable _ => comparable, fun condition => condition rfl⟩
        | false =>
          exact iff_of_true
            (collapsesFailClosed_unsatisfied runtime isActive cloned evaluated satisfied)
            nofun

theorem collapsesFailClosed_iff {call : SpeculationCall} :
    CollapsesFailClosed runtime manager call ↔ Settles manager call := by
  cases call with
  | fork => exact iff_of_true (collapsesFailClosed_fork runtime manager) trivial
  | edit draft =>
    exact iff_of_true (collapsesFailClosed_of_keepsBase runtime nofun nofun rfl) trivial
  | commitSpeculation evidence requirement => exact collapsesFailClosed_commit_iff runtime
  | abortSpeculation effectClass =>
    exact iff_of_true (collapsesFailClosed_abort runtime manager effectClass) trivial

/-- Every call of a run fails closed exactly when every commit of it settles. -/
theorem collapsesFailClosed_throughout_iff (manager : SpeculativeContextManager)
    (calls : List SpeculationCall) :
    (speculation runtime).Throughout (CollapsesFailClosed runtime) manager calls ↔
      (speculation runtime).Throughout Settles manager calls := by
  constructor
  · exact fun throughout => throughout.mono fun _ _ => (collapsesFailClosed_iff runtime).mp
  · exact fun throughout => throughout.mono fun _ _ => (collapsesFailClosed_iff runtime).mpr

end Collapse

namespace SpeculationSample

def runtime : Runtime where
  sha256 := fips180
  numbers := decimalText
  dates := ⟨fun _ => .nan⟩
  verifySignature := fun _ _ _ => .ok false

def emptyObject : JsonObject := ⟨[], rfl⟩

def requirement : JsValue :=
  .object [(js "effectClass", .string (js "payment")), (js "floor", .string (js "SOURCE_SIGNED")),
    (js "minimumDistinctSources", .number (.ofNat 1))]

theorem clone_emptyObject : canonicalClone runtime emptyObject.held "context" = .ok emptyObject :=
  (canonicalClone_eq_ok_iff runtime).mpr ⟨rfl, rfl⟩

/-- A commit with `null` for an element throws and leaves the draft active. -/
theorem malformed_evidence_keeps_draft : ∃ manager,
    construct runtime emptyObject.held = .ok manager ∧
      ¬ (speculation runtime).Throughout (CollapsesFailClosed runtime) manager
        [.fork, .commitSpeculation (.array [.null]) requirement] := by
  refine ⟨⟨emptyObject, none, []⟩, by rw [construct, clone_emptyObject]; rfl, ?_⟩
  intro throughout
  have forked : (speculation runtime ⟨emptyObject, none, []⟩ .fork).2 =
      ⟨emptyObject, some emptyObject.held, []⟩ := by
    simp only [speculation, fork, clone_emptyObject]
  have closed := throughout.2.1
  rw [forked, collapsesFailClosed_commit_iff] at closed
  rcases (closed _ rfl).2.1 with ⟨-, items, sameItems, shaped⟩
  obtain rfl := JsValue.array.inj sameItems
  rcases shaped .null (List.mem_singleton_self _) with ⟨evidence, returned⟩
  cases returned

end SpeculationSample

end GhostArk.ResearchFrontier
