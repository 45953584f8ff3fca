import GhostArk.Dab.Danf
import GhostArk.Lib.SeenSet
import GhostArk.ResearchFrontier.Occ.DriftIdentity

/-!
Contract: the normalizers of `dab/agent-runtime/src/danf.ts` and
`dab/agent-runtime/src/commitment.ts`, compared on trees.

Owns that what the first normalizes the second canonicalizes to the same value, on any clone; that
on trees whose objects are met once the second is frozen and the first returns whenever the second
does; and that the common text identifies a JSON tree up to key order.
-/

namespace GhostArk.Dab

open Js
open Lib
open ReceiptSchema
open ResearchFrontier.Occ (ordered orderedItems_eq_map orderedEntries_eq_map
  render_ordered_eq_iff)

section Agreement

variable {Raw : Type} {host : DeclarationHost Raw} {snapshot : Snapshot} {levels : ℕ}
  {path : JsString}

/-- What `createDANF` normalizes, the commitment canonicalizes to the same value, on any clone. -/
theorem canonicalizeAt_of_normalizeValue {value : Cloned (Fin snapshot.size)}
    {seen : Finset (Fin snapshot.size)} {outcome : CanonicalValue × Finset (Fin snapshot.size)}
    (normalized : (normalizeValue host snapshot levels path value).run seen = .ok outcome) :
    canonicalizeAt host snapshot levels path value = .ok outcome.1 := by
  induction levels generalizing path value seen outcome with
  | zero => cases normalized
  | succ levels ih =>
    cases value with
    | undefined => cases normalized
    | bigint => cases normalized
    | null =>
      cases normalized
      rfl
    | bool value =>
      cases normalized
      rfl
    | number value =>
      rw [normalizeValue] at normalized
      rw [canonicalizeAt]
      split at normalized
      next => cases normalized
      next isSafe =>
        rw [if_neg isSafe]
        cases normalized
        rfl
    | string value =>
      rw [normalizeValue, normalizeUnicode] at normalized
      rw [canonicalizeAt, normalizeString]
      split at normalized
      next => cases normalized
      next isNormal =>
        rw [if_neg isNormal]
        cases normalized
        rfl
    | object reference =>
      cases isObject : snapshot.objects reference with
      | array items named =>
        rw [normalizeValue_array isObject] at normalized
        rw [StateT.run_bind, bind_eq_ok] at normalized
        rcases normalized with ⟨members, visited, wrapped⟩
        rw [canonicalizeAt_array isObject, bind_eq_ok]
        refine ⟨members.1, ?_, congrArg (Except.map Prod.fst) wrapped⟩
        refine mapM_eq_ok_iff.mpr ((forall₂_of_run_mapM visited).imp ?_)
        rintro ⟨item, index⟩ member ⟨before, after, turned⟩
        cases item with
        | none =>
          cases turned
          rfl
        | some item => exact ih turned
      | plain entries =>
        rcases (run_normalizeValue_plain_iff isObject).mp normalized with
          ⟨-, few, allowed, members, visited, rfl⟩
        refine (canonicalizeAt_plain_iff isObject).mpr ⟨few, allowed, members.1, ?_, rfl⟩
        refine mapM_eq_ok_iff.mpr ((forall₂_of_run_mapM visited).imp ?_)
        rintro ⟨key, child⟩ member ⟨before, after, turned⟩
        rw [normalizeMember, StateT.run_bind, bind_eq_ok] at turned
        rcases turned with ⟨result, turned, wrapped⟩
        rw [canonicalizeMember, ih turned]
        exact congrArg (Except.map Prod.fst) wrapped
      | other freezes values =>
        rw [normalizeValue, isObject] at normalized
        cases normalized

end Agreement

section Trees

variable {Raw : Type} {host : DeclarationHost Raw} {snapshot : Snapshot}
  {tree : Unfolding (Fin snapshot.size)}

variable {seen : Finset (Fin snapshot.size)}

/-- What the commitment canonicalizes, `createDANF` normalizes, with the objects of the tree
not met before. -/
def NormalizesAlike (host : DeclarationHost Raw) (snapshot : Snapshot) (levels : ℕ)
    (tree : Unfolding (Fin snapshot.size)) : Prop :=
  ∀ ⦃path canonical seen⦄, canonicalizeAt host snapshot levels path tree.child = .ok canonical →
    IsFresh tree.footprint seen →
      ∃ after, (normalizeValue host snapshot levels path tree.child).run seen =
        .ok (canonical, after) ∧ SeesOnly tree.footprint seen after

section Levels

variable {levels : ℕ} {reference : Fin snapshot.size}

theorem normalizesAlike_array {items : List (Option (Unfolding (Fin snapshot.size)))}
    {named : List (JsString × Cloned (Fin snapshot.size))}
    (isArray : snapshot.objects reference = .array (items.map (Option.map Unfolding.child)) named)
    (below : ∀ item, some item ∈ items → NormalizesAlike host snapshot levels item) :
    NormalizesAlike host snapshot (levels + 1) ⟨.object reference,
      .array (items.map elementValue), reference :: items.flatMap elementFootprint⟩ := by
  intro path canonical seen canonicalized fresh
  rw [canonicalizeAt_array isArray, bind_eq_ok] at canonicalized
  rcases canonicalized with ⟨members, visited, wrapped⟩
  cases wrapped
  rw [List.zipIdx_map, List.mapM_map, mapM_eq_ok_iff] at visited
  have once : items.zipIdx.flatMap (fun entry => elementFootprint entry.1) =
      items.flatMap elementFootprint := by
    rw [← List.flatMap_map, List.zipIdx_map_fst]
  have each : ∀ entry ∈ items.zipIdx, ∀ result seen,
      canonicalizeElement host snapshot levels path
          (Prod.map (Option.map Unfolding.child) id entry) = .ok result →
        IsFresh (elementFootprint entry.1) seen →
          ∃ after, (normalizeElement host snapshot levels path
            (Prod.map (Option.map Unfolding.child) id entry)).run seen =
              .ok (result, after) ∧ SeesOnly (elementFootprint entry.1) seen after := by
    rintro ⟨item, index⟩ member result seen turned fresh
    cases item with
    | none =>
      cases turned
      exact ⟨seen, rfl, .refl _ _⟩
    | some item => exact below item (List.fst_mem_of_mem_zipIdx member) turned fresh
  rw [← once] at fresh
  rcases exists_run_mapM each visited fresh.tail with ⟨after, looped, sees⟩
  rw [once] at sees
  refine ⟨after, ?_, sees.cons⟩
  rw [normalizeValue_array isArray, List.zipIdx_map, List.mapM_map, StateT.run_bind]
  exact congrArg (· >>= _) looped

theorem normalizesAlike_plain {entries : List (JsString × Unfolding (Fin snapshot.size))}
    (isPlain : snapshot.objects reference =
      .plain (entries.map fun entry => (entry.1, entry.2.child)))
    (below : ∀ entry ∈ entries, NormalizesAlike host snapshot levels entry.2) :
    NormalizesAlike host snapshot (levels + 1) ⟨.object reference,
      .object (entries.map fun entry => (entry.1, entry.2.value)),
      reference :: entries.flatMap fun entry => entry.2.footprint⟩ := by
  intro path canonical seen canonicalized fresh
  rcases (canonicalizeAt_plain_iff isPlain).mp canonicalized with
    ⟨few, allowed, members, visited, rfl⟩
  rw [← sortEntries_map, List.mapM_map, mapM_eq_ok_iff] at visited
  have permuted : (entries.flatMap fun entry => entry.2.footprint).Perm
      ((sortEntries entries).flatMap fun entry => entry.2.footprint) :=
    (perm_sortEntries entries).symm.flatMap_right _
  have each : ∀ entry ∈ sortEntries entries, ∀ result seen,
      canonicalizeMember host snapshot levels path (entry.1, entry.2.child) = .ok result →
        IsFresh entry.2.footprint seen →
          ∃ after, (normalizeMember host snapshot levels path
            (entry.1, entry.2.child)).run seen = .ok (result, after) ∧
              SeesOnly entry.2.footprint seen after := by
    intro entry member result seen turned fresh
    rw [canonicalizeMember, bind_eq_ok] at turned
    rcases turned with ⟨canonical, turned, wrapped⟩
    cases wrapped
    rcases below entry ((perm_sortEntries entries).mem_iff.mp member) turned fresh with
      ⟨after, normalized, sees⟩
    refine ⟨after, ?_, sees⟩
    rw [normalizeMember, StateT.run_bind, normalized]
    rfl
  rcases exists_run_mapM each visited (fresh.below.of_perm permuted) with ⟨after, looped, sees⟩
  refine ⟨after, ?_, (sees.of_perm permuted.symm).above⟩
  refine (run_normalizeValue_plain_iff isPlain).mpr
    ⟨fresh.unseen reference List.mem_cons_self, few, allowed, (members, after), ?_, rfl⟩
  rw [← sortEntries_map, List.mapM_map]
  exact looped

end Levels

/-- On trees whose objects are met once, `createDANF` normalizes what the commitment
canonicalizes. -/
theorem exists_normalizeValue {levels : ℕ} (unfolds : Unfolds snapshot tree) :
    NormalizesAlike host snapshot levels tree := by
  induction levels generalizing tree with
  | zero => exact fun _ _ _ canonicalized => nomatch canonicalized
  | succ levels ih =>
    cases unfolds with
    | array isArray below =>
      exact normalizesAlike_array isArray fun item member => ih (below item member)
    | plain isPlain distinct below =>
      exact normalizesAlike_plain isPlain fun entry member => ih (below entry member)
    | undefined => exact fun _ _ _ canonicalized => nomatch canonicalized
    | bigint => exact fun _ _ _ canonicalized => nomatch canonicalized
    | null =>
      intro path canonical seen canonicalized fresh
      cases canonicalized
      exact ⟨seen, rfl, .refl _ _⟩
    | bool value =>
      intro path canonical seen canonicalized fresh
      cases canonicalized
      exact ⟨seen, rfl, .refl _ _⟩
    | number value =>
      intro path canonical seen canonicalized fresh
      rw [canonicalizeAt] at canonicalized
      split at canonicalized
      next => cases canonicalized
      next isSafe =>
        cases canonicalized
        refine ⟨seen, ?_, .refl _ _⟩
        rw [normalizeValue, if_neg isSafe]
        rfl
    | string value =>
      intro path canonical seen canonicalized fresh
      rw [canonicalizeAt, normalizeString] at canonicalized
      split at canonicalized
      next => cases canonicalized
      next isNormal =>
        cases canonicalized
        refine ⟨seen, ?_, .refl _ _⟩
        rw [normalizeValue, normalizeUnicode, if_neg isNormal]
        rfl

theorem deepFreeze_value {value : Cloned (Fin snapshot.size)}
    (noObject : ∀ reference, value ≠ .object reference) :
    deepFreeze snapshot seen value = .ok seen := by
  have within (unseen : ℕ) : deepFreezeWithin snapshot unseen seen value = .ok seen := by
    cases value with
    | object reference => exact absurd rfl (noObject reference)
    | _ => cases unseen <;> rfl
  exact within snapshot.size

theorem flatMap_elementFootprint {Ref : Type} (items : List (Option (Unfolding Ref))) :
    (items.filterMap id).flatMap Unfolding.footprint = items.flatMap elementFootprint := by
  induction items with
  | nil => rfl
  | cons item rest ih =>
    cases item with
    | none => exact ih
    | some tree => exact congrArg (tree.footprint ++ ·) ih

/-- A tree whose objects are met once is frozen to the end. -/
theorem exists_deepFreeze (unfolds : Unfolds snapshot tree)
    (bare : ∀ reference ∈ tree.footprint, (snapshot.objects reference).isBare = true)
    (fresh : IsFresh tree.footprint seen) :
    ∃ after, deepFreeze snapshot seen tree.child = .ok after ∧
      SeesOnly tree.footprint seen after := by
  induction unfolds generalizing seen with
  | undefined => exact ⟨seen, deepFreeze_value nofun, .refl _ _⟩
  | null => exact ⟨seen, deepFreeze_value nofun, .refl _ _⟩
  | bool value => exact ⟨seen, deepFreeze_value nofun, .refl _ _⟩
  | number value => exact ⟨seen, deepFreeze_value nofun, .refl _ _⟩
  | bigint => exact ⟨seen, deepFreeze_value nofun, .refl _ _⟩
  | string value => exact ⟨seen, deepFreeze_value nofun, .refl _ _⟩
  | @array reference items named isArray below ih =>
    rw [List.forall_mem_cons, isArray] at bare
    obtain rfl := List.isEmpty_iff.mp bare.1
    have each : ∀ tree ∈ items.filterMap id, ∀ seen, IsFresh tree.footprint seen →
        ∃ after, deepFreeze snapshot seen tree.child = .ok after ∧
          SeesOnly tree.footprint seen after := by
      intro tree member seen fresh
      have inItems : some tree ∈ items := by simpa using member
      refine ih tree inItems (fun below isBelow => bare.2 below ?_) fresh
      exact List.mem_flatMap.mpr ⟨some tree, inItems, isBelow⟩
    have apart := fresh.below
    rw [← flatMap_elementFootprint] at apart
    rcases exists_foldlM each apart with ⟨after, looped, sees⟩
    rw [flatMap_elementFootprint] at sees
    refine ⟨after, ?_, sees.above⟩
    rw [deepFreeze_object, if_neg (fresh.unseen reference List.mem_cons_self), freezeObject,
      isArray]
    have isValues : (ClonedObject.array (items.map (Option.map Unfolding.child)) []).values =
        (items.filterMap id).map Unfolding.child := by
      rw [ClonedObject.values, List.map_nil, List.append_nil, List.filterMap_map,
        List.map_filterMap]
      rfl
    rw [isValues, List.foldlM_map]
    exact looped
  | @plain reference entries isPlain distinct below ih =>
    rw [List.forall_mem_cons] at bare
    have each : ∀ entry ∈ entries, ∀ seen, IsFresh entry.2.footprint seen →
        ∃ after, deepFreeze snapshot seen entry.2.child = .ok after ∧
          SeesOnly entry.2.footprint seen after := by
      intro entry member seen fresh
      refine ih entry member (fun below isBelow => bare.2 below ?_) fresh
      exact List.mem_flatMap.mpr ⟨entry, member, isBelow⟩
    rcases exists_foldlM each fresh.below with ⟨after, looped, sees⟩
    refine ⟨after, ?_, sees.above⟩
    rw [deepFreeze_object, if_neg (fresh.unseen reference List.mem_cons_self), freezeObject,
      isPlain]
    have isValues :
        (ClonedObject.plain (entries.map fun entry => (entry.1, entry.2.child))).values =
          entries.map fun entry => entry.2.child := by
      rw [ClonedObject.values, List.map_map]
      rfl
    rw [isValues, List.foldlM_map]
    exact looped

end Trees

theorem serializeItems_eq_map (numbers : NumberText) (items : List CanonicalValue) :
    serializeItems numbers items = items.map (canonicalSerialize numbers) := by
  induction items with
  | nil => rfl
  | cons item rest ih =>
    rw [serializeItems, ih, List.map_cons]

theorem serializeEntries_eq_map (numbers : NumberText)
    (entries : List (JsString × CanonicalValue)) :
    serializeEntries numbers entries =
      entries.map fun entry => (entry.1, canonicalSerialize numbers entry.2) := by
  induction entries with
  | nil => rfl
  | cons entry rest ih =>
    rw [serializeEntries, ih, List.map_cons]

theorem renderItems_eq_map (numbers : NumberText) (items : List JsValue) :
    renderItems numbers items = items.map (render numbers) := by
  induction items with
  | nil => rfl
  | cons item rest ih =>
    rw [renderItems, ih, List.map_cons]

/-- The form of a JSON tree is written as the tree with its members in the order of objects with
sorted keys. -/
theorem canonicalSerialize_canonicalForm (numbers : NumberText) {value : JsValue}
    (shaped : value.isJson = true) :
    canonicalSerialize numbers (canonicalForm value) = render numbers (ordered value) := by
  induction value, shaped using jsonInduction with
  | null => rfl
  | bool value => cases value <;> rfl
  | number value finite => rfl
  | string value => rfl
  | array items shaped ih =>
    rw [canonicalForm, canonicalSerialize, ordered, render, serializeItems_eq_map,
      canonicalItems_eq_map, renderItems_eq_map, orderedItems_eq_map, List.map_map, List.map_map]
    congr 1
    apply List.map_congr_left
    intro item member
    exact (ih item member).snd
  | object entries shaped distinct ih =>
    rw [canonicalForm, canonicalSerialize, ordered, render, serializeEntries_eq_map,
      canonicalEntries_eq_map, renderEntries_eq_map, orderedEntries_eq_map]
    have sameMembers : (entries.map fun entry =>
          (entry.1, canonicalSerialize numbers (canonicalForm entry.2))) =
        entries.map fun entry => (entry.1, render numbers (ordered entry.2)) := by
      apply List.map_congr_left
      intro entry member
      exact congrArg (Prod.mk entry.1) (ih entry member).snd
    rw [objectOrder_map
        fun entry : JsString × CanonicalValue => canonicalSerialize numbers entry.2,
      sortEntries_map fun entry : JsString × CanonicalValue => canonicalSerialize numbers entry.2,
      objectOrder_map fun entry : JsString × JsValue => render numbers entry.2,
      sortEntries_map fun entry : JsString × JsValue => render numbers entry.2, List.map_map,
      List.map_map]
    exact congrArg (fun members => jsonObject (objectOrder (sortEntries members))) sameMembers

/-! ### The two normalizers -/

/-- The clone of a tree: each of its objects is met once, and no array has named properties. -/
def ClonesTree (snapshot : Snapshot) (value : JsValue) : Prop :=
  ∃ tree, Unfolds snapshot tree ∧ tree.child = snapshot.root ∧ tree.value = value ∧
    tree.footprint.Nodup ∧ ∀ reference ∈ tree.footprint, (snapshot.objects reference).isBare = true

section Normalizers

variable {Raw : Type} {host : DeclarationHost Raw} {raw : Raw} {snapshot : Snapshot}
  {value : JsValue}

/-- `createDANF` returns the canonical form of the tree it was given. -/
theorem canonical_of_createDANF {tree : Unfolding (Fin snapshot.size)} {danf : Danf}
    (cloned : host.structuredClone raw = .ok snapshot) (unfolds : Unfolds snapshot tree)
    (isRoot : tree.child = snapshot.root) (created : createDANF host raw = .ok danf) :
    Normalizable host.normalize (MAX_DEPTH + 1) tree.value ∧
      danf = ⟨canonicalForm tree.value,
        canonicalSerialize host.numbers (canonicalForm tree.value)⟩ := by
  rw [createDANF, cloned, ok_bind, bind_eq_ok] at created
  rcases created with ⟨outcome, normalized, wrapped⟩
  rw [← isRoot] at normalized
  rcases (canonicalizeAt_eq_ok_iff host unfolds).mp (canonicalizeAt_of_normalizeValue normalized)
    with ⟨accepted, isForm⟩
  refine ⟨accepted, ?_⟩
  cases wrapped
  rw [isForm]
  rfl

/-- `createDANF` returns exactly on normalizable trees. -/
theorem createDANF_iff (cloned : host.structuredClone raw = .ok snapshot)
    (clones : ClonesTree snapshot value) {danf : Danf} :
    createDANF host raw = .ok danf ↔ Normalizable host.normalize (MAX_DEPTH + 1) value ∧
      danf = ⟨canonicalForm value, canonicalSerialize host.numbers (canonicalForm value)⟩ := by
  rcases clones with ⟨tree, unfolds, isRoot, rfl, once, -⟩
  constructor
  · exact canonical_of_createDANF cloned unfolds isRoot
  · rintro ⟨accepted, rfl⟩
    have canonicalized := (@canonicalizeAt_eq_ok_iff _ host _ (MAX_DEPTH + 1) (js "$") _ unfolds
      (canonicalForm tree.value)).mpr ⟨accepted, rfl⟩
    have fresh : IsFresh tree.footprint ∅ := ⟨once, fun _ _ => Finset.notMem_empty _⟩
    rcases exists_normalizeValue unfolds canonicalized fresh with ⟨after, normalized, -⟩
    rw [createDANF, cloned, ok_bind, ← isRoot, normalized]
    rfl

/-- The commitment is created exactly of normalizable trees, over the same text. -/
theorem exists_createDeclarationCommitment_iff {now : JsNumber}
    (cloned : host.structuredClone raw = .ok snapshot) (clones : ClonesTree snapshot value)
    {payload : JsString} :
    (∃ commitment, createDeclarationCommitment host now raw = .ok commitment ∧
        commitment.canonicalPayload = payload) ↔
      Normalizable host.normalize (MAX_DEPTH + 1) value ∧
        payload = canonicalSerialize host.numbers (canonicalForm value) := by
  rcases clones with ⟨tree, unfolds, isRoot, rfl, once, bare⟩
  have fresh : IsFresh tree.footprint ∅ := ⟨once, fun _ _ => Finset.notMem_empty _⟩
  rcases exists_deepFreeze unfolds bare fresh with ⟨after, frozen, -⟩
  have snapshotted : createSnapshot host raw = .ok snapshot := by
    rw [createSnapshot, cloned, ok_bind, ← isRoot, frozen]
    rfl
  rw [createDeclarationCommitment, snapshotted, ok_bind]
  constructor
  · rintro ⟨commitment, created, rfl⟩
    rcases bind_eq_ok.mp created with ⟨canonical, canonicalized, wrapped⟩
    rw [canonicalize, ← isRoot, canonicalizeAt_eq_ok_iff host unfolds] at canonicalized
    cases wrapped
    exact ⟨canonicalized.1, congrArg _ canonicalized.2⟩
  · rintro ⟨accepted, rfl⟩
    have canonicalized : canonicalize host snapshot = .ok (canonicalForm tree.value) := by
      rw [canonicalize, ← isRoot, canonicalizeAt_eq_ok_iff host unfolds]
      exact ⟨accepted, rfl⟩
    rw [canonicalized, ok_bind]
    exact ⟨_, rfl, rfl⟩

theorem exists_error_iff {ε A : Type} {outcome : Except ε A} :
    (∃ error, outcome = .error error) ↔ ¬ ∃ value, outcome = .ok value := by
  cases outcome <;> simp

end Normalizers

/-- **Action normalizers.** On JSON trees, each of them wherever it is cloned, the two normalizers
throw alike and return one text, which identifies the tree up to key order. -/
theorem normalizers_agree (host : DeclarationHost JsValue) (now : JsNumber) (left right : JsValue)
    (leftShaped : left.isJson = true) (rightShaped : right.isJson = true)
    (leftClones : ∀ snapshot, host.structuredClone left = .ok snapshot → ClonesTree snapshot left)
    (rightClones : ∀ snapshot, host.structuredClone right = .ok snapshot →
      ClonesTree snapshot right) :
    ((∃ error, createDANF host left = .error error) ↔
      ∃ error, createDeclarationCommitment host now left = .error error) ∧
    (∀ danf commitment, createDANF host left = .ok danf →
      createDeclarationCommitment host now left = .ok commitment →
        danf.canonical = commitment.canonicalPayload) ∧
    ∀ danf other, createDANF host left = .ok danf → createDANF host right = .ok other →
      (danf.canonical = other.canonical ↔ SameUpToKeyOrder left right) := by
  cases cloned : host.structuredClone left with
  | error error =>
    have noDanf : createDANF host left = .error error := by
      rw [createDANF, cloned, error_bind]
    have noCommitment : createDeclarationCommitment host now left = .error error := by
      rw [createDeclarationCommitment, createSnapshot, cloned, error_bind, error_bind]
    rw [noDanf, noCommitment]
    refine ⟨iff_of_true ⟨error, rfl⟩ ⟨error, rfl⟩, ?_, ?_⟩
    · intro danf commitment created
      cases created
    · intro danf other created
      cases created
  | ok snapshot =>
    have isDanf (danf : Danf) := @createDANF_iff _ host left snapshot left cloned
      (leftClones snapshot cloned) danf
    have isCommitment (payload : JsString) := @exists_createDeclarationCommitment_iff _ host left
      snapshot left now cloned (leftClones snapshot cloned) payload
    refine ⟨?_, ?_, ?_⟩
    · rw [exists_error_iff, exists_error_iff]
      apply not_congr
      constructor
      · rintro ⟨danf, created⟩
        rcases (isCommitment _).mpr ⟨((isDanf danf).mp created).1, rfl⟩ with
          ⟨commitment, committed, -⟩
        exact ⟨commitment, committed⟩
      · rintro ⟨commitment, committed⟩
        exact ⟨_, (isDanf _).mpr ⟨((isCommitment _).mp ⟨commitment, committed, rfl⟩).1, rfl⟩⟩
    · intro danf commitment created committed
      rw [((isDanf danf).mp created).2, ((isCommitment _).mp ⟨commitment, committed, rfl⟩).2]
    · intro danf other created otherCreated
      rcases bind_eq_ok.mp otherCreated with ⟨otherSnapshot, otherCloned, -⟩
      have isOther := (createDANF_iff otherCloned (rightClones _ otherCloned)).mp otherCreated
      rw [((isDanf danf).mp created).2, isOther.2,
        canonicalSerialize_canonicalForm host.numbers leftShaped,
        canonicalSerialize_canonicalForm host.numbers rightShaped]
      exact render_ordered_eq_iff host.numbers leftShaped rightShaped

namespace NormalizerSample

def isScalar : JsValue → Bool
  | .null => true
  | .bool _ => true
  | .number _ => true
  | .string _ => true
  | _ => false

def cloneScalar {Ref : Type} : JsValue → Cloned Ref
  | .null => .null
  | .bool value => .bool value
  | .number value => .number value
  | .string value => .string value
  | _ => .undefined

/-- `structuredClone` of objects without objects in them. -/
def structuredClone : JsValue → Except JsError Snapshot
  | .object entries =>
    if entries.all fun entry => isScalar entry.2 then
      .ok ⟨1, fun _ => .plain (entries.map fun entry => (entry.1, cloneScalar entry.2)),
        .object ⟨0, Nat.one_pos⟩⟩
    else .error ⟨.external (js "DataCloneError"), [], []⟩
  | _ => .error ⟨.external (js "DataCloneError"), [], []⟩

def host : DeclarationHost JsValue := ⟨structuredClone, id, decimalText, fips180⟩

def payment : JsValue :=
  .object [(js "op", .string (js "pay")), (js "to", .number (.ofNat 7))]

def reordered : JsValue :=
  .object [(js "to", .number (.ofNat 7)), (js "op", .string (js "pay"))]

theorem unfolds_scalar {snapshot : Snapshot} {value : JsValue} (scalar : isScalar value = true) :
    Unfolds snapshot ⟨cloneScalar value, value, []⟩ := by
  cases value with
  | null => exact .null
  | bool value => exact .bool value
  | number value => exact .number value
  | string value => exact .string value
  | _ => cases scalar

/-- A structured clone of a JSON value unfolds to it, and meets no object twice. -/
theorem clonesTree_structuredClone {value : JsValue} (shaped : value.isJson = true)
    {snapshot : Snapshot} (cloned : structuredClone value = .ok snapshot) :
    ClonesTree snapshot value := by
  cases value with
  | object entries =>
    rw [structuredClone] at cloned
    split at cloned
    next scalars =>
      cases cloned
      have trees := @Unfolds.plain
        ⟨1, fun _ => .plain (entries.map fun entry => (entry.1, cloneScalar entry.2)),
          .object ⟨0, Nat.one_pos⟩⟩ ⟨0, Nat.one_pos⟩
        (entries.map fun entry => (entry.1, ⟨cloneScalar entry.2, entry.2, []⟩))
        (by rw [List.map_map]; rfl)
        (by rw [List.map_map]; exact (isJson_object_iff.mp shaped).2)
        (by
          rw [List.forall_mem_map]
          exact fun entry member => unfolds_scalar (List.all_eq_true.mp scalars entry member))
      refine ⟨_, trees, rfl, ?_, ?_, fun reference member => rfl⟩
      · rw [List.map_map]
        exact congrArg JsValue.object (List.map_id entries)
      · rw [List.flatMap_eq_nil_iff.mpr (by rw [List.forall_mem_map]; exact fun _ _ => rfl)]
        exact List.nodup_singleton _
    next => cases cloned
  | _ => cases cloned

/-- A payment, cloned as the language clones plain data. -/
theorem payment_agrees :
    ((∃ error, createDANF host payment = .error error) ↔
      ∃ error, createDeclarationCommitment host (.ofNat 0) payment = .error error) ∧
    (∀ danf commitment, createDANF host payment = .ok danf →
      createDeclarationCommitment host (.ofNat 0) payment = .ok commitment →
        danf.canonical = commitment.canonicalPayload) ∧
    ∀ danf other, createDANF host payment = .ok danf → createDANF host reordered = .ok other →
      (danf.canonical = other.canonical ↔ SameUpToKeyOrder payment reordered) := by
  have shaped : payment.isJson = true := by decide
  have reorderedShaped : reordered.isJson = true := by decide
  exact normalizers_agree host (.ofNat 0) payment reordered shaped reorderedShaped
    (fun _ => clonesTree_structuredClone shaped)
    (fun _ => clonesTree_structuredClone reorderedShaped)

end NormalizerSample

end GhostArk.Dab
