import Mathlib.Data.List.Pairwise
import GhostArk.Dab.NormalizerAgreement
import GhostArk.ReceiptSchema.CanonicalAcceptance

/-!
Contract: what the texts of `createDANF` are the normal form of.

Owns trees in normal form, with normalized texts and ascending members; when an object that is
filled in the order of its keys keeps that order; and that a text of `createDANF` parses to a tree
in normal form, and is the canonical text of `packages/receipt-schema`, exactly if the value is
JSON-shaped, its keys are normalized, and its objects keep the order.
-/

namespace GhostArk.Dab

open Js
open ReceiptSchema hiding canonicalize
open ResearchFrontier.Occ (ordered orderedEntries orderedItems_eq_map orderedEntries_eq_map
  map_fst_map isJson_ordered keys_ordered)

/-! ### Objects that keep the order of their keys -/

/-- No array index comes after a key that is none, or after a greater index. -/
def KeepsOrder (keys : List JsString) : Prop :=
  ∀ left ∈ keys, ∀ right ∈ keys, left < right → ∀ index, arrayIndex? right = some index →
    ∃ earlier, arrayIndex? left = some earlier ∧ earlier < index

theorem natText_of_arrayIndex? {key : JsString} {index : ℕ}
    (isIndex : arrayIndex? key = some index) :
    Decimal.natText index = key := by
  rw [arrayIndex?] at isIndex
  split at isIndex
  next inRange =>
    cases isIndex
    exact inRange.1
  next => cases isIndex

theorem arrayIndex?_inj {left right : JsString} {index : ℕ} (isLeft : arrayIndex? left = some index)
    (isRight : arrayIndex? right = some index) : left = right :=
  (natText_of_arrayIndex? isLeft).symm.trans (natText_of_arrayIndex? isRight)

theorem first_of_pairwise {A : Type} {first second : A → A → Prop} {list : List A}
    (byFirst : list.Pairwise first) (bySecond : list.Pairwise second) {left right : A}
    (isLeft : left ∈ list) (isRight : right ∈ list) (apart : left ≠ right) :
    (first left right ∧ second left right) ∨ (first right left ∧ second right left) := by
  let inEither (left right : A) : Prop :=
    (first left right ∧ second left right) ∨ (first right left ∧ second right left)
  have symmetric : Std.Symm inEither := ⟨fun _ _ => Or.symm⟩
  have either : list.Pairwise inEither := (byFirst.and bySecond).imp Or.inl
  exact either.forall isLeft isRight apart

section Order

variable {V : Type} {members : List (JsString × V)}

instance : Std.Total (@indexLe V) := ⟨fun _ _ => le_total _ _⟩

instance : IsTrans (JsString × V) indexLe := ⟨fun _ _ _ first second => le_trans first second⟩

/-- The members of an object that was filled in ascending order of its keys are read in that order
exactly if its keys keep it. -/
theorem pairwise_objectOrder_iff (ascending : members.Pairwise fun left right => left.1 < right.1) :
    ((objectOrder members).Pairwise fun left right => left.1 < right.1) ↔
      KeepsOrder (members.map Prod.fst) := by
  have numbered := List.pairwise_insertionSort indexLe
    (members.filter fun member => isArrayIndex member.1)
  have mem_indices (member : JsString × V) :
      member ∈ (members.filter fun member => isArrayIndex member.1).insertionSort indexLe ↔
        member ∈ members ∧ isArrayIndex member.1 = true := by
    rw [(List.perm_insertionSort indexLe _).mem_iff, List.mem_filter]
  rw [objectOrder, List.pairwise_append]
  constructor
  · rintro ⟨indices, -, across⟩ left isLeft right isRight below index isIndex
    rcases List.mem_map.mp isLeft with ⟨leftMember, leftIn, rfl⟩
    rcases List.mem_map.mp isRight with ⟨rightMember, rightIn, rfl⟩
    have rightAmong := (mem_indices rightMember).mpr ⟨rightIn, by rw [isArrayIndex, isIndex]; rfl⟩
    cases leftIndex : arrayIndex? leftMember.1 with
    | none =>
      have leftAmong : leftMember ∈ members.filter fun member => !isArrayIndex member.1 := by
        rw [List.mem_filter, isArrayIndex, leftIndex]
        exact ⟨leftIn, rfl⟩
      exact absurd below (lt_asymm (across rightMember rightAmong leftMember leftAmong))
    | some earlier =>
      have leftAmong := (mem_indices leftMember).mpr
        ⟨leftIn, by rw [isArrayIndex, leftIndex]; rfl⟩
      have apart : leftMember ≠ rightMember := fun same => (same ▸ below).false
      -- whichever of the two is read first has the smaller key and the smaller index
      rcases first_of_pairwise indices numbered leftAmong rightAmong apart with
        ⟨-, notAfter⟩ | ⟨above, -⟩
      · rw [indexLe, leftIndex, isIndex] at notAfter
        refine ⟨earlier, rfl, lt_of_le_of_ne notAfter fun same => ?_⟩
        exact below.ne (arrayIndex?_inj leftIndex (same ▸ isIndex))
      · exact absurd below (lt_asymm above)
  · intro keeps
    have keys (member : JsString × V) (isMember : member ∈ members) :
        member.1 ∈ members.map Prod.fst := List.mem_map_of_mem isMember
    refine ⟨?_, ascending.filter _, ?_⟩
    · have distinct : (members.map Prod.fst).Nodup :=
        List.pairwise_map.mpr (ascending.imp fun below => below.ne)
      have apart : ((members.filter fun member => isArrayIndex member.1).insertionSort
          indexLe).Pairwise fun left right => left.1 ≠ right.1 := by
        rw [← List.pairwise_map]
        apply ((List.perm_insertionSort indexLe _).map Prod.fst).nodup_iff.mpr
        exact (List.filter_sublist.map Prod.fst).nodup distinct
      refine (numbered.and apart).imp_of_mem fun {left right} isLeft isRight both => ?_
      have leftIn := (mem_indices left).mp isLeft
      rcases Option.isSome_iff_exists.mp leftIn.2 with ⟨first, leftIndex⟩
      rcases Option.isSome_iff_exists.mp ((mem_indices right).mp isRight).2 with
        ⟨second, rightIndex⟩
      rcases lt_or_gt_of_ne both.2 with below | above
      · exact below
      · rcases keeps right.1 (keys right ((mem_indices right).mp isRight).1) left.1
          (keys left leftIn.1) above first leftIndex with ⟨earlier, isEarlier, less⟩
        rw [rightIndex, Option.some.injEq] at isEarlier
        have notAfter := both.1
        rw [indexLe, leftIndex, rightIndex] at notAfter
        simp only [Option.getD_some] at notAfter
        omega
    · intro left isLeft right isRight
      have leftIn := (mem_indices left).mp isLeft
      rcases Option.isSome_iff_exists.mp leftIn.2 with ⟨first, leftIndex⟩
      rw [List.mem_filter, isArrayIndex, Bool.not_eq_true', Option.isSome_eq_false_iff,
        Option.isNone_iff_eq_none] at isRight
      rcases lt_trichotomy left.1 right.1 with below | same | above
      · exact below
      · rw [same, isRight.2] at leftIndex
        cases leftIndex
      · rcases keeps right.1 (keys right isRight.1) left.1 (keys left leftIn.1) above first
          leftIndex with ⟨earlier, isEarlier, -⟩
        rw [isRight.2] at isEarlier
        cases isEarlier

end Order

/-! ### Trees in normal form -/

/-- Normalized texts, and ascending members, at every depth. -/
inductive InNormalForm (normalize : JsString → JsString) : JsValue → Prop
  | null : InNormalForm normalize .null
  | bool (value : Bool) : InNormalForm normalize (.bool value)
  | number (value : JsNumber) : InNormalForm normalize (.number value)
  | string {value : JsString} (normal : normalize value = value) :
      InNormalForm normalize (.string value)
  | array {items : List JsValue} (below : ∀ item ∈ items, InNormalForm normalize item) :
      InNormalForm normalize (.array items)
  | object {entries : List (JsString × JsValue)}
      (keysNormal : ∀ entry ∈ entries, normalize entry.1 = entry.1)
      (ascending : entries.Pairwise fun left right => left.1 < right.1)
      (below : ∀ entry ∈ entries, InNormalForm normalize entry.2) :
      InNormalForm normalize (.object entries)

/-- Normalized keys that keep their order, at every depth. -/
inductive KeepsKeys (normalize : JsString → JsString) : JsValue → Prop
  | null : KeepsKeys normalize .null
  | bool (value : Bool) : KeepsKeys normalize (.bool value)
  | number (value : JsNumber) : KeepsKeys normalize (.number value)
  | string (value : JsString) : KeepsKeys normalize (.string value)
  | array {items : List JsValue} (below : ∀ item ∈ items, KeepsKeys normalize item) :
      KeepsKeys normalize (.array items)
  | object {entries : List (JsString × JsValue)}
      (keysNormal : ∀ entry ∈ entries, normalize entry.1 = entry.1)
      (keepsOrder : KeepsOrder (entries.map Prod.fst))
      (below : ∀ entry ∈ entries, KeepsKeys normalize entry.2) :
      KeepsKeys normalize (.object entries)

section Trees

variable {normalize : JsString → JsString} {value : JsValue}

variable {entries : List (JsString × JsValue)}

theorem mem_ordered_iff {entry : JsString × JsValue} :
    entry ∈ objectOrder (sortEntries (orderedEntries entries)) ↔
      ∃ before ∈ entries, (before.1, ordered before.2) = entry := by
  rw [(keys_ordered entries).mem_iff, orderedEntries_eq_map, List.mem_map]

theorem pairwise_ordered_iff (distinct : (entries.map Prod.fst).Nodup) :
    ((objectOrder (sortEntries (orderedEntries entries))).Pairwise
        fun left right => left.1 < right.1) ↔ KeepsOrder (entries.map Prod.fst) := by
  have sameKeys : (orderedEntries entries).map Prod.fst = entries.map Prod.fst := by
    rw [orderedEntries_eq_map, map_fst_map]
  rw [← sameKeys] at distinct
  have permuted := (perm_sortEntries (orderedEntries entries)).map Prod.fst
  rw [pairwise_objectOrder_iff (pairwise_lt_sortEntries distinct), ← sameKeys, KeepsOrder,
    KeepsOrder]
  simp only [permuted.mem_iff]

/-- A tree that is shown in normal form has normalized keys in sorted order. -/
theorem keepsKeys_of_inNormalForm (shaped : value.isJson = true)
    (inNormalForm : InNormalForm normalize (ordered value)) : KeepsKeys normalize value := by
  induction value, shaped using jsonInduction with
  | null => exact .null
  | bool value => exact .bool value
  | number value finite => exact .number value
  | string value => exact .string value
  | array items shaped ih =>
    rw [ordered, orderedItems_eq_map] at inNormalForm
    cases inNormalForm with
    | array below =>
      rw [List.forall_mem_map] at below
      exact .array fun item member => (ih item member).snd (below item member)
  | object entries shaped distinct ih =>
    rw [ordered] at inNormalForm
    cases inNormalForm with
    | object keysNormal ascending below =>
      refine .object ?_ ((pairwise_ordered_iff distinct).mp ascending) ?_
      · intro entry member
        exact keysNormal (entry.1, ordered entry.2) (mem_ordered_iff.mpr ⟨entry, member, rfl⟩)
      · intro entry member
        apply (ih entry member).snd
        exact below (entry.1, ordered entry.2) (mem_ordered_iff.mpr ⟨entry, member, rfl⟩)

/-- Normalized keys in sorted order are shown in normal form. -/
theorem inNormalForm_of_keepsKeys {levels : ℕ} (shaped : value.isJson = true)
    (accepted : Normalizable normalize levels value) (keeps : KeepsKeys normalize value) :
    InNormalForm normalize (ordered value) := by
  induction keeps generalizing levels with
  | null => exact .null
  | bool value => exact .bool value
  | number value => exact .number value
  | string value =>
    cases levels with
    | zero => cases accepted
    | succ levels => exact .string accepted
  | @array items below ih =>
    cases levels with
    | zero => cases accepted
    | succ levels =>
      rw [Normalizable] at accepted
      rw [ordered, orderedItems_eq_map]
      refine .array (List.forall_mem_map.mpr fun item member => ?_)
      have itemShaped := isJson_array_iff.mp shaped item member
      refine ih item member itemShaped ((accepted item member).resolve_left ?_)
      rintro rfl
      cases itemShaped
  | @object entries keysNormal keepsOrder below ih =>
    cases levels with
    | zero => cases accepted
    | succ levels =>
      rw [Normalizable] at accepted
      rw [isJson_object_iff] at shaped
      rw [ordered]
      refine .object ?_ ((pairwise_ordered_iff shaped.2).mpr keepsOrder) ?_
      · intro entry member
        rcases mem_ordered_iff.mp member with ⟨before, inEntries, rfl⟩
        exact keysNormal before inEntries
      · intro entry member
        rcases mem_ordered_iff.mp member with ⟨before, inEntries, rfl⟩
        exact ih before inEntries (shaped.1 before inEntries)
          (accepted.2 before inEntries).2

theorem ordered_eq_normalForm (shaped : value.isJson = true) (keeps : KeepsKeys normalize value) :
    ordered value = normalForm value := by
  induction keeps with
  | null => rfl
  | bool value => rfl
  | number value => rfl
  | string value => rfl
  | @array items below ih =>
    rw [ordered, normalForm, orderedItems_eq_map, normalItems_eq_map]
    congr 1
    apply List.map_congr_left
    intro item member
    exact ih item member (isJson_array_iff.mp shaped item member)
  | @object entries keysNormal keepsOrder below ih =>
    rw [isJson_object_iff] at shaped
    have sameMembers : orderedEntries entries = normalEntries entries := by
      rw [orderedEntries_eq_map, normalEntries_eq_map]
      apply List.map_congr_left
      intro entry member
      exact congrArg (Prod.mk entry.1) (ih entry member (shaped.1 entry member))
    have once : ((normalEntries entries).map Prod.fst).Nodup := by
      rw [keys_normalEntries]
      exact shaped.2
    have read := (pairwise_ordered_iff shaped.2).mpr keepsOrder
    have sorted := pairwise_lt_sortEntries once
    rw [ordered, normalForm]
    rw [sameMembers] at read ⊢
    apply congrArg
    apply (perm_objectOrder _).eq_of_pairwise ?_ read sorted
    intro left right _ _ below above
    exact absurd below (lt_asymm above)

end Trees

/-! ### The texts of `createDANF` -/

/-- A clone unfolds to some tree, and to the value itself if that is JSON-shaped. Instances of
classes are cloned to plain objects. -/
def ClonesValue (host : DeclarationHost JsValue) (raw : JsValue) : Prop :=
  ∀ snapshot, host.structuredClone raw = .ok snapshot →
    ∃ tree, Unfolds snapshot tree ∧ tree.child = snapshot.root ∧
      (raw.isJson = true → tree.value = raw)

/-- The text shows a tree in normal form, and is the canonical text of the value. -/
structure IsNormalForm (host : DeclarationHost JsValue) (raw : JsValue) (text : JsString) :
    Prop where
  inNormalForm : ∃ parsed, parse host.numbers text = some parsed ∧
    InNormalForm host.normalize parsed
  canonical : GhostArk.ReceiptSchema.canonicalize host.numbers raw = .ok text

/-- **Normal form.** An accepted value is written in normal form exactly if it is JSON-shaped, its
keys are normalized, and its objects keep the order of their keys. -/
theorem isNormalForm_iff (host : DeclarationHost JsValue) (raw : JsValue)
    (distinct : hasDistinctKeys raw = true) (clones : ClonesValue host raw) (danf : Danf)
    (created : createDANF host raw = .ok danf) :
    IsNormalForm host raw danf.canonical ↔
      raw.isJson = true ∧ KeepsKeys host.normalize raw := by
  rcases bind_eq_ok.mp created with ⟨snapshot, cloned, -⟩
  rcases clones snapshot cloned with ⟨tree, unfolds, isRoot, copies⟩
  rcases canonical_of_createDANF cloned unfolds isRoot created with ⟨accepted, isDanf⟩
  have isText (shaped : raw.isJson = true) :
      danf.canonical = render host.numbers (ordered raw) := by
    rw [isDanf, copies shaped, canonicalSerialize_canonicalForm host.numbers shaped]
  constructor
  · intro isNormal
    have shaped := isJson_of_canonicalize distinct isNormal.canonical
    rcases isNormal.inNormalForm with ⟨parsed, parses, inNormalForm⟩
    rw [isText shaped, parse_render host.numbers (isJson_ordered shaped), Option.some.injEq]
      at parses
    exact ⟨shaped, keepsKeys_of_inNormalForm shaped (parses ▸ inNormalForm)⟩
  · rintro ⟨shaped, keeps⟩
    rw [copies shaped] at accepted
    rw [isText shaped]
    constructor
    · exact ⟨ordered raw, parse_render host.numbers (isJson_ordered shaped),
        inNormalForm_of_keepsKeys shaped accepted keeps⟩
    · rw [ordered_eq_normalForm shaped keeps]
      exact canonicalize_of_isJson host.numbers shaped

namespace NormalFormSample

open NormalizerSample (host payment structuredClone clonesTree_structuredClone)

theorem clonesValue {raw : JsValue} (shaped : raw.isJson = true) : ClonesValue host raw := by
  intro snapshot cloned
  rcases clonesTree_structuredClone shaped cloned with ⟨tree, unfolds, isRoot, isValue, -⟩
  exact ⟨tree, unfolds, isRoot, fun _ => isValue⟩

/-- A payment with one key of letters. -/
theorem payment_normal : ∃ danf, createDANF host payment = .ok danf ∧
    (IsNormalForm host payment danf.canonical ↔
      payment.isJson = true ∧ KeepsKeys host.normalize payment) := by
  have shaped : payment.isJson = true := by decide
  rcases exists_eq_ok (show (createDANF host payment).toBool = true by decide +kernel) with
    ⟨danf, created⟩
  exact ⟨danf, created, isNormalForm_iff host payment (by decide) (clonesValue shaped) danf created⟩

def indices : JsValue :=
  .object [(js "9", .number (.ofNat 2)), (js "10", .number (.ofNat 1))]

/-- `"9"` is written before `"10"`. -/
theorem indices_unordered :
    ¬ ∀ (host : DeclarationHost JsValue) (raw : JsValue), hasDistinctKeys raw = true →
      ClonesValue host raw → ∀ danf, createDANF host raw = .ok danf →
        IsNormalForm host raw danf.canonical := by
  intro isNormal
  rcases exists_ok_of_any (show (createDANF host indices).toOption.any
      (fun danf => danf.canonical == js "\x7b\"9\":2,\"10\":1\x7d") = true by decide +kernel) with
    ⟨danf, created, isText⟩
  have shaped : indices.isJson = true := by decide
  have canonical := (isNormal host indices (by decide) (clonesValue shaped) danf created).canonical
  rw [beq_iff_eq.mp isText] at canonical
  have sorted : (GhostArk.ReceiptSchema.canonicalize host.numbers indices).toOption =
      some (js "\x7b\"10\":1,\"9\":2\x7d") := by decide +kernel
  rw [canonical] at sorted
  exact absurd (Option.some.inj sorted) (by decide)

end NormalFormSample

end GhostArk.Dab
