import Mathlib.Data.List.Perm.Basic
import GhostArk.Js.Collections
import GhostArk.Lib.KeyedSort
import GhostArk.ReceiptSchema.HashCanonicalization

/-!
Contract: canonical texts identify JSON-shaped values.

Owns equality up to the order of object keys, its agreement with the normal
form, and the two halves of faithfulness: a canonical text parses back to the
value, and two values share a canonical text exactly when they are equal up to
key order.

`-0` and `0` are one number of the model, as the serializer has it.
-/

namespace GhostArk.ReceiptSchema

open Js

mutual

/-- JSON-shaped values that differ only in the order of object keys, at any depth. -/
inductive SameUpToKeyOrder : JsValue → JsValue → Prop
  | null : SameUpToKeyOrder .null .null
  | bool (value : Bool) : SameUpToKeyOrder (.bool value) (.bool value)
  | number (value : JsNumber) : SameUpToKeyOrder (.number value) (.number value)
  | string (value : JsString) : SameUpToKeyOrder (.string value) (.string value)
  | array {left right : List JsValue} :
      SameItems left right → SameUpToKeyOrder (.array left) (.array right)
  | object {left reordered right : List (JsString × JsValue)} :
      SameEntries left reordered → reordered.Perm right →
        SameUpToKeyOrder (.object left) (.object right)

inductive SameItems : List JsValue → List JsValue → Prop
  | nil : SameItems [] []
  | cons {left right : JsValue} {leftRest rightRest : List JsValue} :
      SameUpToKeyOrder left right → SameItems leftRest rightRest →
        SameItems (left :: leftRest) (right :: rightRest)

inductive SameEntries : List (JsString × JsValue) → List (JsString × JsValue) → Prop
  | nil : SameEntries [] []
  | cons {key : JsString} {left right : JsValue} {leftRest rightRest : List (JsString × JsValue)} :
      SameUpToKeyOrder left right → SameEntries leftRest rightRest →
        SameEntries ((key, left) :: leftRest) ((key, right) :: rightRest)

end

/-! ### Key order -/

theorem stringLt_iff {left right : JsString} : stringLt left right = true ↔ left < right := by
  induction left generalizing right with
  | nil => cases right <;> simp [stringLt]
  | cons first rest ih =>
    cases right with
    | nil => simp [stringLt]
    | cons second others =>
      rw [stringLt, List.cons_lt_cons_iff, ← ih]
      simp [Fin.ext_iff]

theorem keyLe_iff {V : Type} {left right : JsString × V} : keyLe left right ↔ left.1 ≤ right.1 := by
  rw [keyLe, Bool.eq_false_iff, ne_eq, stringLt_iff, not_lt]

instance {V : Type} : Std.Total (keyLe (V := V)) :=
  ⟨fun left right => by simpa only [keyLe_iff] using le_total left.1 right.1⟩

instance {V : Type} : IsTrans (JsString × V) keyLe :=
  ⟨fun _ _ _ => by simpa only [keyLe_iff] using le_trans⟩

theorem sortEntries_eq_of_perm {V : Type} {left right : List (JsString × V)}
    (distinct : (left.map Prod.fst).Nodup) (permuted : left.Perm right) :
    sortEntries left = sortEntries right := by
  refine Lib.insertionSort_eq_of_perm ?_ permuted
  intro first isFirst second isSecond before after
  have sameKey := le_antisymm (keyLe_iff.mp before) (keyLe_iff.mp after)
  exact List.inj_on_of_nodup_map distinct isFirst isSecond sameKey

theorem perm_of_sortEntries_eq {V : Type} {left right : List (JsString × V)}
    (same : sortEntries left = sortEntries right) : left.Perm right :=
  ((perm_sortEntries left).symm.trans (same ▸ List.Perm.refl _)).trans (perm_sortEntries right)

theorem pairwise_lt_sortEntries {V : Type} {entries : List (JsString × V)}
    (distinct : (entries.map Prod.fst).Nodup) :
    (sortEntries entries).Pairwise fun left right => left.1 < right.1 := by
  have ordered : (sortEntries entries).Pairwise keyLe :=
    List.pairwise_insertionSort keyLe entries
  have once : ((sortEntries entries).map Prod.fst).Nodup :=
    ((perm_sortEntries entries).map Prod.fst).nodup_iff.mpr distinct
  exact (ordered.and (List.pairwise_map.mp once)).imp fun both =>
    lt_of_le_of_ne (keyLe_iff.mp both.1) both.2

theorem sortTexts_keys {V : Type} {entries others : List (JsString × V)}
    (permuted : others.Perm entries)
    (ascending : others.Pairwise fun left right => left.1 < right.1) :
    sortTexts (entries.map Prod.fst) = others.map Prod.fst := by
  have keysAscend : (others.map Prod.fst).Pairwise (· ≤ ·) :=
    List.pairwise_map.mpr (ascending.imp le_of_lt)
  apply List.Perm.eq_of_pairwise' (List.pairwise_insertionSort _ _) keysAscend
  exact (List.perm_insertionSort _ _).trans (permuted.map Prod.fst).symm

@[elab_as_elim]
theorem jsonInduction {motive : (value : JsValue) → value.isJson = true → Prop}
    (null : motive .null rfl) (bool : ∀ value, motive (.bool value) rfl)
    (number : ∀ (value : JsNumber) (finite : value.isFinite = true), motive (.number value) finite)
    (string : ∀ value, motive (.string value) rfl)
    (array : ∀ (items : List JsValue) (shaped : (JsValue.array items).isJson = true),
      (∀ item ∈ items, ∃ itemShaped, motive item itemShaped) → motive (.array items) shaped)
    (object : ∀ (entries : List (JsString × JsValue))
      (shaped : (JsValue.object entries).isJson = true), (entries.map Prod.fst).Nodup →
        (∀ entry ∈ entries, ∃ entryShaped, motive entry.2 entryShaped) →
          motive (.object entries) shaped)
    (value : JsValue) (shaped : value.isJson = true) : motive value shaped := by
  cases value with
  | null => exact null
  | bool value => exact bool value
  | number value => exact number value shaped
  | string value => exact string value
  | array items =>
    refine array items shaped fun item member => ?_
    exact ⟨isJson_array_iff.mp shaped item member,
      jsonInduction null bool number string array object item _⟩
  | object entries =>
    have parts := isJson_object_iff.mp shaped
    refine object entries shaped parts.2 fun entry member => ?_
    exact ⟨parts.1 entry member, jsonInduction null bool number string array object entry.2 _⟩
  | _ => cases shaped
termination_by sizeOf value
decreasing_by
  · subst_vars
    have smaller := List.sizeOf_lt_of_mem member
    simp only [JsValue.array.sizeOf_spec]
    omega
  · subst_vars
    have smaller := List.sizeOf_lt_of_mem member
    have inEntry : sizeOf entry.2 < sizeOf entry := by
      cases entry
      simp
    simp only [JsValue.object.sizeOf_spec]
    omega

/-! ### Normal forms -/

theorem keys_normalEntries (entries : List (JsString × JsValue)) :
    (normalEntries entries).map Prod.fst = entries.map Prod.fst := by
  rw [normalEntries_eq_map, List.map_map]
  rfl

mutual

theorem normalForm_eq_of_same : ∀ {left right : JsValue}, SameUpToKeyOrder left right →
    right.isJson = true → normalForm left = normalForm right
  | _, _, .null, _ => rfl
  | _, _, .bool _, _ => rfl
  | _, _, .number _, _ => rfl
  | _, _, .string _, _ => rfl
  | .array _, .array _, .array items, shaped => by
    rw [normalForm, normalForm, normalItems_eq_of_same items (isJson_array_iff.mp shaped)]
  | .object _, .object right, @SameUpToKeyOrder.object _ reordered _ entries permuted, shaped => by
    rw [isJson_object_iff] at shaped
    have reorderedShaped : ∀ entry ∈ reordered, entry.2.isJson = true :=
      fun entry member => shaped.1 entry (permuted.mem_iff.mp member)
    have normalPermuted : (normalEntries reordered).Perm (normalEntries right) := by
      rw [normalEntries_eq_map, normalEntries_eq_map]
      exact permuted.map _
    have distinct : ((normalEntries reordered).map Prod.fst).Nodup := by
      rw [keys_normalEntries]
      exact (permuted.map Prod.fst).nodup_iff.mpr shaped.2
    rw [normalForm, normalForm, normalEntries_eq_of_same entries reorderedShaped,
      sortEntries_eq_of_perm distinct normalPermuted]

theorem normalItems_eq_of_same : ∀ {left right : List JsValue}, SameItems left right →
    (∀ item ∈ right, item.isJson = true) → normalItems left = normalItems right
  | _, _, .nil, _ => rfl
  | _, _, .cons here later, shaped => by
    rw [List.forall_mem_cons] at shaped
    rw [normalItems, normalItems, normalForm_eq_of_same here shaped.1,
      normalItems_eq_of_same later shaped.2]

theorem normalEntries_eq_of_same : ∀ {left right : List (JsString × JsValue)},
    SameEntries left right → (∀ entry ∈ right, entry.2.isJson = true) →
      normalEntries left = normalEntries right
  | _, _, .nil, _ => rfl
  | _, _, .cons here later, shaped => by
    rw [List.forall_mem_cons] at shaped
    rw [normalEntries, normalEntries, normalForm_eq_of_same here shaped.1,
      normalEntries_eq_of_same later shaped.2]

end

private theorem exists_reordered {left right : List (JsString × JsValue)}
    (permuted : (normalEntries left).Perm (normalEntries right)) :
    ∃ reordered, normalEntries left = normalEntries reordered ∧ reordered.Perm right := by
  have images : List.Forall₂ (fun image entry => image = (entry.1, normalForm entry.2))
      (normalEntries right) right := by
    rw [normalEntries_eq_map]
    exact List.forall₂_map_left_iff.mpr (List.forall₂_same.mpr fun _ _ => rfl)
  have composed := List.perm_comp_forall₂ permuted images
  cases composed with
  | intro reordered both =>
    refine ⟨reordered, ?_, both.2⟩
    rw [normalEntries_eq_map reordered]
    have forward := List.forall₂_map_right_iff
      (f := fun entry : JsString × JsValue => (entry.1, normalForm entry.2)).mpr both.1
    exact List.forall₂_eq_eq_eq ▸ forward

mutual

theorem same_of_normalForm_eq : ∀ {left right : JsValue}, left.isJson = true →
    right.isJson = true → normalForm left = normalForm right → SameUpToKeyOrder left right
  | .null, .null, _, _, _ => .null
  | .bool _, .bool _, _, _, same => by
    rw [JsValue.bool.inj same]
    exact .bool _
  | .number _, .number _, _, _, same => by
    rw [JsValue.number.inj same]
    exact .number _
  | .string _, .string _, _, _, same => by
    rw [JsValue.string.inj same]
    exact .string _
  | .array left, .array right, leftShaped, rightShaped, same => by
    simp only [normalForm, JsValue.array.injEq] at same
    exact .array (sameItems_of_normalItems_eq (isJson_array_iff.mp leftShaped)
      (isJson_array_iff.mp rightShaped) same)
  | .object left, .object right, leftShaped, rightShaped, same => by
    rw [isJson_object_iff] at leftShaped rightShaped
    simp only [normalForm, JsValue.object.injEq] at same
    rcases exists_reordered (perm_of_sortEntries_eq same) with ⟨reordered, images, permuted⟩
    refine .object (sameEntries_of_normalEntries_eq leftShaped.1 ?_ images) permuted
    exact fun entry member => rightShaped.1 entry (permuted.mem_iff.mp member)

theorem sameItems_of_normalItems_eq : ∀ {left right : List JsValue},
    (∀ item ∈ left, item.isJson = true) → (∀ item ∈ right, item.isJson = true) →
      normalItems left = normalItems right → SameItems left right
  | [], [], _, _, _ => .nil
  | left :: leftRest, right :: rightRest, leftShaped, rightShaped, same => by
    rw [List.forall_mem_cons] at leftShaped rightShaped
    simp only [normalItems, List.cons.injEq] at same
    exact .cons (same_of_normalForm_eq leftShaped.1 rightShaped.1 same.1)
      (sameItems_of_normalItems_eq leftShaped.2 rightShaped.2 same.2)

theorem sameEntries_of_normalEntries_eq : ∀ {left right : List (JsString × JsValue)},
    (∀ entry ∈ left, entry.2.isJson = true) → (∀ entry ∈ right, entry.2.isJson = true) →
      normalEntries left = normalEntries right → SameEntries left right
  | [], [], _, _, _ => .nil
  | (key, left) :: leftRest, (otherKey, right) :: rightRest, leftShaped, rightShaped, same => by
    rw [List.forall_mem_cons] at leftShaped rightShaped
    simp only [normalEntries, List.cons.injEq, Prod.mk.injEq] at same
    rw [same.1.1]
    exact .cons (same_of_normalForm_eq leftShaped.1 rightShaped.1 same.1.2)
      (sameEntries_of_normalEntries_eq leftShaped.2 rightShaped.2 same.2)

end

theorem same_iff_normalForm_eq {left right : JsValue} (leftShaped : left.isJson = true)
    (rightShaped : right.isJson = true) :
    SameUpToKeyOrder left right ↔ normalForm left = normalForm right :=
  ⟨fun same => normalForm_eq_of_same same rightShaped,
    same_of_normalForm_eq leftShaped rightShaped⟩

theorem normalEntries_sortEntries (entries : List (JsString × JsValue)) :
    normalEntries (sortEntries entries) = sortEntries (normalEntries entries) := by
  rw [normalEntries_eq_map, normalEntries_eq_map]
  exact sortEntries_map (fun entry => normalForm entry.2) entries

theorem sortEntries_sortEntries {V : Type} (entries : List (JsString × V)) :
    sortEntries (sortEntries entries) = sortEntries entries :=
  (List.pairwise_insertionSort keyLe entries).insertionSort_eq

mutual

theorem normalForm_normalForm : ∀ value : JsValue, normalForm (normalForm value) = normalForm value
  | .array items => by rw [normalForm, normalForm, normalItems_normalItems]
  | .object entries => by
    rw [normalForm, normalForm, normalEntries_sortEntries, normalEntries_normalEntries,
      sortEntries_sortEntries]
  | .undefined => rfl
  | .null => rfl
  | .bool _ => rfl
  | .number _ => rfl
  | .string _ => rfl
  | .hole => rfl
  | .host _ => rfl

theorem normalItems_normalItems : ∀ items : List JsValue,
    normalItems (normalItems items) = normalItems items
  | [] => rfl
  | item :: rest => by
    rw [normalItems, normalItems, normalForm_normalForm item, normalItems_normalItems rest]

theorem normalEntries_normalEntries : ∀ entries : List (JsString × JsValue),
    normalEntries (normalEntries entries) = normalEntries entries
  | [] => rfl
  | (key, value) :: rest => by
    rw [normalEntries, normalEntries, normalForm_normalForm value,
      normalEntries_normalEntries rest]

end

section Faithfulness

variable (numbers : NumberText)

/-- Two JSON values share a canonical text exactly if they differ in key order only. -/
theorem canonicalize_eq_iff {left right : JsValue} (leftShaped : left.isJson = true)
    (rightShaped : right.isJson = true) :
    canonicalize numbers left = canonicalize numbers right ↔ SameUpToKeyOrder left right := by
  rw [same_iff_normalForm_eq leftShaped rightShaped]
  constructor
  · intro sameText
    have rightText := canonicalize_of_isJson numbers rightShaped
    exact normalForm_eq_of_canonicalize numbers leftShaped rightShaped (sameText.trans rightText)
      rightText
  · intro sameForm
    rw [canonicalize_of_isJson numbers leftShaped, canonicalize_of_isJson numbers rightShaped,
      sameForm]

/-- **Faithful identity encoding.** The canonical text of a JSON-shaped value
parses back to the value, up to key order, and is the text of no other value. -/
theorem canonicalize_faithful {value : JsValue} (shaped : value.isJson = true) :
    (∃ text parsed, canonicalize numbers value = .ok text ∧ parse numbers text = some parsed ∧
        SameUpToKeyOrder parsed value) ∧
      ∀ other : JsValue, other.isJson = true →
        (canonicalize numbers value = canonicalize numbers other ↔
          SameUpToKeyOrder value other) := by
  have normalShaped := isJson_normalForm shaped
  constructor
  · refine ⟨render numbers (normalForm value), normalForm value,
      canonicalize_of_isJson numbers shaped, parse_render numbers normalShaped, ?_⟩
    rw [same_iff_normalForm_eq normalShaped shaped, normalForm_normalForm]
  · exact fun other otherShaped => canonicalize_eq_iff numbers shaped otherShaped

end Faithfulness

/-- `{"b":[1,null],"a":"x"}`. -/
def sampleValue : JsValue :=
  .object [(js "b", .array [.number (.ofNat 1), .null]), (js "a", .string (js "x"))]

theorem canonicalize_faithful_sample :
    (∃ text parsed, canonicalize decimalText sampleValue = .ok text ∧
        parse decimalText text = some parsed ∧ SameUpToKeyOrder parsed sampleValue) ∧
      ∀ other : JsValue, other.isJson = true →
        (canonicalize decimalText sampleValue = canonicalize decimalText other ↔
          SameUpToKeyOrder sampleValue other) :=
  canonicalize_faithful decimalText (by decide)

end GhostArk.ReceiptSchema
