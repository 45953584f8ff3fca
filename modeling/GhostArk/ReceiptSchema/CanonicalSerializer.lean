import GhostArk.ReceiptSchema.CanonicalIdentity

/-!
Contract: serializers that other programs write for the canonical JSON format.

Owns the equations of such a serializer on JSON-shaped values, and that every
function with these equations returns the text of the value with sorted keys, as
`canonicalize` of `hashCanonicalization.ts` does.

Does not own: what a serializer does with other values.
-/

namespace GhostArk.ReceiptSchema

open Js

/-- The equations of a canonical serializer on JSON-shaped values. -/
structure CanonicalSerializer (numbers : NumberText)
    (serialize : JsValue → Except JsError JsString) : Prop where
  null : serialize .null = .ok (js "null")
  bool : ∀ value, serialize (.bool value) = .ok (if value then js "true" else js "false")
  number : ∀ value, value.isFinite = true → serialize (.number value) = .ok (numbers.json value)
  string : ∀ value, serialize (.string value) = .ok (quote value)
  array : ∀ items, (∀ item ∈ items, item.isJson = true) →
    serialize (.array items) = (items.mapM serialize).map jsonArray
  object : ∀ entries, (∀ entry ∈ entries, entry.2.isJson = true) →
    serialize (.object entries) =
      (sequenceEntries (sortEntries (entries.map fun entry =>
        (entry.1, serialize entry.2)))).map jsonObject

namespace CanonicalSerializer

variable {numbers : NumberText} {serialize : JsValue → Except JsError JsString}

mutual

theorem eq_render (serializer : CanonicalSerializer numbers serialize) : ∀ {value : JsValue},
    value.isJson = true → serialize value = .ok (render numbers (normalForm value))
  | .null, _ => serializer.null
  | .bool true, _ => serializer.bool true
  | .bool false, _ => serializer.bool false
  | .number value, shaped => by
    rw [normalForm, render]
    · exact serializer.number value shaped
    all_goals simp
  | .string value, _ => serializer.string value
  | .array items, shaped => by
    rw [isJson_array_iff] at shaped
    rw [serializer.array items shaped, serializer.mapM_eq_renderItems shaped, normalForm, render]
    rfl
  | .object entries, shaped => by
    rw [isJson_object_iff] at shaped
    rw [serializer.object entries shaped.1, serializer.map_eq_render shaped.1, sequence_sorted,
      normalForm, render]
    rfl

theorem mapM_eq_renderItems (serializer : CanonicalSerializer numbers serialize) :
    ∀ {items : List JsValue}, (∀ item ∈ items, item.isJson = true) →
      items.mapM serialize = .ok (renderItems numbers (normalItems items))
  | [], _ => rfl
  | item :: rest, shaped => by
    rw [List.forall_mem_cons] at shaped
    rw [List.mapM_cons, serializer.eq_render shaped.1,
      serializer.mapM_eq_renderItems shaped.2, normalItems, renderItems]
    rfl

theorem map_eq_render (serializer : CanonicalSerializer numbers serialize) :
    ∀ {entries : List (JsString × JsValue)}, (∀ entry ∈ entries, entry.2.isJson = true) →
      entries.map (fun entry => (entry.1, serialize entry.2)) =
        entries.map fun entry => (entry.1, .ok (render numbers (normalForm entry.2)))
  | [], _ => rfl
  | (key, value) :: rest, shaped => by
    rw [List.forall_mem_cons] at shaped
    rw [List.map_cons, List.map_cons, serializer.eq_render shaped.1,
      serializer.map_eq_render shaped.2]

end

theorem eq_canonicalize_of_perm (serializer : CanonicalSerializer numbers serialize)
    {entries others : List (JsString × JsValue)} (permuted : entries.Perm others)
    (shaped : (JsValue.object others).isJson = true) :
    serialize (.object entries) = canonicalize numbers (.object others) := by
  have isShaped : (JsValue.object entries).isJson = true := by
    rw [isJson_object_iff] at shaped ⊢
    refine ⟨fun entry member => shaped.1 entry (permuted.mem_iff.mp member), ?_⟩
    exact (permuted.map Prod.fst).nodup_iff.mpr shaped.2
  have sameForm : normalForm (.object entries) = normalForm (.object others) := by
    have distinct : ((normalEntries entries).map Prod.fst).Nodup := by
      rw [keys_normalEntries]
      exact (isJson_object_iff.mp isShaped).2
    have reordered : (normalEntries entries).Perm (normalEntries others) := by
      rw [normalEntries_eq_map, normalEntries_eq_map]
      exact permuted.map _
    rw [normalForm, normalForm, sortEntries_eq_of_perm distinct reordered]
  rw [serializer.eq_render isShaped, sameForm, canonicalize_of_isJson numbers shaped]

end CanonicalSerializer

end GhostArk.ReceiptSchema
