import GhostArk.ReceiptSchema.CanonicalIdentity

/-!
Contract: the values that the canonical serializer accepts.

Owns values as a program can hold them, whose objects have distinct keys, and the
exactness of the serializer's refusals: it returns a text exactly on JSON-shaped
values, and that text parses to the value with sorted keys.
-/

namespace GhostArk.ReceiptSchema

open Js

mutual

def hasDistinctKeys : JsValue → Bool
  | .array items => itemsHaveDistinctKeys items
  | .object entries => entriesHaveDistinctKeys entries && decide (entries.map Prod.fst).Nodup
  | _ => true

def itemsHaveDistinctKeys : List JsValue → Bool
  | [] => true
  | item :: rest => hasDistinctKeys item && itemsHaveDistinctKeys rest

def entriesHaveDistinctKeys : List (JsString × JsValue) → Bool
  | [] => true
  | (_, value) :: rest => hasDistinctKeys value && entriesHaveDistinctKeys rest

end

mutual

theorem hasDistinctKeys_of_isJson : ∀ {value : JsValue}, value.isJson = true →
    hasDistinctKeys value = true
  | .null, _ => rfl
  | .bool _, _ => rfl
  | .number _, _ => rfl
  | .string _, _ => rfl
  | .array _, shaped => itemsHaveDistinctKeys_of_isJson (isJson_array_iff.mp shaped)
  | .object entries, shaped => by
    rw [isJson_object_iff] at shaped
    rw [hasDistinctKeys, Bool.and_eq_true, decide_eq_true_eq]
    exact ⟨entriesHaveDistinctKeys_of_isJson shaped.1, shaped.2⟩

theorem itemsHaveDistinctKeys_of_isJson : ∀ {items : List JsValue},
    (∀ item ∈ items, item.isJson = true) → itemsHaveDistinctKeys items = true
  | [], _ => rfl
  | item :: rest, shaped => by
    rw [List.forall_mem_cons] at shaped
    rw [itemsHaveDistinctKeys, Bool.and_eq_true]
    exact ⟨hasDistinctKeys_of_isJson shaped.1, itemsHaveDistinctKeys_of_isJson shaped.2⟩

theorem entriesHaveDistinctKeys_of_isJson : ∀ {entries : List (JsString × JsValue)},
    (∀ entry ∈ entries, entry.2.isJson = true) → entriesHaveDistinctKeys entries = true
  | [], _ => rfl
  | (_, value) :: rest, shaped => by
    rw [List.forall_mem_cons] at shaped
    rw [entriesHaveDistinctKeys, Bool.and_eq_true]
    exact ⟨hasDistinctKeys_of_isJson shaped.1, entriesHaveDistinctKeys_of_isJson shaped.2⟩

end

/-- A value that a program can hold. -/
structure HeldValue where
  value : JsValue
  distinct : hasDistinctKeys value = true

variable {numbers : NumberText}

mutual

theorem isJson_of_canonicalize : ∀ {value : JsValue} {text : JsString},
    hasDistinctKeys value = true → canonicalize numbers value = .ok text → value.isJson = true
  | .undefined, _, _, rendered => by cases rendered
  | .hole, _, _, rendered => by cases rendered
  | .null, _, _, _ => rfl
  | .bool _, _, _, _ => rfl
  | .string _, _, _, _ => rfl
  | .number _, _, _, rendered => isFinite_of_canonicalize numbers rendered
  | .host _, _, _, rendered => by cases rendered
  | .array items, _, distinct, rendered => by
    rw [isJson_array_iff]
    rw [canonicalize] at rendered
    cases canonical : canonicalizeItems numbers 0 items with
    | error error =>
      rw [canonical] at rendered
      cases rendered
    | ok texts =>
      rw [hasDistinctKeys] at distinct
      exact areJson_of_canonicalizeItems distinct canonical
  | .object entries, _, distinct, rendered => by
    rw [hasDistinctKeys, Bool.and_eq_true, decide_eq_true_eq] at distinct
    rw [isJson_object_iff]
    exact ⟨areJson_of_entries distinct.1 (canonicalize_entry numbers rendered), distinct.2⟩

theorem areJson_of_canonicalizeItems : ∀ {items : List JsValue} {index : Nat}
    {texts : List JsString}, itemsHaveDistinctKeys items = true →
    canonicalizeItems numbers index items = .ok texts → ∀ item ∈ items, item.isJson = true
  | [], _, _, _, _ => by simp
  | item :: rest, index, _, distinct, rendered => by
    rw [itemsHaveDistinctKeys, Bool.and_eq_true] at distinct
    have defined : isUndefined item = false := by
      cases item with
      | undefined => cases rendered
      | hole => cases rendered
      | _ => rfl
    rw [canonicalizeItems_cons numbers defined] at rendered
    rcases bind_eq_ok.mp rendered with ⟨text, here, later⟩
    rcases bind_eq_ok.mp later with ⟨texts, onward, -⟩
    rw [List.forall_mem_cons]
    exact ⟨isJson_of_canonicalize distinct.1 here, areJson_of_canonicalizeItems distinct.2 onward⟩

theorem areJson_of_entries : ∀ {entries : List (JsString × JsValue)},
    entriesHaveDistinctKeys entries = true →
    (∀ entry ∈ entries, ∃ text, canonicalize numbers entry.2 = .ok text) →
    ∀ entry ∈ entries, entry.2.isJson = true
  | [], _, _ => by simp
  | (_, value) :: rest, distinct, rendered => by
    rw [entriesHaveDistinctKeys, Bool.and_eq_true] at distinct
    rw [List.forall_mem_cons] at rendered ⊢
    rcases rendered.1 with ⟨text, here⟩
    exact ⟨isJson_of_canonicalize distinct.1 here, areJson_of_entries distinct.2 rendered.2⟩

end

theorem parse_canonicalize {value : JsValue} {text : JsString} (shaped : value.isJson = true)
    (rendered : canonicalize numbers value = .ok text) :
    parse numbers text = some (normalForm value) := by
  rw [canonicalize_of_isJson numbers shaped, Except.ok.injEq] at rendered
  rw [← rendered]
  exact parse_render numbers (isJson_normalForm shaped)

theorem canonicalize_normalForm {value : JsValue} (shaped : value.isJson = true) :
    canonicalize numbers (normalForm value) = canonicalize numbers value := by
  rw [canonicalize_of_isJson numbers (isJson_normalForm shaped), normalForm_normalForm,
    canonicalize_of_isJson numbers shaped]

section Parts

variable (numbers : NumberText)

private theorem exists_canonicalizeItems_iff {items : List JsValue} (index : Nat) :
    (∃ texts, canonicalizeItems numbers index items = .ok texts) ↔
      ∀ item ∈ items, ∃ text, canonicalize numbers item = .ok text := by
  induction items generalizing index with
  | nil => exact iff_of_true ⟨[], rfl⟩ (List.forall_mem_nil _)
  | cons item rest ih =>
    rw [List.forall_mem_cons, ← ih (index + 1)]
    cases undefined : isUndefined item with
    | true =>
      cases item with
      | undefined => exact iff_of_false (by rintro ⟨_, ⟨⟩⟩) (by rintro ⟨⟨_, ⟨⟩⟩, _⟩)
      | hole => exact iff_of_false (by rintro ⟨_, ⟨⟩⟩) (by rintro ⟨⟨_, ⟨⟩⟩, _⟩)
      | _ => cases undefined
    | false =>
      rw [canonicalizeItems_cons numbers undefined]
      simp only [bind_eq_ok, pure_eq_ok]
      constructor
      · rintro ⟨_, text, isText, texts, areTexts, _⟩
        exact ⟨⟨text, isText⟩, texts, areTexts⟩
      · rintro ⟨⟨text, isText⟩, texts, areTexts⟩
        exact ⟨_, text, isText, texts, areTexts, rfl⟩

theorem exists_canonicalize_array_iff {items : List JsValue} :
    (∃ text, canonicalize numbers (.array items) = .ok text) ↔
      ∀ item ∈ items, ∃ text, canonicalize numbers item = .ok text := by
  rw [← exists_canonicalizeItems_iff numbers 0, canonicalize]
  cases canonicalizeItems numbers 0 items with
  | error error => exact iff_of_false (by rintro ⟨_, ⟨⟩⟩) (by rintro ⟨_, ⟨⟩⟩)
  | ok texts => exact iff_of_true ⟨_, rfl⟩ ⟨_, rfl⟩

private theorem canonicalizeEntries_eq_map (entries : List (JsString × JsValue)) :
    canonicalizeEntries numbers entries =
      entries.map fun entry => (entry.1, canonicalize numbers entry.2) := by
  induction entries with
  | nil => rfl
  | cons entry rest ih =>
    rw [canonicalizeEntries, ih, List.map_cons]

private theorem exists_sequenceEntries {entries : List (JsString × Except JsError JsString)}
    (rendered : ∀ entry ∈ entries, ∃ text, entry.2 = .ok text) :
    ∃ texts, sequenceEntries entries = .ok texts := by
  induction entries with
  | nil => exact ⟨[], rfl⟩
  | cons entry rest ih =>
    rw [List.forall_mem_cons] at rendered
    rcases rendered.1 with ⟨text, isText⟩
    rcases ih rendered.2 with ⟨texts, areTexts⟩
    rw [sequenceEntries, isText, ok_bind, areTexts]
    exact ⟨_, rfl⟩

theorem exists_canonicalize_object_iff {entries : List (JsString × JsValue)} :
    (∃ text, canonicalize numbers (.object entries) = .ok text) ↔
      ∀ entry ∈ entries, ∃ text, canonicalize numbers entry.2 = .ok text := by
  constructor
  · rintro ⟨text, isText⟩
    exact canonicalize_entry numbers isText
  · intro accepted
    have defined : entries.find? (fun entry => isUndefined entry.2) = none := by
      rw [List.find?_eq_none]
      intro entry member undefined
      rcases accepted entry member with ⟨text, isText⟩
      cases isValue : entry.2 with
      | undefined =>
        rw [isValue] at isText
        cases isText
      | hole =>
        rw [isValue] at isText
        cases isText
      | _ =>
        rw [isValue] at undefined
        cases undefined
    have rendered : ∀ entry ∈ sortEntries (canonicalizeEntries numbers entries),
        ∃ text, entry.2 = .ok text := by
      intro entry member
      rw [(perm_sortEntries _).mem_iff, canonicalizeEntries_eq_map] at member
      rcases List.mem_map.mp member with ⟨source, inEntries, rfl⟩
      exact accepted source inEntries
    rcases exists_sequenceEntries rendered with ⟨texts, areTexts⟩
    rw [canonicalize, defined]
    dsimp only
    rw [areTexts]
    exact ⟨_, rfl⟩

end Parts

end GhostArk.ReceiptSchema
