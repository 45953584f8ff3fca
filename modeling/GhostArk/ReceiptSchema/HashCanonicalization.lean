import GhostArk.Js.JsonRoundTrip
import Mathlib.Data.List.Sort

/-!
Contract: `packages/receipt-schema/src/hashCanonicalization.ts`.

Owns the canonical JSON serializer with every refusal, canonical SHA-256
digests, and the exactness of the serializer: on JSON-shaped values it renders
the value with sorted keys, so equal canonical texts come from values that
differ only in the order of their keys.
-/

namespace GhostArk.ReceiptSchema

open Js

def undefinedValueMessage : JsString :=
  js "Canonical JSON cannot encode undefined values. Use explicit null or omit the key structurally."

def canonicalizationError (message : JsString) (context : List (JsString × JsValue)) : JsError :=
  ⟨.validationError, message, (js "domain", .string (js "ghost_ark.canonical_json.v1")) :: context⟩

def undefinedValueError (context : List (JsString × JsValue)) : JsError :=
  canonicalizationError undefinedValueMessage
    ((js "type", .string (js "undefined_value_encountered")) :: context)

/-- The refusal of a host value, in the order of the type tests. -/
def hostValueError : HostKind → JsError
  | .bigint =>
    canonicalizationError (js "Canonical JSON cannot encode bigint values")
      [(js "type", .string (js "bigint"))]
  | .function =>
    canonicalizationError (js "Canonical JSON cannot encode executable or symbolic values")
      [(js "type", .string (js "function"))]
  | .symbol =>
    canonicalizationError (js "Canonical JSON cannot encode executable or symbolic values")
      [(js "type", .string (js "symbol"))]
  | .date =>
    canonicalizationError
      (js "Canonical JSON cannot encode Date objects. Serialize timestamps as schema-owned ISO strings before signing.")
      [(js "constructor", .string (js "Date"))]
  | .buffer =>
    canonicalizationError
      (js "Canonical JSON cannot encode Buffer values. Encode bytes explicitly before signing.")
      [(js "constructor", .string (js "Buffer"))]
  | .binaryView constructorName =>
    canonicalizationError
      (js "Canonical JSON cannot encode binary view values. Encode bytes explicitly before signing.")
      [(js "constructor", .string constructorName)]
  | .mapOrSet constructorName =>
    canonicalizationError
      (js "Canonical JSON cannot encode Map or Set values. Convert them to explicit schema objects before signing.")
      [(js "constructor", .string constructorName)]
  | .classInstance constructorName =>
    canonicalizationError (js "Unsupported value in canonical JSON payload")
      [(js "type", .string (js "object")), (js "constructor", .string constructorName)]

/-- `left < right` on strings: code units first, then length. -/
def stringLt : JsString → JsString → Bool
  | [], [] => false
  | [], _ :: _ => true
  | _ :: _, [] => false
  | left :: leftRest, right :: rightRest =>
    left.val < right.val || (left.val == right.val && stringLt leftRest rightRest)

/-- `utf16LexicographicCompare` of two keys is not positive. -/
def keyLe {V : Type} (left right : JsString × V) : Prop := stringLt right.1 left.1 = false

instance {V : Type} : DecidableRel (keyLe (V := V)) :=
  fun left right => inferInstanceAs (Decidable (stringLt right.1 left.1 = false))

def sortEntries {V : Type} (entries : List (JsString × V)) : List (JsString × V) :=
  entries.insertionSort keyLe

/-- The first failure among the rendered members, in the order given. -/
def sequenceEntries : List (JsString × Except JsError JsString) →
    Except JsError (List (JsString × JsString))
  | [] => .ok []
  | (key, rendered) :: rest => do
    let text ← rendered
    let texts ← sequenceEntries rest
    return (key, text) :: texts

def isUndefined : JsValue → Bool
  | .undefined => true
  | .hole => true
  | _ => false

section Serializer

variable (numbers : NumberText)

mutual

def canonicalize : JsValue → Except JsError JsString
  | .undefined => .error (undefinedValueError [])
  | .hole => .error (undefinedValueError [])
  | .null => .ok (js "null")
  | .string value => .ok (quote value)
  | .bool true => .ok (js "true")
  | .bool false => .ok (js "false")
  | .number value =>
    if value.isFinite then .ok (numbers.json value)
    else .error (canonicalizationError (js "Canonical JSON cannot encode non-finite numbers")
      [(js "value", .number value)])
  | .host kind => .error (hostValueError kind)
  | .array items => (canonicalizeItems 0 items).map jsonArray
  | .object entries =>
    -- every entry is tested for `undefined` before any is rendered
    match entries.find? fun entry => isUndefined entry.2 with
    | some entry => .error (undefinedValueError [(js "key", .string entry.1)])
    | none => (sequenceEntries (sortEntries (canonicalizeEntries entries))).map jsonObject

def canonicalizeItems : Nat → List JsValue → Except JsError (List JsString)
  | _, [] => .ok []
  | index, item :: rest =>
    match item with
    | .hole =>
      .error (canonicalizationError (js "Canonical JSON cannot encode sparse arrays")
        [(js "index", .number (.ofNat index))])
    | .undefined => .error (undefinedValueError [(js "index", .number (.ofNat index))])
    | item => do
      let text ← canonicalize item
      let texts ← canonicalizeItems (index + 1) rest
      return text :: texts

def canonicalizeEntries : List (JsString × JsValue) → List (JsString × Except JsError JsString)
  | [] => []
  | (key, value) :: rest => (key, canonicalize value) :: canonicalizeEntries rest

end

end Serializer

section Digest

variable (runtime : Runtime)

def sha256Hex (value : JsString) : JsString := runtime.sha256.sha256Hex value

def canonicalSha256Hex (value : JsValue) : Except JsError JsString :=
  (canonicalize runtime.numbers value).map (sha256Hex runtime)

end Digest

/-! ### Exactness -/

mutual

/-- The value with the entries of every object sorted by key. -/
def normalForm : JsValue → JsValue
  | .array items => .array (normalItems items)
  | .object entries => .object (sortEntries (normalEntries entries))
  | other => other

def normalItems : List JsValue → List JsValue
  | [] => []
  | item :: rest => normalForm item :: normalItems rest

def normalEntries : List (JsString × JsValue) → List (JsString × JsValue)
  | [] => []
  | (key, value) :: rest => (key, normalForm value) :: normalEntries rest

end

theorem normalItems_eq_map (items : List JsValue) : normalItems items = items.map normalForm := by
  induction items with
  | nil => rfl
  | cons item rest ih =>
    rw [normalItems, ih, List.map_cons]

theorem normalEntries_eq_map (entries : List (JsString × JsValue)) :
    normalEntries entries = entries.map fun entry => (entry.1, normalForm entry.2) := by
  induction entries with
  | nil => rfl
  | cons entry rest ih =>
    rw [normalEntries, ih, List.map_cons]

theorem sortEntries_map {V W : Type} (change : JsString × V → W) (entries : List (JsString × V)) :
    (sortEntries entries).map (fun entry => (entry.1, change entry)) =
      sortEntries (entries.map fun entry => (entry.1, change entry)) := by
  unfold sortEntries
  apply List.map_insertionSort
  intro left _ right _
  exact Iff.rfl

theorem perm_sortEntries {V : Type} (entries : List (JsString × V)) :
    (sortEntries entries).Perm entries :=
  List.perm_insertionSort keyLe entries

variable {entries : List (JsString × JsValue)}

private theorem entriesAreJson_iff :
    JsValue.entriesAreJson entries = true ↔ ∀ entry ∈ entries, entry.2.isJson = true := by
  induction entries with
  | nil => simp [JsValue.entriesAreJson]
  | cons entry rest ih =>
    rw [JsValue.entriesAreJson, Bool.and_eq_true, ih, List.forall_mem_cons]

private theorem areJson_iff {items : List JsValue} :
    JsValue.areJson items = true ↔ ∀ item ∈ items, item.isJson = true := by
  induction items with
  | nil => simp [JsValue.areJson]
  | cons item rest ih =>
    rw [JsValue.areJson, Bool.and_eq_true, ih, List.forall_mem_cons]

theorem isJson_object_iff :
    (JsValue.object entries).isJson = true ↔
      (∀ entry ∈ entries, entry.2.isJson = true) ∧ (entries.map Prod.fst).Nodup := by
  rw [JsValue.isJson, Bool.and_eq_true, entriesAreJson_iff, decide_eq_true_eq]

theorem isJson_array_iff {items : List JsValue} :
    (JsValue.array items).isJson = true ↔ ∀ item ∈ items, item.isJson = true := by
  rw [JsValue.isJson, areJson_iff]

theorem isJson_sortEntries (shaped : (JsValue.object entries).isJson = true) :
    (JsValue.object (sortEntries entries)).isJson = true := by
  rw [isJson_object_iff] at shaped ⊢
  have permuted := perm_sortEntries entries
  refine ⟨fun entry member => shaped.1 entry (permuted.mem_iff.mp member), ?_⟩
  exact (permuted.map Prod.fst).nodup_iff.mpr shaped.2

mutual

theorem isJson_normalForm : ∀ {value : JsValue}, value.isJson = true →
    (normalForm value).isJson = true
  | .null, shaped => shaped
  | .bool _, shaped => shaped
  | .number _, shaped => shaped
  | .string _, shaped => shaped
  | .array items, shaped => by
    rw [isJson_array_iff] at shaped
    rw [normalForm, isJson_array_iff]
    exact areJson_normalItems shaped
  | .object entries, shaped => by
    rw [isJson_object_iff] at shaped
    rw [normalForm]
    apply isJson_sortEntries
    rw [isJson_object_iff]
    refine ⟨entriesAreJson_normalEntries shaped.1, ?_⟩
    rw [normalEntries_eq_map, List.map_map]
    exact shaped.2

theorem areJson_normalItems : ∀ {items : List JsValue}, (∀ item ∈ items, item.isJson = true) →
    ∀ item ∈ normalItems items, item.isJson = true
  | [], _ => by simp [normalItems]
  | item :: rest, shaped => by
    rw [List.forall_mem_cons] at shaped
    rw [normalItems, List.forall_mem_cons]
    exact ⟨isJson_normalForm shaped.1, areJson_normalItems shaped.2⟩

theorem entriesAreJson_normalEntries : ∀ {entries : List (JsString × JsValue)},
    (∀ entry ∈ entries, entry.2.isJson = true) →
      ∀ entry ∈ normalEntries entries, entry.2.isJson = true
  | [], _ => by simp [normalEntries]
  | (key, value) :: rest, shaped => by
    rw [List.forall_mem_cons] at shaped
    rw [normalEntries, List.forall_mem_cons]
    exact ⟨isJson_normalForm shaped.1, entriesAreJson_normalEntries shaped.2⟩

end

section Record

variable {F : Type} (name : F → JsString)

/-- The object with one entry for each field. -/
def record (fields : List F) (value : F → JsValue) : JsValue :=
  .object (fields.map fun field => (name field, value field))

variable {name}

theorem isJson_record {fields : List F} {value : F → JsValue}
    (distinct : (fields.map name).Nodup) (shaped : ∀ field ∈ fields, (value field).isJson = true) :
    (record name fields value).isJson = true := by
  rw [record, isJson_object_iff]
  constructor
  · intro entry member
    obtain ⟨field, isField, rfl⟩ := List.mem_map.mp member
    exact shaped field isField
  · rw [List.map_map]
    exact distinct

theorem normalForm_record_inj {fields : List F} {left right : F → JsValue}
    (distinct : (fields.map name).Nodup)
    (same : normalForm (record name fields left) = normalForm (record name fields right)) :
    ∀ field ∈ fields, normalForm (left field) = normalForm (right field) := by
  intro field isField
  simp only [record, normalForm, normalEntries_eq_map, List.map_map, JsValue.object.injEq] at same
  have inLeft : (name field, normalForm (left field)) ∈
      fields.map fun field => (name field, normalForm (left field)) :=
    List.mem_map_of_mem isField
  have inRight := (perm_sortEntries _).mem_iff.mp (same ▸ (perm_sortEntries _).mem_iff.mpr inLeft)
  obtain ⟨other, isOther, sameEntry⟩ := List.mem_map.mp inRight
  rw [Function.comp_apply, Prod.mk.injEq] at sameEntry
  have sameField := List.inj_on_of_nodup_map distinct isOther isField sameEntry.1
  rw [← sameEntry.2, sameField]

end Record

section Exactness

variable (numbers : NumberText)

theorem renderEntries_eq_map (entries : List (JsString × JsValue)) :
    renderEntries numbers entries = entries.map fun entry => (entry.1, render numbers entry.2) := by
  induction entries with
  | nil => rfl
  | cons entry rest ih =>
    rw [renderEntries, ih, List.map_cons]

private theorem sequenceEntries_ok (entries : List (JsString × JsString)) :
    sequenceEntries (entries.map fun entry => (entry.1, .ok entry.2)) = .ok entries := by
  induction entries with
  | nil => rfl
  | cons entry rest ih =>
    rw [List.map_cons, sequenceEntries, ih]
    rfl

private theorem isUndefined_of_isJson {value : JsValue} (shaped : value.isJson = true) :
    isUndefined value = false := by
  cases value with
  | undefined => simp [JsValue.isJson] at shaped
  | hole => simp [JsValue.isJson] at shaped
  | null => rfl
  | bool _ => rfl
  | number _ => rfl
  | string _ => rfl
  | array _ => rfl
  | object _ => rfl
  | host _ => rfl

theorem canonicalizeItems_cons {item : JsValue} (defined : isUndefined item = false)
    (index : Nat) (rest : List JsValue) :
    canonicalizeItems numbers index (item :: rest) = do
      let text ← canonicalize numbers item
      let texts ← canonicalizeItems numbers (index + 1) rest
      return text :: texts := by
  rw [canonicalizeItems.eq_def]
  cases item with
  | undefined => simp [isUndefined] at defined
  | hole => simp [isUndefined] at defined
  | null => rfl
  | bool _ => rfl
  | number _ => rfl
  | string _ => rfl
  | array _ => rfl
  | object _ => rfl
  | host _ => rfl

theorem sequence_sorted (entries : List (JsString × JsValue)) :
    sequenceEntries (sortEntries (entries.map fun entry =>
        (entry.1, (.ok (render numbers (normalForm entry.2)) : Except JsError JsString)))) =
      .ok (renderEntries numbers (sortEntries (normalEntries entries))) := by
  rw [renderEntries_eq_map, normalEntries_eq_map, sortEntries_map, List.map_map]
  rw [← sequenceEntries_ok, sortEntries_map, List.map_map]
  rfl

mutual

/-- A JSON value is canonicalized to the text of its normal form. -/
theorem canonicalize_of_isJson : ∀ {value : JsValue}, value.isJson = true →
    canonicalize numbers value = .ok (render numbers (normalForm value))
  | .null, _ => rfl
  | .bool true, _ => rfl
  | .bool false, _ => rfl
  | .number value, shaped => by
    rw [JsValue.isJson] at shaped
    rw [canonicalize, if_pos shaped, normalForm, render]
    all_goals simp
  | .string _, _ => rfl
  | .array items, shaped => by
    rw [isJson_array_iff] at shaped
    rw [canonicalize, canonicalizeItems_of_isJson shaped, normalForm, render]
    rfl
  | .object entries, shaped => by
    rw [isJson_object_iff] at shaped
    have allDefined : entries.find? (fun entry => isUndefined entry.2) = none := by
      rw [List.find?_eq_none]
      intro entry member
      simp [isUndefined_of_isJson (shaped.1 entry member)]
    rw [canonicalize, allDefined, canonicalizeEntries_of_isJson shaped.1, sequence_sorted,
      normalForm, render]
    rfl

theorem canonicalizeItems_of_isJson : ∀ {index : Nat} {items : List JsValue},
    (∀ item ∈ items, item.isJson = true) →
      canonicalizeItems numbers index items = .ok (renderItems numbers (normalItems items))
  | _, [], _ => rfl
  | index, item :: rest, shaped => by
    rw [List.forall_mem_cons] at shaped
    rw [canonicalizeItems_cons numbers (isUndefined_of_isJson shaped.1),
      canonicalize_of_isJson shaped.1, canonicalizeItems_of_isJson shaped.2, normalItems,
      renderItems]
    rfl

theorem canonicalizeEntries_of_isJson : ∀ {entries : List (JsString × JsValue)},
    (∀ entry ∈ entries, entry.2.isJson = true) →
      canonicalizeEntries numbers entries =
        entries.map fun entry => (entry.1, .ok (render numbers (normalForm entry.2)))
  | [], _ => rfl
  | (key, value) :: rest, shaped => by
    rw [List.forall_mem_cons] at shaped
    rw [canonicalizeEntries, canonicalize_of_isJson shaped.1,
      canonicalizeEntries_of_isJson shaped.2, List.map_cons]

end

variable {text : JsString}

theorem normalForm_eq_of_canonicalize {left right : JsValue} (leftShaped : left.isJson = true)
    (rightShaped : right.isJson = true) (leftText : canonicalize numbers left = .ok text)
    (rightText : canonicalize numbers right = .ok text) : normalForm left = normalForm right := by
  rw [canonicalize_of_isJson numbers leftShaped, Except.ok.injEq] at leftText
  rw [canonicalize_of_isJson numbers rightShaped, Except.ok.injEq] at rightText
  apply render_injective numbers (isJson_normalForm leftShaped) (isJson_normalForm rightShaped)
  rw [leftText, rightText]

private theorem isOk_of_sequenceEntries {entries : List (JsString × Except JsError JsString)}
    {texts : List (JsString × JsString)} (rendered : sequenceEntries entries = .ok texts) :
    ∀ entry ∈ entries, ∃ text, entry.2 = .ok text := by
  induction entries generalizing texts with
  | nil => simp
  | cons entry rest ih =>
    rw [sequenceEntries, bind_eq_ok] at rendered
    obtain ⟨text, here, later⟩ := rendered
    rw [bind_eq_ok] at later
    obtain ⟨restTexts, restRendered, -⟩ := later
    rw [List.forall_mem_cons]
    exact ⟨⟨text, here⟩, ih restRendered⟩

theorem canonicalize_entry {entries : List (JsString × JsValue)}
    (rendered : canonicalize numbers (.object entries) = .ok text) :
    ∀ entry ∈ entries, ∃ entryText, canonicalize numbers entry.2 = .ok entryText := by
  have entriesText : ∀ {entries : List (JsString × JsValue)}, ∀ entry ∈ entries,
      (entry.1, canonicalize numbers entry.2) ∈ canonicalizeEntries numbers entries := by
    intro entries
    induction entries with
    | nil => simp
    | cons first rest ih =>
      intro entry member
      rw [canonicalizeEntries]
      rcases List.mem_cons.mp member with rfl | later
      · exact List.mem_cons_self
      · exact List.mem_cons_of_mem _ (ih entry later)
  intro entry member
  rw [canonicalize] at rendered
  split at rendered
  · cases rendered
  · cases sequenced : sequenceEntries (sortEntries (canonicalizeEntries numbers entries)) with
    | error error => simp [sequenced, Except.map] at rendered
    | ok texts =>
      have sorted := (perm_sortEntries _).mem_iff.mpr (entriesText entry member)
      exact isOk_of_sequenceEntries sequenced _ sorted

theorem isFinite_of_canonicalize {value : JsNumber}
    (rendered : canonicalize numbers (.number value) = .ok text) : value.isFinite = true := by
  rw [canonicalize] at rendered
  split at rendered
  next finite => exact finite
  next => cases rendered

end Exactness

end GhostArk.ReceiptSchema
