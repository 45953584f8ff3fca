import GhostArk.Js.Utf8
import GhostArk.ReceiptSchema.CanonicalIdentity
import GhostArk.ResearchFrontier.Occ.WorldLedger

/-!
Contract: what the digest of a state identifies.

Owns the values that `JSON.parse` produces, what the sorted text of such a value shows of it, that
the text shows nothing else, and exactly when two values of one digest are equal up to key order:
members named `__proto__` are lost to the replacer, and infinite numbers are written as `null`.

Does not own: values that `JSON.parse` does not produce.
-/

namespace GhostArk.ResearchFrontier.Occ

open Js
open Lib
open ReceiptSchema

/-! ### Parsed values -/

/-- What `JSON.parse` produces: a literal beyond the doubles is an infinite number. -/
inductive IsParsed : JsValue → Prop
  | null : IsParsed .null
  | bool (value : Bool) : IsParsed (.bool value)
  | number {value : JsNumber} (isNumber : value ≠ .nan) : IsParsed (.number value)
  | string (value : JsString) : IsParsed (.string value)
  | array {items : List JsValue} (parsed : ∀ item ∈ items, IsParsed item) :
      IsParsed (.array items)
  | object {entries : List (JsString × JsValue)} (parsed : ∀ entry ∈ entries, IsParsed entry.2)
      (distinct : (entries.map Prod.fst).Nodup) : IsParsed (.object entries)

mutual

/-- What the text of a value shows of it. -/
def written : JsValue → JsValue
  | .number value => if value.isFinite then .number value else .null
  | .array items => .array (writtenItems items)
  | .object entries => .object (writtenEntries entries)
  | other => other

def writtenItems : List JsValue → List JsValue
  | [] => []
  | item :: rest => written item :: writtenItems rest

def writtenEntries : List (JsString × JsValue) → List (JsString × JsValue)
  | [] => []
  | (key, value) :: rest =>
    if key = js "__proto__" then writtenEntries rest
    else (key, written value) :: writtenEntries rest

end

mutual

/-- The members of each object in the order that they are written in. -/
def ordered : JsValue → JsValue
  | .array items => .array (orderedItems items)
  | .object entries => .object (objectOrder (sortEntries (orderedEntries entries)))
  | other => other

def orderedItems : List JsValue → List JsValue
  | [] => []
  | item :: rest => ordered item :: orderedItems rest

def orderedEntries : List (JsString × JsValue) → List (JsString × JsValue)
  | [] => []
  | (key, value) :: rest => (key, ordered value) :: orderedEntries rest

end

theorem writtenItems_eq_map (items : List JsValue) : writtenItems items = items.map written := by
  induction items with
  | nil => rfl
  | cons item rest ih =>
    rw [writtenItems, ih, List.map_cons]

theorem writtenEntries_eq_map (entries : List (JsString × JsValue)) :
    writtenEntries entries = (entries.filter fun entry => entry.1 ≠ js "__proto__").map
      fun entry => (entry.1, written entry.2) := by
  induction entries with
  | nil => rfl
  | cons entry rest ih =>
    rcases entry with ⟨key, value⟩
    by_cases isProto : key = js "__proto__"
    · rw [writtenEntries, if_pos isProto, ih, List.filter_cons_of_neg]
      simpa using isProto
    · rw [writtenEntries, if_neg isProto, ih, List.filter_cons_of_pos,
        List.map_cons]
      simpa using isProto

theorem orderedItems_eq_map (items : List JsValue) : orderedItems items = items.map ordered := by
  induction items with
  | nil => rfl
  | cons item rest ih =>
    rw [orderedItems, ih, List.map_cons]

theorem orderedEntries_eq_map (entries : List (JsString × JsValue)) :
    orderedEntries entries = entries.map fun entry => (entry.1, ordered entry.2) := by
  induction entries with
  | nil => rfl
  | cons entry rest ih =>
    rw [orderedEntries, ih, List.map_cons]

theorem map_fst_map {V W : Type} (change : JsString × V → W) (entries : List (JsString × V)) :
    (entries.map fun entry => (entry.1, change entry)).map Prod.fst = entries.map Prod.fst := by
  rw [List.map_map]
  rfl

variable {value : JsValue}

theorem isJson_written (parsed : IsParsed value) : (written value).isJson = true := by
  induction parsed with
  | null => rfl
  | bool value => rfl
  | @number value isNumber =>
    rw [written]
    split
    next finite => exact finite
    next => rfl
  | string value => rfl
  | array parsed ih =>
    rw [written, isJson_array_iff, writtenItems_eq_map]
    intro item member
    rcases List.mem_map.mp member with ⟨before, inItems, rfl⟩
    exact ih before inItems
  | object parsed distinct ih =>
    rw [written, isJson_object_iff, writtenEntries_eq_map, map_fst_map]
    constructor
    · intro entry member
      rcases List.mem_map.mp member with ⟨before, inEntries, rfl⟩
      exact ih before (List.mem_of_mem_filter inEntries)
    · exact (List.filter_sublist.map Prod.fst).nodup distinct

theorem textMembers_map (entries : List (JsString × JsString)) :
    textMembers (entries.map fun entry => (entry.1, .ok (some entry.2))) = .ok entries := by
  induction entries with
  | nil => rfl
  | cons entry rest ih =>
    rw [List.map_cons, textMembers, ih]
    rfl

section Text

variable (runtime : Runtime) (hostJson : HostJson)

def stateText (value : JsValue) : JsString := render runtime.numbers (ordered (written value))

theorem stringifyEntries_eq_map (replacer : Replacer) (entries : List (JsString × JsValue)) :
    stringifyEntries runtime hostJson replacer entries =
      entries.map fun entry => (entry.1, stringify runtime hostJson replacer entry.2) := by
  induction entries with
  | nil => rfl
  | cons entry rest ih =>
    rw [stringifyEntries, ih, List.map_cons]

theorem stringify_parsed {value : JsValue} (parsed : IsParsed value) :
    stringify runtime hostJson .sortsKeys value = .ok (some (stateText runtime value)) := by
  induction parsed with
  | null => rfl
  | bool value => cases value <;> rfl
  | @number value isNumber => cases value <;> rfl
  | string value => rfl
  | @array items parsed ih =>
    have texts : stringifyItems runtime hostJson .sortsKeys items =
        .ok (renderItems runtime.numbers (orderedItems (writtenItems items))) := by
      clear parsed
      induction items with
      | nil => rfl
      | cons item rest restHypothesis =>
        rw [List.forall_mem_cons] at ih
        rw [stringifyItems, ih.1, restHypothesis ih.2]
        rfl
    rw [stringify, texts]
    rfl
  | @object entries parsed distinct ih =>
    have members : stringifyEntries runtime hostJson .sortsKeys entries =
        entries.map fun entry => (entry.1, .ok (some (stateText runtime entry.2))) := by
      rw [stringifyEntries_eq_map]
      exact List.map_congr_left fun entry member => by rw [ih entry member]
    have inOrder : Replacer.order .sortsKeys (stringifyEntries runtime hostJson .sortsKeys entries) =
        (renderEntries runtime.numbers
          (objectOrder (sortEntries (orderedEntries (writtenEntries entries))))).map
            fun entry => (entry.1, .ok (some entry.2)) := by
      rw [renderEntries_eq_map, List.map_map, members, Replacer.order, List.filter_map]
      have shown : (entries.filter fun entry => entry.1 ≠ js "__proto__").map
            (fun entry => (entry.1,
              (Except.ok (some (stateText runtime entry.2)) : Except JsError (Option JsString)))) =
          (orderedEntries (writtenEntries entries)).map fun entry =>
            (entry.1, .ok (some (render runtime.numbers entry.2))) := by
        rw [orderedEntries_eq_map, writtenEntries_eq_map, List.map_map, List.map_map]
        rfl
      change objectOrder (sortEntries ((entries.filter fun entry => entry.1 ≠ js "__proto__").map
        (fun entry => (entry.1,
          (Except.ok (some (stateText runtime entry.2)) : Except JsError (Option JsString)))))) = _
      rw [shown, ← sortEntries_map, ← objectOrder_map]
      rfl
    rw [stringify, inOrder, textMembers_map]
    rfl

theorem hashState_parsed {value : JsValue} (parsed : IsParsed value) :
    hashState runtime hostJson value = .ok (sha256Hex runtime (stateText runtime value)) := by
  have text := stringify_parsed runtime hostJson parsed
  cases parsed <;> rw [hashState, text] <;> first
    | rfl
    | exact fun isUndefined => by cases isUndefined

end Text

/-! ### What the text shows -/

theorem keys_ordered (entries : List (JsString × JsValue)) :
    (objectOrder (sortEntries (orderedEntries entries))).Perm (orderedEntries entries) :=
  (perm_objectOrder _).trans (perm_sortEntries _)

theorem isJson_ordered (shaped : value.isJson = true) : (ordered value).isJson = true := by
  induction value, shaped using jsonInduction with
  | null => rfl
  | bool value => rfl
  | number value finite => exact finite
  | string value => rfl
  | array items shaped ih =>
    rw [ordered, isJson_array_iff, orderedItems_eq_map]
    intro item member
    rcases List.mem_map.mp member with ⟨before, inItems, rfl⟩
    exact (ih before inItems).snd
  | object entries shaped distinct ih =>
    rw [ordered, isJson_object_iff]
    have permuted := keys_ordered entries
    constructor
    · intro entry member
      have inOrdered := permuted.mem_iff.mp member
      rw [orderedEntries_eq_map] at inOrdered
      rcases List.mem_map.mp inOrdered with ⟨before, inEntries, rfl⟩
      exact (ih before inEntries).snd
    · rw [(permuted.map Prod.fst).nodup_iff, orderedEntries_eq_map, map_fst_map]
      exact distinct

theorem normalForm_ordered (shaped : value.isJson = true) :
    normalForm (ordered value) = normalForm value := by
  induction value, shaped using jsonInduction with
  | null => rfl
  | bool value => rfl
  | number value finite => rfl
  | string value => rfl
  | array items shaped ih =>
    rw [ordered, normalForm, normalForm, normalItems_eq_map, normalItems_eq_map,
      orderedItems_eq_map, List.map_map]
    congr 1
    apply List.map_congr_left
    intro item member
    exact (ih item member).snd
  | object entries shaped distinct ih =>
    have sameMembers : normalEntries (orderedEntries entries) = normalEntries entries := by
      rw [normalEntries_eq_map, orderedEntries_eq_map, normalEntries_eq_map, List.map_map]
      apply List.map_congr_left
      intro entry member
      exact congrArg (Prod.mk entry.1) (ih entry member).snd
    have permuted : (normalEntries (objectOrder (sortEntries (orderedEntries entries)))).Perm
        (normalEntries entries) := by
      rw [← sameMembers, normalEntries_eq_map, normalEntries_eq_map]
      exact (keys_ordered _).map _
    have once : ((normalEntries entries).map Prod.fst).Nodup := by
      rw [keys_normalEntries]
      exact distinct
    rw [ordered, normalForm, normalForm,
      sortEntries_eq_of_perm ((permuted.map Prod.fst).nodup_iff.mpr once) permuted]

theorem ordered_normalForm (shaped : value.isJson = true) :
    ordered (normalForm value) = ordered value := by
  induction value, shaped using jsonInduction with
  | null => rfl
  | bool value => rfl
  | number value finite => rfl
  | string value => rfl
  | array items shaped ih =>
    rw [normalForm, ordered, ordered, orderedItems_eq_map, orderedItems_eq_map,
      normalItems_eq_map, List.map_map]
    congr 1
    apply List.map_congr_left
    intro item member
    exact (ih item member).snd
  | object entries shaped distinct ih =>
    have sameMembers : orderedEntries (normalEntries entries) = orderedEntries entries := by
      rw [orderedEntries_eq_map, normalEntries_eq_map, orderedEntries_eq_map, List.map_map]
      apply List.map_congr_left
      intro entry member
      exact congrArg (Prod.mk entry.1) (ih entry member).snd
    have permuted : (orderedEntries (sortEntries (normalEntries entries))).Perm
        (orderedEntries entries) := by
      rw [← sameMembers, orderedEntries_eq_map, orderedEntries_eq_map]
      exact (perm_sortEntries _).map _
    have once : ((orderedEntries entries).map Prod.fst).Nodup := by
      rw [orderedEntries_eq_map, map_fst_map]
      exact distinct
    rw [normalForm, ordered, ordered,
      sortEntries_eq_of_perm ((permuted.map Prod.fst).nodup_iff.mpr once) permuted]

/-- Two JSON-shaped values are written alike in order exactly when they are equal up to key
order. -/
theorem render_ordered_eq_iff (numbers : NumberText) {left right : JsValue}
    (leftShaped : left.isJson = true) (rightShaped : right.isJson = true) :
    render numbers (ordered left) = render numbers (ordered right) ↔
      SameUpToKeyOrder left right := by
  rw [same_iff_normalForm_eq leftShaped rightShaped]
  constructor
  · intro sameText
    have parses := parse_render numbers (isJson_ordered leftShaped)
    rw [sameText, parse_render numbers (isJson_ordered rightShaped)] at parses
    rw [← normalForm_ordered leftShaped, ← Option.some.inj parses, normalForm_ordered rightShaped]
  · intro sameForm
    rw [← ordered_normalForm leftShaped, sameForm, ordered_normalForm rightShaped]

mutual

theorem same_written : ∀ {left right : JsValue}, SameUpToKeyOrder left right →
    SameUpToKeyOrder (written left) (written right)
  | _, _, .null => .null
  | _, _, .bool value => .bool value
  | _, _, .number value => by
    rw [written]
    split
    next => exact .number value
    next => exact .null
  | _, _, .string value => .string value
  | .array _, .array _, .array items => .array (sameItems_written items)
  | .object _, .object right, @SameUpToKeyOrder.object _ reordered _ entries permuted => by
    refine .object (sameEntries_written entries) ?_
    rw [writtenEntries_eq_map, writtenEntries_eq_map]
    exact (permuted.filter _).map _

theorem sameItems_written : ∀ {left right : List JsValue}, SameItems left right →
    SameItems (writtenItems left) (writtenItems right)
  | _, _, .nil => .nil
  | _, _, .cons here later => .cons (same_written here) (sameItems_written later)

theorem sameEntries_written : ∀ {left right : List (JsString × JsValue)},
    SameEntries left right → SameEntries (writtenEntries left) (writtenEntries right)
  | _, _, .nil => .nil
  | _, _, @SameEntries.cons key _ _ _ _ here later => by
    rw [writtenEntries, writtenEntries]
    by_cases isProto : key = js "__proto__"
    · rw [if_pos isProto, if_pos isProto]
      exact sameEntries_written later
    · rw [if_neg isProto, if_neg isProto]
      exact .cons (same_written here) (sameEntries_written later)

end

section Identity

variable (runtime : Runtime) (hostJson : HostJson) {left right : JsValue}

theorem stateText_eq_iff (leftParsed : IsParsed left) (rightParsed : IsParsed right) :
    stateText runtime left = stateText runtime right ↔
      SameUpToKeyOrder (written left) (written right) :=
  render_ordered_eq_iff runtime.numbers (isJson_written leftParsed) (isJson_written rightParsed)

theorem digest_stateText_eq_iff (leftParsed : IsParsed left) (rightParsed : IsParsed right)
    (clean : runtime.sha256.BytesCollisionFreeOn
      [stateText runtime left, stateText runtime right]) :
    sha256Hex runtime (stateText runtime left) = sha256Hex runtime (stateText runtime right) ↔
      SameUpToKeyOrder (written left) (written right) := by
  rw [← stateText_eq_iff runtime leftParsed rightParsed]
  constructor
  · intro sameDigest
    have sameBytes := clean _ (.head _) _ (.tail _ (.head _)) sameDigest
    exact utf8_injective (isWellFormed_render runtime.numbers _)
      (isWellFormed_render runtime.numbers _) sameBytes
  · exact congrArg (sha256Hex runtime)

/-- Equal hashes mean equal written values, unless the texts collide. -/
theorem hashState_eq_iff (leftParsed : IsParsed left) (rightParsed : IsParsed right)
    (clean : runtime.sha256.BytesCollisionFreeOn
      [stateText runtime left, stateText runtime right]) :
    hashState runtime hostJson left = hashState runtime hostJson right ↔
      SameUpToKeyOrder (written left) (written right) := by
  rw [hashState_parsed runtime hostJson leftParsed, hashState_parsed runtime hostJson rightParsed,
    Except.ok.injEq, digest_stateText_eq_iff runtime leftParsed rightParsed clean]

/-- The digests tell two values apart, and a mutation from one to the other is seen as drift, as
far as they differ beyond key order. -/
structure IdentifiesChange (left right : JsValue) : Prop where
  digest : hashState runtime hostJson left = hashState runtime hostJson right ↔
    SameUpToKeyOrder left right
  drift : ∀ (ledger : WorldLedger) (key : JsString),
    driftConflicts (mutate runtime hostJson ledger key right).2
        (InsertionMap.empty.set key ((mutate runtime hostJson ledger key left).2.stateHash key)) =
      [] ↔ SameUpToKeyOrder left right

theorem driftConflicts_mutate (leftParsed : IsParsed left) (rightParsed : IsParsed right)
    (ledger : WorldLedger) (key : JsString) :
    driftConflicts (mutate runtime hostJson ledger key right).2
        (InsertionMap.empty.set key ((mutate runtime hostJson ledger key left).2.stateHash key)) =
      [] ↔ hashState runtime hostJson left = hashState runtime hostJson right := by
  have snapshot (digest : JsString) :
      ((InsertionMap.empty : InsertionMap JsString JsString).set key digest).entries =
        [(key, digest)] :=
    InsertionMap.entries_set_of_none (InsertionMap.get?_empty key) digest
  have isLeft := hashState_parsed runtime hostJson leftParsed
  have isRight := hashState_parsed runtime hostJson rightParsed
  have afterMutation (digest : JsString) (value : JsValue) :
      (ledger.set key value digest).stateHash key = digest := by
    simp only [WorldLedger.stateHash, WorldLedger.set, Function.update_self, Option.getD_some]
  rw [driftConflicts, snapshot, mutate, mutate, isLeft, isRight, Except.ok.injEq]
  simp only [afterMutation, List.map_eq_nil_iff, List.filter_eq_nil_iff, List.forall_mem_singleton,
    decide_eq_true_eq, ne_eq, not_not]
  exact eq_comm

/-- **Drift hashes.** Without a collision of the two texts, the digests of two parsed values identify
them up to key order exactly when the two do not differ only in what the text does not show. -/
theorem identifiesChange_iff (leftParsed : IsParsed left) (rightParsed : IsParsed right)
    (clean : runtime.sha256.BytesCollisionFreeOn
      [stateText runtime left, stateText runtime right]) :
    IdentifiesChange runtime hostJson left right ↔
      (SameUpToKeyOrder (written left) (written right) → SameUpToKeyOrder left right) := by
  have digest := hashState_eq_iff runtime hostJson leftParsed rightParsed clean
  constructor
  · intro identifies shown
    exact identifies.digest.mp (digest.mpr shown)
  · intro shows
    have same : SameUpToKeyOrder (written left) (written right) ↔ SameUpToKeyOrder left right :=
      ⟨shows, same_written⟩
    constructor
    · exact digest.trans same
    · intro ledger key
      rw [driftConflicts_mutate runtime hostJson leftParsed rightParsed]
      exact digest.trans same

end Identity

namespace DriftSample

def one : JsValue := .object [(js "b", .number (.ofNat 1))]

def two : JsValue := .object [(js "b", .number (.ofNat 2))]

def proto : JsValue := .object [(js "__proto__", .number (.ofNat 1))]

def runtime : Runtime where
  sha256 := fips180
  numbers := decimalText
  dates := ⟨fun _ => .nan⟩
  verifySignature := fun _ _ _ => .ok false

def hostJson : HostJson := fun _ => .ok (some (js "{}"))

theorem isParsed_member (key : JsString) (value : Nat) :
    IsParsed (.object [(key, .number (.ofNat value))]) := by
  refine .object ?_ (List.nodup_singleton key)
  intro entry member
  rw [List.mem_singleton.mp member]
  exact .number nofun

theorem one_identified : IdentifiesChange runtime hostJson one two := by
  have clean : runtime.sha256.BytesCollisionFreeOn
      [stateText runtime one, stateText runtime two] := by
    have different : runtime.sha256.sha256Hex (stateText runtime one) ≠
        runtime.sha256.sha256Hex (stateText runtime two) := by
      decide +kernel
    exact .of_ne different
  refine (identifiesChange_iff runtime hostJson (isParsed_member _ _) (isParsed_member _ _)
    clean).mpr ?_
  intro same
  exact same

/-- A member named `__proto__` is not seen. -/
theorem proto_unseen :
    ¬ ∀ left right : JsValue, IsParsed left → IsParsed right →
      runtime.sha256.BytesCollisionFreeOn [stateText runtime left, stateText runtime right] →
        IdentifiesChange runtime hostJson left right := by
  intro identifies
  have sameText : stateText runtime proto = stateText runtime (.object []) := by decide +kernel
  have isEmpty : IsParsed (.object []) := .object (List.forall_mem_nil _) List.nodup_nil
  have clean : runtime.sha256.BytesCollisionFreeOn
      [stateText runtime proto, stateText runtime (.object [])] := .of_eq sameText
  have identified := identifies proto (.object []) (isParsed_member _ _) isEmpty clean
  have isProto : IsParsed proto := isParsed_member _ _
  have sameDigest : hashState runtime hostJson proto = hashState runtime hostJson (.object []) := by
    rw [hashState_parsed runtime hostJson isProto, hashState_parsed runtime hostJson isEmpty,
      sameText]
  cases identified.digest.mp sameDigest with
  | object entries permuted =>
    rw [List.perm_nil.mp permuted] at entries
    cases entries

end DriftSample

end GhostArk.ResearchFrontier.Occ
