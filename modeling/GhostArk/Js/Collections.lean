import Mathlib.Data.List.Lex
import Mathlib.Data.List.Sort
import GhostArk.Js.Decimal
import GhostArk.Js.Value

/-!
Contract: arrays, sets of texts, and what object literals inherit.

Owns array methods whose callbacks may throw, the values of a `Set` of texts,
the default sort of texts, and the names that `in` and a property read find on
every object literal through `Object.prototype`.
-/

namespace GhostArk.Js

/-! ### Callbacks that may throw -/

theorem exists_map_eq_ok {α β : Type} {outcome : Except JsError α} {change : α → β} :
    (∃ result, outcome.map change = .ok result) ↔ ∃ value, outcome = .ok value := by
  cases outcome <;> simp [Except.map]

section Callbacks

variable {V W : Type}

variable {values : List V}

variable {callback : V → Except JsError W}

theorem mapM_eq_ok_iff {results : List W} :
    values.mapM callback = .ok results ↔
      List.Forall₂ (fun value result => callback value = .ok result) values results := by
  induction values generalizing results with
  | nil =>
    rw [List.mapM_nil, pure_eq_ok, List.forall₂_nil_left_iff]
    exact eq_comm
  | cons first rest ih =>
    rw [List.mapM_cons, List.forall₂_cons_left_iff]
    simp only [bind_eq_ok, pure_eq_ok, ih]
    constructor
    · rintro ⟨result, called, others, mapped, rfl⟩
      exact ⟨result, others, called, mapped, rfl⟩
    · rintro ⟨result, others, called, mapped, rfl⟩
      exact ⟨result, called, others, mapped, rfl⟩

theorem exists_right_of_forall₂ {relation : V → W → Prop} {left : List V} {right : List W}
    (pairwise : List.Forall₂ relation left right) {value : V} (member : value ∈ left) :
    ∃ other ∈ right, relation value other := by
  induction pairwise with
  | nil => exact absurd member List.not_mem_nil
  | @cons first second _ _ related _ ih =>
    rcases List.mem_cons.mp member with rfl | later
    · exact ⟨second, List.mem_cons_self, related⟩
    · rcases ih later with ⟨other, inRight, laterRelated⟩
      exact ⟨other, List.mem_cons_of_mem _ inRight, laterRelated⟩

theorem mem_of_mapM {results : List W} (returned : values.mapM callback = .ok results) :
    (∀ result ∈ results, ∃ value ∈ values, callback value = .ok result) ∧
      ∀ value ∈ values, ∃ result ∈ results, callback value = .ok result := by
  have pairwise := mapM_eq_ok_iff.mp returned
  exact ⟨fun _ => exists_right_of_forall₂ pairwise.flip, fun _ => exists_right_of_forall₂ pairwise⟩

theorem exists_mapM_iff :
    (∃ results, values.mapM callback = .ok results) ↔
      ∀ value ∈ values, ∃ result, callback value = .ok result := by
  simp only [mapM_eq_ok_iff]
  induction values with
  | nil => exact iff_of_true ⟨[], .nil⟩ (List.forall_mem_nil _)
  | cons first rest ih =>
    rw [List.forall_mem_cons, ← ih]
    constructor
    · rintro ⟨_, _ | ⟨called, mapped⟩⟩
      exact ⟨⟨_, called⟩, _, mapped⟩
    · rintro ⟨⟨result, called⟩, others, mapped⟩
      exact ⟨result :: others, .cons called mapped⟩

theorem throw_if_eq_ok {fires : Prop} [Decidable fires] {error : JsError} :
    (if fires then throw error else pure () : Except JsError Unit) = .ok () ↔ ¬ fires := by
  split
  next fired => exact iff_of_false throw_ne_ok (not_not_intro fired)
  next quiet => exact iff_of_true rfl quiet

theorem forM_eq_ok_iff {check : V → Except JsError Unit} :
    values.forM check = .ok () ↔ ∀ value ∈ values, check value = .ok () := by
  induction values with
  | nil => exact iff_of_true rfl (List.forall_mem_nil _)
  | cons first rest ih =>
    change (check first >>= fun _ => rest.forM check) = _ ↔ _
    rw [bind_eq_ok, List.forall_mem_cons, ← ih]
    exact ⟨fun ⟨_, called, later⟩ => ⟨called, later⟩, fun both => ⟨(), both.1, both.2⟩⟩

/-- `values.filter(callback)`. -/
def filterChecked (callback : V → Except JsError Bool) : List V → Except JsError (List V)
  | [] => .ok []
  | value :: rest => do
    let keeps ← callback value
    let kept ← filterChecked callback rest
    return if keeps then value :: kept else kept

theorem filterChecked_eq_ok {callback : V → Except JsError Bool} {values kept : List V}
    (returned : filterChecked callback values = .ok kept) (value : V) :
    value ∈ kept ↔ value ∈ values ∧ callback value = .ok true := by
  induction values generalizing kept with
  | nil =>
    cases returned
    simp
  | cons first rest ih =>
    rw [filterChecked] at returned
    rcases bind_eq_ok.mp returned with ⟨keeps, called, later⟩
    rcases bind_eq_ok.mp later with ⟨others, filtered, done⟩
    obtain rfl := pure_eq_ok.mp done
    have found := ih filtered
    cases keeps with
    | true =>
      simp only [if_true, List.mem_cons, found]
      constructor
      · rintro (rfl | ⟨member, kept⟩)
        · exact ⟨Or.inl rfl, called⟩
        · exact ⟨Or.inr member, kept⟩
      · rintro ⟨rfl | member, kept⟩
        · exact Or.inl rfl
        · exact Or.inr ⟨member, kept⟩
    | false =>
      rw [if_neg Bool.false_ne_true, found, List.mem_cons]
      constructor
      · exact fun both => ⟨Or.inr both.1, both.2⟩
      · rintro ⟨rfl | member, kept⟩
        · rw [called] at kept
          cases kept
        · exact ⟨member, kept⟩

theorem exists_filterChecked_iff {callback : V → Except JsError Bool} :
    (∃ kept, filterChecked callback values = .ok kept) ↔
      ∀ value ∈ values, ∃ keeps, callback value = .ok keeps := by
  induction values with
  | nil => simp [filterChecked]
  | cons first rest ih =>
    rw [List.forall_mem_cons, ← ih]
    constructor
    · rintro ⟨kept, returned⟩
      rw [filterChecked] at returned
      rcases bind_eq_ok.mp returned with ⟨keeps, called, later⟩
      rcases bind_eq_ok.mp later with ⟨others, filtered, -⟩
      exact ⟨⟨keeps, called⟩, others, filtered⟩
    · rintro ⟨⟨keeps, called⟩, others, filtered⟩
      refine ⟨if keeps then first :: others else others, ?_⟩
      rw [filterChecked, called, ok_bind, filtered, ok_bind]
      rfl

end Callbacks

/-! ### Arrays with holes -/

def isHole : JsValue → Bool
  | .hole => true
  | _ => false

def presentItems (items : List JsValue) : List JsValue := items.filter fun item => !isHole item

section Visits

variable {W : Type}

/-- `items.forEach(callback)`, with what the callback finds in each element. -/
def forEachItem (callback : JsValue → Nat → Except JsError W) : Nat → List JsValue →
    Except JsError (List W)
  | _, [] => .ok []
  | index, item :: rest =>
    if isHole item then forEachItem callback (index + 1) rest
    else do
      let found ← callback item index
      let others ← forEachItem callback (index + 1) rest
      return found :: others

variable {callback : JsValue → Nat → Except JsError W} {items : List JsValue}

theorem forall₂_of_forEachItem {index : Nat} {found : List W}
    (returned : forEachItem callback index items = .ok found) :
    List.Forall₂ (fun item result => ∃ position, callback item position = .ok result)
      (presentItems items) found := by
  induction items generalizing index found with
  | nil =>
    cases returned
    exact .nil
  | cons first rest ih =>
    rw [forEachItem] at returned
    cases skipped : isHole first with
    | true =>
      rw [if_pos skipped] at returned
      rw [presentItems, List.filter_cons_of_neg (by simp [skipped])]
      exact ih returned
    | false =>
      rw [if_neg (by simp [skipped])] at returned
      rcases bind_eq_ok.mp returned with ⟨result, called, later⟩
      rcases bind_eq_ok.mp later with ⟨others, visited, done⟩
      obtain rfl := pure_eq_ok.mp done
      rw [presentItems, List.filter_cons_of_pos (by simp [skipped])]
      exact .cons ⟨index, called⟩ (ih visited)

theorem exists_of_forEachItem {index : Nat} {found : List W}
    (returned : forEachItem callback index items = .ok found) {item : JsValue}
    (member : item ∈ presentItems items) :
    ∃ position, ∃ result ∈ found, callback item position = .ok result := by
  rcases exists_right_of_forall₂ (forall₂_of_forEachItem returned) member with
    ⟨result, inFound, position, isResult⟩
  exact ⟨position, result, inFound, isResult⟩

theorem exists_forEachItem {index : Nat}
    (returns : ∀ item ∈ presentItems items, ∀ position,
      ∃ result, callback item position = .ok result) :
    ∃ found, forEachItem callback index items = .ok found := by
  induction items generalizing index with
  | nil => exact ⟨[], rfl⟩
  | cons first rest ih =>
    rw [forEachItem]
    cases skipped : isHole first with
    | true =>
      rw [presentItems, List.filter_cons_of_neg (by simp [skipped])] at returns
      rw [if_pos rfl]
      exact ih returns
    | false =>
      rw [presentItems, List.filter_cons_of_pos (by simp [skipped]), List.forall_mem_cons]
        at returns
      rcases returns.1 index with ⟨result, called⟩
      rcases @ih (index + 1) returns.2 with ⟨others, visited⟩
      refine ⟨result :: others, ?_⟩
      rw [if_neg Bool.false_ne_true, called, ok_bind, visited]
      rfl

theorem exists_item_of_forEachItem {index : Nat} {found : List W}
    (returned : forEachItem callback index items = .ok found) {result : W}
    (member : result ∈ found) :
    ∃ item ∈ presentItems items, ∃ position, callback item position = .ok result :=
  exists_right_of_forall₂ (forall₂_of_forEachItem returned).flip member

end Visits

/-- `[...new Set(texts)]`: the first occurrence of each text. -/
def distinct (texts : List JsString) : List JsString := texts.eraseDups

def sortTexts (texts : List JsString) : List JsString := texts.insertionSort (· ≤ ·)

@[simp] theorem mem_sortTexts_distinct {texts : List JsString} {text : JsString} :
    text ∈ sortTexts (distinct texts) ↔ text ∈ texts := by
  rw [sortTexts, (List.perm_insertionSort _ _).mem_iff, distinct, List.mem_eraseDups]

theorem sortTexts_congr {left right : List JsString} (perm : left.Perm right) :
    sortTexts left = sortTexts right := by
  have sorted (texts : List JsString) : (sortTexts texts).Pairwise (· ≤ ·) :=
    List.pairwise_insertionSort _ texts
  apply List.Perm.eq_of_pairwise' (sorted left) (sorted right)
  exact (List.perm_insertionSort _ left).trans (perm.trans (List.perm_insertionSort _ right).symm)

/-! ### Object literals -/

def arrayIndex? (key : JsString) : Option Nat :=
  let index := Decimal.natOfText key
  if Decimal.natText index = key ∧ index < 2 ^ 32 - 1 then some index else none

def isArrayIndex (key : JsString) : Bool := (arrayIndex? key).isSome

def indexLe {V : Type} (left right : JsString × V) : Prop :=
  (arrayIndex? left.1).getD 0 ≤ (arrayIndex? right.1).getD 0

instance instDecidableRelIndexLe {V : Type} : DecidableRel (@indexLe V) :=
  fun left right =>
    inferInstanceAs (Decidable ((arrayIndex? left.1).getD 0 ≤ (arrayIndex? right.1).getD 0))

/-- `Object.entries(object)` of members given in the order they were added: array indices come
first, in ascending order. -/
def objectOrder {V : Type} (members : List (JsString × V)) : List (JsString × V) :=
  (members.filter fun member => isArrayIndex member.1).insertionSort indexLe ++
    members.filter fun member => !isArrayIndex member.1

theorem perm_objectOrder {V : Type} (members : List (JsString × V)) :
    (objectOrder members).Perm members :=
  ((List.perm_insertionSort indexLe _).append_right _).trans
    (List.filter_append_perm (fun member => isArrayIndex member.1) members)

theorem mem_objectOrder {V : Type} {members : List (JsString × V)} {member : JsString × V} :
    member ∈ objectOrder members ↔ member ∈ members := (perm_objectOrder members).mem_iff

theorem objectOrder_map {V W : Type} (change : JsString × V → W) (entries : List (JsString × V)) :
    (objectOrder entries).map (fun entry => (entry.1, change entry)) =
      objectOrder (entries.map fun entry => (entry.1, change entry)) := by
  have sorted (members : List (JsString × V)) :
      (members.insertionSort indexLe).map (fun entry => (entry.1, change entry)) =
        (members.map fun entry => (entry.1, change entry)).insertionSort indexLe := by
    apply List.map_insertionSort
    intro left _ right _
    exact Iff.rfl
  rw [objectOrder, objectOrder, List.map_append, sorted, List.filter_map, List.filter_map]
  rfl

/-- The names of `Object.prototype`, which `in` finds on every object literal. -/
def objectPrototypeKeys : List JsString :=
  [js "constructor", js "__defineGetter__", js "__defineSetter__", js "hasOwnProperty",
    js "__lookupGetter__", js "__lookupSetter__", js "isPrototypeOf", js "propertyIsEnumerable",
    js "toString", js "valueOf", js "__proto__", js "toLocaleString"]

/-- The value that an object literal inherits under one of the names: methods, and the
prototype itself. -/
def inheritedValue (name : JsString) : JsValue :=
  if name = js "__proto__" then .object []
  else if name ∈ objectPrototypeKeys then .host .function
  else .undefined

/-- `key in object`, for an object literal. -/
def hasProperty (entries : List (JsString × JsValue)) (key : JsString) : Bool :=
  (entries.map Prod.fst).contains key || objectPrototypeKeys.contains key

/-- `object[key]`, for an object literal. -/
def readProperty (entries : List (JsString × JsValue)) (key : JsString) : JsValue :=
  match entries.find? fun entry => entry.1 = key with
  | some entry => entry.2
  | none => inheritedValue key

variable {entries : List (JsString × JsValue)}

theorem hasProperty_iff {key : JsString} :
    hasProperty entries key = true ↔ key ∈ entries.map Prod.fst ∨ key ∈ objectPrototypeKeys := by
  rw [hasProperty, Bool.or_eq_true, List.contains_iff_mem, List.contains_iff_mem]

theorem readProperty_own {key : JsString} (own : key ∈ entries.map Prod.fst) :
    (key, readProperty entries key) ∈ entries := by
  rw [readProperty]
  cases found : entries.find? fun entry => entry.1 = key with
  | none =>
    rcases List.mem_map.mp own with ⟨entry, member, isKey⟩
    exact absurd (decide_eq_true isKey) (List.find?_eq_none.mp found entry member)
  | some entry =>
    have isKey : entry.1 = key := by simpa using List.find?_some found
    rw [← isKey]
    exact List.mem_of_find?_eq_some found

theorem readProperty_inherited {key : JsString} (foreign : key ∉ entries.map Prod.fst) :
    readProperty entries key = inheritedValue key := by
  have absent : (entries.find? fun entry => entry.1 = key) = none := by
    rw [List.find?_eq_none]
    intro entry member isKey
    exact foreign (List.mem_map.mpr ⟨entry, member, of_decide_eq_true isKey⟩)
  rw [readProperty, absent]

/-- The primitive that comparison and arithmetic take from an inherited value. -/
def inheritedText (name : JsString) : JsString :=
  if name = js "__proto__" then js "[object Object]"
  else
    let methodName := if name = js "constructor" then js "Object" else name
    js "function " ++ methodName ++ js "() \x7b [native code] \x7d"

end GhostArk.Js
