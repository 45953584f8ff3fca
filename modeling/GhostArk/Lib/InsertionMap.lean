import Mathlib.Data.List.Basic
import Mathlib.Data.List.Find
import Mathlib.Data.List.Nodup

/-!
Contract: finite maps that remember the order of first insertion.

Owns lookup, update in place, removal, values under their own keys, and their laws.
Keys are distinct by construction: updating a present key keeps its place, a new
key goes to the end.
-/

namespace GhostArk.Lib

universe u v

structure InsertionMap (K : Type u) (V : Type v) where
  entries : List (K × V)
  nodup : (entries.map Prod.fst).Nodup

namespace InsertionMap

variable {K : Type u} {V : Type v}

def empty : InsertionMap K V := ⟨[], List.nodup_nil⟩

def values (map : InsertionMap K V) : List V := map.entries.map Prod.snd

variable [DecidableEq K]

def get? (map : InsertionMap K V) (key : K) : Option V :=
  (map.entries.find? fun entry => entry.1 = key).map Prod.snd

def replace (entries : List (K × V)) (key : K) (value : V) : List (K × V) :=
  entries.map fun entry => if entry.1 = key then (key, value) else entry

theorem keys_replace (entries : List (K × V)) (key : K) (value : V) :
    (replace entries key value).map Prod.fst = entries.map Prod.fst := by
  rw [replace, List.map_map]
  apply List.map_congr_left
  intro entry _
  simp only [Function.comp_apply]
  split
  · simp [*]
  · rfl

def set (map : InsertionMap K V) (key : K) (value : V) : InsertionMap K V :=
  if present : key ∈ map.entries.map Prod.fst then
    ⟨replace map.entries key value, by
      rw [keys_replace]
      exact map.nodup⟩
  else
    ⟨map.entries ++ [(key, value)], by
      rw [List.map_append, List.map_singleton, List.nodup_append]
      refine ⟨map.nodup, List.nodup_singleton key, ?_⟩
      intro other member key' inSingleton
      obtain rfl := List.mem_singleton.mp inSingleton
      intro same
      exact present (same ▸ member)⟩

variable {map : InsertionMap K V} {key : K}

variable {value : V}

theorem get?_eq_some_iff : map.get? key = some value ↔ (key, value) ∈ map.entries := by
  have distinct := map.nodup
  unfold get?
  generalize map.entries = entries at distinct ⊢
  induction entries with
  | nil => simp
  | cons entry rest ih =>
    rw [List.map_cons, List.nodup_cons] at distinct
    obtain ⟨otherKey, otherValue⟩ := entry
    by_cases same : otherKey = key
    · subst same
      have absent : (otherKey, value) ∉ rest := by
        intro member
        exact distinct.1 (List.mem_map.mpr ⟨_, member, rfl⟩)
      simp [absent, eq_comm]
    · have different : key ≠ otherKey := fun equal => same equal.symm
      simp only [List.find?_cons, same, decide_false, List.mem_cons, Prod.mk.injEq, different,
        false_and, false_or]
      exact ih distinct.2

theorem get?_eq_none_iff : map.get? key = none ↔ key ∉ map.entries.map Prod.fst := by
  unfold get?
  rw [Option.map_eq_none_iff, List.find?_eq_none]
  simp only [decide_eq_true_eq, List.mem_map, not_exists, not_and]

/-- Maps that agree on all keys hold the same entries. -/
theorem get?_eq_iff_perm {other : InsertionMap K V} :
    (∀ key, map.get? key = other.get? key) ↔ map.entries.Perm other.entries := by
  constructor
  · intro same
    rw [List.perm_ext_iff_of_nodup map.nodup.of_map other.nodup.of_map]
    rintro ⟨key, value⟩
    rw [← get?_eq_some_iff, ← get?_eq_some_iff, same]
  · intro permuted key
    apply Option.ext
    intro value
    rw [get?_eq_some_iff, get?_eq_some_iff, permuted.mem_iff]

@[simp] theorem get?_empty (key : K) : (empty : InsertionMap K V).get? key = none := rfl

/-! ### Update -/

theorem entries_set_of_none (absent : map.get? key = none) (value : V) :
    (map.set key value).entries = map.entries ++ [(key, value)] := by
  unfold set
  rw [dif_neg (get?_eq_none_iff.mp absent)]

theorem mem_set {key otherKey : K} {value otherValue : V} :
    (otherKey, otherValue) ∈ (map.set key value).entries ↔
      otherKey = key ∧ otherValue = value ∨
        otherKey ≠ key ∧ (otherKey, otherValue) ∈ map.entries := by
  unfold set
  split
  next present =>
    simp only [replace, List.mem_map, Prod.exists]
    constructor
    · rintro ⟨oldKey, oldValue, member, replaced⟩
      by_cases same : oldKey = key
      · rw [if_pos same, Prod.mk.injEq] at replaced
        exact Or.inl ⟨replaced.1.symm, replaced.2.symm⟩
      · rw [if_neg same, Prod.mk.injEq] at replaced
        refine Or.inr ⟨replaced.1 ▸ same, ?_⟩
        rw [← replaced.1, ← replaced.2]
        exact member
    · rintro (⟨rfl, rfl⟩ | ⟨different, member⟩)
      · obtain ⟨⟨oldKey, oldValue⟩, member, rfl⟩ := List.mem_map.mp present
        exact ⟨oldKey, oldValue, member, if_pos rfl⟩
      · exact ⟨otherKey, otherValue, member, if_neg different⟩
  next absent =>
    rw [List.mem_append, List.mem_singleton, Prod.mk.injEq]
    constructor
    · rintro (member | added)
      · refine Or.inr ⟨?_, member⟩
        rintro rfl
        exact absent (List.mem_map_of_mem (f := Prod.fst) member)
      · exact Or.inl added
    · rintro (added | ⟨-, member⟩)
      · exact Or.inr added
      · exact Or.inl member

theorem mem_values_of_get? (found : map.get? key = some value) : value ∈ map.values :=
  List.mem_map.mpr ⟨_, get?_eq_some_iff.mp found, rfl⟩

theorem get?_set (map : InsertionMap K V) (key other : K) (value : V) :
    (map.set key value).get? other = if other = key then some value else map.get? other := by
  apply Option.ext
  intro found
  rw [get?_eq_some_iff, mem_set]
  by_cases same : other = key
  · simp [same, eq_comm]
  · simp [same, get?_eq_some_iff]

@[simp] theorem get?_set_self (map : InsertionMap K V) (key : K) (value : V) :
    (map.set key value).get? key = some value := by
  simp [get?_set]

theorem get?_set_ne (map : InsertionMap K V) {key other : K} (different : other ≠ key) (value : V) :
    (map.set key value).get? other = map.get? other := by
  simp [get?_set, different]

def erase (map : InsertionMap K V) (key : K) : InsertionMap K V :=
  ⟨map.entries.filter fun entry => entry.1 ≠ key,
    map.nodup.sublist (List.filter_sublist.map Prod.fst)⟩

theorem mem_erase {key otherKey : K} :
    (otherKey, value) ∈ (map.erase key).entries ↔
      otherKey ≠ key ∧ (otherKey, value) ∈ map.entries := by
  rw [erase, List.mem_filter, decide_eq_true_eq, and_comm]

theorem get?_erase (map : InsertionMap K V) (key other : K) :
    (map.erase key).get? other = if other = key then none else map.get? other := by
  apply Option.ext
  intro found
  rw [get?_eq_some_iff, mem_erase]
  by_cases same : other = key
  · simp [same]
  · simp [same, get?_eq_some_iff]

theorem length_set_of_none (absent : map.get? key = none) (value : V) :
    (map.set key value).entries.length = map.entries.length + 1 := by
  rw [entries_set_of_none absent, List.length_append, List.length_singleton]

theorem entries_erase (map : InsertionMap K V) (key : K) :
    (map.erase key).entries = map.entries.filter fun entry => entry.1 ≠ key := rfl

theorem length_erase_of_none (absent : map.get? key = none) :
    (map.erase key).entries.length = map.entries.length := by
  rw [entries_erase, List.filter_eq_self.mpr]
  intro entry member
  rw [decide_eq_true_eq]
  intro same
  exact get?_eq_none_iff.mp absent (List.mem_map.mpr ⟨entry, member, same⟩)

theorem length_erase_of_some (found : map.get? key = some value) :
    (map.erase key).entries.length + 1 = map.entries.length := by
  have once : (map.entries.map Prod.fst).count key = 1 :=
    List.count_eq_one_of_mem map.nodup
      (List.mem_map.mpr ⟨_, get?_eq_some_iff.mp found, rfl⟩)
  have taken : map.entries.countP (fun entry => entry.1 = key) = 1 := by
    rw [← once, List.count, List.countP_map]
    apply List.countP_congr
    intro entry _
    simp only [Function.comp_apply, decide_eq_true_eq, beq_iff_eq]
  have kept : (map.erase key).entries.length =
      map.entries.countP fun entry => entry.1 ≠ key := by
    rw [entries_erase, List.countP_eq_length_filter]
  have split : map.entries.length = map.entries.countP (fun entry => entry.1 = key) +
      map.entries.countP fun entry => entry.1 ≠ key := by
    rw [List.length_eq_countP_add_countP fun entry : K × V => decide (entry.1 = key)]
    simp only [decide_eq_true_eq, ne_eq]
  omega

def overwrite (map written : InsertionMap K V) : InsertionMap K V :=
  written.entries.foldl (fun map entry => map.set entry.1 entry.2) map

theorem get?_foldl_set {entries : List (K × V)} (distinct : (entries.map Prod.fst).Nodup)
    (map : InsertionMap K V) (sought : K) :
    (entries.foldl (fun map entry => map.set entry.1 entry.2) map).get? sought =
      ((entries.find? fun entry => entry.1 = sought).map Prod.snd).or (map.get? sought) := by
  induction entries generalizing map with
  | nil => rfl
  | cons entry rest ih =>
    rw [List.map_cons, List.nodup_cons] at distinct
    rw [List.foldl_cons, ih distinct.2, List.find?_cons, get?_set]
    by_cases same : entry.1 = sought
    · have absent : (rest.find? fun entry => entry.1 = sought) = none := by
        rw [List.find?_eq_none]
        intro other member
        rw [decide_eq_true_eq]
        rintro rfl
        exact distinct.1 (same ▸ List.mem_map_of_mem member)
      rw [absent, if_pos same.symm, decide_eq_true same]
      rfl
    · rw [if_neg (Ne.symm same), decide_eq_false same]

theorem get?_overwrite (map written : InsertionMap K V) (sought : K) :
    (map.overwrite written).get? sought = (written.get? sought).or (map.get? sought) :=
  get?_foldl_set written.nodup map sought

section Collect

variable (key : V → K)

/-- Set every value under its own key; of values with one key the last is kept. -/
def setAll (map : InsertionMap K V) (values : List V) : InsertionMap K V :=
  values.foldl (fun map value => map.set (key value) value) map

def collect (values : List V) : InsertionMap K V := setAll key empty values

def KeyedBy (map : InsertionMap K V) : Prop := ∀ entry ∈ map.entries, key entry.2 = entry.1

variable {key}

variable {map : InsertionMap K V}

theorem KeyedBy.set (keyed : KeyedBy key map) (value : V) :
    KeyedBy key (map.set (key value) value) := by
  rintro ⟨otherKey, other⟩ member
  rcases mem_set.mp member with ⟨rfl, rfl⟩ | ⟨-, old⟩
  · rfl
  · exact keyed _ old

theorem KeyedBy.setAll (keyed : KeyedBy key map) (values : List V) :
    KeyedBy key (map.setAll key values) := by
  induction values generalizing map with
  | nil => exact keyed
  | cons value rest ih => exact ih (keyed.set value)

omit [DecidableEq K] in
theorem KeyedBy.map_values (keyed : KeyedBy key map) :
    map.values.map key = map.entries.map Prod.fst := by
  rw [values, List.map_map]
  exact List.map_congr_left keyed

theorem KeyedBy.find?_values (keyed : KeyedBy key map) (sought : K) :
    (map.values.find? fun value => key value = sought) = map.get? sought := by
  rw [values, List.find?_map, get?]
  apply congrArg
  apply List.find?_congr
  intro entry member
  rw [Function.comp_apply, keyed entry member]

theorem keyedBy_collect (values : List V) : KeyedBy key (collect key values) := by
  apply KeyedBy.setAll
  simp [KeyedBy, empty]

theorem nodup_collect (values : List V) : ((collect key values).values.map key).Nodup := by
  rw [(keyedBy_collect values).map_values]
  exact (collect key values).nodup

theorem values_setAll (keyed : KeyedBy key map) {values : List V}
    (distinct : ((map.values ++ values).map key).Nodup) :
    (map.setAll key values).values = map.values ++ values := by
  induction values generalizing map with
  | nil => exact (List.append_nil _).symm
  | cons value rest ih =>
    have absent : map.get? (key value) = none := by
      rw [get?_eq_none_iff, ← keyed.map_values]
      intro present
      rw [List.map_append, List.nodup_append] at distinct
      exact distinct.2.2 _ present _ (List.mem_map_of_mem List.mem_cons_self) rfl
    have appended : (map.set (key value) value).values = map.values ++ [value] := by
      rw [InsertionMap.values, entries_set_of_none absent, List.map_append]
      rfl
    change ((map.set (key value) value).setAll key rest).values = _
    rw [ih (keyed.set value), appended]
    · simp
    · rw [appended]
      simpa using distinct

theorem values_collect {values : List V} (distinct : (values.map key).Nodup) :
    (collect key values).values = values :=
  values_setAll (by simp [KeyedBy, empty]) distinct

theorem get?_setAll (map : InsertionMap K V) (values : List V) (sought : K) :
    (map.setAll key values).get? sought =
      (values.reverse.find? fun value => key value = sought).or (map.get? sought) := by
  induction values generalizing map with
  | nil => rfl
  | cons value rest ih =>
    have after := ih (map.set (key value) value)
    rw [get?_set] at after
    rw [List.reverse_cons, List.find?_append, Option.or_assoc]
    refine after.trans (congrArg _ ?_)
    by_cases same : key value = sought
    · rw [if_pos same.symm, List.find?_singleton, if_pos (decide_eq_true same), Option.some_or]
    · rw [if_neg (Ne.symm same), List.find?_singleton, if_neg (by simpa using same),
        Option.none_or]

theorem get?_collect (values : List V) (sought : K) :
    (collect key values).get? sought = values.reverse.find? fun value => key value = sought := by
  rw [collect, get?_setAll, get?_empty, Option.or_none]

end Collect

end InsertionMap

end GhostArk.Lib
