import GhostArk.Dab.DeclarationCommitment

/-!
Contract: the Declared Action Normal Form of `dab/agent-runtime/src/danf.ts`.

Owns `createDANF` with its error texts, clones that unfold to trees, the trees that a normalizer
accepts and the form that it gives them, and that the normalizer of
`dab/agent-runtime/src/commitment.ts` does so.

The clones, the limits, the forbidden keys and the serialization are those of the commitment: the
two files declare them alike.
-/

namespace GhostArk.Dab

open Js
open ReceiptSchema

section Normalization

variable {Raw : Type} (host : DeclarationHost Raw)

def normalizeUnicode (value path : JsString) : Except JsError JsString :=
  if host.normalize value ≠ value then
    .error (integrityCollisionError (js "Unicode ambiguity detected at " ++ path))
  else .ok value

def checkProperties (keys : List JsString) : Except JsError Unit :=
  match keys.find? fun key => decide (key ∈ FORBIDDEN_KEYS) with
  | none => .ok ()
  | some key => .error (integrityCollisionError (js "Forbidden property: " ++ key))

def unsupportedTypeError (path : JsString) : JsError :=
  integrityCollisionError (js "Unsupported runtime type at " ++ path)

/-- `normalizeValue(value, path, depth, seen)` where `levels` is `MAX_DEPTH + 1 - depth`, over the
plain objects that have been seen. -/
def normalizeValue (snapshot : Snapshot) : (levels : ℕ) → (path : JsString) →
    Cloned (Fin snapshot.size) →
      StateT (Finset (Fin snapshot.size)) (Except JsError) CanonicalValue
  | 0, path, _ =>
    throw (integrityCollisionError (js "Maximum nesting depth exceeded: " ++ path))
  | levels + 1, path, value =>
    match value with
    | .null => return .null
    | .bool value => return .bool value
    | .number value =>
      if value.safeInteger?.isNone then
        throw (integrityCollisionError (js "Unsafe numeric value: " ++ path))
      else return .number value
    | .string value => return .string (← normalizeUnicode host value path)
    | .undefined => throw (unsupportedTypeError path)
    | .bigint => throw (unsupportedTypeError path)
    | .object reference =>
      match snapshot.objects reference with
      | .array items _ => do
        let members ← items.zipIdx.mapM fun entry =>
          match entry.1 with
          | none => return .hole
          | some item =>
            normalizeValue snapshot levels
              (path ++ js "[" ++ Decimal.natText entry.2 ++ js "]") item
        return .array members
      | .plain entries => do
        let seen ← get
        if reference ∈ seen then
          throw (integrityCollisionError (js "Circular reference detected: " ++ path))
        set (insert reference seen)
        if MAX_KEYS < entries.length then
          throw (integrityCollisionError (js "Object exceeds key limit: " ++ path))
        checkProperties (entries.map Prod.fst)
        let members ← (sortEntries entries).mapM fun entry => do
          let member ← normalizeValue snapshot levels (path ++ js "." ++ entry.1) entry.2
          return (entry.1, member)
        return .object (objectOrder members)
      | .other _ _ => throw (unsupportedTypeError path)

structure Danf where
  normalized : CanonicalValue
  canonical : JsString

def serializeDANF (value : CanonicalValue) : JsString := canonicalSerialize host.numbers value

def createDANF (raw : Raw) : Except JsError Danf := do
  let snapshot ← host.structuredClone raw
  let outcome ← (normalizeValue host snapshot (MAX_DEPTH + 1) (js "$") snapshot.root).run ∅
  return ⟨outcome.1, serializeDANF host outcome.1⟩

end Normalization

/-- A value of a clone, the tree that it unfolds to, and the objects below it in the order that they
are visited in. -/
structure Unfolding (Ref : Type) where
  child : Cloned Ref
  value : JsValue
  footprint : List Ref

def elementValue {Ref : Type} : Option (Unfolding Ref) → JsValue
  | none => .hole
  | some tree => tree.value

def elementFootprint {Ref : Type} : Option (Unfolding Ref) → List Ref
  | none => []
  | some tree => tree.footprint

inductive Unfolds (snapshot : Snapshot) : Unfolding (Fin snapshot.size) → Prop
  | undefined : Unfolds snapshot ⟨.undefined, .undefined, []⟩
  | null : Unfolds snapshot ⟨.null, .null, []⟩
  | bool (value : Bool) : Unfolds snapshot ⟨.bool value, .bool value, []⟩
  | number (value : JsNumber) : Unfolds snapshot ⟨.number value, .number value, []⟩
  | bigint : Unfolds snapshot ⟨.bigint, .host .bigint, []⟩
  | string (value : JsString) : Unfolds snapshot ⟨.string value, .string value, []⟩
  | array {reference : Fin snapshot.size} {items : List (Option (Unfolding (Fin snapshot.size)))}
      {named : List (JsString × Cloned (Fin snapshot.size))}
      (isArray : snapshot.objects reference = .array (items.map (Option.map Unfolding.child)) named)
      (below : ∀ tree, some tree ∈ items → Unfolds snapshot tree) :
      Unfolds snapshot ⟨.object reference, .array (items.map elementValue),
        reference :: items.flatMap elementFootprint⟩
  | plain {reference : Fin snapshot.size}
      {entries : List (JsString × Unfolding (Fin snapshot.size))}
      (isPlain : snapshot.objects reference =
        .plain (entries.map fun entry => (entry.1, entry.2.child)))
      (distinct : (entries.map Prod.fst).Nodup)
      (below : ∀ entry ∈ entries, Unfolds snapshot entry.2) :
      Unfolds snapshot ⟨.object reference,
        .object (entries.map fun entry => (entry.1, entry.2.value)),
        reference :: entries.flatMap fun entry => entry.2.footprint⟩

/-- Arrays without named properties, and all other objects. -/
def ClonedObject.isBare {Ref : Type} : ClonedObject Ref → Bool
  | .array _ named => named.isEmpty
  | _ => true

/-! ### Normalizable trees -/

/-- What a normalizer accepts within so many levels. -/
def Normalizable (normalize : JsString → JsString) : (levels : ℕ) → JsValue → Prop
  | 0, _ => False
  | levels + 1, value =>
    match value with
    | .null => True
    | .bool _ => True
    | .number value => value.safeInteger?.isSome = true
    | .string value => normalize value = value
    | .array items => ∀ item ∈ items, item = .hole ∨ Normalizable normalize levels item
    | .object entries => entries.length ≤ MAX_KEYS ∧
        ∀ entry ∈ entries, entry.1 ∉ FORBIDDEN_KEYS ∧ Normalizable normalize levels entry.2
    | _ => False

mutual

/-- The form that a normalizer gives to what it accepts. -/
def canonicalForm : JsValue → CanonicalValue
  | .null => .null
  | .bool value => .bool value
  | .number value => .number value
  | .string value => .string value
  | .array items => .array (canonicalItems items)
  | .object entries => .object (objectOrder (sortEntries (canonicalEntries entries)))
  | _ => .hole

def canonicalItems : List JsValue → List CanonicalValue
  | [] => []
  | item :: rest => canonicalForm item :: canonicalItems rest

def canonicalEntries : List (JsString × JsValue) → List (JsString × CanonicalValue)
  | [] => []
  | (key, value) :: rest => (key, canonicalForm value) :: canonicalEntries rest

end

theorem canonicalItems_eq_map (items : List JsValue) :
    canonicalItems items = items.map canonicalForm := by
  induction items with
  | nil => rfl
  | cons item rest ih =>
    rw [canonicalItems, ih, List.map_cons]

theorem canonicalEntries_eq_map (entries : List (JsString × JsValue)) :
    canonicalEntries entries = entries.map fun entry => (entry.1, canonicalForm entry.2) := by
  induction entries with
  | nil => rfl
  | cons entry rest ih =>
    rw [canonicalEntries, ih, List.map_cons]

theorem find?_forbidden_eq_none_iff {keys : List JsString} :
    (keys.find? fun key => decide (key ∈ FORBIDDEN_KEYS)) = none ↔
      ∀ key ∈ keys, key ∉ FORBIDDEN_KEYS := by
  simp only [List.find?_eq_none, decide_eq_true_eq]

theorem mapM_eq_ok_of_each {A B : Type} {visit : A → Except JsError B} {list : List A}
    (fine : A → Prop) (form : A → B)
    (each : ∀ value ∈ list, ∀ result, visit value = .ok result ↔ fine value ∧ result = form value)
    {results : List B} :
    list.mapM visit = .ok results ↔ (∀ value ∈ list, fine value) ∧ results = list.map form := by
  rw [mapM_eq_ok_iff]
  induction list generalizing results with
  | nil =>
    rw [List.forall₂_nil_left_iff, List.map_nil]
    exact (and_iff_right (List.forall_mem_nil _)).symm
  | cons first rest ih =>
    rw [List.forall_mem_cons] at each
    rw [List.forall₂_cons_left_iff, List.forall_mem_cons, List.map_cons]
    constructor
    · rintro ⟨result, others, visited, later, rfl⟩
      have isFirst := (each.1 result).mp visited
      have isRest := (ih each.2).mp later
      exact ⟨⟨isFirst.1, isRest.1⟩, by rw [isFirst.2, isRest.2]⟩
    · rintro ⟨⟨firstFine, restFine⟩, rfl⟩
      exact ⟨form first, rest.map form, (each.1 _).mpr ⟨firstFine, rfl⟩,
        (ih each.2).mpr ⟨restFine, rfl⟩, rfl⟩

theorem Unfolds.ne_hole {snapshot : Snapshot} {tree : Unfolding (Fin snapshot.size)}
    (unfolds : Unfolds snapshot tree) : tree.value ≠ .hole := by
  cases unfolds <;> exact fun isHole => by cases isHole

theorem bind_pure_eq_ok_iff {A B : Type} {loop : Except JsError A} {fine : Prop} {form : A}
    {wrap : A → B} {result : B}
    (loops : ∀ found, loop = .ok found ↔ fine ∧ found = form) :
    (loop >>= fun found => pure (wrap found)) = .ok result ↔ fine ∧ result = wrap form := by
  simp only [bind_eq_ok, pure_eq_ok, loops]
  constructor
  · rintro ⟨found, ⟨isFine, rfl⟩, rfl⟩
    exact ⟨isFine, rfl⟩
  · rintro ⟨isFine, rfl⟩
    exact ⟨form, ⟨isFine, rfl⟩, rfl⟩

section Loops

variable {Ref : Type} {fine : JsValue → Prop}

theorem mapM_elements_iff {visit : Option (Cloned Ref) × ℕ → Except JsError CanonicalValue}
    {items : List (Option (Unfolding Ref))} (keepsHoles : ∀ index, visit (none, index) = .ok .hole)
    (each : ∀ tree, some tree ∈ items → tree.value ≠ .hole ∧ ∀ index result,
      visit (some tree.child, index) = .ok result ↔
        fine tree.value ∧ result = canonicalForm tree.value)
    {results : List CanonicalValue} :
    (items.map (Option.map Unfolding.child)).zipIdx.mapM visit = .ok results ↔
      (∀ item ∈ items.map elementValue, item = .hole ∨ fine item) ∧
        results = canonicalItems (items.map elementValue) := by
  rw [List.zipIdx_map, List.mapM_map, mapM_eq_ok_of_each
    (fun entry => elementValue entry.1 = .hole ∨ fine (elementValue entry.1))
    (fun entry => canonicalForm (elementValue entry.1))]
  · conv_rhs => rw [← List.zipIdx_map_fst 0 items]
    rw [canonicalItems_eq_map, List.map_map, List.map_map, List.forall_mem_map]
    rfl
  · rintro ⟨item, index⟩ member result
    cases item with
    | none =>
      have isHole : (visit ∘ Prod.map (Option.map Unfolding.child) id) (none, index) =
          .ok .hole := keepsHoles index
      change _ ↔ (JsValue.hole = .hole ∨ fine .hole) ∧ result = .hole
      rw [isHole, Except.ok.injEq, eq_self, true_or, true_and]
      exact eq_comm
    | some tree =>
      have isTree := each tree (List.fst_mem_of_mem_zipIdx member)
      rw [elementValue, or_iff_right isTree.1]
      exact isTree.2 index result

theorem mapM_members_iff {visit : JsString → Cloned Ref → Except JsError CanonicalValue}
    {entries : List (JsString × Unfolding Ref)}
    (each : ∀ entry ∈ entries, ∀ result, visit entry.1 entry.2.child = .ok result ↔
      fine entry.2.value ∧ result = canonicalForm entry.2.value)
    {results : List (JsString × CanonicalValue)} :
    ((sortEntries (entries.map fun entry => (entry.1, entry.2.child))).mapM fun entry => do
        let member ← visit entry.1 entry.2
        return (entry.1, member)) = .ok results ↔
      (∀ entry ∈ entries.map fun entry => (entry.1, entry.2.value), fine entry.2) ∧
        results = sortEntries (canonicalEntries
          (entries.map fun entry => (entry.1, entry.2.value))) := by
  rw [← sortEntries_map, List.mapM_map, mapM_eq_ok_of_each
    (fun entry => fine entry.2.value) (fun entry => (entry.1, canonicalForm entry.2.value))]
  · rw [canonicalEntries_eq_map, List.map_map, List.forall_mem_map,
      sortEntries_map fun entry : JsString × Unfolding Ref => canonicalForm entry.2.value]
    simp only [(perm_sortEntries entries).mem_iff]
    rfl
  · intro entry member result
    have isTree := each entry ((perm_sortEntries entries).mem_iff.mp member)
    exact bind_pure_eq_ok_iff isTree

end Loops

section Effects

variable {State A : Type} {state : State}

theorem run_check_eq_ok {fires : Prop} [Decidable fires] {error : JsError}
    {next : PUnit → StateT State (Except JsError) A} {outcome : A × State} :
    (if fires then throw error >>= next else next ⟨⟩).run state = .ok outcome ↔
      ¬ fires ∧ (next ⟨⟩).run state = .ok outcome := by
  by_cases isFired : fires
  · rw [if_pos isFired]
    exact iff_of_false (fun returned => by cases returned) fun both => both.1 isFired
  · rw [if_neg isFired]
    exact (and_iff_right isFired).symm

theorem run_lift_eq_ok {computed : Except JsError A} {outcome : A × State} :
    (liftM computed : StateT State (Except JsError) A).run state = .ok outcome ↔
      computed = .ok outcome.1 ∧ state = outcome.2 := by
  cases computed with
  | error error =>
    exact iff_of_false (fun returned => by cases returned) fun both => by cases both.1
  | ok value =>
    change Except.ok (value, state) = .ok outcome ↔ Except.ok value = .ok outcome.1 ∧ _
    rw [Except.ok.injEq, Except.ok.injEq, Prod.ext_iff]

end Effects

section Objects

variable {Raw : Type} (host : DeclarationHost Raw) (snapshot : Snapshot) (levels : ℕ)
  (path : JsString)

/-- The turn of one element of an array in `canonicalize`. -/
def canonicalizeElement (entry : Option (Cloned (Fin snapshot.size)) × ℕ) :
    Except JsError CanonicalValue :=
  match entry.1 with
  | none => .ok .hole
  | some item =>
    canonicalizeAt host snapshot levels (path ++ js "[" ++ Decimal.natText entry.2 ++ js "]") item

def canonicalizeMember (entry : JsString × Cloned (Fin snapshot.size)) :
    Except JsError (JsString × CanonicalValue) := do
  let member ← canonicalizeAt host snapshot levels (path ++ js "." ++ entry.1) entry.2
  return (entry.1, member)

/-- The turn of one element of an array in `normalizeValue`. -/
def normalizeElement (entry : Option (Cloned (Fin snapshot.size)) × ℕ) :
    StateT (Finset (Fin snapshot.size)) (Except JsError) CanonicalValue :=
  match entry.1 with
  | none => return .hole
  | some item =>
    normalizeValue host snapshot levels (path ++ js "[" ++ Decimal.natText entry.2 ++ js "]") item

def normalizeMember (entry : JsString × Cloned (Fin snapshot.size)) :
    StateT (Finset (Fin snapshot.size)) (Except JsError) (JsString × CanonicalValue) := do
  let member ← normalizeValue host snapshot levels (path ++ js "." ++ entry.1) entry.2
  return (entry.1, member)

theorem checkKeys_eq_ok_iff {keys : List JsString} {done : Unit} :
    checkKeys path keys = .ok done ↔ ∀ key ∈ keys, key ∉ FORBIDDEN_KEYS := by
  rw [checkKeys, ← find?_forbidden_eq_none_iff]
  cases keys.find? fun key => decide (key ∈ FORBIDDEN_KEYS) with
  | none => simp
  | some key => simp

theorem checkProperties_eq_ok_iff {keys : List JsString} {done : Unit} :
    checkProperties keys = .ok done ↔ ∀ key ∈ keys, key ∉ FORBIDDEN_KEYS := by
  rw [checkProperties, ← find?_forbidden_eq_none_iff]
  cases keys.find? fun key => decide (key ∈ FORBIDDEN_KEYS) with
  | none => simp
  | some key => simp

variable {host snapshot levels path} {reference : Fin snapshot.size}

section Arrays

variable {items : List (Option (Cloned (Fin snapshot.size)))}
  {named : List (JsString × Cloned (Fin snapshot.size))}
  (isArray : snapshot.objects reference = .array items named)

include isArray

theorem canonicalizeAt_array :
    canonicalizeAt host snapshot (levels + 1) path (.object reference) =
      items.zipIdx.mapM (canonicalizeElement host snapshot levels path) >>= fun members =>
        .ok (.array members) := by
  rw [canonicalizeAt, isArray]
  congr 2

theorem normalizeValue_array :
    normalizeValue host snapshot (levels + 1) path (.object reference) =
      items.zipIdx.mapM (normalizeElement host snapshot levels path) >>= fun members =>
        return .array members := by
  rw [normalizeValue, isArray]
  congr 2

end Arrays

section PlainObjects

variable {entries : List (JsString × Cloned (Fin snapshot.size))}
  (isPlain : snapshot.objects reference = .plain entries)

include isPlain

theorem canonicalizeAt_plain_iff {canonical : CanonicalValue} :
    canonicalizeAt host snapshot (levels + 1) path (.object reference) = .ok canonical ↔
      entries.length ≤ MAX_KEYS ∧ (∀ key ∈ entries.map Prod.fst, key ∉ FORBIDDEN_KEYS) ∧
        ∃ members,
          (sortEntries entries).mapM (canonicalizeMember host snapshot levels path) = .ok members ∧
            .object (objectOrder members) = canonical := by
  rw [canonicalizeAt, isPlain]
  simp only [← not_lt]
  split
  next many => exact iff_of_false (fun returned => by cases returned) fun both => both.1 many
  next few =>
    simp only [bind_eq_ok, pure_eq_ok, checkKeys_eq_ok_iff, exists_const]
    rw [and_iff_right few]
    rfl

theorem run_normalizeValue_plain_iff {seen : Finset (Fin snapshot.size)}
    {outcome : CanonicalValue × Finset (Fin snapshot.size)} :
    (normalizeValue host snapshot (levels + 1) path (.object reference)).run seen = .ok outcome ↔
      reference ∉ seen ∧ entries.length ≤ MAX_KEYS ∧
        (∀ key ∈ entries.map Prod.fst, key ∉ FORBIDDEN_KEYS) ∧
        ∃ members, ((sortEntries entries).mapM (normalizeMember host snapshot levels path)).run
            (insert reference seen) = .ok members ∧
          (.object (objectOrder members.1), members.2) = outcome := by
  rw [normalizeValue, isPlain]
  simp only [StateT.run_bind, StateT.run_get, bind_eq_ok, pure_eq_ok, run_check_eq_ok,
    exists_eq_left', StateT.run_set, run_lift_eq_ok, checkProperties_eq_ok_iff, not_lt]
  constructor
  · rintro ⟨fresh, few, ⟨_, later⟩, ⟨allowed, rfl⟩, members, visited, wrapped⟩
    exact ⟨fresh, few, allowed, members, visited, pure_eq_ok.mp wrapped⟩
  · rintro ⟨fresh, few, allowed, members, visited, wrapped⟩
    exact ⟨fresh, few, ((), insert reference seen), ⟨allowed, rfl⟩, members, visited,
      pure_eq_ok.mpr wrapped⟩

end PlainObjects

end Objects

section Commitment

variable {Raw : Type} (host : DeclarationHost Raw) {snapshot : Snapshot}

theorem canonicalizeAt_eq_ok_iff {levels : ℕ} {path : JsString}
    {tree : Unfolding (Fin snapshot.size)} (unfolds : Unfolds snapshot tree)
    {canonical : CanonicalValue} :
    canonicalizeAt host snapshot levels path tree.child = .ok canonical ↔
      Normalizable host.normalize levels tree.value ∧ canonical = canonicalForm tree.value := by
  induction levels generalizing path tree canonical with
  | zero => exact iff_of_false (fun returned => by cases returned) fun both => both.1
  | succ levels ih =>
    cases unfolds with
    | undefined => exact iff_of_false (fun returned => by cases returned) fun both => both.1
    | bigint => exact iff_of_false (fun returned => by cases returned) fun both => both.1
    | null =>
      rw [canonicalizeAt, Normalizable, true_and, Except.ok.injEq]
      exact eq_comm
    | bool value =>
      rw [canonicalizeAt, Normalizable, true_and, Except.ok.injEq]
      exact eq_comm
    | number value =>
      rw [canonicalizeAt, Normalizable, canonicalForm]
      cases value.safeInteger? with
      | none => simp
      | some integer => simp [eq_comm]
    | string value =>
      rw [canonicalizeAt, Normalizable, canonicalForm, normalizeString]
      by_cases isNormal : host.normalize value = value
      · simp [isNormal, Except.map, eq_comm]
      · simp [isNormal, Except.map]
    | @array reference items named isArray below =>
      rw [canonicalizeAt_array isArray, Normalizable, canonicalForm]
      exact bind_pure_eq_ok_iff fun members => mapM_elements_iff (fun _ => rfl)
        fun tree member =>
          ⟨(below tree member).ne_hole, fun _ _ => ih (below tree member)⟩
    | @plain reference entries isPlain distinct below =>
      have loop (members : List (JsString × CanonicalValue)) := @mapM_members_iff _
        (Normalizable host.normalize levels)
        (fun key => canonicalizeAt host snapshot levels (path ++ js "." ++ key)) entries
        (fun entry member _ => ih (below entry member)) members
      rw [canonicalizeAt_plain_iff isPlain, Normalizable, canonicalForm, List.length_map,
        List.length_map, List.map_map, List.forall_mem_map, List.forall_mem_map]
      constructor
      · rintro ⟨few, allowed, members, visited, rfl⟩
        rcases (loop members).mp visited with ⟨fine, rfl⟩
        rw [List.forall_mem_map] at fine
        exact ⟨⟨few, fun entry member => ⟨allowed entry member, fine entry member⟩⟩, rfl⟩
      · rintro ⟨⟨few, each⟩, rfl⟩
        refine ⟨few, fun entry member => (each entry member).1, _,
          (loop _).mpr ⟨?_, rfl⟩, rfl⟩
        rw [List.forall_mem_map]
        exact fun entry member => (each entry member).2

end Commitment

end GhostArk.Dab
