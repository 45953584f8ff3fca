import Mathlib.Data.Fintype.Card
import GhostArk.Js.Collections
import GhostArk.ReceiptSchema.HashCanonicalization

/-!
Contract: `createDeclarationCommitment` of `dab/agent-runtime/src/commitment.ts`.

Owns clones as graphs of objects, `deepFreeze` over them, the canonical form with its limits and
error texts, its serialization, and the commitment.

Does not own `structuredClone`, Unicode normalization and the digest: they are parameters. A
clone has no functions and no symbols, and its objects may be shared or in a cycle.
-/

namespace GhostArk.Dab

open Js
open ReceiptSchema (sortEntries)

def DAB_PROTOCOL_VERSION : JsString := js "DAB-TIER0-V1"

def HASH_DOMAIN : JsString := js "GHOST-ARK-DAB-DECLARATION-COMMITMENT"

def MAX_DEPTH : ℕ := 64

def MAX_KEYS : ℕ := 10000

def FORBIDDEN_KEYS : List JsString := [js "__proto__", js "prototype", js "constructor"]

def integrityCollisionError (message : JsString) : JsError :=
  ⟨.integrityCollisionError, message, []⟩

/-- A value of a clone, with references to its objects. -/
inductive Cloned (Ref : Type) where
  | undefined
  | null
  | bool (value : Bool)
  | number (value : JsNumber)
  | bigint
  | string (value : JsString)
  | object (reference : Ref)

inductive ClonedObject (Ref : Type) where
  /-- Items, `none` where there is a hole, and the named properties after them. -/
  | array (items : List (Option (Cloned Ref))) (named : List (JsString × Cloned Ref))
  /-- Own properties in the order of `Object.keys`. -/
  | plain (entries : List (JsString × Cloned Ref))
  /-- Dates, maps, errors, views and the like, with `Object.values`. A view that has elements
  cannot be frozen. -/
  | other (freezes : Bool) (values : List (Cloned Ref))

def ClonedObject.values {Ref : Type} : ClonedObject Ref → List (Cloned Ref)
  | .array items named => items.filterMap id ++ named.map Prod.snd
  | .plain entries => entries.map Prod.snd
  | .other _ values => values

def ClonedObject.freezes {Ref : Type} : ClonedObject Ref → Bool
  | .other freezes _ => freezes
  | _ => true

structure Snapshot where
  size : ℕ
  objects : Fin size → ClonedObject (Fin size)
  root : Cloned (Fin size)

structure DeclarationHost (Raw : Type) where
  structuredClone : Raw → Except JsError Snapshot
  /-- `value.normalize("NFC")`. -/
  normalize : JsString → JsString
  numbers : NumberText
  sha256 : Sha256

section Freezing

variable (snapshot : Snapshot)

def circularError : JsError := integrityCollisionError (js "Circular reference detected")

def freezeObject (reference : Fin snapshot.size) : Except JsError Unit :=
  if (snapshot.objects reference).freezes then .ok ()
  else .error ⟨.external (js "TypeError"), js "Cannot freeze array buffer views with elements", []⟩

/-- `deepFreeze(value, seen)`, with the objects seen after it, for at most so many objects that
are not seen. -/
def deepFreezeWithin : ℕ → Finset (Fin snapshot.size) → Cloned (Fin snapshot.size) →
    Except JsError (Finset (Fin snapshot.size))
  -- every object has been seen
  | 0, _, .object _ => .error circularError
  | unseen + 1, seen, .object reference =>
    if reference ∈ seen then .error circularError
    else do
      freezeObject snapshot reference
      (snapshot.objects reference).values.foldlM (deepFreezeWithin unseen) (insert reference seen)
  | _, seen, _ => .ok seen

def deepFreeze (seen : Finset (Fin snapshot.size)) (value : Cloned (Fin snapshot.size)) :
    Except JsError (Finset (Fin snapshot.size)) :=
  deepFreezeWithin snapshot snapshot.size seen value

variable {snapshot}

theorem foldlM_seen {visit : Finset (Fin snapshot.size) → Cloned (Fin snapshot.size) →
      Except JsError (Finset (Fin snapshot.size))}
    (grows : ∀ seen value later, visit seen value = .ok later → seen ⊆ later) :
    ∀ {values : List (Cloned (Fin snapshot.size))} {seen later : Finset (Fin snapshot.size)},
      values.foldlM visit seen = .ok later → seen ⊆ later := by
  intro values
  induction values with
  | nil =>
    intro seen later returned
    rw [List.foldlM_nil, pure_eq_ok] at returned
    exact returned.le
  | cons value rest ih =>
    intro seen later returned
    rw [List.foldlM_cons, bind_eq_ok] at returned
    rcases returned with ⟨between, visited, rested⟩
    exact (grows seen value between visited).trans (ih rested)

theorem seen_deepFreezeWithin (unseen : ℕ) : ∀ seen value later,
    deepFreezeWithin snapshot unseen seen value = .ok later → seen ⊆ later := by
  induction unseen with
  | zero =>
    intro seen value later returned
    cases value <;> cases returned <;> exact Finset.Subset.refl seen
  | succ unseen ih =>
    intro seen value later returned
    cases value with
    | object reference =>
      rw [deepFreezeWithin] at returned
      split at returned
      · cases returned
      · rcases bind_eq_ok.mp returned with ⟨_, -, visited⟩
        exact (Finset.subset_insert _ _).trans (foldlM_seen ih visited)
    | _ =>
      cases returned
      exact Finset.Subset.refl seen

theorem foldlM_congr_seen {first second : Finset (Fin snapshot.size) →
      Cloned (Fin snapshot.size) → Except JsError (Finset (Fin snapshot.size))} {least : ℕ}
    (grows : ∀ seen value later, first seen value = .ok later → seen ⊆ later)
    (same : ∀ seen value, least ≤ seen.card → first seen value = second seen value) :
    ∀ (values : List (Cloned (Fin snapshot.size))) (seen : Finset (Fin snapshot.size)),
      least ≤ seen.card → values.foldlM first seen = values.foldlM second seen := by
  intro values
  induction values with
  | nil => exact fun _ _ => rfl
  | cons value rest ih =>
    intro seen enough
    rw [List.foldlM_cons, List.foldlM_cons, ← same seen value enough]
    cases visited : first seen value with
    | error error => rfl
    | ok later =>
      exact ih later
        (enough.trans (Finset.card_le_card (grows seen value later visited)))

theorem mem_of_full {seen : Finset (Fin snapshot.size)} (full : snapshot.size ≤ seen.card)
    (reference : Fin snapshot.size) : reference ∈ seen := by
  have all : seen = Finset.univ := by
    apply Finset.eq_univ_of_card
    rw [Fintype.card_fin]
    exact le_antisymm (by simpa using seen.card_le_univ) full
  rw [all]
  exact Finset.mem_univ reference

theorem deepFreezeWithin_congr (first : ℕ) : ∀ (second : ℕ) (seen : Finset (Fin snapshot.size))
    (value : Cloned (Fin snapshot.size)), snapshot.size ≤ first + seen.card →
      snapshot.size ≤ second + seen.card →
        deepFreezeWithin snapshot first seen value = deepFreezeWithin snapshot second seen value := by
  induction first with
  | zero =>
    intro second seen value covers _
    cases second with
    | zero => rfl
    | succ second =>
      cases value with
      | object reference =>
        rw [deepFreezeWithin, deepFreezeWithin, if_pos (mem_of_full (by omega) reference)]
      | _ => rfl
  | succ first ih =>
    intro second seen value covers coversToo
    cases value with
    | object reference =>
      by_cases isSeen : reference ∈ seen
      · cases second with
        | zero => rw [deepFreezeWithin, deepFreezeWithin, if_pos isSeen]
        | succ second =>
          rw [deepFreezeWithin, deepFreezeWithin, if_pos isSeen, if_pos isSeen]
      · cases second with
        | zero => exact absurd (mem_of_full (by omega) reference) isSeen
        | succ second =>
          rw [deepFreezeWithin, deepFreezeWithin, if_neg isSeen, if_neg isSeen]
          apply congrArg
          funext frozen
          refine foldlM_congr_seen (seen_deepFreezeWithin first) ?_ _ _
            (le_refl (insert reference seen).card)
          intro later child more
          rw [Finset.card_insert_of_notMem isSeen] at more
          exact ih second later child (by omega) (by omega)
    | _ => cases second <;> rfl

theorem deepFreeze_object (seen : Finset (Fin snapshot.size)) (reference : Fin snapshot.size) :
    deepFreeze snapshot seen (.object reference) =
      if reference ∈ seen then .error circularError
      else
        freezeObject snapshot reference >>= fun _ =>
          (snapshot.objects reference).values.foldlM (deepFreeze snapshot)
            (insert reference seen) := by
  have covers : snapshot.size ≤ snapshot.size + 1 + seen.card := by omega
  rw [deepFreeze, deepFreezeWithin_congr snapshot.size (snapshot.size + 1) seen _ (by omega) covers,
    deepFreezeWithin]
  rfl

end Freezing

def createSnapshot {Raw : Type} (host : DeclarationHost Raw) (value : Raw) :
    Except JsError Snapshot := do
  let clone ← host.structuredClone value
  let _ ← deepFreeze clone ∅ clone.root
  return clone

/-! ### The canonical form -/

inductive CanonicalValue where
  | null
  | bool (value : Bool)
  | number (value : JsNumber)
  | string (value : JsString)
  | array (items : List CanonicalValue)
  /-- Own properties in the order of `Object.keys`. -/
  | object (entries : List (JsString × CanonicalValue))
  /-- A hole of an array, which `map` keeps. -/
  | hole

section Canonicalization

variable {Raw : Type} (host : DeclarationHost Raw)

def normalizeString (value : JsString) : Except JsError JsString :=
  if host.normalize value ≠ value then
    .error (integrityCollisionError (js "Non canonical Unicode representation"))
  else .ok value

def unsupportedError (path : JsString) : JsError :=
  integrityCollisionError (js "Unsupported value type at " ++ path)

def checkKeys (path : JsString) (keys : List JsString) : Except JsError Unit :=
  match keys.find? fun key => decide (key ∈ FORBIDDEN_KEYS) with
  | none => .ok ()
  | some key =>
    .error (integrityCollisionError (js "Forbidden key " ++ key ++ js " at " ++ path))

/-- `canonicalize(value, path, depth)` where `levels` is `MAX_DEPTH + 1 - depth`. -/
def canonicalizeAt (snapshot : Snapshot) : (levels : ℕ) → (path : JsString) →
    Cloned (Fin snapshot.size) → Except JsError CanonicalValue
  | 0, path, _ => .error (integrityCollisionError (js "Maximum depth exceeded at " ++ path))
  | levels + 1, path, value =>
    match value with
    | .null => .ok .null
    | .bool value => .ok (.bool value)
    | .number value =>
      if value.safeInteger?.isNone then
        .error (integrityCollisionError (js "Unsafe integer at " ++ path))
      else .ok (.number value)
    | .string value => (normalizeString host value).map .string
    | .undefined => .error (unsupportedError path)
    | .bigint => .error (unsupportedError path)
    | .object reference =>
      match snapshot.objects reference with
      | .array items _ => do
        let members ← items.zipIdx.mapM fun entry =>
          match entry.1 with
          | none => return .hole
          | some item =>
            canonicalizeAt snapshot levels
              (path ++ js "[" ++ Decimal.natText entry.2 ++ js "]") item
        return .array members
      | .plain entries =>
        if MAX_KEYS < entries.length then
          .error (integrityCollisionError (js "Object exceeds key limit at " ++ path))
        else do
          checkKeys path (entries.map Prod.fst)
          let members ← (sortEntries entries).mapM fun entry => do
            let member ←
              canonicalizeAt snapshot levels (path ++ js "." ++ entry.1) entry.2
            return (entry.1, member)
          return .object (objectOrder members)
      | .other _ _ => .error (unsupportedError path)

def canonicalize (snapshot : Snapshot) : Except JsError CanonicalValue :=
  canonicalizeAt host snapshot (MAX_DEPTH + 1) (js "$") snapshot.root

end Canonicalization

section Serialization

variable (numbers : NumberText)

mutual

def canonicalSerialize : CanonicalValue → JsString
  | .null => js "null"
  | .bool value => if value then js "true" else js "false"
  | .number value => numbers.json value
  | .string value => quote value
  | .array items => jsonArray (serializeItems items)
  | .object entries => jsonObject (serializeEntries entries)
  -- `join` writes nothing for a hole
  | .hole => []

def serializeItems : List CanonicalValue → List JsString
  | [] => []
  | item :: rest => canonicalSerialize item :: serializeItems rest

def serializeEntries : List (JsString × CanonicalValue) → List (JsString × JsString)
  | [] => []
  | (key, value) :: rest => (key, canonicalSerialize value) :: serializeEntries rest

end

end Serialization

structure DeclarationCommitment where
  protocol : JsString
  ci : JsString
  canonicalPayload : JsString
  snapshot : Snapshot
  createdAt : JsNumber

def commitmentMaterial (canonicalPayload : JsString) : JsString :=
  join (js ":") [HASH_DOMAIN, DAB_PROTOCOL_VERSION, canonicalPayload]

/-- `createDeclarationCommitment(rawAction)` at a reading of the clock. -/
def createDeclarationCommitment {Raw : Type} (host : DeclarationHost Raw) (now : JsNumber)
    (rawAction : Raw) : Except JsError DeclarationCommitment := do
  let snapshot ← createSnapshot host rawAction
  let normalized ← canonicalize host snapshot
  let canonicalPayload := canonicalSerialize host.numbers normalized
  let digest := host.sha256.sha256Hex (commitmentMaterial canonicalPayload)
  return ⟨DAB_PROTOCOL_VERSION, js "sha256:" ++ digest, canonicalPayload, snapshot, now⟩

/-- The commitment is the digest of its own canonical payload. -/
theorem ci_createDeclarationCommitment {Raw : Type} {host : DeclarationHost Raw} {now : JsNumber}
    {rawAction : Raw} {commitment : DeclarationCommitment}
    (accepted : createDeclarationCommitment host now rawAction = .ok commitment) :
    commitment.ci = js "sha256:" ++
      host.sha256.sha256Hex (commitmentMaterial commitment.canonicalPayload) := by
  rcases bind_eq_ok.mp accepted with ⟨snapshot, -, later⟩
  rcases bind_eq_ok.mp later with ⟨normalized, -, returned⟩
  rw [pure_eq_ok] at returned
  rw [← returned]

theorem commitmentMaterial_ne (canonicalPayload : JsString) :
    commitmentMaterial canonicalPayload ≠ canonicalPayload := by
  intro same
  have lengths := congrArg List.length same
  have long : 0 < (js ":").length := by decide
  simp only [commitmentMaterial, join, List.length_append] at lengths
  omega

end GhostArk.Dab
