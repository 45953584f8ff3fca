import Mathlib.Data.Prod.Lex
import GhostArk.Js.Collections
import GhostArk.Lib.InsertionMap
import GhostArk.Lib.LastWriterWins

/-!
Contract: `packages/research-frontier/src/crdt/lwwMap.ts`.

Owns registers with their priority, a node's map and clock, write intents, the
application of a register, whole-state merges, and what each of them does to one key.

Clocks are natural numbers. A write adds one to its node's clock, nothing else makes a
greater clock, and doubles count exactly up to `2 ^ 53`.
-/

namespace GhostArk.ResearchFrontier.Crdt

open Js
open Lib

inductive Provenance where
  | GATEWAY_RECORDED
  | AGENT_ASSERTED
deriving DecidableEq

def Provenance.text : Provenance → JsString
  | .GATEWAY_RECORDED => js "GATEWAY_RECORDED"
  | .AGENT_ASSERTED => js "AGENT_ASSERTED"

structure LWWRegister where
  value : JsString
  clock : Nat
  nodeId : JsString
  provenance : Provenance
deriving DecidableEq

namespace LWWRegister

/-- Clocks first; ties go to the greater node id, by code units. -/
def priority (register : LWWRegister) : Nat ×ₗ JsString := toLex (register.clock, register.nodeId)

theorem priority_lt_iff {left right : LWWRegister} :
    left.priority < right.priority ↔
      left.clock < right.clock ∨ left.clock = right.clock ∧ left.nodeId < right.nodeId :=
  Prod.Lex.lt_iff

theorem priority_eq_iff {left right : LWWRegister} :
    left.priority = right.priority ↔ left.clock = right.clock ∧ left.nodeId = right.nodeId := by
  rw [priority, priority, toLex_inj, Prod.mk.injEq]

theorem clock_le_of_priority_le {left right : LWWRegister}
    (below : left.priority ≤ right.priority) : left.clock ≤ right.clock :=
  Prod.Lex.monotone_fst _ _ below

end LWWRegister

structure LWWMap where
  nodeId : JsString
  state : InsertionMap JsString LWWRegister
  localClock : Nat

namespace LWWMap

def new (nodeId : JsString) : LWWMap := ⟨nodeId, .empty, 0⟩

def createWriteIntent (node : LWWMap) (value : JsString) (provenance : Provenance) :
    LWWRegister × LWWMap :=
  (⟨value, node.localClock + 1, node.nodeId, provenance⟩,
    { node with localClock := node.localClock + 1 })

/-- Whether the register won, and the node after it. -/
def apply (node : LWWMap) (key : JsString) (incoming : LWWRegister) : Bool × LWWMap :=
  let heard := { node with localClock := max node.localClock incoming.clock }
  match node.state.get? key with
  | none => (true, { heard with state := node.state.set key incoming })
  | some existing =>
    if incoming.clock < existing.clock then (false, heard)
    else if incoming.clock = existing.clock ∧ incoming.nodeId ≤ existing.nodeId then
      (false, heard)
    else (true, { heard with state := node.state.set key incoming })

def mergeEntries (node : LWWMap) : List (JsString × LWWRegister) → LWWMap
  | [] => node
  | (key, register) :: rest => mergeEntries (node.apply key register).2 rest

/-- `merge(remoteState)`, entry by entry. -/
def merge (node : LWWMap) (remoteState : InsertionMap JsString LWWRegister) : LWWMap :=
  node.mergeEntries remoteState.entries

/-- What a state root is the digest of. -/
def stateText (node : LWWMap) : JsString :=
  (sortTexts (node.state.entries.map Prod.fst)).flatMap fun key =>
    match node.state.get? key with
    | none => []
    | some register =>
      key ++ js ":" ++ register.value ++ js ":" ++ Decimal.natText register.clock ++ js ":" ++
        register.nodeId ++ js ":" ++ register.provenance.text ++ js ";"

def computeStateRoot (sha256 : Sha256) (node : LWWMap) : JsString :=
  js "sha256:" ++ sha256.sha256Hex node.stateText

@[simp] theorem nodeId_apply (node : LWWMap) (key : JsString) (incoming : LWWRegister) :
    (node.apply key incoming).2.nodeId = node.nodeId := by
  rw [apply]
  split
  · rfl
  · split
    · rfl
    · split <;> rfl

@[simp] theorem localClock_apply (node : LWWMap) (key : JsString) (incoming : LWWRegister) :
    (node.apply key incoming).2.localClock = max node.localClock incoming.clock := by
  rw [apply]
  split
  · rfl
  · split
    · rfl
    · split <;> rfl

theorem get?_apply (node : LWWMap) (key other : JsString) (incoming : LWWRegister) :
    (node.apply key incoming).2.state.get? other =
      if other = key then adopt LWWRegister.priority (node.state.get? key) incoming
      else node.state.get? other := by
  rw [apply]
  cases held : node.state.get? key with
  | none => rw [InsertionMap.get?_set]; rfl
  | some existing =>
    have wins : ¬ incoming.clock < existing.clock →
        ¬ (incoming.clock = existing.clock ∧ incoming.nodeId ≤ existing.nodeId) →
          existing.priority < incoming.priority := by
      intro notOlder notTied
      rw [LWWRegister.priority_lt_iff]
      rcases Nat.lt_or_ge existing.clock incoming.clock with later | notLater
      · exact Or.inl later
      · have same := Nat.le_antisymm notLater (Nat.not_lt.mp notOlder)
        exact Or.inr ⟨same.symm, not_le.mp fun below => notTied ⟨same, below⟩⟩
    have loses (notAbove : ¬ existing.priority < incoming.priority) :
        node.state.get? other =
          if other = key then adopt LWWRegister.priority (some existing) incoming
          else node.state.get? other := by
      rw [adopt, if_neg notAbove]
      split
      next isKey => rw [isKey, held]
      next => rfl
    simp only
    split
    next older =>
      refine loses fun above => ?_
      rcases LWWRegister.priority_lt_iff.mp above with later | tied
      · omega
      · omega
    next notOlder =>
      split
      next tied =>
        refine loses fun above => ?_
        rcases LWWRegister.priority_lt_iff.mp above with later | higher
        · omega
        · exact absurd higher.2 (not_lt.mpr tied.2)
      next notTied =>
        rw [InsertionMap.get?_set, adopt, if_pos (wins notOlder notTied)]

variable {node : LWWMap}

theorem apply_wins {key : JsString} {incoming : LWWRegister}
    (above : ∀ existing, node.state.get? key = some existing →
      existing.priority < incoming.priority) :
    (node.apply key incoming).1 = true ∧
      (node.apply key incoming).2.state.get? key = some incoming := by
  rw [apply]
  cases held : node.state.get? key with
  | none => exact ⟨rfl, InsertionMap.get?_set_self _ _ _⟩
  | some existing =>
    have below := LWWRegister.priority_lt_iff.mp (above existing held)
    have notOlder : ¬ incoming.clock < existing.clock := by
      rcases below with later | tied
      · exact Nat.not_lt.mpr later.le
      · rw [tied.1]
        exact Nat.lt_irrefl _
    have notTied : ¬ (incoming.clock = existing.clock ∧ incoming.nodeId ≤ existing.nodeId) := by
      rintro ⟨sameClock, notAbove⟩
      rcases below with later | tied
      · exact later.ne' sameClock
      · exact absurd tied.2 (not_lt.mpr notAbove)
    simp only [if_neg notOlder, if_neg notTied]
    exact ⟨trivial, InsertionMap.get?_set_self _ _ _⟩

@[simp] theorem nodeId_mergeEntries (node : LWWMap) (entries : List (JsString × LWWRegister)) :
    (node.mergeEntries entries).nodeId = node.nodeId := by
  induction entries generalizing node with
  | nil => rfl
  | cons entry rest ih =>
    rw [mergeEntries, ih, nodeId_apply]

theorem localClock_le_mergeEntries (node : LWWMap) (entries : List (JsString × LWWRegister)) :
    node.localClock ≤ (node.mergeEntries entries).localClock := by
  induction entries generalizing node with
  | nil => exact Nat.le_refl _
  | cons entry rest ih =>
    apply Nat.le_trans _ (ih _)
    rw [localClock_apply]
    exact Nat.le_max_left _ _

variable {entries : List (JsString × LWWRegister)}

theorem clock_le_mergeEntries {entry : JsString × LWWRegister} (member : entry ∈ entries) :
    entry.2.clock ≤ (node.mergeEntries entries).localClock := by
  induction entries generalizing node with
  | nil => cases member
  | cons first rest ih =>
    rcases List.mem_cons.mp member with rfl | later
    · apply Nat.le_trans _ (localClock_le_mergeEntries _ rest)
      rw [localClock_apply]
      exact Nat.le_max_right _ _
    · exact ih later

theorem get?_mergeEntries_of_forall_ne {key : JsString} (apart : ∀ entry ∈ entries, entry.1 ≠ key) :
    (node.mergeEntries entries).state.get? key = node.state.get? key := by
  induction entries generalizing node with
  | nil => rfl
  | cons first rest ih =>
    rw [List.forall_mem_cons] at apart
    rw [mergeEntries, ih apart.2, get?_apply, if_neg apart.1.symm]

theorem get?_mergeEntries_of_mem (distinct : (entries.map Prod.fst).Nodup) {key : JsString}
    {register : LWWRegister} (member : (key, register) ∈ entries) :
    (node.mergeEntries entries).state.get? key =
      adopt LWWRegister.priority (node.state.get? key) register := by
  induction entries generalizing node with
  | nil => cases member
  | cons first rest ih =>
    rw [List.map_cons, List.nodup_cons] at distinct
    rcases List.mem_cons.mp member with rfl | later
    · have apart : ∀ entry ∈ rest, entry.1 ≠ key := by
        rintro entry isLater rfl
        exact distinct.1 (List.mem_map.mpr ⟨entry, isLater, rfl⟩)
      rw [mergeEntries, get?_mergeEntries_of_forall_ne apart, get?_apply, if_pos rfl]
    · have apart : key ≠ first.1 := by
        rintro rfl
        exact distinct.1 (List.mem_map.mpr ⟨_, later, rfl⟩)
      rw [mergeEntries, ih distinct.2 later, get?_apply, if_neg apart]

theorem get?_merge (node : LWWMap) (remoteState : InsertionMap JsString LWWRegister)
    (key : JsString) :
    (node.merge remoteState).state.get? key =
      joinHeld LWWRegister.priority (node.state.get? key) (remoteState.get? key) := by
  rw [merge]
  cases remote : remoteState.get? key with
  | none =>
    rw [InsertionMap.get?_eq_none_iff] at remote
    apply get?_mergeEntries_of_forall_ne
    rintro entry member rfl
    exact remote (List.mem_map.mpr ⟨entry, member, rfl⟩)
  | some register =>
    exact get?_mergeEntries_of_mem remoteState.nodup
      (InsertionMap.get?_eq_some_iff.mp remote)

theorem computeStateRoot_congr {left right : LWWMap}
    (same : ∀ key, left.state.get? key = right.state.get? key) (sha256 : Sha256) :
    left.computeStateRoot sha256 = right.computeStateRoot sha256 := by
  have sameKeys : sortTexts (left.state.entries.map Prod.fst) =
      sortTexts (right.state.entries.map Prod.fst) :=
    sortTexts_congr ((InsertionMap.get?_eq_iff_perm.mp same).map Prod.fst)
  rw [computeStateRoot, computeStateRoot, stateText, stateText, sameKeys, funext same]

end LWWMap

end GhostArk.ResearchFrontier.Crdt
