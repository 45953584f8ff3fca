import Mathlib.Data.List.Pairwise
import GhostArk.Js.Sha256
import GhostArk.Lib.Machine
import GhostArk.ResearchFrontier.Crdt.LwwMap

/-!
Contract: convergence of a swarm of last-writer-wins maps.

Owns swarms of nodes with their issued writes and shared states, operations in any
order with any repetition, the invariant of a run, and convergence.

Does not own the transport of `packages/research-frontier/src/crdt/messageBus.ts`.
-/

namespace GhostArk.ResearchFrontier.Crdt

open Js
open Lib

/-- A register with the key it is written under. -/
abbrev Write := JsString × LWWRegister

def under (writes : List Write) (key : JsString) : Set LWWRegister :=
  {register | (key, register) ∈ writes}

theorem under_append (first second : List Write) (key : JsString) :
    under (first ++ second) key = under first key ∪ under second key := by
  ext register
  exact List.mem_append

theorem under_singleton (write : Write) (key : JsString) :
    under [write] key = if key = write.1 then {write.2} else ∅ := by
  ext register
  rcases write with ⟨writtenKey, written⟩
  rw [under, Set.mem_ofPred_eq, List.mem_singleton, Prod.mk.injEq]
  by_cases same : key = writtenKey
  · rw [if_pos same, Set.mem_singleton_iff]
    exact and_iff_right same
  · rw [if_neg same]
    exact iff_of_false (fun both => same both.1) (Set.notMem_empty register)

/-- A state holds, under every key, the register of greatest priority among the writes. -/
def Holds (state : InsertionMap JsString LWWRegister) (writes : List Write) : Prop :=
  ∀ key, HoldsGreatest LWWRegister.priority (state.get? key) (under writes key)

/-- Two writes that `(clock, nodeId)` tells apart. -/
def Apart (first second : Write) : Prop :=
  ¬ (first.2.clock = second.2.clock ∧ first.2.nodeId = second.2.nodeId)

/-- A state in flight, with the writes its node had received. -/
structure SharedState where
  state : InsertionMap JsString LWWRegister
  received : List Write

/-- A node's map, what it has `applied` one register at a time, and what has reached it at all:
a merge applies the registers of the remote state, and brings all that the remote node had
received. -/
structure Replica where
  map : LWWMap
  applied : List Write
  received : List Write

structure Swarm (ι : Type) where
  replicas : ι → Replica
  issued : List Write
  shared : List SharedState

inductive SwarmOperation (ι : Type) where
  /-- `createWriteIntent`, then `apply`. -/
  | write (node : ι) (key value : JsString) (provenance : Provenance)
  /-- `createWriteIntent`, with the intent left unapplied. -/
  | intend (node : ι) (key value : JsString) (provenance : Provenance)
  /-- `apply` of an issued register, whenever it was issued and however often applied. -/
  | deliver (node : ι) (position : Nat)
  /-- `getState`. -/
  | share (node : ι)
  /-- `merge` of a shared state, whenever it was taken and however often merged. -/
  | merge (node : ι) (position : Nat)
deriving DecidableEq

namespace Replica

def apply (replica : Replica) (write : Write) : Bool × Replica :=
  let outcome := replica.map.apply write.1 write.2
  (outcome.1, ⟨outcome.2, replica.applied ++ [write], replica.received ++ [write]⟩)

def getState (replica : Replica) : SharedState := ⟨replica.map.state, replica.received⟩

def merge (replica : Replica) (remote : SharedState) : Replica :=
  ⟨replica.map.merge remote.state, replica.applied ++ remote.state.entries,
    replica.received ++ remote.received⟩

end Replica

namespace Swarm

variable {ι : Type} [DecidableEq ι]

def start (ids : ι → JsString) : Swarm ι := ⟨fun node => ⟨.new (ids node), [], []⟩, [], []⟩

def setReplica (swarm : Swarm ι) (node : ι) (replica : Replica) : Swarm ι :=
  { swarm with replicas := Function.update swarm.replicas node replica }

@[simp] theorem setReplica_self (swarm : Swarm ι) (node : ι) (replica : Replica) :
    (swarm.setReplica node replica).replicas node = replica :=
  Function.update_self _ _ _

theorem setReplica_of_ne (swarm : Swarm ι) {node other : ι} (apart : other ≠ node)
    (replica : Replica) : (swarm.setReplica node replica).replicas other = swarm.replicas other :=
  Function.update_of_ne apart _ _

def createWriteIntent (swarm : Swarm ι) (node : ι) (key value : JsString)
    (provenance : Provenance) : Write × Swarm ι :=
  let replica := swarm.replicas node
  let intent := replica.map.createWriteIntent value provenance
  let issuing := swarm.setReplica node { replica with map := intent.2 }
  ((key, intent.1), { issuing with issued := swarm.issued ++ [(key, intent.1)] })

def apply (swarm : Swarm ι) (node : ι) (write : Write) : Bool × Swarm ι :=
  let outcome := (swarm.replicas node).apply write
  (outcome.1, swarm.setReplica node outcome.2)

def machine : Machine (Swarm ι) (SwarmOperation ι) (Option Bool)
  | swarm, .write node key value provenance =>
    let intent := swarm.createWriteIntent node key value provenance
    let outcome := intent.2.apply node intent.1
    (some outcome.1, outcome.2)
  | swarm, .intend node key value provenance =>
    (none, (swarm.createWriteIntent node key value provenance).2)
  | swarm, .deliver node position =>
    match swarm.issued[position]? with
    | none => (none, swarm)
    | some write =>
      let outcome := swarm.apply node write
      (some outcome.1, outcome.2)
  | swarm, .share node =>
    (none, { swarm with shared := swarm.shared ++ [(swarm.replicas node).getState] })
  | swarm, .merge node position =>
    match swarm.shared[position]? with
    | none => (none, swarm)
    | some remote => (none, swarm.setReplica node ((swarm.replicas node).merge remote))

end Swarm

namespace Replica

structure Sound (id : JsString) (issued : List Write) (replica : Replica) : Prop where
  identified : replica.map.nodeId = id
  applied_subset : replica.applied ⊆ issued
  received_subset : replica.received ⊆ issued
  heard : ∀ write ∈ replica.received, write.2.clock ≤ replica.map.localClock
  holdsApplied : Holds replica.map.state replica.applied
  holdsReceived : Holds replica.map.state replica.received

variable {id : JsString} {issued : List Write} {replica : Replica}

theorem sound_new (id : JsString) : Sound id [] ⟨.new id, [], []⟩ where
  identified := rfl
  applied_subset := List.Subset.refl _
  received_subset := List.Subset.refl _
  heard := fun _ member => absurd member List.not_mem_nil
  holdsApplied := fun _ _ => List.not_mem_nil
  holdsReceived := fun _ _ => List.not_mem_nil

theorem Sound.mono {later : List Write} (sound : replica.Sound id issued)
    (subset : issued ⊆ later) : replica.Sound id later :=
  { sound with
    applied_subset := List.Subset.trans sound.applied_subset subset
    received_subset := List.Subset.trans sound.received_subset subset }

theorem Sound.createWriteIntent (sound : replica.Sound id issued) (value : JsString)
    (provenance : Provenance) :
    Sound id issued { replica with map := (replica.map.createWriteIntent value provenance).2 } :=
  { sound with heard := fun write member => Nat.le_succ_of_le (sound.heard write member) }

theorem Sound.apply (sound : replica.Sound id issued) {write : Write} (isIssued : write ∈ issued) :
    (replica.apply write).2.Sound id issued := by
  have holdsAlso {writes : List Write} (holds : Holds replica.map.state writes) :
      Holds (replica.map.apply write.1 write.2).2.state (writes ++ [write]) := by
    intro key
    rw [under_append, under_singleton, LWWMap.get?_apply]
    by_cases same : key = write.1
    · rw [if_pos same, if_pos same, ← same]
      exact (holds key).adopt (holdsGreatest_singleton write.2)
    · rw [if_neg same, if_neg same, Set.union_empty]
      exact holds key
  refine ⟨(LWWMap.nodeId_apply ..).trans sound.identified, ?_, ?_, ?_, holdsAlso sound.holdsApplied,
    holdsAlso sound.holdsReceived⟩
  · exact List.append_subset.mpr ⟨sound.applied_subset, List.cons_subset.mpr
      ⟨isIssued, List.nil_subset _⟩⟩
  · exact List.append_subset.mpr ⟨sound.received_subset, List.cons_subset.mpr
      ⟨isIssued, List.nil_subset _⟩⟩
  · intro other member
    rw [Replica.apply, LWWMap.localClock_apply]
    rcases List.mem_append.mp member with before | now
    · exact Nat.le_trans (sound.heard other before) (Nat.le_max_left _ _)
    · rw [List.mem_singleton.mp now]
      exact Nat.le_max_right _ _

theorem localClock_le_apply (replica : Replica) (write : Write) :
    replica.map.localClock ≤ (replica.apply write).2.map.localClock := by
  rw [Replica.apply, LWWMap.localClock_apply]
  exact Nat.le_max_left _ _

theorem localClock_le_merge (replica : Replica) (remote : SharedState) :
    replica.map.localClock ≤ (replica.merge remote).map.localClock :=
  LWWMap.localClock_le_mergeEntries _ _

theorem entries_subset {remote : SharedState} (holds : Holds remote.state remote.received) :
    remote.state.entries ⊆ remote.received := by
  rintro ⟨key, register⟩ member
  have held := holds key
  rw [InsertionMap.get?_eq_some_iff.mpr member] at held
  exact held.mem

theorem holds_entries (state : InsertionMap JsString LWWRegister) : Holds state state.entries := by
  intro key
  cases held : state.get? key with
  | none =>
    intro register member
    rw [InsertionMap.get?_eq_none_iff] at held
    exact held (List.mem_map.mpr ⟨_, member, rfl⟩)
  | some register =>
    refine ⟨InsertionMap.get?_eq_some_iff.mp held, ?_⟩
    intro other member
    have same := held.symm.trans (InsertionMap.get?_eq_some_iff.mpr member)
    rw [Option.some.inj same]

theorem Sound.merge (sound : replica.Sound id issued) {remote : SharedState}
    (subset : remote.received ⊆ issued) (holds : Holds remote.state remote.received) :
    (replica.merge remote).Sound id issued := by
  have holdsJoin {writes others : List Write} (here : Holds replica.map.state writes)
      (there : Holds remote.state others) :
      Holds (replica.map.merge remote.state).state (writes ++ others) := by
    intro key
    rw [under_append, LWWMap.get?_merge]
    exact (here key).joinHeld (there key)
  have entriesIssued := List.Subset.trans (entries_subset holds) subset
  refine ⟨(LWWMap.nodeId_mergeEntries ..).trans sound.identified, ?_, ?_, ?_,
    holdsJoin sound.holdsApplied (holds_entries _), holdsJoin sound.holdsReceived holds⟩
  · exact List.append_subset.mpr ⟨sound.applied_subset, entriesIssued⟩
  · exact List.append_subset.mpr ⟨sound.received_subset, subset⟩
  · intro write member
    rcases List.mem_append.mp member with before | brought
    · exact Nat.le_trans (sound.heard write before) (localClock_le_merge replica remote)
    · -- What the remote state holds under the key has at least this clock.
      rcases (holds write.1).exists_le brought with ⟨greatest, held, below⟩
      exact Nat.le_trans (LWWRegister.clock_le_of_priority_le below)
        (LWWMap.clock_le_mergeEntries (InsertionMap.get?_eq_some_iff.mp held))

theorem Sound.intent_wins (sound : replica.Sound id issued) (key value : JsString)
    (provenance : Provenance) :
    let intent := replica.map.createWriteIntent value provenance
    (intent.2.apply key intent.1).1 = true ∧
      (intent.2.apply key intent.1).2.state.get? key = some intent.1 := by
  apply LWWMap.apply_wins
  intro existing held
  have member := sound.holdsReceived key
  rw [show replica.map.state.get? key = some existing from held] at member
  exact LWWRegister.priority_lt_iff.mpr (Or.inl (Nat.lt_succ_of_le (sound.heard _ member.mem)))

end Replica

namespace Swarm

variable {ι : Type}

structure Sound (ids : ι → JsString) (swarm : Swarm ι) : Prop where
  replicas : ∀ node, (swarm.replicas node).Sound (ids node) swarm.issued
  owned : ∀ write ∈ swarm.issued, ∃ node, write.2.nodeId = ids node ∧
    write.2.clock ≤ (swarm.replicas node).map.localClock
  apart : swarm.issued.Pairwise Apart
  shared_subset : ∀ remote ∈ swarm.shared, remote.received ⊆ swarm.issued
  holdsShared : ∀ remote ∈ swarm.shared, Holds remote.state remote.received

theorem sound_start (ids : ι → JsString) : Sound ids (start ids) where
  replicas := fun node => Replica.sound_new (ids node)
  owned := fun _ member => absurd member List.not_mem_nil
  apart := List.Pairwise.nil
  shared_subset := fun _ member => absurd member List.not_mem_nil
  holdsShared := fun _ member => absurd member List.not_mem_nil

variable {ids : ι → JsString} {swarm : Swarm ι}

theorem Sound.eq_of_priority_eq (sound : swarm.Sound ids) {first second : Write}
    (isFirst : first ∈ swarm.issued) (isSecond : second ∈ swarm.issued)
    (same : first.2.priority = second.2.priority) : first = second := by
  by_contra different
  have symmetric : Std.Symm Apart :=
    ⟨fun _ _ apart both => apart ⟨both.1.symm, both.2.symm⟩⟩
  exact sound.apart.forall isFirst isSecond different (LWWRegister.priority_eq_iff.mp same)

theorem Sound.get?_eq (sound : swarm.Sound ids) {left right : InsertionMap JsString LWWRegister}
    {leftWrites rightWrites : List Write} (holdsLeft : Holds left leftWrites)
    (holdsRight : Holds right rightWrites) (subset : leftWrites ⊆ swarm.issued)
    (same : ∀ write, write ∈ leftWrites ↔ write ∈ rightWrites) (key : JsString) :
    left.get? key = right.get? key := by
  have sameUnder : ∀ register, register ∈ under leftWrites key ↔ register ∈ under rightWrites key :=
    fun register => same (key, register)
  apply HoldsGreatest.unique _ (holdsLeft key)
    ((holdsGreatest_congr sameUnder).mpr (holdsRight key))
  intro first isFirst second isSecond samePriority
  have one := sound.eq_of_priority_eq (subset isFirst) (subset isSecond) samePriority
  exact congrArg Prod.snd one

variable [DecidableEq ι]

theorem exists_owner_setReplica {node : ι} {replica : Replica} {write : Write}
    (grows : (swarm.replicas node).map.localClock ≤ replica.map.localClock)
    (owner : ∃ node, write.2.nodeId = ids node ∧
      write.2.clock ≤ (swarm.replicas node).map.localClock) :
    ∃ other, write.2.nodeId = ids other ∧
      write.2.clock ≤ ((swarm.setReplica node replica).replicas other).map.localClock := by
  rcases owner with ⟨other, own, bounded⟩
  refine ⟨other, own, ?_⟩
  by_cases same : other = node
  · subst same
    rw [setReplica_self]
    exact Nat.le_trans bounded grows
  · rw [setReplica_of_ne swarm same]
    exact bounded

theorem Sound.setReplica (sound : swarm.Sound ids) {node : ι} {replica : Replica}
    (replicaSound : replica.Sound (ids node) swarm.issued)
    (grows : (swarm.replicas node).map.localClock ≤ replica.map.localClock) :
    (swarm.setReplica node replica).Sound ids :=
  { sound with
    replicas := (Function.forall_update_iff _ fun other replica =>
      Replica.Sound (ids other) swarm.issued replica).mpr
        ⟨replicaSound, fun other _ => sound.replicas other⟩
    owned := fun write member => exists_owner_setReplica grows (sound.owned write member) }

theorem Sound.createWriteIntent (distinct : Function.Injective ids) (sound : swarm.Sound ids)
    (node : ι) (key value : JsString) (provenance : Provenance) :
    (swarm.createWriteIntent node key value provenance).2.Sound ids := by
  have intended := (sound.replicas node).createWriteIntent value provenance
  have issuing := sound.setReplica intended (Nat.le_succ _)
  have isNew : ∀ write ∈ swarm.issued,
      Apart write (swarm.createWriteIntent node key value provenance).1 := by
    rintro write member ⟨sameClock, sameId⟩
    rcases sound.owned write member with ⟨owner, own, bounded⟩
    have isOwner : owner = node :=
      distinct (own.symm.trans (sameId.trans (sound.replicas node).identified))
    subst isOwner
    rw [sameClock] at bounded
    exact absurd bounded (Nat.not_succ_le_self _)
  refine ⟨?_, ?_, ?_, ?_, issuing.holdsShared⟩
  · intro other
    exact (issuing.replicas other).mono (List.subset_append_left _ _)
  · intro write member
    rcases List.mem_append.mp member with before | now
    · exact issuing.owned write before
    · rw [List.mem_singleton.mp now]
      refine ⟨node, (sound.replicas node).identified, ?_⟩
      rw [Swarm.createWriteIntent, setReplica_self]
      exact Nat.le_refl _
  · refine List.pairwise_append.mpr ⟨sound.apart, List.pairwise_singleton _ _, ?_⟩
    intro write member other now
    rw [List.mem_singleton.mp now]
    exact isNew write member
  · intro remote member
    exact List.Subset.trans (sound.shared_subset remote member) (List.subset_append_left _ _)

theorem Sound.apply (sound : swarm.Sound ids) (node : ι) {write : Write}
    (isIssued : write ∈ swarm.issued) : (swarm.apply node write).2.Sound ids :=
  sound.setReplica ((sound.replicas node).apply isIssued) (Replica.localClock_le_apply _ _)

/-- Every operation of the swarm keeps the invariant. -/
theorem Sound.step (distinct : Function.Injective ids) (sound : swarm.Sound ids)
    (operation : SwarmOperation ι) : (machine swarm operation).2.Sound ids := by
  cases operation with
  | write node key value provenance =>
    exact (sound.createWriteIntent distinct node key value provenance).apply node
      (List.mem_append_right _ (List.mem_singleton_self _))
  | intend node key value provenance =>
    exact sound.createWriteIntent distinct node key value provenance
  | deliver node position =>
    rw [machine]
    cases found : swarm.issued[position]? with
    | none => exact sound
    | some write => exact sound.apply node (List.mem_of_getElem? found)
  | share node =>
    have replicaSound := sound.replicas node
    refine { sound with shared_subset := ?_, holdsShared := ?_ }
    · intro remote member
      rcases List.mem_append.mp member with before | now
      · exact sound.shared_subset remote before
      · rw [List.mem_singleton.mp now]
        exact replicaSound.received_subset
    · intro remote member
      rcases List.mem_append.mp member with before | now
      · exact sound.holdsShared remote before
      · rw [List.mem_singleton.mp now]
        exact replicaSound.holdsReceived
  | merge node position =>
    rw [machine]
    cases found : swarm.shared[position]? with
    | none => exact sound
    | some remote =>
      have member := List.mem_of_getElem? found
      exact sound.setReplica
        ((sound.replicas node).merge (sound.shared_subset remote member)
          (sound.holdsShared remote member))
        (Replica.localClock_le_merge _ _)

/-- Every run of the swarm from the empty replicas is sound. -/
theorem Sound.run (distinct : Function.Injective ids) (operations : List (SwarmOperation ι)) :
    (machine.finalState (start ids) operations).Sound ids := by
  have always : machine.Throughout (fun _ _ => True) (start ids) operations :=
    Machine.throughout_of_forall fun _ _ => trivial
  exact Machine.invariant_finalState (fun _ operation sound _ => sound.step distinct operation)
    (sound_start ids) always

/-! ### Convergence -/

/-- A local write wins: `apply` says so, and the state holds the register. -/
def WriteWins (swarm : Swarm ι) : SwarmOperation ι → Prop
  | .write node key value provenance =>
    let next := machine swarm (.write node key value provenance)
    next.1 = some true ∧
      (next.2.replicas node).map.state.get? key =
        some ((swarm.replicas node).map.createWriteIntent value provenance).1
  | _ => True

theorem Sound.writeWins (sound : swarm.Sound ids) (operation : SwarmOperation ι) :
    WriteWins swarm operation := by
  cases operation with
  | write node key value provenance =>
    have wins := (sound.replicas node).intent_wins key value provenance
    simp only [WriteWins, machine, Swarm.apply, Swarm.createWriteIntent, setReplica_self,
      Replica.apply]
    exact ⟨congrArg some wins.1, wins.2⟩
  | intend | deliver | share | merge => exact trivial

/-- Two nodes hold equal maps, and show the same state root. -/
def Agree (sha256 : Sha256) (left right : LWWMap) : Prop :=
  left.state.entries.Perm right.state.entries ∧
    left.computeStateRoot sha256 = right.computeStateRoot sha256

theorem agree_of_get?_eq (sha256 : Sha256) {left right : LWWMap}
    (same : ∀ key, left.state.get? key = right.state.get? key) : Agree sha256 left right :=
  ⟨InsertionMap.get?_eq_iff_perm.mp same, LWWMap.computeStateRoot_congr same sha256⟩

/-- Whatever the order and repetition of writes, deliveries and merges: every node holds, per
key, the greatest register it applied; issued writes differ in `(clock, nodeId)`; local writes
win; and nodes that the same writes have reached agree. -/
theorem lwwMaps_converge (sha256 : Sha256) (ids : ι → JsString)
    (distinct : Function.Injective ids) (operations : List (SwarmOperation ι)) :
    let swarm := machine.finalState (start ids) operations
    (∀ node, Holds (swarm.replicas node).map.state (swarm.replicas node).applied) ∧
      swarm.issued.Pairwise Apart ∧
      machine.Throughout WriteWins (start ids) operations ∧
      (∀ first second,
        (∀ write, write ∈ (swarm.replicas first).applied ↔
          write ∈ (swarm.replicas second).applied) →
            Agree sha256 (swarm.replicas first).map (swarm.replicas second).map) ∧
      ∀ first second,
        (∀ write, write ∈ (swarm.replicas first).received ↔
          write ∈ (swarm.replicas second).received) →
            Agree sha256 (swarm.replicas first).map (swarm.replicas second).map := by
  intro swarm
  have sound : swarm.Sound ids := Sound.run distinct operations
  refine ⟨fun node => (sound.replicas node).holdsApplied, sound.apart, ?_, ?_, ?_⟩
  · have always : machine.Throughout (fun _ _ => True) (start ids) operations :=
      Machine.throughout_of_forall fun _ _ => trivial
    exact Machine.throughout_of_invariant
      (fun _ operation sound _ => ⟨sound.writeWins operation, sound.step distinct operation⟩)
      (sound_start ids) always
  · intro first second same
    exact agree_of_get?_eq sha256 fun key =>
      sound.get?_eq (sound.replicas first).holdsApplied (sound.replicas second).holdsApplied
        (sound.replicas first).applied_subset same key
  · intro first second same
    exact agree_of_get?_eq sha256 fun key =>
      sound.get?_eq (sound.replicas first).holdsReceived (sound.replicas second).holdsReceived
        (sound.replicas first).received_subset same key

end Swarm

namespace SwarmSample

def ids : Bool → JsString := fun isFirst => if isFirst then js "Node-A" else js "Node-B"

/-- Both nodes write the same key at the same clock; one delivery, then a merge back. -/
def operations : List (SwarmOperation Bool) :=
  [.write true (js "k") (js "a") .AGENT_ASSERTED, .write false (js "k") (js "b") .AGENT_ASSERTED,
    .deliver false 0, .share false, .merge true 0]

theorem nodes_agree :
    let swarm := Swarm.machine.finalState (Swarm.start ids) operations
    Swarm.Agree fips180 (swarm.replicas true).map (swarm.replicas false).map := by
  intro swarm
  have distinct : Function.Injective ids := Bool.injective_iff.mpr (by decide)
  have toSecond : ∀ write ∈ (swarm.replicas true).received,
      write ∈ (swarm.replicas false).received := by decide
  have toFirst : ∀ write ∈ (swarm.replicas false).received,
      write ∈ (swarm.replicas true).received := by decide
  exact (Swarm.lwwMaps_converge fips180 ids distinct operations).2.2.2.2 true false
    fun write => ⟨toSecond write, toFirst write⟩

end SwarmSample

end GhostArk.ResearchFrontier.Crdt
