import GhostArk.ResearchFrontier.Crdt.Convergence

/-!
Contract: `packages/research-frontier/src/crdt/messageBus.ts`.

Owns the simulated network over registered nodes, proposals with the provenance floor and
aborts, delivery of any message in flight, and the agreement of all nodes at quiescence.

Latencies, random aborts and timeouts are choices of the run. Does not own the receipts, which
no node reads.
-/

namespace GhostArk.ResearchFrontier.Crdt

open Js
open Lib

inductive ProvenanceFloor where
  | GATEWAY_RECORDED
  | AGENT_ASSERTED
  | NONE
deriving DecidableEq

structure NetworkMessage (ι : Type) where
  fromNode : ι
  toNode : ι
  key : JsString
  register : LWWRegister

structure SimulatedNetwork (ι : Type) where
  nodes : ι → LWWMap
  inFlightMessages : List (NetworkMessage ι)

inductive NetworkOperation (ι : Type) where
  /-- `aborted` says whether the random draw is below `q2AbortRate`. -/
  | proposeIntent (node : ι) (key value : JsString) (provenance : Provenance)
      (requiredFloor : ProvenanceFloor) (aborted : Bool)
  /-- One turn of `processQueueUntilQuiescence`: the message at `readyIdx` is due. -/
  | process (readyIdx : Nat)

def NetworkMessage.write {ι : Type} (message : NetworkMessage ι) : Write :=
  (message.key, message.register)

namespace SimulatedNetwork

variable {ι : Type} [DecidableEq ι] (registered : List ι)

def start (ids : ι → JsString) : SimulatedNetwork ι := ⟨fun node => .new (ids node), []⟩

def broadcast (node : ι) (key : JsString) (register : LWWRegister) : List (NetworkMessage ι) :=
  (registered.filter (· ≠ node)).map fun target => ⟨node, target, key, register⟩

def proposeIntent (network : SimulatedNetwork ι) (node : ι) (key value : JsString)
    (provenance : Provenance) (requiredFloor : ProvenanceFloor) (aborted : Bool) :
    SimulatedNetwork ι :=
  let intent := (network.nodes node).createWriteIntent value provenance
  if requiredFloor = .GATEWAY_RECORDED ∧ provenance = .AGENT_ASSERTED then
    { network with nodes := Function.update network.nodes node intent.2 }
  else if aborted then network
  else
    { nodes := Function.update network.nodes node (intent.2.apply key intent.1).2
      inFlightMessages := network.inFlightMessages ++ broadcast registered node key intent.1 }

def machine : Machine (SimulatedNetwork ι) (NetworkOperation ι) Unit
  | network, .proposeIntent node key value provenance requiredFloor aborted =>
    ((), network.proposeIntent registered node key value provenance requiredFloor aborted)
  | network, .process readyIdx =>
    match network.inFlightMessages[readyIdx]? with
    | none => ((), network)
    | some message =>
      let target := ((network.nodes message.toNode).apply message.key message.register).2
      ((), ⟨Function.update network.nodes message.toNode target,
        network.inFlightMessages.eraseIdx readyIdx⟩)

/-! ### A network is a swarm -/

/-- The write has reached the node, or is on its way there. -/
def Reaches (network : SimulatedNetwork ι) (swarm : Swarm ι) (write : Write) (node : ι) : Prop :=
  write ∈ (swarm.replicas node).received ∨
    ∃ message ∈ network.inFlightMessages, message.toNode = node ∧ message.write = write

/-- A sound swarm has the nodes of the network, and a write that reaches one node reaches all. -/
structure Simulates (ids : ι → JsString) (network : SimulatedNetwork ι) (swarm : Swarm ι) :
    Prop where
  sound : swarm.Sound ids
  nodes : ∀ node, (swarm.replicas node).map = network.nodes node
  issued : ∀ message ∈ network.inFlightMessages, message.write ∈ swarm.issued
  spreads : ∀ {write first}, Reaches network swarm write first →
    ∀ second, Reaches network swarm write second

variable {registered} {ids : ι → JsString} {network : SimulatedNetwork ι} {swarm : Swarm ι}

omit [DecidableEq ι] in
theorem simulates_start (ids : ι → JsString) : Simulates ids (start ids) (Swarm.start ids) where
  sound := Swarm.sound_start ids
  nodes := fun _ => rfl
  issued := List.forall_mem_nil _
  spreads := by
    rintro write first (received | ⟨message, inFlight, -⟩)
    · exact absurd received List.not_mem_nil
    · exact absurd inFlight List.not_mem_nil

theorem Simulates.nodes_setReplica (simulates : Simulates ids network swarm) (node : ι)
    (replica : Replica) (other : ι) :
    ((swarm.setReplica node replica).replicas other).map =
      Function.update network.nodes node replica.map other := by
  by_cases same : other = node
  · rw [same, Swarm.setReplica_self, Function.update_self]
  · rw [Swarm.setReplica_of_ne swarm same, Function.update_of_ne same, simulates.nodes]

/-- An intent that is not applied moves only a clock. -/
theorem Simulates.intend (distinct : Function.Injective ids)
    (simulates : Simulates ids network swarm) (node : ι) (key value : JsString)
    (provenance : Provenance) :
    Simulates ids
      { network with
        nodes := Function.update network.nodes node
          ((network.nodes node).createWriteIntent value provenance).2 }
      (swarm.createWriteIntent node key value provenance).2 := by
  have received (other : ι) :
      ((swarm.createWriteIntent node key value provenance).2.replicas other).received =
        (swarm.replicas other).received := by
    by_cases same : other = node
    · rw [same, Swarm.createWriteIntent, Swarm.setReplica_self]
    · exact congrArg Replica.received (Swarm.setReplica_of_ne swarm same _)
  refine ⟨simulates.sound.createWriteIntent distinct node key value provenance, ?_, ?_, ?_⟩
  · rw [← simulates.nodes node]
    exact simulates.nodes_setReplica node _
  · exact fun message inFlight => List.mem_append_left _ (simulates.issued message inFlight)
  · simp only [Reaches, received]
    exact simulates.spreads

theorem mem_received_apply {node other : ι} {write earlier : Write} :
    earlier ∈ ((swarm.apply node write).2.replicas other).received ↔
      earlier ∈ (swarm.replicas other).received ∨ other = node ∧ earlier = write := by
  by_cases same : other = node
  · rw [same, Swarm.apply, Swarm.setReplica_self, and_iff_right rfl]
    exact List.mem_append.trans (or_congr_right List.mem_singleton)
  · rw [Swarm.apply, Swarm.setReplica_of_ne _ same]
    exact (or_iff_left fun both => same both.1).symm

/-- Applying a write that every other node has had or will be sent. -/
theorem Simulates.apply (simulates : Simulates ids network swarm) (node : ι) (write : Write)
    (messages : List (NetworkMessage ι)) (isIssued : write ∈ swarm.issued)
    (subset : ∀ message ∈ messages, message ∈ network.inFlightMessages ∨ message.write = write)
    (kept : ∀ message ∈ network.inFlightMessages,
      message ∈ messages ∨ message.toNode = node ∧ message.write = write)
    (everywhere : ∀ other, Reaches network swarm write other ∨ other = node ∨
      ∃ message ∈ messages, message.toNode = other ∧ message.write = write) :
    Simulates ids
      ⟨Function.update network.nodes node ((network.nodes node).apply write.1 write.2).2, messages⟩
      (swarm.apply node write).2 := by
  have stays {earlier : Write} {other : ι} (reached : Reaches network swarm earlier other) :
      Reaches ⟨Function.update network.nodes node ((network.nodes node).apply write.1 write.2).2,
        messages⟩ (swarm.apply node write).2 earlier other := by
    rcases reached with received | ⟨message, inFlight, rfl, rfl⟩
    · exact Or.inl (mem_received_apply.mpr (Or.inl received))
    · rcases kept message inFlight with still | arrived
      · exact Or.inr ⟨message, still, rfl, rfl⟩
      · exact Or.inl (mem_received_apply.mpr (Or.inr arrived))
  refine ⟨simulates.sound.apply node isIssued, ?_, ?_, ?_⟩
  · rw [← simulates.nodes node]
    exact simulates.nodes_setReplica node _
  · intro message member
    rcases subset message member with before | now
    · exact simulates.issued message before
    · exact now ▸ isIssued
  · intro earlier first reached second
    -- Whatever is not this write was reaching every node before.
    have before : Reaches network swarm earlier first ∨ earlier = write := by
      rcases reached with received | ⟨message, member, toFirst, rfl⟩
      · exact (mem_received_apply.mp received).imp Or.inl And.right
      · exact (subset message member).imp_left fun inFlight =>
          Or.inr ⟨message, inFlight, toFirst, rfl⟩
    rcases before with before | rfl
    · exact stays (simulates.spreads before second)
    · rcases everywhere second with reached | rfl | onTheWay
      · exact stays reached
      · exact Or.inl (mem_received_apply.mpr (Or.inr ⟨rfl, rfl⟩))
      · exact Or.inr onTheWay

/-- A proposal that passes is applied here and sent to every other node. -/
theorem Simulates.write (complete : ∀ node, node ∈ registered) (distinct : Function.Injective ids)
    (simulates : Simulates ids network swarm) (node : ι) (key value : JsString)
    (provenance : Provenance) :
    let intent := (network.nodes node).createWriteIntent value provenance
    ∃ later, Simulates ids
      ⟨Function.update network.nodes node (intent.2.apply key intent.1).2,
        network.inFlightMessages ++ broadcast registered node key intent.1⟩ later := by
  intro intent
  have sends : ∀ message ∈ broadcast registered node key intent.1,
      message.write = (key, intent.1) := by
    intro message member
    rcases List.mem_map.mp member with ⟨target, _, rfl⟩
    rfl
  have isIntent : (swarm.createWriteIntent node key value provenance).1 = (key, intent.1) := by
    rw [Swarm.createWriteIntent, simulates.nodes]
  have intending := simulates.intend distinct node key value provenance
  have applied := intending.apply node (key, intent.1)
    (network.inFlightMessages ++ broadcast registered node key intent.1)
    (List.mem_append_right _ (List.mem_singleton.mpr isIntent.symm))
    (fun message member => (List.mem_append.mp member).imp_right (sends message))
    (fun message inFlight => Or.inl (List.mem_append_left _ inFlight)) ?_
  · dsimp only at applied
    rw [Function.update_idem, Function.update_self] at applied
    exact ⟨_, applied⟩
  · intro other
    by_cases same : other = node
    · exact Or.inr (Or.inl same)
    · refine Or.inr (Or.inr ⟨⟨node, other, key, intent.1⟩, List.mem_append_right _ ?_, rfl, rfl⟩)
      exact List.mem_map.mpr
        ⟨other, List.mem_filter.mpr ⟨complete other, decide_eq_true same⟩, rfl⟩

/-- Processing a message applies its write in the swarm. -/
theorem Simulates.process (simulates : Simulates ids network swarm) {readyIdx : Nat}
    {message : NetworkMessage ι} (found : network.inFlightMessages[readyIdx]? = some message) :
    Simulates ids
      ⟨Function.update network.nodes message.toNode
          ((network.nodes message.toNode).apply message.key message.register).2,
        network.inFlightMessages.eraseIdx readyIdx⟩
      (swarm.apply message.toNode message.write).2 := by
  have inFlight := List.mem_of_getElem? found
  apply simulates.apply message.toNode message.write _ (simulates.issued message inFlight)
  · exact fun other member => Or.inl (List.mem_of_mem_eraseIdx member)
  · intro other member
    rcases List.getElem?_of_mem member with ⟨index, atIndex⟩
    by_cases same : index = readyIdx
    · rw [same, found] at atIndex
      obtain rfl := Option.some.inj atIndex
      exact Or.inr ⟨rfl, rfl⟩
    · exact Or.inl (List.mem_eraseIdx_iff_getElem?.mpr ⟨index, same, atIndex⟩)
  · exact fun other => Or.inl (simulates.spreads (Or.inr ⟨message, inFlight, rfl, rfl⟩) other)

/-- Every step of the network is a step of the swarm, or none. -/
theorem exists_simulates_step (complete : ∀ node, node ∈ registered)
    (distinct : Function.Injective ids) (simulates : ∃ swarm, Simulates ids network swarm)
    (operation : NetworkOperation ι) :
    ∃ later, Simulates ids (machine registered network operation).2 later := by
  rcases simulates with ⟨swarm, simulates⟩
  cases operation with
  | proposeIntent node key value provenance requiredFloor aborted =>
    simp only [machine, proposeIntent]
    split
    next => exact ⟨_, simulates.intend distinct node key value provenance⟩
    next =>
      split
      next => exact ⟨swarm, simulates⟩
      next => exact simulates.write complete distinct node key value provenance
  | process readyIdx =>
    rw [machine]
    cases found : network.inFlightMessages[readyIdx]? with
    | none => exact ⟨swarm, simulates⟩
    | some message => exact ⟨_, simulates.process found⟩

/-- **Agreement at quiescence.** Whatever was proposed, refused, aborted and delivered, in
whatever order: once no message is in flight, all nodes have one state. -/
theorem agree_of_quiescence (complete : ∀ node, node ∈ registered) (sha256 : Sha256)
    {ids : ι → JsString} (distinct : Function.Injective ids)
    (operations : List (NetworkOperation ι))
    (quiescent : ((machine registered).finalState (start ids) operations).inFlightMessages = [])
    (first second : ι) :
    let network := (machine registered).finalState (start ids) operations
    Swarm.Agree sha256 (network.nodes first) (network.nodes second) := by
  intro network
  have step (network : SimulatedNetwork ι) (operation : NetworkOperation ι)
      (kept : ∃ swarm, Simulates ids network swarm) :=
    exists_simulates_step complete distinct kept operation
  have simulated : ∃ swarm, Simulates ids network swarm :=
    Machine.preserved_finalState step operations ⟨_, simulates_start ids⟩
  rcases simulated with ⟨swarm, simulates⟩
  have reaches {left right : ι} {write : Write}
      (received : write ∈ (swarm.replicas left).received) :
      write ∈ (swarm.replicas right).received := by
    rcases simulates.spreads (Or.inl received) right with reached | ⟨message, inFlight, -⟩
    · exact reached
    · exact absurd (quiescent ▸ inFlight) List.not_mem_nil
  have sound := simulates.sound
  rw [← simulates.nodes, ← simulates.nodes]
  exact Swarm.agree_of_get?_eq sha256 fun key =>
    sound.get?_eq (sound.replicas first).holdsReceived (sound.replicas second).holdsReceived
      (sound.replicas first).received_subset (fun _ => ⟨reaches, reaches⟩) key

/-- A proposal at each node, and both messages delivered in reverse. -/
theorem agree_of_quiescence_two :
    let network := (machine [true, false]).finalState (start SwarmSample.ids)
      [.proposeIntent true (js "k") (js "a") .AGENT_ASSERTED .NONE false,
        .proposeIntent false (js "k") (js "b") .AGENT_ASSERTED .NONE false, .process 1, .process 0]
    Swarm.Agree fips180 (network.nodes true) (network.nodes false) :=
  agree_of_quiescence (by decide) fips180 (Bool.injective_iff.mpr (by decide)) _ (by decide) _ _

end SimulatedNetwork

end GhostArk.ResearchFrontier.Crdt
