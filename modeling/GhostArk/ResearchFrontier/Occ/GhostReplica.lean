import GhostArk.Js.Double
import GhostArk.Js.Utf8
import GhostArk.Lib.InsertionMap
import GhostArk.Lib.Machine
import GhostArk.ResearchFrontier.Occ.StateHash

/-!
Contract: `packages/research-frontier/src/occ/ghostReplica.ts`.

Owns the world of versioned records, replicas with their read and write sets, and
the gate: foreign mutations and the commit with its conflict check, its semantic
gate and the materialisation of staged writes, step by step where it can throw.

Does not own: the linear program of the semantic gate; its status is a parameter.
The maps of the source are object literals. A write under the name `__proto__` sets a
prototype instead of an entry, and is left out.
-/

namespace GhostArk.ResearchFrontier.Occ

open Js
open Lib

inductive LpStatus where
  | OPTIMAL
  | INFEASIBLE
  | UNBOUNDED
  | EVALUATION_UNDECIDABLE
deriving DecidableEq, Repr

def LpStatus.text : LpStatus → JsString
  | OPTIMAL => js "OPTIMAL"
  | INFEASIBLE => js "INFEASIBLE"
  | UNBOUNDED => js "UNBOUNDED"
  | EVALUATION_UNDECIDABLE => js "EVALUATION_UNDECIDABLE"

/-! ### The world -/

/-- A double counts integers up to here. -/
def countLimit : Nat := 2 ^ 53

structure WorldRecord where
  value : JsValue
  version : Nat
  stateHash : JsString
  counted : version ≤ countLimit

/-- `version + 1`: the limit is its own successor. -/
def nextVersion (version : Nat) : Nat := if version < countLimit then version + 1 else version

theorem nextVersion_le {version : Nat} (counted : version ≤ countLimit) :
    nextVersion version ≤ countLimit := by
  rw [nextVersion]
  split
  · omega
  · exact counted

/-- The own entries of the world object. -/
abbrev WorldState := JsString → Option WorldRecord

/-- `world[key]?.version ?? 0`. -/
def currentVersion (world : WorldState) (key : JsString) : Nat :=
  ((world key).map (·.version)).getD 0

def valueInWorld (world : WorldState) (key : JsString) : JsValue :=
  ((world key).map (·.value)).getD .undefined

/-- A key under which an assignment makes an entry. -/
structure EntryKey where
  key : JsString
  isEntry : key ≠ js "__proto__"

def setRecord (world : WorldState) (key : JsString) (record : WorldRecord) : WorldState :=
  Function.update world key (some record)

section Gate

variable (runtime : Runtime) (hostJson : HostJson)

/-- The assignments of one mutation, in their order: a value without a digest ends them after
an existing record has its new value and version. -/
def assignRecord (world : WorldState) (key : JsString) (value : JsValue) :
    Except JsError Unit × WorldState :=
  match world key, hashState runtime hostJson value with
  | none, .error error => (.error error, world)
  | none, .ok stateHash =>
    -- an inherited method takes the assignments instead of the world
    if key ∈ objectPrototypeKeys then (.ok (), world)
    else (.ok (), setRecord world key ⟨value, 1, stateHash, by decide⟩)
  | some record, .error error =>
    (.error error, setRecord world key
      ⟨value, nextVersion record.version, record.stateHash, nextVersion_le record.counted⟩)
  | some record, .ok stateHash =>
    (.ok (), setRecord world key
      ⟨value, nextVersion record.version, stateHash, nextVersion_le record.counted⟩)

def materialize (world : WorldState) : List (JsString × JsValue) → Except JsError Unit × WorldState
  | [] => (.ok (), world)
  | (key, value) :: rest =>
    match assignRecord runtime hostJson world key value with
    | (.error error, next) => (.error error, next)
    | (.ok _, next) => materialize next rest

structure GhostReplica where
  readSet : InsertionMap JsString Nat
  writeSet : InsertionMap JsString JsValue
  /-- What `read` has returned from the world since the last wipe. Statements are about it; no
  operation reads it. -/
  returned : List (JsString × JsValue)

def GhostReplica.empty : GhostReplica := ⟨.empty, .empty, []⟩

/-- Where `read` finds its value. -/
inductive ReadReply where
  | staged (value : JsValue)
  | world (value : JsValue)

def GhostReplica.read (replica : GhostReplica) (world : WorldState) (key : JsString) :
    ReadReply × GhostReplica :=
  match replica.writeSet.get? key with
  | some value => (.staged value, replica)
  | none =>
    -- `key in this.writeSet` holds of inherited names too
    if key ∈ objectPrototypeKeys then (.staged (inheritedValue key), replica)
    else
      (.world (valueInWorld world key),
        { replica with
          readSet := replica.readSet.set key (currentVersion world key)
          returned := replica.returned ++ [(key, valueInWorld world key)] })

def GhostReplica.write (replica : GhostReplica) (key : EntryKey) (value : JsValue) :
    GhostReplica :=
  { replica with writeSet := replica.writeSet.set key.key value }

inductive CommitOutcome where
  | commit (writeCount : Nat)
  | conflict (conflicts : List JsString)
  | undecidable (witness : JsValue)
  | refuted (witness : JsValue)

def CommitOutcome.reason : CommitOutcome → Option JsString
  | commit _ => none
  | conflict _ =>
    some (js "Read-Set invalidated by external world-state mutation. Speculative collapse.")
  | undecidable _ =>
    some (js "Chaitin one-sided comprehension budget exceeded. Refutation witness generated.")
  | refuted _ =>
    some (js "LP Oracle refuted safety claim. Fréchet bounds violated under TEMPORAL_STOPPING.")

def isTruthy : JsValue → Bool
  | .undefined => false
  | .hole => false
  | .null => false
  | .bool value => value
  | .number value => !(value == .nan || value == .finite 0)
  | .string value => value != []
  | _ => true

def undecidableWitness (payloadContext : JsValue) (maxIterations : JsNumber) :
    Except JsError JsValue := do
  let payload ← if isTruthy payloadContext then stringify runtime hostJson .none payloadContext
    else .ok (some [])
  let payloadHash ← hashState runtime hostJson payloadContext
  match payload with
  | none => throw (typeError (js "The \"string\" argument must be of type string"))
  | some text =>
    return .object [(js "type", .string (js "ChaitinGenerator")),
      (js "payloadHash", .string payloadHash),
      (js "bytes", .number (.ofNat (utf8 text).length)),
      (js "iterationsExhausted", .number maxIterations)]

def refutedWitness (failureMarginals : List JsNumber) : JsValue :=
  .object [(js "type", .string (js "KripkeModel")), (js "world", .string (js "W_refuted")),
    (js "marginals", .array (failureMarginals.map .number)),
    (js "sum", .number (failureMarginals.foldl JsNumber.add (.finite 0)))]

/-- `LpOracle.exactBounds(marginals, TEMPORAL_STOPPING, maxIterations).union.status`. -/
abbrev UnionStatus := List JsNumber → JsNumber → LpStatus

variable (unionStatus : UnionStatus)

/-- The keys that were read at another version. -/
def conflictsOf (world : WorldState) (replica : GhostReplica) : List JsString :=
  ((objectOrder replica.readSet.entries).filter fun entry =>
    currentVersion world entry.1 ≠ entry.2).map Prod.fst

structure CommitResult where
  outcome : Except JsError CommitOutcome
  world : WorldState
  replica : GhostReplica

/-- The commit phase, once both gates are passed. -/
def commitWrites (world : WorldState) (replica : GhostReplica) : CommitResult :=
  let writes := objectOrder replica.writeSet.entries
  match materialize runtime hostJson world writes with
  | (.error error, next) => ⟨.error error, next, replica⟩
  | (.ok _, next) => ⟨.ok (.commit writes.length), next, replica⟩

def commit (world : WorldState) (replica : GhostReplica) (failureMarginals : List JsNumber)
    (payloadContext : JsValue) (maxIterations : JsNumber) : CommitResult :=
  match conflictsOf world replica with
  | first :: rest => ⟨.ok (.conflict (first :: rest)), world, .empty⟩
  | [] =>
    if failureMarginals.isEmpty then commitWrites runtime hostJson world replica
    else
      match unionStatus failureMarginals maxIterations with
      | .EVALUATION_UNDECIDABLE =>
        ⟨(undecidableWitness runtime hostJson payloadContext maxIterations).map .undecidable,
          world, .empty⟩
      | .INFEASIBLE => ⟨.ok (.refuted (refutedWitness failureMarginals)), world, .empty⟩
      | _ => commitWrites runtime hostJson world replica

/-- Replicas on one world. -/
structure OccSystem (ι : Type) where
  world : WorldState
  replicas : ι → GhostReplica

inductive OccCall (ι : Type) where
  | read (replica : ι) (key : JsString)
  | write (replica : ι) (key : EntryKey) (value : JsValue)
  | wipe (replica : ι)
  | simulateExternalMutation (key : EntryKey) (newValue : JsValue)
  | commit (replica : ι) (failureMarginals : List JsNumber) (payloadContext : JsValue)
      (maxIterations : JsNumber)

inductive OccReply where
  | read (reply : ReadReply)
  | done
  | commit (outcome : CommitOutcome)

variable {ι : Type} [DecidableEq ι]

def OccSystem.setReplica (system : OccSystem ι) (index : ι) (replica : GhostReplica) :
    OccSystem ι :=
  { system with replicas := Function.update system.replicas index replica }

def occ : Machine (OccSystem ι) (OccCall ι) (Except JsError OccReply) := fun system call =>
  match call with
  | .read index key =>
    let (reply, replica) := (system.replicas index).read system.world key
    (.ok (.read reply), system.setReplica index replica)
  | .write index key value =>
    (.ok .done, system.setReplica index ((system.replicas index).write key value))
  | .wipe index => (.ok .done, system.setReplica index .empty)
  | .simulateExternalMutation key newValue =>
    let (outcome, world) := assignRecord runtime hostJson system.world key.key newValue
    (outcome.map fun _ => .done, { system with world })
  | .commit index failureMarginals payloadContext maxIterations =>
    let result := commit runtime hostJson unionStatus system.world (system.replicas index)
      failureMarginals payloadContext maxIterations
    (result.outcome.map .commit,
      { system.setReplica index result.replica with world := result.world })

end Gate

end GhostArk.ResearchFrontier.Occ
