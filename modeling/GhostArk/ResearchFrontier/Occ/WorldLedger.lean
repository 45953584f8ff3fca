import GhostArk.Lib.InsertionMap
import GhostArk.ResearchFrontier.Occ.StateHash

/-!
Contract: `packages/research-frontier/src/occ/time_state_replica.ts`.

Owns the ledger with its data and its hashes in two maps, direct mutations, speculative
commits with their drift check, and the windows that pull, stage and collapse.
-/

namespace GhostArk.ResearchFrontier.Occ

open Js
open Lib

structure WorldLedger where
  memorySpace : JsString → Option JsValue
  hashSpace : JsString → Option JsString

/-- `hashStateBlock(undefined)`. -/
def absentHash : JsString := js "undefined"

namespace WorldLedger

def empty : WorldLedger := ⟨fun _ => none, fun _ => none⟩

def stateHash (ledger : WorldLedger) (key : JsString) : JsString :=
  (ledger.hashSpace key).getD absentHash

/-- `read(key).data`. -/
def data (ledger : WorldLedger) (key : JsString) : JsValue :=
  (ledger.memorySpace key).getD .undefined

def set (ledger : WorldLedger) (key : JsString) (value : JsValue) (digest : JsString) :
    WorldLedger where
  memorySpace := Function.update ledger.memorySpace key (some value)
  hashSpace := Function.update ledger.hashSpace key (some digest)

/-- The ledger with a new value under one key, and its old digest. -/
def setData (ledger : WorldLedger) (key : JsString) (value : JsValue) : WorldLedger where
  memorySpace := Function.update ledger.memorySpace key (some value)
  hashSpace := ledger.hashSpace

theorem set_eq_self_iff {ledger : WorldLedger} {key : JsString} {value : JsValue}
    {digest : JsString} : ledger.set key value digest = ledger ↔
      ledger.memorySpace key = some value ∧ ledger.hashSpace key = some digest := by
  cases ledger
  simp only [set, mk.injEq, Function.update_eq_self_iff]
  exact and_congr eq_comm eq_comm

theorem setData_eq_self_iff {ledger : WorldLedger} {key : JsString} {value : JsValue} :
    ledger.setData key value = ledger ↔ ledger.memorySpace key = some value := by
  cases ledger
  simp only [setData, mk.injEq, Function.update_eq_self_iff, and_true]
  exact eq_comm

end WorldLedger

section Ledger

variable (runtime : Runtime) (hostJson : HostJson)

/-- The data is set before its hash is computed. -/
def mutate (ledger : WorldLedger) (key : JsString) (value : JsValue) :
    Except JsError Unit × WorldLedger :=
  match hashState runtime hostJson value with
  | .error error => (.error error, ledger.setData key value)
  | .ok digest => (.ok (), ledger.set key value digest)

def mutateAll (ledger : WorldLedger) : List (JsString × JsValue) →
    Except JsError Unit × WorldLedger
  | [] => (.ok (), ledger)
  | (key, value) :: rest =>
    match mutate runtime hostJson ledger key value with
    | (.error error, next) => (.error error, next)
    | (.ok _, next) => mutateAll next rest

def driftConflicts (ledger : WorldLedger) (readHashSnapshot : InsertionMap JsString JsString) :
    List JsString :=
  (readHashSnapshot.entries.filter fun entry => ledger.stateHash entry.1 ≠ entry.2).map Prod.fst

def commitSpeculative (ledger : WorldLedger) (writeSet : InsertionMap JsString JsValue)
    (readHashSnapshot : InsertionMap JsString JsString) :
    Except JsError (List JsString) × WorldLedger :=
  match driftConflicts ledger readHashSnapshot with
  | first :: rest => (.ok (first :: rest), ledger)
  | [] =>
    let (outcome, next) := mutateAll runtime hostJson ledger writeSet.entries
    (outcome.map fun _ => [], next)

structure EpistemicWindowAgent where
  agentId : JsString
  readSet : InsertionMap JsString JsValue
  readHashSnapshot : InsertionMap JsString JsString
  writeSet : InsertionMap JsString JsValue

namespace EpistemicWindowAgent

def new (agentId : JsString) : EpistemicWindowAgent := ⟨agentId, .empty, .empty, .empty⟩

def pull (agent : EpistemicWindowAgent) (ledger : WorldLedger) (key : JsString) :
    EpistemicWindowAgent :=
  { agent with
    readSet := agent.readSet.set key (ledger.data key)
    readHashSnapshot := agent.readHashSnapshot.set key (ledger.stateHash key) }

def stageWrite (agent : EpistemicWindowAgent) (key : JsString) (value : JsValue) :
    EpistemicWindowAgent :=
  { agent with writeSet := agent.writeSet.set key value }

def collapse (agent : EpistemicWindowAgent) (ledger : WorldLedger) :
    Except JsError (List JsString) × WorldLedger × EpistemicWindowAgent :=
  match commitSpeculative runtime hostJson ledger agent.writeSet agent.readHashSnapshot with
  | (.ok (first :: rest), next) => (.ok (first :: rest), next, new agent.agentId)
  | (outcome, next) => (outcome, next, agent)

theorem collapse_eq (agent : EpistemicWindowAgent) (ledger : WorldLedger) :
    (agent.collapse runtime hostJson ledger).1 =
        (commitSpeculative runtime hostJson ledger agent.writeSet agent.readHashSnapshot).1 ∧
      (agent.collapse runtime hostJson ledger).2.1 =
        (commitSpeculative runtime hostJson ledger agent.writeSet agent.readHashSnapshot).2 := by
  rw [collapse]
  split
  next first rest after outcome =>
    rw [outcome]
    exact ⟨rfl, rfl⟩
  next outcome after _ returned =>
    rw [returned]
    exact ⟨rfl, rfl⟩

end EpistemicWindowAgent

theorem mutateAll_singleton (ledger : WorldLedger) (key : JsString) (value : JsValue) :
    mutateAll runtime hostJson ledger [(key, value)] = mutate runtime hostJson ledger key value := by
  rw [mutateAll]
  rcases outcome : mutate runtime hostJson ledger key value with ⟨returned, next⟩
  cases returned with
  | error error => rfl
  | ok done => rfl

end Ledger

end GhostArk.ResearchFrontier.Occ
