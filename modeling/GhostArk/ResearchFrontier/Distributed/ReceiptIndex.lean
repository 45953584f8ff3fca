import Mathlib.Logic.Function.Basic
import GhostArk.Js.Collections
import GhostArk.Lib.InsertionMap
import GhostArk.Lib.LastWriterWins
import GhostArk.Lib.Machine

/-!
Contract: `packages/research-frontier/src/distributed/CRDTReceiptIndex.ts`.

Owns indexes, additions and merges, what they do to one receipt id, fleets of replicas in which
additions and merges interleave, and when the replicas converge.

An entry never replaces one of its own timestamp, so entries that tie are kept or dropped by the
order of their arrival.
-/

namespace GhostArk.ResearchFrontier.Distributed

open Js
open Lib

structure IndexEntry where
  receiptId : JsString
  timestamp : JsString
  tenantSlug : JsString
deriving DecidableEq

/-- Entries under their own receipt ids. -/
structure CRDTReceiptIndex where
  entries : InsertionMap JsString IndexEntry
  keyed : entries.KeyedBy IndexEntry.receiptId

namespace CRDTReceiptIndex

def new : CRDTReceiptIndex := ⟨.empty, fun _ member => absurd member List.not_mem_nil⟩

def addEntry (index : CRDTReceiptIndex) (entry : IndexEntry) : CRDTReceiptIndex :=
  let added : CRDTReceiptIndex :=
    ⟨index.entries.set entry.receiptId entry, index.keyed.set entry⟩
  match index.entries.get? entry.receiptId with
  | none => added
  | some existing => if existing.timestamp < entry.timestamp then added else index

def getEntries (index : CRDTReceiptIndex) : List IndexEntry := index.entries.values

def merge (index other : CRDTReceiptIndex) : CRDTReceiptIndex :=
  other.getEntries.foldl addEntry index

def held (index : CRDTReceiptIndex) (receiptId : JsString) : Option IndexEntry :=
  index.entries.get? receiptId

/-- Two indexes hold the same entry for every receipt. -/
def SameEntries (left right : CRDTReceiptIndex) : Prop :=
  ∀ receiptId, left.held receiptId = right.held receiptId

/-- Two indexes do not hold different entries of one receipt and one timestamp. -/
def NoTie (left right : CRDTReceiptIndex) : Prop :=
  ∀ receiptId, Untied IndexEntry.timestamp (left.held receiptId) (right.held receiptId)

theorem held_eq_some_iff {index : CRDTReceiptIndex} {receiptId : JsString} {entry : IndexEntry} :
    index.held receiptId = some entry ↔ entry ∈ index.getEntries ∧ entry.receiptId = receiptId := by
  constructor
  · intro isHeld
    exact ⟨InsertionMap.mem_values_of_get? isHeld,
      index.keyed _ (InsertionMap.get?_eq_some_iff.mp isHeld)⟩
  · rintro ⟨member, isReceipt⟩
    rcases List.mem_map.mp member with ⟨keyed, isEntry, rfl⟩
    rw [← isReceipt, index.keyed keyed isEntry]
    exact InsertionMap.get?_eq_some_iff.mpr isEntry

theorem noTie_iff {left right : CRDTReceiptIndex} :
    left.NoTie right ↔ ∀ first ∈ left.getEntries, ∀ second ∈ right.getEntries,
      first.receiptId = second.receiptId → first.timestamp = second.timestamp →
        first = second := by
  constructor
  · intro noTie first isFirst second isSecond sameReceipt sameTime
    exact noTie first.receiptId first (held_eq_some_iff.mpr ⟨isFirst, rfl⟩) second
      (held_eq_some_iff.mpr ⟨isSecond, sameReceipt.symm⟩) sameTime
  · intro apart receiptId first isFirst second isSecond sameTime
    have firstHeld := held_eq_some_iff.mp isFirst
    have secondHeld := held_eq_some_iff.mp isSecond
    exact apart first firstHeld.1 second secondHeld.1 (firstHeld.2.trans secondHeld.2.symm) sameTime

instance (left right : CRDTReceiptIndex) : Decidable (left.NoTie right) :=
  decidable_of_iff _ noTie_iff.symm

theorem held_addEntry (index : CRDTReceiptIndex) (entry : IndexEntry) (receiptId : JsString) :
    (index.addEntry entry).held receiptId =
      if entry.receiptId = receiptId then
        joinHeld IndexEntry.timestamp (index.held receiptId) (some entry)
      else index.held receiptId := by
  unfold addEntry held
  by_cases same : entry.receiptId = receiptId
  · subst same
    rw [if_pos rfl]
    cases isHeld : index.entries.get? entry.receiptId with
    | none => exact index.entries.get?_set_self _ _
    | some existing =>
      rw [some_joinHeld_some]
      by_cases below : existing.timestamp < entry.timestamp
      · simp only [if_pos below]
        exact index.entries.get?_set_self _ _
      · simp only [if_neg below]
        exact isHeld
  · rw [if_neg same]
    split
    · exact index.entries.get?_set_ne (Ne.symm same) _
    · split
      · exact index.entries.get?_set_ne (Ne.symm same) _
      · rfl

theorem held_foldl_addEntry {entries : List IndexEntry}
    (distinct : (entries.map IndexEntry.receiptId).Nodup) (index : CRDTReceiptIndex)
    (receiptId : JsString) :
    (entries.foldl addEntry index).held receiptId =
      joinHeld IndexEntry.timestamp (index.held receiptId)
        (entries.find? fun entry => entry.receiptId = receiptId) := by
  induction entries generalizing index with
  | nil => rfl
  | cons entry rest ih =>
    rw [List.map_cons, List.nodup_cons] at distinct
    rw [List.foldl_cons, ih distinct.2, held_addEntry, List.find?_cons]
    by_cases same : entry.receiptId = receiptId
    · have absent : (rest.find? fun other => other.receiptId = receiptId) = none := by
        rw [List.find?_eq_none]
        intro other member isReceipt
        apply distinct.1
        rw [same, ← of_decide_eq_true isReceipt]
        exact List.mem_map_of_mem member
      rw [if_pos same, absent, joinHeld_none, decide_eq_true same]
    · rw [if_neg same, decide_eq_false same]

theorem held_merge (index other : CRDTReceiptIndex) (receiptId : JsString) :
    (index.merge other).held receiptId =
      joinHeld IndexEntry.timestamp (index.held receiptId) (other.held receiptId) := by
  have distinct : (other.getEntries.map IndexEntry.receiptId).Nodup := by
    rw [getEntries, other.keyed.map_values]
    exact other.entries.nodup
  rw [merge, held_foldl_addEntry distinct]
  exact congrArg _ (other.keyed.find?_values receiptId)

theorem merge_assoc (first second third : CRDTReceiptIndex) :
    SameEntries ((first.merge second).merge third) (first.merge (second.merge third)) := by
  intro receiptId
  rw [held_merge, held_merge, held_merge, held_merge]
  exact joinHeld_assoc _ _ _

theorem merge_self (index : CRDTReceiptIndex) : SameEntries (index.merge index) index := by
  intro receiptId
  rw [held_merge]
  exact joinHeld_self _

theorem merge_again (index other : CRDTReceiptIndex) :
    SameEntries ((index.merge other).merge other) (index.merge other) := by
  intro receiptId
  rw [merge_assoc index other other receiptId, held_merge, merge_self other receiptId, held_merge]

theorem merge_comm_iff {left right : CRDTReceiptIndex} :
    SameEntries (left.merge right) (right.merge left) ↔ left.NoTie right := by
  apply forall_congr'
  intro receiptId
  rw [held_merge, held_merge]
  exact joinHeld_comm_iff

def ofReceipt (entries : List IndexEntry) (receiptId : JsString) : Set IndexEntry :=
  {entry | entry ∈ entries ∧ entry.receiptId = receiptId}

theorem ofReceipt_append (first second : List IndexEntry) (receiptId : JsString) :
    ofReceipt (first ++ second) receiptId =
      ofReceipt first receiptId ∪ ofReceipt second receiptId := by
  ext entry
  rw [Set.mem_union, ofReceipt, Set.mem_ofPred_eq, List.mem_append, or_and_right]
  exact Iff.rfl

theorem ofReceipt_singleton (entry : IndexEntry) (receiptId : JsString) :
    ofReceipt [entry] receiptId = if entry.receiptId = receiptId then {entry} else ∅ := by
  ext other
  rw [ofReceipt, Set.mem_ofPred_eq, List.mem_singleton]
  by_cases same : entry.receiptId = receiptId
  · rw [if_pos same, Set.mem_singleton_iff]
    exact and_iff_left_of_imp fun isEntry => (congrArg IndexEntry.receiptId isEntry).trans same
  · rw [if_neg same]
    refine iff_of_false ?_ (Set.notMem_empty other)
    intro both
    exact same ((congrArg IndexEntry.receiptId both.1).symm.trans both.2)

/-- For every receipt, the index holds the one entry of greatest timestamp among the entries. -/
def Leads (index : CRDTReceiptIndex) (entries : List IndexEntry) : Prop :=
  ∀ receiptId, HoldsLeader IndexEntry.timestamp (index.held receiptId) (ofReceipt entries receiptId)

variable {index other : CRDTReceiptIndex} {entries others : List IndexEntry}

theorem leads_new : new.Leads [] := by
  intro receiptId
  have none : ofReceipt [] receiptId = ∅ :=
    Set.eq_empty_of_forall_notMem fun _ member => List.not_mem_nil member.1
  rw [none]
  exact holdsLeader_none

theorem leads_getEntries (index : CRDTReceiptIndex) : index.Leads index.getEntries := by
  intro receiptId
  have isHeld :
      ofReceipt index.getEntries receiptId = {entry | index.held receiptId = some entry} := by
    ext entry
    exact held_eq_some_iff.symm
  rw [isHeld]
  cases index.held receiptId with
  | none =>
    have none : {entry : IndexEntry | none = some entry} = ∅ :=
      Set.eq_empty_of_forall_notMem fun _ member => by cases member
    rw [none]
    exact holdsLeader_none
  | some entry =>
    have single : {other : IndexEntry | some entry = some other} = {entry} := by
      ext other
      rw [Set.mem_ofPred_eq, Option.some.injEq, Set.mem_singleton_iff, eq_comm]
    rw [single]
    exact holdsLeader_singleton entry

theorem Leads.addEntry (leads : index.Leads entries) {entry : IndexEntry}
    (untied : Untied IndexEntry.timestamp (index.held entry.receiptId) (some entry)) :
    (index.addEntry entry).Leads (entries ++ [entry]) := by
  intro receiptId
  rw [held_addEntry, ofReceipt_append, ofReceipt_singleton]
  by_cases same : entry.receiptId = receiptId
  · subst same
    rw [if_pos rfl, if_pos rfl]
    exact (leads entry.receiptId).joinHeld (holdsLeader_singleton entry) untied
  · rw [if_neg same, if_neg same, Set.union_empty]
    exact leads receiptId

/-- Merged indexes without ties hold the leading entries of both. -/
theorem Leads.merge (leads : index.Leads entries) (leadsOthers : other.Leads others)
    (noTie : index.NoTie other) : (index.merge other).Leads (entries ++ others) := by
  intro receiptId
  rw [held_merge, ofReceipt_append]
  exact (leads receiptId).joinHeld (leadsOthers receiptId) (noTie receiptId)

theorem Leads.sameEntries (leads : index.Leads entries) (leadsOthers : other.Leads others)
    (same : ∀ entry, entry ∈ entries ↔ entry ∈ others) : SameEntries index other := by
  intro receiptId
  have sameOfReceipt : ofReceipt entries receiptId = ofReceipt others receiptId := by
    ext entry
    exact and_congr_left fun _ => same entry
  apply (leads receiptId).unique
  rw [sameOfReceipt]
  exact leadsOthers receiptId

end CRDTReceiptIndex

/-! ### Fleets -/

/-- An index, the entries that `addEntry` has been given (in a merge it is given those of the
other index), and all that the index has received (in a merge, all that the other had). -/
structure Replica where
  index : CRDTReceiptIndex
  added : List IndexEntry
  received : List IndexEntry

namespace Replica

def new : Replica := ⟨.new, [], []⟩

def addEntry (replica : Replica) (entry : IndexEntry) : Replica :=
  ⟨replica.index.addEntry entry, replica.added ++ [entry], replica.received ++ [entry]⟩

def merge (replica other : Replica) : Replica :=
  ⟨replica.index.merge other.index, replica.added ++ other.index.getEntries,
    replica.received ++ other.received⟩

/-- The index leads all that it was given and all that it received. -/
structure Sound (replica : Replica) : Prop where
  leadsAdded : replica.index.Leads replica.added
  leadsReceived : replica.index.Leads replica.received

theorem sound_new : new.Sound := ⟨CRDTReceiptIndex.leads_new, CRDTReceiptIndex.leads_new⟩

end Replica

inductive FleetOperation (ι : Type) where
  | addEntry (node : ι) (entry : IndexEntry)
  | merge (node other : ι)
deriving DecidableEq

/-- Replicas by name. -/
abbrev Fleet (ι : Type) := ι → Replica

namespace Fleet

variable {ι : Type}

def start : Fleet ι := fun _ => .new

/-- No entry meets a different one of its own receipt and timestamp. -/
def MeetsNoTie (fleet : Fleet ι) : FleetOperation ι → Prop
  | .addEntry node entry =>
    Untied IndexEntry.timestamp ((fleet node).index.held entry.receiptId) (some entry)
  | .merge node other => (fleet node).index.NoTie (fleet other).index

variable [DecidableEq ι]

def machine : Machine (Fleet ι) (FleetOperation ι) Unit
  | fleet, .addEntry node entry =>
    ((), Function.update fleet node ((fleet node).addEntry entry))
  | fleet, .merge node other =>
    ((), Function.update fleet node ((fleet node).merge (fleet other)))

theorem sound_step (fleet : Fleet ι) (operation : FleetOperation ι)
    (sound : ∀ node, (fleet node).Sound) (noTie : fleet.MeetsNoTie operation) :
    ∀ node, ((machine fleet operation).2 node).Sound := by
  cases operation with
  | addEntry node entry =>
    apply (Function.forall_update_iff fleet fun _ replica => replica.Sound).mpr
    refine ⟨⟨?_, ?_⟩, fun other _ => sound other⟩
    · exact (sound node).leadsAdded.addEntry noTie
    · exact (sound node).leadsReceived.addEntry noTie
  | merge node other =>
    apply (Function.forall_update_iff fleet fun _ replica => replica.Sound).mpr
    refine ⟨⟨?_, ?_⟩, fun third _ => sound third⟩
    · exact (sound node).leadsAdded.merge (CRDTReceiptIndex.leads_getEntries _) noTie
    · exact (sound node).leadsReceived.merge (sound other).leadsReceived noTie

/-- Every run without ties is sound. -/
theorem sound_run {operations : List (FleetOperation ι)}
    (noTies : machine.Throughout MeetsNoTie start operations) :
    ∀ node, (machine.finalState start operations node).Sound :=
  Machine.invariant_finalState sound_step (fun _ => Replica.sound_new) noTies

/-- Where no entry meets one it ties with, replicas that have received the same entries hold the
same, in whatever order additions and merges came; merges are associative and idempotent, and
commute exactly where the two replicas do not tie. -/
theorem receiptIndexes_converge (operations : List (FleetOperation ι))
    (noTies : machine.Throughout MeetsNoTie start operations) :
    let fleet := machine.finalState start operations
    ∀ first second third : ι,
      ((∀ entry, entry ∈ (fleet first).received ↔ entry ∈ (fleet second).received) →
        (fleet first).index.SameEntries (fleet second).index) ∧
      ((∀ entry, entry ∈ (fleet first).added ↔ entry ∈ (fleet second).added) →
        (fleet first).index.SameEntries (fleet second).index) ∧
      (((fleet first).index.merge (fleet second).index).SameEntries
          ((fleet second).index.merge (fleet first).index) ↔
        (fleet first).index.NoTie (fleet second).index) ∧
      (((fleet first).index.merge (fleet second).index).merge (fleet third).index).SameEntries
        ((fleet first).index.merge ((fleet second).index.merge (fleet third).index)) ∧
      ((fleet first).index.merge (fleet first).index).SameEntries (fleet first).index ∧
      (((fleet first).index.merge (fleet second).index).merge (fleet second).index).SameEntries
        ((fleet first).index.merge (fleet second).index) := by
  intro fleet first second third
  have sound : ∀ node, (fleet node).Sound := sound_run noTies
  refine ⟨?_, ?_, CRDTReceiptIndex.merge_comm_iff, CRDTReceiptIndex.merge_assoc _ _ _,
    CRDTReceiptIndex.merge_self _, CRDTReceiptIndex.merge_again _ _⟩
  · exact (sound first).leadsReceived.sameEntries (sound second).leadsReceived
  · exact (sound first).leadsAdded.sameEntries (sound second).leadsAdded

end Fleet

namespace FleetSample

def entry (timestamp tenantSlug : String) : IndexEntry :=
  ⟨js "rcpt-1", js timestamp, js tenantSlug⟩

/-- Two replicas are given entries of one receipt and one timestamp, in the two orders. -/
def tiedOperations : List (FleetOperation Bool) :=
  let first := entry "2026-01-01T00:00:00Z" "alpha"
  let second := entry "2026-01-01T00:00:00Z" "beta"
  [.addEntry true first, .addEntry true second, .addEntry false second, .addEntry false first]

theorem tied_replicas_diverge :
    let fleet := Fleet.machine.finalState Fleet.start tiedOperations
    (∀ entry, entry ∈ (fleet true).received ↔ entry ∈ (fleet false).received) ∧
      (∀ entry, entry ∈ (fleet true).added ↔ entry ∈ (fleet false).added) ∧
      ¬ (fleet true).index.SameEntries (fleet false).index ∧
      ¬ ((fleet true).index.merge (fleet false).index).SameEntries
        ((fleet false).index.merge (fleet true).index) := by
  intro fleet
  have swapped : ∀ entry, entry ∈ (fleet true).received ↔ entry ∈ (fleet false).received :=
    fun entry => (List.Perm.swap _ _ []).mem_iff
  refine ⟨swapped, swapped, ?_, ?_⟩
  · intro same
    exact absurd (same (js "rcpt-1")) (by decide)
  · intro same
    exact absurd (same (js "rcpt-1")) (by decide)

def operations : List (FleetOperation Bool) :=
  [.addEntry true (entry "2026-01-01T00:00:00Z" "alpha"),
    .addEntry false (entry "2026-01-02T00:00:00Z" "alpha"), .merge true false, .merge false true]

theorem replicas_agree :
    let fleet := Fleet.machine.finalState Fleet.start operations
    (fleet true).index.SameEntries (fleet false).index := by
  intro fleet
  have noTies : Fleet.machine.Throughout Fleet.MeetsNoTie Fleet.start operations := by
    refine ⟨untied_none _, untied_none _, ?_, ?_, trivial⟩
    · change CRDTReceiptIndex.NoTie _ _
      decide
    · change CRDTReceiptIndex.NoTie _ _
      decide
  have toSecond : ∀ entry ∈ (fleet true).received, entry ∈ (fleet false).received := by decide
  have toFirst : ∀ entry ∈ (fleet false).received, entry ∈ (fleet true).received := by decide
  exact (Fleet.receiptIndexes_converge operations noTies true false true).1
    fun entry => ⟨toSecond entry, toFirst entry⟩

end FleetSample

end GhostArk.ResearchFrontier.Distributed
