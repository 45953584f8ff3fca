import GhostArk.ResearchFrontier.Occ.GhostReplica

/-!
Contract: what a commit of the optimistic gate knows.

Owns the coherence of a replica's reads with the versions it keeps, the advance of
versions with every change of a record, and commits over whole runs: on COMMIT every
value read since the last wipe is current, and any other outcome leaves the world as
it was.

The read set keeps one version per key, so a second read of a changed key hides the
first; and a staged value without a digest ends a commit half way. The condition on
runs leaves out these steps, and records whose version a double no longer counts.
-/

namespace GhostArk.ResearchFrontier.Occ

open Js
open Lib

/-- Every record is as before, or has a later version. -/
def Advances (world next : WorldState) : Prop :=
  ∀ key, next key = world key ∨ currentVersion world key < currentVersion next key

theorem Advances.refl (world : WorldState) : Advances world world := fun _ => Or.inl rfl

theorem Advances.trans {first second third : WorldState} (before : Advances first second)
    (after : Advances second third) : Advances first third := by
  intro key
  rcases after key with same | later
  · rcases before key with unchanged | earlier
    · exact Or.inl (same.trans unchanged)
    · rw [currentVersion, currentVersion] at earlier
      rw [currentVersion, currentVersion, same]
      exact Or.inr earlier
  · rcases before key with unchanged | earlier
    · rw [currentVersion, unchanged] at later
      exact Or.inr later
    · exact Or.inr (earlier.trans later)

/-- The version of the record, if there is one, still counts. -/
def Counts (world : WorldState) (key : JsString) : Prop :=
  ∀ record, world key = some record → record.version < countLimit

theorem advances_setRecord {world : WorldState} {key : JsString} {record : WorldRecord}
    (later : currentVersion world key < record.version) :
    Advances world (setRecord world key record) := by
  intro other
  by_cases same : other = key
  · subst same
    right
    have version : currentVersion (setRecord world other record) other = record.version := by
      simp [currentVersion, setRecord]
    rw [version]
    exact later
  · exact Or.inl (Function.update_of_ne same _ _)

section Gate

variable (runtime : Runtime) (hostJson : HostJson)

theorem assignRecord_of_ne (world : WorldState) {key other : JsString} (apart : other ≠ key)
    (value : JsValue) : (assignRecord runtime hostJson world key value).2 other = world other := by
  rw [assignRecord]
  split
  next => rfl
  next =>
    split
    next => rfl
    next => exact Function.update_of_ne apart _ _
  next => exact Function.update_of_ne apart _ _
  next => exact Function.update_of_ne apart _ _

variable {world : WorldState}

theorem advances_assignRecord {key : JsString} (counts : Counts world key) (value : JsValue) :
    Advances world (assignRecord runtime hostJson world key value).2 := by
  have grows {record : WorldRecord} (found : world key = some record) :
      currentVersion world key < nextVersion record.version := by
    have below := counts record found
    rw [currentVersion, found, nextVersion, if_pos below]
    exact Nat.lt_succ_self record.version
  rw [assignRecord]
  split
  next => exact Advances.refl world
  next absent _ =>
    split
    next => exact Advances.refl world
    next =>
      apply advances_setRecord
      rw [currentVersion, absent]
      exact Nat.one_pos
  next record error found _ => exact advances_setRecord (grows found)
  next record digest found _ => exact advances_setRecord (grows found)

theorem assignRecord_ok_iff (world : WorldState) (key : JsString) {value : JsValue} :
    (assignRecord runtime hostJson world key value).1 = .ok () ↔ Hashable runtime hostJson value := by
  rw [assignRecord, Hashable]
  cases hashed : hashState runtime hostJson value with
  | error error =>
    refine iff_of_false ?_ fun ⟨_, returned⟩ => by cases returned
    cases world key <;> exact fun returned => by cases returned
  | ok digest =>
    refine iff_of_true ?_ ⟨digest, rfl⟩
    cases world key with
    | none => simp only; split <;> rfl
    | some record => rfl

/-- The staged values can all be hashed, or the first one cannot and would be a new entry. -/
def Applies (world : WorldState) (writes : List (JsString × JsValue)) : Prop :=
  (∀ entry ∈ writes, Hashable runtime hostJson entry.2 ∧ Counts world entry.1) ∨
    ∃ first rest, writes = first :: rest ∧ ¬ Hashable runtime hostJson first.2 ∧
      world first.1 = none

theorem materialize_cons (world : WorldState) (key : JsString) (value : JsValue)
    (rest : List (JsString × JsValue)) (hashable : Hashable runtime hostJson value) :
    materialize runtime hostJson world ((key, value) :: rest) =
      materialize runtime hostJson (assignRecord runtime hostJson world key value).2 rest := by
  have assigned := (assignRecord_ok_iff runtime hostJson world key).mpr hashable
  rw [materialize]
  rcases outcome : assignRecord runtime hostJson world key value with ⟨returned, next⟩
  rw [outcome] at assigned
  cases assigned
  rfl

variable {writes : List (JsString × JsValue)}

theorem materialize_of_hashable (distinct : (writes.map Prod.fst).Nodup)
    (clean : ∀ entry ∈ writes, Hashable runtime hostJson entry.2 ∧ Counts world entry.1) :
    Advances world (materialize runtime hostJson world writes).2 ∧
      (materialize runtime hostJson world writes).1 = .ok () := by
  induction writes generalizing world with
  | nil => exact ⟨Advances.refl world, rfl⟩
  | cons first rest ih =>
    rcases first with ⟨key, value⟩
    rw [List.forall_mem_cons] at clean
    rw [List.map_cons, List.nodup_cons] at distinct
    have countsRest : ∀ entry ∈ rest, Hashable runtime hostJson entry.2 ∧
        Counts (assignRecord runtime hostJson world key value).2 entry.1 := by
      intro entry member
      have apart : entry.1 ≠ key := by
        rintro rfl
        exact distinct.1 (List.mem_map.mpr ⟨entry, member, rfl⟩)
      refine ⟨(clean.2 entry member).1, ?_⟩
      rw [Counts, assignRecord_of_ne runtime hostJson world apart]
      exact (clean.2 entry member).2
    have later := ih distinct.2 countsRest
    rw [materialize_cons runtime hostJson world key value rest clean.1.1]
    exact ⟨(advances_assignRecord runtime hostJson clean.1.2 value).trans later.1, later.2⟩

theorem materialize_of_applies (distinct : (writes.map Prod.fst).Nodup)
    (applies : Applies runtime hostJson world writes) :
    Advances world (materialize runtime hostJson world writes).2 ∧
      ((materialize runtime hostJson world writes).1 = .ok () ∨
        (materialize runtime hostJson world writes).2 = world) := by
  rcases applies with clean | ⟨⟨key, value⟩, rest, rfl, unhashable, fresh⟩
  · have written := materialize_of_hashable runtime hostJson distinct clean
    exact ⟨written.1, Or.inl written.2⟩
  · have unchanged : (materialize runtime hostJson world ((key, value) :: rest)).2 = world := by
      cases hashed : hashState runtime hostJson value with
      | ok digest => exact absurd ⟨digest, hashed⟩ unhashable
      | error error => rw [materialize, assignRecord, hashed, fresh]
    rw [unchanged]
    exact ⟨Advances.refl world, Or.inr rfl⟩

/-- Each value read since the last wipe is the current one, unless the version that the read
set keeps for its key is out of date. -/
def Coherent (world : WorldState) (replica : GhostReplica) : Prop :=
  ∀ entry ∈ replica.returned, ∃ version, replica.readSet.get? entry.1 = some version ∧
    version ≤ currentVersion world entry.1 ∧
    (version = currentVersion world entry.1 → entry.2 = valueInWorld world entry.1)

variable {replica : GhostReplica}

theorem Coherent.advance {world next : WorldState} (coherent : Coherent world replica)
    (advances : Advances world next) : Coherent next replica := by
  intro entry member
  rcases coherent entry member with ⟨version, kept, bounded, current⟩
  refine ⟨version, kept, ?_⟩
  rcases advances entry.1 with same | later
  · rw [currentVersion, valueInWorld, same]
    exact ⟨bounded, current⟩
  · exact ⟨bounded.trans later.le, fun isCurrent => absurd isCurrent (bounded.trans_lt later).ne⟩

theorem coherent_empty (world : WorldState) : Coherent world .empty := by
  intro entry member
  cases member

/-- A read from the world finds the key's version as the read set keeps it, or the value that
every earlier read of the key returned. -/
def ReadsAsBefore (world : WorldState) (replica : GhostReplica) (key : JsString) : Prop :=
  replica.writeSet.get? key = none → key ∉ objectPrototypeKeys →
    replica.readSet.get? key = some (currentVersion world key) ∨
      ∀ entry ∈ replica.returned, entry.1 = key → entry.2 = valueInWorld world key

theorem Coherent.read {key : JsString} (coherent : Coherent world replica)
    (asBefore : ReadsAsBefore world replica key) : Coherent world (replica.read world key).2 := by
  rw [GhostReplica.read]
  cases staged : replica.writeSet.get? key with
  | some value => exact coherent
  | none =>
    by_cases inherited : key ∈ objectPrototypeKeys
    · simp only [inherited, if_true]
      exact coherent
    · simp only [inherited, if_false]
      intro entry member
      simp only [List.mem_append, List.mem_singleton] at member
      by_cases sameKey : entry.1 = key
      · refine ⟨currentVersion world key, ?_, ?_, fun _ => ?_⟩
        · rw [sameKey, InsertionMap.get?_set_self]
        · rw [sameKey]
        · rcases member with earlier | rfl
          · rcases asBefore staged inherited with kept | returned
            · rcases coherent entry earlier with ⟨version, isKept, -, current⟩
              rw [sameKey, kept, Option.some.injEq] at isKept
              exact current (by rw [sameKey, isKept])
            · rw [sameKey]
              exact returned entry earlier sameKey
          · rfl
      · rcases member with earlier | rfl
        · rcases coherent entry earlier with ⟨version, kept, bounded, current⟩
          refine ⟨version, ?_, bounded, current⟩
          rw [InsertionMap.get?_set_ne _ sameKey]
          exact kept
        · exact absurd rfl sameKey

theorem Coherent.current (coherent : Coherent world replica)
    (noConflicts : conflictsOf world replica = []) :
    ∀ entry ∈ replica.returned, entry.2 = valueInWorld world entry.1 := by
  intro entry member
  rcases coherent entry member with ⟨version, kept, -, current⟩
  have inSet := mem_objectOrder.mpr (InsertionMap.get?_eq_some_iff.mp kept)
  rw [conflictsOf, List.map_eq_nil_iff, List.filter_eq_nil_iff] at noConflicts
  have same := noConflicts _ inSet
  simp only [ne_eq, decide_not, Bool.not_eq_true', decide_eq_false_iff_not, not_not] at same
  exact current same.symm

/-! ### The contract of a call -/

variable (unionStatus : UnionStatus) {ι : Type} [DecidableEq ι]

/-- Both gates are passed. -/
def ReachesCommitPhase (world : WorldState) (replica : GhostReplica)
    (failureMarginals : List JsNumber) (maxIterations : JsNumber) : Prop :=
  conflictsOf world replica = [] ∧
    (failureMarginals = [] ∨
      unionStatus failureMarginals maxIterations ≠ .EVALUATION_UNDECIDABLE ∧
        unionStatus failureMarginals maxIterations ≠ .INFEASIBLE)

/-- The condition on one call. -/
def MeetsGate (system : OccSystem ι) : OccCall ι → Prop
  | .read index key => ReadsAsBefore system.world (system.replicas index) key
  | .simulateExternalMutation key _ => Counts system.world key.key
  | .commit index failureMarginals _ maxIterations =>
    ReachesCommitPhase unionStatus system.world (system.replicas index) failureMarginals
        maxIterations →
      Applies runtime hostJson system.world
        (objectOrder (system.replicas index).writeSet.entries)
  | _ => True

structure Serialisable (system : OccSystem ι) (call : OccCall ι) : Prop where
  /-- On COMMIT everything that the replica read from the world is current. -/
  current : ∀ index failureMarginals payloadContext maxIterations writeCount,
    call = .commit index failureMarginals payloadContext maxIterations →
      (occ runtime hostJson unionStatus system call).1 = .ok (.commit (.commit writeCount)) →
        ∀ entry ∈ (system.replicas index).returned, entry.2 = valueInWorld system.world entry.1
  /-- Any other outcome of a commit leaves the world unchanged. -/
  unchanged : ∀ index failureMarginals payloadContext maxIterations,
    call = .commit index failureMarginals payloadContext maxIterations →
      (∀ writeCount, (occ runtime hostJson unionStatus system call).1 ≠
        .ok (.commit (.commit writeCount))) →
        (occ runtime hostJson unionStatus system call).2.world = system.world

theorem commit_cases (world : WorldState) (replica : GhostReplica)
    (failureMarginals : List JsNumber) (payloadContext : JsValue) (maxIterations : JsNumber) :
    (∃ outcome, (∀ writeCount, outcome ≠ .ok (.commit writeCount)) ∧
      commit runtime hostJson unionStatus world replica failureMarginals payloadContext
        maxIterations = ⟨outcome, world, .empty⟩) ∨
      ReachesCommitPhase unionStatus world replica failureMarginals maxIterations ∧
        commit runtime hostJson unionStatus world replica failureMarginals payloadContext
          maxIterations = commitWrites runtime hostJson world replica := by
  rw [commit, ReachesCommitPhase]
  cases conflicts : conflictsOf world replica with
  | cons first rest => exact Or.inl ⟨.ok (.conflict (first :: rest)), nofun, rfl⟩
  | nil =>
    cases failureMarginals with
    | nil => exact Or.inr ⟨⟨rfl, Or.inl rfl⟩, rfl⟩
    | cons marginal others =>
      cases status : unionStatus (marginal :: others) maxIterations with
      | OPTIMAL => exact Or.inr ⟨⟨rfl, Or.inr ⟨nofun, nofun⟩⟩, rfl⟩
      | UNBOUNDED => exact Or.inr ⟨⟨rfl, Or.inr ⟨nofun, nofun⟩⟩, rfl⟩
      | INFEASIBLE =>
        exact Or.inl ⟨.ok (.refuted (refutedWitness (marginal :: others))), nofun, rfl⟩
      | EVALUATION_UNDECIDABLE =>
        refine Or.inl ⟨_, ?_, rfl⟩
        intro writeCount
        cases undecidableWitness runtime hostJson payloadContext maxIterations <;> exact nofun

theorem commitWrites_of_applies
    (applies : Applies runtime hostJson world (objectOrder replica.writeSet.entries)) :
    Advances world (commitWrites runtime hostJson world replica).world ∧
      (commitWrites runtime hostJson world replica).replica = replica ∧
      ((∃ writeCount, (commitWrites runtime hostJson world replica).outcome =
          .ok (.commit writeCount)) ∨
        (commitWrites runtime hostJson world replica).world = world) := by
  have distinct : ((objectOrder replica.writeSet.entries).map Prod.fst).Nodup :=
    ((perm_objectOrder _).map Prod.fst).nodup_iff.mpr replica.writeSet.nodup
  have written := materialize_of_applies runtime hostJson distinct applies
  rw [commitWrites]
  rcases outcome : materialize runtime hostJson world (objectOrder replica.writeSet.entries)
    with ⟨returned, next⟩
  rw [outcome] at written
  cases returned with
  | error error => exact ⟨written.1, rfl, Or.inr (written.2.resolve_left nofun)⟩
  | ok done => exact ⟨written.1, rfl, Or.inl ⟨_, rfl⟩⟩

/-! ### Runs -/

theorem coherent_setReplica {system : OccSystem ι} {index : ι}
    (coherent : ∀ other, Coherent system.world (system.replicas other))
    (changed : Coherent system.world replica) (other : ι) :
    Coherent system.world ((system.setReplica index replica).replicas other) := by
  simp only [OccSystem.setReplica]
  by_cases same : other = index
  · subst same
    rw [Function.update_self]
    exact changed
  · rw [Function.update_of_ne same]
    exact coherent other

/-- One call that meets the gate is serialisable and keeps the replicas coherent. -/
theorem serialisable_step (system : OccSystem ι) (call : OccCall ι)
    (coherent : ∀ index, Coherent system.world (system.replicas index))
    (meets : MeetsGate runtime hostJson unionStatus system call) :
    Serialisable runtime hostJson unionStatus system call ∧
      ∀ index, Coherent (occ runtime hostJson unionStatus system call).2.world
        ((occ runtime hostJson unionStatus system call).2.replicas index) := by
  cases call with
  | read index key =>
    exact ⟨⟨nofun, nofun⟩, coherent_setReplica coherent ((coherent index).read meets)⟩
  | write index key value =>
    exact ⟨⟨nofun, nofun⟩, coherent_setReplica coherent (coherent index)⟩
  | wipe index =>
    exact ⟨⟨nofun, nofun⟩, coherent_setReplica coherent (coherent_empty system.world)⟩
  | simulateExternalMutation key newValue =>
    exact ⟨⟨nofun, nofun⟩, fun index =>
      (coherent index).advance (advances_assignRecord runtime hostJson meets newValue)⟩
  | commit index failureMarginals payloadContext maxIterations =>
    rcases commit_cases runtime hostJson unionStatus system.world (system.replicas index)
      failureMarginals payloadContext maxIterations with ⟨outcome, notCommit, step⟩ | ⟨reaches, step⟩
    · refine ⟨⟨?_, ?_⟩, ?_⟩
      · intro _ _ _ _ writeCount isCall committed
        cases isCall
        simp only [occ, step] at committed
        cases outcome with
        | error error => cases committed
        | ok reply =>
          cases committed
          exact absurd rfl (notCommit writeCount)
      · intro _ _ _ _ isCall _
        cases isCall
        simp only [occ, step]
      · simp only [occ, step]
        exact coherent_setReplica coherent (coherent_empty system.world)
    · have written := commitWrites_of_applies runtime hostJson (meets reaches)
      refine ⟨⟨?_, ?_⟩, ?_⟩
      · intro _ _ _ _ writeCount isCall _
        cases isCall
        exact (coherent index).current reaches.1
      · intro _ _ _ _ isCall noCommit
        cases isCall
        simp only [occ, step] at noCommit ⊢
        rcases written.2.2 with ⟨writeCount, committed⟩ | same
        · rw [committed] at noCommit
          exact absurd rfl (noCommit writeCount)
        · exact same
      · simp only [occ, step]
        intro other
        refine Coherent.advance ?_ written.1
        rw [written.2.1]
        exact coherent_setReplica coherent (coherent index) other

/-- In a run from fresh replicas whose calls all meet the condition, every commit is
serialisable. -/
theorem serialisable_throughout (world : WorldState) (calls : List (OccCall ι))
    (meets : (occ runtime hostJson unionStatus).Throughout
      (MeetsGate runtime hostJson unionStatus) ⟨world, fun _ => .empty⟩ calls) :
    (occ runtime hostJson unionStatus).Throughout
      (Serialisable runtime hostJson unionStatus) ⟨world, fun _ => .empty⟩ calls :=
  Machine.throughout_of_invariant
    (serialisable_step runtime hostJson unionStatus)
    (fun _ => coherent_empty world) meets

end Gate

namespace OccSample

def runtime : Runtime where
  sha256 := fips180
  numbers := decimalText
  dates := ⟨fun _ => .nan⟩
  verifySignature := fun _ _ _ => .ok false

def hostJson : HostJson := fun _ => .ok (some (js "\x7b\x7d"))

def unionStatus : UnionStatus := fun _ _ => .OPTIMAL

def account : EntryKey := ⟨js "account", by decide⟩

def number (value : Nat) : JsValue := .number (.ofNat value)

theorem one_le_countLimit : 1 ≤ countLimit := Nat.one_le_two_pow

def world : WorldState := fun key =>
  if key = account.key then some ⟨number 1, 1, [], one_le_countLimit⟩ else none

abbrev machine := @occ runtime hostJson unionStatus Unit inferInstance

def start : OccSystem Unit := ⟨world, fun _ => .empty⟩

/-- Two replicas read a key, one before and one after a foreign mutation, and both commit a
write of it. -/
def updates : List (OccCall Bool) :=
  [.read true account.key, .simulateExternalMutation account (number 2), .read false account.key,
    .write true account (number 6), .write false account (number 5),
    .commit true [] .null (.ofNat 1000), .commit false [] .null (.ofNat 1000)]

theorem serialisable_throughout_updates :
    (occ runtime hostJson unionStatus).Throughout (Serialisable runtime hostJson unionStatus)
      ⟨world, fun _ => .empty⟩ updates := by
  have once (replica : Bool) (system : OccSystem Bool)
      (unread : (system.replicas replica).returned = []) :
      MeetsGate runtime hostJson unionStatus system (.read replica account.key) := by
    intro _ _
    exact Or.inr fun entry member => by rw [unread] at member; cases member
  refine serialisable_throughout runtime hostJson unionStatus world updates
    ⟨once _ _ rfl, ?_, once _ _ rfl, trivial, trivial, ?_, ?_, trivial⟩
  · intro record found
    obtain rfl := Option.some.inj found
    decide
  · intro _
    refine Or.inl fun entry member => ?_
    obtain rfl : entry = (account.key, number 6) := List.mem_singleton.mp member
    refine ⟨⟨_, rfl⟩, ?_⟩
    intro record found
    obtain rfl := Option.some.inj found
    decide
  · intro _
    refine Or.inl fun entry member => ?_
    obtain rfl : entry = (account.key, number 5) := List.mem_singleton.mp member
    refine ⟨⟨_, rfl⟩, ?_⟩
    intro record found
    obtain rfl := Option.some.inj found
    decide

/-- The key is read before and after a foreign mutation. -/
def stale : List (OccCall Unit) :=
  [.read () account.key, .simulateExternalMutation account (number 2), .read () account.key]

def unhashable : List (OccCall Unit) := [.write () account (.host .bigint)]

def finish : OccCall Unit := .commit () [] .null (.ofNat 1000)

/-- After a second read the stale first one is no conflict, and a commit that throws has
changed the world. -/
theorem stale_read_commits :
    ¬ machine.Throughout (Serialisable runtime hostJson unionStatus) start (stale ++ [finish]) ∧
      ¬ machine.Throughout (Serialisable runtime hostJson unionStatus) start
        (unhashable ++ [finish]) := by
  constructor
  · intro throughout
    have serialisable := (Machine.throughout_append.mp throughout).2.1
    have first : (account.key, number 1) ∈ ((machine.finalState start stale).replicas ()).returned :=
      List.mem_cons_self
    have current := serialisable.current () [] .null (.ofNat 1000) 0 rfl rfl _ first
    cases current
  · intro throughout
    have serialisable := (Machine.throughout_append.mp throughout).2.1
    have same := serialisable.unchanged () [] .null (.ofNat 1000) rfl nofun
    have value := congrArg (fun world => valueInWorld world account.key) same
    cases value

end OccSample

end GhostArk.ResearchFrontier.Occ
