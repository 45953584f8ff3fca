import GhostArk.Dab.ReplayLedger

/-!
Contract: `MvccEngine` of `dab/gateway/src/phase1.rs`.

Owns snapshots and commits, the machine in which the snapshots and commits of any number of
agents interleave, and when a commit overwrites only what its agent has seen.

A snapshot copies the data and then the clock, and other agents may commit between the two. An
agent is one thread: it takes one snapshot at a time, keeps the ones it took, and commits with
any of them. Maps are visited in any order, which no result depends on.
-/

namespace GhostArk.Dab

open Lib

abbrev VectorClock := InsertionMap String ℕ

abbrev WriteIntent := InsertionMap String String

def VectorClock.tick (clock : VectorClock) (id : String) : ℕ := (clock.get? id).getD 0

structure GlobalState where
  data : InsertionMap String String
  clock : VectorClock

namespace GlobalState

def start : GlobalState := ⟨.empty, .empty⟩

/-- An agent other than the committing one has a later tick than the one read. -/
def conflict (state : GlobalState) (agentId : String) (readClock : VectorClock) : Bool :=
  state.clock.entries.any fun entry =>
    decide (entry.1 ≠ agentId) && decide (readClock.tick entry.1 < entry.2)

def colliding (state : GlobalState) (writeIntent : WriteIntent) : Bool :=
  writeIntent.entries.any fun entry => (state.data.get? entry.1).isSome

def advance (clock : VectorClock) (agentId : String) : VectorClock :=
  match clock.get? agentId with
  | some tick => clock.set agentId ((tick + 1) % wordLimit)
  | none => clock.set agentId 1

def commit (state : GlobalState) (agentId : String) (readClock : VectorClock)
    (writeIntent : WriteIntent) : Except String Unit × GlobalState :=
  if state.conflict agentId readClock && state.colliding writeIntent then
    (.error "Conflict detected on colliding keys (starvation)", state)
  else
    (.ok (), ⟨state.data.overwrite writeIntent, advance state.clock agentId⟩)

theorem tick_advance (clock : VectorClock) (agentId id : String)
    (fits : clock.tick agentId + 1 < wordLimit) :
    VectorClock.tick (advance clock agentId) id =
      if id = agentId then clock.tick agentId + 1 else clock.tick id := by
  unfold advance
  unfold VectorClock.tick at fits ⊢
  cases found : clock.get? agentId with
  | none =>
    simp only [InsertionMap.get?_set]
    split <;> rfl
  | some tick =>
    rw [found, Option.getD_some] at fits
    simp only [InsertionMap.get?_set, Nat.mod_eq_of_lt fits]
    split <;> rfl

variable {state : GlobalState} {agentId : String} {readClock : VectorClock}

theorem conflict_eq_false (clear : state.conflict agentId readClock = false) {id : String}
    (foreign : id ≠ agentId) : state.clock.tick id ≤ readClock.tick id := by
  unfold VectorClock.tick
  cases found : state.clock.get? id with
  | none => exact Nat.zero_le _
  | some tick =>
    have seen := List.any_eq_false.mp clear (id, tick) (InsertionMap.get?_eq_some_iff.mp found)
    rw [decide_eq_true foreign, Bool.true_and, decide_eq_true_eq] at seen
    exact Nat.le_of_not_lt seen

variable {writeIntent : WriteIntent}

theorem colliding_of_get? {key written held : String}
    (writes : (key, written) ∈ writeIntent.entries) (isHeld : state.data.get? key = some held) :
    state.colliding writeIntent = true :=
  List.any_eq_true.mpr ⟨_, writes, by rw [isHeld]; rfl⟩

/-- A commit that returns `Ok` has met no conflict, or writes no key that is present. -/
theorem of_commit_ok (returned : (state.commit agentId readClock writeIntent).1 = .ok ()) :
    (state.conflict agentId readClock = false ∨ state.colliding writeIntent = false) ∧
      (state.commit agentId readClock writeIntent).2 =
        ⟨state.data.overwrite writeIntent, advance state.clock agentId⟩ := by
  unfold commit at returned ⊢
  split at returned
  · cases returned
  next passes =>
    rw [if_neg passes]
    rw [Bool.and_eq_true, not_and_or, Bool.not_eq_true, Bool.not_eq_true] at passes
    exact ⟨passes, rfl⟩

theorem commit_error {text : String}
    (returned : (state.commit agentId readClock writeIntent).1 = .error text) :
    (state.commit agentId readClock writeIntent).2 = state := by
  unfold commit at returned ⊢
  split at returned
  next refused => rw [if_pos refused]
  · cases returned

end GlobalState

/-! ### Agents -/

/-- A snapshot, and the number of commits made before it was complete. -/
structure ReadSnapshot where
  data : InsertionMap String String
  clock : VectorClock
  taken : ℕ

/-- The data copied by a snapshot under way, and the snapshots taken, the latest first. -/
structure Agent where
  copied : Option (InsertionMap String String)
  snapshots : List ReadSnapshot

structure Commit where
  agentId : String
  writeIntent : WriteIntent

/-- The engine, its agents, and the commits that returned `Ok`. -/
structure MvccSystem where
  state : GlobalState
  agents : String → Agent
  commits : List Commit

def MvccSystem.start : MvccSystem := ⟨.start, fun _ => ⟨none, []⟩, []⟩

inductive MvccAction where
  | copyData (agentId : String)
  | copyClock (agentId : String)
  /-- Commit with the snapshot at an index. -/
  | commit (agentId : String) (index : ℕ) (writeIntent : WriteIntent)

namespace MvccSystem

def setAgent (system : MvccSystem) (agentId : String) (agent : Agent) : MvccSystem :=
  { system with agents := Function.update system.agents agentId agent }

/-- The first half of `read_snapshot`. -/
def copyData (system : MvccSystem) (agentId : String) : MvccSystem :=
  system.setAgent agentId
    ⟨some system.state.data, (system.agents agentId).snapshots⟩

/-- The second half of `read_snapshot`, where the first has been made. -/
def copyClock (system : MvccSystem) (agentId : String) : MvccSystem :=
  match (system.agents agentId).copied with
  | none => system
  | some data =>
    system.setAgent agentId ⟨none,
      ⟨data, system.state.clock, system.commits.length⟩ :: (system.agents agentId).snapshots⟩

/-- The snapshot an agent commits with: it has been taken, and no other is under way. -/
def readFor (system : MvccSystem) (agentId : String) (index : ℕ) : Option ReadSnapshot :=
  match (system.agents agentId).copied with
  | none => (system.agents agentId).snapshots[index]?
  | some _ => none

def commit (system : MvccSystem) (agentId : String) (snapshot : ReadSnapshot)
    (writeIntent : WriteIntent) : Except String Unit × MvccSystem :=
  match system.state.commit agentId snapshot.clock writeIntent with
  | (.ok (), state) =>
    (.ok (), ⟨state, system.agents, system.commits ++ [⟨agentId, writeIntent⟩]⟩)
  | (.error text, state) => (.error text, { system with state := state })

end MvccSystem

def mvcc : Machine MvccSystem MvccAction (Option (Except String Unit)) :=
  fun system action =>
    match action with
    | .copyData agentId => (none, system.copyData agentId)
    | .copyClock agentId => (none, system.copyClock agentId)
    | .commit agentId index writeIntent =>
      match system.readFor agentId index with
      | none => (none, system)
      | some snapshot =>
        let result := system.commit agentId snapshot writeIntent
        (some result.1, result.2)

/-- A commit that returns `Ok` overwrites what the snapshot of the agent has for a key, or what the
agent has written since. -/
def LosesNoUpdate (system : MvccSystem) : MvccAction → Prop
  | .copyData _ | .copyClock _ => True
  | .commit agentId index writeIntent =>
    ∀ snapshot, system.readFor agentId index = some snapshot →
      (mvcc system (.commit agentId index writeIntent)).1 = some (.ok ()) →
        ∀ entry ∈ writeIntent.entries, ∀ held, system.state.data.get? entry.1 = some held →
          snapshot.data.get? entry.1 = some held ∨
            ∃ commit ∈ system.commits.drop snapshot.taken,
              commit.agentId = agentId ∧ commit.writeIntent.get? entry.1 = some held

/-- The clock is copied while the data still holds what was copied, and no tick overflows. -/
def Whole (system : MvccSystem) : MvccAction → Prop
  | .copyData _ => True
  | .copyClock agentId =>
    ∀ copied, (system.agents agentId).copied = some copied →
      ∀ key held, system.state.data.get? key = some held → copied.get? key = some held
  | .commit agentId _ _ => system.state.clock.tick agentId + 1 < wordLimit

/-- The data holds, for each key, what the snapshot has or what the agent has written since. -/
def Seen (system : MvccSystem) (agentId : String) (snapshot : ReadSnapshot) : Prop :=
  ∀ key held, system.state.data.get? key = some held →
    snapshot.data.get? key = some held ∨
      ∃ commit ∈ system.commits.drop snapshot.taken,
        commit.agentId = agentId ∧ commit.writeIntent.get? key = some held

/-- Ticks have not gone down since the snapshot, and its agent has seen the data unless the tick
of another has gone up. -/
structure Tracks (system : MvccSystem) (agentId : String) (snapshot : ReadSnapshot) : Prop where
  taken : snapshot.taken ≤ system.commits.length
  monotone : ∀ id, id ≠ agentId → snapshot.clock.tick id ≤ system.state.clock.tick id
  seen : (∀ id, id ≠ agentId → system.state.clock.tick id ≤ snapshot.clock.tick id) →
    Seen system agentId snapshot

def Tracked (system : MvccSystem) : Prop :=
  ∀ agentId, ∀ snapshot ∈ (system.agents agentId).snapshots, Tracks system agentId snapshot

theorem tracked_start : Tracked .start := by
  intro agentId snapshot member
  cases member

/-! ### One step -/

theorem MvccSystem.agents_setAgent_self (system : MvccSystem) (agentId : String) (agent : Agent) :
    (system.setAgent agentId agent).agents agentId = agent :=
  Function.update_self ..

theorem MvccSystem.agents_setAgent_of_ne (system : MvccSystem) {agentId other : String}
    (agent : Agent) (different : other ≠ agentId) :
    (system.setAgent agentId agent).agents other = system.agents other :=
  Function.update_of_ne different ..

variable {system : MvccSystem}

variable {agentId : String}

theorem Tracked.setAgent (tracked : Tracked system) {agent : Agent}
    (tracks : ∀ snapshot ∈ agent.snapshots, Tracks system agentId snapshot) :
    Tracked (system.setAgent agentId agent) := by
  intro other snapshot member
  have tracks : Tracks system other snapshot := by
    by_cases same : other = agentId
    · subst same
      rw [system.agents_setAgent_self] at member
      exact tracks snapshot member
    · rw [system.agents_setAgent_of_ne agent same] at member
      exact tracked other snapshot member
  exact ⟨tracks.taken, tracks.monotone, tracks.seen⟩

theorem Tracked.copyData (tracked : Tracked system) (agentId : String) :
    Tracked (system.copyData agentId) :=
  tracked.setAgent (tracked agentId)

theorem Tracked.copyClock (tracked : Tracked system) (whole : Whole system (.copyClock agentId)) :
    Tracked (system.copyClock agentId) := by
  unfold MvccSystem.copyClock
  cases isCopied : (system.agents agentId).copied with
  | none => exact tracked
  | some copied =>
    apply tracked.setAgent
    intro snapshot member
    rcases List.mem_cons.mp member with rfl | earlier
    · exact ⟨le_rfl, fun _ _ => le_rfl, fun _ key held isHeld =>
        Or.inl (whole copied isCopied key held isHeld)⟩
    · exact tracked agentId snapshot earlier

section Commit

variable {system : MvccSystem} {agentId : String} {writeIntent : WriteIntent}

/-- The engine after a commit that returned `Ok`. -/
def MvccSystem.committed (system : MvccSystem) (agentId : String) (writeIntent : WriteIntent) :
    MvccSystem :=
  ⟨⟨system.state.data.overwrite writeIntent, GlobalState.advance system.state.clock agentId⟩,
    system.agents, system.commits ++ [⟨agentId, writeIntent⟩]⟩

variable {snapshot : ReadSnapshot}

theorem Tracks.committed_own (tracks : Tracks system agentId snapshot)
    (fits : system.state.clock.tick agentId + 1 < wordLimit) :
    Tracks (system.committed agentId writeIntent) agentId snapshot := by
  have foreignTick : ∀ id, id ≠ agentId →
      (system.committed agentId writeIntent).state.clock.tick id = system.state.clock.tick id := by
    intro id foreign
    exact (GlobalState.tick_advance _ _ id fits).trans (if_neg foreign)
  have later : (system.committed agentId writeIntent).commits.drop snapshot.taken =
      system.commits.drop snapshot.taken ++ [⟨agentId, writeIntent⟩] :=
    List.drop_append_of_le_length tracks.taken
  constructor
  · exact tracks.taken.trans (by simp [MvccSystem.committed])
  · intro id foreign
    rw [foreignTick id foreign]
    exact tracks.monotone id foreign
  · intro unmoved key held isHeld
    rw [later]
    have before := tracks.seen fun id foreign => foreignTick id foreign ▸ unmoved id foreign
    have written := (InsertionMap.get?_overwrite _ _ key).symm.trans isHeld
    cases isWritten : writeIntent.get? key with
    | some value =>
      rw [isWritten, Option.some_or] at written
      exact Or.inr ⟨⟨agentId, writeIntent⟩, List.mem_append_right _ (List.mem_singleton_self _),
        rfl, isWritten.trans written⟩
    | none =>
      rw [isWritten, Option.none_or] at written
      rcases before key held written with isRead | ⟨commit, member, isOwn, wrote⟩
      · exact Or.inl isRead
      · exact Or.inr ⟨commit, List.mem_append_left _ member, isOwn, wrote⟩

theorem Tracks.committed_other {other : String} (tracks : Tracks system other snapshot)
    (different : agentId ≠ other) (fits : system.state.clock.tick agentId + 1 < wordLimit) :
    Tracks (system.committed agentId writeIntent) other snapshot := by
  have ticks : ∀ id, (system.committed agentId writeIntent).state.clock.tick id =
      if id = agentId then system.state.clock.tick agentId + 1 else system.state.clock.tick id :=
    fun id => GlobalState.tick_advance _ _ id fits
  constructor
  · exact tracks.taken.trans (by simp [MvccSystem.committed])
  · intro id foreign
    have before := tracks.monotone id foreign
    rw [ticks]
    split
    next same =>
      subst same
      omega
    · exact before
  · intro unmoved
    have before := tracks.monotone agentId different
    have after := unmoved agentId different
    rw [ticks, if_pos rfl] at after
    omega

theorem Tracked.committed (tracked : Tracked system)
    (fits : system.state.clock.tick agentId + 1 < wordLimit) :
    Tracked (system.committed agentId writeIntent) := by
  intro other snapshot member
  by_cases same : other = agentId
  · subst same
    exact (tracked other snapshot member).committed_own fits
  · exact (tracked other snapshot member).committed_other (Ne.symm same) fits

/-- A commit keeps the history of writes by key, whether or not it is accepted. -/
theorem Tracked.commit (tracked : Tracked system) (snapshot : ReadSnapshot)
    (fits : system.state.clock.tick agentId + 1 < wordLimit) :
    Tracked (system.commit agentId snapshot writeIntent).2 := by
  unfold MvccSystem.commit
  cases isResult : system.state.commit agentId snapshot.clock writeIntent with
  | mk result state =>
    cases result with
    | ok =>
      have after := (GlobalState.of_commit_ok (congrArg Prod.fst isResult)).2
      rw [isResult] at after
      simp only at after
      subst after
      exact tracked.committed fits
    | error text =>
      have after := GlobalState.commit_error (congrArg Prod.fst isResult)
      rw [isResult] at after
      simp only at after
      subst after
      exact tracked

/-- A commit that returns `Ok` writes no key that is present, or its agent has seen the data. -/
theorem Tracks.losesNoUpdate (tracks : Tracks system agentId snapshot)
    (returned : (system.state.commit agentId snapshot.clock writeIntent).1 = .ok ()) {key : String}
    {written held : String} (writes : (key, written) ∈ writeIntent.entries)
    (isHeld : system.state.data.get? key = some held) :
    snapshot.data.get? key = some held ∨
      ∃ commit ∈ system.commits.drop snapshot.taken,
        commit.agentId = agentId ∧ commit.writeIntent.get? key = some held := by
  rcases (GlobalState.of_commit_ok returned).1 with clear | apart
  · exact tracks.seen (fun id foreign => GlobalState.conflict_eq_false clear foreign) key held
      isHeld
  · rw [GlobalState.colliding_of_get? writes isHeld] at apart
    cases apart

end Commit

theorem MvccSystem.mem_of_readFor {index : ℕ} {snapshot : ReadSnapshot}
    (isRead : system.readFor agentId index = some snapshot) :
    snapshot ∈ (system.agents agentId).snapshots := by
  unfold readFor at isRead
  split at isRead
  · exact List.mem_of_getElem? isRead
  · cases isRead

/-- A snapshot is whole when nothing happens between its two copies. -/
theorem whole_copyData (system : MvccSystem) (agentId : String) :
    Whole (system.copyData agentId) (.copyClock agentId) := by
  intro copied isCopied key held isHeld
  rw [MvccSystem.copyData, MvccSystem.agents_setAgent_self, Option.some.injEq] at isCopied
  exact isCopied ▸ isHeld

/-- A step whose snapshot is whole loses no update, and keeps the history of writes. -/
theorem Tracked.step (tracked : Tracked system) {action : MvccAction}
    (whole : Whole system action) :
    LosesNoUpdate system action ∧ Tracked (mvcc system action).2 := by
  cases action with
  | copyData agentId => exact ⟨trivial, tracked.copyData agentId⟩
  | copyClock agentId => exact ⟨trivial, tracked.copyClock whole⟩
  | commit agentId index writeIntent =>
    constructor
    · intro snapshot isRead returned entry writes held isHeld
      simp only [mvcc, isRead, Option.some.injEq] at returned
      have tracks := tracked agentId snapshot (MvccSystem.mem_of_readFor isRead)
      apply tracks.losesNoUpdate _ writes isHeld
      unfold MvccSystem.commit at returned
      split at returned
      next same => rw [same]
      · cases returned
    · simp only [mvcc]
      cases system.readFor agentId index with
      | none => exact tracked
      | some snapshot => exact tracked.commit snapshot whole

/-- In a run whose snapshots are whole no commit loses an update. -/
theorem losesNoUpdate_of_whole (actions : List MvccAction)
    (whole : mvcc.Throughout Whole .start actions) :
    mvcc.Throughout LosesNoUpdate .start actions :=
  Machine.throughout_of_invariant (fun _ _ tracked whole => tracked.step whole) tracked_start whole

namespace MvccSample

def writeOf (value : String) : WriteIntent := InsertionMap.empty.set "x" value

def takeSnapshot (agentId : String) : List MvccAction := [.copyData agentId, .copyClock agentId]

/-- Two agents write one key: the second is refused once, and then commits with a later
snapshot. -/
def wholeRun : List MvccAction :=
  takeSnapshot "a" ++ takeSnapshot "b" ++
    [.commit "a" 0 (writeOf "1"), .commit "b" 0 (writeOf "2")] ++ takeSnapshot "b" ++
    [.commit "b" 0 (writeOf "2"), .commit "b" 0 (writeOf "3")]

/-- Two agents that write one key in turn. -/
theorem losesNoUpdate_wholeRun : mvcc.Throughout LosesNoUpdate .start wholeRun := by
  apply losesNoUpdate_of_whole
  refine ⟨trivial, whole_copyData _ _, trivial, whole_copyData _ _, ?_, ?_, trivial,
    whole_copyData _ _, ?_, ?_, trivial⟩
  all_goals
    unfold Whole
    decide

/-- The agent `a` copies the clock after `b` has committed, and the data before. -/
def tornRun : List MvccAction :=
  takeSnapshot "b" ++
    [.copyData "a", .commit "b" 0 (writeOf "1"), .copyClock "a", .commit "a" 0 (writeOf "2")]

/-- An agent commits between the two copies of another one's snapshot. -/
theorem tornRun_loses_update : ¬ mvcc.Throughout LosesNoUpdate .start tornRun := by
  rintro ⟨-, -, -, -, -, last, -⟩
  have lost := last _ rfl rfl _ (List.mem_singleton_self _) _ rfl
  revert lost
  decide

end MvccSample

end GhostArk.Dab
