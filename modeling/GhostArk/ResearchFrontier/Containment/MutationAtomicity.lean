import GhostArk.ResearchFrontier.Containment.ScopedMutationGate

/-!
Contract: what a commit of the scoped mutation gate does to the ledger.

Owns the values that a receipt's digest accepts, windows as `begin` leaves them, the
outcome of a commit through such a window, and its all-or-nothing contract over whole
runs, with the exact condition: data is written before its hash and before the
receipt's digest, and either of the two can throw.
-/

namespace GhostArk.ResearchFrontier.Containment

open Js
open Lib
open ReceiptSchema (sortEntries perm_sortEntries)
open ResearchFrontier.Occ

/-! ### Digestible values -/

mutual

/-- No array within the value has a hole. -/
def isDense : JsValue → Bool
  | .array items => itemsAreDense items
  | .object entries => entriesAreDense entries
  | _ => true

def itemsAreDense : List JsValue → Bool
  | [] => true
  | item :: rest => !isHole item && isDense item && itemsAreDense rest

def entriesAreDense : List (JsString × JsValue) → Bool
  | [] => true
  | (_, value) :: rest => isDense value && entriesAreDense rest

end

section Digest

variable (runtime : Runtime) (hostState : HostState)

theorem exists_sequenceMembers_iff {entries : List (JsString × Except JsError JsString)} :
    (∃ texts, sequenceMembers entries = .ok texts) ↔
      ∀ entry ∈ entries, ∃ text, entry.2 = .ok text := by
  induction entries with
  | nil => simp [sequenceMembers]
  | cons first rest ih =>
    rcases first with ⟨key, rendered⟩
    rw [List.forall_mem_cons, ← ih]
    constructor
    · rintro ⟨texts, returned⟩
      rcases bind_eq_ok.mp returned with ⟨text, isText, later⟩
      rcases bind_eq_ok.mp later with ⟨others, sequenced, -⟩
      exact ⟨⟨text, isText⟩, others, sequenced⟩
    · rintro ⟨⟨text, isText⟩, others, sequenced⟩
      obtain rfl : rendered = .ok text := isText
      exact ⟨(key, text) :: others, by rw [sequenceMembers, ok_bind, sequenced]; rfl⟩

mutual

theorem exists_canonicalizeState_iff : ∀ value : JsValue,
    (∃ text, canonicalizeState runtime hostState value = .ok text) ↔ isDense value = true
  | .undefined => iff_of_true ⟨_, rfl⟩ rfl
  | .null => iff_of_true ⟨_, rfl⟩ rfl
  | .bool true => iff_of_true ⟨_, rfl⟩ rfl
  | .bool false => iff_of_true ⟨_, rfl⟩ rfl
  | .number _ => iff_of_true ⟨_, rfl⟩ rfl
  | .string _ => iff_of_true ⟨_, rfl⟩ rfl
  | .hole => iff_of_true ⟨_, rfl⟩ rfl
  | .host kind => by cases kind <;> exact iff_of_true ⟨_, rfl⟩ rfl
  | .array items => by
    rw [isDense, ← exists_stateItems_iff items, canonicalizeState]
    constructor
    · rintro ⟨text, returned⟩
      rcases bind_eq_ok.mp returned with ⟨texts, visited, later⟩
      refine ⟨⟨texts, visited⟩, fun item member => ?_⟩
      split at later
      next => cases later
      next noHole =>
        rw [Bool.eq_false_iff]
        exact fun itemIsHole => noHole (List.any_eq_true.mpr ⟨item, member, itemIsHole⟩)
    · rintro ⟨⟨texts, visited⟩, dense⟩
      rw [visited, ok_bind, if_neg]
      · exact ⟨_, rfl⟩
      · rw [List.any_eq_true]
        rintro ⟨item, member, itemIsHole⟩
        rw [dense item member] at itemIsHole
        cases itemIsHole
  | .object entries => by
    rw [isDense, ← forall_stateEntries_iff entries, canonicalizeState]
    have sorted : (∀ entry ∈ sortEntries (stateEntries runtime hostState entries),
        ∃ text, entry.2 = .ok text) ↔
          ∀ entry ∈ stateEntries runtime hostState entries, ∃ text, entry.2 = .ok text := by
      simp only [(perm_sortEntries _).mem_iff]
    rw [← sorted, ← exists_sequenceMembers_iff, exists_map_eq_ok]

theorem exists_stateItems_iff : ∀ items : List JsValue,
    ((∃ texts, stateItems runtime hostState items = .ok texts) ∧
        ∀ item ∈ items, isHole item = false) ↔ itemsAreDense items = true
  | [] => iff_of_true ⟨⟨_, rfl⟩, by simp⟩ rfl
  | item :: rest => by
    rw [itemsAreDense, Bool.and_eq_true, Bool.and_eq_true, Bool.not_eq_true',
      ← exists_canonicalizeState_iff item, ← exists_stateItems_iff rest, List.forall_mem_cons]
    constructor
    · rintro ⟨⟨texts, returned⟩, noHole, restDense⟩
      rcases bind_eq_ok.mp returned with ⟨text, isText, later⟩
      rcases bind_eq_ok.mp later with ⟨others, visited, -⟩
      exact ⟨⟨noHole, text, isText⟩, ⟨others, visited⟩, restDense⟩
    · rintro ⟨⟨noHole, text, isText⟩, ⟨others, visited⟩, restDense⟩
      refine ⟨⟨text :: others, ?_⟩, noHole, restDense⟩
      rw [stateItems, isText, ok_bind, visited]
      rfl

theorem forall_stateEntries_iff : ∀ entries : List (JsString × JsValue),
    (∀ entry ∈ stateEntries runtime hostState entries, ∃ text, entry.2 = .ok text) ↔
      entriesAreDense entries = true
  | [] => by simp [stateEntries, entriesAreDense]
  | (key, value) :: rest => by
    rw [entriesAreDense, Bool.and_eq_true, ← forall_stateEntries_iff rest,
      ← exists_canonicalizeState_iff value, stateEntries.eq_def]
    cases value with
    | undefined => exact (and_iff_right ⟨_, rfl⟩).symm
    | _ => exact List.forall_mem_cons

end

theorem exists_receipt_iff (agentId : JsString) (mutation : ProposedMutation)
    (verdict : MutationVerdict) (ledgerChanged : Bool) :
    (∃ issued, receipt runtime hostState agentId mutation verdict ledgerChanged = .ok issued) ↔
      isDense mutation.value = true := by
  have record : isDense (decisionRecord agentId mutation verdict ledgerChanged) =
      isDense mutation.value := by
    simp [decisionRecord, isDense, entriesAreDense]
  rw [← record, ← exists_canonicalizeState_iff runtime hostState]
  constructor
  · rintro ⟨issued, returned⟩
    rcases bind_eq_ok.mp returned with ⟨digest, digested, -⟩
    rcases bind_eq_ok.mp digested with ⟨text, isText, -⟩
    exact ⟨text, isText⟩
  · rintro ⟨text, isText⟩
    rw [receipt, canonicalStateDigest, isText]
    exact ⟨_, rfl⟩

theorem verdict_of_receipt {agentId : JsString} {mutation : ProposedMutation}
    {verdict : MutationVerdict} {ledgerChanged : Bool} {issued : MutationReceipt}
    (returned : receipt runtime hostState agentId mutation verdict ledgerChanged = .ok issued) :
    issued.verdict = verdict := by
  rcases bind_eq_ok.mp returned with ⟨digest, -, done⟩
  rw [← pure_eq_ok.mp done]

end Digest

/-! ### Windows -/

/-- The window is as `begin` left it. -/
def Window.IsFresh (window : Window) : Prop :=
  window.agent.writeSet = .empty ∧
    window.agent.readHashSnapshot = InsertionMap.empty.set window.resource window.readHash

/-- Unused windows are as `begin` left them. -/
def WindowsFresh (state : GateState) : Prop :=
  ∀ window ∈ state.windows, window.used = false → window.IsFresh

theorem isFresh_begin (ledger : WorldLedger) (agentId resource : JsString) :
    Window.IsFresh ⟨resource, ledger.stateHash resource, «begin» ledger agentId resource, false⟩ :=
  ⟨rfl, rfl⟩

theorem entries_set_empty {V : Type} (key : JsString) (value : V) :
    ((InsertionMap.empty : InsertionMap JsString V).set key value).entries = [(key, value)] :=
  InsertionMap.entries_set_of_none (InsertionMap.get?_empty key) value

section Gate

variable (runtime : Runtime) (hostJson : HostJson) (hostState : HostState) (policy : ScopePolicy)

def PassesGates (ledger : WorldLedger) (window : Window) (mutation : ProposedMutation) : Prop :=
  isInScope policy mutation.resource mutation.operation = true ∧
    breachesBounds policy mutation = .ok false ∧
    ledger.stateHash mutation.resource = window.readHash

variable {window : Window}

theorem collapse_of_isFresh (ledger : WorldLedger) (value : JsValue) (fresh : window.IsFresh) :
    let outcome := (window.agent.stageWrite window.resource value).collapse runtime hostJson ledger
    if ledger.stateHash window.resource = window.readHash then
      outcome.1 = (mutate runtime hostJson ledger window.resource value).1.map (fun _ => []) ∧
        outcome.2.1 = (mutate runtime hostJson ledger window.resource value).2
    else outcome.1 = .ok [window.resource] ∧ outcome.2.1 = ledger := by
  intro outcome
  have staged : (window.agent.stageWrite window.resource value).writeSet.entries =
      [(window.resource, value)] := by
    rw [EpistemicWindowAgent.stageWrite, fresh.1, entries_set_empty]
  have snapshot : (window.agent.stageWrite window.resource value).readHashSnapshot.entries =
      [(window.resource, window.readHash)] := by
    rw [EpistemicWindowAgent.stageWrite, fresh.2, entries_set_empty]
  have answers := (window.agent.stageWrite window.resource value).collapse_eq runtime hostJson ledger
  rw [answers.1, answers.2, commitSpeculative, driftConflicts, snapshot, staged,
    mutateAll_singleton]
  by_cases same : ledger.stateHash window.resource = window.readHash
  · simp [same]
  · simp [same]

/-- The value and its digest are what the ledger holds already. -/
def Holds (ledger : WorldLedger) (key : JsString) (value : JsValue) : Prop :=
  ledger.memorySpace key = some value ∧
    ∀ digest, hashState runtime hostJson value = .ok digest → ledger.hashSpace key = some digest

/-- What a commit through a fresh window does. -/
inductive CommitEffect (ledger : WorldLedger) (window : Window) (mutation : ProposedMutation)
    (result : GateResult) : Prop where
  /-- A gate refuses, or throws. -/
  | refused (closed : ¬ PassesGates policy ledger window mutation)
      (verdict : ∀ issued, result.outcome = .ok issued → issued.verdict ≠ .COMMITTED)
      (kept : result.ledger = ledger)
  /-- The value has no digest. -/
  | unhashable (passes : PassesGates policy ledger window mutation)
      (noDigest : ¬ Hashable runtime hostJson mutation.value)
      (thrown : ∃ error, result.outcome = .error error)
      (written : result.ledger = ledger.setData mutation.resource mutation.value)
  | written (digest : JsString) (passes : PassesGates policy ledger window mutation)
      (hashed : hashState runtime hostJson mutation.value = .ok digest)
      (issues : result.outcome =
        receipt runtime hostState window.agent.agentId mutation .COMMITTED true)
      (written : result.ledger = ledger.set mutation.resource mutation.value digest)

theorem commit_effect (ledger : WorldLedger) {mutation : ProposedMutation} (fresh : window.IsFresh)
    (sameResource : mutation.resource = window.resource) :
    CommitEffect runtime hostJson hostState policy ledger window mutation
      (commit runtime hostJson hostState policy ledger window.agent mutation) := by
  have refusal {verdict : MutationVerdict} (notCommitted : verdict ≠ .COMMITTED) :
      ∀ issued, receipt runtime hostState window.agent.agentId mutation verdict false = .ok issued →
        issued.verdict ≠ .COMMITTED := by
    intro issued returned
    rw [verdict_of_receipt runtime hostState returned]
    exact notCommitted
  rw [commit]
  cases inScope : isInScope policy mutation.resource mutation.operation with
  | false =>
    refine .refused (fun passes => ?_) (refusal nofun) rfl
    rw [PassesGates, inScope] at passes
    cases passes.1
  | true =>
    cases bounds : breachesBounds policy mutation with
    | error error =>
      refine .refused (fun passes => ?_) nofun rfl
      rw [PassesGates, bounds] at passes
      cases passes.2.1
    | ok breached =>
      cases breached with
      | true =>
        refine .refused (fun passes => ?_) (refusal nofun) rfl
        rw [PassesGates, bounds] at passes
        cases passes.2.1
      | false =>
        have collapsed := collapse_of_isFresh runtime hostJson ledger mutation.value fresh
        rw [← sameResource] at collapsed
        rcases outcome : (window.agent.stageWrite mutation.resource mutation.value).collapse
          runtime hostJson ledger with ⟨conflicts, next, after⟩
        rw [outcome] at collapsed
        simp only [Bool.not_true, Bool.false_eq_true, if_false, outcome]
        by_cases same : ledger.stateHash mutation.resource = window.readHash
        · have passes : PassesGates policy ledger window mutation := ⟨inScope, bounds, same⟩
          rw [if_pos same, mutate] at collapsed
          cases hashed : hashState runtime hostJson mutation.value with
          | error error =>
            rw [hashed] at collapsed
            rcases collapsed with ⟨rfl, rfl⟩
            refine .unhashable passes ?_ ⟨error, rfl⟩ rfl
            rintro ⟨digest, isDigest⟩
            rw [hashed] at isDigest
            cases isDigest
          | ok digest =>
            rw [hashed] at collapsed
            rcases collapsed with ⟨rfl, rfl⟩
            exact .written digest passes hashed rfl rfl
        · rw [if_neg same] at collapsed
          rcases collapsed with ⟨rfl, rfl⟩
          refine .refused (fun passes => ?_) (refusal nofun) rfl
          exact same passes.2.2

/-! ### The contract of a call -/

structure AllOrNothing (state : GateState) (call : GateCall) : Prop where
  /-- A commit that returns COMMITTED is in scope, has seen the current state, and writes its
  value under its resource only. -/
  committed : ∀ index mutation window issued, call = .commit index mutation →
    state.windows[index]? = some window →
    (gate runtime hostJson hostState policy state call).1 = .ok (.receipt issued) →
    issued.verdict = .COMMITTED →
      isInScope policy mutation.resource mutation.operation = true ∧
        state.ledger.stateHash mutation.resource = window.readHash ∧
        ∃ digest, hashState runtime hostJson mutation.value = .ok digest ∧
          (gate runtime hostJson hostState policy state call).2.ledger =
            state.ledger.set mutation.resource mutation.value digest
  /-- A commit with another verdict, or one that throws, changes nothing. -/
  otherwise : ∀ index mutation, call = .commit index mutation →
    (∀ issued, (gate runtime hostJson hostState policy state call).1 = .ok (.receipt issued) →
      issued.verdict ≠ .COMMITTED) →
      (gate runtime hostJson hostState policy state call).2.ledger = state.ledger

/-- Each window is used with its own resource, and once. -/
def IsDisciplined (state : GateState) : GateCall → Prop
  | .commit index mutation => ∃ window, state.windows[index]? = some window ∧
      window.used = false ∧ mutation.resource = window.resource
  | _ => True

/-- The value of a commit that passes its gates can be hashed and digested, or is there
already. -/
def Settles (state : GateState) : GateCall → Prop
  | .commit index mutation => ∀ window, state.windows[index]? = some window →
      PassesGates policy state.ledger window mutation →
        Hashable runtime hostJson mutation.value ∧ isDense mutation.value = true ∨
          Holds runtime hostJson state.ledger mutation.resource mutation.value
  | _ => True

/-- The contract of one commit, on its result. -/
structure CommitAllOrNothing (ledger : WorldLedger) (window : Window) (mutation : ProposedMutation)
    (result : GateResult) : Prop where
  committed : ∀ issued, result.outcome = .ok issued → issued.verdict = .COMMITTED →
    isInScope policy mutation.resource mutation.operation = true ∧
      ledger.stateHash mutation.resource = window.readHash ∧
      ∃ digest, hashState runtime hostJson mutation.value = .ok digest ∧
        result.ledger = ledger.set mutation.resource mutation.value digest
  otherwise : (∀ issued, result.outcome = .ok issued → issued.verdict ≠ .COMMITTED) →
    result.ledger = ledger

theorem allOrNothing_iff_commit {state : GateState} {index : Nat} {mutation : ProposedMutation}
    (found : state.windows[index]? = some window) :
    AllOrNothing runtime hostJson hostState policy state (.commit index mutation) ↔
      CommitAllOrNothing runtime hostJson policy state.ledger window mutation
        (commit runtime hostJson hostState policy state.ledger window.agent mutation) := by
  have reply : (gate runtime hostJson hostState policy state (.commit index mutation)).1 =
      (commit runtime hostJson hostState policy state.ledger window.agent mutation).outcome.map
        .receipt := by
    rw [gate, found]
  have ledger : (gate runtime hostJson hostState policy state (.commit index mutation)).2.ledger =
      (commit runtime hostJson hostState policy state.ledger window.agent mutation).ledger := by
    rw [gate, found]
  generalize commit runtime hostJson hostState policy state.ledger window.agent mutation = result
    at reply ledger ⊢
  have issues {issued : MutationReceipt} : (gate runtime hostJson hostState policy state
      (.commit index mutation)).1 = .ok (.receipt issued) ↔ result.outcome = .ok issued := by
    rw [reply]
    cases result.outcome <;> simp [Except.map]
  constructor
  · intro closed
    refine ⟨fun issued returned isCommitted => ?_, fun notCommitted => ?_⟩
    · rw [← ledger]
      exact closed.committed index mutation window issued rfl found (issues.mpr returned) isCommitted
    · rw [← ledger]
      exact closed.otherwise index mutation rfl fun issued returned =>
        notCommitted issued (issues.mp returned)
  · intro closed
    refine ⟨?_, ?_⟩
    · intro _ _ other issued isCall isWindow returned isCommitted
      cases isCall
      obtain rfl : window = other := Option.some.inj (found.symm.trans isWindow)
      rw [ledger]
      exact closed.committed issued (issues.mp returned) isCommitted
    · intro _ _ isCall notCommitted
      rw [ledger]
      exact closed.otherwise fun issued returned => notCommitted issued (issues.mpr returned)

section Result

variable {ledger : WorldLedger} {mutation : ProposedMutation} {result : GateResult}

/-- A commit that throws on the digest of its value is all or nothing when the data it wrote
was there already. -/
theorem commitAllOrNothing_unhashable_iff (noDigest : ¬ Hashable runtime hostJson mutation.value)
    (thrown : ∃ error, result.outcome = .error error)
    (written : result.ledger = ledger.setData mutation.resource mutation.value) :
    CommitAllOrNothing runtime hostJson policy ledger window mutation result ↔
      Holds runtime hostJson ledger mutation.resource mutation.value := by
  have holds : Holds runtime hostJson ledger mutation.resource mutation.value ↔
      result.ledger = ledger := by
    rw [written, WorldLedger.setData_eq_self_iff, Holds]
    exact and_iff_left fun digest hashed => absurd ⟨digest, hashed⟩ noDigest
  have noReceipt {issued : MutationReceipt} : result.outcome ≠ .ok issued := by
    rcases thrown with ⟨error, thrown⟩
    rw [thrown]
    exact nofun
  rw [holds]
  constructor
  · exact fun closed => closed.otherwise fun issued returned => absurd returned noReceipt
  · exact fun kept => ⟨fun issued returned => absurd returned noReceipt, fun _ => kept⟩

/-- A commit that writes is all or nothing when its receipt can be digested, or when it wrote
what was there already. -/
theorem commitAllOrNothing_written_iff {digest : JsString}
    (passes : PassesGates policy ledger window mutation)
    (hashed : hashState runtime hostJson mutation.value = .ok digest)
    (issues : result.outcome =
      receipt runtime hostState window.agent.agentId mutation .COMMITTED true)
    (written : result.ledger = ledger.set mutation.resource mutation.value digest) :
    CommitAllOrNothing runtime hostJson policy ledger window mutation result ↔
      isDense mutation.value = true ∨
        Holds runtime hostJson ledger mutation.resource mutation.value := by
  have holds : Holds runtime hostJson ledger mutation.resource mutation.value ↔
      result.ledger = ledger := by
    rw [written, WorldLedger.set_eq_self_iff, Holds]
    refine and_congr_right fun _ => ⟨fun sameDigest => sameDigest digest hashed, ?_⟩
    intro held other isOther
    rw [hashed, Except.ok.injEq] at isOther
    rw [held, isOther]
  have dense := exists_receipt_iff runtime hostState window.agent.agentId mutation .COMMITTED true
  rw [← issues] at dense
  rw [holds, ← dense]
  constructor
  · intro closed
    by_cases issued : ∃ issued, result.outcome = .ok issued
    · exact Or.inl issued
    · exact Or.inr (closed.otherwise fun receipt returned => absurd ⟨receipt, returned⟩ issued)
  · intro condition
    refine ⟨fun _ _ _ => ⟨passes.1, passes.2.2, digest, hashed, written⟩, fun notCommitted => ?_⟩
    refine condition.resolve_left ?_
    rintro ⟨issued, returned⟩
    exact notCommitted issued returned
      (verdict_of_receipt runtime hostState (issues.symm.trans returned))

end Result

theorem allOrNothing_commit_iff {state : GateState} {index : Nat} {mutation : ProposedMutation}
    (found : state.windows[index]? = some window) (fresh : window.IsFresh)
    (sameResource : mutation.resource = window.resource) :
    AllOrNothing runtime hostJson hostState policy state (.commit index mutation) ↔
      Settles runtime hostJson policy state (.commit index mutation) := by
  rw [allOrNothing_iff_commit runtime hostJson hostState policy found]
  simp only [Settles, found, Option.some.injEq, forall_eq']
  cases commit_effect runtime hostJson hostState policy state.ledger fresh sameResource with
  | refused closed verdict kept =>
    refine iff_of_true ⟨?_, fun _ => kept⟩ fun passes => absurd passes closed
    exact fun issued returned isCommitted => absurd isCommitted (verdict issued returned)
  | unhashable passes noDigest thrown written =>
    rw [commitAllOrNothing_unhashable_iff runtime hostJson policy noDigest thrown written]
    constructor
    · exact fun holds _ => Or.inr holds
    · exact fun condition => (condition passes).resolve_left fun both => noDigest both.1
  | written digest passes hashed issues written =>
    rw [commitAllOrNothing_written_iff runtime hostJson hostState policy passes hashed issues
      written]
    constructor
    · exact fun condition _ => condition.imp_left fun dense => ⟨⟨digest, hashed⟩, dense⟩
    · exact fun condition => (condition passes).imp_left And.right

theorem allOrNothing_step (state : GateState) (call : GateCall) (fresh : WindowsFresh state)
    (disciplined : IsDisciplined state call) :
    (AllOrNothing runtime hostJson hostState policy state call ↔
        Settles runtime hostJson policy state call) ∧
      WindowsFresh (gate runtime hostJson hostState policy state call).2 := by
  cases call with
  | «begin» agentId resource =>
    refine ⟨iff_of_true ⟨nofun, nofun⟩ trivial, ?_⟩
    intro window member unused
    rcases List.mem_append.mp member with earlier | isNew
    · exact fresh window earlier unused
    · rw [List.mem_singleton.mp isNew]
      exact isFresh_begin state.ledger agentId resource
  | commit index mutation =>
    rcases disciplined with ⟨window, found, unused, sameResource⟩
    have isFresh := fresh window (List.mem_of_getElem? found) unused
    refine ⟨allOrNothing_commit_iff runtime hostJson hostState policy found isFresh sameResource,
      ?_⟩
    intro other member otherUnused
    rw [gate, found] at member
    rcases List.mem_or_eq_of_mem_set member with earlier | isUsed
    · exact fresh other earlier otherUnused
    · rw [isUsed] at otherUnused
      cases otherUnused
  | mutate key value => exact ⟨iff_of_true ⟨nofun, nofun⟩ trivial, fresh⟩

/-- In a run that uses each window with its resource and once, every commit is all or nothing
exactly when every commit settles. -/
theorem allOrNothing_throughout_iff (ledger : WorldLedger) (calls : List GateCall)
    (disciplined : (gate runtime hostJson hostState policy).Throughout IsDisciplined
      ⟨ledger, []⟩ calls) :
    (gate runtime hostJson hostState policy).Throughout
        (AllOrNothing runtime hostJson hostState policy) ⟨ledger, []⟩ calls ↔
      (gate runtime hostJson hostState policy).Throughout
        (Settles runtime hostJson policy) ⟨ledger, []⟩ calls := by
  have noWindows : WindowsFresh ⟨ledger, []⟩ := by
    intro window member
    cases member
  exact Machine.throughout_congr (allOrNothing_step runtime hostJson hostState policy) noWindows
    disciplined

end Gate

namespace GateSample

def runtime : Runtime where
  sha256 := fips180
  numbers := decimalText
  dates := ⟨fun _ => .nan⟩
  verifySignature := fun _ _ _ => .ok false

def hostJson : HostJson := fun _ => .ok (some (js "\x7b\x7d"))

def hostState : HostState := fun _ => js "\x7b\x7d"

def policy : ScopePolicy := ⟨[⟨js "file", [js "write"]⟩], none⟩

abbrev machine := gate runtime hostJson hostState policy

def start : GateState := ⟨.empty, []⟩

def calls (value : JsValue) : List GateCall :=
  [.begin (js "agent") (js "file"), .commit 0 ⟨js "file", js "write", value, none⟩]

theorem disciplined (value : JsValue) :
    machine.Throughout IsDisciplined start (calls value) :=
  ⟨trivial, ⟨_, rfl, rfl, rfl⟩, trivial⟩

theorem allOrNothing_throughout_iff_number :
    machine.Throughout (AllOrNothing runtime hostJson hostState policy) start
      (calls (.number (.ofNat 5))) := by
  refine (allOrNothing_throughout_iff runtime hostJson hostState policy .empty
    (calls (.number (.ofNat 5))) (disciplined _)).mpr ⟨trivial, ?_, trivial⟩
  intro _ _ _
  exact Or.inl ⟨⟨_, rfl⟩, rfl⟩

/-- A commit of a BigInt throws and has set the data. -/
theorem bigint_commit_writes :
    machine.Throughout IsDisciplined start (calls (.host .bigint)) ∧
      ¬ machine.Throughout (AllOrNothing runtime hostJson hostState policy) start
        (calls (.host .bigint)) := by
  refine ⟨disciplined _, fun throughout => ?_⟩
  have same := throughout.2.1.otherwise 0 _ rfl nofun
  have data := congrArg (fun ledger => ledger.memorySpace (js "file")) same
  cases data

end GateSample

end GhostArk.ResearchFrontier.Containment
