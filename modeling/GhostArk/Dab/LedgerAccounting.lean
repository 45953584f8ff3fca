import Mathlib.Algebra.Order.BigOperators.Group.Finset
import GhostArk.Dab.ReplayLedger

/-!
Contract: what holds of the replay ledger in every run.

Owns the invariant between the counter, the entries and what passes still have to subtract, and
how often one nonce can be admitted: once more than it loses its tombstone.

Actions of passes and admissions come in any order, at any clock values.
-/

namespace GhostArk.Dab

open Lib

variable {ι : Type}

section Pending

variable [Fintype ι]

def LedgerSystem.pending (system : LedgerSystem ι) : ℕ :=
  ∑ pass, (system.passes pass).pending

/-- What one pass has yet to subtract is part of what all have. -/
theorem pending_le (system : LedgerSystem ι) (pass : ι) :
    (system.passes pass).pending ≤ system.pending :=
  Finset.single_le_sum (f := fun other => (system.passes other).pending)
    (fun _ _ => Nat.zero_le _) (Finset.mem_univ pass)

theorem sum_pending_update [DecidableEq ι] (passes : ι → Pass) (pass : ι) (next : Pass) :
    (∑ other, (Function.update passes pass next other).pending) + (passes pass).pending =
      (∑ other, (passes other).pending) + next.pending := by
  have split (own : ι → Pass) : ∑ other, (own other).pending =
      (own pass).pending + ∑ other ∈ Finset.univ.erase pass, (own other).pending :=
    (Finset.add_sum_erase _ _ (Finset.mem_univ pass)).symm
  have others : ∑ other ∈ Finset.univ.erase pass,
      (Function.update passes pass next other).pending =
        ∑ other ∈ Finset.univ.erase pass, (passes other).pending := by
    refine Finset.sum_congr rfl fun other member => ?_
    rw [Function.update_of_ne (Finset.ne_of_mem_erase member)]
  rw [split (Function.update passes pass next), split passes, Function.update_self, others]
  omega

end Pending

/-! ### Accounting -/

/-- What holds between the steps. -/
structure Accounted [Fintype ι] (system : LedgerSystem ι) : Prop where
  disjoint : ∀ nonce ∈ system.ledger.spent, system.ledger.entries.get? nonce = none
  counted : system.ledger.activeCount = system.ledger.entries.entries.length + system.pending
  bounded : system.ledger.activeCount ≤ MAX_LEDGER_ENTRIES

section Steps

variable [Fintype ι] {system : LedgerSystem ι}

theorem accounted_start (maxSpent ttlSeconds : ℕ) :
    Accounted (LedgerSystem.start ι maxSpent ttlSeconds) := by
  have nothing : (LedgerSystem.start ι maxSpent ttlSeconds).pending = 0 :=
    Finset.sum_eq_zero fun _ _ => rfl
  refine ⟨fun nonce member => absurd member (Finset.notMem_empty nonce), ?_, Nat.zero_le _⟩
  rw [nothing]
  rfl

theorem Accounted.consume (accounted : Accounted system)
    (nonce transactionId commitment : String) (now : ℕ) :
    Accounted (system.consume nonce transactionId commitment now).2 := by
  rw [LedgerSystem.consume]
  cases consumed : system.ledger.consume nonce transactionId commitment now with
  | mk accepted next =>
    cases accepted with
    | false =>
      obtain rfl := ReplayLedger.consume_false consumed
      exact ⟨accounted.disjoint, accounted.counted, accounted.bounded⟩
    | true =>
      rcases ReplayLedger.consume_true consumed with ⟨notSpent, absent, hasRoom, rfl⟩
      have isWord : system.ledger.activeCount + 1 < wordLimit := by
        have small : MAX_LEDGER_ENTRIES < wordLimit := by decide
        omega
      refine ⟨fun other member => ?_, ?_, ?_⟩
      · have different : other ≠ nonce := fun same => notSpent (same ▸ member)
        exact (InsertionMap.get?_set_ne _ different _).trans (accounted.disjoint other member)
      · have counted := accounted.counted
        show (system.ledger.activeCount + 1) % wordLimit = _ + system.pending
        rw [Nat.mod_eq_of_lt isWord, InsertionMap.length_set_of_none absent]
        omega
      · show (system.ledger.activeCount + 1) % wordLimit ≤ _
        rw [Nat.mod_eq_of_lt isWord]
        exact hasRoom

variable [DecidableEq ι]

/-- A pass keeps the books if it remembers what it removes. -/
theorem Accounted.apply (accounted : Accounted system) {pass : ι} {effect : Effect} {next : Pass}
    (own : next.pending + effect.subtracted =
      (system.passes pass).pending + effect.removed system.ledger) (pruned : List String) :
    Accounted ⟨effect.apply system.ledger, Function.update system.passes pass next,
      system.admitted, pruned⟩ := by
  have all := sum_pending_update system.passes pass next
  have part := pending_le system pass
  have counted := accounted.counted
  have bounded := accounted.bounded
  rw [LedgerSystem.pending] at part counted
  cases effect with
  | none =>
    simp only [Effect.subtracted, Effect.removed] at own
    refine ⟨accounted.disjoint, ?_, bounded⟩
    simp only [LedgerSystem.pending, Effect.apply]
    omega
  | handOff nonce =>
    simp only [Effect.subtracted, Effect.removed] at own
    refine ⟨fun other member => ?_, ?_, bounded⟩
    · refine (InsertionMap.get?_erase _ _ _).trans ?_
      split
      next => rfl
      next different =>
        rcases Finset.mem_insert.mp member with same | spent
        · exact absurd same different
        · exact accounted.disjoint other spent
    · simp only [LedgerSystem.pending, Effect.apply, ReplayLedger.handOff]
      cases found : system.ledger.entries.get? nonce with
      | none =>
        rw [found] at own
        rw [InsertionMap.length_erase_of_none found]
        simp only [Option.isSome_none, Bool.false_eq_true, if_false] at own
        omega
      | some record =>
        rw [found] at own
        have shorter := InsertionMap.length_erase_of_some found
        simp only [Option.isSome_some, if_true] at own
        omega
  | subtract archivedCount =>
    simp only [Effect.subtracted, Effect.removed] at own
    have isWord : system.ledger.activeCount < wordLimit := by
      have small : MAX_LEDGER_ENTRIES < wordLimit := by decide
      omega
    have inRange : archivedCount ≤ system.ledger.activeCount := by omega
    rw [Effect.apply, ReplayLedger.subtract_eq isWord inRange]
    refine ⟨accounted.disjoint, ?_, ?_⟩
    · simp only [LedgerSystem.pending]
      omega
    · exact (Nat.sub_le _ _).trans bounded
  | removeTombstone nonce =>
    simp only [Effect.subtracted, Effect.removed] at own
    refine ⟨fun other member => accounted.disjoint other (Finset.mem_of_mem_erase member), ?_,
      bounded⟩
    simp only [LedgerSystem.pending, Effect.apply, ReplayLedger.removeTombstone]
    omega

theorem Accounted.collector (accounted : Accounted system) (pass : ι) (action : PassAction) :
    Accounted (system.collector pass action) :=
  accounted.apply (pending_passStep (system.passes pass) action) _

/-- Every step keeps the counter at the tombstones that are left and those yet to be subtracted. -/
theorem Accounted.step (accounted : Accounted system) (action : LedgerAction ι) :
    Accounted (replayLedger system action).2 := by
  cases action with
  | consume nonce transactionId commitment now =>
    exact accounted.consume nonce transactionId commitment now
  | collector pass action => exact accounted.collector pass action

end Steps

/-- In every run, between the steps, no nonce is both active and spent, the counter is the number
of entries with those that passes have removed and not yet subtracted, it stays in its bounds, and
no subtraction wraps around. -/
theorem accounted_finalState [DecidableEq ι] [Fintype ι] (maxSpent ttlSeconds : ℕ)
    (actions : List (LedgerAction ι)) :
    let system := replayLedger.finalState (LedgerSystem.start ι maxSpent ttlSeconds) actions
    (∀ nonce, ¬ ((system.ledger.entries.get? nonce).isSome ∧ nonce ∈ system.ledger.spent)) ∧
      system.ledger.activeCount = system.ledger.entries.entries.length + system.pending ∧
      system.ledger.entries.entries.length ≤ system.ledger.activeCount ∧
      system.ledger.activeCount ≤ MAX_LEDGER_ENTRIES ∧
      ∀ pass archivedCount, system.passes pass = .archiving [] archivedCount →
        archivedCount ≤ system.ledger.activeCount := by
  intro system
  have accounted : Accounted system :=
    Machine.preserved_finalState (fun _ action accounted => accounted.step action) actions
      (accounted_start maxSpent ttlSeconds)
  refine ⟨fun nonce both => ?_, accounted.counted, ?_, accounted.bounded,
    fun pass archivedCount isLast => ?_⟩
  · have absent := accounted.disjoint nonce both.2
    rw [absent] at both
    exact Bool.false_ne_true both.1
  · exact accounted.counted ▸ Nat.le_add_right _ _
  · have part := pending_le system pass
    rw [isLast] at part
    exact accounted.counted ▸ part.trans (Nat.le_add_left _ _)

/-! ### Replays -/

/-- What a nonce counts for as long as it exists. -/
def ReplayLedger.trace (ledger : ReplayLedger) (nonce : String) : ℕ :=
  if ledger.Exists nonce then 1 else 0

theorem ReplayLedger.trace_mono {ledger next : ReplayLedger} {nonce : String}
    (kept : ledger.Exists nonce → next.Exists nonce) : ledger.trace nonce ≤ next.trace nonce := by
  rw [trace, trace]
  split
  next isThere => rw [if_pos (kept isThere)]
  next => exact Nat.zero_le _

/-- A nonce is never active and a tombstone at once. -/
theorem ReplayLedger.trace_le_one (ledger : ReplayLedger) (nonce : String) :
    ledger.trace nonce ≤ 1 := by
  rw [trace]
  split
  · exact le_rfl
  · exact Nat.zero_le 1

theorem ReplayLedger.trace_consume {ledger next : ReplayLedger}
    {nonce transactionId commitment : String} {now : ℕ}
    (consumed : ledger.consume nonce transactionId commitment now = (true, next))
    (other : String) :
    ledger.trace other + (if nonce == other then 1 else 0) ≤ next.trace other := by
  have after : next.Exists other ↔ ledger.Exists other ∨ other = nonce := exists_consume consumed
  by_cases same : nonce = other
  · subst same
    rw [trace, if_neg (not_exists_of_consume consumed), if_pos (beq_self_eq_true nonce), trace,
      if_pos (after.mpr (Or.inr rfl))]
  · rw [if_neg (by rw [beq_iff_eq]; exact same), Nat.add_zero]
    exact trace_mono fun isThere => after.mpr (Or.inl isThere)

/-- Each admission has left its nonce in the ledger, or the nonce has lost a tombstone since. -/
def Traced (system : LedgerSystem ι) : Prop :=
  ∀ nonce, system.admitted.count nonce ≤ system.pruned.count nonce + system.ledger.trace nonce

section Replays

variable {system : LedgerSystem ι}

theorem traced_start (maxSpent ttlSeconds : ℕ) :
    Traced (LedgerSystem.start ι maxSpent ttlSeconds) :=
  fun _ => Nat.zero_le _

theorem Traced.consume (traced : Traced system) (nonce transactionId commitment : String)
    (now : ℕ) : Traced (system.consume nonce transactionId commitment now).2 := by
  rw [LedgerSystem.consume]
  cases consumed : system.ledger.consume nonce transactionId commitment now with
  | mk accepted next =>
    cases accepted with
    | false =>
      obtain rfl := ReplayLedger.consume_false consumed
      exact traced
    | true =>
      intro other
      have before := traced other
      have more := ReplayLedger.trace_consume consumed other
      show (nonce :: system.admitted).count other ≤ system.pruned.count other + next.trace other
      rw [List.count_cons]
      omega

theorem Traced.apply (traced : Traced system) (effect : Effect) (passes : ι → Pass) :
    Traced ⟨effect.apply system.ledger, passes, system.admitted,
      effect.pruned system.ledger ++ system.pruned⟩ := by
  intro other
  have before := traced other
  by_cases taken : effect = .removeTombstone other ∧ other ∈ system.ledger.spent
  · rcases taken with ⟨rfl, isSpent⟩
    have atMost := system.ledger.trace_le_one other
    have counts : (Effect.pruned system.ledger (.removeTombstone other) ++
        system.pruned).count other = system.pruned.count other + 1 := by
      rw [Effect.pruned, if_pos isSpent, List.singleton_append, List.count_cons_self]
    show system.admitted.count other ≤ _ + _
    rw [counts]
    omega
  · have kept : system.ledger.trace other ≤ (effect.apply system.ledger).trace other := by
      refine ReplayLedger.trace_mono fun isThere => ?_
      by_cases removes : effect = .removeTombstone other
      · subst removes
        rcases isThere with isActive | isSpent
        · exact Or.inl isActive
        · exact absurd ⟨rfl, isSpent⟩ taken
      · exact Effect.exists_apply removes isThere
    show system.admitted.count other ≤
      (effect.pruned system.ledger ++ system.pruned).count other +
        (effect.apply system.ledger).trace other
    rw [List.count_append]
    omega

variable [DecidableEq ι]

/-- Every step keeps what is known of a nonce: admitted, active, spent or pruned. -/
theorem Traced.step (traced : Traced system) (action : LedgerAction ι) :
    Traced (replayLedger system action).2 := by
  cases action with
  | consume nonce transactionId commitment now =>
    exact traced.consume nonce transactionId commitment now
  | collector pass action =>
    exact traced.apply (passStep system.ledger (system.passes pass) action).1 _

end Replays

/-- In every run, admissions of one nonce return true at most once more than it loses a tombstone
to the capacity. -/
theorem admitted_le_pruned [DecidableEq ι] (maxSpent ttlSeconds : ℕ)
    (actions : List (LedgerAction ι)) (nonce : String) :
    (replayLedger.finalState (LedgerSystem.start ι maxSpent ttlSeconds) actions).admitted.count
        nonce ≤
      (replayLedger.finalState (LedgerSystem.start ι maxSpent ttlSeconds) actions).pruned.count
        nonce + 1 := by
  have traced : Traced (replayLedger.finalState (LedgerSystem.start ι maxSpent ttlSeconds) actions) :=
    Machine.preserved_finalState (fun _ action traced => traced.step action) actions
      (traced_start maxSpent ttlSeconds)
  exact (traced nonce).trans (Nat.add_le_add_left (ReplayLedger.trace_le_one _ nonce) _)

namespace LedgerSample

/-- An admission, one pass that prunes at capacity zero, and the admission again. -/
def replays : List (LedgerAction Unit) :=
  [.consume "n" "n" "c" 0, .collector () (.begin 0), .collector () (.visit "n"),
    .collector () .endScan, .collector () .archive, .collector () .subtract,
    .collector () .compare, .collector () .measure, .collector () (.collect "n"),
    .collector () .endCollect, .collector () .remove, .collector () .remove,
    .consume "n" "n" "c" 0]

/-- The nonce is admitted twice. -/
theorem admitted_twice :
    (replayLedger.finalState (LedgerSystem.start Unit 0 0) replays).admitted.count "n" = 2 ∧
      ¬ ∀ (maxSpent ttlSeconds : ℕ) (actions : List (LedgerAction Unit)) (nonce : String),
        (replayLedger.finalState (LedgerSystem.start Unit maxSpent ttlSeconds)
          actions).admitted.count nonce ≤ 1 := by
  have twice : (replayLedger.finalState (LedgerSystem.start Unit 0 0) replays).admitted.count
      "n" = 2 := by decide +kernel
  refine ⟨twice, fun once => ?_⟩
  have atMost := once 0 0 replays "n"
  rw [twice] at atMost
  exact absurd atMost (by decide)

end LedgerSample

end GhostArk.Dab
