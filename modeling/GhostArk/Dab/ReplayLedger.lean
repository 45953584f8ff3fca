import Mathlib.Algebra.BigOperators.Fin
import Mathlib.Data.Finset.Basic
import GhostArk.Lib.InsertionMap
import GhostArk.Lib.Machine

/-!
Contract: `ReplayLedger` of `dab/gateway/src/nonce.rs`.

Owns the ledger of active nonces and tombstones, admission, passes of the garbage collector
step by step and what each step can do, and the machine in which any number of passes and
admissions interleave.

The transition lock makes an admission, and the handoff of one nonce, one step each. A pass
visits entries in any order, and any of them again: an iterator over a sharded map promises no
more. Unsigned subtraction wraps around. Clocks count seconds; one that is set before the epoch
would panic.
-/

namespace GhostArk.Dab

open Lib

def MAX_LEDGER_ENTRIES : ℕ := 100000

/-- Values of `usize` and `u64` stay below. -/
def wordLimit : ℕ := 2 ^ 64

/-- `left - right` of unsigned words. -/
def wrappingSub (left right : ℕ) : ℕ := (left + (wordLimit - right)) % wordLimit

theorem wrappingSub_of_le {left right : ℕ} (isWord : left < wordLimit) (isLess : right ≤ left) :
    wrappingSub left right = left - right := by
  have same : left + (wordLimit - right) = left - right + wordLimit := by omega
  rw [wrappingSub, same, Nat.add_mod_right, Nat.mod_eq_of_lt (by omega)]

structure NonceRecord where
  nonce : String
  transactionId : String
  createdAt : ℕ
  commitment : String
deriving DecidableEq

structure ReplayLedger where
  entries : InsertionMap String NonceRecord
  spent : Finset String
  activeCount : ℕ
  maxSpent : ℕ
  ttlSeconds : ℕ

namespace ReplayLedger

def withConfig (maxSpent ttlSeconds : ℕ) : ReplayLedger := ⟨.empty, ∅, 0, maxSpent, ttlSeconds⟩

/-- The nonce is active or has a tombstone. -/
def Exists (ledger : ReplayLedger) (nonce : String) : Prop :=
  (ledger.entries.get? nonce).isSome = true ∨ nonce ∈ ledger.spent

instance decidableExists (ledger : ReplayLedger) (nonce : String) :
    Decidable (ledger.Exists nonce) :=
  inferInstanceAs (Decidable (_ ∨ _))

def consume (ledger : ReplayLedger) (nonce transactionId commitment : String) (now : ℕ) :
    Bool × ReplayLedger :=
  if nonce ∈ ledger.spent then (false, ledger)
  else if (ledger.entries.get? nonce).isSome then (false, ledger)
  else if MAX_LEDGER_ENTRIES ≤ ledger.activeCount then (false, ledger)
  else
    (true, { ledger with
      entries := ledger.entries.set nonce ⟨nonce, transactionId, now, commitment⟩
      -- the count goes up where the insertion replaces nothing
      activeCount :=
        if (ledger.entries.get? nonce).isNone then (ledger.activeCount + 1) % wordLimit
        else ledger.activeCount })

/-! ### Garbage collection -/

def IsExpired (ledger : ReplayLedger) (now : ℕ) (record : NonceRecord) : Prop :=
  ledger.ttlSeconds ≤ wrappingSub now record.createdAt

instance decidableIsExpired (ledger : ReplayLedger) (now : ℕ) (record : NonceRecord) :
    Decidable (ledger.IsExpired now record) :=
  inferInstanceAs (Decidable (_ ≤ _))

def handOff (ledger : ReplayLedger) (nonce : String) : ReplayLedger :=
  { ledger with
    spent := insert nonce ledger.spent
    entries := ledger.entries.erase nonce }

/-- `active_count.fetch_sub(archived_count)`, where something was archived. -/
def subtract (ledger : ReplayLedger) (archivedCount : ℕ) : ReplayLedger :=
  if 0 < archivedCount then
    { ledger with activeCount := wrappingSub ledger.activeCount archivedCount }
  else ledger

def removeTombstone (ledger : ReplayLedger) (nonce : String) : ReplayLedger :=
  { ledger with spent := ledger.spent.erase nonce }

end ReplayLedger

inductive Pass where
  | idle
  | scanning (now : ℕ) (toArchive : List String)
  | archiving (toArchive : List String) (archivedCount : ℕ)
  | enforcing
  | measuring
  | collecting (excess : ℕ) (toRemove : List String)
  | removing (toRemove : List String)

inductive PassAction where
  | begin (now : ℕ)
  /-- The scan comes to the entry of a nonce. -/
  | visit (nonce : String)
  | endScan
  | archive
  | subtract
  /-- `spent.len() > max_spent`. -/
  | compare
  /-- `spent.len() - max_spent`. -/
  | measure
  /-- The second scan comes to a tombstone. -/
  | collect (nonce : String)
  | endCollect
  | remove

def Pass.pending : Pass → ℕ
  | .archiving _ archivedCount => archivedCount
  | _ => 0

section PassSteps

variable (ledger : ReplayLedger)

def Pass.begin (now : ℕ) : Pass → Pass
  | .idle => .scanning now []
  | pass => pass

def Pass.visit (nonce : String) : Pass → Pass
  | .scanning now toArchive =>
    match ledger.entries.get? nonce with
    | some record =>
      if ledger.IsExpired now record then .scanning now (toArchive ++ [nonce])
      else .scanning now toArchive
    | none => .scanning now toArchive
  | pass => pass

def Pass.endScan : Pass → Pass
  | .scanning _ toArchive => .archiving toArchive 0
  | pass => pass

def Pass.compare : Pass → Pass
  | .enforcing => if ledger.maxSpent < ledger.spent.card then .measuring else .idle
  | pass => pass

def Pass.measure : Pass → Pass
  | .measuring => .collecting (wrappingSub ledger.spent.card ledger.maxSpent) []
  | pass => pass

def Pass.collect (nonce : String) : Pass → Pass
  | .collecting excess toRemove =>
    if toRemove.length < excess ∧ nonce ∈ ledger.spent then
      .collecting excess (toRemove ++ [nonce])
    else .collecting excess toRemove
  | pass => pass

def Pass.endCollect : Pass → Pass
  | .collecting _ toRemove => .removing toRemove
  | pass => pass

/-- What a step of a pass does to the ledger. -/
inductive Effect where
  | none
  | handOff (nonce : String)
  | subtract (archivedCount : ℕ)
  | removeTombstone (nonce : String)

def Effect.apply : Effect → ReplayLedger
  | .none => ledger
  | .handOff nonce => ledger.handOff nonce
  | .subtract archivedCount => ledger.subtract archivedCount
  | .removeTombstone nonce => ledger.removeTombstone nonce

/-- Tombstones that a step takes away. -/
def Effect.pruned : Effect → List String
  | .removeTombstone nonce => if nonce ∈ ledger.spent then [nonce] else []
  | _ => []

/-- One step of `run_garbage_collection`. An action of another phase does nothing. -/
def passStep (pass : Pass) : PassAction → Effect × Pass
  | .begin now => (.none, pass.begin now)
  | .visit nonce => (.none, pass.visit ledger nonce)
  | .endScan => (.none, pass.endScan)
  | .archive =>
    match pass with
    | .archiving (nonce :: rest) archivedCount =>
      (.handOff nonce, .archiving rest
        (if (ledger.entries.get? nonce).isSome then archivedCount + 1 else archivedCount))
    | pass => (.none, pass)
  | .subtract =>
    match pass with
    | .archiving [] archivedCount => (.subtract archivedCount, .enforcing)
    | pass => (.none, pass)
  | .compare => (.none, pass.compare ledger)
  | .measure => (.none, pass.measure ledger)
  | .collect nonce => (.none, pass.collect ledger nonce)
  | .endCollect => (.none, pass.endCollect)
  | .remove =>
    match pass with
    | .removing (nonce :: rest) => (.removeTombstone nonce, .removing rest)
    | .removing [] => (.none, .idle)
    | pass => (.none, pass)

end PassSteps

/-- A ledger with any number of passes at work. -/
structure LedgerSystem (ι : Type) where
  ledger : ReplayLedger
  passes : ι → Pass
  /-- Nonces whose admission returned true, the last first. Statements are about it. -/
  admitted : List String
  /-- Nonces that have lost their tombstone, the last first. -/
  pruned : List String

inductive LedgerAction (ι : Type) where
  | consume (nonce transactionId commitment : String) (now : ℕ)
  | collector (pass : ι) (action : PassAction)

namespace LedgerSystem

variable {ι : Type} [DecidableEq ι]

def start (ι : Type) (maxSpent ttlSeconds : ℕ) : LedgerSystem ι :=
  ⟨.withConfig maxSpent ttlSeconds, fun _ => .idle, [], []⟩

def consume (system : LedgerSystem ι) (nonce transactionId commitment : String) (now : ℕ) :
    Bool × LedgerSystem ι :=
  let (accepted, ledger) := system.ledger.consume nonce transactionId commitment now
  (accepted, { system with
    ledger
    admitted := if accepted then nonce :: system.admitted else system.admitted })

def collector (system : LedgerSystem ι) (pass : ι) (action : PassAction) : LedgerSystem ι :=
  let (effect, next) := passStep system.ledger (system.passes pass) action
  { system with
    ledger := effect.apply system.ledger
    passes := Function.update system.passes pass next
    pruned := effect.pruned system.ledger ++ system.pruned }

end LedgerSystem

/-- The ledger serves one action after another; an admission is answered. -/
def replayLedger {ι : Type} [DecidableEq ι] :
    Machine (LedgerSystem ι) (LedgerAction ι) (Option Bool) := fun system action =>
  match action with
  | .consume nonce transactionId commitment now =>
    let (accepted, next) := system.consume nonce transactionId commitment now
    (some accepted, next)
  | .collector pass action => (none, system.collector pass action)

namespace ReplayLedger

variable {ledger next : ReplayLedger} {nonce transactionId commitment : String} {now : ℕ}

section Consumed

variable (consumed : ledger.consume nonce transactionId commitment now = (true, next))
include consumed

theorem consume_true :
    nonce ∉ ledger.spent ∧ ledger.entries.get? nonce = none ∧
      ledger.activeCount < MAX_LEDGER_ENTRIES ∧
        next = { ledger with
          entries := ledger.entries.set nonce ⟨nonce, transactionId, now, commitment⟩
          activeCount := (ledger.activeCount + 1) % wordLimit } := by
  rw [consume] at consumed
  split at consumed
  next => cases consumed
  next notSpent =>
    split at consumed
    next => cases consumed
    next notActive =>
      split at consumed
      next => cases consumed
      next hasRoom =>
        have absent : ledger.entries.get? nonce = none :=
          Option.not_isSome_iff_eq_none.mp notActive
        have isNext := (Prod.mk.inj consumed).2
        rw [if_pos (Option.isNone_iff_eq_none.mpr absent)] at isNext
        exact ⟨notSpent, absent, not_le.mp hasRoom, isNext.symm⟩

theorem not_exists_of_consume : ¬ ledger.Exists nonce := by
  rcases consume_true consumed with ⟨notSpent, absent, _, _⟩
  rintro (isActive | isSpent)
  · rw [absent] at isActive
    cases isActive
  · exact notSpent isSpent

theorem exists_consume
    {other : String} : next.Exists other ↔ ledger.Exists other ∨ other = nonce := by
  rcases consume_true consumed with ⟨_, _, _, rfl⟩
  simp only [Exists, InsertionMap.get?_set]
  by_cases same : other = nonce
  · simp only [same, if_true, Option.isSome_some, true_or, or_true]
  · simp only [same, if_false, or_false]

end Consumed

theorem consume_false
    (consumed : ledger.consume nonce transactionId commitment now = (false, next)) :
    next = ledger := by
  rw [consume] at consumed
  split at consumed
  next => exact (Prod.mk.inj consumed).2.symm
  next =>
    split at consumed
    next => exact (Prod.mk.inj consumed).2.symm
    next =>
      split at consumed
      next => exact (Prod.mk.inj consumed).2.symm
      next => cases consumed

theorem subtract_eq {archivedCount : ℕ} (isWord : ledger.activeCount < wordLimit)
    (inRange : archivedCount ≤ ledger.activeCount) :
    ledger.subtract archivedCount =
      { ledger with activeCount := ledger.activeCount - archivedCount } := by
  rw [subtract]
  split
  next => rw [wrappingSub_of_le isWord inRange]
  next notPositive =>
    obtain rfl : archivedCount = 0 := Nat.eq_zero_of_not_pos notPositive
    rfl

theorem exists_handOff {other : String} :
    (ledger.handOff nonce).Exists other ↔ ledger.Exists other ∨ other = nonce := by
  simp only [Exists, handOff, InsertionMap.get?_erase, Finset.mem_insert]
  by_cases same : other = nonce
  · simp only [same, true_or, or_true]
  · simp only [same, if_false, false_or, or_false]

end ReplayLedger

section Cases

variable {ledger : ReplayLedger} {nonce : String}

theorem Effect.exists_apply {effect : Effect} (keeps : effect ≠ .removeTombstone nonce)
    (isThere : ledger.Exists nonce) : (effect.apply ledger).Exists nonce := by
  cases effect with
  | none => exact isThere
  | handOff other => exact ReplayLedger.exists_handOff.mpr (Or.inl isThere)
  | subtract archivedCount =>
    rw [Effect.apply, ReplayLedger.subtract]
    split
    · exact isThere
    · exact isThere
  | removeTombstone other =>
    rcases isThere with isActive | isSpent
    · exact Or.inl isActive
    · have different : nonce ≠ other := fun same => keeps (congrArg _ same.symm)
      exact Or.inr (Finset.mem_erase.mpr ⟨different, isSpent⟩)

/-- Entries that a step of a pass removes. -/
def Effect.removed (ledger : ReplayLedger) : Effect → ℕ
  | .handOff nonce => if (ledger.entries.get? nonce).isSome then 1 else 0
  | _ => 0

def Effect.subtracted : Effect → ℕ
  | .subtract archivedCount => archivedCount
  | _ => 0

/-- What a step of a pass can do. -/
inductive PassMove (ledger : ReplayLedger) : Pass → PassAction → Effect → Pass → Prop where
  | stay (pass : Pass) (action : PassAction) : PassMove ledger pass action .none pass
  | begin (now : ℕ) : PassMove ledger .idle (.begin now) .none (.scanning now [])
  | visit {now : ℕ} {toArchive : List String} {nonce : String} {record : NonceRecord}
      (found : ledger.entries.get? nonce = some record) (isExpired : ledger.IsExpired now record) :
      PassMove ledger (.scanning now toArchive) (.visit nonce) .none
        (.scanning now (toArchive ++ [nonce]))
  | endScan (now : ℕ) (toArchive : List String) :
      PassMove ledger (.scanning now toArchive) .endScan .none (.archiving toArchive 0)
  | archive (nonce : String) (rest : List String) (archivedCount : ℕ) :
      PassMove ledger (.archiving (nonce :: rest) archivedCount) .archive (.handOff nonce)
        (.archiving rest (archivedCount + (Effect.handOff nonce).removed ledger))
  | subtract (archivedCount : ℕ) :
      PassMove ledger (.archiving [] archivedCount) .subtract (.subtract archivedCount) .enforcing
  | above (more : ledger.maxSpent < ledger.spent.card) :
      PassMove ledger .enforcing .compare .none .measuring
  | within : PassMove ledger .enforcing .compare .none .idle
  | measure :
      PassMove ledger .measuring .measure .none
        (.collecting (wrappingSub ledger.spent.card ledger.maxSpent) [])
  | collect (excess : ℕ) (toRemove : List String) (nonce : String) :
      PassMove ledger (.collecting excess toRemove) (.collect nonce) .none
        (.collecting excess (toRemove ++ [nonce]))
  | endCollect (excess : ℕ) (toRemove : List String) :
      PassMove ledger (.collecting excess toRemove) .endCollect .none (.removing toRemove)
  | remove (nonce : String) (rest : List String) :
      PassMove ledger (.removing (nonce :: rest)) .remove (.removeTombstone nonce) (.removing rest)
  | finish : PassMove ledger (.removing []) .remove .none .idle

theorem passMove (ledger : ReplayLedger) (pass : Pass) (action : PassAction) :
    PassMove ledger pass action (passStep ledger pass action).1
      (passStep ledger pass action).2 := by
  cases pass with
  | idle =>
    cases action with
    | begin now => exact .begin now
    | _ => exact .stay _ _
  | scanning now toArchive =>
    cases action with
    | visit nonce =>
      show PassMove ledger _ _ .none (Pass.visit ledger nonce (.scanning now toArchive))
      rw [Pass.visit]
      split
      next record found =>
        split
        next isExpired => exact .visit found isExpired
        next => exact .stay _ _
      next => exact .stay _ _
    | endScan => exact .endScan now toArchive
    | _ => exact .stay _ _
  | archiving toArchive archivedCount =>
    cases toArchive with
    | nil =>
      cases action with
      | subtract => exact .subtract archivedCount
      | _ => exact .stay _ _
    | cons nonce rest =>
      cases action with
      | archive =>
        have move := @PassMove.archive ledger nonce rest archivedCount
        rw [Effect.removed] at move
        show PassMove ledger _ _ (.handOff nonce) (.archiving rest
          (if (ledger.entries.get? nonce).isSome then archivedCount + 1 else archivedCount))
        split at move
        next isActive =>
          rw [if_pos isActive]
          exact move
        next isAbsent =>
          rw [if_neg isAbsent]
          exact move
      | _ => exact .stay _ _
  | enforcing =>
    cases action with
    | compare =>
      show PassMove ledger _ _ .none (Pass.compare ledger .enforcing)
      rw [Pass.compare]
      split
      next more => exact .above more
      next => exact .within
    | _ => exact .stay _ _
  | measuring =>
    cases action with
    | measure => exact .measure
    | _ => exact .stay _ _
  | collecting excess toRemove =>
    cases action with
    | collect nonce =>
      show PassMove ledger _ _ .none (Pass.collect ledger nonce (.collecting excess toRemove))
      rw [Pass.collect]
      split
      · exact .collect excess toRemove nonce
      · exact .stay _ _
    | endCollect => exact .endCollect excess toRemove
    | _ => exact .stay _ _
  | removing toRemove =>
    cases toRemove with
    | nil =>
      cases action with
      | remove => exact .finish
      | _ => exact .stay _ _
    | cons nonce rest =>
      cases action with
      | remove => exact .remove nonce rest
      | _ => exact .stay _ _

theorem PassMove.removal {pass next : Pass} {action : PassAction}
    (move : PassMove ledger pass action (.removeTombstone nonce) next) :
    action = .remove ∧ ∃ rest, pass = .removing (nonce :: rest) := by
  cases move with
  | remove => exact ⟨rfl, _, rfl⟩

theorem pending_passStep (pass : Pass) (action : PassAction) :
    (passStep ledger pass action).2.pending + (passStep ledger pass action).1.subtracted =
      pass.pending + (passStep ledger pass action).1.removed ledger := by
  have move := passMove ledger pass action
  generalize (passStep ledger pass action).1 = effect at move ⊢
  generalize (passStep ledger pass action).2 = next at move ⊢
  cases move with
  | subtract archivedCount => exact Nat.add_comm 0 archivedCount
  | _ => rfl

end Cases

end GhostArk.Dab
