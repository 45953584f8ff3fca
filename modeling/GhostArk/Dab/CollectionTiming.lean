import GhostArk.Dab.ReplayLedger

/-!
Contract: when `run_garbage_collection` of `dab/gateway/src/nonce.rs` subtracts and removes.

Owns runs under a clock that never goes back, which subtractions of a pass stay in range, how old
the record is that a handoff removes, and the interleavings in which all of this is as it should be.

The time of a pass is sampled before its scan, while admissions go on; what it puts on its list are
nonces, not records; and the number of tombstones is read twice.
-/

namespace GhostArk.Dab

open Lib

/-- A state, with the last reading of the clock. -/
structure ClockedSystem (ι : Type) where
  clock : ℕ
  system : LedgerSystem ι

structure TimedAction (ι : Type) where
  time : ℕ
  action : LedgerAction ι

/-- What the action reads of the clock is the time. -/
def LedgerAction.TakenAt {ι : Type} (time : ℕ) : LedgerAction ι → Prop
  | .consume _ _ _ now => now = time
  | .collector _ (.begin now) => now = time
  | .collector _ _ => True

def timedLedger {ι : Type} [DecidableEq ι] :
    Machine (ClockedSystem ι) (TimedAction ι) (Option Bool) := fun state step =>
  let (answer, next) := replayLedger state.system step.action
  (answer, ⟨step.time, next⟩)

/-- The clock does not go back, and its readings are words. -/
structure OnClock {ι : Type} (state : ClockedSystem ι) (step : TimedAction ι) : Prop where
  forward : state.clock ≤ step.time
  isWord : step.time < wordLimit
  taken : step.action.TakenAt step.time

/-- Nonces that a pass is to hand over. -/
def Pass.listed : Pass → List String
  | .scanning _ toArchive => toArchive
  | .archiving toArchive _ => toArchive
  | _ => []

/-- Neither subtraction of the pass goes below zero, and a record that its handoff removes is as old
as it has to be. -/
structure PassTimely (ledger : ReplayLedger) (pass : Pass) (action : PassAction) (time : ℕ) :
    Prop where
  age : ∀ nonce now toArchive record, action = .visit nonce → pass = .scanning now toArchive →
    ledger.entries.get? nonce = some record → record.createdAt ≤ now
  excess : action = .measure → pass = .measuring → ledger.maxSpent ≤ ledger.spent.card
  expired : ∀ nonce rest archivedCount record, action = .archive →
    pass = .archiving (nonce :: rest) archivedCount →
      ledger.entries.get? nonce = some record → record.createdAt + ledger.ttlSeconds ≤ time

def Timely {ι : Type} (state : ClockedSystem ι) (step : TimedAction ι) : Prop :=
  ∀ pass action, step.action = .collector pass action →
    PassTimely state.system.ledger (state.system.passes pass) action step.time

/-- No step meets what another has changed under it. -/
structure Calm {ι : Type} (state : ClockedSystem ι) (step : TimedAction ι) : Prop where
  /-- A scan comes to no entry that was stamped later than its sample. -/
  scan : ∀ pass nonce now toArchive record, step.action = .collector pass (.visit nonce) →
    state.system.passes pass = .scanning now toArchive →
      state.system.ledger.entries.get? nonce = some record → record.createdAt ≤ now
  /-- No nonce is admitted that a pass has on its list. -/
  admission : ∀ nonce transactionId commitment now,
    step.action = .consume nonce transactionId commitment now →
      ¬ state.system.ledger.Exists nonce → ∀ pass, nonce ∉ (state.system.passes pass).listed
  /-- No tombstone is taken down to the capacity while a pass is to subtract it. -/
  removal : ∀ pass nonce rest, step.action = .collector pass .remove →
    state.system.passes pass = .removing (nonce :: rest) → nonce ∈ state.system.ledger.spent →
      (∃ other, state.system.passes other = .measuring) →
        state.system.ledger.maxSpent < state.system.ledger.spent.card

section PassSteps

variable {ledger : ReplayLedger} {pass next : Pass} {action : PassAction} {effect : Effect}
  {nonce : String}

/-- A nonce comes onto the list of a pass only when the pass visits its record. -/
theorem PassMove.listed (move : PassMove ledger pass action effect next)
    (member : nonce ∈ next.listed) :
    nonce ∈ pass.listed ∨ ∃ now toArchive record, action = .visit nonce ∧
      pass = .scanning now toArchive ∧ ledger.entries.get? nonce = some record ∧
        ledger.IsExpired now record := by
  cases move with
  | stay => exact Or.inl member
  | visit found isExpired =>
    rcases List.mem_append.mp member with before | isVisited
    · exact Or.inl before
    · obtain rfl := List.mem_singleton.mp isVisited
      exact Or.inr ⟨_, _, _, rfl, rfl, found, isExpired⟩
  | endScan => exact Or.inl member
  | archive => exact Or.inl (List.mem_cons_of_mem _ member)
  | _ => exact absurd member List.not_mem_nil

theorem PassMove.scanning {now : ℕ} {toArchive : List String}
    (move : PassMove ledger pass action effect (.scanning now toArchive)) :
    (∃ before, pass = .scanning now before) ∨ action = .begin now := by
  cases move with
  | stay => exact Or.inl ⟨_, rfl⟩
  | begin => exact Or.inr rfl
  | visit => exact Or.inl ⟨_, rfl⟩

theorem PassMove.measuring (move : PassMove ledger pass action effect .measuring) :
    pass = .measuring ∨ effect = .none ∧ ledger.maxSpent < ledger.spent.card := by
  cases move with
  | stay => exact Or.inl rfl
  | above more => exact Or.inr ⟨rfl, more⟩

theorem Effect.get?_apply {record : NonceRecord}
    (found : (effect.apply ledger).entries.get? nonce = some record) :
    ledger.entries.get? nonce = some record := by
  cases effect with
  | none => exact found
  | handOff other =>
    rw [Effect.apply, ReplayLedger.handOff, InsertionMap.get?_erase] at found
    split at found
    next => cases found
    next => exact found
  | subtract archivedCount =>
    rw [Effect.apply, ReplayLedger.subtract] at found
    split at found
    next => exact found
    next => exact found
  | removeTombstone other => exact found

@[simp] theorem Effect.maxSpent_apply : (effect.apply ledger).maxSpent = ledger.maxSpent := by
  cases effect with
  | subtract archivedCount =>
    rw [Effect.apply, ReplayLedger.subtract]
    split <;> rfl
  | _ => rfl

@[simp] theorem Effect.ttlSeconds_apply :
    (effect.apply ledger).ttlSeconds = ledger.ttlSeconds := by
  cases effect with
  | subtract archivedCount =>
    rw [Effect.apply, ReplayLedger.subtract]
    split <;> rfl
  | _ => rfl

theorem Effect.card_apply :
    ledger.spent.card ≤ (effect.apply ledger).spent.card ∨
      ∃ other ∈ ledger.spent, effect = .removeTombstone other ∧
        ledger.spent.card = (effect.apply ledger).spent.card + 1 := by
  cases effect with
  | none => exact Or.inl le_rfl
  | handOff other => exact Or.inl (Finset.card_le_card (Finset.subset_insert _ _))
  | subtract archivedCount =>
    rw [Effect.apply, ReplayLedger.subtract]
    split
    · exact Or.inl le_rfl
    · exact Or.inl le_rfl
  | removeTombstone other =>
    rw [Effect.apply, ReplayLedger.removeTombstone]
    by_cases isSpent : other ∈ ledger.spent
    · have fewer := Finset.card_erase_add_one isSpent
      exact Or.inr ⟨other, isSpent, rfl, fewer.symm⟩
    · rw [Finset.erase_eq_of_notMem isSpent]
      exact Or.inl le_rfl

end PassSteps

/-! ### Runs in range -/

/-- What holds between the steps. -/
structure Collecting {ι : Type} (state : ClockedSystem ι) : Prop where
  isWord : state.clock < wordLimit
  sampled : ∀ pass now toArchive, state.system.passes pass = .scanning now toArchive →
    now ≤ state.clock
  listed : ∀ pass nonce record, nonce ∈ (state.system.passes pass).listed →
    state.system.ledger.entries.get? nonce = some record →
      record.createdAt + state.system.ledger.ttlSeconds ≤ state.clock
  above : ∀ pass, state.system.passes pass = .measuring →
    state.system.ledger.maxSpent ≤ state.system.ledger.spent.card

section Runs

variable {ι : Type} {state : ClockedSystem ι} {timed : TimedAction ι}

theorem collecting_start (maxSpent ttlSeconds : ℕ) :
    Collecting ⟨0, LedgerSystem.start ι maxSpent ttlSeconds⟩ where
  isWord := show 0 < wordLimit by decide
  sampled pass now toArchive isScanning := by cases isScanning
  listed pass nonce record member := by cases member
  above pass isMeasuring := by cases isMeasuring

theorem old_of_isExpired {ledger : ReplayLedger} {now : ℕ} {record : NonceRecord}
    (isWord : now < wordLimit) (inRange : record.createdAt ≤ now)
    (isExpired : ledger.IsExpired now record) : record.createdAt + ledger.ttlSeconds ≤ now := by
  rw [ReplayLedger.IsExpired, wrappingSub_of_le isWord inRange] at isExpired
  omega

theorem Collecting.consume (collecting : Collecting state) {nonce transactionId commitment : String}
    {time now : ℕ} (forward : state.clock ≤ time) (isWord : time < wordLimit)
    (unlisted : ¬ state.system.ledger.Exists nonce →
      ∀ pass, nonce ∉ (state.system.passes pass).listed) :
    Collecting ⟨time, (state.system.consume nonce transactionId commitment now).2⟩ := by
  rw [LedgerSystem.consume]
  cases consumed : state.system.ledger.consume nonce transactionId commitment now with
  | mk accepted next =>
    cases accepted with
    | false =>
      obtain rfl := ReplayLedger.consume_false consumed
      exact ⟨isWord, fun pass now toArchive isScanning =>
          (collecting.sampled pass now toArchive isScanning).trans forward,
        fun pass other record member found =>
          (collecting.listed pass other record member found).trans forward, collecting.above⟩
    | true =>
      have isNew := unlisted (ReplayLedger.not_exists_of_consume consumed)
      rcases ReplayLedger.consume_true consumed with ⟨-, -, -, rfl⟩
      refine ⟨isWord, fun pass now toArchive isScanning =>
          (collecting.sampled pass now toArchive isScanning).trans forward,
        fun pass other record member found => ?_, collecting.above⟩
      have different : other ≠ nonce := fun same => isNew pass (same ▸ member)
      have before := (InsertionMap.get?_set_ne _ different _).symm.trans found
      exact (collecting.listed pass other record member before).trans forward

/-- In a calm state of the invariant, no subtraction is out of range and no young record removed. -/
theorem Collecting.timely (collecting : Collecting state) (onClock : OnClock state timed)
    (calm : Calm state timed) : Timely state timed := by
  intro pass action isCollector
  constructor
  · rintro nonce now toArchive record rfl isScanning found
    exact calm.scan pass nonce now toArchive record isCollector isScanning found
  · exact fun _ isMeasuring => collecting.above pass isMeasuring
  · rintro nonce rest archivedCount record - isArchiving found
    have member : nonce ∈ (state.system.passes pass).listed := by
      rw [isArchiving]
      exact List.mem_cons_self
    exact (collecting.listed pass nonce record member found).trans onClock.forward

variable [DecidableEq ι]

/-- One step of a pass, taken while the clock stands still, keeps the invariant. -/
theorem Collecting.move (collecting : Collecting state) {pass : ι} {action : PassAction}
    {effect : Effect} {next : Pass} {time : ℕ}
    (move : PassMove state.system.ledger (state.system.passes pass) action effect next)
    (onClock : OnClock state ⟨time, .collector pass action⟩)
    (calm : Calm state ⟨time, .collector pass action⟩) (admitted pruned : List String) :
    Collecting ⟨time, effect.apply state.system.ledger,
      Function.update state.system.passes pass next, admitted, pruned⟩ := by
  constructor
  · exact onClock.isWord
  · intro other now toArchive isScanning
    simp only at isScanning ⊢
    by_cases same : other = pass
    · subst same
      rw [Function.update_self] at isScanning
      subst isScanning
      rcases move.scanning with ⟨before, wasScanning⟩ | begins
      · exact (collecting.sampled other now before wasScanning).trans onClock.forward
      · subst begins
        exact le_of_eq onClock.taken
    · rw [Function.update_of_ne same] at isScanning
      exact (collecting.sampled other now toArchive isScanning).trans onClock.forward
  · intro other nonce record member found
    have before := Effect.get?_apply found
    simp only [Effect.ttlSeconds_apply] at member ⊢
    by_cases same : other = pass
    · subst same
      rw [Function.update_self] at member
      rcases move.listed member with wasListed | ⟨now, toArchive, held, isVisit, isScanning, isHeld,
        isExpired⟩
      · exact (collecting.listed other nonce record wasListed before).trans onClock.forward
      · obtain rfl : held = record := Option.some.inj (isHeld.symm.trans before)
        have inRange := calm.scan other nonce now toArchive held (by rw [isVisit]) isScanning isHeld
        have sampled := collecting.sampled other now toArchive isScanning
        have isOld := old_of_isExpired (sampled.trans_lt collecting.isWord) inRange isExpired
        exact isOld.trans (sampled.trans onClock.forward)
    · rw [Function.update_of_ne same] at member
      exact (collecting.listed other nonce record member before).trans onClock.forward
  · intro other isMeasuring
    simp only [Effect.maxSpent_apply] at isMeasuring ⊢
    -- either some pass was to subtract before this step, or this one has just compared
    have earlier : (∃ measuring, state.system.passes measuring = .measuring) ∨
        effect = .none ∧ state.system.ledger.maxSpent < state.system.ledger.spent.card := by
      by_cases same : other = pass
      · subst same
        rw [Function.update_self] at isMeasuring
        subst isMeasuring
        rcases move.measuring with wasMeasuring | compared
        · exact Or.inl ⟨other, wasMeasuring⟩
        · exact Or.inr compared
      · rw [Function.update_of_ne same] at isMeasuring
        exact Or.inl ⟨other, isMeasuring⟩
    rcases earlier with ⟨measuring, wasMeasuring⟩ | ⟨rfl, more⟩
    · rcases @Effect.card_apply state.system.ledger effect with
        kept | ⟨removed, isSpent, rfl, fewer⟩
      · exact (collecting.above measuring wasMeasuring).trans kept
      · rcases move.removal with ⟨rfl, rest, isRemoving⟩
        have room := calm.removal pass removed rest rfl isRemoving isSpent ⟨measuring, wasMeasuring⟩
        omega
    · exact more.le

/-- Every step of the clocked ledger keeps the invariant. -/
theorem Collecting.step (collecting : Collecting state) (onClock : OnClock state timed)
    (calm : Calm state timed) : Collecting (timedLedger state timed).2 := by
  rcases timed with ⟨time, action⟩
  cases action with
  | consume nonce transactionId commitment now =>
    exact collecting.consume onClock.forward onClock.isWord
      (calm.admission nonce transactionId commitment now rfl)
  | collector pass action => exact collecting.move (passMove _ _ action) onClock calm _ _

end Runs

/-- **Collection in time.** In every run under a clock that does not go back, of any number of
passes and admissions, whose steps are all calm, no subtraction of a pass goes below zero, and every
record that is removed is past its time to live. -/
theorem timely_of_calm {ι : Type} [DecidableEq ι] (maxSpent ttlSeconds : ℕ)
    (steps : List (TimedAction ι))
    (onClock : timedLedger.Throughout OnClock ⟨0, LedgerSystem.start ι maxSpent ttlSeconds⟩ steps)
    (calm : timedLedger.Throughout Calm ⟨0, LedgerSystem.start ι maxSpent ttlSeconds⟩ steps) :
    timedLedger.Throughout Timely ⟨0, LedgerSystem.start ι maxSpent ttlSeconds⟩ steps := by
  have step (state : ClockedSystem ι) (timed : TimedAction ι) (collecting : Collecting state)
      (meets : OnClock state timed ∧ Calm state timed) :
      Timely state timed ∧ Collecting (timedLedger state timed).2 :=
    ⟨collecting.timely meets.1 meets.2, collecting.step meets.1 meets.2⟩
  exact Machine.throughout_of_invariant step (collecting_start maxSpent ttlSeconds)
    (onClock.and calm)

namespace CollectionSample

/-- One pass hands a nonce over and takes its tombstone away while another is to measure. -/
def hourLater : List (Bool × PassAction) :=
  [(false, .begin 3610), (false, .visit "n"), (false, .endScan), (false, .archive),
    (false, .subtract), (false, .compare), (false, .measure), (false, .collect "n"),
    (false, .endCollect), (true, .begin 3610), (true, .endScan), (true, .subtract),
    (true, .compare), (false, .remove), (false, .remove)]

def admission : TimedAction Bool := ⟨10, .consume "n" "t" "c" 10⟩

def atTime (time : ℕ) (step : Bool × PassAction) : TimedAction Bool :=
  ⟨time, .collector step.1 step.2⟩

theorem onClock_collectors {time : ℕ} (isWord : time < wordLimit)
    {steps : List (Bool × PassAction)} {state : ClockedSystem Bool} (reached : state.clock ≤ time)
    (taken : ∀ step ∈ steps, (atTime time step).action.TakenAt time) :
    timedLedger.Throughout OnClock state (steps.map (atTime time)) := by
  induction steps generalizing state with
  | nil => trivial
  | cons step rest ih =>
    rw [List.forall_mem_cons] at taken
    exact ⟨⟨reached, isWord, taken.1⟩, ih le_rfl taken.2⟩

def isQuiet : PassAction → Bool
  | .visit _ => false
  | .remove => false
  | _ => true

theorem calm_of_isQuiet {state : ClockedSystem Bool} {step : Bool × PassAction} {time : ℕ}
    (quiet : isQuiet step.2 = true) : Calm state (atTime time step) where
  scan pass nonce now toArchive record isVisit := by
    cases step
    cases isVisit
    cases quiet
  admission nonce transactionId commitment now isAdmission := by cases isAdmission
  removal pass nonce rest isRemoval := by
    cases step
    cases isRemoval
    cases quiet

/-- Two passes over a record an hour old, with a removal and its subtraction. -/
theorem timely_hourLater :
    timedLedger.Throughout Timely ⟨0, LedgerSystem.start Bool 0 3600⟩
        (admission :: hourLater.map (atTime 3610)) ∧
      (timedLedger.finalState ⟨0, LedgerSystem.start Bool 0 3600⟩
        (admission :: hourLater.map (atTime 3610))).system.pruned = ["n"] := by
  refine ⟨timely_of_calm _ _ _ ?_ ?_, by decide +kernel⟩
  · refine ⟨⟨by decide, by decide, rfl⟩, onClock_collectors (by decide) (by decide) ?_⟩
    simp [hourLater, atTime, LedgerAction.TakenAt]
  · refine ⟨⟨?_, ?_, ?_⟩, calm_of_isQuiet rfl, ⟨?_, ?_, ?_⟩, calm_of_isQuiet rfl,
      calm_of_isQuiet rfl, calm_of_isQuiet rfl, calm_of_isQuiet rfl, calm_of_isQuiet rfl,
      calm_of_isQuiet rfl, calm_of_isQuiet rfl, calm_of_isQuiet rfl, calm_of_isQuiet rfl,
      calm_of_isQuiet rfl, calm_of_isQuiet rfl, ⟨?_, ?_, ?_⟩, ⟨?_, ?_, ?_⟩, trivial⟩
    · rintro pass nonce now toArchive record ⟨⟩
    · rintro nonce transactionId commitment now - - pass member
      cases member
    · rintro pass nonce rest ⟨⟩
    · rintro pass nonce now toArchive record ⟨⟩ ⟨⟩ found
      cases found
      decide
    · rintro nonce transactionId commitment now ⟨⟩
    · rintro pass nonce rest ⟨⟩
    · rintro pass nonce now toArchive record ⟨⟩
    · rintro nonce transactionId commitment now ⟨⟩
    -- the tombstone is one above the capacity, and the second pass is to measure
    · rintro pass nonce rest ⟨⟩ - - -
      decide +kernel
    · rintro pass nonce now toArchive record ⟨⟩
    · rintro nonce transactionId commitment now ⟨⟩
    · rintro pass nonce rest ⟨⟩ finished
      cases finished

/-- A pass that has taken its sample in the second before the admission. -/
def secondEarlier : List (TimedAction Unit) :=
  [⟨10, .collector () (.begin 10)⟩, ⟨11, .consume "n" "t" "c" 11⟩,
    ⟨11, .collector () (.visit "n")⟩, ⟨11, .collector () .endScan⟩, ⟨11, .collector () .archive⟩]

/-- The scan subtracts a later stamp from its sample, and the nonce gets a tombstone in the second
it was admitted in. -/
theorem secondEarlier_untimely :
    (timedLedger.finalState ⟨0, LedgerSystem.start Unit 500000 3600⟩
        secondEarlier).system.ledger.spent = {"n"} ∧
      ¬ ∀ (maxSpent ttlSeconds : ℕ) (steps : List (TimedAction Unit)),
        timedLedger.Throughout OnClock ⟨0, LedgerSystem.start Unit maxSpent ttlSeconds⟩ steps →
          timedLedger.Throughout Timely ⟨0, LedgerSystem.start Unit maxSpent ttlSeconds⟩ steps := by
  refine ⟨by decide +kernel, fun timely => ?_⟩
  have steps := timely 500000 3600 secondEarlier (by
    refine ⟨⟨?_, ?_, rfl⟩, ⟨?_, ?_, rfl⟩, ⟨?_, ?_, trivial⟩, ⟨?_, ?_, trivial⟩,
      ⟨?_, ?_, trivial⟩, trivial⟩ <;> decide)
  have inRange := (steps.2.2.1 () (.visit "n") rfl).age "n" 10 [] ⟨"n", "t", 11, "c"⟩ rfl rfl rfl
  exact absurd inRange (by decide)

end CollectionSample

end GhostArk.Dab
