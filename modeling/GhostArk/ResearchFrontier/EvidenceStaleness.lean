import Mathlib.Data.Prod.Lex
import GhostArk.Js.Binary64
import GhostArk.Js.Collections
import GhostArk.Lib.KeyedSort

/-!
Contract: `packages/research-frontier/src/evidenceStaleness.ts`.

Owns standings and the events that lower them, freshness as one more event, the checks of events,
their order, the trail of downgrades, and the report; and that a report reads the events as a set of
records: their order does not show, more of them never raise the standing, and the trail descends.
-/

namespace GhostArk.ResearchFrontier

open Js
open Lib

inductive EvidenceStanding where
  | current
  | stale
  | policy_superseded
  | drift_observed
  | key_revoked
  | withdrawn
deriving DecidableEq, Repr

/-- `STANDING_RANK`: lower is better. -/
def EvidenceStanding.rank : EvidenceStanding → ℕ
  | .current => 0
  | .stale => 1
  | .policy_superseded => 2
  | .drift_observed => 3
  | .key_revoked => 4
  | .withdrawn => 5

inductive DowngradeKind where
  | freshness_exceeded
  | policy_superseded
  | drift_observed
  | key_revoked
  | withdrawn
deriving DecidableEq, Repr

namespace DowngradeKind

def text : DowngradeKind → JsString
  | .freshness_exceeded => js "freshness_exceeded"
  | .policy_superseded => js "policy_superseded"
  | .drift_observed => js "drift_observed"
  | .key_revoked => js "key_revoked"
  | .withdrawn => js "withdrawn"

/-- `KIND_TO_STANDING`. -/
def standing : DowngradeKind → EvidenceStanding
  | .freshness_exceeded => .stale
  | .policy_superseded => .policy_superseded
  | .drift_observed => .drift_observed
  | .key_revoked => .key_revoked
  | .withdrawn => .withdrawn

/-- The kind that is an own property of `KIND_TO_STANDING`. -/
def ofText (label : JsString) : Option DowngradeKind :=
  [freshness_exceeded, policy_superseded, drift_observed, key_revoked, withdrawn].find? fun kind =>
    kind.text = label

theorem rank_injective : Function.Injective fun kind : DowngradeKind => kind.standing.rank := by
  intro left right same
  cases left <;> cases right <;> first | rfl | cases same

end DowngradeKind

/-- An event as it is supplied. -/
structure DowngradeEvent where
  kind : JsString
  reason : JsString
  source : JsString
  ledgerIndex : Option JsNumber
deriving DecidableEq

/-- An event that has passed its checks. -/
structure CitedEvent where
  kind : DowngradeKind
  reason : JsString
  source : JsString
  ledgerIndex : Option ℕ
deriving DecidableEq

/-- `ledgerIndex`, unless it is present and not a non-negative safe integer. -/
def checkLedgerIndex : Option JsNumber → Except JsError (Option ℕ)
  | none => .ok none
  | some value =>
    match value.safeNat? with
    | some index => .ok (some index)
    | none =>
      .error (.plain
        (js "Downgrade event ledgerIndex must be a non-negative safe integer when present"))

def checkEvent (event : DowngradeEvent) : Except JsError CitedEvent :=
  match DowngradeKind.ofText event.kind with
  | none => .error (.plain (js "Unsupported downgrade kind: " ++ event.kind))
  | some kind =>
    if event.reason = [] then .error (.plain (js "Every downgrade event requires a reason"))
    else if event.source = [] then
      .error (.plain (js "Every downgrade event requires a provenance source"))
    else (checkLedgerIndex event.ledgerIndex).map fun ledgerIndex =>
      ⟨kind, event.reason, event.source, ledgerIndex⟩

def DowngradeEvent.IsValid (event : DowngradeEvent) : Prop :=
  ∃ cited, checkEvent event = .ok cited

structure FreshnessPolicy where
  maxEpochLag : JsNumber
  inclusionEpochIndex : JsNumber
  evaluationEpochIndex : JsNumber

/-- Non-negative safe integers, the evaluation not before the inclusion. -/
structure FreshnessPolicy.IsOrdered (policy : FreshnessPolicy) : Prop where
  lag : policy.maxEpochLag.safeNat?.isSome = true
  indices : ∃ inclusion evaluation, policy.inclusionEpochIndex.safeNat? = some inclusion ∧
    policy.evaluationEpochIndex.safeNat? = some evaluation ∧ inclusion ≤ evaluation

section Freshness

variable (numbers : NumberText)

def freshnessEvents (policy : FreshnessPolicy) : Except JsError (List DowngradeEvent) :=
  match policy.maxEpochLag.safeNat?, policy.inclusionEpochIndex.safeInteger?,
    policy.evaluationEpochIndex.safeInteger? with
  | some window, some inclusion, some evaluation =>
    if evaluation < inclusion then
      .error (.plain (js "evaluationEpochIndex cannot precede inclusionEpochIndex"))
    else
      let lag := policy.evaluationEpochIndex.sub policy.inclusionEpochIndex
      if (JsNumber.ofNat window).lt lag then
        .ok [{
          kind := DowngradeKind.freshness_exceeded.text
          reason := js "Ledger-epoch lag " ++ numbers.string lag ++
            js " exceeds the freshness window of " ++ numbers.string policy.maxEpochLag ++ js "."
          source := js "ledger:" ++ numbers.string policy.inclusionEpochIndex ++ js "->" ++
            numbers.string policy.evaluationEpochIndex
          ledgerIndex := some policy.evaluationEpochIndex }]
      else .ok []
  | _, _, _ =>
    .error (.plain (js "Freshness policy requires non-negative safe-integer epoch indices"))

/-- The policy passes its checks, and so does the event it may add. -/
def FreshnessPolicy.IsValid (policy : FreshnessPolicy) : Prop :=
  ∃ fresh, freshnessEvents numbers policy = .ok fresh ∧ ∀ event ∈ fresh, event.IsValid

end Freshness

def textSign (left right : JsString) : ℤ := if left < right then -1 else 1

/-- What the sort compares: rank, kind, source, reason and index. -/
def compareEvents (left right : CitedEvent) : ℤ :=
  let rankDelta : ℤ := (left.kind.standing.rank : ℤ) - right.kind.standing.rank
  if rankDelta ≠ 0 then rankDelta
  else if left.kind ≠ right.kind then textSign left.kind.text right.kind.text
  else if left.source ≠ right.source then textSign left.source right.source
  else if left.reason ≠ right.reason then textSign left.reason right.reason
  else (left.ledgerIndex.elim (-1) Nat.cast : ℤ) - right.ledgerIndex.elim (-1) Nat.cast

def eventLe (left right : CitedEvent) : Prop := compareEvents left right ≤ 0

instance instDecidableRelEventLe : DecidableRel eventLe :=
  fun left right => inferInstanceAs (Decidable (compareEvents left right ≤ 0))

def orderEvents (events : List CitedEvent) : List CitedEvent := events.insertionSort eventLe

structure AppliedDowngrade where
  fromStanding : EvidenceStanding
  toStanding : EvidenceStanding
  kind : DowngradeKind
  reason : JsString
  source : JsString
  ledger_index : Option ℕ
deriving DecidableEq

def worse (left right : EvidenceStanding) : EvidenceStanding :=
  if right.rank ≤ left.rank then left else right

def applyDowngrades (standing : EvidenceStanding) :
    List CitedEvent → EvidenceStanding × List AppliedDowngrade
  | [] => (standing, [])
  | event :: rest =>
    let next := worse standing event.kind.standing
    if standing.rank < next.rank then
      let (final, applied) := applyDowngrades next rest
      (final,
        ⟨standing, next, event.kind, event.reason, event.source, event.ledgerIndex⟩ :: applied)
    else applyDowngrades standing rest

def evidenceDowngradeReportSchemaVersion : JsString := js "ghost.evidence_downgrade_report.v1"

def NON_CLAIMS : List JsString :=
  [js "Standing is a discrete lattice position derived from cited downgrade events. It is not a probability, confidence score, or predicted reliability.",
    js "Freshness is measured in ledger-epoch lag, not wall-clock time, so the verdict does not drift with the reader's clock.",
    js "Absence of a downgrade event is not evidence that the underlying decision was sound."]

structure EvidenceStandingReport where
  schema_version : JsString
  receipt_id : JsString
  standing : EvidenceStanding
  applied_downgrades : List AppliedDowngrade
  non_claims : List JsString
deriving DecidableEq

structure StandingInput where
  receiptId : JsString
  events : Option (List DowngradeEvent)
  freshness : Option FreshnessPolicy

def StandingInput.freshEvents (numbers : NumberText) (input : StandingInput) :
    Except JsError (List DowngradeEvent) :=
  match input.freshness with
  | none => .ok []
  | some policy => freshnessEvents numbers policy

def evaluateEvidenceStanding (numbers : NumberText) (input : StandingInput) :
    Except JsError EvidenceStandingReport := do
  if input.receiptId = [] then throw (.plain (js "receiptId must be a non-empty string"))
  let fresh ← input.freshEvents numbers
  let cited ← (input.events.getD [] ++ fresh).mapM checkEvent
  let (standing, applied) := applyDowngrades .current (orderEvents cited)
  return {
    schema_version := evidenceDowngradeReportSchemaVersion
    receipt_id := input.receiptId
    standing
    applied_downgrades := applied
    non_claims := NON_CLAIMS }

/-! ### One order -/

/-- What the order compares, as one key. -/
def eventKey (event : CitedEvent) : ℕ ×ₗ JsString ×ₗ JsString ×ₗ JsString ×ₗ ℤ :=
  toLex (event.kind.standing.rank, toLex (event.kind.text, toLex (event.source, toLex (event.reason,
    event.ledgerIndex.elim (-1) Nat.cast))))

theorem eventLe_iff {left right : CitedEvent} :
    eventLe left right ↔ eventKey left ≤ eventKey right := by
  simp only [eventLe, compareEvents, eventKey, Prod.Lex.toLex_le_toLex]
  by_cases sameRank : left.kind.standing.rank = right.kind.standing.rank
  · have sameKind : left.kind = right.kind := DowngradeKind.rank_injective sameRank
    have sign {first second : JsString} (different : first ≠ second) :
        textSign first second ≤ 0 ↔ first < second := by
      rw [textSign]
      split
      next before => exact iff_of_true (by decide) before
      next notBefore => exact iff_of_false (by decide) notBefore
    simp only [sameKind, sub_self, ne_eq, not_true_eq_false, if_false, lt_irrefl, false_or,
      true_and]
    by_cases sameSource : left.source = right.source
    · by_cases sameReason : left.reason = right.reason
      · simp only [sameSource, sameReason, not_true_eq_false, if_false, lt_irrefl, false_or,
          true_and]
        omega
      · simp only [sameSource, sameReason, not_true_eq_false, not_false_eq_true, if_false, if_true,
          lt_irrefl, false_or, true_and, false_and, or_false]
        exact sign sameReason
    · simp only [sameSource, not_false_eq_true, if_true, false_and, or_false]
      exact sign sameSource
  · have delta : (left.kind.standing.rank : ℤ) - right.kind.standing.rank ≠ 0 := by omega
    simp only [ne_eq, delta, not_false_eq_true, if_true, sameRank, false_and, or_false]
    omega

theorem eventKey_injective : Function.Injective eventKey := by
  intro left right same
  simp only [eventKey, EmbeddingLike.apply_eq_iff_eq, Prod.mk.injEq] at same
  rcases same with ⟨sameRank, -, sameSource, sameReason, sameIndex⟩
  have indices : left.ledgerIndex = right.ledgerIndex := by
    revert sameIndex
    cases left.ledgerIndex <;> cases right.ledgerIndex <;>
      simp only [Option.elim_none, Option.elim_some, Option.some.injEq, reduceCtorEq,
        Nat.cast_inj, imp_self]
  have sameKind : left.kind = right.kind := DowngradeKind.rank_injective sameRank
  rcases left with ⟨kind, reason, source, ledgerIndex⟩
  rcases right with ⟨otherKind, otherReason, otherSource, otherIndex⟩
  simp only at sameKind sameSource sameReason indices
  rw [sameKind, sameSource, sameReason, indices]

instance instTotalEventLe : Std.Total eventLe :=
  ⟨fun left right => by
    rw [eventLe_iff, eventLe_iff]
    exact le_total (eventKey left) (eventKey right)⟩

instance instTransEventLe : IsTrans CitedEvent eventLe :=
  ⟨fun first second third => by
    rw [eventLe_iff, eventLe_iff, eventLe_iff]
    exact le_trans⟩

/-- Events are put in one order, however they are listed. -/
theorem orderEvents_eq_of_perm {events others : List CitedEvent} (permuted : events.Perm others) :
    orderEvents events = orderEvents others := by
  refine insertionSort_eq_of_perm ?_ permuted
  intro first _ second _ before after
  exact eventKey_injective (le_antisymm (eventLe_iff.mp before) (eventLe_iff.mp after))

/-- The steps lead from one standing to another, each to a strictly worse one. -/
def IsDescent : EvidenceStanding → List AppliedDowngrade → EvidenceStanding → Prop
  | start, [], final => start = final
  | start, step :: rest, final =>
    step.fromStanding = start ∧ start.rank < step.toStanding.rank ∧
      IsDescent step.toStanding rest final

theorem isDescent_applyDowngrades (events : List CitedEvent) (standing : EvidenceStanding) :
    IsDescent standing (applyDowngrades standing events).2 (applyDowngrades standing events).1 := by
  induction events generalizing standing with
  | nil => exact rfl
  | cons event rest ih =>
    rw [applyDowngrades]
    simp only
    split
    next isWorse => exact ⟨rfl, isWorse, ih _⟩
    next => exact ih standing

theorem rank_worse (left right : EvidenceStanding) :
    (worse left right).rank = max left.rank right.rank := by
  rw [worse]
  split
  next isBetter => exact (max_eq_left isBetter).symm
  next isWorse => exact (max_eq_right (not_le.mp isWorse).le).symm

theorem rank_applyDowngrades_le_iff (events : List CitedEvent) (standing : EvidenceStanding)
    {bound : ℕ} :
    (applyDowngrades standing events).1.rank ≤ bound ↔
      standing.rank ≤ bound ∧ ∀ event ∈ events, event.kind.standing.rank ≤ bound := by
  induction events generalizing standing with
  | nil => exact ⟨fun below => ⟨below, List.forall_mem_nil _⟩, fun both => both.1⟩
  | cons event rest ih =>
    rw [List.forall_mem_cons, ← and_assoc, ← max_le_iff, ← rank_worse, applyDowngrades]
    simp only
    split
    next => exact ih _
    next notWorse =>
      have kept : (worse standing event.kind.standing).rank = standing.rank := by
        have above := le_max_left standing.rank event.kind.standing.rank
        rw [← rank_worse] at above
        omega
      rw [ih, kept]

section Reports

variable {numbers : NumberText}

theorem DowngradeKind.ofText_text (kind : DowngradeKind) : ofText kind.text = some kind := by
  cases kind <;> decide +kernel

theorem safeInteger?_of_safeNat? {number : JsNumber} {value : ℕ}
    (isSafe : number.safeNat? = some value) : number.safeInteger? = some (value : ℤ) := by
  rcases JsNumber.eq_ofNat_of_safeNat? isSafe with ⟨rfl, small⟩
  rw [JsNumber.ofNat, JsNumber.safeInteger?, if_pos ⟨Rat.den_natCast value, by simpa using small⟩,
    Rat.num_natCast]

theorem FreshnessPolicy.IsOrdered.isValid (numbers : NumberText) {policy : FreshnessPolicy}
    (ordered : policy.IsOrdered) : policy.IsValid numbers := by
  rcases Option.isSome_iff_exists.mp ordered.lag with ⟨window, isWindow⟩
  rcases ordered.indices with ⟨inclusion, evaluation, isInclusion, isEvaluation, inOrder⟩
  have notBefore : ¬ (evaluation : ℤ) < inclusion := by omega
  rw [FreshnessPolicy.IsValid, freshnessEvents, isWindow, safeInteger?_of_safeNat? isInclusion,
    safeInteger?_of_safeNat? isEvaluation]
  simp only [notBefore, if_false]
  split
  next =>
    refine ⟨_, rfl, List.forall_mem_singleton.mpr (exists_eq_ok ?_)⟩
    have reason (text : JsString) : js "Ledger-epoch lag " ++ text ≠ [] := by
      exact List.append_ne_nil_of_left_ne_nil (by decide) text
    have source (text : JsString) : js "ledger:" ++ text ≠ [] := by
      exact List.append_ne_nil_of_left_ne_nil (by decide) text
    rw [checkEvent]
    simp only [DowngradeKind.ofText_text, List.append_assoc, reason, source, if_false,
      checkLedgerIndex, isEvaluation]
    rfl
  next => exact ⟨[], rfl, List.forall_mem_nil _⟩

/-- What the evaluation asks of its input. -/
structure StandingInput.IsValid (numbers : NumberText) (input : StandingInput) : Prop where
  receiptId : input.receiptId ≠ []
  events : ∀ event ∈ input.events.getD [], event.IsValid
  freshness : ∀ policy ∈ input.freshness, policy.IsValid numbers

def StandingInput.withEvents (input : StandingInput) (events : List DowngradeEvent) :
    StandingInput :=
  { input with events := some events }

theorem mem_checked_iff {events : List DowngradeEvent} {cited : List CitedEvent}
    (checked : events.mapM checkEvent = .ok cited) {record : CitedEvent} :
    record ∈ cited ↔ ∃ event ∈ events, checkEvent event = .ok record := by
  have pairs := mapM_eq_ok_iff.mp checked
  clear checked
  induction pairs with
  | nil => simp
  | cons isCited _ ih =>
    simp only [List.mem_cons, ih, exists_eq_or_imp, isCited, Except.ok.injEq]
    exact or_congr_left eq_comm

def reportOf (receiptId : JsString) (cited : List CitedEvent) : EvidenceStandingReport where
  schema_version := evidenceDowngradeReportSchemaVersion
  receipt_id := receiptId
  standing := (applyDowngrades .current (orderEvents cited)).1
  applied_downgrades := (applyDowngrades .current (orderEvents cited)).2
  non_claims := NON_CLAIMS

theorem exists_freshEvents {input : StandingInput} (valid : input.IsValid numbers) :
    ∃ fresh, input.freshEvents numbers = .ok fresh ∧ ∀ event ∈ fresh, event.IsValid := by
  rw [StandingInput.freshEvents]
  cases isPolicy : input.freshness with
  | none => exact ⟨[], rfl, List.forall_mem_nil _⟩
  | some policy => exact valid.freshness policy isPolicy

theorem evaluateEvidenceStanding_withEvents {input : StandingInput} {fresh : List DowngradeEvent}
    {cited : List CitedEvent} {events : List DowngradeEvent} (named : input.receiptId ≠ [])
    (isFresh : input.freshEvents numbers = .ok fresh)
    (checked : (events ++ fresh).mapM checkEvent = .ok cited) :
    evaluateEvidenceStanding numbers (input.withEvents events) =
      .ok (reportOf input.receiptId cited) := by
  have sameFresh : (input.withEvents events).freshEvents numbers = .ok fresh := isFresh
  rw [evaluateEvidenceStanding, sameFresh]
  simp only [StandingInput.withEvents, named, if_false, Option.getD_some, ok_bind, checked]
  rfl

/-- **Standings.** On valid input the evaluation reports a standing. Any arrangement of the events
gives the same standing and the same trail, more events give no better standing, and the trail leads
from the current standing to the reported one, each step down. -/
theorem standing_orderFree (numbers : NumberText) (input : StandingInput)
    (valid : input.IsValid numbers) :
    ∃ report, evaluateEvidenceStanding numbers input = .ok report ∧
      (∀ others, others.Perm (input.events.getD []) →
        ∃ other, evaluateEvidenceStanding numbers (input.withEvents others) = .ok other ∧
          other.standing = report.standing ∧
            other.applied_downgrades = report.applied_downgrades) ∧
      (∀ more, (input.events.getD []).Subperm more → (∀ event ∈ more, event.IsValid) →
        ∃ later, evaluateEvidenceStanding numbers (input.withEvents more) = .ok later ∧
          report.standing.rank ≤ later.standing.rank) ∧
      IsDescent .current report.applied_downgrades report.standing := by
  rcases exists_freshEvents valid with ⟨fresh, isFresh, areFresh⟩
  have evaluated (events : List DowngradeEvent) (cited : List CitedEvent)
      (checked : (events ++ fresh).mapM checkEvent = .ok cited) :=
    evaluateEvidenceStanding_withEvents valid.receiptId isFresh checked
  have check {events : List DowngradeEvent} (areValid : ∀ event ∈ events, event.IsValid) :
      ∃ cited, (events ++ fresh).mapM checkEvent = .ok cited :=
    exists_mapM_iff.mpr (List.forall_mem_append.mpr ⟨areValid, areFresh⟩)
  have same : evaluateEvidenceStanding numbers input =
      evaluateEvidenceStanding numbers (input.withEvents (input.events.getD [])) := rfl
  rcases check valid.events with ⟨cited, checked⟩
  refine ⟨_, same.trans (evaluated _ cited checked), ?_, ?_, isDescent_applyDowngrades _ _⟩
  · intro others permuted
    rcases List.perm_comp_forall₂ (permuted.append_right fresh) (mapM_eq_ok_iff.mp checked) with
      ⟨otherCited, otherChecked, rearranged⟩
    refine ⟨_, evaluated others otherCited (mapM_eq_ok_iff.mpr otherChecked), ?_, ?_⟩
    · simp only [reportOf, orderEvents_eq_of_perm rearranged]
    · simp only [reportOf, orderEvents_eq_of_perm rearranged]
  · intro more contained areValid
    rcases check areValid with ⟨moreCited, moreChecked⟩
    refine ⟨_, evaluated more moreCited moreChecked, ?_⟩
    have bound := (rank_applyDowngrades_le_iff (orderEvents moreCited) .current).mp le_rfl
    refine (rank_applyDowngrades_le_iff _ _).mpr ⟨bound.1, fun event member => bound.2 event ?_⟩
    rw [orderEvents, List.mem_insertionSort, mem_checked_iff checked] at member
    rw [orderEvents, List.mem_insertionSort, mem_checked_iff moreChecked]
    rcases member with ⟨supplied, isSupplied, isCited⟩
    refine ⟨supplied, List.mem_append.mpr ?_, isCited⟩
    exact (List.mem_append.mp isSupplied).imp_left fun inEvents => contained.subset inEvents

end Reports

namespace StandingSample

def keyLeak : DowngradeEvent :=
  ⟨js "key_revoked", js "key leaked", js "ledger:42", some (.ofNat 42)⟩

def newPolicy : DowngradeEvent := ⟨js "policy_superseded", js "v7 -> v8", js "policy:v8", none⟩

def input : StandingInput :=
  ⟨js "rct_1", some [keyLeak, newPolicy], some ⟨.ofNat 3, .ofNat 40, .ofNat 46⟩⟩

theorem standing_input :
    ∃ report, evaluateEvidenceStanding decimalText input = .ok report ∧
      (∀ others, others.Perm (input.events.getD []) →
        ∃ other, evaluateEvidenceStanding decimalText (input.withEvents others) = .ok other ∧
          other.standing = report.standing ∧
            other.applied_downgrades = report.applied_downgrades) ∧
      (∀ more, (input.events.getD []).Subperm more → (∀ event ∈ more, event.IsValid) →
        ∃ later, evaluateEvidenceStanding decimalText (input.withEvents more) = .ok later ∧
          report.standing.rank ≤ later.standing.rank) ∧
      IsDescent .current report.applied_downgrades report.standing := by
  apply standing_orderFree
  constructor
  · decide
  · intro event member
    simp only [input, Option.getD_some, List.mem_cons, List.not_mem_nil, or_false] at member
    rcases member with rfl | rfl
    · exact exists_eq_ok (by decide +kernel)
    · exact exists_eq_ok (by decide +kernel)
  · rintro policy ⟨⟩
    apply FreshnessPolicy.IsOrdered.isValid
    exact ⟨by decide +kernel, 40, 46, by decide +kernel, by decide +kernel, by decide⟩

example : ((evaluateEvidenceStanding decimalText input).toOption.map fun report =>
    report.applied_downgrades.map AppliedDowngrade.toStanding) =
      some [.stale, .policy_superseded, .key_revoked] := by
  decide +kernel

end StandingSample

end GhostArk.ResearchFrontier
