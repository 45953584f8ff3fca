import GhostArk.ResearchFrontier.Unification.StoppingBounds

/-!
Contract: the semantic gate on marginals of at most one failure.

Owns the status that the oracle reports, in closed form, the bounds it reports, and the
question when both are right: a status that is optimal only for marginals of a distribution,
with the sum of the marginals as both bounds.

Marginals may have any sign. Those that are negative, or that have a sum of one, are where
the oracle differs from the distributions.
-/

namespace GhostArk.ResearchFrontier.Unification

open Js
open Lib.Simplex
open ResearchFrontier.Occ (LpStatus UnionStatus CommitOutcome)

/-- A point that meets the constraints of the program. -/
structure IsFeasiblePoint (regime : Regime) {k : ℕ} (marginals : Fin k → ℚ)
    (weight : Fin (atomCount regime k) → ℚ) : Prop where
  nonneg : ∀ index, 0 ≤ weight index
  meets : ∀ row, ∑ index, constraints regime row index * weight index =
    constraintBounds marginals row

/-- Some distribution over at most one failure has the marginals. -/
def HasDistribution (marginals : List ℚ) : Prop :=
  ∃ weight, IsFeasiblePoint .TEMPORAL_STOPPING marginals.get weight

section Distributions

variable {k : ℕ}

theorem sum_constraints_succ (weight : StoppingAtom k → ℚ) (bit : Fin k) :
    ∑ index, constraints .TEMPORAL_STOPPING bit.succ index * weight index =
      weight (atomAt (bit.val + 1) bit.isLt) := by
  rw [Finset.sum_eq_single (atomAt (bit.val + 1) bit.isLt)]
  · simp only [constraints, Fin.cons_succ, atom, atomAt, if_true, Nat.cast_one, one_mul]
  · intro index _ different
    have notAtom : index.val ≠ bit.val + 1 := fun same => different (Fin.ext same)
    simp only [constraints, Fin.cons_succ, atom, if_neg notAtom, Nat.cast_zero, zero_mul]
  · intro absent
    exact absurd (Finset.mem_univ _) absent

theorem sum_constraints_zero (weight : StoppingAtom k → ℚ) :
    ∑ index, constraints .TEMPORAL_STOPPING 0 index * weight index =
      weight (atomAt 0 (Nat.zero_le k)) +
        ∑ bit : Fin k, weight (atomAt (bit.val + 1) bit.isLt) := by
  simp only [constraints, Fin.cons_zero, one_mul]
  exact Fin.sum_univ_succ (n := k) weight

theorem exists_isFeasiblePoint_iff {marginals : Fin k → ℚ} :
    (∃ weight, IsFeasiblePoint .TEMPORAL_STOPPING marginals weight) ↔
      (∀ bit, 0 ≤ marginals bit) ∧ ∑ bit, marginals bit ≤ 1 := by
  constructor
  · rintro ⟨weight, nonneg, meets⟩
    have units (bit : Fin k) : weight (atomAt (bit.val + 1) bit.isLt) = marginals bit := by
      have atBit := meets bit.succ
      rw [sum_constraints_succ] at atBit
      exact atBit
    have total := meets 0
    rw [sum_constraints_zero] at total
    simp only [units] at total
    have empty := nonneg (atomAt 0 (Nat.zero_le k))
    refine ⟨fun bit => ?_, ?_⟩
    · rw [← units]
      exact nonneg _
    · have one : constraintBounds marginals 0 = 1 := rfl
      linarith
  · rintro ⟨nonneg, within⟩
    let weight : StoppingAtom k → ℚ := Fin.cons (1 - ∑ bit, marginals bit) marginals
    refine ⟨weight, ?_, ?_⟩
    · intro index
      refine Fin.cases ?_ (fun bit => ?_) (index : Fin (k + 1))
      · exact sub_nonneg.mpr within
      · exact nonneg bit
    · intro row
      refine Fin.cases ?_ (fun bit => ?_) row
      · rw [sum_constraints_zero]
        exact sub_add_cancel _ _
      · rw [sum_constraints_succ]
        rfl

end Distributions

theorem hasDistribution_iff {marginals : List ℚ} : HasDistribution marginals ↔
    (∀ marginal ∈ marginals, 0 ≤ marginal) ∧ marginals.sum ≤ 1 := by
  rw [HasDistribution, exists_isFeasiblePoint_iff, sum_get]
  refine and_congr ⟨fun nonneg marginal member => ?_, fun nonneg bit => ?_⟩ Iff.rfl
  · rcases List.mem_iff_get.mp member with ⟨bit, rfl⟩
    exact nonneg bit
  · exact nonneg _ (List.get_mem marginals bit)

/-! ### What the oracle reports -/

/-- The status for at most one failure. -/
def stoppingStatus (marginals : List ℚ) (maxIterations : JsNumber) : LpStatus :=
  if maxIterations.lt (.ofNat (considered 1 marginals + 2)) then .EVALUATION_UNDECIDABLE
  else if 1 < marginals.sum then .INFEASIBLE
  else .OPTIMAL

section Reported

variable {k fuel : ℕ} {marginals : Fin k → ℚ} {maxIterations : JsNumber}
  {ending : StoppingSolver k}

theorem Outcome.artSum_eq (outcome : Outcome marginals ending) :
    artSum ending = 0 ∧ ∑ bit, marginals bit < 1 ∨
      artSum ending = (∑ bit, marginals bit) - 1 := by
  cases outcome with
  | fits spare =>
    rw [room_last] at spare
    exact Or.inl ⟨artSum_last marginals, sub_pos.mp spare⟩
  | full bit => exact Or.inr (artSum_full marginals bit)

theorem Outcome.artSum_pos_iff (outcome : Outcome marginals ending) :
    0 < artSum ending ↔ 1 < ∑ bit, marginals bit := by
  rcases outcome.artSum_eq with ⟨zero, below⟩ | excess
  · rw [zero]
    exact ⟨fun positive => absurd positive (lt_irrefl 0), fun above => absurd above below.not_gt⟩
  · rw [excess]
    exact sub_pos

theorem exists_solveFor_stopping {costs : StoppingAtom k → ℚ} {maximize : Bool}
    (settles : ∀ ending, Outcome marginals ending → ∃ count final, count ≤ 1 ∧
      Pivots (phase2Costs costs maximize) false count ending final)
    (enough : considered 1 (List.ofFn marginals) + 1 < fuel) :
    ∃ solved, solveFor .TEMPORAL_STOPPING fuel marginals maxIterations costs maximize =
        some solved ∧
      solved.1 = stoppingStatus (List.ofFn marginals) maxIterations := by
  rcases pivots_start marginals with ⟨ending, outcome, phase1⟩
  rw [stoppingStatus, List.sum_ofFn]
  cases isOver : maxIterations.lt (.ofNat (considered 1 (List.ofFn marginals) + 2)) with
  | true =>
    rcases solve_of_cut phase1 enough isOver with ⟨other, solved⟩
    exact ⟨_, solved, rfl⟩
  | false =>
    rw [if_neg Bool.false_ne_true]
    by_cases above : 1 < ∑ bit, marginals bit
    · rw [if_pos above]
      exact ⟨_, solve_of_infeasible phase1 enough isOver (outcome.artSum_pos_iff.mpr above), rfl⟩
    · rw [if_neg above]
      rcases settles ending outcome with ⟨count, final, short, phase2⟩
      have small : artSum ending ≤ 0 := not_lt.mp fun positive =>
        above (outcome.artSum_pos_iff.mp positive)
      have isShorter : count ≤ considered 1 (List.ofFn marginals) + 1 := by omega
      exact ⟨_, solve_of_optimal phase1 phase2 enough isShorter isOver small, rfl⟩

theorem Outcome.eq_stage (outcome : Outcome marginals ending) (nonneg : ∀ bit, 0 ≤ marginals bit)
    (below : ∑ bit, marginals bit < 1) : ending = stage marginals k := by
  cases outcome with
  | fits => rfl
  | full bit spare isFull =>
    have taken : ∑ other : Fin k, (if other.val < bit.val + 1 then marginals other else 0) ≤
        ∑ other, marginals other := by
      refine Finset.sum_le_sum fun other _ => ?_
      split
      · exact le_rfl
      · exact nonneg other
    have left := room_succ marginals bit
    rw [room] at left
    linarith

theorem exists_eq_full (outcome : Outcome marginals ending)
    (above : 1 ≤ ∑ bit, marginals bit) :
    ∃ bit, 0 < room marginals bit.val ∧ ending = full marginals bit := by
  cases outcome with
  | fits spare =>
    rw [room_last] at spare
    exact absurd above (not_le.mpr (sub_pos.mp spare))
  | full bit spare => exact ⟨bit, spare, rfl⟩

theorem solveFor_fits (nonneg : ∀ bit, 0 ≤ marginals bit) (below : ∑ bit, marginals bit < 1)
    (enough : considered 1 (List.ofFn marginals) + 1 < fuel)
    (inTime : maxIterations.lt (.ofNat (considered 1 (List.ofFn marginals) + 2)) = false)
    (maximize : Bool) :
    solveFor .TEMPORAL_STOPPING fuel marginals maxIterations (unionCosts .TEMPORAL_STOPPING)
      maximize = some (.OPTIMAL, stage marginals k) := by
  rcases pivots_start marginals with ⟨ending, outcome, phase1⟩
  obtain rfl := outcome.eq_stage nonneg below
  have small : artSum (stage marginals k) ≤ 0 := (artSum_last marginals).le
  refine solve_of_optimal phase1 ?_ enough (Nat.zero_le _) inTime small
  cases maximize with
  | true => exact phase2_last marginals
  | false => exact phase2_stage marginals k

theorem exists_solveFor_full (isOne : ∑ bit, marginals bit = 1)
    (enough : considered 1 (List.ofFn marginals) + 1 < fuel)
    (inTime : maxIterations.lt (.ofNat (considered 1 (List.ofFn marginals) + 2)) = false) :
    ∃ final, solveFor .TEMPORAL_STOPPING fuel marginals maxIterations
        (unionCosts .TEMPORAL_STOPPING) false = some (.OPTIMAL, final) ∧
      getObjectiveValue final (unionCosts .TEMPORAL_STOPPING) < 1 := by
  rcases pivots_start marginals with ⟨ending, outcome, phase1⟩
  rcases exists_eq_full outcome isOne.ge with ⟨bit, spare, rfl⟩
  have small : artSum (full marginals bit) ≤ 0 := by
    rw [artSum_full, isOne, sub_self]
  refine ⟨_, solve_of_optimal phase1 (phase2_back marginals bit) enough
    (Nat.succ_le_succ (Nat.zero_le _)) inTime small, ?_⟩
  rw [getObjectiveValue_stage]
  exact sub_lt_self 1 spare

end Reported

section Oracle

variable {fuel : ℕ} {marginals : List ℚ} {maxIterations : JsNumber} {result : ExactBoundsResult}

/-- With enough fuel the oracle returns, with the status of the marginals. -/
theorem exists_exactBounds (enough : considered 1 marginals + 1 < fuel) :
    ∃ result, exactBounds .TEMPORAL_STOPPING fuel marginals maxIterations = some result ∧
      result.union.status = stoppingStatus marginals maxIterations := by
  have enough' : considered 1 (List.ofFn marginals.get) + 1 < fuel := by
    rw [List.ofFn_get]
    exact enough
  have solves {costs : StoppingAtom marginals.length → ℚ} {maximize : Bool}
      (settles : ∀ ending, Outcome marginals.get ending → ∃ count final, count ≤ 1 ∧
        Pivots (phase2Costs costs maximize) false count ending final) :
      ∃ solved, solveFor .TEMPORAL_STOPPING fuel marginals.get maxIterations costs maximize =
          some solved ∧
        solved.1 = stoppingStatus (List.ofFn marginals.get) maxIterations :=
    exists_solveFor_stopping settles enough'
  have union (maximize : Bool) := solves fun _ outcome =>
    exists_pivots_union marginals.get outcome maximize
  have intersection (maximize : Bool) := solves fun _ outcome =>
    exists_pivots_intersection marginals.get outcome maximize
  rcases union false with ⟨unionMin, solvedMin, status⟩
  rcases union true with ⟨unionMax, solvedMax, _⟩
  rcases intersection false with ⟨interMin, solvedInterMin, _⟩
  rcases intersection true with ⟨interMax, solvedInterMax, _⟩
  rw [List.ofFn_get] at status
  have returned : exactBounds .TEMPORAL_STOPPING fuel marginals maxIterations =
      some ⟨⟨reported .TEMPORAL_STOPPING (unionCosts .TEMPORAL_STOPPING) unionMin,
          reported .TEMPORAL_STOPPING (unionCosts .TEMPORAL_STOPPING) unionMax, unionMin.1⟩,
        ⟨reported .TEMPORAL_STOPPING (intersectionCosts .TEMPORAL_STOPPING) interMin,
          reported .TEMPORAL_STOPPING (intersectionCosts .TEMPORAL_STOPPING) interMax,
          interMin.1⟩⟩ := by
    rw [exactBounds, boundsOf_eq solvedMin solvedMax, boundsOf_eq solvedInterMin solvedInterMax]
    rfl
  exact ⟨_, returned, status⟩

theorem status_of_exactBounds
    (returned : exactBounds .TEMPORAL_STOPPING fuel marginals maxIterations = some result) :
    result.union.status = stoppingStatus marginals maxIterations := by
  have enough := Nat.lt_succ_self (considered 1 marginals + 1)
  obtain ⟨other, returned', status⟩ : ∃ other,
      exactBounds .TEMPORAL_STOPPING (considered 1 marginals + 2) marginals maxIterations =
        some other ∧ other.union.status = stoppingStatus marginals maxIterations :=
    exists_exactBounds enough
  rw [exactBounds_unique returned returned']
  exact status

theorem union_of_exactBounds {least greatest : LpStatus × StoppingSolver marginals.length}
    (returned : exactBounds .TEMPORAL_STOPPING fuel marginals maxIterations = some result)
    (solvedMin : solveFor .TEMPORAL_STOPPING fuel marginals.get maxIterations
      (unionCosts .TEMPORAL_STOPPING) false = some least)
    (solvedMax : solveFor .TEMPORAL_STOPPING fuel marginals.get maxIterations
      (unionCosts .TEMPORAL_STOPPING) true = some greatest) :
    result.union = ⟨reported .TEMPORAL_STOPPING (unionCosts .TEMPORAL_STOPPING) least,
      reported .TEMPORAL_STOPPING (unionCosts .TEMPORAL_STOPPING) greatest, least.1⟩ := by
  rcases Option.bind_eq_some_iff.mp returned with ⟨union, returnedUnion, afterUnion⟩
  rcases Option.bind_eq_some_iff.mp afterUnion with ⟨intersection, _, isResult⟩
  rw [boundsOf_eq solvedMin solvedMax] at returnedUnion
  obtain rfl := Option.some.inj returnedUnion
  obtain rfl := Option.some.inj isResult
  rfl

end Oracle

/-! ### The gate -/

/-- The status that the gate takes from the oracle, where the oracle returns. -/
def IsUnionStatus (unionStatus : UnionStatus) : Prop :=
  ∀ fuel marginals maxIterations result,
    exactBounds .TEMPORAL_STOPPING fuel marginals maxIterations = some result →
      unionStatus (marginals.map .finite) maxIterations = result.union.status

/-- Only marginals of a distribution pass, and their bounds are their sum. -/
structure RefusesImpossible (marginals : List ℚ) (maxIterations : JsNumber) : Prop where
  exact : ∀ fuel result,
    exactBounds .TEMPORAL_STOPPING fuel marginals maxIterations = some result →
      result.union.status = .OPTIMAL →
        (∀ marginal ∈ marginals, 0 ≤ marginal) ∧ marginals.sum ≤ 1 ∧
          result.union.min = marginals.sum ∧ result.union.max = marginals.sum
  refuses : ∀ runtime hostJson unionStatus world replica payloadContext count,
    IsUnionStatus unionStatus →
      (Occ.commit runtime hostJson unionStatus world replica (marginals.map .finite)
        payloadContext maxIterations).outcome = .ok (.commit count) → HasDistribution marginals

/-- The oracle reports the stopping status of the marginals. -/
theorem unionStatus_eq {unionStatus : UnionStatus} (isUnionStatus : IsUnionStatus unionStatus)
    (marginals : List ℚ) (maxIterations : JsNumber) :
    unionStatus (marginals.map .finite) maxIterations = stoppingStatus marginals maxIterations := by
  have enough := Nat.lt_succ_self (considered 1 marginals + 1)
  obtain ⟨other, returned, status⟩ : ∃ other,
      exactBounds .TEMPORAL_STOPPING (considered 1 marginals + 2) marginals maxIterations =
        some other ∧ other.union.status = stoppingStatus marginals maxIterations :=
    exists_exactBounds enough
  rw [isUnionStatus _ _ _ _ returned]
  exact status

theorem optimal_of_commit {runtime : Runtime} {hostJson : Occ.HostJson} {unionStatus : UnionStatus}
    {world : Occ.WorldState} {replica : Occ.GhostReplica} {failureMarginals : List JsNumber}
    {payloadContext : JsValue} {maxIterations : JsNumber} {count : ℕ}
    (committed : (Occ.commit runtime hostJson unionStatus world replica failureMarginals
      payloadContext maxIterations).outcome = .ok (.commit count)) :
    failureMarginals = [] ∨
      unionStatus failureMarginals maxIterations ≠ .EVALUATION_UNDECIDABLE ∧
        unionStatus failureMarginals maxIterations ≠ .INFEASIBLE := by
  rw [Occ.commit] at committed
  split at committed
  next => cases Except.ok.inj committed
  next =>
    split at committed
    next isEmpty => exact Or.inl (List.isEmpty_iff.mp isEmpty)
    next =>
      refine Or.inr ⟨fun isCut => ?_, fun isRefuted => ?_⟩
      · rw [isCut] at committed
        cases witness : Occ.undecidableWitness runtime hostJson payloadContext maxIterations with
        | error error =>
          rw [witness] at committed
          cases committed
        | ok witness' =>
          rw [witness] at committed
          cases Except.ok.inj committed
      · rw [isRefuted] at committed
        cases Except.ok.inj committed

section Exactness

variable {marginals : List ℚ} {maxIterations : JsNumber}

theorem nonneg_get (nonneg : ∀ marginal ∈ marginals, 0 ≤ marginal) (bit : Fin marginals.length) :
    0 ≤ marginals.get bit :=
  nonneg _ (List.get_mem marginals bit)

theorem union_of_fits {fuel : ℕ} {result : ExactBoundsResult}
    (nonneg : ∀ marginal ∈ marginals, 0 ≤ marginal) (below : marginals.sum < 1)
    (inTime : maxIterations.lt (.ofNat (considered 1 marginals + 2)) = false)
    (returned : exactBounds .TEMPORAL_STOPPING fuel marginals maxIterations = some result) :
    result.union.min = marginals.sum ∧ result.union.max = marginals.sum := by
  have below' : ∑ bit, marginals.get bit < 1 := by
    rw [sum_get]
    exact below
  let more := fuel + considered 1 marginals + 2
  have enough : considered 1 (List.ofFn marginals.get) + 1 < more := by
    rw [List.ofFn_get]
    omega
  have inTime' : maxIterations.lt (.ofNat (considered 1 (List.ofFn marginals.get) + 2)) = false := by
    rw [List.ofFn_get]
    exact inTime
  have solves := solveFor_fits (nonneg_get nonneg) below' enough inTime'
  have atLeast : fuel ≤ more := by omega
  have union := union_of_exactBounds (exactBounds_of_more atLeast returned) (solves false)
    (solves true)
  have value : reported .TEMPORAL_STOPPING (unionCosts .TEMPORAL_STOPPING)
      (.OPTIMAL, stage marginals.get marginals.length) = marginals.sum := by
    rw [reported, if_pos rfl, getObjectiveValue_stage, room_last, sub_sub_cancel, sum_get]
  rw [value] at union
  rw [union]
  exact ⟨rfl, rfl⟩

theorem exists_unionMin_lt (isOne : marginals.sum = 1)
    (inTime : maxIterations.lt (.ofNat (considered 1 marginals + 2)) = false) :
    ∃ fuel result, exactBounds .TEMPORAL_STOPPING fuel marginals maxIterations = some result ∧
      result.union.min < marginals.sum := by
  have isOne' : ∑ bit, marginals.get bit = 1 := by
    rw [sum_get]
    exact isOne
  have enough := Nat.lt_succ_self (considered 1 marginals + 1)
  have enough' : considered 1 (List.ofFn marginals.get) + 1 < considered 1 marginals + 2 := by
    rw [List.ofFn_get]
    exact enough
  have inTime' : maxIterations.lt (.ofNat (considered 1 (List.ofFn marginals.get) + 2)) = false := by
    rw [List.ofFn_get]
    exact inTime
  rcases exists_solveFor_full isOne' enough' inTime' with ⟨least, solvedMin, lower⟩
  rcases exists_solveFor_stopping (fun _ outcome => exists_pivots_union marginals.get outcome true)
    enough' with ⟨greatest, solvedMax, _⟩
  rcases exists_exactBounds enough with ⟨result, returned, _⟩
  refine ⟨_, result, returned, ?_⟩
  rw [union_of_exactBounds returned solvedMin solvedMax, isOne, reported, if_pos rfl]
  exact lower

end Exactness

/-- The gate refuses what no distribution has, with exact bounds, exactly if the budget is cut in
the first phase, or the sum is above one, or no marginal is negative and the sum is below one. -/
theorem refusesImpossible_iff (marginals : List ℚ) (maxIterations : JsNumber) :
    RefusesImpossible marginals maxIterations ↔
      maxIterations.lt (.ofNat (considered 1 marginals + 2)) = true ∨ 1 < marginals.sum ∨
        (∀ marginal ∈ marginals, 0 ≤ marginal) ∧ marginals.sum < 1 := by
  constructor
  · intro holds
    by_contra otherwise
    simp only [not_or, not_and, Bool.not_eq_true, not_lt] at otherwise
    rcases otherwise with ⟨inTime, within, isOne⟩
    have status : stoppingStatus marginals maxIterations = .OPTIMAL := by
      rw [stoppingStatus, inTime, if_neg Bool.false_ne_true, if_neg (not_lt.mpr within)]
    have optimal {fuel : ℕ} {result : ExactBoundsResult}
        (returned : exactBounds .TEMPORAL_STOPPING fuel marginals maxIterations = some result) :=
      holds.exact fuel result returned ((status_of_exactBounds returned).trans status)
    rcases exists_exactBounds (Nat.lt_succ_self (considered 1 marginals + 1))
      with ⟨result, returned, _⟩
    have sumIsOne := le_antisymm within (isOne (optimal returned).1)
    rcases exists_unionMin_lt sumIsOne inTime with ⟨fuel, result', returned', lower⟩
    exact absurd (optimal returned').2.2.1 lower.ne
  · intro condition
    have fits (status : stoppingStatus marginals maxIterations ≠ .EVALUATION_UNDECIDABLE ∧
        stoppingStatus marginals maxIterations ≠ .INFEASIBLE) :
        maxIterations.lt (.ofNat (considered 1 marginals + 2)) = false ∧
          (∀ marginal ∈ marginals, 0 ≤ marginal) ∧ marginals.sum < 1 := by
      rw [stoppingStatus] at status
      cases isOver : maxIterations.lt (.ofNat (considered 1 marginals + 2)) with
      | true =>
        rw [isOver] at status
        exact absurd rfl status.1
      | false =>
        rw [isOver] at condition
        rw [isOver, if_neg Bool.false_ne_true] at status
        rcases condition with cut | above | fits
        · cases cut
        · rw [if_pos above] at status
          exact absurd rfl status.2
        · exact ⟨rfl, fits⟩
    constructor
    · intro fuel result returned optimal
      have status : stoppingStatus marginals maxIterations = .OPTIMAL :=
        (status_of_exactBounds returned).symm.trans optimal
      rw [status] at fits
      rcases fits ⟨LpStatus.noConfusion, LpStatus.noConfusion⟩ with ⟨inTime, nonneg, below⟩
      exact ⟨nonneg, below.le, union_of_fits nonneg below inTime returned⟩
    · intro runtime hostJson unionStatus world replica payloadContext count isUnionStatus committed
      rcases optimal_of_commit committed with isEmpty | status
      · obtain rfl := List.map_eq_nil_iff.mp isEmpty
        exact hasDistribution_iff.mpr ⟨fun _ member => absurd member List.not_mem_nil, zero_le_one⟩
      · rw [unionStatus_eq isUnionStatus] at status
        rcases fits status with ⟨_, nonneg, below⟩
        exact hasDistribution_iff.mpr ⟨nonneg, below.le⟩

/-- A negative probability passes, as its own bound. -/
theorem optimal_of_negative :
    exactBounds .TEMPORAL_STOPPING 1000 [-1] (.ofNat 1000) =
        some ⟨⟨-1, -1, .OPTIMAL⟩, ⟨-1, -1, .OPTIMAL⟩⟩ ∧
      ¬ RefusesImpossible [-1] (.ofNat 1000) := by
  have returned : exactBounds .TEMPORAL_STOPPING 1000 [-1] (.ofNat 1000) =
      some ⟨⟨-1, -1, .OPTIMAL⟩, ⟨-1, -1, .OPTIMAL⟩⟩ := by decide +kernel
  refine ⟨returned, fun refuses => ?_⟩
  have nonneg := (refuses.exact _ _ returned rfl).1 (-1) (List.mem_singleton_self _)
  exact absurd nonneg (by decide)

end GhostArk.ResearchFrontier.Unification
