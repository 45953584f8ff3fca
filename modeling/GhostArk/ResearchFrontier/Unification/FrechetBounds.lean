import GhostArk.Lib.CubeForm
import GhostArk.ResearchFrontier.Unification.LpOracle

/-!
Contract: the bounds of the oracle over the full hypercube of atoms.

Owns prices as forms on the cube, what both phases leave in the basis, and when the four
solves report the Fréchet bounds: exactly when no marginal is one.

The artificial column of a marginal that is one stays in the basis through both phases.
The second phase lets it grow, so the program it optimises has lost that constraint.
-/

namespace GhostArk.ResearchFrontier.Unification

open Js
open Lib
open Lib.Simplex
open ResearchFrontier.Occ (LpStatus)

theorem hypercubeAtoms_eq {k : ℕ} (small : k ≤ 30) : hypercubeAtoms k = 2 ^ k := by
  revert k
  decide

section Hypercube

variable {k : ℕ}

abbrev Atom (k : ℕ) := Fin (atomCount .SPATIAL_EXCHANGEABILITY k)

def bits (index : Atom k) (bit : Fin k) : ℚ := atom .SPATIAL_EXCHANGEABILITY k index bit

theorem isVertex_bits (index : Atom k) : CubeForm.IsVertex (bits index) := by
  intro bit
  rw [bits, atom]
  rcases Nat.mod_two_eq_zero_or_one (index.val >>> (bit.val % 32)) with zero | one
  · exact Or.inl (by rw [zero, Nat.cast_zero])
  · exact Or.inr (by rw [one, Nat.cast_one])

theorem exists_bits_eq (small : k ≤ 30) {vertex : Fin k → ℚ}
    (isVertex : CubeForm.IsVertex vertex) : ∃ index : Atom k, bits index = vertex := by
  let chosen (bit : Fin k) : Bool := decide (vertex bit = 1)
  have isAtom : Nat.ofBits chosen < hypercubeAtoms k := by
    rw [hypercubeAtoms_eq small]
    exact Nat.ofBits_lt_two_pow chosen
  refine ⟨⟨Nat.ofBits chosen, isAtom⟩, funext fun bit => ?_⟩
  have shift : bit.val % 32 = bit.val := Nat.mod_eq_of_lt (by omega)
  have isBit : Nat.ofBits chosen >>> bit.val % 2 = (chosen bit).toNat := by
    rw [← Nat.testBit_ofBits_lt chosen bit.val bit.isLt, Nat.toNat_testBit,
      Nat.shiftRight_eq_div_pow]
  rw [bits, atom, shift, isBit]
  rcases isVertex bit with zero | one
  · simp only [chosen, zero, zero_ne_one, decide_false, Bool.toNat_false, Nat.cast_zero]
  · simp only [chosen, one, decide_true, Bool.toNat_true, Nat.cast_one]

theorem bits_eq_one_iff {index : Atom k} {bit : Fin k} :
    bits index bit = 1 ↔ atom .SPATIAL_EXCHANGEABILITY k index bit = 1 := by
  rw [bits]
  exact Nat.cast_eq_one

theorem unionCosts_eq (index : Atom k) : unionCosts .SPATIAL_EXCHANGEABILITY index =
    if ∃ bit, bits index bit = 1 then 1 else 0 := by
  have isUnion : 1 ≤ popcount .SPATIAL_EXCHANGEABILITY index ↔ ∃ bit, bits index bit = 1 := by
    rw [popcount, Nat.one_le_iff_ne_zero, ← Nat.pos_iff_ne_zero, Finset.sum_pos_iff]
    constructor
    · rintro ⟨bit, _, positive⟩
      rcases isVertex_bits index bit with zero | one
      · rw [bits, Nat.cast_eq_zero] at zero
        exact absurd zero positive.ne'
      · exact ⟨bit, one⟩
    · rintro ⟨bit, one⟩
      exact ⟨bit, Finset.mem_univ bit, by rw [bits_eq_one_iff.mp one]; exact Nat.one_pos⟩
  simp only [unionCosts, isUnion]

theorem intersectionCosts_eq (index : Atom k) : intersectionCosts .SPATIAL_EXCHANGEABILITY index =
    if ∀ bit, bits index bit = 1 then 1 else 0 := by
  have atMost (bit : Fin k) : atom .SPATIAL_EXCHANGEABILITY k index bit ≤ 1 :=
    Nat.le_of_lt_succ (Nat.mod_lt _ (by decide))
  have isAll : popcount .SPATIAL_EXCHANGEABILITY index = k ↔ ∀ bit, bits index bit = 1 := by
    have ones : k = ∑ _bit : Fin k, 1 := by
      rw [Finset.sum_const, Finset.card_univ, Fintype.card_fin, smul_eq_mul, mul_one]
    have same := Finset.sum_eq_sum_iff_of_le fun bit (_ : bit ∈ Finset.univ) => atMost bit
    rw [← ones] at same
    rw [popcount, same]
    simp only [bits_eq_one_iff, Finset.mem_univ, forall_const]
  simp only [intersectionCosts, isAll]

def formOf (price : Fin (k + 1) → ℚ) : CubeForm ℚ (Fin k) where
  constant := price 0
  coefficient := fun bit => price bit.succ

theorem priced_atom (marginals : Fin k → ℚ) (price : Fin (k + 1) → ℚ) (index : Atom k) :
    ∑ row, price row * (systemOf (constraints .SPATIAL_EXCHANGEABILITY)
      (constraintBounds marginals)).column (Fin.castAdd (k + 1) index) row =
        (formOf price).eval (bits index) := by
  rw [priced_structural, Fin.sum_univ_succ]
  simp only [constraints, Fin.cons_zero, Fin.cons_succ, mul_one]
  rfl

theorem priced_bounds (marginals : Fin k → ℚ) (price : Fin (k + 1) → ℚ) :
    ∑ row, price row * (systemOf (constraints .SPATIAL_EXCHANGEABILITY)
      (constraintBounds marginals)).bound row = (formOf price).eval marginals := by
  rw [Fin.sum_univ_succ]
  simp only [systemOf, constraintBounds, Fin.cons_zero, Fin.cons_succ, mul_one]
  rfl

theorem eval_le_of_atoms (small : k ≤ 30) {form : CubeForm ℚ (Fin k)} {point : Fin k → ℚ}
    {bound : ℚ} (inCube : CubeForm.InCube point)
    (atoms : ∀ index : Atom k, form.eval (bits index) ≤ bound) : form.eval point ≤ bound := by
  rcases exists_bits_eq small form.isVertex_topVertex with ⟨index, isTop⟩
  have atTop := atoms index
  rw [isTop] at atTop
  exact (form.eval_le_topVertex inCube).trans atTop

abbrev SpatialSolver (k : ℕ) := SimplexSolver (k + 1) (atomCount .SPATIAL_EXCHANGEABILITY k)

abbrev spatialSolver (marginals : Fin k → ℚ) : SpatialSolver k :=
  newSolver (constraints .SPATIAL_EXCHANGEABILITY) (constraintBounds marginals)

abbrev spatialSystem (marginals : Fin k → ℚ) :=
  systemOf (constraints .SPATIAL_EXCHANGEABILITY (k := k)) (constraintBounds marginals)

variable {marginals : Fin k → ℚ} {maxIterations : JsNumber} {fuel : ℕ}
  {middle final : SpatialSolver k}

theorem feasible_spatialSolver (inCube : CubeForm.InCube marginals) :
    (spatialSolver marginals).Feasible := by
  intro row
  refine Fin.cases ?_ (fun bit => ?_) row
  · exact zero_le_one
  · exact (inCube bit).1

/-- What the first phase proves where it is optimal. -/
structure Phase1Prices (marginals : Fin k → ℚ) (middle : SpatialSolver k)
    (price : Fin (k + 1) → ℚ) : Prop where
  atoms : ∀ index : Atom k, (formOf price).eval (bits index) ≤ 0
  basic : ∀ artificial, middle.IsBasic (Fin.natAdd _ artificial) → price artificial = 1
  artSum : artSum middle = (formOf price).eval marginals

theorem exists_phase1Prices (represents : middle.Represents (spatialSystem marginals))
    (priced : enteringColumn middle phase1Costs true = none) :
    ∃ price, Phase1Prices marginals middle price := by
  rcases exists_prices_of_enteringColumn represents priced with ⟨price, below, basic, isObjective⟩
  refine ⟨price, fun index => ?_, fun artificial isBasic => ?_, ?_⟩
  · have atAtom := below (Fin.castAdd _ index) (Or.inl rfl)
    rw [priced_atom, phase1Costs, Fin.addCases_left] at atAtom
    exact atAtom
  · rcases isBasic with ⟨row, same⟩
    have atRow := basic row
    rw [same, priced_artificial, phase1Costs, Fin.addCases_right] at atRow
    exact atRow
  · rw [artSum_eq, isObjective, priced_bounds]

theorem Phase1Prices.artSum_nonpos {price : Fin (k + 1) → ℚ}
    (prices : Phase1Prices marginals middle price) (small : k ≤ 30)
    (inCube : CubeForm.InCube marginals) : Unification.artSum middle ≤ 0 := by
  rw [prices.artSum]
  exact eval_le_of_atoms small inCube prices.atoms

theorem Phase1Prices.eq_one_of_isBasic {price : Fin (k + 1) → ℚ}
    (prices : Phase1Prices marginals middle price) (small : k ≤ 30)
    (inCube : CubeForm.InCube marginals) (feasible : middle.Feasible) {artificial : Fin (k + 1)}
    (isBasic : middle.IsBasic (Fin.natAdd _ artificial)) :
    ∃ bit, artificial = bit.succ ∧ marginals bit = 1 := by
  have one := prices.basic artificial isBasic
  have nonneg : 0 ≤ (formOf price).eval marginals := by
    rw [← prices.artSum]
    refine Finset.sum_nonneg fun row _ => ?_
    split
    · exact feasible row
    · exact le_rfl
  rcases Fin.eq_zero_or_eq_succ artificial with rfl | ⟨bit, rfl⟩
  · have inCubeOrigin : CubeForm.InCube fun _ : Fin k => (0 : ℚ) :=
      fun _ => ⟨le_rfl, zero_le_one⟩
    have atOrigin := eval_le_of_atoms small inCubeOrigin prices.atoms
    rw [CubeForm.eval_zero, formOf, one] at atOrigin
    exact absurd atOrigin (not_le.mpr zero_lt_one)
  · refine ⟨bit, rfl, ?_⟩
    have raised : CubeForm.InCube (Function.update marginals bit 1) := by
      intro other
      by_cases same : other = bit
      · rw [same, Function.update_self]
        exact ⟨zero_le_one, le_rfl⟩
      · rw [Function.update_of_ne same]
        exact inCube other
    have atRaised := eval_le_of_atoms small raised prices.atoms
    have coefficient : (formOf price).coefficient bit = 1 := one
    rw [CubeForm.eval_update, coefficient, one_mul] at atRaised
    linarith [(inCube bit).2]

/-! ### The second phase -/

variable {costs : Atom k → ℚ} {maximize : Bool}

/-- The costs of the minimisation that a solve runs. -/
def signed (maximize : Bool) (value : ℚ) : ℚ := if maximize then -value else value

theorem phase2Costs_atom (costs : Atom k → ℚ) (maximize : Bool) (index : Atom k) :
    (phase2Costs costs maximize (Fin.castAdd (k + 1) index) : ℚ) =
      signed maximize (costs index) := by
  rw [phase2Costs, Fin.addCases_left]
  rfl

/-- The values at the marginals of the forms that are below the costs at the atoms. -/
def DualValues (marginals : Fin k → ℚ) (cost : Atom k → ℚ) : Set ℚ :=
  {value | ∃ form : CubeForm ℚ (Fin k),
    (∀ index : Atom k, form.eval (bits index) ≤ cost index) ∧ form.eval marginals = value}

theorem isGreatest_of_phase2 (represents : middle.Represents (spatialSystem marginals))
    (feasible : middle.Feasible)
    (structural : ∀ row, (middle.basis row).val < atomCount .SPATIAL_EXCHANGEABILITY k)
    (ran : runSimplex (phase2Costs costs maximize) false maxIterations fuel 0 middle =
      some (.OPTIMAL, final)) :
    IsGreatest (DualValues marginals fun index => signed maximize (costs index))
      (signed maximize (getObjectiveValue final costs)) := by
  let sound (solver : SpatialSolver k) : Prop :=
    solver.Represents (spatialSystem marginals) ∧ solver.Feasible ∧
      ∀ row, (solver.basis row).val < atomCount .SPATIAL_EXCHANGEABILITY k
  have run : sound final ∧ Ended (phase2Costs costs maximize) false maxIterations .OPTIMAL final := by
    refine runSimplex_induction ?_ ⟨represents, feasible, structural⟩ ran
    rintro solver entering leaving ⟨represents, feasible, structural⟩ isEntering isLeaving
    refine ⟨represents.pivot isLeaving.positive.ne', feasible.pivot isLeaving, fun row => ?_⟩
    by_cases isRow : row = leaving
    · rw [isRow, Tableau.pivot_basis_self]
      exact isEntering.isAllowed.resolve_left Bool.false_ne_true
    · rw [Tableau.pivot_basis_of_ne _ _ isRow]
      exact structural row
  rcases run with ⟨⟨represents, feasible, structural⟩, ended⟩
  cases ended with
  | optimal priced =>
    have isValue : signed maximize (getObjectiveValue final costs) =
        final.objective (phase2Costs costs maximize) := (objective_phase2Costs ..).symm
    rw [isValue]
    constructor
    · rcases exists_prices_of_enteringColumn represents priced with ⟨price, below, _, isObjective⟩
      refine ⟨formOf price, fun index => ?_, ?_⟩
      · beta_reduce
        rw [← phase2Costs_atom, ← priced_atom marginals]
        exact below _ (Or.inr index.isLt)
      · rw [isObjective, priced_bounds]
    · rintro value ⟨form, below, rfl⟩
      let price : Fin (k + 1) → ℚ := Fin.cons form.constant form.coefficient
      have isForm : formOf price = form := rfl
      rw [← isForm, ← priced_bounds]
      refine represents.priced_le_objective feasible price fun row => ?_
      rcases structural_or_artificial (final.basis row) with ⟨index, same⟩ | ⟨artificial, same⟩
      · rw [same, priced_atom, phase2Costs_atom]
        exact below index
      · have isAtom := structural row
        rw [same, Fin.val_natAdd] at isAtom
        omega

theorem isGreatest_of_solveFor (small : k ≤ 30) (inCube : CubeForm.InCube marginals)
    (notOne : ∀ bit, marginals bit ≠ 1)
    (solved : solveFor .SPATIAL_EXCHANGEABILITY fuel marginals maxIterations costs maximize =
      some (.OPTIMAL, final)) :
    IsGreatest (DualValues marginals fun index => signed maximize (costs index))
      (signed maximize (getObjectiveValue final costs)) := by
  rcases solve_optimal solved with ⟨middle, phase1, _, phase2⟩
  rcases runSimplex_represents (newSolver_represents _ _) (feasible_spatialSolver inCube) phase1
    with ⟨represents, feasible⟩
  refine isGreatest_of_phase2 represents feasible (fun row => ?_) phase2
  have ended := runSimplex_ended phase1
  cases ended with
  | optimal priced =>
    rcases exists_phase1Prices represents priced with ⟨price, prices⟩
    rcases structural_or_artificial (middle.basis row) with ⟨index, same⟩ | ⟨artificial, same⟩
    · rw [same]
      exact index.isLt
    · rcases prices.eq_one_of_isBasic small inCube feasible ⟨row, same⟩ with ⟨bit, _, one⟩
      exact absurd one (notOne bit)

theorem isGreatest_of_minimize (small : k ≤ 30) (inCube : CubeForm.InCube marginals)
    (notOne : ∀ bit, marginals bit ≠ 1)
    (solved : solveFor .SPATIAL_EXCHANGEABILITY fuel marginals maxIterations costs false =
      some (.OPTIMAL, final)) :
    IsGreatest (DualValues marginals costs) (getObjectiveValue final costs) := by
  have greatest := isGreatest_of_solveFor small inCube notOne solved
  simp only [signed, Bool.false_eq_true, if_false] at greatest
  exact greatest

theorem isGreatest_of_maximize (small : k ≤ 30) (inCube : CubeForm.InCube marginals)
    (notOne : ∀ bit, marginals bit ≠ 1)
    (solved : solveFor .SPATIAL_EXCHANGEABILITY fuel marginals maxIterations costs true =
      some (.OPTIMAL, final)) :
    IsGreatest (DualValues marginals fun index => -costs index)
      (-getObjectiveValue final costs) := by
  have greatest := isGreatest_of_solveFor small inCube notOne solved
  simp only [signed, if_true] at greatest
  exact greatest

section Values

variable {value : ℚ}

theorem isGreatest_unionMin (small : k ≤ 30) (some : 1 ≤ k) (inCube : CubeForm.InCube marginals)
    (greatest : IsGreatest (DualValues marginals (unionCosts .SPATIAL_EXCHANGEABILITY)) value) :
    IsGreatest (Set.range marginals) value := by
  have nonempty : Nonempty (Fin k) := ⟨⟨0, some⟩⟩
  rcases Finite.exists_max marginals with ⟨top, atMost⟩
  have isTop : value = marginals top := by
    apply le_antisymm
    · rcases greatest.1 with ⟨form, below, rfl⟩
      have vertices (vertex : Fin k → ℚ) (isVertex : CubeForm.IsVertex vertex) :
          form.eval vertex ≤ 1 := by
        rcases exists_bits_eq small isVertex with ⟨index, rfl⟩
        refine (below index).trans ?_
        rw [unionCosts_eq]
        split
        · exact le_rfl
        · exact zero_le_one
      have origin : form.constant ≤ 0 := by
        rcases exists_bits_eq small fun _ : Fin k => Or.inl (rfl : (0 : ℚ) = 0) with ⟨index, isOrigin⟩
        have atOrigin := below index
        rw [isOrigin, CubeForm.eval_zero, unionCosts_eq, isOrigin] at atOrigin
        simpa using atOrigin
      exact CubeForm.eval_le_greatest inCube atMost (inCube top).1 (inCube top).2 vertices origin
    · refine greatest.2 ⟨CubeForm.coordinate top, fun index => ?_, CubeForm.eval_coordinate _ _⟩
      rw [CubeForm.eval_coordinate, unionCosts_eq]
      rcases isVertex_bits index top with zero | one
      · rw [zero]
        split
        · exact zero_le_one
        · exact le_rfl
      · rw [if_pos ⟨top, one⟩, one]
  rw [isTop]
  constructor
  · exact ⟨top, rfl⟩
  · rintro _ ⟨bit, rfl⟩
    exact atMost bit

theorem eq_unionMax (small : k ≤ 30) (inCube : CubeForm.InCube marginals)
    (greatest : IsGreatest (DualValues marginals fun index =>
      -unionCosts .SPATIAL_EXCHANGEABILITY index) (-value)) :
    value = min 1 (∑ bit, marginals bit) := by
  apply le_antisymm
  · apply le_min
    · refine neg_le_neg_iff.mp (greatest.2 ⟨CubeForm.const (-1), fun index => ?_,
        CubeForm.eval_const _ _⟩)
      beta_reduce
      rw [CubeForm.eval_const, unionCosts_eq, neg_le_neg_iff]
      split
      · exact le_rfl
      · exact zero_le_one
    · refine neg_le_neg_iff.mp (greatest.2 ⟨(CubeForm.total 0).neg, fun index => ?_, ?_⟩)
      · beta_reduce
        rw [CubeForm.eval_neg, CubeForm.eval_total, zero_add, unionCosts_eq, neg_le_neg_iff]
        have nonneg (bit : Fin k) : 0 ≤ bits index bit := by
          rcases isVertex_bits index bit with zero | one
          · exact zero.ge
          · rw [one]
            exact zero_le_one
        split
        next isUnion =>
          rcases isUnion with ⟨bit, one⟩
          rw [← one]
          exact Finset.single_le_sum (fun bit _ => nonneg bit) (Finset.mem_univ bit)
        next => exact Finset.sum_nonneg fun bit _ => nonneg bit
      · rw [CubeForm.eval_neg, CubeForm.eval_total, zero_add]
  · rcases greatest.1 with ⟨form, below, isValue⟩
    have bound (index : Atom k) : unionCosts .SPATIAL_EXCHANGEABILITY index ≤
        form.neg.eval (bits index) := by
      rw [CubeForm.eval_neg]
      exact le_neg_of_le_neg (below index)
    have vertices (vertex : Fin k → ℚ) (isVertex : CubeForm.IsVertex vertex)
        (isUnit : ∃ bit, vertex bit = 1) : 1 ≤ form.neg.eval vertex := by
      rcases exists_bits_eq small isVertex with ⟨index, rfl⟩
      have atIndex := bound index
      rw [unionCosts_eq, if_pos isUnit] at atIndex
      exact atIndex
    have origin : 0 ≤ form.neg.constant := by
      rcases exists_bits_eq small fun _ : Fin k => Or.inl (rfl : (0 : ℚ) = 0) with ⟨index, isOrigin⟩
      have atOrigin := bound index
      rw [isOrigin, CubeForm.eval_zero, unionCosts_eq, isOrigin] at atOrigin
      simpa using atOrigin
    have least := CubeForm.min_one_sum_le_eval inCube vertices origin
    rw [CubeForm.eval_neg, isValue, neg_neg] at least
    exact least

theorem eq_intersectionMin (small : k ≤ 30) (inCube : CubeForm.InCube marginals)
    (greatest : IsGreatest (DualValues marginals (intersectionCosts .SPATIAL_EXCHANGEABILITY))
      value) : value = max 0 ((∑ bit, marginals bit) - (k - 1)) := by
  apply le_antisymm
  · rcases greatest.1 with ⟨form, below, rfl⟩
    have vertices (vertex : Fin k → ℚ) (isVertex : CubeForm.IsVertex vertex)
        (isMissing : ∃ bit, vertex bit = 0) : form.eval vertex ≤ 0 := by
      rcases exists_bits_eq small isVertex with ⟨index, rfl⟩
      have atIndex := below index
      rw [intersectionCosts_eq, if_neg] at atIndex
      · exact atIndex
      · intro all
        rcases isMissing with ⟨bit, zero⟩
        exact zero_ne_one (zero.symm.trans (all bit))
    have last : form.eval (fun _ => 1) ≤ 1 := by
      rcases exists_bits_eq small fun _ : Fin k => Or.inr (rfl : (1 : ℚ) = 1) with ⟨index, isLast⟩
      have atLast := below index
      rw [intersectionCosts_eq, isLast, if_pos fun _ => rfl] at atLast
      exact atLast
    have most := CubeForm.eval_le_max_zero inCube vertices last
    rw [Fintype.card_fin] at most
    exact most
  · apply max_le
    · refine greatest.2 ⟨CubeForm.const 0, fun index => ?_, CubeForm.eval_const _ _⟩
      rw [CubeForm.eval_const, intersectionCosts_eq]
      split
      · exact zero_le_one
      · exact le_rfl
    · refine greatest.2 ⟨CubeForm.total (-(k - 1)), fun index => ?_, ?_⟩
      · rw [CubeForm.eval_total, intersectionCosts_eq]
        have atMost (bit : Fin k) : bits index bit ≤ 1 := by
          rcases isVertex_bits index bit with zero | one
          · rw [zero]
            exact zero_le_one
          · exact one.le
        have ones : ∑ _bit : Fin k, (1 : ℚ) = k := by
          rw [Finset.sum_const, Finset.card_univ, Fintype.card_fin, nsmul_eq_mul, mul_one]
        split
        next =>
          have sum := Finset.sum_le_sum fun bit (_ : bit ∈ Finset.univ) => atMost bit
          linarith
        next isMissing =>
          rw [not_forall] at isMissing
          rcases isMissing with ⟨bit, notOne⟩
          have zero := (isVertex_bits index bit).resolve_right notOne
          have rest : ∑ other, bits index other ≤
              ∑ other : Fin k, if other = bit then (0 : ℚ) else 1 := by
            refine Finset.sum_le_sum fun other _ => ?_
            split
            next same => rw [same, zero]
            next => exact atMost other
          have fewer : ∑ other : Fin k, (if other = bit then (0 : ℚ) else 1) = k - 1 := by
            have each (other : Fin k) : (if other = bit then (0 : ℚ) else 1) =
                1 - if other = bit then 1 else 0 := by
              split
              · rw [sub_self]
              · rw [sub_zero]
            simp only [each, Finset.sum_sub_distrib, ones, Finset.sum_ite_eq', Finset.mem_univ,
              if_true]
          linarith
      · rw [CubeForm.eval_total]
        ring

theorem isLeast_intersectionMax (small : k ≤ 30) (some : 1 ≤ k)
    (inCube : CubeForm.InCube marginals)
    (greatest : IsGreatest (DualValues marginals fun index =>
      -intersectionCosts .SPATIAL_EXCHANGEABILITY index) (-value)) :
    IsLeast (Set.range marginals) value := by
  have nonempty : Nonempty (Fin k) := ⟨⟨0, some⟩⟩
  rcases Finite.exists_min marginals with ⟨low, atLeast⟩
  have isLow : value = marginals low := by
    apply le_antisymm
    · refine neg_le_neg_iff.mp (greatest.2 ⟨(CubeForm.coordinate low).neg, fun index => ?_, ?_⟩)
      · beta_reduce
        rw [CubeForm.eval_neg, CubeForm.eval_coordinate, intersectionCosts_eq, neg_le_neg_iff]
        split
        next all => rw [all low]
        next =>
          rcases isVertex_bits index low with zero | one
          · rw [zero]
          · rw [one]
            exact zero_le_one
      · rw [CubeForm.eval_neg, CubeForm.eval_coordinate]
    · rcases greatest.1 with ⟨form, below, isValue⟩
      have bound (index : Atom k) : intersectionCosts .SPATIAL_EXCHANGEABILITY index ≤
          form.neg.eval (bits index) := by
        rw [CubeForm.eval_neg]
        exact le_neg_of_le_neg (below index)
      have vertices (vertex : Fin k → ℚ) (isVertex : CubeForm.IsVertex vertex) :
          0 ≤ form.neg.eval vertex := by
        rcases exists_bits_eq small isVertex with ⟨index, rfl⟩
        refine le_trans ?_ (bound index)
        rw [intersectionCosts_eq]
        split
        · exact zero_le_one
        · exact le_rfl
      have last : 1 ≤ form.neg.eval fun _ => 1 := by
        rcases exists_bits_eq small fun _ : Fin k => Or.inr (rfl : (1 : ℚ) = 1) with ⟨index, isLast⟩
        have atLast := bound index
        rw [intersectionCosts_eq, isLast, if_pos fun _ => rfl] at atLast
        exact atLast
      have least := CubeForm.least_le_eval inCube atLeast (inCube low).1 (inCube low).2 vertices
        last
      rw [CubeForm.eval_neg, isValue, neg_neg] at least
      exact least
  rw [isLow]
  constructor
  · exact ⟨low, rfl⟩
  · rintro _ ⟨bit, rfl⟩
    exact atLeast bit

end Values

/-! ### Marginals that are one -/

variable {solver : SpatialSolver k} {c : Fin (atomCount .SPATIAL_EXCHANGEABILITY k + (k + 1)) → ℚ}
  {isPhase1 : Bool} {entering : Fin (atomCount .SPATIAL_EXCHANGEABILITY k + (k + 1))}
  {leaving : Fin (k + 1)} {bit : Fin k}

abbrev artificialOf (bit : Fin k) : Fin (atomCount .SPATIAL_EXCHANGEABILITY k + (k + 1)) :=
  Fin.natAdd _ bit.succ

/-- What a marginal's row has over the sum of probabilities. -/
def excess (bit : Fin k) : Fin (k + 1) → ℚ := Fin.cons (-1) (Pi.single bit 1)

theorem eval_excess (bit : Fin k) (point : Fin k → ℚ) :
    (formOf (excess bit)).eval point = point bit - 1 := by
  have isCoordinate : ∑ other, (formOf (excess bit)).coefficient other * point other =
      (CubeForm.coordinate bit).eval point := by
    simp only [CubeForm.eval, CubeForm.coordinate, zero_add]
    rfl
  rw [CubeForm.eval, isCoordinate, CubeForm.eval_coordinate, add_comm]
  exact (sub_eq_add_neg _ _).symm

theorem priced_excess (marginals : Fin k → ℚ)
    {column : Fin (atomCount .SPATIAL_EXCHANGEABILITY k + (k + 1))}
    (other : column ≠ artificialOf bit) :
    ∑ row, excess bit row * (spatialSystem marginals).column column row ≤ 0 ∧
      (∑ row, excess bit row * (spatialSystem marginals).column column row < 0 →
        column < artificialOf bit) := by
  rcases structural_or_artificial column with ⟨index, rfl⟩ | ⟨artificial, rfl⟩
  · rw [priced_atom, eval_excess]
    refine ⟨?_, fun _ => Fin.lt_def.mpr ?_⟩
    · rcases isVertex_bits index bit with zero | one
      · rw [zero, zero_sub]
        exact neg_nonpos.mpr zero_le_one
      · rw [one, sub_self]
    · rw [Fin.val_castAdd, Fin.val_natAdd]
      exact index.isLt.trans_le (Nat.le_add_right _ _)
  · rw [priced_artificial]
    rcases Fin.eq_zero_or_eq_succ artificial with rfl | ⟨place, rfl⟩
    · refine ⟨neg_nonpos.mpr zero_le_one, fun _ => Fin.lt_def.mpr ?_⟩
      rw [Fin.val_natAdd, Fin.val_natAdd]
      exact Nat.add_lt_add_left (Nat.succ_pos _) _
    · have different : place ≠ bit := fun same => other (by rw [same])
      have zero : excess bit place.succ = 0 := by
        rw [excess, Fin.cons_succ, Pi.single_eq_of_ne different]
      rw [zero]
      exact ⟨le_rfl, fun negative => absurd negative (lt_irrefl 0)⟩

theorem isBasic_pivot_of_one (represents : solver.Represents (spatialSystem marginals))
    (feasible : solver.Feasible) (one : marginals bit = 1)
    (isBasic : solver.IsBasic (artificialOf bit))
    (isEntering : solver.IsEntering c (Allowed isPhase1) entering)
    (isLeaving : solver.IsLeaving entering leaving) :
    (solver.pivot leaving entering).IsBasic (artificialOf bit) := by
  rcases isBasic with ⟨row, same⟩
  by_cases leaves : row = leaving
  · subst leaves
    exfalso
    have others (other : Fin (k + 1)) (different : other ≠ row) :
        solver.basis other ≠ artificialOf bit :=
      fun alike => different (represents.basis_injective (alike.trans same.symm))
    have enters : entering ≠ artificialOf bit :=
      fun alike => isEntering.notBasic ⟨row, same.trans alike.symm⟩
    have selected : 0 < ∑ inner, excess bit inner *
        (spatialSystem marginals).column (solver.basis row) inner := by
      rw [same, priced_artificial, excess, Fin.cons_succ, Pi.single_eq_same]
      exact zero_lt_one
    have bounded : 0 ≤ ∑ inner, excess bit inner * (spatialSystem marginals).bound inner := by
      rw [priced_bounds, eval_excess, one, sub_self]
    refine isLeaving.not_singled_out represents feasible (excess bit) selected
      (fun other different => (priced_excess marginals (others other different)).1)
      (priced_excess marginals enters).1 bounded fun other negative => ?_
    have different : other ≠ row := by
      rintro rfl
      exact absurd selected (not_lt.mpr negative.le)
    rw [same]
    exact (priced_excess marginals (others other different)).2 negative
  · exact ⟨row, (Tableau.pivot_basis_of_ne _ _ leaves).trans same⟩

/-- The solver state that both phases keep. -/
structure Kept (marginals : Fin k → ℚ) (solver : SpatialSolver k) : Prop where
  represents : solver.Represents (spatialSystem marginals)
  feasible : solver.Feasible
  stays : ∀ bit, marginals bit = 1 → solver.IsBasic (artificialOf bit)

theorem kept_spatialSolver (inCube : CubeForm.InCube marginals) :
    Kept marginals (spatialSolver marginals) :=
  ⟨newSolver_represents _ _, feasible_spatialSolver inCube, fun bit _ => ⟨bit.succ, rfl⟩⟩

/-- A run of the simplex keeps the solver feasible for the marginals. -/
theorem Kept.run {status : LpStatus} (kept : Kept marginals solver)
    (ran : runSimplex c isPhase1 maxIterations fuel 0 solver = some (status, final)) :
    Kept marginals final ∧ Ended c isPhase1 maxIterations status final := by
  refine runSimplex_induction ?_ kept ran
  intro solver entering leaving kept isEntering isLeaving
  exact ⟨kept.represents.pivot isLeaving.positive.ne', kept.feasible.pivot isLeaving,
    fun bit one => isBasic_pivot_of_one kept.represents kept.feasible one (kept.stays bit one)
      isEntering isLeaving⟩

theorem unionMin_lt_one (small : k ≤ 30) (inCube : CubeForm.InCube marginals)
    (solved : solveFor .SPATIAL_EXCHANGEABILITY fuel marginals maxIterations
      (unionCosts .SPATIAL_EXCHANGEABILITY) false = some (.OPTIMAL, final)) :
    getObjectiveValue final (unionCosts .SPATIAL_EXCHANGEABILITY) < 1 := by
  rcases solve_optimal solved with ⟨middle, phase1, _, phase2⟩
  rcases ((kept_spatialSolver inCube).run phase1).1.run phase2 with ⟨kept, ended⟩
  cases ended with
  | optimal priced =>
    rcases exists_prices_of_enteringColumn kept.represents priced
      with ⟨price, below, basic, isObjective⟩
    have value := objective_phase2Costs final (unionCosts .SPATIAL_EXCHANGEABILITY) false
    rw [if_neg Bool.false_ne_true] at value
    rw [← value, isObjective, priced_bounds]
    -- prices of kept artificial columns are zero, so their marginals may as well be zero
    have free (bit : Fin k) (one : marginals bit = 1) : (formOf price).coefficient bit = 0 := by
      rcases kept.stays bit one with ⟨row, same⟩
      have atRow := basic row
      rw [same, priced_artificial, phase2Costs, Fin.addCases_right] at atRow
      exact atRow
    let lowered (bit : Fin k) : ℚ := if marginals bit = 1 then 0 else marginals bit
    have sameValue : (formOf price).eval marginals = (formOf price).eval lowered := by
      rw [CubeForm.eval, CubeForm.eval]
      congr 1
      refine Finset.sum_congr rfl fun bit _ => ?_
      by_cases one : marginals bit = 1
      · rw [free bit one, zero_mul, zero_mul]
      · simp only [lowered, if_neg one]
    have inside : CubeForm.InCube lowered := by
      intro bit
      simp only [lowered]
      split
      · exact ⟨le_rfl, zero_le_one⟩
      · exact inCube bit
    have notOne (bit : Fin k) : lowered bit ≠ 1 := by
      simp only [lowered]
      split
      next => exact zero_ne_one
      next different => exact different
    have atAtom (index : Atom k) : (formOf price).eval (bits index) ≤
        unionCosts .SPATIAL_EXCHANGEABILITY index := by
      rw [← priced_atom marginals]
      refine (below _ (Or.inr index.isLt)).trans ?_
      rw [phase2Costs_atom]
      exact le_rfl
    have vertices (vertex : Fin k → ℚ) (isVertex : CubeForm.IsVertex vertex) :
        (formOf price).eval vertex ≤ 1 := by
      rcases exists_bits_eq small isVertex with ⟨index, rfl⟩
      refine (atAtom index).trans ?_
      rw [unionCosts_eq]
      split
      · exact le_rfl
      · exact zero_le_one
    have origin : (formOf price).constant ≤ 0 := by
      rcases exists_bits_eq small fun _ : Fin k => Or.inl (rfl : (0 : ℚ) = 0) with ⟨index, isOrigin⟩
      have atOrigin := atAtom index
      rw [isOrigin, CubeForm.eval_zero, unionCosts_eq, isOrigin] at atOrigin
      simpa using atOrigin
    rw [sameValue]
    exact CubeForm.eval_lt_one inside notOne vertices origin

theorem exists_optimal (kept : Kept marginals solver)
    (enough : (atomCount .SPATIAL_EXCHANGEABILITY k + (k + 1)) ^ (k + 1) ≤ fuel) :
    ∃ final, runSimplex c isPhase1 .positiveInfinity fuel 0 solver = some (.OPTIMAL, final) := by
  rcases exists_runSimplex kept.represents kept.feasible enough 0 with ⟨status, final, ran⟩
  rcases kept.run ran with ⟨kept', ended⟩
  cases ended with
  | optimal => exact ⟨final, ran⟩
  | cut iterations isOver => cases isOver
  | unbounded entering unbounded =>
    exfalso
    have nonneg (column : Fin (atomCount .SPATIAL_EXCHANGEABILITY k + (k + 1)))
        (row : Fin (k + 1)) : 0 ≤ (spatialSystem marginals).column column row := by
      rcases structural_or_artificial column with ⟨index, rfl⟩ | ⟨artificial, rfl⟩
      · simp only [systemOf, Fin.addCases_left]
        refine Fin.cases ?_ (fun bit => ?_) row
        · exact zero_le_one
        · exact Nat.cast_nonneg _
      · simp only [systemOf, Fin.addCases_right]
        split
        · exact zero_le_one
        · exact le_rfl
    have positive : ∃ row, 0 < (spatialSystem marginals).column entering row := by
      rcases structural_or_artificial entering with ⟨index, rfl⟩ | ⟨artificial, rfl⟩
      · refine ⟨0, ?_⟩
        simp only [systemOf, Fin.addCases_left]
        exact zero_lt_one
      · refine ⟨artificial, ?_⟩
        simp only [systemOf, Fin.addCases_right, if_true]
        exact zero_lt_one
    rcases positive with ⟨row, isPositive⟩
    rcases kept'.represents.exists_positive nonneg isPositive with ⟨candidate, isCandidate⟩
    exact absurd isCandidate (not_lt.mpr (entry_nonpos_of_leavingRow unbounded candidate))

/-- With enough fuel the solver ends in an optimum. -/
theorem exists_solveFor (small : k ≤ 30) (inCube : CubeForm.InCube marginals)
    (costs : Atom k → ℚ) (maximize : Bool)
    (enough : (atomCount .SPATIAL_EXCHANGEABILITY k + (k + 1)) ^ (k + 1) ≤ fuel) :
    ∃ final, solveFor .SPATIAL_EXCHANGEABILITY fuel marginals .positiveInfinity costs maximize =
      some (.OPTIMAL, final) := by
  have start := kept_spatialSolver inCube
  rcases exists_optimal start enough with ⟨middle, phase1⟩
  rcases start.run phase1 with ⟨kept, ended⟩
  cases ended with
  | optimal priced =>
    rcases exists_phase1Prices kept.represents priced with ⟨price, prices⟩
    rcases exists_optimal kept enough with ⟨final, phase2⟩
    refine ⟨final, ?_⟩
    rw [solveFor, solve_of_phases phase1 (prices.artSum_nonpos small inCube)]
    exact phase2

end Hypercube

/-! ### Exactness -/

/-- The Fréchet bounds of marginals. -/
structure IsFrechet (marginals : List ℚ) (result : ExactBoundsResult) : Prop where
  unionMin : IsGreatest {marginal | marginal ∈ marginals} result.union.min
  unionMax : result.union.max = min 1 marginals.sum
  intersectionMin : result.intersection.min = max 0 (marginals.sum - (marginals.length - 1))
  intersectionMax : IsLeast {marginal | marginal ∈ marginals} result.intersection.max

/-- Each of the four solves of `exactBounds` returns an optimum. -/
def AllOptimal (fuel : ℕ) (marginals : List ℚ) (maxIterations : JsNumber) : Prop :=
  ∀ costs ∈ [unionCosts .SPATIAL_EXCHANGEABILITY, intersectionCosts .SPATIAL_EXCHANGEABILITY],
    ∀ maximize, ∃ final, solveFor .SPATIAL_EXCHANGEABILITY fuel marginals.get maxIterations costs
      maximize = some (.OPTIMAL, final)

theorem boundsOf_of_optimal {k : ℕ} {marginals : Fin k → ℚ} {fuel : ℕ} {maxIterations : JsNumber}
    {costs : Atom k → ℚ} {least greatest : SpatialSolver k}
    (solvedMin : solveFor .SPATIAL_EXCHANGEABILITY fuel marginals maxIterations costs false =
      some (.OPTIMAL, least))
    (solvedMax : solveFor .SPATIAL_EXCHANGEABILITY fuel marginals maxIterations costs true =
      some (.OPTIMAL, greatest)) :
    boundsOf .SPATIAL_EXCHANGEABILITY fuel marginals maxIterations costs =
      some ⟨getObjectiveValue least costs, getObjectiveValue greatest costs, .OPTIMAL⟩ := by
  rw [boundsOf, solvedMin, solvedMax]
  rfl

section Exactness

variable {marginals : List ℚ}

theorem inCube_get (inCube : ∀ marginal ∈ marginals, 0 ≤ marginal ∧ marginal ≤ 1) :
    CubeForm.InCube marginals.get :=
  fun index => inCube _ (List.get_mem marginals index)

theorem range_get (marginals : List ℚ) :
    Set.range marginals.get = {marginal | marginal ∈ marginals} :=
  Set.ext fun _ => List.mem_iff_get.symm

theorem exactBounds_of_optimal {fuel : ℕ} {maxIterations : JsNumber}
    {minUnion maxUnion minInter maxInter : SpatialSolver marginals.length}
    (solvedMin : solveFor .SPATIAL_EXCHANGEABILITY fuel marginals.get maxIterations
      (unionCosts .SPATIAL_EXCHANGEABILITY) false = some (.OPTIMAL, minUnion))
    (solvedMax : solveFor .SPATIAL_EXCHANGEABILITY fuel marginals.get maxIterations
      (unionCosts .SPATIAL_EXCHANGEABILITY) true = some (.OPTIMAL, maxUnion))
    (interMin : solveFor .SPATIAL_EXCHANGEABILITY fuel marginals.get maxIterations
      (intersectionCosts .SPATIAL_EXCHANGEABILITY) false = some (.OPTIMAL, minInter))
    (interMax : solveFor .SPATIAL_EXCHANGEABILITY fuel marginals.get maxIterations
      (intersectionCosts .SPATIAL_EXCHANGEABILITY) true = some (.OPTIMAL, maxInter)) :
    exactBounds .SPATIAL_EXCHANGEABILITY fuel marginals maxIterations =
      some ⟨⟨getObjectiveValue minUnion (unionCosts .SPATIAL_EXCHANGEABILITY),
          getObjectiveValue maxUnion (unionCosts .SPATIAL_EXCHANGEABILITY), .OPTIMAL⟩,
        ⟨getObjectiveValue minInter (intersectionCosts .SPATIAL_EXCHANGEABILITY),
          getObjectiveValue maxInter (intersectionCosts .SPATIAL_EXCHANGEABILITY),
          .OPTIMAL⟩⟩ := by
  rw [exactBounds, boundsOf_of_optimal solvedMin solvedMax, boundsOf_of_optimal interMin interMax]
  rfl

/-- The oracle reports the Fréchet bounds, whenever all its solves are optimal, exactly if no
marginal is one. -/
theorem isFrechet_iff (isSome : 1 ≤ marginals.length) (small : marginals.length ≤ 30)
    (inCube : ∀ marginal ∈ marginals, 0 ≤ marginal ∧ marginal ≤ 1) :
    (∀ fuel maxIterations result,
      exactBounds .SPATIAL_EXCHANGEABILITY fuel marginals maxIterations = some result →
        AllOptimal fuel marginals maxIterations → IsFrechet marginals result) ↔
      ∀ marginal ∈ marginals, marginal ≠ 1 := by
  constructor
  · rintro exact marginal member rfl
    let fuel := (atomCount .SPATIAL_EXCHANGEABILITY marginals.length + (marginals.length + 1)) ^
      (marginals.length + 1)
    have solves (costs : Atom marginals.length → ℚ) (maximize : Bool) :=
      exists_solveFor small (inCube_get inCube) costs maximize (le_refl fuel)
    rcases solves (unionCosts .SPATIAL_EXCHANGEABILITY) false with ⟨minUnion, solvedMin⟩
    rcases solves (unionCosts .SPATIAL_EXCHANGEABILITY) true with ⟨maxUnion, solvedMax⟩
    rcases solves (intersectionCosts .SPATIAL_EXCHANGEABILITY) false with ⟨minInter, interMin⟩
    rcases solves (intersectionCosts .SPATIAL_EXCHANGEABILITY) true with ⟨maxInter, interMax⟩
    have returned := exactBounds_of_optimal solvedMin solvedMax interMin interMax
    have frechet := exact fuel .positiveInfinity _ returned fun costs _ maximize =>
      solves costs maximize
    have atLeast := frechet.unionMin.2 member
    have below := unionMin_lt_one small (inCube_get inCube) solvedMin
    exact absurd atLeast (not_le.mpr below)
  · intro notOne fuel maxIterations result returned allOptimal
    rcases allOptimal _ List.mem_cons_self false with ⟨minUnion, solvedMin⟩
    rcases allOptimal _ List.mem_cons_self true with ⟨maxUnion, solvedMax⟩
    have second := List.mem_cons_of_mem (unionCosts .SPATIAL_EXCHANGEABILITY)
      (List.mem_singleton_self
        (intersectionCosts (k := marginals.length) .SPATIAL_EXCHANGEABILITY))
    rcases allOptimal _ second false with ⟨minInter, interMin⟩
    rcases allOptimal _ second true with ⟨maxInter, interMax⟩
    rw [exactBounds_of_optimal solvedMin solvedMax interMin interMax] at returned
    obtain rfl := Option.some.inj returned
    have cube := inCube_get inCube
    have noOne (bit : Fin marginals.length) : marginals.get bit ≠ 1 :=
      notOne _ (List.get_mem marginals bit)
    have unionMin := isGreatest_unionMin small isSome cube
      (isGreatest_of_minimize small cube noOne solvedMin)
    have unionMax := eq_unionMax small cube (isGreatest_of_maximize small cube noOne solvedMax)
    have interMin' := eq_intersectionMin small cube
      (isGreatest_of_minimize small cube noOne interMin)
    have interMax' := isLeast_intersectionMax small isSome cube
      (isGreatest_of_maximize small cube noOne interMax)
    rw [range_get] at unionMin interMax'
    rw [sum_get] at unionMax interMin'
    exact ⟨unionMin, unionMax, interMin', interMax'⟩

end Exactness

/-- The bounds of marginals without a one are reported. -/
theorem isFrechet_halves : ([1 / 2, 1 / 3] : List ℚ).length ≤ 30 ∧
    (∀ fuel maxIterations result,
      exactBounds .SPATIAL_EXCHANGEABILITY fuel [1 / 2, 1 / 3] maxIterations = some result →
        AllOptimal fuel [1 / 2, 1 / 3] maxIterations → IsFrechet [1 / 2, 1 / 3] result) :=
  ⟨by decide, (isFrechet_iff (by decide) (by decide) (by decide +kernel)).mpr (by decide +kernel)⟩

/-- A sure failure is reported as one that may not happen. -/
theorem unionMin_of_one :
    exactBounds .SPATIAL_EXCHANGEABILITY 1000 [1] (.ofNat 1000) =
        some ⟨⟨0, 1, .OPTIMAL⟩, ⟨0, 1, .OPTIMAL⟩⟩ ∧
      (∀ costs ∈ [unionCosts .SPATIAL_EXCHANGEABILITY, intersectionCosts .SPATIAL_EXCHANGEABILITY],
        ∀ maximize, ((solveFor .SPATIAL_EXCHANGEABILITY 1000 ([1] : List ℚ).get (.ofNat 1000) costs
          maximize).map Prod.fst) = some .OPTIMAL) ∧
      ¬ IsFrechet [1] ⟨⟨0, 1, .OPTIMAL⟩, ⟨0, 1, .OPTIMAL⟩⟩ := by
  refine ⟨by decide +kernel, ?_, ?_⟩
  · intro costs member maximize
    simp only [List.mem_cons, List.not_mem_nil, or_false] at member
    rcases member with rfl | rfl
    · cases maximize <;> decide +kernel
    · cases maximize <;> decide +kernel
  · intro frechet
    have atLeast : (1 : ℚ) ≤ 0 := frechet.unionMin.2 (List.mem_singleton_self 1)
    exact absurd atLeast (by decide)

end GhostArk.ResearchFrontier.Unification
