import Mathlib.Algebra.BigOperators.Field
import Mathlib.Algebra.Order.BigOperators.Group.Finset
import Mathlib.Algebra.Order.Field.Basic
import Mathlib.Data.Matrix.Mul
import Mathlib.Data.Fintype.Pigeonhole
import Mathlib.LinearAlgebra.Matrix.NonsingularInverse
import Mathlib.Tactic.Linarith

/-!
Contract: simplex tableaux over an ordered field.

Owns tableaux with a basis, pivots, reduced costs and objectives; the invariant that the
rows of a tableau are combinations of the rows of one system; prices; the effect of a pivot
on feasibility and objective; and Bland's rule: no run that follows it meets a basis twice.

Rows and columns are any finite types, columns with a linear order for Bland's rule.
-/

namespace GhostArk.Lib.Simplex

/-- A system of equations, column by column. -/
structure System (K I J : Type*) where
  column : J → I → K
  bound : I → K

@[ext]
structure Tableau (K I J : Type*) where
  entry : I → J → K
  rhs : I → K
  basis : I → J

variable {K I J : Type*} [Field K] [Fintype I] [DecidableEq I]

namespace Tableau

/-- The leaving row is divided by its pivot and then subtracted from every other row. -/
def pivot (tableau : Tableau K I J) (leaving : I) (entering : J) : Tableau K I J where
  entry := fun row column =>
    if row = leaving then tableau.entry leaving column / tableau.entry leaving entering
    else tableau.entry row column -
      tableau.entry row entering *
        (tableau.entry leaving column / tableau.entry leaving entering)
  rhs := fun row =>
    if row = leaving then tableau.rhs leaving / tableau.entry leaving entering
    else tableau.rhs row -
      tableau.entry row entering * (tableau.rhs leaving / tableau.entry leaving entering)
  basis := Function.update tableau.basis leaving entering

def reducedCost (tableau : Tableau K I J) (cost : J → K) (column : J) : K :=
  cost column - ∑ row, cost (tableau.basis row) * tableau.entry row column

def objective (tableau : Tableau K I J) (cost : J → K) : K :=
  ∑ row, cost (tableau.basis row) * tableau.rhs row

def IsBasic (tableau : Tableau K I J) (column : J) : Prop := ∃ row, tableau.basis row = column

/-- The rows are combinations of the rows of the system, and the basis has unit columns. -/
structure Represents (tableau : Tableau K I J) (system : System K I J) : Prop where
  rows : ∃ combination : Matrix I I K,
    (∀ row column, tableau.entry row column =
      ∑ other, combination row other * system.column column other) ∧
    ∀ row, tableau.rhs row = ∑ other, combination row other * system.bound other
  unit : ∀ row other, tableau.entry row (tableau.basis other) = if row = other then 1 else 0

variable {tableau other : Tableau K I J} {system : System K I J} {cost : J → K}
  {leaving : I} {entering : J}

omit [Fintype I] in
@[simp] theorem pivot_basis_self (tableau : Tableau K I J) (leaving : I) (entering : J) :
    (tableau.pivot leaving entering).basis leaving = entering :=
  Function.update_self ..

omit [Fintype I] in
@[simp] theorem pivot_basis_of_ne (tableau : Tableau K I J) (entering : J) {row : I}
    (different : row ≠ leaving) :
    (tableau.pivot leaving entering).basis row = tableau.basis row :=
  Function.update_of_ne different ..

section Represents

variable (represents : tableau.Represents system)
include represents

/-- A pivot keeps the system of equations. -/
theorem Represents.pivot (nonzero : tableau.entry leaving entering ≠ 0) :
    (tableau.pivot leaving entering).Represents system := by
  rcases represents.rows with ⟨combination, entries, bounds⟩
  constructor
  · refine ⟨fun row other =>
      if row = leaving then combination leaving other / tableau.entry leaving entering
      else combination row other - tableau.entry row entering *
        (combination leaving other / tableau.entry leaving entering), ?_, ?_⟩
    · intro row column
      by_cases isLeaving : row = leaving
      · simp only [Tableau.pivot, if_pos isLeaving, div_mul_eq_mul_div, ← Finset.sum_div,
          ← entries]
      · simp only [Tableau.pivot, if_neg isLeaving, sub_mul, mul_assoc, div_mul_eq_mul_div,
          Finset.sum_sub_distrib, ← Finset.mul_sum, ← Finset.sum_div, ← entries]
    · intro row
      by_cases isLeaving : row = leaving
      · simp only [Tableau.pivot, if_pos isLeaving, div_mul_eq_mul_div, ← Finset.sum_div,
          ← bounds]
      · simp only [Tableau.pivot, if_neg isLeaving, sub_mul, mul_assoc, div_mul_eq_mul_div,
          Finset.sum_sub_distrib, ← Finset.mul_sum, ← Finset.sum_div, ← bounds]
  · intro row other
    by_cases isEntering : other = leaving
    · subst isEntering
      simp only [Tableau.pivot, Function.update_self]
      split
      · exact div_self nonzero
      · rw [div_self nonzero, mul_one, sub_self]
    · have stays := represents.unit leaving other
      rw [if_neg (Ne.symm isEntering)] at stays
      simp only [Tableau.pivot, Function.update_of_ne isEntering, stays, zero_div, mul_zero,
        sub_zero]
      split
      next isLeaving =>
        rw [isLeaving, if_neg (Ne.symm isEntering)]
      next => exact represents.unit row other

theorem Represents.basis_injective : Function.Injective tableau.basis := by
  intro first second same
  have one := represents.unit first first
  rw [same, represents.unit first second] at one
  by_contra different
  rw [if_neg different, if_pos rfl] at one
  exact zero_ne_one one

theorem Represents.reducedCost_basis (row : I) :
    tableau.reducedCost cost (tableau.basis row) = 0 := by
  rw [reducedCost, Finset.sum_eq_single row]
  · rw [represents.unit, if_pos rfl, mul_one, sub_self]
  · intro other _ different
    rw [represents.unit, if_neg different, mul_zero]
  · intro absent
    exact absurd (Finset.mem_univ row) absent

theorem Represents.reducedCost_of_isBasic {column : J}
    (isBasic : tableau.IsBasic column) : tableau.reducedCost cost column = 0 := by
  rcases isBasic with ⟨row, rfl⟩
  exact represents.reducedCost_basis row

/-- Costs less reduced costs are linear in the columns, and the objective is the same linear form
of the right-hand side. -/
theorem Represents.exists_prices (cost : J → K) :
    ∃ price : I → K,
      (∀ column, cost column - tableau.reducedCost cost column =
        ∑ row, price row * system.column column row) ∧
      tableau.objective cost = ∑ row, price row * system.bound row := by
  rcases represents.rows with ⟨combination, entries, bounds⟩
  refine ⟨fun other => ∑ row, cost (tableau.basis row) * combination row other, ?_, ?_⟩
  · intro column
    rw [reducedCost, sub_sub_cancel]
    simp only [entries, Finset.sum_mul, Finset.mul_sum]
    rw [Finset.sum_comm]
    simp only [mul_assoc]
  · rw [objective]
    simp only [bounds, Finset.sum_mul, Finset.mul_sum]
    rw [Finset.sum_comm]
    simp only [mul_assoc]

/-! ### The basis as coordinates -/

theorem Represents.combine {combination : Matrix I I K}
    (entries : ∀ row column, tableau.entry row column =
      ∑ other, combination row other * system.column column other) (value : I → K) (other : I) :
    ∑ row, (∑ inner, combination row inner * value inner) *
      system.column (tableau.basis row) other = value other := by
  let basics : Matrix I I K := fun row column => system.column (tableau.basis column) row
  have isInverse : combination * basics = 1 := by
    ext row column
    rw [Matrix.mul_apply, Matrix.one_apply, ← represents.unit row column, entries]
  have isInverse' : basics * combination = 1 := mul_eq_one_comm.mp isInverse
  calc
    ∑ row, (∑ inner, combination row inner * value inner) *
        system.column (tableau.basis row) other =
      ∑ inner, (∑ row, basics other row * combination row inner) * value inner := by
        simp only [Finset.sum_mul]
        rw [Finset.sum_comm]
        refine Finset.sum_congr rfl fun inner _ => Finset.sum_congr rfl fun row _ => ?_
        show combination row inner * value inner * basics other row = _
        ring
    _ = ∑ inner, (1 : Matrix I I K) other inner * value inner := by
        simp only [← isInverse', Matrix.mul_apply]
    _ = value other := by
        simp only [Matrix.one_apply, ite_mul, one_mul, zero_mul, Finset.sum_ite_eq,
          Finset.mem_univ, if_true]

theorem Represents.column_eq (column : J) (other : I) :
    ∑ row, tableau.entry row column * system.column (tableau.basis row) other =
      system.column column other := by
  rcases represents.rows with ⟨combination, entries, _⟩
  simp only [entries]
  exact represents.combine entries (system.column column) other

theorem Represents.bound_eq (other : I) :
    ∑ row, tableau.rhs row * system.column (tableau.basis row) other = system.bound other := by
  rcases represents.rows with ⟨combination, entries, bounds⟩
  simp only [bounds]
  exact represents.combine entries system.bound other

theorem Represents.priced_column (price : I → K)
    (column : J) :
    ∑ row, tableau.entry row column *
        ∑ inner, price inner * system.column (tableau.basis row) inner =
      ∑ inner, price inner * system.column column inner := by
  simp only [Finset.mul_sum]
  rw [Finset.sum_comm]
  refine Finset.sum_congr rfl fun inner _ => ?_
  rw [← represents.column_eq column inner, Finset.mul_sum]
  exact Finset.sum_congr rfl fun row _ => mul_left_comm _ _ _

theorem Represents.priced_bound (price : I → K) :
    ∑ row, tableau.rhs row * ∑ inner, price inner * system.column (tableau.basis row) inner =
      ∑ inner, price inner * system.bound inner := by
  simp only [Finset.mul_sum]
  rw [Finset.sum_comm]
  refine Finset.sum_congr rfl fun inner _ => ?_
  rw [← represents.bound_eq inner, Finset.mul_sum]
  exact Finset.sum_congr rfl fun row _ => mul_left_comm _ _ _

theorem Represents.reducedCost_eq
    (represents' : other.Represents system) (cost : J → K) (column : J) :
    tableau.reducedCost cost column = other.reducedCost cost column -
      ∑ row, tableau.entry row column * other.reducedCost cost (tableau.basis row) := by
  rcases represents'.exists_prices cost with ⟨price, prices, _⟩
  have priced (column : J) : other.reducedCost cost column =
      cost column - ∑ row, price row * system.column column row := by
    rw [← prices, sub_sub_cancel]
  have commuted : ∑ row, tableau.entry row column * cost (tableau.basis row) =
      ∑ row, cost (tableau.basis row) * tableau.entry row column :=
    Finset.sum_congr rfl fun row _ => mul_comm _ _
  simp only [priced, mul_sub, Finset.sum_sub_distrib, represents.priced_column]
  rw [reducedCost, commuted]
  ring

theorem Represents.rhs_eq_of_basis_eq
    (represents' : other.Represents system) (same : tableau.basis = other.basis) :
    tableau.rhs = other.rhs := by
  rcases represents.rows with ⟨combination, entries, bounds⟩
  funext row
  rw [bounds]
  simp only [← represents'.bound_eq, Finset.mul_sum]
  rw [Finset.sum_comm]
  have unit (inner : I) : ∑ other_1, combination row other_1 *
      (other.rhs inner * system.column (other.basis inner) other_1) =
        other.rhs inner * if row = inner then 1 else 0 := by
    rw [← represents.unit row inner, same, entries, Finset.mul_sum]
    exact Finset.sum_congr rfl fun _ _ => mul_left_comm _ _ _
  simp only [unit, mul_ite, mul_one, mul_zero, Finset.sum_ite_eq, Finset.mem_univ, if_true]

end Represents

omit [Fintype I] in
theorem pivot_pivot (nonzero : tableau.entry leaving entering ≠ 0)
    (unit : ∀ row, tableau.entry row (tableau.basis leaving) = if row = leaving then 1 else 0) :
    (tableau.pivot leaving entering).pivot leaving (tableau.basis leaving) = tableau := by
  have pivotal : (tableau.pivot leaving entering).entry leaving (tableau.basis leaving) =
      1 / tableau.entry leaving entering := by
    simp only [Tableau.pivot, unit, if_true]
  have other (row : I) (different : row ≠ leaving) :
      (tableau.pivot leaving entering).entry row (tableau.basis leaving) =
        -(tableau.entry row entering / tableau.entry leaving entering) := by
    simp only [Tableau.pivot, unit, if_neg different, if_true, zero_sub, mul_one_div]
  ext row column
  case basis =>
    by_cases isLeaving : row = leaving
    · rw [isLeaving, pivot_basis_self]
    · rw [pivot_basis_of_ne _ _ isLeaving, pivot_basis_of_ne _ _ isLeaving]
  all_goals
    by_cases isLeaving : row = leaving
    · rw [isLeaving, Tableau.pivot, pivotal]
      simp only [Tableau.pivot, if_true]
      field_simp
    · rw [Tableau.pivot]
      simp only [if_neg isLeaving]
      rw [pivotal, other row isLeaving]
      simp only [Tableau.pivot, if_neg isLeaving, if_true]
      field_simp
      ring

/-- The costs of a column, when the entering column takes its place in the basis. -/
theorem sum_pivot (cost : J → K) (nonzero : tableau.entry leaving entering ≠ 0) (values : I → K) :
    ∑ row, cost ((tableau.pivot leaving entering).basis row) *
        (if row = leaving then values leaving / tableau.entry leaving entering
        else values row -
          tableau.entry row entering * (values leaving / tableau.entry leaving entering)) =
      ∑ row, cost (tableau.basis row) * values row +
        values leaving / tableau.entry leaving entering * tableau.reducedCost cost entering := by
  have term (row : I) : cost ((tableau.pivot leaving entering).basis row) *
        (if row = leaving then values leaving / tableau.entry leaving entering
        else values row -
          tableau.entry row entering * (values leaving / tableau.entry leaving entering)) =
      cost (tableau.basis row) * values row -
        values leaving / tableau.entry leaving entering *
          (cost (tableau.basis row) * tableau.entry row entering) +
        if row = leaving then
          values leaving / tableau.entry leaving entering * cost entering
        else 0 := by
    by_cases isLeaving : row = leaving
    · subst isLeaving
      rw [pivot_basis_self, if_pos rfl, if_pos rfl]
      field_simp
      ring
    · rw [pivot_basis_of_ne _ _ isLeaving, if_neg isLeaving, if_neg isLeaving]
      ring
  simp only [reducedCost, term, Finset.sum_add_distrib, Finset.sum_sub_distrib, ← Finset.mul_sum,
    Finset.sum_ite_eq', Finset.mem_univ, if_true]
  ring

theorem reducedCost_pivot (cost : J → K) (nonzero : tableau.entry leaving entering ≠ 0)
    (column : J) :
    (tableau.pivot leaving entering).reducedCost cost column =
      tableau.reducedCost cost column - tableau.reducedCost cost entering *
        (tableau.entry leaving column / tableau.entry leaving entering) := by
  have costs := sum_pivot cost nonzero (tableau.entry · column)
  rw [reducedCost, reducedCost]
  simp only [Tableau.pivot] at costs ⊢
  rw [costs]
  ring

theorem objective_pivot (cost : J → K)
    (nonzero : tableau.entry leaving entering ≠ 0) :
    (tableau.pivot leaving entering).objective cost = tableau.objective cost +
      tableau.rhs leaving / tableau.entry leaving entering *
        tableau.reducedCost cost entering :=
  sum_pivot cost nonzero tableau.rhs

variable [DecidableEq J]

def value (tableau : Tableau K I J) (column : J) : K :=
  ∑ row, if tableau.basis row = column then tableau.rhs row else 0

theorem Represents.value_basis (represents : tableau.Represents system) (row : I) :
    tableau.value (tableau.basis row) = tableau.rhs row := by
  rw [value]
  simp only [represents.basis_injective.eq_iff, Finset.sum_ite_eq', Finset.mem_univ, if_true]

omit [DecidableEq I] in
theorem value_of_not_isBasic {column : J} (notBasic : ¬ tableau.IsBasic column) :
    tableau.value column = 0 := by
  rw [value]
  refine Finset.sum_eq_zero fun row _ => ?_
  rw [if_neg fun same => notBasic ⟨row, same⟩]

theorem value_pivot_of_degenerate (degenerate : tableau.rhs leaving = 0) :
    (tableau.pivot leaving entering).value = tableau.value := by
  funext column
  refine Finset.sum_congr rfl fun row _ => ?_
  by_cases isLeaving : row = leaving
  · simp only [Tableau.pivot, isLeaving, if_true, degenerate, zero_div, ite_self]
  · simp only [Tableau.pivot, Function.update_of_ne isLeaving, if_neg isLeaving, degenerate,
      zero_div, mul_zero, sub_zero]

end Tableau

section Order

variable [LinearOrder K] [LinearOrder J]

namespace Tableau

variable {tableau other : Tableau K I J} {system : System K I J} {cost : J → K}
  {allowed : J → Prop} {leaving : I} {entering : J}

def Feasible (tableau : Tableau K I J) : Prop := ∀ row, 0 ≤ tableau.rhs row

/-- The row with the least ratio, and of these the one with the least column in the basis. -/
structure IsLeaving (tableau : Tableau K I J) (entering : J) (leaving : I) : Prop where
  positive : 0 < tableau.entry leaving entering
  least : ∀ row, 0 < tableau.entry row entering →
    tableau.rhs leaving / tableau.entry leaving entering ≤
      tableau.rhs row / tableau.entry row entering
  first : ∀ row, 0 < tableau.entry row entering →
    tableau.rhs row / tableau.entry row entering =
      tableau.rhs leaving / tableau.entry leaving entering →
    tableau.basis leaving ≤ tableau.basis row

/-- The first allowed column outside the basis with a negative reduced cost. -/
structure IsEntering (tableau : Tableau K I J) (cost : J → K) (allowed : J → Prop)
    (entering : J) : Prop where
  isAllowed : allowed entering
  notBasic : ¬ tableau.IsBasic entering
  negative : tableau.reducedCost cost entering < 0
  first : ∀ column < entering, allowed column → ¬ tableau.IsBasic column →
    0 ≤ tableau.reducedCost cost column

omit [DecidableEq I] in
theorem IsEntering.unique {first second : J}
    (isFirst : tableau.IsEntering cost allowed first)
    (isSecond : tableau.IsEntering cost allowed second) : first = second := by
  rcases lt_trichotomy first second with less | same | more
  · exact absurd isFirst.negative
      (not_lt.mpr (isSecond.first first less isFirst.isAllowed isFirst.notBasic))
  · exact same
  · exact absurd isSecond.negative
      (not_lt.mpr (isFirst.first second more isSecond.isAllowed isSecond.notBasic))

omit [Fintype I] [DecidableEq I] in
theorem IsLeaving.unique {first second : I} (injective : Function.Injective tableau.basis)
    (isFirst : tableau.IsLeaving entering first)
    (isSecond : tableau.IsLeaving entering second) : first = second := by
  have tied := le_antisymm (isFirst.least second isSecond.positive)
    (isSecond.least first isFirst.positive)
  exact injective (le_antisymm (isFirst.first second isSecond.positive tied.symm)
    (isSecond.first first isFirst.positive tied))

structure BlandStep (cost : J → K) (allowed : J → Prop) (tableau next : Tableau K I J)
    (entering : J) (leaving : I) : Prop where
  isEntering : tableau.IsEntering cost allowed entering
  isLeaving : tableau.IsLeaving entering leaving
  next : next = tableau.pivot leaving entering

theorem BlandStep.eq_of_enters {next : Tableau K I J} {column : J}
    (step : BlandStep cost allowed tableau next entering leaving)
    (out : ¬ tableau.IsBasic column) (isIn : next.IsBasic column) : column = entering := by
  rcases isIn with ⟨row, isColumn⟩
  rw [step.next] at isColumn
  by_cases isLeaving : row = leaving
  · rw [← isColumn, isLeaving, pivot_basis_self]
  · rw [pivot_basis_of_ne _ _ isLeaving] at isColumn
    exact absurd ⟨row, isColumn⟩ out

theorem BlandStep.eq_of_leaves {next : Tableau K I J} {column : J}
    (step : BlandStep cost allowed tableau next entering leaving)
    (isIn : tableau.IsBasic column) (out : ¬ next.IsBasic column) :
    column = tableau.basis leaving := by
  rcases isIn with ⟨row, isColumn⟩
  by_cases isLeaving : row = leaving
  · rw [← isColumn, isLeaving]
  · apply absurd _ out
    rw [step.next, ← isColumn]
    exact ⟨row, pivot_basis_of_ne _ _ isLeaving⟩

variable [IsStrictOrderedRing K]

omit [Fintype I] in
/-- A pivot by the ratio test keeps the point feasible. -/
theorem Feasible.pivot (feasible : tableau.Feasible)
    (isLeaving : tableau.IsLeaving entering leaving) :
    (tableau.pivot leaving entering).Feasible := by
  have ratioNonneg : 0 ≤ tableau.rhs leaving / tableau.entry leaving entering :=
    div_nonneg (feasible leaving) isLeaving.positive.le
  intro row
  by_cases same : row = leaving
  · simp only [Tableau.pivot, if_pos same]
    exact ratioNonneg
  · simp only [Tableau.pivot, if_neg same]
    rcases lt_or_ge 0 (tableau.entry row entering) with positive | nonpositive
    · have bounded := isLeaving.least row positive
      rw [le_div_iff₀' positive] at bounded
      exact sub_nonneg.mpr bounded
    · have small := mul_nonpos_of_nonpos_of_nonneg nonpositive ratioNonneg
      linarith [feasible row]

omit [LinearOrder J] in
theorem Represents.exists_positive (represents : tableau.Represents system)
    (nonneg : ∀ column row, 0 ≤ system.column column row) {column : J} {row : I}
    (positive : 0 < system.column column row) :
    ∃ candidate, 0 < tableau.entry candidate column := by
  by_contra none
  rw [not_exists] at none
  rw [← represents.column_eq column row] at positive
  apply not_le.mpr positive
  refine Finset.sum_nonpos fun candidate _ => ?_
  exact mul_nonpos_of_nonpos_of_nonneg (not_lt.mp (none candidate)) (nonneg _ _)

omit [LinearOrder J] in
theorem Represents.priced_le_objective (represents : tableau.Represents system)
    (feasible : tableau.Feasible) (price : I → K)
    (below : ∀ row, ∑ inner, price inner * system.column (tableau.basis row) inner ≤
      cost (tableau.basis row)) :
    ∑ inner, price inner * system.bound inner ≤ tableau.objective cost := by
  rw [← represents.priced_bound price, objective]
  refine Finset.sum_le_sum fun row _ => ?_
  rw [mul_comm]
  exact mul_le_mul_of_nonneg_right (below row) (feasible row)

/-- A column does not leave if some prices single it out: positive for it alone in the basis, not
positive for the entering column, not negative for the right-hand side, and negative only for
lower columns. -/
theorem IsLeaving.not_singled_out (isLeaving : tableau.IsLeaving entering leaving)
    (represents : tableau.Represents system) (feasible : tableau.Feasible) (price : I → K)
    (selected : 0 < ∑ inner, price inner * system.column (tableau.basis leaving) inner)
    (others : ∀ row, row ≠ leaving →
      ∑ inner, price inner * system.column (tableau.basis row) inner ≤ 0)
    (enters : ∑ inner, price inner * system.column entering inner ≤ 0)
    (bounded : 0 ≤ ∑ inner, price inner * system.bound inner)
    (lower : ∀ row, ∑ inner, price inner * system.column (tableau.basis row) inner < 0 →
      tableau.basis row < tableau.basis leaving) : False := by
  rw [← represents.priced_column price entering] at enters
  rw [← represents.priced_bound price] at bounded
  have positive := isLeaving.positive
  have named : ∃ weight : I → K, ∀ row,
      ∑ inner, price inner * system.column (tableau.basis row) inner = weight row :=
    ⟨_, fun _ => rfl⟩
  rcases named with ⟨weight, weights⟩
  simp only [weights] at selected others enters bounded lower
  let ratio := tableau.rhs leaving / tableau.entry leaving entering
  have ratioNonneg : 0 ≤ ratio := div_nonneg (feasible leaving) positive.le
  -- after the pivot the others would hold what the bound asks of them, and that is nothing
  have left (row : I) (different : row ≠ leaving) :
      0 ≤ tableau.rhs row - tableau.entry row entering * ratio := by
    have stays := feasible.pivot isLeaving row
    simp only [Tableau.pivot, if_neg different] at stays
    exact stays
  have noRest : (tableau.rhs leaving - tableau.entry leaving entering * ratio) *
      weight leaving = 0 := by
    rw [mul_div_cancel₀ _ positive.ne', sub_self, zero_mul]
  have terms (row : I) :
      (tableau.rhs row - tableau.entry row entering * ratio) * weight row ≤ 0 := by
    by_cases different : row = leaving
    · rw [different, noRest]
    · exact mul_nonpos_of_nonneg_of_nonpos (left row different) (others row different)
  have sum : 0 ≤ ∑ row, (tableau.rhs row - tableau.entry row entering * ratio) * weight row := by
    have expand : ∑ row, (tableau.rhs row - tableau.entry row entering * ratio) * weight row =
        (∑ row, tableau.rhs row * weight row) -
          ratio * ∑ row, tableau.entry row entering * weight row := by
      rw [Finset.mul_sum, ← Finset.sum_sub_distrib]
      exact Finset.sum_congr rfl fun row _ => by ring
    rw [expand]
    have small := mul_nonpos_of_nonneg_of_nonpos ratioNonneg enters
    linarith
  have zero (row : I) :
      (tableau.rhs row - tableau.entry row entering * ratio) * weight row = 0 := by
    have isZero := (Finset.sum_eq_zero_iff_of_nonpos fun row _ => terms row).mp
      (le_antisymm (Finset.sum_nonpos fun row _ => terms row) sum)
    exact isZero row (Finset.mem_univ row)
  -- some lower column gives way to the entering one, and ties
  have exists_tied : ∃ row, tableau.entry row entering * weight row < 0 := by
    by_contra none
    rw [not_exists] at none
    apply not_le.mpr (mul_pos positive selected)
    exact (Finset.single_le_sum (fun row _ => not_lt.mp (none row))
      (Finset.mem_univ leaving)).trans enters
  rcases exists_tied with ⟨row, gives⟩
  have different : row ≠ leaving := by
    rintro rfl
    exact absurd gives (not_lt.mpr (mul_pos positive selected).le)
  have negative : weight row < 0 := by
    refine lt_of_le_of_ne (others row different) fun isZero => ?_
    rw [isZero, mul_zero] at gives
    exact lt_irrefl 0 gives
  have candidate : 0 < tableau.entry row entering :=
    pos_of_mul_neg_left gives negative.le
  have tied : tableau.rhs row / tableau.entry row entering = ratio := by
    rcases mul_eq_zero.mp (zero row) with same | isZero
    · rw [div_eq_iff candidate.ne', mul_comm]
      exact sub_eq_zero.mp same
    · exact absurd isZero negative.ne
  exact absurd (lower row negative) (not_lt.mpr (isLeaving.first row candidate tied))

end Tableau

/-! ### Runs by Bland's rule -/

variable [IsStrictOrderedRing K]

open Tableau

structure BlandRun (system : System K I J) (cost : J → K) (allowed : J → Prop)
    (run : ℕ → Tableau K I J) (first last : ℕ) : Prop where
  represents : ∀ time, first ≤ time → time ≤ last → (run time).Represents system
  feasible : ∀ time, first ≤ time → time ≤ last → (run time).Feasible
  step : ∀ time, first ≤ time → time < last →
    ∃ entering leaving, BlandStep cost allowed (run time) (run (time + 1)) entering leaving

theorem exists_stop {holds : ℕ → Prop} {first last : ℕ} (isBefore : first ≤ last)
    (atFirst : holds first) (atLast : ¬ holds last) :
    ∃ time, first ≤ time ∧ time < last ∧ holds time ∧ ¬ holds (time + 1) := by
  induction last, isBefore using Nat.le_induction with
  | base => exact absurd atFirst atLast
  | succ last isBefore ih =>
    by_cases atMiddle : holds last
    · exact ⟨last, isBefore, Nat.lt_succ_self last, atMiddle, atLast⟩
    · rcases ih atMiddle with ⟨time, after, before, found⟩
      exact ⟨time, after, Nat.lt_succ_of_lt before, found⟩

theorem exists_stop_start {holds : ℕ → Prop} {first last : ℕ}
    (sameEnds : holds first ↔ holds last)
    (someTime : ∃ time, first ≤ time ∧ time ≤ last ∧ holds time)
    (otherTime : ∃ time, first ≤ time ∧ time ≤ last ∧ ¬ holds time) :
    (∃ time, first ≤ time ∧ time < last ∧ holds time ∧ ¬ holds (time + 1)) ∧
    ∃ time, first ≤ time ∧ time < last ∧ ¬ holds time ∧ holds (time + 1) := by
  rcases someTime with ⟨inside, afterInside, beforeInside, isIn⟩
  rcases otherTime with ⟨outside, afterOutside, beforeOutside, isOut⟩
  have stops {start finish : ℕ} (inOrder : start ≤ finish) (after : first ≤ start)
      (before : finish ≤ last) (atStart : holds start) (atFinish : ¬ holds finish) :
      ∃ time, first ≤ time ∧ time < last ∧ holds time ∧ ¬ holds (time + 1) := by
    rcases exists_stop inOrder atStart atFinish with ⟨time, afterStart, beforeFinish, found⟩
    exact ⟨time, after.trans afterStart, beforeFinish.trans_le before, found⟩
  have starts {start finish : ℕ} (inOrder : start ≤ finish) (after : first ≤ start)
      (before : finish ≤ last) (atStart : ¬ holds start) (atFinish : holds finish) :
      ∃ time, first ≤ time ∧ time < last ∧ ¬ holds time ∧ holds (time + 1) := by
    rcases @exists_stop (fun time => ¬ holds time) _ _ inOrder atStart (not_not_intro atFinish)
      with ⟨time, afterStart, beforeFinish, out, back⟩
    exact ⟨time, after.trans afterStart, beforeFinish.trans_le before, out, not_not.mp back⟩
  by_cases atFirst : holds first
  · exact ⟨stops afterOutside le_rfl beforeOutside atFirst isOut,
      starts beforeOutside afterOutside le_rfl isOut (sameEnds.mp atFirst)⟩
  · have atLast : ¬ holds last := fun atLast => atFirst (sameEnds.mpr atLast)
    exact ⟨stops beforeInside afterInside le_rfl isIn atLast,
      starts afterInside le_rfl beforeInside atFirst isIn⟩

namespace BlandRun

variable {system : System K I J} {cost : J → K} {allowed : J → Prop} {run : ℕ → Tableau K I J}
  {first last : ℕ}

theorem objective_le (blandRun : BlandRun system cost allowed run first last) {time later : ℕ}
    (after : first ≤ time) (isBefore : time ≤ later) (inRun : later ≤ last) :
    (run later).objective cost ≤ (run time).objective cost := by
  induction later, isBefore using Nat.le_induction with
  | base => exact le_rfl
  | succ later isBefore ih =>
    have afterFirst := after.trans isBefore
    rcases blandRun.step later afterFirst inRun with ⟨entering, leaving, step⟩
    have ratioNonneg := div_nonneg
      (blandRun.feasible later afterFirst (Nat.le_of_succ_le inRun) leaving)
      step.isLeaving.positive.le
    have change := mul_nonpos_of_nonneg_of_nonpos ratioNonneg step.isEntering.negative.le
    rw [step.next, objective_pivot cost step.isLeaving.positive.ne']
    linarith [ih (Nat.le_of_succ_le inRun)]

/-- Along a run that returns to its first basis, every pivot is on a row of value zero. -/
theorem degenerate (blandRun : BlandRun system cost allowed run first last)
    (isBefore : first ≤ last) (returns : (run first).basis = (run last).basis) {time : ℕ}
    (after : first ≤ time) (before : time < last) {entering : J} {leaving : I}
    (step : BlandStep cost allowed (run time) (run (time + 1)) entering leaving) :
    (run time).rhs leaving = 0 := by
  have sameRhs := (blandRun.represents first le_rfl isBefore).rhs_eq_of_basis_eq
    (blandRun.represents last isBefore le_rfl) returns
  have sameObjective : (run first).objective cost = (run last).objective cost := by
    simp only [objective, returns, sameRhs]
  have fromFirst := blandRun.objective_le le_rfl after before.le
  have toLast := blandRun.objective_le (Nat.le_succ_of_le after) before le_rfl
  rw [step.next, objective_pivot cost step.isLeaving.positive.ne'] at toLast
  have noGain : 0 ≤ (run time).rhs leaving / (run time).entry leaving entering *
      (run time).reducedCost cost entering := by linarith
  have ratio := nonpos_of_mul_nonneg_left noGain step.isEntering.negative
  rw [div_le_iff₀ step.isLeaving.positive, zero_mul] at ratio
  exact le_antisymm ratio (blandRun.feasible time after before.le leaving)

theorem value_eq (blandRun : BlandRun system cost allowed run first last)
    (isBefore : first ≤ last) (returns : (run first).basis = (run last).basis) {time : ℕ}
    (after : first ≤ time) (inRun : time ≤ last) : (run time).value = (run first).value := by
  induction time, after using Nat.le_induction with
  | base => rfl
  | succ time after ih =>
    rcases blandRun.step time after inRun with ⟨entering, leaving, step⟩
    rw [step.next, value_pivot_of_degenerate
      (blandRun.degenerate isBefore returns after inRun step)]
    exact ih (Nat.le_of_succ_le inRun)

/-- A column that is in the basis at one time of the stretch and outside it at another. -/
def Fickle (run : ℕ → Tableau K I J) (first last : ℕ) (column : J) : Prop :=
  (∃ time, first ≤ time ∧ time ≤ last ∧ (run time).IsBasic column) ∧
    ∃ time, first ≤ time ∧ time ≤ last ∧ ¬ (run time).IsBasic column

/-- A run by Bland's rule meets no basis twice. Where the greatest fickle column leaves, the
entering column is priced against the tableau where it enters again: no term is negative. -/
theorem basis_ne [Finite J] (blandRun : BlandRun system cost allowed run first last)
    (isBefore : first < last) : (run first).basis ≠ (run last).basis := by
  intro returns
  have leave_enter {column : J} (fickle : Fickle run first last column) :=
    exists_stop_start (iff_of_eq (by rw [IsBasic, IsBasic, returns])) fickle.1 fickle.2
  -- the column that enters first is fickle
  have someFickle : {column | Fickle run first last column}.Nonempty := by
    rcases blandRun.step first le_rfl isBefore with ⟨entering, leaving, step⟩
    refine ⟨entering, ⟨first + 1, Nat.le_succ first, isBefore, leaving, ?_⟩,
      first, le_rfl, isBefore.le, step.isEntering.notBasic⟩
    rw [step.next]
    exact pivot_basis_self ..
  rcases Set.exists_max_image _ id (Set.toFinite _) someFickle with ⟨top, topFickle, greatest⟩
  rcases leave_enter topFickle with ⟨⟨leaves, afterLeaves, beforeLeaves, topIn, topOut⟩,
    ⟨enters, afterEnters, beforeEnters, topAbsent, topEnters⟩⟩
  rcases blandRun.step leaves afterLeaves beforeLeaves with ⟨entering, leaving, leaveStep⟩
  rcases blandRun.step enters afterEnters beforeEnters with ⟨entering', leaving', enterStep⟩
  obtain rfl := enterStep.eq_of_enters topAbsent topEnters
  have isTop := leaveStep.eq_of_leaves topIn topOut
  have represents := blandRun.represents leaves afterLeaves beforeLeaves.le
  have represents' := blandRun.represents enters afterEnters beforeEnters.le
  -- where `top` enters, every other fickle column has a reduced cost of at least zero
  have priced {column : J} (fickle : Fickle run first last column) (different : column ≠ top) :
      0 ≤ (run enters).reducedCost cost column := by
    by_cases isBasic : (run enters).IsBasic column
    · exact (represents'.reducedCost_of_isBasic isBasic).ge
    · rcases (leave_enter fickle).2 with ⟨time, after, before, out, back⟩
      rcases blandRun.step time after before with ⟨column', _, step⟩
      obtain rfl := step.eq_of_enters out back
      exact enterStep.isEntering.first column (lt_of_le_of_ne (greatest column fickle) different)
        step.isEntering.isAllowed isBasic
  have enteringFickle : Fickle run first last entering := by
    refine ⟨⟨leaves + 1, Nat.le_succ_of_le afterLeaves, beforeLeaves, leaving, ?_⟩,
      leaves, afterLeaves, beforeLeaves.le, leaveStep.isEntering.notBasic⟩
    rw [leaveStep.next]
    exact pivot_basis_self ..
  have enteringPriced : 0 ≤ (run enters).reducedCost cost entering :=
    priced enteringFickle fun same => leaveStep.isEntering.notBasic (same ▸ topIn)
  have terms (row : I) : (run leaves).entry row entering *
      (run enters).reducedCost cost ((run leaves).basis row) ≤ 0 := by
    by_cases isLeaving : (run leaves).basis row = top
    · rw [isLeaving]
      have isRow : row = leaving := represents.basis_injective (isLeaving.trans isTop)
      rw [isRow]
      exact mul_nonpos_of_nonneg_of_nonpos leaveStep.isLeaving.positive.le
        enterStep.isEntering.negative.le
    · by_cases stays : (run enters).IsBasic ((run leaves).basis row)
      · rw [represents'.reducedCost_of_isBasic stays, mul_zero]
      · have fickle : Fickle run first last ((run leaves).basis row) :=
          ⟨⟨leaves, afterLeaves, beforeLeaves.le, row, rfl⟩,
            enters, afterEnters, beforeEnters.le, stays⟩
        apply mul_nonpos_of_nonpos_of_nonneg _ (priced fickle isLeaving)
        -- a positive entry would tie with the leaving row and come before it
        by_contra positive
        rw [not_le] at positive
        have zero : (run leaves).rhs row = 0 := by
          rw [← represents.value_basis row,
            blandRun.value_eq isBefore.le returns afterLeaves beforeLeaves.le,
            ← blandRun.value_eq isBefore.le returns afterEnters beforeEnters.le]
          exact value_of_not_isBasic stays
        have zeroLeaving := blandRun.degenerate isBefore.le returns afterLeaves beforeLeaves
          leaveStep
        have tie := leaveStep.isLeaving.first row positive (by rw [zero, zeroLeaving]; simp)
        rw [← isTop] at tie
        exact isLeaving (le_antisymm (greatest _ fickle) tie)
  have negative := leaveStep.isEntering.negative
  rw [represents.reducedCost_eq represents' cost entering] at negative
  have sum := Finset.sum_nonpos fun row (_ : row ∈ Finset.univ) => terms row
  linarith

theorem length_lt [Fintype J] {length : ℕ}
    (blandRun : BlandRun system cost allowed run 0 length) :
    length < Fintype.card J ^ Fintype.card I := by
  by_contra long
  rw [not_lt] at long
  have fewer : Fintype.card (I → J) < Fintype.card (Fin (length + 1)) := by
    rw [Fintype.card_fun, Fintype.card_fin]
    exact Nat.lt_succ_of_le long
  rcases Fintype.exists_ne_map_eq_of_card_lt (fun time : Fin (length + 1) => (run time).basis)
    fewer with ⟨first, last, different, same⟩
  have stretch {first last : Fin (length + 1)} (inOrder : first < last) :
      (run first).basis ≠ (run last).basis := by
    have inRun := Nat.le_of_lt_succ last.isLt
    have part : BlandRun system cost allowed run first last :=
      ⟨fun time _ before => blandRun.represents time (Nat.zero_le time) (before.trans inRun),
        fun time _ before => blandRun.feasible time (Nat.zero_le time) (before.trans inRun),
        fun time _ before => blandRun.step time (Nat.zero_le time) (before.trans_le inRun)⟩
    exact part.basis_ne inOrder
  rcases lt_or_gt_of_ne different with inOrder | inOrder
  · exact stretch inOrder same
  · exact stretch inOrder same.symm

end BlandRun

end Order

end GhostArk.Lib.Simplex
