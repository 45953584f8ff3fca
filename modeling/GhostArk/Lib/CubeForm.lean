import Mathlib.Algebra.BigOperators.Ring.Finset
import Mathlib.Algebra.Order.BigOperators.Group.Finset
import Mathlib.Algebra.Order.Ring.Defs
import Mathlib.Data.Fintype.Lattice
import Mathlib.Tactic.Linarith
import Mathlib.Tactic.Ring

/-!
Contract: affine forms on the unit cube.

Owns evaluation, reflection at the centre, and the bounds that values at the vertices give
inside the cube: the greatest value is at a vertex, and the Fréchet bounds for forms below
or above the indicator of the vertices other than the origin, or of the last vertex alone.
-/

namespace GhostArk.Lib

structure CubeForm (K ι : Type*) where
  constant : K
  coefficient : ι → K

namespace CubeForm

variable {K ι : Type*} [Fintype ι]

section Ring

variable [CommRing K]

def eval (form : CubeForm K ι) (point : ι → K) : K :=
  form.constant + ∑ index, form.coefficient index * point index

def reflect (form : CubeForm K ι) : CubeForm K ι where
  constant := form.constant + ∑ index, form.coefficient index
  coefficient := fun index => -form.coefficient index

theorem eval_reflect (form : CubeForm K ι) (point : ι → K) :
    form.reflect.eval point = form.eval fun index => 1 - point index := by
  simp only [eval, reflect, neg_mul, mul_sub, mul_one, Finset.sum_sub_distrib,
    Finset.sum_neg_distrib]
  ring

def complement (form : CubeForm K ι) : CubeForm K ι where
  constant := 1 - form.constant
  coefficient := fun index => -form.coefficient index

theorem eval_complement (form : CubeForm K ι) (point : ι → K) :
    form.complement.eval point = 1 - form.eval point := by
  simp only [eval, complement, neg_mul, Finset.sum_neg_distrib]
  ring

def neg (form : CubeForm K ι) : CubeForm K ι where
  constant := -form.constant
  coefficient := fun index => -form.coefficient index

theorem eval_neg (form : CubeForm K ι) (point : ι → K) : form.neg.eval point = -form.eval point := by
  simp only [eval, neg, neg_mul, Finset.sum_neg_distrib]
  ring

def coordinate [DecidableEq ι] (index : ι) : CubeForm K ι := ⟨0, Pi.single index 1⟩

theorem eval_coordinate [DecidableEq ι] (index : ι) (point : ι → K) :
    (coordinate index : CubeForm K ι).eval point = point index := by
  simp only [eval, coordinate, Pi.single_apply, ite_mul, one_mul, zero_mul, Finset.sum_ite_eq',
    Finset.mem_univ, if_true, zero_add]

/-- The form that adds a constant to the sum of the coordinates. -/
def total (constant : K) : CubeForm K ι := ⟨constant, fun _ => 1⟩

theorem eval_total (constant : K) (point : ι → K) :
    (total constant : CubeForm K ι).eval point = constant + ∑ index, point index := by
  simp only [eval, total, one_mul]

def const (constant : K) : CubeForm K ι := ⟨constant, fun _ => 0⟩

theorem eval_const (constant : K) (point : ι → K) :
    (const constant : CubeForm K ι).eval point = constant := by
  simp only [eval, const, zero_mul, Finset.sum_const_zero, add_zero]

theorem eval_zero (form : CubeForm K ι) : form.eval (fun _ => 0) = form.constant := by
  simp only [eval, mul_zero, Finset.sum_const_zero, add_zero]

theorem eval_update [DecidableEq ι] (form : CubeForm K ι) (point : ι → K) (index : ι) (value : K) :
    form.eval (Function.update point index value) =
      form.eval point + form.coefficient index * (value - point index) := by
  have change : ∑ other, form.coefficient other *
      (Function.update point index value other - point other) =
        form.coefficient index * (value - point index) := by
    rw [Finset.sum_eq_single index]
    · rw [Function.update_self]
    · intro other _ different
      rw [Function.update_of_ne different, sub_self, mul_zero]
    · intro absent
      exact absurd (Finset.mem_univ index) absent
  rw [← change]
  simp only [eval, mul_sub, Finset.sum_sub_distrib]
  ring

def IsVertex (point : ι → K) : Prop := ∀ index, point index = 0 ∨ point index = 1

omit [Fintype ι] in
theorem IsVertex.reflect {vertex : ι → K} (isVertex : IsVertex vertex) :
    IsVertex fun index => 1 - vertex index := by
  intro index
  rcases isVertex index with zero | one
  · exact Or.inr (sub_eq_self.mpr zero)
  · exact Or.inl (sub_eq_zero.mpr one.symm)

end Ring

variable [CommRing K] [LinearOrder K] [IsStrictOrderedRing K]

def InCube (point : ι → K) : Prop := ∀ index, 0 ≤ point index ∧ point index ≤ 1

variable {form : CubeForm K ι} {point : ι → K}

omit [Fintype ι] in
theorem InCube.reflect (inCube : InCube point) : InCube fun index => 1 - point index := by
  intro index
  exact ⟨sub_nonneg.mpr (inCube index).2, sub_le_self 1 (inCube index).1⟩

def topVertex (form : CubeForm K ι) (index : ι) : K :=
  if 0 ≤ form.coefficient index then 1 else 0

omit [Fintype ι] [IsStrictOrderedRing K] in
theorem isVertex_topVertex (form : CubeForm K ι) : IsVertex form.topVertex := by
  intro index
  rw [topVertex]
  split
  · exact Or.inr rfl
  · exact Or.inl rfl

omit [Fintype ι] in
theorem coefficient_mul_le (form : CubeForm K ι) {most value : K} (index : ι)
    (nonneg : 0 ≤ value) (atMost : value ≤ most) :
    form.coefficient index * value ≤ most * (form.coefficient index * form.topVertex index) := by
  rw [topVertex]
  split
  next isPositive =>
    rw [mul_one, mul_comm]
    exact mul_le_mul_of_nonneg_right atMost isPositive
  next isNegative =>
    rw [mul_zero, mul_zero]
    exact mul_nonpos_of_nonpos_of_nonneg (not_le.mp isNegative).le nonneg

theorem eval_le_share (form : CubeForm K ι) {most : K} (nonneg : ∀ index, 0 ≤ point index)
    (atMost : ∀ index, point index ≤ most) :
    form.eval point ≤ form.constant + most * (form.eval form.topVertex - form.constant) := by
  simp only [eval, add_sub_cancel_left, Finset.mul_sum]
  apply add_le_add_right
  exact Finset.sum_le_sum fun index _ =>
    form.coefficient_mul_le index (nonneg index) (atMost index)

theorem eval_le_topVertex (form : CubeForm K ι) (inCube : InCube point) :
    form.eval point ≤ form.eval form.topVertex := by
  have share := form.eval_le_share (fun index => (inCube index).1) fun index => (inCube index).2
  rw [one_mul, add_sub_cancel] at share
  exact share

/-! ### Forms and indicators -/

/-- A form that is at most one at the vertices and at most zero at the origin is at most the
greatest coordinate. -/
theorem eval_le_greatest {most : K} (inCube : InCube point) (atMost : ∀ index, point index ≤ most)
    (isShare : 0 ≤ most) (isShare' : most ≤ 1)
    (vertices : ∀ vertex, IsVertex vertex → form.eval vertex ≤ 1) (origin : form.constant ≤ 0) :
    form.eval point ≤ most := by
  have share := form.eval_le_share (fun index => (inCube index).1) atMost
  have top := mul_le_mul_of_nonneg_left (vertices _ form.isVertex_topVertex) isShare
  have rest := mul_nonpos_of_nonneg_of_nonpos (sub_nonneg.mpr isShare') origin
  linarith

theorem eval_lt_one (inCube : InCube point) (notOne : ∀ index, point index ≠ 1)
    (vertices : ∀ vertex, IsVertex vertex → form.eval vertex ≤ 1) (origin : form.constant ≤ 0) :
    form.eval point < 1 := by
  by_cases isEmpty : IsEmpty ι
  · have alone : form.eval point = form.constant := by
      rw [eval, Finset.univ_eq_empty, Finset.sum_empty, add_zero]
    rw [alone]
    exact origin.trans_lt zero_lt_one
  · rw [not_isEmpty_iff] at isEmpty
    rcases Finite.exists_max point with ⟨greatest, atMost⟩
    have below := eval_le_greatest inCube atMost (inCube greatest).1 (inCube greatest).2 vertices
      origin
    exact below.trans_lt (lt_of_le_of_ne (inCube greatest).2 (notOne greatest))

/-- A form that is at least one at the vertices other than the origin, and at least zero there, is
at least the sum of the coordinates, or one. -/
theorem min_one_sum_le_eval [DecidableEq ι] (inCube : InCube point)
    (vertices : ∀ vertex, IsVertex vertex → (∃ index, vertex index = 1) → 1 ≤ form.eval vertex)
    (origin : 0 ≤ form.constant) : min 1 (∑ index, point index) ≤ form.eval point := by
  have units (index : ι) : 1 - form.constant ≤ form.coefficient index := by
    have atUnit := vertices (Pi.single index 1)
      (fun other => by
        by_cases same : other = index
        · rw [same, Pi.single_eq_same]
          exact Or.inr rfl
        · rw [Pi.single_eq_of_ne same]
          exact Or.inl rfl) ⟨index, Pi.single_eq_same index 1⟩
    simp only [eval, Pi.single_apply, mul_ite, mul_one, mul_zero, Finset.sum_ite_eq',
      Finset.mem_univ, if_true] at atUnit
    linarith
  have sumNonneg : 0 ≤ ∑ index, point index := Finset.sum_nonneg fun index _ => (inCube index).1
  have aboveUnits : (1 - form.constant) * ∑ index, point index ≤
      ∑ index, form.coefficient index * point index := by
    rw [Finset.mul_sum]
    exact Finset.sum_le_sum fun index _ =>
      mul_le_mul_of_nonneg_right (units index) (inCube index).1
  rcases le_or_gt (∑ index, point index) 1 with small | large
  · -- between the origin and the units
    rw [min_eq_right small, eval]
    have rest := mul_nonneg origin (sub_nonneg.mpr small)
    linarith
  · rw [min_eq_left large.le]
    rcases le_or_gt form.constant 1 with isLow | isHigh
    · have more := mul_le_mul_of_nonneg_left large.le (sub_nonneg.mpr isLow)
      rw [eval]
      linarith
    · -- the form is least at a vertex
      have least := form.complement.eval_le_topVertex inCube
      rw [eval_complement, eval_complement, sub_le_sub_iff_left] at least
      refine le_trans ?_ least
      by_cases isUnit : ∃ index, form.complement.topVertex index = 1
      · exact vertices _ form.complement.isVertex_topVertex isUnit
      · have isOrigin : form.complement.topVertex = fun _ => 0 := by
          funext index
          rcases form.complement.isVertex_topVertex index with zero | one
          · exact zero
          · exact absurd ⟨index, one⟩ isUnit
        rw [isOrigin, eval_zero]
        exact isHigh.le

/-- A form that is at most one at the last vertex, and at most zero at the others, is at most what
the coordinates leave over from all but one. -/
theorem eval_le_max_zero [DecidableEq ι] (inCube : InCube point)
    (vertices : ∀ vertex, IsVertex vertex → (∃ index, vertex index = 0) → form.eval vertex ≤ 0)
    (last : form.eval (fun _ => 1) ≤ 1) :
    form.eval point ≤ max 0 ((∑ index, point index) - (Fintype.card ι - 1)) := by
  have opposite (vertex : ι → K) (isVertex : IsVertex vertex) (one : ∃ index, vertex index = 1) :
      1 ≤ form.reflect.complement.eval vertex := by
    rcases one with ⟨index, isOne⟩
    have atOpposite := vertices _ isVertex.reflect ⟨index, sub_eq_zero.mpr isOne.symm⟩
    rw [eval_complement, eval_reflect]
    linarith
  have origin : 0 ≤ form.reflect.complement.constant := by
    rw [← eval_zero, eval_complement, eval_reflect]
    simp only [sub_zero]
    linarith
  have bound := min_one_sum_le_eval inCube.reflect opposite origin
  rw [eval_complement, eval_reflect] at bound
  simp only [sub_sub_cancel, Finset.sum_sub_distrib, Finset.sum_const, Finset.card_univ,
    nsmul_eq_mul, mul_one] at bound
  rcases min_le_iff.mp bound with isOne | isSum
  · exact le_max_of_le_left (by linarith)
  · exact le_max_of_le_right (by linarith)

/-- A form that is at least one at the last vertex, and at least zero at the others, is at least
the least coordinate. -/
theorem least_le_eval {least : K} (inCube : InCube point) (atLeast : ∀ index, least ≤ point index)
    (isShare : 0 ≤ least) (isShare' : least ≤ 1)
    (vertices : ∀ vertex, IsVertex vertex → 0 ≤ form.eval vertex)
    (last : 1 ≤ form.eval fun _ => 1) : least ≤ form.eval point := by
  have opposite (vertex : ι → K) (isVertex : IsVertex vertex) :
      form.reflect.complement.eval vertex ≤ 1 := by
    have atOpposite := vertices _ isVertex.reflect
    rw [eval_complement, eval_reflect]
    linarith
  have origin : form.reflect.complement.constant ≤ 0 := by
    rw [← eval_zero, eval_complement, eval_reflect]
    simp only [sub_zero]
    linarith
  have bound := eval_le_greatest inCube.reflect (fun index => sub_le_sub_left (atLeast index) 1)
    (sub_nonneg.mpr isShare') (sub_le_self 1 isShare) opposite origin
  rw [eval_complement, eval_reflect] at bound
  simp only [sub_sub_cancel] at bound
  linarith

end CubeForm

end GhostArk.Lib
