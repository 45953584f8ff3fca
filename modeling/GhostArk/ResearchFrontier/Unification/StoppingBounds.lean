import GhostArk.ResearchFrontier.Unification.FrechetBounds

/-!
Contract: the bounds of the oracle for at most one failure.

Owns the tableaux that the solver passes through, in closed form, the turns of both phases,
and the values it ends with.

Does not own: what the oracle reports, and the gate.

The right-hand sides may have any sign. One column after another takes its marginal from
the room that the first row has left; the first marginal that the room does not exceed
drives the column of the empty atom out, and no column enters after that.
-/

namespace GhostArk.ResearchFrontier.Unification

open Js
open Lib
open Lib.Simplex
open ResearchFrontier.Occ (LpStatus)

section Stopping

variable {k : ℕ}

abbrev StoppingAtom (k : ℕ) := Fin (atomCount .TEMPORAL_STOPPING k)

abbrev StoppingSolver (k : ℕ) := SimplexSolver (k + 1) (atomCount .TEMPORAL_STOPPING k)

abbrev stoppingSolver (marginals : Fin k → ℚ) : StoppingSolver k :=
  newSolver (constraints .TEMPORAL_STOPPING) (constraintBounds marginals)

/-- The atom of one failure, or of none. -/
def atomAt (position : ℕ) (isAtom : position ≤ k) : StoppingAtom k :=
  ⟨position, Nat.lt_succ_of_le isAtom⟩

def structuralAt (position : ℕ) (isAtom : position ≤ k) :
    Fin (atomCount .TEMPORAL_STOPPING k + (k + 1)) :=
  Fin.castAdd (k + 1) (atomAt position isAtom)

/-- At most one bit stops at an index. -/
theorem sum_stop {M : Type*} [AddCommMonoid M] (weight : ℕ → M) (index : StoppingAtom k) :
    ∑ bit : Fin k, (if index.val = bit.val + 1 then weight bit.val else 0) =
      if index.val = 0 then 0 else weight (index.val - 1) := by
  split
  next isEmpty =>
    refine Finset.sum_eq_zero fun bit _ => ?_
    rw [if_neg]
    omega
  next isUnit =>
    have inRange : index.val - 1 < k := by
      have bounded : index.val < k + 1 := index.isLt
      omega
    rw [Finset.sum_eq_single ⟨index.val - 1, inRange⟩]
    · exact if_pos (Nat.sub_add_cancel (Nat.one_le_iff_ne_zero.mpr isUnit)).symm
    · intro bit _ different
      rw [if_neg]
      intro same
      apply different
      apply Fin.ext
      show bit.val = index.val - 1
      omega
    · intro absent
      exact absurd (Finset.mem_univ _) absent

theorem popcount_stopping (index : StoppingAtom k) :
    popcount .TEMPORAL_STOPPING index = if index.val = 0 then 0 else 1 := by
  rw [popcount]
  simp only [atom]
  exact sum_stop (fun _ => 1) index

theorem unionCosts_stopping (index : StoppingAtom k) :
    unionCosts .TEMPORAL_STOPPING index = if index.val = 0 then 0 else 1 := by
  rw [unionCosts, popcount_stopping]
  split
  · rfl
  · rfl

/-! ### Tableaux -/

/-- What the first marginals leave of the sum of probabilities. -/
def room (marginals : Fin k → ℚ) (filled : ℕ) : ℚ :=
  1 - ∑ bit : Fin k, if bit.val < filled then marginals bit else 0

theorem room_zero (marginals : Fin k → ℚ) : room marginals 0 = 1 := by
  rw [room]
  simp only [Nat.not_lt_zero, if_false, Finset.sum_const_zero, sub_zero]

theorem room_succ (marginals : Fin k → ℚ) (bit : Fin k) :
    room marginals (bit.val + 1) = room marginals bit.val - marginals bit := by
  have term (other : Fin k) : (if other.val < bit.val + 1 then marginals other else 0) =
      (if other.val < bit.val then marginals other else 0) +
        if other = bit then marginals other else 0 := by
    by_cases same : other = bit
    · rw [same, if_pos (Nat.lt_succ_self _), if_neg (lt_irrefl _), if_pos rfl, zero_add]
    · have different : other.val ≠ bit.val := fun same' => same (Fin.ext same')
      rw [if_neg same, add_zero]
      by_cases below : other.val < bit.val
      · rw [if_pos below, if_pos (by omega)]
      · rw [if_neg below, if_neg (by omega)]
  simp only [room, term, Finset.sum_add_distrib, Finset.sum_ite_eq', Finset.mem_univ, if_true]
  ring

theorem room_last (marginals : Fin k → ℚ) : room marginals k = 1 - ∑ bit, marginals bit := by
  simp only [room, Fin.is_lt, if_true]

/-- The row of the sum of probabilities, after some columns have entered. -/
def sumRow (filled : ℕ) : Fin (atomCount .TEMPORAL_STOPPING k + (k + 1)) → ℚ :=
  Fin.addCases (fun index => if index.val = 0 ∨ filled < index.val then 1 else 0) fun artificial =>
    if artificial.val = 0 then 1 else if artificial.val ≤ filled then -1 else 0

def marginalRow (bit : Fin k) : Fin (atomCount .TEMPORAL_STOPPING k + (k + 1)) → ℚ :=
  Fin.addCases (fun index => if index.val = bit.val + 1 then 1 else 0) fun artificial =>
    if artificial.val = bit.val + 1 then 1 else 0

/-- The tableau after the first columns have entered, each in the row of its marginal. -/
def stage (marginals : Fin k → ℚ) (filled : ℕ) : StoppingSolver k where
  entry := Fin.cons (sumRow filled) marginalRow
  rhs := Fin.cons (room marginals filled) marginals
  basis := Fin.cons (structuralAt 0 (Nat.zero_le k)) fun bit =>
    if bit.val < filled then structuralAt (bit.val + 1) bit.isLt else Fin.natAdd _ bit.succ

section Numerals

/-- Rows are written as numerals. -/
local instance (priority := 2000) row_numerals (count : ℕ) : NeZero (count + 1) :=
  ⟨Nat.succ_ne_zero count⟩

/-- The tableau once the room is used up: the next column has driven out the empty atom. -/
def full (marginals : Fin k → ℚ) (bit : Fin k) : StoppingSolver k :=
  (stage marginals bit.val).pivot 0 (structuralAt (bit.val + 1) bit.isLt)

end Numerals

variable (marginals : Fin k → ℚ)

@[simp] theorem sumRow_structural (filled : ℕ) (index : StoppingAtom k) :
    sumRow filled (Fin.castAdd (k + 1) index) =
      if index.val = 0 ∨ filled < index.val then 1 else 0 :=
  Fin.addCases_left _

@[simp] theorem sumRow_artificial (filled : ℕ) (artificial : Fin (k + 1)) :
    sumRow filled (Fin.natAdd (atomCount .TEMPORAL_STOPPING k) artificial) =
      if artificial.val = 0 then 1 else if artificial.val ≤ filled then -1 else 0 :=
  Fin.addCases_right _

@[simp] theorem marginalRow_structural (bit : Fin k) (index : StoppingAtom k) :
    marginalRow bit (Fin.castAdd (k + 1) index) = if index.val = bit.val + 1 then 1 else 0 :=
  Fin.addCases_left _

@[simp] theorem marginalRow_artificial (bit : Fin k) (artificial : Fin (k + 1)) :
    marginalRow bit (Fin.natAdd (atomCount .TEMPORAL_STOPPING k) artificial) =
      if artificial.val = bit.val + 1 then 1 else 0 :=
  Fin.addCases_right _

theorem sumRow_structuralAt (filled position : ℕ) (isAtom : position ≤ k) :
    sumRow filled (structuralAt position isAtom) =
      if position = 0 ∨ filled < position then 1 else 0 :=
  sumRow_structural filled _

theorem marginalRow_structuralAt (bit : Fin k) (position : ℕ) (isAtom : position ≤ k) :
    marginalRow bit (structuralAt position isAtom) = if position = bit.val + 1 then 1 else 0 :=
  marginalRow_structural bit _

theorem sumRow_sub (bit : Fin k) (column : Fin (atomCount .TEMPORAL_STOPPING k + (k + 1))) :
    sumRow bit.val column - marginalRow bit column = sumRow (bit.val + 1) column := by
  rcases structural_or_artificial column with ⟨index, rfl⟩ | ⟨artificial, rfl⟩
  · simp only [sumRow_structural, marginalRow_structural]
    split_ifs <;> first | omega | norm_num
  · simp only [sumRow_artificial, marginalRow_artificial]
    split_ifs <;> first | omega | norm_num

/-! ### Pivots -/

theorem entry_stoppingSolver : (stoppingSolver marginals).entry =
    Fin.cons (sumRow 0) marginalRow := by
  funext row column
  refine Fin.cases ?_ (fun bit => ?_) row
  · rw [Fin.cons_zero]
    rcases structural_or_artificial column with ⟨index, rfl⟩ | ⟨artificial, rfl⟩
    · simp only [newSolver, Fin.addCases_left, sumRow_structural, constraints, Fin.cons_zero]
      exact (if_pos (Nat.eq_zero_or_pos _)).symm
    · have entry : (stoppingSolver marginals).entry 0 (Fin.natAdd _ artificial) =
          if artificial = 0 then 1 else 0 := by
        simp only [newSolver, Fin.addCases_right]
      rw [sumRow_artificial, entry]
      by_cases isZero : artificial = 0
      · have zeroValue : artificial.val = 0 := congrArg Fin.val isZero
        rw [if_pos isZero, if_pos zeroValue]
      · have notZero : artificial.val ≠ 0 := fun same => isZero (Fin.ext same)
        rw [if_neg isZero, if_neg notZero, if_neg (by omega)]
  · rw [Fin.cons_succ]
    rcases structural_or_artificial column with ⟨index, rfl⟩ | ⟨artificial, rfl⟩
    · simp only [newSolver, Fin.addCases_left, marginalRow_structural, constraints, Fin.cons_succ,
        atom, Nat.cast_ite, Nat.cast_one, Nat.cast_zero]
    · simp only [newSolver, Fin.addCases_right, marginalRow_artificial, Fin.ext_iff, Fin.val_succ]

theorem stoppingSolver_pivot :
    (stoppingSolver marginals).pivot 0 (structuralAt 0 (Nat.zero_le k)) = stage marginals 0 := by
  have zeroColumn (bit : Fin k) : marginalRow bit (structuralAt 0 (Nat.zero_le k)) = 0 := by
    rw [marginalRow_structuralAt, if_neg (Nat.succ_ne_zero _).symm]
  have oneColumn : sumRow 0 (structuralAt 0 (Nat.zero_le k)) = 1 := by
    rw [sumRow_structuralAt, if_pos (Or.inl rfl)]
  ext row column
  · rw [Tableau.pivot, entry_stoppingSolver]
    refine Fin.cases ?_ (fun bit => ?_) row
    · simp only [Fin.cons_zero, if_true, oneColumn, div_one]
      rfl
    · simp only [Fin.cons_succ, Fin.succ_ne_zero, if_false, zeroColumn, zero_mul, sub_zero]
      rfl
  · rw [Tableau.pivot, entry_stoppingSolver]
    refine Fin.cases ?_ (fun bit => ?_) row
    · simp only [Fin.cons_zero, if_true, oneColumn, div_one]
      exact (room_zero marginals).symm
    · simp only [Fin.cons_succ, Fin.succ_ne_zero, if_false, zeroColumn, zero_mul, sub_zero]
      rfl
  · refine congrArg Fin.val ?_
    refine Fin.cases ?_ (fun bit => ?_) row
    · rw [Tableau.pivot_basis_self]
      rfl
    · rw [Tableau.pivot_basis_of_ne _ _ (Fin.succ_ne_zero bit)]
      simp only [stage, Fin.cons_succ, Nat.not_lt_zero, if_false]
      rfl

theorem stage_pivot (bit : Fin k) :
    (stage marginals bit.val).pivot bit.succ (structuralAt (bit.val + 1) bit.isLt) =
      stage marginals (bit.val + 1) := by
  have oneColumn (filled : ℕ) (below : filled < bit.val + 1) :
      sumRow filled (structuralAt (bit.val + 1) bit.isLt) = 1 := by
    rw [sumRow_structuralAt, if_pos (Or.inr below)]
  have ownColumn : marginalRow bit (structuralAt (bit.val + 1) bit.isLt) = 1 := by
    rw [marginalRow_structuralAt, if_pos rfl]
  have zeroColumn (other : Fin k) (different : other ≠ bit) :
      marginalRow other (structuralAt (bit.val + 1) bit.isLt) = 0 := by
    rw [marginalRow_structuralAt, if_neg fun same => different (Fin.ext (Nat.succ_inj.mp same.symm))]
  ext row column
  · refine Fin.cases ?_ (fun other => ?_) row
    · simp only [Tableau.pivot, stage, Fin.cons_zero, Fin.cons_succ, (Fin.succ_ne_zero bit).symm,
        if_false, oneColumn _ (Nat.lt_succ_self _), ownColumn, div_one, one_mul]
      exact sumRow_sub bit column
    · by_cases same : other = bit
      · rw [same]
        simp only [Tableau.pivot, stage, Fin.cons_succ, if_true, ownColumn, div_one]
      · have different : other.succ ≠ bit.succ := fun alike => same (Fin.succ_inj.mp alike)
        simp only [Tableau.pivot, stage, Fin.cons_succ, if_neg different, zeroColumn other same,
          zero_mul, sub_zero]
  · refine Fin.cases ?_ (fun other => ?_) row
    · simp only [Tableau.pivot, stage, Fin.cons_zero, Fin.cons_succ, (Fin.succ_ne_zero bit).symm,
        if_false, oneColumn _ (Nat.lt_succ_self _), ownColumn, div_one, one_mul]
      exact (room_succ marginals bit).symm
    · by_cases same : other = bit
      · rw [same]
        simp only [Tableau.pivot, stage, Fin.cons_succ, if_true, ownColumn, div_one]
      · have different : other.succ ≠ bit.succ := fun alike => same (Fin.succ_inj.mp alike)
        simp only [Tableau.pivot, stage, Fin.cons_succ, if_neg different, zeroColumn other same,
          zero_mul, sub_zero]
  · refine congrArg Fin.val ?_
    refine Fin.cases ?_ (fun other => ?_) row
    · rw [Tableau.pivot_basis_of_ne _ _ (Fin.succ_ne_zero bit).symm]
      rfl
    · by_cases same : other = bit
      · rw [same, Tableau.pivot_basis_self]
        simp only [stage, Fin.cons_succ, Nat.lt_succ_self, if_true]
      · have different : other.succ ≠ bit.succ := fun alike => same (Fin.succ_inj.mp alike)
        have notSame : other.val ≠ bit.val := fun alike => same (Fin.ext alike)
        rw [Tableau.pivot_basis_of_ne _ _ different]
        simp only [stage, Fin.cons_succ]
        by_cases below : other.val < bit.val
        · rw [if_pos below, if_pos (Nat.lt_succ_of_lt below)]
        · rw [if_neg below, if_neg (by omega)]

theorem stage_basis_zero (filled : ℕ) :
    (stage marginals filled).basis 0 = structuralAt 0 (Nat.zero_le k) := rfl

theorem unit_stage (filled : ℕ) (row : Fin (k + 1)) :
    (stage marginals filled).entry row ((stage marginals filled).basis 0) =
      if row = 0 then 1 else 0 := by
  rw [stage_basis_zero]
  refine Fin.cases ?_ (fun bit => ?_) row
  · simp only [stage, Fin.cons_zero, if_true]
    rw [sumRow_structuralAt, if_pos (Or.inl rfl)]
  · simp only [stage, Fin.cons_succ, Fin.succ_ne_zero, if_false]
    rw [marginalRow_structuralAt, if_neg (Nat.succ_ne_zero _).symm]

theorem entry_zero_stage (bit : Fin k) :
    (stage marginals bit.val).entry 0 (structuralAt (bit.val + 1) bit.isLt) = 1 := by
  simp only [stage, Fin.cons_zero]
  rw [sumRow_structuralAt, if_pos (Or.inr (Nat.lt_succ_self _))]

theorem entry_succ_stage (filled : ℕ) (bit other : Fin k) :
    (stage marginals filled).entry other.succ (structuralAt (bit.val + 1) bit.isLt) =
      if other = bit then 1 else 0 := by
  simp only [stage, Fin.cons_succ]
  rw [marginalRow_structuralAt]
  simp only [Nat.succ_inj, Fin.ext_iff, eq_comm]

theorem full_pivot (bit : Fin k) :
    (full marginals bit).pivot 0 (structuralAt 0 (Nat.zero_le k)) = stage marginals bit.val := by
  refine Tableau.pivot_pivot ?_ (unit_stage marginals bit.val)
  rw [entry_zero_stage]
  exact one_ne_zero

theorem represents_stage {filled : ℕ} (inRange : filled ≤ k) :
    (stage marginals filled).Represents
      (systemOf (constraints .TEMPORAL_STOPPING) (constraintBounds marginals)) := by
  induction filled with
  | zero =>
    rw [← stoppingSolver_pivot]
    refine (newSolver_represents _ _).pivot ?_
    rw [entry_stoppingSolver, Fin.cons_zero, sumRow_structuralAt, if_pos (Or.inl rfl)]
    exact one_ne_zero
  | succ filled ih =>
    have represents := ih (Nat.le_of_succ_le inRange)
    have pivoted := stage_pivot marginals ⟨filled, inRange⟩
    rw [← pivoted]
    refine represents.pivot ?_
    rw [entry_succ_stage marginals filled ⟨filled, inRange⟩, if_pos rfl]
    exact one_ne_zero

theorem sum_marginalRow_structural (weight : ℕ → ℚ) (index : StoppingAtom k) :
    ∑ bit : Fin k, weight bit.val * marginalRow bit (Fin.castAdd (k + 1) index) =
      if index.val = 0 then 0 else weight (index.val - 1) := by
  simp only [marginalRow_structural, mul_ite, mul_one, mul_zero]
  exact sum_stop weight index

theorem sum_marginalRow_artificial (weight : ℕ → ℚ) (artificial : Fin (k + 1)) :
    ∑ bit : Fin k, weight bit.val *
        marginalRow bit (Fin.natAdd (atomCount .TEMPORAL_STOPPING k) artificial) =
      if artificial.val = 0 then 0 else weight (artificial.val - 1) := by
  have asAtom := sum_marginalRow_structural weight
    (⟨artificial.val, artificial.isLt⟩ : StoppingAtom k)
  simp only [marginalRow_structural] at asAtom
  simp only [marginalRow_artificial]
  exact asAtom

variable {c : Fin (atomCount .TEMPORAL_STOPPING k + (k + 1)) → ℚ}

theorem reducedCost_stage (weight : ℕ → ℚ) (filled : ℕ)
    (empty : c (structuralAt 0 (Nat.zero_le k)) = 0)
    (weights : ∀ bit : Fin k, c ((stage marginals filled).basis bit.succ) = weight bit.val)
    (column : Fin (atomCount .TEMPORAL_STOPPING k + (k + 1))) :
    (stage marginals filled).reducedCost c column =
      c column - ∑ bit : Fin k, weight bit.val * marginalRow bit column := by
  rw [Tableau.reducedCost, Fin.sum_univ_succ, stage_basis_zero, empty, zero_mul, zero_add]
  simp only [weights]
  rfl

theorem objective_stage (weight : ℕ → ℚ) (filled : ℕ)
    (empty : c (structuralAt 0 (Nat.zero_le k)) = 0)
    (weights : ∀ bit : Fin k, c ((stage marginals filled).basis bit.succ) = weight bit.val) :
    (stage marginals filled).objective c = ∑ bit : Fin k, weight bit.val * marginals bit := by
  rw [Tableau.objective, Fin.sum_univ_succ, stage_basis_zero, empty, zero_mul, zero_add]
  simp only [weights]
  rfl

/-! ### The first phase -/

theorem phase1Costs_structuralAt (position : ℕ) (isAtom : position ≤ k) :
    (phase1Costs (structuralAt position isAtom) : ℚ) = 0 :=
  Fin.addCases_left _

/-- The weight of a marginal's row in the first phase. -/
def waiting (filled position : ℕ) : ℚ := if position < filled then 0 else 1

theorem phase1_weights (filled : ℕ) (bit : Fin k) :
    phase1Costs ((stage marginals filled).basis bit.succ) = waiting filled bit.val := by
  simp only [stage, Fin.cons_succ, waiting]
  split
  · exact phase1Costs_structuralAt _ _
  · exact Fin.addCases_right _

theorem phase1_structural (filled : ℕ) (index : StoppingAtom k) :
    (stage marginals filled).reducedCost phase1Costs (Fin.castAdd (k + 1) index) =
      if filled < index.val then -1 else 0 := by
  rw [reducedCost_stage marginals (waiting filled) filled (phase1Costs_structuralAt 0 _)
    (phase1_weights marginals filled), sum_marginalRow_structural, phase1Costs, Fin.addCases_left]
  simp only [waiting]
  split_ifs <;> first | omega | norm_num

theorem phase1_artificial (filled : ℕ) (artificial : Fin (k + 1)) :
    (stage marginals filled).reducedCost phase1Costs
        (Fin.natAdd (atomCount .TEMPORAL_STOPPING k) artificial) =
      if filled < artificial.val then 0 else 1 := by
  rw [reducedCost_stage marginals (waiting filled) filled (phase1Costs_structuralAt 0 _)
    (phase1_weights marginals filled), sum_marginalRow_artificial, phase1Costs,
    Fin.addCases_right]
  simp only [waiting]
  split_ifs <;> first | omega | norm_num

theorem entering_stage (bit : Fin k) :
    enteringColumn (stage marginals bit.val) phase1Costs true =
      some (structuralAt (bit.val + 1) bit.isLt) := by
  have negative : (stage marginals bit.val).reducedCost phase1Costs
      (structuralAt (bit.val + 1) bit.isLt) < 0 := by
    rw [structuralAt, phase1_structural]
    exact (if_pos (Nat.lt_succ_self bit.val)).trans_lt neg_one_lt_zero
  refine enteringColumn_of_isEntering ⟨Or.inl rfl, fun isBasic => ?_, negative,
    fun column isLower _ _ => ?_⟩
  · exact negative.ne
      ((represents_stage marginals bit.isLt.le).reducedCost_of_isBasic isBasic)
  · rcases structural_or_artificial column with ⟨index, rfl⟩ | ⟨artificial, rfl⟩
    · have below : index.val < bit.val + 1 := isLower
      rw [phase1_structural, if_neg (by omega)]
    · have below : k + 1 + artificial.val < bit.val + 1 := isLower
      have inRange := bit.isLt
      omega

theorem entering_start : enteringColumn (stoppingSolver marginals) phase1Costs true =
    some (structuralAt 0 (Nat.zero_le k)) := by
  have represents := newSolver_represents (constraints .TEMPORAL_STOPPING (k := k))
    (constraintBounds marginals)
  have negative : (stoppingSolver marginals).reducedCost phase1Costs
      (structuralAt 0 (Nat.zero_le k)) < 0 := by
    have one (row : Fin (k + 1)) :
        (phase1Costs ((stoppingSolver marginals).basis row) : ℚ) = 1 := Fin.addCases_right _
    rw [Tableau.reducedCost, phase1Costs_structuralAt, zero_sub, entry_stoppingSolver,
      Fin.sum_univ_succ]
    simp only [one, one_mul, Fin.cons_zero, Fin.cons_succ]
    rw [sumRow_structuralAt, if_pos (Or.inl rfl)]
    simp only [marginalRow_structuralAt, (Nat.succ_ne_zero _).symm, if_false,
      Finset.sum_const_zero, add_zero]
    exact neg_one_lt_zero
  refine enteringColumn_of_isEntering ⟨Or.inl rfl, fun isBasic => ?_, negative,
    fun column isLower _ _ => ?_⟩
  · exact negative.ne (represents.reducedCost_of_isBasic isBasic)
  · exact absurd isLower (Nat.not_lt_zero _)

theorem leaving_start : leavingRow (stoppingSolver marginals) (structuralAt 0 (Nat.zero_le k)) =
    some 0 := by
  have represents := newSolver_represents (constraints .TEMPORAL_STOPPING (k := k))
    (constraintBounds marginals)
  have alone (row : Fin (k + 1))
      (positive : 0 < (stoppingSolver marginals).entry row (structuralAt 0 (Nat.zero_le k))) :
      row = 0 := by
    rcases Fin.eq_zero_or_eq_succ row with rfl | ⟨bit, rfl⟩
    · rfl
    · rw [entry_stoppingSolver, Fin.cons_succ, marginalRow_structuralAt,
        if_neg (Nat.succ_ne_zero _).symm] at positive
      exact absurd positive (lt_irrefl 0)
  refine leavingRow_of_isLeaving represents.basis_injective
    ⟨?_, fun row positive => ?_, fun row positive _ => ?_⟩
  · rw [entry_stoppingSolver, Fin.cons_zero, sumRow_structuralAt, if_pos (Or.inl rfl)]
    exact zero_lt_one
  · rw [alone row positive]
  · rw [alone row positive]

theorem candidate_stage (bit : Fin k) {row : Fin (k + 1)}
    (positive : 0 < (stage marginals bit.val).entry row (structuralAt (bit.val + 1) bit.isLt)) :
    row = 0 ∨ row = bit.succ := by
  rcases Fin.eq_zero_or_eq_succ row with rfl | ⟨other, rfl⟩
  · exact Or.inl rfl
  · rw [entry_succ_stage] at positive
    split at positive
    next same => exact Or.inr (congrArg Fin.succ same)
    next => exact absurd positive (lt_irrefl 0)

theorem ratio_zero_stage (bit : Fin k) :
    (stage marginals bit.val).rhs 0 /
        (stage marginals bit.val).entry 0 (structuralAt (bit.val + 1) bit.isLt) =
      room marginals bit.val := by
  rw [entry_zero_stage, div_one]
  rfl

theorem ratio_succ_stage (bit : Fin k) :
    (stage marginals bit.val).rhs bit.succ /
        (stage marginals bit.val).entry bit.succ (structuralAt (bit.val + 1) bit.isLt) =
      marginals bit := by
  rw [entry_succ_stage, if_pos rfl, div_one]
  rfl

theorem leaving_fits {bit : Fin k} (fits : marginals bit < room marginals bit.val) :
    leavingRow (stage marginals bit.val) (structuralAt (bit.val + 1) bit.isLt) =
      some bit.succ := by
  refine leavingRow_of_isLeaving (represents_stage marginals bit.isLt.le).basis_injective
    ⟨?_, fun row positive => ?_, fun row positive tied => ?_⟩
  · rw [entry_succ_stage, if_pos rfl]
    exact zero_lt_one
  · rw [ratio_succ_stage]
    rcases candidate_stage marginals bit positive with rfl | rfl
    · rw [ratio_zero_stage]
      exact fits.le
    · rw [ratio_succ_stage]
  · rcases candidate_stage marginals bit positive with rfl | rfl
    · rw [ratio_zero_stage, ratio_succ_stage] at tied
      exact absurd tied fits.ne'
    · exact le_rfl

theorem leaving_full {bit : Fin k} (isFull : room marginals bit.val ≤ marginals bit) :
    leavingRow (stage marginals bit.val) (structuralAt (bit.val + 1) bit.isLt) = some 0 := by
  refine leavingRow_of_isLeaving (represents_stage marginals bit.isLt.le).basis_injective
    ⟨?_, fun row positive => ?_, fun row positive tied => ?_⟩
  · rw [entry_zero_stage]
    exact zero_lt_one
  · rw [ratio_zero_stage]
    rcases candidate_stage marginals bit positive with rfl | rfl
    · rw [ratio_zero_stage]
    · rw [ratio_succ_stage]
      exact isFull
  · exact Fin.le_def.mpr (Nat.zero_le _)

theorem priced_last : enteringColumn (stage marginals k) phase1Costs true = none := by
  refine enteringColumn_of_nonneg fun column _ => ?_
  rcases structural_or_artificial column with ⟨index, rfl⟩ | ⟨artificial, rfl⟩
  · have bounded : index.val < k + 1 := index.isLt
    rw [phase1_structural, if_neg (by omega)]
  · have bounded := artificial.isLt
    rw [phase1_artificial, if_neg (by omega)]
    exact zero_le_one

theorem entering_nonzero (bit : Fin k) :
    (stage marginals bit.val).entry 0 (structuralAt (bit.val + 1) bit.isLt) ≠ 0 := by
  rw [entry_zero_stage]
  exact one_ne_zero

theorem represents_full (bit : Fin k) : (full marginals bit).Represents
    (systemOf (constraints .TEMPORAL_STOPPING) (constraintBounds marginals)) :=
  (represents_stage marginals bit.isLt.le).pivot (entering_nonzero marginals bit)

theorem reducedCost_full (c : Fin (atomCount .TEMPORAL_STOPPING k + (k + 1)) → ℚ) (bit : Fin k)
    (column : Fin (atomCount .TEMPORAL_STOPPING k + (k + 1))) :
    (full marginals bit).reducedCost c column =
      (stage marginals bit.val).reducedCost c column -
        (stage marginals bit.val).reducedCost c (structuralAt (bit.val + 1) bit.isLt) *
          sumRow bit.val column := by
  rw [full, Tableau.reducedCost_pivot c (entering_nonzero marginals bit), entry_zero_stage, div_one]
  rfl

theorem gain_stage (bit : Fin k) : (stage marginals bit.val).reducedCost phase1Costs
    (structuralAt (bit.val + 1) bit.isLt) = -1 := by
  rw [structuralAt, phase1_structural]
  exact if_pos (Nat.lt_succ_self bit.val)

theorem priced_full (bit : Fin k) : enteringColumn (full marginals bit) phase1Costs true = none := by
  refine enteringColumn_of_nonneg fun column _ => ?_
  rw [reducedCost_full, gain_stage]
  rcases structural_or_artificial column with ⟨index, rfl⟩ | ⟨artificial, rfl⟩
  · rw [phase1_structural, sumRow_structural]
    split_ifs <;> first | omega | norm_num
  · rw [phase1_artificial, sumRow_artificial]
    split_ifs <;> first | omega | norm_num

/-! ### What the first phase leaves -/

theorem sum_waiting (filled : ℕ) :
    ∑ bit : Fin k, waiting filled bit.val * marginals bit =
      (∑ bit, marginals bit) - 1 + room marginals filled := by
  have term (bit : Fin k) : waiting filled bit.val * marginals bit =
      marginals bit - if bit.val < filled then marginals bit else 0 := by
    rw [waiting]
    split
    · rw [zero_mul, sub_self]
    · rw [one_mul, sub_zero]
  simp only [term, Finset.sum_sub_distrib, room]
  ring

theorem objective_phase1_stage (filled : ℕ) : (stage marginals filled).objective phase1Costs =
    (∑ bit, marginals bit) - 1 + room marginals filled := by
  rw [objective_stage marginals (waiting filled) filled (phase1Costs_structuralAt 0 _)
    (phase1_weights marginals filled), sum_waiting]

theorem artSum_last : artSum (stage marginals k) = 0 := by
  rw [artSum_eq, objective_phase1_stage, room_last]
  ring

theorem artSum_full (bit : Fin k) : artSum (full marginals bit) = (∑ bit, marginals bit) - 1 := by
  rw [artSum_eq, full, Tableau.objective_pivot _ (entering_nonzero marginals bit),
    ratio_zero_stage, gain_stage, objective_phase1_stage]
  ring

/-- How the first phase ends. -/
inductive Outcome (marginals : Fin k → ℚ) : StoppingSolver k → Prop where
  | fits (spare : 0 < room marginals k) : Outcome marginals (stage marginals k)
  | full (bit : Fin k) (spare : 0 < room marginals bit.val)
      (isFull : room marginals bit.val ≤ marginals bit) :
      Outcome marginals (full marginals bit)

end Stopping

/-- The marginals that are considered until they use up the room. -/
def considered (spare : ℚ) : List ℚ → ℕ
  | [] => 0
  | marginal :: rest => if marginal < spare then considered (spare - marginal) rest + 1 else 1

section Stopping

variable {k : ℕ} (marginals : Fin k → ℚ)

theorem drop_ofFn (bit : Fin k) : (List.ofFn marginals).drop bit.val =
    marginals bit :: (List.ofFn marginals).drop (bit.val + 1) := by
  rw [List.drop_eq_getElem_cons (by rw [List.length_ofFn]; exact bit.isLt), List.getElem_ofFn]

theorem pivots_stage {filled left : ℕ} (split : filled + left = k)
    (spare : 0 < room marginals filled) :
    ∃ ending, Outcome marginals ending ∧
      Pivots phase1Costs true
        (considered (room marginals filled) ((List.ofFn marginals).drop filled))
        (stage marginals filled) ending := by
  induction left generalizing filled with
  | zero =>
    obtain rfl : filled = k := split
    refine ⟨stage marginals filled, .fits spare, ?_⟩
    rw [List.drop_of_length_le (by rw [List.length_ofFn]), considered]
    exact .optimal (priced_last marginals)
  | succ left ih =>
    have inRange : filled < k := by omega
    let bit : Fin k := ⟨filled, inRange⟩
    have dropped := drop_ofFn marginals bit
    rw [show filled = bit.val from rfl, dropped, considered]
    by_cases fits : marginals bit < room marginals bit.val
    · have next := room_succ marginals bit
      have spareNext : 0 < room marginals (bit.val + 1) := by
        rw [next]
        exact sub_pos.mpr fits
      have splitNext : bit.val + 1 + left = k := by
        show filled + 1 + left = k
        omega
      rcases ih splitNext spareNext with ⟨ending, outcome, pivots⟩
      refine ⟨ending, outcome, ?_⟩
      rw [if_pos fits, ← next]
      refine .pivot (entering_stage marginals bit) (leaving_fits marginals fits) ?_
      rw [stage_pivot]
      exact pivots
    · rw [if_neg fits]
      exact ⟨full marginals bit, .full bit spare (not_lt.mp fits),
        .pivot (entering_stage marginals bit) (leaving_full marginals (not_lt.mp fits))
          (.optimal (priced_full marginals bit))⟩

theorem pivots_start : ∃ ending, Outcome marginals ending ∧
    Pivots phase1Costs true (considered 1 (List.ofFn marginals) + 1) (stoppingSolver marginals)
      ending := by
  have spare : 0 < room marginals 0 := by
    rw [room_zero]
    exact zero_lt_one
  rcases pivots_stage marginals (Nat.zero_add k) spare with ⟨ending, outcome, pivots⟩
  rw [room_zero, List.drop_zero] at pivots
  refine ⟨ending, outcome, .pivot (entering_start marginals) (leaving_start marginals) ?_⟩
  rw [stoppingSolver_pivot]
  exact pivots

/-! ### The second phase -/

theorem phase2Costs_structuralAt (costs : StoppingAtom k → ℚ) (maximize : Bool) (position : ℕ)
    (isAtom : position ≤ k) : (phase2Costs costs maximize (structuralAt position isAtom) : ℚ) =
      if maximize then -costs (atomAt position isAtom) else costs (atomAt position isAtom) :=
  Fin.addCases_left _

/-- The weight of a marginal's row in the second phase, in units of the cost of a failure. -/
def settled (unitCost : ℚ) (filled position : ℕ) : ℚ := if position < filled then unitCost else 0

theorem phase2_weights {costs : StoppingAtom k → ℚ} {maximize : Bool} {unitCost : ℚ}
    (units : ∀ bit : Fin k,
      (phase2Costs costs maximize (structuralAt (bit.val + 1) bit.isLt) : ℚ) = unitCost)
    (filled : ℕ) (bit : Fin k) :
    phase2Costs costs maximize ((stage marginals filled).basis bit.succ) =
      settled unitCost filled bit.val := by
  simp only [stage, Fin.cons_succ, settled]
  split
  · exact units bit
  · exact Fin.addCases_right _

theorem union_empty (maximize : Bool) :
    (phase2Costs (unionCosts (k := k) .TEMPORAL_STOPPING) maximize
      (structuralAt 0 (Nat.zero_le k)) : ℚ) = 0 := by
  have isEmpty : (atomAt 0 (Nat.zero_le k)).val = 0 := rfl
  rw [phase2Costs_structuralAt, unionCosts_stopping, if_pos isEmpty, neg_zero, ite_self]

theorem union_units (maximize : Bool) (bit : Fin k) :
    (phase2Costs (unionCosts (k := k) .TEMPORAL_STOPPING) maximize
      (structuralAt (bit.val + 1) bit.isLt) : ℚ) = if maximize then -1 else 1 := by
  have isUnit : (atomAt (bit.val + 1) bit.isLt).val ≠ 0 := Nat.succ_ne_zero _
  rw [phase2Costs_structuralAt, unionCosts_stopping, if_neg isUnit]

theorem phase2_structural (maximize : Bool) (filled : ℕ) (index : StoppingAtom k) :
    (stage marginals filled).reducedCost (phase2Costs (unionCosts .TEMPORAL_STOPPING) maximize)
        (Fin.castAdd (k + 1) index) =
      if filled < index.val then (if maximize then -1 else 1) else 0 := by
  rw [reducedCost_stage marginals (settled (if maximize then -1 else 1) filled) filled
    (union_empty maximize) (phase2_weights marginals (union_units maximize) filled),
    sum_marginalRow_structural, phase2Costs, Fin.addCases_left, unionCosts_stopping]
  simp only [settled]
  cases maximize with
  | true => split_ifs <;> first | omega | norm_num
  | false => split_ifs <;> first | omega | norm_num

theorem getObjectiveValue_stage (filled : ℕ) :
    getObjectiveValue (stage marginals filled) (unionCosts .TEMPORAL_STOPPING) =
      1 - room marginals filled := by
  have value := objective_phase2Costs (stage marginals filled) (unionCosts .TEMPORAL_STOPPING) false
  rw [if_neg Bool.false_ne_true] at value
  rw [← value, objective_stage marginals (settled 1 filled) filled (union_empty false)
    (phase2_weights marginals (union_units false) filled), room, sub_sub_cancel]
  refine Finset.sum_congr rfl fun bit _ => ?_
  rw [settled]
  split
  · rw [one_mul]
  · rw [zero_mul]

theorem priced_of_atoms {solver : StoppingSolver k}
    {c : Fin (atomCount .TEMPORAL_STOPPING k + (k + 1)) → ℚ}
    (atoms : ∀ index : StoppingAtom k, 0 ≤ solver.reducedCost c (Fin.castAdd (k + 1) index)) :
    enteringColumn solver c false = none := by
  refine enteringColumn_of_nonneg fun column isAllowed => ?_
  rcases structural_or_artificial column with ⟨index, rfl⟩ | ⟨artificial, rfl⟩
  · exact atoms index
  · have isAtom := isAllowed.resolve_left Bool.false_ne_true
    rw [Fin.val_natAdd] at isAtom
    omega

theorem phase2_stage (filled : ℕ) :
    Pivots (phase2Costs (unionCosts .TEMPORAL_STOPPING) false) false 0 (stage marginals filled)
      (stage marginals filled) := by
  refine .optimal (priced_of_atoms fun index => ?_)
  rw [phase2_structural]
  simp only [Bool.false_eq_true, if_false]
  split
  · exact zero_le_one
  · exact le_rfl

theorem phase2_last :
    Pivots (phase2Costs (unionCosts .TEMPORAL_STOPPING) true) false 0 (stage marginals k)
      (stage marginals k) := by
  refine .optimal (priced_of_atoms fun index => ?_)
  have bounded : index.val < k + 1 := index.isLt
  rw [phase2_structural, if_neg (by omega)]

theorem phase2_unit (maximize : Bool) (bit : Fin k) :
    (stage marginals bit.val).reducedCost
      (phase2Costs (unionCosts .TEMPORAL_STOPPING) maximize)
      (structuralAt (bit.val + 1) bit.isLt) = if maximize then -1 else 1 := by
  have isUnit : bit.val < (atomAt (bit.val + 1) bit.isLt).val := Nat.lt_succ_self _
  rw [structuralAt, phase2_structural, if_pos isUnit]

theorem phase2_full (bit : Fin k) :
    Pivots (phase2Costs (unionCosts .TEMPORAL_STOPPING) true) false 0 (full marginals bit)
      (full marginals bit) := by
  refine .optimal (priced_of_atoms fun index => ?_)
  rw [reducedCost_full, phase2_unit, phase2_structural, sumRow_structural]
  simp only [if_true]
  split_ifs <;> first | omega | norm_num

theorem entering_full (bit : Fin k) :
    enteringColumn (full marginals bit) (phase2Costs (unionCosts .TEMPORAL_STOPPING) false) false =
      some (structuralAt 0 (Nat.zero_le k)) := by
  have negative : (full marginals bit).reducedCost
      (phase2Costs (unionCosts .TEMPORAL_STOPPING) false) (structuralAt 0 (Nat.zero_le k)) < 0 := by
    have isEmpty : ¬ bit.val < (atomAt 0 (Nat.zero_le k)).val := Nat.not_lt_zero _
    rw [reducedCost_full, phase2_unit, sumRow_structuralAt, if_pos (Or.inl rfl), structuralAt,
      phase2_structural, if_neg isEmpty]
    norm_num
  refine enteringColumn_of_isEntering ⟨Or.inr (Nat.succ_pos k), fun isBasic => ?_, negative,
    fun column isLower _ _ => ?_⟩
  · exact negative.ne ((represents_full marginals bit).reducedCost_of_isBasic isBasic)
  · exact absurd isLower (Nat.not_lt_zero _)

theorem entry_full (bit : Fin k) (row : Fin (k + 1)) :
    (full marginals bit).entry row (structuralAt 0 (Nat.zero_le k)) =
      if row = 0 then 1 else if row = bit.succ then -1 else 0 := by
  have one : (stage marginals bit.val).entry 0 (structuralAt 0 (Nat.zero_le k)) = 1 := by
    rw [← stage_basis_zero marginals bit.val, unit_stage, if_pos rfl]
  rcases Fin.eq_zero_or_eq_succ row with rfl | ⟨other, rfl⟩
  · simp only [full, Tableau.pivot, if_true, one, entry_zero_stage, div_one]
  · have none : (stage marginals bit.val).entry other.succ (structuralAt 0 (Nat.zero_le k)) = 0 := by
      rw [← stage_basis_zero marginals bit.val, unit_stage, if_neg (Fin.succ_ne_zero other)]
    simp only [full, Tableau.pivot, if_neg (Fin.succ_ne_zero other), one, none, entry_zero_stage,
      entry_succ_stage, div_one, mul_one, zero_sub, Fin.succ_inj]
    split
    · rfl
    · exact neg_zero

theorem leavingRow_full (bit : Fin k) :
    leavingRow (full marginals bit) (structuralAt 0 (Nat.zero_le k)) = some 0 := by
  have alone (row : Fin (k + 1))
      (positive : 0 < (full marginals bit).entry row (structuralAt 0 (Nat.zero_le k))) :
      row = 0 := by
    by_contra different
    rw [entry_full, if_neg different] at positive
    split at positive
    · exact absurd positive (by norm_num)
    · exact absurd positive (lt_irrefl 0)
  refine leavingRow_of_isLeaving (represents_full marginals bit).basis_injective
    ⟨?_, fun row positive => ?_, fun row positive _ => ?_⟩
  · rw [entry_full, if_pos rfl]
    exact zero_lt_one
  · rw [alone row positive]
  · rw [alone row positive]

theorem phase2_back (bit : Fin k) :
    Pivots (phase2Costs (unionCosts .TEMPORAL_STOPPING) false) false 1 (full marginals bit)
      (stage marginals bit.val) := by
  refine .pivot (entering_full marginals bit) (leavingRow_full marginals bit) ?_
  rw [full_pivot]
  exact phase2_stage marginals bit.val

theorem exists_pivots_union {ending : StoppingSolver k} (outcome : Outcome marginals ending)
    (maximize : Bool) : ∃ count final, count ≤ 1 ∧
      Pivots (phase2Costs (unionCosts .TEMPORAL_STOPPING) maximize) false count ending final := by
  cases outcome with
  | fits spare =>
    cases maximize with
    | true => exact ⟨0, _, Nat.zero_le 1, phase2_last marginals⟩
    | false => exact ⟨0, _, Nat.zero_le 1, phase2_stage marginals k⟩
  | full bit spare isFull =>
    cases maximize with
    | true => exact ⟨0, _, Nat.zero_le 1, phase2_full marginals bit⟩
    | false => exact ⟨1, _, le_rfl, phase2_back marginals bit⟩

theorem popcount_le_one (index : StoppingAtom k) : popcount .TEMPORAL_STOPPING index ≤ 1 := by
  rw [popcount_stopping]
  split
  · exact zero_le_one
  · exact le_rfl

theorem intersectionCosts_one :
    intersectionCosts (k := 1) .TEMPORAL_STOPPING = unionCosts .TEMPORAL_STOPPING := by
  funext index
  rw [intersectionCosts, unionCosts]
  exact if_congr ⟨ge_of_eq, fun atLeast => le_antisymm (popcount_le_one index) atLeast⟩ rfl rfl

theorem phase2Costs_intersection (several : 2 ≤ k) (maximize : Bool)
    (column : Fin (atomCount .TEMPORAL_STOPPING k + (k + 1))) :
    (phase2Costs (intersectionCosts .TEMPORAL_STOPPING) maximize column : ℚ) = 0 := by
  rcases structural_or_artificial column with ⟨index, rfl⟩ | ⟨artificial, rfl⟩
  · have fewer := popcount_le_one index
    have notAll : popcount .TEMPORAL_STOPPING index ≠ k := by omega
    rw [phase2Costs, Fin.addCases_left, intersectionCosts, if_neg notAll, neg_zero, ite_self]
  · rw [phase2Costs, Fin.addCases_right]

theorem exists_pivots_intersection {ending : StoppingSolver k}
    (outcome : Outcome marginals ending) (maximize : Bool) : ∃ count final, count ≤ 1 ∧
      Pivots (phase2Costs (intersectionCosts .TEMPORAL_STOPPING) maximize) false count ending
        final := by
  rcases k with _ | _ | k
  · -- without marginals, the empty atom is the only one and in the basis
    cases outcome with
    | full bit => exact bit.elim0
    | fits spare =>
      refine ⟨0, _, Nat.zero_le 1, .optimal (priced_of_atoms fun index => ?_)⟩
      have bounded : index.val < 0 + 1 := index.isLt
      have isOnly : index = atomAt 0 (Nat.zero_le 0) := Fin.ext (Nat.lt_one_iff.mp bounded)
      have isBasic : (stage marginals 0).IsBasic (Fin.castAdd 1 index) :=
        ⟨0, congrArg (Fin.castAdd 1) isOnly.symm⟩
      exact ((represents_stage marginals le_rfl).reducedCost_of_isBasic isBasic).ge
  · rw [intersectionCosts_one]
    exact exists_pivots_union marginals outcome maximize
  · refine ⟨0, ending, Nat.zero_le 1, .optimal (priced_of_atoms fun index => ?_)⟩
    have several : 2 ≤ k + 1 + 1 := by omega
    simp only [Tableau.reducedCost, phase2Costs_intersection several, zero_mul,
      Finset.sum_const_zero, sub_zero, le_refl]

end Stopping

end GhostArk.ResearchFrontier.Unification
