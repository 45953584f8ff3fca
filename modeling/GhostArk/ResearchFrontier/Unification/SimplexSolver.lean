import GhostArk.Lib.Simplex
import GhostArk.ResearchFrontier.Occ.GhostReplica

/-!
Contract: `SimplexSolver` of `packages/research-frontier/src/unification/lpOracle.ts`.

Owns the tableau with artificial columns, Bland's choice of the entering column and the
leaving row, both phases with their budget, and the objective value.

Arithmetic is exact and `EPS` is zero. A run takes fuel, since the budget may be infinite;
a run from a feasible tableau returns within the number of bases.
-/

namespace GhostArk.ResearchFrontier.Unification

open Js
open Lib.Simplex
open ResearchFrontier.Occ (LpStatus)

/-- The tolerance, zero in exact arithmetic. -/
def EPS : ℚ := 0

/-- Structural columns, then one artificial column for each row. -/
abbrev SimplexSolver (rows structurals : ℕ) :=
  Tableau ℚ (Fin rows) (Fin (structurals + rows))

section Solver

variable {rows structurals : ℕ}

def newSolver (A : Fin rows → Fin structurals → ℚ) (b : Fin rows → ℚ) :
    SimplexSolver rows structurals where
  entry := fun row => Fin.addCases (A row) fun artificial => if artificial = row then 1 else 0
  rhs := b
  basis := fun row => Fin.natAdd structurals row

/-! ### One phase -/

/-- Columns that a phase lets enter. -/
def Allowed (isPhase1 : Bool) (column : Fin (structurals + rows)) : Prop :=
  isPhase1 = true ∨ column.val < structurals

instance decidableAllowed (isPhase1 : Bool) (column : Fin (structurals + rows)) :
    Decidable (Allowed isPhase1 column) :=
  inferInstanceAs (Decidable (_ ∨ _))

instance decidableIsBasic (solver : SimplexSolver rows structurals)
    (column : Fin (structurals + rows)) : Decidable (solver.IsBasic column) :=
  inferInstanceAs (Decidable (∃ _, _))

def enteringColumn (solver : SimplexSolver rows structurals) (c : Fin (structurals + rows) → ℚ)
    (isPhase1 : Bool) : Option (Fin (structurals + rows)) :=
  (List.finRange (structurals + rows)).find? fun column =>
    decide (Allowed isPhase1 column) && !decide (solver.IsBasic column) &&
      decide (solver.reducedCost c column < -EPS)

/-- The turn of one row in the ratio test, with the least ratio so far and its row. -/
def considerRow (solver : SimplexSolver rows structurals) (entering : Fin (structurals + rows))
    (best : Option (ℚ × Fin rows)) (row : Fin rows) : Option (ℚ × Fin rows) :=
  if EPS < solver.entry row entering then
    let ratio := solver.rhs row / solver.entry row entering
    match best with
    | none => some (ratio, row)
    | some (minRatio, leavingRow) =>
      if ratio < minRatio - EPS then some (ratio, row)
      else if |ratio - minRatio| ≤ EPS then
        -- of tied rows, the one with the lowest column in the basis leaves
        if solver.basis row < solver.basis leavingRow then some (minRatio, row)
        else some (minRatio, leavingRow)
      else some (minRatio, leavingRow)
  else best

def leavingRow (solver : SimplexSolver rows structurals)
    (entering : Fin (structurals + rows)) : Option (Fin rows) :=
  ((List.finRange rows).foldl (considerRow solver entering) none).map Prod.snd

/-- The loop of one phase, after `iterations` turns; none when out of fuel. -/
def runSimplex (c : Fin (structurals + rows) → ℚ) (isPhase1 : Bool) (maxIterations : JsNumber) :
    ℕ → ℕ → SimplexSolver rows structurals →
      Option (LpStatus × SimplexSolver rows structurals)
  | 0, _, _ => none
  | fuel + 1, iterations, solver =>
    if maxIterations.lt (.ofNat (iterations + 1)) then
      some (.EVALUATION_UNDECIDABLE, solver)
    else
      match enteringColumn solver c isPhase1 with
      | none => some (.OPTIMAL, solver)
      | some entering =>
        match leavingRow solver entering with
        | none => some (.UNBOUNDED, solver)
        | some leaving =>
          runSimplex c isPhase1 maxIterations fuel (iterations + 1)
            (solver.pivot leaving entering)

def phase1Costs : Fin (structurals + rows) → ℚ := Fin.addCases (fun _ => 0) fun _ => 1

/-- The costs of structural columns, of a minimisation. -/
def phase2Costs (costs : Fin structurals → ℚ) (maximize : Bool) : Fin (structurals + rows) → ℚ :=
  Fin.addCases (fun column => if maximize then -costs column else costs column) fun _ => 0

def artSum (solver : SimplexSolver rows structurals) : ℚ :=
  ∑ row, if structurals ≤ (solver.basis row).val then solver.rhs row else 0

def solve (fuel : ℕ) (solver : SimplexSolver rows structurals) (costs : Fin structurals → ℚ)
    (maximize : Bool) (maxIterations : JsNumber) :
    Option (LpStatus × SimplexSolver rows structurals) :=
  match runSimplex phase1Costs true maxIterations fuel 0 solver with
  | none => none
  | some (.UNBOUNDED, solver) => some (.UNBOUNDED, solver)
  | some (.EVALUATION_UNDECIDABLE, solver) => some (.EVALUATION_UNDECIDABLE, solver)
  | some (_, solver) =>
    if EPS < artSum solver then some (.INFEASIBLE, solver)
    else runSimplex (phase2Costs costs maximize) false maxIterations fuel 0 solver

def getObjectiveValue (solver : SimplexSolver rows structurals) (costs : Fin structurals → ℚ) :
    ℚ :=
  ∑ row, if structural : (solver.basis row).val < structurals then
    costs ⟨(solver.basis row).val, structural⟩ * solver.rhs row
  else 0

/-! ### What the choices are -/

variable {solver : SimplexSolver rows structurals} {c : Fin (structurals + rows) → ℚ}
  {isPhase1 : Bool} {entering : Fin (structurals + rows)} {leaving : Fin rows}

theorem isEntering_of_enteringColumn (found : enteringColumn solver c isPhase1 = some entering) :
    solver.IsEntering c (Allowed isPhase1) entering := by
  rw [enteringColumn, List.find?_eq_some_iff_append] at found
  rcases found with ⟨meets, before, after, columns, notBefore⟩
  simp only [EPS, neg_zero, Bool.and_eq_true, Bool.not_eq_true', decide_eq_true_eq,
    decide_eq_false_iff_not] at meets notBefore
  refine ⟨meets.1.1, meets.1.2, meets.2, ?_⟩
  intro column isLower isAllowed notBasic
  have sorted := List.pairwise_lt_finRange (structurals + rows)
  rw [columns, List.pairwise_append, List.pairwise_cons] at sorted
  have member := List.mem_finRange column
  rw [columns, List.mem_append, List.mem_cons] at member
  rcases member with isBefore | rfl | isAfter
  · have unmet := notBefore column isBefore
    simp only [isAllowed, notBasic, decide_true, decide_false, Bool.not_false, Bool.true_and,
      decide_eq_false_iff_not, not_lt] at unmet
    exact unmet
  · exact absurd isLower (lt_irrefl _)
  · exact absurd (isLower.trans (sorted.2.1.1 column isAfter)) (lt_irrefl _)

theorem reducedCost_nonneg_of_enteringColumn (found : enteringColumn solver c isPhase1 = none)
    {column : Fin (structurals + rows)} (isAllowed : Allowed isPhase1 column)
    (notBasic : ¬ solver.IsBasic column) : 0 ≤ solver.reducedCost c column := by
  rw [enteringColumn, List.find?_eq_none] at found
  have unmet := found column (List.mem_finRange column)
  simp only [isAllowed, notBasic, decide_true, decide_false, Bool.not_false, Bool.and_true,
    Bool.true_and, EPS, neg_zero, decide_eq_true_eq, not_lt] at unmet
  exact unmet

/-- The ratio test after some rows. -/
def IsBest (solver : SimplexSolver rows structurals) (entering : Fin (structurals + rows))
    (considered : List (Fin rows)) : Option (ℚ × Fin rows) → Prop
  | none => ∀ row ∈ considered, solver.entry row entering ≤ 0
  | some (minRatio, best) =>
    minRatio = solver.rhs best / solver.entry best entering ∧
      0 < solver.entry best entering ∧
        ∀ row ∈ considered, 0 < solver.entry row entering →
          minRatio ≤ solver.rhs row / solver.entry row entering ∧
            (solver.rhs row / solver.entry row entering = minRatio →
              solver.basis best ≤ solver.basis row)

theorem isBest_considerRow {considered : List (Fin rows)} {best : Option (ℚ × Fin rows)}
    (isBest : IsBest solver entering considered best) (row : Fin rows) :
    IsBest solver entering (considered ++ [row]) (considerRow solver entering best row) := by
  rw [considerRow]
  by_cases positive : EPS < solver.entry row entering
  · rw [if_pos positive]
    have isPositive : 0 < solver.entry row entering := positive
    cases best with
    | none =>
      refine ⟨rfl, isPositive, List.forall_mem_append.mpr
        ⟨fun other inConsidered isCandidate => ?_, List.forall_mem_singleton.mpr fun _ => ?_⟩⟩
      · exact absurd isCandidate (not_lt.mpr (isBest other inConsidered))
      · exact ⟨le_rfl, fun _ => le_rfl⟩
    | some found =>
      rcases found with ⟨minRatio, bestRow⟩
      rcases isBest with ⟨isRatio, bestPositive, least⟩
      simp only [EPS, sub_zero, abs_nonpos_iff, sub_eq_zero]
      split
      next lower =>
        refine ⟨rfl, isPositive, List.forall_mem_append.mpr
          ⟨fun other inConsidered isCandidate => ?_, List.forall_mem_singleton.mpr fun _ => ?_⟩⟩
        · have above := lower.trans_le (least other inConsidered isCandidate).1
          exact ⟨above.le, fun same => absurd same above.ne'⟩
        · exact ⟨le_rfl, fun _ => le_rfl⟩
      next notLower =>
        split
        next tied =>
          split
          next isFirst =>
            refine ⟨tied.symm, isPositive, List.forall_mem_append.mpr
              ⟨fun other inConsidered isCandidate => ?_,
                List.forall_mem_singleton.mpr fun _ => ?_⟩⟩
            · have found := least other inConsidered isCandidate
              exact ⟨found.1, fun same => isFirst.le.trans (found.2 same)⟩
            · exact ⟨tied.ge, fun _ => le_rfl⟩
          next notFirst =>
            exact ⟨isRatio, bestPositive, List.forall_mem_append.mpr
              ⟨least, List.forall_mem_singleton.mpr fun _ =>
                ⟨tied.ge, fun _ => not_lt.mp notFirst⟩⟩⟩
        next notTied =>
          exact ⟨isRatio, bestPositive, List.forall_mem_append.mpr
            ⟨least, List.forall_mem_singleton.mpr fun _ =>
              ⟨not_lt.mp notLower, fun same => absurd same notTied⟩⟩⟩
  · rw [if_neg positive]
    have notCandidate : ¬ 0 < solver.entry row entering := positive
    cases best with
    | none =>
      exact List.forall_mem_append.mpr
        ⟨isBest, List.forall_mem_singleton.mpr (not_lt.mp notCandidate)⟩
    | some found =>
      exact ⟨isBest.1, isBest.2.1, List.forall_mem_append.mpr
        ⟨isBest.2.2, List.forall_mem_singleton.mpr fun isCandidate =>
          absurd isCandidate notCandidate⟩⟩

theorem isBest_foldl (later : List (Fin rows)) {considered : List (Fin rows)}
    {best : Option (ℚ × Fin rows)} (isBest : IsBest solver entering considered best) :
    IsBest solver entering (considered ++ later)
      (later.foldl (considerRow solver entering) best) := by
  induction later generalizing considered best with
  | nil =>
    rw [List.append_nil]
    exact isBest
  | cons row rest ih =>
    rw [List.foldl_cons, ← List.singleton_append, ← List.append_assoc]
    exact ih (isBest_considerRow isBest row)

theorem isBest_finRange (solver : SimplexSolver rows structurals)
    (entering : Fin (structurals + rows)) :
    IsBest solver entering (List.finRange rows)
      ((List.finRange rows).foldl (considerRow solver entering) none) := by
  have atStart : IsBest solver entering [] none := fun _ member => absurd member List.not_mem_nil
  exact isBest_foldl (List.finRange rows) atStart

theorem isLeaving_of_leavingRow (found : leavingRow solver entering = some leaving) :
    solver.IsLeaving entering leaving := by
  have isBest := isBest_finRange solver entering
  rw [leavingRow, Option.map_eq_some_iff] at found
  rcases found with ⟨⟨minRatio, row⟩, isFound, rfl⟩
  rw [isFound] at isBest
  rcases isBest with ⟨rfl, positive, least⟩
  exact ⟨positive, fun other isCandidate => (least other (List.mem_finRange other) isCandidate).1,
    fun other isCandidate => (least other (List.mem_finRange other) isCandidate).2⟩

theorem entry_nonpos_of_leavingRow (found : leavingRow solver entering = none) (row : Fin rows) :
    solver.entry row entering ≤ 0 := by
  have isBest := isBest_finRange solver entering
  rw [leavingRow, Option.map_eq_none_iff] at found
  rw [found] at isBest
  exact isBest row (List.mem_finRange row)

theorem enteringColumn_of_isEntering
    (isEntering : solver.IsEntering c (Allowed isPhase1) entering) :
    enteringColumn solver c isPhase1 = some entering := by
  cases found : enteringColumn solver c isPhase1 with
  | none =>
    exact absurd isEntering.negative (not_lt.mpr (reducedCost_nonneg_of_enteringColumn found
      isEntering.isAllowed isEntering.notBasic))
  | some other => rw [(isEntering_of_enteringColumn found).unique isEntering]

theorem enteringColumn_of_nonneg
    (priced : ∀ column, Allowed isPhase1 column → 0 ≤ solver.reducedCost c column) :
    enteringColumn solver c isPhase1 = none := by
  cases found : enteringColumn solver c isPhase1 with
  | none => rfl
  | some other =>
    have isEntering := isEntering_of_enteringColumn found
    exact absurd isEntering.negative (not_lt.mpr (priced other isEntering.isAllowed))

theorem leavingRow_of_isLeaving (injective : Function.Injective solver.basis)
    (isLeaving : solver.IsLeaving entering leaving) :
    leavingRow solver entering = some leaving := by
  cases found : leavingRow solver entering with
  | none =>
    exact absurd isLeaving.positive (not_lt.mpr (entry_nonpos_of_leavingRow found leaving))
  | some other => rw [(isLeaving_of_leavingRow found).unique injective isLeaving]

/-! ### Runs of one phase -/

variable {maxIterations : JsNumber} {final : SimplexSolver rows structurals} {status : LpStatus}

inductive Ended (c : Fin (structurals + rows) → ℚ) (isPhase1 : Bool) (maxIterations : JsNumber) :
    LpStatus → SimplexSolver rows structurals → Prop where
  | optimal {final : SimplexSolver rows structurals}
      (priced : enteringColumn final c isPhase1 = none) :
      Ended c isPhase1 maxIterations .OPTIMAL final
  | unbounded {final : SimplexSolver rows structurals} (entering : Fin (structurals + rows))
      (unbounded : leavingRow final entering = none) :
      Ended c isPhase1 maxIterations .UNBOUNDED final
  | cut {final : SimplexSolver rows structurals} (iterations : ℕ)
      (isOver : maxIterations.lt (.ofNat iterations) = true) :
      Ended c isPhase1 maxIterations .EVALUATION_UNDECIDABLE final

/-- What every pivot keeps holds at the end of a phase. -/
theorem runSimplex_induction {holds : SimplexSolver rows structurals → Prop}
    (kept : ∀ solver entering leaving, holds solver →
      solver.IsEntering c (Allowed isPhase1) entering → solver.IsLeaving entering leaving →
        holds (solver.pivot leaving entering)) {fuel iterations : ℕ} (start : holds solver)
    (ran : runSimplex c isPhase1 maxIterations fuel iterations solver = some (status, final)) :
    holds final ∧ Ended c isPhase1 maxIterations status final := by
  induction fuel generalizing iterations solver with
  | zero => cases ran
  | succ fuel ih =>
    rw [runSimplex] at ran
    split at ran
    next isOver =>
      cases ran
      exact ⟨start, .cut (iterations + 1) isOver⟩
    next =>
      split at ran
      next priced =>
        cases ran
        exact ⟨start, .optimal priced⟩
      next entering isEntering =>
        split at ran
        next unbounded =>
          cases ran
          exact ⟨start, .unbounded entering unbounded⟩
        next leaving isLeaving =>
          exact ih (kept solver entering leaving start
            (isEntering_of_enteringColumn isEntering) (isLeaving_of_leavingRow isLeaving)) ran

theorem runSimplex_ended {fuel iterations : ℕ}
    (ran : runSimplex c isPhase1 maxIterations fuel iterations solver = some (status, final)) :
    Ended c isPhase1 maxIterations status final := by
  let anything : SimplexSolver rows structurals → Prop := fun _ => True
  have run : anything final ∧ Ended c isPhase1 maxIterations status final :=
    runSimplex_induction (fun _ _ _ held _ _ => held) trivial ran
  exact run.2

variable {result : LpStatus × SimplexSolver rows structurals}

theorem runSimplex_of_more {fuel more iterations : ℕ} (atLeast : fuel ≤ more)
    (ran : runSimplex c isPhase1 maxIterations fuel iterations solver = some result) :
    runSimplex c isPhase1 maxIterations more iterations solver = some result := by
  induction fuel generalizing more iterations solver with
  | zero => cases ran
  | succ fuel ih =>
    obtain ⟨more, rfl⟩ := Nat.exists_eq_add_one_of_ne_zero (Nat.pos_of_ne_zero
      (Nat.ne_zero_of_lt atLeast)).ne'
    rw [runSimplex] at ran ⊢
    split
    next isOver =>
      rw [if_pos isOver] at ran
      exact ran
    next inTime =>
      rw [if_neg inTime] at ran
      cases isEntering : enteringColumn solver c isPhase1 with
      | none =>
        rw [isEntering] at ran
        exact ran
      | some entering =>
        rw [isEntering] at ran
        cases isLeaving : leavingRow solver entering with
        | none =>
          simp only [isLeaving] at ran ⊢
          exact ran
        | some leaving =>
          simp only [isLeaving] at ran ⊢
          exact ih (Nat.le_of_succ_le_succ atLeast) ran

variable {costs : Fin structurals → ℚ} {maximize : Bool}

theorem solve_of_more {fuel more : ℕ} (atLeast : fuel ≤ more)
    (solved : solve fuel solver costs maximize maxIterations = some result) :
    solve more solver costs maximize maxIterations = some result := by
  rw [solve] at solved ⊢
  cases phase1 : runSimplex phase1Costs true maxIterations fuel 0 solver with
  | none =>
    rw [phase1] at solved
    cases solved
  | some middle =>
    rw [phase1] at solved
    rw [runSimplex_of_more atLeast phase1]
    rcases middle with ⟨status, middle⟩
    cases status with
    | UNBOUNDED | EVALUATION_UNDECIDABLE => exact solved
    | OPTIMAL | INFEASIBLE =>
      simp only at solved ⊢
      split
      next positive =>
        rw [if_pos positive] at solved
        exact solved
      next small =>
        rw [if_neg small] at solved
        exact runSimplex_of_more atLeast solved

/-- So many pivots, and then an optimum. -/
inductive Pivots (c : Fin (structurals + rows) → ℚ) (isPhase1 : Bool) :
    ℕ → SimplexSolver rows structurals → SimplexSolver rows structurals → Prop where
  | optimal {solver : SimplexSolver rows structurals}
      (priced : enteringColumn solver c isPhase1 = none) : Pivots c isPhase1 0 solver solver
  | pivot {count : ℕ} {solver final : SimplexSolver rows structurals}
      {entering : Fin (structurals + rows)} {leaving : Fin rows}
      (isEntering : enteringColumn solver c isPhase1 = some entering)
      (isLeaving : leavingRow solver entering = some leaving)
      (rest : Pivots c isPhase1 count (solver.pivot leaving entering) final) :
      Pivots c isPhase1 (count + 1) solver final

theorem lt_ofNat_mono {fewer more : ℕ} (isFewer : fewer ≤ more)
    (isOver : maxIterations.lt (.ofNat fewer) = true) :
    maxIterations.lt (.ofNat more) = true := by
  cases maxIterations with
  | finite value =>
    simp only [JsNumber.lt, JsNumber.ofNat, decide_eq_true_eq] at isOver ⊢
    exact isOver.trans_le (Nat.cast_le.mpr isFewer)
  | negativeInfinity => rfl
  | positiveInfinity => cases isOver
  | nan => cases isOver

theorem runSimplex_of_pivots {count fuel : ℕ} (iterations : ℕ)
    (pivots : Pivots c isPhase1 count solver final) (enough : count < fuel) :
    (maxIterations.lt (.ofNat (iterations + count + 1)) = false →
      runSimplex c isPhase1 maxIterations fuel iterations solver = some (.OPTIMAL, final)) ∧
    (maxIterations.lt (.ofNat (iterations + count + 1)) = true →
      ∃ other, runSimplex c isPhase1 maxIterations fuel iterations solver =
        some (.EVALUATION_UNDECIDABLE, other)) := by
  induction pivots generalizing fuel iterations with
  | optimal priced =>
    rcases Nat.exists_eq_add_of_lt enough with ⟨spare, rfl⟩
    rw [Nat.add_zero, runSimplex]
    constructor
    · intro inTime
      rw [inTime, priced]
      rfl
    · intro isOver
      rw [isOver]
      exact ⟨_, rfl⟩
  | @pivot count solver final entering leaving isEntering isLeaving rest ih =>
    cases fuel with
    | zero => exact absurd enough (Nat.not_lt_zero _)
    | succ fuel =>
      have onward := ih (iterations + 1) (Nat.lt_of_succ_lt_succ enough)
      have sameTurn : iterations + 1 + count + 1 = iterations + (count + 1) + 1 := by omega
      rw [sameTurn] at onward
      rw [runSimplex]
      cases isOver : maxIterations.lt (.ofNat (iterations + 1)) with
      | true =>
        have isLarger := lt_ofNat_mono (by omega :
          iterations + 1 ≤ iterations + (count + 1) + 1) isOver
        rw [isLarger]
        exact ⟨fun inTime => Bool.noConfusion inTime, fun _ => ⟨_, rfl⟩⟩
      | false =>
        simp only [Bool.false_eq_true, if_false, isEntering, isLeaving]
        exact onward

section Kept

variable {system : System ℚ (Fin rows) (Fin (structurals + rows))}

theorem runSimplex_represents {fuel iterations : ℕ} (represents : solver.Represents system)
    (feasible : solver.Feasible)
    (ran : runSimplex c isPhase1 maxIterations fuel iterations solver = some (status, final)) :
    final.Represents system ∧ final.Feasible := by
  let sound (solver : SimplexSolver rows structurals) : Prop :=
    solver.Represents system ∧ solver.Feasible
  have run : sound final ∧ Ended c isPhase1 maxIterations status final := by
    refine runSimplex_induction ?_ ⟨represents, feasible⟩ ran
    intro solver entering leaving held _ isLeaving
    exact ⟨held.1.pivot isLeaving.positive.ne', held.2.pivot isLeaving⟩
  exact run.1

/-- Where no column may enter, prices are at most the costs of allowed columns, meet those of the
basis, and give the objective. -/
theorem exists_prices_of_enteringColumn (represents : final.Represents system)
    (priced : enteringColumn final c isPhase1 = none) :
    ∃ price : Fin rows → ℚ,
      (∀ column, Allowed isPhase1 column →
        ∑ row, price row * system.column column row ≤ c column) ∧
      (∀ row, ∑ inner, price inner * system.column (final.basis row) inner =
        c (final.basis row)) ∧
      final.objective c = ∑ row, price row * system.bound row := by
  rcases represents.exists_prices c with ⟨price, prices, isObjective⟩
  refine ⟨price, fun column isAllowed => ?_, fun row => ?_, isObjective⟩
  · rw [← prices]
    apply sub_le_self
    by_cases isBasic : final.IsBasic column
    · exact (represents.reducedCost_of_isBasic isBasic).ge
    · exact reducedCost_nonneg_of_enteringColumn priced isAllowed isBasic
  · rw [← prices, represents.reducedCost_basis, sub_zero]

end Kept

def advance (c : Fin (structurals + rows) → ℚ) (isPhase1 : Bool)
    (solver : SimplexSolver rows structurals) : SimplexSolver rows structurals :=
  match enteringColumn solver c isPhase1 with
  | none => solver
  | some entering =>
    match leavingRow solver entering with
    | none => solver
    | some leaving => solver.pivot leaving entering

variable {system : System ℚ (Fin rows) (Fin (structurals + rows))}

theorem blandRun_of_runSimplex {fuel iterations : ℕ} (represents : solver.Represents system)
    (feasible : solver.Feasible)
    (ran : runSimplex c isPhase1 maxIterations fuel iterations solver = none) :
    BlandRun system c (Allowed isPhase1) (fun time => (advance c isPhase1)^[time] solver) 0
      fuel := by
  induction fuel generalizing iterations solver with
  | zero =>
    refine ⟨fun time _ before => ?_, fun time _ before => ?_, fun time _ before => ?_⟩
    · rw [Nat.le_zero.mp before]
      exact represents
    · rw [Nat.le_zero.mp before]
      exact feasible
    · exact absurd before (Nat.not_lt_zero time)
  | succ fuel ih =>
    rw [runSimplex] at ran
    split at ran
    next => cases ran
    next =>
      split at ran
      next => cases ran
      next entering isEntering =>
        split at ran
        next => cases ran
        next leaving isLeaving =>
          have isLeaving' := isLeaving_of_leavingRow isLeaving
          have advances : advance c isPhase1 solver = solver.pivot leaving entering := by
            simp only [advance, isEntering, isLeaving]
          have rest := ih (represents.pivot isLeaving'.positive.ne')
            (feasible.pivot isLeaving') ran
          rw [← advances] at rest
          refine ⟨fun time after before => ?_, fun time after before => ?_,
            fun time after before => ?_⟩
          · cases time with
            | zero => exact represents
            | succ time =>
              exact rest.represents time (Nat.zero_le time) (Nat.le_of_succ_le_succ before)
          · cases time with
            | zero => exact feasible
            | succ time =>
              exact rest.feasible time (Nat.zero_le time) (Nat.le_of_succ_le_succ before)
          · cases time with
            | zero =>
              exact ⟨entering, leaving, isEntering_of_enteringColumn isEntering, isLeaving',
                advances⟩
            | succ time => exact rest.step time (Nat.zero_le time) (Nat.lt_of_succ_lt_succ before)

theorem exists_runSimplex {fuel : ℕ} (represents : solver.Represents system)
    (feasible : solver.Feasible) (enough : (structurals + rows) ^ rows ≤ fuel) (iterations : ℕ) :
    ∃ status final, runSimplex c isPhase1 maxIterations fuel iterations solver =
      some (status, final) := by
  cases ran : runSimplex c isPhase1 maxIterations fuel iterations solver with
  | some result => exact ⟨result.1, result.2, rfl⟩
  | none =>
    have short := (blandRun_of_runSimplex represents feasible ran).length_lt
    rw [Fintype.card_fin, Fintype.card_fin] at short
    exact absurd enough (not_le.mpr short)

/-! ### The program that a solver starts from -/

variable {A : Fin rows → Fin structurals → ℚ} {b : Fin rows → ℚ}

def systemOf (A : Fin rows → Fin structurals → ℚ) (b : Fin rows → ℚ) :
    System ℚ (Fin rows) (Fin (structurals + rows)) where
  column := fun column row =>
    Fin.addCases (A row) (fun artificial => if artificial = row then 1 else 0) column
  bound := b

theorem priced_structural (price : Fin rows → ℚ) (column : Fin structurals) :
    ∑ row, price row * (systemOf A b).column (Fin.castAdd rows column) row =
      ∑ row, price row * A row column := by
  simp only [systemOf, Fin.addCases_left]

theorem priced_artificial (price : Fin rows → ℚ) (artificial : Fin rows) :
    ∑ row, price row * (systemOf A b).column (Fin.natAdd structurals artificial) row =
      price artificial := by
  simp only [systemOf, Fin.addCases_right, mul_ite, mul_one, mul_zero, Finset.sum_ite_eq,
    Finset.mem_univ, if_true]

theorem newSolver_represents (A : Fin rows → Fin structurals → ℚ) (b : Fin rows → ℚ) :
    (newSolver A b).Represents (systemOf A b) := by
  constructor
  · refine ⟨1, fun row column => ?_, fun row => ?_⟩
    · simp only [Matrix.one_apply, ite_mul, one_mul, zero_mul, Finset.sum_ite_eq,
        Finset.mem_univ, if_true]
      rfl
    · simp only [Matrix.one_apply, ite_mul, one_mul, zero_mul, Finset.sum_ite_eq,
        Finset.mem_univ, if_true]
      rfl
  · intro row other
    simp only [newSolver, Fin.addCases_right, eq_comm]

theorem structural_or_artificial (column : Fin (structurals + rows)) :
    (∃ structural, column = Fin.castAdd rows structural) ∨
      ∃ artificial, column = Fin.natAdd structurals artificial := by
  refine Fin.addCases (fun structural => ?_) (fun artificial => ?_) column
  · exact Or.inl ⟨structural, rfl⟩
  · exact Or.inr ⟨artificial, rfl⟩

theorem artSum_eq (solver : SimplexSolver rows structurals) :
    artSum solver = solver.objective phase1Costs := by
  refine Finset.sum_congr rfl fun row _ => ?_
  rcases structural_or_artificial (solver.basis row) with ⟨column, same⟩ | ⟨artificial, same⟩
  · rw [same, phase1Costs, Fin.addCases_left, Fin.val_castAdd, zero_mul,
      if_neg (not_le.mpr column.isLt)]
  · rw [same, phase1Costs, Fin.addCases_right, Fin.val_natAdd, one_mul,
      if_pos (Nat.le_add_right _ _)]

theorem objective_phase2Costs (solver : SimplexSolver rows structurals)
    (costs : Fin structurals → ℚ) (maximize : Bool) :
    solver.objective (phase2Costs costs maximize) =
      if maximize then -getObjectiveValue solver costs else getObjectiveValue solver costs := by
  have term (row : Fin rows) : phase2Costs costs maximize (solver.basis row) * solver.rhs row =
      if maximize then -(if structural : (solver.basis row).val < structurals then
          costs ⟨(solver.basis row).val, structural⟩ * solver.rhs row else 0)
        else if structural : (solver.basis row).val < structurals then
          costs ⟨(solver.basis row).val, structural⟩ * solver.rhs row else 0 := by
    rcases structural_or_artificial (solver.basis row) with ⟨column, same⟩ | ⟨artificial, same⟩
    · simp only [same, phase2Costs, Fin.addCases_left, Fin.val_castAdd, column.isLt, dif_pos]
      cases maximize with
      | true => exact neg_mul _ _
      | false => rfl
    · simp only [same, phase2Costs, Fin.addCases_right, Fin.val_natAdd, zero_mul,
        Nat.not_lt.mpr (Nat.le_add_right _ _), dif_neg, not_false_iff, neg_zero, ite_self]
  simp only [Tableau.objective, term, getObjectiveValue]
  cases maximize with
  | true => simp only [if_true, Finset.sum_neg_distrib]
  | false => rfl

theorem solve_optimal {fuel : ℕ}
    (solved : solve fuel solver costs maximize maxIterations = some (.OPTIMAL, final)) :
    ∃ middle, runSimplex phase1Costs true maxIterations fuel 0 solver = some (.OPTIMAL, middle) ∧
      artSum middle ≤ 0 ∧
        runSimplex (phase2Costs costs maximize) false maxIterations fuel 0 middle =
          some (.OPTIMAL, final) := by
  rw [solve] at solved
  split at solved
  next => cases solved
  next => cases solved
  next => cases solved
  next status middle notUnbounded notCut ran =>
    have ended := runSimplex_ended ran
    split at solved
    next => cases solved
    next small =>
      have isOptimal : status = .OPTIMAL := by
        cases ended with
        | optimal priced => rfl
        | unbounded entering unbounded => exact absurd rfl notUnbounded
        | cut iterations isOver => exact absurd rfl notCut
      rw [isOptimal] at ran
      exact ⟨middle, ran, not_lt.mp small, solved⟩

theorem solve_of_phases {fuel : ℕ} {middle : SimplexSolver rows structurals}
    (phase1 : runSimplex phase1Costs true maxIterations fuel 0 solver = some (.OPTIMAL, middle))
    (small : artSum middle ≤ 0) :
    solve fuel solver costs maximize maxIterations =
      runSimplex (phase2Costs costs maximize) false maxIterations fuel 0 middle := by
  rw [solve, phase1]
  exact if_neg (not_lt.mpr small)

section Pivots

variable {count count' fuel : ℕ} {middle : SimplexSolver rows structurals}
  {costs : Fin structurals → ℚ} {maximize : Bool}

theorem solve_of_cut (phase1 : Pivots phase1Costs true count solver middle)
    (enough : count < fuel) (isOver : maxIterations.lt (.ofNat (count + 1)) = true) :
    ∃ other, solve fuel solver costs maximize maxIterations =
      some (.EVALUATION_UNDECIDABLE, other) := by
  rw [← Nat.zero_add count] at isOver
  rcases (runSimplex_of_pivots 0 phase1 enough).2 isOver with ⟨other, ran⟩
  exact ⟨other, by rw [solve, ran]⟩

theorem solve_of_infeasible (phase1 : Pivots phase1Costs true count solver middle)
    (enough : count < fuel) (inTime : maxIterations.lt (.ofNat (count + 1)) = false)
    (positive : 0 < artSum middle) :
    solve fuel solver costs maximize maxIterations = some (.INFEASIBLE, middle) := by
  rw [← Nat.zero_add count] at inTime
  rw [solve, (runSimplex_of_pivots 0 phase1 enough).1 inTime]
  exact if_pos positive

theorem solve_of_optimal (phase1 : Pivots phase1Costs true count solver middle)
    (phase2 : Pivots (phase2Costs costs maximize) false count' middle final)
    (enough : count < fuel) (isShorter : count' ≤ count)
    (inTime : maxIterations.lt (.ofNat (count + 1)) = false) (small : artSum middle ≤ 0) :
    solve fuel solver costs maximize maxIterations = some (.OPTIMAL, final) := by
  have inTime' : maxIterations.lt (.ofNat (0 + count' + 1)) = false := by
    rw [Bool.eq_false_iff]
    intro isOver
    rw [lt_ofNat_mono (by omega) isOver] at inTime
    cases inTime
  rw [← Nat.zero_add count] at inTime
  rw [solve_of_phases ((runSimplex_of_pivots 0 phase1 enough).1 inTime) small]
  exact (runSimplex_of_pivots 0 phase2 (isShorter.trans_lt enough)).1 inTime'

end Pivots

end Solver

end GhostArk.ResearchFrontier.Unification
