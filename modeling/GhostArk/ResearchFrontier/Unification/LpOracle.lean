import GhostArk.ResearchFrontier.Unification.SimplexSolver

/-!
Contract: `LpOracle` of `packages/research-frontier/src/unification/lpOracle.ts`.

Owns the atoms of both regimes, the linear program over them, and the four solves of
`exactBounds`.

Atoms are counted by a 32-bit shift, as in the source. The fuel is that of the solves.
-/

namespace GhostArk.ResearchFrontier.Unification

open Js
open ResearchFrontier.Occ (LpStatus)

inductive Regime where
  | SPATIAL_EXCHANGEABILITY
  | TEMPORAL_STOPPING
deriving DecidableEq

structure Bounds where
  min : ℚ
  max : ℚ
  status : LpStatus
deriving DecidableEq

structure ExactBoundsResult where
  union : Bounds
  intersection : Bounds
deriving DecidableEq

/-- The turns of a loop up to `1 << k`. -/
def hypercubeAtoms (k : ℕ) : ℕ := ((1#32) <<< (k % 32)).toInt.toNat

def atomCount : Regime → ℕ → ℕ
  | .SPATIAL_EXCHANGEABILITY, k => hypercubeAtoms k
  | .TEMPORAL_STOPPING, k => k + 1

/-- The entry of an atom: `(i >> bit) & 1`, or one at the position of a unit vector. -/
def atom : (regime : Regime) → (k : ℕ) → Fin (atomCount regime k) → Fin k → ℕ
  | .SPATIAL_EXCHANGEABILITY, _, index, bit => (index.val >>> (bit.val % 32)) % 2
  | .TEMPORAL_STOPPING, _, index, bit => if index.val = bit.val + 1 then 1 else 0

section Program

variable (regime : Regime) {k : ℕ}

def popcount (index : Fin (atomCount regime k)) : ℕ := ∑ bit, atom regime k index bit

/-- The sum of probabilities, then one row for each marginal. -/
def constraints : Fin (k + 1) → Fin (atomCount regime k) → ℚ :=
  Fin.cons (fun _ => 1) fun bit index => atom regime k index bit

def constraintBounds (marginals : Fin k → ℚ) : Fin (k + 1) → ℚ := Fin.cons 1 marginals

def unionCosts (index : Fin (atomCount regime k)) : ℚ :=
  if 1 ≤ popcount regime index then 1 else 0

def intersectionCosts (index : Fin (atomCount regime k)) : ℚ :=
  if popcount regime index = k then 1 else 0

def solveFor (fuel : ℕ) (marginals : Fin k → ℚ) (maxIterations : JsNumber)
    (costs : Fin (atomCount regime k) → ℚ) (maximize : Bool) :
    Option (LpStatus × SimplexSolver (k + 1) (atomCount regime k)) :=
  solve fuel (newSolver (constraints regime) (constraintBounds marginals)) costs maximize
    maxIterations

/-- The objective value of an optimal solve, zero of any other. -/
def reported (costs : Fin (atomCount regime k) → ℚ)
    (solved : LpStatus × SimplexSolver (k + 1) (atomCount regime k)) : ℚ :=
  if solved.1 = .OPTIMAL then getObjectiveValue solved.2 costs else 0

def boundsOf (fuel : ℕ) (marginals : Fin k → ℚ) (maxIterations : JsNumber)
    (costs : Fin (atomCount regime k) → ℚ) : Option Bounds := do
  let least ← solveFor regime fuel marginals maxIterations costs false
  let greatest ← solveFor regime fuel marginals maxIterations costs true
  return ⟨reported regime costs least, reported regime costs greatest, least.1⟩

def exactBounds (fuel : ℕ) (marginals : List ℚ) (maxIterations : JsNumber) :
    Option ExactBoundsResult := do
  let union ← boundsOf regime fuel marginals.get maxIterations (unionCosts regime)
  let intersection ← boundsOf regime fuel marginals.get maxIterations (intersectionCosts regime)
  return ⟨union, intersection⟩

variable {regime}

variable {maxIterations : JsNumber}

variable {costs : Fin (atomCount regime k) → ℚ}

theorem boundsOf_eq {fuel : ℕ} {marginals : Fin k → ℚ}
    {least greatest : LpStatus × SimplexSolver (k + 1) (atomCount regime k)}
    (solvedMin : solveFor regime fuel marginals maxIterations costs false = some least)
    (solvedMax : solveFor regime fuel marginals maxIterations costs true = some greatest) :
    boundsOf regime fuel marginals maxIterations costs =
      some ⟨reported regime costs least, reported regime costs greatest, least.1⟩ := by
  rw [boundsOf, solvedMin, solvedMax]
  rfl

theorem boundsOf_of_more {fuel more : ℕ} {marginals : Fin k → ℚ} {bounds : Bounds}
    (atLeast : fuel ≤ more)
    (returned : boundsOf regime fuel marginals maxIterations costs = some bounds) :
    boundsOf regime more marginals maxIterations costs = some bounds := by
  rcases Option.bind_eq_some_iff.mp returned with ⟨least, solvedMin, afterMin⟩
  rcases Option.bind_eq_some_iff.mp afterMin with ⟨greatest, solvedMax, isBounds⟩
  rw [boundsOf_eq (solve_of_more atLeast solvedMin) (solve_of_more atLeast solvedMax)]
  exact isBounds

theorem exactBounds_of_more {fuel more : ℕ} {marginals : List ℚ} {result : ExactBoundsResult}
    (atLeast : fuel ≤ more)
    (returned : exactBounds regime fuel marginals maxIterations = some result) :
    exactBounds regime more marginals maxIterations = some result := by
  rcases Option.bind_eq_some_iff.mp returned with ⟨union, returnedUnion, afterUnion⟩
  rcases Option.bind_eq_some_iff.mp afterUnion with ⟨intersection, returnedIntersection, isResult⟩
  rw [exactBounds, boundsOf_of_more atLeast returnedUnion,
    boundsOf_of_more atLeast returnedIntersection]
  exact isResult

theorem exactBounds_unique {fuel other : ℕ} {marginals : List ℚ}
    {result result' : ExactBoundsResult}
    (returned : exactBounds regime fuel marginals maxIterations = some result)
    (returned' : exactBounds regime other marginals maxIterations = some result') :
    result = result' := by
  have left := exactBounds_of_more (le_max_left fuel other) returned
  have right := exactBounds_of_more (le_max_right fuel other) returned'
  rw [left] at right
  exact Option.some.inj right

end Program

theorem sum_get (marginals : List ℚ) : ∑ bit, marginals.get bit = marginals.sum := by
  rw [← List.sum_ofFn, List.ofFn_get]

end GhostArk.ResearchFrontier.Unification
