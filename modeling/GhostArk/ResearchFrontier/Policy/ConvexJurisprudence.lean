import Mathlib.Algebra.BigOperators.Group.Finset.Basic
import GhostArk.ResearchFrontier.Containment.MutationAtomicity

/-!
Contract: `packages/research-frontier/src/policy/convex_jurisprudence_compiler.ts`.

Owns compiled constraints, the test of a vector over exact numbers, when a vector that is reported
safe lies in the declared region, and what that leaves of the gate that runs the test: a component
that is missing is NaN, and NaN is never beyond a bound.

Does not own: rounding. Numbers are added and multiplied exactly.
-/

namespace GhostArk.ResearchFrontier.Policy

open Js
open ResearchFrontier.Containment
open ResearchFrontier.Occ

/-- `left + right`, without rounding. -/
def exactAdd : JsNumber → JsNumber → JsNumber
  | .finite left, .finite right => .finite (left + right)
  | .nan, _ => .nan
  | _, .nan => .nan
  | .positiveInfinity, .negativeInfinity => .nan
  | .negativeInfinity, .positiveInfinity => .nan
  | .finite _, right => right
  | left, _ => left

/-- `left * right`, without rounding. -/
def exactMul : JsNumber → JsNumber → JsNumber
  | .finite left, .finite right => .finite (left * right)
  | .nan, _ => .nan
  | _, .nan => .nan
  | left, right =>
    if left = .finite 0 ∨ right = .finite 0 then .nan
    else if left.lt (.finite 0) = right.lt (.finite 0) then .positiveInfinity
    else .negativeInfinity

@[simp] theorem exactAdd_nan (number : JsNumber) : exactAdd number .nan = .nan := by
  cases number <;> rfl

@[simp] theorem nan_exactAdd (number : JsNumber) : exactAdd .nan number = .nan := by
  cases number <;> rfl

@[simp] theorem nan_exactMul (number : JsNumber) : exactMul .nan number = .nan := by
  cases number <;> rfl

/-! ### Constraints and vectors -/

structure GeometricConstraint where
  id : JsString
  /-- The row `A_i`. -/
  coefficients : List ℚ
  /-- The limit `b_i`. -/
  bound : ℚ
  description : JsString

/-- The constraints that were compiled, each with a coefficient for every dimension. -/
structure ConvexJurisprudenceMatrix where
  dimensions : Nat
  constraints : List GeometricConstraint
  measured : ∀ plane ∈ constraints, plane.coefficients.length = dimensions

/-- What stands in a place of a vector. -/
inductive Component where
  | number (value : JsNumber)
  | undefined
  | hole

namespace Component

/-- The operand that a component is in a product. -/
def toNumber : Component → JsNumber
  | number value => value
  | undefined => .nan
  | hole => .nan

def toJs : Component → JsValue
  | number value => .number value
  | undefined => .undefined
  | hole => .hole

/-- A rational number, or missing. -/
def IsExact : Component → Prop
  | number value => value.isFinite = true
  | _ => True

end Component

/-- `vectorV[i]` as an operand; behind the end it is `undefined`. -/
def componentAt (vectorV : List Component) (i : Nat) : JsNumber :=
  (vectorV[i]?.getD .undefined).toNumber

def coefficientAt (plane : GeometricConstraint) (i : Nat) : JsNumber :=
  (plane.coefficients[i]?.map JsNumber.finite).getD .nan

def dotProduct (dimensions : Nat) (vectorV : List Component) (plane : GeometricConstraint) :
    JsNumber :=
  (List.range dimensions).foldl
    (fun dotProduct i => exactAdd dotProduct
      (exactMul (componentAt vectorV i) (coefficientAt plane i))) (.finite 0)

inductive TrajectoryStatus where
  | SAFE
  | GEOMETRIC_COLLISION
deriving DecidableEq

structure TrajectoryResult where
  status : TrajectoryStatus
  interceptPlane : Option GeometricConstraint
  witnessHash : Option JsString

def collisionRecord (vectorV : List Component) (plane : GeometricConstraint)
    (dotProduct : JsNumber) : JsValue :=
  .object [(js "type", .string (js "GEOMETRIC_COLLISION")),
    (js "vector", .array (vectorV.map Component.toJs)), (js "hyperplane_id", .string plane.id),
    (js "intercept_val", .number dotProduct), (js "limit", .number (.finite plane.bound))]

namespace ConvexJurisprudenceMatrix

def new (dimensions : Nat) : ConvexJurisprudenceMatrix where
  dimensions := dimensions
  constraints := []
  measured := by simp

def compileHumanLawToHyperplane (matrix : ConvexJurisprudenceMatrix) (id : JsString)
    (coefficients : List ℚ) (bound : ℚ) (description : JsString) :
    Except JsError ConvexJurisprudenceMatrix :=
  if fits : coefficients.length = matrix.dimensions then
    .ok {
      dimensions := matrix.dimensions
      constraints := matrix.constraints ++ [⟨id, coefficients, bound, description⟩]
      measured := by
        intro plane member
        rcases List.mem_append.mp member with before | added
        · exact matrix.measured plane before
        · rw [List.mem_singleton.mp added]
          exact fits }
  else .error (.plain (js "Geometric Mismatch: Law dimensions do not match Vector geometry."))

section Verify

variable (runtime : Runtime) (hostState : HostState)

def verifyPlanes (dimensions : Nat) (vectorV : List Component) :
    List GeometricConstraint → Except JsError TrajectoryResult
  | [] => .ok ⟨.SAFE, none, none⟩
  | plane :: rest =>
    let dotProduct := dotProduct dimensions vectorV plane
    if (JsNumber.finite plane.bound).lt dotProduct then do
      let witness ← canonicalStateDigest runtime hostState
        (collisionRecord vectorV plane dotProduct)
      return ⟨.GEOMETRIC_COLLISION, some plane, some witness.hashHex⟩
    else verifyPlanes dimensions vectorV rest

def verifyTrajectory (matrix : ConvexJurisprudenceMatrix) (vectorV : List Component) :
    Except JsError TrajectoryResult :=
  verifyPlanes runtime hostState matrix.dimensions vectorV matrix.constraints

/-- The test as the gate runs it. -/
def collides (matrix : ConvexJurisprudenceMatrix) (boundVector : List JsNumber) :
    Except JsError Bool :=
  (matrix.verifyTrajectory runtime hostState (boundVector.map .number)).map
    fun result => result.status = .GEOMETRIC_COLLISION

end Verify

end ConvexJurisprudenceMatrix

/-! ### The declared region -/

/-- The vector has a number in each of the dimensions. -/
def IsComplete (dimensions : Nat) (vectorV : List Component) : Prop :=
  ∀ i < dimensions, ∃ value, vectorV[i]? = some (.number value)

def rationalAt (vectorV : List Component) (i : Nat) : ℚ :=
  match componentAt vectorV i with
  | .finite value => value
  | _ => 0

/-- `A_i * V`. -/
def weighed (dimensions : Nat) (vectorV : List Component) (plane : GeometricConstraint) : ℚ :=
  ∑ i ∈ Finset.range dimensions, rationalAt vectorV i * plane.coefficients.getD i 0

/-- A number in each dimension, and every inequality. -/
structure InRegion (matrix : ConvexJurisprudenceMatrix) (vectorV : List Component) : Prop where
  complete : IsComplete matrix.dimensions vectorV
  within : ∀ plane ∈ matrix.constraints, weighed matrix.dimensions vectorV plane ≤ plane.bound

section Dot

variable {dimensions : Nat} {vectorV : List Component} {plane : GeometricConstraint}

theorem dotProduct_succ (dimensions : Nat) (vectorV : List Component)
    (plane : GeometricConstraint) :
    dotProduct (dimensions + 1) vectorV plane =
      exactAdd (dotProduct dimensions vectorV plane)
        (exactMul (componentAt vectorV dimensions) (coefficientAt plane dimensions)) := by
  rw [dotProduct, List.range_succ, List.foldl_append]
  rfl

theorem dotProduct_of_missing {i : Nat} (inside : i < dimensions)
    (missing : componentAt vectorV i = .nan) : dotProduct dimensions vectorV plane = .nan := by
  induction dimensions with
  | zero => omega
  | succ dimensions ih =>
    rw [dotProduct_succ]
    rcases Nat.lt_succ_iff_lt_or_eq.mp inside with before | rfl
    · rw [ih before, nan_exactAdd]
    · rw [missing, nan_exactMul, exactAdd_nan]

theorem dotProduct_of_finite
    (finite : ∀ i < dimensions, componentAt vectorV i = .finite (rationalAt vectorV i))
    (measured : dimensions ≤ plane.coefficients.length) :
    dotProduct dimensions vectorV plane = .finite (weighed dimensions vectorV plane) := by
  induction dimensions with
  | zero => rfl
  | succ dimensions ih =>
    have before := ih (fun i inside => finite i (by omega)) (by omega)
    have inCoefficients : dimensions < plane.coefficients.length := measured
    have isCoefficient : coefficientAt plane dimensions =
        .finite (plane.coefficients.getD dimensions 0) := by
      rw [coefficientAt, List.getD_eq_getElem?_getD, List.getElem?_eq_getElem inCoefficients]
      rfl
    rw [dotProduct_succ, before, finite dimensions (Nat.lt_succ_self _), isCoefficient, weighed,
      weighed, Finset.sum_range_succ]
    rfl

end Dot

section Soundness

variable {runtime : Runtime} {hostState : HostState} {matrix : ConvexJurisprudenceMatrix}
  {vectorV : List Component}

variable {dimensions : Nat}

theorem verifyPlanes_safe_iff {planes : List GeometricConstraint} :
    (∃ result, ConvexJurisprudenceMatrix.verifyPlanes runtime hostState dimensions vectorV planes =
        .ok result ∧ result.status = .SAFE) ↔
      ∀ plane ∈ planes,
        (JsNumber.finite plane.bound).lt (dotProduct dimensions vectorV plane) = false := by
  induction planes with
  | nil => exact iff_of_true ⟨_, rfl, rfl⟩ (List.forall_mem_nil _)
  | cons plane rest ih =>
    rw [List.forall_mem_cons, ConvexJurisprudenceMatrix.verifyPlanes]
    cases beyond : (JsNumber.finite plane.bound).lt (dotProduct dimensions vectorV plane) with
    | false => simpa using ih
    | true =>
      refine iff_of_false ?_ fun safe => Bool.false_ne_true safe.1.symm
      rintro ⟨result, returned, safe⟩
      rcases bind_eq_ok.mp returned with ⟨witness, -, isResult⟩
      rw [← pure_eq_ok.mp isResult] at safe
      cases safe

theorem verifyTrajectory_safe_iff :
    (∃ result, matrix.verifyTrajectory runtime hostState vectorV = .ok result ∧
        result.status = .SAFE) ↔
      ∀ plane ∈ matrix.constraints, (JsNumber.finite plane.bound).lt
        (dotProduct matrix.dimensions vectorV plane) = false :=
  verifyPlanes_safe_iff

theorem componentAt_of_incomplete (incomplete : ¬ IsComplete dimensions vectorV) :
    ∃ i < dimensions, componentAt vectorV i = .nan := by
  unfold IsComplete at incomplete
  push Not at incomplete
  rcases incomplete with ⟨i, inside, notNumber⟩
  refine ⟨i, inside, ?_⟩
  rw [componentAt]
  cases place : vectorV[i]? with
  | none => rfl
  | some component =>
    cases component with
    | number value => exact absurd place (notNumber value)
    | undefined => rfl
    | hole => rfl

theorem componentAt_of_complete (rational : ∀ component ∈ vectorV, component.IsExact)
    (complete : IsComplete dimensions vectorV) {i : Nat} (inside : i < dimensions) :
    componentAt vectorV i = .finite (rationalAt vectorV i) := by
  rcases complete i inside with ⟨value, place⟩
  have isComponent : componentAt vectorV i = value := by
    rw [componentAt, place]
    rfl
  have isFinite : value.isFinite = true := rational _ (List.mem_of_getElem? place)
  rw [rationalAt, isComponent]
  cases value with
  | finite rational => rfl
  | _ => cases isFinite

theorem inRegion_of_safe (rational : ∀ component ∈ vectorV, component.IsExact)
    (complete : IsComplete matrix.dimensions vectorV)
    (safe : ∃ result, matrix.verifyTrajectory runtime hostState vectorV = .ok result ∧
      result.status = .SAFE) : InRegion matrix vectorV := by
  refine ⟨complete, fun plane member => ?_⟩
  have notBeyond := verifyTrajectory_safe_iff.mp safe plane member
  rw [dotProduct_of_finite (fun i inside => componentAt_of_complete rational complete inside)
    (matrix.measured plane member).ge] at notBeyond
  exact not_lt.mp (of_decide_eq_false notBeyond)

theorem safe_of_incomplete (incomplete : ¬ IsComplete matrix.dimensions vectorV) :
    ∃ result, matrix.verifyTrajectory runtime hostState vectorV = .ok result ∧
      result.status = .SAFE := by
  rcases componentAt_of_incomplete incomplete with ⟨i, inside, missing⟩
  refine verifyTrajectory_safe_iff.mpr fun plane _ => ?_
  rw [dotProduct_of_missing inside missing]
  rfl

theorem breachesBounds_of_committed {hostJson : HostJson} {policy : ScopePolicy}
    {ledger : WorldLedger} {agent : EpistemicWindowAgent} {mutation : ProposedMutation}
    {issued : MutationReceipt}
    (returned : (commit runtime hostJson hostState policy ledger agent mutation).outcome =
      .ok issued)
    (committed : issued.verdict = .COMMITTED) : breachesBounds policy mutation = .ok false := by
  have refused {verdict : MutationVerdict} (other : verdict ≠ .COMMITTED)
      (isReceipt : receipt runtime hostState agent.agentId mutation verdict false = .ok issued) :
      False :=
    other ((verdict_of_receipt runtime hostState isReceipt).symm.trans committed)
  unfold Containment.commit at returned
  by_cases outside : (!isInScope policy mutation.resource mutation.operation) = true
  · rw [if_pos outside] at returned
    exact (refused (by decide) returned).elim
  · rw [if_neg outside] at returned
    cases breaches : breachesBounds policy mutation with
    | error error =>
      rw [breaches] at returned
      cases returned
    | ok breached =>
      cases breached with
      | false => rfl
      | true =>
        rw [breaches] at returned
        exact (refused (by decide) returned).elim

theorem componentAt_toNumber (vectorV : List Component) (i : Nat) :
    componentAt ((vectorV.map Component.toNumber).map .number) i = componentAt vectorV i := by
  rw [componentAt, componentAt, List.getElem?_map, List.getElem?_map]
  cases vectorV[i]? with
  | none => rfl
  | some component => rfl

theorem safe_of_collides (passed : matrix.collides runtime hostState
    (vectorV.map Component.toNumber) = .ok false) :
    ∃ result, matrix.verifyTrajectory runtime hostState vectorV = .ok result ∧
      result.status = .SAFE := by
  rw [ConvexJurisprudenceMatrix.collides] at passed
  cases verified : matrix.verifyTrajectory runtime hostState
      ((vectorV.map Component.toNumber).map .number) with
  | error error =>
    rw [verified] at passed
    cases passed
  | ok result =>
    rw [verified] at passed
    have safe : result.status = .SAFE := by
      cases status : result.status with
      | SAFE => rfl
      | GEOMETRIC_COLLISION => simp [Except.map, status] at passed
    have planes := verifyTrajectory_safe_iff.mp ⟨result, verified, safe⟩
    refine verifyTrajectory_safe_iff.mpr fun plane member => ?_
    rw [← planes plane member]
    simp only [dotProduct, componentAt_toNumber]

/-- **Convex bounds.** Reported safety, and a commit of the gate that runs the test, place a vector
in the declared region exactly when it has a number in each of the declared dimensions. The gate
is handed the vector as numbers, NaN for what is missing. -/
theorem convexBounds_sound_iff (runtime : Runtime) (hostJson : HostJson) (hostState : HostState)
    (matrix : ConvexJurisprudenceMatrix) (vectorV : List Component)
    (rational : ∀ component ∈ vectorV, component.IsExact) :
    ((∀ result, matrix.verifyTrajectory runtime hostState vectorV = .ok result →
        result.status = .SAFE → InRegion matrix vectorV) ∧
      ∀ policy ledger agent mutation issued,
        policy.bounds = some (matrix.collides runtime hostState) →
        mutation.boundVector = some (vectorV.map Component.toNumber) →
        (commit runtime hostJson hostState policy ledger agent mutation).outcome = .ok issued →
        issued.verdict = .COMMITTED → InRegion matrix vectorV) ↔
      IsComplete matrix.dimensions vectorV := by
  constructor
  · intro sound
    by_contra incomplete
    obtain ⟨result, returned, safe⟩ : ∃ result,
        matrix.verifyTrajectory runtime hostState vectorV = .ok result ∧ result.status = .SAFE :=
      safe_of_incomplete incomplete
    exact incomplete (sound.1 result returned safe).complete
  · intro complete
    constructor
    · intro result returned safe
      exact inRegion_of_safe rational complete ⟨result, returned, safe⟩
    · intro policy ledger agent mutation issued bounds vector returned committed
      have passed := breachesBounds_of_committed returned committed
      rw [breachesBounds, bounds, vector] at passed
      exact inRegion_of_safe rational complete (safe_of_collides passed)

end Soundness

namespace BoundsSample

open GateSample (runtime hostJson hostState)

def matrix : ConvexJurisprudenceMatrix where
  dimensions := 1
  constraints := [⟨js "exposure", [1], 3, js "at most 3"⟩]
  measured := by decide

def policy : ScopePolicy :=
  ⟨[⟨js "file", [js "write"]⟩], some (matrix.collides runtime hostState)⟩

def mutation : ProposedMutation := ⟨js "file", js "write", .null, some []⟩

theorem number_inRegion :
    IsComplete matrix.dimensions [.number (.finite 2)] ∧
      InRegion matrix [.number (.finite 2)] := by
  have complete : IsComplete matrix.dimensions [.number (.finite 2)] := by
    intro i inside
    rw [Nat.lt_one_iff.mp inside]
    exact ⟨_, rfl⟩
  have rational : ∀ component ∈ [Component.number (.finite 2)], component.IsExact := by
    simp [Component.IsExact, JsNumber.isFinite]
  have sound := (convexBounds_sound_iff runtime hostJson hostState matrix _ rational).mpr complete
  have notBeyond : ∀ plane ∈ matrix.constraints, (JsNumber.finite plane.bound).lt
      (dotProduct matrix.dimensions [.number (.finite 2)] plane) = false := by
    decide +kernel
  obtain ⟨result, returned, safe⟩ : ∃ result, matrix.verifyTrajectory runtime hostState
      [.number (.finite 2)] = .ok result ∧ result.status = .SAFE :=
    verifyTrajectory_safe_iff.mpr notBeyond
  exact ⟨complete, sound.1 result returned safe⟩

/-- A vector without components is reported safe, and the gate commits its mutation. -/
theorem empty_vector_passes :
    ¬ (∀ (matrix : ConvexJurisprudenceMatrix) (vectorV : List Component),
        (∀ component ∈ vectorV, component.IsExact) →
        ∀ result, matrix.verifyTrajectory runtime hostState vectorV = .ok result →
          result.status = .SAFE → InRegion matrix vectorV) ∧
      ¬ ∀ (matrix : ConvexJurisprudenceMatrix) (vectorV : List Component),
        (∀ component ∈ vectorV, component.IsExact) →
        ∀ policy ledger agent mutation issued,
          policy.bounds = some (matrix.collides runtime hostState) →
          mutation.boundVector = some (vectorV.map Component.toNumber) →
          (commit runtime hostJson hostState policy ledger agent mutation).outcome = .ok issued →
          issued.verdict = .COMMITTED → InRegion matrix vectorV := by
  have outside : ¬ InRegion matrix [] := by
    intro region
    rcases region.complete 0 (by decide) with ⟨value, place⟩
    cases place
  constructor
  · intro sound
    exact outside (sound matrix [] (List.forall_mem_nil _) ⟨.SAFE, none, none⟩ rfl rfl)
  · intro sound
    have committed : ((commit runtime hostJson hostState policy .empty
        («begin» .empty (js "agent") (js "file")) mutation).outcome.map (·.verdict)).toOption =
          some .COMMITTED := by
      decide +kernel
    cases returned : (commit runtime hostJson hostState policy .empty
        («begin» .empty (js "agent") (js "file")) mutation).outcome with
    | error error =>
      rw [returned] at committed
      cases committed
    | ok issued =>
      rw [returned] at committed
      exact outside (sound matrix [] (List.forall_mem_nil _) policy .empty _ mutation issued rfl
        rfl returned (Option.some.inj committed))

end BoundsSample

end GhostArk.ResearchFrontier.Policy
