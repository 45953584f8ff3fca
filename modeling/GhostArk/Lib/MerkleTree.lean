import Mathlib.Data.Nat.Log
import Mathlib.Data.Set.Function
import Mathlib.Tactic.Ring

/-!
Contract: left-balanced binary hash trees over an arbitrary digest type.

Owns the tree datatype, its digest, the unique left-balanced tree over a
nonempty list of leaves, inclusion paths (prover side) and climbs (verifier
side), truncation to a prefix of the leaves, and consistency proofs with their
reconstruction. Soundness is stated against injectivity of the node function on
the pairs that the two computations really hash, never on all pairs: a digest
type may be finite.

Does not own: a concrete hash, leaf encodings, or any wire format.
-/

namespace GhostArk.Lib.MerkleTree

universe u

inductive Side where
  | left
  | right
deriving DecidableEq, Repr

/-- A binary tree with digests at its leaves. -/
inductive HashTree (D : Type u) where
  | leaf (digest : D)
  | fork (left right : HashTree D)
deriving DecidableEq, Repr

/-- The largest power of two strictly below `size`, for `2 ≤ size`. -/
def split (size : Nat) : Nat := 2 ^ Nat.log2 (size - 1)

theorem split_pos (size : Nat) : 0 < split size := Nat.two_pow_pos _

theorem split_lt {size : Nat} (big : 2 ≤ size) : split size < size := by
  have below : 2 ^ Nat.log2 (size - 1) ≤ size - 1 := Nat.log2_self_le (by omega)
  unfold split
  omega

theorem le_two_mul_split {size : Nat} (big : 2 ≤ size) : size ≤ 2 * split size := by
  have above : size - 1 < 2 ^ (Nat.log2 (size - 1) + 1) := Nat.lt_log2_self
  unfold split
  rw [Nat.pow_succ] at above
  omega

theorem split_eq_two_pow {size exponent : Nat} (below : 2 ^ exponent < size)
    (above : size ≤ 2 * 2 ^ exponent) : split size = 2 ^ exponent := by
  have positive : 0 < 2 ^ exponent := Nat.two_pow_pos exponent
  have window : Nat.log2 (size - 1) = exponent := by
    rw [Nat.log2_eq_iff (by omega), Nat.pow_succ]
    omega
  rw [split, window]

theorem split_eq_split {size smaller : Nat} (big : 2 ≤ size) (below : split size < smaller)
    (above : smaller ≤ size) : split smaller = split size :=
  split_eq_two_pow below (above.trans (le_two_mul_split big))

namespace HashTree

variable {D : Type u}

def size : HashTree D → Nat
  | leaf _ => 1
  | fork left right => left.size + right.size

def leaves : HashTree D → List D
  | leaf digest => [digest]
  | fork left right => left.leaves ++ right.leaves

@[simp] theorem length_leaves (tree : HashTree D) : tree.leaves.length = tree.size := by
  induction tree with
  | leaf digest => rfl
  | fork left right leftHypothesis rightHypothesis =>
    simp [leaves, size, leftHypothesis, rightHypothesis]

theorem size_pos (tree : HashTree D) : 0 < tree.size := by
  induction tree with
  | leaf digest => exact Nat.one_pos
  | fork left right leftHypothesis rightHypothesis =>
    exact Nat.add_pos_left leftHypothesis right.size

/-- Every fork puts the largest power of two below its size on the left. -/
def Balanced : HashTree D → Prop
  | leaf _ => True
  | fork left right =>
    left.Balanced ∧ right.Balanced ∧ left.size = split (left.size + right.size)

/-- Balanced tree over a nonempty list. `fuel` bounds the depth; the length of
the list always suffices. -/
def buildFuel : Nat → List D → Option (HashTree D)
  | 0, _ => none
  | _ + 1, [] => none
  | _ + 1, [digest] => some (leaf digest)
  | fuel + 1, digests@(_ :: _ :: _) => do
    let left ← buildFuel fuel (digests.take (split digests.length))
    let right ← buildFuel fuel (digests.drop (split digests.length))
    return fork left right

/-- The balanced tree over a list of leaves; `none` for the empty list. -/
def ofLeaves (digests : List D) : Option (HashTree D) := buildFuel digests.length digests

theorem buildFuel_spec (fuel : Nat) (digests : List D) (nonempty : digests ≠ [])
    (enough : digests.length ≤ fuel) :
    ∃ tree, buildFuel fuel digests = some tree ∧ tree.Balanced ∧ tree.leaves = digests := by
  induction fuel generalizing digests with
  | zero => exact absurd (List.length_eq_zero_iff.mp (Nat.le_zero.mp enough)) nonempty
  | succ fuel ih =>
    match digests, nonempty with
    | [digest], _ => exact ⟨leaf digest, rfl, trivial, rfl⟩
    | first :: second :: rest, _ =>
      have big : 2 ≤ (first :: second :: rest).length := by simp
      have positive := split_pos (first :: second :: rest).length
      have below := split_lt big
      obtain ⟨left, leftBuilt, leftBalanced, leftLeaves⟩ := ih
        ((first :: second :: rest).take (split (first :: second :: rest).length))
        (by
          rw [← List.length_pos_iff, List.length_take]
          omega)
        (by
          rw [List.length_take]
          omega)
      obtain ⟨right, rightBuilt, rightBalanced, rightLeaves⟩ := ih
        ((first :: second :: rest).drop (split (first :: second :: rest).length))
        (by
          rw [← List.length_pos_iff, List.length_drop]
          omega)
        (by
          rw [List.length_drop]
          omega)
      have leftSize : left.size = split (first :: second :: rest).length := by
        rw [← length_leaves, leftLeaves, List.length_take]
        omega
      have rightSize :
          right.size = (first :: second :: rest).length -
            split (first :: second :: rest).length := by
        rw [← length_leaves, rightLeaves, List.length_drop]
      refine ⟨fork left right, ?_, ⟨leftBalanced, rightBalanced, ?_⟩, ?_⟩
      · simp only [buildFuel, leftBuilt, rightBuilt]
        rfl
      · rw [leftSize, rightSize, Nat.add_sub_cancel' below.le]
      · rw [leaves, leftLeaves, rightLeaves, List.take_append_drop]

theorem ofLeaves_spec {digests : List D} (nonempty : digests ≠ []) :
    ∃ tree, ofLeaves digests = some tree ∧ tree.Balanced ∧ tree.leaves = digests :=
  buildFuel_spec digests.length digests nonempty le_rfl

/-- A balanced tree is determined by its leaves. -/
theorem Balanced.ext {left right : HashTree D} (leftBalanced : left.Balanced)
    (rightBalanced : right.Balanced) (same : left.leaves = right.leaves) : left = right := by
  induction left generalizing right with
  | leaf digest =>
    cases right with
    | leaf other => simpa [leaves] using same
    | fork first second =>
      have sizes := congrArg List.length same
      have firstPos := first.size_pos
      have secondPos := second.size_pos
      simp only [length_leaves, size] at sizes
      omega
  | fork first second firstHypothesis secondHypothesis =>
    cases right with
    | leaf other =>
      have sizes := congrArg List.length same
      have firstPos := first.size_pos
      have secondPos := second.size_pos
      simp only [length_leaves, size] at sizes
      omega
    | fork otherFirst otherSecond =>
      have sizes := congrArg List.length same
      simp only [length_leaves, size] at sizes
      obtain ⟨firstBalanced, secondBalanced, firstSize⟩ := leftBalanced
      obtain ⟨otherFirstBalanced, otherSecondBalanced, otherFirstSize⟩ := rightBalanced
      have sameSize : first.size = otherFirst.size := by
        rw [firstSize, otherFirstSize, sizes]
      obtain ⟨firstLeaves, secondLeaves⟩ :=
        List.append_inj same (by rw [length_leaves, length_leaves, sameSize])
      rw [firstHypothesis firstBalanced otherFirstBalanced firstLeaves,
        secondHypothesis secondBalanced otherSecondBalanced secondLeaves]

section Digest

variable (node : D → D → D)

def digest : HashTree D → D
  | leaf value => value
  | fork left right => node left.digest right.digest

/-- The pairs hashed while computing the digest. -/
def nodes : HashTree D → List (D × D)
  | leaf _ => []
  | fork left right =>
    left.nodes ++ right.nodes ++ [(left.digest node, right.digest node)]

end Digest

end HashTree

/-- `node` has no collision among the pairs of `pairs`. -/
def NoCollision {D : Type u} (node : D → D → D) (pairs : List (D × D)) : Prop :=
  Set.InjOn (Function.uncurry node) {pair | pair ∈ pairs}

theorem NoCollision.mono {D : Type u} {node : D → D → D} {few many : List (D × D)}
    (clean : NoCollision node many) (subset : few ⊆ many) : NoCollision node few :=
  Set.InjOn.mono (fun _ member => subset member) clean

theorem NoCollision.eq {D : Type u} {node : D → D → D} {pairs : List (D × D)}
    (clean : NoCollision node pairs) {left right left' right' : D}
    (member : (left, right) ∈ pairs) (member' : (left', right') ∈ pairs)
    (same : node left right = node left' right') : left = left' ∧ right = right' :=
  Prod.mk.inj (clean member member' same)

namespace HashTree

variable {D : Type u} {node : D → D → D}

theorem leaves_eq_of_digest_eq {left right : HashTree D} (leftBalanced : left.Balanced)
    (rightBalanced : right.Balanced) (sameSize : left.size = right.size)
    (clean : NoCollision node (left.nodes node ++ right.nodes node))
    (same : left.digest node = right.digest node) : left.leaves = right.leaves := by
  induction left generalizing right with
  | leaf value =>
    cases right with
    | leaf other => exact congrArg (fun digest => [digest]) same
    | fork first second =>
      have firstPos := first.size_pos
      have secondPos := second.size_pos
      simp only [size] at sameSize
      omega
  | fork first second firstHypothesis secondHypothesis =>
    cases right with
    | leaf other =>
      have firstPos := first.size_pos
      have secondPos := second.size_pos
      simp only [size] at sameSize
      omega
    | fork otherFirst otherSecond =>
      obtain ⟨firstBalanced, secondBalanced, firstSize⟩ := leftBalanced
      obtain ⟨otherFirstBalanced, otherSecondBalanced, otherFirstSize⟩ := rightBalanced
      simp only [size] at sameSize
      have firstSame : first.size = otherFirst.size := by
        rw [firstSize, otherFirstSize, sameSize]
      obtain ⟨firstDigest, secondDigest⟩ :=
        clean.eq (by simp [nodes]) (by simp [nodes]) same
      have firstLeaves := firstHypothesis firstBalanced otherFirstBalanced firstSame
        (clean.mono (by simp [nodes]; grind)) firstDigest
      have secondLeaves := secondHypothesis secondBalanced otherSecondBalanced (by omega)
        (clean.mono (by simp [nodes]; grind)) secondDigest
      rw [leaves, leaves, firstLeaves, secondLeaves]

theorem valid_children {Valid : D → Prop} {left right : HashTree D}
    (valid : ∀ value ∈ (fork left right).leaves, Valid value) :
    (∀ value ∈ left.leaves, Valid value) ∧ ∀ value ∈ right.leaves, Valid value :=
  List.forall_mem_append.mp valid

section Invariant

variable {Valid : D → Prop} (closed : ∀ left right, Valid (node left right))
include closed

theorem valid_digest (tree : HashTree D) (valid : ∀ value ∈ tree.leaves, Valid value) :
    Valid (tree.digest node) := by
  cases tree with
  | leaf value => exact valid value (by simp [leaves])
  | fork left right => exact closed _ _

theorem valid_nodes (tree : HashTree D) (valid : ∀ value ∈ tree.leaves, Valid value) :
    ∀ pair ∈ tree.nodes node, Valid pair.1 ∧ Valid pair.2 := by
  induction tree with
  | leaf value => simp [nodes]
  | fork left right leftHypothesis rightHypothesis =>
    obtain ⟨leftValid, rightValid⟩ := valid_children valid
    intro pair member
    simp only [nodes, List.mem_append, List.mem_singleton] at member
    rcases member with (inLeft | inRight) | rfl
    · exact leftHypothesis leftValid pair inLeft
    · exact rightHypothesis rightValid pair inRight
    · exact ⟨valid_digest closed left leftValid, valid_digest closed right rightValid⟩

end Invariant

end HashTree

end GhostArk.Lib.MerkleTree
