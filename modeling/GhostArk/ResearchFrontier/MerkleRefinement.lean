import GhostArk.Js.Collections
import GhostArk.Lib.MerkleConsistency
import GhostArk.Lib.MerkleInclusion
import GhostArk.ResearchFrontier.Merkle

/-!
Contract: the range recursions of `merkle.ts` refine the balanced-tree library.

Owns the correspondence of every recursion over index ranges with its
counterpart on the balanced tree over the range: roots, inclusion paths,
positions, consistency subproofs, and the two verifier loops. Fuel equal to the
size of the range always suffices, and no guard inside the recursions fires.

Owns also the strings that each computation hashes, and the step from collision
freedom on those strings to node pairs without collision.
-/

namespace GhostArk.ResearchFrontier.Merkle

open Js
open Lib.MerkleTree

/-! ### Guards -/

theorem assertSha256Hex_ok {value : JsString} (shape : isHex64 value = true) (label : JsString) :
    assertSha256Hex value label = .ok () := by
  simp [assertSha256Hex, shape, pure, Except.pure]

theorem assertSha256Hex_eq_ok_iff {value label : JsString} {done : Unit} :
    assertSha256Hex value label = .ok done ↔ isHex64 value = true := by
  unfold assertSha256Hex
  split <;> simp_all

theorem assertTreeSize_eq_ok_iff {value : JsNumber} {label : JsString} {size : Nat} :
    assertTreeSize value label = .ok size ↔ value.safeNat? = some size := by
  unfold assertTreeSize
  split <;> simp_all

theorem assertValidLeafIndex_eq_ok_iff {leafIndex treeSize : JsNumber} {index size : Nat} :
    assertValidLeafIndex leafIndex treeSize = .ok (index, size) ↔
      leafIndex.safeNat? = some index ∧ treeSize.safeNat? = some size ∧ index < size := by
  simp only [assertValidLeafIndex, bind_eq_ok, assertTreeSize_eq_ok_iff]
  constructor
  · rintro ⟨found, sizeEq, rest⟩
    split at rest
    next other otherEq =>
      split at rest
      · simp only [pure_eq_ok, Prod.mk.injEq] at rest
        obtain ⟨rfl, rfl⟩ := rest
        exact ⟨otherEq, sizeEq, by assumption⟩
      · simp at rest
    next => simp at rest
  · rintro ⟨indexEq, sizeEq, below⟩
    exact ⟨size, sizeEq, by simp [indexEq, below]⟩

theorem forM_assertSha256Hex_eq_ok_iff {hashes : List JsString} {label : JsString} {done : Unit} :
    (hashes.forM fun hash => assertSha256Hex hash label) = .ok done ↔
      ∀ hash ∈ hashes, isHex64 hash = true := by
  cases done
  rw [forM_eq_ok_iff]
  exact forall₂_congr fun hash _ => assertSha256Hex_eq_ok_iff

theorem doublePower_eq_split {fuel exponent value : Nat} (below : 2 ^ exponent < value)
    (enough : value ≤ 2 ^ (exponent + fuel + 1)) :
    doublePower fuel value (2 ^ exponent) = split value := by
  induction fuel generalizing exponent with
  | zero =>
    rw [doublePower, split_eq_two_pow below]
    rw [Nat.add_zero, Nat.pow_succ] at enough
    omega
  | succ fuel ih =>
    unfold doublePower
    by_cases doubles : 2 ^ exponent * 2 < value
    · rw [if_pos doubles, ← Nat.pow_succ]
      exact ih (by rwa [Nat.pow_succ])
        (by rwa [Nat.succ_eq_add_one, show exponent + 1 + fuel + 1 = exponent + (fuel + 1) + 1
          by omega])
    · rw [if_neg doubles, split_eq_two_pow below (by omega)]

theorem largestPowerOfTwoLessThan_ok {value : Nat} (big : 2 ≤ value)
    (small : value ≤ JsNumber.maxSafeInteger) :
    largestPowerOfTwoLessThan value = .ok (split value) := by
  have loop : doublePower value value (2 ^ 0) = split value :=
    doublePower_eq_split (by omega) (by
      have growth : value < 2 ^ value := Nat.lt_two_pow_self
      have step : 2 ^ value ≤ 2 ^ (0 + value + 1) := Nat.pow_le_pow_right (by omega) (by omega)
      omega)
  unfold largestPowerOfTwoLessThan
  rw [if_neg (by omega), ← loop]
  rfl

section Nodes

variable (sha256 : Sha256)

/-- The digest of a node, without the guards of `nodeHash`. -/
def nodeDigest (leftHex rightHex : JsString) : JsString :=
  sha256.sha256Hex (nodeInput leftHex rightHex)

variable {sha256}

theorem isHex64_nodeDigest (leftHex rightHex : JsString) :
    isHex64 (nodeDigest sha256 leftHex rightHex) = true :=
  sha256.isHex64_sha256Hex _

theorem nodeHash_ok {leftHex rightHex : JsString} (leftShape : isHex64 leftHex = true)
    (rightShape : isHex64 rightHex = true) :
    nodeHash sha256 leftHex rightHex = .ok (nodeDigest sha256 leftHex rightHex) := by
  simp [nodeHash, assertSha256Hex_ok leftShape, assertSha256Hex_ok rightShape, nodeDigest, bind,
    Except.bind, pure, Except.pure]

theorem nodeInput_inj {left right left' right' : JsString} (shape : isHex64 left = true)
    (shape' : isHex64 left' = true) (same : nodeInput left right = nodeInput left' right') :
    left = left' ∧ right = right' := by
  unfold nodeInput at same
  rw [List.append_assoc, List.append_assoc, List.append_assoc, List.append_assoc] at same
  refine append_separator_inj ?_ (?_ : left ++ js ":" ++ right = left' ++ js ":" ++ right')
  · rw [length_of_isHex64 shape, length_of_isHex64 shape']
  · rw [List.append_assoc, List.append_assoc]
    exact List.append_cancel_left same

def nodeInputs (pairs : List (JsString × JsString)) : List JsString :=
  pairs.map fun pair => nodeInput pair.1 pair.2

theorem noCollision_of_collisionFreeOn {pairs : List (JsString × JsString)}
    (shapes : ∀ pair ∈ pairs, isHex64 pair.1 = true ∧ isHex64 pair.2 = true)
    (clean : sha256.CollisionFreeOn (nodeInputs pairs)) :
    NoCollision (nodeDigest sha256) pairs := by
  intro pair member pair' member' same
  have sameInput : nodeInput pair.1 pair.2 = nodeInput pair'.1 pair'.2 :=
    clean _ (List.mem_map_of_mem member) _ (List.mem_map_of_mem member') same
  obtain ⟨first, second⟩ :=
    nodeInput_inj (shapes pair member).1 (shapes pair' member').1 sameInput
  exact Prod.ext first second

end Nodes

section Ranges

variable {sha256 : Sha256} {leafHashes : List JsString}

/-- The leaves of `tree` are the leaf hashes from `start` on. -/
def Covers (leafHashes : List JsString) (start : Nat) (tree : HashTree JsString) : Prop :=
  tree.leaves <+: leafHashes.drop start

variable {start : Nat}

theorem Covers.left {left right : HashTree JsString}
    (covers : Covers leafHashes start (.fork left right)) : Covers leafHashes start left :=
  (List.prefix_append left.leaves right.leaves).trans covers

theorem Covers.right {left right : HashTree JsString}
    (covers : Covers leafHashes start (.fork left right)) :
    Covers leafHashes (start + left.size) right := by
  obtain ⟨rest, covered⟩ := covers
  refine ⟨rest, ?_⟩
  rw [← List.drop_drop, ← covered, HashTree.leaves, List.append_assoc, ← HashTree.length_leaves left,
    List.drop_left]

theorem Covers.leafAt {value : JsString} (covers : Covers leafHashes start (.leaf value)) :
    leafAt leafHashes start = value := by
  obtain ⟨rest, covered⟩ := covers
  have atStart : leafHashes[start]? = some value := by
    rw [← Nat.add_zero start, ← List.getElem?_drop, ← covered]
    rfl
  simp [Merkle.leafAt, List.getD_eq_getElem?_getD, atStart]

variable {tree : HashTree JsString}

theorem covers_zero (leaves : tree.leaves = leafHashes) : Covers leafHashes 0 tree := by
  subst leaves
  exact List.prefix_refl tree.leaves

theorem exists_fuel {Leaf : Type} {tree : HashTree Leaf} {fuel : Nat} (enough : tree.size ≤ fuel) :
    ∃ rest, fuel = rest + 1 :=
  Nat.exists_eq_add_one.mpr (Nat.lt_of_lt_of_le tree.size_pos enough)

/-- A balanced tree whose size is a safe integer and whose leaves are digests. -/
structure Sound (tree : HashTree JsString) : Prop where
  balanced : tree.Balanced
  small : tree.size ≤ JsNumber.maxSafeInteger
  shapes : ∀ value ∈ tree.leaves, isHex64 value = true

theorem Sound.left {left right : HashTree JsString} (sound : Sound (.fork left right)) :
    Sound left where
  balanced := sound.balanced.1
  small := by
    have small := sound.small
    simp only [HashTree.size] at small
    omega
  shapes := fun value member => sound.shapes value (by simp [HashTree.leaves, member])

theorem Sound.right {left right : HashTree JsString} (sound : Sound (.fork left right)) :
    Sound right where
  balanced := sound.balanced.2.1
  small := by
    have small := sound.small
    simp only [HashTree.size] at small
    omega
  shapes := fun value member => sound.shapes value (by simp [HashTree.leaves, member])

theorem Sound.truncate (sound : Sound tree) {count : Nat} (positive : 0 < count)
    (within : count ≤ tree.size) : Sound (tree.truncate count) where
  balanced := sound.balanced.truncate positive within
  small := by
    rw [tree.size_truncate positive within]
    exact within.trans sound.small
  shapes := fun value member => sound.shapes value (by
    rw [tree.leaves_truncate positive within] at member
    exact List.mem_of_mem_take member)

theorem Sound.digest (sound : Sound tree) : isHex64 (tree.digest (nodeDigest sha256)) = true :=
  tree.valid_digest isHex64_nodeDigest sound.shapes

theorem Sound.split {left right : HashTree JsString} (sound : Sound (.fork left right)) :
    largestPowerOfTwoLessThan (left.size + right.size) = .ok left.size := by
  have leftPos := left.size_pos
  have rightPos := right.size_pos
  have small := sound.small
  simp only [HashTree.size] at small
  rw [largestPowerOfTwoLessThan_ok (by omega) small, ← sound.balanced.2.2]

theorem merkleRootForRange_eq_digest (sound : Sound tree) {start fuel : Nat}
    (covers : Covers leafHashes start tree) (enough : tree.size ≤ fuel) :
    merkleRootForRange sha256 leafHashes fuel start (start + tree.size) =
      .ok (tree.digest (nodeDigest sha256)) := by
  induction tree generalizing start fuel with
  | leaf value =>
    obtain ⟨fuel, rfl⟩ := exists_fuel enough
    simp [merkleRootForRange, HashTree.size, covers.leafAt, HashTree.digest, pure, Except.pure]
  | fork left right leftHypothesis rightHypothesis =>
    obtain ⟨fuel, rfl⟩ := exists_fuel enough
    have leftPos := left.size_pos
    have rightPos := right.size_pos
    simp only [HashTree.size] at enough ⊢
    have leftRoot := leftHypothesis sound.left covers.left (show _ ≤ fuel by omega)
    have rightRoot := rightHypothesis sound.right covers.right (show _ ≤ fuel by omega)
    rw [Nat.add_assoc] at rightRoot
    unfold merkleRootForRange
    simp only [Nat.add_sub_cancel_left, sound.split]
    rw [if_neg (by omega), if_neg (by omega)]
    simp only [bind, Except.bind, leftRoot, rightRoot]
    exact nodeHash_ok sound.left.digest sound.right.digest

theorem rootForRange_eq_digest (sha256 : Sha256) (sound : Sound tree)
    (covers : Covers leafHashes start tree) :
    rootForRange sha256 leafHashes start (start + tree.size) =
      .ok (tree.digest (nodeDigest sha256)) :=
  merkleRootForRange_eq_digest sound covers (by omega)

def proofStep (step : Side × JsString) : MerkleProofStep := ⟨step.1, step.2⟩

/-- The recursion over ranges computes the path of the tree. -/
theorem inclusionPathForRange_eq_path (sha256 : Sha256) (sound : Sound tree) (index : Nat)
    {start fuel : Nat} (covers : Covers leafHashes start tree) (enough : tree.size ≤ fuel) :
    inclusionPathForRange sha256 (start + index) leafHashes fuel start (start + tree.size) =
      .ok ((tree.path (nodeDigest sha256) index).map proofStep) := by
  induction tree generalizing start fuel index with
  | leaf value =>
    obtain ⟨fuel, rfl⟩ := exists_fuel enough
    simp [inclusionPathForRange, HashTree.size, HashTree.path, pure, Except.pure]
  | fork left right leftHypothesis rightHypothesis =>
    obtain ⟨fuel, rfl⟩ := exists_fuel enough
    have leftPos := left.size_pos
    have rightPos := right.size_pos
    simp only [HashTree.size] at enough ⊢
    unfold inclusionPathForRange
    simp only [Nat.add_sub_cancel_left, sound.split]
    rw [if_neg (by omega)]
    by_cases inLeft : index < left.size
    · have inner := leftHypothesis sound.left index covers.left (show _ ≤ fuel by omega)
      have sibling := rootForRange_eq_digest sha256 sound.right covers.right
      rw [Nat.add_assoc] at sibling
      simp only [bind, Except.bind, Nat.add_lt_add_iff_left, inLeft, if_true, inner, sibling,
        HashTree.path, List.map_append]
      rfl
    · have inner := rightHypothesis sound.right (index - left.size) covers.right
        (show _ ≤ fuel by omega)
      rw [Nat.add_assoc, Nat.add_assoc, Nat.add_sub_cancel' (by omega)] at inner
      have sibling := rootForRange_eq_digest sha256 sound.left covers.left
      simp only [bind, Except.bind, Nat.add_lt_add_iff_left, inLeft, if_false, inner, sibling,
        HashTree.path, List.map_append]
      rfl

theorem consistencySubproof_eq_consistencyPath (sha256 : Sha256) (sound : Sound tree)
    {start fuel oldSize : Nat} (covers : Covers leafHashes start tree) (enough : tree.size ≤ fuel)
    (positive : 0 < oldSize) (within : oldSize ≤ tree.size) (includeOldRoot : Bool) :
    consistencySubproof sha256 leafHashes fuel oldSize start (start + tree.size) includeOldRoot =
      .ok (tree.consistencyPath (nodeDigest sha256) oldSize includeOldRoot) := by
  have whole := rootForRange_eq_digest sha256 sound covers
  induction tree generalizing start fuel oldSize includeOldRoot with
  | leaf value =>
    obtain rfl : oldSize = 1 := by
      simp only [HashTree.size] at within
      omega
    obtain ⟨fuel, rfl⟩ := exists_fuel enough
    simp only [HashTree.size] at whole
    cases includeOldRoot <;>
      simp [consistencySubproof, HashTree.size, HashTree.consistencyPath, whole, HashTree.digest, pure,
        Except.pure, bind, Except.bind]
  | fork left right leftHypothesis rightHypothesis =>
    obtain ⟨fuel, rfl⟩ := exists_fuel enough
    have leftPos := left.size_pos
    have rightPos := right.size_pos
    simp only [HashTree.size] at enough within whole ⊢
    unfold consistencySubproof
    simp only [Nat.add_sub_cancel_left, HashTree.consistencyPath]
    by_cases equalSize : oldSize = left.size + right.size
    · simp only [equalSize, if_true, whole, bind, Except.bind]
      cases includeOldRoot <;> rfl
    · have leftWhole := rootForRange_eq_digest sha256 sound.left covers.left
      have rightWhole := rootForRange_eq_digest sha256 sound.right covers.right
      simp only [equalSize, if_false, sound.split, bind, Except.bind]
      by_cases inLeft : oldSize ≤ left.size
      · have inner := leftHypothesis sound.left covers.left (show _ ≤ fuel by omega)
          positive inLeft includeOldRoot leftWhole
        rw [Nat.add_assoc] at rightWhole
        simp only [inLeft, if_true, inner, rightWhole]
        rfl
      · have inner := rightHypothesis sound.right covers.right (show _ ≤ fuel by omega)
          (show 0 < oldSize - left.size by omega) (by omega) false rightWhole
        rw [Nat.add_assoc] at inner
        simp only [inLeft, if_false, inner, leftWhole]
        rfl

end Ranges

/-! ### Verifier loops -/

/-- Positions depend on the shape alone: any balanced tree of the size gives
them. -/
theorem inclusionPathPositionsForRange_eq_sides {Leaf : Type} {tree : HashTree Leaf}
    (balanced : tree.Balanced) (small : tree.size ≤ JsNumber.maxSafeInteger)
    (start index : Nat) {fuel : Nat} (enough : tree.size ≤ fuel) :
    inclusionPathPositionsForRange (start + index) fuel start (start + tree.size) =
      .ok (tree.sides index) := by
  induction tree generalizing start fuel index with
  | leaf value =>
    obtain ⟨fuel, rfl⟩ := exists_fuel enough
    simp [inclusionPathPositionsForRange, HashTree.size, HashTree.sides, pure, Except.pure]
  | fork left right leftHypothesis rightHypothesis =>
    obtain ⟨fuel, rfl⟩ := exists_fuel enough
    have leftPos := left.size_pos
    have rightPos := right.size_pos
    obtain ⟨leftBalanced, rightBalanced, leftSize⟩ := balanced
    simp only [HashTree.size] at enough small ⊢
    unfold inclusionPathPositionsForRange
    simp only [Nat.add_sub_cancel_left,
      largestPowerOfTwoLessThan_ok (show 2 ≤ left.size + right.size by omega) small,
      ← leftSize]
    rw [if_neg (by omega)]
    by_cases inLeft : index < left.size
    · have inner := leftHypothesis leftBalanced (by omega) start index
        (show _ ≤ fuel by omega)
      simp only [bind, Except.bind, Nat.add_lt_add_iff_left, inLeft, if_true, inner,
        HashTree.sides]
      rfl
    · have inner := rightHypothesis rightBalanced (by omega) (start + left.size)
        (index - left.size) (show _ ≤ fuel by omega)
      rw [Nat.add_assoc, Nat.add_assoc, Nat.add_sub_cancel' (by omega)] at inner
      simp only [bind, Except.bind, Nat.add_lt_add_iff_left, inLeft, if_false, inner,
        HashTree.sides]
      rfl

theorem inclusionPathPositions_eq_sides {Leaf : Type} {tree : HashTree Leaf}
    (balanced : tree.Balanced) (small : tree.size ≤ JsNumber.maxSafeInteger) (index : Nat) :
    inclusionPathPositions index tree.size = .ok (tree.sides index) := by
  have positions := inclusionPathPositionsForRange_eq_sides balanced small 0 index
    (show _ ≤ tree.size + 1 by omega)
  rwa [Nat.zero_add, Nat.zero_add] at positions

section Loops

variable {sha256 : Sha256}

def MerkleProofStep.toPair (step : MerkleProofStep) : Side × JsString := (step.position, step.hash)

/-- The audit-path loop ends in `computed` exactly on well-formed steps in the
expected positions, and computes the climb. -/
theorem climbAuditPath_eq_some_iff {steps : List MerkleProofStep} {positions : List Side}
    {start final : JsString} (startShape : isHex64 start = true)
    (sameLength : positions.length = steps.length) :
    climbAuditPath sha256 steps positions start = .ok (some final) ↔
      (∀ step ∈ steps, isHex64 step.hash = true) ∧
        positions = steps.map MerkleProofStep.position ∧
        climb (nodeDigest sha256) start (steps.map MerkleProofStep.toPair) = final := by
  induction steps generalizing positions start with
  | nil =>
    obtain rfl : positions = [] := List.length_eq_zero_iff.mp sameLength
    simp [climbAuditPath, pure, Except.pure]
  | cons step rest ih =>
    obtain _ | ⟨expected, others⟩ := positions
    · simp at sameLength
    · by_cases shape : isHex64 step.hash = true
      · by_cases expectedPosition : step.position = expected
        · have continues :
              climbAuditPath sha256 (step :: rest) (expected :: others) start =
                climbAuditPath sha256 rest others
                  (Function.uncurry (nodeDigest sha256) (climbPair start step.toPair)) := by
            obtain ⟨position, hash⟩ := step
            subst expectedPosition
            cases position <;>
              simp [climbAuditPath, assertSha256Hex_ok shape, nodeHash_ok shape startShape,
                nodeHash_ok startShape shape, MerkleProofStep.toPair, climbPair, bind,
                Except.bind]
          have nextShape : isHex64 (Function.uncurry (nodeDigest sha256)
              (climbPair start step.toPair)) = true := isHex64_nodeDigest _ _
          rw [continues, ih nextShape (by simpa using sameLength)]
          simp [shape, expectedPosition, climb]
        · simp [climbAuditPath, assertSha256Hex_ok shape, expectedPosition, bind, Except.bind,
            pure, Except.pure, Ne.symm expectedPosition]
      · simp [climbAuditPath, assertSha256Hex, shape, bind, Except.bind, throw, throwThe,
          MonadExceptOf.throw]

/-- The library's view of a verifier result: roots and the unread audit path. -/
def ConsistencyVerifierResult.view (auditPath : List JsString)
    (result : ConsistencyVerifierResult) : JsString × JsString × List JsString :=
  (result.oldRootHash, result.newRootHash, auditPath.drop result.cursor)

/-- The verifier's outcome is the library's reconstruction; cursor and digests
stay in range. -/
def Reconstructs (auditPath : List JsString)
    (outcome : Except JsError (Option ConsistencyVerifierResult))
    (reconstruction : Option (JsString × JsString × List JsString)) : Prop :=
  ∃ result, outcome = .ok result ∧ reconstruction = result.map (·.view auditPath) ∧
    ∀ found ∈ result, found.cursor ≤ auditPath.length ∧
      isHex64 found.oldRootHash = true ∧ isHex64 found.newRootHash = true

section Cursor

variable (sha256 : Sha256) {auditPath : List JsString} {oldRootHash : JsString}
  (pathShapes : ∀ hash ∈ auditPath, isHex64 hash = true)
include pathShapes

theorem auditPath_cursor {cursor : Nat} (inPath : cursor ≤ auditPath.length) :
    (auditPath[cursor]? = none ∧ auditPath.drop cursor = []) ∨
      ∃ hash, auditPath[cursor]? = some hash ∧ isHex64 hash = true ∧
        cursor + 1 ≤ auditPath.length ∧
        auditPath.drop cursor = hash :: auditPath.drop (cursor + 1) := by
  rcases Nat.lt_or_eq_of_le inPath with below | atEnd
  · exact Or.inr ⟨auditPath[cursor], List.getElem?_eq_getElem below,
      pathShapes _ (List.getElem_mem below), below, List.drop_eq_getElem_cons below⟩
  · exact Or.inl ⟨List.getElem?_eq_none (by omega), List.drop_eq_nil_of_le (by omega)⟩

variable (oldShape : isHex64 oldRootHash = true)
include oldShape

theorem verifyConsistencySubproof_equal {fuel size cursor : Nat} (includeOldRoot : Bool)
    (inPath : cursor ≤ auditPath.length) :
    Reconstructs auditPath
      (verifyConsistencySubproof sha256 auditPath oldRootHash (fuel + 1) size size includeOldRoot
        cursor)
      (HashTree.sharedRoot includeOldRoot oldRootHash (auditPath.drop cursor)) := by
  cases includeOldRoot with
  | true =>
    refine ⟨some ⟨cursor, oldRootHash, oldRootHash⟩, ?_, rfl, ?_⟩
    · simp [verifyConsistencySubproof, pure, Except.pure]
    · rintro found ⟨⟩
      exact ⟨inPath, oldShape, oldShape⟩
  | false =>
    rcases auditPath_cursor pathShapes inPath with
      ⟨missing, rest⟩ | ⟨hash, present, shape, inside, rest⟩
    · refine ⟨none, ?_, ?_, ?_⟩
      · simp [verifyConsistencySubproof, missing, pure, Except.pure]
      · simp [HashTree.sharedRoot, rest]
      · simp
    · refine ⟨some ⟨cursor + 1, hash, hash⟩, ?_, ?_, ?_⟩
      · simp [verifyConsistencySubproof, present, pure, Except.pure]
      · simp [HashTree.sharedRoot, rest, ConsistencyVerifierResult.view]
      · rintro found ⟨⟩
        exact ⟨inside, shape, shape⟩

/-- The cursor recursion of the consistency verifier is the reconstruction over
any balanced tree of the new size; it never throws on well-formed digests. -/
theorem verifyConsistencySubproof_reconstructs {tree : HashTree JsString}
    (balanced : tree.Balanced) (small : tree.size ≤ JsNumber.maxSafeInteger)
    {fuel oldSize cursor : Nat} (enough : tree.size ≤ fuel) (positive : 0 < oldSize)
    (within : oldSize ≤ tree.size) (includeOldRoot : Bool) (inPath : cursor ≤ auditPath.length) :
    Reconstructs auditPath
      (verifyConsistencySubproof sha256 auditPath oldRootHash fuel oldSize tree.size
        includeOldRoot cursor)
      (tree.reconstruct (nodeDigest sha256) oldSize includeOldRoot oldRootHash
        (auditPath.drop cursor)) := by
  induction tree generalizing fuel oldSize includeOldRoot with
  | leaf value =>
    obtain rfl : oldSize = 1 := by
      simp only [HashTree.size] at within
      omega
    obtain ⟨fuel, rfl⟩ := exists_fuel enough
    exact verifyConsistencySubproof_equal sha256 pathShapes oldShape includeOldRoot inPath
  | fork left right leftHypothesis rightHypothesis =>
    obtain ⟨fuel, rfl⟩ := exists_fuel enough
    have leftPos := left.size_pos
    have rightPos := right.size_pos
    obtain ⟨leftBalanced, rightBalanced, leftSize⟩ := balanced
    simp only [HashTree.size] at enough small within ⊢
    by_cases whole : oldSize = left.size + right.size
    · subst whole
      simp only [HashTree.reconstruct, if_true]
      exact verifyConsistencySubproof_equal sha256 pathShapes oldShape includeOldRoot inPath
    have split := largestPowerOfTwoLessThan_ok (show 2 ≤ left.size + right.size by omega) small
    rw [← leftSize] at split
    unfold verifyConsistencySubproof HashTree.reconstruct
    simp only [whole, if_false, split, bind, Except.bind]
    by_cases inLeft : oldSize ≤ left.size
    · obtain ⟨inner, innerOk, innerEq, innerRange⟩ := leftHypothesis leftBalanced (by omega)
        (show _ ≤ fuel by omega) positive inLeft includeOldRoot
      simp only [inLeft, if_true, innerOk, innerEq]
      cases inner with
      | none => exact ⟨none, rfl, rfl, by simp⟩
      | some found =>
        obtain ⟨foundInPath, oldRootShape, newRootShape⟩ := innerRange found rfl
        rcases auditPath_cursor pathShapes foundInPath with
          ⟨missing, rest⟩ | ⟨sibling, present, shape, inside, rest⟩
        · refine ⟨none, by simp [missing, pure, Except.pure], ?_, by simp⟩
          simp [ConsistencyVerifierResult.view, rest]
        · refine ⟨some ⟨found.cursor + 1, found.oldRootHash,
            nodeDigest sha256 found.newRootHash sibling⟩, ?_, ?_, ?_⟩
          · simp [present, nodeHash_ok newRootShape shape, pure, Except.pure]
          · simp [ConsistencyVerifierResult.view, rest]
          · rintro _ ⟨⟩
            exact ⟨inside, oldRootShape, isHex64_nodeDigest _ _⟩
    · obtain ⟨inner, innerOk, innerEq, innerRange⟩ := rightHypothesis rightBalanced (by omega)
        (show _ ≤ fuel by omega) (show 0 < oldSize - left.size by omega) (by omega) false
      simp only [inLeft, if_false, Nat.add_sub_cancel_left, innerOk, innerEq]
      cases inner with
      | none => exact ⟨none, rfl, rfl, by simp⟩
      | some found =>
        obtain ⟨foundInPath, oldRootShape, newRootShape⟩ := innerRange found rfl
        rcases auditPath_cursor pathShapes foundInPath with
          ⟨missing, rest⟩ | ⟨sibling, present, shape, inside, rest⟩
        · refine ⟨none, by simp [missing, pure, Except.pure], ?_, by simp⟩
          simp [ConsistencyVerifierResult.view, rest]
        · refine ⟨some ⟨found.cursor + 1, nodeDigest sha256 sibling found.oldRootHash,
            nodeDigest sha256 sibling found.newRootHash⟩, ?_, ?_, ?_⟩
          · simp [present, nodeHash_ok shape newRootShape, nodeHash_ok shape oldRootShape, pure,
              Except.pure]
          · simp [ConsistencyVerifierResult.view, rest]
          · rintro _ ⟨⟩
            exact ⟨inside, isHex64_nodeDigest _ _, isHex64_nodeDigest _ _⟩

end Cursor

end Loops

end GhostArk.ResearchFrontier.Merkle
