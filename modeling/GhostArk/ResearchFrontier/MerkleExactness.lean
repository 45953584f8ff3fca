import GhostArk.Js.Sha256
import GhostArk.ResearchFrontier.MerkleRefinement

/-!
Contract: exactness of the Merkle proof verifiers of `merkle.ts`.

Owns the strings that roots and verifications hash, what each verifier accepts
in terms of the balanced tree of the proof's size, and the two exactness
theorems: an inclusion or consistency proof against the root of a leaf list is
accepted exactly when it is the proof the module itself generates.

Collision freedom is assumed only of the strings that the root computation and
the verification at hand hash.
-/

namespace GhostArk.ResearchFrontier.Merkle

open Js
open Lib.MerkleTree

/-- A list of well-formed leaf hashes, as long as an ECMAScript array can be. -/
structure LeafHashes where
  hashes : List JsString
  length_lt : hashes.length < 2 ^ 32
  wellFormed : ∀ hash ∈ hashes, isHex64 hash = true

namespace LeafHashes

variable (leaves : LeafHashes)

theorem small : leaves.hashes.length ≤ JsNumber.maxSafeInteger := by
  have below := leaves.length_lt
  simp only [JsNumber.maxSafeInteger]
  omega

/-- Three leaf hashes, `aa…`, `bb…` and `cc…`. -/
def three : LeafHashes where
  hashes := [.replicate 64 (unit 'a'), .replicate 64 (unit 'b'), .replicate 64 (unit 'c')]
  length_lt := by decide
  wellFormed := by decide

end LeafHashes

section Inputs

variable (sha256 : Sha256)

/-- The strings hashed by `computeMerkleRootFromLeafHashes`. -/
def rootInputs (leafHashes : List JsString) : List JsString :=
  match HashTree.ofLeaves leafHashes with
  | none => [js "ghostark.empty_merkle_tree.v1"]
  | some tree => nodeInputs (tree.nodes (nodeDigest sha256))

/-- The strings hashed by the audit-path loop of an inclusion verification. -/
def inclusionInputs (leafHash : JsString) (proof : MerkleInclusionProof) : List JsString :=
  nodeInputs (climbNodes (nodeDigest sha256) leafHash
    (proof.audit_path.map MerkleProofStep.toPair))

/-- The strings hashed by `verifyConsistencySubproof`; only the shape of a tree
of the new size is read. -/
def consistencyInputs (oldRootHash : JsString) (proof : MerkleConsistencyProof) :
    List JsString :=
  match proof.old_tree_size.safeNat?, proof.new_tree_size.safeNat? with
  | some oldSize, some newSize =>
    match HashTree.ofLeaves (List.replicate newSize oldRootHash) with
    | none => []
    | some shape =>
      nodeInputs (shape.reconstructNodes (nodeDigest sha256) oldSize true oldRootHash
        proof.audit_path)
  | _, _ => []

end Inputs

section Roots

variable (sha256 : Sha256)

variable {leafHashes : List JsString}

/-- Well-formed leaf hashes have a balanced tree. -/
theorem exists_tree (nonempty : leafHashes ≠ [])
    (small : leafHashes.length ≤ JsNumber.maxSafeInteger)
    (shapes : ∀ hash ∈ leafHashes, isHex64 hash = true) :
    ∃ tree, HashTree.ofLeaves leafHashes = some tree ∧ Sound tree ∧ tree.leaves = leafHashes ∧
      computeMerkleRootFromLeafHashes sha256 leafHashes =
        .ok (tree.digest (nodeDigest sha256)) := by
  obtain ⟨tree, built, balanced, leavesEq⟩ := HashTree.ofLeaves_spec nonempty
  have sizeEq : tree.size = leafHashes.length := by rw [← HashTree.length_leaves, leavesEq]
  have sound : Sound tree := ⟨balanced, by rwa [sizeEq], by rwa [leavesEq]⟩
  refine ⟨tree, built, sound, leavesEq, ?_⟩
  have root := rootForRange_eq_digest sha256 sound (covers_zero leavesEq)
  rw [Nat.zero_add, sizeEq] at root
  unfold computeMerkleRootFromLeafHashes assertLeafHashes
  have guard : (leafHashes.forM fun hash => assertSha256Hex hash (js "leaf hash")) = .ok () :=
    forM_assertSha256Hex_eq_ok_iff.mpr shapes
  rw [if_neg (by simpa using nonempty), guard, root]
  rfl

theorem rootInputs_eq {tree : HashTree JsString}
    (built : HashTree.ofLeaves leafHashes = some tree) :
    rootInputs sha256 leafHashes = nodeInputs (tree.nodes (nodeDigest sha256)) := by
  rw [rootInputs, built]

theorem computeMerkleRoot_take {tree : HashTree JsString} (sound : Sound tree)
    (leavesEq : tree.leaves = leafHashes) {count : Nat} (positive : 0 < count)
    (within : count ≤ tree.size) :
    computeMerkleRootFromLeafHashes sha256 (leafHashes.take count) =
      .ok ((tree.truncate count).digest (nodeDigest sha256)) := by
  have truncatedLeaves := tree.leaves_truncate positive within
  rw [leavesEq] at truncatedLeaves
  have lengthEq : (leafHashes.take count).length = count := by
    rw [← truncatedLeaves, HashTree.length_leaves, tree.size_truncate positive within]
  have small := sound.small
  have nonempty : leafHashes.take count ≠ [] := by
    rw [← List.length_pos_iff, lengthEq]
    exact positive
  obtain ⟨prefixTree, -, prefixSound, prefixLeaves, root⟩ := exists_tree sha256 nonempty
    (by omega)
    (fun hash member => sound.shapes hash (by
      rw [leavesEq]
      exact List.mem_of_mem_take member))
  have sameTree : prefixTree = tree.truncate count :=
    HashTree.Balanced.ext prefixSound.balanced
      (sound.balanced.truncate positive within) (by rw [prefixLeaves, truncatedLeaves])
  rw [root, sameTree]

end Roots

section Inclusion

variable {sha256 : Sha256}

/-- What the inclusion verifier accepts: a well-formed proof whose positions are
those of its own index and size, and whose climb ends in the expected root. -/
theorem verifyInclusionProofFromLeafHash_iff {leafHash root : JsString}
    {proof : MerkleInclusionProof} :
    verifyInclusionProofFromLeafHash sha256 leafHash proof (some root) = true ↔
      isHex64 leafHash = true ∧ isHex64 proof.root_hash = true ∧ isHex64 root = true ∧
        leafHash = proof.leaf_hash ∧ (∀ step ∈ proof.audit_path, isHex64 step.hash = true) ∧
        ∃ index size, proof.leaf_index.safeNat? = some index ∧
          proof.tree_size.safeNat? = some size ∧ index < size ∧
          inclusionPathPositions index size =
            .ok (proof.audit_path.map MerkleProofStep.position) ∧
          climb (nodeDigest sha256) leafHash (proof.audit_path.map MerkleProofStep.toPair) =
            root := by
  unfold verifyInclusionProofFromLeafHash
  simp only [orFalse_eq_true, bind_eq_ok, assertSha256Hex_eq_ok_iff, exists_const]
  constructor
  · rintro ⟨leafShape, ⟨index, size⟩, inRange, -, proofRootShape, rootShape, afterGuards⟩
    obtain ⟨indexEq, sizeEq, below⟩ := assertValidLeafIndex_eq_ok_iff.mp inRange
    split at afterGuards
    · simp at afterGuards
    next sameLeaf =>
      rw [ne_eq, not_not] at sameLeaf
      obtain ⟨positions, positionsOk, afterPositions⟩ := bind_eq_ok.mp afterGuards
      split at afterPositions
      · simp at afterPositions
      next sameLength =>
        rw [ne_eq, not_not] at sameLength
        obtain ⟨outcome, climbed, compared⟩ := bind_eq_ok.mp afterPositions
        cases outcome with
        | none => simp at compared
        | some computed =>
          rw [← sameLeaf] at climbed
          obtain ⟨stepShapes, rfl, climbEq⟩ :=
            (climbAuditPath_eq_some_iff leafShape sameLength).mp climbed
          obtain rfl : computed = root := by simpa using compared
          exact ⟨leafShape, proofRootShape, rootShape, sameLeaf, stepShapes, index, size,
            indexEq, sizeEq, below, positionsOk, climbEq⟩
  · rintro ⟨leafShape, proofRootShape, rootShape, sameLeaf, stepShapes, index, size, indexEq,
      sizeEq, below, positionsOk, climbEq⟩
    refine ⟨leafShape, (index, size),
      assertValidLeafIndex_eq_ok_iff.mpr ⟨indexEq, sizeEq, below⟩, sameLeaf ▸ leafShape,
      proofRootShape, rootShape, ?_⟩
    have climbed := (climbAuditPath_eq_some_iff leafShape
      (List.length_map MerkleProofStep.position)).mpr ⟨stepShapes, rfl, climbEq⟩
    rw [if_neg (by simpa using sameLeaf)]
    refine bind_eq_ok.mpr ⟨_, positionsOk, ?_⟩
    rw [if_neg (by simp), ← sameLeaf]
    exact bind_eq_ok.mpr ⟨_, climbed, by simp⟩

theorem sha256_shapes_climb {leafHash : JsString} (leafShape : isHex64 leafHash = true)
    {steps : List MerkleProofStep} (stepShapes : ∀ step ∈ steps, isHex64 step.hash = true) :
    ∀ pair ∈ climbNodes (nodeDigest sha256) leafHash (steps.map MerkleProofStep.toPair),
      isHex64 pair.1 = true ∧ isHex64 pair.2 = true := by
  apply valid_climbNodes (fun hash => isHex64 hash = true) isHex64_nodeDigest leafShape
  intro pair member
  obtain ⟨step, stepMember, rfl⟩ := List.mem_map.mp member
  exact stepShapes step stepMember

theorem noCollision_inclusion {tree : HashTree JsString} (sound : Sound tree)
    {leafHash : JsString} (leafShape : isHex64 leafHash = true) {proof : MerkleInclusionProof}
    (stepShapes : ∀ step ∈ proof.audit_path, isHex64 step.hash = true)
    (clean : sha256.CollisionFreeOn
      (nodeInputs (tree.nodes (nodeDigest sha256)) ++ inclusionInputs sha256 leafHash proof)) :
    NoCollision (nodeDigest sha256)
      (tree.nodes (nodeDigest sha256) ++ climbNodes (nodeDigest sha256) leafHash
        (proof.audit_path.map MerkleProofStep.toPair)) := by
  apply noCollision_of_collisionFreeOn
  · intro pair member
    rcases List.mem_append.mp member with inTree | inClimb
    · exact tree.valid_nodes isHex64_nodeDigest sound.shapes pair inTree
    · exact sha256_shapes_climb leafShape stepShapes pair inClimb
  · rwa [nodeInputs, List.map_append]

/-- **Inclusion proofs are exact.** Against the root of a list of well-formed
leaf hashes, a proof with that list's size is accepted exactly for the leaf at
its index and exactly with the generated audit path. -/
theorem verifyInclusionProofFromLeafHash_exact (sha256 : Sha256) (leaves : LeafHashes)
    (leafHash : JsString) (proof : MerkleInclusionProof) {index : Nat}
    (below : index < leaves.hashes.length) (indexEq : proof.leaf_index = .ofNat index)
    (sizeEq : proof.tree_size = .ofNat leaves.hashes.length)
    (rootShape : isHex64 proof.root_hash = true)
    (clean : sha256.CollisionFreeOn
      (rootInputs sha256 leaves.hashes ++ inclusionInputs sha256 leafHash proof)) :
    ∃ root, computeMerkleRootFromLeafHashes sha256 leaves.hashes = .ok root ∧
      (verifyInclusionProofFromLeafHash sha256 leafHash proof (some root) = true ↔
        leafHash = proof.leaf_hash ∧ leaves.hashes[index]? = some leafHash ∧
          inclusionPathForRange sha256 index leaves.hashes (leaves.hashes.length + 1) 0
            leaves.hashes.length = .ok proof.audit_path) := by
  have nonempty : leaves.hashes ≠ [] := by
    rw [← List.length_pos_iff]
    omega
  obtain ⟨tree, built, sound, leavesEq, root⟩ :=
    exists_tree sha256 nonempty leaves.small leaves.wellFormed
  have treeSize : tree.size = leaves.hashes.length := by
    rw [← HashTree.length_leaves, leavesEq]
  have path := inclusionPathForRange_eq_path sha256 sound index (covers_zero leavesEq)
    (show _ ≤ leaves.hashes.length + 1 by omega)
  have positions := inclusionPathPositions_eq_sides sound.balanced sound.small index
  rw [Nat.zero_add, Nat.zero_add, treeSize] at path
  rw [treeSize] at positions
  rw [rootInputs_eq sha256 built] at clean
  refine ⟨_, root, ?_⟩
  rw [verifyInclusionProofFromLeafHash_iff, path]
  constructor
  · rintro ⟨leafShape, -, -, sameLeaf, stepShapes, index', size', indexEq', sizeEq', -,
      positionsOk, climbEq⟩
    have small := leaves.small
    rw [indexEq, JsNumber.safeNat?_ofNat (by omega)] at indexEq'
    rw [sizeEq, JsNumber.safeNat?_ofNat small] at sizeEq'
    obtain rfl := Option.some.inj indexEq'
    obtain rfl := Option.some.inj sizeEq'
    rw [positions] at positionsOk
    obtain ⟨atIndex, pathEq⟩ := tree.eq_path_of_climb (by rwa [treeSize])
      (by simpa [Function.comp_def, MerkleProofStep.toPair] using (Except.ok.inj positionsOk).symm)
      (noCollision_inclusion sound leafShape stepShapes clean) climbEq
    refine ⟨sameLeaf, by rwa [leavesEq] at atIndex, ?_⟩
    rw [← pathEq, List.map_map]
    simp [Function.comp_def, proofStep, MerkleProofStep.toPair]
  · rintro ⟨sameLeaf, atIndex, pathEq⟩
    have small := leaves.small
    have leafShape : isHex64 leafHash = true :=
      leaves.wellFormed leafHash (List.mem_of_getElem? atIndex)
    have pairs : proof.audit_path.map MerkleProofStep.toPair =
        tree.path (nodeDigest sha256) index := by
      rw [← Except.ok.inj pathEq, List.map_map]
      simp [Function.comp_def, proofStep, MerkleProofStep.toPair]
    have stepPositions : proof.audit_path.map MerkleProofStep.position = tree.sides index := by
      rw [← HashTree.map_fst_path (nodeDigest sha256), ← pairs, List.map_map]
      rfl
    refine ⟨leafShape, rootShape, sound.digest, sameLeaf, ?_, index, leaves.hashes.length,
      by rw [indexEq, JsNumber.safeNat?_ofNat (by omega)],
      by rw [sizeEq, JsNumber.safeNat?_ofNat small], below, ?_, ?_⟩
    · intro step member
      have inPath : step.toPair ∈ tree.path (nodeDigest sha256) index := by
        rw [← pairs]
        exact List.mem_map_of_mem member
      exact tree.valid_path isHex64_nodeDigest sound.shapes index _ inPath
    · rw [positions, stepPositions]
    · rw [pairs]
      exact tree.climb_path (by rwa [leavesEq])

/-- The last of three leaves, under the root of the first two. -/
theorem verifyInclusionProofFromLeafHash_exact_three :
    let first := List.replicate 64 (unit 'a')
    let second := List.replicate 64 (unit 'b')
    let third := List.replicate 64 (unit 'c')
    let proof : MerkleInclusionProof :=
      ⟨.ofNat 3, .ofNat 2, third, first, [⟨.left, nodeDigest fips180 first second⟩]⟩
    ∃ root, computeMerkleRootFromLeafHashes fips180 LeafHashes.three.hashes = .ok root ∧
      (verifyInclusionProofFromLeafHash fips180 third proof (some root) = true ↔
        third = proof.leaf_hash ∧ LeafHashes.three.hashes[2]? = some third ∧
          inclusionPathForRange fips180 2 LeafHashes.three.hashes 4 0 3 = .ok proof.audit_path) :=
  verifyInclusionProofFromLeafHash_exact fips180 LeafHashes.three _ _ (show 2 < _ by decide) rfl
    rfl (by decide) (by decide +kernel)

end Inclusion

section Consistency

variable {sha256 : Sha256}

variable {tree : HashTree JsString}

/-- What the consistency verifier accepts: well-formed digests from which both
roots are rebuilt over any balanced tree of the new size, with no digest left. -/
theorem verifyConsistencyProof_iff (balanced : tree.Balanced) {oldRoot newRoot : JsString}
    {proof : MerkleConsistencyProof} {oldSize : Nat}
    (oldEq : proof.old_tree_size.safeNat? = some oldSize)
    (newEq : proof.new_tree_size.safeNat? = some tree.size) (positive : 0 < oldSize)
    (within : oldSize ≤ tree.size) :
    verifyConsistencyProof sha256 oldRoot newRoot proof = true ↔
      isHex64 oldRoot = true ∧ isHex64 newRoot = true ∧
        (∀ hash ∈ proof.audit_path, isHex64 hash = true) ∧
        tree.reconstruct (nodeDigest sha256) oldSize true oldRoot proof.audit_path =
          some (oldRoot, newRoot, []) := by
  unfold verifyConsistencyProof
  simp only [orFalse_eq_true, bind_eq_ok, assertSha256Hex_eq_ok_iff, assertTreeSize_eq_ok_iff,
    forM_assertSha256Hex_eq_ok_iff, oldEq, newEq, Option.some.injEq, exists_const,
    exists_eq_left']
  refine and_congr_right fun oldShape => and_congr_right fun newShape =>
    and_congr_right fun pathShapes => ?_
  rw [if_neg (by omega), if_neg (by omega)]
  by_cases whole : oldSize = tree.size
  · subst whole
    rw [if_pos rfl, HashTree.reconstruct_size]
    simp [HashTree.sharedRoot, and_comm]
  · have small := (JsNumber.eq_ofNat_of_safeNat? newEq).2
    obtain ⟨result, resultOk, resultEq, inRange⟩ := verifyConsistencySubproof_reconstructs
      sha256 pathShapes oldShape balanced small (show _ ≤ tree.size + 1 by omega)
      positive within true (Nat.zero_le _)
    rw [List.drop_zero] at resultEq
    rw [if_neg whole, resultOk, resultEq]
    cases result with
    | none => simp
    | some found =>
      have bound := (inRange found rfl).1
      simp only [ok_bind, pure_eq_ok, Bool.and_eq_true, decide_eq_true_eq, Option.map_some,
        ConsistencyVerifierResult.view, Option.some.injEq, Prod.mk.injEq, List.drop_eq_nil_iff]
      constructor
      · rintro ⟨⟨atEnd, oldRootEq⟩, newRootEq⟩
        exact ⟨oldRootEq, newRootEq, atEnd.ge⟩
      · rintro ⟨oldRootEq, newRootEq, atEnd⟩
        exact ⟨⟨by omega, oldRootEq⟩, newRootEq⟩

theorem noCollision_consistency (sound : Sound tree) {oldRoot : JsString}
    (oldShape : isHex64 oldRoot = true) {proof : MerkleConsistencyProof}
    (pathShapes : ∀ hash ∈ proof.audit_path, isHex64 hash = true) {oldSize : Nat}
    (oldEq : proof.old_tree_size.safeNat? = some oldSize)
    (newEq : proof.new_tree_size.safeNat? = some tree.size) (clean : sha256.CollisionFreeOn
      (nodeInputs (tree.nodes (nodeDigest sha256)) ++ consistencyInputs sha256 oldRoot proof)) :
    NoCollision (nodeDigest sha256)
      (tree.nodes (nodeDigest sha256) ++ tree.reconstructNodes (nodeDigest sha256) oldSize true
        oldRoot proof.audit_path) := by
  have sizePos := tree.size_pos
  have nonempty : List.replicate tree.size oldRoot ≠ [] := by
    rw [← List.length_pos_iff, List.length_replicate]
    exact sizePos
  obtain ⟨shape, built, shapeBalanced, shapeLeaves⟩ := HashTree.ofLeaves_spec nonempty
  have shapeSize : shape.size = tree.size := by
    rw [← HashTree.length_leaves, shapeLeaves, List.length_replicate]
  simp only [consistencyInputs, oldEq, newEq, built] at clean
  rw [(HashTree.reconstruct_congr shapeBalanced sound.balanced shapeSize oldSize true oldRoot
    proof.audit_path).2] at clean
  apply noCollision_of_collisionFreeOn
  · intro pair member
    rcases List.mem_append.mp member with inTree | inProof
    · exact tree.valid_nodes isHex64_nodeDigest sound.shapes pair inTree
    · exact (tree.valid_reconstruct isHex64_nodeDigest oldSize true oldShape pathShapes).2 pair
        inProof
  · rwa [nodeInputs, List.map_append]

theorem getConsistencyProof_auditPath {leafHashes : List JsString} (sound : Sound tree)
    (leavesEq : tree.leaves = leafHashes) {oldSize : Nat} (positive : 0 < oldSize)
    (within : oldSize ≤ tree.size) :
    (getConsistencyProofFromLeafHashes sha256 (.ofNat oldSize) leafHashes).map
        MerkleConsistencyProof.audit_path =
      .ok (tree.consistencyPath (nodeDigest sha256) oldSize true) := by
  have treeSize : tree.size = leafHashes.length := by rw [← HashTree.length_leaves, leavesEq]
  have small := sound.small
  have guard : assertLeafHashes leafHashes = .ok () :=
    forM_assertSha256Hex_eq_ok_iff.mpr (leavesEq ▸ sound.shapes)
  have oldGuard : assertTreeSize (.ofNat oldSize) (js "oldTreeSize") = .ok oldSize :=
    assertTreeSize_eq_ok_iff.mpr (JsNumber.safeNat?_ofNat (by omega))
  have subproof := consistencySubproof_eq_consistencyPath sha256 sound (covers_zero leavesEq)
    (show _ ≤ leafHashes.length + 1 by omega) positive within true
  rw [Nat.zero_add, treeSize] at subproof
  unfold getConsistencyProofFromLeafHashes
  simp only [guard, oldGuard, ok_bind]
  rw [if_neg (by omega)]
  by_cases whole : oldSize = leafHashes.length
  · rw [if_pos (Or.inr whole), whole, ← treeSize]
    cases tree with
    | leaf value => rfl
    | fork left right =>
      simp [HashTree.consistencyPath, HashTree.size, pure, Except.pure, Except.map, bind,
        Except.bind]
  · rw [if_neg (by omega), subproof]
    rfl

/-- **Consistency proofs are exact.** Against the root of a list of well-formed
leaf hashes, an old root and a proof are accepted exactly when the old root is
the root of the prefix and the audit path is the generated one. -/
theorem verifyConsistencyProof_exact (sha256 : Sha256) (leaves : LeafHashes) (oldRoot : JsString)
    (proof : MerkleConsistencyProof) {oldSize : Nat} (positive : 0 < oldSize)
    (within : oldSize ≤ leaves.hashes.length) (oldEq : proof.old_tree_size = .ofNat oldSize)
    (newEq : proof.new_tree_size = .ofNat leaves.hashes.length)
    (clean : sha256.CollisionFreeOn
      (rootInputs sha256 leaves.hashes ++ consistencyInputs sha256 oldRoot proof)) :
    ∃ newRoot, computeMerkleRootFromLeafHashes sha256 leaves.hashes = .ok newRoot ∧
      (verifyConsistencyProof sha256 oldRoot newRoot proof = true ↔
        computeMerkleRootFromLeafHashes sha256 (leaves.hashes.take oldSize) = .ok oldRoot ∧
          (getConsistencyProofFromLeafHashes sha256 (.ofNat oldSize) leaves.hashes).map
            MerkleConsistencyProof.audit_path = .ok proof.audit_path) := by
  have nonempty : leaves.hashes ≠ [] := by
    rw [← List.length_pos_iff]
    omega
  obtain ⟨tree, built, sound, leavesEq, root⟩ :=
    exists_tree sha256 nonempty leaves.small leaves.wellFormed
  have treeSize : tree.size = leaves.hashes.length := by
    rw [← HashTree.length_leaves, leavesEq]
  have small := leaves.small
  have withinTree : oldSize ≤ tree.size := by rwa [treeSize]
  have oldNat : proof.old_tree_size.safeNat? = some oldSize := by
    rw [oldEq, JsNumber.safeNat?_ofNat (by omega)]
  have newNat : proof.new_tree_size.safeNat? = some tree.size := by
    rw [newEq, JsNumber.safeNat?_ofNat small, treeSize]
  rw [rootInputs_eq sha256 built] at clean
  refine ⟨_, root, ?_⟩
  rw [verifyConsistencyProof_iff sound.balanced oldNat newNat positive withinTree,
    computeMerkleRoot_take sha256 sound leavesEq positive withinTree,
    getConsistencyProof_auditPath sound leavesEq positive withinTree]
  simp only [Except.ok.injEq]
  constructor
  · rintro ⟨oldShape, -, pathShapes, rebuilt⟩
    obtain ⟨pathEq, oldRootEq⟩ := tree.eq_consistencyPath_of_reconstruct positive withinTree
      (noCollision_consistency sound oldShape pathShapes oldNat newNat clean) rebuilt rfl
    rw [List.append_nil] at pathEq
    exact ⟨oldRootEq.symm, pathEq.symm⟩
  · rintro ⟨rfl, pathEq⟩
    have truncatedSound : Sound (tree.truncate oldSize) :=
      sound.truncate positive withinTree
    have rebuilt := tree.reconstruct_consistencyPath positive withinTree true
      ((tree.truncate oldSize).digest (nodeDigest sha256)) [] (fun _ => rfl)
    rw [List.append_nil] at rebuilt
    rw [← pathEq]
    exact ⟨truncatedSound.digest, sound.digest,
      tree.valid_consistencyPath isHex64_nodeDigest sound.shapes oldSize true, rebuilt⟩

/-- Two of three leaves. -/
theorem verifyConsistencyProof_exact_three :
    let oldRoot := nodeDigest fips180 (List.replicate 64 (unit 'a')) (List.replicate 64 (unit 'b'))
    let proof : MerkleConsistencyProof := ⟨.ofNat 2, .ofNat 3, [List.replicate 64 (unit 'c')]⟩
    ∃ newRoot, computeMerkleRootFromLeafHashes fips180 LeafHashes.three.hashes = .ok newRoot ∧
      (verifyConsistencyProof fips180 oldRoot newRoot proof = true ↔
        computeMerkleRootFromLeafHashes fips180 (LeafHashes.three.hashes.take 2) = .ok oldRoot ∧
          (getConsistencyProofFromLeafHashes fips180 (.ofNat 2) LeafHashes.three.hashes).map
            MerkleConsistencyProof.audit_path = .ok proof.audit_path) :=
  verifyConsistencyProof_exact fips180 LeafHashes.three _ _ (show 0 < 2 by decide) (by decide) rfl
    rfl (by decide +kernel)

end Consistency

end GhostArk.ResearchFrontier.Merkle
