import GhostArk.Js.Utf8
import GhostArk.ResearchFrontier.MerkleExactness
import GhostArk.ResearchFrontier.RevocationDecision

/-!
Contract: the order that an accepted revocation decision establishes.

Owns the strings hashed along a decision, the position that an accepted audit
path really addresses in the log under its checkpoint, the prefix relation
between the two logs, and the exact condition under which the receipt precedes
the revocation record.

The enforcement compares the `leaf_index` fields of the two proofs. Each is
checked against the proof's own `tree_size`, never against the checkpoint's, so
the position that an audit path addresses in the signed tree may be another one.
-/

namespace GhostArk.ResearchFrontier.AuthenticatedRevocation

open Js
open Lib.MerkleTree
open ResearchFrontier.Merkle
open ResearchFrontier.Witness

/-- A list of leaf payloads with the size and root of a checkpoint. -/
structure CommittedLog (runtime : Runtime) (checkpoint : WitnessCheckpoint) where
  payloads : List JsString
  length_lt : payloads.length < 2 ^ 32
  root : computeMerkleRoot runtime.sha256 payloads = .ok checkpoint.root_hash
  size : checkpoint.tree_size = .ofNat payloads.length

section Inputs

variable (runtime : Runtime)

def leafHashes (payloads : List JsString) : List JsString :=
  payloads.map (leafHash runtime.sha256)

def logInputs (payloads : List JsString) : List JsString :=
  payloads.map leafInput ++ rootInputs runtime.sha256 (leafHashes runtime payloads)

def positionInputs (inclusion : CheckpointInclusion) : List JsString :=
  leafInput inclusion.leafPayload ::
    inclusionInputs runtime.sha256 (leafHash runtime.sha256 inclusion.leafPayload) inclusion.proof

/-- The longer of the log under the inclusion checkpoint and the log under the
revocation checkpoint. -/
def longerLog (inclusionLog revocationLog : List JsString) : List JsString :=
  if inclusionLog.length ≤ revocationLog.length then revocationLog else inclusionLog

def shorterLog (inclusionLog revocationLog : List JsString) : List JsString :=
  if inclusionLog.length ≤ revocationLog.length then inclusionLog else revocationLog

/-- The strings hashed by a decision over two logs: both logs, the prefix of the
longer one, the two inclusion checks, the consistency check and the empty tree. -/
def orderingInputs (input : AuthenticatedRevocationInput)
    (inclusionLog revocationLog : List JsString) : List JsString :=
  [js "ghostark.empty_merkle_tree.v1"] ++ logInputs runtime inclusionLog ++
    logInputs runtime revocationLog ++
    rootInputs runtime.sha256 ((leafHashes runtime (longerLog inclusionLog revocationLog)).take
      (shorterLog inclusionLog revocationLog).length) ++
    positionInputs runtime input.inclusion ++
    positionInputs runtime input.revocation.toCheckpointInclusion ++
    consistencyInputs runtime.sha256 (earlierAndLater input).1.root_hash input.consistency

end Inputs

theorem leafInput_ne_nodeInput (payload leftHex rightHex : JsString) :
    leafInput payload ≠ nodeInput leftHex rightHex := by
  intro same
  have heads := congrArg (List.take 17) same
  unfold leafInput nodeInput at heads
  rw [List.append_assoc, List.append_assoc,
    List.take_append_of_le_length (by decide), List.take_append_of_le_length (by decide)] at heads
  exact absurd heads (by decide)

theorem leafInput_ne_empty (payload : JsString) :
    leafInput payload ≠ js "ghostark.empty_merkle_tree.v1" := by
  intro same
  have heads := congrArg (List.take 17) same
  unfold leafInput at heads
  rw [List.take_append_of_le_length (by decide)] at heads
  exact absurd heads (by decide)

theorem nodeInput_ne_empty (leftHex rightHex : JsString) :
    nodeInput leftHex rightHex ≠ js "ghostark.empty_merkle_tree.v1" := by
  intro same
  have heads := congrArg (List.take 17) same
  unfold nodeInput at heads
  rw [List.append_assoc, List.append_assoc, List.take_append_of_le_length (by decide)] at heads
  exact absurd heads (by decide)

/-! ### Well-formed inputs

SHA-256 reads the UTF-8 bytes of a text, which tell two texts apart only where neither holds a lone
surrogate. -/

section Formed

variable {sha256 : Sha256}

theorem isWellFormed_leafInput {payload : JsString} (formed : isWellFormed payload = true) :
    isWellFormed (leafInput payload) = true :=
  isWellFormed_append (by decide) formed

theorem isWellFormed_nodeInputs {pairs : List (JsString × JsString)}
    (shapes : ∀ pair ∈ pairs, isHex64 pair.1 = true ∧ isHex64 pair.2 = true) :
    ∀ text ∈ nodeInputs pairs, isWellFormed text = true := by
  intro text member
  obtain ⟨pair, inPairs, rfl⟩ := List.mem_map.mp member
  obtain ⟨left, right⟩ := shapes pair inPairs
  exact isWellFormed_append (isWellFormed_append (isWellFormed_append (by decide)
    (isWellFormed_of_isHex64 left)) (by decide)) (isWellFormed_of_isHex64 right)

theorem isWellFormed_rootInputs {hashes : List JsString}
    (shapes : ∀ hash ∈ hashes, isHex64 hash = true) :
    ∀ text ∈ rootInputs sha256 hashes, isWellFormed text = true := by
  rw [rootInputs]
  by_cases empty : hashes = []
  · rw [empty]
    exact List.forall_mem_singleton.mpr (by decide)
  · obtain ⟨tree, built, -, leavesEq⟩ := HashTree.ofLeaves_spec empty
    rw [built]
    exact isWellFormed_nodeInputs (tree.valid_nodes isHex64_nodeDigest (leavesEq ▸ shapes))

theorem isWellFormed_consistencyInputs {oldRoot newRoot : JsString}
    {proof : MerkleConsistencyProof}
    (verified : verifyConsistencyProof sha256 oldRoot newRoot proof = true) :
    ∀ text ∈ consistencyInputs sha256 oldRoot proof, isWellFormed text = true := by
  unfold verifyConsistencyProof at verified
  simp only [orFalse_eq_true, bind_eq_ok, assertSha256Hex_eq_ok_iff,
    forM_assertSha256Hex_eq_ok_iff, exists_const] at verified
  obtain ⟨oldShape, -, oldSize, -, newSize, -, pathShapes, -⟩ := verified
  intro text member
  unfold consistencyInputs at member
  split at member
  · split at member
    · exact absurd member List.not_mem_nil
    next shape _ =>
      exact isWellFormed_nodeInputs
        (shape.valid_reconstruct isHex64_nodeDigest _ true oldShape pathShapes).2 text member
  · exact absurd member List.not_mem_nil

end Formed

/-! ### Positions -/

/-- In a tree of the checkpoint's own size, the left/right pattern of the audit
path is that of the leaf at `position`. -/
def Addresses (inclusion : CheckpointInclusion) (position : Nat) : Prop :=
  ∃ size, inclusion.checkpoint.tree_size.safeNat? = some size ∧ position < size ∧
    inclusionPathPositions position size =
      .ok (inclusion.proof.audit_path.map MerkleProofStep.position)

section Positions

variable {runtime : Runtime}

theorem isHex64_leafHashes (payloads : List JsString) :
    ∀ hash ∈ leafHashes runtime payloads, isHex64 hash = true := by
  intro hash member
  obtain ⟨payload, -, rfl⟩ := List.mem_map.mp member
  exact runtime.sha256.isHex64_sha256Hex _

theorem CommittedLog.exists_tree {checkpoint : WitnessCheckpoint}
    (log : CommittedLog runtime checkpoint) (nonempty : log.payloads ≠ []) :
    ∃ tree, HashTree.ofLeaves (leafHashes runtime log.payloads) = some tree ∧ Sound tree ∧
      tree.leaves = leafHashes runtime log.payloads ∧ tree.size = log.payloads.length ∧
      tree.digest (nodeDigest runtime.sha256) = checkpoint.root_hash := by
  have hashesNonempty : leafHashes runtime log.payloads ≠ [] := by
    simpa [leafHashes] using nonempty
  have bound := log.length_lt
  have small : (leafHashes runtime log.payloads).length ≤ JsNumber.maxSafeInteger := by
    rw [leafHashes, List.length_map, JsNumber.maxSafeInteger]
    omega
  obtain ⟨tree, built, sound, leavesEq, root⟩ :=
    Merkle.exists_tree runtime.sha256 hashesNonempty small (isHex64_leafHashes log.payloads)
  refine ⟨tree, built, sound, leavesEq, ?_, ?_⟩
  · rw [← HashTree.length_leaves, leavesEq, leafHashes, List.length_map]
  · exact Except.ok.inj (root.symm.trans log.root)

theorem Addresses.unique {inclusion : CheckpointInclusion} {first second : Nat}
    (firstAddressed : Addresses inclusion first) (secondAddressed : Addresses inclusion second) :
    first = second := by
  obtain ⟨size, sizeEq, firstBelow, firstPositions⟩ := firstAddressed
  obtain ⟨size', sizeEq', secondBelow, secondPositions⟩ := secondAddressed
  obtain rfl : size = size' := Option.some.inj (sizeEq.symm.trans sizeEq')
  have small := (JsNumber.eq_ofNat_of_safeNat? sizeEq).2
  have nonempty : List.replicate size () ≠ [] := by
    rw [← List.length_pos_iff, List.length_replicate]
    omega
  obtain ⟨shape, -, balanced, leavesEq⟩ := HashTree.ofLeaves_spec nonempty
  have shapeSize : shape.size = size := by
    rw [← HashTree.length_leaves, leavesEq, List.length_replicate]
  subst shapeSize
  rw [inclusionPathPositions_eq_sides balanced small] at firstPositions secondPositions
  exact shape.sides_injective firstBelow secondBelow
    (Except.ok.inj (firstPositions.trans secondPositions.symm))

private theorem leafHash_ne_nodeDigest {inputs : List JsString}
    (clean : runtime.sha256.CollisionFreeOn inputs) {payload : JsString}
    (leafListed : leafInput payload ∈ inputs) {pair : JsString × JsString}
    (nodeListed : nodeInput pair.1 pair.2 ∈ inputs) :
    Function.uncurry (nodeDigest runtime.sha256) pair ≠ leafHash runtime.sha256 payload := by
  intro same
  exact leafInput_ne_nodeInput payload pair.1 pair.2
    (clean _ nodeListed _ leafListed same).symm

private theorem climb_ne_emptyRoot {inputs : List JsString}
    (clean : runtime.sha256.CollisionFreeOn inputs)
    (emptyListed : js "ghostark.empty_merkle_tree.v1" ∈ inputs) {payload : JsString}
    (leafListed : leafInput payload ∈ inputs) {steps : List (Side × JsString)}
    (nodesListed : ∀ pair ∈ climbNodes (nodeDigest runtime.sha256)
      (leafHash runtime.sha256 payload) steps, nodeInput pair.1 pair.2 ∈ inputs) :
    climb (nodeDigest runtime.sha256) (leafHash runtime.sha256 payload) steps ≠
      EMPTY_TREE_ROOT runtime.sha256 := by
  intro reaches
  rcases List.eq_nil_or_concat steps with rfl | ⟨inner, last, rfl⟩
  · exact leafInput_ne_empty payload (clean _ leafListed _ emptyListed reaches)
  · rw [List.concat_eq_append, climb_concat] at reaches
    have listed := nodesListed _ (by
      rw [List.concat_eq_append, climbNodes_concat]
      exact List.mem_append_right _ (List.mem_singleton_self _))
    exact nodeInput_ne_empty _ _ (clean _ listed _ emptyListed reaches)

/-- An accepted inclusion proof addresses a position of the committed log that
holds the payload. -/
theorem exists_addressed {inclusion : CheckpointInclusion}
    (included : includedInCheckpoint runtime inclusion = true)
    (log : CommittedLog runtime inclusion.checkpoint)
    (clean : runtime.sha256.CollisionFreeOn
      ([js "ghostark.empty_merkle_tree.v1"] ++ logInputs runtime log.payloads ++
        positionInputs runtime inclusion)) :
    ∃ position, Addresses inclusion position ∧
      log.payloads[position]? = some inclusion.leafPayload := by
  rw [includedInCheckpoint, Bool.and_eq_true, verifyInclusionProof] at included
  obtain ⟨leafShape, -, -, -, stepShapes, -, -, -, -, -, -, reaches⟩ :=
    verifyInclusionProofFromLeafHash_iff.mp included.2
  have leafListed : leafInput inclusion.leafPayload ∈
      [js "ghostark.empty_merkle_tree.v1"] ++ logInputs runtime log.payloads ++
        positionInputs runtime inclusion := by
    simp [positionInputs]
  have climbListed : ∀ pair ∈ climbNodes (nodeDigest runtime.sha256)
      (leafHash runtime.sha256 inclusion.leafPayload)
      (inclusion.proof.audit_path.map MerkleProofStep.toPair),
      nodeInput pair.1 pair.2 ∈ [js "ghostark.empty_merkle_tree.v1"] ++
        logInputs runtime log.payloads ++ positionInputs runtime inclusion := by
    intro pair member
    apply List.mem_append_right
    exact List.mem_cons_of_mem _ (List.mem_map.mpr ⟨pair, member, rfl⟩)
  by_cases empty : log.payloads = []
  · have root := log.root
    rw [empty] at root
    have rootEq : EMPTY_TREE_ROOT runtime.sha256 = inclusion.checkpoint.root_hash :=
      Except.ok.inj root
    exact absurd (reaches.trans rootEq.symm)
      (climb_ne_emptyRoot clean (by simp) leafListed climbListed)
  · obtain ⟨tree, built, sound, leavesEq, sizeEq, rootEq⟩ := log.exists_tree empty
    have inputsEq := rootInputs_eq runtime.sha256 built
    have nodesListed : ∀ pair ∈ tree.nodes (nodeDigest runtime.sha256),
        nodeInput pair.1 pair.2 ∈ [js "ghostark.empty_merkle_tree.v1"] ++
          logInputs runtime log.payloads ++ positionInputs runtime inclusion := by
      intro pair member
      apply List.mem_append_left
      apply List.mem_append_right
      apply List.mem_append_right
      rw [inputsEq]
      exact List.mem_map.mpr ⟨pair, member, rfl⟩
    have payloadsListed : ∀ payload ∈ log.payloads, leafInput payload ∈
        [js "ghostark.empty_merkle_tree.v1"] ++ logInputs runtime log.payloads ++
          positionInputs runtime inclusion := by
      intro payload member
      apply List.mem_append_left
      apply List.mem_append_right
      exact List.mem_append_left _ (List.mem_map.mpr ⟨payload, member, rfl⟩)
    have noCollision : NoCollision (nodeDigest runtime.sha256)
        (tree.nodes (nodeDigest runtime.sha256) ++ climbNodes (nodeDigest runtime.sha256)
          (leafHash runtime.sha256 inclusion.leafPayload)
          (inclusion.proof.audit_path.map MerkleProofStep.toPair)) := by
      apply noCollision_inclusion sound leafShape stepShapes
      apply clean.mono
      intro input member
      rcases List.mem_append.mp member with inTree | inClimb
      · obtain ⟨pair, pairMember, rfl⟩ := List.mem_map.mp inTree
        exact nodesListed pair pairMember
      · obtain ⟨pair, pairMember, rfl⟩ := List.mem_map.mp inClimb
        exact climbListed pair pairMember
    obtain ⟨position, atPosition, pathEq⟩ := tree.exists_path_of_climb
      (fun pair member => leafHash_ne_nodeDigest clean leafListed (nodesListed pair member))
      (by
        intro value member pair pairMember
        rw [leavesEq] at member
        obtain ⟨payload, listed, rfl⟩ := List.mem_map.mp member
        exact leafHash_ne_nodeDigest clean (payloadsListed payload listed)
          (climbListed pair pairMember))
      noCollision (reaches.trans rootEq.symm)
    rw [leavesEq, leafHashes, List.getElem?_map] at atPosition
    obtain ⟨payload, found, sameHash⟩ := Option.map_eq_some_iff.mp atPosition
    have samePayload : payload = inclusion.leafPayload := by
      have inputs := clean _ (payloadsListed payload (List.mem_of_getElem? found)) _ leafListed
        sameHash
      exact List.append_cancel_left inputs
    rw [samePayload] at found
    have below : position < log.payloads.length := (List.getElem?_eq_some_iff.mp found).1
    refine ⟨position, ⟨tree.size, ?_, by omega, ?_⟩, found⟩
    · rw [log.size, sizeEq, JsNumber.safeNat?_ofNat (sizeEq ▸ sound.small)]
    · rw [inclusionPathPositions_eq_sides sound.balanced sound.small,
        ← HashTree.map_fst_path (nodeDigest runtime.sha256), ← pathEq, List.map_map]
      rfl

end Positions

section Prefix

variable {runtime : Runtime}

private theorem payloads_eq_of_leafHashes_eq {inputs : List JsString}
    (clean : runtime.sha256.CollisionFreeOn inputs) {left right : List JsString}
    (leftListed : ∀ payload ∈ left, leafInput payload ∈ inputs)
    (rightListed : ∀ payload ∈ right, leafInput payload ∈ inputs)
    (same : leafHashes runtime left = leafHashes runtime right) : left = right := by
  induction left generalizing right with
  | nil =>
    cases right with
    | nil => rfl
    | cons second others => simp [leafHashes] at same
  | cons first rest ih =>
    cases right with
    | nil => simp [leafHashes] at same
    | cons second others =>
      simp only [leafHashes, List.map_cons, List.cons.injEq] at same
      have inputsEq := clean _ (leftListed first (by simp)) _ (rightListed second (by simp))
        same.1
      have firstEq : first = second := List.append_cancel_left inputsEq
      have restEq := ih
        (fun payload member => leftListed payload (by simp [member]))
        (fun payload member => rightListed payload (by simp [member])) same.2
      rw [firstEq, restEq]

/-- An accepted consistency proof between the roots of two nonempty logs makes
the shorter log a prefix of the longer one. -/
theorem prefix_of_consistency {earlier later : WitnessCheckpoint}
    {consistency : MerkleConsistencyProof} (shorter : CommittedLog runtime earlier)
    (longer : CommittedLog runtime later) (nonempty : shorter.payloads ≠ [])
    (within : shorter.payloads.length ≤ longer.payloads.length)
    (oldEq : consistency.old_tree_size = .ofNat shorter.payloads.length)
    (newEq : consistency.new_tree_size = .ofNat longer.payloads.length)
    (verified : verifyConsistencyProof runtime.sha256 earlier.root_hash later.root_hash
      consistency = true)
    (clean : runtime.sha256.CollisionFreeOn
      (logInputs runtime shorter.payloads ++ logInputs runtime longer.payloads ++
        rootInputs runtime.sha256
          ((leafHashes runtime longer.payloads).take shorter.payloads.length) ++
        consistencyInputs runtime.sha256 earlier.root_hash consistency)) :
    shorter.payloads = longer.payloads.take shorter.payloads.length := by
  have positive : 0 < shorter.payloads.length := List.length_pos_iff.mpr nonempty
  have longerNonempty : longer.payloads ≠ [] := by
    rw [← List.length_pos_iff]
    omega
  obtain ⟨oldTree, oldBuilt, oldSound, oldLeaves, oldSize, oldRoot⟩ := shorter.exists_tree nonempty
  obtain ⟨tree, built, sound, leavesEq, sizeEq, rootEq⟩ := longer.exists_tree longerNonempty
  have oldSmall := oldSound.small
  have withinTree : shorter.payloads.length ≤ tree.size := by rwa [sizeEq]
  have oldNat : consistency.old_tree_size.safeNat? = some shorter.payloads.length := by
    rw [oldEq, JsNumber.safeNat?_ofNat (by omega)]
  have newNat : consistency.new_tree_size.safeNat? = some tree.size := by
    rw [newEq, ← sizeEq, JsNumber.safeNat?_ofNat sound.small]
  obtain ⟨oldShape, -, pathShapes, rebuilt⟩ := (verifyConsistencyProof_iff sound.balanced oldNat
    newNat positive withinTree).mp verified
  have rootClean : runtime.sha256.CollisionFreeOn
      (nodeInputs (tree.nodes (nodeDigest runtime.sha256)) ++
        consistencyInputs runtime.sha256 earlier.root_hash consistency) := by
    rw [← rootInputs_eq runtime.sha256 built]
    apply clean.mono
    intro input member
    simp only [logInputs, List.mem_append] at member ⊢
    tauto
  have prefixRoot := (tree.eq_consistencyPath_of_reconstruct positive withinTree
    (noCollision_consistency sound oldShape pathShapes oldNat newNat rootClean) rebuilt
    rootEq.symm).2
  -- Two balanced trees of one size and root: the shorter log's and the truncated one.
  have truncatedSound := sound.truncate positive withinTree
  have truncatedLeaves := tree.leaves_truncate positive withinTree
  rw [leavesEq] at truncatedLeaves
  have truncatedBuilt : HashTree.ofLeaves
      ((leafHashes runtime longer.payloads).take shorter.payloads.length) =
        some (tree.truncate shorter.payloads.length) := by
    have prefixNonempty : (leafHashes runtime longer.payloads).take shorter.payloads.length ≠ [] := by
      rw [← truncatedLeaves, ← List.length_pos_iff, HashTree.length_leaves]
      exact (tree.truncate shorter.payloads.length).size_pos
    obtain ⟨prefixTree, prefixBuilt, prefixBalanced, prefixLeaves⟩ :=
      HashTree.ofLeaves_spec prefixNonempty
    rw [prefixBuilt, HashTree.Balanced.ext prefixBalanced truncatedSound.balanced
      (prefixLeaves.trans truncatedLeaves.symm)]
  have noCollision : NoCollision (nodeDigest runtime.sha256)
      (oldTree.nodes (nodeDigest runtime.sha256) ++
        (tree.truncate shorter.payloads.length).nodes (nodeDigest runtime.sha256)) := by
    apply noCollision_of_collisionFreeOn
    · intro pair member
      rcases List.mem_append.mp member with inOld | inTruncated
      · exact oldTree.valid_nodes isHex64_nodeDigest oldSound.shapes pair inOld
      · exact (tree.truncate _).valid_nodes isHex64_nodeDigest truncatedSound.shapes pair
          inTruncated
    · rw [nodeInputs, List.map_append, ← nodeInputs, ← nodeInputs,
        ← rootInputs_eq runtime.sha256 oldBuilt, ← rootInputs_eq runtime.sha256 truncatedBuilt]
      apply clean.mono
      intro input member
      simp only [logInputs, List.mem_append] at member ⊢
      tauto
  have sameLeaves := HashTree.leaves_eq_of_digest_eq oldSound.balanced truncatedSound.balanced
    (by rw [oldSize, tree.size_truncate positive withinTree]) noCollision
    (oldRoot.trans prefixRoot)
  rw [oldLeaves, truncatedLeaves, leafHashes, leafHashes, ← List.map_take] at sameLeaves
  apply payloads_eq_of_leafHashes_eq clean _ _ sameLeaves
  · intro payload member
    simp only [logInputs, List.mem_append]
    exact Or.inl (Or.inl (Or.inl (Or.inl (List.mem_map.mpr ⟨payload, member, rfl⟩))))
  · intro payload member
    simp only [logInputs, List.mem_append]
    exact Or.inl (Or.inl (Or.inr (Or.inl
      (List.mem_map.mpr ⟨payload, List.mem_of_mem_take member, rfl⟩))))

end Prefix

section Order

def IsKeyRevocation (keyId payload : JsString) : Prop :=
  ∃ reason, canonicalRevocationRecordPayload (keyRevocationRecord keyId reason) = .ok payload

/-- The receipt payload stands in the log before a revocation record of the key. -/
def ReceiptPrecedes (input : AuthenticatedRevocationInput) (log : List JsString) : Prop :=
  ∃ receiptAt revocationAt : Nat, receiptAt < revocationAt ∧
    log[receiptAt]? = some input.inclusion.leafPayload ∧
    ∃ record, log[revocationAt]? = some record ∧ IsKeyRevocation input.keyId record

/-- The positions that the two audit paths address in trees of their checkpoints'
own sizes are in order. -/
def PositionsInOrder (input : AuthenticatedRevocationInput) : Prop :=
  ∃ receiptAt revocationAt, Addresses input.inclusion receiptAt ∧
    Addresses input.revocation.toCheckpointInclusion revocationAt ∧ receiptAt < revocationAt

/-- The receipt payload, and the revocation record of the key, stand once in the log. -/
structure OccurOnce (input : AuthenticatedRevocationInput) (log : List JsString) : Prop where
  receipt : ∀ first second : Nat, log[first]? = some input.inclusion.leafPayload →
    log[second]? = some input.inclusion.leafPayload → first = second
  revocation : ∀ (first second : Nat) (record other : JsString), log[first]? = some record →
    log[second]? = some other → IsKeyRevocation input.keyId record →
    IsKeyRevocation input.keyId other → first = second

variable {runtime : Runtime} {input : AuthenticatedRevocationInput}

/-- Consistent checkpoints commit to prefixes of one log. -/
theorem logs_agree (consistent : consistencyOk runtime input = true)
    (inclusionLog : CommittedLog runtime input.inclusion.checkpoint)
    (revocationLog : CommittedLog runtime input.revocation.checkpoint)
    (inclusionNonempty : inclusionLog.payloads ≠ [])
    (revocationNonempty : revocationLog.payloads ≠ [])
    (clean : runtime.sha256.CollisionFreeOn
      (orderingInputs runtime input inclusionLog.payloads revocationLog.payloads)) :
    inclusionLog.payloads <+: longerLog inclusionLog.payloads revocationLog.payloads ∧
      revocationLog.payloads <+: longerLog inclusionLog.payloads revocationLog.payloads := by
  have sizes : input.inclusion.checkpoint.tree_size.le input.revocation.checkpoint.tree_size =
      decide (inclusionLog.payloads.length ≤ revocationLog.payloads.length) := by
    rw [inclusionLog.size, revocationLog.size, JsNumber.le_ofNat]
  unfold consistencyOk earlierAndLater at consistent
  unfold orderingInputs earlierAndLater longerLog shorterLog at clean
  unfold longerLog
  simp only [sizes, decide_eq_true_eq, Bool.and_eq_true] at consistent clean
  by_cases within : inclusionLog.payloads.length ≤ revocationLog.payloads.length
  · simp only [within, if_true] at consistent clean ⊢
    have oldEq := JsNumber.eq_of_strictEq consistent.1.1
    have newEq := JsNumber.eq_of_strictEq consistent.1.2
    have isPrefix := prefix_of_consistency inclusionLog revocationLog inclusionNonempty within
      (oldEq.trans inclusionLog.size) (newEq.trans revocationLog.size) consistent.2
      (clean.mono (by
        intro hashed member
        simp only [List.mem_append] at member ⊢
        tauto))
    exact ⟨isPrefix ▸ List.take_prefix _ _, List.prefix_refl _⟩
  · simp only [within, if_false] at consistent clean ⊢
    have oldEq := JsNumber.eq_of_strictEq consistent.1.1
    have newEq := JsNumber.eq_of_strictEq consistent.1.2
    have isPrefix := prefix_of_consistency revocationLog inclusionLog revocationNonempty (by omega)
      (oldEq.trans revocationLog.size) (newEq.trans inclusionLog.size) consistent.2
      (clean.mono (by
        intro hashed member
        simp only [List.mem_append] at member ⊢
        tauto))
    exact ⟨List.prefix_refl _, isPrefix ▸ List.take_prefix _ _⟩

private theorem getElem?_of_prefix {short long : List JsString} (isPrefix : short <+: long)
    {index : Nat} {payload : JsString} (found : short[index]? = some payload) :
    long[index]? = some payload := by
  obtain ⟨rest, rfl⟩ := isPrefix
  rw [List.getElem?_append_left (List.getElem?_eq_some_iff.mp found).1, found]

/-- Every payload that a decision over two logs reads. -/
def decisionPayloads (input : AuthenticatedRevocationInput)
    (inclusionLog revocationLog : List JsString) : List JsString :=
  input.inclusion.leafPayload :: input.revocation.leafPayload :: inclusionLog ++ revocationLog

/-- Where no payload holds a lone surrogate, no text that an accepted decision hashes does. -/
theorem isWellFormed_orderingInputs (proven : PositionsProven runtime input)
    {inclusionLog revocationLog : List JsString}
    (formed : ∀ payload ∈ decisionPayloads input inclusionLog revocationLog,
      isWellFormed payload = true) :
    ∀ text ∈ orderingInputs runtime input inclusionLog revocationLog,
      isWellFormed text = true := by
  have log {payloads : List JsString} (formed : ∀ payload ∈ payloads, isWellFormed payload = true) :
      ∀ text ∈ logInputs runtime payloads, isWellFormed text = true := by
    rw [logInputs, List.forall_mem_append, List.forall_mem_map]
    exact ⟨fun payload member => isWellFormed_leafInput (formed payload member),
      isWellFormed_rootInputs (isHex64_leafHashes payloads)⟩
  have position {inclusion : CheckpointInclusion}
      (included : includedInCheckpoint runtime inclusion = true)
      (formed : isWellFormed inclusion.leafPayload = true) :
      ∀ text ∈ positionInputs runtime inclusion, isWellFormed text = true := by
    rw [includedInCheckpoint, Bool.and_eq_true, verifyInclusionProof] at included
    obtain ⟨leafShape, -, -, -, stepShapes, -⟩ :=
      verifyInclusionProofFromLeafHash_iff.mp included.2
    rw [positionInputs, List.forall_mem_cons]
    exact ⟨isWellFormed_leafInput formed,
      isWellFormed_nodeInputs (sha256_shapes_climb leafShape stepShapes)⟩
  have consistent := proven.consistent
  unfold consistencyOk at consistent
  simp only [Bool.and_eq_true] at consistent
  simp only [decisionPayloads, List.cons_append, List.forall_mem_cons,
    List.forall_mem_append] at formed
  obtain ⟨receipt, revocation, inInclusion, inRevocation⟩ := formed
  simp only [orderingInputs, List.forall_mem_append]
  refine ⟨⟨⟨⟨⟨⟨?_, log inInclusion⟩, log inRevocation⟩, ?_⟩,
    position proven.receiptIncluded receipt⟩, position proven.revocationIncluded revocation⟩,
    isWellFormed_consistencyInputs consistent.2⟩
  · decide
  · exact isWellFormed_rootInputs fun hash member =>
      isHex64_leafHashes _ hash (List.mem_of_mem_take member)

/-- **Authenticated ordering.** On an accepted decision over well-formed payloads, positions in order
put the receipt before the revocation record in the longer log. When each of the two stands once in
that log, nothing less does. -/
theorem receiptPrecedes_of_accepted (runtime : Runtime) (input : AuthenticatedRevocationInput)
    (accepted : acceptsPreRevocation runtime input = true)
    (inclusionLog : CommittedLog runtime input.inclusion.checkpoint)
    (revocationLog : CommittedLog runtime input.revocation.checkpoint)
    (formed : ∀ payload ∈ decisionPayloads input inclusionLog.payloads revocationLog.payloads,
      isWellFormed payload = true)
    (clean : runtime.sha256.BytesCollisionFreeOn
      (orderingInputs runtime input inclusionLog.payloads revocationLog.payloads)) :
    (PositionsInOrder input →
        ReceiptPrecedes input (longerLog inclusionLog.payloads revocationLog.payloads)) ∧
      (OccurOnce input (longerLog inclusionLog.payloads revocationLog.payloads) →
        (ReceiptPrecedes input (longerLog inclusionLog.payloads revocationLog.payloads) ↔
          PositionsInOrder input)) := by
  obtain ⟨-, proven, -⟩ := acceptsPreRevocation_iff.mp accepted
  have clean := clean.collisionFreeOn (isWellFormed_orderingInputs proven formed)
  obtain ⟨receiptAt, receiptAddressed, receiptFound⟩ := exists_addressed proven.receiptIncluded
    inclusionLog (clean.mono (by
      intro hashed member
      simp only [orderingInputs, List.mem_append] at member ⊢
      tauto))
  obtain ⟨revocationAt, revocationAddressed, revocationFound⟩ := exists_addressed
    proven.revocationIncluded revocationLog (clean.mono (by
      intro hashed member
      simp only [orderingInputs, List.mem_append] at member ⊢
      tauto))
  have inclusionNonempty : inclusionLog.payloads ≠ [] :=
    List.ne_nil_of_mem (List.mem_of_getElem? receiptFound)
  have revocationNonempty : revocationLog.payloads ≠ [] :=
    List.ne_nil_of_mem (List.mem_of_getElem? revocationFound)
  obtain ⟨inclusionPrefix, revocationPrefix⟩ := logs_agree proven.consistent inclusionLog
    revocationLog inclusionNonempty revocationNonempty clean
  have receiptInLonger := getElem?_of_prefix inclusionPrefix receiptFound
  have revocationInLonger := getElem?_of_prefix revocationPrefix revocationFound
  have isRecord : IsKeyRevocation input.keyId input.revocation.leafPayload :=
    ⟨_, proven.recordShape⟩
  have enough : PositionsInOrder input →
      ReceiptPrecedes input (longerLog inclusionLog.payloads revocationLog.payloads) := by
    rintro ⟨first, second, firstAddressed, secondAddressed, inOrder⟩
    obtain rfl := firstAddressed.unique receiptAddressed
    obtain rfl := secondAddressed.unique revocationAddressed
    exact ⟨first, second, inOrder, receiptInLonger, _, revocationInLonger, isRecord⟩
  refine ⟨enough, fun once => ⟨?_, enough⟩⟩
  rintro ⟨first, second, inOrder, firstFound, record, recordFound, recordIs⟩
  obtain rfl := once.receipt first receiptAt firstFound receiptInLonger
  obtain rfl := once.revocation second revocationAt record _ recordFound revocationInLonger
    recordIs isRecord
  exact ⟨first, second, receiptAddressed, revocationAddressed, inOrder⟩

end Order

namespace Sample

open ResearchFrontier.Witness.Sample

def emptyRoot : JsString :=
  pieces ["377291dd767caa34d24db4875e6e99a4", "79c17778cefc66823422d53f59eff1a9"]

def twoLeaves : CommittedLog runtime mainTwo where
  payloads := [js "receipt", record]
  length_lt := by decide
  root := by
    rw [runtime_eq]
    exact eq_ok_of_toOption (by decide +kernel)
  size := rfl

theorem twoLeaves_clean :
    fips180.CollisionFreeOn
      (orderingInputs runtime decision twoLeaves.payloads twoLeaves.payloads) := by
  apply Sha256.CollisionFreeOn.of_table [
    (js "ghostark.empty_merkle_tree.v1", emptyRoot),
    (leafInput (js "receipt"), receiptHash),
    (leafInput record, recordHash),
    (nodeInput receiptHash recordHash, mainTwo.root_hash)]
  · rw [fips180_eq_window]
    decide +kernel
  · decide +kernel
  · dsimp only [twoLeaves]
    rw [runtime_eq]
    decide +kernel

def hash0 : JsString := pieces ["00059dbeb5f4bc8a2cf71668e3cc52cc", "a051a288771e682d50344bf62c96b384"]

def hash1 : JsString := pieces ["1b84d308b4a65aa453e098a304c90356", "eec5ea68cf53db64a6f409f018662ae8"]

def hash2 : JsString := pieces ["6737a198bdff0bb37d6180743c3343fa", "698e1d8939de1df511865103396b879e"]

def hash01 : JsString := pieces ["aac6f81ea0ea8414a7791293ee20e05e", "e270607007ac5407389c3dc7e5e56ce0"]

def hash23 : JsString := pieces ["2816859849e6e1af4f828490806f4da0", "87b2bbec31444098a1e2963a616e29b4"]

def hash0123 : JsString := pieces ["376e67b191013b53128bd626ba985061", "075d05782622fad32493f7c256f9a6ae"]

/-- A log that commits the receipt after the revocation record of its key. -/
def fiveLeaves : CommittedLog runtime mainFive where
  payloads := [js "p0", js "p1", js "p2", record, js "receipt"]
  length_lt := by decide
  root := by
    rw [runtime_eq]
    exact eq_ok_of_toOption (by decide +kernel)
  size := rfl

/-- The receipt at position 4 of five leaves is presented as leaf 1 of two: both
have one sibling, on the left. -/
def forged : AuthenticatedRevocationInput where
  keyId := js "key-1"
  receiptTimestamp := none
  trustRoot := manifest
  witnessQuorum := .ofNat 1
  inclusion := {
    checkpoint := mainFive
    leafPayload := js "receipt"
    proof := ⟨.ofNat 2, .ofNat 1, receiptHash, mainFive.root_hash, [⟨.left, hash0123⟩]⟩ }
  revocation := {
    checkpoint := mainFive
    leafPayload := record
    proof := ⟨.ofNat 5, .ofNat 3, recordHash, mainFive.root_hash,
      [⟨.left, hash2⟩, ⟨.left, hash01⟩, ⟨.right, receiptHash⟩]⟩
    keyId := js "key-1" }
  consistency := ⟨.ofNat 5, .ofNat 5, []⟩
  observedCheckpoints := none

theorem fiveLeaves_clean :
    fips180.CollisionFreeOn
      (orderingInputs runtime forged fiveLeaves.payloads fiveLeaves.payloads) := by
  apply Sha256.CollisionFreeOn.of_table [
    (js "ghostark.empty_merkle_tree.v1", emptyRoot),
    (leafInput (js "p0"), hash0),
    (leafInput (js "p1"), hash1),
    (leafInput (js "p2"), hash2),
    (leafInput record, recordHash),
    (leafInput (js "receipt"), receiptHash),
    (nodeInput hash0 hash1, hash01),
    (nodeInput hash2 recordHash, hash23),
    (nodeInput hash01 hash23, hash0123),
    (nodeInput hash0123 receiptHash, mainFive.root_hash)]
  · rw [fips180_eq_window]
    decide +kernel
  · decide +kernel
  · dsimp only [fiveLeaves]
    rw [runtime_eq]
    decide +kernel

end Sample

/-- The receipt of the sample decision precedes the revocation record. -/
theorem receiptPrecedes_of_accepted_two :
    ReceiptPrecedes Sample.decision
      (longerLog Sample.twoLeaves.payloads Sample.twoLeaves.payloads) := by
  have accepted : acceptsPreRevocation Witness.Sample.runtime Sample.decision = true := by
    rw [Witness.Sample.runtime_eq]
    decide +kernel
  exact (receiptPrecedes_of_accepted Witness.Sample.runtime Sample.decision accepted
    Sample.twoLeaves Sample.twoLeaves (by decide) Sample.twoLeaves_clean.bytes).1
    ⟨0, 1, ⟨2, rfl, by decide, rfl⟩, ⟨2, rfl, by decide, rfl⟩, by decide⟩

/-- A receipt committed only after the revocation record is accepted as
pre-revocation. -/
theorem receipt_after_revocation_accepted :
    acceptsPreRevocation Witness.Sample.runtime Sample.forged = true ∧
      fips180.CollisionFreeOn (orderingInputs Witness.Sample.runtime Sample.forged
        Sample.fiveLeaves.payloads Sample.fiveLeaves.payloads) ∧
      ¬ ReceiptPrecedes Sample.forged
        (longerLog Sample.fiveLeaves.payloads Sample.fiveLeaves.payloads) := by
  have accepted : acceptsPreRevocation Witness.Sample.runtime Sample.forged = true := by
    rw [Witness.Sample.runtime_eq]
    decide +kernel
  refine ⟨accepted, Sample.fiveLeaves_clean, ?_⟩
  rintro ⟨receiptAt, revocationAt, inOrder, receiptFound, record, recordFound, -⟩
  have sameLog : longerLog Sample.fiveLeaves.payloads Sample.fiveLeaves.payloads =
      Sample.fiveLeaves.payloads := by
    simp [longerLog]
  rw [sameLog] at receiptFound recordFound
  have below : revocationAt < 5 := (List.getElem?_eq_some_iff.mp recordFound).1
  -- The receipt is the last leaf, so nothing stands after it.
  have receiptBelow : receiptAt < 5 := (List.getElem?_eq_some_iff.mp receiptFound).1
  have last : receiptAt = 4 := by
    interval_cases receiptAt
    all_goals first
      | rfl
      | exact absurd receiptFound (by decide)
  omega

end GhostArk.ResearchFrontier.AuthenticatedRevocation
