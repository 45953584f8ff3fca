import GhostArk.EnforcementRuntime.Receipts.Checkpoint
import GhostArk.EnforcementRuntime.Receipts.Schema
import GhostArk.Js.Decimal
import GhostArk.Js.Sha256Evaluation

/-!
Contract: what an epoch root commits to.

Owns the strings that a root and a verification hash, the separation of leaf,
node and empty preimages, the completeness and soundness of inclusion proofs,
and the injectivity of the root on normalized leaves.

SHA-256 is assumed collision-free only on the strings that the computations at
hand hash, and there only up to their UTF-8 bytes: the step hashes of a proof
are unchecked strings.
-/

namespace GhostArk.EnforcementRuntime.Receipts.Checkpoint

open Js ReceiptSchema Lib
open Lib.MerkleTree (climb climbNodes)

/-! ### Preimages -/

theorem length_of_isReceiptHash {value : JsString} (shape : isReceiptHash value = true) :
    value.length = 71 := by
  rcases isTaggedHex64_iff.mp shape with ⟨hex, hexShape, rfl⟩
  rw [List.length_append, length_of_isHex64 hexShape]
  decide

theorem ascii_of_isReceiptHash {value : JsString} (shape : isReceiptHash value = true) :
    ∀ codeUnit ∈ value, codeUnit.val < 0x80 := by
  rcases isTaggedHex64_iff.mp shape with ⟨hex, hexShape, rfl⟩
  rw [List.forall_mem_append]
  exact ⟨ascii_of_all (by decide), ascii_of_isHex64 hexShape⟩

theorem ascii_nodeText {left right : JsString} (leftShape : isReceiptHash left = true)
    (rightShape : isReceiptHash right = true) :
    ∀ codeUnit ∈ nodeText left right, codeUnit.val < 0x80 := by
  unfold nodeText
  rw [List.forall_mem_append, List.forall_mem_append, List.forall_mem_append]
  exact ⟨⟨⟨ascii_of_all (by decide), ascii_of_isReceiptHash leftShape⟩, ascii_of_all (by decide)⟩,
    ascii_of_isReceiptHash rightShape⟩

theorem nodeText_inj {left right otherLeft otherRight : JsString}
    (leftShape : isReceiptHash left = true) (rightShape : isReceiptHash right = true)
    (otherShape : isReceiptHash otherLeft = true ∨ isReceiptHash otherRight = true)
    (same : utf8 (nodeText left right) = utf8 (nodeText otherLeft otherRight)) :
    (left, right) = (otherLeft, otherRight) := by
  have sameText := eq_of_utf8_ascii (ascii_nodeText leftShape rightShape) same.symm
  unfold nodeText at sameText
  rw [List.append_assoc, List.append_assoc, List.append_assoc, List.append_assoc] at sameText
  have sameHalves := List.append_cancel_left sameText
  rw [← List.append_assoc, ← List.append_assoc] at sameHalves
  have leftLength := length_of_isReceiptHash leftShape
  have rightLength := length_of_isReceiptHash rightShape
  rw [Prod.mk.injEq]
  rcases otherShape with otherShape | otherShape
  · have otherLength := length_of_isReceiptHash otherShape
    have both := append_separator_inj (otherLength.trans leftLength.symm) sameHalves
    exact ⟨both.1.symm, both.2.symm⟩
  · have otherLength := length_of_isReceiptHash otherShape
    have both := List.append_inj' sameHalves (otherLength.trans rightLength.symm)
    exact ⟨(List.append_cancel_right both.1).symm, both.2.symm⟩

theorem utf8_nodeText_ne_emptyText (left right : JsString) :
    utf8 (nodeText left right) ≠ utf8 emptyText := by
  intro same
  have sameText := eq_of_utf8_ascii (ascii_of_all (by decide)) same
  unfold nodeText at sameText
  rw [List.append_assoc, List.append_assoc] at sameText
  have samePrefix := congrArg (List.take 37) sameText
  rw [List.take_left' (by decide)] at samePrefix
  exact absurd samePrefix (by decide)

section Digests

variable (runtime : Runtime)

theorem exists_leafText (leaf : ReceiptChainHeadLeaf) :
    ∃ rest, leafText runtime leaf = 0x7B :: rest := by
  have brace : js "\x7b" = [0x7B] := by decide
  rw [leafText, leafRecord, normalForm, render, jsonObject, brace]
  exact ⟨_, rfl⟩

theorem utf8_leafText_ne {leaf : ReceiptChainHeadLeaf} {first : CodeUnit} {rest : JsString}
    (ascii : first.val < 0x80) (notBrace : first ≠ 0x7B) :
    utf8 (leafText runtime leaf) ≠ utf8 (first :: rest) := by
  rcases exists_leafText runtime leaf with ⟨text, isText⟩
  rw [isText, utf8_cons_ascii (by decide), utf8_cons_ascii ascii, ne_eq, List.cons.injEq, not_and]
  exact fun same => absurd (Fin.ext same.symm) notBrace

theorem utf8_leafText_ne_nodeText (leaf : ReceiptChainHeadLeaf) (left right : JsString) :
    utf8 (leafText runtime leaf) ≠ utf8 (nodeText left right) := by
  have literal : js "ghost-ark.receipt-checkpoint.node.v1:" =
      unit 'g' :: js "host-ark.receipt-checkpoint.node.v1:" := by decide
  rw [nodeText, literal]
  exact utf8_leafText_ne runtime (by decide) (by decide)

theorem utf8_leafText_ne_emptyText (leaf : ReceiptChainHeadLeaf) :
    utf8 (leafText runtime leaf) ≠ utf8 emptyText := by
  have literal : emptyText = unit 'g' :: js "host-ark.receipt-checkpoint.empty.v1" := by decide
  rw [literal]
  exact utf8_leafText_ne runtime (by decide) (by decide)

theorem normalForm_leafRecord (leaf : ReceiptChainHeadLeaf) :
    normalForm (leafRecord leaf) =
      .object [(js "domain", .string (js "ghost-ark.receipt-chain-head.leaf.v1")),
        (js "headHash", .string leaf.headHash), (js "tenantId", .string leaf.tenantId)] := rfl

theorem leafText_inj {left right : ReceiptChainHeadLeaf}
    (same : utf8 (leafText runtime left) = utf8 (leafText runtime right)) : left = right := by
  have sameText := utf8_injective (isWellFormed_render runtime.numbers _)
    (isWellFormed_render runtime.numbers _) same
  have sameForm := render_injective runtime.numbers (isJson_normalForm (isJson_leafRecord left))
    (isJson_normalForm (isJson_leafRecord right)) sameText
  rw [normalForm_leafRecord, normalForm_leafRecord] at sameForm
  cases left
  cases right
  simp_all

theorem isReceiptHash_digest (text : JsString) :
    isReceiptHash (js "sha256:" ++ runtime.sha256.sha256Hex text) = true :=
  isTaggedHex64_iff.mpr ⟨_, runtime.sha256.isHex64_sha256Hex text, rfl⟩

theorem isReceiptHash_merkleParentHash (left right : JsString) :
    isReceiptHash (merkleParentHash runtime left right) = true :=
  isReceiptHash_digest runtime (nodeText left right)

/-! ### Hashed strings -/

variable (collation : Collation)

def leafDigests (heads : List ReceiptChainHeadLeaf) : List JsString :=
  (normalizeChainHeadLeaves collation heads).map (leafDigest runtime)

/-- The pairs of digests that `merkleRootForLeaves` hashes. -/
def rootPairs (heads : List ReceiptChainHeadLeaf) : List (JsString × JsString) :=
  LayeredMerkle.hashedPairs (merkleParentHash runtime) (leafDigests runtime collation heads).length
    (leafDigests runtime collation heads)

/-- The strings that `merkleRootForLeaves` hashes. -/
def rootInputs (heads : List ReceiptChainHeadLeaf) : List JsString :=
  (if normalizeChainHeadLeaves collation heads = [] then [emptyText] else []) ++
    (normalizeChainHeadLeaves collation heads).map (leafText runtime) ++
      (rootPairs runtime collation heads).map (Function.uncurry nodeText)

/-- The pairs of strings that the loop of a verification hashes. -/
def proofPairs (proof : MerkleInclusionProof) : List (JsString × JsString) :=
  climbNodes (merkleParentHash runtime) (leafDigest runtime proof.leaf)
    (proof.proof.map MerkleProofStep.toPair)

/-- The strings that `verifyMerkleInclusionProof` hashes. -/
def proofInputs (proof : MerkleInclusionProof) : List JsString :=
  leafText runtime proof.leaf :: (proofPairs runtime proof).map (Function.uncurry nodeText)

end Digests

section Separation

variable {runtime : Runtime} {inputs : List JsString}

section Clean

variable (clean : runtime.sha256.BytesCollisionFreeOn inputs)
include clean

private theorem bytes_eq_of_digest_eq
    {left right : JsString} (isLeft : left ∈ inputs) (isRight : right ∈ inputs)
    (same : js "sha256:" ++ runtime.sha256.sha256Hex left =
      js "sha256:" ++ runtime.sha256.sha256Hex right) : utf8 left = utf8 right :=
  clean left isLeft right isRight (List.append_cancel_left same)

theorem pair_eq_of_parent_eq
    {pair other : JsString × JsString} (isPair : Function.uncurry nodeText pair ∈ inputs)
    (isOther : Function.uncurry nodeText other ∈ inputs)
    (shape : isReceiptHash pair.1 = true ∧ isReceiptHash pair.2 = true)
    (otherShape : isReceiptHash other.1 = true ∨ isReceiptHash other.2 = true)
    (same : Function.uncurry (merkleParentHash runtime) pair =
      Function.uncurry (merkleParentHash runtime) other) : pair = other :=
  nodeText_inj shape.1 shape.2 otherShape (bytes_eq_of_digest_eq clean isPair isOther same)

theorem parent_ne_leafDigest {pair : JsString × JsString} {leaf : ReceiptChainHeadLeaf}
    (isPair : Function.uncurry nodeText pair ∈ inputs) (isLeaf : leafText runtime leaf ∈ inputs) :
    Function.uncurry (merkleParentHash runtime) pair ≠ leafDigest runtime leaf := by
  intro same
  exact utf8_leafText_ne_nodeText runtime leaf pair.1 pair.2
    (bytes_eq_of_digest_eq clean isPair isLeaf same).symm

theorem parent_ne_emptyRoot
    {pair : JsString × JsString} (isPair : Function.uncurry nodeText pair ∈ inputs)
    (isEmpty : emptyText ∈ inputs) :
    Function.uncurry (merkleParentHash runtime) pair ≠ emptyRoot runtime := by
  intro same
  exact utf8_nodeText_ne_emptyText pair.1 pair.2 (bytes_eq_of_digest_eq clean isPair isEmpty same)

theorem leafDigest_ne_emptyRoot
    {leaf : ReceiptChainHeadLeaf} (isLeaf : leafText runtime leaf ∈ inputs)
    (isEmpty : emptyText ∈ inputs) : leafDigest runtime leaf ≠ emptyRoot runtime := by
  intro same
  exact utf8_leafText_ne_emptyText runtime leaf (bytes_eq_of_digest_eq clean isLeaf isEmpty same)

theorem leaf_eq_of_digest_eq
    {left right : ReceiptChainHeadLeaf} (isLeft : leafText runtime left ∈ inputs)
    (isRight : leafText runtime right ∈ inputs)
    (same : leafDigest runtime left = leafDigest runtime right) : left = right :=
  leafText_inj runtime (bytes_eq_of_digest_eq clean isLeft isRight same)

end Clean

end Separation

section Roots

variable {runtime : Runtime} {collation : Collation} {heads : List ReceiptChainHeadLeaf}

theorem leafText_mem_rootInputs {leaf : ReceiptChainHeadLeaf}
    (member : leaf ∈ normalizeChainHeadLeaves collation heads) :
    leafText runtime leaf ∈ rootInputs runtime collation heads :=
  List.mem_append_left _ (List.mem_append_right _ (List.mem_map_of_mem member))

theorem nodeText_mem_rootInputs {pair : JsString × JsString}
    (member : pair ∈ rootPairs runtime collation heads) :
    Function.uncurry nodeText pair ∈ rootInputs runtime collation heads :=
  List.mem_append_right _ (List.mem_map_of_mem member)

theorem emptyText_mem_rootInputs (empty : normalizeChainHeadLeaves collation heads = []) :
    emptyText ∈ rootInputs runtime collation heads := by
  unfold rootInputs
  rw [if_pos empty]
  exact List.mem_append_left _ (List.mem_append_left _ List.mem_cons_self)

theorem isReceiptHash_rootPairs : ∀ pair ∈ rootPairs runtime collation heads,
    isReceiptHash pair.1 = true ∧ isReceiptHash pair.2 = true := by
  refine LayeredMerkle.valid_hashedPairs (merkleParentHash runtime)
    (fun digest => isReceiptHash digest = true) (isReceiptHash_merkleParentHash runtime) ?_
  intro digest member
  rcases List.mem_map.mp member with ⟨leaf, -, rfl⟩
  exact isReceiptHash_digest runtime (leafText runtime leaf)

theorem merkleRootForLeaves_empty (empty : normalizeChainHeadLeaves collation heads = []) :
    merkleRootForLeaves runtime collation heads = .ok (emptyRoot runtime) := by
  rw [merkleRootForLeaves, empty]
  rfl

theorem exists_root (nonempty : normalizeChainHeadLeaves collation heads ≠ []) :
    ∃ root, merkleRootForLeaves runtime collation heads = .ok root ∧
      LayeredMerkle.topLayer (merkleParentHash runtime)
        (leafDigests runtime collation heads).length (leafDigests runtime collation heads) =
          [root] := by
  have someDigest : leafDigests runtime collation heads ≠ [] := by
    simpa [leafDigests] using nonempty
  rcases LayeredMerkle.exists_topLayer (merkleParentHash runtime) someDigest (Nat.le_succ _) with
    ⟨root, isTop⟩
  refine ⟨root, ?_, isTop⟩
  have notZero : ¬ (leafDigests runtime collation heads).length = 0 := by
    simpa using someDigest
  rw [merkleRootForLeaves, mapM_receiptChainHeadLeafHash, ok_bind, ← leafDigests, if_neg notZero,
    climbLayers_eq, isTop]
  rfl

/-- Every list of heads has a root. -/
theorem exists_merkleRoot : ∃ root, merkleRootForLeaves runtime collation heads = .ok root := by
  by_cases empty : normalizeChainHeadLeaves collation heads = []
  · exact ⟨_, merkleRootForLeaves_empty empty⟩
  · rcases @exists_root runtime collation heads empty with ⟨root, isRoot, -⟩
    exact ⟨root, isRoot⟩

end Roots

section Inclusion

variable {runtime : Runtime} {collation : Collation} {heads : List ReceiptChainHeadLeaf}

variable {proof : MerkleInclusionProof}

theorem verifyMerkleInclusionProof_iff {root : JsString} :
    verifyMerkleInclusionProof runtime proof (some root) = .ok true ↔
      leafDigest runtime proof.leaf = proof.leafHash ∧
        climb (merkleParentHash runtime) (leafDigest runtime proof.leaf)
          (proof.proof.map MerkleProofStep.toPair) = root := by
  rw [verifyMerkleInclusionProof, receiptChainHeadLeafHash_eq, ok_bind]
  split
  next different => simp [different]
  next same =>
    rw [ne_eq, not_not] at same
    change pure (_ == root) = _ ↔ _
    rw [pure_eq_ok, foldl_steps_eq, beq_iff_eq]
    exact ⟨fun climbed => ⟨same, climbed⟩, fun both => both.2⟩

/-- Every head has a proof, and the proof names the root of the list. -/
theorem exists_proof {leaf : ReceiptChainHeadLeaf}
    (member : leaf ∈ normalizeChainHeadLeaves collation heads) :
    ∃ proof, buildMerkleInclusionProof runtime collation heads leaf = .ok proof ∧
      merkleRootForLeaves runtime collation heads = .ok proof.root ∧
      verifyMerkleInclusionProof runtime proof (some proof.root) = .ok true := by
  rcases @exists_root runtime collation heads (List.ne_nil_of_mem member) with ⟨root, isRoot, isTop⟩
  have isFound : ((normalizeChainHeadLeaves collation heads).findIdx? fun other =>
      other.tenantId == leaf.tenantId && other.headHash == leaf.headHash).isSome := by
    rw [List.findIdx?_isSome, List.any_eq_true]
    exact ⟨leaf, member, by simp⟩
  rcases Option.isSome_iff_exists.mp isFound with ⟨index, found⟩
  rcases List.findIdx?_eq_some_iff_getElem.mp found with ⟨below, sameFields, -⟩
  have atIndex : (leafDigests runtime collation heads)[index]? = some (leafDigest runtime leaf) := by
    rw [Bool.and_eq_true, beq_iff_eq, beq_iff_eq] at sameFields
    have sameLeaf : (normalizeChainHeadLeaves collation heads)[index] = leaf := by
      cases leaf
      generalize (normalizeChainHeadLeaves collation heads)[index] = other at sameFields
      cases other
      simpa using sameFields
    rw [leafDigests, List.getElem?_map, List.getElem?_eq_getElem below, sameLeaf]
    rfl
  generalize isSteps : (proofLoop runtime (leafDigests runtime collation heads).length
    (leafDigests runtime collation heads) index).1 = steps
  have loop := proofLoop_eq runtime (leafDigests runtime collation heads).length atIndex
  have climbed := LayeredMerkle.climb_honestPath (merkleParentHash runtime) atIndex (Nat.le_succ _)
  rw [isTop, isSteps] at loop
  rw [isTop] at climbed
  refine ⟨⟨leaf, leafDigest runtime leaf, steps, root⟩, ?_, isRoot, ?_⟩
  · have layer : (normalizeChainHeadLeaves collation heads).mapM
        (receiptChainHeadLeafHash runtime) = .ok (leafDigests runtime collation heads) :=
      mapM_receiptChainHeadLeafHash runtime _
    unfold buildMerkleInclusionProof
    simp only [found, layer, ok_bind, isSteps, loop.2, receiptChainHeadLeafHash_eq]
    rfl
  · rw [verifyMerkleInclusionProof_iff]
    refine ⟨rfl, ?_⟩
    rw [loop.1]
    exact (List.singleton_inj.mp climbed).symm

theorem leafText_mem_proofInputs (proof : MerkleInclusionProof) :
    leafText runtime proof.leaf ∈ proofInputs runtime proof := List.mem_cons_self

theorem nodeText_mem_proofInputs {pair : JsString × JsString}
    (member : pair ∈ proofPairs runtime proof) :
    Function.uncurry nodeText pair ∈ proofInputs runtime proof :=
  List.mem_cons_of_mem _ (List.mem_map_of_mem member)

theorem isReceiptHash_proofPairs (proof : MerkleInclusionProof) :
    ∀ pair ∈ proofPairs runtime proof,
      isReceiptHash pair.1 = true ∨ isReceiptHash pair.2 = true :=
  LayeredMerkle.valid_climbNodes_or (merkleParentHash runtime)
    (fun digest => isReceiptHash digest = true) (isReceiptHash_merkleParentHash runtime)
    (isReceiptHash_digest runtime (leafText runtime proof.leaf)) _

theorem climb_ne_emptyRoot {inputs : List JsString}
    (clean : runtime.sha256.BytesCollisionFreeOn inputs) (isEmpty : emptyText ∈ inputs)
    (isProof : proofInputs runtime proof ⊆ inputs) :
    climb (merkleParentHash runtime) (leafDigest runtime proof.leaf)
      (proof.proof.map MerkleProofStep.toPair) ≠ emptyRoot runtime := by
  intro reached
  have isNode : ∀ pair ∈ proofPairs runtime proof, Function.uncurry nodeText pair ∈ inputs :=
    fun pair member => isProof (nodeText_mem_proofInputs member)
  unfold proofPairs at isNode
  rcases List.eq_nil_or_concat (proof.proof.map MerkleProofStep.toPair) with none | ⟨init, last, some⟩
  · rw [none] at reached
    exact leafDigest_ne_emptyRoot clean (isProof (leafText_mem_proofInputs proof)) isEmpty reached
  · rw [some, List.concat_eq_append] at reached isNode
    rw [MerkleTree.climb_concat] at reached
    rw [MerkleTree.climbNodes_concat] at isNode
    exact parent_ne_emptyRoot clean
      (isNode _ (List.mem_append_right _ List.mem_cons_self)) isEmpty reached

/-- A leaf whose proof is accepted against the root is one of the heads. -/
theorem mem_normalize_of_accepted {root : JsString}
    (isRoot : merkleRootForLeaves runtime collation heads = .ok root)
    (clean : runtime.sha256.BytesCollisionFreeOn
      (rootInputs runtime collation heads ++ proofInputs runtime proof))
    (accepted : verifyMerkleInclusionProof runtime proof (some root) = .ok true) :
    proof.leaf ∈ normalizeChainHeadLeaves collation heads := by
  have reached := (verifyMerkleInclusionProof_iff.mp accepted).2
  have isProofNode : ∀ pair ∈ proofPairs runtime proof, Function.uncurry nodeText pair ∈
      rootInputs runtime collation heads ++ proofInputs runtime proof :=
    fun pair member => List.mem_append_right _ (nodeText_mem_proofInputs member)
  have isRootNode : ∀ pair ∈ rootPairs runtime collation heads, Function.uncurry nodeText pair ∈
      rootInputs runtime collation heads ++ proofInputs runtime proof :=
    fun pair member => List.mem_append_left _ (nodeText_mem_rootInputs member)
  have isProofLeaf : leafText runtime proof.leaf ∈
      rootInputs runtime collation heads ++ proofInputs runtime proof :=
    List.mem_append_right _ (leafText_mem_proofInputs proof)
  by_cases empty : normalizeChainHeadLeaves collation heads = []
  · rw [merkleRootForLeaves_empty empty, Except.ok.injEq] at isRoot
    rw [← isRoot] at reached
    exact absurd reached (climb_ne_emptyRoot clean
      (List.mem_append_left _ (emptyText_mem_rootInputs empty)) (List.subset_append_right _ _))
  · rcases @exists_root runtime collation heads empty with ⟨top, isTopRoot, isTop⟩
    rw [isTopRoot, Except.ok.injEq] at isRoot
    have isLast : climb (merkleParentHash runtime) (leafDigest runtime proof.leaf)
        (proof.proof.map MerkleProofStep.toPair) ∈ LayeredMerkle.topLayer (merkleParentHash runtime)
          (leafDigests runtime collation heads).length (leafDigests runtime collation heads) := by
      rw [reached, isTop, isRoot]
      exact List.mem_cons_self
    have inDigests : leafDigest runtime proof.leaf ∈ leafDigests runtime collation heads := by
      refine LayeredMerkle.mem_of_climb (merkleParentHash runtime) ?_ ?_ ?_ isLast
      · intro pair member other isOther
        exact pair_eq_of_parent_eq clean (isRootNode pair member) (isProofNode other isOther)
          (isReceiptHash_rootPairs pair member) (isReceiptHash_proofPairs proof other isOther)
      · intro pair member
        exact parent_ne_leafDigest clean (isRootNode pair member) isProofLeaf
      · intro pair member inLeaves
        rcases List.mem_map.mp inLeaves with ⟨leaf, isLeaf, isDigest⟩
        exact parent_ne_leafDigest clean (isProofNode pair member)
          (List.mem_append_left _ (leafText_mem_rootInputs isLeaf)) isDigest.symm
    rcases List.mem_map.mp inDigests with ⟨leaf, isLeaf, sameDigest⟩
    have sameLeaf := leaf_eq_of_digest_eq clean
      (List.mem_append_left _ (leafText_mem_rootInputs isLeaf)) isProofLeaf sameDigest
    exact sameLeaf ▸ isLeaf

end Inclusion

section Injectivity

variable {runtime : Runtime} {collation : Collation} {inputs : List JsString}

variable {heads : List ReceiptChainHeadLeaf}

theorem nodup_leafDigests (clean : runtime.sha256.BytesCollisionFreeOn inputs)
    (hashed : rootInputs runtime collation heads ⊆ inputs) :
    (leafDigests runtime collation heads).Nodup := by
  have distinct := List.Nodup.of_map _ (nodup_normalize collation heads)
  refine List.Nodup.map_on ?_ distinct
  intro left isLeft right isRight
  exact leaf_eq_of_digest_eq clean (hashed (leafText_mem_rootInputs isLeft))
    (hashed (leafText_mem_rootInputs isRight))

theorem parent_not_mem_leafDigests (clean : runtime.sha256.BytesCollisionFreeOn inputs)
    {heads others : List ReceiptChainHeadLeaf} (hashed : rootInputs runtime collation heads ⊆ inputs)
    (otherHashed : rootInputs runtime collation others ⊆ inputs) :
    ∀ pair ∈ rootPairs runtime collation heads,
      Function.uncurry (merkleParentHash runtime) pair ∉ leafDigests runtime collation others := by
  intro pair member inLeaves
  rcases List.mem_map.mp inLeaves with ⟨leaf, isLeaf, isDigest⟩
  exact parent_ne_leafDigest clean (hashed (nodeText_mem_rootInputs member))
    (otherHashed (leafText_mem_rootInputs isLeaf)) isDigest.symm

theorem topLayer_ne_emptyRoot (clean : runtime.sha256.BytesCollisionFreeOn inputs)
    (isEmpty : emptyText ∈ inputs) (hashed : rootInputs runtime collation heads ⊆ inputs) :
    LayeredMerkle.topLayer (merkleParentHash runtime) (leafDigests runtime collation heads).length
      (leafDigests runtime collation heads) ≠ [emptyRoot runtime] := by
  intro isTop
  have isLayer := @LayeredMerkle.layerOf_topLayer _ (merkleParentHash runtime)
    (leafDigests runtime collation heads).length (leafDigests runtime collation heads)
  rw [isTop] at isLayer
  rcases isLayer.last with isFirst | ⟨previous, isPrevious, many, isNext⟩
  · have isLeaf : emptyRoot runtime ∈ leafDigests runtime collation heads :=
      isFirst ▸ List.mem_cons_self
    rcases List.mem_map.mp isLeaf with ⟨leaf, member, isDigest⟩
    exact leafDigest_ne_emptyRoot clean (hashed (leafText_mem_rootInputs member)) isEmpty isDigest
  · have isNode : emptyRoot runtime ∈
        LayeredMerkle.nextLayer (merkleParentHash runtime) previous :=
      isNext ▸ List.mem_cons_self
    rcases List.mem_map.mp isNode with ⟨pair, member, isParent⟩
    have isPair : pair ∈ rootPairs runtime collation heads :=
      isPrevious.pairs_subset (Nat.le_succ _) many pair member
    exact parent_ne_emptyRoot clean (hashed (nodeText_mem_rootInputs isPair)) isEmpty isParent

/-- Lists of one root have the same normalized heads. -/
theorem normalize_eq_of_root_eq {left right : List ReceiptChainHeadLeaf} {root : JsString}
    (clean : runtime.sha256.BytesCollisionFreeOn
      (rootInputs runtime collation left ++ rootInputs runtime collation right))
    (isLeft : merkleRootForLeaves runtime collation left = .ok root)
    (isRight : merkleRootForLeaves runtime collation right = .ok root) :
    normalizeChainHeadLeaves collation left = normalizeChainHeadLeaves collation right := by
  have hashed := List.subset_append_left (rootInputs runtime collation left)
    (rootInputs runtime collation right)
  have otherHashed := List.subset_append_right (rootInputs runtime collation left)
    (rootInputs runtime collation right)
  by_cases noLeft : normalizeChainHeadLeaves collation left = []
  · by_cases noRight : normalizeChainHeadLeaves collation right = []
    · rw [noLeft, noRight]
    · rcases @exists_root runtime collation right noRight with ⟨top, isTopRoot, isTop⟩
      have sameRoot : top = emptyRoot runtime := by
        rw [merkleRootForLeaves_empty noLeft, Except.ok.injEq] at isLeft
        rw [isTopRoot, Except.ok.injEq] at isRight
        exact isRight.trans isLeft.symm
      rw [sameRoot] at isTop
      exact absurd isTop
        (topLayer_ne_emptyRoot clean (hashed (emptyText_mem_rootInputs noLeft)) otherHashed)
  · rcases @exists_root runtime collation left noLeft with ⟨top, isTopRoot, isTop⟩
    rw [isTopRoot, Except.ok.injEq] at isLeft
    by_cases noRight : normalizeChainHeadLeaves collation right = []
    · have sameRoot : top = emptyRoot runtime := by
        rw [merkleRootForLeaves_empty noRight, Except.ok.injEq] at isRight
        exact isLeft.trans isRight.symm
      rw [sameRoot] at isTop
      exact absurd isTop
        (topLayer_ne_emptyRoot clean (otherHashed (emptyText_mem_rootInputs noRight)) hashed)
    · rcases @exists_root runtime collation right noRight with ⟨other, isOtherRoot, isOther⟩
      rw [isOtherRoot, Except.ok.injEq] at isRight
      have isHashed : ∀ pair ∈ rootPairs runtime collation left ++ rootPairs runtime collation right,
          Function.uncurry nodeText pair ∈
              rootInputs runtime collation left ++ rootInputs runtime collation right ∧
            isReceiptHash pair.1 = true ∧ isReceiptHash pair.2 = true := by
        intro pair member
        rcases List.mem_append.mp member with inLeft | inRight
        · exact ⟨hashed (nodeText_mem_rootInputs inLeft), isReceiptHash_rootPairs pair inLeft⟩
        · exact ⟨otherHashed (nodeText_mem_rootInputs inRight), isReceiptHash_rootPairs pair inRight⟩
      have sameDigests : leafDigests runtime collation left = leafDigests runtime collation right := by
        refine LayeredMerkle.eq_of_topLayer_eq (nodup_leafDigests clean hashed)
          (nodup_leafDigests clean otherHashed) (Nat.le_succ _) (Nat.le_succ _) ?_
          (parent_not_mem_leafDigests clean hashed otherHashed)
          (parent_not_mem_leafDigests clean otherHashed hashed) ?_
        · intro pair member second isSecond
          exact pair_eq_of_parent_eq clean (isHashed pair member).1 (isHashed second isSecond).1
            (isHashed pair member).2 (Or.inl (isHashed second isSecond).2.1)
        · rw [isTop, isOther, isLeft, isRight]
      refine LayeredMerkle.eq_of_map_eq ?_ sameDigests
      intro leaf isLeaf second isSecond
      exact leaf_eq_of_digest_eq clean (hashed (leafText_mem_rootInputs isLeaf))
        (otherHashed (leafText_mem_rootInputs isSecond))

end Injectivity

namespace Sample

def runtime : Runtime where
  sha256 := fips180
  numbers := decimalText
  dates := ⟨fun _ => .nan⟩
  verifySignature := fun _ _ _ => .ok false

def evaluationRuntime : Runtime := { runtime with sha256 := windowSha256 }

theorem runtime_eq : runtime = evaluationRuntime := by
  rw [evaluationRuntime, ← fips180_eq_window]
  rfl

def tenant (digit : Char) : JsString := js "sha256:" ++ List.replicate 64 (unit digit)

def first : ReceiptChainHeadLeaf := ⟨tenant 'a', tenant '1'⟩

def second : ReceiptChainHeadLeaf := ⟨tenant 'b', tenant '2'⟩

def root : JsString :=
  merkleParentHash runtime (leafDigest runtime first) (leafDigest runtime second)

/-- The proof for the first head; the root it carries is not read. -/
def proof : MerkleInclusionProof :=
  ⟨first, leafDigest runtime first, [⟨.right, leafDigest runtime second⟩], []⟩

def texts : List JsString :=
  [leafText runtime first, leafText runtime second,
    nodeText (leafDigest runtime first) (leafDigest runtime second)]

theorem nodup_digests : (texts.map fips180.sha256Hex).Nodup := by
  unfold texts
  rw [fips180_eq_window, runtime_eq]
  decide +kernel

end Sample

/-! ### Exactness -/

/-- **Inclusion proofs are complete and sound.** -/
theorem inclusionProofs_exact (runtime : Runtime) (collation : Collation)
    (heads : List ReceiptChainHeadLeaf) :
    ∃ root, merkleRootForLeaves runtime collation heads = .ok root ∧
      (∀ leaf ∈ normalizeChainHeadLeaves collation heads, ∃ proof,
        buildMerkleInclusionProof runtime collation heads leaf = .ok proof ∧
          verifyMerkleInclusionProof runtime proof (some root) = .ok true) ∧
      ∀ proof, runtime.sha256.BytesCollisionFreeOn
          (rootInputs runtime collation heads ++ proofInputs runtime proof) →
        verifyMerkleInclusionProof runtime proof (some root) = .ok true →
          proof.leaf ∈ normalizeChainHeadLeaves collation heads := by
  rcases @exists_merkleRoot runtime collation heads with ⟨root, isRoot⟩
  refine ⟨root, isRoot, ?_, fun proof => mem_normalize_of_accepted isRoot⟩
  intro leaf member
  rcases @exists_proof runtime collation heads leaf member with ⟨proof, built, hasRoot, accepted⟩
  rw [isRoot, Except.ok.injEq] at hasRoot
  rw [← hasRoot] at accepted
  exact ⟨proof, built, accepted⟩

theorem inclusionProofs_exact_two :
    Sample.first ∈ normalizeChainHeadLeaves codeUnitOrder [Sample.second, Sample.first] := by
  rcases inclusionProofs_exact Sample.runtime codeUnitOrder [Sample.second, Sample.first] with
    ⟨root, isRoot, -, sound⟩
  have sameRoot : root = Sample.root := by
    have computed : merkleRootForLeaves Sample.runtime codeUnitOrder
        [Sample.second, Sample.first] = .ok Sample.root := by
      unfold Sample.root
      rw [Sample.runtime_eq]
      exact eq_ok_of_toOption (by decide +kernel)
    exact Except.ok.inj (isRoot.symm.trans computed)
  apply sound Sample.proof
  · refine (Sha256.CollisionFreeOn.of_nodup Sample.texts Sample.nodup_digests ?_).bytes
    unfold Sample.texts Sample.proof
    rw [Sample.runtime_eq]
    decide +kernel
  · rw [sameRoot, Sample.root, Sample.proof, Sample.runtime_eq]
    exact eq_ok_of_toOption (by decide +kernel)

/-- **The epoch root commits to the heads.** -/
theorem epochRoot_exact (runtime : Runtime) (collation : Collation)
    (left right : List ReceiptChainHeadLeaf) :
    ∃ leftRoot rightRoot, merkleRootForLeaves runtime collation left = .ok leftRoot ∧
      merkleRootForLeaves runtime collation right = .ok rightRoot ∧
      (runtime.sha256.BytesCollisionFreeOn
          (rootInputs runtime collation left ++ rootInputs runtime collation right) →
        (leftRoot = rightRoot ↔
          normalizeChainHeadLeaves collation left = normalizeChainHeadLeaves collation right)) ∧
      ((collation.Separates fun tenantId => isDigest tenantId = true) →
        (∀ head ∈ left, isDigest head.tenantId = true) →
          (left.map ReceiptChainHeadLeaf.tenantId).Nodup → left.Perm right →
            leftRoot = rightRoot) := by
  rcases @exists_merkleRoot runtime collation left with ⟨leftRoot, isLeft⟩
  rcases @exists_merkleRoot runtime collation right with ⟨rightRoot, isRight⟩
  have sameOfNormalized (same : normalizeChainHeadLeaves collation left =
      normalizeChainHeadLeaves collation right) : leftRoot = rightRoot := by
    rw [merkleRootForLeaves, same, ← merkleRootForLeaves, isRight] at isLeft
    exact (Except.ok.inj isLeft).symm
  refine ⟨leftRoot, rightRoot, isLeft, isRight, ?_, ?_⟩
  · intro clean
    refine ⟨?_, sameOfNormalized⟩
    rintro rfl
    exact normalize_eq_of_root_eq clean isLeft isRight
  · intro separates within distinct permuted
    exact sameOfNormalized (normalize_eq_of_perm collation separates within distinct permuted)

/-- The two sample heads in either order. -/
theorem epochRoot_exact_two :
    ∃ root, merkleRootForLeaves Sample.runtime codeUnitOrder [Sample.second, Sample.first] =
        .ok root ∧
      merkleRootForLeaves Sample.runtime codeUnitOrder [Sample.first, Sample.second] = .ok root ∧
      normalizeChainHeadLeaves codeUnitOrder [Sample.second, Sample.first] =
        normalizeChainHeadLeaves codeUnitOrder [Sample.first, Sample.second] := by
  rcases epochRoot_exact Sample.runtime codeUnitOrder [Sample.second, Sample.first]
    [Sample.first, Sample.second] with ⟨leftRoot, rightRoot, isLeft, isRight, commits, permutes⟩
  have sameRoot : leftRoot = rightRoot :=
    permutes (codeUnitOrder_separates _) (by decide) (by decide) (List.Perm.swap _ _ _)
  refine ⟨leftRoot, isLeft, sameRoot ▸ isRight, (commits ?_).mp sameRoot⟩
  refine (Sha256.CollisionFreeOn.of_nodup Sample.texts Sample.nodup_digests ?_).bytes
  unfold Sample.texts
  rw [Sample.runtime_eq]
  decide +kernel

end GhostArk.EnforcementRuntime.Receipts.Checkpoint
