import GhostArk.Js.Collation
import GhostArk.Js.Utf8
import GhostArk.Lib.InsertionMap
import GhostArk.Lib.LayeredMerkle
import GhostArk.ReceiptSchema.HashCanonicalization

/-!
Contract: the Merkle tree of `packages/enforcement-runtime/src/receipts/checkpoint.ts`.

Owns chain head leaves and their normalization, leaf and node hashes, the root,
the construction and the verification of inclusion proofs, and the refinement of
the loops to layered hash trees.

Of a chain head only the tenant id and the head hash are read. Does not own: the
signed checkpoint around the root.
-/

namespace GhostArk.EnforcementRuntime.Receipts.Checkpoint

open Js ReceiptSchema Lib
open Lib.MerkleTree (Side climb climbPair)

structure ReceiptChainHeadLeaf where
  tenantId : JsString
  headHash : JsString
deriving DecidableEq

/-- The verifier only tests for `"left"`; `other` is any third value of an unchecked proof. -/
inductive MerkleProofPosition where
  | left
  | right
  | other
deriving DecidableEq, Repr

structure MerkleProofStep where
  position : MerkleProofPosition
  hash : JsString

structure MerkleInclusionProof where
  leaf : ReceiptChainHeadLeaf
  leafHash : JsString
  proof : List MerkleProofStep
  root : JsString

section Leaves

variable (collation : Collation)

def normalizeChainHeadLeaves (heads : List ReceiptChainHeadLeaf) : List ReceiptChainHeadLeaf :=
  let seen := InsertionMap.collect ReceiptChainHeadLeaf.tenantId heads
  collation.sortBy ReceiptChainHeadLeaf.tenantId seen.values

theorem nodup_normalize (heads : List ReceiptChainHeadLeaf) :
    ((normalizeChainHeadLeaves collation heads).map ReceiptChainHeadLeaf.tenantId).Nodup :=
  ((collation.perm_sortBy _ _).map _).nodup_iff.mpr (InsertionMap.nodup_collect heads)

/-- The order of chain heads does not matter where the collation tells tenants apart. -/
theorem normalize_eq_of_perm {texts : JsString → Prop} (separates : collation.Separates texts)
    {left right : List ReceiptChainHeadLeaf} (within : ∀ head ∈ left, texts head.tenantId)
    (distinct : (left.map ReceiptChainHeadLeaf.tenantId).Nodup) (permuted : left.Perm right) :
    normalizeChainHeadLeaves collation left = normalizeChainHeadLeaves collation right := by
  have rightDistinct := (permuted.map ReceiptChainHeadLeaf.tenantId).nodup_iff.mp distinct
  simp only [normalizeChainHeadLeaves, InsertionMap.values_collect distinct,
    InsertionMap.values_collect rightDistinct]
  exact collation.sortBy_eq_of_perm _ separates within distinct permuted

end Leaves

def leafRecord (leaf : ReceiptChainHeadLeaf) : JsValue :=
  .object [(js "domain", .string (js "ghost-ark.receipt-chain-head.leaf.v1")),
    (js "tenantId", .string leaf.tenantId), (js "headHash", .string leaf.headHash)]

def nodeText (left right : JsString) : JsString :=
  js "ghost-ark.receipt-checkpoint.node.v1:" ++ left ++ js ":" ++ right

/-- The preimage of the root over no leaves. -/
def emptyText : JsString := js "ghost-ark.receipt-checkpoint.empty.v1"

section Hashes

variable (runtime : Runtime)

def receiptChainHeadLeafHash (leaf : ReceiptChainHeadLeaf) : Except JsError JsString := do
  let digest ← canonicalSha256Hex runtime (leafRecord leaf)
  return js "sha256:" ++ digest

def merkleParentHash (left right : JsString) : JsString :=
  js "sha256:" ++ sha256Hex runtime (nodeText left right)

def emptyRoot : JsString := js "sha256:" ++ sha256Hex runtime emptyText

/-- The inner loop: one layer from the layer below it. -/
def parentLayer : List JsString → List JsString
  | [] => []
  | [left] => [merkleParentHash runtime left left]
  | left :: right :: rest => merkleParentHash runtime left right :: parentLayer rest

/-- The outer loop of the root. A pass halves the layer, so its length bounds the passes. -/
def climbLayers : Nat → List JsString → List JsString
  | 0, layer => layer
  | fuel + 1, layer =>
    if 1 < layer.length then climbLayers fuel (parentLayer runtime layer) else layer

def proofLoop : Nat → List JsString → Nat → List MerkleProofStep × List JsString
  | 0, layer, _ => ([], layer)
  | fuel + 1, layer, index =>
    if 1 < layer.length then
      let siblingIndex := if index % 2 = 0 then index + 1 else index - 1
      let siblingHash := layer[siblingIndex]?.getD (layer[index]?.getD [])
      let position := if index % 2 = 0 then MerkleProofPosition.right else .left
      let above := proofLoop fuel (parentLayer runtime layer) (index / 2)
      (⟨position, siblingHash⟩ :: above.1, above.2)
    else ([], layer)

variable (collation : Collation)

def merkleRootForLeaves (leaves : List ReceiptChainHeadLeaf) : Except JsError JsString := do
  let layer ← (normalizeChainHeadLeaves collation leaves).mapM (receiptChainHeadLeafHash runtime)
  if layer.length = 0 then return emptyRoot runtime
  else return (climbLayers runtime layer.length layer).headD []

def leafMissingError : JsError :=
  .plain (js "Target chain head leaf is not present in the checkpoint leaves")

def buildMerkleInclusionProof (leaves : List ReceiptChainHeadLeaf)
    (target : ReceiptChainHeadLeaf) : Except JsError MerkleInclusionProof := do
  let normalized := normalizeChainHeadLeaves collation leaves
  match normalized.findIdx? fun leaf =>
      leaf.tenantId == target.tenantId && leaf.headHash == target.headHash with
  | none => throw leafMissingError
  | some targetIndex => do
    let layer ← normalized.mapM (receiptChainHeadLeafHash runtime)
    let (proof, last) := proofLoop runtime layer.length layer targetIndex
    let leafHash ← receiptChainHeadLeafHash runtime target
    let root ← match last[0]? with
      | some root => pure root
      | none => merkleRootForLeaves runtime collation []
    return ⟨target, leafHash, proof, root⟩

/-- `expectedRoot` is the root of the proof if none is given. -/
def verifyMerkleInclusionProof (proof : MerkleInclusionProof) (expectedRoot : Option JsString) :
    Except JsError Bool := do
  let leafHash ← receiptChainHeadLeafHash runtime proof.leaf
  if leafHash ≠ proof.leafHash then return false
  let computed := proof.proof.foldl (fun computed step =>
    if step.position = .left then merkleParentHash runtime step.hash computed
    else merkleParentHash runtime computed step.hash) leafHash
  return computed == expectedRoot.getD proof.root

def leafText (leaf : ReceiptChainHeadLeaf) : JsString :=
  render runtime.numbers (normalForm (leafRecord leaf))

def leafDigest (leaf : ReceiptChainHeadLeaf) : JsString :=
  js "sha256:" ++ runtime.sha256.sha256Hex (leafText runtime leaf)

theorem isJson_leafRecord (leaf : ReceiptChainHeadLeaf) : (leafRecord leaf).isJson = true := by
  rw [leafRecord, isJson_object_iff]
  refine ⟨by simp [JsValue.isJson], ?_⟩
  change [js "domain", js "tenantId", js "headHash"].Nodup
  decide

theorem receiptChainHeadLeafHash_eq (leaf : ReceiptChainHeadLeaf) :
    receiptChainHeadLeafHash runtime leaf = .ok (leafDigest runtime leaf) := by
  rw [receiptChainHeadLeafHash, canonicalSha256Hex,
    canonicalize_of_isJson runtime.numbers (isJson_leafRecord leaf)]
  rfl

theorem mapM_receiptChainHeadLeafHash (leaves : List ReceiptChainHeadLeaf) :
    leaves.mapM (receiptChainHeadLeafHash runtime) = .ok (leaves.map (leafDigest runtime)) := by
  have pointwise : receiptChainHeadLeafHash runtime = fun leaf => pure (leafDigest runtime leaf) :=
    funext (receiptChainHeadLeafHash_eq runtime)
  rw [pointwise, List.mapM_pure]
  rfl

theorem parentLayer_eq : ∀ layer : List JsString,
    parentLayer runtime layer = LayeredMerkle.nextLayer (merkleParentHash runtime) layer
  | [] => rfl
  | [_] => rfl
  | _ :: _ :: rest => by
    rw [parentLayer, parentLayer_eq rest]
    rfl

theorem climbLayers_eq (fuel : Nat) (layer : List JsString) :
    climbLayers runtime fuel layer =
      LayeredMerkle.topLayer (merkleParentHash runtime) fuel layer := by
  induction fuel generalizing layer with
  | zero => rfl
  | succ fuel ih =>
    rw [climbLayers, LayeredMerkle.topLayer, ih, parentLayer_eq]

def MerkleProofStep.toPair (step : MerkleProofStep) : Side × JsString :=
  (if step.position = .left then .left else .right, step.hash)

theorem proofLoop_eq (fuel : Nat) {layer : List JsString} {index : Nat} {digest : JsString}
    (atIndex : layer[index]? = some digest) :
    (proofLoop runtime fuel layer index).1.map MerkleProofStep.toPair =
        LayeredMerkle.honestPath (merkleParentHash runtime) fuel layer index digest ∧
      (proofLoop runtime fuel layer index).2 =
        LayeredMerkle.topLayer (merkleParentHash runtime) fuel layer := by
  induction fuel generalizing layer index digest with
  | zero => exact ⟨rfl, rfl⟩
  | succ fuel ih =>
    rw [proofLoop, LayeredMerkle.honestPath, LayeredMerkle.topLayer]
    split
    next =>
      have above := ih
        (LayeredMerkle.getElem?_nextLayer (merkleParentHash runtime) atIndex)
      rw [← parentLayer_eq] at above
      refine ⟨?_, by rw [above.2, parentLayer_eq]⟩
      rw [List.map_cons, above.1, parentLayer_eq, atIndex, Option.getD_some]
      congr 1
      rw [MerkleProofStep.toPair, LayeredMerkle.siblingStep]
      split <;> rfl
    next => exact ⟨rfl, rfl⟩

theorem foldl_steps_eq (start : JsString) (steps : List MerkleProofStep) :
    steps.foldl (fun computed step =>
        if step.position = .left then merkleParentHash runtime step.hash computed
        else merkleParentHash runtime computed step.hash) start =
      climb (merkleParentHash runtime) start (steps.map MerkleProofStep.toPair) := by
  rw [climb, List.foldl_map]
  congr 1
  funext computed step
  rw [MerkleProofStep.toPair]
  split <;> rfl

end Hashes

end GhostArk.EnforcementRuntime.Receipts.Checkpoint
