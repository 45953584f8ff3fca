import GhostArk.Js.Value
import GhostArk.Lib.MerkleTree

/-!
Contract: `packages/research-frontier/src/merkle.ts`.

Owns leaf and node hashing, Merkle roots over index ranges, inclusion and
consistency proofs, and their verifiers with every guard and thrown error.

Sizes and indices inside the recursions are natural numbers: every entry point
first passes its numbers through a safe-integer guard. Recursions over ranges
carry a fuel argument, started at the size of the range; running out of fuel is
an error that no call reaches.
-/

namespace GhostArk.ResearchFrontier.Merkle

open Js
open Lib.MerkleTree (Side)

structure MerkleProofStep where
  position : Side
  hash : JsString
deriving DecidableEq, Repr

structure MerkleInclusionProof where
  tree_size : JsNumber
  leaf_index : JsNumber
  leaf_hash : JsString
  root_hash : JsString
  audit_path : List MerkleProofStep
deriving DecidableEq, Repr

structure MerkleConsistencyProof where
  old_tree_size : JsNumber
  new_tree_size : JsNumber
  audit_path : List JsString
deriving DecidableEq, Repr

def assertSha256Hex (value label : JsString) : Except JsError Unit :=
  if isHex64 value then pure ()
  else throw (.plain (label ++ js " must be a lowercase SHA-256 hex digest"))

def assertLeafHashes (leafHashes : List JsString) : Except JsError Unit :=
  leafHashes.forM fun hash => assertSha256Hex hash (js "leaf hash")

def assertTreeSize (value : JsNumber) (label : JsString) : Except JsError Nat :=
  match value.safeNat? with
  | some size => pure size
  | none => throw (.plain (label ++ js " must be a non-negative safe integer"))

def assertValidLeafIndex (leafIndex treeSize : JsNumber) : Except JsError (Nat × Nat) := do
  let size ← assertTreeSize treeSize (js "treeSize")
  match leafIndex.safeNat? with
  | some index =>
    if index < size then pure (index, size)
    else throw (.plain (js "leafIndex must address an existing tree leaf"))
  | none => throw (.plain (js "leafIndex must address an existing tree leaf"))

/-- `while (power * 2 < value) power *= 2`. -/
def doublePower : Nat → Nat → Nat → Nat
  | 0, _, power => power
  | fuel + 1, value, power =>
    if power * 2 < value then doublePower fuel value (power * 2) else power

def largestPowerOfTwoLessThan (value : Nat) : Except JsError Nat :=
  if value ≤ 1 ∨ JsNumber.maxSafeInteger < value then
    throw (.plain (js "value must be a safe integer greater than one"))
  else pure (doublePower value value 1)

def outOfFuel : JsError := .plain (js "Merkle recursion exceeded its range")

section Hashing

variable (sha256 : Sha256)

def EMPTY_TREE_ROOT : JsString := sha256.sha256Hex (js "ghostark.empty_merkle_tree.v1")

def leafInput (payload : JsString) : JsString := js "ghostark.leaf.v1:" ++ payload

def leafHash (payload : JsString) : JsString := sha256.sha256Hex (leafInput payload)

def nodeInput (leftHex rightHex : JsString) : JsString :=
  js "ghostark.node.v1:" ++ leftHex ++ js ":" ++ rightHex

def nodeHash (leftHex rightHex : JsString) : Except JsError JsString := do
  assertSha256Hex leftHex (js "leftHex")
  assertSha256Hex rightHex (js "rightHex")
  return sha256.sha256Hex (nodeInput leftHex rightHex)

/-! ### Ranges -/

/-- An index past the end reads `undefined`, which the digest pattern then
tests as the text `"undefined"`. -/
def leafAt (leafHashes : List JsString) (index : Nat) : JsString :=
  leafHashes.getD index (js "undefined")

def merkleRootForRange (leafHashes : List JsString) : Nat → Nat → Nat → Except JsError JsString
  | 0, _, _ => throw outOfFuel
  | fuel + 1, startInclusive, endExclusive => do
    let size := endExclusive - startInclusive
    if size = 0 then throw (.plain (js "Merkle range must be non-empty"))
    else if size = 1 then return leafAt leafHashes startInclusive
    else
      let split := startInclusive + (← largestPowerOfTwoLessThan size)
      nodeHash sha256 (← merkleRootForRange leafHashes fuel startInclusive split)
        (← merkleRootForRange leafHashes fuel split endExclusive)

/-- `merkleRootForRange(leafHashes, start, end)`. -/
def rootForRange (leafHashes : List JsString) (startInclusive endExclusive : Nat) :
    Except JsError JsString :=
  merkleRootForRange sha256 leafHashes (endExclusive - startInclusive + 1)
    startInclusive endExclusive

def inclusionPathForRange (leafIndex : Nat) (leafHashes : List JsString) :
    Nat → Nat → Nat → Except JsError (List MerkleProofStep)
  | 0, _, _ => throw outOfFuel
  | fuel + 1, startInclusive, endExclusive => do
    let size := endExclusive - startInclusive
    if size = 1 then return []
    else
      let split := startInclusive + (← largestPowerOfTwoLessThan size)
      if leafIndex < split then
        return (← inclusionPathForRange leafIndex leafHashes fuel startInclusive split) ++
          [⟨.right, ← rootForRange sha256 leafHashes split endExclusive⟩]
      else
        return (← inclusionPathForRange leafIndex leafHashes fuel split endExclusive) ++
          [⟨.left, ← rootForRange sha256 leafHashes startInclusive split⟩]

def consistencySubproof (leafHashes : List JsString) :
    Nat → Nat → Nat → Nat → Bool → Except JsError (List JsString)
  | 0, _, _, _, _ => throw outOfFuel
  | fuel + 1, oldTreeSize, startInclusive, endExclusive, includeOldRoot => do
    let newTreeSize := endExclusive - startInclusive
    if oldTreeSize = newTreeSize then
      if includeOldRoot then return []
      else return [← rootForRange sha256 leafHashes startInclusive endExclusive]
    else
      let splitSize ← largestPowerOfTwoLessThan newTreeSize
      let split := startInclusive + splitSize
      if oldTreeSize ≤ splitSize then
        return (← consistencySubproof leafHashes fuel oldTreeSize startInclusive split
            includeOldRoot) ++ [← rootForRange sha256 leafHashes split endExclusive]
      else
        return (← consistencySubproof leafHashes fuel (oldTreeSize - splitSize) split
            endExclusive false) ++ [← rootForRange sha256 leafHashes startInclusive split]

end Hashing

def inclusionPathPositionsForRange (leafIndex : Nat) :
    Nat → Nat → Nat → Except JsError (List Side)
  | 0, _, _ => throw outOfFuel
  | fuel + 1, startInclusive, endExclusive => do
    let size := endExclusive - startInclusive
    if size = 1 then return []
    else
      let split := startInclusive + (← largestPowerOfTwoLessThan size)
      if leafIndex < split then
        return (← inclusionPathPositionsForRange leafIndex fuel startInclusive split) ++ [.right]
      else
        return (← inclusionPathPositionsForRange leafIndex fuel split endExclusive) ++ [.left]

/-- `inclusionPathPositionsForRange(leafIndex, 0, treeSize)`. -/
def inclusionPathPositions (leafIndex treeSize : Nat) : Except JsError (List Side) :=
  inclusionPathPositionsForRange leafIndex (treeSize + 1) 0 treeSize

section Roots

variable (sha256 : Sha256)

def computeMerkleRootFromLeafHashes (leafHashes : List JsString) : Except JsError JsString := do
  if leafHashes.length = 0 then return EMPTY_TREE_ROOT sha256
  else
    assertLeafHashes leafHashes
    rootForRange sha256 leafHashes 0 leafHashes.length

def computeMerkleRoot (payloads : List JsString) : Except JsError JsString :=
  computeMerkleRootFromLeafHashes sha256 (payloads.map (leafHash sha256))

def getInclusionProofFromLeafHashes (leafIndex : JsNumber) (leafHashes : List JsString) :
    Except JsError MerkleInclusionProof := do
  assertLeafHashes leafHashes
  let (index, size) ← assertValidLeafIndex leafIndex (.ofNat leafHashes.length)
  return {
    tree_size := .ofNat leafHashes.length
    leaf_index := leafIndex
    leaf_hash := leafAt leafHashes index
    root_hash := ← computeMerkleRootFromLeafHashes sha256 leafHashes
    audit_path := ← inclusionPathForRange sha256 index leafHashes (size + 1) 0 size }

def getConsistencyProofFromLeafHashes (oldTreeSize : JsNumber) (newLeafHashes : List JsString) :
    Except JsError MerkleConsistencyProof := do
  assertLeafHashes newLeafHashes
  let oldSize ← assertTreeSize oldTreeSize (js "oldTreeSize")
  if newLeafHashes.length < oldSize then
    throw (.plain (js "oldTreeSize must be less than or equal to new tree size"))
  else
    let newSize := newLeafHashes.length
    let auditPath ←
      if oldSize = 0 ∨ oldSize = newSize then pure []
      else consistencySubproof sha256 newLeafHashes (newSize + 1) oldSize 0 newSize true
    return ⟨oldTreeSize, .ofNat newSize, auditPath⟩

/-- The loop over the audit path; `none` is the early `return false` on an
unexpected position. -/
def climbAuditPath : List MerkleProofStep → List Side → JsString →
    Except JsError (Option JsString)
  | [], _, computed => return some computed
  | step :: steps, expectedPositions, computed => do
    assertSha256Hex step.hash (js "proof audit path hash")
    match expectedPositions with
    | [] => return none
    | expected :: rest =>
      if step.position ≠ expected then return none
      else
        match step.position with
        | .left => climbAuditPath steps rest (← nodeHash sha256 step.hash computed)
        | .right => climbAuditPath steps rest (← nodeHash sha256 computed step.hash)

def verifyInclusionProofFromLeafHash (leafHash : JsString) (proof : MerkleInclusionProof)
    (expectedRoot : Option JsString) : Bool :=
  orFalse do
    assertSha256Hex leafHash (js "leafHash")
    let (index, size) ← assertValidLeafIndex proof.leaf_index proof.tree_size
    assertSha256Hex proof.leaf_hash (js "proof.leaf_hash")
    assertSha256Hex proof.root_hash (js "proof.root_hash")
    if let some root := expectedRoot then
      assertSha256Hex root (js "expectedRoot")
    if leafHash ≠ proof.leaf_hash then return false
    let expectedPositions ← inclusionPathPositions index size
    if expectedPositions.length ≠ proof.audit_path.length then return false
    match ← climbAuditPath sha256 proof.audit_path expectedPositions proof.leaf_hash with
    | none => return false
    | some computed => return computed = expectedRoot.getD proof.root_hash

def verifyInclusionProof (payload : JsString) (proof : MerkleInclusionProof)
    (expectedRoot : Option JsString) : Bool :=
  verifyInclusionProofFromLeafHash sha256 (leafHash sha256 payload) proof expectedRoot

structure ConsistencyVerifierResult where
  cursor : Nat
  oldRootHash : JsString
  newRootHash : JsString
deriving DecidableEq, Repr

def verifyConsistencySubproof (auditPath : List JsString) (oldRootHash : JsString) :
    Nat → Nat → Nat → Bool → Nat → Except JsError (Option ConsistencyVerifierResult)
  | 0, _, _, _, _ => throw outOfFuel
  | fuel + 1, oldTreeSize, newTreeSize, includeOldRoot, cursor => do
    if oldTreeSize = newTreeSize then
      if includeOldRoot then
        return some ⟨cursor, oldRootHash, oldRootHash⟩
      else
        match auditPath[cursor]? with
        | none => return none
        | some rootHash => return some ⟨cursor + 1, rootHash, rootHash⟩
    else
      let splitSize ← largestPowerOfTwoLessThan newTreeSize
      if oldTreeSize ≤ splitSize then
        match ← verifyConsistencySubproof auditPath oldRootHash fuel oldTreeSize splitSize
            includeOldRoot cursor with
        | none => return none
        | some left =>
          match auditPath[left.cursor]? with
          | none => return none
          | some rightHash =>
            return some ⟨left.cursor + 1, left.oldRootHash,
              ← nodeHash sha256 left.newRootHash rightHash⟩
      else
        match ← verifyConsistencySubproof auditPath oldRootHash fuel (oldTreeSize - splitSize)
            (newTreeSize - splitSize) false cursor with
        | none => return none
        | some right =>
          match auditPath[right.cursor]? with
          | none => return none
          | some leftHash =>
            return some ⟨right.cursor + 1, ← nodeHash sha256 leftHash right.oldRootHash,
              ← nodeHash sha256 leftHash right.newRootHash⟩

def verifyConsistencyProof (oldRootHash newRootHash : JsString)
    (proof : MerkleConsistencyProof) : Bool :=
  orFalse do
    assertSha256Hex oldRootHash (js "oldRootHash")
    assertSha256Hex newRootHash (js "newRootHash")
    let oldSize ← assertTreeSize proof.old_tree_size (js "proof.old_tree_size")
    let newSize ← assertTreeSize proof.new_tree_size (js "proof.new_tree_size")
    proof.audit_path.forM fun hash => assertSha256Hex hash (js "proof audit path hash")
    if newSize < oldSize then return false
    else if oldSize = 0 then
      return oldRootHash = EMPTY_TREE_ROOT sha256 &&
        (decide (0 < newSize) || newRootHash = EMPTY_TREE_ROOT sha256) &&
        proof.audit_path.length = 0
    else if oldSize = newSize then
      return proof.audit_path.length = 0 && oldRootHash = newRootHash
    else
      match ← verifyConsistencySubproof sha256 proof.audit_path oldRootHash (newSize + 1) oldSize
          newSize true 0 with
      | none => return false
      | some reconstructed =>
        return reconstructed.cursor = proof.audit_path.length &&
          reconstructed.oldRootHash = oldRootHash && reconstructed.newRootHash = newRootHash

end Roots

end GhostArk.ResearchFrontier.Merkle
