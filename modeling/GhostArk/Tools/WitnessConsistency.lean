import GhostArk.EnforcementRuntime.Policy.Schema
import GhostArk.Js.Coercion
import GhostArk.ResearchFrontier.MerkleExactness

/-!
Contract: the checkpoint consistency check of `tools/ghost-verify.mjs`, and its
agreement with `packages/research-frontier/src/merkle.ts`.

Owns the shape validation of an untyped consistency proof, the command line's
own copy of the consistency recursion, the simulation between the two copies,
and the one kind of proof on which the two verdicts differ.

Does not own: witness signatures, key manifests, or the other commands.
-/

namespace GhostArk.Tools

open Js
open EnforcementRuntime.Policy (property readNonempty)
open EnforcementRuntime.Receipts (readString)
open Lib.MerkleTree
open ResearchFrontier

/-- The keys outside `allowedKeys`. -/
def exactKeys (entries : List (JsString × JsValue)) (allowedKeys : List JsString) :
    List JsString :=
  (entries.map Prod.fst).filter fun key => !allowedKeys.contains key

/-- A text that `sha256HexPattern` accepts. -/
abbrev HexDigest := { text : JsString // isHex64 text = true }

/-- A natural number that `Number.isSafeInteger` accepts. -/
abbrev SafeSize := { size : Nat // size ≤ JsNumber.maxSafeInteger }

def readHexDigest : JsValue → Option HexDigest
  | .string text => if shape : isHex64 text = true then some ⟨text, shape⟩ else none
  | _ => none

def readSafeSize : JsValue → Option SafeSize
  | .number number =>
    match isSafe : number.safeNat? with
    | some size => some ⟨size, (JsNumber.eq_ofNat_of_safeNat? isSafe).2⟩
    | none => none
  | _ => none

/-- A consistency proof that passed its shape validation. -/
structure WitnessConsistencyProof where
  log_id : JsString
  old_tree_size : SafeSize
  new_tree_size : SafeSize
  old_root_hash : HexDigest
  new_root_hash : HexDigest
  audit_path : List HexDigest

namespace WitnessConsistencyProof

variable (proof : WitnessConsistencyProof)

/-- `proof.audit_path`, as strings. -/
def auditPath : List JsString := proof.audit_path.map Subtype.val

/-- The part of the object that `verifyConsistencyProof` of the library reads. -/
def toLibrary : Merkle.MerkleConsistencyProof where
  old_tree_size := .ofNat proof.old_tree_size.val
  new_tree_size := .ofNat proof.new_tree_size.val
  audit_path := proof.auditPath

theorem auditPath_shapes : ∀ hash ∈ proof.auditPath, isHex64 hash = true := by
  intro hash member
  rcases List.mem_map.mp member with ⟨digest, -, rfl⟩
  exact digest.property

end WitnessConsistencyProof

def consistencyProofKeys : List JsString :=
  [js "schema_version", js "log_id", js "old_tree_size", js "new_tree_size", js "old_root_hash",
    js "new_root_hash", js "audit_path"]

def consistencyProofSchemaVersion : JsString :=
  js "ghostark.research.witness_checkpoint_consistency_proof.v1"

section Shape

variable (numbers : NumberText)

/-- The loop over `proof.audit_path.entries()`, from a given index. -/
def readAuditPath : Nat → List JsValue → Except JsString (List HexDigest)
  | _, [] => .ok []
  | index, item :: rest =>
    match readHexDigest item with
    | some hash => (readAuditPath (index + 1) rest).map (hash :: ·)
    | none =>
      .error (js "Witness checkpoint consistency proof audit_path entry " ++
        numbers.string (.ofNat index) ++ js " must be a lowercase SHA-256 hex digest.")

/-- Passes the validated fields on; an error carries the `detail`. -/
def validateResearchWitnessConsistencyProofShape (value : JsValue) :
    Except JsString WitnessConsistencyProof := do
  let some entries := recordEntries value
    | .error (js "Witness checkpoint consistency proof must be an object.")
  let unknown := exactKeys entries consistencyProofKeys
  if unknown ≠ [] then
    .error (js "Witness checkpoint consistency proof contains unknown fields: " ++
      join (js ", ") unknown ++ js ".")
  if readString (property entries "schema_version") ≠ some consistencyProofSchemaVersion then
    .error (js "Witness checkpoint consistency proof schema_version must be " ++
      consistencyProofSchemaVersion ++ js ".")
  let some log_id := readNonempty (property entries "log_id")
    | .error (js "Witness checkpoint consistency proof log_id must be a non-empty string.")
  let some old_tree_size := readSafeSize (property entries "old_tree_size")
    | .error (js "Witness checkpoint consistency proof old_tree_size must be a non-negative " ++
        js "safe integer.")
  let some new_tree_size := readSafeSize (property entries "new_tree_size")
    | .error (js "Witness checkpoint consistency proof new_tree_size must be a non-negative " ++
        js "safe integer.")
  let some old_root_hash := readHexDigest (property entries "old_root_hash")
    | .error (js "Witness checkpoint consistency proof old_root_hash must be a lowercase " ++
        js "SHA-256 hex digest.")
  let some new_root_hash := readHexDigest (property entries "new_root_hash")
    | .error (js "Witness checkpoint consistency proof new_root_hash must be a lowercase " ++
        js "SHA-256 hex digest.")
  let .array items := property entries "audit_path"
    | .error (js "Witness checkpoint consistency proof audit_path must be an array.")
  let audit_path ← readAuditPath numbers 0 items
  return { log_id, old_tree_size, new_tree_size, old_root_hash, new_root_hash, audit_path }

end Shape

def largestPowerOfTwoLessThan (value : Nat) : Except JsError Nat :=
  if JsNumber.maxSafeInteger < value ∨ value ≤ 1 then
    throw (.plain (js "value must be a safe integer greater than one"))
  else pure (Merkle.doublePower value value 1)

section Verifier

variable (sha256 : Sha256) (numbers : NumberText)

def researchEmptyTreeRoot : JsString := sha256.sha256Hex (js "ghostark.empty_merkle_tree.v1")

def researchMerkleParentHash (left right : JsString) : JsString :=
  sha256.sha256Hex (js "ghostark.node.v1:" ++ left ++ js ":" ++ right)

def verifyResearchConsistencySubproof (auditPath : List JsString) (oldRootHash : JsString) :
    Nat → Nat → Nat → Bool → Nat → Except JsError (Option Merkle.ConsistencyVerifierResult)
  | 0, _, _, _, _ => throw Merkle.outOfFuel
  | fuel + 1, oldTreeSize, newTreeSize, includeOldRoot, cursor => do
    if oldTreeSize = newTreeSize then
      if includeOldRoot then
        return some ⟨cursor, oldRootHash, oldRootHash⟩
      else
        match auditPath[cursor]? with
        | none => return none
        | some rootHash => return some ⟨cursor + 1, rootHash, rootHash⟩
    else
      let splitSize ← largestPowerOfTwoLessThan newTreeSize
      if oldTreeSize ≤ splitSize then
        match ← verifyResearchConsistencySubproof auditPath oldRootHash fuel oldTreeSize
            splitSize includeOldRoot cursor with
        | none => return none
        | some left =>
          match auditPath[left.cursor]? with
          | none => return none
          | some rightHash =>
            return some ⟨left.cursor + 1, left.oldRootHash,
              researchMerkleParentHash sha256 left.newRootHash rightHash⟩
      else
        match ← verifyResearchConsistencySubproof auditPath oldRootHash fuel
            (oldTreeSize - splitSize) (newTreeSize - splitSize) false cursor with
        | none => return none
        | some right =>
          match auditPath[right.cursor]? with
          | none => return none
          | some leftHash =>
            return some ⟨right.cursor + 1,
              researchMerkleParentHash sha256 leftHash right.oldRootHash,
              researchMerkleParentHash sha256 leftHash right.newRootHash⟩

def verifyShapedConsistencyProof (proof : WitnessConsistencyProof) : Except JsError Bool := do
  if proof.new_tree_size.val < proof.old_tree_size.val then return false
  else if proof.old_tree_size.val = 0 then
    return proof.old_root_hash.val = researchEmptyTreeRoot sha256 && proof.audit_path.length = 0
  else if proof.old_tree_size.val = proof.new_tree_size.val then
    return proof.audit_path.length = 0 && proof.old_root_hash.val = proof.new_root_hash.val
  else
    match ← verifyResearchConsistencySubproof sha256 proof.auditPath proof.old_root_hash.val
        (proof.new_tree_size.val + 1) proof.old_tree_size.val proof.new_tree_size.val true 0 with
    | none => return false
    | some reconstructed =>
      return reconstructed.cursor = proof.audit_path.length &&
        reconstructed.oldRootHash = proof.old_root_hash.val &&
        reconstructed.newRootHash = proof.new_root_hash.val

def verifyResearchMerkleConsistencyProof (value : JsValue) : Except JsError Bool :=
  match validateResearchWitnessConsistencyProofShape numbers value with
  | .error _ => .ok false
  | .ok proof => verifyShapedConsistencyProof sha256 proof

end Verifier

/-! ### Simulation of the library's recursion -/

theorem largestPowerOfTwoLessThan_eq_library (value : Nat) :
    largestPowerOfTwoLessThan value = Merkle.largestPowerOfTwoLessThan value := by
  unfold largestPowerOfTwoLessThan Merkle.largestPowerOfTwoLessThan
  simp only [or_comm]

/-- Both recursions end alike, and every root they find is a digest. -/
def Agrees (ours theirs : Except JsError (Option Merkle.ConsistencyVerifierResult)) : Prop :=
  ours = theirs ∧ ∀ found, theirs = .ok (some found) →
    isHex64 found.oldRootHash = true ∧ isHex64 found.newRootHash = true

section Simulation

variable {sha256 : Sha256} {auditPath : List JsString} {oldRootHash : JsString}

theorem Agrees.error (error : JsError) : Agrees (.error error) (.error error) :=
  ⟨rfl, fun _ found => by cases found⟩

theorem Agrees.missing : Agrees (.ok none) (.ok none) :=
  ⟨rfl, fun _ found => by cases found⟩

theorem Agrees.found {result : Merkle.ConsistencyVerifierResult}
    (oldShape : isHex64 result.oldRootHash = true)
    (newShape : isHex64 result.newRootHash = true) :
    Agrees (.ok (some result)) (.ok (some result)) := by
  refine ⟨rfl, fun other same => ?_⟩
  cases same
  exact ⟨oldShape, newShape⟩

theorem isHex64_of_getElem? (pathShapes : ∀ hash ∈ auditPath, isHex64 hash = true)
    {cursor : Nat} {hash : JsString} (present : auditPath[cursor]? = some hash) :
    isHex64 hash = true :=
  pathShapes hash (List.mem_of_getElem? present)

theorem verifyResearchConsistencySubproof_agrees
    (pathShapes : ∀ hash ∈ auditPath, isHex64 hash = true)
    (oldShape : isHex64 oldRootHash = true)
    (fuel oldSize newSize : Nat) (includeOldRoot : Bool) (cursor : Nat) :
    Agrees
      (verifyResearchConsistencySubproof sha256 auditPath oldRootHash fuel oldSize newSize
        includeOldRoot cursor)
      (Merkle.verifyConsistencySubproof sha256 auditPath oldRootHash fuel oldSize newSize
        includeOldRoot cursor) := by
  induction fuel generalizing oldSize newSize includeOldRoot cursor with
  | zero => exact Agrees.error _
  | succ fuel ih =>
    unfold verifyResearchConsistencySubproof Merkle.verifyConsistencySubproof
    by_cases equal : oldSize = newSize
    · rw [if_pos equal, if_pos equal]
      cases includeOldRoot with
      | true => exact Agrees.found oldShape oldShape
      | false =>
        cases present : auditPath[cursor]? with
        | none => exact Agrees.missing
        | some hash =>
          have shape := isHex64_of_getElem? pathShapes present
          exact Agrees.found shape shape
    rw [if_neg equal, if_neg equal, largestPowerOfTwoLessThan_eq_library]
    cases Merkle.largestPowerOfTwoLessThan newSize with
    | error error => exact Agrees.error error
    | ok splitSize =>
      rw [ok_bind, ok_bind]
      by_cases inLeft : oldSize ≤ splitSize
      · rw [if_pos inLeft, if_pos inLeft]
        rcases ih oldSize splitSize includeOldRoot cursor with
          ⟨same, shapes⟩
        rw [same]
        cases inner : Merkle.verifyConsistencySubproof sha256 auditPath oldRootHash fuel
            oldSize splitSize includeOldRoot cursor with
        | error error => exact Agrees.error error
        | ok outcome =>
          cases outcome with
          | none => exact Agrees.missing
          | some left =>
            rcases shapes left inner with ⟨leftOld, leftNew⟩
            simp only [ok_bind]
            cases present : auditPath[left.cursor]? with
            | none => exact Agrees.missing
            | some rightHash =>
              have shape := isHex64_of_getElem? pathShapes present
              simp only [Merkle.nodeHash_ok leftNew shape, ok_bind]
              exact Agrees.found leftOld (Merkle.isHex64_nodeDigest _ _)
      · rw [if_neg inLeft, if_neg inLeft]
        rcases ih (oldSize - splitSize) (newSize - splitSize) false cursor
          with ⟨same, shapes⟩
        rw [same]
        cases inner : Merkle.verifyConsistencySubproof sha256 auditPath oldRootHash fuel
            (oldSize - splitSize) (newSize - splitSize) false cursor with
        | error error => exact Agrees.error error
        | ok outcome =>
          cases outcome with
          | none => exact Agrees.missing
          | some right =>
            rcases shapes right inner with ⟨rightOld, rightNew⟩
            simp only [ok_bind]
            cases present : auditPath[right.cursor]? with
            | none => exact Agrees.missing
            | some leftHash =>
              have shape := isHex64_of_getElem? pathShapes present
              simp only [Merkle.nodeHash_ok shape rightOld,
                Merkle.nodeHash_ok shape rightNew, ok_bind]
              exact Agrees.found (Merkle.isHex64_nodeDigest _ _)
                (Merkle.isHex64_nodeDigest _ _)

theorem verifyConsistencySubproof_returns (pathShapes : ∀ hash ∈ auditPath, isHex64 hash = true)
    (oldShape : isHex64 oldRootHash = true) {oldSize newSize : Nat} (positive : 0 < oldSize)
    (within : oldSize ≤ newSize) (small : newSize ≤ JsNumber.maxSafeInteger) :
    ∃ result, Merkle.verifyConsistencySubproof sha256 auditPath oldRootHash (newSize + 1) oldSize
      newSize true 0 = .ok result := by
  have nonempty : List.replicate newSize oldRootHash ≠ [] := by
    rw [← List.length_pos_iff, List.length_replicate]
    omega
  rcases HashTree.ofLeaves_spec nonempty with ⟨tree, -, balanced, leavesEq⟩
  have sizeEq : tree.size = newSize := by
    rw [← HashTree.length_leaves, leavesEq, List.length_replicate]
  subst sizeEq
  rcases Merkle.verifyConsistencySubproof_reconstructs sha256 pathShapes oldShape balanced small
    (Nat.le_succ tree.size) positive within true (Nat.zero_le _) with ⟨result, returned, -⟩
  exact ⟨result, returned⟩

end Simulation

section Agreement

variable (sha256 : Sha256)

def libraryVerdict (proof : WitnessConsistencyProof) : Bool :=
  Merkle.verifyConsistencyProof sha256 proof.old_root_hash.val proof.new_root_hash.val
    proof.toLibrary

/-- Both trees are empty, but the new root is not the root of an empty tree. -/
def ForgedEmptyRoot (proof : WitnessConsistencyProof) : Prop :=
  proof.old_tree_size.val = 0 ∧ proof.new_tree_size.val = 0 ∧
    proof.old_root_hash.val = researchEmptyTreeRoot sha256 ∧
    proof.new_root_hash.val ≠ researchEmptyTreeRoot sha256 ∧ proof.audit_path = []

/-- On a validated proof the two verdicts differ only on a forged root of an
empty tree. -/
theorem verifyShapedConsistencyProof_eq_iff (proof : WitnessConsistencyProof) :
    verifyShapedConsistencyProof sha256 proof = .ok (libraryVerdict sha256 proof) ↔
      ¬ ForgedEmptyRoot sha256 proof := by
  have oldSafe := JsNumber.safeNat?_ofNat proof.old_tree_size.property
  have newSafe := JsNumber.safeNat?_ofNat proof.new_tree_size.property
  have guards : (proof.auditPath.forM fun hash =>
      Merkle.assertSha256Hex hash (js "proof audit path hash")) = .ok () :=
    Merkle.forM_assertSha256Hex_eq_ok_iff.mpr proof.auditPath_shapes
  have lengths : proof.auditPath.length = proof.audit_path.length := List.length_map _
  have sameEmpty : researchEmptyTreeRoot sha256 = Merkle.EMPTY_TREE_ROOT sha256 := rfl
  unfold libraryVerdict Merkle.verifyConsistencyProof verifyShapedConsistencyProof ForgedEmptyRoot
  simp only [WitnessConsistencyProof.toLibrary, Merkle.assertTreeSize, oldSafe, newSafe,
    Merkle.assertSha256Hex_ok proof.old_root_hash.property,
    Merkle.assertSha256Hex_ok proof.new_root_hash.property, guards, lengths, sameEmpty, ok_bind,
    pure_bind]
  by_cases decreasing : proof.new_tree_size.val < proof.old_tree_size.val
  · refine iff_of_true ?_ fun forged => by omega
    rw [if_pos decreasing, if_pos decreasing]
    rfl
  rw [if_neg decreasing, if_neg decreasing]
  by_cases fromEmpty : proof.old_tree_size.val = 0
  · -- The branch that drops the library's condition on the new root.
    rw [if_pos fromEmpty, if_pos fromEmpty]
    simp only [pure, Except.pure, orFalse_ok, Except.ok.injEq, List.length_eq_zero_iff, fromEmpty]
    rcases Nat.eq_zero_or_pos proof.new_tree_size.val with toEmpty | grown
    · by_cases oldEmpty : proof.old_root_hash.val = Merkle.EMPTY_TREE_ROOT sha256
      · by_cases newEmpty : proof.new_root_hash.val = Merkle.EMPTY_TREE_ROOT sha256
        · simp [toEmpty, oldEmpty, newEmpty]
        · simp [toEmpty, oldEmpty, newEmpty]
      · simp [oldEmpty]
    · simp [grown, grown.ne']
  rw [if_neg fromEmpty, if_neg fromEmpty]
  refine iff_of_true ?_ fun forged => fromEmpty forged.1
  by_cases unchanged : proof.old_tree_size.val = proof.new_tree_size.val
  · rw [if_pos unchanged, if_pos unchanged]
    rfl
  rw [if_neg unchanged, if_neg unchanged]
  have agrees := @verifyResearchConsistencySubproof_agrees sha256 _ _
    proof.auditPath_shapes proof.old_root_hash.property (proof.new_tree_size.val + 1)
    proof.old_tree_size.val proof.new_tree_size.val true 0
  rcases @verifyConsistencySubproof_returns sha256 _ _ proof.auditPath_shapes
    proof.old_root_hash.property _ _ (Nat.pos_of_ne_zero fromEmpty) (by omega)
    proof.new_tree_size.property with ⟨result, returned⟩
  rw [agrees.1, returned]
  cases result with
  | none => rfl
  | some found => rfl

variable (numbers : NumberText)

/-- For every well-shaped proof object the command line returns the library's
verdict, except on a forged root of an empty tree. -/
theorem verifyResearchMerkleConsistencyProof_eq_library_iff {value : JsValue}
    {proof : WitnessConsistencyProof}
    (wellShaped : validateResearchWitnessConsistencyProofShape numbers value = .ok proof) :
    verifyResearchMerkleConsistencyProof sha256 numbers value =
        .ok (libraryVerdict sha256 proof) ↔
      ¬ (proof.old_tree_size.val = 0 ∧ proof.new_tree_size.val = 0 ∧
        proof.old_root_hash.val = researchEmptyTreeRoot sha256 ∧
        proof.new_root_hash.val ≠ researchEmptyTreeRoot sha256 ∧ proof.audit_path = []) := by
  rw [verifyResearchMerkleConsistencyProof, wellShaped]
  exact verifyShapedConsistencyProof_eq_iff sha256 proof

end Agreement

section Written

/-- The object that a proof was read from. -/
def WitnessConsistencyProof.toEntries (proof : WitnessConsistencyProof) :
    List (JsString × JsValue) :=
  [(js "schema_version", .string consistencyProofSchemaVersion),
    (js "log_id", .string proof.log_id),
    (js "old_tree_size", .number (.ofNat proof.old_tree_size.val)),
    (js "new_tree_size", .number (.ofNat proof.new_tree_size.val)),
    (js "old_root_hash", .string proof.old_root_hash.val),
    (js "new_root_hash", .string proof.new_root_hash.val),
    (js "audit_path", .array (proof.audit_path.map fun hash => .string hash.val))]

theorem readHexDigest_string (hash : HexDigest) : readHexDigest (.string hash.val) = some hash :=
  dif_pos hash.property

theorem readSafeSize_ofNat (size : SafeSize) :
    readSafeSize (.number (.ofNat size.val)) = some size := by
  have isSafe := JsNumber.safeNat?_ofNat size.property
  simp only [readSafeSize]
  split
  next found same =>
    rw [isSafe] at same
    cases same
    rfl
  next missing =>
    rw [isSafe] at missing
    cases missing

theorem readAuditPath_map (numbers : NumberText) (path : List HexDigest) (index : Nat) :
    readAuditPath numbers index (path.map fun hash => .string hash.val) = .ok path := by
  induction path generalizing index with
  | nil => rfl
  | cons hash rest ih =>
    rw [List.map_cons, readAuditPath, readHexDigest_string]
    dsimp only
    rw [ih]
    rfl

/-- A written proof passes its validation, and is read back whole. -/
theorem validateResearchWitnessConsistencyProofShape_toEntries (numbers : NumberText)
    {proof : WitnessConsistencyProof} (named : proof.log_id ≠ []) :
    validateResearchWitnessConsistencyProofShape numbers (.object proof.toEntries) = .ok proof := by
  let entries := proof.toEntries
  have known : exactKeys entries consistencyProofKeys = [] := by
    rw [exactKeys, List.filter_eq_nil_iff]
    change ∀ key ∈ consistencyProofKeys, _
    decide +kernel
  have version : property entries "schema_version" = .string consistencyProofSchemaVersion := rfl
  have logId : property entries "log_id" = .string proof.log_id := rfl
  have oldSize : property entries "old_tree_size" = .number (.ofNat proof.old_tree_size.val) := rfl
  have newSize : property entries "new_tree_size" = .number (.ofNat proof.new_tree_size.val) := rfl
  have oldHash : property entries "old_root_hash" = .string proof.old_root_hash.val := rfl
  have newHash : property entries "new_root_hash" = .string proof.new_root_hash.val := rfl
  have path : property entries "audit_path" =
      .array (proof.audit_path.map fun hash => .string hash.val) := rfl
  have readName : readNonempty (.string proof.log_id) = some proof.log_id := if_neg named
  unfold validateResearchWitnessConsistencyProofShape
  simp only [recordEntries, objectMembers]
  rw [known, version, logId, oldSize, newSize, oldHash, newHash, path, readName,
    readSafeSize_ofNat, readSafeSize_ofNat, readHexDigest_string, readHexDigest_string]
  dsimp only
  rw [readAuditPath_map]
  rfl

end Written

namespace Sample

def emptyRoot : HexDigest := ⟨researchEmptyTreeRoot fips180, fips180.isHex64_sha256Hex _⟩

def otherRoot : HexDigest := ⟨.replicate 64 (unit 'a'), by decide⟩

/-- From the empty tree to itself, with another root for the second. -/
def forged : WitnessConsistencyProof :=
  ⟨js "ghost-log", ⟨0, Nat.zero_le _⟩, ⟨0, Nat.zero_le _⟩, emptyRoot, otherRoot, []⟩

def grown : WitnessConsistencyProof :=
  let root : HexDigest := ⟨researchMerkleParentHash fips180 otherRoot.val emptyRoot.val,
    fips180.isHex64_sha256Hex _⟩
  ⟨js "ghost-log", ⟨2, by decide⟩, ⟨3, by decide⟩, root,
    ⟨researchMerkleParentHash fips180 root.val otherRoot.val, fips180.isHex64_sha256Hex _⟩,
    [otherRoot]⟩

end Sample

/-- The command line accepts a forged root of an empty tree that the library
refuses. -/
theorem verifyResearchMerkleConsistencyProof_forged :
    ∃ proof, validateResearchWitnessConsistencyProofShape decimalText
        (.object Sample.forged.toEntries) = .ok proof ∧
      verifyResearchMerkleConsistencyProof fips180 decimalText
        (.object Sample.forged.toEntries) = .ok true ∧
      libraryVerdict fips180 proof = false := by
  have wellShaped := validateResearchWitnessConsistencyProofShape_toEntries decimalText
    (by decide : Sample.forged.log_id ≠ [])
  refine ⟨_, wellShaped, ?_, ?_⟩
  · rw [verifyResearchMerkleConsistencyProof, wellShaped]
    simp [verifyShapedConsistencyProof, Sample.forged, Sample.emptyRoot, pure, Except.pure]
  · decide +kernel

/-- Two leaves and a third: both recursions run, and both accept. -/
theorem verifyResearchMerkleConsistencyProof_eq_library_grown :
    libraryVerdict fips180 Sample.grown = true ∧
      verifyResearchMerkleConsistencyProof fips180 decimalText
        (.object Sample.grown.toEntries) = .ok (libraryVerdict fips180 Sample.grown) :=
  ⟨by decide +kernel, (verifyResearchMerkleConsistencyProof_eq_library_iff fips180 decimalText
    (validateResearchWitnessConsistencyProofShape_toEntries decimalText
      (by decide : Sample.grown.log_id ≠ []))).mpr fun forged => absurd forged.1 (by decide)⟩

end GhostArk.Tools
