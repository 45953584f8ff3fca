import GhostArk.Lib.Search
import GhostArk.ResearchFrontier.WitnessCheckpoint

/-!
Contract: `packages/research-frontier/src/witnessFraudProof.ts`.

Owns single-witness and federation split-view proofs, their verifiers with the
whole check trail, and the two detectors: grouping under a JSON tuple key, then
the first pair `i < j` of a group whose proof verifies.
-/

namespace GhostArk.ResearchFrontier.Witness

open Js
open Lib

def splitViewFraudProofSchemaVersion : JsString :=
  js "ghostark.research.witness_split_view_fraud_proof.v1"

structure SplitViewFraudProof where
  schema_version : JsString
  log_id : JsString
  witness_id : JsString
  tree_size : JsNumber
  checkpoint_a : WitnessCheckpoint
  checkpoint_b : WitnessCheckpoint
deriving DecidableEq, Repr

structure FraudProofVerification where
  valid : Bool
  checks : List Check
deriving DecidableEq, Repr

/-- A trail is valid when every check passed. -/
def FraudProofVerification.ofChecks (checks : List Check) : FraudProofVerification :=
  ⟨checks.all (·.passed), checks⟩

def checkLine (name : String) (passed : Bool) (whenPassed whenFailed : JsString) : Check :=
  ⟨js name, passed, if passed then whenPassed else whenFailed⟩

section

variable (runtime : Runtime)

/-- Only the first entry of the witness is looked at. -/
def witnessSignatureVerifies (checkpoint : WitnessCheckpoint) (witnessId : JsString)
    (manifest : WitnessKeyManifest) : Except JsError Bool :=
  match checkpoint.witness_signatures.find? fun signature => signature.witness_id = witnessId with
  | none => return false
  | some signature => signatureEntryVerifies runtime checkpoint signature manifest

def sameLogCheck (logId : JsString) (a b : WitnessCheckpoint) : Check :=
  checkLine "same_log" (a.log_id = logId && b.log_id = logId)
    (js "Both heads bind log " ++ logId ++ js ".") (js "Checkpoints do not share the claimed log_id.")

def sameTreeSizeCheck (treeSize : JsNumber) (a b : WitnessCheckpoint) : Check :=
  checkLine "same_tree_size" (a.tree_size.strictEq treeSize && b.tree_size.strictEq treeSize)
    (js "Both heads assert tree_size " ++ runtime.numbers.string treeSize ++ js ".")
    (js "Checkpoints do not share the claimed tree_size.")

def verifySplitViewFraudProof (proof : SplitViewFraudProof) (manifest : WitnessKeyManifest) :
    Except JsError FraudProofVerification := do
  let a := proof.checkpoint_a
  let b := proof.checkpoint_b
  let aSigned ← witnessSignatureVerifies runtime a proof.witness_id manifest
  let bSigned ← witnessSignatureVerifies runtime b proof.witness_id manifest
  return .ofChecks [
    checkLine "schema" (proof.schema_version = splitViewFraudProofSchemaVersion)
      (js "Fraud proof schema is supported.")
      (js "Unsupported schema " ++ proof.schema_version ++ js "."),
    sameLogCheck proof.log_id a b,
    sameTreeSizeCheck runtime proof.tree_size a b,
    checkLine "roots_differ" (a.root_hash ≠ b.root_hash)
      (js "Conflicting roots " ++ a.root_hash.take 16 ++ js "… vs " ++ b.root_hash.take 16 ++
        js "….")
      (js "Roots are identical; no equivocation."),
    checkLine "signature_a" aSigned (js "Witness " ++ proof.witness_id ++ js " signed head A.")
      (js "Witness signature on head A does not verify."),
    checkLine "signature_b" bSigned (js "Witness " ++ proof.witness_id ++ js " signed head B.")
      (js "Witness signature on head B does not verify.")]

structure WitnessGroup where
  logId : JsString
  witnessId : JsString
  treeSize : JsNumber
  checkpoints : List WitnessCheckpoint
deriving DecidableEq, Repr

/-- `JSON.stringify([log_id, witness_id, tree_size])`. -/
def witnessGroupKey (logId witnessId : JsString) (treeSize : JsNumber) : JsString :=
  jsonArray [quote logId, quote witnessId, runtime.numbers.json treeSize]

def addToWitnessGroup (checkpoint : WitnessCheckpoint)
    (groups : InsertionMap JsString WitnessGroup) (signature : WitnessSignature) :
    InsertionMap JsString WitnessGroup :=
  let key := witnessGroupKey runtime checkpoint.log_id signature.witness_id checkpoint.tree_size
  let group := (groups.get? key).getD
    ⟨checkpoint.log_id, signature.witness_id, checkpoint.tree_size, []⟩
  groups.set key { group with checkpoints := group.checkpoints ++ [checkpoint] }

def witnessGroups (checkpoints : List WitnessCheckpoint) : InsertionMap JsString WitnessGroup :=
  checkpoints.foldl
    (fun groups checkpoint =>
      checkpoint.witness_signatures.foldl (addToWitnessGroup runtime checkpoint) groups)
    InsertionMap.empty

def WitnessGroup.candidates (group : WitnessGroup) : List SplitViewFraudProof :=
  (orderedPairs group.checkpoints).filterMap fun (first, second) =>
    if first.root_hash = second.root_hash then none
    else
      some {
        schema_version := splitViewFraudProofSchemaVersion
        log_id := group.logId
        witness_id := group.witnessId
        tree_size := group.treeSize
        checkpoint_a := first
        checkpoint_b := second }

/-- Everything `detectSplitView` would try, in the order of its loops. -/
def splitViewCandidates (checkpoints : List WitnessCheckpoint) : List SplitViewFraudProof :=
  (witnessGroups runtime checkpoints).values.flatMap WitnessGroup.candidates

def splitViewProofValid (manifest : WitnessKeyManifest) (proof : SplitViewFraudProof) :
    Except JsError Bool :=
  return (← verifySplitViewFraudProof runtime proof manifest).valid

def detectSplitView (checkpoints : List WitnessCheckpoint) (manifest : WitnessKeyManifest) :
    Except JsError (Option SplitViewFraudProof) :=
  findFirst (splitViewProofValid runtime manifest) (splitViewCandidates runtime checkpoints)

/-! ### Federation proofs -/

def federationSplitViewProofSchemaVersion : JsString :=
  js "ghostark.research.witness_federation_split_view_proof.v1"

structure FederationSplitViewProof where
  schema_version : JsString
  log_id : JsString
  tree_size : JsNumber
  quorum : JsNumber
  checkpoint_a : WitnessCheckpoint
  checkpoint_b : WitnessCheckpoint
deriving DecidableEq, Repr

/-- The loop of `countValidWitnesses`; `valid` is the set of witness ids. -/
def collectValidWitnesses (checkpoint : WitnessCheckpoint) (manifest : WitnessKeyManifest) :
    List WitnessSignature → List JsString → Except JsError (List JsString)
  | [], valid => return valid
  | signature :: rest, valid => do
    if ← witnessSignatureVerifies runtime checkpoint signature.witness_id manifest then
      collectValidWitnesses checkpoint manifest rest (valid.insert signature.witness_id)
    else collectValidWitnesses checkpoint manifest rest valid

def countValidWitnesses (checkpoint : WitnessCheckpoint) (manifest : WitnessKeyManifest) :
    Except JsError Nat :=
  return (← collectValidWitnesses runtime checkpoint manifest checkpoint.witness_signatures
    []).length

/-- `quorumOk && countValidWitnesses(checkpoint, manifest) >= quorum`. -/
def meetsQuorum (quorumOk : Bool) (quorum : JsNumber) (checkpoint : WitnessCheckpoint)
    (manifest : WitnessKeyManifest) : Except JsError Bool :=
  if quorumOk then
    return quorum.le (.ofNat (← countValidWitnesses runtime checkpoint manifest))
  else return false

/-- `Number.isSafeInteger(quorum) && quorum >= 1`. -/
def isPositiveQuorum (quorum : JsNumber) : Bool :=
  quorum.safeInteger?.isSome && JsNumber.le (.ofNat 1) quorum

def verifyFederationSplitViewProof (proof : FederationSplitViewProof)
    (manifest : WitnessKeyManifest) : Except JsError FraudProofVerification := do
  let a := proof.checkpoint_a
  let b := proof.checkpoint_b
  let quorumOk := isPositiveQuorum proof.quorum
  let aQuorum ← meetsQuorum runtime quorumOk proof.quorum a manifest
  let bQuorum ← meetsQuorum runtime quorumOk proof.quorum b manifest
  return .ofChecks [
    checkLine "schema" (proof.schema_version = federationSplitViewProofSchemaVersion)
      (js "Federation fraud proof schema is supported.")
      (js "Unsupported schema " ++ proof.schema_version ++ js "."),
    checkLine "quorum_configured" quorumOk
      (js "Quorum " ++ runtime.numbers.string proof.quorum ++ js ".")
      (js "Quorum must be a positive integer."),
    sameLogCheck proof.log_id a b,
    sameTreeSizeCheck runtime proof.tree_size a b,
    checkLine "roots_differ" (a.root_hash ≠ b.root_hash)
      (js "Conflicting roots at the same size.") (js "Roots are identical; no equivocation."),
    checkLine "quorum_a" aQuorum (js "Head A meets quorum.")
      (js "Head A does not meet quorum of valid witnesses."),
    checkLine "quorum_b" bQuorum (js "Head B meets quorum.")
      (js "Head B does not meet quorum of valid witnesses.")]

/-- One checkpoint joins its group, keyed by `JSON.stringify([log_id, tree_size])`. -/
def addToFederationGroup (groups : InsertionMap JsString (List WitnessCheckpoint))
    (checkpoint : WitnessCheckpoint) : InsertionMap JsString (List WitnessCheckpoint) :=
  let key := jsonArray [quote checkpoint.log_id, runtime.numbers.json checkpoint.tree_size]
  groups.set key ((groups.get? key).getD [] ++ [checkpoint])

def federationGroupCandidates (quorum : JsNumber) (bucket : List WitnessCheckpoint) :
    List FederationSplitViewProof :=
  (orderedPairs bucket).filterMap fun (first, second) =>
    if first.root_hash = second.root_hash then none
    else
      some {
        schema_version := federationSplitViewProofSchemaVersion
        log_id := first.log_id
        tree_size := first.tree_size
        quorum
        checkpoint_a := first
        checkpoint_b := second }

/-- Everything `detectFederationSplitView` would try, in the order of its loops. -/
def federationCandidates (checkpoints : List WitnessCheckpoint) (quorum : JsNumber) :
    List FederationSplitViewProof :=
  (checkpoints.foldl (addToFederationGroup runtime) InsertionMap.empty).values.flatMap
    (federationGroupCandidates quorum)

def federationProofValid (manifest : WitnessKeyManifest) (proof : FederationSplitViewProof) :
    Except JsError Bool :=
  return (← verifyFederationSplitViewProof runtime proof manifest).valid

def detectFederationSplitView (checkpoints : List WitnessCheckpoint)
    (manifest : WitnessKeyManifest) (quorum : JsNumber) :
    Except JsError (Option FederationSplitViewProof) :=
  findFirst (federationProofValid runtime manifest) (federationCandidates runtime checkpoints quorum)

end

end GhostArk.ResearchFrontier.Witness
