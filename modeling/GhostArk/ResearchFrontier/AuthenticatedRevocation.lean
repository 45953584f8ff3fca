import GhostArk.ResearchFrontier.WitnessFraudProof

/-!
Contract: `packages/research-frontier/src/authenticatedRevocation.ts`.

Owns the canonical revocation record, the quorum count, and the enforcement
decision with its early returns, check trail and result record, in the order of
the source. Steps of the source that throw are errors here.
-/

namespace GhostArk.ResearchFrontier.AuthenticatedRevocation

open Js
open ResearchFrontier.Merkle
open ResearchFrontier.Witness

def authenticatedRevocationSchemaVersion : JsString :=
  js "ghostark.research.authenticated_revocation.v1"

def ledgerRevocationRecordSchemaVersion : JsString :=
  js "ghostark.research.ledger_revocation_record.v1"

structure LedgerRevocationRecord where
  schema_version : JsString
  type : JsString
  key_id : JsString
  reason : Option JsString
deriving DecidableEq, Repr

/-- Members appear in sorted key order. -/
def canonicalRevocationRecordPayload (record : LedgerRevocationRecord) :
    Except JsError JsString := do
  if record.schema_version ≠ ledgerRevocationRecordSchemaVersion then
    throw (.plain (js "Revocation record schema_version is unsupported"))
  if record.type ≠ js "key_revocation" then
    throw (.plain (js "Revocation record type must be key_revocation"))
  if record.key_id.length = 0 then
    throw (.plain (js "Revocation record key_id must be a non-empty string"))
  return jsonObject
    ([(js "key_id", quote record.key_id)] ++
      (record.reason.toList.map fun reason => (js "reason", quote reason)) ++
      [(js "schema_version", quote record.schema_version), (js "type", quote record.type)])

/-- The record of a key with an optional reason, as the enforcement rebuilds it. -/
def keyRevocationRecord (keyId : JsString) (reason : Option JsString) : LedgerRevocationRecord :=
  ⟨ledgerRevocationRecordSchemaVersion, js "key_revocation", keyId, reason⟩

structure CheckpointInclusion where
  checkpoint : WitnessCheckpoint
  leafPayload : JsString
  proof : MerkleInclusionProof
deriving DecidableEq, Repr

structure RevocationInclusion extends CheckpointInclusion where
  keyId : JsString
deriving DecidableEq, Repr

structure AuthenticatedRevocationInput where
  keyId : JsString
  receiptTimestamp : Option JsString
  trustRoot : WitnessKeyManifest
  witnessQuorum : JsNumber
  inclusion : CheckpointInclusion
  revocation : RevocationInclusion
  consistency : MerkleConsistencyProof
  observedCheckpoints : Option (List WitnessCheckpoint)
deriving DecidableEq, Repr

inductive AuthenticatedRevocationStanding where
  | valid_pre_revocation
  | rejected_post_revocation
  | rejected_unauthenticated
  | rejected_unprovable
  | rejected_equivocation
deriving DecidableEq, Repr

structure AuthenticatedRevocationResult where
  schemaVersion : JsString
  verdict : Bool
  standing : AuthenticatedRevocationStanding
  receiptLeafIndex : Option JsNumber
  revocationLeafIndex : Option JsNumber
  equivocationProof : Option SplitViewFraudProof
  federationEquivocationProof : Option FederationSplitViewProof
  backdatingSuspected : Bool
  checks : List Check
  detail : JsString
  nonClaim : JsString
deriving DecidableEq, Repr

def NON_CLAIM : JsString :=
  js "Binds revocation to authenticated append-only ledger position under the honest-witness-quorum assumption. " ++
    js "Does not prove key custody, semantic correctness, or that the configured witness set is honest."

def reject (standing : AuthenticatedRevocationStanding) (detail : JsString) (checks : List Check) :
    AuthenticatedRevocationResult where
  schemaVersion := authenticatedRevocationSchemaVersion
  verdict := false
  standing
  receiptLeafIndex := none
  revocationLeafIndex := none
  equivocationProof := none
  federationEquivocationProof := none
  backdatingSuspected := false
  checks
  detail
  nonClaim := NON_CLAIM

section

variable (runtime : Runtime)

/-- The loop of `countQuorumWitnesses`; `valid` is the set of witness ids. -/
def collectQuorumWitnesses (checkpoint : WitnessCheckpoint) (manifest : WitnessKeyManifest) :
    List WitnessSignature → List JsString → Except JsError (List JsString)
  | [], valid => return valid
  | signature :: rest, valid => do
    if ← signatureEntryVerifies runtime checkpoint signature manifest then
      collectQuorumWitnesses checkpoint manifest rest (valid.insert signature.witness_id)
    else collectQuorumWitnesses checkpoint manifest rest valid

def countQuorumWitnesses (checkpoint : WitnessCheckpoint) (manifest : WitnessKeyManifest) :
    Except JsError Nat :=
  return (← collectQuorumWitnesses runtime checkpoint manifest checkpoint.witness_signatures
    []).length

/-- `undefined` unless the payload parses to an object with a string `reason`. -/
def revocationRecordReason (leafPayload : JsString) : Option JsString :=
  match parse runtime.numbers leafPayload with
  | some (.object entries) =>
    match (entries.find? fun entry => entry.1 = js "reason").map Prod.snd with
    | some (.string reason) => some reason
    | _ => none
  | _ => none

/-! ### Enforcement -/

variable (input : AuthenticatedRevocationInput)

def text (number : JsNumber) : JsString := runtime.numbers.string number

/-- Steps 7 and 8: the backdating label and the ordering verdict. -/
def decideOrder (checks : List Check) : AuthenticatedRevocationResult :=
  let receiptLeafIndex := input.inclusion.proof.leaf_index
  let revocationLeafIndex := input.revocation.proof.leaf_index
  let backdatingSuspected :=
    match input.receiptTimestamp with
    | none => false
    | some timestamp =>
      let claimed := runtime.dates.parse timestamp
      let revocationSealed := runtime.dates.parse input.revocation.checkpoint.integrated_time
      claimed.isFinite && revocationSealed.isFinite && claimed.lt revocationSealed &&
        revocationLeafIndex.le receiptLeafIndex
  let backdatingCheck : List Check :=
    match input.receiptTimestamp with
    | none => []
    | some timestamp =>
      if backdatingSuspected then
        [⟨js "backdating_detector", false,
          js "Self-reported timestamp " ++ timestamp ++
            js " claims pre-revocation, but authenticated ledger position (" ++
            text runtime receiptLeafIndex ++ js ") is at or after revocation (" ++
            text runtime revocationLeafIndex ++ js "). Backdating suspected."⟩]
      else [⟨js "backdating_detector", true, js "No clock-vs-ledger contradiction detected."⟩]
  let pre := receiptLeafIndex.lt revocationLeafIndex
  let orderCheck : Check :=
    ⟨js "authenticated_order", pre,
      if pre then
        js "Receipt index " ++ text runtime receiptLeafIndex ++ js " precedes revocation index " ++
          text runtime revocationLeafIndex ++ js "."
      else
        js "Receipt index " ++ text runtime receiptLeafIndex ++
          js " is at or after revocation index " ++ text runtime revocationLeafIndex ++ js "."⟩
  { schemaVersion := authenticatedRevocationSchemaVersion
    verdict := pre
    standing := if pre then .valid_pre_revocation else .rejected_post_revocation
    receiptLeafIndex := some receiptLeafIndex
    revocationLeafIndex := some revocationLeafIndex
    equivocationProof := none
    federationEquivocationProof := none
    backdatingSuspected
    checks := checks ++ backdatingCheck ++ [orderCheck]
    detail :=
      if pre then js "Receipt was committed to the authenticated log before the revocation record."
      else js "Receipt was committed to the authenticated log at or after revocation; rejected regardless of its self-reported timestamp."
    nonClaim := NON_CLAIM }

/-- The checkpoint of the smaller tree, then that of the larger. -/
def earlierAndLater : WitnessCheckpoint × WitnessCheckpoint :=
  let inclusionCp := input.inclusion.checkpoint
  let revocationCp := input.revocation.checkpoint
  if inclusionCp.tree_size.le revocationCp.tree_size then (inclusionCp, revocationCp)
  else (revocationCp, inclusionCp)

/-- Step 6: the smaller root is a prefix of the larger. -/
def consistencyOk : Bool :=
  let earlier := (earlierAndLater input).1
  let later := (earlierAndLater input).2
  input.consistency.old_tree_size.strictEq earlier.tree_size &&
    input.consistency.new_tree_size.strictEq later.tree_size &&
    verifyConsistencyProof runtime.sha256 earlier.root_hash later.root_hash input.consistency

/-- An inclusion proof against the root of its own checkpoint. -/
def includedInCheckpoint (inclusion : CheckpointInclusion) : Bool :=
  inclusion.proof.root_hash = inclusion.checkpoint.root_hash &&
    verifyInclusionProof runtime.sha256 inclusion.leafPayload inclusion.proof
      (some inclusion.checkpoint.root_hash)

/-- Steps 4 to 6: both positions and the consistency proof. -/
def checkPositions (checks : List Check) : Except JsError AuthenticatedRevocationResult := do
  let receiptLeafIndex := input.inclusion.proof.leaf_index
  let revocationLeafIndex := input.revocation.proof.leaf_index
  if !includedInCheckpoint runtime input.inclusion then
    return reject .rejected_unprovable (js "Receipt ledger position is unproven.")
      (checks ++ [⟨js "receipt_inclusion", false,
        js "Receipt leaf inclusion proof does not reconstruct the authenticated inclusion root."⟩])
  else
    let checks := checks ++ [⟨js "receipt_inclusion", true,
      js "Receipt leaf is authenticated at index " ++ text runtime receiptLeafIndex ++ js "."⟩]
    let expectedRevocationPayload ← canonicalRevocationRecordPayload
      (keyRevocationRecord input.keyId (revocationRecordReason runtime input.revocation.leafPayload))
    if input.revocation.leafPayload ≠ expectedRevocationPayload then
      return { reject .rejected_unprovable
          (js "Revocation leaf is not a well-formed revocation record for the signing key.")
          (checks ++ [⟨js "revocation_record_shape", false,
            js "Revocation leaf payload is not the canonical key_revocation record for this key."⟩])
        with receiptLeafIndex := some receiptLeafIndex }
    else if !includedInCheckpoint runtime input.revocation.toCheckpointInclusion then
      return { reject .rejected_unprovable (js "Revocation ledger position is unproven.")
          (checks ++ [⟨js "revocation_inclusion", false,
            js "Revocation leaf inclusion proof does not reconstruct the authenticated revocation root."⟩])
        with receiptLeafIndex := some receiptLeafIndex }
    else
      let checks := checks ++ [⟨js "revocation_inclusion", true,
        js "Revocation record is authenticated at index " ++ text runtime revocationLeafIndex ++
          js "."⟩]
      if !consistencyOk runtime input then
        return { reject .rejected_unprovable
            (js "Cannot prove the two checkpoints are the same append-only log.")
            (checks ++ [⟨js "append_only_consistency", false,
              js "Consistency proof does not bind the two checkpoints into one append-only log."⟩])
          with
            receiptLeafIndex := some receiptLeafIndex
            revocationLeafIndex := some revocationLeafIndex }
      else
        return decideOrder runtime input (checks ++ [⟨js "append_only_consistency", true,
          js "Checkpoints are consistent: tree_size " ++
            text runtime (earlierAndLater input).1.tree_size ++ js " is a prefix of " ++
            text runtime (earlierAndLater input).2.tree_size ++ js "."⟩])

def checkpointSet : List WitnessCheckpoint :=
  [input.inclusion.checkpoint, input.revocation.checkpoint] ++ input.observedCheckpoints.getD []

/-- Step 3b: a found fork of the decision's own log rejects. -/
def checkEquivocation (checks : List Check) : Except JsError AuthenticatedRevocationResult := do
  let logId := input.inclusion.checkpoint.log_id
  let singleWitnessProof ← detectSplitView runtime (checkpointSet input) input.trustRoot
  match singleWitnessProof.filter fun proof => proof.log_id = logId with
  | some proof =>
    return { reject .rejected_equivocation
        (js "Single-witness log equivocation detected; authenticated order is untrustworthy.")
        (checks ++ [⟨js "no_equivocation", false,
          js "Witness " ++ proof.witness_id ++ js " equivocated at tree_size " ++
            text runtime proof.tree_size ++ js " on log " ++ proof.log_id ++ js "."⟩])
      with equivocationProof := some proof }
  | none =>
    let federationProof ← detectFederationSplitView runtime (checkpointSet input) input.trustRoot
      input.witnessQuorum
    match federationProof.filter fun proof => proof.log_id = logId with
    | some proof =>
      return { reject .rejected_equivocation
          (js "Federation-level log equivocation detected; authenticated order is untrustworthy.")
          (checks ++ [⟨js "no_equivocation", false,
            js "Federation served conflicting quorum-signed heads at tree_size " ++
              text runtime proof.tree_size ++ js " on log " ++ proof.log_id ++ js "."⟩])
        with federationEquivocationProof := some proof }
    | none =>
      checkPositions runtime input (checks ++ [⟨js "no_equivocation", true,
        js "No single-witness or federation split view detected in the checkpoint set."⟩])

def checkQuorum (checks : List Check) : Except JsError AuthenticatedRevocationResult := do
  let inclusionWitnesses ← countQuorumWitnesses runtime input.inclusion.checkpoint input.trustRoot
  let revocationWitnesses ← countQuorumWitnesses runtime input.revocation.checkpoint input.trustRoot
  if JsNumber.lt (.ofNat inclusionWitnesses) input.witnessQuorum ||
      JsNumber.lt (.ofNat revocationWitnesses) input.witnessQuorum then
    return reject .rejected_unauthenticated
      (js "Checkpoint witness quorum not met; roots are not authenticated.")
      (checks ++ [⟨js "witness_quorum", false,
        js "Quorum " ++ text runtime input.witnessQuorum ++ js " not met: inclusion has " ++
          text runtime (.ofNat inclusionWitnesses) ++ js ", revocation has " ++
          text runtime (.ofNat revocationWitnesses) ++ js " distinct valid witnesses."⟩])
  else
    checkEquivocation runtime input (checks ++ [⟨js "witness_quorum", true,
      js "Both checkpoints meet quorum " ++ text runtime input.witnessQuorum ++
        js " (inclusion " ++ text runtime (.ofNat inclusionWitnesses) ++ js ", revocation " ++
        text runtime (.ofNat revocationWitnesses) ++ js ")."⟩])

def enforceAuthenticatedLedgerRevocation : Except JsError AuthenticatedRevocationResult :=
  let inclusionCp := input.inclusion.checkpoint
  let revocationCp := input.revocation.checkpoint
  match validateWitnessKeyManifestSemantics runtime input.trustRoot with
  | .error error =>
    return reject .rejected_unauthenticated (js "Trust root witness key manifest is invalid.")
      [⟨js "trust_root", false, error.message⟩]
  | .ok _ =>
    if input.witnessQuorum.safeInteger? = none ∨ input.witnessQuorum.lt (.ofNat 1) then
      return reject .rejected_unauthenticated (js "Witness quorum must be a positive integer.")
        [⟨js "quorum_configured", false,
          js "Invalid witnessQuorum " ++ text runtime input.witnessQuorum ++ js "."⟩]
    else
      let checks : List Check :=
        [⟨js "trust_root", true, js "Trust root manifest is well-formed."⟩]
      if input.keyId ≠ input.revocation.keyId then
        return reject .rejected_unprovable
          (js "Revocation record does not apply to the signing key.")
          (checks ++ [⟨js "key_scope", false,
            js "Revocation targets " ++ input.revocation.keyId ++ js ", not signing key " ++
              input.keyId ++ js "."⟩])
      else
        let checks := checks ++ [⟨js "key_scope", true,
          js "Revocation record applies to signing key " ++ input.keyId ++ js "."⟩]
        if inclusionCp.log_id ≠ revocationCp.log_id then
          return reject .rejected_unauthenticated
            (js "Checkpoints belong to different logs; order is undefined.")
            (checks ++ [⟨js "same_log", false,
              js "Inclusion log " ++ inclusionCp.log_id ++ js " != revocation log " ++
                revocationCp.log_id ++ js "."⟩])
        else
          checkQuorum runtime input (checks ++ [⟨js "same_log", true,
            js "Both checkpoints are for log " ++ inclusionCp.log_id ++ js "."⟩])

/-- The call returns, and its standing is `valid_pre_revocation`. -/
def acceptsPreRevocation : Bool :=
  match enforceAuthenticatedLedgerRevocation runtime input with
  | .ok result => result.standing = .valid_pre_revocation
  | .error _ => false

end

end GhostArk.ResearchFrontier.AuthenticatedRevocation
