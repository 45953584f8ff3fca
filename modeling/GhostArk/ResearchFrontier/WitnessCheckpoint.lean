import GhostArk.Js.Json
import GhostArk.ResearchFrontier.Merkle

/-!
Contract: `packages/research-frontier/src/witnessCheckpoint.ts`, verifier side.

Owns checkpoints, key manifests and their semantic validation, the epoch check
of a witness key, the signed payload of a checkpoint, the check of one
signature entry that the quorum counter and the fraud-proof detectors share, and
the check of all entries.

Does not own: key generation, signing, or the creation of checkpoints.
-/

namespace GhostArk.ResearchFrontier.Witness

open Js

structure WitnessSignature where
  witness_id : JsString
  signature_algorithm : JsString
  signature : JsString
deriving DecidableEq, Repr

structure WitnessCheckpoint where
  schema_version : JsString
  log_id : JsString
  tree_size : JsNumber
  root_hash : JsString
  integrated_time : JsString
  witness_signatures : List WitnessSignature
deriving DecidableEq, Repr

structure WitnessKeyManifestEntry where
  witness_id : JsString
  signature_algorithm : JsString
  public_key_pem : JsString
  valid_from : JsString
  valid_until : Option JsString
  status : JsString
  revoked_at : Option JsString
deriving DecidableEq, Repr

structure WitnessKeyManifest where
  schema_version : JsString
  generated_at : JsString
  witnesses : List WitnessKeyManifestEntry
deriving DecidableEq, Repr

structure Check where
  name : JsString
  passed : Bool
  detail : JsString
deriving DecidableEq, Repr

section

variable (runtime : Runtime)

/-- `value ? Date.parse(value) : undefined`; an empty string is falsy. -/
def parseOptionalDate (value : Option JsString) : Option JsNumber :=
  match value with
  | none => none
  | some text => if text = [] then none else some (runtime.dates.parse text)

def validateManifestEntry (index : Nat) (witness : WitnessKeyManifestEntry) :
    Except JsError Unit := do
  let identity := witness.witness_id ++ js ":" ++ witness.signature_algorithm
  if witness.witness_id = [] then
    throw (.plain (js "Witness key manifest entry " ++ runtime.numbers.string (.ofNat index) ++
      js " requires witness_id"))
  if witness.signature_algorithm ≠ js "ecdsa-p256-sha256" then
    throw (.plain (js "Unsupported witness signature algorithm " ++ witness.signature_algorithm))
  if witness.public_key_pem = [] then
    throw (.plain (js "Witness key manifest entry " ++ identity ++ js " requires public_key_pem"))
  if witness.status ∉ [js "ACTIVE", js "DEPRECATED", js "REVOKED"] then
    throw (.plain (js "Witness key manifest entry " ++ identity ++ js " has unsupported status"))
  let validFrom := runtime.dates.parse witness.valid_from
  if !validFrom.isFinite then
    throw (.plain (js "Witness key manifest entry " ++ identity ++
      js " valid_from must be a date-time"))
  if let some validUntil := parseOptionalDate runtime witness.valid_until then
    if validUntil.le validFrom then
      throw (.plain (js "Witness key manifest entry " ++ identity ++
        js " valid_until must be later than valid_from"))
  if let some revokedAt := parseOptionalDate runtime witness.revoked_at then
    if revokedAt.lt validFrom then
      throw (.plain (js "Witness key manifest entry " ++ identity ++
        js " revoked_at cannot be earlier than valid_from"))

/-- The loop over the entries; `seen` holds the identities met so far. -/
def validateManifestEntries : Nat → List JsString → List WitnessKeyManifestEntry →
    Except JsError Unit
  | _, _, [] => return
  | index, seen, witness :: rest => do
    let identity := witness.witness_id ++ js ":" ++ witness.signature_algorithm
    if identity ∈ seen then
      throw (.plain (js "Duplicate witness key manifest entry for " ++ identity))
    validateManifestEntry runtime index witness
    validateManifestEntries (index + 1) (identity :: seen) rest

def validateWitnessKeyManifestSemantics (manifest : WitnessKeyManifest) : Except JsError Unit := do
  if manifest.schema_version ≠ js "ghostark.research.witness_key_manifest.v1" then
    throw (.plain (js "Witness key manifest schema_version is unsupported"))
  if !(runtime.dates.parse manifest.generated_at).isFinite then
    throw (.plain (js "Witness key manifest generated_at must be a date-time"))
  if manifest.witnesses.length = 0 then
    throw (.plain (js "Witness key manifest requires at least one witness"))
  validateManifestEntries runtime 0 [] manifest.witnesses

/-! ### Key epochs -/

def findWitnessKeyManifestEntry (manifest : WitnessKeyManifest) (witnessId : JsString)
    (signatureAlgorithm : JsString) : Option WitnessKeyManifestEntry :=
  (manifest.witnesses.find? fun entry =>
      entry.witness_id = witnessId ∧ entry.signature_algorithm = signatureAlgorithm).or
    (manifest.witnesses.find? fun entry => entry.witness_id = witnessId)

def epochCheck (passed : Bool) (detail : JsString) : Check :=
  ⟨js "witness_key_manifest", passed, detail⟩

def atOrAfter (observed limit : JsNumber) : Bool := limit.le observed

def verifyEntryEpoch (entry : WitnessKeyManifestEntry) (signatureAlgorithm : JsString)
    (integratedTime : JsString) : Check :=
  let observed := runtime.dates.parse integratedTime
  let validFrom := runtime.dates.parse entry.valid_from
  let validUntil := (parseOptionalDate runtime entry.valid_until).getD .positiveInfinity
  let revokedAt := parseOptionalDate runtime entry.revoked_at
  if entry.signature_algorithm ≠ signatureAlgorithm then
    epochCheck false (js "Witness algorithm mismatch. Expected " ++ entry.signature_algorithm ++
      js "; observed " ++ signatureAlgorithm ++ js ".")
  else if !observed.isFinite then
    epochCheck false (js "Checkpoint integrated_time is not parseable: " ++ integratedTime ++ js ".")
  else if observed.lt validFrom then
    epochCheck false (js "Checkpoint integrated_time " ++ integratedTime ++
      js " is before witness valid_from " ++ entry.valid_from ++ js ".")
  else if atOrAfter observed validUntil then
    epochCheck false (js "Checkpoint integrated_time " ++ integratedTime ++
      js " is not before witness valid_until " ++ entry.valid_until.getD (js "undefined") ++ js ".")
  else if entry.status = js "REVOKED" ∧ revokedAt = none then
    epochCheck false (js "Witness " ++ entry.witness_id ++
      js " is revoked without a revoked_at timestamp.")
  else if revokedAt.any (atOrAfter observed) then
    epochCheck false (js "Checkpoint integrated_time " ++ integratedTime ++
      js " is at or after witness revoked_at " ++ entry.revoked_at.getD (js "undefined") ++ js ".")
  else
    epochCheck true
      (if entry.status = js "REVOKED" then
        js "Witness " ++ entry.witness_id ++ js " was revoked after this historical checkpoint."
      else
        js "Witness " ++ entry.witness_id ++ js " is " ++ entry.status ++
          js " for the checkpoint integrated_time.")

def verifyWitnessKeyManifestEpoch (manifest : WitnessKeyManifest) (witnessId : JsString)
    (signatureAlgorithm : JsString) (integratedTime : JsString) : Check :=
  match validateWitnessKeyManifestSemantics runtime manifest with
  | .error error => epochCheck false (js "Witness key manifest is invalid: " ++ error.message)
  | .ok _ =>
    match findWitnessKeyManifestEntry manifest witnessId signatureAlgorithm with
    | none =>
      epochCheck false (js "No witness key manifest entry exists for witness " ++ witnessId ++
        js ".")
    | some entry => verifyEntryEpoch runtime entry signatureAlgorithm integratedTime

def canonicalCheckpointPayload (numbers : NumberText) (checkpoint : WitnessCheckpoint) : JsString :=
  jsonObject [
    (js "integrated_time", quote checkpoint.integrated_time),
    (js "log_id", quote checkpoint.log_id),
    (js "root_hash", quote checkpoint.root_hash),
    (js "schema_version", quote checkpoint.schema_version),
    (js "tree_size", numbers.json checkpoint.tree_size)]

def verifyCheckpointSignature (payload signature publicKeyPem : JsString) : Except JsError Bool :=
  runtime.verifySignature payload signature publicKeyPem

/-- One signature entry: its key's epoch covers the checkpoint and the signature
verifies over the canonical payload. -/
def signatureEntryVerifies (checkpoint : WitnessCheckpoint) (signature : WitnessSignature)
    (manifest : WitnessKeyManifest) : Except JsError Bool :=
  if !(verifyWitnessKeyManifestEpoch runtime manifest signature.witness_id
      signature.signature_algorithm checkpoint.integrated_time).passed then
    return false
  else
    match findWitnessKeyManifestEntry manifest signature.witness_id
        signature.signature_algorithm with
    | none => return false
    | some entry =>
      verifyCheckpointSignature runtime (canonicalCheckpointPayload runtime.numbers checkpoint)
        signature.signature entry.public_key_pem

/-- `every`: the first entry that fails or throws ends it. -/
def everySignatureVerifies (checkpoint : WitnessCheckpoint) (manifest : WitnessKeyManifest) :
    List WitnessSignature → Except JsError Bool
  | [] => return true
  | signature :: rest => do
    if ← signatureEntryVerifies runtime checkpoint signature manifest then
      everySignatureVerifies checkpoint manifest rest
    else return false

/-- Whatever throws is caught and answered with false. -/
def verifyWitnessCheckpointSignaturesWithManifest (checkpoint : WitnessCheckpoint)
    (manifest : WitnessKeyManifest) : Bool :=
  orFalse do
    validateWitnessKeyManifestSemantics runtime manifest
    everySignatureVerifies runtime checkpoint manifest checkpoint.witness_signatures

end

end GhostArk.ResearchFrontier.Witness
