import GhostArk.ResearchFrontier.FederationSplitView

/-!
Contract: when `enforceAuthenticatedLedgerRevocation` accepts.

Owns the split of the decision into the checks that do not read the gossip pool
and the two fork scans that do, stage by stage, and the effect of a larger pool.
-/

namespace GhostArk.ResearchFrontier.AuthenticatedRevocation

open Js
open Lib
open ResearchFrontier.Merkle
open ResearchFrontier.Witness

/-! ### Acceptance, stage by stage -/

/-- The stage returns with standing `valid_pre_revocation`. -/
def Accepts (outcome : Except JsError AuthenticatedRevocationResult) : Prop :=
  ∃ result, outcome = .ok result ∧ result.standing = .valid_pre_revocation

theorem accepts_return {result : AuthenticatedRevocationResult} :
    Accepts (return result) ↔ result.standing = .valid_pre_revocation := by
  constructor
  · rintro ⟨_, ⟨⟩, standing⟩
    exact standing
  · intro standing
    exact ⟨result, rfl, standing⟩

theorem accepts_bind {α : Type} {first : Except JsError α}
    {next : α → Except JsError AuthenticatedRevocationResult} :
    Accepts (first >>= next) ↔ ∃ value, first = .ok value ∧ Accepts (next value) := by
  cases first with
  | ok value => simp [ok_bind]
  | error error => simp [Accepts, error_bind]

section Stages

variable {runtime : Runtime} {input : AuthenticatedRevocationInput}

theorem acceptsPreRevocation_iff_accepts :
    acceptsPreRevocation runtime input = true ↔
      Accepts (enforceAuthenticatedLedgerRevocation runtime input) := by
  unfold acceptsPreRevocation
  split
  next result outcome => simp [outcome, Accepts]
  next error outcome => simp [outcome, Accepts]

theorem decideOrder_standing (checks : List Check) :
    (decideOrder runtime input checks).standing = .valid_pre_revocation ↔
      input.inclusion.proof.leaf_index.lt input.revocation.proof.leaf_index = true := by
  unfold decideOrder
  simp only
  split <;> simp_all

/-- What steps 4 to 8 require. -/
structure PositionsProven (runtime : Runtime) (input : AuthenticatedRevocationInput) : Prop where
  receiptIncluded : includedInCheckpoint runtime input.inclusion = true
  recordShape : canonicalRevocationRecordPayload (keyRevocationRecord input.keyId
    (revocationRecordReason runtime input.revocation.leafPayload)) =
      .ok input.revocation.leafPayload
  revocationIncluded :
    includedInCheckpoint runtime input.revocation.toCheckpointInclusion = true
  consistent : consistencyOk runtime input = true
  ordered : input.inclusion.proof.leaf_index.lt input.revocation.proof.leaf_index = true

theorem accepts_checkPositions_iff (checks : List Check) :
    Accepts (checkPositions runtime input checks) ↔ PositionsProven runtime input := by
  unfold checkPositions
  simp only
  split
  next excluded =>
    rw [accepts_return]
    constructor
    · intro standing
      simp [reject] at standing
    · intro proven
      simp [proven.receiptIncluded] at excluded
  next included =>
    rw [accepts_bind]
    constructor
    · rintro ⟨payload, payloadOk, accepted⟩
      split at accepted
      · simp [accepts_return, reject] at accepted
      next samePayload =>
        split at accepted
        · simp [accepts_return, reject] at accepted
        next revocationIncluded =>
          split at accepted
          · simp [accepts_return, reject] at accepted
          next consistent =>
            rw [accepts_return, decideOrder_standing] at accepted
            rw [ne_eq, not_not] at samePayload
            exact ⟨by simpa using included, samePayload ▸ payloadOk,
              by simpa using revocationIncluded, by simpa using consistent, accepted⟩
    · intro proven
      refine ⟨_, proven.recordShape, ?_⟩
      rw [if_neg (by simp), if_neg (by simp [proven.revocationIncluded]),
        if_neg (by simp [proven.consistent]), accepts_return, decideOrder_standing]
      exact proven.ordered

/-- Neither detector finds a fork of the decision's own log, and neither throws. -/
structure NoOwnFork (runtime : Runtime) (input : AuthenticatedRevocationInput) : Prop where
  single : ∃ found, detectSplitView runtime (checkpointSet input) input.trustRoot = .ok found ∧
    ∀ proof ∈ found, proof.log_id ≠ input.inclusion.checkpoint.log_id
  federation : ∃ found, detectFederationSplitView runtime (checkpointSet input) input.trustRoot
      input.witnessQuorum = .ok found ∧
    ∀ proof ∈ found, proof.log_id ≠ input.inclusion.checkpoint.log_id

private theorem filter_eq_none_iff {α : Type} {found : Option α} {own : α → Bool} :
    found.filter own = none ↔ ∀ proof ∈ found, own proof = false := by
  cases found <;> simp [Option.filter]

theorem accepts_checkEquivocation_iff (checks : List Check) :
    Accepts (checkEquivocation runtime input checks) ↔
      NoOwnFork runtime input ∧ PositionsProven runtime input := by
  unfold checkEquivocation
  simp only
  rw [accepts_bind]
  constructor
  · rintro ⟨single, singleOk, accepted⟩
    split at accepted
    · simp [accepts_return, reject] at accepted
    next singleForeign =>
      rw [accepts_bind] at accepted
      obtain ⟨federation, federationOk, accepted⟩ := accepted
      split at accepted
      · simp [accepts_return, reject] at accepted
      next federationForeign =>
        rw [filter_eq_none_iff] at singleForeign federationForeign
        exact ⟨⟨⟨single, singleOk, by simpa using singleForeign⟩,
          ⟨federation, federationOk, by simpa using federationForeign⟩⟩,
          (accepts_checkPositions_iff _).mp accepted⟩
  · rintro ⟨⟨⟨single, singleOk, singleForeign⟩, ⟨federation, federationOk, federationForeign⟩⟩,
      proven⟩
    have singleNone : single.filter (fun proof =>
        decide (proof.log_id = input.inclusion.checkpoint.log_id)) = none := by
      rw [filter_eq_none_iff]
      simpa using singleForeign
    have federationNone : federation.filter (fun proof =>
        decide (proof.log_id = input.inclusion.checkpoint.log_id)) = none := by
      rw [filter_eq_none_iff]
      simpa using federationForeign
    refine ⟨single, singleOk, ?_⟩
    rw [singleNone]
    simp only
    rw [accepts_bind]
    refine ⟨federation, federationOk, ?_⟩
    rw [federationNone]
    exact (accepts_checkPositions_iff _).mpr proven

/-- What steps 0 to 3 require. -/
structure CheckpointsAuthenticated (runtime : Runtime) (input : AuthenticatedRevocationInput) :
    Prop where
  trustRoot : validateWitnessKeyManifestSemantics runtime input.trustRoot = .ok ()
  quorumConfigured :
    ¬ (input.witnessQuorum.safeInteger? = none ∨ input.witnessQuorum.lt (.ofNat 1) = true)
  keyScope : input.keyId = input.revocation.keyId
  sameLog : input.inclusion.checkpoint.log_id = input.revocation.checkpoint.log_id
  inclusionQuorum : ∃ count,
    countQuorumWitnesses runtime input.inclusion.checkpoint input.trustRoot = .ok count ∧
      JsNumber.lt (.ofNat count) input.witnessQuorum = false
  revocationQuorum : ∃ count,
    countQuorumWitnesses runtime input.revocation.checkpoint input.trustRoot = .ok count ∧
      JsNumber.lt (.ofNat count) input.witnessQuorum = false

theorem accepts_checkQuorum_iff (checks : List Check) :
    Accepts (checkQuorum runtime input checks) ↔
      (∃ count,
        countQuorumWitnesses runtime input.inclusion.checkpoint input.trustRoot = .ok count ∧
          JsNumber.lt (.ofNat count) input.witnessQuorum = false) ∧
      (∃ count,
        countQuorumWitnesses runtime input.revocation.checkpoint input.trustRoot = .ok count ∧
          JsNumber.lt (.ofNat count) input.witnessQuorum = false) ∧
      NoOwnFork runtime input ∧ PositionsProven runtime input := by
  unfold checkQuorum
  rw [accepts_bind]
  constructor
  · rintro ⟨inclusionCount, inclusionOk, accepted⟩
    rw [accepts_bind] at accepted
    obtain ⟨revocationCount, revocationOk, accepted⟩ := accepted
    split at accepted
    · simp [accepts_return, reject] at accepted
    next enough =>
      rw [Bool.or_eq_true, not_or, Bool.not_eq_true, Bool.not_eq_true] at enough
      exact ⟨⟨inclusionCount, inclusionOk, enough.1⟩, ⟨revocationCount, revocationOk, enough.2⟩,
        (accepts_checkEquivocation_iff _).mp accepted⟩
  · rintro ⟨⟨inclusionCount, inclusionOk, inclusionEnough⟩,
      ⟨revocationCount, revocationOk, revocationEnough⟩, rest⟩
    refine ⟨inclusionCount, inclusionOk, ?_⟩
    rw [accepts_bind]
    refine ⟨revocationCount, revocationOk, ?_⟩
    rw [if_neg (by simp [inclusionEnough, revocationEnough])]
    exact (accepts_checkEquivocation_iff _).mpr rest

/-- **The decision.** A receipt is accepted exactly when both checkpoints are
authenticated, both positions are proven in order, and neither fork scan finds
the decision's own log. -/
theorem acceptsPreRevocation_iff :
    acceptsPreRevocation runtime input = true ↔
      CheckpointsAuthenticated runtime input ∧ PositionsProven runtime input ∧
        NoOwnFork runtime input := by
  rw [acceptsPreRevocation_iff_accepts]
  unfold enforceAuthenticatedLedgerRevocation
  simp only
  constructor
  · intro accepted
    split at accepted
    · simp [accepts_return, reject] at accepted
    next trusted =>
      split at accepted
      · simp [accepts_return, reject] at accepted
      next quorumConfigured =>
        split at accepted
        · simp [accepts_return, reject] at accepted
        next keyScope =>
          split at accepted
          · simp [accepts_return, reject] at accepted
          next sameLog =>
            rw [ne_eq, not_not] at keyScope sameLog
            rw [accepts_checkQuorum_iff] at accepted
            obtain ⟨inclusionQuorum, revocationQuorum, noFork, proven⟩ := accepted
            exact ⟨⟨trusted, quorumConfigured, keyScope, sameLog, inclusionQuorum,
              revocationQuorum⟩, proven, noFork⟩
  · rintro ⟨authenticated, proven, noFork⟩
    rw [authenticated.trustRoot]
    simp only
    rw [if_neg authenticated.quorumConfigured, if_neg (by simp [authenticated.keyScope]),
      if_neg (by simp [authenticated.sameLog]), accepts_checkQuorum_iff]
    exact ⟨authenticated.inclusionQuorum, authenticated.revocationQuorum, noFork, proven⟩

end Stages

section Gossip

variable (runtime : Runtime) (input : AuthenticatedRevocationInput)

def withPool (pool : List WitnessCheckpoint) : AuthenticatedRevocationInput :=
  { input with observedCheckpoints := some pool }

/-- The heads that a decision scans: the two it rests on, then the pool. -/
abbrev scannedHeads (pool : List WitnessCheckpoint) : List WitnessCheckpoint :=
  checkpointSet (withPool input pool)

/-- The first pair of signed heads that decides the single-witness scan is a fork of the decision's
own log, or a first entry on it throws. -/
def SingleScanStops (pool : List WitnessCheckpoint) : Prop :=
  ∃ pair, DecidesScan runtime input.trustRoot (signedHeads (scannedHeads input pool)) pair ∧
    (Shows runtime input.trustRoot (signedHeads (scannedHeads input pool)) pair →
      (signedHeads (scannedHeads input pool))[pair.1].checkpoint.log_id =
        input.inclusion.checkpoint.log_id)

/-- The first pair of heads that decides the federation scan is a fork of the decision's own log,
or a first entry on it throws. -/
def FederationScanStops (pool : List WitnessCheckpoint) : Prop :=
  ∃ pair, DecidesFederationScan runtime input.trustRoot input.witnessQuorum
      (scannedHeads input pool) pair ∧
    (FederationShows runtime input.trustRoot input.witnessQuorum (scannedHeads input pool) pair →
      (scannedHeads input pool)[pair.1].log_id = input.inclusion.checkpoint.log_id)

/-- A larger pool hides what the smaller one showed: every check outside the pool passes, a fork of
the own log or a failing key comes first in one scan of the smaller pool, and in the larger pool
each scan comes first, if to anything, to an equivocation of another log. -/
structure Masked (smaller larger : List WitnessCheckpoint) : Prop where
  authenticated : CheckpointsAuthenticated runtime input
  proven : PositionsProven runtime input
  stopped : SingleScanStops runtime input smaller ∨ FederationScanStops runtime input smaller
  singleForeign : ∀ pair,
    DecidesScan runtime input.trustRoot (signedHeads (scannedHeads input larger)) pair →
      Shows runtime input.trustRoot (signedHeads (scannedHeads input larger)) pair ∧
        (signedHeads (scannedHeads input larger))[pair.1].checkpoint.log_id ≠
          input.inclusion.checkpoint.log_id
  federationForeign : ∀ pair,
    DecidesFederationScan runtime input.trustRoot input.witnessQuorum
        (scannedHeads input larger) pair →
      FederationShows runtime input.trustRoot input.witnessQuorum (scannedHeads input larger)
          pair ∧
        (scannedHeads input larger)[pair.1].log_id ≠ input.inclusion.checkpoint.log_id

variable {runtime input}

private theorem not_stops_iff {ι : Type} {decides shows_ own : ι → Prop} :
    (¬ ∃ pair, decides pair ∧ (shows_ pair → own pair)) ↔
      ∀ pair, decides pair → shows_ pair ∧ ¬ own pair := by
  simp only [not_exists, not_and, Classical.not_imp]

theorem noOwnFork_withPool_iff (pool : List WitnessCheckpoint) :
    NoOwnFork runtime (withPool input pool) ↔
      ¬ SingleScanStops runtime input pool ∧ ¬ FederationScanStops runtime input pool := by
  have single := (splitViewScan runtime input.trustRoot (scannedHeads input pool)).avoids_iff
    (P := fun proof => proof.log_id = input.inclusion.checkpoint.log_id)
  have federation := (federationScan runtime input.witnessQuorum (scannedHeads input pool)
    input.trustRoot).avoids_iff (P := fun proof => proof.log_id = input.inclusion.checkpoint.log_id)
  simp only [splitViewProofAt_log_id] at single
  simp only [federationProofOf] at federation
  rw [SingleScanStops, FederationScanStops, not_stops_iff, not_stops_iff, ← single, ← federation]
  exact ⟨fun noFork => ⟨noFork.single, noFork.federation⟩, fun both => ⟨both.1, both.2⟩⟩

theorem acceptsPreRevocation_withPool_iff (pool : List WitnessCheckpoint) :
    acceptsPreRevocation runtime (withPool input pool) = true ↔
      CheckpointsAuthenticated runtime input ∧ PositionsProven runtime input ∧
        ¬ SingleScanStops runtime input pool ∧ ¬ FederationScanStops runtime input pool := by
  rw [acceptsPreRevocation_iff, noOwnFork_withPool_iff]
  have authenticated : CheckpointsAuthenticated runtime (withPool input pool) ↔
      CheckpointsAuthenticated runtime input :=
    ⟨fun ⟨trust, quorum, key, log, included, revoked⟩ =>
        ⟨trust, quorum, key, log, included, revoked⟩,
      fun ⟨trust, quorum, key, log, included, revoked⟩ =>
        ⟨trust, quorum, key, log, included, revoked⟩⟩
  have proven : PositionsProven runtime (withPool input pool) ↔ PositionsProven runtime input :=
    ⟨fun ⟨receipt, shape, revocation, consistent, ordered⟩ =>
        ⟨receipt, shape, revocation, consistent, ordered⟩,
      fun ⟨receipt, shape, revocation, consistent, ordered⟩ =>
        ⟨receipt, shape, revocation, consistent, ordered⟩⟩
  rw [authenticated, proven]

/-- **Gossip tightens.** Another pool, in particular one with checkpoints inserted
anywhere, never turns a refusal into an acceptance exactly as long as it does
not mask the decision's own log. -/
theorem gossip_tightens_iff (runtime : Runtime) (input : AuthenticatedRevocationInput)
    (smaller larger : List WitnessCheckpoint) :
    (acceptsPreRevocation runtime (withPool input smaller) = false →
        acceptsPreRevocation runtime (withPool input larger) = false) ↔
      ¬ Masked runtime input smaller larger := by
  rw [← Bool.not_eq_true, ← Bool.not_eq_true, acceptsPreRevocation_withPool_iff,
    acceptsPreRevocation_withPool_iff]
  constructor
  · rintro tightens ⟨authenticated, proven, stopped, singleForeign, federationForeign⟩
    apply tightens
    · rintro ⟨-, -, noSingle, noFederation⟩
      rcases stopped with single | federation
      · exact noSingle single
      · exact noFederation federation
    · exact ⟨authenticated, proven, not_stops_iff.mpr singleForeign,
        not_stops_iff.mpr federationForeign⟩
  · rintro unmasked refused ⟨authenticated, proven, noSingle, noFederation⟩
    apply unmasked
    refine ⟨authenticated, proven, ?_, not_stops_iff.mp noSingle, not_stops_iff.mp noFederation⟩
    by_contra neither
    rw [not_or] at neither
    exact refused ⟨authenticated, proven, neither⟩

end Gossip

/-! ### A sample decision

The log of two leaves, the receipt and then the revocation record of its key,
under a signed head of size two. -/

namespace Sample

open ResearchFrontier.Witness.Sample

def record : JsString :=
  jsonObject [
    (js "key_id", quote (js "key-1")),
    (js "schema_version", quote ledgerRevocationRecordSchemaVersion),
    (js "type", quote (js "key_revocation"))]

def receiptHash : JsString :=
  pieces ["39a1cc8de4764fad7687ee060e5550c4", "87181bc55a685e39d8268580b327ea9a"]

def recordHash : JsString :=
  pieces ["3cae5f143b68a4d861442061d69fed9f", "85c413095c6f0933d68ed9a0f2efef05"]

def decision : AuthenticatedRevocationInput where
  keyId := js "key-1"
  receiptTimestamp := none
  trustRoot := manifest
  witnessQuorum := .ofNat 1
  inclusion := {
    checkpoint := mainTwo
    leafPayload := js "receipt"
    proof := ⟨.ofNat 2, .ofNat 0, receiptHash, mainTwo.root_hash, [⟨.right, recordHash⟩]⟩ }
  revocation := {
    checkpoint := mainTwo
    leafPayload := record
    proof := ⟨.ofNat 2, .ofNat 1, recordHash, mainTwo.root_hash, [⟨.left, receiptHash⟩]⟩
    keyId := js "key-1" }
  consistency := ⟨.ofNat 2, .ofNat 2, []⟩
  observedCheckpoints := none

end Sample

/-- A fork of the decision's own log that is refused alone is accepted once a
fork of another log stands before it in the pool. -/
theorem foreign_fork_masks_own_fork :
    let own := [Witness.Sample.mainNineA, Witness.Sample.mainNineB]
    let pool := [Witness.Sample.otherNineA, Witness.Sample.otherNineB] ++ own
    own.Sublist pool ∧
      acceptsPreRevocation Witness.Sample.runtime (withPool Sample.decision own) = false ∧
      acceptsPreRevocation Witness.Sample.runtime (withPool Sample.decision pool) = true := by
  refine ⟨?_, ?_, ?_⟩
  · exact List.sublist_append_right _ _
  · rw [Witness.Sample.runtime_eq]
    decide +kernel
  · rw [Witness.Sample.runtime_eq]
    decide +kernel

end GhostArk.ResearchFrontier.AuthenticatedRevocation
