import GhostArk.EnforcementRuntime.Receipts.ConcurrentEmission

/-!
Contract: the chain verifier on what the emitters and the in-memory repository
produce.

Owns the exact condition under which `verifyDecisionReceiptChain` passes on a
tenant's stored receipts. The repository compares head hashes only, so one check
of the verifier is left to the callers: timestamps must not go back.
-/

namespace GhostArk.EnforcementRuntime.Receipts

open Js ReceiptSchema Lib

section Verification

variable {runtime : ReceiptRuntime}

theorem chainVerified_toJs_iff {receipts : List SignedDecisionReceipt} :
    ChainVerified runtime (.array (receipts.map SignedDecisionReceipt.toJs)) ↔
      receipts ≠ [] ∧ AcceptableChain runtime receipts := by
  have validated : (receipts.map SignedDecisionReceipt.toJs).map
      (validateSignedDecisionReceipt runtime) = receipts.map .ok := by
    rw [List.map_map]
    apply List.map_congr_left
    intro receipt _
    exact validateSignedDecisionReceipt_toJs runtime receipt
  rw [chainVerified_iff, validated]
  constructor
  · intro verified
    obtain ⟨found, nonempty, same, acceptable⟩ := verified
    obtain rfl := List.map_injective_iff.mpr (fun _ _ => Except.ok.inj) same
    exact ⟨nonempty, acceptable⟩
  · intro accepted
    exact ⟨receipts, accepted.1, rfl, accepted.2⟩

namespace InMemoryRepository.Invariant

variable {repository : InMemoryRepository}

section Invariant

variable (invariant : repository.Invariant runtime)
include invariant

theorem hashed {receipt : SignedDecisionReceipt}
    (member : receipt ∈ repository.receipts.values) :
    ∃ hash, signedDecisionReceiptHash runtime receipt = .ok hash := by
  obtain ⟨entry, -, isMarker⟩ := invariant.markersOf receipt member
  exact exists_signedDecisionReceiptHash isMarker.digest_eq

theorem nodup_hashes
    (collisionFree : runtime.sha256.CollisionFreeOn (repository.signedTexts runtime))
    (tenant : JsString) :
    ((repository.tenantReceipts tenant).map (signedDecisionReceiptHash runtime)).Nodup := by
  apply List.Nodup.map_on _ (invariant.nodup_values.filter _)
  intro left isLeft right isRight sameHash
  have leftStored := (mem_of_mem_tenantReceipts isLeft).1
  have rightStored := (mem_of_mem_tenantReceipts isRight).1
  obtain ⟨hash, leftHash⟩ := invariant.hashed leftStored
  exact eq_of_signedDecisionReceiptHash collisionFree
    (fun _ isText => mem_signedTexts leftStored isText)
    (fun _ isText => mem_signedTexts rightStored isText) leftHash (sameHash.symm.trans leftHash)

/-- Of the verifier's conditions only the order of timestamps and the difference of hashes are
not kept by the repository itself. -/
theorem acceptableChain_iff (tenant : JsString) :
    AcceptableChain runtime (repository.tenantReceipts tenant) ↔
      ((repository.tenantReceipts tenant).map (signedDecisionReceiptHash runtime)).Nodup ∧
        (repository.tenantReceipts tenant).IsChain (NotEarlier runtime) := by
  constructor
  · intro acceptable
    exact ⟨acceptable.distinct, acceptable.inOrder⟩
  · intro conditions
    refine ⟨?_, ?_, conditions.1, invariant.linked tenant, conditions.2⟩
    · intro first isFirst receipt member
      rw [(mem_of_mem_tenantReceipts member).2,
        (mem_of_mem_tenantReceipts (List.mem_of_mem_head? isFirst)).2]
    · intro receipt member
      exact invariant.hashed (mem_of_mem_tenantReceipts member).1

theorem chainVerified_iff
    (collisionFree : runtime.sha256.CollisionFreeOn (repository.signedTexts runtime))
    (tenant : JsString) :
    ChainVerified runtime
        (.array ((repository.tenantReceipts tenant).map SignedDecisionReceipt.toJs)) ↔
      repository.tenantReceipts tenant ≠ [] ∧
        (repository.tenantReceipts tenant).IsChain (NotEarlier runtime) := by
  rw [chainVerified_toJs_iff, invariant.acceptableChain_iff tenant]
  constructor
  · intro accepted
    exact ⟨accepted.1, accepted.2.2⟩
  · intro conditions
    exact ⟨conditions.1, invariant.nodup_hashes collisionFree tenant, conditions.2⟩

end Invariant

end InMemoryRepository.Invariant

variable {ι : Type} [DecidableEq ι] {calls : ι → EmitCall}

/-- Whatever `emit` calls have stored for a tenant, in any interleaving over an empty repository,
the verifier accepts it exactly when something is stored and no timestamp is earlier than the one
stored before it. -/
theorem chainVerified_runEmissions_iff (events : List (EmissionEvent ι)) (tenant : JsString)
    (collisionFree : runtime.sha256.CollisionFreeOn
      ((runEmissions runtime calls (.initial .empty) events).repository.signedTexts runtime)) :
    ChainVerified runtime
        (.array (((runEmissions runtime calls (.initial .empty) events).repository.tenantReceipts
          tenant).map SignedDecisionReceipt.toJs)) ↔
      (runEmissions runtime calls (.initial .empty) events).repository.tenantReceipts tenant ≠ [] ∧
        ((runEmissions runtime calls (.initial .empty) events).repository.tenantReceipts
          tenant).IsChain (NotEarlier runtime) :=
  (invariant_runEmissions (InMemoryRepository.invariant_empty runtime) events).chainVerified_iff
    collisionFree tenant

end Verification

namespace Sample

/-- Two calls of one tenant, the first made a second before the other. -/
def consecutive : Bool → EmitCall
  | false => ⟨emitter, emissionInput "req-1" "2026-07-07T12:00:00Z"⟩
  | true => ⟨emitter, emissionInput "req-2" "2026-07-07T12:00:01Z"⟩

def inTurn : List (EmissionEvent Bool) :=
  List.replicate 5 (false, reply) ++ List.replicate 5 (true, reply)

/-- The later call takes the head before the earlier one reads it. -/
def overtaken : List (EmissionEvent Bool) :=
  (false, reply) :: List.replicate 5 (true, reply) ++ List.replicate 4 (false, reply)

def storedBy (events : List (EmissionEvent Bool)) : List SignedDecisionReceipt :=
  (runEmissions runtime consecutive (.initial .empty) events).repository.tenantReceipts
    ((consecutive false).tenantIdHash runtime)

theorem overtaken_notInOrder : ¬ (storedBy overtaken).IsChain (NotEarlier runtime) := by
  unfold storedBy
  rw [runtime_eq]
  decide +kernel

theorem evaluated_inTurn :
    (((runEmissions runtime consecutive (.initial .empty) inTurn).repository.signedTexts
      runtime).map runtime.sha256.sha256Hex).Nodup ∧
      (storedBy inTurn).length = 2 ∧ storedBy inTurn ≠ [] ∧
        (storedBy inTurn).IsChain (NotEarlier runtime) := by
  unfold storedBy
  rw [runtime_eq]
  decide +kernel

end Sample

/-- Two receipts, linked and in order of time. -/
theorem chainVerified_runEmissions_inTurn :
    (Sample.storedBy Sample.inTurn).length = 2 ∧ ChainVerified Sample.runtime
      (.array (((runEmissions Sample.runtime Sample.consecutive (.initial .empty)
        Sample.inTurn).repository.tenantReceipts
          ((Sample.consecutive false).tenantIdHash Sample.runtime)).map
            SignedDecisionReceipt.toJs)) := by
  refine ⟨Sample.evaluated_inTurn.2.1, ?_⟩
  apply (chainVerified_runEmissions_iff Sample.inTurn _ _).mpr Sample.evaluated_inTurn.2.2
  exact Sha256.CollisionFreeOn.of_nodup _ Sample.evaluated_inTurn.1 (List.Subset.refl _)

/-- Two calls whose timestamps go back, and no calls at all. -/
theorem not_chainVerified_overtaken :
    ¬ ChainVerified Sample.runtime
        (.array (((runEmissions Sample.runtime Sample.consecutive (.initial .empty)
          Sample.overtaken).repository.tenantReceipts
            ((Sample.consecutive false).tenantIdHash Sample.runtime)).map
              SignedDecisionReceipt.toJs)) ∧
      ¬ ChainVerified Sample.runtime
        (.array (((runEmissions Sample.runtime Sample.consecutive (.initial .empty)
          []).repository.tenantReceipts
            ((Sample.consecutive false).tenantIdHash Sample.runtime)).map
              SignedDecisionReceipt.toJs)) := by
  constructor
  · intro verified
    exact Sample.overtaken_notInOrder (chainVerified_toJs_iff.mp verified).2.inOrder
  · intro verified
    exact (chainVerified_toJs_iff.mp verified).1 rfl

end GhostArk.EnforcementRuntime.Receipts
