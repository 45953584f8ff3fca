import Mathlib.Data.Finset.Card
import GhostArk.ResearchFrontier.AuthenticatedRevocation
import GhostArk.ResearchFrontier.SplitViewDetection

/-!
Contract: the witnesses behind a checkpoint, as three functions of the repository count them.

Owns the loop that `countQuorumWitnesses` and `countValidWitnesses` share, its closed form, when
the two counts agree, and what a checkpoint whose signatures all verify has behind it.

The first counter tries every listed signature; the second looks a witness up by its first one.
-/

namespace GhostArk.ResearchFrontier.Witness

open Js
open ResearchFrontier.AuthenticatedRevocation

/-! ### The loop -/

section

variable (verifies : WitnessSignature → Except JsError Bool)

/-- The loop of both counters, for what each of them checks of an entry. -/
def collectWitnesses : List WitnessSignature → List JsString → Except JsError (List JsString)
  | [], valid => return valid
  | signature :: rest, valid => do
    if ← verifies signature then collectWitnesses rest (valid.insert signature.witness_id)
    else collectWitnesses rest valid

def verifiedIds (signatures : List WitnessSignature) : Finset JsString :=
  ((signatures.filter fun signature => orFalse (verifies signature)).map
    WitnessSignature.witness_id).toFinset

variable {verifies}

variable {signatures : List WitnessSignature}

theorem mem_verifiedIds {witnessId : JsString} :
    witnessId ∈ verifiedIds verifies signatures ↔
      ∃ signature ∈ signatures, verifies signature = .ok true ∧
        signature.witness_id = witnessId := by
  simp only [verifiedIds, List.mem_toFinset, List.mem_map, List.mem_filter, orFalse_eq_true,
    and_assoc]

theorem verifiedIds_cons (signature : WitnessSignature) (rest : List WitnessSignature) :
    verifiedIds verifies (signature :: rest) =
      if orFalse (verifies signature) then
        insert signature.witness_id (verifiedIds verifies rest)
      else verifiedIds verifies rest := by
  rw [verifiedIds, List.filter_cons]
  split
  · rw [List.map_cons, List.toFinset_cons]
    rfl
  · rfl

theorem collectWitnesses_of_throws (throws : ∃ signature ∈ signatures, Throws verifies signature)
    (valid : List JsString) : (collectWitnesses verifies signatures valid).toOption = none := by
  induction signatures generalizing valid with
  | nil =>
    rcases throws with ⟨_, member, _⟩
    exact absurd member List.not_mem_nil
  | cons signature rest ih =>
    rw [collectWitnesses]
    cases checked : verifies signature with
    | error error => rfl
    | ok verified =>
      have later : ∃ signature ∈ rest, Throws verifies signature := by
        rcases throws with ⟨thrower, member, isNone⟩
        rcases List.mem_cons.mp member with rfl | member
        · rw [Throws, checked] at isNone
          cases isNone
        · exact ⟨thrower, member, isNone⟩
      cases verified with
      | true => exact ih later _
      | false => exact ih later _

theorem collectWitnesses_of_returns
    (returns : ∀ signature ∈ signatures, ¬ Throws verifies signature) {valid : List JsString}
    (distinct : valid.Nodup) :
    ∃ collected, collectWitnesses verifies signatures valid = .ok collected ∧ collected.Nodup ∧
      ∀ witnessId, witnessId ∈ collected ↔
        witnessId ∈ valid ∨ witnessId ∈ verifiedIds verifies signatures := by
  induction signatures generalizing valid with
  | nil => exact ⟨valid, rfl, distinct, fun _ => (or_iff_left (Finset.notMem_empty _)).symm⟩
  | cons signature rest ih =>
    rw [List.forall_mem_cons] at returns
    rw [collectWitnesses, verifiedIds_cons]
    cases checked : verifies signature with
    | error error => exact absurd (congrArg Except.toOption checked) returns.1
    | ok verified =>
      cases verified with
      | true =>
        rcases ih returns.2 distinct.insert with
          ⟨collected, isCollected, nodup, members⟩
        refine ⟨collected, isCollected, nodup, fun witnessId => ?_⟩
        rw [members, List.mem_insert_iff, orFalse_ok, if_pos rfl, Finset.mem_insert,
          or_assoc, or_left_comm]
      | false => exact ih returns.2 distinct

/-- The number of witnesses that the loop collects. -/
def countWitnesses (verifies : WitnessSignature → Except JsError Bool)
    (signatures : List WitnessSignature) : Except JsError Nat :=
  return (← collectWitnesses verifies signatures []).length

theorem countWitnesses_of_throws (throws : ∃ signature ∈ signatures, Throws verifies signature) :
    (countWitnesses verifies signatures).toOption = none := by
  have thrown := collectWitnesses_of_throws throws []
  rw [countWitnesses]
  cases collected : collectWitnesses verifies signatures [] with
  | error error => rfl
  | ok ids =>
    rw [collected] at thrown
    cases thrown

theorem countWitnesses_of_returns
    (returns : ∀ signature ∈ signatures, ¬ Throws verifies signature) :
    countWitnesses verifies signatures = .ok (verifiedIds verifies signatures).card := by
  rcases collectWitnesses_of_returns returns List.nodup_nil with
    ⟨collected, isCollected, nodup, members⟩
  have same : collected.toFinset = verifiedIds verifies signatures := by
    ext witnessId
    rw [List.mem_toFinset, members, or_iff_right List.not_mem_nil]
  rw [countWitnesses, isCollected, ← same, List.toFinset_card_of_nodup nodup]
  rfl

end

/-! ### The two counters -/

section

variable (runtime : Runtime) (checkpoint : WitnessCheckpoint) (manifest : WitnessKeyManifest)

theorem countQuorumWitnesses_eq :
    countQuorumWitnesses runtime checkpoint manifest =
      countWitnesses (fun signature => signatureEntryVerifies runtime checkpoint signature manifest)
        checkpoint.witness_signatures := by
  have sameLoop (signatures : List WitnessSignature) (valid : List JsString) :
      collectQuorumWitnesses runtime checkpoint manifest signatures valid =
        collectWitnesses
          (fun signature => signatureEntryVerifies runtime checkpoint signature manifest)
          signatures valid := by
    induction signatures generalizing valid with
    | nil => rfl
    | cons signature rest ih =>
      simp only [collectQuorumWitnesses, collectWitnesses, ih]
  rw [countQuorumWitnesses, countWitnesses, sameLoop]

theorem countValidWitnesses_eq :
    countValidWitnesses runtime checkpoint manifest =
      countWitnesses
        (fun signature => witnessSignatureVerifies runtime checkpoint signature.witness_id manifest)
        checkpoint.witness_signatures := by
  have sameLoop (signatures : List WitnessSignature) (valid : List JsString) :
      collectValidWitnesses runtime checkpoint manifest signatures valid =
        collectWitnesses
          (fun signature =>
            witnessSignatureVerifies runtime checkpoint signature.witness_id manifest)
          signatures valid := by
    induction signatures generalizing valid with
    | nil => rfl
    | cons signature rest ih =>
      simp only [collectValidWitnesses, collectWitnesses, ih]
  rw [countValidWitnesses, countWitnesses, sameLoop]

/-- The first entry of some witness throws, or no entry does and a witness whose signature
verifies has a verifying one first. -/
def FirstSignaturesDecide : Prop :=
  let verifies := fun signature => signatureEntryVerifies runtime checkpoint signature manifest
  (∃ witnessId first, firstSignature checkpoint witnessId = some first ∧ Throws verifies first) ∨
    ∀ signature ∈ checkpoint.witness_signatures, ¬ Throws verifies signature ∧
      (verifies signature = .ok true →
        ∀ first, firstSignature checkpoint signature.witness_id = some first →
          verifies first = .ok true)

end

/-- The two counters return one count, or both throw, exactly if first entries decide. -/
theorem witnessCounts_agree_iff (runtime : Runtime) (checkpoint : WitnessCheckpoint)
    (manifest : WitnessKeyManifest) :
    (countQuorumWitnesses runtime checkpoint manifest).toOption =
        (countValidWitnesses runtime checkpoint manifest).toOption ↔
      FirstSignaturesDecide runtime checkpoint manifest := by
  rw [countQuorumWitnesses_eq, countValidWitnesses_eq, FirstSignaturesDecide]
  set verifies := fun signature => signatureEntryVerifies runtime checkpoint signature manifest
  set firstVerifies := fun signature : WitnessSignature =>
    witnessSignatureVerifies runtime checkpoint signature.witness_id manifest
  set signatures := checkpoint.witness_signatures
  have ofFirst {signature first : WitnessSignature}
      (isFirst : firstSignature checkpoint signature.witness_id = some first) :
      firstVerifies signature = verifies first :=
    witnessSignatureVerifies_of_first runtime manifest isFirst
  by_cases firstThrows : ∃ witnessId first, firstSignature checkpoint witnessId = some first ∧
      Throws verifies first
  · rcases id firstThrows with ⟨witnessId, first, isFirst, throws⟩
    obtain ⟨member, rfl⟩ := firstSignature_mem isFirst
    have alsoThrows : Throws firstVerifies first := by
      rw [Throws, ofFirst isFirst]
      exact throws
    rw [countWitnesses_of_throws ⟨first, member, throws⟩,
      countWitnesses_of_throws ⟨first, member, alsoThrows⟩]
    exact iff_of_true rfl (Or.inl firstThrows)
  · rw [or_iff_right firstThrows]
    have returns : ∀ signature ∈ signatures, ¬ Throws firstVerifies signature := by
      intro signature member throws
      rcases exists_firstSignature member with ⟨first, isFirst⟩
      rw [Throws, ofFirst isFirst] at throws
      exact firstThrows ⟨_, first, isFirst, throws⟩
    rw [countWitnesses_of_returns returns]
    by_cases someThrows : ∃ signature ∈ signatures, Throws verifies signature
    · rw [countWitnesses_of_throws someThrows]
      rcases someThrows with ⟨signature, member, throws⟩
      exact iff_of_false (fun same => by cases same) fun all => (all signature member).1 throws
    · have allReturn : ∀ signature ∈ signatures, ¬ Throws verifies signature :=
        fun signature member throws => someThrows ⟨signature, member, throws⟩
      rw [countWitnesses_of_returns allReturn]
      have subset : verifiedIds firstVerifies signatures ⊆ verifiedIds verifies signatures := by
        intro witnessId member
        rcases mem_verifiedIds.mp member with ⟨signature, isListed, verified, rfl⟩
        rcases exists_firstSignature isListed with ⟨first, isFirst⟩
        rw [ofFirst isFirst] at verified
        have isMember := firstSignature_mem isFirst
        exact mem_verifiedIds.mpr ⟨first, isMember.1, verified, isMember.2⟩
      constructor
      · intro sameCard signature member
        refine ⟨allReturn signature member, fun verified first isFirst => ?_⟩
        have sameIds := Finset.eq_of_subset_of_card_le subset (Option.some.inj sameCard).le
        have isVerified : signature.witness_id ∈ verifiedIds firstVerifies signatures :=
          sameIds ▸ mem_verifiedIds.mpr ⟨signature, member, verified, rfl⟩
        rcases mem_verifiedIds.mp isVerified with ⟨other, _, otherVerified, sameWitness⟩
        rw [← sameWitness] at isFirst
        rwa [ofFirst isFirst] at otherVerified
      · intro all
        have superset : verifiedIds verifies signatures ⊆ verifiedIds firstVerifies signatures := by
          intro witnessId member
          rcases mem_verifiedIds.mp member with ⟨signature, isListed, verified, rfl⟩
          rcases exists_firstSignature isListed with ⟨first, isFirst⟩
          have firstVerified := (all signature isListed).2 verified first isFirst
          rw [← ofFirst isFirst] at firstVerified
          exact mem_verifiedIds.mpr ⟨signature, isListed, firstVerified, rfl⟩
        rw [subset.antisymm superset]

/-- An unverifiable entry stands before the verifying one of the same witness. -/
theorem hiddenWitness_counts_differ :
    countQuorumWitnesses Sample.runtime Sample.mainNineHidden Sample.manifest = .ok 1 ∧
      countValidWitnesses Sample.runtime Sample.mainNineHidden Sample.manifest = .ok 0 :=
  ⟨eq_ok_of_toOption (by decide +kernel), eq_ok_of_toOption (by decide +kernel)⟩

theorem everySignatureVerifies_iff {runtime : Runtime} {checkpoint : WitnessCheckpoint}
    {manifest : WitnessKeyManifest} {signatures : List WitnessSignature} :
    everySignatureVerifies runtime checkpoint manifest signatures = .ok true ↔
      ∀ signature ∈ signatures,
        signatureEntryVerifies runtime checkpoint signature manifest = .ok true := by
  induction signatures with
  | nil => exact iff_of_true rfl fun _ member => absurd member List.not_mem_nil
  | cons signature rest ih =>
    rw [everySignatureVerifies, List.forall_mem_cons, ← ih]
    cases signatureEntryVerifies runtime checkpoint signature manifest with
    | error error => exact iff_of_false (fun absent => by cases absent) fun both => by cases both.1
    | ok verified =>
      cases verified with
      | true => exact (and_iff_right rfl).symm
      | false =>
        exact iff_of_false (fun absent => by cases absent) fun both => by cases both.1

def listedIds (checkpoint : WitnessCheckpoint) : Finset JsString :=
  (checkpoint.witness_signatures.map WitnessSignature.witness_id).toFinset

theorem countQuorumWitnesses_of_verified {runtime : Runtime} {checkpoint : WitnessCheckpoint}
    {manifest : WitnessKeyManifest}
    (verified : verifyWitnessCheckpointSignaturesWithManifest runtime checkpoint manifest = true) :
    countQuorumWitnesses runtime checkpoint manifest = .ok (listedIds checkpoint).card := by
  rw [verifyWitnessCheckpointSignaturesWithManifest, orFalse_eq_true, bind_eq_ok] at verified
  rcases verified with ⟨_, _, every⟩
  have all := everySignatureVerifies_iff.mp every
  rw [countQuorumWitnesses_eq, countWitnesses_of_returns]
  · have same : verifiedIds
        (fun signature => signatureEntryVerifies runtime checkpoint signature manifest)
        checkpoint.witness_signatures = listedIds checkpoint := by
      rw [verifiedIds, List.filter_eq_self.mpr]
      · rfl
      · exact fun signature member => orFalse_eq_true.mpr (all signature member)
    rw [same]
  · intro signature member throws
    rw [Throws, all signature member] at throws
    cases throws

/-- A checkpoint whose signatures all verify has each listed witness behind it, and at least one,
exactly if it lists a signature or its manifest is refused. -/
theorem verified_has_quorum_iff (runtime : Runtime) (checkpoint : WitnessCheckpoint)
    (manifest : WitnessKeyManifest) :
    (verifyWitnessCheckpointSignaturesWithManifest runtime checkpoint manifest = true →
        countQuorumWitnesses runtime checkpoint manifest = .ok (listedIds checkpoint).card ∧
          1 ≤ (listedIds checkpoint).card) ↔
      checkpoint.witness_signatures ≠ [] ∨
        validateWitnessKeyManifestSemantics runtime manifest ≠ .ok () := by
  constructor
  · intro implied
    by_contra neither
    rw [not_or, not_not, not_not] at neither
    have verified :
        verifyWitnessCheckpointSignaturesWithManifest runtime checkpoint manifest = true := by
      rw [verifyWitnessCheckpointSignaturesWithManifest, neither.1, neither.2]
      rfl
    have listed := (implied verified).2
    rw [listedIds, neither.1] at listed
    exact absurd listed (by decide)
  · intro either verified
    refine ⟨countQuorumWitnesses_of_verified verified, ?_⟩
    have nonempty : checkpoint.witness_signatures ≠ [] := by
      apply either.resolve_right
      rw [not_not]
      rw [verifyWitnessCheckpointSignaturesWithManifest, orFalse_eq_true, bind_eq_ok] at verified
      exact verified.choose_spec.1
    rcases List.exists_mem_of_ne_nil _ nonempty with ⟨signature, member⟩
    exact Finset.card_pos.mpr ⟨_, List.mem_toFinset.mpr (List.mem_map_of_mem member)⟩

/-- A checkpoint without signatures verifies, with no witness behind it. -/
theorem unsigned_checkpoint_verifies :
    let checkpoint := { Sample.mainNineA with witness_signatures := [] }
    verifyWitnessCheckpointSignaturesWithManifest Sample.runtime checkpoint Sample.manifest = true ∧
      countQuorumWitnesses Sample.runtime checkpoint Sample.manifest = .ok 0 :=
  ⟨by decide +kernel, rfl⟩

end GhostArk.ResearchFrontier.Witness
