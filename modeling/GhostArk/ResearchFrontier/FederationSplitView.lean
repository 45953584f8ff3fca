import GhostArk.ResearchFrontier.WitnessCounting
import GhostArk.ResearchFrontier.WitnessEpoch

/-!
Contract: federation split views, `packages/research-frontier/src/witnessFraudProof.ts`.

Owns the meaning of a federation proof that verifies, the exactness of its detector, and the
witnesses that a quorum of more than half of the manifest leaves to name.
-/

namespace GhostArk.ResearchFrontier.Witness

open Js
open Lib

section Federation

variable (runtime : Runtime) (manifest : WitnessKeyManifest)

/-- The counted witnesses of a checkpoint reach the quorum. -/
def Backed (quorum : JsNumber) (checkpoint : WitnessCheckpoint) : Prop :=
  ∃ count, countValidWitnesses runtime checkpoint manifest = .ok count ∧
    quorum.le (.ofNat count) = true

/-- Two heads of one log and size with different roots, each with a quorum behind it. -/
structure FederationEquivocation (quorum : JsNumber) (a b : WitnessCheckpoint) : Prop where
  positive : isPositiveQuorum quorum = true
  log : a.log_id = b.log_id
  size : a.tree_size.strictEq b.tree_size = true
  differ : a.root_hash ≠ b.root_hash
  first : Backed runtime manifest quorum a
  second : Backed runtime manifest quorum b

variable {runtime manifest}

/-! ### Verified proofs -/

theorem meetsQuorum_eq_true_iff {positive : Bool} {quorum : JsNumber}
    {checkpoint : WitnessCheckpoint} :
    meetsQuorum runtime positive quorum checkpoint manifest = .ok true ↔
      positive = true ∧ Backed runtime manifest quorum checkpoint := by
  cases positive with
  | false => exact iff_of_false (fun same => by cases same) fun both => by cases both.1
  | true =>
    rw [meetsQuorum, if_pos rfl, bind_eq_ok, and_iff_right rfl]
    simp only [pure_eq_ok]
    exact Iff.rfl

variable {proof : FederationSplitViewProof}

theorem federationProofValid_eq_true_iff :
    federationProofValid runtime manifest proof = .ok true ↔
      proof.schema_version = federationSplitViewProofSchemaVersion ∧
        isPositiveQuorum proof.quorum = true ∧
        (proof.checkpoint_a.log_id = proof.log_id ∧ proof.checkpoint_b.log_id = proof.log_id) ∧
        (proof.checkpoint_a.tree_size.strictEq proof.tree_size = true ∧
          proof.checkpoint_b.tree_size.strictEq proof.tree_size = true) ∧
        proof.checkpoint_a.root_hash ≠ proof.checkpoint_b.root_hash ∧
        Backed runtime manifest proof.quorum proof.checkpoint_a ∧
        Backed runtime manifest proof.quorum proof.checkpoint_b := by
  have backed {checkpoint : WitnessCheckpoint} (positive : isPositiveQuorum proof.quorum = true) :
      Backed runtime manifest proof.quorum checkpoint ↔
        meetsQuorum runtime (isPositiveQuorum proof.quorum) proof.quorum checkpoint manifest =
          .ok true :=
    (and_iff_right positive).symm.trans meetsQuorum_eq_true_iff.symm
  unfold federationProofValid verifyFederationSplitViewProof
  dsimp only
  cases positive : isPositiveQuorum proof.quorum with
  | false => simp [meetsQuorum, FraudProofVerification.ofChecks, checkLine]
  | true =>
    rw [backed positive, backed positive, positive]
    cases meetsQuorum runtime true proof.quorum proof.checkpoint_a manifest with
    | error error => simp
    | ok firstMeets =>
      cases meetsQuorum runtime true proof.quorum proof.checkpoint_b manifest with
      | error error => simp
      | ok secondMeets =>
        simp [FraudProofVerification.ofChecks, checkLine, sameLogCheck, sameTreeSizeCheck]

/-- Some witness's first entry on the head throws: the head has no count. -/
def Uncounted (runtime : Runtime) (manifest : WitnessKeyManifest)
    (checkpoint : WitnessCheckpoint) : Prop :=
  ∃ signature ∈ checkpoint.witness_signatures,
    (⟨checkpoint, signature.witness_id⟩ : SignedHead).FirstThrows runtime manifest

theorem counts_iff {checkpoint : WitnessCheckpoint} :
    (∃ count, countValidWitnesses runtime checkpoint manifest = .ok count) ↔
      ¬ Uncounted runtime manifest checkpoint := by
  have throws_iff (signature : WitnessSignature) :
      Throws (fun entry : WitnessSignature =>
          witnessSignatureVerifies runtime checkpoint entry.witness_id manifest) signature ↔
        (⟨checkpoint, signature.witness_id⟩ : SignedHead).FirstThrows runtime manifest := by
    rw [← not_iff_not, ← SignedHead.returns_iff, Throws]
    cases witnessSignatureVerifies runtime checkpoint signature.witness_id manifest with
    | error error => simp [Except.toOption]
    | ok verified => simp [Except.toOption]
  rw [countValidWitnesses_eq, Uncounted]
  simp only [← throws_iff]
  constructor
  · rintro ⟨count, counted⟩ throws
    have thrown := countWitnesses_of_throws throws
    rw [counted] at thrown
    cases thrown
  · intro returns
    exact ⟨_, countWitnesses_of_returns fun signature member throws =>
      returns ⟨signature, member, throws⟩⟩

theorem federationProofValid_returns_iff :
    (∃ verdict, federationProofValid runtime manifest proof = .ok verdict) ↔
      ¬ (isPositiveQuorum proof.quorum = true ∧
        (Uncounted runtime manifest proof.checkpoint_a ∨
          Uncounted runtime manifest proof.checkpoint_b)) := by
  rw [not_and, not_or, ← counts_iff, ← counts_iff]
  unfold federationProofValid verifyFederationSplitViewProof meetsQuorum
  dsimp only
  cases isPositiveQuorum proof.quorum with
  | false => simp
  | true =>
    cases countValidWitnesses runtime proof.checkpoint_a manifest with
    | error error => simp
    | ok firstCount =>
      cases countValidWitnesses runtime proof.checkpoint_b manifest with
      | error error => simp
      | ok secondCount => simp

/-! ### The scan -/

section Detector

variable (runtime)

def federationGroup (checkpoint : WitnessCheckpoint) : JsString × JsString :=
  (checkpoint.log_id, runtime.numbers.json checkpoint.tree_size)

def federationKey (checkpoint : WitnessCheckpoint) : JsString :=
  jsonArray [quote checkpoint.log_id, runtime.numbers.json checkpoint.tree_size]

variable (manifest) (quorum : JsNumber) (heads : List WitnessCheckpoint)

/-- Two heads of one group with different roots. -/
abbrev FederationConflicts : Fin heads.length × Fin heads.length → Prop :=
  Clash (federationGroup runtime) heads (·.root_hash)

abbrev FederationShows (pair : Fin heads.length × Fin heads.length) : Prop :=
  FederationEquivocation runtime manifest quorum heads[pair.1] heads[pair.2]

/-- A first entry on one of the heads throws, where the quorum is one that is counted for. -/
def FederationStops (pair : Fin heads.length × Fin heads.length) : Prop :=
  isPositiveQuorum quorum = true ∧
    (Uncounted runtime manifest heads[pair.1] ∨ Uncounted runtime manifest heads[pair.2])

/-- The first conflict, in the order of the loops, that shows an equivocation or stops the scan. -/
abbrev DecidesFederationScan : Fin heads.length × Fin heads.length → Prop :=
  Decides (FederationConflicts runtime heads) (FederationShows runtime manifest quorum heads)
    (FederationStops runtime manifest quorum heads) (turn (federationGroup runtime) heads)

/-- The proof that the detector builds from two heads. -/
def federationProofOf (first second : WitnessCheckpoint) : FederationSplitViewProof where
  schema_version := federationSplitViewProofSchemaVersion
  log_id := first.log_id
  tree_size := first.tree_size
  quorum
  checkpoint_a := first
  checkpoint_b := second

private theorem federationKey_iff (first second : WitnessCheckpoint) :
    federationKey runtime first = federationKey runtime second ↔
      federationGroup runtime first = federationGroup runtime second := by
  rw [federationGroup, federationGroup, Prod.mk.injEq]
  constructor
  · intro same
    have joined : ∀ a b : JsString, jsonArray [quote a, b] =
        js "[" ++ (quote a ++ (js "," ++ (b ++ js "]"))) := by
      intro a b
      simp [jsonArray, join]
    rw [federationKey, federationKey, joined, joined] at same
    obtain ⟨sameLog, rest⟩ := eq_of_quote_append (List.append_cancel_left same)
    exact ⟨sameLog, List.append_cancel_right (List.append_cancel_left rest)⟩
  · rintro ⟨sameLog, sameSize⟩
    rw [federationKey, federationKey, sameLog, sameSize]

private theorem foldl_federationPush (members bucket : List WitnessCheckpoint) :
    members.foldl (fun bucket checkpoint => bucket ++ [checkpoint]) bucket = bucket ++ members := by
  induction members generalizing bucket with
  | nil => exact (List.append_nil _).symm
  | cons checkpoint rest ih => rw [List.foldl_cons, ih, List.append_assoc, List.singleton_append]

variable {manifest}

theorem FederationEquivocation.symm {a b : WitnessCheckpoint}
    (equivocation : FederationEquivocation runtime manifest quorum a b) :
    FederationEquivocation runtime manifest quorum b a := by
  obtain ⟨positive, log, size, differ, first, second⟩ := equivocation
  have sameSize := JsNumber.eq_of_strictEq size
  exact ⟨positive, log.symm, sameSize ▸ size, differ.symm, second, first⟩

/-- The detector's scan: which pairs it tries, in which order, and what each of them yields. -/
theorem federationScan (manifest : WitnessKeyManifest) :
    Scan (FederationConflicts runtime heads) (FederationShows runtime manifest quorum heads)
      (FederationStops runtime manifest quorum heads) (turn (federationGroup runtime) heads)
      (fun pair => federationProofOf quorum heads[pair.1] heads[pair.2])
      (federationProofValid runtime manifest) (federationCandidates runtime heads quorum) := by
  refine ⟨?_, ?_, ?_⟩
  · have isJoin : addToFederationGroup runtime = InsertionMap.join (federationKey runtime)
        (fun _ => []) fun bucket checkpoint => bucket ++ [checkpoint] := rfl
    rw [federationCandidates, isJoin]
    refine flatMap_groups_inOrder (federationKey_iff runtime) (·.root_hash)
      (fun _ first second => federationProofOf quorum first second) ?_
    intro first rest
    rw [foldl_federationPush]
    rfl
  · intro pair conflict
    rw [federationProofValid_eq_true_iff]
    constructor
    · rintro ⟨-, positive, logs, sizes, differ, first, second⟩
      have sameSize := JsNumber.eq_of_strictEq sizes.2
      exact ⟨positive, logs.2.symm, sameSize ▸ sizes.1, differ, first, second⟩
    · intro equivocation
      have isNumber := equivocation.size
      rw [← JsNumber.eq_of_strictEq isNumber] at isNumber
      exact ⟨rfl, equivocation.positive, ⟨rfl, equivocation.log.symm⟩,
        ⟨isNumber, equivocation.symm.size⟩, equivocation.differ,
        equivocation.first, equivocation.second⟩
  · intro pair _
    exact federationProofValid_returns_iff

variable {runtime quorum heads}

/-- A pair of the list that equivocates is tried, in one order or the other. -/
theorem exists_federationShows {a b : WitnessCheckpoint} (first : a ∈ heads) (second : b ∈ heads)
    (equivocation : FederationEquivocation runtime manifest quorum a b) :
    ∃ pair, FederationConflicts runtime heads pair ∧
      FederationShows runtime manifest quorum heads pair := by
  obtain ⟨i, isBound, rfl⟩ := List.getElem_of_mem first
  obtain ⟨j, isAlsoBound, rfl⟩ := List.getElem_of_mem second
  have tried {pair : Fin heads.length × Fin heads.length} (ordered : pair.1 < pair.2)
      (shows_ : FederationShows runtime manifest quorum heads pair) :
      FederationConflicts runtime heads pair :=
    ⟨ordered, by
      rw [federationGroup, shows_.log, JsNumber.eq_of_strictEq shows_.size, federationGroup],
      shows_.differ⟩
  rcases lt_trichotomy i j with before | rfl | after
  · exact ⟨(⟨i, isBound⟩, ⟨j, isAlsoBound⟩), tried before equivocation, equivocation⟩
  · exact absurd rfl equivocation.differ
  · exact ⟨(⟨j, isAlsoBound⟩, ⟨i, isBound⟩), tried after equivocation.symm, equivocation.symm⟩

end Detector

/-- **Federation split views.** Whenever the detector returns, it reports exactly the pairs of
heads that conflict with a quorum behind each, and its reports verify. -/
theorem detectFederationSplitView_exact {checkpoints : List WitnessCheckpoint} {quorum : JsNumber}
    {found : Option FederationSplitViewProof}
    (returned : detectFederationSplitView runtime checkpoints manifest quorum = .ok found) :
    (found.isSome = true ↔
        ∃ a ∈ checkpoints, ∃ b ∈ checkpoints,
          FederationEquivocation runtime manifest quorum a b) ∧
      ∀ proof ∈ found,
        ∃ verification, verifyFederationSplitViewProof runtime proof manifest = .ok verification ∧
          verification.valid = true := by
  have scan := federationScan runtime quorum checkpoints manifest
  cases found with
  | none =>
    have silent := scan.decisive_eq_none_iff.mp (findFirst_eq_none_iff.mp returned)
    refine ⟨iff_of_false Bool.false_ne_true ?_, fun proof absent => by cases absent⟩
    rintro ⟨a, isFirst, b, isSecond, equivocation⟩
    obtain ⟨pair, conflict, isShown⟩ := exists_federationShows isFirst isSecond equivocation
    exact (silent pair conflict).1 isShown
  | some proof =>
    obtain ⟨decided, valid⟩ := findFirst_eq_some_iff.mp returned
    obtain ⟨pair, decides, rfl⟩ := scan.decisive_iff.mp decided
    refine ⟨iff_of_true rfl ⟨_, List.getElem_mem pair.1.2, _, List.getElem_mem pair.2.2,
      (scan.accepted pair decides.1).mp valid⟩, ?_⟩
    rintro _ ⟨⟩
    rcases bind_eq_ok.mp valid with ⟨verification, verified, passed⟩
    exact ⟨verification, verified, pure_eq_ok.mp passed⟩

end Federation

namespace FederationSample

open Sample (pieces mainNineA mainNineB)

def publicKeyPemB : JsString :=
  pieces ["-----BEGIN PUBLIC KEY-----\n",
    "MFkwEwYHKoZIzj0CAQYIKoZIzj0DAQcDQgAESDPbzU9UpvWI1d1za9zH9+x2+E1w\n",
    "GIB0rYB120PyYPXilZ3IcYyStYh4KSbb5DkqRdUOOdIxgLEz4EP32M2hYg==\n",
    "-----END PUBLIC KEY-----\n"]

def publicKeyPemC : JsString :=
  pieces ["-----BEGIN PUBLIC KEY-----\n",
    "MFkwEwYHKoZIzj0CAQYIKoZIzj0DAQcDQgAEj1btDjfgE+lydtzAEJ5K/RxQKWeQ\n",
    "L6QHRdDdFb6OevDk1B7DlVhEOQ4bszEfxLbllMlJim+8EbdyTxcKl1gYOw==\n",
    "-----END PUBLIC KEY-----\n"]

/-- The witness of the other samples, and two more. -/
def manifest : WitnessKeyManifest :=
  { Sample.manifest with
    witnesses := Sample.manifest.witnesses.flatMap fun entry =>
      [entry, { entry with witness_id := js "witness-b", public_key_pem := publicKeyPemB },
        { entry with witness_id := js "witness-c", public_key_pem := publicKeyPemC }] }

def signature (witnessId : String) (parts : List String) : WitnessSignature :=
  ⟨js witnessId, js "ecdsa-p256-sha256", pieces parts⟩

def headA : WitnessCheckpoint :=
  { mainNineA with
    witness_signatures := mainNineA.witness_signatures ++
      [signature "witness-b" ["MEQCIBYGJGvSuwbXPmsIOVGmxOUGMKVmY4/o46i0vR0hY9g3",
        "AiAnpN73Uenj4d12/cFT4HrViJIaAeABgewS/fK17vSetw=="]] }

def headB : WitnessCheckpoint :=
  { mainNineB with
    witness_signatures :=
      [signature "witness-b" ["MEQCIB7bM83333lfu32g95GwISjJQzRd1ZgH4XaUCoxSRvGd",
          "AiBgcnQ47DDJP5ZgoDVIZpcWJmtmH6h3GsqqOmunkwkXoA=="],
        signature "witness-c" ["MEUCIQCjO5ieto5BQS1h2/WVYGI9D+mFJm9kaseI7O/PjtDX",
          "twIgClk7VzxzznxUmU8uQbIWtZqsPOymgOLXefPTOsiUiSE="]] }

/-- Each signature verifies under its witness's key, over the payload it was made for. -/
def runtime : Runtime :=
  { Sample.runtime with
    verifySignature := fun payload signature pem =>
      if manifest.witnesses.any fun witness => witness.public_key_pem = pem then
        return [headA, headB].any fun signed =>
          payload = canonicalCheckpointPayload decimalText signed &&
            signed.witness_signatures.any fun entry =>
              entry.signature = signature && manifest.witnesses.any fun witness =>
                witness.witness_id = entry.witness_id && witness.public_key_pem = pem
      else throw (.plain (js "error:1E08010C:DECODER routines::unsupported")) }

end FederationSample

theorem detectFederationSplitView_exact_two :
    ∃ proof, detectFederationSplitView FederationSample.runtime
        [FederationSample.headA, FederationSample.headB] FederationSample.manifest (.ofNat 2) =
          .ok (some proof) ∧
      ∃ a ∈ [FederationSample.headA, FederationSample.headB],
        ∃ b ∈ [FederationSample.headA, FederationSample.headB],
          FederationEquivocation FederationSample.runtime FederationSample.manifest (.ofNat 2) a
            b := by
  have returned : detectFederationSplitView FederationSample.runtime
      [FederationSample.headA, FederationSample.headB] FederationSample.manifest (.ofNat 2) =
        .ok (some (federationProofOf (.ofNat 2) FederationSample.headA FederationSample.headB)) :=
    eq_ok_of_toOption (by decide +kernel)
  exact ⟨_, returned, (detectFederationSplitView_exact returned).1.mp rfl⟩

section Culprits

variable {runtime : Runtime} {manifest : WitnessKeyManifest}

/-! ### Who signed both heads -/

/-- A count that returns is the number of distinct verified witnesses. -/
theorem eq_card_of_countWitnesses {verifies : WitnessSignature → Except JsError Bool}
    {signatures : List WitnessSignature} {count : Nat}
    (counted : countWitnesses verifies signatures = .ok count) :
    count = (verifiedIds verifies signatures).card := by
  by_cases throws : ∃ signature ∈ signatures, Throws verifies signature
  · have thrown := countWitnesses_of_throws throws
    rw [counted] at thrown
    cases thrown
  · rw [countWitnesses_of_returns fun signature member isThrown =>
      throws ⟨signature, member, isThrown⟩] at counted
    exact (Except.ok.inj counted).symm

def manifestIds (manifest : WitnessKeyManifest) : Finset JsString :=
  (manifest.witnesses.map WitnessKeyManifestEntry.witness_id).toFinset

theorem verifiedIds_subset (runtime : Runtime) (manifest : WitnessKeyManifest)
    (checkpoint : WitnessCheckpoint) :
    verifiedIds (fun signature =>
        witnessSignatureVerifies runtime checkpoint signature.witness_id manifest)
      checkpoint.witness_signatures ⊆ manifestIds manifest := by
  intro witnessId member
  rcases mem_verifiedIds.mp member with ⟨signature, isListed, verified, rfl⟩
  rcases exists_firstSignature isListed with ⟨first, isFirst⟩
  rw [witnessSignatureVerifies_of_first runtime manifest isFirst, signatureEntryVerifies] at verified
  split at verified
  · cases verified
  split at verified
  · cases verified
  next entry found =>
    have listed := mem_of_findWitnessKeyManifestEntry found
    rw [manifestIds, List.mem_toFinset, ← (firstSignature_mem isFirst).2, ← listed.2]
    exact List.mem_map_of_mem listed.1

/-- **A majority leaves a culprit.** Where the quorum is more than half of the listed witnesses,
some witness signed both heads of a federation proof that verifies, and is shown by a proof of
its own. -/
theorem culprit_of_federationProof {proof : FederationSplitViewProof}
    (valid : federationProofValid runtime manifest proof = .ok true) {majority : Nat}
    (isMajority : proof.quorum = .ofNat majority)
    (overHalf : (manifestIds manifest).card < 2 * majority) :
    ∃ witnessId ∈ manifestIds manifest, ∃ verification,
      verifySplitViewFraudProof runtime
        ⟨splitViewFraudProofSchemaVersion, proof.log_id, witnessId, proof.tree_size,
          proof.checkpoint_a, proof.checkpoint_b⟩ manifest = .ok verification ∧
        verification.valid = true := by
  rcases federationProofValid_eq_true_iff.mp valid with
    ⟨-, -, logs, sizes, differ, ⟨firstCount, isFirst, firstBacked⟩,
      ⟨secondCount, isSecond, secondBacked⟩⟩
  rw [isMajority, JsNumber.le_ofNat, decide_eq_true_eq] at firstBacked secondBacked
  rw [countValidWitnesses_eq] at isFirst isSecond
  rw [eq_card_of_countWitnesses isFirst] at firstBacked
  rw [eq_card_of_countWitnesses isSecond] at secondBacked
  have shared := Finset.inter_nonempty_of_card_lt_card_add_card
    (verifiedIds_subset runtime manifest proof.checkpoint_a)
    (verifiedIds_subset runtime manifest proof.checkpoint_b) (by omega)
  rcases shared with ⟨witnessId, member⟩
  rcases Finset.mem_inter.mp member with ⟨signedFirst, signedSecond⟩
  have isListed := verifiedIds_subset runtime manifest _ signedFirst
  rcases mem_verifiedIds.mp signedFirst with ⟨firstEntry, -, firstVerified, rfl⟩
  rcases mem_verifiedIds.mp signedSecond with ⟨secondEntry, -, secondVerified, sameWitness⟩
  rw [sameWitness] at secondVerified
  have shown : splitViewProofValid runtime manifest
      ⟨splitViewFraudProofSchemaVersion, proof.log_id, firstEntry.witness_id, proof.tree_size,
        proof.checkpoint_a, proof.checkpoint_b⟩ = .ok true :=
    splitViewProofValid_eq_true_iff.mpr
      ⟨rfl, logs, sizes, differ, firstVerified, secondVerified⟩
  rcases bind_eq_ok.mp shown with ⟨verification, verified, passed⟩
  exact ⟨_, isListed, verification, verified, pure_eq_ok.mp passed⟩

end Culprits

/-- Two of three witnesses sign each head, so one of them has signed both. -/
theorem culprit_of_federationProof_two :
    ∃ witnessId ∈ manifestIds FederationSample.manifest, ∃ verification,
      verifySplitViewFraudProof FederationSample.runtime
        ⟨splitViewFraudProofSchemaVersion, js "log-main", witnessId, .ofNat 9,
          FederationSample.headA, FederationSample.headB⟩ FederationSample.manifest =
            .ok verification ∧
        verification.valid = true := by
  have valid : federationProofValid FederationSample.runtime FederationSample.manifest
      ⟨federationSplitViewProofSchemaVersion, js "log-main", .ofNat 9, .ofNat 2,
        FederationSample.headA, FederationSample.headB⟩ = .ok true :=
    eq_ok_of_toOption (by decide +kernel)
  have overHalf : (manifestIds FederationSample.manifest).card < 2 * 2 := by decide +kernel
  exact culprit_of_federationProof valid rfl overHalf

end GhostArk.ResearchFrontier.Witness
