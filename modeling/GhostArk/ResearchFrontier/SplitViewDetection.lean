import GhostArk.Js.Date
import GhostArk.Js.Decimal
import GhostArk.Js.JsonRoundTrip
import GhostArk.Js.Sha256Evaluation
import GhostArk.ResearchFrontier.WitnessFraudProof

/-!
Contract: what `detectSplitView` finds.

Owns the meaning of a split-view proof that verifies, the pairs of signed heads that the scan
tries and their order, and the exact condition, on the heads and the first entries of their
witnesses, under which the detector finds an equivocation that is there.
-/

namespace GhostArk.ResearchFrontier.Witness

open Js Lib

/-! ### First entries -/

/-- The check of an entry throws. -/
def Throws (verifies : WitnessSignature → Except JsError Bool) (signature : WitnessSignature) :
    Prop :=
  (verifies signature).toOption = none

/-- The first entry of a witness, the only one that `witnessSignatureVerifies` looks at. -/
def firstSignature (checkpoint : WitnessCheckpoint) (witnessId : JsString) :
    Option WitnessSignature :=
  checkpoint.witness_signatures.find? fun signature => signature.witness_id = witnessId

section First

variable {checkpoint : WitnessCheckpoint} {witnessId : JsString} {first : WitnessSignature}

theorem witnessSignatureVerifies_of_first (runtime : Runtime) (manifest : WitnessKeyManifest)
    (isFirst : firstSignature checkpoint witnessId = some first) :
    witnessSignatureVerifies runtime checkpoint witnessId manifest =
      signatureEntryVerifies runtime checkpoint first manifest := by
  rw [firstSignature] at isFirst
  rw [witnessSignatureVerifies, isFirst]

theorem exists_firstSignature {signature : WitnessSignature}
    (member : signature ∈ checkpoint.witness_signatures) :
    ∃ first, firstSignature checkpoint signature.witness_id = some first := by
  rw [← Option.isSome_iff_exists, firstSignature, List.find?_isSome]
  exact ⟨signature, member, decide_eq_true rfl⟩

theorem firstSignature_mem (isFirst : firstSignature checkpoint witnessId = some first) :
    first ∈ checkpoint.witness_signatures ∧ first.witness_id = witnessId :=
  ⟨List.mem_of_find?_eq_some isFirst, by simpa using List.find?_some isFirst⟩

end First

/-! ### Signed heads -/

/-- One signature of one listed checkpoint. -/
structure SignedHead where
  checkpoint : WitnessCheckpoint
  witnessId : JsString
deriving DecidableEq, Repr

def signedHeads (checkpoints : List WitnessCheckpoint) : List SignedHead :=
  checkpoints.flatMap fun checkpoint =>
    checkpoint.witness_signatures.map fun signature => ⟨checkpoint, signature.witness_id⟩

theorem mem_signedHeads_iff {checkpoints : List WitnessCheckpoint} {signed : SignedHead} :
    signed ∈ signedHeads checkpoints ↔ signed.checkpoint ∈ checkpoints ∧
      ∃ signature ∈ signed.checkpoint.witness_signatures,
        signature.witness_id = signed.witnessId := by
  obtain ⟨checkpoint, witnessId⟩ := signed
  simp only [signedHeads, List.mem_flatMap, List.mem_map, SignedHead.mk.injEq]
  constructor
  · rintro ⟨_, listed, signature, isEntry, rfl, sameWitness⟩
    exact ⟨listed, signature, isEntry, sameWitness⟩
  · rintro ⟨listed, signature, isEntry, sameWitness⟩
    exact ⟨checkpoint, listed, signature, isEntry, rfl, sameWitness⟩

section Scan

variable (runtime : Runtime) (manifest : WitnessKeyManifest)

/-- What the signatures of one group share: log, witness, and the text of the size. -/
def SignedHead.group (signed : SignedHead) : JsString × JsString × JsString :=
  (signed.checkpoint.log_id, signed.witnessId,
    runtime.numbers.json signed.checkpoint.tree_size)

def SignedHead.FirstVerifies (signed : SignedHead) : Prop :=
  ∃ first, firstSignature signed.checkpoint signed.witnessId = some first ∧
    signatureEntryVerifies runtime signed.checkpoint first manifest = .ok true

def SignedHead.FirstThrows (signed : SignedHead) : Prop :=
  ∃ first, firstSignature signed.checkpoint signed.witnessId = some first ∧
    Throws (fun entry => signatureEntryVerifies runtime signed.checkpoint entry manifest) first

variable (heads : List SignedHead)

/-- Two signatures of one group on heads with different roots. -/
abbrev Conflicts : Fin heads.length × Fin heads.length → Prop :=
  Clash (SignedHead.group runtime) heads (·.checkpoint.root_hash)

/-- Both heads have the size of the first head of their group, and the witness's first entry
verifies on both. -/
structure Shows (pair : Fin heads.length × Fin heads.length) : Prop where
  firstSize : heads[pair.1].checkpoint.tree_size.strictEq
    (heads.get (opener (SignedHead.group runtime) heads pair.1)).checkpoint.tree_size = true
  secondSize : heads[pair.2].checkpoint.tree_size.strictEq
    (heads.get (opener (SignedHead.group runtime) heads pair.1)).checkpoint.tree_size = true
  firstVerifies : heads[pair.1].FirstVerifies runtime manifest
  secondVerifies : heads[pair.2].FirstVerifies runtime manifest

/-- The witness's first entry on one of the heads throws: its key fails to load. -/
def Stops (pair : Fin heads.length × Fin heads.length) : Prop :=
  heads[pair.1].FirstThrows runtime manifest ∨ heads[pair.2].FirstThrows runtime manifest

/-- The first conflict, in the order of the loops, that shows an equivocation or stops the scan. -/
abbrev DecidesScan : Fin heads.length × Fin heads.length → Prop :=
  Decides (Conflicts runtime heads) (Shows runtime manifest heads) (Stops runtime manifest heads)
    (turn (SignedHead.group runtime) heads)

/-- The proof that the detector builds from two heads of the group that `opening` opened. -/
def splitViewProofOf (opening first second : SignedHead) : SplitViewFraudProof where
  schema_version := splitViewFraudProofSchemaVersion
  log_id := opening.checkpoint.log_id
  witness_id := opening.witnessId
  tree_size := opening.checkpoint.tree_size
  checkpoint_a := first.checkpoint
  checkpoint_b := second.checkpoint

def splitViewProofAt (pair : Fin heads.length × Fin heads.length) : SplitViewFraudProof :=
  splitViewProofOf (heads.get (opener (SignedHead.group runtime) heads pair.1)) (heads.get pair.1)
    (heads.get pair.2)

end Scan

section Verified

variable {runtime : Runtime} {manifest : WitnessKeyManifest}

theorem splitViewProofValid_eq_true_iff {proof : SplitViewFraudProof} :
    splitViewProofValid runtime manifest proof = .ok true ↔
      proof.schema_version = splitViewFraudProofSchemaVersion ∧
        (proof.checkpoint_a.log_id = proof.log_id ∧ proof.checkpoint_b.log_id = proof.log_id) ∧
        (proof.checkpoint_a.tree_size.strictEq proof.tree_size = true ∧
          proof.checkpoint_b.tree_size.strictEq proof.tree_size = true) ∧
        proof.checkpoint_a.root_hash ≠ proof.checkpoint_b.root_hash ∧
        witnessSignatureVerifies runtime proof.checkpoint_a proof.witness_id manifest = .ok true ∧
        witnessSignatureVerifies runtime proof.checkpoint_b proof.witness_id manifest =
          .ok true := by
  unfold splitViewProofValid verifySplitViewFraudProof
  dsimp only
  cases witnessSignatureVerifies runtime proof.checkpoint_a proof.witness_id manifest with
  | error error => simp
  | ok aSigned =>
    cases witnessSignatureVerifies runtime proof.checkpoint_b proof.witness_id manifest with
    | error error => simp
    | ok bSigned =>
      simp [FraudProofVerification.ofChecks, checkLine, sameLogCheck, sameTreeSizeCheck]

theorem splitViewProofValid_returns_iff {proof : SplitViewFraudProof} :
    (∃ verdict, splitViewProofValid runtime manifest proof = .ok verdict) ↔
      (∃ verdict, witnessSignatureVerifies runtime proof.checkpoint_a proof.witness_id manifest =
        .ok verdict) ∧
      ∃ verdict, witnessSignatureVerifies runtime proof.checkpoint_b proof.witness_id manifest =
        .ok verdict := by
  unfold splitViewProofValid verifySplitViewFraudProof
  dsimp only
  cases witnessSignatureVerifies runtime proof.checkpoint_a proof.witness_id manifest with
  | error error => simp
  | ok aSigned =>
    cases witnessSignatureVerifies runtime proof.checkpoint_b proof.witness_id manifest with
    | error error => simp
    | ok bSigned => simp

end Verified

section Tried

variable {runtime : Runtime} {manifest : WitnessKeyManifest}

private theorem witnessGroupKey_iff (first second : SignedHead) :
    witnessGroupKey runtime first.checkpoint.log_id first.witnessId first.checkpoint.tree_size =
        witnessGroupKey runtime second.checkpoint.log_id second.witnessId
          second.checkpoint.tree_size ↔
      first.group runtime = second.group runtime := by
  rw [SignedHead.group, SignedHead.group, Prod.mk.injEq, Prod.mk.injEq]
  constructor
  · intro same
    have joined : ∀ a b c : JsString, jsonArray [quote a, quote b, c] =
        js "[" ++ (quote a ++ (js "," ++ (quote b ++ (js "," ++ (c ++ js "]"))))) := by
      intro a b c
      simp [jsonArray, join]
    rw [witnessGroupKey, witnessGroupKey, joined, joined] at same
    obtain ⟨sameLog, rest⟩ := eq_of_quote_append (List.append_cancel_left same)
    obtain ⟨sameWitness, rest⟩ := eq_of_quote_append (List.append_cancel_left rest)
    exact ⟨sameLog, sameWitness, List.append_cancel_right (List.append_cancel_left rest)⟩
  · rintro ⟨sameLog, sameWitness, sameSize⟩
    rw [witnessGroupKey, witnessGroupKey, sameLog, sameWitness, sameSize]

/-- The loop that fills the groups, as one loop over the signed heads. -/
theorem witnessGroups_eq (checkpoints : List WitnessCheckpoint) :
    witnessGroups runtime checkpoints =
      (signedHeads checkpoints).foldl (InsertionMap.join
        (fun signed => witnessGroupKey runtime signed.checkpoint.log_id signed.witnessId
          signed.checkpoint.tree_size)
        (fun signed => ⟨signed.checkpoint.log_id, signed.witnessId, signed.checkpoint.tree_size,
          []⟩)
        fun group signed => { group with
          checkpoints := group.checkpoints ++ [signed.checkpoint] }) .empty := by
  rw [signedHeads, List.foldl_flatMap, witnessGroups]
  simp only [List.foldl_map]
  rfl

private theorem foldl_push (members : List SignedHead) (group : WitnessGroup) :
    members.foldl (fun group signed => { group with
        checkpoints := group.checkpoints ++ [signed.checkpoint] }) group =
      { group with checkpoints := group.checkpoints ++ members.map SignedHead.checkpoint } := by
  induction members generalizing group with
  | nil => rw [List.foldl_nil, List.map_nil, List.append_nil]
  | cons signed rest ih => rw [List.foldl_cons, ih, List.append_assoc]; rfl

private theorem candidates_foldl_push (first : SignedHead) (rest : List SignedHead) :
    ((first :: rest).foldl (fun group signed => { group with
        checkpoints := group.checkpoints ++ [signed.checkpoint] })
      (⟨first.checkpoint.log_id, first.witnessId, first.checkpoint.tree_size, []⟩ :
        WitnessGroup)).candidates =
      (orderedPairs (first :: rest)).filterMap fun pair =>
        if pair.1.checkpoint.root_hash = pair.2.checkpoint.root_hash then none
        else some (splitViewProofOf first pair.1 pair.2) := by
  rw [foldl_push, WitnessGroup.candidates, List.nil_append, orderedPairs_map, List.filterMap_map]
  rfl

theorem SignedHead.firstVerifies_iff {signed : SignedHead} :
    signed.FirstVerifies runtime manifest ↔
      witnessSignatureVerifies runtime signed.checkpoint signed.witnessId manifest = .ok true := by
  rw [FirstVerifies, firstSignature, witnessSignatureVerifies]
  cases signed.checkpoint.witness_signatures.find? fun signature =>
      signature.witness_id = signed.witnessId with
  | none => simp
  | some first => simp

theorem SignedHead.returns_iff {signed : SignedHead} :
    (∃ verdict, witnessSignatureVerifies runtime signed.checkpoint signed.witnessId manifest =
        .ok verdict) ↔
      ¬ signed.FirstThrows runtime manifest := by
  rw [FirstThrows, firstSignature, witnessSignatureVerifies]
  cases signed.checkpoint.witness_signatures.find? fun signature =>
      signature.witness_id = signed.witnessId with
  | none => simp
  | some first =>
    simp only [Option.some.injEq, exists_eq_left', Throws]
    cases signatureEntryVerifies runtime signed.checkpoint first manifest with
    | error error => simp [Except.toOption]
    | ok verified => simp [Except.toOption]

/-- The detector's scan: which pairs it tries, in which order, and what each of them yields. -/
theorem splitViewScan (runtime : Runtime) (manifest : WitnessKeyManifest)
    (checkpoints : List WitnessCheckpoint) :
    Scan (Conflicts runtime (signedHeads checkpoints))
      (Shows runtime manifest (signedHeads checkpoints))
      (Stops runtime manifest (signedHeads checkpoints))
      (turn (SignedHead.group runtime) (signedHeads checkpoints))
      (splitViewProofAt runtime (signedHeads checkpoints))
      (splitViewProofValid runtime manifest) (splitViewCandidates runtime checkpoints) := by
  set heads := signedHeads checkpoints with isHeads
  -- Log and witness of the opener are those of both heads.
  have sameGroup {pair : Fin heads.length × Fin heads.length}
      (conflict : Conflicts runtime heads pair) :
      (heads.get pair.1).group runtime =
          (heads.get (opener (SignedHead.group runtime) heads pair.1)).group runtime ∧
        (heads.get pair.2).group runtime =
          (heads.get (opener (SignedHead.group runtime) heads pair.1)).group runtime := by
    have opened := key_opener (SignedHead.group runtime) pair.1
    exact ⟨opened.symm, conflict.sameKey.symm.trans opened.symm⟩
  refine ⟨?_, ?_, ?_⟩
  · rw [splitViewCandidates, witnessGroups_eq, ← isHeads]
    exact flatMap_groups_inOrder witnessGroupKey_iff (·.checkpoint.root_hash) splitViewProofOf
      candidates_foldl_push
  · intro pair conflict
    obtain ⟨first, second⟩ := sameGroup conflict
    simp only [SignedHead.group, Prod.mk.injEq] at first second
    rw [splitViewProofValid_eq_true_iff]
    simp only [splitViewProofAt, splitViewProofOf]
    rw [← first.2.1, ← SignedHead.firstVerifies_iff, first.2.1, ← second.2.1,
      ← SignedHead.firstVerifies_iff]
    constructor
    · rintro ⟨-, -, sizes, -, firstVerifies, secondVerifies⟩
      exact ⟨sizes.1, sizes.2, firstVerifies, secondVerifies⟩
    · intro shows
      exact ⟨trivial, ⟨first.1, second.1⟩, ⟨shows.firstSize, shows.secondSize⟩, conflict.differ,
        shows.firstVerifies, shows.secondVerifies⟩
  · intro pair conflict
    obtain ⟨first, second⟩ := sameGroup conflict
    simp only [SignedHead.group, Prod.mk.injEq] at first second
    rw [splitViewProofValid_returns_iff]
    simp only [splitViewProofAt, splitViewProofOf]
    rw [← first.2.1, SignedHead.returns_iff, first.2.1, ← second.2.1, SignedHead.returns_iff,
      Stops, not_or]
    exact Iff.rfl

theorem splitViewProofAt_log_id (heads : List SignedHead)
    (pair : Fin heads.length × Fin heads.length) :
    (splitViewProofAt runtime heads pair).log_id = heads[pair.1].checkpoint.log_id :=
  congrArg Prod.fst (key_opener (SignedHead.group runtime) pair.1)

end Tried

section Exactness

variable (runtime : Runtime) (manifest : WitnessKeyManifest)

/-- Some entry of the witness in the signature list verifies. -/
def HasVerifyingSignature (checkpoint : WitnessCheckpoint) (witnessId : JsString) : Prop :=
  ∃ signature ∈ checkpoint.witness_signatures, signature.witness_id = witnessId ∧
    signatureEntryVerifies runtime checkpoint signature manifest = .ok true

/-- Two heads of one log and size with different roots, both signed by one witness. -/
def Equivocation (checkpoints : List WitnessCheckpoint) : Prop :=
  ∃ a ∈ checkpoints, ∃ b ∈ checkpoints, a.log_id = b.log_id ∧
    a.tree_size.strictEq b.tree_size = true ∧ a.root_hash ≠ b.root_hash ∧
    ∃ witnessId, HasVerifyingSignature runtime manifest a witnessId ∧
      HasVerifyingSignature runtime manifest b witnessId

/-- The first conflict of the listed heads whose first entries show an equivocation or throw
shows one. -/
def FirstEntriesReveal (checkpoints : List WitnessCheckpoint) : Prop :=
  ∃ pair, DecidesScan runtime manifest (signedHeads checkpoints) pair ∧
    Shows runtime manifest (signedHeads checkpoints) pair

/-- The detector reports exactly the equivocations, and its reports verify. -/
def DetectsExactly (checkpoints : List WitnessCheckpoint) : Prop :=
  ((∃ proof, detectSplitView runtime checkpoints manifest = .ok (some proof)) ↔
    Equivocation runtime manifest checkpoints) ∧
  ∀ proof, detectSplitView runtime checkpoints manifest = .ok (some proof) →
    ∃ verification, verifySplitViewFraudProof runtime proof manifest = .ok verification ∧
      verification.valid = true

variable {runtime manifest}

theorem hasVerifyingSignature_of_first {signed : SignedHead}
    (verifies : signed.FirstVerifies runtime manifest) :
    HasVerifyingSignature runtime manifest signed.checkpoint signed.witnessId := by
  obtain ⟨first, isFirst, verified⟩ := verifies
  have isMember := firstSignature_mem isFirst
  exact ⟨first, isMember.1, isMember.2, verified⟩

variable {checkpoints : List WitnessCheckpoint}

theorem equivocation_of_shows
    {pair : Fin (signedHeads checkpoints).length × Fin (signedHeads checkpoints).length}
    (conflict : Conflicts runtime (signedHeads checkpoints) pair)
    (shows_ : Shows runtime manifest (signedHeads checkpoints) pair) :
    Equivocation runtime manifest checkpoints := by
  have listed (i : Fin (signedHeads checkpoints).length) :
      (signedHeads checkpoints)[i].checkpoint ∈ checkpoints :=
    (mem_signedHeads_iff.mp (List.getElem_mem i.2)).1
  have sameGroup := conflict.sameKey
  simp only [SignedHead.group, Prod.mk.injEq] at sameGroup
  have secondSigned := hasVerifyingSignature_of_first shows_.secondVerifies
  rw [← sameGroup.2.1] at secondSigned
  have sameSize := JsNumber.eq_of_strictEq shows_.secondSize
  refine ⟨_, listed pair.1, _, listed pair.2, sameGroup.1, ?_, conflict.differ, _,
    hasVerifyingSignature_of_first shows_.firstVerifies, secondSigned⟩
  rw [sameSize]
  exact shows_.firstSize

theorem detects_iff_firstEntriesReveal :
    (∃ proof, detectSplitView runtime checkpoints manifest = .ok (some proof)) ↔
      FirstEntriesReveal runtime manifest checkpoints := by
  have scan := splitViewScan runtime manifest checkpoints
  simp only [detectSplitView, findFirst_eq_some_iff, scan.decisive_iff]
  constructor
  · rintro ⟨_, ⟨pair, decides, rfl⟩, valid⟩
    exact ⟨pair, decides, (scan.accepted pair decides.1).mp valid⟩
  · rintro ⟨pair, decides, isShown⟩
    exact ⟨_, ⟨pair, decides, rfl⟩, (scan.accepted pair decides.1).mpr isShown⟩

/-- A proof that the detector returns passes the verifier. -/
theorem detectSplitView_sound {proof : SplitViewFraudProof}
    (reported : detectSplitView runtime checkpoints manifest = .ok (some proof)) :
    (∃ verification, verifySplitViewFraudProof runtime proof manifest = .ok verification ∧
      verification.valid = true) ∧ Equivocation runtime manifest checkpoints := by
  have scan := splitViewScan runtime manifest checkpoints
  obtain ⟨decided, valid⟩ := findFirst_eq_some_iff.mp reported
  obtain ⟨pair, decides, rfl⟩ := scan.decisive_iff.mp decided
  refine ⟨?_, equivocation_of_shows decides.1 ((scan.accepted pair decides.1).mp valid)⟩
  obtain ⟨verification, verified, passed⟩ := bind_eq_ok.mp valid
  exact ⟨verification, verified, by simpa using passed⟩

/-- **Split-view detection.** The detector is exact on a pool exactly when an equivocation in the
pool, if any, shows in the first entries of the heads before any first entry throws. -/
theorem detectsExactly_iff (runtime : Runtime) (manifest : WitnessKeyManifest)
    (checkpoints : List WitnessCheckpoint) :
    DetectsExactly runtime manifest checkpoints ↔
      (Equivocation runtime manifest checkpoints →
        FirstEntriesReveal runtime manifest checkpoints) := by
  constructor
  · intro exact_ equivocation
    exact detects_iff_firstEntriesReveal.mp (exact_.1.mpr equivocation)
  · intro reveal
    refine ⟨⟨?_, ?_⟩, ?_⟩
    · rintro ⟨proof, reported⟩
      exact (detectSplitView_sound reported).2
    · intro equivocation
      exact detects_iff_firstEntriesReveal.mpr (reveal equivocation)
    · intro proof reported
      exact (detectSplitView_sound reported).1

end Exactness

/-! ### A sample federation

One witness with a P-256 key, and six heads it signed: two of log `log-main` at
different sizes, and for each of two logs a pair at size nine with different
roots. -/

namespace Sample

def pieces (parts : List String) : JsString := parts.flatMap js

def publicKeyPem : JsString :=
  pieces ["-----BEGIN PUBLIC KEY-----\n",
    "MFkwEwYHKoZIzj0CAQYIKoZIzj0DAQcD",
    "QgAEfA5mQSfHBrk6KGHMnUMIDOsnFei3\n",
    "hEaKopL2yMFApJEpcWV7iZatqYXlxbjw",
    "15LwhrxUwjt60Z1k/D+W9JTiag==\n",
    "-----END PUBLIC KEY-----\n"]

def manifest : WitnessKeyManifest where
  schema_version := js "ghostark.research.witness_key_manifest.v1"
  generated_at := js "2026-01-01T00:00:00Z"
  witnesses := [{
    witness_id := js "witness-a"
    signature_algorithm := js "ecdsa-p256-sha256"
    public_key_pem := publicKeyPem
    valid_from := js "2026-01-01T00:00:00Z"
    valid_until := none
    status := js "ACTIVE"
    revoked_at := none }]

def head (logId : String) (treeSize : Nat) (rootHash signature : JsString) : WitnessCheckpoint where
  schema_version := js "ghostark.research.witness_checkpoint.v1"
  log_id := js logId
  tree_size := .ofNat treeSize
  root_hash := rootHash
  integrated_time := js "2026-06-01T00:00:00Z"
  witness_signatures := [⟨js "witness-a", js "ecdsa-p256-sha256", signature⟩]

def mainTwo : WitnessCheckpoint :=
  head "log-main" 2 (pieces ["3399256b773114e25877775eda2ace2f",
    "ef243341ad27e3d48a40ebfcf14157d3"])
    (pieces ["MEYCIQCV1HJn+K4Dv3IuXe0jqmVrqAwV", "UOXr/p5ZSnhqZyPCCQIhALPr0aEC1Q+8",
      "oUm8XlUlCA/ttwmOOWt4ZUXYdKZwyFr0"])

def mainFive : WitnessCheckpoint :=
  head "log-main" 5 (pieces ["a68d90bf40df6ae25966901d3c72baac",
    "155481a170dad976f9919ca0a47f61d6"])
    (pieces ["MEUCIQCGHq2JJ6EBzLcU48cyP2lEJ5CA", "TJ5JIszSOUrlYUXMfQIgDX2c5vOYdsRE",
      "BsCm8WNkrPot8A0SZVg5FFRJojupVbc="])

def mainNineA : WitnessCheckpoint :=
  head "log-main" 9 (.replicate 64 (unit 'a'))
    (pieces ["MEQCICcwse4qA8SAQL9xXVir8jZhPZnC", "vg/zp24OMf1pxLAcAiB+laYyecY3nxDp",
      "Qv91eC73w7eogxAPmQK3IOlQrQpHAg=="])

def mainNineB : WitnessCheckpoint :=
  head "log-main" 9 (.replicate 64 (unit 'b'))
    (pieces ["MEUCIGTiJD0C7qh/RTIWZfys2t8o6YRz", "UwS8PYb7NmMkII60AiEAiuJJdLTTU94z",
      "YyhasRmMHztFm7iY5sgBEhASEMPEcNU="])

def otherNineA : WitnessCheckpoint :=
  head "log-other" 9 (.replicate 64 (unit 'a'))
    (pieces ["MEYCIQDOrUhwNsV/ikmWuqaYScOZWTrp", "SPJPcHDbU75X1e3HAwIhAKKJiOdcIdVT",
      "/Oa5Tiitlx69urkKhdzPHHkNuxvVshgA"])

def otherNineB : WitnessCheckpoint :=
  head "log-other" 9 (.replicate 64 (unit 'b'))
    (pieces ["MEYCIQDip4IpUMsZLZxxLZMp0RluDAHF", "dK+HK/cVHRelXLigRQIhAJH2hPw9nXNr",
      "Bt6QN8+3shzC2m9dJB0uoQK1Dwzk1Ajv"])

/-- Verification under the sample key: the six signed payloads verify under their
own signatures. Any other key fails to load. -/
def runtime : Runtime where
  sha256 := fips180
  numbers := decimalText
  dates := utcDates
  verifySignature payload signature pem :=
    if pem = publicKeyPem then
      return [mainTwo, mainFive, mainNineA, mainNineB, otherNineA, otherNineB].any fun signed =>
        payload = canonicalCheckpointPayload decimalText signed &&
          signed.witness_signatures.any fun entry => entry.signature = signature
    else throw (.plain (js "error:1E08010C:DECODER routines::unsupported"))

def evaluationRuntime : Runtime := { runtime with sha256 := windowSha256 }

theorem runtime_eq : runtime = evaluationRuntime := by
  rw [evaluationRuntime, ← fips180_eq_window]
  rfl

/-- Head A with an unverifiable entry of the same witness in front. -/
def mainNineHidden : WitnessCheckpoint :=
  { mainNineA with
    witness_signatures := ⟨js "witness-a", js "ecdsa-p256-sha256", js "AAAA"⟩ ::
      mainNineA.witness_signatures }

end Sample

/-- An unverifiable first entry hides an equivocation that the list proves. -/
theorem hidden_equivocation_undetected :
    ¬ DetectsExactly Sample.runtime Sample.manifest [Sample.mainNineHidden, Sample.mainNineB] := by
  have missed : detectSplitView Sample.runtime [Sample.mainNineHidden, Sample.mainNineB]
      Sample.manifest = .ok none := eq_ok_of_toOption (by decide +kernel)
  have hiddenSigned : HasVerifyingSignature Sample.runtime Sample.manifest Sample.mainNineHidden
      (js "witness-a") :=
    ⟨_, List.mem_cons_of_mem _ List.mem_cons_self, rfl, eq_ok_of_toOption (by decide +kernel)⟩
  have otherSigned : HasVerifyingSignature Sample.runtime Sample.manifest Sample.mainNineB
      (js "witness-a") :=
    ⟨_, List.mem_cons_self, rfl, eq_ok_of_toOption (by decide +kernel)⟩
  have equivocation : Equivocation Sample.runtime Sample.manifest
      [Sample.mainNineHidden, Sample.mainNineB] :=
    ⟨Sample.mainNineHidden, by simp, Sample.mainNineB, by simp, rfl, rfl, by decide,
      js "witness-a", hiddenSigned, otherSigned⟩
  intro detects
  obtain ⟨proof, reported⟩ := detects.1.mpr equivocation
  rw [missed] at reported
  exact absurd reported (by simp)

end GhostArk.ResearchFrontier.Witness
