import GhostArk.Js.Sha256Evaluation
import GhostArk.Js.Utf8
import GhostArk.Lib.InsertionMap
import GhostArk.ReceiptSchema.CanonicalIdentity

/-!
Contract: `packages/enforcement-runtime/src/gateway/occGate.ts`.

Owns read sets, their projection hash, the gate with its list of conflicting keys; that the list is
empty exactly for equal read sets; when two read sets are spelled alike, as keys and values with the
separators in them can be; and that the comparison of the hashes agrees with the list unless two
different ones are.
-/

namespace GhostArk.EnforcementRuntime.Gateway

open Js
open Lib
open ReceiptSchema (pairwise_lt_sortEntries perm_sortEntries sortEntries sortTexts_keys)

/-- `Record<string, string>`, with its members in the order they were added. -/
abbrev ReadSet := InsertionMap JsString JsString

structure OCCGateInput where
  trajectoryId : JsString
  forkReadSet : ReadSet
  commitReadSet : ReadSet

structure OCCGateResult where
  admitted : Bool
  forkProjectionHash : JsString
  commitProjectionHash : JsString
  conflictingKeys : List JsString
  reason : Option JsString
deriving DecidableEq

def ReadSet.keys (readSet : ReadSet) : List JsString :=
  (objectOrder readSet.entries).map Prod.fst

/-- The text that is hashed: `k:v` for each key in ascending order, separated by `;`. -/
def ReadSet.serialized (readSet : ReadSet) : JsString :=
  join (js ";") ((sortTexts readSet.keys).map fun key =>
    key ++ js ":" ++ (readSet.get? key).getD (js "undefined"))

section Gate

variable (sha256 : Sha256)

def computeReadSetProjectionHash (readSet : ReadSet) : JsString :=
  sha256.sha256Hex readSet.serialized

/-- The keys whose values differ. A key of one read set alone is read from the other as `undefined`,
or as a value of `Object.prototype`, which is no string. -/
def conflictingKeys (fork commit : ReadSet) : List JsString :=
  (distinct (fork.keys ++ commit.keys)).filter fun key => fork.get? key ≠ commit.get? key

def evaluateOCCGate (input : OCCGateInput) : OCCGateResult :=
  let forkProjectionHash := computeReadSetProjectionHash sha256 input.forkReadSet
  let commitProjectionHash := computeReadSetProjectionHash sha256 input.commitReadSet
  let conflicting := conflictingKeys input.forkReadSet input.commitReadSet
  let admitted := decide (forkProjectionHash = commitProjectionHash)
  { admitted
    forkProjectionHash
    commitProjectionHash
    conflictingKeys := conflicting
    reason :=
      if admitted then none
      else some (js "OCC read-set projection conflict on keys: " ++ join (js ", ") conflicting) }

end Gate

def SameReadSet (fork commit : ReadSet) : Prop := ∀ key, fork.get? key = commit.get? key

section Equal

variable {fork commit readSet : ReadSet}

theorem perm_keys (readSet : ReadSet) : readSet.keys.Perm (readSet.entries.map Prod.fst) :=
  (perm_objectOrder readSet.entries).map Prod.fst

theorem not_mem_keys {key : JsString} : key ∉ readSet.keys ↔ readSet.get? key = none := by
  rw [(perm_keys readSet).mem_iff, InsertionMap.get?_eq_none_iff]

theorem conflictingKeys_eq_nil_iff : conflictingKeys fork commit = [] ↔ SameReadSet fork commit := by
  rw [conflictingKeys, List.filter_eq_nil_iff]
  constructor
  · intro agree key
    by_cases isKey : key ∈ fork.keys ++ commit.keys
    · have kept := agree key (List.mem_eraseDups.mpr isKey)
      rwa [decide_eq_true_eq, not_not] at kept
    · rw [List.mem_append, not_or, not_mem_keys, not_mem_keys] at isKey
      rw [isKey.1, isKey.2]
  · intro same key _
    rw [decide_eq_true_eq, not_not]
    exact same key

end Equal

/-- One entry as `key:value`. -/
def entryField (entry : JsString × JsString) : JsString := entry.1 ++ unit ':' :: entry.2

/-- The UTF-8 of the entries in the order of their keys, separated by semicolons. -/
def Spells (readSet : ReadSet) (bytes : List Nat) : Prop :=
  ∃ entries : List (JsString × JsString), entries.Perm readSet.entries ∧
    entries.Pairwise (fun left right => left.1 < right.1) ∧
      bytes = utf8 (join (js ";") (entries.map entryField))

def SpelledAlike (fork commit : ReadSet) : Prop := ∃ bytes, Spells fork bytes ∧ Spells commit bytes

/-- The UTF-8 of the fields of an entry, each with the separator that closes it. -/
def entryBytes (entry : JsString × JsString) : List (List Nat × Nat) :=
  [(utf8 entry.1, unit ':'), (utf8 entry.2, unit ';')]

def ReadSet.fieldBytes (readSet : ReadSet) : List (List Nat × Nat) :=
  (sortEntries readSet.entries).flatMap entryBytes

section Spelling

variable {fork commit readSet : ReadSet}

theorem serialized_eq {entries : List (JsString × JsString)}
    (permuted : entries.Perm readSet.entries)
    (ascending : entries.Pairwise fun left right => left.1 < right.1) :
    readSet.serialized = join (js ";") (entries.map entryField) := by
  rw [ReadSet.serialized, sortTexts_congr (perm_keys readSet), sortTexts_keys permuted ascending,
    List.map_map]
  congr 1
  apply List.map_congr_left
  rintro ⟨key, value⟩ member
  have held : readSet.get? key = some value :=
    InsertionMap.get?_eq_some_iff.mpr (permuted.mem_iff.mp member)
  simp only [Function.comp_apply, held, Option.getD_some, entryField, List.append_assoc]
  rfl

theorem spells_iff {bytes : List Nat} : Spells readSet bytes ↔ bytes = utf8 readSet.serialized := by
  constructor
  · rintro ⟨entries, permuted, ascending, rfl⟩
    rw [serialized_eq permuted ascending]
  · rintro rfl
    have permuted := perm_sortEntries readSet.entries
    have ascending := pairwise_lt_sortEntries readSet.nodup
    exact ⟨_, permuted, ascending, by rw [serialized_eq permuted ascending]⟩

theorem spelledAlike_iff :
    SpelledAlike fork commit ↔ utf8 fork.serialized = utf8 commit.serialized := by
  simp only [SpelledAlike, spells_iff, exists_eq_left]

/-- The entries, each closed by a semicolon. -/
def spelling (entries : List (JsString × JsString)) : JsString :=
  (entries.map entryField).flatMap fun field => field ++ [unit ';']

theorem utf8_spelling (entries : List (JsString × JsString)) :
    utf8 (spelling entries) = closed (entries.flatMap entryBytes) := by
  induction entries with
  | nil => rfl
  | cons entry entries ih =>
    have colon : (unit ':').val < 0x80 := by decide
    have semicolon : (unit ';').val < 0x80 := by decide
    rw [spelling, List.map_cons, List.flatMap_cons, ← spelling, entryField]
    simp only [List.append_assoc, List.cons_append, List.nil_append, utf8_append_ascii colon,
      utf8_append_ascii semicolon, ih, entryBytes, List.flatMap_cons, closed_cons]

/-- The text that is hashed leaves the last entry unclosed. -/
theorem utf8_join_eq_iff (entries others : List (JsString × JsString)) :
    utf8 (join (js ";") (entries.map entryField)) = utf8 (join (js ";") (others.map entryField)) ↔
      utf8 (spelling entries) = utf8 (spelling others) := by
  have closes (first : JsString × JsString) (rest : List (JsString × JsString)) :
      utf8 (spelling (first :: rest)) =
        utf8 (join (js ";") ((first :: rest).map entryField)) ++ [(unit ';').val] := by
    rw [spelling, List.map_cons, ← intercalate_close, ← join_eq_intercalate,
      utf8_append_ascii (by decide)]
    rfl
  have nonempty (first : JsString × JsString) (rest : List (JsString × JsString)) :
      utf8 (join (js ";") ((first :: rest).map entryField)) ≠ [] := by
    intro isEmpty
    have lengths := congrArg List.length (closes first rest)
    rw [isEmpty, utf8_spelling] at lengths
    simp [entryBytes, closed_cons] at lengths
    omega
  cases entries with
  | nil =>
    cases others with
    | nil => exact iff_of_true rfl rfl
    | cons second others =>
      refine iff_of_false (nonempty second others).symm ?_
      rw [closes]
      simp [spelling, utf8]
  | cons first rest =>
    cases others with
    | nil =>
      refine iff_of_false (nonempty first rest) ?_
      rw [closes]
      simp [spelling, utf8]
    | cons second others => rw [closes, closes, List.append_left_inj]

/-- Two read sets are spelled alike exactly if their fields have the same bytes, or the first field
that differs takes in the end of the other. -/
theorem spelledAlike_iff_ambiguous : SpelledAlike fork commit ↔
    fork.fieldBytes = commit.fieldBytes ∨ Ambiguous fork.fieldBytes commit.fieldBytes := by
  have spelled (readSet : ReadSet) : readSet.serialized =
      join (js ";") ((sortEntries readSet.entries).map entryField) :=
    serialized_eq (perm_sortEntries _) (pairwise_lt_sortEntries readSet.nodup)
  rw [spelledAlike_iff, spelled, spelled, utf8_join_eq_iff, utf8_spelling, utf8_spelling,
    closed_eq_iff, ReadSet.fieldBytes, ReadSet.fieldBytes]

/-- Equal read sets are spelled alike. -/
theorem SameReadSet.spelledAlike (same : SameReadSet fork commit) : SpelledAlike fork commit := by
  have permuted := perm_sortEntries fork.entries
  have ascending := pairwise_lt_sortEntries fork.nodup
  exact ⟨_, ⟨_, permuted, ascending, rfl⟩, _, permuted.trans (InsertionMap.get?_eq_iff_perm.mp same), ascending, rfl⟩

end Spelling

/-! ### Separators -/

/-- The key is free of both separators, the value of semicolons, and neither has an unpaired
surrogate. -/
structure Separated (entry : JsString × JsString) : Prop where
  key : unit ':' ∉ entry.1 ∧ unit ';' ∉ entry.1
  value : unit ';' ∉ entry.2
  wellFormed : isWellFormed entry.1 = true ∧ isWellFormed entry.2 = true

section Separators

variable {entry other : JsString × JsString}

theorem Separated.not_mem_field (separated : Separated entry) : unit ';' ∉ entryField entry := by
  rw [entryField, List.mem_append, List.mem_cons, not_or, not_or]
  exact ⟨separated.key.2, by decide, separated.value⟩

theorem Separated.isWellFormed_field (separated : Separated entry) :
    isWellFormed (entryField entry) = true := by
  apply isWellFormed_append separated.wellFormed.1
  rw [isWellFormed_cons (by decide)]
  exact separated.wellFormed.2

theorem entryField_inj (separated : Separated entry) (otherSeparated : Separated other)
    (same : entryField entry = entryField other) : entry = other := by
  rcases firstField_inj separated.key.1 otherSeparated.key.1 same with ⟨sameKey, sameValue⟩
  exact Prod.ext sameKey sameValue

/-- Read sets without separators that are spelled alike are equal. -/
theorem sameReadSet_of_spelledAlike {fork commit : ReadSet}
    (separated : ∀ entry ∈ fork.entries, Separated entry)
    (otherSeparated : ∀ entry ∈ commit.entries, Separated entry)
    (alike : SpelledAlike fork commit) : SameReadSet fork commit := by
  rcases alike with ⟨bytes, ⟨entries, isFork, -, isBytes⟩, others, isCommit, -, sameBytes⟩
  have inFork : ∀ entry ∈ entries, Separated entry := fun entry member =>
    separated entry (isFork.mem_iff.mp member)
  have inCommit : ∀ entry ∈ others, Separated entry := fun entry member =>
    otherSeparated entry (isCommit.mem_iff.mp member)
  have sameEntries := records_inj Separated.isWellFormed_field Separated.not_mem_field entryField_inj
    inFork inCommit ((utf8_join_eq_iff _ _).mp (isBytes.symm.trans sameBytes))
  exact InsertionMap.get?_eq_iff_perm.mpr (isFork.symm.trans (sameEntries ▸ isCommit))

end Separators

/-! ### Admission -/

/-- The gate admits the input exactly if the read sets are equal, and exactly then no key is in
conflict. -/
structure AdmitsUnchanged (sha256 : Sha256) (input : OCCGateInput) : Prop where
  admitted : (evaluateOCCGate sha256 input).admitted = true ↔
    SameReadSet input.forkReadSet input.commitReadSet
  unconflicted : SameReadSet input.forkReadSet input.commitReadSet ↔
    (evaluateOCCGate sha256 input).conflictingKeys = []

/-- **The gate.** Without a collision of the two hashed texts, the gate admits exactly unchanged read
sets unless they are spelled alike without being equal. Read sets are spelled alike only by the first
field that differs, which takes in a separator, or by fields of the same bytes; so the gate does for
any read sets whose keys and values are free of the separators. -/
theorem admitsUnchanged_iff (sha256 : Sha256) (hashesBytes : sha256.HashesBytes)
    (input : OCCGateInput)
    (clean : sha256.BytesCollisionFreeOn
      [input.forkReadSet.serialized, input.commitReadSet.serialized]) :
    (AdmitsUnchanged sha256 input ↔ (SpelledAlike input.forkReadSet input.commitReadSet →
      SameReadSet input.forkReadSet input.commitReadSet)) ∧
      (SpelledAlike input.forkReadSet input.commitReadSet ↔
        input.forkReadSet.fieldBytes = input.commitReadSet.fieldBytes ∨
          Ambiguous input.forkReadSet.fieldBytes input.commitReadSet.fieldBytes) ∧
      ((∀ entry ∈ input.forkReadSet.entries ++ input.commitReadSet.entries, Separated entry) →
        AdmitsUnchanged sha256 input) := by
  have admittedAlike : (evaluateOCCGate sha256 input).admitted = true ↔
      SpelledAlike input.forkReadSet input.commitReadSet := by
    rw [spelledAlike_iff, evaluateOCCGate, decide_eq_true_eq]
    exact ⟨clean _ (.head _) _ (.tail _ (.head _)), hashesBytes _ _⟩
  have exactly : AdmitsUnchanged sha256 input ↔
      (SpelledAlike input.forkReadSet input.commitReadSet →
        SameReadSet input.forkReadSet input.commitReadSet) := by
    constructor
    · exact fun admits alike => admits.admitted.mp (admittedAlike.mpr alike)
    · intro unlike
      refine ⟨?_, conflictingKeys_eq_nil_iff.symm⟩
      rw [admittedAlike]
      exact ⟨unlike, SameReadSet.spelledAlike⟩
  refine ⟨exactly, spelledAlike_iff_ambiguous, fun separated => exactly.mpr fun alike => ?_⟩
  exact sameReadSet_of_spelledAlike
    (fun entry member => separated entry (List.mem_append_left _ member))
    (fun entry member => separated entry (List.mem_append_right _ member)) alike

namespace GateSample

def readSet (entries : List (JsString × JsString)) : ReadSet :=
  entries.foldl (fun readSet entry => readSet.set entry.1 entry.2) .empty

def input (fork commit : List (JsString × JsString)) : OCCGateInput :=
  ⟨js "traj-101", readSet fork, readSet commit⟩

/-- A document that another transaction writes between fork and commit. -/
def mutated : OCCGateInput :=
  input [(js "doc1", js "hashA"), (js "doc2", js "hashB")]
    [(js "doc1", js "hashA"), (js "doc2", js "hashC")]

theorem hashesBytes_fips180 : fips180.HashesBytes := fun _ _ sameBytes =>
  congrArg (fun bytes => (Fips180.digest bytes).hex) sameBytes

/-- A document changes between fork and commit, and the gate refuses. -/
theorem mutated_admitsUnchanged : AdmitsUnchanged fips180 mutated := by
  have clean : fips180.BytesCollisionFreeOn
      [mutated.forkReadSet.serialized, mutated.commitReadSet.serialized] := by
    have different : fips180.sha256Hex mutated.forkReadSet.serialized ≠
        fips180.sha256Hex mutated.commitReadSet.serialized := by
      rw [fips180_eq_window]
      decide +kernel
    exact .of_ne different
  apply (admitsUnchanged_iff fips180 hashesBytes_fips180 mutated clean).2.2
  intro entry member
  have one : entry ∈ [(js "doc1", js "hashA"), (js "doc2", js "hashB"), (js "doc1", js "hashA"),
      (js "doc2", js "hashC")] := member
  simp only [List.mem_cons, List.not_mem_nil, or_false] at one
  rcases one with rfl | rfl | rfl | rfl <;>
    exact ⟨by decide +kernel, by decide +kernel, by decide +kernel⟩

/-- `a:1;b:2` is one entry or two. -/
def respelled : OCCGateInput :=
  input [(js "a", js "1;b:2")] [(js "a", js "1"), (js "b", js "2")]

/-- Two entries in the place of one are admitted. -/
theorem respelled_admitted :
    ¬ ∀ input : OCCGateInput, fips180.BytesCollisionFreeOn
      [input.forkReadSet.serialized, input.commitReadSet.serialized] →
        AdmitsUnchanged fips180 input := by
  intro admits
  have sameText : respelled.forkReadSet.serialized = respelled.commitReadSet.serialized := by
    decide +kernel
  have isAdmitted : (evaluateOCCGate fips180 respelled).admitted = true := by
    rw [evaluateOCCGate, decide_eq_true_eq, computeReadSetProjectionHash,
      computeReadSetProjectionHash, sameText]
  have same := (admits respelled (.of_eq sameText)).admitted.mp isAdmitted (js "b")
  have changed : (respelled.forkReadSet.get? (js "b") =
      respelled.commitReadSet.get? (js "b")) = False := by
    decide +kernel
  exact changed.mp same

example : conflictingKeys respelled.forkReadSet respelled.commitReadSet = [js "a", js "b"] := by
  decide +kernel

end GateSample

end GhostArk.EnforcementRuntime.Gateway
