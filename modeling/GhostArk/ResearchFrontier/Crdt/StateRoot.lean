import GhostArk.Js.Sha256Evaluation
import GhostArk.Js.Utf8
import GhostArk.ReceiptSchema.CanonicalIdentity
import GhostArk.ResearchFrontier.Crdt.LwwMap

/-!
Contract: what a state root identifies, with the receipts of
`packages/research-frontier/src/crdt/receipt.ts` as `messageBus.ts` emits them.

Owns the receipt of one application of a register, how the entries of a state are spelled, that the
root of a state is the digest of its spelling, when two states of one root are equal, when two states
are spelled alike, and that no two are whose fields are free of the delimiters.

Does not own: receipts of a floor that cannot be satisfied, which name one root twice.
-/

namespace GhostArk.ResearchFrontier.Crdt

open Js
open Lib
open ReceiptSchema (pairwise_lt_sortEntries perm_sortEntries sortEntries sortTexts_keys)

inductive CRDTStatus where
  | MERGED
  | DISCARDED
  | COLLAPSE_UNSATISFIABLE_FLOOR
deriving DecidableEq

def CRDTStatus.text : CRDTStatus → JsString
  | .MERGED => js "MERGED"
  | .DISCARDED => js "DISCARDED"
  | .COLLAPSE_UNSATISFIABLE_FLOOR => js "COLLAPSE_UNSATISFIABLE_FLOOR"

structure CRDTReceipt where
  status : CRDTStatus
  pre_state_root : JsString
  key : JsString
  register : LWWRegister
  post_state_root : JsString
  signature : JsString

def devHmacKey : JsString := js "ghost-ark-dev-only-hmac-key"

section Receipts

variable (sha256 : Sha256) (hmacSha256 : HmacSha256) (numbers : NumberText)

def receiptPayload (status : CRDTStatus) (preRoot key : JsString) (register : LWWRegister)
    (postRoot : JsString) : JsString :=
  render numbers (.object [(js "status", .string status.text), (js "preRoot", .string preRoot),
    (js "key", .string key), (js "register", .object [(js "value", .string register.value),
      (js "clock", .number (.ofNat register.clock)), (js "nodeId", .string register.nodeId),
      (js "provenance", .string register.provenance.text)]), (js "postRoot", .string postRoot)])

def buildCrdtReceipt (status : CRDTStatus) (preRoot key : JsString) (register : LWWRegister)
    (postRoot : JsString) : CRDTReceipt :=
  ⟨status, preRoot, key, register, postRoot, js "hmac-sha256:" ++ hmacSha256.hmacHex devHmacKey
    (receiptPayload numbers status preRoot key register postRoot)⟩

/-- The receipt of applying a register, as a proposal and a delivery emit it. -/
def applicationReceipt (node : LWWMap) (key : JsString) (register : LWWRegister) : CRDTReceipt :=
  let applied := node.apply key register
  buildCrdtReceipt hmacSha256 numbers (if applied.1 then .MERGED else .DISCARDED)
    (node.computeStateRoot sha256) key register (applied.2.computeStateRoot sha256)

end Receipts

def SameState (left right : LWWMap) : Prop := ∀ key, left.state.get? key = right.state.get? key

/-- One entry as `key:value:clock:nodeId:provenance`. -/
def entryFields (entry : JsString × LWWRegister) : JsString :=
  entry.1 ++ unit ':' :: (entry.2.value ++ unit ':' :: (Decimal.natText entry.2.clock ++ unit ':' ::
    (entry.2.nodeId ++ unit ':' :: entry.2.provenance.text)))

def spelling (entries : List (JsString × LWWRegister)) : JsString :=
  (entries.map entryFields).flatMap fun fields => fields ++ [unit ';']

/-- The UTF-8 of the entries of the state in the order of their keys. -/
def Spells (node : LWWMap) (bytes : List Nat) : Prop :=
  ∃ entries, entries.Perm node.state.entries ∧
    entries.Pairwise (fun left right => left.1 < right.1) ∧ bytes = utf8 (spelling entries)

def SpelledAlike (left right : LWWMap) : Prop := ∃ bytes, Spells left bytes ∧ Spells right bytes

/-- The UTF-8 of the fields of an entry, each with the delimiter that closes it. -/
def entryBytes (entry : JsString × LWWRegister) : List (List Nat × Nat) :=
  [(utf8 entry.1, unit ':'), (utf8 entry.2.value, unit ':'),
    (utf8 (Decimal.natText entry.2.clock), unit ':'), (utf8 entry.2.nodeId, unit ':'),
    (utf8 entry.2.provenance.text, unit ';')]

def fieldBytes (node : LWWMap) : List (List Nat × Nat) :=
  (sortEntries node.state.entries).flatMap entryBytes

section Spelling

variable {left right node : LWWMap}

theorem stateText_eq_spelling {entries : List (JsString × LWWRegister)}
    (permuted : entries.Perm node.state.entries)
    (sorted : entries.Pairwise fun left right => left.1 < right.1) :
    node.stateText = spelling entries := by
  rw [LWWMap.stateText, sortTexts_keys permuted sorted, spelling, List.flatMap_map, List.flatMap_map]
  apply List.flatMap_congr
  rintro ⟨key, register⟩ member
  have held : node.state.get? key = some register :=
    InsertionMap.get?_eq_some_iff.mpr (permuted.mem_iff.mp member)
  simp only [held, entryFields, List.append_assoc, List.cons_append]
  rfl

theorem spells_iff {bytes : List Nat} : Spells node bytes ↔ bytes = utf8 node.stateText := by
  constructor
  · rintro ⟨entries, permuted, sorted, rfl⟩
    rw [stateText_eq_spelling permuted sorted]
  · rintro rfl
    have permuted := perm_sortEntries node.state.entries
    have sorted := pairwise_lt_sortEntries node.state.nodup
    exact ⟨_, permuted, sorted, by rw [stateText_eq_spelling permuted sorted]⟩

theorem utf8_spelling (entries : List (JsString × LWWRegister)) :
    utf8 (spelling entries) = closed (entries.flatMap entryBytes) := by
  induction entries with
  | nil => rfl
  | cons entry entries ih =>
    have colon : (unit ':').val < 0x80 := by decide
    have semicolon : (unit ';').val < 0x80 := by decide
    rw [spelling, List.map_cons, List.flatMap_cons, ← spelling, entryFields]
    simp only [List.append_assoc, List.cons_append, List.nil_append, utf8_append_ascii colon,
      utf8_append_ascii semicolon, ih, entryBytes, List.flatMap_cons, closed_cons]

theorem spelledAlike_iff :
    SpelledAlike left right ↔ utf8 left.stateText = utf8 right.stateText := by
  simp only [SpelledAlike, spells_iff, exists_eq_left]

/-- Two states are spelled alike exactly if their fields have the same bytes, or the first field that
differs takes in the end of the other. -/
theorem spelledAlike_iff_ambiguous : SpelledAlike left right ↔
    fieldBytes left = fieldBytes right ∨ Ambiguous (fieldBytes left) (fieldBytes right) := by
  have spelled (node : LWWMap) : utf8 node.stateText = closed (fieldBytes node) := by
    rw [stateText_eq_spelling (perm_sortEntries _) (pairwise_lt_sortEntries node.state.nodup),
      utf8_spelling, fieldBytes]
  rw [spelledAlike_iff, spelled, spelled, closed_eq_iff]

end Spelling

/-! ### Delimiters -/

/-- No field takes a delimiter for a letter: keys and node ids are free of both, values of
semicolons, and none has an unpaired surrogate. -/
structure Delimited (entry : JsString × LWWRegister) : Prop where
  key : unit ':' ∉ entry.1 ∧ unit ';' ∉ entry.1
  value : unit ';' ∉ entry.2.value
  nodeId : unit ':' ∉ entry.2.nodeId ∧ unit ';' ∉ entry.2.nodeId
  wellFormed : isWellFormed entry.1 = true ∧ isWellFormed entry.2.value = true ∧
    isWellFormed entry.2.nodeId = true

section Delimiters

variable {entry other : JsString × LWWRegister}

theorem not_mem_natText {codeUnit : CodeUnit} (notDigit : isDigit codeUnit = false) (clock : Nat) :
    codeUnit ∉ Decimal.natText clock := by
  intro member
  rw [Decimal.isDigit_natText member] at notDigit
  cases notDigit

theorem provenance_delimited (provenance : Provenance) : unit ':' ∉ provenance.text ∧
    unit ';' ∉ provenance.text ∧ isWellFormed provenance.text = true := by
  cases provenance <;> decide +kernel

theorem isWellFormed_natText (clock : Nat) : isWellFormed (Decimal.natText clock) = true := by
  apply isWellFormed_of_units
  intro codeUnit member
  have digit := Decimal.isDigit_natText member
  simp only [isDigit, inRange, Bool.and_eq_true, decide_eq_true_eq] at digit
  have nine : '9'.toNat = 57 := rfl
  exact isSurrogate_ascii (by omega)

theorem Delimited.not_mem_fields (delimited : Delimited entry) : unit ';' ∉ entryFields entry := by
  have clock := not_mem_natText (show isDigit (unit ';') = false by decide) entry.2.clock
  have different : unit ';' ≠ unit ':' := by decide
  simp only [entryFields, List.mem_append, List.mem_cons, not_or]
  exact ⟨delimited.key.2, different, delimited.value, different, clock, different,
    delimited.nodeId.2, different, (provenance_delimited _).2.1⟩

theorem Delimited.isWellFormed_fields (delimited : Delimited entry) :
    isWellFormed (entryFields entry) = true := by
  have closed {rest : JsString} (formed : isWellFormed rest = true) :
      isWellFormed (unit ':' :: rest) = true := by
    rw [isWellFormed_cons (by decide), formed]
  have provenance := closed (provenance_delimited entry.2.provenance).2.2
  have nodeId := closed (isWellFormed_append delimited.wellFormed.2.2 provenance)
  have clock := closed (isWellFormed_append (isWellFormed_natText entry.2.clock) nodeId)
  have value := closed (isWellFormed_append delimited.wellFormed.2.1 clock)
  exact isWellFormed_append delimited.wellFormed.1 value

theorem entryFields_inj (delimited : Delimited entry) (otherDelimited : Delimited other)
    (same : entryFields entry = entryFields other) : entry = other := by
  have digits (clock : Nat) := not_mem_natText (show isDigit (unit ':') = false by decide) clock
  have provenance := fun register : LWWRegister => (provenance_delimited register.provenance).1
  rcases firstField_inj delimited.key.1 otherDelimited.key.1 same with ⟨sameKey, sameRegister⟩
  -- the later fields are read from the end, since a value may hold colons
  simp only [← List.cons_append, ← List.append_assoc] at sameRegister
  rcases lastField_inj (provenance _) (provenance _) sameRegister with ⟨sameRest, sameProvenance⟩
  rcases lastField_inj delimited.nodeId.1 otherDelimited.nodeId.1 sameRest with
    ⟨sameFront, sameNodeId⟩
  rcases lastField_inj (digits _) (digits _) sameFront with ⟨sameValue, sameClock⟩
  have clocks := congrArg Decimal.natOfText sameClock
  rw [Decimal.natOfText_natText, Decimal.natOfText_natText] at clocks
  have provenances : entry.2.provenance = other.2.provenance := by
    revert sameProvenance
    cases entry.2.provenance <;> cases other.2.provenance <;> decide +kernel
  rcases entry with ⟨key, value, clock, nodeId, provenance⟩
  rcases other with ⟨otherKey, otherValue, otherClock, otherNodeId, otherProvenance⟩
  simp only at sameKey sameValue clocks sameNodeId provenances
  rw [sameKey, sameValue, clocks, sameNodeId, provenances]

theorem sameState_of_spelledAlike {left right : LWWMap}
    (leftDelimited : ∀ entry ∈ left.state.entries, Delimited entry)
    (rightDelimited : ∀ entry ∈ right.state.entries, Delimited entry)
    (alike : SpelledAlike left right) : SameState left right := by
  rcases alike with ⟨bytes, ⟨entries, isLeft, -, isBytes⟩, others, isRight, -, sameBytes⟩
  have delimited : ∀ entry ∈ entries, Delimited entry := fun entry member =>
    leftDelimited entry (isLeft.mem_iff.mp member)
  have otherDelimited : ∀ entry ∈ others, Delimited entry := fun entry member =>
    rightDelimited entry (isRight.mem_iff.mp member)
  have sameEntries := records_inj Delimited.isWellFormed_fields Delimited.not_mem_fields
    entryFields_inj delimited otherDelimited (isBytes.symm.trans sameBytes)
  exact InsertionMap.get?_eq_iff_perm.mpr (isLeft.symm.trans (sameEntries ▸ isRight))

end Delimiters

/-! ### State roots -/

/-- The roots tell two states apart, and a receipt of an application that leads from the one to the
other names one root twice exactly if the state did not change. -/
structure RootsIdentify (sha256 : Sha256) (left right : LWWMap) : Prop where
  roots : left.computeStateRoot sha256 = right.computeStateRoot sha256 ↔ SameState left right
  receipts : ∀ (hmacSha256 : HmacSha256) (numbers : NumberText) (key : JsString)
    (register : LWWRegister), (left.apply key register).2 = right →
      ((applicationReceipt sha256 hmacSha256 numbers left key register).pre_state_root =
        (applicationReceipt sha256 hmacSha256 numbers left key register).post_state_root ↔
          SameState left right)

/-- **State roots.** Without a collision of the two hashed texts, the roots of two states identify
them exactly when the states are not spelled alike unless they are equal. States are spelled alike
only by the first field that differs, which takes in a delimiter, or by fields of the same bytes; so
the roots identify any states whose fields are free of the delimiters. -/
theorem rootsIdentify_iff (sha256 : Sha256) (hashesBytes : sha256.HashesBytes)
    (left right : LWWMap)
    (clean : sha256.BytesCollisionFreeOn [left.stateText, right.stateText]) :
    (RootsIdentify sha256 left right ↔ (SpelledAlike left right → SameState left right)) ∧
      (SpelledAlike left right ↔
        fieldBytes left = fieldBytes right ∨ Ambiguous (fieldBytes left) (fieldBytes right)) ∧
      ((∀ entry ∈ left.state.entries ++ right.state.entries, Delimited entry) →
        RootsIdentify sha256 left right) := by
  have exactly : RootsIdentify sha256 left right ↔
      (SpelledAlike left right → SameState left right) := by
    constructor
    · intro identify alike
      apply identify.roots.mp
      rw [LWWMap.computeStateRoot, LWWMap.computeStateRoot,
        hashesBytes _ _ (spelledAlike_iff.mp alike)]
    · intro unlike
      have roots : left.computeStateRoot sha256 = right.computeStateRoot sha256 ↔
          SameState left right := by
        constructor
        · intro same
          have digests := List.append_cancel_left same
          exact unlike (spelledAlike_iff.mpr
            (clean _ (.head _) _ (.tail _ (.head _)) digests))
        · intro same
          exact LWWMap.computeStateRoot_congr same sha256
      refine ⟨roots, ?_⟩
      rintro hmacSha256 numbers key register rfl
      exact roots
  refine ⟨exactly, spelledAlike_iff_ambiguous, fun delimited => exactly.mpr fun alike => ?_⟩
  exact sameState_of_spelledAlike
    (fun entry member => delimited entry (List.mem_append_left _ member))
    (fun entry member => delimited entry (List.mem_append_right _ member)) alike

namespace StateRootSample

def register (value : JsString) (clock : Nat) (nodeId : JsString) : LWWRegister :=
  ⟨value, clock, nodeId, .AGENT_ASSERTED⟩

def holding (key : JsString) (held : LWWRegister) : LWWMap :=
  ((LWWMap.new (js "n")).apply key held).2

def before : LWWMap := holding (js "k") (register (js "x") 1 (js "m"))

def after : LWWMap := holding (js "k") (register (js "y") 2 (js "m"))

theorem before_identified : RootsIdentify fips180 before after := by
  have clean : fips180.BytesCollisionFreeOn [before.stateText, after.stateText] := by
    have different : fips180.sha256Hex before.stateText ≠ fips180.sha256Hex after.stateText := by
      rw [fips180_eq_window]
      decide +kernel
    exact .of_ne different
  have hashesBytes : fips180.HashesBytes := fun _ _ sameBytes =>
    congrArg (fun bytes => (Fips180.digest bytes).hex) sameBytes
  apply (rootsIdentify_iff fips180 hashesBytes before after clean).2.2
  intro entry member
  have one : entry ∈ [(js "k", register (js "x") 1 (js "m")),
      (js "k", register (js "y") 2 (js "m"))] := member
  simp only [List.mem_cons, List.not_mem_nil, or_false] at one
  rcases one with rfl | rfl
  · exact ⟨by decide, by decide, by decide, by decide⟩
  · exact ⟨by decide, by decide, by decide, by decide⟩

/-- `k:x:1:2:m:AGENT_ASSERTED;` has two readings. -/
def earlier : LWWMap := holding (js "k") (register (js "x") 1 (js "2:m"))

def incoming : LWWRegister := register (js "x:1") 2 (js "m")

/-- A merge that changes the state is witnessed by a receipt that names one root twice. -/
theorem incoming_unseen :
    ¬ ∀ left right : LWWMap, fips180.BytesCollisionFreeOn [left.stateText, right.stateText] →
      RootsIdentify fips180 left right := by
  intro identify
  have sameText : (earlier.apply (js "k") incoming).2.stateText = earlier.stateText := by
    decide +kernel
  have clean : fips180.BytesCollisionFreeOn
      [earlier.stateText, (earlier.apply (js "k") incoming).2.stateText] := .of_eq sameText.symm
  have sameRoot : earlier.computeStateRoot fips180 =
      (earlier.apply (js "k") incoming).2.computeStateRoot fips180 := by
    rw [LWWMap.computeStateRoot, LWWMap.computeStateRoot, sameText]
  have identified := (identify earlier _ clean).roots.mp sameRoot (js "k")
  have changed : (earlier.state.get? (js "k") =
      (earlier.apply (js "k") incoming).2.state.get? (js "k")) = False := by
    decide +kernel
  exact changed.mp identified

example : (applicationReceipt fips180 fips198 decimalText earlier (js "k") incoming).status =
    .MERGED := by
  decide +kernel

end StateRootSample

end GhostArk.ResearchFrontier.Crdt
