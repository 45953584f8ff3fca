import GhostArk.EnforcementRuntime.Receipts.Canonical
import GhostArk.Js.Decimal
import GhostArk.Js.Sha256Evaluation
import GhostArk.Lib.LinearChain

/-!
Contract: `packages/enforcement-runtime/src/receipts/chain.ts`.

Owns the chain verifier with every check and detail text, the exact condition
under which all of its checks pass, and tamper evidence: on accepted chains the
hash of the last receipt determines every receipt.

A hole of the candidate array is read as `undefined`.
-/

namespace GhostArk.EnforcementRuntime.Receipts

open Js ReceiptSchema Lib

structure ReceiptChainCheck where
  index : Int
  passed : Bool
  detail : JsString
deriving DecidableEq, Repr

section Verifier

variable (runtime : ReceiptRuntime)

/-- A validated candidate, or the message of its validation error. -/
def validatedEntry (candidate : JsValue) : Except JsString SignedDecisionReceipt :=
  match validateSignedDecisionReceipt runtime candidate with
  | .ok receipt => .ok receipt
  | .error error => .error error.message

def checkContinuity (index : Nat) (previous : Option (Except JsString SignedDecisionReceipt))
    (receipt : SignedDecisionReceipt) : Except JsError ReceiptChainCheck :=
  match previous with
  | none =>
    if receipt.prev_receipt_hash = none then
      .ok ⟨index, true, js "First receipt has no previous receipt hash."⟩
    else .ok ⟨index, false, js "First receipt unexpectedly declares a previous receipt hash."⟩
  | some (.error _) =>
    .ok ⟨index, false,
      js "Cannot verify receipt chain continuity because the prior receipt is invalid."⟩
  | some (.ok previous) =>
    if (runtime.dates.parse receipt.timestamp).lt (runtime.dates.parse previous.timestamp) then
      .ok ⟨index, false, js "Receipt timestamp " ++ receipt.timestamp ++
        js " is earlier than prior receipt timestamp " ++ previous.timestamp ++ js "."⟩
    else do
      let expected ← signedDecisionReceiptHash runtime previous
      if receipt.prev_receipt_hash = some expected then
        .ok ⟨index, true, js "Previous receipt hash matches prior signed receipt."⟩
      else
        .ok ⟨index, false, js "Hash-chain break. Expected " ++ expected ++ js "; observed " ++
          receipt.prev_receipt_hash.getD (js "null") ++ js "."⟩

/-- One round of the loop: the check, and the hashes seen after it. -/
def checkEntry (firstTenant : Option JsString) (index : Nat)
    (previous : Option (Except JsString SignedDecisionReceipt)) (seenHashes : List JsString)
    (entry : Except JsString SignedDecisionReceipt) :
    Except JsError (ReceiptChainCheck × List JsString) :=
  match entry with
  | .error message =>
    .ok (⟨index, false, js "Receipt schema validation failed: " ++ message⟩, seenHashes)
  | .ok receipt =>
    if firstTenant.any (receipt.tenant_id_hash != ·) then
      .ok (⟨index, false, js "Tenant-chain break. Expected tenant " ++ firstTenant.getD [] ++
        js "; observed " ++ receipt.tenant_id_hash ++ js "."⟩, seenHashes)
    else do
      let currentHash ← signedDecisionReceiptHash runtime receipt
      if currentHash ∈ seenHashes then
        .ok (⟨index, false, js "Duplicate signed receipt hash observed: " ++ currentHash ++
          js "."⟩, seenHashes)
      else do
        let check ← checkContinuity runtime index previous receipt
        .ok (check, currentHash :: seenHashes)

def checkEntries (firstTenant : Option JsString) :
    Nat → Option (Except JsString SignedDecisionReceipt) → List JsString →
      List (Except JsString SignedDecisionReceipt) → Except JsError (List ReceiptChainCheck)
  | _, _, _, [] => .ok []
  | index, previous, seenHashes, entry :: rest => do
    let (check, seenHashes) ← checkEntry runtime firstTenant index previous seenHashes entry
    let checks ← checkEntries firstTenant (index + 1) (some entry) seenHashes rest
    return check :: checks

/-- `validated[0].receipt?.tenant_id_hash`. -/
def firstTenantOf (validated : List (Except JsString SignedDecisionReceipt)) : Option JsString :=
  match validated with
  | .ok receipt :: _ => some receipt.tenant_id_hash
  | _ => none

def verifyDecisionReceiptChain (receipts : JsValue) : Except JsError (List ReceiptChainCheck) :=
  match receipts with
  | .array [] => .ok [⟨-1, false, js "Receipt chain must contain at least one receipt."⟩]
  | .array candidates =>
    let validated := candidates.map (validatedEntry runtime)
    checkEntries runtime (firstTenantOf validated) 0 none [] validated
  | _ => .ok [⟨-1, false, js "Receipt chain must be an array."⟩]

def ChainVerified (receipts : JsValue) : Prop :=
  ∃ checks, verifyDecisionReceiptChain runtime receipts = .ok checks ∧
    ∀ check ∈ checks, check.passed = true

/-! ### What an accepted chain is -/

/-- A first receipt. -/
def IsGenesis (receipt : SignedDecisionReceipt) : Prop := receipt.prev_receipt_hash = none

/-- `receipt` declares the hash of `previous`. -/
def Follows (previous receipt : SignedDecisionReceipt) : Prop :=
  ∃ hash, signedDecisionReceiptHash runtime previous = .ok hash ∧
    receipt.prev_receipt_hash = some hash

/-- The timestamp of `receipt` does not parse to an earlier time. -/
def NotEarlier (previous receipt : SignedDecisionReceipt) : Prop :=
  (runtime.dates.parse receipt.timestamp).lt (runtime.dates.parse previous.timestamp) = false

instance (previous receipt : SignedDecisionReceipt) :
    Decidable (NotEarlier runtime previous receipt) :=
  inferInstanceAs (Decidable (_ = false))

/-- The condition on a non-empty list of receipts under which the verifier accepts it. -/
structure AcceptableChain (receipts : List SignedDecisionReceipt) : Prop where
  oneTenant : ∀ first ∈ receipts.head?, ∀ receipt ∈ receipts,
    receipt.tenant_id_hash = first.tenant_id_hash
  hashed : ∀ receipt ∈ receipts, ∃ hash, signedDecisionReceiptHash runtime receipt = .ok hash
  distinct : (receipts.map (signedDecisionReceiptHash runtime)).Nodup
  linked : Linked IsGenesis (Follows runtime) receipts
  inOrder : receipts.IsChain (NotEarlier runtime)

/-- `receipt` may come next: first of all, or after `previous`. -/
private def Continues : Option SignedDecisionReceipt → SignedDecisionReceipt → Prop
  | none, receipt => IsGenesis receipt
  | some previous, receipt => Follows runtime previous receipt ∧ NotEarlier runtime previous receipt

/-- The verifier's loop accepts `receipts` after `previous` and the hashes `seenHashes`. -/
private def Extends (tenant : JsString) :
    Option SignedDecisionReceipt → List JsString → List SignedDecisionReceipt → Prop
  | _, _, [] => True
  | previous, seenHashes, receipt :: rest =>
    receipt.tenant_id_hash = tenant ∧
      ∃ hash, signedDecisionReceiptHash runtime receipt = .ok hash ∧ hash ∉ seenHashes ∧
        Continues runtime previous receipt ∧ Extends tenant (some receipt) (hash :: seenHashes) rest

variable {runtime}

private theorem passed_ok_iff {check : ReceiptChainCheck} :
    (∃ found, (Except.ok check : Except JsError ReceiptChainCheck) = .ok found ∧
      found.passed = true) ↔ check.passed = true := by
  constructor
  · rintro ⟨found, same, passed⟩
    rw [Except.ok.inj same]
    exact passed
  · intro passed
    exact ⟨check, rfl, passed⟩

variable {previous : Option SignedDecisionReceipt}

variable {receipt : SignedDecisionReceipt}

private theorem checkContinuity_passed_iff {index : Nat} :
    (∃ check, checkContinuity runtime index (previous.map .ok) receipt = .ok check ∧
      check.passed = true) ↔ Continues runtime previous receipt := by
  cases previous with
  | none =>
    simp only [Option.map_none, checkContinuity, Continues, IsGenesis]
    split
    next isFirst => exact passed_ok_iff.trans (by simp only [isFirst])
    next notFirst => exact passed_ok_iff.trans (by simp only [notFirst, Bool.false_eq_true])
  | some previous =>
    simp only [Option.map_some, checkContinuity, Continues, NotEarlier, Follows]
    split
    next earlier =>
      exact passed_ok_iff.trans (by simp only [earlier, Bool.false_eq_true, Bool.true_eq_false,
        and_false])
    next notEarlier =>
      cases hashed : signedDecisionReceiptHash runtime previous with
      | error error => simp only [error_bind, reduceCtorEq, false_and, exists_false]
      | ok expected =>
        simp only [ok_bind, Except.ok.injEq, exists_eq_left', notEarlier, and_true]
        split
        next matching => exact passed_ok_iff.trans (by simp only [matching])
        next broken => exact passed_ok_iff.trans (by simp only [broken, Bool.false_eq_true])

variable {tenant : JsString}

private theorem checkEntry_passed_iff {index : Nat} {seenHashes seenAfter : List JsString}
    {entry : Except JsString SignedDecisionReceipt} :
    (∃ check, checkEntry runtime (some tenant) index (previous.map .ok) seenHashes entry =
        .ok (check, seenAfter) ∧ check.passed = true) ↔
      ∃ receipt, entry = .ok receipt ∧ receipt.tenant_id_hash = tenant ∧
        ∃ hash, signedDecisionReceiptHash runtime receipt = .ok hash ∧ hash ∉ seenHashes ∧
          Continues runtime previous receipt ∧ seenAfter = hash :: seenHashes := by
  cases entry with
  | error message => simp [checkEntry]
  | ok receipt =>
    simp only [checkEntry, Option.any_some, bne_iff_ne, ne_eq, Except.ok.injEq, exists_eq_left']
    by_cases sameTenant : receipt.tenant_id_hash = tenant
    · rw [if_neg (not_not_intro sameTenant)]
      simp only [sameTenant, true_and]
      cases hashed : signedDecisionReceiptHash runtime receipt with
      | error error => simp only [error_bind, reduceCtorEq, false_and, exists_false]
      | ok hash =>
        simp only [ok_bind, Except.ok.injEq, exists_eq_left']
        by_cases seen : hash ∈ seenHashes
        · rw [if_pos seen]
          refine ⟨?_, fun accepted => absurd seen accepted.1⟩
          rintro ⟨check, failed, passed⟩
          rw [← (Prod.mk.inj (Except.ok.inj failed)).1] at passed
          cases passed
        · rw [if_neg seen, ← checkContinuity_passed_iff]
          cases checkContinuity runtime index (previous.map .ok) receipt with
          | error error =>
            simp only [error_bind, reduceCtorEq, false_and, exists_false, and_false]
          | ok check =>
            rw [passed_ok_iff]
            simp only [ok_bind, Except.ok.injEq, Prod.mk.injEq, seen, not_false_eq_true,
              true_and]
            constructor
            · rintro ⟨found, ⟨rfl, rfl⟩, passed⟩
              exact ⟨passed, rfl⟩
            · rintro ⟨passed, rfl⟩
              exact ⟨check, ⟨rfl, rfl⟩, passed⟩
    · rw [if_pos sameTenant]
      refine ⟨?_, fun accepted => absurd accepted.1 sameTenant⟩
      rintro ⟨check, failed, passed⟩
      rw [← (Prod.mk.inj (Except.ok.inj failed)).1] at passed
      cases passed

private theorem checkEntries_passed_iff {index : Nat} {seenHashes : List JsString}
    {entries : List (Except JsString SignedDecisionReceipt)} :
    (∃ checks, checkEntries runtime (some tenant) index (previous.map .ok) seenHashes entries =
        .ok checks ∧ ∀ check ∈ checks, check.passed = true) ↔
      ∃ receipts, entries = receipts.map .ok ∧
        Extends runtime tenant previous seenHashes receipts := by
  induction entries generalizing index previous seenHashes with
  | nil =>
    constructor
    · intro _
      exact ⟨[], rfl, trivial⟩
    · intro _
      exact ⟨[], rfl, by simp⟩
  | cons entry rest ih =>
    constructor
    · rintro ⟨checks, verified, passed⟩
      rw [checkEntries, bind_eq_ok] at verified
      obtain ⟨⟨check, seenAfter⟩, isCheck, verified⟩ := verified
      dsimp only at verified
      rw [bind_eq_ok] at verified
      obtain ⟨restChecks, restVerified, isChecks⟩ := verified
      rw [pure_eq_ok] at isChecks
      subst isChecks
      rw [List.forall_mem_cons] at passed
      obtain ⟨receipt, rfl, sameTenant, hash, hashed, unseen, continues, rfl⟩ :=
        checkEntry_passed_iff.mp ⟨check, isCheck, passed.1⟩
      have restAccepted := @ih (some receipt) (index + 1) (hash :: seenHashes)
      obtain ⟨receipts, rfl, extended⟩ := restAccepted.mp ⟨restChecks, restVerified, passed.2⟩
      exact ⟨receipt :: receipts, rfl, sameTenant, hash, hashed, unseen, continues, extended⟩
    · rintro ⟨receipts, isMap, extended⟩
      cases receipts with
      | nil => cases isMap
      | cons receipt receipts =>
        rw [List.map_cons, List.cons.injEq] at isMap
        obtain ⟨rfl, rfl⟩ := isMap
        obtain ⟨sameTenant, hash, hashed, unseen, continues, extended⟩ := extended
        obtain ⟨check, isCheck, checkPassed⟩ := checkEntry_passed_iff.mpr
          ⟨receipt, rfl, sameTenant, hash, hashed, unseen, continues, rfl⟩
        obtain ⟨checks, verified, passed⟩ := ih.mpr
          ⟨receipts, rfl, extended⟩
        refine ⟨check :: checks, ?_, List.forall_mem_cons.mpr ⟨checkPassed, passed⟩⟩
        rw [checkEntries, isCheck, ok_bind]
        dsimp only
        rw [Option.map_some] at verified
        rw [verified]
        rfl

variable {receipts : List SignedDecisionReceipt}

private theorem extends_iff {seenHashes : List JsString} :
    Extends runtime tenant previous seenHashes receipts ↔
      (∀ receipt ∈ receipts, receipt.tenant_id_hash = tenant) ∧
        (∀ receipt ∈ receipts, ∃ hash, signedDecisionReceiptHash runtime receipt = .ok hash ∧
          hash ∉ seenHashes) ∧
        (receipts.map (signedDecisionReceiptHash runtime)).Nodup ∧
        (∀ first ∈ receipts.head?, Continues runtime previous first) ∧
        receipts.IsChain fun previous receipt =>
          Follows runtime previous receipt ∧ NotEarlier runtime previous receipt := by
  induction receipts generalizing previous seenHashes with
  | nil => simp [Extends]
  | cons receipt rest ih =>
    simp only [Extends, ih, List.forall_mem_cons, List.map_cons,
      List.nodup_cons, List.head?_cons, Option.mem_some_iff, forall_eq', List.isChain_cons,
      Continues]
    constructor
    · rintro ⟨sameTenant, hash, hashed, unseen, continues, tenants, hashes, distinct, next,
        chained⟩
      refine ⟨⟨sameTenant, tenants⟩, ⟨⟨hash, hashed, unseen⟩, ?_⟩, ⟨?_, distinct⟩, continues,
        next, chained⟩
      · intro other member
        obtain ⟨otherHash, otherHashed, otherUnseen⟩ := hashes other member
        exact ⟨otherHash, otherHashed, fun seen => otherUnseen (List.mem_cons_of_mem _ seen)⟩
      · intro repeated
        obtain ⟨other, member, same⟩ := List.mem_map.mp repeated
        obtain ⟨otherHash, otherHashed, otherUnseen⟩ := hashes other member
        rw [hashed, otherHashed] at same
        exact otherUnseen (Except.ok.inj same ▸ List.mem_cons_self)
    · rintro ⟨⟨sameTenant, tenants⟩, ⟨⟨hash, hashed, unseen⟩, hashes⟩, ⟨fresh, distinct⟩,
        continues, next, chained⟩
      refine ⟨sameTenant, hash, hashed, unseen, continues, tenants, ?_, distinct, next, chained⟩
      intro other member
      obtain ⟨otherHash, otherHashed, otherUnseen⟩ := hashes other member
      refine ⟨otherHash, otherHashed, ?_⟩
      intro seen
      rcases List.mem_cons.mp seen with same | earlier
      · apply fresh
        rw [hashed, ← same, ← otherHashed]
        exact List.mem_map_of_mem member
      · exact otherUnseen earlier

private theorem acceptableChain_iff {first : SignedDecisionReceipt}
    {rest : List SignedDecisionReceipt} :
    AcceptableChain runtime (first :: rest) ↔
      Extends runtime first.tenant_id_hash none [] (first :: rest) := by
  rw [extends_iff]
  constructor
  · intro acceptable
    refine ⟨acceptable.oneTenant first rfl, ?_, acceptable.distinct, acceptable.linked.1, ?_⟩
    · intro receipt member
      obtain ⟨hash, hashed⟩ := acceptable.hashed receipt member
      exact ⟨hash, hashed, List.not_mem_nil⟩
    · rw [List.isChain_iff_getElem]
      intro index inside
      exact ⟨acceptable.linked.follows_getElem inside,
        List.isChain_iff_getElem.mp acceptable.inOrder index inside⟩
  · rintro ⟨oneTenant, hashed, distinct, genesis, chained⟩
    refine ⟨?_, ?_, distinct, ⟨genesis, chained.imp fun _ _ both => both.1⟩,
      chained.imp fun _ _ both => both.2⟩
    · intro start isStart
      obtain rfl : first = start := Option.some.inj isStart
      exact oneTenant
    · intro receipt member
      obtain ⟨hash, isHash, -⟩ := hashed receipt member
      exact ⟨hash, isHash⟩

variable {candidates : List JsValue}

private theorem map_validatedEntry_iff :
    candidates.map (validatedEntry runtime) = receipts.map .ok ↔
      candidates.map (validateSignedDecisionReceipt runtime) = receipts.map .ok := by
  induction candidates generalizing receipts with
  | nil => cases receipts <;> simp
  | cons candidate rest ih =>
    cases receipts with
    | nil => simp
    | cons receipt receipts =>
      simp only [List.map_cons, List.cons.injEq, ih, validatedEntry]
      cases validateSignedDecisionReceipt runtime candidate <;> simp

private theorem not_chainVerified_nil : ¬ ChainVerified runtime (.array []) := by
  rintro ⟨checks, verified, passed⟩
  rw [verifyDecisionReceiptChain, Except.ok.injEq] at verified
  subst verified
  cases passed _ List.mem_cons_self

private theorem not_chainVerified_invalid {candidate : JsValue} {rest : List JsValue}
    {message : JsString} (invalid : validatedEntry runtime candidate = .error message) :
    ¬ ChainVerified runtime (.array (candidate :: rest)) := by
  rintro ⟨checks, verified, passed⟩
  simp only [verifyDecisionReceiptChain] at verified
  rw [List.map_cons, invalid, checkEntries, checkEntry, ok_bind, bind_eq_ok] at verified
  obtain ⟨others, -, isChecks⟩ := verified
  rw [pure_eq_ok] at isChecks
  subst isChecks
  cases passed _ List.mem_cons_self

theorem chainVerified_iff :
    ChainVerified runtime (.array candidates) ↔
      ∃ receipts, receipts ≠ [] ∧
        candidates.map (validateSignedDecisionReceipt runtime) = receipts.map .ok ∧
        AcceptableChain runtime receipts := by
  simp only [← map_validatedEntry_iff]
  cases candidates with
  | nil =>
    constructor
    · exact fun verified => absurd verified not_chainVerified_nil
    · rintro ⟨receipts, nonempty, validated, -⟩
      exact absurd (List.map_eq_nil_iff.mp validated.symm) nonempty
  | cons candidate rest =>
    cases firstEntry : validatedEntry runtime candidate with
    | error message =>
      constructor
      · exact fun verified => absurd verified (not_chainVerified_invalid firstEntry)
      · rintro ⟨receipts, -, validated, -⟩
        rw [List.map_cons, firstEntry] at validated
        cases receipts <;> simp at validated
    | ok first =>
      have tenant : firstTenantOf ((candidate :: rest).map (validatedEntry runtime)) =
          some first.tenant_id_hash := by
        rw [List.map_cons, firstEntry]
        rfl
      have loop := @checkEntries_passed_iff runtime none first.tenant_id_hash 0 []
        ((candidate :: rest).map (validatedEntry runtime))
      simp only [ChainVerified, verifyDecisionReceiptChain, tenant]
      refine loop.trans ?_
      have isFirst : ∀ {receipt : SignedDecisionReceipt} {receipts : List SignedDecisionReceipt},
          (candidate :: rest).map (validatedEntry runtime) = (receipt :: receipts).map .ok →
            first = receipt := by
        intro receipt receipts isMap
        have same := (List.cons.inj isMap).1
        rw [firstEntry] at same
        exact Except.ok.inj same
      constructor
      · rintro ⟨receipts, isMap, extended⟩
        cases receipts with
        | nil => cases isMap
        | cons receipt receipts =>
          obtain rfl := isFirst isMap
          exact ⟨first :: receipts, List.cons_ne_nil _ _, isMap,
            acceptableChain_iff.mpr extended⟩
      · rintro ⟨receipts, nonempty, isMap, acceptable⟩
        cases receipts with
        | nil => contradiction
        | cons receipt receipts =>
          obtain rfl := isFirst isMap
          exact ⟨first :: receipts, isMap, acceptableChain_iff.mp acceptable⟩

/-! ### Tamper evidence -/

variable (runtime)

def canonicalForm (candidate : JsValue) : Except JsError JsString := do
  let receipt ← validateSignedDecisionReceipt runtime candidate
  signedText runtime receipt

def candidateHash (candidate : JsValue) : Except JsError JsString := do
  let receipt ← validateSignedDecisionReceipt runtime candidate
  signedDecisionReceiptHash runtime receipt

def canonicalForms (candidates : List JsValue) : List JsString :=
  candidates.filterMap fun candidate => (canonicalForm runtime candidate).toOption

variable {runtime}

theorem signedDecisionReceiptHash_eq_ok_iff {hash : JsString} :
    signedDecisionReceiptHash runtime receipt = .ok hash ↔
      ∃ text, signedText runtime receipt = .ok text ∧
        hash = js "sha256:" ++ sha256Hex runtime.toRuntime text := by
  rw [signedDecisionReceiptHash, bind_eq_ok]
  simp only [pure_eq_ok]
  exact exists_congr fun text => and_congr_right fun _ => eq_comm

/-- Without a collision of the signed texts, one hash means one receipt. -/
theorem eq_of_signedDecisionReceiptHash {left right : SignedDecisionReceipt} {hash : JsString}
    {texts : List JsString} (collisionFree : runtime.sha256.CollisionFreeOn texts)
    (leftHashed : ∀ text, signedText runtime left = .ok text → text ∈ texts)
    (rightHashed : ∀ text, signedText runtime right = .ok text → text ∈ texts)
    (leftHash : signedDecisionReceiptHash runtime left = .ok hash)
    (rightHash : signedDecisionReceiptHash runtime right = .ok hash) : left = right := by
  obtain ⟨leftText, isLeftText, leftDigest⟩ := signedDecisionReceiptHash_eq_ok_iff.mp leftHash
  obtain ⟨rightText, isRightText, rightDigest⟩ := signedDecisionReceiptHash_eq_ok_iff.mp rightHash
  have sameDigest := List.append_cancel_left (leftDigest.symm.trans rightDigest)
  have sameText := collisionFree leftText (leftHashed leftText isLeftText) rightText
    (rightHashed rightText isRightText) sameDigest
  rw [← sameText] at isRightText
  exact eq_of_signedText isLeftText isRightText

/-- A genesis receipt follows none. -/
theorem not_follows_of_isGenesis {previous receipt : SignedDecisionReceipt}
    (genesis : IsGenesis receipt) : ¬ Follows runtime previous receipt := by
  rintro ⟨hash, -, declared⟩
  rw [genesis] at declared
  cases declared

/-- A receipt determines the one it follows. -/
theorem determinesPrevious_of_collisionFree {left right : List SignedDecisionReceipt}
    {texts : List JsString} (collisionFree : runtime.sha256.CollisionFreeOn texts)
    (leftHashed : ∀ receipt ∈ left, ∀ text, signedText runtime receipt = .ok text → text ∈ texts)
    (rightHashed : ∀ receipt ∈ right, ∀ text, signedText runtime receipt = .ok text →
      text ∈ texts) : DeterminesPrevious (Follows runtime) left right := by
  intro before isBefore other isOther receipt followed otherFollowed
  obtain ⟨hash, beforeHash, declared⟩ := followed
  obtain ⟨otherHash, isOtherHash, otherDeclared⟩ := otherFollowed
  obtain rfl := Option.some.inj (declared.symm.trans otherDeclared)
  exact eq_of_signedDecisionReceiptHash collisionFree (leftHashed before isBefore)
    (rightHashed other isOther) beforeHash isOtherHash

private theorem canonicalForm_of_validated {candidate : JsValue}
    (validated : validateSignedDecisionReceipt runtime candidate = .ok receipt) :
    canonicalForm runtime candidate = signedText runtime receipt := by
  rw [canonicalForm, validated, ok_bind]

private theorem mem_canonicalForms
    (validated : candidates.map (validateSignedDecisionReceipt runtime) = receipts.map .ok) :
    ∀ receipt ∈ receipts, ∀ text, signedText runtime receipt = .ok text →
      text ∈ canonicalForms runtime candidates := by
  intro receipt member text isText
  have inMap : (.ok receipt : Except JsError SignedDecisionReceipt) ∈ receipts.map .ok :=
    List.mem_map_of_mem member
  rw [← validated] at inMap
  obtain ⟨candidate, isCandidate, candidateValidated⟩ := List.mem_map.mp inMap
  apply List.mem_filterMap.mpr
  refine ⟨candidate, isCandidate, ?_⟩
  rw [canonicalForm_of_validated candidateValidated, isText]
  rfl

private theorem candidateHash_getLast?
    (validated : candidates.map (validateSignedDecisionReceipt runtime) = receipts.map .ok) :
    candidates.getLast?.map (candidateHash runtime) =
      receipts.getLast?.map (signedDecisionReceiptHash runtime) := by
  have last := congrArg List.getLast? validated
  rw [List.getLast?_map, List.getLast?_map] at last
  cases isCandidate : candidates.getLast? with
  | none =>
    cases isReceipt : receipts.getLast? with
    | none => rfl
    | some receipt => simp [isCandidate, isReceipt] at last
  | some candidate =>
    cases isReceipt : receipts.getLast? with
    | none => simp [isCandidate, isReceipt] at last
    | some receipt =>
      simp only [isCandidate, isReceipt, Option.map_some, Option.some.injEq] at last
      simp only [Option.map_some, candidateHash, last, ok_bind]

/-- On verified chains the hash of the last receipt determines the canonical form of every
receipt, and so their number. -/
theorem canonicalForms_eq_of_head {left right : List JsValue}
    (leftVerified : ChainVerified runtime (.array left))
    (rightVerified : ChainVerified runtime (.array right))
    (collisionFree : runtime.sha256.CollisionFreeOn
      (canonicalForms runtime left ++ canonicalForms runtime right))
    (sameHead : left.getLast?.map (candidateHash runtime) =
      right.getLast?.map (candidateHash runtime)) :
    left.length = right.length ∧
      ∀ (index : Nat) (leftCandidate rightCandidate : JsValue),
        left[index]? = some leftCandidate → right[index]? = some rightCandidate →
          ∃ text, canonicalForm runtime leftCandidate = .ok text ∧
            canonicalForm runtime rightCandidate = .ok text := by
  obtain ⟨leftReceipts, leftNonempty, leftValidated, leftChain⟩ := chainVerified_iff.mp leftVerified
  obtain ⟨rightReceipts, -, rightValidated, rightChain⟩ := chainVerified_iff.mp rightVerified
  have leftTexts : ∀ receipt ∈ leftReceipts, ∀ text, signedText runtime receipt = .ok text →
      text ∈ canonicalForms runtime left ++ canonicalForms runtime right := by
    intro receipt member text isText
    exact List.mem_append_left _ (mem_canonicalForms leftValidated receipt member text isText)
  have rightTexts : ∀ receipt ∈ rightReceipts, ∀ text, signedText runtime receipt = .ok text →
      text ∈ canonicalForms runtime left ++ canonicalForms runtime right := by
    intro receipt member text isText
    exact List.mem_append_right _ (mem_canonicalForms rightValidated receipt member text isText)
  rw [candidateHash_getLast? leftValidated, candidateHash_getLast? rightValidated] at sameHead
  have sameLast : leftReceipts.getLast? = rightReceipts.getLast? := by
    cases isLeft : leftReceipts.getLast? with
    | none => exact absurd (List.getLast?_eq_none_iff.mp isLeft) leftNonempty
    | some leftLast =>
      cases isRight : rightReceipts.getLast? with
      | none => simp [isLeft, isRight] at sameHead
      | some rightLast =>
        have leftMember := List.mem_of_getLast? isLeft
        have rightMember := List.mem_of_getLast? isRight
        obtain ⟨hash, leftHash⟩ := leftChain.hashed leftLast leftMember
        simp only [isLeft, isRight, Option.map_some, Option.some.injEq] at sameHead
        rw [eq_of_signedDecisionReceiptHash collisionFree (leftTexts leftLast leftMember)
          (rightTexts rightLast rightMember) leftHash (sameHead.symm.trans leftHash)]
  have sameReceipts : leftReceipts = rightReceipts :=
    Linked.eq_of_getLast? not_follows_of_isGenesis
      (determinesPrevious_of_collisionFree collisionFree leftTexts rightTexts)
      leftChain.linked rightChain.linked sameLast
  subst sameReceipts
  have leftLength := congrArg List.length leftValidated
  have rightLength := congrArg List.length rightValidated
  rw [List.length_map, List.length_map] at leftLength rightLength
  refine ⟨leftLength.trans rightLength.symm, ?_⟩
  intro index leftCandidate rightCandidate isLeft isRight
  have leftAt := congrArg (fun entries => entries[index]?) leftValidated
  have rightAt := congrArg (fun entries => entries[index]?) rightValidated
  simp only [List.getElem?_map, isLeft, isRight, Option.map_some] at leftAt rightAt
  cases isReceipt : leftReceipts[index]? with
  | none => simp [isReceipt] at leftAt
  | some receipt =>
    simp only [isReceipt, Option.map_some, Option.some.injEq] at leftAt rightAt
    obtain ⟨hash, hashed⟩ := leftChain.hashed receipt (List.mem_of_getElem? isReceipt)
    obtain ⟨text, isText, -⟩ := signedDecisionReceiptHash_eq_ok_iff.mp hashed
    refine ⟨text, ?_, ?_⟩
    · rw [canonicalForm_of_validated leftAt, isText]
    · rw [canonicalForm_of_validated rightAt, isText]

end Verifier

namespace Sample

def runtime : ReceiptRuntime where
  sha256 := fips180
  numbers := decimalText
  dates := utcDates
  verifySignature := fun _ _ _ => .ok true
  hmacSha256 := fips198
  unsignedIssues := fun _ => js "invalid unsigned receipt"
  signedIssues := fun _ => js "invalid signed receipt"

def evaluationRuntime : ReceiptRuntime :=
  { runtime with sha256 := windowSha256, hmacSha256 := windowHmacSha256 }

theorem runtime_eq : runtime = evaluationRuntime := by
  rw [evaluationRuntime, ← fips180_eq_window, ← fips198_eq_window]
  rfl

def digest (digit : Char) : JsString := js "sha256:" ++ List.replicate 64 (unit digit)

def body (requestId timestamp : String) (previous : Option JsString) : ReceiptBody where
  request_id := js requestId
  tenant_id_hash := digest '1'
  user_id_hash := digest '2'
  session_id_hash := digest '3'
  timestamp := js timestamp
  model_id := js "model"
  policy_version := js "v1"
  policy_hash := List.replicate 64 (unit '4')
  input_digest := digest '5'
  retrieved_context_digests := []
  execution_context_hash := digest '6'
  execution_nonce := js "nonce-0001"
  decision_pre := .ALLOW
  decision_post := .ALLOW
  action_taken := []
  risk_score := .ofNat 0
  consent_state := .granted
  memory_written := false
  latency_ms := .ofNat 12
  cost_estimate_usd := .ofNat 0
  prev_receipt_hash := previous
  signature_alg := .LOCAL_HMAC_SHA256_DEV_ONLY

def firstReceipt : SignedDecisionReceipt where
  toReceiptBody := body "req-1" "2026-07-07T12:00:00Z" none
  receipt_id := js "grct_" ++ List.replicate 64 (unit 'a')
  validBody := by decide +kernel
  receiptIdShape := by decide +kernel
  receipt_signature := js "c2lnbmF0dXJl"
  signatureNonempty := by decide

def firstHash : JsString :=
  js "sha256:78aa2339feaa6101b25d179845eacbe0" ++ js "c0f8aef00a1761ba7b9d1a4e3ab928e2"

theorem firstHash_eq : signedDecisionReceiptHash runtime firstReceipt = .ok firstHash := by
  rw [runtime_eq]
  exact eq_ok_of_toOption (by decide +kernel)

def secondReceipt : SignedDecisionReceipt where
  toReceiptBody := body "req-2" "2026-07-07T12:00:01Z" (some firstHash)
  receipt_id := js "grct_" ++ List.replicate 64 (unit 'b')
  validBody := by decide +kernel
  receiptIdShape := by decide +kernel
  receipt_signature := js "c2lnbmF0dXJl"
  signatureNonempty := by decide

def secondHash : JsString :=
  js "sha256:10db32602488adc9c7bb870aed42f959" ++ js "88f35fa4b0de5e038170bf8a299407f0"

theorem secondHash_eq : signedDecisionReceiptHash runtime secondReceipt = .ok secondHash := by
  rw [runtime_eq]
  exact eq_ok_of_toOption (by decide +kernel)

theorem acceptableChain : AcceptableChain runtime [firstReceipt, secondReceipt] where
  oneTenant := by
    intro first isFirst receipt member
    obtain rfl : firstReceipt = first := Option.some.inj isFirst
    revert receipt
    decide +kernel
  hashed := by
    rw [List.forall_mem_cons, List.forall_mem_singleton]
    exact ⟨⟨firstHash, firstHash_eq⟩, ⟨secondHash, secondHash_eq⟩⟩
  distinct := by
    rw [List.map_cons, List.map_cons, List.map_nil, firstHash_eq, secondHash_eq, List.nodup_cons,
      List.mem_singleton, Except.ok.injEq]
    exact ⟨by decide +kernel, List.nodup_singleton _⟩
  linked := by
    constructor
    · intro first isFirst
      obtain rfl : firstReceipt = first := Option.some.inj isFirst
      rfl
    · rw [List.isChain_pair]
      exact ⟨firstHash, firstHash_eq, rfl⟩
  inOrder := by
    rw [List.isChain_pair]
    decide +kernel

/-- The two receipts, and the same receipts with their keys in the opposite order. -/
def presented : List JsValue := [firstReceipt.toJs, secondReceipt.toJs]

def reordered : List JsValue :=
  [record ReceiptField.text ReceiptField.signed.reverse firstReceipt.value,
    record ReceiptField.text ReceiptField.signed.reverse secondReceipt.value]

theorem presented_validated : presented.map (validateSignedDecisionReceipt runtime) =
    [firstReceipt, secondReceipt].map .ok := by
  simp only [presented, List.map_cons, List.map_nil, validateSignedDecisionReceipt_toJs]

theorem reordered_validated : reordered.map (validateSignedDecisionReceipt runtime) =
    [firstReceipt, secondReceipt].map .ok := by
  have first : validateSignedDecisionReceipt runtime
      (record ReceiptField.text ReceiptField.signed.reverse firstReceipt.value) =
        .ok firstReceipt := eq_ok_of_toOption (by decide +kernel)
  have second : validateSignedDecisionReceipt runtime
      (record ReceiptField.text ReceiptField.signed.reverse secondReceipt.value) =
        .ok secondReceipt := eq_ok_of_toOption (by decide +kernel)
  simp only [reordered, List.map_cons, List.map_nil, first, second]

theorem collisionFreeOn {texts : List JsString}
    (covered : ∀ text ∈ texts, signedText runtime firstReceipt = .ok text ∨
      signedText runtime secondReceipt = .ok text) : runtime.sha256.CollisionFreeOn texts := by
  obtain ⟨firstText, isFirst, firstDigest⟩ := signedDecisionReceiptHash_eq_ok_iff.mp firstHash_eq
  obtain ⟨secondText, isSecond, secondDigest⟩ :=
    signedDecisionReceiptHash_eq_ok_iff.mp secondHash_eq
  have distinct : sha256Hex runtime.toRuntime firstText ≠
      sha256Hex runtime.toRuntime secondText := by
    intro same
    rw [same, ← secondDigest] at firstDigest
    revert firstDigest
    decide +kernel
  have oneOf : ∀ text ∈ texts, text = firstText ∨ text = secondText := by
    intro text member
    rcases covered text member with isText | isText
    · exact Or.inl (Except.ok.inj (isText.symm.trans isFirst))
    · exact Or.inr (Except.ok.inj (isText.symm.trans isSecond))
  intro left isLeft right isRight same
  rcases oneOf left isLeft with rfl | rfl
  · rcases oneOf right isRight with rfl | rfl
    · rfl
    · exact absurd same distinct
  · rcases oneOf right isRight with rfl | rfl
    · exact absurd same.symm distinct
    · rfl

/-- Candidates of either spelling are hashed as one of two texts. -/
theorem covered_of_validated {candidates : List JsValue}
    (validated : candidates.map (validateSignedDecisionReceipt runtime) =
      [firstReceipt, secondReceipt].map .ok) :
    ∀ text ∈ canonicalForms runtime candidates,
      signedText runtime firstReceipt = .ok text ∨ signedText runtime secondReceipt = .ok text := by
  intro text member
  obtain ⟨candidate, isCandidate, isText⟩ := List.mem_filterMap.mp member
  have isValidated : validateSignedDecisionReceipt runtime candidate ∈
      [firstReceipt, secondReceipt].map .ok := by
    rw [← validated]
    exact List.mem_map_of_mem isCandidate
  rw [canonicalForm] at isText
  rcases List.mem_cons.mp isValidated with isFirst | later
  · rw [isFirst, ok_bind] at isText
    exact Or.inl (eq_ok_of_toOption isText)
  · rw [List.mem_singleton.mp later, ok_bind] at isText
    exact Or.inr (eq_ok_of_toOption isText)

end Sample

/-- The same two receipts, one list with its keys in another order. -/
theorem canonicalForms_eq_of_head_reordered :
    Sample.presented.length = Sample.reordered.length ∧
      ∀ (index : Nat) (leftCandidate rightCandidate : JsValue),
        Sample.presented[index]? = some leftCandidate →
          Sample.reordered[index]? = some rightCandidate →
            ∃ text, canonicalForm Sample.runtime leftCandidate = .ok text ∧
              canonicalForm Sample.runtime rightCandidate = .ok text := by
  apply canonicalForms_eq_of_head
  · exact chainVerified_iff.mpr ⟨_, by simp, Sample.presented_validated, Sample.acceptableChain⟩
  · exact chainVerified_iff.mpr ⟨_, by simp, Sample.reordered_validated, Sample.acceptableChain⟩
  · apply Sample.collisionFreeOn
    intro text member
    rcases List.mem_append.mp member with isPresented | isReordered
    · exact Sample.covered_of_validated Sample.presented_validated text isPresented
    · exact Sample.covered_of_validated Sample.reordered_validated text isReordered
  · rw [candidateHash_getLast? Sample.presented_validated,
      candidateHash_getLast? Sample.reordered_validated]

end GhostArk.EnforcementRuntime.Receipts
