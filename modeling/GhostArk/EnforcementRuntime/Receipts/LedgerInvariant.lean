import GhostArk.EnforcementRuntime.Receipts.Chain
import GhostArk.EnforcementRuntime.Receipts.InMemoryReceiptRepository

/-!
Contract: invariants of the in-memory receipt repository over whole runs.

Owns the invariant that ties the three maps together, its preservation by every
`put`, and the ledger that follows from it when the stored texts do not collide:
one linear hash chain for each tenant that ends at the tenant's head, and one
request marker for each request.
-/

namespace GhostArk.EnforcementRuntime.Receipts

open Js ReceiptSchema Lib

namespace InMemoryRepository

private theorem isDigest_cases {value : JsString} (shape : isDigest value = true) :
    ∃ hex, isHex64 hex = true ∧ (value = js "sha256:" ++ hex ∨ value = js "hmac-sha256:" ++ hex) := by
  rw [isDigest, Bool.or_eq_true, isTaggedHex64_iff, isTaggedHex64_iff] at shape
  rcases shape with ⟨hex, isHex, same⟩ | ⟨hex, isHex, same⟩
  · exact ⟨hex, isHex, Or.inl same⟩
  · exact ⟨hex, isHex, Or.inr same⟩

theorem key_injective {leftTenant rightTenant leftId rightId : JsString}
    (leftShape : isDigest leftTenant = true) (rightShape : isDigest rightTenant = true)
    (same : key leftTenant leftId = key rightTenant rightId) :
    leftTenant = rightTenant ∧ leftId = rightId := by
  have tags : ∀ {left right : JsString}, js "sha256:" ++ left ≠ js "hmac-sha256:" ++ right := by
    intro left right equal
    have firstUnit := congrArg List.head? equal
    have shaFirst : (js "sha256:").head? = some (unit 's') := by decide
    have hmacFirst : (js "hmac-sha256:").head? = some (unit 'h') := by decide
    rw [List.head?_append, List.head?_append, shaFirst, hmacFirst, Option.some_or,
      Option.some_or] at firstUnit
    revert firstUnit
    decide
  obtain ⟨leftHex, leftIsHex, leftTag⟩ := isDigest_cases leftShape
  obtain ⟨rightHex, rightIsHex, rightTag⟩ := isDigest_cases rightShape
  have leftLength := length_of_isHex64 leftIsHex
  have rightLength := length_of_isHex64 rightIsHex
  unfold key at same
  rcases leftTag with rfl | rfl
  · rcases rightTag with rfl | rfl
    · exact append_separator_inj (by simp [leftLength, rightLength]) same
    · simp only [List.append_assoc] at same
      exact absurd same tags
  · rcases rightTag with rfl | rfl
    · simp only [List.append_assoc] at same
      exact absurd same.symm tags
    · exact append_separator_inj (by simp [leftLength, rightLength]) same

/-! ### The invariant -/

def tenantReceipts (repository : InMemoryRepository) (tenant : JsString) :
    List SignedDecisionReceipt :=
  repository.receipts.values.filter fun receipt => receipt.tenant_id_hash = tenant

section Invariant

variable (runtime : ReceiptRuntime)

/-- `entry` is the marker that storing `receipt` writes. -/
structure IsMarkerOf (receipt : SignedDecisionReceipt) (entry : JsString × RequestMarker) :
    Prop where
  key_eq : ∃ requestMarkerId, requestMarkerReceiptId receipt.request_id = .ok requestMarkerId ∧
    entry.1 = key receipt.tenant_id_hash requestMarkerId
  receiptId_eq : entry.2.receiptId = receipt.receipt_id
  digest_eq : decisionReceiptRequestDigest runtime receipt.toUnsignedDecisionReceipt =
    .ok entry.2.requestDigest
  persistedAt_eq : entry.2.persistedAt = receipt.timestamp

/-- What every reachable state satisfies, with or without collisions. -/
structure Invariant (repository : InMemoryRepository) : Prop where
  receiptKeys : ∀ entry ∈ repository.receipts.entries,
    entry.1 = key entry.2.tenant_id_hash entry.2.receipt_id
  markersOf : ∀ receipt ∈ repository.receipts.values,
    ∃ entry ∈ repository.requestMarkers.entries, IsMarkerOf runtime receipt entry
  markerTargets : ∀ entry ∈ repository.requestMarkers.entries,
    ∃ receipt ∈ repository.receipts.values, IsMarkerOf runtime receipt entry
  linked : ∀ tenant, Linked IsGenesis (Follows runtime) (repository.tenantReceipts tenant)
  heads : ∀ tenant,
    (repository.tenantReceipts tenant).getLast?.map (signedDecisionReceiptHash runtime) =
      (repository.latestHashForTenant tenant).map .ok

theorem invariant_empty : Invariant runtime empty where
  receiptKeys := by simp [empty, InsertionMap.empty]
  markersOf := by simp [empty, InsertionMap.empty, InsertionMap.values]
  markerTargets := by simp [empty, InsertionMap.empty]
  linked := fun _ => linked_nil
  heads := fun _ => rfl

variable {runtime}

namespace Invariant

variable {repository : InMemoryRepository}

section Invariant

variable (invariant : Invariant runtime repository)
include invariant

theorem get_eq_some_iff {tenant receiptId : JsString}
    {receipt : SignedDecisionReceipt} (shape : isDigest tenant = true) :
    repository.get tenant receiptId = some receipt ↔
      receipt ∈ repository.receipts.values ∧ receipt.tenant_id_hash = tenant ∧
        receipt.receipt_id = receiptId := by
  unfold get
  rw [InsertionMap.get?_eq_some_iff]
  constructor
  · intro member
    have sameKey := invariant.receiptKeys _ member
    obtain ⟨sameTenant, sameId⟩ := key_injective shape receipt.isDigest_tenant sameKey
    exact ⟨List.mem_map.mpr ⟨_, member, rfl⟩, sameTenant.symm, sameId.symm⟩
  · intro found
    obtain ⟨member, rfl, rfl⟩ := found
    obtain ⟨entry, inEntries, rfl⟩ := List.mem_map.mp member
    rw [← invariant.receiptKeys entry inEntries]
    exact inEntries

theorem get_self {receipt : SignedDecisionReceipt}
    (member : receipt ∈ repository.receipts.values) :
    repository.get receipt.tenant_id_hash receipt.receipt_id = some receipt :=
  (invariant.get_eq_some_iff receipt.isDigest_tenant).mpr ⟨member, rfl, rfl⟩

theorem marked_target {tenant requestId requestMarkerId : JsString} {marker : RequestMarker}
    (shape : isDigest tenant = true)
    (isMarker : requestMarkerReceiptId requestId = .ok requestMarkerId)
    (marked : repository.requestMarkers.get? (key tenant requestMarkerId) = some marker) :
    ∃ receipt ∈ repository.receipts.values, receipt.tenant_id_hash = tenant ∧
      receipt.request_id = requestId ∧ receipt.receipt_id = marker.receiptId := by
  rw [InsertionMap.get?_eq_some_iff] at marked
  obtain ⟨receipt, member, isMarkerOf⟩ := invariant.markerTargets _ marked
  obtain ⟨otherId, isOther, sameKey⟩ := isMarkerOf.key_eq
  obtain ⟨sameTenant, sameId⟩ := key_injective shape receipt.isDigest_tenant sameKey
  rw [← sameId] at isOther
  exact ⟨receipt, member, sameTenant.symm, requestMarkerReceiptId_injective isOther isMarker,
    isMarkerOf.receiptId_eq.symm⟩

theorem nodup_values : repository.receipts.values.Nodup := by
  apply List.Nodup.of_map fun receipt => key receipt.tenant_id_hash receipt.receipt_id
  have sameKeys : repository.receipts.values.map
      (fun receipt => key receipt.tenant_id_hash receipt.receipt_id) =
        repository.receipts.entries.map Prod.fst := by
    rw [InsertionMap.values, List.map_map]
    apply List.map_congr_left
    intro entry member
    exact (invariant.receiptKeys entry member).symm
  rw [sameKeys]
  exact repository.receipts.nodup

theorem eq_of_request
    {left right : SignedDecisionReceipt} (leftMember : left ∈ repository.receipts.values)
    (rightMember : right ∈ repository.receipts.values)
    (sameTenant : left.tenant_id_hash = right.tenant_id_hash)
    (sameRequest : left.request_id = right.request_id) : left = right := by
  obtain ⟨leftEntry, leftIn, leftMarker⟩ := invariant.markersOf left leftMember
  obtain ⟨rightEntry, rightIn, rightMarker⟩ := invariant.markersOf right rightMember
  obtain ⟨leftId, isLeftId, leftKey⟩ := leftMarker.key_eq
  obtain ⟨rightId, isRightId, rightKey⟩ := rightMarker.key_eq
  rw [sameRequest, isRightId, Except.ok.injEq] at isLeftId
  rw [sameTenant, ← isLeftId, ← rightKey] at leftKey
  have sameEntry := List.inj_on_of_nodup_map repository.requestMarkers.nodup leftIn rightIn leftKey
  have sameId : left.receipt_id = right.receipt_id := by
    rw [← leftMarker.receiptId_eq, sameEntry, rightMarker.receiptId_eq]
  have leftFound := invariant.get_self leftMember
  rw [sameTenant, sameId, invariant.get_self rightMember] at leftFound
  exact (Option.some.inj leftFound).symm

end Invariant

end Invariant

section Stored

variable {repository : InMemoryRepository} {validated : SignedDecisionReceipt}
  {requestMarkerId requestDigest headHash : JsString}

theorem values_stored
    (free : repository.receipts.get? (key validated.tenant_id_hash validated.receipt_id) = none) :
    (repository.stored validated requestMarkerId requestDigest headHash).receipts.values =
      repository.receipts.values ++ [validated] := by
  simp only [stored, InsertionMap.values, InsertionMap.entries_set_of_none free, List.map_append,
    List.map_singleton]

theorem tenantReceipts_stored
    (free : repository.receipts.get? (key validated.tenant_id_hash validated.receipt_id) = none) :
    (repository.stored validated requestMarkerId requestDigest headHash).tenantReceipts
        validated.tenant_id_hash =
      repository.tenantReceipts validated.tenant_id_hash ++ [validated] := by
  rw [tenantReceipts, values_stored free, List.filter_append]
  simp [tenantReceipts]

theorem tenantReceipts_stored_ne {tenant : JsString} (other : tenant ≠ validated.tenant_id_hash)
    (free : repository.receipts.get? (key validated.tenant_id_hash validated.receipt_id) = none) :
    (repository.stored validated requestMarkerId requestDigest headHash).tenantReceipts tenant =
      repository.tenantReceipts tenant := by
  rw [tenantReceipts, values_stored free, List.filter_append]
  simp [tenantReceipts, other.symm]

theorem latestHashForTenant_stored (tenant : JsString) :
    (repository.stored validated requestMarkerId requestDigest headHash).latestHashForTenant tenant =
      if tenant = validated.tenant_id_hash then some headHash
      else repository.latestHashForTenant tenant := by
  unfold latestHashForTenant stored
  rw [InsertionMap.get?_set]
  split <;> rfl

theorem Invariant.stored (invariant : Invariant runtime repository)
    (marker : requestMarkerReceiptId validated.request_id = .ok requestMarkerId)
    (digest : decisionReceiptRequestDigest runtime validated.toUnsignedDecisionReceipt =
      .ok requestDigest)
    (unmarked : repository.requestMarkers.get? (key validated.tenant_id_hash requestMarkerId) = none)
    (free : repository.receipts.get? (key validated.tenant_id_hash validated.receipt_id) = none)
    (onHead : validated.prev_receipt_hash =
      repository.latestHashForTenant validated.tenant_id_hash)
    (hashed : signedDecisionReceiptHash runtime validated = .ok headHash) :
    Invariant runtime (repository.stored validated requestMarkerId requestDigest headHash) where
  receiptKeys := by
    intro entry member
    rw [InMemoryRepository.stored, InsertionMap.entries_set_of_none free] at member
    rcases List.mem_append.mp member with old | new
    · exact invariant.receiptKeys entry old
    · rw [List.mem_singleton.mp new]
  markersOf := by
    intro receipt member
    rw [values_stored free] at member
    rw [InMemoryRepository.stored, InsertionMap.entries_set_of_none unmarked]
    rcases List.mem_append.mp member with old | new
    · obtain ⟨entry, inEntries, isMarker⟩ := invariant.markersOf receipt old
      exact ⟨entry, List.mem_append_left _ inEntries, isMarker⟩
    · obtain rfl := List.mem_singleton.mp new
      exact ⟨_, List.mem_append_right _ List.mem_cons_self, ⟨_, marker, rfl⟩, rfl, digest, rfl⟩
  markerTargets := by
    intro entry member
    rw [InMemoryRepository.stored, InsertionMap.entries_set_of_none unmarked] at member
    rw [values_stored free]
    rcases List.mem_append.mp member with old | new
    · obtain ⟨receipt, inValues, isMarker⟩ := invariant.markerTargets entry old
      exact ⟨receipt, List.mem_append_left _ inValues, isMarker⟩
    · obtain rfl := List.mem_singleton.mp new
      exact ⟨validated, List.mem_append_right _ List.mem_cons_self, ⟨_, marker, rfl⟩, rfl, digest,
        rfl⟩
  linked := by
    intro tenant
    by_cases same : tenant = validated.tenant_id_hash
    · subst same
      rw [tenantReceipts_stored free, linked_concat_iff]
      have heads := invariant.heads validated.tenant_id_hash
      refine ⟨invariant.linked _, ?_, ?_⟩
      · intro noReceipts
        rw [noReceipts, List.getLast?_nil, Option.map_none, eq_comm,
          Option.map_eq_none_iff] at heads
        exact onHead.trans heads
      · intro last isLast
        rw [isLast, Option.map_some, eq_comm, Option.map_eq_some_iff] at heads
        obtain ⟨hash, isHead, lastHashed⟩ := heads
        exact ⟨hash, lastHashed.symm, onHead.trans isHead⟩
    · rw [tenantReceipts_stored_ne same free]
      exact invariant.linked tenant
  heads := by
    intro tenant
    rw [latestHashForTenant_stored]
    by_cases same : tenant = validated.tenant_id_hash
    · subst same
      rw [tenantReceipts_stored free, List.getLast?_concat, if_pos rfl, Option.map_some, hashed,
        Option.map_some]
    · rw [tenantReceipts_stored_ne same free, if_neg same]
      exact invariant.heads tenant

end Stored

variable {outcome : Except JsError PersistenceResult}

/-- Every put keeps the invariant of the repository. -/
theorem Invariant.step {repository after : InMemoryRepository} {receipt : JsValue}
    (invariant : Invariant runtime repository)
    (step : PutStep runtime repository receipt outcome after) : Invariant runtime after := by
  cases step with
  | threw error => exact invariant
  | replayedMarked => exact invariant
  | replayedExisting => exact invariant
  | created validated requestMarkerId requestDigest headHash prepared unmarked free onHead hashed =>
    exact invariant.stored prepared.marker prepared.digest unmarked free onHead hashed

/-- A put adds at most the validated receipt. -/
theorem PutStep.values {repository after : InMemoryRepository} {receipt : JsValue}
    (step : PutStep runtime repository receipt outcome after) :
    after.receipts.values = repository.receipts.values ∨
      ∃ validated, validateSignedDecisionReceipt runtime receipt = .ok validated ∧
        after.receipts.values = repository.receipts.values ++ [validated] := by
  cases step with
  | threw => exact Or.inl rfl
  | replayedMarked => exact Or.inl rfl
  | replayedExisting => exact Or.inl rfl
  | created validated requestMarkerId requestDigest headHash prepared unmarked free =>
    exact Or.inr ⟨validated, prepared.valid, values_stored free⟩

variable (runtime)

/-- The state after a sequence of `put` calls. -/
def runPuts (repository : InMemoryRepository) (receipts : List JsValue) : InMemoryRepository :=
  receipts.foldl (fun repository receipt => (repository.put runtime receipt).2) repository

variable {runtime}

variable {repository : InMemoryRepository}

theorem Invariant.runPuts (invariant : Invariant runtime repository) (receipts : List JsValue) :
    Invariant runtime (repository.runPuts runtime receipts) := by
  induction receipts generalizing repository with
  | nil => exact invariant
  | cons receipt rest ih =>
    exact ih (invariant.step (put_step repository receipt))

theorem mem_values_runPuts {receipts : List JsValue} {receipt : SignedDecisionReceipt}
    (member : receipt ∈ (repository.runPuts runtime receipts).receipts.values) :
    receipt ∈ repository.receipts.values ∨
      ∃ candidate ∈ receipts, validateSignedDecisionReceipt runtime candidate = .ok receipt := by
  induction receipts generalizing repository with
  | nil => exact Or.inl member
  | cons candidate rest ih =>
    rcases ih member with before | later
    · rcases (put_step repository candidate).values with same | ⟨validated, valid, appended⟩
      · exact Or.inl (same ▸ before)
      · rcases List.mem_append.mp (appended ▸ before) with old | new
        · exact Or.inl old
        · rw [List.mem_singleton.mp new]
          exact Or.inr ⟨candidate, List.mem_cons_self, valid⟩
    · obtain ⟨other, isOther, valid⟩ := later
      exact Or.inr ⟨other, List.mem_cons_of_mem _ isOther, valid⟩

/-! ### The ledger -/

variable (runtime)

/-- The canonical texts whose hashes link the stored receipts. -/
def signedTexts (repository : InMemoryRepository) : List JsString :=
  repository.receipts.values.filterMap fun receipt => (signedText runtime receipt).toOption

/-- `entry` is keyed by the tenant and the encoded request id. -/
def IsMarkerFor (tenant requestId : JsString) (entry : JsString × RequestMarker) : Prop :=
  ∃ requestMarkerId, requestMarkerReceiptId requestId = .ok requestMarkerId ∧
    entry.1 = key tenant requestMarkerId

/-- The marker's target is stored and has the marker's request digest. -/
def PointsAt (repository : InMemoryRepository) (entry : JsString × RequestMarker)
    (receipt : SignedDecisionReceipt) : Prop :=
  repository.get receipt.tenant_id_hash entry.2.receiptId = some receipt ∧
    decisionReceiptRequestDigest runtime receipt.toUnsignedDecisionReceipt =
      .ok entry.2.requestDigest

/-- One linear chain for each tenant that ends at the head, one marker for each request. -/
structure IsLedger (repository : InMemoryRepository) : Prop where
  chain : ∀ tenant, LinearChain IsGenesis (Follows runtime) (repository.tenantReceipts tenant)
  head : ∀ tenant,
    (repository.tenantReceipts tenant).getLast?.map (signedDecisionReceiptHash runtime) =
      (repository.latestHashForTenant tenant).map .ok
  marker : ∀ receipt ∈ repository.receipts.values,
    ∃! entry, entry ∈ repository.requestMarkers.entries ∧
      IsMarkerFor receipt.tenant_id_hash receipt.request_id entry
  markerTarget : ∀ entry ∈ repository.requestMarkers.entries,
    ∃ receipt ∈ repository.receipts.values,
      IsMarkerFor receipt.tenant_id_hash receipt.request_id entry ∧
        PointsAt runtime repository entry receipt

variable {runtime}

theorem mem_signedTexts {receipt : SignedDecisionReceipt}
    (member : receipt ∈ repository.receipts.values) {text : JsString}
    (isText : signedText runtime receipt = .ok text) : text ∈ repository.signedTexts runtime := by
  apply List.mem_filterMap.mpr
  refine ⟨receipt, member, ?_⟩
  rw [isText]
  rfl

namespace Invariant

variable {repository : InMemoryRepository}

theorem mem_of_mem_tenantReceipts {tenant : JsString} {receipt : SignedDecisionReceipt}
    (member : receipt ∈ repository.tenantReceipts tenant) :
    receipt ∈ repository.receipts.values ∧ receipt.tenant_id_hash = tenant := by
  obtain ⟨stored, sameTenant⟩ := List.mem_filter.mp member
  exact ⟨stored, of_decide_eq_true sameTenant⟩

theorem linearChain (invariant : Invariant runtime repository)
    (collisionFree : runtime.sha256.CollisionFreeOn (repository.signedTexts runtime))
    (tenant : JsString) :
    LinearChain IsGenesis (Follows runtime) (repository.tenantReceipts tenant) := by
  have texts : ∀ receipt ∈ repository.tenantReceipts tenant, ∀ text,
      signedText runtime receipt = .ok text → text ∈ repository.signedTexts runtime :=
    fun receipt member text isText => mem_signedTexts (mem_of_mem_tenantReceipts member).1 isText
  exact (invariant.linked tenant).linearChain not_follows_of_isGenesis
    (determinesPrevious_of_collisionFree collisionFree texts texts)
    (invariant.nodup_values.filter _)

theorem existsUnique_marker (invariant : Invariant runtime repository)
    {receipt : SignedDecisionReceipt} (member : receipt ∈ repository.receipts.values) :
    ∃! entry, entry ∈ repository.requestMarkers.entries ∧
      IsMarkerFor receipt.tenant_id_hash receipt.request_id entry := by
  obtain ⟨entry, inEntries, isMarker⟩ := invariant.markersOf receipt member
  refine ⟨entry, ⟨inEntries, isMarker.key_eq⟩, ?_⟩
  intro other isOther
  obtain ⟨markerId, isId, entryKey⟩ := isMarker.key_eq
  obtain ⟨otherId, isOtherId, otherKey⟩ := isOther.2
  rw [isId, Except.ok.injEq] at isOtherId
  rw [← isOtherId, ← entryKey] at otherKey
  exact List.inj_on_of_nodup_map repository.requestMarkers.nodup isOther.1 inEntries otherKey

/-- A repository of the invariant is a ledger, unless two signed texts collide. -/
theorem isLedger (invariant : Invariant runtime repository)
    (collisionFree : runtime.sha256.CollisionFreeOn (repository.signedTexts runtime)) :
    IsLedger runtime repository where
  chain := invariant.linearChain collisionFree
  head := invariant.heads
  marker := fun _ member => invariant.existsUnique_marker member
  markerTarget := by
    intro entry member
    obtain ⟨receipt, inValues, isMarker⟩ := invariant.markerTargets entry member
    refine ⟨receipt, inValues, isMarker.key_eq, ?_, isMarker.digest_eq⟩
    rw [isMarker.receiptId_eq]
    exact invariant.get_self inValues

end Invariant

/-- After any sequence of puts the maps form a ledger, and every put of the sequence that throws
or finds an existing receipt leaves them as they were. -/
theorem isLedger_runPuts (receipts : List JsValue)
    (collisionFree : runtime.sha256.CollisionFreeOn
      ((empty.runPuts runtime receipts).signedTexts runtime)) :
    IsLedger runtime (empty.runPuts runtime receipts) ∧
      ∀ (before : List JsValue) (receipt : JsValue) (after : List JsValue),
        receipts = before ++ receipt :: after →
          (∀ result, ((empty.runPuts runtime before).put runtime receipt).1 = .ok result →
            result.status = .IDEMPOTENT_EXISTING) →
          empty.runPuts runtime (before ++ [receipt]) = empty.runPuts runtime before := by
  refine ⟨((invariant_empty runtime).runPuts receipts).isLedger collisionFree, ?_⟩
  intro before receipt after _ notCreated
  rw [runPuts, List.foldl_append, List.foldl_cons, List.foldl_nil]
  exact put_unchanged _ receipt notCreated

theorem isLedger_runPuts_sample :
    let receipts := [Sample.firstReceipt.toJs, Sample.secondReceipt.toJs, Sample.firstReceipt.toJs]
    IsLedger Sample.runtime (empty.runPuts Sample.runtime receipts) ∧
      ∀ (before : List JsValue) (receipt : JsValue) (after : List JsValue),
        receipts = before ++ receipt :: after →
          (∀ result, ((empty.runPuts Sample.runtime before).put Sample.runtime receipt).1 =
              .ok result → result.status = .IDEMPOTENT_EXISTING) →
          empty.runPuts Sample.runtime (before ++ [receipt]) =
            empty.runPuts Sample.runtime before := by
  intro receipts
  apply isLedger_runPuts
  apply Sample.collisionFreeOn
  intro text member
  obtain ⟨receipt, inValues, isText⟩ := List.mem_filterMap.mp member
  rcases mem_values_runPuts inValues with inEmpty | ⟨candidate, isCandidate, valid⟩
  · cases inEmpty
  · simp only [receipts, List.mem_cons, List.not_mem_nil, or_false] at isCandidate
    rcases isCandidate with rfl | rfl | rfl
    · rw [validateSignedDecisionReceipt_toJs, Except.ok.injEq] at valid
      exact Or.inl (valid ▸ eq_ok_of_toOption isText)
    · rw [validateSignedDecisionReceipt_toJs, Except.ok.injEq] at valid
      exact Or.inr (valid ▸ eq_ok_of_toOption isText)
    · rw [validateSignedDecisionReceipt_toJs, Except.ok.injEq] at valid
      exact Or.inl (valid ▸ eq_ok_of_toOption isText)

end Invariant

end InMemoryRepository

end GhostArk.EnforcementRuntime.Receipts
