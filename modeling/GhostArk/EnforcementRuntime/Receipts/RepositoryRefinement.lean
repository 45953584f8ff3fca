import GhostArk.EnforcementRuntime.Receipts.LedgerInvariant

/-!
Contract: the DynamoDB repository refines the in-memory repository.

Owns the relation between a table and the three maps, the agreement of every
operation under it, and the equality of all responses along a sequence of calls.

The relation is kept slot by slot: receipts, request markers and chain heads
share one table and are told apart by the shape of their `receiptId`.
-/

namespace GhostArk.EnforcementRuntime.Receipts

open Js ReceiptSchema Lib

namespace DynamoDb

/-! ### Slots -/

/-- The `receiptId` of a receipt item. -/
def isReceiptId (receiptId : JsString) : Bool := isTaggedHex64 "grct_" receiptId

private theorem head_of_isReceiptId {receiptId : JsString} (shape : isReceiptId receiptId = true) :
    receiptId.head? = some (unit 'g') := by
  obtain ⟨hex, -, rfl⟩ := isTaggedHex64_iff.mp shape
  have first : (js "grct_").head? = some (unit 'g') := by decide
  rw [List.head?_append, first, Option.some_or]

theorem chainHead_not_isReceiptId : isReceiptId CHAIN_HEAD_RECEIPT_ID = false := by
  decide

theorem marker_not_isReceiptId {requestId requestMarkerId : JsString}
    (marker : requestMarkerReceiptId requestId = .ok requestMarkerId) :
    isReceiptId requestMarkerId = false := by
  rw [requestMarkerReceiptId, bind_eq_ok] at marker
  obtain ⟨encoded, -, isMarker⟩ := marker
  rw [pure_eq_ok] at isMarker
  rw [Bool.eq_false_iff]
  intro shape
  have first := head_of_isReceiptId shape
  have prefixFirst : REQUEST_MARKER_PREFIX.head? = some (unit '_') := by decide
  rw [← isMarker, List.head?_append, prefixFirst, Option.some_or] at first
  revert first
  decide

theorem marker_ne_chainHead {requestId requestMarkerId : JsString}
    (marker : requestMarkerReceiptId requestId = .ok requestMarkerId) :
    requestMarkerId ≠ CHAIN_HEAD_RECEIPT_ID := by
  rw [requestMarkerReceiptId, bind_eq_ok] at marker
  obtain ⟨encoded, -, isMarker⟩ := marker
  rw [pure_eq_ok] at isMarker
  intro same
  have third : REQUEST_MARKER_PREFIX[2]? = CHAIN_HEAD_RECEIPT_ID[2]? := by
    rw [← same, ← isMarker, List.getElem?_append_left (by decide)]
  revert third
  decide

inductive ReceiptSlot : Option SignedDecisionReceipt → Option Item → Prop where
  | free : ReceiptSlot none none
  | taken (receipt : SignedDecisionReceipt) (receiptHash requestDigest : JsString) :
      ReceiptSlot (some receipt) (some (receiptItem receipt receiptHash requestDigest))

inductive MarkerSlot : Option RequestMarker → Option Item → Prop where
  | free : MarkerSlot none none
  | taken (receipt : SignedDecisionReceipt) (requestMarkerId requestDigest : JsString) :
      MarkerSlot (some ⟨receipt.receipt_id, requestDigest, receipt.timestamp⟩)
        (some (requestMarkerItem receipt requestMarkerId requestDigest))

/-- The attributes of a chain head that the repository reads. -/
structure IsHeadItem (item : Item) (headHash : JsString) : Prop where
  keyed : hasAttribute item "tenantId" = true
  headHash_eq : attributeOf item "headHash" = .string headHash
  noReceipt : attributeOf item "receipt" = .undefined

inductive HeadSlot : Option JsString → Option Item → Prop where
  | free : HeadSlot none none
  | taken (headHash : JsString) (item : Item) (isHead : IsHeadItem item headHash) :
      HeadSlot (some headHash) (some item)

/-- The table holds what the three maps hold. -/
structure Represents (table : Table) (repository : InMemoryRepository) : Prop where
  receipts : ∀ tenant receiptId, isDigest tenant = true → isReceiptId receiptId = true →
    ReceiptSlot (repository.get tenant receiptId) (table.get? (tenant, receiptId))
  markers : ∀ tenant requestId requestMarkerId, isDigest tenant = true →
    requestMarkerReceiptId requestId = .ok requestMarkerId →
      MarkerSlot (repository.requestMarkers.get? (InMemoryRepository.key tenant requestMarkerId))
        (table.get? (tenant, requestMarkerId))
  heads : ∀ tenant, isDigest tenant = true →
    HeadSlot (repository.latestHashForTenant tenant) (table.get? (tenant, CHAIN_HEAD_RECEIPT_ID))
  others : ∀ tenant receiptId, isReceiptId receiptId = false →
    ∀ item ∈ table.get? (tenant, receiptId), attributeOf item "receipt" = .undefined

theorem represents_empty : Represents .empty .empty where
  receipts := fun _ _ _ _ => .free
  markers := fun _ _ _ _ _ => .free
  heads := fun _ _ => .free
  others := by
    intro tenant receiptId _ item isItem
    cases isItem

section Attributes

variable (receipt : SignedDecisionReceipt) (requestMarkerId requestDigest receiptHash : JsString)

@[simp] theorem receiptItem_receipt :
    attributeOf (receiptItem receipt receiptHash requestDigest) "receipt" = receipt.toJs := rfl

@[simp] theorem receiptItem_persistedAt :
    attributeOf (receiptItem receipt receiptHash requestDigest) "persistedAt" =
      .string receipt.timestamp := rfl

@[simp] theorem markerItem_targetReceiptId :
    attributeOf (requestMarkerItem receipt requestMarkerId requestDigest) "targetReceiptId" =
      .string receipt.receipt_id := rfl

@[simp] theorem markerItem_requestDigest :
    attributeOf (requestMarkerItem receipt requestMarkerId requestDigest) "requestDigest" =
      .string requestDigest := rfl

@[simp] theorem markerItem_persistedAt :
    attributeOf (requestMarkerItem receipt requestMarkerId requestDigest) "persistedAt" =
      .string receipt.timestamp := rfl

end Attributes

private theorem attributeOf_setMember (item : Item) (member : JsString × JsValue) (name : String) :
    attributeOf (setMember item member) name =
      if member.1 = js name then member.2 else attributeOf item name := by
  unfold setMember
  split
  next present =>
    have sameKey : (fun entry : JsString × JsValue => decide (entry.1 = js name)) ∘
        (fun entry => if entry.1 = member.1 then member else entry) =
          fun entry => decide (entry.1 = js name) := by
      funext entry
      simp only [Function.comp_apply]
      split
      next same => rw [same]
      next => rfl
    rw [attributeOf, List.find?_map, sameKey, attributeOf]
    cases found : item.find? fun entry => decide (entry.1 = js name) with
    | none =>
      rw [if_neg]
      · rfl
      · intro isName
        obtain ⟨entry, inItem, sameName⟩ := List.mem_map.mp present
        have absent := List.find?_eq_none.mp found entry inItem
        rw [decide_eq_true_eq, sameName] at absent
        exact absent isName
    | some entry =>
      have isName : entry.1 = js name := by simpa using List.find?_some found
      rw [Option.map_some, Option.map_some, Option.getD_some, isName]
      by_cases same : js name = member.1
      · rw [if_pos same, if_pos same.symm]
      · rw [if_neg same, if_neg (Ne.symm same), Option.map_some, Option.getD_some]
  next absent =>
    rw [attributeOf, List.find?_append, attributeOf]
    split
    next isName =>
      have noEntry : item.find? (fun entry => decide (entry.1 = js name)) = none := by
        rw [List.find?_eq_none]
        intro entry inItem isEntry
        rw [decide_eq_true_eq] at isEntry
        exact absent (List.mem_map.mpr ⟨entry, inItem, isEntry.trans isName.symm⟩)
      simp [noEntry, isName]
    next differs => simp [differs]

private theorem hasAttribute_setMember (item : Item) (member : JsString × JsValue)
    {name : String} (present : hasAttribute item name = true) :
    hasAttribute (setMember item member) name = true := by
  rw [hasAttribute, List.any_eq_true] at present ⊢
  obtain ⟨entry, inItem, isName⟩ := present
  rw [decide_eq_true_eq] at isName
  unfold setMember
  split
  next =>
    refine ⟨_, List.mem_map_of_mem inItem, ?_⟩
    rw [decide_eq_true_eq]
    split
    next same => exact same ▸ isName
    next => exact isName
  next => exact ⟨entry, List.mem_append_left _ inItem, decide_eq_true isName⟩

theorem isHeadItem_new (receipt : SignedDecisionReceipt) (receiptHash : JsString) :
    IsHeadItem (chainHeadKeyItem receipt ++ chainHeadAttributes receipt receiptHash) receiptHash :=
  ⟨rfl, rfl, rfl⟩

theorem IsHeadItem.update {item : Item} {headHash : JsString} (isHead : IsHeadItem item headHash)
    (receipt : SignedDecisionReceipt) (receiptHash : JsString) :
    IsHeadItem (setAttributes item (chainHeadAttributes receipt receiptHash)) receiptHash where
  keyed := by
    simp only [setAttributes, chainHeadAttributes, List.foldl_cons, List.foldl_nil]
    exact hasAttribute_setMember _ _ (hasAttribute_setMember _ _ (hasAttribute_setMember _ _
      (hasAttribute_setMember _ _ isHead.keyed)))
  headHash_eq := by
    simp only [setAttributes, chainHeadAttributes, List.foldl_cons, List.foldl_nil,
      attributeOf_setMember]
    rfl
  noReceipt := by
    simp only [setAttributes, chainHeadAttributes, List.foldl_cons, List.foldl_nil,
      attributeOf_setMember]
    exact isHead.noReceipt

section Operations

variable {runtime : ReceiptRuntime} {table : Table} {repository : InMemoryRepository}

variable {item : Option Item}

variable {found : Option SignedDecisionReceipt}

theorem storedReceipt_of_slot (slot : ReceiptSlot found item) :
    storedReceipt runtime item = .ok found := by
  cases slot with
  | free => rfl
  | taken receipt receiptHash requestDigest =>
    have truthy : isTruthy receipt.toJs = true := rfl
    rw [storedReceipt, receiptItem_receipt, if_pos truthy, validateSignedDecisionReceipt_toJs]
    rfl

theorem get_refines (represents : Represents table repository)
    (invariant : InMemoryRepository.Invariant runtime repository) {tenant : JsString}
    (shape : isDigest tenant = true) (receiptId : JsString) :
    get runtime table tenant receiptId = .ok (repository.get tenant receiptId) := by
  unfold get
  by_cases isReceipt : isReceiptId receiptId = true
  · exact storedReceipt_of_slot (represents.receipts tenant receiptId shape isReceipt)
  · rw [Bool.not_eq_true] at isReceipt
    have absent : repository.get tenant receiptId = none := by
      rw [Option.eq_none_iff_forall_ne_some]
      intro receipt found
      obtain ⟨-, -, sameId⟩ := (invariant.get_eq_some_iff shape).mp found
      have isShaped : isReceiptId receiptId = true := sameId ▸ receipt.receiptIdShape
      rw [isReceipt] at isShaped
      cases isShaped
    rw [absent]
    cases isItem : table.get? (tenant, receiptId) with
    | none => rfl
    | some item =>
      rw [storedReceipt, represents.others tenant receiptId isReceipt item isItem]
      rfl

/-- Table and maps name the same head of a tenant. -/
theorem latestHashForTenant_refines (represents : Represents table repository)
    {tenant : JsString} (shape : isDigest tenant = true) :
    latestHashForTenant table tenant = repository.latestHashForTenant tenant := by
  unfold latestHashForTenant
  have slot := represents.heads tenant shape
  revert slot
  generalize repository.latestHashForTenant tenant = found
  generalize table.get? (tenant, CHAIN_HEAD_RECEIPT_ID) = item
  intro slot
  cases slot with
  | free => rfl
  | taken headHash item isHead =>
    rw [Option.bind_some, isHead.headHash_eq]
    rfl

theorem keyNotExists_receiptSlot (slot : ReceiptSlot found item) :
    Condition.keyNotExists.holds item = found.isNone := by
  cases slot with
  | free => rfl
  | taken => rfl

theorem keyNotExists_markerSlot {found : Option RequestMarker} (slot : MarkerSlot found item) :
    Condition.keyNotExists.holds item = found.isNone := by
  cases slot with
  | free => rfl
  | taken => rfl

variable {validated : SignedDecisionReceipt}

theorem chainHeadCondition {receiptHash : JsString} {head : Option JsString}
    (slot : HeadSlot head item) :
    (chainHeadTransactItem validated receiptHash).condition.holds item =
      decide (validated.prev_receipt_hash = head) := by
  unfold chainHeadTransactItem
  cases validated.prev_receipt_hash with
  | none =>
    cases slot with
    | free => rfl
    | taken headHash item isHead => simp [Condition.holds, isHead.keyed]
  | some previousHash =>
    cases slot with
    | free => rfl
    | taken headHash item isHead =>
      simp only [Condition.holds, Option.any_some, isHead.headHash_eq, readString]
      rw [Bool.eq_iff_iff, beq_iff_eq, decide_eq_true_eq, Option.some.injEq,
        Option.some.injEq, eq_comm]

theorem chainHeadTransactItem_key (validated : SignedDecisionReceipt) (receiptHash : JsString) :
    (chainHeadTransactItem validated receiptHash).key =
      (validated.tenant_id_hash, CHAIN_HEAD_RECEIPT_ID) := by
  unfold chainHeadTransactItem
  cases validated.prev_receipt_hash <;> rfl

theorem conditionOutcomes_eq (represents : Represents table repository) {requestMarkerId : JsString}
    (marker : requestMarkerReceiptId validated.request_id = .ok requestMarkerId)
    (requestDigest receiptHash : JsString) :
    conditionOutcomes table (putTransaction validated requestMarkerId requestDigest receiptHash) =
      [(repository.get validated.tenant_id_hash validated.receipt_id).isNone,
        (repository.requestMarkers.get?
          (InMemoryRepository.key validated.tenant_id_hash requestMarkerId)).isNone,
        decide (validated.prev_receipt_hash =
          repository.latestHashForTenant validated.tenant_id_hash)] := by
  have shape := validated.isDigest_tenant
  have receiptOutcome := keyNotExists_receiptSlot
    (represents.receipts _ validated.receipt_id shape validated.receiptIdShape)
  have markerOutcome := keyNotExists_markerSlot (represents.markers _ _ _ shape marker)
  have headOutcome := @chainHeadCondition _ validated receiptHash _ (represents.heads _ shape)
  simp only [conditionOutcomes, putTransaction, List.map_cons, List.map_nil,
    chainHeadTransactItem_key, receiptOutcome, markerOutcome, headOutcome]

/-! ### Resolution of failed conditions -/

theorem resolveRequestMarkerCollision_refines (represents : Represents table repository)
    (invariant : InMemoryRepository.Invariant runtime repository)
    {requestMarkerId requestDigest : JsString} {marker : RequestMarker} {item : Item}
    (isMarker : requestMarkerReceiptId validated.request_id = .ok requestMarkerId)
    (digest : decisionReceiptRequestDigest runtime validated.toUnsignedDecisionReceipt =
      .ok requestDigest) (marked : repository.requestMarkers.get?
      (InMemoryRepository.key validated.tenant_id_hash requestMarkerId) = some marker)
    (slot : MarkerSlot (some marker) (some item)) :
    resolveRequestMarkerCollision runtime table validated item =
      repository.replayMarked validated requestDigest marker := by
  have shape := validated.isDigest_tenant
  obtain ⟨target, member, sameTenant, -, sameId⟩ := invariant.marked_target shape isMarker marked
  have found : repository.get validated.tenant_id_hash marker.receiptId = some target :=
    (invariant.get_eq_some_iff shape).mpr ⟨member, sameTenant, sameId⟩
  have read := get_refines represents invariant shape marker.receiptId
  have nonempty : marker.receiptId ≠ [] := by
    intro empty
    have targetShape := target.receiptIdShape
    rw [sameId, empty] at targetShape
    revert targetShape
    decide
  have target_eq : markerTarget runtime table validated.tenant_id_hash marker.receiptId =
      .ok (some target) := by
    rw [markerTarget, if_pos nonempty, read, found]
  rw [InMemoryRepository.get] at found
  cases slot with
  | taken receipt otherId otherDigest =>
    have digest_eq : markerRequestDigest runtime
        (requestMarkerItem receipt otherId otherDigest) target = .ok otherDigest := rfl
    simp only [resolveRequestMarkerCollision, markerItem_targetReceiptId,
      markerItem_persistedAt, readString, Option.getD_some, InMemoryRepository.replayMarked]
    dsimp only at target_eq found
    simp only [target_eq, digest, digest_eq, ok_bind, found]
    by_cases same : requestDigest = otherDigest
    · rw [if_neg (not_not_intro same), if_neg (not_not_intro same.symm)]
    · rw [if_pos same, if_pos (Ne.symm same)]

theorem resolveWithoutReceipt_refines (represents : Represents table repository)
    (conflict : validated.prev_receipt_hash ≠
      repository.latestHashForTenant validated.tenant_id_hash) :
    resolveWithoutReceipt table validated =
      .error (chainHeadAdvanced validated
        (repository.latestHashForTenant validated.tenant_id_hash)) := by
  simp only [resolveWithoutReceipt,
    latestHashForTenant_refines represents validated.isDigest_tenant]
  rw [if_pos (Ne.symm conflict)]

theorem persistedAtFromItem_of_slot {receipt : SignedDecisionReceipt}
    (slot : ReceiptSlot (some receipt) item) :
    persistedAtFromItem item receipt = receipt.timestamp := by
  cases slot with
  | taken => rfl

theorem resolveConditionalCollision_refines (represents : Represents table repository)
    (invariant : InMemoryRepository.Invariant runtime repository)
    {requestMarkerId requestDigest : JsString}
    (isMarker : requestMarkerReceiptId validated.request_id = .ok requestMarkerId)
    (digest : decisionReceiptRequestDigest runtime validated.toUnsignedDecisionReceipt =
      .ok requestDigest) :
    resolveConditionalCollision runtime table validated =
      match repository.requestMarkers.get?
        (InMemoryRepository.key validated.tenant_id_hash requestMarkerId) with
      | some marker => repository.replayMarked validated requestDigest marker
      | none =>
        match repository.get validated.tenant_id_hash validated.receipt_id with
        | some existing => InMemoryRepository.replayExisting runtime validated existing
        | none => resolveWithoutReceipt table validated := by
  have shape := validated.isDigest_tenant
  have markerSlot := represents.markers _ _ _ shape isMarker
  have receiptSlot := represents.receipts _ _ shape validated.receiptIdShape
  have read := @storedReceipt_of_slot runtime _ _ receiptSlot
  rw [resolveConditionalCollision, isMarker, ok_bind]
  cases marked : repository.requestMarkers.get?
      (InMemoryRepository.key validated.tenant_id_hash requestMarkerId) with
  | some marker =>
    rw [marked] at markerSlot
    cases isItem : table.get? (validated.tenant_id_hash, requestMarkerId) with
    | none =>
      rw [isItem] at markerSlot
      cases markerSlot
    | some item =>
      rw [isItem] at markerSlot
      exact resolveRequestMarkerCollision_refines represents invariant isMarker digest marked
        markerSlot
  | none =>
    rw [marked] at markerSlot
    cases isItem : table.get? (validated.tenant_id_hash, requestMarkerId) with
    | some item =>
      rw [isItem] at markerSlot
      cases markerSlot
    | none =>
      dsimp only
      rw [read, ok_bind]
      cases found : repository.get validated.tenant_id_hash validated.receipt_id with
      | none => rfl
      | some existing =>
        rw [found] at receiptSlot
        dsimp only
        rw [persistedAtFromItem_of_slot receiptSlot]
        rfl

section Stored

variable {validated : SignedDecisionReceipt} {requestMarkerId requestDigest receiptHash : JsString}

/-- The chain head item that the transaction leaves. -/
private def headAfter (table : Table) (validated : SignedDecisionReceipt)
    (receiptHash : JsString) : Item :=
  (chainHeadTransactItem validated receiptHash).write
    (table.get? (validated.tenant_id_hash, CHAIN_HEAD_RECEIPT_ID))

private theorem get?_applyWrites
    (marker : requestMarkerReceiptId validated.request_id = .ok requestMarkerId)
    (key : JsString × JsString) :
    (applyWrites table
        (putTransaction validated requestMarkerId requestDigest receiptHash)).get? key =
      if key = (validated.tenant_id_hash, CHAIN_HEAD_RECEIPT_ID) then
        some (headAfter table validated receiptHash)
      else if key = (validated.tenant_id_hash, requestMarkerId) then
        some (requestMarkerItem validated requestMarkerId requestDigest)
      else if key = (validated.tenant_id_hash, validated.receipt_id) then
        some (receiptItem validated receiptHash requestDigest)
      else table.get? key := by
  have headNotMarker : (validated.tenant_id_hash, CHAIN_HEAD_RECEIPT_ID) ≠
      (validated.tenant_id_hash, requestMarkerId) := by
    intro same
    exact marker_ne_chainHead marker (Prod.mk.inj same).2.symm
  have headNotReceipt : (validated.tenant_id_hash, CHAIN_HEAD_RECEIPT_ID) ≠
      (validated.tenant_id_hash, validated.receipt_id) := by
    intro same
    have shape : isReceiptId CHAIN_HEAD_RECEIPT_ID = true :=
      (Prod.mk.inj same).2 ▸ validated.receiptIdShape
    rw [chainHead_not_isReceiptId] at shape
    cases shape
  simp only [applyWrites, putTransaction, List.foldl_cons, List.foldl_nil,
    chainHeadTransactItem_key, InsertionMap.get?_set, headNotMarker, headNotReceipt, if_false,
    headAfter]

private theorem isHeadItem_headAfter (represents : Represents table repository)
    (onHead : validated.prev_receipt_hash =
      repository.latestHashForTenant validated.tenant_id_hash) :
    IsHeadItem (headAfter table validated receiptHash) receiptHash := by
  have slot := represents.heads _ validated.isDigest_tenant
  rw [← onHead] at slot
  unfold headAfter chainHeadTransactItem
  revert slot
  cases validated.prev_receipt_hash with
  | none =>
    intro _
    exact isHeadItem_new validated receiptHash
  | some previousHash =>
    generalize table.get? (validated.tenant_id_hash, CHAIN_HEAD_RECEIPT_ID) = item
    intro slot
    cases slot with
    | taken headHash item isHead => exact isHead.update validated receiptHash

private theorem key_ne_of_ne {tenant leftId rightId : JsString} (tenantShape : isDigest tenant = true)
    (other : (tenant, leftId) ≠ (validated.tenant_id_hash, rightId)) :
    InMemoryRepository.key tenant leftId ≠
      InMemoryRepository.key validated.tenant_id_hash rightId := by
  intro sameKey
  obtain ⟨rfl, rfl⟩ :=
    InMemoryRepository.key_injective tenantShape validated.isDigest_tenant sameKey
  exact other rfl

variable (represents : Represents table repository)
  (marker : requestMarkerReceiptId validated.request_id = .ok requestMarkerId)
include represents marker

private theorem receiptSlot_stored {tenant receiptId : JsString} (tenantShape : isDigest tenant = true)
    (idShape : isReceiptId receiptId = true) :
    ReceiptSlot
      ((repository.stored validated requestMarkerId requestDigest receiptHash).get tenant receiptId)
      ((applyWrites table
        (putTransaction validated requestMarkerId requestDigest receiptHash)).get?
          (tenant, receiptId)) := by
  have notHead : (tenant, receiptId) ≠ (validated.tenant_id_hash, CHAIN_HEAD_RECEIPT_ID) := by
    intro same
    rw [(Prod.mk.inj same).2, chainHead_not_isReceiptId] at idShape
    cases idShape
  have notMarker : (tenant, receiptId) ≠ (validated.tenant_id_hash, requestMarkerId) := by
    intro same
    rw [(Prod.mk.inj same).2, marker_not_isReceiptId marker] at idShape
    cases idShape
  rw [get?_applyWrites marker, if_neg notHead, if_neg notMarker]
  rw [InMemoryRepository.get, InMemoryRepository.stored, InsertionMap.get?_set]
  by_cases same : (tenant, receiptId) = (validated.tenant_id_hash, validated.receipt_id)
  · obtain ⟨rfl, rfl⟩ := Prod.mk.inj same
    rw [if_pos rfl, if_pos rfl]
    exact .taken validated receiptHash requestDigest
  · rw [if_neg same, if_neg (key_ne_of_ne tenantShape same)]
    exact represents.receipts tenant receiptId tenantShape idShape

private theorem markerSlot_stored {tenant requestId otherMarkerId : JsString}
    (tenantShape : isDigest tenant = true)
    (otherMarker : requestMarkerReceiptId requestId = .ok otherMarkerId) :
    MarkerSlot
      ((repository.stored validated requestMarkerId requestDigest receiptHash).requestMarkers.get?
        (InMemoryRepository.key tenant otherMarkerId))
      ((applyWrites table
        (putTransaction validated requestMarkerId requestDigest receiptHash)).get?
          (tenant, otherMarkerId)) := by
  have notHead : (tenant, otherMarkerId) ≠ (validated.tenant_id_hash, CHAIN_HEAD_RECEIPT_ID) := by
    intro same
    exact marker_ne_chainHead otherMarker (Prod.mk.inj same).2
  have notReceipt : (tenant, otherMarkerId) ≠ (validated.tenant_id_hash, validated.receipt_id) := by
    intro same
    have idShape : isReceiptId otherMarkerId = true :=
      (Prod.mk.inj same).2.symm ▸ validated.receiptIdShape
    rw [marker_not_isReceiptId otherMarker] at idShape
    cases idShape
  rw [get?_applyWrites marker, if_neg notHead, if_neg notReceipt]
  rw [InMemoryRepository.stored, InsertionMap.get?_set]
  by_cases same : (tenant, otherMarkerId) = (validated.tenant_id_hash, requestMarkerId)
  · obtain ⟨rfl, rfl⟩ := Prod.mk.inj same
    rw [if_pos rfl, if_pos rfl]
    exact .taken validated otherMarkerId requestDigest
  · rw [if_neg same, if_neg (key_ne_of_ne tenantShape same)]
    exact represents.markers tenant requestId otherMarkerId tenantShape otherMarker

private theorem others_stored {tenant receiptId : JsString}
    (notReceiptId : isReceiptId receiptId = false)
    (isHead : IsHeadItem (headAfter table validated receiptHash) receiptHash) :
    ∀ item ∈ (applyWrites table
        (putTransaction validated requestMarkerId requestDigest receiptHash)).get?
          (tenant, receiptId), attributeOf item "receipt" = .undefined := by
  intro item isItem
  rw [get?_applyWrites marker] at isItem
  split at isItem
  next =>
    obtain rfl := Option.some.inj isItem
    exact isHead.noReceipt
  next =>
    split at isItem
    next =>
      obtain rfl := Option.some.inj isItem
      rfl
    next =>
      split at isItem
      next same =>
        rw [(Prod.mk.inj same).2] at notReceiptId
        have idShape : isReceiptId validated.receipt_id = true := validated.receiptIdShape
        rw [notReceiptId] at idShape
        cases idShape
      next => exact represents.others tenant receiptId notReceiptId item isItem

/-- The transaction of a new receipt does to the table what `stored` does to the maps. -/
theorem represents_stored (onHead : validated.prev_receipt_hash =
      repository.latestHashForTenant validated.tenant_id_hash) :
    Represents
      (applyWrites table (putTransaction validated requestMarkerId requestDigest receiptHash))
      (repository.stored validated requestMarkerId requestDigest receiptHash) := by
  have isHead := @isHeadItem_headAfter _ _ _ receiptHash represents onHead
  refine ⟨?_, ?_, ?_, ?_⟩
  · exact fun tenant receiptId => receiptSlot_stored represents marker
  · exact fun tenant requestId otherMarkerId => markerSlot_stored represents marker
  · intro tenant tenantShape
    rw [InMemoryRepository.latestHashForTenant_stored, get?_applyWrites marker]
    by_cases same : tenant = validated.tenant_id_hash
    · subst same
      rw [if_pos rfl, if_pos rfl]
      exact .taken receiptHash _ isHead
    · have otherTenant : ∀ {left right : JsString},
          (tenant, left) ≠ (validated.tenant_id_hash, right) :=
        fun equal => same (Prod.mk.inj equal).1
      rw [if_neg same, if_neg otherTenant, if_neg otherTenant, if_neg otherTenant]
      exact represents.heads tenant tenantShape
  · exact fun tenant receiptId notReceiptId =>
      others_stored represents marker notReceiptId isHead

end Stored

/-! ### One put -/

/-- The service reports a failed condition in a form the repository recognises. -/
def ReportsFailedConditions (service : DynamoDbService) : Prop :=
  ∀ receipt marker head : Bool, (receipt && marker && head) = false →
    isConditionalCheckFailed (service.cancellation [receipt, marker, head]) = true

instance (service : DynamoDbService) : Decidable (ReportsFailedConditions service) :=
  inferInstanceAs (Decidable (∀ _ _ _ : Bool, _ → _))

private theorem prepare_error {receipt : JsValue} {error : JsError}
    (failed : InMemoryRepository.prepare runtime receipt = .error error) :
    prepare runtime receipt = .error error := by
  have sequenced : prepare runtime receipt = do
      let found ← InMemoryRepository.prepare runtime receipt
      let receiptHash ← signedDecisionReceiptHash runtime found.1
      return (found.1, found.2.1, found.2.2, receiptHash) := by
    simp only [prepare, InMemoryRepository.prepare, bind_assoc, pure_bind]
  rw [sequenced, failed, error_bind]

private theorem put_eq {service : DynamoDbService} (reports : ReportsFailedConditions service)
    (represents : Represents table repository) {receipt : JsValue}
    {requestMarkerId requestDigest receiptHash : JsString}
    (prepared : InMemoryRepository.Prepared runtime receipt validated requestMarkerId requestDigest)
    (hashed : signedDecisionReceiptHash runtime validated = .ok receiptHash) :
    put runtime service table receipt =
      if repository.get validated.tenant_id_hash validated.receipt_id = none ∧
          repository.requestMarkers.get?
            (InMemoryRepository.key validated.tenant_id_hash requestMarkerId) = none ∧
          validated.prev_receipt_hash =
            repository.latestHashForTenant validated.tenant_id_hash then
        (.ok ⟨.CREATED, validated, validated.timestamp⟩,
          applyWrites table
            (putTransaction validated requestMarkerId requestDigest receiptHash))
      else (resolveConditionalCollision runtime table validated, table) := by
  have isPrepared : prepare runtime receipt =
      .ok (validated, requestMarkerId, requestDigest, receiptHash) := by
    simp only [prepare, prepared.valid, prepared.marker, prepared.digest, hashed, ok_bind]
    rfl
  have outcomes := conditionOutcomes_eq represents prepared.marker requestDigest receiptHash
  unfold put DynamoDbService.transactWrite
  rw [isPrepared]
  simp only [outcomes]
  by_cases hold : repository.get validated.tenant_id_hash validated.receipt_id = none ∧
      repository.requestMarkers.get?
        (InMemoryRepository.key validated.tenant_id_hash requestMarkerId) = none ∧
      validated.prev_receipt_hash = repository.latestHashForTenant validated.tenant_id_hash
  · obtain ⟨free, unmarked, onHead⟩ := hold
    simp [free, unmarked, onHead]
  · have failed : ((repository.get validated.tenant_id_hash validated.receipt_id).isNone &&
        (repository.requestMarkers.get?
          (InMemoryRepository.key validated.tenant_id_hash requestMarkerId)).isNone &&
        decide (validated.prev_receipt_hash =
          repository.latestHashForTenant validated.tenant_id_hash)) = false := by
      rw [Bool.eq_false_iff]
      intro all
      rw [Bool.and_eq_true, Bool.and_eq_true, Option.isNone_iff_eq_none,
        Option.isNone_iff_eq_none, decide_eq_true_eq] at all
      exact hold ⟨all.1.1, all.1.2, all.2⟩
    have cancelled := reports _ _ _ failed
    rw [if_neg hold, if_neg]
    · dsimp only
      rw [if_pos cancelled]
    · rw [List.all_cons, List.all_cons, List.all_cons, List.all_nil, Bool.and_true]
      simp only [id_eq, ← Bool.and_assoc, failed, Bool.false_eq_true, not_false_eq_true]

theorem put_refines {service : DynamoDbService} (reports : ReportsFailedConditions service)
    (represents : Represents table repository)
    (invariant : InMemoryRepository.Invariant runtime repository) (receipt : JsValue) :
    (put runtime service table receipt).1 = (repository.put runtime receipt).1 ∧
      Represents (put runtime service table receipt).2 (repository.put runtime receipt).2 := by
  unfold InMemoryRepository.put
  cases isPrepared : InMemoryRepository.prepare runtime receipt with
  | error error =>
    rw [put, prepare_error isPrepared]
    exact ⟨rfl, represents⟩
  | ok found =>
    obtain ⟨validated, requestMarkerId, requestDigest⟩ := found
    have prepared := InMemoryRepository.prepared_of_prepare isPrepared
    obtain ⟨receiptHash, hashed⟩ := prepared.hashed
    rw [put_eq reports represents prepared hashed,
      resolveConditionalCollision_refines represents invariant prepared.marker prepared.digest]
    dsimp only
    cases marked : repository.requestMarkers.get?
        (InMemoryRepository.key validated.tenant_id_hash requestMarkerId) with
    | some marker =>
      rw [if_neg (by simp)]
      exact ⟨rfl, represents⟩
    | none =>
      rw [← InMemoryRepository.get]
      cases found : repository.get validated.tenant_id_hash validated.receipt_id with
      | some existing =>
        rw [if_neg (by simp)]
        exact ⟨rfl, represents⟩
      | none =>
        by_cases onHead : validated.prev_receipt_hash =
            repository.latestHashForTenant validated.tenant_id_hash
        · rw [if_pos ⟨rfl, rfl, onHead⟩, if_neg (not_not_intro onHead), hashed]
          exact ⟨rfl, represents_stored represents prepared.marker onHead⟩
        · rw [if_neg fun hold => onHead hold.2.2, if_pos onHead]
          exact ⟨resolveWithoutReceipt_refines represents onHead, represents⟩

end Operations

end DynamoDb

/-! ### Sequences of calls -/

inductive RepositoryCall where
  | put (receipt : JsValue)
  | get (tenantId receiptId : JsString)
  | latestHashForTenant (tenantId : JsString)

/-- What a call returns or throws. -/
inductive RepositoryResponse where
  | put (outcome : Except JsError PersistenceResult)
  | get (outcome : Except JsError (Option SignedDecisionReceipt))
  | latestHashForTenant (outcome : Except JsError (Option JsString))

/-- The tenant of a read is digest-shaped; a put validates its own. -/
def RepositoryCall.hasDigestTenant : RepositoryCall → Bool
  | .put _ => true
  | .get tenantId _ => isDigest tenantId
  | .latestHashForTenant tenantId => isDigest tenantId

section Calls

variable (runtime : ReceiptRuntime)

def InMemoryRepository.call (repository : InMemoryRepository) :
    RepositoryCall → RepositoryResponse × InMemoryRepository
  | .put receipt =>
    (.put (repository.put runtime receipt).1, (repository.put runtime receipt).2)
  | .get tenantId receiptId => (.get (.ok (repository.get tenantId receiptId)), repository)
  | .latestHashForTenant tenantId =>
    (.latestHashForTenant (.ok (repository.latestHashForTenant tenantId)), repository)

def DynamoDb.call (service : DynamoDbService) (table : Table) :
    RepositoryCall → RepositoryResponse × Table
  | .put receipt =>
    (.put (DynamoDb.put runtime service table receipt).1,
      (DynamoDb.put runtime service table receipt).2)
  | .get tenantId receiptId => (.get (DynamoDb.get runtime table tenantId receiptId), table)
  | .latestHashForTenant tenantId =>
    (.latestHashForTenant (.ok (DynamoDb.latestHashForTenant table tenantId)), table)

def responses {S : Type} (call : S → RepositoryCall → RepositoryResponse × S) :
    S → List RepositoryCall → List RepositoryResponse
  | _, [] => []
  | state, next :: rest => (call state next).1 :: responses call (call state next).2 rest

variable {runtime}

theorem DynamoDb.call_refines {service : DynamoDbService} {table : Table}
    {repository : InMemoryRepository} (reports : DynamoDb.ReportsFailedConditions service)
    (represents : DynamoDb.Represents table repository)
    (invariant : InMemoryRepository.Invariant runtime repository) {call : RepositoryCall}
    (shape : call.hasDigestTenant = true) :
    (DynamoDb.call runtime service table call).1 = (repository.call runtime call).1 ∧
      DynamoDb.Represents (DynamoDb.call runtime service table call).2
        (repository.call runtime call).2 ∧
      InMemoryRepository.Invariant runtime (repository.call runtime call).2 := by
  cases call with
  | put receipt =>
    obtain ⟨sameOutcome, stillRepresents⟩ :=
      DynamoDb.put_refines reports represents invariant receipt
    exact ⟨congrArg RepositoryResponse.put sameOutcome, stillRepresents,
      invariant.step (InMemoryRepository.put_step repository receipt)⟩
  | get tenantId receiptId =>
    have sameOutcome := DynamoDb.get_refines represents invariant shape receiptId
    exact ⟨congrArg RepositoryResponse.get sameOutcome, represents, invariant⟩
  | latestHashForTenant tenantId =>
    have sameHash := DynamoDb.latestHashForTenant_refines represents shape
    exact ⟨congrArg (fun hash => RepositoryResponse.latestHashForTenant (.ok hash)) sameHash,
      represents, invariant⟩

private theorem responses_refine {service : DynamoDbService} {table : Table}
    {repository : InMemoryRepository} (reports : DynamoDb.ReportsFailedConditions service)
    (represents : DynamoDb.Represents table repository)
    (invariant : InMemoryRepository.Invariant runtime repository) (calls : List RepositoryCall)
    (shapes : ∀ call ∈ calls, call.hasDigestTenant = true) :
    responses (DynamoDb.call runtime service) table calls =
      responses (InMemoryRepository.call runtime) repository calls := by
  induction calls generalizing table repository with
  | nil => rfl
  | cons call rest ih =>
    rw [List.forall_mem_cons] at shapes
    obtain ⟨sameResponse, stillRepresents, stillInvariant⟩ :=
      DynamoDb.call_refines reports represents invariant shapes.1
    rw [responses, responses, sameResponse,
      ih stillRepresents stillInvariant shapes.2]

/-- From empty stores, both repositories give the same responses to every sequence of calls:
the same status, receipt and persistence time, or the same error. -/
theorem dynamoDb_responses_eq (service : DynamoDbService)
    (reports : DynamoDb.ReportsFailedConditions service) (calls : List RepositoryCall)
    (shapes : ∀ call ∈ calls, call.hasDigestTenant = true) :
    responses (DynamoDb.call runtime service) .empty calls =
      responses (InMemoryRepository.call runtime) .empty calls :=
  responses_refine reports DynamoDb.represents_empty (InMemoryRepository.invariant_empty runtime)
    calls shapes

end Calls

namespace Sample

/-- A cancelled transaction lists a reason for each of its writes. -/
def service : DynamoDbService where
  cancellation outcomes :=
    { name := .string (js "TransactionCanceledException")
      code := .undefined
      Code := .undefined
      message := .string (js "Transaction cancelled, please refer cancellation " ++
        js "reasons for specific reasons [" ++
        join (js ", ") (outcomes.map fun holds =>
          if holds then js "None" else js "ConditionalCheckFailed") ++ js "]")
      httpStatusCode := .number (.ofNat 400) }

def calls : List RepositoryCall :=
  [.put firstReceipt.toJs, .latestHashForTenant (digest '1'), .put secondReceipt.toJs,
    .put firstReceipt.toJs, .get (digest '1') firstReceipt.receipt_id,
    .get (digest '1') CHAIN_HEAD_RECEIPT_ID]

end Sample

theorem dynamoDb_responses_eq_sample :
    responses (DynamoDb.call Sample.runtime Sample.service) .empty Sample.calls =
      responses (InMemoryRepository.call Sample.runtime) .empty Sample.calls :=
  dynamoDb_responses_eq Sample.service (by decide +kernel) Sample.calls (by decide +kernel)

end GhostArk.EnforcementRuntime.Receipts
