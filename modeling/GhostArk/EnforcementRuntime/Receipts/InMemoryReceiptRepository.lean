import GhostArk.EnforcementRuntime.Receipts.Repository

/-!
Contract: `packages/enforcement-runtime/src/receipts/inMemoryReceiptRepository.ts`.

Owns the three maps of the in-memory repository, its operations with their
updates in source order, and the exit paths of one `put`.

Does not own: invariants over runs. Listing of heads and receipts is not
modelled.
-/

namespace GhostArk.EnforcementRuntime.Receipts

open Js ReceiptSchema Lib

structure RequestMarker where
  receiptId : JsString
  requestDigest : JsString
  persistedAt : JsString
deriving DecidableEq, Repr

structure ChainHead where
  receiptId : JsString
  headHash : JsString
  updatedAt : JsString
deriving DecidableEq, Repr

structure InMemoryRepository where
  receipts : InsertionMap JsString SignedDecisionReceipt
  requestMarkers : InsertionMap JsString RequestMarker
  chainHeads : InsertionMap JsString ChainHead

namespace InMemoryRepository

/-- `new InMemoryDecisionReceiptRepository()`. -/
def empty : InMemoryRepository := ⟨.empty, .empty, .empty⟩

def key (tenantIdHash receiptId : JsString) : JsString := tenantIdHash ++ js ":" ++ receiptId

def get (repository : InMemoryRepository) (tenantId receiptId : JsString) :
    Option SignedDecisionReceipt :=
  repository.receipts.get? (key tenantId receiptId)

def latestHashForTenant (repository : InMemoryRepository) (tenantId : JsString) :
    Option JsString :=
  (repository.chainHeads.get? tenantId).map ChainHead.headHash

section Put

variable (runtime : ReceiptRuntime)

/-- What `put` computes before its first lookup. -/
def prepare (receipt : JsValue) :
    Except JsError (SignedDecisionReceipt × JsString × JsString) := do
  let validated ← validateSignedDecisionReceipt runtime receipt
  let requestMarkerId ← requestMarkerReceiptId validated.request_id
  let requestDigest ←
    decisionReceiptRequestDigest runtime validated.toUnsignedDecisionReceipt
  return (validated, requestMarkerId, requestDigest)

def replayMarked (repository : InMemoryRepository) (validated : SignedDecisionReceipt)
    (requestDigest : JsString) (marker : RequestMarker) : Except JsError PersistenceResult :=
  if marker.requestDigest ≠ requestDigest then
    .error (requestDigestMismatch validated requestDigest marker.requestDigest)
  else
    match repository.receipts.get? (key validated.tenant_id_hash marker.receiptId) with
    | none => .error (markerTargetMissing validated marker.receiptId)
    | some existing => .ok ⟨.IDEMPOTENT_EXISTING, existing, marker.persistedAt⟩

def replayExisting (validated existing : SignedDecisionReceipt) :
    Except JsError PersistenceResult := do
  let incomingDigest ← decisionReceiptDigest runtime validated.toUnsignedDecisionReceipt
  let storedDigest ← decisionReceiptDigest runtime existing.toUnsignedDecisionReceipt
  if incomingDigest ≠ storedDigest then
    .error (receiptDigestMismatch validated incomingDigest storedDigest)
  else .ok ⟨.IDEMPOTENT_EXISTING, existing, existing.timestamp⟩

/-- The maps after the receipt and its marker are written. -/
def marked (repository : InMemoryRepository) (validated : SignedDecisionReceipt)
    (requestMarkerId requestDigest : JsString) : InMemoryRepository where
  receipts := repository.receipts.set (key validated.tenant_id_hash validated.receipt_id) validated
  requestMarkers := repository.requestMarkers.set (key validated.tenant_id_hash requestMarkerId)
    ⟨validated.receipt_id, requestDigest, validated.timestamp⟩
  chainHeads := repository.chainHeads

/-- The maps after the chain head is written too. -/
def stored (repository : InMemoryRepository) (validated : SignedDecisionReceipt)
    (requestMarkerId requestDigest headHash : JsString) : InMemoryRepository where
  receipts := repository.receipts.set (key validated.tenant_id_hash validated.receipt_id) validated
  requestMarkers := repository.requestMarkers.set (key validated.tenant_id_hash requestMarkerId)
    ⟨validated.receipt_id, requestDigest, validated.timestamp⟩
  chainHeads := repository.chainHeads.set validated.tenant_id_hash
    ⟨validated.receipt_id, headHash, validated.timestamp⟩

/-- The updates of a new receipt. The head's hash is computed after the first two maps are
written, so an error there would leave them changed. -/
def create (repository : InMemoryRepository) (validated : SignedDecisionReceipt)
    (requestMarkerId requestDigest : JsString) :
    Except JsError JsString → Except JsError PersistenceResult × InMemoryRepository
  | .error error => (.error error, repository.marked validated requestMarkerId requestDigest)
  | .ok headHash =>
    (.ok ⟨.CREATED, validated, validated.timestamp⟩,
      repository.stored validated requestMarkerId requestDigest headHash)

def put (repository : InMemoryRepository) (receipt : JsValue) :
    Except JsError PersistenceResult × InMemoryRepository :=
  match prepare runtime receipt with
  | .error error => (.error error, repository)
  | .ok (validated, requestMarkerId, requestDigest) =>
    match repository.requestMarkers.get? (key validated.tenant_id_hash requestMarkerId) with
    | some marker => (repository.replayMarked validated requestDigest marker, repository)
    | none =>
      match repository.receipts.get? (key validated.tenant_id_hash validated.receipt_id) with
      | some existing => (replayExisting runtime validated existing, repository)
      | none =>
        let currentHead := repository.latestHashForTenant validated.tenant_id_hash
        if validated.prev_receipt_hash ≠ currentHead then
          (.error (chainHeadAdvanced validated currentHead), repository)
        else
          repository.create validated requestMarkerId requestDigest
            (signedDecisionReceiptHash runtime validated)

/-! ### Exit paths of one put -/

/-- The receipt, its marker id and its request digest, as `put` computes them. -/
structure Prepared (receipt : JsValue) (validated : SignedDecisionReceipt)
    (requestMarkerId requestDigest : JsString) : Prop where
  valid : validateSignedDecisionReceipt runtime receipt = .ok validated
  marker : requestMarkerReceiptId validated.request_id = .ok requestMarkerId
  digest : decisionReceiptRequestDigest runtime validated.toUnsignedDecisionReceipt =
    .ok requestDigest

/-- Everything one `put` can do. Only `created` changes the maps. -/
inductive PutStep (repository : InMemoryRepository) (receipt : JsValue) :
    Except JsError PersistenceResult → InMemoryRepository → Prop where
  | threw (error : JsError) : PutStep repository receipt (.error error) repository
  | replayedMarked (validated : SignedDecisionReceipt) (requestMarkerId requestDigest : JsString)
      (marker : RequestMarker) (existing : SignedDecisionReceipt)
      (prepared : Prepared runtime receipt validated requestMarkerId requestDigest)
      (marked : repository.requestMarkers.get? (key validated.tenant_id_hash requestMarkerId) =
        some marker)
      (sameDigest : marker.requestDigest = requestDigest)
      (target : repository.receipts.get? (key validated.tenant_id_hash marker.receiptId) =
        some existing) :
      PutStep repository receipt (.ok ⟨.IDEMPOTENT_EXISTING, existing, marker.persistedAt⟩)
        repository
  | replayedExisting (validated : SignedDecisionReceipt) (requestMarkerId requestDigest : JsString)
      (existing : SignedDecisionReceipt)
      (prepared : Prepared runtime receipt validated requestMarkerId requestDigest)
      (unmarked : repository.requestMarkers.get? (key validated.tenant_id_hash requestMarkerId) =
        none)
      (taken : repository.receipts.get? (key validated.tenant_id_hash validated.receipt_id) =
        some existing)
      (sameDigest : ∃ digest,
        decisionReceiptDigest runtime validated.toUnsignedDecisionReceipt = .ok digest ∧
        decisionReceiptDigest runtime existing.toUnsignedDecisionReceipt = .ok digest) :
      PutStep repository receipt (.ok ⟨.IDEMPOTENT_EXISTING, existing, existing.timestamp⟩)
        repository
  | created (validated : SignedDecisionReceipt) (requestMarkerId requestDigest headHash : JsString)
      (prepared : Prepared runtime receipt validated requestMarkerId requestDigest)
      (unmarked : repository.requestMarkers.get? (key validated.tenant_id_hash requestMarkerId) =
        none)
      (free : repository.receipts.get? (key validated.tenant_id_hash validated.receipt_id) = none)
      (onHead : validated.prev_receipt_hash =
        repository.latestHashForTenant validated.tenant_id_hash)
      (hashed : signedDecisionReceiptHash runtime validated = .ok headHash) :
      PutStep repository receipt (.ok ⟨.CREATED, validated, validated.timestamp⟩)
        (repository.stored validated requestMarkerId requestDigest headHash)

variable {runtime}

variable {validated : SignedDecisionReceipt}

theorem prepared_of_prepare {receipt : JsValue} {requestMarkerId requestDigest : JsString}
    (isPrepared : prepare runtime receipt = .ok (validated, requestMarkerId, requestDigest)) :
    Prepared runtime receipt validated requestMarkerId requestDigest := by
  rw [prepare, bind_eq_ok] at isPrepared
  obtain ⟨found, valid, isPrepared⟩ := isPrepared
  rw [bind_eq_ok] at isPrepared
  obtain ⟨markerId, marker, isPrepared⟩ := isPrepared
  rw [bind_eq_ok] at isPrepared
  obtain ⟨digest, isDigest, same⟩ := isPrepared
  rw [pure_eq_ok, Prod.mk.injEq, Prod.mk.injEq] at same
  obtain ⟨rfl, rfl, rfl⟩ := same
  exact ⟨valid, marker, isDigest⟩

theorem Prepared.hashed {receipt : JsValue} {requestMarkerId requestDigest : JsString}
    (prepared : Prepared runtime receipt validated requestMarkerId requestDigest) :
    ∃ hash, signedDecisionReceiptHash runtime validated = .ok hash :=
  exists_signedDecisionReceiptHash prepared.digest

theorem replayMarked_eq_ok {repository : InMemoryRepository} {requestDigest : JsString}
    {marker : RequestMarker} {result : PersistenceResult}
    (replayed : repository.replayMarked validated requestDigest marker = .ok result) :
    marker.requestDigest = requestDigest ∧
      ∃ existing, repository.receipts.get? (key validated.tenant_id_hash marker.receiptId) =
        some existing ∧ result = ⟨.IDEMPOTENT_EXISTING, existing, marker.persistedAt⟩ := by
  unfold replayMarked at replayed
  split at replayed
  next => cases replayed
  next sameDigest =>
    split at replayed
    next => cases replayed
    next existing target =>
      exact ⟨not_not.mp sameDigest, existing, target, (Except.ok.inj replayed).symm⟩

theorem replayExisting_eq_ok {validated existing : SignedDecisionReceipt}
    {result : PersistenceResult} (replayed : replayExisting runtime validated existing = .ok result) :
    (∃ digest, decisionReceiptDigest runtime validated.toUnsignedDecisionReceipt = .ok digest ∧
      decisionReceiptDigest runtime existing.toUnsignedDecisionReceipt = .ok digest) ∧
      result = ⟨.IDEMPOTENT_EXISTING, existing, existing.timestamp⟩ := by
  rw [replayExisting, bind_eq_ok] at replayed
  obtain ⟨incomingDigest, incoming, replayed⟩ := replayed
  rw [bind_eq_ok] at replayed
  obtain ⟨storedDigest, isStored, replayed⟩ := replayed
  split at replayed
  next => cases replayed
  next same =>
    rw [not_not] at same
    subst same
    exact ⟨⟨incomingDigest, incoming, isStored⟩, (Except.ok.inj replayed).symm⟩

theorem put_step (repository : InMemoryRepository) (receipt : JsValue) :
    PutStep runtime repository receipt (repository.put runtime receipt).1
      (repository.put runtime receipt).2 := by
  unfold put
  cases isPrepared : prepare runtime receipt with
  | error error => exact .threw error
  | ok found =>
    obtain ⟨validated, requestMarkerId, requestDigest⟩ := found
    have prepared := prepared_of_prepare isPrepared
    dsimp only
    split
    next marker marked =>
      cases outcome : repository.replayMarked validated requestDigest marker with
      | error error => exact .threw error
      | ok result =>
        obtain ⟨sameDigest, existing, target, rfl⟩ := replayMarked_eq_ok outcome
        exact .replayedMarked validated requestMarkerId requestDigest marker existing prepared
          marked sameDigest target
    next unmarked =>
      split
      next existing taken =>
        cases outcome : replayExisting runtime validated existing with
        | error error => exact .threw error
        | ok result =>
          obtain ⟨sameDigest, rfl⟩ := replayExisting_eq_ok outcome
          exact .replayedExisting validated requestMarkerId requestDigest existing prepared
            unmarked taken sameDigest
      next free =>
        split
        next => exact .threw _
        next onHead =>
          obtain ⟨headHash, hashed⟩ := prepared.hashed
          rw [hashed, create]
          exact .created validated requestMarkerId requestDigest headHash prepared unmarked free
            (not_not.mp onHead) hashed

theorem put_unchanged (repository : InMemoryRepository) (receipt : JsValue)
    (notCreated : ∀ result, (repository.put runtime receipt).1 = .ok result →
      result.status = .IDEMPOTENT_EXISTING) : (repository.put runtime receipt).2 = repository := by
  have step := @put_step runtime repository receipt
  revert notCreated step
  generalize (repository.put runtime receipt).1 = outcome
  generalize (repository.put runtime receipt).2 = after
  intro notCreated step
  cases step with
  | threw error => rfl
  | replayedMarked => rfl
  | replayedExisting => rfl
  | created => cases notCreated _ rfl

end Put

end InMemoryRepository

end GhostArk.EnforcementRuntime.Receipts
