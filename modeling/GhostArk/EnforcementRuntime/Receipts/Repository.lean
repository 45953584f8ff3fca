import GhostArk.EnforcementRuntime.Receipts.Canonical
import GhostArk.Js.Uri
import GhostArk.Lib.InsertionMap

/-!
Contract: `packages/enforcement-runtime/src/receipts/repository.ts`.

Owns persistence results and errors, the DynamoDB table as conditional
transactions over items, and the DynamoDB receipt repository with its
resolution of failed conditions.

The table stores attribute values unchanged, executes a transaction only if all
of its conditions hold, and reads consistently. What the service throws when a
condition fails is a parameter. Listing of chain heads is not modelled.
-/

namespace GhostArk.EnforcementRuntime.Receipts

open Js ReceiptSchema Lib

inductive PersistenceStatus where
  | CREATED
  | IDEMPOTENT_EXISTING
deriving DecidableEq, Repr

structure PersistenceResult where
  status : PersistenceStatus
  receipt : SignedDecisionReceipt
  persistedAt : JsString
deriving DecidableEq

def integrityCollisionError (message : JsString) (context : List (JsString × JsValue)) : JsError :=
  ⟨.integrityCollisionError, message, context⟩

def chainHeadConflictError (message : JsString) (context : List (JsString × JsValue)) : JsError :=
  ⟨.chainHeadConflictError, message, context⟩

def nullable (value : Option JsString) : JsValue := (value.map .string).getD .null

/-- The four errors that both repositories throw. -/
def requestDigestMismatch (receipt : SignedDecisionReceipt) (incoming stored : JsString) : JsError :=
  integrityCollisionError
    (js "Receipt request id replay detected with mismatched canonical request digest")
    [(js "tenantId", .string receipt.tenant_id_hash), (js "requestId", .string receipt.request_id),
      (js "incomingRequestDigest", .string incoming), (js "storedRequestDigest", .string stored)]

def markerTargetMissing (receipt : SignedDecisionReceipt) (targetReceiptId : JsString) : JsError :=
  integrityCollisionError
    (js "Receipt request marker exists but the target receipt was not found")
    [(js "tenantId", .string receipt.tenant_id_hash), (js "requestId", .string receipt.request_id),
      (js "targetReceiptId", .string targetReceiptId)]

def receiptDigestMismatch (receipt : SignedDecisionReceipt) (incoming stored : JsString) : JsError :=
  integrityCollisionError
    (js "Receipt primary key collision detected with mismatched canonical digests")
    [(js "tenantId", .string receipt.tenant_id_hash), (js "receiptId", .string receipt.receipt_id),
      (js "incomingDigest", .string incoming), (js "storedDigest", .string stored)]

def chainHeadAdvanced (receipt : SignedDecisionReceipt) (observedHead : Option JsString) : JsError :=
  chainHeadConflictError
    (js "Receipt chain head advanced before receipt could be persisted")
    [(js "tenantId", .string receipt.tenant_id_hash), (js "receiptId", .string receipt.receipt_id),
      (js "expectedPreviousHash", nullable receipt.prev_receipt_hash),
      (js "observedHead", nullable observedHead)]

def CHAIN_HEAD_RECEIPT_ID : JsString := js "__chain_head__"

def REQUEST_MARKER_PREFIX : JsString := js "__request__#"

def requestMarkerReceiptId (requestId : JsString) : Except JsError JsString := do
  let encoded ← encodeURIComponent requestId
  return REQUEST_MARKER_PREFIX ++ encoded

theorem requestMarkerReceiptId_injective {left right markerId : JsString}
    (leftMarker : requestMarkerReceiptId left = .ok markerId)
    (rightMarker : requestMarkerReceiptId right = .ok markerId) : left = right := by
  rw [requestMarkerReceiptId, bind_eq_ok] at leftMarker rightMarker
  obtain ⟨leftEncoded, isLeft, leftId⟩ := leftMarker
  obtain ⟨rightEncoded, isRight, rightId⟩ := rightMarker
  rw [pure_eq_ok] at leftId rightId
  have sameEncoded := List.append_cancel_left (leftId.trans rightId.symm)
  rw [← sameEncoded] at isRight
  exact encodeURIComponent_injective isLeft isRight

/-- An item: its attributes by name. -/
abbrev Item := List (JsString × JsValue)

def attributeOf (item : Item) (name : String) : JsValue :=
  ((item.find? fun entry => entry.1 = js name).map Prod.snd).getD .undefined

def hasAttribute (item : Item) (name : String) : Bool := item.any fun entry => entry.1 = js name

/-- Items by `tenantId` and `receiptId`. -/
abbrev Table := InsertionMap (JsString × JsString) Item

inductive Condition where
  /-- `attribute_not_exists(tenantId) AND attribute_not_exists(receiptId)`. -/
  | keyNotExists
  /-- `headHash = :previousHash`. -/
  | headHashIs (previousHash : JsString)

def Condition.holds (item : Option Item) : Condition → Bool
  | keyNotExists =>
    item.all fun item => !hasAttribute item "tenantId" && !hasAttribute item "receiptId"
  | headHashIs previousHash =>
    item.any fun item => readString (attributeOf item "headHash") == some previousHash

/-- One write of a transaction: the item after it, from the item before it. -/
structure TransactItem where
  key : JsString × JsString
  condition : Condition
  write : Option Item → Item

def applyWrites (table : Table) (writes : List TransactItem) : Table :=
  writes.foldl (fun table write => table.set write.key (write.write (table.get? write.key))) table

def conditionOutcomes (table : Table) (writes : List TransactItem) : List Bool :=
  writes.map fun write => write.condition.holds (table.get? write.key)

/-- The fields of a thrown value that the repository inspects. -/
structure ServiceError where
  name : JsValue
  code : JsValue
  Code : JsValue
  message : JsValue
  httpStatusCode : JsValue

/-- `[A-Z]` and the two other units that fold to an ASCII letter under the flags `iu`. -/
def foldUnit (codeUnit : CodeUnit) : CodeUnit :=
  if inRange 'A' 'Z' codeUnit then Fin.ofNat 65536 (codeUnit.val + 32)
  else if codeUnit.val = 0x212A then unit 'k'
  else if codeUnit.val = 0x017F then unit 's'
  else codeUnit

def includesText (text part : JsString) : Bool :=
  text.tails.any fun rest => part.isPrefixOf rest

def isConditionalCheckFailed (error : ServiceError) : Bool :=
  let name := (readString error.name).getD []
  let code := ((readString error.code).orElse fun _ => readString error.Code).getD []
  let message := (readString error.message).getD []
  let errorText := name ++ js " " ++ code ++ js " " ++ message
  let folded := errorText.map foldUnit
  name == js "ConditionalCheckFailedException" || code == js "ConditionalCheckFailedException" ||
    ((readNumber error.httpStatusCode).any (·.strictEq (.ofNat 400)) &&
      (includesText folded (js "conditionalcheckfailed") ||
        includesText folded (js "conditional check")))

def ServiceError.toJsError (error : ServiceError) : JsError :=
  ⟨.external ((readString error.name).getD []), (readString error.message).getD [], []⟩

/-- What a failed transaction throws, from the outcomes of its conditions. -/
structure DynamoDbService where
  cancellation : List Bool → ServiceError

/-- `client.send(new TransactWriteCommand(...))`. -/
def DynamoDbService.transactWrite (service : DynamoDbService) (table : Table)
    (writes : List TransactItem) : Except ServiceError Table :=
  let outcomes := conditionOutcomes table writes
  if outcomes.all id then .ok (applyWrites table writes) else .error (service.cancellation outcomes)

/-! ### DynamoDbDecisionReceiptRepository -/

def isTruthy : JsValue → Bool
  | .undefined => false
  | .null => false
  | .hole => false
  | .bool value => value
  | .number value => value != .nan && value != .ofNat 0
  | .string value => value != []
  | _ => true

def receiptItem (receipt : SignedDecisionReceipt) (receiptHash requestDigest : JsString) : Item :=
  [(js "tenantId", .string receipt.tenant_id_hash),
    (js "receiptId", .string receipt.receipt_id),
    (js "requestId", .string receipt.request_id),
    (js "modelId", .string receipt.model_id),
    (js "policyHash", .string receipt.policy_hash),
    (js "timestamp", .string receipt.timestamp),
    (js "persistedAt", .string receipt.timestamp),
    (js "receiptHash", .string receiptHash),
    (js "requestDigest", .string requestDigest),
    (js "prevReceiptHash", nullable receipt.prev_receipt_hash),
    (js "receipt", receipt.toJs)]

def requestMarkerItem (receipt : SignedDecisionReceipt) (requestMarkerId requestDigest : JsString) :
    Item :=
  [(js "tenantId", .string receipt.tenant_id_hash),
    (js "receiptId", .string requestMarkerId),
    (js "requestId", .string receipt.request_id),
    (js "requestDigest", .string requestDigest),
    (js "targetReceiptId", .string receipt.receipt_id),
    (js "persistedAt", .string receipt.timestamp)]

def chainHeadAttributes (receipt : SignedDecisionReceipt) (receiptHash : JsString) : Item :=
  [(js "headHash", .string receiptHash),
    (js "previousHash", nullable receipt.prev_receipt_hash),
    (js "latestReceiptId", .string receipt.receipt_id),
    (js "updatedAt", .string receipt.timestamp)]

/-- `SET name = value, ...` on an item. -/
def setAttributes (item : Item) (assignments : Item) : Item :=
  assignments.foldl setMember item

def chainHeadKeyItem (receipt : SignedDecisionReceipt) : Item :=
  [(js "tenantId", .string receipt.tenant_id_hash), (js "receiptId", .string CHAIN_HEAD_RECEIPT_ID)]

def chainHeadTransactItem (receipt : SignedDecisionReceipt) (receiptHash : JsString) :
    TransactItem :=
  match receipt.prev_receipt_hash with
  | none =>
    { key := (receipt.tenant_id_hash, CHAIN_HEAD_RECEIPT_ID)
      condition := .keyNotExists
      write := fun _ => chainHeadKeyItem receipt ++ chainHeadAttributes receipt receiptHash }
  | some previousHash =>
    { key := (receipt.tenant_id_hash, CHAIN_HEAD_RECEIPT_ID)
      condition := .headHashIs previousHash
      write := fun item =>
        setAttributes (item.getD (chainHeadKeyItem receipt))
          (chainHeadAttributes receipt receiptHash) }

def putTransaction (receipt : SignedDecisionReceipt)
    (requestMarkerId requestDigest receiptHash : JsString) : List TransactItem :=
  [{ key := (receipt.tenant_id_hash, receipt.receipt_id)
     condition := .keyNotExists
     write := fun _ => receiptItem receipt receiptHash requestDigest },
    { key := (receipt.tenant_id_hash, requestMarkerId)
      condition := .keyNotExists
      write := fun _ => requestMarkerItem receipt requestMarkerId requestDigest },
    chainHeadTransactItem receipt receiptHash]

namespace DynamoDb

variable (runtime : ReceiptRuntime)

def storedReceipt (item : Option Item) : Except JsError (Option SignedDecisionReceipt) :=
  match item with
  | none => .ok none
  | some item =>
    if isTruthy (attributeOf item "receipt") then
      (validateSignedDecisionReceipt runtime (attributeOf item "receipt")).map some
    else .ok none

def get (table : Table) (tenantId receiptId : JsString) :
    Except JsError (Option SignedDecisionReceipt) :=
  storedReceipt runtime (table.get? (tenantId, receiptId))

def latestHashForTenant (table : Table) (tenantId : JsString) : Option JsString :=
  (table.get? (tenantId, CHAIN_HEAD_RECEIPT_ID)).bind fun item =>
    readString (attributeOf item "headHash")

def persistedAtFromItem (item : Option Item) (receipt : SignedDecisionReceipt) : JsString :=
  (item.bind fun item => readString (attributeOf item "persistedAt")).getD receipt.timestamp

/-- The receipt a marker points at; an empty target points at none. -/
def markerTarget (table : Table) (tenantId targetReceiptId : JsString) :
    Except JsError (Option SignedDecisionReceipt) :=
  if targetReceiptId ≠ [] then get runtime table tenantId targetReceiptId else .ok none

def markerRequestDigest (marker : Item) (stored : SignedDecisionReceipt) :
    Except JsError JsString :=
  match readString (attributeOf marker "requestDigest") with
  | some requestDigest => .ok requestDigest
  | none => decisionReceiptRequestDigest runtime stored.toUnsignedDecisionReceipt

def resolveRequestMarkerCollision (table : Table) (receipt : SignedDecisionReceipt)
    (marker : Item) : Except JsError PersistenceResult := do
  let targetReceiptId := (readString (attributeOf marker "targetReceiptId")).getD []
  let target ← markerTarget runtime table receipt.tenant_id_hash targetReceiptId
  match target with
  | none => .error (markerTargetMissing receipt targetReceiptId)
  | some stored => do
    let incomingRequestDigest ←
      decisionReceiptRequestDigest runtime receipt.toUnsignedDecisionReceipt
    let storedRequestDigest ← markerRequestDigest runtime marker stored
    if incomingRequestDigest ≠ storedRequestDigest then
      .error (requestDigestMismatch receipt incomingRequestDigest storedRequestDigest)
    else
      .ok ⟨.IDEMPOTENT_EXISTING, stored,
        (readString (attributeOf marker "persistedAt")).getD stored.timestamp⟩

/-- No stored receipt explains the failed condition. -/
def resolveWithoutReceipt (table : Table) (receipt : SignedDecisionReceipt) :
    Except JsError PersistenceResult :=
  let observedHead := latestHashForTenant table receipt.tenant_id_hash
  if observedHead ≠ receipt.prev_receipt_hash then .error (chainHeadAdvanced receipt observedHead)
  else
    .error (integrityCollisionError
      (js "Receipt conditional write failed but no existing receipt was found")
      [(js "tenantId", .string receipt.tenant_id_hash),
        (js "receiptId", .string receipt.receipt_id)])

def resolveConditionalCollision (table : Table) (receipt : SignedDecisionReceipt) :
    Except JsError PersistenceResult := do
  let requestMarkerId ← requestMarkerReceiptId receipt.request_id
  match table.get? (receipt.tenant_id_hash, requestMarkerId) with
  | some marker => resolveRequestMarkerCollision runtime table receipt marker
  | none => do
    let item := table.get? (receipt.tenant_id_hash, receipt.receipt_id)
    let stored ← storedReceipt runtime item
    match stored with
    | none => resolveWithoutReceipt table receipt
    | some stored => do
      let incomingDigest ← decisionReceiptDigest runtime receipt.toUnsignedDecisionReceipt
      let storedDigest ← decisionReceiptDigest runtime stored.toUnsignedDecisionReceipt
      if incomingDigest ≠ storedDigest then
        .error (receiptDigestMismatch receipt incomingDigest storedDigest)
      else .ok ⟨.IDEMPOTENT_EXISTING, stored, persistedAtFromItem item stored⟩

/-- What `put` computes before it sends the transaction. -/
def prepare (receipt : JsValue) :
    Except JsError (SignedDecisionReceipt × JsString × JsString × JsString) := do
  let validated ← validateSignedDecisionReceipt runtime receipt
  let requestMarkerId ← requestMarkerReceiptId validated.request_id
  let requestDigest ←
    decisionReceiptRequestDigest runtime validated.toUnsignedDecisionReceipt
  let receiptHash ← signedDecisionReceiptHash runtime validated
  return (validated, requestMarkerId, requestDigest, receiptHash)

def put (service : DynamoDbService) (table : Table) (receipt : JsValue) :
    Except JsError PersistenceResult × Table :=
  match prepare runtime receipt with
  | .error error => (.error error, table)
  | .ok (validated, requestMarkerId, requestDigest, receiptHash) =>
    match service.transactWrite table
      (putTransaction validated requestMarkerId requestDigest receiptHash) with
    | .ok written => (.ok ⟨.CREATED, validated, validated.timestamp⟩, written)
    | .error error =>
      if isConditionalCheckFailed error then
        (resolveConditionalCollision runtime table validated, table)
      else (.error error.toJsError, table)

end DynamoDb

end GhostArk.EnforcementRuntime.Receipts
