import GhostArk.EnforcementRuntime.Vault.Store
import GhostArk.Js.Sha256
import GhostArk.Lib.Interaction

/-!
Contract: `packages/enforcement-runtime/src/vault/dynamodbStore.ts`.

Owns keys and items, the table with its commands and conditions, each operation
of the DynamoDB vault as a program of table commands, and what each operation
does when no other client interferes.

The table stores attribute values unchanged, leaves out undefined ones, compares
strings by their UTF-8 bytes and executes each command in one step. A query
evaluates items in the order of their sort keys and may stop after any number of
them; `page` says after how many.
-/

namespace GhostArk.EnforcementRuntime.Vault.DynamoDb

open Js Lib Policy

structure DynamoDbMemoryKey where
  PK : JsString
  SK : JsString
deriving DecidableEq, Repr

def identityPk (tenantId userId : JsString) : JsString :=
  js "TENANT#" ++ tenantId ++ js "#USER#" ++ userId

def sortKeyPrefix : JsString := js "MEMORY#"

def dynamoDbMemoryKey (tenantId userId id : JsString) : DynamoDbMemoryKey :=
  ⟨identityPk tenantId userId, sortKeyPrefix ++ id⟩

structure DynamoDbMemoryItem extends DynamoDbMemoryKey where
  id : JsString
  tenantId : JsString
  userId : JsString
  sessionId : Option JsString
  tier : MemoryTier
  contentDigest : JsString
  classificationTags : List JsString
  createdAt : JsString
  expiresAt : Option JsString
  expiresAtEpoch : Option Int
  tombstonedAt : Option JsString
deriving DecidableEq, Repr

/-- An item of the table. An update of an absent key creates an item with the key and the updated
attribute alone. -/
inductive StoredItem where
  | whole (item : DynamoDbMemoryItem)
  | bare (tombstonedAt : JsString)
deriving DecidableEq, Repr

def StoredItem.whole? : StoredItem → Option DynamoDbMemoryItem
  | .whole item => some item
  | .bare _ => none

section Items

variable (runtime : PolicyRuntime)

def epochSeconds (value : Option JsString) : Option Int :=
  if isGiven value then
    match runtime.dates.parse (value.getD []) with
    | .finite millis => some ⌊millis / 1000⌋
    | _ => none
  else none

def itemOf (record : MemoryRecord) : DynamoDbMemoryItem where
  toDynamoDbMemoryKey := dynamoDbMemoryKey record.tenantId record.userId record.id
  id := record.id
  tenantId := record.tenantId
  userId := record.userId
  sessionId := record.sessionId
  tier := record.tier
  contentDigest := record.contentDigest
  classificationTags := record.classificationTags
  createdAt := record.createdAt
  expiresAt := record.expiresAt
  expiresAtEpoch := epochSeconds runtime record.expiresAt
  tombstonedAt := record.tombstonedAt

def toDynamoDbMemoryItem (clock : JsString) (request : MemoryWriteRequest) :
    Except JsError DynamoDbMemoryItem := do
  let id ← recordId runtime request
  return itemOf runtime (memoryRecord clock request id)

end Items

/-- `[...item.classificationTags]` throws where the attribute is missing. -/
def missingTagsError : JsError :=
  ⟨.external (js "TypeError"), js "item.classificationTags is not iterable", []⟩

def recordOf (item : DynamoDbMemoryItem) : MemoryRecord where
  id := item.id
  tenantId := item.tenantId
  userId := item.userId
  sessionId := item.sessionId
  tier := item.tier
  contentDigest := item.contentDigest
  classificationTags := Receipts.sortStrings item.classificationTags
  createdAt := item.createdAt
  expiresAt := item.expiresAt
  tombstonedAt := item.tombstonedAt

def fromDynamoDbMemoryItem : StoredItem → Except JsError MemoryRecord
  | .whole item => .ok (recordOf item)
  | .bare _ => .error missingTagsError

abbrev Table := InsertionMap DynamoDbMemoryKey StoredItem

/-- The order of strings in the table. -/
def utf8Lt (left right : JsString) : Bool := decide (utf8 left < utf8 right)

/-- `:pk`, `:now`, `:sessionId` if there is one, and the values of `#tier IN (..)` if any. -/
structure MemoryQuery where
  pk : JsString
  now : JsString
  sessionId : Option JsString
  tiers : List MemoryTier
deriving DecidableEq, Repr

/-- `FilterExpression`. -/
def MemoryQuery.selects (query : MemoryQuery) : StoredItem → Bool
  | .whole item =>
    item.expiresAt.all (fun expiresAt => utf8Lt query.now expiresAt) &&
      item.tombstonedAt.isNone &&
      query.sessionId.all (fun sessionId => item.sessionId == some sessionId) &&
      (query.tiers.isEmpty || query.tiers.contains item.tier)
  | .bare _ => false

def sortKeyLe (left right : DynamoDbMemoryKey × StoredItem) : Prop :=
  utf8Lt right.1.SK left.1.SK = false

instance instDecidableRelSortKeyLe : DecidableRel sortKeyLe :=
  fun left right => inferInstanceAs (Decidable (utf8Lt right.1.SK left.1.SK = false))

/-- `KeyConditionExpression`. -/
def partition (table : Table) (pk : JsString) : List StoredItem :=
  ((table.entries.filter fun entry =>
    entry.1.PK == pk && sortKeyPrefix.isPrefixOf entry.1.SK).insertionSort sortKeyLe).map Prod.snd

inductive TableCommand where
  /-- Under `attribute_not_exists(PK) AND attribute_not_exists(SK)`. -/
  | put (item : DynamoDbMemoryItem)
  | get (key : DynamoDbMemoryKey)
  /-- `SET tombstonedAt = :tombstonedAt`. -/
  | update (key : DynamoDbMemoryKey) (tombstonedAt : JsString)
  | delete (key : DynamoDbMemoryKey)
  | query (query : MemoryQuery)
deriving DecidableEq

abbrev TableReply : TableCommand → Type
  | .put _ => Except JsError Unit
  | .get _ => Option StoredItem
  | .update _ _ => Unit
  | .delete _ => Unit
  | .query _ => List StoredItem

def conditionalCheckFailed : JsError :=
  ⟨.external (js "ConditionalCheckFailedException"), js "The conditional request failed", []⟩

/-- An item after the update, whether it was there or not. -/
def updated (tombstonedAt : JsString) : Option StoredItem → StoredItem
  | some (.whole item) => .whole { item with tombstonedAt := some tombstonedAt }
  | _ => .bare tombstonedAt

def serveTable (page : Nat) (table : Table) : (command : TableCommand) → TableReply command × Table
  | .put item =>
    match table.get? item.toDynamoDbMemoryKey with
    | some _ => (.error conditionalCheckFailed, table)
    | none => (.ok (), table.set item.toDynamoDbMemoryKey (.whole item))
  | .get key => (table.get? key, table)
  | .update key tombstonedAt => ((), table.set key (updated tombstonedAt (table.get? key)))
  | .delete key => ((), table.erase key)
  | .query query => (((partition table query.pk).take page).filter query.selects, table)

/-! ### DynamoDbVaultStore -/

abbrev TableProgram (α : Type) := Program TableReply JsError α

/-- A computation without commands. -/
def pureStep {α : Type} (outcome : Except JsError α) : TableProgram α := .done outcome

section Operations

variable (runtime : PolicyRuntime) (collation : Collation)

def write (clock : Nat → JsString) (request : MemoryWriteRequest) (decision : PhaseDecision)
    (consentState : ConsentState) : TableProgram MemoryWriteResult := do
  match ← pureStep (writeRefusal request decision consentState) with
  | some reason => return ⟨false, reason, none⟩
  | none =>
    let item ← pureStep (toDynamoDbMemoryItem runtime (clock 0) request)
    let stored ← Program.perform (.put item)
    pureStep stored
    let record ← pureStep (fromDynamoDbMemoryItem (.whole item))
    return ⟨true, js "memory persisted", some record⟩

def memoryQuery (request : MemoryReadRequest) (now : JsString) : MemoryQuery where
  pk := identityPk request.tenantId request.userId
  now
  sessionId := if isGiven request.sessionId then request.sessionId else none
  tiers := request.includeTiers.getD defaultTiers

def listedRecords (request : MemoryReadRequest) (now : JsString) (items : List StoredItem) :
    Except JsError (List MemoryRecord) :=
  (items.mapM fromDynamoDbMemoryItem).map fun records =>
    collation.sortBy MemoryRecord.id (records.filter (isListed request now))

def list (clock : Nat → JsString) (request : MemoryReadRequest) :
    TableProgram (List MemoryRecord) := do
  let now := request.now.getD (clock 0)
  let items ← Program.perform (.query (memoryQuery request now))
  pureStep (listedRecords collation request now items)

def requestKey (request : MemoryRecordRequest) : DynamoDbMemoryKey :=
  dynamoDbMemoryKey request.tenantId request.userId request.id

def unavailableError : JsError :=
  ⟨.validationError, js "Memory record is unavailable", []⟩

def crossAccessError (requestedId : JsString) : JsError :=
  ⟨.external (js "AuthorizationError"), js "Cross-tenant or cross-user memory access denied",
    [(js "requestedId", .string requestedId)]⟩

/-- The checks of `get` on the item that is fetched. -/
def availableRecord (request : MemoryRecordRequest) (now : JsString) (found : Option StoredItem) :
    Except JsError MemoryRecord :=
  match found with
  | none => .error unavailableError
  | some item => do
    let record ← fromDynamoDbMemoryItem item
    if record.tenantId ≠ request.tenantId ∨ record.userId ≠ request.userId then
      .error (crossAccessError request.id)
    else if isGiven record.tombstonedAt || isExpired record now then .error unavailableError
    else .ok record

def get (clock : Nat → JsString) (request : MemoryRecordRequest) : TableProgram MemoryRecord := do
  let found ← Program.perform (.get (requestKey request))
  pureStep (availableRecord request (request.now.getD (clock 0)) found)

def tombstone (clock : Nat → JsString) (request : MemoryRecordRequest) :
    TableProgram MemoryRecord := do
  let record ← get clock request
  let tombstonedAt := request.now.getD (clock 1)
  let _ ← Program.perform (.update (requestKey request) tombstonedAt)
  return { record with tombstonedAt := some tombstonedAt }

def deleteErasable (clock : Nat → JsString) (request : MemoryRecordRequest) :
    TableProgram Unit := do
  let record ← get clock request
  if record.tier = .AUDIT then
    let _ ← tombstone (fun reading => clock (reading + 1)) request
  else
    let _ ← Program.perform (.delete (requestKey request))

def exportUserMemory (clock : Nat → JsString) (request : MemoryExportRequest) :
    TableProgram (List MemoryRecord) :=
  list collation clock (exportRequest request)

def program (call : VaultCall) : TableProgram VaultResponse :=
  match call.operation with
  | .write request decision consentState =>
    VaultResponse.result <$> write runtime call.clock request decision consentState
  | .list request => VaultResponse.records <$> list collation call.clock request
  | .get request => VaultResponse.record <$> get call.clock request
  | .tombstone request => VaultResponse.record <$> tombstone call.clock request
  | .deleteErasable request => (fun _ => VaultResponse.nothing) <$> deleteErasable call.clock request
  | .exportUserMemory request =>
    VaultResponse.records <$> exportUserMemory collation call.clock request

/-- A call, and how many items its query evaluates. -/
structure PagedCall extends VaultCall where
  page : Nat

/-- `DynamoDbVaultStore`, one call after another. -/
def dynamoDb : Machine Table PagedCall (Except JsError VaultResponse) := fun table call =>
  ((program runtime collation call.toVaultCall).run (serveTable call.page) table).2

end Operations

section Runs

variable {runtime : PolicyRuntime} {collation : Collation} (page : Nat) (table : Table)
variable (clock : Nat → JsString)

theorem run_write (request : MemoryWriteRequest) (decision : PhaseDecision)
    (consentState : ConsentState) :
    ((write runtime clock request decision consentState).run (serveTable page) table).2 =
      match writeRefusal request decision consentState with
      | .error error => (.error error, table)
      | .ok (some reason) => (.ok ⟨false, reason, none⟩, table)
      | .ok none =>
        match toDynamoDbMemoryItem runtime (clock 0) request with
        | .error error => (.error error, table)
        | .ok item =>
          match table.get? item.toDynamoDbMemoryKey with
          | some _ => (.error conditionalCheckFailed, table)
          | none =>
            (.ok ⟨true, js "memory persisted", some (recordOf item)⟩,
              table.set item.toDynamoDbMemoryKey (.whole item)) := by
  unfold write
  cases writeRefusal request decision consentState with
  | error error => rfl
  | ok refusal =>
    cases refusal with
    | some reason => rfl
    | none =>
      cases toDynamoDbMemoryItem runtime (clock 0) request with
      | error error => rfl
      | ok item =>
        rw [Program.run_bind]
        change ((Program.perform (.put item) >>= _).run (serveTable page) table).2 = _
        rw [Program.run_bind]
        cases found : table.get? item.toDynamoDbMemoryKey with
        | some stored =>
          simp only [Program.perform, Program.run, serveTable, found]
          rfl
        | none =>
          simp only [Program.perform, Program.run, serveTable, found]
          rfl

theorem run_list (request : MemoryReadRequest) :
    ((list collation clock request).run (serveTable page) table).2 =
      (listedRecords collation request (request.now.getD (clock 0))
        (((partition table (identityPk request.tenantId request.userId)).take page).filter
          (memoryQuery request (request.now.getD (clock 0))).selects), table) :=
  rfl

def queried (request : MemoryReadRequest) (now : JsString) : List DynamoDbMemoryItem :=
  (((partition table (identityPk request.tenantId request.userId)).take page).filter
    (memoryQuery request now).selects).filterMap StoredItem.whole?

theorem mem_queried_iff {request : MemoryReadRequest} {now : JsString}
    {item : DynamoDbMemoryItem} :
    item ∈ queried page table request now ↔
      .whole item ∈ (partition table (identityPk request.tenantId request.userId)).take page ∧
        (memoryQuery request now).selects (.whole item) = true := by
  rw [queried, List.mem_filterMap]
  constructor
  · rintro ⟨stored, member, isWhole⟩
    cases stored with
    | bare tombstonedAt => cases isWhole
    | whole found =>
      cases isWhole
      exact List.mem_filter.mp member
  · exact fun selected => ⟨.whole item, List.mem_filter.mpr selected, rfl⟩

theorem mapM_selected (query : MemoryQuery) (items : List StoredItem) :
    (items.filter query.selects).mapM fromDynamoDbMemoryItem =
      .ok (((items.filter query.selects).filterMap StoredItem.whole?).map recordOf) := by
  induction items with
  | nil => rfl
  | cons stored rest ih =>
    cases stored with
    | bare tombstonedAt => exact ih
    | whole item =>
      by_cases selected : query.selects (.whole item) = true
      · rw [List.filter_cons_of_pos selected, List.mapM_cons, ih]
        rfl
      · rw [List.filter_cons_of_neg selected]
        exact ih

theorem run_list_eq (request : MemoryReadRequest) :
    ((list collation clock request).run (serveTable page) table).2 =
      (.ok (collation.sortBy MemoryRecord.id
        (((queried page table request (request.now.getD (clock 0))).map recordOf).filter
          (isListed request (request.now.getD (clock 0))))), table) := by
  rw [run_list, listedRecords, mapM_selected]
  rfl

/-- The outcome of `get` on a table. -/
def lookup (request : MemoryRecordRequest) : Except JsError MemoryRecord :=
  availableRecord request (request.now.getD (clock 0)) (table.get? (requestKey request))

theorem run_get (request : MemoryRecordRequest) :
    ((get clock request).run (serveTable page) table).2 = (lookup table clock request, table) :=
  rfl

theorem run_tombstone (request : MemoryRecordRequest) :
    ((tombstone clock request).run (serveTable page) table).2 =
      match lookup table clock request with
      | .error error => (.error error, table)
      | .ok record =>
        (.ok { record with tombstonedAt := some (request.now.getD (clock 1)) },
          table.set (requestKey request) (updated (request.now.getD (clock 1))
            (table.get? (requestKey request)))) := by
  unfold tombstone
  rw [Program.run_bind, run_get]
  cases lookup table clock request <;> rfl

theorem run_deleteErasable (request : MemoryRecordRequest) :
    ((deleteErasable clock request).run (serveTable page) table).2 =
      match lookup table clock request with
      | .error error => (.error error, table)
      | .ok record =>
        if record.tier = .AUDIT then
          match lookup table (fun reading => clock (reading + 1)) request with
          | .error error => (.error error, table)
          | .ok _ =>
            (.ok (), table.set (requestKey request) (updated (request.now.getD (clock 2))
              (table.get? (requestKey request))))
        else (.ok (), table.erase (requestKey request)) := by
  unfold deleteErasable
  rw [Program.run_bind, run_get]
  cases lookup table clock request with
  | error error => rfl
  | ok record =>
    dsimp only
    by_cases isAudit : record.tier = .AUDIT
    · rw [if_pos isAudit, if_pos isAudit, Program.run_bind, run_tombstone]
      cases lookup table (fun reading => clock (reading + 1)) request <;> rfl
    · rw [if_neg isAudit, if_neg isAudit]
      rfl

theorem lookup_eq_ok {table : Table} {clock : Nat → JsString} {request : MemoryRecordRequest}
    {record : MemoryRecord} (found : lookup table clock request = .ok record) :
    ∃ item, table.get? (requestKey request) = some (.whole item) ∧ record = recordOf item ∧
      record.tenantId = request.tenantId ∧ record.userId = request.userId := by
  unfold lookup availableRecord at found
  cases isStored : table.get? (requestKey request) with
  | none =>
    rw [isStored] at found
    cases found
  | some stored =>
    rw [isStored] at found
    cases stored with
    | bare tombstonedAt => cases found
    | whole item =>
      change (if _ then _ else _) = _ at found
      split at found
      next => cases found
      next foreign =>
        split at found
        next => cases found
        next =>
          cases found
          rw [not_or, not_not, not_not] at foreign
          exact ⟨item, rfl, rfl, foreign⟩

theorem mem_partition_iff {table : Table} {pk : JsString} {stored : StoredItem} :
    stored ∈ partition table pk ↔
      ∃ key, table.get? key = some stored ∧ key.PK = pk ∧ sortKeyPrefix <+: key.SK := by
  unfold partition
  rw [List.mem_map]
  simp only [List.mem_insertionSort, List.mem_filter, Bool.and_eq_true, beq_iff_eq,
    List.isPrefixOf_iff_prefix, InsertionMap.get?_eq_some_iff]
  constructor
  · rintro ⟨⟨key, found⟩, ⟨member, isPk⟩, rfl⟩
    exact ⟨key, member, isPk⟩
  · rintro ⟨key, member, isPk⟩
    exact ⟨(key, stored), ⟨member, isPk⟩, rfl⟩

end Runs

end GhostArk.EnforcementRuntime.Vault.DynamoDb
