import GhostArk.EnforcementRuntime.Policy.Compiler
import GhostArk.Js.Collation
import GhostArk.Lib.InsertionMap
import GhostArk.Lib.Machine

/-!
Contract: `packages/enforcement-runtime/src/vault`: `store.ts`, `consent.ts` and `tiers.ts`.

Owns memory records, requests and results, and the in-memory vault with its
write, its lookup by id, its listing, its tombstones and its deletion. A write
either leaves the vault as it was or sets exactly the record it reports.

A call reads the clock where its request gives no time. `clock` has its readings
in the order in which the call asks for them.
-/

namespace GhostArk.EnforcementRuntime.Vault

open Js ReceiptSchema Policy Lib

structure MemoryRecord where
  id : JsString
  tenantId : JsString
  userId : JsString
  sessionId : Option JsString
  tier : MemoryTier
  contentDigest : JsString
  classificationTags : List JsString
  createdAt : JsString
  expiresAt : Option JsString
  tombstonedAt : Option JsString
deriving DecidableEq, Repr

structure MemoryWriteRequest where
  tenantId : JsString
  userId : JsString
  sessionId : Option JsString
  tier : MemoryTier
  contentDigest : JsString
  classificationTags : Option (List JsString)
  expiresAt : Option JsString
  now : Option JsString
deriving DecidableEq, Repr

structure MemoryReadRequest where
  tenantId : JsString
  userId : JsString
  sessionId : Option JsString
  includeTiers : Option (List MemoryTier)
  now : Option JsString
deriving DecidableEq, Repr

/-- `VaultIdentity & { id: string; now?: string }`; its session is not read. -/
structure MemoryRecordRequest where
  tenantId : JsString
  userId : JsString
  id : JsString
  now : Option JsString
deriving DecidableEq, Repr

/-- `VaultIdentity & { now?: string }`. -/
structure MemoryExportRequest where
  tenantId : JsString
  userId : JsString
  sessionId : Option JsString
  now : Option JsString
deriving DecidableEq, Repr

structure MemoryWriteResult where
  written : Bool
  reason : JsString
  record : Option MemoryRecord
deriving DecidableEq, Repr

def hasRestrictedMemoryConsent (tier : MemoryTier) (consentState : ConsentState) : Bool :=
  tier != .RESTRICTED || consentState == .granted

def restrictedConsentReason (tier : MemoryTier) (consentState : ConsentState) :
    Option JsString :=
  if hasRestrictedMemoryConsent tier consentState then none
  else some (js "restricted memory requires explicit consent; observed consent state " ++
    consentState.text)

/-! ### InMemoryVaultStore -/

def isGiven (value : Option JsString) : Bool := value.getD [] != []

/-- `Boolean(record.expiresAt && record.expiresAt <= now)`. -/
def isExpired (record : MemoryRecord) (now : JsString) : Bool :=
  record.expiresAt.any fun expiresAt => expiresAt != [] && !stringLt now expiresAt

/-- Records by id. -/
abbrev InMemoryVaultStore := InsertionMap JsString MemoryRecord

section Store

variable (runtime : PolicyRuntime)

def recordId (request : MemoryWriteRequest) : Except JsError JsString := do
  let digest ← canonicalSha256Hex runtime.toRuntime (.object
    ([(js "tenantId", .string request.tenantId), (js "userId", .string request.userId)] ++
      optionalEntry "sessionId" (request.sessionId.map .string) ++
      [(js "tier", .string request.tier.text),
        (js "contentDigest", .string request.contentDigest)]))
  return js "mem_" ++ digest

theorem exists_recordId (request : MemoryWriteRequest) : ∃ id, recordId runtime request = .ok id := by
  unfold recordId
  cases request.sessionId <;> exact ⟨_, rfl⟩

/-- `mem_` and a digest. -/
def IsMemoryId (id : JsString) : Prop := isTaggedHex64 "mem_" id = true

variable {runtime} in
theorem isMemoryId_of_recordId {request : MemoryWriteRequest} {id : JsString}
    (isId : recordId runtime request = .ok id) : IsMemoryId id := by
  rcases bind_eq_ok.mp isId with ⟨digest, isDigest, isId⟩
  rw [pure_eq_ok] at isId
  unfold canonicalSha256Hex at isDigest
  unfold IsMemoryId
  rw [isTaggedHex64_iff]
  generalize canonicalize runtime.numbers _ = canonical at isDigest
  cases canonical with
  | error error => cases isDigest
  | ok text =>
    cases isDigest
    exact ⟨_, runtime.sha256.isHex64_sha256Hex text, isId.symm⟩

/-- The record of a write that is persisted. `clock` is the time if the request gives none. -/
def memoryRecord (clock : JsString) (request : MemoryWriteRequest) (id : JsString) :
    MemoryRecord where
  id
  tenantId := request.tenantId
  userId := request.userId
  sessionId := request.sessionId
  tier := request.tier
  contentDigest := request.contentDigest
  classificationTags := Receipts.sortStrings (request.classificationTags.getD [])
  createdAt := request.now.getD clock
  expiresAt := request.expiresAt
  tombstonedAt := none

/-- The checks of `write`: an error, a refusal, or nothing. -/
def writeRefusal (request : MemoryWriteRequest) (decision : PhaseDecision)
    (consentState : ConsentState) : Except JsError (Option JsString) :=
  if decision.decision = .MEMORY_SUPPRESS then
    .ok (some (js "policy decision MEMORY_SUPPRESS prevented persistence"))
  else if request.tier = .KAPPA then
    .ok (some (js "KAPPA memory is invocation-only and is never persisted"))
  else if request.tier = .SESSION ∧ !isGiven request.expiresAt then
    .error ⟨.validationError, js "SESSION memory requires an explicit expiresAt timestamp", []⟩
  else if !hasRestrictedMemoryConsent request.tier consentState then
    .ok (some ((restrictedConsentReason request.tier consentState).getD
      (js "restricted memory consent missing")))
  else .ok none

def write (vault : InMemoryVaultStore) (clock : JsString) (request : MemoryWriteRequest)
    (decision : PhaseDecision) (consentState : ConsentState) :
    Except JsError MemoryWriteResult × InMemoryVaultStore :=
  match writeRefusal request decision consentState with
  | .error error => (.error error, vault)
  | .ok (some reason) => (.ok ⟨false, reason, none⟩, vault)
  | .ok none =>
    match recordId runtime request with
    | .error error => (.error error, vault)
    | .ok id =>
      let record := memoryRecord clock request id
      (.ok ⟨true, js "memory persisted", some record⟩, vault.set id record)

/-- `get`, for a request with its own time. -/
def get (vault : InMemoryVaultStore) (tenantId userId id now : JsString) :
    Except JsError MemoryRecord :=
  match vault.get? id with
  | none => .error ⟨.validationError, js "Memory record is unavailable", []⟩
  | some record =>
    if isGiven record.tombstonedAt || isExpired record now then
      .error ⟨.validationError, js "Memory record is unavailable", []⟩
    else if record.tenantId ≠ tenantId ∨ record.userId ≠ userId then
      .error ⟨.external (js "AuthorizationError"),
        js "Cross-tenant or cross-user memory access denied", [(js "requestedId", .string id)]⟩
    else .ok record

theorem write_accepted {vault : InMemoryVaultStore} {clock : JsString}
    {request : MemoryWriteRequest} {decision : PhaseDecision} {consentState : ConsentState}
    {id : JsString} (accepted : writeRefusal request decision consentState = .ok none)
    (isId : recordId runtime request = .ok id) :
    write runtime vault clock request decision consentState =
      (.ok ⟨true, js "memory persisted", some (memoryRecord clock request id)⟩,
        vault.set id (memoryRecord clock request id)) := by
  unfold write
  rw [accepted, isId]

theorem write_cases (vault : InMemoryVaultStore) (clock : JsString) (request : MemoryWriteRequest)
    (decision : PhaseDecision) (consentState : ConsentState) :
    ((write runtime vault clock request decision consentState).2 = vault ∧
        ∀ result, (write runtime vault clock request decision consentState).1 = .ok result →
          result.written = false) ∨
      ∃ id, writeRefusal request decision consentState = .ok none ∧
        recordId runtime request = .ok id ∧
        write runtime vault clock request decision consentState =
          (.ok ⟨true, js "memory persisted", some (memoryRecord clock request id)⟩,
            vault.set id (memoryRecord clock request id)) := by
  unfold write
  cases writeRefusal request decision consentState with
  | error error => exact Or.inl ⟨rfl, fun result isOk => by cases isOk⟩
  | ok refusal =>
    cases refusal with
    | some reason => exact Or.inl ⟨rfl, fun result isOk => by cases isOk; rfl⟩
    | none =>
      cases isId : recordId runtime request with
      | error error => exact Or.inl ⟨rfl, fun result isOk => by cases isOk⟩
      | ok id => exact Or.inr ⟨id, rfl, rfl, rfl⟩

end Store

def defaultTiers : List MemoryTier := [.SESSION, .CONSTITUTION, .AUDIT, .RESTRICTED]

def exportTiers : List MemoryTier := [.SESSION, .CONSTITUTION, .RESTRICTED]

/-- The filters of `list` on session, tier, tombstone and expiry. -/
def isListed (request : MemoryReadRequest) (now : JsString) (record : MemoryRecord) : Bool :=
  (!isGiven request.sessionId || record.sessionId == request.sessionId) &&
    (request.includeTiers.getD defaultTiers).contains record.tier &&
    !isGiven record.tombstonedAt && !isExpired record now

section Listing

variable (collation : Collation)

def list (vault : InMemoryVaultStore) (clock : Nat → JsString) (request : MemoryReadRequest) :
    List MemoryRecord :=
  collation.sortBy MemoryRecord.id <| vault.values.filter fun record =>
    record.tenantId == request.tenantId && record.userId == request.userId &&
      isListed request (request.now.getD (clock 0)) record

def exportRequest (request : MemoryExportRequest) : MemoryReadRequest :=
  ⟨request.tenantId, request.userId, request.sessionId, some exportTiers, request.now⟩

def exportUserMemory (vault : InMemoryVaultStore) (clock : Nat → JsString)
    (request : MemoryExportRequest) : List MemoryRecord :=
  list collation vault clock (exportRequest request)

variable {collation}

theorem mem_list_iff {vault : InMemoryVaultStore} {clock : Nat → JsString}
    {request : MemoryReadRequest} {record : MemoryRecord} :
    record ∈ list collation vault clock request ↔
      record ∈ vault.values ∧
        (record.tenantId = request.tenantId ∧ record.userId = request.userId) ∧
          isListed request (request.now.getD (clock 0)) record = true := by
  rw [list, collation.mem_sortBy, List.mem_filter, Bool.and_eq_true, Bool.and_eq_true, beq_iff_eq,
    beq_iff_eq]

end Listing

def tombstone (vault : InMemoryVaultStore) (clock : Nat → JsString)
    (request : MemoryRecordRequest) : Except JsError MemoryRecord × InMemoryVaultStore :=
  match get vault request.tenantId request.userId request.id (request.now.getD (clock 0)) with
  | .error error => (.error error, vault)
  | .ok record =>
    let tombstoned := { record with tombstonedAt := some (request.now.getD (clock 1)) }
    (.ok tombstoned, vault.set record.id tombstoned)

def deleteErasable (vault : InMemoryVaultStore) (clock : Nat → JsString)
    (request : MemoryRecordRequest) : Except JsError Unit × InMemoryVaultStore :=
  match get vault request.tenantId request.userId request.id (request.now.getD (clock 0)) with
  | .error error => (.error error, vault)
  | .ok record =>
    if record.tier = .AUDIT then
      let tombstoned := tombstone vault (fun reading => clock (reading + 1)) request
      (tombstoned.1.map fun _ => (), tombstoned.2)
    else (.ok (), vault.erase record.id)

theorem get_eq_ok_iff {vault : InMemoryVaultStore} {tenantId userId id now : JsString}
    {record : MemoryRecord} :
    get vault tenantId userId id now = .ok record ↔
      vault.get? id = some record ∧
        (isGiven record.tombstonedAt = false ∧ isExpired record now = false) ∧
          record.tenantId = tenantId ∧ record.userId = userId := by
  unfold get
  cases found : vault.get? id with
  | none => simp
  | some other =>
    dsimp only
    by_cases gone : (isGiven other.tombstonedAt || isExpired other now) = true
    · rw [if_pos gone]
      refine iff_of_false (by simp) ?_
      rintro ⟨same, there, -⟩
      cases same
      simp [there] at gone
    · rw [if_neg gone]
      rw [Bool.not_eq_true, Bool.or_eq_false_iff] at gone
      by_cases foreign : other.tenantId ≠ tenantId ∨ other.userId ≠ userId
      · rw [if_pos foreign]
        refine iff_of_false (by simp) ?_
        rintro ⟨same, -, isTenant, isUser⟩
        cases same
        exact foreign.elim (absurd isTenant) (absurd isUser)
      · rw [if_neg foreign, Except.ok.injEq, Option.some.injEq]
        rw [not_or, not_not, not_not] at foreign
        constructor
        · rintro rfl
          exact ⟨rfl, gone, foreign⟩
        · exact And.left

inductive VaultOperation where
  | write (request : MemoryWriteRequest) (decision : PhaseDecision) (consentState : ConsentState)
  | list (request : MemoryReadRequest)
  | get (request : MemoryRecordRequest)
  | tombstone (request : MemoryRecordRequest)
  | deleteErasable (request : MemoryRecordRequest)
  | exportUserMemory (request : MemoryExportRequest)

/-- An operation and the clock it reads. -/
structure VaultCall where
  operation : VaultOperation
  clock : Nat → JsString

inductive VaultResponse where
  | result (result : MemoryWriteResult)
  | records (records : List MemoryRecord)
  | record (record : MemoryRecord)
  | nothing
deriving DecidableEq, Repr

def VaultOperation.identity : VaultOperation → JsString × JsString
  | .write request _ _ => (request.tenantId, request.userId)
  | .list request => (request.tenantId, request.userId)
  | .get request => (request.tenantId, request.userId)
  | .tombstone request => (request.tenantId, request.userId)
  | .deleteErasable request => (request.tenantId, request.userId)
  | .exportUserMemory request => (request.tenantId, request.userId)

/-- The records that `get`, `list` or `exportUserMemory` returns. -/
def readRecords : VaultOperation → Except JsError VaultResponse → List MemoryRecord
  | .get _, .ok (.record record) => [record]
  | .list _, .ok (.records records) => records
  | .exportUserMemory _, .ok (.records records) => records
  | _, _ => []

section Machine

variable (runtime : PolicyRuntime) (collation : Collation)

/-- `InMemoryVaultStore`, one call after another. -/
def inMemory : Machine InMemoryVaultStore VaultCall (Except JsError VaultResponse) :=
  fun vault call =>
    match call.operation with
    | .write request decision consentState =>
      let written := write runtime vault (call.clock 0) request decision consentState
      (written.1.map .result, written.2)
    | .list request => (.ok (.records (list collation vault call.clock request)), vault)
    | .get request =>
      ((get vault request.tenantId request.userId request.id
        (request.now.getD (call.clock 0))).map .record, vault)
    | .tombstone request =>
      let tombstoned := tombstone vault call.clock request
      (tombstoned.1.map .record, tombstoned.2)
    | .deleteErasable request =>
      let deleted := deleteErasable vault call.clock request
      (deleted.1.map fun _ => .nothing, deleted.2)
    | .exportUserMemory request =>
      (.ok (.records (exportUserMemory collation vault call.clock request)), vault)

end Machine

end GhostArk.EnforcementRuntime.Vault
