import GhostArk.EnforcementRuntime.Policy.Composition
import GhostArk.EnforcementRuntime.Vault.Store

/-!
Contract: tombstones of the in-memory vault.

Owns the reads that could show a tombstoned record, the condition on a call under
which tombstones stay, and permanence over every run whose calls meet it.

Does not own the DynamoDB vault, whose writes never replace a record.
-/

namespace GhostArk.EnforcementRuntime.Vault

open Js Lib Policy

/-- The record that a call tombstones, if it returns: of `deleteErasable`, an audit record. -/
def tombstoneTarget (vault : InMemoryVaultStore) (call : VaultCall) : Option JsString :=
  match call.operation with
  | .tombstone request => some request.id
  | .deleteErasable request =>
    if (vault.get? request.id).any fun record => record.tier = .AUDIT then some request.id
    else none
  | _ => none

section Permanence

variable (runtime : PolicyRuntime) (collation : Collation)

/-- After a call that has tombstoned a record, no read of the run returns one with its id. -/
def TombstonesPermanent (calls : List VaultCall) : Prop :=
  ∀ before tombstoning between reading after,
    calls = before ++ tombstoning :: (between ++ reading :: after) →
      let vault := (inMemory runtime collation).finalState .empty before
      let tombstoned := inMemory runtime collation vault tombstoning
      let later := (inMemory runtime collation).finalState tombstoned.2 between
      ∀ id ∈ tombstoneTarget vault tombstoning, tombstoned.1.isOk = true →
        ∀ record ∈ readRecords reading.operation (inMemory runtime collation later reading).1,
          record.id ≠ id

def IsTombstoned (vault : InMemoryVaultStore) (id : JsString) : Prop :=
  ∃ record, vault.get? id = some record ∧ isGiven record.tombstonedAt = true

/-- A write that is persisted has the id of no tombstoned record, and the time of a tombstone that
finds a record is not the empty string. -/
def KeepsTombstones (vault : InMemoryVaultStore) (call : VaultCall) : Prop :=
  match call.operation with
  | .write request decision consentState =>
    writeRefusal request decision consentState = .ok none →
      ∀ id, recordId runtime request = .ok id → ¬ IsTombstoned vault id
  | .tombstone request =>
    (∃ record, vault.get? request.id = some record) → request.now.getD (call.clock 1) ≠ []
  | .deleteErasable request =>
    (∃ record, vault.get? request.id = some record ∧ record.tier = .AUDIT) →
      request.now.getD (call.clock 2) ≠ []
  | _ => True

end Permanence

/-! ### Steps -/

/-- Every record is stored under its id. -/
def Keyed (vault : InMemoryVaultStore) : Prop :=
  ∀ id record, vault.get? id = some record → record.id = id

theorem keyed_empty : Keyed .empty := by
  intro id record found
  cases found

theorem Keyed.set {vault : InMemoryVaultStore} (keyed : Keyed vault) (record : MemoryRecord) :
    Keyed (vault.set record.id record) := by
  intro id found isFound
  rw [InsertionMap.get?_set] at isFound
  split at isFound
  next same =>
    cases isFound
    exact same.symm
  next => exact keyed id found isFound

theorem Keyed.erase {vault : InMemoryVaultStore} (keyed : Keyed vault) (key : JsString) :
    Keyed (vault.erase key) := by
  intro id found isFound
  rw [InsertionMap.get?_erase] at isFound
  split at isFound
  next => cases isFound
  next => exact keyed id found isFound

section Steps

variable {runtime : PolicyRuntime} {collation : Collation} {vault : InMemoryVaultStore}

theorem tombstone_cases (vault : InMemoryVaultStore) (clock : Nat → JsString)
    (request : MemoryRecordRequest) :
    ((tombstone vault clock request).1.isOk = false ∧ (tombstone vault clock request).2 = vault) ∨
      ∃ record, vault.get? request.id = some record ∧ isGiven record.tombstonedAt = false ∧
        (tombstone vault clock request).2 = vault.set record.id
          { record with tombstonedAt := some (request.now.getD (clock 1)) } := by
  unfold tombstone
  cases found : get vault request.tenantId request.userId request.id
      (request.now.getD (clock 0)) with
  | error error => exact Or.inl ⟨rfl, rfl⟩
  | ok record =>
    have there := get_eq_ok_iff.mp found
    exact Or.inr ⟨record, there.1, there.2.1.1, rfl⟩

theorem deleteErasable_cases (vault : InMemoryVaultStore) (clock : Nat → JsString)
    (request : MemoryRecordRequest) :
    ((deleteErasable vault clock request).1.isOk = false ∧
        (deleteErasable vault clock request).2 = vault) ∨
      ∃ record, vault.get? request.id = some record ∧ isGiven record.tombstonedAt = false ∧
        (record.tier = .AUDIT ∧ (deleteErasable vault clock request).2 = vault.set record.id
            { record with tombstonedAt := some (request.now.getD (clock 2)) } ∨
          record.tier ≠ .AUDIT ∧ (deleteErasable vault clock request).2 = vault.erase record.id) := by
  unfold deleteErasable
  cases found : get vault request.tenantId request.userId request.id
      (request.now.getD (clock 0)) with
  | error error => exact Or.inl ⟨rfl, rfl⟩
  | ok record =>
    have there := get_eq_ok_iff.mp found
    dsimp only
    by_cases isAudit : record.tier = .AUDIT
    · rw [if_pos isAudit]
      rcases tombstone_cases vault (fun reading => clock (reading + 1)) request with
        ⟨failed, unchanged⟩ | ⟨other, isOther, live, marked⟩
      · refine Or.inl ⟨?_, unchanged⟩
        generalize (tombstone vault (fun reading => clock (reading + 1)) request).1 = outcome
          at failed
        cases outcome with
        | error error => rfl
        | ok record => cases failed
      · rw [there.1] at isOther
        cases isOther
        exact Or.inr ⟨record, there.1, live, Or.inl ⟨isAudit, marked⟩⟩
    · rw [if_neg isAudit]
      exact Or.inr ⟨record, there.1, there.2.1.1, Or.inr ⟨isAudit, rfl⟩⟩

theorem Keyed.step (keyed : Keyed vault) (call : VaultCall) :
    Keyed (inMemory runtime collation vault call).2 := by
  rcases call with ⟨operation, clock⟩
  cases operation with
  | write request decision consentState =>
    change Keyed (write runtime vault (clock 0) request decision consentState).2
    rcases write_cases runtime vault (clock 0) request decision consentState with
      ⟨unchanged, -⟩ | ⟨id, -, -, written⟩
    · rwa [unchanged]
    · rw [written]
      exact keyed.set (memoryRecord (clock 0) request id)
  | list request => exact keyed
  | get request => exact keyed
  | tombstone request =>
    change Keyed (tombstone vault clock request).2
    rcases tombstone_cases vault clock request with ⟨-, unchanged⟩ | ⟨record, -, -, marked⟩
    · rwa [unchanged]
    · rw [marked]
      exact keyed.set { record with tombstonedAt := some (request.now.getD (clock 1)) }
  | deleteErasable request =>
    change Keyed (deleteErasable vault clock request).2
    rcases deleteErasable_cases vault clock request with
      ⟨-, unchanged⟩ | ⟨record, -, -, ⟨-, marked⟩ | ⟨-, removed⟩⟩
    · rwa [unchanged]
    · rw [marked]
      exact keyed.set { record with tombstonedAt := some (request.now.getD (clock 2)) }
    · rw [removed]
      exact keyed.erase record.id
  | exportUserMemory request => exact keyed

variable {id : JsString}

theorem IsTombstoned.set (isTombstoned : IsTombstoned vault id) {key : JsString} (apart : id ≠ key)
    (record : MemoryRecord) : IsTombstoned (vault.set key record) id := by
  rcases isTombstoned with ⟨old, found, marked⟩
  exact ⟨old, by rw [InsertionMap.get?_set_ne _ apart, found], marked⟩

theorem ne_of_isTombstoned (keyed : Keyed vault) {id key : JsString} {record : MemoryRecord}
    (isTombstoned : IsTombstoned vault id) (found : vault.get? key = some record)
    (live : isGiven record.tombstonedAt = false) : id ≠ record.id := by
  rintro rfl
  rcases isTombstoned with ⟨old, isOld, marked⟩
  rw [keyed key record found, found] at isOld
  cases isOld
  rw [live] at marked
  cases marked

variable {call : VaultCall}

/-- A call that keeps tombstones leaves a tombstoned record so. -/
theorem IsTombstoned.step (keyed : Keyed vault) (keeps : KeepsTombstones runtime vault call)
    (isTombstoned : IsTombstoned vault id) :
    IsTombstoned (inMemory runtime collation vault call).2 id := by
  rcases call with ⟨operation, clock⟩
  cases operation with
  | write request decision consentState =>
    change IsTombstoned (write runtime vault (clock 0) request decision consentState).2 id
    rcases write_cases runtime vault (clock 0) request decision consentState with
      ⟨unchanged, -⟩ | ⟨written, accepted, isId, isWrite⟩
    · rwa [unchanged]
    · rw [isWrite]
      refine isTombstoned.set ?_ _
      rintro rfl
      exact keeps accepted id isId isTombstoned
  | list request => exact isTombstoned
  | get request => exact isTombstoned
  | tombstone request =>
    change IsTombstoned (tombstone vault clock request).2 id
    rcases tombstone_cases vault clock request with ⟨-, unchanged⟩ | ⟨record, found, live, marked⟩
    · rwa [unchanged]
    · rw [marked]
      exact isTombstoned.set (ne_of_isTombstoned keyed isTombstoned found live) _
  | deleteErasable request =>
    change IsTombstoned (deleteErasable vault clock request).2 id
    rcases deleteErasable_cases vault clock request with
      ⟨-, unchanged⟩ | ⟨record, found, live, ⟨-, marked⟩ | ⟨-, removed⟩⟩
    · rwa [unchanged]
    · rw [marked]
      exact isTombstoned.set (ne_of_isTombstoned keyed isTombstoned found live) _
    · have apart := ne_of_isTombstoned keyed isTombstoned found live
      rcases isTombstoned with ⟨old, isOld, wasMarked⟩
      refine ⟨old, ?_, wasMarked⟩
      rw [removed, InsertionMap.get?_erase, if_neg apart, isOld]
  | exportUserMemory request => exact isTombstoned

/-- The record that a returned erasure targets is tombstoned. -/
theorem isTombstoned_of_target (keyed : Keyed vault) (keeps : KeepsTombstones runtime vault call)
    (isTarget : id ∈ tombstoneTarget vault call)
    (returned : (inMemory runtime collation vault call).1.isOk = true) :
    IsTombstoned (inMemory runtime collation vault call).2 id := by
  have isMarked : ∀ {record : MemoryRecord} {key : JsString} {time : JsString},
      vault.get? key = some record → time ≠ [] →
        IsTombstoned (vault.set record.id { record with tombstonedAt := some time }) key := by
    intro record key time found nonempty
    rw [keyed key record found]
    exact ⟨_, InsertionMap.get?_set_self .., by simp [isGiven, nonempty]⟩
  rcases call with ⟨operation, clock⟩
  cases operation with
  | write request decision consentState => cases isTarget
  | list request => cases isTarget
  | get request => cases isTarget
  | tombstone request =>
    cases isTarget
    rcases tombstone_cases vault clock request with ⟨failed, -⟩ | ⟨record, found, -, marked⟩
    · change ((tombstone vault clock request).1.map _).isOk = true at returned
      generalize (tombstone vault clock request).1 = outcome at failed returned
      cases outcome with
      | error error => cases returned
      | ok record => cases failed
    · exact marked ▸ isMarked found (keeps ⟨record, found⟩)
  | deleteErasable request =>
    have isAudit : ((vault.get? request.id).any fun record => record.tier = .AUDIT) = true ∧
        id = request.id := by
      unfold tombstoneTarget at isTarget
      dsimp only at isTarget
      split at isTarget
      next audit => exact ⟨audit, (Option.mem_some_iff.mp isTarget).symm⟩
      next => cases isTarget
    rcases deleteErasable_cases vault clock request with
      ⟨failed, -⟩ | ⟨record, found, -, ⟨audit, marked⟩ | ⟨notAudit, -⟩⟩
    · change ((deleteErasable vault clock request).1.map _).isOk = true at returned
      generalize (deleteErasable vault clock request).1 = outcome at failed returned
      cases outcome with
      | error error => cases returned
      | ok value => cases failed
    · rw [isAudit.2]
      exact marked ▸ isMarked found (keeps ⟨record, found, audit⟩)
    · rw [found, Option.any_some, decide_eq_true_eq] at isAudit
      exact absurd isAudit.1 notAudit
  | exportUserMemory request => cases isTarget

theorem ne_of_mem_readRecords (keyed : Keyed vault) (isTombstoned : IsTombstoned vault id)
    {record : MemoryRecord}
    (read : record ∈ readRecords call.operation (inMemory runtime collation vault call).1) :
    record.id ≠ id := by
  have listed : ∀ {clock : Nat → JsString} {request : MemoryReadRequest},
      record ∈ list collation vault clock request → record.id ≠ id := by
    intro clock request member
    rcases mem_list_iff.mp member with ⟨isValue, -, shown⟩
    rcases List.mem_map.mp isValue with ⟨⟨key, value⟩, isEntry, rfl⟩
    rw [isListed, Bool.and_eq_true, Bool.and_eq_true, Bool.not_eq_true'] at shown
    exact (ne_of_isTombstoned keyed isTombstoned (InsertionMap.get?_eq_some_iff.mpr isEntry)
      shown.1.2).symm
  rcases call with ⟨operation, clock⟩
  cases operation with
  | write request decision consentState =>
    cases read
  | list request => exact listed read
  | get request =>
    change record ∈ readRecords _ ((get vault _ _ _ _).map _) at read
    cases found : get vault request.tenantId request.userId request.id
        (request.now.getD (clock 0)) with
    | error error =>
      rw [found] at read
      cases read
    | ok value =>
      rw [found] at read
      have there := get_eq_ok_iff.mp found
      rw [List.mem_singleton.mp read]
      exact (ne_of_isTombstoned keyed isTombstoned there.1 there.2.1.1).symm
  | tombstone request => cases read
  | deleteErasable request => cases read
  | exportUserMemory request => exact listed read

/-- **Where tombstones are permanent.** In every run whose calls meet the condition, no read after
a tombstone returns a record with its id. -/
theorem tombstonesPermanent_of_keepsTombstones {calls : List VaultCall}
    (keeps : (inMemory runtime collation).Throughout (KeepsTombstones runtime) .empty calls) :
    TombstonesPermanent runtime collation calls := by
  intro before tombstoning between reading after isRun vault tombstoned later id isTarget returned
    record read
  rw [isRun, Machine.throughout_append] at keeps
  have keyedBefore : Keyed vault :=
    Machine.invariant_finalState (fun _ call holds _ => holds.step call) keyed_empty keeps.1
  have invariant : ∀ state call, Keyed state ∧ IsTombstoned state id →
      KeepsTombstones runtime state call →
        Keyed (inMemory runtime collation state call).2 ∧
          IsTombstoned (inMemory runtime collation state call).2 id :=
    fun _ call holds meets => ⟨holds.1.step call, holds.2.step holds.1 meets⟩
  have atTombstone : Keyed tombstoned.2 ∧ IsTombstoned tombstoned.2 id :=
    ⟨keyedBefore.step tombstoning,
      isTombstoned_of_target keyedBefore keeps.2.1 isTarget returned⟩
  have atRead := Machine.invariant_finalState invariant atTombstone
    (Machine.throughout_append.mp keeps.2.2).1
  exact ne_of_mem_readRecords atRead.1 atRead.2 read

end Steps

namespace Sample

def noon : JsString := js "2026-07-07T12:00:00.000Z"

def clock : Nat → JsString := fun _ => noon

def writeRequest : MemoryWriteRequest where
  tenantId := js "tenant-a"
  userId := js "user-a"
  sessionId := none
  tier := .CONSTITUTION
  contentDigest := js "sha256:constitution"
  classificationTags := none
  expiresAt := none
  now := none

def allow : PhaseDecision where
  decision := .ALLOW
  actionTaken := []
  riskScore := .ofNat 0
  phase := .memory_write
  policyVersion := js "test"
  policyHash := js "hash"
  matchedRuleIds := []
  matchedLayers := []
  reasons := []

def writing : VaultCall := ⟨.write writeRequest allow .not_required, clock⟩

def memoryId : JsString := ((recordId Policy.Sample.runtime writeRequest).toOption).getD []

def recordRequest : MemoryRecordRequest := ⟨js "tenant-a", js "user-a", memoryId, none⟩

def marking : VaultCall := ⟨.tombstone recordRequest, clock⟩

def looking : VaultCall := ⟨.get recordRequest, clock⟩

end Sample

/-- Every call of a run that writes, tombstones and reads once meets the condition. -/
theorem tombstonesPermanent_sample :
    TombstonesPermanent Policy.Sample.runtime codeUnitOrder
      [Sample.writing, Sample.marking, Sample.looking] := by
  apply tombstonesPermanent_of_keepsTombstones
  refine ⟨?_, ?_, trivial, trivial⟩
  · rintro - id - ⟨record, found, -⟩
    cases found
  · exact fun _ => List.cons_ne_nil _ _

/-- The same write after the tombstone brings the record back. -/
theorem tombstones_not_permanent :
    ¬ TombstonesPermanent Policy.Sample.runtime codeUnitOrder
      [Sample.writing, Sample.marking, Sample.writing, Sample.looking] := by
  intro permanent
  have hidden := permanent [Sample.writing] Sample.marking [Sample.writing] Sample.looking [] rfl
    Sample.memoryId rfl
  revert hidden
  decide +kernel

end GhostArk.EnforcementRuntime.Vault
