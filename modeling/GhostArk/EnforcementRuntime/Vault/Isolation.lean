import GhostArk.EnforcementRuntime.Vault.DynamoDbStore
import GhostArk.EnforcementRuntime.Vault.TombstonePermanence

/-!
Contract: isolation of the identities that share a DynamoDB vault.

Owns the pairs of identities whose partition keys are one string, the invariant
that items lie in the partition of their identity, and the exact condition on
the identities in use under which no read returns a foreign record.

`get` checks the identity of what it fetches. `list` and `exportUserMemory` rely
on the partition key alone.
-/

namespace GhostArk.EnforcementRuntime.Vault.DynamoDb

open Js Lib ReceiptSchema Policy

abbrev Identity := JsString × JsString

/-- The tenant id of the one goes on with text that the user id of the other, behind its separator,
starts with. -/
def Overlaps (shorter longer : Identity) : Prop :=
  ∃ rest ≠ [], longer.1 = shorter.1 ++ rest ∧
    js "#USER#" ++ shorter.2 = rest ++ (js "#USER#" ++ longer.2)

def Confusable (left right : Identity) : Prop := Overlaps left right ∨ Overlaps right left

theorem ne_of_overlaps {shorter longer : Identity} (overlaps : Overlaps shorter longer) :
    shorter ≠ longer := by
  rintro rfl
  rcases overlaps with ⟨rest, nonempty, isLonger, -⟩
  exact nonempty (List.self_eq_append_right.mp isLonger)

theorem ne_of_confusable {left right : Identity} (confusable : Confusable left right) :
    left ≠ right :=
  confusable.elim ne_of_overlaps fun overlaps => (ne_of_overlaps overlaps).symm

theorem identityPk_eq_iff {left right : Identity} :
    identityPk left.1 left.2 = identityPk right.1 right.2 ↔ left = right ∨ Confusable left right := by
  have same_or : ∀ {shorter longer : Identity} {rest : JsString},
      longer.1 = shorter.1 ++ rest →
        js "#USER#" ++ shorter.2 = rest ++ (js "#USER#" ++ longer.2) →
          shorter = longer ∨ Overlaps shorter longer := by
    intro shorter longer rest isLonger overlap
    by_cases isEmpty : rest = []
    · rw [isEmpty, List.append_nil] at isLonger
      rw [isEmpty, List.nil_append, List.append_cancel_left_eq] at overlap
      exact Or.inl (Prod.ext isLonger.symm overlap)
    · exact Or.inr ⟨rest, isEmpty, isLonger, overlap⟩
  have collide : ∀ {shorter longer : Identity}, Overlaps shorter longer →
      shorter.1 ++ (js "#USER#" ++ shorter.2) = longer.1 ++ (js "#USER#" ++ longer.2) := by
    rintro shorter longer ⟨rest, -, isLonger, overlap⟩
    rw [isLonger, List.append_assoc, ← overlap]
  unfold identityPk
  rw [List.append_assoc, List.append_assoc, List.append_assoc, List.append_assoc,
    List.append_cancel_left_eq]
  constructor
  · intro same
    rcases List.append_eq_append_iff.mp same with ⟨rest, isRight, overlap⟩ | ⟨rest, isLeft, overlap⟩
    · exact (same_or isRight overlap).imp_right Or.inl
    · exact (same_or isLeft overlap).imp Eq.symm Or.inr
  · rintro (rfl | overlaps | overlaps)
    · rfl
    · exact collide overlaps
    · exact (collide overlaps).symm

/-! ### The invariant -/

/-- Items lie in the partition of their identity, which is one of those in use. -/
def Partitioned (inUse : Identity → Prop) (table : Table) : Prop :=
  ∀ key stored, table.get? key = some stored → ∃ item, stored = .whole item ∧
    key = dynamoDbMemoryKey item.tenantId item.userId item.id ∧ inUse (item.tenantId, item.userId)

section Steps

variable {inUse : Identity → Prop} {table : Table}

theorem partitioned_empty : Partitioned inUse .empty := by
  intro key stored found
  cases found

theorem Partitioned.set (partitioned : Partitioned inUse table) {key : DynamoDbMemoryKey}
    {item : DynamoDbMemoryItem} (isKey : key = dynamoDbMemoryKey item.tenantId item.userId item.id)
    (isUsed : inUse (item.tenantId, item.userId)) :
    Partitioned inUse (table.set key (.whole item)) := by
  intro other stored found
  rw [InsertionMap.get?_set] at found
  split at found
  next same =>
    cases found
    exact ⟨item, rfl, same.trans isKey, isUsed⟩
  next => exact partitioned other stored found

theorem Partitioned.erase (partitioned : Partitioned inUse table) (key : DynamoDbMemoryKey) :
    Partitioned inUse (table.erase key) := by
  intro other stored found
  rw [InsertionMap.get?_erase] at found
  split at found
  next => cases found
  next => exact partitioned other stored found

theorem Partitioned.update (partitioned : Partitioned inUse table) {clock : Nat → JsString}
    {request : MemoryRecordRequest} {record : MemoryRecord}
    (found : lookup table clock request = .ok record) (time : JsString) :
    Partitioned inUse
      (table.set (requestKey request) (updated time (table.get? (requestKey request)))) := by
  rcases lookup_eq_ok found with ⟨item, isStored, -⟩
  rcases partitioned _ _ isStored with ⟨other, isWhole, isKey, isUsed⟩
  cases isWhole
  rw [isStored]
  change Partitioned inUse (table.set _ (.whole { item with tombstonedAt := some time }))
  exact partitioned.set isKey isUsed

end Steps

section Runs

variable {runtime : PolicyRuntime} {collation : Collation} {inUse : Identity → Prop} {table : Table}

/-- Every call keeps each item under the key of its own identity. -/
theorem Partitioned.step (partitioned : Partitioned inUse table) {call : PagedCall}
    (isUsed : inUse call.operation.identity) :
    Partitioned inUse (dynamoDb runtime collation table call).2 := by
  rcases call with ⟨⟨operation, clock⟩, page⟩
  unfold dynamoDb program
  cases operation with
  | write request decision consentState =>
    dsimp only
    rw [Program.run_map, run_write]
    dsimp only
    split
    next => exact partitioned
    next => exact partitioned
    next =>
      split
      next => exact partitioned
      next item isItem =>
        rcases bind_eq_ok.mp isItem with ⟨id, -, isRecord⟩
        cases isRecord
        split
        next => exact partitioned
        next => exact partitioned.set rfl isUsed
  | list request =>
    dsimp only
    rw [Program.run_map, run_list]
    exact partitioned
  | get request =>
    dsimp only
    rw [Program.run_map, run_get]
    exact partitioned
  | tombstone request =>
    dsimp only
    rw [Program.run_map, run_tombstone]
    dsimp only
    split
    next => exact partitioned
    next record found => exact partitioned.update found _
  | deleteErasable request =>
    dsimp only
    rw [Program.run_map, run_deleteErasable]
    dsimp only
    split
    next => exact partitioned
    next record found =>
      split
      next =>
        split
        next => exact partitioned
        next => exact partitioned.update found _
      next => exact partitioned.erase _
  | exportUserMemory request =>
    dsimp only
    rw [Program.run_map, exportUserMemory, run_list]
    exact partitioned

theorem identityPk_of_mem_list (partitioned : Partitioned inUse table) {page : Nat}
    {request : MemoryReadRequest} {now : JsString} {record : MemoryRecord}
    (listed : record ∈ collation.sortBy MemoryRecord.id
      (((queried page table request now).map recordOf).filter (isListed request now))) :
    inUse (record.tenantId, record.userId) ∧
      identityPk record.tenantId record.userId = identityPk request.tenantId request.userId := by
  have selected := (List.mem_filter.mp ((collation.mem_sortBy _).mp listed)).1
  rcases List.mem_map.mp selected with ⟨item, isQueried, rfl⟩
  have inPartition := List.mem_of_mem_take (mem_queried_iff page table |>.mp isQueried).1
  rcases mem_partition_iff.mp inPartition with ⟨key, found, isPk, -⟩
  rcases partitioned key _ found with ⟨other, isWhole, isKey, isUsed⟩
  cases isWhole
  refine ⟨isUsed, ?_⟩
  rw [← isPk, isKey]
  rfl

theorem identity_of_mem_readRecords (partitioned : Partitioned inUse table) {call : PagedCall}
    {record : MemoryRecord}
    (read : record ∈ readRecords call.operation (dynamoDb runtime collation table call).1) :
    (record.tenantId, record.userId) = call.operation.identity ∨
      inUse (record.tenantId, record.userId) ∧
        Confusable (record.tenantId, record.userId) call.operation.identity := by
  rcases call with ⟨⟨operation, clock⟩, page⟩
  unfold dynamoDb program at read
  have ofList : ∀ {request : MemoryReadRequest} {now : JsString},
      record ∈ collation.sortBy MemoryRecord.id
        (((queried page table request now).map recordOf).filter (isListed request now)) →
      (record.tenantId, record.userId) = (request.tenantId, request.userId) ∨
        inUse (record.tenantId, record.userId) ∧
          Confusable (record.tenantId, record.userId) (request.tenantId, request.userId) := by
    intro request now listed
    have inPartition := identityPk_of_mem_list partitioned listed
    refine Or.imp_right (fun confusable => ⟨inPartition.1, confusable⟩) ?_
    exact (@identityPk_eq_iff (record.tenantId, record.userId)
      (request.tenantId, request.userId)).mp inPartition.2
  cases operation with
  | write request decision consentState => cases read
  | list request =>
    dsimp only at read
    rw [Program.run_map, run_list_eq] at read
    exact ofList read
  | get request =>
    dsimp only at read
    rw [Program.run_map, run_get] at read
    dsimp only at read
    cases found : lookup table clock request with
    | error error =>
      rw [found] at read
      cases read
    | ok value =>
      rw [found] at read
      rcases lookup_eq_ok found with ⟨-, -, -, own⟩
      rw [List.mem_singleton.mp read]
      exact Or.inl (Prod.ext own.1 own.2)
  | tombstone request => cases read
  | deleteErasable request => cases read
  | exportUserMemory request =>
    dsimp only at read
    rw [Program.run_map, exportUserMemory, run_list_eq] at read
    exact ofList read

end Runs

section Isolation

variable (runtime : PolicyRuntime) (collation : Collation)

/-- Every record that a read of the run returns is of the identity that asked. -/
def Isolated (calls : List PagedCall) : Prop :=
  ∀ before reading after, calls = before ++ reading :: after →
    ∀ record ∈ readRecords reading.operation (dynamoDb runtime collation
        ((dynamoDb runtime collation).finalState .empty before) reading).1,
      (record.tenantId, record.userId) = reading.operation.identity

variable {runtime collation} {inUse : Identity → Prop}

/-- Calls of identities that cannot be confused are isolated. -/
theorem isolated_of_not_confusable
    (apart : ∀ left right, inUse left → inUse right → ¬ Confusable left right)
    {calls : List PagedCall} (used : ∀ call ∈ calls, inUse call.operation.identity) :
    Isolated runtime collation calls := by
  intro before reading after isRun record read
  rw [isRun, List.forall_mem_append, List.forall_mem_cons] at used
  have usedBefore : (dynamoDb runtime collation).Throughout
      (fun _ call => inUse call.operation.identity) .empty before :=
    Machine.throughout_of_forall used.1
  have partitioned : Partitioned inUse ((dynamoDb runtime collation).finalState .empty before) :=
    Machine.invariant_finalState (fun _ _ holds isUsed => holds.step isUsed) partitioned_empty
      usedBefore
  rcases identity_of_mem_readRecords partitioned read with own | ⟨isUsed, confusable⟩
  · exact own
  · exact absurd confusable (apart _ _ isUsed used.2.1)

def leakingCalls (writer reader : Identity) : List PagedCall :=
  [⟨⟨.write ⟨writer.1, writer.2, none, .CONSTITUTION, [], none, none, none⟩ Sample.allow
      .not_required, Sample.clock⟩, 1⟩,
    ⟨⟨.list ⟨reader.1, reader.2, none, none, none⟩, Sample.clock⟩, 1⟩]

/-- Two confusable identities: one reads what the other wrote. -/
theorem not_isolated_leakingCalls {writer reader : Identity}
    (confusable : Confusable writer reader) :
    ¬ Isolated runtime collation (leakingCalls writer reader) := by
  have samePk := identityPk_eq_iff.mpr (Or.inr confusable)
  rcases exists_recordId runtime
    ⟨writer.1, writer.2, none, .CONSTITUTION, [], none, none, none⟩ with ⟨id, isId⟩
  let record := memoryRecord Sample.noon
    ⟨writer.1, writer.2, none, .CONSTITUTION, [], none, none, none⟩ id
  let table : Table := InsertionMap.empty.set (dynamoDbMemoryKey writer.1 writer.2 id)
    (.whole (itemOf runtime record))
  have written : (dynamoDb runtime collation).finalState .empty
      ((leakingCalls writer reader).take 1) = table := by
    change ((program runtime collation _).run (serveTable 1) .empty).2.2 = table
    unfold program
    dsimp only
    rw [Program.run_map, run_write, toDynamoDbMemoryItem, Sample.clock, isId]
    rfl
  have found : table.get? (dynamoDbMemoryKey writer.1 writer.2 id) =
      some (.whole (itemOf runtime record)) :=
    InsertionMap.get?_set_self ..
  have whole : (partition table (identityPk reader.1 reader.2)).take 1 =
      partition table (identityPk reader.1 reader.2) := by
    apply List.take_of_length_le
    rw [partition, List.length_map, List.length_insertionSort]
    exact List.length_filter_le _ table.entries
  have isQueried : ∀ now, itemOf runtime record ∈
      queried 1 table ⟨reader.1, reader.2, none, none, none⟩ now := by
    intro now
    rw [mem_queried_iff, whole, mem_partition_iff]
    exact ⟨⟨_, found, samePk, List.prefix_append ..⟩, rfl⟩
  have isRead : recordOf (itemOf runtime record) ∈ readRecords (.list ⟨reader.1, reader.2, none,
      none, none⟩) (dynamoDb runtime collation table
        ⟨⟨.list ⟨reader.1, reader.2, none, none, none⟩, Sample.clock⟩, 1⟩).1 := by
    unfold dynamoDb program
    dsimp only
    rw [Program.run_map, run_list_eq]
    refine (collation.mem_sortBy _).mpr (List.mem_filter.mpr ⟨?_, rfl⟩)
    exact List.mem_map_of_mem (isQueried _)
  intro isolated
  have own := isolated ((leakingCalls writer reader).take 1) _ [] rfl _ (written.symm ▸ isRead)
  exact ne_of_confusable confusable own

/-- **Where identities are isolated.** Of a set of identities, no read of any run returns a foreign
record exactly when no two of them can be confused. -/
theorem isolated_iff :
    (∀ calls : List PagedCall, (∀ call ∈ calls, inUse call.operation.identity) →
      Isolated runtime collation calls) ↔
        ∀ left right, inUse left → inUse right → ¬ Confusable left right := by
  constructor
  · intro isolated left right leftUsed rightUsed confusable
    apply not_isolated_leakingCalls confusable
    exact isolated _ (List.forall_mem_cons.mpr ⟨leftUsed, List.forall_mem_singleton.mpr rightUsed⟩)
  · exact fun apart calls used => isolated_of_not_confusable apart used

end Isolation

/-- `("a#USER#b", "c")` writes, and `("a", "b#USER#c")` lists the record. -/
theorem vault_not_isolated :
    ¬ Isolated Policy.Sample.runtime codeUnitOrder
      (leakingCalls (js "a#USER#b", js "c") (js "a", js "b#USER#c")) := by
  apply not_isolated_leakingCalls
  exact Or.inr ⟨js "#USER#b", by decide, by decide, by decide⟩

end GhostArk.EnforcementRuntime.Vault.DynamoDb
