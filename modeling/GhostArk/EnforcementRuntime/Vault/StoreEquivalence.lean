import GhostArk.EnforcementRuntime.Vault.Isolation
import GhostArk.ReceiptSchema.CanonicalIdentity

/-!
Contract: the DynamoDB vault against the in-memory vault.

Owns the relation between a table and a map of records, the agreement of every
operation under it, and the calls at which the two vaults part: a write over a
record, a lookup of a foreign record, and a query that ends before its last item
or reads a time differently.

Tenant and user ids have no `#`, so that partition keys tell identities apart.
-/

namespace GhostArk.EnforcementRuntime.Vault.DynamoDb

open Js Lib ReceiptSchema Policy
open Receipts (sortStrings)

/-- Neither id has a `#`. -/
def IsPlain (identity : Identity) : Prop :=
  unit '#' ∉ identity.1 ∧ unit '#' ∉ identity.2

instance instDecidableIsPlain (identity : Identity) : Decidable (IsPlain identity) :=
  inferInstanceAs (Decidable (_ ∧ _))

theorem not_overlaps_of_isPlain {shorter longer : Identity} (plain : IsPlain longer) :
    ¬ Overlaps shorter longer := by
  rintro ⟨rest, nonempty, isLonger, overlap⟩
  cases rest with
  | nil => exact nonempty rfl
  | cons first others =>
    have isHead : unit '#' = first := (List.cons.inj overlap).1
    refine plain.1 ?_
    rw [isLonger, isHead]
    exact List.mem_append_right _ List.mem_cons_self

theorem eq_of_identityPk_eq {left right : Identity} (leftPlain : IsPlain left)
    (rightPlain : IsPlain right)
    (same : identityPk left.1 left.2 = identityPk right.1 right.2) : left = right := by
  rcases identityPk_eq_iff.mp same with isSame | overlaps | overlaps
  · exact isSame
  · exact absurd overlaps (not_overlaps_of_isPlain rightPlain)
  · exact absurd overlaps (not_overlaps_of_isPlain leftPlain)

/-! ### The relation -/

def recordIdentity (record : MemoryRecord) : Identity := (record.tenantId, record.userId)

def recordKey (record : MemoryRecord) : DynamoDbMemoryKey :=
  dynamoDbMemoryKey record.tenantId record.userId record.id

/-- What writes make sure of. -/
structure IsRegular (record : MemoryRecord) : Prop where
  plain : IsPlain (recordIdentity record)
  sorted : sortStrings record.classificationTags = record.classificationTags
  memoryId : IsMemoryId record.id

theorem id_eq_of_recordKey_eq {left right : MemoryRecord} (same : recordKey left = recordKey right) :
    left.id = right.id :=
  List.append_cancel_left (DynamoDbMemoryKey.mk.inj same).2

section Relation

variable (runtime : PolicyRuntime)

variable {record : MemoryRecord}

theorem recordOf_itemOf (regular : IsRegular record) :
    recordOf (itemOf runtime record) = record := by
  unfold recordOf itemOf
  rw [regular.sorted]

/-- The table has one item for each record of the map, and no other item. -/
structure Represents (vault : InMemoryVaultStore) (table : Table) : Prop where
  keyed : Keyed vault
  regular : ∀ id record, vault.get? id = some record → IsRegular record
  items : ∀ key stored, table.get? key = some stored ↔
    ∃ record, vault.get? record.id = some record ∧ key = recordKey record ∧
      stored = .whole (itemOf runtime record)

variable {runtime} {vault : InMemoryVaultStore} {table : Table}

theorem represents_empty : Represents runtime .empty .empty where
  keyed := keyed_empty
  regular := fun id record found => by cases found
  items := fun key stored =>
    iff_of_false (fun found => by cases found) (by rintro ⟨record, found, -⟩; cases found)

theorem Represents.found (represents : Represents runtime vault table) {id : JsString}
    (found : vault.get? id = some record) :
    table.get? (recordKey record) = some (.whole (itemOf runtime record)) := by
  refine (represents.items _ _).mpr ⟨record, ?_, rfl, rfl⟩
  rw [represents.keyed id record found, found]

theorem Represents.set (represents : Represents runtime vault table) (regular : IsRegular record)
    (sameKey : ∀ old, vault.get? record.id = some old → recordKey old = recordKey record) :
    Represents runtime (vault.set record.id record)
      (table.set (recordKey record) (.whole (itemOf runtime record))) where
  keyed := represents.keyed.set record
  regular := by
    intro id found isFound
    rw [InsertionMap.get?_set] at isFound
    split at isFound
    next =>
      cases isFound
      exact regular
    next => exact represents.regular id found isFound
  items := by
    intro key stored
    rw [InsertionMap.get?_set]
    split
    next isKey =>
      constructor
      · intro isStored
        exact ⟨record, InsertionMap.get?_set_self .., isKey, (Option.some.inj isStored).symm⟩
      · rintro ⟨other, found, isOther, rfl⟩
        rw [id_eq_of_recordKey_eq (isOther.symm.trans isKey), InsertionMap.get?_set_self] at found
        cases found
        rfl
    next apart =>
      rw [represents.items]
      constructor
      · rintro ⟨other, found, rfl, isStored⟩
        refine ⟨other, ?_, rfl, isStored⟩
        rw [InsertionMap.get?_set_ne _ _ _, found]
        intro sameId
        exact apart (sameKey other (sameId ▸ found))
      · rintro ⟨other, found, rfl, isStored⟩
        refine ⟨other, ?_, rfl, isStored⟩
        rw [InsertionMap.get?_set] at found
        split at found
        next =>
          cases found
          exact absurd rfl apart
        next => exact found

theorem Represents.erase (represents : Represents runtime vault table) {id : JsString}
    (found : vault.get? id = some record) :
    Represents runtime (vault.erase record.id) (table.erase (recordKey record)) where
  keyed := represents.keyed.erase record.id
  regular := by
    intro other value isFound
    rw [InsertionMap.get?_erase] at isFound
    split at isFound
    next => cases isFound
    next => exact represents.regular other value isFound
  items := by
    have isRecord : vault.get? record.id = some record := by
      rw [represents.keyed id record found, found]
    intro key stored
    rw [InsertionMap.get?_erase]
    split
    next isKey =>
      refine iff_of_false (by simp) ?_
      rintro ⟨other, isOther, sameKey, -⟩
      rw [InsertionMap.get?_erase, if_pos (id_eq_of_recordKey_eq (sameKey.symm.trans isKey))]
        at isOther
      cases isOther
    next apart =>
      rw [represents.items]
      constructor
      · rintro ⟨other, isOther, rfl, isStored⟩
        refine ⟨other, ?_, rfl, isStored⟩
        rw [InsertionMap.get?_erase, if_neg, isOther]
        intro sameId
        rw [sameId, isRecord] at isOther
        cases isOther
        exact apart rfl
      · rintro ⟨other, isOther, rfl, isStored⟩
        refine ⟨other, ?_, rfl, isStored⟩
        rw [InsertionMap.get?_erase] at isOther
        split at isOther
        next => cases isOther
        next => exact isOther

end Relation

section Agreement

variable (runtime : PolicyRuntime) (collation : Collation)

/-- A readable record with the id is the requester's. -/
def IsOwn (vault : InMemoryVaultStore) (request : MemoryRecordRequest) (now : JsString) : Prop :=
  ∀ record, vault.get? request.id = some record → isGiven record.tombstonedAt = false →
    isExpired record now = false →
      record.tenantId = request.tenantId ∧ record.userId = request.userId

/-- A record that the request asks for has no tombstone, even an empty one; its expiry is later
than the time of the request by bytes too, and not empty; and its item is in the first page. -/
def QueryReaches (vault : InMemoryVaultStore) (table : Table) (page : Nat)
    (request : MemoryReadRequest) (now : JsString) : Prop :=
  ∀ record ∈ vault.values, record.tenantId = request.tenantId ∧ record.userId = request.userId →
    isListed request now record = true →
      record.tombstonedAt = none ∧ (∀ expiresAt ∈ record.expiresAt, utf8Lt now expiresAt = true) ∧
        .whole (itemOf runtime record) ∈
          (partition table (identityPk request.tenantId request.userId)).take page

/-- The condition on a call and the two states before it. -/
def AgreesOn (states : InMemoryVaultStore × Table) (call : PagedCall) : Prop :=
  match call.operation with
  | .write request decision consentState =>
    writeRefusal request decision consentState = .ok none →
      ∀ id, recordId runtime request = .ok id → states.1.get? id = none
  | .get request => IsOwn states.1 request (request.now.getD (call.clock 0))
  | .tombstone request => IsOwn states.1 request (request.now.getD (call.clock 0))
  | .deleteErasable request => IsOwn states.1 request (request.now.getD (call.clock 0))
  | .list request =>
    QueryReaches runtime states.1 states.2 call.page request (request.now.getD (call.clock 0))
  | .exportUserMemory request =>
    QueryReaches runtime states.1 states.2 call.page (exportRequest request)
      (request.now.getD (call.clock 0))

/-- The same result, or an error of the same class. -/
def Alike : Except JsError VaultResponse → Except JsError VaultResponse → Prop
  | .ok left, .ok right => left = right
  | .error left, .error right => left.name = right.name
  | _, _ => False

instance instDecidableRelAlike : DecidableRel Alike
  | .ok left, .ok right => inferInstanceAs (Decidable (left = right))
  | .error left, .error right => inferInstanceAs (Decidable (left.name = right.name))
  | .ok _, .error _ => inferInstanceAs (Decidable False)
  | .error _, .ok _ => inferInstanceAs (Decidable False)

/-- `InMemoryVaultStore` on calls whose pages it has no use for. -/
def inMemoryPaged : Machine InMemoryVaultStore PagedCall (Except JsError VaultResponse) :=
  fun vault call => inMemory runtime collation vault call.toVaultCall

theorem alike_refl (outcome : Except JsError VaultResponse) : Alike outcome outcome := by
  cases outcome with
  | error error => exact rfl
  | ok response => exact rfl

end Agreement

section Operations

variable {runtime : PolicyRuntime} {collation : Collation} {vault : InMemoryVaultStore}
variable {table : Table}

theorem sortStrings_sortStrings (items : List JsString) :
    sortStrings (sortStrings items) = sortStrings items := by
  have isLe : (fun left right : JsString => stringLt right left = false) =
      fun left right => left ≤ right := by
    funext left right
    rw [Bool.eq_false_iff, ne_eq, stringLt_iff, not_lt]
  unfold sortStrings
  simp only [isLe]
  exact (List.pairwise_insertionSort (fun left right : JsString => left ≤ right)
    items).insertionSort_eq

theorem isRegular_memoryRecord {clock : JsString} {request : MemoryWriteRequest} {id : JsString}
    (isId : recordId runtime request = .ok id) (plain : IsPlain (request.tenantId, request.userId)) :
    IsRegular (memoryRecord clock request id) where
  plain := plain
  sorted := sortStrings_sortStrings _
  memoryId := isMemoryId_of_recordId isId

/-- What two stores do to related states. -/
def StaysAlike (runtime : PolicyRuntime) (left : Except JsError VaultResponse × InMemoryVaultStore)
    (right : Except JsError VaultResponse × Table) : Prop :=
  Alike left.1 right.1 ∧ Represents runtime left.2 right.2

theorem staysAlike_same (represents : Represents runtime vault table)
    (outcome : Except JsError VaultResponse) :
    StaysAlike runtime (outcome, vault) (outcome, table) :=
  ⟨alike_refl outcome, represents⟩

theorem write_agrees (represents : Represents runtime vault table) (clock : Nat → JsString)
    (page : Nat) {request : MemoryWriteRequest} {decision : PhaseDecision}
    {consentState : ConsentState} (plain : IsPlain (request.tenantId, request.userId))
    (fresh : writeRefusal request decision consentState = .ok none →
      ∀ id, recordId runtime request = .ok id → vault.get? id = none) :
    StaysAlike runtime
      (inMemory runtime collation vault ⟨.write request decision consentState, clock⟩)
      (dynamoDb runtime collation table ⟨⟨.write request decision consentState, clock⟩, page⟩) := by
  unfold inMemory dynamoDb program
  dsimp only
  rw [Program.run_map, run_write]
  unfold Vault.write
  cases accepted : writeRefusal request decision consentState with
  | error error => exact staysAlike_same represents _
  | ok refusal =>
    cases refusal with
    | some reason => exact staysAlike_same represents _
    | none =>
      rcases exists_recordId runtime request with ⟨id, isId⟩
      have regular : IsRegular (memoryRecord (clock 0) request id) :=
        isRegular_memoryRecord isId plain
      have absent := fresh accepted id isId
      have isFree : table.get?
          (itemOf runtime (memoryRecord (clock 0) request id)).toDynamoDbMemoryKey = none := by
        rw [Option.eq_none_iff_forall_ne_some]
        intro stored isStored
        rcases (represents.items _ _).mp isStored with ⟨other, found, sameKey, -⟩
        have sameId : (memoryRecord (clock 0) request id).id = other.id :=
          id_eq_of_recordKey_eq sameKey
        change id = other.id at sameId
        rw [← sameId] at found
        exact absurd (absent.symm.trans found) (by simp)
      have isItem : toDynamoDbMemoryItem runtime (clock 0) request =
          .ok (itemOf runtime (memoryRecord (clock 0) request id)) := by
        rw [toDynamoDbMemoryItem, isId]
        rfl
      rw [isId, isItem]
      dsimp only
      rw [isFree]
      dsimp only
      rw [recordOf_itemOf runtime regular]
      refine ⟨rfl, represents.set regular fun old found => ?_⟩
      exact absurd (absent.symm.trans found) (by simp)

variable {clock : Nat → JsString} {request : MemoryRecordRequest}

section Represents

variable (represents : Represents runtime vault table)
include represents

theorem lookup_agrees (plain : IsPlain (request.tenantId, request.userId))
    (own : IsOwn vault request (request.now.getD (clock 0))) :
    (∃ record, Vault.get vault request.tenantId request.userId request.id
          (request.now.getD (clock 0)) = .ok record ∧
        lookup table clock request = .ok record ∧ vault.get? request.id = some record ∧
        requestKey request = recordKey record) ∨
      ∃ error, Vault.get vault request.tenantId request.userId request.id
          (request.now.getD (clock 0)) = .error error ∧ lookup table clock request = .error error := by
  have keyOf : ∀ {record : MemoryRecord}, vault.get? request.id = some record →
      record.tenantId = request.tenantId ∧ record.userId = request.userId →
        requestKey request = recordKey record := by
    intro record found same
    rw [requestKey, recordKey, same.1, same.2, represents.keyed _ _ found]
  have ofItem : ∀ {stored : StoredItem}, table.get? (requestKey request) = some stored →
      ∃ record, vault.get? request.id = some record ∧ stored = .whole (itemOf runtime record) ∧
        record.tenantId = request.tenantId ∧ record.userId = request.userId := by
    intro stored isStored
    rcases (represents.items _ _).mp isStored with ⟨record, found, isKey, isWhole⟩
    have sameId : request.id = record.id :=
      List.append_cancel_left (DynamoDbMemoryKey.mk.inj isKey).2
    rw [← sameId] at found
    have samePk : identityPk request.tenantId request.userId =
        identityPk record.tenantId record.userId :=
      (DynamoDbMemoryKey.mk.inj isKey).1
    have same : ((request.tenantId, request.userId) : Identity) = recordIdentity record :=
      eq_of_identityPk_eq plain (represents.regular _ _ found).plain samePk
    exact ⟨record, found, isWhole, (Prod.mk.inj same).1.symm, (Prod.mk.inj same).2.symm⟩
  cases isFound : vault.get? request.id with
  | none =>
    have isFree : table.get? (requestKey request) = none := by
      rw [Option.eq_none_iff_forall_ne_some]
      intro stored isStored
      rcases ofItem isStored with ⟨record, found, -⟩
      rw [isFound] at found
      cases found
    refine Or.inr ⟨unavailableError, ?_, ?_⟩
    · rw [Vault.get, isFound]
      rfl
    · rw [lookup, isFree]
      rfl
  | some record =>
    have regular := represents.regular _ _ isFound
    by_cases gone : (isGiven record.tombstonedAt ||
        isExpired record (request.now.getD (clock 0))) = true
    · refine Or.inr ⟨unavailableError, ?_, ?_⟩
      · rw [Vault.get, isFound]
        exact if_pos gone
      · cases isStored : table.get? (requestKey request) with
        | none =>
          rw [lookup, isStored]
          rfl
        | some stored =>
          rcases ofItem isStored with ⟨other, found, rfl, same⟩
          rw [isFound, Option.some.injEq] at found
          subst found
          rw [lookup, isStored, availableRecord, fromDynamoDbMemoryItem,
            recordOf_itemOf runtime regular, ok_bind, if_neg (by simp [same]), if_pos gone]
    · have live := Bool.or_eq_false_iff.mp (Bool.not_eq_true _ ▸ gone)
      have same := own record isFound live.1 live.2
      have isKey := keyOf isFound same
      refine Or.inl ⟨record, ?_, ?_, rfl, isKey⟩
      · exact get_eq_ok_iff.mpr ⟨isFound, live, same⟩
      · rw [lookup, isKey, represents.found isFound, availableRecord, fromDynamoDbMemoryItem,
          recordOf_itemOf runtime regular, ok_bind, if_neg (by simp [same]), if_neg gone]

theorem get_agrees (page : Nat)
    (plain : IsPlain (request.tenantId, request.userId))
    (own : IsOwn vault request (request.now.getD (clock 0))) :
    StaysAlike runtime (inMemory runtime collation vault ⟨.get request, clock⟩)
      (dynamoDb runtime collation table ⟨⟨.get request, clock⟩, page⟩) := by
  unfold inMemory dynamoDb program
  dsimp only
  rw [Program.run_map, run_get]
  rcases lookup_agrees represents plain own with
    ⟨record, isRecord, isLookup, -, -⟩ | ⟨error, isError, isLookup⟩
  · rw [isRecord, isLookup]
    exact staysAlike_same represents _
  · rw [isError, isLookup]
    exact staysAlike_same represents _

theorem Represents.tombstone {id : JsString}
    {record : MemoryRecord} (found : vault.get? id = some record) (time : JsString) :
    Represents runtime (vault.set record.id { record with tombstonedAt := some time })
      (table.set (recordKey record) (updated time (table.get? (recordKey record)))) := by
  have regular := represents.regular _ _ found
  have stillRegular : IsRegular { record with tombstonedAt := some time } :=
    ⟨regular.plain, regular.sorted, regular.memoryId⟩
  rw [represents.found found]
  refine represents.set stillRegular fun old isOld => ?_
  rw [represents.keyed id record found, found] at isOld
  cases isOld
  rfl

theorem tombstone_agrees (page : Nat)
    (plain : IsPlain (request.tenantId, request.userId))
    (own : IsOwn vault request (request.now.getD (clock 0))) :
    StaysAlike runtime (inMemory runtime collation vault ⟨.tombstone request, clock⟩)
      (dynamoDb runtime collation table ⟨⟨.tombstone request, clock⟩, page⟩) := by
  unfold inMemory dynamoDb program
  dsimp only
  rw [Program.run_map, run_tombstone, Vault.tombstone]
  rcases lookup_agrees represents plain own with
    ⟨record, isRecord, isLookup, found, isKey⟩ | ⟨error, isError, isLookup⟩
  · rw [isRecord, isLookup, isKey]
    exact ⟨rfl, represents.tombstone found _⟩
  · rw [isError, isLookup]
    exact staysAlike_same represents _

theorem deleteErasable_agrees (page : Nat)
    (plain : IsPlain (request.tenantId, request.userId))
    (own : IsOwn vault request (request.now.getD (clock 0))) :
    StaysAlike runtime (inMemory runtime collation vault ⟨.deleteErasable request, clock⟩)
      (dynamoDb runtime collation table ⟨⟨.deleteErasable request, clock⟩, page⟩) := by
  unfold inMemory dynamoDb program
  dsimp only
  rw [Program.run_map, run_deleteErasable, Vault.deleteErasable]
  rcases lookup_agrees represents plain own with
    ⟨record, isRecord, isLookup, found, isKey⟩ | ⟨error, isError, isLookup⟩
  · rw [isRecord, isLookup]
    dsimp only
    by_cases isAudit : record.tier = .AUDIT
    · -- the record is looked up once more, at a later reading of the clock
      have stillOwn : IsOwn vault request (request.now.getD (clock 1)) := by
        intro other isOther _ _
        rw [found] at isOther
        cases isOther
        exact (get_eq_ok_iff.mp isRecord).2.2
      rw [if_pos isAudit, if_pos isAudit, Vault.tombstone]
      rcases @lookup_agrees runtime vault table (fun reading => clock (reading + 1)) request represents
        plain stillOwn with
        ⟨again, isAgain, isLookupAgain, foundAgain, -⟩ | ⟨error, isError, isLookupAgain⟩
      · rw [isAgain, isLookupAgain, isKey]
        rw [found] at foundAgain
        cases foundAgain
        exact ⟨rfl, represents.tombstone found _⟩
      · rw [isError, isLookupAgain]
        exact staysAlike_same represents _
    · rw [if_neg isAudit, if_neg isAudit, isKey]
      exact ⟨rfl, represents.erase found⟩
  · rw [isError, isLookup]
    exact staysAlike_same represents _

/-! ### Listing -/

theorem item_of_mem_partition
    {entry : DynamoDbMemoryKey × StoredItem} (member : entry ∈ table.entries) :
    ∃ record, vault.get? record.id = some record ∧ entry.1 = recordKey record ∧
      entry.2 = .whole (itemOf runtime record) :=
  (represents.items entry.1 entry.2).mp (InsertionMap.get?_eq_some_iff.mpr member)

theorem keys_of_entries {pk : JsString}
    {entries : List (DynamoDbMemoryKey × StoredItem)}
    (within : ∀ entry ∈ entries, entry ∈ table.entries ∧ entry.1.PK = pk) :
    (((entries.map Prod.snd).filterMap StoredItem.whole?).map DynamoDbMemoryItem.id).map
        (fun id => (⟨pk, sortKeyPrefix ++ id⟩ : DynamoDbMemoryKey)) = entries.map Prod.fst := by
  induction entries with
  | nil => rfl
  | cons entry rest ih =>
    rw [List.forall_mem_cons] at within
    rcases item_of_mem_partition represents within.1.1 with ⟨record, -, isKey, isItem⟩
    have isPk : pk = identityPk record.tenantId record.userId := by
      rw [← within.1.2, isKey]
      rfl
    have isWhole : StoredItem.whole? entry.2 = some (itemOf runtime record) := by
      rw [isItem]
      rfl
    rw [List.map_cons, List.filterMap_cons_some isWhole, List.map_cons, List.map_cons,
      ih within.2, List.map_cons, isKey, isPk]
    rfl

theorem nodup_partition (pk : JsString) :
    (((partition table pk).filterMap StoredItem.whole?).map DynamoDbMemoryItem.id).Nodup := by
  let entries := (table.entries.filter fun entry =>
    entry.1.PK == pk && sortKeyPrefix.isPrefixOf entry.1.SK).insertionSort sortKeyLe
  have permuted : entries.Perm _ := List.perm_insertionSort sortKeyLe _
  have within : ∀ entry ∈ entries, entry ∈ table.entries ∧ entry.1.PK = pk := by
    intro entry member
    have selected := List.mem_filter.mp (permuted.mem_iff.mp member)
    rw [Bool.and_eq_true, beq_iff_eq] at selected
    exact ⟨selected.1, selected.2.1⟩
  have distinct : (entries.map Prod.fst).Nodup := by
    rw [(permuted.map Prod.fst).nodup_iff]
    exact table.nodup.sublist (List.filter_sublist.map Prod.fst)
  rw [← keys_of_entries represents within] at distinct
  exact distinct.of_map _

theorem nodup_queried (page : Nat)
    (request : MemoryReadRequest) (now : JsString) :
    ((queried page table request now).map DynamoDbMemoryItem.id).Nodup := by
  refine (nodup_partition represents (identityPk request.tenantId request.userId)).sublist ?_
  exact (((List.filter_sublist.trans (List.take_sublist ..)).filterMap _).map _)

theorem nodup_values : (vault.values.map MemoryRecord.id).Nodup := by
  have isKeys : vault.values.map MemoryRecord.id = vault.entries.map Prod.fst := by
    rw [InsertionMap.values, List.map_map]
    apply List.map_congr_left
    intro entry member
    exact represents.keyed _ _ (InsertionMap.get?_eq_some_iff.mpr member)
  rw [isKeys]
  exact vault.nodup

end Represents

variable {page : Nat}

theorem record_of_mem_queried (represents : Represents runtime vault table)
    {request : MemoryReadRequest} (plain : IsPlain (request.tenantId, request.userId))
    {now : JsString} {item : DynamoDbMemoryItem} (member : item ∈ queried page table request now) :
    recordOf item ∈ vault.values ∧ (recordOf item).tenantId = request.tenantId ∧
      (recordOf item).userId = request.userId := by
  have inPartition := List.mem_of_mem_take (mem_queried_iff page table |>.mp member).1
  rcases mem_partition_iff.mp inPartition with ⟨key, found, isPk, -⟩
  rcases (represents.items _ _).mp found with ⟨record, isRecord, isKey, isWhole⟩
  cases isWhole
  have regular := represents.regular _ _ isRecord
  have same : recordIdentity record = (request.tenantId, request.userId) := by
    refine eq_of_identityPk_eq regular.plain plain ?_
    rw [← isPk, isKey]
    rfl
  rw [recordOf_itemOf runtime regular]
  exact ⟨InsertionMap.mem_values_of_get? isRecord, (Prod.mk.inj same).1, (Prod.mk.inj same).2⟩

theorem itemOf_mem_queried {request : MemoryReadRequest} {now : JsString} {record : MemoryRecord}
    (listed : isListed request now record = true) (noTombstone : record.tombstonedAt = none)
    (later : ∀ expiresAt ∈ record.expiresAt, utf8Lt now expiresAt = true)
    (inPage : .whole (itemOf runtime record) ∈
      (partition table (identityPk request.tenantId request.userId)).take page) :
    itemOf runtime record ∈ queried page table request now := by
  refine (mem_queried_iff page table).mpr ⟨inPage, ?_⟩
  unfold isListed at listed
  simp only [Bool.and_eq_true] at listed
  have notExpired : record.expiresAt.all
      (fun expiresAt => utf8Lt (memoryQuery request now).now expiresAt) = true := by
    cases isGiven : record.expiresAt with
    | none => rfl
    | some expiresAt => exact later expiresAt isGiven
  have ofSession : (memoryQuery request now).sessionId.all
      (fun sessionId => record.sessionId == some sessionId) = true := by
    have sameSession := listed.1.1.1
    unfold memoryQuery
    dsimp only
    split
    next given =>
      rw [given, Bool.not_true, Bool.false_or, beq_iff_eq] at sameSession
      rw [sameSession]
      cases request.sessionId with
      | none => rfl
      | some sessionId => exact beq_self_eq_true _
    next => rfl
  have ofTier : ((memoryQuery request now).tiers.isEmpty ||
      (memoryQuery request now).tiers.contains record.tier) = true := by
    rw [Bool.or_eq_true]
    exact Or.inr listed.1.1.2
  unfold MemoryQuery.selects
  dsimp only [itemOf]
  rw [notExpired, noTombstone, ofSession, ofTier]
  rfl

theorem listed_agrees (separates : collation.Separates IsMemoryId)
    (represents : Represents runtime vault table) {request : MemoryReadRequest}
    (plain : IsPlain (request.tenantId, request.userId))
    (reaches : QueryReaches runtime vault table page request (request.now.getD (clock 0))) :
    Vault.list collation vault clock request =
      collation.sortBy MemoryRecord.id
        (((queried page table request (request.now.getD (clock 0))).map recordOf).filter
          (isListed request (request.now.getD (clock 0)))) := by
  have distinct : ((vault.values.filter fun record =>
      record.tenantId == request.tenantId && record.userId == request.userId &&
        isListed request (request.now.getD (clock 0)) record).map MemoryRecord.id).Nodup :=
    (nodup_values represents).sublist (List.filter_sublist.map _)
  have otherDistinct :
      ((((queried page table request (request.now.getD (clock 0))).map recordOf).filter
        (isListed request (request.now.getD (clock 0)))).map MemoryRecord.id).Nodup := by
    refine List.Nodup.sublist (List.filter_sublist.map _) ?_
    rw [List.map_map]
    exact nodup_queried represents page request _
  refine collation.sortBy_eq_of_perm MemoryRecord.id separates ?_ distinct ?_
  · intro record member
    rcases List.mem_map.mp (List.mem_filter.mp member).1 with ⟨entry, isEntry, rfl⟩
    exact (represents.regular _ _ (InsertionMap.get?_eq_some_iff.mpr isEntry)).memoryId
  · rw [List.perm_ext_iff_of_nodup distinct.of_map otherDistinct.of_map]
    intro record
    rw [List.mem_filter, List.mem_filter, List.mem_map, Bool.and_eq_true, Bool.and_eq_true,
      beq_iff_eq, beq_iff_eq]
    constructor
    · rintro ⟨isValue, own, listed⟩
      rcases reaches record isValue own listed with ⟨noTombstone, later, inPage⟩
      rcases List.mem_map.mp isValue with ⟨entry, isEntry, rfl⟩
      have regular := represents.regular _ _ (InsertionMap.get?_eq_some_iff.mpr isEntry)
      refine ⟨⟨_, itemOf_mem_queried listed noTombstone later inPage, ?_⟩, listed⟩
      exact recordOf_itemOf runtime regular
    · rintro ⟨⟨item, isQueried, rfl⟩, listed⟩
      have found := record_of_mem_queried represents plain isQueried
      exact ⟨found.1, found.2, listed⟩

theorem list_agrees (separates : collation.Separates IsMemoryId)
    (represents : Represents runtime vault table) {request : MemoryReadRequest}
    (plain : IsPlain (request.tenantId, request.userId))
    (reaches : QueryReaches runtime vault table page request (request.now.getD (clock 0))) :
    StaysAlike runtime (inMemory runtime collation vault ⟨.list request, clock⟩)
      (dynamoDb runtime collation table ⟨⟨.list request, clock⟩, page⟩) := by
  unfold inMemory dynamoDb program
  dsimp only
  rw [Program.run_map, run_list_eq, listed_agrees separates represents plain reaches]
  exact staysAlike_same represents _

/-- One call is answered alike by both stores, and leaves them representing each other. -/
theorem step_agrees (separates : collation.Separates IsMemoryId)
    (represents : Represents runtime vault table) {call : PagedCall}
    (plain : IsPlain call.operation.identity) (agrees : AgreesOn runtime (vault, table) call) :
    StaysAlike runtime (inMemoryPaged runtime collation vault call)
      (dynamoDb runtime collation table call) := by
  rcases call with ⟨⟨operation, clock⟩, page⟩
  cases operation with
  | write request decision consentState => exact write_agrees represents clock page plain agrees
  | list request => exact list_agrees separates represents plain agrees
  | get request => exact get_agrees represents page plain agrees
  | tombstone request => exact tombstone_agrees represents page plain agrees
  | deleteErasable request => exact deleteErasable_agrees represents page plain agrees
  | exportUserMemory request =>
    exact @list_agrees runtime collation vault table clock page separates represents
      (exportRequest request) plain agrees

/-- **Where the two vaults are equal.** In every run of plain identities whose calls meet the
condition, the vaults answer every call alike. -/
theorem responses_alike (separates : collation.Separates IsMemoryId) {calls : List PagedCall}
    (plain : ∀ call ∈ calls, IsPlain call.operation.identity)
    (agrees : ((inMemoryPaged runtime collation).beside (dynamoDb runtime collation)).Throughout
      (AgreesOn runtime) (.empty, .empty) calls) :
    List.Forall₂ Alike ((inMemoryPaged runtime collation).responses .empty calls)
      ((dynamoDb runtime collation).responses .empty calls) := by
  have isRelated : Represents runtime .empty .empty := represents_empty
  refine Machine.simulates ?_ isRelated (agrees.and (Machine.throughout_of_forall plain))
  intro vault table call represents meets
  exact step_agrees separates represents meets.2 meets.1

end Operations

namespace Sample

open Vault.Sample

def otherWriting : VaultCall :=
  ⟨.write { writeRequest with contentDigest := js "sha256:other" } allow .not_required, clock⟩

def listing : VaultCall := ⟨.list ⟨js "tenant-a", js "user-a", none, none, none⟩, clock⟩

def foreignLooking : VaultCall := ⟨.get ⟨js "tenant-b", js "user-b", memoryId, none⟩, clock⟩

def writtenTwice : List PagedCall := [⟨writing, 1⟩, ⟨writing, 1⟩]

def cutOff : List PagedCall := [⟨writing, 1⟩, ⟨otherWriting, 1⟩, ⟨listing, 1⟩]

def foreign : List PagedCall := [⟨writing, 1⟩, ⟨foreignLooking, 1⟩]

def AnswerAlike (calls : List PagedCall) : Prop :=
  List.Forall₂ Alike
    ((inMemoryPaged Policy.Sample.runtime codeUnitOrder).responses .empty calls)
    ((dynamoDb Policy.Sample.runtime codeUnitOrder).responses .empty calls)

instance instDecidableAnswerAlike (calls : List PagedCall) : Decidable (AnswerAlike calls) :=
  inferInstanceAs (Decidable (List.Forall₂ Alike _ _))

end Sample

/-- A record that is written and listed by a query that evaluates all of it. -/
theorem responses_alike_sample : Sample.AnswerAlike [⟨Sample.writing, 1⟩, ⟨Sample.listing, 1⟩] := by
  refine responses_alike (codeUnitOrder_separates IsMemoryId) ?_ ?_
  · decide +kernel
  · refine ⟨fun _ id _ => rfl, ?_, trivial⟩
    change QueryReaches Policy.Sample.runtime _ _ 1 ⟨js "tenant-a", js "user-a", none, none, none⟩ _
    unfold QueryReaches
    decide +kernel

/-- The vaults part on a second write, behind the first page, and at a foreign record. -/
theorem vaults_not_alike :
    ¬ Sample.AnswerAlike Sample.writtenTwice ∧ ¬ Sample.AnswerAlike Sample.cutOff ∧
      ¬ Sample.AnswerAlike Sample.foreign := by
  decide +kernel

end GhostArk.EnforcementRuntime.Vault.DynamoDb
