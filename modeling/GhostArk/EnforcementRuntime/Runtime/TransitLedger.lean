import GhostArk.EnforcementRuntime.Receipts.V2.Emission

/-!
Contract: `packages/enforcement-runtime/src/runtime/transitLedger.ts`.

Owns the custody ledger as a state with its two methods, every refusal of a
record, the ledger as a machine that serves calls one after another, and the
discipline that its records keep in every run.

A presented record has the members of its declared type, or is no object at all.
Does not own: the transits themselves, or the checks made of a trace later on.
-/

namespace GhostArk.EnforcementRuntime.Runtime

open Js Lib
open Receipts (isReceiptHash)
open Receipts.V2 (inSequence)

structure TransitLedger where
  allocatedSequenceCount : Nat
  lastRecordedSequenceNum : Int
  transits : List Receipts.V2.TransitRecord
deriving DecidableEq, Repr

namespace TransitLedger

def ledgerError (message : JsString) (context : List (JsString × JsValue)) : JsError :=
  ⟨.validationError, message, (js "domain", .string (js "ghost_ark.transit_ledger.v1")) :: context⟩

def empty : TransitLedger := ⟨0, -1, []⟩

/-- A method of the ledger: an error keeps what was assigned before it. -/
abbrev Method := ExceptT JsError (StateM TransitLedger)

def call {α : Type} (method : Method α) (ledger : TransitLedger) :
    Except JsError α × TransitLedger :=
  method.run.run ledger

/-- `count + 1` on doubles, which stays at `2 ^ 53` from there on. -/
def increment (count : Nat) : Nat := min (count + 1) (2 ^ 53)

def nextSequenceNum : Method Nat := do
  let sequenceNum := (← get).allocatedSequenceCount
  modify fun ledger =>
    { ledger with allocatedSequenceCount := increment ledger.allocatedSequenceCount }
  return sequenceNum

def transitSchemaVersion : JsString := js "ghost.gateway_transit.v1"

/-- A value that is no object is `none`. -/
def record (record : Option Receipts.V2.TransitRecord) : Method Unit := do
  let some record := record
    | throw (ledgerError (js "Transit record must be an object.") [])
  if record.schemaVersion ≠ transitSchemaVersion then
    throw (ledgerError (js "Transit record schema version is not ghost.gateway_transit.v1.")
      [(js "observed", .string record.schemaVersion)])
  let some sequenceNum := record.sequenceNum.safeNat?
    | throw (ledgerError (js "Transit record sequenceNum must be a non-negative safe integer.")
        [(js "observed", .number record.sequenceNum)])
  let ledger ← get
  if ledger.allocatedSequenceCount ≤ sequenceNum then
    throw (ledgerError (js "Transit record sequenceNum was never allocated by this ledger.")
      [(js "observed", .number record.sequenceNum),
        (js "allocated", .number (.ofNat ledger.allocatedSequenceCount))])
  if (sequenceNum : Int) ≤ ledger.lastRecordedSequenceNum then
    throw (ledgerError (js "Transit record sequenceNum must be strictly increasing.")
      [(js "observed", .number record.sequenceNum),
        (js "lastRecorded", .number (.finite ledger.lastRecordedSequenceNum))])
  if !isReceiptHash record.requestDigest then
    throw (ledgerError (js "Transit record requestDigest has an invalid digest shape.") [])
  if !isReceiptHash record.responseDigest then
    throw (ledgerError (js "Transit record responseDigest has an invalid digest shape.") [])
  modify fun ledger => { ledger with lastRecordedSequenceNum := sequenceNum }
  modify fun ledger => { ledger with transits := ledger.transits ++ [record] }

def records (ledger : TransitLedger) : List Receipts.V2.TransitRecord := ledger.transits

/-! ### One call -/

theorem call_check {α : Type} {fires : Prop} [Decidable fires] {error : JsError}
    {next : PUnit → Method α} (ledger : TransitLedger) :
    call (if fires then throw error >>= next else next ⟨⟩) ledger =
      if fires then (.error error, ledger) else call (next ⟨⟩) ledger := by
  by_cases isFired : fires
  · rw [if_pos isFired, if_pos isFired]
    rfl
  · rw [if_neg isFired, if_neg isFired]

theorem call_get_bind {α : Type} (next : TransitLedger → Method α) (ledger : TransitLedger) :
    call (get >>= next) ledger = call (next ledger) ledger :=
  rfl

/-- The record passes every check of `record`, with its sequence number. -/
structure Recordable (ledger : TransitLedger) (record : Receipts.V2.TransitRecord)
    (sequenceNum : Nat) : Prop where
  schemaVersion : record.schemaVersion = transitSchemaVersion
  isSequenceNum : record.sequenceNum.safeNat? = some sequenceNum
  allocated : sequenceNum < ledger.allocatedSequenceCount
  increasing : ledger.lastRecordedSequenceNum < sequenceNum
  requestDigest : isReceiptHash record.requestDigest = true
  responseDigest : isReceiptHash record.responseDigest = true

theorem call_record_cases (ledger : TransitLedger) (presented : Option Receipts.V2.TransitRecord) :
    (∃ error, call (record presented) ledger = (.error error, ledger)) ∨
      ∃ accepted sequenceNum, presented = some accepted ∧
        Recordable ledger accepted sequenceNum ∧
        call (record presented) ledger =
          (.ok (), { ledger with
            lastRecordedSequenceNum := sequenceNum
            transits := ledger.transits ++ [accepted] }) := by
  cases presented with
  | none => exact .inl ⟨_, rfl⟩
  | some presented =>
    rw [record, call_check]
    by_cases version : presented.schemaVersion = transitSchemaVersion
    swap
    · exact .inl ⟨_, if_pos version⟩
    rw [if_neg (not_not.mpr version)]
    cases isSequenceNum : presented.sequenceNum.safeNat? with
    | none => exact .inl ⟨_, rfl⟩
    | some sequenceNum =>
      dsimp only
      rw [call_get_bind, call_check]
      by_cases unallocated : ledger.allocatedSequenceCount ≤ sequenceNum
      · exact .inl ⟨_, if_pos unallocated⟩
      rw [if_neg unallocated, call_check]
      by_cases repeated : (sequenceNum : Int) ≤ ledger.lastRecordedSequenceNum
      · exact .inl ⟨_, if_pos repeated⟩
      rw [if_neg repeated, call_check]
      by_cases request : isReceiptHash presented.requestDigest = true
      swap
      · exact .inl ⟨_, if_pos (by simpa using request)⟩
      rw [if_neg (by simpa using request), call_check]
      by_cases response : isReceiptHash presented.responseDigest = true
      swap
      · exact .inl ⟨_, if_pos (by simpa using response)⟩
      rw [if_neg (by simpa using response)]
      exact .inr ⟨presented, sequenceNum, rfl,
        ⟨version, isSequenceNum, by omega, by omega, request, response⟩, rfl⟩

theorem call_record_rejected {ledger after : TransitLedger}
    {presented : Option Receipts.V2.TransitRecord} {error : JsError}
    (rejected : call (record presented) ledger = (.error error, after)) : after = ledger := by
  rcases call_record_cases ledger presented with
    ⟨_, outcome⟩ | ⟨accepted, sequenceNum, -, -, outcome⟩
  · rw [outcome] at rejected
    exact (Prod.mk.inj rejected).2.symm
  · rw [outcome] at rejected
    cases rejected

inductive LedgerCall where
  | nextSequenceNum
  | record (record : Option Receipts.V2.TransitRecord)
deriving DecidableEq, Repr

inductive LedgerReply where
  | allocated (sequenceNum : Nat)
  | recorded (outcome : Except JsError Unit)

def machine : Machine TransitLedger LedgerCall LedgerReply := fun ledger ledgerCall =>
  match ledgerCall with
  | .nextSequenceNum =>
    let allocation := call nextSequenceNum ledger
    (.allocated (allocation.1.toOption.getD 0), allocation.2)
  | .record presented =>
    let recording := call (record presented) ledger
    (.recorded recording.1, recording.2)

def acceptedRecord : LedgerCall → LedgerReply → Option Receipts.V2.TransitRecord
  | .record presented, .recorded (.ok ()) => presented
  | _, _ => none

def acceptedRecords : List LedgerCall → List LedgerReply → List Receipts.V2.TransitRecord
  | ledgerCall :: calls, reply :: replies =>
    (acceptedRecord ledgerCall reply).toList ++ acceptedRecords calls replies
  | _, _ => []

def allocations (calls : List LedgerCall) : Nat := calls.count .nextSequenceNum

theorem machine_records (ledger : TransitLedger) (ledgerCall : LedgerCall) :
    (machine ledger ledgerCall).2.records =
      ledger.records ++ (acceptedRecord ledgerCall (machine ledger ledgerCall).1).toList := by
  cases ledgerCall with
  | nextSequenceNum => exact (List.append_nil _).symm
  | record presented =>
    rcases call_record_cases ledger presented with
      ⟨error, outcome⟩ | ⟨accepted, sequenceNum, rfl, -, outcome⟩
    · simp [machine, outcome, acceptedRecord]
    · simp [machine, outcome, acceptedRecord, records]

theorem records_finalState (ledger : TransitLedger) (calls : List LedgerCall) :
    (machine.finalState ledger calls).records =
      ledger.records ++ acceptedRecords calls (machine.responses ledger calls) := by
  induction calls generalizing ledger with
  | nil => exact (List.append_nil _).symm
  | cons ledgerCall rest ih =>
    rw [Machine.finalState, ih, machine_records, List.append_assoc]
    rfl

/-! ### The discipline of the records -/

/-- What a ledger keeps after a number of allocations. -/
structure Disciplined (ledger : TransitLedger) (allocated : Nat) (numbers : List Nat) : Prop where
  counter : ledger.allocatedSequenceCount = min allocated (2 ^ 53)
  sequenceNums : ledger.records.map (·.sequenceNum) = numbers.map .ofNat
  increasing : numbers.Pairwise (· < ·)
  recorded : ∀ number ∈ numbers, (number : Int) ≤ ledger.lastRecordedSequenceNum
  below : ledger.lastRecordedSequenceNum < ledger.allocatedSequenceCount
  requestDigests : ∀ record ∈ ledger.records, isReceiptHash record.requestDigest = true
  responseDigests : ∀ record ∈ ledger.records, isReceiptHash record.responseDigest = true

theorem disciplined_empty : Disciplined empty 0 [] where
  counter := rfl
  sequenceNums := rfl
  increasing := .nil
  recorded := by simp
  below := by decide
  requestDigests := by simp [records, empty]
  responseDigests := by simp [records, empty]

/-- Every call of the ledger keeps its sequence discipline. -/
theorem Disciplined.step {ledger : TransitLedger} {allocated : Nat} {numbers : List Nat}
    (disciplined : Disciplined ledger allocated numbers) (ledgerCall : LedgerCall) :
    ∃ later, Disciplined (machine ledger ledgerCall).2 (allocated + allocations [ledgerCall])
      later := by
  have counter := disciplined.counter
  have below := disciplined.below
  cases ledgerCall with
  | nextSequenceNum =>
    refine ⟨numbers, ?_, disciplined.sequenceNums, disciplined.increasing,
      disciplined.recorded, ?_, disciplined.requestDigests, disciplined.responseDigests⟩
    · change increment ledger.allocatedSequenceCount = min (allocated + 1) (2 ^ 53)
      rw [increment]
      omega
    · change ledger.lastRecordedSequenceNum < (increment ledger.allocatedSequenceCount : Int)
      rw [increment]
      omega
  | record presented =>
    rcases call_record_cases ledger presented with
      ⟨error, outcome⟩ | ⟨accepted, sequenceNum, rfl, recordable, outcome⟩
    · have unchanged : (machine ledger (.record presented)).2 = ledger := by
        rw [machine, outcome]
      rw [unchanged]
      exact ⟨numbers, disciplined⟩
    · have after : (machine ledger (.record (some accepted))).2 =
          { ledger with
            lastRecordedSequenceNum := sequenceNum
            transits := ledger.transits ++ [accepted] } := by
        rw [machine, outcome]
      rw [after]
      have recordedBelow : ∀ number ∈ numbers, (number : Int) < sequenceNum := fun number member =>
        lt_of_le_of_lt (disciplined.recorded number member) recordable.increasing
      refine ⟨numbers ++ [sequenceNum], counter, ?_, ?_, ?_, ?_, ?_, ?_⟩
      · rw [records, List.map_append, List.map_append, ← disciplined.sequenceNums,
          List.map_singleton, List.map_singleton,
          (JsNumber.eq_ofNat_of_safeNat? recordable.isSequenceNum).1]
        rfl
      · rw [List.pairwise_append]
        refine ⟨disciplined.increasing, List.pairwise_singleton _ _, ?_⟩
        intro number member next isNext
        rw [List.mem_singleton.mp isNext]
        exact Int.ofNat_lt.mp (recordedBelow number member)
      · intro number member
        rcases List.mem_append.mp member with earlier | isLast
        · exact le_of_lt (recordedBelow number earlier)
        · rw [List.mem_singleton.mp isLast]
      · exact Int.ofNat_lt.mpr recordable.allocated
      · intro record member
        rcases List.mem_append.mp member with earlier | isLast
        · exact disciplined.requestDigests record earlier
        · rw [List.mem_singleton.mp isLast]
          exact recordable.requestDigest
      · intro record member
        rcases List.mem_append.mp member with earlier | isLast
        · exact disciplined.responseDigests record earlier
        · rw [List.mem_singleton.mp isLast]
          exact recordable.responseDigest

/-- Every list of calls keeps the sequence discipline. -/
theorem Disciplined.run {ledger : TransitLedger} {allocated : Nat} {numbers : List Nat}
    (disciplined : Disciplined ledger allocated numbers) (calls : List LedgerCall) :
    ∃ later, Disciplined (machine.finalState ledger calls) (allocated + allocations calls)
      later := by
  induction calls generalizing ledger allocated numbers with
  | nil => exact ⟨numbers, disciplined⟩
  | cons ledgerCall rest ih =>
    rcases disciplined.step ledgerCall with ⟨next, stepped⟩
    rcases ih stepped with ⟨later, ran⟩
    have counted : allocated + allocations (ledgerCall :: rest) =
        allocated + allocations [ledgerCall] + allocations rest := by
      simp only [allocations, List.count_cons, List.count_nil]
      omega
    rw [counted]
    exact ⟨later, ran⟩

/-! ### The records in order -/

/-- A recorded record, as `governedInvoke` reads it. -/
def runtimeRecord (record : Receipts.V2.TransitRecord) : TransitRecord where
  sequenceNum := record.sequenceNum.safeNat?.getD 0
  toolName := record.toolName
  requestDigest := record.requestDigest
  responseDigest := record.responseDigest
  provenanceClass := record.provenanceClass

def runtimeTraceEntry (entry : Receipts.V2.DecisionReceiptV2TraceEntry) :
    DecisionReceiptV2TraceEntry where
  sequence_num := entry.sequence_num.safeNat?.getD 0
  tool_name := entry.tool_name
  request_payload_digest := entry.request_payload_digest
  response_payload_digest := entry.response_payload_digest
  provenance_class := entry.provenance_class

section Order

variable {ledger : TransitLedger} {allocated : Nat} {numbers : List Nat}
  (disciplined : Disciplined ledger allocated numbers)
include disciplined

theorem Disciplined.exists_number {record : Receipts.V2.TransitRecord}
    (member : record ∈ ledger.records) :
    ∃ number ∈ numbers, record.sequenceNum = .ofNat number := by
  have inImage : record.sequenceNum ∈ numbers.map JsNumber.ofNat := by
    rw [← disciplined.sequenceNums]
    exact List.mem_map_of_mem member
  rcases List.mem_map.mp inImage with ⟨number, isNumber, same⟩
  exact ⟨number, isNumber, same.symm⟩

theorem Disciplined.pairwise (related : JsNumber → JsNumber → Prop)
    (ofLess : ∀ left right : Nat, left < right → right < 2 ^ 53 →
      related (.ofNat left) (.ofNat right)) :
    ledger.records.Pairwise fun left right => related left.sequenceNum right.sequenceNum := by
  have counter := disciplined.counter
  have below := disciplined.below
  have ordered : (numbers.map JsNumber.ofNat).Pairwise related := by
    rw [List.pairwise_map]
    refine disciplined.increasing.imp_of_mem fun _ isNumber less => ofLess _ _ less ?_
    have recorded := disciplined.recorded _ isNumber
    omega
  rw [← disciplined.sequenceNums, List.pairwise_map] at ordered
  exact ordered

theorem Disciplined.pairwise_lt : ledger.records.Pairwise fun left right =>
    JsNumber.lt left.sequenceNum right.sequenceNum = true :=
  disciplined.pairwise (fun left right => JsNumber.lt left right = true)
    fun left right less _ => by
      rw [JsNumber.lt_ofNat]
      exact decide_eq_true less

theorem Disciplined.nodup : (ledger.records.map (·.sequenceNum)).Nodup := by
  rw [disciplined.sequenceNums]
  refine List.Nodup.map (fun _ _ same => JsNumber.ofNat_inj.mp same) ?_
  exact disciplined.increasing.imp Nat.ne_of_lt

theorem Disciplined.lt_allocated : ∀ record ∈ ledger.records,
    JsNumber.lt record.sequenceNum (.ofNat ledger.allocatedSequenceCount) = true := by
  intro record member
  rcases disciplined.exists_number member with ⟨number, isNumber, same⟩
  have recorded := disciplined.recorded number isNumber
  have below := disciplined.below
  rw [same, JsNumber.lt_ofNat]
  exact decide_eq_true (by omega)

theorem Disciplined.executionTrace_eq :
    Receipts.V2.executionTraceFromTransitRecords ledger.records =
      ledger.records.map Receipts.V2.TransitRecord.toTraceEntry := by
  have sorted : ledger.records.Pairwise inSequence :=
    disciplined.pairwise (fun left right => JsNumber.lt right left = false)
      fun left right less _ => by
        rw [JsNumber.lt_ofNat]
        exact decide_eq_false (by omega)
  rw [Receipts.V2.executionTraceFromTransitRecords, sorted.insertionSort_eq]

theorem Disciplined.runtimeTrace_eq :
    executionTraceFromTransitRecords (ledger.records.map runtimeRecord) =
      (Receipts.V2.executionTraceFromTransitRecords ledger.records).map runtimeTraceEntry := by
  have sorted : (ledger.records.map runtimeRecord).Pairwise fun left right =>
      left.sequenceNum ≤ right.sequenceNum := by
    rw [List.pairwise_map]
    refine disciplined.pairwise
      (fun left right => left.safeNat?.getD 0 ≤ right.safeNat?.getD 0) fun left right less small => ?_
    have maxSafe : JsNumber.maxSafeInteger = 2 ^ 53 - 1 := rfl
    rw [JsNumber.safeNat?_ofNat (by omega), JsNumber.safeNat?_ofNat (by omega)]
    exact less.le
  rw [executionTraceFromTransitRecords, sorted.insertionSort_eq, disciplined.executionTrace_eq,
    List.map_map, List.map_map]
  rfl

end Order

end TransitLedger

end GhostArk.EnforcementRuntime.Runtime
