import GhostArk.EnforcementRuntime.Runtime.TransitLedger
import GhostArk.Verifiers.NodeV2

/-!
Contract: custody traces on their way from the transit ledger to the two checkers
of a second-layer receipt.

Owns what both checkers say of a trace whose entries come in sequence with
well-formed digests, and the theorem on every run of a ledger: its records reach
the receipt unchanged, and only a tool name or a provenance class can make the
emitter or the verifier refuse their trace.
-/

namespace GhostArk.Verifiers.NodeV2

open Js Lib
open EnforcementRuntime.Policy (property)
open EnforcementRuntime.Receipts
open EnforcementRuntime.Receipts.V2
open EnforcementRuntime.Runtime (TransitLedger)
open EnforcementRuntime.Runtime.TransitLedger (LedgerCall LedgerReply acceptedRecords
  allocations Disciplined)

section Entry

variable (entry : DecisionReceiptV2TraceEntry)

def entryMembers : List (JsString × JsValue) :=
  [(js "sequence_num", .number entry.sequence_num),
    (js "tool_name", .string entry.tool_name),
    (js "request_payload_digest", .string entry.request_payload_digest),
    (js "response_payload_digest", .string entry.response_payload_digest),
    (js "provenance_class", .string (provenanceText entry.provenance_class))]

theorem objectMembers_toJs : objectMembers entry.toJs = some (entryMembers entry) := rfl

theorem property_sequence_num :
    property (entryMembers entry) "sequence_num" = .number entry.sequence_num := rfl

theorem property_request_payload_digest :
    property (entryMembers entry) "request_payload_digest" =
      .string entry.request_payload_digest := rfl

theorem property_response_payload_digest :
    property (entryMembers entry) "response_payload_digest" =
      .string entry.response_payload_digest := rfl

/-- The entry passes the checks that no ledger makes. -/
structure Admissible : Prop where
  toolName : isToolName entry.tool_name = true
  traceClass : isAllowedTraceClass (.string (provenanceText entry.provenance_class)) = true

end Entry

/-- Entries with rising sequence numbers and well-formed digests. -/
def InCustody : Int → List DecisionReceiptV2TraceEntry → Prop
  | _, [] => True
  | previous, entry :: rest =>
    ∃ number, entry.sequence_num.safeNat? = some number ∧ previous < number ∧
      isReceiptHash entry.request_payload_digest = true ∧
      isReceiptHash entry.response_payload_digest = true ∧ InCustody number rest

/-- An entry in custody is refused by the emitter only for what no ledger checks. -/
theorem assertTraceEntry_toJs {entry : DecisionReceiptV2TraceEntry} {index number found : Nat}
    {previous : Int} (isNumber : entry.sequence_num.safeNat? = some number)
    (increasing : previous < number)
    (request : isReceiptHash entry.request_payload_digest = true)
    (response : isReceiptHash entry.response_payload_digest = true) :
    assertTraceEntry entry.toJs index previous = .ok found ↔
      found = number ∧ Admissible entry := by
  rw [assertTraceEntry_eq_ok_iff, objectMembers_toJs]
  constructor
  · rintro ⟨_, ⟨⟩, sequenced, -, named, -, -, allowed⟩
    rw [property_sequence_num, readSequenceNum, isNumber] at sequenced
    exact ⟨(Option.some.inj sequenced).symm, named, allowed⟩
  · rintro ⟨rfl, named, allowed⟩
    exact ⟨_, rfl, isNumber, by omega, named, request, response, allowed⟩

theorem assertTraceFrom_toJs {entries : List DecisionReceiptV2TraceEntry} {index : Nat}
    {previous : Int} (inCustody : InCustody previous entries) :
    assertTraceFrom index previous (entries.map (·.toJs)) = .ok () ↔
      ∀ entry ∈ entries, Admissible entry := by
  induction entries generalizing index previous with
  | nil => simp [assertTraceFrom]
  | cons entry rest ih =>
    rcases inCustody with ⟨number, isNumber, increasing, request, response, inCustody⟩
    rw [List.map_cons, assertTraceFrom_cons_eq_ok_iff, List.forall_mem_cons,
      ← @ih (index + 1) number inCustody]
    simp only [assertTraceEntry_toJs isNumber increasing request response, and_assoc,
      exists_eq_left]

section Checked

variable {runtime : NodeRuntime}

theorem checkTraceEntry_toJs_returns (entry : DecisionReceiptV2TraceEntry) (index : Nat)
    (previous : Int) : ∃ outcome, checkTraceEntry runtime entry.toJs index previous = .ok outcome := by
  unfold checkTraceEntry
  rw [objectMembers_toJs]
  dsimp only
  cases readSequenceNum (property (entryMembers entry) "sequence_num") with
  | none => exact ⟨none, rfl⟩
  | some number =>
    rw [property_request_payload_digest, property_response_payload_digest]
    simp only [Coercion.test_string, ok_bind]
    split
    · exact ⟨_, rfl⟩
    split
    · exact ⟨_, rfl⟩
    split
    · exact ⟨_, rfl⟩
    split
    · exact ⟨_, rfl⟩
    split
    · exact ⟨_, rfl⟩
    · exact ⟨_, rfl⟩

theorem checkTraceEntry_toJs {entry : DecisionReceiptV2TraceEntry} {index number : Nat}
    {previous : Int} :
    checkTraceEntry runtime entry.toJs index previous = .ok (some number) ↔
      assertTraceEntry entry.toJs index previous = .ok number := by
  rw [checkTraceEntry_eq_some_iff, assertTraceEntry_eq_ok_iff, objectMembers_toJs]
  simp only [Option.some.injEq, exists_eq_left', property_request_payload_digest,
    property_response_payload_digest, Coercion.test_string, Except.ok.injEq,
    and_comm (a := 0 < index)]
  exact Iff.rfl

theorem checkTraceFrom_toJs {entries : List DecisionReceiptV2TraceEntry} {index : Nat}
    {previous : Int} :
    ∃ outcome, checkTraceFrom runtime index previous (entries.map (·.toJs)) = .ok outcome ∧
      (outcome = true ↔ assertTraceFrom index previous (entries.map (·.toJs)) = .ok ()) := by
  induction entries generalizing index previous with
  | nil => exact ⟨true, rfl, by simp [assertTraceFrom]⟩
  | cons entry rest ih =>
    have returns : ∃ outcome, checkTraceEntry runtime entry.toJs index previous = .ok outcome :=
      checkTraceEntry_toJs_returns entry index previous
    rcases returns with ⟨checked, returned⟩
    have agree : ∀ number, checked = some number ↔
        assertTraceEntry entry.toJs index previous = .ok number := by
      intro number
      rw [← checkTraceEntry_toJs, returned, Except.ok.injEq]
    rw [List.map_cons, checkTraceFrom, returned, ok_bind]
    cases checked with
    | none =>
      refine ⟨false, rfl, iff_of_false Bool.false_ne_true fun accepted => ?_⟩
      rcases assertTraceFrom_cons_eq_ok_iff.mp accepted with ⟨number, asserted, -⟩
      cases (agree number).mpr asserted
    | some number =>
      rcases @ih (index + 1) number with ⟨outcome, restChecked, restAgree⟩
      refine ⟨outcome, restChecked, ?_⟩
      rw [restAgree, assertTraceFrom_cons_eq_ok_iff]
      constructor
      · intro accepted
        exact ⟨number, (agree number).mp rfl, accepted⟩
      · rintro ⟨other, asserted, accepted⟩
        cases (agree other).mpr asserted
        exact accepted

/-- The verifier passes a trace of the emitter's type exactly when the emitter accepts it. -/
theorem checkTrace_toJs (entries : List DecisionReceiptV2TraceEntry) :
    ∃ outcome, checkTrace runtime (.array (entries.map (·.toJs))) = .ok outcome ∧
      (outcome.passed = true ↔ assertTrace (.array (entries.map (·.toJs))) = .ok ()) := by
  rcases @checkTraceFrom_toJs runtime entries 0 (-1) with ⟨ok, checked, agree⟩
  rw [checkTrace, checked, ok_bind, assertTrace, ← agree]
  cases ok with
  | true => exact ⟨_, rfl, iff_of_true rfl rfl⟩
  | false => exact ⟨_, rfl, iff_of_false Bool.false_ne_true Bool.false_ne_true⟩

end Checked

/-! ### Runs of a ledger -/

theorem inCustody_of_numbers {records : List TransitRecord} {numbers : List Nat} {previous : Int}
    (sequenceNums : records.map (·.sequenceNum) = numbers.map .ofNat)
    (increasing : numbers.Pairwise (· < ·))
    (bounds : ∀ number ∈ numbers, previous < number ∧ number ≤ JsNumber.maxSafeInteger)
    (requests : ∀ record ∈ records, isReceiptHash record.requestDigest = true)
    (responses : ∀ record ∈ records, isReceiptHash record.responseDigest = true) :
    InCustody previous (records.map TransitRecord.toTraceEntry) := by
  induction records generalizing numbers previous with
  | nil => exact trivial
  | cons record rest ih =>
    cases numbers with
    | nil => cases sequenceNums
    | cons number others =>
      rw [List.map_cons, List.map_cons, List.cons.injEq] at sequenceNums
      rw [List.pairwise_cons] at increasing
      rw [List.forall_mem_cons] at bounds requests responses
      refine ⟨number, ?_, bounds.1.1, requests.1, responses.1, ?_⟩
      · change record.sequenceNum.safeNat? = some number
        rw [sequenceNums.1, JsNumber.safeNat?_ofNat bounds.1.2]
      · apply ih sequenceNums.2 increasing.2 _ requests.2 responses.2
        intro other member
        exact ⟨Int.ofNat_lt.mpr (increasing.1 other member), (bounds.2 other member).2⟩

theorem inCustody_of_disciplined {ledger : TransitLedger} {allocated : Nat} {numbers : List Nat}
    (disciplined : Disciplined ledger allocated numbers) :
    InCustody (-1) (executionTraceFromTransitRecords ledger.records) := by
  have counter := disciplined.counter
  have below := disciplined.below
  rw [disciplined.executionTrace_eq]
  refine inCustody_of_numbers disciplined.sequenceNums disciplined.increasing ?_
    disciplined.requestDigests disciplined.responseDigests
  intro number member
  have recorded := disciplined.recorded number member
  have maxSafe : JsNumber.maxSafeInteger = 2 ^ 53 - 1 := rfl
  omega

/-- For every sequence of calls on a ledger: its records are the accepted ones in order, with
strictly increasing, distinct, allocated sequence numbers; a rejected record changes nothing; and
their trace lists the same digests in the same order, refused by neither checker except for a
tool name or a provenance class. -/
theorem custody_trace_intact (runtime : NodeRuntime) (calls : List LedgerCall) :
    let ledger := TransitLedger.machine.finalState .empty calls
    let trace := executionTraceFromTransitRecords ledger.records
    ledger.records = acceptedRecords calls (TransitLedger.machine.responses .empty calls) ∧
    (ledger.records.Pairwise fun left right =>
      JsNumber.lt left.sequenceNum right.sequenceNum = true) ∧
    (ledger.records.map (·.sequenceNum)).Nodup ∧
    (∀ record ∈ ledger.records,
      JsNumber.lt record.sequenceNum (.ofNat ledger.allocatedSequenceCount) = true) ∧
    ledger.allocatedSequenceCount = min (allocations calls) (2 ^ 53) ∧
    (∀ (before after : TransitLedger) (presented : Option TransitRecord) (error : JsError),
      TransitLedger.call (TransitLedger.record presented) before = (.error error, after) →
        after = before) ∧
    (trace.map fun entry => (entry.request_payload_digest, entry.response_payload_digest)) =
      ledger.records.map (fun record => (record.requestDigest, record.responseDigest)) ∧
    InCustody (-1) trace ∧
    (assertTrace (.array (trace.map (·.toJs))) = .ok () ↔ ∀ entry ∈ trace, Admissible entry) ∧
    ∃ outcome, checkTrace runtime (.array (trace.map (·.toJs))) = .ok outcome ∧
      (outcome.passed = true ↔ ∀ entry ∈ trace, Admissible entry) := by
  intro ledger trace
  rcases TransitLedger.disciplined_empty.run calls with ⟨numbers, disciplined⟩
  rw [Nat.zero_add] at disciplined
  have inCustody := inCustody_of_disciplined disciplined
  have asserted : assertTrace (.array (trace.map (·.toJs))) = .ok () ↔
      ∀ entry ∈ trace, Admissible entry := assertTraceFrom_toJs inCustody
  refine ⟨TransitLedger.records_finalState .empty calls, disciplined.pairwise_lt,
    disciplined.nodup, disciplined.lt_allocated, disciplined.counter, ?_, ?_, inCustody, asserted,
    ?_⟩
  · intro before after presented error rejected
    exact TransitLedger.call_record_rejected rejected
  · change (executionTraceFromTransitRecords ledger.records).map _ = _
    rw [disciplined.executionTrace_eq, List.map_map]
    rfl
  · rcases @checkTrace_toJs runtime trace with ⟨outcome, returned, agree⟩
    exact ⟨outcome, returned, agree.trans asserted⟩

end GhostArk.Verifiers.NodeV2
