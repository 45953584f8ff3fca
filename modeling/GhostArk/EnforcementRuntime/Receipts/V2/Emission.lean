import GhostArk.EnforcementRuntime.Runtime.Lifecycle
import GhostArk.Js.Coercion
import GhostArk.Js.Collections

/-!
Contract: `packages/enforcement-runtime/src/receipts/v2/emission.ts`, validation.

Owns the execution trace made of gateway transit records, the assertions made of
a trace entry and of the input of a second-layer receipt, and what an accepted
input looks like.

The assertions read an untyped object: an input that came back from JSON passes
them with whatever its members hold. Does not own receipt identity or signing.
-/

namespace GhostArk.EnforcementRuntime.Receipts.V2

open Js
open Policy (property)
open EnforcementRuntime.Runtime (ProvenanceClass)

def v2Error (message : JsString) (context : List (JsString × JsValue)) : JsError :=
  ⟨.validationError, message,
    (js "domain", .string (js "ghost_ark.decision_receipt_v2.v1")) :: context⟩

/-- `/^[A-Za-z0-9._:-]{1,256}$/`. -/
def isToolName (value : JsString) : Bool :=
  1 ≤ value.length && value.length ≤ 256 &&
    value.all fun codeUnit => isAlphanumeric codeUnit || (js "._:-").contains codeUnit

def allowedTraceClasses : List JsString :=
  [js "GATEWAY_RECORDED", js "SOURCE_SIGNED", js "EXTERNALLY_ATTESTED"]

def isText (pattern : JsString → Bool) (value : JsValue) : Bool :=
  (readString value).any pattern

variable {pattern : JsString → Bool} {value : JsValue}

theorem isText_iff :
    isText pattern value = true ↔ ∃ text, value = .string text ∧ pattern text = true := by
  cases value <;> simp [isText, readString]

/-- `allowedTraceClasses.has(value)`. -/
def isAllowedTraceClass (value : JsValue) : Bool := isText allowedTraceClasses.contains value

structure TransitRecord where
  schemaVersion : JsString
  toolName : JsString
  sequenceNum : JsNumber
  requestDigest : JsString
  responseDigest : JsString
  /-- `responseEvidence.provenanceClass`. -/
  provenanceClass : ProvenanceClass
deriving DecidableEq, Repr

structure DecisionReceiptV2TraceEntry where
  sequence_num : JsNumber
  tool_name : JsString
  request_payload_digest : JsString
  response_payload_digest : JsString
  provenance_class : ProvenanceClass
deriving DecidableEq, Repr

def provenanceText : ProvenanceClass → JsString
  | .AGENT_ASSERTED => js "AGENT_ASSERTED"
  | .GATEWAY_RECORDED => js "GATEWAY_RECORDED"
  | .SOURCE_SIGNED => js "SOURCE_SIGNED"
  | .CROSS_WITNESSED => js "CROSS_WITNESSED"
  | .EXTERNALLY_ATTESTED => js "EXTERNALLY_ATTESTED"

def DecisionReceiptV2TraceEntry.toJs (entry : DecisionReceiptV2TraceEntry) : JsValue :=
  .object [(js "sequence_num", .number entry.sequence_num),
    (js "tool_name", .string entry.tool_name),
    (js "request_payload_digest", .string entry.request_payload_digest),
    (js "response_payload_digest", .string entry.response_payload_digest),
    (js "provenance_class", .string (provenanceText entry.provenance_class))]

def TransitRecord.toTraceEntry (record : TransitRecord) : DecisionReceiptV2TraceEntry where
  sequence_num := record.sequenceNum
  tool_name := record.toolName
  request_payload_digest := record.requestDigest
  response_payload_digest := record.responseDigest
  provenance_class := record.provenanceClass

/-- `left.sequenceNum - right.sequenceNum` is not positive. -/
def inSequence (left right : TransitRecord) : Prop :=
  JsNumber.lt right.sequenceNum left.sequenceNum = false

instance : DecidableRel inSequence := fun left right =>
  inferInstanceAs (Decidable (JsNumber.lt right.sequenceNum left.sequenceNum = false))

def executionTraceFromTransitRecords (records : List TransitRecord) :
    List DecisionReceiptV2TraceEntry :=
  (records.insertionSort inSequence).map TransitRecord.toTraceEntry

/-! ### Assertions -/

def assertDigest (name : JsString) (value : JsValue) (pattern : JsString → Bool) :
    Except JsError Unit :=
  if isText pattern value then .ok ()
  else
    .error (v2Error (name ++ js " has an invalid digest shape.")
      [(js "field", .string name), (js "value", value)])

theorem assertDigest_eq_ok_iff {name : JsString} {done : Unit} :
    assertDigest name value pattern = .ok done ↔ isText pattern value = true := by
  unfold assertDigest
  split <;> simp_all

def readSequenceNum : JsValue → Option Nat
  | .number number => number.safeNat?
  | _ => none

/-- Passes the guarded sequence number on. -/
def assertTraceEntry (entry : JsValue) (index : Nat) (previousSeq : Int) : Except JsError Nat := do
  let position : JsString × JsValue := (js "index", .number (.ofNat index))
  let some members := objectMembers entry
    | throw (v2Error (js "execution_trace entry must be an object.") [position])
  let some sequenceNum := readSequenceNum (property members "sequence_num")
    | throw (v2Error
        (js "execution_trace sequence_num must be a non-negative safe integer.") [position])
  if (sequenceNum : Int) ≤ previousSeq ∧ 0 < index then
    throw (v2Error (js "execution_trace sequence_num must be strictly increasing.")
      [position, (js "previous", .number (.finite previousSeq)),
        (js "observed", .number (.ofNat sequenceNum))])
  if !isText isToolName (property members "tool_name") then
    throw (v2Error (js "execution_trace tool_name must be 1-256 characters of URL-safe text.")
      [position])
  assertDigest (js "request_payload_digest") (property members "request_payload_digest")
    isReceiptHash
  assertDigest (js "response_payload_digest") (property members "response_payload_digest")
    isReceiptHash
  if !isAllowedTraceClass (property members "provenance_class") then
    throw (v2Error
      (js "execution_trace provenance_class must be an assignable non-agent class.")
      [position, (js "observed", property members "provenance_class")])
  return sequenceNum

/-- The loop over `input.execution_trace`, from a given index. -/
def assertTraceFrom : Nat → Int → List JsValue → Except JsError Unit
  | _, _, [] => .ok ()
  | index, previousSeq, entry :: rest => do
    let sequenceNum ← assertTraceEntry entry index previousSeq
    assertTraceFrom (index + 1) sequenceNum rest

/-- `input.execution_trace.forEach(...)`. -/
def assertTrace : JsValue → Except JsError Unit
  | .array entries => assertTraceFrom 0 (-1) entries
  | .undefined => .error (typeError (js "Cannot read properties of undefined (reading 'forEach')"))
  | .null => .error (typeError (js "Cannot read properties of null (reading 'forEach')"))
  | _ => .error (typeError (js "input.execution_trace.forEach is not a function"))

/-- A first receipt has `null` in place of a hash. -/
def assertPrevReceiptHash : JsValue → Except JsError Unit
  | .null => .ok ()
  | prev_receipt_hash => assertDigest (js "prev_receipt_hash") prev_receipt_hash isReceiptHash

theorem assertPrevReceiptHash_eq_ok_iff {done : Unit} :
    assertPrevReceiptHash value = .ok done ↔ value = .null ∨ isText isReceiptHash value = true := by
  unfold assertPrevReceiptHash
  split
  · simp
  · rw [assertDigest_eq_ok_iff]
    simp_all

section Input

variable (coercion : Coercion)

def assertBuildInput (input : List (JsString × JsValue)) : Except JsError Unit := do
  assertDigest (js "tenant_id_hash") (property input "tenant_id_hash") isDigest
  assertDigest (js "user_id_hash") (property input "user_id_hash") isDigest
  assertDigest (js "session_id_hash") (property input "session_id_hash") isDigest
  assertDigest (js "input_digest") (property input "input_digest") isDigest
  assertDigest (js "execution_context_hash") (property input "execution_context_hash")
    isReceiptHash
  if !(← coercion.test isHex64 (property input "policy_hash")) then
    throw (v2Error (js "policy_hash must be a bare 64-char sha256 hex.")
      [(js "field", .string (js "policy_hash"))])
  if !(← coercion.test isExecutionNonce (property input "execution_nonce")) then
    throw (v2Error (js "execution_nonce must be 8-256 characters of URL-safe text.")
      [(js "field", .string (js "execution_nonce"))])
  let digests ← iterate (js "input.retrieved_context_digests")
    (property input "retrieved_context_digests")
  digests.forM fun digest => assertDigest (js "retrieved_context_digest") digest isDigest
  assertTrace (property input "execution_trace")
  assertPrevReceiptHash (property input "prev_receipt_hash")

end Input

theorem assertTraceEntry_eq_ok_iff {entry : JsValue} {index sequenceNum : Nat}
    {previousSeq : Int} :
    assertTraceEntry entry index previousSeq = .ok sequenceNum ↔
      ∃ members, objectMembers entry = some members ∧
        readSequenceNum (property members "sequence_num") = some sequenceNum ∧
        ¬ ((sequenceNum : Int) ≤ previousSeq ∧ 0 < index) ∧
        isText isToolName (property members "tool_name") = true ∧
        isText isReceiptHash (property members "request_payload_digest") = true ∧
        isText isReceiptHash (property members "response_payload_digest") = true ∧
        isAllowedTraceClass (property members "provenance_class") = true := by
  unfold assertTraceEntry
  cases objectMembers entry with
  | none => simp
  | some members =>
    dsimp only
    cases sequenced : readSequenceNum (property members "sequence_num") with
    | none => simp [sequenced]
    | some number =>
      dsimp only
      simp only [check_eq_ok, bind_eq_ok, assertDigest_eq_ok_iff, pure_eq_ok,
        Option.some.injEq, exists_eq_left', Bool.not_eq_true', Bool.not_eq_false,
        exists_const, sequenced]
      constructor
      · rintro ⟨increasing, named, request, response, allowed, rfl⟩
        exact ⟨rfl, increasing, named, request, response, allowed⟩
      · rintro ⟨rfl, increasing, named, request, response, allowed⟩
        exact ⟨increasing, named, request, response, allowed, rfl⟩

theorem assertTraceFrom_cons_eq_ok_iff {index : Nat} {previousSeq : Int} {entry : JsValue}
    {rest : List JsValue} :
    assertTraceFrom index previousSeq (entry :: rest) = .ok () ↔
      ∃ sequenceNum, assertTraceEntry entry index previousSeq = .ok sequenceNum ∧
        assertTraceFrom (index + 1) sequenceNum rest = .ok () :=
  bind_eq_ok

theorem forM_assertDigest_eq_ok_iff {name : JsString} {digests : List JsValue} {done : Unit} :
    (digests.forM fun digest => assertDigest name digest pattern) = .ok done ↔
      ∀ digest ∈ digests, isText pattern digest = true := by
  cases done
  rw [forM_eq_ok_iff]
  exact forall₂_congr fun digest _ => assertDigest_eq_ok_iff

section Accepted

variable {coercion : Coercion}

theorem assertBuildInput_eq_ok_iff {input : List (JsString × JsValue)} :
    assertBuildInput coercion input = .ok () ↔
      isText isDigest (property input "tenant_id_hash") = true ∧
      isText isDigest (property input "user_id_hash") = true ∧
      isText isDigest (property input "session_id_hash") = true ∧
      isText isDigest (property input "input_digest") = true ∧
      isText isReceiptHash (property input "execution_context_hash") = true ∧
      coercion.test isHex64 (property input "policy_hash") = .ok true ∧
      coercion.test isExecutionNonce (property input "execution_nonce") = .ok true ∧
      (∃ digests, iterate (js "input.retrieved_context_digests")
          (property input "retrieved_context_digests") = .ok digests ∧
        ∀ digest ∈ digests, isText isDigest digest = true) ∧
      assertTrace (property input "execution_trace") = .ok () ∧
      (property input "prev_receipt_hash" = .null ∨
        isText isReceiptHash (property input "prev_receipt_hash") = true) := by
  unfold assertBuildInput
  simp only [check_eq_ok, bind_eq_ok, assertDigest_eq_ok_iff, forM_assertDigest_eq_ok_iff,
    assertPrevReceiptHash_eq_ok_iff, exists_const, Bool.not_eq_true', Bool.not_eq_false]
  constructor
  · rintro ⟨tenant, user, session, inputDigest, context, _, policy, rfl, _, nonce, rfl, digests,
      iterated, shapes, _, trace, previous⟩
    exact ⟨tenant, user, session, inputDigest, context, policy, nonce,
      ⟨digests, iterated, shapes⟩, trace, previous⟩
  · rintro ⟨tenant, user, session, inputDigest, context, policy, nonce,
      ⟨digests, iterated, shapes⟩, trace, previous⟩
    exact ⟨tenant, user, session, inputDigest, context, true, policy, rfl, true, nonce, rfl,
      digests, iterated, shapes, (), trace, previous⟩

end Accepted

end GhostArk.EnforcementRuntime.Receipts.V2
