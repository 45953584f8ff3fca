import GhostArk.ResearchFrontier.Verifier.StatelessVerifier

/-!
Contract: `CcCohortLedger.ingest` of
`packages/research-frontier/src/telemetry/ccCohortLedger.ts`.

Owns the verifier over witnesses of type `any`, the ledger of cohort traces, and when two envelopes
with one payload and one signature are ingested alike: the signature covers the payload, the trace
and the spent budget stand outside of it.

Does not own: what the operators of the language do with the members of a witness. They are a
parameter without assumptions.
-/

namespace GhostArk.ResearchFrontier.Telemetry

open Js
open ResearchFrontier.Occ (HostJson hashState isTruthy)
open ResearchFrontier.Unification (EPS)
open ResearchFrontier.Verifier (InvalidReason MAX_ITERATION_BUDGET ReceiptEnvelope
  VerificationResult isText property rational? rationals?)

/-- Operators on the members of a witness, which may be any values and may throw. -/
structure WitnessOperators where
  /-- `value < bound`. -/
  lessThan : JsValue → JsNumber → Except JsError Bool
  /-- `marginals.reduce((a, b) => a + b, 0)`. -/
  sumOf : JsValue → Except JsError JsValue
  /-- `Math.abs(sum - claimed) > EPS`. -/
  differs : JsValue → JsValue → Except JsError Bool
  /-- `sum <= 1.0 + EPS`. -/
  atMostOne : JsValue → Except JsError Bool

section Verifier

variable (operators : WitnessOperators)

def verifyUndecidable (witness : JsValue) (iterationBudgetSpent : JsNumber) :
    Except JsError VerificationResult := do
  if !isTruthy witness || !isText (property witness (js "type")) (js "ChaitinGenerator") then
    return .INVALID .MATH_CONTRADICTION
  else if ← operators.lessThan (property witness (js "iterationsExhausted"))
      (.ofNat MAX_ITERATION_BUDGET) then
    return .INVALID .BUDGET_MISMATCH
  else if iterationBudgetSpent.lt (.ofNat MAX_ITERATION_BUDGET) then
    return .INVALID .BUDGET_MISMATCH
  else return .VALID .CHAI

def verifyAbort (witness : JsValue) : Except JsError VerificationResult := do
  if !isTruthy witness || !isText (property witness (js "type")) (js "KripkeModel") then
    return .VALID .COMMIT
  else
    let sum ← operators.sumOf (property witness (js "marginals"))
    if ← operators.differs sum (property witness (js "sum")) then
      return .INVALID .MATH_CONTRADICTION
    else if ← operators.atMostOne sum then return .INVALID .MATH_CONTRADICTION
    else return .VALID .KRIPKE

def isUndecidable (payload : List (JsString × JsValue)) : Bool :=
  isText (readProperty payload (js "status")) (js "EVALUATION_UNDECIDABLE")

def verifyPayload (payload : List (JsString × JsValue)) (iterationBudgetSpent : JsNumber) :
    Except JsError VerificationResult :=
  let witness := readProperty payload (js "witness")
  if isText (readProperty payload (js "status")) (js "COMMIT") then .ok (.VALID .COMMIT)
  else if isUndecidable payload then verifyUndecidable operators witness iterationBudgetSpent
  else if isText (readProperty payload (js "status")) (js "ABORT") then
    verifyAbort operators witness
  else .ok (.INVALID .MATH_CONTRADICTION)

variable (runtime : Runtime) (hostJson : HostJson) (hmacSha256 : HmacSha256)

def verifyEnvelope (envelope : ReceiptEnvelope) (devKey : JsString) :
    Except JsError VerificationResult := do
  let payloadStr ← hashState runtime hostJson (.object envelope.payload)
  if envelope.signature = hmacSha256.hmacHex devKey payloadStr then
    verifyPayload operators envelope.payload envelope.iterationBudgetSpent
  else return .INVALID .HMAC_FAILURE

end Verifier

/-! ### The ledger -/

/-- An envelope as far as the verifier and the ledger read it. -/
structure CohortEnvelope extends ReceiptEnvelope where
  /-- Of the telemetry. -/
  empiricalTrace : Option (List Bool)

structure CcCohortLedger where
  traces : List (List Bool)
  devKey : JsString

def reasonText : InvalidReason → JsString
  | .HMAC_FAILURE => js "HMAC_FAILURE"
  | .MATH_CONTRADICTION => js "MATH_CONTRADICTION"
  | .BUDGET_MISMATCH => js "BUDGET_MISMATCH"

def unverifiedCohortContamination (reason : InvalidReason) : JsError :=
  ⟨.external (js "Error"), js "UNVERIFIED_COHORT_CONTAMINATION: Envelope cryptographic or " ++
    js "refutation proof failed. Reason: " ++ reasonText reason, []⟩

/-- `this.traces.push(trace)`, if there is one. -/
def CcCohortLedger.push (ledger : CcCohortLedger) (empiricalTrace : Option (List Bool)) :
    CcCohortLedger :=
  { ledger with traces := ledger.traces ++ empiricalTrace.toList }

section Ledger

variable (operators : WitnessOperators) (runtime : Runtime) (hostJson : HostJson)
  (hmacSha256 : HmacSha256)

def ingest (ledger : CcCohortLedger) (envelope : CohortEnvelope) :
    Except JsError CcCohortLedger := do
  match ← verifyEnvelope operators runtime hostJson hmacSha256 envelope.toReceiptEnvelope
      ledger.devKey with
  | .INVALID reason => throw (unverifiedCohortContamination reason)
  | .VALID _ => return ledger.push envelope.empiricalTrace

/-- Ingestion rejects both envelopes, or appends the same for both. -/
def IngestedAlike (ledger : CcCohortLedger) (left right : CohortEnvelope) : Prop :=
  (∀ next, ingest operators runtime hostJson hmacSha256 ledger left ≠ .ok next ∧
      ingest operators runtime hostJson hmacSha256 ledger right ≠ .ok next) ∨
    ∃ next, ingest operators runtime hostJson hmacSha256 ledger left = .ok next ∧
      ingest operators runtime hostJson hmacSha256 ledger right = .ok next

/-- Of an envelope, what its signature covers is in order: the verifier accepts the payload and
the signature with a full budget. -/
def CoveredPartVerifies (ledger : CcCohortLedger) (payload : List (JsString × JsValue))
    (signature : JsString) : Prop :=
  ∃ verifiedWitnessType, verifyEnvelope operators runtime hostJson hmacSha256
    ⟨.ofNat MAX_ITERATION_BUDGET, payload, signature⟩ ledger.devKey =
      .ok (.VALID verifiedWitnessType)

end Ledger

/-- The spent budget is too small. -/
def BelowBudget (envelope : CohortEnvelope) : Prop :=
  envelope.iterationBudgetSpent.lt (.ofNat MAX_ITERATION_BUDGET) = true

/-- The telemetry agrees as far as a receipt of this kind consults it: an undecidable one on the
side of the budget, and every ingested one on the trace. -/
def TelemetryAgrees (left right : CohortEnvelope) : Prop :=
  if isUndecidable left.payload then
    (BelowBudget left ∧ BelowBudget right) ∨
      (¬ BelowBudget left ∧ ¬ BelowBudget right ∧ left.empiricalTrace = right.empiricalTrace)
  else left.empiricalTrace = right.empiricalTrace

section Verification

variable {operators : WitnessOperators} {runtime : Runtime} {hostJson : HostJson}
  {hmacSha256 : HmacSha256}

theorem verifyUndecidable_valid_iff {witness : JsValue} {iterationBudgetSpent : JsNumber} :
    (∃ verifiedWitnessType, verifyUndecidable operators witness iterationBudgetSpent =
        .ok (.VALID verifiedWitnessType)) ↔
      ((isTruthy witness = true ∧
          isText (property witness (js "type")) (js "ChaitinGenerator") = true) ∧
        operators.lessThan (property witness (js "iterationsExhausted"))
          (.ofNat MAX_ITERATION_BUDGET) = .ok false) ∧
      ¬ iterationBudgetSpent.lt (.ofNat MAX_ITERATION_BUDGET) = true := by
  unfold verifyUndecidable
  by_cases generator : isTruthy witness = true ∧
      isText (property witness (js "type")) (js "ChaitinGenerator") = true
  · have isGenerator : (!isTruthy witness ||
        !isText (property witness (js "type")) (js "ChaitinGenerator")) = false := by
      rw [generator.1, generator.2]
      rfl
    rw [isGenerator, if_neg Bool.false_ne_true, and_iff_right generator]
    cases operators.lessThan (property witness (js "iterationsExhausted"))
        (.ofNat MAX_ITERATION_BUDGET) with
    | error error => exact iff_of_false (by rintro ⟨_, ⟨⟩⟩) (by rintro ⟨⟨⟩, _⟩)
    | ok below =>
      rw [ok_bind]
      cases below with
      | true => exact iff_of_false (by rintro ⟨_, ⟨⟩⟩) (by rintro ⟨⟨⟩, _⟩)
      | false =>
        rw [if_neg Bool.false_ne_true]
        split
        next small => exact iff_of_false (by rintro ⟨_, ⟨⟩⟩) fun both => both.2 small
        next enough => exact iff_of_true ⟨_, rfl⟩ ⟨rfl, enough⟩
  · have notGenerator : (!isTruthy witness ||
        !isText (property witness (js "type")) (js "ChaitinGenerator")) = true := by
      rw [Bool.or_eq_true, Bool.not_eq_true', Bool.not_eq_true', ← Bool.not_eq_true,
        ← Bool.not_eq_true]
      exact not_and_or.mp generator
    rw [notGenerator, if_pos rfl]
    exact iff_of_false (by rintro ⟨_, ⟨⟩⟩) fun both => generator both.1.1

theorem not_isUndecidable_of_commit {payload : List (JsString × JsValue)}
    (isCommit : isText (readProperty payload (js "status")) (js "COMMIT") = true) :
    isUndecidable payload = false := by
  unfold isUndecidable
  cases isStatus : readProperty payload (js "status") with
  | string status =>
    rw [isStatus] at isCommit
    rw [show status = js "COMMIT" from of_decide_eq_true isCommit]
    decide
  | _ => rfl

theorem verifyEnvelope_valid_iff (ledger : CcCohortLedger) (envelope : CohortEnvelope) :
    (∃ verifiedWitnessType, verifyEnvelope operators runtime hostJson hmacSha256
        envelope.toReceiptEnvelope ledger.devKey = .ok (.VALID verifiedWitnessType)) ↔
      CoveredPartVerifies operators runtime hostJson hmacSha256 ledger envelope.payload
          envelope.signature ∧
        (isUndecidable envelope.payload = true → ¬ BelowBudget envelope) := by
  have full : ¬ (JsNumber.ofNat MAX_ITERATION_BUDGET).lt (.ofNat MAX_ITERATION_BUDGET) = true := by
    decide
  unfold CoveredPartVerifies verifyEnvelope
  dsimp only
  cases hashState runtime hostJson (.object envelope.payload) with
  | error error => exact iff_of_false (by rintro ⟨_, ⟨⟩⟩) (by rintro ⟨⟨_, ⟨⟩⟩, _⟩)
  | ok payloadStr =>
    rw [ok_bind, ok_bind]
    split
    next =>
      unfold verifyPayload
      dsimp only
      split
      next isCommit =>
        rw [not_isUndecidable_of_commit isCommit]
        exact iff_of_true ⟨_, rfl⟩ ⟨⟨_, rfl⟩, by rintro ⟨⟩⟩
      next =>
        split
        next undecidable =>
          rw [verifyUndecidable_valid_iff, verifyUndecidable_valid_iff, and_iff_left full,
            forall_prop_of_true undecidable]
          rfl
        next decided => rw [and_iff_left fun undecidable => absurd undecidable decided]
    next => exact iff_of_false (by rintro ⟨_, ⟨⟩⟩) (by rintro ⟨⟨_, ⟨⟩⟩, _⟩)

theorem ingest_eq_ok_iff {ledger next : CcCohortLedger} {envelope : CohortEnvelope} :
    ingest operators runtime hostJson hmacSha256 ledger envelope = .ok next ↔
      (∃ verifiedWitnessType, verifyEnvelope operators runtime hostJson hmacSha256
        envelope.toReceiptEnvelope ledger.devKey = .ok (.VALID verifiedWitnessType)) ∧
      next = ledger.push envelope.empiricalTrace := by
  unfold ingest
  cases verifyEnvelope operators runtime hostJson hmacSha256 envelope.toReceiptEnvelope
      ledger.devKey with
  | error error => exact iff_of_false (by rintro ⟨⟩) (by rintro ⟨⟨_, ⟨⟩⟩, _⟩)
  | ok result =>
    cases result with
    | INVALID reason => exact iff_of_false (by rintro ⟨⟩) (by rintro ⟨⟨_, ⟨⟩⟩, _⟩)
    | VALID verifiedWitnessType =>
      rw [and_iff_right ⟨verifiedWitnessType, rfl⟩]
      exact pure_eq_ok.trans eq_comm

variable {ledger : CcCohortLedger}

theorem push_injective {left right : Option (List Bool)}
    (same : ledger.push left = ledger.push right) : left = right := by
  have traces : ledger.traces ++ left.toList = ledger.traces ++ right.toList :=
    congrArg CcCohortLedger.traces same
  have lists := List.append_cancel_left traces
  cases left with
  | none =>
    cases right with
    | none => rfl
    | some trace => cases lists
  | some trace =>
    cases right with
    | none => cases lists
    | some other => rw [List.singleton_inj.mp lists]

theorem ingestedAlike_iff_taken {left right : CohortEnvelope} :
    IngestedAlike operators runtime hostJson hmacSha256 ledger left right ↔
      (¬ (∃ next, ingest operators runtime hostJson hmacSha256 ledger left = .ok next) ∧
          ¬ ∃ next, ingest operators runtime hostJson hmacSha256 ledger right = .ok next) ∨
        ((∃ next, ingest operators runtime hostJson hmacSha256 ledger left = .ok next) ∧
          (∃ next, ingest operators runtime hostJson hmacSha256 ledger right = .ok next) ∧
          left.empiricalTrace = right.empiricalTrace) := by
  unfold IngestedAlike
  rw [forall_and, not_exists, not_exists]
  refine or_congr Iff.rfl ⟨?_, ?_⟩
  · rintro ⟨next, isLeft, isRight⟩
    have pushed := (ingest_eq_ok_iff.mp isLeft).2.symm.trans (ingest_eq_ok_iff.mp isRight).2
    exact ⟨⟨next, isLeft⟩, ⟨next, isRight⟩, push_injective pushed⟩
  · rintro ⟨⟨next, isLeft⟩, ⟨other, isRight⟩, sameTrace⟩
    have isNext := (ingest_eq_ok_iff.mp isLeft).2
    have isOther := (ingest_eq_ok_iff.mp isRight).2
    rw [isOther, ← sameTrace, ← isNext] at isRight
    exact ⟨next, isLeft, isRight⟩

/-- An envelope is taken if its covered part verifies and, undecidable, it spent its budget. -/
theorem exists_ingest_iff {envelope : CohortEnvelope} :
    (∃ next, ingest operators runtime hostJson hmacSha256 ledger envelope = .ok next) ↔
      CoveredPartVerifies operators runtime hostJson hmacSha256 ledger envelope.payload
          envelope.signature ∧
        (isUndecidable envelope.payload = true → ¬ BelowBudget envelope) := by
  rw [← verifyEnvelope_valid_iff]
  simp only [ingest_eq_ok_iff, exists_and_left, exists_eq, and_true]

end Verification

/-- **Authentication of traces.** Two envelopes with one payload and one signature are ingested
alike exactly when the covered part does not verify, or their telemetry agrees. -/
theorem ingestedAlike_iff (operators : WitnessOperators) (runtime : Runtime) (hostJson : HostJson)
    (hmacSha256 : HmacSha256) (ledger : CcCohortLedger) {left right : CohortEnvelope}
    (samePayload : left.payload = right.payload)
    (sameSignature : left.signature = right.signature) :
    IngestedAlike operators runtime hostJson hmacSha256 ledger left right ↔
      (CoveredPartVerifies operators runtime hostJson hmacSha256 ledger left.payload
        left.signature → TelemetryAgrees left right) := by
  rw [ingestedAlike_iff_taken, exists_ingest_iff, exists_ingest_iff, ← samePayload, ← sameSignature]
  unfold TelemetryAgrees
  by_cases covered : CoveredPartVerifies operators runtime hostJson hmacSha256 ledger left.payload
      left.signature
  · rw [forall_prop_of_true covered]
    cases isUndecidable left.payload with
    | true => simp only [covered, true_and, forall_const, not_not, if_true]
    | false => simp [covered]
  · exact iff_of_true (Or.inl ⟨fun both => covered both.1, fun both => covered both.1⟩)
      fun verifies => absurd verifies covered

/-- The operators on numbers, in exact arithmetic; on other values they throw. -/
def exactOperators : WitnessOperators where
  lessThan value bound :=
    match value with
    | .number own => .ok (own.lt bound)
    | _ => .error (typeError (js "not a number"))
  sumOf value :=
    match rationals? value with
    | some marginals => .ok (.number (.finite (marginals.foldl (· + ·) 0)))
    | none => .error (typeError (js "not an array of finite numbers"))
  differs sum claimed :=
    match rational? sum, rational? claimed with
    | some own, some other => .ok (decide (EPS < |own - other|))
    | _, _ => .error (typeError (js "not a finite number"))
  atMostOne sum :=
    match rational? sum with
    | some own => .ok (decide (own ≤ 1 + EPS))
    | none => .error (typeError (js "not a finite number"))

namespace CohortSample

open ResearchFrontier.Occ (OccSample.runtime OccSample.hostJson)

def ledger : CcCohortLedger := ⟨[], js "key"⟩

def payload : List (JsString × JsValue) :=
  [(js "status", .string (js "COMMIT")), (js "writeCount", .number (.ofNat 1))]

def committed (iterationBudgetSpent : Nat) (signature : JsString) (trace : List Bool) :
    CohortEnvelope :=
  ⟨⟨.ofNat iterationBudgetSpent, payload, signature⟩, some trace⟩

theorem exists_digest :
    ∃ digest, hashState OccSample.runtime OccSample.hostJson (.object payload) = .ok digest :=
  exists_eq_ok (by decide +kernel)

theorem coveredPartVerifies {digest : JsString}
    (isDigest : hashState OccSample.runtime OccSample.hostJson (.object payload) = .ok digest) :
    CoveredPartVerifies exactOperators OccSample.runtime OccSample.hostJson fips198 ledger payload
      (fips198.hmacHex ledger.devKey digest) := by
  refine ⟨.COMMIT, ?_⟩
  unfold verifyEnvelope
  rw [isDigest, ok_bind]
  exact if_pos rfl

/-- A signed receipt with one trace, under two spent budgets. -/
theorem ingestedAlike_iff_committed :
    ∃ signature,
      CoveredPartVerifies exactOperators OccSample.runtime OccSample.hostJson fips198 ledger payload
          signature ∧
        IngestedAlike exactOperators OccSample.runtime OccSample.hostJson fips198 ledger
          (committed 10 signature [true]) (committed 20 signature [true]) := by
  rcases exists_digest with ⟨digest, isDigest⟩
  exact ⟨_, coveredPartVerifies isDigest, (ingestedAlike_iff exactOperators OccSample.runtime
    OccSample.hostJson fips198 ledger rfl rfl).mpr fun _ => rfl⟩

/-- The trace of an accepted envelope is edited without a new signature. -/
theorem trace_edited :
    ¬ ∀ (ledger : CcCohortLedger) (left right : CohortEnvelope), left.payload = right.payload →
      left.signature = right.signature →
        IngestedAlike exactOperators OccSample.runtime OccSample.hostJson fips198 ledger left
          right := by
  intro authenticated
  rcases exists_digest with ⟨digest, isDigest⟩
  let signature := fips198.hmacHex ledger.devKey digest
  have alike :=
    authenticated ledger (committed 10 signature [true]) (committed 10 signature [false]) rfl rfl
  have taken : ∀ trace, ∃ next, ingest exactOperators OccSample.runtime OccSample.hostJson fips198
      ledger (committed 10 signature trace) = .ok next := by
    intro trace
    have decided : ¬ isUndecidable payload = true := by decide
    exact exists_ingest_iff.mpr
      ⟨coveredPartVerifies isDigest, fun undecidable => absurd undecidable decided⟩
  rcases ingestedAlike_iff_taken.mp alike with ⟨rejected, -⟩ | ⟨-, -, sameTrace⟩
  · exact rejected (taken [true])
  · cases sameTrace

end CohortSample

end GhostArk.ResearchFrontier.Telemetry
