import GhostArk.ResearchFrontier.Occ.Serializability
import GhostArk.ResearchFrontier.Unification.StoppingGate

/-!
Contract: `verifyEnvelope` of `packages/research-frontier/src/verifier/statelessVerifier.ts`.

Owns the receipts of the gate as objects, the envelope as far as the verifier reads it, the
checks of each kind of receipt, and the agreement with the gate: refutations of the gate
verify, and verified refutations have no feasible point.

Arithmetic is exact and the tolerance is zero. Does not own: members of an envelope that the
verifier leaves alone, and witnesses whose numbers are not numbers.
-/

namespace GhostArk.ResearchFrontier.Verifier

open Js
open ResearchFrontier.Occ (HostJson UnionStatus CommitOutcome CommitResult LpStatus
  WorldState GhostReplica hashState isTruthy stringify stringifyEntries textMembers)
open ResearchFrontier.Unification (EPS HasDistribution IsFeasiblePoint IsUnionStatus
  hasDistribution_iff stoppingStatus unionStatus_eq)

def receiptOf : CommitOutcome → List (JsString × JsValue)
  | .commit writeCount =>
    [(js "status", .string (js "COMMIT")), (js "writeCount", .number (.ofNat writeCount))]
  | .conflict conflicts =>
    [(js "status", .string (js "ABORT")),
      (js "reason", .string (((CommitOutcome.conflict conflicts).reason).getD [])),
      (js "conflicts", .array (conflicts.map .string))]
  | .undecidable witness =>
    [(js "status", .string (js "EVALUATION_UNDECIDABLE")),
      (js "reason", .string (((CommitOutcome.undecidable witness).reason).getD [])),
      (js "lpStatus", .string LpStatus.EVALUATION_UNDECIDABLE.text), (js "witness", witness)]
  | .refuted witness =>
    [(js "status", .string (js "ABORT")),
      (js "reason", .string (((CommitOutcome.refuted witness).reason).getD [])),
      (js "lpStatus", .string LpStatus.INFEASIBLE.text), (js "witness", witness)]

/-- The witness of an impossible configuration, with the exact sum. -/
def refutedWitness (failureMarginals : List ℚ) : JsValue :=
  .object [(js "type", .string (js "KripkeModel")), (js "world", .string (js "W_refuted")),
    (js "marginals", .array (failureMarginals.map fun marginal => .number (.finite marginal))),
    (js "sum", .number (.finite (failureMarginals.foldl (· + ·) 0)))]

/-! ### The verifier -/

inductive VerifiedWitnessType where
  | CHAI
  | KRIPKE
  | COMMIT
deriving DecidableEq

inductive InvalidReason where
  | HMAC_FAILURE
  | MATH_CONTRADICTION
  | BUDGET_MISMATCH
deriving DecidableEq

inductive VerificationResult where
  | VALID (verifiedWitnessType : VerifiedWitnessType)
  | INVALID (reason : InvalidReason)
deriving DecidableEq

structure ReceiptEnvelope where
  /-- Of the telemetry. -/
  iterationBudgetSpent : JsNumber
  payload : List (JsString × JsValue)
  signature : JsString

def MAX_ITERATION_BUDGET : ℕ := 1000

/-- `value[key]` of a value that is an object or has no such member. -/
def property (value : JsValue) (key : JsString) : JsValue :=
  match value with
  | .object entries => readProperty entries key
  | _ => .undefined

/-- `value === text`. -/
def isText (value : JsValue) (text : JsString) : Bool :=
  match value with
  | .string own => own = text
  | _ => false

def number? : JsValue → Option JsNumber
  | .number value => some value
  | _ => none

def rational? : JsValue → Option ℚ
  | .number (.finite value) => some value
  | _ => none

/-- The numbers of an array of finite numbers. -/
def rationals? : JsValue → Option (List ℚ)
  | .array items => items.mapM rational?
  | _ => none

/-- The check of an exceeded budget; none for a witness that counts in something else. -/
def verifyUndecidable (witness : JsValue) (iterationBudgetSpent : JsNumber) :
    Option VerificationResult :=
  if !isTruthy witness || !isText (property witness (js "type")) (js "ChaitinGenerator") then
    some (.INVALID .MATH_CONTRADICTION)
  else
    (number? (property witness (js "iterationsExhausted"))).map fun iterationsExhausted =>
      if iterationsExhausted.lt (.ofNat MAX_ITERATION_BUDGET) then .INVALID .BUDGET_MISMATCH
      else if iterationBudgetSpent.lt (.ofNat MAX_ITERATION_BUDGET) then .INVALID .BUDGET_MISMATCH
      else .VALID .CHAI

def verifyKripke (marginals : List ℚ) (claimed : ℚ) : VerificationResult :=
  let sum := marginals.foldl (· + ·) 0
  if EPS < |sum - claimed| then .INVALID .MATH_CONTRADICTION
  else if sum ≤ 1 + EPS then .INVALID .MATH_CONTRADICTION
  else .VALID .KRIPKE

/-- The check of an abort; none for a model that is not made of numbers. -/
def verifyAbort (witness : JsValue) : Option VerificationResult :=
  if !isTruthy witness || !isText (property witness (js "type")) (js "KripkeModel") then
    some (.VALID .COMMIT)
  else
    match rationals? (property witness (js "marginals")), rational? (property witness (js "sum")) with
    | some marginals, some claimed => some (verifyKripke marginals claimed)
    | _, _ => none

def verifyPayload (envelope : ReceiptEnvelope) : Option VerificationResult :=
  let status := readProperty envelope.payload (js "status")
  let witness := readProperty envelope.payload (js "witness")
  if isText status (js "COMMIT") then some (.VALID .COMMIT)
  else if isText status (js "EVALUATION_UNDECIDABLE") then
    verifyUndecidable witness envelope.iterationBudgetSpent
  else if isText status (js "ABORT") then verifyAbort witness
  else some (.INVALID .MATH_CONTRADICTION)

section Verifier

variable (runtime : Runtime) (hostJson : HostJson) (hmacSha256 : HmacSha256)

def verifyEnvelope (envelope : ReceiptEnvelope) (devKey : JsString) :
    Except JsError (Option VerificationResult) := do
  let payloadStr ← hashState runtime hostJson (.object envelope.payload)
  if envelope.signature = hmacSha256.hmacHex devKey payloadStr then
    return verifyPayload envelope
  else
    return some (.INVALID .HMAC_FAILURE)

variable (unionStatus : UnionStatus)

/-- `OccGate.commit` in exact arithmetic: of what it returns, the sum of a witness alone is
rounded. -/
def commit (world : WorldState) (replica : GhostReplica) (failureMarginals : List ℚ)
    (payloadContext : JsValue) (maxIterations : JsNumber) : CommitResult :=
  let result := Occ.commit runtime hostJson unionStatus world replica
    (failureMarginals.map .finite) payloadContext maxIterations
  { result with
    outcome := result.outcome.map fun
      | .refuted _ => .refuted (refutedWitness failureMarginals)
      | other => other }

end Verifier

section Digests

variable {runtime : Runtime} {hostJson : HostJson}

theorem exists_textMembers {members : List (JsString × Except JsError (Option JsString))}
    (rendered : ∀ member ∈ members, ∃ text, member.2 = .ok text) :
    ∃ texts, textMembers members = .ok texts := by
  induction members with
  | nil => exact ⟨[], rfl⟩
  | cons first rest ih =>
    rcases first with ⟨key, own⟩
    rcases rendered _ List.mem_cons_self with ⟨text, isText⟩
    rcases ih fun member inRest => rendered member (List.mem_cons_of_mem _ inRest)
      with ⟨texts, isTexts⟩
    have isOwn : own = .ok text := isText
    rw [textMembers, isOwn, isTexts]
    exact ⟨_, rfl⟩

theorem exists_stringify_object {entries : List (JsString × JsValue)}
    (rendered : ∀ member ∈ stringifyEntries runtime hostJson .sortsKeys entries,
      ∃ text, member.2 = .ok text) :
    ∃ text, stringify runtime hostJson .sortsKeys (.object entries) = .ok (some text) := by
  have ordered : ∀ member ∈ Occ.Replacer.order .sortsKeys
      (stringifyEntries runtime hostJson .sortsKeys entries), ∃ text, member.2 = .ok text := by
    intro member inOrder
    have sorted := mem_objectOrder.mp inOrder
    have kept := (ReceiptSchema.perm_sortEntries _).mem_iff.mp sorted
    exact rendered member (List.mem_of_mem_filter kept)
  rcases exists_textMembers ordered with ⟨texts, isTexts⟩
  rw [stringify, isTexts]
  exact ⟨_, rfl⟩

variable (runtime) (hostJson)

theorem exists_stringifyItems (numbers : List ℚ) :
    ∃ texts, Occ.stringifyItems runtime hostJson .sortsKeys
      (numbers.map fun number => .number (.finite number)) = .ok texts := by
  induction numbers with
  | nil => exact ⟨[], rfl⟩
  | cons first rest ih =>
    rcases ih with ⟨texts, isTexts⟩
    rw [List.map_cons, Occ.stringifyItems, stringify, isTexts]
    exact ⟨_, rfl⟩

theorem exists_stringify_refutedWitness (failureMarginals : List ℚ) :
    ∃ text, stringify runtime hostJson .sortsKeys (refutedWitness failureMarginals) =
      .ok (some text) := by
  rcases exists_stringifyItems runtime hostJson failureMarginals with ⟨texts, isTexts⟩
  refine exists_stringify_object fun member inMembers => ?_
  simp only [stringifyEntries, List.mem_cons, List.not_mem_nil, or_false] at inMembers
  rcases inMembers with rfl | rfl | rfl | rfl
  · rw [stringify]
    exact ⟨_, rfl⟩
  · rw [stringify]
    exact ⟨_, rfl⟩
  · rw [stringify, isTexts]
    exact ⟨_, rfl⟩
  · rw [stringify]
    exact ⟨_, rfl⟩

theorem exists_hashState_refuted (failureMarginals : List ℚ) :
    ∃ digest, hashState runtime hostJson
      (.object (receiptOf (.refuted (refutedWitness failureMarginals)))) = .ok digest := by
  rcases exists_stringify_refutedWitness runtime hostJson failureMarginals
    with ⟨witness, isWitness⟩
  obtain ⟨text, isText⟩ : ∃ text, stringify runtime hostJson .sortsKeys
      (.object (receiptOf (.refuted (refutedWitness failureMarginals)))) = .ok (some text) := by
    refine exists_stringify_object fun member inMembers => ?_
    simp only [receiptOf, stringifyEntries, List.mem_cons, List.not_mem_nil, or_false]
      at inMembers
    rcases inMembers with rfl | rfl | rfl | rfl
    · rw [stringify]
      exact ⟨_, rfl⟩
    · rw [stringify]
      exact ⟨_, rfl⟩
    · rw [stringify]
      exact ⟨_, rfl⟩
    · exact ⟨_, isWitness⟩
  simp only [hashState, isText]
  exact ⟨_, rfl⟩

end Digests

/-! ### Agreement -/

theorem rationals?_map (numbers : List ℚ) :
    rationals? (.array (numbers.map fun number => .number (.finite number))) = some numbers := by
  rw [rationals?]
  induction numbers with
  | nil => rfl
  | cons first rest ih =>
    rw [List.map_cons, List.mapM_cons, ih]
    rfl

theorem foldl_add (numbers : List ℚ) : numbers.foldl (· + ·) 0 = numbers.sum :=
  List.sum_eq_foldl.symm

theorem verifyKripke_eq_valid_iff {marginals : List ℚ} {claimed : ℚ} :
    verifyKripke marginals claimed = .VALID .KRIPKE ↔
      claimed = marginals.sum ∧ 1 < marginals.sum := by
  rw [verifyKripke]
  simp only [foldl_add, EPS, abs_pos, sub_ne_zero, add_zero]
  by_cases same : marginals.sum = claimed
  · rw [if_neg (not_not.mpr same)]
    by_cases above : 1 < marginals.sum
    · rw [if_neg (not_le.mpr above)]
      exact ⟨fun _ => ⟨same.symm, above⟩, fun _ => rfl⟩
    · rw [if_pos (not_lt.mp above)]
      exact ⟨VerificationResult.noConfusion, fun both => absurd both.2 above⟩
  · rw [if_pos same]
    exact ⟨VerificationResult.noConfusion, fun both => absurd both.1.symm same⟩

theorem verifyPayload_refuted (failureMarginals : List ℚ) (iterationBudgetSpent : JsNumber)
    (signature : JsString) :
    verifyPayload ⟨iterationBudgetSpent, receiptOf (.refuted (refutedWitness failureMarginals)),
      signature⟩ = some (verifyKripke failureMarginals (failureMarginals.foldl (· + ·) 0)) := by
  have isModel : property (refutedWitness failureMarginals) (js "type") =
      .string (js "KripkeModel") := rfl
  have isArray : property (refutedWitness failureMarginals) (js "marginals") =
      .array (failureMarginals.map fun marginal => .number (.finite marginal)) := rfl
  have isSum : property (refutedWitness failureMarginals) (js "sum") =
      .number (.finite (failureMarginals.foldl (· + ·) 0)) := rfl
  have abort : verifyPayload ⟨iterationBudgetSpent,
      receiptOf (.refuted (refutedWitness failureMarginals)), signature⟩ =
      verifyAbort (refutedWitness failureMarginals) := rfl
  rw [abort, verifyAbort, isModel, isArray, isSum, rationals?_map]
  rfl

theorem exists_of_verifyPayload {envelope : ReceiptEnvelope}
    (verified : verifyPayload envelope = some (.VALID .KRIPKE)) :
    ∃ marginals, rationals? (property (readProperty envelope.payload (js "witness"))
      (js "marginals")) = some marginals ∧ 1 < marginals.sum := by
  rw [verifyPayload] at verified
  split at verified
  next => cases verified
  next =>
    split at verified
    next =>
      -- a generator is never verified as a model
      rw [verifyUndecidable] at verified
      split at verified
      next => cases verified
      next =>
        rcases Option.map_eq_some_iff.mp verified with ⟨iterations, _, result⟩
        split at result
        next => cases result
        next =>
          split at result
          next => cases result
          next => cases result
    next =>
      split at verified
      next =>
        rw [verifyAbort] at verified
        split at verified
        next => cases verified
        next =>
          split at verified
          next marginals claimed areNumbers isNumber =>
            have model := verifyKripke_eq_valid_iff.mp (Option.some.inj verified)
            exact ⟨marginals, areNumbers, model.2⟩
          next => cases verified
      next => cases verified

section Gate

variable {runtime : Runtime} {hostJson : HostJson} {unionStatus : UnionStatus}
  {world : WorldState} {replica : GhostReplica} {payloadContext : JsValue}
  {maxIterations : JsNumber} {witness : JsValue}

theorem infeasible_of_refuted {failureMarginals : List JsNumber}
    (refuted : (Occ.commit runtime hostJson unionStatus world replica failureMarginals
      payloadContext maxIterations).outcome = .ok (.refuted witness)) :
    unionStatus failureMarginals maxIterations = .INFEASIBLE := by
  have committed {world : WorldState} : (Occ.commitWrites runtime hostJson world replica).outcome ≠
      .ok (.refuted witness) := by
    rw [Occ.commitWrites]
    split
    · intro same
      cases same
    · intro same
      cases Except.ok.inj same
  rw [Occ.commit] at refuted
  split at refuted
  next => cases Except.ok.inj refuted
  next =>
    split at refuted
    next => exact absurd refuted committed
    next =>
      split at refuted
      next =>
        cases undecidable : Occ.undecidableWitness runtime hostJson payloadContext maxIterations with
        | error error =>
          rw [undecidable] at refuted
          cases refuted
        | ok witness' =>
          rw [undecidable] at refuted
          cases Except.ok.inj refuted
      next isInfeasible => exact isInfeasible
      next => exact absurd refuted committed

theorem refuted_of_commit {failureMarginals : List ℚ} (isUnionStatus : IsUnionStatus unionStatus)
    (refuted : (commit runtime hostJson unionStatus world replica failureMarginals payloadContext
      maxIterations).outcome = .ok (.refuted witness)) :
    witness = refutedWitness failureMarginals ∧ 1 < failureMarginals.sum := by
  cases returned : (Occ.commit runtime hostJson unionStatus world replica
      (failureMarginals.map .finite) payloadContext maxIterations).outcome with
  | error error =>
    rw [commit, returned] at refuted
    cases refuted
  | ok outcome =>
    rw [commit, returned] at refuted
    cases outcome with
    | commit writeCount => cases Except.ok.inj refuted
    | conflict conflicts => cases Except.ok.inj refuted
    | undecidable witness' => cases Except.ok.inj refuted
    | refuted rounded =>
      have status := infeasible_of_refuted returned
      rw [unionStatus_eq isUnionStatus, stoppingStatus] at status
      refine ⟨(CommitOutcome.refuted.inj (Except.ok.inj refuted)).symm, ?_⟩
      split at status
      next => cases status
      next =>
        split at status
        next above => exact above
        next => cases status

end Gate

/-- What the gate refutes verifies as a refutation, and what verifies as one has no distribution
over at most one failure. -/
theorem gate_verifier_agree {unionStatus : UnionStatus} (isUnionStatus : IsUnionStatus unionStatus)
    (runtime : Runtime) (hostJson : HostJson) (hmacSha256 : HmacSha256) (devKey : JsString) :
    (∀ world replica failureMarginals payloadContext maxIterations witness,
      (commit runtime hostJson unionStatus world replica failureMarginals payloadContext
          maxIterations).outcome = .ok (.refuted witness) →
        ∃ digest, hashState runtime hostJson (.object (receiptOf (.refuted witness))) =
            .ok digest ∧
          ∀ iterationBudgetSpent, verifyEnvelope runtime hostJson hmacSha256
            ⟨iterationBudgetSpent, receiptOf (.refuted witness), hmacSha256.hmacHex devKey digest⟩
            devKey = .ok (some (.VALID .KRIPKE))) ∧
      ∀ envelope, verifyEnvelope runtime hostJson hmacSha256 envelope devKey =
          .ok (some (.VALID .KRIPKE)) →
        ∃ marginals, rationals? (property (readProperty envelope.payload (js "witness"))
            (js "marginals")) = some marginals ∧
          ∀ weight, ¬ IsFeasiblePoint .TEMPORAL_STOPPING marginals.get weight := by
  constructor
  · intro world replica failureMarginals payloadContext maxIterations witness refuted
    rcases refuted_of_commit isUnionStatus refuted with ⟨rfl, above⟩
    rcases exists_hashState_refuted runtime hostJson failureMarginals with ⟨digest, isDigest⟩
    refine ⟨digest, isDigest, fun iterationBudgetSpent => ?_⟩
    have valid : verifyKripke failureMarginals (failureMarginals.foldl (· + ·) 0) =
        .VALID .KRIPKE := verifyKripke_eq_valid_iff.mpr ⟨foldl_add _, above⟩
    simp only [verifyEnvelope, isDigest, bind, Except.bind, if_true, verifyPayload_refuted, valid]
    rfl
  · intro envelope verified
    cases hashed : hashState runtime hostJson (.object envelope.payload) with
    | error error =>
      rw [verifyEnvelope, hashed] at verified
      cases verified
    | ok payloadStr =>
      simp only [verifyEnvelope, hashed, bind, Except.bind] at verified
      split at verified
      next =>
        rcases exists_of_verifyPayload (Except.ok.inj verified) with ⟨marginals, areNumbers, above⟩
        refine ⟨marginals, areNumbers, fun weight isFeasiblePoint => ?_⟩
        have within := (hasDistribution_iff.mp ⟨weight, isFeasiblePoint⟩).2
        exact absurd above (not_lt.mpr within)
      next => cases Except.ok.inj verified

namespace VerifierSample

open ResearchFrontier.Occ (OccSample.runtime OccSample.hostJson)

def exactStatus : UnionStatus := fun failureMarginals maxIterations =>
  stoppingStatus (failureMarginals.filterMap fun marginal => rational? (.number marginal))
    maxIterations

theorem isUnionStatus_exactStatus : IsUnionStatus exactStatus := by
  intro fuel marginals maxIterations result returned
  have finite : (marginals.map .finite).filterMap (fun marginal => rational? (.number marginal)) =
      marginals := by
    rw [List.filterMap_map]
    exact List.filterMap_some
  rw [exactStatus, finite]
  exact (Unification.status_of_exactBounds returned).symm

def overfull : List ℚ := [3 / 4, 1 / 2]

theorem overfull_verifies :
    ∃ digest, hashState OccSample.runtime OccSample.hostJson
        (.object (receiptOf (.refuted (refutedWitness overfull)))) = .ok digest ∧
      ∀ iterationBudgetSpent, verifyEnvelope OccSample.runtime OccSample.hostJson fips198
        ⟨iterationBudgetSpent, receiptOf (.refuted (refutedWitness overfull)),
          fips198.hmacHex (js "key") digest⟩ (js "key") = .ok (some (.VALID .KRIPKE)) := by
  have status : exactStatus (overfull.map .finite) (.ofNat 1000) = .INFEASIBLE := by
    decide +kernel
  have refuted : (commit OccSample.runtime OccSample.hostJson exactStatus (fun _ => none) .empty
      overfull .null (.ofNat 1000)).outcome = .ok (.refuted (refutedWitness overfull)) := by
    rw [commit, Occ.commit]
    simp only [Occ.conflictsOf, status]
    rfl
  exact (gate_verifier_agree isUnionStatus_exactStatus OccSample.runtime OccSample.hostJson fips198
    (js "key")).1 _ _ _ _ _ _ refuted

end VerifierSample

end GhostArk.ResearchFrontier.Verifier
