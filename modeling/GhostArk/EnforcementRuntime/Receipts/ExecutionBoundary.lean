import GhostArk.EnforcementRuntime.Receipts.EmissionVerification

/-!
Contract: the default execution boundary on the two signing paths of decision receipts.

Owns what `signDecisionReceipt` refuses under a KMS signer, the execution boundary of what `emit`
signs and returns, and the inputs whose receipts have no default in it.

`emit` signs without the check of `signDecisionReceipt`: an input that leaves the execution
context or the nonce out gets the default of the builder, under every algorithm.
-/

namespace GhostArk.EnforcementRuntime.Receipts

open Js ReceiptSchema

variable {runtime : ReceiptRuntime}

theorem assertNonDefaultExecutionBoundary_eq_ok {receipt : UnsignedDecisionReceipt} :
    assertNonDefaultExecutionBoundary runtime receipt = .ok () ↔
      isDefaultExecutionBoundary receipt.toReceiptBody = false := by
  rw [assertNonDefaultExecutionBoundary, unsignedReceiptForSigning,
    validateUnsignedDecisionReceipt_toJs, ok_bind, isDefaultExecutionBoundary, Bool.or_eq_false_iff,
    decide_eq_false_iff_not, decide_eq_false_iff_not]
  by_cases defaultHash : receipt.execution_context_hash = DEFAULT_EXECUTION_CONTEXT_HASH
  · rw [if_pos defaultHash]
    exact iff_of_false (fun absent => by cases absent) fun both => both.1 defaultHash
  · rw [if_neg defaultHash, and_iff_right defaultHash]
    by_cases defaultNonce : receipt.execution_nonce = DEFAULT_EXECUTION_NONCE
    · rw [if_pos defaultNonce]
      exact iff_of_false (fun absent => by cases absent) fun differs => differs defaultNonce
    · rw [if_neg defaultNonce]
      exact iff_of_true rfl defaultNonce

theorem signDecisionReceipt_boundary {receipt : JsValue} {signer : Signer.DecisionReceiptSigner}
    {signed : SignedDecisionReceipt} (isKms : signer.algorithm = .KMS_SIGN_RSASSA_PSS_SHA_256)
    (isSigned : Signer.signDecisionReceipt runtime receipt signer = .ok signed) :
    isDefaultExecutionBoundary signed.toReceiptBody = false := by
  rw [Signer.signDecisionReceipt, bind_eq_ok] at isSigned
  rcases isSigned with ⟨unsigned, _, isSigned⟩
  rw [bind_eq_ok] at isSigned
  rcases isSigned with ⟨envelope, built, isSigned⟩
  rw [bind_eq_ok] at isSigned
  rcases isSigned with ⟨receiptSignature, _, validated⟩
  rw [(validateSignedDecisionReceipt_fields runtime validated).1]
  rw [Signer.buildDecisionReceiptSignatureEnvelope, bind_eq_ok] at built
  rcases built with ⟨_, _, built⟩
  rw [validateUnsignedDecisionReceipt_toJs, ok_bind, if_pos isKms] at built
  by_cases mismatch : unsigned.signature_alg ≠ signer.algorithm
  · rw [if_pos mismatch] at built
    cases built
  · rw [if_neg mismatch] at built
    rcases bind_eq_ok.mp built with ⟨_, checked, _⟩
    exact assertNonDefaultExecutionBoundary_eq_ok.mp checked

/-! ### The emitter -/

/-- The input names an execution context and a nonce, and neither is the default. -/
def DecisionReceiptEmissionInput.NamesExecutionBoundary (input : DecisionReceiptEmissionInput) :
    Prop :=
  (∃ hash, input.executionContextHash = some hash ∧ hash ≠ DEFAULT_EXECUTION_CONTEXT_HASH) ∧
    ∃ nonce, input.executionNonce = some nonce ∧ nonce ≠ DEFAULT_EXECUTION_NONCE

theorem buildUnsigned_boundary {emitter : DefaultDecisionReceiptEmitter}
    {input : DecisionReceiptEmissionInput} {tenantIdHash : JsString}
    {previousReceiptHash : Option JsString} {unsigned : UnsignedDecisionReceipt}
    (built : buildUnsigned runtime emitter input tenantIdHash previousReceiptHash = .ok unsigned) :
    isDefaultExecutionBoundary unsigned.toReceiptBody = false ↔ input.NamesExecutionBoundary := by
  rw [buildUnsigned, bind_eq_ok] at built
  rcases built with ⟨userIdHash, _, built⟩
  rw [bind_eq_ok] at built
  rcases built with ⟨sessionIdHash, _, built⟩
  have getD_ne_iff {value : Option JsString} {fallback : JsString} :
      value.getD fallback ≠ fallback ↔ ∃ given, value = some given ∧ given ≠ fallback := by
    cases value with
    | none =>
      refine iff_of_false (fun differs => differs rfl) ?_
      rintro ⟨_, absent, _⟩
      cases absent
    | some given =>
      constructor
      · exact fun differs => ⟨given, rfl, differs⟩
      · rintro ⟨_, same, differs⟩
        rw [← Option.some.inj same] at differs
        exact differs
  rw [buildUnsignedDecisionReceipt_fields runtime built, isDefaultExecutionBoundary,
    Bool.or_eq_false_iff, decide_eq_false_iff_not, decide_eq_false_iff_not]
  exact and_congr getD_ne_iff getD_ne_iff

/-- An emitted receipt names its boundary exactly if the call did. -/
theorem emitUnrecorded_boundary {call : EmitCall} {reply : UnsignedDecisionReceipt → SignerReply}
    {receipt : SignedDecisionReceipt}
    (returned : emitUnrecorded runtime call reply = .ok receipt) :
    isDefaultExecutionBoundary receipt.toReceiptBody = false ↔
      call.input.NamesExecutionBoundary := by
  rw [emitUnrecorded, bind_eq_ok] at returned
  rcases returned with ⟨tenantIdHash, _, returned⟩
  rw [bind_eq_ok] at returned
  rcases returned with ⟨unsigned, built, isSigned⟩
  rw [sign_unsigned isSigned]
  exact buildUnsigned_boundary built

/-- Where all inputs name an execution boundary of their own and nothing stored at the start has a
default in it, no interleaving of `emit` calls returns such a receipt. -/
theorem runEmissions_boundary {ι : Type} [DecidableEq ι] {calls : ι → EmitCall}
    (named : ∀ process, (calls process).input.NamesExecutionBoundary)
    {repository : InMemoryRepository}
    (stored : ∀ receipt ∈ repository.receipts.values,
      isDefaultExecutionBoundary receipt.toReceiptBody = false)
    (events : List (EmissionEvent ι)) {process : ι} {receipt : SignedDecisionReceipt}
    (returned : (runEmissions runtime calls (.initial repository) events).phases process =
      .returned receipt) :
    isDefaultExecutionBoundary receipt.toReceiptBody = false := by
  have builds : ∀ process, (calls process).Builds
      (fun unsigned => isDefaultExecutionBoundary unsigned.toReceiptBody = false) runtime :=
    fun process _ _ _ built => (buildUnsigned_boundary built).mpr (named process)
  have signs : ∀ process unsigned reply, (calls process).Signs
      (fun unsigned => isDefaultExecutionBoundary unsigned.toReceiptBody = false)
      (fun signed => isDefaultExecutionBoundary signed.toReceiptBody = false) runtime unsigned
      reply := by
    intro _ unsigned _ signed isOwn isSigned
    rw [sign_unsigned isSigned]
    exact isOwn
  have start : (EmissionState.initial (ι := ι) repository).repository.Carries
      fun signed => isDefaultExecutionBoundary signed.toReceiptBody = false := stored
  have carried := runEmissions_carries builds start (fun _ => trivial)
    (signsThroughout_of_forall signs _ events) process
  rw [returned] at carried
  exact carried

/-- A KMS signer never signs a default execution boundary through `signDecisionReceipt`. Through
`emit` it does exactly where the input names no boundary of its own; over a repository, a run whose
inputs all name theirs returns none that was not stored before. -/
theorem signingPaths_boundary (runtime : ReceiptRuntime) :
    (∀ receipt (signer : Signer.DecisionReceiptSigner) signed,
      signer.algorithm = .KMS_SIGN_RSASSA_PSS_SHA_256 →
      Signer.signDecisionReceipt runtime receipt signer = .ok signed →
        isDefaultExecutionBoundary signed.toReceiptBody = false) ∧
    (∀ (call : EmitCall) reply receipt, emitUnrecorded runtime call reply = .ok receipt →
      (isDefaultExecutionBoundary receipt.toReceiptBody = false ↔
        call.input.NamesExecutionBoundary)) ∧
    ∀ (ι : Type) [DecidableEq ι] (calls : ι → EmitCall) (repository : InMemoryRepository)
      (events : List (EmissionEvent ι)),
      (∀ process, (calls process).input.NamesExecutionBoundary) →
      (∀ stored ∈ repository.receipts.values,
        isDefaultExecutionBoundary stored.toReceiptBody = false) →
      ∀ process receipt,
        (runEmissions runtime calls (.initial repository) events).phases process =
          .returned receipt →
        isDefaultExecutionBoundary receipt.toReceiptBody = false := by
  refine ⟨?_, ?_, ?_⟩
  · exact fun _ _ _ isKms isSigned => signDecisionReceipt_boundary isKms isSigned
  · exact fun _ _ _ returned => emitUnrecorded_boundary returned
  · exact fun _ _ _ _ events named stored _ _ returned =>
      runEmissions_boundary named stored events returned

namespace Sample

def namedCall : EmitCall :=
  { kmsCall with
    input := { kmsCall.input with
      executionContextHash := some (digest '7')
      executionNonce := some (js "nonce-00000001") } }

end Sample

theorem emitted_named_boundary :
    ∃ receipt, emitUnrecorded Sample.runtime Sample.namedCall (Sample.kmsReply "key-1") =
        .ok receipt ∧
      isDefaultExecutionBoundary receipt.toReceiptBody = false := by
  have evaluated : (emitUnrecorded Sample.runtime Sample.namedCall
      (Sample.kmsReply "key-1")).toBool = true := by
    unfold Sample.kmsReply
    rw [Sample.runtime_eq]
    decide +kernel
  rcases exists_eq_ok evaluated with ⟨receipt, returned⟩
  refine ⟨receipt, returned, ?_⟩
  apply ((signingPaths_boundary Sample.runtime).2.1 _ _ _ returned).mpr
  exact ⟨⟨_, rfl, by decide⟩, ⟨_, rfl, by decide⟩⟩

/-- A KMS signer signs a receipt with both defaults. -/
theorem emitted_default_boundary :
    Sample.kmsCall.emitter.algorithm = .KMS_SIGN_RSASSA_PSS_SHA_256 ∧
      ∃ receipt, emitUnrecorded Sample.runtime Sample.kmsCall (Sample.kmsReply "my-key") =
          .ok receipt ∧
        isDefaultExecutionBoundary receipt.toReceiptBody = true := by
  rcases exists_eq_ok Sample.evaluated_my_key with ⟨receipt, returned⟩
  refine ⟨rfl, receipt, returned, ?_⟩
  by_contra notDefault
  rcases (emitUnrecorded_boundary returned).mp (Bool.eq_false_of_not_eq_true notDefault) with
    ⟨⟨_, absent, _⟩, _⟩
  cases absent

end GhostArk.EnforcementRuntime.Receipts
