import GhostArk.EnforcementRuntime.Receipts.LedgerInvariant
import GhostArk.EnforcementRuntime.Receipts.Signer

/-!
Contract: `packages/enforcement-runtime/src/receipts/emission.ts`.

Owns emission inputs and their assertions, the unsigned receipt of an attempt,
signing with an arbitrary reply of the signer, and one `emit` call as a process
whose atomic steps are the awaited repository and signer calls.

Emitters here have a repository. What the signer returns, and the key id it
exposes afterwards, are chosen anew for every signature.
-/

namespace GhostArk.EnforcementRuntime.Receipts

open Js ReceiptSchema Policy

def DEFAULT_DECISION_RECEIPT_HMAC_SECRET : JsString := js "ghost-ark-local-decision-receipt-secret"

/-- The part of a verified identity that receipts record. -/
structure VerifiedIdentityContext where
  tenantId : JsString
  userId : JsString
  sessionId : JsString
  requestId : JsString
deriving DecidableEq, Repr

structure DecisionReceiptEmissionInput where
  identity : VerifiedIdentityContext
  modelId : JsString
  policyVersion : JsString
  policyHash : JsString
  inputDigest : JsString
  retrievedContextDigests : List JsString
  preDecision : PolicyDecision
  postDecision : PolicyDecision
  memoryWritten : Bool
  consentState : ConsentState
  latencyMs : JsNumber
  costEstimateUsd : Option JsNumber
  /-- `undefined`, or an explicit hash or `null`. -/
  previousReceiptHash : Option (Option JsString)
  executionContextHash : Option JsString
  executionNonce : Option JsString
  timestamp : JsString
deriving DecidableEq, Repr

/-- An emitter: its signer's algorithm and its HMAC secret, which the constructor checks. -/
structure DefaultDecisionReceiptEmitter where
  algorithm : SignatureAlgorithm
  hmacSecret : JsString
  secretNonempty : hmacSecret ≠ []

/-! ### Assertions -/

def assertNonEmpty (name : String) (value : JsString) : Except JsError Unit :=
  if value.length = 0 then
    .error (.plain (js "Decision receipt " ++ js name ++ js " must be a non-empty string."))
  else .ok ()

def assertSignatureShape (signature : JsString) : Except JsError Unit :=
  if signature.length = 0 then
    .error (.plain (js "Decision receipt signer returned an empty signature."))
  else if Signer.base64DecodedLength signature = 0 then
    .error (.plain
      (js "Decision receipt signer returned a signature that decodes to empty bytes."))
  else .ok ()

/-- `[a-z-]` after case folding. -/
def isPartitionUnit (codeUnit : CodeUnit) : Bool :=
  inRange 'a' 'z' codeUnit || codeUnit == unit '-'

/-- Units that `.` does not match. -/
def isLineTerminator (codeUnit : CodeUnit) : Bool :=
  [0x0A, 0x0D, 0x2028, 0x2029].contains codeUnit.val

/-- The text cut at its first `count` colons. -/
def colonFields : Nat → JsString → List JsString
  | 0, text => [text]
  | count + 1, text =>
    text.takeWhile (· != unit ':') ::
      colonFields count ((text.dropWhile (· != unit ':')).drop 1)

/-- `/^arn:aws(?:-[a-z-]+)?:kms:[a-z0-9-]+:\d{12}:alias\/.+$/iu`. -/
def isKmsAliasArn (keyId : JsString) : Bool :=
  match colonFields 5 (keyId.map foldUnit) with
  | [arn, partition, kms, region, account, resource] =>
    arn == js "arn" &&
      (partition == js "aws" ||
        ((js "aws-").isPrefixOf partition && partition.drop 4 != [] &&
          (partition.drop 4).all isPartitionUnit)) &&
      kms == js "kms" &&
      region != [] && region.all (fun codeUnit => isPartitionUnit codeUnit || isDigit codeUnit) &&
      account.length == 12 && account.all isDigit &&
      (js "alias/").isPrefixOf resource && resource.drop 6 != [] &&
      (resource.drop 6).all (!isLineTerminator ·)
  | _ => false

def isMutableKmsAliasKeyId (keyId : JsString) : Bool :=
  (js "alias/").isPrefixOf keyId || isKmsAliasArn keyId

/-- The check of `sign` that a KMS signer exposes no alias. -/
def assertImmutableKeyId (algorithm : SignatureAlgorithm) (signatureKeyId : JsString) :
    Except JsError Unit :=
  if algorithm = .KMS_SIGN_RSASSA_PSS_SHA_256 ∧ isMutableKmsAliasKeyId signatureKeyId then
    .error (.plain
      (js "KMS decision receipt signer exposed mutable alias keyId after signing: " ++
        signatureKeyId))
  else .ok ()

section Emitter

variable (runtime : ReceiptRuntime)

def assertEmissionInput (input : DecisionReceiptEmissionInput) : Except JsError Unit := do
  assertNonEmpty "identity.tenantId" input.identity.tenantId
  assertNonEmpty "identity.userId" input.identity.userId
  assertNonEmpty "identity.sessionId" input.identity.sessionId
  assertNonEmpty "identity.requestId" input.identity.requestId
  assertNonEmpty "modelId" input.modelId
  assertNonEmpty "policyVersion" input.policyVersion
  assertNonEmpty "policyHash" input.policyHash
  assertNonEmpty "timestamp" input.timestamp
  if !(runtime.dates.parse input.timestamp).isFinite then
    throw (.plain (js "Decision receipt timestamp is not parseable: " ++ input.timestamp))
  if input.inputDigest ≠ [] ∧ !isDigest input.inputDigest then
    throw (.plain (js "Decision receipt inputDigest is malformed: " ++ input.inputDigest))
  if let some digest := input.retrievedContextDigests.find? (!isDigest ·) then
    throw (.plain (js "Decision receipt retrieved context digest is malformed: " ++ digest))
  if !input.latencyMs.isFinite then
    throw (.plain (js "Decision receipt latencyMs must be finite."))
  if let some cost := input.costEstimateUsd then
    if !cost.isFinite || cost.lt (.ofNat 0) then
      throw (.plain
        (js "Decision receipt costEstimateUsd must be a non-negative finite number when supplied."))

def buildInput (emitter : DefaultDecisionReceiptEmitter) (input : DecisionReceiptEmissionInput)
    (tenantIdHash userIdHash sessionIdHash : JsString) (previousReceiptHash : Option JsString) :
    DecisionReceiptBuildInputWithDefaults where
  receipt_id := none
  request_id := input.identity.requestId
  tenant_id_hash := tenantIdHash
  user_id_hash := userIdHash
  session_id_hash := sessionIdHash
  timestamp := input.timestamp
  model_id := input.modelId
  policy_version := input.policyVersion
  policy_hash := input.policyHash
  input_digest :=
    if input.inputDigest = [] then publicSha256Digest runtime [] else input.inputDigest
  retrieved_context_digests := input.retrievedContextDigests
  execution_context_hash := input.executionContextHash
  execution_nonce := input.executionNonce
  decision_pre := input.preDecision.decision
  decision_post := input.postDecision.decision
  action_taken := input.preDecision.actionTaken ++ input.postDecision.actionTaken
  risk_score := input.preDecision.riskScore.max input.postDecision.riskScore
  consent_state := input.consentState
  memory_written := input.memoryWritten
  latency_ms := (JsNumber.ofNat 0).max input.latencyMs.round
  cost_estimate_usd := input.costEstimateUsd.getD (.ofNat 0)
  prev_receipt_hash := previousReceiptHash
  signature_alg := emitter.algorithm

def buildUnsigned (emitter : DefaultDecisionReceiptEmitter) (input : DecisionReceiptEmissionInput)
    (tenantIdHash : JsString) (previousReceiptHash : Option JsString) :
    Except JsError UnsignedDecisionReceipt := do
  let userIdHash ← privateHmacDigest runtime emitter.hmacSecret input.identity.userId
  let sessionIdHash ← privateHmacDigest runtime emitter.hmacSecret input.identity.sessionId
  buildUnsignedDecisionReceipt runtime
    (buildInput runtime emitter input tenantIdHash userIdHash sessionIdHash previousReceiptHash)

/-- A reply of the signer: the signature and the key id it exposes then, or its error. -/
abbrev SignerReply := Except JsError (JsString × JsString)

def sign (emitter : DefaultDecisionReceiptEmitter) (unsigned : UnsignedDecisionReceipt)
    (reply : SignerReply) : Except JsError SignedDecisionReceipt := do
  let _canonicalPayload ← canonicalUnsignedDecisionReceipt runtime unsigned
  let (signature, signatureKeyId) ← reply
  assertSignatureShape signature
  assertImmutableKeyId emitter.algorithm signatureKeyId
  let digestSha256 ← decisionReceiptDigest runtime unsigned
  let receipt_signature ← Signer.encodeDecisionReceiptSignatureEnvelope runtime
    { keyId := signatureKeyId, algorithm := emitter.algorithm, digestSha256, signature }
  validateSignedDecisionReceipt runtime (unsigned.toJsWithSignature receipt_signature)

/-! ### One emit call -/

def replayLookup (unsigned : UnsignedDecisionReceipt) (existingReceipt : SignedDecisionReceipt) :
    Except JsError SignedDecisionReceipt := do
  let incomingDigest ← decisionReceiptDigest runtime unsigned
  let storedDigest ← decisionReceiptDigest runtime existingReceipt.toUnsignedDecisionReceipt
  if incomingDigest ≠ storedDigest then
    .error (integrityCollisionError
      (js "Receipt replay lookup found mismatched canonical digests")
      [(js "tenantId", .string unsigned.tenant_id_hash),
        (js "receiptId", .string unsigned.receipt_id),
        (js "incomingDigest", .string incomingDigest), (js "storedDigest", .string storedDigest)])
  else .ok existingReceipt

def headKeptAdvancing (input : DecisionReceiptEmissionInput) (tenantIdHash : JsString) : JsError :=
  chainHeadConflictError (js "Receipt chain head kept advancing during receipt emission")
    [(js "tenantId", .string tenantIdHash), (js "requestId", .string input.identity.requestId)]

structure EmitCall where
  emitter : DefaultDecisionReceiptEmitter
  input : DecisionReceiptEmissionInput

/-- The loop variable of `emit`, with the tenant computed before the loop. -/
structure Attempt where
  tenantIdHash : JsString
  attempt : Nat
deriving DecidableEq, Repr

/-- Where an `emit` call stands: the step it takes next, or how it ended. -/
inductive Phase where
  | called
  | readingHead (attempt : Attempt)
  | lookingUp (attempt : Attempt) (unsigned : UnsignedDecisionReceipt)
  | signing (attempt : Attempt) (unsigned : UnsignedDecisionReceipt)
  | putting (attempt : Attempt) (signed : SignedDecisionReceipt)
  | returned (receipt : SignedDecisionReceipt)
  | threw (error : JsError)

def Phase.receipt? : Phase → Option SignedDecisionReceipt
  | .returned receipt => some receipt
  | _ => none

/-- Local code that returns a value for the next phase, or throws. -/
def Phase.next {α : Type} (continuation : α → Phase) : Except JsError α → Phase
  | .ok value => continuation value
  | .error error => .threw error

namespace EmitCall

variable (call : EmitCall)

def begin : Except JsError JsString := do
  assertEmissionInput runtime call.input
  privateHmacDigest runtime call.emitter.hmacSecret call.input.identity.tenantId

def readHead (repository : InMemoryRepository) (attempt : Attempt) : Phase :=
  if attempt.attempt < 3 then
    let previousReceiptHash :=
      call.input.previousReceiptHash.getD (repository.latestHashForTenant attempt.tenantIdHash)
    Phase.next (.lookingUp attempt)
      (buildUnsigned runtime call.emitter call.input attempt.tenantIdHash previousReceiptHash)
  else .threw (headKeptAdvancing call.input attempt.tenantIdHash)

def lookUp (repository : InMemoryRepository) (attempt : Attempt)
    (unsigned : UnsignedDecisionReceipt) : Phase :=
  match repository.get unsigned.tenant_id_hash unsigned.receipt_id with
  | some existingReceipt => Phase.next .returned (replayLookup runtime unsigned existingReceipt)
  | none => .signing attempt unsigned

/-- The end of the loop body: return the persisted receipt, try again, or throw. -/
def afterPut (attempt : Attempt) : Except JsError PersistenceResult → Phase
  | .ok persistenceResult => .returned persistenceResult.receipt
  | .error error =>
    if error.name = .chainHeadConflictError ∧ call.input.previousReceiptHash = none ∧
        attempt.attempt < 2 then
      .readingHead ⟨attempt.tenantIdHash, attempt.attempt + 1⟩
    else .threw error

/-- The next atomic step of the call. Only the signing step uses the signer's reply. -/
def step (repository : InMemoryRepository) (reply : SignerReply) :
    Phase → Phase × InMemoryRepository
  | .called => (Phase.next (fun tenantIdHash => .readingHead ⟨tenantIdHash, 0⟩)
      (call.begin runtime), repository)
  | .readingHead attempt => (call.readHead runtime repository attempt, repository)
  | .lookingUp attempt unsigned => (lookUp runtime repository attempt unsigned, repository)
  | .signing attempt unsigned =>
    (Phase.next (.putting attempt) (sign runtime call.emitter unsigned reply), repository)
  | .putting attempt signed =>
    (call.afterPut attempt (repository.put runtime signed.toJs).1,
      (repository.put runtime signed.toJs).2)
  | .returned receipt => (.returned receipt, repository)
  | .threw error => (.threw error, repository)

end EmitCall

variable {runtime}

variable {emitter : DefaultDecisionReceiptEmitter} {unsigned : UnsignedDecisionReceipt}

theorem buildUnsigned_fields {input : DecisionReceiptEmissionInput} {tenantIdHash : JsString}
    {previousReceiptHash : Option JsString}
    (built : buildUnsigned runtime emitter input tenantIdHash previousReceiptHash = .ok unsigned) :
    unsigned.tenant_id_hash = tenantIdHash ∧ unsigned.request_id = input.identity.requestId := by
  rw [buildUnsigned, bind_eq_ok] at built
  obtain ⟨userIdHash, -, built⟩ := built
  rw [bind_eq_ok] at built
  obtain ⟨sessionIdHash, -, built⟩ := built
  have fields := buildUnsignedDecisionReceipt_fields runtime built
  exact ⟨congrArg ReceiptBody.tenant_id_hash fields, congrArg ReceiptBody.request_id fields⟩

theorem sign_unsigned {reply : SignerReply} {signed : SignedDecisionReceipt}
    (isSigned : sign runtime emitter unsigned reply = .ok signed) :
    signed.toUnsignedDecisionReceipt = unsigned := by
  rw [sign, bind_eq_ok] at isSigned
  obtain ⟨canonicalPayload, -, isSigned⟩ := isSigned
  rw [bind_eq_ok] at isSigned
  obtain ⟨⟨signature, signatureKeyId⟩, -, isSigned⟩ := isSigned
  rw [bind_eq_ok] at isSigned
  obtain ⟨-, -, isSigned⟩ := isSigned
  rw [bind_eq_ok] at isSigned
  obtain ⟨-, -, isSigned⟩ := isSigned
  rw [bind_eq_ok] at isSigned
  obtain ⟨digestSha256, -, isSigned⟩ := isSigned
  rw [bind_eq_ok] at isSigned
  obtain ⟨receipt_signature, -, validated⟩ := isSigned
  exact (validateSignedDecisionReceipt_fields runtime validated).1

theorem replayLookup_eq_ok {existingReceipt receipt : SignedDecisionReceipt}
    (replayed : replayLookup runtime unsigned existingReceipt = .ok receipt) :
    receipt = existingReceipt ∧
      ∃ digest, decisionReceiptDigest runtime unsigned = .ok digest ∧
        decisionReceiptDigest runtime existingReceipt.toUnsignedDecisionReceipt = .ok digest := by
  rw [replayLookup, bind_eq_ok] at replayed
  obtain ⟨incomingDigest, incoming, replayed⟩ := replayed
  rw [bind_eq_ok] at replayed
  obtain ⟨storedDigest, isStored, replayed⟩ := replayed
  split at replayed
  next => cases replayed
  next same =>
    rw [not_not] at same
    subst same
    exact ⟨(Except.ok.inj replayed).symm, incomingDigest, incoming, isStored⟩

end Emitter

end GhostArk.EnforcementRuntime.Receipts
