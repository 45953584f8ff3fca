import GhostArk.EnforcementRuntime.Policy.Compiler
import GhostArk.Js.Pattern
import GhostArk.Lib.InsertionMap

/-!
Contract: `packages/enforcement-runtime/src/runtime`: `executionContext.ts` and the in-memory part
of `nonceStore.ts`.

Owns execution nonces, the hash of an execution context, nonce reservations, and
the in-memory store. A store gives out every key at most once, and never again
after that.
-/

namespace GhostArk.EnforcementRuntime.Runtime

open Js ReceiptSchema Policy
open Receipts Lib

def normalizeExecutionNonce (value : Option JsString) (requestId : JsString) :
    Except JsError JsString :=
  let nonce := trim (value.getD requestId)
  if isExecutionNonce nonce then .ok nonce
  else .error (.plain (js "Execution nonce must be 8-256 characters of URL-safe text"))

/-- `GovernedInvokeRequest["memoryWrite"]`. -/
structure RequestedMemoryWrite where
  tier : MemoryTier
  contentDigest : JsString
  classificationTags : List JsString
  expiresAt : Option JsString
deriving DecidableEq, Repr

structure ExecutionContextSnapshot where
  requestId : JsString
  tenantIdHash : JsString
  userIdHash : JsString
  sessionIdHash : JsString
  modelId : JsString
  policyVersion : JsString
  policyHash : JsString
  inputDigest : JsString
  retrievedContextDigests : List JsString
  consentState : ConsentState
  executionNonce : JsString
  preDecision : Option PhaseDecision
  memoryWrite : Option RequestedMemoryWrite
deriving DecidableEq, Repr

/-- `Pick<PolicyDecision, "decision" | "phase" | "policyHash" | "policyVersion" | "riskScore">`. -/
def snapshotDecision (decision : PhaseDecision) : JsValue :=
  .object [(js "phase", .string decision.phase.text), (js "decision", .string decision.decision.text),
    (js "policyVersion", .string decision.policyVersion),
    (js "policyHash", .string decision.policyHash), (js "riskScore", .number decision.riskScore)]

def snapshotMemoryWrite (memoryWrite : RequestedMemoryWrite) : JsValue :=
  .object ([(js "tier", .string memoryWrite.tier.text),
    (js "contentDigest", .string memoryWrite.contentDigest),
    (js "classificationTags", stringArray (sortStrings memoryWrite.classificationTags))] ++
    optionalEntry "expiresAt" ((memoryWrite.expiresAt.filter (· != [])).map .string))

section Hash

variable (runtime : PolicyRuntime)

def executionContextHash (snapshot : ExecutionContextSnapshot) : Except JsError JsString := do
  let digest ← canonicalSha256Hex runtime.toRuntime (.object
    ([(js "schemaVersion", .string (js "ghost.execution_context.v1")),
      (js "requestId", .string snapshot.requestId),
      (js "tenantIdHash", .string snapshot.tenantIdHash),
      (js "userIdHash", .string snapshot.userIdHash),
      (js "sessionIdHash", .string snapshot.sessionIdHash),
      (js "modelId", .string snapshot.modelId),
      (js "policyVersion", .string snapshot.policyVersion),
      (js "policyHash", .string snapshot.policyHash),
      (js "inputDigest", .string snapshot.inputDigest),
      (js "retrievedContextDigests", stringArray (sortStrings snapshot.retrievedContextDigests)),
      (js "consentState", .string snapshot.consentState.text),
      (js "executionNonce", .string snapshot.executionNonce)] ++
      optionalEntry "preDecision" (snapshot.preDecision.map snapshotDecision) ++
      optionalEntry "memoryWrite" (snapshot.memoryWrite.map snapshotMemoryWrite)))
  return js "sha256:" ++ digest

end Hash

structure ExecutionNonceReservation where
  tenantIdHash : JsString
  nonce : JsString
  executionContextHash : JsString
  requestId : JsString
  now : JsString
  ttlSeconds : Option JsNumber
deriving DecidableEq, Repr

inductive ReservationStatus where
  | RESERVED
  | IDEMPOTENT_REPLAY
deriving DecidableEq, Repr

/-- Reservations by key. -/
abbrev InMemoryExecutionNonceStore := InsertionMap JsString ExecutionNonceReservation

def executionNonceReplayError : ErrorName := .external (js "ExecutionNonceReplayError")

section NonceStore

variable (runtime : PolicyRuntime)

def nonceHash (nonce : JsString) : Except JsError JsString := do
  let digest ← canonicalSha256Hex runtime.toRuntime (.object [(js "nonce", .string nonce)])
  return js "sha256:" ++ digest

def reservationKey (tenantIdHash nonce : JsString) : Except JsError JsString := do
  let hash ← nonceHash runtime nonce
  return tenantIdHash ++ js "#" ++ hash

/-- `reserve`, a single atomic step: it awaits nothing. -/
def reserve (store : InMemoryExecutionNonceStore) (input : ExecutionNonceReservation) :
    Except JsError ReservationStatus × InMemoryExecutionNonceStore :=
  match reservationKey runtime input.tenantIdHash input.nonce with
  | .error error => (.error error, store)
  | .ok key =>
    match store.get? key with
    | none => (.ok .RESERVED, store.set key input)
    | some existing =>
      if existing.executionContextHash ≠ input.executionContextHash then
        (.error ⟨executionNonceReplayError,
          js "Execution nonce replay detected with mismatched context hash",
          [(js "tenantIdHash", .string input.tenantIdHash),
            (js "nonceHash", .string (((nonceHash runtime input.nonce).toOption).getD [])),
            (js "existingContextHash", .string existing.executionContextHash),
            (js "incomingContextHash", .string input.executionContextHash)]⟩, store)
      else (.ok .IDEMPOTENT_REPLAY, store)

variable {runtime}

variable {store : InMemoryExecutionNonceStore}

theorem reserve_eq_reserved {input : ExecutionNonceReservation} {key : JsString}
    (isKey : reservationKey runtime input.tenantIdHash input.nonce = .ok key)
    (reserved : (reserve runtime store input).1 = .ok .RESERVED) :
    store.get? key = none ∧ (reserve runtime store input).2.get? key = some input := by
  unfold reserve at reserved ⊢
  rw [isKey] at reserved ⊢
  dsimp only at reserved ⊢
  cases found : store.get? key with
  | none => exact ⟨rfl, InsertionMap.get?_set_self store key input⟩
  | some existing =>
    rw [found] at reserved
    dsimp only at reserved
    split at reserved <;> cases reserved

theorem isSome_get?_reserve (input : ExecutionNonceReservation) {key : JsString}
    (taken : (store.get? key).isSome = true) :
    ((reserve runtime store input).2.get? key).isSome = true := by
  unfold reserve
  cases reservationKey runtime input.tenantIdHash input.nonce with
  | error error => exact taken
  | ok inputKey =>
    dsimp only
    cases store.get? inputKey with
    | none =>
      dsimp only
      rw [InsertionMap.get?_set]
      split
      · rfl
      · exact taken
    | some existing =>
      dsimp only
      split <;> exact taken

theorem exists_reservationKey (tenantIdHash nonce : JsString) :
    ∃ key, reservationKey runtime tenantIdHash nonce = .ok key :=
  ⟨_, rfl⟩

end NonceStore

end GhostArk.EnforcementRuntime.Runtime
