import GhostArk.Lib.Interleaving
import GhostArk.EnforcementRuntime.Runtime.Settlement

/-!
Contract: one execution nonce store under concurrent runs of `governedInvoke`
(`packages/enforcement-runtime/src/runtime/nonceStore.ts`).

Owns the store as the shared state of an interleaving, the nonce that a run
stands for, and replay protection: of the runs with one tenant hash and one
normalised nonce, at most one reaches the model.

Only reservations touch the store. What else the dependencies of a run reply is
not restricted, and the dependencies of two runs need not agree.
-/

namespace GhostArk.EnforcementRuntime.Runtime

open Js ReceiptSchema Policy
open Receipts Lib Program

/-- Reservations are served by the store, in one step each. -/
inductive NonceStoreServes (runtime : PolicyRuntime) (store : InMemoryExecutionNonceStore) :
    (call : DependencyCall) → Reply call → InMemoryExecutionNonceStore → Prop
  | reserve (input : ExecutionNonceReservation) :
      NonceStoreServes runtime store (.reserve input) (reserve runtime store input).1
        (reserve runtime store input).2
  | other {call : DependencyCall} (reply : Reply call) (apart : ∀ input, call ≠ .reserve input) :
      NonceStoreServes runtime store call reply store

def GrantsKey (runtime : PolicyRuntime) (exchange : Exchange Reply) (key : JsString) : Prop :=
  ∃ input, exchange = ⟨.reserve input, Except.ok .RESERVED⟩ ∧
    reservationKey runtime input.tenantIdHash input.nonce = .ok key

def HoldsKey (store : InMemoryExecutionNonceStore) (key : JsString) : Prop :=
  (store.get? key).isSome = true

section Store

variable {runtime : PolicyRuntime} {store next : InMemoryExecutionNonceStore}
variable {call : DependencyCall} {reply : Reply call}

/-- A reservation is granted only of a key that is not held yet. -/
theorem holdsKey_of_grantsKey (serves : NonceStoreServes runtime store call reply next)
    {key : JsString} (grants : GrantsKey runtime ⟨call, reply⟩ key) :
    ¬ HoldsKey store key ∧ HoldsKey next key := by
  rcases grants with ⟨input, isReserve, isKey⟩
  cases serves with
  | reserve served =>
    have reserved : (⟨.reserve served, (reserve runtime store served).1⟩ : Exchange Reply) =
        ⟨.reserve input, Except.ok .RESERVED⟩ := isReserve
    injection reserved with sameCall sameReply
    injection sameCall with sameInput
    rw [← sameInput] at isKey
    have granted := reserve_eq_reserved isKey sameReply
    unfold HoldsKey
    rw [granted.1, granted.2]
    exact ⟨Bool.false_ne_true, rfl⟩
  | other reply apart =>
    injection isReserve with sameCall
    exact absurd sameCall (apart input)

/-- A reserved nonce stays reserved. -/
theorem HoldsKey.kept (serves : NonceStoreServes runtime store call reply next) {key : JsString}
    (holds : HoldsKey store key) : HoldsKey next key := by
  cases serves with
  | reserve input => exact isSome_get?_reserve input holds
  | other reply apart => exact holds

end Store

section Run

variable (runtime : PolicyRuntime) (deps : GovernedInvokeDependencies)
variable (request : GovernedInvokeRequest)

/-- `tenantIdHash` and the normalised nonce. A request without a nonce stands for its request id. -/
def runNonce : Except JsError (JsString × JsString) := do
  let tenantIdHash ← identifierHash runtime
    (deps.identityDigestSecret.getD DEFAULT_DECISION_RECEIPT_HMAC_SECRET) request.auth.tenantId
  let identity ← verifiedIdentity request
  let executionNonce ← normalizeExecutionNonce request.executionNonce identity.requestId
  return (tenantIdHash, executionNonce)

variable {runtime deps request}

theorem tenantIdHash_of_openingAt {now : JsString} {opening : Opening}
    (opens : openingAt runtime deps request now = .ok opening) :
    identifierHash runtime (deps.identityDigestSecret.getD DEFAULT_DECISION_RECEIPT_HMAC_SECRET)
      request.auth.tenantId = .ok opening.tenantIdHash := by
  unfold openingAt at opens
  rcases bind_eq_ok.mp opens with ⟨tenantIdHash, isTenant, later⟩
  rcases bind_eq_ok.mp later with ⟨userIdHash, -, last⟩
  rcases bind_eq_ok.mp last with ⟨sessionIdHash, -, isOpening⟩
  cases isOpening
  exact isTenant

theorem Asked.grantsKey {before : Trace} {admission : Admission}
    (asked : Asked runtime deps request before admission)
    (configured : deps.hasExecutionNonceStore = true) {tenantIdHash executionNonce : JsString}
    (isNonce : runNonce runtime deps request = .ok (tenantIdHash, executionNonce)) {key : JsString}
    (isKey : reservationKey runtime tenantIdHash executionNonce = .ok key) :
    ∃ exchange ∈ before, GrantsKey runtime exchange key := by
  rcases asked.admitted with ⟨now, opening, opens, admitted⟩
  have found : runNonce runtime deps request =
      .ok (admission.tenantIdHash, admission.executionNonce) := by
    unfold runNonce
    rw [tenantIdHash_of_openingAt opens, ok_bind, admitted.identity, ok_bind, admitted.nonce,
      admitted.isOpening]
    rfl
  rw [isNonce] at found
  cases found
  exact ⟨_, admitted.reserved configured, _, rfl, isKey⟩

end Run

/-! ### Concurrent runs -/

/-- A process that is about to ask the model, or has asked it. -/
def ReachesModel {ι : Type} {E α σ : Type} (configuration : Configuration ι Reply E α σ)
    (process : ι) : Prop :=
  (∃ input resume, configuration.left process = .ask (.invoke input) resume) ∨
    ∃ exchange ∈ configuration.trace process, ∃ input, exchange.call = .invoke input

section Concurrent

variable {ι : Type} [DecidableEq ι] {runtime : PolicyRuntime}
variable {deps : ι → GovernedInvokeDependencies} {request : ι → GovernedInvokeRequest}
variable {start : InMemoryExecutionNonceStore}
variable {configuration :
  Configuration ι Reply JsError GovernedInvokeResult InMemoryExecutionNonceStore}

theorem exists_grantsKey_of_reachesModel
    (interleaves : Interleaves (NonceStoreServes runtime)
      (fun process => governedInvoke runtime (deps process) (request process)) start configuration)
    {process : ι} (configured : (deps process).hasExecutionNonceStore = true)
    (reachesModel : ReachesModel configuration process) {tenantIdHash executionNonce : JsString}
    (isNonce : runNonce runtime (deps process) (request process) =
      .ok (tenantIdHash, executionNonce)) {key : JsString}
    (isKey : reservationKey runtime tenantIdHash executionNonce = .ok key) :
    ∃ exchange ∈ configuration.trace process, GrantsKey runtime exchange key := by
  have reaches := interleaves.reaches process
  rcases reachesModel with ⟨input, resume, asks⟩ | ⟨exchange, member, input, isInvoke⟩
  · rw [asks] at reaches
    rcases asked_of_reaches reaches with ⟨admission, -, asked⟩
    exact asked.grantsKey configured isNonce isKey
  · rcases List.append_of_mem member with ⟨before, after, isTrace⟩
    rcases reaches.exists_executes with ⟨rest, outcome, executes⟩
    rcases exchange with ⟨call, reply⟩
    cases isInvoke
    rw [isTrace, List.append_assoc] at executes
    rcases executes_at_invoke executes with ⟨admission, -, asked, -⟩
    rcases asked.grantsKey configured isNonce isKey with ⟨granting, isBefore, grants⟩
    exact ⟨granting, by rw [isTrace]; exact List.mem_append_left _ isBefore, grants⟩

/-- **Replay protection.** In every interleaving, at most one of the runs with one tenant hash and
one normalised nonce reaches the model. -/
theorem reachesModel_once (shares : ∀ process, (deps process).hasExecutionNonceStore = true)
    (interleaves : Interleaves (NonceStoreServes runtime)
      (fun process => governedInvoke runtime (deps process) (request process)) start configuration)
    (nonce : JsString × JsString) :
    Set.Subsingleton {process |
      runNonce runtime (deps process) (request process) = .ok nonce ∧
        ReachesModel configuration process} := by
  intro first isFirst second isSecond
  have isKeyed : ∃ key, reservationKey runtime nonce.1 nonce.2 = .ok key :=
    exists_reservationKey nonce.1 nonce.2
  rcases isKeyed with ⟨key, isKey⟩
  have exclusive : ClaimsExclusive (GrantsKey runtime) HoldsKey configuration :=
    interleaves.claimsExclusive (fun _ _ _ _ serves _ => holdsKey_of_grantsKey serves)
      (fun _ _ _ _ serves _ => HoldsKey.kept serves)
  exact exclusive.unique first second key
    (exists_grantsKey_of_reachesModel interleaves (shares first) isFirst.2 isFirst.1 isKey)
    (exists_grantsKey_of_reachesModel interleaves (shares second) isSecond.2 isSecond.1 isKey)

end Concurrent

namespace Sample

/-- The sample environment with a nonce store instead of a vault. -/
def serveStore (store : InMemoryExecutionNonceStore) :
    (call : DependencyCall) → Reply call × InMemoryExecutionNonceStore
  | .reserve input => reserve Policy.Sample.runtime store input
  | call => ((serve [] (js "answer") true .empty call).1, store)

theorem serveStore_complies (store : InMemoryExecutionNonceStore) (call : DependencyCall) :
    NonceStoreServes Policy.Sample.runtime store call (serveStore store call).1
      (serveStore store call).2 := by
  cases call with
  | reserve input => exact .reserve input
  | _ => exact .other _ (fun input isReserve => by cases isReserve)

/-- Two runs of the sample request that move in turns until one of them is at the model. -/
def twins : Configuration Bool Reply JsError GovernedInvokeResult InMemoryExecutionNonceStore :=
  Configuration.schedule serveStore
    ⟨.empty, fun _ => [], fun _ => governedInvoke Policy.Sample.runtime deps request⟩
    [false, true, false, true, false, true]

def asksModel {E α : Type} : Program Reply E α → Bool
  | .ask (.invoke _) _ => true
  | _ => false

end Sample

/-- One of the twins reaches the model. -/
theorem reachesModel_once_twins :
    ∃ (configuration : Configuration Bool Reply JsError GovernedInvokeResult
        InMemoryExecutionNonceStore) (nonce : JsString × JsString),
      ReachesModel configuration false ∧
      runNonce Policy.Sample.runtime Sample.deps Sample.request = .ok nonce ∧
      Set.Subsingleton {process : Bool |
        runNonce Policy.Sample.runtime Sample.deps Sample.request = .ok nonce ∧
          ReachesModel configuration process} := by
  have interleaves : Interleaves (NonceStoreServes Policy.Sample.runtime)
      (fun _ : Bool => governedInvoke Policy.Sample.runtime Sample.deps Sample.request)
      .empty Sample.twins :=
    .schedule Sample.serveStore Sample.serveStore_complies .start _
  have isAsking : Sample.asksModel (Sample.twins.left false) = true := by
    decide +kernel
  have hasNonce : (runNonce Policy.Sample.runtime Sample.deps Sample.request).toBool = true := by
    decide +kernel
  rcases exists_eq_ok hasNonce with ⟨nonce, isNonce⟩
  refine ⟨Sample.twins, nonce, Or.inl ?_, isNonce,
    reachesModel_once (fun _ => rfl) interleaves nonce⟩
  unfold Sample.asksModel at isAsking
  split at isAsking
  · rename_i input resume asks
    exact ⟨input, resume, asks⟩
  · cases isAsking

end GhostArk.EnforcementRuntime.Runtime
