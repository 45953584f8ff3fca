import GhostArk.EnforcementRuntime.Receipts.Emission
import Mathlib.Logic.Function.Basic

/-!
Contract: any number of `emit` calls that share one in-memory repository.

Owns the joint state of the calls, runs as arbitrary interleavings of their
atomic steps, the invariant of a run, and exactly-once emission: one receipt for
each tenant and request, returned receipts are stored, equal inputs return the
same receipt, and nothing stored is lost or replaced.

Collision freedom is asked of the canonical texts whose digests a run compares.
-/

namespace GhostArk.EnforcementRuntime.Receipts

open Js ReceiptSchema Lib

structure EmissionState (ι : Type) where
  repository : InMemoryRepository
  phases : ι → Phase

def EmissionState.initial {ι : Type} (repository : InMemoryRepository) : EmissionState ι :=
  ⟨repository, fun _ => .called⟩

/-- The call that takes a step, and what the signer replies if it signs. -/
abbrev EmissionEvent (ι : Type) := ι × SignerReply

section Runs

variable (runtime : ReceiptRuntime) {ι : Type} [DecidableEq ι] (calls : ι → EmitCall)

def stepEmission (state : EmissionState ι) (event : EmissionEvent ι) : EmissionState ι :=
  let next := (calls event.1).step runtime state.repository event.2 (state.phases event.1)
  ⟨next.2, Function.update state.phases event.1 next.1⟩

def runEmissions (state : EmissionState ι) (events : List (EmissionEvent ι)) : EmissionState ι :=
  events.foldl (stepEmission runtime calls) state

/-- The canonical texts of a receipt and of the one stored under its id. -/
def InMemoryRepository.lookupTexts (repository : InMemoryRepository)
    (unsigned : UnsignedDecisionReceipt) : List JsString :=
  (unsigned :: (repository.get unsigned.tenant_id_hash unsigned.receipt_id).toList.map
    SignedDecisionReceipt.toUnsignedDecisionReceipt).filterMap fun receipt =>
      (canonicalUnsignedDecisionReceipt runtime receipt).toOption

/-- The canonical texts whose digests the next step of a call compares. -/
def Phase.comparedTexts (repository : InMemoryRepository) : Phase → List JsString
  | .lookingUp _ unsigned => repository.lookupTexts runtime unsigned
  | .putting _ signed => repository.lookupTexts runtime signed.toUnsignedDecisionReceipt
  | _ => []

def comparedTexts : EmissionState ι → List (EmissionEvent ι) → List JsString
  | _, [] => []
  | state, event :: rest =>
    (state.phases event.1).comparedTexts runtime state.repository ++
      comparedTexts (stepEmission runtime calls state event) rest

end Runs

section Repository

variable {runtime : ReceiptRuntime}

namespace InMemoryRepository

theorem get_put {repository : InMemoryRepository} {tenant receiptId : JsString}
    {receipt : SignedDecisionReceipt} (candidate : JsValue)
    (found : repository.get tenant receiptId = some receipt) :
    (repository.put runtime candidate).2.get tenant receiptId = some receipt := by
  have step := @put_step runtime repository candidate
  revert step
  generalize (repository.put runtime candidate).1 = outcome
  generalize (repository.put runtime candidate).2 = after
  intro step
  cases step with
  | threw => exact found
  | replayedMarked => exact found
  | replayedExisting => exact found
  | created validated requestMarkerId requestDigest headHash prepared unmarked free =>
    have otherKey : key tenant receiptId ≠ key validated.tenant_id_hash validated.receipt_id := by
      intro same
      rw [get, same, free] at found
      cases found
    rw [get, stored, InsertionMap.get?_set, if_neg otherKey]
    exact found

/-- A stored receipt is never replaced. -/
theorem get_runPuts {repository : InMemoryRepository} {tenant receiptId : JsString}
    {receipt : SignedDecisionReceipt} (candidates : List JsValue)
    (found : repository.get tenant receiptId = some receipt) :
    (repository.runPuts runtime candidates).get tenant receiptId = some receipt := by
  induction candidates generalizing repository with
  | nil => exact found
  | cons candidate rest ih =>
    exact ih (get_put candidate found)

theorem runPuts_append (repository : InMemoryRepository) (first second : List JsValue) :
    repository.runPuts runtime (first ++ second) =
      (repository.runPuts runtime first).runPuts runtime second :=
  List.foldl_append

end InMemoryRepository

theorem EmitCall.step_repository (call : EmitCall) (repository : InMemoryRepository)
    (reply : SignerReply) (phase : Phase) :
    ∃ candidates, (call.step runtime repository reply phase).2 =
      repository.runPuts runtime candidates := by
  cases phase with
  | putting attempt signed => exact ⟨[signed.toJs], rfl⟩
  | called => exact ⟨[], rfl⟩
  | readingHead attempt => exact ⟨[], rfl⟩
  | lookingUp attempt unsigned => exact ⟨[], rfl⟩
  | signing attempt unsigned => exact ⟨[], rfl⟩
  | returned receipt => exact ⟨[], rfl⟩
  | threw error => exact ⟨[], rfl⟩

variable {ι : Type} [DecidableEq ι] {calls : ι → EmitCall}

theorem runEmissions_repository (state : EmissionState ι) (events : List (EmissionEvent ι)) :
    ∃ candidates, (runEmissions runtime calls state events).repository =
      state.repository.runPuts runtime candidates := by
  induction events generalizing state with
  | nil => exact ⟨[], rfl⟩
  | cons event rest ih =>
    obtain ⟨first, isFirst⟩ := (calls event.1).step_repository state.repository event.2
      (state.phases event.1)
    obtain ⟨later, isLater⟩ := ih (stepEmission runtime calls state event)
    refine ⟨first ++ later, ?_⟩
    rw [InMemoryRepository.runPuts_append, ← isFirst]
    exact isLater

/-- Every event keeps the invariant of the store. -/
theorem invariant_runEmissions {state : EmissionState ι}
    (invariant : state.repository.Invariant runtime) (events : List (EmissionEvent ι)) :
    (runEmissions runtime calls state events).repository.Invariant runtime := by
  obtain ⟨candidates, isRun⟩ := runEmissions_repository state events
  rw [isRun]
  exact invariant.runPuts candidates

/-- No event of a run replaces a stored receipt. -/
theorem get_runEmissions {state : EmissionState ι} {tenant receiptId : JsString}
    {receipt : SignedDecisionReceipt} (events : List (EmissionEvent ι))
    (found : state.repository.get tenant receiptId = some receipt) :
    (runEmissions runtime calls state events).repository.get tenant receiptId = some receipt := by
  obtain ⟨candidates, isRun⟩ := runEmissions_repository state events
  rw [isRun]
  exact InMemoryRepository.get_runPuts candidates found

end Repository

section Returned

variable {runtime : ReceiptRuntime} {repository : InMemoryRepository}

theorem InMemoryRepository.eq_of_lookup {unsigned : UnsignedDecisionReceipt}
    {existing : SignedDecisionReceipt}
    (collisionFree : runtime.sha256.CollisionFreeOn (repository.lookupTexts runtime unsigned))
    (found : repository.get unsigned.tenant_id_hash unsigned.receipt_id = some existing)
    (sameDigest : ∃ digest, decisionReceiptDigest runtime unsigned = .ok digest ∧
      decisionReceiptDigest runtime existing.toUnsignedDecisionReceipt = .ok digest) :
    existing.toUnsignedDecisionReceipt = unsigned := by
  obtain ⟨digest, incoming, isStored⟩ := sameDigest
  refine eq_of_decisionReceiptDigest collisionFree ?_ ?_ isStored incoming
  · intro text isText
    apply List.mem_filterMap.mpr
    refine ⟨existing.toUnsignedDecisionReceipt, ?_, by rw [isText]; rfl⟩
    rw [found]
    exact List.mem_cons_of_mem _ List.mem_cons_self
  · intro text isText
    apply List.mem_filterMap.mpr
    exact ⟨unsigned, List.mem_cons_self, by rw [isText]; rfl⟩

theorem InMemoryRepository.Invariant.put_returned (invariant : repository.Invariant runtime)
    {signed : SignedDecisionReceipt} {result : PersistenceResult}
    (collisionFree : runtime.sha256.CollisionFreeOn
      (repository.lookupTexts runtime signed.toUnsignedDecisionReceipt))
    (isResult : (repository.put runtime signed.toJs).1 = .ok result) :
    (repository.put runtime signed.toJs).2.get result.receipt.tenant_id_hash
        result.receipt.receipt_id = some result.receipt ∧
      result.receipt.tenant_id_hash = signed.tenant_id_hash ∧
      result.receipt.request_id = signed.request_id := by
  have step := @put_step runtime repository signed.toJs
  rw [isResult] at step
  have invariantAfter := invariant.step step
  revert step invariantAfter
  generalize (repository.put runtime signed.toJs).2 = after
  intro step invariantAfter
  have isSigned : ∀ {validated requestMarkerId requestDigest},
      Prepared runtime signed.toJs validated requestMarkerId requestDigest → validated = signed := by
    intro validated requestMarkerId requestDigest prepared
    have valid := prepared.valid
    rw [validateSignedDecisionReceipt_toJs, Except.ok.injEq] at valid
    exact valid.symm
  cases step with
  | replayedMarked validated requestMarkerId requestDigest marker existing prepared marked
      sameDigest target =>
      obtain rfl := isSigned prepared
      obtain ⟨receipt, member, sameTenant, sameRequest, sameId⟩ :=
        invariant.marked_target validated.isDigest_tenant prepared.marker marked
      have found := invariant.get_self member
      rw [sameTenant, sameId, get, target, Option.some.injEq] at found
      subst found
      exact ⟨invariant.get_self member, sameTenant, sameRequest⟩
  | replayedExisting validated requestMarkerId requestDigest existing prepared unmarked taken
      sameDigest =>
      obtain rfl := isSigned prepared
      have sameUnsigned := eq_of_lookup collisionFree taken sameDigest
      have found : repository.get existing.tenant_id_hash existing.receipt_id = some existing := by
        rw [sameUnsigned]
        exact taken
      refine ⟨found, ?_, ?_⟩
      · rw [sameUnsigned]
      · rw [sameUnsigned]
  | created validated requestMarkerId requestDigest headHash prepared unmarked free =>
    obtain rfl := isSigned prepared
    refine ⟨invariantAfter.get_self ?_, rfl, rfl⟩
    rw [values_stored free]
    exact List.mem_append_right _ List.mem_cons_self

end Returned

section Invariant

variable (runtime : ReceiptRuntime)

def EmitCall.tenantIdHash (call : EmitCall) : JsString :=
  js "hmac-sha256:" ++ runtime.hmacSha256.hmacHex call.emitter.hmacSecret call.input.identity.tenantId

/-- A receipt of the call's tenant and request. -/
structure EmitCall.Concerns (call : EmitCall) (body : ReceiptBody) : Prop where
  tenant : body.tenant_id_hash = call.tenantIdHash runtime
  request : body.request_id = call.input.identity.requestId

/-- Receipts in flight are of the call's tenant and request; a returned one is also stored. -/
def Phase.Sound (call : EmitCall) (repository : InMemoryRepository) : Phase → Prop
  | .called => True
  | .readingHead attempt => attempt.tenantIdHash = call.tenantIdHash runtime
  | .lookingUp attempt unsigned =>
    attempt.tenantIdHash = call.tenantIdHash runtime ∧
      call.Concerns runtime unsigned.toReceiptBody
  | .signing attempt unsigned =>
    attempt.tenantIdHash = call.tenantIdHash runtime ∧
      call.Concerns runtime unsigned.toReceiptBody
  | .putting attempt signed =>
    attempt.tenantIdHash = call.tenantIdHash runtime ∧ call.Concerns runtime signed.toReceiptBody
  | .returned receipt =>
    repository.get receipt.tenant_id_hash receipt.receipt_id = some receipt ∧
      call.Concerns runtime receipt.toReceiptBody
  | .threw _ => True

variable {runtime} {call : EmitCall} {repository : InMemoryRepository}

theorem EmitCall.begin_eq_ok {tenantIdHash : JsString}
    (begun : call.begin runtime = .ok tenantIdHash) :
    tenantIdHash = call.tenantIdHash runtime := by
  rw [EmitCall.begin, bind_eq_ok] at begun
  obtain ⟨-, -, digested⟩ := begun
  rw [privateHmacDigest, bind_eq_ok] at digested
  obtain ⟨-, -, same⟩ := digested
  rw [pure_eq_ok] at same
  exact same.symm

namespace Phase

theorem Sound.next {α : Type} {continuation : α → Phase} {outcome : Except JsError α}
    (sound : ∀ value, outcome = .ok value → Sound runtime call repository (continuation value)) :
    Sound runtime call repository (Phase.next continuation outcome) := by
  cases outcome with
  | ok value => exact sound value rfl
  | error error => trivial

/-- What a call knows of the store stays true when others put. -/
theorem Sound.runPuts {phase : Phase} (sound : Sound runtime call repository phase)
    (candidates : List JsValue) :
    Sound runtime call (repository.runPuts runtime candidates) phase := by
  cases phase with
  | returned receipt => exact ⟨InMemoryRepository.get_runPuts candidates sound.1, sound.2⟩
  | called => trivial
  | threw error => trivial
  | readingHead attempt => exact sound
  | lookingUp attempt unsigned => exact sound
  | signing attempt unsigned => exact sound
  | putting attempt signed => exact sound

end Phase

namespace EmitCall

variable {attempt : Attempt}

section SameTenant

variable (sameTenant : attempt.tenantIdHash = call.tenantIdHash runtime)
include sameTenant

theorem readHead_sound :
    (call.readHead runtime repository attempt).Sound runtime call repository := by
  unfold readHead
  split
  next =>
    apply Phase.Sound.next
    intro unsigned built
    obtain ⟨tenant, request⟩ := buildUnsigned_fields built
    exact ⟨sameTenant, tenant.trans sameTenant, request⟩
  next => trivial

theorem lookUp_sound {unsigned : UnsignedDecisionReceipt}
    (concerned : call.Concerns runtime unsigned.toReceiptBody)
    (collisionFree : runtime.sha256.CollisionFreeOn (repository.lookupTexts runtime unsigned)) :
    (lookUp runtime repository attempt unsigned).Sound runtime call repository := by
  unfold lookUp
  split
  next existing found =>
    apply Phase.Sound.next
    intro receipt replayed
    obtain ⟨rfl, sameDigest⟩ := replayLookup_eq_ok replayed
    have sameUnsigned := InMemoryRepository.eq_of_lookup collisionFree found sameDigest
    subst sameUnsigned
    exact ⟨found, concerned⟩
  next => exact ⟨sameTenant, concerned⟩

theorem afterPut_sound {outcome : Except JsError PersistenceResult}
    (returned : ∀ result, outcome = .ok result →
      repository.get result.receipt.tenant_id_hash result.receipt.receipt_id =
          some result.receipt ∧ call.Concerns runtime result.receipt.toReceiptBody) :
    (call.afterPut attempt outcome).Sound runtime call repository := by
  cases outcome with
  | ok result => exact returned result rfl
  | error error =>
    rw [afterPut]
    split
    next => exact sameTenant
    next => trivial

end SameTenant

theorem step_sound (invariant : repository.Invariant runtime) {phase : Phase}
    (reply : SignerReply) (sound : phase.Sound runtime call repository)
    (collisionFree : runtime.sha256.CollisionFreeOn (phase.comparedTexts runtime repository)) :
    (call.step runtime repository reply phase).1.Sound runtime call
      (call.step runtime repository reply phase).2 := by
  cases phase with
  | called =>
    apply Phase.Sound.next
    intro tenantIdHash begun
    exact begin_eq_ok begun
  | readingHead attempt => exact readHead_sound sound
  | lookingUp attempt unsigned => exact lookUp_sound sound.1 sound.2 collisionFree
  | signing attempt unsigned =>
    apply Phase.Sound.next
    intro signed isSigned
    refine ⟨sound.1, ?_⟩
    rw [sign_unsigned isSigned]
    exact sound.2
  | putting attempt signed =>
    apply afterPut_sound sound.1
    intro result isResult
    obtain ⟨found, tenant, request⟩ := invariant.put_returned collisionFree isResult
    exact ⟨found, tenant.trans sound.2.tenant, request.trans sound.2.request⟩
  | returned receipt => exact sound
  | threw error => trivial

end EmitCall

variable {ι : Type} [DecidableEq ι] {calls : ι → EmitCall}

theorem stepEmission_phases_self (state : EmissionState ι) (event : EmissionEvent ι) :
    (stepEmission runtime calls state event).phases event.1 =
      ((calls event.1).step runtime state.repository event.2 (state.phases event.1)).1 :=
  Function.update_self ..

theorem stepEmission_phases_of_ne (state : EmissionState ι) {event : EmissionEvent ι} {process : ι}
    (waiting : process ≠ event.1) :
    (stepEmission runtime calls state event).phases process = state.phases process :=
  Function.update_of_ne waiting ..

theorem stepEmission_sound {state : EmissionState ι} (event : EmissionEvent ι)
    (invariant : state.repository.Invariant runtime)
    (sound : ∀ process, (state.phases process).Sound runtime (calls process) state.repository)
    (collisionFree : runtime.sha256.CollisionFreeOn
      ((state.phases event.1).comparedTexts runtime state.repository)) (process : ι) :
    ((stepEmission runtime calls state event).phases process).Sound runtime (calls process)
      (stepEmission runtime calls state event).repository := by
  by_cases stepping : process = event.1
  · subst stepping
    rw [stepEmission_phases_self]
    exact EmitCall.step_sound invariant event.2 (sound event.1) collisionFree
  · obtain ⟨candidates, isRun⟩ := (calls event.1).step_repository state.repository event.2
      (state.phases event.1)
    rw [stepEmission_phases_of_ne state stepping, stepEmission, isRun]
    exact (sound process).runPuts candidates

/-- Every event keeps what each call knows, unless two compared texts collide. -/
theorem runEmissions_sound {state : EmissionState ι} (events : List (EmissionEvent ι))
    (invariant : state.repository.Invariant runtime)
    (sound : ∀ process, (state.phases process).Sound runtime (calls process) state.repository)
    (collisionFree : runtime.sha256.CollisionFreeOn (comparedTexts runtime calls state events))
    (process : ι) :
    ((runEmissions runtime calls state events).phases process).Sound runtime (calls process)
      (runEmissions runtime calls state events).repository := by
  induction events generalizing state with
  | nil => exact sound process
  | cons event rest ih =>
    apply ih
    · exact invariant_runEmissions invariant [event]
    · exact stepEmission_sound event invariant sound
        (collisionFree.mono (List.subset_append_left _ _))
    · exact collisionFree.mono (List.subset_append_right _ _)

end Invariant

section ExactlyOnce

variable {runtime : ReceiptRuntime} {ι : Type} (calls : ι → EmitCall)

/-- Exactly-once emission, as a reached state shows it. -/
structure ExactlyOnce (state : EmissionState ι) : Prop where
  oneReceipt : ∀ left ∈ state.repository.receipts.values,
    ∀ right ∈ state.repository.receipts.values,
      left.tenant_id_hash = right.tenant_id_hash → left.request_id = right.request_id → left = right
  returnedStored : ∀ process receipt, state.phases process = .returned receipt →
    state.repository.get receipt.tenant_id_hash receipt.receipt_id = some receipt
  /-- Calls with the same input, made by emitters with one HMAC secret. -/
  sameInput : ∀ left right, (calls left).input = (calls right).input →
    (calls left).emitter.hmacSecret = (calls right).emitter.hmacSecret →
      ∀ leftReceipt rightReceipt, state.phases left = .returned leftReceipt →
        state.phases right = .returned rightReceipt → leftReceipt = rightReceipt

variable {calls}

/-- Calls that know what is stored have emitted exactly once. -/
theorem exactlyOnce_of_sound {state : EmissionState ι}
    (invariant : state.repository.Invariant runtime)
    (sound : ∀ process, (state.phases process).Sound runtime (calls process) state.repository) :
    ExactlyOnce calls state := by
  have returned : ∀ process receipt, state.phases process = .returned receipt →
      state.repository.get receipt.tenant_id_hash receipt.receipt_id = some receipt ∧
        (calls process).Concerns runtime receipt.toReceiptBody := by
    intro process receipt isReturned
    have soundHere := sound process
    rw [isReturned] at soundHere
    exact soundHere
  refine ⟨?_, ?_, ?_⟩
  · intro left leftStored right rightStored sameTenant sameRequest
    exact invariant.eq_of_request leftStored rightStored sameTenant sameRequest
  · intro process receipt isReturned
    exact (returned process receipt isReturned).1
  · intro left right sameInput sameSecret leftReceipt rightReceipt leftReturned rightReturned
    obtain ⟨leftFound, leftConcerned⟩ := returned left leftReceipt leftReturned
    obtain ⟨rightFound, rightConcerned⟩ := returned right rightReceipt rightReturned
    have leftStored := ((invariant.get_eq_some_iff leftReceipt.isDigest_tenant).mp leftFound).1
    have rightStored := ((invariant.get_eq_some_iff rightReceipt.isDigest_tenant).mp rightFound).1
    apply invariant.eq_of_request leftStored rightStored
    · rw [leftConcerned.tenant, rightConcerned.tenant, EmitCall.tenantIdHash,
        EmitCall.tenantIdHash, sameInput, sameSecret]
    · rw [leftConcerned.request, rightConcerned.request, sameInput]

variable [DecidableEq ι]

theorem runEmissions_append (state : EmissionState ι) (before after : List (EmissionEvent ι)) :
    runEmissions runtime calls state (before ++ after) =
      runEmissions runtime calls (runEmissions runtime calls state before) after :=
  List.foldl_append

/-- Every interleaving of `emit` calls, over a repository with any history of puts, emits exactly
once; a receipt that is stored at some point of the run is found unchanged at its end. -/
theorem exactlyOnce_runEmissions (stored : List JsValue) (events : List (EmissionEvent ι))
    (collisionFree : runtime.sha256.CollisionFreeOn
      (comparedTexts runtime calls
        (.initial (InMemoryRepository.empty.runPuts runtime stored)) events)) :
    ExactlyOnce calls (runEmissions runtime calls
        (.initial (InMemoryRepository.empty.runPuts runtime stored)) events) ∧
      ∀ (before after : List (EmissionEvent ι)), events = before ++ after →
        ∀ (tenant receiptId : JsString) (receipt : SignedDecisionReceipt),
          (runEmissions runtime calls (.initial (InMemoryRepository.empty.runPuts runtime stored))
              before).repository.get tenant receiptId = some receipt →
            (runEmissions runtime calls (.initial (InMemoryRepository.empty.runPuts runtime stored))
              events).repository.get tenant receiptId = some receipt := by
  have invariant := (InMemoryRepository.invariant_empty runtime).runPuts stored
  constructor
  · apply exactlyOnce_of_sound (invariant_runEmissions invariant events)
    exact runEmissions_sound events invariant (fun _ => trivial) collisionFree
  · intro before after split tenant receiptId receipt found
    rw [split, runEmissions_append]
    exact get_runEmissions after found

end ExactlyOnce

namespace Sample

def emitter : DefaultDecisionReceiptEmitter where
  algorithm := .LOCAL_HMAC_SHA256_DEV_ONLY
  hmacSecret := js "identity-secret"
  secretNonempty := by decide

def allowed : Policy.PolicyDecision := ⟨.ALLOW, [], .ofNat 0⟩

def emissionInput (requestId timestamp : String) : DecisionReceiptEmissionInput where
  identity := ⟨js "tenant-1", js "user-1", js "session-1", js requestId⟩
  modelId := js "model"
  policyVersion := js "v1"
  policyHash := List.replicate 64 (unit '4')
  inputDigest := digest '5'
  retrievedContextDigests := []
  preDecision := allowed
  postDecision := allowed
  memoryWritten := false
  consentState := .granted
  latencyMs := .ofNat 12
  costEstimateUsd := none
  previousReceiptHash := none
  executionContextHash := none
  executionNonce := none
  timestamp := js timestamp

def reply : SignerReply := .ok (js "c2lnbmF0dXJl", js "key-1")

def repeated : Bool → EmitCall := fun _ => ⟨emitter, emissionInput "req-1" "2026-07-07T12:00:00Z"⟩

/-- The calls take their five steps in turn: both see no head, and both sign. -/
def alternating : List (EmissionEvent Bool) :=
  (List.replicate 5 [(false, reply), (true, reply)]).flatten

theorem evaluated_alternating :
    (∀ text ∈ comparedTexts runtime repeated (.initial .empty) alternating,
      (comparedTexts runtime repeated (.initial .empty) alternating).head? = some text) ∧
      ∀ process, ((runEmissions runtime repeated (.initial .empty) alternating).phases
        process).receipt?.isSome = true := by
  rw [runtime_eq]
  decide +kernel

/-- Two calls with one input, made by emitters with different secrets. -/
def twoSecrets : Bool → EmitCall
  | false => repeated false
  | true => ⟨{ emitter with
      hmacSecret := js "other-secret"
      secretNonempty := by decide }, (repeated true).input⟩

theorem evaluated_twoSecrets :
    (((comparedTexts runtime twoSecrets (.initial .empty) alternating).take 2).map
        runtime.sha256.sha256Hex).Nodup ∧
      comparedTexts runtime twoSecrets (.initial .empty) alternating ⊆
        (comparedTexts runtime twoSecrets (.initial .empty) alternating).take 2 ∧
      (∀ process, ((runEmissions runtime twoSecrets (.initial .empty) alternating).phases
        process).receipt?.isSome = true) ∧
      ((runEmissions runtime twoSecrets (.initial .empty) alternating).phases false).receipt? ≠
        ((runEmissions runtime twoSecrets (.initial .empty) alternating).phases true).receipt? := by
  rw [runtime_eq]
  decide +kernel

end Sample

/-- Two emitters with different secrets return different receipts for one input. -/
theorem sameInput_receipts_differ :
    (Sample.twoSecrets false).input = (Sample.twoSecrets true).input ∧
      Sample.runtime.sha256.CollisionFreeOn
        (comparedTexts Sample.runtime Sample.twoSecrets (.initial .empty) Sample.alternating) ∧
      (∀ process, ((runEmissions Sample.runtime Sample.twoSecrets (.initial .empty)
        Sample.alternating).phases process).receipt?.isSome = true) ∧
      ((runEmissions Sample.runtime Sample.twoSecrets (.initial .empty)
          Sample.alternating).phases false).receipt? ≠
        ((runEmissions Sample.runtime Sample.twoSecrets (.initial .empty)
          Sample.alternating).phases true).receipt? := by
  obtain ⟨distinct, covered, returned, differ⟩ := Sample.evaluated_twoSecrets
  exact ⟨rfl, Sha256.CollisionFreeOn.of_nodup _ distinct covered, returned, differ⟩

/-- Two calls with one input, step by step in turn. -/
theorem exactlyOnce_runEmissions_alternating :
    (∀ process, ((runEmissions Sample.runtime Sample.repeated (.initial .empty)
        Sample.alternating).phases process).receipt?.isSome = true) ∧
      ExactlyOnce Sample.repeated (runEmissions Sample.runtime Sample.repeated
        (.initial (InMemoryRepository.empty.runPuts Sample.runtime [])) Sample.alternating) ∧
      ∀ (before after : List (EmissionEvent Bool)), Sample.alternating = before ++ after →
        ∀ (tenant receiptId : JsString) (receipt : SignedDecisionReceipt),
          (runEmissions Sample.runtime Sample.repeated
              (.initial (InMemoryRepository.empty.runPuts Sample.runtime []))
              before).repository.get tenant receiptId = some receipt →
            (runEmissions Sample.runtime Sample.repeated
              (.initial (InMemoryRepository.empty.runPuts Sample.runtime []))
              Sample.alternating).repository.get tenant receiptId = some receipt := by
  refine ⟨Sample.evaluated_alternating.2, ?_⟩
  apply exactlyOnce_runEmissions
  exact Sha256.CollisionFreeOn.of_head? Sample.evaluated_alternating.1

end GhostArk.EnforcementRuntime.Receipts
