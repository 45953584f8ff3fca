import GhostArk.EnforcementRuntime.Receipts.ConcurrentEmission
import GhostArk.EnforcementRuntime.Receipts.RepositoryRefinement

/-!
Contract: any number of `emit` calls that share one DynamoDB table.

Owns the calls with each request to the service as a step of its own: the transaction of a put,
and the reads that follow a failed condition, before and between which other calls may write. A
table always represents the maps of some history of puts, so its receipts form hash chains, and
these runs emit exactly once too.

Nothing is asked of what the service throws when a condition fails.
-/

namespace GhostArk.EnforcementRuntime.Receipts

open Js ReceiptSchema Lib

namespace DynamoDb

/-! ### The requests of a call -/

/-- The reads of `resolveConditionalCollision`. -/
inductive Read where
  | requestMarker
  | target (marker : Item)
  | storedReceipt
  | observedHead

/-- Where a call stands: in `emit`, or in a put whose conditions have failed. -/
inductive RequestPhase where
  | emitting (phase : Phase)
  | resolving (read : Read) (attempt : Attempt) (receipt : SignedDecisionReceipt)

section Requests

variable (runtime : ReceiptRuntime) (service : DynamoDbService) (call : EmitCall) (table : Table)

def readHead (attempt : Attempt) : Phase :=
  if attempt.attempt < 3 then
    let previousReceiptHash :=
      call.input.previousReceiptHash.getD (latestHashForTenant table attempt.tenantIdHash)
    Phase.next (.lookingUp attempt)
      (buildUnsigned runtime call.emitter call.input attempt.tenantIdHash previousReceiptHash)
  else .threw (headKeptAdvancing call.input attempt.tenantIdHash)

def lookUp (attempt : Attempt) (unsigned : UnsignedDecisionReceipt) : Phase :=
  match get runtime table unsigned.tenant_id_hash unsigned.receipt_id with
  | .error error => .threw error
  | .ok (some existingReceipt) => Phase.next .returned (replayLookup runtime unsigned existingReceipt)
  | .ok none => .signing attempt unsigned

def transact (attempt : Attempt) (signed : SignedDecisionReceipt) : RequestPhase × Table :=
  match prepare runtime signed.toJs with
  | .error error => (.emitting (call.afterPut attempt (.error error)), table)
  | .ok (validated, requestMarkerId, requestDigest, receiptHash) =>
    match service.transactWrite table
      (putTransaction validated requestMarkerId requestDigest receiptHash) with
    | .ok written =>
      (.emitting (call.afterPut attempt (.ok ⟨.CREATED, validated, validated.timestamp⟩)),
        written)
    | .error error =>
      if isConditionalCheckFailed error then (.resolving .requestMarker attempt validated, table)
      else (.emitting (call.afterPut attempt (.error error.toJsError)), table)

def readMarker (attempt : Attempt) (receipt : SignedDecisionReceipt) : RequestPhase :=
  match requestMarkerReceiptId receipt.request_id with
  | .error error => .emitting (call.afterPut attempt (.error error))
  | .ok requestMarkerId =>
    match table.get? (receipt.tenant_id_hash, requestMarkerId) with
    | some marker => .resolving (.target marker) attempt receipt
    | none => .resolving .storedReceipt attempt receipt

def compareDigests (receipt stored : SignedDecisionReceipt) (item : Option Item) :
    Except JsError PersistenceResult := do
  let incomingDigest ← decisionReceiptDigest runtime receipt.toUnsignedDecisionReceipt
  let storedDigest ← decisionReceiptDigest runtime stored.toUnsignedDecisionReceipt
  if incomingDigest ≠ storedDigest then
    .error (receiptDigestMismatch receipt incomingDigest storedDigest)
  else .ok ⟨.IDEMPOTENT_EXISTING, stored, persistedAtFromItem item stored⟩

def readReceipt (attempt : Attempt) (receipt : SignedDecisionReceipt) : RequestPhase :=
  let item := table.get? (receipt.tenant_id_hash, receipt.receipt_id)
  match storedReceipt runtime item with
  | .error error => .emitting (call.afterPut attempt (.error error))
  | .ok none => .resolving .observedHead attempt receipt
  | .ok (some stored) =>
    .emitting (call.afterPut attempt (compareDigests runtime receipt stored item))

def step (reply : SignerReply) : RequestPhase → RequestPhase × Table
  | .emitting .called =>
    (.emitting (Phase.next (fun tenantIdHash => .readingHead ⟨tenantIdHash, 0⟩)
      (call.begin runtime)), table)
  | .emitting (.readingHead attempt) => (.emitting (readHead runtime call table attempt), table)
  | .emitting (.lookingUp attempt unsigned) =>
    (.emitting (lookUp runtime table attempt unsigned), table)
  | .emitting (.signing attempt unsigned) =>
    (.emitting (Phase.next (.putting attempt) (sign runtime call.emitter unsigned reply)), table)
  | .emitting (.putting attempt signed) => transact runtime service call table attempt signed
  | .emitting phase => (.emitting phase, table)
  | .resolving .requestMarker attempt receipt => (readMarker call table attempt receipt, table)
  | .resolving (.target marker) attempt receipt =>
    (.emitting (call.afterPut attempt
      (resolveRequestMarkerCollision runtime table receipt marker)), table)
  | .resolving .storedReceipt attempt receipt =>
    (readReceipt runtime call table attempt receipt, table)
  | .resolving .observedHead attempt receipt =>
    (.emitting (call.afterPut attempt (resolveWithoutReceipt table receipt)), table)

/-- The canonical texts of a receipt and of the one stored under its id. -/
def lookupTexts (unsigned : UnsignedDecisionReceipt) : List JsString :=
  (unsigned :: ((get runtime table unsigned.tenant_id_hash
    unsigned.receipt_id).toOption.join.toList.map
      SignedDecisionReceipt.toUnsignedDecisionReceipt)).filterMap fun receipt =>
        (canonicalUnsignedDecisionReceipt runtime receipt).toOption

def RequestPhase.comparedTexts : RequestPhase → List JsString
  | .emitting (.lookingUp _ unsigned) => lookupTexts runtime table unsigned
  | .resolving .storedReceipt _ receipt => lookupTexts runtime table receipt.toUnsignedDecisionReceipt
  | _ => []

end Requests

structure TableState (ι : Type) where
  table : Table
  phases : ι → RequestPhase

def TableState.initial {ι : Type} : TableState ι := ⟨.empty, fun _ => .emitting .called⟩

section Runs

variable (runtime : ReceiptRuntime) (service : DynamoDbService) {ι : Type} [DecidableEq ι]
  (calls : ι → EmitCall)

def stepRequest (state : TableState ι) (event : EmissionEvent ι) : TableState ι :=
  let next := step runtime service (calls event.1) state.table event.2 (state.phases event.1)
  ⟨next.2, Function.update state.phases event.1 next.1⟩

def runRequests (state : TableState ι) (events : List (EmissionEvent ι)) : TableState ι :=
  events.foldl (stepRequest runtime service calls) state

def comparedTexts : TableState ι → List (EmissionEvent ι) → List JsString
  | _, [] => []
  | state, event :: rest =>
    (state.phases event.1).comparedTexts runtime state.table ++
      comparedTexts (stepRequest runtime service calls state event) rest

end Runs

/-! ### Requests over the maps -/

variable {runtime : ReceiptRuntime} {service : DynamoDbService} {call : EmitCall} {table : Table}
  {repository : InMemoryRepository}

theorem lookupTexts_refines (represents : Represents table repository)
    (invariant : repository.Invariant runtime) (unsigned : UnsignedDecisionReceipt) :
    lookupTexts runtime table unsigned = repository.lookupTexts runtime unsigned := by
  rw [lookupTexts, get_refines represents invariant unsigned.isDigest_tenant]
  rfl

theorem isDigest_tenantIdHash : isDigest (call.tenantIdHash runtime) = true := by
  rw [isDigest, Bool.or_eq_true]
  exact Or.inr (isTaggedHex64_iff.mpr ⟨_, runtime.hmacSha256.isHex64_hmacHex _ _, rfl⟩)

variable {attempt : Attempt}

theorem readHead_refines (represents : Represents table repository)
    (sameTenant : attempt.tenantIdHash = call.tenantIdHash runtime) :
    readHead runtime call table attempt = call.readHead runtime repository attempt := by
  have shape := @isDigest_tenantIdHash runtime call
  rw [← sameTenant] at shape
  rw [readHead, latestHashForTenant_refines represents shape]
  rfl

theorem lookUp_refines (represents : Represents table repository)
    (invariant : repository.Invariant runtime) (attempt : Attempt)
    (unsigned : UnsignedDecisionReceipt) :
    lookUp runtime table attempt unsigned =
      EmitCall.lookUp runtime repository attempt unsigned := by
  rw [lookUp, get_refines represents invariant unsigned.isDigest_tenant, EmitCall.lookUp]
  cases repository.get unsigned.tenant_id_hash unsigned.receipt_id with
  | none => rfl
  | some existing => rfl

/-- A transaction that goes through is a put of the maps that creates its receipt. -/
theorem transactWrite_refines (represents : Represents table repository) {receipt : JsValue}
    {validated : SignedDecisionReceipt} {requestMarkerId requestDigest receiptHash : JsString}
    {written : Table}
    (isPrepared : prepare runtime receipt =
      .ok (validated, requestMarkerId, requestDigest, receiptHash))
    (wrote : service.transactWrite table
      (putTransaction validated requestMarkerId requestDigest receiptHash) = .ok written) :
    (repository.put runtime receipt).1 = .ok ⟨.CREATED, validated, validated.timestamp⟩ ∧
      Represents written (repository.put runtime receipt).2 := by
  simp only [prepare, bind_eq_ok, pure_eq_ok, Prod.mk.injEq] at isPrepared
  obtain ⟨_, valid, _, marker, _, digest, _, hashed, rfl, rfl, rfl, rfl⟩ := isPrepared
  rw [DynamoDbService.transactWrite, conditionOutcomes_eq represents marker] at wrote
  split at wrote
  next hold =>
    obtain rfl := Except.ok.inj wrote
    simp only [List.all_cons, List.all_nil, id_eq, Bool.and_true, Bool.and_eq_true,
      Option.isNone_iff_eq_none, decide_eq_true_eq, InMemoryRepository.get] at hold
    obtain ⟨free, unmarked, onHead⟩ := hold
    rw [InMemoryRepository.put, InMemoryRepository.prepare, valid, ok_bind, marker, ok_bind,
      digest, ok_bind]
    simp only [pure, Except.pure, unmarked, free, hashed, InMemoryRepository.create]
    rw [if_neg (not_not_intro onHead)]
    exact ⟨rfl, represents_stored represents marker onHead⟩
  next => cases wrote

theorem get_created (invariant : repository.Invariant runtime) {receipt : JsValue}
    {created : SignedDecisionReceipt} {persistedAt : JsString}
    (isCreated : (repository.put runtime receipt).1 = .ok ⟨.CREATED, created, persistedAt⟩) :
    (repository.put runtime receipt).2.get created.tenant_id_hash created.receipt_id =
      some created := by
  have step := @InMemoryRepository.put_step runtime repository receipt
  have invariantAfter := invariant.step step
  rw [isCreated] at step
  revert step invariantAfter
  generalize (repository.put runtime receipt).2 = after
  intro step invariantAfter
  cases step with
  | created validated requestMarkerId requestDigest headHash prepared unmarked free =>
    apply invariantAfter.get_self
    rw [InMemoryRepository.values_stored free]
    exact List.mem_append_right _ List.mem_cons_self

/-! ### The invariant of a run -/

/-- A marker that was read points at a stored receipt of the call's request. -/
def Read.Sound (runtime : ReceiptRuntime) (call : EmitCall) (repository : InMemoryRepository)
    (receipt : SignedDecisionReceipt) : Read → Prop
  | .target marker =>
    ∃ target, repository.get receipt.tenant_id_hash
        ((readString (attributeOf marker "targetReceiptId")).getD []) = some target ∧
      call.Concerns runtime target.toReceiptBody
  | _ => True

def RequestPhase.Sound (runtime : ReceiptRuntime) (call : EmitCall)
    (repository : InMemoryRepository) : RequestPhase → Prop
  | .emitting phase => phase.Sound runtime call repository
  | .resolving read attempt receipt =>
    (Phase.putting attempt receipt).Sound runtime call repository ∧
      read.Sound runtime call repository receipt

variable {phase : RequestPhase}

/-- What a call knows of the table stays true when others write. -/
theorem RequestPhase.Sound.runPuts (sound : phase.Sound runtime call repository)
    (candidates : List JsValue) :
    phase.Sound runtime call (repository.runPuts runtime candidates) := by
  cases phase with
  | emitting phase => exact Phase.Sound.runPuts sound candidates
  | resolving read attempt receipt =>
    refine ⟨sound.1, ?_⟩
    cases read with
    | target marker =>
      obtain ⟨target, found, concerned⟩ := sound.2
      exact ⟨target, InMemoryRepository.get_runPuts candidates found, concerned⟩
    | requestMarker => trivial
    | storedReceipt => trivial
    | observedHead => trivial

/-- Where the call stands over the maps: a put that is being resolved is yet to be made. -/
def RequestPhase.emission : RequestPhase → Phase
  | .emitting phase => phase
  | .resolving _ attempt receipt => .putting attempt receipt

theorem RequestPhase.Sound.emission (sound : phase.Sound runtime call repository) :
    phase.emission.Sound runtime call repository := by
  cases phase with
  | emitting phase => exact sound
  | resolving read attempt receipt => exact sound.1

theorem afterPut_error_sound (error : JsError)
    (sameTenant : attempt.tenantIdHash = call.tenantIdHash runtime) :
    (call.afterPut attempt (.error error)).Sound runtime call repository :=
  EmitCall.afterPut_sound sameTenant fun _ returned => nomatch returned

section Reads

variable {attempt : Attempt} {receipt : SignedDecisionReceipt}

theorem readMarker_sound (represents : Represents table repository)
    (invariant : repository.Invariant runtime)
    (sound : (Phase.putting attempt receipt).Sound runtime call repository) :
    (readMarker call table attempt receipt).Sound runtime call repository := by
  unfold readMarker
  split
  next error _ => exact afterPut_error_sound error sound.1
  next requestMarkerId isMarker =>
    split
    next item isItem =>
      have shape := receipt.isDigest_tenant
      have slot := represents.markers _ _ _ shape isMarker
      rw [isItem] at slot
      refine ⟨sound, ?_⟩
      generalize marked : repository.requestMarkers.get?
        (InMemoryRepository.key receipt.tenant_id_hash requestMarkerId) = found at slot
      cases slot with
      | taken stored markerId digest =>
        obtain ⟨target, member, sameTenant, sameRequest, sameId⟩ :=
          invariant.marked_target shape isMarker marked
        refine ⟨target, (invariant.get_eq_some_iff shape).mpr ⟨member, sameTenant, sameId⟩, ?_⟩
        exact ⟨sameTenant.trans sound.2.tenant, sameRequest.trans sound.2.request⟩
    next => exact ⟨sound, trivial⟩

/-- Only the target of the marker is ever returned. -/
theorem resolveRequestMarkerCollision_eq_ok (represents : Represents table repository)
    (invariant : repository.Invariant runtime) {marker : Item} {result : PersistenceResult}
    (resolved : resolveRequestMarkerCollision runtime table receipt marker = .ok result) :
    repository.get receipt.tenant_id_hash
      ((readString (attributeOf marker "targetReceiptId")).getD []) = some result.receipt := by
  obtain ⟨target, isTarget, resolved⟩ := bind_eq_ok.mp resolved
  cases target with
  | none => cases resolved
  | some stored =>
    obtain ⟨_, -, resolved⟩ := bind_eq_ok.mp resolved
    obtain ⟨_, -, resolved⟩ := bind_eq_ok.mp resolved
    split at resolved
    next => cases resolved
    next =>
      cases resolved
      rw [markerTarget] at isTarget
      split at isTarget
      next =>
        rw [get_refines represents invariant receipt.isDigest_tenant] at isTarget
        exact Except.ok.inj isTarget
      next => cases isTarget

theorem readTarget_sound (represents : Represents table repository)
    (invariant : repository.Invariant runtime) {marker : Item}
    (sound : (RequestPhase.resolving (.target marker) attempt receipt).Sound runtime call
      repository) :
    (call.afterPut attempt (resolveRequestMarkerCollision runtime table receipt marker)).Sound
      runtime call repository := by
  obtain ⟨soundPut, target, found, concerned⟩ := sound
  apply EmitCall.afterPut_sound soundPut.1
  intro result resolved
  rw [resolveRequestMarkerCollision_eq_ok represents invariant resolved, Option.some.injEq] at found
  subst found
  have isTarget := resolveRequestMarkerCollision_eq_ok represents invariant resolved
  have member := ((invariant.get_eq_some_iff receipt.isDigest_tenant).mp isTarget).1
  exact ⟨invariant.get_self member, concerned⟩

theorem compareDigests_eq_ok {stored : SignedDecisionReceipt} {item : Option Item}
    {result : PersistenceResult}
    (compared : compareDigests runtime receipt stored item = .ok result) :
    result.receipt = stored ∧
      ∃ digest, decisionReceiptDigest runtime receipt.toUnsignedDecisionReceipt = .ok digest ∧
        decisionReceiptDigest runtime stored.toUnsignedDecisionReceipt = .ok digest := by
  obtain ⟨incomingDigest, incoming, compared⟩ := bind_eq_ok.mp compared
  obtain ⟨storedDigest, isStored, compared⟩ := bind_eq_ok.mp compared
  split at compared
  next => cases compared
  next same =>
    cases compared
    exact ⟨rfl, storedDigest, by rw [incoming, not_not.mp same], isStored⟩

theorem readReceipt_sound (represents : Represents table repository)
    (sound : (Phase.putting attempt receipt).Sound runtime call repository)
    (collisionFree : runtime.sha256.CollisionFreeOn
      (repository.lookupTexts runtime receipt.toUnsignedDecisionReceipt)) :
    (readReceipt runtime call table attempt receipt).Sound runtime call repository := by
  have slot := represents.receipts _ _ receipt.isDigest_tenant receipt.receiptIdShape
  rw [readReceipt, storedReceipt_of_slot slot]
  cases found : repository.get receipt.tenant_id_hash receipt.receipt_id with
  | none => exact ⟨sound, trivial⟩
  | some stored =>
    apply EmitCall.afterPut_sound sound.1
    intro result compared
    obtain ⟨rfl, sameDigest⟩ := compareDigests_eq_ok compared
    have sameUnsigned := InMemoryRepository.eq_of_lookup collisionFree found sameDigest
    rw [sameUnsigned]
    exact ⟨found, sound.2⟩

end Reads

/-- What a request does to the table, some puts do to the maps; against them, the call is sound. -/
def Reaches (runtime : ReceiptRuntime) (call : EmitCall) (repository : InMemoryRepository)
    (sound : Prop) (next : RequestPhase × Table) : Prop :=
  ∃ candidates, Represents next.2 (repository.runPuts runtime candidates) ∧
    (sound → next.1.Sound runtime call (repository.runPuts runtime candidates))

theorem Reaches.unchanged {sound : Prop} (represents : Represents table repository)
    (stays : sound → phase.Sound runtime call repository) :
    Reaches runtime call repository sound (phase, table) :=
  ⟨[], represents, stays⟩

theorem transact_reaches (represents : Represents table repository)
    (invariant : repository.Invariant runtime) {signed : SignedDecisionReceipt} {sound : Prop}
    (isSound : sound → (Phase.putting attempt signed).Sound runtime call repository) :
    Reaches runtime call repository sound
      (transact runtime service call table attempt signed) := by
  unfold transact
  split
  next error _ =>
    exact .unchanged represents fun sound => afterPut_error_sound error (isSound sound).1
  next validated requestMarkerId requestDigest receiptHash isPrepared =>
    obtain ⟨_, valid, rest⟩ := bind_eq_ok.mp isPrepared
    rw [validateSignedDecisionReceipt_toJs, Except.ok.injEq] at valid
    have isSigned : validated = signed := by
      simp only [bind_eq_ok, pure_eq_ok, Prod.mk.injEq] at rest
      obtain ⟨_, -, _, -, _, -, rfl, -⟩ := rest
      exact valid.symm
    subst isSigned
    split
    next written wrote =>
      obtain ⟨created, stillRepresents⟩ := transactWrite_refines represents isPrepared wrote
      refine ⟨[validated.toJs], stillRepresents, fun sound => ?_⟩
      dsimp only [RequestPhase.Sound]
      apply EmitCall.afterPut_sound (isSound sound).1
      intro result isResult
      cases isResult
      exact ⟨get_created invariant created, (isSound sound).2⟩
    next error _ =>
      split
      next => exact .unchanged represents fun sound => ⟨isSound sound, trivial⟩
      next =>
        refine .unchanged represents fun sound => ?_
        exact @afterPut_error_sound runtime call repository attempt error.toJsError
          (isSound sound).1

theorem step_reaches (represents : Represents table repository)
    (invariant : repository.Invariant runtime) (phase : RequestPhase) (reply : SignerReply) :
    Reaches runtime call repository
      (phase.Sound runtime call repository ∧
        runtime.sha256.CollisionFreeOn (phase.comparedTexts runtime table))
      (step runtime service call table reply phase) := by
  cases phase with
  | emitting phase =>
    cases phase with
    | called =>
      exact .unchanged represents fun sound =>
        @EmitCall.step_sound runtime call repository invariant .called reply trivial sound.2
    | readingHead attempt =>
      refine .unchanged represents fun sound => ?_
      rw [readHead_refines represents sound.1]
      exact EmitCall.readHead_sound sound.1
    | lookingUp attempt unsigned =>
      refine .unchanged represents fun sound => ?_
      rw [lookUp_refines represents invariant]
      exact EmitCall.lookUp_sound sound.1.1 sound.1.2
        (lookupTexts_refines represents invariant _ ▸ sound.2)
    | signing attempt unsigned =>
      exact .unchanged represents fun sound => @EmitCall.step_sound runtime call repository
        invariant (.signing attempt unsigned) reply sound.1 sound.2
    | putting attempt signed => exact transact_reaches represents invariant And.left
    | returned receipt => exact .unchanged represents And.left
    | threw error => exact .unchanged represents And.left
  | resolving read attempt receipt =>
    cases read with
    | requestMarker =>
      exact .unchanged represents fun sound =>
        readMarker_sound represents invariant sound.1.1
    | target marker =>
      exact .unchanged represents fun sound => readTarget_sound represents invariant sound.1
    | storedReceipt =>
      exact .unchanged represents fun sound => readReceipt_sound represents sound.1.1
        (lookupTexts_refines represents invariant _ ▸ sound.2)
    | observedHead =>
      refine .unchanged represents fun sound => ?_
      apply EmitCall.afterPut_sound sound.1.1.1
      intro result resolved
      rw [resolveWithoutReceipt] at resolved
      split at resolved <;> cases resolved

variable {ι : Type} [DecidableEq ι] {calls : ι → EmitCall}

theorem stepRequest_reaches {state : TableState ι} (event : EmissionEvent ι)
    (represents : Represents state.table repository) (invariant : repository.Invariant runtime) :
    ∃ candidates,
      Represents (stepRequest runtime service calls state event).table
          (repository.runPuts runtime candidates) ∧
        (runtime.sha256.CollisionFreeOn
            ((state.phases event.1).comparedTexts runtime state.table) →
          (∀ process, (state.phases process).Sound runtime (calls process) repository) →
            ∀ process, ((stepRequest runtime service calls state event).phases process).Sound
              runtime (calls process) (repository.runPuts runtime candidates)) := by
  obtain ⟨candidates, representsAfter, soundAfter⟩ :=
    step_reaches represents invariant (state.phases event.1) event.2
  refine ⟨candidates, representsAfter, ?_⟩
  intro collisionFree sound process
  dsimp only [stepRequest]
  by_cases stepping : process = event.1
  · subst stepping
    rw [Function.update_self]
    exact soundAfter ⟨sound event.1, collisionFree⟩
  · rw [Function.update_of_ne stepping]
    exact (sound process).runPuts candidates

/-- The table of a run represents the maps after some puts; where no compared texts collide, every
call is sound against them. -/
theorem runRequests_reaches {state : TableState ι} (events : List (EmissionEvent ι))
    (represents : Represents state.table repository) (invariant : repository.Invariant runtime) :
    ∃ candidates,
      Represents (runRequests runtime service calls state events).table
          (repository.runPuts runtime candidates) ∧
        (runtime.sha256.CollisionFreeOn (comparedTexts runtime service calls state events) →
          (∀ process, (state.phases process).Sound runtime (calls process) repository) →
            ∀ process, ((runRequests runtime service calls state events).phases process).Sound
              runtime (calls process) (repository.runPuts runtime candidates)) := by
  induction events generalizing state repository with
  | nil => exact ⟨[], represents, fun _ sound => sound⟩
  | cons event rest ih =>
    obtain ⟨first, representsNext, soundNext⟩ := stepRequest_reaches event represents invariant
    obtain ⟨later, representsLast, soundLast⟩ := ih representsNext (invariant.runPuts first)
    refine ⟨first ++ later, ?_⟩
    rw [InMemoryRepository.runPuts_append]
    refine ⟨representsLast, fun collisionFree sound => ?_⟩
    apply soundLast (collisionFree.mono (List.subset_append_right _ _))
    exact soundNext (collisionFree.mono (List.subset_append_left _ _)) sound

/-- The receipt is what its own tenant and id read. -/
def IsStored (runtime : ReceiptRuntime) (table : Table) (receipt : SignedDecisionReceipt) : Prop :=
  get runtime table receipt.tenant_id_hash receipt.receipt_id = .ok (some receipt)

/-- The table stores exactly the receipts of the maps it represents. -/
theorem isStored_iff (represents : Represents table repository)
    (invariant : repository.Invariant runtime) (receipt : SignedDecisionReceipt) :
    IsStored runtime table receipt ↔ receipt ∈ repository.receipts.values := by
  rw [IsStored, get_refines represents invariant receipt.isDigest_tenant, Except.ok.injEq,
    invariant.get_eq_some_iff receipt.isDigest_tenant]
  simp

variable (runtime service calls) in
/-- In every interleaving, whatever the hash function and the service do: the receipts that are
stored for the tenant of a call form one hash chain, and the head item holds the hash of its last
receipt. Nothing that was stored is lost. -/
theorem chained_runRequests (before after : List (EmissionEvent ι)) :
    (∀ process, ∃ chain : List SignedDecisionReceipt, chain.Nodup ∧
      Linked IsGenesis (Follows runtime) chain ∧
        chain.getLast?.map (signedDecisionReceiptHash runtime) =
          (latestHashForTenant (runRequests runtime service calls .initial before).table
            ((calls process).tenantIdHash runtime)).map .ok ∧
        ∀ receipt, receipt ∈ chain ↔
          receipt.tenant_id_hash = (calls process).tenantIdHash runtime ∧
            IsStored runtime (runRequests runtime service calls .initial before).table receipt) ∧
      ∀ receipt,
        IsStored runtime (runRequests runtime service calls .initial before).table receipt →
          IsStored runtime (runRequests runtime service calls .initial (before ++ after)).table
            receipt := by
  obtain ⟨puts, represents, -⟩ := @runRequests_reaches runtime service .empty ι _ calls .initial
    before represents_empty (InMemoryRepository.invariant_empty runtime)
  have invariant := (InMemoryRepository.invariant_empty runtime).runPuts puts
  constructor
  · intro process
    refine ⟨(InMemoryRepository.empty.runPuts runtime puts).tenantReceipts
      ((calls process).tenantIdHash runtime), invariant.nodup_values.filter _,
      invariant.linked _, ?_, ?_⟩
    · rw [latestHashForTenant_refines represents isDigest_tenantIdHash]
      exact invariant.heads _
    · intro receipt
      rw [isStored_iff represents invariant, InMemoryRepository.tenantReceipts, List.mem_filter,
        decide_eq_true_eq, and_comm]
  · intro receipt isStored
    obtain ⟨later, representsLater, -⟩ := @runRequests_reaches runtime service _ ι _ calls _
      after represents invariant
    rw [isStored_iff represents invariant] at isStored
    rw [runRequests, List.foldl_append]
    apply (isStored_iff representsLater (invariant.runPuts later) receipt).mpr
    have found := @InMemoryRepository.get_runPuts runtime _ _ _ _ later
      (invariant.get_self isStored)
    exact (((invariant.runPuts later).get_eq_some_iff receipt.isDigest_tenant).mp found).1

/-! ### Every call ends -/

/-- At most how many steps the call has yet to take: an attempt takes seven, and there are three. -/
def RequestPhase.stepsLeft : RequestPhase → ℕ
  | .emitting .called => 22
  | .emitting (.readingHead attempt) => 7 * (2 - attempt.attempt) + 7
  | .emitting (.lookingUp attempt _) => 7 * (2 - attempt.attempt) + 6
  | .emitting (.signing attempt _) => 7 * (2 - attempt.attempt) + 5
  | .emitting (.putting attempt _) => 7 * (2 - attempt.attempt) + 4
  | .resolving .requestMarker attempt _ => 7 * (2 - attempt.attempt) + 3
  | .resolving (.target _) attempt _ => 7 * (2 - attempt.attempt) + 2
  | .resolving .storedReceipt attempt _ => 7 * (2 - attempt.attempt) + 2
  | .resolving .observedHead attempt _ => 7 * (2 - attempt.attempt) + 1
  | .emitting _ => 0

theorem stepsLeft_next {α : Type} {continuation : α → Phase} {bound : ℕ}
    (continues : ∀ value, (RequestPhase.emitting (continuation value)).stepsLeft ≤ bound)
    (result : Except JsError α) :
    (RequestPhase.emitting (Phase.next continuation result)).stepsLeft ≤ bound := by
  cases result with
  | ok value => exact continues value
  | error error => exact Nat.zero_le bound

theorem stepsLeft_afterPut (attempt : Attempt) (result : Except JsError PersistenceResult) :
    (RequestPhase.emitting (call.afterPut attempt result)).stepsLeft ≤
      7 * (2 - attempt.attempt) := by
  unfold EmitCall.afterPut
  split
  next => exact Nat.zero_le _
  next =>
    split
    next retried => simp only [RequestPhase.stepsLeft]; omega
    next => exact Nat.zero_le _

theorem stepsLeft_step (phase : RequestPhase) (reply : SignerReply) :
    (step runtime service call table reply phase).1.stepsLeft ≤ phase.stepsLeft - 1 := by
  have afterPut {attempt : Attempt} {result : Except JsError PersistenceResult} (extra : ℕ) :
      (RequestPhase.emitting (call.afterPut attempt result)).stepsLeft ≤
        7 * (2 - attempt.attempt) + extra :=
    Nat.le_add_right_of_le (stepsLeft_afterPut attempt result)
  cases phase with
  | emitting phase =>
    cases phase with
    | called =>
      apply stepsLeft_next
      exact fun _ => le_rfl
    | readingHead attempt =>
      simp only [step, readHead]
      split
      next =>
        apply stepsLeft_next
        exact fun _ => le_rfl
      next => exact Nat.zero_le _
    | lookingUp attempt unsigned =>
      simp only [step, lookUp]
      split
      next => exact Nat.zero_le _
      next => exact stepsLeft_next (fun _ => Nat.zero_le _) _
      next => exact le_rfl
    | signing attempt unsigned =>
      apply stepsLeft_next
      exact fun _ => le_rfl
    | putting attempt signed =>
      simp only [step, transact]
      split
      next => exact afterPut 3
      next =>
        split
        next => exact afterPut 3
        next =>
          split
          next => exact le_rfl
          next => exact afterPut 3
    | returned receipt => exact le_rfl
    | threw error => exact le_rfl
  | resolving read attempt receipt =>
    cases read with
    | requestMarker =>
      simp only [step, readMarker]
      split
      next => exact afterPut 2
      next => split <;> exact le_rfl
    | target marker => exact afterPut 1
    | storedReceipt =>
      simp only [step, readReceipt]
      split
      next => exact afterPut 1
      next => exact le_rfl
      next => exact afterPut 1
    | observedHead => exact afterPut 0

/-- Every event of a call brings it nearer to its end. -/
theorem stepsLeft_runRequests (state : TableState ι) (events : List (EmissionEvent ι))
    (process : ι) :
    ((runRequests runtime service calls state events).phases process).stepsLeft ≤
      (state.phases process).stepsLeft - events.countP (·.1 = process) := by
  induction events generalizing state with
  | nil => exact le_rfl
  | cons event rest ih =>
    refine (ih (stepRequest runtime service calls state event)).trans ?_
    rw [List.countP_cons]
    by_cases own : event.1 = process
    · subst own
      have less := @stepsLeft_step runtime service (calls event.1) state.table
        (state.phases event.1) event.2
      simp only [stepRequest, Function.update_self, decide_true, if_true]
      omega
    · simp only [stepRequest, Function.update_of_ne (Ne.symm own), own, decide_false]
      exact le_rfl

def RequestPhase.Settled : RequestPhase → Prop
  | .emitting (.returned _) => True
  | .emitting (.threw _) => True
  | _ => False

/-- A call without steps left has returned or thrown. -/
theorem RequestPhase.settled_of_stepsLeft (ended : phase.stepsLeft = 0) : phase.Settled := by
  cases phase with
  | emitting phase =>
    cases phase with
    | returned receipt => trivial
    | threw error => trivial
    | _ => cases ended
  | resolving read attempt receipt => cases read <;> cases ended

/-- A call that has taken 22 steps has returned or thrown, whatever the others did. -/
theorem settled_runRequests (events : List (EmissionEvent ι)) (process : ι) :
    ((runRequests runtime service calls .initial events).phases process).Settled ∨
      events.countP (·.1 = process) < 22 := by
  have left := @stepsLeft_runRequests runtime service ι _ calls .initial events process
  have start : ((TableState.initial : TableState ι).phases process).stepsLeft = 22 := rfl
  rw [start] at left
  by_cases early : events.countP (·.1 = process) < 22
  · exact Or.inr early
  · exact Or.inl (RequestPhase.settled_of_stepsLeft (by omega))

section ExactlyOnce

variable (runtime : ReceiptRuntime) {ι : Type} (calls : ι → EmitCall)

/-- Exactly-once emission, as a reached table shows it. -/
structure ExactlyOnce (state : TableState ι) : Prop where
  oneReceipt : ∀ left right, IsStored runtime state.table left → IsStored runtime state.table right →
    left.tenant_id_hash = right.tenant_id_hash → left.request_id = right.request_id → left = right
  returnedStored : ∀ process receipt, state.phases process = .emitting (.returned receipt) →
    IsStored runtime state.table receipt
  /-- Calls with the same input, made by emitters with one HMAC secret. -/
  sameInput : ∀ left right, (calls left).input = (calls right).input →
    (calls left).emitter.hmacSecret = (calls right).emitter.hmacSecret →
      ∀ leftReceipt rightReceipt, state.phases left = .emitting (.returned leftReceipt) →
        state.phases right = .emitting (.returned rightReceipt) → leftReceipt = rightReceipt

variable {runtime} {calls}

/-- Calls that know what the table stores have emitted exactly once. -/
theorem exactlyOnce_of_sound {state : TableState ι} (represents : Represents state.table repository)
    (invariant : repository.Invariant runtime)
    (sound : ∀ process, (state.phases process).Sound runtime (calls process) repository) :
    ExactlyOnce runtime calls state := by
  have once := @Receipts.exactlyOnce_of_sound runtime ι calls
    ⟨repository, fun process => (state.phases process).emission⟩ invariant
    fun process => (sound process).emission
  have returned : ∀ {process receipt}, state.phases process = .emitting (.returned receipt) →
      (state.phases process).emission = .returned receipt := by
    intro process receipt isReturned
    rw [isReturned]
    rfl
  refine ⟨?_, ?_, ?_⟩
  · intro left right leftStored rightStored
    exact once.oneReceipt left ((isStored_iff represents invariant left).mp leftStored) right
      ((isStored_iff represents invariant right).mp rightStored)
  · intro process receipt isReturned
    rw [IsStored, get_refines represents invariant receipt.isDigest_tenant,
      once.returnedStored process receipt (returned isReturned)]
  · intro left right sameInput sameSecret leftReceipt rightReceipt leftReturned rightReturned
    exact once.sameInput left right sameInput sameSecret leftReceipt rightReceipt
      (returned leftReturned) (returned rightReturned)

/-- Every interleaving of the requests of `emit` calls, over a table that is empty at first, emits
exactly once. -/
theorem exactlyOnce_runRequests [DecidableEq ι] (service : DynamoDbService)
    (events : List (EmissionEvent ι))
    (collisionFree : runtime.sha256.CollisionFreeOn
      (comparedTexts runtime service calls .initial events)) :
    ExactlyOnce runtime calls (runRequests runtime service calls .initial events) := by
  obtain ⟨puts, represents, sound⟩ := @runRequests_reaches runtime service .empty ι _ calls .initial
    events represents_empty (InMemoryRepository.invariant_empty runtime)
  exact exactlyOnce_of_sound represents ((InMemoryRepository.invariant_empty runtime).runPuts puts)
    (sound collisionFree fun _ => trivial)

end ExactlyOnce

end DynamoDb

namespace Sample

/-- The second call loses the race, reads the marker of the first, and then its target. -/
def raced : List (EmissionEvent Bool) := alternating ++ [(true, reply), (true, reply)]

theorem evaluated_raced :
    (∀ text ∈ DynamoDb.comparedTexts runtime service repeated .initial raced,
      (DynamoDb.comparedTexts runtime service repeated .initial raced).head? = some text) ∧
      ∀ process, ((DynamoDb.runRequests runtime service repeated .initial raced).phases
        process).emission.receipt?.isSome = true := by
  rw [runtime_eq]
  decide +kernel

end Sample

/-- Two calls with one input, where the second writes while the first reads. -/
theorem exactlyOnce_runRequests_raced :
    (∀ process, ((DynamoDb.runRequests Sample.runtime Sample.service Sample.repeated .initial
        Sample.raced).phases process).emission.receipt?.isSome = true) ∧
      DynamoDb.ExactlyOnce Sample.runtime Sample.repeated
        (DynamoDb.runRequests Sample.runtime Sample.service Sample.repeated .initial
          Sample.raced) :=
  ⟨Sample.evaluated_raced.2, DynamoDb.exactlyOnce_runRequests Sample.service Sample.raced
    (Sha256.CollisionFreeOn.of_head? Sample.evaluated_raced.1)⟩

end GhostArk.EnforcementRuntime.Receipts
