import GhostArk.EnforcementRuntime.Receipts.ConcurrentEmission

/-!
Contract: what a run of `emit` calls carries from its builders to its returns.

Owns the rule of such runs: a property of what the calls build, and one of what they sign, hold of
every receipt in flight, stored or returned, if building gives the first, signing takes the first
to the second, and the receipts that are stored at the start have the second.
-/

namespace GhostArk.EnforcementRuntime.Receipts

open Js ReceiptSchema

section Carrying

variable (isBuilt : UnsignedDecisionReceipt → Prop) (isSigned : SignedDecisionReceipt → Prop)

def Phase.Carries : Phase → Prop
  | .lookingUp _ unsigned => isBuilt unsigned
  | .signing _ unsigned => isBuilt unsigned
  | .putting _ signed => isSigned signed
  | .returned receipt => isSigned receipt
  | _ => True

def InMemoryRepository.Carries (repository : InMemoryRepository) : Prop :=
  ∀ stored ∈ repository.receipts.values, isSigned stored

variable (runtime : ReceiptRuntime)

def EmitCall.Builds (call : EmitCall) : Prop :=
  ∀ tenantIdHash previousReceiptHash unsigned,
    buildUnsigned runtime call.emitter call.input tenantIdHash previousReceiptHash = .ok unsigned →
      isBuilt unsigned

/-- Signing under a reply takes the first property to the second. -/
def EmitCall.Signs (call : EmitCall) (unsigned : UnsignedDecisionReceipt) (reply : SignerReply) :
    Prop :=
  ∀ signed, isBuilt unsigned → sign runtime call.emitter unsigned reply = .ok signed →
    isSigned signed

def SignsThroughout {ι : Type} [DecidableEq ι] (calls : ι → EmitCall) :
    EmissionState ι → List (EmissionEvent ι) → Prop
  | _, [] => True
  | state, event :: rest =>
    (∀ attempt unsigned, state.phases event.1 = .signing attempt unsigned →
      (calls event.1).Signs isBuilt isSigned runtime unsigned event.2) ∧
      SignsThroughout calls (stepEmission runtime calls state event) rest

end Carrying

variable {isBuilt : UnsignedDecisionReceipt → Prop} {isSigned : SignedDecisionReceipt → Prop}
  {runtime : ReceiptRuntime}

theorem Phase.Carries.next {α : Type} {continuation : α → Phase} {outcome : Except JsError α}
    (carries : ∀ value, outcome = .ok value → (continuation value).Carries isBuilt isSigned) :
    (Phase.next continuation outcome).Carries isBuilt isSigned := by
  cases outcome with
  | ok value => exact carries value rfl
  | error error => trivial

section Call

variable {call : EmitCall} {repository : InMemoryRepository}

theorem EmitCall.readHead_carries (builds : call.Builds isBuilt runtime) (attempt : Attempt) :
    (call.readHead runtime repository attempt).Carries isBuilt isSigned := by
  unfold readHead
  split
  next =>
    apply Phase.Carries.next
    intro unsigned built
    exact builds _ _ unsigned built
  next => trivial

theorem EmitCall.lookUp_carries (carries : repository.Carries isSigned) {attempt : Attempt}
    {unsigned : UnsignedDecisionReceipt} (built : isBuilt unsigned) :
    (lookUp runtime repository attempt unsigned).Carries isBuilt isSigned := by
  unfold lookUp
  split
  next existing found =>
    apply Phase.Carries.next
    intro receipt replayed
    rcases replayLookup_eq_ok replayed with ⟨rfl, -⟩
    exact carries receipt (Lib.InsertionMap.mem_values_of_get? found)
  next => exact built

theorem InMemoryRepository.put_carries (carries : repository.Carries isSigned)
    {signed : SignedDecisionReceipt} (hasSigned : isSigned signed) :
    (∀ result, (repository.put runtime signed.toJs).1 = .ok result → isSigned result.receipt) ∧
      (repository.put runtime signed.toJs).2.Carries isSigned := by
  have step := @put_step runtime repository signed.toJs
  have isValidated : ∀ {validated requestMarkerId requestDigest},
      Prepared runtime signed.toJs validated requestMarkerId requestDigest →
        isSigned validated := by
    intro validated requestMarkerId requestDigest prepared
    have valid := prepared.valid
    rw [validateSignedDecisionReceipt_toJs, Except.ok.injEq] at valid
    rw [← valid]
    exact hasSigned
  revert step
  generalize (repository.put runtime signed.toJs).1 = outcome
  generalize (repository.put runtime signed.toJs).2 = after
  intro step
  cases step with
  | threw error => exact ⟨fun result returned => (by cases returned), carries⟩
  | replayedMarked validated requestMarkerId requestDigest marker existing prepared marked
      sameDigest target =>
      refine ⟨fun result returned => ?_, carries⟩
      cases returned
      exact carries existing (Lib.InsertionMap.mem_values_of_get? target)
  | replayedExisting validated requestMarkerId requestDigest existing prepared unmarked taken
      sameDigest =>
      refine ⟨fun result returned => ?_, carries⟩
      cases returned
      exact carries existing (Lib.InsertionMap.mem_values_of_get? taken)
  | created validated requestMarkerId requestDigest headHash prepared unmarked free =>
    refine ⟨fun result returned => ?_, ?_⟩
    · cases returned
      exact isValidated prepared
    · intro stored member
      rw [values_stored free] at member
      rcases List.mem_append.mp member with old | new
      · exact carries stored old
      · rw [List.mem_singleton.mp new]
        exact isValidated prepared

theorem EmitCall.step_carries (builds : call.Builds isBuilt runtime)
    (carries : repository.Carries isSigned) {phase : Phase} {reply : SignerReply}
    (phaseCarries : phase.Carries isBuilt isSigned)
    (signs : ∀ attempt unsigned, phase = .signing attempt unsigned →
      call.Signs isBuilt isSigned runtime unsigned reply) :
    (call.step runtime repository reply phase).1.Carries isBuilt isSigned ∧
      (call.step runtime repository reply phase).2.Carries isSigned := by
  cases phase with
  | called => exact ⟨Phase.Carries.next fun _ _ => trivial, carries⟩
  | readingHead attempt => exact ⟨readHead_carries builds attempt, carries⟩
  | lookingUp attempt unsigned => exact ⟨lookUp_carries carries phaseCarries, carries⟩
  | signing attempt unsigned =>
    refine ⟨Phase.Carries.next fun signed signedNow => ?_, carries⟩
    exact signs attempt unsigned rfl signed phaseCarries signedNow
  | putting attempt signed =>
    rcases InMemoryRepository.put_carries carries phaseCarries with ⟨returned, after⟩
    refine ⟨?_, after⟩
    rw [step]
    cases outcome : (repository.put runtime signed.toJs).1 with
    | ok result => exact returned result outcome
    | error error =>
      rw [afterPut]
      split
      next => trivial
      next => trivial
  | returned receipt => exact ⟨phaseCarries, carries⟩
  | threw error => exact ⟨trivial, carries⟩

end Call

theorem signsThroughout_of_forall {ι : Type} [DecidableEq ι] {calls : ι → EmitCall}
    (signs : ∀ process unsigned reply,
      (calls process).Signs isBuilt isSigned runtime unsigned reply)
    (state : EmissionState ι) (events : List (EmissionEvent ι)) :
    SignsThroughout isBuilt isSigned runtime calls state events := by
  induction events generalizing state with
  | nil => exact trivial
  | cons event rest ih =>
    exact ⟨fun _ unsigned _ => signs event.1 unsigned event.2, ih _⟩

theorem runEmissions_carries {ι : Type} [DecidableEq ι] {calls : ι → EmitCall}
    (builds : ∀ process, (calls process).Builds isBuilt runtime) {state : EmissionState ι}
    {events : List (EmissionEvent ι)} (carries : state.repository.Carries isSigned)
    (phasesCarry : ∀ process, (state.phases process).Carries isBuilt isSigned)
    (signs : SignsThroughout isBuilt isSigned runtime calls state events) (process : ι) :
    ((runEmissions runtime calls state events).phases process).Carries isBuilt isSigned := by
  induction events generalizing state with
  | nil => exact phasesCarry process
  | cons event rest ih =>
    rcases signs with ⟨signedNow, later⟩
    have stepped := EmitCall.step_carries (builds event.1) carries (phasesCarry event.1) signedNow
    apply ih stepped.2 _ later
    intro other
    by_cases stepping : other = event.1
    · subst stepping
      rw [stepEmission_phases_self]
      exact stepped.1
    · rw [stepEmission_phases_of_ne state stepping]
      exact phasesCarry other

end GhostArk.EnforcementRuntime.Receipts
