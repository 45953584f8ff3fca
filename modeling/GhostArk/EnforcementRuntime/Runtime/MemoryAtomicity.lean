import GhostArk.EnforcementRuntime.Runtime.PostModelEffects

/-!
Contract: what a run of `governedInvoke` leaves in the in-memory vault.

The vault is written before the receipts are emitted, and nothing takes a record
back. Owns the vault along a run, and the exact condition under which a run that
fails closed leaves it as it was.
-/

namespace GhostArk.EnforcementRuntime.Runtime

open Js ReceiptSchema Policy
open Receipts Retrieval
open Vault Identity Lib Program

/-! ### The vault along a run -/

/-- The writes of a run are served by a vault: from its contents before to those after. -/
inductive VaultServes (runtime : PolicyRuntime) :
    InMemoryVaultStore → Trace → InMemoryVaultStore → Prop
  | done (vault : InMemoryVaultStore) : VaultServes runtime vault [] vault
  | write {vault final : InMemoryVaultStore} {request : MemoryWriteRequest}
      {decision : PhaseDecision} {consentState : ConsentState} {rest : Trace} (clock : JsString) :
      VaultServes runtime (Vault.write runtime vault clock request decision consentState).2 rest
        final →
      VaultServes runtime vault
        (⟨.write request decision consentState,
          (Vault.write runtime vault clock request decision consentState).1⟩ :: rest) final
  | other {vault final : InMemoryVaultStore} {exchange : Exchange Reply} {rest : Trace} :
      (∀ request decision consentState, exchange.call ≠ .write request decision consentState) →
      VaultServes runtime vault rest final → VaultServes runtime vault (exchange :: rest) final

section Vault

variable {runtime : PolicyRuntime} {vault final : InMemoryVaultStore}

/-- Without a write call the vault stays as it was. -/
theorem VaultServes.eq_of_no_write {trace : Trace} (serves : VaultServes runtime vault trace final)
    (noWrite : ∀ exchange ∈ trace, ∀ request decision consentState,
      exchange.call ≠ .write request decision consentState) : final = vault := by
  induction serves with
  | done => rfl
  | write clock _ _ => exact absurd rfl (noWrite _ List.mem_cons_self _ _ _)
  | other _ _ ih =>
    exact ih fun exchange member =>
      noWrite exchange (List.mem_cons_of_mem _ member)

theorem VaultServes.skip {before after : Trace}
    (serves : VaultServes runtime vault (before ++ after) final)
    (noWrite : ∀ exchange ∈ before, ∀ request decision consentState,
      exchange.call ≠ .write request decision consentState) :
    VaultServes runtime vault after final := by
  induction before with
  | nil => exact serves
  | cons exchange rest ih =>
    have both := List.forall_mem_cons.mp noWrite
    cases serves with
    | write clock _ => exact absurd rfl (both.1 _ _ _)
    | other _ later => exact ih later both.2

theorem VaultServes.of_write {request : MemoryWriteRequest} {decision : PhaseDecision}
    {consentState : ConsentState} {reply : Except JsError MemoryWriteResult} {rest : Trace}
    (serves : VaultServes runtime vault (⟨.write request decision consentState, reply⟩ :: rest)
      final)
    (noWrite : ∀ exchange ∈ rest, ∀ request decision consentState,
      exchange.call ≠ .write request decision consentState) :
    ∃ clock, reply = (Vault.write runtime vault clock request decision consentState).1 ∧
      final = (Vault.write runtime vault clock request decision consentState).2 := by
  cases serves with
  | write clock later => exact ⟨clock, rfl, later.eq_of_no_write noWrite⟩
  | other absurdity _ => exact absurd rfl (absurdity _ _ _)

end Vault

section Atomicity

variable {runtime : PolicyRuntime} {deps : GovernedInvokeDependencies}
variable {request : GovernedInvokeRequest}

/-- The vault accepts a write and does not hold its record yet. -/
def AcceptsNew (runtime : PolicyRuntime) (request : GovernedInvokeRequest)
    (vault : InMemoryVaultStore) (admission : Admission) (memoryWrite : RequestedMemoryWrite)
    (decision : PhaseDecision) : Prop :=
  ∃ id, writeRefusal (memoryWriteRequest admission memoryWrite) decision request.consent =
      .ok none ∧
    recordId runtime (memoryWriteRequest admission memoryWrite) = .ok id ∧
    vault.get? id ≠
      some (memoryRecord admission.now (memoryWriteRequest admission memoryWrite) id)

/-- The model has answered, and the run then asks for a memory write that the vault accepts and
does not hold yet. -/
def PersistsMemory (runtime : PolicyRuntime) (deps : GovernedInvokeDependencies)
    (request : GovernedInvokeRequest) (vault : InMemoryVaultStore) (trace : Trace) : Prop :=
  ∃ before admission output after memoryWrite decision,
    trace = before ++ ⟨.invoke (modelInvokeInput request admission), Except.ok output⟩ :: after ∧
    Asked runtime deps request before admission ∧
    plannedWrite runtime request admission (answerOf runtime request admission output) =
      some (memoryWrite, decision) ∧
    AcceptsNew runtime request vault admission memoryWrite decision

theorem not_write_of_reporting {E α : Type} {program : Program Reply E α} {trace : Trace}
    {outcome : Except E α} (reporting : Reporting program)
    (executes : Executes program trace outcome) :
    ∀ exchange ∈ trace, ∀ write decision consentState,
      exchange.call ≠ .write write decision consentState := by
  intro exchange member write decision consentState isCall
  have isReport := reporting trace outcome executes exchange member
  rw [isCall] at isReport
  cases isReport

theorem not_write_of_quiet {trace : Trace} (quiet : Quiet trace) :
    ∀ exchange ∈ trace, ∀ write decision consentState,
      exchange.call ≠ .write write decision consentState := by
  intro exchange member write decision consentState isCall
  have isEgress := quiet exchange member
  rw [isCall] at isEgress
  cases isEgress

variable {admission : Admission}

variable {memoryWrite : RequestedMemoryWrite} {decision : PhaseDecision}
  {reply : Except JsError MemoryWriteResult}

/-- The write call leaves the vault as it was exactly if it brings nothing new. -/
theorem vault_unchanged_iff {vault final : InMemoryVaultStore} {rest : Trace}
    (serves : VaultServes runtime vault
      (writeExchange request admission memoryWrite decision reply :: rest) final)
    (noWrite : ∀ exchange ∈ rest, ∀ write decision consentState,
      exchange.call ≠ .write write decision consentState) :
    (∀ id, final.get? id = vault.get? id) ↔
      ¬ AcceptsNew runtime request vault admission memoryWrite decision := by
  rcases serves.of_write noWrite with ⟨clock, -, isFinal⟩
  -- the request names its own time, so the clock of the vault does not matter
  have sameRecord : ∀ id, memoryRecord clock (memoryWriteRequest admission memoryWrite) id =
      memoryRecord admission.now (memoryWriteRequest admission memoryWrite) id := fun _ => rfl
  constructor
  · rintro unchanged ⟨id, accepted, isId, isNew⟩
    apply isNew
    rw [← unchanged id, isFinal, write_accepted runtime accepted isId, InsertionMap.get?_set_self,
      sameRecord]
  · intro held id
    rcases write_cases runtime vault clock (memoryWriteRequest admission memoryWrite) decision
      request.consent with ⟨same, -⟩ | ⟨written, accepted, isId, isWrite⟩
    · rw [isFinal, same]
    · have present : vault.get? written =
          some (memoryRecord admission.now (memoryWriteRequest admission memoryWrite) written) := by
        by_contra isNew
        exact held ⟨written, accepted, isId, isNew⟩
      rw [isFinal, isWrite, InsertionMap.get?_set]
      split
      · rename_i isWritten
        rw [isWritten, present, sameRecord]
      · rfl

/-- Memory persists exactly if the planned write is accepted as new. -/
theorem persistsMemory_iff {vault : InMemoryVaultStore} {before after : Trace}
    {output : ModelInvokeOutput} {outcome : Except JsError GovernedInvokeResult}
    (executes : Executes (governedInvoke runtime deps request)
      (before ++ ⟨.invoke (modelInvokeInput request admission), Except.ok output⟩ :: after) outcome)
    (asked : Asked runtime deps request before admission) :
    PersistsMemory runtime deps request vault
        (before ++ ⟨.invoke (modelInvokeInput request admission), Except.ok output⟩ :: after) ↔
      ∃ memoryWrite decision,
        plannedWrite runtime request admission (answerOf runtime request admission output) =
          some (memoryWrite, decision) ∧
        AcceptsNew runtime request vault admission memoryWrite decision := by
  constructor
  · rintro ⟨otherBefore, other, otherOutput, otherAfter, memoryWrite, decision, same, askedOther,
      persists⟩
    have cut := invoke_unique executes same
    cases cut.2.1
    rw [← cut.1] at askedOther
    rw [← asked.unique askedOther] at persists
    exact ⟨memoryWrite, decision, persists⟩
  · rintro ⟨memoryWrite, decision, persists⟩
    exact ⟨before, admission, output, after, memoryWrite, decision, rfl, asked, persists⟩

theorem not_acceptsNew_of_error {vault final : InMemoryVaultStore} {error : JsError} {rest : Trace}
    (serves : VaultServes runtime vault
      (writeExchange request admission memoryWrite decision (.error error) :: rest) final)
    (noWrite : ∀ exchange ∈ rest, ∀ write decision consentState,
      exchange.call ≠ .write write decision consentState) :
    ¬ AcceptsNew runtime request vault admission memoryWrite decision := by
  rcases serves.of_write noWrite with ⟨clock, isReply, -⟩
  rintro ⟨id, accepted, isId, -⟩
  rw [write_accepted runtime accepted isId] at isReply
  cases isReply

theorem returned_after_write {before rest : Trace} {input : ModelInvokeInput}
    {output : ModelInvokeOutput} (gates : ∀ exchange ∈ before, exchange.call.isGate = true)
    (returned : ReceiptsReturned deps (before ++ ⟨.invoke input, Except.ok output⟩ ::
      writeExchange request admission memoryWrite decision reply :: rest)) :
    ReceiptsReturned deps rest := by
  refine returned.of_mem ?_
  intro exchange member isEmission
  rcases List.mem_append.mp member with inBefore | inRest
  · rw [isEmission_of_isGate (gates exchange inBefore)] at isEmission
    cases isEmission
  rcases List.mem_cons.mp inRest with isInvoke | inAfter
  · rw [isInvoke] at isEmission
    cases isEmission
  rcases List.mem_cons.mp inAfter with isWrite | inConclusion
  · rw [isWrite] at isEmission
    cases isEmission
  · exact inConclusion

private theorem exists_some_eq_iff {α β : Type} {first : α} {second : β} {holds : α → β → Prop} :
    (∃ left right, some (first, second) = some (left, right) ∧ holds left right) ↔
      holds first second := by
  simp

theorem status_releaseFor_ne (decision : DecisionKind) (outputText : JsString) :
    (releaseFor decision outputText).status ≠ .failed_closed := by
  cases decision <;> exact fun same => by cases same

/-- **Atomicity.** A run that fails closed leaves the vault as it was, unless a memory write that
the vault accepts and does not hold yet came before receipts that are not returned. -/
theorem failed_closed_unchanged_iff {vault final : InMemoryVaultStore} {trace : Trace}
    {result : GovernedInvokeResult}
    (executes : Executes (governedInvoke runtime deps request) trace (.ok result))
    (serves : VaultServes runtime vault trace final) :
    (result.status = .failed_closed → ∀ id, final.get? id = vault.get? id) ↔
      ¬ (PersistsMemory runtime deps request vault trace ∧ ¬ ReceiptsReturned deps trace) := by
  -- an unchanged vault and no new record settle both sides
  have settle : (∀ id, final.get? id = vault.get? id) →
      ¬ PersistsMemory runtime deps request vault trace →
      ((result.status = .failed_closed → ∀ id, final.get? id = vault.get? id) ↔
        ¬ (PersistsMemory runtime deps request vault trace ∧ ¬ ReceiptsReturned deps trace)) :=
    fun unchanged absent => iff_of_true (fun _ => unchanged) fun both => absent both.1
  rcases executes_governedInvoke executes with
    refused | ⟨before, admission, reply, after, rfl, asked, later⟩
  · have unchanged := serves.eq_of_no_write (not_write_of_quiet refused.quiet)
    refine settle (fun id => by rw [unchanged]) ?_
    rintro ⟨before, admission, output, after, _, _, rfl, -⟩
    cases refused.quiet _ (List.mem_append_right before List.mem_cons_self)
  rcases asked.admitted with ⟨now, opening, -, admitted⟩
  have servesAfter : VaultServes runtime vault after final := by
    rw [List.append_cons] at serves
    refine serves.skip (List.forall_mem_append.mpr
      ⟨not_write_of_quiet (quiet_of_isGate admitted.calls), List.forall_mem_singleton.mpr ?_⟩)
    intro write decision consentState isCall
    cases isCall
  cases reply with
  | error error =>
    have unchanged := servesAfter.eq_of_no_write (not_write_of_reporting reporting_blocked later)
    refine settle (fun id => by rw [unchanged]) ?_
    rintro ⟨otherBefore, other, output, otherAfter, _, _, same, -⟩
    cases (invoke_unique executes same).2.1
  | ok output =>
    rw [persistsMemory_iff executes asked] at settle ⊢
    cases settled_of_executes later with
    | unwritten unplanned _ concluded =>
      have unchanged :=
        servesAfter.eq_of_no_write (not_write_of_reporting reporting_conclude concluded)
      refine settle (fun id => by rw [unchanged]) ?_
      rintro ⟨memoryWrite, decision, planned, -⟩
      rw [unplanned] at planned
      cases planned
    | failed planned isBlocked =>
      have quietRest := not_write_of_reporting reporting_blocked isBlocked
      have refuses : ¬ AcceptsNew runtime request vault admission _ _ :=
        not_acceptsNew_of_error servesAfter quietRest
      refine settle ((vault_unchanged_iff servesAfter quietRest).mpr refuses) ?_
      rw [planned, exists_some_eq_iff]
      exact refuses
    | written planned concluded =>
      have unchanged :=
        vault_unchanged_iff servesAfter (not_write_of_reporting reporting_conclude concluded)
      rw [unchanged, planned, exists_some_eq_iff]
      rcases (executes_conclude concluded).2 with
        ⟨unreturned, failed, -⟩ | ⟨receiptId, evidence, -, status, -⟩
      · rw [and_iff_left (mt (returned_after_write admitted.calls) unreturned)]
        exact ⟨fun isUnchanged => isUnchanged failed, fun refuses _ => refuses⟩
      · have released : result.status ≠ .failed_closed := by
          rw [status]
          exact status_releaseFor_ne _ _
        refine iff_of_true (fun failed => absurd failed released) fun lost => lost.2 ?_
        exact evidence.returned.of_mem fun exchange member _ =>
          List.mem_append_right before (List.mem_cons_of_mem _ (List.mem_cons_of_mem _ member))

end Atomicity

namespace Sample

theorem vaultServes_run {E α : Type} (rules : List JsValue) (outputText : JsString) (emits : Bool)
    (program : Program Reply E α) (vault : InMemoryVaultStore) :
    VaultServes Policy.Sample.runtime vault (program.run (serve rules outputText emits) vault).1
      (program.run (serve rules outputText emits) vault).2.2 := by
  induction program generalizing vault with
  | done outcome => exact .done vault
  | ask call resume ih =>
    cases call with
    | write request decision consentState => exact .write _ (ih _ _)
    | _ => exact .other (fun _ _ _ isWrite => by cases isWrite) (ih _ _)

end Sample

/-- A run whose receipt fails leaves its memory behind. -/
theorem failed_closed_leaves_memory :
    ∃ trace result final id,
      Executes (governedInvoke Policy.Sample.runtime Sample.deps Sample.request) trace
        (.ok result) ∧
      VaultServes Policy.Sample.runtime .empty trace final ∧
      result.status = .failed_closed ∧
      (Vault.get final (js "tenant") (js "user") id (js "2026-07-07T12:00:01Z")).toBool = true ∧
      (InsertionMap.empty : InMemoryVaultStore).get? id = none := by
  have executes := Sample.executes_runWith [] (js "answer") false
  have serves := Sample.vaultServes_run [] (js "answer") false
    (governedInvoke Policy.Sample.runtime Sample.deps Sample.request) .empty
  have fails : (Sample.runWith [] (js "answer") false).2.1.toOption.any
      (fun result => result.status == .failed_closed) = true := by
    decide +kernel
  have holds : (Sample.runWith [] (js "answer") false).2.2.values.any (fun record =>
      (Vault.get (Sample.runWith [] (js "answer") false).2.2 (js "tenant") (js "user") record.id
        (js "2026-07-07T12:00:01Z")).toBool) = true := by
    decide +kernel
  rcases exists_ok_of_any fails with ⟨result, isResult, failed⟩
  rcases List.any_eq_true.mp holds with ⟨record, -, isHeld⟩
  rw [isResult] at executes
  exact ⟨_, result, _, record.id, executes, serves, eq_of_beq failed, isHeld, rfl⟩

/-- The condition at the same run. -/
theorem failed_closed_unchanged_iff_sample :
    ∃ trace result, ∃ final : InMemoryVaultStore,
      Executes (governedInvoke Policy.Sample.runtime Sample.deps Sample.request) trace
        (.ok result) ∧
      ((result.status = .failed_closed →
          ∀ id, final.get? id = (InsertionMap.empty : InMemoryVaultStore).get? id) ↔
        ¬ (PersistsMemory Policy.Sample.runtime Sample.deps Sample.request .empty trace ∧
          ¬ ReceiptsReturned Sample.deps trace)) := by
  have executes := Sample.executes_runWith [] (js "answer") false
  have serves := Sample.vaultServes_run [] (js "answer") false
    (governedInvoke Policy.Sample.runtime Sample.deps Sample.request) .empty
  have returns : (Sample.runWith [] (js "answer") false).2.1.toBool = true := by
    decide +kernel
  rcases exists_eq_ok returns with ⟨result, isResult⟩
  rw [isResult] at executes
  exact ⟨_, result, _, executes, failed_closed_unchanged_iff executes serves⟩

end GhostArk.EnforcementRuntime.Runtime
