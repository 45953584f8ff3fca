import GhostArk.EnforcementRuntime.Vault.DynamoDbStore
import GhostArk.EnforcementRuntime.Vault.TombstonePermanence
import GhostArk.Lib.Interleaving

/-!
Contract: calls of the DynamoDB vault that run at the same time.

Owns the calls as processes whose steps are table commands, well-formed tables
(every item was built for a write, with at most a tombstone added), and the
exact condition on a step that keeps the table well formed.

The update of a tombstone has no condition. Where a deletion has come first, it
creates an item that has no other attribute.
-/

namespace GhostArk.EnforcementRuntime.Vault.DynamoDb

open Js Lib Policy Configuration

instance instNonemptyTableReply : ∀ command, Nonempty (TableReply command)
  | .put _ => ⟨(.ok () : Except JsError Unit)⟩
  | .get _ => ⟨(none : Option StoredItem)⟩
  | .update _ _ => ⟨()⟩
  | .delete _ => ⟨()⟩
  | .query _ => ⟨([] : List StoredItem)⟩

/-! ### Processes -/

/-- The table executes a command in one step. -/
def TableServes (table : Table) (command : TableCommand) (reply : TableReply command)
    (next : Table) : Prop :=
  ∃ page, serveTable page table command = (reply, next)

/-- A tombstone is set on an item that is there. -/
def FindsItem (table : Table) (command : TableCommand) : Prop :=
  ∀ key time, command = .update key time → (table.get? key).isSome = true

/-- A step of the table whose updates find their items. -/
def ServesFinding (table : Table) (command : TableCommand) (reply : TableReply command)
    (next : Table) : Prop :=
  TableServes table command reply next ∧ FindsItem table command

section Processes

variable (runtime : PolicyRuntime)

def PutsOwnItem (call : VaultCall) (command : TableCommand) : Prop :=
  ∀ item, command = .put item → ∃ request decision consentState,
    call.operation = .write request decision consentState ∧
      toDynamoDbMemoryItem runtime (call.clock 0) request = .ok item

variable {runtime} {collation : Collation}

theorem putsOwnItem_of_ne {call : VaultCall} {command : TableCommand}
    (apart : ∀ item, command ≠ .put item) : PutsOwnItem runtime call command :=
  fun item isPut => absurd isPut (apart item)

section Calls

variable {call : VaultCall}

theorem callsOnly_write (clock : Nat → JsString) (request : MemoryWriteRequest)
    (decision : PhaseDecision) (consentState : ConsentState) :
    Program.CallsOnly (PutsOwnItem runtime ⟨.write request decision consentState, clock⟩)
      (write runtime clock request decision consentState) := by
  unfold write
  cases writeRefusal request decision consentState with
  | error error => exact .done _
  | ok refusal =>
    cases refusal with
    | some reason => exact .done _
    | none =>
      cases isItem : toDynamoDbMemoryItem runtime (clock 0) request with
      | error error => exact .done _
      | ok item =>
        refine Program.CallsOnly.perform_bind ?_ ?_
        · rintro other ⟨⟩
          exact ⟨request, decision, consentState, rfl, isItem⟩
        · intro reply
          exact .bind (.done _) fun _ => .bind (.done _) fun _ => .pure _

theorem callsOnly_list (clock : Nat → JsString) (request : MemoryReadRequest) :
    Program.CallsOnly (PutsOwnItem runtime call) (list collation clock request) := by
  refine Program.CallsOnly.perform_bind ?_ fun _ => .done _
  exact putsOwnItem_of_ne fun item isPut => by cases isPut

theorem callsOnly_get (clock : Nat → JsString) (request : MemoryRecordRequest) :
    Program.CallsOnly (PutsOwnItem runtime call) (get clock request) := by
  refine Program.CallsOnly.perform_bind ?_ fun _ => .done _
  exact putsOwnItem_of_ne fun item isPut => by cases isPut

theorem callsOnly_tombstone (clock : Nat → JsString) (request : MemoryRecordRequest) :
    Program.CallsOnly (PutsOwnItem runtime call) (tombstone clock request) := by
  refine .bind (callsOnly_get clock request) fun record => ?_
  refine Program.CallsOnly.perform_bind ?_ fun _ => .pure _
  exact putsOwnItem_of_ne fun item isPut => by cases isPut

theorem callsOnly_deleteErasable (clock : Nat → JsString) (request : MemoryRecordRequest) :
    Program.CallsOnly (PutsOwnItem runtime call) (deleteErasable clock request) := by
  refine .bind (callsOnly_get clock request) fun record => ?_
  split
  · exact .bind (callsOnly_tombstone _ request) fun _ => .pure _
  · refine Program.CallsOnly.perform_bind ?_ fun _ => .pure _
    exact putsOwnItem_of_ne fun item isPut => by cases isPut

end Calls

theorem callsOnly_program (call : VaultCall) :
    Program.CallsOnly (PutsOwnItem runtime call) (program runtime collation call) := by
  rcases call with ⟨operation, clock⟩
  cases operation with
  | write request decision consentState =>
    exact .bind (callsOnly_write clock request decision consentState) fun _ => .pure _
  | list request => exact .bind (callsOnly_list clock request) fun _ => .pure _
  | get request => exact .bind (callsOnly_get clock request) fun _ => .pure _
  | tombstone request => exact .bind (callsOnly_tombstone clock request) fun _ => .pure _
  | deleteErasable request =>
    exact .bind (callsOnly_deleteErasable clock request) fun _ => .pure _
  | exportUserMemory request =>
    exact .bind (callsOnly_list clock (exportRequest request)) fun _ => .pure _

/-! ### Well-formed tables -/

variable {ι : Type} (runtime)

abbrev VaultConfiguration (ι : Type) := Configuration ι TableReply JsError VaultResponse Table

/-- An item that a process has put for its write, with at most a tombstone added. -/
def IsWritten (calls : ι → VaultCall) (configuration : VaultConfiguration ι)
    (key : DynamoDbMemoryKey) (stored : StoredItem) : Prop :=
  ∃ process request decision consentState item,
    (calls process).operation = .write request decision consentState ∧
      toDynamoDbMemoryItem runtime ((calls process).clock 0) request = .ok item ∧
      ⟨.put item, .ok ()⟩ ∈ configuration.trace process ∧
      key = item.toDynamoDbMemoryKey ∧
      ∃ tombstonedAt, stored = .whole { item with tombstonedAt }

def WellFormed (calls : ι → VaultCall) (configuration : VaultConfiguration ι) : Prop :=
  ∀ key stored, configuration.shared.get? key = some stored →
    IsWritten runtime calls configuration key stored

/-- `get` returns a record, or throws one of the errors that it names. -/
def AnswersGets (table : Table) : Prop :=
  ∀ clock request, match lookup table clock request with
    | .ok _ => True
    | .error error => error = unavailableError ∨ error = crossAccessError request.id

variable {runtime} {calls : ι → VaultCall} {configuration : VaultConfiguration ι}

/-- On a well-formed table, `get` finds a record or throws an error that it names. -/
theorem WellFormed.answersGets (wellFormed : WellFormed runtime calls configuration) :
    AnswersGets configuration.shared := by
  intro clock request
  unfold lookup availableRecord
  cases found : configuration.shared.get? (requestKey request) with
  | none => exact Or.inl rfl
  | some stored =>
    rcases wellFormed _ _ found with ⟨_, _, _, _, item, -, -, -, -, tombstonedAt, rfl⟩
    dsimp only [fromDynamoDbMemoryItem]
    rw [ok_bind]
    split
    next outcome => trivial
    next error isError =>
      split at isError
      next =>
        cases isError
        exact Or.inr rfl
      next =>
        split at isError
        next =>
          cases isError
          exact Or.inl rfl
        next => cases isError

theorem IsWritten.updated {key : DynamoDbMemoryKey} {stored : StoredItem}
    (isWritten : IsWritten runtime calls configuration key stored) (time : JsString) :
    IsWritten runtime calls configuration key (updated time (some stored)) := by
  rcases isWritten with
    ⟨writer, request, decision, consentState, item, isWrite, isItem, put, isKey, _, rfl⟩
  exact ⟨writer, request, decision, consentState, item, isWrite, isItem, put, isKey, some time, rfl⟩

variable [DecidableEq ι]

variable {rest : TableProgram VaultResponse}

theorem mem_trace_advance {process : ι} {exchange added : Exchange TableReply} {next : Table}
    {found : ι} (member : exchange ∈ configuration.trace found) :
    exchange ∈ (configuration.advance process added rest next).trace found := by
  by_cases isStepping : found = process
  · rw [isStepping, trace_advance_self]
    exact List.mem_append_left _ (isStepping ▸ member)
  · rwa [trace_advance_ne _ _ _ _ _ isStepping]

/-- What was written stays written when another call moves. -/
theorem IsWritten.advance {key : DynamoDbMemoryKey} {stored : StoredItem}
    (isWritten : IsWritten runtime calls configuration key stored) (process : ι)
    (added : Exchange TableReply) (rest : TableProgram VaultResponse) (next : Table) :
    IsWritten runtime calls (configuration.advance process added rest next) key stored := by
  rcases isWritten with ⟨writer, request, decision, consentState, item, isWrite, isItem, put, parts⟩
  exact ⟨writer, request, decision, consentState, item, isWrite, isItem, mem_trace_advance put,
    parts⟩

theorem WellFormed.of_get? {process : ι} {added : Exchange TableReply} {next : Table}
    (wellFormed : WellFormed runtime calls configuration) (changed : DynamoDbMemoryKey)
    (others : ∀ key, key ≠ changed → next.get? key = configuration.shared.get? key)
    (isWritten : ∀ stored, next.get? changed = some stored →
      IsWritten runtime calls (configuration.advance process added rest next) changed stored) :
    WellFormed runtime calls (configuration.advance process added rest next) := by
  intro key stored found
  change next.get? key = some stored at found
  by_cases isChanged : key = changed
  · rw [isChanged] at found ⊢
    exact isWritten stored found
  · rw [others key isChanged] at found
    exact (wellFormed key stored found).advance process added rest next

/-- **One step.** From a well-formed table, a step of a process leaves a well-formed table exactly
when a tombstone that it sets finds its item. -/
theorem wellFormed_advance_iff (wellFormed : WellFormed runtime calls configuration) {process : ι}
    {command : TableCommand} {resume : TableReply command → TableProgram VaultResponse}
    {reply : TableReply command} {next : Table}
    (ownItem : PutsOwnItem runtime (calls process) command)
    (serves : TableServes configuration.shared command reply next) :
    WellFormed runtime calls (configuration.advance process ⟨command, reply⟩ (resume reply) next) ↔
      FindsItem configuration.shared command := by
  have unchanged : next = configuration.shared → WellFormed runtime calls
      (configuration.advance process ⟨command, reply⟩ (resume reply) next) := by
    rintro rfl key stored found
    exact (wellFormed key stored found).advance ..
  rcases serves with ⟨page, served⟩
  cases command with
  | put item =>
    refine iff_of_true ?_ fun key time isUpdate => by cases isUpdate
    simp only [serveTable] at served
    split at served
    next => exact unchanged (Prod.mk.inj served).2.symm
    next =>
      cases served
      refine wellFormed.of_get? item.toDynamoDbMemoryKey
        (fun key apart => InsertionMap.get?_set_ne _ apart _) ?_
      intro stored found
      rw [InsertionMap.get?_set_self] at found
      cases found
      rcases ownItem item rfl with ⟨request, decision, consentState, isWrite, isItem⟩
      refine ⟨process, request, decision, consentState, item, isWrite, isItem, ?_, rfl,
        item.tombstonedAt, rfl⟩
      rw [trace_advance_self]
      exact List.mem_append_right _ List.mem_cons_self
  | get key =>
    exact iff_of_true (unchanged (Prod.mk.inj served).2.symm) fun key time isUpdate => by
      cases isUpdate
  | query query =>
    exact iff_of_true (unchanged (Prod.mk.inj served).2.symm) fun key time isUpdate => by
      cases isUpdate
  | delete key =>
    refine iff_of_true ?_ fun key time isUpdate => by cases isUpdate
    cases served
    refine wellFormed.of_get? key
      (fun other apart => (InsertionMap.get?_erase ..).trans (if_neg apart)) ?_
    intro stored found
    rw [InsertionMap.get?_erase, if_pos rfl] at found
    cases found
  | update key time =>
    cases served
    cases isStored : configuration.shared.get? key with
    | none =>
      -- the update has made an item of its own
      refine iff_of_false ?_ ?_
      · intro kept
        have isBare : (configuration.shared.set key (updated time none)).get? key =
            some (.bare time) :=
          InsertionMap.get?_set_self ..
        rcases kept key (.bare time) isBare with ⟨_, _, _, _, _, -, -, -, -, _, isWhole⟩
        cases isWhole
      · intro finds
        have present := finds key time rfl
        rw [isStored] at present
        cases present
    | some stored =>
      refine iff_of_true ?_ ?_
      · refine wellFormed.of_get? key (fun other apart => InsertionMap.get?_set_ne _ apart _) ?_
        intro found isFound
        rw [InsertionMap.get?_set_self] at isFound
        cases isFound
        exact ((wellFormed key stored isStored).updated time).advance ..
      · rintro _ _ ⟨⟩
        rw [isStored]
        rfl

/-- **Where concurrent calls keep the table well formed.** In every interleaving whose tombstones
find their items, every item comes from an earlier write and `get` answers as it should; and the
next step keeps the table well formed exactly when it is such a step too. -/
theorem wellFormed_of_servesFinding
    (interleaves : Interleaves ServesFinding
      (fun process => program runtime collation (calls process)) .empty configuration) :
    WellFormed runtime calls configuration ∧ AnswersGets configuration.shared ∧
      ∀ process command resume reply next, configuration.left process = .ask command resume →
        TableServes configuration.shared command reply next →
          (WellFormed runtime calls
              (configuration.advance process ⟨command, reply⟩ (resume reply) next) ↔
            FindsItem configuration.shared command) := by
  have ownItem : ∀ {configuration : VaultConfiguration ι}, Interleaves ServesFinding
      (fun process => program runtime collation (calls process)) .empty configuration →
      ∀ {process command resume}, configuration.left process = .ask command resume →
        PutsOwnItem runtime (calls process) command := by
    intro configuration reached process command resume asks
    have reaches := reached.reaches process
    rw [asks] at reaches
    exact (callsOnly_program (calls process)).of_reaches reaches
  have wellFormed : WellFormed runtime calls configuration := by
    induction interleaves with
    | start =>
      intro key stored found
      cases found
    | step process reply reached asks serves ih =>
      exact (wellFormed_advance_iff ih (ownItem reached asks) serves.1).mpr
        serves.2
  refine ⟨wellFormed, wellFormed.answersGets, ?_⟩
  intro process command resume reply next asks serves
  exact wellFormed_advance_iff wellFormed (ownItem interleaves asks) serves

end Processes

namespace Sample

open Vault.Sample

def calls : Fin 3 → VaultCall
  | 0 => writing
  | 1 => marking
  | 2 => ⟨.deleteErasable recordRequest, clock⟩

def programs (process : Fin 3) : TableProgram VaultResponse :=
  program Policy.Sample.runtime codeUnitOrder (calls process)

/-- The deletion comes between the lookup of the tombstone and its update. -/
def raced : VaultConfiguration (Fin 3) :=
  Configuration.schedule (serveTable 0) ⟨.empty, fun _ => [], programs⟩ [0, 1, 2, 2, 1]

/-- The deletion has looked its record up before the tombstone is set. -/
def marked : VaultConfiguration (Fin 3) :=
  Configuration.schedule (serveTable 0) ⟨.empty, fun _ => [], programs⟩ [0, 1, 2, 1]

def erased : VaultConfiguration (Fin 3) :=
  Configuration.schedule (serveTable 0) ⟨.empty, fun _ => [], programs⟩ [0, 1, 2, 1, 2]

def finds (table : Table) : TableCommand → Bool
  | .update key _ => (table.get? key).isSome
  | _ => true

theorem servesFinding_of_finds (table : Table) (command : TableCommand)
    (found : finds table command = true) :
    ServesFinding table command (serveTable 0 table command).1 (serveTable 0 table command).2 := by
  refine ⟨⟨0, rfl⟩, ?_⟩
  rintro key time rfl
  exact found

end Sample

/-- A write, a tombstone and a deletion run at the same time, and the tombstone finds its item. -/
theorem wellFormed_of_servesFinding_sample :
    ((Sample.marked.shared.get? (requestKey Vault.Sample.recordRequest)).isSome = true ∧
        WellFormed Policy.Sample.runtime Sample.calls Sample.marked ∧
        AnswersGets Sample.marked.shared) ∧
      ((Sample.erased.trace 1).map (·.call) =
          [.get (requestKey Vault.Sample.recordRequest),
            .update (requestKey Vault.Sample.recordRequest) Vault.Sample.noon] ∧
        (Sample.erased.trace 2).map (·.call) =
          [.get (requestKey Vault.Sample.recordRequest),
            .delete (requestKey Vault.Sample.recordRequest)] ∧
        WellFormed Policy.Sample.runtime Sample.calls Sample.erased ∧
        AnswersGets Sample.erased.shared) := by
  have isMarked : Interleaves ServesFinding Sample.programs .empty Sample.marked :=
    .schedule_of_permits (serveTable 0) Sample.servesFinding_of_finds .start
      (by decide +kernel)
  have isErased : Interleaves ServesFinding Sample.programs .empty Sample.erased :=
    .schedule_of_permits (serveTable 0) Sample.servesFinding_of_finds .start
      (by decide +kernel)
  rcases wellFormed_of_servesFinding isMarked with ⟨whileMarked, answersMarked, -⟩
  rcases wellFormed_of_servesFinding isErased with ⟨whenErased, answersErased, -⟩
  -- the two configurations are not to be evaluated here
  with_reducible refine ⟨⟨?_, whileMarked, answersMarked⟩, ?_, ?_, whenErased, answersErased⟩
  · decide +kernel
  · decide +kernel
  · decide +kernel

/-- An update that lands after the deletion leaves an item that `get` fails on. -/
theorem concurrent_erasure_not_wellFormed :
    Interleaves TableServes Sample.programs .empty Sample.raced ∧
      ¬ WellFormed Policy.Sample.runtime Sample.calls Sample.raced ∧
      lookup Sample.raced.shared Vault.Sample.clock Vault.Sample.recordRequest =
        .error missingTagsError := by
  have isBare : Sample.raced.shared.get? (requestKey Vault.Sample.recordRequest) =
      some (.bare Vault.Sample.noon) := by
    decide +kernel
  refine ⟨.schedule (serveTable 0) (fun _ _ => ⟨0, rfl⟩) .start _, ?_, ?_⟩
  · intro wellFormed
    rcases wellFormed _ _ isBare with ⟨_, _, _, _, _, -, -, -, -, _, isWhole⟩
    cases isWhole
  · rw [lookup, isBare]
    rfl

end GhostArk.EnforcementRuntime.Vault.DynamoDb
