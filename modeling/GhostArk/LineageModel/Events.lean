import GhostArk.EnforcementRuntime.Policy.Schema
import GhostArk.Js.Sha256
import GhostArk.PolicyCompiler.TenantNamespace
import GhostArk.ReceiptSchema.CanonicalAcceptance

/-!
Contract: `packages/lineage-model/src/events.ts`, with `lineageEventIdFromPayload` of
`packages/receipt-schema/src/hashCanonicalization.ts`.

Owns lineage events, their validation from untyped values, the building of an event from its
fields, and which fields become an event that its own content addresses: those with a run, with
metadata that are JSON, and without a metadata member that validation leaves out.

The issues of a schema error are the schema library's own and stay a parameter, as does the clock.
-/

namespace GhostArk.LineageModel

open Js
open ReceiptSchema
open EnforcementRuntime.Policy (objectEntries property readDefault readOptional
  readNonempty)
open EnforcementRuntime.Receipts (isDatetime readEnum readString readStrings
  readStrings_stringArray stringArray)
open PolicyCompiler (isTenantSlug)

inductive LineageEventType where
  | ingested
  | normalized
  | curated
  | cataloged
  | queried
  | signed
  | indexed
  | exported
  | replayed
  | revoked
deriving DecidableEq, Repr

namespace LineageEventType

def text : LineageEventType → JsString
  | ingested => js "ingested"
  | normalized => js "normalized"
  | curated => js "curated"
  | cataloged => js "cataloged"
  | queried => js "queried"
  | signed => js "signed"
  | indexed => js "indexed"
  | exported => js "exported"
  | replayed => js "replayed"
  | revoked => js "revoked"

/-- `lineageEventTypeSchema`. -/
def vocabulary : List LineageEventType :=
  [ingested, normalized, curated, cataloged, queried, signed, indexed, exported, replayed, revoked]

end LineageEventType

structure LineageEvent where
  eventId : JsString
  tenantSlug : JsString
  eventType : LineageEventType
  occurredAt : JsString
  inputs : List JsString
  outputs : List JsString
  actor : JsString
  runId : Option JsString
  metadata : List (JsString × JsValue)

/-- `z.string()` with a check of the text. -/
def readMatching (accepts : JsString → Bool) (value : JsValue) : Option JsString :=
  (readString value).filter accepts

/-- The members that `z.record` takes over. -/
def recordMembers (entries : List (JsString × JsValue)) : List (JsString × JsValue) :=
  entries.filter fun entry => entry.1 ≠ js "__proto__"

/-- `z.record(z.unknown())`. -/
def readRecord (value : JsValue) : Option (List (JsString × JsValue)) :=
  (objectEntries value).map recordMembers

def readLineageEvent (data : String → JsValue) : Option LineageEvent := do
  let eventId ← readMatching (isTaggedHex64 "lin_") (data "eventId")
  let tenantSlug ← readMatching isTenantSlug (data "tenantSlug")
  let eventType ← readEnum LineageEventType.vocabulary LineageEventType.text (data "eventType")
  let occurredAt ← readMatching isDatetime (data "occurredAt")
  let inputs ← readStrings (data "inputs")
  let outputs ← readStrings (data "outputs")
  let actor ← readNonempty (data "actor")
  let runId ← readOptional readString (data "runId")
  let metadata ← readDefault [] readRecord (data "metadata")
  return {
    eventId, tenantSlug, eventType, occurredAt, inputs, outputs, actor, runId, metadata }

def validateLineageEvent (issues : JsValue → JsValue) (value : JsValue) :
    Except JsError LineageEvent :=
  match (objectEntries value).bind fun entries => readLineageEvent (property entries) with
  | some event => .ok event
  | none =>
    .error ⟨.validationError, js "Invalid lineage event", [(js "issues", issues value)]⟩

/-- The fields that an id is computed from. -/
inductive LineageField where
  | tenantSlug
  | eventType
  | occurredAt
  | inputs
  | outputs
  | actor
  | runId
  | metadata
deriving DecidableEq, Repr

namespace LineageField

def name : LineageField → String
  | tenantSlug => "tenantSlug"
  | eventType => "eventType"
  | occurredAt => "occurredAt"
  | inputs => "inputs"
  | outputs => "outputs"
  | actor => "actor"
  | runId => "runId"
  | metadata => "metadata"

def text (field : LineageField) : JsString := js field.name

def all : List LineageField :=
  [tenantSlug, eventType, occurredAt, inputs, outputs, actor, runId, metadata]

theorem mem_all (field : LineageField) : field ∈ all := by
  cases field <;> decide

theorem nodup_text : (all.map text).Nodup := by
  decide +kernel

theorem text_ne_eventId (field : LineageField) : js "eventId" ≠ field.text := by
  cases field <;> decide +kernel

end LineageField

/-- The object of the fields without the id. -/
def payload (value : LineageField → JsValue) : JsValue :=
  record LineageField.text LineageField.all value

/-- `{ eventId, ...fields }`. -/
def identified (eventId : JsString) (value : LineageField → JsValue) : JsValue :=
  .object ((js "eventId", .string eventId) ::
    LineageField.all.map fun field => (field.text, value field))

/-- The fields of an event. A run that is not given is a member with the value `undefined`, as it is
in the object that `buildLineageEvent` validates. -/
def LineageEvent.value (event : LineageEvent) : LineageField → JsValue
  | .tenantSlug => .string event.tenantSlug
  | .eventType => .string event.eventType.text
  | .occurredAt => .string event.occurredAt
  | .inputs => stringArray event.inputs
  | .outputs => stringArray event.outputs
  | .actor => .string event.actor
  | .runId => (event.runId.map .string).getD .undefined
  | .metadata => .object event.metadata

structure BuildLineageEventInput where
  tenantSlug : JsString
  eventType : LineageEventType
  inputs : Option (List JsString)
  outputs : Option (List JsString)
  actor : JsString
  runId : Option JsString
  metadata : Option (List (JsString × JsValue))
  occurredAt : Option JsString

namespace BuildLineageEventInput

variable (input : BuildLineageEventInput) (clock : JsString)

def members : List (JsString × JsValue) := input.metadata.getD []

/-- `withoutId`; `clock` is `new Date().toISOString()`. -/
def withoutId : LineageField → JsValue
  | .tenantSlug => .string input.tenantSlug
  | .eventType => .string input.eventType.text
  | .occurredAt => .string (input.occurredAt.getD clock)
  | .inputs => stringArray (sortTexts (input.inputs.getD []))
  | .outputs => stringArray (sortTexts (input.outputs.getD []))
  | .actor => .string input.actor
  | .runId => (input.runId.map .string).getD .undefined
  | .metadata => .object input.members

end BuildLineageEventInput

section Building

variable (runtime : Runtime) (issues : JsValue → JsValue) (clock : JsString)

def lineageEventIdFromPayload (value : JsValue) : Except JsError JsString :=
  (canonicalSha256Hex runtime value).map (js "lin_" ++ ·)

def buildLineageEvent (input : BuildLineageEventInput) : Except JsError LineageEvent := do
  let eventId ← lineageEventIdFromPayload runtime (payload (input.withoutId clock))
  validateLineageEvent issues (identified eventId (input.withoutId clock))

/-! ### Validation of built events -/

/-- The fields satisfy the schema, and no two metadata members have one key. -/
structure BuildLineageEventInput.IsValid (input : BuildLineageEventInput) : Prop where
  tenantSlug : isTenantSlug input.tenantSlug = true
  occurredAt : isDatetime (input.occurredAt.getD clock) = true
  actor : input.actor ≠ []
  distinct : hasDistinctKeys (.object input.members) = true

def BuildLineageEventInput.event (input : BuildLineageEventInput) (eventId : JsString) :
    LineageEvent where
  eventId := eventId
  tenantSlug := input.tenantSlug
  eventType := input.eventType
  occurredAt := input.occurredAt.getD clock
  inputs := sortTexts (input.inputs.getD [])
  outputs := sortTexts (input.outputs.getD [])
  actor := input.actor
  runId := input.runId
  metadata := recordMembers input.members

theorem property_fields (value : LineageField → JsValue) (field : LineageField) :
    property (LineageField.all.map fun field => (field.text, value field)) field.name =
      value field := by
  rw [property]
  have member := LineageField.mem_all field
  have distinct := LineageField.nodup_text
  revert member distinct
  induction LineageField.all with
  | nil => exact fun member => absurd member List.not_mem_nil
  | cons first rest ih =>
    intro member distinct
    rw [List.map_cons, List.nodup_cons] at distinct
    rw [List.map_cons, List.find?_cons]
    by_cases same : first = field
    · subst same
      simp [LineageField.text]
    · have later : field ∈ rest := List.mem_of_ne_of_mem (Ne.symm same) member
      have differs : first.text ≠ js field.name := fun equal =>
        distinct.1 (List.mem_map.mpr ⟨field, later, equal.symm⟩)
      simp only [differs, decide_false]
      exact ih later distinct.2

theorem property_identified (eventId : JsString) (value : LineageField → JsValue)
    (field : LineageField) :
    property ((js "eventId", .string eventId) ::
      LineageField.all.map fun field => (field.text, value field)) field.name = value field := by
  rw [← property_fields value field, property, property, List.find?_cons]
  have differs : js "eventId" ≠ js field.name := LineageField.text_ne_eventId field
  simp only [differs, decide_false]

theorem property_eventId (eventId : JsString) (value : LineageField → JsValue) :
    property ((js "eventId", .string eventId) ::
      LineageField.all.map fun field => (field.text, value field)) "eventId" =
        .string eventId := by
  rw [property, List.find?_cons]
  simp only [decide_true, Option.map_some, Option.getD_some]

theorem readMatching_string {accepts : JsString → Bool} {text : JsString}
    (accepted : accepts text = true) : readMatching accepts (.string text) = some text := by
  rw [readMatching, readString, Option.filter_some, if_pos accepted]

theorem readEnum_eventType (eventType : LineageEventType) :
    readEnum LineageEventType.vocabulary LineageEventType.text (.string eventType.text) =
      some eventType := by
  cases eventType <;> rfl

theorem readOptional_runId (runId : Option JsString) :
    readOptional readString ((runId.map JsValue.string).getD .undefined) = some runId := by
  cases runId <;> rfl

variable {runtime issues clock}

section Valid

variable {input : BuildLineageEventInput} (valid : input.IsValid clock) {eventId : JsString}

include valid

theorem readLineageEvent_of_agrees (tagged : isTaggedHex64 "lin_" eventId = true)
    {data : String → JsValue} (isId : data "eventId" = .string eventId)
    (agrees : ∀ field : LineageField, data field.name = input.withoutId clock field) :
    readLineageEvent data = some (input.event clock eventId) := by
  have tenantSlug : data "tenantSlug" = .string input.tenantSlug := agrees .tenantSlug
  have eventType : data "eventType" = .string input.eventType.text := agrees .eventType
  have occurredAt : data "occurredAt" = .string (input.occurredAt.getD clock) :=
    agrees .occurredAt
  have inputs : data "inputs" = stringArray (sortTexts (input.inputs.getD [])) := agrees .inputs
  have outputs : data "outputs" = stringArray (sortTexts (input.outputs.getD [])) :=
    agrees .outputs
  have actor : data "actor" = .string input.actor := agrees .actor
  have runId : data "runId" = (input.runId.map .string).getD .undefined := agrees .runId
  have metadata : data "metadata" = .object input.members := agrees .metadata
  have named : readNonempty (.string input.actor) = some input.actor := if_neg valid.actor
  have record : readDefault [] readRecord (.object input.members) =
      some (recordMembers input.members) := rfl
  simp only [readLineageEvent, isId, tenantSlug, eventType, occurredAt, inputs, outputs, actor,
    runId, metadata, readMatching_string tagged, readMatching_string valid.tenantSlug,
    readMatching_string valid.occurredAt, readEnum_eventType, readStrings_stringArray, named,
    readOptional_runId, record, Option.bind_eq_bind, Option.bind_some]
  rfl

theorem validateLineageEvent_identified (tagged : isTaggedHex64 "lin_" eventId = true) :
    validateLineageEvent issues (identified eventId (input.withoutId clock)) =
      .ok (input.event clock eventId) := by
  have read := readLineageEvent_of_agrees valid tagged
    (property_eventId eventId (input.withoutId clock))
    (property_identified eventId (input.withoutId clock))
  rw [validateLineageEvent, identified, objectEntries, Option.bind_some, read]

end Valid

theorem isTaggedHex64_lineageEventId {value : JsValue} {eventId : JsString}
    (computed : lineageEventIdFromPayload runtime value = .ok eventId) :
    isTaggedHex64 "lin_" eventId = true := by
  rw [lineageEventIdFromPayload, canonicalSha256Hex] at computed
  cases canonical : canonicalize runtime.numbers value with
  | error error =>
    rw [canonical] at computed
    cases computed
  | ok text =>
    rw [canonical] at computed
    cases computed
    exact isTaggedHex64_iff.mpr ⟨_, runtime.sha256.isHex64_sha256Hex text, rfl⟩

/-- The event built of a valid input carries the id of its own payload. -/
theorem buildLineageEvent_eq_ok_iff {input : BuildLineageEventInput} (valid : input.IsValid clock)
    {event : LineageEvent} :
    buildLineageEvent runtime issues clock input = .ok event ↔
      ∃ eventId, lineageEventIdFromPayload runtime (payload (input.withoutId clock)) = .ok eventId ∧
        event = input.event clock eventId := by
  rw [buildLineageEvent, bind_eq_ok]
  refine exists_congr fun eventId => and_congr_right fun computed => ?_
  rw [validateLineageEvent_identified valid (isTaggedHex64_lineageEventId computed),
    Except.ok.injEq]
  exact eq_comm

theorem lineageEventIdFromPayload_of_isJson {value : JsValue} (shaped : value.isJson = true) :
    lineageEventIdFromPayload runtime value =
      .ok (js "lin_" ++ sha256Hex runtime (render runtime.numbers (normalForm value))) := by
  rw [lineageEventIdFromPayload, canonicalSha256Hex,
    canonicalize_of_isJson runtime.numbers shaped]
  rfl

theorem isJson_of_lineageEventId {input : BuildLineageEventInput} (valid : input.IsValid clock)
    {eventId : JsString}
    (computed : lineageEventIdFromPayload runtime (payload (input.withoutId clock)) = .ok eventId) :
    input.runId.isSome = true ∧ (JsValue.object input.members).isJson = true := by
  have rendered : ∃ text, canonicalize runtime.numbers (payload (input.withoutId clock)) =
      .ok text := by
    rw [lineageEventIdFromPayload, canonicalSha256Hex] at computed
    exact exists_map_eq_ok.mp (exists_map_eq_ok.mp ⟨eventId, computed⟩)
  rcases rendered with ⟨text, isText⟩
  have field (field : LineageField) :
      ∃ text, canonicalize runtime.numbers (input.withoutId clock field) = .ok text :=
    canonicalize_entry runtime.numbers isText _
      (List.mem_map.mpr ⟨field, LineageField.mem_all field, rfl⟩)
  constructor
  · rcases field .runId with ⟨runText, isRunText⟩
    cases isRun : input.runId with
    | none =>
      rw [BuildLineageEventInput.withoutId, isRun] at isRunText
      cases isRunText
    | some runId => rfl
  · rcases field .metadata with ⟨metadataText, isMetadataText⟩
    exact isJson_of_canonicalize valid.distinct isMetadataText

theorem isJson_payload {value : LineageField → JsValue}
    (shaped : ∀ field, (value field).isJson = true) : (payload value).isJson = true :=
  isJson_record LineageField.nodup_text fun field _ => shaped field

theorem isJson_stringArray (texts : List JsString) : (stringArray texts).isJson = true := by
  rw [stringArray, isJson_array_iff]
  exact List.forall_mem_map.mpr fun _ _ => rfl

theorem isJson_event {event : LineageEvent} (isRun : event.runId.isSome = true)
    (shaped : (JsValue.object event.metadata).isJson = true) (field : LineageField) :
    (event.value field).isJson = true := by
  rcases Option.isSome_iff_exists.mp isRun with ⟨runId, isRunId⟩
  cases field with
  | inputs => exact isJson_stringArray _
  | outputs => exact isJson_stringArray _
  | metadata => exact shaped
  | runId =>
    rw [LineageEvent.value, isRunId]
    rfl
  | _ => rfl

theorem isJson_recordMembers {entries : List (JsString × JsValue)}
    (shaped : (JsValue.object entries).isJson = true) :
    (JsValue.object (recordMembers entries)).isJson = true := by
  rw [isJson_object_iff] at shaped ⊢
  exact ⟨fun entry member => shaped.1 entry (List.mem_of_mem_filter member),
    shaped.2.sublist (List.filter_sublist.map Prod.fst)⟩

/-! ### Content-addressed events -/

/-- The event is built, its id is computed from its other fields, and no other order of the inputs
or outputs changes it. -/
def ContentAddressed (runtime : Runtime) (issues : JsValue → JsValue) (clock : JsString)
    (input : BuildLineageEventInput) : Prop :=
  ∃ event, buildLineageEvent runtime issues clock input = .ok event ∧
    lineageEventIdFromPayload runtime (payload event.value) = .ok event.eventId ∧
    ∀ inputs outputs, inputs.Perm (input.inputs.getD []) → outputs.Perm (input.outputs.getD []) →
      ∃ other, buildLineageEvent runtime issues clock
        { input with inputs := some inputs, outputs := some outputs } = .ok other ∧
          other.eventId = event.eventId

/-- The texts of the fields as they are given and as validation takes them over. -/
def hashedTexts (numbers : NumberText) (clock : JsString) (input : BuildLineageEventInput) :
    List JsString :=
  [input.withoutId clock, (input.event clock []).value].map fun value =>
    render numbers (normalForm (payload value))

/-- **Lineage events.** Without a collision of the two hashed texts, a valid input becomes a
content-addressed event exactly if it names a run, its metadata are JSON, and no metadata member is
one that validation leaves out. -/
theorem contentAddressed_iff (runtime : Runtime) (issues : JsValue → JsValue) (clock : JsString)
    (input : BuildLineageEventInput) (valid : input.IsValid clock)
    (clean : runtime.sha256.CollisionFreeOn (hashedTexts runtime.numbers clock input)) :
    ContentAddressed runtime issues clock input ↔
      input.runId.isSome = true ∧ (JsValue.object input.members).isJson = true ∧
        ∀ entry ∈ input.members, entry.1 ≠ js "__proto__" := by
  have full (isRun : input.runId.isSome = true)
      (shaped : (JsValue.object input.members).isJson = true) :
      (payload (input.withoutId clock)).isJson = true := by
    apply isJson_payload
    intro field
    let event := { input.event clock [] with metadata := input.members }
    have given : (event.value field).isJson = true := isJson_event isRun shaped field
    cases field <;> exact given
  constructor
  · rintro ⟨event, built, addressed, -⟩
    rcases (buildLineageEvent_eq_ok_iff valid).mp built with ⟨eventId, computed, rfl⟩
    rcases isJson_of_lineageEventId valid computed with ⟨isRun, shaped⟩
    refine ⟨isRun, shaped, ?_⟩
    have taken : (payload (input.event clock eventId).value).isJson = true :=
      isJson_payload (isJson_event isRun (isJson_recordMembers shaped))
    rw [lineageEventIdFromPayload_of_isJson (full isRun shaped)] at computed
    cases computed
    rw [lineageEventIdFromPayload_of_isJson taken, Except.ok.injEq] at addressed
    have sameText := clean _ (.tail _ (.head _)) _ (.head _) (List.append_cancel_left addressed)
    have sameForm := render_injective runtime.numbers (isJson_normalForm taken)
      (isJson_normalForm (full isRun shaped)) sameText
    have sameMetadata := normalForm_record_inj LineageField.nodup_text sameForm .metadata
      (LineageField.mem_all _)
    have lengths : (recordMembers input.members).length = input.members.length := by
      have sorted := congrArg List.length (JsValue.object.inj sameMetadata)
      rw [(perm_sortEntries _).length_eq, (perm_sortEntries _).length_eq, normalEntries_eq_map,
        normalEntries_eq_map, List.length_map, List.length_map] at sorted
      exact sorted
    intro entry member
    exact of_decide_eq_true (List.length_filter_eq_length_iff.mp lengths entry member)
  · rintro ⟨isRun, shaped, noProto⟩
    have kept : recordMembers input.members = input.members :=
      List.filter_eq_self.mpr fun entry member => decide_eq_true (noProto entry member)
    have computed : lineageEventIdFromPayload runtime (payload (input.withoutId clock)) = _ :=
      lineageEventIdFromPayload_of_isJson (full isRun shaped)
    refine ⟨_, (buildLineageEvent_eq_ok_iff valid).mpr ⟨_, computed, rfl⟩, ?_, ?_⟩
    · have sameFields (eventId : JsString) :
          (input.event clock eventId).value = input.withoutId clock := by
        funext field
        cases field with
        | metadata => exact congrArg JsValue.object kept
        | _ => rfl
      rw [sameFields, computed]
      rfl
    · intro inputs outputs inputsPermuted outputsPermuted
      have sameFields :
          { input with inputs := some inputs, outputs := some outputs }.withoutId clock =
            input.withoutId clock := by
        funext field
        cases field with
        | inputs => exact congrArg stringArray (sortTexts_congr inputsPermuted)
        | outputs => exact congrArg stringArray (sortTexts_congr outputsPermuted)
        | _ => rfl
      refine ⟨_, ?_, rfl⟩
      rw [buildLineageEvent, sameFields]
      exact (buildLineageEvent_eq_ok_iff valid).mpr ⟨_, computed, rfl⟩

end Building

namespace EventSample

def runtime : Runtime where
  sha256 := fips180
  numbers := decimalText
  dates := utcDates
  verifySignature := fun _ _ _ => .ok false

def clock : JsString := js "2026-01-01T00:00:00.000Z"

def dropped (runId : Option JsString) : BuildLineageEventInput where
  tenantSlug := js "acme"
  eventType := .ingested
  inputs := some [js "s3://drop/a"]
  outputs := some [js "ev_1"]
  actor := js "lambda:s3DropHandler"
  runId := runId
  metadata := some [(js "bucket", .string (js "drop")), (js "key", .string (js "a"))]
  occurredAt := none

theorem isValid_dropped (runId : Option JsString) : (dropped runId).IsValid clock where
  tenantSlug := show isTenantSlug (js "acme") = true by decide +kernel
  occurredAt := show isDatetime clock = true by decide +kernel
  actor := show js "lambda:s3DropHandler" ≠ [] by decide
  distinct := show hasDistinctKeys (.object (dropped none).members) = true by decide +kernel

theorem dropped_contentAddressed :
    ContentAddressed runtime (fun _ => .array []) clock (dropped (some (js "run-1"))) := by
  refine (contentAddressed_iff runtime (fun _ => .array []) clock (dropped (some (js "run-1")))
    (isValid_dropped _) (.of_head? ?_)).mpr ⟨rfl, by decide +kernel, by decide +kernel⟩
  have sameText : ∀ text ∈ hashedTexts decimalText clock (dropped (some (js "run-1"))),
      (hashedTexts decimalText clock (dropped (some (js "run-1")))).head? = some text := by
    decide +kernel
  exact sameText

/-- Without a run the same fields become no event. -/
theorem dropped_unbuilt :
    ¬ ∀ (runtime : Runtime) (issues : JsValue → JsValue) (clock : JsString)
      (input : BuildLineageEventInput), input.IsValid clock →
        ContentAddressed runtime issues clock input := by
  intro addressed
  rcases addressed runtime (fun _ => .array []) clock (dropped none) (isValid_dropped none) with
    ⟨event, built, -⟩
  have refused : (buildLineageEvent runtime (fun _ => .array []) clock (dropped none)).toBool =
      false := by
    decide +kernel
  rw [built] at refused
  cases refused

end EventSample

end GhostArk.LineageModel
