import GhostArk.EnforcementRuntime.Receipts.SignatureEnvelope
import GhostArk.LineageModel.Events
import GhostArk.Lib.InsertionMap

/-!
Contract: `packages/research-frontier/src/humanReview.ts`.

Owns the three artifacts of a review workflow with their validation from untyped
values, the linkage between them, and when an accepted workflow keeps its
evidence: receipts are always carried forward, but the checks on the escalation of
a decision and on the closure of an incident only tell the complete group of
nullable fields from the others.

What the schema library throws for a value it refuses is a parameter, as is
`Date.parse`.
-/

namespace GhostArk.ResearchFrontier.HumanReview

open Js Lib
open EnforcementRuntime.Policy (objectEntries property readArray readNonempty)
open EnforcementRuntime.Receipts (isDatetime readBool readNumber)
open EnforcementRuntime.Receipts.Signer (isBase64UrlText)
open LineageModel (readMatching)

section Schemas

variable {V : Type}

/-- The members of an object and how they are read together. -/
structure Fields (V : Type) where
  keys : List String
  read : (String → JsValue) → Option V

def field (key : String) (read : JsValue → Option V) : Fields V :=
  ⟨[key], fun data => read (data key)⟩

instance : Functor Fields where
  map build fields := ⟨fields.keys, fun data => (fields.read data).map build⟩

instance : Seq Fields where
  seq build last := ⟨build.keys ++ (last ()).keys, fun data =>
    (build.read data).bind fun result => ((last ()).read data).map result⟩

def readObject (fields : Fields V) (value : JsValue) : Option V := do
  let entries ← objectEntries value
  guard (entries.all fun entry => (fields.keys.map js).contains entry.1)
  fields.read (property entries)

def refined (read : JsValue → Option V) (test : V → Bool) (value : JsValue) : Option V :=
  (read value).filter test

def readWord (words : List (String × V)) : JsValue → Option V
  | .string text => (words.find? fun word => js word.1 = text).map Prod.snd
  | _ => none

def readNullable (read : JsValue → Option V) : JsValue → Option (Option V)
  | .null => some none
  | value => (read value).map some

/-- `z.array(…).min(1)`. -/
def readFilled (read : JsValue → Option V) (value : JsValue) : Option (List V) :=
  (readArray read value).filter fun items => !items.isEmpty

def readLiteral (text : String) : JsValue → Option JsString :=
  readMatching fun value => value = js text

def readFalse (value : JsValue) : Option Bool := (readBool value).filter fun flag => !flag

/-- `/^<mark>[A-Za-z0-9_-]+$/`. -/
def isMarkedId (mark : String) (value : JsString) : Bool :=
  (js mark).isPrefixOf value && isBase64UrlText (value.drop (js mark).length)

def readId (mark : String) : JsValue → Option JsString := readMatching (isMarkedId mark)

def readDigest : JsValue → Option JsString := readMatching (isTaggedHex64 "sha256:")

/-- `hmacSha256DigestSchema`. -/
def readHmacDigest : JsValue → Option JsString := readMatching (isTaggedHex64 "hmac-sha256:")

def readDatetime : JsValue → Option JsString := readMatching isDatetime

def readCount (value : JsValue) : Option JsNumber :=
  (readNumber value).filter fun number => number.isInteger && !number.lt (.ofNat 0)

end Schemas

structure ReviewReceiptReference where
  receipt_id : JsString
  receipt_digest : JsString
deriving DecidableEq

def readReceiptReference : JsValue → Option ReviewReceiptReference :=
  readObject (
    ReviewReceiptReference.mk <$> field "receipt_id" readNonempty
      <*> field "receipt_digest" readDigest)

inductive ArtifactType where
  | guardrail_observation | receipt | policy | verifier_report | review_queue_item
  | review_decision | review_attachment | incident_timeline
deriving DecidableEq

def ArtifactType.words : List (String × ArtifactType) :=
  [("guardrail_observation", guardrail_observation), ("receipt", receipt), ("policy", policy),
    ("verifier_report", verifier_report), ("review_queue_item", review_queue_item),
    ("review_decision", review_decision), ("review_attachment", review_attachment),
    ("incident_timeline", incident_timeline)]

structure ReviewEvidenceReference where
  artifact_type : ArtifactType
  artifact_id : JsString
  artifact_digest : JsString
deriving DecidableEq

def readEvidenceReference : JsValue → Option ReviewEvidenceReference :=
  readObject (
    ReviewEvidenceReference.mk <$> field "artifact_type" (readWord ArtifactType.words)
      <*> field "artifact_id" readNonempty
      <*> field "artifact_digest" readDigest)

structure AuditLink where
  event_id : JsString
  event_digest : JsString
  previous_event_digest : Option JsString
deriving DecidableEq

def readAuditLink : JsValue → Option AuditLink :=
  readObject (
    AuditLink.mk <$> field "event_id" (readId "audit_")
      <*> field "event_digest" readDigest
      <*> field "previous_event_digest" (readNullable readDigest))

/-- The two other members are literals. -/
structure ReviewPrivacy where
  redaction_policy_digest : JsString
deriving DecidableEq

def readPrivacy : JsValue → Option ReviewPrivacy :=
  readObject (
    (fun _ _ => ReviewPrivacy.mk) <$> field "raw_content_included" readFalse
      <*> field "notes_storage" (readLiteral "digest_only")
      <*> field "redaction_policy_digest" readDigest)

/-- `addDuplicateReceiptIssues`: the id that is seen again, if there is one. -/
def duplicateReceipt : List JsString → List ReviewReceiptReference → Option JsString
  | _, [] => none
  | ids, reference :: rest =>
    if ids.contains reference.receipt_id then some reference.receipt_id
    else duplicateReceipt (reference.receipt_id :: ids) rest

inductive QueueStatus where
  | pending | in_review | resolved | escalated | cancelled
deriving DecidableEq

def QueueStatus.words : List (String × QueueStatus) :=
  [("pending", pending), ("in_review", in_review), ("resolved", resolved),
    ("escalated", escalated), ("cancelled", cancelled)]

inductive Priority where
  | low | medium | high | critical
deriving DecidableEq

def Priority.words : List (String × Priority) :=
  [("low", low), ("medium", medium), ("high", high), ("critical", critical)]

inductive TriggerType where
  | guardrail_flag | policy_exception | receipt_verification_failure | operator_report
  | automated_alert
deriving DecidableEq

def TriggerType.words : List (String × TriggerType) :=
  [("guardrail_flag", guardrail_flag), ("policy_exception", policy_exception),
    ("receipt_verification_failure", receipt_verification_failure),
    ("operator_report", operator_report), ("automated_alert", automated_alert)]

structure Trigger where
  type : TriggerType
  observation_id : Option JsString
  observation_digest : Option JsString
  reason_codes : List JsString
deriving DecidableEq

def Trigger.isConsistent (trigger : Trigger) : Bool :=
  trigger.observation_id.isSome == trigger.observation_digest.isSome &&
    !(trigger.type = .guardrail_flag && trigger.observation_id.isNone)

def readTrigger : JsValue → Option Trigger :=
  refined (readObject (
    Trigger.mk <$> field "type" (readWord TriggerType.words)
      <*> field "observation_id" (readNullable (readId "gobs_"))
      <*> field "observation_digest" (readNullable readDigest)
      <*> field "reason_codes" (readFilled readNonempty))) Trigger.isConsistent

structure Assignment where
  reviewer_role : JsString
  reviewer_id_hash : Option JsString
  review_due_at : JsString
deriving DecidableEq

def readAssignment : JsValue → Option Assignment :=
  readObject (
    Assignment.mk <$> field "reviewer_role" readNonempty
      <*> field "reviewer_id_hash" (readNullable readHmacDigest)
      <*> field "review_due_at" readDatetime)

/-- Less the literal `schema_version`, as the other two artifacts. -/
structure HumanReviewQueueItem where
  queue_item_id : JsString
  created_at : JsString
  status : QueueStatus
  priority : Priority
  trigger : Trigger
  receipt_references : List ReviewReceiptReference
  evidence_references : List ReviewEvidenceReference
  assignment : Assignment
  privacy : ReviewPrivacy
  audit : AuditLink
  non_claims : List JsString
deriving DecidableEq

def readQueueItem : JsValue → Option HumanReviewQueueItem :=
  readObject (
    (fun _ => HumanReviewQueueItem.mk) <$> field "schema_version"
        (readLiteral "ghostark.research.human_review_queue_item.v1")
      <*> field "queue_item_id" (readId "hrq_")
      <*> field "created_at" readDatetime
      <*> field "status" (readWord QueueStatus.words)
      <*> field "priority" (readWord Priority.words)
      <*> field "trigger" readTrigger
      <*> field "receipt_references" (readFilled readReceiptReference)
      <*> field "evidence_references" (readFilled readEvidenceReference)
      <*> field "assignment" readAssignment
      <*> field "privacy" readPrivacy
      <*> field "audit" readAuditLink
      <*> field "non_claims" (readFilled readNonempty))

inductive Disposition where
  | confirmed_violation | false_positive | needs_more_evidence | escalated | no_action
deriving DecidableEq

def Disposition.words : List (String × Disposition) :=
  [("confirmed_violation", confirmed_violation), ("false_positive", false_positive),
    ("needs_more_evidence", needs_more_evidence), ("escalated", escalated),
    ("no_action", no_action)]

def Disposition.text : Disposition → JsString
  | confirmed_violation => js "confirmed_violation"
  | false_positive => js "false_positive"
  | needs_more_evidence => js "needs_more_evidence"
  | escalated => js "escalated"
  | no_action => js "no_action"

structure Reviewer where
  reviewer_role : JsString
  reviewer_id_hash : JsString
deriving DecidableEq

def readReviewer : JsValue → Option Reviewer :=
  readObject (
    Reviewer.mk <$> field "reviewer_role" readNonempty
      <*> field "reviewer_id_hash" readHmacDigest)

structure Escalation where
  required : Bool
  incident_id : Option JsString
  reason_code : Option JsString
deriving DecidableEq

def readEscalation : JsValue → Option Escalation :=
  readObject (
    Escalation.mk <$> field "required" readBool
      <*> field "incident_id" (readNullable (readId "inc_"))
      <*> field "reason_code" (readNullable readNonempty))

structure HumanReviewDecision where
  decision_id : JsString
  queue_item_id : JsString
  decided_at : JsString
  reviewer : Reviewer
  disposition : Disposition
  rationale_codes : List JsString
  rationale_digest : JsString
  receipt_references : List ReviewReceiptReference
  evidence_references : List ReviewEvidenceReference
  escalation : Escalation
  privacy : ReviewPrivacy
  audit : AuditLink
  non_claims : List JsString
deriving DecidableEq

def readDecision : JsValue → Option HumanReviewDecision :=
  readObject (
    (fun _ => HumanReviewDecision.mk) <$> field "schema_version"
        (readLiteral "ghostark.research.human_review_decision.v1")
      <*> field "decision_id" (readId "hrd_")
      <*> field "queue_item_id" (readId "hrq_")
      <*> field "decided_at" readDatetime
      <*> field "reviewer" readReviewer
      <*> field "disposition" (readWord Disposition.words)
      <*> field "rationale_codes" (readFilled readNonempty)
      <*> field "rationale_digest" readDigest
      <*> field "receipt_references" (readFilled readReceiptReference)
      <*> field "evidence_references" (readFilled readEvidenceReference)
      <*> field "escalation" readEscalation
      <*> field "privacy" readPrivacy
      <*> field "audit" readAuditLink
      <*> field "non_claims" (readFilled readNonempty))

/-- The refinement of `humanReviewDecisionSchema`. -/
def HumanReviewDecision.isConsistent (decision : HumanReviewDecision) : Bool :=
  let isEscalated := decision.disposition == .escalated
  let hasEscalationFields :=
    decision.escalation.incident_id.isSome && decision.escalation.reason_code.isSome
  isEscalated == decision.escalation.required && isEscalated == hasEscalationFields &&
    (duplicateReceipt [] decision.receipt_references).isNone

/-! ### Incidents -/

inductive TimelineEventType where
  | opened | triaged | evidence_added | contained | resolved | closed
deriving DecidableEq

def TimelineEventType.words : List (String × TimelineEventType) :=
  [("opened", opened), ("triaged", triaged), ("evidence_added", evidence_added),
    ("contained", contained), ("resolved", resolved), ("closed", closed)]

structure IncidentTimelineEvent where
  event_id : JsString
  occurred_at : JsString
  event_type : TimelineEventType
  actor_role : JsString
  evidence_digest : JsString
deriving DecidableEq

def readTimelineEvent : JsValue → Option IncidentTimelineEvent :=
  readObject (
    IncidentTimelineEvent.mk <$> field "event_id" (readId "inctl_")
      <*> field "occurred_at" readDatetime
      <*> field "event_type" (readWord TimelineEventType.words)
      <*> field "actor_role" readNonempty
      <*> field "evidence_digest" readDigest)

inductive IncidentStatus where
  | open | triaged | contained | resolved | closed
deriving DecidableEq

def IncidentStatus.words : List (String × IncidentStatus) :=
  [("open", .open), ("triaged", triaged), ("contained", contained), ("resolved", resolved),
    ("closed", closed)]

inductive Severity where
  | sev1 | sev2 | sev3 | sev4
deriving DecidableEq

def Severity.words : List (String × Severity) :=
  [("sev1", sev1), ("sev2", sev2), ("sev3", sev3), ("sev4", sev4)]

inductive IncidentCategory where
  | guardrail_failure | receipt_integrity | privacy | policy_bypass | availability | other
deriving DecidableEq

def IncidentCategory.words : List (String × IncidentCategory) :=
  [("guardrail_failure", guardrail_failure), ("receipt_integrity", receipt_integrity),
    ("privacy", privacy), ("policy_bypass", policy_bypass), ("availability", availability),
    ("other", other)]

structure IncidentSource where
  queue_item_id : JsString
  review_decision_id : JsString
deriving DecidableEq

def readSource : JsValue → Option IncidentSource :=
  readObject (
    IncidentSource.mk <$> field "queue_item_id" (readId "hrq_")
      <*> field "review_decision_id" (readId "hrd_"))

inductive Assessment where
  | under_investigation | bounded
deriving DecidableEq

def Assessment.words : List (String × Assessment) :=
  [("under_investigation", under_investigation), ("bounded", bounded)]

structure IncidentImpact where
  assessment : Assessment
  affected_receipt_count : JsNumber
  tenant_scope_hashes : List JsString
deriving DecidableEq

def readImpact : JsValue → Option IncidentImpact :=
  readObject (
    IncidentImpact.mk <$> field "assessment" (readWord Assessment.words)
      <*> field "affected_receipt_count" readCount
      <*> field "tenant_scope_hashes" (readArray readHmacDigest))

inductive EscalationLevel where
  | team | security | governance | executive
deriving DecidableEq

def EscalationLevel.words : List (String × EscalationLevel) :=
  [("team", team), ("security", security), ("governance", governance), ("executive", executive)]

structure IncidentEscalation where
  level : EscalationLevel
  owner_role : JsString
  response_due_at : JsString
deriving DecidableEq

def readIncidentEscalation : JsValue → Option IncidentEscalation :=
  readObject (
    IncidentEscalation.mk <$> field "level" (readWord EscalationLevel.words)
      <*> field "owner_role" readNonempty
      <*> field "response_due_at" readDatetime)

inductive ResolutionCode where
  | false_alarm | mitigated | accepted_risk | unresolved
deriving DecidableEq

def ResolutionCode.words : List (String × ResolutionCode) :=
  [("false_alarm", false_alarm), ("mitigated", mitigated), ("accepted_risk", accepted_risk),
    ("unresolved", unresolved)]

structure IncidentClosure where
  closed_at : Option JsString
  resolution_code : Option ResolutionCode
  postmortem_digest : Option JsString
deriving DecidableEq

def readClosure : JsValue → Option IncidentClosure :=
  readObject (
    IncidentClosure.mk <$> field "closed_at" (readNullable readDatetime)
      <*> field "resolution_code" (readNullable (readWord ResolutionCode.words))
      <*> field "postmortem_digest" (readNullable readDigest))

structure IncidentReport where
  incident_id : JsString
  opened_at : JsString
  status : IncidentStatus
  severity : Severity
  category : IncidentCategory
  source : IncidentSource
  receipt_references : List ReviewReceiptReference
  evidence_references : List ReviewEvidenceReference
  impact : IncidentImpact
  escalation : IncidentEscalation
  timeline : List IncidentTimelineEvent
  closure : IncidentClosure
  privacy : ReviewPrivacy
  audit : AuditLink
  non_claims : List JsString
deriving DecidableEq

def readIncident : JsValue → Option IncidentReport :=
  readObject (
    (fun _ => IncidentReport.mk) <$> field "schema_version"
        (readLiteral "ghostark.research.incident_report.v1")
      <*> field "incident_id" (readId "inc_")
      <*> field "opened_at" readDatetime
      <*> field "status" (readWord IncidentStatus.words)
      <*> field "severity" (readWord Severity.words)
      <*> field "category" (readWord IncidentCategory.words)
      <*> field "source" readSource
      <*> field "receipt_references" (readFilled readReceiptReference)
      <*> field "evidence_references" (readFilled readEvidenceReference)
      <*> field "impact" readImpact
      <*> field "escalation" readIncidentEscalation
      <*> field "timeline" (readFilled readTimelineEvent)
      <*> field "closure" readClosure
      <*> field "privacy" readPrivacy
      <*> field "audit" readAuditLink
      <*> field "non_claims" (readFilled readNonempty))

section Validation

variable (dates : DateParser)

/-- The refinement of `humanReviewQueueItemSchema`. -/
def HumanReviewQueueItem.isConsistent (queueItem : HumanReviewQueueItem) : Bool :=
  !(dates.parse queueItem.assignment.review_due_at).lt (dates.parse queueItem.created_at) &&
    (duplicateReceipt [] queueItem.receipt_references).isNone

def isChronological (previousTime : JsNumber) : List IncidentTimelineEvent → Bool
  | [] => true
  | event :: rest =>
    let occurredAt := dates.parse event.occurred_at
    !occurredAt.lt previousTime && isChronological occurredAt rest

def IncidentReport.isClosed (incident : IncidentReport) : Bool :=
  incident.status == .resolved || incident.status == .closed

/-- The refinement of `incidentReportSchema`. -/
def IncidentReport.isConsistent (incident : IncidentReport) : Bool :=
  let openedAt := dates.parse incident.opened_at
  let hasClosure := incident.closure.closed_at.isSome && incident.closure.resolution_code.isSome &&
    incident.closure.postmortem_digest.isSome
  (incident.timeline.head?.any fun event => event.event_type == .opened) &&
    isChronological dates openedAt incident.timeline &&
    !(dates.parse incident.escalation.response_due_at).lt openedAt &&
    incident.isClosed == hasClosure && (duplicateReceipt [] incident.receipt_references).isNone

variable (refusal : JsValue → JsError)

def parse {V : Type} (schema : JsValue → Option V) (value : JsValue) : Except JsError V :=
  match schema value with
  | some result => .ok result
  | none => .error (refusal value)

def validateHumanReviewQueueItem : JsValue → Except JsError HumanReviewQueueItem :=
  parse refusal (refined readQueueItem (HumanReviewQueueItem.isConsistent dates))

def validateHumanReviewDecision : JsValue → Except JsError HumanReviewDecision :=
  parse refusal (refined readDecision HumanReviewDecision.isConsistent)

def validateIncidentReport : JsValue → Except JsError IncidentReport :=
  parse refusal (refined readIncident (IncidentReport.isConsistent dates))

/-- The text after the name of the transition. -/
def notCarriedError (transition : String) (receiptId : JsString) : JsError :=
  .plain (js transition ++ js " must carry forward receipt " ++ receiptId ++
    js " with the same digest")

def assertReceiptReferencesCarriedForward (source target : List ReviewReceiptReference)
    (transition : String) : Except JsError Unit :=
  let targetById := InsertionMap.collect ReviewReceiptReference.receipt_id target
  source.forM fun reference => do
    if (targetById.get? reference.receipt_id).map ReviewReceiptReference.receipt_digest ≠
        some reference.receipt_digest then
      throw (notCarriedError transition reference.receipt_id)

def allowedQueueStatuses : Disposition → List QueueStatus
  | .escalated => [.in_review, .escalated]
  | .needs_more_evidence => [.in_review]
  | _ => [.in_review, .resolved]

structure HumanReviewWorkflowArtifacts where
  queueItem : HumanReviewQueueItem
  decision : HumanReviewDecision
  incident : Option IncidentReport
deriving DecidableEq

def assertIncidentLinked (queueItem : HumanReviewQueueItem) (decision : HumanReviewDecision)
    (incident : IncidentReport) : Except JsError Unit := do
  if some incident.incident_id ≠ decision.escalation.incident_id then
    throw (.plain (js "incident id must match the review escalation reference"))
  if incident.source.queue_item_id ≠ queueItem.queue_item_id ∨
      incident.source.review_decision_id ≠ decision.decision_id then
    throw (.plain (js "incident source must reference the queue item and decision"))
  if incident.audit.previous_event_digest ≠ some decision.audit.event_digest then
    throw (.plain (js "incident audit link must reference the decision event digest"))
  assertReceiptReferencesCarriedForward decision.receipt_references incident.receipt_references
    "decision-to-incident transition"

/-- `params.incident`: `undefined` for no incident. -/
def validateIncident (value : JsValue) : Except JsError (Option IncidentReport) :=
  match value with
  | .undefined => .ok none
  | value => (validateIncidentReport dates refusal value).map some

def validateHumanReviewWorkflowLinkage (queueValue decisionValue incidentValue : JsValue) :
    Except JsError HumanReviewWorkflowArtifacts := do
  let queueItem ← validateHumanReviewQueueItem dates refusal queueValue
  let decision ← validateHumanReviewDecision refusal decisionValue
  let incident ← validateIncident dates refusal incidentValue
  if decision.queue_item_id ≠ queueItem.queue_item_id then
    throw (.plain (js "review decision must reference its queue item"))
  if (dates.parse decision.decided_at).lt (dates.parse queueItem.created_at) then
    throw (.plain (js "review decision must not precede queue item creation"))
  if decision.audit.previous_event_digest ≠ some queueItem.audit.event_digest then
    throw (.plain (js "review decision audit link must reference the queue event digest"))
  assertReceiptReferencesCarriedForward queueItem.receipt_references
    decision.receipt_references "queue-to-decision transition"
  if queueItem.status ∉ allowedQueueStatuses decision.disposition then
    throw (.plain (js "queue status is incompatible with " ++ decision.disposition.text ++
      js " disposition"))
  if decision.escalation.required ∧ incident = none then
    throw (.plain (js "escalated review decision requires an incident artifact"))
  if ¬ decision.escalation.required ∧ incident ≠ none then
    throw (.plain (js "incident artifact requires an escalated review decision"))
  incident.forM (assertIncidentLinked queueItem decision)
  return { queueItem, decision, incident }

end Validation

/-! ### Members of untyped values -/

/-- `value[key]`, for an object. -/
def member (value : JsValue) (key : String) : JsValue :=
  property ((objectEntries value).getD []) key

def isNull : JsValue → Bool
  | .null => true
  | _ => false

/-- Nullable members that are all given or all null. -/
def givenTogether (members : List JsValue) : Bool := members.all isNull || !members.any isNull

variable {value : JsValue}

theorem read_of_readObject {V : Type} {fields : Fields V} {result : V}
    (returned : readObject fields value = some result) :
    fields.read (member value) = some result := by
  rw [readObject] at returned
  rcases Option.bind_eq_some_iff.mp returned with ⟨entries, isEntries, later⟩
  rcases Option.bind_eq_some_iff.mp later with ⟨_, -, isRead⟩
  have isMember : member value = property entries := by
    funext key
    rw [member, isEntries, Option.getD_some]
  rw [isMember]
  exact isRead

theorem read_seq_eq_some_iff {V W : Type} {build : Fields (V → W)} {key : String}
    {read : JsValue → Option V} {data : String → JsValue} {result : W} :
    (build <*> field key read).read data = some result ↔
      ∃ make last, build.read data = some make ∧ read (data key) = some last ∧
        make last = result := by
  change (build.read data).bind (fun make => (read (data key)).map make) = _ ↔ _
  simp only [Option.bind_eq_some_iff, Option.map_eq_some_iff, exists_and_left]

theorem isNone_of_readNullable {V : Type} {read : JsValue → Option V} {result : Option V}
    (returned : readNullable read value = some result) : result.isNone = isNull value := by
  unfold readNullable at returned
  split at returned
  next => exact Option.some.inj returned ▸ rfl
  next notNull =>
    rcases Option.map_eq_some_iff.mp returned with ⟨found, -, rfl⟩
    unfold isNull
    split
    next => exact absurd rfl notNull
    next => rfl

theorem nulls_of_readEscalation {escalation : Escalation}
    (returned : readEscalation value = some escalation) :
    escalation.incident_id.isNone = isNull (member value "incident_id") ∧
      escalation.reason_code.isNone = isNull (member value "reason_code") := by
  rcases read_seq_eq_some_iff.mp (read_of_readObject returned) with
    ⟨_, reasonCode, withId, isReasonCode, rfl⟩
  rcases read_seq_eq_some_iff.mp withId with ⟨_, incidentId, withRequired, isIncidentId, rfl⟩
  rcases Option.map_eq_some_iff.mp withRequired with ⟨required, -, rfl⟩
  exact ⟨isNone_of_readNullable isIncidentId, isNone_of_readNullable isReasonCode⟩

theorem nulls_of_readClosure {closure : IncidentClosure}
    (returned : readClosure value = some closure) :
    closure.closed_at.isNone = isNull (member value "closed_at") ∧
      closure.resolution_code.isNone = isNull (member value "resolution_code") ∧
        closure.postmortem_digest.isNone = isNull (member value "postmortem_digest") := by
  rcases read_seq_eq_some_iff.mp (read_of_readObject returned) with
    ⟨_, digest, withCode, isDigest, rfl⟩
  rcases read_seq_eq_some_iff.mp withCode with ⟨_, code, withTime, isCode, rfl⟩
  rcases Option.map_eq_some_iff.mp withTime with ⟨closedAt, isClosedAt, rfl⟩
  exact ⟨isNone_of_readNullable isClosedAt, isNone_of_readNullable isCode,
    isNone_of_readNullable isDigest⟩

theorem escalation_of_readDecision {decision : HumanReviewDecision}
    (returned : readDecision value = some decision) :
    readEscalation (member value "escalation") = some decision.escalation := by
  have earlier := read_of_readObject returned
  clear returned
  -- The three members behind it, then the ten before it.
  iterate 3
    rw [read_seq_eq_some_iff] at earlier
    rcases earlier with ⟨_, _, earlier, -, rfl⟩
  rcases read_seq_eq_some_iff.mp earlier with ⟨_, escalation, before, isEscalation, rfl⟩
  clear earlier
  iterate 9
    rw [read_seq_eq_some_iff] at before
    rcases before with ⟨_, _, before, -, rfl⟩
  rcases Option.map_eq_some_iff.mp before with ⟨version, -, rfl⟩
  exact isEscalation

theorem closure_of_readIncident {incident : IncidentReport}
    (returned : readIncident value = some incident) :
    readClosure (member value "closure") = some incident.closure := by
  have earlier := read_of_readObject returned
  clear returned
  -- The three members behind it, then the twelve before it.
  iterate 3
    rw [read_seq_eq_some_iff] at earlier
    rcases earlier with ⟨_, _, earlier, -, rfl⟩
  rcases read_seq_eq_some_iff.mp earlier with ⟨_, closure, before, isClosure, rfl⟩
  clear earlier
  iterate 11
    rw [read_seq_eq_some_iff] at before
    rcases before with ⟨_, _, before, -, rfl⟩
  rcases Option.map_eq_some_iff.mp before with ⟨version, -, rfl⟩
  exact isClosure

/-! ### Receipts -/

variable {references : List ReviewReceiptReference}

theorem duplicateReceipt_eq_none_iff {ids : List JsString} :
    duplicateReceipt ids references = none ↔
      (references.map ReviewReceiptReference.receipt_id).Nodup ∧
        ∀ reference ∈ references, reference.receipt_id ∉ ids := by
  induction references generalizing ids with
  | nil => exact iff_of_true rfl ⟨List.nodup_nil, List.forall_mem_nil _⟩
  | cons reference rest ih =>
    rw [duplicateReceipt, List.map_cons, List.nodup_cons, List.forall_mem_cons]
    split
    next seen =>
      rw [List.contains_iff_mem] at seen
      exact iff_of_false (Option.some_ne_none _) fun both => both.2.1 seen
    next unseen =>
      rw [List.contains_iff_mem] at unseen
      rw [ih]
      simp only [List.mem_cons, not_or, List.mem_map, not_exists, not_and]
      constructor
      · rintro ⟨distinct, fresh⟩
        exact ⟨⟨fun other isOther => (fresh other isOther).1, distinct⟩, unseen,
          fun other isOther => (fresh other isOther).2⟩
      · rintro ⟨⟨differ, distinct⟩, _, fresh⟩
        exact ⟨distinct, fun other isOther => ⟨differ other isOther, fresh other isOther⟩⟩

/-- No receipt is listed with two digests. -/
def OneDigest (references : List ReviewReceiptReference) : Prop :=
  ∀ first ∈ references, ∀ second ∈ references, first.receipt_id = second.receipt_id →
    first.receipt_digest = second.receipt_digest

theorem oneDigest_of_isNone (unique : (duplicateReceipt [] references).isNone = true) :
    OneDigest references := by
  rw [Option.isNone_iff_eq_none, duplicateReceipt_eq_none_iff] at unique
  intro first isFirst second isSecond sameId
  rw [List.inj_on_of_nodup_map unique.1 isFirst isSecond sameId]

theorem mem_of_carried {source target : List ReviewReceiptReference} {transition : String}
    (carried : assertReceiptReferencesCarriedForward source target transition = .ok ()) :
    ∀ reference ∈ source, reference ∈ target := by
  intro reference isSource
  rw [assertReceiptReferencesCarriedForward, forM_eq_ok_iff] at carried
  have same := carried reference isSource
  rw [throw_if_eq_ok, ne_eq, not_not, InsertionMap.get?_collect] at same
  rcases Option.map_eq_some_iff.mp same with ⟨found, isFound, sameDigest⟩
  have sameId := List.find?_some isFound
  rw [decide_eq_true_eq] at sameId
  have isReference : found = reference := by
    cases found
    cases reference
    exact congrArg₂ ReviewReceiptReference.mk sameId sameDigest
  rw [← isReference]
  exact List.mem_reverse.mp (List.mem_of_find?_eq_some isFound)

section Accepted

variable {dates : DateParser} {refusal : JsValue → JsError}

theorem parse_refined_eq_ok_iff {V : Type} {read : JsValue → Option V} {test : V → Bool}
    {value : JsValue} {result : V} :
    parse refusal (refined read test) value = .ok result ↔
      read value = some result ∧ test result = true := by
  rw [parse, ← Option.filter_eq_some_iff, ← refined]
  cases refined read test value with
  | none => exact iff_of_false nofun nofun
  | some found => rw [Except.ok.injEq, Option.some.injEq]

/-- What the linkage has checked when it returns. -/
structure IsLinked (dates : DateParser) (queueValue decisionValue incidentValue : JsValue)
    (artifacts : HumanReviewWorkflowArtifacts) : Prop where
  queueConsistent : artifacts.queueItem.isConsistent dates = true
  decisionRead : readDecision decisionValue = some artifacts.decision
  decisionConsistent : artifacts.decision.isConsistent = true
  incidentRead : ∀ incident ∈ artifacts.incident, readIncident incidentValue = some incident
  incidentConsistent : ∀ incident ∈ artifacts.incident, incident.isConsistent dates = true
  incidentAbsent : artifacts.incident = none → incidentValue = .undefined
  carried : ∀ reference ∈ artifacts.queueItem.receipt_references,
    reference ∈ artifacts.decision.receipt_references
  carriedOn : ∀ incident ∈ artifacts.incident,
    ∀ reference ∈ artifacts.decision.receipt_references, reference ∈ incident.receipt_references

theorem validateIncident_eq_ok {value : JsValue} {incident : Option IncidentReport}
    (returned : validateIncident dates refusal value = .ok incident) :
    (incident = none → value = .undefined) ∧
      ∀ found ∈ incident, readIncident value = some found ∧ found.isConsistent dates = true := by
  unfold validateIncident at returned
  split at returned
  next =>
    cases returned
    exact ⟨fun _ => rfl, fun found isFound => absurd isFound (Option.not_mem_none found)⟩
  next =>
    cases validated : validateIncidentReport dates refusal value with
    | error error =>
      rw [validated] at returned
      cases returned
    | ok found =>
      rw [validated] at returned
      cases returned
      refine ⟨nofun, fun other isOther => ?_⟩
      cases isOther
      exact parse_refined_eq_ok_iff.mp validated

theorem carried_of_assertIncidentLinked {queueItem : HumanReviewQueueItem}
    {decision : HumanReviewDecision} {incident : IncidentReport}
    (returned : assertIncidentLinked queueItem decision incident = .ok ()) :
    ∀ reference ∈ decision.receipt_references, reference ∈ incident.receipt_references := by
  rw [assertIncidentLinked, check_eq_ok, check_eq_ok, check_eq_ok] at returned
  exact mem_of_carried returned.2.2.2

/-- An accepted workflow is consistent, and carries every receipt reference on. -/
theorem isLinked_of_accepted {queueValue decisionValue incidentValue : JsValue}
    {artifacts : HumanReviewWorkflowArtifacts}
    (accepted : validateHumanReviewWorkflowLinkage dates refusal queueValue decisionValue
      incidentValue = .ok artifacts) :
    IsLinked dates queueValue decisionValue incidentValue artifacts := by
  rw [validateHumanReviewWorkflowLinkage] at accepted
  rcases bind_eq_ok.mp accepted with ⟨queueItem, validQueue, accepted⟩
  rcases bind_eq_ok.mp accepted with ⟨decision, validDecision, accepted⟩
  rcases bind_eq_ok.mp accepted with ⟨incident, validIncident, accepted⟩
  rw [check_eq_ok, check_eq_ok, check_eq_ok] at accepted
  rcases bind_eq_ok.mp accepted.2.2.2 with ⟨_, carried, accepted⟩
  rw [check_eq_ok, check_eq_ok, check_eq_ok] at accepted
  rcases bind_eq_ok.mp accepted.2.2.2 with ⟨_, linked, returned⟩
  cases returned
  have queueChecked := parse_refined_eq_ok_iff.mp validQueue
  have decisionChecked := parse_refined_eq_ok_iff.mp validDecision
  have incidentChecked := validateIncident_eq_ok validIncident
  exact {
    queueConsistent := queueChecked.2
    decisionRead := decisionChecked.1
    decisionConsistent := decisionChecked.2
    incidentRead := fun found isFound => (incidentChecked.2 found isFound).1
    incidentConsistent := fun found isFound => (incidentChecked.2 found isFound).2
    incidentAbsent := incidentChecked.1
    carried := mem_of_carried carried
    carriedOn := fun found isFound => by
      cases isFound
      exact carried_of_assertIncidentLinked linked }

theorem givenTogether_iff {members : List JsValue} {complete : Bool}
    (isComplete : complete = !members.any isNull) :
    (complete = false → members.all isNull = true) ↔ givenTogether members = true := by
  rw [isComplete, givenTogether, Bool.or_eq_true]
  cases members.any isNull with
  | true => simp only [Bool.not_true, forall_const, Bool.false_eq_true, or_false]
  | false => exact iff_of_true nofun (.inr rfl)

def escalationMembers (decisionValue : JsValue) : List JsValue :=
  ["incident_id", "reason_code"].map (member (member decisionValue "escalation"))

def closureMembers (incidentValue : JsValue) : List JsValue :=
  ["closed_at", "resolution_code", "postmortem_digest"].map
    (member (member incidentValue "closure"))

theorem escalation_empty_iff {value : JsValue} {decision : HumanReviewDecision}
    (isRead : readDecision value = some decision) (consistent : decision.isConsistent = true) :
    (decision.disposition ≠ .escalated →
        decision.escalation.incident_id = none ∧ decision.escalation.reason_code = none) ↔
      givenTogether (escalationMembers value) = true := by
  have nulls := nulls_of_readEscalation (escalation_of_readDecision isRead)
  rw [HumanReviewDecision.isConsistent, Bool.and_eq_true, Bool.and_eq_true, beq_iff_eq,
    beq_iff_eq] at consistent
  have isComplete : (decision.disposition == .escalated) =
      !(escalationMembers value).any isNull := by
    rw [consistent.1.2]
    simp only [escalationMembers, List.map_cons, List.map_nil, List.any_cons, List.any_nil,
      Bool.or_false, Bool.not_or, ← nulls.1, ← nulls.2, Option.not_isNone]
  rw [← givenTogether_iff isComplete, beq_eq_false_iff_ne]
  simp only [escalationMembers, List.map_cons, List.map_nil, List.all_cons, List.all_nil,
    Bool.and_true, ← nulls.1, ← nulls.2, Bool.and_eq_true, Option.isNone_iff_eq_none]

theorem closure_empty_iff {value : JsValue} {incident : IncidentReport}
    (isRead : readIncident value = some incident)
    (consistent : incident.isConsistent dates = true) :
    (incident.isClosed = false → incident.closure = ⟨none, none, none⟩) ↔
      givenTogether (closureMembers value) = true := by
  have nulls := nulls_of_readClosure (closure_of_readIncident isRead)
  simp only [IncidentReport.isConsistent, Bool.and_eq_true, beq_iff_eq] at consistent
  have isComplete : incident.isClosed = !(closureMembers value).any isNull := by
    rw [consistent.1.2]
    simp only [closureMembers, List.map_cons, List.map_nil, List.any_cons, List.any_nil,
      Bool.or_false, Bool.not_or, ← nulls.1, ← nulls.2.1, ← nulls.2.2, Option.not_isNone,
      Bool.and_assoc]
  have isEmpty : incident.closure = ⟨none, none, none⟩ ↔
      (closureMembers value).all isNull = true := by
    simp only [closureMembers, List.map_cons, List.map_nil, List.all_cons, List.all_nil,
      Bool.and_true, ← nulls.1, ← nulls.2.1, ← nulls.2.2, Bool.and_eq_true,
      Option.isNone_iff_eq_none]
    cases incident.closure
    exact Iff.of_eq (IncidentClosure.mk.injEq ..)
  rw [← givenTogether_iff isComplete, isEmpty]

/-! ### Evidence -/

structure KeepsEvidence (artifacts : HumanReviewWorkflowArtifacts) : Prop where
  decisionCarries : ∀ reference ∈ artifacts.queueItem.receipt_references,
    reference ∈ artifacts.decision.receipt_references
  incidentCarries : ∀ incident ∈ artifacts.incident,
    ∀ reference ∈ artifacts.queueItem.receipt_references,
      reference ∈ incident.receipt_references
  queueOneDigest : OneDigest artifacts.queueItem.receipt_references
  decisionOneDigest : OneDigest artifacts.decision.receipt_references
  incidentOneDigest : ∀ incident ∈ artifacts.incident, OneDigest incident.receipt_references
  notEscalated : artifacts.decision.disposition ≠ .escalated →
    artifacts.decision.escalation.incident_id = none ∧
      artifacts.decision.escalation.reason_code = none
  active : ∀ incident ∈ artifacts.incident, incident.isClosed = false →
    incident.closure = ⟨none, none, none⟩

/-- An accepted workflow keeps its evidence exactly when neither group of nullable
fields is partly given. -/
theorem keepsEvidence_iff {queueValue decisionValue incidentValue : JsValue}
    {artifacts : HumanReviewWorkflowArtifacts}
    (accepted : validateHumanReviewWorkflowLinkage dates refusal queueValue decisionValue
      incidentValue = .ok artifacts) :
    KeepsEvidence artifacts ↔
      givenTogether (escalationMembers decisionValue) = true ∧
        givenTogether (closureMembers incidentValue) = true := by
  have linked := isLinked_of_accepted accepted
  have escalationEmpty := escalation_empty_iff linked.decisionRead linked.decisionConsistent
  constructor
  · intro kept
    refine ⟨escalationEmpty.mp kept.notEscalated, ?_⟩
    cases isIncident : artifacts.incident with
    | none =>
      rw [linked.incidentAbsent isIncident]
      rfl
    | some incident =>
      exact (closure_empty_iff (linked.incidentRead incident isIncident)
        (linked.incidentConsistent incident isIncident)).mp (kept.active incident isIncident)
  · intro together
    have unique := linked.queueConsistent
    have decisionUnique := linked.decisionConsistent
    rw [HumanReviewQueueItem.isConsistent, Bool.and_eq_true] at unique
    rw [HumanReviewDecision.isConsistent, Bool.and_eq_true] at decisionUnique
    exact {
      decisionCarries := linked.carried
      incidentCarries := fun incident isIncident reference isReference =>
        linked.carriedOn incident isIncident reference (linked.carried reference isReference)
      queueOneDigest := oneDigest_of_isNone unique.2
      decisionOneDigest := oneDigest_of_isNone decisionUnique.2
      incidentOneDigest := fun incident isIncident => by
        have incidentUnique := linked.incidentConsistent incident isIncident
        rw [IncidentReport.isConsistent, Bool.and_eq_true] at incidentUnique
        exact oneDigest_of_isNone incidentUnique.2
      notEscalated := escalationEmpty.mpr together.1
      active := fun incident isIncident =>
        (closure_empty_iff (linked.incidentRead incident isIncident)
          (linked.incidentConsistent incident isIncident)).mpr together.2 }

end Accepted

namespace ReviewSample

def text (value : String) : JsValue := .string (js value)

def object (entries : List (String × JsValue)) : JsValue :=
  .object (entries.map fun entry => (js entry.1, entry.2))

def digest (mark : String) (digit : Char) : JsValue :=
  .string (js mark ++ List.replicate 64 (unit digit))

def privacy : JsValue :=
  object [("raw_content_included", .bool false), ("notes_storage", text "digest_only"),
    ("redaction_policy_digest", digest "sha256:" 'e')]

def audit (eventId : String) (event previous : JsValue) : JsValue :=
  object [("event_id", text eventId), ("event_digest", event),
    ("previous_event_digest", previous)]

def receipts : JsValue :=
  .array [object [("receipt_id", text "rct_1"), ("receipt_digest", digest "sha256:" '6')]]

def evidence (type id : String) : JsValue :=
  .array [object [("artifact_type", text type), ("artifact_id", text id),
    ("artifact_digest", digest "sha256:" 'a')]]

def nonClaims : JsValue := .array [text "mechanics only"]

def queueItem : JsValue :=
  object [("schema_version", text "ghostark.research.human_review_queue_item.v1"),
    ("queue_item_id", text "hrq_1"), ("created_at", text "2026-07-09T14:00:00.000Z"),
    ("status", text "in_review"), ("priority", text "critical"),
    ("trigger", object [("type", text "receipt_verification_failure"),
      ("observation_id", .null), ("observation_digest", .null),
      ("reason_codes", .array [text "signature_verdict_failed"])]),
    ("receipt_references", receipts),
    ("evidence_references", evidence "verifier_report" "report_1"),
    ("assignment", object [("reviewer_role", text "security_reviewer"),
      ("reviewer_id_hash", digest "hmac-sha256:" '9'),
      ("review_due_at", text "2026-07-09T15:00:00.000Z")]),
    ("privacy", privacy), ("audit", audit "audit_queue_1" (digest "sha256:" 'b') .null),
    ("non_claims", nonClaims)]

def decision (disposition : String) (required : Bool) (incidentId reasonCode : JsValue) :
    JsValue :=
  object [("schema_version", text "ghostark.research.human_review_decision.v1"),
    ("decision_id", text "hrd_1"), ("queue_item_id", text "hrq_1"),
    ("decided_at", text "2026-07-09T14:10:00.000Z"),
    ("reviewer", object [("reviewer_role", text "security_reviewer"),
      ("reviewer_id_hash", digest "hmac-sha256:" '9')]),
    ("disposition", text disposition), ("rationale_codes", .array [text "reviewed"]),
    ("rationale_digest", digest "sha256:" 'c'), ("receipt_references", receipts),
    ("evidence_references", evidence "review_queue_item" "hrq_1"),
    ("escalation", object [("required", .bool required), ("incident_id", incidentId),
      ("reason_code", reasonCode)]),
    ("privacy", privacy),
    ("audit", audit "audit_decision_1" (digest "sha256:" 'd') (digest "sha256:" 'b')),
    ("non_claims", nonClaims)]

def escalated : JsValue :=
  decision "escalated" true (text "inc_1") (text "receipt_integrity_failure")

def incident (closedAt : JsValue) : JsValue :=
  object [("schema_version", text "ghostark.research.incident_report.v1"),
    ("incident_id", text "inc_1"), ("opened_at", text "2026-07-09T14:11:00.000Z"),
    ("status", text "triaged"), ("severity", text "sev2"),
    ("category", text "receipt_integrity"),
    ("source", object [("queue_item_id", text "hrq_1"),
      ("review_decision_id", text "hrd_1")]),
    ("receipt_references", receipts),
    ("evidence_references", evidence "review_decision" "hrd_1"),
    ("impact", object [("assessment", text "under_investigation"),
      ("affected_receipt_count", .number (.ofNat 1)), ("tenant_scope_hashes", .array [])]),
    ("escalation", object [("level", text "security"),
      ("owner_role", text "incident_commander"),
      ("response_due_at", text "2026-07-09T15:00:00.000Z")]),
    ("timeline", .array [object [("event_id", text "inctl_1"),
      ("occurred_at", text "2026-07-09T14:11:00.000Z"), ("event_type", text "opened"),
      ("actor_role", text "security_reviewer"), ("evidence_digest", digest "sha256:" 'e')]]),
    ("closure", object [("closed_at", closedAt), ("resolution_code", .null),
      ("postmortem_digest", .null)]),
    ("privacy", privacy),
    ("audit", audit "audit_incident_1" (digest "sha256:" 'f') (digest "sha256:" 'd')),
    ("non_claims", nonClaims)]

def review (decisionValue incidentValue : JsValue) :
    Except JsError HumanReviewWorkflowArtifacts :=
  validateHumanReviewWorkflowLinkage utcDates (fun _ => .plain []) queueItem decisionValue
    incidentValue

end ReviewSample

open ReviewSample

theorem escalated_workflow_keepsEvidence :
    ∃ artifacts, review escalated (incident .null) = .ok artifacts ∧
      artifacts.incident.isSome = true ∧ KeepsEvidence artifacts := by
  have evaluated : (review escalated (incident .null)).toOption.any (fun artifacts =>
      artifacts.incident.isSome) = true := by
    decide +kernel
  rcases exists_ok_of_any evaluated with ⟨artifacts, accepted, isIncident⟩
  exact ⟨artifacts, accepted, isIncident,
    (keepsEvidence_iff accepted).mpr ⟨by decide +kernel, by decide +kernel⟩⟩

/-- A dismissed alarm with an incident id alone, and a triaged incident with a closing
time alone. -/
theorem partlyGiven_accepted :
    (∃ artifacts, review (decision "false_positive" false (text "inc_1") .null) .undefined =
        .ok artifacts ∧ ¬ KeepsEvidence artifacts) ∧
      ∃ artifacts, review escalated (incident (text "2026-07-09T16:00:00.000Z")) =
        .ok artifacts ∧ ¬ KeepsEvidence artifacts := by
  have dismissed : (review (decision "false_positive" false (text "inc_1") .null)
      .undefined).toOption.any (fun artifacts => artifacts.decision.disposition ≠ .escalated ∧
        artifacts.decision.escalation.incident_id ≠ none) = true := by
    decide +kernel
  have triaged : (review escalated
      (incident (text "2026-07-09T16:00:00.000Z"))).toOption.any (fun artifacts =>
        artifacts.incident.any fun incident =>
          !incident.isClosed && incident.closure.closed_at.isSome) = true := by
    decide +kernel
  constructor
  · rcases exists_ok_of_any dismissed with ⟨artifacts, accepted, partly⟩
    have ⟨notEscalated, isGiven⟩ := of_decide_eq_true partly
    exact ⟨artifacts, accepted, fun kept => isGiven (kept.notEscalated notEscalated).1⟩
  · rcases exists_ok_of_any triaged with ⟨artifacts, accepted, partly⟩
    rcases (Option.any_eq_true _ _).mp partly with ⟨incident, isIncident, isOpen⟩
    refine ⟨artifacts, accepted, fun kept => ?_⟩
    rw [Bool.and_eq_true, Bool.not_eq_true'] at isOpen
    rw [kept.active incident isIncident isOpen.1] at isOpen
    exact absurd isOpen.2 Bool.false_ne_true

end GhostArk.ResearchFrontier.HumanReview
