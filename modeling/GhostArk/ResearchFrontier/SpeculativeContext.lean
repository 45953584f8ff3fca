import GhostArk.EnforcementRuntime.Evidence.EvidenceFloor
import GhostArk.Lib.Machine
import GhostArk.ReceiptSchema.CanonicalAcceptance

/-!
Contract: `packages/research-frontier/src/speculativeExecution/stateForker.ts`.

Owns the speculative context manager as a machine: its canonical base, the active
draft with the edits of its holder, abort markers, the collapse rule with every
way it throws, and what a clone and the comparison of two states accept.

Does not own: the evaluation of evidence.
-/

namespace GhostArk.ResearchFrontier

open Js
open Lib
open ReceiptSchema
open EnforcementRuntime.Evidence (evaluateEvidenceFloor)

structure JsonObject where
  entries : List (JsString × JsValue)
  shaped : (JsValue.object entries).isJson = true

namespace JsonObject

def value (object : JsonObject) : JsValue := .object object.entries

def keys (object : JsonObject) : List JsString := object.entries.map Prod.fst

theorem ext {left right : JsonObject} (same : left.entries = right.entries) : left = right := by
  cases left
  cases same
  rfl

end JsonObject

structure SpeculationCommit where
  dirtyKeys : List JsString
  evaluationDetail : JsString

structure SpeculationAbortMarker where
  draftDigest : JsString
  effectClass : JsValue

def forkerError (message : JsString) (context : List (JsString × JsValue)) : JsError :=
  ⟨.validationError, message,
    (js "domain", .string (js "ghost_ark.speculative_context.v1")) :: context⟩

section Manager

variable (runtime : Runtime)

theorem isJson_of_parsed {value : HeldValue} {text : JsString} {entries : List (JsString × JsValue)}
    (rendered : canonicalize runtime.numbers value.value = .ok text)
    (parsed : parse runtime.numbers text = some (.object entries)) :
    (JsValue.object entries).isJson = true := by
  have shaped := isJson_of_canonicalize value.distinct rendered
  rw [parse_canonicalize shaped rendered, Option.some.injEq] at parsed
  rw [← parsed]
  exact isJson_normalForm shaped

def canonicalClone (value : HeldValue) (field : String) : Except JsError JsonObject :=
  match rendered : canonicalize runtime.numbers value.value with
  | .error error =>
    .error (forkerError (js field ++ js " must be a plain JSON-serializable object.")
      [(js "field", .string (js field)), (js "cause", .string error.message)])
  | .ok canonical =>
    match parsed : parse runtime.numbers canonical with
    | none => .error ⟨.external (js "SyntaxError"), js "JSON.parse", []⟩
    | some (.object entries) => .ok ⟨entries, isJson_of_parsed runtime rendered parsed⟩
    | some _ =>
      .error (forkerError (js field ++ js " must be a JSON object.")
        [(js "field", .string (js field))])

theorem canonicalClone_eq_ok_iff {value : HeldValue} {field : String} {clone : JsonObject} :
    canonicalClone runtime value field = .ok clone ↔
      value.value.isJson = true ∧ normalForm value.value = clone.value := by
  rw [canonicalClone]
  split
  next error refused =>
    refine iff_of_false (fun returned => by cases returned) fun both => ?_
    rw [canonicalize_of_isJson runtime.numbers both.1] at refused
    cases refused
  next canonical rendered =>
    have shaped := isJson_of_canonicalize value.distinct rendered
    have parses := parse_canonicalize shaped rendered
    split
    next absent =>
      rw [parses] at absent
      cases absent
    next entries parsed =>
      rw [parses, Option.some.injEq] at parsed
      rw [parsed]
      constructor
      · intro returned
        cases returned
        exact ⟨shaped, rfl⟩
      · rintro ⟨-, same⟩
        exact congrArg _ (JsonObject.ext (JsValue.object.inj same))
    next other notObject parsed =>
      rw [parses, Option.some.injEq] at parsed
      refine iff_of_false (fun returned => by cases returned) ?_
      rintro ⟨-, same⟩
      exact notObject _ (parsed.symm.trans same)

/-- Whether a key counts as changed. -/
def isDirty (base draft : JsonObject) (key : JsString) : Except JsError Bool :=
  let inBase := hasProperty base.entries key
  let inDraft := hasProperty draft.entries key
  if inBase ≠ inDraft then .ok true
  else do
    let before ← canonicalize runtime.numbers (readProperty base.entries key)
    let after ← canonicalize runtime.numbers (readProperty draft.entries key)
    return before != after

def dirtyKeysBetween (base draft : JsonObject) : Except JsError (List JsString) := do
  let dirty ← filterChecked (isDirty runtime base draft) (distinct (base.keys ++ draft.keys))
  return sortTexts dirty

/-! ### The manager -/

structure SpeculativeContextManager where
  base : JsonObject
  /-- The draft as its holder left it. -/
  draft : Option HeldValue
  markers : List SpeculationAbortMarker

/-- `new SpeculativeContextManager(context)`. -/
def construct (context : HeldValue) : Except JsError SpeculativeContextManager := do
  let base ← canonicalClone runtime context "context"
  return ⟨base, none, []⟩

inductive SpeculationCall where
  | fork
  /-- The holder of the draft rewrites it. -/
  | edit (draft : HeldValue)
  | commitSpeculation (evidence requirement : JsValue)
  | abortSpeculation (effectClass : JsValue)

inductive SpeculationReply where
  | forked (draft : JsonObject)
  | edited
  | committed (commit : SpeculationCommit)
  | aborted (marker : SpeculationAbortMarker)

def JsonObject.held (object : JsonObject) : HeldValue :=
  ⟨object.value, hasDistinctKeys_of_isJson object.shaped⟩

def fork (manager : SpeculativeContextManager) :
    Except JsError SpeculationReply × SpeculativeContextManager :=
  match manager.draft with
  | some _ =>
    (.error (forkerError
      (js "A speculation is already active; nested forks are refused.") []), manager)
  | none =>
    match canonicalClone runtime manager.base.held "context" with
    | .error error => (.error error, manager)
    | .ok clone => (.ok (.forked clone), { manager with draft := some clone.held })

def recordAbort (manager : SpeculativeContextManager) (draft : JsonObject)
    (effectClass : JsValue) :
    Except JsError SpeculationAbortMarker × SpeculativeContextManager :=
  match canonicalize runtime.numbers draft.value with
  | .error error => (.error error, manager)
  | .ok text =>
    let marker : SpeculationAbortMarker := ⟨js "sha256:" ++ sha256Hex runtime text, effectClass⟩
    (.ok marker, { manager with draft := none, markers := manager.markers ++ [marker] })

def commitSpeculation (manager : SpeculativeContextManager) (evidence requirement : JsValue) :
    Except JsError SpeculationReply × SpeculativeContextManager :=
  match manager.draft with
  | none => (.error (forkerError (js "No active speculation to commit.") []), manager)
  | some active =>
    match canonicalClone runtime active "draft" with
    | .error error => (.error error, manager)
    | .ok draft =>
      match evaluateEvidenceFloor evidence requirement with
      | .error error => (.error error, manager)
      | .ok evaluation =>
        if evaluation.satisfied then
          match dirtyKeysBetween runtime manager.base draft with
          | .error error => (.error error, manager)
          | .ok dirtyKeys =>
            (.ok (.committed ⟨dirtyKeys, evaluation.detail⟩),
              { manager with base := draft, draft := none })
        else
          let effectClass := readProperty ((objectMembers requirement).getD []) (js "effectClass")
          match recordAbort runtime manager draft effectClass with
          | (.error error, next) => (.error error, next)
          | (.ok _, next) =>
            (.error (forkerError (js "Collapse refused: " ++ evaluation.detail)
              [(js "effectClass", effectClass)]), next)

def abortSpeculation (manager : SpeculativeContextManager) (effectClass : JsValue) :
    Except JsError SpeculationReply × SpeculativeContextManager :=
  match manager.draft with
  | none => (.error (forkerError (js "No active speculation to abort.") []), manager)
  | some active =>
    match canonicalClone runtime active "draft" with
    | .error error => (.error error, manager)
    | .ok draft =>
      match recordAbort runtime manager draft effectClass with
      | (.error error, next) => (.error error, next)
      | (.ok marker, next) => (.ok (.aborted marker), next)

/-- The manager as a machine. Once it is no longer active, editing a draft changes nothing. -/
def speculation : Machine SpeculativeContextManager SpeculationCall
    (Except JsError SpeculationReply) := fun manager call =>
  match call with
  | .fork => fork runtime manager
  | .edit draft => (.ok .edited, { manager with draft := manager.draft.map fun _ => draft })
  | .commitSpeculation evidence requirement =>
    commitSpeculation runtime manager evidence requirement
  | .abortSpeculation effectClass => abortSpeculation runtime manager effectClass

end Manager

end GhostArk.ResearchFrontier
