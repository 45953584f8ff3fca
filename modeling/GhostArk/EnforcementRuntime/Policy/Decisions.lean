import Mathlib.Order.Basic
import GhostArk.Js.Number

/-!
Contract: `packages/enforcement-runtime/src/policy/decisions.ts`.

Owns decision kinds with their rank, enforcement phases, consent states and
policy decisions; the part of a policy decision that a receipt records is a
record of its own. More restrictive decisions are greater.
-/

namespace GhostArk.EnforcementRuntime.Policy

open Js

inductive DecisionKind where
  | ALLOW
  | MODIFY
  | REDACT
  | REFUSE
  | SILENCE
  | ESCALATE
  | REQUIRE_CONSENT
  | MEMORY_SUPPRESS
  | RECEIPT_ONLY
  | HUMAN_REVIEW
deriving DecidableEq, Repr

def decisionVocabulary : List DecisionKind :=
  [.ALLOW, .MODIFY, .REDACT, .REFUSE, .SILENCE, .ESCALATE, .REQUIRE_CONSENT, .MEMORY_SUPPRESS,
    .RECEIPT_ONLY, .HUMAN_REVIEW]

def DecisionKind.text : DecisionKind → JsString
  | .ALLOW => js "ALLOW"
  | .MODIFY => js "MODIFY"
  | .REDACT => js "REDACT"
  | .REFUSE => js "REFUSE"
  | .SILENCE => js "SILENCE"
  | .ESCALATE => js "ESCALATE"
  | .REQUIRE_CONSENT => js "REQUIRE_CONSENT"
  | .MEMORY_SUPPRESS => js "MEMORY_SUPPRESS"
  | .RECEIPT_ONLY => js "RECEIPT_ONLY"
  | .HUMAN_REVIEW => js "HUMAN_REVIEW"

inductive EnforcementPhase where
  | pre_retrieval
  | pre_model
  | post_model
  | memory_write
  | final_response
deriving DecidableEq, Repr

def enforcementPhases : List EnforcementPhase :=
  [.pre_retrieval, .pre_model, .post_model, .memory_write, .final_response]

def EnforcementPhase.text : EnforcementPhase → JsString
  | .pre_retrieval => js "pre_retrieval"
  | .pre_model => js "pre_model"
  | .post_model => js "post_model"
  | .memory_write => js "memory_write"
  | .final_response => js "final_response"

inductive ConsentState where
  | granted
  | denied
  | missing
  | not_required
deriving DecidableEq, Repr

def consentStates : List ConsentState := [.granted, .denied, .missing, .not_required]

def ConsentState.text : ConsentState → JsString
  | .granted => js "granted"
  | .denied => js "denied"
  | .missing => js "missing"
  | .not_required => js "not_required"

def decisionRank : DecisionKind → Nat
  | .ALLOW => 0
  | .RECEIPT_ONLY => 1
  | .MODIFY => 2
  | .REDACT => 3
  | .REQUIRE_CONSENT => 4
  | .MEMORY_SUPPRESS => 5
  | .ESCALATE => 6
  | .HUMAN_REVIEW => 7
  | .REFUSE => 8
  | .SILENCE => 9

theorem decisionRank_injective : Function.Injective decisionRank := by
  intro left right
  cases left <;> cases right <;> decide

instance : LinearOrder DecisionKind := LinearOrder.lift' decisionRank decisionRank_injective

theorem decisionKind_le_iff {left right : DecisionKind} :
    left ≤ right ↔ decisionRank left ≤ decisionRank right := Iff.rfl

theorem decisionKind_lt_iff {left right : DecisionKind} :
    left < right ↔ decisionRank left < decisionRank right := by
  rw [← not_le, ← not_le, decisionKind_le_iff]

/-- `compareDecisionRestrictiveness(candidate, current) > 0 ? candidate : current`. -/
def stricterDecision (current candidate : DecisionKind) : DecisionKind :=
  if decisionRank current < decisionRank candidate then candidate else current

theorem stricterDecision_eq_max (current candidate : DecisionKind) :
    stricterDecision current candidate = max current candidate := by
  unfold stricterDecision
  split
  next stricter => exact (max_eq_right (decisionKind_lt_iff.mpr stricter).le).symm
  next notStricter => exact (max_eq_left (decisionKind_le_iff.mpr (not_lt.mp notStricter))).symm

def mostRestrictiveDecision : List DecisionKind → DecisionKind
  | [] => .ALLOW
  | first :: rest => rest.foldl stricterDecision first

variable {decisions : List DecisionKind}

theorem foldl_stricterDecision_le_iff {current bound : DecisionKind} :
    decisions.foldl stricterDecision current ≤ bound ↔
      current ≤ bound ∧ ∀ decision ∈ decisions, decision ≤ bound := by
  induction decisions generalizing current with
  | nil => simp
  | cons decision rest ih =>
    rw [List.foldl_cons, ih, stricterDecision_eq_max, max_le_iff,
      List.forall_mem_cons, and_assoc]

theorem foldl_stricterDecision_mem (decisions : List DecisionKind) (current : DecisionKind) :
    decisions.foldl stricterDecision current ∈ current :: decisions := by
  induction decisions generalizing current with
  | nil => exact List.mem_singleton.mpr rfl
  | cons decision rest ih =>
    rw [List.foldl_cons]
    rcases List.mem_cons.mp (ih (stricterDecision current decision)) with
      isFirst | later
    · rw [isFirst]
      unfold stricterDecision
      split <;> simp
    · exact List.mem_cons_of_mem _ (List.mem_cons_of_mem _ later)

theorem mostRestrictiveDecision_le_iff {bound : DecisionKind} (nonempty : decisions ≠ []) :
    mostRestrictiveDecision decisions ≤ bound ↔ ∀ decision ∈ decisions, decision ≤ bound := by
  cases decisions with
  | nil => exact absurd rfl nonempty
  | cons first rest =>
    rw [mostRestrictiveDecision, foldl_stricterDecision_le_iff, List.forall_mem_cons]

theorem mostRestrictiveDecision_mem (nonempty : decisions ≠ []) :
    mostRestrictiveDecision decisions ∈ decisions := by
  cases decisions with
  | nil => exact absurd rfl nonempty
  | cons first rest => exact foldl_stricterDecision_mem rest first

def decisionAtLeastAsRestrictiveAs (candidate baseline : DecisionKind) : Bool :=
  decisionRank baseline ≤ decisionRank candidate

/-- A policy decision, as far as receipts read it. -/
structure PolicyDecision where
  decision : DecisionKind
  actionTaken : List JsString
  riskScore : JsNumber
deriving DecidableEq, Repr

/-- A policy decision, less its constant schema version. -/
structure PhaseDecision extends PolicyDecision where
  phase : EnforcementPhase
  policyVersion : JsString
  policyHash : JsString
  matchedRuleIds : List JsString
  matchedLayers : List JsString
  reasons : List JsString
deriving DecidableEq, Repr

end GhostArk.EnforcementRuntime.Policy
