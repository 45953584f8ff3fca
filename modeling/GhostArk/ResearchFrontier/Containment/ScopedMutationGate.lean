import GhostArk.Js.Double
import GhostArk.Js.Utf8
import GhostArk.Lib.Machine
import GhostArk.ResearchFrontier.Occ.WorldLedger

/-!
Contract: `packages/research-frontier/src/containment/scopedMutationGate.ts`, with the
state digest of `packages/research-frontier/src/verifier/crypto_marshal.ts`.

Owns scope rules, proposed mutations, receipts with their digest and the arrays it
refuses, the three gates of a commit, and the gate with its ledger and windows as a
machine.

Does not own: the floating-point test of a bound vector; it is a parameter.
-/

namespace GhostArk.ResearchFrontier.Containment

open Js
open Lib
open ReceiptSchema (sortEntries sha256Hex)
open ResearchFrontier.Occ

/-- The state text of a host object of type `"object"`. -/
abbrev HostState := HostKind → JsString

/-- The finite value with at most 14 significant digits: ties go away from zero. -/
def toPrecision14 (value : ℚ) : ℚ :=
  let scale : ℚ := 10 ^ (Int.log 10 |value| - 13)
  let magnitude : ℚ := ⌊|value| / scale + 1 / 2⌋ * scale
  if value < 0 then -magnitude else magnitude

def stateNumber (numbers : NumberText) : JsNumber → JsString
  | .finite value =>
    if value.den = 1 then numbers.string (.finite value)
    else numbers.string (double (toPrecision14 value))
  | other => numbers.string other

/-- `Buffer.concat` reads the length of what a hole of an array leaves in its list. -/
def bufferListError : JsError :=
  typeError (js "Cannot read properties of undefined (reading 'length')")

section Digest

variable (runtime : Runtime) (hostState : HostState)

/-- Members in the order given; the first exception ends the list. -/
def sequenceMembers : List (JsString × Except JsError JsString) →
    Except JsError (List (JsString × JsString))
  | [] => .ok []
  | (key, rendered) :: rest => do
    let text ← rendered
    let texts ← sequenceMembers rest
    return (key, text) :: texts

mutual

def canonicalizeState : JsValue → Except JsError JsString
  | .null => .ok (js "null")
  | .number value => .ok (stateNumber runtime.numbers value)
  | .bool true => .ok (js "true")
  | .bool false => .ok (js "false")
  | .string value => .ok (quote value)
  | .array items => do
    let texts ← stateItems items
    if items.any isHole then throw bufferListError else return jsonArray texts
  | .object entries =>
    (sequenceMembers (sortEntries (stateEntries entries))).map jsonObject
  | .host .bigint => .ok (js "null")
  | .host .function => .ok (js "null")
  | .host .symbol => .ok (js "null")
  | .host kind => .ok (hostState kind)
  | .undefined => .ok (js "null")
  | .hole => .ok (js "null")

def stateItems : List JsValue → Except JsError (List JsString)
  | [] => .ok []
  | item :: rest => do
    let text ← canonicalizeState item
    let texts ← stateItems rest
    return text :: texts

/-- The members that are not `undefined`. -/
def stateEntries : List (JsString × JsValue) → List (JsString × Except JsError JsString)
  | [] => []
  | (key, value) :: rest =>
    match value with
    | .undefined => stateEntries rest
    | value => (key, canonicalizeState value) :: stateEntries rest

end

structure StateDigest where
  hashHex : JsString
  canonicalBytes : Nat

def canonicalStateDigest (nodeState : JsValue) : Except JsError StateDigest := do
  let text ← canonicalizeState runtime hostState nodeState
  return ⟨sha256Hex runtime text, (utf8 text).length⟩

end Digest

/-! ### Policies and receipts -/

inductive MutationVerdict where
  | COMMITTED
  | REFUSED_OUT_OF_SCOPE
  | REFUSED_BOUND_BREACH
  | ABORT_TEMPORAL_DRIFT
deriving DecidableEq, Repr

def MutationVerdict.text : MutationVerdict → JsString
  | COMMITTED => js "COMMITTED"
  | REFUSED_OUT_OF_SCOPE => js "REFUSED_OUT_OF_SCOPE"
  | REFUSED_BOUND_BREACH => js "REFUSED_BOUND_BREACH"
  | ABORT_TEMPORAL_DRIFT => js "ABORT_TEMPORAL_DRIFT"

structure ScopeRule where
  resource : JsString
  operations : List JsString

structure ScopePolicy where
  rules : List ScopeRule
  /-- Whether `bounds.verifyTrajectory` reports a collision. -/
  bounds : Option (List JsNumber → Except JsError Bool)

structure ProposedMutation where
  resource : JsString
  operation : JsString
  value : JsValue
  boundVector : Option (List JsNumber)

structure MutationReceipt where
  agentId : JsString
  resource : JsString
  operation : JsString
  verdict : MutationVerdict
  ledgerChanged : Bool
  digestHex : JsString
  canonicalBytes : Nat

def isInScope (policy : ScopePolicy) (resource operation : JsString) : Bool :=
  policy.rules.any fun rule => rule.resource == resource && rule.operations.contains operation

section Gate

variable (runtime : Runtime) (hostJson : HostJson) (hostState : HostState) (policy : ScopePolicy)

def decisionRecord (agentId : JsString) (mutation : ProposedMutation) (verdict : MutationVerdict)
    (ledgerChanged : Bool) : JsValue :=
  .object [(js "agentId", .string agentId), (js "resource", .string mutation.resource),
    (js "operation", .string mutation.operation), (js "value", mutation.value),
    (js "verdict", .string verdict.text), (js "ledgerChanged", .bool ledgerChanged)]

def receipt (agentId : JsString) (mutation : ProposedMutation) (verdict : MutationVerdict)
    (ledgerChanged : Bool) : Except JsError MutationReceipt := do
  let digest ← canonicalStateDigest runtime hostState
    (decisionRecord agentId mutation verdict ledgerChanged)
  return { agentId, resource := mutation.resource, operation := mutation.operation, verdict,
           ledgerChanged, digestHex := digest.hashHex, canonicalBytes := digest.canonicalBytes }

def breachesBounds (mutation : ProposedMutation) : Except JsError Bool :=
  match mutation.boundVector, policy.bounds with
  | some boundVector, some verifyTrajectory => verifyTrajectory boundVector
  | _, _ => .ok false

structure GateResult where
  outcome : Except JsError MutationReceipt
  ledger : WorldLedger
  agent : EpistemicWindowAgent

def commit (ledger : WorldLedger) (agent : EpistemicWindowAgent) (mutation : ProposedMutation) :
    GateResult :=
  if !isInScope policy mutation.resource mutation.operation then
    ⟨receipt runtime hostState agent.agentId mutation .REFUSED_OUT_OF_SCOPE false, ledger, agent⟩
  else
    match breachesBounds policy mutation with
    | .error error => ⟨.error error, ledger, agent⟩
    | .ok true =>
      ⟨receipt runtime hostState agent.agentId mutation .REFUSED_BOUND_BREACH false, ledger,
        agent⟩
    | .ok false =>
      let staged := agent.stageWrite mutation.resource mutation.value
      match staged.collapse runtime hostJson ledger with
      | (.error error, next, after) => ⟨.error error, next, after⟩
      | (.ok (_ :: _), next, after) =>
        ⟨receipt runtime hostState agent.agentId mutation .ABORT_TEMPORAL_DRIFT false, next,
          after⟩
      | (.ok [], next, after) =>
        ⟨receipt runtime hostState agent.agentId mutation .COMMITTED true, next, after⟩

def «begin» (ledger : WorldLedger) (agentId resource : JsString) : EpistemicWindowAgent :=
  (EpistemicWindowAgent.new agentId).pull ledger resource

/-- A window that `begin` returned, with what it was opened for. -/
structure Window where
  resource : JsString
  /-- The state hash that `begin` read. -/
  readHash : JsString
  agent : EpistemicWindowAgent
  used : Bool

structure GateState where
  ledger : WorldLedger
  windows : List Window

inductive GateCall where
  | «begin» (agentId resource : JsString)
  | commit (window : Nat) (mutation : ProposedMutation)
  | mutate (key : JsString) (value : JsValue)

inductive GateReply where
  | window (index : Nat)
  | receipt (receipt : MutationReceipt)
  | mutated

def gate : Machine GateState GateCall (Except JsError GateReply) := fun state call =>
  match call with
  | .begin agentId resource =>
    let window : Window := ⟨resource, state.ledger.stateHash resource,
      «begin» state.ledger agentId resource, false⟩
    (.ok (.window state.windows.length),
      { state with windows := state.windows ++ [window] })
  | .commit index mutation =>
    match state.windows[index]? with
    | none => (.error (typeError (js "agent is undefined")), state)
    | some window =>
      let result := commit runtime hostJson hostState policy state.ledger window.agent mutation
      (result.outcome.map .receipt,
        { ledger := result.ledger,
          windows := state.windows.set index
            { window with agent := result.agent, used := true } })
  | .mutate key value =>
    let (outcome, ledger) := Occ.mutate runtime hostJson state.ledger key value
    (outcome.map fun _ => .mutated, { state with ledger })

end Gate

end GhostArk.ResearchFrontier.Containment
