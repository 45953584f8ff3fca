import GhostArk.EnforcementRuntime.Receipts.Schema

/-!
Contract: `packages/enforcement-runtime/src/policy/schema.ts`.

Owns policy sources and their rules with the checks of the schema, the reading
of untyped values, and the context a policy is evaluated in.

The schema drops unknown keys. It keeps an optional key that is given as
`undefined`; such keys are listed, because the policy hash refuses them.
-/

namespace GhostArk.EnforcementRuntime.Policy

open Js ReceiptSchema Receipts

inductive PolicyLayer where
  | default
  | user
  | organization
  | regulated
  | emergency
deriving DecidableEq, Repr

def policyLayers : List PolicyLayer := [.default, .user, .organization, .regulated, .emergency]

def PolicyLayer.text : PolicyLayer → JsString
  | .default => js "default"
  | .user => js "user"
  | .organization => js "organization"
  | .regulated => js "regulated"
  | .emergency => js "emergency"

/-- `PolicyMemoryTier`, and `MemoryTier` of the vault. -/
inductive MemoryTier where
  | KAPPA
  | SESSION
  | CONSTITUTION
  | AUDIT
  | RESTRICTED
deriving DecidableEq, Repr

def memoryTiers : List MemoryTier := [.KAPPA, .SESSION, .CONSTITUTION, .AUDIT, .RESTRICTED]

def MemoryTier.text : MemoryTier → JsString
  | .KAPPA => js "KAPPA"
  | .SESSION => js "SESSION"
  | .CONSTITUTION => js "CONSTITUTION"
  | .AUDIT => js "AUDIT"
  | .RESTRICTED => js "RESTRICTED"

inductive RetrievalTaint where
  | trusted
  | untrusted_instruction
  | cross_tenant
  | unknown_origin
deriving DecidableEq, Repr

def retrievalTaints : List RetrievalTaint :=
  [.trusted, .untrusted_instruction, .cross_tenant, .unknown_origin]

def RetrievalTaint.text : RetrievalTaint → JsString
  | .trusted => js "trusted"
  | .untrusted_instruction => js "untrusted_instruction"
  | .cross_tenant => js "cross_tenant"
  | .unknown_origin => js "unknown_origin"

/-- The conditions of a rule. An absent condition is `none`. -/
structure PolicyRuleMatch where
  textContainsAny : Option (List JsString)
  outputContainsAny : Option (List JsString)
  riskTagsAny : Option (List JsString)
  retrievalTaintAny : Option (List RetrievalTaint)
  memoryTierAny : Option (List MemoryTier)
  memoryClassificationAny : Option (List JsString)
  consentStateAny : Option (List ConsentState)
  requiresConsent : Option Bool
  bodyDeclaredTenant : Option Bool
  /-- Optional keys given as `undefined`. -/
  undefinedKeys : List JsString
deriving DecidableEq, Repr

/-- The default of `match`. -/
def PolicyRuleMatch.empty : PolicyRuleMatch :=
  ⟨none, none, none, none, none, none, none, none, none, []⟩

/-- `/^[a-z][a-z0-9._-]{1,96}$/`. -/
def isPolicyId (id : JsString) : Bool :=
  id.head?.any (inRange 'a' 'z') && 2 ≤ id.length && id.length ≤ 97 &&
    (id.drop 1).all fun codeUnit =>
      inRange 'a' 'z' codeUnit || isDigit codeUnit || (js "._-").contains codeUnit

/-- `z.number().min(0).max(1)`. -/
def isRiskScore (score : JsNumber) : Bool := isNonNegative score && !(JsNumber.ofNat 1).lt score

structure PolicyRule where
  id : JsString
  description : Option JsString
  phase : EnforcementPhase
  decision : DecisionKind
  riskScore : JsNumber
  actionTaken : List JsString
  ruleMatch : PolicyRuleMatch
  /-- `description`, if it is given as `undefined`. -/
  undefinedKeys : List JsString
  idShape : isPolicyId id = true
  riskRange : isRiskScore riskScore = true
deriving DecidableEq

structure PolicySource where
  policyId : JsString
  version : JsString
  layer : PolicyLayer
  defaultDecision : DecisionKind
  unknownRiskDecision : DecisionKind
  rules : List PolicyRule
  idShape : isPolicyId policyId = true
  versionNonempty : version ≠ []

def policySchemaVersion : JsString := js "ghost.policy.v1"

/-! ### Reading untyped values -/

/-- The own keys of a value that `z.object` accepts. -/
def objectEntries : JsValue → Option (List (JsString × JsValue))
  | .object entries => some entries
  | .host .buffer => some []
  | .host (.binaryView _) => some []
  | .host (.classInstance _) => some []
  | _ => none

/-- `data[key]`. -/
def property (entries : List (JsString × JsValue)) (key : String) : JsValue :=
  ((entries.find? fun entry => entry.1 = js key).map Prod.snd).getD .undefined

def readOptional {α : Type} (read : JsValue → Option α) : JsValue → Option (Option α)
  | .undefined => some none
  | value => (read value).map some

def readDefault {α : Type} (fallback : α) (read : JsValue → Option α) : JsValue → Option α
  | .undefined => some fallback
  | value => read value

def readNonempty : JsValue → Option JsString
  | .string value => if value = [] then none else some value
  | _ => none

def readArray {α : Type} (read : JsValue → Option α) : JsValue → Option (List α)
  | .array items => items.mapM read
  | _ => none

/-- The keys of `keys` that are given as `undefined`. -/
def undefinedAmong (keys : List String) (entries : List (JsString × JsValue)) : List JsString :=
  (keys.map js).filter fun key =>
    entries.any fun entry => entry.1 == key && isUndefined entry.2

def policyRuleMatchKeys : List String :=
  ["textContainsAny", "outputContainsAny", "riskTagsAny", "retrievalTaintAny", "memoryTierAny",
    "memoryClassificationAny", "consentStateAny", "requiresConsent", "bodyDeclaredTenant"]

def readRuleMatch (value : JsValue) : Option PolicyRuleMatch := do
  let entries ← objectEntries value
  let strings := readOptional (readArray readNonempty)
  let textContainsAny ← strings (property entries "textContainsAny")
  let outputContainsAny ← strings (property entries "outputContainsAny")
  let riskTagsAny ← strings (property entries "riskTagsAny")
  let retrievalTaintAny ← readOptional (readArray (readEnum retrievalTaints RetrievalTaint.text))
    (property entries "retrievalTaintAny")
  let memoryTierAny ← readOptional (readArray (readEnum memoryTiers MemoryTier.text))
    (property entries "memoryTierAny")
  let memoryClassificationAny ← strings (property entries "memoryClassificationAny")
  let consentStateAny ← readOptional (readArray (readEnum consentStates ConsentState.text))
    (property entries "consentStateAny")
  let requiresConsent ← readOptional readBool (property entries "requiresConsent")
  let bodyDeclaredTenant ← readOptional readBool (property entries "bodyDeclaredTenant")
  return {
    textContainsAny, outputContainsAny, riskTagsAny, retrievalTaintAny, memoryTierAny,
    memoryClassificationAny, consentStateAny, requiresConsent, bodyDeclaredTenant
    undefinedKeys := undefinedAmong policyRuleMatchKeys entries }

def readRule (value : JsValue) : Option PolicyRule := do
  let entries ← objectEntries value
  let id ← readString (property entries "id")
  let description ← readOptional readString (property entries "description")
  let phase ← readEnum enforcementPhases EnforcementPhase.text (property entries "phase")
  let decision ← readEnum decisionVocabulary DecisionKind.text (property entries "decision")
  let riskScore ← readDefault (.ofNat 0) readNumber (property entries "riskScore")
  let actionTaken ← readDefault [] (readArray readNonempty) (property entries "actionTaken")
  let ruleMatch ← readDefault .empty readRuleMatch (property entries "match")
  if valid : isPolicyId id = true ∧ isRiskScore riskScore = true then
    return {
      id, description, phase, decision, riskScore, actionTaken, ruleMatch
      undefinedKeys := undefinedAmong ["description"] entries
      idShape := valid.1, riskRange := valid.2 }
  else none

def readSource (value : JsValue) : Option PolicySource := do
  let entries ← objectEntries value
  let schemaVersion ← readString (property entries "schemaVersion")
  guard (schemaVersion = policySchemaVersion)
  let policyId ← readString (property entries "policyId")
  let version ← readString (property entries "version")
  let layer ← readEnum policyLayers PolicyLayer.text (property entries "layer")
  let defaultDecision ← readDefault .ALLOW (readEnum decisionVocabulary DecisionKind.text)
    (property entries "defaultDecision")
  let unknownRiskDecision ←
    readDefault .REQUIRE_CONSENT (readEnum decisionVocabulary DecisionKind.text)
      (property entries "unknownRiskDecision")
  let rules ← readDefault [] (readArray readRule) (property entries "rules")
  if valid : isPolicyId policyId = true ∧ version ≠ [] then
    return {
      policyId, version, layer, defaultDecision, unknownRiskDecision, rules
      idShape := valid.1, versionNonempty := valid.2 }
  else none

structure RetrievedContextForPolicy where
  tenantId : JsString
  digest : JsString
  taint : List RetrievalTaint
deriving DecidableEq, Repr

structure MemoryWriteForPolicy where
  tier : MemoryTier
  classificationTags : List JsString
  contentDigest : Option JsString
deriving DecidableEq, Repr

/-- What a policy is evaluated in, less the identity, which no rule reads. -/
structure PolicyEvaluationContext where
  phase : EnforcementPhase
  requestText : Option JsString
  outputText : Option JsString
  riskTags : Option (List JsString)
  retrievedContext : Option (List RetrievedContextForPolicy)
  memoryWrite : Option MemoryWriteForPolicy
  consentState : Option ConsentState
  bodyDeclaredTenant : Option Bool
deriving DecidableEq, Repr

end GhostArk.EnforcementRuntime.Policy
