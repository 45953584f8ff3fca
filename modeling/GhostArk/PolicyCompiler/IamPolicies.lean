import GhostArk.PolicyCompiler.ModeledPolicy
import GhostArk.PolicyCompiler.TenantNamespace

/-!
Contract: `packages/policy-compiler/src/iamPolicies.ts` and the sandbox checks of
`packages/policy-compiler/src/invariants.ts`.

Owns the statements of a tenant sandbox policy, the invariants they are checked against,
and compilation.

Does not own the digest of a document, which no evaluation reads.
-/

namespace GhostArk.PolicyCompiler

open Js

structure TenantSandboxPolicyInput extends TenantNamespaceInput where
  accountId : JsString
  allowedRegions : List JsString
  tenantServiceRoleArn : JsString
  permissionsBoundaryArn : Option JsString
deriving DecidableEq

/-! ### Statements -/

def texts (values : List JsString) : JsValue := .array (values.map .string)

/-- A statement with the fields in the order of the source. -/
def statementEntries (sid effect : JsString) (action resource : JsValue)
    (condition : Option JsValue) : List (JsString × JsValue) :=
  [(js "Sid", .string sid), (js "Effect", .string effect), (js "Action", action),
    (js "Resource", resource)] ++ (condition.map fun value => (js "Condition", value)).toList

def oneCondition (operator key : JsString) (value : JsValue) : JsValue :=
  .object [(operator, .object [(key, value)])]

def denyOutsideApprovedRegions (allowedRegions : List JsString) : List (JsString × JsValue) :=
  statementEntries (js "DenyOutsideApprovedRegions") (js "Deny") (.string (js "*"))
    (.string (js "*"))
    (some (oneCondition (js "StringNotEquals") (js "aws:RequestedRegion") (texts allowedRegions)))

def escalationActions : List JsString :=
  [js "iam:CreateUser", js "iam:CreateAccessKey", js "iam:AttachUserPolicy",
    js "iam:AttachGroupPolicy", js "iam:AttachRolePolicy", js "iam:PutUserPolicy",
    js "iam:PutGroupPolicy", js "iam:PutRolePolicy", js "iam:CreatePolicyVersion",
    js "iam:SetDefaultPolicyVersion", js "iam:DeletePermissionsBoundary", js "organizations:*",
    js "account:*"]

def denyIdentityAndBoundaryEscalation : List (JsString × JsValue) :=
  statementEntries (js "DenyIdentityAndBoundaryEscalation") (js "Deny") (texts escalationActions)
    (.string (js "*")) none

def requireTenantPrincipalTag : List (JsString × JsValue) :=
  statementEntries (js "RequireTenantPrincipalTag") (js "Deny") (.string (js "*"))
    (.string (js "*"))
    (some (oneCondition (js "Null") principalTagKey (.string (js "true"))))

def TenantNamespaceInput.buckets (input : TenantNamespaceInput) : List JsString :=
  [input.rawBucket, input.curatedBucket, input.exportBucket, input.resultsBucket]

def bucketArn (bucket : JsString) : JsString := js "arn:aws:s3:::" ++ bucket

def tenantObjects (bucket : JsString) : JsString :=
  bucketArn bucket ++ js "/tenants/" ++ principalSlugVariable ++ js "/*"

def objectActions : List JsString :=
  [js "s3:GetObject", js "s3:PutObject", js "s3:DeleteObject", js "s3:AbortMultipartUpload",
    js "s3:ListBucketMultipartUploads"]

def allowTenantScopedS3EvidenceAccess (input : TenantNamespaceInput) :
    List (JsString × JsValue) :=
  statementEntries (js "AllowTenantScopedS3EvidenceAccess") (js "Allow") (texts objectActions)
    (texts (input.buckets.map tenantObjects)) none

def allowTenantScopedBucketListing (input : TenantNamespaceInput) : List (JsString × JsValue) :=
  statementEntries (js "AllowTenantScopedBucketListing") (js "Allow") (texts [js "s3:ListBucket"])
    (texts (input.buckets.map bucketArn))
    (some (oneCondition (js "StringLike") (js "s3:prefix")
      (texts [js "tenants/" ++ principalSlugVariable ++ js "/*",
        js "tenants/" ++ principalSlugVariable])))

/-- The ARN of a ledger table, with the stage as it is written in. -/
def tableArn (region accountId stage table : JsString) : JsString :=
  js "arn:aws:dynamodb:" ++ region ++ js ":" ++ accountId ++ js ":table/ghost-ark-" ++ stage ++
    js "-" ++ table

/-- Access to one ledger table, under leading keys of the principal. -/
def allowLedgerAccess (sid : JsString) (actions : List JsString) (table : JsString)
    (input : TenantSandboxPolicyInput) : List (JsString × JsValue) :=
  statementEntries sid (js "Allow") (texts actions)
    (texts [tableArn input.region input.accountId input.stage table])
    (some (oneCondition (js "ForAllValues:StringEquals") (js "dynamodb:LeadingKeys")
      (texts [principalSlugVariable])))

def allowTenantReceiptLedgerAccess : TenantSandboxPolicyInput → List (JsString × JsValue) :=
  allowLedgerAccess (js "AllowTenantReceiptLedgerAccess")
    [js "dynamodb:GetItem", js "dynamodb:Query", js "dynamodb:PutItem"] (js "receipts")

def allowTenantClaimLedgerAccess : TenantSandboxPolicyInput → List (JsString × JsValue) :=
  allowLedgerAccess (js "AllowTenantClaimLedgerAccess")
    [js "dynamodb:GetItem", js "dynamodb:Query", js "dynamodb:PutItem", js "dynamodb:UpdateItem"]
    (js "claims")

def allowTenantLineageLedgerAccess : TenantSandboxPolicyInput → List (JsString × JsValue) :=
  allowLedgerAccess (js "AllowTenantLineageLedgerAccess")
    [js "dynamodb:GetItem", js "dynamodb:Query", js "dynamodb:PutItem"] (js "lineage")

def workflowActions : List JsString :=
  [js "athena:StartQueryExecution", js "athena:GetQueryExecution", js "athena:GetQueryResults",
    js "glue:GetDatabase", js "glue:GetTable", js "glue:GetPartitions", js "glue:CreatePartition",
    js "glue:BatchCreatePartition", js "lakeformation:GetDataAccess"]

def allowGlueAthenaTenantWorkflows : List (JsString × JsValue) :=
  statementEntries (js "AllowGlueAthenaTenantWorkflows") (js "Allow") (texts workflowActions)
    (.string (js "*"))
    (some (oneCondition (js "StringEquals") principalTagKey (.string principalSlugVariable)))

def allowServiceBoundPassRole (input : TenantSandboxPolicyInput) : List (JsString × JsValue) :=
  statementEntries (js "AllowServiceBoundPassRole") (js "Allow") (.string (js "iam:PassRole"))
    (.string input.tenantServiceRoleArn)
    (some (oneCondition (js "StringEquals") (js "iam:PassedToService")
      (texts [js "glue.amazonaws.com", js "lambda.amazonaws.com", js "states.amazonaws.com"])))

/-- What the ARNs of a service's tenant resources start with, up to the slug. -/
def serviceStart (service middle region accountId stage : JsString) : JsString :=
  service ++ region ++ js ":" ++ accountId ++ middle ++ stage ++ js "-"

def functionStart : JsString → JsString → JsString → JsString :=
  serviceStart (js "arn:aws:lambda:") (js ":function:ghost-ark-")

def logGroupStart : JsString → JsString → JsString → JsString :=
  serviceStart (js "arn:aws:logs:") (js ":log-group:/aws/lambda/ghost-ark-")

def allowTenantLambdaAndLogs (input : TenantSandboxPolicyInput) : List (JsString × JsValue) :=
  statementEntries (js "AllowTenantLambdaAndLogs") (js "Allow")
    (texts [js "lambda:InvokeFunction", js "logs:CreateLogStream", js "logs:PutLogEvents",
      js "logs:DescribeLogStreams"])
    (texts [functionStart input.region input.accountId input.stage ++ principalSlugVariable ++
        js "-*",
      logGroupStart input.region input.accountId input.stage ++ principalSlugVariable ++
        js "-*:*"])
    none

def denyRoleCreationWithoutBoundary (permissionsBoundaryArn : JsString) :
    List (JsString × JsValue) :=
  statementEntries (js "DenyRoleCreationWithoutBoundary") (js "Deny")
    (texts [js "iam:CreateRole", js "iam:PutRolePermissionsBoundary"]) (.string (js "*"))
    (some (oneCondition (js "StringNotEquals") (js "iam:PermissionsBoundary")
      (.string permissionsBoundaryArn)))

/-- The boundary statement, unless the ARN is missing or empty. -/
def boundaryStatements : Option JsString → List (List (JsString × JsValue))
  | none => []
  | some arn => if arn = [] then [] else [denyRoleCreationWithoutBoundary arn]

def sandboxStatements (input : TenantSandboxPolicyInput) : List (List (JsString × JsValue)) :=
  let allowedRegions := if input.allowedRegions = [] then [input.region] else input.allowedRegions
  [denyOutsideApprovedRegions allowedRegions, denyIdentityAndBoundaryEscalation,
    requireTenantPrincipalTag, allowTenantScopedS3EvidenceAccess input.toTenantNamespaceInput,
    allowTenantScopedBucketListing input.toTenantNamespaceInput,
    allowTenantReceiptLedgerAccess input, allowTenantClaimLedgerAccess input,
    allowTenantLineageLedgerAccess input, allowGlueAthenaTenantWorkflows,
    allowServiceBoundPassRole input, allowTenantLambdaAndLogs input] ++
      boundaryStatements input.permissionsBoundaryArn

def sandboxDocument (input : TenantSandboxPolicyInput) : List JsValue :=
  (sandboxStatements input).map .object

/-! ### Invariants -/

structure PolicyInvariantViolation where
  code : JsString
  detail : JsString
  sid : Option JsString
deriving DecidableEq

def receiptLedgerForbiddenActions : List JsString :=
  [js "dynamodb:BatchWriteItem", js "dynamodb:DeleteItem", js "dynamodb:PartiQLDelete",
    js "dynamodb:PartiQLUpdate", js "dynamodb:TransactWriteItems", js "dynamodb:UpdateItem",
    js "dynamodb:*", js "*"]

def conditionValue (statement : List (JsString × JsValue)) (operator key : JsString) :
    List JsString :=
  let condition := (objectMembers (readProperty statement (js "Condition"))).getD []
  let block := (objectMembers (readProperty condition operator)).getD []
  asArray (readProperty block key)

/-- `-receipts` at the end of the text or before a slash. -/
def endsInReceipts : JsString → Bool
  | [] => false
  | first :: rest =>
    ((js "-receipts").isPrefixOf (first :: rest) &&
      (((first :: rest).drop 9).isEmpty || ((first :: rest).drop 9).head? == some (unit '/'))) ||
    endsInReceipts rest

section Invariants

variable (letters : LetterCase)

def isForbiddenReceiptLedgerAction (action : JsString) : Bool :=
  let normalized := normalizeAction letters action
  action ∈ receiptLedgerForbiddenActions || normalized = js "*" || normalized = js "dynamodb:*" ||
    [js "dynamodb:batchwrite", js "dynamodb:delete", js "dynamodb:partiqldelete",
      js "dynamodb:partiqlupdate", js "dynamodb:transactwrite",
      js "dynamodb:update"].any fun start => start.isPrefixOf normalized

def isBoundedWorkflow (action : JsString) : Bool :=
  [js "athena:", js "glue:", js "lakeformation:"].any fun start => start.isPrefixOf action

def violationIf (holds : Bool) (sid : Option JsString) (code detail : JsString) :
    List PolicyInvariantViolation :=
  if holds then [⟨code, detail, sid⟩] else []

def statementViolations (expectedReceiptArn : JsString) (statement : List (JsString × JsValue)) :
    List PolicyInvariantViolation :=
  let sid := textOf (readProperty statement (js "Sid"))
  let isAllow := isText (js "Allow") (readProperty statement (js "Effect"))
  let actions := asArray (readProperty statement (js "Action"))
  let resources := asArray (readProperty statement (js "Resource"))
  let isReceiptGrant := isAllow &&
    resources.any fun resource => resource = expectedReceiptArn || endsInReceipts resource
  let forbidden := actions.filter (isForbiddenReceiptLedgerAction letters)
  let prefixes := conditionValue statement (js "StringLike") (js "s3:prefix")
  violationIf
      (isAllow && (hasProperty statement (js "NotAction") ||
        hasProperty statement (js "NotResource"))) sid (js "allow_not_action_or_resource")
      (js "Allow statements cannot use NotAction or NotResource because the tenant boundary " ++
        js "must be explicit.") ++
    violationIf (isAllow && actions.any hasWildcard) sid (js "allow_wildcard_action")
      (js "Allow statements cannot grant wildcard actions.") ++
    violationIf (isAllow && resources.contains (js "*") && !actions.all isBoundedWorkflow) sid
      (js "allow_wildcard_resource")
      (js "Allow statements can use Resource '*' only for the bounded Glue/Athena/Lake " ++
        js "Formation read workflow.") ++
    violationIf (isReceiptGrant && forbidden ≠ []) sid (js "receipt_ledger_mutation")
      (js "Receipt ledger grants are append-only; forbidden actions: " ++
        join (js ", ") forbidden ++ js ".") ++
    violationIf
      (isReceiptGrant && !(conditionValue statement (js "ForAllValues:StringEquals")
        (js "dynamodb:LeadingKeys")).contains principalSlugVariable) sid
      (js "receipt_ledger_leading_keys")
      (js "Receipt ledger access must be constrained by dynamodb:LeadingKeys to the principal " ++
        js "slug.") ++
    (resources.filter fun resource => includes (js ":s3:::") resource &&
        includes (js "/tenants/") resource &&
          !includes (js "/tenants/" ++ principalSlugVariable ++ js "/") resource).map
      (fun resource => ⟨js "s3_cross_tenant_prefix",
        js "S3 tenant object resource is not principal-tag scoped: " ++ resource ++ js ".", sid⟩) ++
    violationIf
      (sid = some (js "AllowTenantScopedBucketListing") && !prefixes.all fun value =>
        value = js "tenants/" ++ principalSlugVariable ||
          value = js "tenants/" ++ principalSlugVariable ++ js "/*") sid
      (js "s3_list_prefix_escape")
      (js "S3 ListBucket grants must be constrained to the caller tenant prefix.")

/-- A deny-first guardrail over all actions and resources. -/
def isGlobalDeny (statement : List (JsString × JsValue)) : Bool :=
  isText (js "Deny") (readProperty statement (js "Effect")) &&
    (asArray (readProperty statement (js "Action"))).contains (js "*") &&
    (asArray (readProperty statement (js "Resource"))).contains (js "*")

def sandboxViolations (statements : List (List (JsString × JsValue)))
    (tenantNamespace : TenantNamespace) (accountId region : JsString) :
    List PolicyInvariantViolation :=
  violationIf (!statements.any isGlobalDeny) none (js "missing_global_deny")
      (js "Sandbox policy must include deny-first guardrails.") ++
    statements.flatMap (statementViolations letters
      (tableArn region accountId tenantNamespace.stage (js "receipts")))

structure CompiledIamPolicy where
  name : JsString
  document : List JsValue

def violationValue (violation : PolicyInvariantViolation) : JsValue :=
  .object ([(js "code", .string violation.code), (js "detail", .string violation.detail)] ++
    (violation.sid.map fun sid => (js "sid", JsValue.string sid)).toList)

def assertPolicyInvariants (violations : List PolicyInvariantViolation) : Except JsError Unit :=
  if violations = [] then .ok ()
  else
    .error ⟨.validationError, js "Compiled policy violates Ghost Ark tenant isolation invariants",
      [(js "violations", .array (violations.map violationValue))]⟩

def compileTenantSandboxPolicy (input : TenantSandboxPolicyInput) :
    Except JsError CompiledIamPolicy := do
  let tenantNamespace ← compileTenantNamespace letters input.toTenantNamespaceInput
  assertPolicyInvariants
    (sandboxViolations letters (sandboxStatements input) tenantNamespace input.accountId
      input.region)
  return ⟨js "ghost-ark-" ++ tenantNamespace.stage ++ js "-" ++ tenantNamespace.tenantSlug ++
    js "-sandbox", sandboxDocument input⟩

end Invariants

end GhostArk.PolicyCompiler
