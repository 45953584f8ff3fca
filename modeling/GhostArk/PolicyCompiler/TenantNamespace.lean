import GhostArk.Js.LetterCase
import GhostArk.Js.Value

/-!
Contract: `packages/policy-compiler/src/tenantNamespace.ts`.

Owns the normal form of tenant slugs, bucket and stage checks, and the names that a
tenant's namespace gives to its resources.
-/

namespace GhostArk.PolicyCompiler

open Js

structure TenantNamespaceInput where
  stage : JsString
  tenantSlug : JsString
  rawBucket : JsString
  curatedBucket : JsString
  exportBucket : JsString
  resultsBucket : JsString
  region : JsString
deriving DecidableEq

/-! ### Slugs -/

def isLowerLetter (codeUnit : CodeUnit) : Bool := inRange 'a' 'z' codeUnit

def isSlugUnit (codeUnit : CodeUnit) : Bool :=
  isLowerLetter codeUnit || isDigit codeUnit || codeUnit == unit '-'

/-- `/^[a-z][a-z0-9-]{1,most}$/u`. -/
def isName (most : Nat) : JsString → Bool
  | [] => false
  | first :: rest =>
    isLowerLetter first && rest.all isSlugUnit && 1 ≤ rest.length && rest.length ≤ most

def isTenantSlug (text : JsString) : Bool := isName 47 text

def includes (part : JsString) : JsString → Bool
  | [] => part.isPrefixOf []
  | first :: rest => part.isPrefixOf (first :: rest) || includes part rest

/-- Traversal, wildcards, brackets, quotes and encoded separators. -/
def hasMetacharacter (text : JsString) : Bool :=
  includes (js "..") text ||
    text.any (fun codeUnit =>
      [0x2A, 0x2F, 0x5C, 0x7B, 0x7D, 0x5B, 0x5D, 0x22, 0x27, 0x60, 0x24].contains codeUnit.val) ||
    includes (js "%2e") text || includes (js "%2E") text ||
    includes (js "%2f") text || includes (js "%2F") text

/-- `text.replace(/[^a-z0-9-]+/gu, "-")`; `inRun` says whether a run has been replaced. -/
def dashRuns (inRun : Bool) : JsString → JsString
  | [] => []
  | first :: rest =>
    if isSlugUnit first then first :: dashRuns false rest
    else if inRun then dashRuns true rest
    else unit '-' :: dashRuns true rest

def collapseDashes : JsString → JsString
  | [] => []
  | [last] => [last]
  | first :: second :: rest =>
    if first = unit '-' ∧ second = unit '-' then collapseDashes (second :: rest)
    else first :: collapseDashes (second :: rest)

/-- `text.replace(/^-|-$/gu, "")`. -/
def stripDashes (text : JsString) : JsString :=
  let stripped := if text.head? = some (unit '-') then text.tail else text
  if stripped.getLast? = some (unit '-') then stripped.dropLast else stripped

section Namespace

variable (letters : LetterCase)

def invalidSlug (context : List (JsString × JsValue)) : JsError :=
  ⟨.validationError, js "Invalid tenant slug", context⟩

def normalizeTenantSlug (input : JsString) : Except JsError JsString :=
  if hasMetacharacter input then
    .error (invalidSlug [(js "input", .string input),
      (js "reason", .string
        (js "tenant slug contains traversal, wildcard, or JSON-policy metacharacters"))])
  else
    let normalized := stripDashes
      (collapseDashes (dashRuns false (letters.toLowerCase (trim input))))
    if isTenantSlug normalized then .ok normalized
    else
      .error (invalidSlug [(js "input", .string input), (js "normalized", .string normalized),
        (js "pattern", .string (js "^[a-z][a-z0-9-]{1,47}$"))])

/-- `/^[a-z][a-z0-9-]{1,24}$/u`. -/
def isStage (text : JsString) : Bool := isName 24 text

def splitUnit (separator : CodeUnit) : JsString → List JsString
  | [] => [[]]
  | first :: rest =>
    match splitUnit separator rest with
    | [] => [[first]]
    | part :: parts =>
      if first = separator then [] :: part :: parts else (first :: part) :: parts

/-- `/^\d+\.\d+\.\d+\.\d+$/`. -/
def isAddress (text : JsString) : Bool :=
  let parts := splitUnit (unit '.') text
  parts.length = 4 && parts.all fun part => part ≠ [] && part.all isDigit

def isBucketEnd (codeUnit : CodeUnit) : Bool := isLowerLetter codeUnit || isDigit codeUnit

def isBucketUnit (codeUnit : CodeUnit) : Bool :=
  isBucketEnd codeUnit || codeUnit == unit '.' || codeUnit == unit '-'

def isBucketName (text : JsString) : Bool :=
  !isAddress text && text.all isBucketUnit && 3 ≤ text.length && text.length ≤ 63 &&
    text.head?.any isBucketEnd && text.getLast?.any isBucketEnd

def isValidBucketName (bucketName : JsString) : Bool :=
  isBucketName bucketName && !includes (js "..") bucketName && !includes (js ".-") bucketName &&
    !includes (js "-.") bucketName

def assertValidBucketName (bucketName field : JsString) : Except JsError Unit :=
  if isValidBucketName bucketName then .ok ()
  else
    .error ⟨.validationError, js "Invalid tenant namespace bucket name",
      [(js "field", .string field), (js "bucketName", .string bucketName)]⟩

structure TenantNamespace where
  stage : JsString
  tenantSlug : JsString
  region : JsString
  rawPrefix : JsString
  curatedPrefix : JsString
  exportPrefix : JsString
  athenaResultsPrefix : JsString
  databaseName : JsString
  crawlerName : JsString
  workgroupName : JsString
  partitionKey : JsString
  tenantTagValue : JsString
  indexAlias : JsString
deriving DecidableEq

def tenantPrefix (bucket tenantSlug folder : JsString) : JsString :=
  js "s3://" ++ bucket ++ js "/tenants/" ++ tenantSlug ++ js "/" ++ folder ++ js "/"

def dashesToUnderscores (text : JsString) : JsString :=
  text.map fun codeUnit => if codeUnit = unit '-' then unit '_' else codeUnit

def compileTenantNamespace (input : TenantNamespaceInput) : Except JsError TenantNamespace := do
  let tenantSlug ← normalizeTenantSlug letters input.tenantSlug
  let stage := letters.toLowerCase (trim input.stage)
  if !isStage stage then
    throw ⟨.validationError, js "Invalid stage", [(js "stage", .string input.stage)]⟩
  assertValidBucketName input.rawBucket (js "rawBucket")
  assertValidBucketName input.curatedBucket (js "curatedBucket")
  assertValidBucketName input.exportBucket (js "exportBucket")
  assertValidBucketName input.resultsBucket (js "resultsBucket")
  let scopedName := js "ghost-ark-" ++ stage ++ js "-" ++ tenantSlug
  return {
    stage := stage
    tenantSlug := tenantSlug
    region := input.region
    rawPrefix := tenantPrefix input.rawBucket tenantSlug (js "raw")
    curatedPrefix := tenantPrefix input.curatedBucket tenantSlug (js "curated")
    exportPrefix := tenantPrefix input.exportBucket tenantSlug (js "evidence-packs")
    athenaResultsPrefix := tenantPrefix input.resultsBucket tenantSlug (js "athena")
    databaseName := js "ghost_ark_" ++ stage ++ js "_" ++ dashesToUnderscores tenantSlug
    crawlerName := scopedName ++ js "-crawler"
    workgroupName := scopedName
    partitionKey := tenantSlug
    tenantTagValue := tenantSlug
    indexAlias := scopedName }

variable {letters}

theorem isTenantSlug_normalize {input slug : JsString}
    (normalized : normalizeTenantSlug letters input = .ok slug) : isTenantSlug slug = true := by
  rw [normalizeTenantSlug] at normalized
  split at normalized
  next => cases normalized
  next =>
    simp only at normalized
    split at normalized
    next isSlug =>
      cases normalized
      exact isSlug
    next => cases normalized

theorem isSlugUnit_of_isName {most : Nat} {text : JsString} (isName : isName most text = true)
    {codeUnit : CodeUnit} (member : codeUnit ∈ text) : isSlugUnit codeUnit = true := by
  cases text with
  | nil => cases member
  | cons first rest =>
    simp only [PolicyCompiler.isName, Bool.and_eq_true] at isName
    rcases List.mem_cons.mp member with rfl | later
    · rw [isSlugUnit, isName.1.1.1]
      rfl
    · exact List.all_eq_true.mp isName.1.1.2 codeUnit later

theorem assertValidBucketName_eq_ok {bucketName field : JsString}
    (asserted : assertValidBucketName bucketName field = .ok ()) :
    isValidBucketName bucketName = true := by
  rw [assertValidBucketName] at asserted
  split at asserted
  next isValid => exact isValid
  next => cases asserted

structure AcceptedNamespace (letters : LetterCase) (input : TenantNamespaceInput)
    (tenantNamespace : TenantNamespace) : Prop where
  slug : normalizeTenantSlug letters input.tenantSlug = .ok tenantNamespace.tenantSlug
  stage : letters.toLowerCase (trim input.stage) = tenantNamespace.stage
  isStage : PolicyCompiler.isStage tenantNamespace.stage = true
  region : tenantNamespace.region = input.region
  buckets : ∀ bucket ∈ [input.rawBucket, input.curatedBucket, input.exportBucket,
    input.resultsBucket], isValidBucketName bucket = true

theorem compileTenantNamespace_accepted {input : TenantNamespaceInput}
    {tenantNamespace : TenantNamespace}
    (compiled : compileTenantNamespace letters input = .ok tenantNamespace) :
    AcceptedNamespace letters input tenantNamespace := by
  rw [compileTenantNamespace] at compiled
  rcases bind_eq_ok.mp compiled with ⟨slug, normalized, rest⟩
  by_cases valid : PolicyCompiler.isStage (letters.toLowerCase (trim input.stage)) = true
  · simp only [valid, Bool.not_true, Bool.false_eq_true, if_false] at rest
    rcases bind_eq_ok.mp rest with ⟨_, raw, rest⟩
    rcases bind_eq_ok.mp rest with ⟨_, curated, rest⟩
    rcases bind_eq_ok.mp rest with ⟨_, exported, rest⟩
    rcases bind_eq_ok.mp rest with ⟨_, results, rest⟩
    cases rest
    refine ⟨normalized, rfl, valid, rfl, ?_⟩
    intro bucket member
    simp only [List.mem_cons, List.not_mem_nil, or_false] at member
    rcases member with rfl | rfl | rfl | rfl
    · exact assertValidBucketName_eq_ok raw
    · exact assertValidBucketName_eq_ok curated
    · exact assertValidBucketName_eq_ok exported
    · exact assertValidBucketName_eq_ok results
  · rw [Bool.not_eq_true] at valid
    simp only [valid, Bool.not_false, if_true] at rest
    cases rest

end Namespace

end GhostArk.PolicyCompiler
