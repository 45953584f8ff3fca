import GhostArk.PolicyCompiler.IamPolicies

/-!
Contract: isolation of tenants by the compiled sandbox policy.

Owns the resources of a tenant as requests name them, what each statement grants at most,
and isolation: no request on another tenant's objects, functions, log groups or leading
keys is allowed, apart from the workflow actions, which are granted on all resources, and
from passing the role that the input itself names.

Slugs that extend each other share function and log group names (`acme` with suffix
`lab-x` and `acme-lab` with suffix `x`); such names are left out, and so are regions and
accounts with pattern characters.
-/

namespace GhostArk.PolicyCompiler

open Js

theorem prefix_of_delimited {delimiter : CodeUnit} {first second rest later : JsString}
    (cleanFirst : delimiter ∉ first) (cleanSecond : delimiter ∉ second)
    (starts : first ++ delimiter :: rest <+: second ++ delimiter :: later) :
    first = second ∧ rest <+: later := by
  induction first generalizing second with
  | nil =>
    cases second with
    | nil => exact ⟨rfl, (List.cons_prefix_cons.mp starts).2⟩
    | cons head tail =>
      have same := (List.cons_prefix_cons.mp starts).1
      exact absurd (same ▸ List.mem_cons_self) cleanSecond
  | cons head tail ih =>
    cases second with
    | nil =>
      have same := (List.cons_prefix_cons.mp starts).1
      exact absurd (same ▸ List.mem_cons_self) cleanFirst
    | cons head' tail' =>
      rcases List.cons_prefix_cons.mp starts with ⟨rfl, startsTail⟩
      rw [List.mem_cons, not_or] at cleanFirst cleanSecond
      rcases ih cleanFirst.2 cleanSecond.2 startsTail with ⟨rfl, restStarts⟩
      exact ⟨rfl, restStarts⟩

/-- A unit that names are made of: no delimiter, wildcard, dollar sign, blank or half a pair. -/
structure NameUnit (codeUnit : CodeUnit) : Prop where
  notSlash : codeUnit ≠ unit '/'
  notColon : codeUnit ≠ unit ':'
  notGap : codeUnit ≠ unit '*'
  notPlace : codeUnit ≠ unit '?'
  notDollar : codeUnit ≠ unit '$'
  notSpace : isSpace codeUnit = false
  notHigh : isHighSurrogate codeUnit = false
  ascii : isAscii codeUnit = true

variable {codeUnit : CodeUnit}

theorem isAscii_of_isBucketUnit (isBucket : isBucketUnit codeUnit = true) : codeUnit.val < 128 := by
  simp only [isBucketUnit, isBucketEnd, isLowerLetter, isDigit, inRange, Bool.or_eq_true,
    Bool.and_eq_true, decide_eq_true_eq, beq_iff_eq] at isBucket
  rcases isBucket with ((letter | digit) | rfl) | rfl
  · exact Nat.lt_of_le_of_lt letter.2 (by decide)
  · exact Nat.lt_of_le_of_lt digit.2 (by decide)
  · decide
  · decide

theorem nameUnit_of_isBucketUnit (isBucket : isBucketUnit codeUnit = true) : NameUnit codeUnit := by
  have small : ∀ value : Fin 128, isBucketUnit (Fin.ofNat 65536 value.val) = true →
      value.val ≠ 0x2F ∧ value.val ≠ 0x3A ∧ value.val ≠ 0x2A ∧ value.val ≠ 0x3F ∧
        value.val ≠ 0x24 ∧ isSpace (Fin.ofNat 65536 value.val) = false := by
    decide +kernel
  have bounded := isAscii_of_isBucketUnit isBucket
  have isUnit : Fin.ofNat 65536 codeUnit.val = codeUnit := Fin.ofNat_val_eq_self codeUnit
  have spec := small ⟨codeUnit.val, bounded⟩
  simp only [isUnit] at spec
  rcases spec isBucket with ⟨notSlash, notColon, notGap, notPlace, notDollar, notSpace⟩
  have notHigh : isHighSurrogate codeUnit = false := by
    simp only [isHighSurrogate, Bool.and_eq_false_iff, decide_eq_false_iff_not]
    omega
  exact ⟨fun same => notSlash (congrArg Fin.val same), fun same => notColon (congrArg Fin.val same),
    fun same => notGap (congrArg Fin.val same), fun same => notPlace (congrArg Fin.val same),
    fun same => notDollar (congrArg Fin.val same), notSpace, notHigh, decide_eq_true bounded⟩

theorem isBucketUnit_of_isSlugUnit (isSlug : isSlugUnit codeUnit = true) :
    isBucketUnit codeUnit = true := by
  rw [isSlugUnit, Bool.or_eq_true] at isSlug
  rw [isBucketUnit, isBucketEnd, Bool.or_eq_true, Bool.or_eq_true]
  exact isSlug.imp_left Or.inl

theorem nameUnit_of_isTenantSlug {slug : JsString} (isSlug : isTenantSlug slug = true) :
    ∀ codeUnit ∈ slug, NameUnit codeUnit := fun _ member =>
  nameUnit_of_isBucketUnit (isBucketUnit_of_isSlugUnit (isSlugUnit_of_isName isSlug member))

theorem nameUnit_of_isValidBucketName {bucket : JsString}
    (isValid : isValidBucketName bucket = true) : ∀ codeUnit ∈ bucket, NameUnit codeUnit := by
  intro codeUnit member
  simp only [isValidBucketName, isBucketName, Bool.and_eq_true] at isValid
  exact nameUnit_of_isBucketUnit
    (List.all_eq_true.mp isValid.1.1.1.1.1.1.1.2 codeUnit member)

/-! ### Stages -/

variable {text : JsString}

theorem isSpace_or_mem_trim (member : codeUnit ∈ text) :
    isSpace codeUnit = true ∨ codeUnit ∈ trim text := by
  have kept {part : JsString} (inPart : codeUnit ∈ part) :
      isSpace codeUnit = true ∨ codeUnit ∈ part.dropWhile isSpace := by
    rw [← List.takeWhile_append_dropWhile (p := isSpace) (l := part)] at inPart
    exact (List.mem_append.mp inPart).imp_left List.mem_takeWhile_imp
  rcases kept member with isBlank | inRest
  · exact Or.inl isBlank
  · rw [trim]
    exact (kept (List.mem_reverse.mpr inRest)).imp_right List.mem_reverse.mpr

theorem length_le_trim {start rest : JsString} {inner : CodeUnit}
    (solid : ∀ first ∈ start.head?, isSpace first = false) (notSpace : isSpace inner = false) :
    start.length + 1 ≤ (trim (start ++ inner :: rest)).length := by
  have noLeading : (start ++ inner :: rest).dropWhile isSpace = start ++ inner :: rest := by
    cases start with
    | nil => rw [List.nil_append, List.dropWhile_cons_of_neg (by rw [notSpace]; decide)]
    | cons first later =>
      rw [List.cons_append, List.dropWhile_cons_of_neg (by rw [solid first rfl]; decide)]
  rw [trim, noLeading, List.length_reverse, List.reverse_append, List.reverse_cons,
    List.append_assoc, List.dropWhile_append]
  have stays : ([inner] ++ start.reverse).dropWhile isSpace = [inner] ++ start.reverse := by
    rw [List.singleton_append, List.dropWhile_cons_of_neg (by rw [notSpace]; decide)]
  split
  · rw [stays, List.length_append, List.length_reverse, List.length_singleton, Nat.add_comm]
  · rw [List.length_append, List.length_append, List.length_reverse, List.length_singleton]
    omega

section Stage

variable {letters : LetterCase} {input : TenantNamespaceInput} {tenantNamespace : TenantNamespace}

section Accepted

variable (accepted : AcceptedNamespace letters input tenantNamespace)
include accepted

theorem AcceptedNamespace.stage_eq_map :
    tenantNamespace.stage = (trim input.stage).map asciiLower := by
  rw [← accepted.stage]
  apply letters.of_ascii_lower
  rw [accepted.stage, List.all_eq_true]
  intro codeUnit member
  exact (nameUnit_of_isBucketUnit
    (isBucketUnit_of_isSlugUnit (isSlugUnit_of_isName accepted.isStage member))).ascii

theorem AcceptedNamespace.plain_stage {codeUnit : CodeUnit} (member : codeUnit ∈ input.stage) :
    codeUnit ≠ unit '*' ∧ codeUnit ≠ unit '?' ∧ codeUnit ≠ unit '$' := by
  have lowered : isSpace codeUnit = true ∨ isSlugUnit (asciiLower codeUnit) = true := by
    apply (isSpace_or_mem_trim member).imp_right
    intro inTrim
    apply isSlugUnit_of_isName accepted.isStage
    rw [accepted.stage_eq_map]
    exact List.mem_map_of_mem inTrim
  refine ⟨?_, ?_, ?_⟩ <;> rintro rfl <;> revert lowered <;> decide

theorem AcceptedNamespace.stage_eq_of_prefix {rest later : JsString}
    (starts : input.stage ++ unit '-' :: rest <+: tenantNamespace.stage ++ unit '-' :: later) :
    input.stage = tenantNamespace.stage := by
  have isMap := accepted.stage_eq_map
  have sameLength : tenantNamespace.stage.length = (trim input.stage).length := by
    rw [isMap, List.length_map]
  have shorter : tenantNamespace.stage.length ≤ input.stage.length := by
    rw [sameLength, trim, List.length_reverse]
    apply Nat.le_trans (List.length_dropWhile_le _ _)
    rw [List.length_reverse]
    exact List.length_dropWhile_le _ _
  have within : tenantNamespace.stage <+: input.stage :=
    List.prefix_of_prefix_length_le (List.prefix_append _ _)
      ((List.prefix_append _ _).trans starts) shorter
  rcases within with ⟨extra, isStage⟩
  cases extra with
  | nil => rw [← isStage, List.append_nil]
  | cons first others =>
    rw [← isStage, List.append_assoc] at starts
    have startsRest := (List.prefix_append_right_inj _).mp starts
    have isDash : first = unit '-' := (List.cons_prefix_cons.mp startsRest).1
    have solid : ∀ head ∈ tenantNamespace.stage.head?, isSpace head = false := by
      intro head isHead
      exact (nameUnit_of_isBucketUnit (isBucketUnit_of_isSlugUnit
        (isSlugUnit_of_isName accepted.isStage (List.mem_of_mem_head? isHead)))).notSpace
    have longer := @length_le_trim _ others _ solid
      (show isSpace first = false by rw [isDash]; decide)
    rw [isStage, ← sameLength] at longer
    exact absurd longer (Nat.not_succ_le_self _)

end Accepted

end Stage

/-! ### Resources -/

/-- A text that substitution and patterns take as it is, and that ends in a whole character. -/
structure Plain (text : JsString) : Prop where
  units : ∀ codeUnit ∈ text, codeUnit ≠ unit '*' ∧ codeUnit ≠ unit '?' ∧ codeUnit ≠ unit '$'
  whole : ∀ last ∈ text.getLast?, isHighSurrogate last = false

def isPlainText (text : JsString) : Bool :=
  (text.all fun codeUnit =>
    codeUnit != unit '*' && codeUnit != unit '?' && codeUnit != unit '$') &&
      !text.getLast?.any isHighSurrogate

theorem plain_of_isPlainText (isPlain : isPlainText text = true) : Plain text := by
  simp only [isPlainText, Bool.and_eq_true, List.all_eq_true, bne_iff_ne, Bool.not_eq_true',
    Option.any_eq_false, and_assoc] at isPlain
  exact ⟨isPlain.1, fun last isLast => by simpa using isPlain.2 last isLast⟩

theorem Plain.noWildcard (plain : Plain text) : NoWildcard text :=
  fun codeUnit member => ⟨(plain.units codeUnit member).1, (plain.units codeUnit member).2.1⟩

theorem Plain.noDollar (plain : Plain text) : NoDollar text :=
  fun codeUnit member => (plain.units codeUnit member).2.2

theorem Plain.append {first last : JsString}
    (units : ∀ codeUnit ∈ first,
      codeUnit ≠ unit '*' ∧ codeUnit ≠ unit '?' ∧ codeUnit ≠ unit '$')
    (plain : Plain last) (nonempty : last ≠ []) : Plain (first ++ last) where
  units := List.forall_mem_append.mpr ⟨units, plain.units⟩
  whole := by
    rw [List.getLast?_append_of_ne_nil _ nonempty]
    exact plain.whole

theorem plain_of_nameUnits (units : ∀ codeUnit ∈ text, NameUnit codeUnit) :
    Plain text where
  units := fun codeUnit member =>
    ⟨(units codeUnit member).notGap, (units codeUnit member).notPlace,
      (units codeUnit member).notDollar⟩
  whole := fun last isLast => (units last (List.mem_of_mem_getLast? isLast)).notHigh

section Resources

variable {request : ModeledRequestState}

theorem resourceMatches_start {start rest : JsString} (plain : Plain start)
    (isMatch : resourceMatches (start ++ rest) request = true) : start <+: request.resource := by
  rw [resourceMatches, substitutePrincipalTag, replaceLiteral,
    replaceFrom_append plain.noDollar rfl] at isMatch
  exact matchesPattern_start plain.noWildcard plain.whole isMatch

theorem resourceMatches_plain {pattern : JsString} (plain : Plain pattern)
    (isMatch : resourceMatches pattern request = true) : pattern = request.resource := by
  rw [resourceMatches, substitutePrincipalTag,
    replaceLiteral_of_noDollar plain.noDollar rfl] at isMatch
  exact matchesPattern_plain plain.noWildcard isMatch

theorem resourceMatches_tenant {first tail rest : JsString} (plainFirst : Plain first)
    (plainTail : Plain tail) (nonempty : tail ≠ []) (noDollarRest : NoDollar rest)
    (plainSlug : Plain request.principalSlug)
    (isMatch : resourceMatches (first ++ (principalSlugVariable ++ (tail ++ rest))) request =
      true) :
    first ++ request.principalSlug ++ tail <+: request.resource := by
  have noDollarLast : NoDollar (tail ++ rest) :=
    List.forall_mem_append.mpr ⟨plainTail.noDollar, noDollarRest⟩
  rw [resourceMatches, substitutePrincipalTag, replaceLiteral_occurrence plainFirst.noDollar
    noDollarLast plainSlug.noDollar rfl, ← List.append_assoc, ← List.append_assoc] at isMatch
  have plainStart : Plain (first ++ request.principalSlug ++ tail) :=
    plainTail.append (List.forall_mem_append.mpr ⟨plainFirst.units, plainSlug.units⟩) nonempty
  exact matchesPattern_start plainStart.noWildcard plainStart.whole isMatch

end Resources

section Statements

variable {sid effect : JsString} {action resource : JsValue} {condition : Option JsValue}

@[simp] theorem effect_statementEntries :
    readProperty (statementEntries sid effect action resource condition) (js "Effect") =
      .string effect := rfl

@[simp] theorem action_statementEntries :
    readProperty (statementEntries sid effect action resource condition) (js "Action") =
      action := rfl

@[simp] theorem resource_statementEntries :
    readProperty (statementEntries sid effect action resource condition) (js "Resource") =
      resource := rfl

@[simp] theorem condition_statementEntries :
    readProperty (statementEntries sid effect action resource condition) (js "Condition") =
      condition.getD .undefined := by
  cases condition <;> rfl

theorem notNegated_statementEntries :
    (hasProperty (statementEntries sid effect action resource condition) (js "NotAction") ||
      hasProperty (statementEntries sid effect action resource condition) (js "NotResource")) =
        false := by
  cases condition <;> rfl

@[simp] theorem asArray_texts (values : List JsString) : asArray (texts values) = values := by
  rw [texts, asArray, List.filterMap_map]
  exact List.filterMap_some

@[simp] theorem asConditionValues_texts (values : List JsString) :
    asConditionValues (texts values) = values := by
  rw [texts, asConditionValues, List.filterMap_map]
  exact List.filterMap_some

theorem objectOrder_singleton {V : Type} (member : JsString × V) :
    objectOrder [member] = [member] :=
  List.perm_singleton.mp (perm_objectOrder [member])

theorem conditionMatches_oneCondition {operator key : JsString} {value : JsValue}
    {request : ModeledRequestState}
    (holds : conditionMatches (oneCondition operator key value) request = .ok true) :
    keyMatches operator request key value = true := by
  rw [oneCondition, conditionMatches] at holds
  · simp only [recordEntries, objectMembers, objectOrder_singleton, operatorsMatch] at holds
    split at holds
    next => cases holds
    next =>
      simp only [List.all_cons, List.all_nil, Bool.and_true] at holds
      split at holds
      next keyHolds => exact keyHolds
      next => cases holds
  · exact fun same => by cases same

variable {letters : LetterCase} {request : ModeledRequestState}

theorem statementMatches_statementEntries
    (isMatch : statementMatches letters (statementEntries sid effect action resource condition)
      request = .ok true) :
    (∃ pattern ∈ asArray action, actionMatches letters pattern request.action = true) ∧
      (∃ pattern ∈ asArray resource, resourceMatches pattern request = true) ∧
        conditionMatches (condition.getD .undefined) request = .ok true := by
  rw [statementMatches, notNegated_statementEntries, action_statementEntries,
    resource_statementEntries, condition_statementEntries, if_neg Bool.false_ne_true] at isMatch
  split at isMatch
  next covered =>
    rw [covers, Bool.and_eq_true, List.any_eq_true, List.any_eq_true] at covered
    exact ⟨covered.1, covered.2, isMatch⟩
  next => cases isMatch

end Statements

/-! ### What the policy grants -/

def isPlainAction (action : JsString) : Bool :=
  action.all isAscii && !hasWildcard (action.map asciiLower)

section Grants

variable (letters : LetterCase)

/-- The action is one of the list, up to case. -/
def Acts (actions : List JsString) (request : ModeledRequestState) : Prop :=
  ∃ action ∈ actions, normalizeAction letters action = normalizeAction letters request.action

def OwnLeadingKeys (request : ModeledRequestState) : Prop :=
  ∃ keys, observedValues request (js "dynamodb:LeadingKeys") = some keys ∧
    ∀ key ∈ keys, key = request.principalSlug

def ledgerActions : List JsString :=
  [js "dynamodb:GetItem", js "dynamodb:Query", js "dynamodb:PutItem", js "dynamodb:UpdateItem"]

def functionActions : List JsString :=
  [js "lambda:InvokeFunction", js "logs:CreateLogStream", js "logs:PutLogEvents",
    js "logs:DescribeLogStreams"]

/-- Every way in which the sandbox policy allows a request. -/
inductive Grant (input : TenantSandboxPolicyInput) (request : ModeledRequestState) : Prop where
  | objects (acts : Acts letters objectActions request) (bucket : JsString)
      (isBucket : bucket ∈ input.buckets)
      (starts : bucketArn bucket ++ js "/tenants/" ++ request.principalSlug ++ js "/" <+:
        request.resource)
  | listing (acts : Acts letters [js "s3:ListBucket"] request) (bucket : JsString)
      (isBucket : bucket ∈ input.buckets) (isResource : bucketArn bucket = request.resource)
  | ledger (acts : Acts letters ledgerActions request) (own : OwnLeadingKeys request)
      (starts : js "arn:aws:dynamodb:" <+: request.resource)
  | workflow (acts : Acts letters workflowActions request)
  | passRole (acts : Acts letters [js "iam:PassRole"] request)
      (isRole : resourceMatches input.tenantServiceRoleArn request = true)
  | function (acts : Acts letters functionActions request)
      (isMatch : resourceMatches (functionStart input.region input.accountId input.stage ++
        principalSlugVariable ++ js "-*") request = true)
  | logGroup (acts : Acts letters functionActions request)
      (isMatch : resourceMatches (logGroupStart input.region input.accountId input.stage ++
        principalSlugVariable ++ js "-*:*") request = true)

variable {letters} {request : ModeledRequestState}

theorem acts_of_actionMatches {actions : List JsString}
    (plain : actions.all isPlainAction = true)
    (isMatch : ∃ action ∈ actions, actionMatches letters action request.action = true) :
    Acts letters actions request := by
  rcases isMatch with ⟨action, member, matched⟩
  have isPlain := List.all_eq_true.mp plain action member
  rw [isPlainAction, Bool.and_eq_true, Bool.not_eq_true'] at isPlain
  refine ⟨action, member, matchesPattern_plain ?_ matched⟩
  rw [normalizeAction, letters.of_ascii action isPlain.1]
  exact noWildcard_of_hasWildcard isPlain.2

theorem Acts.mono {few many : List JsString} (acts : Acts letters few request)
    (subset : few ⊆ many) : Acts letters many request := by
  rcases acts with ⟨action, member, same⟩
  exact ⟨action, subset member, same⟩

variable {input : TenantSandboxPolicyInput}

theorem ownLeadingKeys_of_conditionMatches (plainSlug : Plain request.principalSlug)
    (holds : conditionMatches (oneCondition (js "ForAllValues:StringEquals")
      (js "dynamodb:LeadingKeys") (texts [principalSlugVariable])) request = .ok true) :
    OwnLeadingKeys request := by
  have keyHolds := conditionMatches_oneCondition holds
  have isOperator : keyMatches (js "ForAllValues:StringEquals") request
      (js "dynamodb:LeadingKeys") (texts [principalSlugVariable]) =
        allValuesEqual (observedValues request (js "dynamodb:LeadingKeys"))
          [principalSlugVariable] request := by
    rw [keyMatches, asConditionValues_texts, if_neg (by decide), if_pos rfl]
  rw [isOperator] at keyHolds
  unfold allValuesEqual at keyHolds
  cases observed : observedValues request (js "dynamodb:LeadingKeys") with
  | none =>
    rw [observed] at keyHolds
    cases keyHolds
  | some keys =>
    rw [observed] at keyHolds
    simp only [Bool.and_eq_true, List.all_eq_true, decide_eq_true_eq] at keyHolds
    refine ⟨keys, observed, fun key member => ?_⟩
    have expected := keyHolds.2 key member
    have substituted : substitutePrincipalTag principalSlugVariable request =
        request.principalSlug := by
      have noUnits : NoDollar [] := fun _ member => absurd member List.not_mem_nil
      have occurrence : replaceLiteral principalSlugVariable request.principalSlug
          ([] ++ (principalSlugVariable ++ [])) = [] ++ (request.principalSlug ++ []) :=
        replaceLiteral_occurrence noUnits noUnits plainSlug.noDollar rfl
      rw [List.nil_append, List.nil_append, List.append_nil, List.append_nil] at occurrence
      exact occurrence
    rw [List.map_singleton, List.mem_singleton, substituted] at expected
    exact expected

theorem plain_dynamodb : Plain (js "arn:aws:dynamodb:") := plain_of_isPlainText rfl

theorem grant_of_ledger {sid table : JsString} {actions : List JsString}
    (plainSlug : Plain request.principalSlug) (plain : actions.all isPlainAction = true)
    (subset : actions ⊆ ledgerActions)
    (isMatch : statementMatches letters (allowLedgerAccess sid actions table input) request =
      .ok true) : Grant letters input request := by
  rcases statementMatches_statementEntries isMatch with ⟨acts, resources, condition⟩
  rw [asArray_texts] at acts resources
  rcases resources with ⟨pattern, isPattern, matched⟩
  rw [List.mem_singleton.mp isPattern, tableArn] at matched
  simp only [List.append_assoc] at matched
  exact .ledger ((acts_of_actionMatches plain acts).mono subset)
    (ownLeadingKeys_of_conditionMatches plainSlug condition)
    (resourceMatches_start plain_dynamodb matched)

theorem plain_bucketArn {bucket : JsString} (isValid : isValidBucketName bucket = true) :
    Plain (bucketArn bucket) := by
  have nonempty : bucket ≠ [] := by
    rintro rfl
    exact absurd isValid (by decide)
  exact (plain_of_nameUnits (nameUnit_of_isValidBucketName isValid)).append
    (plain_of_isPlainText rfl).units nonempty

section Buckets

variable (buckets : ∀ bucket ∈ input.buckets, isValidBucketName bucket = true)
include buckets

theorem grant_of_objects (plainSlug : Plain request.principalSlug)
    (isMatch : statementMatches letters
      (allowTenantScopedS3EvidenceAccess input.toTenantNamespaceInput) request = .ok true) :
    Grant letters input request := by
  rcases statementMatches_statementEntries isMatch with ⟨acts, resources, _⟩
  rw [asArray_texts] at acts resources
  rcases resources with ⟨pattern, isPattern, matched⟩
  rcases List.mem_map.mp isPattern with ⟨bucket, isBucket, rfl⟩
  have plainFirst : Plain (bucketArn bucket ++ js "/tenants/") :=
    (plain_of_isPlainText rfl).append (plain_bucketArn (buckets bucket isBucket)).units (by decide)
  have split : tenantObjects bucket =
      (bucketArn bucket ++ js "/tenants/") ++
        (principalSlugVariable ++ (js "/" ++ js "*")) := by
    rw [tenantObjects, List.append_assoc (bucketArn bucket ++ js "/tenants/")]
    rfl
  rw [split] at matched
  exact .objects (acts_of_actionMatches rfl acts) bucket isBucket
    (resourceMatches_tenant plainFirst (plain_of_isPlainText rfl) (by decide)
      (noDollar_of_all rfl) plainSlug matched)

theorem grant_of_listing
    (isMatch : statementMatches letters
      (allowTenantScopedBucketListing input.toTenantNamespaceInput) request = .ok true) :
    Grant letters input request := by
  rcases statementMatches_statementEntries isMatch with ⟨acts, resources, _⟩
  rw [asArray_texts] at acts resources
  rcases resources with ⟨pattern, isPattern, matched⟩
  rcases List.mem_map.mp isPattern with ⟨bucket, isBucket, rfl⟩
  exact .listing (acts_of_actionMatches rfl acts) bucket isBucket
    (resourceMatches_plain (plain_bucketArn (buckets bucket isBucket)) matched)

/-- What the compiled policy allows rests on one of its grants. -/
theorem grant_of_allowed (plainSlug : Plain request.principalSlug)
    (allowed : evaluateModeledPolicy letters (sandboxDocument input) request = .ok .Allow) :
    Grant letters input request := by
  rcases exists_allow allowed with ⟨statement, member, entries, isRecord, allows, isMatch⟩
  rcases List.mem_map.mp member with ⟨entries', isStatement, rfl⟩
  cases isRecord
  simp only [sandboxStatements, List.cons_append, List.nil_append, List.mem_cons] at isStatement
  rcases isStatement with rfl | rfl | rfl | rfl | rfl | rfl | rfl | rfl | rfl | rfl | rfl | boundary
  · exact absurd allows (by rw [denyOutsideApprovedRegions, effect_statementEntries]; decide)
  · exact absurd allows (by decide)
  · exact absurd allows (by decide)
  · exact grant_of_objects buckets plainSlug isMatch
  · exact grant_of_listing buckets isMatch
  · exact grant_of_ledger plainSlug rfl (by decide) isMatch
  · exact grant_of_ledger plainSlug rfl (by decide) isMatch
  · exact grant_of_ledger plainSlug rfl (by decide) isMatch
  · rcases statementMatches_statementEntries isMatch with ⟨acts, _, _⟩
    rw [asArray_texts] at acts
    exact .workflow (acts_of_actionMatches rfl acts)
  · rcases statementMatches_statementEntries isMatch with ⟨acts, resources, _⟩
    rcases resources with ⟨pattern, isPattern, matched⟩
    rw [List.mem_singleton.mp isPattern] at matched
    exact .passRole (acts_of_actionMatches rfl acts) matched
  · rcases statementMatches_statementEntries isMatch with ⟨acts, resources, _⟩
    rw [asArray_texts] at acts resources
    rcases resources with ⟨pattern, isPattern, matched⟩
    have isFunction : Acts letters functionActions request := acts_of_actionMatches rfl acts
    rcases List.mem_cons.mp isPattern with rfl | isLogGroup
    · exact .function isFunction matched
    · rw [List.mem_singleton.mp isLogGroup] at matched
      exact .logGroup isFunction matched
  · cases arn : input.permissionsBoundaryArn with
    | none =>
      rw [arn] at boundary
      cases boundary
    | some boundaryArn =>
      rw [arn, boundaryStatements] at boundary
      split at boundary
      next => cases boundary
      next =>
        rw [List.mem_singleton.mp boundary, denyRoleCreationWithoutBoundary,
          effect_statementEntries] at allows
        exact absurd allows (by decide)

end Buckets

end Grants

def IsTenantObject (input : TenantNamespaceInput) (slug resource : JsString) : Prop :=
  ∃ bucket ∈ input.buckets, ∃ key,
    resource = bucketArn bucket ++ js "/tenants/" ++ slug ++ js "/" ++ key

/-- A region or account that patterns hold as it is, in one field. -/
def IsPlainField (text : JsString) : Prop :=
  ∀ codeUnit ∈ text, codeUnit ≠ unit '*' ∧ codeUnit ≠ unit '?' ∧ codeUnit ≠ unit '$' ∧
    codeUnit ≠ unit ':'

theorem isPlainField_of_all
    (all : (text.all fun codeUnit => codeUnit != unit '*' && codeUnit != unit '?' &&
      codeUnit != unit '$' && codeUnit != unit ':') = true) : IsPlainField text := by
  intro codeUnit member
  have isPlain := List.all_eq_true.mp all codeUnit member
  simp only [Bool.and_eq_true, bne_iff_ne] at isPlain
  exact ⟨isPlain.1.1.1, isPlain.1.1.2, isPlain.1.2, isPlain.2⟩

/-- A function or log group of the tenant, of any region and account, whose name is not also a
name of the principal; the stage is as the input or as its namespace spells it. -/
def IsTenantFunction (letters : LetterCase) (input : TenantSandboxPolicyInput)
    (principal slug resource : JsString) : Prop :=
  ∃ start ∈ [functionStart, logGroupStart], ∃ region account stage suffix,
    unit ':' ∉ region ∧ unit ':' ∉ account ∧
      stage ∈ [input.stage, letters.toLowerCase (trim input.stage)] ∧
        resource = start region account stage ++ slug ++ js "-" ++ suffix ∧
          ¬ principal ++ js "-" <+: slug ++ js "-" ++ suffix

/-- An action or table of DynamoDB, with the tenant's slug among the leading keys. -/
def IsTenantLedgerAccess (letters : LetterCase) (slug : JsString) (request : ModeledRequestState) :
    Prop :=
  (js "dynamodb:" <+: normalizeAction letters request.action ∨
    js "arn:aws:dynamodb:" <+: request.resource) ∧
  ∃ keys, observedValues request (js "dynamodb:LeadingKeys") = some keys ∧ slug ∈ keys

/-! ### Isolation -/

theorem not_both_start {first second text : JsString} (startsFirst : first <+: text)
    (startsSecond : second <+: text)
    (disagree : (first.isPrefixOf second || second.isPrefixOf first) = false) : False := by
  rw [Bool.or_eq_false_iff] at disagree
  rcases List.prefix_or_prefix_of_prefix startsFirst startsSecond with within | within
  · rw [List.isPrefixOf_iff_prefix.mpr within] at disagree
    cases disagree.1
  · rw [List.isPrefixOf_iff_prefix.mpr within] at disagree
    cases disagree.2

theorem name_of_serviceStart {service middle region region' account account' stage stage' name
    name' : JsString} (cleanRegion : unit ':' ∉ region) (cleanRegion' : unit ':' ∉ region')
    (cleanAccount : unit ':' ∉ account) (cleanAccount' : unit ':' ∉ account')
    (starts : serviceStart service (unit ':' :: middle) region account stage ++ name <+:
      serviceStart service (unit ':' :: middle) region' account' stage' ++ name') :
    stage ++ unit '-' :: name <+: stage' ++ unit '-' :: name' := by
  have spelled (region account stage name : JsString) :
      serviceStart service (unit ':' :: middle) region account stage ++ name =
        service ++ (region ++ unit ':' :: (account ++ unit ':' ::
          (middle ++ (stage ++ unit '-' :: name)))) := by
    simp only [serviceStart, List.append_assoc, List.cons_append]
    rfl
  rw [spelled, spelled] at starts
  have fields := (List.prefix_append_right_inj _).mp starts
  rcases prefix_of_delimited cleanRegion cleanRegion' fields with ⟨_, fields⟩
  rcases prefix_of_delimited cleanAccount cleanAccount' fields with ⟨_, fields⟩
  exact (List.prefix_append_right_inj _).mp fields

section Isolation

variable {letters : LetterCase} {input : TenantSandboxPolicyInput}
  {tenantNamespace : TenantNamespace} {request : ModeledRequestState} {slug : JsString}

theorem IsTenantObject.starts {resource : JsString}
    (isObject : IsTenantObject input.toTenantNamespaceInput slug resource) :
    js "arn:aws:s3:::" <+: resource := by
  rcases isObject with ⟨bucket, _, key, rfl⟩
  simp only [bucketArn, List.append_assoc]
  exact List.prefix_append _ _

theorem serviceStart_starts (service middle region account stage rest : JsString) :
    service <+: serviceStart service middle region account stage ++ rest := by
  simp only [serviceStart, List.append_assoc]
  exact List.prefix_append _ _

theorem start_of_function
    (isMatch : resourceMatches (functionStart input.region input.accountId input.stage ++
      principalSlugVariable ++ js "-*") request = true) :
    js "arn:aws:lambda:" <+: request.resource := by
  simp only [functionStart, serviceStart, List.append_assoc] at isMatch
  exact resourceMatches_start (plain_of_isPlainText rfl) isMatch

theorem start_of_logGroup
    (isMatch : resourceMatches (logGroupStart input.region input.accountId input.stage ++
      principalSlugVariable ++ js "-*:*") request = true) :
    js "arn:aws:logs:" <+: request.resource := by
  simp only [logGroupStart, serviceStart, List.append_assoc] at isMatch
  exact resourceMatches_start (plain_of_isPlainText rfl) isMatch

theorem objects_start {bucket rest : JsString} (starts : bucketArn bucket ++ rest <+:
    request.resource) : js "arn:aws:s3:::" <+: request.resource := by
  rw [bucketArn, List.append_assoc] at starts
  exact (List.prefix_append _ _).trans starts

/-- Outside workflows and passed roles, no grant reaches an object of another tenant. -/
theorem Grant.not_object (grant : Grant letters input request)
    (buckets : ∀ bucket ∈ input.buckets, isValidBucketName bucket = true)
    (isSlug : isTenantSlug request.principalSlug = true) (isOther : isTenantSlug slug = true)
    (apart : request.principalSlug ≠ slug)
    (notWorkflow : ¬ Acts letters workflowActions request)
    (notRole : ¬ resourceMatches input.tenantServiceRoleArn request = true ∨
      ¬ Acts letters [js "iam:PassRole"] request) :
    ¬ IsTenantObject input.toTenantNamespaceInput slug request.resource := by
  intro isObject
  have starts := isObject.starts
  rcases isObject with ⟨bucket, isBucket, key, isResource⟩
  have noSlash {name : JsString} (units : ∀ codeUnit ∈ name, NameUnit codeUnit) :
      unit '/' ∉ name := fun inName => (units _ inName).notSlash rfl
  have cleanBucket {name : JsString} (isBucket : name ∈ input.buckets) : unit '/' ∉ name :=
    noSlash (nameUnit_of_isValidBucketName (buckets name isBucket))
  cases grant with
  | objects _ other isOtherBucket granted =>
    rw [isResource] at granted
    simp only [bucketArn, List.append_assoc] at granted
    have folders := (prefix_of_delimited (cleanBucket isOtherBucket) (cleanBucket isBucket)
      ((List.prefix_append_right_inj _).mp granted)).2
    have slugs := (List.prefix_append_right_inj (js "tenants/")).mp folders
    exact apart (prefix_of_delimited (noSlash (nameUnit_of_isTenantSlug isSlug))
      (noSlash (nameUnit_of_isTenantSlug isOther)) slugs).1
  | listing _ other isOtherBucket same =>
    rw [isResource] at same
    simp only [bucketArn, List.append_assoc] at same
    have isLonger := List.append_cancel_left same
    apply cleanBucket isOtherBucket
    rw [isLonger]
    exact List.mem_append_right _ List.mem_cons_self
  | ledger _ _ granted => exact not_both_start granted starts rfl
  | workflow acts => exact notWorkflow acts
  | passRole acts isRole => exact notRole.elim (fun not => not isRole) fun not => not acts
  | function _ isMatch => exact not_both_start (start_of_function isMatch) starts rfl
  | logGroup _ isMatch => exact not_both_start (start_of_logGroup isMatch) starts rfl

theorem IsPlainField.noColon {text : JsString} (isField : IsPlainField text) : unit ':' ∉ text :=
  fun inText => (isField _ inText).2.2.2 rfl

theorem plain_serviceStart {service middle : JsString} (plainService : Plain service)
    (plainMiddle : Plain middle)
    (accepted : AcceptedNamespace letters input.toTenantNamespaceInput tenantNamespace)
    (isRegion : IsPlainField input.region) (isAccount : IsPlainField input.accountId) :
    Plain (serviceStart service middle input.region input.accountId input.stage) := by
  have field {text : JsString} (isField : IsPlainField text) : ∀ codeUnit ∈ text,
      codeUnit ≠ unit '*' ∧ codeUnit ≠ unit '?' ∧ codeUnit ≠ unit '$' := fun codeUnit member =>
    ⟨(isField codeUnit member).1, (isField codeUnit member).2.1, (isField codeUnit member).2.2.1⟩
  have colon : Plain (js ":") := plain_of_isPlainText rfl
  have dash : Plain (js "-") := plain_of_isPlainText rfl
  rw [serviceStart]
  apply Plain.append _ dash (by decide)
  simp only [List.forall_mem_append]
  exact ⟨⟨⟨⟨⟨plainService.units, field isRegion⟩, colon.units⟩, field isAccount⟩,
    plainMiddle.units⟩, fun _ member => accepted.plain_stage member⟩

/-- A pattern of the principal's names of a service matches no name of another tenant. -/
theorem not_serviceMatch {service middle region account stage suffix star : JsString}
    (accepted : AcceptedNamespace letters input.toTenantNamespaceInput tenantNamespace)
    (isSlug : isTenantSlug request.principalSlug = true)
    (isRegion : IsPlainField input.region) (isAccount : IsPlainField input.accountId)
    (cleanRegion : unit ':' ∉ region) (cleanAccount : unit ':' ∉ account)
    (isStage : stage ∈ [input.stage, letters.toLowerCase (trim input.stage)])
    (notOwn : ¬ request.principalSlug ++ js "-" <+: slug ++ js "-" ++ suffix)
    (plainService : Plain service) (plainMiddle : Plain (unit ':' :: middle))
    (noDollar : NoDollar star)
    (isResource : request.resource =
      serviceStart service (unit ':' :: middle) region account stage ++ slug ++ js "-" ++ suffix)
    (isMatch : resourceMatches (serviceStart service (unit ':' :: middle) input.region
      input.accountId input.stage ++ principalSlugVariable ++ (js "-" ++ star)) request = true) :
    False := by
  rw [List.append_assoc] at isMatch
  have starts := resourceMatches_tenant
    (plain_serviceStart plainService plainMiddle accepted isRegion isAccount)
    (plain_of_isPlainText rfl) (by decide) noDollar
    (plain_of_nameUnits (nameUnit_of_isTenantSlug isSlug)) isMatch
  rw [isResource, List.append_assoc, List.append_assoc _ slug,
    List.append_assoc _ (slug ++ js "-")] at starts
  have names := name_of_serviceStart isRegion.noColon cleanRegion isAccount.noColon cleanAccount
    starts
  have sameStage : input.stage = stage := by
    rw [List.mem_cons, List.mem_singleton] at isStage
    rcases isStage with same | isNormal
    · exact same.symm
    · rw [isNormal, accepted.stage] at names ⊢
      exact accepted.stage_eq_of_prefix names
  rw [sameStage] at names
  have cancelled := (List.prefix_append_right_inj stage).mp names
  exact notOwn (List.cons_prefix_cons.mp cancelled).2

/-- No grant but the two on input-named and on all resources reaches another tenant's functions
and log groups. -/
theorem Grant.not_function (grant : Grant letters input request)
    (accepted : AcceptedNamespace letters input.toTenantNamespaceInput tenantNamespace)
    (isSlug : isTenantSlug request.principalSlug = true)
    (isRegion : IsPlainField input.region) (isAccount : IsPlainField input.accountId)
    (notWorkflow : ¬ Acts letters workflowActions request)
    (notRole : ¬ resourceMatches input.tenantServiceRoleArn request = true ∨
      ¬ Acts letters [js "iam:PassRole"] request) :
    ¬ IsTenantFunction letters input request.principalSlug slug request.resource := by
  rintro ⟨start, isStart, region, account, stage, suffix, cleanRegion, cleanAccount, isStage,
    isResource, notOwn⟩
  rw [List.mem_cons, List.mem_singleton] at isStart
  have startsHere : js "arn:aws:lambda:" <+: request.resource ∧ start = functionStart ∨
      js "arn:aws:logs:" <+: request.resource ∧ start = logGroupStart := by
    rw [isResource, List.append_assoc, List.append_assoc]
    rcases isStart with rfl | rfl
    · exact Or.inl ⟨serviceStart_starts .., rfl⟩
    · exact Or.inr ⟨serviceStart_starts .., rfl⟩
  have elsewhere {service : JsString} (starts : service <+: request.resource)
      (noFunction : (service.isPrefixOf (js "arn:aws:lambda:") ||
        (js "arn:aws:lambda:").isPrefixOf service) = false)
      (noLogGroup : (service.isPrefixOf (js "arn:aws:logs:") ||
        (js "arn:aws:logs:").isPrefixOf service) = false) : False :=
    startsHere.elim (fun isFunction => not_both_start starts isFunction.1 noFunction)
      fun isLogGroup => not_both_start starts isLogGroup.1 noLogGroup
  cases grant with
  | objects _ bucket _ granted =>
    simp only [List.append_assoc] at granted
    exact elsewhere (objects_start granted) rfl rfl
  | listing _ bucket _ same =>
    have granted : bucketArn bucket ++ [] <+: request.resource :=
      ⟨[], by rw [List.append_nil, List.append_nil, same]⟩
    exact elsewhere (objects_start granted) rfl rfl
  | ledger _ _ granted => exact elsewhere granted rfl rfl
  | workflow acts => exact notWorkflow acts
  | passRole acts isRole => exact notRole.elim (fun not => not isRole) fun not => not acts
  | function _ isMatch =>
    rcases startsHere with ⟨_, rfl⟩ | ⟨logs, _⟩
    · exact not_serviceMatch accepted isSlug isRegion isAccount cleanRegion cleanAccount isStage
        notOwn (plain_of_isPlainText (by rfl)) (plain_of_isPlainText (by rfl))
        (noDollar_of_all rfl) isResource isMatch
    · exact not_both_start (start_of_function isMatch) logs rfl
  | logGroup _ isMatch =>
    rcases startsHere with ⟨functions, _⟩ | ⟨_, rfl⟩
    · exact not_both_start (start_of_logGroup isMatch) functions rfl
    · exact not_serviceMatch accepted isSlug isRegion isAccount cleanRegion cleanAccount isStage
        notOwn (plain_of_isPlainText (by rfl)) (plain_of_isPlainText (by rfl))
        (noDollar_of_all rfl) isResource isMatch

theorem Acts.not_dynamodb {actions : List JsString} (acts : Acts letters actions request)
    (ascii : actions.all (fun action => action.all isAscii) = true)
    (outside : (actions.any fun action =>
      (js "dynamodb:").isPrefixOf (action.map asciiLower)) = false) :
    ¬ js "dynamodb:" <+: normalizeAction letters request.action := by
  rcases acts with ⟨action, member, same⟩
  intro starts
  have isOutside := List.any_eq_false.mp outside action member
  rw [← same, normalizeAction, letters.of_ascii action (List.all_eq_true.mp ascii action member),
    ← List.isPrefixOf_iff_prefix] at starts
  exact isOutside starts

/-- No grant but the two on input-named and on all resources reaches another tenant's leading
keys. -/
theorem Grant.not_ledger (grant : Grant letters input request)
    (apart : request.principalSlug ≠ slug)
    (notWorkflow : ¬ Acts letters workflowActions request)
    (notRole : ¬ resourceMatches input.tenantServiceRoleArn request = true ∨
      ¬ Acts letters [js "iam:PassRole"] request) :
    ¬ IsTenantLedgerAccess letters slug request := by
  rintro ⟨isLedger, keys, observed, isKey⟩
  have elsewhere {start : JsString} (notAction : ¬ js "dynamodb:" <+:
        normalizeAction letters request.action) (starts : start <+: request.resource)
      (disagree : (start.isPrefixOf (js "arn:aws:dynamodb:") ||
        (js "arn:aws:dynamodb:").isPrefixOf start) = false) : False :=
    isLedger.elim notAction fun onTable => not_both_start starts onTable disagree
  cases grant with
  | objects acts bucket _ granted =>
    simp only [List.append_assoc] at granted
    exact elsewhere (acts.not_dynamodb rfl rfl) (objects_start granted) rfl
  | listing acts bucket _ same =>
    have granted : bucketArn bucket ++ [] <+: request.resource :=
      ⟨[], by rw [List.append_nil, List.append_nil, same]⟩
    exact elsewhere (acts.not_dynamodb rfl rfl) (objects_start granted) rfl
  | ledger _ own _ =>
    rcases own with ⟨ownKeys, same, areOwn⟩
    rw [observed, Option.some.injEq] at same
    subst same
    exact apart (areOwn slug isKey).symm
  | workflow acts => exact notWorkflow acts
  | passRole acts isRole => exact notRole.elim (fun not => not isRole) fun not => not acts
  | function acts isMatch =>
    exact elsewhere (acts.not_dynamodb rfl rfl) (start_of_function isMatch) rfl
  | logGroup acts isMatch =>
    exact elsewhere (acts.not_dynamodb rfl rfl) (start_of_logGroup isMatch) rfl

theorem compileTenantSandboxPolicy_eq_ok {compiled : CompiledIamPolicy}
    (isCompiled : compileTenantSandboxPolicy letters input = .ok compiled) :
    compiled.document = sandboxDocument input ∧ ∃ tenantNamespace,
      AcceptedNamespace letters input.toTenantNamespaceInput tenantNamespace := by
  rw [compileTenantSandboxPolicy] at isCompiled
  rcases bind_eq_ok.mp isCompiled with ⟨tenantNamespace, isNamespace, rest⟩
  rcases bind_eq_ok.mp rest with ⟨_, _, rest⟩
  cases rest
  exact ⟨rfl, tenantNamespace, compileTenantNamespace_accepted isNamespace⟩

/-- A resource or access of another tenant. -/
inductive IsForeign (letters : LetterCase) (input : TenantSandboxPolicyInput) (slug : JsString)
    (request : ModeledRequestState) : Prop where
  | object (isObject : IsTenantObject input.toTenantNamespaceInput slug request.resource)
  | function (isRegion : IsPlainField input.region) (isAccount : IsPlainField input.accountId)
      (isFunction : IsTenantFunction letters input request.principalSlug slug request.resource)
  | ledger (isLedger : IsTenantLedgerAccess letters slug request)

/-- No accepted sandbox policy allows a request on what another tenant owns, unless the action is
a workflow action or passes the role that the input names. -/
theorem tenants_isolated {compiled : CompiledIamPolicy} {first second : JsString}
    (isCompiled : compileTenantSandboxPolicy letters input = .ok compiled)
    (isPrincipal : normalizeTenantSlug letters first = .ok request.principalSlug)
    (isOther : normalizeTenantSlug letters second = .ok slug)
    (apart : request.principalSlug ≠ slug)
    (notWorkflow : ¬ Acts letters workflowActions request)
    (notRole : ¬ resourceMatches input.tenantServiceRoleArn request = true ∨
      ¬ Acts letters [js "iam:PassRole"] request)
    (isForeign : IsForeign letters input slug request) :
    evaluateModeledPolicy letters compiled.document request ≠ .ok .Allow := by
  rcases compileTenantSandboxPolicy_eq_ok isCompiled with ⟨isDocument, tenantNamespace, accepted⟩
  have isSlug := isTenantSlug_normalize isPrincipal
  have plainSlug := plain_of_nameUnits (nameUnit_of_isTenantSlug isSlug)
  rw [isDocument]
  intro allowed
  have grant := grant_of_allowed accepted.buckets plainSlug allowed
  cases isForeign with
  | object isObject =>
    exact grant.not_object accepted.buckets isSlug (isTenantSlug_normalize isOther) apart
      notWorkflow notRole isObject
  | function isRegion isAccount isFunction =>
    exact grant.not_function accepted isSlug isRegion isAccount notWorkflow notRole isFunction
  | ledger isLedger => exact grant.not_ledger apart notWorkflow notRole isLedger

end Isolation

namespace IsolationSample

def sandbox : TenantSandboxPolicyInput where
  stage := js "prod"
  tenantSlug := js "acme"
  rawBucket := js "raw"
  curatedBucket := js "curated"
  exportBucket := js "exports"
  resultsBucket := js "results"
  region := js "us-east-1"
  accountId := js "123456789012"
  allowedRegions := [js "us-east-1"]
  tenantServiceRoleArn := js "arn:aws:iam::123456789012:role/acme-service"
  permissionsBoundaryArn := none

def requestOf (action resource : JsString) : ModeledRequestState where
  action := action
  resource := resource
  principalSlug := js "acme"
  conditionContext := some [(js "aws:RequestedRegion", .text (js "us-east-1"))]

def labObject : JsString := js "arn:aws:s3:::raw/tenants/acme-lab/raw/a"

/-- A function of `acme-lab`, whose name is that of a function `lab-x` of `acme` too. -/
def labFunction : JsString :=
  js "arn:aws:lambda:us-east-1:123456789012:function:ghost-ark-prod-acme-lab-x"

def betaFunction : JsString :=
  js "arn:aws:lambda:us-east-1:123456789012:function:ghost-ark-prod-beta-x"

def decision (request : ModeledRequestState) : Except JsError ModeledPolicyDecision := do
  let compiled ← compileTenantSandboxPolicy asciiCase sandbox
  evaluateModeledPolicy asciiCase compiled.document request

/-- Workflow actions are allowed on all resources, and slugs that extend the principal's share
function names with it. -/
theorem allowed_on_other_tenant :
    (normalizeTenantSlug asciiCase (js "acme")).toOption = some (js "acme") ∧
    (normalizeTenantSlug asciiCase (js "acme-lab")).toOption = some (js "acme-lab") ∧
    labObject = bucketArn sandbox.rawBucket ++ js "/tenants/" ++ js "acme-lab" ++ js "/" ++
      js "raw/a" ∧
    (decision (requestOf (js "glue:GetTable") labObject)).toOption = some .Allow ∧
    labFunction = functionStart sandbox.region sandbox.accountId sandbox.stage ++
      js "acme-lab" ++ js "-" ++ js "x" ∧
    (decision (requestOf (js "lambda:InvokeFunction") labFunction)).toOption = some .Allow := by
  decide +kernel

theorem compiled_sandbox : compileTenantSandboxPolicy asciiCase sandbox =
    .ok ⟨js "ghost-ark-prod-acme-sandbox", sandboxDocument sandbox⟩ := rfl

/-- A function of `beta` is not `acme`'s to invoke. -/
theorem beta_not_allowed : evaluateModeledPolicy asciiCase (sandboxDocument sandbox)
    (requestOf (js "lambda:InvokeFunction") betaFunction) ≠ .ok .Allow := by
  have isFunction : IsTenantFunction asciiCase sandbox (js "acme") (js "beta") betaFunction := by
    refine ⟨functionStart, List.mem_cons_self, sandbox.region, sandbox.accountId, sandbox.stage,
      js "x", by decide, by decide, List.mem_cons_self, by decide +kernel, ?_⟩
    rw [← List.isPrefixOf_iff_prefix]
    decide
  have notWorkflow : ¬ Acts asciiCase workflowActions
      (requestOf (js "lambda:InvokeFunction") betaFunction) := by
    rintro ⟨action, member, same⟩
    revert same
    revert action
    decide +kernel
  have notRole : ¬ Acts asciiCase [js "iam:PassRole"]
      (requestOf (js "lambda:InvokeFunction") betaFunction) := by
    rintro ⟨action, member, same⟩
    revert same
    revert action
    decide +kernel
  have isRegion : IsPlainField sandbox.region := isPlainField_of_all rfl
  have isAccount : IsPlainField sandbox.accountId := isPlainField_of_all rfl
  have isPrincipal : normalizeTenantSlug asciiCase (js "acme") = .ok (js "acme") := rfl
  have isOther : normalizeTenantSlug asciiCase (js "beta") = .ok (js "beta") := rfl
  exact tenants_isolated compiled_sandbox isPrincipal isOther (by decide) notWorkflow
    (Or.inr notRole) (.function isRegion isAccount isFunction)

end IsolationSample

end GhostArk.PolicyCompiler
