import GhostArk.Js.Coercion
import GhostArk.Js.Collections
import GhostArk.Js.LetterCase
import GhostArk.Js.Replacement
import GhostArk.Lib.Glob

/-!
Contract: the policy model of `packages/policy-compiler/src/formal/counterexampleEngine.ts`.

Owns requests, glob patterns over names, the substitution of the principal's slug,
conditions, statements, and the decision over a policy document.

Documents and statements are any values, so every error path is there; the verifier that
searches for counterexamples is not owned.
-/

namespace GhostArk.PolicyCompiler

open Js
open Lib

inductive ContextValue where
  | text (value : JsString)
  | texts (values : List JsString)
  | flag (value : Bool)
  | null
deriving DecidableEq

structure ModeledRequestState where
  action : JsString
  resource : JsString
  principalSlug : JsString
  conditionContext : Option (List (JsString × ContextValue))
deriving DecidableEq

def flagText (value : Bool) : JsString := if value then js "true" else js "false"

/-- The texts observed of a value; none of `null`. -/
def ContextValue.observed : ContextValue → Option (List JsString)
  | .text value => some [value]
  | .texts values => some values
  | .flag value => some [flagText value]
  | .null => none

def principalTagKey : JsString := js "aws:PrincipalTag/slug"

/-- The texts observed of `requestContextValue(request, key)`; none of `undefined` and `null`. -/
def observedValues (request : ModeledRequestState) (key : JsString) : Option (List JsString) :=
  if key = principalTagKey then some [request.principalSlug]
  else
    request.conditionContext.bind fun context =>
      match context.find? fun entry => entry.1 = key with
      | some entry => entry.2.observed
      | none => if key ∈ objectPrototypeKeys then some [inheritedText key] else none

/-! ### Patterns -/

def hasWildcard (pattern : JsString) : Bool :=
  pattern.any fun codeUnit => codeUnit == unit '*' || codeUnit == unit '?'

/-- `.` of a regular expression: any character but a line terminator. -/
def isDot (character : JsString) : Bool :=
  character ∉ ([[0x0A], [0x0D], [0x2028], [0x2029]] : List JsString)

def globToken (character : JsString) : GlobToken JsString :=
  if character = [unit '*'] then .gap
  else if character = [unit '?'] then .place
  else .literal character

/-- `globToRegExp(pattern).test(value)`, by characters. -/
def globTest (pattern value : JsString) : Bool :=
  Glob.isMatch isDot ((characters pattern).map globToken) (characters value)

def matchesPattern (pattern value : JsString) : Bool :=
  pattern = value || hasWildcard pattern && globTest pattern value

/-- `${aws:PrincipalTag/slug}`. -/
def principalSlugVariable : JsString := js "$\x7baws:PrincipalTag/slug\x7d"

def substitutePrincipalTag (value : JsString) (request : ModeledRequestState) : JsString :=
  replaceLiteral principalSlugVariable request.principalSlug value

def resourceMatches (pattern : JsString) (request : ModeledRequestState) : Bool :=
  matchesPattern (substitutePrincipalTag pattern request) request.resource

theorem flatten_characters (text : JsString) : (characters text).flatten = text := by
  fun_induction characters text with
  | case1 => rfl
  | case2 single => rfl
  | case3 first second rest isPair ih =>
    rw [List.flatten_cons, ih]
    rfl
  | case4 first second rest noPair ih =>
    rw [List.flatten_cons, ih]
    rfl

theorem characters_append {start : JsString} (rest : JsString)
    (whole : ∀ last ∈ start.getLast?, isHighSurrogate last = false) :
    characters (start ++ rest) = characters start ++ characters rest := by
  fun_induction characters start with
  | case1 => rfl
  | case2 single =>
    have notHigh := whole single rfl
    cases rest with
    | nil => rfl
    | cons first later =>
      rw [List.singleton_append, characters, notHigh, Bool.false_and]
      rfl
  | case3 first second rest' isPair ih =>
    rw [List.cons_append, List.cons_append, characters, if_pos isPair, ih]
    · rfl
    · intro last isLast
      cases rest' with
      | nil => cases isLast
      | cons third later => exact whole last isLast
  | case4 first second rest' noPair ih =>
    rw [List.cons_append, List.cons_append, characters, if_neg noPair, ← List.cons_append,
      ih]
    · rfl
    · exact whole

/-- A text that a pattern holds as it is. -/
def NoWildcard (text : JsString) : Prop :=
  ∀ codeUnit ∈ text, codeUnit ≠ unit '*' ∧ codeUnit ≠ unit '?'

theorem noWildcard_of_hasWildcard {text : JsString} (none : hasWildcard text = false) :
    NoWildcard text := by
  intro codeUnit member
  rw [hasWildcard, List.any_eq_false] at none
  have plain := none codeUnit member
  rw [Bool.or_eq_true, beq_iff_eq, beq_iff_eq, not_or] at plain
  exact plain

theorem map_globToken {text : JsString} (plain : NoWildcard text) :
    (characters text).map globToken = (characters text).map .literal := by
  apply List.map_congr_left
  intro character member
  have isPlain (wildcard : CodeUnit) (absent : wildcard ∉ text) : character ≠ [wildcard] := by
    rintro rfl
    apply absent
    rw [← flatten_characters text]
    exact List.mem_flatten.mpr ⟨_, member, List.mem_singleton_self wildcard⟩
  rw [globToken, if_neg (isPlain _ fun inText => (plain _ inText).1 rfl),
    if_neg (isPlain _ fun inText => (plain _ inText).2 rfl)]

theorem matchesPattern_start {start rest value : JsString} (plain : NoWildcard start)
    (whole : ∀ last ∈ start.getLast?, isHighSurrogate last = false)
    (isMatch : matchesPattern (start ++ rest) value = true) : start <+: value := by
  rw [matchesPattern, Bool.or_eq_true, decide_eq_true_eq, Bool.and_eq_true] at isMatch
  rcases isMatch with same | ⟨_, matched⟩
  · rw [← same]
    exact List.prefix_append start rest
  · rw [globTest, characters_append rest whole, List.map_append, map_globToken plain,
      Glob.isMatch_iff] at matched
    rcases matched.literalStart with ⟨later, split, _⟩
    have flattened := congrArg List.flatten split
    rw [List.flatten_append, flatten_characters, flatten_characters] at flattened
    rw [flattened]
    exact List.prefix_append start _

theorem matchesPattern_plain {pattern value : JsString} (plain : NoWildcard pattern)
    (isMatch : matchesPattern pattern value = true) : pattern = value := by
  rw [matchesPattern, Bool.or_eq_true, decide_eq_true_eq, Bool.and_eq_true] at isMatch
  rcases isMatch with same | ⟨wild, _⟩
  · exact same
  · rw [hasWildcard, List.any_eq_true] at wild
    rcases wild with ⟨codeUnit, member, isWild⟩
    rw [Bool.or_eq_true, beq_iff_eq, beq_iff_eq] at isWild
    rcases isWild with isGap | isPlace
    · exact absurd isGap (plain codeUnit member).1
    · exact absurd isPlace (plain codeUnit member).2

/-! ### Conditions -/

def textOf : JsValue → Option JsString
  | .string value => some value
  | _ => none

def asArray : JsValue → List JsString
  | .array items => items.filterMap textOf
  | value => (textOf value).toList

def conditionText : JsValue → Option JsString
  | .string value => some value
  | .bool value => some (flagText value)
  | _ => none

def asConditionValues : JsValue → List JsString
  | .array items => items.filterMap conditionText
  | value => (conditionText value).toList

inductive MatchOperator where
  | equals
  | like
deriving DecidableEq

def valuesMatchPolicyValue (observed : Option (List JsString)) (policyValues : List JsString)
    (request : ModeledRequestState) (operator : MatchOperator) : Bool :=
  let expectedValues := policyValues.map fun value => substitutePrincipalTag value request
  match observed with
  | none => false
  | some observedValues =>
    match operator with
    | .equals => observedValues.any fun value => value ∈ expectedValues
    | .like => observedValues.any fun value =>
      expectedValues.any fun expected => matchesPattern expected value

def allValuesEqual (observed : Option (List JsString)) (policyValues : List JsString)
    (request : ModeledRequestState) : Bool :=
  let expectedValues := policyValues.map fun value => substitutePrincipalTag value request
  match observed with
  | none => false
  | some observedValues =>
    observedValues ≠ [] && observedValues.all fun value => value ∈ expectedValues

def allowedConditionOperators : List JsString :=
  [js "StringEquals", js "ForAllValues:StringEquals", js "StringLike", js "StringNotEquals",
    js "Null"]

def keyMatches (operator : JsString) (request : ModeledRequestState) (key : JsString)
    (policyValue : JsValue) : Bool :=
  let values := asConditionValues policyValue
  let observed := observedValues request key
  if operator = js "StringEquals" then valuesMatchPolicyValue observed values request .equals
  else if operator = js "ForAllValues:StringEquals" then allValuesEqual observed values request
  else if operator = js "StringLike" then valuesMatchPolicyValue observed values request .like
  else if operator = js "StringNotEquals" then
    !valuesMatchPolicyValue observed values request .equals
  else if operator = js "Null" then observed.isNone == decide (js "true" ∈ values)
  else true

def operatorsMatch (request : ModeledRequestState) :
    List (JsString × JsValue) → Except JsError Bool
  | [] => .ok true
  | (operator, block) :: rest =>
    if operator ∉ allowedConditionOperators then
      .error (.plain (js "Unsupported condition operator " ++ operator))
    else
      match recordEntries block with
      | none => .error (.plain (js "Unsupported condition block for " ++ operator))
      | some keys =>
        if (objectOrder keys).all fun entry => keyMatches operator request entry.1 entry.2 then
          operatorsMatch request rest
        else .ok false

def conditionMatches (condition : JsValue) (request : ModeledRequestState) : Except JsError Bool :=
  match condition with
  | .undefined => .ok true
  | condition =>
    match recordEntries condition with
    | none => .error (.plain (js "Unsupported condition shape"))
    | some operators => operatorsMatch request (objectOrder operators)

section Statements

variable (letters : LetterCase)

def normalizeAction (action : JsString) : JsString := letters.toLowerCase action

def actionMatches (pattern action : JsString) : Bool :=
  matchesPattern (normalizeAction letters pattern) (normalizeAction letters action)

/-- `statement.action` and `statement.resource` cover the request. -/
def covers (actions resources : List JsString) (request : ModeledRequestState) : Bool :=
  (actions.any fun action => actionMatches letters action request.action) &&
    resources.any fun resource => resourceMatches resource request

def statementMatches (statement : List (JsString × JsValue)) (request : ModeledRequestState) :
    Except JsError Bool :=
  if hasProperty statement (js "NotAction") || hasProperty statement (js "NotResource") then
    .error (.plain
      (js "NotAction and NotResource are outside the Ghost-Ark tenant sandbox model"))
  else if covers letters (asArray (readProperty statement (js "Action")))
      (asArray (readProperty statement (js "Resource"))) request then
    conditionMatches (readProperty statement (js "Condition")) request
  else .ok false

inductive ModeledPolicyDecision where
  | Allow
  | Deny
  | ImplicitDeny
deriving DecidableEq

def isText (text : JsString) : JsValue → Bool
  | .string value => value = text
  | _ => false

/-- The loop of `evaluateModeledPolicy`, with whether a statement has allowed the request. -/
def evaluateStatements (request : ModeledRequestState) :
    Bool → List JsValue → Except JsError ModeledPolicyDecision
  | allowed, [] => .ok (if allowed then .Allow else .ImplicitDeny)
  | allowed, statement :: rest =>
    match recordEntries statement with
    | none => .error (.plain (js "Malformed IAM statement"))
    | some entries => do
      let isMatch ← statementMatches letters entries request
      let effect := readProperty entries (js "Effect")
      if !isMatch then evaluateStatements request allowed rest
      else if isText (js "Deny") effect then .ok .Deny
      else evaluateStatements request (allowed || isText (js "Allow") effect) rest

def evaluateModeledPolicy (document : List JsValue) (request : ModeledRequestState) :
    Except JsError ModeledPolicyDecision :=
  evaluateStatements letters request false document

variable {letters}

theorem exists_allow {document : List JsValue} {request : ModeledRequestState}
    (allowed : evaluateModeledPolicy letters document request = .ok .Allow) :
    ∃ statement ∈ document, ∃ entries, recordEntries statement = some entries ∧
      isText (js "Allow") (readProperty entries (js "Effect")) = true ∧
        statementMatches letters entries request = .ok true := by
  rw [evaluateModeledPolicy] at allowed
  have general : ∀ before, evaluateStatements letters request before document = .ok .Allow →
      before = true ∨ ∃ statement ∈ document, ∃ entries, recordEntries statement = some entries ∧
        isText (js "Allow") (readProperty entries (js "Effect")) = true ∧
          statementMatches letters entries request = .ok true := by
    clear allowed
    induction document with
    | nil =>
      intro before evaluated
      rw [evaluateStatements] at evaluated
      cases before with
      | true => exact Or.inl rfl
      | false => cases evaluated
    | cons statement rest ih =>
      intro before evaluated
      have later (before' : Bool)
          (goesOn : evaluateStatements letters request before' rest = .ok .Allow)
          (unchanged : before' = before) :
          before = true ∨ ∃ other ∈ statement :: rest, ∃ entries,
            recordEntries other = some entries ∧
              isText (js "Allow") (readProperty entries (js "Effect")) = true ∧
                statementMatches letters entries request = .ok true := by
        rcases ih before' goesOn with isBefore | ⟨other, member, found⟩
        · exact Or.inl (unchanged ▸ isBefore)
        · exact Or.inr ⟨other, List.mem_cons_of_mem _ member, found⟩
      rw [evaluateStatements] at evaluated
      cases isRecord : recordEntries statement with
      | none =>
        rw [isRecord] at evaluated
        cases evaluated
      | some entries =>
        rw [isRecord] at evaluated
        rcases bind_eq_ok.mp evaluated with ⟨isMatch, matched, goesOn⟩
        cases isMatch with
        | false => exact later before goesOn rfl
        | true =>
          simp only [Bool.not_true, Bool.false_eq_true, if_false] at goesOn
          split at goesOn
          next => cases goesOn
          next =>
            cases allows : isText (js "Allow") (readProperty entries (js "Effect")) with
            | false =>
              rw [allows, Bool.or_false] at goesOn
              exact later before goesOn rfl
            | true =>
              exact Or.inr ⟨statement, List.mem_cons_self, entries, isRecord, allows,
                matched⟩
  rcases general false allowed with impossible | found
  · cases impossible
  · exact found

end Statements

end GhostArk.PolicyCompiler
