import GhostArk.PolicyCompiler.ModeledPolicy

/-!
Contract: the glob patterns of `packages/policy-compiler/src/formal/counterexampleEngine.ts`,
against what a glob denotes.

Owns the instances of a pattern, where a wildcard stands for any characters; the line terminators of
a text, which the wildcards of the translated pattern do not pass; that a value matches exactly the
patterns it is an instance of unless a wildcard has to stand for one; and which requests a statement
that denies everything denies.
-/

namespace GhostArk.PolicyCompiler

open Js
open Lib

/-- The value is the pattern with each `*` replaced by some characters, each `?` by one, and all
other characters standing for themselves. -/
def IsInstance (pattern value : JsString) : Prop :=
  Glob.Denotes (fun _ => true) ((characters pattern).map globToken) (characters value)

/-- How many characters of a text are line terminators. -/
def terminators (text : JsString) : ℕ := (characters text).countP fun character => !isDot character

section Instances

variable {pattern value : JsString}

theorem unpassed_globToken (pattern : JsString) :
    Glob.unpassed isDot ((characters pattern).map globToken) = terminators pattern := by
  rw [terminators]
  induction characters pattern with
  | nil => rfl
  | cons character rest ih =>
    rw [List.map_cons, List.countP_cons, ← ih, globToken]
    split
    next isGap =>
      rw [Glob.unpassed, isGap]
      rfl
    next =>
      split
      next isPlace =>
        rw [Glob.unpassed, isPlace]
        rfl
      next =>
        rw [Glob.unpassed]
        cases isDot character <;> rfl

theorem isInstance_self (pattern : JsString) : IsInstance pattern pattern := by
  rw [IsInstance]
  induction characters pattern with
  | nil => exact .nil
  | cons character rest ih =>
    rw [List.map_cons, globToken]
    split
    next => exact .gap [character] (fun _ _ => rfl) ih
    next =>
      split
      next => exact .place rfl ih
      next => exact .literal character ih

/-- The matcher accepts instances of the pattern only. -/
theorem isInstance_of_matches (isMatch : matchesPattern pattern value = true) :
    IsInstance pattern value := by
  rw [matchesPattern, Bool.or_eq_true, decide_eq_true_eq, Bool.and_eq_true] at isMatch
  rcases isMatch with rfl | ⟨-, matched⟩
  · exact isInstance_self pattern
  · rw [globTest, Glob.isMatch_iff] at matched
    exact matched.mono fun _ _ => rfl

theorem terminators_of_matches (isMatch : matchesPattern pattern value = true) :
    terminators value = terminators pattern := by
  rw [matchesPattern, Bool.or_eq_true, decide_eq_true_eq, Bool.and_eq_true] at isMatch
  rcases isMatch with rfl | ⟨-, matched⟩
  · rfl
  · rw [globTest, Glob.isMatch_iff] at matched
    rw [← unpassed_globToken pattern]
    exact matched.countP_eq

/-- An instance with the same line terminators is accepted. -/
theorem matches_of_isInstance (isInstance : IsInstance pattern value)
    (same : terminators value = terminators pattern) : matchesPattern pattern value = true := by
  rw [matchesPattern, Bool.or_eq_true, decide_eq_true_eq, Bool.and_eq_true]
  cases wild : hasWildcard pattern with
  | false =>
    rw [IsInstance, map_globToken (noWildcard_of_hasWildcard wild), Glob.denotes_literals_iff]
      at isInstance
    have flattened := congrArg List.flatten isInstance
    rw [flatten_characters, flatten_characters] at flattened
    exact Or.inl flattened.symm
  | true =>
    rw [globTest, Glob.isMatch_iff]
    rw [← unpassed_globToken pattern] at same
    exact Or.inr ⟨rfl, isInstance.of_countP_eq same⟩

end Instances

/-! ### Denying everything -/

theorem matchesPattern_star_iff {value : JsString} :
    matchesPattern (js "*") value = true ↔ terminators value = 0 := by
  have noTerminator : terminators (js "*") = 0 := by decide
  constructor
  · intro isMatch
    rw [terminators_of_matches isMatch, noTerminator]
  · intro none
    apply matches_of_isInstance ?_ (none.trans noTerminator.symm)
    have isGap : (characters (js "*")).map globToken = [.gap] := by decide
    rw [IsInstance, isGap, ← List.append_nil (characters value)]
    exact .gap _ (fun _ _ => rfl) .nil

/-- A statement that denies every action on every resource, on no condition. -/
structure IsBlanketDeny (statement : List (JsString × JsValue)) : Prop where
  effect : readProperty statement (js "Effect") = .string (js "Deny")
  action : readProperty statement (js "Action") = .string (js "*")
  resource : readProperty statement (js "Resource") = .string (js "*")
  condition : readProperty statement (js "Condition") = .undefined
  noExceptions : hasProperty statement (js "NotAction") = false ∧
    hasProperty statement (js "NotResource") = false

section Deny

variable {letters : LetterCase} {statement : List (JsString × JsValue)}
  {request : ModeledRequestState}

theorem statementMatches_blanket (blanket : IsBlanketDeny statement) :
    statementMatches letters statement request =
      .ok (decide (terminators (letters.toLowerCase request.action) = 0 ∧
        terminators request.resource = 0)) := by
  have lowered : letters.toLowerCase (js "*") = js "*" := by
    rw [letters.of_ascii _ (by decide)]
    decide
  have substituted : substitutePrincipalTag (js "*") request = js "*" :=
    replaceLiteral_of_noDollar (noDollar_of_all rfl) rfl
  have covered : covers letters [js "*"] [js "*"] request =
      decide (terminators (letters.toLowerCase request.action) = 0 ∧
        terminators request.resource = 0) := by
    rw [Bool.eq_iff_iff, decide_eq_true_eq, covers, Bool.and_eq_true]
    simp only [List.any_cons, List.any_nil, Bool.or_false, actionMatches, resourceMatches,
      normalizeAction, lowered, substituted, matchesPattern_star_iff]
  rw [statementMatches, blanket.noExceptions.1, blanket.noExceptions.2, blanket.action,
    blanket.resource, blanket.condition]
  simp only [Bool.or_self, Bool.false_eq_true, if_false, asArray, textOf, Option.toList_some,
    covered]
  split
  next allCovered =>
    rw [allCovered]
    rfl
  next notCovered =>
    rw [Bool.eq_false_iff.mpr notCovered]

/-- Every document that states the statement and is evaluated at all denies the request. -/
def DeniesWhereStated (letters : LetterCase) (statement : List (JsString × JsValue))
    (request : ModeledRequestState) : Prop :=
  ∀ document decision, .object statement ∈ document →
    evaluateModeledPolicy letters document request = .ok decision → decision = .Deny

theorem evaluateStatements_denied {document : List JsValue} {allowed : Bool}
    {decision : ModeledPolicyDecision} (denies : readProperty statement (js "Effect") =
      .string (js "Deny")) (isMatch : statementMatches letters statement request = .ok true)
    (stated : .object statement ∈ document)
    (evaluated : evaluateStatements letters request allowed document = .ok decision) :
    decision = .Deny := by
  induction document generalizing allowed with
  | nil => cases stated
  | cons first rest ih =>
    rw [evaluateStatements] at evaluated
    cases isRecord : recordEntries first with
    | none =>
      rw [isRecord] at evaluated
      cases evaluated
    | some entries =>
      rw [isRecord] at evaluated
      rcases bind_eq_ok.mp evaluated with ⟨firstMatch, matched, goesOn⟩
      have isHere (here : .object statement = first) :
          firstMatch = true ∧ readProperty entries (js "Effect") = .string (js "Deny") := by
        subst here
        cases isRecord
        rw [isMatch] at matched
        injection matched with isTrue
        exact ⟨isTrue.symm, denies⟩
      -- every way on denies or goes to the rest, which holds the statement if it is not here
      simp only at goesOn
      split at goesOn
      next unmatched =>
        rcases List.mem_cons.mp stated with here | later
        · rw [(isHere here).1] at unmatched
          cases unmatched
        · exact ih later goesOn
      next =>
        split at goesOn
        next =>
          injection goesOn with isDeny
          exact isDeny.symm
        next noDeny =>
          rcases List.mem_cons.mp stated with here | later
          · rw [(isHere here).2] at noDeny
            exact absurd (by decide) noDeny
          · exact ih later goesOn

theorem deniesWhereStated_iff (blanket : IsBlanketDeny statement) :
    DeniesWhereStated letters statement request ↔
      terminators (letters.toLowerCase request.action) = 0 ∧ terminators request.resource = 0 := by
  have decided := @statementMatches_blanket letters statement request blanket
  constructor
  · intro denies
    by_contra passed
    rw [decide_eq_false passed] at decided
    have alone : evaluateModeledPolicy letters [.object statement] request = .ok .ImplicitDeny := by
      have isRecord : recordEntries (.object statement) = some statement := rfl
      rw [evaluateModeledPolicy, evaluateStatements, isRecord]
      simp only [decided]
      rfl
    cases denies _ _ List.mem_cons_self alone
  · intro plain document decision stated evaluated
    rw [decide_eq_true plain] at decided
    exact evaluateStatements_denied blanket.effect decided stated evaluated

end Deny

/-- A value matches exactly the patterns it is an instance of, if and only if no wildcard has to
stand for a line terminator; and a statement that denies everything denies exactly the requests
without one. -/
theorem matchesInstances_iff (letters : LetterCase) (pattern value : JsString)
    (statement : List (JsString × JsValue)) (request : ModeledRequestState)
    (blanket : IsBlanketDeny statement) :
    ((matchesPattern pattern value = true ↔ IsInstance pattern value) ↔
      (IsInstance pattern value → terminators value = terminators pattern)) ∧
    (DeniesWhereStated letters statement request ↔
      terminators (letters.toLowerCase request.action) = 0 ∧
        terminators request.resource = 0) := by
  constructor
  · constructor
    · intro matchesExactly isInstance
      exact terminators_of_matches (matchesExactly.mpr isInstance)
    · intro same
      constructor
      · exact isInstance_of_matches
      · intro isInstance
        exact matches_of_isInstance isInstance (same isInstance)
  · exact deniesWhereStated_iff blanket

namespace PatternSample

def denyAll : List (JsString × JsValue) :=
  [(js "Effect", .string (js "Deny")), (js "Action", .string (js "*")),
    (js "Resource", .string (js "*"))]

theorem denyAll_blanket : IsBlanketDeny denyAll where
  effect := rfl
  action := rfl
  resource := rfl
  condition := rfl
  noExceptions := by decide

def request (resource : JsString) : ModeledRequestState where
  action := js "s3:GetObject"
  resource := resource
  principalSlug := js "acme"
  conditionContext := none

theorem plainValue_matches :
    ((matchesPattern (js "a*c") (js "abc") = true ↔ IsInstance (js "a*c") (js "abc")) ↔
      (IsInstance (js "a*c") (js "abc") → terminators (js "abc") = terminators (js "a*c"))) ∧
    (DeniesWhereStated asciiCase denyAll (request (js "abc")) ↔
      terminators (asciiCase.toLowerCase (js "s3:GetObject")) = 0 ∧
        terminators (js "abc") = 0) :=
  matchesInstances_iff asciiCase (js "a*c") (js "abc") denyAll (request (js "abc"))
    denyAll_blanket

/-- A resource of two lines is an instance of `*`, is not matched by it, and passes a statement
that denies everything. -/
theorem secondLine_passes :
    ¬ ((∀ pattern value, matchesPattern pattern value = true ↔ IsInstance pattern value) ∧
      ∀ (letters : LetterCase) (statement : List (JsString × JsValue))
        (request : ModeledRequestState), IsBlanketDeny statement →
          DeniesWhereStated letters statement request) ∧
    IsInstance (js "*") (js "a\nb") ∧ matchesPattern (js "*") (js "a\nb") = false ∧
    evaluateModeledPolicy asciiCase [.object denyAll] (request (js "a\nb")) =
      .ok .ImplicitDeny := by
  have isInstance : IsInstance (js "*") (js "a\nb") := by
    have isGap : (characters (js "*")).map globToken = [.gap] := by decide
    rw [IsInstance, isGap, ← List.append_nil (characters (js "a\nb"))]
    exact .gap _ (fun _ _ => rfl) .nil
  have unmatched : matchesPattern (js "*") (js "a\nb") = false := by decide +kernel
  refine ⟨?_, isInstance, unmatched, rfl⟩
  intro claimed
  have matched := (claimed.1 _ _).mpr isInstance
  rw [unmatched] at matched
  cases matched

end PatternSample

end GhostArk.PolicyCompiler
