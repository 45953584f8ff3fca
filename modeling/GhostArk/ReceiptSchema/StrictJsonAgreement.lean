import GhostArk.ReceiptSchema.DuplicateKeyDetection
import GhostArk.ReceiptSchema.ScanPositions
import Mathlib.Data.List.DropRight

/-!
Contract: the admission scanner against `JSON.parse`, over all texts.

Owns the tokens of a text (number runs outside of strings, and strings), their preservation by the
parser, the parser's success wherever the scanner succeeds over such tokens, and when the gate
`isStrictlyAdmissible` agrees with `parseStrictJson`.

The scanner reads objects, arrays, keywords and escapes as `JSON.parse` does. Its numbers are
looser (a plus sign, leading zeros, missing digits), and so are its strings (bare control units).
-/

namespace GhostArk.ReceiptSchema

open Js Js.JsonGrammar

/-! ### Tokens -/

/-- What follows a string whose opening quote has been read; nothing, if the string holds a bare
control unit. -/
def stringRest : JsString → Option JsString
  | [] => some []
  | first :: rest =>
    if first = unit '"' then some rest
    else if first = unit '\\' then
      match rest with
      | [] => some []
      | _ :: after => stringRest after
    else if first.val < 0x20 then none
    else stringRest rest

theorem length_of_stringRest {text rest : JsString} (isRest : stringRest text = some rest) :
    rest.length ≤ text.length := by
  fun_induction stringRest text with
  | case1 => rw [← Option.some.inj isRest]
  | case2 => exact Option.some.inj isRest ▸ Nat.le_succ _
  | case3 => exact Option.some.inj isRest ▸ Nat.zero_le _
  | case4 first after _ ih =>
    have shorter := ih isRest
    simp only [List.length_cons]
    omega
  | case5 => cases isRest
  | case6 first tail _ _ _ ih =>
    exact Nat.le_succ_of_le (ih isRest)

/-- Outside of strings and keywords each run of number units is a JSON number, and no string holds
a bare control unit. -/
def tokensAreJson (text : JsString) : Bool :=
  match text with
  | [] => true
  | first :: rest =>
    if first = unit '"' then
      match _isRest : stringRest rest with
      | none => false
      | some after => tokensAreJson after
    else if isNumberUnit first then
      isJsonNumber (first :: rest.takeWhile isNumberUnit) &&
        tokensAreJson (rest.dropWhile isNumberUnit)
    else if (js "true").isPrefixOf (first :: rest) then tokensAreJson (rest.drop 3)
    else if (js "false").isPrefixOf (first :: rest) then tokensAreJson (rest.drop 4)
    else tokensAreJson rest
termination_by text.length
decreasing_by
  · exact Nat.lt_succ_of_le (length_of_stringRest _isRest)
  · exact Nat.lt_succ_of_le (List.dropWhile_suffix _).length_le
  · exact Nat.lt_succ_of_le (List.length_drop ▸ Nat.sub_le _ _)
  · exact Nat.lt_succ_of_le (List.length_drop ▸ Nat.sub_le _ _)
  · exact Nat.lt_succ_self _

theorem stringRest_quote (rest : JsString) : stringRest (unit '"' :: rest) = some rest := by
  rw [stringRest.eq_def]
  dsimp only
  rw [if_pos rfl]

variable {first : CodeUnit}

theorem stringRest_plain (notQuote : first ≠ unit '"') (notEscape : first ≠ unit '\\')
    (notControl : ¬ first.val < 0x20) (rest : JsString) :
    stringRest (first :: rest) = stringRest rest := by
  rw [stringRest.eq_def]
  dsimp only
  rw [if_neg notQuote, if_neg notEscape, if_neg notControl]

theorem tokensAreJson_quote (rest : JsString) :
    tokensAreJson (unit '"' :: rest) = (stringRest rest).elim false tokensAreJson := by
  rw [tokensAreJson, if_pos rfl]
  split
  next isNone => rw [isNone]; rfl
  next after isRest => rw [isRest]; rfl

theorem tokensAreJson_number (isNumber : isNumberUnit first = true) (rest : JsString) :
    tokensAreJson (first :: rest) =
      (isJsonNumber (first :: rest.takeWhile isNumberUnit) &&
        tokensAreJson (rest.dropWhile isNumberUnit)) := by
  have notQuote : first ≠ unit '"' := by
    rintro rfl
    revert isNumber
    decide
  rw [tokensAreJson, if_neg notQuote, if_pos isNumber]

def isGap (codeUnit : CodeUnit) : Bool :=
  codeUnit != unit '"' && !isNumberUnit codeUnit && codeUnit != unit 't' && codeUnit != unit 'f'

theorem not_true_of_ne (notT : first ≠ unit 't') (rest : JsString) :
    (js "true").isPrefixOf (first :: rest) = false := by
  change (unit 't' == first && (js "rue").isPrefixOf rest) = false
  rw [beq_false_of_ne (Ne.symm notT), Bool.false_and]

theorem not_false_of_ne (notF : first ≠ unit 'f') (rest : JsString) :
    (js "false").isPrefixOf (first :: rest) = false := by
  change (unit 'f' == first && (js "alse").isPrefixOf rest) = false
  rw [beq_false_of_ne (Ne.symm notF), Bool.false_and]

theorem tokensAreJson_gap (gap : isGap first = true) (rest : JsString) :
    tokensAreJson (first :: rest) = tokensAreJson rest := by
  simp only [isGap, Bool.and_eq_true, bne_iff_ne, Bool.not_eq_true'] at gap
  rcases gap with ⟨⟨⟨notQuote, notNumber⟩, notT⟩, notF⟩
  rw [tokensAreJson, if_neg notQuote, notNumber, not_true_of_ne notT, not_false_of_ne notF]
  rfl

theorem tokensAreJson_gaps {gaps : JsString} (all : ∀ codeUnit ∈ gaps, isGap codeUnit = true)
    (rest : JsString) : tokensAreJson (gaps ++ rest) = tokensAreJson rest := by
  induction gaps with
  | nil => rfl
  | cons first others ih =>
    rw [List.forall_mem_cons] at all
    rw [List.cons_append, tokensAreJson_gap all.1, ih all.2]

theorem isGap_null : ∀ codeUnit ∈ js "null", isGap codeUnit = true := by
  have isText : js "null" = [unit 'n', unit 'u', unit 'l', unit 'l'] := by decide
  rw [isText]
  simp only [List.forall_mem_cons]
  exact ⟨by decide, by decide, by decide, by decide, List.forall_mem_nil _⟩

theorem tokensAreJson_true (rest : JsString) :
    tokensAreJson (js "true" ++ rest) = tokensAreJson rest := by
  have isTrue : (js "true").isPrefixOf (unit 't' :: (js "rue" ++ rest)) = true :=
    List.isPrefixOf_iff_prefix.mpr ⟨rest, rfl⟩
  change tokensAreJson (unit 't' :: (js "rue" ++ rest)) = _
  rw [tokensAreJson, if_neg (by decide), if_neg (by decide), if_pos isTrue]
  rfl

theorem tokensAreJson_false (rest : JsString) :
    tokensAreJson (js "false" ++ rest) = tokensAreJson rest := by
  have isFalse : (js "false").isPrefixOf (unit 'f' :: (js "alse" ++ rest)) = true :=
    List.isPrefixOf_iff_prefix.mpr ⟨rest, rfl⟩
  change tokensAreJson (unit 'f' :: (js "alse" ++ rest)) = _
  rw [tokensAreJson, if_neg (by decide), if_neg (by decide), not_true_of_ne (by decide),
    if_neg Bool.false_ne_true, if_pos isFalse]
  rfl

theorem isGap_of_isWhitespace {codeUnit : CodeUnit} (blank : isWhitespace codeUnit = true) :
    isGap codeUnit = true := by
  rcases isWhitespace_cases blank with rfl | rfl | rfl | rfl
  all_goals decide

theorem tokensAreJson_skipWhitespace (text : JsString) :
    tokensAreJson (skipWhitespace text) = tokensAreJson text := by
  have blanks : ∀ codeUnit ∈ text.takeWhile isWhitespace, isGap codeUnit = true :=
    fun _ member => isGap_of_isWhitespace (List.mem_takeWhile_imp member)
  have split := tokensAreJson_gaps blanks (skipWhitespace text)
  rw [skipWhitespace, List.takeWhile_append_dropWhile] at split
  exact split.symm

/-! ### What the parser steps over -/

private theorem hexValue_plain {codeUnit : CodeUnit} {value : Nat}
    (isHex : hexValue codeUnit = some value) :
    codeUnit ≠ unit '"' ∧ codeUnit ≠ unit '\\' ∧ ¬ codeUnit.val < 0x20 := by
  have quote : hexValue (unit '"') = none := by decide
  have escape : hexValue (unit '\\') = none := by decide
  refine ⟨?_, ?_, ?_⟩
  · rintro rfl
    cases quote.symm.trans isHex
  · rintro rfl
    cases escape.symm.trans isHex
  · intro control
    have zero : '0'.toNat = 48 := rfl
    have lower : 'a'.toNat = 97 := rfl
    have upper : 'A'.toNat = 65 := rfl
    unfold hexValue at isHex
    simp only [isDigit, inRange, zero, lower, upper] at isHex
    rw [if_neg (by simp; omega), if_neg (by simp; omega), if_neg (by simp; omega)] at isHex
    cases isHex

private theorem stringRest_hexUnit {d3 d2 d1 d0 value : CodeUnit}
    (isUnit : hexUnit d3 d2 d1 d0 = some value) (rest : JsString) :
    stringRest (d3 :: d2 :: d1 :: d0 :: rest) = stringRest rest := by
  unfold hexUnit at isUnit
  rcases Option.bind_eq_some_iff.mp isUnit with ⟨v3, is3, isUnit⟩
  rcases Option.bind_eq_some_iff.mp isUnit with ⟨v2, is2, isUnit⟩
  rcases Option.bind_eq_some_iff.mp isUnit with ⟨v1, is1, isUnit⟩
  rcases Option.bind_eq_some_iff.mp isUnit with ⟨v0, is0, _⟩
  rcases hexValue_plain is3 with ⟨notQuote3, notEscape3, visible3⟩
  rcases hexValue_plain is2 with ⟨notQuote2, notEscape2, visible2⟩
  rcases hexValue_plain is1 with ⟨notQuote1, notEscape1, visible1⟩
  rcases hexValue_plain is0 with ⟨notQuote0, notEscape0, visible0⟩
  rw [stringRest_plain notQuote3 notEscape3 visible3,
    stringRest_plain notQuote2 notEscape2 visible2,
    stringRest_plain notQuote1 notEscape1 visible1,
    stringRest_plain notQuote0 notEscape0 visible0]

private theorem stringRest_escape (escape : CodeUnit) (rest : JsString) :
    stringRest (unit '\\' :: escape :: rest) = stringRest rest := by
  rw [stringRest.eq_def]
  dsimp only
  rw [if_neg (by decide), if_pos rfl]

theorem stringRest_of_parse {text value rest : JsString}
    (parsed : parseStringBody text = some (value, rest)) : stringRest text = some rest := by
  fun_induction parseStringBody text generalizing value with
  | case1 => cases parsed
  | case2 after =>
    cases parsed
    exact stringRest_quote _
  | case3 => cases parsed
  | case4 d3 d2 d1 d0 more _ ih =>
    rcases Option.bind_eq_some_iff.mp parsed with ⟨decoded, isUnit, others⟩
    rcases Option.map_eq_some_iff.mp others with ⟨read, isRead, same⟩
    cases same
    rw [stringRest_escape, stringRest_hexUnit isUnit]
    exact ih isRead
  | case5 => cases parsed
  | case6 letter after _ _ ih =>
    rcases Option.bind_eq_some_iff.mp parsed with ⟨decoded, _, others⟩
    rcases Option.map_eq_some_iff.mp others with ⟨read, isRead, same⟩
    cases same
    rw [stringRest_escape]
    exact ih isRead
  | case7 => cases parsed
  | case8 first after notQuote notEscape visible ih =>
    rcases Option.map_eq_some_iff.mp parsed with ⟨read, isRead, same⟩
    cases same
    rw [stringRest_plain notQuote notEscape visible]
    exact ih isRead

variable {cursor : Cursor}

theorem exists_parse_of_readChars {index : Nat} {decoded text value rest : JsString}
    (read : readChars index decoded text = .ok (value, cursor))
    (isRest : stringRest text = some rest) :
    rest = cursor.rest ∧ ∃ parsed, parseStringBody text = some (parsed, cursor.rest) := by
  fun_induction readChars index decoded text with
  | case1 => cases read
  | case2 index decoded after =>
    cases read
    rw [stringRest_quote] at isRest
    refine ⟨(Option.some.inj isRest).symm, [], ?_⟩
    rw [parseStringBody.eq_def]
    dsimp only
    rw [if_pos rfl]
  | case3 => cases read
  | case4 index decoded d3 d2 d1 d0 more character isUnit _ ih =>
    rw [stringRest_escape, stringRest_hexUnit isUnit] at isRest
    rcases ih read isRest with ⟨same, parsed, isParsed⟩
    refine ⟨same, character :: parsed, ?_⟩
    rw [parseStringBody.eq_def]
    dsimp only
    rw [if_neg (by decide), if_pos rfl, if_pos rfl, isUnit, Option.bind_some, isParsed]
    rfl
  | case5 => cases read
  | case6 => cases read
  | case7 index decoded letter after notU character isSimple _ ih =>
    rw [stringRest_escape] at isRest
    rcases ih read isRest with ⟨same, parsed, isParsed⟩
    refine ⟨same, character :: parsed, ?_⟩
    rw [parseStringBody.eq_def]
    dsimp only
    rw [if_neg (by decide), if_pos rfl, if_neg notU, isSimple, Option.bind_some, isParsed]
    rfl
  | case8 => cases read
  | case9 index decoded first after notQuote notEscape ih =>
    have visible : ¬ first.val < 0x20 := by
      intro control
      rw [stringRest.eq_def] at isRest
      dsimp only at isRest
      rw [if_neg notQuote, if_neg notEscape, if_pos control] at isRest
      cases isRest
    rw [stringRest_plain notQuote notEscape visible] at isRest
    rcases ih read isRest with ⟨same, parsed, isParsed⟩
    refine ⟨same, first :: parsed, ?_⟩
    rw [parseStringBody.eq_def]
    dsimp only
    rw [if_neg notQuote, if_neg notEscape, if_neg visible, isParsed]
    rfl

section Parse

variable (numbers : NumberText)

theorem tokensAreJson_numberRun {text : JsString}
    (isNumber : isJsonNumber (text.takeWhile isNumberUnit) = true) :
    tokensAreJson text = tokensAreJson (text.dropWhile isNumberUnit) := by
  cases text with
  | nil => rfl
  | cons first rest =>
    by_cases numeric : isNumberUnit first = true
    · rw [List.takeWhile_cons_of_pos numeric] at isNumber
      rw [List.dropWhile_cons_of_pos numeric, tokensAreJson_number numeric, isNumber,
        Bool.true_and]
    · rw [List.dropWhile_cons_of_neg numeric]

theorem tokensAreJson_parseScalar {first : CodeUnit} {rest after : JsString} {value : JsValue}
    (parsed : parseScalar numbers (first :: rest) = some (value, after)) :
    tokensAreJson (first :: rest) = tokensAreJson after := by
  unfold parseScalar at parsed
  split at parsed
  next isTrue =>
    rcases List.isPrefixOf_iff_prefix.mp isTrue with ⟨tail, isText⟩
    rw [← isText] at parsed ⊢
    cases parsed
    exact tokensAreJson_true tail
  next =>
    split at parsed
    next isFalse =>
      rcases List.isPrefixOf_iff_prefix.mp isFalse with ⟨tail, isText⟩
      rw [← isText] at parsed ⊢
      cases parsed
      exact tokensAreJson_false tail
    next =>
      split at parsed
      next isNull =>
        rcases List.isPrefixOf_iff_prefix.mp isNull with ⟨tail, isText⟩
        rw [← isText] at parsed ⊢
        cases parsed
        exact tokensAreJson_gaps isGap_null tail
      next =>
        dsimp only at parsed
        split at parsed
        next isNumber =>
          cases parsed
          exact tokensAreJson_numberRun isNumber
        next => cases parsed

/-- With this fuel the parser steps over JSON tokens only. -/
structure StepsOverJsonTokens (fuel : Nat) : Prop where
  value : ∀ {text rest : JsString} {read : JsValue},
    parseValue numbers fuel text = some (read, rest) → tokensAreJson text = tokensAreJson rest
  items : ∀ {text rest : JsString} {read : List JsValue},
    parseItems numbers fuel text = some (read, rest) → tokensAreJson text = tokensAreJson rest
  members : ∀ {text rest : JsString} {read : List (JsString × JsValue)},
    parseMembers numbers fuel text = some (read, rest) → tokensAreJson text = tokensAreJson rest

section Step

variable {numbers} {fuel : Nat} (steps : StepsOverJsonTokens numbers fuel)
include steps

theorem tokensAreJson_parseValue {text rest : JsString} {value : JsValue}
    (parsed : parseValue numbers (fuel + 1) text = some (value, rest)) :
    tokensAreJson text = tokensAreJson rest := by
  rw [parseValue] at parsed
  rw [← tokensAreJson_skipWhitespace]
  split at parsed
  next => cases parsed
  next first tail isText =>
    rw [isText]
    split at parsed
    next isQuote =>
      rcases Option.map_eq_some_iff.mp parsed with ⟨read, isRead, same⟩
      cases same
      rw [isQuote, tokensAreJson_quote, stringRest_of_parse isRead]
      rfl
    next =>
      split at parsed
      next isBracket =>
        rw [isBracket, tokensAreJson_gap (by decide)]
        split at parsed
        next closes =>
          rcases List.head?_eq_some_iff.mp closes with ⟨after, isAfter⟩
          cases parsed
          rw [← tokensAreJson_skipWhitespace, isAfter, tokensAreJson_gap (by decide)]
          rfl
        next =>
          rcases Option.map_eq_some_iff.mp parsed with ⟨read, isRead, same⟩
          cases same
          exact steps.items isRead
      next =>
        split at parsed
        next isBrace =>
          rw [isBrace, tokensAreJson_gap (by decide)]
          split at parsed
          next closes =>
            rcases List.head?_eq_some_iff.mp closes with ⟨after, isAfter⟩
            cases parsed
            rw [← tokensAreJson_skipWhitespace, isAfter, tokensAreJson_gap (by decide)]
            rfl
          next =>
            rcases Option.map_eq_some_iff.mp parsed with ⟨read, isRead, same⟩
            cases same
            exact steps.members isRead
        next => exact tokensAreJson_parseScalar numbers parsed

theorem tokensAreJson_parseItems {text rest : JsString} {items : List JsValue}
    (parsed : parseItems numbers (fuel + 1) text = some (items, rest)) :
    tokensAreJson text = tokensAreJson rest := by
  rw [parseItems] at parsed
  rcases Option.bind_eq_some_iff.mp parsed with ⟨read, isRead, others⟩
  rw [steps.value isRead, ← tokensAreJson_skipWhitespace read.2]
  split at others
  next => cases others
  next separator after isAfter =>
    rw [isAfter]
    split at others
    next isBracket =>
      cases others
      rw [isBracket, tokensAreJson_gap (by decide)]
    next =>
      split at others
      next isComma =>
        rcases Option.map_eq_some_iff.mp others with ⟨more, isMore, same⟩
        cases same
        rw [isComma, tokensAreJson_gap (by decide)]
        exact steps.items isMore
      next => cases others

theorem tokensAreJson_parseMembers {text rest : JsString} {members : List (JsString × JsValue)}
    (parsed : parseMembers numbers (fuel + 1) text = some (members, rest)) :
    tokensAreJson text = tokensAreJson rest := by
  rw [parseMembers] at parsed
  rw [← tokensAreJson_skipWhitespace]
  split at parsed
  next => cases parsed
  next first afterQuote isText =>
    rw [isText]
    split at parsed
    next isQuote =>
      rcases Option.bind_eq_some_iff.mp parsed with ⟨key, isKey, parsed⟩
      rw [isQuote, tokensAreJson_quote, stringRest_of_parse isKey, Option.elim_some,
        ← tokensAreJson_skipWhitespace key.2]
      split at parsed
      next => cases parsed
      next colon afterColon isColonText =>
        rw [isColonText]
        split at parsed
        next isColon =>
          rcases Option.bind_eq_some_iff.mp parsed with ⟨read, isRead, others⟩
          rw [isColon, tokensAreJson_gap (by decide), steps.value isRead,
            ← tokensAreJson_skipWhitespace read.2]
          split at others
          next => cases others
          next separator after isAfter =>
            rw [isAfter]
            split at others
            next isBrace =>
              cases others
              rw [isBrace, tokensAreJson_gap (by decide)]
            next =>
              split at others
              next isComma =>
                rcases Option.map_eq_some_iff.mp others with ⟨more, isMore, same⟩
                cases same
                rw [isComma, tokensAreJson_gap (by decide)]
                exact steps.members isMore
              next => cases others
        next => cases parsed
    next => cases parsed

end Step

theorem stepsOverJsonTokens (fuel : Nat) : StepsOverJsonTokens numbers fuel := by
  induction fuel with
  | zero => exact ⟨nofun, nofun, nofun⟩
  | succ fuel ih =>
    exact ⟨tokensAreJson_parseValue ih,
      tokensAreJson_parseItems ih,
      tokensAreJson_parseMembers ih⟩

theorem tokensAreJson_of_parse {text : JsString} {value : JsValue}
    (parsed : parse numbers text = some value) : tokensAreJson text = true := by
  rcases Option.bind_eq_some_iff.mp parsed with ⟨read, isRead, ended⟩
  split at ended
  next isEnd =>
    rw [(stepsOverJsonTokens numbers _).value isRead, ← tokensAreJson_skipWhitespace, isEnd]
    rw [tokensAreJson]
  next => cases ended

end Parse

/-! ### The scanner over JSON tokens -/

theorem exists_rest_of_at {character : Char} (isAt : cursor.at character = true) :
    ∃ after, cursor.rest = unit character :: after :=
  List.head?_eq_some_iff.mp (of_decide_eq_true isAt)

theorem rest_of_advance {state : ScanState} {mark : CodeUnit} {after : JsString}
    (isRest : state.rest = mark :: after) : (state.advance 1).rest = after := by
  change state.rest.drop 1 = after
  rw [isRest, List.drop_succ_cons, List.drop_zero]

theorem rest_of_opened {start : ScanState} {mark : CodeUnit} {after : JsString}
    (isRest : start.rest = mark :: after) :
    (start.advance 1).skipWhitespace.rest = skipWhitespace after :=
  congrArg skipWhitespace (rest_of_advance isRest)

theorem head_ne_of_not_at {character : Char} (notAt : ¬ cursor.at character = true) :
    ¬ cursor.rest.head? = some (unit character) :=
  fun isHead => notAt (decide_eq_true isHead)

theorem parse_of_readString {cursor after : Cursor} {value : JsString}
    (scanned : readString cursor = .ok (value, after)) (tokens : tokensAreJson cursor.rest = true) :
    ∃ body parsed, cursor.rest = unit '"' :: body ∧
      parseStringBody body = some (parsed, after.rest) ∧ tokensAreJson after.rest = true := by
  unfold readString at scanned
  split at scanned
  next isQuote =>
    rcases exists_rest_of_at isQuote with ⟨body, isRest⟩
    rw [isRest, List.drop_succ_cons, List.drop_zero] at scanned
    rw [isRest, tokensAreJson_quote] at tokens
    cases isBody : stringRest body with
    | none =>
      rw [isBody] at tokens
      cases tokens
    | some rest =>
      rw [isBody] at tokens
      rcases exists_parse_of_readChars scanned isBody with ⟨same, parsed, isParsed⟩
      exact ⟨body, parsed, isRest, isParsed, same ▸ tokens⟩
  next => cases scanned

variable {path : JsString}

theorem exists_number_of_readNumber {state next : ScanState}
    (scanned : readNumber path state = .ok next) :
    ∃ first rest, state.rest = first :: rest ∧ isNumberUnit first = true := by
  cases isRest : state.rest with
  | nil =>
    unfold readNumber at scanned
    dsimp only at scanned
    rw [isRest, List.take_nil] at scanned
    cases scanned
  | cons first rest =>
    refine ⟨first, rest, rfl, Classical.byContradiction fun notNumber => ?_⟩
    have facts := facts_of_notNumber (Bool.eq_false_iff.mpr notNumber)
    rcases facts with ⟨notDigit, notSign, notMark, notPoint⟩
    have isInteger : integerEnd state.toCursor = state.toCursor := by
      unfold integerEnd Cursor.skipOne Cursor.skipWhile
      rw [isRest, List.head?_cons, Option.any_some, notSign, if_neg Bool.false_ne_true, isRest,
        List.takeWhile_cons_of_neg (by simp [notDigit]),
        List.dropWhile_cons_of_neg (by simp [notDigit]), ← isRest]
      rfl
    have isFraction : fractionEnd state.toCursor = state.toCursor := by
      have notAt : state.toCursor.at '.' = false := by
        rw [Cursor.at, isRest]
        exact decide_eq_false fun same => notPoint (Option.some.inj same)
      rw [fractionEnd, notAt, if_neg Bool.false_ne_true]
    have isExponent : exponentEnd state.toCursor = state.toCursor := by
      rw [exponentEnd, isRest, List.head?_cons, Option.any_some, notMark,
        if_neg Bool.false_ne_true]
    unfold readNumber at scanned
    dsimp only at scanned
    rw [isInteger, isFraction, isExponent, Nat.sub_self, List.take_zero] at scanned
    cases scanned

theorem parse_of_readNumber {state next : ScanState} (scanned : readNumber path state = .ok next)
    (tokens : tokensAreJson state.rest = true) :
    isJsonNumber (state.rest.takeWhile isNumberUnit) = true ∧
      next.rest = state.rest.dropWhile isNumberUnit := by
  rcases exists_number_of_readNumber scanned with ⟨first, rest, isRest, numeric⟩
  rw [isRest, tokensAreJson_number numeric, Bool.and_eq_true] at tokens
  have isRun : state.rest.takeWhile isNumberUnit = first :: rest.takeWhile isNumberUnit := by
    rw [isRest, List.takeWhile_cons_of_pos numeric]
  have isNumber : isJsonNumber (state.rest.takeWhile isNumberUnit) = true := isRun ▸ tokens.1
  rcases NumberLiteral.exists_of_isJsonNumber isNumber with ⟨literal, isText⟩
  have ends : NumberEnd (state.rest.dropWhile isNumberUnit) := by
    intro codeUnit isHead
    have stopped := List.head?_dropWhile_not isNumberUnit state.rest
    rw [isHead] at stopped
    exact stopped
  have read := readNumber_literal literal state.index path state.violations ends
  rw [isText, List.takeWhile_append_dropWhile] at read
  cases read.symm.trans scanned
  exact ⟨isNumber, rfl⟩

theorem parseScalar_of_scan (numbers : NumberText) {state next : ScanState}
    (scanned : (if (js "true").isPrefixOf state.rest then .ok (state.advance 4)
      else if (js "false").isPrefixOf state.rest then .ok (state.advance 5)
      else if (js "null").isPrefixOf state.rest then .ok (state.advance 4)
      else readNumber path state) = Except.ok next) (tokens : tokensAreJson state.rest = true) :
    ∃ value, parseScalar numbers state.rest = some (value, next.rest) := by
  unfold parseScalar
  split at scanned
  next isTrue =>
    cases scanned
    exact ⟨_, if_pos isTrue⟩
  next notTrue =>
    rw [if_neg notTrue]
    split at scanned
    next isFalse =>
      cases scanned
      exact ⟨_, if_pos isFalse⟩
    next notFalse =>
      rw [if_neg notFalse]
      split at scanned
      next isNull =>
        cases scanned
        exact ⟨_, if_pos isNull⟩
      next notNull =>
        rcases parse_of_readNumber scanned tokens with ⟨isNumber, isRest⟩
        rw [if_neg notNull, isRest]
        exact ⟨_, if_pos isNumber⟩

section Parse

variable (numbers : NumberText)

/-- With this fuel the parser reads over JSON tokens whatever the scanner does. -/
structure ParsesWhatIsScanned (fuel : Nat) : Prop where
  value : ∀ {path : JsString} {state next : ScanState}, readValue fuel path state = .ok next →
    tokensAreJson state.rest = true →
      ∃ read, parseValue numbers fuel state.rest = some (read, next.rest)
  items : ∀ {path : JsString} {position : Nat} {state next : ScanState},
    readItems fuel path position state = .ok next → tokensAreJson state.rest = true →
      ∃ read, parseItems numbers fuel state.rest = some (read, next.rest)
  members : ∀ {path : JsString} {seenKeys : List JsString} {state next : ScanState},
    readMembers fuel path seenKeys state = .ok next → tokensAreJson state.rest = true →
      ∃ read, parseMembers numbers fuel state.rest = some (read, next.rest)

theorem skipWhitespace_skipWhitespace (text : JsString) :
    skipWhitespace (skipWhitespace text) = skipWhitespace text :=
  List.dropWhile_idempotent isWhitespace text

theorem parseItems_skipWhitespace (fuel : Nat) (text : JsString) :
    parseItems numbers fuel (skipWhitespace text) = parseItems numbers fuel text := by
  cases fuel with
  | zero => rfl
  | succ fuel =>
    cases fuel with
    | zero => rfl
    | succ fuel =>
      rw [parseItems, parseItems, parseValue, parseValue, skipWhitespace_skipWhitespace]

theorem parseMembers_skipWhitespace (fuel : Nat) (text : JsString) :
    parseMembers numbers fuel (skipWhitespace text) = parseMembers numbers fuel text := by
  cases fuel with
  | zero => rfl
  | succ fuel => rw [parseMembers, parseMembers, skipWhitespace_skipWhitespace]

section Step

variable {numbers} {fuel : Nat} (reads : ParsesWhatIsScanned numbers fuel)
include reads

variable {path : JsString}

theorem parseValue_of_scan {state next : ScanState}
    (scanned : readValue (fuel + 1) path state = .ok next)
    (tokens : tokensAreJson state.rest = true) :
    ∃ read, parseValue numbers (fuel + 1) state.rest = some (read, next.rest) := by
  have startTokens : tokensAreJson state.skipWhitespace.rest = true :=
    (tokensAreJson_skipWhitespace state.rest).trans tokens
  have isStart : skipWhitespace state.rest = state.skipWhitespace.rest := rfl
  rw [readValue] at scanned
  rw [parseValue, isStart]
  generalize state.skipWhitespace = start at scanned startTokens
  dsimp only at scanned
  split at scanned
  next isBrace =>
    rcases exists_rest_of_at isBrace with ⟨after, isRest⟩
    rw [isRest]
    dsimp only
    rw [if_neg (by decide), if_neg (by decide), if_pos rfl]
    rw [isRest, tokensAreJson_gap (by decide), ← tokensAreJson_skipWhitespace] at startTokens
    have isOpened := rest_of_opened isRest
    rw [← isOpened] at startTokens ⊢
    split at scanned
    next closes =>
      cases scanned
      exact ⟨_, if_pos (of_decide_eq_true closes)⟩
    next opened =>
      rcases reads.members scanned startTokens with ⟨read, isRead⟩
      rw [isOpened, parseMembers_skipWhitespace] at isRead
      rw [if_neg (head_ne_of_not_at opened), isRead]
      exact ⟨_, rfl⟩
  next notBrace =>
    split at scanned
    next isBracket =>
      rcases exists_rest_of_at isBracket with ⟨after, isRest⟩
      rw [isRest]
      dsimp only
      rw [if_neg (by decide), if_pos rfl]
      rw [isRest, tokensAreJson_gap (by decide), ← tokensAreJson_skipWhitespace] at startTokens
      have isOpened := rest_of_opened isRest
      rw [← isOpened] at startTokens ⊢
      split at scanned
      next closes =>
        cases scanned
        exact ⟨_, if_pos (of_decide_eq_true closes)⟩
      next opened =>
        rcases reads.items scanned startTokens with ⟨read, isRead⟩
        rw [isOpened, parseItems_skipWhitespace] at isRead
        rw [if_neg (head_ne_of_not_at opened), isRead]
        exact ⟨_, rfl⟩
    next notBracket =>
      split at scanned
      next =>
        cases isString : readString start.toCursor with
        | error error =>
          rw [isString] at scanned
          cases scanned
        | ok read =>
          rw [isString] at scanned
          cases scanned
          rcases parse_of_readString isString startTokens with ⟨body, parsed, isRest, isParsed, _⟩
          rw [isRest]
          dsimp only
          rw [if_pos rfl, isParsed]
          exact ⟨_, rfl⟩
      next notQuote =>
        rcases parseScalar_of_scan numbers scanned startTokens with ⟨read, isRead⟩
        cases isRest : start.rest with
        | nil =>
          rw [isRest] at isRead
          cases isRead
        | cons first rest =>
          have others : ∀ {character}, ¬ start.toCursor.at character = true →
              first ≠ unit character := by
            rintro character notAt rfl
            exact head_ne_of_not_at notAt (by rw [isRest]; rfl)
          dsimp only
          rw [if_neg (others notQuote), if_neg (others notBracket), if_neg (others notBrace)]
          exact ⟨read, isRest ▸ isRead⟩

theorem parseItems_of_scan {position : Nat} {state next : ScanState}
    (scanned : readItems (fuel + 1) path position state = .ok next)
    (tokens : tokensAreJson state.rest = true) :
    ∃ read, parseItems numbers (fuel + 1) state.rest = some (read, next.rest) := by
  rw [readItems] at scanned
  rcases bind_eq_ok.mp scanned with ⟨value, isValue, others⟩
  rcases reads.value isValue tokens with ⟨read, isRead⟩
  have valueTokens : tokensAreJson value.skipWhitespace.rest = true := by
    change tokensAreJson (skipWhitespace value.rest) = true
    rw [tokensAreJson_skipWhitespace, ← (stepsOverJsonTokens numbers fuel).value isRead, tokens]
  dsimp only at others
  split at others
  next isComma =>
    rcases exists_rest_of_at isComma with ⟨rest, isRest⟩
    rw [isRest, tokensAreJson_gap (by decide), ← rest_of_advance isRest] at valueTokens
    rcases reads.items others valueTokens with ⟨more, isMore⟩
    rw [rest_of_advance isRest] at isMore
    exact ⟨_, parseItems_more numbers isRead isRest isMore⟩
  next =>
    split at others
    next isBracket =>
      rcases exists_rest_of_at isBracket with ⟨rest, isRest⟩
      cases others
      rw [rest_of_advance isRest]
      exact ⟨_, parseItems_last numbers isRead isRest⟩
    next => cases others

theorem parseMembers_of_scan {seenKeys : List JsString} {state next : ScanState}
    (scanned : readMembers (fuel + 1) path seenKeys state = .ok next)
    (tokens : tokensAreJson state.rest = true) :
    ∃ read, parseMembers numbers (fuel + 1) state.rest = some (read, next.rest) := by
  have startTokens : tokensAreJson state.skipWhitespace.rest = true :=
    (tokensAreJson_skipWhitespace state.rest).trans tokens
  rw [readMembers] at scanned
  rcases bind_eq_ok.mp scanned with ⟨⟨key, afterKey⟩, isKey, scanned⟩
  rcases parse_of_readString isKey startTokens with ⟨body, parsedKey, isRest, isParsed, keyTokens⟩
  dsimp only at scanned
  split at scanned
  next isColon =>
    rcases exists_rest_of_at isColon with ⟨afterColon, isAfterColon⟩
    have colonRest : skipWhitespace afterKey.rest = unit ':' :: afterColon := isAfterColon
    rw [← tokensAreJson_skipWhitespace, colonRest, tokensAreJson_gap (by decide)] at keyTokens
    rcases bind_eq_ok.mp scanned with ⟨value, isValue, others⟩
    have isAdvanced := rest_of_advance isAfterColon
    rcases reads.value isValue (isAdvanced.symm ▸ keyTokens) with ⟨read, isRead⟩
    rw [isAdvanced] at isRead
    have member : ReadsMember numbers fuel state.rest parsedKey read value.rest :=
      ⟨body, afterKey.rest, afterColon, isRest, isParsed, colonRest, isRead⟩
    have valueTokens : tokensAreJson value.skipWhitespace.rest = true := by
      change tokensAreJson (skipWhitespace value.rest) = true
      rw [tokensAreJson_skipWhitespace, ← (stepsOverJsonTokens numbers fuel).value isRead,
        keyTokens]
    split at others
    next isComma =>
      rcases exists_rest_of_at isComma with ⟨rest, isNext⟩
      rw [isNext, tokensAreJson_gap (by decide), ← rest_of_advance isNext] at valueTokens
      rcases reads.members others valueTokens with ⟨more, isMore⟩
      rw [rest_of_advance isNext] at isMore
      exact ⟨_, parseMembers_more member isNext isMore⟩
    next =>
      split at others
      next isBrace =>
        rcases exists_rest_of_at isBrace with ⟨rest, isNext⟩
        cases others
        rw [rest_of_advance isNext]
        exact ⟨_, parseMembers_last member isNext⟩
      next => cases others
  next => cases scanned

end Step

theorem parsesWhatIsScanned (fuel : Nat) : ParsesWhatIsScanned numbers fuel := by
  induction fuel with
  | zero => exact ⟨nofun, nofun, nofun⟩
  | succ fuel ih =>
    exact ⟨parseValue_of_scan ih, parseItems_of_scan ih,
      parseMembers_of_scan ih⟩

theorem exists_parse_of_scan {text : JsString} {violations : List StrictAdmissionViolation}
    (scanned : findStrictAdmissionViolations text = .ok violations)
    (tokens : tokensAreJson text = true) : ∃ value, parse numbers text = some value := by
  rcases bind_eq_ok.mp scanned with ⟨read, isRead, ended⟩
  rcases (parsesWhatIsScanned numbers _).value isRead tokens with ⟨value, isValue⟩
  change (if read.skipWhitespace.index ≠ text.length then _ else _) = _ at ended
  split at ended
  next => cases ended
  next atEnd =>
    have isEnd := skipWhitespace_eq_nil_of_scan isRead (Classical.not_not.mp atEnd)
    refine ⟨value, ?_⟩
    change (parseValue numbers (2 * text.length + 1) text).bind _ = _
    rw [isValue, Option.bind_some, if_pos isEnd]

end Parse

theorem isStrictlyAdmissible_iff {text : JsString} :
    isStrictlyAdmissible text = true ↔ findStrictAdmissionViolations text = .ok [] := by
  unfold isStrictlyAdmissible
  rw [orFalse_eq_true, bind_eq_ok]
  constructor
  · rintro ⟨violations, isScan, isEmpty⟩
    rw [isScan, List.eq_nil_of_length_eq_zero (beq_iff_eq.mp (pure_eq_ok.mp isEmpty))]
  · intro isScan
    exact ⟨[], isScan, rfl⟩

section Gate

variable {numbers : NumberText} {syntaxErrorMessage : JsString → JsString} {text : JsString}

theorem parseStrictJson_ok_iff {value : JsValue} :
    parseStrictJson numbers syntaxErrorMessage text = .ok value ↔
      findStrictAdmissionViolations text = .ok [] ∧ parse numbers text = some value := by
  unfold parseStrictJson
  rw [bind_eq_ok]
  constructor
  · rintro ⟨violations, isScan, others⟩
    rcases check_eq_ok.mp others with ⟨none, others⟩
    have isEmpty : violations = [] := List.eq_nil_of_length_eq_zero (Nat.eq_zero_of_not_pos none)
    refine ⟨isEmpty ▸ isScan, ?_⟩
    cases isParsed : parse numbers text with
    | none =>
      rw [isParsed] at others
      cases others
    | some read =>
      rw [isParsed] at others
      rw [pure_eq_ok.mp others]
  · rintro ⟨isScan, isValue⟩
    refine ⟨[], isScan, ?_⟩
    rw [isValue]
    rfl

/-- A text with violations is refused by both functions. -/
theorem refused_alike (refused : findStrictAdmissionViolations text ≠ .ok []) :
    isStrictlyAdmissible text = false ∧
      ∀ value, parseStrictJson numbers syntaxErrorMessage text ≠ .ok value :=
  ⟨Bool.eq_false_iff.mpr fun admitted => refused (isStrictlyAdmissible_iff.mp admitted),
    fun _ returned => refused (parseStrictJson_ok_iff.mp returned).1⟩

theorem parseStrictJson_returns_iff (admitted : findStrictAdmissionViolations text = .ok []) :
    (∃ value, parseStrictJson numbers syntaxErrorMessage text = .ok value) ↔
      tokensAreJson text = true := by
  constructor
  · rintro ⟨value, returned⟩
    exact tokensAreJson_of_parse numbers (parseStrictJson_ok_iff.mp returned).2
  · intro tokens
    rcases exists_parse_of_scan numbers admitted tokens with ⟨value, isValue⟩
    exact ⟨value, parseStrictJson_ok_iff.mpr ⟨admitted, isValue⟩⟩

end Gate

/-- **The gate and the parser.** They agree on a text exactly when each of its tokens is JSON, or
the scanner refuses it for another reason: it throws, or it reports a violation. -/
theorem isStrictlyAdmissible_agrees_iff (numbers : NumberText)
    (syntaxErrorMessage : JsString → JsString) (text : JsString) :
    (isStrictlyAdmissible text = true ↔
        ∃ value, parseStrictJson numbers syntaxErrorMessage text = .ok value) ↔
      (tokensAreJson text = true ∨ findStrictAdmissionViolations text ≠ .ok []) := by
  by_cases admitted : findStrictAdmissionViolations text = .ok []
  · rw [isStrictlyAdmissible_iff, parseStrictJson_returns_iff admitted, iff_true_left admitted,
      or_iff_left (not_not.mpr admitted)]
  · rcases refused_alike admitted with ⟨isFalse, notReturned⟩
    refine iff_of_true ⟨fun isTrue => ?_, fun ⟨value, returned⟩ => ?_⟩ (Or.inr admitted)
    · rw [isFalse] at isTrue
      cases isTrue
    · exact absurd returned (notReturned value)

/-- The scanner takes a plus sign for the start of a number. -/
theorem plusSign_admitted :
    ¬ ∀ text, isStrictlyAdmissible text = true ↔
      ∃ value, parseStrictJson decimalText (fun _ => js "Unexpected token '+'") text =
        .ok value := by
  intro agree
  have admitted : isStrictlyAdmissible (js "\x7b\"a\":+1\x7d") = true := by decide +kernel
  have notJson : (parse decimalText (js "\x7b\"a\":+1\x7d")).isNone = true := by
    decide +kernel
  rcases (agree _).mp admitted with ⟨value, returned⟩
  rw [(parseStrictJson_ok_iff.mp returned).2] at notJson
  cases notJson

end GhostArk.ReceiptSchema
