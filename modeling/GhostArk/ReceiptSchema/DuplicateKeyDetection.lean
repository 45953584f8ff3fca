import GhostArk.Js.JsonAcceptance
import GhostArk.ReceiptSchema.StrictJsonAdmission

/-!
Contract: the admission scanner on JSON texts.

Owns the violations of a syntax tree, the agreement of the scanner with them on
the text of the tree, and exact detection of repeated keys: a text is scanned
without an exception, a violation of the rule on keys is reported exactly when
some object repeats one, and otherwise `JSON.parse` keeps every member.
-/

namespace GhostArk.ReceiptSchema

open Js Js.Decimal Js.JsonGrammar

def width (points : List Nat) : Nat := (asText points).length

theorem width_append (left right : List Nat) : width (left ++ right) = width left + width right := by
  rw [width, asText_append, List.length_append]
  rfl

theorem width_char {character : Char} (basic : character.toNat < 0x10000) (rest : List Nat) :
    width (character.toNat :: rest) = width rest + 1 := by
  rw [width, asText_char basic, List.length_cons, width]

mutual

/-- What the rules say about a value that starts at an offset. -/
def valueViolations (path : JsString) (offset : Nat) :
    JsonValue → List StrictAdmissionViolation
  | .null | .bool _ | .string _ | .emptyArray _ | .emptyObject _ => []
  | .number literal => numberViolations path offset (decide literal.IsPlain) literal.text
  | .array items => itemsViolations path 0 (offset + 1) items
  | .object members => membersViolations path [] (offset + 1) members

def itemsViolations (path : JsString) (position offset : Nat) :
    JsonItems → List StrictAdmissionViolation
  | .last before value _ =>
    valueViolations (childPath path (natText position)) (offset + width before.val) value
  | .more before value after rest =>
    valueViolations (childPath path (natText position)) (offset + width before.val) value ++
      itemsViolations path (position + 1)
        (offset + width before.val + width value.points + width after.val + 1) rest

def membersViolations (path : JsString) (seenKeys : List JsString) (offset : Nat) :
    JsonMembers → List StrictAdmissionViolation
  | .last beforeKey key afterKey before value _ =>
    let atKey := offset + width beforeKey.val
    let atValue := atKey + width (stringPoints key) + width afterKey.val + 1 + width before.val
    keyViolations path atKey seenKeys (stringValue key) ++
      valueViolations (childPath path (stringValue key)) atValue value
  | .more beforeKey key afterKey before value after rest =>
    let atKey := offset + width beforeKey.val
    let atValue := atKey + width (stringPoints key) + width afterKey.val + 1 + width before.val
    keyViolations path atKey seenKeys (stringValue key) ++
      (valueViolations (childPath path (stringValue key)) atValue value ++
        membersViolations path (seenKeys ++ [stringValue key])
          (atValue + width value.points + width after.val + 1) rest)

end

theorem skipWhile_append {test : CodeUnit → Bool} {taken rest : JsString} (index : Nat)
    (holds : ∀ codeUnit ∈ taken, test codeUnit = true)
    (ends : ∀ codeUnit ∈ rest.head?, test codeUnit = false) :
    (Cursor.mk index (taken ++ rest)).skipWhile test = ⟨index + taken.length, rest⟩ := by
  have stops : rest.takeWhile test = [] ∧ rest.dropWhile test = rest := by
    cases rest with
    | nil => exact ⟨rfl, rfl⟩
    | cons first tail =>
      have fails := ends first rfl
      exact ⟨List.takeWhile_cons_of_neg (by simp [fails]),
        List.dropWhile_cons_of_neg (by simp [fails])⟩
  unfold Cursor.skipWhile
  dsimp only
  rw [List.takeWhile_append_of_pos holds, List.dropWhile_append_of_pos holds, stops.1, stops.2,
    List.append_nil]

theorem at_cons {index : Nat} {first : CodeUnit} {rest : JsString} {character : Char} :
    (Cursor.mk index (first :: rest)).at character = decide (first = unit character) := by
  unfold Cursor.at
  rw [List.head?_cons]
  exact decide_eq_decide.mpr (Option.some.injEq first (unit character) ▸ Iff.rfl)

section State

variable (index : Nat) (violations : List StrictAdmissionViolation)

theorem skipWhitespace_state_blank (blank : Blank) (rest : List Nat) :
    (ScanState.mk ⟨index, asText (blank.val ++ rest)⟩ violations).skipWhitespace =
      (ScanState.mk ⟨index + width blank.val, asText rest⟩ violations).skipWhitespace := by
  have areBlank : ∀ codeUnit ∈ asText blank.val, isWhitespace codeUnit = true :=
    fun codeUnit => isWhitespace_of_mem
  unfold ScanState.skipWhitespace Cursor.skipWhile width
  dsimp only
  rw [asText_append, List.takeWhile_append_of_pos areBlank, List.dropWhile_append_of_pos areBlank,
    List.length_append, Nat.add_assoc]

theorem skipWhitespace_state_cons {first : CodeUnit} (visible : isWhitespace first = false)
    (rest : JsString) :
    (ScanState.mk ⟨index, first :: rest⟩ violations).skipWhitespace =
      ⟨⟨index, first :: rest⟩, violations⟩ := by
  unfold ScanState.skipWhitespace Cursor.skipWhile
  dsimp only
  rw [List.takeWhile_cons_of_neg (by simp [visible]), List.dropWhile_cons_of_neg (by simp [visible])]
  rfl

theorem skipWhitespace_state_char (blank : Blank) {character : Char}
    (basic : character.toNat < 0x10000) (visible : isWhitespace (unit character) = false)
    (rest : List Nat) :
    (ScanState.mk ⟨index, asText (blank.val ++ character.toNat :: rest)⟩ violations).skipWhitespace =
      ⟨⟨index + width blank.val, unit character :: asText rest⟩, violations⟩ := by
  rw [skipWhitespace_state_blank, asText_char basic, skipWhitespace_state_cons _ _ visible]

end State

/-! ### Strings -/

private theorem readChars_plain {codeUnits : JsString}
    (plain : ∀ codeUnit ∈ codeUnits, codeUnit ≠ unit '"' ∧ codeUnit ≠ unit '\\')
    (index : Nat) (decoded rest : JsString) :
    readChars index decoded (codeUnits ++ rest) =
      readChars (index + codeUnits.length) (decoded ++ codeUnits) rest := by
  induction codeUnits generalizing index decoded with
  | nil => rw [List.nil_append, List.length_nil, List.append_nil, Nat.add_zero]
  | cons first others ih =>
    have isFirst := plain first List.mem_cons_self
    rw [List.cons_append, readChars.eq_def]
    dsimp only
    rw [if_neg isFirst.1, if_neg isFirst.2,
      ih fun other member => plain other (List.mem_cons_of_mem _ member),
      List.append_assoc, List.singleton_append, List.length_cons, Nat.add_assoc, Nat.add_comm 1]

private theorem readChars_token (token : CharToken) (index : Nat) (decoded : JsString)
    (rest : List Nat) :
    readChars index decoded (asText (token.points ++ rest)) =
      readChars (index + width token.points) (decoded ++ token.value) (asText rest) := by
  have notQuote : unit '\\' ≠ unit '"' := by decide
  cases token with
  | unescaped point allowed =>
    have isWidth : width (CharToken.unescaped point allowed).points = (utf16 point).length := by
      have whole := asText_unescaped allowed []
      rw [List.append_nil, asText_nil, List.append_nil] at whole
      rw [width, whole]
    rw [asText_unescaped allowed, isWidth]
    exact readChars_plain (fun codeUnit member =>
      ⟨(utf16_unescaped allowed member).1, (utf16_unescaped allowed member).2.1⟩) _ _ _
  | escape escaped =>
    have facts := simpleEscape_letter escaped
    have isWidth : width (CharToken.escape escaped).points = 2 := by
      have whole := asText_escape escaped []
      rw [List.append_nil] at whole
      rw [width, whole]
      rfl
    rw [asText_escape, readChars.eq_def, isWidth]
    dsimp only
    rw [if_neg notQuote, if_pos rfl, if_neg facts.2.1, facts.2.2]
    rfl
  | unicode d3 d2 d1 d0 =>
    have isWidth : width (CharToken.unicode d3 d2 d1 d0).points = 6 := by
      have whole := asText_unicode d3 d2 d1 d0 []
      rw [List.append_nil] at whole
      rw [width, whole]
      rfl
    rw [asText_unicode, readChars.eq_def, isWidth]
    dsimp only
    rw [if_neg notQuote, if_pos rfl, if_pos rfl, hexUnit_points]
    rfl

private theorem readChars_chars (chars : List CharToken) (index : Nat) (decoded : JsString)
    (rest : List Nat) :
    readChars index decoded (asText (charPoints chars ++ '"'.toNat :: rest)) =
      .ok (decoded ++ stringValue chars, ⟨index + width (charPoints chars) + 1, asText rest⟩) := by
  induction chars generalizing index decoded with
  | nil =>
    rw [asText_charPoints_nil, readChars.eq_def]
    dsimp only
    rw [if_pos rfl, stringValue, List.flatMap_nil, List.append_nil]
    rfl
  | cons token others ih =>
    have isWidth : width (charPoints (token :: others)) =
        width token.points + width (charPoints others) :=
      width_append _ _
    rw [charPoints_cons, readChars_token, ih, List.append_assoc, isWidth, Nat.add_assoc index]
    rfl

theorem readString_string (chars : List CharToken) (index : Nat) (rest : List Nat) :
    readString ⟨index, asText (stringPoints chars ++ rest)⟩ =
      .ok (stringValue chars, ⟨index + width (stringPoints chars), asText rest⟩) := by
  have isWidth : width (stringPoints chars) = 1 + width (charPoints chars) + 1 := by
    rw [stringPoints, width_char (by decide), width_append, width_char (by decide)]
    change width (charPoints chars) + (0 + 1) + 1 = _
    omega
  rw [asText_string]
  unfold readString
  rw [at_cons, if_pos (by decide)]
  dsimp only
  rw [List.drop_succ_cons, List.drop_zero, readChars_chars, isWidth, List.nil_append,
    ← Nat.add_assoc, ← Nat.add_assoc]

/-! ### Numbers -/

theorem facts_of_notNumber {codeUnit : CodeUnit} (notNumber : isNumberUnit codeUnit = false) :
    isDigit codeUnit = false ∧ isSign codeUnit = false ∧ isExponentMark codeUnit = false ∧
      codeUnit ≠ unit '.' := by
  simp only [isNumberUnit, Bool.or_eq_false_iff, beq_eq_false_iff_ne] at notNumber
  simp only [isSign, isExponentMark, Bool.or_eq_false_iff, beq_eq_false_iff_ne]
  tauto

section Number

variable (literal : NumberLiteral) {rest : JsString} (index : Nat)

private theorem digitEnd_of_numberEnd (ends : NumberEnd rest) : DigitEnd rest :=
  fun codeUnit member => (facts_of_notNumber (ends codeUnit member)).1

private theorem skipWhile_digits (digits : List Digit) (ends : DigitEnd rest) :
    (Cursor.mk index (digitText digits ++ rest)).skipWhile isDigit =
      ⟨index + (digitText digits).length, rest⟩ :=
  skipWhile_append index (fun _ => isDigit_digitText) ends

private theorem notSign_digit (digit : Digit) : isSign (digitUnit digit) = false := by
  revert digit
  decide

private theorem skipOne_digits (digits : Digits) :
    (Cursor.mk index (digitText digits.all ++ rest)).skipOne isSign =
      ⟨index, digitText digits.all ++ rest⟩ := by
  have isHead : (digitText digits.all ++ rest).head?.any isSign = false :=
    notSign_digit digits.first
  unfold Cursor.skipOne
  dsimp only
  rw [isHead, if_neg Bool.false_ne_true]

private theorem exists_integerDigits (integer : IntegerPart) :
    ∃ digits : Digits, integer.digits = digits.all := by
  cases integer with
  | zero => exact ⟨⟨0, []⟩, rfl⟩
  | nonzero first others => exact ⟨⟨first.succ, others⟩, rfl⟩

private theorem integerEnd_text (ends : DigitEnd rest) :
    integerEnd ⟨index, literal.text ++ rest⟩ =
      ⟨index + literal.signText.length + (digitText literal.integer.digits).length,
        literal.fractionText ++ (literal.exponentText ++ rest)⟩ := by
  have skipped : (Cursor.mk index (literal.text ++ rest)).skipOne isSign =
      ⟨index + literal.signText.length, digitText literal.integer.digits ++
        (literal.fractionText ++ (literal.exponentText ++ rest))⟩ := by
    rcases exists_integerDigits literal.integer with ⟨digits, isDigits⟩
    rw [literal.text_eq, isDigits, NumberLiteral.signText]
    simp only [List.append_assoc]
    cases literal.minus with
    | true => rfl
    | false => exact skipOne_digits index digits
  unfold integerEnd
  rw [skipped, skipWhile_digits _ _ (literal.digitEnd_fractionText ends)]

private theorem fractionEnd_text (ends : NumberEnd rest) :
    fractionEnd ⟨index, literal.fractionText ++ (literal.exponentText ++ rest)⟩ =
        ⟨index + literal.fractionText.length, literal.exponentText ++ rest⟩ ∧
      (Cursor.mk index (literal.fractionText ++ (literal.exponentText ++ rest))).at '.' =
        literal.fraction.isSome := by
  have notPoint : ∀ upper : Bool, unit (if upper then 'E' else 'e') ≠ unit '.' := by decide
  have closes := literal.digitEnd_exponentText (digitEnd_of_numberEnd ends)
  unfold NumberLiteral.fractionText
  cases literal.fraction with
  | some digits =>
    dsimp only
    rw [List.cons_append, at_cons]
    refine ⟨?_, decide_eq_true rfl⟩
    unfold fractionEnd
    rw [at_cons, if_pos (by decide)]
    change (Cursor.mk (index + 1) (digitText digits.all ++ _)).skipWhile isDigit = _
    rw [skipWhile_digits _ _ closes, List.length_cons, Nat.add_assoc, Nat.add_comm 1]
  | none =>
    have absent : (Cursor.mk index (literal.exponentText ++ rest)).at '.' = false := by
      unfold NumberLiteral.exponentText
      cases literal.exponent with
      | some exponent =>
        dsimp only
        rw [ExponentPart.text, List.cons_append, at_cons, decide_eq_false (notPoint _)]
      | none =>
        dsimp only
        rw [List.nil_append]
        cases rest with
        | nil => rfl
        | cons first others =>
          rw [at_cons, decide_eq_false (facts_of_notNumber (ends first rfl)).2.2.2]
    dsimp only
    rw [List.nil_append]
    refine ⟨?_, absent⟩
    unfold fractionEnd
    rw [absent, if_neg Bool.false_ne_true]
    rfl

private theorem exponentEnd_text (ends : NumberEnd rest) :
    exponentEnd ⟨index, literal.exponentText ++ rest⟩ =
        ⟨index + literal.exponentText.length, rest⟩ ∧
      (literal.exponentText ++ rest).head?.any isExponentMark = literal.exponent.isSome := by
  have mark : ∀ upper : Bool, isExponentMark (unit (if upper then 'E' else 'e')) = true := by decide
  have closes := digitEnd_of_numberEnd ends
  unfold NumberLiteral.exponentText
  cases literal.exponent with
  | none =>
    have absent : rest.head?.any isExponentMark = false := by
      cases rest with
      | nil => rfl
      | cons first others => exact (facts_of_notNumber (ends first rfl)).2.2.1
    dsimp only
    rw [List.nil_append]
    refine ⟨?_, absent⟩
    unfold exponentEnd
    rw [absent, if_neg Bool.false_ne_true]
    rfl
  | some exponent =>
    have present : (exponent.text ++ rest).head?.any isExponentMark = true := mark exponent.upper
    dsimp only
    refine ⟨?_, present⟩
    unfold exponentEnd
    rw [present, if_pos rfl]
    have skipped : ((Cursor.mk index (exponent.text ++ rest)).advance 1).skipOne isSign =
        ⟨index + 1 + exponent.signText.length, digitText exponent.digits.all ++ rest⟩ := by
      change (Cursor.mk (index + 1) ((exponent.signText ++ digitText exponent.digits.all) ++
        rest)).skipOne isSign = _
      unfold ExponentPart.signText
      cases exponent.sign with
      | none => exact skipOne_digits (index + 1) exponent.digits
      | some negative =>
        cases negative with
        | true => rfl
        | false => rfl
    rw [skipped, skipWhile_digits _ _ closes, ExponentPart.text, List.length_cons,
      List.length_append]
    congr 1
    omega

theorem readNumber_literal (path : JsString) (violations : List StrictAdmissionViolation)
    (ends : NumberEnd rest) :
    readNumber path ⟨⟨index, literal.text ++ rest⟩, violations⟩ =
      .ok ⟨⟨index + literal.text.length, rest⟩,
        violations ++ numberViolations path index (decide literal.IsPlain) literal.text⟩ := by
  have length : literal.text.length = literal.signText.length +
      (digitText literal.integer.digits).length + literal.fractionText.length +
        literal.exponentText.length := by
    rw [literal.text_eq]
    simp only [List.length_append]
    omega
  have plain : (!literal.fraction.isSome && !literal.exponent.isSome) = decide literal.IsPlain := by
    rw [Bool.eq_iff_iff, decide_eq_true_eq]
    simp [NumberLiteral.IsPlain]
  have nonempty : literal.text.length ≠ 0 := by
    rcases literal.head_text with ⟨first, others, isText, -⟩
    rw [isText]
    exact Nat.succ_ne_zero _
  have isInteger := integerEnd_text literal index (digitEnd_of_numberEnd ends)
  have isFraction := fractionEnd_text literal
    (index + literal.signText.length + (digitText literal.integer.digits).length) ends
  have isExponent := exponentEnd_text literal (index + literal.signText.length +
    (digitText literal.integer.digits).length + literal.fractionText.length) ends
  unfold readNumber
  dsimp only
  rw [isInteger, isFraction.1, isFraction.2, isExponent.1, isExponent.2, plain]
  dsimp only
  rw [show index + literal.signText.length + (digitText literal.integer.digits).length +
    literal.fractionText.length + literal.exponentText.length = index + literal.text.length by omega,
    Nat.add_sub_cancel_left, List.take_left, if_neg nonempty]

end Number

section Values

variable (path : JsString) (index : Nat) (violations : List StrictAdmissionViolation)

variable {fuel : Nat}

private theorem readValue_congr {left right : ScanState}
    (same : left.skipWhitespace = right.skipWhitespace) :
    readValue (fuel + 1) path left = readValue (fuel + 1) path right := by
  rw [readValue, readValue, same]

private theorem readValue_blank (blank : Blank) (rest : List Nat) :
    readValue (fuel + 1) path ⟨⟨index, asText (blank.val ++ rest)⟩, violations⟩ =
      readValue (fuel + 1) path ⟨⟨index + width blank.val, asText rest⟩, violations⟩ :=
  readValue_congr path (skipWhitespace_state_blank index violations blank rest)

private theorem readValue_scalar {first : CodeUnit} {rest : JsString}
    (visible : isWhitespace first = false) (notBrace : first ≠ unit '\x7b')
    (notBracket : first ≠ unit '[') (notQuote : first ≠ unit '"') :
    readValue (fuel + 1) path ⟨⟨index, first :: rest⟩, violations⟩ =
      let start : ScanState := ⟨⟨index, first :: rest⟩, violations⟩
      if (js "true").isPrefixOf start.rest then .ok (start.advance 4)
      else if (js "false").isPrefixOf start.rest then .ok (start.advance 5)
      else if (js "null").isPrefixOf start.rest then .ok (start.advance 4)
      else readNumber path start := by
  rw [readValue, skipWhitespace_state_cons _ _ visible]
  dsimp only
  rw [at_cons, at_cons, at_cons, decide_eq_false notBrace, decide_eq_false notBracket,
    decide_eq_false notQuote, if_neg Bool.false_ne_true, if_neg Bool.false_ne_true,
    if_neg Bool.false_ne_true]

private theorem readValue_literal {fuel : Nat} (literal : NumberLiteral) {rest : List Nat}
    (ends : NumberEnd (asText rest)) :
    readValue (fuel + 1) path ⟨⟨index, asText (literal.points ++ rest)⟩, violations⟩ =
      .ok ⟨⟨index + width literal.points, asText rest⟩,
        violations ++ numberViolations path index (decide literal.IsPlain) literal.text⟩ := by
  rcases literal.exists_head rest with ⟨first, tail, isText, numeric, visible, whole⟩
  have notKeyword : ∀ letter others, isNumberUnit letter = false →
      (letter :: others).isPrefixOf (first :: (tail ++ asText rest)) = false := by
    intro letter others notNumber
    have different : letter ≠ first := (isNumberUnit_ne numeric notNumber).symm
    rw [List.isPrefixOf, beq_eq_false_iff_ne.mpr different, Bool.false_and]
  rw [whole, readValue_scalar path index violations visible (isNumberUnit_ne numeric (by decide))
    (isNumberUnit_ne numeric (by decide)) (isNumberUnit_ne numeric (by decide))]
  dsimp only
  rw [show js "true" = unit 't' :: js "rue" by decide,
    show js "false" = unit 'f' :: js "alse" by decide,
    show js "null" = unit 'n' :: js "ull" by decide, notKeyword _ _ (by decide),
    notKeyword _ _ (by decide), notKeyword _ _ (by decide), if_neg Bool.false_ne_true,
    if_neg Bool.false_ne_true, if_neg Bool.false_ne_true, ← List.cons_append, ← isText,
    readNumber_literal literal index path violations ends]
  rfl

private theorem readValue_empty {fuel : Nat} (value : JsonValue) (opening closing : Char)
    (brackets : (opening = '[' ∧ closing = ']') ∨ (opening = '\x7b' ∧ closing = '\x7d'))
    (blank : Blank) (isPoints : value.points = opening.toNat :: (blank.val ++ [closing.toNat]))
    (rest : List Nat) :
    readValue (fuel + 1) path ⟨⟨index, asText (value.points ++ rest)⟩, violations⟩ =
      .ok ⟨⟨index + width value.points, asText rest⟩, violations⟩ := by
  have basic : opening.toNat < 0x10000 ∧ closing.toNat < 0x10000 ∧
      isWhitespace (unit opening) = false ∧ isWhitespace (unit closing) = false := by
    rcases brackets with ⟨rfl, rfl⟩ | ⟨rfl, rfl⟩
    · decide
    · decide
  have isWidth : width value.points = 1 + width blank.val + 1 := by
    rw [isPoints, width_char basic.1, width_append, width_char basic.2.1]
    change width blank.val + (0 + 1) + 1 = _
    omega
  have inner := skipWhitespace_state_char (index + 1) violations blank basic.2.1 basic.2.2.2 rest
  rw [isWidth, isPoints, List.cons_append, List.append_assoc, List.singleton_append,
    asText_char basic.1, readValue, skipWhitespace_state_cons _ _ basic.2.2.1]
  unfold ScanState.advance Cursor.advance
  dsimp only
  rw [List.drop_succ_cons, List.drop_zero, inner]
  dsimp only
  rw [at_cons, at_cons, at_cons, at_cons, List.drop_succ_cons, List.drop_zero]
  rcases brackets with ⟨rfl, rfl⟩ | ⟨rfl, rfl⟩
  · rw [if_neg (by decide), if_pos (by decide), if_pos (by decide), ← Nat.add_assoc,
      ← Nat.add_assoc]
  · rw [if_pos (by decide), if_pos (by decide), ← Nat.add_assoc, ← Nat.add_assoc]

private theorem skipWhitespace_idempotent (state : ScanState) :
    state.skipWhitespace.skipWhitespace = state.skipWhitespace := by
  have stopped : (state.rest.dropWhile isWhitespace).takeWhile isWhitespace = [] ∧
      (state.rest.dropWhile isWhitespace).dropWhile isWhitespace =
        state.rest.dropWhile isWhitespace := by
    cases isRest : state.rest.dropWhile isWhitespace with
    | nil => exact ⟨rfl, rfl⟩
    | cons first tail =>
      have nonempty : state.rest.dropWhile isWhitespace ≠ [] := by
        rw [isRest]
        exact List.cons_ne_nil _ _
      have visible : ¬ isWhitespace first = true := by
        have isHead := List.head_dropWhile_not isWhitespace nonempty
        simp only [isRest, List.head_cons] at isHead
        simp [isHead]
      exact ⟨List.takeWhile_cons_of_neg visible, List.dropWhile_cons_of_neg visible⟩
  unfold ScanState.skipWhitespace Cursor.skipWhile
  dsimp only
  rw [stopped.1, stopped.2]
  rfl

private theorem readValue_array {fuel : Nat} {items : JsonItems} {rest : List Nat}
    (inner : readItems (fuel + 2) path 0
      ⟨⟨index + 1, asText (items.points ++ ']'.toNat :: rest)⟩, violations⟩ =
        .ok ⟨⟨index + 1 + width items.points + 1, asText rest⟩,
          violations ++ itemsViolations path 0 (index + 1) items⟩) :
    readValue (fuel + 3) path
      ⟨⟨index, asText ((JsonValue.array items).points ++ rest)⟩, violations⟩ =
        .ok ⟨⟨index + width (JsonValue.array items).points, asText rest⟩,
          violations ++ valueViolations path index (.array items)⟩ := by
  have isWidth : width (JsonValue.array items).points = 1 + width items.points + 1 := by
    rw [JsonValue.points, width_char (by decide), width_append, width_char (by decide)]
    change width items.points + (0 + 1) + 1 = _
    omega
  -- the loop starts behind the blanks that the bracket skipped
  have skipped : readItems (fuel + 2) path 0 (ScanState.mk
      ⟨index + 1, asText (items.points ++ ']'.toNat :: rest)⟩ violations).skipWhitespace =
        readItems (fuel + 2) path 0
          ⟨⟨index + 1, asText (items.points ++ ']'.toNat :: rest)⟩, violations⟩ := by
    rw [readItems, readItems, readValue_congr _ (skipWhitespace_idempotent _)]
  have notClosed : (ScanState.mk ⟨index + 1, asText (items.points ++ ']'.toNat :: rest)⟩
      violations).skipWhitespace.at ']' = false :=
    decide_eq_false (head_items items _)
  rw [JsonValue.points, List.cons_append, List.append_assoc, List.singleton_append,
    asText_char (by decide), readValue, skipWhitespace_state_cons _ _ (by decide)]
  unfold ScanState.advance Cursor.advance
  dsimp only
  rw [List.drop_succ_cons, List.drop_zero, at_cons, at_cons, if_neg (by decide),
    if_pos (by decide), notClosed, if_neg Bool.false_ne_true, skipped, inner, ← JsonValue.points,
    isWidth, valueViolations, ← Nat.add_assoc, ← Nat.add_assoc]

private theorem readMembers_skipped (seenKeys : List JsString) (state : ScanState) :
    readMembers (fuel + 1) path seenKeys state.skipWhitespace =
      readMembers (fuel + 1) path seenKeys state := by
  rw [readMembers, readMembers, skipWhitespace_idempotent]

private theorem readValue_object {members : JsonMembers} (inner : readMembers (fuel + 2) path []
      ⟨⟨index + 1, asText (members.points ++ '\x7d'.toNat :: rest)⟩, violations⟩ =
        .ok ⟨⟨index + 1 + width members.points + 1, asText rest⟩,
          violations ++ membersViolations path [] (index + 1) members⟩) :
    readValue (fuel + 3) path
      ⟨⟨index, asText ((JsonValue.object members).points ++ rest)⟩, violations⟩ =
        .ok ⟨⟨index + width (JsonValue.object members).points, asText rest⟩,
          violations ++ valueViolations path index (.object members)⟩ := by
  have isWidth : width (JsonValue.object members).points = 1 + width members.points + 1 := by
    rw [JsonValue.points, width_char (by decide), width_append, width_char (by decide)]
    change width members.points + (0 + 1) + 1 = _
    omega
  have notClosed : (ScanState.mk ⟨index + 1, asText (members.points ++ '\x7d'.toNat :: rest)⟩
      violations).skipWhitespace.at '\x7d' = false := by
    rcases skipWhitespace_members members ('\x7d'.toNat :: rest) with ⟨tail, isText⟩
    refine decide_eq_false ?_
    change (skipWhitespace (asText (members.points ++ '\x7d'.toNat :: rest))).head? ≠ _
    rw [isText, List.head?_cons]
    decide
  rw [JsonValue.points, List.cons_append, List.append_assoc, List.singleton_append,
    asText_char (by decide), readValue, skipWhitespace_state_cons _ _ (by decide)]
  unfold ScanState.advance Cursor.advance
  dsimp only
  rw [List.drop_succ_cons, List.drop_zero, at_cons, if_pos (by decide), notClosed,
    if_neg Bool.false_ne_true, readMembers_skipped, inner, ← JsonValue.points, isWidth,
    valueViolations, ← Nat.add_assoc, ← Nat.add_assoc]

private theorem separator_facts (after : Blank) {character : Char} (basic : character.toNat < 0x10000)
    (visible : isWhitespace (unit character) = false) (rest : List Nat) (other : Char) :
    (ScanState.mk ⟨index, asText (after.val ++ character.toNat :: rest)⟩
        violations).skipWhitespace.at other = decide (unit character = unit other) ∧
      (ScanState.mk ⟨index, asText (after.val ++ character.toNat :: rest)⟩
        violations).skipWhitespace.advance 1 =
          ⟨⟨index + width after.val + 1, asText rest⟩, violations⟩ := by
  rw [skipWhitespace_state_char _ _ after basic visible]
  exact ⟨at_cons, rfl⟩

variable {seenKeys : List JsString} {key : List CharToken}

private theorem readMembers_key {beforeKey afterKey : Blank} :
    readMembers (fuel + 1) path seenKeys ⟨⟨index, asText (beforeKey.val ++
        (stringPoints key ++ (afterKey.val ++ ':'.toNat :: rest)))⟩, violations⟩ =
      (readValue fuel (childPath path (stringValue key))
        ⟨⟨index + width beforeKey.val + width (stringPoints key) + width afterKey.val + 1,
            asText rest⟩,
          violations ++
            keyViolations path (index + width beforeKey.val) seenKeys (stringValue key)⟩).bind
        fun value =>
          let atSeparator := value.skipWhitespace
          if atSeparator.at ',' then
            readMembers fuel path (seenKeys ++ [stringValue key]) (atSeparator.advance 1)
          else if atSeparator.at '\x7d' then .ok (atSeparator.advance 1)
          else fail atSeparator.toCursor "expected ',' or '\x7d' in object" := by
  have atKey : (ScanState.mk ⟨index, asText (beforeKey.val ++
      (stringPoints key ++ (afterKey.val ++ ':'.toNat :: rest)))⟩ violations).skipWhitespace =
        ⟨⟨index + width beforeKey.val,
          asText (stringPoints key ++ (afterKey.val ++ ':'.toNat :: rest))⟩, violations⟩ := by
    rw [skipWhitespace_state_blank, asText_string, skipWhitespace_state_cons _ _ (by decide)]
  have colon := separator_facts (index + width beforeKey.val + width (stringPoints key))
    (violations ++ keyViolations path (index + width beforeKey.val) seenKeys (stringValue key))
    afterKey (show ':'.toNat < 0x10000 by decide) (by decide) rest ':'
  rw [readMembers, atKey]
  dsimp only
  rw [readString_string, ok_bind]
  dsimp only
  rw [colon.1, if_pos (by decide), colon.2]
  rfl

end Values

-- The same fuel as for `JSON.parse`: a bracket pays for the call of its loop.
mutual

theorem readValue_points : ∀ (value : JsonValue) (path : JsString) (index fuel : Nat)
    (violations : List StrictAdmissionViolation) (rest : List Nat),
    2 * value.points.length ≤ fuel + 1 → NumberEnd (asText rest) →
      readValue (fuel + 1) path ⟨⟨index, asText (value.points ++ rest)⟩, violations⟩ =
        .ok ⟨⟨index + width value.points, asText rest⟩,
          violations ++ valueViolations path index value⟩
  | .null, path, index, fuel, violations, rest, _, _ => by
    rw [asText_null, readValue_scalar path index violations (by decide) (by decide) (by decide)
      (by decide), valueViolations, List.append_nil]
    rfl
  | .bool true, path, index, fuel, violations, rest, _, _ => by
    rw [asText_true, readValue_scalar path index violations (by decide) (by decide) (by decide)
      (by decide), valueViolations, List.append_nil]
    rfl
  | .bool false, path, index, fuel, violations, rest, _, _ => by
    rw [asText_false, readValue_scalar path index violations (by decide) (by decide) (by decide)
      (by decide), valueViolations, List.append_nil]
    rfl
  | .number literal, path, index, fuel, violations, rest, _, ends =>
    readValue_literal path index violations literal ends
  | .string chars, path, index, fuel, violations, rest, _, _ => by
    have read := readString_string chars index rest
    rw [asText_string] at read
    rw [JsonValue.points, asText_string, readValue, skipWhitespace_state_cons _ _ (by decide)]
    dsimp only
    rw [at_cons, at_cons, at_cons, if_neg (by decide), if_neg (by decide), if_pos (by decide),
      read, valueViolations, List.append_nil]
    rfl
  | .emptyArray blank, path, index, fuel, violations, rest, _, _ => by
    rw [valueViolations, List.append_nil]
    exact readValue_empty path index violations (.emptyArray blank) '[' ']' (Or.inl ⟨rfl, rfl⟩)
      blank rfl rest
  | .emptyObject blank, path, index, fuel, violations, rest, _, _ => by
    rw [valueViolations, List.append_nil]
    exact readValue_empty path index violations (.emptyObject blank) '\x7b' '\x7d'
      (Or.inr ⟨rfl, rfl⟩) blank rfl rest
  | .array items, path, index, fuel, violations, rest, enough, _ => by
    have positive := length_items items
    simp only [JsonValue.points, List.length_cons, List.length_append, List.length_nil] at enough
    rcases Nat.exists_eq_add_of_le' (show 2 ≤ fuel by omega) with ⟨less, rfl⟩
    exact readValue_array path index violations
      (readItems_points items path 0 (index + 1) less violations rest (by omega))
  | .object members, path, index, fuel, violations, rest, enough, _ => by
    have positive := length_members members
    simp only [JsonValue.points, List.length_cons, List.length_append, List.length_nil] at enough
    rcases Nat.exists_eq_add_of_le' (show 2 ≤ fuel by omega) with ⟨less, rfl⟩
    exact readValue_object path index violations
      (readMembers_points members path [] (index + 1) less violations rest (by omega))

theorem readItems_points : ∀ (items : JsonItems) (path : JsString) (position index fuel : Nat)
    (violations : List StrictAdmissionViolation) (rest : List Nat),
    2 * items.points.length ≤ fuel + 1 →
      readItems (fuel + 2) path position
        ⟨⟨index, asText (items.points ++ ']'.toNat :: rest)⟩, violations⟩ =
          .ok ⟨⟨index + width items.points + 1, asText rest⟩,
            violations ++ itemsViolations path position index items⟩
  | .last before value after, path, position, index, fuel, violations, rest, enough => by
    have isWidth : width (JsonItems.last before value after).points =
        width before.val + width value.points + width after.val := by
      rw [JsonItems.points, width_append, width_append, Nat.add_assoc]
    have separator := separator_facts (index + width before.val + width value.points)
      (violations ++ valueViolations (childPath path (natText position))
        (index + width before.val) value)
      after (show ']'.toNat < 0x10000 by decide) (by decide) rest
    have ends := numberEnd_blank_char after (show ']'.toNat < 0x10000 by decide) (by decide) rest
    simp only [JsonItems.points, List.length_append] at enough
    rw [isWidth, JsonItems.points, List.append_assoc, List.append_assoc, readItems,
      readValue_blank, readValue_points value _ _ fuel _ _ (by omega) ends, ok_bind]
    dsimp only
    rw [(separator ',').1, if_neg (by decide), (separator ']').1, if_pos (by decide),
      (separator ']').2, itemsViolations, ← Nat.add_assoc, ← Nat.add_assoc]
  | .more before value after others, path, position, index, fuel, violations, rest, enough => by
    have positive := length_items others
    have isWidth : width (JsonItems.more before value after others).points =
        width before.val + width value.points + width after.val + 1 + width others.points := by
      rw [JsonItems.points, width_append, width_append, width_append, width_char (by decide)]
      omega
    simp only [JsonItems.points, List.length_append, List.length_cons] at enough
    rcases Nat.exists_eq_add_of_le' (show 1 ≤ fuel by omega) with ⟨less, rfl⟩
    have separator := separator_facts (index + width before.val + width value.points)
      (violations ++ valueViolations (childPath path (natText position))
        (index + width before.val) value)
      after (show ','.toNat < 0x10000 by decide) (by decide) (others.points ++ ']'.toNat :: rest) ','
    have ends := numberEnd_blank_char after (show ','.toNat < 0x10000 by decide) (by decide)
      (others.points ++ ']'.toNat :: rest)
    rw [isWidth, JsonItems.points, List.append_assoc, List.append_assoc, List.append_assoc,
      List.cons_append, readItems, readValue_blank,
      readValue_points value _ _ (less + 1) _ _ (by omega) ends, ok_bind]
    dsimp only
    rw [separator.1, if_pos (by decide), separator.2]
    rw [readItems_points others path _ _ less _ rest (by omega), itemsViolations,
      List.append_assoc]
    congr 3
    omega

theorem readMembers_points : ∀ (members : JsonMembers) (path : JsString)
    (seenKeys : List JsString) (index fuel : Nat) (violations : List StrictAdmissionViolation)
    (rest : List Nat), 2 * members.points.length ≤ fuel + 1 →
      readMembers (fuel + 2) path seenKeys
        ⟨⟨index, asText (members.points ++ '\x7d'.toNat :: rest)⟩, violations⟩ =
          .ok ⟨⟨index + width members.points + 1, asText rest⟩,
            violations ++ membersViolations path seenKeys index members⟩
  | .last beforeKey key afterKey before value after, path, seenKeys, index, fuel, violations, rest,
      enough => by
      have separator := separator_facts
        (index + width beforeKey.val + width (stringPoints key) + width afterKey.val + 1 +
          width before.val + width value.points)
        (violations ++ keyViolations path (index + width beforeKey.val) seenKeys (stringValue key) ++
          valueViolations (childPath path (stringValue key)) (index + width beforeKey.val +
            width (stringPoints key) + width afterKey.val + 1 + width before.val) value)
        after (show '\x7d'.toNat < 0x10000 by decide) (by decide) rest
      have isWidth :
          index + width (JsonMembers.last beforeKey key afterKey before value after).points =
            index + width beforeKey.val + width (stringPoints key) + width afterKey.val + 1 +
              width before.val + width value.points + width after.val := by
        rw [JsonMembers.points]
        simp only [width_append, width_char (show ':'.toNat < 0x10000 by decide)]
        omega
      have ends := numberEnd_blank_char after (show '\x7d'.toNat < 0x10000 by decide) (by decide) rest
      simp only [JsonMembers.points, List.length_append, List.length_cons] at enough
      rw [isWidth]
      simp only [JsonMembers.points, List.append_assoc, List.cons_append]
      rw [readMembers_key, readValue_blank, readValue_points value _ _ fuel _ _ (by omega) ends]
      change (if _ then _ else _) = _
      rw [(separator ',').1, if_neg (by decide)]
      change (if _ then _ else _) = _
      rw [(separator '\x7d').1, if_pos (by decide), (separator '\x7d').2, membersViolations,
        List.append_assoc]
  | .more beforeKey key afterKey before value after others, path, seenKeys, index, fuel, violations,
      rest, enough => by
      have positive := length_members others
      have isWidth :
          width (JsonMembers.more beforeKey key afterKey before value after others).points =
            width beforeKey.val + width (stringPoints key) + width afterKey.val + 1 +
              width before.val + width value.points + width after.val + 1 +
                width others.points := by
        rw [JsonMembers.points]
        simp only [width_append, width_char (show ':'.toNat < 0x10000 by decide),
          width_char (show ','.toNat < 0x10000 by decide)]
        omega
      simp only [JsonMembers.points, List.length_append, List.length_cons] at enough
      rcases Nat.exists_eq_add_of_le' (show 1 ≤ fuel by omega) with ⟨less, rfl⟩
      have separator := separator_facts
        (index + width beforeKey.val + width (stringPoints key) + width afterKey.val + 1 +
          width before.val + width value.points)
        (violations ++ keyViolations path (index + width beforeKey.val) seenKeys (stringValue key) ++
          valueViolations (childPath path (stringValue key)) (index + width beforeKey.val +
            width (stringPoints key) + width afterKey.val + 1 + width before.val) value)
        after (show ','.toNat < 0x10000 by decide) (by decide)
        (others.points ++ '\x7d'.toNat :: rest) ','
      have ends := numberEnd_blank_char after (show ','.toNat < 0x10000 by decide) (by decide)
        (others.points ++ '\x7d'.toNat :: rest)
      rw [isWidth]
      simp only [JsonMembers.points, List.append_assoc, List.cons_append]
      rw [readMembers_key, readValue_blank,
        readValue_points value _ _ (less + 1) _ _ (by omega) ends]
      change (if _ then _ else _) = _
      rw [separator.1, if_pos (by decide), separator.2]
      rw [readMembers_points others path _ _ less _ rest (by omega), membersViolations]
      simp only [List.append_assoc]
      congr 3
      omega

end

/-- **Scanning.** On a JSON text the scanner returns the violations of its tree. -/
theorem findStrictAdmissionViolations_text (document : Document) :
    findStrictAdmissionViolations document.text =
      .ok (valueViolations [] (width document.before.val) document.value) := by
  have trailing : ∀ (index : Nat) (violations : List StrictAdmissionViolation),
      (ScanState.mk ⟨index, asText document.after.val⟩ violations).skipWhitespace =
        ⟨⟨index + width document.after.val, []⟩, violations⟩ := by
    intro index violations
    have skipped := skipWhitespace_state_blank index violations document.after []
    rwa [List.append_nil] at skipped
  have length : document.text.length = width document.before.val + width document.value.points +
      width document.after.val := by
    change width document.points = _
    rw [Document.points, width_append, width_append, Nat.add_assoc]
  have read := readValue_points document.value [] (width document.before.val) _ []
    document.after.val document.enough document.numberEnd_after
  unfold findStrictAdmissionViolations
  rw [show document.text = asText (document.before.val ++ (document.value.points ++
      document.after.val)) from rfl, readValue_blank, Nat.zero_add]
  rw [show asText (document.before.val ++ (document.value.points ++ document.after.val)) =
      document.text from rfl, read, ok_bind, trailing]
  dsimp only
  rw [length, if_neg (fun differs => differs rfl), List.nil_append]
  rfl

/-! ### Repeated keys -/

/-- Some violation is of the given rule. -/
def Reports (rule : StrictAdmissionRuleId) (violations : List StrictAdmissionViolation) : Prop :=
  ∃ violation ∈ violations, violation.rule = rule

theorem reports_append {rule : StrictAdmissionRuleId} {left right : List StrictAdmissionViolation} :
    Reports rule (left ++ right) ↔ Reports rule left ∨ Reports rule right := by
  unfold Reports
  simp only [List.mem_append, or_and_right, exists_or]

theorem not_reports_nil (rule : StrictAdmissionRuleId) : ¬ Reports rule [] := by
  rintro ⟨violation, member, -⟩
  cases member

variable {path : JsString}

theorem not_reports_duplicate_numberViolations {offset : Nat} {isInteger : Bool}
    {literal : JsString} :
    ¬ Reports .duplicate_object_key (numberViolations path offset isInteger literal) := by
  rintro ⟨violation, member, isRule⟩
  unfold numberViolations at member
  rcases List.mem_append.mp member with inSafe | inDigits
  · split at inSafe
    · rw [List.mem_singleton.mp inSafe] at isRule
      cases isRule
    · cases inSafe
  · split at inDigits
    · rw [List.mem_singleton.mp inDigits] at isRule
      cases isRule
    · cases inDigits

theorem reports_keyViolations_iff {offset : Nat} {seenKeys : List JsString} {key : JsString} :
    Reports .duplicate_object_key (keyViolations path offset seenKeys key) ↔ key ∈ seenKeys := by
  unfold keyViolations
  by_cases seen : key ∈ seenKeys
  · rw [if_pos (List.contains_iff_mem.mpr seen)]
    exact iff_of_true ⟨_, List.mem_singleton.mpr rfl, rfl⟩ seen
  · rw [if_neg (mt List.contains_iff_mem.mp seen)]
    exact iff_of_false (not_reports_nil _) seen

/-- Keys that are distinct, and none of them seen before. -/
def Fresh (seenKeys keys : List JsString) : Prop := keys.Nodup ∧ ∀ key ∈ keys, key ∉ seenKeys

theorem fresh_cons_iff {seenKeys keys : List JsString} {key : JsString} :
    Fresh seenKeys (key :: keys) ↔ key ∉ seenKeys ∧ Fresh (seenKeys ++ [key]) keys := by
  unfold Fresh
  simp only [List.nodup_cons, List.forall_mem_cons, List.mem_append, List.mem_singleton, not_or]
  constructor
  · rintro ⟨⟨notLater, nodup⟩, notSeen, others⟩
    refine ⟨notSeen, nodup, fun other member => ⟨others other member, ?_⟩⟩
    rintro rfl
    exact notLater member
  · rintro ⟨notSeen, nodup, others⟩
    exact ⟨⟨fun later => (others key later).2 rfl, nodup⟩, notSeen,
      fun other member => (others other member).1⟩

mutual

private theorem not_reports_value : ∀ (value : JsonValue) (path : JsString) (offset : Nat),
    ¬ Reports .duplicate_object_key (valueViolations path offset value) ↔ value.KeysDistinct
  | .null, _, _ => iff_of_true (not_reports_nil _) (by rintro keys ⟨⟩)
  | .bool _, _, _ => iff_of_true (not_reports_nil _) (by rintro keys ⟨⟩)
  | .string _, _, _ => iff_of_true (not_reports_nil _) (by rintro keys ⟨⟩)
  | .number _, _, _ => iff_of_true not_reports_duplicate_numberViolations (by rintro keys ⟨⟩)
  | .emptyArray _, _, _ => iff_of_true (not_reports_nil _) (by rintro keys ⟨⟩)
  | .emptyObject _, _, _ =>
    iff_of_true (not_reports_nil _)
      (List.forall_mem_singleton.mpr List.nodup_nil)
  | .array items, path, offset => not_reports_items items path 0 (offset + 1)
  | .object members, path, offset => by
    have fresh : Fresh [] members.keys ↔ members.keys.Nodup :=
      and_iff_left fun key _ => List.not_mem_nil
    unfold JsonValue.KeysDistinct
    rw [valueViolations, not_reports_members members path [] (offset + 1), fresh,
      JsonValue.objects, List.forall_mem_cons]

private theorem not_reports_items : ∀ (items : JsonItems) (path : JsString) (position offset : Nat),
    ¬ Reports .duplicate_object_key (itemsViolations path position offset items) ↔
      ∀ keys ∈ items.objects, keys.Nodup
  | .last before value _, path, position, offset => not_reports_value value _ _
  | .more before value after rest, path, position, offset => by
    rw [itemsViolations, reports_append, not_or, not_reports_value value, not_reports_items rest,
      JsonItems.objects, List.forall_mem_append]
    rfl

private theorem not_reports_members : ∀ (members : JsonMembers) (path : JsString)
    (seenKeys : List JsString) (offset : Nat),
    ¬ Reports .duplicate_object_key (membersViolations path seenKeys offset members) ↔
      Fresh seenKeys members.keys ∧ ∀ keys ∈ members.objects, keys.Nodup
  | .last beforeKey key afterKey before value _, path, seenKeys, offset => by
    have single : Fresh (seenKeys ++ [stringValue key]) [] :=
      ⟨List.nodup_nil, fun other member => by cases member⟩
    rw [membersViolations, reports_append, not_or, reports_keyViolations_iff,
      not_reports_value value, JsonMembers.keys, fresh_cons_iff, and_iff_left single]
    rfl
  | .more beforeKey key afterKey before value after rest, path, seenKeys, offset => by
    rw [membersViolations, reports_append, reports_append, not_or, not_or,
      reports_keyViolations_iff, not_reports_value value, not_reports_members rest,
      JsonMembers.keys, fresh_cons_iff, JsonMembers.objects, List.forall_mem_append]
    unfold JsonValue.KeysDistinct
    tauto

end

/-- A duplicate is reported exactly if some object repeats a key. -/
theorem reports_duplicate_iff {value : JsonValue} {offset : Nat} :
    Reports .duplicate_object_key (valueViolations path offset value) ↔
      ∃ keys ∈ value.objects, ¬ keys.Nodup := by
  rw [← not_iff_not, not_reports_value]
  unfold JsonValue.KeysDistinct
  simp only [not_exists, not_and, not_not]

/-- **Exact detection.** A JSON text is scanned without an exception; a repeated key is reported
exactly when an object at some depth has one, after escape decoding; and a text without such a
report is parsed with every member kept. -/
theorem duplicateKeyDetection_exact (numbers : NumberText) (document : Document) :
    ∃ violations, findStrictAdmissionViolations document.text = .ok violations ∧
      (Reports .duplicate_object_key violations ↔
        ∃ keys ∈ document.value.objects, ¬ keys.Nodup) ∧
      (¬ Reports .duplicate_object_key violations →
        parse numbers document.text = some (document.value.written numbers)) := by
  refine ⟨_, findStrictAdmissionViolations_text document, reports_duplicate_iff, fun absent => ?_⟩
  exact parse_document_of_keysDistinct numbers ((not_reports_value _ _ _).mp absent)

end GhostArk.ReceiptSchema
