import Mathlib.Data.List.TakeWhile
import GhostArk.Js.Double
import GhostArk.Js.JsonGrammar

/-!
Contract: the number literals of JSON as texts, and as doubles.

Owns the text of a literal piece by piece, its agreement with the executable
number grammar in both directions, and the number that `Number(text)` gives: the double nearest to
what the literal denotes.
-/

namespace GhostArk.Js.JsonGrammar

/-! ### Digits -/

def digitUnit (digit : Digit) : CodeUnit := Fin.ofNat 65536 (digitPoint digit)

def digitText (digits : List Digit) : JsString := digits.map digitUnit

def DigitEnd (text : JsString) : Prop := ∀ codeUnit ∈ text.head?, isDigit codeUnit = false

theorem digitUnit_facts (digit : Digit) :
    isDigit (digitUnit digit) = true ∧ isNumberUnit (digitUnit digit) = true ∧
      (digitUnit digit).val - 48 = digit.val ∧ digitPoint digit < 0x80 ∧
      (digitUnit digit = unit '0' ↔ digit = 0) := by
  revert digit
  decide

theorem isDigit_digitText {digits : List Digit} {codeUnit : CodeUnit}
    (member : codeUnit ∈ digitText digits) : isDigit codeUnit = true := by
  rcases List.mem_map.mp member with ⟨digit, -, rfl⟩
  exact (digitUnit_facts digit).1

theorem asText_digitPoints (digits : List Digit) : asText (digitPoints digits) = digitText digits := by
  induction digits with
  | nil => rfl
  | cons digit rest ih =>
    have basic : digitPoint digit < 0x10000 := by
      have small := (digitUnit_facts digit).2.2.2.1
      omega
    change asText (digitPoint digit :: digitPoints rest) = digitUnit digit :: digitText rest
    rw [asText_cons basic, ih, digitUnit]

theorem digitEnd_cons {codeUnit : CodeUnit} (notDigit : isDigit codeUnit = false)
    (rest : JsString) : DigitEnd (codeUnit :: rest) := by
  intro other member
  rw [List.head?_cons, Option.mem_some_iff] at member
  rwa [← member]

theorem digitEnd_nil : DigitEnd [] := by
  intro other member
  cases member

theorem span_digitText (digits : List Digit) {rest : JsString} (ends : DigitEnd rest) :
    (digitText digits ++ rest).takeWhile isDigit = digitText digits ∧
      (digitText digits ++ rest).dropWhile isDigit = rest := by
  have stops : rest.takeWhile isDigit = [] ∧ rest.dropWhile isDigit = rest := by
    cases rest with
    | nil => exact ⟨rfl, rfl⟩
    | cons first tail =>
      have notDigit := ends first rfl
      exact ⟨List.takeWhile_cons_of_neg (by simp [notDigit]),
        List.dropWhile_cons_of_neg (by simp [notDigit])⟩
  have areDigits : ∀ codeUnit ∈ digitText digits, isDigit codeUnit = true :=
    fun codeUnit => isDigit_digitText
  rw [List.takeWhile_append_of_pos areDigits, List.dropWhile_append_of_pos areDigits, stops.1,
    stops.2, List.append_nil]
  exact ⟨rfl, rfl⟩

theorem skipDigits_digitText (digits : Digits) {rest : JsString} (ends : DigitEnd rest) :
    skipDigits (digitText digits.all ++ rest) = some rest := by
  have isFirst := (digitUnit_facts digits.first).1
  change skipDigits (digitUnit digits.first :: (digitText digits.rest ++ rest)) = some rest
  rw [skipDigits, if_pos isFirst, (span_digitText digits.rest ends).2]

def ExponentPart.signText (exponent : ExponentPart) : JsString :=
  match exponent.sign with
  | none => []
  | some negative => [unit (if negative then '-' else '+')]

def ExponentPart.text (exponent : ExponentPart) : JsString :=
  unit (if exponent.upper then 'E' else 'e') :: (exponent.signText ++ digitText exponent.digits.all)

namespace NumberLiteral

def signText (literal : NumberLiteral) : JsString := if literal.minus then [unit '-'] else []

def fractionText (literal : NumberLiteral) : JsString :=
  match literal.fraction with
  | none => []
  | some digits => unit '.' :: digitText digits.all

def exponentText (literal : NumberLiteral) : JsString :=
  match literal.exponent with
  | none => []
  | some exponent => exponent.text

theorem asText_exponent (exponent : ExponentPart) : asText exponent.points = exponent.text := by
  have mark : ∀ upper : Bool, (if upper then 'E' else 'e').toNat < 0x10000 := by decide
  unfold ExponentPart.points ExponentPart.text ExponentPart.signText
  rw [List.cons_append, asText_cons (mark _), asText_append, asText_digitPoints]
  cases exponent.sign with
  | none => rfl
  | some negative =>
    cases negative with
    | true => rfl
    | false => rfl

theorem text_eq (literal : NumberLiteral) :
    literal.text = literal.signText ++
      (digitText literal.integer.digits ++ (literal.fractionText ++ literal.exponentText)) := by
  have sign : asText (if literal.minus then ['-'.toNat] else []) = literal.signText := by
    unfold signText
    cases literal.minus with
    | true => rfl
    | false => rfl
  have fraction : asText literal.fractionPoints = literal.fractionText := by
    unfold fractionPoints fractionText
    cases literal.fraction with
    | none => rfl
    | some digits =>
      dsimp only
      rw [asText_cons (by decide), asText_digitPoints]
      rfl
  have exponent : asText literal.exponentPoints = literal.exponentText := by
    unfold exponentPoints exponentText
    cases literal.exponent with
    | none => rfl
    | some exponent => exact asText_exponent exponent
  unfold text points
  rw [asText_append, asText_append, asText_append, sign, asText_digitPoints, fraction, exponent,
    List.append_assoc, List.append_assoc]

variable {rest : JsString}

theorem digitEnd_exponentText (literal : NumberLiteral) (ends : DigitEnd rest) :
    DigitEnd (literal.exponentText ++ rest) := by
  have mark : ∀ upper : Bool, isDigit (unit (if upper then 'E' else 'e')) = false := by decide
  unfold exponentText
  cases literal.exponent with
  | none => exact ends
  | some exponent => exact digitEnd_cons (mark _) _

theorem digitEnd_fractionText (literal : NumberLiteral) (ends : DigitEnd rest) :
    DigitEnd (literal.fractionText ++ (literal.exponentText ++ rest)) := by
  unfold fractionText
  cases literal.fraction with
  | none => exact digitEnd_exponentText literal ends
  | some digits => exact digitEnd_cons (by decide) _

/-! ### The executable grammar -/

theorem integer_first (integer : IntegerPart) :
    ∃ first rest, integer.digits = first :: rest ∧ (first = 0 → rest = []) := by
  cases integer with
  | zero => exact ⟨0, [], rfl, fun _ => rfl⟩
  | nonzero first rest => exact ⟨first.succ, rest, rfl, fun isZero => absurd isZero first.succ_ne_zero⟩

theorem skipInteger_integer (integer : IntegerPart) (ends : DigitEnd rest) :
    skipInteger (digitText integer.digits ++ rest) = some rest := by
  rcases integer_first integer with ⟨first, others, isDigits, alone⟩
  rw [isDigits]
  change skipInteger (digitUnit first :: (digitText others ++ rest)) = some rest
  rw [skipInteger]
  by_cases isZero : first = 0
  · rw [if_pos ((digitUnit_facts first).2.2.2.2.mpr isZero), alone isZero]
    rfl
  · rw [if_neg (mt (digitUnit_facts first).2.2.2.2.mp isZero)]
    exact skipDigits_digitText ⟨first, others⟩ ends

private theorem skipFraction_fraction (literal : NumberLiteral) :
    skipFraction (literal.fractionText ++ literal.exponentText) = some literal.exponentText := by
  have ends : DigitEnd (literal.exponentText ++ []) := digitEnd_exponentText literal digitEnd_nil
  rw [List.append_nil] at ends
  unfold fractionText
  cases literal.fraction with
  | some digits =>
    dsimp only
    rw [List.cons_append, skipFraction, if_pos rfl, skipDigits_digitText digits ends]
  | none =>
    have notPoint : ∀ upper : Bool, unit (if upper then 'E' else 'e') ≠ unit '.' := by decide
    dsimp only
    rw [List.nil_append]
    unfold exponentText
    cases literal.exponent with
    | none => rfl
    | some exponent =>
      dsimp only
      rw [ExponentPart.text, skipFraction, if_neg (notPoint _)]

private theorem skipExponent_exponent (literal : NumberLiteral) :
    skipExponent literal.exponentText = some [] := by
  have mark : ∀ upper : Bool, unit (if upper then 'E' else 'e') = unit 'e' ∨
      unit (if upper then 'E' else 'e') = unit 'E' := by decide
  have sign : ∀ negative : Bool, unit (if negative then '-' else '+') = unit '+' ∨
      unit (if negative then '-' else '+') = unit '-' := by decide
  unfold exponentText
  cases literal.exponent with
  | none => rfl
  | some exponent =>
    have skipped := skipDigits_digitText exponent.digits digitEnd_nil
    rw [List.append_nil] at skipped
    dsimp only
    rw [ExponentPart.text, skipExponent.eq_def]
    dsimp only
    rw [if_pos (mark _), ExponentPart.signText]
    cases exponent.sign with
    | some negative =>
      change (if _ then _ else _) = _
      rw [if_pos (sign _)]
      exact skipped
    | none =>
      have notSign : ∀ digit : Digit,
          ¬ (digitUnit digit = unit '+' ∨ digitUnit digit = unit '-') := by
        decide
      change (if _ then _ else _) = _
      rw [if_neg (notSign _)]
      exact skipped

theorem isJsonNumber_text (literal : NumberLiteral) : isJsonNumber literal.text = true := by
  have ends : DigitEnd (literal.fractionText ++ (literal.exponentText ++ [])) :=
    digitEnd_fractionText literal digitEnd_nil
  rw [List.append_nil] at ends
  have read : ((skipInteger (digitText literal.integer.digits ++
      (literal.fractionText ++ literal.exponentText))).bind skipFraction).bind skipExponent =
        some [] := by
    rw [skipInteger_integer literal.integer ends, Option.bind_some, skipFraction_fraction literal,
      Option.bind_some, skipExponent_exponent]
  have notMinus : ∀ digit : Digit, some (digitUnit digit) ≠ some (unit '-') := by decide
  unfold isJsonNumber
  rw [text_eq, signText]
  cases literal.minus with
  | true => simpa using read
  | false =>
    rcases integer_first literal.integer with ⟨first, others, isDigits, -⟩
    have isHead : (digitText literal.integer.digits ++
        (literal.fractionText ++ literal.exponentText)).head? = some (digitUnit first) := by
      rw [isDigits]
      rfl
    rw [if_neg Bool.false_ne_true, List.nil_append]
    dsimp only
    rw [isHead, if_neg (notMinus first), read]
    rfl

theorem isNumberUnit_text (literal : NumberLiteral) {codeUnit : CodeUnit}
    (member : codeUnit ∈ literal.text) : isNumberUnit codeUnit = true := by
  have digits : ∀ {digits : List Digit}, codeUnit ∈ digitText digits →
      isNumberUnit codeUnit = true := by
    intro digits inDigits
    rw [isNumberUnit, isDigit_digitText inDigits]
    rfl
  have marks : ∀ flag : Bool, isNumberUnit (unit (if flag then 'E' else 'e')) = true ∧
      isNumberUnit (unit (if flag then '-' else '+')) = true := by decide
  rw [text_eq, signText, fractionText, exponentText] at member
  rcases List.mem_append.mp member with inSign | member
  · cases minus : literal.minus with
    | true =>
      rw [minus, if_pos rfl, List.mem_singleton] at inSign
      rw [inSign]
      decide
    | false =>
      rw [minus] at inSign
      cases inSign
  rcases List.mem_append.mp member with inInteger | member
  · exact digits inInteger
  rcases List.mem_append.mp member with inFraction | inExponent
  · cases fraction : literal.fraction with
    | none =>
      rw [fraction] at inFraction
      cases inFraction
    | some found =>
      rw [fraction] at inFraction
      rcases List.mem_cons.mp inFraction with rfl | inDigits
      · decide
      · exact digits inDigits
  · cases exponent : literal.exponent with
    | none =>
      rw [exponent] at inExponent
      cases inExponent
    | some found =>
      rw [exponent] at inExponent
      rcases List.mem_cons.mp inExponent with rfl | inRest
      · exact (marks _).1
      rcases List.mem_append.mp inRest with inSign | inDigits
      · unfold ExponentPart.signText at inSign
        cases sign : found.sign with
        | none =>
          rw [sign] at inSign
          cases inSign
        | some negative =>
          rw [sign, List.mem_singleton] at inSign
          rw [inSign]
          exact (marks _).2
      · exact digits inDigits

/-! ### Texts of the executable grammar -/

theorem exists_digit {codeUnit : CodeUnit} (inDigits : isDigit codeUnit = true) :
    ∃ digit, digitUnit digit = codeUnit := by
  have zero : '0'.toNat = 48 := rfl
  have nine : '9'.toNat = 57 := rfl
  simp only [isDigit, inRange, Bool.and_eq_true, decide_eq_true_eq, zero, nine] at inDigits
  refine ⟨⟨codeUnit.val - 48, by omega⟩, Fin.ext ?_⟩
  change (48 + (codeUnit.val - 48)) % 65536 = codeUnit.val
  have bounded := codeUnit.isLt
  omega

theorem exists_digitText {run : JsString} (inDigits : ∀ codeUnit ∈ run, isDigit codeUnit = true) :
    ∃ digits, digitText digits = run := by
  induction run with
  | nil => exact ⟨[], rfl⟩
  | cons codeUnit rest ih =>
    rw [List.forall_mem_cons] at inDigits
    rcases exists_digit inDigits.1 with ⟨digit, rfl⟩
    rcases ih inDigits.2 with ⟨digits, rfl⟩
    exact ⟨digit :: digits, rfl⟩

theorem exists_of_skipDigits {text rest : JsString} (skipped : skipDigits text = some rest) :
    ∃ digits : Digits, text = digitText digits.all ++ rest := by
  cases text with
  | nil => cases skipped
  | cons first others =>
    rw [skipDigits] at skipped
    split at skipped
    next inDigits =>
      rcases exists_digit inDigits with ⟨digit, rfl⟩
      have run : ∀ codeUnit ∈ others.takeWhile isDigit, isDigit codeUnit = true :=
        fun _ => List.mem_takeWhile_imp
      rcases exists_digitText run with ⟨digits, isRun⟩
      refine ⟨⟨digit, digits⟩, ?_⟩
      change _ = digitUnit digit :: (digitText digits ++ rest)
      rw [isRun, ← Option.some.inj skipped, List.takeWhile_append_dropWhile]
    next => cases skipped

theorem exists_of_skipInteger {text rest : JsString} (skipped : skipInteger text = some rest) :
    ∃ integer : IntegerPart, text = digitText integer.digits ++ rest := by
  cases text with
  | nil => cases skipped
  | cons first others =>
    rw [skipInteger] at skipped
    split at skipped
    next isZero =>
      rw [isZero, ← Option.some.inj skipped]
      exact ⟨.zero, rfl⟩
    next notZero =>
      rcases exists_of_skipDigits skipped with ⟨⟨digit, digits⟩, isText⟩
      have isFirst : first = digitUnit digit := (List.cons.inj isText).1
      have positive : digit ≠ 0 := by
        rintro rfl
        exact notZero isFirst
      refine ⟨.nonzero (digit.pred positive) digits, ?_⟩
      rw [IntegerPart.digits, Fin.succ_pred]
      exact isText

theorem exists_of_skipFraction {text rest : JsString} (skipped : skipFraction text = some rest) :
    ∃ fraction : Option Digits,
      text = (fraction.elim [] fun digits => unit '.' :: digitText digits.all) ++ rest := by
  cases text with
  | nil => exact ⟨none, Option.some.inj skipped⟩
  | cons first others =>
    rw [skipFraction] at skipped
    split at skipped
    next isPoint =>
      rcases exists_of_skipDigits skipped with ⟨digits, rfl⟩
      rw [isPoint]
      exact ⟨some digits, rfl⟩
    next => exact ⟨none, Option.some.inj skipped⟩

theorem exists_of_skipExponent {text : JsString} (skipped : skipExponent text = some []) :
    ∃ exponent : Option ExponentPart, text = exponent.elim [] ExponentPart.text := by
  cases text with
  | nil => exact ⟨none, rfl⟩
  | cons first others =>
    rw [skipExponent.eq_def] at skipped
    dsimp only at skipped
    split at skipped
    next isMark =>
      have mark : ∃ upper : Bool, first = unit (if upper then 'E' else 'e') :=
        isMark.elim (fun lower => ⟨false, lower⟩) fun upper => ⟨true, upper⟩
      rcases mark with ⟨upper, rfl⟩
      cases others with
      | nil => cases skipped
      | cons second digitUnits =>
        change (if _ then _ else _) = _ at skipped
        split at skipped
        next isSign =>
          rcases exists_of_skipDigits skipped with ⟨digits, isDigits⟩
          rw [List.append_nil] at isDigits
          have sign : ∃ negative : Bool, second = unit (if negative then '-' else '+') :=
            isSign.elim (fun plus => ⟨false, plus⟩) fun minus => ⟨true, minus⟩
          rcases sign with ⟨negative, rfl⟩
          rw [isDigits]
          exact ⟨some ⟨upper, some negative, digits⟩, rfl⟩
        next =>
          rcases exists_of_skipDigits skipped with ⟨digits, isDigits⟩
          rw [List.append_nil] at isDigits
          rw [isDigits]
          exact ⟨some ⟨upper, none, digits⟩, rfl⟩
    next => cases skipped

theorem exists_of_isJsonNumber {text : JsString} (isNumber : isJsonNumber text = true) :
    ∃ literal : NumberLiteral, literal.text = text := by
  unfold isJsonNumber at isNumber
  rw [decide_eq_true_eq, Option.bind_eq_some_iff] at isNumber
  rcases isNumber with ⟨afterFraction, read, isExponent⟩
  rcases Option.bind_eq_some_iff.mp read with ⟨afterInteger, isInteger, isFraction⟩
  rcases exists_of_skipInteger isInteger with ⟨integer, integerText⟩
  rcases exists_of_skipFraction isFraction with ⟨fraction, fractionText⟩
  rcases exists_of_skipExponent isExponent with ⟨exponent, exponentText⟩
  rw [fractionText, exponentText] at integerText
  have spelled (minus : Bool) : (NumberLiteral.mk minus integer fraction exponent).text =
      (if minus then [unit '-'] else []) ++
        if text.head? = some (unit '-') then text.drop 1 else text := by
    rw [integerText, text_eq]
    cases fraction <;> cases exponent <;> rfl
  by_cases isMinus : text.head? = some (unit '-')
  · refine ⟨_, (spelled true).trans ?_⟩
    rw [if_pos isMinus, if_pos rfl]
    cases text with
    | nil => cases isMinus
    | cons first rest =>
      rw [Option.some.inj isMinus]
      rfl
  · refine ⟨_, (spelled false).trans ?_⟩
    rw [if_neg isMinus, if_neg Bool.false_ne_true, List.nil_append]

theorem head_text (literal : NumberLiteral) :
    ∃ first rest, literal.text = first :: rest ∧ (first = unit '-' ∨ isDigit first = true) := by
  rcases integer_first literal.integer with ⟨first, others, isDigits, -⟩
  rw [text_eq, isDigits, signText]
  cases literal.minus with
  | true => exact ⟨unit '-', _, rfl, Or.inl rfl⟩
  | false => exact ⟨digitUnit first, _, rfl, Or.inr (digitUnit_facts first).1⟩

/-! ### Doubles -/

theorem digitsNat_digitText (digits : List Digit) :
    digitsNat (digitText digits) = digitsValue digits := by
  unfold digitsNat digitsValue digitText
  rw [List.foldl_map]
  congr 1
  funext value digit
  rw [(digitUnit_facts digit).2.2.1]

private theorem digitsValue_digitText (digits : Digits) :
    Date.digitsValue (digitText digits.all) = some (digitsValue digits.all) := by
  have areDigits : (digitText digits.all).all isDigit = true :=
    List.all_eq_true.mpr fun codeUnit => isDigit_digitText
  have nonempty : digitText digits.all ≠ [] := List.cons_ne_nil _ _
  rw [Date.digitsValue, if_pos ⟨nonempty, areDigits⟩]
  exact congrArg some (digitsNat_digitText digits.all)

private theorem readSign_digits (first : Digit) (rest : JsString) :
    readSign (digitUnit first :: rest) = (false, digitUnit first :: rest) := by
  have notSign : ∀ digit : Digit, digitUnit digit ≠ unit '-' ∧ digitUnit digit ≠ unit '+' := by
    decide
  rw [readSign, if_neg (notSign first).1, if_neg (notSign first).2]

theorem readSign_signText (exponent : ExponentPart) :
    readSign (exponent.signText ++ digitText exponent.digits.all) =
      (decide (exponent.sign = some true), digitText exponent.digits.all) := by
  unfold ExponentPart.signText
  cases exponent.sign with
  | none => exact readSign_digits exponent.digits.first _
  | some negative =>
    cases negative with
    | true => rfl
    | false => rfl

private theorem readExponent_exponentText (literal : NumberLiteral) :
    readExponent literal.exponentText = some literal.exponentValue := by
  have mark : ∀ upper : Bool, unit (if upper then 'E' else 'e') = unit 'e' ∨
      unit (if upper then 'E' else 'e') = unit 'E' := by decide
  unfold exponentText exponentValue
  cases literal.exponent with
  | none => rfl
  | some exponent =>
    dsimp only
    rw [ExponentPart.text, readExponent, if_pos (mark _), readSign_signText,
      digitsValue_digitText]
    simp only [Option.bind_eq_bind, Option.bind_some, Option.pure_def, Option.map_some,
      decide_eq_true_eq]

private theorem readFraction_fractionText (literal : NumberLiteral) :
    readFraction (literal.fractionText ++ literal.exponentText) =
      (digitText (literal.fraction.elim [] Digits.all), literal.exponentText) := by
  have ends : DigitEnd (literal.exponentText ++ []) := digitEnd_exponentText literal digitEnd_nil
  rw [List.append_nil] at ends
  unfold fractionText
  cases literal.fraction with
  | some digits =>
    have span := span_digitText digits.all ends
    dsimp only
    rw [List.cons_append, readFraction, if_pos rfl, span.1, span.2]
    rfl
  | none =>
    have notPoint : ∀ upper : Bool, unit (if upper then 'E' else 'e') ≠ unit '.' := by decide
    dsimp only
    rw [List.nil_append]
    unfold exponentText
    cases literal.exponent with
    | none => rfl
    | some exponent =>
      dsimp only
      rw [ExponentPart.text, readFraction, if_neg (notPoint _)]
      rfl

theorem readDecimalLiteral_text (literal : NumberLiteral) :
    readDecimalLiteral literal.text =
      some ⟨literal.minus, digitText literal.integer.digits,
        digitText (literal.fraction.elim [] Digits.all), literal.exponentValue⟩ := by
  have ends : DigitEnd (literal.fractionText ++ (literal.exponentText ++ [])) :=
    digitEnd_fractionText literal digitEnd_nil
  rw [List.append_nil] at ends
  rcases integer_first literal.integer with ⟨first, others, isDigits, -⟩
  have isSigned : readSign literal.text = (literal.minus,
      digitText literal.integer.digits ++ (literal.fractionText ++ literal.exponentText)) := by
    rw [text_eq, signText, isDigits]
    cases literal.minus with
    | true => rfl
    | false => exact readSign_digits first _
  have nonempty : digitText literal.integer.digits ≠ [] := by
    rw [isDigits]
    exact List.cons_ne_nil _ _
  have span := span_digitText literal.integer.digits ends
  unfold readDecimalLiteral
  rw [isSigned]
  dsimp only
  rw [span.1, span.2, readFraction_fractionText, if_neg fun both => nonempty both.1,
    readExponent_exponentText]
  rfl

/-- A literal is read as the double of its value. -/
theorem numberOf_text (literal : NumberLiteral) : numberOf literal.text = double literal.value := by
  have sameValue : DecimalLiteral.value ⟨literal.minus, digitText literal.integer.digits,
      digitText (literal.fraction.elim [] Digits.all), literal.exponentValue⟩ = literal.value := by
    have joined (left right : List Digit) :
        digitText left ++ digitText right = digitText (left ++ right) :=
      List.map_append.symm
    have length (digits : List Digit) : (digitText digits).length = digits.length :=
      List.length_map _
    unfold DecimalLiteral.value value significand
    dsimp only
    rw [joined, digitsNat_digitText, length]
  unfold numberOf
  rw [readDecimalLiteral_text]
  dsimp only
  rw [sameValue]

end NumberLiteral

end GhostArk.Js.JsonGrammar
