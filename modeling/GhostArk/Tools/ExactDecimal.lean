import GhostArk.Js.Binary64
import GhostArk.Js.NumberLiteral

/-!
Contract: the exact number comparisons of `tools/experiments/rawJsonScan.ts`.

Owns the decompositions of number literals and of doubles, the two comparisons built on them, and
when each of them tells whether its arguments denote one rational.

Does not own: the scanner that finds the literals, and the size at which an engine refuses a BigInt.
-/

namespace GhostArk.Tools

open Js
open Js.JsonGrammar

/-- A double as `mantissa * 2 ^ exponent`. -/
def doubleToExactBinary (value : Binary64) : Except JsError (ℤ × ℤ) :=
  if !value.isFinite then
    .error (.plain (js "ghost_ark.rawScan: doubleToExactBinary requires a finite double."))
  else
    let bits := value.bits
    let negative := bits >>> 63 == 1
    let biasedExponent := (bits >>> 52) &&& 0x7ff
    let fraction := bits &&& 0xfffffffffffff
    let mantissaMagnitude : ℤ := if biasedExponent = 0 then fraction else fraction + 2 ^ 52
    let exponent : ℤ := if biasedExponent = 0 then -1074 else biasedExponent - 1075
    .ok (if negative then -mantissaMagnitude else mantissaMagnitude, exponent)

/-- A literal as `digits * 10 ^ exponent`; the exponent is computed with doubles. -/
structure ExactDecimal where
  digits : ℤ
  exponent : JsNumber

def splitExponent (rest : JsString) : JsNumber × JsString :=
  match rest.findIdx? fun codeUnit => codeUnit = unit 'e' || codeUnit = unit 'E' with
  | some exponentMarker =>
    (parseDecimalInt (rest.drop (exponentMarker + 1)), rest.take exponentMarker)
  | none => (.ofNat 0, rest)

/-- The exponent less the fraction digits, and the digits without the point. -/
def splitPoint (exponent : JsNumber) (rest : JsString) : JsNumber × JsString :=
  match rest.findIdx? fun codeUnit => codeUnit = unit '.' with
  | some point =>
    (exponent.sub (.ofNat (rest.length - point - 1)), rest.take point ++ rest.drop (point + 1))
  | none => (exponent, rest)

def literalToExactDecimal (literal : JsString) : Except JsError ExactDecimal := do
  let negative := literal.head? = some (unit '-')
  let rest := if negative then literal.drop 1 else literal
  let (exponent, rest) := splitExponent rest
  let (exponent, rest) := splitPoint exponent rest
  let magnitude ← bigIntOfDigits (if rest = [] then js "0" else rest)
  return ⟨if negative then -magnitude else magnitude, exponent⟩

/-- The numerator and the denominator of `digits * base ^ exponent`. -/
def fractionOf (base digits exponent : ℤ) : ℤ × ℤ :=
  if 0 ≤ exponent then (digits * base ^ exponent.toNat, 1) else (digits, base ^ (-exponent).toNat)

def literalEqualsDouble (literal : JsString) (value : Binary64) : Except JsError Bool := do
  let decimal ← literalToExactDecimal literal
  let (mantissa, binExp) ← doubleToExactBinary value
  let decExp ← bigIntOfNumber decimal.exponent
  let left := fractionOf 10 decimal.digits decExp
  let right := fractionOf 2 mantissa binExp
  return left.1 * right.2 == right.1 * left.2

def sameExactDecimalValue (left right : JsString) : Except JsError Bool := do
  let a ← literalToExactDecimal left
  let b ← literalToExactDecimal right
  if a.digits = 0 ∨ b.digits = 0 then return a.digits == b.digits
  else
    let spread := a.exponent.sub b.exponent
    if JsNumber.lt (.ofNat 4096) spread.abs then return false
    else if JsNumber.le (.ofNat 0) spread then do
      let power ← bigIntOfNumber spread
      return a.digits * 10 ^ power.toNat == b.digits
    else do
      let power ← bigIntOfNumber spread.neg
      return b.digits * 10 ^ power.toNat == a.digits

theorem significand_mul_zpow (significand : ℚ) (exponent : ℤ) :
    significand * 2 ^ (exponent - 52) = 2 ^ exponent * (significand / 2 ^ 52) := by
  rw [zpow_sub₀ two_ne_zero, zpow_ofNat]
  ring

theorem doubleToExactBinary_finite {value : Binary64} (finite : value.isFinite = true) :
    ∃ mantissa exponent : ℤ, doubleToExactBinary value = .ok (mantissa, exponent) ∧
      (mantissa : ℚ) * 2 ^ exponent = value.toRat := by
  rw [doubleToExactBinary, finite]
  simp only [Binary64.bits_exponent, Binary64.bits_fraction, Binary64.bits_shiftRight_sign]
  refine ⟨_, _, rfl, ?_⟩
  have sign : (value.negative.toNat == 1) = value.negative := by cases value.negative <;> rfl
  have signed (magnitude exponent : ℤ) :
      ((if value.negative = true then -magnitude else magnitude : ℤ) : ℚ) * 2 ^ exponent =
        if value.negative = true then -((magnitude : ℚ) * 2 ^ exponent)
        else magnitude * 2 ^ exponent := by
    split
    · rw [Int.cast_neg, neg_mul]
    · rfl
  rw [Binary64.toRat, sign, signed]
  by_cases subnormal : value.biasedExponent = 0
  · have place := significand_mul_zpow value.fraction (-1022)
    simp only [if_pos subnormal, Int.cast_natCast, ← place]
    rfl
  · have place := significand_mul_zpow (value.fraction + 2 ^ 52) (value.biasedExponent - 1023)
    rw [add_div, div_self (pow_ne_zero 52 two_ne_zero), add_comm (_ / _) 1,
      show (value.biasedExponent : ℤ) - 1023 - 52 = value.biasedExponent - 1075 by ring] at place
    simp only [if_neg subnormal, ← place]
    push_cast
    rfl

section Literals

variable (literal : NumberLiteral)

def signedDigits : ℤ :=
  if literal.minus then -NumberLiteral.digitsValue literal.significand
  else NumberLiteral.digitsValue literal.significand

/-- The written exponent less the fraction digits. -/
def exactExponent : ℤ := literal.exponentValue - (literal.fraction.elim [] Digits.all).length

theorem value_eq : literal.value = signedDigits literal * 10 ^ exactExponent literal := by
  unfold NumberLiteral.value signedDigits exactExponent
  cases literal.minus with
  | true =>
    simp only [if_true, Int.cast_neg, Int.cast_natCast]
    exact (neg_mul _ _).symm
  | false => rfl

theorem parseDecimalInt_exponent (exponent : ExponentPart) :
    parseDecimalInt (exponent.signText ++ digitText exponent.digits.all) =
      double (if exponent.sign = some true then -NumberLiteral.digitsValue exponent.digits.all
        else NumberLiteral.digitsValue exponent.digits.all) := by
  have run : (digitText exponent.digits.all).takeWhile isDigit = digitText exponent.digits.all :=
    List.takeWhile_eq_self_iff.mpr fun codeUnit => isDigit_digitText
  have nonempty : digitText exponent.digits.all ≠ [] := List.cons_ne_nil _ _
  rw [parseDecimalInt, NumberLiteral.readSign_signText]
  simp only [run, if_neg nonempty, NumberLiteral.digitsNat_digitText, decide_eq_true_eq]

theorem findIdx?_behind {isMark : CodeUnit → Bool} {front : JsString}
    (free : ∀ codeUnit ∈ front, isMark codeUnit = false) (mark : CodeUnit) (rest : JsString)
    (isFirst : isMark mark = true) : (front ++ mark :: rest).findIdx? isMark = some front.length := by
  rw [List.findIdx?_append, List.findIdx?_eq_none_iff.mpr free, Option.none_or, List.findIdx?_cons,
    if_pos isFirst, Option.map_some, Nat.zero_add]

theorem drop_behind (front : JsString) (mark : CodeUnit) (rest : JsString) :
    (front ++ mark :: rest).drop (front.length + 1) = rest := by
  rw [← List.drop_drop, List.drop_left, List.drop_one, List.tail_cons]

theorem notMark_digit : ∀ digit : Digit, (digitUnit digit = unit 'e' || digitUnit digit = unit 'E' ||
    digitUnit digit = unit '.') = false := by
  decide

theorem notMark_digitText {digits : List Digit} {codeUnit : CodeUnit}
    (member : codeUnit ∈ digitText digits) : (codeUnit = unit 'e' || codeUnit = unit 'E' ||
      codeUnit = unit '.') = false := by
  rcases List.mem_map.mp member with ⟨digit, -, rfl⟩
  exact notMark_digit digit

theorem notExponent_significand {codeUnit : CodeUnit}
    (member : codeUnit ∈ digitText literal.integer.digits ++ literal.fractionText) :
    (codeUnit = unit 'e' || codeUnit = unit 'E') = false := by
  have ofDigits {digits : List Digit} (inDigits : codeUnit ∈ digitText digits) :
      (codeUnit = unit 'e' || codeUnit = unit 'E') = false :=
    (Bool.or_eq_false_iff.mp (notMark_digitText inDigits)).1
  rcases List.mem_append.mp member with inInteger | inFraction
  · exact ofDigits inInteger
  · rw [NumberLiteral.fractionText] at inFraction
    split at inFraction
    · cases inFraction
    · rcases List.mem_cons.mp inFraction with rfl | inDigits
      · decide
      · exact ofDigits inDigits

theorem splitExponent_text : splitExponent
    (digitText literal.integer.digits ++ (literal.fractionText ++ literal.exponentText)) =
      (double literal.exponentValue, digitText literal.integer.digits ++ literal.fractionText) := by
  have free : ∀ codeUnit ∈ digitText literal.integer.digits ++ literal.fractionText,
      (codeUnit = unit 'e' || codeUnit = unit 'E') = false :=
    fun codeUnit => notExponent_significand literal
  rw [← List.append_assoc, splitExponent, NumberLiteral.exponentText, NumberLiteral.exponentValue]
  cases literal.exponent with
  | none =>
    dsimp only
    rw [List.append_nil, List.findIdx?_eq_none_iff.mpr free]
    rw [double_intCast (by decide)]
    rfl
  | some exponent =>
    have mark : ∀ upper : Bool, (unit (if upper then 'E' else 'e') = unit 'e' ||
        unit (if upper then 'E' else 'e') = unit 'E') = true := by
      decide
    dsimp only
    rw [ExponentPart.text, findIdx?_behind free _ _ (mark _)]
    dsimp only
    rw [List.take_left, drop_behind, parseDecimalInt_exponent]
    split
    · rw [Int.cast_neg, Int.cast_natCast]
    · rw [Int.cast_natCast]

theorem splitPoint_text (safe : literal.exponentValue.natAbs ≤ JsNumber.maxSafeInteger) :
    splitPoint (double literal.exponentValue)
        (digitText literal.integer.digits ++ literal.fractionText) =
      (double (exactExponent literal), digitText literal.significand) := by
  rw [splitPoint, NumberLiteral.fractionText, exactExponent, NumberLiteral.significand]
  have free : ∀ codeUnit ∈ digitText literal.integer.digits,
      (decide (codeUnit = unit '.')) = false := fun codeUnit member =>
    (Bool.or_eq_false_iff.mp (notMark_digitText member)).2
  cases literal.fraction with
  | none =>
    dsimp only
    rw [List.append_nil, List.findIdx?_eq_none_iff.mpr free]
    simp
  | some digits =>
    have count : (digitText literal.integer.digits ++ unit '.' :: digitText digits.all).length -
        (digitText literal.integer.digits).length - 1 = digits.all.length := by
      rw [List.length_append, List.length_cons, digitText, digitText, List.length_map,
        List.length_map]
      omega
    dsimp only
    rw [findIdx?_behind free _ _ (by decide)]
    dsimp only
    rw [List.take_left, drop_behind, count, double_intCast safe, JsNumber.sub, JsNumber.ofNat,
      JsNumber.neg, JsNumber.add]
    simp [digitText, sub_eq_add_neg]

theorem literalToExactDecimal_text (safe : literal.exponentValue.natAbs ≤ JsNumber.maxSafeInteger) :
    literalToExactDecimal literal.text =
      .ok ⟨signedDigits literal, double (exactExponent literal)⟩ := by
  rcases NumberLiteral.integer_first literal.integer with ⟨first, others, isInteger, -⟩
  have unsigned : ∀ digit : Digit, ¬ some (digitUnit digit) = some (unit '-') := by decide
  have negative : (literal.text.head? = some (unit '-')) ↔ literal.minus = true := by
    rw [NumberLiteral.text_eq, NumberLiteral.signText, isInteger]
    cases literal.minus with
    | true => simp
    | false =>
      rw [if_neg Bool.false_ne_true]
      exact iff_of_false (unsigned first) Bool.false_ne_true
  have rest : (if literal.minus = true then literal.text.drop 1 else literal.text) =
      digitText literal.integer.digits ++ (literal.fractionText ++ literal.exponentText) := by
    rw [NumberLiteral.text_eq, NumberLiteral.signText]
    cases literal.minus with
    | true => rfl
    | false => rfl
  have nonempty : digitText literal.significand ≠ [] := by
    rw [NumberLiteral.significand, isInteger]
    exact List.cons_ne_nil _ _
  have areDigits : (digitText literal.significand).all isDigit = true :=
    List.all_eq_true.mpr fun codeUnit => isDigit_digitText
  rw [literalToExactDecimal]
  simp only [negative, rest, splitExponent_text, splitPoint_text literal safe, if_neg nonempty,
    bigIntOfDigits, areDigits, if_true, NumberLiteral.digitsNat_digitText]
  rfl

end Literals

/-- A literal whose written exponent is a safe integer, in a string of the language. -/
structure SafeLiteral (literal : NumberLiteral) : Prop where
  exponent : literal.exponentValue.natAbs ≤ JsNumber.maxSafeInteger
  length : literal.text.length ≤ JsNumber.maxSafeInteger

/-- The exponent of a literal after the rounding of the subtraction. -/
def carriedExponent (literal : NumberLiteral) : ℤ :=
  match double (exactExponent literal) with
  | .finite value => value.num
  | _ => 0

section Exponents

variable {literal left right : NumberLiteral}

theorem natAbs_exactExponent_lt (safe : SafeLiteral literal) :
    (exactExponent literal).natAbs < 2 ^ 54 := by
  have exponent := safe.exponent
  have length := safe.length
  have fraction : (literal.fraction.elim [] Digits.all).length ≤ literal.text.length := by
    rw [NumberLiteral.text_eq, NumberLiteral.fractionText]
    cases literal.fraction with
    | none => exact Nat.zero_le _
    | some digits =>
      simp only [List.length_append, List.length_cons, digitText, List.length_map,
        Option.elim_some]
      omega
  unfold JsNumber.maxSafeInteger at exponent length
  unfold exactExponent
  omega

theorem double_exactExponent (safe : SafeLiteral literal) :
    double (exactExponent literal) = .finite (carriedExponent literal) ∧
      (carriedExponent literal).natAbs < 2 ^ 55 := by
  rcases exists_double_eq_intCast (by decide) (by decide) (natAbs_exactExponent_lt safe) with
    ⟨rounded, bounded, isRounded⟩
  have carried : carriedExponent literal = rounded := by
    rw [carriedExponent, isRounded]
    rfl
  rw [carried]
  exact ⟨isRounded, bounded⟩

theorem carriedExponent_eq (safe : (exactExponent literal).natAbs ≤ JsNumber.maxSafeInteger) :
    carriedExponent literal = exactExponent literal := by
  rw [carriedExponent, double_intCast safe]
  rfl

theorem decimal_of_safe (safe : SafeLiteral literal) :
    literalToExactDecimal literal.text =
      .ok ⟨signedDigits literal, .finite (carriedExponent literal)⟩ := by
  rw [literalToExactDecimal_text literal safe.exponent, (double_exactExponent safe).1]

end Exponents

section Computed

variable {literal left right : NumberLiteral}

theorem fractionOf_eq {base : ℤ} (nonzero : (base : ℚ) ≠ 0) (digits exponent : ℤ) :
    ((fractionOf base digits exponent).2 : ℚ) ≠ 0 ∧
      ((fractionOf base digits exponent).1 : ℚ) / (fractionOf base digits exponent).2 =
        digits * (base : ℚ) ^ exponent := by
  rw [fractionOf]
  split
  · next natural =>
      obtain ⟨power, rfl⟩ := Int.eq_ofNat_of_zero_le natural
      refine ⟨one_ne_zero, ?_⟩
      push_cast
      simp
  · next negative =>
      obtain ⟨power, isPower⟩ := Int.eq_ofNat_of_zero_le (show 0 ≤ -exponent by omega)
      have isNegative : exponent = -(power : ℤ) := by omega
      rw [isPower, isNegative, Int.toNat_natCast, zpow_neg, zpow_natCast]
      refine ⟨?_, ?_⟩
      · push_cast
        exact pow_ne_zero power nonzero
      · push_cast
        exact div_eq_mul_inv _ _

theorem literalEqualsDouble_text (safe : SafeLiteral literal) {value : Binary64}
    (finite : value.isFinite = true) :
    literalEqualsDouble literal.text value =
      .ok (decide ((signedDigits literal : ℚ) * 10 ^ carriedExponent literal = value.toRat)) := by
  rcases doubleToExactBinary_finite finite with ⟨mantissa, exponent, isBinary, isValue⟩
  rcases fractionOf_eq (show ((10 : ℤ) : ℚ) ≠ 0 by norm_num) (signedDigits literal)
    (carriedExponent literal) with ⟨decimalNonzero, isDecimal⟩
  rcases fractionOf_eq (show ((2 : ℤ) : ℚ) ≠ 0 by norm_num) mantissa exponent with
    ⟨binaryNonzero, isFraction⟩
  rw [literalEqualsDouble, decimal_of_safe safe, isBinary]
  simp only [ok_bind, bigIntOfNumber_intCast, beq_eq_decide]
  congr 2
  rw [Int.cast_ofNat] at isDecimal isFraction
  rw [← isValue, ← isDecimal, ← isFraction, eq_iff_iff,
    div_eq_div_iff decimalNonzero binaryNonzero]
  norm_cast

theorem pow_mul_eq_iff {first second power : ℤ} (natural : 0 ≤ power) :
    first * 10 ^ power.toNat = second ↔ (first : ℚ) * 10 ^ power = second := by
  obtain ⟨count, rfl⟩ := Int.eq_ofNat_of_zero_le natural
  rw [Int.toNat_natCast, zpow_natCast]
  norm_cast

theorem sameExactDecimalValue_text (leftSafe : SafeLiteral left) (rightSafe : SafeLiteral right) :
    sameExactDecimalValue left.text right.text =
      .ok (if signedDigits left = 0 ∨ signedDigits right = 0 then
          signedDigits left == signedDigits right
        else decide ((carriedExponent left - carriedExponent right).natAbs ≤ 4096 ∧
          (signedDigits left : ℚ) * 10 ^ (carriedExponent left - carriedExponent right) =
            signedDigits right)) := by
  have leftBound := (double_exactExponent leftSafe).2
  have rightBound := (double_exactExponent rightSafe).2
  rw [sameExactDecimalValue, decimal_of_safe leftSafe, decimal_of_safe rightSafe]
  simp only [ok_bind, sub_intCast]
  have bounded : (carriedExponent left - carriedExponent right).natAbs < 2 ^ 56 := by omega
  generalize carriedExponent left - carriedExponent right = spread at bounded ⊢
  rw [lt_abs_double (by decide) (by decide) bounded (by decide)]
  by_cases zero : signedDigits left = 0 ∨ signedDigits right = 0
  · rw [if_pos zero, if_pos zero]
    rfl
  · rw [if_neg zero, if_neg zero]
    by_cases far : 4096 < spread.natAbs
    · rw [if_pos (decide_eq_true far), decide_eq_false fun both => absurd both.1 (by omega)]
      rfl
    · have near : spread.natAbs ≤ JsNumber.maxSafeInteger :=
        (not_lt.mp far).trans (by decide)
      have within : spread.natAbs ≤ 4096 := not_lt.mp far
      rw [if_neg (mt of_decide_eq_true far), double_intCast near, nonneg_intCast]
      by_cases natural : 0 ≤ spread
      · rw [if_pos (decide_eq_true natural), bigIntOfNumber_intCast, ok_bind, beq_eq_decide]
        congr 2
        rw [eq_iff_iff, pow_mul_eq_iff natural]
        exact (and_iff_right within).symm
      · have mirrored : 0 ≤ -spread := by omega
        rw [if_neg (mt of_decide_eq_true natural), JsNumber.neg, ← Int.cast_neg,
          bigIntOfNumber_intCast, ok_bind, beq_eq_decide]
        congr 2
        rw [eq_iff_iff, pow_mul_eq_iff mirrored, and_iff_right within, zpow_neg,
          ← div_eq_mul_inv, div_eq_iff (zpow_ne_zero spread (by norm_num)), eq_comm]

end Computed

/-! ### Exactness -/

/-- Of the powers of ten that lead from the digits of the one literal to those of the other, the
difference of the exponents is found, and no other. -/
def SpreadKept (left right : NumberLiteral) : Prop :=
  signedDigits left ≠ 0 → signedDigits right ≠ 0 →
    ∀ power : ℤ, (signedDigits left : ℚ) * 10 ^ power = signedDigits right →
      (power = exactExponent left - exactExponent right ↔
        power = carriedExponent left - carriedExponent right ∧ power.natAbs ≤ 4096)

/-- Of the powers of ten that lead from the digits to a double, the exponent is found, and no
other. -/
def ExponentKept (literal : NumberLiteral) (value : Binary64) : Prop :=
  signedDigits literal ≠ 0 → ∀ power : ℤ, (signedDigits literal : ℚ) * 10 ^ power = value.toRat →
    (power = exactExponent literal ↔ power = carriedExponent literal)

section Exactness

variable {literal left right : NumberLiteral} {value : Binary64}

theorem value_eq_iff : left.value = right.value ↔
    (signedDigits left : ℚ) * 10 ^ (exactExponent left - exactExponent right) =
      signedDigits right := by
  have nonzero : (10 : ℚ) ^ exactExponent right ≠ 0 := zpow_ne_zero _ (by norm_num)
  rw [value_eq, value_eq, zpow_sub₀ (by norm_num), ← mul_div_assoc, div_eq_iff nonzero]

theorem value_eq_zero_iff : literal.value = 0 ↔ signedDigits literal = 0 := by
  have nonzero : (10 : ℚ) ^ exactExponent literal ≠ 0 := zpow_ne_zero _ (by norm_num)
  rw [value_eq, mul_eq_zero_iff_right nonzero, Int.cast_eq_zero]

theorem power_unique {digits value : ℚ} {first second : ℤ} (nonzero : digits ≠ 0)
    (isFirst : digits * 10 ^ first = value) : digits * 10 ^ second = value ↔ second = first := by
  rw [← isFirst, mul_right_inj' nonzero]
  exact zpow_right_inj₀ (by norm_num) (by norm_num)

/-- The comparison of literals is exact exactly if their spread is kept. -/
theorem sameExactDecimalValue_iff (leftSafe : SafeLiteral left) (rightSafe : SafeLiteral right) :
    sameExactDecimalValue left.text right.text = .ok (decide (left.value = right.value)) ↔
      SpreadKept left right := by
  rw [sameExactDecimalValue_text leftSafe rightSafe, Except.ok.injEq]
  by_cases zero : signedDigits left = 0 ∨ signedDigits right = 0
  · have kept : SpreadKept left right := fun leftNonzero rightNonzero =>
      (zero.elim leftNonzero rightNonzero).elim
    rw [if_pos zero, beq_eq_decide, decide_eq_decide, value_eq_iff]
    refine iff_of_true ?_ kept
    rcases zero with leftZero | rightZero
    · rw [leftZero, Int.cast_zero, zero_mul, eq_comm, eq_comm (a := (0 : ℚ)), Int.cast_eq_zero]
    · have powerNonzero : (10 : ℚ) ^ (exactExponent left - exactExponent right) ≠ 0 :=
        zpow_ne_zero _ (by norm_num)
      rw [rightZero, Int.cast_zero, mul_eq_zero_iff_right powerNonzero, Int.cast_eq_zero]
  · rw [if_neg zero, decide_eq_decide, value_eq_iff]
    push Not at zero
    have nonzero : (signedDigits left : ℚ) ≠ 0 := Int.cast_ne_zero.mpr zero.1
    constructor
    · intro agrees _ _ power isPower
      rw [power_unique nonzero isPower, power_unique nonzero isPower] at agrees
      constructor
      · intro isExact
        rcases agrees.mpr isExact.symm with ⟨near, isCarried⟩
        exact ⟨isCarried.symm, isCarried ▸ near⟩
      · rintro ⟨isCarried, near⟩
        exact (agrees.mp ⟨isCarried ▸ near, isCarried.symm⟩).symm
    · intro kept
      have found := kept zero.1 zero.2
      constructor
      · rintro ⟨near, isPower⟩
        rwa [← (found _ isPower).mpr ⟨rfl, near⟩]
      · intro isPower
        rcases (found _ isPower).mp rfl with ⟨isCarried, near⟩
        rw [← isCarried]
        exact ⟨near, isPower⟩

/-- The comparison with a double is exact exactly if the exponent is kept. -/
theorem literalEqualsDouble_iff (safe : SafeLiteral literal) (finite : value.isFinite = true) :
    literalEqualsDouble literal.text value = .ok (decide (literal.value = value.toRat)) ↔
      ExponentKept literal value := by
  rw [literalEqualsDouble_text safe finite, Except.ok.injEq, decide_eq_decide, value_eq]
  by_cases zero : signedDigits literal = 0
  · have kept : ExponentKept literal value := fun nonzero => (nonzero zero).elim
    rw [zero, Int.cast_zero, zero_mul, zero_mul]
    exact iff_of_true Iff.rfl kept
  · have nonzero : (signedDigits literal : ℚ) ≠ 0 := Int.cast_ne_zero.mpr zero
    constructor
    · intro agrees _ power isPower
      rw [power_unique nonzero isPower, power_unique nonzero isPower] at agrees
      rw [eq_comm, ← agrees, eq_comm]
    · intro kept
      have found := kept zero
      constructor
      · intro isPower
        rwa [← (found _ isPower).mpr rfl]
      · intro isPower
        rwa [← (found _ isPower).mp rfl]

theorem spreadKept_iff (leftSafe : (exactExponent left).natAbs ≤ JsNumber.maxSafeInteger)
    (rightSafe : (exactExponent right).natAbs ≤ JsNumber.maxSafeInteger) :
    SpreadKept left right ↔ ¬ (left.value ≠ 0 ∧ left.value = right.value ∧
      4096 < (exactExponent left - exactExponent right).natAbs) := by
  rw [SpreadKept, carriedExponent_eq leftSafe, carriedExponent_eq rightSafe]
  constructor
  · rintro kept ⟨notZero, same, far⟩
    have isPower := value_eq_iff.mp same
    have leftNonzero : signedDigits left ≠ 0 := mt value_eq_zero_iff.mpr notZero
    have rightNonzero : signedDigits right ≠ 0 := mt value_eq_zero_iff.mpr (same ▸ notZero)
    exact absurd (kept leftNonzero rightNonzero _ isPower).mp (fun found =>
      absurd (found rfl).2 (not_le.mpr far))
  · intro notMissed leftNonzero _ power isPower
    constructor
    · intro isExact
      refine ⟨isExact, ?_⟩
      by_contra far
      rw [isExact] at isPower far
      exact notMissed ⟨mt value_eq_zero_iff.mp leftNonzero, value_eq_iff.mpr isPower,
        not_le.mp far⟩
    · exact And.left

theorem exponentKept_of_safe (safe : (exactExponent literal).natAbs ≤ JsNumber.maxSafeInteger) :
    ExponentKept literal value := by
  intro _ power _
  rw [carriedExponent_eq safe]

/-- **Exact comparisons.** Each comparison tells whether its arguments denote one rational exactly if
the exponents it computes are those of the literals where that decides, and, for two literals, at
most 4096 apart. With safe exponents only two equal values with exponents farther apart are missed,
and no double is. -/
theorem comparisons_exact_iff (leftSafe : SafeLiteral left) (rightSafe : SafeLiteral right)
    (finite : value.isFinite = true) :
    (sameExactDecimalValue left.text right.text = .ok (decide (left.value = right.value)) ↔
      SpreadKept left right) ∧
    (literalEqualsDouble left.text value = .ok (decide (left.value = value.toRat)) ↔
      ExponentKept left value) ∧
    ((exactExponent left).natAbs ≤ JsNumber.maxSafeInteger →
      (exactExponent right).natAbs ≤ JsNumber.maxSafeInteger →
      (sameExactDecimalValue left.text right.text = .ok (decide (left.value = right.value)) ↔
        ¬ (left.value ≠ 0 ∧ left.value = right.value ∧
          4096 < (exactExponent left - exactExponent right).natAbs)) ∧
      literalEqualsDouble left.text value = .ok (decide (left.value = value.toRat))) := by
  have same := sameExactDecimalValue_iff leftSafe rightSafe
  have equals := literalEqualsDouble_iff leftSafe finite
  refine ⟨same, equals, fun leftExponent rightExponent => ⟨?_, ?_⟩⟩
  · exact same.trans (spreadKept_iff leftExponent rightExponent)
  · exact equals.mpr (exponentKept_of_safe leftExponent)

end Exactness

namespace ExactDecimalSample

def tenth : NumberLiteral := ⟨false, .zero, some ⟨1, [0]⟩, none⟩

def scaledTenth : NumberLiteral := ⟨false, .nonzero 0 [], none, some ⟨false, some true, ⟨1, []⟩⟩⟩

def nearTenth : Binary64 := ⟨false, 0x3fb, 0x999999999999a, by decide, by decide⟩

theorem tenth_safe : SafeLiteral tenth := ⟨by decide, by decide⟩

theorem scaledTenth_safe : SafeLiteral scaledTenth := ⟨by decide, by decide⟩

theorem tenth_compared :
    sameExactDecimalValue tenth.text scaledTenth.text =
      .ok (decide (tenth.value = scaledTenth.value)) ∧
    literalEqualsDouble tenth.text nearTenth = .ok (decide (tenth.value = nearTenth.toRat)) := by
  have exact := (comparisons_exact_iff tenth_safe scaledTenth_safe
    (show nearTenth.isFinite = true by decide)).2.2 (by decide) (by decide)
  refine ⟨exact.1.mpr fun missed => ?_, exact.2⟩
  exact absurd missed.2.2 (by decide)

def onePointZeros (zeros : ℕ) : NumberLiteral :=
  ⟨false, .nonzero 0 [], some ⟨0, List.replicate zeros 0⟩, none⟩

def one : NumberLiteral := ⟨false, .nonzero 0 [], none, none⟩

theorem digitsValue_zeros (digits : List Digit) (zeros : ℕ) :
    NumberLiteral.digitsValue (digits ++ List.replicate zeros 0) =
      NumberLiteral.digitsValue digits * 10 ^ zeros := by
  induction zeros with
  | zero => rw [List.replicate_zero, List.append_nil, pow_zero, mul_one]
  | succ zeros ih =>
    rw [List.replicate_succ', ← List.append_assoc, NumberLiteral.digitsValue, List.foldl_append,
      ← NumberLiteral.digitsValue, ih, pow_succ, ← mul_assoc]
    rfl

theorem exactExponent_onePointZeros (zeros : ℕ) :
    exactExponent (onePointZeros zeros) = -((zeros + 1 : ℕ) : ℤ) := by
  have count : ((onePointZeros zeros).fraction.elim [] Digits.all).length = zeros + 1 := by
    rw [onePointZeros, Option.elim_some, Digits.all, List.length_cons, List.length_replicate]
  rw [exactExponent, count]
  exact zero_sub _

theorem value_one : one.value = 1 := by
  decide +kernel

theorem value_onePointZeros (zeros : ℕ) : (onePointZeros zeros).value = one.value := by
  have digits : signedDigits (onePointZeros zeros) = ((10 ^ (zeros + 1) : ℕ) : ℤ) := by
    have split : (onePointZeros zeros).significand = [1] ++ List.replicate (zeros + 1) 0 := by
      rw [List.replicate_succ]
      rfl
    rw [signedDigits, split, digitsValue_zeros]
    exact congrArg Nat.cast (Nat.one_mul _)
  rw [value_one, value_eq, exactExponent_onePointZeros, digits, zpow_neg, zpow_natCast,
    Int.cast_natCast, Nat.cast_pow]
  exact mul_inv_cancel₀ (pow_ne_zero _ (by norm_num))

theorem onePointZeros_safe : SafeLiteral (onePointZeros 4096) := by
  have length : (onePointZeros 4096).text.length = 4099 := by
    rw [NumberLiteral.text_eq]
    simp only [List.length_append, onePointZeros, NumberLiteral.signText,
      NumberLiteral.fractionText, NumberLiteral.exponentText, digitText, List.length_cons,
      List.length_map, Digits.all, List.length_replicate]
    rfl
  exact ⟨by decide, by rw [length]; decide⟩

/-- `1` and `1.000...0` with 4097 zeros are told apart. -/
theorem onePointZeros_missed :
    ¬ ∀ (left right : NumberLiteral) (value : Binary64), SafeLiteral left → SafeLiteral right →
      value.isFinite = true →
        sameExactDecimalValue left.text right.text = .ok (decide (left.value = right.value)) ∧
        literalEqualsDouble left.text value = .ok (decide (left.value = value.toRat)) := by
  intro exact
  have oneSafe : SafeLiteral one := ⟨by decide, by decide⟩
  have same := (exact _ _ nearTenth oneSafe onePointZeros_safe (by decide)).1
  have kept := (sameExactDecimalValue_iff oneSafe onePointZeros_safe).mp same
  have exponent := exactExponent_onePointZeros 4096
  have oneExponent : exactExponent one = 0 := by decide
  refine (spreadKept_iff ?_ ?_).mp kept ⟨?_, (value_onePointZeros 4096).symm, ?_⟩
  · rw [oneExponent]
    decide
  · rw [exponent]
    decide
  · rw [value_one]
    exact one_ne_zero
  · rw [oneExponent, exponent]
    decide

end ExactDecimalSample

end GhostArk.Tools
