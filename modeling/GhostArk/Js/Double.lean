import GhostArk.Js.Date
import GhostArk.Lib.NearestEven

/-!
Contract: ECMAScript number values as IEEE-754 doubles.

Owns rounding to binary64 with overflow to infinity, `Number(text)` of a decimal
literal, `Number(value.toFixed(digits))`, and the integers that one double
stands for.

Hexadecimal, binary and octal literals, blanks around a literal, and the word
`Infinity` are not read here; the scanners that call this never pass them.
-/

namespace GhostArk.Js

open Lib

/-- Doubles stay below `2 ^ 1024`. -/
def doubleLimitBits : ℕ := 1024

/-- The double nearest to a rational, ties to even; the limit and beyond is infinite. -/
def double (value : ℚ) : JsNumber :=
  let rounded := roundTo 52 (-1074) value
  if 2 ^ doubleLimitBits ≤ rounded then .positiveInfinity
  else if rounded ≤ -2 ^ doubleLimitBits then .negativeInfinity
  else .finite rounded

/-- `Number(number.toFixed(digits))`, for numbers below `10 ^ 21`. -/
def JsNumber.toFixedNumber (digits : ℕ) : JsNumber → JsNumber
  | .finite value =>
    let magnitude : ℚ := ⌊|value| * 10 ^ digits + 1 / 2⌋ / 10 ^ digits
    double (if value < 0 then -magnitude else magnitude)
  | other => other

def JsNumber.add : JsNumber → JsNumber → JsNumber
  | .finite left, .finite right => double (left + right)
  | .nan, _ => .nan
  | _, .nan => .nan
  | .positiveInfinity, .negativeInfinity => .nan
  | .negativeInfinity, .positiveInfinity => .nan
  | .finite _, right => right
  | left, _ => left

structure DecimalLiteral where
  negative : Bool
  integerDigits : JsString
  fractionDigits : JsString
  exponent : ℤ
deriving DecidableEq, Repr

def digitsNat (digits : JsString) : ℕ :=
  digits.foldl (fun value digit => value * 10 + (digit.val - 48)) 0

def DecimalLiteral.value (literal : DecimalLiteral) : ℚ :=
  let magnitude : ℚ := digitsNat (literal.integerDigits ++ literal.fractionDigits) *
    10 ^ (literal.exponent - literal.fractionDigits.length)
  if literal.negative then -magnitude else magnitude

def readSign : JsString → Bool × JsString
  | [] => (false, [])
  | first :: rest =>
    if first = unit '-' then (true, rest)
    else if first = unit '+' then (false, rest)
    else (false, first :: rest)

def readExponent : JsString → Option ℤ
  | [] => some 0
  | mark :: rest =>
    if mark = unit 'e' ∨ mark = unit 'E' then
      (Date.digitsValue (readSign rest).2).map fun magnitude =>
        if (readSign rest).1 then -magnitude else magnitude
    else none

def readFraction : JsString → JsString × JsString
  | [] => ([], [])
  | first :: rest =>
    if first = unit '.' then (rest.takeWhile isDigit, rest.dropWhile isDigit)
    else ([], first :: rest)

/-- `StrDecimalLiteral`, less `Infinity`. -/
def readDecimalLiteral (text : JsString) : Option DecimalLiteral :=
  let unsigned := (readSign text).2
  let fraction := readFraction (unsigned.dropWhile isDigit)
  if unsigned.takeWhile isDigit = [] ∧ fraction.1 = [] then none
  else
    (readExponent fraction.2).map fun exponent =>
      ⟨(readSign text).1, unsigned.takeWhile isDigit, fraction.1, exponent⟩

/-- `Number(text)` of a decimal literal; other texts are not numbers. -/
def numberOf (text : JsString) : JsNumber :=
  match readDecimalLiteral text with
  | some literal => double literal.value
  | none => .nan

example : numberOf (js "-12.50e1") = .finite (-125) ∧ numberOf (js "1e999") = .positiveInfinity ∧
    numberOf (js "9007199254740993") = .finite 9007199254740992 ∧ numberOf (js "1e") = .nan := by
  decide +kernel

/-! ### Integers -/

/-- The integers whose doubles are infinite: from half a place below the limit. -/
def Overflows (magnitude : ℕ) : Prop :=
  2 ^ doubleLimitBits ≤ magnitude + 2 ^ (doubleLimitBits - 52 - 2)

instance (magnitude : ℕ) : Decidable (Overflows magnitude) :=
  inferInstanceAs (Decidable (_ ≤ _))

/-- Magnitudes that one double stands for: both infinite, or in one rounding
interval of a significand of 53 bits. -/
def SharesMagnitude (left right : ℕ) : Prop :=
  (Overflows left ∧ Overflows right) ∨
    ∃ significand exponent : ℕ, (2 ^ 52 ≤ significand ∧ significand < 2 * 2 ^ 52) ∧ 1 ≤ exponent ∧
      InRoundingInterval 52 significand exponent left ∧
      InRoundingInterval 52 significand exponent right

/-- Integers of one sign whose magnitudes one double stands for. -/
def SharesDouble (left right : ℤ) : Prop :=
  left.sign = right.sign ∧ SharesMagnitude left.natAbs right.natAbs

variable {magnitude : ℕ}

private theorem roundTo_natCast_pos (positive : 0 < magnitude) :
    0 < roundTo 52 (-1074) magnitude := by
  by_cases small : magnitude < 2 ^ (52 + 1)
  · rw [roundTo_natCast_of_lt (by decide) small]
    exact_mod_cast positive
  · rcases exists_inRoundingInterval (by decide) (not_lt.mp small) with
      ⟨significand, places, normal, coarse, inside⟩
    rw [roundTo_of_inRoundingInterval (by decide) (by decide) normal coarse inside]
    have significandPos : 0 < significand := lt_of_lt_of_le (Nat.two_pow_pos 52) normal.1
    positivity

def JsNumber.neg : JsNumber → JsNumber
  | .nan => .nan
  | .positiveInfinity => .negativeInfinity
  | .negativeInfinity => .positiveInfinity
  | .finite value => .finite (-value)

theorem JsNumber.neg_injective : Function.Injective JsNumber.neg := by
  intro left right same
  cases left <;> cases right <;> simp_all [JsNumber.neg]

theorem double_neg (value : ℚ) : double (-value) = (double value).neg := by
  have limitPos : (0 : ℚ) < 2 ^ doubleLimitBits := by positivity
  unfold double
  rw [roundTo_neg]
  generalize roundTo 52 (-1074) value = rounded
  by_cases high : 2 ^ doubleLimitBits ≤ rounded
  · simp only [if_pos high, if_neg (show ¬ 2 ^ doubleLimitBits ≤ -rounded by linarith),
      if_pos (show -rounded ≤ -2 ^ doubleLimitBits by linarith), JsNumber.neg]
  · by_cases low : rounded ≤ -2 ^ doubleLimitBits
    · simp only [if_neg high, if_pos low,
        if_pos (show 2 ^ doubleLimitBits ≤ -rounded by linarith), JsNumber.neg]
    · simp only [if_neg high, if_neg low,
        if_neg (show ¬ 2 ^ doubleLimitBits ≤ -rounded by linarith),
        if_neg (show ¬ -rounded ≤ -2 ^ doubleLimitBits by linarith), JsNumber.neg]

private theorem overflows_iff :
    (2 : ℚ) ^ doubleLimitBits ≤ roundTo 52 (-1074) magnitude ↔ Overflows magnitude :=
  pow_le_roundTo_iff (by decide) (by decide) (by decide)

private theorem roundTo_natCast_nonneg (magnitude : ℕ) :
    0 ≤ roundTo 52 (-1074) magnitude := by
  rcases Nat.eq_zero_or_pos magnitude with isZero | positive
  · rw [isZero, roundTo_natCast_of_lt (by decide) (by positivity)]
    exact le_of_eq Nat.cast_zero.symm
  · exact (roundTo_natCast_pos positive).le

theorem double_natCast (magnitude : ℕ) :
    double magnitude =
      if Overflows magnitude then .positiveInfinity
      else .finite (roundTo 52 (-1074) magnitude) := by
  have notLow : ¬ roundTo 52 (-1074) magnitude ≤ -2 ^ doubleLimitBits := by
    have limitPos : (0 : ℚ) < 2 ^ doubleLimitBits := by positivity
    have := roundTo_natCast_nonneg magnitude
    linarith
  unfold double
  simp only [overflows_iff, if_neg notLow]

private theorem finite_double_natCast {rounded : ℚ}
    (isDouble : double magnitude = .finite rounded) :
    rounded = roundTo 52 (-1074) magnitude := by
  rw [double_natCast] at isDouble
  split at isDouble
  next => simp at isDouble
  next => exact (JsNumber.finite.inj isDouble).symm

private theorem pos_of_overflows (overflows : Overflows magnitude) : 0 < magnitude := by
  have smaller : 2 ^ (doubleLimitBits - 52 - 2) < 2 ^ doubleLimitBits :=
    Nat.pow_lt_pow_right (by decide) (by decide)
  unfold Overflows at overflows
  omega

private theorem pos_of_inRoundingInterval {magnitude significand exponent : ℕ}
    (normal : 2 ^ 52 ≤ significand ∧ significand < 2 * 2 ^ 52) (coarse : 1 ≤ exponent)
    (inside : InRoundingInterval 52 significand exponent magnitude) : 0 < magnitude := by
  have rounded : roundTo 52 (-1074) magnitude = significand * 2 ^ exponent :=
    roundTo_of_inRoundingInterval (by decide) (by decide) normal coarse inside
  have significandPos : 0 < significand := lt_of_lt_of_le (Nat.two_pow_pos 52) normal.1
  have centrePos : (0 : ℚ) < significand * 2 ^ exponent := by positivity
  rw [← rounded] at centrePos
  rcases Nat.eq_zero_or_pos magnitude with isZero | positive
  · rw [isZero, roundTo_natCast_of_lt (by decide) (by positivity)] at centrePos
    exact absurd centrePos (by simp)
  · exact positive

private theorem pos_of_sharesMagnitude {left right : ℕ} (shared : SharesMagnitude left right) :
    0 < left ∧ 0 < right := by
  rcases shared with both | ⟨significand, exponent, normal, coarse, leftInside, rightInside⟩
  · exact ⟨pos_of_overflows both.1, pos_of_overflows both.2⟩
  · exact ⟨pos_of_inRoundingInterval normal coarse leftInside,
      pos_of_inRoundingInterval normal coarse rightInside⟩

private theorem overflows_iff_of_sharesMagnitude {left right : ℕ}
    (shared : SharesMagnitude left right) : Overflows left ↔ Overflows right := by
  rcases shared with both | interval
  · exact iff_of_true both.1 both.2
  · rw [← overflows_iff, ← overflows_iff,
      (roundTo_eq_roundTo_iff (by decide) (by decide)).mpr (Or.inr interval)]

theorem double_natCast_eq_iff {left right : ℕ} :
    double left = double right ↔ left = right ∨ SharesMagnitude left right := by
  rw [double_natCast, double_natCast]
  by_cases leftOverflows : Overflows left
  · by_cases rightOverflows : Overflows right
    · simp [leftOverflows, rightOverflows, SharesMagnitude]
    · rw [if_pos leftOverflows, if_neg rightOverflows]
      constructor
      · exact fun same => absurd same (by simp)
      · rintro (rfl | shared)
        · exact absurd leftOverflows rightOverflows
        · exact absurd ((overflows_iff_of_sharesMagnitude shared).mp leftOverflows) rightOverflows
  · by_cases rightOverflows : Overflows right
    · rw [if_neg leftOverflows, if_pos rightOverflows]
      constructor
      · exact fun same => absurd same (by simp)
      · rintro (rfl | shared)
        · exact absurd rightOverflows leftOverflows
        · exact absurd ((overflows_iff_of_sharesMagnitude shared).mpr rightOverflows) leftOverflows
    · rw [if_neg leftOverflows, if_neg rightOverflows, JsNumber.finite.injEq,
        roundTo_eq_roundTo_iff (by decide) (by decide), SharesMagnitude]
      simp only [leftOverflows, false_and, false_or]

private theorem double_natCast_ne_neg {left right : ℕ} (positive : 0 < right) :
    double left ≠ (double right).neg := by
  have leftNonneg := roundTo_natCast_nonneg left
  have rightPos := roundTo_natCast_pos positive
  rw [double_natCast, double_natCast]
  intro same
  split at same
  next => split at same <;> simp [JsNumber.neg] at same
  next =>
    split at same
    next => simp [JsNumber.neg] at same
    next =>
      rw [JsNumber.neg, JsNumber.finite.injEq] at same
      linarith

private theorem sharesDouble_natCast {left right : ℕ} :
    SharesDouble left right ↔ SharesMagnitude left right := by
  rw [SharesDouble, Int.natAbs_natCast, Int.natAbs_natCast]
  refine ⟨And.right, fun shared => ⟨?_, shared⟩⟩
  have positive := pos_of_sharesMagnitude shared
  rw [Int.sign_natCast_of_ne_zero positive.1.ne', Int.sign_natCast_of_ne_zero positive.2.ne']

private theorem sharesDouble_neg {left right : ℤ} :
    SharesDouble (-left) (-right) ↔ SharesDouble left right := by
  rw [SharesDouble, SharesDouble, Int.sign_neg, Int.sign_neg, Int.natAbs_neg, Int.natAbs_neg,
    neg_inj]

theorem SharesDouble.symm {left right : ℤ} (shared : SharesDouble left right) :
    SharesDouble right left := by
  refine ⟨shared.1.symm, shared.2.elim (fun both => Or.inl both.symm) fun interval => ?_⟩
  rcases interval with ⟨significand, exponent, normal, coarse, leftInside, rightInside⟩
  exact Or.inr ⟨significand, exponent, normal, coarse, rightInside, leftInside⟩

private theorem sign_ne_neg {left right : ℕ} (positive : 0 < right) :
    ¬ ((left : ℤ) = -(right : ℤ) ∨ SharesDouble left (-right)) := by
  rintro (same | shared)
  · omega
  · have signs := shared.1
    rw [Int.sign_neg, Int.sign_natCast_of_ne_zero positive.ne'] at signs
    rcases Nat.eq_zero_or_pos left with isZero | leftPos
    · simp [isZero] at signs
    · simp [Int.sign_natCast_of_ne_zero leftPos.ne'] at signs

/-- **Integers of one double.** -/
theorem double_intCast_eq_iff {left right : ℤ} :
    double left = double right ↔ left = right ∨ SharesDouble left right := by
  have mixed : ∀ {left right : ℕ}, 0 < right →
      (double left = double ((-right : ℤ) : ℚ) ↔
        (left : ℤ) = -(right : ℤ) ∨ SharesDouble left (-right)) := by
    intro left right positive
    rw [Int.cast_neg, Int.cast_natCast, double_neg]
    exact iff_of_false (double_natCast_ne_neg positive) (sign_ne_neg positive)
  rcases lt_or_ge left 0 with leftNegative | leftNonneg
  · have leftForm : left = -(left.natAbs : ℤ) := by omega
    have leftPos : 0 < left.natAbs := by omega
    generalize left.natAbs = leftMagnitude at leftForm leftPos
    subst leftForm
    rcases lt_or_ge right 0 with rightNegative | rightNonneg
    · have rightForm : right = -(right.natAbs : ℤ) := by omega
      generalize right.natAbs = rightMagnitude at rightForm
      subst rightForm
      rw [Int.cast_neg, Int.cast_neg, Int.cast_natCast, Int.cast_natCast, double_neg, double_neg,
        JsNumber.neg_injective.eq_iff, double_natCast_eq_iff, sharesDouble_neg,
        sharesDouble_natCast, neg_inj, Nat.cast_inj]
    · lift right to ℕ using rightNonneg
      rw [eq_comm, Int.cast_natCast, mixed leftPos, eq_comm]
      exact or_congr_right ⟨SharesDouble.symm, SharesDouble.symm⟩
  · lift left to ℕ using leftNonneg
    rcases lt_or_ge right 0 with rightNegative | rightNonneg
    · have rightForm : right = -(right.natAbs : ℤ) := by omega
      have rightPos : 0 < right.natAbs := by omega
      generalize right.natAbs = rightMagnitude at rightForm rightPos
      subst rightForm
      rw [Int.cast_natCast, mixed rightPos]
    · lift right to ℕ using rightNonneg
      rw [Int.cast_natCast, Int.cast_natCast, double_natCast_eq_iff, sharesDouble_natCast,
        Nat.cast_inj]

theorem lt_natAbs_of_sharesDouble {left right : ℤ} (shared : SharesDouble left right) :
    JsNumber.maxSafeInteger < left.natAbs := by
  have large : 2 ^ (52 + 1) ≤ left.natAbs := by
    rcases shared.2 with both | ⟨significand, exponent, normal, coarse, inside, -⟩
    · have overflows := both.1
      have smaller : 2 ^ (52 + 1) + 2 ^ (doubleLimitBits - 52 - 2) ≤ 2 ^ doubleLimitBits := by
        decide +kernel
      unfold Overflows at overflows
      omega
    · exact le_of_inRoundingInterval (by decide) normal coarse inside
  unfold JsNumber.maxSafeInteger
  omega

theorem exists_finite_double {value : ℤ} (within : ¬ Overflows value.natAbs) :
    ∃ rounded, double value = .finite rounded := by
  have ofMagnitude : double (value.natAbs : ℚ) = .finite (roundTo 52 (-1074) value.natAbs) := by
    rw [double_natCast, if_neg within]
  rcases Int.natAbs_eq value with isNatural | isNegative
  · rw [isNatural, Int.cast_natCast]
    exact ⟨_, ofMagnitude⟩
  · rw [isNegative, Int.cast_neg, Int.cast_natCast, double_neg, ofMagnitude]
    exact ⟨_, rfl⟩

theorem lt_abs_of_double {value : ℤ} {rounded : ℚ} (isDouble : double value = .finite rounded)
    (large : JsNumber.maxSafeInteger < value.natAbs) :
    (JsNumber.maxSafeInteger : ℚ) < |rounded| := by
  have atLeast : (2 : ℚ) ^ (52 + 1) ≤ roundTo 52 (-1074) value.natAbs := by
    refine le_roundTo_of_le (by decide) (by decide) ?_
    unfold JsNumber.maxSafeInteger at large
    omega
  have isAbs : |rounded| = roundTo 52 (-1074) value.natAbs := by
    rcases Int.natAbs_eq value with isNatural | isNegative
    · rw [isNatural, Int.cast_natCast] at isDouble
      rw [finite_double_natCast isDouble, abs_of_nonneg (roundTo_natCast_nonneg _)]
    · rw [isNegative, Int.cast_neg, Int.cast_natCast, double_neg] at isDouble
      have mirrored : double (value.natAbs : ℚ) = .finite (-rounded) := by
        apply JsNumber.neg_injective
        rw [isDouble, JsNumber.neg, neg_neg]
      rw [← abs_neg, finite_double_natCast mirrored, abs_of_nonneg (roundTo_natCast_nonneg _)]
  rw [isAbs]
  refine lt_of_lt_of_le ?_ atLeast
  norm_num [JsNumber.maxSafeInteger]

end GhostArk.Js
