import GhostArk.Js.Double

/-!
Contract: doubles by their bits, and numbers that stand for integers.

Owns the three fields of a double with what they denote, subtraction and `Math.abs`, `BigInt` and
`Number.parseInt` of decimal digits, and which integers are doubles.

Does not own: NaN payloads, and the texts that `BigInt` reads besides digits.
-/

namespace GhostArk.Js

open Lib

/-- A double by its sign, biased exponent and fraction. -/
structure Binary64 where
  negative : Bool
  biasedExponent : ℕ
  fraction : ℕ
  exponent_lt : biasedExponent < 2 ^ 11
  fraction_lt : fraction < 2 ^ 52

namespace Binary64

/-- `view.setFloat64(0, value)`, then `view.getBigUint64(0)`. -/
def bits (value : Binary64) : ℕ :=
  value.negative.toNat * 2 ^ 63 + value.biasedExponent * 2 ^ 52 + value.fraction

def isFinite (value : Binary64) : Bool := value.biasedExponent != 2047

/-- What a finite double denotes. -/
def toRat (value : Binary64) : ℚ :=
  let magnitude : ℚ :=
    if value.biasedExponent = 0 then 2 ^ (-1022 : ℤ) * (value.fraction / 2 ^ 52)
    else 2 ^ ((value.biasedExponent : ℤ) - 1023) * (1 + value.fraction / 2 ^ 52)
  if value.negative then -magnitude else magnitude

section Bits

variable (value : Binary64)

theorem bits_shiftRight_sign : value.bits >>> 63 = value.negative.toNat := by
  have exponent := value.exponent_lt
  have fraction := value.fraction_lt
  rw [bits, Nat.shiftRight_eq_div_pow]
  omega

theorem bits_exponent : (value.bits >>> 52) &&& 0x7ff = value.biasedExponent := by
  have exponent := value.exponent_lt
  have fraction := value.fraction_lt
  rw [bits, Nat.shiftRight_eq_div_pow, show 0x7ff = 2 ^ 11 - 1 by rfl,
    Nat.and_two_pow_sub_one_eq_mod]
  omega

theorem bits_fraction : value.bits &&& 0xfffffffffffff = value.fraction := by
  have fraction := value.fraction_lt
  rw [bits, show 0xfffffffffffff = 2 ^ 52 - 1 by rfl, Nat.and_two_pow_sub_one_eq_mod]
  omega

end Bits

end Binary64

/-! ### Integers -/

def JsNumber.sub (left right : JsNumber) : JsNumber := left.add right.neg

def JsNumber.abs : JsNumber → JsNumber
  | .finite value => .finite |value|
  | .negativeInfinity => .positiveInfinity
  | number => number

def bigIntOfNumber : JsNumber → Except JsError ℤ
  | .finite value =>
    if value.den = 1 then .ok value.num else .error ⟨.external (js "RangeError"), [], []⟩
  | _ => .error ⟨.external (js "RangeError"), [], []⟩

/-- `BigInt(text)` of decimal digits. -/
def bigIntOfDigits (text : JsString) : Except JsError ℤ :=
  if text.all isDigit then .ok (digitsNat text)
  else .error ⟨.external (js "SyntaxError"), [], []⟩

/-- `Number.parseInt(text, 10)` of a text that does not start with a blank. -/
def parseDecimalInt (text : JsString) : JsNumber :=
  let digits := (readSign text).2.takeWhile isDigit
  if digits = [] then .nan
  else double (if (readSign text).1 then -digitsNat digits else digitsNat digits)

section Integers

variable {value : ℤ}

@[simp] theorem bigIntOfNumber_intCast (value : ℤ) :
    bigIntOfNumber (.finite value) = .ok value := by
  rw [bigIntOfNumber, if_pos (Rat.den_intCast value)]
  rfl

theorem not_overflows_of_lt {magnitude : ℕ} (small : magnitude < 2 ^ 200) :
    ¬ Overflows magnitude := by
  have room : 2 ^ 200 + 2 ^ (doubleLimitBits - 52 - 2) < 2 ^ doubleLimitBits := by decide +kernel
  unfold Overflows
  omega

theorem exists_double_eq_intCast {bits : ℕ} (wide : 53 ≤ bits) (few : bits ≤ 200)
    (small : value.natAbs < 2 ^ bits) :
    ∃ rounded : ℤ, rounded.natAbs < 2 ^ (bits + 1) ∧ double value = .finite rounded := by
  have ofMagnitude : ∃ rounded : ℕ, rounded < 2 ^ (bits + 1) ∧
      double (value.natAbs : ℚ) = .finite rounded := by
    have below : value.natAbs < 2 ^ 200 :=
      lt_of_lt_of_le small (Nat.pow_le_pow_right two_pos few)
    rw [double_natCast, if_neg (not_overflows_of_lt below)]
    have twice : 2 ^ (bits + 1) = 2 ^ bits + 2 ^ bits := by rw [pow_succ, mul_two]
    by_cases exact : value.natAbs < 2 ^ (52 + 1)
    · exact ⟨value.natAbs, by omega, by rw [roundTo_natCast_of_lt (by decide) exact]⟩
    · have half : 2 ^ (bits + 1 - 52 - 2) ≤ 2 ^ bits :=
        Nat.pow_le_pow_right two_pos (by omega)
      have notReached : ¬ (2 : ℚ) ^ (bits + 1) ≤ roundTo 52 (-1074) value.natAbs := by
        rw [pow_le_roundTo_iff (by decide) (by decide) (by omega)]
        omega
      rcases exists_inRoundingInterval (by decide) (not_lt.mp exact) with
        ⟨significand, places, normal, coarse, inside⟩
      rw [roundTo_of_inRoundingInterval (by decide) (by decide) normal coarse inside] at notReached ⊢
      refine ⟨significand * 2 ^ places, ?_, by push_cast; rfl⟩
      exact_mod_cast not_le.mp notReached
  rcases ofMagnitude with ⟨rounded, bounded, isRounded⟩
  rcases Int.natAbs_eq value with isNatural | isNegative
  · rw [isNatural, Int.cast_natCast]
    exact ⟨rounded, bounded, isRounded⟩
  · rw [isNegative, Int.cast_neg, Int.cast_natCast, double_neg, isRounded]
    refine ⟨-rounded, ?_, ?_⟩
    · rwa [Int.natAbs_neg, Int.natAbs_natCast]
    · rw [JsNumber.neg, Int.cast_neg, Int.cast_natCast]

theorem double_intCast (safe : value.natAbs ≤ JsNumber.maxSafeInteger) :
    double value = .finite value := by
  unfold JsNumber.maxSafeInteger at safe
  have ofMagnitude : double (value.natAbs : ℚ) = .finite value.natAbs := by
    rw [double_natCast, if_neg (not_overflows_of_lt (by omega)),
      roundTo_natCast_of_lt (by decide) (by omega)]
  rcases Int.natAbs_eq value with isNatural | isNegative
  · rw [isNatural, Int.cast_natCast, ofMagnitude]
  · rw [isNegative, Int.cast_neg, Int.cast_natCast, double_neg, ofMagnitude]
    simp [JsNumber.neg]

theorem nonneg_intCast (value : ℤ) :
    JsNumber.le (.ofNat 0) (.finite value) = decide (0 ≤ value) := by
  have isLe : JsNumber.le (.ofNat 0) (.finite value) =
      (decide (((0 : ℕ) : ℚ) < value) || decide (JsNumber.finite ((0 : ℕ) : ℚ) = .finite value)) :=
    rfl
  rw [isLe, ← Bool.decide_or, decide_eq_decide, JsNumber.finite.injEq, ← le_iff_lt_or_eq,
    Nat.cast_zero, Int.cast_nonneg_iff]

theorem sub_intCast (left right : ℤ) :
    JsNumber.sub (.finite left) (.finite right) = double ((left - right : ℤ) : ℚ) := by
  rw [JsNumber.sub, JsNumber.neg, JsNumber.add, Int.cast_sub, sub_eq_add_neg]

theorem lt_abs_double {bits bound : ℕ} (wide : 53 ≤ bits) (few : bits ≤ 200)
    (small : value.natAbs < 2 ^ bits) (safe : bound ≤ JsNumber.maxSafeInteger) :
    JsNumber.lt (.ofNat bound) (double value).abs = decide (bound < value.natAbs) := by
  by_cases exact : value.natAbs ≤ JsNumber.maxSafeInteger
  · rw [double_intCast exact, JsNumber.abs, JsNumber.ofNat, JsNumber.lt, ← Int.cast_abs,
      Int.abs_eq_natAbs, Int.cast_natCast, decide_eq_decide]
    exact Nat.cast_lt
  · rcases exists_double_eq_intCast wide few small with ⟨rounded, -, isRounded⟩
    have beyond := lt_abs_of_double isRounded (not_le.mp exact)
    have boundCast : (bound : ℚ) ≤ JsNumber.maxSafeInteger := Nat.cast_le.mpr safe
    have farther : bound < value.natAbs := lt_of_le_of_lt safe (not_le.mp exact)
    rw [isRounded, JsNumber.abs, JsNumber.ofNat, JsNumber.lt, decide_eq_true farther,
      decide_eq_true (lt_of_le_of_lt boundCast beyond)]

end Integers

end GhostArk.Js
