import Mathlib.Algebra.Order.Floor.Defs
import Mathlib.Data.Rat.Floor
import GhostArk.Js.Text

/-!
Contract: ECMAScript numbers as far as the repository observes them.

Owns the number type, strict equality, the relational operators with their NaN
rule, the integer predicates, and the text of a finite number as a parameter
with the round-trip law of `JSON.stringify` and `JSON.parse`.

`-0` and `0` are one value: no modelled operation tells them apart
(`canonicalize` maps both to `"0"`). Finite values range over all rationals, of
which the doubles are a subset closed under every modelled operation.
-/

namespace GhostArk.Js

inductive JsNumber where
  | nan
  | positiveInfinity
  | negativeInfinity
  | finite (value : ℚ)
deriving DecidableEq, Repr

namespace JsNumber

def ofNat (value : Nat) : JsNumber := finite value

def strictEq : JsNumber → JsNumber → Bool
  | nan, _ => false
  | left, right => left = right

/-- `left < right`; every comparison with NaN is false. -/
def lt : JsNumber → JsNumber → Bool
  | finite left, finite right => left < right
  | negativeInfinity, finite _ => true
  | negativeInfinity, positiveInfinity => true
  | finite _, positiveInfinity => true
  | _, _ => false

def le (left right : JsNumber) : Bool := lt left right || strictEq left right

def isFinite : JsNumber → Bool
  | finite _ => true
  | _ => false

def isInteger : JsNumber → Bool
  | finite value => value.den = 1
  | _ => false

/-- `Number.MAX_SAFE_INTEGER`. -/
def maxSafeInteger : Nat := 2 ^ 53 - 1

/-- The integer of a number that `Number.isSafeInteger` accepts. -/
def safeInteger? : JsNumber → Option Int
  | finite value =>
    if value.den = 1 ∧ value.num.natAbs ≤ maxSafeInteger then some value.num else none
  | _ => none

/-- The value of a non-negative safe integer. -/
def safeNat? (number : JsNumber) : Option Nat :=
  match number.safeInteger? with
  | some (Int.ofNat value) => some value
  | _ => none

@[simp] theorem safeNat?_ofNat {value : Nat} (small : value ≤ maxSafeInteger) :
    (ofNat value).safeNat? = some value := by
  simp [ofNat, safeNat?, safeInteger?, small]

variable {number : JsNumber}

theorem eq_ofNat_of_safeNat? {value : Nat} (isSafe : number.safeNat? = some value) :
    number = ofNat value ∧ value ≤ maxSafeInteger := by
  cases number with
  | finite rational =>
    simp only [safeNat?, safeInteger?] at isSafe
    split at isSafe
    next natural isNatural =>
      split at isNatural
      next integral =>
        obtain rfl : natural = value := Option.some.inj isSafe
        have numerator : rational.num = Int.ofNat natural := Option.some.inj isNatural
        refine ⟨?_, by simpa [numerator] using integral.2⟩
        rw [ofNat, ← Rat.num_div_den rational, numerator, integral.1]
        simp
      next => contradiction
    next => contradiction
  | nan => simp [safeNat?, safeInteger?] at isSafe
  | positiveInfinity => simp [safeNat?, safeInteger?] at isSafe
  | negativeInfinity => simp [safeNat?, safeInteger?] at isSafe

@[simp] theorem ofNat_inj {left right : Nat} : ofNat left = ofNat right ↔ left = right := by
  simp [ofNat]

@[simp] theorem strictEq_ofNat (left right : Nat) :
    strictEq (ofNat left) (ofNat right) = decide (left = right) := by
  simp [strictEq, ofNat]

@[simp] theorem lt_ofNat (left right : Nat) :
    lt (ofNat left) (ofNat right) = decide (left < right) := by
  simp [lt, ofNat]

@[simp] theorem le_ofNat (left right : Nat) :
    le (ofNat left) (ofNat right) = decide (left ≤ right) := by
  simp only [le, lt_ofNat, strictEq_ofNat]
  grind

theorem le_ofNat_mono {fewer more : Nat} (isLe : le number (ofNat fewer) = true)
    (isFewer : fewer ≤ more) : le number (ofNat more) = true := by
  have cast : (fewer : ℚ) ≤ more := Nat.cast_le.mpr isFewer
  cases number with
  | nan => exact isLe
  | positiveInfinity => cases isLe
  | negativeInfinity => rfl
  | finite value =>
    simp only [le, lt, strictEq, ofNat, Bool.or_eq_true, decide_eq_true_eq, finite.injEq,
      ← le_iff_lt_or_eq] at isLe ⊢
    exact isLe.trans cast

theorem eq_of_strictEq {left right : JsNumber} (same : strictEq left right = true) :
    left = right := by
  cases left <;> simp_all [strictEq]

theorem exists_of_isFinite (isFinite : number.isFinite = true) :
    ∃ value, number = .finite value := by
  cases number with
  | finite value => exact ⟨value, rfl⟩
  | nan => cases isFinite
  | positiveInfinity => cases isFinite
  | negativeInfinity => cases isFinite

/-- `Math.max(left, right)`. -/
def max : JsNumber → JsNumber → JsNumber
  | nan, _ => nan
  | _, nan => nan
  | left, right => if lt left right then right else left

def round : JsNumber → JsNumber
  | finite value => finite (⌊value + 1 / 2⌋ : ℤ)
  | other => other

end JsNumber

def isNumberUnit (codeUnit : CodeUnit) : Bool :=
  isDigit codeUnit || codeUnit == unit '-' || codeUnit == unit '+' || codeUnit == unit '.' ||
    codeUnit == unit 'e' || codeUnit == unit 'E'

section Grammar

def skipDigits : JsString → Option JsString
  | [] => none
  | first :: rest => if isDigit first then some (rest.dropWhile isDigit) else none

/-- The rest after `0` or a digit run without leading zero. -/
def skipInteger : JsString → Option JsString
  | [] => none
  | first :: rest => if first = unit '0' then some rest else skipDigits (first :: rest)

def skipFraction : JsString → Option JsString
  | [] => some []
  | first :: rest => if first = unit '.' then skipDigits rest else some (first :: rest)

def skipExponent : JsString → Option JsString
  | [] => some []
  | first :: rest =>
    if first = unit 'e' ∨ first = unit 'E' then
      match rest with
      | [] => none
      | second :: digits =>
        if second = unit '+' ∨ second = unit '-' then skipDigits digits
        else skipDigits (second :: digits)
    else some (first :: rest)

/-- `-?(0|[1-9][0-9]*)(\.[0-9]+)?([eE][+-]?[0-9]+)?`. -/
def isJsonNumber (text : JsString) : Bool :=
  let unsigned := if text.head? = some (unit '-') then text.drop 1 else text
  ((skipInteger unsigned).bind skipFraction).bind skipExponent = some []

end Grammar

/-- Number-to-text conversion of the runtime: `JSON.stringify` of a finite number
is a JSON number that `JSON.parse` reads back to the same number. -/
structure NumberText where
  toText : ℚ → JsString
  ofText : JsString → JsNumber
  ofText_toText : ∀ value, ofText (toText value) = .finite value
  toText_units : ∀ value, ∀ codeUnit ∈ toText value, isNumberUnit codeUnit = true
  isJsonNumber_toText : ∀ value, isJsonNumber (toText value) = true

namespace NumberText

variable (numbers : NumberText)

theorem toText_ne_nil (value : ℚ) : numbers.toText value ≠ [] := by
  intro empty
  have shape := numbers.isJsonNumber_toText value
  rw [empty] at shape
  simp [isJsonNumber, skipInteger] at shape

/-- `String(number)`. -/
def string : JsNumber → JsString
  | .nan => js "NaN"
  | .positiveInfinity => js "Infinity"
  | .negativeInfinity => js "-Infinity"
  | .finite value => numbers.toText value

/-- `JSON.stringify(number)`. -/
def json : JsNumber → JsString
  | .finite value => numbers.toText value
  | _ => js "null"

end NumberText

end GhostArk.Js
