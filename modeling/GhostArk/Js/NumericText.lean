import Mathlib.Data.List.TakeWhile
import GhostArk.Js.Double
import GhostArk.Js.Pattern

/-!
Contract: `Number(text)` of any text.

Owns blanks around a literal, the empty text, the literals with a radix mark, the
word `Infinity`, and the number of a run of digits. Decimal literals are those of
`Js/Double.lean`.
-/

namespace GhostArk.Js

open Lib

def radixOfMark (mark : CodeUnit) : Option Nat :=
  if mark = unit 'x' ∨ mark = unit 'X' then some 16
  else if mark = unit 'o' ∨ mark = unit 'O' then some 8
  else if mark = unit 'b' ∨ mark = unit 'B' then some 2
  else none

/-- The value of a text of digits below the radix. -/
def radixNat (radix : Nat) : Nat → JsString → Option Nat
  | value, [] => some value
  | value, digit :: rest =>
    match hexValue digit with
    | none => none
    | some digitValue =>
      if digitValue < radix then radixNat radix (value * radix + digitValue) rest else none

/-- `NonDecimalIntegerLiteral`. -/
def radixLiteral? : JsString → Option Nat
  | zero :: mark :: first :: rest =>
    if zero = unit '0' then
      (radixOfMark mark).bind fun radix => radixNat radix 0 (first :: rest)
    else none
  | _ => none

/-- `Number(text)`. -/
def numberOfText (text : JsString) : JsNumber :=
  let trimmed := trim text
  if trimmed = [] then .finite 0
  else
    match radixLiteral? trimmed with
    | some value => double value
    | none =>
      if trimmed = js "Infinity" ∨ trimmed = js "+Infinity" then .positiveInfinity
      else if trimmed = js "-Infinity" then .negativeInfinity
      else numberOf trimmed

example : numberOfText (js " 12 ") = .finite 12 ∧ numberOfText (js "0x1F") = .finite 31 ∧
    numberOfText [] = .finite 0 ∧ numberOfText (js "1 2") = .nan := by
  decide +kernel

/-! ### Digits -/

theorem trim_eq_self {text : JsString} (noSpace : ∀ codeUnit ∈ text, isSpace codeUnit = false) :
    trim text = text := by
  have untrimmed {text : JsString} (noneIsSpace : ∀ codeUnit ∈ text, isSpace codeUnit = false) :
      text.dropWhile isSpace = text := by
    rw [List.dropWhile_eq_self_iff]
    intro nonempty
    rw [noneIsSpace _ (List.getElem_mem nonempty)]
    exact Bool.false_ne_true
  rw [trim, untrimmed noSpace, untrimmed, List.reverse_reverse]
  intro codeUnit member
  exact noSpace codeUnit (List.mem_reverse.mp member)

theorem isDigit_facts : ∀ codeUnit : CodeUnit, isDigit codeUnit = true →
    isSpace codeUnit = false ∧ radixOfMark codeUnit = none ∧ codeUnit ≠ unit 'I' ∧
      codeUnit ≠ unit '+' ∧ codeUnit ≠ unit '-' := by
  intro codeUnit isDigit
  have zero : '0'.toNat = 48 := rfl
  have nine : '9'.toNat = 57 := rfl
  have every : ∀ digit : Fin 10, isSpace (Fin.ofNat 65536 (48 + digit.val)) = false ∧
      radixOfMark (Fin.ofNat 65536 (48 + digit.val)) = none ∧
      Fin.ofNat 65536 (48 + digit.val) ≠ unit 'I' ∧
      Fin.ofNat 65536 (48 + digit.val) ≠ unit '+' ∧
      Fin.ofNat 65536 (48 + digit.val) ≠ unit '-' := by
    decide
  simp only [Js.isDigit, inRange, Bool.and_eq_true, decide_eq_true_eq, zero, nine] at isDigit
  have same : Fin.ofNat 65536 (48 + (codeUnit.val - 48)) = codeUnit := by
    apply Fin.ext
    simp only [Fin.val_ofNat]
    omega
  have facts := every ⟨codeUnit.val - 48, by omega⟩
  rwa [same] at facts

section Digits

variable {text : JsString}

theorem numberOfText_digits (nonempty : text ≠ [])
    (digits : ∀ codeUnit ∈ text, isDigit codeUnit = true) :
    numberOfText text = double (digitsNat text) := by
  obtain ⟨first, rest, rfl⟩ := List.exists_cons_of_ne_nil nonempty
  have firstFacts := isDigit_facts first (digits first (.head _))
  have untrimmed : trim (first :: rest) = first :: rest :=
    trim_eq_self fun codeUnit member => (isDigit_facts codeUnit (digits codeUnit member)).1
  have noRadix : radixLiteral? (first :: rest) = none := by
    rcases rest with _ | ⟨mark, _ | ⟨third, rest⟩⟩
    · rfl
    · rfl
    · have noMark := (isDigit_facts mark (digits mark (.tail _ (.head _)))).2.1
      simp only [radixLiteral?, noMark, Option.bind_none, ite_self]
  have notWord {start : CodeUnit} {word : JsString} (different : first ≠ start) :
      first :: rest ≠ start :: word := fun same => different (List.cons_eq_cons.mp same).1
  have run : (first :: rest).takeWhile isDigit = first :: rest :=
    List.takeWhile_eq_self_iff.mpr digits
  have atEnd : (first :: rest).dropWhile isDigit = [] := List.dropWhile_eq_nil_iff.mpr digits
  have unsigned : readSign (first :: rest) = (false, first :: rest) := by
    rw [readSign, if_neg firstFacts.2.2.2.2, if_neg firstFacts.2.2.2.1]
  have literal : readDecimalLiteral (first :: rest) = some ⟨false, first :: rest, [], 0⟩ := by
    simp only [readDecimalLiteral, unsigned, run, atEnd, readFraction, readExponent, Option.map_some]
    rw [if_neg fun none => List.cons_ne_nil _ _ none.1]
  have notInfinity : first :: rest ≠ js "Infinity" := notWord firstFacts.2.2.1
  have notPositive : first :: rest ≠ js "+Infinity" := notWord firstFacts.2.2.2.1
  have notNegative : first :: rest ≠ js "-Infinity" := notWord firstFacts.2.2.2.2
  simp only [numberOfText, untrimmed, noRadix, numberOf, literal]
  rw [if_neg (List.cons_ne_nil _ _), if_neg (not_or.mpr ⟨notInfinity, notPositive⟩),
    if_neg notNegative]
  simp [DecimalLiteral.value]

theorem digitsNat_of_safeNat? {value : Nat} (nonempty : text ≠ [])
    (digits : ∀ codeUnit ∈ text, isDigit codeUnit = true)
    (isSafe : (numberOfText text).safeNat? = some value) : value = digitsNat text := by
  rcases JsNumber.eq_ofNat_of_safeNat? isSafe with ⟨same, small⟩
  rw [numberOfText_digits nonempty digits] at same
  have isDouble : double ((digitsNat text : ℤ) : ℚ) = .finite value := same
  by_cases large : JsNumber.maxSafeInteger < digitsNat text
  · have beyond := lt_abs_of_double isDouble (by rwa [Int.natAbs_natCast])
    rw [Nat.abs_cast, Nat.cast_lt] at beyond
    omega
  · have within : digitsNat text < 2 ^ (52 + 1) := by
      unfold JsNumber.maxSafeInteger at large
      omega
    have notOverflows : ¬ Overflows (digitsNat text) := by
      have smaller : 2 ^ (52 + 1) + 2 ^ (doubleLimitBits - 52 - 2) < 2 ^ doubleLimitBits := by
        decide +kernel
      unfold Overflows
      omega
    rw [Int.cast_natCast, double_natCast, if_neg notOverflows,
      roundTo_natCast_of_lt (by decide) within, JsNumber.finite.injEq, Nat.cast_inj] at isDouble
    exact isDouble.symm

end Digits

end GhostArk.Js
