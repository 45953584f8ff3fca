import Mathlib.Data.List.TakeWhile
import Mathlib.Tactic.IntervalCases
import GhostArk.Js.Number

/-!
Contract: a number text for evaluating concrete inputs.

Owns an instance of `NumberText` that writes integers in decimal, as the runtime
does below `10 ^ 21`. Other rationals get a text of their own (`<num>e<den>`) so
that the round-trip law holds for all of them; no evaluated input has one.
-/

namespace GhostArk.Js

namespace Decimal

/-! ### Natural numbers -/

def natText (value : Nat) : JsString := (Nat.toDigits 10 value).map unit

def natOfText (text : JsString) : Nat :=
  Nat.ofDigitChars 10 (text.map fun codeUnit => Char.ofNat codeUnit.val) 0

private theorem digit_bounds {digit : Char} (isDigit : digit.isDigit = true) :
    48 ≤ digit.toNat ∧ digit.toNat ≤ 57 := by
  simp only [Char.isDigit, Bool.and_eq_true, decide_eq_true_eq, ge_iff_le] at isDigit
  exact ⟨isDigit.1, isDigit.2⟩

private theorem unit_val {digit : Char} (isDigit : digit.isDigit = true) :
    (unit digit).val = digit.toNat := by
  have bounds := digit_bounds isDigit
  simp only [unit, Fin.val_ofNat]
  omega

theorem isDigit_natText {value : Nat} {codeUnit : CodeUnit} (member : codeUnit ∈ natText value) :
    isDigit codeUnit = true := by
  obtain ⟨digit, inDigits, rfl⟩ := List.mem_map.mp member
  have decimal := Nat.isDigit_of_mem_toDigits (by decide) (by decide) inDigits
  have bounds := digit_bounds decimal
  simp only [isDigit, inRange, unit_val decimal, Bool.and_eq_true, decide_eq_true_eq]
  exact bounds

theorem natOfText_natText (value : Nat) : natOfText (natText value) = value := by
  have same : (natText value).map (fun codeUnit => Char.ofNat codeUnit.val) =
      Nat.toDigits 10 value := by
    rw [natText, List.map_map]
    conv_rhs => rw [← List.map_id (Nat.toDigits 10 value)]
    apply List.map_congr_left
    intro digit member
    have decimal := Nat.isDigit_of_mem_toDigits (by decide) (by decide) member
    simp only [Function.comp_apply, unit_val decimal, id_eq]
    exact Char.ofNat_toNat digit
  rw [natOfText, same, Nat.ofDigitChars_ten_toDigits]

theorem natText_ne_nil (value : Nat) : natText value ≠ [] := by
  simp [natText, Nat.toDigits_ne_nil]

private theorem head_toDigits {value : Nat} (positive : 0 < value) :
    (Nat.toDigits 10 value).head? ≠ some '0' := by
  induction value using Nat.strong_induction_on with
  | _ value ih =>
    by_cases small : value < 10
    · rw [Nat.toDigits_of_lt_base small]
      interval_cases value <;> decide
    · rw [Nat.toDigits_of_base_le (by decide) (by omega),
        List.head?_append_of_ne_nil _ Nat.toDigits_ne_nil]
      exact ih (value / 10) (by omega) (by omega)

private theorem skipDigits_natText (value : Nat) {rest : JsString}
    (stops : ∀ codeUnit ∈ rest.head?, isDigit codeUnit = false) :
    skipDigits (natText value ++ rest) = some rest := by
  have restStops : rest.dropWhile isDigit = rest := by
    cases rest with
    | nil => rfl
    | cons first tail => simp [stops first (by simp)]
  have digits : ∀ codeUnit ∈ natText value, isDigit codeUnit = true :=
    fun codeUnit member => isDigit_natText member
  cases text : natText value with
  | nil => exact absurd text (natText_ne_nil value)
  | cons first tail =>
    rw [text] at digits
    rw [List.cons_append, skipDigits, if_pos (digits first (by simp)),
      List.dropWhile_append_of_pos fun codeUnit member => digits codeUnit (by simp [member]),
      restStops]

private theorem skipInteger_natText (value : Nat) {rest : JsString}
    (stops : ∀ codeUnit ∈ rest.head?, isDigit codeUnit = false) :
    skipInteger (natText value ++ rest) = some rest := by
  have digits := skipDigits_natText value stops
  rcases Nat.eq_zero_or_pos value with rfl | positive
  · rfl
  · have notZero : ∀ first tail, natText value = first :: tail → first ≠ unit '0' := by
      intro first tail text isZero
      have head := head_toDigits positive
      cases digitsText : Nat.toDigits 10 value with
      | nil => exact Nat.toDigits_ne_nil digitsText
      | cons digit others =>
        have decimal : digit.isDigit = true :=
          Nat.isDigit_of_mem_toDigits (by decide) (by decide) (digitsText ▸ List.mem_cons_self)
        rw [natText, digitsText, List.map_cons, List.cons.injEq] at text
        rw [digitsText, List.head?_cons] at head
        apply head
        have sameVal : digit.toNat = 48 := by
          rw [← unit_val decimal, text.1, isZero]
          rfl
        rw [← Char.ofNat_toNat digit, sameVal]
    cases text : natText value with
    | nil => exact absurd text (natText_ne_nil value)
    | cons first tail =>
      rw [text] at digits
      rw [List.cons_append, skipInteger, if_neg (notZero first tail text)]
      exact digits

/-! ### Rationals -/

def intText : Int → JsString
  | .ofNat value => natText value
  | .negSucc value => unit '-' :: natText (value + 1)

def intOfText (text : JsString) : Int :=
  if text.head? = some (unit '-') then -natOfText (text.drop 1) else natOfText text

def toText (value : ℚ) : JsString :=
  if value.den = 1 then intText value.num else intText value.num ++ unit 'e' :: natText value.den

def ofText (text : JsString) : JsNumber :=
  let mantissa := text.takeWhile (· ≠ unit 'e')
  let exponent := text.dropWhile (· ≠ unit 'e')
  if exponent = [] then .finite (intOfText mantissa)
  else .finite (intOfText mantissa / natOfText (exponent.drop 1))

private theorem head_natText (value : Nat) : (natText value).head? ≠ some (unit '-') := by
  intro starts
  have member : unit '-' ∈ natText value := List.mem_of_head? starts
  exact absurd (isDigit_natText member) (by decide)

theorem intOfText_intText (value : Int) : intOfText (intText value) = value := by
  cases value with
  | ofNat value =>
    rw [intText, intOfText, if_neg (head_natText value), natOfText_natText]
    rfl
  | negSucc value =>
    rw [intText, intOfText, List.head?_cons, if_pos rfl, List.drop_one, List.tail_cons,
      natOfText_natText]
    rfl

private theorem intText_units {value : Int} {codeUnit : CodeUnit}
    (member : codeUnit ∈ intText value) : isDigit codeUnit = true ∨ codeUnit = unit '-' := by
  cases value with
  | ofNat value => exact Or.inl (isDigit_natText member)
  | negSucc value =>
    rcases List.mem_cons.mp member with rfl | inDigits
    · exact Or.inr rfl
    · exact Or.inl (isDigit_natText inDigits)

private theorem intText_noExponent {value : Int} :
    ∀ codeUnit ∈ intText value, decide (codeUnit ≠ unit 'e') = true := by
  intro codeUnit member
  rw [decide_eq_true_eq]
  rintro rfl
  rcases intText_units member with digit | minus
  · exact absurd digit (by decide)
  · exact absurd minus (by decide)

theorem ofText_toText (value : ℚ) : ofText (toText value) = .finite value := by
  unfold toText ofText
  split
  next integral =>
    rw [List.takeWhile_eq_self_iff.mpr intText_noExponent,
      List.dropWhile_eq_nil_iff.mpr intText_noExponent, if_pos rfl, intOfText_intText,
      Rat.coe_int_num_of_den_eq_one integral]
  next =>
    rw [List.takeWhile_append_of_pos intText_noExponent,
      List.dropWhile_append_of_pos intText_noExponent]
    simp [intOfText_intText, natOfText_natText, Rat.num_div_den]

theorem toText_units (value : ℚ) : ∀ codeUnit ∈ toText value, isNumberUnit codeUnit = true := by
  have integer : ∀ codeUnit ∈ intText value.num, isNumberUnit codeUnit = true := by
    intro codeUnit member
    rcases intText_units member with digit | rfl
    · simp [isNumberUnit, digit]
    · decide
  intro codeUnit member
  unfold toText at member
  split at member
  · exact integer codeUnit member
  · rcases List.mem_append.mp member with inInteger | inExponent
    · exact integer codeUnit inInteger
    · rcases List.mem_cons.mp inExponent with rfl | inDigits
      · decide
      · simp [isNumberUnit, isDigit_natText inDigits]

private theorem isJsonNumber_intText (value : Int) {exponent : JsString}
    (stops : ∀ codeUnit ∈ exponent.head?, isDigit codeUnit = false ∧ codeUnit ≠ unit '.')
    (wellFormed : skipExponent exponent = some []) :
    isJsonNumber (intText value ++ exponent) = true := by
  have fraction : skipFraction exponent = some exponent := by
    cases exponent with
    | nil => rfl
    | cons first rest => rw [skipFraction, if_neg (stops first (by simp)).2]
  have integer : ∀ natural, ((skipInteger (natText natural ++ exponent)).bind skipFraction).bind
      skipExponent = some [] := by
    intro natural
    rw [skipInteger_natText natural fun codeUnit member => (stops codeUnit member).1]
    simp [fraction, wellFormed]
  cases value with
  | ofNat natural =>
    have noSign : (natText natural ++ exponent).head? ≠ some (unit '-') := by
      rw [List.head?_append_of_ne_nil _ (natText_ne_nil natural)]
      exact head_natText natural
    change decide (((skipInteger (if _ then _ else _)).bind skipFraction).bind skipExponent =
      some []) = true
    rw [intText, if_neg noSign, integer natural, decide_eq_true rfl]
  | negSucc natural =>
    simp only [intText, isJsonNumber, List.cons_append, List.head?_cons, if_true, List.drop_one,
      List.tail_cons, integer (natural + 1), decide_true]

theorem isJsonNumber_toText (value : ℚ) : isJsonNumber (toText value) = true := by
  unfold toText
  split
  · rw [← List.append_nil (intText value.num)]
    exact isJsonNumber_intText value.num (by simp) rfl
  · apply isJsonNumber_intText
    · intro codeUnit member
      obtain rfl : unit 'e' = codeUnit := by simpa using member
      decide
    · have digits := skipDigits_natText value.den (show ∀ codeUnit ∈ [].head?, _ by simp)
      rw [List.append_nil] at digits
      rw [skipExponent.eq_def]
      simp only [true_or, if_true]
      cases text : natText value.den with
      | nil => exact absurd text (natText_ne_nil value.den)
      | cons first rest =>
        have digit := isDigit_natText (show first ∈ natText value.den by simp [text])
        have unsigned : ¬ (first = unit '+' ∨ first = unit '-') := by
          rintro (rfl | rfl)
          · exact absurd digit (by decide)
          · exact absurd digit (by decide)
        simp only [if_neg unsigned]
        rwa [text] at digits

end Decimal

def decimalText : NumberText where
  toText := Decimal.toText
  ofText := Decimal.ofText
  ofText_toText := Decimal.ofText_toText
  toText_units := Decimal.toText_units
  isJsonNumber_toText := Decimal.isJsonNumber_toText

end GhostArk.Js
