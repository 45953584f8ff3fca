import Mathlib.Algebra.GroupWithZero.Nat
import Mathlib.Data.List.Basic
import Mathlib.Data.Fin.Basic
import Mathlib.Order.Fin.Basic

/-!
Contract: ECMAScript strings as sequences of UTF-16 code units.

Owns the string type, literals, the character classes that the repository's
regular expressions use, and fixed-width cancellation for concatenations.

Does not own: JSON quoting or URI encoding.
-/

namespace GhostArk.Js

/-- One UTF-16 code unit. -/
abbrev CodeUnit := Fin 65536

/-- An ECMAScript string. Lone surrogates are ordinary values. -/
abbrev JsString := List CodeUnit

instance neZero_unitCount : NeZero 65536 := ⟨by decide⟩

instance neZero_sixteen : NeZero 16 := ⟨by decide⟩

instance : LawfulBEq JsString := List.instLawfulBEq

def utf16 (scalar : Nat) : JsString :=
  if scalar < 0x10000 then [Fin.ofNat 65536 scalar]
  else
    [Fin.ofNat 65536 (0xD800 + (scalar - 0x10000) / 0x400),
      Fin.ofNat 65536 (0xDC00 + (scalar - 0x10000) % 0x400)]

def ofUtf8 : List UInt8 → JsString
  | [] => []
  | b0 :: rest =>
    if b0.toNat < 0x80 then Fin.ofNat 65536 b0.toNat :: ofUtf8 rest
    else
      match rest with
      | [] => []
      | b1 :: rest =>
        if b0.toNat < 0xE0 then utf16 (b0.toNat % 32 * 64 + b1.toNat % 64) ++ ofUtf8 rest
        else
          match rest with
          | [] => []
          | b2 :: rest =>
            if b0.toNat < 0xF0 then
              utf16 ((b0.toNat % 16 * 64 + b1.toNat % 64) * 64 + b2.toNat % 64) ++ ofUtf8 rest
            else
              match rest with
              | [] => []
              | b3 :: rest =>
                utf16 (((b0.toNat % 8 * 64 + b1.toNat % 64) * 64 + b2.toNat % 64) * 64 +
                  b3.toNat % 64) ++ ofUtf8 rest

/-- A string literal of the source. Its bytes evaluate faster than its characters. -/
def js (literal : String) : JsString := ofUtf8 literal.toByteArray.data.toList

example : js "a…𝄞" = [0x61, 0x2026, 0xD834, 0xDD1E] := by decide

/-- The code unit of a BMP character of the source. -/
def unit (character : Char) : CodeUnit := Fin.ofNat 65536 character.toNat

/-- `pieces.join(separator)`. -/
def join (separator : JsString) : List JsString → JsString
  | [] => []
  | [piece] => piece
  | piece :: rest => piece ++ separator ++ join separator rest

theorem join_eq_intercalate (separator : JsString) (pieces : List JsString) :
    join separator pieces = separator.intercalate pieces := by
  fun_induction join separator pieces with
  | case1 => rfl
  | case2 piece => rw [List.intercalate_singleton]
  | case3 piece rest several ih =>
    rcases List.exists_cons_of_ne_nil several with ⟨second, others, rfl⟩
    rw [List.intercalate_cons_cons, ih]

/-- `[first-last]`. -/
def inRange (first last : Char) (codeUnit : CodeUnit) : Bool :=
  first.toNat ≤ codeUnit.val && codeUnit.val ≤ last.toNat

def isDigit (codeUnit : CodeUnit) : Bool := inRange '0' '9' codeUnit

def isLowerHex (codeUnit : CodeUnit) : Bool := inRange 'a' 'f' codeUnit || isDigit codeUnit

def isAlphanumeric (codeUnit : CodeUnit) : Bool :=
  inRange 'A' 'Z' codeUnit || inRange 'a' 'z' codeUnit || isDigit codeUnit

def isHex64 (value : JsString) : Bool := value.length == 64 && value.all isLowerHex

theorem length_of_isHex64 {value : JsString} (shape : isHex64 value = true) :
    value.length = 64 := by
  simp only [isHex64, Bool.and_eq_true, beq_iff_eq] at shape
  exact shape.1

/-- `/^<literal>[a-f0-9]{64}$/`. -/
def isTaggedHex64 (literal : String) (value : JsString) : Bool :=
  (js literal).isPrefixOf value && isHex64 (value.drop (js literal).length)

theorem isTaggedHex64_iff {literal : String} {value : JsString} :
    isTaggedHex64 literal value = true ↔
      ∃ hex, isHex64 hex = true ∧ value = js literal ++ hex := by
  constructor
  · intro shape
    simp only [isTaggedHex64, Bool.and_eq_true, List.isPrefixOf_iff_prefix] at shape
    obtain ⟨⟨hex, rfl⟩, hexShape⟩ := shape
    rw [List.drop_left] at hexShape
    exact ⟨hex, hexShape, rfl⟩
  · rintro ⟨hex, hexShape, rfl⟩
    simp [isTaggedHex64, hexShape]

def isHighSurrogate (codeUnit : CodeUnit) : Bool :=
  0xD800 ≤ codeUnit.val && codeUnit.val ≤ 0xDBFF

def isLowSurrogate (codeUnit : CodeUnit) : Bool :=
  0xDC00 ≤ codeUnit.val && codeUnit.val ≤ 0xDFFF

def isSurrogate (codeUnit : CodeUnit) : Bool := isHighSurrogate codeUnit || isLowSurrogate codeUnit

def surrogatePair (high low : CodeUnit) : Nat :=
  0x10000 + (high.val - 0xD800) * 0x400 + (low.val - 0xDC00)

def hexDigit (nibble : Fin 16) : CodeUnit :=
  if nibble.val < 10 then Fin.ofNat 65536 (48 + nibble.val) else Fin.ofNat 65536 (87 + nibble.val)

def hexValue (codeUnit : CodeUnit) : Option Nat :=
  if isDigit codeUnit then some (codeUnit.val - 48)
  else if inRange 'a' 'f' codeUnit then some (codeUnit.val - 87)
  else if inRange 'A' 'F' codeUnit then some (codeUnit.val - 55)
  else none

theorem isLowerHex_hexDigit (nibble : Fin 16) : isLowerHex (hexDigit nibble) = true := by
  revert nibble
  decide +kernel

theorem hexValue_hexDigit (nibble : Fin 16) : hexValue (hexDigit nibble) = some nibble.val := by
  revert nibble
  decide +kernel

/-- Two concatenations with equally long fixed parts around a separator agree
piece by piece. -/
theorem append_separator_inj {first first' separator rest rest' : JsString}
    (sameLength : first.length = first'.length)
    (same : first ++ separator ++ rest = first' ++ separator ++ rest') :
    first = first' ∧ rest = rest' := by
  rw [List.append_assoc, List.append_assoc] at same
  obtain ⟨firstEq, tailEq⟩ := List.append_inj same sameLength
  exact ⟨firstEq, List.append_cancel_left tailEq⟩

end GhostArk.Js
