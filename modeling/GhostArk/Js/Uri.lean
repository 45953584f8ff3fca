import GhostArk.Js.Sha256
import GhostArk.Js.Value

/-!
Contract: `encodeURIComponent`.

Owns percent-encoding of the UTF-8 bytes of a string, the `URIError` on a lone
surrogate, and injectivity: two strings with the same encoding are equal.
-/

namespace GhostArk.Js

/-- Units that `encodeURIComponent` keeps: letters, digits and `-_.!~*'()`. -/
def isUriUnreserved (codeUnit : CodeUnit) : Bool :=
  isAlphanumeric codeUnit || (js "-_.!~*'()").contains codeUnit

def upperHexDigit (nibble : Nat) : CodeUnit :=
  if nibble < 10 then Fin.ofNat 65536 (48 + nibble) else Fin.ofNat 65536 (55 + nibble)

/-- One byte, kept or written as `%XX`. -/
def percentByte (byte : Nat) : JsString :=
  if isUriUnreserved (Fin.ofNat 65536 byte) then [Fin.ofNat 65536 byte]
  else [unit '%', upperHexDigit (byte / 16), upperHexDigit (byte % 16)]

/-- No surrogate stands alone. -/
def isWellFormed : JsString → Bool
  | [] => true
  | [single] => !isSurrogate single
  | first :: second :: rest =>
    if isHighSurrogate first && isLowSurrogate second then isWellFormed rest
    else !isSurrogate first && isWellFormed (second :: rest)

/-- `encodeURIComponent(value)`. -/
def encodeURIComponent (value : JsString) : Except JsError JsString :=
  if isWellFormed value then .ok ((utf8 value).flatMap percentByte)
  else .error ⟨.uriError, js "URI malformed", []⟩

example : (encodeURIComponent (js "req/1 é")).toOption = some (js "req%2F1%20%C3%A9") := by
  decide +kernel

/-! ### UTF-8 of well-formed text -/

private def bytes (text : List Nat) : List UInt8 := text.map UInt8.ofNat

private theorem ofUtf8_utf8Scalar {scalar : Nat} (bounded : scalar < 0x110000)
    (rest : List Nat) :
    ofUtf8 (bytes (utf8Scalar scalar ++ rest)) = utf16 scalar ++ ofUtf8 (bytes rest) := by
  unfold utf8Scalar
  split
  next oneByte =>
    simp only [bytes, List.cons_append, List.nil_append, List.map_cons]
    rw [ofUtf8.eq_def]
    simp only [UInt8.toNat_ofNat']
    rw [if_pos (by omega), utf16, if_pos (by omega)]
    have same : scalar % 2 ^ 8 = scalar := by omega
    rw [same, List.cons_append, List.nil_append]
  next =>
    split
    next twoBytes =>
      simp only [bytes, List.cons_append, List.nil_append, List.map_cons]
      rw [ofUtf8.eq_def]
      simp only [UInt8.toNat_ofNat']
      rw [if_neg (by omega), if_pos (by omega)]
      congr 2
      omega
    next =>
      split
      next threeBytes =>
        simp only [bytes, List.cons_append, List.nil_append, List.map_cons]
        rw [ofUtf8.eq_def]
        simp only [UInt8.toNat_ofNat']
        rw [if_neg (by omega), if_neg (by omega), if_pos (by omega)]
        congr 2
        omega
      next fourBytes =>
        simp only [bytes, List.cons_append, List.nil_append, List.map_cons]
        rw [ofUtf8.eq_def]
        simp only [UInt8.toNat_ofNat']
        rw [if_neg (by omega), if_neg (by omega), if_neg (by omega)]
        congr 2
        omega

theorem utf16_codeUnit (codeUnit : CodeUnit) : utf16 codeUnit.val = [codeUnit] := by
  rw [utf16, if_pos codeUnit.isLt]
  congr 1
  apply Fin.ext
  simp [Fin.ofNat, Nat.mod_eq_of_lt codeUnit.isLt]

theorem surrogatePair_bounded {high low : CodeUnit}
    (isHigh : isHighSurrogate high = true) (isLow : isLowSurrogate low = true) :
    surrogatePair high low < 0x110000 := by
  simp only [isHighSurrogate, isLowSurrogate, Bool.and_eq_true, decide_eq_true_eq] at isHigh isLow
  unfold surrogatePair
  omega

theorem utf16_surrogatePair {high low : CodeUnit} (isHigh : isHighSurrogate high = true)
    (isLow : isLowSurrogate low = true) : utf16 (surrogatePair high low) = [high, low] := by
  simp only [isHighSurrogate, isLowSurrogate, Bool.and_eq_true, decide_eq_true_eq] at isHigh isLow
  have unpaired : ¬ surrogatePair high low < 0x10000 := by
    unfold surrogatePair
    omega
  rw [utf16, if_neg unpaired]
  unfold surrogatePair
  have highEq : Fin.ofNat 65536 (0xD800 +
      (0x10000 + (high.val - 0xD800) * 0x400 + (low.val - 0xDC00) - 0x10000) / 0x400) = high := by
    apply Fin.ext
    simp only [Fin.ofNat]
    omega
  have lowEq : Fin.ofNat 65536 (0xDC00 +
      (0x10000 + (high.val - 0xD800) * 0x400 + (low.val - 0xDC00) - 0x10000) % 0x400) = low := by
    apply Fin.ext
    simp only [Fin.ofNat]
    omega
  rw [highEq, lowEq]

private theorem ofUtf8_utf8Single {codeUnit : CodeUnit} (paired : isSurrogate codeUnit = false)
    (rest : List Nat) :
    ofUtf8 (bytes (utf8Single codeUnit ++ rest)) = codeUnit :: ofUtf8 (bytes rest) := by
  have bounded : codeUnit.val < 0x110000 := by omega
  rw [utf8Single, if_neg (by simp [paired]), ofUtf8_utf8Scalar bounded, utf16_codeUnit]
  rfl

theorem ofUtf8_utf8 {value : JsString} (wellFormed : isWellFormed value = true) :
    ofUtf8 ((utf8 value).map UInt8.ofNat) = value := by
  change ofUtf8 (bytes (utf8 value)) = value
  fun_induction isWellFormed value with
  | case1 => rfl
  | case2 single =>
    have read := ofUtf8_utf8Single (by simpa using wellFormed) []
    rw [List.append_nil] at read
    rw [utf8, read]
    rfl
  | case3 first second rest pair ih =>
    rw [utf8, if_pos pair]
    rw [Bool.and_eq_true] at pair
    rw [ofUtf8_utf8Scalar (surrogatePair_bounded pair.1 pair.2), utf16_surrogatePair pair.1 pair.2,
      ih wellFormed]
    rfl
  | case4 first second rest unpaired ih =>
    rw [Bool.and_eq_true, Bool.not_eq_true'] at wellFormed
    rw [utf8, if_neg unpaired, ofUtf8_utf8Single wellFormed.1, ih wellFormed.2]

private theorem utf8Scalar_byte {scalar : Nat} (bounded : scalar < 0x110000) {byte : Nat}
    (member : byte ∈ utf8Scalar scalar) : byte < 256 := by
  unfold utf8Scalar at member
  split at member
  · simp only [List.mem_cons, List.not_mem_nil, or_false] at member
    omega
  · split at member
    · simp only [List.mem_cons, List.not_mem_nil, or_false] at member
      omega
    · split at member
      · simp only [List.mem_cons, List.not_mem_nil, or_false] at member
        omega
      · simp only [List.mem_cons, List.not_mem_nil, or_false] at member
        omega

theorem utf8_byte {value : JsString} {byte : Nat} (member : byte ∈ utf8 value) : byte < 256 := by
  have single : ∀ {codeUnit : CodeUnit}, byte ∈ utf8Single codeUnit → byte < 256 := by
    intro codeUnit inSingle
    unfold utf8Single at inSingle
    refine utf8Scalar_byte ?_ inSingle
    split <;> omega
  fun_induction utf8 value with
  | case1 => cases member
  | case2 only => exact single member
  | case3 first second rest pair ih =>
    rcases List.mem_append.mp member with here | later
    · rw [Bool.and_eq_true] at pair
      exact utf8Scalar_byte (surrogatePair_bounded pair.1 pair.2) here
    · exact ih later
  | case4 first second rest unpaired ih =>
    rcases List.mem_append.mp member with here | later
    · exact single here
    · exact ih later

private def percentDecode : JsString → List Nat
  | [] => []
  | [first] => [first.val]
  | [first, second] => [first.val, second.val]
  | first :: high :: low :: rest =>
    if first = unit '%' then
      ((hexValue high).getD 0 * 16 + (hexValue low).getD 0) :: percentDecode rest
    else first.val :: percentDecode (high :: low :: rest)

private theorem percentDecode_cons {first : CodeUnit} (kept : first ≠ unit '%')
    (rest : JsString) : percentDecode (first :: rest) = first.val :: percentDecode rest := by
  match rest with
  | [] => rfl
  | [_] => rfl
  | _ :: _ :: _ => rw [percentDecode, if_neg kept]

private theorem percentByte_cases : ∀ byte < 256,
    percentByte byte = [Fin.ofNat 65536 byte] ∧ Fin.ofNat 65536 byte ≠ unit '%' ∨
      percentByte byte = [unit '%', upperHexDigit (byte / 16), upperHexDigit (byte % 16)] ∧
        hexValue (upperHexDigit (byte / 16)) = some (byte / 16) ∧
        hexValue (upperHexDigit (byte % 16)) = some (byte % 16) := by
  decide +kernel

private theorem percentDecode_percentByte {byte : Nat} (isByte : byte < 256) (rest : JsString) :
    percentDecode (percentByte byte ++ rest) = byte :: percentDecode rest := by
  rcases percentByte_cases byte isByte with ⟨text, kept⟩ | ⟨text, high, low⟩
  · rw [text, List.cons_append, List.nil_append, percentDecode_cons kept]
    congr 1
    simp only [Fin.ofNat]
    omega
  · rw [text, List.cons_append, List.cons_append, List.cons_append, List.nil_append,
      percentDecode, if_pos rfl, high, low]
    congr 1
    simp only [Option.getD_some]
    omega

private theorem percentDecode_flatMap {text : List Nat} (areBytes : ∀ byte ∈ text, byte < 256) :
    percentDecode (text.flatMap percentByte) = text := by
  induction text with
  | nil => rfl
  | cons byte rest ih =>
    rw [List.flatMap_cons, percentDecode_percentByte (areBytes byte List.mem_cons_self),
      ih fun other member => areBytes other (List.mem_cons_of_mem _ member)]

theorem encodeURIComponent_injective {left right encoded : JsString}
    (leftEncoded : encodeURIComponent left = .ok encoded)
    (rightEncoded : encodeURIComponent right = .ok encoded) : left = right := by
  have decoded : ∀ {value : JsString}, encodeURIComponent value = .ok encoded →
      ofUtf8 ((percentDecode encoded).map UInt8.ofNat) = value := by
    intro value isEncoded
    unfold encodeURIComponent at isEncoded
    split at isEncoded
    next wellFormed =>
      obtain rfl := Except.ok.inj isEncoded
      rw [percentDecode_flatMap fun byte => utf8_byte]
      exact ofUtf8_utf8 wellFormed
    next => cases isEncoded
  rw [← decoded leftEncoded, decoded rightEncoded]

end GhostArk.Js
