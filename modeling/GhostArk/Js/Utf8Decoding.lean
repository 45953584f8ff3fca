import GhostArk.Js.Uri

/-!
Contract: the UTF-8 decoder behind `buffer.toString("utf8")` and `TextDecoder`.

Owns the decoder as a machine that takes one byte at a time, decoding with
replacement, fatal decoding, and their round trips: the bytes of well-formed text
decode to the text.

The machine emits a code point, or an error for every maximal prefix of a sequence
that cannot be continued. A byte that ends such a prefix is read again.
-/

namespace GhostArk.Js

/-- The bits read of a sequence, the bytes it still needs, and the bounds of the next one. -/
structure Utf8Decoder where
  codePoint : Nat
  bytesNeeded : Nat
  lowerBoundary : Nat
  upperBoundary : Nat
deriving DecidableEq, Repr

namespace Utf8Decoder

/-- Between sequences. -/
def start : Utf8Decoder := ⟨0, 0, 0x80, 0xBF⟩

/-- The first byte of a sequence. Errors are `none`. -/
def lead (byte : Nat) : List (Option Nat) × Utf8Decoder :=
  if byte < 0x80 then ([some byte], start)
  else if 0xC2 ≤ byte ∧ byte ≤ 0xDF then ([], ⟨byte % 32, 1, 0x80, 0xBF⟩)
  else if 0xE0 ≤ byte ∧ byte ≤ 0xEF then
    ([], ⟨byte % 16, 2, if byte = 0xE0 then 0xA0 else 0x80, if byte = 0xED then 0x9F else 0xBF⟩)
  else if 0xF0 ≤ byte ∧ byte ≤ 0xF4 then
    ([], ⟨byte % 8, 3, if byte = 0xF0 then 0x90 else 0x80, if byte = 0xF4 then 0x8F else 0xBF⟩)
  else ([none], start)

def step (decoder : Utf8Decoder) (byte : Nat) : List (Option Nat) × Utf8Decoder :=
  if decoder.bytesNeeded = 0 then lead byte
  else if decoder.lowerBoundary ≤ byte ∧ byte ≤ decoder.upperBoundary then
    let codePoint := decoder.codePoint * 64 + byte % 64
    if decoder.bytesNeeded = 1 then ([some codePoint], start)
    else ([], ⟨codePoint, decoder.bytesNeeded - 1, 0x80, 0xBF⟩)
  else (none :: (lead byte).1, (lead byte).2)

/-- What the machine emits up to the end of the input. -/
def emitted (decoder : Utf8Decoder) : List Nat → List (Option Nat)
  | [] => if decoder.bytesNeeded = 0 then [] else [none]
  | byte :: rest => (decoder.step byte).1 ++ (decoder.step byte).2.emitted rest

end Utf8Decoder

/-- `buffer.toString("utf8")`. -/
def decodeUtf8 (bytes : List Nat) : JsString :=
  (Utf8Decoder.start.emitted bytes).flatMap fun codePoint => utf16 (codePoint.getD 0xFFFD)

/-- The code points of well-formed UTF-8, and `none` where the machine finds an error. -/
def codePoints (bytes : List Nat) : Option (List Nat) :=
  (Utf8Decoder.start.emitted bytes).mapM id

/-- `new TextDecoder("utf-8", fatal: true).decode(bytes)`: a byte order mark at the start is
dropped, and `none` stands for a `TypeError`. -/
def decodeUtf8Fatal (bytes : List Nat) : Option JsString :=
  (codePoints bytes).map fun points =>
    (if points.head? = some 0xFEFF then points.tail else points).flatMap utf16

example : decodeUtf8 [0x61, 0xE2, 0x82, 0xC3, 0xA9, 0xED, 0xA0] =
    [0x61, 0xFFFD, 0xE9, 0xFFFD, 0xFFFD] := by decide

namespace Utf8Decoder

theorem emitted_lead (byte : Nat) (rest : List Nat) :
    start.emitted (byte :: rest) = (lead byte).1 ++ (lead byte).2.emitted rest := rfl

theorem emitted_last {bits lower upper byte : Nat} (within : lower ≤ byte ∧ byte ≤ upper)
    (rest : List Nat) :
    emitted ⟨bits, 1, lower, upper⟩ (byte :: rest) =
      some (bits * 64 + byte % 64) :: start.emitted rest := by
  rw [emitted, step, if_neg Nat.one_ne_zero, if_pos within, if_pos rfl, List.singleton_append]

theorem emitted_more {bits needed lower upper byte : Nat}
    (within : lower ≤ byte ∧ byte ≤ upper) (rest : List Nat) :
    emitted ⟨bits, needed + 2, lower, upper⟩ (byte :: rest) =
      emitted ⟨bits * 64 + byte % 64, needed + 1, 0x80, 0xBF⟩ rest := by
  have several : needed + 2 ≠ 1 := by omega
  rw [emitted, step, if_neg (Nat.succ_ne_zero _), if_pos within, if_neg several, List.nil_append]
  rfl

theorem lead_two {bits : Nat} (large : 2 ≤ bits) (small : bits < 32) :
    lead (0xC0 + bits) = ([], ⟨bits, 1, 0x80, 0xBF⟩) := by
  have low : (0xC0 + bits) % 32 = bits := by omega
  rw [lead, if_neg (by omega), if_pos (by omega), low]

theorem lead_three {bits : Nat} (small : bits < 16) :
    lead (0xE0 + bits) =
      ([], ⟨bits, 2, if bits = 0 then 0xA0 else 0x80, if bits = 13 then 0x9F else 0xBF⟩) := by
  have low : (0xE0 + bits) % 16 = bits := by omega
  have overlong : 0xE0 + bits = 0xE0 ↔ bits = 0 := by omega
  have surrogates : 0xE0 + bits = 0xED ↔ bits = 13 := by omega
  rw [lead, if_neg (by omega), if_neg (by omega), if_pos (by omega), low]
  simp only [overlong, surrogates]

theorem lead_four {bits : Nat} (small : bits < 5) :
    lead (0xF0 + bits) =
      ([], ⟨bits, 3, if bits = 0 then 0x90 else 0x80, if bits = 4 then 0x8F else 0xBF⟩) := by
  have low : (0xF0 + bits) % 8 = bits := by omega
  have overlong : 0xF0 + bits = 0xF0 ↔ bits = 0 := by omega
  have beyond : 0xF0 + bits = 0xF4 ↔ bits = 4 := by omega
  rw [lead, if_neg (by omega), if_neg (by omega), if_neg (by omega), if_pos (by omega), low]
  simp only [overlong, beyond]

theorem emitted_utf8Scalar {scalar : Nat} (bounded : scalar < 0x110000)
    (notSurrogate : scalar < 0xD800 ∨ 0xDFFF < scalar) (rest : List Nat) :
    start.emitted (utf8Scalar scalar ++ rest) = some scalar :: start.emitted rest := by
  unfold utf8Scalar
  split
  next oneByte =>
    rw [List.singleton_append, emitted_lead, lead, if_pos oneByte, List.singleton_append]
  next =>
    split
    next twoBytes =>
      rw [List.cons_append, List.singleton_append, emitted_lead,
        lead_two (by omega) (by omega), List.nil_append, emitted_last (by omega)]
      congr 2
      omega
    next =>
      split
      next threeBytes =>
        have second : (if scalar / 0x1000 = 0 then 0xA0 else 0x80) ≤ 0x80 + scalar / 0x40 % 0x40 ∧
            0x80 + scalar / 0x40 % 0x40 ≤ if scalar / 0x1000 = 13 then 0x9F else 0xBF := by
          split <;> split <;> omega
        rw [List.cons_append, List.cons_append, List.singleton_append, emitted_lead,
          lead_three (by omega), List.nil_append, emitted_more second, emitted_last (by omega)]
        congr 2
        omega
      next fourBytes =>
        have second : (if scalar / 0x40000 = 0 then 0x90 else 0x80) ≤
            0x80 + scalar / 0x1000 % 0x40 ∧
            0x80 + scalar / 0x1000 % 0x40 ≤ if scalar / 0x40000 = 4 then 0x8F else 0xBF := by
          split <;> split <;> omega
        rw [List.cons_append, List.cons_append, List.cons_append, List.singleton_append,
          emitted_lead, lead_four (by omega), List.nil_append, emitted_more second,
          emitted_more (by omega), emitted_last (by omega)]
        congr 2
        omega

end Utf8Decoder

/-- The scalar values of well-formed text, whose bytes are those of the text. -/
def scalars : JsString → List Nat
  | [] => []
  | [single] => [single.val]
  | first :: second :: rest =>
    if isHighSurrogate first && isLowSurrogate second then
      surrogatePair first second :: scalars rest
    else first.val :: scalars (second :: rest)

private theorem notSurrogate_val {codeUnit : CodeUnit} (single : isSurrogate codeUnit = false) :
    codeUnit.val < 0xD800 ∨ 0xDFFF < codeUnit.val := by
  simp only [isSurrogate, isHighSurrogate, isLowSurrogate, Bool.or_eq_false_iff,
    Bool.and_eq_false_iff, decide_eq_false_iff_not] at single
  omega

variable {text : JsString}

theorem emitted_utf8 (wellFormed : isWellFormed text = true) (rest : List Nat) :
    Utf8Decoder.start.emitted (utf8 text ++ rest) =
      (scalars text).map some ++ Utf8Decoder.start.emitted rest := by
  have single : ∀ {codeUnit : CodeUnit} (later : List Nat), isSurrogate codeUnit = false →
      Utf8Decoder.start.emitted (utf8Single codeUnit ++ later) =
        some codeUnit.val :: Utf8Decoder.start.emitted later := by
    intro codeUnit later unpaired
    rw [utf8Single, unpaired, if_neg (by decide)]
    exact Utf8Decoder.emitted_utf8Scalar (by omega) (notSurrogate_val unpaired) later
  fun_induction isWellFormed text with
  | case1 => rfl
  | case2 only =>
    rw [utf8, single rest (by simpa using wellFormed)]
    rfl
  | case3 first second others pair ih =>
    have areSurrogates := Bool.and_eq_true_iff.mp pair
    have bounded := surrogatePair_bounded areSurrogates.1 areSurrogates.2
    have beyond : 0xDFFF < surrogatePair first second := by
      unfold surrogatePair
      omega
    rw [utf8, if_pos pair, scalars, if_pos pair, List.append_assoc,
      Utf8Decoder.emitted_utf8Scalar bounded (.inr beyond), ih wellFormed]
    rfl
  | case4 first second others unpaired ih =>
    rw [Bool.and_eq_true, Bool.not_eq_true'] at wellFormed
    rw [utf8, if_neg unpaired, scalars, if_neg unpaired, List.append_assoc,
      single _ wellFormed.1, ih wellFormed.2]
    rfl

theorem flatMap_utf16_scalars (text : JsString) : (scalars text).flatMap utf16 = text := by
  fun_induction scalars text with
  | case1 => rfl
  | case2 single =>
    rw [List.flatMap_singleton]
    exact utf16_codeUnit single
  | case3 first second rest pair ih =>
    rw [Bool.and_eq_true] at pair
    rw [List.flatMap_cons, utf16_surrogatePair pair.1 pair.2, ih]
    rfl
  | case4 first second rest _ ih =>
    rw [List.flatMap_cons, utf16_codeUnit, ih]
    rfl

theorem decodeUtf8_utf8 (wellFormed : isWellFormed text = true) :
    decodeUtf8 (utf8 text) = text := by
  have emitted := emitted_utf8 wellFormed []
  rw [List.append_nil] at emitted
  rw [decodeUtf8, emitted]
  change ((scalars text).map some ++ []).flatMap _ = text
  rw [List.append_nil, List.flatMap_map]
  exact flatMap_utf16_scalars text

theorem codePoints_utf8 (wellFormed : isWellFormed text = true) :
    codePoints (utf8 text) = some (scalars text) := by
  have emitted := emitted_utf8 wellFormed []
  rw [List.append_nil] at emitted
  rw [codePoints, emitted]
  change ((scalars text).map some ++ []).mapM id = some (scalars text)
  rw [List.append_nil, List.mapM_map]
  exact (List.mapM_pure (f := id)).trans (congrArg some (List.map_id _))

end GhostArk.Js
