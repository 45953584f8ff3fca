import GhostArk.Js.Json
import GhostArk.Js.Utf8Decoding

/-!
Contract: byte order marks at the start of decoded bytes.

Owns where the two decoders differ on well-formed input: fatal decoding drops a
mark, decoding with replacement keeps it as U+FEFF, which `JSON.parse` refuses.
-/

namespace GhostArk.Js

def byteOrderMark : List Nat := [0xEF, 0xBB, 0xBF]

namespace Utf8Decoder

variable {more : List (Option Nat)}

variable {bytes : List Nat}

theorem exists_of_emitted {bits needed lower upper point : Nat}
    (emits : emitted ⟨bits, needed + 1, lower, upper⟩ bytes = some point :: more) :
    ∃ byte rest, bytes = byte :: rest ∧ lower ≤ byte ∧ byte ≤ upper := by
  cases bytes with
  | nil => cases emits
  | cons byte rest =>
    by_cases within : lower ≤ byte ∧ byte ≤ upper
    · exact ⟨byte, rest, rfl, within⟩
    · rw [emitted, step, if_neg (Nat.succ_ne_zero _), if_neg within] at emits
      cases emits

theorem last_of_emitted {bits lower upper point : Nat}
    (emits : emitted ⟨bits, 1, lower, upper⟩ bytes = some point :: more) :
    ∃ byte rest, bytes = byte :: rest ∧ lower ≤ byte ∧ byte ≤ upper ∧
      point = bits * 64 + byte % 64 := by
  rcases exists_of_emitted emits with ⟨byte, rest, rfl, within⟩
  rw [emitted_last within, List.cons.injEq, Option.some.injEq] at emits
  exact ⟨byte, rest, rfl, within.1, within.2, emits.1.symm⟩

theorem more_of_emitted {bits needed lower upper point : Nat}
    (emits : emitted ⟨bits, needed + 2, lower, upper⟩ bytes = some point :: more) :
    ∃ byte rest, bytes = byte :: rest ∧ lower ≤ byte ∧ byte ≤ upper ∧
      emitted ⟨bits * 64 + byte % 64, needed + 1, 0x80, 0xBF⟩ rest = some point :: more := by
  rcases exists_of_emitted emits with ⟨byte, rest, rfl, within⟩
  rw [emitted_more within] at emits
  exact ⟨byte, rest, rfl, within.1, within.2, emits⟩

theorem byteOrderMark_of_emitted (emits : start.emitted bytes = some 0xFEFF :: more) :
    byteOrderMark.isPrefixOf bytes = true := by
  cases bytes with
  | nil => cases emits
  | cons b0 rest =>
    rw [emitted_lead, lead] at emits
    split at emits
    next small =>
      rw [List.cons_append, List.cons.injEq, Option.some.injEq] at emits
      omega
    split at emits
    next two =>
      rcases last_of_emitted emits with ⟨b1, rest, rfl, low, high, point⟩
      omega
    split at emits
    next three =>
      rcases more_of_emitted emits with ⟨b1, rest, rfl, low, high, emits⟩
      rcases last_of_emitted emits with ⟨b2, rest, rfl, lastLow, lastHigh, point⟩
      have upper : (if b0 = 0xED then 0x9F else 0xBF) ≤ 0xBF := by split <;> omega
      have lower : 0x80 ≤ if b0 = 0xE0 then 0xA0 else 0x80 := by split <;> omega
      have isMark : b0 = 0xEF ∧ b1 = 0xBB ∧ b2 = 0xBF := by omega
      rcases isMark with ⟨rfl, rfl, rfl⟩
      rfl
    split at emits
    next four =>
      rcases more_of_emitted emits with ⟨b1, rest, rfl, low, high, emits⟩
      rcases more_of_emitted emits with ⟨b2, rest, rfl, -, -, emits⟩
      rcases last_of_emitted emits with ⟨b3, rest, rfl, -, -, point⟩
      have upper : (if b0 = 0xF4 then 0x8F else 0xBF) ≤ 0xBF := by split <;> omega
      split at low
      · omega
      · omega
    next => cases emits

end Utf8Decoder

theorem emitted_byteOrderMark (rest : List Nat) :
    Utf8Decoder.start.emitted (byteOrderMark ++ rest) =
      some 0xFEFF :: Utf8Decoder.start.emitted rest :=
  @Utf8Decoder.emitted_utf8Scalar 0xFEFF (by decide) (.inr (by decide)) rest

private theorem eq_map_some {points : List Nat} {emits : List (Option Nat)}
    (isPoints : emits.mapM id = some points) : emits = points.map some := by
  induction emits generalizing points with
  | nil =>
    obtain rfl := Option.some.inj isPoints
    rfl
  | cons first rest ih =>
    rw [List.mapM_cons] at isPoints
    simp only [id, Option.bind_eq_bind, Option.bind_eq_some_iff, Option.pure_def,
      Option.some.injEq] at isPoints
    rcases isPoints with ⟨point, rfl, others, isRest, rfl⟩
    rw [List.map_cons, ih isRest]

/-- Where fatal decoding succeeds, decoding with replacement returns the same text, except that it
keeps a byte order mark. -/
theorem decodeUtf8_of_fatal {bytes : List Nat} {text : JsString}
    (decoded : decodeUtf8Fatal bytes = some text) :
    decodeUtf8 bytes = if byteOrderMark.isPrefixOf bytes then 0xFEFF :: text else text := by
  rw [decodeUtf8Fatal, Option.map_eq_some_iff] at decoded
  rcases decoded with ⟨points, isPoints, rfl⟩
  have emits : Utf8Decoder.start.emitted bytes = points.map some := eq_map_some isPoints
  have whole : decodeUtf8 bytes = points.flatMap utf16 := by
    rw [decodeUtf8, emits, List.flatMap_map]
    rfl
  rw [whole]
  by_cases marked : byteOrderMark.isPrefixOf bytes = true
  · rcases List.isPrefixOf_iff_prefix.mp marked with ⟨rest, rfl⟩
    rw [emitted_byteOrderMark] at emits
    cases points with
    | nil => cases emits
    | cons point later =>
      rw [List.map_cons, List.cons.injEq, Option.some.injEq] at emits
      rw [if_pos marked, ← emits.1]
      rfl
  · have notMark : ¬ points.head? = some 0xFEFF := by
      intro isMark
      apply marked
      cases points with
      | nil => cases isMark
      | cons point later =>
        obtain rfl := Option.some.inj isMark
        exact Utf8Decoder.byteOrderMark_of_emitted emits
    rw [if_neg marked, if_neg notMark]

theorem parse_byteOrderMark (numbers : NumberText) (rest : JsString) :
    parse numbers (0xFEFF :: rest) = none := by
  have visible : skipWhitespace (0xFEFF :: rest) = 0xFEFF :: rest := by
    rw [skipWhitespace, List.dropWhile_cons_of_neg (by decide)]
  have token : List.takeWhile isNumberUnit (0xFEFF :: rest) = [] := by
    rw [List.takeWhile_cons_of_neg (by decide)]
  have scalar : parseScalar numbers (0xFEFF :: rest) = none := by
    rw [parseScalar, if_neg, if_neg, if_neg, token]
    · rfl
    · rw [List.isPrefixOf_iff_prefix]
      rintro ⟨more, same⟩
      cases same
    · rw [List.isPrefixOf_iff_prefix]
      rintro ⟨more, same⟩
      cases same
    · rw [List.isPrefixOf_iff_prefix]
      rintro ⟨more, same⟩
      cases same
  rw [parse, parseValue, visible]
  simp only [scalar]
  rfl

end GhostArk.Js
