import GhostArk.Js.Json
import GhostArk.Js.Uri
import GhostArk.Lib.Framing

/-!
Contract: which strings share their UTF-8 bytes.

Owns that digests are of bytes, collision freedom of SHA-256 on bytes, ASCII text
as the only text with its bytes, the injectivity of UTF-8 on well-formed text,
that records closed by semicolons are read back, and the well-formedness of what `JSON.stringify` writes.

All lone surrogates are encoded like U+FFFD. Where unchecked strings are hashed,
collision freedom on strings would therefore be false of every digest function;
on bytes it is not.
-/

namespace GhostArk.Js

namespace Sha256

variable (sha256 : Sha256)

/-- Of the strings of `inputs`, only those with the same UTF-8 bytes share a SHA-256 digest. -/
def BytesCollisionFreeOn (inputs : List JsString) : Prop :=
  ∀ left ∈ inputs, ∀ right ∈ inputs, sha256.sha256Hex left = sha256.sha256Hex right →
    utf8 left = utf8 right

/-- A digest is of the UTF-8 bytes of a string: strings with the same bytes share it. -/
def HashesBytes : Prop :=
  ∀ left right, utf8 left = utf8 right → sha256.sha256Hex left = sha256.sha256Hex right

variable {sha256}

/-- Freedom from collisions of texts is freedom of their bytes. -/
theorem CollisionFreeOn.bytes {inputs : List JsString} (clean : sha256.CollisionFreeOn inputs) :
    sha256.BytesCollisionFreeOn inputs :=
  fun left leftMember right rightMember same =>
    congrArg utf8 (clean left leftMember right rightMember same)

theorem BytesCollisionFreeOn.of_ne {first second : JsString}
    (different : sha256.sha256Hex first ≠ sha256.sha256Hex second) :
    sha256.BytesCollisionFreeOn [first, second] := by
  intro left leftMember right rightMember same
  simp only [List.mem_cons, List.not_mem_nil, or_false] at leftMember rightMember
  rcases leftMember with rfl | rfl <;> rcases rightMember with rfl | rfl
  · rfl
  · exact absurd same different
  · exact absurd same.symm different
  · rfl

theorem BytesCollisionFreeOn.of_eq {first second : JsString} (sameText : first = second) :
    sha256.BytesCollisionFreeOn [first, second] := by
  intro left leftMember right rightMember _
  rw [sameText] at leftMember
  rw [sameText] at rightMember
  simp only [List.mem_cons, List.not_mem_nil, or_false, or_self] at leftMember rightMember
  rw [leftMember, rightMember]

end Sha256

/-! ### ASCII text -/

variable {text : JsString}

theorem ascii_of_all (ascii : (text.all fun codeUnit => codeUnit.val < 0x80) = true) :
    ∀ codeUnit ∈ text, codeUnit.val < 0x80 := by
  simpa using ascii

theorem ascii_of_isHex64 {value : JsString} (shape : isHex64 value = true) :
    ∀ codeUnit ∈ value, codeUnit.val < 0x80 := by
  rw [isHex64, Bool.and_eq_true, List.all_eq_true] at shape
  intro codeUnit member
  have digit := shape.2 codeUnit member
  simp only [isLowerHex, isDigit, inRange, Bool.or_eq_true, Bool.and_eq_true,
    decide_eq_true_eq] at digit
  rcases digit with letter | digit
  · exact lt_of_le_of_lt letter.2 (by decide)
  · exact lt_of_le_of_lt digit.2 (by decide)

variable {codeUnit : CodeUnit}

theorem isSurrogate_ascii (ascii : codeUnit.val < 0x80) : isSurrogate codeUnit = false := by
  simp only [isSurrogate, isHighSurrogate, isLowSurrogate, Bool.or_eq_false_iff,
    Bool.and_eq_false_iff, decide_eq_false_iff_not]
  omega

private theorem isHighSurrogate_ascii (ascii : codeUnit.val < 0x80) :
    isHighSurrogate codeUnit = false :=
  (Bool.or_eq_false_iff.mp (isSurrogate_ascii ascii)).1

private theorem utf8Single_ascii (ascii : codeUnit.val < 0x80) :
    utf8Single codeUnit = [codeUnit.val] := by
  rw [utf8Single, isSurrogate_ascii ascii, if_neg (by decide), utf8Scalar, if_pos ascii]

theorem utf8_cons_ascii (ascii : codeUnit.val < 0x80) (rest : JsString) :
    utf8 (codeUnit :: rest) = codeUnit.val :: utf8 rest := by
  cases rest with
  | nil =>
    rw [utf8]
    exact utf8Single_ascii ascii
  | cons second rest =>
    rw [utf8, isHighSurrogate_ascii ascii, Bool.false_and, if_neg (by decide),
      utf8Single_ascii ascii]
    rfl

/-- An ASCII unit ends the bytes before it, whatever they end with. -/
theorem utf8_append_ascii (ascii : codeUnit.val < 0x80) (text rest : JsString) :
    utf8 (text ++ codeUnit :: rest) = utf8 text ++ codeUnit.val :: utf8 rest := by
  fun_induction utf8 text with
  | case1 => exact utf8_cons_ascii ascii rest
  | case2 single =>
    have notLow := (Bool.or_eq_false_iff.mp (isSurrogate_ascii ascii)).2
    rw [List.singleton_append, utf8, notLow, Bool.and_false, if_neg (by decide),
      utf8_cons_ascii ascii]
  | case3 first second rest pair ih =>
    rw [List.cons_append, List.cons_append, utf8, if_pos pair, ih, List.append_assoc]
  | case4 first second rest apart ih =>
    rw [List.cons_append, List.cons_append, utf8, if_neg apart, ← List.cons_append, ih,
      List.append_assoc]

theorem utf8_ascii (ascii : ∀ codeUnit ∈ text, codeUnit.val < 0x80) :
    utf8 text = text.map Fin.val := by
  induction text with
  | nil => rfl
  | cons first rest ih =>
    rw [List.forall_mem_cons] at ascii
    rw [utf8_cons_ascii ascii.1, ih ascii.2, List.map_cons]

private theorem ascii_of_utf8Scalar {scalar : Nat}
    (ascii : ∀ byte ∈ utf8Scalar scalar, byte < 0x80) : scalar < 0x80 := by
  unfold utf8Scalar at ascii
  split at ascii
  next small => exact small
  next =>
    -- Every longer form starts with a byte from `0xC0` on.
    split at ascii
    next =>
      have lead := ascii _ List.mem_cons_self
      omega
    next =>
      split at ascii
      next =>
        have lead := ascii _ List.mem_cons_self
        omega
      next =>
        have lead := ascii _ List.mem_cons_self
        omega

private theorem ascii_of_utf8Single (ascii : ∀ byte ∈ utf8Single codeUnit, byte < 0x80) :
    codeUnit.val < 0x80 := by
  have small := ascii_of_utf8Scalar ascii
  split at small
  · omega
  · exact small

theorem ascii_of_utf8 (ascii : ∀ byte ∈ utf8 text, byte < 0x80) :
    ∀ codeUnit ∈ text, codeUnit.val < 0x80 := by
  fun_induction utf8 text with
  | case1 => simp
  | case2 single =>
    intro codeUnit member
    rw [List.mem_singleton.mp member]
    exact ascii_of_utf8Single ascii
  | case3 first second rest pair _ =>
    have small := ascii_of_utf8Scalar fun byte member =>
      ascii byte (List.mem_append_left _ member)
    unfold surrogatePair at small
    omega
  | case4 first second rest _ ih =>
    rw [List.forall_mem_append] at ascii
    rw [List.forall_mem_cons]
    exact ⟨ascii_of_utf8Single ascii.1, ih ascii.2⟩

theorem eq_of_utf8_ascii {text other : JsString} (ascii : ∀ codeUnit ∈ text, codeUnit.val < 0x80)
    (same : utf8 other = utf8 text) : other = text := by
  rw [utf8_ascii ascii] at same
  have otherAscii : ∀ codeUnit ∈ other, codeUnit.val < 0x80 := by
    apply ascii_of_utf8
    intro byte member
    rw [same] at member
    rcases List.mem_map.mp member with ⟨codeUnit, inText, rfl⟩
    exact ascii codeUnit inText
  rw [utf8_ascii otherAscii] at same
  exact List.map_injective_iff.mpr Fin.val_injective same

theorem utf8_injective {left right : JsString} (leftFormed : isWellFormed left = true)
    (rightFormed : isWellFormed right = true) (same : utf8 left = utf8 right) : left = right := by
  rw [← ofUtf8_utf8 leftFormed, same, ofUtf8_utf8 rightFormed]

theorem isWellFormed_cons (single : isSurrogate codeUnit = false) (rest : JsString) :
    isWellFormed (codeUnit :: rest) = isWellFormed rest := by
  cases rest with
  | nil => simp [isWellFormed, single]
  | cons second rest =>
    have notHigh := (Bool.or_eq_false_iff.mp single).1
    rw [isWellFormed, notHigh, Bool.false_and, if_neg (by decide), single]
    rfl

theorem isWellFormed_append {left right : JsString} (leftFormed : isWellFormed left = true)
    (rightFormed : isWellFormed right = true) : isWellFormed (left ++ right) = true := by
  fun_induction isWellFormed left with
  | case1 => exact rightFormed
  | case2 single =>
    rw [List.singleton_append, isWellFormed_cons (by simpa using leftFormed)]
    exact rightFormed
  | case3 first second rest pair ih =>
    rw [List.cons_append, List.cons_append, isWellFormed, if_pos pair]
    exact ih leftFormed
  | case4 first second rest _ ih =>
    rw [Bool.and_eq_true, Bool.not_eq_true'] at leftFormed
    rw [List.cons_append, isWellFormed_cons leftFormed.1]
    exact ih leftFormed.2

/-- Records whose texts are each closed by a semicolon are read back from the bytes, where the texts
of those that may occur are well-formed, free of semicolons and different. -/
theorem records_inj {α : Type*} {write : α → JsString} {reads : α → Prop}
    (formed : ∀ {record}, reads record → isWellFormed (write record) = true)
    (free : ∀ {record}, reads record → unit ';' ∉ write record)
    (determined : ∀ {record other}, reads record → reads other → write record = write other →
      record = other) {records others : List α} (readable : ∀ record ∈ records, reads record)
    (otherReadable : ∀ record ∈ others, reads record)
    (same : utf8 ((records.map write).flatMap fun text => text ++ [unit ';']) =
      utf8 ((others.map write).flatMap fun text => text ++ [unit ';'])) : records = others := by
  have wellFormed {list : List α} (all : ∀ record ∈ list, reads record) :
      isWellFormed ((list.map write).flatMap fun text => text ++ [unit ';']) = true := by
    induction list with
    | nil => rfl
    | cons record list ih =>
      rw [List.forall_mem_cons] at all
      rw [List.map_cons, List.flatMap_cons]
      exact isWellFormed_append (isWellFormed_append (formed all.1) (by decide)) (ih all.2)
  have noSemicolon {list : List α} (all : ∀ record ∈ list, reads record) :
      ∀ text ∈ list.map write, unit ';' ∉ text :=
    List.forall_mem_map.mpr fun record member => free (all record member)
  have sameText := utf8_injective (wellFormed readable) (wellFormed otherReadable) same
  have sameFields := Lib.closedFields_inj (noSemicolon readable) (noSemicolon otherReadable) sameText
  exact Lib.map_inj_of_forall determined readable otherReadable sameFields

theorem isWellFormed_of_units (single : ∀ codeUnit ∈ text, isSurrogate codeUnit = false) :
    isWellFormed text = true := by
  induction text with
  | nil => rfl
  | cons first rest ih =>
    rw [List.forall_mem_cons] at single
    rw [isWellFormed_cons single.1]
    exact ih single.2

theorem isWellFormed_of_isHex64 {value : JsString} (shape : isHex64 value = true) :
    isWellFormed value = true :=
  isWellFormed_of_units fun _ member => isSurrogate_ascii (ascii_of_isHex64 shape _ member)

/-- Well-formed texts with the same bytes are the same text. -/
theorem Sha256.BytesCollisionFreeOn.collisionFreeOn {sha256 : Sha256} {inputs : List JsString}
    (clean : sha256.BytesCollisionFreeOn inputs)
    (formed : ∀ text ∈ inputs, isWellFormed text = true) : sha256.CollisionFreeOn inputs :=
  fun left leftMember right rightMember same =>
    utf8_injective (formed left leftMember) (formed right rightMember)
      (clean left leftMember right rightMember same)

theorem isWellFormed_join {separator : JsString} (separates : isWellFormed separator = true) :
    ∀ {pieces : List JsString}, (∀ piece ∈ pieces, isWellFormed piece = true) →
      isWellFormed (join separator pieces) = true
  | [], _ => rfl
  | [piece], formed => formed piece List.mem_cons_self
  | piece :: second :: rest, formed => by
    rw [List.forall_mem_cons] at formed
    rw [join]
    · exact isWellFormed_append (isWellFormed_append formed.1 separates)
        (isWellFormed_join separates formed.2)
    · simp

private theorem isSurrogate_hexDigit (nibble : Fin 16) : isSurrogate (hexDigit nibble) = false := by
  revert nibble
  decide +kernel

private theorem isWellFormed_unicodeEscape (codeUnit : CodeUnit) :
    isWellFormed (unicodeEscape codeUnit) = true := by
  unfold unicodeEscape
  refine isWellFormed_append (by decide) (isWellFormed_of_units ?_)
  intro digit member
  rcases List.mem_map.mp member with ⟨weight, -, rfl⟩
  exact isSurrogate_hexDigit _

private theorem isWellFormed_escapeUnit (codeUnit : CodeUnit) :
    isWellFormed (escapeUnit codeUnit) = true := by
  unfold escapeUnit
  iterate 7
    split
    next => decide
  split
  next => exact isWellFormed_unicodeEscape codeUnit
  next plain =>
    rw [not_or, Bool.not_eq_true] at plain
    rw [isWellFormed_cons plain.2]
    rfl

private theorem isWellFormed_quoteBody (value : JsString) :
    isWellFormed (quoteBody value) = true := by
  fun_induction quoteBody value with
  | case1 => rfl
  | case2 single => exact isWellFormed_escapeUnit single
  | case3 first second rest pair ih =>
    rw [isWellFormed, if_pos pair]
    exact ih
  | case4 first second rest _ ih =>
    exact isWellFormed_append (isWellFormed_escapeUnit first) ih

theorem isWellFormed_quote (value : JsString) : isWellFormed (quote value) = true :=
  isWellFormed_append (isWellFormed_append (by decide) (isWellFormed_quoteBody value)) (by decide)

section Render

variable (numbers : NumberText)

private theorem isWellFormed_number (value : JsNumber) :
    isWellFormed (numbers.json value) = true := by
  cases value with
  | nan => rfl
  | positiveInfinity => rfl
  | negativeInfinity => rfl
  | finite value =>
    apply isWellFormed_of_units
    intro codeUnit member
    have number := numbers.toText_units value codeUnit member
    simp only [isNumberUnit, isDigit, inRange, Bool.or_eq_true, Bool.and_eq_true,
      decide_eq_true_eq, beq_iff_eq] at number
    apply isSurrogate_ascii
    rcases number with ((((digit | rfl) | rfl) | rfl) | rfl) | rfl
    · exact lt_of_le_of_lt digit.2 (by decide)
    all_goals decide

mutual

theorem isWellFormed_render : ∀ value : JsValue, isWellFormed (render numbers value) = true
  | .bool true => (by decide : isWellFormed (js "true") = true)
  | .bool false => (by decide : isWellFormed (js "false") = true)
  | .number value => isWellFormed_number numbers value
  | .string value => isWellFormed_quote value
  | .array items => by
    rw [render, jsonArray]
    exact isWellFormed_append (isWellFormed_append (by decide)
      (isWellFormed_join (by decide) (isWellFormed_renderItems items))) (by decide)
  | .object entries => by
    rw [render, jsonObject]
    refine isWellFormed_append (isWellFormed_append (by decide)
      (isWellFormed_join (by decide) ?_)) (by decide)
    intro piece member
    rcases List.mem_map.mp member with ⟨entry, inEntries, rfl⟩
    exact isWellFormed_append (isWellFormed_append (isWellFormed_quote entry.1) (by decide))
      (isWellFormed_renderEntries entries entry inEntries)
  | .undefined => (by decide : isWellFormed (js "null") = true)
  | .null => (by decide : isWellFormed (js "null") = true)
  | .hole => (by decide : isWellFormed (js "null") = true)
  | .host _ => (by decide : isWellFormed (js "null") = true)

theorem isWellFormed_renderItems : ∀ items : List JsValue,
    ∀ text ∈ renderItems numbers items, isWellFormed text = true
  | [] => by simp [renderItems]
  | item :: rest => by
    rw [renderItems, List.forall_mem_cons]
    exact ⟨isWellFormed_render item, isWellFormed_renderItems rest⟩

theorem isWellFormed_renderEntries : ∀ entries : List (JsString × JsValue),
    ∀ entry ∈ renderEntries numbers entries, isWellFormed entry.2 = true
  | [] => by simp [renderEntries]
  | (key, value) :: rest => by
    rw [renderEntries, List.forall_mem_cons]
    exact ⟨isWellFormed_render value, isWellFormed_renderEntries rest⟩

end

end Render

end GhostArk.Js
