import GhostArk.Js.JsonRoundTrip
import GhostArk.Js.NumberLiteral

/-!
Contract: `JSON.parse` accepts the grammar of RFC 8259.

Owns how texts of trees begin and end, the reading of strings, numbers, arrays
and objects at any depth, and the value that `JSON.parse` returns: that of the
tree, where the last member of a key wins. Without repeated keys that is the
value with every member kept.
-/

namespace GhostArk.Js.JsonGrammar

/-! ### Beginnings and ends -/

variable {character : Char}

theorem asText_char (basic : character.toNat < 0x10000) (rest : List Nat) :
    asText (character.toNat :: rest) = unit character :: asText rest :=
  asText_cons basic rest

theorem length_le_asText (points : List Nat) : points.length ≤ (asText points).length := by
  induction points with
  | nil => exact le_rfl
  | cons point rest ih =>
    have nonempty : 1 ≤ (utf16 point).length := by
      unfold utf16
      split <;> simp
    rw [asText, List.flatMap_cons, List.length_append, List.length_cons, ← asText]
    omega

variable {codeUnit : CodeUnit}

theorem isWhitespace_of_mem {blank : Blank} (member : codeUnit ∈ asText blank.val) :
    isWhitespace codeUnit = true := by
  have basic : ∀ point ∈ [0x20, 0x09, 0x0A, 0x0D], utf16 point = [Fin.ofNat 65536 point] ∧
      isWhitespace (Fin.ofNat 65536 point) = true := by
    decide
  rcases List.mem_flatMap.mp member with ⟨point, inBlank, isUnit⟩
  have facts := basic point (blank.property point inBlank)
  rw [facts.1, List.mem_singleton] at isUnit
  rw [isUnit]
  exact facts.2

theorem skipWhitespace_blank (blank : Blank) (rest : List Nat) :
    skipWhitespace (asText (blank.val ++ rest)) = skipWhitespace (asText rest) := by
  rw [asText_append]
  exact List.dropWhile_append_of_pos fun codeUnit => isWhitespace_of_mem

theorem skipWhitespace_blank_char (blank : Blank) (basic : character.toNat < 0x10000)
    (visible : isWhitespace (unit character) = false) (rest : List Nat) :
    skipWhitespace (asText (blank.val ++ character.toNat :: rest)) =
      unit character :: asText rest := by
  rw [skipWhitespace_blank, asText_char basic, skipWhitespace_cons visible]

theorem isWhitespace_cases (blank : isWhitespace codeUnit = true) :
    codeUnit = unit ' ' ∨ codeUnit = unit '\t' ∨ codeUnit = unit '\n' ∨ codeUnit = unit '\r' := by
  simp only [isWhitespace, Bool.or_eq_true, beq_iff_eq] at blank
  rcases blank with ((isSpace | isTab) | isLineFeed) | isReturn
  · exact Or.inl (Fin.ext isSpace)
  · exact Or.inr (Or.inl (Fin.ext isTab))
  · exact Or.inr (Or.inr (Or.inl (Fin.ext isLineFeed)))
  · exact Or.inr (Or.inr (Or.inr (Fin.ext isReturn)))

private theorem notNumber_of_isWhitespace (blank : isWhitespace codeUnit = true) :
    isNumberUnit codeUnit = false := by
  rcases isWhitespace_cases blank with rfl | rfl | rfl | rfl
  all_goals decide

theorem numberEnd_blank (blank : Blank) {rest : List Nat} (ends : NumberEnd (asText rest)) :
    NumberEnd (asText (blank.val ++ rest)) := by
  rw [asText_append]
  cases isText : asText blank.val with
  | nil => exact ends
  | cons first others =>
    have isBlank : isWhitespace first = true :=
      isWhitespace_of_mem (by rw [isText]; exact List.mem_cons_self)
    exact numberEnd_cons (notNumber_of_isWhitespace isBlank) _

theorem numberEnd_blank_char (blank : Blank) (basic : character.toNat < 0x10000)
    (notNumber : isNumberUnit (unit character) = false) (rest : List Nat) :
    NumberEnd (asText (blank.val ++ character.toNat :: rest)) := by
  refine numberEnd_blank blank ?_
  rw [asText_char basic]
  exact numberEnd_cons notNumber _

theorem startsValue_points (value : JsonValue) :
    ∃ first rest, asText value.points = first :: rest ∧ startsValue first = true := by
  cases value with
  | null => exact ⟨unit 'n', asText (keywordPoints "ull"), rfl, by decide⟩
  | bool flag =>
    cases flag with
    | true => exact ⟨unit 't', asText (keywordPoints "rue"), rfl, by decide⟩
    | false => exact ⟨unit 'f', asText (keywordPoints "alse"), rfl, by decide⟩
  | number literal =>
    rcases literal.head_text with ⟨first, rest, isText, -⟩
    refine ⟨first, rest, isText, ?_⟩
    have numeric : isNumberUnit first = true :=
      literal.isNumberUnit_text (by rw [isText]; exact List.mem_cons_self)
    rw [startsValue, numeric]
    rfl
  | string chars => exact ⟨unit '"', _, asText_char (by decide) _, by decide⟩
  | emptyArray blank => exact ⟨unit '[', _, asText_char (by decide) _, by decide⟩
  | array items => exact ⟨unit '[', _, asText_char (by decide) _, by decide⟩
  | emptyObject blank => exact ⟨unit '\x7b', _, asText_char (by decide) _, by decide⟩
  | object members => exact ⟨unit '\x7b', _, asText_char (by decide) _, by decide⟩

theorem length_points_pos (value : JsonValue) : 1 ≤ value.points.length := by
  rcases startsValue_points value with ⟨first, rest, isText, -⟩
  by_contra empty
  rw [List.length_eq_zero_iff.mp (by omega : value.points.length = 0)] at isText
  cases isText

theorem skipWhitespace_value (blank : Blank) (value : JsonValue) (rest : List Nat) :
    ∃ first tail, skipWhitespace (asText (blank.val ++ (value.points ++ rest))) = first :: tail ∧
      first :: tail = asText (value.points ++ rest) ∧ startsValue first = true := by
  rcases startsValue_points value with ⟨first, tail, isText, starts⟩
  have visible := (startsValue_facts starts).1
  refine ⟨first, tail ++ asText rest, ?_, ?_, starts⟩
  · rw [skipWhitespace_blank, asText_append, isText, List.cons_append, skipWhitespace_cons visible]
  · rw [asText_append, isText, List.cons_append]

/-! ### Strings -/

theorem utf16_unescaped {point : Nat} (allowed : isUnescaped point = true)
    (member : codeUnit ∈ utf16 point) :
    codeUnit ≠ unit '"' ∧ codeUnit ≠ unit '\\' ∧ ¬ codeUnit.val < 0x20 := by
  have quote : (unit '"').val = 0x22 ∧ '"'.toNat = 0x22 := by decide
  have backslash : (unit '\\').val = 0x5C ∧ '\\'.toNat = 0x5C := by decide
  simp only [isUnescaped, quote.2, backslash.2, Bool.and_eq_true, decide_eq_true_eq,
    bne_iff_ne] at allowed
  rw [ne_eq, ne_eq, Fin.ext_iff, Fin.ext_iff, quote.1, backslash.1]
  unfold utf16 at member
  split at member
  next basic =>
    rw [List.mem_singleton] at member
    rw [member, Fin.val_ofNat]
    omega
  next =>
    rw [List.mem_cons, List.mem_singleton] at member
    rcases member with rfl | rfl
    · rw [Fin.val_ofNat]
      omega
    · rw [Fin.val_ofNat]
      omega

private theorem parseStringBody_plain {codeUnits : JsString}
    (plain : ∀ codeUnit ∈ codeUnits,
      codeUnit ≠ unit '"' ∧ codeUnit ≠ unit '\\' ∧ ¬ codeUnit.val < 0x20) (rest : JsString) :
    parseStringBody (codeUnits ++ rest) =
      (parseStringBody rest).map fun parsed => (codeUnits ++ parsed.1, parsed.2) := by
  induction codeUnits with
  | nil => exact Option.map_id'.symm
  | cons first others ih =>
    have isFirst := plain first List.mem_cons_self
    rw [List.cons_append, parseStringBody_raw isFirst.1 isFirst.2.1 isFirst.2.2,
      ih fun other member => plain other (List.mem_cons_of_mem _ member),
      Option.map_map]
    rfl

theorem simpleEscape_letter (escaped : SimpleEscape) :
    escaped.letter < 0x10000 ∧ Fin.ofNat 65536 escaped.letter ≠ unit 'u' ∧
      simpleEscape (Fin.ofNat 65536 escaped.letter) = some escaped.value := by
  cases escaped <;> decide

theorem hexValue_point (digit : HexDigit) :
    digit.point < 0x10000 ∧ hexValue (Fin.ofNat 65536 digit.point) = some digit.value.val := by
  rcases digit with ⟨value, upper⟩
  revert value upper
  decide

theorem hexUnit_points (d3 d2 d1 d0 : HexDigit) :
    hexUnit (Fin.ofNat 65536 d3.point) (Fin.ofNat 65536 d2.point) (Fin.ofNat 65536 d1.point)
      (Fin.ofNat 65536 d0.point) = some (CharToken.escapedUnit d3 d2 d1 d0) := by
  unfold hexUnit
  rw [(hexValue_point d3).2, (hexValue_point d2).2, (hexValue_point d1).2, (hexValue_point d0).2]
  rfl

theorem asText_unicode (d3 d2 d1 d0 : HexDigit) (rest : List Nat) :
    asText ((CharToken.unicode d3 d2 d1 d0).points ++ rest) =
      unit '\\' :: unit 'u' :: Fin.ofNat 65536 d3.point :: Fin.ofNat 65536 d2.point ::
        Fin.ofNat 65536 d1.point :: Fin.ofNat 65536 d0.point :: asText rest := by
  unfold CharToken.points
  simp only [List.cons_append, List.nil_append]
  rw [asText_char (by decide), asText_char (by decide), asText_cons (hexValue_point d3).1,
    asText_cons (hexValue_point d2).1, asText_cons (hexValue_point d1).1,
    asText_cons (hexValue_point d0).1]

theorem asText_escape (escaped : SimpleEscape) (rest : List Nat) :
    asText ((CharToken.escape escaped).points ++ rest) =
      unit '\\' :: Fin.ofNat 65536 escaped.letter :: asText rest := by
  unfold CharToken.points
  simp only [List.cons_append, List.nil_append]
  rw [asText_char (by decide), asText_cons (simpleEscape_letter escaped).1]

theorem asText_unescaped {point : Nat} (allowed : isUnescaped point = true) (rest : List Nat) :
    asText ((CharToken.unescaped point allowed).points ++ rest) = utf16 point ++ asText rest := by
  unfold CharToken.points
  rw [List.cons_append, List.nil_append, asText, List.flatMap_cons]
  rfl

private theorem parseStringBody_token (token : CharToken) (rest : List Nat) :
    parseStringBody (asText (token.points ++ rest)) =
      (parseStringBody (asText rest)).map fun parsed => (token.value ++ parsed.1, parsed.2) := by
  have notQuote : unit '\\' ≠ unit '"' := by decide
  cases token with
  | unescaped point allowed =>
    rw [asText_unescaped allowed]
    exact parseStringBody_plain (fun codeUnit => utf16_unescaped allowed) _
  | escape escaped =>
    have facts := simpleEscape_letter escaped
    rw [asText_escape, parseStringBody_simpleEscape facts.2.1 facts.2.2]
    rfl
  | unicode d3 d2 d1 d0 =>
    rw [asText_unicode, parseStringBody.eq_def]
    dsimp only
    rw [if_neg notQuote, if_pos rfl, if_pos rfl, hexUnit_points]
    rfl

theorem asText_charPoints_nil (rest : List Nat) :
    asText (charPoints [] ++ '"'.toNat :: rest) = unit '"' :: asText rest :=
  asText_char (by decide) rest

theorem charPoints_cons (token : CharToken) (others : List CharToken) (rest : List Nat) :
    charPoints (token :: others) ++ '"'.toNat :: rest =
      token.points ++ (charPoints others ++ '"'.toNat :: rest) := by
  rw [charPoints, List.flatMap_cons, List.append_assoc]
  rfl

theorem parseStringBody_chars (chars : List CharToken) (rest : List Nat) :
    parseStringBody (asText (charPoints chars ++ '"'.toNat :: rest)) =
      some (stringValue chars, asText rest) := by
  induction chars with
  | nil =>
    rw [asText_charPoints_nil, parseStringBody_close]
    rfl
  | cons token others ih =>
    rw [charPoints_cons, parseStringBody_token, ih]
    rfl

theorem asText_string (chars : List CharToken) (rest : List Nat) :
    asText (stringPoints chars ++ rest) =
      unit '"' :: asText (charPoints chars ++ '"'.toNat :: rest) := by
  unfold stringPoints
  rw [List.cons_append, asText_char (by decide), List.append_assoc]
  rfl

section Parse

variable (numbers : NumberText)

variable {rest : List Nat}

private theorem parseScalar_literal (literal : NumberLiteral) (ends : NumberEnd (asText rest)) :
    parseScalar numbers (asText (literal.points ++ rest)) =
      some (.number (numbers.ofText literal.text), asText rest) := by
  have span := span_number (fun codeUnit => literal.isNumberUnit_text) ends
  rcases literal.head_text with ⟨first, tail, isText, -⟩
  have numeric : isNumberUnit first = true :=
    literal.isNumberUnit_text (by rw [isText]; exact List.mem_cons_self)
  have notKeyword : ∀ letter others, isNumberUnit letter = false →
      (letter :: others).isPrefixOf (literal.text ++ asText rest) = false := by
    intro letter others notNumber
    have different : letter ≠ first := (isNumberUnit_ne numeric notNumber).symm
    rw [isText, List.cons_append, List.isPrefixOf, beq_eq_false_iff_ne.mpr different,
      Bool.false_and]
  rw [asText_append]
  change parseScalar numbers (literal.text ++ asText rest) = _
  unfold parseScalar
  rw [show js "true" = unit 't' :: js "rue" by decide,
    show js "false" = unit 'f' :: js "alse" by decide,
    show js "null" = unit 'n' :: js "ull" by decide, notKeyword _ _ (by decide),
    notKeyword _ _ (by decide), notKeyword _ _ (by decide)]
  dsimp only
  rw [if_neg Bool.false_ne_true, if_neg Bool.false_ne_true, if_neg Bool.false_ne_true, span.1,
    span.2, if_pos literal.isJsonNumber_text]

variable {fuel : Nat}

private theorem parseValue_congr {left right : JsString}
    (same : skipWhitespace left = skipWhitespace right) :
    parseValue numbers (fuel + 1) left = parseValue numbers (fuel + 1) right := by
  rw [parseValue, parseValue, same]

private theorem parseValue_blank (blank : Blank) (rest : List Nat) :
    parseValue numbers (fuel + 1) (asText (blank.val ++ rest)) =
      parseValue numbers (fuel + 1) (asText rest) :=
  parseValue_congr numbers (skipWhitespace_blank blank rest)

private theorem parseValue_keyword {fuel : Nat} {text : JsString} {first : CodeUnit}
    {rest : JsString} (isText : text = first :: rest) (visible : isWhitespace first = false)
    (notQuote : first ≠ unit '"') (notBracket : first ≠ unit '[') (notBrace : first ≠ unit '\x7b') :
    parseValue numbers (fuel + 1) text = parseScalar numbers text := by
  rw [isText, parseValue, skipWhitespace_cons visible]
  dsimp only
  rw [if_neg notQuote, if_neg notBracket, if_neg notBrace]

private theorem parseValue_emptyArray (blank : Blank) (rest : List Nat) :
    parseValue numbers (fuel + 1)
      (asText ('['.toNat :: (blank.val ++ [']'.toNat]) ++ rest)) =
        some (.array [], asText rest) := by
  have inner := skipWhitespace_blank_char blank (show ']'.toNat < 0x10000 by decide) (by decide) rest
  rw [List.cons_append, List.append_assoc, asText_char (by decide), parseValue,
    skipWhitespace_cons (by decide)]
  dsimp only
  rw [if_neg (by decide), if_pos rfl, List.singleton_append, inner]
  rfl

private theorem parseValue_emptyObject (blank : Blank) (rest : List Nat) :
    parseValue numbers (fuel + 1)
      (asText ('\x7b'.toNat :: (blank.val ++ ['\x7d'.toNat]) ++ rest)) =
        some (.object [], asText rest) := by
  have inner :=
    skipWhitespace_blank_char blank (show '\x7d'.toNat < 0x10000 by decide) (by decide) rest
  rw [List.cons_append, List.append_assoc, asText_char (by decide), parseValue,
    skipWhitespace_cons (by decide)]
  dsimp only
  rw [if_neg (by decide), if_neg (by decide), if_pos rfl, List.singleton_append, inner]
  rfl

theorem head_items (items : JsonItems) (rest : List Nat) :
    (skipWhitespace (asText (items.points ++ rest))).head? ≠ some (unit ']') := by
  have element : ∀ (before : Blank) (value : JsonValue) (tail : List Nat),
      (skipWhitespace (asText (before.val ++ (value.points ++ tail)))).head? ≠
        some (unit ']') := by
    intro before value tail
    rcases skipWhitespace_value before value tail with ⟨first, others, isText, -, starts⟩
    rw [isText, List.head?_cons]
    exact fun same => (startsValue_facts starts).2 (Option.some.inj same)
  cases items with
  | last before value after =>
    rw [JsonItems.points, List.append_assoc, List.append_assoc]
    exact element before value _
  | more before value after others =>
    rw [JsonItems.points, List.append_assoc, List.append_assoc]
    exact element before value _

theorem skipWhitespace_members (members : JsonMembers) (rest : List Nat) :
    ∃ tail, skipWhitespace (asText (members.points ++ rest)) = unit '"' :: tail := by
  have key : ∀ (blank : Blank) (chars : List CharToken) (tail : List Nat),
      skipWhitespace (asText (blank.val ++ (stringPoints chars ++ tail))) =
        unit '"' :: asText (charPoints chars ++ '"'.toNat :: tail) := by
    intro blank chars tail
    rw [skipWhitespace_blank, asText_string, skipWhitespace_cons (by decide)]
  cases members with
  | last beforeKey chars afterKey before value after =>
    rw [JsonMembers.points, List.append_assoc, List.append_assoc]
    exact ⟨_, key beforeKey chars _⟩
  | more beforeKey chars afterKey before value after others =>
    rw [JsonMembers.points, List.append_assoc, List.append_assoc]
    exact ⟨_, key beforeKey chars _⟩

private theorem parseValue_array {fuel : Nat} {items : JsonItems} {rest : List Nat}
    (inner : parseItems numbers fuel (asText (items.points ++ ']'.toNat :: rest)) =
      some (items.resolved numbers, asText rest)) :
    parseValue numbers (fuel + 1) (asText ((JsonValue.array items).points ++ rest)) =
      some ((JsonValue.array items).resolved numbers, asText rest) := by
  rw [JsonValue.points, List.cons_append, List.append_assoc, List.singleton_append,
    asText_char (by decide), parseValue, skipWhitespace_cons (by decide)]
  dsimp only
  rw [if_neg (by decide), if_pos rfl, if_neg (head_items items _), inner]
  rfl

private theorem parseValue_object {members : JsonMembers}
    (inner : parseMembers numbers fuel (asText (members.points ++ '\x7d'.toNat :: rest)) =
      some (members.resolved numbers, asText rest)) :
    parseValue numbers (fuel + 1) (asText ((JsonValue.object members).points ++ rest)) =
      some ((JsonValue.object members).resolved numbers, asText rest) := by
  rcases skipWhitespace_members members ('\x7d'.toNat :: rest) with ⟨tail, isText⟩
  rw [JsonValue.points, List.cons_append, List.append_assoc, List.singleton_append,
    asText_char (by decide), parseValue, skipWhitespace_cons (by decide)]
  dsimp only
  rw [if_neg (by decide), if_neg (by decide), if_pos rfl, isText, List.head?_cons,
    if_neg (by decide), inner]
  rfl

private theorem readsMember_points {key : List CharToken} {beforeKey afterKey before : Blank}
    {points : List Nat} {value : JsValue} {tail : JsString}
    (head : parseValue numbers (fuel + 1) (asText points) = some (value, tail)) :
    ReadsMember numbers (fuel + 1) (asText (beforeKey.val ++ (stringPoints key ++
      (afterKey.val ++ ':'.toNat :: (before.val ++ points))))) (stringValue key) value tail := by
  refine ⟨_, _, _, ?_, parseStringBody_chars key _,
    skipWhitespace_blank_char afterKey (by decide) (by decide) (before.val ++ points), ?_⟩
  · rw [skipWhitespace_blank, asText_string, skipWhitespace_cons (by decide)]
  · rw [parseValue_blank, head]

theorem length_items (items : JsonItems) : 1 ≤ items.points.length := by
  cases items with
  | last before value after =>
    have positive := length_points_pos value
    simp only [JsonItems.points, List.length_append]
    omega
  | more before value after rest =>
    have positive := length_points_pos value
    simp only [JsonItems.points, List.length_append]
    omega

theorem length_members (members : JsonMembers) : 1 ≤ members.points.length := by
  cases members with
  | last beforeKey key afterKey before value after =>
    have positive := length_points_pos value
    simp only [JsonMembers.points, List.length_append, List.length_cons]
    omega
  | more beforeKey key afterKey before value after rest =>
    have positive := length_points_pos value
    simp only [JsonMembers.points, List.length_append, List.length_cons]
    omega

theorem asText_null (rest : List Nat) :
    asText (JsonValue.null.points ++ rest) = unit 'n' :: (js "ull" ++ asText rest) := by
  rw [asText_append]
  rfl

theorem asText_true (rest : List Nat) :
    asText ((JsonValue.bool true).points ++ rest) = unit 't' :: (js "rue" ++ asText rest) := by
  rw [asText_append]
  rfl

theorem asText_false (rest : List Nat) :
    asText ((JsonValue.bool false).points ++ rest) = unit 'f' :: (js "alse" ++ asText rest) := by
  rw [asText_append]
  rfl

/-- The first unit of a number starts no other value. -/
theorem NumberLiteral.exists_head (literal : NumberLiteral) (rest : List Nat) :
    ∃ first tail, literal.text = first :: tail ∧ isNumberUnit first = true ∧
      isWhitespace first = false ∧ asText (literal.points ++ rest) =
        first :: (tail ++ asText rest) := by
  rcases literal.head_text with ⟨first, tail, isText, -⟩
  have numeric : isNumberUnit first = true :=
    literal.isNumberUnit_text (by rw [isText]; exact List.mem_cons_self)
  have starts : startsValue first = true := by
    rw [startsValue, numeric]
    rfl
  refine ⟨first, tail, isText, numeric, (startsValue_facts starts).1, ?_⟩
  rw [asText_append]
  change literal.text ++ asText rest = _
  rw [isText, List.cons_append]

-- Fuel for twice the number of code points is enough: a bracket pays for the call of the loop.
mutual

theorem parseValue_points : ∀ (value : JsonValue) (fuel : Nat) (rest : List Nat),
    2 * value.points.length ≤ fuel + 1 → NumberEnd (asText rest) →
      parseValue numbers (fuel + 1) (asText (value.points ++ rest)) =
        some (value.resolved numbers, asText rest)
  | .null, fuel, rest, _, _ => by
    rw [parseValue_keyword numbers (asText_null rest) (by decide) (by decide) (by decide)
      (by decide), asText_null]
    rfl
  | .bool true, fuel, rest, _, _ => by
    rw [parseValue_keyword numbers (asText_true rest) (by decide) (by decide) (by decide)
      (by decide), asText_true]
    rfl
  | .bool false, fuel, rest, _, _ => by
    rw [parseValue_keyword numbers (asText_false rest) (by decide) (by decide) (by decide)
      (by decide), asText_false]
    rfl
  | .number literal, fuel, rest, _, ends => by
    rcases literal.exists_head rest with ⟨first, tail, -, numeric, visible, isWhole⟩
    rw [JsonValue.points, parseValue_keyword numbers isWhole visible
      (isNumberUnit_ne numeric (by decide)) (isNumberUnit_ne numeric (by decide))
      (isNumberUnit_ne numeric (by decide))]
    exact parseScalar_literal numbers literal ends
  | .string chars, fuel, rest, _, _ => by
    rw [JsonValue.points, asText_string, parseValue, skipWhitespace_cons (by decide)]
    dsimp only
    rw [if_pos rfl, parseStringBody_chars]
    rfl
  | .emptyArray blank, fuel, rest, _, _ => parseValue_emptyArray numbers blank rest
  | .emptyObject blank, fuel, rest, _, _ => parseValue_emptyObject numbers blank rest
  | .array items, fuel, rest, enough, _ => by
    have positive := length_items items
    simp only [JsonValue.points, List.length_cons, List.length_append, List.length_nil] at enough
    rcases Nat.exists_eq_add_of_le' (show 2 ≤ fuel by omega) with ⟨less, rfl⟩
    exact parseValue_array numbers (parseItems_points items less rest (by omega))
  | .object members, fuel, rest, enough, _ => by
    have positive := length_members members
    simp only [JsonValue.points, List.length_cons, List.length_append, List.length_nil] at enough
    rcases Nat.exists_eq_add_of_le' (show 2 ≤ fuel by omega) with ⟨less, rfl⟩
    exact parseValue_object numbers (parseMembers_points members less rest (by omega))

theorem parseItems_points : ∀ (items : JsonItems) (fuel : Nat) (rest : List Nat),
    2 * items.points.length ≤ fuel + 1 →
      parseItems numbers (fuel + 2) (asText (items.points ++ ']'.toNat :: rest)) =
        some (items.resolved numbers, asText rest)
  | .last before value after, fuel, rest, enough => by
    simp only [JsonItems.points, List.length_append] at enough
    rw [JsonItems.points, List.append_assoc, List.append_assoc]
    exact parseItems_last numbers ((parseValue_blank numbers before _).trans
      (parseValue_points value fuel _ (by omega)
        (numberEnd_blank_char after (by decide) (by decide) rest)))
      (skipWhitespace_blank_char after (by decide) (by decide) rest)
  | .more before value after others, fuel, rest, enough => by
    have positive := length_items others
    simp only [JsonItems.points, List.length_append, List.length_cons] at enough
    rcases Nat.exists_eq_add_of_le' (show 1 ≤ fuel by omega) with ⟨less, rfl⟩
    rw [JsonItems.points, List.append_assoc, List.append_assoc, List.append_assoc, List.cons_append]
    exact parseItems_more numbers ((parseValue_blank numbers before _).trans
      (parseValue_points value (less + 1) _ (by omega)
        (numberEnd_blank_char after (by decide) (by decide) _)))
      (skipWhitespace_blank_char after (by decide) (by decide) _)
      (parseItems_points others less rest (by omega))

theorem parseMembers_points : ∀ (members : JsonMembers) (fuel : Nat) (rest : List Nat),
    2 * members.points.length ≤ fuel + 1 →
      parseMembers numbers (fuel + 2) (asText (members.points ++ '\x7d'.toNat :: rest)) =
        some (members.resolved numbers, asText rest)
  | .last beforeKey key afterKey before value after, fuel, rest, enough => by
    simp only [JsonMembers.points, List.length_append, List.length_cons] at enough
    simp only [JsonMembers.points, List.append_assoc, List.cons_append]
    exact parseMembers_last (readsMember_points numbers (parseValue_points value fuel _ (by omega)
      (numberEnd_blank_char after (by decide) (by decide) rest)))
      (skipWhitespace_blank_char after (by decide) (by decide) rest)
  | .more beforeKey key afterKey before value after others, fuel, rest, enough => by
    have positive := length_members others
    simp only [JsonMembers.points, List.length_append, List.length_cons] at enough
    rcases Nat.exists_eq_add_of_le' (show 1 ≤ fuel by omega) with ⟨less, rfl⟩
    simp only [JsonMembers.points, List.append_assoc, List.cons_append]
    exact parseMembers_more (readsMember_points numbers
      (parseValue_points value (less + 1) _ (by omega)
        (numberEnd_blank_char after (by decide) (by decide) _)))
      (skipWhitespace_blank_char after (by decide) (by decide) _)
      (parseMembers_points others less rest (by omega))

end

theorem Document.enough (document : Document) :
    2 * document.value.points.length ≤ 2 * document.text.length + 1 := by
  have length := length_le_asText document.points
  unfold Document.text
  simp only [Document.points, List.length_append] at length ⊢
  omega

theorem Document.numberEnd_after (document : Document) : NumberEnd (asText document.after.val) := by
  have atEnd : NumberEnd (asText (document.after.val ++ [])) :=
    numberEnd_blank document.after (fun _ member => by cases member)
  rwa [List.append_nil] at atEnd

/-- **Acceptance.** `JSON.parse` reads every JSON text; of repeated keys the last one wins. -/
theorem parse_document (document : Document) :
    parse numbers document.text = some (document.value.resolved numbers) := by
  have enough := document.enough
  have trailing : skipWhitespace (asText document.after.val) = [] := by
    have skipped := skipWhitespace_blank document.after []
    rwa [List.append_nil] at skipped
  unfold parse
  rw [Document.text, Document.points, parseValue_blank]
  rw [Document.text, Document.points] at enough
  rw [parseValue_points numbers document.value _ _ enough document.numberEnd_after,
    Option.bind_some]
  exact if_pos trailing

end Parse

theorem keys_written (numbers : NumberText) (members : JsonMembers) :
    (members.written numbers).map Prod.fst = members.keys := by
  cases members with
  | last beforeKey key afterKey before value after => rfl
  | more beforeKey key afterKey before value after rest =>
    rw [JsonMembers.written, JsonMembers.keys, List.map_cons, keys_written numbers rest]

section Distinct

variable (numbers : NumberText)

mutual

private theorem resolved_value : ∀ value : JsonValue, value.KeysDistinct →
    value.resolved numbers = value.written numbers
  | .null, _ => rfl
  | .bool _, _ => rfl
  | .number _, _ => rfl
  | .string _, _ => rfl
  | .emptyArray _, _ => rfl
  | .emptyObject _, _ => rfl
  | .array items, distinct => by
    rw [JsonValue.resolved, JsonValue.written, resolved_items items distinct]
  | .object members, distinct => by
    have nodup : ((members.written numbers).map Prod.fst).Nodup := by
      rw [keys_written]
      exact distinct _ List.mem_cons_self
    rw [JsonValue.resolved, JsonValue.written,
      resolved_members members fun keys member => distinct keys (List.mem_cons_of_mem _ member),
      foldl_setMember (by simpa using nodup), List.nil_append]

private theorem resolved_items : ∀ items : JsonItems, (∀ keys ∈ items.objects, keys.Nodup) →
    items.resolved numbers = items.written numbers
  | .last _ value _, distinct => by
    rw [JsonItems.resolved, JsonItems.written, resolved_value value distinct]
  | .more _ value _ rest, distinct => by
    have parts := List.forall_mem_append.mp distinct
    rw [JsonItems.resolved, JsonItems.written, resolved_value value parts.1,
      resolved_items rest parts.2]

private theorem resolved_members : ∀ members : JsonMembers,
    (∀ keys ∈ members.objects, keys.Nodup) → members.resolved numbers = members.written numbers
  | .last _ _ _ _ value _, distinct => by
    rw [JsonMembers.resolved, JsonMembers.written, resolved_value value distinct]
  | .more _ _ _ _ value _ rest, distinct => by
    have parts := List.forall_mem_append.mp distinct
    rw [JsonMembers.resolved, JsonMembers.written, resolved_value value parts.1,
      resolved_members rest parts.2]

end

end Distinct

theorem parse_document_of_keysDistinct (numbers : NumberText) {document : Document}
    (distinct : document.value.KeysDistinct) :
    parse numbers document.text = some (document.value.written numbers) := by
  rw [parse_document, resolved_value numbers document.value distinct]

end GhostArk.Js.JsonGrammar
