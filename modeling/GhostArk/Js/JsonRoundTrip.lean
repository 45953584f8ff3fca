import GhostArk.Js.Json

/-!
Contract: the round trip of `JSON.stringify` and `JSON.parse`.

Owns the inversion of quoting, of number tokens, and of arrays and objects at
any depth, for enough fuel; the fuel of `parse` is enough. Rendering is
injective on JSON-shaped values.
-/

namespace GhostArk.Js

/-! ### Strings -/

theorem hexUnit_hexDigits (codeUnit : CodeUnit) :
    hexUnit (hexDigit (Fin.ofNat 16 (codeUnit.val / 4096)))
      (hexDigit (Fin.ofNat 16 (codeUnit.val / 256))) (hexDigit (Fin.ofNat 16 (codeUnit.val / 16)))
      (hexDigit (Fin.ofNat 16 (codeUnit.val / 1))) = some codeUnit := by
  have bound := codeUnit.isLt
  simp only [hexUnit, hexValue_hexDigit, Fin.val_ofNat, bind, Option.bind, pure]
  congr 1
  apply Fin.ext
  simp only [Fin.val_ofNat]
  omega

theorem parseStringBody_close (rest : JsString) :
    parseStringBody (unit '"' :: rest) = some ([], rest) := by
  rw [parseStringBody.eq_def]
  simp only [if_true]

private theorem parseStringBody_unicodeEscape (codeUnit : CodeUnit) (rest : JsString) :
    parseStringBody (unicodeEscape codeUnit ++ rest) =
      (parseStringBody rest).map fun parsed => (codeUnit :: parsed.1, parsed.2) := by
  have escape : js "\\u" = [unit '\\', unit 'u'] := by decide
  have notQuote : unit '\\' ≠ unit '"' := by decide
  unfold unicodeEscape
  rw [escape]
  simp only [List.map_cons, List.map_nil, List.cons_append, List.nil_append]
  rw [parseStringBody.eq_def]
  simp only [if_neg notQuote, if_true, hexUnit_hexDigits, Option.bind_some]

theorem parseStringBody_simpleEscape {letter value : CodeUnit}
    (notUnicode : letter ≠ unit 'u') (escaped : simpleEscape letter = some value)
    (rest : JsString) :
    parseStringBody (unit '\\' :: letter :: rest) =
      (parseStringBody rest).map fun parsed => (value :: parsed.1, parsed.2) := by
  have notQuote : unit '\\' ≠ unit '"' := by decide
  rw [parseStringBody.eq_def]
  simp only [if_neg notQuote, if_neg notUnicode, if_true, escaped, Option.bind_some]

variable {codeUnit : CodeUnit}

theorem parseStringBody_raw (notQuote : codeUnit ≠ unit '"') (notBackslash : codeUnit ≠ unit '\\')
    (printable : ¬ codeUnit.val < 0x20) (rest : JsString) :
    parseStringBody (codeUnit :: rest) =
      (parseStringBody rest).map fun parsed => (codeUnit :: parsed.1, parsed.2) := by
  rw [parseStringBody.eq_def]
  simp only [if_neg notQuote, if_neg notBackslash, if_neg printable]

theorem parseStringBody_escapeUnit (codeUnit : CodeUnit) (rest : JsString) :
    parseStringBody (escapeUnit codeUnit ++ rest) =
      (parseStringBody rest).map fun parsed => (codeUnit :: parsed.1, parsed.2) := by
  unfold escapeUnit
  split
  · subst codeUnit
    exact parseStringBody_simpleEscape (by decide) (by decide) rest
  split
  · subst codeUnit
    exact parseStringBody_simpleEscape (by decide) (by decide) rest
  -- The five control characters with a letter of their own.
  split
  next isBackspace =>
    obtain rfl : codeUnit = 0x08 := Fin.ext isBackspace
    exact parseStringBody_simpleEscape (by decide) (by decide) rest
  split
  next isTab =>
    obtain rfl : codeUnit = 0x09 := Fin.ext isTab
    exact parseStringBody_simpleEscape (by decide) (by decide) rest
  split
  next isNewline =>
    obtain rfl : codeUnit = 0x0A := Fin.ext isNewline
    exact parseStringBody_simpleEscape (by decide) (by decide) rest
  split
  next isFormFeed =>
    obtain rfl : codeUnit = 0x0C := Fin.ext isFormFeed
    exact parseStringBody_simpleEscape (by decide) (by decide) rest
  split
  next isReturn =>
    obtain rfl : codeUnit = 0x0D := Fin.ext isReturn
    exact parseStringBody_simpleEscape (by decide) (by decide) rest
  split
  · exact parseStringBody_unicodeEscape codeUnit rest
  next notQuote notBackslash _ _ _ _ _ plain =>
    rw [not_or] at plain
    exact parseStringBody_raw notQuote notBackslash plain.1 rest

private theorem parseStringBody_surrogate (surrogate : isSurrogate codeUnit = true)
    (rest : JsString) :
    parseStringBody (codeUnit :: rest) =
      (parseStringBody rest).map fun parsed => (codeUnit :: parsed.1, parsed.2) := by
  have high : 0xD800 ≤ codeUnit.val := by
    simp only [isSurrogate, isHighSurrogate, isLowSurrogate, Bool.or_eq_true, Bool.and_eq_true,
      decide_eq_true_eq] at surrogate
    omega
  refine parseStringBody_raw ?_ ?_ (by omega) rest
  · intro isQuote
    rw [isQuote] at high
    exact absurd high (by decide)
  · intro isBackslash
    rw [isBackslash] at high
    exact absurd high (by decide)

theorem parseStringBody_quoteBody (value rest : JsString) :
    parseStringBody (quoteBody value ++ unit '"' :: rest) = some (value, rest) := by
  induction value using quoteBody.induct with
  | case1 => exact parseStringBody_close rest
  | case2 single =>
    rw [quoteBody, parseStringBody_escapeUnit, parseStringBody_close]
    rfl
  | case3 first second others paired ih =>
    rw [Bool.and_eq_true] at paired
    rw [quoteBody, if_pos (by simp [paired]), List.cons_append, List.cons_append,
      parseStringBody_surrogate (by simp [isSurrogate, paired.1]),
      parseStringBody_surrogate (by simp [isSurrogate, paired.2]), ih]
    rfl
  | case4 first second others unpaired ih =>
    rw [quoteBody, if_neg unpaired, List.append_assoc, parseStringBody_escapeUnit,
      ih]
    rfl

theorem quote_append (value rest : JsString) :
    quote value ++ rest = unit '"' :: (quoteBody value ++ unit '"' :: rest) := by
  have mark : js "\"" = [unit '"'] := by decide
  simp [quote, mark]

/-- A quoted text ends where its own closing mark stands. -/
theorem eq_of_quote_append {left right rest other : JsString}
    (same : quote left ++ rest = quote right ++ other) : left = right ∧ rest = other := by
  rw [quote_append, quote_append, List.cons.injEq] at same
  have parsed := congrArg parseStringBody same.2
  rw [parseStringBody_quoteBody, parseStringBody_quoteBody] at parsed
  exact Prod.mk.inj (Option.some.inj parsed)

def startsValue (codeUnit : CodeUnit) : Bool :=
  isNumberUnit codeUnit || codeUnit == unit '"' || codeUnit == unit '[' ||
    codeUnit == unit '\x7b' || codeUnit == unit 't' || codeUnit == unit 'f' ||
    codeUnit == unit 'n'

private theorem isNumberUnit_cases (number : isNumberUnit codeUnit = true) :
    (48 ≤ codeUnit.val ∧ codeUnit.val ≤ 57) ∨ codeUnit = unit '-' ∨ codeUnit = unit '+' ∨
      codeUnit = unit '.' ∨ codeUnit = unit 'e' ∨ codeUnit = unit 'E' := by
  simp only [isNumberUnit, isDigit, inRange, Bool.or_eq_true, Bool.and_eq_true, beq_iff_eq,
    decide_eq_true_eq] at number
  rcases number with ((((digit | minus) | plus) | point) | lower) | upper
  · exact Or.inl digit
  all_goals simp [*]

theorem isNumberUnit_ne {codeUnit other : CodeUnit}
    (number : isNumberUnit codeUnit = true) (notNumber : isNumberUnit other = false) :
    codeUnit ≠ other := by
  intro same
  rw [same, notNumber] at number
  exact Bool.false_ne_true number

theorem startsValue_facts {codeUnit : CodeUnit} (starts : startsValue codeUnit = true) :
    isWhitespace codeUnit = false ∧ codeUnit ≠ unit ']' := by
  simp only [startsValue, Bool.or_eq_true, beq_iff_eq] at starts
  rcases starts with (((((number | rfl) | rfl) | rfl) | rfl) | rfl) | rfl
  · refine ⟨?_, isNumberUnit_ne number (by decide)⟩
    rcases isNumberUnit_cases number with digit | rfl | rfl | rfl | rfl | rfl
    · simp only [isWhitespace, Bool.or_eq_false_iff, beq_eq_false_iff_ne]
      omega
    all_goals decide
  all_goals decide

section Values

variable (numbers : NumberText)

variable {value : JsValue}

theorem render_starts (shaped : value.isJson = true) :
    ∃ first tail, render numbers value = first :: tail ∧ startsValue first = true := by
  cases value with
  | null => exact ⟨unit 'n', js "ull", rfl, by decide⟩
  | bool flag =>
    cases flag with
    | true => exact ⟨unit 't', js "rue", rfl, by decide⟩
    | false => exact ⟨unit 'f', js "alse", rfl, by decide⟩
  | number value =>
    cases value with
    | finite value =>
      cases text : numbers.toText value with
      | nil => exact absurd text (numbers.toText_ne_nil value)
      | cons first tail =>
        have numeric := numbers.toText_units value first (by simp [text])
        exact ⟨first, tail, text, by simp [startsValue, numeric]⟩
    | _ => simp [JsValue.isJson, JsNumber.isFinite] at shaped
  | string value => exact ⟨unit '"', _, rfl, by decide⟩
  | array items => exact ⟨unit '[', _, rfl, by decide⟩
  | object entries => exact ⟨unit '\x7b', _, rfl, by decide⟩
  | undefined => simp [JsValue.isJson] at shaped
  | hole => simp [JsValue.isJson] at shaped
  | host kind => simp [JsValue.isJson] at shaped

/-- The text after a value does not continue a number. -/
def NumberEnd (rest : JsString) : Prop := ∀ codeUnit ∈ rest.head?, isNumberUnit codeUnit = false

theorem numberEnd_cons {codeUnit : CodeUnit} (notNumber : isNumberUnit codeUnit = false)
    (rest : JsString) : NumberEnd (codeUnit :: rest) := by
  intro other member
  obtain rfl : codeUnit = other := by simpa using member
  exact notNumber

theorem skipWhitespace_cons {first : CodeUnit} (visible : isWhitespace first = false)
    (rest : JsString) : skipWhitespace (first :: rest) = first :: rest := by
  simp [skipWhitespace, visible]

theorem span_number {token rest : JsString}
    (numeric : ∀ codeUnit ∈ token, isNumberUnit codeUnit = true) (ends : NumberEnd rest) :
    (token ++ rest).takeWhile isNumberUnit = token ∧
      (token ++ rest).dropWhile isNumberUnit = rest := by
  have stops : rest.takeWhile isNumberUnit = [] ∧ rest.dropWhile isNumberUnit = rest := by
    cases rest with
    | nil => exact ⟨rfl, rfl⟩
    | cons first tail =>
      have notNumber := ends first (by simp)
      simp [notNumber]
  rw [List.takeWhile_append_of_pos numeric, List.dropWhile_append_of_pos numeric, stops.1,
    stops.2, List.append_nil]
  exact ⟨rfl, rfl⟩

variable {rest : JsString}

private theorem parseScalar_number (value : ℚ) (ends : NumberEnd rest) :
    parseScalar numbers (numbers.toText value ++ rest) = some (.number (.finite value), rest) := by
  have numeric := numbers.toText_units value
  have notLiteral : ∀ letter others, isNumberUnit letter = false →
      (letter :: others).isPrefixOf (numbers.toText value ++ rest) = false := by
    intro letter others notNumber
    cases text : numbers.toText value with
    | nil => exact absurd text (numbers.toText_ne_nil value)
    | cons first tail =>
      have firstNumeric := numeric first (by simp [text])
      have different : letter ≠ first := (isNumberUnit_ne firstNumeric notNumber).symm
      simp [List.isPrefixOf, different]
  obtain ⟨taken, dropped⟩ := span_number numeric ends
  unfold parseScalar
  rw [show js "true" = unit 't' :: js "rue" by decide,
    show js "false" = unit 'f' :: js "alse" by decide,
    show js "null" = unit 'n' :: js "ull" by decide, notLiteral _ _ (by decide),
    notLiteral _ _ (by decide), notLiteral _ _ (by decide)]
  simp only [Bool.false_eq_true, if_false, taken, dropped, numbers.isJsonNumber_toText, if_true,
    numbers.ofText_toText]

private theorem parseValue_scalar {fuel : Nat} {first : CodeUnit} {rest : JsString}
    (visible : isWhitespace first = false) (notQuote : first ≠ unit '"')
    (notBracket : first ≠ unit '[') (notBrace : first ≠ unit '\x7b') :
    parseValue numbers (fuel + 1) (first :: rest) = parseScalar numbers (first :: rest) := by
  rw [parseValue, skipWhitespace_cons visible]
  simp only [if_neg notQuote, if_neg notBracket, if_neg notBrace]

variable {fuel : Nat}

private theorem parseValue_number (value : ℚ) (ends : NumberEnd rest) :
    parseValue numbers (fuel + 1) (numbers.toText value ++ rest) =
      some (.number (.finite value), rest) := by
  rw [← parseScalar_number numbers value ends]
  cases text : numbers.toText value with
  | nil => exact absurd text (numbers.toText_ne_nil value)
  | cons first tail =>
    have numeric := numbers.toText_units value first (by simp [text])
    have visible := (startsValue_facts (by simp [startsValue, numeric] : startsValue first)).1
    exact parseValue_scalar numbers visible (isNumberUnit_ne numeric (by decide))
      (isNumberUnit_ne numeric (by decide)) (isNumberUnit_ne numeric (by decide))

private theorem parseValue_string (value : JsString) :
    parseValue numbers (fuel + 1) (quote value ++ rest) = some (.string value, rest) := by
  rw [quote_append, parseValue, skipWhitespace_cons (by decide)]
  simp only [if_true, parseStringBody_quoteBody, Option.map_some]

/-! ### Arrays and objects -/

private theorem join_comma_cons (piece : JsString) {rest : List JsString} (nonempty : rest ≠ []) :
    join (js ",") (piece :: rest) = piece ++ unit ',' :: join (js ",") rest := by
  cases rest with
  | nil => exact absurd rfl nonempty
  | cons second others =>
    have comma : js "," = [unit ','] := by decide
    simp [join, comma]

section Reads

variable {fuel : Nat} {text tail next rest : JsString} {value : JsValue}

theorem parseItems_last (head : parseValue numbers fuel text = some (value, tail))
    (closes : skipWhitespace tail = unit ']' :: rest) :
    parseItems numbers (fuel + 1) text = some ([value], rest) := by
  rw [parseItems, head]
  simp only [Option.bind_some, closes, if_true]

theorem parseItems_more {others : List JsValue × JsString}
    (head : parseValue numbers fuel text = some (value, tail))
    (continues : skipWhitespace tail = unit ',' :: next)
    (more : parseItems numbers fuel next = some others) :
    parseItems numbers (fuel + 1) text = some (value :: others.1, others.2) := by
  have notClose : unit ',' ≠ unit ']' := by decide
  rw [parseItems, head]
  simp only [Option.bind_some, continues, if_neg notClose, if_true, more, Option.map_some]

/-- The text starts with a member, which is read up to `tail`. -/
def ReadsMember (fuel : Nat) (text key : JsString) (value : JsValue) (tail : JsString) : Prop :=
  ∃ body afterKey afterColon, skipWhitespace text = unit '"' :: body ∧
    parseStringBody body = some (key, afterKey) ∧ skipWhitespace afterKey = unit ':' :: afterColon ∧
      parseValue numbers fuel afterColon = some (value, tail)

variable {numbers} {key : JsString}

theorem parseMembers_last (member : ReadsMember numbers fuel text key value tail)
    (closes : skipWhitespace tail = unit '\x7d' :: rest) :
    parseMembers numbers (fuel + 1) text = some ([(key, value)], rest) := by
  rcases member with ⟨body, afterKey, afterColon, quoted, isKey, colon, head⟩
  rw [parseMembers, quoted]
  simp only [if_true, isKey, Option.bind_some, colon, head, closes]

theorem parseMembers_more {others : List (JsString × JsValue) × JsString}
    (member : ReadsMember numbers fuel text key value tail)
    (continues : skipWhitespace tail = unit ',' :: next)
    (more : parseMembers numbers fuel next = some others) :
    parseMembers numbers (fuel + 1) text = some ((key, value) :: others.1, others.2) := by
  have notClose : unit ',' ≠ unit '\x7d' := by decide
  rcases member with ⟨body, afterKey, afterColon, quoted, isKey, colon, head⟩
  rw [parseMembers, quoted]
  simp only [if_true, isKey, Option.bind_some, colon, head, continues, if_neg notClose, more,
    Option.map_some]

end Reads

private theorem jsonMember_text (key value tail : JsString) :
    jsonMember (key, value) ++ tail =
      unit '"' :: (quoteBody key ++ unit '"' :: unit ':' :: (value ++ tail)) := by
  have mark : js "\"" = [unit '"'] := by decide
  have colon : js ":" = [unit ':'] := by decide
  simp [jsonMember, quote, mark, colon]

private theorem readsMember_text {key text tail : JsString} {value : JsValue} {fuel : Nat}
    (head : parseValue numbers fuel (text ++ tail) = some (value, tail)) :
    ReadsMember numbers fuel (jsonMember (key, text) ++ tail) key value tail := by
  rw [jsonMember_text]
  exact ⟨_, _, _, skipWhitespace_cons (by decide) _, parseStringBody_quoteBody _ _,
    skipWhitespace_cons (by decide) _, head⟩

private theorem parseValue_array {items : List JsValue} {body : JsString} {fuel : Nat}
    {rest : JsString}
    (starts : ∃ first tail, body = first :: tail ∧ startsValue first = true)
    (inner : parseItems numbers fuel (body ++ unit ']' :: rest) = some (items, rest)) :
    parseValue numbers (fuel + 1) (unit '[' :: (body ++ unit ']' :: rest)) =
      some (.array items, rest) := by
  obtain ⟨first, tail, rfl, starts⟩ := starts
  have facts := startsValue_facts starts
  have notQuote : unit '[' ≠ unit '"' := by decide
  rw [parseValue, skipWhitespace_cons (by decide)]
  simp only [if_neg notQuote, if_true, List.cons_append, skipWhitespace_cons facts.1,
    List.head?_cons, Option.some.injEq, if_neg facts.2]
  rw [← List.cons_append, inner]
  rfl

theorem foldl_setMember {done entries : List (JsString × JsValue)}
    (distinct : ((done ++ entries).map Prod.fst).Nodup) :
    entries.foldl setMember done = done ++ entries := by
  induction entries generalizing done with
  | nil => simp
  | cons entry rest ih =>
    have fresh : entry.1 ∉ done.map Prod.fst := by
      rw [List.map_append, List.nodup_append] at distinct
      intro member
      exact distinct.2.2 _ member _ (by simp) rfl
    have step : setMember done entry = done ++ [entry] := by
      rw [setMember, if_neg fresh]
    rw [List.foldl_cons, step, ih (by simpa using distinct)]
    simp

private theorem parseValue_object {entries : List (JsString × JsValue)} {body : JsString}
    (distinct : (entries.map Prod.fst).Nodup) (starts : ∃ tail, body = unit '"' :: tail)
    (inner : parseMembers numbers fuel (body ++ unit '\x7d' :: rest) = some (entries, rest)) :
    parseValue numbers (fuel + 1) (unit '\x7b' :: (body ++ unit '\x7d' :: rest)) =
      some (.object entries, rest) := by
  obtain ⟨tail, rfl⟩ := starts
  have notQuote : unit '\x7b' ≠ unit '"' := by decide
  have notBracket : unit '\x7b' ≠ unit '[' := by decide
  have notClose : unit '"' ≠ unit '\x7d' := by decide
  rw [parseValue, skipWhitespace_cons (by decide)]
  simp only [if_neg notQuote, if_neg notBracket, if_true, List.cons_append,
    skipWhitespace_cons (show isWhitespace (unit '"') = false by decide), List.head?_cons,
    Option.some.injEq, if_neg notClose]
  rw [← List.cons_append, inner]
  simp only [Option.map_some]
  rw [foldl_setMember (by simpa using distinct), List.nil_append]

private theorem render_array_text (items : List JsValue) (rest : JsString) :
    render numbers (.array items) ++ rest =
      unit '[' :: (join (js ",") (renderItems numbers items) ++ unit ']' :: rest) := by
  have opening : js "[" = [unit '['] := by decide
  have closing : js "]" = [unit ']'] := by decide
  simp [render, jsonArray, opening, closing]

private theorem render_object_text (entries : List (JsString × JsValue)) (rest : JsString) :
    render numbers (.object entries) ++ rest =
      unit '\x7b' ::
        (join (js ",") ((renderEntries numbers entries).map jsonMember) ++ unit '\x7d' :: rest) := by
  have opening : js "\x7b" = [unit '\x7b'] := by decide
  have closing : js "\x7d" = [unit '\x7d'] := by decide
  simp [render, jsonObject, opening, closing]

private theorem join_starts (Starts : CodeUnit → Prop) {piece : JsString} (rest : List JsString)
    (starts : ∃ first tail, piece = first :: tail ∧ Starts first) :
    ∃ first tail, join (js ",") (piece :: rest) = first :: tail ∧ Starts first := by
  obtain ⟨first, tail, rfl, starts⟩ := starts
  cases rest with
  | nil => exact ⟨first, tail, rfl, starts⟩
  | cons second others => exact ⟨first, _, rfl, starts⟩

mutual

theorem parseValue_render : ∀ (value : JsValue) (fuel : Nat) (rest : JsString),
    value.isJson = true → 2 * (render numbers value).length ≤ fuel + 1 → NumberEnd rest →
      parseValue numbers (fuel + 1) (render numbers value ++ rest) = some (value, rest)
  | .null, fuel, rest, _, _, _ => by
    rw [show render numbers .null = unit 'n' :: js "ull" from rfl, List.cons_append,
      parseValue_scalar numbers (by decide) (by decide) (by decide) (by decide)]
    rfl
  | .bool true, fuel, rest, _, _, _ => by
    rw [show render numbers (.bool true) = unit 't' :: js "rue" from rfl, List.cons_append,
      parseValue_scalar numbers (by decide) (by decide) (by decide) (by decide)]
    rfl
  | .bool false, fuel, rest, _, _, _ => by
    rw [show render numbers (.bool false) = unit 'f' :: js "alse" from rfl, List.cons_append,
      parseValue_scalar numbers (by decide) (by decide) (by decide) (by decide)]
    rfl
  | .number (.finite value), fuel, rest, _, _, ends => parseValue_number numbers value ends
  | .string value, fuel, rest, _, _, _ => parseValue_string numbers value
  | .array [], fuel, rest, _, _, _ => by
    rw [render_array_text, parseValue, skipWhitespace_cons (by decide)]
    rfl
  | .array (item :: others), fuel, rest, shaped, enough, _ => by
    have text := congrArg List.length (render_array_text numbers (item :: others) [])
    simp only [List.append_nil, List.length_cons, List.length_append, List.length_nil] at text
    have itemShaped : item.isJson = true := by
      simp only [JsValue.isJson, JsValue.areJson, Bool.and_eq_true] at shaped
      exact shaped.1
    obtain ⟨fuel, rfl⟩ : ∃ less, fuel = less + 1 := ⟨fuel - 1, by omega⟩
    rw [render_array_text]
    exact parseValue_array numbers (join_starts _ _ (render_starts numbers itemShaped))
      (parseItems_render (item :: others) fuel rest (by simp)
        (by simpa only [JsValue.isJson] using shaped) (by omega))
  | .object [], fuel, rest, _, _, _ => by
    rw [render_object_text, parseValue, skipWhitespace_cons (by decide)]
    rfl
  | .object ((key, value) :: others), fuel, rest, shaped, enough, _ => by
    have text := congrArg List.length (render_object_text numbers ((key, value) :: others) [])
    simp only [List.append_nil, List.length_cons, List.length_append, List.length_nil] at text
    rw [JsValue.isJson, Bool.and_eq_true, decide_eq_true_eq] at shaped
    obtain ⟨fuel, rfl⟩ : ∃ less, fuel = less + 1 := ⟨fuel - 1, by omega⟩
    rw [render_object_text]
    refine parseValue_object numbers shaped.2 ?_
      (parseMembers_render ((key, value) :: others) fuel rest (by simp) shaped.1 (by omega))
    obtain ⟨_, tail, joined, rfl⟩ := join_starts (· = unit '"')
      ((renderEntries numbers others).map jsonMember)
      ⟨unit '"', _, (List.append_nil _).symm.trans (jsonMember_text key (render numbers value) []),
        rfl⟩
    exact ⟨tail, joined⟩
  | .undefined, _, _, shaped, _, _ => by simp [JsValue.isJson] at shaped
  | .hole, _, _, shaped, _, _ => by simp [JsValue.isJson] at shaped
  | .host _, _, _, shaped, _, _ => by simp [JsValue.isJson] at shaped
  | .number .nan, _, _, shaped, _, _ => by simp [JsValue.isJson, JsNumber.isFinite] at shaped
  | .number .positiveInfinity, _, _, shaped, _, _ => by
    simp [JsValue.isJson, JsNumber.isFinite] at shaped
  | .number .negativeInfinity, _, _, shaped, _, _ => by
    simp [JsValue.isJson, JsNumber.isFinite] at shaped

theorem parseItems_render : ∀ (items : List JsValue) (fuel : Nat) (rest : JsString),
    items ≠ [] → JsValue.areJson items = true →
      2 * (join (js ",") (renderItems numbers items)).length ≤ fuel →
      parseItems numbers (fuel + 1)
          (join (js ",") (renderItems numbers items) ++ unit ']' :: rest) =
        some (items, rest)
  | [], _, _, nonempty, _, _ => absurd rfl nonempty
  | [item], fuel, rest, _, shaped, enough => by
    simp only [JsValue.areJson, Bool.and_true] at shaped
    obtain ⟨first, tail, text, -⟩ := render_starts numbers shaped
    simp only [renderItems, join] at enough ⊢
    obtain ⟨fuel, rfl⟩ : ∃ less, fuel = less + 1 :=
      ⟨fuel - 1, by simp only [text, List.length_cons] at enough; omega⟩
    exact parseItems_last numbers (parseValue_render item fuel _ shaped enough
      (numberEnd_cons (by decide) rest)) (skipWhitespace_cons (by decide) rest)
  | item :: second :: others, fuel, rest, _, shaped, enough => by
    rw [JsValue.areJson, Bool.and_eq_true] at shaped
    have split := join_comma_cons (render numbers item)
      (show renderItems numbers (second :: others) ≠ [] by simp [renderItems])
    rw [show renderItems numbers (item :: second :: others) =
      render numbers item :: renderItems numbers (second :: others) from rfl, split] at enough ⊢
    rw [List.length_append, List.length_cons] at enough
    obtain ⟨fuel, rfl⟩ : ∃ less, fuel = less + 1 := ⟨fuel - 1, by omega⟩
    rw [List.append_assoc, List.cons_append]
    exact parseItems_more numbers
      (parseValue_render item fuel _ shaped.1 (by omega) (numberEnd_cons (by decide) _))
      (skipWhitespace_cons (by decide) _)
      (parseItems_render (second :: others) fuel rest (by simp) shaped.2 (by omega))

theorem parseMembers_render : ∀ (entries : List (JsString × JsValue)) (fuel : Nat)
    (rest : JsString), entries ≠ [] → JsValue.entriesAreJson entries = true →
      2 * (join (js ",") ((renderEntries numbers entries).map jsonMember)).length ≤ fuel →
      parseMembers numbers (fuel + 1)
          (join (js ",") ((renderEntries numbers entries).map jsonMember) ++
            unit '\x7d' :: rest) =
        some (entries, rest)
  | [], _, _, nonempty, _, _ => absurd rfl nonempty
  | [(key, value)], fuel, rest, _, shaped, enough => by
    simp only [JsValue.entriesAreJson, Bool.and_true] at shaped
    have text := congrArg List.length (jsonMember_text key (render numbers value) [])
    simp only [List.append_nil, List.length_cons, List.length_append] at text
    simp only [renderEntries, List.map_cons, List.map_nil, join] at enough ⊢
    obtain ⟨fuel, rfl⟩ : ∃ less, fuel = less + 1 := ⟨fuel - 1, by omega⟩
    exact parseMembers_last (readsMember_text numbers (parseValue_render value fuel _ shaped
      (by omega) (numberEnd_cons (by decide) rest))) (skipWhitespace_cons (by decide) rest)
  | (key, value) :: second :: others, fuel, rest, _, shaped, enough => by
    rw [JsValue.entriesAreJson, Bool.and_eq_true] at shaped
    have text := congrArg List.length (jsonMember_text key (render numbers value) [])
    simp only [List.append_nil, List.length_cons, List.length_append] at text
    have split := join_comma_cons (jsonMember (key, render numbers value))
      (show (renderEntries numbers (second :: others)).map jsonMember ≠ [] by
        simp [renderEntries])
    rw [show (renderEntries numbers ((key, value) :: second :: others)).map jsonMember =
      jsonMember (key, render numbers value) ::
        (renderEntries numbers (second :: others)).map jsonMember from rfl, split] at enough ⊢
    rw [List.length_append, List.length_cons] at enough
    obtain ⟨fuel, rfl⟩ : ∃ less, fuel = less + 1 := ⟨fuel - 1, by omega⟩
    rw [List.append_assoc, List.cons_append]
    exact parseMembers_more (readsMember_text numbers
      (parseValue_render value fuel _ shaped.1 (by omega) (numberEnd_cons (by decide) _)))
      (skipWhitespace_cons (by decide) _)
      (parseMembers_render (second :: others) fuel rest (by simp) shaped.2 (by omega))

end

/-- **Round trip.** `JSON.parse(JSON.stringify(value))` is `value`, for every
JSON-shaped value. -/
theorem parse_render (shaped : value.isJson = true) :
    parse numbers (render numbers value) = some value := by
  have parsed := parseValue_render numbers value (2 * (render numbers value).length) []
    shaped (by omega) (by simp [NumberEnd])
  rw [List.append_nil] at parsed
  rw [parse, parsed, Option.bind_some]
  exact if_pos rfl

/-- Different JSON values are rendered as different texts. -/
theorem render_injective {left right : JsValue} (leftShaped : left.isJson = true)
    (rightShaped : right.isJson = true) (same : render numbers left = render numbers right) :
    left = right := by
  have read := parse_render numbers leftShaped
  rw [same, parse_render numbers rightShaped] at read
  exact (Option.some.inj read).symm

end Values

end GhostArk.Js
