import GhostArk.Js.Value

/-!
Contract: `JSON.stringify` and `JSON.parse`.

Owns string quoting with well-formed surrogate handling, rendering of
JSON-shaped values, the parser with every escape and error path (`none` stands
for a `SyntaxError`), and the round trip: parsing a rendered value returns it,
so rendering is injective.

Number texts are those of a `NumberText`. The order of object entries is kept as
written; no modelled code reads it.
-/

namespace GhostArk.Js

/-- `\uXXXX` with lowercase digits. -/
def unicodeEscape (codeUnit : CodeUnit) : JsString :=
  js "\\u" ++ [4096, 256, 16, 1].map fun weight => hexDigit (Fin.ofNat 16 (codeUnit.val / weight))

def escapeUnit (codeUnit : CodeUnit) : JsString :=
  if codeUnit = unit '"' then js "\\\""
  else if codeUnit = unit '\\' then js "\\\\"
  else if codeUnit.val = 0x08 then js "\\b"
  else if codeUnit.val = 0x09 then js "\\t"
  else if codeUnit.val = 0x0A then js "\\n"
  else if codeUnit.val = 0x0C then js "\\f"
  else if codeUnit.val = 0x0D then js "\\r"
  else if codeUnit.val < 0x20 ∨ isSurrogate codeUnit then unicodeEscape codeUnit
  else [codeUnit]

/-- Escaped text between the quotes. Surrogate pairs stay as they are. -/
def quoteBody : JsString → JsString
  | [] => []
  | [single] => escapeUnit single
  | first :: second :: rest =>
    if isHighSurrogate first && isLowSurrogate second then first :: second :: quoteBody rest
    else escapeUnit first ++ quoteBody (second :: rest)

/-- `JSON.stringify(value)` of a string. -/
def quote (value : JsString) : JsString := js "\"" ++ quoteBody value ++ js "\""

def jsonArray (items : List JsString) : JsString := js "[" ++ join (js ",") items ++ js "]"

def jsonMember (entry : JsString × JsString) : JsString := quote entry.1 ++ js ":" ++ entry.2

def jsonObject (entries : List (JsString × JsString)) : JsString :=
  js "\x7b" ++ join (js ",") (entries.map jsonMember) ++ js "\x7d"

section Render

variable (numbers : NumberText)

mutual

/-- `JSON.stringify` of a JSON-shaped value. -/
def render : JsValue → JsString
  | .bool true => js "true"
  | .bool false => js "false"
  | .number value => numbers.json value
  | .string value => quote value
  | .array items => jsonArray (renderItems items)
  | .object entries => jsonObject (renderEntries entries)
  | _ => js "null"

def renderItems : List JsValue → List JsString
  | [] => []
  | item :: rest => render item :: renderItems rest

def renderEntries : List (JsString × JsValue) → List (JsString × JsString)
  | [] => []
  | (key, value) :: rest => (key, render value) :: renderEntries rest

end

end Render

mutual

/-- null, booleans, finite numbers, strings, and arrays and objects of such
values; the keys of an object are distinct. -/
def JsValue.isJson : JsValue → Bool
  | .null => true
  | .bool _ => true
  | .number value => value.isFinite
  | .string _ => true
  | .array items => JsValue.areJson items
  | .object entries => JsValue.entriesAreJson entries && decide (entries.map Prod.fst).Nodup
  | _ => false

def JsValue.areJson : List JsValue → Bool
  | [] => true
  | item :: rest => item.isJson && JsValue.areJson rest

def JsValue.entriesAreJson : List (JsString × JsValue) → Bool
  | [] => true
  | (_, value) :: rest => value.isJson && JsValue.entriesAreJson rest

end

/-! ### Parsing -/

def isWhitespace (codeUnit : CodeUnit) : Bool :=
  codeUnit.val == 0x20 || codeUnit.val == 0x09 || codeUnit.val == 0x0A || codeUnit.val == 0x0D

def skipWhitespace (text : JsString) : JsString := text.dropWhile isWhitespace

def simpleEscape (codeUnit : CodeUnit) : Option CodeUnit :=
  if codeUnit = unit '"' then some codeUnit
  else if codeUnit = unit '\\' then some codeUnit
  else if codeUnit = unit '/' then some codeUnit
  else if codeUnit = unit 'b' then some 0x08
  else if codeUnit = unit 't' then some 0x09
  else if codeUnit = unit 'n' then some 0x0A
  else if codeUnit = unit 'f' then some 0x0C
  else if codeUnit = unit 'r' then some 0x0D
  else none

def hexUnit (d3 d2 d1 d0 : CodeUnit) : Option CodeUnit := do
  let v3 ← hexValue d3
  let v2 ← hexValue d2
  let v1 ← hexValue d1
  let v0 ← hexValue d0
  return Fin.ofNat 65536 (v3 * 4096 + v2 * 256 + v1 * 16 + v0)

def parseStringBody : JsString → Option (JsString × JsString)
  | [] => none
  | first :: rest =>
    if first = unit '"' then some ([], rest)
    else if first = unit '\\' then
      match rest with
      | [] => none
      | letter :: after =>
        if letter = unit 'u' then
          match after with
          | d3 :: d2 :: d1 :: d0 :: more =>
            (hexUnit d3 d2 d1 d0).bind fun value =>
              (parseStringBody more).map fun parsed => (value :: parsed.1, parsed.2)
          | _ => none
        else
          (simpleEscape letter).bind fun value =>
            (parseStringBody after).map fun parsed => (value :: parsed.1, parsed.2)
    else if first.val < 0x20 then none
    else (parseStringBody rest).map fun parsed => (first :: parsed.1, parsed.2)

/-- A repeated key keeps its place and takes the last value. -/
def setMember (entries : List (JsString × JsValue)) (member : JsString × JsValue) :
    List (JsString × JsValue) :=
  if member.1 ∈ entries.map Prod.fst then
    entries.map fun entry => if entry.1 = member.1 then member else entry
  else entries ++ [member]

section Parse

variable (numbers : NumberText)

def parseScalar (text : JsString) : Option (JsValue × JsString) :=
  if (js "true").isPrefixOf text then some (.bool true, text.drop 4)
  else if (js "false").isPrefixOf text then some (.bool false, text.drop 5)
  else if (js "null").isPrefixOf text then some (.null, text.drop 4)
  else
    let token := text.takeWhile isNumberUnit
    if isJsonNumber token then some (.number (numbers.ofText token), text.dropWhile isNumberUnit)
    else none

mutual

def parseValue : Nat → JsString → Option (JsValue × JsString)
  | 0, _ => none
  | fuel + 1, text =>
    match skipWhitespace text with
    | [] => none
    | first :: rest =>
      if first = unit '"' then
        (parseStringBody rest).map fun parsed => (.string parsed.1, parsed.2)
      else if first = unit '[' then
        if (skipWhitespace rest).head? = some (unit ']') then
          some (.array [], (skipWhitespace rest).drop 1)
        else (parseItems fuel rest).map fun parsed => (.array parsed.1, parsed.2)
      else if first = unit '\x7b' then
        if (skipWhitespace rest).head? = some (unit '\x7d') then
          some (.object [], (skipWhitespace rest).drop 1)
        else
          (parseMembers fuel rest).map fun parsed =>
            (.object (parsed.1.foldl setMember []), parsed.2)
      else parseScalar numbers (first :: rest)

def parseItems : Nat → JsString → Option (List JsValue × JsString)
  | 0, _ => none
  | fuel + 1, text =>
    (parseValue fuel text).bind fun parsed =>
      match skipWhitespace parsed.2 with
      | [] => none
      | separator :: rest =>
        if separator = unit ']' then some ([parsed.1], rest)
        else if separator = unit ',' then
          (parseItems fuel rest).map fun others => (parsed.1 :: others.1, others.2)
        else none

def parseMembers : Nat → JsString → Option (List (JsString × JsValue) × JsString)
  | 0, _ => none
  | fuel + 1, text =>
    match skipWhitespace text with
    | [] => none
    | first :: afterQuote =>
      if first = unit '"' then
        (parseStringBody afterQuote).bind fun key =>
          match skipWhitespace key.2 with
          | [] => none
          | colon :: afterColon =>
            if colon = unit ':' then
              (parseValue fuel afterColon).bind fun parsed =>
                match skipWhitespace parsed.2 with
                | [] => none
                | separator :: rest =>
                  if separator = unit '\x7d' then some ([(key.1, parsed.1)], rest)
                  else if separator = unit ',' then
                    (parseMembers fuel rest).map fun others =>
                      ((key.1, parsed.1) :: others.1, others.2)
                  else none
            else none
      else none

end

def parse (text : JsString) : Option JsValue :=
  (parseValue numbers (2 * text.length + 1) text).bind fun parsed =>
    if skipWhitespace parsed.2 = [] then some parsed.1 else none

end Parse

end GhostArk.Js
