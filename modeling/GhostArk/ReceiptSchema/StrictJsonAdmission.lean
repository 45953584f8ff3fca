import GhostArk.Js.Decimal
import GhostArk.Js.Double
import GhostArk.Js.Json

/-!
Contract: `packages/receipt-schema/src/strictJsonAdmission.ts`.

Owns the text-level scanner: strings with their escapes, number literals with
the rules on magnitude and on significant digits, objects with the rule on
repeated keys, the violations that it returns or the `SyntaxError` that it
throws, and the strict parser and the boolean gate on top of it.

The scan state holds the rest of the text instead of the whole text;
`state.text[state.index]` is its first unit. `readValue` recurses with fuel for
twice the length of the text.
-/

namespace GhostArk.ReceiptSchema

open Js Js.Decimal

inductive StrictAdmissionRuleId where
  | duplicate_object_key
  | unsafe_integer_magnitude
  | excess_significant_digits
deriving DecidableEq, Repr

/-- `MAX_SIGNIFICANT_DIGITS`. -/
def maxSignificantDigits : Nat := 17

structure StrictAdmissionViolation where
  rule : StrictAdmissionRuleId
  offset : Nat
  path : JsString
  message : JsString
deriving DecidableEq, Repr

/-- A position in the text. -/
structure Cursor where
  index : Nat
  /-- `text.slice(index)`. -/
  rest : JsString
deriving DecidableEq, Repr

structure ScanState extends Cursor where
  violations : List StrictAdmissionViolation
deriving DecidableEq, Repr

def syntaxError : ErrorName := .external (js "SyntaxError")

def fail {α : Type} (cursor : Cursor) (message : String) : Except JsError α :=
  .error ⟨syntaxError, js "ghost_ark.strict_json_admission: " ++ js message ++ js " at offset " ++
    natText cursor.index, []⟩

def Cursor.advance (cursor : Cursor) (count : Nat) : Cursor :=
  ⟨cursor.index + count, cursor.rest.drop count⟩

def Cursor.skipWhile (cursor : Cursor) (test : CodeUnit → Bool) : Cursor :=
  ⟨cursor.index + (cursor.rest.takeWhile test).length, cursor.rest.dropWhile test⟩

/-- `state.text[state.index] === character`. -/
def Cursor.at (cursor : Cursor) (character : Char) : Bool :=
  cursor.rest.head? = some (unit character)

def ScanState.skipWhitespace (state : ScanState) : ScanState :=
  { state with toCursor := state.toCursor.skipWhile isWhitespace }

def ScanState.advance (state : ScanState) (count : Nat) : ScanState :=
  { state with toCursor := state.toCursor.advance count }

/-- The loop of `readString`. -/
def readChars (index : Nat) (decoded : JsString) : JsString → Except JsError (JsString × Cursor)
  | [] => fail ⟨index, []⟩ "unterminated string"
  | character :: rest =>
    if character = unit '"' then .ok (decoded, ⟨index + 1, rest⟩)
    else if character = unit '\\' then
      match rest with
      | [] => fail ⟨index + 2, []⟩ "unknown escape sequence"
      | escape :: after =>
        if escape = unit 'u' then
          match after with
          | d3 :: d2 :: d1 :: d0 :: more =>
            match hexUnit d3 d2 d1 d0 with
            | some value => readChars (index + 6) (decoded ++ [value]) more
            | none => fail ⟨index + 2, after⟩ "malformed \\u escape"
          | _ => fail ⟨index + 2, after⟩ "malformed \\u escape"
        else
          match simpleEscape escape with
          | some value => readChars (index + 2) (decoded ++ [value]) after
          | none => fail ⟨index + 2, after⟩ "unknown escape sequence"
    else readChars (index + 1) (decoded ++ [character]) rest

def readString (cursor : Cursor) : Except JsError (JsString × Cursor) :=
  if cursor.at '"' then readChars (cursor.index + 1) [] (cursor.rest.drop 1)
  else fail cursor "expected a string"

def isSign (codeUnit : CodeUnit) : Bool := codeUnit == unit '+' || codeUnit == unit '-'

def isExponentMark (codeUnit : CodeUnit) : Bool := codeUnit == unit 'e' || codeUnit == unit 'E'

/-- `literal.replace(/^[+-]/u, "")`. -/
def withoutSign (literal : JsString) : JsString :=
  if literal.head?.any isSign then literal.drop 1 else literal

def countSignificantDigits (literal : JsString) : Nat :=
  let mantissa := (withoutSign literal).takeWhile fun codeUnit => !isExponentMark codeUnit
  let digitsOnly := mantissa.erase (unit '.')
  (digitsOnly.dropWhile fun codeUnit => codeUnit == unit '0').length

/-- `isInteger && Number.isFinite(parsed) && Math.abs(parsed) > Number.MAX_SAFE_INTEGER`. -/
def exceedsSafeInteger (isInteger : Bool) (parsed : JsNumber) : Bool :=
  match parsed with
  | .finite value => isInteger && decide ((JsNumber.maxSafeInteger : ℚ) < |value|)
  | _ => false

def unsafeIntegerMessage (literal : JsString) : JsString :=
  js "Integer literal " ++ literal ++ js " exceeds Number.MAX_SAFE_INTEGER (" ++
    natText JsNumber.maxSafeInteger ++ js "). " ++
    js "Above this magnitude distinct integers share an IEEE-754 double, so the receipt cannot " ++
    js "evidence which value was submitted. Encode large integers as strings."

def excessDigitsMessage (literal : JsString) : JsString :=
  js "Numeric literal " ++ literal ++ js " carries " ++ natText (countSignificantDigits literal) ++
    js " significant digits, above the " ++ natText maxSignificantDigits ++
    js "-digit round-trip precision of an IEEE-754 double. The text asserts " ++
    js "precision the receipt cannot carry. Encode exact decimals as strings."

/-- What rules R2 and R3 say about a literal. -/
def numberViolations (path : JsString) (offset : Nat) (isInteger : Bool) (literal : JsString) :
    List StrictAdmissionViolation :=
  (if exceedsSafeInteger isInteger (numberOf literal) then
    [⟨.unsafe_integer_magnitude, offset, path, unsafeIntegerMessage literal⟩] else []) ++
  (if maxSignificantDigits < countSignificantDigits literal then
    [⟨.excess_significant_digits, offset, path, excessDigitsMessage literal⟩] else [])

def Cursor.skipOne (cursor : Cursor) (test : CodeUnit → Bool) : Cursor :=
  if cursor.rest.head?.any test then cursor.advance 1 else cursor

def integerEnd (start : Cursor) : Cursor := (start.skipOne isSign).skipWhile isDigit

def fractionEnd (cursor : Cursor) : Cursor :=
  if cursor.at '.' then (cursor.advance 1).skipWhile isDigit else cursor

def exponentEnd (cursor : Cursor) : Cursor :=
  if cursor.rest.head?.any isExponentMark then
    ((cursor.advance 1).skipOne isSign).skipWhile isDigit
  else cursor

def readNumber (path : JsString) (state : ScanState) : Except JsError ScanState :=
  let afterInteger := integerEnd state.toCursor
  let afterFraction := fractionEnd afterInteger
  let ended := exponentEnd afterFraction
  let isInteger := !afterInteger.at '.' && !afterFraction.rest.head?.any isExponentMark
  let literal := state.rest.take (ended.index - state.index)
  if literal.length = 0 then fail ended "expected a number"
  else .ok ⟨ended, state.violations ++ numberViolations path state.index isInteger literal⟩

/-! ### Values -/

def duplicateKeyMessage (key : JsString) : JsString :=
  js "Duplicate object key " ++ quote key ++
    js ". JSON.parse resolves duplicates last-wins, " ++
    js "so this document and one asserting the key once would receive the same receipt identity."

def childPath (path key : JsString) : JsString := path ++ js "/" ++ key

def keyViolations (path : JsString) (offset : Nat) (seenKeys : List JsString) (key : JsString) :
    List StrictAdmissionViolation :=
  if seenKeys.contains key then
    [⟨.duplicate_object_key, offset, childPath path key, duplicateKeyMessage key⟩]
  else []

/-- The engine's error on a call stack without room. -/
def stackOverflow : JsError :=
  ⟨.external (js "RangeError"), js "Maximum call stack size exceeded", []⟩

mutual

def readValue : Nat → JsString → ScanState → Except JsError ScanState
  | 0, _, _ => .error stackOverflow
  | fuel + 1, path, state =>
    let start := state.skipWhitespace
    if start.at '\x7b' then
      let opened := (start.advance 1).skipWhitespace
      if opened.at '\x7d' then .ok (opened.advance 1) else readMembers fuel path [] opened
    else if start.at '[' then
      let opened := (start.advance 1).skipWhitespace
      if opened.at ']' then .ok (opened.advance 1) else readItems fuel path 0 opened
    else if start.at '"' then
      (readString start.toCursor).map fun read => ⟨read.2, start.violations⟩
    else if (js "true").isPrefixOf start.rest then .ok (start.advance 4)
    else if (js "false").isPrefixOf start.rest then .ok (start.advance 5)
    else if (js "null").isPrefixOf start.rest then .ok (start.advance 4)
    else readNumber path start

def readMembers : Nat → JsString → List JsString → ScanState → Except JsError ScanState
  | 0, _, _, _ => .error stackOverflow
  | fuel + 1, path, seenKeys, state => do
    let atKey := state.skipWhitespace
    let read ← readString atKey.toCursor
    let key := read.1
    let violations := atKey.violations ++ keyViolations path atKey.index seenKeys key
    let atColon := (ScanState.mk read.2 violations).skipWhitespace
    if atColon.at ':' then
      let value ← readValue fuel (childPath path key) (atColon.advance 1)
      let atSeparator := value.skipWhitespace
      if atSeparator.at ',' then
        readMembers fuel path (seenKeys ++ [key]) (atSeparator.advance 1)
      else if atSeparator.at '\x7d' then .ok (atSeparator.advance 1)
      else fail atSeparator.toCursor "expected ',' or '\x7d' in object"
    else fail atColon.toCursor "expected ':' after object key"

def readItems : Nat → JsString → Nat → ScanState → Except JsError ScanState
  | 0, _, _, _ => .error stackOverflow
  | fuel + 1, path, arrayIndex, state => do
    let value ← readValue fuel (childPath path (natText arrayIndex)) state
    let atSeparator := value.skipWhitespace
    if atSeparator.at ',' then readItems fuel path (arrayIndex + 1) (atSeparator.advance 1)
    else if atSeparator.at ']' then .ok (atSeparator.advance 1)
    else fail atSeparator.toCursor "expected ',' or ']' in array"

end

def findStrictAdmissionViolations (text : JsString) :
    Except JsError (List StrictAdmissionViolation) := do
  let read ← readValue (2 * text.length + 1) [] ⟨⟨0, text⟩, []⟩
  let ended := read.skipWhitespace
  if ended.index ≠ text.length then
    fail ended.toCursor "unexpected trailing content after the top-level value"
  else return ended.violations

example : (findStrictAdmissionViolations
    (js "\x7b\"a\":1,\"\\u0061\":[9007199254740993]\x7d")).toOption.map
      (List.map StrictAdmissionViolation.rule) =
        some [.duplicate_object_key, .unsafe_integer_magnitude] := by
  decide +kernel

def StrictAdmissionRuleId.text : StrictAdmissionRuleId → JsString
  | duplicate_object_key => js "duplicate_object_key"
  | unsafe_integer_magnitude => js "unsafe_integer_magnitude"
  | excess_significant_digits => js "excess_significant_digits"

def StrictAdmissionViolation.toJs (violation : StrictAdmissionViolation) : JsValue :=
  .object [(js "rule", .string violation.rule.text), (js "offset", .number (.ofNat violation.offset)),
    (js "path", .string violation.path), (js "message", .string violation.message)]

def strictAdmissionError (violations : List StrictAdmissionViolation) : JsError :=
  let summary := join (js "; ") (violations.map fun violation =>
    violation.rule.text ++ js " at " ++ violation.path)
  ⟨.external (js "StrictAdmissionError"),
    js "Strict JSON admission rejected the document: " ++ summary,
    [(js "violations", .array (violations.map StrictAdmissionViolation.toJs)),
      (js "domain", .string (js "ghost_ark.strict_json_admission.v1"))]⟩

/-- `parseStrictJson(text)`; the engine words the error of `JSON.parse`. -/
def parseStrictJson (numbers : NumberText) (syntaxErrorMessage : JsString → JsString)
    (text : JsString) : Except JsError JsValue := do
  let violations ← findStrictAdmissionViolations text
  if violations.length > 0 then throw (strictAdmissionError violations)
  match parse numbers text with
  | none => throw ⟨syntaxError, syntaxErrorMessage text, []⟩
  | some value => return value

/-- `isStrictlyAdmissible(text)`. -/
def isStrictlyAdmissible (text : JsString) : Bool :=
  orFalse do
    let violations ← findStrictAdmissionViolations text
    return violations.length == 0

end GhostArk.ReceiptSchema
