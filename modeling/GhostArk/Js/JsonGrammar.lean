import Mathlib.Algebra.Order.Field.Power
import Mathlib.Data.Rat.Cast.Order
import GhostArk.Js.Json

/-!
Contract: the grammar of RFC 8259, over code points.

Owns concrete syntax trees that can only be built from what the grammar allows
(blanks, numbers, string characters, arrays, objects), the code points that a
tree is written with, and what it denotes: the keys of its objects, its number
literals, its nesting depth, and its value with every member kept.

A text is JSON when it is the writing of a tree. A surrogate can stand in a
string as a code point of its own, as in an ECMAScript string.
-/

namespace GhostArk.Js.JsonGrammar

/-- Code points as an ECMAScript string. -/
def asText (points : List Nat) : JsString := points.flatMap utf16

theorem asText_nil : asText [] = [] := rfl

theorem asText_append (left right : List Nat) :
    asText (left ++ right) = asText left ++ asText right :=
  List.flatMap_append

theorem utf16_of_lt {point : Nat} (basic : point < 0x10000) :
    utf16 point = [Fin.ofNat 65536 point] := by
  rw [utf16, if_pos basic]

theorem asText_cons {point : Nat} (basic : point < 0x10000) (rest : List Nat) :
    asText (point :: rest) = Fin.ofNat 65536 point :: asText rest := by
  rw [asText, List.flatMap_cons, utf16_of_lt basic]
  rfl

abbrev Blank := {points : List Nat // ∀ point ∈ points, point ∈ [0x20, 0x09, 0x0A, 0x0D]}

/-! ### Numbers -/

abbrev Digit := Fin 10

/-- Digits are written as numerals. -/
instance digit_numerals : NeZero 10 := ⟨by decide⟩

/-- First digits, too. -/
instance firstDigit_numerals : NeZero 9 := ⟨by decide⟩

def digitPoint (digit : Digit) : Nat := '0'.toNat + digit.val

def digitPoints (digits : List Digit) : List Nat := digits.map digitPoint

/-- `1*DIGIT`. -/
structure Digits where
  first : Digit
  rest : List Digit
deriving DecidableEq, Repr

def Digits.all (digits : Digits) : List Digit := digits.first :: digits.rest

/-- `int`: zero, or digits of which the first is `first + 1`. -/
inductive IntegerPart where
  | zero
  | nonzero (first : Fin 9) (rest : List Digit)
deriving DecidableEq, Repr

def IntegerPart.digits : IntegerPart → List Digit
  | zero => [0]
  | nonzero first rest => first.succ :: rest

/-- `exp`. The sign is that of `-` if it is true. -/
structure ExponentPart where
  upper : Bool
  sign : Option Bool
  digits : Digits
deriving DecidableEq, Repr

def ExponentPart.points (exponent : ExponentPart) : List Nat :=
  (if exponent.upper then 'E' else 'e').toNat ::
    (match exponent.sign with
      | none => []
      | some negative => [(if negative then '-' else '+').toNat]) ++
    digitPoints exponent.digits.all

/-- `number`. -/
structure NumberLiteral where
  minus : Bool
  integer : IntegerPart
  fraction : Option Digits
  exponent : Option ExponentPart
deriving DecidableEq, Repr

namespace NumberLiteral

def fractionPoints (literal : NumberLiteral) : List Nat :=
  match literal.fraction with
  | none => []
  | some digits => '.'.toNat :: digitPoints digits.all

def exponentPoints (literal : NumberLiteral) : List Nat :=
  match literal.exponent with
  | none => []
  | some exponent => exponent.points

def points (literal : NumberLiteral) : List Nat :=
  (if literal.minus then ['-'.toNat] else []) ++ digitPoints literal.integer.digits ++
    literal.fractionPoints ++ literal.exponentPoints

def text (literal : NumberLiteral) : JsString := asText literal.points

/-- Written with neither a fraction nor an exponent. -/
def IsPlain (literal : NumberLiteral) : Prop := literal.fraction = none ∧ literal.exponent = none

instance (literal : NumberLiteral) : Decidable literal.IsPlain :=
  inferInstanceAs (Decidable (_ ∧ _))

def significand (literal : NumberLiteral) : List Digit :=
  literal.integer.digits ++ (literal.fraction.elim [] Digits.all)

def digitsValue (digits : List Digit) : ℕ :=
  digits.foldl (fun value digit => value * 10 + digit.val) 0

def exponentValue (literal : NumberLiteral) : ℤ :=
  match literal.exponent with
  | none => 0
  | some exponent =>
    if exponent.sign = some true then -digitsValue exponent.digits.all
    else digitsValue exponent.digits.all

def value (literal : NumberLiteral) : ℚ :=
  let magnitude : ℚ := digitsValue literal.significand *
    10 ^ (literal.exponentValue - (literal.fraction.elim [] Digits.all).length)
  if literal.minus then -magnitude else magnitude

end NumberLiteral

/-- The letters after a reverse solidus, less `u`. -/
inductive SimpleEscape where
  | quotationMark
  | reverseSolidus
  | solidus
  | backspace
  | formFeed
  | lineFeed
  | carriageReturn
  | tab
deriving DecidableEq, Repr

namespace SimpleEscape

def letter : SimpleEscape → Nat
  | quotationMark => '"'.toNat
  | reverseSolidus => '\\'.toNat
  | solidus => '/'.toNat
  | backspace => 'b'.toNat
  | formFeed => 'f'.toNat
  | lineFeed => 'n'.toNat
  | carriageReturn => 'r'.toNat
  | tab => 't'.toNat

def value : SimpleEscape → CodeUnit
  | quotationMark => 0x22
  | reverseSolidus => 0x5C
  | solidus => 0x2F
  | backspace => 0x08
  | formFeed => 0x0C
  | lineFeed => 0x0A
  | carriageReturn => 0x0D
  | tab => 0x09

end SimpleEscape

/-- `HEXDIG`, of either case. -/
structure HexDigit where
  value : Fin 16
  upper : Bool
deriving DecidableEq, Repr

def HexDigit.point (digit : HexDigit) : Nat :=
  if digit.value.val < 10 then '0'.toNat + digit.value.val
  else (if digit.upper then 'A' else 'a').toNat + (digit.value.val - 10)

def isUnescaped (point : Nat) : Bool :=
  0x20 ≤ point && point != '"'.toNat && point != '\\'.toNat && point ≤ 0x10FFFF

/-- `char`. -/
inductive CharToken where
  | unescaped (point : Nat) (allowed : isUnescaped point = true)
  | escape (escaped : SimpleEscape)
  | unicode (d3 d2 d1 d0 : HexDigit)

namespace CharToken

def points : CharToken → List Nat
  | unescaped point _ => [point]
  | escape escaped => ['\\'.toNat, escaped.letter]
  | unicode d3 d2 d1 d0 => ['\\'.toNat, 'u'.toNat, d3.point, d2.point, d1.point, d0.point]

/-- The code unit of a `\u` escape. -/
def escapedUnit (d3 d2 d1 d0 : HexDigit) : CodeUnit :=
  Fin.ofNat 65536 (d3.value.val * 4096 + d2.value.val * 256 + d1.value.val * 16 + d0.value.val)

def value : CharToken → JsString
  | unescaped point _ => utf16 point
  | escape escaped => [escaped.value]
  | unicode d3 d2 d1 d0 => [escapedUnit d3 d2 d1 d0]

end CharToken

def charPoints (chars : List CharToken) : List Nat := chars.flatMap CharToken.points

def stringPoints (chars : List CharToken) : List Nat :=
  '"'.toNat :: (charPoints chars ++ ['"'.toNat])

def stringValue (chars : List CharToken) : JsString := chars.flatMap CharToken.value

mutual

/-- `value`. -/
inductive JsonValue where
  | null
  | bool (value : Bool)
  | number (literal : NumberLiteral)
  | string (chars : List CharToken)
  | emptyArray (blank : Blank)
  | array (items : JsonItems)
  | emptyObject (blank : Blank)
  | object (members : JsonMembers)

/-- One or more values with commas between them. -/
inductive JsonItems where
  | last (before : Blank) (value : JsonValue) (after : Blank)
  | more (before : Blank) (value : JsonValue) (after : Blank) (rest : JsonItems)

/-- One or more members with commas between them. -/
inductive JsonMembers where
  | last (beforeKey : Blank) (key : List CharToken) (afterKey before : Blank) (value : JsonValue)
      (after : Blank)
  | more (beforeKey : Blank) (key : List CharToken) (afterKey before : Blank) (value : JsonValue)
      (after : Blank) (rest : JsonMembers)

end

def keywordPoints (keyword : String) : List Nat := keyword.toList.map Char.toNat

mutual

def JsonValue.points : JsonValue → List Nat
  | .null => keywordPoints "null"
  | .bool true => keywordPoints "true"
  | .bool false => keywordPoints "false"
  | .number literal => literal.points
  | .string chars => stringPoints chars
  | .emptyArray blank => '['.toNat :: (blank.val ++ [']'.toNat])
  | .array items => '['.toNat :: (items.points ++ [']'.toNat])
  | .emptyObject blank => '\x7b'.toNat :: (blank.val ++ ['\x7d'.toNat])
  | .object members => '\x7b'.toNat :: (members.points ++ ['\x7d'.toNat])

def JsonItems.points : JsonItems → List Nat
  | .last before value after => before.val ++ (value.points ++ after.val)
  | .more before value after rest =>
    before.val ++ (value.points ++ (after.val ++ ','.toNat :: rest.points))

def JsonMembers.points : JsonMembers → List Nat
  | .last beforeKey key afterKey before value after =>
    beforeKey.val ++ (stringPoints key ++ (afterKey.val ++
      ':'.toNat :: (before.val ++ (value.points ++ after.val))))
  | .more beforeKey key afterKey before value after rest =>
    beforeKey.val ++ (stringPoints key ++ (afterKey.val ++
      ':'.toNat :: (before.val ++ (value.points ++ (after.val ++ ','.toNat :: rest.points)))))

end

/-- `JSON-text`. -/
structure Document where
  before : Blank
  value : JsonValue
  after : Blank

def Document.points (document : Document) : List Nat :=
  document.before.val ++ (document.value.points ++ document.after.val)

def Document.text (document : Document) : JsString := asText document.points

def JsonMembers.keys : JsonMembers → List JsString
  | .last _ key _ _ _ _ => [stringValue key]
  | .more _ key _ _ _ _ rest => stringValue key :: rest.keys

mutual

/-- The keys of every object, at any depth. -/
def JsonValue.objects : JsonValue → List (List JsString)
  | .array items => items.objects
  | .emptyObject _ => [[]]
  | .object members => members.keys :: members.objects
  | _ => []

def JsonItems.objects : JsonItems → List (List JsString)
  | .last _ value _ => value.objects
  | .more _ value _ rest => value.objects ++ rest.objects

def JsonMembers.objects : JsonMembers → List (List JsString)
  | .last _ _ _ _ value _ => value.objects
  | .more _ _ _ _ value _ rest => value.objects ++ rest.objects

end

/-- No object has two members of one key. -/
def JsonValue.KeysDistinct (value : JsonValue) : Prop := ∀ keys ∈ value.objects, keys.Nodup

mutual

def JsonValue.literals : JsonValue → List NumberLiteral
  | .number literal => [literal]
  | .array items => items.literals
  | .object members => members.literals
  | _ => []

def JsonItems.literals : JsonItems → List NumberLiteral
  | .last _ value _ => value.literals
  | .more _ value _ rest => value.literals ++ rest.literals

def JsonMembers.literals : JsonMembers → List NumberLiteral
  | .last _ _ _ _ value _ => value.literals
  | .more _ _ _ _ value _ rest => value.literals ++ rest.literals

end

mutual

def JsonValue.depth : JsonValue → Nat
  | .array items => items.depth + 1
  | .object members => members.depth + 1
  | _ => 1

def JsonItems.depth : JsonItems → Nat
  | .last _ value _ => value.depth
  | .more _ value _ rest => max value.depth rest.depth

def JsonMembers.depth : JsonMembers → Nat
  | .last _ _ _ _ value _ => value.depth
  | .more _ _ _ _ value _ rest => max value.depth rest.depth

end

section Value

variable (numbers : NumberText)

mutual

/-- The value of a tree, with every member of every object kept as it is written. -/
def JsonValue.written : JsonValue → JsValue
  | .null => .null
  | .bool value => .bool value
  | .number literal => .number (numbers.ofText literal.text)
  | .string chars => .string (stringValue chars)
  | .emptyArray _ => .array []
  | .array items => .array items.written
  | .emptyObject _ => .object []
  | .object members => .object members.written

def JsonItems.written : JsonItems → List JsValue
  | .last _ value _ => [value.written]
  | .more _ value _ rest => value.written :: rest.written

def JsonMembers.written : JsonMembers → List (JsString × JsValue)
  | .last _ key _ _ value _ => [(stringValue key, value.written)]
  | .more _ key _ _ value _ rest => (stringValue key, value.written) :: rest.written

end

mutual

/-- The value of a tree, where the last member of a key wins. -/
def JsonValue.resolved : JsonValue → JsValue
  | .null => .null
  | .bool value => .bool value
  | .number literal => .number (numbers.ofText literal.text)
  | .string chars => .string (stringValue chars)
  | .emptyArray _ => .array []
  | .array items => .array items.resolved
  | .emptyObject _ => .object []
  | .object members => .object (members.resolved.foldl setMember [])

def JsonItems.resolved : JsonItems → List JsValue
  | .last _ value _ => [value.resolved]
  | .more _ value _ rest => value.resolved :: rest.resolved

def JsonMembers.resolved : JsonMembers → List (JsString × JsValue)
  | .last _ key _ _ value _ => [(stringValue key, value.resolved)]
  | .more _ key _ _ value _ rest => (stringValue key, value.resolved) :: rest.resolved

end

end Value

end GhostArk.Js.JsonGrammar
