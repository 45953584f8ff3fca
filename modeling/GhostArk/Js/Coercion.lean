import GhostArk.Js.Value

/-!
Contract: `ToString` of ECMAScript values.

Owns the text that `RegExp.prototype.test` and template literals read from a
value that is not a string, the error thrown when an object has none, the tests
for objects, and the values that `for … of` takes from a value.

Does not own: host objects. Their texts are a parameter.
-/

namespace GhostArk.Js

def typeError (message : JsString) : JsError := ⟨.external (js "TypeError"), message, []⟩

/-- The error for an object without a callable `toString`. -/
def cannotConvertError : JsError := typeError (js "Cannot convert object to primitive value")

/-- Texts of values beyond JSON. -/
structure Coercion where
  numbers : NumberText
  hostText : HostKind → Except JsError JsString

namespace Coercion

variable (coercion : Coercion)

mutual

/-- `String(value)`. A member named `toString` of a JSON object is never a function. -/
def toText : JsValue → Except JsError JsString
  | .undefined => .ok (js "undefined")
  | .hole => .ok (js "undefined")
  | .null => .ok (js "null")
  | .bool true => .ok (js "true")
  | .bool false => .ok (js "false")
  | .number value => .ok (coercion.numbers.string value)
  | .string value => .ok value
  | .array items => (elementTexts items).map (join (js ","))
  | .object entries =>
    if entries.any fun entry => entry.1 == js "toString" then .error cannotConvertError
    else .ok (js "[object Object]")
  | .host kind => coercion.hostText kind

/-- The texts that `Array.prototype.join` puts together. -/
def elementTexts : List JsValue → Except JsError (List JsString)
  | [] => .ok []
  | item :: rest => do
    let text ←
      match item with
      | .undefined => pure []
      | .hole => pure []
      | .null => pure []
      | item => toText item
    return text :: (← elementTexts rest)

end

/-- `/pattern/.test(value)`. -/
def test (pattern : JsString → Bool) (value : JsValue) : Except JsError Bool :=
  (coercion.toText value).map pattern

@[simp] theorem test_string (pattern : JsString → Bool) (text : JsString) :
    coercion.test pattern (.string text) = .ok (pattern text) := by
  rw [test, toText]
  rfl

end Coercion

/-- The members of a value that is truthy and of type `"object"`; those of an array are not
named. -/
def objectMembers : JsValue → Option (List (JsString × JsValue))
  | .object entries => some entries
  | .array _ => some []
  | .host .bigint => none
  | .host .function => none
  | .host .symbol => none
  | .host _ => some []
  | _ => none

/-- The members of a value that is truthy, of type `"object"`, and not an array. -/
def recordEntries : JsValue → Option (List (JsString × JsValue))
  | .array _ => none
  | value => objectMembers value

/-- The characters of a string: a surrogate pair is one of them. -/
def characters : JsString → List JsString
  | [] => []
  | [single] => [[single]]
  | first :: second :: rest =>
    if isHighSurrogate first && isLowSurrogate second then [first, second] :: characters rest
    else [first] :: characters (second :: rest)

/-- The values of `for (const item of value)`; `name` is the expression's text. -/
def iterate (name : JsString) : JsValue → Except JsError (List JsValue)
  | .array items => .ok items
  | .string text => .ok ((characters text).map .string)
  | _ => .error (typeError (name ++ js " is not iterable"))

end GhostArk.Js
