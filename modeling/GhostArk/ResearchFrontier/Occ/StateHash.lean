import GhostArk.Js.Coercion
import GhostArk.Js.Collections
import GhostArk.ReceiptSchema.HashCanonicalization

/-!
Contract: `hashState` and `hashStateBlock` of `packages/research-frontier/src/occ/`.

Owns `JSON.stringify` of arbitrary values, plain and with the replacer that sorts
keys, with the values it leaves out and those it refuses, and the digest of a state
over the sorted text. The two source functions are one.

Does not own: texts of host objects with a `toJSON` or members of their own; they are
a parameter.
-/

namespace GhostArk.ResearchFrontier.Occ

open Js
open ReceiptSchema (sortEntries sha256Hex)

/-- `JSON.stringify` of a host object: a text, nothing, or an exception. -/
abbrev HostJson := HostKind → Except JsError (Option JsString)

/-- Members that have a text, in the order given; the first exception ends the list. -/
def textMembers : List (JsString × Except JsError (Option JsString)) →
    Except JsError (List (JsString × JsString))
  | [] => .ok []
  | (key, rendered) :: rest => do
    let text ← rendered
    let texts ← textMembers rest
    return match text with
      | some text => (key, text) :: texts
      | none => texts

section Stringify

variable (runtime : Runtime) (hostJson : HostJson)

/-- Whether the replacer puts the members of each object in order. Assigning `__proto__` to the
object it builds makes no member. -/
inductive Replacer where
  | none
  | sortsKeys

def Replacer.order {V : Type} : Replacer → List (JsString × V) → List (JsString × V)
  | none, members => objectOrder members
  | sortsKeys, members =>
    objectOrder (sortEntries (members.filter fun member => member.1 ≠ js "__proto__"))

mutual

/-- `JSON.stringify(value, replacer)`; nothing for a value without a text. -/
def stringify (replacer : Replacer) : JsValue → Except JsError (Option JsString)
  | .undefined => .ok none
  | .hole => .ok none
  | .null => .ok (some (js "null"))
  | .bool true => .ok (some (js "true"))
  | .bool false => .ok (some (js "false"))
  | .number value => .ok (some (runtime.numbers.json value))
  | .string value => .ok (some (quote value))
  | .array items => (stringifyItems replacer items).map fun texts => some (jsonArray texts)
  | .object entries =>
    (textMembers (replacer.order (stringifyEntries replacer entries))).map fun members =>
      some (jsonObject members)
  | .host .bigint => .error (typeError (js "Do not know how to serialize a BigInt"))
  | .host .function => .ok none
  | .host .symbol => .ok none
  | .host kind => hostJson kind

/-- Items without a text are written as `null`. -/
def stringifyItems (replacer : Replacer) : List JsValue → Except JsError (List JsString)
  | [] => .ok []
  | item :: rest => do
    let text ← stringify replacer item
    let texts ← stringifyItems replacer rest
    return text.getD (js "null") :: texts

def stringifyEntries (replacer : Replacer) : List (JsString × JsValue) →
    List (JsString × Except JsError (Option JsString))
  | [] => []
  | (key, value) :: rest => (key, stringify replacer value) :: stringifyEntries replacer rest

end

def hashState (value : JsValue) : Except JsError JsString :=
  match value with
  | .undefined => .ok (js "undefined")
  | value => do
    match ← stringify runtime hostJson .sortsKeys value with
    | some text => return sha256Hex runtime text
    | none => throw (typeError (js "The \"data\" argument must be of type string"))

/-- The value has a digest. -/
def Hashable (value : JsValue) : Prop := ∃ digest, hashState runtime hostJson value = .ok digest

end Stringify

end GhostArk.ResearchFrontier.Occ
