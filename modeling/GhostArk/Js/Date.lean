import GhostArk.Js.Value

/-!
Contract: `Date.parse` on UTC date-time strings.

Owns the value of `YYYY-MM-DDTHH:MM:SSZ`, with or without a fraction of a
second, in milliseconds since 1970. Other formats are not read. The general
results take any `DateParser`; this instance lets concrete inputs be evaluated.
-/

namespace GhostArk.Js.Date

def digitsValue (text : JsString) : Option Nat :=
  if text ≠ [] ∧ text.all isDigit then
    some (text.foldl (fun value digit => value * 10 + (digit.val - 48)) 0)
  else none

def isLeapYear (year : Nat) : Bool := year % 4 = 0 && (year % 100 ≠ 0 || year % 400 = 0)

def daysInMonth (year month : Nat) : Nat :=
  if month = 2 then (if isLeapYear year then 29 else 28)
  else if month ∈ [4, 6, 9, 11] then 30 else 31

/-- Days before 1 January of `year`, counted from year 0. -/
def daysBeforeYear (year : Nat) : Nat :=
  year * 365 + (year + 3) / 4 - (year + 99) / 100 + (year + 399) / 400

def daysBeforeMonth (year month : Nat) : Nat :=
  ((List.range month).drop 1).foldl (fun days earlier => days + daysInMonth year earlier) 0

def fractionMillis (text : JsString) : Option Nat :=
  match text with
  | [] => some 0
  | point :: digits =>
    if point = unit '.' then
      (digitsValue digits).bind fun _ => digitsValue ((digits ++ js "00").take 3)
    else none

def parseUtc (text : JsString) : Option Int := do
  let field (start width : Nat) : Option Nat := digitsValue ((text.drop start).take width)
  let year ← field 0 4
  let month ← field 5 2
  let day ← field 8 2
  let hour ← field 11 2
  let minute ← field 14 2
  let second ← field 17 2
  let separators := [4, 7, 10, 13, 16].map fun index => text[index]?
  guard (separators = [some (unit '-'), some (unit '-'), some (unit 'T'), some (unit ':'),
    some (unit ':')] ∧ text.getLast? = some (unit 'Z'))
  let millis ← fractionMillis ((text.drop 19).dropLast)
  guard (1 ≤ month ∧ month ≤ 12 ∧ 1 ≤ day ∧ day ≤ daysInMonth year month ∧ hour ≤ 23 ∧
    minute ≤ 59 ∧ second ≤ 59)
  let days : Int := daysBeforeYear year + daysBeforeMonth year month + day - 1 -
    daysBeforeYear 1970
  return ((days * 24 + hour) * 60 + minute) * 60000 + second * 1000 + millis

end GhostArk.Js.Date

namespace GhostArk.Js

def utcDates : DateParser where
  parse text :=
    match Date.parseUtc text with
    | some millis => .finite millis
    | none => .nan

example : utcDates.parse (js "2026-07-01T12:34:56.789Z") = .finite 1782909296789 := by
  decide +kernel

end GhostArk.Js
