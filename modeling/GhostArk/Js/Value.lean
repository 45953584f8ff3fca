import GhostArk.Js.Crypto
import GhostArk.Js.Number

/-!
Contract: ECMAScript values, thrown errors and host functions.

Owns the value type that untyped inputs (`unknown`) range over, errors with
their class name, message and context record, and the host functions that the
modelled code takes as a parameter.

A hole of a sparse array is a value of its own here, as is every host object
that the canonical serializer names when it refuses one.
-/

namespace GhostArk.Js

/-- Host values that are not JSON-shaped. -/
inductive HostKind where
  | bigint
  | function
  | symbol
  | date
  | buffer
  | binaryView (constructorName : JsString)
  | mapOrSet (constructorName : JsString)
  | classInstance (constructorName : JsString)
deriving DecidableEq, Repr

inductive JsValue where
  | undefined
  | null
  | bool (value : Bool)
  | number (value : JsNumber)
  | string (value : JsString)
  | array (items : List JsValue)
  | object (entries : List (JsString × JsValue))
  | hole
  | host (kind : HostKind)

/-- Classes of thrown errors. -/
inductive ErrorName where
  | error
  | validationError
  | integrityCollisionError
  | chainHeadConflictError
  | uriError
  | zodError
  | external (name : JsString)
deriving DecidableEq, Repr

structure JsError where
  name : ErrorName
  message : JsString
  context : List (JsString × JsValue)

def JsError.plain (message : JsString) : JsError := ⟨.error, message, []⟩

def orFalse : Except JsError Bool → Bool
  | .ok value => value
  | .error _ => false

@[simp] theorem orFalse_ok (value : Bool) : orFalse (.ok value) = value := rfl

@[simp] theorem orFalse_error (error : JsError) : orFalse (.error error) = false := rfl

theorem orFalse_eq_true {outcome : Except JsError Bool} :
    orFalse outcome = true ↔ outcome = .ok true := by
  cases outcome <;> simp

/-- A sequence returns exactly if both parts do. -/
theorem bind_eq_ok {α β : Type} {first : Except JsError α} {next : α → Except JsError β}
    {result : β} :
    (first >>= next) = .ok result ↔ ∃ value, first = .ok value ∧ next value = .ok result := by
  cases first <;> simp [bind, Except.bind]

@[simp] theorem ok_bind {α β : Type} (value : α) (next : α → Except JsError β) :
    (Except.ok value >>= next) = next value := rfl

@[simp] theorem error_bind {α β : Type} (error : JsError) (next : α → Except JsError β) :
    (Except.error error >>= next) = .error error := rfl

@[simp] theorem pure_eq_ok {α : Type} {value result : α} :
    (pure value : Except JsError α) = .ok result ↔ value = result := by
  simp [pure, Except.pure]

@[simp] theorem throw_ne_ok {α : Type} {error : JsError} {result : α} :
    (throw error : Except JsError α) ≠ .ok result := by
  simp [throw, throwThe, MonadExceptOf.throw]

theorem check_eq_ok {α : Type} {fires : Prop} [Decidable fires] {error : JsError}
    {next : PUnit → Except JsError α} {result : α} :
    (if fires then throw error >>= next else next ⟨⟩) = .ok result ↔
      ¬ fires ∧ next ⟨⟩ = .ok result := by
  by_cases isFired : fires
  · rw [if_pos isFired]
    exact iff_of_false (fun returned => by cases returned) fun both => both.1 isFired
  · rw [if_neg isFired]
    exact (and_iff_right isFired).symm

theorem eq_ok_of_toOption {α : Type} {outcome : Except JsError α} {value : α}
    (returned : outcome.toOption = some value) : outcome = .ok value := by
  cases outcome with
  | ok found => simpa [Except.toOption] using returned
  | error error => simp [Except.toOption] at returned

theorem exists_eq_ok {α : Type} {outcome : Except JsError α} (returned : outcome.toBool = true) :
    ∃ value, outcome = .ok value := by
  cases outcome with
  | ok found => exact ⟨found, rfl⟩
  | error error => simp [Except.toBool] at returned

theorem exists_ok_of_any {ε α : Type} {outcome : Except ε α} {test : α → Bool}
    (tested : outcome.toOption.any test = true) :
    ∃ value, outcome = .ok value ∧ test value = true := by
  cases outcome with
  | ok value => exact ⟨value, rfl, tested⟩
  | error error => cases tested

/-- `Date.parse`: a time value in milliseconds, or NaN. The format accepted
beyond ISO 8601 is the runtime's own. -/
structure DateParser where
  parse : JsString → JsNumber

structure Runtime where
  sha256 : Sha256
  numbers : NumberText
  dates : DateParser
  /-- `createVerify("sha256")` over a payload, then `verify(publicKeyPem, signature, "base64")`.
  A public key that does not load makes it throw. -/
  verifySignature : (payload signature publicKeyPem : JsString) → Except JsError Bool

end GhostArk.Js
