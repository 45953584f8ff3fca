import GhostArk.Js.Text
import Mathlib.Data.List.Nodup
import Mathlib.Data.Set.Function

/-!
Contract: the digest functions of the runtime's `crypto` module.

Owns SHA-256 and HMAC-SHA-256 as parameters with the shape of their hex
digests, and collision freedom on a given list of hashed strings. No global
injectivity is assumed: digests are 64 hex digits, so it would be false.
-/

namespace GhostArk.Js

/-- `createHash("sha256").update(input).digest("hex")`. -/
structure Sha256 where
  sha256Hex : JsString → JsString
  isHex64_sha256Hex : ∀ input, isHex64 (sha256Hex input) = true

/-- `createHmac("sha256", secret).update(input).digest("hex")`. -/
structure HmacSha256 where
  hmacHex : JsString → JsString → JsString
  isHex64_hmacHex : ∀ secret input, isHex64 (hmacHex secret input) = true

namespace Sha256

variable (sha256 : Sha256)

/-- No two different strings of `inputs` share a SHA-256 digest. -/
def CollisionFreeOn (inputs : List JsString) : Prop :=
  ∀ left ∈ inputs, ∀ right ∈ inputs, sha256.sha256Hex left = sha256.sha256Hex right →
    left = right

instance (inputs : List JsString) : Decidable (sha256.CollisionFreeOn inputs) :=
  inferInstanceAs (Decidable (∀ left ∈ inputs, ∀ right ∈ inputs, _ → _))

variable {sha256}

theorem CollisionFreeOn.mono {few many : List JsString} (clean : sha256.CollisionFreeOn many)
    (subset : few ⊆ many) : sha256.CollisionFreeOn few :=
  fun left leftMember right rightMember =>
    clean left (subset leftMember) right (subset rightMember)

variable {inputs : List JsString}

theorem CollisionFreeOn.of_table (table : List (JsString × JsString))
    (hashed : table.map (fun entry => sha256.sha256Hex entry.1) = table.map Prod.snd)
    (distinct : (table.map Prod.snd).Nodup) (covered : inputs ⊆ table.map Prod.fst) :
    sha256.CollisionFreeOn inputs := by
  intro left leftMember right rightMember same
  obtain ⟨leftEntry, leftIn, rfl⟩ := List.mem_map.mp (covered leftMember)
  obtain ⟨rightEntry, rightIn, rfl⟩ := List.mem_map.mp (covered rightMember)
  have digests : ∀ entry ∈ table, sha256.sha256Hex entry.1 = entry.2 :=
    List.map_inj_left.mp hashed
  rw [digests leftEntry leftIn, digests rightEntry rightIn] at same
  rw [List.inj_on_of_nodup_map distinct leftIn rightIn same]

theorem CollisionFreeOn.of_nodup (texts : List JsString)
    (distinct : (texts.map sha256.sha256Hex).Nodup) (covered : inputs ⊆ texts) :
    sha256.CollisionFreeOn inputs :=
  fun _ leftMember _ rightMember same =>
    List.inj_on_of_nodup_map distinct (covered leftMember) (covered rightMember) same

theorem CollisionFreeOn.of_head? (single : ∀ input ∈ inputs, inputs.head? = some input) :
    sha256.CollisionFreeOn inputs := by
  intro left leftMember right rightMember _
  exact Option.some.inj ((single left leftMember).symm.trans (single right rightMember))

end Sha256

end GhostArk.Js
