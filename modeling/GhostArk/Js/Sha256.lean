import Mathlib.Algebra.Group.Nat.Defs
import GhostArk.Js.Crypto

/-!
Contract: SHA-256 and HMAC-SHA-256 as the runtime's `crypto` module computes them.

Owns the UTF-8 encoding of ECMAScript strings (lone surrogates become U+FFFD),
padding, the message schedule, compression, the keyed digest and lowercase hex.
Words are natural numbers below `2 ^ 32`.

The general results take any `Sha256` and `HmacSha256`; these instances let
concrete inputs be evaluated.
-/

namespace GhostArk.Js

def utf8Scalar (scalar : Nat) : List Nat :=
  if scalar < 0x80 then [scalar]
  else if scalar < 0x800 then [0xC0 + scalar / 0x40, 0x80 + scalar % 0x40]
  else if scalar < 0x10000 then
    [0xE0 + scalar / 0x1000, 0x80 + scalar / 0x40 % 0x40, 0x80 + scalar % 0x40]
  else
    [0xF0 + scalar / 0x40000, 0x80 + scalar / 0x1000 % 0x40, 0x80 + scalar / 0x40 % 0x40,
      0x80 + scalar % 0x40]

/-- UTF-8 bytes of one code unit outside a surrogate pair. -/
def utf8Single (codeUnit : CodeUnit) : List Nat :=
  utf8Scalar (if isSurrogate codeUnit then 0xFFFD else codeUnit.val)

/-- `Buffer.from(value, "utf8")`. -/
def utf8 : JsString → List Nat
  | [] => []
  | [single] => utf8Single single
  | first :: second :: rest =>
    if isHighSurrogate first && isLowSurrogate second then
      utf8Scalar (surrogatePair first second) ++ utf8 rest
    else utf8Single first ++ utf8 (second :: rest)

namespace Fips180

def wordBound : Nat := 4294967296

def addWord (left right : Nat) : Nat := Nat.mod (Nat.add left right) wordBound

def rotateRight (word count : Nat) : Nat :=
  Nat.lor (Nat.shiftRight word count) (Nat.mod (Nat.shiftLeft word (32 - count)) wordBound)

def xor3 (first second third : Nat) : Nat := Nat.xor (Nat.xor first second) third

def roundConstants : List Nat :=
  [0x428a2f98, 0x71374491, 0xb5c0fbcf, 0xe9b5dba5, 0x3956c25b, 0x59f111f1, 0x923f82a4, 0xab1c5ed5,
   0xd807aa98, 0x12835b01, 0x243185be, 0x550c7dc3, 0x72be5d74, 0x80deb1fe, 0x9bdc06a7, 0xc19bf174,
   0xe49b69c1, 0xefbe4786, 0x0fc19dc6, 0x240ca1cc, 0x2de92c6f, 0x4a7484aa, 0x5cb0a9dc, 0x76f988da,
   0x983e5152, 0xa831c66d, 0xb00327c8, 0xbf597fc7, 0xc6e00bf3, 0xd5a79147, 0x06ca6351, 0x14292967,
   0x27b70a85, 0x2e1b2138, 0x4d2c6dfc, 0x53380d13, 0x650a7354, 0x766a0abb, 0x81c2c92e, 0x92722c85,
   0xa2bfe8a1, 0xa81a664b, 0xc24b8b70, 0xc76c51a3, 0xd192e819, 0xd6990624, 0xf40e3585, 0x106aa070,
   0x19a4c116, 0x1e376c08, 0x2748774c, 0x34b0bcb5, 0x391c0cb3, 0x4ed8aa4a, 0x5b9cca4f, 0x682e6ff3,
   0x748f82ee, 0x78a5636f, 0x84c87814, 0x8cc70208, 0x90befffa, 0xa4506ceb, 0xbef9a3f7, 0xc67178f2]

/-- The eight working variables. -/
structure State where
  a : Nat
  b : Nat
  c : Nat
  d : Nat
  e : Nat
  f : Nat
  g : Nat
  h : Nat

def initial : State :=
  ⟨0x6a09e667, 0xbb67ae85, 0x3c6ef372, 0xa54ff53a, 0x510e527f, 0x9b05688c, 0x1f83d9ab, 0x5be0cd19⟩

/-- One round; `input` is the round constant plus the schedule word. -/
def round (state : State) (input : Nat) : State :=
  let sum1 := xor3 (rotateRight state.e 6) (rotateRight state.e 11) (rotateRight state.e 25)
  let choose := Nat.xor (Nat.land state.e state.f)
    (Nat.land (Nat.xor state.e 0xFFFFFFFF) state.g)
  let first := addWord (addWord (addWord state.h sum1) choose) input
  let sum0 := xor3 (rotateRight state.a 2) (rotateRight state.a 13) (rotateRight state.a 22)
  let majority := xor3 (Nat.land state.a state.b) (Nat.land state.a state.c)
    (Nat.land state.b state.c)
  ⟨addWord first (addWord sum0 majority), state.a, state.b, state.c, addWord state.d first,
    state.e, state.f, state.g⟩

/-- The rounds of one block over a sliding window of sixteen schedule words. -/
def rounds : List Nat → List Nat → State → State
  | constant :: constants,
    [w0, w1, w2, w3, w4, w5, w6, w7, w8, w9, w10, w11, w12, w13, w14, w15], state =>
      let sigma0 := xor3 (rotateRight w1 7) (rotateRight w1 18) (Nat.shiftRight w1 3)
      let sigma1 := xor3 (rotateRight w14 17) (rotateRight w14 19) (Nat.shiftRight w14 10)
      let next := addWord (addWord (addWord w0 sigma0) w9) sigma1
      rounds constants
        [w1, w2, w3, w4, w5, w6, w7, w8, w9, w10, w11, w12, w13, w14, w15, next]
        (round state (addWord constant w0))
  | _, _, state => state

def compress (state : State) (block : List Nat) : State :=
  let final := rounds roundConstants block state
  ⟨addWord state.a final.a, addWord state.b final.b, addWord state.c final.c,
    addWord state.d final.d, addWord state.e final.e, addWord state.f final.f,
    addWord state.g final.g, addWord state.h final.h⟩

/-- Message bytes, the delimiter, zeros, and the bit length in eight bytes. -/
def pad (bytes : List Nat) : List Nat :=
  bytes ++ [0x80] ++ List.replicate ((119 - bytes.length % 64) % 64) 0 ++
    [56, 48, 40, 32, 24, 16, 8, 0].map fun shift => bytes.length * 8 / 2 ^ shift % 256

def words : List Nat → List Nat
  | b0 :: b1 :: b2 :: b3 :: rest =>
    (((b0 * 256 + b1) * 256 + b2) * 256 + b3) :: words rest
  | _ => []

def blocks : List Nat → State → State
  | w0 :: w1 :: w2 :: w3 :: w4 :: w5 :: w6 :: w7 :: w8 :: w9 :: w10 :: w11 :: w12 :: w13 :: w14 ::
    w15 :: rest, state =>
      blocks rest (compress state
        [w0, w1, w2, w3, w4, w5, w6, w7, w8, w9, w10, w11, w12, w13, w14, w15])
  | _, state => state

def hexWord (word : Nat) : JsString :=
  [28, 24, 20, 16, 12, 8, 4, 0].map fun shift => hexDigit (Fin.ofNat 16 (word / 2 ^ shift))

def State.words (state : State) : List Nat :=
  [state.a, state.b, state.c, state.d, state.e, state.f, state.g, state.h]

def digest (bytes : List Nat) : State := blocks (words (pad bytes)) initial

def State.hex (state : State) : JsString := state.words.flatMap hexWord

def State.bytes (state : State) : List Nat :=
  state.words.flatMap fun word => [24, 16, 8, 0].map fun shift => word / 2 ^ shift % 256

def hexDigest (input : JsString) : JsString := (digest (utf8 input)).hex

theorem isHex64_hex (state : State) : isHex64 state.hex = true := by
  have digits : ∀ word, ∀ digit ∈ hexWord word, isLowerHex digit = true := by
    intro word digit member
    obtain ⟨shift, -, rfl⟩ := List.mem_map.mp member
    exact isLowerHex_hexDigit _
  have width : state.hex.length = 64 := by
    simp [State.hex, State.words, hexWord]
  rw [isHex64, width, beq_self_eq_true, Bool.true_and, List.all_eq_true]
  intro digit member
  obtain ⟨word, -, inWord⟩ := List.mem_flatMap.mp member
  exact digits word digit inWord

/-- The key in one block: hashed if it is longer, then filled with zeros. -/
def keyBlock (key : List Nat) : List Nat :=
  let short := if key.length ≤ 64 then key else (digest key).bytes
  short ++ List.replicate (64 - short.length) 0

def hmac (key message : List Nat) : State :=
  let masked (mask : Nat) : List Nat := (keyBlock key).map (Nat.xor mask)
  digest (masked 0x5c ++ (digest (masked 0x36 ++ message)).bytes)

end Fips180

def fips180 : Sha256 where
  sha256Hex := Fips180.hexDigest
  isHex64_sha256Hex := fun input => Fips180.isHex64_hex (Fips180.digest (utf8 input))

def fips198 : HmacSha256 where
  hmacHex := fun secret input => (Fips180.hmac (utf8 secret) (utf8 input)).hex
  isHex64_hmacHex := fun secret input =>
    Fips180.isHex64_hex (Fips180.hmac (utf8 secret) (utf8 input))

example : fips180.sha256Hex (js "abc") =
    js "ba7816bf8f01cfea414140de5dae2223b00361a396177a9cb410ff61f20015ad" := by
  decide +kernel

example : fips198.hmacHex (js "Jefe") (js "what do ya want for nothing?") =
    js "5bdcc146bf60754e6a042426089575c75a003f089d2739839dec58b964ec3843" := by
  decide +kernel

end GhostArk.Js
