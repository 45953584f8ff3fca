import GhostArk.Js.Sha256

/-!
Contract: SHA-256 with the schedule window in sixteen variables.

Owns the rounds over such a window, that they are the rounds of the list, and the two instances that
concrete inputs are evaluated with: taking a list of sixteen words apart in each round is what costs.

Does not own: the words, the message, or the digest.
-/

namespace GhostArk.Js

namespace Fips180

/-- `rounds` over sixteen variables. -/
def windowRounds : List Nat →
    (w0 w1 w2 w3 w4 w5 w6 w7 w8 w9 w10 w11 w12 w13 w14 w15 : Nat) → State → State
  | [], _, _, _, _, _, _, _, _, _, _, _, _, _, _, _, _, state => state
  | constant :: constants,
    w0, w1, w2, w3, w4, w5, w6, w7, w8, w9, w10, w11, w12, w13, w14, w15, state =>
      let sigma0 := xor3 (rotateRight w1 7) (rotateRight w1 18) (Nat.shiftRight w1 3)
      let sigma1 := xor3 (rotateRight w14 17) (rotateRight w14 19) (Nat.shiftRight w14 10)
      let next := addWord (addWord (addWord w0 sigma0) w9) sigma1
      windowRounds constants w1 w2 w3 w4 w5 w6 w7 w8 w9 w10 w11 w12 w13 w14 w15 next
        (round state (addWord constant w0))

theorem rounds_eq_windowRounds (constants : List Nat)
    (w0 w1 w2 w3 w4 w5 w6 w7 w8 w9 w10 w11 w12 w13 w14 w15 : Nat) (state : State) :
    rounds constants [w0, w1, w2, w3, w4, w5, w6, w7, w8, w9, w10, w11, w12, w13, w14, w15] state =
      windowRounds constants w0 w1 w2 w3 w4 w5 w6 w7 w8 w9 w10 w11 w12 w13 w14 w15 state := by
  induction constants generalizing w0 w1 w2 w3 w4 w5 w6 w7 w8 w9 w10 w11 w12 w13 w14 w15 state with
  | nil => rfl
  | cons constant constants ih =>
    rw [rounds, windowRounds]
    exact ih ..

def windowCompress (state : State)
    (w0 w1 w2 w3 w4 w5 w6 w7 w8 w9 w10 w11 w12 w13 w14 w15 : Nat) : State :=
  let final := windowRounds roundConstants w0 w1 w2 w3 w4 w5 w6 w7 w8 w9 w10 w11 w12 w13 w14 w15
    state
  ⟨addWord state.a final.a, addWord state.b final.b, addWord state.c final.c,
    addWord state.d final.d, addWord state.e final.e, addWord state.f final.f,
    addWord state.g final.g, addWord state.h final.h⟩

def windowBlocks : List Nat → State → State
  | w0 :: w1 :: w2 :: w3 :: w4 :: w5 :: w6 :: w7 :: w8 :: w9 :: w10 :: w11 :: w12 :: w13 :: w14 ::
    w15 :: rest, state =>
      windowBlocks rest
        (windowCompress state w0 w1 w2 w3 w4 w5 w6 w7 w8 w9 w10 w11 w12 w13 w14 w15)
  | _, state => state

theorem blocks_eq_windowBlocks (words : List Nat) (state : State) :
    blocks words state = windowBlocks words state := by
  fun_induction blocks words state with
  | case1 state w0 w1 w2 w3 w4 w5 w6 w7 w8 w9 w10 w11 w12 w13 w14 w15 rest ih =>
    rw [windowBlocks, windowCompress, ← rounds_eq_windowRounds, ih, compress]
  | case2 state words short => rw [windowBlocks]; exact short

def windowDigest (bytes : List Nat) : State := windowBlocks (words (pad bytes)) initial

theorem digest_eq_windowDigest (bytes : List Nat) : digest bytes = windowDigest bytes :=
  blocks_eq_windowBlocks (words (pad bytes)) initial

def windowKeyBlock (key : List Nat) : List Nat :=
  let short := if key.length ≤ 64 then key else (windowDigest key).bytes
  short ++ List.replicate (64 - short.length) 0

def windowHmac (key message : List Nat) : State :=
  let masked (mask : Nat) : List Nat := (windowKeyBlock key).map (Nat.xor mask)
  windowDigest (masked 0x5c ++ (windowDigest (masked 0x36 ++ message)).bytes)

theorem hmac_eq_windowHmac (key message : List Nat) : hmac key message = windowHmac key message := by
  rw [hmac, windowHmac, keyBlock, windowKeyBlock]
  simp only [digest_eq_windowDigest]

end Fips180

/-- `fips180` for evaluation. -/
def windowSha256 : Sha256 where
  sha256Hex := fun input => (Fips180.windowDigest (utf8 input)).hex
  isHex64_sha256Hex := fun input => Fips180.isHex64_hex (Fips180.windowDigest (utf8 input))

/-- `fips198` for evaluation. -/
def windowHmacSha256 : HmacSha256 where
  hmacHex := fun secret input => (Fips180.windowHmac (utf8 secret) (utf8 input)).hex
  isHex64_hmacHex := fun secret input =>
    Fips180.isHex64_hex (Fips180.windowHmac (utf8 secret) (utf8 input))

theorem fips180_eq_window : fips180 = windowSha256 := by
  have sameDigests : Fips180.hexDigest = fun input => (Fips180.windowDigest (utf8 input)).hex := by
    funext input
    rw [Fips180.hexDigest, Fips180.digest_eq_windowDigest]
  unfold fips180 windowSha256
  congr

theorem fips198_eq_window : fips198 = windowHmacSha256 := by
  unfold fips198 windowHmacSha256
  simp only [Fips180.hmac_eq_windowHmac]

end GhostArk.Js
