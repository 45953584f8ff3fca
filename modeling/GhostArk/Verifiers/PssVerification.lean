import GhostArk.Js.Sha256
import GhostArk.Lib.EmsaPss
import Mathlib.Algebra.Order.Floor.Semiring
import Mathlib.Data.Rat.Floor
import Mathlib.Tactic.Linarith

/-!
Contract: the hand-written RSA-PSS encoding checks of
`verifiers/python/ghost_receipt_verify.py` and `verifiers/node/ghost_receipt_verify.mjs`.

Owns both mask generation loops, both verification functions with the errors
they can raise, their agreement on every input, and their exactness: they accept
the EMSA-PSS encodings of the message hash, and nothing else.

Does not own: modular exponentiation, key parsing, or the report of a verifier.
-/

namespace GhostArk.Verifiers

open Lib.EmsaPss

/-- SHA-256 on bytes, as a function to digests of 32 bytes. -/
structure Sha256Digest where
  digest : List Byte → List Byte
  length_digest : ∀ message, (digest message).length = 32

/-- A counter as four bytes, in either language; `none` stands for the error beyond its range. -/
def fourBytes (counter : Nat) : Option (List Byte) :=
  if counter < 2 ^ 32 then some (counterBytes counter) else none

namespace Python

section Pss

variable (sha256 : Sha256Digest)

/-- `while len(output) < mask_length`. -/
def mgf1Loop (seed : List Byte) (mask_length : Nat) : Nat → Nat → List Byte → Option (List Byte)
  | 0, _, _ => none
  | fuel + 1, counter, output =>
    if output.length < mask_length then do
      let encoded ← fourBytes counter
      mgf1Loop seed mask_length fuel (counter + 1) (output ++ sha256.digest (seed ++ encoded))
    else some (output.take mask_length)

def mgf1Sha256 (seed : List Byte) (mask_length : Nat) : Option (List Byte) :=
  mgf1Loop sha256 seed mask_length (mask_length + 1) 0 []

/-- `if top_bits: db = bytes([db[0] & (0xFF >> top_bits)]) + db[1:]`. -/
def maskFirst (top_bits : Nat) (db : List Byte) : Option (List Byte) :=
  if top_bits = 0 then some db
  else
    match db with
    | [] => none
    | first :: rest => some ((first &&& (0xFF#8 >>> top_bits)) :: rest)

/-- `_emsa_pss_verify_sha256`; `none` stands for a raised error. -/
def emsaPssVerifySha256 (m_hash em : List Byte) (em_bits salt_length : Nat) : Option Bool :=
  let h_len := 32
  let em_len := (em_bits + 7) / 8
  if m_hash.length ≠ h_len ∨ em.length ≠ em_len then some false
  else if em_len < h_len + salt_length + 2 then some false
  else if em.getLast? ≠ some 0xBC then some false
  else
    let masked_db := em.take (em_len - h_len - 1)
    let h_value := (em.take (em_len - 1)).drop (em_len - h_len - 1)
    let top_bits := 8 * em_len - em_bits
    if top_bits ≠ 0 ∧ masked_db.headD 0 >>> (8 - top_bits) ≠ 0 then some false
    else do
      let db_mask ← mgf1Sha256 sha256 h_value (em_len - h_len - 1)
      let db ← maskFirst top_bits (List.zipWith (· ^^^ ·) masked_db db_mask)
      let ps_length := em_len - h_len - salt_length - 2
      if (db.take ps_length).any (· != 0) then return false
      let separator ← db[ps_length]?
      if separator ≠ 1 then return false
      let salt := db.drop (ps_length + 1)
      let h_prime := sha256.digest (List.replicate 8 0 ++ m_hash ++ salt)
      return h_prime == h_value

end Pss

end Python

namespace Node

section Pss

variable (sha256 : Sha256Digest)

/-- The loop over `counter`, with the blocks pushed so far. -/
def mgf1Loop (seed : List Byte) (length : Nat) : Nat → Nat → List (List Byte) → Option (List Byte)
  | 0, _, _ => none
  | fuel + 1, counter, blocks =>
    if blocks.flatten.length < length then do
      let encodedCounter ← fourBytes counter
      mgf1Loop seed length fuel (counter + 1)
        (blocks ++ [sha256.digest (seed ++ encodedCounter)])
    else some (blocks.flatten.take length)

def mgf1Sha256 (seed : List Byte) (length : Nat) : Option (List Byte) :=
  mgf1Loop sha256 seed length (length + 1) 0 []

/-- `timingSafeEqual`, which throws on different lengths. -/
def timingSafeEqual (left right : List Byte) : Option Bool :=
  if left.length ≠ right.length then none else some (left == right)

/-- `emsaPssVerifySha256`; `none` stands for a thrown error. -/
def emsaPssVerifySha256 (messageHash encodedMessage : List Byte) (encodedBits saltLength : Nat) :
    Option Bool :=
  let hashLength := 32
  let encodedLength := ⌈(encodedBits : ℚ) / 8⌉₊
  if messageHash.length ≠ hashLength ∨ encodedMessage.length ≠ encodedLength then some false
  else if encodedLength < hashLength + saltLength + 2 ∨ encodedMessage.getLast? ≠ some 0xBC then
    some false
  else
    let maskedDb := encodedMessage.take (encodedLength - hashLength - 1)
    let observedHash := (encodedMessage.take (encodedLength - 1)).drop (encodedLength - hashLength - 1)
    let unusedBits := encodedLength * 8 - encodedBits
    if 0 < unusedBits ∧ maskedDb.headD 0 >>> (8 - unusedBits) ≠ 0 then some false
    else do
      let dbMask ← mgf1Sha256 sha256 observedHash maskedDb.length
      let unmasked := (List.range maskedDb.length).map fun index =>
        maskedDb.getD index 0 ^^^ dbMask.getD index 0
      let db := if 0 < unusedBits then unmasked.modify 0 (· &&& (0xFF#8 >>> unusedBits)) else unmasked
      let paddingLength := encodedLength - hashLength - saltLength - 2
      if (List.range paddingLength).any fun index => db.getD index 0 != 0 then return false
      if db.getD paddingLength 0 ≠ 1 then return false
      let salt := db.drop (paddingLength + 1)
      let recomputedHash := sha256.digest (List.replicate 8 0 ++ messageHash ++ salt)
      timingSafeEqual recomputedHash observedHash

end Pss

end Node

section MaskGeneration

variable {sha256 : Sha256Digest} {seed : List Byte} {maskLength : Nat}

theorem length_lt_iff (counter : Nat) :
    (maskBlocks sha256.digest seed counter).length < maskLength ↔
      counter < (maskLength + 32 - 1) / 32 := by
  rw [length_maskBlocks sha256.length_digest]
  omega

theorem Python.mgf1Loop_eq {fuel counter : Nat}
    (within : counter ≤ (maskLength + 32 - 1) / 32)
    (enough : (maskLength + 32 - 1) / 32 < counter + fuel) (countable : counter ≤ 2 ^ 32) :
    Python.mgf1Loop sha256 seed maskLength fuel counter (maskBlocks sha256.digest seed counter) =
      mgf1 sha256.digest 32 seed maskLength := by
  induction fuel generalizing counter with
  | zero => omega
  | succ fuel ih =>
    rw [Python.mgf1Loop]
    by_cases more : counter < (maskLength + 32 - 1) / 32
    · rw [if_pos ((length_lt_iff counter).mpr more), fourBytes]
      by_cases inRange : counter < 2 ^ 32
      · rw [if_pos inRange, Option.bind_eq_bind, Option.bind_some, ← maskBlocks_succ]
        exact ih more (by omega) inRange
      · rw [if_neg inRange, mgf1, if_pos (by omega)]
        rfl
    · obtain rfl : counter = (maskLength + 32 - 1) / 32 := by omega
      rw [if_neg (fun below => more ((length_lt_iff _).mp below)), mgf1, if_neg (by omega)]

theorem Python.mgf1Sha256_eq :
    Python.mgf1Sha256 sha256 seed maskLength = mgf1 sha256.digest 32 seed maskLength :=
  Python.mgf1Loop_eq (Nat.zero_le _) (by omega) (Nat.zero_le _)

theorem Node.mgf1Loop_eq_python (fuel counter : Nat) (blocks : List (List Byte)) :
    Node.mgf1Loop sha256 seed maskLength fuel counter blocks =
      Python.mgf1Loop sha256 seed maskLength fuel counter blocks.flatten := by
  induction fuel generalizing counter blocks with
  | zero => rfl
  | succ fuel ih =>
    rw [Node.mgf1Loop, Python.mgf1Loop]
    cases fourBytes counter with
    | none => rfl
    | some encoded =>
      simp only [Option.bind_eq_bind, Option.bind_some, ih,
        List.flatten_append, List.flatten_singleton]

theorem Node.mgf1Sha256_eq :
    Node.mgf1Sha256 sha256 seed maskLength = mgf1 sha256.digest 32 seed maskLength :=
  (Node.mgf1Loop_eq_python _ _ _).trans Python.mgf1Sha256_eq

end MaskGeneration

section Verification

variable {sha256 : Sha256Digest} {mHash em : List Byte} {emBits saltLength : Nat}

theorem topBits_iff {unused : Nat} (small : unused < 8) (masked : List Byte) :
    ¬ (unused ≠ 0 ∧ masked.headD 0 >>> (8 - unused) ≠ 0) ↔ clearTop unused masked = masked := by
  by_cases none : unused = 0
  · subst none
    simp [clearTop_zero]
  · cases masked with
    | nil => simp [clearTop]
    | cons first rest =>
      rw [clearTop, List.cons.injEq, List.headD_cons, and_iff_left rfl,
        ← shiftRight_eq_zero_iff unused small (Nat.pos_of_ne_zero none)]
      simp [none]

theorem Python.maskFirst_eq {unused : Nat} {bytes : List Byte} (nonempty : bytes ≠ []) :
    Python.maskFirst unused bytes = some (clearTop unused bytes) := by
  unfold Python.maskFirst
  by_cases none : unused = 0
  · rw [if_pos none, none, clearTop_zero]
  · rw [if_neg none]
    cases bytes with
    | nil => exact absurd rfl nonempty
    | cons first rest => rfl

theorem dataBlock_checks_iff {block mHash digest : List Byte} {psLen : Nat}
    (inside : psLen < block.length) :
    (do
      if (block.take psLen).any (· != 0) then return false
      let separator ← block[psLen]?
      if separator ≠ 1 then return false
      return sha256.digest (List.replicate 8 0 ++ mHash ++ block.drop (psLen + 1)) == digest) =
        some true ↔
      (block.take psLen).all (· == 0) = true ∧ block.getD psLen 0 = 1 ∧
        saltedHash sha256.digest mHash (block.drop (psLen + 1)) = digest := by
  rw [List.getD_eq_getElem _ _ inside, List.getElem?_eq_getElem inside]
  by_cases zeros : (block.take psLen).all (· == 0) = true
  · have noneSet : ¬ (block.take psLen).any (· != 0) = true := by simpa using zeros
    rw [if_neg noneSet, Option.bind_eq_bind, Option.bind_some]
    by_cases one : block[psLen] = 1
    · rw [if_neg (not_not.mpr one)]
      constructor
      · intro same
        exact ⟨zeros, one, eq_of_beq (Option.some.inj same)⟩
      · rintro ⟨-, -, same⟩
        exact congrArg some (beq_iff_eq.mpr same)
    · rw [if_pos one]
      exact iff_of_false (fun same => by cases same) fun parts => one parts.2.1
  · have someSet : (block.take psLen).any (· != 0) = true := by simpa using zeros
    rw [if_pos someSet]
    exact iff_of_false (fun same => by cases same) fun parts => zeros parts.1

theorem Python.emsaPssVerifySha256_eq_true_iff (hashed : mHash.length = 32)
    (emLength : em.length = encodedLength emBits)
    (room : 32 + saltLength + 2 ≤ encodedLength emBits) :
    Python.emsaPssVerifySha256 sha256 mHash em emBits saltLength = some true ↔
      Consistent sha256.digest (mgf1 sha256.digest 32) 32 saltLength emBits mHash em := by
  have lengths : ¬ (mHash.length ≠ 32 ∨ em.length ≠ encodedLength emBits) := by
    rintro (short | short)
    · exact short hashed
    · exact short emLength
  have digestEq : (em.take (encodedLength emBits - 1)).drop (encodedLength emBits - 32 - 1) =
      digestPart 32 emBits em := by
    rw [digestPart, emLength]
    rfl
  have psEq : encodedLength emBits - 32 - saltLength - 2 = psLength 32 saltLength emBits := by
    rw [psLength]
    omega
  have lengthEq : (emBits + 7) / 8 = encodedLength emBits := rfl
  unfold Python.emsaPssVerifySha256 Consistent
  simp only [lengthEq]
  rw [if_neg lengths, if_neg (by omega)]
  by_cases last : em.getLast? = some 0xBC
  swap
  · rw [if_pos last]
    exact iff_of_false (fun same => by cases same) fun parts => last parts.1
  rw [if_neg (not_not.mpr last)]
  by_cases clear : clearTop (unusedBits emBits) (maskedPart 32 emBits em) = maskedPart 32 emBits em
  swap
  · have fires := not_not.mp (mt (topBits_iff (unusedBits_lt emBits) _).mp clear)
    rw [maskedPart, dbLength, unusedBits] at fires
    rw [if_pos fires]
    exact iff_of_false (fun same => by cases same) fun parts => clear parts.2.1
  have passes := (topBits_iff (unusedBits_lt emBits) _).mpr clear
  rw [maskedPart, dbLength, unusedBits] at passes
  rw [if_neg passes, Python.mgf1Sha256_eq, digestEq, psEq, and_iff_right last, and_iff_right clear]
  cases generated : mgf1 sha256.digest 32 (digestPart 32 emBits em) (dbLength 32 emBits) with
  | none =>
    rw [dbLength] at generated
    rw [generated]
    apply iff_of_false
    · exact fun same => by cases same
    · rintro ⟨_, found, _⟩
      cases found
  | some mask =>
    have maskLength := length_of_mgf1 sha256.length_digest (by omega) generated
    have maskedLength : (maskedPart 32 emBits em).length = dbLength 32 emBits := by
      rw [maskedPart, List.length_take, emLength, dbLength]
      omega
    have blockLength : (unmask 32 emBits em mask).length = dbLength 32 emBits := by
      rw [unmask, length_clearTop, xorBytes, List.length_zipWith, maskedLength, maskLength,
        Nat.min_self]
    have dbLengthEq : dbLength 32 emBits = encodedLength emBits - 32 - 1 := rfl
    have psLengthEq : psLength 32 saltLength emBits = encodedLength emBits - saltLength - 32 - 2 :=
      rfl
    have nonempty : List.zipWith (· ^^^ ·) (maskedPart 32 emBits em) mask ≠ [] := by
      rw [← List.length_pos_iff, List.length_zipWith, maskedLength, maskLength, Nat.min_self]
      omega
    have blockEq : Python.maskFirst (unusedBits emBits)
        (List.zipWith (· ^^^ ·) (maskedPart 32 emBits em) mask) =
          some (unmask 32 emBits em mask) :=
      Python.maskFirst_eq nonempty
    rw [maskedPart, dbLength, unusedBits] at blockEq
    have inside : psLength 32 saltLength emBits < (unmask 32 emBits em mask).length := by
      omega
    rw [dbLength] at generated
    rw [generated, Option.bind_eq_bind, Option.bind_some, blockEq, Option.bind_eq_bind,
      Option.bind_some]
    simp only [Option.some.injEq, exists_eq_left']
    exact dataBlock_checks_iff inside

/-! ### Agreement -/

theorem ceil_div_eight (emBits : Nat) : ⌈(emBits : ℚ) / 8⌉₊ = encodedLength emBits := by
  unfold encodedLength
  apply le_antisymm
  · rw [Nat.ceil_le, div_le_iff₀ (by norm_num)]
    have covered : emBits ≤ (emBits + 7) / 8 * 8 := by omega
    exact_mod_cast covered
  · have covered := Nat.le_ceil ((emBits : ℚ) / 8)
    rw [div_le_iff₀ (by norm_num)] at covered
    have natural : emBits ≤ ⌈(emBits : ℚ) / 8⌉₊ * 8 := by exact_mod_cast covered
    omega

theorem map_range_xor {masked mask : List Byte} (sameLength : mask.length = masked.length) :
    (List.range masked.length).map (fun index => masked.getD index 0 ^^^ mask.getD index 0) =
      List.zipWith (· ^^^ ·) masked mask := by
  apply List.ext_getElem
  · rw [List.length_map, List.length_range, List.length_zipWith, sameLength, Nat.min_self]
  · intro index inLeft inRight
    rw [List.length_map, List.length_range] at inLeft
    rw [List.getElem_map, List.getElem_range, List.getElem_zipWith,
      List.getD_eq_getElem _ _ inLeft, List.getD_eq_getElem _ _ (sameLength ▸ inLeft)]

theorem modify_zero_eq (unused : Nat) (bytes : List Byte) :
    (if 0 < unused then bytes.modify 0 (· &&& (0xFF#8 >>> unused)) else bytes) =
      clearTop unused bytes := by
  rcases Nat.eq_zero_or_pos unused with rfl | positive
  · rw [if_neg (Nat.lt_irrefl 0), clearTop_zero]
  · rw [if_pos positive]
    cases bytes <;> rfl

theorem any_range_getD {block : List Byte} {count : Nat} (inside : count ≤ block.length) :
    ((List.range count).any fun index => block.getD index 0 != 0) =
      (block.take count).any (· != 0) := by
  have taken : block.take count = (List.range count).map fun index => block.getD index 0 := by
    apply List.ext_getElem
    · rw [List.length_take, List.length_map, List.length_range, Nat.min_eq_left inside]
    · intro index inLeft inRight
      rw [List.length_map, List.length_range] at inRight
      rw [List.getElem_take, List.getElem_map, List.getElem_range,
        List.getD_eq_getElem _ _ (Nat.lt_of_lt_of_le inRight inside)]
  rw [taken, List.any_map]
  rfl

/-- Both verifiers compute one function. -/
theorem Node.emsaPssVerifySha256_eq_python (sha256 : Sha256Digest) (mHash em : List Byte)
    (emBits saltLength : Nat) :
    Node.emsaPssVerifySha256 sha256 mHash em emBits saltLength =
      Python.emsaPssVerifySha256 sha256 mHash em emBits saltLength := by
  have lengthEq : (emBits + 7) / 8 = encodedLength emBits := rfl
  unfold Node.emsaPssVerifySha256 Python.emsaPssVerifySha256
  simp only [ceil_div_eight, lengthEq]
  by_cases lengths : mHash.length ≠ 32 ∨ em.length ≠ encodedLength emBits
  · rw [if_pos lengths, if_pos lengths]
  rw [if_neg lengths, if_neg lengths]
  by_cases short : encodedLength emBits < 32 + saltLength + 2
  · rw [if_pos (.inl short), if_pos short]
  by_cases last : em.getLast? = some 0xBC
  swap
  · rw [if_pos (.inr last), if_neg short, if_pos last]
  have passed : ¬ (encodedLength emBits < 32 + saltLength + 2 ∨ em.getLast? ≠ some 0xBC) := by
    rintro (tooShort | otherLast)
    · exact short tooShort
    · exact otherLast last
  rw [if_neg passed, if_neg short, if_neg (not_not.mpr last), Nat.mul_comm (encodedLength emBits) 8]
  have emLength : em.length = encodedLength emBits :=
    not_not.mp fun other => lengths (.inr other)
  have maskedLength : (em.take (encodedLength emBits - 32 - 1)).length =
      encodedLength emBits - 32 - 1 := by
    rw [List.length_take, emLength]
    omega
  have digestLength : ((em.take (encodedLength emBits - 1)).drop
      (encodedLength emBits - 32 - 1)).length = 32 := by
    rw [List.length_drop, List.length_take, emLength]
    omega
  by_cases fires : 8 * encodedLength emBits - emBits ≠ 0 ∧
      (em.take (encodedLength emBits - 32 - 1)).headD 0 >>>
        (8 - (8 * encodedLength emBits - emBits)) ≠ 0
  · rw [if_pos fires, if_pos ⟨Nat.pos_of_ne_zero fires.1, fires.2⟩]
  rw [if_neg fires, if_neg fun both => fires ⟨both.1.ne', both.2⟩, Node.mgf1Sha256_eq,
    Python.mgf1Sha256_eq, maskedLength]
  cases generated : mgf1 sha256.digest 32 ((em.take (encodedLength emBits - 1)).drop
      (encodedLength emBits - 32 - 1)) (encodedLength emBits - 32 - 1) with
  | none => rfl
  | some mask =>
    have maskLength := length_of_mgf1 sha256.length_digest (by omega) generated
    have sameLength := maskLength.trans maskedLength.symm
    have xorEq := map_range_xor sameLength
    rw [maskedLength] at xorEq
    have blockLength : (clearTop (8 * encodedLength emBits - emBits) (List.zipWith (· ^^^ ·)
        (em.take (encodedLength emBits - 32 - 1)) mask)).length =
          encodedLength emBits - 32 - 1 := by
      rw [length_clearTop, List.length_zipWith, sameLength, maskedLength, Nat.min_self]
    have nonempty : List.zipWith (· ^^^ ·) (em.take (encodedLength emBits - 32 - 1)) mask ≠ [] := by
      rw [← List.length_pos_iff, List.length_zipWith, sameLength, maskedLength, Nat.min_self]
      omega
    have inside : encodedLength emBits - 32 - saltLength - 2 <
        (clearTop (8 * encodedLength emBits - emBits) (List.zipWith (· ^^^ ·)
          (em.take (encodedLength emBits - 32 - 1)) mask)).length := by
      rw [blockLength]
      omega
    simp only [Option.bind_eq_bind, Option.bind_some, xorEq, modify_zero_eq,
      Python.maskFirst_eq nonempty, any_range_getD inside.le, List.getElem?_eq_getElem inside,
      List.getD_eq_getElem _ _ inside, Node.timingSafeEqual, sha256.length_digest, digestLength]
    rfl

/-- For every hash function to 32 bytes, every message hash of 32 bytes, every bit length
from 528 on and every message of the right length: either check returns `true` exactly on
the EMSA-PSS encodings with a salt of 32 bytes, and both always end alike. -/
theorem emsaPssVerifySha256_exact (sha256 : Sha256Digest) {mHash em : List Byte} {emBits : Nat}
    (hashed : mHash.length = 32) (large : 528 ≤ emBits) (emLength : em.length = (emBits + 7) / 8) :
    (Python.emsaPssVerifySha256 sha256 mHash em emBits 32 = some true ↔
      ∃ salt, salt.length = 32 ∧
        encode sha256.digest (mgf1 sha256.digest 32) 32 mHash salt emBits = some em) ∧
    (Node.emsaPssVerifySha256 sha256 mHash em emBits 32 = some true ↔
      ∃ salt, salt.length = 32 ∧
        encode sha256.digest (mgf1 sha256.digest 32) 32 mHash salt emBits = some em) ∧
    Node.emsaPssVerifySha256 sha256 mHash em emBits 32 =
      Python.emsaPssVerifySha256 sha256 mHash em emBits 32 := by
  have room : 32 + 32 + 2 ≤ encodedLength emBits := by
    unfold encodedLength
    omega
  have maskLength : ∀ seed maskLen mask, mgf1 sha256.digest 32 seed maskLen = some mask →
      mask.length = maskLen :=
    fun _ _ _ generated => length_of_mgf1 sha256.length_digest (by omega) generated
  have python := (Python.emsaPssVerifySha256_eq_true_iff hashed emLength room).trans
    (exists_encode_iff sha256.length_digest maskLength emLength room).symm
  have agree := Node.emsaPssVerifySha256_eq_python sha256 mHash em emBits 32
  exact ⟨python, by rwa [agree], agree⟩

end Verification


namespace Sample

def sha256 : Sha256Digest where
  digest := fun message =>
    (Js.Fips180.digest (message.map BitVec.toNat)).bytes.map (BitVec.ofNat 8)
  length_digest := fun message => by
    rw [List.length_map]
    rfl

def messageHash : List Byte := List.replicate 32 0

/-- The encoding with a salt of zeros in 528 bits, the fewest that have room for it. -/
def encoded : List Byte :=
  (encode sha256.digest (mgf1 sha256.digest 32) 32 messageHash (List.replicate 32 0) 528).getD []

end Sample

theorem emsaPssVerifySha256_exact_encoded :
    (Python.emsaPssVerifySha256 Sample.sha256 Sample.messageHash Sample.encoded 528 32 =
        some true ↔
      ∃ salt, salt.length = 32 ∧
        encode Sample.sha256.digest (mgf1 Sample.sha256.digest 32) 32 Sample.messageHash salt 528 =
          some Sample.encoded) ∧
    (Node.emsaPssVerifySha256 Sample.sha256 Sample.messageHash Sample.encoded 528 32 = some true ↔
      ∃ salt, salt.length = 32 ∧
        encode Sample.sha256.digest (mgf1 Sample.sha256.digest 32) 32 Sample.messageHash salt 528 =
          some Sample.encoded) ∧
    Node.emsaPssVerifySha256 Sample.sha256 Sample.messageHash Sample.encoded 528 32 =
      Python.emsaPssVerifySha256 Sample.sha256 Sample.messageHash Sample.encoded 528 32 :=
  emsaPssVerifySha256_exact Sample.sha256 rfl (Nat.le_refl 528) (by decide +kernel)

end GhostArk.Verifiers
