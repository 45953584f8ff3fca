import Mathlib.Algebra.GroupWithZero.Nat
import Mathlib.Data.List.Basic
import Mathlib.Data.List.GetD
import Mathlib.Data.List.Range
import Mathlib.Order.Basic

/-!
Contract: the EMSA-PSS encoding method over an arbitrary hash function.

Owns byte strings with exclusive or and the clearing of leading bits, the mask
generation function MGF1, the encoding operation, and the characterization of an
encoded message through its unmasked data block.

Does not own: RSA, or the treatment of a message before its hash.
-/

namespace GhostArk.Lib.EmsaPss

abbrev Byte := BitVec 8

/-! ### Exclusive or and leading bits -/

def xorBytes (left right : List Byte) : List Byte := List.zipWith (· ^^^ ·) left right

/-- Sets the `unused` leftmost bits of the first byte to zero. -/
def clearTop (unused : Nat) : List Byte → List Byte
  | [] => []
  | first :: rest => (first &&& (0xFF#8 >>> unused)) :: rest

theorem length_clearTop (unused : Nat) (bytes : List Byte) :
    (clearTop unused bytes).length = bytes.length := by
  cases bytes <;> rfl

theorem clearTop_zero (bytes : List Byte) : clearTop 0 bytes = bytes := by
  cases bytes with
  | nil => rfl
  | cons first rest =>
    have whole : first &&& (0xFF#8 >>> 0) = first := by
      revert first
      decide
    rw [clearTop, whole]

theorem shiftRight_eq_zero_iff : ∀ unused < 8, 0 < unused → ∀ byte : Byte,
    byte >>> (8 - unused) = 0 ↔ byte &&& (0xFF#8 >>> unused) = byte := by
  decide +kernel

theorem one_and : ∀ unused < 8, 1#8 &&& (0xFF#8 >>> unused) = 1#8 := by
  decide

theorem xor_xor_cancel (byte mask : Byte) : (byte ^^^ mask) ^^^ mask = byte := by
  rw [BitVec.xor_assoc, BitVec.xor_self, BitVec.xor_zero]

theorem xorBytes_xorBytes {bytes mask : List Byte} (sameLength : bytes.length = mask.length) :
    xorBytes (xorBytes bytes mask) mask = bytes := by
  induction bytes generalizing mask with
  | nil => rfl
  | cons first rest ih =>
    cases mask with
    | nil => cases sameLength
    | cons maskFirst maskRest =>
      rw [List.length_cons, List.length_cons, Nat.add_right_cancel_iff] at sameLength
      change ((first ^^^ maskFirst) ^^^ maskFirst) :: xorBytes (xorBytes rest maskRest) maskRest
        = first :: rest
      rw [xor_xor_cancel, ih sameLength]

theorem and_xor_and_xor (byte mask kept : Byte) :
    (((byte ^^^ mask) &&& kept) ^^^ mask) &&& kept = byte &&& kept := by
  apply BitVec.eq_of_getLsbD_eq
  intro index inside
  simp only [BitVec.getLsbD_and, BitVec.getLsbD_xor]
  cases byte.getLsbD index <;> cases mask.getLsbD index <;> cases kept.getLsbD index <;> rfl

/-- Among byte strings of one length, the masked form of a data block with clear leading
bits is the string with clear leading bits that unmasks to the block. -/
theorem eq_clearTop_xor_iff {unused : Nat} {block masked mask : List Byte}
    (clear : clearTop unused block = block) (maskLength : mask.length = masked.length)
    (blockLength : block.length = masked.length) :
    masked = clearTop unused (xorBytes block mask) ↔
      clearTop unused masked = masked ∧ clearTop unused (xorBytes masked mask) = block := by
  cases masked with
  | nil =>
    rw [List.length_nil, List.length_eq_zero_iff] at maskLength blockLength
    subst maskLength blockLength
    exact iff_of_true rfl ⟨rfl, rfl⟩
  | cons first rest =>
    cases mask with
    | nil => cases maskLength
    | cons maskFirst maskRest =>
      cases block with
      | nil => cases blockLength
      | cons blockFirst blockRest =>
        rw [List.length_cons, List.length_cons, Nat.add_right_cancel_iff]
          at maskLength blockLength
        rw [clearTop, List.cons.injEq] at clear
        simp only [clearTop, xorBytes, List.zipWith_cons_cons, List.cons.injEq, and_true]
        constructor
        · rintro ⟨rfl, restEq⟩
          have unmasked := xorBytes_xorBytes (blockLength.trans maskLength.symm)
          rw [xorBytes] at unmasked
          refine ⟨?_, ?_, ?_⟩
          · rw [BitVec.and_assoc, BitVec.and_self]
          · rw [and_xor_and_xor, clear.1]
          · rw [restEq]
            exact unmasked
        · rintro ⟨firstClear, firstEq, restEq⟩
          have unmasked := xorBytes_xorBytes maskLength.symm
          rw [xorBytes] at unmasked
          refine ⟨?_, ?_⟩
          · rw [← firstEq, and_xor_and_xor, firstClear]
          · rw [← restEq]
            exact unmasked.symm

section Encoding

variable (hash : List Byte → List Byte) (hLen : Nat)

def counterBytes (counter : Nat) : List Byte :=
  [BitVec.ofNat 8 (counter / 2 ^ 24), BitVec.ofNat 8 (counter / 2 ^ 16),
    BitVec.ofNat 8 (counter / 2 ^ 8), BitVec.ofNat 8 counter]

/-- The concatenated digests of the first counters. -/
def maskBlocks (seed : List Byte) (count : Nat) : List Byte :=
  (List.range count).flatMap fun counter => hash (seed ++ counterBytes counter)

/-- MGF1; `none` stands for the error "mask too long". -/
def mgf1 (seed : List Byte) (maskLen : Nat) : Option (List Byte) :=
  if 2 ^ 32 * hLen < maskLen then none
  else some ((maskBlocks hash seed ((maskLen + hLen - 1) / hLen)).take maskLen)

theorem maskBlocks_succ (seed : List Byte) (count : Nat) :
    maskBlocks hash seed (count + 1) =
      maskBlocks hash seed count ++ hash (seed ++ counterBytes count) := by
  rw [maskBlocks, List.range_succ, List.flatMap_append]
  simp [maskBlocks]

variable {hash hLen} (digestLength : ∀ message, (hash message).length = hLen)
include digestLength

theorem length_maskBlocks (seed : List Byte) (count : Nat) :
    (maskBlocks hash seed count).length = count * hLen := by
  induction count with
  | zero => simp [maskBlocks]
  | succ count ih =>
    rw [maskBlocks_succ, List.length_append, ih, digestLength, Nat.succ_mul]

theorem length_of_mgf1 {seed mask : List Byte} {maskLen : Nat} (positive : 0 < hLen)
    (generated : mgf1 hash hLen seed maskLen = some mask) : mask.length = maskLen := by
  unfold mgf1 at generated
  split at generated
  next => cases generated
  next =>
    cases generated
    rw [List.length_take, length_maskBlocks digestLength]
    refine Nat.min_eq_left ?_
    have rounded := Nat.lt_div_mul_add positive (a := maskLen + hLen - 1)
    omega

end Encoding

section Operation

variable (hash : List Byte → List Byte) (mgf : List Byte → Nat → Option (List Byte)) (hLen : Nat)

def dataBlock (psLen : Nat) (salt : List Byte) : List Byte :=
  List.replicate psLen 0 ++ 1 :: salt

def saltedHash (mHash salt : List Byte) : List Byte := hash (List.replicate 8 0 ++ mHash ++ salt)

/-- The length in bytes of a message of `emBits` bits. -/
def encodedLength (emBits : Nat) : Nat := (emBits + 7) / 8

/-- EMSA-PSS-ENCODE of a message hash with a salt; `none` stands for an encoding error. -/
def encode (mHash salt : List Byte) (emBits : Nat) : Option (List Byte) :=
  let emLen := encodedLength emBits
  if emLen < hLen + salt.length + 2 then none
  else
    let digest := saltedHash hash mHash salt
    (mgf digest (emLen - hLen - 1)).map fun dbMask =>
      clearTop (8 * emLen - emBits)
        (xorBytes (dataBlock (emLen - salt.length - hLen - 2) salt) dbMask) ++ digest ++ [0xBC]

end Operation

/-! ### Parts of an encoded message -/

theorem length_dataBlock (psLen : Nat) (salt : List Byte) :
    (dataBlock psLen salt).length = psLen + 1 + salt.length := by
  rw [dataBlock, List.length_append, List.length_replicate, List.length_cons]
  omega

theorem clearTop_dataBlock {unused : Nat} (small : unused < 8) (psLen : Nat) (salt : List Byte) :
    clearTop unused (dataBlock psLen salt) = dataBlock psLen salt := by
  cases psLen with
  | zero =>
    change ((1#8 &&& (0xFF#8 >>> unused)) :: salt) = 1#8 :: salt
    rw [one_and unused small]
  | succ psLen =>
    change ((0#8 &&& (0xFF#8 >>> unused)) :: (List.replicate psLen 0 ++ 1 :: salt)) =
      0#8 :: (List.replicate psLen 0 ++ 1 :: salt)
    rw [BitVec.zero_and]

theorem eq_dataBlock_iff {block salt : List Byte} {psLen : Nat} (inside : psLen < block.length) :
    block = dataBlock psLen salt ↔
      (block.take psLen).all (· == 0) = true ∧ block.getD psLen 0 = 1 ∧
        salt = block.drop (psLen + 1) := by
  constructor
  · rintro rfl
    have padding : (List.replicate psLen (0 : Byte)).length = psLen := List.length_replicate
    refine ⟨?_, ?_, ?_⟩
    · rw [dataBlock, List.take_left' padding]
      simp
    · rw [dataBlock, List.getD_append_right _ _ _ _ padding.le, padding, Nat.sub_self]
      rfl
    · simp [dataBlock, List.drop_append]
  · rintro ⟨zeros, one, rfl⟩
    have allZero : block.take psLen = List.replicate psLen 0 := by
      rw [List.eq_replicate_iff, List.length_take]
      refine ⟨Nat.min_eq_left inside.le, ?_⟩
      intro byte member
      exact eq_of_beq (List.all_eq_true.mp zeros byte member)
    rw [List.getD_eq_getElem _ _ inside] at one
    calc block = block.take psLen ++ block.drop psLen := (List.take_append_drop _ _).symm
      _ = dataBlock psLen (block.drop (psLen + 1)) := by
        rw [allZero, List.drop_eq_getElem_cons inside, one, dataBlock]

theorem eq_append_parts_iff {em masked digest : List Byte} {last : Byte}
    (emLength : em.length = masked.length + digest.length + 1) :
    em = masked ++ digest ++ [last] ↔
      em.getLast? = some last ∧ em.take masked.length = masked ∧
        (em.take (em.length - 1)).drop masked.length = digest := by
  constructor
  · rintro rfl
    refine ⟨by simp, ?_, ?_⟩
    · rw [List.append_assoc, List.take_left]
    · rw [List.length_append, List.length_singleton, Nat.add_sub_cancel, List.take_left,
        List.drop_left]
  · rintro ⟨lastEq, maskedEq, digestEq⟩
    have nonempty : em ≠ [] := by
      rintro rfl
      cases lastEq
    rw [List.getLast?_eq_some_getLast nonempty, Option.some.injEq] at lastEq
    have front : masked ++ digest = em.dropLast := by
      have shorter : (em.take (em.length - 1)).take masked.length = masked := by
        rw [List.take_take, Nat.min_eq_left (by omega), maskedEq]
      rw [List.dropLast_eq_take, ← List.take_append_drop masked.length (em.take (em.length - 1)),
        shorter, digestEq]
    rw [front, ← lastEq, List.dropLast_append_getLast]

def dbLength (hLen emBits : Nat) : Nat := encodedLength emBits - hLen - 1

/-- The number of zeros in front of the one. -/
def psLength (hLen sLen emBits : Nat) : Nat := encodedLength emBits - sLen - hLen - 2

/-- The number of leading bits that no encoded message sets. -/
def unusedBits (emBits : Nat) : Nat := 8 * encodedLength emBits - emBits

theorem unusedBits_lt (emBits : Nat) : unusedBits emBits < 8 := by
  simp only [unusedBits, encodedLength]
  omega

/-- `maskedDB`. -/
def maskedPart (hLen emBits : Nat) (em : List Byte) : List Byte := em.take (dbLength hLen emBits)

/-- `H`. -/
def digestPart (hLen emBits : Nat) (em : List Byte) : List Byte :=
  (em.take (em.length - 1)).drop (dbLength hLen emBits)

/-- The data block that a mask uncovers. -/
def unmask (hLen emBits : Nat) (em mask : List Byte) : List Byte :=
  clearTop (unusedBits emBits) (xorBytes (maskedPart hLen emBits em) mask)

/-- What EMSA-PSS-VERIFY checks of a message of the right length. -/
def Consistent (hash : List Byte → List Byte) (mgf : List Byte → Nat → Option (List Byte))
    (hLen sLen emBits : Nat) (mHash em : List Byte) : Prop :=
  em.getLast? = some 0xBC ∧
    clearTop (unusedBits emBits) (maskedPart hLen emBits em) = maskedPart hLen emBits em ∧
    ∃ mask, mgf (digestPart hLen emBits em) (dbLength hLen emBits) = some mask ∧
      ((unmask hLen emBits em mask).take (psLength hLen sLen emBits)).all (· == 0) = true ∧
      (unmask hLen emBits em mask).getD (psLength hLen sLen emBits) 0 = 1 ∧
      saltedHash hash mHash ((unmask hLen emBits em mask).drop (psLength hLen sLen emBits + 1)) =
        digestPart hLen emBits em

section Characterization

variable {hash : List Byte → List Byte} {mgf : List Byte → Nat → Option (List Byte)}
  {hLen sLen emBits : Nat} {em mHash : List Byte}
  (digestLength : ∀ message, (hash message).length = hLen)
  (maskLength : ∀ seed maskLen mask, mgf seed maskLen = some mask → mask.length = maskLen)
  (emLength : em.length = encodedLength emBits)
include digestLength maskLength emLength

/-- A message is the encoding under some salt exactly if it is consistent. -/
theorem exists_encode_iff (room : hLen + sLen + 2 ≤ encodedLength emBits) :
    (∃ salt, salt.length = sLen ∧ encode hash mgf hLen mHash salt emBits = some em) ↔
      Consistent hash mgf hLen sLen emBits mHash em := by
  have dbLengthEq : dbLength hLen emBits = encodedLength emBits - hLen - 1 := rfl
  have psLengthEq : psLength hLen sLen emBits = encodedLength emBits - sLen - hLen - 2 := rfl
  have maskedLength : (maskedPart hLen emBits em).length = dbLength hLen emBits := by
    rw [maskedPart, List.length_take, emLength]
    omega
  -- The message of a salt under a mask, taken apart again.
  have apart (salt mask : List Byte) (saltLength : salt.length = sLen)
      (generatedLength : mask.length = dbLength hLen emBits) :
      clearTop (unusedBits emBits)
          (xorBytes (dataBlock (psLength hLen sLen emBits) salt) mask) ++
          saltedHash hash mHash salt ++ [0xBC] = em ↔
        em.getLast? = some 0xBC ∧
          (clearTop (unusedBits emBits) (maskedPart hLen emBits em) = maskedPart hLen emBits em ∧
            unmask hLen emBits em mask = dataBlock (psLength hLen sLen emBits) salt) ∧
          digestPart hLen emBits em = saltedHash hash mHash salt := by
    have blockLength :
        (dataBlock (psLength hLen sLen emBits) salt).length = dbLength hLen emBits := by
      rw [length_dataBlock, saltLength]
      omega
    have partLength : (clearTop (unusedBits emBits)
        (xorBytes (dataBlock (psLength hLen sLen emBits) salt) mask)).length =
          dbLength hLen emBits := by
      rw [length_clearTop, xorBytes, List.length_zipWith, blockLength, generatedLength,
        Nat.min_self]
    have emParts : em.length = (clearTop (unusedBits emBits)
        (xorBytes (dataBlock (psLength hLen sLen emBits) salt) mask)).length +
          (saltedHash hash mHash salt).length + 1 := by
      rw [partLength, saltedHash, digestLength, emLength]
      omega
    rw [eq_comm, eq_append_parts_iff emParts, partLength]
    exact and_congr_right fun _ => and_congr_left fun _ =>
      eq_clearTop_xor_iff (clearTop_dataBlock (unusedBits_lt emBits) _ salt)
        (generatedLength.trans maskedLength.symm) (blockLength.trans maskedLength.symm)
  constructor
  · rintro ⟨salt, saltLength, encoded⟩
    unfold encode at encoded
    rw [if_neg (by omega), Option.map_eq_some_iff] at encoded
    rcases encoded with ⟨mask, generated, emEq⟩
    rw [saltLength] at emEq
    rcases (apart salt mask saltLength (maskLength _ _ _ generated)).mp emEq with
      ⟨last, ⟨clear, blockEq⟩, hashed⟩
    have inside : psLength hLen sLen emBits < (unmask hLen emBits em mask).length := by
      rw [blockEq, length_dataBlock]
      omega
    rcases (eq_dataBlock_iff inside).mp blockEq with ⟨zeros, one, saltEq⟩
    rw [← hashed] at generated
    rw [saltEq] at hashed
    exact ⟨last, clear, mask, generated, zeros, one, hashed.symm⟩
  · rintro ⟨last, clear, mask, generated, zeros, one, hashed⟩
    have generatedLength := maskLength _ _ _ generated
    have blockLength : (unmask hLen emBits em mask).length = dbLength hLen emBits := by
      rw [unmask, length_clearTop, xorBytes, List.length_zipWith, maskedLength, generatedLength,
        Nat.min_self]
    have inside : psLength hLen sLen emBits < (unmask hLen emBits em mask).length := by
      rw [blockLength]
      omega
    have blockEq := (eq_dataBlock_iff inside).mpr ⟨zeros, one, rfl⟩
    have saltLength : ((unmask hLen emBits em mask).drop
        (psLength hLen sLen emBits + 1)).length = sLen := by
      rw [List.length_drop, blockLength]
      omega
    refine ⟨_, saltLength, ?_⟩
    unfold encode
    rw [if_neg (by omega), Option.map_eq_some_iff]
    refine ⟨mask, ?_, ?_⟩
    · rw [hashed]
      exact generated
    · rw [saltLength]
      exact (apart _ mask saltLength generatedLength).mpr ⟨last, ⟨clear, blockEq⟩, hashed.symm⟩

end Characterization

end GhostArk.Lib.EmsaPss
