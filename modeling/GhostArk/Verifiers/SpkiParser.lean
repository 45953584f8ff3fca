import GhostArk.Lib.DerEncoding
import Mathlib.Data.List.GetD
import Mathlib.Data.Nat.Size

/-!
Contract: the RSA public key parser of `verifiers/python/ghost_receipt_verify.py`, from the DER
bytes on.

Owns the reader of elements, the parser with the errors it raises, which byte strings it accepts
for a key, when two of them are one string, and that the DER encoding of a key is accepted.

Does not own: PEM blocks and base64.
-/

namespace GhostArk.Verifiers.Python

open Lib.Der

structure PublicKeyError where
  message : String
deriving DecidableEq

def RSA_ENCRYPTION_OID : List Octet := [0x2a, 0x86, 0x48, 0x86, 0xf7, 0x0d, 0x01, 0x01, 0x01]

/-! ### The reader -/

/-- `_DerReader`, which ends with its data wherever it is constructed. -/
structure DerReader where
  data : List Octet
  pos : Nat
  inside : pos ≤ data.length

namespace DerReader

def new (data : List Octet) : DerReader := ⟨data, 0, Nat.zero_le _⟩

def atEnd (reader : DerReader) : Bool := reader.pos == reader.data.length

def readLength (reader : DerReader) : Except PublicKeyError (Nat × Nat) :=
  let length := reader.data.getD (reader.pos + 1) 0
  let offset := reader.pos + 2
  if length &&& 0x80 ≠ 0 then
    let num_octets := (length &&& 0x7F).toNat
    if num_octets = 0 ∨ num_octets > 4 ∨ offset + num_octets > reader.data.length then
      .error ⟨"Unsupported or truncated DER length encoding."⟩
    else
      let longLength := ofOctets ((reader.data.drop offset).take num_octets)
      if longLength < 0x80 then .error ⟨"Non-minimal DER length encoding."⟩
      else .ok (longLength, offset + num_octets)
  else .ok (length.toNat, offset)

def readTlv (reader : DerReader) : Except PublicKeyError (Octet × List Octet × DerReader) :=
  if reader.pos + 2 > reader.data.length then .error ⟨"Truncated DER structure."⟩
  else
    match reader.readLength with
    | .error error => .error error
    | .ok (length, offset) =>
      if inside : offset + length ≤ reader.data.length then
        .ok (reader.data.getD reader.pos 0, (reader.data.drop offset).take length,
          ⟨reader.data, offset + length, inside⟩)
      else .error ⟨"DER value overruns its container."⟩

def rest (reader : DerReader) : List Octet := reader.data.drop reader.pos

@[simp] theorem rest_new (data : List Octet) : (new data).rest = data := rfl

theorem atEnd_iff {reader : DerReader} : reader.atEnd = true ↔ reader.rest = [] := by
  have inside := reader.inside
  rw [atEnd, beq_iff_eq, rest, List.drop_eq_nil_iff]
  omega

theorem and_signBit : ∀ octet : Octet, octet &&& 0x80 ≠ 0 ↔ 0x80 ≤ octet.toNat := by
  decide +kernel

theorem and_lowBits : ∀ octet : Octet, 0x80 ≤ octet.toNat →
    octet = BitVec.ofNat 8 (0x80 + (octet &&& 0x7F).toNat) := by
  decide +kernel

theorem ofNat_lowBits : ∀ count : Nat, count ≤ 4 → 0x80 ≤ (BitVec.ofNat 8 (0x80 + count)).toNat ∧
    (BitVec.ofNat 8 (0x80 + count) &&& 0x7F).toNat = count := by
  decide +kernel

section Reading

variable {reader next : DerReader} {tag : Octet} {value : List Octet} {length offset : Nat}

theorem drop_succ_pos (room : reader.pos + 2 ≤ reader.data.length) :
    reader.data.drop (reader.pos + 1) =
      reader.data.getD (reader.pos + 1) 0 :: reader.data.drop (reader.pos + 2) := by
  rw [List.drop_eq_getElem_cons (by omega), List.getD_eq_getElem _ _ (by omega)]

theorem readLength_eq_ok_iff (room : reader.pos + 2 ≤ reader.data.length) :
    reader.readLength = .ok (length, offset) ↔ offset ≤ reader.data.length ∧
      ∃ zeros, FitsIn 4 zeros length ∧ reader.data.drop (reader.pos + 1) =
        lengthField zeros length ++ reader.data.drop offset := by
  rw [drop_succ_pos room, readLength]
  generalize reader.data.getD (reader.pos + 1) 0 = first
  constructor
  · intro read
    by_cases signed : first &&& 0x80 ≠ 0
    · rw [if_pos signed] at read
      dsimp only at read
      split at read
      · cases read
      · next supported =>
          split at read
          · cases read
          · next large =>
              cases read
              push Not at supported
              have width : ((reader.data.drop (reader.pos + 2)).take (first &&& 0x7F).toNat).length =
                  (first &&& 0x7F).toNat := by
                rw [List.length_take, List.length_drop]
                omega
              rcases exists_zeros ((reader.data.drop (reader.pos + 2)).take (first &&& 0x7F).toNat)
                with ⟨zeros, isOctets⟩
              have widths := congrArg List.length isOctets
              rw [width, List.length_append, List.length_replicate] at widths
              have parts := List.take_append_drop (first &&& 0x7F).toNat
                (reader.data.drop (reader.pos + 2))
              rw [List.drop_drop] at parts
              refine ⟨supported.2.2, zeros, fun _ => widths ▸ supported.2.1, ?_⟩
              rw [lengthField, if_neg large, ← widths, ← isOctets,
                ← and_lowBits first ((and_signBit first).mp signed), List.cons_append, parts]
    · rw [if_neg signed] at read
      cases read
      have short := Nat.lt_of_not_le (mt (and_signBit first).mpr signed)
      refine ⟨room, 0, fun long => absurd short (Nat.not_lt.mpr long), ?_⟩
      rw [lengthField, if_pos short, BitVec.ofNat_toNat, BitVec.setWidth_eq]
      rfl
  · rintro ⟨inside, zeros, fits, isField⟩
    have widths := congrArg List.length isField
    rw [List.length_cons, List.length_append, List.length_drop, List.length_drop] at widths
    rw [lengthField] at isField widths
    by_cases short : length < 0x80
    · rw [if_pos short] at isField widths
      rw [List.singleton_append, List.cons.injEq] at isField
      have small : first.toNat = length := by
        rw [isField.1, BitVec.toNat_ofNat]
        omega
      have unsigned : ¬ first &&& 0x80 ≠ 0 := by
        rw [and_signBit]
        omega
      have isOffset : offset = reader.pos + 2 := by
        rw [List.length_singleton] at widths
        omega
      rw [if_neg unsigned, small, isOffset]
    · rw [if_neg short] at isField widths
      rw [List.cons_append, List.cons.injEq] at isField
      have count := fits (Nat.le_of_not_lt short)
      rcases ofNat_lowBits _ count with ⟨large, isCount⟩
      rw [← isField.1] at large isCount
      have notEmpty := toOctets_ne_nil (show length ≠ 0 by omega)
      rw [← List.length_pos_iff] at notEmpty
      rw [List.length_cons, List.length_append, List.length_replicate] at widths
      have isOffset : offset = reader.pos + 2 + (first &&& 0x7F).toNat := by omega
      have octets : (reader.data.drop (reader.pos + 2)).take (first &&& 0x7F).toNat =
          List.replicate zeros 0 ++ toOctets length := by
        rw [isField.2, isCount]
        apply List.take_left'
        rw [List.length_append, List.length_replicate]
      have supported : ¬ ((first &&& 0x7F).toNat = 0 ∨ (first &&& 0x7F).toNat > 4 ∨
          reader.pos + 2 + (first &&& 0x7F).toNat > reader.data.length) := by
        omega
      rw [if_pos ((and_signBit first).mpr large)]
      dsimp only
      rw [if_neg supported, octets, ofOctets_zeros, ofOctets_toOctets, if_neg short, isOffset]

theorem readTlv_eq_ok_iff : reader.readTlv = .ok (tag, value, next) ↔ next.data = reader.data ∧
    ∃ zeros, FitsIn 4 zeros value.length ∧ reader.rest = element zeros tag value ++ next.rest := by
  constructor
  · intro read
    rw [readTlv] at read
    split at read
    · cases read
    · next room =>
        have inside : reader.pos + 2 ≤ reader.data.length := Nat.le_of_not_lt room
        split at read
        · cases read
        · next length offset isLength =>
            rcases (readLength_eq_ok_iff inside).mp isLength with ⟨started, zeros, fits, isField⟩
            split at read
            · next ends =>
                cases read
                have width : ((reader.data.drop offset).take length).length = length := by
                  rw [List.length_take, List.length_drop]
                  omega
                refine ⟨rfl, zeros, width.symm ▸ fits, ?_⟩
                have parts := List.take_append_drop length (reader.data.drop offset)
                rw [List.drop_drop] at parts
                rw [rest, rest, List.drop_eq_getElem_cons (by omega),
                  List.getD_eq_getElem _ _ (by omega), isField, element, width, List.cons_append,
                  List.append_assoc, parts]
            · cases read
  · rintro ⟨sameData, zeros, fits, isElement⟩
    rcases reader with ⟨data, pos, inside⟩
    rcases next with ⟨_, nextPos, nextInside⟩
    cases sameData
    simp only [rest, element, List.cons_append, List.append_assoc] at isElement
    have field := length_lengthField_pos zeros value.length
    have widths := congrArg List.length isElement
    simp only [List.length_drop, List.length_cons, List.length_append] at widths
    have room : pos + 2 ≤ data.length := by omega
    rw [List.drop_eq_getElem_cons (by omega), List.cons.injEq] at isElement
    rcases isElement with ⟨isTag, afterTag⟩
    have isValue : data.drop (pos + 1 + (lengthField zeros value.length).length) =
        value ++ data.drop nextPos := by
      rw [← List.drop_drop, afterTag, List.drop_left]
    have isNext : pos + 1 + (lengthField zeros value.length).length + value.length = nextPos := by
      omega
    have started : pos + 1 + (lengthField zeros value.length).length ≤ data.length := by omega
    have isLength : (⟨data, pos, inside⟩ : DerReader).readLength =
        .ok (value.length, pos + 1 + (lengthField zeros value.length).length) :=
      (readLength_eq_ok_iff room).mpr ⟨started, zeros, fits, isValue ▸ afterTag⟩
    rw [readTlv, if_neg (Nat.not_lt.mpr room), isLength]
    dsimp only
    rw [dif_pos (isNext ▸ nextInside), isValue, List.take_left, List.getD_eq_getElem _ _ (by omega),
      isTag]
    subst isNext
    rfl

theorem reads_iff {after : List Octet} :
    (∃ next : DerReader, reader.readTlv = .ok (tag, value, next) ∧ next.rest = after) ↔
      ∃ zeros, FitsIn 4 zeros value.length ∧ reader.rest = element zeros tag value ++ after := by
  constructor
  · rintro ⟨next, read, rfl⟩
    exact (readTlv_eq_ok_iff.mp read).2
  · rintro ⟨zeros, fits, isElement⟩
    have inside := reader.inside
    have widths := congrArg List.length isElement
    rw [rest, List.length_drop, List.length_append] at widths
    have isRest : reader.data.drop (reader.data.length - after.length) = after := by
      have parts := congrArg (List.drop (element zeros tag value).length) isElement
      rw [List.drop_left, rest, List.drop_drop] at parts
      have position : reader.data.length - after.length =
          reader.pos + (element zeros tag value).length := by
        omega
      rw [position, parts]
    refine ⟨⟨reader.data, reader.data.length - after.length, Nat.sub_le _ _⟩,
      readTlv_eq_ok_iff.mpr ⟨rfl, zeros, fits, ?_⟩, isRest⟩
    exact isElement.trans (congrArg _ isRest.symm)

end Reading

end DerReader

/-! ### The parser -/

/-- `_der_positive_integer`. -/
def derPositiveInteger (raw : List Octet) : Except PublicKeyError Nat :=
  if raw.length = 0 then .error ⟨"Empty DER INTEGER."⟩
  else if raw.getD 0 0 &&& 0x80 ≠ 0 then
    .error ⟨"Negative DER INTEGER where a positive value is required."⟩
  else if raw.length > 1 ∧ raw.getD 0 0 = 0x00 ∧ ¬ raw.getD 1 0 &&& 0x80 ≠ 0 then
    .error ⟨"Non-minimal DER INTEGER encoding."⟩
  else .ok (ofOctets raw)

def parseAlgorithm (alg_body : List Octet) : Except PublicKeyError Unit := do
  let (tag, oid, alg) ← (DerReader.new alg_body).readTlv
  if tag ≠ 0x06 ∨ oid ≠ RSA_ENCRYPTION_OID then
    .error ⟨"Public key algorithm must be rsaEncryption (1.2.840.113549.1.1.1)."⟩
  else if ¬ alg.atEnd then do
    let (tag, params, alg) ← alg.readTlv
    if tag ≠ 0x05 ∨ params ≠ [] ∨ ¬ alg.atEnd then
      .error ⟨"rsaEncryption parameters must be a single DER NULL."⟩
    else .ok ()
  else .ok ()

def parseRsaPublicKey (rsa_body : List Octet) :
    Except PublicKeyError (List Octet × List Octet) := do
  let (tag, n_raw, rsa) ← (DerReader.new rsa_body).readTlv
  if tag ≠ 0x02 then .error ⟨"RSA modulus must be a DER INTEGER."⟩
  else do
    let (tag, e_raw, rsa) ← rsa.readTlv
    if tag ≠ 0x02 ∨ ¬ rsa.atEnd then
      .error ⟨"RSA public exponent must be the final DER INTEGER."⟩
    else .ok (n_raw, e_raw)

def checkKey (n e : Nat) : Except PublicKeyError (Nat × Nat) :=
  if ¬ (2048 ≤ n.size ∧ n.size ≤ 8192) then
    .error ⟨"RSA modulus size " ++ toString n.size ++
      " bits is outside the accepted 2048..8192 range."⟩
  else if e < 3 ∨ e % 2 = 0 then .error ⟨"RSA public exponent must be an odd integer >= 3."⟩
  else .ok (n, e)

def parsePublicKey (bits : List Octet) : Except PublicKeyError (Nat × Nat) := do
  let (tag, rsa_body, pk) ← (DerReader.new bits).readTlv
  if tag ≠ 0x30 ∨ ¬ pk.atEnd then .error ⟨"RSAPublicKey must be exactly one DER SEQUENCE."⟩
  else do
    let (n_raw, e_raw) ← parseRsaPublicKey rsa_body
    let n ← derPositiveInteger n_raw
    let e ← derPositiveInteger e_raw
    checkKey n e

/-- `parse_spki_rsa_public_key` on the bytes that `pem_to_der` gives. -/
def parseSpkiRsaPublicKey (der : List Octet) : Except PublicKeyError (Nat × Nat) := do
  let (tag, spki_body, outer) ← (DerReader.new der).readTlv
  if tag ≠ 0x30 ∨ ¬ outer.atEnd then .error ⟨"SPKI must be exactly one DER SEQUENCE."⟩
  else do
    let (tag, alg_body, spki) ← (DerReader.new spki_body).readTlv
    if tag ≠ 0x30 then .error ⟨"SPKI AlgorithmIdentifier must be a SEQUENCE."⟩
    else do
      parseAlgorithm alg_body
      let (tag, bit_string, spki) ← spki.readTlv
      if tag ≠ 0x03 ∨ bit_string.length < 1 ∨ bit_string.getD 0 0 ≠ 0x00 ∨ ¬ spki.atEnd then
        .error ⟨"SPKI subjectPublicKey must be a BIT STRING with zero unused bits."⟩
      else parsePublicKey (bit_string.drop 1)

structure RsaKey (n e : Nat) : Prop where
  modulus : 2048 ≤ n.size ∧ n.size ≤ 8192
  exponent : 3 ≤ e ∧ e % 2 = 1

/-- The zeros that lead each length field that may be long. -/
structure LengthPadding where
  outer : Nat
  bitString : Nat
  rsaKey : Nat
  modulus : Nat
  exponent : Nat

def algorithmContent (null : Bool) : List Octet :=
  element 0 0x06 RSA_ENCRYPTION_OID ++ if null then element 0 0x05 [] else []

section Encodings

variable (padding : LengthPadding) (null : Bool) (n e : Nat)

def rsaKeyContent : List Octet :=
  element padding.modulus 0x02 (integerContent n) ++ element padding.exponent 0x02 (integerContent e)

def bitStringContent : List Octet := 0x00 :: element padding.rsaKey 0x30 (rsaKeyContent padding n e)

def spkiContent : List Octet :=
  element 0 0x30 (algorithmContent null) ++
    element padding.bitString 0x03 (bitStringContent padding n e)

/-- A SubjectPublicKeyInfo with padded lengths. -/
def spki : List Octet := element padding.outer 0x30 (spkiContent padding null n e)

/-- The DER encoding of a SubjectPublicKeyInfo. -/
def derSpki : List Octet := spki ⟨0, 0, 0, 0, 0⟩ null n e

/-- The reader takes the lengths. -/
structure Readable : Prop where
  outer : FitsIn 4 padding.outer (spkiContent padding null n e).length
  bitString : FitsIn 4 padding.bitString (bitStringContent padding n e).length
  rsaKey : FitsIn 4 padding.rsaKey (rsaKeyContent padding n e).length
  modulus : FitsIn 4 padding.modulus (integerContent n).length
  exponent : FitsIn 4 padding.exponent (integerContent e).length

end Encodings

/-! ### What is accepted -/

theorem bind_eq_ok {α β : Type} {first : Except PublicKeyError α}
    {further : α → Except PublicKeyError β} {result : β} :
    (first >>= further) = .ok result ↔ ∃ value, first = .ok value ∧ further value = .ok result := by
  cases first <;> simp [bind, Except.bind]

section Acceptance

variable {padding : LengthPadding} {null : Bool} {n e : Nat}

theorem reads_all_iff {data value : List Octet} {tag : Octet} :
    (∃ next : DerReader, (DerReader.new data).readTlv = .ok (tag, value, next) ∧
      next.atEnd = true) ↔ ∃ zeros, FitsIn 4 zeros value.length ∧ data = element zeros tag value := by
  have ends : (∃ next : DerReader, (DerReader.new data).readTlv = .ok (tag, value, next) ∧
      next.rest = []) ↔
        ∃ zeros, FitsIn 4 zeros value.length ∧ data = element zeros tag value ++ [] :=
    DerReader.reads_iff
  simp only [List.append_nil] at ends
  simp only [DerReader.atEnd_iff, ends]

theorem superfluous_iff {first : Octet} {rest : List Octet} :
    (rest.length + 1 > 1 ∧ first = 0x00 ∧ ¬ rest.getD 0 0 &&& 0x80 ≠ 0) ↔
      ¬ (first = 0 → ∀ second ∈ rest.head?, 0x80 ≤ second.toNat) := by
  rw [DerReader.and_signBit]
  cases rest with
  | nil => simp
  | cons second later => simp

theorem derPositiveInteger_eq_ok_iff {raw : List Octet} {value : Nat} :
    derPositiveInteger raw = .ok value ↔ raw = integerContent value := by
  rw [eq_integerContent_iff, derPositiveInteger]
  cases raw with
  | nil =>
    rw [List.length_nil, if_pos rfl, IsShortest]
    exact ⟨fun read => (by cases read), fun shortest => shortest.1.elim⟩
  | cons first rest =>
    rw [List.length_cons, if_neg (Nat.succ_ne_zero rest.length), List.getD_cons_zero,
      List.getD_cons_succ, if_congr superfluous_iff rfl rfl,
      if_congr (DerReader.and_signBit first) rfl rfl, IsShortest]
    by_cases signed : 0x80 ≤ first.toNat
    · rw [if_pos signed]
      exact ⟨fun read => (by cases read),
        fun shortest => absurd signed (Nat.not_le.mpr shortest.1.1)⟩
    · by_cases minimal : first = 0 → ∀ second ∈ rest.head?, 0x80 ≤ second.toNat
      · rw [if_neg signed, if_neg (not_not_intro minimal), Except.ok.injEq]
        exact ⟨fun same => ⟨⟨Nat.lt_of_not_le signed, minimal⟩, same⟩, And.right⟩
      · rw [if_neg signed, if_pos minimal]
        exact ⟨fun read => (by cases read), fun shortest => absurd shortest.1.2 minimal⟩

theorem parseAlgorithm_eq_ok_iff {alg_body : List Octet} :
    parseAlgorithm alg_body = .ok () ↔ ∃ null, alg_body = algorithmContent null := by
  constructor
  · intro parsed
    rcases bind_eq_ok.mp parsed with ⟨⟨tag, oid, alg⟩, isOid, parsed⟩
    rcases (DerReader.readTlv_eq_ok_iff.mp isOid).2 with ⟨zeros, fits, isElement⟩
    dsimp only at parsed
    split at parsed
    · cases parsed
    · next known =>
        push Not at known
        rcases known with ⟨rfl, rfl⟩
        split at parsed
        · rcases bind_eq_ok.mp parsed with ⟨⟨tag, params, last⟩, isNull, parsed⟩
          rcases (DerReader.readTlv_eq_ok_iff.mp isNull).2 with ⟨nullZeros, -, isNullElement⟩
          dsimp only at parsed
          split at parsed
          · cases parsed
          · next isLast =>
              push Not at isLast
              rcases isLast with ⟨rfl, rfl, atEnd⟩
              rw [DerReader.atEnd_iff.mp atEnd, List.append_nil] at isNullElement
              exact ⟨true, isElement.trans (congrArg _ isNullElement)⟩
        · next atEnd =>
            rw [not_not, DerReader.atEnd_iff] at atEnd
            exact ⟨false, isElement.trans (congrArg _ atEnd)⟩
  · rintro ⟨null, rfl⟩
    have isOid : (DerReader.new (algorithmContent null)).rest =
        element 0 0x06 RSA_ENCRYPTION_OID ++ if null then element 0 0x05 [] else [] := rfl
    rcases DerReader.reads_iff.mpr ⟨0, by decide, isOid⟩ with ⟨alg, readsOid, isRest⟩
    apply bind_eq_ok.mpr
    refine ⟨_, readsOid, ?_⟩
    dsimp only
    rw [if_neg (by decide)]
    cases null with
    | false =>
      rw [if_neg (not_not_intro (DerReader.atEnd_iff.mpr isRest))]
    | true =>
      have more : ¬ alg.atEnd = true := by
        rw [DerReader.atEnd_iff, isRest]
        decide
      have isNull : alg.rest = element 0 0x05 [] ++ [] := isRest
      rcases DerReader.reads_iff.mpr ⟨0, by decide, isNull⟩ with ⟨last, readsNull, isLast⟩
      rw [if_pos more]
      apply bind_eq_ok.mpr
      refine ⟨_, readsNull, ?_⟩
      dsimp only
      rw [if_neg]
      rw [DerReader.atEnd_iff, isLast]
      decide

theorem element_algorithmContent (zeros : Nat) (null : Bool) :
    element zeros 0x30 (algorithmContent null) = element 0 0x30 (algorithmContent null) := by
  cases null <;> rfl

theorem parseRsaPublicKey_eq_ok_iff {rsa_body n_raw e_raw : List Octet} :
    parseRsaPublicKey rsa_body = .ok (n_raw, e_raw) ↔ ∃ modulusZeros exponentZeros,
      FitsIn 4 modulusZeros n_raw.length ∧ FitsIn 4 exponentZeros e_raw.length ∧
        rsa_body = element modulusZeros 0x02 n_raw ++ element exponentZeros 0x02 e_raw := by
  constructor
  · intro parsed
    rcases bind_eq_ok.mp parsed with ⟨⟨tag, modulus, rsa⟩, isModulus, parsed⟩
    rcases (DerReader.readTlv_eq_ok_iff.mp isModulus).2 with ⟨modulusZeros, fits, isElement⟩
    dsimp only at parsed
    split at parsed
    · cases parsed
    · next isInteger =>
        rcases bind_eq_ok.mp parsed with ⟨⟨last, exponent, next⟩, isExponent, parsed⟩
        rcases (DerReader.readTlv_eq_ok_iff.mp isExponent).2 with
          ⟨exponentZeros, exponentFits, isLastElement⟩
        dsimp only at parsed
        split at parsed
        · cases parsed
        · next isLast =>
            push Not at isInteger isLast
            rcases isLast with ⟨rfl, atEnd⟩
            subst isInteger
            cases parsed
            rw [DerReader.atEnd_iff.mp atEnd, List.append_nil] at isLastElement
            exact ⟨modulusZeros, exponentZeros, fits, exponentFits,
              isElement.trans (congrArg _ isLastElement)⟩
  · rintro ⟨modulusZeros, exponentZeros, fits, exponentFits, isBody⟩
    have isModulus : (DerReader.new rsa_body).rest =
        element modulusZeros 0x02 n_raw ++ element exponentZeros 0x02 e_raw := isBody
    rcases DerReader.reads_iff.mpr ⟨modulusZeros, fits, isModulus⟩ with ⟨rsa, readsModulus, isRest⟩
    have isExponent : rsa.rest = element exponentZeros 0x02 e_raw ++ [] :=
      isRest.trans (List.append_nil _).symm
    rcases DerReader.reads_iff.mpr ⟨exponentZeros, exponentFits, isExponent⟩ with
      ⟨last, readsExponent, isLast⟩
    apply bind_eq_ok.mpr
    refine ⟨_, readsModulus, ?_⟩
    dsimp only
    rw [if_neg (not_not_intro rfl)]
    apply bind_eq_ok.mpr
    refine ⟨_, readsExponent, ?_⟩
    dsimp only
    rw [if_neg]
    rw [DerReader.atEnd_iff.mpr isLast]
    decide

theorem checkKey_eq_ok_iff {key : Nat × Nat} :
    checkKey n e = .ok key ↔ RsaKey n e ∧ key = (n, e) := by
  rw [checkKey]
  split
  · next refused => exact ⟨fun read => (by cases read), fun held => absurd held.1.modulus refused⟩
  · next size =>
      split
      · next refused =>
          refine ⟨fun read => (by cases read), fun held => ?_⟩
          have exponent := held.1.exponent
          omega
      · next exponent =>
          rw [Except.ok.injEq, eq_comm]
          exact ⟨fun same => ⟨⟨not_not.mp size, by omega⟩, same⟩, And.right⟩

theorem parsePublicKey_eq_ok_iff {bits : List Octet} {key : Nat × Nat} :
    parsePublicKey bits = .ok key ↔ ∃ n e, RsaKey n e ∧ key = (n, e) ∧
      ∃ rsaZeros modulusZeros exponentZeros, FitsIn 4 modulusZeros (integerContent n).length ∧
        FitsIn 4 exponentZeros (integerContent e).length ∧
        FitsIn 4 rsaZeros (element modulusZeros 0x02 (integerContent n) ++
          element exponentZeros 0x02 (integerContent e)).length ∧
        bits = element rsaZeros 0x30 (element modulusZeros 0x02 (integerContent n) ++
          element exponentZeros 0x02 (integerContent e)) := by
  constructor
  · intro accepted
    rcases bind_eq_ok.mp accepted with ⟨⟨tag, rsa_body, pk⟩, isSequence, parsed⟩
    dsimp only at parsed
    split at parsed
    · cases parsed
    · next isOnly =>
        push Not at isOnly
        rcases isOnly with ⟨rfl, atEnd⟩
        rcases reads_all_iff.mp ⟨pk, isSequence, atEnd⟩ with ⟨rsaZeros, rsaFits, isBits⟩
        rcases bind_eq_ok.mp parsed with ⟨⟨n_raw, e_raw⟩, integers, keyParsed⟩
        rcases parseRsaPublicKey_eq_ok_iff.mp integers with
          ⟨modulusZeros, exponentZeros, modulusFits, exponentFits, rfl⟩
        rcases bind_eq_ok.mp keyParsed with ⟨n, isModulus, exponentParsed⟩
        rcases bind_eq_ok.mp exponentParsed with ⟨e, isExponent, checked⟩
        rcases checkKey_eq_ok_iff.mp checked with ⟨isKey, rfl⟩
        cases derPositiveInteger_eq_ok_iff.mp isModulus
        cases derPositiveInteger_eq_ok_iff.mp isExponent
        exact ⟨n, e, isKey, rfl, rsaZeros, modulusZeros, exponentZeros, modulusFits, exponentFits,
          rsaFits, isBits⟩
  · rintro ⟨n, e, isKey, rfl, rsaZeros, modulusZeros, exponentZeros, modulusFits, exponentFits,
      rsaFits, isBits⟩
    rcases reads_all_iff.mpr ⟨rsaZeros, rsaFits, isBits⟩ with ⟨pk, readsSequence, atEnd⟩
    have integers := parseRsaPublicKey_eq_ok_iff.mpr
      ⟨modulusZeros, exponentZeros, modulusFits, exponentFits, rfl⟩
    apply bind_eq_ok.mpr
    refine ⟨_, readsSequence, ?_⟩
    dsimp only
    rw [atEnd, if_neg (by decide)]
    apply bind_eq_ok.mpr
    refine ⟨_, integers, bind_eq_ok.mpr ⟨n, derPositiveInteger_eq_ok_iff.mpr rfl, ?_⟩⟩
    exact bind_eq_ok.mpr ⟨e, derPositiveInteger_eq_ok_iff.mpr rfl,
      checkKey_eq_ok_iff.mpr ⟨isKey, rfl⟩⟩

theorem parseSpkiRsaPublicKey_eq_ok_iff {der : List Octet} :
    parseSpkiRsaPublicKey der = .ok (n, e) ↔ RsaKey n e ∧ ∃ padding null,
      Readable padding null n e ∧ der = spki padding null n e := by
  constructor
  · intro accepted
    rcases bind_eq_ok.mp accepted with ⟨⟨outerTag, spki_body, outer⟩, isOuter, parsed⟩
    dsimp only at parsed
    split at parsed
    · cases parsed
    · next isOnly =>
        push Not at isOnly
        rcases isOnly with ⟨rfl, outerEnd⟩
        rcases reads_all_iff.mp ⟨outer, isOuter, outerEnd⟩ with ⟨outerZeros, outerFits, isDer⟩
        rcases bind_eq_ok.mp parsed with ⟨⟨tag, alg_body, body⟩, isAlgorithm, bodyParsed⟩
        rcases (DerReader.readTlv_eq_ok_iff.mp isAlgorithm).2 with
          ⟨zeros, algorithmFits, isBody⟩
        dsimp only at bodyParsed
        split at bodyParsed
        · cases bodyParsed
        · next isSequence =>
            rcases bind_eq_ok.mp bodyParsed with ⟨_, algorithm, restParsed⟩
            rcases parseAlgorithm_eq_ok_iff.mp algorithm with ⟨null, isAlgorithmContent⟩
            rcases bind_eq_ok.mp restParsed with ⟨⟨bitTag, bit_string, last⟩, isBitString, bits⟩
            rcases (DerReader.readTlv_eq_ok_iff.mp isBitString).2 with
              ⟨bitZeros, bitFits, isRest⟩
            dsimp only at bits
            split at bits
            · cases bits
            · next isBits =>
                push Not at isSequence isBits
                rcases isBits with ⟨rfl, notEmpty, noUnusedBits, bodyEnd⟩
                rcases parsePublicKey_eq_ok_iff.mp bits with ⟨_, _, isKey, sameKey, rsaZeros,
                  modulusZeros, exponentZeros, modulusFits, exponentFits, rsaFits, isBits⟩
                cases sameKey
                refine ⟨isKey, ⟨outerZeros, bitZeros, rsaZeros, modulusZeros, exponentZeros⟩, null,
                  ?_⟩
                have isBitString : bit_string = bitStringContent ⟨outerZeros, bitZeros, rsaZeros,
                    modulusZeros, exponentZeros⟩ n e := by
                  cases bit_string with
                  | nil => exact absurd notEmpty (by decide)
                  | cons first rest => exact List.cons_eq_cons.mpr ⟨noUnusedBits, isBits⟩
                have isContent : spki_body = spkiContent ⟨outerZeros, bitZeros, rsaZeros,
                    modulusZeros, exponentZeros⟩ null n e := by
                  rw [DerReader.rest_new, isRest, isAlgorithmContent, isSequence,
                    element_algorithmContent, DerReader.atEnd_iff.mp bodyEnd, List.append_nil,
                    isBitString] at isBody
                  exact isBody
                rw [isBitString] at bitFits
                rw [isContent] at outerFits isDer
                exact ⟨⟨outerFits, bitFits, rsaFits, modulusFits, exponentFits⟩, isDer⟩
  · rintro ⟨isKey, padding, null, readable, isDer⟩
    rcases reads_all_iff.mpr ⟨padding.outer, readable.outer, isDer⟩ with
      ⟨outer, readsOuter, outerEnd⟩
    have isBody : (DerReader.new (spkiContent padding null n e)).rest =
        element 0 0x30 (algorithmContent null) ++
          element padding.bitString 0x03 (bitStringContent padding n e) := rfl
    have algorithmFits : FitsIn 4 0 (algorithmContent null).length := by
      cases null <;> decide
    rcases DerReader.reads_iff.mpr ⟨0, algorithmFits, isBody⟩ with ⟨body, readsAlgorithm, isRest⟩
    rw [← List.append_nil (element padding.bitString _ _)] at isRest
    rcases DerReader.reads_iff.mpr ⟨padding.bitString, readable.bitString, isRest⟩ with
      ⟨last, readsBitString, isLast⟩
    have isPublicKey := parsePublicKey_eq_ok_iff.mpr ⟨n, e, isKey, rfl, padding.rsaKey,
      padding.modulus, padding.exponent, readable.modulus, readable.exponent, readable.rsaKey, rfl⟩
    apply bind_eq_ok.mpr
    refine ⟨_, readsOuter, ?_⟩
    dsimp only
    rw [outerEnd, if_neg (by decide)]
    apply bind_eq_ok.mpr
    refine ⟨_, readsAlgorithm, ?_⟩
    dsimp only
    rw [if_neg (not_not_intro rfl)]
    apply bind_eq_ok.mpr
    refine ⟨(), parseAlgorithm_eq_ok_iff.mpr ⟨null, rfl⟩, bind_eq_ok.mpr ⟨_, readsBitString, ?_⟩⟩
    dsimp only
    have accepted : ¬ ((0x03 : Octet) ≠ 0x03 ∨ (bitStringContent padding n e).length < 1 ∨
        (bitStringContent padding n e).getD 0 0 ≠ 0x00 ∨ ¬ last.atEnd = true) := by
      rw [DerReader.atEnd_iff.mpr isLast, bitStringContent, List.length_cons, List.getD_cons_zero]
      simp
    rw [if_neg accepted]
    exact isPublicKey

end Acceptance

/-! ### Two encodings of a key -/

def content (bytes : List Octet) : List Octet :=
  match (DerReader.new bytes).readTlv with
  | .ok (_, value, _) => value
  | .error _ => []

def following (bytes : List Octet) : List Octet :=
  match (DerReader.new bytes).readTlv with
  | .ok (_, _, next) => next.rest
  | .error _ => []

/-- The AlgorithmIdentifier holds more than the algorithm. -/
def hasParameters (der : List Octet) : Bool := !(following (content (content der))).isEmpty

/-- The zeros that lead the length fields of the SubjectPublicKeyInfo, the BIT STRING, the
RSAPublicKey, the modulus and the exponent. -/
def lengthPaddings (der : List Octet) : List Nat :=
  let bitString := following (content der)
  let rsaKey := (content bitString).drop 1
  let modulus := content rsaKey
  [der, bitString, rsaKey, modulus, following modulus].map lengthZeros

section Uniqueness

variable {padding other : LengthPadding} {null : Bool} {n e zeros : Nat} {tag : Octet}
  {value after : List Octet}

theorem reads_element (fits : FitsIn 4 zeros value.length) :
    content (element zeros tag value ++ after) = value ∧
      following (element zeros tag value ++ after) = after := by
  have isElement : (DerReader.new (element zeros tag value ++ after)).rest =
      element zeros tag value ++ after := rfl
  rcases DerReader.reads_iff.mpr ⟨zeros, fits, isElement⟩ with ⟨next, reads, isRest⟩
  rw [content, following, reads]
  exact ⟨rfl, isRest⟩

theorem content_element (fits : FitsIn 4 zeros value.length) :
    content (element zeros tag value) = value := by
  rw [← List.append_nil (element zeros tag value)]
  exact (reads_element fits).1

theorem algorithm_fits (null : Bool) : FitsIn 4 0 (algorithmContent null).length := by
  cases null <;> decide

theorem hasParameters_spki (readable : Readable padding null n e) :
    hasParameters (spki padding null n e) = null := by
  have oidFits : FitsIn 4 0 RSA_ENCRYPTION_OID.length := by decide
  have parameters : following (algorithmContent null) = if null then element 0 0x05 [] else [] :=
    (reads_element oidFits).2
  rw [hasParameters, spki, content_element readable.outer, spkiContent,
    (reads_element (algorithm_fits null)).1, parameters]
  cases null <;> rfl

/-- What a length field shows of its padding. -/
def shown (zeros length : Nat) : Nat := if length < 0x80 then 0 else zeros

theorem lengthPaddings_spki (readable : Readable padding null n e) :
    lengthPaddings (spki padding null n e) =
      [shown padding.outer (spkiContent padding null n e).length,
        shown padding.bitString (bitStringContent padding n e).length,
        shown padding.rsaKey (rsaKeyContent padding n e).length,
        shown padding.modulus (integerContent n).length,
        shown padding.exponent (integerContent e).length] := by
  have whole {zeros : Nat} {tag : Octet} {value : List Octet}
      (fits : FitsIn 4 zeros value.length) :
      lengthZeros (element zeros tag value) = shown zeros value.length := by
    rw [← List.append_nil (element zeros tag value)]
    exact lengthZeros_element fits (by decide)
  have isBitString : following (spkiContent padding null n e) =
      element padding.bitString 0x03 (bitStringContent padding n e) :=
    (reads_element (algorithm_fits null)).2
  have isKey : (content (element padding.bitString 0x03 (bitStringContent padding n e))).drop 1 =
      element padding.rsaKey 0x30 (rsaKeyContent padding n e) := by
    rw [content_element readable.bitString]
    rfl
  have isExponent : following (rsaKeyContent padding n e) =
      element padding.exponent 0x02 (integerContent e) := (reads_element readable.modulus).2
  have isModulus : lengthZeros (rsaKeyContent padding n e) =
      shown padding.modulus (integerContent n).length :=
    lengthZeros_element readable.modulus (by decide)
  rw [lengthPaddings]
  simp only [spki, content_element readable.outer, isBitString, isKey,
    content_element readable.rsaKey, isExponent, List.map_cons, List.map_nil, isModulus,
    whole readable.outer, whole readable.bitString, whole readable.rsaKey, whole readable.exponent]

theorem spki_congr (readable : Readable padding null n e) (otherReadable : Readable other null n e)
    (samePaddings : lengthPaddings (spki padding null n e) =
      lengthPaddings (spki other null n e)) : spki padding null n e = spki other null n e := by
  rw [lengthPaddings_spki readable, lengthPaddings_spki otherReadable] at samePaddings
  simp only [List.cons.injEq, and_true] at samePaddings
  rcases samePaddings with ⟨outer, bitString, rsaKey, modulus, exponent⟩
  have sameKey : rsaKeyContent padding n e = rsaKeyContent other n e := by
    rw [rsaKeyContent, element_congr_of_shown modulus, element_congr_of_shown exponent,
      rsaKeyContent]
  have sameBits : bitStringContent padding n e = bitStringContent other n e := by
    rw [← sameKey] at rsaKey
    rw [bitStringContent, element_congr_of_shown rsaKey, sameKey, bitStringContent]
  have sameContent : spkiContent padding null n e = spkiContent other null n e := by
    rw [← sameBits] at bitString
    rw [spkiContent, element_congr_of_shown bitString, sameBits, spkiContent]
  rw [← sameContent] at outer
  rw [spki, element_congr_of_shown outer, sameContent, spki]

/-- Accepted encodings of one key are equal exactly if they pad their lengths alike. -/
theorem accepted_eq_iff {first second : List Octet}
    (firstAccepted : parseSpkiRsaPublicKey first = .ok (n, e))
    (secondAccepted : parseSpkiRsaPublicKey second = .ok (n, e))
    (sameParameters : hasParameters first = hasParameters second) :
    first = second ↔ lengthPaddings first = lengthPaddings second := by
  rcases parseSpkiRsaPublicKey_eq_ok_iff.mp firstAccepted with
    ⟨-, padding, null, readable, rfl⟩
  rcases parseSpkiRsaPublicKey_eq_ok_iff.mp secondAccepted with
    ⟨-, other, otherNull, otherReadable, rfl⟩
  rw [hasParameters_spki readable, hasParameters_spki otherReadable] at sameParameters
  subst sameParameters
  exact ⟨congrArg lengthPaddings, spki_congr readable otherReadable⟩

end Uniqueness

section Encoding

variable {null : Bool} {n e : Nat}

theorem readable_of_outer {padding : LengthPadding} (noZeros : padding.bitString = 0 ∧
      padding.rsaKey = 0 ∧ padding.modulus = 0 ∧ padding.exponent = 0)
    (outer : FitsIn 4 padding.outer (spkiContent padding null n e).length)
    (short : (spkiContent padding null n e).length < 256 ^ 4) : Readable padding null n e := by
  have body : (bitStringContent padding n e).length ≤ (spkiContent padding null n e).length := by
    rw [spkiContent, List.length_append, length_element padding.bitString]
    omega
  have key : (rsaKeyContent padding n e).length ≤ (bitStringContent padding n e).length := by
    rw [bitStringContent, List.length_cons, length_element]
    omega
  have integers : (integerContent n).length ≤ (rsaKeyContent padding n e).length ∧
      (integerContent e).length ≤ (rsaKeyContent padding n e).length := by
    rw [rsaKeyContent, List.length_append, length_element, length_element]
    omega
  rcases noZeros with ⟨noBitString, noKey, noModulus, noExponent⟩
  have fits {length : Nat} (within : length ≤ (spkiContent padding null n e).length) :
      FitsIn 4 0 length :=
    (fitsIn_zero_iff (by decide)).mpr (Nat.lt_of_le_of_lt within short)
  refine ⟨outer, ?_, ?_, ?_, ?_⟩
  · rw [noBitString]
    exact fits body
  · rw [noKey]
    exact fits (key.trans body)
  · rw [noModulus]
    exact fits (integers.1.trans (key.trans body))
  · rw [noExponent]
    exact fits (integers.2.trans (key.trans body))

theorem derSpki_accepted_iff (isKey : RsaKey n e) :
    parseSpkiRsaPublicKey (derSpki null n e) = .ok (n, e) ↔
      (spkiContent ⟨0, 0, 0, 0, 0⟩ null n e).length < 2 ^ 32 := by
  constructor
  · intro accepted
    rcases parseSpkiRsaPublicKey_eq_ok_iff.mp accepted with ⟨-, padding, null, readable, isDer⟩
    exact lt_of_length_element_eq (by decide) readable.outer (congrArg List.length isDer)
  · intro short
    have outer : FitsIn 4 0 (spkiContent ⟨0, 0, 0, 0, 0⟩ null n e).length :=
      (fitsIn_zero_iff (by decide)).mpr short
    have readable := readable_of_outer ⟨rfl, rfl, rfl, rfl⟩ outer short
    exact parseSpkiRsaPublicKey_eq_ok_iff.mpr ⟨isKey, _, null, readable, rfl⟩

theorem length_element_zero_le (tag : Octet) {value : List Octet} {width : Nat}
    (within : value.length ≤ width) (short : width < 256 ^ 4) :
    (element 0 tag value).length ≤ width + 6 := by
  have fits : FitsIn 4 0 value.length :=
    (fitsIn_zero_iff (by decide)).mpr (Nat.lt_of_le_of_lt within short)
  have field := length_lengthField_le fits
  rw [length_element]
  omega

theorem lt_pow_of_size_le {width : Nat} (size : n.size ≤ 8 * width) : n < 256 ^ width := by
  have bits := Nat.size_le.mp size
  rwa [Nat.pow_mul] at bits

theorem length_spkiContent_le (isKey : RsaKey n e) (below : e < n) :
    (spkiContent ⟨0, 0, 0, 0, 0⟩ null n e).length ≤ 2090 := by
  have small : n < 256 ^ 1024 := lt_pow_of_size_le isKey.modulus.2
  have modulus := length_element_zero_le 0x02 (length_integerContent_le small) (by decide)
  have exponent := length_element_zero_le 0x02 (length_integerContent_le (below.trans small))
    (by decide)
  have integers : (rsaKeyContent ⟨0, 0, 0, 0, 0⟩ n e).length ≤ 2062 := by
    rw [rsaKeyContent, List.length_append]
    exact Nat.add_le_add modulus exponent
  have key := length_element_zero_le 0x30 integers (by decide)
  have bits : (bitStringContent ⟨0, 0, 0, 0, 0⟩ n e).length ≤ 2069 := by
    rw [bitStringContent, List.length_cons]
    exact Nat.succ_le_succ key
  have bitString := length_element_zero_le 0x03 bits (by decide)
  have algorithm : (element 0 0x30 (algorithmContent null)).length ≤ 15 := by
    cases null <;> decide
  rw [spkiContent, List.length_append]
  exact Nat.add_le_add algorithm bitString

/-- **Encodings of a public key.** Two accepted byte strings of one key are equal exactly if their
length fields are led by the same numbers of zeros; the DER encoding of a key is accepted exactly if
its content is shorter than `2 ^ 32` octets, as it is whenever the exponent is below the modulus. -/
theorem publicKey_encodings (first second : List Octet) (n e : Nat) :
    (parseSpkiRsaPublicKey first = .ok (n, e) → parseSpkiRsaPublicKey second = .ok (n, e) →
      hasParameters first = hasParameters second →
        (first = second ↔ lengthPaddings first = lengthPaddings second)) ∧
      (RsaKey n e → ∀ null : Bool,
        (parseSpkiRsaPublicKey (derSpki null n e) = .ok (n, e) ↔
          (spkiContent ⟨0, 0, 0, 0, 0⟩ null n e).length < 2 ^ 32) ∧
        (e < n → parseSpkiRsaPublicKey (derSpki null n e) = .ok (n, e))) := by
  constructor
  · intro firstAccepted secondAccepted sameParameters
    exact accepted_eq_iff firstAccepted secondAccepted sameParameters
  · intro isKey null
    refine ⟨derSpki_accepted_iff isKey, fun below => (derSpki_accepted_iff isKey).mpr ?_⟩
    exact Nat.lt_of_le_of_lt (length_spkiContent_le isKey below) (by decide)

end Encoding

namespace SpkiSample

def modulus : Nat := 2 ^ (2046 + 1) + 1

def exponent : Nat := 65537

theorem padded_readable {n e : Nat} (isKey : RsaKey n e) (below : e < n) :
    Readable ⟨1, 0, 0, 0, 0⟩ true n e := by
  have length : (spkiContent ⟨1, 0, 0, 0, 0⟩ true n e).length ≤ 2090 :=
    length_spkiContent_le isKey below
  have octets := length_toOctets_le_iff.mpr (Nat.lt_of_le_of_lt length (by decide : 2090 < 256 ^ 3))
  refine readable_of_outer ⟨rfl, rfl, rfl, rfl⟩ (fun _ => ?_)
    (Nat.lt_of_le_of_lt length (by decide))
  exact Nat.add_le_add (Nat.le_refl 1) octets

theorem der_readable {n e : Nat} (isKey : RsaKey n e) (below : e < n) :
    Readable ⟨0, 0, 0, 0, 0⟩ true n e := by
  have short : (spkiContent ⟨0, 0, 0, 0, 0⟩ true n e).length < 256 ^ 4 :=
    Nat.lt_of_le_of_lt (length_spkiContent_le isKey below) (by decide)
  exact readable_of_outer ⟨rfl, rfl, rfl, rfl⟩ ((fitsIn_zero_iff (by decide)).mpr short) short

theorem le_length_spkiContent {n e : Nat} (isKey : RsaKey n e) :
    0x80 ≤ (spkiContent ⟨0, 0, 0, 0, 0⟩ true n e).length := by
  have modulus : 0x80 ≤ (integerContent n).length := by
    by_contra short
    have octets := (length_toOctets_le_integerContent n).trans (Nat.le_of_not_le short)
    have small : n < 2 ^ (8 * 0x80) := by
      rw [Nat.pow_mul]
      exact length_toOctets_le_iff.mp octets
    exact absurd (isKey.modulus.1.trans (Nat.size_le.mpr small)) (by decide)
  rw [spkiContent, bitStringContent, rsaKeyContent]
  simp only [List.length_append, List.length_cons, length_element]
  omega

theorem size_modulus (bits : Nat) : (2 ^ (bits + 1) + 1).size = bits + 2 := by
  have positive : 0 < 2 ^ bits := Nat.two_pow_pos bits
  apply Nat.le_antisymm
  · rw [Nat.size_le, Nat.pow_succ 2 (bits + 1), Nat.pow_succ]
    omega
  · rw [Nat.succ_le_iff, Nat.lt_size]
    exact Nat.le_succ _

theorem isKey : RsaKey modulus exponent := by
  have size : modulus.size = 2048 := size_modulus 2046
  refine ⟨?_, by decide⟩
  rw [size]
  decide

theorem below : exponent < modulus := by
  have bits := Nat.lt_size.mp (Nat.lt_of_lt_of_le (by decide : 17 < 2048) isKey.modulus.1)
  exact Nat.lt_of_lt_of_le (by decide) bits

/-- The same SubjectPublicKeyInfo with its length in three octets, led by a zero. -/
def padded : List Octet := spki ⟨1, 0, 0, 0, 0⟩ true modulus exponent

theorem padded_accepted : parseSpkiRsaPublicKey padded = .ok (modulus, exponent) :=
  parseSpkiRsaPublicKey_eq_ok_iff.mpr ⟨isKey, _, true, padded_readable isKey below, rfl⟩

theorem der_accepted :
    parseSpkiRsaPublicKey (derSpki true modulus exponent) = .ok (modulus, exponent) :=
  (derSpki_accepted_iff isKey).mpr
    (Nat.lt_of_le_of_lt (length_spkiContent_le isKey below) (by decide))

theorem same_parameters : hasParameters padded = hasParameters (derSpki true modulus exponent) := by
  rw [padded, derSpki, hasParameters_spki (padded_readable isKey below),
    hasParameters_spki (der_readable isKey below)]

theorem padded_encodings :
    (padded = derSpki true modulus exponent ↔
      lengthPaddings padded = lengthPaddings (derSpki true modulus exponent)) ∧
    parseSpkiRsaPublicKey (derSpki true modulus exponent) = .ok (modulus, exponent) :=
  ⟨(publicKey_encodings _ _ _ _).1 padded_accepted der_accepted same_parameters,
    ((publicKey_encodings padded padded _ _).2 isKey true).2 below⟩

/-- A key has two accepted encodings. -/
theorem padded_second :
    ¬ ((∀ (first second : List Octet) (n e : Nat), parseSpkiRsaPublicKey first = .ok (n, e) →
      parseSpkiRsaPublicKey second = .ok (n, e) → hasParameters first = hasParameters second →
        first = second) ∧
      ∀ (null : Bool) (n e : Nat), RsaKey n e →
        parseSpkiRsaPublicKey (derSpki null n e) = .ok (n, e)) := by
  rintro ⟨unique, -⟩
  have same := unique _ _ _ _ padded_accepted der_accepted same_parameters
  have zeros := congrArg lengthPaddings same
  rw [padded, derSpki, lengthPaddings_spki (padded_readable isKey below),
    lengthPaddings_spki (der_readable isKey below), List.cons.injEq] at zeros
  have long : ¬ (spkiContent ⟨0, 0, 0, 0, 0⟩ true modulus exponent).length < 0x80 :=
    Nat.not_lt.mpr (le_length_spkiContent isKey)
  exact absurd ((if_neg long).symm.trans (zeros.1.trans (if_neg long))) (by decide)

end SpkiSample

end GhostArk.Verifiers.Python
