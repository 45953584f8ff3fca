import GhostArk.Dab.Gateway
import GhostArk.Lib.Framing

/-!
Contract: `verify_dab_receipt` of `dab/verifier/src/lib.rs`.

Owns the checks of a receipt in their order, with the error of each, and the question which
receipts share a signature: a receipt is the only one of its signature exactly if its fields can
be split in one way.

Does not own: parsing, hex, keys and signatures; they are parameters. One signature of one key is
taken to be of one message at most.
-/

namespace GhostArk.Dab

open Lib

structure DABReceipt where
  protocol : String
  status : String
  cI : String
  cE : String
  nonce : String
  timestamp : String
  policyDigest : String
  gatewaySignature : String
deriving DecidableEq

inductive VerificationError where
  | MalformedReceipt
  | ProtocolMismatch
  | InvalidStatus
  | CommitmentMismatch
  | InvalidSignature
  | InvalidPublicKey
deriving DecidableEq

/-- `[u8; 32]`. -/
abbrev PublicKeyArray := { bytes : List UInt8 // bytes.length = 32 }

/-- `public_key_bytes.try_into()`. -/
def tryInto (publicKeyBytes : List UInt8) : Option PublicKeyArray :=
  if isLength : publicKeyBytes.length = 32 then some ⟨publicKeyBytes, isLength⟩ else none

structure VerifierCrates where
  VerifyingKey : Type
  Signature : Type
  /-- `serde_json::from_str`. -/
  fromStr : String → Option DABReceipt
  /-- `VerifyingKey::from_bytes`. -/
  fromBytes : PublicKeyArray → Option VerifyingKey
  /-- `hex::decode`. -/
  hexDecode : String → Option (List UInt8)
  /-- `Signature::from_slice`. -/
  fromSlice : List UInt8 → Option Signature
  /-- `key.verify(message, signature)`. -/
  verify : VerifyingKey → ByteArray → Signature → Bool

section Verifier

variable (crates : VerifierCrates)

def VerifierCrates.SignsOneMessage : Prop :=
  ∀ key signature first second, crates.verify key first signature = true →
    crates.verify key second signature = true → first = second

def DABReceipt.message (receipt : DABReceipt) : String :=
  canonicalMessage receipt.protocol receipt.cI receipt.cE receipt.nonce receipt.timestamp
    receipt.policyDigest

/-- `verify_dab_receipt` of a parsed receipt. -/
def verifyReceipt (receipt : DABReceipt) (publicKeyBytes : List UInt8) :
    Except VerificationError Bool :=
  if receipt.protocol ≠ PROTOCOL_VERSION then .error .ProtocolMismatch
  else if receipt.status ≠ "CERTIFIED" then .error .InvalidStatus
  else if receipt.cI ≠ receipt.cE then .error .CommitmentMismatch
  else
    match (tryInto publicKeyBytes).bind crates.fromBytes with
    | none => .error .InvalidPublicKey
    | some key =>
      match (crates.hexDecode receipt.gatewaySignature).bind crates.fromSlice with
      | none => .error .InvalidSignature
      | some signature =>
        if crates.verify key receipt.message.toUTF8 signature then .ok true
        else .error .InvalidSignature

def verifyDabReceipt (receiptJson : String) (publicKeyBytes : List UInt8) :
    Except VerificationError Bool :=
  match crates.fromStr receiptJson with
  | none => .error .MalformedReceipt
  | some receipt => verifyReceipt crates receipt publicKeyBytes

structure Accepted (receipt : DABReceipt) (key : crates.VerifyingKey)
    (signature : crates.Signature) : Prop where
  protocol : receipt.protocol = PROTOCOL_VERSION
  status : receipt.status = "CERTIFIED"
  commitment : receipt.cI = receipt.cE
  signed : crates.verify key receipt.message.toUTF8 signature = true

variable {crates} {receipt : DABReceipt} {publicKeyBytes : List UInt8}

theorem verifyReceipt_eq_true_iff : verifyReceipt crates receipt publicKeyBytes = .ok true ↔
    ∃ key signature, (tryInto publicKeyBytes).bind crates.fromBytes = some key ∧
      (crates.hexDecode receipt.gatewaySignature).bind crates.fromSlice = some signature ∧
        Accepted crates receipt key signature := by
  rw [verifyReceipt]
  constructor
  · intro verified
    split at verified
    next => cases verified
    next protocol =>
      split at verified
      next => cases verified
      next status =>
        split at verified
        next => cases verified
        next commitment =>
          split at verified
          next => cases verified
          next key isKey =>
            split at verified
            next => cases verified
            next signature isSignature =>
              split at verified
              next signed =>
                exact ⟨key, signature, isKey, isSignature, not_not.mp protocol,
                  not_not.mp status, not_not.mp commitment, signed⟩
              next => cases verified
  · rintro ⟨key, signature, isKey, isSignature, protocol, status, commitment, signed⟩
    rw [if_neg (not_not.mpr protocol), if_neg (not_not.mpr status),
      if_neg (not_not.mpr commitment)]
    simp only [isKey, isSignature, signed, if_true]

end Verifier

/-! ### One receipt for one signature -/

/-- The fields that the signature is to bind. -/
def SameFields (first second : DABReceipt) : Prop :=
  first.cI = second.cI ∧ first.cE = second.cE ∧ first.nonce = second.nonce ∧
    first.timestamp = second.timestamp ∧ first.policyDigest = second.policyDigest

/-- The fields can be split in one way. -/
def SplitsOnce (receipt : DABReceipt) : Prop :=
  Determined '|' receipt.cI.toList receipt.nonce.toList receipt.timestamp.toList
    receipt.policyDigest.toList

theorem toList_canonicalMessage (commitment nonce timestamp policyDigest : String) :
    (canonicalMessage PROTOCOL_VERSION commitment commitment nonce timestamp policyDigest).toList =
      (SIGNATURE_DOMAIN ++ PROTOCOL_VERSION ++ "|").toList ++
        pairFrame '|' commitment.toList nonce.toList timestamp.toList policyDigest.toList := by
  have bar : "|".toList = ['|'] := rfl
  simp only [canonicalMessage, String.toList_append, bar, pairFrame, twice, intercalate_three,
    List.append_assoc, List.cons_append, List.nil_append]

/-- Receipts of one message are equal in every field that the message shows. -/
theorem message_eq_iff {first second : DABReceipt}
    (firstProtocol : first.protocol = PROTOCOL_VERSION) (firstPair : first.cI = first.cE)
    (secondProtocol : second.protocol = PROTOCOL_VERSION) (secondPair : second.cI = second.cE) :
    first.message = second.message ↔
      pairFrame '|' first.cI.toList first.nonce.toList first.timestamp.toList
          first.policyDigest.toList =
        pairFrame '|' second.cI.toList second.nonce.toList second.timestamp.toList
          second.policyDigest.toList := by
  rw [DABReceipt.message, DABReceipt.message, firstProtocol, secondProtocol, ← firstPair,
    ← secondPair, ← String.toList_inj, toList_canonicalMessage, toList_canonicalMessage]
  exact List.append_right_inj _

/-- An accepted receipt is the only accepted one with its signature, up to the fields that are
signed, exactly if its fields can be split in one way. -/
theorem signature_binds_iff {crates : VerifierCrates} (oneMessage : crates.SignsOneMessage)
    {receipt : DABReceipt} {publicKeyBytes : List UInt8}
    (verified : verifyReceipt crates receipt publicKeyBytes = .ok true) :
    (∀ other, verifyReceipt crates other publicKeyBytes = .ok true →
        other.gatewaySignature = receipt.gatewaySignature → SameFields other receipt) ↔
      SplitsOnce receipt := by
  rcases verifyReceipt_eq_true_iff.mp verified with ⟨key, signature, isKey, isSignature, accepted⟩
  constructor
  · intro binds
    refine determined_of_unique fun commitment nonce timestamp policyDigest same => ?_
    let other : DABReceipt := { receipt with
      cI := String.ofList commitment
      cE := String.ofList commitment
      nonce := String.ofList nonce
      timestamp := String.ofList timestamp
      policyDigest := String.ofList policyDigest }
    have otherProtocol : other.protocol = PROTOCOL_VERSION := accepted.protocol
    have otherPair : other.cI = other.cE := rfl
    have sameMessage : other.message = receipt.message := by
      rw [message_eq_iff otherProtocol otherPair accepted.protocol accepted.commitment]
      simp only [other, String.toList_ofList]
      exact same
    have otherAccepted : Accepted crates other key signature :=
      ⟨otherProtocol, accepted.status, otherPair, sameMessage.symm ▸ accepted.signed⟩
    have fields := binds other
      (verifyReceipt_eq_true_iff.mpr ⟨key, signature, isKey, isSignature, otherAccepted⟩) rfl
    have read {characters : List Char} {field : String}
        (isField : String.ofList characters = field) : characters = field.toList := by
      rw [← isField, String.toList_ofList]
    exact ⟨read fields.1, read fields.2.2.1, read fields.2.2.2.1, read fields.2.2.2.2⟩
  · intro splitsOnce other otherVerified sameSignature
    rcases verifyReceipt_eq_true_iff.mp otherVerified
      with ⟨otherKey, otherSignature, isOtherKey, isOtherSignature, otherAccepted⟩
    rw [isKey] at isOtherKey
    obtain rfl := Option.some.inj isOtherKey
    rw [sameSignature, isSignature] at isOtherSignature
    obtain rfl := Option.some.inj isOtherSignature
    have sameMessage : other.message = receipt.message := by
      have sameBytes := oneMessage key signature _ _ otherAccepted.signed accepted.signed
      exact String.toByteArray_inj.mp sameBytes
    rw [message_eq_iff otherAccepted.protocol otherAccepted.commitment accepted.protocol
      accepted.commitment] at sameMessage
    rcases splitsOnce.eq sameMessage with ⟨commitment, nonce, timestamp, policyDigest⟩
    have sameCommitment := String.toList_inj.mp commitment
    refine ⟨sameCommitment, ?_, String.toList_inj.mp nonce, String.toList_inj.mp timestamp,
      String.toList_inj.mp policyDigest⟩
    rw [← otherAccepted.commitment, ← accepted.commitment]
    exact sameCommitment

namespace ReceiptSample

def hexDigit? (digit : Char) : Option ℕ :=
  if digit.isDigit then some (digit.toNat - 48)
  else if 'a' ≤ digit ∧ digit ≤ 'f' then some (digit.toNat - 87)
  else if 'A' ≤ digit ∧ digit ≤ 'F' then some (digit.toNat - 55)
  else none

def hexDecode : List Char → Option (List UInt8)
  | [] => some []
  | [_] => none
  | high :: low :: rest => do
    let upper ← hexDigit? high
    let lower ← hexDigit? low
    let bytes ← hexDecode rest
    return UInt8.ofNat (16 * upper + lower) :: bytes

def bytesOf (hex : String) : List UInt8 := (hexDecode hex.toList).getD []

/-- The Ed25519 key of the seed that the tests of the verifier sign with. -/
def publicKey : List UInt8 :=
  bytesOf "4cb5abf6ad79fbf5abbccafcc269d85cd2651ed4b885b5869f241aedf0a5ba29"

def receipt (nonce timestamp gatewaySignature : String) : DABReceipt where
  protocol := PROTOCOL_VERSION
  status := "CERTIFIED"
  cI := "sha256:c"
  cE := "sha256:c"
  nonce
  timestamp
  policyDigest := "sha256:p"
  gatewaySignature

def plain : DABReceipt :=
  receipt "n" "12" ("a6713ba4991f92b9014b658829f640722705f301b1d92371ed15bd2295374ef6" ++
    "245ff8b3b810b4c792d99070a99ae70a5f50f330dc5b078e79e745fe330f8507")

def splitSignature : String :=
  "0746a29afd91ff12538633c6b4b29b289dfd37dcfc1fb9c884f2d8f7a38f2bde" ++
    "23555a927de23806e8ac22d39969ffc9dbf2df2bcd9507d03df4c0c3029a8c05"

def split : DABReceipt := receipt "n|1" "2" splitSignature

/-- The message of `split`, split otherwise. -/
def resplit : DABReceipt := receipt "n" "1|2" splitSignature

def receiptJson (receipt : DABReceipt) : String :=
  "\x7b\"protocol\":\"" ++ receipt.protocol ++ "\",\"status\":\"" ++ receipt.status ++
    "\",\"c_i\":\"" ++ receipt.cI ++ "\",\"c_e\":\"" ++ receipt.cE ++ "\",\"nonce\":\"" ++
    receipt.nonce ++ "\",\"timestamp\":\"" ++ receipt.timestamp ++ "\",\"policy_digest\":\"" ++
    receipt.policyDigest ++ "\",\"gateway_signature\":\"" ++ receipt.gatewaySignature ++ "\"\x7d"

/-- The key and the two signatures it has made. -/
def crates : VerifierCrates where
  VerifyingKey := PublicKeyArray
  Signature := { bytes : List UInt8 // bytes.length = 64 }
  fromStr := fun text => [plain, split, resplit].find? fun read => text = receiptJson read
  fromBytes := fun key => if key.val = publicKey then some key else none
  hexDecode := fun text => hexDecode text.toList
  fromSlice := fun bytes =>
    if isLength : bytes.length = 64 then some ⟨bytes, isLength⟩ else none
  verify := fun _ message signature => [plain, split].any fun signed =>
    decide (message.data = signed.message.toUTF8.data) &&
      decide (hexDecode signed.gatewaySignature.toList = some signature.val)

theorem signsOneMessage_crates : crates.SignsOneMessage := by
  intro key signature first second isFirst isSecond
  have made : ∀ message, crates.verify key message signature = true →
      ∃ signed ∈ [plain, split], message = signed.message.toUTF8 ∧
        hexDecode signed.gatewaySignature.toList = some signature.val := by
    intro message verified
    rcases List.any_eq_true.mp verified with ⟨signed, member, matching⟩
    rw [Bool.and_eq_true, decide_eq_true_eq, decide_eq_true_eq] at matching
    exact ⟨signed, member, ByteArray.ext matching.1, matching.2⟩
  have apart : hexDecode plain.gatewaySignature.toList ≠
      hexDecode split.gatewaySignature.toList := by
    decide +kernel
  rcases made first isFirst with ⟨firstSigned, firstMember, rfl, isFirstSignature⟩
  rcases made second isSecond with ⟨secondSigned, secondMember, rfl, isSecondSignature⟩
  have same := isFirstSignature.trans isSecondSignature.symm
  simp only [List.mem_cons, List.not_mem_nil, or_false] at firstMember secondMember
  rcases firstMember with rfl | rfl <;> rcases secondMember with rfl | rfl
  · rfl
  · exact absurd same apart
  · exact absurd same.symm apart
  · rfl

/-- A receipt without separators in its fields is bound. -/
theorem signature_binds_plain :
    (∀ other, verifyReceipt crates other publicKey = .ok true →
        other.gatewaySignature = plain.gatewaySignature → SameFields other plain) ↔
      SplitsOnce plain :=
  signature_binds_iff signsOneMessage_crates (by decide +kernel)

/-- One signature, two nonces. -/
theorem signature_of_two_nonces :
    crates.SignsOneMessage ∧
      verifyDabReceipt crates (receiptJson split) publicKey = .ok true ∧
      verifyDabReceipt crates (receiptJson resplit) publicKey = .ok true ∧
      crates.fromStr (receiptJson split) = some split ∧
      crates.fromStr (receiptJson resplit) = some resplit ∧
      split.gatewaySignature = resplit.gatewaySignature ∧ ¬ SameFields split resplit := by
  refine ⟨signsOneMessage_crates, by decide +kernel, by decide +kernel, by decide +kernel,
    by decide +kernel, rfl, fun fields => ?_⟩
  exact absurd fields.2.2.1 (by decide)

end ReceiptSample

/-- A key that does not have 32 bytes is refused. -/
theorem verifyReceipt_of_length_ne {crates : VerifierCrates} {receipt : DABReceipt}
    {publicKeyBytes : List UInt8} (wrongLength : publicKeyBytes.length ≠ 32) :
    verifyReceipt crates receipt publicKeyBytes ≠ .ok true := by
  intro verified
  rcases verifyReceipt_eq_true_iff.mp verified with ⟨key, signature, isKey, -⟩
  rw [tryInto, dif_neg wrongLength] at isKey
  cases isKey

end GhostArk.Dab
