import GhostArk.EnforcementRuntime.Receipts.SignatureEnvelope

/-!
Contract: `LocalDevHmacReceiptSigner` of `signer.ts`, and the bytes it handles.

Owns standard base64 with padding, the bytes of a hex digest, the local signer
with its construction checks, and what its verification accepts.
-/

namespace GhostArk.EnforcementRuntime.Receipts.Signer

open Js ReceiptSchema

def hexBytes : JsString → List Nat
  | high :: low :: rest =>
    ((hexValue high).getD 0 * 16 + (hexValue low).getD 0) :: hexBytes rest
  | _ => []

/-! ### Standard base64 -/

def base64Digit (bits : Nat) : CodeUnit :=
  if bits = 62 then unit '+' else if bits = 63 then unit '/' else base64UrlDigit bits

/-- `Buffer.from(bytes).toString("base64")`. -/
def base64 : List Nat → JsString
  | [] => []
  | [b0] => [b0 / 4, b0 % 4 * 16].map base64Digit ++ js "=="
  | [b0, b1] => [b0 / 4, b0 % 4 * 16 + b1 / 16, b1 % 16 * 4].map base64Digit ++ js "="
  | b0 :: b1 :: b2 :: rest =>
    [b0 / 4, b0 % 4 * 16 + b1 / 16, b1 % 16 * 4 + b2 / 64, b2 % 64].map base64Digit ++ base64 rest

private theorem base64Digit_spec : ∀ bits < 64, base64Value (base64Digit bits) = some bits ∧
    isBase64Unit (base64Digit bits) = true := by
  decide +kernel

private theorem base64_eq (bytes : List Nat) : ∃ padding,
    base64 bytes = (sextets bytes).map base64Digit ++ padding ∧
      (padding = [] ∨ padding = js "=" ∨ padding = js "==") ∧
      ((sextets bytes).length + padding.length) % 4 = 0 ∧
      (sextets bytes).length * 6 / 8 = bytes.length := by
  fun_induction sextets bytes with
  | case1 => exact ⟨[], rfl, .inl rfl, rfl, rfl⟩
  | case2 b0 =>
    have two : (js "==").length = 2 := by decide
    exact ⟨js "==", rfl, .inr (.inr rfl), by simp [two], by simp⟩
  | case3 b0 b1 =>
    have one : (js "=").length = 1 := by decide
    exact ⟨js "=", rfl, .inr (.inl rfl), by simp [one], by simp⟩
  | case4 b0 b1 b2 rest ih =>
    rcases ih with ⟨padding, restEq, shape, aligned, lengthEq⟩
    refine ⟨padding, ?_, shape, ?_, ?_⟩
    · rw [base64, restEq, ← List.append_assoc, ← List.map_append]
      rfl
    · simp only [List.length_cons]
      omega
    · simp only [List.length_cons]
      omega

private theorem padding_units {padding : JsString}
    (shape : padding = [] ∨ padding = js "=" ∨ padding = js "==") :
    padding.filterMap base64Value = [] ∧ padding.filter (fun codeUnit =>
      isBase64Unit codeUnit || codeUnit == unit '-' || codeUnit == unit '_') = [] ∧
      padding.dropWhile isBase64Unit = padding := by
  rcases shape with rfl | rfl | rfl
  · exact ⟨rfl, rfl, rfl⟩
  · decide +kernel
  · decide +kernel

section Encoded

variable {bytes : List Nat} (areBytes : ∀ byte ∈ bytes, byte < 256)
include areBytes

theorem base64Bytes_base64 : base64Bytes (base64 bytes) = bytes := by
  have digits : ∀ {groups : List Nat}, (∀ bits ∈ groups, bits < 64) →
      (groups.map base64Digit).filterMap base64Value = groups := by
    intro groups bounded
    induction groups with
    | nil => rfl
    | cons bits rest ih =>
      rw [List.forall_mem_cons] at bounded
      rw [List.map_cons, List.filterMap_cons_some (base64Digit_spec bits bounded.1).1,
        ih bounded.2]
  rcases base64_eq bytes with ⟨padding, textEq, shape, -, -⟩
  rw [base64Bytes, textEq, List.filterMap_append, digits (sextets_bounded areBytes),
    (padding_units shape).1, List.append_nil, sextetBytes_sextets areBytes]

private theorem digits_units : ∀ codeUnit ∈ (sextets bytes).map base64Digit,
    isBase64Unit codeUnit = true := by
  intro codeUnit member
  rcases List.mem_map.mp member with ⟨bits, isGroup, rfl⟩
  exact (base64Digit_spec bits (sextets_bounded areBytes bits isGroup)).2

theorem base64DecodedLength_base64 : base64DecodedLength (base64 bytes) = bytes.length := by
  rcases base64_eq bytes with ⟨padding, textEq, shape, -, lengthEq⟩
  have kept : ((sextets bytes).map base64Digit).filter (fun codeUnit =>
      isBase64Unit codeUnit || codeUnit == unit '-' || codeUnit == unit '_') =
        (sextets bytes).map base64Digit := by
    rw [List.filter_eq_self]
    intro codeUnit member
    rw [digits_units areBytes codeUnit member]
    rfl
  rw [base64DecodedLength, textEq, List.filter_append, kept, (padding_units shape).2.1,
    List.append_nil, List.length_map, lengthEq]

end Encoded

private theorem hexValue_lt (codeUnit : CodeUnit) : (hexValue codeUnit).getD 0 < 16 := by
  have nine : '9'.toNat = 57 := rfl
  have lowerF : 'f'.toNat = 102 := rfl
  have upperF : 'F'.toNat = 70 := rfl
  unfold hexValue
  simp only [isDigit, inRange, Bool.and_eq_true, decide_eq_true_eq, nine, lowerF, upperF]
  split
  next digit =>
    rw [Option.getD_some]
    omega
  next =>
    split
    next lower =>
      rw [Option.getD_some]
      omega
    next =>
      split
      next upper =>
        rw [Option.getD_some]
        omega
      next => exact Nat.succ_pos 15

theorem hexBytes_byte (text : JsString) : ∀ byte ∈ hexBytes text, byte < 256 := by
  fun_induction hexBytes text with
  | case1 high low rest ih =>
    have highNibble := hexValue_lt high
    have lowNibble := hexValue_lt low
    rw [List.forall_mem_cons]
    exact ⟨by omega, ih⟩
  | case2 text short => simp

/-- A signer that its constructor accepts; the key id defaults to `local-dev-hmac`. -/
structure LocalDevHmacReceiptSigner where
  keyId : JsString
  secret : JsString
  keyIdNonempty : keyId ≠ []
  secretNonempty : secret ≠ []

namespace LocalDevHmacReceiptSigner

variable (signer : LocalDevHmacReceiptSigner) (hmacSha256 : HmacSha256)

/-- `createHmac("sha256", secret).update(canonicalPayload).digest()`. -/
def digest (canonicalPayload : JsString) : List Nat :=
  hexBytes (hmacSha256.hmacHex signer.secret canonicalPayload)

def assertNonEmptyPayload (canonicalPayload : JsString) : Except JsError Unit :=
  if canonicalPayload.length = 0 then
    .error (signingError (js "canonicalPayload must be a non-empty string.")
      [(js "field", .string (js "canonicalPayload"))])
  else .ok ()

def signCanonical (canonicalPayload : JsString) : Except JsError JsString := do
  assertNonEmptyPayload canonicalPayload
  return base64 (signer.digest hmacSha256 canonicalPayload)

def verifyCanonical (canonicalPayload signature : JsString) : Except JsError Bool := do
  assertNonEmptyPayload canonicalPayload
  assertStandardBase64Signature signature
  let expected := base64Bytes (← signer.signCanonical hmacSha256 canonicalPayload)
  return expected == base64Bytes signature

variable {signer hmacSha256} {canonicalPayload : JsString} (nonempty : canonicalPayload ≠ [])
include nonempty

theorem signCanonical_eq : signer.signCanonical hmacSha256 canonicalPayload =
    .ok (base64 (signer.digest hmacSha256 canonicalPayload)) := by
  have notEmpty : ¬ canonicalPayload.length = 0 := by simpa using nonempty
  rw [signCanonical, assertNonEmptyPayload, if_neg notEmpty]
  rfl

theorem verifyCanonical_eq_true_iff {signature : JsString} :
    signer.verifyCanonical hmacSha256 canonicalPayload signature = .ok true ↔
      assertStandardBase64Signature signature = .ok () ∧
        base64Bytes signature = signer.digest hmacSha256 canonicalPayload := by
  have notEmpty : ¬ canonicalPayload.length = 0 := by simpa using nonempty
  rw [verifyCanonical, assertNonEmptyPayload, if_neg notEmpty, ok_bind, bind_eq_ok]
  simp only [signCanonical_eq nonempty, ok_bind, pure_eq_ok, beq_iff_eq, digest,
    base64Bytes_base64 (hexBytes_byte _)]
  constructor
  · rintro ⟨⟨⟩, shaped, same⟩
    exact ⟨shaped, same.symm⟩
  · rintro ⟨shaped, same⟩
    exact ⟨(), shaped, same.symm⟩

end LocalDevHmacReceiptSigner

end GhostArk.EnforcementRuntime.Receipts.Signer
