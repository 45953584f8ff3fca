import GhostArk.EnforcementRuntime.Receipts.Emission

/-!
Contract: `packages/enforcement-runtime/src/aws/kmsKeyIdentity.ts`.

Owns the patterns of immutable KMS key ids, the key UUID of an id, and when two
ids name one key.

Does not own: alias patterns, which emission has its own copy of.
-/

namespace GhostArk.EnforcementRuntime.Aws

open Js Receipts

/-- Runs of lowercase hex digits of the given lengths, with hyphens between them. -/
def isHexGroups : List Nat → JsString → Bool
  | [], text => text == []
  | [count], text => text.length == count && text.all isLowerHex
  | count :: counts, text =>
    (text.take count).length == count && (text.take count).all isLowerHex &&
      (text.drop count).head? == some (unit '-') && isHexGroups counts (text.drop (count + 1))

def uuidGroups : List Nat := [8, 4, 4, 4, 12]

def isKmsKeyUuid (keyId : JsString) : Bool := isHexGroups uuidGroups (keyId.map foldUnit)

def isKmsKeyArn (keyId : JsString) : Bool :=
  match colonFields 5 (keyId.map foldUnit) with
  | [arn, partition, kms, region, account, resource] =>
    arn == js "arn" &&
      (partition == js "aws" ||
        ((js "aws-").isPrefixOf partition && partition.drop 4 != [] &&
          (partition.drop 4).all isPartitionUnit)) &&
      kms == js "kms" &&
      region != [] && region.all (fun codeUnit => isPartitionUnit codeUnit || isDigit codeUnit) &&
      account.length == 12 && account.all isDigit &&
      (js "key/").isPrefixOf resource && isHexGroups uuidGroups (resource.drop 4)
  | _ => false

def isImmutableKmsKeyId (keyId : JsString) : Bool := isKmsKeyUuid keyId || isKmsKeyArn keyId

/-- What follows the last slash of a key ARN. -/
def keyUuidFromImmutableKeyId (keyId : JsString) : JsString :=
  if includesText keyId (js ":key/") then (keyId.reverse.takeWhile (· != unit '/')).reverse
  else keyId

def immutableKmsKeyIdsMatch (first second : JsString) : Bool :=
  if !isImmutableKmsKeyId first || !isImmutableKmsKeyId second then false
  else if isKmsKeyArn first && isKmsKeyArn second then first == second
  else keyUuidFromImmutableKeyId first == keyUuidFromImmutableKeyId second

example : isImmutableKmsKeyId (js "00000000-0000-0000-0000-00000000000A") = true ∧
    isImmutableKmsKeyId
      (js "arn:aws:kms:us-east-1:111122223333:key/00000000-0000-0000-0000-00000000000a") = true ∧
    isImmutableKmsKeyId (js "alias/active-key") = false := by
  decide +kernel

theorem immutableKmsKeyIdsMatch_self (keyId : JsString) :
    immutableKmsKeyIdsMatch keyId keyId = isImmutableKmsKeyId keyId := by
  unfold immutableKmsKeyIdsMatch
  cases immutable : isImmutableKmsKeyId keyId with
  | false => rfl
  | true => simp

end GhostArk.EnforcementRuntime.Aws
