import GhostArk.Js.NumericText
import GhostArk.Lib.InsertionMap

/-!
Contract: `decodeHttpResponse` of
`packages/research-frontier/src/oracle/byteReconciler.ts`.

Owns header blocks, chunked bodies, the choice of framing with its faults, and the
round trip of chunks: they are read back as they were written, and whatever comes after
the last one is counted.
-/

namespace GhostArk.ResearchFrontier.Oracle

open Js
open Lib

abbrev Buffer := List UInt8

/-- `bytes.toString("latin1")`. -/
def latin1 (bytes : Buffer) : JsString := bytes.map fun byte => Fin.ofNat 65536 byte.toNat

/-- `bytes.toString("ascii")`: the highest bit of each byte is unset. -/
def ascii (bytes : Buffer) : JsString := bytes.map fun byte => Fin.ofNat 65536 (byte.toNat % 128)

/-- `text.toLowerCase()`, for texts of `latin1`. -/
def toLowerCase (text : JsString) : JsString :=
  text.map fun codeUnit =>
    if inRange 'A' 'Z' codeUnit ∨ (inRange 'À' 'Þ' codeUnit ∧ codeUnit ≠ unit '×') then
      codeUnit + 32
    else codeUnit

def includes (part : JsString) : JsString → Bool
  | [] => part.isPrefixOf []
  | first :: rest => part.isPrefixOf (first :: rest) || includes part rest

def crlf : Buffer := [13, 10]

def headerBodySeparator : Buffer := [13, 10, 13, 10]

def breakAt (separator : Buffer) : Buffer → Option (Buffer × Buffer)
  | [] => if separator = [] then some ([], []) else none
  | first :: rest =>
    if separator.isPrefixOf (first :: rest) then
      some ([], (first :: rest).drop separator.length)
    else (breakAt separator rest).map fun parts => (first :: parts.1, parts.2)

def splitLines : JsString → List JsString
  | [] => [[]]
  | [last] => [[last]]
  | first :: second :: rest =>
    if first = unit '\r' ∧ second = unit '\n' then [] :: splitLines rest
    else
      match splitLines (second :: rest) with
      | [] => [[first]]
      | line :: lines => (first :: line) :: lines

def addHeader (headers : InsertionMap JsString (List JsString)) (line : JsString) :
    InsertionMap JsString (List JsString) :=
  let beforeColon := line.takeWhile (· ≠ unit ':')
  if beforeColon = [] ∨ beforeColon = line then headers
  else
    let name := toLowerCase (trim beforeColon)
    let value := trim (line.drop (beforeColon.length + 1))
    match headers.get? name with
    | some existing => headers.set name (existing ++ [value])
    | none => headers.set name [value]

def parseHeaders (headerBlock : Buffer) : InsertionMap JsString (List JsString) :=
  (splitLines (latin1 headerBlock)).tail.foldl addHeader .empty

/-! ### Framing -/

inductive FramingFault where
  | AMBIGUOUS_FRAMING
  | TRUNCATED
  | MALFORMED
deriving DecidableEq

structure DecodedResponse where
  decodedBody : Buffer
  trailingBytes : Nat
  fault : Option FramingFault
deriving DecidableEq

def isHexText (text : JsString) : Bool := text ≠ [] ∧ text.all fun digit => (hexValue digit).isSome

/-- `parseInt(text, 16)`. A value beyond the doubles is also beyond any buffer. -/
def parseHex (text : JsString) : Nat :=
  text.foldl (fun value digit => value * 16 + (hexValue digit).getD 0) 0

def sizeToken (line : Buffer) : JsString := trim ((ascii line).takeWhile (· ≠ unit ';'))

theorem length_breakAt {separator bytes before after : Buffer}
    (broken : breakAt separator bytes = some (before, after)) :
    bytes.length = before.length + separator.length + after.length := by
  induction bytes generalizing before after with
  | nil =>
    rw [breakAt] at broken
    split at broken
    next isEmpty =>
      cases broken
      rw [isEmpty]
      rfl
    next => cases broken
  | cons first rest ih =>
    rw [breakAt] at broken
    split at broken
    next isPrefix =>
      cases broken
      have fits := (List.isPrefixOf_iff_prefix.mp isPrefix).length_le
      rw [List.length_drop]
      simp only [List.length_nil]
      omega
    next =>
      rcases Option.map_eq_some_iff.mp broken with ⟨parts, found, same⟩
      cases same
      rw [List.length_cons, List.length_cons, ih found]
      omega

/-- The loop of `dechunk`, with the parts so far and the bytes from the offset on. -/
def dechunk (cleanClose : Bool) (parts rest : Buffer) : DecodedResponse :=
  if rest = [] then ⟨parts, 0, some (if cleanClose then .MALFORMED else .TRUNCATED)⟩
  else
    match _broken : breakAt crlf rest with
    | none => ⟨parts, 0, some .TRUNCATED⟩
    | some (line, afterLine) =>
      if !isHexText (sizeToken line) then ⟨parts, 0, some .MALFORMED⟩
      else
        let chunkSize := parseHex (sizeToken line)
        if chunkSize = 0 then
          ⟨parts, (if crlf.isPrefixOf afterLine then afterLine.drop 2 else afterLine).length, none⟩
        else if afterLine.length < chunkSize then ⟨parts ++ afterLine, 0, some .TRUNCATED⟩
        else if crlf.isPrefixOf (afterLine.drop chunkSize) then
          dechunk cleanClose (parts ++ afterLine.take chunkSize)
            ((afterLine.drop chunkSize).drop 2)
        else ⟨parts ++ afterLine.take chunkSize, 0, some .MALFORMED⟩
termination_by rest.length
decreasing_by
  have lengths := length_breakAt _broken
  simp only [List.length_drop, crlf, List.length_cons, List.length_nil] at lengths ⊢
  omega

def maxWireBytes : Nat := 8 * 1024 * 1024

def decodeHttpResponse (wire : Buffer) (cleanClose : Bool) : DecodedResponse :=
  if maxWireBytes < wire.length then ⟨[], 0, some .MALFORMED⟩
  else
    match breakAt headerBodySeparator wire with
    | none => ⟨[], 0, some (if cleanClose then .MALFORMED else .TRUNCATED)⟩
    | some (headerBlock, bodyBytes) =>
      let headers := parseHeaders headerBlock
      match headers.get? (js "transfer-encoding"), headers.get? (js "content-length") with
      | some _, some _ => ⟨[], bodyBytes.length, some .AMBIGUOUS_FRAMING⟩
      | some transferEncoding, none =>
        if !transferEncoding.any fun value => includes (js "chunked") (toLowerCase value) then
          ⟨bodyBytes, 0, some .MALFORMED⟩
        else dechunk cleanClose [] bodyBytes
      | none, some contentLength =>
        if 1 < (contentLength.map trim).eraseDups.length then
          ⟨[], bodyBytes.length, some .AMBIGUOUS_FRAMING⟩
        else
          match (numberOfText (contentLength.headD [])).safeNat? with
          | none => ⟨[], 0, some .MALFORMED⟩
          | some declared =>
            if bodyBytes.length < declared then ⟨bodyBytes, 0, some .TRUNCATED⟩
            else ⟨bodyBytes.take declared, bodyBytes.length - declared, none⟩
      | none, none =>
        if cleanClose then ⟨bodyBytes, 0, none⟩ else ⟨bodyBytes, 0, some .TRUNCATED⟩

/-! ### Chunks are read back -/

/-- A chunk on the wire: its size in hex digits of any case and width, and its bytes. -/
structure WireChunk where
  sizeDigits : Buffer
  data : Buffer
  isHex : isHexText (latin1 sizeDigits) = true
  announces : parseHex (latin1 sizeDigits) = data.length
  nonempty : data ≠ []

def WireChunk.bytes (chunk : WireChunk) : Buffer := chunk.sizeDigits ++ crlf ++ chunk.data ++ crlf

theorem hexByte_spec : ∀ byte : UInt8, (hexValue (Fin.ofNat 65536 byte.toNat)).isSome = true →
    byte.toNat < 128 ∧ byte ≠ 13 ∧ Fin.ofNat 65536 byte.toNat ≠ unit ';' ∧
      isSpace (Fin.ofNat 65536 byte.toNat) = false := by
  have every : ∀ value : Fin 256, (hexValue (Fin.ofNat 65536 value.val)).isSome = true →
      value.val < 128 ∧ value.val ≠ 13 ∧ Fin.ofNat 65536 value.val ≠ unit ';' ∧
        isSpace (Fin.ofNat 65536 value.val) = false := by
    decide +kernel
  intro byte isHex
  rcases every byte.toFin isHex with ⟨small, notReturn, notSemicolon, notSpace⟩
  exact ⟨small, fun same => notReturn (congrArg UInt8.toNat same), notSemicolon, notSpace⟩

theorem breakAt_crlf {line rest : Buffer} (noReturn : ∀ byte ∈ line, byte ≠ 13) :
    breakAt crlf (line ++ crlf ++ rest) = some (line, rest) := by
  induction line with
  | nil => rfl
  | cons first later ih =>
    rw [List.forall_mem_cons] at noReturn
    have notHere : crlf.isPrefixOf (first :: (later ++ crlf ++ rest)) = false := by
      rw [crlf, List.isPrefixOf, beq_false_of_ne noReturn.1.symm, Bool.false_and]
    rw [List.cons_append, List.cons_append, breakAt, notHere,
      ih noReturn.2]
    rfl

theorem hexBytes {line : Buffer} (isHex : isHexText (latin1 line) = true) :
    ∀ byte ∈ line, (hexValue (Fin.ofNat 65536 byte.toNat)).isSome = true := by
  rw [isHexText, decide_eq_true_eq, latin1, List.all_map, List.all_eq_true] at isHex
  exact isHex.2

theorem sizeToken_hex {line : Buffer} (isHex : isHexText (latin1 line) = true) :
    sizeToken line = latin1 line := by
  have digits := hexBytes isHex
  have sevenBits : ascii line = latin1 line := by
    apply List.map_congr_left
    intro byte member
    rw [Nat.mod_eq_of_lt (hexByte_spec byte (digits byte member)).1]
  have noSpace : ∀ codeUnit ∈ latin1 line, isSpace codeUnit = false := by
    intro codeUnit member
    rcases List.mem_map.mp member with ⟨byte, inLine, rfl⟩
    exact (hexByte_spec byte (digits byte inLine)).2.2.2
  have noSemicolon : (latin1 line).takeWhile (· ≠ unit ';') = latin1 line := by
    rw [List.takeWhile_eq_self_iff]
    intro codeUnit member
    rcases List.mem_map.mp member with ⟨byte, inLine, rfl⟩
    exact decide_eq_true (hexByte_spec byte (digits byte inLine)).2.2.1
  rw [sizeToken, sevenBits, noSemicolon, trim_eq_self noSpace]

theorem dechunk_line (cleanClose : Bool) (parts : Buffer) {line : Buffer}
    (isHex : isHexText (latin1 line) = true) (rest : Buffer) :
    dechunk cleanClose parts (line ++ crlf ++ rest) =
      if parseHex (latin1 line) = 0 then
        ⟨parts, (if crlf.isPrefixOf rest then rest.drop 2 else rest).length, none⟩
      else if rest.length < parseHex (latin1 line) then ⟨parts ++ rest, 0, some .TRUNCATED⟩
      else if crlf.isPrefixOf (rest.drop (parseHex (latin1 line))) then
        dechunk cleanClose (parts ++ rest.take (parseHex (latin1 line)))
          ((rest.drop (parseHex (latin1 line))).drop 2)
      else ⟨parts ++ rest.take (parseHex (latin1 line)), 0, some .MALFORMED⟩ := by
  have noReturn : ∀ byte ∈ line, byte ≠ 13 :=
    fun byte member => (hexByte_spec byte (hexBytes isHex byte member)).2.1
  have broken := @breakAt_crlf line rest noReturn
  have notEmpty : line ++ crlf ++ rest ≠ [] := by simp [crlf]
  rw [dechunk, if_neg notEmpty]
  split
  next none => rw [broken] at none; cases none
  next line' rest' found =>
    rw [broken] at found
    cases found
    rw [sizeToken_hex isHex, isHex]
    rfl

/-- Chunks written before the last one are what decoding gives, and whatever comes after it is
counted. -/
theorem dechunk_chunks (cleanClose : Bool) (parts : Buffer) (chunks : List WireChunk)
    (trailing : Buffer) :
    dechunk cleanClose parts
        (chunks.flatMap WireChunk.bytes ++ ([48] ++ crlf ++ (crlf ++ trailing))) =
      ⟨parts ++ chunks.flatMap WireChunk.data, trailing.length, none⟩ := by
  induction chunks generalizing parts with
  | nil =>
    have isHex : isHexText (latin1 [48]) = true := by decide
    have isZero : parseHex (latin1 [48]) = 0 := by decide
    rw [List.flatMap_nil, List.nil_append, dechunk_line cleanClose parts isHex, if_pos isZero,
      List.flatMap_nil, List.append_nil]
    rfl
  | cons chunk rest ih =>
    have size := chunk.announces
    have notZero : parseHex (latin1 chunk.sizeDigits) ≠ 0 := by
      rw [size]
      exact fun isZero => chunk.nonempty (List.length_eq_zero_iff.mp isZero)
    rw [List.flatMap_cons, WireChunk.bytes]
    simp only [List.append_assoc]
    rw [← List.append_assoc chunk.sizeDigits, dechunk_line cleanClose parts chunk.isHex,
      if_neg notZero, size, List.take_left, List.drop_left, if_neg, if_pos]
    · have later := ih (parts ++ chunk.data)
      rw [List.append_assoc parts, ← List.flatMap_cons] at later
      exact later
    · exact List.isPrefixOf_iff_prefix.mpr (List.prefix_append crlf _)
    · rw [List.length_append]
      exact Nat.not_lt.mpr (Nat.le_add_right _ _)

end GhostArk.ResearchFrontier.Oracle
