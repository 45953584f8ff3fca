import GhostArk.ResearchFrontier.Oracle.HttpResponse

/-!
Contract: responses framed in chunks.

Owns the response whose one header is `Transfer-Encoding: chunked`, that such a response is decoded
to its chunks, that every cut before the end of its last-chunk line is a fault, and that appended
bytes are counted as long as the response stays within `MAX_WIRE_BYTES`.

Does not own: trailer fields, and how other headers are read.
-/

namespace GhostArk.ResearchFrontier.Oracle

open Js
open Lib

def chunkedHeader : Buffer := "Transfer-Encoding: chunked".toByteArray.data.toList

/-- The status line, the one header and the empty line. -/
def chunkedHead (statusLine : Buffer) : Buffer :=
  statusLine ++ crlf ++ chunkedHeader ++ headerBodySeparator

def lastChunkLine : Buffer := [48] ++ crlf

def encodedChunks (chunks : List WireChunk) : Buffer := chunks.flatMap WireChunk.bytes

def chunkedResponse (statusLine : Buffer) (chunks : List WireChunk) : Buffer :=
  chunkedHead statusLine ++ encodedChunks chunks ++ lastChunkLine ++ crlf

section Head

variable {statusLine : Buffer}

theorem breakAt_append {before : Buffer} (noReturn : ∀ byte ∈ before, byte ≠ 13) (rest : Buffer) :
    breakAt headerBodySeparator (before ++ rest) =
      (breakAt headerBodySeparator rest).map fun parts => (before ++ parts.1, parts.2) := by
  induction before with
  | nil => simp
  | cons first before ih =>
    rw [List.forall_mem_cons] at noReturn
    have notHere : headerBodySeparator.isPrefixOf (first :: (before ++ rest)) = false := by
      rw [headerBodySeparator, List.isPrefixOf, beq_false_of_ne noReturn.1.symm, Bool.false_and]
    rw [List.cons_append, breakAt, notHere, ih noReturn.2]
    cases breakAt headerBodySeparator rest with
    | none => rfl
    | some parts => rfl

theorem breakAt_chunkedHead (noReturn : ∀ byte ∈ statusLine, byte ≠ 13) (body : Buffer) :
    breakAt headerBodySeparator (chunkedHead statusLine ++ body) =
      some (statusLine ++ crlf ++ chunkedHeader, body) := by
  have header : ∀ byte ∈ chunkedHeader, byte ≠ 13 := by decide +kernel
  have afterHeader : breakAt headerBodySeparator (headerBodySeparator ++ body) = some ([], body) :=
    rfl
  have atLine :
      breakAt headerBodySeparator (crlf ++ (chunkedHeader ++ (headerBodySeparator ++ body))) =
      some (crlf ++ chunkedHeader, body) := by
    have fromHeader := breakAt_append header (headerBodySeparator ++ body)
    have startsWithT : chunkedHeader = 84 :: chunkedHeader.tail := by decide +kernel
    have notAtReturn (rest : Buffer) :
        headerBodySeparator.isPrefixOf (13 :: 10 :: (84 :: rest)) = false := rfl
    have notAtFeed (rest : Buffer) : headerBodySeparator.isPrefixOf (10 :: rest) = false := rfl
    rw [afterHeader] at fromHeader
    change breakAt headerBodySeparator (13 :: 10 :: (chunkedHeader ++ _)) = _
    rw [breakAt, startsWithT, List.cons_append, notAtReturn, ← List.cons_append, ← startsWithT,
      breakAt, notAtFeed, fromHeader, Option.map_some, List.append_nil]
    rfl
  simp only [chunkedHead, List.append_assoc]
  rw [breakAt_append noReturn, atLine]
  rfl

theorem splitLines_append {line : JsString} (noReturn : unit '\r' ∉ line) (rest : JsString) :
    splitLines (line ++ unit '\r' :: unit '\n' :: rest) = line :: splitLines rest := by
  induction line with
  | nil => rw [List.nil_append, splitLines, if_pos ⟨rfl, rfl⟩]
  | cons first line ih =>
    rw [List.mem_cons, not_or] at noReturn
    have later := ih noReturn.2
    have notHere : ∀ second, ¬ (first = unit '\r' ∧ second = unit '\n') :=
      fun second here => noReturn.1 here.1.symm
    cases line with
    | nil =>
      rw [List.nil_append] at later
      rw [List.singleton_append, splitLines, if_neg (notHere _), later]
    | cons second line =>
      rw [List.cons_append] at later
      rw [List.cons_append, List.cons_append, splitLines, if_neg (notHere _), later]

theorem not_mem_latin1 {bytes : Buffer} (noReturn : ∀ byte ∈ bytes, byte ≠ 13) :
    unit '\r' ∉ latin1 bytes := by
  intro member
  rcases List.mem_map.mp member with ⟨byte, inBytes, same⟩
  have small : byte.toNat % 65536 = 13 := congrArg Fin.val same
  have isReturn : byte.toNat = 13 := by
    have bound := byte.toNat_lt
    omega
  exact noReturn byte inBytes (UInt8.toNat_inj.mp isReturn)

theorem parseHeaders_chunked (noReturn : ∀ byte ∈ statusLine, byte ≠ 13) :
    parseHeaders (statusLine ++ crlf ++ chunkedHeader) = addHeader .empty (latin1 chunkedHeader) := by
  have joined : latin1 (statusLine ++ crlf ++ chunkedHeader) =
      latin1 statusLine ++ unit '\r' :: unit '\n' :: latin1 chunkedHeader := by
    rw [latin1, List.map_append, List.map_append, List.append_assoc]
    rfl
  have oneLine : splitLines (latin1 chunkedHeader) = [latin1 chunkedHeader] := by decide +kernel
  rw [parseHeaders, joined, splitLines_append (not_mem_latin1 noReturn), oneLine]
  rfl

theorem decodeHttpResponse_chunked (noReturn : ∀ byte ∈ statusLine, byte ≠ 13) {body : Buffer}
    (fits : (chunkedHead statusLine ++ body).length ≤ maxWireBytes) (cleanClose : Bool) :
    decodeHttpResponse (chunkedHead statusLine ++ body) cleanClose =
      dechunk cleanClose [] body := by
  have encoding : (addHeader .empty (latin1 chunkedHeader)).get? (js "transfer-encoding") =
      some [js "chunked"] := by
    decide +kernel
  have noLength : (addHeader .empty (latin1 chunkedHeader)).get? (js "content-length") = none := by
    decide +kernel
  have isChunked : ([js "chunked"].any fun value => includes (js "chunked") (toLowerCase value)) =
      true := by
    decide +kernel
  rw [decodeHttpResponse, if_neg (Nat.not_lt.mpr fits), breakAt_chunkedHead noReturn]
  simp only [parseHeaders_chunked noReturn, encoding, noLength, isChunked, Bool.not_true,
    Bool.false_eq_true, if_false]

end Head

/-! ### Cuts -/

theorem prefix_append_cases {Element : Type} {cut before after : List Element}
    (cuts : cut <+: before ++ after) :
    (cut <+: before ∧ cut.length < before.length) ∨ ∃ rest, cut = before ++ rest ∧ rest <+: after := by
  rcases Nat.lt_or_ge cut.length before.length with short | long
  · exact Or.inl ⟨List.prefix_of_prefix_length_le cuts (List.prefix_append _ _) short.le, short⟩
  · rcases List.prefix_of_prefix_length_le (List.prefix_append _ _) cuts long with ⟨rest, same⟩
    subst same
    exact Or.inr ⟨rest, rfl, (List.prefix_append_right_inj before).mp cuts⟩

theorem breakAt_crlf_none {bytes : Buffer} (noFeed : ∀ byte ∈ bytes, byte ≠ 10) :
    breakAt crlf bytes = none := by
  induction bytes with
  | nil => rfl
  | cons first rest ih =>
    rw [List.forall_mem_cons] at noFeed
    have notHere : crlf.isPrefixOf (first :: rest) = false := by
      cases rest with
      | nil => simp [crlf, List.isPrefixOf]
      | cons second rest => simp [crlf, List.isPrefixOf, (noFeed.2 second (.head _)).symm]
    rw [breakAt, notHere, ih noFeed.2]
    rfl

theorem dechunk_unended (cleanClose : Bool) (parts : Buffer) {rest : Buffer}
    (noFeed : ∀ byte ∈ rest, byte ≠ 10) : (dechunk cleanClose parts rest).fault ≠ none := by
  rw [dechunk]
  split
  next => exact Option.some_ne_none _
  next =>
    have unbroken := breakAt_crlf_none noFeed
    split
    next => exact Option.some_ne_none _
    next line afterLine broken =>
      rw [unbroken] at broken
      cases broken

theorem hexByte_not_feed : ∀ byte : UInt8,
    (hexValue (Fin.ofNat 65536 byte.toNat)).isSome = true → byte ≠ 10 := by
  rintro byte isHex rfl
  revert isHex
  decide

theorem cut_in_line {digits cut : Buffer} (isHex : isHexText (latin1 digits) = true)
    (cuts : cut <+: digits ++ [13]) : ∀ byte ∈ cut, byte ≠ 10 := by
  intro byte member
  rcases List.mem_append.mp (cuts.subset member) with inDigits | isReturn
  · exact hexByte_not_feed byte (hexBytes isHex byte inDigits)
  · rw [List.mem_singleton.mp isReturn]
    decide

/-- A chunked body cut short is refused. -/
theorem dechunk_cut (cleanClose : Bool) (parts : Buffer) {chunks : List WireChunk} {cut : Buffer}
    (cuts : cut <+: encodedChunks chunks ++ [48, 13]) :
    (dechunk cleanClose parts cut).fault ≠ none := by
  induction chunks generalizing parts cut with
  | nil =>
    have isHex : isHexText (latin1 [48]) = true := by decide
    exact dechunk_unended cleanClose parts (cut_in_line isHex cuts)
  | cons chunk rest ih =>
    have line : encodedChunks (chunk :: rest) ++ [48, 13] = (chunk.sizeDigits ++ [13]) ++
        ([10] ++ (chunk.data ++ (crlf ++ (encodedChunks rest ++ [48, 13])))) := by
      simp [encodedChunks, WireChunk.bytes, crlf]
    rw [line] at cuts
    rcases prefix_append_cases cuts with ⟨inLine, -⟩ | ⟨afterReturn, rfl, cutsReturn⟩
    · exact dechunk_unended cleanClose parts (cut_in_line chunk.isHex inLine)
    rcases prefix_append_cases cutsReturn with ⟨-, short⟩ | ⟨afterLine, rfl, cutsLine⟩
    · rw [List.length_singleton, Nat.lt_one_iff, List.length_eq_zero_iff] at short
      rw [short, List.append_nil]
      exact dechunk_unended cleanClose parts (cut_in_line chunk.isHex (List.prefix_refl _))
    have notZero : chunk.data.length ≠ 0 := mt List.length_eq_zero_iff.mp chunk.nonempty
    have atLine : chunk.sizeDigits ++ [13] ++ ([10] ++ afterLine) =
        chunk.sizeDigits ++ crlf ++ afterLine := by
      simp [crlf]
    rw [atLine, dechunk_line cleanClose parts chunk.isHex, chunk.announces, if_neg notZero]
    rcases prefix_append_cases cutsLine with ⟨-, short⟩ | ⟨afterData, rfl, cutsData⟩
    · rw [if_pos short]
      exact Option.some_ne_none _
    have long : ¬ (chunk.data ++ afterData).length < chunk.data.length := by
      rw [List.length_append]
      omega
    rw [if_neg long, List.drop_left, List.take_left]
    rcases prefix_append_cases cutsData with ⟨-, short⟩ | ⟨later, rfl, cutsLater⟩
    · have notPrefix : ¬ crlf.isPrefixOf afterData = true := by
        intro isPrefix
        exact Nat.not_lt.mpr (List.isPrefixOf_iff_prefix.mp isPrefix).length_le short
      rw [if_neg notPrefix]
      exact Option.some_ne_none _
    · rw [if_pos (List.isPrefixOf_iff_prefix.mpr (List.prefix_append _ _))]
      exact ih _ cutsLater

/-- **Chunked framing.** A response in chunks is decoded to the bytes of its chunks, it is a fault
when it is cut in its body before the end of the last-chunk line, and bytes appended within
`MAX_WIRE_BYTES` are counted. -/
theorem chunkedResponse_decoded (statusLine : Buffer) (noReturn : ∀ byte ∈ statusLine, byte ≠ 13)
    (chunks : List WireChunk) (cleanClose : Bool)
    (fits : (chunkedResponse statusLine chunks).length ≤ maxWireBytes) :
    decodeHttpResponse (chunkedResponse statusLine chunks) cleanClose =
        ⟨chunks.flatMap WireChunk.data, 0, none⟩ ∧
      (∀ cut, cut <+: encodedChunks chunks ++ [48, 13] →
        (decodeHttpResponse (chunkedHead statusLine ++ cut) cleanClose).fault ≠ none) ∧
      ∀ appended, (chunkedResponse statusLine chunks ++ appended).length ≤ maxWireBytes →
        decodeHttpResponse (chunkedResponse statusLine chunks ++ appended) cleanClose =
          ⟨chunks.flatMap WireChunk.data, appended.length, none⟩ := by
  have counts : ∀ appended, (chunkedResponse statusLine chunks ++ appended).length ≤ maxWireBytes →
      decodeHttpResponse (chunkedResponse statusLine chunks ++ appended) cleanClose =
        ⟨chunks.flatMap WireChunk.data, appended.length, none⟩ := by
    intro appended small
    have split : chunkedResponse statusLine chunks ++ appended = chunkedHead statusLine ++
        (chunks.flatMap WireChunk.bytes ++ ([48] ++ crlf ++ (crlf ++ appended))) := by
      simp [chunkedResponse, encodedChunks, lastChunkLine]
    rw [split] at small ⊢
    rw [decodeHttpResponse_chunked noReturn small, dechunk_chunks, List.nil_append]
  refine ⟨?_, ?_, counts⟩
  · have whole := counts [] (by rwa [List.append_nil])
    rwa [List.append_nil] at whole
  · intro cut cuts
    have shorter := cuts.length_le
    have small : (chunkedHead statusLine ++ cut).length ≤ maxWireBytes := by
      simp only [chunkedResponse, lastChunkLine, crlf, List.length_append, List.length_cons,
        List.length_nil] at fits shorter ⊢
      omega
    rw [decodeHttpResponse_chunked noReturn small]
    exact dechunk_cut cleanClose [] cuts

namespace ChunkedSample

def statusLine : Buffer := "HTTP/1.1 200 OK".toByteArray.data.toList

/-- A chunk of three bytes, two of them the end of a line. -/
def chunk : WireChunk where
  sizeDigits := [51]
  data := [65, 13, 10]
  isHex := by decide
  announces := by decide
  nonempty := by decide

theorem chunk_decoded :
    decodeHttpResponse (chunkedResponse statusLine [chunk]) true = ⟨[65, 13, 10], 0, none⟩ ∧
      (∀ cut, cut <+: encodedChunks [chunk] ++ [48, 13] →
        (decodeHttpResponse (chunkedHead statusLine ++ cut) true).fault ≠ none) ∧
      ∀ appended, (chunkedResponse statusLine [chunk] ++ appended).length ≤ maxWireBytes →
        decodeHttpResponse (chunkedResponse statusLine [chunk] ++ appended) true =
          ⟨[65, 13, 10], appended.length, none⟩ :=
  chunkedResponse_decoded statusLine (by decide +kernel) [chunk] true (by decide +kernel)

/-- Bytes appended beyond `MAX_WIRE_BYTES` are a fault and are not counted. -/
theorem appended_beyond_refused :
    ¬ ∀ (statusLine : Buffer) (chunks : List WireChunk) (cleanClose : Bool),
      (∀ byte ∈ statusLine, byte ≠ 13) →
      (chunkedResponse statusLine chunks).length ≤ maxWireBytes → ∀ appended,
        (decodeHttpResponse (chunkedResponse statusLine chunks ++ appended)
          cleanClose).trailingBytes = appended.length := by
  intro counts
  have count := counts statusLine [] true (by decide +kernel) (by decide +kernel)
    (List.replicate maxWireBytes 0)
  have long : maxWireBytes <
      (chunkedResponse statusLine [] ++ List.replicate maxWireBytes 0).length := by
    have nonempty : 0 < (chunkedResponse statusLine []).length := by decide +kernel
    rw [List.length_append, List.length_replicate]
    omega
  rw [decodeHttpResponse, if_pos long, List.length_replicate] at count
  exact absurd count (by decide +kernel)

end ChunkedSample

end GhostArk.ResearchFrontier.Oracle
