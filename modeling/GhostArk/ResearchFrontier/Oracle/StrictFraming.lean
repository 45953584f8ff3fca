import GhostArk.ResearchFrontier.Oracle.HttpResponse

/-!
Contract: the framing that an accepted response announces.

Owns the header lines as fields, that `parseHeaders` collects the values of each name in their
order, that a response without a fault is as long as its decimal `Content-Length` says, and that the
framing of a response without a fault is unambiguous exactly when its header lines are strict.

Does not own: what the header lines of a strict response are used for besides framing.
-/

namespace GhostArk.ResearchFrontier.Oracle

open Js
open Lib

/-! ### Header lines as fields -/

def headerBlock (wire : Buffer) : Buffer :=
  ((breakAt headerBodySeparator wire).map Prod.fst).getD []

def headerLines (block : Buffer) : List JsString := (splitLines (latin1 block)).tail

def headerField (line : JsString) : Option (JsString × JsString) :=
  let beforeColon := line.takeWhile (· ≠ unit ':')
  if beforeColon = [] ∨ beforeColon = line then none
  else some (toLowerCase (trim beforeColon), trim (line.drop (beforeColon.length + 1)))

def valueOf (name line : JsString) : Option JsString :=
  (headerField line).bind fun field => if field.1 = name then some field.2 else none

def fieldValues (lines : List JsString) (name : JsString) : List JsString :=
  lines.filterMap (valueOf name)

section Fields

variable {name line value : JsString} {lines : List JsString}

theorem addHeader_eq (headers : InsertionMap JsString (List JsString)) (line : JsString) :
    addHeader headers line =
      match headerField line with
      | none => headers
      | some field => headers.set field.1 ((headers.get? field.1).getD [] ++ [field.2]) := by
  unfold addHeader headerField
  by_cases skipped : line.takeWhile (· ≠ unit ':') = [] ∨ line.takeWhile (· ≠ unit ':') = line
  · simp only [if_pos skipped]
  · simp only [if_neg skipped]
    cases found : headers.get? (toLowerCase (trim (line.takeWhile (· ≠ unit ':')))) with
    | some existing => rfl
    | none => rfl

theorem get?_foldl_addHeader (headers : InsertionMap JsString (List JsString))
    (lines : List JsString) (name : JsString) :
    (lines.foldl addHeader headers).get? name =
      if fieldValues lines name = [] then headers.get? name
      else some ((headers.get? name).getD [] ++ fieldValues lines name) := by
  induction lines generalizing headers with
  | nil => rfl
  | cons line lines ih =>
    rw [List.foldl_cons, ih, addHeader_eq]
    cases isField : headerField line with
    | none =>
      have skipped : valueOf name line = none := by rw [valueOf, isField, Option.bind_none]
      rw [fieldValues, fieldValues, List.filterMap_cons_none skipped]
    | some field =>
      by_cases sought : field.1 = name
      · have found : valueOf name line = some field.2 := by
          rw [valueOf, isField, Option.bind_some, if_pos sought]
        have more : fieldValues (line :: lines) name = field.2 :: fieldValues lines name :=
          List.filterMap_cons_some found
        simp only [more, if_neg (List.cons_ne_nil _ _), sought, InsertionMap.get?_set_self]
        split
        next none => rw [none]
        next => rw [Option.getD_some, List.append_assoc, List.singleton_append]
      · have skipped : valueOf name line = none := by
          rw [valueOf, isField, Option.bind_some, if_neg sought]
        simp only [InsertionMap.get?_set_ne _ (Ne.symm sought)]
        rw [fieldValues, fieldValues, List.filterMap_cons_none skipped]

theorem get?_parseHeaders (block : Buffer) (name : JsString) :
    (parseHeaders block).get? name =
      if fieldValues (headerLines block) name = [] then none
      else some (fieldValues (headerLines block) name) := by
  rw [parseHeaders, get?_foldl_addHeader]
  rfl

theorem mem_fieldValues :
    value ∈ fieldValues lines name ↔ ∃ line ∈ lines, headerField line = some (name, value) := by
  have isValue (line : JsString) :
      valueOf name line = some value ↔ headerField line = some (name, value) := by
    rw [valueOf, Option.bind_eq_some_iff]
    constructor
    · rintro ⟨⟨fieldName, fieldValue⟩, isField, same⟩
      by_cases sought : fieldName = name
      · rw [if_pos sought, Option.some.injEq] at same
        rw [isField, sought, ← same]
      · rw [if_neg sought] at same
        cases same
    · intro isField
      exact ⟨_, isField, if_pos rfl⟩
  simp only [fieldValues, List.mem_filterMap, isValue]

end Fields

def BlankBeforeColon (line : JsString) : Prop :=
  unit ':' ∈ line ∧ (line.takeWhile (· ≠ unit ':')).any isSpace = true

def IsDecimal (value : JsString) : Prop := value ≠ [] ∧ value.all isDigit = true

instance (value : JsString) : Decidable (IsDecimal value) := inferInstanceAs (Decidable (_ ∧ _))

def finalCoding (value : JsString) : JsString :=
  toLowerCase (trim (value.reverse.takeWhile (· ≠ unit ',')).reverse)

/-- A line that leaves no doubt about the framing. -/
structure StrictLine (line : JsString) : Prop where
  name : ¬ BlankBeforeColon line
  length : ∀ value, headerField line = some (js "content-length", value) → IsDecimal value
  coding : ∀ value, headerField line = some (js "transfer-encoding", value) →
    finalCoding value = js "chunked"

/-- The lines are strict, and at most one of them is a `Transfer-Encoding`. -/
structure StrictLines (lines : List JsString) : Prop where
  strict : ∀ line ∈ lines, StrictLine line
  single : (fieldValues lines (js "transfer-encoding")).length ≤ 1

/-- What the framing of a response says of it. A response without a fault has no `Content-Length`
beside a `Transfer-Encoding`, so the one that it has is the one that was used. -/
structure UnambiguousFraming (lines : List JsString) (response : DecodedResponse) : Prop where
  contentLength : ∀ value ∈ fieldValues lines (js "content-length"),
    IsDecimal value ∧ digitsNat value = response.decodedBody.length
  transferEncoding : fieldValues lines (js "transfer-encoding") ≠ [] →
    ∃ value, fieldValues lines (js "transfer-encoding") = [value] ∧
      finalCoding value = js "chunked"
  names : ∀ line ∈ lines, ¬ BlankBeforeColon line

section Accepted

variable {wire : Buffer} {cleanClose : Bool}

theorem eq_of_eraseDups {Element : Type} [BEq Element] [LawfulBEq Element] {values : List Element}
    (single : values.eraseDups.length ≤ 1) {first second : Element} (isFirst : first ∈ values)
    (isSecond : second ∈ values) : first = second := by
  rw [← List.mem_eraseDups] at isFirst isSecond
  rcases List.length_eq_one_iff.mp (le_antisymm single (List.length_pos_of_mem isFirst)) with
    ⟨only, same⟩
  rw [same, List.mem_singleton] at isFirst isSecond
  rw [isFirst, isSecond]

theorem trim_of_isDecimal {value : JsString} (decimal : IsDecimal value) : trim value = value := by
  have digits := List.all_eq_true.mp decimal.2
  exact trim_eq_self fun codeUnit member => (isDigit_facts codeUnit (digits codeUnit member)).1

theorem length_decodedBody (accepted : (decodeHttpResponse wire cleanClose).fault = none)
    (decimal : ∀ value ∈ fieldValues (headerLines (headerBlock wire)) (js "content-length"),
      IsDecimal value) :
    ∀ value ∈ fieldValues (headerLines (headerBlock wire)) (js "content-length"),
      digitsNat value = (decodeHttpResponse wire cleanClose).decodedBody.length := by
  intro value member
  unfold decodeHttpResponse at accepted ⊢
  by_cases long : maxWireBytes < wire.length
  · rw [if_pos long] at accepted
    cases accepted
  rw [if_neg long] at accepted ⊢
  cases broken : breakAt headerBodySeparator wire with
  | none =>
    rw [headerBlock, broken] at member
    cases member
  | some parts =>
    rcases parts with ⟨block, bodyBytes⟩
    have isBlock : headerBlock wire = block := by rw [headerBlock, broken]; rfl
    rw [isBlock] at member decimal
    simp only [broken, get?_parseHeaders, if_neg (List.ne_nil_of_mem member)] at accepted ⊢
    by_cases chunked : fieldValues (headerLines block) (js "transfer-encoding") = []
    · simp only [if_pos chunked] at accepted ⊢
      generalize fieldValues (headerLines block) (js "content-length") = contentLength at *
      by_cases conflicting : 1 < (contentLength.map trim).eraseDups.length
      · rw [if_pos conflicting] at accepted
        cases accepted
      rw [if_neg conflicting] at accepted ⊢
      obtain ⟨first, rest, rfl⟩ := List.exists_cons_of_ne_nil (List.ne_nil_of_mem member)
      have isFirst : value = first := by
        have same := eq_of_eraseDups (not_lt.mp conflicting) (List.mem_map_of_mem member)
          (List.mem_map_of_mem (List.mem_cons_self (a := first)))
        rwa [trim_of_isDecimal (decimal value member),
          trim_of_isDecimal (decimal first (.head _))] at same
      rw [List.headD_cons, ← isFirst] at accepted ⊢
      cases declared : (numberOfText value).safeNat? with
      | none =>
        simp only [declared] at accepted
        cases accepted
      | some declaredLength =>
        simp only [declared] at accepted ⊢
        by_cases short : bodyBytes.length < declaredLength
        · rw [if_pos short] at accepted
          cases accepted
        · rw [if_neg short, List.length_take, Nat.min_eq_left (not_lt.mp short)]
          have isDecimal := decimal value member
          exact (digitsNat_of_safeNat? isDecimal.1 (List.all_eq_true.mp isDecimal.2)
            declared).symm
    · simp only [if_neg chunked] at accepted
      cases accepted

/-- **Unambiguous framing.** The framing of a response without a fault is unambiguous exactly when
its header lines are strict. -/
theorem unambiguousFraming_iff (wire : Buffer) (cleanClose : Bool)
    (accepted : (decodeHttpResponse wire cleanClose).fault = none) :
    UnambiguousFraming (headerLines (headerBlock wire)) (decodeHttpResponse wire cleanClose) ↔
      StrictLines (headerLines (headerBlock wire)) := by
  constructor
  · intro framing
    constructor
    · intro line member
      refine ⟨framing.names line member, fun value isLength => ?_, fun value isCoding => ?_⟩
      · exact (framing.contentLength value (mem_fieldValues.mpr ⟨line, member, isLength⟩)).1
      · have isValue := mem_fieldValues.mpr ⟨line, member, isCoding⟩
        rcases framing.transferEncoding (List.ne_nil_of_mem isValue) with ⟨only, single, final⟩
        rw [single, List.mem_singleton] at isValue
        rwa [isValue]
    · by_cases absent : fieldValues (headerLines (headerBlock wire)) (js "transfer-encoding") = []
      · rw [absent]
        exact Nat.zero_le 1
      · rcases framing.transferEncoding absent with ⟨only, single, -⟩
        rw [single]
        exact Nat.le_refl 1
  · rintro ⟨strict, single⟩
    have decimal : ∀ value ∈ fieldValues (headerLines (headerBlock wire)) (js "content-length"),
        IsDecimal value := by
      intro value member
      rcases mem_fieldValues.mp member with ⟨line, inLines, isField⟩
      exact (strict line inLines).length value isField
    refine ⟨fun value member => ⟨decimal value member,
      length_decodedBody accepted decimal value member⟩, fun present => ?_,
      fun line member => (strict line member).name⟩
    rcases List.length_eq_one_iff.mp (le_antisymm single (List.length_pos_iff.mpr present)) with
      ⟨value, isValue⟩
    have member : value ∈
        fieldValues (headerLines (headerBlock wire)) (js "transfer-encoding") := by
      rw [isValue]
      exact .head _
    rcases mem_fieldValues.mp member with ⟨line, inLines, isField⟩
    exact ⟨value, isValue, (strict line inLines).coding value isField⟩

end Accepted

namespace FramingSample

def response (length : String) : Buffer :=
  ("HTTP/1.1 200 OK\r\nContent-Length: " ++ length ++ "\r\n\r\nabc").toByteArray.data.toList

theorem decimal_unambiguous :
    (decodeHttpResponse (response "3") true).fault = none ∧
      (UnambiguousFraming (headerLines (headerBlock (response "3")))
          (decodeHttpResponse (response "3") true) ↔
        StrictLines (headerLines (headerBlock (response "3")))) := by
  have accepted : (decodeHttpResponse (response "3") true).fault = none := by decide +kernel
  exact ⟨accepted, unambiguousFraming_iff _ _ accepted⟩

/-- A length in hex digits is accepted. -/
theorem hex_accepted :
    ¬ ∀ (wire : Buffer) (cleanClose : Bool), (decodeHttpResponse wire cleanClose).fault = none →
      UnambiguousFraming (headerLines (headerBlock wire)) (decodeHttpResponse wire cleanClose) := by
  intro unambiguous
  have framing := unambiguous (response "0x3") true (by decide +kernel)
  have isValue : js "0x3" ∈ fieldValues (headerLines (headerBlock (response "0x3")))
      (js "content-length") := by
    decide +kernel
  exact absurd (framing.contentLength _ isValue).1 (by decide +kernel)

end FramingSample

end GhostArk.ResearchFrontier.Oracle
