import Mathlib.Tactic.NormNum
import GhostArk.ReceiptSchema.CanonicalIdentity
import GhostArk.ReceiptSchema.DuplicateKeyDetection

/-!
Contract: integers behind the admission scanner.

Owns what an admitted literal can denote, documents that differ in one literal,
and the exact condition under which two admitted integer literals keep different
doubles, and the documents different canonical texts.

A plain integer is held to the safe integers by R2. A fraction or an exponent
takes a literal out of R2, and the digits that R3 allows reach beyond `2 ^ 53`.
-/

namespace GhostArk.ReceiptSchema

open Js Js.JsonGrammar

def literalDocument (literal : NumberLiteral) : Document :=
  ⟨⟨[], by simp⟩, .number literal, ⟨[], by simp⟩⟩

theorem literalDocument_text (literal : NumberLiteral) :
    (literalDocument literal).text = literal.text := by
  unfold literalDocument Document.text Document.points
  dsimp only
  rw [List.nil_append, List.append_nil]
  rfl

/-- The text passes the scanner without a violation. -/
def Admitted (text : JsString) : Prop := findStrictAdmissionViolations text = .ok []

theorem admitted_text_iff {document : Document} :
    Admitted document.text ↔
      valueViolations [] (width document.before.val) document.value = [] := by
  unfold Admitted
  rw [findStrictAdmissionViolations_text, Except.ok.injEq]

variable {literal : NumberLiteral}

theorem admitted_literal_iff :
    Admitted literal.text ↔
      exceedsSafeInteger (decide literal.IsPlain) (double literal.value) = false ∧
        countSignificantDigits literal.text ≤ maxSignificantDigits := by
  rw [← literalDocument_text, admitted_text_iff, literalDocument_text]
  change numberViolations [] 0 (decide literal.IsPlain) literal.text = [] ↔ _
  unfold numberViolations
  rw [literal.numberOf_text, List.append_eq_nil_iff]
  refine and_congr ?_ ?_
  · cases exceedsSafeInteger (decide literal.IsPlain) (double literal.value) with
    | true => simp
    | false => simp
  · by_cases many : maxSignificantDigits < countSignificantDigits literal.text
    · simp [many]
    · simp [many, not_lt.mp many]

/-! ### Significant digits -/

private theorem foldl_digits_lt (digits : List Digit) (start : ℕ) :
    digits.foldl (fun value digit => value * 10 + digit.val) start <
      (start + 1) * 10 ^ digits.length := by
  induction digits generalizing start with
  | nil => simp
  | cons digit rest ih =>
    have small := digit.isLt
    calc (digit :: rest).foldl (fun value digit => value * 10 + digit.val) start
        < (start * 10 + digit.val + 1) * 10 ^ rest.length := ih _
      _ ≤ ((start + 1) * 10) * 10 ^ rest.length := Nat.mul_le_mul_right _ (by omega)
      _ = (start + 1) * 10 ^ (digit :: rest).length := by
        rw [List.length_cons, pow_succ]
        ring

theorem digitsValue_lt (digits : List Digit) :
    NumberLiteral.digitsValue digits <
      10 ^ (digits.dropWhile fun digit => digit == 0).length := by
  induction digits with
  | nil => simp [NumberLiteral.digitsValue]
  | cons digit rest ih =>
    by_cases isZero : digit = 0
    · rw [List.dropWhile_cons_of_pos (by simp [isZero])]
      rw [isZero]
      exact ih
    · rw [List.dropWhile_cons_of_neg (by simp [isZero])]
      exact lt_of_lt_of_eq (foldl_digits_lt _ 0) (by rw [zero_add, one_mul])

theorem countSignificantDigits_plain (plain : literal.IsPlain) :
    countSignificantDigits literal.text =
      (literal.integer.digits.dropWhile fun digit => digit == 0).length := by
  have digitFacts : ∀ digit : Digit, isSign (digitUnit digit) = false ∧
      isExponentMark (digitUnit digit) = false ∧ digitUnit digit ≠ unit '.' ∧
        (digitUnit digit == unit '0') = (digit == 0) := by
    decide
  have isText : literal.text = literal.signText ++ digitText literal.integer.digits := by
    rw [literal.text_eq, NumberLiteral.fractionText, NumberLiteral.exponentText, plain.1, plain.2,
      List.append_nil, List.append_nil]
  have unsigned : withoutSign literal.text = digitText literal.integer.digits := by
    rw [isText, NumberLiteral.signText]
    unfold withoutSign
    cases literal.minus with
    | true => rfl
    | false =>
      cases literal.integer with
      | zero => rfl
      | nonzero first rest =>
        have isHead : (digitText (IntegerPart.nonzero first rest).digits).head?.any isSign =
            false :=
          (digitFacts first.succ).1
        rw [if_neg Bool.false_ne_true, List.nil_append, isHead, if_neg Bool.false_ne_true]
  have whole : (digitText literal.integer.digits).takeWhile
      (fun codeUnit => !isExponentMark codeUnit) = digitText literal.integer.digits := by
    refine List.takeWhile_eq_self_iff.mpr fun codeUnit member => ?_
    rcases List.mem_map.mp member with ⟨digit, -, rfl⟩
    rw [(digitFacts digit).2.1]
    rfl
  have noPoint : unit '.' ∉ digitText literal.integer.digits := by
    intro member
    rcases List.mem_map.mp member with ⟨digit, -, isPoint⟩
    exact (digitFacts digit).2.2.1 isPoint
  unfold countSignificantDigits
  dsimp only
  rw [unsigned, whole, List.erase_of_not_mem noPoint, digitText, List.dropWhile_map,
    List.length_map]
  congr 2
  funext digit
  exact (digitFacts digit).2.2.2

theorem natAbs_of_plain (plain : literal.IsPlain) {value : ℤ} (isValue : literal.value = value) :
    value.natAbs = NumberLiteral.digitsValue literal.integer.digits := by
  unfold NumberLiteral.value NumberLiteral.significand NumberLiteral.exponentValue at isValue
  rw [plain.1, plain.2] at isValue
  simp only [Option.elim_none, List.append_nil, List.length_nil, Nat.cast_zero, sub_zero,
    zpow_zero, mul_one] at isValue
  split at isValue
  next => 
    have isInteger : value = -(NumberLiteral.digitsValue literal.integer.digits : ℤ) := by
      exact_mod_cast isValue.symm
    omega
  next =>
    have isInteger : value = (NumberLiteral.digitsValue literal.integer.digits : ℤ) := by
      exact_mod_cast isValue.symm
    omega

theorem not_sharesDouble_of_plain (plain : literal.IsPlain) {value other : ℤ}
    (isValue : literal.value = value) (admitted : Admitted literal.text) :
    ¬ SharesDouble value other := by
  intro shared
  rcases admitted_literal_iff.mp admitted with ⟨safe, few⟩
  have large := lt_natAbs_of_sharesDouble shared
  have bounded : value.natAbs < 10 ^ 17 := by
    rw [natAbs_of_plain plain isValue]
    refine lt_of_lt_of_le (digitsValue_lt _) (Nat.pow_le_pow_right (by decide) ?_)
    rwa [← countSignificantDigits_plain plain]
  rw [isValue, decide_eq_true plain] at safe
  have within : ¬ Overflows value.natAbs := by
    have far : 10 ^ 17 + 2 ^ (doubleLimitBits - 52 - 2) ≤ 2 ^ doubleLimitBits := by decide +kernel
    unfold Overflows
    omega
  rcases exists_finite_double within with ⟨rounded, isDouble⟩
  have beyond := lt_abs_of_double isDouble large
  rw [isDouble, exceedsSafeInteger, Bool.true_and, decide_eq_false_iff_not] at safe
  exact safe beyond

section Difference

variable (left right : NumberLiteral)

mutual

/-- Trees that agree but for one place, where each has its own literal. -/
inductive DiffersAt : JsonValue → JsonValue → Prop
  | here : DiffersAt (.number left) (.number right)
  | array {items others : JsonItems} :
      ItemsDifferAt items others → DiffersAt (.array items) (.array others)
  | object {members others : JsonMembers} :
      MembersDifferAt members others → DiffersAt (.object members) (.object others)

inductive ItemsDifferAt : JsonItems → JsonItems → Prop
  | last {value other : JsonValue} (before after : Blank) :
      DiffersAt value other → ItemsDifferAt (.last before value after) (.last before other after)
  | here {value other : JsonValue} (before after : Blank) (rest : JsonItems) :
      DiffersAt value other →
        ItemsDifferAt (.more before value after rest) (.more before other after rest)
  | later {items others : JsonItems} (before : Blank) (value : JsonValue) (after : Blank) :
      ItemsDifferAt items others →
        ItemsDifferAt (.more before value after items) (.more before value after others)

inductive MembersDifferAt : JsonMembers → JsonMembers → Prop
  | last {value other : JsonValue} (beforeKey : Blank) (key : List CharToken)
      (afterKey before after : Blank) :
      DiffersAt value other →
        MembersDifferAt (.last beforeKey key afterKey before value after)
          (.last beforeKey key afterKey before other after)
  | here {value other : JsonValue} (beforeKey : Blank) (key : List CharToken)
      (afterKey before after : Blank) (rest : JsonMembers) :
      DiffersAt value other →
        MembersDifferAt (.more beforeKey key afterKey before value after rest)
          (.more beforeKey key afterKey before other after rest)
  | later {members others : JsonMembers} (beforeKey : Blank) (key : List CharToken)
      (afterKey before : Blank) (value : JsonValue) (after : Blank) :
      MembersDifferAt members others →
        MembersDifferAt (.more beforeKey key afterKey before value after members)
          (.more beforeKey key afterKey before value after others)

end

def DifferOnlyIn (document other : Document) : Prop :=
  document.before = other.before ∧ document.after = other.after ∧
    DiffersAt left right document.value other.value

end Difference

section Identity

variable (numbers : NumberText)

/-- The canonical text of what the text parses to. -/
def HasIdentity (text identity : JsString) : Prop :=
  ∃ parsed, parse numbers text = some parsed ∧ canonicalize numbers parsed = .ok identity

/-- Two texts have one canonical text. -/
def ShareIdentity (text other : JsString) : Prop :=
  ∃ identity, HasIdentity numbers text identity ∧ HasIdentity numbers other identity

theorem isUndefined_written (value : JsonValue) : isUndefined (value.written numbers) = false := by
  cases value with
  | null => rfl
  | bool _ => rfl
  | number _ => rfl
  | string _ => rfl
  | emptyArray _ => rfl
  | array _ => rfl
  | emptyObject _ => rfl
  | object _ => rfl

private theorem canonicalizeItems_written {value : JsonValue} {rest : List JsValue} {index : Nat}
    {texts : List JsString}
    (rendered : canonicalizeItems numbers index (value.written numbers :: rest) = .ok texts) :
    (∃ text, canonicalize numbers (value.written numbers) = .ok text) ∧
      ∃ restTexts, canonicalizeItems numbers (index + 1) rest = .ok restTexts := by
  rw [canonicalizeItems_cons numbers (isUndefined_written numbers value)] at rendered
  cases here : canonicalize numbers (value.written numbers) with
  | error error =>
    rw [here] at rendered
    cases rendered
  | ok text =>
    rw [here] at rendered
    cases later : canonicalizeItems numbers (index + 1) rest with
    | error error =>
      rw [later] at rendered
      cases rendered
    | ok restTexts => exact ⟨⟨text, rfl⟩, restTexts, rfl⟩

mutual

theorem isJson_written : ∀ (value : JsonValue) {text : JsString}, value.KeysDistinct →
    canonicalize numbers (value.written numbers) = .ok text →
      (value.written numbers).isJson = true
  | .null, _, _, _ => rfl
  | .bool _, _, _, _ => rfl
  | .string _, _, _, _ => rfl
  | .emptyArray _, _, _, _ => rfl
  | .emptyObject _, _, _, _ => rfl
  | .number literal, _, _, rendered => by
    rw [JsonValue.written] at rendered ⊢
    exact isFinite_of_canonicalize numbers rendered
  | .array items, _, distinct, rendered => by
    rw [JsonValue.written] at rendered ⊢
    rw [canonicalize] at rendered
    rw [isJson_array_iff]
    cases ofItems : canonicalizeItems numbers 0 (items.written numbers) with
    | error error =>
      rw [ofItems] at rendered
      cases rendered
    | ok texts => exact areJson_written items distinct ofItems
  | .object members, _, distinct, rendered => by
    rw [JsonValue.written] at rendered ⊢
    rw [isJson_object_iff, keys_written]
    refine ⟨?_, distinct _ List.mem_cons_self⟩
    apply entriesAreJson_written members
    · exact fun keys member => distinct keys (List.mem_cons_of_mem _ member)
    · exact canonicalize_entry numbers rendered

theorem areJson_written : ∀ (items : JsonItems) {index : Nat} {texts : List JsString},
    (∀ keys ∈ items.objects, keys.Nodup) →
      canonicalizeItems numbers index (items.written numbers) = .ok texts →
        ∀ item ∈ items.written numbers, item.isJson = true
  | .last _ value _, _, _, distinct, rendered => by
    rcases canonicalizeItems_written numbers rendered with ⟨⟨_, here⟩, -⟩
    rw [JsonItems.written, List.forall_mem_singleton]
    exact isJson_written value distinct here
  | .more _ value _ rest, _, _, distinct, rendered => by
    have parts := List.forall_mem_append.mp distinct
    rcases canonicalizeItems_written numbers rendered with ⟨⟨_, here⟩, _, later⟩
    rw [JsonItems.written, List.forall_mem_cons]
    exact ⟨isJson_written value parts.1 here, areJson_written rest parts.2 later⟩

theorem entriesAreJson_written : ∀ members : JsonMembers,
    (∀ keys ∈ members.objects, keys.Nodup) →
      (∀ entry ∈ members.written numbers, ∃ text, canonicalize numbers entry.2 = .ok text) →
        ∀ entry ∈ members.written numbers, entry.2.isJson = true
  | .last _ _ _ _ value _, distinct, rendered => by
    rw [JsonMembers.written, List.forall_mem_singleton] at rendered ⊢
    rcases rendered with ⟨_, here⟩
    exact isJson_written value distinct here
  | .more _ _ _ _ value _ rest, distinct, rendered => by
    have parts := List.forall_mem_append.mp distinct
    rw [JsonMembers.written, List.forall_mem_cons] at rendered ⊢
    rcases rendered.1 with ⟨_, here⟩
    exact ⟨isJson_written value parts.1 here, entriesAreJson_written rest parts.2 rendered.2⟩

end

theorem entries_eq_of_perm {V : Type} {entries others : List (JsString × V)}
    (sameKeys : entries.map Prod.fst = others.map Prod.fst)
    (distinct : (entries.map Prod.fst).Nodup) (permuted : entries.Perm others) :
    entries = others := by
  induction entries generalizing others with
  | nil => exact (List.Perm.nil_eq permuted)
  | cons entry rest ih =>
    cases others with
    | nil => exact absurd permuted.length_eq (by simp)
    | cons other otherRest =>
      rw [List.map_cons, List.map_cons, List.cons.injEq] at sameKeys
      have isMember : other ∈ entry :: rest := permuted.mem_iff.mpr List.mem_cons_self
      have same : other = entry :=
        List.inj_on_of_nodup_map distinct isMember List.mem_cons_self sameKeys.1.symm
      subst same
      rw [List.map_cons, List.nodup_cons] at distinct
      rw [ih sameKeys.2 distinct.2 (List.perm_cons _ |>.mp permuted)]

theorem keys_eq_of_differAt {left right : NumberLiteral} {members others : JsonMembers}
    (differs : MembersDifferAt left right members others) : members.keys = others.keys := by
  cases differs with
  | last _ _ _ _ _ _ => rfl
  | here _ _ _ _ _ _ _ => rfl
  | later _ _ _ _ _ _ deeper =>
    rw [JsonMembers.keys, JsonMembers.keys, keys_eq_of_differAt deeper]

section Places

variable {left right : NumberLiteral}

mutual

theorem ofText_eq_of_normalForm : ∀ {value other : JsonValue}, DiffersAt left right value other →
    value.KeysDistinct →
      normalForm (value.written numbers) = normalForm (other.written numbers) →
        numbers.ofText left.text = numbers.ofText right.text
  | _, _, .here, _, same => JsValue.number.inj same
  | .array items, .array others, .array differs, distinct, same => by
    simp only [JsonValue.written, normalForm, JsValue.array.injEq] at same
    exact ofText_eq_of_normalItems differs distinct same
  | .object members, .object others, .object differs, distinct, same => by
    simp only [JsonValue.written, normalForm, JsValue.object.injEq] at same
    have nodup : ((normalEntries (members.written numbers)).map Prod.fst).Nodup := by
      rw [keys_normalEntries, keys_written]
      exact distinct _ List.mem_cons_self
    have sameKeys : (normalEntries (members.written numbers)).map Prod.fst =
        (normalEntries (others.written numbers)).map Prod.fst := by
      rw [keys_normalEntries, keys_normalEntries, keys_written, keys_written,
        keys_eq_of_differAt differs]
    apply ofText_eq_of_normalEntries differs
    · exact fun keys member => distinct keys (List.mem_cons_of_mem _ member)
    · exact entries_eq_of_perm sameKeys nodup (perm_of_sortEntries_eq same)

theorem ofText_eq_of_normalItems : ∀ {items others : JsonItems},
    ItemsDifferAt left right items others → (∀ keys ∈ items.objects, keys.Nodup) →
      normalItems (items.written numbers) = normalItems (others.written numbers) →
        numbers.ofText left.text = numbers.ofText right.text
  | _, _, .last _ _ differs, distinct, same =>
    ofText_eq_of_normalForm differs distinct (List.cons.inj same).1
  | _, _, .here _ _ _ differs, distinct, same =>
    ofText_eq_of_normalForm differs (List.forall_mem_append.mp distinct).1 (List.cons.inj same).1
  | _, _, .later _ _ _ differs, distinct, same =>
    ofText_eq_of_normalItems differs (List.forall_mem_append.mp distinct).2 (List.cons.inj same).2

theorem ofText_eq_of_normalEntries : ∀ {members others : JsonMembers},
    MembersDifferAt left right members others → (∀ keys ∈ members.objects, keys.Nodup) →
      normalEntries (members.written numbers) = normalEntries (others.written numbers) →
        numbers.ofText left.text = numbers.ofText right.text
  | _, _, .last _ _ _ _ _ differs, distinct, same =>
    ofText_eq_of_normalForm differs distinct (Prod.mk.inj (List.cons.inj same).1).2
  | _, _, .here _ _ _ _ _ _ differs, distinct, same =>
    ofText_eq_of_normalForm differs (List.forall_mem_append.mp distinct).1
      (Prod.mk.inj (List.cons.inj same).1).2
  | _, _, .later _ _ _ _ _ _ differs, distinct, same =>
    ofText_eq_of_normalEntries differs (List.forall_mem_append.mp distinct).2
      (List.cons.inj same).2

end

end Places

theorem parse_admitted {document : Document} (admitted : Admitted document.text) :
    document.value.KeysDistinct ∧
      parse numbers document.text = some (document.value.written numbers) := by
  have distinct : document.value.KeysDistinct := by
    by_contra repeated
    unfold JsonValue.KeysDistinct at repeated
    push Not at repeated
    have reported : Reports .duplicate_object_key
        (valueViolations [] (width document.before.val) document.value) :=
      reports_duplicate_iff.mpr repeated
    rw [admitted_text_iff.mp admitted] at reported
    exact not_reports_nil _ reported
  exact ⟨distinct, parse_document_of_keysDistinct numbers distinct⟩

theorem ofText_eq_of_shareIdentity {left right : NumberLiteral} {document other : Document}
    (admitted : Admitted document.text) (otherAdmitted : Admitted other.text)
    (differ : DifferOnlyIn left right document other)
    (shared : ShareIdentity numbers document.text other.text) :
    numbers.ofText left.text = numbers.ofText right.text := by
  rcases parse_admitted numbers admitted with ⟨distinct, isParsed⟩
  rcases parse_admitted numbers otherAdmitted with ⟨otherDistinct, isOtherParsed⟩
  rcases shared with ⟨identity, ⟨parsed, parses, rendered⟩, otherParsed, otherParses, otherRendered⟩
  rw [isParsed, Option.some.injEq] at parses
  rw [isOtherParsed, Option.some.injEq] at otherParses
  subst parses otherParses
  refine ofText_eq_of_normalForm numbers differ.2.2 distinct ?_
  exact normalForm_eq_of_canonicalize numbers (isJson_written numbers _ distinct rendered)
    (isJson_written numbers _ otherDistinct otherRendered) rendered otherRendered

end Identity

/-- The doubles differ, and so do the identities of admitted documents that differ only there. -/
def Separates (numbers : NumberText) (left right : NumberLiteral) : Prop :=
  double left.value ≠ double right.value ∧
    ∀ document other : Document, Admitted document.text → Admitted other.text →
      DifferOnlyIn left right document other →
        ¬ ShareIdentity numbers document.text other.text

/-- **Where admission separates integers.** Admitted literals of different integers are kept apart
exactly when one of them is plain or no double stands for both. -/
theorem separates_iff (numbers : NumberText) {left right : NumberLiteral} {value other : ℤ}
    (isValue : left.value = value) (isOther : right.value = other) (different : value ≠ other)
    (leftAdmitted : Admitted left.text) (rightAdmitted : Admitted right.text)
    (leftRead : numbers.ofText left.text = numberOf left.text)
    (rightRead : numbers.ofText right.text = numberOf right.text) :
    Separates numbers left right ↔
      left.IsPlain ∨ right.IsPlain ∨ ¬ SharesDouble value other := by
  have doubles : double left.value = double right.value ↔ SharesDouble value other := by
    rw [isValue, isOther, double_intCast_eq_iff, or_iff_right different]
  constructor
  · intro separates
    exact Or.inr (Or.inr (mt doubles.mpr separates.1))
  · intro condition
    have apart : ¬ SharesDouble value other := by
      rcases condition with leftPlain | rightPlain | unshared
      · exact not_sharesDouble_of_plain leftPlain isValue leftAdmitted
      · exact mt SharesDouble.symm (not_sharesDouble_of_plain rightPlain isOther rightAdmitted)
      · exact unshared
    have doublesDiffer := mt doubles.mp apart
    refine ⟨doublesDiffer, fun document other admitted otherAdmitted differ shared => ?_⟩
    have read := ofText_eq_of_shareIdentity numbers admitted otherAdmitted differ shared
    rw [leftRead, rightRead, left.numberOf_text, right.numberOf_text] at read
    exact doublesDiffer read

def literalOne : NumberLiteral := ⟨false, .nonzero 0 [], none, none⟩

def literalTwo : NumberLiteral := ⟨false, .nonzero 1 [], none, none⟩

theorem separates_iff_one_two :
    Separates decimalText literalOne literalTwo ↔
      literalOne.IsPlain ∨ literalTwo.IsPlain ∨ ¬ SharesDouble 1 2 :=
  separates_iff decimalText (by decide +kernel) (by decide +kernel) (by decide)
    (admitted_literal_iff.mpr (by decide +kernel)) (admitted_literal_iff.mpr (by decide +kernel))
    (by decide +kernel) (by decide +kernel)

def literalOdd : NumberLiteral :=
  ⟨false, .nonzero 8 [0, 0, 7, 1, 9, 9, 2, 5, 4, 7, 4, 0, 9, 9, 3], some ⟨0, []⟩, none⟩

def literalEven : NumberLiteral :=
  ⟨false, .nonzero 8 [0, 0, 7, 1, 9, 9, 2, 5, 4, 7, 4, 0, 9, 9, 2], some ⟨0, []⟩, none⟩

/-- Both literals are admitted, the integers differ, and one double stands for both. -/
theorem admission_does_not_separate :
    literalOdd.text = js "9007199254740993.0" ∧ literalEven.text = js "9007199254740992.0" ∧
      literalOdd.value = (9007199254740993 : ℤ) ∧ literalEven.value = (9007199254740992 : ℤ) ∧
      Admitted literalOdd.text ∧ Admitted literalEven.text ∧
      double literalOdd.value = double literalEven.value ∧
      ¬ Separates decimalText literalOdd literalEven := by
  have sameDouble : double literalOdd.value = double literalEven.value := by decide +kernel
  refine ⟨by decide +kernel, by decide +kernel, by decide +kernel, by decide +kernel,
    admitted_literal_iff.mpr (by decide +kernel), admitted_literal_iff.mpr (by decide +kernel),
    sameDouble, ?_⟩
  exact fun separates => separates.1 sameDouble

end GhostArk.ReceiptSchema
