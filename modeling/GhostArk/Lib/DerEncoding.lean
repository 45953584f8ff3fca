import Mathlib.Data.Nat.Digits.Lemmas

/-!
Contract: tag, length and content in octets, as DER and its lax dialects write them.

Owns big-endian numbers with and without leading zeros, length fields in the short and the long
form, elements whose long length fields are led by zeros, and positive integers in
two's complement.

Does not own: tags of several octets, indefinite lengths, or what an element means.
-/

namespace GhostArk.Lib.Der

abbrev Octet := BitVec 8

def ofOctets (octets : List Octet) : Nat := Nat.ofDigits 256 (octets.reverse.map BitVec.toNat)

def toOctets (value : Nat) : List Octet := (Nat.digits 256 value).reverse.map (BitVec.ofNat 8)

section Numbers

variable {octets : List Octet} {value : Nat}

theorem ofOctets_toOctets (value : Nat) : ofOctets (toOctets value) = value := by
  have digits : (Nat.digits 256 value).map (fun digit => (BitVec.ofNat 8 digit).toNat) =
      Nat.digits 256 value := by
    apply (List.map_congr_left _).trans (List.map_id _)
    intro digit member
    rw [BitVec.toNat_ofNat]
    exact Nat.mod_eq_of_lt (Nat.digits_lt_base (by decide) member)
  rw [ofOctets, toOctets, ← List.map_reverse, List.reverse_reverse, List.map_map]
  exact (congrArg (Nat.ofDigits 256) digits).trans (Nat.ofDigits_digits 256 value)

theorem toOctets_ofOctets (noZero : octets.head? ≠ some 0) : toOctets (ofOctets octets) = octets := by
  have small : ∀ digit ∈ octets.reverse.map BitVec.toNat, digit < 256 := by
    intro digit member
    rcases List.mem_map.mp member with ⟨octet, -, rfl⟩
    exact octet.isLt
  have lastNotZero : ∀ notEmpty : octets.reverse.map BitVec.toNat ≠ [],
      (octets.reverse.map BitVec.toNat).getLast notEmpty ≠ 0 := by
    intro notEmpty isZero
    cases octets with
    | nil => exact notEmpty rfl
    | cons first rest =>
      simp only [List.reverse_cons, List.map_append, List.map_cons, List.map_nil,
        List.getLast_append_singleton] at isZero
      exact noZero (congrArg some (BitVec.eq_of_toNat_eq isZero))
  rw [toOctets, ofOctets, Nat.digits_ofDigits 256 (by decide) _ small lastNotZero, ← List.map_reverse,
    List.reverse_reverse, List.map_map]
  apply List.map_id''
  intro octet
  exact (BitVec.ofNat_toNat 8 octet).trans (BitVec.setWidth_eq octet)

theorem toOctets_ne_nil (notZero : value ≠ 0) : toOctets value ≠ [] := by
  rw [toOctets, ne_eq, List.map_eq_nil_iff, List.reverse_eq_nil_iff]
  exact Nat.digits_ne_nil_iff_ne_zero.mpr notZero

theorem head?_toOctets (value : Nat) : (toOctets value).head? ≠ some 0 := by
  intro isZero
  rw [toOctets, List.head?_map, List.head?_reverse, Option.map_eq_some_iff] at isZero
  rcases isZero with ⟨digit, isLast, sameOctet⟩
  have notZero : value ≠ 0 := by
    rintro rfl
    cases isLast
  have small := Nat.digits_lt_base (by decide) (List.mem_of_getLast? isLast)
  have isDigit := Nat.getLast_digit_ne_zero 256 notZero
  rw [List.getLast?_eq_some_getLast (Nat.digits_ne_nil_iff_ne_zero.mpr notZero),
    Option.some.injEq] at isLast
  rw [isLast] at isDigit
  have sameDigit := congrArg BitVec.toNat sameOctet
  rw [BitVec.toNat_ofNat, Nat.mod_eq_of_lt small] at sameDigit
  exact isDigit sameDigit

theorem length_toOctets_le_iff {width : Nat} :
    (toOctets value).length ≤ width ↔ value < 256 ^ width := by
  rw [toOctets, List.length_map, List.length_reverse]
  exact Nat.digits_length_le_iff (by decide) value

theorem ofOctets_cons_zero (octets : List Octet) : ofOctets (0 :: octets) = ofOctets octets := by
  rw [ofOctets, List.reverse_cons, List.map_append, Nat.ofDigits_append]
  exact Nat.add_zero _

theorem ofOctets_zeros (zeros : Nat) (octets : List Octet) :
    ofOctets (List.replicate zeros 0 ++ octets) = ofOctets octets := by
  induction zeros with
  | zero => rfl
  | succ zeros ih =>
    rw [List.replicate_succ, List.cons_append, ofOctets_cons_zero, ih]

theorem exists_zeros (octets : List Octet) :
    ∃ zeros, octets = List.replicate zeros 0 ++ toOctets (ofOctets octets) := by
  induction octets with
  | nil => exact ⟨0, rfl⟩
  | cons first rest ih =>
    by_cases isZero : first = 0
    · rcases ih with ⟨zeros, isRest⟩
      refine ⟨zeros + 1, ?_⟩
      rw [isZero, ofOctets_cons_zero, List.replicate_succ, List.cons_append, ← isRest]
    · refine ⟨0, (toOctets_ofOctets ?_).symm⟩
      intro zeroHead
      exact isZero (Option.some.inj zeroHead)

end Numbers

/-! ### Elements -/

/-- The length field of a content; in the long form, `zeros` octets lead the length. -/
def lengthField (zeros length : Nat) : List Octet :=
  if length < 0x80 then [BitVec.ofNat 8 length]
  else BitVec.ofNat 8 (0x80 + (zeros + (toOctets length).length)) ::
    (List.replicate zeros 0 ++ toOctets length)

def element (zeros : Nat) (tag : Octet) (content : List Octet) : List Octet :=
  tag :: (lengthField zeros content.length ++ content)

def lengthZeros : List Octet → Nat
  | _ :: first :: rest =>
    if first.toNat < 0x80 then 0
    else ((rest.take (first.toNat - 0x80)).takeWhile (· == 0)).length
  | _ => 0

/-- The long form fits into `width` octets. -/
def FitsIn (width zeros length : Nat) : Prop :=
  0x80 ≤ length → zeros + (toOctets length).length ≤ width

instance (width zeros length : Nat) : Decidable (FitsIn width zeros length) :=
  inferInstanceAs (Decidable (_ → _))

section Elements

variable {width zeros other : Nat} {tag : Octet} {content rest : List Octet}

theorem fitsIn_zero_iff {length : Nat} (notShort : 0x80 ≤ 256 ^ width) :
    FitsIn width 0 length ↔ length < 256 ^ width := by
  rw [FitsIn, Nat.zero_add, length_toOctets_le_iff]
  omega

theorem length_lengthField_pos (zeros length : Nat) : 0 < (lengthField zeros length).length := by
  rw [lengthField]
  split
  · exact Nat.one_pos
  · exact Nat.succ_pos _

theorem length_lengthField_le {length : Nat} (fits : FitsIn width zeros length) :
    (lengthField zeros length).length ≤ width + 1 := by
  rw [lengthField]
  split
  · exact Nat.succ_le_succ (Nat.zero_le width)
  · next long =>
      rw [List.length_cons, List.length_append, List.length_replicate]
      exact Nat.succ_le_succ (fits (Nat.le_of_not_lt long))

theorem lt_length_lengthField {length : Nat} (notShort : 0x80 ≤ 256 ^ width)
    (large : 256 ^ width ≤ length) : width + 1 < (lengthField zeros length).length := by
  have octets := mt length_toOctets_le_iff.mp (Nat.not_lt.mpr large)
  rw [lengthField, if_neg (Nat.not_lt.mpr (notShort.trans large)), List.length_cons,
    List.length_append]
  omega

theorem length_element (zeros : Nat) (tag : Octet) (content : List Octet) :
    (element zeros tag content).length =
      1 + (lengthField zeros content.length).length + content.length := by
  rw [element, List.length_cons, List.length_append]
  omega

theorem lt_of_length_element_eq {otherTag : Octet} {otherContent : List Octet}
    (notShort : 0x80 ≤ 256 ^ width) (fits : FitsIn width zeros content.length)
    (sameLength : (element other otherTag otherContent).length =
      (element zeros tag content).length) : otherContent.length < 256 ^ width := by
  by_contra large
  have longer : width + 1 < (lengthField other otherContent.length).length :=
    lt_length_lengthField notShort (Nat.le_of_not_lt large)
  have shorter := length_lengthField_le fits
  have within : content.length < 256 ^ width := by
    by_contra beyond
    have long := fits (notShort.trans (Nat.le_of_not_lt beyond))
    exact beyond (length_toOctets_le_iff.mp ((Nat.le_add_left _ _).trans long))
  rw [length_element, length_element] at sameLength
  omega

theorem element_congr (sameZeros : 0x80 ≤ content.length → zeros = other) :
    element zeros tag content = element other tag content := by
  rw [element, element, lengthField, lengthField]
  split
  · rfl
  · next long => rw [sameZeros (Nat.le_of_not_lt long)]

theorem element_congr_of_shown (sameShown : (if content.length < 0x80 then 0 else zeros) =
    if content.length < 0x80 then 0 else other) :
    element zeros tag content = element other tag content := by
  apply element_congr
  intro long
  rwa [if_neg (Nat.not_lt.mpr long), if_neg (Nat.not_lt.mpr long)] at sameShown

theorem lengthZeros_element (fits : FitsIn width zeros content.length) (narrow : width < 0x80) :
    lengthZeros (element zeros tag content ++ rest) =
      if content.length < 0x80 then 0 else zeros := by
  rw [element, List.cons_append, lengthField]
  by_cases short : content.length < 0x80
  · have small : (BitVec.ofNat 8 content.length).toNat < 0x80 := by
      rw [BitVec.toNat_ofNat]
      omega
    rw [if_pos short, if_pos short, List.cons_append, List.cons_append, lengthZeros, if_pos small]
  · have count := fits (Nat.le_of_not_lt short)
    have octet : (BitVec.ofNat 8 (0x80 + (zeros + (toOctets content.length).length))).toNat =
        0x80 + (zeros + (toOctets content.length).length) := by
      rw [BitVec.toNat_ofNat]
      omega
    have long : ¬ 0x80 + (zeros + (toOctets content.length).length) < 0x80 := by omega
    have field : zeros + (toOctets content.length).length =
        (List.replicate zeros (0 : Octet) ++ toOctets content.length).length := by
      rw [List.length_append, List.length_replicate]
    have noZero : (toOctets content.length).takeWhile (· == 0) = [] := by
      cases isOctets : toOctets content.length with
      | nil => rfl
      | cons first later =>
        apply List.takeWhile_cons_of_neg
        intro isZero
        apply head?_toOctets content.length
        rw [isOctets, List.head?_cons, eq_of_beq isZero]
    rw [if_neg short, if_neg short, List.cons_append, List.cons_append, lengthZeros, octet,
      if_neg long, Nat.add_sub_cancel_left, List.append_assoc, field, List.take_left,
      List.takeWhile_append_of_pos, noZero, List.append_nil, List.length_replicate]
    intro octet member
    rw [List.eq_of_mem_replicate member, beq_self_eq_true]

end Elements

def integerContent (value : Nat) : List Octet :=
  if ((toOctets value).headD 0x80).toNat < 0x80 then toOctets value else 0 :: toOctets value

/-- Octets with a sign bit of zero, without a superfluous zero. -/
def IsShortest : List Octet → Prop
  | [] => False
  | first :: rest => first.toNat < 0x80 ∧ (first = 0 → ∀ second ∈ rest.head?, 0x80 ≤ second.toNat)

section Integers

variable {octets : List Octet}

theorem ofOctets_integerContent (value : Nat) : ofOctets (integerContent value) = value := by
  rw [integerContent]
  split
  · exact ofOctets_toOctets value
  · rw [ofOctets_cons_zero, ofOctets_toOctets]

theorem isShortest_integerContent (value : Nat) : IsShortest (integerContent value) := by
  rw [integerContent]
  cases isOctets : toOctets value with
  | nil => exact ⟨by decide, fun _ second member => by cases member⟩
  | cons first rest =>
    rw [List.headD_cons]
    split
    · next small =>
        refine ⟨small, fun isZero => ?_⟩
        have notZero := head?_toOctets value
        rw [isOctets, isZero] at notZero
        exact absurd rfl notZero
    · next large =>
        refine ⟨by decide, fun _ second member => ?_⟩
        rw [List.head?_cons, Option.mem_some_iff] at member
        rw [← member]
        exact Nat.le_of_not_lt large

theorem integerContent_ofOctets (shortest : IsShortest octets) :
    integerContent (ofOctets octets) = octets := by
  cases octets with
  | nil => exact shortest.elim
  | cons first rest =>
    rcases shortest with ⟨small, minimal⟩
    by_cases isZero : first = 0
    · rw [isZero, ofOctets_cons_zero]
      cases rest with
      | nil => rfl
      | cons second later =>
        have large : 0x80 ≤ second.toNat := minimal isZero second rfl
        have noZero : (second :: later).head? ≠ some 0 := by
          intro zeroHead
          rw [Option.some.inj zeroHead] at large
          exact absurd large (by decide)
        rw [integerContent, toOctets_ofOctets noZero, List.headD_cons,
          if_neg (Nat.not_lt.mpr large)]
    · have noZero : (first :: rest).head? ≠ some 0 := fun zeroHead =>
        isZero (Option.some.inj zeroHead)
      rw [integerContent, toOctets_ofOctets noZero, List.headD_cons, if_pos small]

theorem eq_integerContent_iff {value : Nat} :
    octets = integerContent value ↔ IsShortest octets ∧ ofOctets octets = value := by
  constructor
  · rintro rfl
    exact ⟨isShortest_integerContent value, ofOctets_integerContent value⟩
  · rintro ⟨shortest, rfl⟩
    exact (integerContent_ofOctets shortest).symm

theorem length_integerContent_le {value width : Nat} (small : value < 256 ^ width) :
    (integerContent value).length ≤ width + 1 := by
  have octets := length_toOctets_le_iff.mpr small
  rw [integerContent]
  split
  · exact Nat.le_succ_of_le octets
  · exact Nat.succ_le_succ octets

theorem length_toOctets_le_integerContent (value : Nat) :
    (toOctets value).length ≤ (integerContent value).length := by
  rw [integerContent]
  split
  · exact Nat.le_refl _
  · exact Nat.le_succ _

end Integers

end GhostArk.Lib.Der
