import Mathlib.Data.List.Basic

/-!
Contract: fields that are joined by a separator, without escapes.

Owns when fields are read back: a list of as many fields as separators tell is determined if no
field holds the separator, a field at either end if it does not hold it itself, fields that are each
closed by the separator if none holds it, and a frame that starts with one field twice is determined
exactly if none of the later fields holds it and no shorter field starts the frame twice. Two fields
have two readings exactly if a field of the one takes in the separator of the other. Two lists of
fields with closing symbols are written alike exactly if they are equal or their first difference is
such a field.
-/

namespace GhostArk.Lib

theorem map_inj_of_forall {α β : Type*} {spell : α → β} {reads : α → Prop}
    (determined : ∀ {record other}, reads record → reads other → spell record = spell other →
      record = other) {records others : List α} (readable : ∀ record ∈ records, reads record)
    (otherReadable : ∀ record ∈ others, reads record)
    (same : records.map spell = others.map spell) : records = others := by
  induction records generalizing others with
  | nil => exact (List.map_eq_nil_iff.mp same.symm).symm
  | cons record records ih =>
    cases others with
    | nil => cases same
    | cons other others =>
      rw [List.forall_mem_cons] at readable otherReadable
      rcases List.cons_eq_cons.mp same with ⟨sameFields, sameRest⟩
      rw [determined readable.1 otherReadable.1 sameFields,
        ih readable.2 otherReadable.2 sameRest]

section Fields

variable {α : Type*} [DecidableEq α]

theorem count_intercalate (separator : α) (first : List α) (rest : List (List α)) :
    ([separator].intercalate (first :: rest)).count separator =
      (first :: rest).flatten.count separator + rest.length := by
  induction rest generalizing first with
  | nil => rw [List.intercalate_singleton, List.flatten_singleton, List.length_nil, Nat.add_zero]
  | cons second rest ih =>
    rw [List.intercalate_cons_cons, List.count_append, List.count_append, ih,
      List.count_singleton_self]
    simp only [List.flatten_cons, List.count_append, List.length_cons]
    omega

variable {separator : α}

theorem count_flatten_eq_zero {fields : List (List α)} :
    fields.flatten.count separator = 0 ↔ ∀ field ∈ fields, separator ∉ field := by
  rw [List.count_eq_zero, List.mem_flatten]
  exact ⟨fun none field member held => none ⟨field, member, held⟩,
    fun without ⟨field, member, held⟩ => without field member held⟩

theorem intercalate_inj_of_free {fields others : List (List α)} (some : fields ≠ [])
    (otherSome : others ≠ []) (notHeld : ∀ field ∈ fields, separator ∉ field)
    (otherNotHeld : ∀ field ∈ others, separator ∉ field)
    (same : [separator].intercalate fields = [separator].intercalate others) : fields = others := by
  have splits := congrArg (List.splitOn separator) same
  rw [List.splitOn_intercalate separator notHeld some,
    List.splitOn_intercalate separator otherNotHeld otherSome] at splits
  exact splits

theorem intercalate_inj {first other : List α} {rest others : List (List α)}
    (notHeld : ∀ field ∈ first :: rest, separator ∉ field)
    (sameLength : others.length = rest.length)
    (same : [separator].intercalate (other :: others) =
      [separator].intercalate (first :: rest)) : other :: others = first :: rest := by
  have counts := congrArg (List.count separator) same
  rw [count_intercalate, count_intercalate, count_flatten_eq_zero.mpr notHeld, sameLength] at counts
  have nothing : (other :: others).flatten.count separator = 0 := by omega
  exact intercalate_inj_of_free (List.cons_ne_nil _ _) (List.cons_ne_nil _ _)
    (count_flatten_eq_zero.mp nothing) notHeld same

end Fields

section Ends

variable {α : Type*} {separator : α}

/-- A field without the separator is read off the front of its frame. -/
theorem firstField_inj {first other rest others : List α} (notHeld : separator ∉ first)
    (otherNotHeld : separator ∉ other)
    (same : first ++ separator :: rest = other ++ separator :: others) :
    first = other ∧ rest = others := by
  induction first generalizing other with
  | nil =>
    cases other with
    | nil => exact ⟨rfl, (List.cons.inj same).2⟩
    | cons head tail =>
      have isHead : separator = head := (List.cons.inj same).1
      exact absurd (isHead ▸ List.mem_cons_self) otherNotHeld
  | cons head tail ih =>
    cases other with
    | nil =>
      have isHead : head = separator := (List.cons.inj same).1
      exact absurd (isHead ▸ List.mem_cons_self) notHeld
    | cons otherHead otherTail =>
      rcases List.cons.inj same with ⟨rfl, sameTail⟩
      have tails := ih (mt (List.mem_cons_of_mem head) notHeld)
        (mt (List.mem_cons_of_mem head) otherNotHeld) sameTail
      exact ⟨congrArg (List.cons head) tails.1, tails.2⟩

theorem joined_eq_iff {first other rest others : List α} :
    first ++ separator :: rest = other ++ separator :: others ↔
      first = other ∧ rest = others ∨
        (∃ middle, other = first ++ separator :: middle ∧ rest = middle ++ separator :: others) ∨
          ∃ middle, first = other ++ separator :: middle ∧ others = middle ++ separator :: rest := by
  rw [List.append_eq_append_iff]
  constructor
  · rintro (⟨between, isOther, isRest⟩ | ⟨between, isFirst, isOthers⟩)
    · cases between with
      | nil => exact Or.inl ⟨(List.append_nil first ▸ isOther).symm, (List.cons.inj isRest).2⟩
      | cons head middle =>
        rcases List.cons.inj isRest with ⟨rfl, isTail⟩
        exact Or.inr (Or.inl ⟨middle, isOther, isTail⟩)
    · cases between with
      | nil => exact Or.inl ⟨List.append_nil other ▸ isFirst, (List.cons.inj isOthers).2.symm⟩
      | cons head middle =>
        rcases List.cons.inj isOthers with ⟨rfl, isTail⟩
        exact Or.inr (Or.inr ⟨middle, isFirst, isTail⟩)
  · rintro (⟨rfl, rfl⟩ | ⟨middle, rfl, rfl⟩ | ⟨middle, rfl, rfl⟩)
    · exact Or.inl ⟨[], (List.append_nil first).symm, rfl⟩
    · exact Or.inl ⟨separator :: middle, rfl, rfl⟩
    · exact Or.inr ⟨separator :: middle, rfl, rfl⟩

theorem lastField_inj {front otherFront last other : List α} (notHeld : separator ∉ last)
    (otherNotHeld : separator ∉ other)
    (same : front ++ separator :: last = otherFront ++ separator :: other) :
    front = otherFront ∧ last = other := by
  have reversed := congrArg List.reverse same
  simp only [List.reverse_append, List.reverse_cons, List.append_assoc, List.singleton_append]
    at reversed
  have fields := firstField_inj (mt List.mem_reverse.mp notHeld)
    (mt List.mem_reverse.mp otherNotHeld) reversed
  exact ⟨List.reverse_injective fields.2, List.reverse_injective fields.1⟩

theorem closedFields_inj {fields others : List (List α)}
    (notHeld : ∀ field ∈ fields, separator ∉ field)
    (otherNotHeld : ∀ field ∈ others, separator ∉ field)
    (same : (fields.flatMap fun field => field ++ [separator]) =
      others.flatMap fun field => field ++ [separator]) : fields = others := by
  induction fields generalizing others with
  | nil =>
    cases others with
    | nil => rfl
    | cons other others => simp at same
  | cons field fields ih =>
    cases others with
    | nil => simp at same
    | cons other others =>
      rw [List.forall_mem_cons] at notHeld otherNotHeld
      simp only [List.flatMap_cons, List.append_assoc, List.singleton_append] at same
      rcases firstField_inj notHeld.1 otherNotHeld.1 same with ⟨sameField, sameFields⟩
      rw [sameField, ih notHeld.2 otherNotHeld.2 sameFields]

end Ends

section Closed

variable {α : Type*}

/-- The last field of a list is closed like the others. -/
theorem intercalate_close (separator : α) (first : List α) (rest : List (List α)) :
    [separator].intercalate (first :: rest) ++ [separator] =
      (first :: rest).flatMap fun field => field ++ [separator] := by
  induction rest generalizing first with
  | nil => rw [List.intercalate_singleton, List.flatMap_singleton]
  | cons second rest ih =>
    rw [List.intercalate_cons_cons, List.append_assoc, ih]
    rfl

/-- Fields, each with the symbol that closes it. -/
def closed (fields : List (List α × α)) : List α :=
  fields.flatMap fun field => field.1 ++ [field.2]

theorem closed_cons (field : List α × α) (rest : List (List α × α)) :
    closed (field :: rest) = field.1 ++ field.2 :: closed rest := by
  rw [closed, List.flatMap_cons, List.append_assoc]
  rfl

/-- The first field that differs is the longer one of the second list. It takes in the symbol that
closes the other, and then what the first list goes on with up to where the second does. -/
inductive TakesIn : List (List α × α) → List (List α × α) → Prop
  | here (field more : List α) (close otherClose : α) {rest others : List (List α × α)}
      (written : closed rest = more ++ otherClose :: closed others) :
      TakesIn ((field, close) :: rest) ((field ++ close :: more, otherClose) :: others)
  | later (field : List α × α) {left right : List (List α × α)} (takesIn : TakesIn left right) :
      TakesIn (field :: left) (field :: right)

/-- The first field that differs takes in the end of the other. -/
def Ambiguous (left right : List (List α × α)) : Prop := TakesIn left right ∨ TakesIn right left

variable {left right : List (List α × α)}

theorem TakesIn.closed_eq (takesIn : TakesIn left right) : closed left = closed right := by
  induction takesIn with
  | here field more close otherClose written =>
    simp only [closed_cons, written, List.append_assoc, List.cons_append]
  | later field takesIn ih => rw [closed_cons, closed_cons, ih]

/-- Two lists of fields are written alike only if they are equal or ambiguous. -/
theorem closed_eq_iff : closed left = closed right ↔ left = right ∨ Ambiguous left right := by
  constructor
  · intro same
    induction left generalizing right with
    | nil =>
      cases right with
      | nil => exact Or.inl rfl
      | cons other others => simp [closed] at same
    | cons field rest ih =>
      cases right with
      | nil => simp [closed] at same
      | cons other others =>
        rcases field with ⟨field, close⟩
        rcases other with ⟨other, otherClose⟩
        rw [closed_cons, closed_cons] at same
        rw [List.append_eq_append_iff] at same
        rcases same with ⟨middle, rfl, written⟩ | ⟨middle, rfl, written⟩
        · cases middle with
          | nil =>
            obtain ⟨rfl, remains⟩ := List.cons.inj written
            rw [List.append_nil]
            exact (ih remains).imp (congrArg _) (.imp (.later _) (.later _))
          | cons head more =>
            obtain ⟨rfl, remains⟩ := List.cons.inj written
            exact Or.inr (Or.inl (.here _ _ _ _ remains))
        · cases middle with
          | nil =>
            obtain ⟨rfl, remains⟩ := List.cons.inj written
            rw [List.append_nil]
            exact (ih remains.symm).imp (congrArg _) (.imp (.later _) (.later _))
          | cons head more =>
            obtain ⟨rfl, remains⟩ := List.cons.inj written
            exact Or.inr (Or.inr (.here _ _ _ _ remains))
  · rintro (rfl | takesIn | takesIn)
    · rfl
    · exact takesIn.closed_eq
    · exact takesIn.closed_eq.symm

end Closed

section Frames

variable {α : Type*} {separator : α}

/-- A field twice, each closed by the separator. -/
def twice (separator : α) (field : List α) : List α :=
  field ++ [separator] ++ (field ++ [separator])

/-- A field twice, then three more. -/
def pairFrame (separator : α) (field first second third : List α) : List α :=
  twice separator field ++ [separator].intercalate [first, second, third]

theorem twice_inj {field other : List α} (same : twice separator field = twice separator other) :
    field = other := by
  have lengths := congrArg List.length same
  simp only [twice, List.length_append, List.length_singleton] at lengths
  have sameLength : (field ++ [separator]).length = (other ++ [separator]).length := by
    simp only [List.length_append, List.length_singleton]
    omega
  have halves := List.append_inj_left same sameLength
  exact List.append_cancel_right halves

/-- Which frames are read back. -/
structure Determined (separator : α) (field first second third : List α) : Prop where
  first_free : separator ∉ first
  second_free : separator ∉ second
  third_free : separator ∉ third
  shortest : ∀ shorter, twice separator shorter <+: twice separator field → shorter = field

theorem intercalate_three (first second third : List α) :
    [separator].intercalate [first, second, third] =
      first ++ separator :: (second ++ separator :: third) := by
  rw [List.intercalate_cons_cons, List.intercalate_cons_cons, List.intercalate_singleton]
  simp only [List.append_assoc, List.singleton_append]

theorem determined_of_unique {field first second third : List α}
    (unique : ∀ field' first' second' third', pairFrame separator field' first' second' third' =
      pairFrame separator field first second third →
        field' = field ∧ first' = first ∧ second' = second ∧ third' = third) :
    Determined separator field first second third := by
  have longer (left right : List α) : left ≠ left ++ separator :: right := by
    intro same
    have lengths := congrArg List.length same
    rw [List.length_append, List.length_cons] at lengths
    omega
  constructor
  · intro held
    rcases List.append_of_mem held with ⟨left, right, rfl⟩
    have other := unique field left (right ++ separator :: second) third (by
      simp only [pairFrame, intercalate_three, List.append_assoc, List.cons_append])
    exact longer left right other.2.1
  · intro held
    rcases List.append_of_mem held with ⟨left, right, rfl⟩
    have other := unique field (first ++ separator :: left) right third (by
      simp only [pairFrame, intercalate_three, List.append_assoc, List.cons_append])
    exact longer first left other.2.1.symm
  · intro held
    rcases List.append_of_mem held with ⟨left, right, rfl⟩
    have other := unique field first (second ++ separator :: left) right (by
      simp only [pairFrame, intercalate_three, List.append_assoc, List.cons_append])
    exact longer second left other.2.2.1.symm
  · rintro shorter ⟨between, isField⟩
    rcases List.eq_nil_or_concat between with rfl | ⟨front, last, rfl⟩
    · rw [List.append_nil] at isField
      exact twice_inj isField
    · have ends := congrArg List.getLast? isField
      rw [twice, twice, List.concat_eq_append, ← List.append_assoc, List.getLast?_concat,
        ← List.append_assoc, List.getLast?_concat] at ends
      obtain rfl := Option.some.inj ends
      have other := unique shorter front first (second ++ last :: third) (by
        rw [pairFrame, pairFrame, ← isField]
        simp only [intercalate_three, List.concat_eq_append, List.append_assoc, List.cons_append,
          List.nil_append])
      exact other.1

variable [DecidableEq α]

theorem Determined.eq {field first second third : List α}
    (determined : Determined separator field first second third)
    {field' first' second' third' : List α}
    (same : pairFrame separator field' first' second' third' =
      pairFrame separator field first second third) :
    field' = field ∧ first' = first ∧ second' = second ∧ third' = third := by
  have notHeld : ∀ part ∈ [first, second, third], separator ∉ part := by
    simp only [List.forall_mem_cons, List.not_mem_nil, false_implies, implies_true, and_true]
    exact ⟨determined.first_free, determined.second_free, determined.third_free⟩
  obtain rfl : field' = field := by
    rw [pairFrame, pairFrame, List.append_eq_append_iff] at same
    rcases same with ⟨between, isField, _⟩ | ⟨between, isField', rest⟩
    · exact determined.shortest field' ⟨between, isField.symm⟩
    · -- the rest has two separators, so none is left for what is between
      have counts := congrArg (List.count separator) rest
      rw [List.count_append, count_intercalate, count_intercalate,
        count_flatten_eq_zero.mpr notHeld] at counts
      have none : between.count separator = 0 := by
        simp only [List.length_cons, List.length_nil] at counts
        omega
      have isEmpty : between = [] := by
        rcases List.eq_nil_or_concat between with isEmpty | ⟨front, last, rfl⟩
        · exact isEmpty
        · have ends := congrArg List.getLast? isField'
          rw [twice, ← List.append_assoc, List.getLast?_concat] at ends
          rw [List.concat_eq_append, ← List.append_assoc, List.getLast?_concat] at ends
          obtain rfl := Option.some.inj ends
          rw [List.concat_eq_append, List.count_append, List.count_singleton_self] at none
          omega
      rw [isEmpty, List.append_nil] at isField'
      exact twice_inj isField'
  have rest : [separator].intercalate [first', second', third'] =
      [separator].intercalate [first, second, third] := List.append_cancel_left same
  have sameLength : [second', third'].length = [second, third].length := rfl
  have fields := intercalate_inj notHeld sameLength rest
  simp only [List.cons.injEq, and_true] at fields
  exact ⟨rfl, fields⟩

end Frames

end GhostArk.Lib
