import Mathlib.Data.List.Basic

/-!
Contract: texts that are written from marks and names without escapes.

Owns pieces and their text, the overlap of a name with what another sequence of pieces is written
with, and sequences that a text tells apart unless names overlap.

A name is closed by one symbol. Names are arbitrary, so they may hold that symbol.
-/

namespace GhostArk.Lib.UnescapedText

inductive Piece (α : Type) where
  | mark (symbol : α)
  | name (symbols : List α)
deriving DecidableEq

variable {α : Type} (close : α)

def Piece.text : Piece α → List α
  | mark symbol => [symbol]
  | name symbols => symbols ++ [close]

def spell (pieces : List (Piece α)) : List α := pieces.flatMap (Piece.text close)

@[simp] theorem spell_nil : spell close [] = [] := rfl

@[simp] theorem spell_mark (symbol : α) (rest : List (Piece α)) :
    spell close (.mark symbol :: rest) = symbol :: spell close rest := rfl

@[simp] theorem spell_name (symbols : List α) (rest : List (Piece α)) :
    spell close (.name symbols :: rest) = symbols ++ close :: spell close rest := by
  simp [spell, Piece.text]

theorem spell_append (first second : List (Piece α)) :
    spell close (first ++ second) = spell close first ++ spell close second :=
  List.flatMap_append

/-- The two sequences agree up to two names. The second name goes on, after the first one and the
closing symbol, with what the first sequence is written with up to where the rest of the second
starts. -/
inductive Overlap : List (Piece α) → List (Piece α) → Prop
  | here (symbols more : List α) {rest others : List (Piece α)}
      (written : spell close rest = more ++ close :: spell close others) :
      Overlap (.name symbols :: rest) (.name (symbols ++ close :: more) :: others)
  | later (piece : Piece α) {left right : List (Piece α)} (overlap : Overlap left right) :
      Overlap (piece :: left) (piece :: right)

/-- A name of one of the two sequences overlaps with the other sequence. -/
def Overlaps (left right : List (Piece α)) : Prop :=
  Overlap close left right ∨ Overlap close right left

section Overlaps

variable {close} {left right : List (Piece α)}

theorem Overlap.spell_eq (overlap : Overlap close left right) :
    spell close left = spell close right := by
  induction overlap with
  | here symbols more written => simp [written]
  | later piece overlap ih =>
    rw [← List.singleton_append, spell_append, ih, ← spell_append]
    rfl

theorem Overlap.ne (overlap : Overlap close left right) : left ≠ right := by
  induction overlap with
  | here symbols more written => simp
  | later piece overlap ih => simpa using ih

theorem Overlap.exists_name (overlap : Overlap close left right) :
    ∃ symbols, .name symbols ∈ right ∧ close ∈ symbols := by
  induction overlap with
  | here symbols more written => exact ⟨_, List.mem_cons_self, by simp⟩
  | later piece overlap ih =>
    rcases ih with ⟨symbols, member, closes⟩
    exact ⟨symbols, List.mem_cons_of_mem _ member, closes⟩

theorem Overlaps.spell_eq (overlaps : Overlaps close left right) :
    spell close left = spell close right :=
  overlaps.elim Overlap.spell_eq fun overlap => overlap.spell_eq.symm

theorem Overlaps.ne (overlaps : Overlaps close left right) : left ≠ right :=
  overlaps.elim Overlap.ne fun overlap => overlap.ne.symm

theorem not_overlaps_mark (pieces : List (Piece α)) (symbol : α) :
    ¬ Overlaps close pieces [.mark symbol] := by
  intro overlaps
  cases overlaps with
  | inl overlap =>
    cases overlap with
    | later piece overlap => cases overlap
  | inr overlap =>
    cases overlap with
    | later piece overlap => cases overlap

theorem Overlaps.append (overlaps : Overlaps close left right) (before : List (Piece α)) :
    Overlaps close (before ++ left) (before ++ right) := by
  induction before with
  | nil => exact overlaps
  | cons piece others ih =>
    exact ih.imp (Overlap.later piece) (Overlap.later piece)

end Overlaps

/-- Whatever follows, two sequences at the start of one text are the `same`, or names overlap. -/
def ReadOff (same : Prop) (left right : List (Piece α)) : Prop :=
  ∀ rest others, spell close (left ++ rest) = spell close (right ++ others) →
    same ∧ spell close rest = spell close others ∨
      Overlaps close (left ++ rest) (right ++ others)

namespace ReadOff

variable {close} {same also : Prop} {left right : List (Piece α)}

theorem imp (readOff : ReadOff close same left right) (weaker : same → also) :
    ReadOff close also left right := by
  intro rest others spelled
  exact (readOff rest others spelled).imp_left fun both => ⟨weaker both.1, both.2⟩

theorem of_ne {first second : α} (differ : first ≠ second) :
    ReadOff close same (.mark first :: left) (.mark second :: right) := by
  intro rest others spelled
  rw [List.cons_append, List.cons_append, spell_mark, spell_mark] at spelled
  exact absurd (List.cons.inj spelled).1 differ

theorem mark (symbol : α) : ReadOff close True [.mark symbol] [.mark symbol] := by
  intro rest others spelled
  exact Or.inl ⟨trivial, (List.cons.inj spelled).2⟩

theorem name (first second : List α) :
    ReadOff close (first = second) [.name first] [.name second] := by
  intro rest others spelled
  rw [List.singleton_append, List.singleton_append] at spelled ⊢
  rw [spell_name, spell_name, List.append_eq_append_iff] at spelled
  rcases spelled with ⟨tail, rfl, written⟩ | ⟨tail, rfl, written⟩
  · cases tail with
    | nil => exact Or.inl ⟨(List.append_nil first).symm, (List.cons.inj written).2⟩
    | cons symbol more =>
      obtain ⟨rfl, remains⟩ := List.cons.inj written
      exact Or.inr (Or.inl (.here first more remains))
  · cases tail with
    | nil => exact Or.inl ⟨List.append_nil second, (List.cons.inj written).2.symm⟩
    | cons symbol more =>
      obtain ⟨rfl, remains⟩ := List.cons.inj written
      exact Or.inr (Or.inr (.here second more remains))

theorem append {left' right' : List (Piece α)} (first : ReadOff close same left right)
    (equal : same → left = right) (second : ReadOff close also left' right') :
    ReadOff close (same ∧ also) (left ++ left') (right ++ right') := by
  intro rest others spelled
  rw [List.append_assoc, List.append_assoc] at spelled ⊢
  rcases first _ _ spelled with ⟨isSame, remains⟩ | overlaps
  · obtain rfl := equal isSame
    rcases second _ _ remains with ⟨isAlso, follows⟩ | overlaps
    · exact Or.inl ⟨⟨isSame, isAlso⟩, follows⟩
    · exact Or.inr (overlaps.append left)
  · exact Or.inr overlaps

theorem cons (symbol : α) (readOff : ReadOff close same left right) :
    ReadOff close same (.mark symbol :: left) (.mark symbol :: right) :=
  ((mark symbol).append (fun _ => rfl) readOff).imp And.right

theorem spell_eq_iff (readOff : ReadOff close (left = right) left right) :
    spell close left = spell close right ↔ left = right ∨ Overlaps close left right := by
  constructor
  · intro spelled
    have split := readOff [] [] (by rw [List.append_nil, List.append_nil, spelled])
    rw [List.append_nil, List.append_nil] at split
    exact split.imp_left And.left
  · rintro (rfl | overlaps)
    · rfl
    · exact overlaps.spell_eq

end ReadOff

end GhostArk.Lib.UnescapedText
