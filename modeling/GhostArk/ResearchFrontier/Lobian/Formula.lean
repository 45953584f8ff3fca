import GhostArk.Js.Text
import GhostArk.Lib.UnescapedText

/-!
Contract: modal formulas of provability logic, `lobian/formula.ts`.

Owns the syntax, the structural key, the human-readable rendering, the pieces that a
key is written from, exactly when two formulas have one key, and the key's injectivity
on formulas whose atom names contain no delimiter of the key.

Atom names are arbitrary and are written into the key without escapes. Does not own the
semantics or the decision procedure.
-/

namespace GhostArk.ResearchFrontier.Lobian

open Js
open Lib.UnescapedText

inductive Formula where
  | atom (name : JsString)
  | top
  | bot
  | not (a : Formula)
  | and (a b : Formula)
  | or (a b : Formula)
  | imp (a b : Formula)
  | iff (a b : Formula)
  | box (a : Formula)
deriving DecidableEq

namespace Formula

def key : Formula → JsString
  | atom name => js "p(" ++ name ++ js ")"
  | top => js "T"
  | bot => js "F"
  | not a => js "~(" ++ key a ++ js ")"
  | and a b => js "&(" ++ key a ++ js "," ++ key b ++ js ")"
  | or a b => js "|(" ++ key a ++ js "," ++ key b ++ js ")"
  | imp a b => js ">(" ++ key a ++ js "," ++ key b ++ js ")"
  | iff a b => js "=(" ++ key a ++ js "," ++ key b ++ js ")"
  | box a => js "[](" ++ key a ++ js ")"

/-- The human-readable rendering. -/
def «show» : Formula → JsString
  | atom name => name
  | top => js "⊤"
  | bot => js "⊥"
  | not a => js "¬" ++ «show» a
  | and a b => js "(" ++ «show» a ++ js " ∧ " ++ «show» b ++ js ")"
  | or a b => js "(" ++ «show» a ++ js " ∨ " ++ «show» b ++ js ")"
  | imp a b => js "(" ++ «show» a ++ js " → " ++ «show» b ++ js ")"
  | iff a b => js "(" ++ «show» a ++ js " ↔ " ++ «show» b ++ js ")"
  | box a => js "□" ++ «show» a

/-! ### The pieces of a key -/

/-- `op(left,right)`. -/
def binaryPieces (operator : CodeUnit) (left right : List (Piece CodeUnit)) :
    List (Piece CodeUnit) :=
  .mark operator :: .mark (unit '(') ::
    (left ++ (.mark (unit ',') :: (right ++ [.mark (unit ')')])))

/-- Delimiters and names of a formula in the order they are written in. -/
def pieces : Formula → List (Piece CodeUnit)
  | atom name => [.mark (unit 'p'), .mark (unit '('), .name name]
  | top => [.mark (unit 'T')]
  | bot => [.mark (unit 'F')]
  | not a => .mark (unit '~') :: .mark (unit '(') :: (pieces a ++ [.mark (unit ')')])
  | and a b => binaryPieces (unit '&') (pieces a) (pieces b)
  | or a b => binaryPieces (unit '|') (pieces a) (pieces b)
  | imp a b => binaryPieces (unit '>') (pieces a) (pieces b)
  | iff a b => binaryPieces (unit '=') (pieces a) (pieces b)
  | box a =>
    .mark (unit '[') :: .mark (unit ']') :: .mark (unit '(') :: (pieces a ++ [.mark (unit ')')])

private theorem key_marks :
    js "p(" = [unit 'p', unit '('] ∧ js "T" = [unit 'T'] ∧ js "F" = [unit 'F'] ∧
      js "~(" = [unit '~', unit '('] ∧ js "&(" = [unit '&', unit '('] ∧
      js "|(" = [unit '|', unit '('] ∧ js ">(" = [unit '>', unit '('] ∧
      js "=(" = [unit '=', unit '('] ∧ js "[](" = [unit '[', unit ']', unit '('] ∧
      js "," = [unit ','] ∧ js ")" = [unit ')'] := by
  decide

theorem spell_pieces (f : Formula) : spell (unit ')') f.pieces = f.key := by
  induction f with
  | atom name => simp [pieces, key, key_marks]
  | top => simp [pieces, key, key_marks]
  | bot => simp [pieces, key, key_marks]
  | not a ih =>
    simp [pieces, key, key_marks, spell_append, ih]
  | and a b left right | or a b left right | imp a b left right | iff a b left right =>
    simp [pieces, binaryPieces, key, key_marks, spell_append, left, right]
  | box a ih =>
    simp [pieces, key, key_marks, spell_append, ih]

section ReadOff

variable {a b a' b' : Formula}

private theorem readOff_closed (inner : ReadOff (unit ')') (a = a') a.pieces a'.pieces) :
    ReadOff (unit ')') (a = a') (a.pieces ++ [.mark (unit ')')])
      (a'.pieces ++ [.mark (unit ')')]) :=
  (inner.append (congrArg pieces) (.mark _)).imp And.left

private theorem readOff_binary (operator : CodeUnit)
    (left : ReadOff (unit ')') (a = a') a.pieces a'.pieces)
    (right : ReadOff (unit ')') (b = b') b.pieces b'.pieces) :
    ReadOff (unit ')') (a = a' ∧ b = b') (binaryPieces operator a.pieces b.pieces)
      (binaryPieces operator a'.pieces b'.pieces) :=
  .cons _ (.cons _ (left.append (congrArg pieces) (.cons _ (readOff_closed right))))

end ReadOff

theorem readOff_pieces (f g : Formula) : ReadOff (unit ')') (f = g) f.pieces g.pieces := by
  -- Formulas of different kinds differ in their first mark.
  induction f generalizing g with
  | atom name =>
    cases g with
    | atom other => exact ((ReadOff.name name other).cons _ |>.cons _).imp (congrArg atom)
    | _ => exact .of_ne (by decide)
  | top =>
    cases g with
    | top => exact (ReadOff.mark _).imp fun _ => rfl
    | _ => exact .of_ne (by decide)
  | bot =>
    cases g with
    | bot => exact (ReadOff.mark _).imp fun _ => rfl
    | _ => exact .of_ne (by decide)
  | not a ih =>
    cases g with
    | not a' =>
      exact ((readOff_closed (ih a')).cons _ |>.cons _).imp (congrArg not)
    | _ => exact .of_ne (by decide)
  | box a ih =>
    cases g with
    | box a' =>
      exact ((readOff_closed (ih a')).cons _ |>.cons _ |>.cons _).imp
        (congrArg box)
    | _ => exact .of_ne (by decide)
  | and a b left right =>
    cases g with
    | and a' b' =>
      exact (readOff_binary _ (left a') (right b')).imp fun both => congrArg₂ and both.1 both.2
    | _ => exact .of_ne (by decide)
  | or a b left right =>
    cases g with
    | or a' b' =>
      exact (readOff_binary _ (left a') (right b')).imp fun both => congrArg₂ or both.1 both.2
    | _ => exact .of_ne (by decide)
  | imp a b left right =>
    cases g with
    | imp a' b' =>
      exact (readOff_binary _ (left a') (right b')).imp fun both => congrArg₂ imp both.1 both.2
    | _ => exact .of_ne (by decide)
  | iff a b left right =>
    cases g with
    | iff a' b' =>
      exact (readOff_binary _ (left a') (right b')).imp fun both => congrArg₂ iff both.1 both.2
    | _ => exact .of_ne (by decide)

/-- Two formulas have one key exactly if they are one formula, or a name of the one overlaps with
the other. -/
theorem key_eq_iff {f g : Formula} :
    f.key = g.key ↔ f = g ∨ Overlaps (unit ')') f.pieces g.pieces := by
  have samePieces : f.pieces = g.pieces ↔ f = g := by
    refine ⟨fun same => ?_, congrArg pieces⟩
    have readOff := readOff_pieces f g [] [] (by rw [same])
    rw [List.append_nil, List.append_nil] at readOff
    exact readOff.elim And.left fun overlaps => absurd same overlaps.ne
  have whole := (readOff_pieces f g).imp samePieces.mpr
  rw [← spell_pieces, ← spell_pieces, whole.spell_eq_iff, samePieces]

/-- No atom name contains a delimiter of the key. -/
def WellNamed : Formula → Prop
  | atom name => ∀ codeUnit ∈ name, codeUnit ∉ js "(),"
  | top | bot => True
  | not a | box a => WellNamed a
  | and a b | or a b | imp a b | iff a b => WellNamed a ∧ WellNamed b

theorem name_of_overlaps {f g : Formula} (overlaps : Overlaps (unit ')') f.pieces g.pieces) :
    ∃ symbols, (.name symbols ∈ f.pieces ∨ .name symbols ∈ g.pieces) ∧ unit ')' ∈ symbols := by
  rcases overlaps with overlap | overlap
  · rcases overlap.exists_name with ⟨symbols, member, closes⟩
    exact ⟨symbols, Or.inr member, closes⟩
  · rcases overlap.exists_name with ⟨symbols, member, closes⟩
    exact ⟨symbols, Or.inl member, closes⟩

theorem WellNamed.of_name_mem {f : Formula} (named : f.WellNamed) {symbols : JsString}
    (member : .name symbols ∈ f.pieces) : unit ')' ∉ symbols := by
  induction f with
  | atom name =>
    obtain rfl : symbols = name := by simpa [pieces] using member
    exact fun closes => named _ closes (by decide)
  | top | bot => simp [pieces] at member
  | not a ih | box a ih =>
    exact ih named (by simpa [pieces] using member)
  | and a b left right | or a b left right | imp a b left right | iff a b left right =>
    have inside : .name symbols ∈ a.pieces ∨ .name symbols ∈ b.pieces := by
      simpa [pieces, binaryPieces] using member
    exact inside.elim (left named.1) (right named.2)

theorem key_inj {f g : Formula} (left : f.WellNamed) (right : g.WellNamed)
    (same : f.key = g.key) : f = g := by
  refine (key_eq_iff.mp same).resolve_right fun overlaps => ?_
  rcases name_of_overlaps overlaps with ⟨symbols, inLeft | inRight, closes⟩
  · exact left.of_name_mem inLeft closes
  · exact right.of_name_mem inRight closes

def operands : Formula → List Formula
  | atom _ | top | bot => []
  | not a | box a => [a]
  | and a b | or a b | imp a b | iff a b => [a, b]

theorem WellNamed.of_operand {f g : Formula} (named : f.WellNamed) (operand : g ∈ f.operands) :
    g.WellNamed := by
  cases f with
  | atom name => exact absurd operand List.not_mem_nil
  | top => exact absurd operand List.not_mem_nil
  | bot => exact absurd operand List.not_mem_nil
  | not a => exact List.mem_singleton.mp operand ▸ named
  | box a => exact List.mem_singleton.mp operand ▸ named
  | and a b | or a b | imp a b | iff a b =>
    rcases List.mem_pair.mp operand with rfl | rfl
    · exact named.1
    · exact named.2

/-- A formula and all formulas inside it; the source collects them by key. -/
def subformulas : Formula → List Formula
  | atom name => [atom name]
  | top => [top]
  | bot => [bot]
  | not a => not a :: subformulas a
  | and a b => and a b :: (subformulas a ++ subformulas b)
  | or a b => or a b :: (subformulas a ++ subformulas b)
  | imp a b => imp a b :: (subformulas a ++ subformulas b)
  | iff a b => iff a b :: (subformulas a ++ subformulas b)
  | box a => box a :: subformulas a

theorem mem_subformulas_self (f : Formula) : f ∈ f.subformulas := by
  cases f <;> exact List.mem_cons_self

theorem operand_mem_subformulas {f g h : Formula} (member : g ∈ f.subformulas)
    (operand : h ∈ g.operands) : h ∈ f.subformulas := by
  induction f with
  | atom name | top | bot =>
    rw [List.mem_singleton.mp member] at operand
    exact absurd operand List.not_mem_nil
  | not a ih | box a ih =>
    rcases List.mem_cons.mp member with rfl | inside
    · rw [List.mem_singleton.mp operand]
      exact List.mem_cons_of_mem _ a.mem_subformulas_self
    · exact List.mem_cons_of_mem _ (ih inside)
  | and a b left right | or a b left right | imp a b left right | iff a b left right =>
    rw [subformulas, List.mem_cons, List.mem_append] at member ⊢
    rcases member with rfl | inLeft | inRight
    · rcases List.mem_pair.mp operand with rfl | rfl
      · exact Or.inr (Or.inl (mem_subformulas_self _))
      · exact Or.inr (Or.inr (mem_subformulas_self _))
    · exact Or.inr (Or.inl (left inLeft))
    · exact Or.inr (Or.inr (right inRight))

end Formula

end GhostArk.ResearchFrontier.Lobian
