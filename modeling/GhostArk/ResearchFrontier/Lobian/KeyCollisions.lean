import GhostArk.ResearchFrontier.Lobian.GlDecision

/-!
Contract: what the structural key of `lobian/formula.ts` means for the tableau.

Owns the removal of duplicates and the closure check, exactly when they tell two formulas apart,
and two formulas that they do not.
-/

namespace GhostArk.ResearchFrontier.Lobian

open Js
open Lib.UnescapedText

namespace Formula

theorem key_eq_bot_iff {f : Formula} : f.key = js "F" ↔ f = bot := by
  refine ⟨fun same => ?_, congrArg key⟩
  exact ((@key_eq_iff f bot).mp same).elim id fun overlaps =>
    absurd overlaps (not_overlaps_mark _ _)

theorem key_eq_top_iff {f : Formula} : f.key = js "T" ↔ f = top := by
  refine ⟨fun same => ?_, congrArg key⟩
  exact ((@key_eq_iff f top).mp same).elim id fun overlaps =>
    absurd overlaps (not_overlaps_mark _ _)

end Formula

namespace GlTableau

private theorem sign_texts : js "T:" = [unit 'T', unit ':'] ∧ js "F:" = [unit 'F', unit ':'] := by
  decide

theorem sk_eq_iff {s t : Signed} : sk s = sk t ↔ s.sign = t.sign ∧ s.f.key = t.f.key := by
  have apart : unit 'T' ≠ unit 'F' := by decide
  rcases s with ⟨_ | _, f⟩ <;> rcases t with ⟨_ | _, g⟩ <;>
    simp [sk, sign_texts, apart, apart.symm]

theorem sk_eq_bot_iff {s : Signed} : sk s = js "T:F" ↔ s = ⟨.T, .bot⟩ := by
  rw [show js "T:F" = sk ⟨.T, .bot⟩ from rfl, sk_eq_iff, Signed.mk.injEq]
  exact and_congr_right fun _ => Formula.key_eq_bot_iff

theorem sk_eq_top_iff {s : Signed} : sk s = js "F:T" ↔ s = ⟨.F, .top⟩ := by
  rw [show js "F:T" = sk ⟨.F, .top⟩ from rfl, sk_eq_iff, Signed.mk.injEq]
  exact and_congr_right fun _ => Formula.key_eq_top_iff

theorem mem_map_sk_iff {signed : List Signed} {s : Signed} :
    sk s ∈ signed.map sk ↔ ∃ t ∈ signed, t.sign = s.sign ∧ t.f.key = s.f.key := by
  simp only [List.mem_map, sk_eq_iff]

theorem closure_isSome_iff (signed : List Signed) :
    (closure signed).isSome ↔
      (∃ s ∈ signed, ∃ t ∈ signed, t.sign = s.sign.opposite ∧ t.f.key = s.f.key) ∨
        ⟨.T, .bot⟩ ∈ signed ∨ ⟨.F, .top⟩ ∈ signed := by
  have isBot : js "T:F" ∈ signed.map sk ↔ ⟨.T, .bot⟩ ∈ signed := by
    simp only [List.mem_map, sk_eq_bot_iff, exists_eq_right]
  have isTop : js "F:T" ∈ signed.map sk ↔ ⟨.F, .top⟩ ∈ signed := by
    simp only [List.mem_map, sk_eq_top_iff, exists_eq_right]
  have clashes : (signed.find? fun s =>
      (signed.map sk).contains (sk ⟨s.sign.opposite, s.f⟩)).isSome ↔
        ∃ s ∈ signed, ∃ t ∈ signed, t.sign = s.sign.opposite ∧ t.f.key = s.f.key := by
    simp only [List.find?_isSome, List.contains_iff_mem, mem_map_sk_iff]
  rw [← clashes, ← isBot, ← isTop, ← List.contains_iff_mem, ← List.contains_iff_mem, closure]
  cases signed.find? fun s => (signed.map sk).contains (sk ⟨s.sign.opposite, s.f⟩) with
  | some s => simp only [Option.isSome_some, true_or]
  | none =>
    simp only [Option.isSome_none, Bool.false_eq_true, false_or]
    split
    next holdsBot => simp only [Option.isSome_some, holdsBot, true_or]
    next noBot =>
      split
      next holdsTop => simp only [Option.isSome_some, holdsTop, or_true]
      next noTop => simp only [Option.isSome_none, noBot, noTop, or_self]

theorem dedup_pair (s t : Signed) : dedup [s, t] = if sk s = sk t then [s] else [s, t] := by
  simp only [dedup, dedupFrom, List.contains_iff_mem, List.not_mem_nil, if_false,
    List.nil_append, List.mem_singleton, eq_comm (a := sk t)]
  split
  next same => rfl
  next differ => rfl

/-- The key, the removal of duplicates and the closure check tell the formulas apart, unless they
are one formula. A sequent with `T:⊥` or `F:⊤` closes whatever else it holds. -/
structure TellsApart (x y : Formula) : Prop where
  key : x.key = y.key → x = y
  dedup : ∀ sign, dedup [⟨sign, x⟩, ⟨sign, y⟩] = [⟨sign, x⟩] → x = y
  closure : (closure [⟨.T, x⟩, ⟨.F, y⟩]).isSome → x = y ∨ x = .bot ∨ y = .top

/-- **The structural key.** Two formulas are told apart exactly if no name of the one overlaps with
what the other is written with. -/
theorem tellsApart_iff (x y : Formula) :
    TellsApart x y ↔ ¬ Overlaps (unit ')') x.pieces y.pieces := by
  constructor
  · intro apart overlaps
    have same : x.key = y.key := Formula.key_eq_iff.mpr (Or.inr overlaps)
    exact overlaps.ne (congrArg Formula.pieces (apart.key same))
  · intro separate
    have keyed (same : x.key = y.key) : x = y :=
      (Formula.key_eq_iff.mp same).resolve_right separate
    constructor
    · exact keyed
    · intro sign dropped
      rw [dedup_pair, ite_eq_left_iff] at dropped
      by_contra differ
      have noDuplicate : sk ⟨sign, x⟩ ≠ sk ⟨sign, y⟩ :=
        fun same => differ (keyed (sk_eq_iff.mp same).2)
      exact absurd (dropped noDuplicate) (by simp)
    · intro closes
      rcases (closure_isSome_iff _).mp closes with clash | isBot | isTop
      · left
        apply keyed
        simpa [Sign.opposite, eq_comm] using clash
      · right; left
        simpa [eq_comm] using isBot
      · right; right
        simpa [eq_comm] using isTop

namespace KeySample

/-- `a` and an atom whose name spells the end of a key and the start of another one. -/
def outer : Formula := .and (.atom (js "a")) (.atom (js "b),p(c"))

def inner : Formula := .and (.atom (js "a),p(b")) (.atom (js "c"))

/-- Both formulas are written `&(p(a),p(b),p(c))`. -/
theorem names_collide : ¬ ∀ x y : Formula, TellsApart x y := by
  intro apart
  have sameKey : outer.key = inner.key := by decide +kernel
  have differ : outer ≠ inner := by decide +kernel
  exact differ ((apart outer inner).key sameKey)

/-- The tableau certifies that the one implies the other, which fails where only the atoms of the
first one hold. -/
example : (decide 10 (.imp outer inner)).toOption.map DecideResult.isTheorem = some true ∧
    KripkeModel.refutes ⟨[js "w"], [], [(js "w", [js "a", js "b),p(c"])]⟩ (js "w")
      (.imp outer inner) = true := by
  decide +kernel

end KeySample

end GlTableau

end GhostArk.ResearchFrontier.Lobian
