import Mathlib.Data.List.Basic

/-!
Contract: glob patterns over any alphabet.

Owns patterns of literals, single places and gaps, where a wildcard stands only for
the symbols it passes; the matcher; what a pattern denotes; the texts that a
literal start, or literals alone, leave to be matched; patterns in a row; and
when wildcards pass all that other wildcards would stand for.
-/

namespace GhostArk.Lib

inductive GlobToken (α : Type) where
  | literal (symbol : α)
  | place
  | gap
deriving DecidableEq

namespace Glob

variable {α : Type} [DecidableEq α] (passes : α → Bool)

/-- The text after some symbols that a gap passes goes on as `next` says. -/
def afterGap (next : List α → Bool) : List α → Bool
  | [] => next []
  | symbol :: rest => next (symbol :: rest) || (passes symbol && afterGap next rest)

def isMatch : List (GlobToken α) → List α → Bool
  | [], text => text.isEmpty
  | .literal _ :: _, [] => false
  | .literal symbol :: pattern, first :: rest => symbol = first && isMatch pattern rest
  | .place :: _, [] => false
  | .place :: pattern, first :: rest => passes first && isMatch pattern rest
  | .gap :: pattern, text => afterGap passes (isMatch pattern) text

inductive Denotes : List (GlobToken α) → List α → Prop where
  | nil : Denotes [] []
  | literal {pattern : List (GlobToken α)} {text : List α} (symbol : α)
      (rest : Denotes pattern text) : Denotes (.literal symbol :: pattern) (symbol :: text)
  | place {pattern : List (GlobToken α)} {text : List α} {symbol : α}
      (passed : passes symbol = true) (rest : Denotes pattern text) :
      Denotes (.place :: pattern) (symbol :: text)
  | gap {pattern : List (GlobToken α)} {text : List α} (passed : List α)
      (allPass : ∀ symbol ∈ passed, passes symbol = true) (rest : Denotes pattern text) :
      Denotes (.gap :: pattern) (passed ++ text)

variable {passes}

omit [DecidableEq α] in
theorem afterGap_iff {next : List α → Bool} {text : List α} :
    afterGap passes next text = true ↔
      ∃ passed rest, text = passed ++ rest ∧ (∀ symbol ∈ passed, passes symbol = true) ∧
        next rest = true := by
  induction text with
  | nil =>
    rw [afterGap]
    constructor
    · exact fun goesOn => ⟨[], [], rfl, fun _ member => (List.not_mem_nil member).elim, goesOn⟩
    · rintro ⟨passed, rest, isNil, _, goesOn⟩
      rw [List.nil_eq_append_iff] at isNil
      rw [← isNil.2]
      exact goesOn
  | cons symbol rest ih =>
    rw [afterGap, Bool.or_eq_true, Bool.and_eq_true, ih]
    constructor
    · rintro (goesOn | ⟨symbolPasses, passed, later, rfl, allPass, goesOn⟩)
      · exact ⟨[], _, rfl, fun _ member => (List.not_mem_nil member).elim, goesOn⟩
      · exact ⟨symbol :: passed, later, rfl,
          List.forall_mem_cons.mpr ⟨symbolPasses, allPass⟩, goesOn⟩
    · rintro ⟨passed, later, split, allPass, goesOn⟩
      cases passed with
      | nil =>
        rw [List.nil_append] at split
        rw [split]
        exact Or.inl goesOn
      | cons first others =>
        rw [List.cons_append, List.cons.injEq] at split
        rw [List.forall_mem_cons] at allPass
        rw [split.1]
        exact Or.inr ⟨allPass.1, others, later, split.2, allPass.2, goesOn⟩

theorem isMatch_iff {pattern : List (GlobToken α)} {text : List α} :
    isMatch passes pattern text = true ↔ Denotes passes pattern text := by
  induction pattern generalizing text with
  | nil =>
    rw [isMatch, List.isEmpty_iff]
    constructor
    · rintro rfl
      exact .nil
    · intro denotes
      cases denotes
      rfl
  | cons token rest ih =>
    cases token with
    | literal symbol =>
      cases text with
      | nil => exact iff_of_false Bool.false_ne_true fun denotes => by cases denotes
      | cons first later =>
        rw [isMatch, Bool.and_eq_true, decide_eq_true_eq, ih]
        constructor
        · rintro ⟨rfl, denotes⟩
          exact .literal symbol denotes
        · intro denotes
          cases denotes with
          | literal _ later => exact ⟨rfl, later⟩
    | place =>
      cases text with
      | nil => exact iff_of_false Bool.false_ne_true fun denotes => by cases denotes
      | cons first later =>
        rw [isMatch, Bool.and_eq_true, ih]
        constructor
        · exact fun both => .place both.1 both.2
        · intro denotes
          cases denotes with
          | place passed later => exact ⟨passed, later⟩
    | gap =>
      rw [isMatch, afterGap_iff]
      constructor
      · rintro ⟨passed, later, rfl, allPass, goesOn⟩
        exact .gap passed allPass (ih.mp goesOn)
      · intro denotes
        cases denotes with
        | gap passed allPass later =>
          exact ⟨passed, _, rfl, allPass, ih.mpr later⟩

omit [DecidableEq α] in
theorem Denotes.literalStart {symbols : List α} {pattern : List (GlobToken α)} {text : List α}
    (denotes : Denotes passes (symbols.map .literal ++ pattern) text) :
    ∃ rest, text = symbols ++ rest ∧ Denotes passes pattern rest := by
  induction symbols generalizing text with
  | nil => exact ⟨text, rfl, denotes⟩
  | cons symbol others ih =>
    cases denotes with
    | literal _ later =>
      rcases ih later with ⟨rest, rfl, remains⟩
      exact ⟨rest, rfl, remains⟩

omit [DecidableEq α] in
theorem denotes_literals_iff {symbols text : List α} :
    Denotes passes (symbols.map .literal) text ↔ text = symbols := by
  constructor
  · intro denotes
    rw [← List.append_nil (symbols.map _)] at denotes
    rcases denotes.literalStart with ⟨rest, rfl, remains⟩
    cases remains
    exact List.append_nil symbols
  · rintro rfl
    induction text with
    | nil => exact .nil
    | cons symbol others ih => exact .literal symbol ih

section Unpassed

variable {stands : α → Bool}

variable {pattern : List (GlobToken α)}

variable {text : List α}

omit [DecidableEq α] in
theorem Denotes.mono (weaker : ∀ symbol, passes symbol = true → stands symbol = true)
    (denotes : Denotes passes pattern text) : Denotes stands pattern text := by
  induction denotes with
  | nil => exact .nil
  | literal symbol _ ih => exact .literal symbol ih
  | place passed _ ih => exact .place (weaker _ passed) ih
  | gap passed allPass _ ih =>
    exact .gap passed (fun symbol member => weaker symbol (allPass symbol member))
      ih

/-- How many literals of a pattern a wildcard would not pass. -/
def unpassed (passes : α → Bool) : List (GlobToken α) → ℕ
  | [] => 0
  | .literal symbol :: pattern => unpassed passes pattern + if passes symbol then 0 else 1
  | .place :: pattern => unpassed passes pattern
  | .gap :: pattern => unpassed passes pattern

omit [DecidableEq α] in
theorem Denotes.countP_eq (denotes : Denotes passes pattern text) :
    text.countP (fun symbol => !passes symbol) = unpassed passes pattern := by
  induction denotes with
  | nil => rfl
  | literal symbol rest ih =>
    rw [List.countP_cons, ih, unpassed]
    cases passes symbol <;> rfl
  | place passed rest ih =>
    rw [List.countP_cons, ih, unpassed, passed]
    rfl
  | gap passed allPass rest ih =>
    have none : passed.countP (fun symbol => !passes symbol) = 0 := by
      rw [List.countP_eq_zero]
      intro symbol member
      rw [allPass symbol member]
      exact Bool.false_ne_true
    rw [List.countP_append, none, Nat.zero_add, ih, unpassed]

omit [DecidableEq α] in
theorem Denotes.unpassed_le (denotes : Denotes stands pattern text) :
    unpassed passes pattern ≤ text.countP fun symbol => !passes symbol := by
  induction denotes with
  | nil => exact Nat.zero_le _
  | literal symbol rest ih =>
    rw [List.countP_cons, unpassed]
    cases passes symbol <;> simpa using ih
  | place stood rest ih =>
    rw [List.countP_cons, unpassed]
    omega
  | gap stood allStand rest ih =>
    rw [List.countP_append, unpassed]
    omega

omit [DecidableEq α] in
theorem Denotes.of_countP_eq (denotes : Denotes stands pattern text)
    (same : text.countP (fun symbol => !passes symbol) = unpassed passes pattern) :
    Denotes passes pattern text := by
  induction denotes with
  | nil => exact .nil
  | @literal pattern text symbol rest ih =>
    refine .literal symbol (ih ?_)
    rw [List.countP_cons, unpassed] at same
    cases isPassed : passes symbol <;> simpa [isPassed] using same
  | @place pattern text symbol stood rest ih =>
    have few : unpassed passes pattern ≤ _ := rest.unpassed_le
    rw [List.countP_cons, unpassed] at same
    cases isPassed : passes symbol with
    | true =>
      rw [isPassed] at same
      exact .place isPassed (ih same)
    | false =>
      simp only [isPassed, Bool.not_false, if_true] at same
      omega
  | @gap pattern text stood allStand rest ih =>
    have few : unpassed passes pattern ≤ _ := rest.unpassed_le
    rw [List.countP_append, unpassed] at same
    have none : stood.countP (fun symbol => !passes symbol) = 0 := by omega
    refine .gap stood (fun symbol member => ?_) (ih (by omega))
    have notUnpassed := List.countP_eq_zero.mp none symbol member
    simpa using notUnpassed

end Unpassed

end Glob

end GhostArk.Lib
