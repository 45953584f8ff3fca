import Mathlib.Algebra.Order.BigOperators.Group.List
import Mathlib.Data.Finset.Card
import GhostArk.ResearchFrontier.Lobian.GlTableauCorrectness

/-!
Contract: termination of the tableau.

Owns the two measures of a sequent, how the rules decrease them, the calls that a call
nests, and the budget that suffices for a search: a propositional rule lowers the weight
of what can still be decomposed and keeps the true boxes, and the modal rule adds a true
box.

Does not own what the returned results mean.
-/

namespace GhostArk.ResearchFrontier.Lobian.GlTableau

open Js

/-- What the propositional rules can still decompose. -/
def weight : Formula → Nat
  | .atom _ | .box _ => 0
  | .top | .bot => 1
  | .not a => weight a + 1
  | .and a b | .or a b | .imp a b | .iff a b => weight a + weight b + 1

def totalWeight (signed : List Signed) : Nat := (signed.map fun s => weight s.f).sum

def isBox : Formula → Bool
  | .box _ => true
  | _ => false

/-- The boxes of a stock of formulas that are not true in the sequent. -/
def missing (stock : Finset Formula) (signed : List Signed) : Finset Formula :=
  stock.filter fun g => isBox g = true ∧ ⟨.T, g⟩ ∉ signed

/-- The stock contains the operands of its formulas. -/
def Closed (stock : Finset Formula) : Prop := ∀ {f g}, f ∈ stock → g ∈ f.operands → g ∈ stock

def Within (stock : Finset Formula) (signed : List Signed) : Prop := ∀ s ∈ signed, s.f ∈ stock

section Measures

variable {stock : Finset Formula} {signed rest : List Signed} {rule : Expansion}

theorem expansion_weight {s : Signed} (found : expansion s = some rule) :
    ∀ branch ∈ rule.branches, totalWeight branch < weight s.f := by
  rcases s with ⟨_ | _, f⟩ <;> cases f <;> cases found <;>
    simp [Expansion.branches, totalWeight, weight]

theorem totalWeight_append (left right : List Signed) :
    totalWeight (left ++ right) = totalWeight left + totalWeight right := by
  simp [totalWeight]

theorem totalWeight_dedup_le (signed : List Signed) :
    totalWeight (dedup signed) ≤ totalWeight signed :=
  ((dedup_sublist signed).map _).sum_le_sum fun _ _ => Nat.zero_le _

theorem totalWeight_selected_lt (found : selected signed = some (rest, rule))
    {branch : List Signed} (inBranches : branch ∈ rule.branches) :
    totalWeight (rest ++ branch) < totalWeight signed := by
  rcases eq_some_of_selected found with ⟨before, s, after, rfl, rfl, -, isRule⟩
  have lighter := expansion_weight isRule branch inBranches
  have split : totalWeight (s :: after) = weight s.f + totalWeight after := by simp [totalWeight]
  rw [totalWeight_append, totalWeight_append, totalWeight_append, split]
  omega

theorem missing_selected_subset (found : selected signed = some (rest, rule))
    (branch : List Signed) : missing stock (rest ++ branch) ⊆ missing stock signed := by
  rcases eq_some_of_selected found with ⟨before, s, after, rfl, rfl, compound, -⟩
  intro g member
  simp only [missing, Finset.mem_filter, List.mem_append, List.mem_cons] at member ⊢
  rcases member with ⟨inStock, boxed, absent⟩
  refine ⟨inStock, boxed, ?_⟩
  rintro (inBefore | rfl | inAfter)
  · exact absent (Or.inl (Or.inl inBefore))
  · cases g with
    | box a => cases compound
    | _ => cases boxed
  · exact absent (Or.inl (Or.inr inAfter))

theorem missing_succ_ssubset (consistent : ¬ Clashes signed) (within : Within stock signed)
    {A : Formula} (defect : A ∈ defects signed) :
    missing stock (succ signed A) ⊂ missing stock signed := by
  have isFalse := mem_defects.mp defect
  constructor
  · intro g member
    simp only [missing, Finset.mem_filter] at member ⊢
    rcases member with ⟨inStock, boxed, absent⟩
    refine ⟨inStock, boxed, fun isTrue => absent ?_⟩
    cases g with
    | box a => exact mem_succ.mpr (Or.inl ⟨a, isTrue, Or.inr rfl⟩)
    | _ => cases boxed
  · intro all
    have before : .box A ∈ missing stock signed :=
      Finset.mem_filter.mpr ⟨within _ isFalse, rfl,
        fun isTrue => consistent (Or.inl ⟨_, isTrue, isFalse⟩)⟩
    have after := (Finset.mem_filter.mp (all before)).2.2
    exact after (mem_succ.mpr (Or.inr (Or.inl rfl)))

theorem missing_dedup (named : Named signed) :
    missing stock (dedup signed) = missing stock signed := by
  simp only [missing, mem_dedup named]

theorem within_dedup (within : Within stock signed) : Within stock (dedup signed) :=
  fun s member => within s ((dedup_sublist signed).subset member)

end Measures

/-- A call of `search` nests another one. The source leaves out some of these: it stops at the
first open branch and at the first defect without a witness. -/
inductive Nests (parent : List Signed) : List Signed → Prop where
  | propositional {rest : List Signed} {rule : Expansion} {branch : List Signed}
      (closes : closure (dedup parent) = none)
      (found : selected (dedup parent) = some (rest, rule))
      (inBranches : branch ∈ rule.branches) : Nests parent (rest ++ branch)
  | modal {A : Formula} (closes : closure (dedup parent) = none)
      (saturated : selected (dedup parent) = none) (defect : A ∈ defects (dedup parent)) :
      Nests parent (succ (dedup parent) A)

/-- The true boxes still missing come first, then the weight. -/
def rank (stock : Finset Formula) (signed : List Signed) : Nat ×ₗ Nat :=
  toLex ((missing stock signed).card, totalWeight signed)

section Calls

variable {stock : Finset Formula} {parent child : List Signed}

theorem Nests.named (nests : Nests parent child) (named : Named parent) : Named child := by
  cases nests with
  | propositional closes found inBranches =>
    exact inherited_selected Formula.WellNamed.of_operand named.dedup found inBranches
  | modal closes saturated defect =>
    exact inherited_succ Formula.WellNamed.of_operand named.dedup defect

theorem Nests.within (nests : Nests parent child) (closed : Closed stock)
    (within : Within stock parent) : Within stock child := by
  cases nests with
  | propositional closes found inBranches =>
    exact inherited_selected closed (within_dedup within) found inBranches
  | modal closes saturated defect => exact inherited_succ closed (within_dedup within) defect

theorem Nests.rank_lt (nests : Nests parent child) (named : Named parent)
    (within : Within stock parent) : rank stock child < rank stock parent := by
  rw [rank, rank, Prod.Lex.toLex_lt_toLex]
  have sameBoxes : missing stock (dedup parent) = missing stock parent := missing_dedup named
  rw [← sameBoxes]
  cases nests with
  | @propositional rest rule branch closes found inBranches =>
    have subset : missing stock (rest ++ branch) ⊆ missing stock (dedup parent) :=
      missing_selected_subset found branch
    have lighter := totalWeight_selected_lt found inBranches
    have lightens := totalWeight_dedup_le parent
    rcases Nat.lt_or_eq_of_le (Finset.card_le_card subset) with fewer | same
    · exact Or.inl fewer
    · exact Or.inr ⟨same, by omega⟩
  | modal closes saturated defect =>
    have consistent := (closure_eq_none_iff named.dedup).mp closes
    exact Or.inl (Finset.card_lt_card
      (missing_succ_ssubset consistent (within_dedup within) defect))

/-- Sequents over a finite stock of formulas cannot nest for ever. -/
theorem acc_nests (closed : Closed stock) {signed : List Signed} (named : Named signed)
    (within : Within stock signed) : Acc (fun child parent => Nests parent child) signed := by
  induction below : rank stock signed using WellFoundedLT.induction generalizing signed with
  | ind position ih =>
    constructor
    intro child nests
    have lower : rank stock child < position := below ▸ nests.rank_lt named within
    exact ih _ lower (nests.named named) (nests.within closed within) rfl

end Calls

/-! ### Budgets -/

/-- Some budget suffices: within it and from any counter the run returns, and it counts
no more nodes than that. -/
def Affordable {Result : Type} (run : (maxNodes depth counter : Nat) →
    Except JsError (Result × Nat)) : Prop :=
  ∃ cost, ∀ maxNodes depth counter, cost ≤ depth → counter + cost ≤ maxNodes →
    ∃ result counter', run maxNodes depth counter = .ok (result, counter') ∧
      counter' ≤ counter + cost

theorem Affordable.of_returns {Result Result' : Type}
    {run : (maxNodes depth counter : Nat) → Except JsError (Result × Nat)}
    {run' : (maxNodes depth counter : Nat) → Except JsError (Result' × Nat)}
    (affordable : Affordable run)
    (returns : ∀ {maxNodes depth counter result counter'},
      run maxNodes depth counter = .ok (result, counter') →
        ∃ result', run' maxNodes depth counter = .ok (result', counter')) : Affordable run' := by
  rcases affordable with ⟨cost, affords⟩
  refine ⟨cost, fun maxNodes depth counter deep enough => ?_⟩
  rcases affords maxNodes depth counter deep enough with ⟨result, counter', returned, bound⟩
  rcases returns returned with ⟨result', returned'⟩
  exact ⟨result', counter', returned', bound⟩

/-- Some budget suffices for the search of a sequent. -/
def Searchable (signed : List Signed) : Prop :=
  Affordable fun maxNodes depth counter => searchWithin maxNodes depth counter signed

theorem searchBranches_affordable {rest : List Signed} {branches : List (List Signed)}
    (nested : ∀ branch ∈ branches, Searchable (rest ++ branch)) :
    Affordable fun maxNodes depth counter =>
      searchBranches (searchWithin maxNodes depth) rest counter branches := by
  induction branches with
  | nil => exact ⟨0, fun _ _ counter _ _ => ⟨_, counter, rfl, Nat.le_refl _⟩⟩
  | cons br branches ih =>
    rcases nested br (.head _) with ⟨here, searched⟩
    rcases ih fun branch member => nested branch (.tail _ member) with
      ⟨later, searchedLater⟩
    refine ⟨here + later, fun maxNodes depth counter deep enough => ?_⟩
    rcases searched maxNodes depth counter (by omega) (by omega) with
      ⟨proof | world, middle, first, middleBound⟩
    · rcases searchedLater maxNodes depth middle (by omega) (by omega) with
        ⟨world | proofs, last, second, lastBound⟩
      · exact ⟨.inl world, last, by simp [searchBranches, first, second], by omega⟩
      · exact ⟨.inr (proof :: proofs), last, by simp [searchBranches, first, second], by omega⟩
    · exact ⟨.inl world, middle, by simp [searchBranches, first], by omega⟩

variable {signed : List Signed}

theorem searchDefects_affordable {wanted : List Formula}
    (nested : ∀ A ∈ wanted, Searchable (succ signed A)) :
    Affordable fun maxNodes depth counter =>
      searchDefects (searchWithin maxNodes depth) signed counter wanted := by
  induction wanted with
  | nil => exact ⟨0, fun _ _ counter _ _ => ⟨_, counter, rfl, Nat.le_refl _⟩⟩
  | cons A wanted ih =>
    rcases nested A (.head _) with ⟨here, searched⟩
    rcases ih fun later member => nested later (.tail _ member) with
      ⟨later, searchedLater⟩
    refine ⟨here + later, fun maxNodes depth counter deep enough => ?_⟩
    rcases searched maxNodes depth counter (by omega) (by omega) with
      ⟨proof | world, middle, first, middleBound⟩
    · exact ⟨.inl (A, proof), middle, by simp [searchDefects, first], by omega⟩
    · rcases searchedLater maxNodes depth middle (by omega) (by omega) with
        ⟨refuted | successors, last, second, lastBound⟩
      · exact ⟨.inl refuted, last, by simp [searchDefects, first, second], by omega⟩
      · exact ⟨.inr (world :: successors), last, by simp [searchDefects, first, second],
          by omega⟩

theorem searchNode_affordable (propositional : closure (dedup signed) = none → ∀ rest rule,
      selected (dedup signed) = some (rest, rule) →
        ∀ branch ∈ rule.branches, Searchable (rest ++ branch))
    (modal : closure (dedup signed) = none → selected (dedup signed) = none →
      ∀ A ∈ defects (dedup signed), Searchable (succ (dedup signed) A)) :
    Affordable fun maxNodes depth counter =>
      searchNode (searchWithin maxNodes depth) counter signed := by
  cases closes : closure (dedup signed) with
  | some reason =>
    refine ⟨0, fun _ _ counter _ _ => ?_⟩
    simp only [searchNode, closes]
    exact ⟨_, counter, rfl, Nat.le_refl _⟩
  | none =>
    cases chosen : selected (dedup signed) with
    | some selection =>
      rcases selection with ⟨rest, ⟨adds, name⟩ | ⟨branches, name⟩⟩
      · apply Affordable.of_returns (propositional closes rest _ chosen adds (.head _))
        rintro maxNodes depth counter (proof | world) counter' returned <;>
          simp only [searchNode, closes, chosen, returned] <;>
          exact ⟨_, rfl⟩
      · apply Affordable.of_returns
          (searchBranches_affordable (propositional closes rest _ chosen))
        rintro maxNodes depth counter (world | proofs) counter' returned <;>
          simp only [Expansion.branches] at returned <;>
          simp only [searchNode, closes, chosen, returned] <;>
          exact ⟨_, rfl⟩
    | none =>
      apply Affordable.of_returns (searchDefects_affordable (modal closes chosen))
      rintro maxNodes depth counter (refuted | successors) counter' returned <;>
        simp only [searchNode, closes, chosen, returned] <;>
        exact ⟨_, rfl⟩

theorem searchable_of_node (node : Affordable fun maxNodes depth counter =>
      searchNode (searchWithin maxNodes depth) counter signed) : Searchable signed := by
  rcases node with ⟨cost, affords⟩
  refine ⟨cost + 1, fun maxNodes depth counter deep enough => ?_⟩
  cases depth with
  | zero => omega
  | succ depth =>
    rcases affords maxNodes depth (counter + 1) (by omega) (by omega) with
      ⟨result, counter', returned, bound⟩
    refine ⟨result, counter', ?_, by omega⟩
    exact (searchWithin_succ maxNodes depth counter signed).trans
      ((if_neg (by omega)).trans returned)

theorem searchable_of_acc (accessible : Acc (fun child parent => Nests parent child) signed) :
    Searchable signed := by
  induction accessible with
  | intro parent _ ih =>
    apply searchable_of_node
    apply searchNode_affordable
    · intro closes rest rule found branch inBranches
      exact ih _ (.propositional closes found inBranches)
    · intro closes saturated A defect
      exact ih _ (.modal closes saturated defect)

theorem searchable {stock : Finset Formula} (closed : Closed stock) (signed : List Signed)
    (named : Named signed) (within : Within stock signed) : Searchable signed :=
  searchable_of_acc (acc_nests closed named within)

end GhostArk.ResearchFrontier.Lobian.GlTableau
