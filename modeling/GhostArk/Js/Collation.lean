import Mathlib.Data.List.Lex
import GhostArk.Js.Text
import GhostArk.Lib.KeyedSort

/-!
Contract: `String.prototype.localeCompare` and sorting by it.

Owns the order of strings in the host's locale as a total preorder, the stable
sort by one text of each value, and the uniqueness of its result where the order
tells the texts apart.

The general results take any `Collation`; the order by code units, which locales
agree with on digits and lower case letters, lets concrete inputs be evaluated.
-/

namespace GhostArk.Js

structure Collation where
  /-- `left.localeCompare(right) <= 0`. -/
  le : JsString → JsString → Bool
  total : ∀ left right, le left right = true ∨ le right left = true
  trans : ∀ first second third, le first second = true → le second third = true →
    le first third = true

namespace Collation

variable (collation : Collation)

/-- No two of the texts compare as equal. -/
def Separates (texts : JsString → Prop) : Prop :=
  ∀ left right, texts left → texts right → collation.le left right = true →
    collation.le right left = true → left = right

section Sorting

variable {V : Type} (text : V → JsString)

def Precedes (left right : V) : Prop := collation.le (text left) (text right) = true

instance instDecidableRelPrecedes : DecidableRel (collation.Precedes text) :=
  fun left right => inferInstanceAs (Decidable (collation.le (text left) (text right) = true))

instance instTotalPrecedes : Std.Total (collation.Precedes text) :=
  ⟨fun left right => collation.total (text left) (text right)⟩

instance instIsTransPrecedes : IsTrans V (collation.Precedes text) :=
  ⟨fun first second third => collation.trans (text first) (text second) (text third)⟩

/-- `values.sort((left, right) => text(left).localeCompare(text(right)))`. -/
def sortBy (values : List V) : List V := values.insertionSort (collation.Precedes text)

theorem perm_sortBy (values : List V) : (collation.sortBy text values).Perm values :=
  List.perm_insertionSort _ values

theorem mem_sortBy {values : List V} {value : V} :
    value ∈ collation.sortBy text values ↔ value ∈ values :=
  (collation.perm_sortBy text values).mem_iff

theorem sortBy_eq_of_perm {texts : JsString → Prop} (separates : collation.Separates texts)
    {left right : List V} (within : ∀ value ∈ left, texts (text value))
    (distinct : (left.map text).Nodup) (permuted : left.Perm right) :
    collation.sortBy text left = collation.sortBy text right := by
  refine Lib.insertionSort_eq_of_perm ?_ permuted
  intro first isFirst second isSecond before after
  have sameText := separates _ _ (within first isFirst) (within second isSecond) before after
  exact List.inj_on_of_nodup_map distinct isFirst isSecond sameText

end Sorting

end Collation

def codeUnitOrder : Collation where
  le left right := decide (left ≤ right)
  total left right := by
    rw [decide_eq_true_eq, decide_eq_true_eq]
    exact le_total left right
  trans first second third before after := by
    rw [decide_eq_true_eq] at before after ⊢
    exact le_trans before after

theorem codeUnitOrder_separates (texts : JsString → Prop) : codeUnitOrder.Separates texts := by
  intro left right _ _ before after
  exact le_antisymm (of_decide_eq_true before) (of_decide_eq_true after)

end GhostArk.Js
