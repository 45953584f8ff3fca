import Mathlib.Data.List.Sort
import Mathlib.Order.Defs.LinearOrder

/-!
Contract: sorting, whatever order the items come in.

Owns the agreement of a stable sort on rearranged items that its order tells apart, the sort by a
key in a linear order, its agreement on what the keys tell apart of items that they do not, and
rearranged items without repetition.
-/

namespace GhostArk.Lib

theorem insertionSort_eq_of_perm {α : Type*} {precedes : α → α → Prop} [DecidableRel precedes]
    [Std.Total precedes] [IsTrans α precedes] {left right : List α}
    (separates : ∀ first ∈ left, ∀ second ∈ left, precedes first second → precedes second first →
      first = second)
    (permuted : left.Perm right) : left.insertionSort precedes = right.insertionSort precedes := by
  have fromLeft := List.perm_insertionSort precedes left
  have fromRight := List.perm_insertionSort precedes right
  refine List.Perm.eq_of_pairwise ?_ (List.pairwise_insertionSort precedes left)
    (List.pairwise_insertionSort precedes right) ((fromLeft.trans permuted).trans fromRight.symm)
  intro first second inLeft inRight before after
  have isSecond := permuted.mem_iff.mpr (fromRight.mem_iff.mp inRight)
  exact separates first (fromLeft.mem_iff.mp inLeft) second isSecond before after

section KeyedSort

variable {α β γ : Type*} [LinearOrder β]

/-- The items in the order of their keys; items of one key keep their order. -/
def sortBy (key : α → β) (items : List α) : List α :=
  items.insertionSort fun left right => key left ≤ key right

variable {key : α → β}

theorem sortBy_eq_of_perm {left right : List α}
    (separates : ∀ first ∈ left, ∀ second ∈ left, key first = key second → first = second)
    (permuted : left.Perm right) : sortBy key left = sortBy key right := by
  have total : Std.Total fun left right : α => key left ≤ key right :=
    ⟨fun left right => le_total (key left) (key right)⟩
  have trans : IsTrans α fun left right => key left ≤ key right := ⟨fun _ _ _ => le_trans⟩
  refine insertionSort_eq_of_perm ?_ permuted
  intro first isFirst second isSecond before after
  exact separates first isFirst second isSecond (le_antisymm before after)

theorem map_sortBy {change : α → γ} {changedKey : γ → β}
    (keeps : ∀ item, changedKey (change item) = key item) (items : List α) :
    (sortBy key items).map change = sortBy changedKey (items.map change) := by
  apply List.map_insertionSort
  intro left _ right _
  rw [keeps, keeps]

/-- What the keys tell apart of the items is sorted alike, also where they do not tell the items
apart. -/
theorem map_sortBy_eq_of_perm {change : α → γ} {changedKey : γ → β} {left right : List α}
    (keeps : ∀ item, changedKey (change item) = key item)
    (separates : ∀ first ∈ left, ∀ second ∈ left, key first = key second →
      change first = change second)
    (permuted : (left.map change).Perm (right.map change)) :
    (sortBy key left).map change = (sortBy key right).map change := by
  rw [map_sortBy keeps, map_sortBy keeps]
  refine sortBy_eq_of_perm ?_ permuted
  intro first isFirst second isSecond sameKey
  rcases List.mem_map.mp isFirst with ⟨firstItem, inLeft, rfl⟩
  rcases List.mem_map.mp isSecond with ⟨secondItem, alsoLeft, rfl⟩
  rw [keeps, keeps] at sameKey
  exact separates firstItem inLeft secondItem alsoLeft sameKey

end KeyedSort

section Distinct

variable {α : Type*} [BEq α] [LawfulBEq α]

theorem nodup_eraseDups : ∀ items : List α, items.eraseDups.Nodup
  | [] => List.nodup_nil
  | first :: rest => by
    rw [List.eraseDups_cons, List.nodup_cons, List.mem_eraseDups, List.mem_filter]
    refine ⟨?_, nodup_eraseDups _⟩
    rintro ⟨-, different⟩
    simp at different
termination_by items => items.length
decreasing_by
  exact Nat.lt_succ_of_le (List.length_filter_le _ rest)

theorem perm_eraseDups_of_mem_iff {left right : List α}
    (same : ∀ item, item ∈ left ↔ item ∈ right) : left.eraseDups.Perm right.eraseDups := by
  rw [List.perm_ext_iff_of_nodup (nodup_eraseDups left) (nodup_eraseDups right)]
  intro item
  rw [List.mem_eraseDups, List.mem_eraseDups, same]

theorem perm_eraseDups {left right : List α} (permuted : left.Perm right) :
    left.eraseDups.Perm right.eraseDups :=
  perm_eraseDups_of_mem_iff fun _ => permuted.mem_iff

theorem length_eraseDups_le {left right : List α} (subset : left ⊆ right) :
    left.eraseDups.length ≤ right.eraseDups.length := by
  apply (List.subperm_of_subset (nodup_eraseDups left) ?_).length_le
  intro item member
  exact List.mem_eraseDups.mpr (subset (List.mem_eraseDups.mp member))

end Distinct

end GhostArk.Lib
