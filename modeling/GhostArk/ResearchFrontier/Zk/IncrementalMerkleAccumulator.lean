import GhostArk.Js.Sha256Evaluation
import GhostArk.Lib.CompletedLayers

/-!
Contract: the accumulator of `packages/research-frontier/src/zk/IncrementalMerkleAccumulator.ts`.

Owns insertion, the root as it is computed layer by layer, its refinement to
layered hash trees, and which sequences of leaf hashes have one root.

An odd level repeats its last digest, leaves and nodes are hashed alike, and the
root over no leaves is a text that a leaf can be. The tree of `merkle.ts` in this
package separates the two domains and splits without repetition.
-/

namespace GhostArk.ResearchFrontier.Zk

open Js
open Lib.LayeredMerkle

/-- The leaves in the order of their insertion. -/
structure IncrementalMerkleAccumulator where
  leaves : List JsString

namespace IncrementalMerkleAccumulator

def empty : IncrementalMerkleAccumulator := ⟨[]⟩

/-- The index of the leaf, and the accumulator after the call. -/
def insertLeaf (accumulator : IncrementalMerkleAccumulator) (leafHash : JsString) :
    Nat × IncrementalMerkleAccumulator :=
  let leaves := accumulator.leaves ++ [leafHash]
  (leaves.length - 1, ⟨leaves⟩)

def inserted (leafHashes : List JsString) : IncrementalMerkleAccumulator :=
  leafHashes.foldl (fun accumulator leafHash => (accumulator.insertLeaf leafHash).2) empty

/-- What the root over no leaves is. -/
def zeroRoot : JsString := js "0000000000000000000000000000000000000000000000000000000000000000"

section Root

variable (sha256 : Sha256)

def combined (left right : JsString) : JsString := sha256.sha256Hex (left ++ right)

def nextLevel : List JsString → List JsString
  | [] => []
  | [left] => [combined sha256 left left]
  | left :: right :: rest => combined sha256 left right :: nextLevel rest

/-- The outer loop. A pass halves the level, so its length bounds the passes. -/
def lastLevel : Nat → List JsString → List JsString
  | 0, level => level
  | fuel + 1, level =>
    if 1 < level.length then lastLevel fuel (nextLevel sha256 level) else level

def getRoot (accumulator : IncrementalMerkleAccumulator) : JsString :=
  if accumulator.leaves.length = 0 then zeroRoot
  else (lastLevel sha256 accumulator.leaves.length accumulator.leaves).headD []

end Root

theorem leaves_foldl_insertLeaf (accumulator : IncrementalMerkleAccumulator)
    (leafHashes : List JsString) :
    (leafHashes.foldl (fun accumulator leafHash => (accumulator.insertLeaf leafHash).2)
      accumulator).leaves = accumulator.leaves ++ leafHashes := by
  induction leafHashes generalizing accumulator with
  | nil => exact (List.append_nil _).symm
  | cons leafHash rest ih =>
    rw [List.foldl_cons, ih, insertLeaf, List.append_assoc]
    rfl

theorem leaves_inserted (leafHashes : List JsString) :
    (inserted leafHashes).leaves = leafHashes := by
  rw [inserted, leaves_foldl_insertLeaf, empty, List.nil_append]

/-- The digests that a root is taken over: no leaves count as one leaf of zeros. -/
def committed (leafHashes : List JsString) : List JsString :=
  if leafHashes = [] then [zeroRoot] else leafHashes

section Refinement

variable (sha256 : Sha256)

theorem nextLevel_eq : ∀ level : List JsString,
    nextLevel sha256 level = nextLayer (combined sha256) level
  | [] => rfl
  | [_] => rfl
  | _ :: _ :: rest => by
    rw [nextLevel, nextLevel_eq rest]
    rfl

theorem lastLevel_eq (fuel : Nat) (level : List JsString) :
    lastLevel sha256 fuel level = topLayer (combined sha256) fuel level := by
  induction fuel generalizing level with
  | zero => rfl
  | succ fuel ih =>
    rw [lastLevel, topLayer, ih, nextLevel_eq]

theorem topLayer_committed (leafHashes : List JsString) :
    topLayer (combined sha256) (committed leafHashes).length (committed leafHashes) =
      [(inserted leafHashes).getRoot sha256] := by
  rw [getRoot, leaves_inserted, committed]
  split
  next isEmpty =>
    subst isEmpty
    rfl
  next nonempty =>
    have some := mt List.length_eq_zero_iff.mp nonempty
    rcases exists_topLayer (combined sha256) nonempty (Nat.le_succ _) with ⟨top, isTop⟩
    rw [if_neg some, lastLevel_eq, isTop, List.headD_cons]

theorem getRoot_eq_iff_topLayer (first second : List JsString) :
    (inserted first).getRoot sha256 = (inserted second).getRoot sha256 ↔
      topLayer (combined sha256) (committed first).length (committed first) =
        topLayer (combined sha256) (committed second).length (committed second) := by
  rw [topLayer_committed, topLayer_committed, List.cons.injEq, and_iff_left rfl]

theorem getRoot_repeated_last {before : List JsString} (last : JsString) (nonempty : before ≠ [])
    (even : before.length % 2 = 0) :
    (inserted (before ++ [last, last])).getRoot sha256 =
      (inserted (before ++ [last])).getRoot sha256 := by
  rw [getRoot_eq_iff_topLayer, committed, if_neg (by simp), committed, if_neg (by simp)]
  exact topLayer_eq_of_completed_eq (Nat.le_succ _) (Nat.le_succ _)
    (completed_repeated_last last nonempty even)

/-! ### Collisions -/

def hashedTexts (leafHashes : List JsString) : List JsString :=
  (hashedPairs (combined sha256) (committed leafHashes).length (committed leafHashes)).map
    fun pair => pair.1 ++ pair.2

def isLeafHash (leafHash : JsString) : Bool :=
  leafHash.length == 64 && leafHash.all fun digit => (hexValue digit).isSome

theorem length_of_isLeafHash {leafHash : JsString} (isLeaf : isLeafHash leafHash = true) :
    leafHash.length = 64 := by
  rw [isLeafHash, Bool.and_eq_true, beq_iff_eq] at isLeaf
  exact isLeaf.1

theorem length_combined (left right : JsString) : (combined sha256 left right).length = 64 := by
  have shape := sha256.isHex64_sha256Hex (left ++ right)
  rw [isHex64, Bool.and_eq_true, beq_iff_eq] at shape
  exact shape.1

theorem length_of_mem_committed {leafHashes : List JsString}
    (areLeaves : ∀ leafHash ∈ leafHashes, isLeafHash leafHash = true) :
    ∀ digest ∈ committed leafHashes, digest.length = 64 := by
  intro digest member
  rw [committed] at member
  split at member
  next =>
    rw [List.mem_singleton.mp member]
    decide
  next => exact length_of_isLeafHash (areLeaves digest member)

variable {sha256}

theorem collisionFree_pairs {first second : List JsString}
    (firstLeaves : ∀ leafHash ∈ first, isLeafHash leafHash = true)
    (secondLeaves : ∀ leafHash ∈ second, isLeafHash leafHash = true)
    (clean : sha256.CollisionFreeOn (hashedTexts sha256 first ++ hashedTexts sha256 second)) :
    ∀ pair ∈ hashedPairs (combined sha256) (committed first).length (committed first),
      ∀ other ∈ hashedPairs (combined sha256) (committed second).length (committed second),
        Function.uncurry (combined sha256) pair = Function.uncurry (combined sha256) other →
          pair = other := by
  intro pair member other isOther sameDigest
  have sameText : pair.1 ++ pair.2 = other.1 ++ other.2 :=
    clean _ (List.mem_append_left _ (List.mem_map_of_mem member)) _
      (List.mem_append_right _ (List.mem_map_of_mem isOther)) sameDigest
  have width := valid_hashedPairs (combined sha256) (fun digest => digest.length = 64)
    (length_combined sha256) (length_of_mem_committed firstLeaves) pair member
  have otherWidth := valid_hashedPairs (combined sha256) (fun digest => digest.length = 64)
    (length_combined sha256) (length_of_mem_committed secondLeaves) other isOther
  have halves := List.append_inj sameText (width.1.trans otherWidth.1.symm)
  exact Prod.ext halves.1 halves.2

/-- **Collisions of roots.** Two sequences have one root exactly when one of them is, with its
repetitions written out, a level over the other. -/
theorem getRoot_eq_iff {first second : List JsString}
    (firstLeaves : ∀ leafHash ∈ first, isLeafHash leafHash = true)
    (secondLeaves : ∀ leafHash ∈ second, isLeafHash leafHash = true)
    (clean : sha256.CollisionFreeOn (hashedTexts sha256 first ++ hashedTexts sha256 second)) :
    (inserted first).getRoot sha256 = (inserted second).getRoot sha256 ↔
      Covers (combined sha256) (committed first) (committed second) ∨
        Covers (combined sha256) (committed second) (committed first) := by
  rw [getRoot_eq_iff_topLayer]
  exact topLayer_eq_iff (Nat.le_succ _) (Nat.le_succ _)
    (collisionFree_pairs firstLeaves secondLeaves clean)

theorem eq_of_getRoot_eq {first second : List JsString}
    (firstLeaves : ∀ leafHash ∈ first, isLeafHash leafHash = true)
    (secondLeaves : ∀ leafHash ∈ second, isLeafHash leafHash = true)
    (clean : sha256.CollisionFreeOn (hashedTexts sha256 first ++ hashedTexts sha256 second))
    (sameLength : first.length = second.length)
    (sameRoot : (inserted first).getRoot sha256 = (inserted second).getRoot sha256) :
    first = second := by
  by_cases isEmpty : first = []
  · rw [isEmpty, List.length_nil] at sameLength
    rw [isEmpty, List.length_eq_zero_iff.mp sameLength.symm]
  · have otherNonempty : second ≠ [] := by
      rw [ne_eq, ← List.length_eq_zero_iff, ← sameLength, List.length_eq_zero_iff]
      exact isEmpty
    have covers := (getRoot_eq_iff firstLeaves secondLeaves clean).mp sameRoot
    rw [committed, if_neg isEmpty, committed, if_neg otherNonempty] at covers
    rcases covers with covers | covers
    · exact covers.eq_of_length sameLength
    · exact (covers.eq_of_length sameLength.symm).symm

/-- **The root commits to the leaves** unless one of two different sequences covers the other. -/
theorem commits_iff {first second : List JsString}
    (firstLeaves : ∀ leafHash ∈ first, isLeafHash leafHash = true)
    (secondLeaves : ∀ leafHash ∈ second, isLeafHash leafHash = true)
    (clean : sha256.CollisionFreeOn (hashedTexts sha256 first ++ hashedTexts sha256 second)) :
    ((inserted first).getRoot sha256 = (inserted second).getRoot sha256 → first = second) ↔
      (first ≠ second → ¬ Covers (combined sha256) (committed first) (committed second) ∧
        ¬ Covers (combined sha256) (committed second) (committed first)) := by
  rw [getRoot_eq_iff firstLeaves secondLeaves clean, ← not_or]
  exact not_imp_not.symm

namespace Sample

def leaf (digit : String) : JsString := (List.replicate 64 (js digit)).flatten

def three : List JsString := [leaf "a", leaf "b", leaf "c"]

/-- The same leaves with the repetition written out. -/
def four : List JsString := [leaf "a", leaf "b", leaf "c", leaf "c"]

theorem isLeafHash_three : ∀ leafHash ∈ three, isLeafHash leafHash = true := by decide +kernel

theorem isLeafHash_four : ∀ leafHash ∈ four, isLeafHash leafHash = true := by decide +kernel

theorem hashedTexts_four : hashedTexts fips180 four = hashedTexts fips180 three := rfl

theorem clean : fips180.CollisionFreeOn (hashedTexts fips180 three ++ hashedTexts fips180 four) := by
  refine Sha256.CollisionFreeOn.of_nodup (hashedTexts fips180 three) ?_ ?_
  · rw [fips180_eq_window]
    decide +kernel
  · rw [hashedTexts_four]
    exact List.append_subset.mpr ⟨List.Subset.refl _, List.Subset.refl _⟩

end Sample

theorem repeated_leaf_shares_root :
    (∀ leafHash ∈ Sample.three, isLeafHash leafHash = true) ∧
      (∀ leafHash ∈ Sample.four, isLeafHash leafHash = true) ∧
      fips180.CollisionFreeOn
        (hashedTexts fips180 Sample.three ++ hashedTexts fips180 Sample.four) ∧
      (inserted Sample.three).getRoot fips180 = (inserted Sample.four).getRoot fips180 ∧
      Sample.three ≠ Sample.four := by
  refine ⟨Sample.isLeafHash_three, Sample.isLeafHash_four, Sample.clean, ?_, by decide +kernel⟩
  have nonempty : [Sample.leaf "a", Sample.leaf "b"] ≠ [] := List.cons_ne_nil _ _
  exact (getRoot_repeated_last fips180 (Sample.leaf "c") nonempty rfl).symm

theorem swapped_leaves_committed :
    (inserted [Sample.leaf "a", Sample.leaf "b"]).getRoot fips180 ≠
      (inserted [Sample.leaf "b", Sample.leaf "a"]).getRoot fips180 := by
  have distinct : [Sample.leaf "a", Sample.leaf "b"] ≠ [Sample.leaf "b", Sample.leaf "a"] := by
    decide +kernel
  refine mt ((commits_iff (by decide +kernel) (by decide +kernel) ?_).mpr ?_) distinct
  · refine Sha256.CollisionFreeOn.of_nodup [Sample.leaf "a" ++ Sample.leaf "b",
      Sample.leaf "b" ++ Sample.leaf "a"] ?_ (List.Subset.refl _)
    rw [fips180_eq_window]
    decide +kernel
  · intro different
    exact ⟨fun covers => different (covers.eq_of_length rfl),
      fun covers => different (covers.eq_of_length rfl).symm⟩

end Refinement

end IncrementalMerkleAccumulator

end GhostArk.ResearchFrontier.Zk
