import GhostArk.Lib.MerkleTree

/-!
Contract: inclusion paths in left-balanced hash trees.

Owns the path to a leaf (siblings with their sides, bottom up), the climb that
recomputes a digest from a leaf and a path, and two exactness results for
adversarial paths: a climb with the sides of leaf `index` reaches the digest
only along that leaf's own path; and under leaf and node domain separation a
climb with any sides at all reaches the digest only along the path of some leaf.
-/

namespace GhostArk.Lib.MerkleTree

universe u

variable {D : Type u}

namespace HashTree

section Path

variable (node : D → D → D)

/-- Siblings of the leaf at `index`, bottom up. -/
def path : HashTree D → Nat → List (Side × D)
  | leaf _, _ => []
  | fork left right, index =>
    if index < left.size then left.path index ++ [(.right, right.digest node)]
    else right.path (index - left.size) ++ [(.left, left.digest node)]

end Path

/-- Sides of the siblings of the leaf at `index`, bottom up. -/
def sides : HashTree D → Nat → List Side
  | leaf _, _ => []
  | fork left right, index =>
    if index < left.size then left.sides index ++ [.right]
    else right.sides (index - left.size) ++ [.left]

theorem map_fst_path (node : D → D → D) (tree : HashTree D) (index : Nat) :
    (tree.path node index).map Prod.fst = tree.sides index := by
  induction tree generalizing index with
  | leaf value => rfl
  | fork left right leftHypothesis rightHypothesis =>
    simp only [path, sides]
    split <;> simp [leftHypothesis, rightHypothesis]

end HashTree

section Climb

variable (node : D → D → D)

/-- The pair hashed when `current` meets one sibling. -/
def climbPair (current : D) (step : Side × D) : D × D :=
  match step.1 with
  | .left => (step.2, current)
  | .right => (current, step.2)

def climb (start : D) (steps : List (Side × D)) : D :=
  steps.foldl (fun current step => Function.uncurry node (climbPair current step)) start

def climbNodes : D → List (Side × D) → List (D × D)
  | _, [] => []
  | current, step :: rest =>
    climbPair current step ::
      climbNodes (Function.uncurry node (climbPair current step)) rest

@[simp] theorem climb_nil (start : D) : climb node start [] = start := rfl

@[simp] theorem climb_concat (start : D) (steps : List (Side × D)) (last : Side × D) :
    climb node start (steps ++ [last]) =
      Function.uncurry node (climbPair (climb node start steps) last) := by
  simp [climb]

@[simp] theorem climbNodes_concat (start : D) (steps : List (Side × D)) (last : Side × D) :
    climbNodes node start (steps ++ [last]) =
      climbNodes node start steps ++ [climbPair (climb node start steps) last] := by
  induction steps generalizing start with
  | nil => rfl
  | cons step rest ih =>
    simp only [List.cons_append, climbNodes, ih]
    rfl

theorem climbNodes_append (start : D) (before after : List (Side × D)) :
    climbNodes node start (before ++ after) =
      climbNodes node start before ++ climbNodes node (climb node start before) after := by
  induction before generalizing start with
  | nil => rfl
  | cons step rest ih =>
    rw [List.cons_append, climbNodes, climbNodes, ih]
    rfl

theorem climbPair_mem_climbNodes (start : D) (before after : List (Side × D)) (step : Side × D) :
    climbPair (climb node start before) step ∈
      climbNodes node start (before ++ [step] ++ after) := by
  rw [climbNodes_append, climbNodes_concat]
  exact List.mem_append_left _ (List.mem_append_right _ List.mem_cons_self)

end Climb

theorem valid_climbNodes {node : D → D → D} (Valid : D → Prop)
    (closed : ∀ left right, Valid (node left right)) {start : D} (startValid : Valid start)
    {steps : List (Side × D)} (stepsValid : ∀ step ∈ steps, Valid step.2) :
    ∀ pair ∈ climbNodes node start steps, Valid pair.1 ∧ Valid pair.2 := by
  induction steps generalizing start with
  | nil => simp [climbNodes]
  | cons step rest ih =>
    have stepValid := stepsValid step (by simp)
    intro pair member
    rcases List.mem_cons.mp member with rfl | inRest
    · unfold climbPair
      cases step.1 with
      | left => exact ⟨stepValid, startValid⟩
      | right => exact ⟨startValid, stepValid⟩
    · exact ih (closed _ _)
        (fun other otherMember => stepsValid other (by simp [otherMember])) pair inRest

namespace HashTree

variable {node : D → D → D}

theorem valid_path {Valid : D → Prop} (closed : ∀ left right, Valid (node left right))
    (tree : HashTree D) (valid : ∀ value ∈ tree.leaves, Valid value) (index : Nat) :
    ∀ step ∈ tree.path node index, Valid step.2 := by
  induction tree generalizing index with
  | leaf value => simp [path]
  | fork left right leftHypothesis rightHypothesis =>
    obtain ⟨leftValid, rightValid⟩ := valid_children valid
    intro step member
    unfold path at member
    split at member <;> rcases List.mem_append.mp member with inner | last
    · exact leftHypothesis leftValid index step inner
    · obtain rfl := List.mem_singleton.mp last
      exact right.valid_digest closed rightValid
    · exact rightHypothesis rightValid _ step inner
    · obtain rfl := List.mem_singleton.mp last
      exact left.valid_digest closed leftValid

/-- The path of a leaf climbs to the root. -/
theorem climb_path (tree : HashTree D) {index : Nat} {value : D}
    (atIndex : tree.leaves[index]? = some value) :
    climb node value (tree.path node index) = tree.digest node := by
  induction tree generalizing index with
  | leaf digest =>
    cases index with
    | zero => simpa [leaves, path, HashTree.digest] using atIndex.symm
    | succ index => simp [leaves] at atIndex
  | fork left right leftHypothesis rightHypothesis =>
    simp only [leaves, List.getElem?_append, length_leaves] at atIndex
    by_cases inLeft : index < left.size
    · rw [if_pos inLeft] at atIndex
      simp [path, inLeft, leftHypothesis atIndex, climbPair, digest]
    · rw [if_neg inLeft] at atIndex
      simp [path, inLeft, rightHypothesis atIndex, climbPair, digest]

/-- A climb with the sides of leaf `index` that reaches the digest starts at
that leaf and follows its own path. -/
theorem eq_path_of_climb (tree : HashTree D) {index : Nat} (below : index < tree.size)
    {start : D} {steps : List (Side × D)} (sameSides : steps.map Prod.fst = tree.sides index)
    (clean : NoCollision node (tree.nodes node ++ climbNodes node start steps))
    (reaches : climb node start steps = tree.digest node) :
    tree.leaves[index]? = some start ∧ steps = tree.path node index := by
  induction tree generalizing index steps with
  | leaf value =>
    obtain rfl : index = 0 := by
      simp only [size] at below
      omega
    obtain rfl : steps = [] := by simpa [sides] using sameSides
    exact ⟨congrArg some reaches.symm, rfl⟩
  | fork left right leftHypothesis rightHypothesis =>
    -- Peel the sibling under the root: the node pairs on both sides must agree.
    by_cases inLeft : index < left.size
    · simp only [sides, inLeft, if_true] at sameSides
      obtain ⟨inner, last, rfl, innerSides, lastSide⟩ :=
        List.map_eq_append_iff.mp sameSides
      obtain ⟨⟨side, sibling⟩, rfl, rfl⟩ := List.map_eq_singleton_iff.mp lastSide
      rw [climbNodes_concat] at clean
      rw [climb_concat] at reaches
      obtain ⟨innerReaches, siblingEq⟩ := clean.eq (by simp [climbPair])
        (by simp [nodes]) reaches
      obtain ⟨atIndex, innerPath⟩ := leftHypothesis inLeft innerSides
        (clean.mono (by simp [nodes]; grind)) innerReaches
      refine ⟨?_, ?_⟩
      · rw [leaves, List.getElem?_append_left (by simpa using inLeft), atIndex]
      · simp only [path, inLeft, if_true, innerPath]
        rw [show sibling = right.digest node from siblingEq]
    · simp only [sides, inLeft, if_false] at sameSides
      obtain ⟨inner, last, rfl, innerSides, lastSide⟩ :=
        List.map_eq_append_iff.mp sameSides
      obtain ⟨⟨side, sibling⟩, rfl, rfl⟩ := List.map_eq_singleton_iff.mp lastSide
      rw [climbNodes_concat] at clean
      rw [climb_concat] at reaches
      obtain ⟨siblingEq, innerReaches⟩ := clean.eq (by simp [climbPair])
        (by simp [nodes]) reaches
      simp only [size] at below
      obtain ⟨atIndex, innerPath⟩ := rightHypothesis
        (show index - left.size < right.size by omega) innerSides
          (clean.mono (by simp [nodes]; grind)) innerReaches
      refine ⟨?_, ?_⟩
      · rw [leaves, List.getElem?_append_right (by simpa using Nat.le_of_not_lt inLeft),
          length_leaves, atIndex]
      · simp only [path, inLeft, if_false, innerPath]
        rw [show sibling = left.digest node from siblingEq]

/-- A climb from a leaf digest with arbitrary sides that reaches the digest of a
tree over leaf digests follows the path of one of its leaves: stopping above a
leaf or running past one would make a leaf digest a node digest. -/
theorem exists_path_of_climb (tree : HashTree D) {start : D} {steps : List (Side × D)}
    (startIsLeaf : ∀ pair ∈ tree.nodes node, Function.uncurry node pair ≠ start)
    (leavesAreLeaves : ∀ value ∈ tree.leaves, ∀ pair ∈ climbNodes node start steps,
      Function.uncurry node pair ≠ value)
    (clean : NoCollision node (tree.nodes node ++ climbNodes node start steps))
    (reaches : climb node start steps = tree.digest node) :
    ∃ index, tree.leaves[index]? = some start ∧ steps = tree.path node index := by
  induction tree generalizing steps with
  | leaf value =>
    rcases List.eq_nil_or_concat steps with rfl | ⟨inner, last, rfl⟩
    · exact ⟨0, congrArg some reaches.symm, rfl⟩
    · rw [List.concat_eq_append, climb_concat] at reaches
      exact absurd reaches (leavesAreLeaves value (by simp [leaves]) _ (by simp))
  | fork left right leftHypothesis rightHypothesis =>
    rcases List.eq_nil_or_concat steps with rfl | ⟨inner, ⟨side, sibling⟩, rfl⟩
    · exact absurd reaches.symm
        (startIsLeaf (left.digest node, right.digest node) (by simp [nodes]))
    · rw [List.concat_eq_append] at *
      rw [climbNodes_concat] at clean leavesAreLeaves
      rw [climb_concat] at reaches
      cases side with
      | right =>
        obtain ⟨innerReaches, siblingEq⟩ := clean.eq (by simp [climbPair])
          (by simp [nodes]) reaches
        obtain ⟨index, atIndex, innerPath⟩ := leftHypothesis
          (fun pair member => startIsLeaf pair (by simp [nodes, member]))
          (fun value member pair pairMember =>
            leavesAreLeaves value (by simp [leaves, member]) pair (by simp [pairMember]))
          (clean.mono (by simp [nodes]; grind)) innerReaches
        have inLeft : index < left.size := by
          rw [← length_leaves]
          exact (List.getElem?_eq_some_iff.mp atIndex).1
        refine ⟨index, ?_, ?_⟩
        · rw [leaves, List.getElem?_append_left (by simpa using inLeft), atIndex]
        · simp only [path, inLeft, if_true, innerPath]
          rw [show sibling = right.digest node from siblingEq]
      | left =>
        obtain ⟨siblingEq, innerReaches⟩ := clean.eq (by simp [climbPair])
          (by simp [nodes]) reaches
        obtain ⟨index, atIndex, innerPath⟩ := rightHypothesis
          (fun pair member => startIsLeaf pair (by simp [nodes, member]))
          (fun value member pair pairMember =>
            leavesAreLeaves value (by simp [leaves, member]) pair (by simp [pairMember]))
          (clean.mono (by simp [nodes]; grind)) innerReaches
        refine ⟨left.size + index, ?_, ?_⟩
        · rw [leaves, List.getElem?_append_right (by simp), length_leaves,
            Nat.add_sub_cancel_left, atIndex]
        · simp only [path, Nat.not_lt.mpr (Nat.le_add_right _ _), if_false,
            Nat.add_sub_cancel_left, innerPath]
          rw [show sibling = left.digest node from siblingEq]

theorem sides_injective (tree : HashTree D) {first second : Nat} (firstBelow : first < tree.size)
    (secondBelow : second < tree.size) (same : tree.sides first = tree.sides second) :
    first = second := by
  induction tree generalizing first second with
  | leaf value =>
    simp only [size] at firstBelow secondBelow
    omega
  | fork left right leftHypothesis rightHypothesis =>
    simp only [size] at firstBelow secondBelow
    by_cases firstLeft : first < left.size <;> by_cases secondLeft : second < left.size
    · simp only [sides, firstLeft, secondLeft, if_true] at same
      exact leftHypothesis firstLeft secondLeft (List.append_cancel_right same)
    · simp [sides, firstLeft, secondLeft] at same
    · simp [sides, firstLeft, secondLeft] at same
    · simp only [sides, firstLeft, secondLeft, if_false] at same
      have sameRest : first - left.size = second - left.size :=
        rightHypothesis (by omega) (by omega) (List.append_cancel_right same)
      omega

end HashTree

end GhostArk.Lib.MerkleTree
