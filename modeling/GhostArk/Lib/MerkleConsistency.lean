import GhostArk.Lib.MerkleTree

/-!
Contract: consistency proofs between a left-balanced hash tree and the tree
over a prefix of its leaves.

Owns truncation to the first `count` leaves, the proof that a prover emits, the
reconstruction of both roots from a proof, and their exactness: reconstruction
returns the new root only on the emitted proof, and the old root it then
returns is the digest of the truncated tree.

The `trusted` flag says that the old root is itself the root of the subtree in
hand, so that the proof does not repeat it.
-/

namespace GhostArk.Lib.MerkleTree

universe u

variable {D : Type u}

namespace HashTree

/-! ### Truncation -/

/-- The tree over the first `count` leaves, for `0 < count ≤ size`. -/
def truncate : HashTree D → Nat → HashTree D
  | leaf value, _ => leaf value
  | fork left right, count =>
    if count ≤ left.size then left.truncate count
    else fork left (right.truncate (count - left.size))

variable {count : Nat}

theorem leaves_truncate (tree : HashTree D) (positive : 0 < count) (within : count ≤ tree.size) :
    (tree.truncate count).leaves = tree.leaves.take count := by
  induction tree generalizing count with
  | leaf value =>
    obtain rfl : count = 1 := by
      simp only [size] at within
      omega
    rfl
  | fork left right leftHypothesis rightHypothesis =>
    simp only [size] at within
    by_cases inLeft : count ≤ left.size
    · simp only [truncate, inLeft, if_true, leaves]
      rw [leftHypothesis positive inLeft, List.take_append_of_le_length (by simpa using inLeft)]
    · simp only [truncate, inLeft, if_false, leaves]
      have wholeLeft : left.leaves.take count = left.leaves :=
        List.take_of_length_le (by
          rw [length_leaves]
          omega)
      rw [rightHypothesis (by omega) (by omega), List.take_append, length_leaves, wholeLeft]

theorem size_truncate (tree : HashTree D) (positive : 0 < count) (within : count ≤ tree.size) :
    (tree.truncate count).size = count := by
  rw [← length_leaves, leaves_truncate tree positive within, List.length_take, length_leaves,
    Nat.min_eq_left within]

theorem truncate_size (tree : HashTree D) : tree.truncate tree.size = tree := by
  induction tree with
  | leaf value => rfl
  | fork left right leftHypothesis rightHypothesis =>
    have rightPos := right.size_pos
    simp only [truncate, size, Nat.add_sub_cancel_left, rightHypothesis]
    rw [if_neg (by omega)]

theorem Balanced.truncate {tree : HashTree D} (balanced : tree.Balanced) (positive : 0 < count)
    (within : count ≤ tree.size) : (tree.truncate count).Balanced := by
  induction tree generalizing count with
  | leaf value => exact trivial
  | fork left right leftHypothesis rightHypothesis =>
    obtain ⟨leftBalanced, rightBalanced, leftSize⟩ := balanced
    simp only [size] at within
    by_cases inLeft : count ≤ left.size
    · simp only [HashTree.truncate, inLeft, if_true]
      exact leftHypothesis leftBalanced positive inLeft
    · simp only [HashTree.truncate, inLeft, if_false]
      have rightSize := size_truncate right (show 0 < count - left.size by omega) (by omega)
      refine ⟨leftBalanced, rightHypothesis rightBalanced (by omega) (by omega), ?_⟩
      rw [rightSize, Nat.add_sub_cancel' (by omega)]
      have leftPos := left.size_pos
      have rightPos := right.size_pos
      calc left.size = split (left.size + right.size) := leftSize
        _ = split count := (split_eq_split (by omega) (by omega) (by omega)).symm

section Proof

variable (node : D → D → D)

/-- The consistency proof for the first `count` leaves, bottom up. -/
def consistencyPath : HashTree D → Nat → Bool → List D
  | leaf value, _, trusted => if trusted then [] else [value]
  | fork left right, count, trusted =>
    if count = left.size + right.size then
      if trusted then [] else [(fork left right).digest node]
    else if count ≤ left.size then
      left.consistencyPath count trusted ++ [right.digest node]
    else right.consistencyPath (count - left.size) false ++ [left.digest node]

/-- Roots of a subtree that lies wholly in the old tree: the trusted old root,
or the next digest of the proof. -/
def sharedRoot (trusted : Bool) (old : D) (proof : List D) : Option (D × D × List D) :=
  if trusted then some (old, old, proof)
  else
    match proof with
    | [] => none
    | shared :: rest => some (shared, shared, rest)

/-- Old root, new root and unread rest of a proof. Only the shape of the tree
is read. -/
def reconstruct : HashTree D → Nat → Bool → D → List D → Option (D × D × List D)
  | leaf _, _, trusted, old, proof => sharedRoot trusted old proof
  | fork left right, count, trusted, old, proof =>
    if count = left.size + right.size then sharedRoot trusted old proof
    else if count ≤ left.size then
      match left.reconstruct count trusted old proof with
      | some (oldRoot, newRoot, sibling :: rest) =>
        some (oldRoot, node newRoot sibling, rest)
      | _ => none
    else
      match right.reconstruct (count - left.size) false old proof with
      | some (oldRoot, newRoot, sibling :: rest) =>
        some (node sibling oldRoot, node sibling newRoot, rest)
      | _ => none

def reconstructNodes : HashTree D → Nat → Bool → D → List D → List (D × D)
  | leaf _, _, _, _, _ => []
  | fork left right, count, trusted, old, proof =>
    if count = left.size + right.size then []
    else if count ≤ left.size then
      left.reconstructNodes count trusted old proof ++
        match left.reconstruct node count trusted old proof with
        | some (_, newRoot, sibling :: _) => [(newRoot, sibling)]
        | _ => []
    else
      right.reconstructNodes (count - left.size) false old proof ++
        match right.reconstruct node (count - left.size) false old proof with
        | some (oldRoot, newRoot, sibling :: _) => [(sibling, oldRoot), (sibling, newRoot)]
        | _ => []

end Proof

variable {node : D → D → D}

theorem reconstruct_size (tree : HashTree D) (trusted : Bool) (old : D) (proof : List D) :
    tree.reconstruct node tree.size trusted old proof = sharedRoot trusted old proof := by
  cases tree with
  | leaf value => rfl
  | fork left right => simp [reconstruct, size]

/-- The path of a tree reconstructs its root and the old one. -/
theorem reconstruct_consistencyPath (tree : HashTree D) (positive : 0 < count)
    (within : count ≤ tree.size) (trusted : Bool) (old : D) (rest : List D)
    (oldRoot : trusted = true → old = (tree.truncate count).digest node) :
    tree.reconstruct node count trusted old (tree.consistencyPath node count trusted ++ rest) =
      some ((tree.truncate count).digest node, tree.digest node, rest) := by
  induction tree generalizing count trusted rest with
  | leaf value =>
    cases trusted with
    | false => rfl
    | true =>
      obtain rfl := oldRoot rfl
      rfl
  | fork left right leftHypothesis rightHypothesis =>
    simp only [size] at within
    by_cases whole : count = left.size + right.size
    · subst whole
      have truncated := truncate_size (fork left right)
      rw [size] at truncated
      rw [truncated] at oldRoot ⊢
      cases trusted with
      | false => simp [reconstruct, consistencyPath, sharedRoot]
      | true => simp [reconstruct, consistencyPath, sharedRoot, oldRoot rfl]
    · by_cases inLeft : count ≤ left.size
      · simp only [truncate, inLeft, if_true] at oldRoot
        simp only [reconstruct, consistencyPath, whole, inLeft, if_true, if_false,
          List.append_assoc, List.singleton_append, truncate]
        rw [leftHypothesis positive inLeft trusted (right.digest node :: rest) oldRoot]
        rfl
      · simp only [reconstruct, consistencyPath, whole, inLeft, if_false,
          List.append_assoc, List.singleton_append, truncate]
        rw [rightHypothesis (by omega) (by omega) false (left.digest node :: rest)
          (fun untrusted => absurd untrusted Bool.false_ne_true)]
        rfl

theorem reconstruct_congr {tree other : HashTree D} (balanced : tree.Balanced)
    (otherBalanced : other.Balanced) (sameSize : tree.size = other.size) (count : Nat)
    (trusted : Bool) (old : D) (proof : List D) :
    tree.reconstruct node count trusted old proof =
        other.reconstruct node count trusted old proof ∧
      tree.reconstructNodes node count trusted old proof =
        other.reconstructNodes node count trusted old proof := by
  induction tree generalizing other count trusted with
  | leaf value =>
    cases other with
    | leaf other => exact ⟨rfl, rfl⟩
    | fork first second =>
      have firstPos := first.size_pos
      have secondPos := second.size_pos
      simp only [size] at sameSize
      omega
  | fork left right leftHypothesis rightHypothesis =>
    cases other with
    | leaf other =>
      have leftPos := left.size_pos
      have rightPos := right.size_pos
      simp only [size] at sameSize
      omega
    | fork first second =>
      obtain ⟨leftBalanced, rightBalanced, leftSize⟩ := balanced
      obtain ⟨firstBalanced, secondBalanced, firstSize⟩ := otherBalanced
      simp only [size] at sameSize
      have sameLeft : left.size = first.size := by rw [leftSize, firstSize, sameSize]
      have sameRight : right.size = second.size := by omega
      obtain ⟨leftRoots, leftNodes⟩ :=
        leftHypothesis leftBalanced firstBalanced sameLeft count trusted
      obtain ⟨rightRoots, rightNodes⟩ :=
        rightHypothesis rightBalanced secondBalanced sameRight (count - left.size) false
      simp only [reconstruct, reconstructNodes]
      rw [leftRoots, leftNodes, rightRoots, rightNodes, sameLeft, sameRight]
      exact ⟨rfl, rfl⟩

private theorem sharedRoot_eq_some {trusted : Bool} {old oldRoot newRoot : D}
    {proof rest : List D}
    (found : sharedRoot trusted old proof = some (oldRoot, newRoot, rest)) :
    oldRoot = newRoot ∧ proof = (if trusted then [] else [newRoot]) ++ rest := by
  cases trusted with
  | true =>
    simp only [sharedRoot, if_true, Option.some.injEq, Prod.mk.injEq] at found
    obtain ⟨rfl, rfl, rfl⟩ := found
    exact ⟨rfl, rfl⟩
  | false =>
    cases proof with
    | nil => simp [sharedRoot] at found
    | cons shared tail =>
      simp only [sharedRoot, Bool.false_eq_true, if_false, Option.some.injEq,
        Prod.mk.injEq] at found
      obtain ⟨rfl, rfl, rfl⟩ := found
      exact ⟨rfl, rfl⟩

variable {Valid : D → Prop}

private theorem valid_sharedRoot {trusted : Bool} {old : D} (oldValid : Valid old) {proof : List D}
    (proofValid : ∀ value ∈ proof, Valid value) {oldRoot newRoot : D} {rest : List D}
    (found : sharedRoot trusted old proof = some (oldRoot, newRoot, rest)) :
    Valid oldRoot ∧ Valid newRoot ∧ ∀ value ∈ rest, Valid value := by
  unfold sharedRoot at found
  split at found
  · simp only [Option.some.injEq, Prod.mk.injEq] at found
    obtain ⟨rfl, rfl, rfl⟩ := found
    exact ⟨oldValid, oldValid, proofValid⟩
  · split at found
    · contradiction
    · simp only [Option.some.injEq, Prod.mk.injEq] at found
      obtain ⟨rfl, rfl, rfl⟩ := found
      exact ⟨proofValid _ (by simp), proofValid _ (by simp),
        fun value member => proofValid value (by simp [member])⟩

theorem valid_reconstruct (closed : ∀ left right, Valid (node left right)) (tree : HashTree D)
    (count : Nat) (trusted : Bool) {old : D} (oldValid : Valid old) {proof : List D}
    (proofValid : ∀ value ∈ proof, Valid value) :
    (∀ oldRoot newRoot rest,
      tree.reconstruct node count trusted old proof = some (oldRoot, newRoot, rest) →
        Valid oldRoot ∧ Valid newRoot ∧ ∀ value ∈ rest, Valid value) ∧
      ∀ pair ∈ tree.reconstructNodes node count trusted old proof,
        Valid pair.1 ∧ Valid pair.2 := by
  induction tree generalizing count trusted with
  | leaf value =>
    exact ⟨fun _ _ _ => valid_sharedRoot oldValid proofValid, by simp [reconstructNodes]⟩
  | fork left right leftHypothesis rightHypothesis =>
    unfold reconstruct reconstructNodes
    by_cases whole : count = left.size + right.size
    · simp only [whole, if_true]
      exact ⟨fun _ _ _ => valid_sharedRoot oldValid proofValid, by simp⟩
    · by_cases inLeft : count ≤ left.size
      · obtain ⟨roots, pairs⟩ := leftHypothesis count trusted
        simp only [whole, inLeft, if_true, if_false]
        split
        next oldRoot newRoot sibling rest inner =>
          obtain ⟨innerOld, innerNew, innerRest⟩ := roots _ _ _ inner
          have siblingValid := innerRest sibling (by simp)
          refine ⟨?_, ?_⟩
          · rintro _ _ _ ⟨⟩
            exact ⟨innerOld, closed _ _, fun value member => innerRest value (by simp [member])⟩
          · intro pair member
            rcases List.mem_append.mp member with earlier | last
            · exact pairs pair earlier
            · obtain rfl := List.mem_singleton.mp last
              exact ⟨innerNew, siblingValid⟩
        next => exact ⟨by simp, by simpa using pairs⟩
      · obtain ⟨roots, pairs⟩ := rightHypothesis (count - left.size) false
        simp only [whole, inLeft, if_false]
        split
        next oldRoot newRoot sibling rest inner =>
          obtain ⟨innerOld, innerNew, innerRest⟩ := roots _ _ _ inner
          have siblingValid := innerRest sibling (by simp)
          refine ⟨?_, ?_⟩
          · rintro _ _ _ ⟨⟩
            exact ⟨closed _ _, closed _ _,
              fun value member => innerRest value (by simp [member])⟩
          · intro pair member
            rcases List.mem_append.mp member with earlier | last
            · exact pairs pair earlier
            · simp only [List.mem_cons, List.not_mem_nil, or_false] at last
              rcases last with rfl | rfl
              · exact ⟨siblingValid, innerOld⟩
              · exact ⟨siblingValid, innerNew⟩
        next => exact ⟨by simp, by simpa using pairs⟩

theorem valid_consistencyPath (closed : ∀ left right, Valid (node left right)) (tree : HashTree D)
    (valid : ∀ value ∈ tree.leaves, Valid value) (count : Nat) (trusted : Bool) :
    ∀ value ∈ tree.consistencyPath node count trusted, Valid value := by
  induction tree generalizing count trusted with
  | leaf digest =>
    have digestValid : Valid digest := valid digest (by simp [leaves])
    cases trusted <;> simp [consistencyPath, digestValid]
  | fork left right leftHypothesis rightHypothesis =>
    obtain ⟨leftValid, rightValid⟩ := valid_children valid
    have wholeValid := (fork left right).valid_digest closed valid
    intro value member
    unfold consistencyPath at member
    split at member
    · cases trusted with
      | true => simp at member
      | false =>
        obtain rfl := List.mem_singleton.mp member
        exact wholeValid
    · split at member <;> rcases List.mem_append.mp member with inner | last
      · exact leftHypothesis leftValid count trusted value inner
      · obtain rfl := List.mem_singleton.mp last
        exact right.valid_digest closed rightValid
      · exact rightHypothesis rightValid _ false value inner
      · obtain rfl := List.mem_singleton.mp last
        exact left.valid_digest closed leftValid

/-- A reconstruction that returns the new root has read exactly the emitted
proof, and its old root is the digest of the truncated tree. -/
theorem eq_consistencyPath_of_reconstruct (tree : HashTree D) (positive : 0 < count)
    (within : count ≤ tree.size) {trusted : Bool} {old oldRoot newRoot : D} {proof rest : List D}
    (clean : NoCollision node
      (tree.nodes node ++ tree.reconstructNodes node count trusted old proof))
    (found : tree.reconstruct node count trusted old proof = some (oldRoot, newRoot, rest))
    (reaches : newRoot = tree.digest node) :
    proof = tree.consistencyPath node count trusted ++ rest ∧
      oldRoot = (tree.truncate count).digest node := by
  induction tree generalizing count trusted oldRoot newRoot proof rest with
  | leaf value =>
    obtain ⟨sameRoot, proofEq⟩ := sharedRoot_eq_some found
    subst reaches
    exact ⟨proofEq, sameRoot⟩
  | fork left right leftHypothesis rightHypothesis =>
    simp only [size] at within
    by_cases whole : count = left.size + right.size
    · simp only [reconstruct, whole, if_true] at found
      obtain ⟨sameRoot, proofEq⟩ := sharedRoot_eq_some found
      subst reaches
      have truncated := truncate_size (fork left right)
      rw [size] at truncated
      rw [whole, truncated]
      exact ⟨by simpa [consistencyPath] using proofEq, sameRoot⟩
    · by_cases inLeft : count ≤ left.size
      · simp only [reconstruct, whole, inLeft, if_true, if_false] at found
        simp only [reconstructNodes, whole, inLeft, if_true, if_false] at clean
        split at found
        next innerOld innerNew sibling innerRest inner =>
          simp only [Option.some.injEq, Prod.mk.injEq] at found
          obtain ⟨rfl, rfl, rfl⟩ := found
          rw [inner] at clean
          obtain ⟨innerReaches, siblingEq⟩ := clean.eq (by simp) (by simp [nodes]) reaches
          obtain ⟨proofEq, oldEq⟩ := leftHypothesis positive inLeft
            (clean.mono (by simp [nodes]; grind)) inner innerReaches
          subst siblingEq
          simp only [consistencyPath, whole, inLeft, if_true, if_false, truncate,
            List.append_assoc, List.singleton_append]
          exact ⟨proofEq, oldEq⟩
        next => contradiction
      · simp only [reconstruct, whole, inLeft, if_false] at found
        simp only [reconstructNodes, whole, inLeft, if_false] at clean
        split at found
        next innerOld innerNew sibling innerRest inner =>
          simp only [Option.some.injEq, Prod.mk.injEq] at found
          obtain ⟨rfl, rfl, rfl⟩ := found
          rw [inner] at clean
          obtain ⟨siblingEq, innerReaches⟩ := clean.eq (by simp) (by simp [nodes]) reaches
          obtain ⟨proofEq, oldEq⟩ := rightHypothesis
            (show 0 < count - left.size by omega) (by omega) (clean.mono (by simp [nodes]; grind))
              inner innerReaches
          subst siblingEq
          simp only [consistencyPath, whole, inLeft, if_false, truncate,
            List.append_assoc, List.singleton_append]
          exact ⟨proofEq, by rw [oldEq]; rfl⟩
        next => contradiction

end HashTree

end GhostArk.Lib.MerkleTree
