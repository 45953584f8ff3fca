import Mathlib.Data.List.Chain
import Mathlib.Data.List.Nodup

/-!
Contract: append-only chains in which every node names its predecessor.

Owns lists that start at a genesis node and in which every later node follows
the one before it; their extension by one node; and what follows when a node
determines its predecessor: one genesis node, one predecessor for every other
node, no fork, and the last node determines the whole list.

The relations are arbitrary. A hash chain instantiates them with "declares no
predecessor" and "declares the hash of that node".
-/

namespace GhostArk.Lib

universe u

section LinearChain

variable {α : Type u} (genesis : α → Prop) (follows : α → α → Prop)

/-- The nodes start at a genesis node, and each later node follows the one before. -/
def Linked (nodes : List α) : Prop :=
  (∀ first ∈ nodes.head?, genesis first) ∧ nodes.IsChain follows

/-- What a tree of nodes with one genesis, one predecessor each and no fork looks like. -/
structure LinearChain (nodes : List α) : Prop where
  linked : Linked genesis follows nodes
  genesisUnique : nodes ≠ [] → ∃! node, node ∈ nodes ∧ genesis node
  predecessorUnique : ∀ node ∈ nodes, ¬ genesis node →
    ∃! before, before ∈ nodes ∧ follows before node
  noFork : ∀ before ∈ nodes, ∀ left ∈ nodes, ∀ right ∈ nodes,
    follows before left → follows before right → left = right

variable {genesis follows}

theorem linked_nil : Linked genesis follows [] :=
  ⟨by simp, .nil⟩

variable {nodes : List α}

theorem linked_concat_iff {node : α} :
    Linked genesis follows (nodes ++ [node]) ↔
      Linked genesis follows nodes ∧ (nodes = [] → genesis node) ∧
        ∀ last ∈ nodes.getLast?, follows last node := by
  unfold Linked
  rw [List.isChain_append]
  cases nodes with
  | nil => simp
  | cons first rest => simp [and_assoc]

theorem Linked.head {first : α} {rest : List α}
    (linked : Linked genesis follows (first :: rest)) : genesis first :=
  linked.1 first rfl

theorem Linked.follows_getElem (linked : Linked genesis follows nodes) {index : Nat}
    (inside : index + 1 < nodes.length) : follows nodes[index] nodes[index + 1] :=
  List.isChain_iff_getElem.mp linked.2 index inside

theorem Linked.exists_index (linked : Linked genesis follows nodes) {node : α}
    (member : node ∈ nodes) (notGenesis : ¬ genesis node) :
    ∃ index, ∃ inside : index + 1 < nodes.length,
      nodes[index + 1] = node ∧ follows nodes[index] node := by
  obtain ⟨position, inside, isNode⟩ := List.getElem_of_mem member
  cases position with
  | zero =>
    cases nodes with
    | nil => cases member
    | cons first rest => exact absurd (isNode ▸ linked.head) notGenesis
  | succ index => exact ⟨index, inside, isNode, isNode ▸ linked.follows_getElem inside⟩

def DeterminesPrevious (follows : α → α → Prop) (left right : List α) : Prop :=
  ∀ before ∈ left, ∀ other ∈ right, ∀ node, follows before node → follows other node →
    before = other

theorem Linked.eq_of_getLast? {left right : List α}
    (first : ∀ {before node : α}, genesis node → ¬ follows before node)
    (determined : DeterminesPrevious follows left right)
    (leftLinked : Linked genesis follows left) (rightLinked : Linked genesis follows right)
    (sameLast : left.getLast? = right.getLast?) : left = right := by
  induction left using List.reverseRecOn generalizing right with
  | nil =>
    rw [List.getLast?_nil, eq_comm, List.getLast?_eq_none_iff] at sameLast
    exact sameLast.symm
  | append_singleton leftRest leftLast ih =>
    cases right using List.reverseRecOn with
    | nil => simp at sameLast
    | append_singleton rightRest rightLast =>
      rw [List.getLast?_concat, List.getLast?_concat, Option.some.injEq] at sameLast
      subst sameLast
      rw [linked_concat_iff] at leftLinked rightLinked
      obtain ⟨leftLinked, leftFirst, leftFollows⟩ := leftLinked
      obtain ⟨rightLinked, rightFirst, rightFollows⟩ := rightLinked
      have restDetermined : DeterminesPrevious follows leftRest rightRest :=
        fun before isBefore other isOther =>
          determined before (List.mem_append_left _ isBefore) other
            (List.mem_append_left _ isOther)
      have samePrevious : leftRest.getLast? = rightRest.getLast? := by
        cases leftPrevious : leftRest.getLast? with
        | none =>
          have isGenesis := leftFirst (List.getLast?_eq_none_iff.mp leftPrevious)
          cases rightPrevious : rightRest.getLast? with
          | none => rfl
          | some other =>
            exact absurd (rightFollows other rightPrevious) (first isGenesis)
        | some before =>
          have isFollowed := leftFollows before leftPrevious
          cases rightPrevious : rightRest.getLast? with
          | none =>
            have isGenesis := rightFirst (List.getLast?_eq_none_iff.mp rightPrevious)
            exact absurd isFollowed (first isGenesis)
          | some other =>
            apply congrArg some
            exact restDetermined before (List.mem_of_getLast? leftPrevious) other
              (List.mem_of_getLast? rightPrevious) leftLast isFollowed
              (rightFollows other rightPrevious)
      rw [ih restDetermined leftLinked rightLinked samePrevious]

theorem Linked.linearChain (first : ∀ {before node : α}, genesis node → ¬ follows before node)
    (determined : DeterminesPrevious follows nodes nodes) (distinct : nodes.Nodup)
    (linked : Linked genesis follows nodes) : LinearChain genesis follows nodes where
  linked := linked
  genesisUnique := by
    intro nonempty
    cases nodes with
    | nil => contradiction
    | cons start rest =>
      refine ⟨start, ⟨List.mem_cons_self, linked.head⟩, ?_⟩
      rintro node ⟨member, isGenesis⟩
      rcases List.mem_cons.mp member with same | later
      · exact same
      · obtain ⟨position, inside, isNode⟩ := List.getElem_of_mem later
        have next : position + 1 < (start :: rest).length := by simpa using inside
        have followed := linked.follows_getElem next
        rw [List.getElem_cons_succ, isNode] at followed
        exact absurd followed (first isGenesis)
  predecessorUnique := by
    intro node member notGenesis
    obtain ⟨index, inside, -, followed⟩ := linked.exists_index member notGenesis
    have isBefore : nodes[index] ∈ nodes := List.getElem_mem _
    refine ⟨nodes[index], ⟨isBefore, followed⟩, ?_⟩
    rintro other ⟨isOther, otherFollowed⟩
    exact determined other isOther _ isBefore node otherFollowed followed
  noFork := by
    have position : ∀ before ∈ nodes, ∀ node ∈ nodes, follows before node →
        ∃ index, ∃ inside : index + 1 < nodes.length,
          nodes[index] = before ∧ nodes[index + 1] = node := by
      intro before isBefore node member followed
      obtain ⟨index, inside, isNode, indexFollowed⟩ :=
        linked.exists_index member fun isGenesis => first isGenesis followed
      exact ⟨index, inside, determined _ (List.getElem_mem _) before isBefore node
        indexFollowed followed, isNode⟩
    intro before isBefore left isLeft right isRight leftFollowed rightFollowed
    obtain ⟨leftIndex, leftInside, leftBefore, rfl⟩ :=
      position before isBefore left isLeft leftFollowed
    obtain ⟨rightIndex, rightInside, rightBefore, rfl⟩ :=
      position before isBefore right isRight rightFollowed
    have sameIndex : leftIndex = rightIndex := by
      apply (List.Nodup.getElem_inj_iff distinct).mp
      rw [leftBefore, rightBefore]
    simp only [sameIndex]

end LinearChain

end GhostArk.Lib
