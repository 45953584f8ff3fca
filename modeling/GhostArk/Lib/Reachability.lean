import Mathlib.Data.List.Nodup
import Mathlib.Data.List.Perm.Subperm
import Mathlib.Logic.Relation

/-!
Contract: searches of a directed graph that is given by its successor lists.

Owns the walk with a stack and a set of seen nodes, which may leave nodes unexpanded; the
depth-first search that stops at a node it is visiting; and what they compute: the nodes on the ways
out of the start through expanded nodes, and whether there is a cycle.

Both are bounded by fuel. With more fuel than the graph has nodes they come to their end.
-/

namespace GhostArk.Lib

universe u

variable {α : Type u}

section Discover

variable [DecidableEq α]

/-- New nodes among the successors, the last on top of the stack. -/
def discover : List α → List α → List α → List α × List α
  | [], stack, seen => (stack, seen)
  | next :: rest, stack, seen =>
    if next ∈ seen then discover rest stack seen
    else discover rest (next :: stack) (seen ++ [next])

variable {successors stack seen : List α} {node : α}

theorem mem_seen_discover :
    node ∈ (discover successors stack seen).2 ↔ node ∈ seen ∨ node ∈ successors := by
  induction successors generalizing stack seen with
  | nil => simp [discover]
  | cons next rest ih =>
    rw [discover, List.mem_cons]
    split
    next isSeen =>
      rw [ih]
      constructor
      · exact Or.imp_right Or.inr
      · rintro (before | rfl | later)
        · exact Or.inl before
        · exact Or.inl isSeen
        · exact Or.inr later
    next =>
      rw [ih, List.mem_append, List.mem_singleton, or_assoc]

theorem mem_stack_discover :
    node ∈ (discover successors stack seen).1 ↔
      node ∈ stack ∨ node ∈ successors ∧ node ∉ seen := by
  induction successors generalizing stack seen with
  | nil => simp [discover]
  | cons next rest ih =>
    rw [discover, List.mem_cons]
    split
    next isSeen =>
      rw [ih]
      constructor
      · exact Or.imp_right fun both => ⟨Or.inr both.1, both.2⟩
      · rintro (before | ⟨rfl | later, isNew⟩)
        · exact Or.inl before
        · exact absurd isSeen isNew
        · exact Or.inr ⟨later, isNew⟩
    next notSeen =>
      rw [ih, List.mem_cons, List.mem_append, List.mem_singleton, not_or]
      by_cases same : node = next
      · subst same
        simp [notSeen]
      · simp [same]

theorem nodup_discover (once : seen.Nodup) : (discover successors stack seen).2.Nodup := by
  induction successors generalizing stack seen with
  | nil => exact once
  | cons next rest ih =>
    rw [discover]
    split
    next => exact ih once
    next notSeen =>
      apply ih
      rw [← List.concat_eq_append]
      exact List.Nodup.concat notSeen once

theorem length_discover :
    (discover successors stack seen).1.length + seen.length =
      stack.length + (discover successors stack seen).2.length := by
  induction successors generalizing stack seen with
  | nil => rfl
  | cons next rest ih =>
    rw [discover]
    split
    next => exact ih
    next =>
      have pushed := @ih (next :: stack) (seen ++ [next])
      rw [List.length_append, List.length_singleton, List.length_cons] at pushed
      omega

end Discover

section Walk

variable (successors : α → List α) (skips : α → Bool)

/-- The nodes seen when the stack is empty. Skipped nodes are not expanded. -/
def walk [DecidableEq α] : ℕ → List α → List α → List α
  | _, [], seen => seen
  | 0, _ :: _, seen => seen
  | fuel + 1, current :: stack, seen =>
    if skips current then walk fuel stack seen
    else
      let found := discover (successors current) stack seen
      walk fuel found.1 found.2

/-- A step out of a node that is expanded. -/
def Steps (source target : α) : Prop := skips source = false ∧ target ∈ successors source

/-- What holds whenever a node is popped. -/
structure Walking (start : α) (stack seen : List α) : Prop where
  once : seen.Nodup
  reached : ∀ node ∈ seen, Relation.TransGen (Steps successors skips) start node
  stacked : ∀ node ∈ stack, node = start ∨ node ∈ seen
  closed : ∀ source, source = start ∨ source ∈ seen → source ∉ stack →
    ∀ target, Steps successors skips source target → target ∈ seen

variable {successors skips} {start current : α} {stack seen : List α}

theorem walking_start : Walking successors skips start [start] [] where
  once := List.nodup_nil
  reached := List.forall_mem_nil _
  stacked := fun _ member => Or.inl (List.mem_singleton.mp member)
  closed := by
    rintro source (rfl | member) notStacked
    · exact absurd (List.mem_singleton_self source) notStacked
    · exact absurd member List.not_mem_nil

theorem Walking.skip (walking : Walking successors skips start (current :: stack) seen)
    (isSkipped : skips current = true) : Walking successors skips start stack seen where
  once := walking.once
  reached := walking.reached
  stacked node member := walking.stacked node (List.mem_cons_of_mem _ member)
  closed source known notStacked target step := by
    have different : source ≠ current := by
      rintro rfl
      rw [Steps, isSkipped] at step
      exact Bool.noConfusion step.1
    exact walking.closed source known (List.not_mem_cons_of_ne_of_not_mem different notStacked)
      target step

theorem Walking.expand [DecidableEq α]
    (walking : Walking successors skips start (current :: stack) seen)
    (isExpanded : skips current = false) :
    Walking successors skips start (discover (successors current) stack seen).1
      (discover (successors current) stack seen).2 where
  once := nodup_discover walking.once
  reached node member := by
    rcases mem_seen_discover.mp member with before | isSuccessor
    · exact walking.reached node before
    · have step : Steps successors skips current node := ⟨isExpanded, isSuccessor⟩
      rcases walking.stacked current List.mem_cons_self with rfl | isSeen
      · exact .single step
      · exact (walking.reached current isSeen).tail step
  stacked node member := by
    rcases mem_stack_discover.mp member with before | ⟨isSuccessor, _⟩
    · exact (walking.stacked node (List.mem_cons_of_mem _ before)).imp_right fun isSeen =>
        mem_seen_discover.mpr (Or.inl isSeen)
    · exact Or.inr (mem_seen_discover.mpr (Or.inr isSuccessor))
  closed source known notStacked target step := by
    rw [mem_stack_discover, not_or, not_and_not_right] at notStacked
    by_cases isCurrent : source = current
    · subst isCurrent
      exact mem_seen_discover.mpr (Or.inr step.2)
    · have wasKnown : source = start ∨ source ∈ seen := by
        refine known.imp_right fun isSeen => ?_
        exact (mem_seen_discover.mp isSeen).elim id notStacked.2
      have isSeen := walking.closed source wasKnown
        (List.not_mem_cons_of_ne_of_not_mem isCurrent notStacked.1) target step
      exact mem_seen_discover.mpr (Or.inl isSeen)

theorem Walking.walk [DecidableEq α] {whole : List α}
    (within : ∀ source, ∀ target ∈ successors source, target ∈ whole) {fuel : ℕ}
    (walking : Walking successors skips start stack seen)
    (seenWithin : seen ⊆ whole) (enough : stack.length + whole.length ≤ fuel + seen.length) :
    Walking successors skips start [] (Lib.walk successors skips fuel stack seen) := by
  induction fuel generalizing stack seen with
  | zero =>
    cases stack with
    | nil => exact walking
    | cons current stack =>
      have bound := (List.subperm_of_subset walking.once seenWithin).length_le
      rw [List.length_cons] at enough
      omega
  | succ fuel ih =>
    cases stack with
    | nil => exact walking
    | cons current stack =>
      rw [List.length_cons] at enough
      rw [Lib.walk]
      cases isSkipped : skips current with
      | true =>
        rw [if_pos rfl]
        exact ih (walking.skip isSkipped) seenWithin (by omega)
      | false =>
        rw [if_neg Bool.false_ne_true]
        have pushed := @length_discover _ _ (successors current) stack seen
        refine ih (walking.expand isSkipped) ?_ (by omega)
        intro node member
        exact (mem_seen_discover.mp member).elim (fun before => seenWithin before)
          (within current node)

theorem mem_walk_iff [DecidableEq α] {whole : List α}
    (within : ∀ source, ∀ target ∈ successors source, target ∈ whole) {fuel : ℕ}
    (enough : whole.length < fuel) {node : α} :
    node ∈ walk successors skips fuel [start] [] ↔
      Relation.TransGen (Steps successors skips) start node := by
  have started : Walking successors skips start [start] [] := walking_start
  have ended := started.walk within (List.nil_subset whole) (by
    show 1 + whole.length ≤ fuel + 0
    omega)
  constructor
  · exact ended.reached node
  · intro reachable
    induction reachable with
    | single step => exact ended.closed _ (Or.inl rfl) List.not_mem_nil _ step
    | tail _ step isSeen => exact ended.closed _ (Or.inr isSeen) List.not_mem_nil _ step

end Walk

section Search

variable (successors : α → List α)

/-- The finished nodes after a visit, or the node at which a cycle closes. -/
def search [DecidableEq α] : ℕ → List α → List α → α → Except α (List α)
  | 0, _, _, node => .error node
  | fuel + 1, visiting, visited, node =>
    if node ∈ visiting then .error node
    else if node ∈ visited then .ok visited
    else ((successors node).foldlM (search fuel (node :: visiting)) visited).map (node :: ·)

/-- A list of finished nodes: each was finished after its successors. -/
inductive Finished : List α → Prop where
  | nil : Finished []
  | cons {node : α} {rest : List α} (before : ∀ target ∈ successors node, target ∈ rest)
      (later : Finished rest) : Finished (node :: rest)

variable {successors}

def Edge (successors : α → List α) (source target : α) : Prop := target ∈ successors source

theorem Finished.closed {nodes : List α} (finished : Finished successors nodes) {source : α}
    (member : source ∈ nodes) {target : α} (edge : target ∈ successors source) :
    target ∈ nodes := by
  induction finished with
  | nil => cases member
  | cons before _ ih =>
    rcases List.mem_cons.mp member with rfl | later
    · exact List.mem_cons_of_mem _ (before target edge)
    · exact List.mem_cons_of_mem _ (ih later)

/-- A finished list holds all that its nodes reach. -/
theorem Finished.reachable {nodes : List α} (finished : Finished successors nodes) {source : α}
    (member : source ∈ nodes) {target : α}
    (path : Relation.TransGen (Edge successors) source target) : target ∈ nodes := by
  induction path with
  | single edge => exact finished.closed member edge
  | tail _ edge isMember => exact finished.closed isMember edge

theorem Finished.acyclic {nodes : List α} (finished : Finished successors nodes) {node : α}
    (member : node ∈ nodes) : ¬ Relation.TransGen (Edge successors) node node := by
  intro cycle
  induction finished with
  | nil => cases member
  | cons before later ih =>
    rcases List.mem_cons.mp member with rfl | isLater
    · -- the way back comes in through a successor, which was finished before
      rcases Relation.TransGen.head'_iff.mp cycle with ⟨next, edge, rest⟩
      have isBefore := before next edge
      rcases Relation.reflTransGen_iff_eq_or_transGen.mp rest with same | path
      · exact ih (same ▸ isBefore)
      · exact ih (later.reachable isBefore path)
    · exact ih isLater

variable {visit : List α → α → Except α (List α)}

theorem foldlM_finished
    (each : ∀ visited node later, Finished successors visited → visit visited node = .ok later →
      Finished successors later ∧ visited ⊆ later ∧ node ∈ later) {nodes visited later : List α}
    (finished : Finished successors visited) (returned : nodes.foldlM visit visited = .ok later) :
    Finished successors later ∧ visited ⊆ later ∧ nodes ⊆ later := by
  induction nodes generalizing visited with
  | nil =>
    cases returned
    exact ⟨finished, List.Subset.refl _, List.nil_subset _⟩
  | cons node rest ih =>
    rw [List.foldlM_cons] at returned
    cases visitedNode : visit visited node with
    | error cyclic =>
      rw [visitedNode] at returned
      cases returned
    | ok between =>
      rw [visitedNode] at returned
      have here := each visited node between finished visitedNode
      have onward := ih here.1 returned
      exact ⟨onward.1, List.Subset.trans here.2.1 onward.2.1,
        List.cons_subset.mpr ⟨onward.2.1 here.2.2, onward.2.2⟩⟩

theorem finished_search [DecidableEq α] {fuel : ℕ} {visiting visited later : List α} {node : α}
    (finished : Finished successors visited)
    (returned : search successors fuel visiting visited node = .ok later) :
    Finished successors later ∧ visited ⊆ later ∧ node ∈ later := by
  induction fuel generalizing visiting visited later node with
  | zero => cases returned
  | succ fuel ih =>
    rw [search] at returned
    split at returned
    next => cases returned
    next =>
      split at returned
      next isVisited =>
        cases returned
        exact ⟨finished, List.Subset.refl _, isVisited⟩
      next =>
        cases folded : (successors node).foldlM (search successors fuel (node :: visiting))
            visited with
        | error cyclic =>
          rw [folded] at returned
          cases returned
        | ok between =>
          rw [folded] at returned
          cases returned
          have children := foldlM_finished (fun _ _ _ => ih) finished folded
          exact ⟨.cons (fun target edge => children.2.2 edge) children.1,
            List.subset_cons_of_subset _ children.2.1, List.mem_cons_self⟩

theorem exists_error_of_foldlM {nodes visited : List α} {cyclic : α}
    (thrown : nodes.foldlM visit visited = .error cyclic) :
    ∃ node ∈ nodes, ∃ before, visit before node = .error cyclic := by
  induction nodes generalizing visited with
  | nil => cases thrown
  | cons node rest ih =>
    rw [List.foldlM_cons] at thrown
    cases visitedNode : visit visited node with
    | error other =>
      rw [visitedNode] at thrown
      cases thrown
      exact ⟨node, List.mem_cons_self, visited, visitedNode⟩
    | ok between =>
      rw [visitedNode] at thrown
      rcases ih thrown with ⟨later, isLater, before, isError⟩
      exact ⟨later, List.mem_cons_of_mem _ isLater, before, isError⟩

theorem cycle_of_search [DecidableEq α] {whole : List α}
    (within : ∀ source, ∀ target ∈ successors source, target ∈ whole) {fuel : ℕ}
    {visiting visited : List α} {node cyclic : α}
    (once : visiting.Nodup) (visitingWithin : visiting ⊆ whole) (nodeWithin : node ∈ whole)
    (onWay : ∀ earlier ∈ visiting, Relation.TransGen (Edge successors) earlier node)
    (enough : whole.length < fuel + visiting.length)
    (stopped : search successors fuel visiting visited node = .error cyclic) :
    ∃ source, Relation.TransGen (Edge successors) source source := by
  induction fuel generalizing visiting visited node with
  | zero =>
    have bound := (List.subperm_of_subset once visitingWithin).length_le
    omega
  | succ fuel ih =>
    rw [search] at stopped
    split at stopped
    next isVisiting => exact ⟨node, onWay node isVisiting⟩
    next notVisiting =>
      split at stopped
      next => cases stopped
      next =>
        cases folded : (successors node).foldlM (search successors fuel (node :: visiting))
            visited with
        | ok between =>
          rw [folded] at stopped
          cases stopped
        | error other =>
          rw [folded] at stopped
          cases stopped
          rcases exists_error_of_foldlM folded with ⟨next, edge, before, isError⟩
          refine ih (List.nodup_cons.mpr ⟨notVisiting, once⟩)
            (List.cons_subset.mpr ⟨nodeWithin, visitingWithin⟩) (within node next edge) ?_ ?_
            isError
          · intro earlier member
            rcases List.mem_cons.mp member with rfl | onEarlierWay
            · exact .single edge
            · exact (onWay earlier onEarlierWay).tail edge
          · rw [List.length_cons]
            omega

theorem exists_error_search_iff [DecidableEq α] {whole roots : List α}
    (within : ∀ source, ∀ target ∈ successors source, target ∈ whole)
    (rootsWithin : roots ⊆ whole)
    (covers : ∀ source, ∀ target ∈ successors source, source ∈ roots) {fuel : ℕ}
    (enough : whole.length < fuel) :
    (∃ cyclic, roots.foldlM (search successors fuel []) [] = .error cyclic) ↔
      ∃ source, Relation.TransGen (Edge successors) source source := by
  constructor
  · rintro ⟨cyclic, stopped⟩
    rcases exists_error_of_foldlM stopped with ⟨node, isRoot, before, isError⟩
    exact cycle_of_search within List.nodup_nil (List.nil_subset _) (rootsWithin isRoot)
      (List.forall_mem_nil _) enough isError
  · rintro ⟨source, cycle⟩
    cases searched : roots.foldlM (search successors fuel []) [] with
    | error cyclic => exact ⟨cyclic, rfl⟩
    | ok visited =>
      have all := foldlM_finished (fun _ _ _ => finished_search) .nil searched
      rcases Relation.TransGen.head'_iff.mp cycle with ⟨next, edge, -⟩
      exact absurd cycle (all.1.acyclic (all.2.2 (covers source next edge)))

end Search

end GhostArk.Lib
