import GhostArk.ResearchFrontier.Lobian.GlTableauCorrectness

/-!
Contract: the Kripke model that is built from a tree of worlds.

Owns the numbering of a tree in preorder, the worlds, edges and valuation that
`buildModel` collects along it, the built model's frame conditions, and the
bisimulation between the built model and the tree.

Does not own the search that returns the tree.
-/

namespace GhostArk.ResearchFrontier.Lobian.GlTableau

open Js Lib

/-! ### The numbering -/

mutual

/-- The nodes of a tree with their numbers, from the one of its root. -/
def placed (n : Nat) : WorldNode → List (Nat × WorldNode)
  | .node trueAtoms successors =>
    (n, .node trueAtoms successors) :: placedAll (n + 1) successors

def placedAll (n : Nat) : List WorldNode → List (Nat × WorldNode)
  | [] => []
  | succ :: rest => placed n succ ++ placedAll (n + (placed n succ).length) rest

end

mutual

/-- The edges of a tree, in the order in which `assign` adds them. -/
def links (n : Nat) : WorldNode → List (Nat × Nat)
  | .node _ successors => linksAll n (n + 1) successors

def linksAll (parent n : Nat) : List WorldNode → List (Nat × Nat)
  | [] => []
  | succ :: rest =>
    links n succ ++ (parent, n) :: linksAll parent (n + (placed n succ).length) rest

end

/-- What numbering a tree adds. -/
def Building.extend (state : Building) (nodes : List (Nat × WorldNode))
    (edges : List (Nat × Nat)) : Building where
  counter := state.counter + nodes.length
  worlds := state.worlds ++ nodes.map fun node => worldId node.1
  treeEdges := state.treeEdges ++ edges.map (Prod.map worldId worldId)
  valuation := state.valuation ++ nodes.map fun node => (worldId node.1, sortedAtoms node.2)

mutual

theorem assign_eq (state : Building) (node : WorldNode) :
    assign state node =
      (worldId state.counter,
        state.extend (placed state.counter node) (links state.counter node)) := by
  rcases node with ⟨trueAtoms, successors⟩
  rw [assign, assignAll_eq]
  simp [Building.extend, placed, links, Nat.add_assoc, Nat.add_comm 1]

theorem assignAll_eq (parent : Nat) (state : Building) (successors : List WorldNode) :
    assignAll (worldId parent) state successors =
      state.extend (placedAll state.counter successors)
        (linksAll parent state.counter successors) := by
  rcases successors with _ | ⟨succ, rest⟩
  · simp [assignAll, Building.extend, placedAll, linksAll]
  · rw [assignAll, assign_eq, assignAll_eq]
    simp [Building.extend, placedAll, linksAll, Nat.add_assoc]

end

mutual

theorem placed_numbers (n : Nat) (node : WorldNode) :
    (placed n node).map Prod.fst = List.range' n (placed n node).length := by
  rcases node with ⟨trueAtoms, successors⟩
  rw [placed, List.map_cons, List.length_cons, List.range'_succ, placedAll_numbers]

theorem placedAll_numbers (n : Nat) (successors : List WorldNode) :
    (placedAll n successors).map Prod.fst = List.range' n (placedAll n successors).length := by
  rcases successors with _ | ⟨succ, rest⟩
  · rfl
  · rw [placedAll, List.map_append, placed_numbers, placedAll_numbers, List.length_append,
      List.range'_append_1]

end

theorem placed_unique {n i : Nat} {root node node' : WorldNode} (first : (i, node) ∈ placed n root)
    (second : (i, node') ∈ placed n root) : node = node' := by
  have distinct : ((placed n root).map Prod.fst).Nodup := by
    rw [placed_numbers]
    exact List.nodup_range'
  exact congrArg Prod.snd (List.inj_on_of_nodup_map distinct first second rfl)

theorem root_placed (n : Nat) (node : WorldNode) : (n, node) ∈ placed n node := by
  rcases node with ⟨trueAtoms, successors⟩
  exact List.mem_cons_self

mutual

theorem links_forth {n i j : Nat} {node : WorldNode} (member : (i, j) ∈ links n node) :
    i < j ∧ ∃ world next, (i, world) ∈ placed n node ∧ (j, next) ∈ placed n node ∧
      IsSuccessor world next := by
  rcases node with ⟨trueAtoms, successors⟩
  rcases linksAll_forth (Nat.lt_succ_self n) member with
    ⟨rfl, below, next, inSuccessors, isPlaced⟩ | ⟨below, world, next, from', to', step⟩
  · exact ⟨below, _, next, List.mem_cons_self, List.mem_cons_of_mem _ isPlaced, inSuccessors⟩
  · exact ⟨below, world, next, List.mem_cons_of_mem _ from', List.mem_cons_of_mem _ to', step⟩

theorem linksAll_forth {parent n i j : Nat} {successors : List WorldNode} (after : parent < n)
    (member : (i, j) ∈ linksAll parent n successors) :
    (i = parent ∧ i < j ∧ ∃ next ∈ successors, (j, next) ∈ placedAll n successors) ∨
      (i < j ∧ ∃ world next, (i, world) ∈ placedAll n successors ∧
        (j, next) ∈ placedAll n successors ∧ IsSuccessor world next) := by
  rcases successors with _ | ⟨succ, rest⟩
  · exact absurd member List.not_mem_nil
  · simp only [linksAll, List.mem_append, List.mem_cons, Prod.mk.injEq] at member
    simp only [placedAll, List.mem_append]
    rcases member with inside | ⟨rfl, rfl⟩ | later
    · rcases links_forth inside with ⟨below, world, next, from', to', step⟩
      exact Or.inr ⟨below, world, next, Or.inl from', Or.inl to', step⟩
    · exact Or.inl ⟨rfl, after, succ, .head _, Or.inl (root_placed j succ)⟩
    · rcases linksAll_forth (Nat.lt_add_right _ after) later with
        ⟨rfl, below, next, inRest, isPlaced⟩ | ⟨below, world, next, from', to', step⟩
      · exact Or.inl ⟨rfl, below, next, .tail _ inRest, Or.inr isPlaced⟩
      · exact Or.inr ⟨below, world, next, Or.inr from', Or.inr to', step⟩

end

mutual

theorem links_back {n i : Nat} {node world next : WorldNode} (isPlaced : (i, world) ∈ placed n node)
    (step : IsSuccessor world next) : ∃ j, (i, j) ∈ links n node ∧ (j, next) ∈ placed n node := by
  rcases node with ⟨trueAtoms, successors⟩
  rw [links, placed]
  rw [placed, List.mem_cons, Prod.mk.injEq] at isPlaced
  rcases isPlaced with ⟨rfl, rfl⟩ | below
  · rcases linksAll_back_parent step with ⟨j, joined, nextPlaced⟩
    exact ⟨j, joined, List.mem_cons_of_mem _ nextPlaced⟩
  · rcases linksAll_back below step with ⟨j, joined, nextPlaced⟩
    exact ⟨j, joined, List.mem_cons_of_mem _ nextPlaced⟩

theorem linksAll_back_parent {parent n : Nat} {successors : List WorldNode} {next : WorldNode}
    (member : next ∈ successors) :
    ∃ j, (parent, j) ∈ linksAll parent n successors ∧ (j, next) ∈ placedAll n successors := by
  rcases successors with _ | ⟨succ, rest⟩
  · exact absurd member List.not_mem_nil
  · rw [linksAll, placedAll]
    rcases List.mem_cons.mp member with rfl | later
    · exact ⟨n, by simp, List.mem_append_left _ (root_placed n next)⟩
    · rcases linksAll_back_parent later with ⟨j, joined, nextPlaced⟩
      exact ⟨j, List.mem_append_right _ (List.mem_cons_of_mem _ joined),
        List.mem_append_right _ nextPlaced⟩

theorem linksAll_back {parent n i : Nat} {successors : List WorldNode} {world next : WorldNode}
    (isPlaced : (i, world) ∈ placedAll n successors) (step : IsSuccessor world next) :
    ∃ j, (i, j) ∈ linksAll parent n successors ∧ (j, next) ∈ placedAll n successors := by
  rcases successors with _ | ⟨succ, rest⟩
  · exact absurd isPlaced List.not_mem_nil
  · rw [linksAll, placedAll]
    rw [placedAll, List.mem_append] at isPlaced
    rcases isPlaced with inside | later
    · rcases links_back inside step with ⟨j, joined, nextPlaced⟩
      exact ⟨j, List.mem_append_left _ joined, List.mem_append_left _ nextPlaced⟩
    · rcases @linksAll_back parent _ _ _ _ _ later step with ⟨j, joined, nextPlaced⟩
      exact ⟨j, List.mem_append_right _ (List.mem_cons_of_mem _ joined),
        List.mem_append_right _ nextPlaced⟩

end

theorem worldId_inj {i j : Nat} (same : worldId i = worldId j) : i = j := by
  have texts : Decimal.natText i = Decimal.natText j := List.append_cancel_left same
  rw [← Decimal.natOfText_natText i, texts, Decimal.natOfText_natText]

theorem spaceless_worldId (i : Nat) : Spaceless (worldId i) := by
  intro member
  rcases List.mem_append.mp member with inPrefix | inNumber
  · exact absurd inPrefix (by decide)
  · have digit := Decimal.isDigit_natText inNumber
    exact absurd digit (by decide)

section Built

variable (root : WorldNode)

theorem buildModel_eq :
    buildModel root =
      ({ worlds := (placed 0 root).map fun node => worldId node.1
         edges := transitiveClosure ((links 0 root).map (Prod.map worldId worldId))
         valuation := (placed 0 root).map fun node => (worldId node.1, sortedAtoms node.2) },
        worldId 0) := by
  simp [buildModel, assign_eq, Building.extend]

variable {root}

/-- A step along the tree's edges, by identifiers. -/
def Linked (root : WorldNode) (a b : JsString) : Prop :=
  (a, b) ∈ (links 0 root).map (Prod.map worldId worldId)

theorem linked_iff {a b : JsString} :
    Linked root a b ↔ ∃ i j, (i, j) ∈ links 0 root ∧ a = worldId i ∧ b = worldId j := by
  simp only [Linked, List.mem_map, Prod.exists, Prod.map_apply, Prod.mk.injEq]
  constructor
  · rintro ⟨i, j, joined, rfl, rfl⟩
    exact ⟨i, j, joined, rfl, rfl⟩
  · rintro ⟨i, j, joined, rfl, rfl⟩
    exact ⟨i, j, joined, rfl, rfl⟩

theorem sees_buildModel : (buildModel root).1.Sees = Relation.TransGen (Linked root) := by
  funext a b
  rw [buildModel_eq]
  apply propext
  apply mem_transitiveClosure
  intro a b joined
  rcases linked_iff.mp joined with ⟨i, j, -, rfl, rfl⟩
  exact ⟨spaceless_worldId i, spaceless_worldId j⟩

theorem numbered_of_path {a b : JsString} (path : Relation.TransGen (Linked root) a b) :
    ∃ i j, a = worldId i ∧ b = worldId j ∧ i < j ∧
      (∃ world, (i, world) ∈ placed 0 root) ∧ ∃ next, (j, next) ∈ placed 0 root := by
  induction path with
  | single step =>
    rcases linked_iff.mp step with ⟨i, j, joined, rfl, rfl⟩
    rcases links_forth joined with ⟨below, world, next, worldPlaced, nextPlaced, -⟩
    exact ⟨i, j, rfl, rfl, below, ⟨world, worldPlaced⟩, next, nextPlaced⟩
  | tail _ step ih =>
    rcases ih with ⟨i, j, rfl, rfl, below, worldPlaced, -⟩
    rcases linked_iff.mp step with ⟨j', k, joined, same, rfl⟩
    obtain rfl := worldId_inj same
    rcases links_forth joined with ⟨further, _, next, -, nextPlaced, -⟩
    exact ⟨i, k, rfl, rfl, below.trans further, worldPlaced, next, nextPlaced⟩

theorem lookup_of_mem {entries : List (JsString × List JsString)}
    (distinct : (entries.map Prod.fst).Nodup) {name : JsString} {atoms : List JsString}
    (member : (name, atoms) ∈ entries) : entries.lookup name = some atoms := by
  induction entries with
  | nil => exact absurd member List.not_mem_nil
  | cons first rest ih =>
    rcases List.nodup_cons.mp distinct with ⟨absent, restDistinct⟩
    rcases List.mem_cons.mp member with rfl | later
    · exact List.lookup_cons_self
    · have different : name ≠ first.1 := by
        rintro rfl
        exact absent (List.mem_map.mpr ⟨_, later, rfl⟩)
      rw [List.lookup_cons, beq_eq_false_iff_ne.mpr different]
      exact ih restDistinct later

theorem lookup_valuation {i : Nat} {world : WorldNode} (isPlaced : (i, world) ∈ placed 0 root) :
    (buildModel root).1.valuation.lookup (worldId i) = some (sortedAtoms world) := by
  rw [buildModel_eq]
  apply lookup_of_mem
  · have numbers : ((placed 0 root).map Prod.fst).Nodup := by
      rw [placed_numbers]
      exact List.nodup_range'
    rw [List.map_map]
    have renamed := numbers.map (fun _ _ => worldId_inj)
    rwa [List.map_map] at renamed
  · exact List.mem_map.mpr ⟨(i, world), isPlaced, rfl⟩

theorem worldId_mem_worlds {i : Nat} {world : WorldNode} (isPlaced : (i, world) ∈ placed 0 root) :
    worldId i ∈ (buildModel root).1.worlds := by
  rw [buildModel_eq]
  exact List.mem_map.mpr ⟨(i, world), isPlaced, rfl⟩

variable (root)

theorem isModel_buildModel : (buildModel root).1.IsModel where
  joins := by
    intro a b (edge : (buildModel root).1.Sees a b)
    rw [sees_buildModel] at edge
    rcases numbered_of_path edge with ⟨i, j, rfl, rfl, -, ⟨world, from'⟩, next, to'⟩
    exact ⟨worldId_mem_worlds from', worldId_mem_worlds to'⟩
  valued := by
    intro w member
    rw [buildModel_eq] at member
    rcases List.mem_map.mp member with ⟨⟨i, world⟩, isPlaced, rfl⟩
    exact ⟨_, lookup_valuation isPlaced⟩
  transitive := by
    intro a b c (first : (buildModel root).1.Sees a b) (second : (buildModel root).1.Sees b c)
    change (buildModel root).1.Sees a c
    rw [sees_buildModel] at first second ⊢
    exact first.trans second
  irreflexive := by
    intro a (edge : (buildModel root).1.Sees a a)
    rw [sees_buildModel] at edge
    rcases numbered_of_path edge with ⟨i, j, rfl, same, below, -⟩
    exact absurd (worldId_inj same) (Nat.ne_of_lt below)

theorem root_mem_buildModel : (buildModel root).2 ∈ (buildModel root).1.worlds := by
  have isPlaced := worldId_mem_worlds (root_placed 0 root)
  rw [buildModel_eq] at isPlaced ⊢
  exact isPlaced

/-- The identifier of a node and the node. -/
def Names (a : JsString) (world : WorldNode) : Prop :=
  ∃ i, (i, world) ∈ placed 0 root ∧ a = worldId i

theorem bisimulation_step : Bisimulation (Linked root) IsSuccessor (Names root) where
  forth := by
    rintro _ world _ ⟨i, isPlaced, rfl⟩ step
    rcases linked_iff.mp step with ⟨i', j, joined, same, rfl⟩
    obtain rfl := worldId_inj same
    rcases links_forth joined with ⟨-, world', next, worldPlaced, nextPlaced, isSuccessor⟩
    obtain rfl := placed_unique isPlaced worldPlaced
    exact ⟨next, isSuccessor, j, nextPlaced, rfl⟩
  back := by
    rintro _ world next ⟨i, isPlaced, rfl⟩ step
    rcases links_back isPlaced step with ⟨j, joined, nextPlaced⟩
    exact ⟨worldId j, linked_iff.mpr ⟨i, j, joined, rfl, rfl⟩, j, nextPlaced, rfl⟩

theorem forces_buildModel (f : Formula) :
    Forces (buildModel root).1.Sees (buildModel root).1.Holds f (buildModel root).2 ↔
      Forces Below HoldsAt f root := by
  have bisimulation : Bisimulation (buildModel root).1.Sees Below (Names root) := by
    rw [sees_buildModel]
    exact (bisimulation_step root).transGen
  apply forces_iff_of_bisimulation bisimulation
  · rintro _ world name ⟨i, isPlaced, rfl⟩
    rw [KripkeModel.Holds, KripkeModel.atomsAt, lookup_valuation isPlaced, Option.getD_some,
      sortedAtoms, codeUnitOrder.mem_sortBy]
    exact Iff.rfl
  · exact ⟨0, root_placed 0 root, by rw [buildModel_eq]⟩

end Built

end GhostArk.ResearchFrontier.Lobian.GlTableau
