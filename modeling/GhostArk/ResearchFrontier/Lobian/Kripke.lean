import GhostArk.Lib.ProvabilityFrame
import GhostArk.ResearchFrontier.Lobian.Formula

/-!
Contract: Kripke semantics of provability logic, `lobian/kripke.ts`.

Owns finite models, the local truth of a formula, the frame checks, the
transitive closure of a list of edges, and the refinement of an abstract forcing
relation by the model checker.

Does not own the search for proofs and countermodels.
-/

namespace GhostArk.ResearchFrontier.Lobian

open Js

def edgeText (edge : JsString × JsString) : JsString := edge.1 ++ js " " ++ edge.2

structure KripkeModel where
  worlds : List JsString
  edges : List (JsString × JsString)
  valuation : List (JsString × List JsString)

namespace KripkeModel

variable (m : KripkeModel)

def successors (w : JsString) : List JsString :=
  (m.edges.filter fun edge => edge.1 == w).map Prod.snd

def atomsAt (w : JsString) : List JsString := (m.valuation.lookup w).getD []

def satisfies (w : JsString) : Formula → Bool
  | .atom name => (m.atomsAt w).contains name
  | .top => true
  | .bot => false
  | .not a => !satisfies w a
  | .and a b => satisfies w a && satisfies w b
  | .or a b => satisfies w a || satisfies w b
  | .imp a b => !satisfies w a || satisfies w b
  | .iff a b => satisfies w a == satisfies w b
  | .box a => (m.successors w).all fun w2 => satisfies w2 a

def isIrreflexive : Bool := !m.edges.any fun edge => edge.1 == edge.2

def isTransitive : Bool :=
  let has := m.edges.map edgeText
  m.edges.all fun first => m.edges.all fun second =>
    !(first.2 == second.1 && !has.contains (edgeText (first.1, second.2)))

def isGLFrame : Bool := isTransitive m && isIrreflexive m

/-- A frame in which the root is a world and the formula is false there. -/
def refutes (root : JsString) (f : Formula) : Bool :=
  isGLFrame m && m.worlds.contains root && !satisfies m root f

/-- What the checks stand for: every edge joins two worlds, every world has its
atoms, and the edges are transitive and irreflexive. -/
structure IsModel : Prop where
  joins : ∀ {a b}, (a, b) ∈ m.edges → a ∈ m.worlds ∧ b ∈ m.worlds
  valued : ∀ {w}, w ∈ m.worlds → ∃ atoms, m.valuation.lookup w = some atoms
  transitive : ∀ {a b c}, (a, b) ∈ m.edges → (b, c) ∈ m.edges → (a, c) ∈ m.edges
  irreflexive : ∀ a, (a, a) ∉ m.edges

end KripkeModel

/-! ### Forcing -/

open Lib

/-- Truth at a world of an arbitrary frame. -/
def Forces {W : Type} (sees : W → W → Prop) (holds : W → JsString → Prop) : Formula → W → Prop
  | .atom name => fun w => holds w name
  | .top => fun _ => True
  | .bot => fun _ => False
  | .not a => fun w => ¬ Forces sees holds a w
  | .and a b => fun w => Forces sees holds a w ∧ Forces sees holds b w
  | .or a b => fun w => Forces sees holds a w ∨ Forces sees holds b w
  | .imp a b => fun w => Forces sees holds a w → Forces sees holds b w
  | .iff a b => fun w => Forces sees holds a w ↔ Forces sees holds b w
  | .box a => Necessarily sees (Forces sees holds a)

theorem forces_iff_of_bisimulation {W W' : Type} {sees : W → W → Prop} {sees' : W' → W' → Prop}
    {holds : W → JsString → Prop} {holds' : W' → JsString → Prop} {related : W → W' → Prop}
    (bisimulation : Bisimulation sees sees' related)
    (sameAtoms : ∀ {w w' name}, related w w' → (holds w name ↔ holds' w' name)) (f : Formula)
    {w : W} {w' : W'} (start : related w w') : Forces sees holds f w ↔ Forces sees' holds' f w' := by
  induction f generalizing w w' with
  | atom name => exact sameAtoms start
  | top => exact Iff.rfl
  | bot => exact Iff.rfl
  | not a ih => exact not_congr (ih start)
  | and a b left right => exact and_congr (left start) (right start)
  | or a b left right => exact or_congr (left start) (right start)
  | imp a b left right => exact imp_congr (left start) (right start)
  | iff a b left right => exact iff_congr (left start) (right start)
  | box a ih => exact bisimulation.necessarily_iff ih start

namespace KripkeModel

variable (m : KripkeModel)

/-- The accessibility relation of a finite model. -/
def Sees (a b : JsString) : Prop := (a, b) ∈ m.edges

def Holds (w name : JsString) : Prop := name ∈ m.atomsAt w

theorem mem_successors {w next : JsString} : next ∈ m.successors w ↔ m.Sees w next := by
  simp only [successors, List.mem_map, List.mem_filter, beq_iff_eq, Sees]
  constructor
  · rintro ⟨⟨a, b⟩, ⟨inEdges, rfl⟩, rfl⟩
    exact inEdges
  · intro inEdges
    exact ⟨(w, next), ⟨inEdges, rfl⟩, rfl⟩

/-- The evaluator computes forcing. -/
theorem satisfies_iff (f : Formula) (w : JsString) :
    m.satisfies w f = true ↔ Forces m.Sees m.Holds f w := by
  induction f generalizing w with
  | atom name => simp [satisfies, Forces, Holds]
  | top => simp [satisfies, Forces]
  | bot => simp [satisfies, Forces]
  | not a ih => simp [satisfies, Forces, ← ih]
  | and a b left right => simp [satisfies, Forces, ← left, ← right]
  | or a b left right => simp [satisfies, Forces, ← left, ← right]
  | imp a b left right =>
    simp only [satisfies, Forces, ← left, ← right, Bool.or_eq_true, Bool.not_eq_true']
    cases m.satisfies w a <;> simp
  | iff a b left right =>
    simp only [satisfies, Forces, ← left, ← right, beq_iff_eq]
    exact Bool.eq_iff_iff
  | box a ih =>
    simp only [satisfies, Forces, List.all_eq_true, m.mem_successors, ih]
    exact Iff.rfl

theorem satisfies_eq_false_iff (f : Formula) (w : JsString) :
    m.satisfies w f = false ↔ ¬ Forces m.Sees m.Holds f w := by
  rw [← m.satisfies_iff, Bool.not_eq_true]

variable {m}

theorem IsModel.provabilityFrame (isModel : m.IsModel) : ProvabilityFrame m.Sees := by
  have finite : ∀ world, {next | m.Sees world next}.Finite := by
    intro world
    apply (m.successors world).finite_toSet.subset
    intro next step
    exact m.mem_successors.mpr step
  exact ProvabilityFrame.of_finite_successors finite isModel.transitive isModel.irreflexive

end KripkeModel

/-- A name without the space that separates the worlds of an edge text. -/
def Spaceless (name : JsString) : Prop := unit ' ' ∉ name

def edgeOfText (text : JsString) : JsString × JsString :=
  match text.splitOn (unit ' ') with
  | a :: b :: _ => (a, b)
  | [a] => (a, [])
  | [] => ([], [])

theorem edgeOfText_edgeText {a b : JsString} (source : Spaceless a) (target : Spaceless b) :
    edgeOfText (edgeText (a, b)) = (a, b) := by
  have spelled : edgeText (a, b) = a ++ unit ' ' :: b := by
    rw [edgeText, List.append_assoc]
    rfl
  rw [edgeOfText, spelled, List.splitOn_append_cons_self, List.splitOn_eq_singleton source,
    List.splitOn_eq_singleton target]
  rfl

theorem edgeText_inj {a b a' b' : JsString} (source : Spaceless a) (target : Spaceless b)
    (source' : Spaceless a') (target' : Spaceless b') (same : edgeText (a, b) = edgeText (a', b')) :
    (a, b) = (a', b') := by
  rw [← edgeOfText_edgeText source target, same, edgeOfText_edgeText source' target']

theorem KripkeModel.IsModel.isGLFrame {m : KripkeModel} (isModel : m.IsModel) :
    m.isGLFrame = true := by
  have transitive : m.isTransitive = true := by
    simp only [KripkeModel.isTransitive, List.all_eq_true]
    rintro ⟨a, x⟩ first ⟨x2, y⟩ second
    by_cases meets : x = x2
    · subst meets
      have present : edgeText (a, y) ∈ m.edges.map edgeText :=
        List.mem_map_of_mem (isModel.transitive first second)
      simp [present]
    · simp [meets]
  have irreflexive : m.isIrreflexive = true := by
    simp only [KripkeModel.isIrreflexive, Bool.not_eq_true', List.any_eq_false, beq_iff_eq]
    rintro ⟨a, b⟩ inEdges (rfl : a = b)
    exact isModel.irreflexive a inEdges
  rw [KripkeModel.isGLFrame, transitive, irreflexive]
  rfl

/-! ### Transitive closure -/

def addText (set : List JsString) (text : JsString) : List JsString :=
  if set.contains text then set else set ++ [text]

def setOf (texts : List JsString) : List JsString := texts.foldl addText []

/-- What one pair of edges adds: `if (x === x2) …`. -/
def joinPair (set : List JsString) (pair : (JsString × JsString) × (JsString × JsString)) :
    List JsString :=
  if pair.1.2 == pair.2.1 then addText set (edgeText (pair.1.1, pair.2.2)) else set

def closurePass (set : List JsString) : List JsString :=
  let snapshot := set.map edgeOfText
  (snapshot.product snapshot).foldl joinPair set

/-- `while (changed)`: passes until one adds nothing. -/
def closePasses : Nat → List JsString → List JsString
  | 0, set => set
  | fuel + 1, set =>
    let next := closurePass set
    if next.length == set.length then next else closePasses fuel next

/-- Transitive closure of the edges. A pass that adds nothing comes before the passes
run out; see `mem_transitiveClosure`. -/
def transitiveClosure (edges : List (JsString × JsString)) : List (JsString × JsString) :=
  (closePasses (edges.length * edges.length + 1) (setOf (edges.map edgeText))).map edgeOfText

section Passes

variable {set : List JsString} {text : JsString}
  {pair : (JsString × JsString) × (JsString × JsString)}
  {pairs : List ((JsString × JsString) × (JsString × JsString))}

theorem mem_addText {added : JsString} :
    text ∈ addText set added ↔ text ∈ set ∨ text = added := by
  by_cases present : added ∈ set
  · simp only [addText, List.contains_eq_mem, present, decide_true, if_true]
    exact ⟨Or.inl, fun either => either.elim id fun same => same ▸ present⟩
  · simp [addText, present]

theorem mem_joinPair :
    text ∈ joinPair set pair ↔
      text ∈ set ∨ pair.1.2 = pair.2.1 ∧ text = edgeText (pair.1.1, pair.2.2) := by
  by_cases meets : pair.1.2 = pair.2.1
  · simp [joinPair, meets, mem_addText]
  · simp [joinPair, meets]

theorem nodup_addText (distinct : set.Nodup) : (addText set text).Nodup := by
  rw [addText]
  split_ifs with present
  · exact distinct
  · apply distinct.append (List.nodup_singleton _)
    rintro old inSet inSingle
    rw [List.mem_singleton.mp inSingle] at inSet
    exact present (List.contains_iff_mem.mpr inSet)

variable {texts : List JsString}

theorem mem_foldl_addText : text ∈ texts.foldl addText set ↔ text ∈ set ∨ text ∈ texts := by
  induction texts generalizing set with
  | nil => simp
  | cons first rest ih =>
    rw [List.foldl_cons, ih, mem_addText, List.mem_cons, or_assoc]

theorem nodup_foldl_addText (distinct : set.Nodup) : (texts.foldl addText set).Nodup := by
  induction texts generalizing set with
  | nil => exact distinct
  | cons first rest ih => exact ih (nodup_addText distinct)

theorem mem_setOf : text ∈ setOf texts ↔ text ∈ texts := by
  rw [setOf, mem_foldl_addText, List.mem_nil_iff, false_or]

theorem prefix_joinPair : set <+: joinPair set pair := by
  rw [joinPair, addText]
  split_ifs
  · exact List.prefix_rfl
  · exact List.prefix_append _ _
  · exact List.prefix_rfl

theorem nodup_joinPair (distinct : set.Nodup) : (joinPair set pair).Nodup := by
  rw [joinPair]
  split_ifs
  · exact nodup_addText distinct
  · exact distinct

theorem mem_foldl_joinPair :
    text ∈ pairs.foldl joinPair set ↔
      text ∈ set ∨ ∃ pair ∈ pairs, pair.1.2 = pair.2.1 ∧
        text = edgeText (pair.1.1, pair.2.2) := by
  induction pairs generalizing set with
  | nil => simp
  | cons pair rest ih =>
    rw [List.foldl_cons, ih, mem_joinPair, List.exists_mem_cons_iff, or_assoc]

theorem prefix_foldl_joinPair : set <+: pairs.foldl joinPair set := by
  induction pairs generalizing set with
  | nil => exact List.prefix_rfl
  | cons pair rest ih => exact prefix_joinPair.trans ih

theorem nodup_foldl_joinPair (distinct : set.Nodup) : (pairs.foldl joinPair set).Nodup := by
  induction pairs generalizing set with
  | nil => exact distinct
  | cons pair rest ih => exact ih (nodup_joinPair distinct)

end Passes

/-! ### The closure of spaceless edges -/

/-- What every pass keeps: the texts are distinct and stand for paths along the edges,
among them the edges themselves. -/
structure Closing (edges : List (JsString × JsString)) (set : List JsString) : Prop where
  distinct : set.Nodup
  paths : ∀ {text}, text ∈ set → ∃ a b, Spaceless a ∧ Spaceless b ∧ text = edgeText (a, b) ∧
    Relation.TransGen (fun a b => (a, b) ∈ edges) a b
  edges : ∀ {edge}, edge ∈ edges → edgeText edge ∈ set

section Closure

variable {edges : List (JsString × JsString)}

variable {set : List JsString}

theorem mem_closurePass (closing : Closing edges set) {text : JsString} :
    text ∈ closurePass set ↔
      text ∈ set ∨ ∃ a x y, Spaceless a ∧ Spaceless x ∧ Spaceless y ∧
        edgeText (a, x) ∈ set ∧ edgeText (x, y) ∈ set ∧ text = edgeText (a, y) := by
  rw [closurePass, mem_foldl_joinPair]
  apply or_congr Iff.rfl
  constructor
  · rintro ⟨⟨first, second⟩, inProduct, meets, rfl⟩
    rcases List.mem_product.mp inProduct with ⟨inFirst, inSecond⟩
    rcases List.mem_map.mp inFirst with ⟨_, firstInSet, rfl⟩
    rcases List.mem_map.mp inSecond with ⟨_, secondInSet, rfl⟩
    rcases closing.paths firstInSet with ⟨a, x, source, middle, rfl, -⟩
    rcases closing.paths secondInSet with ⟨x2, y, middle', target, rfl, -⟩
    rw [edgeOfText_edgeText source middle, edgeOfText_edgeText middle' target] at meets ⊢
    obtain rfl : x = x2 := meets
    exact ⟨a, x, y, source, middle, target, firstInSet, secondInSet, rfl⟩
  · rintro ⟨a, x, y, source, middle, target, first, second, rfl⟩
    refine ⟨((a, x), (x, y)), List.mem_product.mpr ⟨?_, ?_⟩, rfl, rfl⟩
    · exact List.mem_map.mpr ⟨_, first, edgeOfText_edgeText source middle⟩
    · exact List.mem_map.mpr ⟨_, second, edgeOfText_edgeText middle target⟩

theorem Closing.closurePass (closing : Closing edges set) :
    Closing edges (closurePass set) where
  distinct := nodup_foldl_joinPair closing.distinct
  edges := fun inEdges => (mem_closurePass closing).mpr (Or.inl (closing.edges inEdges))
  paths := by
    intro text member
    rcases (mem_closurePass closing).mp member with
      old | ⟨a, x, y, source, middle, target, first, second, rfl⟩
    · exact closing.paths old
    · refine ⟨a, y, source, target, rfl, ?_⟩
      rcases closing.paths first with ⟨_, _, source', middle', spelled, path⟩
      cases edgeText_inj source middle source' middle' spelled
      rcases closing.paths second with ⟨_, _, middle'', target', spelled', path'⟩
      cases edgeText_inj middle target middle'' target' spelled'
      exact path.trans path'

theorem Closing.length_le (closing : Closing edges set) :
    set.length ≤ edges.length * edges.length := by
  have within : set ⊆ (edges.map Prod.fst ×ˢ edges.map Prod.snd).map edgeText := by
    intro text member
    rcases closing.paths member with ⟨a, b, -, -, rfl, path⟩
    rcases Relation.TransGen.head'_iff.mp path with ⟨_, first, -⟩
    rcases Relation.TransGen.tail'_iff.mp path with ⟨_, -, last⟩
    apply List.mem_map_of_mem
    exact List.mem_product.mpr ⟨List.mem_map_of_mem first, List.mem_map_of_mem last⟩
  have bounded := (closing.distinct.subperm within).length_le
  rwa [List.length_map, List.length_product, List.length_map, List.length_map] at bounded

theorem closePasses_stable {fuel : Nat} (closing : Closing edges set)
    (enough : edges.length * edges.length < fuel + set.length) :
    Closing edges (closePasses fuel set) ∧
      closurePass (closePasses fuel set) = closePasses fuel set := by
  induction fuel generalizing set with
  | zero =>
    have bounded := closing.length_le
    omega
  | succ fuel ih =>
    have grows : set <+: closurePass set := prefix_foldl_joinPair
    rw [closePasses]
    by_cases unchanged : (closurePass set).length = set.length
    · have same : closurePass set = set := (grows.eq_of_length unchanged.symm).symm
      simp only [same, beq_self_eq_true, if_true, and_true]
      exact closing
    · simp only [beq_eq_false_iff_ne.mpr unchanged, Bool.false_eq_true, if_false]
      apply ih closing.closurePass
      have atLeast := grows.length_le
      omega

theorem mem_transitiveClosure
    (spaceless : ∀ {a b}, (a, b) ∈ edges → Spaceless a ∧ Spaceless b) {a b : JsString} :
    (a, b) ∈ transitiveClosure edges ↔ Relation.TransGen (fun a b => (a, b) ∈ edges) a b := by
  have initial : Closing edges (setOf (edges.map edgeText)) := by
    refine ⟨nodup_foldl_addText List.nodup_nil, fun {text} member => ?_, fun {edge} inEdges => ?_⟩
    · rcases List.mem_map.mp (mem_setOf.mp member) with ⟨⟨a, b⟩, inEdges, rfl⟩
      have ends := spaceless inEdges
      exact ⟨a, b, ends.1, ends.2, rfl, Relation.TransGen.single inEdges⟩
    · exact mem_setOf.mpr (List.mem_map_of_mem inEdges)
  have enough : edges.length * edges.length <
      edges.length * edges.length + 1 + (setOf (edges.map edgeText)).length := by omega
  obtain ⟨closing, stable⟩ := closePasses_stable initial enough
  rw [transitiveClosure, List.mem_map]
  constructor
  · rintro ⟨text, member, read⟩
    rcases closing.paths member with ⟨a', b', source, target, rfl, path⟩
    rw [edgeOfText_edgeText source target] at read
    cases read
    exact path
  · intro path
    have ends : Spaceless a ∧ Spaceless b := by
      rcases Relation.TransGen.head'_iff.mp path with ⟨_, first, -⟩
      rcases Relation.TransGen.tail'_iff.mp path with ⟨_, -, last⟩
      exact ⟨(spaceless first).1, (spaceless last).2⟩
    refine ⟨edgeText (a, b), ?_, edgeOfText_edgeText ends.1 ends.2⟩
    induction path with
    | single step => exact closing.edges step
    | @tail middle last path step ih =>
      have middleNamed := (spaceless step).1
      have earlier := ih ⟨ends.1, middleNamed⟩
      rw [← stable, mem_closurePass closing]
      exact Or.inr ⟨a, middle, last, ends.1, middleNamed, ends.2, earlier,
        closing.edges step, rfl⟩

end Closure

end GhostArk.ResearchFrontier.Lobian
