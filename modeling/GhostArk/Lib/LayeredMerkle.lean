import GhostArk.Lib.MerkleInclusion
import Mathlib.Data.List.Nodup

/-!
Contract: hash trees that are built layer by layer, where the last digest of an
odd layer is paired with itself.

Owns the layers over a list of digests, the honest path of a digest, the descent
of a climb from the top to the first layer, and the injectivity of the top on
lists of distinct digests.

The node function is never assumed injective on all pairs: what is asked is that
the pairs of the two computations at hand do not collide, and that no digest of a
first layer is a node.
-/

namespace GhostArk.Lib.LayeredMerkle

open Lib.MerkleTree

universe u v

variable {D : Type u}

/-! ### Layers -/

/-- Neighbours, and the last digest with itself. -/
def pairsOf : List D → List (D × D)
  | [] => []
  | [last] => [(last, last)]
  | left :: right :: rest => (left, right) :: pairsOf rest

theorem length_pairsOf : ∀ layer : List D, (pairsOf layer).length = (layer.length + 1) / 2
  | [] => by simp [pairsOf]
  | [_] => by simp [pairsOf]
  | _ :: _ :: rest => by
    rw [pairsOf, List.length_cons, length_pairsOf rest, List.length_cons, List.length_cons]
    omega

theorem mem_of_mem_pairsOf : ∀ {layer : List D} {pair : D × D}, pair ∈ pairsOf layer →
    pair.1 ∈ layer ∧ pair.2 ∈ layer
  | [_], _, member => by
    rw [List.mem_singleton.mp member]
    exact ⟨List.mem_cons_self, List.mem_cons_self⟩
  | left :: right :: rest, pair, member => by
    rcases List.mem_cons.mp member with rfl | later
    · exact ⟨List.mem_cons_self, List.mem_cons_of_mem _ List.mem_cons_self⟩
    · have inRest := mem_of_mem_pairsOf later
      exact ⟨List.mem_cons_of_mem _ (List.mem_cons_of_mem _ inRest.1),
        List.mem_cons_of_mem _ (List.mem_cons_of_mem _ inRest.2)⟩

theorem sublist_pairsOf : ∀ layer : List D, ((pairsOf layer).map Prod.fst).Sublist layer
  | [] => .slnil
  | [_] => .refl _
  | _ :: _ :: rest => ((sublist_pairsOf rest).cons _).cons_cons _

theorem nodup_pairsOf {layer : List D} (distinct : layer.Nodup) : (pairsOf layer).Nodup :=
  List.Nodup.of_map Prod.fst (distinct.sublist (sublist_pairsOf layer))

theorem pairsOf_injective : ∀ {left right : List D}, left.Nodup → right.Nodup →
    pairsOf left = pairsOf right → left = right
  | [], [], _, _, _ => rfl
  | [], [_], _, _, same => by cases same
  | [], _ :: _ :: _, _, _, same => by cases same
  | [_], [], _, _, same => by cases same
  | _ :: _ :: _, [], _, _, same => by cases same
  | [first], [second], _, _, same => by
    rw [(Prod.mk.inj (List.cons.inj same).1).1]
  | [first], second :: third :: _, _, rightDistinct, same => by
    have isPair := Prod.mk.inj (List.cons.inj same).1
    rw [← isPair.1, ← isPair.2] at rightDistinct
    exact absurd List.mem_cons_self (List.nodup_cons.mp rightDistinct).1
  | first :: second :: _, [third], leftDistinct, _, same => by
    have isPair := Prod.mk.inj (List.cons.inj same).1
    rw [isPair.1, isPair.2] at leftDistinct
    exact absurd List.mem_cons_self (List.nodup_cons.mp leftDistinct).1
  | first :: second :: rest, third :: fourth :: others, leftDistinct, rightDistinct, same => by
    have isPair := Prod.mk.inj (List.cons.inj same).1
    rw [List.nodup_cons, List.nodup_cons] at leftDistinct rightDistinct
    rw [isPair.1, isPair.2, pairsOf_injective leftDistinct.2.2 rightDistinct.2.2
      (List.cons.inj same).2]

theorem eq_of_map_eq {A : Type u} {B : Type v} {image : A → B} {left right : List A}
    (injective : ∀ first ∈ left, ∀ second ∈ right, image first = image second → first = second)
    (same : left.map image = right.map image) : left = right := by
  induction left generalizing right with
  | nil => exact (List.map_eq_nil_iff.mp same.symm).symm
  | cons first rest ih =>
    cases right with
    | nil => cases same
    | cons second others =>
      rw [List.map_cons, List.map_cons, List.cons.injEq] at same
      rw [injective first List.mem_cons_self second List.mem_cons_self same.1,
        ih (fun inner member other isOther =>
          injective inner (List.mem_cons_of_mem _ member) other
            (List.mem_cons_of_mem _ isOther)) same.2]

section Node

variable (node : D → D → D)

def nextLayer (layer : List D) : List D := (pairsOf layer).map (Function.uncurry node)

/-- Each layer is half as long, rounded up. -/
theorem length_nextLayer (layer : List D) :
    (nextLayer node layer).length = (layer.length + 1) / 2 := by
  rw [nextLayer, List.length_map, length_pairsOf]

/-- The last of the layers. `fuel` bounds their number; the length of the list suffices. -/
def topLayer : Nat → List D → List D
  | 0, layer => layer
  | fuel + 1, layer => if 1 < layer.length then topLayer fuel (nextLayer node layer) else layer

def hashedPairs : Nat → List D → List (D × D)
  | 0, _ => []
  | fuel + 1, layer =>
    if 1 < layer.length then pairsOf layer ++ hashedPairs fuel (nextLayer node layer) else []

variable {fuel : Nat} {layer : List D}

theorem exists_topLayer (nonempty : layer ≠ []) (enough : layer.length ≤ fuel + 1) :
    ∃ top, topLayer node fuel layer = [top] := by
  induction fuel generalizing layer with
  | zero =>
    have single : layer.length = 1 := by
      have positive := List.length_pos_iff.mpr nonempty
      omega
    rcases List.length_eq_one_iff.mp single with ⟨top, rfl⟩
    exact ⟨top, rfl⟩
  | succ fuel ih =>
    have positive := List.length_pos_iff.mpr nonempty
    by_cases many : 1 < layer.length
    · rw [topLayer, if_pos many]
      have halved := length_nextLayer node layer
      refine ih (List.length_pos_iff.mp (by omega)) (by omega)
    · have single : layer.length = 1 := by omega
      rcases List.length_eq_one_iff.mp single with ⟨top, rfl⟩
      exact ⟨top, rfl⟩

theorem valid_hashedPairs (Valid : D → Prop) (closed : ∀ left right, Valid (node left right))
    (valid : ∀ digest ∈ layer, Valid digest) :
    ∀ pair ∈ hashedPairs node fuel layer, Valid pair.1 ∧ Valid pair.2 := by
  induction fuel generalizing layer with
  | zero => simp [hashedPairs]
  | succ fuel ih =>
    intro pair member
    rw [hashedPairs] at member
    split at member
    next =>
      rcases List.mem_append.mp member with here | above
      · have inLayer := mem_of_mem_pairsOf here
        exact ⟨valid _ inLayer.1, valid _ inLayer.2⟩
      · refine ih ?_ pair above
        intro digest inNext
        rcases List.mem_map.mp inNext with ⟨below, -, rfl⟩
        exact closed below.1 below.2
    next => cases member

/-- With unchecked siblings, one half of every pair of a climb keeps an invariant of node
digests. -/
theorem valid_climbNodes_or (Valid : D → Prop) (closed : ∀ left right, Valid (node left right))
    {start : D} (startValid : Valid start) (steps : List (Side × D)) :
    ∀ pair ∈ climbNodes node start steps, Valid pair.1 ∨ Valid pair.2 := by
  induction steps generalizing start with
  | nil => simp [climbNodes]
  | cons step rest ih =>
    rw [climbNodes, List.forall_mem_cons]
    refine ⟨?_, ih (closed _ _)⟩
    unfold climbPair
    cases step.1 with
    | left => exact Or.inr startValid
    | right => exact Or.inl startValid

theorem exists_climb_mem {start : D} {steps : List (Side × D)}
    (collisionFree : ∀ pair ∈ hashedPairs node fuel layer, ∀ other ∈ climbNodes node start steps,
      Function.uncurry node pair = Function.uncurry node other → pair = other)
    (notNode : ∀ pair ∈ hashedPairs node fuel layer, Function.uncurry node pair ≠ start)
    (reached : climb node start steps ∈ topLayer node fuel layer) :
    ∃ before after, steps = before ++ after ∧ climb node start before ∈ layer := by
  induction fuel generalizing layer with
  | zero => exact ⟨steps, [], (List.append_nil steps).symm, reached⟩
  | succ fuel ih =>
    by_cases many : 1 < layer.length
    · rw [hashedPairs, if_pos many] at collisionFree notNode
      rw [topLayer, if_pos many] at reached
      rcases ih
        (fun pair member => collisionFree pair (List.mem_append_right _ member))
        (fun pair member => notNode pair (List.mem_append_right _ member)) reached with
        ⟨before, after, isSplit, inNext⟩
      rcases List.mem_map.mp inNext with ⟨pair, isPair, isClimb⟩
      have inHashed := List.mem_append_left (hashedPairs node fuel (nextLayer node layer)) isPair
      rcases List.eq_nil_or_concat before with rfl | ⟨init, last, rfl⟩
      · exact absurd isClimb (notNode pair inHashed)
      · rw [List.concat_eq_append] at isSplit isClimb
        rw [climb_concat] at isClimb
        have isStep : climbPair (climb node start init) last ∈ climbNodes node start steps := by
          rw [isSplit]
          exact climbPair_mem_climbNodes node start init after last
        have same := collisionFree pair inHashed _ isStep isClimb
        have inLayer := mem_of_mem_pairsOf isPair
        refine ⟨init, last :: after, by rw [isSplit]; simp, ?_⟩
        rw [same] at inLayer
        unfold climbPair at inLayer
        cases isSide : last.1 with
        | left =>
          rw [isSide] at inLayer
          exact inLayer.2
        | right =>
          rw [isSide] at inLayer
          exact inLayer.1
    · rw [topLayer, if_neg many] at reached
      exact ⟨steps, [], (List.append_nil steps).symm, reached⟩

/-- **Soundness.** Where no digest of the first layer is a node of the climb, what climbs to the
last layer is in the first one. -/
theorem mem_of_climb {start : D} {steps : List (Side × D)}
    (collisionFree : ∀ pair ∈ hashedPairs node fuel layer, ∀ other ∈ climbNodes node start steps,
      Function.uncurry node pair = Function.uncurry node other → pair = other)
    (notNode : ∀ pair ∈ hashedPairs node fuel layer, Function.uncurry node pair ≠ start)
    (notClimbed : ∀ pair ∈ climbNodes node start steps, Function.uncurry node pair ∉ layer)
    (reached : climb node start steps ∈ topLayer node fuel layer) : start ∈ layer := by
  rcases exists_climb_mem node collisionFree notNode reached with ⟨before, after, rfl, inLayer⟩
  rcases List.eq_nil_or_concat before with rfl | ⟨init, last, rfl⟩
  · exact inLayer
  · rw [List.concat_eq_append] at inLayer notClimbed
    rw [climb_concat] at inLayer
    exact absurd inLayer (notClimbed _ (climbPair_mem_climbNodes node start init after last))

/-- The sibling of the digest at `index`: its neighbour, or itself at the end of an odd layer. -/
def siblingStep (layer : List D) (index : Nat) (digest : D) : Side × D :=
  if index % 2 = 0 then (.right, (layer[index + 1]?).getD digest)
  else (.left, (layer[index - 1]?).getD digest)

def honestPath : Nat → List D → Nat → D → List (Side × D)
  | 0, _, _, _ => []
  | fuel + 1, layer, index, digest =>
    if 1 < layer.length then
      siblingStep layer index digest ::
        honestPath fuel (nextLayer node layer) (index / 2)
          (Function.uncurry node (climbPair digest (siblingStep layer index digest)))
    else []

theorem getElem?_nextLayer : ∀ {layer : List D} {index : Nat} {digest : D},
    layer[index]? = some digest →
      (nextLayer node layer)[index / 2]? =
        some (Function.uncurry node (climbPair digest (siblingStep layer index digest)))
  | [last], 0, _, atIndex => by
    cases atIndex
    rfl
  | left :: right :: rest, 0, _, atIndex => by
    cases atIndex
    rfl
  | left :: right :: rest, 1, _, atIndex => by
    cases atIndex
    rfl
  | left :: right :: rest, index + 2, digest, atIndex => by
    have later := @getElem?_nextLayer rest index digest atIndex
    have sameStep : siblingStep (left :: right :: rest) (index + 2) digest =
        siblingStep rest index digest := by
      unfold siblingStep
      rw [Nat.add_mod_right]
      split
      next => rfl
      next odd =>
        have positive : 0 < index := by omega
        have isShift : index + 2 - 1 = (index - 1) + 2 := by omega
        rw [isShift]
        rfl
    rw [sameStep, Nat.add_div_right _ (by decide)]
    exact later

private theorem eq_singleton {index : Nat} {digest : D} (atIndex : layer[index]? = some digest)
    (few : ¬ 1 < layer.length) : layer = [digest] := by
  rcases List.getElem?_eq_some_iff.mp atIndex with ⟨below, isDigest⟩
  rcases List.length_eq_one_iff.mp (show layer.length = 1 by omega) with ⟨top, rfl⟩
  have isFirst : index = 0 := by
    rw [List.length_singleton] at below
    omega
  subst isFirst
  rw [← isDigest]
  rfl

/-- **Completeness.** The honest path of a digest climbs to the last layer. -/
theorem climb_honestPath {index : Nat} {digest : D} (atIndex : layer[index]? = some digest)
    (enough : layer.length ≤ fuel + 1) :
    topLayer node fuel layer = [climb node digest (honestPath node fuel layer index digest)] := by
  induction fuel generalizing layer index digest with
  | zero => exact eq_singleton atIndex (not_lt.mpr enough)
  | succ fuel ih =>
    by_cases many : 1 < layer.length
    · have halved := length_nextLayer node layer
      rw [topLayer, if_pos many, honestPath, if_pos many]
      exact ih (getElem?_nextLayer node atIndex) (by omega)
    · rw [topLayer, if_neg many, honestPath, if_neg many]
      exact eq_singleton atIndex many

/-! ### Injectivity -/

inductive LayerOf (first : List D) : List D → Prop
  | first : LayerOf first first
  | next {layer : List D} : LayerOf first layer → 1 < layer.length →
      LayerOf first (nextLayer node layer)

variable {node}

theorem LayerOf.above {first layer : List D} (many : 1 < first.length)
    (isLayer : LayerOf node (nextLayer node first) layer) : LayerOf node first layer := by
  induction isLayer with
  | first => exact .next .first many
  | next _ more ih => exact .next ih more

theorem layerOf_topLayer (fuel : Nat) (first : List D) :
    LayerOf node first (topLayer node fuel first) := by
  induction fuel generalizing first with
  | zero => exact .first
  | succ fuel ih =>
    rw [topLayer]
    split
    next many => exact (ih _).above many
    next => exact .first

theorem LayerOf.last {first layer : List D} (isLayer : LayerOf node first layer) :
    layer = first ∨ ∃ previous, LayerOf node first previous ∧ 1 < previous.length ∧
      layer = nextLayer node previous := by
  cases isLayer with
  | first => exact Or.inl rfl
  | next isPrevious many => exact Or.inr ⟨_, isPrevious, many, rfl⟩

theorem LayerOf.split {first layer : List D} (isLayer : LayerOf node first layer) :
    layer = first ∨ 1 < first.length ∧ LayerOf node (nextLayer node first) layer := by
  induction isLayer with
  | first => exact Or.inl rfl
  | next _ more ih =>
    rcases ih with rfl | ⟨many, isAbove⟩
    · exact Or.inr ⟨more, .first⟩
    · exact Or.inr ⟨many, .next isAbove more⟩

theorem LayerOf.pairs_subset {first layer : List D} (isLayer : LayerOf node first layer)
    (enough : first.length ≤ fuel + 1) (many : 1 < layer.length) :
    ∀ pair ∈ pairsOf layer, pair ∈ hashedPairs node fuel first := by
  induction fuel generalizing first with
  | zero =>
    rcases isLayer.split with rfl | ⟨more, -⟩
    · omega
    · omega
  | succ fuel ih =>
    intro pair member
    rw [hashedPairs]
    rcases isLayer.split with rfl | ⟨more, isAbove⟩
    · rw [if_pos many]
      exact List.mem_append_left _ member
    · have halved := length_nextLayer node first
      rw [if_pos more]
      exact List.mem_append_right _ (ih isAbove (by omega) pair member)

theorem LayerOf.nodup {first layer : List D} (isLayer : LayerOf node first layer)
    (enough : first.length ≤ fuel + 1) (distinct : first.Nodup)
    (collisionFree : ∀ pair ∈ hashedPairs node fuel first, ∀ other ∈ hashedPairs node fuel first,
      Function.uncurry node pair = Function.uncurry node other → pair = other) : layer.Nodup := by
  induction isLayer with
  | first => exact distinct
  | next isPrevious many ih =>
    refine List.Nodup.map_on ?_ (nodup_pairsOf ih)
    intro pair member other isOther
    exact collisionFree pair (isPrevious.pairs_subset enough many pair member) other
      (isPrevious.pairs_subset enough many other isOther)

theorem nextLayer_injective {left right : List D} (leftDistinct : left.Nodup)
    (rightDistinct : right.Nodup)
    (collisionFree : ∀ pair ∈ pairsOf left, ∀ other ∈ pairsOf right,
      Function.uncurry node pair = Function.uncurry node other → pair = other)
    (same : nextLayer node left = nextLayer node right) : left = right := by
  apply pairsOf_injective leftDistinct rightDistinct
  exact eq_of_map_eq collisionFree same

theorem LayerOf.eq_first {first layer : List D} (isLayer : LayerOf node first layer)
    (enough : first.length ≤ fuel + 1)
    (notNode : ∀ pair ∈ hashedPairs node fuel first, Function.uncurry node pair ∉ layer) :
    layer = first := by
  rcases isLayer.last with isFirst | ⟨previous, isPrevious, many, rfl⟩
  · exact isFirst
  · have someNode : pairsOf previous ≠ [] := by
      rw [ne_eq, ← List.length_eq_zero_iff, length_pairsOf]
      omega
    rcases List.exists_mem_of_ne_nil _ someNode with ⟨pair, member⟩
    exact absurd (List.mem_map_of_mem member)
      (notNode pair (isPrevious.pairs_subset enough many pair member))

section Injectivity

variable {fuel otherFuel : Nat} {first second : List D}
  (firstDistinct : first.Nodup) (secondDistinct : second.Nodup)
  (enough : first.length ≤ fuel + 1) (otherEnough : second.length ≤ otherFuel + 1)
  (collisionFree : ∀ pair ∈ hashedPairs node fuel first ++ hashedPairs node otherFuel second,
    ∀ other ∈ hashedPairs node fuel first ++ hashedPairs node otherFuel second,
      Function.uncurry node pair = Function.uncurry node other → pair = other)
include firstDistinct secondDistinct enough otherEnough collisionFree

theorem layerOf_or_layerOf
    (sameTop : topLayer node fuel first = topLayer node otherFuel second) :
    LayerOf node first second ∨ LayerOf node second first := by
  induction fuel generalizing first with
  | zero =>
    have isTop : first = topLayer node otherFuel second := sameTop
    exact Or.inr (isTop ▸ layerOf_topLayer otherFuel second)
  | succ fuel ih =>
    by_cases many : 1 < first.length
    · have halved := length_nextLayer node first
      have ofFirst : ∀ pair ∈ pairsOf first, pair ∈ hashedPairs node (fuel + 1) first :=
        LayerOf.first.pairs_subset enough many
      have nextDistinct : (nextLayer node first).Nodup := by
        refine (LayerOf.next .first many).nodup enough firstDistinct ?_
        exact fun pair member other isOther =>
          collisionFree pair (List.mem_append_left _ member) other
            (List.mem_append_left _ isOther)
      have weaken : ∀ pair ∈ hashedPairs node fuel (nextLayer node first) ++
          hashedPairs node otherFuel second,
          pair ∈ hashedPairs node (fuel + 1) first ++ hashedPairs node otherFuel second := by
        intro pair member
        rw [hashedPairs, if_pos many, List.append_assoc]
        exact List.mem_append_right _ member
      rw [topLayer, if_pos many] at sameTop
      rcases ih nextDistinct (by omega)
        (fun pair member other isOther => collisionFree pair (weaken pair member) other
          (weaken other isOther)) sameTop with above | isLayer
      · exact Or.inl (above.above many)
      · rcases isLayer.last with isSecond | ⟨previous, isPrevious, more, sameNext⟩
        · exact Or.inl (isSecond ▸ .next .first many)
        · have previousDistinct : previous.Nodup := by
            refine isPrevious.nodup otherEnough secondDistinct ?_
            exact fun pair member other isOther =>
              collisionFree pair (List.mem_append_right _ member) other
                (List.mem_append_right _ isOther)
          have sameLayer : first = previous := by
            refine nextLayer_injective firstDistinct previousDistinct ?_ sameNext
            intro pair member other isOther
            exact collisionFree pair (List.mem_append_left _ (ofFirst pair member)) other
              (List.mem_append_right _ (isPrevious.pairs_subset otherEnough more other isOther))
          exact Or.inr (sameLayer ▸ isPrevious)
    · rw [topLayer, if_neg many] at sameTop
      exact Or.inr (sameTop ▸ layerOf_topLayer otherFuel second)

/-- **Injectivity.** Lists of distinct digests with one last layer are equal, where no digest of
the one list is a node over the other. -/
theorem eq_of_topLayer_eq
    (notNode : ∀ pair ∈ hashedPairs node fuel first, Function.uncurry node pair ∉ second)
    (otherNotNode : ∀ pair ∈ hashedPairs node otherFuel second,
      Function.uncurry node pair ∉ first)
    (sameTop : topLayer node fuel first = topLayer node otherFuel second) : first = second := by
  rcases layerOf_or_layerOf firstDistinct secondDistinct enough otherEnough collisionFree sameTop with
    isLayer | isLayer
  · exact (isLayer.eq_first enough notNode).symm
  · exact isLayer.eq_first otherEnough otherNotNode

end Injectivity

end Node

end GhostArk.Lib.LayeredMerkle
