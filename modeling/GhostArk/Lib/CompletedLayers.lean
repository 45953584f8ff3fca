import GhostArk.Lib.LayeredMerkle

/-!
Contract: which lists of digests a layered hash tree cannot tell apart.

Owns the completion of a list: the digests that its layers take in, with the
repetitions at the end of odd layers written out. Lists share a top exactly when
one of them is, up to completion, a layer over the other.

Lists of one length have one completion only when they are equal, so the top
tells them apart. Nothing is asked of the digests, which may repeat and may be nodes.
-/

namespace GhostArk.Lib.LayeredMerkle

universe u v

variable {D : Type u}

def spread (pairs : List (D × D)) : List D := pairs.flatMap fun pair => [pair.1, pair.2]

theorem spread_cons (pair : D × D) (rest : List (D × D)) :
    spread (pair :: rest) = pair.1 :: pair.2 :: spread rest := rfl

theorem length_spread (pairs : List (D × D)) : (spread pairs).length = 2 * pairs.length := by
  induction pairs with
  | nil => rfl
  | cons pair rest ih =>
    rw [spread_cons, List.length_cons, List.length_cons, ih, List.length_cons]
    omega

theorem spread_injective {left right : List (D × D)} (same : spread left = spread right) :
    left = right := by
  induction left generalizing right with
  | nil =>
    have isEmpty := congrArg List.length same
    rw [length_spread, length_spread, List.length_nil] at isEmpty
    exact (List.length_eq_zero_iff.mp (by omega)).symm
  | cons pair rest ih =>
    cases right with
    | nil => cases same
    | cons other others =>
      rw [spread_cons, spread_cons, List.cons.injEq, List.cons.injEq] at same
      rw [Prod.ext same.1 same.2.1, ih same.2.2]

theorem spread_map {E : Type v} (image : D → E) (pairs : List (D × D)) :
    spread (pairs.map (Prod.map image image)) = (spread pairs).map image := by
  induction pairs with
  | nil => rfl
  | cons pair rest ih =>
    rw [List.map_cons, spread_cons, spread_cons, ih]
    rfl

theorem pairsOf_map {E : Type v} (image : D → E) : ∀ layer : List D,
    pairsOf (layer.map image) = (pairsOf layer).map (Prod.map image image)
  | [] => rfl
  | [_] => rfl
  | _ :: _ :: rest => by
    rw [List.map_cons, List.map_cons, pairsOf, pairsOf, pairsOf_map image rest]
    rfl

theorem pairsOf_repeated_last (last : D) : ∀ {before : List D}, before.length % 2 = 0 →
    pairsOf (before ++ [last, last]) = pairsOf (before ++ [last])
  | [], _ => rfl
  | [_], even => absurd even (by decide : ¬ 1 % 2 = 0)
  | left :: right :: rest, even => by
    have restEven : rest.length % 2 = 0 := by
      rw [List.length_cons, List.length_cons] at even
      omega
    simp only [List.cons_append, pairsOf, pairsOf_repeated_last last restEven]

theorem prefix_spread_pairsOf : ∀ layer : List D, layer <+: spread (pairsOf layer)
  | [] => List.prefix_rfl
  | [last] => ⟨[last], rfl⟩
  | left :: right :: rest => by
    rw [pairsOf, spread_cons]
    exact List.cons_prefix_cons.mpr ⟨rfl, List.cons_prefix_cons.mpr
      ⟨rfl, prefix_spread_pairsOf rest⟩⟩

theorem spread_mono {left right : List (D × D)} (isPrefix : left <+: right) :
    spread left <+: spread right := by
  rcases isPrefix with ⟨after, rfl⟩
  exact ⟨spread after, List.flatMap_append.symm⟩

/-! ### Completion -/

/-- The list with its repetitions written out. `fuel` bounds the layers over it; the length of the
list suffices. -/
def complete : Nat → {D : Type u} → List D → List D
  | 0, _, layer => layer
  | fuel + 1, _, layer =>
    if 1 < layer.length then spread (complete fuel (pairsOf layer)) else layer

def completed (layer : List D) : List D := complete layer.length layer

variable {layer : List D}

theorem complete_eq (fuel other : Nat) (enough : layer.length ≤ fuel + 1)
    (otherEnough : layer.length ≤ other + 1) : complete fuel layer = complete other layer := by
  induction fuel generalizing D other with
  | zero =>
    cases other with
    | zero => rfl
    | succ other => rw [complete, complete, if_neg (not_lt.mpr enough)]
  | succ fuel ih =>
    cases other with
    | zero => rw [complete, complete, if_neg (not_lt.mpr otherEnough)]
    | succ other =>
      have halved := length_pairsOf layer
      rw [complete, complete]
      split
      next many => rw [ih other (by omega) (by omega)]
      next => rfl

theorem completed_of_many (many : 1 < layer.length) :
    completed layer = spread (completed (pairsOf layer)) := by
  have halved := length_pairsOf layer
  rw [completed, completed, complete_eq layer.length (layer.length + 1) (by omega) (by omega),
    complete, if_pos many, complete_eq layer.length (pairsOf layer).length (by omega) (by omega)]

theorem completed_of_few (few : ¬ 1 < layer.length) : completed layer = layer := by
  rw [completed, complete_eq layer.length 0 (by omega) (by omega), complete]

theorem completed_repeated_last {before : List D} (last : D) (nonempty : before ≠ [])
    (even : before.length % 2 = 0) :
    completed (before ++ [last, last]) = completed (before ++ [last]) := by
  have positive := List.length_pos_iff.mpr nonempty
  have many : 1 < (before ++ [last, last]).length := by simp
  have oddMany : 1 < (before ++ [last]).length := by simpa using positive
  rw [completed_of_many many, completed_of_many oddMany, pairsOf_repeated_last last even]

theorem map_complete {E : Type u} (image : D → E) (fuel : Nat) (layer : List D) :
    complete fuel (layer.map image) = (complete fuel layer).map image := by
  induction fuel generalizing D E with
  | zero => rfl
  | succ fuel ih =>
    rw [complete, complete, List.length_map]
    split
    next => rw [pairsOf_map, ih, spread_map]
    next => rfl

theorem mem_of_mem_complete {fuel : Nat} {digest : D} (member : digest ∈ complete fuel layer) :
    digest ∈ layer := by
  induction fuel generalizing D with
  | zero => exact member
  | succ fuel ih =>
    rw [complete] at member
    split at member
    next =>
      rcases List.mem_flatMap.mp member with ⟨pair, isPair, isHalf⟩
      have inLayer := mem_of_mem_pairsOf (ih isPair)
      rcases List.mem_cons.mp isHalf with rfl | isSecond
      · exact inLayer.1
      · rw [List.mem_singleton.mp isSecond]
        exact inLayer.2
    next => exact member

theorem prefix_complete (fuel : Nat) (layer : List D) : layer <+: complete fuel layer := by
  induction fuel generalizing D with
  | zero => exact List.prefix_rfl
  | succ fuel ih =>
    rw [complete]
    split
    next => exact (prefix_spread_pairsOf layer).trans (spread_mono (ih _))
    next => exact List.prefix_rfl

theorem eq_of_completed_eq {first second : List D} (sameLength : first.length = second.length)
    (same : completed first = completed second) : first = second := by
  have isPrefix : first <+: completed second := same ▸ prefix_complete first.length first
  exact (List.prefix_of_prefix_length_le isPrefix (prefix_complete second.length second)
    sameLength.le).eq_of_length sameLength

theorem many_iff_of_completed_eq {first second : List D}
    (same : completed first = completed second) : 1 < first.length ↔ 1 < second.length := by
  have grows : ∀ {left right : List D}, completed left = completed right → 1 < left.length →
      1 < right.length := by
    intro left right isSame many
    by_contra few
    have isPrefix := (prefix_complete left.length left).length_le
    change left.length ≤ (completed left).length at isPrefix
    rw [isSame, completed_of_few few] at isPrefix
    omega
  exact ⟨grows same, grows same.symm⟩

section Node

variable {node : D → D → D}

theorem completed_nextLayer (layer : List D) :
    completed (nextLayer node layer) =
      (completed (pairsOf layer)).map (Function.uncurry node) := by
  rw [completed, nextLayer, map_complete, List.length_map, completed]

theorem topLayer_eq (fuel other : Nat) {layer : List D} (enough : layer.length ≤ fuel + 1)
    (otherEnough : layer.length ≤ other + 1) :
    topLayer node fuel layer = topLayer node other layer := by
  induction fuel generalizing other layer with
  | zero =>
    cases other with
    | zero => rfl
    | succ other => rw [topLayer, topLayer, if_neg (not_lt.mpr enough)]
  | succ fuel ih =>
    cases other with
    | zero => rw [topLayer, topLayer, if_neg (not_lt.mpr otherEnough)]
    | succ other =>
      have halved := length_nextLayer node layer
      rw [topLayer, topLayer]
      split
      next many => exact ih other (by omega) (by omega)
      next => rfl

theorem LayerOf.topLayer_eq {fuel : Nat} {first layer : List D}
    (isLayer : LayerOf node first layer) (other : Nat) (enough : first.length ≤ fuel + 1)
    (otherEnough : layer.length ≤ other + 1) :
    topLayer node fuel first = topLayer node other layer := by
  induction isLayer generalizing other with
  | first => exact LayeredMerkle.topLayer_eq fuel other enough otherEnough
  | @next previous _ many ih =>
    have halved := length_nextLayer node previous
    rw [ih (previous.length + 1) (by omega), topLayer, if_pos many]
    exact LayeredMerkle.topLayer_eq previous.length other (by omega) otherEnough

/-! ### Lists with one top -/

theorem topLayer_eq_of_completed_eq {fuel other : Nat} {first second : List D}
    (enough : first.length ≤ fuel + 1) (otherEnough : second.length ≤ other + 1)
    (same : completed first = completed second) :
    topLayer node fuel first = topLayer node other second := by
  induction fuel generalizing other first second with
  | zero =>
    have few := not_lt.mpr enough
    have otherFew := mt (many_iff_of_completed_eq same).mpr few
    rw [completed_of_few few, completed_of_few otherFew] at same
    rw [same]
    exact LayeredMerkle.topLayer_eq 0 other (by omega) otherEnough
  | succ fuel ih =>
    have bothMany := many_iff_of_completed_eq same
    by_cases many : 1 < first.length
    · have halved := length_nextLayer node first
      have otherHalved := length_nextLayer node second
      have otherMany := bothMany.mp many
      rw [completed_of_many many, completed_of_many otherMany] at same
      have samePairs := spread_injective same
      have sameNext : completed (nextLayer node first) = completed (nextLayer node second) := by
        rw [completed_nextLayer, completed_nextLayer, samePairs]
      have isAbove : LayerOf node second (nextLayer node second) := .next .first otherMany
      rw [topLayer, if_pos many, isAbove.topLayer_eq second.length otherEnough (by omega)]
      exact ih (by omega) (by omega) sameNext
    · rw [completed_of_few many, completed_of_few (mt bothMany.mpr many)] at same
      rw [same]
      exact LayeredMerkle.topLayer_eq (fuel + 1) other (same ▸ enough) otherEnough

/-- Lists whose next layers have one completion have one completion themselves, where their pairs
do not collide. -/
theorem completed_eq_of_nextLayer {first second : List D} (many : 1 < first.length)
    (otherMany : 1 < second.length)
    (collisionFree : ∀ pair ∈ pairsOf first, ∀ other ∈ pairsOf second,
      Function.uncurry node pair = Function.uncurry node other → pair = other)
    (same : completed (nextLayer node first) = completed (nextLayer node second)) :
    completed first = completed second := by
  rw [completed_nextLayer, completed_nextLayer] at same
  rw [completed_of_many many, completed_of_many otherMany]
  congr 1
  refine eq_of_map_eq ?_ same
  intro pair member other isOther
  exact collisionFree pair (mem_of_mem_complete member) other (mem_of_mem_complete isOther)

/-- Some layer over the first list is the second one, up to completion. -/
def Covers (node : D → D → D) (first second : List D) : Prop :=
  ∃ layer, LayerOf node first layer ∧ completed layer = completed second

theorem Covers.topLayer_eq {fuel other : Nat} {first second : List D}
    (covers : Covers node first second) (enough : first.length ≤ fuel + 1)
    (otherEnough : second.length ≤ other + 1) :
    topLayer node fuel first = topLayer node other second := by
  rcases covers with ⟨layer, isLayer, same⟩
  rw [isLayer.topLayer_eq layer.length enough (by omega)]
  exact topLayer_eq_of_completed_eq (by omega) otherEnough same

theorem covers_or_covers {fuel other : Nat} {first second : List D}
    (enough : first.length ≤ fuel + 1) (otherEnough : second.length ≤ other + 1)
    (collisionFree : ∀ pair ∈ hashedPairs node fuel first, ∀ below ∈ hashedPairs node other second,
      Function.uncurry node pair = Function.uncurry node below → pair = below)
    (sameTop : topLayer node fuel first = topLayer node other second) :
    Covers node first second ∨ Covers node second first := by
  induction fuel generalizing first with
  | zero =>
    refine Or.inr ⟨first, ?_, rfl⟩
    have isTop : first = topLayer node other second := sameTop
    exact isTop ▸ layerOf_topLayer other second
  | succ fuel ih =>
    by_cases many : 1 < first.length
    · have halved := length_nextLayer node first
      have ofFirst := (LayerOf.first : LayerOf node first first).pairs_subset enough many
      rw [topLayer, if_pos many] at sameTop
      rw [hashedPairs, if_pos many] at collisionFree
      rcases ih (by omega)
        (fun pair member => collisionFree pair (List.mem_append_right _ member)) sameTop with
        ⟨layer, isLayer, same⟩ | ⟨layer, isLayer, same⟩
      · exact Or.inl ⟨layer, isLayer.above many, same⟩
      · rcases isLayer.last with rfl | ⟨previous, isPrevious, more, rfl⟩
        · exact Or.inl ⟨nextLayer node first, .next .first many, same.symm⟩
        · refine Or.inr ⟨previous, isPrevious, ?_⟩
          refine (completed_eq_of_nextLayer many more ?_ same.symm).symm
          intro pair member below isBelow
          exact collisionFree pair (List.mem_append_left _ member) below
            (isPrevious.pairs_subset otherEnough more below isBelow)
    · rw [topLayer, if_neg many] at sameTop
      exact Or.inr ⟨first, sameTop ▸ layerOf_topLayer other second, rfl⟩

/-- **Characterisation.** Two lists have one top exactly when one covers the other. -/
theorem topLayer_eq_iff {fuel other : Nat} {first second : List D}
    (enough : first.length ≤ fuel + 1) (otherEnough : second.length ≤ other + 1)
    (collisionFree : ∀ pair ∈ hashedPairs node fuel first, ∀ below ∈ hashedPairs node other second,
      Function.uncurry node pair = Function.uncurry node below → pair = below) :
    topLayer node fuel first = topLayer node other second ↔
      Covers node first second ∨ Covers node second first := by
  constructor
  · exact covers_or_covers enough otherEnough collisionFree
  · rintro (covers | covers)
    · exact covers.topLayer_eq enough otherEnough
    · exact (covers.topLayer_eq otherEnough enough).symm

theorem LayerOf.length_completed {first layer : List D} (isLayer : LayerOf node first layer) :
    layer = first ∨ (completed layer).length < (completed first).length := by
  induction isLayer with
  | first => exact Or.inl rfl
  | @next previous _ many ih =>
    have nonempty : 0 < (completed (pairsOf previous)).length := by
      have appended := (prefix_complete (pairsOf previous).length (pairsOf previous)).length_le
      have halved := length_pairsOf previous
      change (pairsOf previous).length ≤ (completed (pairsOf previous)).length at appended
      omega
    have shorter : (completed (nextLayer node previous)).length <
        (completed previous).length := by
      rw [completed_nextLayer, List.length_map, completed_of_many many, length_spread]
      omega
    rcases ih with rfl | below
    · exact Or.inr shorter
    · exact Or.inr (shorter.trans below)

theorem length_completed_congr {first : List D} {E : Type u} {second : List E}
    (sameLength : first.length = second.length) :
    (completed first).length = (completed second).length := by
  have counted : ∀ {F : Type u} (layer : List F),
      (completed layer).length = (completed (List.replicate layer.length PUnit.unit)).length := by
    intro F layer
    have isConst : List.replicate layer.length PUnit.unit = layer.map fun _ => PUnit.unit :=
      List.map_const'.symm
    rw [isConst, completed, completed, map_complete, List.length_map, List.length_map]
  rw [counted first, counted second, sameLength]

theorem Covers.eq_of_length {first second : List D} (covers : Covers node first second)
    (sameLength : first.length = second.length) : first = second := by
  rcases covers with ⟨layer, isLayer, same⟩
  rcases isLayer.length_completed with rfl | shorter
  · exact eq_of_completed_eq sameLength same
  · have counted := length_completed_congr sameLength
    rw [same] at shorter
    omega

end Node

end GhostArk.Lib.LayeredMerkle
