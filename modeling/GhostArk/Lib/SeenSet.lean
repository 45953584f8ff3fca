import Mathlib.Data.Finset.Insert
import Mathlib.Data.List.Forall2

/-!
Contract: visits that refuse what has been seen.

Owns lists of things that are met once and have not been seen, what a visit may add to the things
seen, and loops of visits: a loop over values whose things are met once returns if each of its turns
does, and each result of a loop was returned by its turn.
-/

namespace GhostArk.Lib

universe u

variable {α : Type u}

/-! ### What is met once -/

/-- Things that are met once and have not been seen. -/
structure IsFresh (footprint : List α) (seen : Finset α) : Prop where
  once : footprint.Nodup
  unseen : ∀ met ∈ footprint, met ∉ seen

/-- Nothing is seen besides the footprint. -/
def SeesOnly (footprint : List α) (seen after : Finset α) : Prop :=
  ∀ met ∈ after, met ∈ seen ∨ met ∈ footprint

section Footprints

variable {first rest : List α} {seen after last : Finset α}

theorem IsFresh.left (fresh : IsFresh (first ++ rest) seen) : IsFresh first seen where
  once := (List.nodup_append.mp fresh.once).1
  unseen := fun met member => fresh.unseen met (List.mem_append_left _ member)

theorem IsFresh.right (fresh : IsFresh (first ++ rest) seen) (sees : SeesOnly first seen after) :
    IsFresh rest after where
  once := (List.nodup_append.mp fresh.once).2.1
  unseen := by
    intro met member isSeen
    rcases sees met isSeen with before | inFirst
    · exact fresh.unseen met (List.mem_append_right _ member) before
    · exact (List.nodup_append.mp fresh.once).2.2 met inFirst met member rfl

theorem IsFresh.of_perm (fresh : IsFresh first seen) (permuted : first.Perm rest) :
    IsFresh rest seen where
  once := permuted.nodup_iff.mp fresh.once
  unseen := fun met member => fresh.unseen met (permuted.mem_iff.mpr member)

theorem SeesOnly.refl (footprint : List α) (seen : Finset α) : SeesOnly footprint seen seen :=
  fun _ isSeen => Or.inl isSeen

theorem SeesOnly.append (sees : SeesOnly first seen after) (later : SeesOnly rest after last) :
    SeesOnly (first ++ rest) seen last := by
  intro met isSeen
  rcases later met isSeen with between | inRest
  · rcases sees met between with before | inFirst
    · exact Or.inl before
    · exact Or.inr (List.mem_append_left _ inFirst)
  · exact Or.inr (List.mem_append_right _ inRest)

theorem SeesOnly.of_perm (sees : SeesOnly first seen after) (permuted : first.Perm rest) :
    SeesOnly rest seen after :=
  fun met isSeen => (sees met isSeen).imp_right permuted.mem_iff.mp

variable {node : α}

theorem IsFresh.tail (fresh : IsFresh (node :: rest) seen) : IsFresh rest seen :=
  @IsFresh.right α [node] rest seen seen fresh (.refl _ _)

theorem SeesOnly.cons (sees : SeesOnly rest seen after) : SeesOnly (node :: rest) seen after :=
  @SeesOnly.append α [node] rest seen seen after (.refl _ _) sees

variable [DecidableEq α]

theorem seesOnly_insert : SeesOnly [node] seen (insert node seen) := by
  intro met isSeen
  rcases Finset.mem_insert.mp isSeen with rfl | before
  · exact Or.inr (List.mem_singleton_self met)
  · exact Or.inl before

theorem IsFresh.below (fresh : IsFresh (node :: rest) seen) : IsFresh rest (insert node seen) :=
  @IsFresh.right α [node] rest seen _ fresh seesOnly_insert

theorem SeesOnly.above (sees : SeesOnly rest (insert node seen) after) :
    SeesOnly (node :: rest) seen after :=
  @SeesOnly.append α [node] rest seen _ after seesOnly_insert sees

end Footprints

section Loops

variable {ε A B State : Type u}

theorem forall₂_of_run_mapM {visit : A → StateT State (Except ε) B} {list : List A} {state : State}
    {outcome : List B × State} (returned : (list.mapM visit).run state = .ok outcome) :
    List.Forall₂
      (fun value result => ∃ before after, (visit value).run before = .ok (result, after))
      list outcome.1 := by
  induction list generalizing state outcome with
  | nil =>
    cases returned
    exact .nil
  | cons first rest ih =>
    rw [List.mapM_cons, StateT.run_bind] at returned
    cases here : (visit first).run state with
    | error error =>
      rw [here] at returned
      cases returned
    | ok turned =>
      cases loop : (rest.mapM visit).run turned.2 with
      | error error =>
        rw [here] at returned
        change ((rest.mapM visit).run turned.2 >>= _) = _ at returned
        rw [loop] at returned
        cases returned
      | ok looped =>
        rw [here] at returned
        change ((rest.mapM visit).run turned.2 >>= _) = _ at returned
        rw [loop] at returned
        cases returned
        exact .cons ⟨state, turned.2, here⟩ (ih loop)

section Fresh

variable {footprint : A → List α} {list : List A} {seen : Finset α}

theorem exists_run_mapM {visit : A → StateT (Finset α) (Except ε) B} {returns : A → B → Prop}
    (each : ∀ value ∈ list, ∀ result seen, returns value result → IsFresh (footprint value) seen →
      ∃ after, (visit value).run seen = .ok (result, after) ∧ SeesOnly (footprint value) seen after)
    {results : List B} (expected : List.Forall₂ returns list results)
    (fresh : IsFresh (list.flatMap footprint) seen) :
    ∃ after, (list.mapM visit).run seen = .ok (results, after) ∧
      SeesOnly (list.flatMap footprint) seen after := by
  induction expected generalizing seen with
  | nil => exact ⟨seen, rfl, .refl _ _⟩
  | @cons first result rest others here later ih =>
    rw [List.forall_mem_cons] at each
    rw [List.flatMap_cons] at fresh
    rcases each.1 result seen here fresh.left with ⟨between, turned, sees⟩
    rcases ih each.2 (fresh.right sees) with ⟨after, looped, seesLater⟩
    refine ⟨after, ?_, ?_⟩
    · rw [List.mapM_cons, StateT.run_bind, turned]
      change ((rest.mapM visit).run between >>= _) = _
      rw [looped]
      rfl
    · rw [List.flatMap_cons]
      exact sees.append seesLater

theorem exists_foldlM {step : Finset α → A → Except ε (Finset α)}
    (each : ∀ value ∈ list, ∀ seen, IsFresh (footprint value) seen →
      ∃ after, step seen value = .ok after ∧ SeesOnly (footprint value) seen after)
    (fresh : IsFresh (list.flatMap footprint) seen) :
    ∃ after, list.foldlM step seen = .ok after ∧ SeesOnly (list.flatMap footprint) seen after := by
  induction list generalizing seen with
  | nil => exact ⟨seen, rfl, .refl _ _⟩
  | cons first rest ih =>
    rw [List.forall_mem_cons] at each
    rw [List.flatMap_cons] at fresh
    rcases each.1 seen fresh.left with ⟨between, turned, sees⟩
    rcases ih each.2 (fresh.right sees) with ⟨after, looped, seesLater⟩
    refine ⟨after, ?_, ?_⟩
    · rw [List.foldlM_cons, turned]
      exact looped
    · rw [List.flatMap_cons]
      exact sees.append seesLater

end Fresh

end Loops

end GhostArk.Lib
