import Mathlib.Data.Set.Card
import Mathlib.Logic.Relation
import Mathlib.Order.WellFounded

/-!
Contract: frames of provability logic.

Owns the necessity of a property along an accessibility relation, the frames in
which the relation is transitive and has no infinite ascending run, the world at
which a property fails last, and bisimulations: the transfer of necessity along
them, and their extension from single steps to paths.

Does not own a syntax of modal formulas.
-/

namespace GhostArk.Lib

universe u v

variable {W : Type u} {W' : Type v}

/-- The property holds at every world that the given one sees. -/
def Necessarily (sees : W → W → Prop) (property : W → Prop) (world : W) : Prop :=
  ∀ next, sees world next → property next

/-- The relation is transitive and conversely well founded. -/
structure ProvabilityFrame (sees : W → W → Prop) : Prop where
  transitive : ∀ {first second third}, sees first second → sees second third → sees first third
  ascending : WellFounded fun later earlier => sees earlier later

namespace ProvabilityFrame

variable {sees : W → W → Prop} {property : W → Prop} {world next : W}

/-- Where every world sees finitely many, an irreflexive relation has no infinite run:
each step sees strictly fewer worlds. -/
theorem of_finite_successors (finite : ∀ world, {next | sees world next}.Finite)
    (transitive : ∀ {first second third}, sees first second → sees second third →
      sees first third)
    (irreflexive : ∀ world, ¬ sees world world) : ProvabilityFrame sees where
  transitive := transitive
  ascending := by
    have fewer : ∀ {later earlier}, sees earlier later →
        {next | sees later next}.ncard < {next | sees earlier next}.ncard := by
      intro later earlier step
      apply Set.ncard_lt_ncard _ (finite earlier)
      exact ⟨fun _ further => transitive step further, fun all => irreflexive later (all step)⟩
    exact Subrelation.wf fewer (measure fun world => {next | sees world next}.ncard).wf

theorem necessarily_persists (frame : ProvabilityFrame sees)
    (necessary : Necessarily sees property world) (step : sees world next) :
    Necessarily sees property next :=
  fun _ later => necessary _ (frame.transitive step later)

/-- A property that is not necessary fails at a world beyond which it is. -/
theorem exists_last_failure (frame : ProvabilityFrame sees)
    (fails : ¬ Necessarily sees property world) :
    ∃ next, sees world next ∧ Necessarily sees property next ∧ ¬ property next := by
  simp only [Necessarily, not_forall] at fails
  rcases fails with ⟨start, step, failsThere⟩
  -- A later failure is taken as long as there is one; the relation ends that.
  induction start using frame.ascending.induction with
  | _ start ih =>
    by_cases necessary : Necessarily sees property start
    · exact ⟨start, step, necessary, failsThere⟩
    · simp only [Necessarily, not_forall] at necessary
      rcases necessary with ⟨later, further, failsLater⟩
      exact ih later further (frame.transitive step further) failsLater

end ProvabilityFrame

/-- Related worlds see related worlds. -/
structure Bisimulation (sees : W → W → Prop) (sees' : W' → W' → Prop)
    (related : W → W' → Prop) : Prop where
  forth : ∀ {world world' next}, related world world' → sees world next →
    ∃ next', sees' world' next' ∧ related next next'
  back : ∀ {world world' next'}, related world world' → sees' world' next' →
    ∃ next, sees world next ∧ related next next'

theorem Bisimulation.necessarily_iff {sees : W → W → Prop} {sees' : W' → W' → Prop}
    {related : W → W' → Prop} (bisimulation : Bisimulation sees sees' related)
    {property : W → Prop} {property' : W' → Prop}
    (agree : ∀ {world world'}, related world world' → (property world ↔ property' world'))
    {world : W} {world' : W'} (start : related world world') :
    Necessarily sees property world ↔ Necessarily sees' property' world' := by
  constructor
  · intro necessary next' step
    rcases bisimulation.back start step with ⟨next, stepBack, matched⟩
    exact (agree matched).mp (necessary next stepBack)
  · intro necessary next step
    rcases bisimulation.forth start step with ⟨next', stepForth, matched⟩
    exact (agree matched).mpr (necessary next' stepForth)

theorem Bisimulation.transGen {sees : W → W → Prop} {sees' : W' → W' → Prop}
    {related : W → W' → Prop} (bisimulation : Bisimulation sees sees' related) :
    Bisimulation (Relation.TransGen sees) (Relation.TransGen sees') related where
  forth := by
    intro world world' next start path
    induction path with
    | single step =>
      rcases bisimulation.forth start step with ⟨next', step', matched⟩
      exact ⟨next', .single step', matched⟩
    | tail _ step ih =>
      rcases ih with ⟨middle', path', matched⟩
      rcases bisimulation.forth matched step with ⟨next', step', last⟩
      exact ⟨next', path'.tail step', last⟩
  back := by
    intro world world' next' start path
    induction path with
    | single step =>
      rcases bisimulation.back start step with ⟨next, stepBack, matched⟩
      exact ⟨next, .single stepBack, matched⟩
    | tail _ step ih =>
      rcases ih with ⟨middle, pathBack, matched⟩
      rcases bisimulation.back matched step with ⟨next, stepBack, last⟩
      exact ⟨next, pathBack.tail stepBack, last⟩

end GhostArk.Lib
