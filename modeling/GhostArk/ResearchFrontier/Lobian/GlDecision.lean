import GhostArk.ResearchFrontier.Lobian.GlCountermodel
import GhostArk.ResearchFrontier.Lobian.GlTableauTermination

/-!
Contract: the decision of provability logic.

Owns the exactness of `decide`: it returns within a large enough budget, reports
a theorem for the formulas that hold throughout the finite transitive irreflexive
models and no others, and refutes every other formula at the root of such a
model. Owns the agreement of `decideChecked` with `decide`.

Does not own the search or the construction of the model.
-/

namespace GhostArk.ResearchFrontier.Lobian.GlTableau

open Js Lib

/-- The formula holds at every world of every finite transitive irreflexive model. -/
def Valid (phi : Formula) : Prop :=
  ∀ m : KripkeModel, m.IsModel → ∀ w ∈ m.worlds, m.satisfies w phi = true

theorem named_start {phi : Formula} (named : phi.WellNamed) : Named [⟨.F, phi⟩] := by
  intro s member
  rw [List.mem_singleton.mp member]
  exact named

theorem closed_subformulas (phi : Formula) : Closed phi.subformulas.toFinset := by
  intro f g inStock operand
  rw [List.mem_toFinset] at inStock ⊢
  exact Formula.operand_mem_subformulas inStock operand

theorem within_subformulas (phi : Formula) : Within phi.subformulas.toFinset [⟨.F, phi⟩] := by
  intro s member
  rw [List.mem_singleton.mp member, List.mem_toFinset]
  exact phi.mem_subformulas_self

theorem exists_budget {phi : Formula} (named : phi.WellNamed) :
    ∃ enough, ∀ maxNodes, enough ≤ maxNodes → ∃ result, decide maxNodes phi = .ok result := by
  rcases searchable (closed_subformulas phi) _ (named_start named) (within_subformulas phi) with
    ⟨enough, searched⟩
  refine ⟨enough, fun maxNodes large => ?_⟩
  rcases searched maxNodes maxNodes 0 large (by omega) with
    ⟨proof | world, counter, returned, -⟩ <;>
    simp only [decide, search, returned]
  · exact ⟨_, rfl⟩
  · exact ⟨_, rfl⟩

section Results

variable {maxNodes : Nat} {phi : Formula}

/-- What is proved holds in every world of every provability frame. -/
theorem forces_of_proved (named : phi.WellNamed) {proof : Proof} {stats : DecideStats}
    (returned : decide maxNodes phi = .ok (.proved proof stats)) {W : Type} {sees : W → W → Prop}
    (frame : ProvabilityFrame sees) (holds : W → JsString → Prop) (w : W) :
    Forces sees holds phi w := by
  rw [decide] at returned
  cases searched : search maxNodes 0 [⟨.F, phi⟩] with
  | error error => simp [searched] at returned
  | ok outcome =>
    rcases outcome with ⟨closedProof | world, counter⟩
    · have unrealized := searchWithin_verdict (named_start named) searched W sees holds w frame
      by_contra fails
      apply unrealized
      intro s member
      rw [List.mem_singleton.mp member]
      exact fails
    · simp [searched] at returned

/-- A refutation comes with a model that refutes the formula at its root. -/
theorem refutes_of_refuted (named : phi.WellNamed) {countermodel : KripkeModel} {root : JsString}
    {stats : DecideStats}
    (returned : decide maxNodes phi = .ok (.refuted countermodel root stats)) :
    countermodel.IsModel ∧ root ∈ countermodel.worlds ∧
      countermodel.satisfies root phi = false := by
  rw [decide] at returned
  cases searched : search maxNodes 0 [⟨.F, phi⟩] with
  | error error => simp [searched] at returned
  | ok outcome =>
    rcases outcome with ⟨closedProof | world, counter⟩
    · simp [searched] at returned
    · simp only [searched, Except.ok.injEq, DecideResult.refuted.injEq] at returned
      rcases returned with ⟨rfl, rfl, -⟩
      have realized := searchWithin_verdict (named_start named) searched
      have fails : ¬ Forces Below HoldsAt phi world := realized ⟨.F, phi⟩ (.head _)
      refine ⟨isModel_buildModel world, root_mem_buildModel world, ?_⟩
      rw [KripkeModel.satisfies_eq_false_iff, forces_buildModel]
      exact fails

end Results

/-- The tableau decides provability logic: with a large enough budget it returns, and
whenever it returns, it reports a theorem exactly for the valid formulas and otherwise a
finite transitive irreflexive model whose root refutes the formula. -/
theorem decide_exact (phi : Formula) (named : phi.WellNamed) :
    (∃ enough, ∀ maxNodes, enough ≤ maxNodes → ∃ result, decide maxNodes phi = .ok result) ∧
      ∀ maxNodes result, decide maxNodes phi = .ok result →
        (result.isTheorem = true ↔ Valid phi) ∧
          ∀ countermodel root stats, result = .refuted countermodel root stats →
            countermodel.IsModel ∧ root ∈ countermodel.worlds ∧
              countermodel.satisfies root phi = false := by
  refine ⟨exists_budget named, fun maxNodes result returned => ⟨?_, ?_⟩⟩
  · cases result with
    | proved proof stats =>
      refine iff_of_true rfl fun m isModel w _ => ?_
      rw [m.satisfies_iff]
      exact forces_of_proved named returned isModel.provabilityFrame m.Holds w
    | refuted countermodel root stats =>
      rcases refutes_of_refuted named returned with ⟨isModel, isWorld, refuted⟩
      refine iff_of_false Bool.false_ne_true fun valid => ?_
      rw [valid countermodel isModel root isWorld] at refuted
      cases refuted
  · rintro countermodel root stats rfl
    exact refutes_of_refuted named returned

def loeb : Formula :=
  .imp (.box (.imp (.box (.atom (js "p"))) (.atom (js "p")))) (.box (.atom (js "p")))

theorem wellNamed_loeb : loeb.WellNamed := by
  have name : ∀ codeUnit ∈ js "p", codeUnit ∉ js "()," := by
    rw [show js "p" = [0x70] by decide, List.forall_mem_singleton]
    decide
  exact ⟨⟨name, name⟩, name⟩

theorem decide_exact_loeb :
    loeb.WellNamed ∧
      (∃ enough, ∀ maxNodes, enough ≤ maxNodes → ∃ result, decide maxNodes loeb = .ok result) ∧
        ∀ maxNodes result, decide maxNodes loeb = .ok result →
          (result.isTheorem = true ↔ Valid loeb) ∧
            ∀ countermodel root stats, result = .refuted countermodel root stats →
              countermodel.IsModel ∧ root ∈ countermodel.worlds ∧
                countermodel.satisfies root loeb = false :=
  ⟨wellNamed_loeb, decide_exact loeb wellNamed_loeb⟩

example : (decide 10 loeb).toOption.map DecideResult.isTheorem = some true := by
  decide +kernel

theorem decideChecked_eq (maxNodes : Nat) (phi : Formula) (named : phi.WellNamed) :
    decideChecked maxNodes phi = decide maxNodes phi := by
  rw [decideChecked]
  cases decided : decide maxNodes phi with
  | error error => rfl
  | ok result =>
    cases result with
    | proved proof stats => rfl
    | refuted countermodel root stats =>
      rcases refutes_of_refuted named decided with ⟨isModel, isWorld, refuted⟩
      simp [KripkeModel.refutes, isModel.isGLFrame, isWorld, refuted]

end GhostArk.ResearchFrontier.Lobian.GlTableau
