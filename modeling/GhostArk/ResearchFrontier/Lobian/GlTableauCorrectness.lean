import GhostArk.Js.Collections
import GhostArk.ResearchFrontier.Lobian.GlTableau

/-!
Contract: what the verdicts of the tableau mean.

Owns the realization of a sequent at a world, the equivalence of each
propositional rule with its formula, and the verdict that every returned search
earns: a closed sequent is realized at no world of any frame of provability
logic, and an open one is realized at the root of the tree it returns.

Does not own termination or the model built from the tree.
-/

namespace GhostArk.ResearchFrontier.Lobian.GlTableau

open Js Lib

section Realization

variable {W : Type} (sees : W → W → Prop) (holds : W → JsString → Prop)

/-- The formula has the truth value of its sign at the world. -/
def Signed.Realized (s : Signed) (w : W) : Prop :=
  match s.sign with
  | .T => Forces sees holds s.f w
  | .F => ¬ Forces sees holds s.f w

def Realizes (signed : List Signed) (w : W) : Prop := ∀ s ∈ signed, s.Realized sees holds w

variable {sees holds} {w : W}

theorem realizes_append {left right : List Signed} :
    Realizes sees holds (left ++ right) w ↔
      Realizes sees holds left w ∧ Realizes sees holds right w :=
  List.forall_mem_append

theorem realizes_cons {s : Signed} {rest : List Signed} :
    Realizes sees holds (s :: rest) w ↔ s.Realized sees holds w ∧ Realizes sees holds rest w :=
  List.forall_mem_cons

variable {signed : List Signed}

theorem realizes_dedup (named : Named signed) :
    Realizes sees holds (dedup signed) w ↔ Realizes sees holds signed w := by
  simp only [Realizes, mem_dedup named]

theorem expansion_realized {s : Signed} {rule : Expansion} (found : expansion s = some rule) :
    s.Realized sees holds w ↔ ∃ branch ∈ rule.branches, Realizes sees holds branch w := by
  rcases s with ⟨_ | _, f⟩ <;> cases f <;> cases found <;>
    simp only [Expansion.branches, Realizes, Signed.Realized, Forces, List.exists_mem_cons_iff,
      List.forall_mem_cons, List.not_mem_nil, false_imp_iff, implies_true, and_true, false_and,
      exists_false, or_false, not_false_eq_true] <;>
    tauto

theorem selected_realized {signed rest : List Signed} {rule : Expansion}
    (found : selected signed = some (rest, rule)) :
    Realizes sees holds signed w ↔
      ∃ branch ∈ rule.branches, Realizes sees holds (rest ++ branch) w := by
  rcases eq_some_of_selected found with ⟨before, s, after, rfl, rfl, -, isRule⟩
  simp only [realizes_append, realizes_cons, expansion_realized isRule]
  constructor
  · rintro ⟨inBefore, ⟨branch, member, inBranch⟩, inAfter⟩
    exact ⟨branch, member, ⟨inBefore, inAfter⟩, inBranch⟩
  · rintro ⟨branch, member, ⟨inBefore, inAfter⟩, inBranch⟩
    exact ⟨inBefore, ⟨branch, member, inBranch⟩, inAfter⟩

theorem not_realizes_of_clashes (clashes : Clashes signed) : ¬ Realizes sees holds signed w := by
  intro realized
  rcases clashes with ⟨f, isTrue, isFalse⟩ | isTrue | isFalse
  · exact realized _ isFalse (realized _ isTrue)
  · exact realized _ isTrue
  · exact realized _ isFalse trivial

/-- At a world that realizes the sequent, a defect is witnessed by a world that realizes
the sequent of its successor: the world at which the necessity fails last. -/
theorem exists_realizes_succ (frame : ProvabilityFrame sees)
    (realized : Realizes sees holds signed w) {A : Formula} (defect : A ∈ defects signed) :
    ∃ next, sees w next ∧ Realizes sees holds (succ signed A) next := by
  have fails : ¬ Necessarily sees (Forces sees holds A) w := realized _ (mem_defects.mp defect)
  rcases frame.exists_last_failure fails with ⟨next, step, necessary, failsThere⟩
  refine ⟨next, step, fun t member => ?_⟩
  rcases mem_succ.mp member with ⟨a, isTrue, rfl | rfl⟩ | rfl | rfl
  · exact realized _ isTrue next step
  · exact frame.necessarily_persists (realized _ isTrue) step
  · exact necessary
  · exact failsThere

end Realization

def IsSuccessor (world next : WorldNode) : Prop := next ∈ world.successors

/-- A world of a tree sees the worlds below it. -/
def Below : WorldNode → WorldNode → Prop := Relation.TransGen IsSuccessor

def HoldsAt (world : WorldNode) (name : JsString) : Prop := name ∈ world.trueAtoms

variable {signed : List Signed}

/-- A saturated sequent without clashes is realized at a world with its true atoms, when
each defect has a successor that realizes the sequent of its witness. -/
theorem realizes_of_saturated (consistent : ¬ Clashes signed) (found : selected signed = none)
    {successors : List WorldNode} (witnessed : ∀ A ∈ defects signed, ∃ world ∈ successors,
      Realizes Below HoldsAt (succ signed A) world)
    (witnesses : ∀ world ∈ successors, ∃ A ∈ defects signed,
      Realizes Below HoldsAt (succ signed A) world) :
    Realizes Below HoldsAt signed (.node (trueAtoms signed) successors) := by
  rintro ⟨sign, f⟩ member
  have saturated := isCompound_eq_false_of_selected found member
  cases f with
  | atom name =>
    cases sign
    · exact mem_trueAtoms.mpr member
    · exact fun isTrue => consistent (Or.inl ⟨_, mem_trueAtoms.mp isTrue, member⟩)
  | top =>
    cases sign
    · exact trivial
    · exact absurd (Or.inr (Or.inr member)) consistent
  | bot =>
    cases sign
    · exact absurd (Or.inr (Or.inl member)) consistent
    · exact not_false
  | box a =>
    cases sign
    · -- Each successor forces `a`, and `□a` for the worlds below it.
      intro next below
      have here : ∀ world ∈ successors, Forces Below HoldsAt a world ∧
          Forces Below HoldsAt (.box a) world := by
        intro world inSuccessors
        rcases witnesses world inSuccessors with ⟨A, -, realized⟩
        exact ⟨realized _ (mem_succ.mpr (Or.inl ⟨a, member, Or.inl rfl⟩)),
          realized _ (mem_succ.mpr (Or.inl ⟨a, member, Or.inr rfl⟩))⟩
      rcases Relation.TransGen.head'_iff.mp below with ⟨world, inSuccessors, path⟩
      rcases Relation.reflTransGen_iff_eq_or_transGen.mp path with rfl | further
      · exact (here next inSuccessors).1
      · exact (here world inSuccessors).2 next further
    · intro necessary
      rcases witnessed a (mem_defects.mpr member) with ⟨world, inSuccessors, realized⟩
      exact realized ⟨.F, a⟩ (mem_succ.mpr (Or.inr (Or.inr rfl)))
        (necessary world (Relation.TransGen.single inSuccessors))
  | not a => cases saturated
  | and a b => cases saturated
  | or a b => cases saturated
  | imp a b => cases saturated
  | iff a b => cases saturated

/-- What a returned search says of its sequent. -/
def Verdict (signed : List Signed) : SearchResult → Prop
  | .closed _ => ∀ (W : Type) (sees : W → W → Prop) (holds : W → JsString → Prop) (w : W),
      ProvabilityFrame sees → ¬ Realizes sees holds signed w
  | .opened world => Realizes Below HoldsAt signed world

theorem Outcome.verdict {returns : List Signed → SearchResult → Prop} {result : SearchResult}
    (outcome : Outcome returns signed result) (named : Named signed)
    (nested : ∀ {sequent nestedResult}, Named sequent → returns sequent nestedResult →
      Verdict sequent nestedResult) : Verdict signed result := by
  cases outcome with
  | clash clashes =>
    intro W sees holds w frame
    rw [ne_eq, closure_eq_none_iff named, not_not] at clashes
    exact not_realizes_of_clashes clashes
  | allClosed found closed =>
    intro W sees holds w frame realized
    rcases (selected_realized found).mp realized with ⟨branch, member, inBranch⟩
    rcases closed branch member with ⟨sub, returned⟩
    exact nested (inherited_selected Formula.WellNamed.of_operand named found member) returned W
      sees holds w frame inBranch
  | someOpen found inBranches opened =>
    exact (selected_realized found).mpr
      ⟨_, inBranches,
        nested (inherited_selected Formula.WellNamed.of_operand named found inBranches) opened⟩
  | unwitnessed found defect closed =>
    intro W sees holds w frame realized
    rcases exists_realizes_succ frame realized defect with ⟨next, -, witness⟩
    exact nested (inherited_succ Formula.WellNamed.of_operand named defect) closed W sees holds
      next frame witness
  | saturated consistent found opened =>
    apply realizes_of_saturated ((closure_eq_none_iff named).mp consistent) found
    · intro A defect
      rcases exists_right_of_forall₂ opened defect with ⟨world, inSuccessors, returned⟩
      exact ⟨world, inSuccessors,
        nested (inherited_succ Formula.WellNamed.of_operand named defect) returned⟩
    · intro world inSuccessors
      rcases exists_right_of_forall₂ opened.flip inSuccessors with ⟨A, defect, returned⟩
      exact ⟨A, defect, nested (inherited_succ Formula.WellNamed.of_operand named defect) returned⟩

theorem searchWithin_verdict {maxNodes depth counter counter' : Nat} {result : SearchResult}
    (named : Named signed)
    (returned : searchWithin maxNodes depth counter signed = .ok (result, counter')) :
    Verdict signed result := by
  induction depth generalizing counter counter' signed result with
  | zero => cases returned
  | succ depth ih =>
    rw [searchWithin_succ] at returned
    split at returned
    · cases returned
    · have verdict := (searchNode_outcome returned).verdict named.dedup
        fun nestedNamed ⟨_, _, nestedReturned⟩ => ih nestedNamed nestedReturned
      cases result with
      | closed proof =>
        intro W sees holds w frame realized
        exact verdict W sees holds w frame ((realizes_dedup named).mpr realized)
      | opened world => exact (realizes_dedup named).mp verdict

end GhostArk.ResearchFrontier.Lobian.GlTableau
