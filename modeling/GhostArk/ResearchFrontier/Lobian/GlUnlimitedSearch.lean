import GhostArk.ResearchFrontier.Lobian.GlDecision

/-!
Contract: the tableau without the check of `MAX_NODES`.

Owns the unlimited search, which calls a search asks for, how the limited search follows the
unlimited one until the budget is used up, and that the unlimited search of a formula ends: the
budget bounds how many nodes are explored and stops nothing else.
-/

namespace GhostArk.ResearchFrontier.Lobian.GlTableau

open Js

def unlimitedSearch : Nat → Search
  | 0 => fun _ _ => .error budgetError
  | depth + 1 => fun counter signedIn => searchNode (unlimitedSearch depth) (counter + 1) signedIn

/-! ### The loops as runs after one another -/

/-- What is run on the count of nodes. -/
abbrev Run (Result : Type) : Type := Nat → Except JsError (Result × Nat)

def Run.ok {Result : Type} (result : Result) : Run Result := fun counter => .ok (result, counter)

def Run.andThen {First Result : Type} (run : Run First) (next : First → Run Result) : Run Result :=
  fun counter => (run counter).bind fun found => next found.1 found.2

section Runs

variable (search : Search) (signed rest : List Signed)

def afterBranch (branches : List (List Signed)) : SearchResult → Run (WorldNode ⊕ List Proof)
  | .opened world => .ok (.inl world)
  | .closed proof => .andThen (searchBranches search rest · branches)
      fun found => .ok (found.map id (proof :: ·))

theorem searchBranches_cons (br : List Signed) (branches : List (List Signed)) :
    (searchBranches search rest · (br :: branches)) =
      Run.andThen (search · (rest ++ br)) (afterBranch search rest branches) := by
  funext counter
  rw [searchBranches, Run.andThen]
  rcases search counter (rest ++ br) with error | ⟨proof | world, middle⟩
  · rfl
  · simp only [Except.bind, afterBranch, Run.andThen]
    rcases searchBranches search rest middle branches with error | ⟨world | proofs, last⟩ <;> rfl
  · rfl

def afterDefect (A : Formula) (wanted : List Formula) :
    SearchResult → Run ((Formula × Proof) ⊕ List WorldNode)
  | .closed proof => .ok (.inl (A, proof))
  | .opened world => .andThen (searchDefects search signed · wanted)
      fun found => .ok (found.map id (world :: ·))

theorem searchDefects_cons (A : Formula) (wanted : List Formula) :
    (searchDefects search signed · (A :: wanted)) =
      Run.andThen (search · (succ signed A)) (afterDefect search signed A wanted) := by
  funext counter
  rw [searchDefects, Run.andThen]
  rcases search counter (succ signed A) with error | ⟨proof | world, middle⟩
  · rfl
  · rfl
  · simp only [Except.bind, afterDefect, Run.andThen]
    rcases searchDefects search signed middle wanted with error | ⟨refuted | worlds, last⟩ <;> rfl

end Runs

def alphaResult (name seq : JsString) : SearchResult → SearchResult
  | .closed proof => .closed (.alpha name seq proof)
  | .opened world => .opened world

def branchesResult (name seq : JsString) : WorldNode ⊕ List Proof → SearchResult
  | .inl world => .opened world
  | .inr proofs => .closed (.beta name seq proofs)

def defectsResult (signed : List Signed) (seq : JsString) :
    (Formula × Proof) ⊕ List WorldNode → SearchResult
  | .inl (A, proof) => .closed (.glModal seq (js "□" ++ A.show) proof)
  | .inr successors => .opened (.node (trueAtoms signed) successors)

/-- A relation of runs that the building of runs respects. -/
structure Respected (related : ∀ {Result : Type}, Run Result → Run Result → Prop) : Prop where
  ok : ∀ {Result : Type} (result : Result), related (Run.ok result) (Run.ok result)
  andThen : ∀ {First Result : Type} {first second : Run First}
    {firstNext secondNext : First → Run Result}, related first second →
      (∀ found, related (firstNext found) (secondNext found)) →
        related (first.andThen firstNext) (second.andThen secondNext)

section Respect

variable {related : ∀ {Result : Type}, Run Result → Run Result → Prop} {first second : Search}

theorem searchBranches_related (respected : Respected related)
    (searches : ∀ signed, related (first · signed) (second · signed))
    (rest : List Signed) (branches : List (List Signed)) :
    related (searchBranches first rest · branches) (searchBranches second rest · branches) := by
  induction branches with
  | nil => exact respected.ok (Sum.inr [])
  | cons br branches ih =>
    rw [searchBranches_cons, searchBranches_cons]
    apply respected.andThen (searches _)
    intro found
    cases found with
    | opened world => exact respected.ok (Sum.inl world)
    | closed proof => exact respected.andThen ih fun found => respected.ok _

theorem searchDefects_related (respected : Respected related)
    (searches : ∀ signed, related (first · signed) (second · signed))
    (signed : List Signed) (wanted : List Formula) :
    related (searchDefects first signed · wanted) (searchDefects second signed · wanted) := by
  induction wanted with
  | nil => exact respected.ok (Sum.inr [])
  | cons A wanted ih =>
    rw [searchDefects_cons, searchDefects_cons]
    apply respected.andThen (searches _)
    intro found
    cases found with
    | closed proof => exact respected.ok (Sum.inl (A, proof))
    | opened world => exact respected.andThen ih fun found => respected.ok _

theorem searchNode_related (respected : Respected related)
    (searches : ∀ signed, related (first · signed) (second · signed)) (signed : List Signed) :
    related (searchNode first · signed) (searchNode second · signed) := by
  cases closes : closure (dedup signed) with
  | some reason =>
    simp only [searchNode, closes]
    exact respected.ok _
  | none =>
    cases chosen : selected (dedup signed) with
    | some selection =>
      rcases selection with ⟨rest, ⟨adds, name⟩ | ⟨branches, name⟩⟩
      · have split (search : Search) : (searchNode search · signed) =
            Run.andThen (search · (rest ++ adds)) fun found =>
              .ok (alphaResult name (sequentString (dedup signed)) found) := by
          funext counter
          simp only [searchNode, closes, chosen, Run.andThen]
          rcases search counter (rest ++ adds) with error | ⟨proof | world, last⟩ <;> rfl
        rw [split, split]
        exact respected.andThen (searches _) fun found => respected.ok _
      · have split (search : Search) : (searchNode search · signed) =
            Run.andThen (searchBranches search rest · branches) fun found =>
              .ok (branchesResult name (sequentString (dedup signed)) found) := by
          funext counter
          simp only [searchNode, closes, chosen, Run.andThen]
          rcases searchBranches search rest counter branches with
            error | ⟨world | proofs, last⟩ <;> rfl
        rw [split, split]
        exact respected.andThen (searchBranches_related respected searches rest branches)
          fun found => respected.ok _
    | none =>
      have split (search : Search) : (searchNode search · signed) =
          Run.andThen (searchDefects search (dedup signed) · (defects (dedup signed)))
            fun found =>
              .ok (defectsResult (dedup signed) (sequentString (dedup signed)) found) := by
        funext counter
        simp only [searchNode, closes, chosen, Run.andThen]
        rcases searchDefects search (dedup signed) counter (defects (dedup signed)) with
          error | ⟨refuted | successors, last⟩ <;> rfl
      rw [split, split]
      exact respected.andThen (searchDefects_related respected searches _ _)
        fun found => respected.ok _

end Respect

/-! ### The budget -/

/-- What the limited run returns, the unlimited one returns. -/
def Extends {Result : Type} (limited unlimited : Run Result) : Prop :=
  ∀ counter found, limited counter = .ok found → unlimited counter = .ok found

theorem respected_extends : Respected Extends where
  ok result := by
    intro counter found returned
    exact returned
  andThen := by
    intro First Result first second firstNext secondNext extends' extendsNext counter found returned
    rcases bind_eq_ok.mp returned with ⟨middle, isFirst, isSecond⟩
    exact bind_eq_ok.mpr ⟨middle, extends' _ _ isFirst, extendsNext _ _ _ isSecond⟩

/-- The count of the unlimited run never falls, and the limited run returns the same as long as that
count is within the budget, and refuses otherwise. -/
structure Follows (maxNodes start : Nat) {Result : Type} (limited unlimited : Run Result) :
    Prop where
  counts : ∀ counter result counter', unlimited counter = .ok (result, counter') →
    counter ≤ counter'
  limits : ∀ counter result counter', start ≤ counter → counter ≤ maxNodes →
    unlimited counter = .ok (result, counter') →
      limited counter = if counter' ≤ maxNodes then .ok (result, counter') else .error budgetError

theorem respected_follows (maxNodes start : Nat) : Respected (Follows maxNodes start) where
  ok result := by
    constructor
    · intro counter found counter' returned
      cases returned
      exact Nat.le_refl counter
    · intro counter found counter' _ small returned
      cases returned
      exact (if_pos small).symm
  andThen := by
    intro First Result limited unlimited limitedNext unlimitedNext follows followsNext
    constructor
    · intro counter result counter' returned
      rcases bind_eq_ok.mp returned with ⟨⟨found, middle⟩, first, second⟩
      exact (follows.counts _ _ _ first).trans ((followsNext found).counts _ _ _ second)
    · intro counter result counter' large small returned
      rcases bind_eq_ok.mp returned with ⟨⟨found, middle⟩, first, second⟩
      have grows := follows.counts _ _ _ first
      have growsLater := (followsNext found).counts _ _ _ second
      rw [Run.andThen, follows.limits _ _ _ large small first]
      by_cases within : middle ≤ maxNodes
      · rw [if_pos within]
        exact (followsNext found).limits _ _ _ (large.trans grows) within second
      · rw [if_neg within, if_neg (by omega)]
        rfl

section Limits

variable {maxNodes : Nat}

theorem searchWithin_extends {deep depth : Nat} (deeper : deep ≤ depth) (signed : List Signed) :
    Extends (searchWithin maxNodes deep · signed) (unlimitedSearch depth · signed) := by
  induction deep generalizing depth signed with
  | zero =>
    intro counter found returned
    cases returned
  | succ deep ih =>
    intro counter found returned
    obtain ⟨depth, rfl⟩ : ∃ smaller, depth = smaller + 1 := ⟨depth - 1, by omega⟩
    simp only [searchWithin_succ] at returned
    by_cases spent : counter + 1 > maxNodes
    · rw [if_pos spent] at returned
      cases returned
    · rw [if_neg spent] at returned
      have searches := ih (Nat.le_of_succ_le_succ deeper)
      exact searchNode_related respected_extends searches signed _ _ returned

theorem searchWithin_follows (deep depth : Nat) (signed : List Signed) :
    Follows maxNodes (maxNodes - deep) (searchWithin maxNodes deep · signed)
      (unlimitedSearch depth · signed) := by
  induction depth generalizing deep signed with
  | zero =>
    constructor
    · intro counter result counter' returned
      cases returned
    · intro counter result counter' large small returned
      cases returned
  | succ depth ih =>
    have follows (deep : Nat) := searchNode_related (respected_follows maxNodes (maxNodes - deep))
      (ih deep) signed
    have counts : ∀ counter result counter',
        unlimitedSearch (depth + 1) counter signed = .ok (result, counter') →
          counter + 1 ≤ counter' := fun counter => (follows deep).counts (counter + 1)
    constructor
    · intro counter result counter' returned
      exact (Nat.le_succ _).trans (counts _ _ _ returned)
    · intro counter result counter' large small returned
      have grows := counts _ _ _ returned
      cases deep with
      | zero => rw [if_neg (by omega), searchWithin]
      | succ deep =>
        rw [searchWithin_succ]
        by_cases spent : counter + 1 > maxNodes
        · rw [if_pos spent, if_neg (by omega)]
        · rw [if_neg spent]
          exact (follows deep).limits _ _ _ (by omega) (by omega) returned

end Limits

section Congruence

variable {first second : Search}

theorem searchBranches_congr {rest : List Signed} {branches : List (List Signed)}
    (same : ∀ branch ∈ branches, ∀ counter, first counter (rest ++ branch) =
      second counter (rest ++ branch)) (counter : Nat) :
    searchBranches first rest counter branches = searchBranches second rest counter branches := by
  induction branches generalizing counter with
  | nil => rfl
  | cons br branches ih =>
    have later := ih fun branch member => same branch (.tail _ member)
    simp only [searchBranches, same br (.head _), later]

theorem searchDefects_congr {signed : List Signed} {wanted : List Formula}
    (same : ∀ A ∈ wanted, ∀ counter, first counter (succ signed A) =
      second counter (succ signed A)) (counter : Nat) :
    searchDefects first signed counter wanted = searchDefects second signed counter wanted := by
  induction wanted generalizing counter with
  | nil => rfl
  | cons A wanted ih =>
    have later := ih fun other member => same other (.tail _ member)
    simp only [searchDefects, same A (.head _), later]

/-- `Nests` holds of every sequent that a search asks for: two searches that agree on the nested
sequents agree on the parent. -/
theorem searchNode_congr {parent : List Signed}
    (same : ∀ child, Nests parent child → ∀ counter, first counter child = second counter child)
    (counter : Nat) : searchNode first counter parent = searchNode second counter parent := by
  cases closes : closure (dedup parent) with
  | some reason => simp only [searchNode, closes]
  | none =>
    cases chosen : selected (dedup parent) with
    | some selection =>
      rcases selection with ⟨rest, ⟨adds, name⟩ | ⟨branches, name⟩⟩
      · have nested := same _ (.propositional closes chosen (.head _))
        simp only [searchNode, closes, chosen, nested]
      · have nested : ∀ counter, searchBranches first rest counter branches =
            searchBranches second rest counter branches :=
          searchBranches_congr fun branch member =>
            same _ (.propositional closes chosen member)
        simp only [searchNode, closes, chosen, nested]
    | none =>
      have nested := searchDefects_congr fun A defect => same _ (.modal closes chosen defect)
      simp only [searchNode, closes, chosen, nested]

end Congruence

/-- The unlimited search of a formula ends: no chain of nested calls goes on forever, it returns
from some depth on, and the budget only decides whether its count of nodes is too large. -/
theorem unlimitedSearch_ends (phi : Formula) (named : phi.WellNamed) :
    Acc (fun child parent => Nests parent child) [⟨.F, phi⟩] ∧
      ∃ depth result nodes,
        (∀ deeper, depth ≤ deeper →
          unlimitedSearch deeper 0 [⟨.F, phi⟩] = .ok (result, nodes)) ∧
        ∀ maxNodes, search maxNodes 0 [⟨.F, phi⟩] =
          if nodes ≤ maxNodes then .ok (result, nodes) else .error budgetError := by
  have accessible : Acc (fun child parent => Nests parent child) [⟨.F, phi⟩] :=
    acc_nests (closed_subformulas phi) (named_start named) (within_subformulas phi)
  refine ⟨accessible, ?_⟩
  rcases searchable_of_acc accessible with ⟨cost, affords⟩
  rcases affords cost cost 0 (Nat.le_refl _) (by omega) with ⟨result, nodes, returned, -⟩
  have unlimited : ∀ deeper, cost ≤ deeper →
      unlimitedSearch deeper 0 [⟨.F, phi⟩] = .ok (result, nodes) := fun deeper large =>
    searchWithin_extends large _ _ _ returned
  refine ⟨cost, result, nodes, unlimited, fun maxNodes => ?_⟩
  have follows : Follows maxNodes (maxNodes - maxNodes)
      (searchWithin maxNodes maxNodes · [⟨.F, phi⟩]) (unlimitedSearch cost · [⟨.F, phi⟩]) :=
    searchWithin_follows maxNodes cost [⟨.F, phi⟩]
  exact follows.limits 0 result nodes (by omega) (Nat.zero_le _) (unlimited cost (Nat.le_refl _))

theorem unlimitedSearch_ends_loeb :
    loeb.WellNamed ∧
      Acc (fun child parent => Nests parent child) [⟨.F, loeb⟩] ∧
        ∃ depth result nodes,
          (∀ deeper, depth ≤ deeper →
            unlimitedSearch deeper 0 [⟨.F, loeb⟩] = .ok (result, nodes)) ∧
          ∀ maxNodes, search maxNodes 0 [⟨.F, loeb⟩] =
            if nodes ≤ maxNodes then .ok (result, nodes) else .error budgetError :=
  ⟨wellNamed_loeb, unlimitedSearch_ends loeb wellNamed_loeb⟩

end GhostArk.ResearchFrontier.Lobian.GlTableau
