import GhostArk.Js.Collation
import GhostArk.Js.Decimal
import GhostArk.Js.Value
import GhostArk.ResearchFrontier.Lobian.Kripke

/-!
Contract: the signed tableau for provability logic, `lobian/glTableau.ts`.

Owns the search with its closure checks, propositional rules and modal rule, the
decision, and the model that is built from an open search; what the sequents hold
when names are free of delimiters; and what one call of the search can return.

Does not own termination, soundness or completeness. The elapsed time of the
statistics is a clock reading and is not modelled.
-/

namespace GhostArk.ResearchFrontier.Lobian.GlTableau

open Js

inductive Sign where
  | T
  | F
deriving DecidableEq

def Sign.opposite : Sign → Sign
  | .T => .F
  | .F => .T

structure Signed where
  sign : Sign
  f : Formula
deriving DecidableEq

/-- `${s.sign}:${key(s.f)}`. -/
def sk (s : Signed) : JsString :=
  match s.sign with
  | .T => js "T:" ++ s.f.key
  | .F => js "F:" ++ s.f.key

/-- A node of the tree of a closed search. -/
inductive Proof where
  | close (reason sequent : JsString)
  | alpha (name sequent : JsString) (sub : Proof)
  | beta (name sequent : JsString) (subs : List Proof)
  | glModal (sequent refuted : JsString) (sub : Proof)

/-- A world of an open search. -/
inductive WorldNode where
  | node (trueAtoms : List JsString) (successors : List WorldNode)

namespace WorldNode

def trueAtoms : WorldNode → List JsString
  | node trueAtoms _ => trueAtoms

def successors : WorldNode → List WorldNode
  | node _ successors => successors

end WorldNode

inductive SearchResult where
  | closed (proof : Proof)
  | opened (world : WorldNode)

structure DecideStats where
  nodesExplored : Nat
deriving DecidableEq

inductive DecideResult where
  | proved (proof : Proof) (stats : DecideStats)
  | refuted (countermodel : KripkeModel) (root : JsString) (stats : DecideStats)

def DecideResult.isTheorem : DecideResult → Bool
  | proved _ _ => true
  | refuted _ _ _ => false

def dedupFrom (seen : List JsString) : List Signed → List Signed
  | [] => []
  | s :: rest =>
    if seen.contains (sk s) then dedupFrom seen rest
    else s :: dedupFrom (seen ++ [sk s]) rest

def dedup (signed : List Signed) : List Signed := dedupFrom [] signed

def sequentString (signed : List Signed) : JsString :=
  join (js " , ") (codeUnitOrder.sortBy id ((dedup signed).map sk))

/-- Neither an atom nor a constant nor a box. -/
def isCompound : Formula → Bool
  | .atom _ | .top | .bot | .box _ => false
  | _ => true

def pickCompound (signed : List Signed) : Option Nat :=
  signed.findIdx? fun s => isCompound s.f

/-- Why the sequent closes, if it does. -/
def closure (signed : List Signed) : Option JsString :=
  let present := signed.map sk
  match signed.find? fun s => present.contains (sk ⟨s.sign.opposite, s.f⟩) with
  | some s => some (js "T:" ++ s.f.show ++ js " and F:" ++ s.f.show)
  | none =>
    if present.contains (js "T:F") then some (js "T:⊥")
    else if present.contains (js "F:T") then some (js "F:⊤")
    else none

/-- What a rule adds to the rest of the sequent. -/
inductive Expansion where
  | alpha (adds : List Signed) (name : JsString)
  | beta (branches : List (List Signed)) (name : JsString)

/-- `switch (`${s.sign}:${s.f.k}`)`. -/
def expansion (s : Signed) : Option Expansion :=
  match s.sign, s.f with
  | .T, .not a => some (.alpha [⟨.F, a⟩] (js "T¬"))
  | .F, .not a => some (.alpha [⟨.T, a⟩] (js "F¬"))
  | .T, .and a b => some (.alpha [⟨.T, a⟩, ⟨.T, b⟩] (js "T∧"))
  | .F, .and a b => some (.beta [[⟨.F, a⟩], [⟨.F, b⟩]] (js "F∧"))
  | .T, .or a b => some (.beta [[⟨.T, a⟩], [⟨.T, b⟩]] (js "T∨"))
  | .F, .or a b => some (.alpha [⟨.F, a⟩, ⟨.F, b⟩] (js "F∨"))
  | .T, .imp a b => some (.beta [[⟨.F, a⟩], [⟨.T, b⟩]] (js "T→"))
  | .F, .imp a b => some (.alpha [⟨.T, a⟩, ⟨.F, b⟩] (js "F→"))
  | .T, .iff a b => some (.beta [[⟨.T, a⟩, ⟨.T, b⟩], [⟨.F, a⟩, ⟨.F, b⟩]] (js "T↔"))
  | .F, .iff a b => some (.beta [[⟨.T, a⟩, ⟨.F, b⟩], [⟨.F, a⟩, ⟨.T, b⟩]] (js "F↔"))
  | .T, .top | .F, .bot => some (.alpha [] (js "triv"))
  | _, _ => none

/-- The picked formula's rule, with the sequent without that formula. -/
def selected (signed : List Signed) : Option (List Signed × Expansion) := do
  let idx ← pickCompound signed
  let s ← signed[idx]?
  let rule ← expansion s
  return (signed.eraseIdx idx, rule)

/-! ### Search -/

/-- A search from the counter of explored nodes, which it returns. -/
abbrev Search := Nat → List Signed → Except JsError (SearchResult × Nat)

/-- Open as soon as one branch is; otherwise the proofs of all of them. -/
def searchBranches (search : Search) (rest : List Signed) :
    Nat → List (List Signed) → Except JsError ((WorldNode ⊕ List Proof) × Nat)
  | counter, [] => .ok (.inr [], counter)
  | counter, br :: branches =>
    match search counter (rest ++ br) with
    | .error error => .error error
    | .ok (.opened world, counter) => .ok (.inl world, counter)
    | .ok (.closed proof, counter) =>
      match searchBranches search rest counter branches with
      | .error error => .error error
      | .ok (.inl world, counter) => .ok (.inl world, counter)
      | .ok (.inr proofs, counter) => .ok (.inr (proof :: proofs), counter)

def trueAtoms (signed : List Signed) : List JsString :=
  signed.filterMap fun
    | ⟨.T, .atom name⟩ => some name
    | _ => none

def boxedT (signed : List Signed) : List Formula :=
  signed.filterMap fun
    | ⟨.T, .box a⟩ => some a
    | _ => none

def defects (signed : List Signed) : List Formula :=
  signed.filterMap fun
    | ⟨.F, .box a⟩ => some a
    | _ => none

/-- The sequent of the successor that witnesses a defect. -/
def succ (signed : List Signed) (A : Formula) : List Signed :=
  (boxedT signed).map (fun a => ⟨.T, a⟩) ++ (boxedT signed).map (fun a => ⟨.T, .box a⟩) ++
    [⟨.T, .box A⟩, ⟨.F, A⟩]

/-- A defect without a witness, with the proof of that; otherwise all witnesses. -/
def searchDefects (search : Search) (signed : List Signed) :
    Nat → List Formula → Except JsError (((Formula × Proof) ⊕ List WorldNode) × Nat)
  | counter, [] => .ok (.inr [], counter)
  | counter, A :: rest =>
    match search counter (succ signed A) with
    | .error error => .error error
    | .ok (.closed proof, counter) => .ok (.inl (A, proof), counter)
    | .ok (.opened world, counter) =>
      match searchDefects search signed counter rest with
      | .error error => .error error
      | .ok (.inl refuted, counter) => .ok (.inl refuted, counter)
      | .ok (.inr successors, counter) => .ok (.inr (world :: successors), counter)

def searchNode (search : Search) : Search := fun counter signedIn =>
  let signed := dedup signedIn
  let seq := sequentString signed
  match closure signed with
  | some reason => .ok (.closed (.close reason seq), counter)
  | none =>
    match selected signed with
    | some (rest, .alpha adds name) =>
      match search counter (rest ++ adds) with
      | .error error => .error error
      | .ok (.closed proof, counter) => .ok (.closed (.alpha name seq proof), counter)
      | .ok (.opened world, counter) => .ok (.opened world, counter)
    | some (rest, .beta branches name) =>
      match searchBranches search rest counter branches with
      | .error error => .error error
      | .ok (.inl world, counter) => .ok (.opened world, counter)
      | .ok (.inr proofs, counter) => .ok (.closed (.beta name seq proofs), counter)
    | none =>
      match searchDefects search signed counter (defects signed) with
      | .error error => .error error
      | .ok (.inl (A, proof), counter) =>
        .ok (.closed (.glModal seq (js "□" ++ A.show) proof), counter)
      | .ok (.inr successors, counter) =>
        .ok (.opened (.node (trueAtoms signed) successors), counter)

def MAX_NODES : Nat := 200000

def budgetError : JsError := .plain (js "GL tableau exceeded node budget (unexpected for GL)")

def searchWithin (maxNodes : Nat) : Nat → Search
  | 0 => fun _ _ => .error budgetError
  | depth + 1 => fun counter signedIn =>
    if counter + 1 > maxNodes then .error budgetError
    else searchNode (searchWithin maxNodes depth) (counter + 1) signedIn

theorem searchWithin_succ (maxNodes depth counter : Nat) (signed : List Signed) :
    searchWithin maxNodes (depth + 1) counter signed =
      if counter + 1 > maxNodes then .error budgetError
      else searchNode (searchWithin maxNodes depth) (counter + 1) signed := rfl

/-- Every call counts a node, so calls nested as deep as the budget have used it up. -/
def search (maxNodes : Nat) : Search := searchWithin maxNodes maxNodes

def worldId (counter : Nat) : JsString := js "w" ++ Decimal.natText counter

structure Building where
  counter : Nat
  worlds : List JsString
  treeEdges : List (JsString × JsString)
  valuation : List (JsString × List JsString)

/-- `[...node.trueAtoms].sort()`. -/
def sortedAtoms (node : WorldNode) : List JsString := codeUnitOrder.sortBy id node.trueAtoms

mutual

/-- The identifier of a node, which is new, and what its tree adds. -/
def assign (state : Building) : WorldNode → JsString × Building
  | .node trueAtoms successors =>
    let id := worldId state.counter
    (id, assignAll id
      { state with
        counter := state.counter + 1
        worlds := state.worlds ++ [id]
        valuation := state.valuation ++ [(id, sortedAtoms (.node trueAtoms successors))] }
      successors)

def assignAll (id : JsString) (state : Building) : List WorldNode → Building
  | [] => state
  | succ :: rest =>
    let child := assign state succ
    assignAll id
      { child.2 with treeEdges := child.2.treeEdges ++ [(id, child.1)] } rest

end

def buildModel (root : WorldNode) : KripkeModel × JsString :=
  let built := assign ⟨0, [], [], []⟩ root
  ({ worlds := built.2.worlds
     edges := transitiveClosure built.2.treeEdges
     valuation := built.2.valuation }, built.1)

/-- The decision within a node budget; the source's budget is `MAX_NODES`. -/
def decide (maxNodes : Nat) (phi : Formula) : Except JsError DecideResult :=
  match search maxNodes 0 [⟨.F, phi⟩] with
  | .error error => .error error
  | .ok (.closed proof, counter) => .ok (.proved proof ⟨counter⟩)
  | .ok (.opened world, counter) =>
    let built := buildModel world
    .ok (.refuted built.1 built.2 ⟨counter⟩)

/-- A refutation is checked against the semantics before it is returned. -/
def decideChecked (maxNodes : Nat) (phi : Formula) : Except JsError DecideResult :=
  match decide maxNodes phi with
  | .ok (.refuted countermodel root stats) =>
    if !countermodel.isGLFrame then
      .error (.plain (js "internal: countermodel is not a transitive-irreflexive frame"))
    else if !countermodel.refutes root phi then
      .error (.plain (js "internal: countermodel does not refute the formula"))
    else .ok (.refuted countermodel root stats)
  | decided => decided

/-! ### Sequents of well-named formulas -/

def Named (signed : List Signed) : Prop := ∀ s ∈ signed, s.f.WellNamed

theorem sk_inj {s t : Signed} (left : s.f.WellNamed) (right : t.f.WellNamed)
    (same : sk s = sk t) : s = t := by
  have heads : js "T:" = [0x54, 0x3A] ∧ js "F:" = [0x46, 0x3A] := by decide
  rcases s with ⟨_ | _, f⟩ <;> rcases t with ⟨_ | _, g⟩ <;>
    simp [sk, heads] at same
  · exact congrArg _ (Formula.key_inj left right same)
  · exact congrArg _ (Formula.key_inj left right same)

variable {signed : List Signed}

variable {s : Signed}

theorem mem_map_sk (named : Named signed) (isNamed : s.f.WellNamed) :
    sk s ∈ signed.map sk ↔ s ∈ signed := by
  constructor
  · intro member
    rcases List.mem_map.mp member with ⟨t, inSigned, same⟩
    exact sk_inj (named t inSigned) isNamed same ▸ inSigned
  · exact List.mem_map_of_mem

theorem mem_dedupFrom {seen : List JsString} (named : Named signed) :
    s ∈ dedupFrom seen signed ↔ s ∈ signed ∧ sk s ∉ seen := by
  induction signed generalizing seen with
  | nil => simp [dedupFrom]
  | cons first rest ih =>
    have restNamed : Named rest := fun t member => named t (.tail _ member)
    by_cases known : sk first ∈ seen
    · simp only [dedupFrom, List.contains_eq_mem, known, decide_true, if_true,
        ih restNamed, List.mem_cons]
      constructor
      · rintro ⟨inRest, unseen⟩
        exact ⟨Or.inr inRest, unseen⟩
      · rintro ⟨rfl | inRest, unseen⟩
        · exact absurd known unseen
        · exact ⟨inRest, unseen⟩
    · simp only [dedupFrom, List.contains_eq_mem, known, decide_false, Bool.false_eq_true,
        if_false, ih restNamed, List.mem_cons, List.mem_append,
        List.not_mem_nil, or_false]
      constructor
      · rintro (rfl | ⟨inRest, unseen⟩)
        · exact ⟨Or.inl rfl, known⟩
        · exact ⟨Or.inr inRest, fun old => unseen (Or.inl old)⟩
      · rintro ⟨rfl | inRest, unseen⟩
        · exact Or.inl rfl
        · by_cases same : sk s = sk first
          · exact Or.inl (sk_inj (named s (.tail _ inRest)) (named first (.head _)) same)
          · exact Or.inr ⟨inRest, fun either => either.elim unseen same⟩

theorem mem_dedup (named : Named signed) : s ∈ dedup signed ↔ s ∈ signed := by
  rw [dedup, mem_dedupFrom named]
  exact and_iff_left List.not_mem_nil

theorem dedupFrom_sublist (seen : List JsString) (signed : List Signed) :
    (dedupFrom seen signed).Sublist signed := by
  induction signed generalizing seen with
  | nil => exact List.Sublist.refl _
  | cons first rest ih =>
    rw [dedupFrom]
    split
    · exact (ih _).cons _
    · exact (ih _).cons_cons _

theorem dedup_sublist (signed : List Signed) : (dedup signed).Sublist signed :=
  dedupFrom_sublist [] signed

theorem Named.dedup (named : Named signed) : Named (dedup signed) :=
  fun s member => named s ((dedup_sublist signed).subset member)

/-- An opposed pair, a true `⊥` or a false `⊤`. -/
def Clashes (signed : List Signed) : Prop :=
  (∃ f, ⟨.T, f⟩ ∈ signed ∧ ⟨.F, f⟩ ∈ signed) ∨ ⟨.T, .bot⟩ ∈ signed ∨ ⟨.F, .top⟩ ∈ signed

theorem closure_eq_none_iff (named : Named signed) : closure signed = none ↔ ¬ Clashes signed := by
  have opposed : (∃ s ∈ signed, sk ⟨s.sign.opposite, s.f⟩ ∈ signed.map sk) ↔
      ∃ f, ⟨.T, f⟩ ∈ signed ∧ ⟨.F, f⟩ ∈ signed := by
    constructor
    · rintro ⟨⟨sign, f⟩, member, present⟩
      have other : ⟨sign.opposite, f⟩ ∈ signed :=
        (mem_map_sk named (s := ⟨sign.opposite, f⟩) (named ⟨sign, f⟩ member)).mp present
      cases sign
      · exact ⟨f, member, other⟩
      · exact ⟨f, other, member⟩
    · rintro ⟨f, isTrue, isFalse⟩
      exact ⟨⟨.T, f⟩, isTrue, List.mem_map_of_mem isFalse⟩
  have trueBot : js "T:F" ∈ signed.map sk ↔ ⟨.T, .bot⟩ ∈ signed :=
    mem_map_sk (s := ⟨.T, .bot⟩) named trivial
  have falseTop : js "F:T" ∈ signed.map sk ↔ ⟨.F, .top⟩ ∈ signed :=
    mem_map_sk (s := ⟨.F, .top⟩) named trivial
  rw [Clashes, ← opposed, ← trueBot, ← falseTop, closure]
  cases found : signed.find? fun s => (signed.map sk).contains (sk ⟨s.sign.opposite, s.f⟩) with
  | some s =>
    have isPresent := List.find?_some found
    simp only [List.contains_iff_mem] at isPresent
    exact iff_of_false (Option.some_ne_none _)
      fun none => none (Or.inl ⟨s, List.mem_of_find?_eq_some found, isPresent⟩)
  | none =>
    have isAbsent : ¬ ∃ s ∈ signed, sk ⟨s.sign.opposite, s.f⟩ ∈ signed.map sk := by
      rintro ⟨s, member, present⟩
      exact List.find?_eq_none.mp found s member (List.contains_iff_mem.mpr present)
    simp only [List.contains_iff_mem, isAbsent, false_or]
    split_ifs with hasBot hasTop
    · exact iff_of_false not_false fun none => none (Or.inl hasBot)
    · exact iff_of_false not_false fun none => none (Or.inr hasTop)
    · exact iff_of_true rfl fun either => either.elim hasBot hasTop

/-! ### Rules -/

def Expansion.branches : Expansion → List (List Signed)
  | .alpha adds _ => [adds]
  | .beta branches _ => branches

theorem operand_of_expansion {rule : Expansion} (found : expansion s = some rule) :
    ∀ branch ∈ rule.branches, ∀ t ∈ branch, t.f ∈ s.f.operands := by
  rcases s with ⟨_ | _, f⟩ <;> cases f <;> cases found <;>
    simp [Expansion.branches, Formula.operands]

theorem exists_expansion_of_isCompound (compound : isCompound s.f = true) :
    ∃ rule, expansion s = some rule := by
  rcases s with ⟨_ | _, f⟩ <;> cases f <;> first | exact ⟨_, rfl⟩ | cases compound

theorem eq_some_of_selected {signed rest : List Signed} {rule : Expansion}
    (found : selected signed = some (rest, rule)) :
    ∃ before s after, signed = before ++ s :: after ∧ rest = before ++ after ∧
      isCompound s.f = true ∧ expansion s = some rule := by
  simp only [selected, Option.bind_eq_bind, Option.bind_eq_some_iff, Option.pure_def,
    Option.some.injEq, Prod.mk.injEq] at found
  rcases found with ⟨idx, picked, s, atIdx, _, isRule, rfl, rfl⟩
  rcases List.findIdx?_eq_some_iff_getElem.mp picked with ⟨inside, compound, -⟩
  obtain rfl : signed[idx] = s := Option.some.inj ((List.getElem?_eq_getElem inside).symm.trans atIdx)
  refine ⟨signed.take idx, signed[idx], signed.drop (idx + 1), ?_, ?_, compound, isRule⟩
  · rw [← List.drop_eq_getElem_cons inside, List.take_append_drop]
  · exact List.eraseIdx_eq_take_drop_succ signed idx

theorem isCompound_eq_false_of_selected (found : selected signed = none) (member : s ∈ signed) :
    isCompound s.f = false := by
  cases picked : pickCompound signed with
  | none => exact List.findIdx?_eq_none_iff.mp picked s member
  | some idx =>
    rcases List.findIdx?_eq_some_iff_getElem.mp picked with ⟨inside, compound, -⟩
    rcases exists_expansion_of_isCompound compound with ⟨rule, isRule⟩
    simp [selected, picked, List.getElem?_eq_getElem inside, isRule] at found

@[simp] theorem mem_trueAtoms {name : JsString} :
    name ∈ trueAtoms signed ↔ ⟨.T, .atom name⟩ ∈ signed := by
  simp only [trueAtoms, List.mem_filterMap]
  constructor
  · rintro ⟨⟨_ | _, _ | _⟩, member, read⟩ <;> cases read
    exact member
  · intro member
    exact ⟨_, member, rfl⟩

@[simp] theorem mem_boxedT {a : Formula} : a ∈ boxedT signed ↔ ⟨.T, .box a⟩ ∈ signed := by
  simp only [boxedT, List.mem_filterMap]
  constructor
  · rintro ⟨⟨_ | _, _ | _⟩, member, read⟩ <;> cases read
    exact member
  · intro member
    exact ⟨_, member, rfl⟩

@[simp] theorem mem_defects {a : Formula} : a ∈ defects signed ↔ ⟨.F, .box a⟩ ∈ signed := by
  simp only [defects, List.mem_filterMap]
  constructor
  · rintro ⟨⟨_ | _, _ | _⟩, member, read⟩ <;> cases read
    exact member
  · intro member
    exact ⟨_, member, rfl⟩

theorem mem_succ {A : Formula} {t : Signed} :
    t ∈ succ signed A ↔
      (∃ a, ⟨.T, .box a⟩ ∈ signed ∧ (t = ⟨.T, a⟩ ∨ t = ⟨.T, .box a⟩)) ∨
        t = ⟨.T, .box A⟩ ∨ t = ⟨.F, A⟩ := by
  simp only [succ, List.mem_append, List.mem_map, mem_boxedT, List.mem_cons, List.not_mem_nil,
    or_false]
  constructor
  · rintro ((⟨a, isTrue, rfl⟩ | ⟨a, isTrue, rfl⟩) | last)
    · exact Or.inl ⟨a, isTrue, Or.inl rfl⟩
    · exact Or.inl ⟨a, isTrue, Or.inr rfl⟩
    · exact Or.inr last
  · rintro (⟨a, isTrue, rfl | rfl⟩ | last)
    · exact Or.inl (Or.inl ⟨a, isTrue, rfl⟩)
    · exact Or.inl (Or.inr ⟨a, isTrue, rfl⟩)
    · exact Or.inr last

/-! What holds of all formulas of a sequent, and is inherited by operands, holds of all
formulas of the sequents that the rules derive from it. -/

section Inheritance

variable {inherited : Formula → Prop} {signed rest : List Signed}

theorem inherited_selected (toOperand : ∀ {f g}, inherited f → g ∈ f.operands → inherited g)
    (all : ∀ s ∈ signed, inherited s.f) {rule : Expansion}
    (found : selected signed = some (rest, rule)) {branch : List Signed}
    (inBranches : branch ∈ rule.branches) : ∀ t ∈ rest ++ branch, inherited t.f := by
  rcases eq_some_of_selected found with ⟨before, s, after, rfl, rfl, -, isRule⟩
  intro t member
  rcases List.mem_append.mp member with inRest | inBranch
  · apply all t
    rw [List.mem_append, List.mem_cons]
    exact (List.mem_append.mp inRest).imp id Or.inr
  · exact toOperand (all s (by simp)) (operand_of_expansion isRule branch inBranches t inBranch)

theorem inherited_succ (toOperand : ∀ {f g}, inherited f → g ∈ f.operands → inherited g)
    (all : ∀ s ∈ signed, inherited s.f) {A : Formula} (defect : A ∈ defects signed) :
    ∀ t ∈ succ signed A, inherited t.f := by
  have box : inherited (.box A) := all _ (mem_defects.mp defect)
  intro t member
  rcases mem_succ.mp member with ⟨a, isTrue, rfl | rfl⟩ | rfl | rfl
  · exact toOperand (all _ isTrue) List.mem_cons_self
  · exact all ⟨.T, .box a⟩ isTrue
  · exact box
  · exact toOperand box List.mem_cons_self

end Inheritance

/-! ### What one call returns -/

/-- The ways a call can end on a sequent without duplicates, given what the nested calls
may return. -/
inductive Outcome (returns : List Signed → SearchResult → Prop) (signed : List Signed) :
    SearchResult → Prop
  | clash {proof : Proof} (clashes : closure signed ≠ none) : Outcome returns signed (.closed proof)
  | allClosed {rest : List Signed} {rule : Expansion} {proof : Proof}
      (found : selected signed = some (rest, rule))
      (closed : ∀ branch ∈ rule.branches, ∃ sub, returns (rest ++ branch) (.closed sub)) :
      Outcome returns signed (.closed proof)
  | someOpen {rest : List Signed} {rule : Expansion} {branch : List Signed} {world : WorldNode}
      (found : selected signed = some (rest, rule)) (inBranches : branch ∈ rule.branches)
      (opened : returns (rest ++ branch) (.opened world)) : Outcome returns signed (.opened world)
  | unwitnessed {A : Formula} {sub proof : Proof} (found : selected signed = none)
      (defect : A ∈ defects signed) (closed : returns (succ signed A) (.closed sub)) :
      Outcome returns signed (.closed proof)
  | saturated {successors : List WorldNode} (consistent : closure signed = none)
      (found : selected signed = none)
      (opened : List.Forall₂ (fun A world => returns (succ signed A) (.opened world))
        (defects signed) successors) :
      Outcome returns signed (.opened (.node (trueAtoms signed) successors))

/-- What a search may return, from some counter. -/
def Returns (search : Search) (signed : List Signed) (result : SearchResult) : Prop :=
  ∃ counter counter', search counter signed = .ok (result, counter')

section Calls

variable {search : Search} {signed rest : List Signed} {counter counter' : Nat}

theorem searchBranches_outcome {branches : List (List Signed)} {found : WorldNode ⊕ List Proof}
    (returned : searchBranches search rest counter branches = .ok (found, counter')) :
    match found with
    | .inl world => ∃ branch ∈ branches, Returns search (rest ++ branch) (.opened world)
    | .inr _ => ∀ branch ∈ branches, ∃ proof, Returns search (rest ++ branch) (.closed proof) := by
  induction branches generalizing counter found with
  | nil =>
    cases returned
    exact fun branch member => absurd member List.not_mem_nil
  | cons br branches ih =>
    rw [searchBranches] at returned
    cases first : search counter (rest ++ br) with
    | error error => simp [first] at returned
    | ok firstResult =>
      rcases firstResult with ⟨proof | world, middle⟩
      · rw [first] at returned
        cases later : searchBranches search rest middle branches with
        | error error => simp [later] at returned
        | ok laterResult =>
          rcases laterResult with ⟨world | proofs, last⟩ <;>
            simp only [later, Except.ok.injEq, Prod.mk.injEq] at returned <;>
            rcases returned with ⟨rfl, rfl⟩
          · rcases ih later with ⟨branch, member, opened⟩
            exact ⟨branch, .tail _ member, opened⟩
          · rintro branch (_ | ⟨_, member⟩)
            · exact ⟨proof, counter, middle, first⟩
            · exact ih later branch member
      · simp only [first, Except.ok.injEq, Prod.mk.injEq] at returned
        rcases returned with ⟨rfl, rfl⟩
        exact ⟨br, .head _, counter, middle, first⟩

theorem searchDefects_outcome {wanted : List Formula} {found : (Formula × Proof) ⊕ List WorldNode}
    (returned : searchDefects search signed counter wanted = .ok (found, counter')) :
    match found with
    | .inl refuted => refuted.1 ∈ wanted ∧ Returns search (succ signed refuted.1) (.closed refuted.2)
    | .inr successors =>
      List.Forall₂ (fun A world => Returns search (succ signed A) (.opened world))
        wanted successors := by
  induction wanted generalizing counter found with
  | nil =>
    cases returned
    exact List.Forall₂.nil
  | cons A wanted ih =>
    rw [searchDefects] at returned
    cases first : search counter (succ signed A) with
    | error error => simp [first] at returned
    | ok firstResult =>
      rcases firstResult with ⟨proof | world, middle⟩
      · simp only [first, Except.ok.injEq, Prod.mk.injEq] at returned
        rcases returned with ⟨rfl, rfl⟩
        exact ⟨.head _, counter, middle, first⟩
      · rw [first] at returned
        cases later : searchDefects search signed middle wanted with
        | error error => simp [later] at returned
        | ok laterResult =>
          rcases laterResult with ⟨refuted | successors, last⟩ <;>
            simp only [later, Except.ok.injEq, Prod.mk.injEq] at returned <;>
            rcases returned with ⟨rfl, rfl⟩
          · have below := ih later
            exact ⟨.tail _ below.1, below.2⟩
          · exact List.Forall₂.cons ⟨counter, middle, first⟩ (ih later)

theorem searchNode_outcome {result : SearchResult}
    (returned : searchNode search counter signed = .ok (result, counter')) :
    Outcome (Returns search) (dedup signed) result := by
  rw [searchNode] at returned
  cases closes : closure (dedup signed) with
  | some reason =>
    simp only [closes, Except.ok.injEq, Prod.mk.injEq] at returned
    rcases returned with ⟨rfl, rfl⟩
    exact .clash (closes ▸ Option.some_ne_none reason)
  | none =>
    simp only [closes] at returned
    cases chosen : selected (dedup signed) with
    | some selection =>
      rcases selection with ⟨rest, ⟨adds, name⟩ | ⟨branches, name⟩⟩ <;>
        simp only [chosen] at returned
      · cases nested : search counter (rest ++ adds) with
        | error error => simp [nested] at returned
        | ok nestedResult =>
          rcases nestedResult with ⟨proof | world, last⟩ <;>
            simp only [nested, Except.ok.injEq, Prod.mk.injEq] at returned <;>
            rcases returned with ⟨rfl, rfl⟩
          · apply Outcome.allClosed chosen
            intro branch member
            rw [List.mem_singleton.mp member]
            exact ⟨proof, counter, last, nested⟩
          · exact .someOpen chosen (List.mem_singleton_self adds) ⟨counter, last, nested⟩
      · cases nested : searchBranches search rest counter branches with
        | error error => simp [nested] at returned
        | ok nestedResult =>
          rcases nestedResult with ⟨world | proofs, last⟩ <;>
            simp only [nested, Except.ok.injEq, Prod.mk.injEq] at returned <;>
            rcases returned with ⟨rfl, rfl⟩
          · rcases searchBranches_outcome nested with ⟨branch, member, opened⟩
            exact .someOpen chosen member opened
          · exact .allClosed chosen (searchBranches_outcome nested)
    | none =>
      simp only [chosen] at returned
      cases nested : searchDefects search (dedup signed) counter (defects (dedup signed)) with
      | error error => simp [nested] at returned
      | ok nestedResult =>
        rcases nestedResult with ⟨refuted | successors, last⟩ <;>
          simp only [nested, Except.ok.injEq, Prod.mk.injEq] at returned <;>
          rcases returned with ⟨rfl, rfl⟩
        · have below := searchDefects_outcome nested
          exact .unwitnessed chosen below.1 below.2
        · exact .saturated closes chosen (searchDefects_outcome nested)

end Calls

end GhostArk.ResearchFrontier.Lobian.GlTableau
