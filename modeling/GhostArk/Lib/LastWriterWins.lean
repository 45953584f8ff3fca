import Mathlib.Data.Set.Insert
import Mathlib.Order.Lattice

/-!
Contract: a cell that keeps the value of greatest priority.

Owns adoption of one value after another, what a cell holds of a set of values, how
that grows by one value and by the cell of another set, and its uniqueness where no
two values share a priority.
-/

namespace GhostArk.Lib

variable {V P : Type} [LinearOrder P] (priority : V → P)

/-- The held value, or the incoming one if it has a greater priority. -/
def adopt (held : Option V) (incoming : V) : Option V :=
  match held with
  | none => some incoming
  | some value => if priority value < priority incoming then some incoming else held

/-- What another cell holds is adopted, if it holds anything. -/
def joinHeld (held incoming : Option V) : Option V := incoming.elim held (adopt priority held)

/-- The cell holds a value of greatest priority among the given ones, or there are none. -/
def HoldsGreatest (held : Option V) (values : Set V) : Prop :=
  match held with
  | none => ∀ value, value ∉ values
  | some value => value ∈ values ∧ ∀ other ∈ values, priority other ≤ priority value

variable {priority}

variable {values : Set V}

theorem HoldsGreatest.mem {value : V} (holds : HoldsGreatest priority (some value) values) :
    value ∈ values := holds.1

variable {held : Option V}

theorem HoldsGreatest.exists_le {value : V} (holds : HoldsGreatest priority held values)
    (member : value ∈ values) :
    ∃ greatest, held = some greatest ∧ priority value ≤ priority greatest := by
  cases held with
  | none => exact absurd member (holds value)
  | some greatest => exact ⟨greatest, rfl, holds.2 value member⟩

theorem holdsGreatest_congr {left right : Set V} (same : ∀ value, value ∈ left ↔ value ∈ right) :
    HoldsGreatest priority held left ↔ HoldsGreatest priority held right := by
  rw [Set.ext same]

theorem HoldsGreatest.adopt {values others : Set V} {incoming : V}
    (holds : HoldsGreatest priority held values)
    (greatest : HoldsGreatest priority (some incoming) others) :
    HoldsGreatest priority (adopt priority held incoming) (values ∪ others) := by
  cases held with
  | none =>
    refine ⟨Or.inr greatest.1, ?_⟩
    rintro other (member | member)
    · exact absurd member (holds other)
    · exact greatest.2 other member
  | some value =>
    rw [Lib.adopt]
    by_cases below : priority value < priority incoming
    · rw [if_pos below]
      refine ⟨Or.inr greatest.1, ?_⟩
      rintro other (member | member)
      · exact (holds.2 other member).trans below.le
      · exact greatest.2 other member
    · rw [if_neg below]
      refine ⟨Or.inl holds.1, ?_⟩
      rintro other (member | member)
      · exact holds.2 other member
      · exact (greatest.2 other member).trans (not_lt.mp below)

theorem HoldsGreatest.joinHeld {held incoming : Option V} {values others : Set V}
    (holds : HoldsGreatest priority held values)
    (holdsOthers : HoldsGreatest priority incoming others) :
    HoldsGreatest priority (joinHeld priority held incoming) (values ∪ others) := by
  cases incoming with
  | none =>
    rw [Set.eq_empty_of_forall_notMem holdsOthers, Set.union_empty]
    exact holds
  | some value => exact holds.adopt holdsOthers

theorem holdsGreatest_singleton (value : V) : HoldsGreatest priority (some value) {value} :=
  ⟨rfl, fun _ member => by rw [Set.mem_singleton_iff.mp member]⟩

theorem HoldsGreatest.unique {left right : Option V}
    (separates : ∀ first ∈ values, ∀ second ∈ values, priority first = priority second →
      first = second) (isLeft : HoldsGreatest priority left values)
    (isRight : HoldsGreatest priority right values) : left = right := by
  cases left with
  | none =>
    cases right with
    | none => rfl
    | some value => exact absurd isRight.1 (isLeft value)
  | some first =>
    rcases isRight.exists_le isLeft.1 with ⟨second, rfl, below⟩
    have above := isLeft.2 second isRight.1
    rw [separates first isLeft.1 second isRight.1 (le_antisymm below above)]

variable (priority)

/-- Two cells do not hold different values of one priority. -/
def Untied (held incoming : Option V) : Prop :=
  ∀ value, held = some value → ∀ other, incoming = some other →
    priority value = priority other → value = other

/-- The cell holds a value whose priority is greater than that of every other, or there are
none. -/
def HoldsLeader (held : Option V) (values : Set V) : Prop :=
  HoldsGreatest priority held values ∧
    ∀ value, held = some value → ∀ other ∈ values, priority other = priority value → other = value

variable {priority}

omit [LinearOrder P] in
theorem untied_none (incoming : Option V) : Untied priority none incoming := by
  intro value absent
  cases absent

theorem HoldsLeader.unique {left right : Option V} (isLeft : HoldsLeader priority left values)
    (isRight : HoldsLeader priority right values) : left = right := by
  cases left with
  | none =>
    cases right with
    | none => rfl
    | some value => exact absurd isRight.1.mem (isLeft.1 value)
  | some first =>
    rcases isRight.1.exists_le isLeft.1.mem with ⟨second, rfl, below⟩
    have above := isLeft.1.2 second isRight.1.mem
    rw [isLeft.2 first rfl second isRight.1.mem (le_antisymm above below)]

theorem holdsLeader_none : HoldsLeader priority none (∅ : Set V) :=
  ⟨fun _ member => member, fun _ absent => by cases absent⟩

theorem holdsLeader_singleton (value : V) : HoldsLeader priority (some value) {value} := by
  refine ⟨holdsGreatest_singleton value, ?_⟩
  intro leader isLeader other member _
  exact member.trans (Option.some.inj isLeader)

theorem HoldsLeader.joinHeld {held incoming : Option V} {values others : Set V}
    (holds : HoldsLeader priority held values) (holdsOthers : HoldsLeader priority incoming others)
    (untied : Untied priority held incoming) :
    HoldsLeader priority (joinHeld priority held incoming) (values ∪ others) := by
  refine ⟨holds.1.joinHeld holdsOthers.1, ?_⟩
  cases incoming with
  | none =>
    rw [Set.eq_empty_of_forall_notMem holdsOthers.1, Set.union_empty]
    exact holds.2
  | some second =>
    cases held with
    | none =>
      rw [Set.eq_empty_of_forall_notMem holds.1, Set.empty_union]
      exact holdsOthers.2
    | some first =>
      have apart := untied first rfl second rfl
      rw [Lib.joinHeld, Option.elim_some, adopt]
      split
      · rename_i below
        intro leader isLeader other member same
        obtain rfl := Option.some.inj isLeader
        apply member.elim _ fun member => holdsOthers.2 second rfl other member same
        intro inValues
        exact absurd (same.symm.trans_le (holds.1.2 other inValues)) (not_le.mpr below)
      · rename_i notBelow
        intro leader isLeader other member same
        obtain rfl := Option.some.inj isLeader
        apply member.elim (fun member => holds.2 first rfl other member same)
        intro inOthers
        -- A value of the leader's priority among the others ties with what their cell holds.
        have above := same.symm.trans_le (holdsOthers.1.2 other inOthers)
        have tied := le_antisymm above (not_lt.mp notBelow)
        rw [apart tied]
        exact holdsOthers.2 second rfl other inOthers (same.trans tied)

@[simp] theorem joinHeld_none (held : Option V) : joinHeld priority held none = held := rfl

@[simp] theorem none_joinHeld (incoming : Option V) :
    joinHeld priority none incoming = incoming := by
  cases incoming <;> rfl

theorem some_joinHeld_some (first second : V) :
    joinHeld priority (some first) (some second) =
      some (if priority first < priority second then second else first) := by
  rw [joinHeld, Option.elim_some, adopt]
  exact (apply_ite some _ _ _).symm

@[simp] theorem joinHeld_self (held : Option V) : joinHeld priority held held = held := by
  cases held with
  | none => rfl
  | some value => rw [some_joinHeld_some, if_neg (lt_irrefl _)]

theorem joinHeld_assoc (first second third : Option V) :
    joinHeld priority (joinHeld priority first second) third =
      joinHeld priority first (joinHeld priority second third) := by
  cases first with
  | none => rw [none_joinHeld, none_joinHeld]
  | some first =>
    cases second with
    | none => rw [joinHeld_none, none_joinHeld]
    | some second =>
      cases third with
      | none => rw [joinHeld_none, joinHeld_none]
      | some third =>
        rw [some_joinHeld_some, some_joinHeld_some, some_joinHeld_some, some_joinHeld_some]
        by_cases below : priority first < priority second
        · rw [if_pos below]
          by_cases further : priority second < priority third
          · rw [if_pos further, if_pos (below.trans further)]
          · rw [if_neg further, if_pos below]
        · rw [if_neg below]
          by_cases further : priority second < priority third
          · rw [if_pos further]
          · rw [if_neg further, if_neg below,
              if_neg (not_lt.mpr ((not_lt.mp further).trans (not_lt.mp below)))]

theorem joinHeld_comm_iff {left right : Option V} :
    joinHeld priority left right = joinHeld priority right left ↔ Untied priority left right := by
  cases left with
  | none =>
    rw [none_joinHeld, joinHeld_none]
    exact iff_of_true rfl (untied_none right)
  | some first =>
    cases right with
    | none =>
      rw [none_joinHeld, joinHeld_none]
      exact iff_of_true rfl fun _ _ _ absent => by cases absent
    | some second =>
      rw [some_joinHeld_some, some_joinHeld_some, Option.some.injEq]
      constructor
      · intro same value isFirst other isSecond tied
        obtain rfl := Option.some.inj isFirst
        obtain rfl := Option.some.inj isSecond
        rwa [if_neg tied.not_lt, if_neg tied.symm.not_lt] at same
      · intro untied
        rcases lt_trichotomy (priority first) (priority second) with below | tied | above
        · rw [if_pos below, if_neg below.asymm]
        · rw [untied first rfl second rfl tied]
        · rw [if_pos above, if_neg above.asymm]

end GhostArk.Lib
