import Mathlib.Data.List.FinRange
import Mathlib.Data.List.Induction
import Mathlib.Data.Prod.Lex
import GhostArk.Lib.InsertionMap

/-!
Contract: searches that stop at the first accepted candidate or the first error.

Owns the enumeration of pairs `i < j`, the search, the candidate that decides it (the first one
the check does not plainly reject), and such searches over the pairs of a list that share a key,
group by group: the groups, the order in which the pairs of positions are tried, and the pair
that decides.
-/

namespace GhostArk.Lib

universe u v w

variable {α : Type u} {ε : Type v}

/-- All pairs of an earlier and a later element, in the order of two nested loops. -/
def orderedPairs : List α → List (α × α)
  | [] => []
  | first :: rest => rest.map (first, ·) ++ orderedPairs rest

theorem mem_of_mem_orderedPairs {items : List α} {pair : α × α} (member : pair ∈ orderedPairs items) :
    pair.1 ∈ items ∧ pair.2 ∈ items := by
  induction items with
  | nil => simp [orderedPairs] at member
  | cons first rest ih =>
    rcases List.mem_append.mp member with withFirst | inRest
    · obtain ⟨second, secondMember, rfl⟩ := List.mem_map.mp withFirst
      exact ⟨List.mem_cons_self, List.mem_cons_of_mem first secondMember⟩
    · have inner := ih inRest
      exact ⟨List.mem_cons_of_mem first inner.1, List.mem_cons_of_mem first inner.2⟩

/-- The first candidate that `check` accepts. An error of `check` ends the search. -/
def findFirst (check : α → Except ε Bool) : List α → Except ε (Option α)
  | [] => .ok none
  | candidate :: rest =>
    match check candidate with
    | .error error => .error error
    | .ok true => .ok (some candidate)
    | .ok false => findFirst check rest

/-- `check` returned, and returned `false`. -/
def rejected : Except ε Bool → Bool
  | .ok false => true
  | _ => false

/-- The first candidate that `check` does not plainly reject. -/
def decisive (check : α → Except ε Bool) (candidates : List α) : Option α :=
  candidates.find? fun candidate => !rejected (check candidate)

variable {check : α → Except ε Bool} {candidates : List α}

theorem findFirst_eq_some_iff {found : α} :
    findFirst check candidates = .ok (some found) ↔
      decisive check candidates = some found ∧ check found = .ok true := by
  induction candidates with
  | nil => simp [findFirst, decisive]
  | cons candidate rest ih =>
    unfold findFirst decisive
    cases outcome : check candidate with
    | error error =>
      simp only [List.find?_cons, outcome, rejected, Bool.not_false, reduceCtorEq,
        Option.some.injEq, false_iff, not_and]
      rintro rfl
      simp [outcome]
    | ok accepted =>
      cases accepted with
      | true =>
        simp only [List.find?_cons, outcome, rejected, Bool.not_false, Except.ok.injEq,
          Option.some.injEq]
        constructor
        · rintro rfl
          exact ⟨rfl, outcome⟩
        · exact fun both => both.1
      | false =>
        simp only [List.find?_cons, outcome, rejected, Bool.not_true]
        exact ih

theorem findFirst_eq_none_iff :
    findFirst check candidates = .ok none ↔ decisive check candidates = none := by
  induction candidates with
  | nil => simp [findFirst, decisive]
  | cons candidate rest ih =>
    unfold findFirst decisive
    cases outcome : check candidate with
    | error error => simp [outcome, rejected]
    | ok accepted =>
      cases accepted with
      | true => simp [outcome, rejected]
      | false =>
        simp only [List.find?_cons, outcome, rejected, Bool.not_true]
        exact ih

/-- The search returns nothing with property `P` exactly when the decisive
candidate, if any, is accepted without it. -/
theorem findFirst_avoids_iff {P : α → Prop} :
    (∃ found, findFirst check candidates = .ok found ∧ ∀ candidate ∈ found, ¬ P candidate) ↔
      ∀ candidate, decisive check candidates = some candidate →
        check candidate = .ok true ∧ ¬ P candidate := by
  constructor
  · intro search candidate first
    obtain ⟨found, searched, avoids⟩ := search
    cases found with
    | none =>
      rw [findFirst_eq_none_iff.mp searched] at first
      exact absurd first (by simp)
    | some accepted =>
      obtain ⟨firstAccepted, valid⟩ := findFirst_eq_some_iff.mp searched
      obtain rfl : accepted = candidate := Option.some.inj (firstAccepted.symm.trans first)
      exact ⟨valid, avoids accepted rfl⟩
  · intro avoids
    cases first : decisive check candidates with
    | none => exact ⟨none, findFirst_eq_none_iff.mpr first, by simp⟩
    | some candidate =>
      obtain ⟨valid, other⟩ := avoids candidate first
      refine ⟨some candidate, findFirst_eq_some_iff.mpr ⟨first, valid⟩, ?_⟩
      intro found member
      obtain rfl : candidate = found := by simpa using member
      exact other

/-! ### Groups in order of first appearance -/

theorem eraseDups_concat {K : Type v} [DecidableEq K] (keys : List K) (key : K) :
    (keys ++ [key]).eraseDups =
      if key ∈ keys then keys.eraseDups else keys.eraseDups ++ [key] := by
  rw [List.eraseDups_append]
  by_cases present : key ∈ keys
  · simp [present, List.removeAll]
  · simp [present, List.removeAll, List.eraseDups_cons]

theorem pairwise_eraseDups {K : Type v} [DecidableEq K] (keys : List K) :
    keys.eraseDups.Pairwise fun first second => keys.idxOf first < keys.idxOf second := by
  induction keys using List.reverseRecOn with
  | nil => exact List.Pairwise.nil
  | append_singleton keys key ih =>
    have kept : keys.eraseDups.Pairwise fun first second =>
        (keys ++ [key]).idxOf first < (keys ++ [key]).idxOf second := by
      refine ih.imp_of_mem fun isFirst isSecond before => ?_
      rw [List.idxOf_append_of_mem (List.mem_eraseDups.mp isFirst),
        List.idxOf_append_of_mem (List.mem_eraseDups.mp isSecond)]
      exact before
    rw [eraseDups_concat]
    split
    · exact kept
    next absent =>
      refine List.pairwise_append.mpr ⟨kept, List.pairwise_singleton _ _, ?_⟩
      intro first isFirst second isSecond
      obtain rfl := List.mem_singleton.mp isSecond
      have member := List.mem_eraseDups.mp isFirst
      rw [List.idxOf_append_of_mem member, List.idxOf_append_of_notMem absent]
      exact Nat.lt_add_right _ (List.idxOf_lt_length_of_mem member)

namespace InsertionMap

variable {α : Type u} {K : Type v} [DecidableEq K] {V : Type w}

theorem keys_set (map : InsertionMap K V) (key : K) (value : V) :
    (map.set key value).entries.map Prod.fst =
      if key ∈ map.entries.map Prod.fst then map.entries.map Prod.fst
      else map.entries.map Prod.fst ++ [key] := by
  unfold set
  split
  · exact keys_replace ..
  · rw [List.map_append]
    rfl

theorem flatMap_values {β : Type u} (map : InsertionMap K V) (f : V → List β) :
    map.values.flatMap f =
      (map.entries.map Prod.fst).flatMap fun key => ((map.get? key).map f).getD [] := by
  rw [values, List.flatMap_map, List.flatMap_map]
  apply List.flatMap_congr
  rintro ⟨key, value⟩ member
  rw [get?_eq_some_iff.mpr member]
  rfl

variable (key : α → K) (opening : α → V) (push : V → α → V)

def join (groups : InsertionMap K V) (item : α) : InsertionMap K V :=
  groups.set (key item) (push ((groups.get? (key item)).getD (opening item)) item)

def groupOf : List α → Option V
  | [] => none
  | first :: rest => some ((first :: rest).foldl push (opening first))

variable {key opening push}

theorem groupOf_concat (members : List α) (item : α) :
    groupOf opening push (members ++ [item]) =
      some (push ((groupOf opening push members).getD (opening item)) item) := by
  cases members with
  | nil => rfl
  | cons first rest => rw [List.cons_append, groupOf, ← List.cons_append, List.foldl_concat]; rfl

theorem get?_foldl_join (items : List α) (sought : K) :
    (items.foldl (join key opening push) empty).get? sought =
      groupOf opening push (items.filter fun item => key item = sought) := by
  induction items using List.reverseRecOn with
  | nil => rfl
  | append_singleton items item ih =>
    rw [List.foldl_concat, join, get?_set, List.filter_append, List.filter_singleton]
    by_cases same : key item = sought
    · subst same
      rw [if_pos rfl, decide_eq_true rfl, cond_true, groupOf_concat, ih]
    · rw [if_neg (Ne.symm same), decide_eq_false same, cond_false, List.append_nil, ih]

theorem keys_foldl_join (items : List α) :
    (items.foldl (join key opening push) empty).entries.map Prod.fst =
      (items.map key).eraseDups := by
  induction items using List.reverseRecOn with
  | nil => rfl
  | append_singleton items item ih =>
    rw [List.foldl_concat, join, keys_set, ih, List.map_append, List.map_singleton,
      eraseDups_concat]
    simp only [List.mem_eraseDups]

end InsertionMap

/-! ### Pairs of positions in the order they are tried -/

theorem mem_orderedPairs_iff {ι : Type u} [Preorder ι] {items : List ι}
    (sorted : items.Pairwise (· < ·)) {pair : ι × ι} :
    pair ∈ orderedPairs items ↔ pair.1 ∈ items ∧ pair.2 ∈ items ∧ pair.1 < pair.2 := by
  induction items with
  | nil => simp [orderedPairs]
  | cons first rest ih =>
    rw [List.pairwise_cons] at sorted
    rw [orderedPairs, List.mem_append, ih sorted.2, List.mem_map, List.mem_cons, List.mem_cons]
    constructor
    · rintro (⟨second, isLater, rfl⟩ | ⟨isFirst, isSecond, before⟩)
      · exact ⟨Or.inl rfl, Or.inr isLater, sorted.1 second isLater⟩
      · exact ⟨Or.inr isFirst, Or.inr isSecond, before⟩
    · rintro ⟨isFirst, isSecond, before⟩
      rcases isFirst with isHead | isFirst
      · rcases isSecond with same | isLater
        · exact absurd (isHead ▸ same ▸ before) (lt_irrefl _)
        · exact Or.inl ⟨pair.2, isLater, Prod.ext isHead.symm rfl⟩
      · rcases isSecond with isHead | isLater
        · exact absurd before (isHead ▸ (sorted.1 _ isFirst).not_gt)
        · exact Or.inr ⟨isFirst, isLater, before⟩

theorem pairwise_orderedPairs {ι : Type u} [Preorder ι] {items : List ι}
    (sorted : items.Pairwise (· < ·)) :
    (orderedPairs items).Pairwise fun first second => toLex first < toLex second := by
  induction items with
  | nil => exact List.Pairwise.nil
  | cons head rest ih =>
    rw [List.pairwise_cons] at sorted
    rw [orderedPairs, List.pairwise_append]
    refine ⟨?_, ih sorted.2, ?_⟩
    · rw [List.pairwise_map]
      refine sorted.2.imp ?_
      intro first second before
      exact Prod.Lex.toLex_lt_toLex.mpr (Or.inr ⟨rfl, before⟩)
    · intro first isFirst second isSecond
      obtain ⟨later, -, rfl⟩ := List.mem_map.mp isFirst
      exact Prod.Lex.toLex_lt_toLex.mpr
        (Or.inl (sorted.1 _ (mem_of_mem_orderedPairs isSecond).1))

theorem orderedPairs_map {α : Type u} {β : Type v} (f : α → β) (items : List α) :
    orderedPairs (items.map f) = (orderedPairs items).map (Prod.map f f) := by
  induction items with
  | nil => rfl
  | cons first rest ih =>
    rw [List.map_cons, orderedPairs, orderedPairs, List.map_append, ih, List.map_map,
      List.map_map]
    rfl

section Positions

variable {α : Type u} {K : Type v} [DecidableEq K] (key : α → K) (items : List α)

/-- The first position whose item has the key of the item at `i`. -/
def opener (i : Fin items.length) : Fin items.length :=
  ⟨(items.map key).idxOf (key items[i]),
    (List.idxOf_lt_length_of_mem (List.mem_map_of_mem (List.getElem_mem i.2))).trans_eq
      (List.length_map key)⟩

/-- When a pair is tried: groups in order of first appearance, then the two nested loops. -/
def turn (pair : Fin items.length × Fin items.length) :
    Fin items.length ×ₗ Fin items.length ×ₗ Fin items.length :=
  toLex (opener key items pair.1, toLex pair)

/-- Two positions, the first before the second, of one key and with different views. -/
structure Clash {D : Type w} (view : α → D) (pair : Fin items.length × Fin items.length) :
    Prop where
  ordered : pair.1 < pair.2
  sameKey : key items[pair.1] = key items[pair.2]
  differ : view items[pair.1] ≠ view items[pair.2]

def keyPairs : List (Fin items.length × Fin items.length) :=
  (items.map key).eraseDups.flatMap fun sought =>
    orderedPairs ((List.finRange items.length).filter fun i => key items[i] = sought)

variable {key items}

theorem pairwise_positions (isMember : Fin items.length → Bool) :
    ((List.finRange items.length).filter isMember).Pairwise (· < ·) :=
  (List.pairwise_lt_finRange _).filter _

variable {pair : Fin items.length × Fin items.length}

theorem mem_block_iff {sought : K} :
    pair ∈ orderedPairs ((List.finRange items.length).filter fun i => key items[i] = sought) ↔
      pair.1 < pair.2 ∧ key items[pair.1] = sought ∧ key items[pair.2] = sought := by
  rw [mem_orderedPairs_iff (pairwise_positions _), List.mem_filter, List.mem_filter,
    decide_eq_true_eq, decide_eq_true_eq]
  constructor
  · rintro ⟨⟨-, first⟩, ⟨-, second⟩, before⟩
    exact ⟨before, first, second⟩
  · rintro ⟨before, first, second⟩
    exact ⟨⟨List.mem_finRange _, first⟩, ⟨List.mem_finRange _, second⟩, before⟩

theorem mem_keyPairs_iff :
    pair ∈ keyPairs key items ↔ pair.1 < pair.2 ∧ key items[pair.1] = key items[pair.2] := by
  rw [keyPairs, List.mem_flatMap]
  constructor
  · rintro ⟨sought, -, member⟩
    obtain ⟨before, first, second⟩ := mem_block_iff.mp member
    exact ⟨before, first.trans second.symm⟩
  · rintro ⟨before, same⟩
    exact ⟨key items[pair.1],
      List.mem_eraseDups.mpr (List.mem_map_of_mem (List.getElem_mem pair.1.2)),
      mem_block_iff.mpr ⟨before, rfl, same.symm⟩⟩

theorem pairwise_keyPairs :
    (keyPairs key items).Pairwise fun first second =>
      turn key items first < turn key items second := by
  rw [keyPairs, List.pairwise_flatMap]
  constructor
  · intro sought _
    refine (pairwise_orderedPairs (pairwise_positions _)).imp_of_mem ?_
    intro first second isFirst isSecond before
    have sameOpener : opener key items first.1 = opener key items second.1 := by
      rw [opener, opener, Fin.mk.injEq, (mem_block_iff.mp isFirst).2.1,
        (mem_block_iff.mp isSecond).2.1]
    exact Prod.Lex.toLex_lt_toLex.mpr (Or.inr ⟨sameOpener, before⟩)
  · refine (pairwise_eraseDups _).imp ?_
    intro sought later before first isFirst second isSecond
    refine Prod.Lex.toLex_lt_toLex.mpr (Or.inl ?_)
    rw [opener, opener, Fin.mk_lt_mk, (mem_block_iff.mp isFirst).2.1,
      (mem_block_iff.mp isSecond).2.1]
    exact before

private theorem find?_key {sought : K} (isMember : sought ∈ items.map key) :
    (items.find? fun item => key item = sought) = items[(items.map key).idxOf sought]? := by
  induction items with
  | nil => cases isMember
  | cons first rest ih =>
    rw [List.map_cons, List.idxOf_cons]
    by_cases same : key first = sought
    · rw [List.find?_cons, decide_eq_true same, beq_iff_eq.mpr same]
      rfl
    · rw [List.find?_cons, decide_eq_false same, beq_eq_false_iff_ne.mpr same]
      exact ih ((List.mem_cons.mp isMember).resolve_left (Ne.symm same))

theorem find?_eq_opener {i : Fin items.length} :
    (items.find? fun item => key item = key items[i]) = some items[opener key items i] := by
  exact (find?_key (List.mem_map_of_mem (List.getElem_mem i.2))).trans
    (List.getElem?_eq_getElem (opener key items i).2)

theorem key_opener (key : α → K) (i : Fin items.length) :
    key items[opener key items i] = key items[i] := by
  have found : (items.find? fun item => key item = key items[i]) =
      some items[opener key items i] := find?_eq_opener
  have isKey := List.find?_some found
  exact of_decide_eq_true isKey

/-- Only which items share a key matters. -/
theorem opener_congr {L : Type w} [DecidableEq L] {label : α → L}
    (same : ∀ first second, key first = key second ↔ label first = label second) :
    opener key items = opener label items := by
  funext i
  simp only [opener, List.idxOf, List.findIdx_map, Function.comp_def, beq_eq_decide, same]

variable {V : Type w} {opening : α → V} {push : V → α → V}

/-- What the loops over the groups try, as a list over pairs of positions. -/
theorem flatMap_groups_eq {D : Type w} [DecidableEq D] {view : α → D} {β : Type u}
    {candidates : V → List β} {build : α → α → α → β}
    (made : ∀ first rest, candidates ((first :: rest).foldl push (opening first)) =
      (orderedPairs (first :: rest)).filterMap fun pair =>
        if view pair.1 = view pair.2 then none else some (build first pair.1 pair.2)) :
    (items.foldl (InsertionMap.join key opening push) .empty).values.flatMap candidates =
      ((keyPairs key items).filter fun pair => view items[pair.1] ≠ view items[pair.2]).map
        fun pair => build items[opener key items pair.1] items[pair.1] items[pair.2] := by
  rw [InsertionMap.flatMap_values, InsertionMap.keys_foldl_join, keyPairs, List.filter_flatMap,
    List.map_flatMap]
  apply List.flatMap_congr
  intro sought member
  have positions : items.filter (fun item => key item = sought) =
      ((List.finRange items.length).filter fun i => key items[i] = sought).map
        (fun i => items[i]) := by
    conv_lhs => rw [← List.map_getElem_finRange items]
    rw [List.filter_map]
    rfl
  rw [InsertionMap.get?_foldl_join]
  cases members : items.filter (fun item => key item = sought) with
  | nil =>
    rw [members] at positions
    rw [List.map_eq_nil_iff.mp positions.symm]
    rfl
  | cons first rest =>
    rw [InsertionMap.groupOf, Option.map_some, Option.getD_some, made, ← members, positions,
      orderedPairs_map, List.filterMap_map, ← List.filterMap_eq_map, List.filterMap_filter]
    apply List.filterMap_congr
    intro pair inBlock
    have isFirst : (items.filter fun item => key item = sought).head? = some first := by
      rw [members]
      rfl
    rw [List.head?_filter, ← (mem_block_iff.mp inBlock).2.1, find?_eq_opener] at isFirst
    rw [← Option.some.inj isFirst]
    simp

/-- The same pairs under any label that tells the keys apart, in the order of their turns. -/
theorem flatMap_groups_inOrder {L : Type w} [DecidableEq L] {label : α → L}
    (same : ∀ first second, key first = key second ↔ label first = label second)
    {D : Type w} [DecidableEq D] (view : α → D) {β : Type u} {candidates : V → List β}
    (build : α → α → α → β)
    (made : ∀ first rest, candidates ((first :: rest).foldl push (opening first)) =
      (orderedPairs (first :: rest)).filterMap fun pair =>
        if view pair.1 = view pair.2 then none else some (build first pair.1 pair.2)) :
    ∃ pairs : List (Fin items.length × Fin items.length),
      pairs.Pairwise (fun first second => turn label items first < turn label items second) ∧
        (∀ pair, pair ∈ pairs ↔ Clash label items view pair) ∧
        (items.foldl (InsertionMap.join key opening push) .empty).values.flatMap candidates =
          pairs.map fun pair =>
            build items[opener label items pair.1] items[pair.1] items[pair.2] := by
  rw [flatMap_groups_eq made]
  simp only [opener_congr same]
  refine ⟨_, ?_, ?_, rfl⟩
  · have sorted := @pairwise_keyPairs α K _ key items
    simp only [turn, opener_congr same] at sorted
    exact sorted.filter _
  · intro pair
    rw [List.mem_filter, mem_keyPairs_iff, same, decide_eq_true_eq]
    exact ⟨fun ⟨⟨ordered, sameKey⟩, differ⟩ => ⟨ordered, sameKey, differ⟩,
      fun clash => ⟨⟨clash.ordered, clash.sameKey⟩, clash.differ⟩⟩

end Positions

/-! ### The item that decides a search -/

section Decision

variable {ι : Type u} {τ : Type v} {β : Type w} {ε : Type v}

/-- The search ends at this item: it is shown or stops the search, and no item that comes earlier
does either. -/
def Decides [LT τ] (tries shows stops : ι → Prop) (rank : ι → τ) (item : ι) : Prop :=
  tries item ∧ (shows item ∨ stops item) ∧
    ∀ earlier, tries earlier → rank earlier < rank item → ¬ shows earlier ∧ ¬ stops earlier

/-- The candidates are those of the tried items in the order of their ranks; a check of a candidate
accepts what its item shows, and fails to return where its item stops the search. -/
structure Scan [LT τ] (tries shows stops : ι → Prop) (rank : ι → τ) (candidate : ι → β)
    (check : β → Except ε Bool) (candidates : List β) : Prop where
  inOrder : ∃ items : List ι, items.Pairwise (fun first second => rank first < rank second) ∧
    (∀ item, item ∈ items ↔ tries item) ∧ candidates = items.map candidate
  accepted : ∀ item, tries item → (check (candidate item) = .ok true ↔ shows item)
  returns : ∀ item, tries item →
    ((∃ verdict, check (candidate item) = .ok verdict) ↔ ¬ stops item)

variable [Preorder τ] {tries shows stops : ι → Prop} {rank : ι → τ} {candidate : ι → β}
  {check : β → Except ε Bool} {candidates : List β}

theorem mem_before_iff {before after : List ι} {item earlier : ι}
    (sorted : (before ++ item :: after).Pairwise fun first second => rank first < rank second) :
    earlier ∈ before ↔ earlier ∈ before ++ item :: after ∧ rank earlier < rank item := by
  obtain ⟨-, sortedAfter, across⟩ := List.pairwise_append.mp sorted
  constructor
  · intro isBefore
    exact ⟨List.mem_append_left _ isBefore, across earlier isBefore item List.mem_cons_self⟩
  · rintro ⟨member, isLess⟩
    rcases List.mem_append.mp member with isBefore | member
    · exact isBefore
    · rcases List.mem_cons.mp member with rfl | isAfter
      · exact absurd isLess (lt_irrefl _)
      · exact absurd isLess ((List.pairwise_cons.mp sortedAfter).1 earlier isAfter).not_gt

section Scan

variable (scan : Scan tries shows stops rank candidate check candidates)
include scan

theorem Scan.rejected_iff {item : ι} (isTried : tries item) :
    rejected (check (candidate item)) = true ↔ ¬ shows item ∧ ¬ stops item := by
  rw [← scan.accepted item isTried, ← scan.returns item isTried]
  cases check (candidate item) with
  | error error => simp [rejected]
  | ok verdict => cases verdict <;> simp [rejected]

theorem Scan.decisive_iff {found : β} :
    decisive check candidates = some found ↔
      ∃ item, Decides tries shows stops rank item ∧ candidate item = found := by
  obtain ⟨items, sorted, isTried, rfl⟩ := scan.inOrder
  rw [decisive, List.find?_map, Option.map_eq_some_iff]
  apply exists_congr
  intro item
  refine and_congr_left fun _ => ?_
  rw [List.find?_eq_some_iff_append, Function.comp_apply, Bool.not_eq_true', ← Bool.not_eq_true]
  constructor
  · rintro ⟨notRejected, before, after, rfl, allRejected⟩
    have tried := (isTried item).mp (List.mem_append_right _ List.mem_cons_self)
    rw [scan.rejected_iff tried, ← not_or, not_not] at notRejected
    refine ⟨tried, notRejected, ?_⟩
    intro earlier earlierTried isLess
    have isBefore := (mem_before_iff sorted).mpr ⟨(isTried earlier).mpr earlierTried, isLess⟩
    exact (scan.rejected_iff earlierTried).mp (by simpa using allRejected earlier isBefore)
  · rintro ⟨tried, ends, earlierNeither⟩
    rw [scan.rejected_iff tried, ← not_or, not_not]
    obtain ⟨before, after, rfl⟩ := List.append_of_mem ((isTried item).mpr tried)
    refine ⟨ends, before, after, rfl, ?_⟩
    intro earlier isBefore
    obtain ⟨member, isLess⟩ := (mem_before_iff sorted).mp isBefore
    have earlierTried := (isTried earlier).mp member
    simpa using (scan.rejected_iff earlierTried).mpr (earlierNeither earlier earlierTried isLess)

/-- The search returns nothing with property `P` exactly when the item that decides it, if any, is
shown and has a candidate without it. -/
theorem Scan.avoids_iff {P : β → Prop} :
    (∃ found, findFirst check candidates = .ok found ∧ ∀ candidate ∈ found, ¬ P candidate) ↔
      ∀ item, Decides tries shows stops rank item → shows item ∧ ¬ P (candidate item) := by
  simp only [findFirst_avoids_iff, scan.decisive_iff]
  constructor
  · intro avoids item decides
    obtain ⟨valid, other⟩ := avoids _ ⟨item, decides, rfl⟩
    exact ⟨(scan.accepted item decides.1).mp valid, other⟩
  · rintro avoids _ ⟨item, decides, rfl⟩
    obtain ⟨isShown, other⟩ := avoids item decides
    exact ⟨(scan.accepted item decides.1).mpr isShown, other⟩

theorem Scan.decisive_eq_none_iff :
    decisive check candidates = none ↔ ∀ item, tries item → ¬ shows item ∧ ¬ stops item := by
  obtain ⟨items, -, isTried, rfl⟩ := scan.inOrder
  rw [decisive, List.find?_map, Option.map_eq_none_iff, List.find?_eq_none]
  apply forall_congr'
  intro item
  rw [isTried]
  refine imp_congr_right fun tried => ?_
  rw [Function.comp_apply, Bool.not_eq_true', ← Bool.not_eq_true, not_not,
    scan.rejected_iff tried]

end Scan

end Decision

end GhostArk.Lib
