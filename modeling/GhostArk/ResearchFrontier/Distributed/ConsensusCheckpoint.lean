import Mathlib.Data.Finset.Max
import GhostArk.Js.Number
import GhostArk.Lib.InsertionMap

/-!
Contract: `packages/research-frontier/src/distributed/ConsensusCheckpoint.ts`.

Owns votes, the tally of their roots, its closed form, and the vote histories in which a reached
consensus has distinct voters.

The tally reads only the root of a vote: one node counts as often as it votes, and votes of
different epochs count together. Counts are natural numbers, which doubles count exactly up to
`2 ^ 53`.
-/

namespace GhostArk.ResearchFrontier.Distributed

open Js
open Lib

structure Vote where
  nodeId : JsString
  epochId : JsString
  merkleRoot : JsString
  signature : JsString
deriving DecidableEq

structure ConsensusCheckpointValidator where
  votes : List Vote

namespace ConsensusCheckpointValidator

def new : ConsensusCheckpointValidator := ⟨[]⟩

def castVote (validator : ConsensusCheckpointValidator) (vote : Vote) :
    ConsensusCheckpointValidator :=
  ⟨validator.votes ++ [vote]⟩

/-- `rootCounts.get(root) || 0` -/
def countOf (rootCounts : InsertionMap JsString Nat) (root : JsString) : Nat :=
  (rootCounts.get? root).getD 0

/-- The loop of `isConsensusReached`, over the votes that are left. -/
def tally (threshold : JsNumber) (rootCounts : InsertionMap JsString Nat) : List Vote → Bool
  | [] => false
  | vote :: rest =>
    let count := countOf rootCounts vote.merkleRoot + 1
    if JsNumber.le threshold (.ofNat count) then true
    else tally threshold (rootCounts.set vote.merkleRoot count) rest

def isConsensusReached (validator : ConsensusCheckpointValidator)
    (threshold : JsNumber := .ofNat 3) : Bool :=
  tally threshold .empty validator.votes

theorem votes_foldl_castVote (votes : List Vote) (validator : ConsensusCheckpointValidator) :
    (votes.foldl castVote validator).votes = validator.votes ++ votes := by
  induction votes generalizing validator with
  | nil => exact (List.append_nil _).symm
  | cons vote rest ih =>
    rw [List.foldl_cons, ih, castVote, List.append_assoc, List.singleton_append]

def votesFor (votes : List Vote) (root : JsString) : Nat :=
  votes.countP fun vote => vote.merkleRoot = root

theorem votesFor_cons (vote : Vote) (votes : List Vote) (root : JsString) :
    votesFor (vote :: votes) root =
      votesFor votes root + if vote.merkleRoot = root then 1 else 0 := by
  rw [votesFor, List.countP_cons, votesFor]
  simp only [decide_eq_true_eq]

variable {votes : List Vote}

theorem votesFor_pos_iff {root : JsString} :
    0 < votesFor votes root ↔ ∃ vote ∈ votes, vote.merkleRoot = root := by
  rw [votesFor, List.countP_pos_iff]
  simp only [decide_eq_true_eq]

theorem countOf_set_add (rootCounts : InsertionMap JsString Nat) (vote : Vote) (rest : List Vote)
    (root : JsString) :
    countOf (rootCounts.set vote.merkleRoot (countOf rootCounts vote.merkleRoot + 1)) root +
        votesFor rest root =
      countOf rootCounts root + votesFor (vote :: rest) root := by
  rw [votesFor_cons]
  by_cases same : vote.merkleRoot = root
  · subst same
    rw [if_pos rfl, countOf, InsertionMap.get?_set_self, Option.getD_some]
    omega
  · rw [if_neg same, countOf, InsertionMap.get?_set_ne _ (Ne.symm same), countOf, Nat.add_zero]

theorem tally_iff {threshold : JsNumber} {rootCounts : InsertionMap JsString Nat} :
    tally threshold rootCounts votes = true ↔
      ∃ root, 0 < votesFor votes root ∧
        JsNumber.le threshold (.ofNat (countOf rootCounts root + votesFor votes root)) = true := by
  induction votes generalizing rootCounts with
  | nil =>
    apply iff_of_false Bool.false_ne_true
    rintro ⟨root, voted, _⟩
    exact absurd voted (Nat.lt_irrefl 0)
  | cons vote rest ih =>
    rw [tally]
    by_cases reached :
        JsNumber.le threshold (.ofNat (countOf rootCounts vote.merkleRoot + 1)) = true
    · rw [if_pos reached]
      apply iff_of_true rfl
      refine ⟨vote.merkleRoot, ?_, JsNumber.le_ofNat_mono reached ?_⟩
      · exact votesFor_pos_iff.mpr ⟨vote, List.mem_cons_self, rfl⟩
      · rw [votesFor_cons, if_pos rfl]
        omega
    · rw [if_neg reached, ih]
      simp only [countOf_set_add]
      apply exists_congr
      intro root
      apply and_congr_left
      intro later
      rw [votesFor_cons]
      -- A root whose last vote is this one has not got to the threshold.
      constructor
      · intro voted
        exact Nat.add_pos_left voted _
      · intro voted
        by_contra unvoted
        have none : votesFor rest root = 0 := Nat.eq_zero_of_not_pos unvoted
        by_cases same : vote.merkleRoot = root
        · subst same
          rw [votesFor_cons, none, if_pos rfl] at later
          exact reached later
        · rw [none, if_neg same] at voted
          exact absurd voted (Nat.lt_irrefl 0)

theorem isConsensusReached_iff {validator : ConsensusCheckpointValidator} {threshold : JsNumber} :
    validator.isConsensusReached threshold = true ↔
      ∃ root, 0 < votesFor validator.votes root ∧
        JsNumber.le threshold (.ofNat (votesFor validator.votes root)) = true := by
  rw [isConsensusReached, tally_iff]
  have start (root : JsString) : countOf .empty root = 0 := rfl
  simp only [start, Nat.zero_add]

/-! ### Distinct voters -/

def ballots (votes : List Vote) (epochId root : JsString) : List Vote :=
  votes.filter fun vote => vote.epochId = epochId ∧ vote.merkleRoot = root

def voters (votes : List Vote) (epochId root : JsString) : Finset JsString :=
  ((ballots votes epochId root).map Vote.nodeId).toFinset

def MostVoted (votes : List Vote) (root : JsString) : Prop :=
  ∀ other, votesFor votes other ≤ votesFor votes root

/-- All votes for the root are of the epoch, and no two are of one node. -/
def Distinct (votes : List Vote) (epochId root : JsString) : Prop :=
  (∀ vote ∈ votes, vote.merkleRoot = root → vote.epochId = epochId) ∧
    ((ballots votes epochId root).map Vote.nodeId).Nodup

theorem length_ballots_le (votes : List Vote) (epochId root : JsString) :
    (ballots votes epochId root).length ≤ votesFor votes root := by
  rw [ballots, ← List.countP_eq_length_filter]
  apply List.countP_mono_left
  intro vote _ both
  exact decide_eq_true (of_decide_eq_true both).2

theorem card_voters_le (votes : List Vote) (epochId root : JsString) :
    (voters votes epochId root).card ≤ (ballots votes epochId root).length := by
  apply (List.toFinset_card_le _).trans
  rw [List.length_map]

theorem card_voters_eq_iff {epochId root : JsString} :
    (voters votes epochId root).card = votesFor votes root ↔ Distinct votes epochId root := by
  have lengthIff : (ballots votes epochId root).length = votesFor votes root ↔
      ∀ vote ∈ votes, vote.merkleRoot = root → vote.epochId = epochId := by
    have nested : ballots votes epochId root =
        (votes.filter fun vote => vote.merkleRoot = root).filter
          fun vote => vote.epochId = epochId := by
      rw [ballots, List.filter_filter]
      simp only [Bool.decide_and]
    rw [nested, votesFor, List.countP_eq_length_filter, List.length_filter_eq_length_iff]
    simp only [List.mem_filter, decide_eq_true_eq, and_imp]
  have cardIff : (voters votes epochId root).card = (ballots votes epochId root).length ↔
      ((ballots votes epochId root).map Vote.nodeId).Nodup := by
    have lengths : ((ballots votes epochId root).map Vote.nodeId).length =
        (ballots votes epochId root).length := List.length_map Vote.nodeId
    rw [← lengths]
    exact Multiset.toFinset_card_eq_card_iff_nodup
  rw [Distinct, ← lengthIff, ← cardIff]
  have cardLe := card_voters_le votes epochId root
  have lengthLe := length_ballots_le votes epochId root
  omega

theorem exists_mostVoted (votes : List Vote) : ∃ root, MostVoted votes root := by
  rcases votes.eq_nil_or_concat' with rfl | ⟨earlier, last, isConcat⟩
  · exact ⟨[], fun _ => Nat.le_refl 0⟩
  · have voted : (votes.map Vote.merkleRoot).toFinset.Nonempty := by
      refine ⟨last.merkleRoot, List.mem_toFinset.mpr (List.mem_map_of_mem ?_)⟩
      rw [isConcat]
      exact List.mem_append_right _ (List.mem_singleton_self last)
    rcases Finset.exists_max_image _ (votesFor votes) voted with ⟨root, _, isMost⟩
    refine ⟨root, fun other => ?_⟩
    by_contra more
    rcases votesFor_pos_iff.mp (Nat.zero_lt_of_lt (not_le.mp more)) with ⟨vote, member, rfl⟩
    exact more (isMost _ (List.mem_toFinset.mpr (List.mem_map_of_mem member)))

/-- Whatever is cast: at every threshold a reached consensus has that many distinct nodes behind
one root in one epoch, exactly if some most voted root has only distinct votes. -/
theorem consensus_distinct_iff (votes : List Vote) :
    (∀ threshold, JsNumber.le (.ofNat 1) threshold = true →
      (votes.foldl castVote new).isConsensusReached threshold = true →
        ∃ epochId root,
          JsNumber.le threshold (.ofNat (voters votes epochId root).card) = true) ↔
      ∃ epochId root, MostVoted votes root ∧ Distinct votes epochId root := by
  simp only [isConsensusReached_iff, votes_foldl_castVote, new, List.nil_append]
  constructor
  · intro distinct
    rcases exists_mostVoted votes with ⟨most, isMost⟩
    rcases Nat.eq_zero_or_pos (votesFor votes most) with none | voted
    · refine ⟨[], most, isMost, card_voters_eq_iff.mp ?_⟩
      have cardLe := card_voters_le votes [] most
      have lengthLe := length_ballots_le votes [] most
      omega
    · have reached : JsNumber.le (.ofNat (votesFor votes most)) (.ofNat (votesFor votes most)) :=
        (JsNumber.le_ofNat _ _).trans (decide_eq_true (Nat.le_refl _))
      rcases distinct (.ofNat (votesFor votes most))
        ((JsNumber.le_ofNat _ _).trans (decide_eq_true voted)) ⟨most, voted, reached⟩ with
        ⟨epochId, root, isQuorum⟩
      rw [JsNumber.le_ofNat, decide_eq_true_eq] at isQuorum
      have cardLe := card_voters_le votes epochId root
      have lengthLe := length_ballots_le votes epochId root
      have rootLe := isMost root
      refine ⟨epochId, root, fun other => ?_, card_voters_eq_iff.mp (by omega)⟩
      exact (isMost other).trans (by omega)
  · rintro ⟨epochId, root, isMost, distinct⟩ threshold _ ⟨reachedRoot, _, reached⟩
    refine ⟨epochId, root, ?_⟩
    rw [card_voters_eq_iff.mpr distinct]
    exact JsNumber.le_ofNat_mono reached (isMost reachedRoot)

/-- One node votes three times. -/
theorem consensus_of_one_node :
    let votes := List.replicate 3 ⟨js "node-1", js "epoch-1", js "root-1", js "signature"⟩
    (votes.foldl castVote new).isConsensusReached = true ∧
      ∀ epochId root,
        JsNumber.le (.ofNat 3) (.ofNat (voters votes epochId root).card) = false := by
  intro votes
  refine ⟨by decide, ?_⟩
  intro epochId root
  have one : voters votes epochId root ⊆ {js "node-1"} := by
    intro node member
    rcases List.mem_map.mp (List.mem_toFinset.mp member) with ⟨vote, isBallot, rfl⟩
    rw [List.eq_of_mem_replicate (List.mem_filter.mp isBallot).1]
    exact Finset.mem_singleton_self _
  have atMostOne := Finset.card_le_card one
  rw [Finset.card_singleton] at atMostOne
  rw [JsNumber.le_ofNat, decide_eq_false_iff_not]
  omega

end ConsensusCheckpointValidator

end GhostArk.ResearchFrontier.Distributed
