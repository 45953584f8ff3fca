import GhostArk.Js.Coercion
import GhostArk.Js.Collation
import GhostArk.Js.Collections
import GhostArk.Js.Sha256
import GhostArk.ResearchFrontier.Oracle.HttpResponse

/-!
Contract: `packages/research-frontier/src/oracle/byteReconciler.ts`.

Owns the views of trace entries, the comparison of an entry with an observation, the
reconciliation with its findings, and when it is a matching: an observation is looked up
under its number, so of several under one number only the last is compared.

A sort whose comparison meets NaN has no specified order; here it is an insertion sort.
-/

namespace GhostArk.ResearchFrontier.Oracle

open Js
open Lib

inductive ReconciliationStatus where
  | MATCH
  | DIGEST_MISMATCH
  | EXTRA_WIRE_BYTES
  | TRUNCATED
  | AMBIGUOUS_FRAMING
  | MALFORMED
  | MISSING_OBSERVATION
  | UNRECORDED_TRANSIT
deriving DecidableEq

def ReconciliationStatus.text : ReconciliationStatus → JsString
  | .MATCH => js "MATCH"
  | .DIGEST_MISMATCH => js "DIGEST_MISMATCH"
  | .EXTRA_WIRE_BYTES => js "EXTRA_WIRE_BYTES"
  | .TRUNCATED => js "TRUNCATED"
  | .AMBIGUOUS_FRAMING => js "AMBIGUOUS_FRAMING"
  | .MALFORMED => js "MALFORMED"
  | .MISSING_OBSERVATION => js "MISSING_OBSERVATION"
  | .UNRECORDED_TRANSIT => js "UNRECORDED_TRANSIT"

structure OracleTransitObservation where
  target : JsString
  sequenceNum : JsNumber
  wireBytes : Buffer
  connectionClosedCleanly : Bool
deriving DecidableEq

structure ReceiptTraceView where
  sequenceNum : JsNumber
  toolName : JsString
  responsePayloadDigest : JsString
deriving DecidableEq

structure ReconciliationFinding where
  sequenceNum : JsNumber
  status : ReconciliationStatus
  detail : JsString
deriving DecidableEq

structure ReconciliationReport where
  reconciled : Bool
  findings : List ReconciliationFinding
deriving DecidableEq

structure ReconcilerHost where
  /-- `createHash("sha256").update(bytes).digest("hex")`. -/
  sha256Hex : Buffer → JsString
  numbers : NumberText
  collation : Collation

section Reconcile

variable (host : ReconcilerHost)

def sha256Digest (bytes : Buffer) : JsString := js "sha256:" ++ host.sha256Hex bytes

/-- The finding of an entry against the observation under its number. -/
def reconcileOne (trace : ReceiptTraceView) (observation : OracleTransitObservation) :
    ReconciliationFinding :=
  let decoded := decodeHttpResponse observation.wireBytes observation.connectionClosedCleanly
  let tool := js "Tool " ++ trace.toolName ++ js ": "
  match decoded.fault with
  | some .AMBIGUOUS_FRAMING =>
    ⟨trace.sequenceNum, .AMBIGUOUS_FRAMING, tool ++
      js "wire framing is ambiguous (Content-Length/Transfer-Encoding conflict); " ++
      js "a smuggling vector."⟩
  | some .MALFORMED =>
    ⟨trace.sequenceNum, .MALFORMED, tool ++
      js "wire bytes did not parse as a well-formed HTTP/1.1 response."⟩
  | some .TRUNCATED =>
    ⟨trace.sequenceNum, .TRUNCATED, tool ++
      js "wire response is truncated relative to its declared framing; " ++
      js "receipt claims a complete body."⟩
  | none =>
    let observedDigest := sha256Digest host decoded.decodedBody
    if 0 < decoded.trailingBytes then
      ⟨trace.sequenceNum, .EXTRA_WIRE_BYTES, tool ++ Decimal.natText decoded.trailingBytes ++
        js " wire byte(s) beyond the declared body were never digested by the receipt."⟩
    else if observedDigest ≠ trace.responsePayloadDigest then
      ⟨trace.sequenceNum, .DIGEST_MISMATCH, tool ++ js "decoded-body digest " ++
        observedDigest ++ js " does not match receipt " ++ trace.responsePayloadDigest ++ js "."⟩
    else
      ⟨trace.sequenceNum, .MATCH, tool ++
        js "decoded-body digest matches the receipt commitment."⟩

def isSha256Digest (text : JsString) : Bool := isTaggedHex64 "sha256:" text

def traceError (index : Nat) (problem : JsString) : JsError :=
  .plain (js "execution_trace[" ++ Decimal.natText index ++ js "]" ++ problem)

def assertTraceView (index : Nat) (value : JsValue) : Except JsError ReceiptTraceView :=
  match objectMembers value with
  | none => .error (traceError index (js " is not an object."))
  | some entry =>
    match readProperty entry (js "sequence_num") with
    | .number sequenceNum =>
      if sequenceNum.safeInteger?.isNone then
        .error (traceError index (js ".sequence_num is not an integer."))
      else
        match readProperty entry (js "tool_name") with
        | .string toolName =>
          match readProperty entry (js "response_payload_digest") with
          | .string digest =>
            if isSha256Digest digest then .ok ⟨sequenceNum, toolName, digest⟩
            else
              .error (traceError index
                (js ".response_payload_digest is not a sha256 digest."))
          | _ =>
            .error (traceError index (js ".response_payload_digest is not a sha256 digest."))
        | _ => .error (traceError index (js ".tool_name is not a string."))
    | _ => .error (traceError index (js ".sequence_num is not an integer."))

/-- `executionTrace.map(assertTraceView)`, from an index on. -/
def assertTraceViews : Nat → List JsValue → Except JsError (List ReceiptTraceView)
  | _, [] => .ok []
  | index, value :: rest => do
    let view ← assertTraceView index value
    return view :: (← assertTraceViews (index + 1) rest)

def observationBySeq (observations : List OracleTransitObservation) :
    InsertionMap JsNumber OracleTransitObservation :=
  InsertionMap.collect OracleTransitObservation.sequenceNum observations

def traceFinding (observations : List OracleTransitObservation) (trace : ReceiptTraceView) :
    ReconciliationFinding :=
  match (observationBySeq observations).get? trace.sequenceNum with
  | none =>
    ⟨trace.sequenceNum, .MISSING_OBSERVATION,
      js "Receipt claims a transit for " ++ trace.toolName ++ js " at sequence " ++
        host.numbers.string trace.sequenceNum ++
        js " that the Oracle never observed on the wire."⟩
  | some observation => reconcileOne host trace observation

def unrecordedTransit (observation : OracleTransitObservation) : ReconciliationFinding :=
  ⟨observation.sequenceNum, .UNRECORDED_TRANSIT,
    js "Oracle observed an egress transit to " ++ observation.target ++ js " at sequence " ++
      host.numbers.string observation.sequenceNum ++
      js " with no corresponding receipt entry."⟩

/-- `a.sequenceNum - b.sequenceNum || a.status.localeCompare(b.status)` is not positive. -/
def findingLe (left right : ReconciliationFinding) : Prop :=
  left.sequenceNum.lt right.sequenceNum = true ∨
    right.sequenceNum.lt left.sequenceNum = false ∧
      host.collation.le left.status.text right.status.text = true

instance instDecidableRelFindingLe : DecidableRel (findingLe host) :=
  fun _ _ => inferInstanceAs (Decidable (_ ∨ _ ∧ _))

def findings (traces : List ReceiptTraceView) (observations : List OracleTransitObservation) :
    List ReconciliationFinding :=
  traces.map (traceFinding host observations) ++
    (observations.filter fun observation =>
      observation.sequenceNum ∉ traces.map ReceiptTraceView.sequenceNum).map
        (unrecordedTransit host)

def reconcileReceiptAgainstOracle (executionTrace : List JsValue)
    (observations : List OracleTransitObservation) : Except JsError ReconciliationReport := do
  let traces ← assertTraceViews 0 executionTrace
  let sorted := (findings host traces observations).insertionSort (findingLe host)
  return ⟨sorted.all fun finding => finding.status = .MATCH, sorted⟩

/-- The observation's bytes decode, without fault or bytes left over, to the entry's digest. -/
def Transmits (trace : ReceiptTraceView) (observation : OracleTransitObservation) : Prop :=
  let decoded := decodeHttpResponse observation.wireBytes observation.connectionClosedCleanly
  decoded.fault = none ∧ decoded.trailingBytes = 0 ∧
    sha256Digest host decoded.decodedBody = trace.responsePayloadDigest

variable {observation : OracleTransitObservation}

theorem reconcileOne_match_iff {trace : ReceiptTraceView} :
    (reconcileOne host trace observation).status = .MATCH ↔ Transmits host trace observation := by
  simp only [reconcileOne, Transmits]
  cases (decodeHttpResponse observation.wireBytes observation.connectionClosedCleanly).fault with
  | some fault =>
    refine iff_of_false ?_ fun both => by cases both.1
    cases fault <;> exact fun same => by cases same
  | none =>
    simp only [true_and]
    by_cases extra : 0 <
        (decodeHttpResponse observation.wireBytes
          observation.connectionClosedCleanly).trailingBytes
    · rw [if_pos extra]
      exact iff_of_false (fun same => by cases same) fun both => extra.ne' both.1
    · rw [if_neg extra]
      have complete := Nat.eq_zero_of_not_pos extra
      split
      next different =>
        exact iff_of_false (fun same => by cases same) fun both => different both.2
      next same => exact iff_of_true rfl ⟨complete, not_not.mp same⟩

/-- The observation is one of every entry under its number. -/
def TransmitsAll (traces : List ReceiptTraceView) (observation : OracleTransitObservation) : Prop :=
  ∀ trace ∈ traces, trace.sequenceNum = observation.sequenceNum →
    Transmits host trace observation

theorem of_observationBySeq {observations : List OracleTransitObservation} {number : JsNumber}
    (found : (observationBySeq observations).get? number = some observation) :
    observation ∈ observations ∧ observation.sequenceNum = number := by
  rw [observationBySeq, InsertionMap.get?_collect] at found
  have isNumbered := List.find?_some found
  exact ⟨List.mem_reverse.mp (List.mem_of_find?_eq_some found), of_decide_eq_true isNumbered⟩

theorem observationBySeq_append (first : List OracleTransitObservation)
    {second : List OracleTransitObservation} (member : observation ∈ second) :
    ∃ found ∈ second, found.sequenceNum = observation.sequenceNum ∧
      (observationBySeq (first ++ second)).get? observation.sequenceNum = some found := by
  rw [observationBySeq, InsertionMap.get?_collect, List.reverse_append, List.find?_append]
  cases last : second.reverse.find? fun other =>
      other.sequenceNum = observation.sequenceNum with
  | none =>
    rw [List.find?_eq_none] at last
    exact absurd (decide_eq_true rfl) (last observation (List.mem_reverse.mpr member))
  | some found =>
    have sameNumber := List.find?_some last
    exact ⟨found, List.mem_reverse.mp (List.mem_of_find?_eq_some last),
      of_decide_eq_true sameNumber, rfl⟩

/-! ### The verdict -/

variable (traces : List ReceiptTraceView) (observations : List OracleTransitObservation)

/-- Every number of either list has an entry and an observation of all its entries. -/
def Answered : Prop :=
  (∀ observation ∈ observations, ∃ trace ∈ traces,
    trace.sequenceNum = observation.sequenceNum) ∧
  ∀ trace ∈ traces, ∃ observation ∈ observations,
    observation.sequenceNum = trace.sequenceNum ∧ TransmitsAll host traces observation

/-- The lists have the same numbers, each as often, and every observation is one of all entries
under its number. -/
def Unambiguous : Prop :=
  (traces.map ReceiptTraceView.sequenceNum).Perm
      (observations.map OracleTransitObservation.sequenceNum) ∧
    ∀ observation ∈ observations, TransmitsAll host traces observation

/-- A one-to-one correspondence of entries and observations. -/
def Matching : Prop :=
  ∃ reordered : List OracleTransitObservation, reordered.Perm observations ∧
    List.Forall₂ (fun trace observation => trace.sequenceNum = observation.sequenceNum ∧
      Transmits host trace observation) traces reordered

variable {host traces observations}

theorem traceFinding_match_iff {trace : ReceiptTraceView} :
    (traceFinding host observations trace).status = .MATCH ↔
      ∃ observation, (observationBySeq observations).get? trace.sequenceNum = some observation ∧
        Transmits host trace observation := by
  rw [traceFinding]
  cases found : (observationBySeq observations).get? trace.sequenceNum with
  | none =>
    refine iff_of_false (fun same => by cases same) ?_
    rintro ⟨observation, isSome, _⟩
    cases isSome
  | some observation =>
    refine (reconcileOne_match_iff host).trans
      ⟨fun transmits => ⟨observation, rfl, transmits⟩, ?_⟩
    rintro ⟨other, same, transmits⟩
    cases same
    exact transmits

theorem all_match_iff :
    (∀ finding ∈ findings host traces observations, finding.status = .MATCH) ↔
      (∀ observation ∈ observations, ∃ trace ∈ traces,
        trace.sequenceNum = observation.sequenceNum) ∧
      ∀ trace ∈ traces, ∃ observation,
        (observationBySeq observations).get? trace.sequenceNum = some observation ∧
          Transmits host trace observation := by
  rw [findings, List.forall_mem_append, List.forall_mem_map, List.forall_mem_map, and_comm]
  refine and_congr ?_ (forall₂_congr fun trace _ => traceFinding_match_iff)
  constructor
  · intro noneUnrecorded observation member
    by_contra unrecorded
    have isUnrecorded : observation.sequenceNum ∉ traces.map ReceiptTraceView.sequenceNum := by
      intro recorded
      rcases List.mem_map.mp recorded with ⟨trace, isTrace, same⟩
      exact unrecorded ⟨trace, isTrace, same⟩
    have transit := noneUnrecorded observation
      (List.mem_filter.mpr ⟨member, decide_eq_true isUnrecorded⟩)
    cases transit
  · intro recorded observation member
    rcases List.mem_filter.mp member with ⟨isObservation, unrecorded⟩
    rcases recorded observation isObservation with ⟨trace, isTrace, same⟩
    exact absurd (List.mem_map.mpr ⟨trace, isTrace, same⟩) (of_decide_eq_true unrecorded)

/-- Whether all findings match, as the code decides it on checked entries. -/
def AllMatch (host : ReconcilerHost) (traces : List ReceiptTraceView)
    (observations : List OracleTransitObservation) : Prop :=
  ∀ finding ∈ findings host traces observations, finding.status = .MATCH

theorem AllMatch.answered (allMatch : AllMatch host traces observations) :
    Answered host traces observations := by
  have both := all_match_iff.mp allMatch
  refine ⟨both.1, ?_⟩
  intro trace isTrace
  rcases both.2 trace isTrace with ⟨observation, found, _⟩
  rcases of_observationBySeq found with ⟨member, sameNumber⟩
  refine ⟨observation, member, sameNumber, ?_⟩
  intro other isOther otherNumber
  -- Entries of one number are all compared with the same observation.
  rcases both.2 other isOther with ⟨compared, foundOther, transmits⟩
  rw [otherNumber, sameNumber, found] at foundOther
  cases foundOther
  exact transmits

variable {observations' : List OracleTransitObservation}

theorem Answered.perm {traces' : List ReceiptTraceView}
    (answered : Answered host traces observations) (permTraces : traces'.Perm traces)
    (permObservations : observations'.Perm observations) : Answered host traces' observations' := by
  constructor
  · intro observation member
    rcases answered.1 observation (permObservations.mem_iff.mp member) with ⟨trace, isTrace, same⟩
    exact ⟨trace, permTraces.mem_iff.mpr isTrace, same⟩
  · intro trace isTrace
    rcases answered.2 trace (permTraces.mem_iff.mp isTrace) with ⟨observation, member, same, all⟩
    refine ⟨observation, permObservations.mem_iff.mpr member, same, ?_⟩
    exact fun other isOther => all other (permTraces.mem_iff.mp isOther)

theorem Unambiguous.perm {traces' : List ReceiptTraceView}
    (unambiguous : Unambiguous host traces observations) (permTraces : traces'.Perm traces)
    (permObservations : observations'.Perm observations) :
    Unambiguous host traces' observations' := by
  constructor
  · exact ((permTraces.map _).trans unambiguous.1).trans (permObservations.map _).symm
  · intro observation member other isOther
    exact unambiguous.2 observation (permObservations.mem_iff.mp member) other
      (permTraces.mem_iff.mp isOther)

theorem Unambiguous.allMatch (unambiguous : Unambiguous host traces observations) :
    AllMatch host traces observations := by
  refine all_match_iff.mpr ⟨?_, ?_⟩
  · intro observation member
    have recorded := unambiguous.1.mem_iff.mpr (List.mem_map_of_mem member)
    rcases List.mem_map.mp recorded with ⟨trace, isTrace, same⟩
    exact ⟨trace, isTrace, same⟩
  · intro trace isTrace
    have observed := unambiguous.1.mem_iff.mp (List.mem_map_of_mem isTrace)
    rcases List.mem_map.mp observed with ⟨observation, member, same⟩
    rcases observationBySeq_append [] member with ⟨found, isFound, sameNumber, isLast⟩
    rw [same] at isLast sameNumber
    exact ⟨found, isLast, unambiguous.2 found isFound trace isTrace sameNumber.symm⟩

variable {reordered : List OracleTransitObservation}

theorem forall₂_transmits
    (pairs : List.Forall₂ (fun trace observation => ReceiptTraceView.sequenceNum trace =
      OracleTransitObservation.sequenceNum observation) traces reordered)
    (transmits : ∀ observation ∈ reordered, TransmitsAll host traces observation) :
    List.Forall₂ (fun trace observation => trace.sequenceNum = observation.sequenceNum ∧
      Transmits host trace observation) traces reordered := by
  induction pairs with
  | nil => exact .nil
  | cons sameNumber rest ih =>
    rw [List.forall_mem_cons] at transmits
    refine .cons ⟨sameNumber, transmits.1 _ List.mem_cons_self sameNumber⟩
      (ih fun observation member => ?_)
    exact fun trace isTrace =>
      transmits.2 observation member trace (List.mem_cons_of_mem _ isTrace)

theorem Unambiguous.matching (unambiguous : Unambiguous host traces observations) :
    Matching host traces observations := by
  have numbered : List.Forall₂ (fun number observation =>
      number = OracleTransitObservation.sequenceNum observation)
        (observations.map OracleTransitObservation.sequenceNum) observations := by
    rw [List.forall₂_map_left_iff]
    exact List.forall₂_same.mpr fun _ _ => rfl
  rcases List.perm_comp_forall₂ unambiguous.1 numbered with ⟨reordered, pairs, permuted⟩
  rw [List.forall₂_map_left_iff] at pairs
  refine ⟨reordered, permuted, forall₂_transmits pairs fun observation member => ?_⟩
  exact unambiguous.2 observation (permuted.mem_iff.mp member)

theorem map_eq_of_forall₂
    (pairs : List.Forall₂ (fun trace observation => trace.sequenceNum = observation.sequenceNum ∧
      Transmits host trace observation) traces reordered) :
    traces.map ReceiptTraceView.sequenceNum =
      reordered.map OracleTransitObservation.sequenceNum := by
  induction pairs with
  | nil => rfl
  | cons corresponds _ ih =>
    rw [List.map_cons, List.map_cons, corresponds.1, ih]

theorem Matching.perm (matching : Matching host traces observations) :
    (traces.map ReceiptTraceView.sequenceNum).Perm
      (observations.map OracleTransitObservation.sequenceNum) := by
  rcases matching with ⟨reordered, permuted, pairs⟩
  rw [map_eq_of_forall₂ pairs]
  exact permuted.map _

/-- Where all numbers are answered, some order of the observations matches them all, and an
observation of no entry spoils some other order. -/
theorem Answered.exists_allMatch (answered : Answered host traces observations) :
    ∃ reordered : List OracleTransitObservation, reordered.Perm observations ∧
      AllMatch host traces reordered := by
  classical
  let transmits := fun observation => decide (TransmitsAll host traces observation)
  have permuted : (observations.filter (fun observation => !transmits observation) ++
      observations.filter transmits).Perm observations :=
    List.perm_append_comm.trans (List.filter_append_perm transmits observations)
  refine ⟨_, permuted, all_match_iff.mpr ⟨?_, ?_⟩⟩
  · exact fun observation member => answered.1 observation (permuted.mem_iff.mp member)
  · intro trace isTrace
    rcases answered.2 trace isTrace with ⟨observation, member, sameNumber, all⟩
    have inClass : observation ∈ observations.filter transmits :=
      List.mem_filter.mpr ⟨member, decide_eq_true all⟩
    rcases observationBySeq_append
        (observations.filter fun observation => !transmits observation) inClass with
      ⟨found, isFound, foundNumber, isLast⟩
    rw [sameNumber] at isLast foundNumber
    exact ⟨found, isLast, of_decide_eq_true (List.mem_filter.mp isFound).2 trace isTrace
      foundNumber.symm⟩

theorem exists_not_allMatch (member : observation ∈ observations)
    (spoils : ¬ TransmitsAll host traces observation) :
    ∃ reordered : List OracleTransitObservation, reordered.Perm observations ∧
      ¬ AllMatch host traces reordered := by
  classical
  let isOther := fun other => decide (other ≠ observation)
  have permuted : (observations.filter isOther ++
      observations.filter (fun other => !isOther other)).Perm observations :=
    List.filter_append_perm isOther observations
  refine ⟨_, permuted, fun allMatch => spoils ?_⟩
  intro trace isTrace sameNumber
  have inClass : observation ∈ observations.filter fun other => !isOther other :=
    List.mem_filter.mpr ⟨member, by simp [isOther]⟩
  rcases observationBySeq_append (observations.filter isOther) inClass with
    ⟨found, isFound, _, isLast⟩
  have isObservation : found = observation := by
    simpa [isOther] using (List.mem_filter.mp isFound).2
  rcases (all_match_iff.mp allMatch).2 trace isTrace with ⟨compared, foundCompared, transmits⟩
  rw [sameNumber, isLast, isObservation] at foundCompared
  cases foundCompared
  exact transmits

/-! ### Entries as they come -/

theorem assertTraceView_eq_ok {index : Nat} {value : JsValue} {view : ReceiptTraceView}
    (viewed : assertTraceView index value = .ok view) (other : Nat) :
    assertTraceView other value = .ok view := by
  rw [assertTraceView] at viewed ⊢
  cases members : objectMembers value with
  | none =>
    rw [members] at viewed
    cases viewed
  | some entry =>
    rw [members] at viewed
    simp only at viewed ⊢
    split at viewed
    next sequenceNum isNumber =>
      split at viewed
      next => cases viewed
      next isSafe =>
        split at viewed
        next toolName isTool =>
          split at viewed
          next digest isDigest =>
            split at viewed
            next isSha256 =>
              rw [if_neg isSafe, if_pos isSha256]
              exact viewed
            next => cases viewed
          next => cases viewed
        next => cases viewed
    next => cases viewed

theorem assertTraceViews_eq_ok_iff {index : Nat} {executionTrace : List JsValue} :
    assertTraceViews index executionTrace = .ok traces ↔
      List.Forall₂ (fun value view => assertTraceView 0 value = .ok view) executionTrace traces := by
  induction executionTrace generalizing index traces with
  | nil =>
    rw [assertTraceViews, List.forall₂_nil_left_iff]
    exact ⟨fun same => (Except.ok.inj same).symm, fun same => congrArg Except.ok same.symm⟩
  | cons value rest ih =>
    rw [assertTraceViews, List.forall₂_cons_left_iff]
    constructor
    · intro viewed
      cases first : assertTraceView index value with
      | error error => rw [first] at viewed; cases viewed
      | ok view =>
        cases others : assertTraceViews (index + 1) rest with
        | error error => rw [first, others] at viewed; cases viewed
        | ok views =>
          rw [first, others] at viewed
          cases viewed
          exact ⟨view, views, assertTraceView_eq_ok first 0,
            ih.mp others, rfl⟩
    · rintro ⟨view, views, first, others, rfl⟩
      rw [assertTraceView_eq_ok first index, ih.mpr others]
      rfl

theorem exists_views_of_perm {executionTrace executionTrace' : List JsValue}
    (viewed : assertTraceViews 0 executionTrace = .ok traces)
    (permuted : executionTrace'.Perm executionTrace) :
    ∃ traces', assertTraceViews 0 executionTrace' = .ok traces' ∧ traces'.Perm traces := by
  have pairs := assertTraceViews_eq_ok_iff.mp viewed
  rcases List.perm_comp_forall₂ permuted pairs with ⟨traces', pairs', permuted'⟩
  exact ⟨traces', assertTraceViews_eq_ok_iff.mpr pairs', permuted'⟩

end Reconcile

section Verdict

variable (host : ReconcilerHost)

/-- `reconciled`, unless an entry is rejected. -/
def verdict (executionTrace : List JsValue) (observations : List OracleTransitObservation) :
    Option Bool :=
  match reconcileReceiptAgainstOracle host executionTrace observations with
  | .ok report => some report.reconciled
  | .error _ => none

/-- A reconciled trace is matched with the observations, and the order of neither matters. -/
def IsMatching (executionTrace : List JsValue) (observations : List OracleTransitObservation) :
    Prop :=
  (verdict host executionTrace observations = some true →
    ∃ traces, assertTraceViews 0 executionTrace = .ok traces ∧
      Matching host traces observations) ∧
  ∀ executionTrace' observations', executionTrace'.Perm executionTrace →
    observations'.Perm observations →
      verdict host executionTrace' observations' = verdict host executionTrace observations

variable {host}

variable {executionTrace : List JsValue}

theorem verdict_of_ok {traces : List ReceiptTraceView}
    (viewed : assertTraceViews 0 executionTrace = .ok traces)
    (observations : List OracleTransitObservation) :
    ∃ reconciled, verdict host executionTrace observations = some reconciled ∧
      (reconciled = true ↔ AllMatch host traces observations) := by
  rw [verdict, reconcileReceiptAgainstOracle, viewed]
  refine ⟨_, rfl, ?_⟩
  rw [List.all_eq_true, AllMatch]
  have permuted := List.perm_insertionSort (findingLe host) (findings host traces observations)
  constructor
  · intro all finding member
    exact of_decide_eq_true (all finding (permuted.mem_iff.mpr member))
  · intro all finding member
    exact decide_eq_true (all finding (permuted.mem_iff.mp member))

theorem verdict_of_error {error : JsError}
    (rejected : assertTraceViews 0 executionTrace = .error error)
    (observations : List OracleTransitObservation) :
    verdict host executionTrace observations = none := by
  rw [verdict, reconcileReceiptAgainstOracle, rejected]
  rfl

theorem verdict_eq_true_iff {traces : List ReceiptTraceView}
    (viewed : assertTraceViews 0 executionTrace = .ok traces)
    (observations : List OracleTransitObservation) :
    verdict host executionTrace observations = some true ↔ AllMatch host traces observations := by
  rcases @verdict_of_ok host _ _ viewed observations with ⟨reconciled, isVerdict, iffAll⟩
  rw [isVerdict, Option.some.injEq, iffAll]

/-- Rearranged lists that match alike get one verdict. -/
theorem verdict_eq_of_perm {executionTrace executionTrace' : List JsValue}
    {observations observations' : List OracleTransitObservation}
    (permTrace : executionTrace'.Perm executionTrace)
    (agree : ∀ traces traces', assertTraceViews 0 executionTrace = .ok traces →
      traces'.Perm traces →
        (AllMatch host traces' observations' ↔ AllMatch host traces observations)) :
    verdict host executionTrace' observations' = verdict host executionTrace observations := by
  cases viewed : assertTraceViews 0 executionTrace with
  | error error =>
    cases viewed' : assertTraceViews 0 executionTrace' with
    | error error' => rw [verdict_of_error viewed, verdict_of_error viewed']
    | ok traces' =>
      rcases exists_views_of_perm viewed' permTrace.symm with ⟨traces, isViewed, _⟩
      rw [isViewed] at viewed
      cases viewed
  | ok traces =>
    rcases exists_views_of_perm viewed permTrace with ⟨traces', viewed', permuted⟩
    rcases @verdict_of_ok host _ _ viewed observations with ⟨before, isBefore, iffBefore⟩
    rcases @verdict_of_ok host _ _ viewed' observations' with ⟨after, isAfter, iffAfter⟩
    rw [isBefore, isAfter, Option.some.injEq, Bool.eq_iff_iff, iffBefore, iffAfter]
    exact agree traces traces' viewed permuted

/-- Reconciliation is a matching exactly where the answered numbers are unambiguous. -/
theorem isMatching_iff (host : ReconcilerHost) (executionTrace : List JsValue)
    (observations : List OracleTransitObservation) :
    IsMatching host executionTrace observations ↔
      ∀ traces, assertTraceViews 0 executionTrace = .ok traces →
        Answered host traces observations → Unambiguous host traces observations := by
  constructor
  · rintro ⟨matched, sameVerdicts⟩ traces viewed answered
    rcases answered.exists_allMatch with ⟨reordered, permuted, allMatch⟩
    have always : verdict host executionTrace observations = some true :=
      (sameVerdicts _ _ (List.Perm.refl _) permuted).symm.trans
        ((verdict_eq_true_iff viewed reordered).mpr allMatch)
    constructor
    · rcases matched always with ⟨traces', viewed', matching⟩
      rw [viewed] at viewed'
      cases viewed'
      exact matching.perm
    · intro observation member
      by_contra spoils
      rcases exists_not_allMatch member spoils with ⟨spoiled, permuted, notAll⟩
      have stillTrue := (sameVerdicts _ _ (List.Perm.refl _) permuted).trans always
      exact notAll ((verdict_eq_true_iff viewed spoiled).mp stillTrue)
  · intro unambiguous
    refine ⟨?_, ?_⟩
    · intro reconciled
      cases viewed : assertTraceViews 0 executionTrace with
      | error error =>
        rw [verdict_of_error viewed] at reconciled
        cases reconciled
      | ok traces =>
        have answered := ((verdict_eq_true_iff viewed observations).mp reconciled).answered
        exact ⟨traces, rfl, (unambiguous traces viewed answered).matching⟩
    · intro executionTrace' observations' permTrace permObservations
      apply verdict_eq_of_perm permTrace
      intro traces traces' viewed permuted
      constructor
      · intro allMatch
        have answered := allMatch.answered.perm permuted.symm permObservations.symm
        exact (unambiguous traces viewed answered).allMatch
      · intro allMatch
        have clear := unambiguous traces viewed allMatch.answered
        exact (clear.perm permuted permObservations).allMatch

end Verdict

namespace ReconcilerSample

def host : ReconcilerHost where
  sha256Hex := fun bytes => (Fips180.digest (bytes.map UInt8.toNat)).hex
  numbers := decimalText
  collation := codeUnitOrder

def bytes (text : String) : Buffer := text.toByteArray.data.toList

def entry : JsValue :=
  .object [(js "sequence_num", .number (.ofNat 1)), (js "tool_name", .string (js "PostgresTool")),
    (js "response_payload_digest", .string (sha256Digest host []))]

def transit (wire : String) : OracleTransitObservation :=
  ⟨js "127.0.0.1:8080", .ofNat 1, bytes wire, true⟩

/-- A second egress under the number of a recorded one. -/
def observations : List OracleTransitObservation :=
  [transit "HTTP/1.1 200 OK\r\n\r\nsecret", transit "HTTP/1.1 200 OK\r\n\r\n"]

theorem reconciled_hides_transit :
    verdict host [entry] observations = some true ∧ ¬ IsMatching host [entry] observations := by
  have reconciled : verdict host [entry] observations = some true := by decide +kernel
  refine ⟨reconciled, fun isMatching => ?_⟩
  rcases isMatching.1 reconciled with ⟨traces, viewed, reordered, permuted, pairs⟩
  have entries := (assertTraceViews_eq_ok_iff.mp viewed).length_eq
  have counts := pairs.length_eq.trans permuted.length_eq
  rw [← entries] at counts
  exact absurd counts (by decide)

end ReconcilerSample

end GhostArk.ResearchFrontier.Oracle
