import GhostArk.Js.Binary64
import GhostArk.Js.Collections
import GhostArk.Js.Pattern
import GhostArk.Lib.InsertionMap
import GhostArk.Lib.KeyedSort

/-!
Contract: `analyzeCcBinaryCohort` of `packages/research-frontier/src/ccCorrelation.ts`.

Owns binary observations and their validation, the executions of a cohort, the
summaries of variables and pairs, that every accepted cohort is counted
consistently, and that the order of the observations does not matter.

An observation is compared with the first one that is stored for its execution;
that all observations of an execution agree is what follows. `Math.sqrt` is a
parameter without assumptions.

Does not own: the constant texts of a report.
-/

namespace GhostArk.ResearchFrontier.CcCorrelation

open Js Lib

/-! ### Observations -/

structure CopulaStationarity where
  declared : Bool
  scope : JsString
  non_claim : JsString
deriving DecidableEq

structure CcBinaryObservation where
  schema_version : JsString
  observation_id : JsString
  execution_receipt_id : JsString
  execution_receipt_digest : Option JsString
  discretization_rule_id : JsString
  discretization_rule_digest : JsString
  variable_id : JsString
  score_name : JsString
  score_value : JsNumber
  binary_value : JsNumber
  failure_semantics : JsString
  observed_at : JsString
  parent_trace_digest : JsString
  cohort_id : JsString
  copula_stationarity : CopulaStationarity
  non_claim : JsString
deriving DecidableEq

def ccFailureSemantics : JsString := js "1 means guardrail failure or unsafe pass"

def assertNonEmpty (value : JsString) (label : String) : Except JsError Unit := do
  if (trim value).length = 0 then throw (.plain (js label ++ js " must be a non-empty string"))

def assertDigest (value : JsString) (label : String) : Except JsError Unit := do
  if ¬ isTaggedHex64 "sha256:" value then
    throw (.plain (js label ++ js " must be a sha256-prefixed lowercase digest"))

def zero : JsNumber := .ofNat 0

def one : JsNumber := .ofNat 1

def validateBinaryObservation (dates : DateParser) (observation : CcBinaryObservation) :
    Except JsError Unit := do
  if observation.schema_version ≠ js "ghost.cc_binary_observation.v1" then
    throw (.plain (js "CC binary observation schema_version is unsupported"))
  assertNonEmpty observation.observation_id "observation_id"
  assertNonEmpty observation.execution_receipt_id "execution_receipt_id"
  assertNonEmpty observation.discretization_rule_id "discretization_rule_id"
  assertNonEmpty observation.variable_id "variable_id"
  assertNonEmpty observation.cohort_id "cohort_id"
  assertDigest observation.discretization_rule_digest "discretization_rule_digest"
  assertDigest observation.parent_trace_digest "parent_trace_digest"
  observation.execution_receipt_digest.forM fun digest =>
    assertDigest digest "execution_receipt_digest"
  if observation.binary_value ≠ zero ∧ observation.binary_value ≠ one then
    throw (.plain (js "binary_value must be exactly 0 or 1"))
  if observation.failure_semantics ≠ ccFailureSemantics then
    throw (.plain (js "CC binary observation has unsupported failure semantics"))
  if ¬ observation.score_value.isFinite ∨ ¬ (dates.parse observation.observed_at).isFinite then
    throw (.plain (js "CC binary observation score and observed_at must be finite/parseable"))
  if ¬ observation.copula_stationarity.declared then
    throw (.plain (js "CC binary observation requires an explicit stationarity declaration"))
  assertNonEmpty observation.copula_stationarity.scope "copula_stationarity.scope"
  assertNonEmpty observation.copula_stationarity.non_claim "copula_stationarity.non_claim"
  assertNonEmpty observation.non_claim "non_claim"

theorem binary_of_validate {dates : DateParser} {observation : CcBinaryObservation}
    (validated : validateBinaryObservation dates observation = .ok ()) :
    observation.binary_value = zero ∨ observation.binary_value = one := by
  simp only [validateBinaryObservation, check_eq_ok, bind_eq_ok] at validated
  rcases validated with
    ⟨-, -, -, -, -, -, -, -, -, -, -, -, -, -, -, -, -, binary, -⟩
  by_contra neither
  exact binary (not_or.mp neither)

abbrev Variables := InsertionMap JsString CcBinaryObservation

abbrev Executions := InsertionMap JsString Variables

/-- `members.slice(1)` against `members[0]`. -/
def assertOneRule (variableId : JsString) : List CcBinaryObservation → Except JsError Unit
  | [] => .ok ()
  | first :: others =>
    others.forM fun member => do
      if member.discretization_rule_id ≠ first.discretization_rule_id ∨
          member.discretization_rule_digest ≠ first.discretization_rule_digest ∨
          member.score_name ≠ first.score_name then
        throw (.plain (js "Variable " ++ variableId ++
          js " mixes discretization rule or score identities within one cohort"))

/-- Of an execution's first observation and a later one. -/
def lineageDiffers (existing observation : CcBinaryObservation) : Bool :=
  existing.execution_receipt_digest.isNone || observation.execution_receipt_digest.isNone ||
    existing.execution_receipt_digest != observation.execution_receipt_digest ||
    existing.parent_trace_digest != observation.parent_trace_digest

def recordObservation (executions : Executions) (observation : CcBinaryObservation) :
    Except JsError Executions := do
  let stored := (executions.get? observation.execution_receipt_id).getD .empty
  if stored.values.head?.any fun existing => lineageDiffers existing observation then
    throw (.plain (js "Execution " ++ observation.execution_receipt_id ++
      js " has inconsistent or missing receipt-digest lineage"))
  if (stored.get? observation.variable_id).isSome then
    throw (.plain (js "Duplicate variable " ++ observation.variable_id ++ js " for execution " ++
      observation.execution_receipt_id))
  return executions.set observation.execution_receipt_id
    (stored.set observation.variable_id observation)

def collectExecutions (observations : List CcBinaryObservation) : Except JsError Executions :=
  observations.foldlM recordObservation .empty

def assertComplete (variableIds : List JsString) (execution : JsString × Variables) :
    Except JsError Unit := do
  let missing := variableIds.filter fun variableId => (execution.2.get? variableId).isNone
  if 0 < missing.length then
    throw (.plain (js "Execution " ++ execution.1 ++ js " is missing variables: " ++
      join (js ", ") missing))

/-- `variables.get(variableId)?.binary_value`. -/
def binaryOf (stored : Variables) (variableId : JsString) : Option JsNumber :=
  (stored.get? variableId).map CcBinaryObservation.binary_value

def failureCount (executions : Executions) (variableId : JsString) : Nat :=
  (executions.values.filter fun stored => binaryOf stored variableId = some one).length

structure CoFailureTable where
  n00 : Nat
  n01 : Nat
  n10 : Nat
  n11 : Nat
deriving DecidableEq, Repr

def CoFailureTable.count (table : CoFailureTable) (left right : Option JsNumber) :
    CoFailureTable :=
  if left = some zero ∧ right = some zero then { table with n00 := table.n00 + 1 }
  else if left = some zero ∧ right = some one then { table with n01 := table.n01 + 1 }
  else if left = some one ∧ right = some zero then { table with n10 := table.n10 + 1 }
  else if left = some one ∧ right = some one then { table with n11 := table.n11 + 1 }
  else table

def coFailureTable (executions : Executions) (leftId rightId : JsString) : CoFailureTable :=
  executions.values.foldl (fun table stored =>
    table.count (binaryOf stored leftId) (binaryOf stored rightId)) ⟨0, 0, 0, 0⟩

/-- `leftIndex` before `rightIndex`, in the order of the two loops. -/
def orderedPairs : List JsString → List (JsString × JsString)
  | [] => []
  | left :: rest => rest.map (fun right => (left, right)) ++ orderedPairs rest

def onFinite (operator : ℚ → ℚ → ℚ) : JsNumber → JsNumber → JsNumber
  | .finite left, .finite right => double (operator left right)
  | _, _ => .nan

def times : JsNumber → JsNumber → JsNumber := onFinite (· * ·)

def dividedBy : JsNumber → JsNumber → JsNumber := onFinite (· / ·)

/-- `Math.max` of two numbers. -/
def larger (left right : JsNumber) : JsNumber := if left.lt right then right else left

/-- `Math.min` of two numbers. -/
def smaller (left right : JsNumber) : JsNumber := if right.lt left then right else left

def round (value : JsNumber) : JsNumber := value.toFixedNumber 12

def rate (count total : Nat) : JsNumber := dividedBy (.ofNat count) (.ofNat total)

structure Interval where
  lower : JsNumber
  upper : JsNumber
deriving DecidableEq

section Statistics

variable (squareRoot : JsNumber → JsNumber)

/-- Of two counts, which are non-negative integers. -/
def wilsonScoreInterval (successes total : Nat) : Except JsError Interval := do
  if JsNumber.maxSafeInteger < successes ∨ JsNumber.maxSafeInteger < total ∨ total = 0 ∨
      total < successes then
    throw (.plain (js "Wilson interval counts must satisfy 0 <= successes <= total and total > 0"))
  let z := double (1959963984540054 / 10 ^ 15)
  let proportion := rate successes total
  let zSquared := times z z
  let size := JsNumber.ofNat total
  let denominator := one.add (dividedBy zSquared size)
  let center := dividedBy (proportion.add (dividedBy zSquared (times (.ofNat 2) size))) denominator
  let variance := dividedBy (times proportion (one.sub proportion)) size
  let spread := dividedBy zSquared (times (times (.ofNat 4) size) size)
  let margin := times (dividedBy z denominator) (squareRoot (variance.add spread))
  return ⟨round (larger zero (center.sub margin)), round (smaller one (center.add margin))⟩

def frechetBounds (leftFailures rightFailures sampleSize : Nat) : Interval :=
  let leftRate := rate leftFailures sampleSize
  let rightRate := rate rightFailures sampleSize
  ⟨round (larger zero ((leftRate.add rightRate).sub one)), round (smaller leftRate rightRate)⟩

def phiCorrelation (table : CoFailureTable) : Option JsNumber :=
  let denominator := squareRoot (times (times (times (.ofNat (table.n10 + table.n11))
    (.ofNat (table.n00 + table.n01))) (.ofNat (table.n01 + table.n11)))
      (.ofNat (table.n00 + table.n10)))
  if denominator = zero then none
  else
    some (round (dividedBy ((times (.ofNat table.n11) (.ofNat table.n00)).sub
      (times (.ofNat table.n10) (.ofNat table.n01))) denominator))

/-! ### The report -/

structure CcVariableSummary where
  variable_id : JsString
  failure_count : Nat
  failure_rate : JsNumber
  failure_rate_interval : Interval
deriving DecidableEq

structure CcPairwiseSummary where
  left_variable_id : JsString
  right_variable_id : JsString
  co_failure_table : CoFailureTable
  observed_joint_failure_rate : JsNumber
  joint_failure_interval : Interval
  frechet_bounds : Interval
  phi_correlation : Option JsNumber
deriving DecidableEq

structure CcCorrelationReport where
  generated_at : JsString
  cohort_id : JsString
  sample_size : Nat
  variable_summaries : List CcVariableSummary
  pairwise_summaries : List CcPairwiseSummary
  stationarity_declaration : JsString
deriving DecidableEq

def variableSummary (executions : Executions) (variableId : JsString) :
    Except JsError CcVariableSummary := do
  let failures := failureCount executions variableId
  let interval ← wilsonScoreInterval squareRoot failures executions.entries.length
  return ⟨variableId, failures, round (rate failures executions.entries.length), interval⟩

def pairwiseSummary (executions : Executions) (variableIds : JsString × JsString) :
    Except JsError CcPairwiseSummary := do
  let sampleSize := executions.entries.length
  let table := coFailureTable executions variableIds.1 variableIds.2
  let interval ← wilsonScoreInterval squareRoot table.n11 sampleSize
  return {
    left_variable_id := variableIds.1
    right_variable_id := variableIds.2
    co_failure_table := table
    observed_joint_failure_rate := round (rate table.n11 sampleSize)
    joint_failure_interval := interval
    frechet_bounds := frechetBounds (table.n10 + table.n11) (table.n01 + table.n11) sampleSize
    phi_correlation := phiCorrelation squareRoot table }

variable (dates : DateParser)

def analyzeCcBinaryCohort (observations : List CcBinaryObservation) (generatedAt : JsString) :
    Except JsError CcCorrelationReport := do
  if ¬ (dates.parse generatedAt).isFinite then
    throw (.plain (js "generatedAt must be a date-time"))
  if observations.length = 0 then
    throw (.plain (js "CC correlation analysis requires observations"))
  observations.forM (validateBinaryObservation dates)
  let cohortIds := distinct (observations.map CcBinaryObservation.cohort_id)
  if cohortIds.length ≠ 1 then
    throw (.plain (js "All CC binary observations must belong to one cohort"))
  let stationarityScopes :=
    distinct (observations.map fun observation => observation.copula_stationarity.scope)
  if stationarityScopes.length ≠ 1 then
    throw (.plain (js "All CC binary observations in a cohort must use one stationarity scope"))
  let variableIds := sortTexts (distinct (observations.map CcBinaryObservation.variable_id))
  if variableIds.length < 2 then
    throw (.plain (js "CC correlation analysis requires at least two variables"))
  variableIds.forM fun variableId =>
    assertOneRule variableId (observations.filter fun observation =>
      observation.variable_id = variableId)
  let executions ← collectExecutions observations
  executions.entries.forM (assertComplete variableIds)
  let variableSummaries ← variableIds.mapM (variableSummary squareRoot executions)
  let pairwiseSummaries ← (orderedPairs variableIds).mapM (pairwiseSummary squareRoot executions)
  return {
    generated_at := generatedAt
    cohort_id := cohortIds.headD []
    sample_size := executions.entries.length
    variable_summaries := variableSummaries
    pairwise_summaries := pairwiseSummaries
    stationarity_declaration := stationarityScopes.headD [] }

end Statistics

def cell (observations : List CcBinaryObservation) (executionId variableId : JsString) :
    Option CcBinaryObservation :=
  observations.find? fun observation =>
    observation.execution_receipt_id = executionId ∧ observation.variable_id = variableId

def CcBinaryObservation.place (observation : CcBinaryObservation) : JsString × JsString :=
  (observation.execution_receipt_id, observation.variable_id)

section Cells

variable {observations : List CcBinaryObservation} {executionId variableId : JsString}

variable {observation : CcBinaryObservation}

theorem mem_of_cell (found : cell observations executionId variableId = some observation) :
    observation ∈ observations ∧ observation.place = (executionId, variableId) := by
  have isPlace := List.find?_some found
  rw [decide_eq_true_eq] at isPlace
  exact ⟨List.mem_of_find?_eq_some found, Prod.ext isPlace.1 isPlace.2⟩

theorem cell_eq_none_iff :
    cell observations executionId variableId = none ↔
      (executionId, variableId) ∉ observations.map CcBinaryObservation.place := by
  rw [cell, List.find?_eq_none, List.mem_map, not_exists]
  refine forall_congr' fun observation => ?_
  rw [decide_eq_true_eq, CcBinaryObservation.place, Prod.mk.injEq, not_and (a := _ ∈ _)]

theorem cell_eq_some_iff (places : (observations.map CcBinaryObservation.place).Nodup) :
    cell observations executionId variableId = some observation ↔
      observation ∈ observations ∧ observation.place = (executionId, variableId) := by
  refine ⟨mem_of_cell, fun ⟨member, isPlace⟩ => ?_⟩
  cases found : cell observations executionId variableId with
  | none =>
    rw [cell_eq_none_iff] at found
    exact absurd (isPlace ▸ List.mem_map_of_mem member) found
  | some other =>
    have isOther := mem_of_cell found
    rw [List.inj_on_of_nodup_map places member isOther.1 (isPlace.trans isOther.2.symm)]

theorem cell_concat (observation : CcBinaryObservation) :
    cell (observations ++ [observation]) executionId variableId =
      (cell observations executionId variableId).or
        (if observation.place = (executionId, variableId) then some observation else none) := by
  rw [cell, List.find?_append, cell, List.find?_singleton]
  simp only [CcBinaryObservation.place, Prod.mk.injEq, decide_eq_true_eq]

end Cells

theorem lineageDiffers_eq_false_iff {existing observation : CcBinaryObservation} :
    lineageDiffers existing observation = false ↔
      existing.execution_receipt_digest.isSome ∧
        existing.execution_receipt_digest = observation.execution_receipt_digest ∧
          existing.parent_trace_digest = observation.parent_trace_digest := by
  simp only [lineageDiffers, Bool.or_eq_false_iff, bne_eq_false_iff_eq, ← Option.not_isSome,
    Bool.not_eq_false']
  constructor
  · exact fun ⟨⟨⟨given, _⟩, sameDigest⟩, sameParent⟩ => ⟨given, sameDigest, sameParent⟩
  · exact fun ⟨given, sameDigest, sameParent⟩ =>
      ⟨⟨⟨given, sameDigest ▸ given⟩, sameDigest⟩, sameParent⟩

theorem lineageDiffers_comm {first second : CcBinaryObservation}
    (same : lineageDiffers first second = false) : lineageDiffers second first = false := by
  rw [lineageDiffers_eq_false_iff] at same ⊢
  exact ⟨same.2.1 ▸ same.1, same.2.1.symm, same.2.2.symm⟩

theorem lineageDiffers_trans {first second third : CcBinaryObservation}
    (same : lineageDiffers first second = false) (later : lineageDiffers second third = false) :
    lineageDiffers first third = false := by
  rw [lineageDiffers_eq_false_iff] at same later ⊢
  exact ⟨same.1, same.2.1.trans later.2.1, same.2.2.trans later.2.2⟩

/-- No place is taken twice, and the observations of one execution have one lineage. -/
structure IsGrid (observations : List CcBinaryObservation) : Prop where
  places : (observations.map CcBinaryObservation.place).Nodup
  lineage : ∀ first ∈ observations, ∀ second ∈ observations,
    first.execution_receipt_id = second.execution_receipt_id →
      first.variable_id ≠ second.variable_id → lineageDiffers first second = false

theorem IsGrid.of_subset {few many : List CcBinaryObservation} (grid : IsGrid many)
    (sublist : few.Sublist many) : IsGrid few where
  places := grid.places.sublist (sublist.map _)
  lineage := fun first isFirst second isSecond =>
    grid.lineage first (sublist.subset isFirst) second (sublist.subset isSecond)

theorem IsGrid.perm {left right : List CcBinaryObservation} (grid : IsGrid left)
    (permuted : left.Perm right) : IsGrid right where
  places := (permuted.map _).nodup_iff.mp grid.places
  lineage := fun first isFirst second isSecond =>
    grid.lineage first (permuted.mem_iff.mpr isFirst) second (permuted.mem_iff.mpr isSecond)

/-! ### What the executions store -/

/-- The executions store the observations, each at its place. -/
structure Represents (executions : Executions) (observations : List CcBinaryObservation) :
    Prop where
  cells : ∀ executionId variableId,
    ((executions.get? executionId).bind fun stored => stored.get? variableId) =
      cell observations executionId variableId
  filled : ∀ executionId stored, executions.get? executionId = some stored → stored.values ≠ []

theorem represents_empty : Represents .empty [] where
  cells := fun _ _ => rfl
  filled := fun _ _ found => by cases found

section Represents

variable {executions : Executions} {observations : List CcBinaryObservation}

variable {observation : CcBinaryObservation}

theorem Represents.mem_of_value (represents : Represents executions observations)
    {executionId : JsString} {stored : Variables}
    (found : executions.get? executionId = some stored) (member : observation ∈ stored.values) :
    observation ∈ observations ∧ observation.execution_receipt_id = executionId := by
  rcases List.mem_map.mp member with ⟨⟨variableId, value⟩, inEntries, rfl⟩
  have isCell := represents.cells executionId variableId
  rw [found, Option.bind_some, InsertionMap.get?_eq_some_iff.mpr inEntries] at isCell
  have isMember := mem_of_cell isCell.symm
  exact ⟨isMember.1, (Prod.mk.inj isMember.2).1⟩

theorem Represents.mem_keys_iff (represents : Represents executions observations)
    {executionId : JsString} :
    executionId ∈ executions.entries.map Prod.fst ↔
      ∃ observation ∈ observations, observation.execution_receipt_id = executionId := by
  constructor
  · intro member
    cases found : executions.get? executionId with
    | none => exact absurd member (InsertionMap.get?_eq_none_iff.mp found)
    | some stored =>
      rcases List.exists_mem_of_ne_nil _ (represents.filled executionId stored found) with
        ⟨observation, isValue⟩
      exact ⟨observation, represents.mem_of_value found isValue⟩
  · rintro ⟨observation, member, rfl⟩
    by_contra absent
    have isCell := represents.cells observation.execution_receipt_id observation.variable_id
    rw [InsertionMap.get?_eq_none_iff.mpr absent, Option.bind_none, eq_comm, cell_eq_none_iff]
      at isCell
    exact isCell (List.mem_map_of_mem member)

/-- What is stored for the execution of a new observation. -/
def storedFor (executions : Executions) (observation : CcBinaryObservation) : Variables :=
  (executions.get? observation.execution_receipt_id).getD .empty

section Represents

variable (represents : Represents executions observations)
include represents

theorem Represents.mem_of_storedFor {observation existing : CcBinaryObservation}
    (member : existing ∈ (storedFor executions observation).values) :
    existing ∈ observations ∧
      existing.execution_receipt_id = observation.execution_receipt_id := by
  rw [storedFor] at member
  cases found : executions.get? observation.execution_receipt_id with
  | none =>
    rw [found] at member
    cases member
  | some stored =>
    rw [found] at member
    exact represents.mem_of_value found member

theorem Represents.exists_first
    {observation other : CcBinaryObservation} (member : other ∈ observations)
    (sameExecution : other.execution_receipt_id = observation.execution_receipt_id) :
    ∃ first, (storedFor executions observation).values.head? = some first := by
  have isKey := represents.mem_keys_iff.mpr ⟨other, member, sameExecution⟩
  rw [storedFor]
  cases found : executions.get? observation.execution_receipt_id with
  | none => exact absurd isKey (InsertionMap.get?_eq_none_iff.mp found)
  | some stored =>
    rcases List.exists_cons_of_ne_nil (represents.filled _ stored found) with ⟨first, rest, isCons⟩
    exact ⟨first, by rw [Option.getD_some, isCons, List.head?_cons]⟩

/-- The step of the invariant: an observation passes the two checks exactly when the grid stays
one. -/
theorem isGrid_concat_iff (grid : IsGrid observations) (observation : CcBinaryObservation) :
    IsGrid (observations ++ [observation]) ↔
      (∀ first ∈ (storedFor executions observation).values.head?,
          lineageDiffers first observation = false) ∧
        cell observations observation.execution_receipt_id observation.variable_id = none := by
  have concat_mem : ∀ {other}, other ∈ observations ++ [observation] ↔
      other ∈ observations ∨ other = observation := by
    intro other
    rw [List.mem_append, List.mem_singleton]
  constructor
  · intro longer
    have places := longer.places
    rw [List.map_append, List.map_singleton, List.nodup_append] at places
    have fresh : observation.place ∉ observations.map CcBinaryObservation.place :=
      fun taken => places.2.2 _ taken _ (List.mem_singleton.mpr rfl) rfl
    refine ⟨fun first isFirst => ?_, cell_eq_none_iff.mpr fresh⟩
    have isStored := represents.mem_of_storedFor (List.mem_of_head? isFirst)
    refine longer.lineage first (concat_mem.mpr (Or.inl isStored.1)) observation
      (concat_mem.mpr (Or.inr rfl)) isStored.2 fun sameVariable => ?_
    exact fresh (List.mem_map.mpr ⟨first, isStored.1, Prod.ext isStored.2 sameVariable⟩)
  · rintro ⟨ofFirst, absent⟩
    have fresh := cell_eq_none_iff.mp absent
    -- Every earlier observation of the execution has the lineage of the first one.
    have ofEarlier : ∀ other ∈ observations,
        other.execution_receipt_id = observation.execution_receipt_id →
          lineageDiffers other observation = false := by
      intro other member sameExecution
      rcases represents.exists_first member sameExecution with ⟨first, isFirst⟩
      have isStored := represents.mem_of_storedFor (List.mem_of_head? isFirst)
      have fromFirst := ofFirst first isFirst
      by_cases sameVariable : other.variable_id = first.variable_id
      · have samePlace : other.place = first.place :=
          Prod.ext (sameExecution.trans isStored.2.symm) sameVariable
        rw [List.inj_on_of_nodup_map grid.places member isStored.1 samePlace]
        exact fromFirst
      · exact lineageDiffers_trans (grid.lineage other member first isStored.1
          (sameExecution.trans isStored.2.symm) sameVariable) fromFirst
    refine ⟨?_, fun first isFirst second isSecond sameExecution different => ?_⟩
    · rw [List.map_append, List.map_singleton, List.nodup_append]
      refine ⟨grid.places, List.nodup_singleton _, ?_⟩
      intro place taken other isOther same
      rw [same, List.mem_singleton.mp isOther] at taken
      exact fresh taken
    · rcases concat_mem.mp isFirst with inFirst | rfl
      · rcases concat_mem.mp isSecond with inSecond | rfl
        · exact grid.lineage first inFirst second inSecond sameExecution different
        · exact ofEarlier first inFirst sameExecution
      · rcases concat_mem.mp isSecond with inSecond | rfl
        · exact lineageDiffers_comm (ofEarlier second inSecond sameExecution.symm)
        · exact absurd rfl different

theorem recordObservation_eq_ok_iff (observation : CcBinaryObservation) {next : Executions} :
    recordObservation executions observation = .ok next ↔
      ((∀ first ∈ (storedFor executions observation).values.head?,
          lineageDiffers first observation = false) ∧
        cell observations observation.execution_receipt_id observation.variable_id = none) ∧
      executions.set observation.execution_receipt_id
        ((storedFor executions observation).set observation.variable_id observation) = next := by
  have isCell : (storedFor executions observation).get? observation.variable_id =
      cell observations observation.execution_receipt_id observation.variable_id := by
    rw [← represents.cells, storedFor]
    cases executions.get? observation.execution_receipt_id with
    | none => rfl
    | some stored => rfl
  rw [recordObservation, ← storedFor]
  simp only [check_eq_ok, pure_eq_ok, isCell, Option.isSome_iff_ne_none, not_not, and_assoc,
    Option.any_eq_true, not_exists, not_and, Bool.not_eq_true, Option.mem_def]

theorem Represents.concat
    (absent : cell observations observation.execution_receipt_id observation.variable_id = none) :
    Represents (executions.set observation.execution_receipt_id
        ((storedFor executions observation).set observation.variable_id observation))
      (observations ++ [observation]) where
  cells := by
    intro executionId variableId
    rw [cell_concat, InsertionMap.get?_set]
    by_cases sameExecution : executionId = observation.execution_receipt_id
    · subst sameExecution
      have before := represents.cells observation.execution_receipt_id variableId
      rw [if_pos rfl, Option.bind_some, InsertionMap.get?_set]
      by_cases sameVariable : variableId = observation.variable_id
      · subst sameVariable
        rw [if_pos rfl, absent, Option.none_or]
        exact (if_pos rfl).symm
      · have otherPlace : observation.place ≠ (observation.execution_receipt_id, variableId) :=
          fun same => sameVariable (Prod.mk.inj same).2.symm
        rw [if_neg sameVariable, if_neg otherPlace, Option.or_none, ← before, storedFor]
        cases executions.get? observation.execution_receipt_id with
        | none => rfl
        | some stored => rfl
    · have otherPlace : observation.place ≠ (executionId, variableId) :=
        fun same => sameExecution (Prod.mk.inj same).1.symm
      rw [if_neg sameExecution, if_neg otherPlace, Option.or_none]
      exact represents.cells executionId variableId
  filled := by
    intro executionId stored found isEmpty
    rw [InsertionMap.get?_set] at found
    split at found
    next =>
      rw [← Option.some.inj found] at isEmpty
      have isValue := InsertionMap.mem_values_of_get?
        (InsertionMap.get?_set_self (storedFor executions observation) observation.variable_id
          observation)
      rw [isEmpty] at isValue
      cases isValue
    next => exact represents.filled executionId stored found isEmpty

/-- The run: from executions that store a grid, the loop returns exactly when all observations
together are one. -/
theorem foldlM_recordObservation (grid : IsGrid observations) (rest : List CcBinaryObservation) :
    ((∃ final, rest.foldlM recordObservation executions = .ok final) ↔
        IsGrid (observations ++ rest)) ∧
      ∀ final, rest.foldlM recordObservation executions = .ok final →
        Represents final (observations ++ rest) := by
  induction rest generalizing executions observations with
  | nil =>
    rw [List.append_nil]
    refine ⟨iff_of_true ⟨executions, rfl⟩ grid, fun final returned => ?_⟩
    cases returned
    exact represents
  | cons observation rest ih =>
    have step := isGrid_concat_iff represents grid observation
    have regroup : observations ++ observation :: rest = (observations ++ [observation]) ++ rest :=
      by rw [List.append_assoc, List.singleton_append]
    rw [List.foldlM_cons, regroup]
    by_cases longer : IsGrid (observations ++ [observation])
    · have passes := step.mp longer
      have recorded := (recordObservation_eq_ok_iff represents observation).mpr ⟨passes, rfl⟩
      rw [recorded, ok_bind]
      exact ih (represents.concat passes.2) longer
    · have stops : ∀ final, (recordObservation executions observation >>=
          fun next => rest.foldlM recordObservation next) ≠ .ok final := by
        intro final returned
        rcases bind_eq_ok.mp returned with ⟨next, recorded, -⟩
        exact longer (step.mpr ((recordObservation_eq_ok_iff represents observation).mp recorded).1)
      refine ⟨iff_of_false (fun ⟨final, returned⟩ => stops final returned) fun grown => ?_,
        fun final returned => absurd returned (stops final)⟩
      exact longer (grown.of_subset (List.sublist_append_left _ _))

end Represents

end Represents

theorem collectExecutions_spec (observations : List CcBinaryObservation) :
    ((∃ executions, collectExecutions observations = .ok executions) ↔ IsGrid observations) ∧
      ∀ executions, collectExecutions observations = .ok executions →
        Represents executions observations := by
  have empty : IsGrid [] := ⟨List.nodup_nil, fun _ member => absurd member List.not_mem_nil⟩
  exact foldlM_recordObservation represents_empty empty observations

section Reading

variable {executions others : Executions} {observations : List CcBinaryObservation}

theorem Represents.perm (represents : Represents executions observations)
    (grid : IsGrid observations) {reordered : List CcBinaryObservation}
    (permuted : observations.Perm reordered) : Represents executions reordered where
  cells := by
    intro executionId variableId
    rw [represents.cells]
    apply Option.ext
    intro observation
    rw [cell_eq_some_iff grid.places, cell_eq_some_iff (grid.perm permuted).places,
      permuted.mem_iff]
  filled := represents.filled

theorem Represents.map_values {R : Type} (represents : Represents executions observations)
    (read : (JsString → Option CcBinaryObservation) → R) :
    executions.values.map (fun stored => read stored.get?) =
      (executions.entries.map Prod.fst).map fun executionId =>
        read (cell observations executionId) := by
  rw [InsertionMap.values, List.map_map, List.map_map]
  refine List.map_congr_left fun entry member => congrArg read (funext fun variableId => ?_)
  have isCell := represents.cells entry.1 variableId
  rwa [InsertionMap.get?_eq_some_iff.mpr member, Option.bind_some] at isCell

theorem Represents.reads_perm {R : Type} (represents : Represents executions observations)
    (alike : Represents others observations)
    (read : (JsString → Option CcBinaryObservation) → R) :
    (executions.values.map fun stored => read stored.get?).Perm
      (others.values.map fun stored => read stored.get?) := by
  have keys : (executions.entries.map Prod.fst).Perm (others.entries.map Prod.fst) := by
    rw [List.perm_ext_iff_of_nodup executions.nodup others.nodup]
    intro executionId
    rw [represents.mem_keys_iff, alike.mem_keys_iff]
  rw [represents.map_values, alike.map_values]
  exact keys.map _

theorem length_values (executions : Executions) :
    executions.values.length = executions.entries.length := List.length_map ..

theorem failureCount_eq_countP (executions : Executions) (variableId : JsString) :
    failureCount executions variableId =
      (executions.values.map fun stored => binaryOf stored variableId).countP (· = some one) := by
  rw [failureCount, ← List.countP_eq_length_filter, List.countP_map]
  rfl

def pairCells (executions : Executions) (leftId rightId : JsString) :
    List (Option JsNumber × Option JsNumber) :=
  executions.values.map fun stored => (binaryOf stored leftId, binaryOf stored rightId)

def countCells (table : CoFailureTable) (cells : List (Option JsNumber × Option JsNumber)) :
    CoFailureTable :=
  cells.foldl (fun table cell => table.count cell.1 cell.2) table

theorem coFailureTable_eq (executions : Executions) (leftId rightId : JsString) :
    coFailureTable executions leftId rightId =
      countCells ⟨0, 0, 0, 0⟩ (pairCells executions leftId rightId) := by
  rw [coFailureTable, countCells, pairCells, List.foldl_map]

theorem count_right_comm (table : CoFailureTable) (first second third fourth : Option JsNumber) :
    (table.count first second).count third fourth =
      (table.count third fourth).count first second := by
  simp only [CoFailureTable.count]
  split_ifs <;> rfl

theorem countCells_perm (table : CoFailureTable)
    {cells reordered : List (Option JsNumber × Option JsNumber)} (permuted : cells.Perm reordered) :
    countCells table cells = countCells table reordered :=
  permuted.foldl_eq' (fun _ _ _ _ table => count_right_comm table _ _ _ _) table

section Alike

variable (represents : Represents executions observations) (alike : Represents others observations)

include represents alike

theorem sampleSize_eq : executions.entries.length = others.entries.length := by
  have permuted := represents.reads_perm alike fun _ => ()
  simpa only [List.length_map, length_values] using permuted.length_eq

theorem failureCount_eq (variableId : JsString) :
    failureCount executions variableId = failureCount others variableId := by
  have permuted := represents.reads_perm alike fun row =>
    (row variableId).map CcBinaryObservation.binary_value
  rw [failureCount_eq_countP, failureCount_eq_countP]
  exact permuted.countP_eq _

theorem coFailureTable_eq_of_alike (leftId rightId : JsString) :
    coFailureTable executions leftId rightId = coFailureTable others leftId rightId := by
  have permuted := represents.reads_perm alike fun row =>
    ((row leftId).map CcBinaryObservation.binary_value,
      (row rightId).map CcBinaryObservation.binary_value)
  rw [coFailureTable_eq, coFailureTable_eq]
  exact countCells_perm _ permuted

theorem variableSummary_eq (squareRoot : JsNumber → JsNumber) :
    variableSummary squareRoot executions = variableSummary squareRoot others := by
  funext variableId
  rw [variableSummary, failureCount_eq represents alike, sampleSize_eq represents alike]
  rfl

theorem pairwiseSummary_eq (squareRoot : JsNumber → JsNumber) :
    pairwiseSummary squareRoot executions = pairwiseSummary squareRoot others := by
  funext variableIds
  rw [pairwiseSummary, coFailureTable_eq_of_alike represents alike,
    sampleSize_eq represents alike]
  rfl

end Alike

end Reading

/-! ### Order -/

theorem assertOneRule_eq_ok_iff {variableId : JsString} {members : List CcBinaryObservation} :
    assertOneRule variableId members = .ok () ↔
      ∀ first ∈ members, ∀ second ∈ members,
        first.discretization_rule_id = second.discretization_rule_id ∧
          first.discretization_rule_digest = second.discretization_rule_digest ∧
            first.score_name = second.score_name := by
  cases members with
  | nil => exact iff_of_true rfl (List.forall_mem_nil _)
  | cons first others =>
    have sameAsFirst : assertOneRule variableId (first :: others) = .ok () ↔
        ∀ member ∈ first :: others,
          member.discretization_rule_id = first.discretization_rule_id ∧
            member.discretization_rule_digest = first.discretization_rule_digest ∧
              member.score_name = first.score_name := by
      rw [assertOneRule, forM_eq_ok_iff, List.forall_mem_cons,
        and_iff_right (⟨rfl, rfl, rfl⟩ : _ ∧ _ ∧ _)]
      refine forall₂_congr fun member _ => ?_
      rw [throw_if_eq_ok]
      simp only [not_or, ne_eq, not_not]
    rw [sameAsFirst]
    constructor
    · intro same left isLeft right isRight
      have ofLeft := same left isLeft
      have ofRight := same right isRight
      exact ⟨ofLeft.1.trans ofRight.1.symm, ofLeft.2.1.trans ofRight.2.1.symm,
        ofLeft.2.2.trans ofRight.2.2.symm⟩
    · exact fun same member isMember => same member isMember first List.mem_cons_self

theorem assertComplete_eq_ok_iff {variableIds : List JsString} {execution : JsString × Variables} :
    assertComplete variableIds execution = .ok () ↔
      ∀ variableId ∈ variableIds, (execution.2.get? variableId).isSome = true := by
  rw [assertComplete, throw_if_eq_ok, Nat.not_lt, Nat.le_zero, List.length_eq_zero_iff,
    List.filter_eq_nil_iff]
  simp only [Option.isNone_iff_eq_none, Option.isSome_iff_ne_none, ne_eq]

theorem forM_assertComplete_iff {variableIds : List JsString} {executions : Executions} :
    executions.entries.forM (assertComplete variableIds) = .ok () ↔
      ∀ stored ∈ executions.values, ∀ variableId ∈ variableIds,
        (stored.get? variableId).isSome = true := by
  rw [forM_eq_ok_iff, InsertionMap.values, List.forall_mem_map]
  exact forall₂_congr fun execution _ => assertComplete_eq_ok_iff

theorem distinct_eq_of_perm {left right : List JsString} (permuted : left.Perm right)
    (single : (distinct left).length = 1) : distinct right = distinct left := by
  rcases List.length_eq_one_iff.mp single with ⟨text, isSingle⟩
  have reordered : (distinct left).Perm (distinct right) := perm_eraseDups permuted
  rw [isSingle] at reordered ⊢
  exact List.perm_singleton.mp reordered.symm

section Cohort

variable {squareRoot : JsNumber → JsNumber} {dates : DateParser} {generatedAt : JsString}
  {observations : List CcBinaryObservation} {report : CcCorrelationReport}

/-- What a returned report says about the observations. -/
structure Analyzed (squareRoot : JsNumber → JsNumber) (dates : DateParser)
    (observations : List CcBinaryObservation) (report : CcCorrelationReport)
    (variableIds : List JsString) (executions : Executions) : Prop where
  validated : ∀ observation ∈ observations, validateBinaryObservation dates observation = .ok ()
  represents : Represents executions observations
  complete : ∀ stored ∈ executions.values, ∀ variableId ∈ variableIds,
    (stored.get? variableId).isSome = true
  sampleSize : report.sample_size = executions.entries.length
  summaries : variableIds.mapM (variableSummary squareRoot executions) =
    .ok report.variable_summaries
  pairs : (orderedPairs variableIds).mapM (pairwiseSummary squareRoot executions) =
    .ok report.pairwise_summaries

theorem exists_analyzed
    (returned : analyzeCcBinaryCohort squareRoot dates observations generatedAt = .ok report) :
    ∃ variableIds executions,
      Analyzed squareRoot dates observations report variableIds executions := by
  simp only [analyzeCcBinaryCohort, check_eq_ok, bind_eq_ok, pure_eq_ok] at returned
  rcases returned with ⟨-, -, _, validated, -, -, -, _, -, executions, collected, _, complete,
    summaries, isSummaries, pairs, isPairs, rfl⟩
  refine ⟨_, executions, forM_eq_ok_iff.mp validated,
    (collectExecutions_spec observations).2 executions collected,
    forM_assertComplete_iff.mp complete, rfl, isSummaries, isPairs⟩

/-- The report does not depend on the order of the observations. -/
theorem analyzeCcBinaryCohort_of_perm {permuted : List CcBinaryObservation}
    (perm : observations.Perm permuted)
    (returned : analyzeCcBinaryCohort squareRoot dates observations generatedAt = .ok report) :
    analyzeCcBinaryCohort squareRoot dates permuted generatedAt = .ok report := by
  simp only [analyzeCcBinaryCohort, check_eq_ok, bind_eq_ok, pure_eq_ok] at returned ⊢
  rcases returned with ⟨dated, nonempty, _, validated, oneCohort, oneScope, enough, _, rules,
    executions, collected, _, complete, summaries, isSummaries, pairs, isPairs, rfl⟩
  have sameIds : sortTexts (distinct (permuted.map CcBinaryObservation.variable_id)) =
      sortTexts (distinct (observations.map CcBinaryObservation.variable_id)) :=
    (sortTexts_congr (perm_eraseDups (perm.map _))).symm
  have collectedOnce := collectExecutions_spec observations
  have grid := collectedOnce.1.mp ⟨executions, collected⟩
  rcases (collectExecutions_spec permuted).1.mpr (grid.perm perm) with ⟨others, otherCollected⟩
  have represents := (collectedOnce.2 executions collected).perm grid perm
  have alike := (collectExecutions_spec permuted).2 others otherCollected
  rw [sameIds, distinct_eq_of_perm (perm.map _) (not_not.mp oneCohort),
    distinct_eq_of_perm (perm.map _) (not_not.mp oneScope)]
  generalize sortTexts (distinct (observations.map CcBinaryObservation.variable_id)) =
    variableIds at *
  refine ⟨dated, perm.length_eq ▸ nonempty, (), ?_, oneCohort, oneScope, enough, (), ?_, others,
    otherCollected, (), ?_, summaries, ?_, pairs, ?_, ?_⟩
  · rw [forM_eq_ok_iff] at validated ⊢
    exact fun observation member => validated observation (perm.mem_iff.mpr member)
  · rw [forM_eq_ok_iff] at rules ⊢
    intro variableId isVariable
    have oneRule := assertOneRule_eq_ok_iff.mp (rules variableId isVariable)
    have members := perm.filter fun observation => decide (observation.variable_id = variableId)
    refine assertOneRule_eq_ok_iff.mpr fun first isFirst second isSecond => ?_
    exact oneRule first (members.mem_iff.mpr isFirst) second (members.mem_iff.mpr isSecond)
  · have isComplete := forM_assertComplete_iff.mp complete
    rw [forM_assertComplete_iff]
    intro stored isStored
    have permuted := represents.reads_perm alike fun row =>
      variableIds.all fun variableId => (row variableId).isSome
    rcases List.mem_map.mp (permuted.mem_iff.mpr (List.mem_map_of_mem isStored)) with
      ⟨other, isOther, sameRow⟩
    rw [← List.all_eq_true, ← sameRow, List.all_eq_true]
    exact isComplete other isOther
  · rw [← variableSummary_eq represents alike]
    exact isSummaries
  · rw [← pairwiseSummary_eq represents alike]
    exact isPairs
  · rw [sampleSize_eq represents alike]

/-! ### Counting -/

theorem mem_orderedPairs {variableIds : List JsString} {pair : JsString × JsString}
    (member : pair ∈ orderedPairs variableIds) :
    pair.1 ∈ variableIds ∧ pair.2 ∈ variableIds := by
  induction variableIds with
  | nil => cases member
  | cons left rest ih =>
    rw [orderedPairs, List.mem_append, List.mem_map] at member
    rcases member with ⟨right, isRight, rfl⟩ | later
    · exact ⟨List.mem_cons_self, List.mem_cons_of_mem _ isRight⟩
    · have inRest := ih later
      exact ⟨List.mem_cons_of_mem _ inRest.1, List.mem_cons_of_mem _ inRest.2⟩

def IsBinary (value : Option JsNumber) : Prop := value = some zero ∨ value = some one

theorem countCells_counts {cells : List (Option JsNumber × Option JsNumber)}
    (binary : ∀ cell ∈ cells, IsBinary cell.1 ∧ IsBinary cell.2) (table : CoFailureTable) :
    let counted := countCells table cells
    counted.n00 + counted.n01 + counted.n10 + counted.n11 =
        table.n00 + table.n01 + table.n10 + table.n11 + cells.length ∧
      counted.n10 + counted.n11 =
        table.n10 + table.n11 + (cells.map Prod.fst).countP (· = some one) ∧
      counted.n01 + counted.n11 =
        table.n01 + table.n11 + (cells.map Prod.snd).countP (· = some one) := by
  have different : zero ≠ one := by decide
  induction cells generalizing table with
  | nil => exact ⟨rfl, rfl, rfl⟩
  | cons cell rest ih =>
    rw [List.forall_mem_cons] at binary
    have later := ih binary.2 (table.count cell.1 cell.2)
    rcases cell with ⟨left, right⟩
    have isStep : countCells table ((left, right) :: rest) =
        countCells (table.count left right) rest := rfl
    dsimp only at later ⊢
    rw [isStep, later.1, later.2.1, later.2.2]
    rcases binary.1 with ⟨rfl | rfl, rfl | rfl⟩
    all_goals
      simp [CoFailureTable.count, different, different.symm]
      omega

/-- Every table counts every execution once, and has the failures as its sums. -/
structure CountsOnce (report : CcCorrelationReport) (pair : CcPairwiseSummary) : Prop where
  total : pair.co_failure_table.n00 + pair.co_failure_table.n01 + pair.co_failure_table.n10 +
    pair.co_failure_table.n11 = report.sample_size
  named : pair.left_variable_id ∈ report.variable_summaries.map CcVariableSummary.variable_id ∧
    pair.right_variable_id ∈ report.variable_summaries.map CcVariableSummary.variable_id
  leftSum : ∀ left ∈ report.variable_summaries, left.variable_id = pair.left_variable_id →
    pair.co_failure_table.n10 + pair.co_failure_table.n11 = left.failure_count
  rightSum : ∀ right ∈ report.variable_summaries, right.variable_id = pair.right_variable_id →
    pair.co_failure_table.n01 + pair.co_failure_table.n11 = right.failure_count

/-- The joint failures are within the bounds that the failures of the two variables leave. -/
def WithinBounds (report : CcCorrelationReport) (pair : CcPairwiseSummary) : Prop :=
  ∀ left ∈ report.variable_summaries, left.variable_id = pair.left_variable_id →
    ∀ right ∈ report.variable_summaries, right.variable_id = pair.right_variable_id →
      max 0 ((left.failure_count : ℤ) + right.failure_count - report.sample_size) ≤
          pair.co_failure_table.n11 ∧
        pair.co_failure_table.n11 ≤ min left.failure_count right.failure_count

theorem CountsOnce.withinBounds {pair : CcPairwiseSummary} (counts : CountsOnce report pair) :
    WithinBounds report pair := by
  intro left isLeft named right isRight otherNamed
  have total := counts.total
  have leftSum := counts.leftSum left isLeft named
  have rightSum := counts.rightSum right isRight otherNamed
  omega

section Analyzed

variable {variableIds : List JsString} {executions : Executions}
  (analyzed : Analyzed squareRoot dates observations report variableIds executions)

include analyzed

theorem Analyzed.isBinary {stored : Variables} (isStored : stored ∈ executions.values)
    {variableId : JsString} (isVariable : variableId ∈ variableIds) :
    IsBinary (binaryOf stored variableId) := by
  rcases List.mem_map.mp isStored with ⟨⟨executionId, value⟩, inEntries, rfl⟩
  rcases Option.isSome_iff_exists.mp (analyzed.complete value isStored variableId isVariable) with
    ⟨observation, found⟩
  have member := analyzed.represents.mem_of_value (InsertionMap.get?_eq_some_iff.mpr inEntries)
    (InsertionMap.mem_values_of_get? found)
  rw [binaryOf, found, Option.map_some]
  rcases binary_of_validate (analyzed.validated observation member.1) with isZero | isOne
  · exact Or.inl (congrArg some isZero)
  · exact Or.inr (congrArg some isOne)

theorem Analyzed.failure_count_eq {summary : CcVariableSummary}
    (member : summary ∈ report.variable_summaries) :
    summary.failure_count = failureCount executions summary.variable_id := by
  rcases (mem_of_mapM analyzed.summaries).1 summary member with ⟨variableId, -, isSummary⟩
  simp only [variableSummary, bind_eq_ok, pure_eq_ok] at isSummary
  rcases isSummary with ⟨interval, -, rfl⟩
  rfl

theorem Analyzed.variableId_mem {variableId : JsString} (isVariable : variableId ∈ variableIds) :
    variableId ∈ report.variable_summaries.map CcVariableSummary.variable_id := by
  rcases (mem_of_mapM analyzed.summaries).2 variableId isVariable with
    ⟨summary, member, isSummary⟩
  simp only [variableSummary, bind_eq_ok, pure_eq_ok] at isSummary
  rcases isSummary with ⟨interval, -, rfl⟩
  exact List.mem_map_of_mem member

theorem Analyzed.countsOnce {pair : CcPairwiseSummary}
    (member : pair ∈ report.pairwise_summaries) : CountsOnce report pair := by
  rcases (mem_of_mapM analyzed.pairs).1 pair member with ⟨ids, isPair, isSummary⟩
  have areIds := mem_orderedPairs isPair
  simp only [pairwiseSummary, bind_eq_ok, pure_eq_ok] at isSummary
  rcases isSummary with ⟨interval, -, rfl⟩
  have binary : ∀ cell ∈ pairCells executions ids.1 ids.2, IsBinary cell.1 ∧ IsBinary cell.2 := by
    intro cell isCell
    rcases List.mem_map.mp isCell with ⟨stored, isStored, rfl⟩
    exact ⟨analyzed.isBinary isStored areIds.1, analyzed.isBinary isStored areIds.2⟩
  have counts := countCells_counts binary ⟨0, 0, 0, 0⟩
  rw [← coFailureTable_eq] at counts
  dsimp only at counts
  have size : (pairCells executions ids.1 ids.2).length = report.sample_size := by
    rw [analyzed.sampleSize, ← length_values, pairCells, List.length_map]
  have lefts : (pairCells executions ids.1 ids.2).map Prod.fst =
      executions.values.map fun stored => binaryOf stored ids.1 := List.map_map
  have rights : (pairCells executions ids.1 ids.2).map Prod.snd =
      executions.values.map fun stored => binaryOf stored ids.2 := List.map_map
  rw [lefts, rights, ← failureCount_eq_countP, ← failureCount_eq_countP, size] at counts
  refine ⟨?_, ⟨analyzed.variableId_mem areIds.1, analyzed.variableId_mem areIds.2⟩, ?_, ?_⟩
  · exact counts.1.trans (Nat.zero_add _)
  · intro left isLeft named
    rw [analyzed.failure_count_eq isLeft, named]
    exact counts.2.1.trans (Nat.zero_add _)
  · intro right isRight named
    rw [analyzed.failure_count_eq isRight, named]
    exact counts.2.2.trans (Nat.zero_add _)

end Analyzed

end Cohort

/-- **Cohort tables are consistent and order-free.** The order decides only which error a refused
cohort throws. -/
theorem cohort_consistent_and_orderFree (squareRoot : JsNumber → JsNumber) (dates : DateParser)
    (observations : List CcBinaryObservation) (generatedAt : JsString) :
    (∀ report, analyzeCcBinaryCohort squareRoot dates observations generatedAt = .ok report →
        ∀ pair ∈ report.pairwise_summaries, CountsOnce report pair ∧ WithinBounds report pair) ∧
      ∀ permuted, observations.Perm permuted →
        (analyzeCcBinaryCohort squareRoot dates permuted generatedAt).toOption =
          (analyzeCcBinaryCohort squareRoot dates observations generatedAt).toOption := by
  have accepted : ∀ {left right : List CcBinaryObservation} {report}, left.Perm right →
      (analyzeCcBinaryCohort squareRoot dates left generatedAt).toOption = some report →
        (analyzeCcBinaryCohort squareRoot dates right generatedAt).toOption = some report := by
    intro left right report permuted returned
    rw [analyzeCcBinaryCohort_of_perm permuted (eq_ok_of_toOption returned)]
    rfl
  constructor
  · intro report returned pair member
    rcases exists_analyzed returned with ⟨variableIds, executions, analyzed⟩
    have counts := analyzed.countsOnce member
    exact ⟨counts, counts.withinBounds⟩
  · intro permuted perm
    apply Option.ext
    intro report
    exact ⟨accepted perm.symm, accepted perm⟩

namespace Sample

/-- `Math.sqrt`, to a hundred binary digits before it is rounded. -/
def squareRoot : JsNumber → JsNumber
  | .finite value =>
    if value < 0 then .nan else double ((Nat.sqrt ⌊value * 4 ^ 100⌋₊ : ℚ) / 2 ^ 100)
  | other => other

def digest : JsString := js "sha256:" ++ List.replicate 64 (unit 'a')

def observation (execution guardrail : String) (binary : JsNumber) : CcBinaryObservation where
  schema_version := js "ghost.cc_binary_observation.v1"
  observation_id := js execution ++ js guardrail
  execution_receipt_id := js execution
  execution_receipt_digest := some digest
  discretization_rule_id := js "rule-" ++ js guardrail
  discretization_rule_digest := digest
  variable_id := js guardrail
  score_name := js "score"
  score_value := binary
  binary_value := binary
  failure_semantics := ccFailureSemantics
  observed_at := js "2026-07-01T00:00:00Z"
  parent_trace_digest := digest
  cohort_id := js "cohort"
  copula_stationarity := ⟨true, js "scope", js "declared only"⟩
  non_claim := js "mechanics only"

def cohort : List CcBinaryObservation :=
  [observation "run-1" "toxicity" one, observation "run-1" "leak" one,
    observation "run-2" "leak" zero, observation "run-2" "toxicity" one]

def generatedAt : JsString := js "2026-07-02T00:00:00Z"

end Sample

theorem sample_cohort_counted :
    ∃ report, analyzeCcBinaryCohort Sample.squareRoot utcDates Sample.cohort Sample.generatedAt =
        .ok report ∧
      (report.pairwise_summaries.map CcPairwiseSummary.co_failure_table = [⟨0, 1, 0, 1⟩] ∧
        ∀ pair ∈ report.pairwise_summaries, CountsOnce report pair ∧ WithinBounds report pair) ∧
      (analyzeCcBinaryCohort Sample.squareRoot utcDates Sample.cohort.reverse
        Sample.generatedAt).toOption = some report := by
  have spec := cohort_consistent_and_orderFree Sample.squareRoot utcDates Sample.cohort
    Sample.generatedAt
  have evaluated : (analyzeCcBinaryCohort Sample.squareRoot utcDates Sample.cohort
      Sample.generatedAt).toOption.any (fun report =>
        report.pairwise_summaries.map CcPairwiseSummary.co_failure_table = [⟨0, 1, 0, 1⟩]) =
      true := by
    decide +kernel
  rcases exists_ok_of_any evaluated with ⟨report, returned, tables⟩
  refine ⟨report, returned, ⟨of_decide_eq_true tables, spec.1 report returned⟩, ?_⟩
  rw [spec.2 _ (List.reverse_perm _).symm, returned]
  rfl

end GhostArk.ResearchFrontier.CcCorrelation
