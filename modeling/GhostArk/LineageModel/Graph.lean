import GhostArk.Lib.InsertionMap
import GhostArk.Lib.Reachability
import GhostArk.LineageModel.Events

/-!
Contract: `packages/lineage-model/src/graph.ts`.

Owns the graph of recorded events with its two adjacency maps, the walk behind ancestors and
descendants, and the check for cycles; that the maps hold the edges of the recorded events; and when
the queries are reachability: on graphs without an edge at the empty node id, which the walk takes
for the end of its stack and the check for cycles does not.
-/

namespace GhostArk.LineageModel

open Js
open Lib

structure LineageEdge where
  fromNode : JsString
  toNode : JsString
  eventId : JsString
deriving DecidableEq

structure LineageGraph where
  events : InsertionMap JsString LineageEvent
  outgoing : InsertionMap JsString (List LineageEdge)
  incoming : InsertionMap JsString (List LineageEdge)

inductive Direction where
  | incoming
  | outgoing

namespace Direction

def node : Direction → LineageEdge → JsString
  | incoming => LineageEdge.toNode
  | outgoing => LineageEdge.fromNode

def next : Direction → LineageEdge → JsString
  | incoming => LineageEdge.fromNode
  | outgoing => LineageEdge.toNode

end Direction

def fileEdges (direction : Direction) (adjacency : InsertionMap JsString (List LineageEdge))
    (edges : List LineageEdge) : InsertionMap JsString (List LineageEdge) :=
  edges.foldl (fun adjacency edge =>
    adjacency.set (direction.node edge)
      ((adjacency.get? (direction.node edge)).getD [] ++ [edge])) adjacency

def LineageEvent.edges (event : LineageEvent) : List LineageEdge :=
  event.inputs.flatMap fun input =>
    event.outputs.map fun output => ⟨input, output, event.eventId⟩

namespace LineageGraph

def empty : LineageGraph := ⟨.empty, .empty, .empty⟩

/-- The part of `addEvent` for an event whose id is new. -/
def record (graph : LineageGraph) (event : LineageEvent) : LineageGraph where
  events := graph.events.set event.eventId event
  outgoing := fileEdges .outgoing graph.outgoing event.edges
  incoming := fileEdges .incoming graph.incoming event.edges

def addEvent (issues : JsValue → JsValue) (graph : LineageGraph) (event : JsValue) :
    Except JsError LineageGraph := do
  let validated ← validateLineageEvent issues event
  return if (graph.events.get? validated.eventId).isSome then graph else graph.record validated

variable (graph : LineageGraph)

def adjacency : Direction → InsertionMap JsString (List LineageEdge)
  | .incoming => graph.incoming
  | .outgoing => graph.outgoing

def neighbours (direction : Direction) (nodeId : JsString) : List JsString :=
  (((graph.adjacency direction).get? nodeId).getD []).map direction.next

def targets (direction : Direction) : List JsString :=
  (graph.adjacency direction).values.flatten.map direction.next

/-- The empty node id is falsy, so it is not expanded. -/
def walk (nodeId : JsString) (direction : Direction) : List JsString :=
  sortTexts (Lib.walk (graph.neighbours direction) (fun current => current = [])
    ((graph.targets direction).length + 1) [nodeId] [])

def ancestors (nodeId : JsString) : List JsString := graph.walk nodeId .incoming

def descendants (nodeId : JsString) : List JsString := graph.walk nodeId .outgoing

def edges : List LineageEdge := graph.outgoing.values.flatten

def assertAcyclic : Except JsError Unit :=
  let roots := graph.edges.map LineageEdge.fromNode
  let fuel := (roots ++ graph.targets .outgoing).length + 1
  match roots.foldlM (search (graph.neighbours .outgoing) fuel []) [] with
  | .ok _ => .ok ()
  | .error node =>
    .error ⟨.validationError, js "Lineage graph contains a cycle", [(js "node", .string node)]⟩

/-! ### Recorded edges -/

def HasEdge (edge : LineageEdge) : Prop := ∃ event ∈ graph.events.values, edge ∈ event.edges

/-- An event with the one node among its inputs and the other among its outputs is recorded. -/
def Recorded (source target : JsString) : Prop :=
  ∃ event ∈ graph.events.values, source ∈ event.inputs ∧ target ∈ event.outputs

/-- Each adjacency map holds the recorded edges, filed under their nodes. -/
def Consistent : Prop :=
  ∀ direction node edge, edge ∈ ((graph.adjacency direction).get? node).getD [] ↔
    graph.HasEdge edge ∧ direction.node edge = node

end LineageGraph

theorem mem_edges {event : LineageEvent} {edge : LineageEdge} :
    edge ∈ event.edges ↔
      edge.fromNode ∈ event.inputs ∧ edge.toNode ∈ event.outputs ∧ edge.eventId = event.eventId := by
  simp only [LineageEvent.edges, List.mem_flatMap, List.mem_map]
  constructor
  · rintro ⟨input, isInput, output, isOutput, rfl⟩
    exact ⟨isInput, isOutput, rfl⟩
  · rintro ⟨isInput, isOutput, sameId⟩
    exact ⟨edge.fromNode, isInput, edge.toNode, isOutput, by rw [← sameId]⟩

theorem mem_fileEdges {direction : Direction} {adjacency : InsertionMap JsString (List LineageEdge)}
    {edges : List LineageEdge} {node : JsString} {edge : LineageEdge} :
    edge ∈ ((fileEdges direction adjacency edges).get? node).getD [] ↔
      edge ∈ (adjacency.get? node).getD [] ∨ edge ∈ edges ∧ direction.node edge = node := by
  induction edges generalizing adjacency with
  | nil => simp [fileEdges]
  | cons first rest ih =>
    rw [fileEdges, List.foldl_cons, ← fileEdges, ih, InsertionMap.get?_set,
      List.mem_cons]
    split
    next same =>
      subst same
      rw [Option.getD_some, List.mem_append, List.mem_singleton]
      grind
    next different =>
      have notFirst : edge = first → direction.node edge ≠ node := by
        rintro rfl same
        exact different same.symm
      tauto

namespace LineageGraph

variable {graph : LineageGraph}

theorem consistent_empty : empty.Consistent := by
  intro direction node edge
  have noEdges : ¬ empty.HasEdge edge := by
    rintro ⟨event, isEvent, -⟩
    cases isEvent
  have nothing : ((empty.adjacency direction).get? node).getD [] = [] := by
    cases direction <;> rfl
  rw [nothing]
  exact iff_of_false List.not_mem_nil fun both => noEdges both.1

theorem consistent_record (consistent : graph.Consistent) {event : LineageEvent}
    (isNew : graph.events.get? event.eventId = none) : (graph.record event).Consistent := by
  intro direction node edge
  have hasEdge : (graph.record event).HasEdge edge ↔ graph.HasEdge edge ∨ edge ∈ event.edges := by
    rw [HasEdge, HasEdge, record, InsertionMap.values, InsertionMap.entries_set_of_none isNew,
      List.map_append, List.map_singleton]
    simp only [List.mem_append, List.mem_singleton, or_and_right, exists_or, exists_eq_left]
    rfl
  have filed : (graph.record event).adjacency direction =
      fileEdges direction (graph.adjacency direction) event.edges := by
    cases direction <;> rfl
  rw [filed, mem_fileEdges, consistent, hasEdge, or_and_right]

theorem consistent_addEvent {issues : JsValue → JsValue} {event : JsValue} {later : LineageGraph}
    (consistent : graph.Consistent) (added : graph.addEvent issues event = .ok later) :
    later.Consistent := by
  rcases bind_eq_ok.mp added with ⟨validated, -, returned⟩
  rw [pure_eq_ok] at returned
  subst returned
  split
  next => exact consistent
  next isNew => exact consistent_record consistent (Option.not_isSome_iff_eq_none.mp isNew)

/-- Every sequence of added events keeps both adjacency maps consistent. -/
theorem consistent_foldlM {issues : JsValue → JsValue} {events : List JsValue}
    {later : LineageGraph} (consistent : graph.Consistent)
    (built : events.foldlM (addEvent issues) graph = .ok later) : later.Consistent := by
  induction events generalizing graph with
  | nil =>
    cases built
    exact consistent
  | cons event rest ih =>
    rw [List.foldlM_cons] at built
    rcases bind_eq_ok.mp built with ⟨next, added, rest⟩
    exact ih (consistent_addEvent consistent added) rest

section Queries

variable {source target nodeId other : JsString} {direction : Direction}

theorem recorded_iff :
    graph.Recorded source target ↔
      ∃ edge, graph.HasEdge edge ∧ edge.fromNode = source ∧ edge.toNode = target := by
  simp only [HasEdge, mem_edges, Recorded]
  constructor
  · rintro ⟨event, isEvent, isInput, isOutput⟩
    exact ⟨⟨source, target, event.eventId⟩, ⟨event, isEvent, isInput, isOutput, rfl⟩, rfl, rfl⟩
  · rintro ⟨edge, ⟨event, isEvent, isInput, isOutput, -⟩, rfl, rfl⟩
    exact ⟨event, isEvent, isInput, isOutput⟩

theorem mem_neighbours (consistent : graph.Consistent) :
    other ∈ graph.neighbours direction nodeId ↔
      ∃ edge, graph.HasEdge edge ∧ direction.node edge = nodeId ∧ direction.next edge = other := by
  rw [neighbours, List.mem_map]
  simp only [consistent direction, and_assoc]

theorem mem_neighbours_outgoing (consistent : graph.Consistent) :
    target ∈ graph.neighbours .outgoing source ↔ graph.Recorded source target := by
  rw [mem_neighbours consistent, recorded_iff]
  rfl

theorem mem_neighbours_incoming (consistent : graph.Consistent) :
    source ∈ graph.neighbours .incoming target ↔ graph.Recorded source target := by
  rw [mem_neighbours consistent, recorded_iff]
  simp only [and_comm (a := Direction.node _ _ = _)]
  rfl

theorem mem_flatten {edge : LineageEdge}
    (found : edge ∈ ((graph.adjacency direction).get? nodeId).getD []) :
    edge ∈ (graph.adjacency direction).values.flatten := by
  cases isFiled : (graph.adjacency direction).get? nodeId with
  | none =>
    rw [isFiled] at found
    cases found
  | some filed =>
    rw [isFiled] at found
    exact List.mem_flatten.mpr ⟨filed, InsertionMap.mem_values_of_get? isFiled, found⟩

theorem mem_targets (direction : Direction) :
    ∀ source, ∀ target ∈ graph.neighbours direction source, target ∈ graph.targets direction := by
  intro source target isNeighbour
  rcases List.mem_map.mp isNeighbour with ⟨edge, found, rfl⟩
  exact List.mem_map_of_mem (mem_flatten found)

theorem mem_walk_iff :
    other ∈ graph.walk nodeId direction ↔
      Relation.TransGen (Steps (graph.neighbours direction) fun current => current = []) nodeId
        other := by
  rw [walk, sortTexts, List.mem_insertionSort]
  exact Lib.mem_walk_iff (mem_targets direction) (Nat.lt_succ_self _)

theorem not_mem_walk_empty : other ∉ graph.walk [] direction := by
  intro member
  rcases Relation.TransGen.head'_iff.mp (mem_walk_iff.mp member) with ⟨next, step, -⟩
  exact Bool.noConfusion step.1

/-- The check fails exactly if some node reaches itself. -/
theorem exists_error_assertAcyclic_iff (consistent : graph.Consistent) :
    (∃ error, graph.assertAcyclic = .error error) ↔
      ∃ node, Relation.TransGen graph.Recorded node node := by
  have sameEdges : Edge (graph.neighbours .outgoing) = graph.Recorded := by
    funext source target
    exact propext (mem_neighbours_outgoing consistent)
  have covers : ∀ source, ∀ target ∈ graph.neighbours .outgoing source,
      source ∈ graph.edges.map LineageEdge.fromNode := by
    intro source target isNeighbour
    rcases List.mem_map.mp isNeighbour with ⟨edge, found, rfl⟩
    have isSource : edge.fromNode = source := ((consistent .outgoing source edge).mp found).2
    exact List.mem_map.mpr ⟨edge, mem_flatten found, isSource⟩
  have searched := exists_error_search_iff
    (fun source target isNeighbour => List.mem_append_right
      (graph.edges.map LineageEdge.fromNode) (mem_targets .outgoing source target isNeighbour))
    (List.subset_append_left _ _) covers (Nat.lt_succ_self _)
  rw [← sameEdges, ← searched, assertAcyclic]
  split
  next visited returned =>
    rw [Nat.succ_eq_add_one, returned]
    simp
  next node stopped =>
    rw [Nat.succ_eq_add_one, stopped]
    simp

theorem steps_outgoing_iff (consistent : graph.Consistent) :
    Steps (graph.neighbours .outgoing) (fun current => current = []) source target ↔
      source ≠ [] ∧ graph.Recorded source target := by
  rw [Steps, decide_eq_false_iff_not, mem_neighbours_outgoing consistent]

theorem steps_incoming_iff (consistent : graph.Consistent) :
    Steps (graph.neighbours .incoming) (fun current => current = []) target source ↔
      target ≠ [] ∧ graph.Recorded source target := by
  rw [Steps, decide_eq_false_iff_not, mem_neighbours_incoming consistent]

end Queries

/-! ### Reachability -/

/-- The queries are the transitive closure of the recorded edges, and the check for cycles throws
exactly if a node is its own descendant. -/
structure AnswersReachability (graph : LineageGraph) : Prop where
  ancestors : ∀ node other, other ∈ graph.ancestors node ↔
    Relation.TransGen graph.Recorded other node
  descendants : ∀ node other, other ∈ graph.descendants node ↔
    Relation.TransGen graph.Recorded node other
  symmetric : ∀ first second, first ∈ graph.ancestors second ↔ second ∈ graph.descendants first
  acyclic : (∃ error, graph.assertAcyclic = .error error) ↔ ∃ node, node ∈ graph.descendants node

/-- No recorded edge starts or ends at the empty node id. -/
def AvoidsEmpty (graph : LineageGraph) : Prop :=
  ∀ event ∈ graph.events.values, ∀ edge ∈ event.edges, edge.fromNode ≠ [] ∧ edge.toNode ≠ []

theorem avoidsEmpty_iff :
    graph.AvoidsEmpty ↔ ∀ source target, graph.Recorded source target → source ≠ [] ∧ target ≠ [] := by
  constructor
  · rintro avoids source target ⟨event, isEvent, isInput, isOutput⟩
    exact avoids event isEvent ⟨source, target, event.eventId⟩
      (mem_edges.mpr ⟨isInput, isOutput, rfl⟩)
  · intro avoids event isEvent edge isEdge
    rcases mem_edges.mp isEdge with ⟨isInput, isOutput, -⟩
    exact avoids _ _ ⟨event, isEvent, isInput, isOutput⟩

/-- **Lineage queries.** On the graph of any sequence of valid events the queries are reachability
exactly if no recorded edge starts or ends at the empty node id. -/
theorem answersReachability_iff (issues : JsValue → JsValue) (events : List JsValue)
    (graph : LineageGraph) (built : events.foldlM (addEvent issues) empty = .ok graph) :
    graph.AnswersReachability ↔ graph.AvoidsEmpty := by
  have consistent := consistent_foldlM consistent_empty built
  rw [avoidsEmpty_iff]
  constructor
  · intro answers source target recorded
    constructor
    · rintro rfl
      exact not_mem_walk_empty ((answers.descendants [] target).mpr (.single recorded))
    · rintro rfl
      exact not_mem_walk_empty ((answers.ancestors [] source).mpr (.single recorded))
  · intro avoids
    have forwards : Steps (graph.neighbours .outgoing) (fun current => current = []) =
        graph.Recorded := by
      funext source target
      rw [steps_outgoing_iff consistent]
      exact propext ⟨And.right, fun recorded => ⟨(avoids source target recorded).1, recorded⟩⟩
    have backwards : Steps (graph.neighbours .incoming) (fun current => current = []) =
        Function.swap graph.Recorded := by
      funext target source
      rw [steps_incoming_iff consistent]
      exact propext ⟨And.right, fun recorded => ⟨(avoids source target recorded).2, recorded⟩⟩
    have ancestors : ∀ node other, other ∈ graph.ancestors node ↔
        Relation.TransGen graph.Recorded other node := by
      intro node other
      rw [LineageGraph.ancestors, mem_walk_iff, backwards, Relation.transGen_swap]
    have descendants : ∀ node other, other ∈ graph.descendants node ↔
        Relation.TransGen graph.Recorded node other := by
      intro node other
      rw [LineageGraph.descendants, mem_walk_iff, forwards]
    refine ⟨ancestors, descendants, ?_, ?_⟩
    · intro first second
      rw [ancestors, descendants]
    · rw [exists_error_assertAcyclic_iff consistent]
      exact exists_congr fun node => (descendants node node).symm

end LineageGraph

namespace GraphSample

open EventSample

def passed (source target : JsString) : BuildLineageEventInput :=
  { dropped none with inputs := some [source], outputs := some [target] }

def passedId (digit : Char) : JsString := js "lin_" ++ List.replicate 64 (unit digit)

def supplied (digit : Char) (source target : JsString) : JsValue :=
  identified (passedId digit) ((passed source target).withoutId clock)

theorem isValid_passed (source target : JsString) : (passed source target).IsValid clock :=
  let valid := isValid_dropped none
  ⟨valid.tenantSlug, valid.occurredAt, valid.actor, valid.distinct⟩

theorem addEvent_supplied (issues : JsValue → JsValue) (graph : LineageGraph) {digit : Char}
    (source target : JsString) (tagged : isTaggedHex64 "lin_" (passedId digit) = true)
    (isNew : graph.events.get? (passedId digit) = none) :
    graph.addEvent issues (supplied digit source target) =
      .ok (graph.record ((passed source target).event clock (passedId digit))) := by
  have validated : validateLineageEvent issues (supplied digit source target) =
      .ok ((passed source target).event clock (passedId digit)) :=
    validateLineageEvent_identified (isValid_passed source target) tagged
  rw [LineageGraph.addEvent, validated, ok_bind]
  simp only [BuildLineageEventInput.event, isNew]
  rfl

def single (digit : Char) (source target : JsString) : LineageGraph :=
  LineageGraph.empty.record ((passed source target).event clock (passedId digit))

theorem foldlM_single (issues : JsValue → JsValue) {digit : Char} (source target : JsString)
    (tagged : isTaggedHex64 "lin_" (passedId digit) = true) :
    [supplied digit source target].foldlM (LineageGraph.addEvent issues) .empty =
      .ok (single digit source target) := by
  rw [List.foldlM_cons, addEvent_supplied issues _ source target tagged rfl]
  rfl

/-- Two events, the second from where the first has led. -/
def path : LineageGraph :=
  (single 'a' (js "ev_1") (js "ev_2")).record
    ((passed (js "ev_2") (js "ev_3")).event clock (passedId 'b'))

theorem foldlM_path (issues : JsValue → JsValue) :
    [supplied 'a' (js "ev_1") (js "ev_2"), supplied 'b' (js "ev_2") (js "ev_3")].foldlM
      (LineageGraph.addEvent issues) .empty = .ok path := by
  rw [List.foldlM_cons, addEvent_supplied issues _ _ _ (by decide +kernel) rfl, ok_bind,
    List.foldlM_cons, addEvent_supplied issues _ _ _ (by decide +kernel) (by decide +kernel)]
  rfl

theorem path_reachability :
    path.AnswersReachability ∧ js "ev_3" ∈ path.descendants (js "ev_1") := by
  have reachable := (LineageGraph.answersReachability_iff (fun _ => .array []) _ _
    (foldlM_path _)).mpr (by
      intro event isEvent edge isEdge
      rcases List.mem_cons.mp isEvent with rfl | isEvent
      · rcases List.mem_singleton.mp isEdge with rfl
        exact ⟨by decide, by decide⟩
      · rcases List.mem_singleton.mp isEvent with rfl
        rcases List.mem_singleton.mp isEdge with rfl
        exact ⟨by decide, by decide⟩)
  have first : path.Recorded (js "ev_1") (js "ev_2") :=
    ⟨_, List.mem_cons_self, List.mem_singleton_self _, List.mem_singleton_self _⟩
  have second : path.Recorded (js "ev_2") (js "ev_3") :=
    ⟨_, List.mem_cons_of_mem _ (List.mem_singleton_self _), List.mem_singleton_self _,
      List.mem_singleton_self _⟩
  exact ⟨reachable, (reachable.descendants _ _).mpr (.head first (.single second))⟩

/-- The descendants of the empty node are not found. -/
theorem emptyNode_unreached :
    ¬ ∀ (issues : JsValue → JsValue) (events : List JsValue) (graph : LineageGraph),
      events.foldlM (LineageGraph.addEvent issues) .empty = .ok graph →
        graph.AnswersReachability := by
  intro answers
  have reachable := answers (fun _ => .array []) [supplied 'a' [] (js "ev_1")] _
    (foldlM_single _ _ _ (by decide +kernel))
  refine LineageGraph.not_mem_walk_empty ((reachable.descendants [] (js "ev_1")).mpr (.single ?_))
  exact ⟨_, List.mem_singleton_self _, List.mem_singleton_self _, List.mem_singleton_self _⟩

end GraphSample

end GhostArk.LineageModel
