import Mathlib.Logic.Relation
import Dialogue.Proofs.Graph.Acceptance
import Dialogue.Proofs.Graph.Paths

/-!
# Nodes that nothing leads to

The nodes that a loaded flow lists as unreachable are those that no path leads to
from its start, where a path goes along the edges of the flow as it is written and
to the targets that configurations name.

One half is that the search finds nothing else: whatever holds of the start and is
handed on along links holds of all that it finds.  The other half is that it does
not stop too early, which `explore_closed` says.
-/

namespace Dialogue

/-- One step of a path through a flow: along an edge, whatever the type of the node that it leaves,
or to a target that the configuration of a node names. -/
inductive Flow.Link (registry : Registry) (flow : Flow) : NodeId → NodeId → Prop
  | edge {edge : Flow.Edge} (drawn : edge ∈ flow.edges) :
      Link registry flow edge.source edge.target
  | target {node : Flow.Node} {behaviour : Behaviour} {next : NodeId} (written : node ∈ flow.nodes)
      (built : registry.build node = .ok behaviour) (named : next ∈ behaviour.targets) :
      Link registry flow node.id next

namespace Graph

variable {registry : Registry} {flow : Flow} {graph : Graph}

/-! ## Links -/

/-- A node of the definition is linked to where its edges go and to its targets. -/
theorem linked_of_load (h : load registry flow = .ok graph) {written : Flow.Node}
    (hwritten : written ∈ flow.nodes) :
    ∃ behaviour, registry.build written = .ok behaviour ∧
      graph.linked written.id =
        (flow.outgoing written).map Flow.Edge.target ++ behaviour.targets := by
  obtain ⟨node, hfound, hload⟩ := find?_of_load h hwritten
  obtain ⟨hbuilt, -, -, hlinks⟩ := loadNode_eq_ok hload
  refine ⟨node.behaviour, hbuilt, ?_⟩
  rw [linked, hfound]
  exact hlinks

/-- The links of a loaded flow are the steps of paths through its definition. -/
theorem linked_iff (h : load registry flow = .ok graph) {here next : NodeId} :
    next ∈ graph.linked here ↔ flow.Link registry here next := by
  constructor
  · intro hnext
    have hhere : here ∈ flow.ids := by
      rw [← ids_of_load h, ← contains_iff]
      cases hfound : graph.find? here with
      | none => simp [linked, hfound] at hnext
      | some node => simp [contains, hfound]
    obtain ⟨written, hwritten, rfl⟩ := List.mem_map.mp hhere
    obtain ⟨behaviour, hbuilt, hlinked⟩ := linked_of_load h hwritten
    rw [hlinked] at hnext
    rcases List.mem_append.mp hnext with hedge | htarget
    · obtain ⟨edge, hout, rfl⟩ := List.mem_map.mp hedge
      obtain ⟨hdrawn, hsource⟩ := List.mem_filter.mp hout
      rw [← show edge.source = written.id by simpa using hsource]
      exact .edge hdrawn
    · exact .target hwritten hbuilt htarget
  · intro hlink
    cases hlink with
    | @edge edge hdrawn =>
        obtain ⟨written, hwritten, hid⟩ :=
          List.mem_map.mp ((exists_load_eq_ok.mp ⟨graph, h⟩).edges edge hdrawn).1
        obtain ⟨behaviour, -, hlinked⟩ := linked_of_load h hwritten
        have hout : edge ∈ flow.outgoing written :=
          List.mem_filter.mpr ⟨hdrawn, by simp [hid]⟩
        rw [← hid, hlinked]
        exact List.mem_append_left _ (List.mem_map_of_mem hout)
    | @target written behaviour _ hwritten hbuilt hnamed =>
        obtain ⟨found, hfound, hlinked⟩ := linked_of_load h hwritten
        obtain rfl := Except.ok.inj (hbuilt.symm.trans hfound)
        rw [hlinked]
        exact List.mem_append_right _ hnamed

/-- A path does not leave the flow. -/
theorem mem_ids_of_link (h : load registry flow = .ok graph) {here next : NodeId}
    (hlink : flow.Link registry here next) : next ∈ flow.ids := by
  have hwell := exists_load_eq_ok.mp ⟨graph, h⟩
  cases hlink with
  | edge hdrawn => exact (hwell.edges _ hdrawn).2
  | target hwritten hbuilt hnamed => exact (hwell.nodes _ hwritten).targets _ hbuilt _ hnamed

/-- The links of a loaded flow lead to nodes of it. -/
theorem links_of_load (h : load registry flow = .ok graph) :
    ∀ node ∈ graph.nodes, ∀ next ∈ node.links, graph.contains next = true := by
  intro node hnode next hnext
  have hdistinct : (graph.nodes.map Node.id).Nodup :=
    ids_of_load h ▸ (exists_load_eq_ok.mp ⟨graph, h⟩).distinct
  have hlinked : next ∈ graph.linked node.id := by
    rw [linked, find?_of_distinct hdistinct hnode]
    exact hnext
  rw [contains_iff, ids_of_load h]
  exact mem_ids_of_link h ((linked_iff h).mp hlinked)

/-! ## The search -/

/-- A search finds nothing but what links lead to. -/
theorem explore_induction {P : NodeId → Prop}
    (hstep : ∀ here next, P here → next ∈ graph.linked here → P next) (rounds : Nat)
    (frontier found : List NodeId) (hfrontier : ∀ id ∈ frontier, P id)
    (hfound : ∀ id ∈ found, P id) : ∀ id ∈ graph.explore rounds frontier found, P id := by
  fun_induction explore with
  | case1 => exact hfound
  | case2 => exact hfound
  | case3 rounds frontier found hsome fresh ih =>
      have hfresh : ∀ id ∈ fresh, P id := by
        intro id hid
        obtain ⟨here, hhere, hlinked⟩ : ∃ here ∈ frontier, id ∈ graph.linked here := by
          have hnew := List.mem_of_mem_filter hid
          simpa using hnew
        exact hstep here id (hfrontier here hhere) hlinked
      apply ih hfresh
      intro id hid
      rcases List.mem_append.mp hid with hold | hnew
      · exact hfound id hold
      · exact hfresh id hnew

/-- What is found from the start is what paths lead to. -/
theorem mem_reachable_iff (h : load registry flow = .ok graph) {id : NodeId} :
    id ∈ graph.reachable ↔ Relation.ReflTransGen (flow.Link registry) graph.start id := by
  constructor
  · revert id
    apply explore_induction
    · intro here next hhere hnext
      exact hhere.tail ((linked_iff h).mp hnext)
    · intro id hid
      rw [List.mem_singleton.mp hid]
    · intro id hid
      rw [List.mem_singleton.mp hid]
  · intro hpath
    induction hpath with
    | refl => exact start_mem_reachable
    | tail hpath hlink ih => exact reachable_linked (links_of_load h) ih ((linked_iff h).mpr hlink)

/-- Distinct nodes are listed in strictly ascending order. -/
theorem ascending_unreachable (hdistinct : (graph.nodes.map Node.id).Nodup) :
    graph.unreachable.Pairwise (· < ·) := by
  have hsorted : graph.unreachable.Pairwise fun a b => decide (a ≤ b) = true := by
    apply List.pairwise_mergeSort
    · intro a b c hab hbc
      simp only [decide_eq_true_eq] at hab hbc ⊢
      exact String.le_trans hab hbc
    · intro a b
      simp only [Bool.or_eq_true, decide_eq_true_eq]
      exact String.le_total a b
  have hnodup : graph.unreachable.Nodup :=
    (List.mergeSort_perm _ _).nodup_iff.mpr (hdistinct.filter _)
  refine hsorted.imp₂ (fun a b hle hne => ?_) hnodup
  exact Std.lt_of_le_of_ne (of_decide_eq_true hle) hne

/-- The nodes that a loaded flow lists as unreachable are, in strictly ascending order, exactly the
nodes of its definition that no path from the start leads to.  The start is the node of that type,
and it is not among them. -/
theorem unreachable_is_exact (h : load registry flow = .ok graph) :
    graph.unreachable.Pairwise (· < ·) ∧
      (∀ id, id ∈ graph.unreachable ↔
        id ∈ flow.ids ∧ ¬Relation.ReflTransGen (flow.Link registry) graph.start id) ∧
      (∃ node ∈ flow.nodes, node.typeKey = "start" ∧ node.id = graph.start) ∧
      graph.start ∉ graph.unreachable := by
  have hids := ids_of_load h
  have hlisted : ∀ id, id ∈ graph.unreachable ↔
      id ∈ flow.ids ∧ ¬Relation.ReflTransGen (flow.Link registry) graph.start id := by
    intro id
    rw [unreachable, List.mem_mergeSort, List.mem_filter, hids, ← mem_reachable_iff h]
    simp
  refine ⟨?_, hlisted, ?_, ?_⟩
  · apply ascending_unreachable
    rw [hids]
    exact (exists_load_eq_ok.mp ⟨graph, h⟩).distinct
  · exact exists_node_of_findStart (checks_of_load h).1
  · intro hstart
    exact ((hlisted graph.start).mp hstart).2 .refl

/-- A flow with a cycle, a node that leads to itself and parallel edges.  Paths lead along the edges
that leave a branching node, too, and not against any edge. -/
theorem unreachable_is_exact_sample :
    let menu (id : NodeId) (fallback : List (String × Value)) : Flow.Node :=
      ⟨id, "MENU", none, fallback⟩
    let flow : Flow :=
      { id := "survey"
        nodes := [menu "lost" [], menu "ask" [("fallback", .string "ask")],
          ⟨"begin", "START", none, []⟩, menu "alone" [],
          ⟨"route", "CONDITION", none, [("else", .string "ask")]⟩, menu "end" []]
        edges := [⟨"e1", "lost", "end", none⟩, ⟨"e2", "route", "end", none⟩,
          ⟨"e3", "begin", "route", none⟩, ⟨"e4", "route", "end", none⟩,
          ⟨"e5", "end", "begin", none⟩] }
    ∃ graph, load .standard flow = .ok graph ∧ graph.unreachable = ["alone", "lost"] ∧
      (∀ id, id ∈ ["alone", "lost"] ↔
        id ∈ flow.ids ∧ ¬Relation.ReflTransGen (flow.Link .standard) graph.start id) := by
  intro menu flow
  have hfound : (load .standard flow).map (fun graph =>
      (graph.nodes.map Node.id).filter (!graph.reachable.contains ·)) = .ok ["lost", "alone"] := by
    decide +kernel
  cases hload : load .standard flow with
  | error e =>
      rw [hload] at hfound
      cases hfound
  | ok graph =>
      rw [hload] at hfound
      have hnodes : graph.unreachable = ["alone", "lost"] := by
        have hunsorted : (graph.nodes.map Node.id).filter (!graph.reachable.contains ·) =
            ["lost", "alone"] := Except.ok.inj hfound
        have hswapped : ¬("lost" ≤ "alone") := by decide
        rw [unreachable, hunsorted, List.mergeSort]
        simp [hswapped]
      refine ⟨graph, rfl, hnodes, ?_⟩
      rw [← hnodes]
      exact (unreachable_is_exact hload).2.1

end Graph

end Dialogue
