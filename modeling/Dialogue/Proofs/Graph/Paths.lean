import Mathlib.Data.List.Chain
import Dialogue.Proofs.Graph.Loading

/-!
# Paths in a flow

Where a run may go in a flow: from its start, along structural successors and
the targets of nodes.  The search for reachable nodes ends because every round
finds a node or nothing; where it ends, it has found everything that links lead
to.  So no path from the start of a sound flow comes to a node that is listed as
unreachable.
-/

namespace Dialogue.Graph

/-- A run may go from one node to another one. -/
structure Leads (graph : Graph) (here next : NodeId) : Prop where
  edge : ∃ node, graph.find? here = some node ∧
    (node.successor = some next ∨ next ∈ node.behaviour.targets)
  /-- Where rules choose, one of them or the rest has to lead there. -/
  rule : ∀ rules otherwise, graph.behaviour? here = some (.condition rules otherwise) →
    next ∈ rules.map Condition.Rule.next ∨ otherwise = some next

/-- The nodes that a run may visit one after the other, beginning at one of them. -/
structure Tour (graph : Graph) (start : NodeId) (nodes : List NodeId) : Prop where
  first : nodes.head? = some start
  steps : nodes.IsChain graph.Leads
  inside : ∀ node ∈ nodes, graph.contains node = true
  reachable : start = graph.start → ∀ node ∈ nodes, node ∉ graph.unreachable

variable {graph : Graph}

theorem mem_of_find? {id : NodeId} {node : Node} (h : graph.find? id = some node) :
    node ∈ graph.nodes := List.mem_of_find?_eq_some h

/-! ## Reachable nodes -/

/-- The nodes of a flow that have not been found yet. -/
def unfound (graph : Graph) (found : List NodeId) : List NodeId :=
  (graph.nodes.map Node.id).filter (!found.contains ·)

theorem mem_explore_of_mem {id : NodeId} (rounds : Nat) (frontier found : List NodeId)
    (h : id ∈ found) : id ∈ graph.explore rounds frontier found := by
  fun_induction explore with
  | case1 => exact h
  | case2 => exact h
  | case3 rounds frontier found hfrontier fresh ih => exact ih (List.mem_append_left _ h)

/-- Finding a node of the flow leaves fewer of them. -/
theorem length_unfound_lt {found fresh : List NodeId} {id : NodeId} (hfresh : id ∈ fresh)
    (hid : graph.contains id = true) (hnew : id ∉ found) :
    (graph.unfound (found ++ fresh)).length < (graph.unfound found).length := by
  have hsplit : graph.unfound (found ++ fresh) =
      (graph.unfound found).filter (!fresh.contains ·) := by
    unfold unfound
    rw [List.filter_filter]
    congr 1
    funext other
    simp [Bool.and_comm]
  rw [hsplit, List.length_filter_lt_length_iff_exists]
  refine ⟨id, List.mem_filter.mpr ⟨contains_iff.mp hid, ?_⟩, ?_⟩
  · simpa using hnew
  · simpa using hfresh

/-- With a round for every node that is not found yet, a search ends with all that links lead to
from there. -/
theorem explore_closed (hlinks : ∀ node ∈ graph.nodes, ∀ next ∈ node.links,
      graph.contains next = true) (rounds : Nat) (frontier found : List NodeId)
    (hrounds : (graph.unfound found).length ≤ rounds)
    (hlooked : ∀ id ∈ found, id ∉ frontier → ∀ next ∈ graph.linked id, next ∈ found) :
    ∀ id ∈ graph.explore rounds frontier found, ∀ next ∈ graph.linked id,
      next ∈ graph.explore rounds frontier found := by
  have hlinked {id next : NodeId} (h : next ∈ graph.linked id) : graph.contains next = true := by
    unfold linked at h
    cases hnode : graph.find? id with
    | none => simp [hnode] at h
    | some node =>
        simp only [hnode, Option.map_some, Option.getD_some] at h
        exact hlinks node (mem_of_find? hnode) next h
  fun_induction explore with
  | case1 =>
      intro id hid next hnext
      have hnone : graph.unfound _ = [] := List.eq_nil_of_length_eq_zero (Nat.le_zero.mp hrounds)
      simpa using List.filter_eq_nil_iff.mp hnone next (contains_iff.mp (hlinked hnext))
  | case2 => exact fun id hid => hlooked id hid (by simp)
  | case3 rounds frontier found hfrontier fresh ih =>
      have hnew : ∀ id, id ∈ fresh ↔ (∃ here ∈ frontier, id ∈ graph.linked here) ∧ id ∉ found := by
        simp [fresh]
      have hlooked' : ∀ id ∈ found ++ fresh, id ∉ fresh → ∀ next ∈ graph.linked id,
          next ∈ found ++ fresh := by
        intro id hid hold next hnext
        have hfound : id ∈ found := (List.mem_append.mp hid).resolve_right hold
        by_cases hnext' : next ∈ found
        · exact List.mem_append_left _ hnext'
        · refine List.mem_append_right _ ((hnew next).mpr ⟨⟨id, ?_, hnext⟩, hnext'⟩)
          by_contra hlater
          exact hnext' (hlooked id hfound hlater next hnext)
      by_cases hfresh : fresh = []
      · -- Nothing new: the search stops with what it has.
        have hstop : graph.explore rounds fresh (found ++ fresh) = found ++ fresh := by
          rw [hfresh]
          cases rounds <;> rfl
        rw [hstop]
        exact fun id hid => hlooked' id hid (by simp [hfresh])
      · refine ih ?_ hlooked'
        obtain ⟨id, hid⟩ := List.exists_mem_of_ne_nil fresh hfresh
        obtain ⟨⟨here, -, hhere⟩, hold⟩ := (hnew id).mp hid
        have := length_unfound_lt hid (hlinked hhere) hold
        omega

/-- What a reachable node is linked to is reachable. -/
theorem reachable_linked (hlinks : ∀ node ∈ graph.nodes, ∀ next ∈ node.links,
      graph.contains next = true) {here next : NodeId} (hhere : here ∈ graph.reachable)
    (hnext : next ∈ graph.linked here) : next ∈ graph.reachable := by
  refine explore_closed hlinks graph.size [graph.start] [graph.start] ?_ ?_ here hhere next hnext
  · unfold unfound
    exact Nat.le_trans (List.length_filter_le _ _) (by simp [size])
  · exact fun id hid hother => absurd hid hother

/-- What a reachable node leads to is reachable. -/
theorem Sound.reachable_step (hsound : graph.Sound) {here next : NodeId}
    (hhere : here ∈ graph.reachable) (hnext : graph.Leads here next) :
    next ∈ graph.reachable := by
  obtain ⟨node, hnode, hedge⟩ := hnext.edge
  have hlink : next ∈ node.links := by
    rcases hedge with hsuccessor | htarget
    · exact hsound.successor node (mem_of_find? hnode) next hsuccessor
    · exact hsound.targets node (mem_of_find? hnode) next htarget
  exact reachable_linked hsound.links hhere (by simpa [linked, hnode] using hlink)

theorem start_mem_reachable : graph.start ∈ graph.reachable :=
  mem_explore_of_mem _ _ _ (.head _)

/-- The nodes of a flow are reachable or listed as unreachable. -/
theorem not_mem_unreachable_iff {id : NodeId} (h : graph.contains id = true) :
    id ∉ graph.unreachable ↔ id ∈ graph.reachable := by
  have hid := contains_iff.mp h
  rw [unreachable, List.mem_mergeSort, List.mem_filter]
  simp [hid]

/-! ## Tours -/

/-- A node with an outcome that its configuration allows leads where the outcome says. -/
theorem Sound.leads (hsound : graph.Sound) {here next : NodeId} {node : Node}
    (hnode : graph.find? here = some node)
    (hedge : node.successor = some next ∨ next ∈ node.behaviour.targets) :
    graph.Leads here next where
  edge := ⟨node, hnode, hedge⟩
  rule := by
    intro rules otherwise hbehaviour
    have hcondition : node.behaviour = .condition rules otherwise := by
      simpa [behaviour?, hnode] using hbehaviour
    rw [hsound.branching node (mem_of_find? hnode) rules otherwise hcondition, hcondition] at hedge
    rcases hedge with hsuccessor | htarget
    · cases hsuccessor
    · simpa [Behaviour.targets] using htarget

/-- Where a node leads to is in the flow. -/
theorem Sound.contains_of_leads (hsound : graph.Sound) {here next : NodeId}
    (h : graph.Leads here next) : graph.contains next = true := by
  obtain ⟨node, hnode, hedge⟩ := h.edge
  have hmem := mem_of_find? hnode
  rcases hedge with hsuccessor | htarget
  · exact hsound.links node hmem next (hsound.successor node hmem next hsuccessor)
  · exact hsound.links node hmem next (hsound.targets node hmem next htarget)

theorem tour_start {start : NodeId} (h : graph.contains start = true) :
    graph.Tour start [start] where
  first := rfl
  steps := .singleton start
  inside := by simpa using h
  reachable := by
    rintro rfl node hnode
    obtain rfl := List.mem_singleton.mp hnode
    exact (not_mem_unreachable_iff h).mpr start_mem_reachable

/-- A tour goes on to where its last node leads. -/
theorem Tour.go {start here next : NodeId} {nodes : List NodeId} (htour : graph.Tour start nodes)
    (hsound : graph.Sound) (hlast : nodes.getLast? = some here)
    (hleads : graph.Leads here next) : graph.Tour start (nodes ++ [next]) where
  first := by rw [List.head?_append, htour.first]; rfl
  steps := by
    refine htour.steps.append (.singleton next) ?_
    intro last hlast' first hfirst
    obtain rfl := Option.some.inj (hlast.symm.trans hlast')
    obtain rfl := Option.some.inj hfirst
    exact hleads
  inside := by
    intro node hnode
    rcases List.mem_append.mp hnode with hnode | hnode
    · exact htour.inside node hnode
    · obtain rfl := List.mem_singleton.mp hnode
      exact hsound.contains_of_leads hleads
  reachable := by
    intro hstart node hnode
    rcases List.mem_append.mp hnode with hnode | hnode
    · exact htour.reachable hstart node hnode
    · obtain rfl := List.mem_singleton.mp hnode
      have hhere : here ∈ nodes := List.mem_of_getLast? hlast
      have hfound := (not_mem_unreachable_iff (htour.inside here hhere)).mp
        (htour.reachable hstart here hhere)
      exact (not_mem_unreachable_iff (hsound.contains_of_leads hleads)).mpr
        (hsound.reachable_step hfound hleads)

end Dialogue.Graph
