import Dialogue.Proofs.Delay.Loading

/-!
# What loading a flow makes sure of

A flow that has been loaded leads nowhere that is not there: its start, the ends
of its edges and the targets of its nodes are all nodes of it.  A node of type
`condition` has no structural successor, and no node of a standard type acts out
a script.
-/

namespace Dialogue

/-- Only nodes of one type branch on rules. -/
theorem Registry.build_condition {node : Flow.Node} {rules : List Condition.Rule}
    {otherwise : Option NodeId}
    (h : Registry.standard.build node = .ok (.condition rules otherwise)) :
    node.typeKey = "condition" := by
  rw [standard_build] at h
  split_ifs at h with hsubflow hassign hcondition hdelay hmenu hcontent hstart
  · obtain ⟨config, -, hbuilt⟩ := bind_eq_ok.mp h
    cases hbuilt
  · obtain ⟨config, -, hbuilt⟩ := bind_eq_ok.mp h
    cases hbuilt
  · exact hcondition
  · obtain ⟨config, -, hbuilt⟩ := bind_eq_ok.mp h
    cases hbuilt
  · obtain ⟨config, -, hbuilt⟩ := bind_eq_ok.mp h
    cases hbuilt
  · obtain ⟨config, -, hbuilt⟩ := bind_eq_ok.mp h
    dsimp only at hbuilt
    split at hbuilt <;> cases hbuilt
  · cases h
  · cases h

namespace Graph

/-- What a loaded flow of standard nodes is like. -/
structure Sound (graph : Graph) : Prop where
  start : graph.contains graph.start = true
  links : ∀ node ∈ graph.nodes, ∀ next ∈ node.links, graph.contains next = true
  successor : ∀ node ∈ graph.nodes, ∀ next, node.successor = some next → next ∈ node.links
  targets : ∀ node ∈ graph.nodes, ∀ next ∈ node.behaviour.targets, next ∈ node.links
  branching : ∀ node ∈ graph.nodes, ∀ rules otherwise,
    node.behaviour = .condition rules otherwise → node.successor = none
  standard : graph.Standard

theorem contains_iff {graph : Graph} {id : NodeId} :
    graph.contains id = true ↔ id ∈ graph.nodes.map Node.id := by
  simp [contains, find?, List.find?_isSome]

theorem mem_ids_of_checkEdges {ids : List NodeId} {edges : List Flow.Edge}
    (h : checkEdges ids edges = .ok ()) : ∀ edge ∈ edges, edge.target ∈ ids := by
  induction edges with
  | nil => simp
  | cons edge rest ih =>
      unfold checkEdges at h
      split_ifs at h with hsource htarget
      exact List.forall_mem_cons.mpr ⟨by simpa using htarget, ih h⟩

/-- The start of a flow is a node of that type. -/
theorem exists_node_of_findStart {flow : Flow} {start : NodeId} (h : findStart flow = .ok start) :
    ∃ node ∈ flow.nodes, node.typeKey = "start" ∧ node.id = start := by
  unfold findStart at h
  split at h
  · next only honly =>
    obtain rfl := Except.ok.inj h
    have hmem : only ∈ flow.nodes.filter (·.typeKey == "start") := by rw [honly]; exact .head _
    obtain ⟨hwritten, htype⟩ := List.mem_filter.mp hmem
    exact ⟨only, hwritten, by simpa using htype, rfl⟩
  · cases h
  · cases h

theorem mem_ids_of_findStart {flow : Flow} {start : NodeId} (h : findStart flow = .ok start) :
    start ∈ flow.nodes.map Flow.Node.id := by
  obtain ⟨node, hnode, -, rfl⟩ := exists_node_of_findStart h
  exact List.mem_map_of_mem hnode

/-- What a node as written is loaded to. -/
structure Node.LoadedFrom (flow : Flow) (written : Flow.Node) (node : Node) : Prop where
  id : node.id = written.id
  links : node.links = (flow.edges.filter (·.source == written.id)).map Flow.Edge.target ++
    node.behaviour.targets
  successor : ∀ next, node.successor = some next → next ∈ node.links
  targets : ∀ next ∈ node.behaviour.targets, next ∈ flow.nodes.map Flow.Node.id
  branching : ∀ rules otherwise, node.behaviour = .condition rules otherwise →
    node.successor = none
  standard : node.behaviour.isScripted = false

theorem loadNode_sound {flow : Flow} {written : Flow.Node} {node : Node}
    (h : loadNode .standard flow written = .ok node) : node.LoadedFrom flow written := by
  unfold loadNode at h
  dsimp only at h
  split at h
  · cases h
  · obtain ⟨behaviour, hbuilt, hrest⟩ := bind_eq_ok.mp h
    split at hrest
    · cases hrest
    · next hfound =>
      obtain rfl := Except.ok.inj hrest
      refine
        { id := rfl, links := rfl, successor := ?_, targets := ?_, branching := ?_
          standard := (Registry.build_undelayed hbuilt).2 }
      · intro next hnext
        dsimp only at hnext
        split at hnext
        · cases hnext
        · exact List.mem_append_left _ (List.mem_of_head? hnext)
      · intro next hnext
        simpa using List.find?_eq_none.mp hfound next hnext
      · rintro rules otherwise rfl
        simp [branches, Registry.build_condition hbuilt]

theorem loadNodes_sound {flow : Flow} {written : List Flow.Node} {nodes : List Node}
    (h : written.mapM (loadNode .standard flow) = .ok nodes) :
    nodes.map Node.id = written.map Flow.Node.id ∧
      ∀ node ∈ nodes, ∃ source, node.LoadedFrom flow source := by
  induction written generalizing nodes with
  | nil =>
      cases h
      exact ⟨rfl, by simp⟩
  | cons first rest ih =>
      rw [List.mapM_cons] at h
      obtain ⟨node, hfirst, hrest⟩ := bind_eq_ok.mp h
      obtain ⟨others, hothers, hresult⟩ := bind_eq_ok.mp hrest
      cases hresult
      have hnode := loadNode_sound hfirst
      obtain ⟨hids, hnodes⟩ := ih hothers
      constructor
      · rw [List.map_cons, List.map_cons, hnode.id, hids]
      · exact List.forall_mem_cons.mpr ⟨⟨first, hnode⟩, hnodes⟩

/-- A flow of standard nodes that loads is sound. -/
theorem load_sound {flow : Flow} {graph : Graph} (h : load .standard flow = .ok graph) :
    graph.Sound := by
  unfold load at h
  dsimp only at h
  split at h
  · cases h
  · obtain ⟨start, hstart, hrest⟩ := bind_eq_ok.mp h
    obtain ⟨⟨⟩, hedges, hrest⟩ := bind_eq_ok.mp hrest
    obtain ⟨nodes, hnodes, hresult⟩ := bind_eq_ok.mp hrest
    cases hresult
    obtain ⟨hids, hsources⟩ := loadNodes_sound hnodes
    have hcontains {next : NodeId} (hnext : next ∈ flow.nodes.map Flow.Node.id) :
        (⟨flow.id, flow.name, start, nodes⟩ : Graph).contains next = true :=
      contains_iff.mpr (hids ▸ hnext)
    refine
      { start := hcontains (mem_ids_of_findStart hstart)
        links := ?_
        successor := fun node hnode => (hsources node hnode).elim fun _ h => h.successor
        targets := ?_
        branching := fun node hnode => (hsources node hnode).elim fun _ h => h.branching
        standard := fun node hnode => (hsources node hnode).elim fun _ h => h.standard }
    · intro node hnode next hnext
      obtain ⟨written, hwritten⟩ := hsources node hnode
      rw [hwritten.links] at hnext
      apply hcontains
      rcases List.mem_append.mp hnext with hedge | htarget
      · obtain ⟨edge, hmem, rfl⟩ := List.mem_map.mp hedge
        exact mem_ids_of_checkEdges hedges edge (List.mem_of_mem_filter hmem)
      · exact hwritten.targets next htarget
    · intro node hnode next hnext
      obtain ⟨written, hwritten⟩ := hsources node hnode
      rw [hwritten.links]
      exact List.mem_append_right _ hnext

end Graph

end Dialogue
