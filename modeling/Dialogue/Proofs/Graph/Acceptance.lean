import Dialogue.Proofs.Graph.Loading

/-!
# Which flows load

A flow loads if and only if it is well formed, and what is loaded has its nodes
and leads where its edges lead.  A flow that is not well formed is refused for the
first thing that is wrong with it.  `WellFormed` and `FirstFault` say what that
means without any mention of loading; each check has one lemma for what it
accepts and one for what it refuses.
-/

namespace Dialogue

/-! ## Results in a row -/

/-- Two steps fail where the first one does, or else where the second one does. -/
theorem bind_eq_error {ε α β : Type} {first : Except ε α} {second : α → Except ε β} {e : ε} :
    (first >>= second) = .error e ↔
      first = .error e ∨ ∃ a, first = .ok a ∧ second a = .error e := by
  constructor
  · intro h
    cases first with
    | error other =>
        cases h
        exact .inl rfl
    | ok a => exact .inr ⟨a, rfl, h⟩
  · rintro (rfl | ⟨a, rfl, h⟩)
    · rfl
    · exact h

section Traversal

variable {ε α β : Type} {f : α → Except ε β} {xs : List α}

/-- The first entry of its kind is the head of a list, or the head is of another kind and it is
found behind it. -/
theorem exists_split_cons {Earlier Found : α → Prop} {first : α} :
    (∃ before x after, first :: xs = before ++ x :: after ∧
        (∀ earlier ∈ before, Earlier earlier) ∧ Found x) ↔
      Found first ∨ Earlier first ∧ ∃ before x after, xs = before ++ x :: after ∧
        (∀ earlier ∈ before, Earlier earlier) ∧ Found x := by
  constructor
  · rintro ⟨before, x, after, hsplit, hbefore, hx⟩
    cases before with
    | nil =>
        obtain ⟨rfl, rfl⟩ := List.cons.inj hsplit
        exact .inl hx
    | cons other before =>
        obtain ⟨rfl, rfl⟩ := List.cons.inj hsplit
        obtain ⟨hfirst, hbefore⟩ := List.forall_mem_cons.mp hbefore
        exact .inr ⟨hfirst, before, x, after, rfl, hbefore, hx⟩
  · rintro (hfirst | ⟨hfirst, before, x, after, rfl, hbefore, hx⟩)
    · exact ⟨[], first, xs, rfl, by simp, hfirst⟩
    · exact ⟨first :: before, x, after, rfl, List.forall_mem_cons.mpr ⟨hfirst, hbefore⟩, hx⟩

/-- A list is gone through if every entry succeeds. -/
theorem mapM_eq_ok {ys : List β} :
    xs.mapM f = .ok ys ↔ List.Forall₂ (fun x y => f x = .ok y) xs ys := by
  induction xs generalizing ys with
  | nil =>
      constructor
      · intro h
        cases h
        exact .nil
      · intro h
        cases h
        rfl
  | cons x rest ih =>
      rw [List.mapM_cons, bind_eq_ok]
      constructor
      · rintro ⟨y, hx, hrest⟩
        obtain ⟨others, hothers, hresult⟩ := bind_eq_ok.mp hrest
        cases hresult
        exact .cons hx (ih.mp hothers)
      · intro h
        cases h with
        | cons hx hrest => exact ⟨_, hx, bind_eq_ok.mpr ⟨_, ih.mpr hrest, rfl⟩⟩

theorem exists_mapM_eq_ok : (∃ ys, xs.mapM f = .ok ys) ↔ ∀ x ∈ xs, ∃ y, f x = .ok y := by
  induction xs with
  | nil => exact ⟨fun _ => by simp, fun _ => ⟨[], rfl⟩⟩
  | cons x rest ih =>
      rw [List.forall_mem_cons, ← ih, List.mapM_cons]
      constructor
      · rintro ⟨ys, h⟩
        obtain ⟨y, hx, hrest⟩ := bind_eq_ok.mp h
        obtain ⟨others, hothers, -⟩ := bind_eq_ok.mp hrest
        exact ⟨⟨y, hx⟩, others, hothers⟩
      · rintro ⟨⟨y, hx⟩, others, hothers⟩
        exact ⟨_, bind_eq_ok.mpr ⟨y, hx, bind_eq_ok.mpr ⟨others, hothers, rfl⟩⟩⟩

/-- A list is gone through up to the first entry that fails. -/
theorem mapM_eq_error {e : ε} :
    xs.mapM f = .error e ↔ ∃ before x after, xs = before ++ x :: after ∧
      (∀ earlier ∈ before, ∃ y, f earlier = .ok y) ∧ f x = .error e := by
  induction xs with
  | nil =>
      constructor
      · intro h
        cases h
      · rintro ⟨before, x, after, h, -⟩
        simp at h
  | cons first rest ih =>
      rw [exists_split_cons, ← ih, List.mapM_cons, bind_eq_error]
      constructor
      · rintro (hfirst | ⟨y, hfirst, hrest⟩)
        · exact .inl hfirst
        · rcases bind_eq_error.mp hrest with hrest | ⟨_, _, hresult⟩
          · exact .inr ⟨⟨y, hfirst⟩, hrest⟩
          · cases hresult
      · rintro (hfirst | ⟨⟨y, hfirst⟩, hrest⟩)
        · exact .inl hfirst
        · exact .inr ⟨y, hfirst, bind_eq_error.mpr (.inl hrest)⟩

end Traversal

/-! ## Well-formed flows -/

namespace Flow

/-- The identifiers of the nodes, in the order of the definition. -/
def ids (flow : Flow) : List NodeId := flow.nodes.map Node.id

/-- The number of nodes of type `start`. -/
def starts (flow : Flow) : Nat := flow.nodes.countP (·.typeKey == "start")

/-- The edges that leave a node, parallel ones included. -/
def outgoing (flow : Flow) (node : Node) : List Edge := flow.edges.filter (·.source == node.id)

/-- Both ends of an edge are nodes. -/
def Joins (flow : Flow) (edge : Edge) : Prop := edge.source ∈ flow.ids ∧ edge.target ∈ flow.ids

/-- At most one edge leaves a node, unless it branches on rules. -/
def Single (flow : Flow) (node : Node) : Prop :=
  node.typeKey ≠ "condition" → (flow.outgoing node).length ≤ 1

/-- A node that can be loaded.  A node of a type that is not registered has no configuration to be
refused. -/
structure Accepts (registry : Registry) (flow : Flow) (node : Node) : Prop where
  single : flow.Single node
  config : ∀ nodeType, registry.types.get? node.typeKey = some nodeType →
    ∃ behaviour, nodeType.build node = .ok behaviour
  targets : ∀ behaviour, registry.build node = .ok behaviour →
    ∀ target ∈ behaviour.targets, target ∈ flow.ids

/-- A flow with nothing wrong with it. -/
structure WellFormed (registry : Registry) (flow : Flow) : Prop where
  distinct : flow.ids.Nodup
  start : flow.starts = 1
  edges : ∀ edge ∈ flow.edges, flow.Joins edge
  nodes : ∀ node ∈ flow.nodes, flow.Accepts registry node

/-- The first thing that is wrong with an edge: its source, or else its target. -/
inductive EdgeFault (flow : Flow) (edge : Edge) : DefinitionError → Prop
  | source (unknown : edge.source ∉ flow.ids) :
      EdgeFault flow edge (.danglingEdge edge.id edge.source)
  | target (known : edge.source ∈ flow.ids) (unknown : edge.target ∉ flow.ids) :
      EdgeFault flow edge (.danglingEdge edge.id edge.target)

/-- The first thing that is wrong with a node: the edges that leave it, then its configuration,
then its targets in order. -/
inductive NodeFault (registry : Registry) (flow : Flow) (node : Node) : DefinitionError → Prop
  | edges (unbranched : node.typeKey ≠ "condition") (several : 1 < (flow.outgoing node).length) :
      NodeFault registry flow node (.severalSuccessors node.id (flow.outgoing node).length)
  | config {nodeType e} (single : flow.Single node)
      (registered : registry.types.get? node.typeKey = some nodeType)
      (refused : nodeType.build node = .error e) : NodeFault registry flow node e
  | target {behaviour before target after} (single : flow.Single node)
      (built : registry.build node = .ok behaviour)
      (targets : behaviour.targets = before ++ target :: after)
      (known : ∀ earlier ∈ before, earlier ∈ flow.ids) (unknown : target ∉ flow.ids) :
      NodeFault registry flow node (.unknownTarget node.id target)

/-- The first thing that is wrong with a flow: its identifiers, its start node, then one edge after
the other, then one node after the other. -/
inductive FirstFault (registry : Registry) (flow : Flow) : DefinitionError → Prop
  | duplicate {before id after} (split : flow.ids = before ++ id :: after)
      (distinct : before.Nodup) (again : id ∈ before) :
      FirstFault registry flow (.duplicateNode id)
  | noStart (distinct : flow.ids.Nodup) (none : flow.starts = 0) :
      FirstFault registry flow (.missingStart flow.id)
  | manyStarts (distinct : flow.ids.Nodup) (several : 1 < flow.starts) :
      FirstFault registry flow (.severalStarts flow.id flow.starts)
  | edge {before edge after e} (distinct : flow.ids.Nodup) (start : flow.starts = 1)
      (split : flow.edges = before ++ edge :: after)
      (earlier : ∀ other ∈ before, flow.Joins other) (fault : flow.EdgeFault edge e) :
      FirstFault registry flow e
  | node {before node after e} (distinct : flow.ids.Nodup) (start : flow.starts = 1)
      (edges : ∀ edge ∈ flow.edges, flow.Joins edge)
      (split : flow.nodes = before ++ node :: after)
      (earlier : ∀ other ∈ before, flow.Accepts registry other)
      (fault : flow.NodeFault registry node e) : FirstFault registry flow e

end Flow

namespace Graph

/-- A loaded flow has the nodes of its definition.  Runs go on from a node to the target of the only
edge that leaves it, if there is one and the node does not branch. -/
structure Mirrors (flow : Flow) (graph : Graph) : Prop where
  contains : ∀ id, graph.contains id = true ↔ id ∈ flow.ids
  branching : ∀ node ∈ flow.nodes, node.typeKey = "condition" →
    graph.successor? node.id = none
  ending : ∀ node ∈ flow.nodes, flow.outgoing node = [] → graph.successor? node.id = none
  leading : ∀ node ∈ flow.nodes, node.typeKey ≠ "condition" →
    ∀ edge, flow.outgoing node = [edge] → graph.successor? node.id = some edge.target
  outside : ∀ id, id ∉ flow.ids → graph.successor? id = none

/-! ## One check after the other -/

theorem firstRepeated?_eq_none {before ids : List NodeId} :
    firstRepeated? before ids = none ↔ ids.Nodup ∧ ∀ id ∈ ids, id ∉ before := by
  induction ids generalizing before with
  | nil => simp [firstRepeated?]
  | cons id rest ih =>
      unfold firstRepeated?
      by_cases hid : id ∈ before
      · simp [hid]
      · rw [if_neg (by simpa using hid), ih, List.nodup_cons, List.forall_mem_cons]
        constructor
        · rintro ⟨hdistinct, hrest⟩
          have hnew : id ∉ rest := fun hmem => hrest id hmem (.head _)
          refine ⟨⟨hnew, hdistinct⟩, hid, fun other hother hmem => ?_⟩
          exact hrest other hother (.tail _ hmem)
        · rintro ⟨⟨hnew, hdistinct⟩, -, hrest⟩
          refine ⟨hdistinct, fun other hother hmem => ?_⟩
          rcases List.mem_cons.mp hmem with rfl | hmem
          · exact hnew hother
          · exact hrest other hother hmem

theorem firstRepeated?_eq_some {before ids : List NodeId} {id : NodeId} :
    firstRepeated? before ids = some id ↔ ∃ earlier later, ids = earlier ++ id :: later ∧
      earlier.Nodup ∧ (∀ other ∈ earlier, other ∉ before) ∧ (id ∈ before ∨ id ∈ earlier) := by
  induction ids generalizing before with
  | nil => simp [firstRepeated?]
  | cons first rest ih =>
      unfold firstRepeated?
      by_cases hfirst : first ∈ before
      · rw [if_pos (by simpa using hfirst)]
        constructor
        · intro h
          obtain rfl := Option.some.inj h
          exact ⟨[], rest, rfl, .nil, by simp, .inl hfirst⟩
        · rintro ⟨earlier, later, hsplit, -, hnew, -⟩
          cases earlier with
          | nil => rw [(List.cons.inj hsplit).1]
          | cons other earlier =>
              obtain ⟨rfl, -⟩ := List.cons.inj hsplit
              exact absurd hfirst (hnew _ (.head _))
      · rw [if_neg (by simpa using hfirst), ih]
        constructor
        · rintro ⟨earlier, later, rfl, hdistinct, hnew, hagain⟩
          have hother : first ∉ earlier := fun hmem => hnew first hmem (.head _)
          refine ⟨first :: earlier, later, rfl, List.nodup_cons.mpr ⟨hother, hdistinct⟩, ?_, ?_⟩
          · refine List.forall_mem_cons.mpr ⟨hfirst, fun other hmem hbefore => ?_⟩
            exact hnew other hmem (.tail _ hbefore)
          · rcases hagain with hmem | hmem
            · rcases List.mem_cons.mp hmem with rfl | hmem
              · exact .inr (.head _)
              · exact .inl hmem
            · exact .inr (.tail _ hmem)
        · rintro ⟨earlier, later, hsplit, hdistinct, hnew, hagain⟩
          cases earlier with
          | nil =>
              obtain ⟨rfl, rfl⟩ := List.cons.inj hsplit
              rcases hagain with hmem | hmem
              · exact absurd hmem hfirst
              · simp at hmem
          | cons other earlier =>
              obtain ⟨rfl, rfl⟩ := List.cons.inj hsplit
              obtain ⟨hother, hdistinct⟩ := List.nodup_cons.mp hdistinct
              obtain ⟨-, hnew⟩ := List.forall_mem_cons.mp hnew
              refine ⟨earlier, later, rfl, hdistinct, fun id' hmem hbefore => ?_, ?_⟩
              · rcases List.mem_cons.mp hbefore with rfl | hbefore
                · exact hother hmem
                · exact hnew id' hmem hbefore
              · rcases hagain with hmem | hmem
                · exact .inl (.tail _ hmem)
                · rcases List.mem_cons.mp hmem with rfl | hmem
                  · exact .inl (.head _)
                  · exact .inr hmem

theorem exists_findStart_eq_ok {flow : Flow} :
    (∃ start, findStart flow = .ok start) ↔ flow.starts = 1 := by
  unfold findStart Flow.starts
  rw [List.countP_eq_length_filter]
  generalize flow.nodes.filter (·.typeKey == "start") = found
  match found with
  | [] => simp
  | [only] => simp
  | first :: second :: rest => simp

theorem findStart_eq_error {flow : Flow} {e : DefinitionError} :
    findStart flow = .error e ↔ (flow.starts = 0 ∧ e = .missingStart flow.id) ∨
      (1 < flow.starts ∧ e = .severalStarts flow.id flow.starts) := by
  unfold findStart Flow.starts
  rw [List.countP_eq_length_filter]
  generalize flow.nodes.filter (·.typeKey == "start") = found
  match found with
  | [] => simp [eq_comm]
  | [only] => simp
  | first :: second :: rest => simp [eq_comm]

section Edges

variable {flow : Flow} {edges : List Flow.Edge}

theorem checkEdges_eq_ok :
    checkEdges flow.ids edges = .ok () ↔ ∀ edge ∈ edges, flow.Joins edge := by
  induction edges with
  | nil => simp [checkEdges]
  | cons edge rest ih =>
      rw [List.forall_mem_cons, ← ih, checkEdges, Flow.Joins]
      by_cases hsource : edge.source ∈ flow.ids
      · by_cases htarget : edge.target ∈ flow.ids
        · simp [hsource, htarget]
        · simp [hsource, htarget]
      · simp [hsource]

theorem checkEdges_eq_error {e : DefinitionError} :
    checkEdges flow.ids edges = .error e ↔ ∃ before edge after, edges = before ++ edge :: after ∧
      (∀ earlier ∈ before, flow.Joins earlier) ∧ flow.EdgeFault edge e := by
  induction edges with
  | nil => simp [checkEdges]
  | cons edge rest ih =>
      rw [exists_split_cons, ← ih, checkEdges]
      by_cases hsource : edge.source ∈ flow.ids
      · by_cases htarget : edge.target ∈ flow.ids
        · rw [if_neg (by simpa using hsource), if_neg (by simpa using htarget)]
          constructor
          · exact fun h => .inr ⟨⟨hsource, htarget⟩, h⟩
          · rintro (hfault | ⟨-, h⟩)
            · cases hfault with
              | source unknown => exact absurd hsource unknown
              | target known unknown => exact absurd htarget unknown
            · exact h
        · rw [if_neg (by simpa using hsource), if_pos (by simpa using htarget)]
          constructor
          · intro h
            cases h
            exact .inl (.target hsource htarget)
          · rintro (hfault | ⟨hjoins, -⟩)
            · cases hfault with
              | source unknown => exact absurd hsource unknown
              | target known unknown => rfl
            · exact absurd hjoins.2 htarget
      · rw [if_pos (by simpa using hsource)]
        constructor
        · intro h
          cases h
          exact .inl (.source hsource)
        · rintro (hfault | ⟨hjoins, -⟩)
          · cases hfault with
            | source unknown => rfl
            | target known unknown => exact absurd known hsource
          · exact absurd hjoins.1 hsource

end Edges

section Nodes

variable {registry : Registry} {flow : Flow} {written : Flow.Node}

/-- A node is built unless its type is registered and refuses its configuration. -/
theorem exists_build_eq_ok :
    (∃ behaviour, registry.build written = .ok behaviour) ↔
      ∀ nodeType, registry.types.get? written.typeKey = some nodeType →
        ∃ behaviour, nodeType.build written = .ok behaviour := by
  unfold Registry.build
  cases registry.types.get? written.typeKey with
  | none => simp
  | some nodeType => simp

theorem build_eq_error {e : DefinitionError} :
    registry.build written = .error e ↔
      ∃ nodeType, registry.types.get? written.typeKey = some nodeType ∧
        nodeType.build written = .error e := by
  unfold Registry.build
  cases registry.types.get? written.typeKey with
  | none => simp
  | some nodeType => simp

/-- Loading a node, in the words of its definition. -/
theorem loadNode_eq (registry : Registry) (flow : Flow) (written : Flow.Node) :
    loadNode registry flow written =
      if written.typeKey ≠ "condition" ∧ 1 < (flow.outgoing written).length then
        .error (.severalSuccessors written.id (flow.outgoing written).length)
      else registry.build written >>= fun behaviour =>
        match behaviour.targets.find? (!flow.ids.contains ·) with
        | some target => .error (.unknownTarget written.id target)
        | none => .ok ⟨written.id, behaviour,
            if written.typeKey = "condition" then none
              else ((flow.outgoing written).map Flow.Edge.target).head?,
            (flow.outgoing written).map Flow.Edge.target ++ behaviour.targets⟩ := by
  unfold loadNode branches
  simp only [List.length_map, Bool.and_eq_true, Bool.not_eq_true', beq_eq_false_iff_ne,
    decide_eq_true_eq, beq_iff_eq]
  rfl

theorem not_single_iff :
    ¬flow.Single written ↔ written.typeKey ≠ "condition" ∧ 1 < (flow.outgoing written).length := by
  rw [Flow.Single, Classical.not_imp, Nat.not_le]

theorem exists_loadNode_eq_ok :
    (∃ node, loadNode registry flow written = .ok node) ↔ flow.Accepts registry written := by
  rw [loadNode_eq]
  by_cases hsingle : flow.Single written
  · rw [if_neg (mt not_single_iff.mpr (not_not_intro hsingle))]
    constructor
    · rintro ⟨node, h⟩
      obtain ⟨behaviour, hbuilt, hrest⟩ := bind_eq_ok.mp h
      refine ⟨hsingle, exists_build_eq_ok.mp ⟨behaviour, hbuilt⟩, fun other hother => ?_⟩
      obtain rfl := Except.ok.inj (hbuilt.symm.trans hother)
      split at hrest
      · cases hrest
      · next hfound => simpa using hfound
    · intro haccepts
      obtain ⟨behaviour, hbuilt⟩ := exists_build_eq_ok.mpr haccepts.config
      have hfound : behaviour.targets.find? (!flow.ids.contains ·) = none := by
        simpa using haccepts.targets behaviour hbuilt
      simp only [hbuilt, bind, Except.bind, hfound]
      exact ⟨_, rfl⟩
  · rw [if_pos (not_single_iff.mp hsingle)]
    constructor
    · rintro ⟨node, h⟩
      cases h
    · exact fun haccepts => absurd haccepts.single hsingle

theorem loadNode_eq_error {e : DefinitionError} :
    loadNode registry flow written = .error e ↔ flow.NodeFault registry written e := by
  rw [loadNode_eq]
  by_cases hsingle : flow.Single written
  · rw [if_neg (mt not_single_iff.mpr (not_not_intro hsingle)), bind_eq_error]
    constructor
    · rintro (hrefused | ⟨behaviour, hbuilt, hrest⟩)
      · obtain ⟨nodeType, hregistered, hrefused⟩ := build_eq_error.mp hrefused
        exact .config hsingle hregistered hrefused
      · split at hrest
        · next target hfound =>
          cases hrest
          obtain ⟨hunknown, before, after, hsplit, hbefore⟩ :=
            List.find?_eq_some_iff_append.mp hfound
          refine .target hsingle hbuilt hsplit ?_ (by simpa using hunknown)
          simpa using hbefore
        · cases hrest
    · intro hfault
      cases hfault with
      | edges unbranched several => exact absurd hsingle (not_single_iff.mpr ⟨unbranched, several⟩)
      | config _ registered refused => exact .inl (build_eq_error.mpr ⟨_, registered, refused⟩)
      | @target behaviour before target after _ built targets known unknown =>
          have hfound : behaviour.targets.find? (!flow.ids.contains ·) = some target := by
            apply List.find?_eq_some_iff_append.mpr
            exact ⟨by simpa using unknown, before, after, targets, by simpa using known⟩
          refine .inr ⟨behaviour, built, ?_⟩
          rw [hfound]
  · have hedges := not_single_iff.mp hsingle
    rw [if_pos hedges]
    constructor
    · intro h
      cases h
      exact .edges hedges.1 hedges.2
    · intro hfault
      cases hfault with
      | edges => rfl
      | config single => exact absurd single hsingle
      | target single => exact absurd single hsingle

/-- What a node is loaded to: its behaviour, and links to the targets of the edges that leave it
and to those that its configuration names. -/
theorem loadNode_eq_ok {node : Node} (h : loadNode registry flow written = .ok node) :
    registry.build written = .ok node.behaviour ∧ node.id = written.id ∧
      node.successor = (if written.typeKey = "condition" then none
        else ((flow.outgoing written).map Flow.Edge.target).head?) ∧
      node.links = (flow.outgoing written).map Flow.Edge.target ++ node.behaviour.targets := by
  rw [loadNode_eq] at h
  split at h
  · cases h
  · obtain ⟨behaviour, hbuilt, hrest⟩ := bind_eq_ok.mp h
    split at hrest
    · cases hrest
    · obtain rfl := Except.ok.inj hrest
      refine ⟨hbuilt, rfl, ?_, ?_⟩
      · dsimp only
      · dsimp only

end Nodes

/-! ## Whole flows -/

section Flows

variable {registry : Registry} {flow : Flow}

/-- Loading a flow, in the words of its definition. -/
theorem load_eq (registry : Registry) (flow : Flow) :
    load registry flow =
      match firstRepeated? [] flow.ids with
      | some id => .error (.duplicateNode id)
      | none => findStart flow >>= fun start => checkEdges flow.ids flow.edges >>= fun _ =>
          flow.nodes.mapM (loadNode registry flow) >>= fun nodes =>
            .ok ⟨flow.id, flow.name, start, nodes⟩ := by
  unfold load
  rfl

theorem exists_load_eq_ok :
    (∃ graph, load registry flow = .ok graph) ↔ flow.WellFormed registry := by
  rw [load_eq]
  constructor
  · rintro ⟨graph, h⟩
    split at h
    · cases h
    · next hdistinct =>
      obtain ⟨start, hstart, hrest⟩ := bind_eq_ok.mp h
      obtain ⟨⟨⟩, hedges, hrest⟩ := bind_eq_ok.mp hrest
      obtain ⟨nodes, hnodes, -⟩ := bind_eq_ok.mp hrest
      refine ⟨(firstRepeated?_eq_none.mp hdistinct).1, exists_findStart_eq_ok.mp ⟨start, hstart⟩,
        checkEdges_eq_ok.mp hedges, fun node hnode => ?_⟩
      exact exists_loadNode_eq_ok.mp (exists_mapM_eq_ok.mp ⟨nodes, hnodes⟩ node hnode)
  · intro h
    have hdistinct := firstRepeated?_eq_none.mpr
      ⟨h.distinct, fun id _ => List.not_mem_nil (a := id)⟩
    obtain ⟨start, hstart⟩ := exists_findStart_eq_ok.mpr h.start
    have hedges := checkEdges_eq_ok.mpr h.edges
    obtain ⟨nodes, hnodes⟩ := exists_mapM_eq_ok.mpr fun node hnode =>
      exists_loadNode_eq_ok.mpr (h.nodes node hnode)
    rw [hdistinct]
    exact ⟨_, bind_eq_ok.mpr ⟨start, hstart, bind_eq_ok.mpr ⟨(), hedges,
      bind_eq_ok.mpr ⟨nodes, hnodes, rfl⟩⟩⟩⟩

theorem load_eq_error {e : DefinitionError} :
    load registry flow = .error e ↔ flow.FirstFault registry e := by
  rw [load_eq]
  constructor
  · intro h
    split at h
    · next id hrepeated =>
      cases h
      obtain ⟨before, after, hsplit, hdistinct, -, hagain⟩ := firstRepeated?_eq_some.mp hrepeated
      exact .duplicate hsplit hdistinct (by simpa using hagain)
    · next hunique =>
      have hdistinct := (firstRepeated?_eq_none.mp hunique).1
      rcases bind_eq_error.mp h with hstart | ⟨start, hstart, hrest⟩
      · rcases findStart_eq_error.mp hstart with ⟨hnone, rfl⟩ | ⟨hseveral, rfl⟩
        · exact .noStart hdistinct hnone
        · exact .manyStarts hdistinct hseveral
      have hone := exists_findStart_eq_ok.mp ⟨start, hstart⟩
      rcases bind_eq_error.mp hrest with hedges | ⟨⟨⟩, hedges, hrest⟩
      · obtain ⟨before, edge, after, hsplit, hearlier, hfault⟩ := checkEdges_eq_error.mp hedges
        exact .edge hdistinct hone hsplit hearlier hfault
      have hjoins := checkEdges_eq_ok.mp hedges
      rcases bind_eq_error.mp hrest with hnodes | ⟨nodes, -, hresult⟩
      · obtain ⟨before, node, after, hsplit, hearlier, hfault⟩ := mapM_eq_error.mp hnodes
        exact .node hdistinct hone hjoins hsplit
          (fun other hother => exists_loadNode_eq_ok.mp (hearlier other hother))
          (loadNode_eq_error.mp hfault)
      · cases hresult
  · intro h
    -- What was checked before the fault has been accepted.
    have unique (h : flow.ids.Nodup) : firstRepeated? [] flow.ids = none :=
      firstRepeated?_eq_none.mpr ⟨h, fun id _ => List.not_mem_nil (a := id)⟩
    cases h with
    | @duplicate before id after split distinct again =>
        have hrepeated : firstRepeated? [] flow.ids = some id :=
          firstRepeated?_eq_some.mpr ⟨before, after, split, distinct,
            fun id _ => List.not_mem_nil (a := id), .inr again⟩
        rw [hrepeated]
    | noStart distinct none =>
        rw [unique distinct]
        exact bind_eq_error.mpr (.inl (findStart_eq_error.mpr (.inl ⟨none, rfl⟩)))
    | manyStarts distinct several =>
        rw [unique distinct]
        exact bind_eq_error.mpr (.inl (findStart_eq_error.mpr (.inr ⟨several, rfl⟩)))
    | edge distinct start split earlier fault =>
        obtain ⟨first, hfirst⟩ := exists_findStart_eq_ok.mpr start
        have hedges := checkEdges_eq_error.mpr ⟨_, _, _, split, earlier, fault⟩
        rw [unique distinct]
        exact bind_eq_error.mpr (.inr ⟨first, hfirst, bind_eq_error.mpr (.inl hedges)⟩)
    | node distinct start edges split earlier fault =>
        obtain ⟨first, hfirst⟩ := exists_findStart_eq_ok.mpr start
        have hnodes : flow.nodes.mapM (loadNode registry flow) = .error e :=
          mapM_eq_error.mpr ⟨_, _, _, split,
            fun other hother => exists_loadNode_eq_ok.mpr (earlier other hother),
            loadNode_eq_error.mpr fault⟩
        rw [unique distinct]
        exact bind_eq_error.mpr (.inr ⟨first, hfirst, bind_eq_error.mpr
          (.inr ⟨(), checkEdges_eq_ok.mpr edges, bind_eq_error.mpr (.inl hnodes)⟩)⟩)

/-- Nodes are loaded one for one. -/
theorem loaded_nodes {written : List Flow.Node} {nodes : List Node}
    (h : written.mapM (loadNode registry flow) = .ok nodes) :
    nodes.map Node.id = written.map Flow.Node.id ∧
      ∀ source ∈ written, ∃ node ∈ nodes, loadNode registry flow source = .ok node := by
  replace h := mapM_eq_ok.mp h
  induction h with
  | nil => exact ⟨rfl, by simp⟩
  | @cons source node _ _ hnode _ ih =>
      obtain ⟨hids, hnodes⟩ := ih
      constructor
      · rw [List.map_cons, List.map_cons, hids, (loadNode_eq_ok hnode).2.1]
      · refine List.forall_mem_cons.mpr ⟨⟨node, .head _, hnode⟩, fun other hother => ?_⟩
        obtain ⟨found, hfound, hloaded⟩ := hnodes other hother
        exact ⟨found, .tail _ hfound, hloaded⟩

/-- A node that was loaded is found under its identifier. -/
theorem find?_of_distinct {graph : Graph} (h : (graph.nodes.map Node.id).Nodup) {node : Node}
    (hnode : node ∈ graph.nodes) : graph.find? node.id = some node := by
  unfold find?
  revert h hnode
  induction graph.nodes with
  | nil => exact fun _ hnode => absurd hnode List.not_mem_nil
  | cons first rest ih =>
      intro h hnode
      obtain ⟨hfirst, hrest⟩ := List.nodup_cons.mp h
      rcases List.mem_cons.mp hnode with rfl | hnode
      · simp
      · have hother : first.id ≠ node.id := by
          intro hid
          exact hfirst (hid ▸ List.mem_map_of_mem hnode)
        rw [List.find?_cons_of_neg (by simpa using hother)]
        exact ih hrest hnode

/-- The checks that a loaded flow has passed. -/
theorem checks_of_load {graph : Graph} (h : load registry flow = .ok graph) :
    findStart flow = .ok graph.start ∧
      flow.nodes.mapM (loadNode registry flow) = .ok graph.nodes := by
  rw [load_eq] at h
  split at h
  · cases h
  · obtain ⟨start, hstart, hrest⟩ := bind_eq_ok.mp h
    obtain ⟨⟨⟩, -, hrest⟩ := bind_eq_ok.mp hrest
    obtain ⟨nodes, hnodes, hresult⟩ := bind_eq_ok.mp hrest
    obtain rfl := Except.ok.inj hresult
    exact ⟨hstart, hnodes⟩

/-- A loaded flow has the nodes of its definition, in their order. -/
theorem ids_of_load {graph : Graph} (h : load registry flow = .ok graph) :
    graph.nodes.map Node.id = flow.ids :=
  (loaded_nodes (checks_of_load h).2).1

/-- A node of the definition is found under its identifier, as it was loaded. -/
theorem find?_of_load {graph : Graph} (h : load registry flow = .ok graph) {written : Flow.Node}
    (hwritten : written ∈ flow.nodes) :
    ∃ node, graph.find? written.id = some node ∧ loadNode registry flow written = .ok node := by
  obtain ⟨hids, hloaded⟩ := loaded_nodes (checks_of_load h).2
  obtain ⟨node, hnode, hload⟩ := hloaded written hwritten
  have hdistinct : (graph.nodes.map Node.id).Nodup :=
    hids ▸ (exists_load_eq_ok.mp ⟨graph, h⟩).distinct
  have hfound := find?_of_distinct hdistinct hnode
  rw [(loadNode_eq_ok hload).2.1] at hfound
  exact ⟨node, hfound, hload⟩

/-- What has been loaded from a flow. -/
theorem mirrors_of_load {graph : Graph} (h : load registry flow = .ok graph) :
    graph.Mirrors flow := by
  have hcontains (id : NodeId) : graph.contains id = true ↔ id ∈ flow.ids := by
    rw [contains_iff, ids_of_load h]
  have hsuccessor : ∀ written ∈ flow.nodes,
      graph.successor? written.id =
        if written.typeKey = "condition" then none
        else ((flow.outgoing written).map Flow.Edge.target).head? := by
    intro written hwritten
    obtain ⟨node, hfound, hload⟩ := find?_of_load h hwritten
    rw [successor?, hfound]
    exact (loadNode_eq_ok hload).2.2.1
  refine ⟨hcontains, ?_, ?_, ?_, ?_⟩
  · intro written hwritten hcondition
    rw [hsuccessor written hwritten, if_pos hcondition]
  · intro written hwritten houtgoing
    rw [hsuccessor written hwritten, houtgoing, List.map_nil, List.head?_nil, ite_self]
  · intro written hwritten hcondition edge houtgoing
    rw [hsuccessor written hwritten, if_neg hcondition, houtgoing]
    rfl
  · intro id hid
    have hfound : graph.find? id = none := by
      have hnone := mt (hcontains id).mp hid
      simpa [contains] using hnone
    rw [successor?, hfound]
    rfl

/-- A flow loads if and only if it is well formed, whatever types of nodes are registered; it has
then the nodes of its definition and leads where its edges lead.  Otherwise it is refused for the
first thing that is wrong with it. -/
theorem loads_iff_wellFormed (registry : Registry) (flow : Flow) :
    ((∃ graph, load registry flow = .ok graph) ↔ flow.WellFormed registry) ∧
      (∀ graph, load registry flow = .ok graph → graph.Mirrors flow) ∧
      ∀ e, load registry flow = .error e ↔ flow.FirstFault registry e :=
  ⟨exists_load_eq_ok, fun _ => mirrors_of_load, fun _ => load_eq_error⟩

/-- A small flow is well formed, however its types are written.  With the same edge twice it is
refused for it, before the configuration that it lacks is looked at. -/
theorem loads_iff_wellFormed_sample :
    let begins : Flow.Node := ⟨"begin", " Start ", none, []⟩
    let calls : Flow.Node := ⟨"call", "SUBFLOW", none, [("flow_id", .string "inner")]⟩
    let link : Flow.Edge := ⟨"first", "begin", "call", none⟩
    let good : Flow := { id := "outer", nodes := [begins, calls], edges := [link] }
    let bad : Flow :=
      { id := "outer", nodes := [begins, { calls with config := [] }], edges := [link, link] }
    good.WellFormed .standard ∧ bad.FirstFault .standard (.severalSuccessors "begin" 2) := by
  intro begins calls link good bad
  constructor
  · have hloads : (load .standard good).toOption.isSome = true := by decide +kernel
    apply (loads_iff_wellFormed .standard good).1.mp
    cases hload : load .standard good with
    | error e => simp [hload, Except.toOption] at hloads
    | ok graph => exact ⟨graph, rfl⟩
  · have hfails : (load .standard bad).map (fun _ => ()) =
        .error (.severalSuccessors "begin" 2) := by
      decide +kernel
    apply ((loads_iff_wellFormed .standard bad).2.2 _).mp
    cases hload : load .standard bad with
    | error e =>
        rw [hload] at hfails
        rw [Except.error.inj hfails]
    | ok graph =>
        rw [hload] at hfails
        cases hfails

end Flows

end Graph

end Dialogue
