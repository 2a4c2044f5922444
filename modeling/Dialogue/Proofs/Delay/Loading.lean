import Mathlib.Tactic.SplitIfs
import Dialogue.Catalog
import Dialogue.Proofs.Decoding
import Dialogue.Proofs.Delay.Twin

/-!
# Removing the delays of a flow definition

The delays of a flow are removed by writing that they have no length: the delay
of each delay node, whether or not it is given, and those of each content node
that are given, as one that is not given there is none.  A flow that loads still
loads then, and to the same graph without its delays: `load_undelayed`.
-/

namespace Dialogue

/-! ## Written delays -/

/-- The fields of other names than one. -/
def Fields.without {α : Type} (name : String) (fields : Fields α) : Fields α :=
  fields.filter fun field => field.1 != name

namespace Value

/-- A delay written to have no length.  What is no whole number is no delay. -/
def undelayed : Value → Value
  | .number x => if (integer? x).isSome then .number 0 else .number x
  | value => value

/-- The value of a field that may be a delay. -/
def undelayedField (name : String) (value : Value) : Value :=
  if name = "delay_ms" then value.undelayed else value

/-- A written part with no wait after it. -/
def undelayedPart (value : Value) : Value := Part.record.alter undelayedField value

/-- The value of a field that may hold delays of a sequence of messages. -/
def undelayedContent (name : String) (value : Value) : Value :=
  if name = "trailing_delay_ms" then value.undelayed
  else if name = "parts" then
    match value with
    | .array parts => .array (parts.map undelayedPart)
    | other => other
  else value

end Value

namespace Flow

/-- A node with all its delays written to have no length. -/
def Node.undelayed (node : Node) : Node :=
  if node.typeKey = "delay" then
    { node with
      config := Fields.insert "delay_ms" (.number 0) (Fields.without "delay_ms" node.config) }
  else if node.typeKey = "content" then
    { node with config := Fields.alter Value.undelayedContent node.config }
  else node

/-- A flow with all its delays written to have no length. -/
def undelayed (flow : Flow) : Flow := { flow with nodes := flow.nodes.map Node.undelayed }

theorem Node.undelayed_frame (node : Node) :
    node.undelayed.id = node.id ∧ node.undelayed.kind = node.kind := by
  unfold undelayed
  split_ifs <;> exact ⟨rfl, rfl⟩

@[simp] theorem Node.typeKey_undelayed (node : Node) :
    node.undelayed.typeKey = node.typeKey := by
  unfold typeKey
  rw [node.undelayed_frame.2]

end Flow

/-! ## Decoding without delays -/

theorem Value.document_zero : (Value.number 0).document = .number (.integer 0) := by
  have hzero : integer? 0 = some 0 := by decide +kernel
  unfold document
  simp only [toJson, hzero]
  rfl

theorem Decoder.word64_zero : word64 .tree (Value.number 0).document = .ok 0 := by
  rw [Value.document_zero]
  rfl

/-- What is written where a delay may stand is a whole number, or else no document that is decoded
as a number. -/
theorem Value.undelayed_cases (written : Value) :
    written.undelayed = .number 0 ∧ (∃ n, written.document = .number (.integer n)) ∨
      written.undelayed = written ∧ ∀ n, written.document ≠ .number (.integer n) := by
  cases written with
  | number x =>
      cases hwhole : integer? x with
      | some n =>
          refine .inl ⟨by simp [undelayed, hwhole], n, ?_⟩
          unfold document
          simp only [toJson, hwhole]
          rfl
      | none =>
          refine .inr ⟨by simp [undelayed, hwhole], fun n => ?_⟩
          unfold document
          simp only [toJson, hwhole, Json.real]
          split_ifs <;> simp [Document.ofJson]
  | _ => exact .inr ⟨rfl, fun n h => by cases h⟩

/-- A number was written as a whole number. -/
theorem Decoder.word64_eq_ok {document : Document} {n : Nat}
    (h : word64 .tree document = .ok n) : ∃ whole, document = .number (.integer whole) := by
  unfold word64 natural at h
  split at h
  · exact ⟨_, rfl⟩
  · cases h

theorem Decoder.nullable_undelayed {written : Value} {delay : Option Nat}
    (h : nullable word64 .tree written.document = .ok delay) :
    nullable word64 .tree written.undelayed.document = .ok (delay.map fun _ => 0) := by
  obtain ⟨hzero, n, hwhole⟩ | ⟨hsame, hother⟩ := written.undelayed_cases
  · rw [hwhole] at h
    obtain ⟨millis, -, rfl⟩ := map_eq_ok.mp h
    rw [hzero, Value.document_zero]
    rfl
  · rw [hsame, h]
    unfold nullable at h
    split at h
    · cases h
      rfl
    · obtain ⟨millis, hword, -⟩ := map_eq_ok.mp h
      obtain ⟨whole, hwhole⟩ := word64_eq_ok hword
      exact absurd hwhole (hother whole)

/-! ## Parts -/

/-- The fields of a part without its wait. -/
theorem Part.changes : ∃ draft, Part.record.Changes Value.undelayedField
    (Prod.map id (Prod.map id (Prod.map id (Prod.map (Option.map fun _ => 0) id)))) draft :=
  ⟨_, .keep (fun _ => rfl) <| .keep (fun _ => rfl) <| .keep (fun _ => rfl) <|
    .field (fun _ _ h => Decoder.nullable_undelayed h) rfl .done⟩

theorem Part.decode_undelayed {written : Value} {part : Part}
    (h : Part.decoder .tree written.document = .ok part) :
    Part.decoder .tree written.undelayedPart.document = .ok part.undelayed := by
  obtain ⟨draft, hchanges⟩ := Part.changes
  obtain ⟨fields, hrecord, rfl⟩ := map_eq_ok.mp h
  exact map_eq_ok.mpr ⟨_, hchanges.decode _ hrecord, rfl⟩

theorem Part.decode_all_undelayed {written : List Value} {parts : List Part}
    (h : Decoder.items Part.decoder .tree (written.map Value.document) = .ok parts) :
    Decoder.items Part.decoder .tree ((written.map Value.undelayedPart).map Value.document) =
      .ok (parts.map Part.undelayed) := by
  induction written generalizing parts with
  | nil =>
      cases h
      rfl
  | cons value rest ih =>
      obtain ⟨part, hpart, hrest⟩ := bind_eq_ok.mp h
      obtain ⟨parts', hparts, hresult⟩ := bind_eq_ok.mp hrest
      cases hresult
      exact bind_eq_ok.mpr ⟨_, Part.decode_undelayed hpart, bind_eq_ok.mpr ⟨_, ih hparts, rfl⟩⟩

theorem Part.decode_list_undelayed {written : Value} {parts : List Part}
    (h : Decoder.list Part.decoder .tree written.document = .ok parts) :
    Decoder.list Part.decoder .tree (Value.undelayedContent "parts" written).document =
      .ok (parts.map Part.undelayed) := by
  cases written with
  | array items =>
      change Decoder.list Part.decoder .tree
        (Value.array (items.map Value.undelayedPart)).document = _
      rw [Value.document_array] at h ⊢
      obtain ⟨values, hvalues, hresult⟩ := bind_eq_ok.mp h
      cases hresult
      exact bind_eq_ok.mpr ⟨_, Part.decode_all_undelayed hvalues, rfl⟩
  | number x =>
      obtain ⟨n, hdocument⟩ | hdocument := Value.document_number x
      · rw [hdocument] at h
        cases h
      · rw [hdocument] at h
        cases h
  | _ => cases h

/-- The fields of a sequence of messages without its waits. -/
theorem Sequence.changes : ∃ draft, Record.Changes Value.undelayedContent
    (.field "text" [] (some none) (.nullable .string) <|
      .field "parts" [] (some []) (.list Part.decoder) <|
      .field "trailing_delay_ms" [] (some none) (.nullable .word64) <| OnError.field .done)
    (Prod.map id (Prod.map (List.map Part.undelayed) (Prod.map (Option.map fun _ => 0)
      (Prod.map id id)))) draft :=
  ⟨_, .keep (fun _ => rfl) <| .field (fun _ _ h => Part.decode_list_undelayed h) rfl <|
    .field (fun _ _ h => Decoder.nullable_undelayed h) rfl <| .keep (fun _ => rfl) .done⟩

/-! ## Nodes -/

theorem Flow.Node.readConfig_eq_ok {α : Type} {node : Node} {decode : Decoder α} {value : α} :
    node.readConfig decode = .ok value ↔
      decode .tree (Value.object node.config).document = .ok value := by
  unfold readConfig
  change (decode .tree (Value.object node.config).document).mapError _ = _ ↔ _
  cases decode .tree (Value.object node.config).document with
  | error e =>
      constructor
      · intro h
        cases h
      · intro h
        cases h
  | ok a =>
      constructor
      · intro h
        exact congrArg Except.ok (Except.ok.inj h)
      · intro h
        exact congrArg Except.ok (Except.ok.inj h)

namespace Behaviour

variable {node : Flow.Node} {behaviour : Behaviour}

/-- A delay node can do without its delay, whatever else its configuration says. -/
theorem buildDelay_undelayed (hkind : node.typeKey = "delay") :
    buildDelay node.undelayed = .ok (.delay 0) := by
  have hconfig : node.undelayed.config =
      Fields.insert "delay_ms" (.number 0) (Fields.without "delay_ms" node.config) := by
    unfold Flow.Node.undelayed
    rw [if_pos hkind]
  have hothers : ∀ field ∈ Fields.without "delay_ms" node.config, field.1 ≠ "delay_ms" := by
    intro field hfield
    simpa using (List.mem_filter.mp hfield).2
  refine bind_eq_ok.mpr ⟨(0, ()), Flow.Node.readConfig_eq_ok.mpr ?_, rfl⟩
  rw [Value.document_object, hconfig]
  exact bind_eq_ok.mpr ⟨(some 0, ()), Record.putAll_insert hothers Decoder.word64_zero, rfl⟩

theorem buildContent_undelayed (hkind : node.typeKey = "content")
    (h : buildContent node = .ok behaviour) :
    buildContent node.undelayed = .ok behaviour.undelayed := by
  have hconfig : Value.object node.undelayed.config =
      .object (Fields.alter Value.undelayedContent node.config) := by
    have hother : ¬node.typeKey = "delay" := by
      rw [hkind]
      decide
    unfold Flow.Node.undelayed
    rw [if_neg hother, if_pos hkind]
  obtain ⟨⟨text, parts, trailing, onError, done⟩, hread, hbuilt⟩ := bind_eq_ok.mp h
  have hdecoded := Flow.Node.readConfig_eq_ok.mp hread
  refine bind_eq_ok.mpr ⟨(text, parts.map Part.undelayed, trailing.map fun _ => 0, onError, done),
    Flow.Node.readConfig_eq_ok.mpr ?_, ?_⟩
  · rw [hconfig]
    obtain ⟨draft, hchanges⟩ := Sequence.changes
    exact hchanges.decode _ hdecoded
  · have hparts : (text.map Part.text).toList ++ parts.map Part.undelayed =
        ((text.map Part.text).toList ++ parts).map Part.undelayed := by
      cases text <;> rfl
    have htrailing : (trailing.map fun _ => 0).filter (fun n => decide (0 < n)) = none := by
      cases trailing <;> rfl
    dsimp only at hbuilt ⊢
    rw [hparts, htrailing, List.isEmpty_map]
    split at hbuilt
    · cases hbuilt
    · next hsome =>
      obtain rfl := Except.ok.inj hbuilt
      rw [if_neg hsome]
      rfl

end Behaviour

/-- A node without delays leads to the same nodes. -/
theorem Behaviour.targets_undelayed (behaviour : Behaviour) :
    behaviour.undelayed.targets = behaviour.targets := by
  cases behaviour <;> rfl

/-- What a node of a standard type is built to. -/
theorem Registry.standard_build (node : Flow.Node) :
    Registry.standard.build node =
      if node.typeKey = "subflow" then Behaviour.buildSubflow node
      else if node.typeKey = "assign_queue" then Behaviour.buildAssignQueue node
      else if node.typeKey = "condition" then Behaviour.buildCondition node
      else if node.typeKey = "delay" then Behaviour.buildDelay node
      else if node.typeKey = "menu" then Behaviour.buildMenu node
      else if node.typeKey = "content" then Behaviour.buildContent node
      else if node.typeKey = "start" then .ok .start
      else .ok (.unknown node.kind) := by
  have hnames : ∀ nodeType ∈ NodeType.standard,
      Text.asciiLower nodeType.name = nodeType.name := by decide +kernel
  simp only [NodeType.standard, List.forall_mem_cons, List.not_mem_nil, false_implies,
    implies_true, and_true, NodeType.start, NodeType.content, NodeType.menu, NodeType.delay,
    NodeType.condition, NodeType.assignQueue, NodeType.subflow] at hnames
  obtain ⟨hstart, hcontent, hmenu, hdelay, hcondition, hassign, hsubflow⟩ := hnames
  unfold Registry.build
  simp only [Registry.standard, NodeType.standard, List.foldl, Registry.register,
    Registry.empty, Fields.get?_insert, Fields.get?_nil, NodeType.start, NodeType.content,
    NodeType.menu, NodeType.delay, NodeType.condition, NodeType.assignQueue, NodeType.subflow,
    hstart, hcontent, hmenu, hdelay, hcondition, hassign, hsubflow]
  split_ifs <;> rfl

/-- Nodes of the standard types that make no delays and act out no scripts. -/
theorem Registry.build_undelaying {node : Flow.Node} {behaviour : Behaviour}
    (h : Registry.standard.build node = .ok behaviour) (hdelay : ¬node.typeKey = "delay")
    (hcontent : ¬node.typeKey = "content") :
    behaviour.undelayed = behaviour ∧ behaviour.isScripted = false := by
  rw [standard_build, if_neg hdelay, if_neg hcontent] at h
  split_ifs at h
  · obtain ⟨config, -, hbuilt⟩ := bind_eq_ok.mp h
    cases hbuilt
    exact ⟨rfl, rfl⟩
  · obtain ⟨config, -, hbuilt⟩ := bind_eq_ok.mp h
    cases hbuilt
    exact ⟨rfl, rfl⟩
  · obtain ⟨config, -, hbuilt⟩ := bind_eq_ok.mp h
    cases hbuilt
    exact ⟨rfl, rfl⟩
  · obtain ⟨config, -, hbuilt⟩ := bind_eq_ok.mp h
    cases hbuilt
    exact ⟨rfl, rfl⟩
  · cases h
    exact ⟨rfl, rfl⟩
  · cases h
    exact ⟨rfl, rfl⟩

/-- A standard node still has its behaviour, but for its delays, when they are removed. -/
theorem Registry.build_undelayed {node : Flow.Node} {behaviour : Behaviour}
    (h : Registry.standard.build node = .ok behaviour) :
    Registry.standard.build node.undelayed = .ok behaviour.undelayed ∧
      behaviour.isScripted = false := by
  by_cases hdelay : node.typeKey = "delay"
  · rw [standard_build] at h
    rw [standard_build, Flow.Node.typeKey_undelayed]
    simp only [hdelay, String.reduceEq, if_false, if_true] at h ⊢
    obtain ⟨⟨millis, done⟩, -, hbuilt⟩ := bind_eq_ok.mp h
    cases hbuilt
    exact ⟨Behaviour.buildDelay_undelayed hdelay, rfl⟩
  · by_cases hcontent : node.typeKey = "content"
    · rw [standard_build] at h
      rw [standard_build, Flow.Node.typeKey_undelayed]
      simp only [hcontent, String.reduceEq, if_false, if_true] at h ⊢
      refine ⟨Behaviour.buildContent_undelayed hcontent h, ?_⟩
      obtain ⟨config, -, hbuilt⟩ := bind_eq_ok.mp h
      dsimp only at hbuilt
      split at hbuilt
      · cases hbuilt
      · cases hbuilt
        rfl
    · have hnode : node.undelayed = node := by
        unfold Flow.Node.undelayed
        rw [if_neg hdelay, if_neg hcontent]
      obtain ⟨hsame, hscript⟩ := build_undelaying h hdelay hcontent
      rw [hnode, hsame]
      exact ⟨h, hscript⟩

/-! ## Graphs -/

namespace Graph

variable {flow : Flow}

theorem findStart_undelayed (flow : Flow) : findStart flow.undelayed = findStart flow := by
  have hfilter : (flow.nodes.map Flow.Node.undelayed).filter (·.typeKey == "start") =
      (flow.nodes.filter (·.typeKey == "start")).map Flow.Node.undelayed := by
    have hsame : (fun node : Flow.Node => node.typeKey == "start") ∘ Flow.Node.undelayed =
        fun node => node.typeKey == "start" := by
      funext node
      exact congrArg (· == "start") node.typeKey_undelayed
    rw [List.filter_map, hsame]
  have hnodes : flow.undelayed.nodes = flow.nodes.map Flow.Node.undelayed := rfl
  have hid : flow.undelayed.id = flow.id := rfl
  unfold findStart
  rw [hnodes, hid, hfilter]
  generalize flow.nodes.filter (·.typeKey == "start") = starts
  match starts with
  | [] => rfl
  | [first] => exact congrArg Except.ok first.undelayed_frame.1
  | first :: second :: rest => simp

theorem ids_undelayed (flow : Flow) :
    flow.undelayed.nodes.map Flow.Node.id = flow.nodes.map Flow.Node.id := by
  change (flow.nodes.map Flow.Node.undelayed).map Flow.Node.id = _
  rw [List.map_map]
  exact List.map_congr_left fun node _ => node.undelayed_frame.1

theorem loadNode_undelayed {written : Flow.Node} {node : Node}
    (h : loadNode .standard flow written = .ok node) :
    loadNode .standard flow.undelayed written.undelayed = .ok node.undelayed ∧
      node.behaviour.isScripted = false := by
  have hkey := written.typeKey_undelayed
  have hid := written.undelayed_frame.1
  have hedges : flow.undelayed.edges = flow.edges := rfl
  unfold loadNode branches at h ⊢
  dsimp only at h ⊢
  rw [hkey, hid, hedges, ids_undelayed]
  split at h
  · cases h
  · next hmany =>
    obtain ⟨behaviour, hbuilt, hrest⟩ := bind_eq_ok.mp h
    obtain ⟨hbuilt', hscript⟩ := Registry.build_undelayed hbuilt
    rw [if_neg hmany]
    split at hrest
    · cases hrest
    · next hfound =>
      obtain rfl := Except.ok.inj hrest
      refine ⟨bind_eq_ok.mpr ⟨_, hbuilt', ?_⟩, hscript⟩
      rw [Behaviour.targets_undelayed, hfound]
      simp only [Node.undelayed]

theorem loadNodes_undelayed {written : List Flow.Node} {nodes : List Node}
    (h : written.mapM (loadNode .standard flow) = .ok nodes) :
    (written.map Flow.Node.undelayed).mapM (loadNode .standard flow.undelayed) =
        .ok (nodes.map Node.undelayed) ∧
      ∀ node ∈ nodes, node.behaviour.isScripted = false := by
  induction written generalizing nodes with
  | nil =>
      cases h
      exact ⟨rfl, by simp⟩
  | cons first rest ih =>
      rw [List.mapM_cons] at h
      obtain ⟨node, hfirst, hrest⟩ := bind_eq_ok.mp h
      obtain ⟨others, hothers, hresult⟩ := bind_eq_ok.mp hrest
      cases hresult
      obtain ⟨hnode, hscript⟩ := loadNode_undelayed hfirst
      obtain ⟨hnodes, hscripts⟩ := ih hothers
      constructor
      · rw [List.map_cons, List.mapM_cons]
        exact bind_eq_ok.mpr ⟨_, hnode, bind_eq_ok.mpr ⟨_, hnodes, rfl⟩⟩
      · exact List.forall_mem_cons.mpr ⟨hscript, hscripts⟩

/-- A flow that loads still loads, but for its delays, when they are removed. -/
theorem load_undelayed {graph : Graph} (h : load .standard flow = .ok graph) :
    load .standard flow.undelayed = .ok graph.undelayed ∧ graph.Standard := by
  unfold load at h ⊢
  dsimp only at h ⊢
  rw [ids_undelayed, findStart_undelayed]
  split at h
  · cases h
  · next hunique =>
    obtain ⟨start, hstart, hrest⟩ := bind_eq_ok.mp h
    obtain ⟨ends, hedges, hrest⟩ := bind_eq_ok.mp hrest
    obtain ⟨nodes, hnodes, hresult⟩ := bind_eq_ok.mp hrest
    cases hresult
    obtain ⟨hnodes', hscripts⟩ := loadNodes_undelayed hnodes
    exact ⟨bind_eq_ok.mpr ⟨_, hstart, bind_eq_ok.mpr ⟨_, hedges,
      bind_eq_ok.mpr ⟨_, hnodes', rfl⟩⟩⟩, hscripts⟩

end Graph

/-! ## Catalogs -/

/-- A catalog of flows that all load has every flow without its delays when they are removed. -/
theorem Catalog.load_undelayed {flows : List Flow}
    (hflows : ∀ flow ∈ flows, ∃ graph, Graph.load .standard flow = .ok graph) (id : FlowId) :
    (ofFlows (flows.map Flow.undelayed)).load .standard id =
        ((ofFlows flows).load .standard id).map Graph.undelayed ∧
      ∀ graph, (ofFlows flows).load .standard id = .ok graph → graph.Standard := by
  have hnamed : (flows.map Flow.undelayed).map (fun flow => (flow.id, flow)) =
      (flows.map fun flow => (flow.id, flow)).map fun (name, flow) => (name, flow.undelayed) := by
    rw [List.map_map, List.map_map]
    rfl
  have hfound := Fields.get?_foldl_map Flow.undelayed
    (flows.map fun flow => (flow.id, flow)) [] [] id rfl
  unfold load
  simp only [ofFlows, Fields.ofList, hnamed, hfound]
  cases hflow : Fields.get? ((flows.map fun flow => (flow.id, flow)).foldl
      (fun fields (name, flow) => Fields.insert name flow fields) []) id with
  | none => exact ⟨rfl, fun graph h => by cases h⟩
  | some flow =>
      have hmem : flow ∈ flows := by
        rcases Fields.mem_of_get?_foldl hflow with hpair | hnone
        · obtain ⟨other, hother, hsame⟩ := List.mem_map.mp hpair
          exact (Prod.mk.inj hsame).2 ▸ hother
        · cases hnone
      obtain ⟨graph, hgraph⟩ := hflows flow hmem
      obtain ⟨hundelayed, hstandard⟩ := Graph.load_undelayed hgraph
      constructor
      · simp only [Option.map_some, hgraph, hundelayed]
        rfl
      · intro other hother
        simp only [hgraph] at hother
        cases hother
        exact hstandard

end Dialogue
