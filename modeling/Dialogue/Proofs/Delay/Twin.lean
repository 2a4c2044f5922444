import Dialogue.Proofs.Delay.Alike

/-!
# Flows without their delays

A flow without its delays has the same nodes and links; only its delay nodes and
its sequences of messages do not pause.  Two worlds are twins if they have been
asked the same, answer the same, and the flows of one are those of the other
without their delays.  Any step that has no delay to make does the same in twins.
-/

namespace Dialogue

/-! ## Removing the delays of a loaded flow -/

/-- A part with no wait after it. -/
def Part.undelayed (part : Part) : Part := { part with delay := part.delay.map fun _ => 0 }

@[simp] theorem Part.filter_undelayed (part : Part) :
    part.undelayed.delay.filter (0 < ·) = none := by
  cases h : part.delay <;> simp [undelayed, h]

/-- A sequence that is sent at once. -/
def Sequence.undelayed (sequence : Sequence) : Sequence :=
  { sequence with parts := sequence.parts.map Part.undelayed, trailing := none }

namespace Behaviour

/-- A behaviour that makes no delay. -/
def undelayed : Behaviour → Behaviour
  | .content sequence => .content sequence.undelayed
  | .delay _ => .delay 0
  | behaviour => behaviour

/-- Whether a node acts out a script, which no standard type of node does. -/
def isScripted : Behaviour → Bool
  | .scripted _ => true
  | _ => false

/-- Whether a node is of a type that can make delays. -/
def makesDelay : Behaviour → Bool
  | .content _ | .delay _ => true
  | _ => false

theorem undelayed_of_makesDelay {behaviour : Behaviour} (h : behaviour.makesDelay = false) :
    behaviour.undelayed = behaviour := by
  cases behaviour with
  | content sequence => simp [makesDelay] at h
  | delay millis => simp [makesDelay] at h
  | _ => rfl

@[simp] theorem isSubflow_undelayed (behaviour : Behaviour) :
    behaviour.undelayed.isSubflow = behaviour.isSubflow := by
  cases behaviour <;> rfl

theorem eq_subflow_of_undelayed {behaviour : Behaviour} {flow : FlowId}
    (h : behaviour.undelayed = .subflow flow) : behaviour = .subflow flow := by
  cases behaviour with
  | subflow other => exact h
  | _ => simp [undelayed] at h

/-- Without delays only menus pause, and they wait for a reply. -/
theorem Pauses.of_undelayed {behaviour : Behaviour} {here : NodeId} {suspension : Suspension}
    (h : behaviour.undelayed.Pauses here suspension) (hscript : behaviour.isScripted = false) :
    (∃ menu, behaviour = .menu menu) ∧ suspension.isTimer = false := by
  unfold Suspension.isTimer
  cases behaviour with
  | menu menu =>
      refine ⟨⟨menu, rfl⟩, ?_⟩
      cases hreason : suspension.reason with
      | reply node => rfl
      | timer time => simp [undelayed, Pauses, hreason] at h
  | scripted script => simp [isScripted] at hscript
  | content sequence =>
      cases hreason : suspension.reason with
      | reply node => simp [undelayed, Pauses, hreason] at h
      | timer time =>
          simp only [undelayed, Pauses, hreason] at h
          obtain ⟨htrailing | ⟨part, hpart, hdelay⟩, -⟩ := h
          · simp [Sequence.undelayed] at htrailing
          · obtain ⟨written, -, rfl⟩ := List.mem_map.mp hpart
            simp at hdelay
  | delay millis =>
      cases hreason : suspension.reason <;> simp [undelayed, Pauses, hreason] at h
  | _ => simp [undelayed, Pauses] at h

end Behaviour

namespace Graph

/-- A node that makes no delay. -/
def Node.undelayed (node : Node) : Node := { node with behaviour := node.behaviour.undelayed }

/-- A loaded flow without its delays. -/
def undelayed (graph : Graph) : Graph := { graph with nodes := graph.nodes.map Node.undelayed }

/-- A loaded flow without scripted nodes. -/
def Standard (graph : Graph) : Prop := ∀ node ∈ graph.nodes, node.behaviour.isScripted = false

theorem find?_undelayed (graph : Graph) (id : NodeId) :
    graph.undelayed.find? id = (graph.find? id).map Node.undelayed := by
  unfold find? undelayed
  rw [List.find?_map]
  rfl

/-- The node that a node without delays is made of. -/
theorem find?_of_undelayed {graph : Graph} {id : NodeId} {node₀ : Node}
    (h : graph.undelayed.find? id = some node₀) :
    ∃ node, graph.find? id = some node ∧ node₀ = node.undelayed := by
  rw [find?_undelayed] at h
  obtain ⟨node, hnode, hundelayed⟩ := Option.map_eq_some_iff.mp h
  exact ⟨node, hnode, hundelayed.symm⟩

@[simp] theorem contains_undelayed (graph : Graph) (id : NodeId) :
    graph.undelayed.contains id = graph.contains id := by
  unfold contains
  rw [find?_undelayed, Option.isSome_map]

theorem Standard.node {graph : Graph} (h : graph.Standard) {id : NodeId} {node : Node}
    (hnode : graph.find? id = some node) : node.behaviour.isScripted = false :=
  h node (List.mem_of_find?_eq_some hnode)

end Graph

/-! ## Twins -/

namespace World

/-- Nothing has happened between two worlds that twins would notice. -/
structure Idle (before after : World) : Prop where
  collaborators : after.collaborators = before.collaborators
  ledger : after.ledger = before.ledger
  flow : after.flow = before.flow

namespace Idle

theorem refl (world : World) : world.Idle world := ⟨rfl, rfl, rfl⟩

theorem trans {first second third : World} (h : first.Idle second) (h' : second.Idle third) :
    first.Idle third :=
  ⟨h'.collaborators.trans h.collaborators, h'.ledger.trans h.ledger, h'.flow.trans h.flow⟩

theorem emit (world : World) (event : Event) : world.Idle (world.emit event) := ⟨rfl, rfl, rfl⟩

theorem look (world : World) (flow : FlowId) : world.Idle (world.look flow).2 :=
  ⟨rfl, rfl, (world.later_look flow).flow⟩

theorem newRun (world : World) : world.Idle world.newRun.2 := ⟨rfl, rfl, rfl⟩

theorem newToken (world : World) : world.Idle world.newToken.2 := ⟨rfl, rfl, rfl⟩

end Idle

/-- A world whose collaborators have been asked the same as those of another one and answer the
same, and whose flows make the delays that those of the other one do not make. -/
structure Twin (world world₀ : World) : Prop where
  collaborators : world.collaborators = world₀.collaborators
  ledger : world.ledger = world₀.ledger
  flow : ∀ id, world₀.flow id = (world.flow id).map Graph.undelayed
  standard : ∀ id graph, world.flow id = .ok graph → graph.Standard

namespace Twin

variable {world world₀ after after₀ : World}

theorem idle (h : world.Twin world₀) (hafter : world.Idle after) (hafter₀ : world₀.Idle after₀) :
    after.Twin after₀ where
  collaborators := by rw [hafter.collaborators, hafter₀.collaborators, h.collaborators]
  ledger := by rw [hafter.ledger, hafter₀.ledger, h.ledger]
  flow := by
    rw [hafter.flow, hafter₀.flow]
    exact h.flow
  standard := by
    rw [hafter.flow]
    exact h.standard

/-- Events are not noticed. -/
theorem emit (h : world.Twin world₀) (event event₀ : Event) :
    (world.emit event).Twin (world₀.emit event₀) := h.idle (.emit _ _) (.emit _ _)

theorem send (h : world.Twin world₀) (contactId : String) (message : Message) :
    (world.send contactId message).1 = (world₀.send contactId message).1 ∧
      (world.send contactId message).2.Twin (world₀.send contactId message).2 := by
  have hanswer : (world.send contactId message).1 = (world₀.send contactId message).1 := by
    simp only [World.send, h.collaborators, h.ledger]
  refine ⟨hanswer, h.collaborators, ?_, h.flow, h.standard⟩
  change world.ledger.add (.sent contactId message (world.send contactId message).1) =
    world₀.ledger.add (.sent contactId message (world₀.send contactId message).1)
  rw [hanswer, h.ledger]

theorem assign (h : world.Twin world₀) (contactId queue : String) :
    (world.assign contactId queue).1 = (world₀.assign contactId queue).1 ∧
      (world.assign contactId queue).2.Twin (world₀.assign contactId queue).2 := by
  have hanswer : (world.assign contactId queue).1 = (world₀.assign contactId queue).1 := by
    simp only [World.assign, h.collaborators, h.ledger]
  refine ⟨hanswer, h.collaborators, ?_, h.flow, h.standard⟩
  change world.ledger.add (.assigned contactId queue (world.assign contactId queue).1) =
    world₀.ledger.add (.assigned contactId queue (world₀.assign contactId queue).1)
  rw [hanswer, h.ledger]

theorem flow_error (h : world.Twin world₀) {id : FlowId} {e : FlowError}
    (he : world₀.flow id = .error e) : world.flow id = .error e := by
  rw [h.flow] at he
  cases hgraph : world.flow id with
  | error e' =>
      rw [hgraph] at he
      exact congrArg Except.error (Except.error.inj he)
  | ok graph =>
      rw [hgraph] at he
      simp [Except.map] at he

/-- What a flow without delays is loaded from. -/
theorem flow_of_ok (h : world.Twin world₀) {id : FlowId} {graph₀ : Graph}
    (hgraph : world₀.flow id = .ok graph₀) :
    ∃ graph, world.flow id = .ok graph ∧ graph₀ = graph.undelayed := by
  rw [h.flow] at hgraph
  cases hflow : world.flow id with
  | error e =>
      rw [hflow] at hgraph
      simp [Except.map] at hgraph
  | ok graph =>
      rw [hflow] at hgraph
      exact ⟨graph, rfl, (Except.ok.inj hgraph).symm⟩

end Twin

end World

/-! ## Steps in twins -/

/-- Two steps of runs that are alike in worlds that are twins, which have come to the same. -/
structure Matches (result result₀ : (Outcome × Run) × World) : Prop where
  outcome : result.1.1.nameless = result₀.1.1.nameless
  run : result.1.2.Alike result₀.1.2
  world : result.2.Twin result₀.2

variable {world world₀ : World} {run run₀ : Run}

namespace Surroundings

variable (around : Surroundings)

theorem render_alike {a b : Level} (h : a.Alike b) (template : String) :
    around.render a template = around.render b template := by
  unfold render
  rw [h.contactId, h.contact, h.vars]

theorem message_alike {a b : Level} (h : a.Alike b) (part : Part) :
    Sequence.message around a part = Sequence.message around b part.undelayed := by
  unfold Sequence.message
  rw [around.render_alike h, funext (around.render_alike h)]
  rfl

theorem deliver_alike (hworld : world.Twin world₀) (hrun : run.Alike run₀) (part : Nat)
    (message : Message) (onError : OnError) :
    (world.act (around.deliver run part message onError)).1.1 =
        (world₀.act (around.deliver run₀ part message onError)).1.1 ∧
      (world.act (around.deliver run part message onError)).1.2.Alike
        (world₀.act (around.deliver run₀ part message onError)).1.2 ∧
      (world.act (around.deliver run part message onError)).2.Twin
        (world₀.act (around.deliver run₀ part message onError)).2 := by
  obtain ⟨hanswer, htwin⟩ := hworld.send run.contactId message
  rw [act_deliver, act_deliver, ← hrun.level.contactId]
  revert hanswer htwin
  rcases world.send run.contactId message with ⟨result, after⟩
  rcases world₀.send run.contactId message with ⟨result₀, after₀⟩
  intro hanswer htwin
  obtain rfl : result = result₀ := hanswer
  cases result with
  | ok id => exact ⟨rfl, hrun.onLevel (hrun.level.note rfl), htwin⟩
  | error e => exact ⟨rfl, hrun.onLevel (hrun.level.note rfl), htwin⟩

end Surroundings

namespace Menu

variable (menu : Menu) {around : Surroundings}

theorem keep_alike (hrun : run.Alike run₀) (answer : String) :
    (menu.keep run answer).Alike (menu.keep run₀ answer) := by
  unfold keep
  cases menu.saveAs with
  | none => exact hrun
  | some name =>
      refine hrun.onLevel ?_
      rw [hrun.level.vars]
      exact hrun.level.withVars _

theorem wait_alike (hworld : world.Twin world₀) (hrun : run.Alike run₀) :
    Matches (world.act (do return (← menu.wait around run, run)))
      (world₀.act (do return (← menu.wait around run₀, run₀))) := by
  rw [World.act_bind, World.act_bind, act_wait, act_wait, hrun.level.node]
  exact ⟨rfl, hrun, hworld.idle (.newToken _) (.newToken _)⟩

theorem unmatched_alike (hworld : world.Twin world₀) (hrun : run.Alike run₀) (answer : String) :
    Matches (world.act (menu.unmatched around run answer))
      (world₀.act (menu.unmatched around run₀ answer)) := by
  unfold unmatched
  cases menu.fallback with
  | some node => exact ⟨rfl, menu.keep_alike hrun answer, hworld⟩
  | none => exact menu.wait_alike hworld (hrun.onLevel (hrun.level.note rfl))

theorem promptText_alike {a b : Level} (h : a.Alike b) (prompt : String) :
    menu.promptText around a prompt = menu.promptText around b prompt := by
  unfold promptText
  rw [around.render_alike h]

theorem step_alike (hworld : world.Twin world₀) (hrun : run.Alike run₀)
    (payload : Option Payload) :
    Matches (world.act (menu.step around run payload))
      (world₀.act (menu.step around run₀ payload)) := by
  unfold step
  split
  · unfold takeReply
    dsimp only
    split
    · exact ⟨rfl, menu.keep_alike hrun _, hworld⟩
    · split
      · exact ⟨rfl, menu.keep_alike hrun _, hworld⟩
      · exact menu.unmatched_alike hworld hrun _
  · unfold takeSelection
    split
    · exact ⟨rfl, menu.keep_alike hrun _, hworld⟩
    · split
      · exact ⟨rfl, hrun, hworld⟩
      · exact menu.unmatched_alike hworld hrun _
  · exact ⟨rfl, hrun, hworld⟩
  · split
    · exact menu.wait_alike hworld hrun
    · next prompt _ =>
      rw [World.act_bind, World.act_bind, menu.promptText_alike hrun.level prompt]
      obtain ⟨hfailed, halike, htwin⟩ := around.deliver_alike hworld hrun 0
        ⟨.text, menu.promptText around run₀.toLevel prompt, none⟩ menu.onError
      revert hfailed halike htwin
      rcases world.act (around.deliver run 0
        ⟨.text, menu.promptText around run₀.toLevel prompt, none⟩ menu.onError) with
        ⟨⟨failed, delivered⟩, after⟩
      rcases world₀.act (around.deliver run₀ 0
        ⟨.text, menu.promptText around run₀.toLevel prompt, none⟩ menu.onError) with
        ⟨⟨failed₀, delivered₀⟩, after₀⟩
      intro hfailed halike htwin
      obtain rfl : failed = failed₀ := hfailed
      cases failed with
      | some outcome => exact ⟨rfl, halike, htwin⟩
      | none => exact menu.wait_alike htwin halike

end Menu

theorem assignStep_alike (queue : String) (onError : OnError) (around : Surroundings)
    (hworld : world.Twin world₀) (hrun : run.Alike run₀) :
    Matches (world.act (assignStep queue onError around run))
      (world₀.act (assignStep queue onError around run₀)) := by
  have hrender := around.render_alike hrun.level queue
  have hcontact := hrun.level.contactId
  unfold assignStep
  dsimp only
  rw [hrender, hcontact]
  split
  · rw [World.act_bind, World.act_bind]
    cases onError with
    | proceed => exact ⟨rfl, hrun.onLevel (hrun.level.note rfl), hworld⟩
    | abort => exact ⟨rfl, hrun.onLevel (hrun.level.note rfl), hworld⟩
  · obtain ⟨hanswer, htwin⟩ := hworld.assign run₀.contactId (around.render run₀.toLevel queue)
    rw [World.act_bind, World.act_bind, World.act_assign, World.act_assign]
    revert hanswer htwin
    rcases world.assign run₀.contactId (around.render run₀.toLevel queue) with ⟨result, after⟩
    rcases world₀.assign run₀.contactId (around.render run₀.toLevel queue) with ⟨result₀, after₀⟩
    intro hanswer htwin
    obtain rfl : result = result₀ := hanswer
    cases result with
    | ok _ => exact ⟨rfl, hrun.onLevel (hrun.level.note rfl), htwin⟩
    | error e => cases onError <;> exact ⟨rfl, hrun.onLevel (hrun.level.note rfl), htwin⟩

theorem conditionStep_alike (rules : List Condition.Rule) (otherwise : Option NodeId)
    (around : Surroundings) (hrun : run.Alike run₀) :
    conditionStep rules otherwise around run = conditionStep rules otherwise around run₀ := by
  unfold conditionStep
  rw [hrun.level.contactId, hrun.level.contact, hrun.level.vars]

/-- A step without delays of a node that runs no other flow does the same in twins. -/
theorem Behaviour.step_alike {behaviour : Behaviour} (hplain : behaviour.isSubflow = false)
    (hscript : behaviour.isScripted = false) (hmoves : behaviour.makesDelay = false)
    (around : Surroundings) (hworld : world.Twin world₀) (hrun : run.Alike run₀)
    (payload : Option Payload) :
    Matches (world.act (behaviour.step around run payload))
      (world₀.act (behaviour.step around run₀ payload)) := by
  cases behaviour with
  | start => exact ⟨rfl, hrun, hworld⟩
  | content sequence => simp [makesDelay] at hmoves
  | menu question => exact question.step_alike hworld hrun payload
  | delay millis => simp [makesDelay] at hmoves
  | condition rules otherwise =>
      refine ⟨?_, hrun, hworld⟩
      exact congrArg Outcome.nameless (conditionStep_alike rules otherwise around hrun)
  | assignQueue queue onError =>
      have h := assignStep_alike queue onError around hworld hrun
      exact h
  | subflow flow => simp [isSubflow] at hplain
  | scripted script => simp [isScripted] at hscript
  | unknown kind => exact ⟨rfl, hrun.onLevel (hrun.level.note rfl), hworld⟩

end Dialogue
