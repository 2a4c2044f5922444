import Dialogue.Proofs.Drive.Part
import Dialogue.Proofs.Drive.Steps
import Dialogue.Proofs.Step.Asking

/-!
# Who asks for what in a drive

The nodes of all levels of a run ask the same collaborators.  `Leg.Asks` tells
their calls apart: it goes along a stretch of a drive, says at each step of a
node what the collaborators were asked in it, and whose step it was.  All that
they were asked in between is told of some node.
-/

namespace Dialogue

/-- A call to a collaborator, with the step of a node in which it was made. -/
structure Asked where
  /-- What the step could see besides the run. -/
  around : Surroundings
  behaviour : Behaviour
  /-- The level of the node as the step began. -/
  level : Level
  /-- The part that the call is about. -/
  part : Nat
  delivery : Delivery

namespace Asked

/-- The trace that a call should leave: a note of its outcome on the visit that went on when it was
made. -/
def trace (asked : Asked) : Trace :=
  ⟨asked.level.history.length, asked.level.node, asked.delivery.note asked.part⟩

/-- A call that a node may make. -/
def Fits (asked : Asked) : Prop :=
  asked.behaviour.Makes asked.around asked.level asked.part asked.delivery

end Asked

/-- What a level asks for in a step of its node, about one part after the other from the one where
it has got to. -/
def Level.asking (level : Level) (around : Surroundings) (behaviour : Behaviour)
    (deliveries : List Delivery) : List Asked :=
  (deliveries.zipIdx level.cursor).map fun (delivery, part) =>
    ⟨around, behaviour, level, part, delivery⟩

theorem Level.asking_delivery (level : Level) (around : Surroundings) (behaviour : Behaviour)
    (deliveries : List Delivery) :
    (level.asking around behaviour deliveries).map Asked.delivery = deliveries := by
  rw [asking, List.map_map]
  exact List.zipIdx_map_fst _ _

namespace Drive

/-- What the nodes of all levels ask for in a stretch of a drive, in order. -/
inductive Leg.Asks (bounds : Bounds) : Leg → List Asked → Prop
  /-- No node is stepped any more. -/
  | halt {leg} (isOver : leg.phase.IsOver leg.run) (goes : leg.Goes bounds) : Asks bounds leg []
  /-- A node takes a step of its own. -/
  | plain {graph left payload world run node outcome stepped world₁ world' run' deliveries asked}
      (hnode : graph.find? run.node = some node)
      (hplain : node.behaviour.isSubflow = false)
      (hstep : world.act (node.behaviour.step (alone bounds node) run payload) =
        ((outcome, stepped), world₁))
      (asks : world.Asks deliveries world₁)
      (rest : Asks bounds ⟨.leave graph left outcome, world₁, stepped, world', run'⟩ asked) :
      Asks bounds ⟨.walk graph (left + 1) payload, world, run, world', run'⟩
        (run.toLevel.asking (alone bounds node) node.behaviour deliveries ++ asked)
  /-- A nested run is driven, and the run that waits for it goes on. -/
  | nest {graph left payload world run node flow waiting lower world' run' within asked}
      (hosts : Leg.Hosts bounds ⟨.walk graph (left + 1) payload, world, run, world', run'⟩ waiting
        lower)
      (hnode : graph.find? waiting.node = some node)
      (hflow : node.behaviour = .subflow flow)
      (drive : Asks bounds lower within)
      (rest : Asks bounds
        ⟨.leave graph left
            (Subflow.settle flow (alone bounds node) (waiting.withChild lower.run')).1,
          lower.world', (Subflow.settle flow (alone bounds node) (waiting.withChild lower.run')).2,
          world', run'⟩ asked) :
      Asks bounds ⟨.walk graph (left + 1) payload, world, run, world', run'⟩ (within ++ asked)
  /-- Everything else is done without asking anyone. -/
  | quiet {first second asked} (next : first.Then bounds second)
      (alone : ∀ waiting lower, ¬first.Hosts bounds waiting lower)
      (still : second.world.ledger = first.world.ledger) (rest : Asks bounds second asked) :
      Asks bounds first asked

variable {bounds : Bounds} {leg : Leg} {asked : List Asked}

/-- What is asked for in a stretch is asked for in a drive that goes so. -/
theorem Leg.Asks.goes (h : leg.Asks bounds asked) : leg.Goes bounds := by
  induction h with
  | halt isOver goes => exact goes
  | plain hnode hplain hstep asks rest ih => exact .plain hnode hplain hstep ih
  | nest hosts hnode hflow drive rest ihDrive ih => exact hosts.goes ihDrive
  | quiet next alone still rest ih => exact next.goes ih

/-- Every course says who asks for what. -/
theorem Course.asks {phase : Phase} {world world' : World} {run run' : Run}
    (h : Course bounds phase world run world' run') :
    ∃ asked, Leg.Asks bounds ⟨phase, world, run, world', run'⟩ asked := by
  induction h with
  | enter rest ih =>
      obtain ⟨asked, hrest⟩ := ih
      exact ⟨asked, .quiet .enter (fun _ _ hosts => nomatch hosts) rfl hrest⟩
  | wake rest ih =>
      obtain ⟨asked, hrest⟩ := ih
      exact ⟨asked, .quiet .wake (fun _ _ hosts => nomatch hosts) rfl hrest⟩
  | exhausted => exact ⟨[], .halt (.inl rfl) .exhausted⟩
  | missing hnode => exact ⟨[], .halt (.inr hnode) (.missing hnode)⟩
  | @plain graph left payload world run node outcome stepped world₁ world' run' hnode hplain hstep
      rest ih =>
      obtain ⟨asked, hrest⟩ := ih
      obtain ⟨deliveries, hasks⟩ :=
        world.asks_act (node.behaviour.step (alone bounds node) run payload)
      rw [hstep] at hasks
      exact ⟨_, .plain hnode hplain hstep hasks hrest⟩
  | tooDeep hnode hflow hdepth rest ih =>
      obtain ⟨asked, hrest⟩ := ih
      refine ⟨asked, .quiet (.tooDeep hnode hflow hdepth) (fun _ _ hosts => ?_) rfl hrest⟩
      cases hosts with
      | nest hnode' hflow' hdepth' => omega
  | unloadable hnode hflow hdepth hlook rest ih =>
      obtain ⟨asked, hrest⟩ := ih
      refine ⟨asked, .quiet (.unloadable hnode hflow hdepth hlook) (fun _ _ hosts => ?_) rfl
        hrest⟩
      cases hosts with
      | nest hnode' hflow' hdepth' hlook' =>
          obtain rfl := Option.some.inj (hnode.symm.trans hnode')
          obtain rfl := Behaviour.subflow.inj (hflow.symm.trans hflow')
          simp [hlook] at hlook'
  | nest hnode hflow hdepth hlook drive rest ihDrive ih =>
      obtain ⟨within, hdrive⟩ := ihDrive
      obtain ⟨asked, hrest⟩ := ih
      exact ⟨_, .nest (.nest hnode hflow hdepth hlook rest) hnode hflow hdrive hrest⟩
  | orphan hnode hflow hnested rest ih =>
      obtain ⟨asked, hrest⟩ := ih
      refine ⟨asked, .quiet (.orphan hnode hflow hnested) (fun _ _ hosts => ?_) rfl hrest⟩
      cases hosts with
      | pass hnode' hflow' hnested' => simp [hnested] at hnested'
  | lost hnode hflow hnested hlook rest ih =>
      obtain ⟨asked, hrest⟩ := ih
      refine ⟨asked, .quiet (.lost hnode hflow hnested hlook) (fun _ _ hosts => ?_) rfl hrest⟩
      cases hosts with
      | pass hnode' hflow' hnested' hlook' =>
          obtain ⟨rfl, rfl⟩ := List.cons.inj (hnested.symm.trans hnested')
          simp [hlook] at hlook'
  | pass hnode hflow hnested hlook drive rest ihDrive ih =>
      obtain ⟨within, hdrive⟩ := ihDrive
      obtain ⟨asked, hrest⟩ := ih
      exact ⟨_, .nest (.pass hnode hflow hnested hlook rest) hnode hflow hdrive hrest⟩
  | go hnext rest ih =>
      obtain ⟨asked, hrest⟩ := ih
      exact ⟨asked, .quiet (.go hnext) (fun _ _ hosts => nomatch hosts) rfl hrest⟩
  | astray hnext => exact ⟨[], .halt hnext (.astray hnext)⟩
  | complete => exact ⟨[], .halt trivial .complete⟩
  | suspend => exact ⟨[], .halt trivial .suspend⟩
  | fail => exact ⟨[], .halt trivial .fail⟩

/-- Once no node is stepped any more, nobody is asked anything and the level ends without a trace of
a call. -/
theorem Course.of_over {phase : Phase} {world world' : World} {run run' : Run}
    (h : Course bounds phase world run world' run') (hover : phase.IsOver run) :
    world'.ledger = world.ledger ∧ run'.nested = run.nested ∧
      run.toLevel.Unmarked run'.toLevel := by
  cases h with
  | enter | wake => exact hover.elim
  | exhausted | missing | astray | fail => exact ⟨rfl, rfl, .fail _ _ _ _⟩
  | complete | suspend => exact ⟨rfl, rfl, .of_history rfl rfl rfl⟩
  | plain hnode | tooDeep hnode | unloadable hnode | nest hnode | orphan hnode | lost hnode
  | pass hnode =>
      rcases hover with hnone | hmissing
      · cases hnone
      · simp [hnode] at hmissing
  | go hnext =>
      change _ = false at hover
      simp [hnext] at hover

/-- Nobody is asked anything before a nested run is driven. -/
theorem Leg.Hosts.ledger {host lower : Leg} {waiting : Run} (h : host.Hosts bounds waiting lower) :
    lower.world.ledger = host.world.ledger := by
  cases h <;> rfl

/-- The collaborators are asked for what the nodes ask for, and for nothing else. -/
theorem Leg.Asks.ledger (h : leg.Asks bounds asked) :
    leg.world.Asks (asked.map Asked.delivery) leg.world' := by
  induction h with
  | halt isOver goes => exact World.asks_nothing (Course.of_over goes isOver).1
  | plain hnode hplain hstep asks rest ih =>
      rw [List.map_append, Level.asking_delivery]
      exact asks.trans ih
  | nest hosts hnode hflow drive rest ihDrive ih =>
      rw [List.map_append]
      exact (World.asks_nothing hosts.ledger).trans (ihDrive.trans ih)
  | quiet next alone still rest ih =>
      rw [← next.same.1]
      exact (World.asks_nothing still).trans ih

end Drive

end Dialogue
