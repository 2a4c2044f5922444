import Dialogue.Proofs.Engine.Endings

/-!
# Events and histories

Whatever is ordered, the histories of the stored runs and the events that the
observers were told are the same story, for outermost and nested runs alike
(`Chronicle`).

An order tells of a run at most once, up to one entry that settles it, and it
tells of every run that it drives: of the one that it starts or wakes, of the
levels that its event is handed down to, and of those that begin on the way
(`Reports`).  `Narrates` puts this together with what comes to a drive at all.
-/

namespace Dialogue.World

variable {world world' : World} {order : Order} {leg : Drive.Leg}

/-- The histories of the stored runs and what the observers were told are the same story. -/
structure Chronicle (world : World) : Prop where
  /-- Every level has entered the nodes of its history. -/
  entered : ∀ run, world.store.find? run.id = some run → ∀ level ∈ run.levels,
    (world.tale level.id).entered = level.history.nodes
  /-- A nested run that has ended has entered the nodes that the note about it tells. -/
  ended : ∀ run, world.store.find? run.id = some run → ∀ level ∈ run.levels,
    ∀ flow id status nodes, .subflow flow id status nodes ∈ level.history.remarks →
      (world.tale id).entered = nodes
  /-- In the tale of any run a node is completed directly after it was entered or waited at. -/
  orderly : ∀ id, (world.tale id).Orderly
  /-- The end of a stored run is told once and last, if it has ended. -/
  terminal : ∀ run, world.store.find? run.id = some run → run.isTerminal = true →
    (world.tale run.id).Over
  /-- Otherwise no level of it was told to have ended, and each was last told to wait where it
  is. -/
  unended : ∀ run, world.store.find? run.id = some run → run.isTerminal = false →
    ∀ level ∈ run.levels, level.Rests world

theorem Chronicled.chronicle (h : world.Chronicled) : world.Chronicle where
  entered := fun run hrun => (h.runs run hrun).story.entered
  ended := by
    intro run hrun level hlevel flow id status nodes hnote
    exact ((h.runs run hrun).story.cited level hlevel id nodes ⟨flow, status, hnote⟩).2.1
  orderly := h.told.tales
  terminal := fun run hrun => (h.runs run hrun).over
  unended := by
    intro run hrun hunended
    rcases (h.runs run hrun).ends with ⟨-, hrests⟩ | ⟨hterminal, -⟩
    · exact List.forall_mem_cons.mpr ⟨hrests, (h.runs run hrun).rests⟩
    · simp [hunended] at hterminal

/-- What a drive of an order tells. -/
structure Reports (world : World) (order : Order) (leg : Drive.Leg) (world' : World) : Prop where
  /-- Every drive that it is made of, however deeply it is nested, tells of its run up to one entry
  that settles it, and this says how the run now stands. -/
  parts : ∀ outer part, Drive.Part world.bounds leg outer part →
    Tale.Spoke (part.world.tale part.run.id) (part.world'.tale part.run.id) ∧
      (part.world'.tale part.run.id).status? = some part.run'.status
  /-- So does the order as a whole, of the run that it starts or wakes -/
  own : Tale.Spoke (world.tale leg.run.id) (world'.tale leg.run.id)
  /-- and of every level that its event is handed down to. -/
  reached : ∀ level ∈ world.reached order leg.run,
    Tale.Spoke (world.tale level.id) (world'.tale level.id)
  /-- The run is stored as it was told to stand. -/
  stored : world'.store.find? leg.run.id = some leg.run'
  status : (world'.tale leg.run.id).status? = some leg.run'.status
  /-- Nothing is told of any other run that was there. -/
  others : ∀ id, world.Named id → id ≠ leg.run.id →
    (∀ level ∈ world.reached order leg.run, level.id ≠ id) → world'.tale id = world.tale id

/-- Before a drive of an order its run goes on, and has come to its node if it is resumed. -/
theorem Drives.scene (h : world.Drives order leg) (hworld : world.Chronicled) :
    leg.phase.Scene leg.world leg.run := by
  cases h with
  | begin look place course done =>
      exact .begun (hworld.told.silent (still_of_look look).toSilent) rfl rfl rfl
  | @resume _ run event suspension graph first second run' wakes stored accepted timely look course
      done =>
      have hstill := (still_of_look look).trans (still_unalarmed run.id)
      have hpaused := (paused_of_checkResumable accepted).1
      exact ((hworld.runs run stored).silent hstill.toSilent).underway
        (by simp [Level.isTerminal, hpaused, Status.isTerminal])

theorem Accounted.reports (h : world.Accounted) (hworld : world.Ready)
    (hdrives : world.Drives order leg) :
    world.Reports order leg (world.carryOut order) := by
  have hleg := hdrives.encloses h.numbered
  have hgoes : Drive.Course world.bounds leg.phase leg.world leg.run leg.world' leg.run' :=
    hleg.goes
  have hscene := hdrives.scene h.chronicled
  have hspoke := (hgoes.recounts hscene).spoke
  rw [hleg.before, ← hleg.after] at hspoke
  refine ⟨?_, hspoke, ?_, ?_, ?_, ?_⟩
  · intro outer part hpart
    have hcourse : Drive.Course world.bounds part.phase part.world part.run part.world' part.run' :=
      hpart.inner
    exact ⟨hpart.spoke hscene, hcourse.status⟩
  · intro level hlevel
    rw [hdrives.reached] at hlevel
    exact ((h.chronicled.carryOut hworld order).2.spoken level.id).resolve_left
      (hleg.reached_told hlevel)
  · rw [hleg.store, if_pos hgoes.sameRun.id]
  · rw [hleg.after]
    exact hgoes.status
  · intro id hnamed hother hreached
    rw [hdrives.reached] at hreached
    exact hleg.unreached hnamed hother hreached

/-- A start drives a run that begins. -/
theorem Drives.begins {request : RunRequest} (h : world.Drives (.start request) leg) :
    ¬world.Named leg.run.id := by
  cases h with
  | @begin _ graph node first second run look place course done =>
      exact mt (still_of_look look).toSilent.named_iff.mpr first.newRun_not_named
  | resume wakes stored accepted timely look course done => cases wakes

/-- An order is told of as it is carried out. -/
structure Narrates (world : World) (order : Order) : Prop where
  adds : world.Adds (world.carryOut order)
  reports : ∀ leg, world.Drives order leg → world.Reports order leg (world.carryOut order)
  /-- A start at a node of a flow that loads comes to a drive of a run that begins. -/
  starts : ∀ request graph node, order = .start request → world.flow request.flow = .ok graph →
    Engine.startNode graph request = .ok node →
    ∃ leg, world.Drives order leg ∧ ¬world.Named leg.run.id
  /-- An event that wakes a stored run comes to a drive of this run. -/
  wakes : ∀ run, world.store.find? run.id = some run → world.wakes order run = true →
    ∃ leg, world.Drives order leg ∧ leg.run = run

theorem Accounted.narrates (h : world.Accounted) (hworld : world.Ready) (order : Order) :
    world.Narrates order where
  adds := (h.chronicled.carryOut hworld order).2
  reports := fun leg hdrives => h.reports hworld hdrives
  starts := by
    rintro request graph node rfl hflow hplace
    obtain ⟨leg, hdrives⟩ := drives_start hworld hflow hplace
    exact ⟨leg, hdrives, hdrives.begins⟩
  wakes := by
    intro run hrun hwakes
    obtain ⟨event, suspension, graph, hbrings, haccepted, htimely, hflow⟩ := wakes_iff.mp hwakes
    exact drives_resume hworld hbrings hrun haccepted htimely hflow

/-- Whatever was ordered in a world that was opened with nothing but flows, the events that the
observers were told and the histories of the runs tell the same story; and whatever is ordered next
adds at most one drive to the tale of every run, settled by its last entry alone, and leaves what
there is of the histories as it is, but for notes on the last visit.  Exactly one drive is added to
the tale of the run that is started or woken, of every level that the event is handed down to, and
of every run that begins. -/
theorem events_and_histories_agree (settings : Settings) (start : Instant)
    (definitions : List Flow) (send : Ledger → String → Message → Except DispatchError String)
    (assign : Ledger → String → String → Except AssignmentError Unit) (supply : Supply)
    (orders : List (Instant × Order)) :
    let world := (opened settings start definitions send assign supply).after orders
    world.Chronicle ∧ ∀ now order, (world.atTime now).Narrates order := by
  intro world
  have hready := ready_opened settings start definitions send assign supply
  have hworld : world.Accounted :=
    accounted_after .standard settings start definitions send assign supply orders
  refine ⟨hworld.chronicled.chronicle, fun now order => ?_⟩
  exact (hworld.atTime now).narrates ((ready_after hready orders).atTime now) order

/-- A start tells of the run and of the nested one that begins with it; the reply that both wait for
is handed down, and so both are told of again. -/
theorem events_and_histories_agree_sample :
    let start : Order := .start { flow := "outer", contactId := "ann" }
    let before := sample.after sampleOrders
    let world := before.atTime ⟨1, 0⟩
    let outer : Identifier := ⟨sample.supply.firstRun⟩
    let inner : Identifier := ⟨sample.supply.firstRun + 1⟩
    let reply : Order := .resume outer (.reply "yes")
    Tale.Spoke (sample.tale outer) ((sample.carryOut start).tale outer) ∧
    Tale.Spoke (sample.tale inner) ((sample.carryOut start).tale inner) ∧
    (∃ run, before.store.find? run.id = some run ∧ run.levels.map Level.id = [outer, inner] ∧
      ∀ level ∈ run.levels, level.Rests before ∧
        (before.tale level.id).entered = level.history.nodes) ∧
    (∃ leg level, world.Drives reply leg ∧ leg.run.id = outer ∧
      world.reached reply leg.run = [level] ∧ level.id = inner ∧
      Tale.Spoke (world.tale outer) ((world.carryOut reply).tale outer) ∧
      Tale.Spoke (world.tale inner) ((world.carryOut reply).tale inner)) ∧
    (world.carryOut reply).tale inner = [("begin", .nodeEntered), ("begin", .nodeCompleted),
      ("ask", .nodeEntered), ("ask", .runPaused (.reply "ask")), ("ask", .nodeCompleted),
      ("ask", .runCompleted)] := by
  intro start before world outer inner reply
  have hwaits : (world.store.find? outer).any (fun run => world.wakes reply run &&
      !run.isTerminal && decide (run.levels.map Level.id = [outer, inner]) &&
      decide ((world.reached reply run).map Level.id = [inner])) = true := by
    decide +kernel
  have hnames : (sample.carryOut start).Named outer ∧ (sample.carryOut start).Named inner :=
    ⟨⟨0, by decide +kernel, by decide +kernel⟩, ⟨1, by decide +kernel, by decide +kernel⟩⟩
  have hunnamed (id : Identifier) : ¬sample.Named id := by
    rintro ⟨n, hn, -⟩
    exact absurd hn (Nat.not_lt_zero n)
  have htale : (world.carryOut reply).tale inner = [("begin", .nodeEntered),
      ("begin", .nodeCompleted), ("ask", .nodeEntered), ("ask", .runPaused (.reply "ask")),
      ("ask", .nodeCompleted), ("ask", .runCompleted)] := by
    decide +kernel
  obtain ⟨run, hrun, htest⟩ := (Option.any_eq_true _ _).mp hwaits
  simp only [Bool.and_eq_true, decide_eq_true_eq, Bool.not_eq_true'] at htest
  obtain ⟨⟨⟨hwakes, hunended⟩, hids⟩, hreached⟩ := htest
  obtain ⟨level, hlevel, hinner⟩ := List.map_eq_singleton_iff.mp hreached
  have hid : run.id = outer := Store.id_of_find? hrun
  have hstored : before.store.find? run.id = some run := hid ▸ hrun
  have hfirst : sample.Narrates start := (events_and_histories_agree {} ⟨0, 0⟩
    [.calling "outer" "inner", .asking "inner"] (fun _ _ _ => .ok "sent") (fun _ _ _ => .ok ())
    {} []).2 ⟨0, 0⟩ start
  obtain ⟨hchronicle, hnext⟩ : before.Chronicle ∧ ∀ now order, (before.atTime now).Narrates order :=
    events_and_histories_agree {} ⟨0, 0⟩ [.calling "outer" "inner", .asking "inner"]
      (fun _ _ _ => .ok "sent") (fun _ _ _ => .ok ()) {} sampleOrders
  obtain ⟨leg, hdrives, rfl⟩ := (hnext ⟨1, 0⟩ reply).wakes run hstored hwakes
  have hreports := (hnext ⟨1, 0⟩ reply).reports leg hdrives
  refine ⟨hfirst.adds.begun outer (hunnamed _) hnames.1,
    hfirst.adds.begun inner (hunnamed _) hnames.2,
    ⟨leg.run, hstored, hids, fun level hlevel => ?_⟩,
    ⟨leg, level, hdrives, hid, hlevel, hinner, hid ▸ hreports.own, ?_⟩, htale⟩
  · exact ⟨hchronicle.unended leg.run hstored hunended level hlevel,
      hchronicle.entered leg.run hstored level hlevel⟩
  · exact hinner ▸ hreports.reached level (hlevel ▸ .head _)

end Dialogue.World
