import Dialogue.Proofs.Delay.Loading
import Dialogue.Proofs.Delay.Simulation
import Dialogue.Proofs.Engine.Conversation
import Dialogue.Proofs.Engine.Shape

/-!
# Conversations with and without delays

Delays make no difference to a conversation but to its length in time: the same
is asked of the collaborators, and the run ends as it ends without them.  Beside
every run without delays goes one with them, which is woken between two replies
as often as it has to wait.
-/

namespace Dialogue

/-! ## What twins do not notice -/

namespace World.Idle

theorem unalarmed (world : World) (run : Identifier) : world.Idle (world.unalarmed run) :=
  ⟨rfl, rfl, rfl⟩

theorem awaiting (world : World) (run : Identifier) (suspension : Suspension) :
    world.Idle (world.awaiting run suspension) := by
  unfold World.awaiting
  cases suspension.resumeAt? <;> cases suspension.expiresAt <;> exact ⟨rfl, rfl, rfl⟩

theorem persist (world : World) (run : Run) : world.Idle (world.persist run) := by
  have hkeep : world.Idle (world.keep run) := ⟨rfl, rfl, rfl⟩
  unfold World.persist
  split
  · exact hkeep.trans (.awaiting _ _ _)
  · exact hkeep.trans (.unalarmed _ _)

theorem terminate (world : World) (run : Run) (kind : FailureKind) (message : String) :
    world.Idle (world.terminate run kind message).2 := ⟨rfl, rfl, rfl⟩

end World.Idle

/-! ## Waking -/

/-- A level that sleeps can be resumed with the end of its timer. -/
theorem Level.Sleeps.checkResumable {run : Run} {suspension : Suspension}
    (h : run.Sleeps suspension) :
    Engine.checkResumable run (.timer suspension.token) = .ok suspension := by
  refine World.checkResumable_eq_ok.mpr ⟨h.paused, h.pending, ?_, ?_⟩
  · simp [Wakeup.timer]
  · simp [Suspension.accepts, h.timer, Wakeup.timer, Payload.isTimer]

/-- Every conversation from another world on is one from this world on: no reply is needed to
get there. -/
def World.ComesTo (id : Identifier) (world world' : World) : Prop :=
  ∀ replies last, Converses id world' replies last → Converses id world replies last

/-- A stored run gets by itself where it gets to in time. -/
theorem Drive.InTime.comesTo {bounds : Bounds} {post : World → Run → Prop} {world : World}
    {run : Run} (h : InTime bounds post world run) (hbounds : world.bounds = bounds)
    (hworld : world.Ready) :
    ∃ world' run', post world' run' ∧ world.Onward world' ∧ run'.id = run.id ∧
      World.ComesTo run.id (world.persist run) (world'.persist run') := by
  induction h with
  | @here world run hpost => exact ⟨world, run, hpost, .refl _, rfl, fun _ _ h => h⟩
  | @tick world run graph suspension sleeps flow next ih =>
      have hkept := world.find?_persist run
      have honward := world.onward_persist run
      have hidle := World.Idle.persist world run
      have hoverdue : suspension.isOverdue (world.persist run).bounds.now = false := by
        simp [Suspension.isOverdue, sleeps.unlimited]
      have hlook : (world.persist run).look run.flow =
          (.ok graph, ((world.persist run).look run.flow).2) := by
        refine Prod.ext ?_ rfl
        change (world.persist run).flow run.flow = _
        rw [hidle.flow, flow]
      have hlater := ((world.persist run).later_look run.flow).trans
        (World.later_unalarmed run.id)
      have hidle' := (hidle.trans (.look _ run.flow)).trans (.unalarmed _ run.id)
      obtain ⟨second, run', drive, hdriven⟩ :=
        (((world.persist run).look run.flow).2.unalarmed run.id).course_driven graph run
          (some .elapsed)
      rw [hlater.bounds, honward.bounds, hbounds] at drive
      have hsecond := (honward.trans hlater.onward).trans drive.later.onward
      have hcarried : (world.persist run).carryOut (.resume run.id (.timer suspension.token)) =
          second.persist run' := by
        rw [World.carryOut_resume (hworld.onward honward) hkept,
          Engine.resumed_driven sleeps.checkResumable hoverdue hlook]
        exact congrArg Prod.snd hdriven
      obtain ⟨world'', run'', hpost, hon, hid, hcomes⟩ := ih _ hidle' second run' drive
        (hsecond.bounds.trans hbounds) (hworld.onward hsecond)
      have hsame : run'.id = run.id := drive.sameRun.id
      refine ⟨world'', run'', hpost, hsecond.trans hon, hid.trans hsame, ?_⟩
      intro replies last hrest
      refine .next hkept (Level.nextEvent?_of_timer sleeps.pending sleeps.timer replies) ?_
      rw [hcarried]
      rw [hsame] at hcomes
      exact hcomes replies last hrest

/-! ## Side by side -/

namespace World

/-- A stored run that rests as a drive leaves it. -/
structure Rests (world : World) (run : Run) : Prop where
  ready : world.Ready
  stored : world.store.find? run.id = some run
  settled : run.Settled world.flow world.bounds.settings

/-- A stored run beside one that rests without delays. -/
structure Abreast (world : World) (run : Run) (world₀ : World) (run₀ : Run) : Prop where
  rests : world₀.Rests run₀
  ready : world.Ready
  bounds : world.bounds = world₀.bounds
  stored : world.store.find? run.id = some run
  twin : world.Twin world₀
  alike : run.Alike run₀

/-- The world without delays has a run that rests, and the other world comes to have one beside
it, unless it has made too many steps. -/
def Advances (id id₀ : Identifier) (world world₀ : World) : Prop :=
  ∃ run₀, world₀.Rests run₀ ∧ run₀.id = id₀ ∧
    (¬Drive.Exceeded run₀ → ∃ world' run, world'.Abreast run world₀ run₀ ∧ run.id = id ∧
      ComesTo id world world')

variable {world world₀ : World} {run run₀ : Run}

/-- A drive ends with a run that rests. -/
theorem rests_driven {graph : Graph} {payload : Option Payload} (hworld : world.Ready)
    (hfit : Drive.Fit world.flow world.bounds.settings (.level graph payload) run) :
    (world.driven graph run payload).2.Rests (world.driven graph run payload).1 := by
  obtain ⟨after, run', drive, hdriven⟩ := world.course_driven graph run payload
  have honward := drive.later.onward.trans (after.onward_persist run')
  have hflow : (after.persist run').flow = world.flow :=
    (World.Idle.persist after run').flow.trans drive.later.flow
  rw [hdriven]
  refine ⟨hworld.onward honward, after.find?_persist run', ?_⟩
  rw [hflow, honward.bounds]
  exact drive.settles rfl hfit

theorem id_driven (world : World) (graph : Graph) (run : Run) (payload : Option Payload) :
    (world.driven graph run payload).1.id = run.id := by
  obtain ⟨after, run', drive, hdriven⟩ := world.course_driven graph run payload
  rw [hdriven]
  exact drive.sameRun.id

/-- Runs that are alike are driven to rest side by side. -/
theorem Twin.driven (h : world.Twin world₀) (hworld : world.Ready) (hworld₀ : world₀.Ready)
    (hbounds : world.bounds = world₀.bounds) (halike : run.Alike run₀) {graph : Graph}
    {payload : Option Payload} (hflow : world.flow run.flow = .ok graph)
    (hfit : Drive.Fit world₀.flow world₀.bounds.settings (.level graph.undelayed payload) run₀) :
    Advances run.id run₀.id (world.driven graph run payload).2
      (world₀.driven graph.undelayed run₀ payload).2 := by
  have hrests := rests_driven hworld₀ hfit
  refine ⟨_, hrests, world₀.id_driven _ _ _, fun hlimit => ?_⟩
  -- The drive with delays is simulated first, and then woken until it has caught up.
  obtain ⟨after₀, ended₀, drive₀, hdriven₀⟩ := world₀.course_driven graph.undelayed run₀ payload
  rw [hdriven₀] at hlimit hrests ⊢
  obtain ⟨after, ended, drive, htime⟩ :=
    drive₀.leadsTo rfl hfit hlimit (.level hflow) h halike
  rw [← hbounds] at drive htime
  have honward := drive.later.onward
  obtain ⟨world', run', ⟨htwin, halike'⟩, hon, hid, hcomes⟩ :=
    htime.comesTo honward.bounds (hworld.onward honward)
  have hpersist := (honward.trans hon).trans (world'.onward_persist run')
  have hpersist₀ := drive₀.later.onward.trans (after₀.onward_persist ended₀)
  have hsame : ended.id = run.id := drive.sameRun.id
  refine ⟨world'.persist run', run', ?_, hid.trans hsame, ?_⟩
  · exact
      { rests := hrests
        ready := hworld.onward hpersist
        bounds := by rw [hpersist.bounds, hpersist₀.bounds, hbounds]
        stored := world'.find?_persist run'
        twin := htwin.idle (.persist _ _) (.persist _ _)
        alike := halike' }
  · obtain ⟨after', ended', drive', hdriven⟩ := world.course_driven graph run payload
    obtain ⟨rfl, rfl⟩ := drive'.unique drive
    rw [hdriven, ← hsame]
    exact hcomes

/-! ## Replies -/

/-- Without delays nothing rests until a time. -/
theorem Rests.untimed (h : world₀.Rests run₀) (htwin : world.Twin world₀)
    {suspension : Suspension} (hpending : run₀.suspension = some suspension) :
    suspension.isTimer = false := by
  cases h.settled with
  | @waiting other steps waits hangs =>
      obtain rfl := Option.some.inj (hpending.symm.trans waits.pending)
      obtain ⟨behaviour, ⟨graph₀, node₀, hflow₀, hnode₀, rfl⟩, hpauses⟩ := hangs.innermost
      obtain ⟨graph, hflow, rfl⟩ := htwin.flow_of_ok hflow₀
      obtain ⟨node, hnode, rfl⟩ := Graph.find?_of_undelayed hnode₀
      exact (Behaviour.Pauses.of_undelayed hpauses
        ((htwin.standard _ _ hflow).node hnode)).2
  | completed status pending unfailed nested => simp [pending] at hpending
  | failed status pending failed nested => simp [pending] at hpending

/-- Two suspensions that differ in their tokens only wait for the same. -/
theorem accepts_nameless {suspension suspension₀ : Suspension}
    (h : suspension.nameless = suspension₀.nameless) :
    suspension.isTimer = suspension₀.isTimer ∧ suspension.accepts = suspension₀.accepts ∧
      suspension.isOverdue = suspension₀.isOverdue := by
  obtain ⟨token, reason, since, expiresAt⟩ := suspension
  obtain ⟨token₀, reason₀, since₀, expiresAt₀⟩ := suspension₀
  obtain ⟨-, rfl, rfl, rfl⟩ := Suspension.mk.inj h
  exact ⟨rfl, rfl, rfl⟩

/-- A level that does not wait until a time is given the next reply, or there is none. -/
theorem nextEvent?_untimed {level level₀ : Level} (halike : level.Alike level₀)
    (huntimed : ∀ suspension, level₀.suspension = some suspension → suspension.isTimer = false)
    (replies : List Payload) :
    (level.nextEvent? replies = none ∧ level₀.nextEvent? replies = none) ∨
      ∃ reply rest, replies = reply :: rest ∧
        level.nextEvent? replies = some (⟨none, reply⟩, rest) ∧
        level₀.nextEvent? replies = some (⟨none, reply⟩, rest) := by
  have hpending := halike.suspension
  unfold Level.nextEvent?
  cases hsuspension₀ : level₀.suspension with
  | none =>
      rw [hsuspension₀, Option.map_none, Option.map_eq_none_iff] at hpending
      rw [hpending]
      exact .inl ⟨rfl, rfl⟩
  | some suspension₀ =>
      rw [hsuspension₀] at hpending
      obtain ⟨suspension, hsuspension, hsame⟩ := Option.map_eq_some_iff.mp hpending
      have htimer₀ := huntimed suspension₀ hsuspension₀
      have htimer : suspension.isTimer = false := (accepts_nameless hsame).1.trans htimer₀
      rw [hsuspension]
      simp only [htimer, htimer₀, Bool.false_eq_true, if_false]
      cases replies with
      | nil => exact .inl ⟨rfl, rfl⟩
      | cons reply rest => exact .inr ⟨reply, rest, rfl, rfl, rfl⟩

/-- An event that is for no token in particular resumes a run if it resumes one that is alike. -/
theorem checkResumable_alike {run run' : Run} (halike : run.toLevel.Alike run'.toLevel)
    {reply : Payload} {suspension : Suspension}
    (h : Engine.checkResumable run ⟨none, reply⟩ = .ok suspension) :
    ∃ suspension', Engine.checkResumable run' ⟨none, reply⟩ = .ok suspension' ∧
      suspension.nameless = suspension'.nameless := by
  obtain ⟨hpaused, hpending, -, haccepts⟩ := checkResumable_eq_ok.mp h
  have hpending' := halike.suspension.symm
  rw [hpending] at hpending'
  obtain ⟨suspension', hsuspension', hsame⟩ := Option.map_eq_some_iff.mp hpending'
  refine ⟨suspension', checkResumable_eq_ok.mpr ⟨?_, hsuspension', rfl, ?_⟩, hsame.symm⟩
  · exact halike.status.symm.trans hpaused
  · rw [(accepts_nameless hsame).2.1]
    exact haccepts

/-- A run that is refused an event stays as it is. -/
theorem Abreast.refuse (h : world.Abreast run world₀ run₀) :
    Advances run.id run₀.id world world₀ :=
  ⟨run₀, h.rests, rfl, fun _ => ⟨world, run, h, rfl, fun _ _ h => h⟩⟩

/-- Runs that are terminated side by side rest side by side. -/
theorem Abreast.terminate (h : world.Abreast run world₀ run₀) (kind : FailureKind)
    (message : String) :
    Advances run.id run₀.id (world.terminate run kind message).2
      (world₀.terminate run₀ kind message).2 := by
  obtain ⟨hsame, -⟩ := Run.unwind_ended kind message world.bounds.now run.toLevel run.nested
  obtain ⟨hsame₀, hstatus, hpending, failure, hfailed⟩ :=
    Run.unwind_ended kind message world₀.bounds.now run₀.toLevel run₀.nested
  have halike := h.alike.terminate kind message world₀.bounds.now
  have hidle := World.Idle.terminate world run kind message
  have hidle₀ := World.Idle.terminate world₀ run₀ kind message
  have hkept (world : World) (run : Run) :
      (world.terminate run kind message).2.store.find?
          (run.terminate kind message world.bounds.now).id =
        some (run.terminate kind message world.bounds.now) ∧
      world.Onward (world.terminate run kind message).2 := by
    obtain ⟨earlier, hlater, heq⟩ := world.terminate_eq run kind message
    rw [heq]
    refine ⟨?_, hlater.onward.trans (earlier.onward_keep _)⟩
    change (earlier.store.put _).find? _ = _
    rw [Store.find?_put, if_pos rfl]
  obtain ⟨hstored, honward⟩ := hkept world run
  obtain ⟨hstored₀, honward₀⟩ := hkept world₀ run₀
  have hrests : (world₀.terminate run₀ kind message).2.Rests
      (run₀.terminate kind message world₀.bounds.now) :=
    ⟨h.rests.ready.onward honward₀, hstored₀, .failed hstatus hpending hfailed rfl⟩
  have habreast : (world.terminate run kind message).2.Abreast
      (run.terminate kind message world.bounds.now) (world₀.terminate run₀ kind message).2
      (run₀.terminate kind message world₀.bounds.now) :=
    { rests := hrests
      ready := h.ready.onward honward
      bounds := by rw [honward.bounds, honward₀.bounds, h.bounds]
      stored := hstored
      twin := h.twin.idle hidle hidle₀
      alike := by
        rw [h.bounds]
        exact halike }
  exact ⟨_, hrests, hsame₀.id, fun _ => ⟨_, _, habreast, hsame.id, fun _ _ h => h⟩⟩

/-- Runs side by side that are given the same reply come to rest side by side. -/
theorem Abreast.resume (h : world.Abreast run world₀ run₀) (reply : Payload) :
    Advances run.id run₀.id (world.carryOut (.resume run.id ⟨none, reply⟩))
      (world₀.carryOut (.resume run₀.id ⟨none, reply⟩)) := by
  rw [carryOut_resume h.ready h.stored, carryOut_resume h.rests.ready h.rests.stored]
  cases hchecked₀ : Engine.checkResumable run₀ ⟨none, reply⟩ with
  | error e₀ =>
      cases hchecked : Engine.checkResumable run ⟨none, reply⟩ with
      | error e =>
          unfold Engine.resumed
          rw [hchecked, hchecked₀]
          exact h.refuse
      | ok suspension =>
          obtain ⟨suspension₀, hok, -⟩ := checkResumable_alike h.alike.level hchecked
          cases hchecked₀.symm.trans hok
  | ok suspension₀ =>
      obtain ⟨suspension, hchecked, hsame⟩ := checkResumable_alike h.alike.level.symm hchecked₀
      have hoverdue : suspension.isOverdue world.bounds.now =
          suspension₀.isOverdue world₀.bounds.now := by
        rw [(accepts_nameless hsame).2.2, h.bounds]
      cases hoverdue₀ : suspension₀.isOverdue world₀.bounds.now with
      | true =>
          unfold Engine.resumed
          simp only [hchecked, hchecked₀, hoverdue, hoverdue₀, if_true]
          exact h.terminate .timeout Engine.expiredMessage
      | false =>
          obtain ⟨hpaused, hpending⟩ := paused_of_checkResumable hchecked₀
          cases h.rests.settled with
          | completed status pending => simp [pending] at hpending
          | failed status pending => simp [pending] at hpending
          | @waiting other steps waits hangs =>
              obtain ⟨behaviour, graph₀, node₀, hflow₀, -⟩ := hangs.stands
              obtain ⟨graph, hflow, rfl⟩ := h.twin.flow_of_ok hflow₀
              rw [← h.alike.level.flow] at hflow
              have hlook : world.look run.flow = (.ok graph, (world.look run.flow).2) :=
                Prod.ext hflow rfl
              have hlook₀ : world₀.look run₀.flow =
                  (.ok graph.undelayed, (world₀.look run₀.flow).2) := Prod.ext hflow₀ rfl
              rw [Engine.resumed_driven hchecked (hoverdue.trans hoverdue₀) hlook,
                Engine.resumed_driven hchecked₀ hoverdue₀ hlook₀]
              have hlater := (world.later_look run.flow).trans (later_unalarmed run.id)
              have hlater₀ := (world₀.later_look run₀.flow).trans (later_unalarmed run₀.id)
              refine Twin.driven ?_ (h.ready.onward hlater.onward)
                (h.rests.ready.onward hlater₀.onward) ?_ h.alike ?_ ?_
              · exact h.twin.idle ((World.Idle.look _ _).trans (.unalarmed _ _))
                  ((World.Idle.look _ _).trans (.unalarmed _ _))
              · rw [hlater.bounds, hlater₀.bounds, h.bounds]
              · rw [hlater.flow]
                exact hflow
              · rw [hlater₀.flow, hlater₀.bounds]
                exact ⟨hflow₀, steps, other, waits, hangs⟩

/-! ## Whole conversations -/

/-- A conversation without delays comes to an end, and one with delays comes to the same end unless
too many steps were made. -/
def Concludes (id id₀ : Identifier) (world world₀ : World) (replies : List Payload) : Prop :=
  ∃ last₀ final₀, Converses id₀ world₀ replies last₀ ∧ last₀.store.find? id₀ = some final₀ ∧
    (¬Drive.Exceeded final₀ → ∃ last final, Converses id world replies last ∧
      last.store.find? id = some final ∧ last.ledger = last₀.ledger ∧ final.Alike final₀)

/-- A run that has made too many steps waits no longer. -/
theorem Rests.ended (h : world₀.Rests run₀) (hexceeded : Drive.Exceeded run₀) :
    run₀.suspension = none := by
  obtain ⟨failure, hfailure, -⟩ := hexceeded
  cases h.settled with
  | waiting steps waits hangs => simp [waits.unfailed] at hfailure
  | completed status pending unfailed nested => exact pending
  | failed status pending failed nested => exact pending

/-- Once there is a run that rests, the conversation goes on reply by reply. -/
theorem Advances.concludes {id id₀ : Identifier} {world world₀ : World}
    (h : Advances id id₀ world world₀) (replies : List Payload) :
    Concludes id id₀ world world₀ replies := by
  obtain ⟨run₀, hrests, rfl, hbeside⟩ := h
  by_cases hexceeded : Drive.Exceeded run₀
  · have hover := Level.nextEvent?_of_none (hrests.ended hexceeded) replies
    exact ⟨world₀, run₀, .stop hrests.stored hover, hrests.stored,
      fun hlimit => absurd hexceeded hlimit⟩
  · obtain ⟨world', run, habreast, rfl, hcomes⟩ := hbeside hexceeded
    have huntimed : ∀ suspension, run₀.suspension = some suspension →
        suspension.isTimer = false := fun _ hpending => hrests.untimed habreast.twin hpending
    rcases nextEvent?_untimed habreast.alike.level huntimed replies with
      ⟨hover, hover₀⟩ | ⟨reply, rest, rfl, hnext, hnext₀⟩
    · exact ⟨world₀, run₀, .stop hrests.stored hover₀, hrests.stored, fun _ =>
        ⟨world', run, hcomes _ _ (.stop habreast.stored hover), habreast.stored,
          habreast.twin.ledger, habreast.alike⟩⟩
    · -- The reply is used up, so there are fewer of them left for what follows.
      obtain ⟨last₀, final₀, hconverses₀, hfinal₀, hconcludes⟩ :=
        (habreast.resume reply).concludes rest
      refine ⟨last₀, final₀, .next hrests.stored hnext₀ hconverses₀, hfinal₀, fun hlimit => ?_⟩
      obtain ⟨last, final, hconverses, hfinal, hledger, halike⟩ := hconcludes hlimit
      exact ⟨last, final, hcomes _ _ (.next habreast.stored hnext hconverses), hfinal,
        hledger, halike⟩
termination_by replies.length

/-- Two results of a start that differ in names only. -/
def AlikeResults : Except FlowError Run → Except FlowError Run → Prop
  | .ok run, .ok run₀ => run.Alike run₀
  | .error e, .error e₀ => e = e₀
  | _, _ => False

/-- Removing delays leaves the start of a flow where it is. -/
theorem startNode_undelayed (graph : Graph) (request : RunRequest) :
    Engine.startNode graph.undelayed request = Engine.startNode graph request := by
  unfold Engine.startNode
  simp only [Graph.contains_undelayed]
  rfl

/-- A conversation in a world without delays comes to an end, and so does the same conversation in
its twin, with the same requests to the collaborators and a run that is alike, unless too many
steps were made without delays. -/
theorem Twin.talks (h : world.Twin world₀) (hworld : world.Ready) (hworld₀ : world₀.Ready)
    (hbounds : world.bounds = world₀.bounds) (request : RunRequest) (replies : List Payload) :
    ∃ result₀ last₀, world₀.Talks request replies result₀ last₀ ∧
      ((∀ run₀, result₀ = .ok run₀ → ¬Drive.Exceeded run₀) →
        ∃ result last, world.Talks request replies result last ∧
          last.ledger = last₀.ledger ∧ AlikeResults result result₀) := by
  cases hflow₀ : world₀.flow request.flow with
  | error e =>
      have hbegun := proceed_start_unloaded hworld (h.flow_error hflow₀)
      have hbegun₀ := proceed_start_unloaded hworld₀ hflow₀
      exact ⟨_, _, .refused hbegun₀, fun _ => ⟨_, _, .refused hbegun, h.ledger, rfl⟩⟩
  | ok graph₀ =>
      obtain ⟨graph, hflow, rfl⟩ := h.flow_of_ok hflow₀
      have hidle := World.Idle.look world request.flow
      have hidle₀ := World.Idle.look world₀ request.flow
      have hsame := startNode_undelayed graph request
      cases hnode : Engine.startNode graph request with
      | error e =>
          have hbegun := proceed_start_astray hworld hflow hnode
          have hbegun₀ := proceed_start_astray hworld₀ hflow₀ (hsame.trans hnode)
          exact ⟨_, _, .refused hbegun₀, fun _ =>
            ⟨_, _, .refused hbegun, (h.idle hidle hidle₀).ledger, rfl⟩⟩
      | ok node =>
          have hbegun := proceed_start_driven hworld hflow hnode
          have hbegun₀ := proceed_start_driven hworld₀ hflow₀ (hsame.trans hnode)
          have hlater := (world.later_look request.flow).trans (later_newRun _)
          have hlater₀ := (world₀.later_look request.flow).trans (later_newRun _)
          have hnew := hidle.trans (.newRun _)
          have hnew₀ := hidle₀.trans (.newRun _)
          -- The two runs begin with identifiers of their own.
          generalize (world.look request.flow).2.newRun = next at hbegun hlater hnew
          generalize (world₀.look request.flow).2.newRun = next₀ at hbegun₀ hlater₀ hnew₀
          obtain ⟨id, begun⟩ := next
          obtain ⟨id₀, begun₀⟩ := next₀
          have hfresh : (Run.fresh id request node world.bounds.now).Alike
              (Run.fresh id₀ request node world₀.bounds.now) := by
            rw [hbounds]
            exact .intro ⟨rfl, rfl, rfl, rfl, rfl, rfl, rfl, rfl, rfl, rfl, rfl⟩ .nil
          have hfit : Drive.Fit begun₀.flow begun₀.bounds.settings (.level graph.undelayed none)
              (Run.fresh id₀ request node world₀.bounds.now) :=
            ⟨hnew₀.flow ▸ hflow₀, rfl, rfl⟩
          have hadvances := (h.idle hnew hnew₀).driven (hworld.onward hlater.onward)
            (hworld₀.onward hlater₀.onward)
            (by rw [hlater.bounds, hlater₀.bounds, hbounds]) hfresh (hnew.flow ▸ hflow) hfit
          obtain ⟨last₀, final₀, hconverses₀, hfinal₀, hconcludes⟩ := hadvances.concludes replies
          rw [← begun₀.id_driven graph.undelayed _ none] at hconverses₀ hfinal₀
          refine ⟨_, last₀, .held hbegun₀ hconverses₀ hfinal₀, fun hlimit => ?_⟩
          obtain ⟨last, final, hconverses, hfinal, hledger, halike⟩ := hconcludes (hlimit _ rfl)
          rw [← begun.id_driven graph _ none] at hconverses hfinal
          exact ⟨_, last, .held hbegun hconverses hfinal, hledger, halike⟩

/-- Worlds that are opened with the same flows, with and without their delays, are twins. -/
theorem twin_opened {flows : List Flow}
    (hflows : ∀ flow ∈ flows, ∃ graph, Graph.load .standard flow = .ok graph)
    (settings : Settings) (now : Instant)
    (send : Ledger → String → Message → Except DispatchError String)
    (assign : Ledger → String → String → Except AssignmentError Unit)
    (supply supply₀ : Supply) :
    (opened settings now flows send assign supply).Twin
      (opened settings now (flows.map Flow.undelayed) send assign supply₀) := by
  have hload (flows : List Flow) (supply : Supply) (id : FlowId) :
      (opened settings now flows send assign supply).flow id =
        (Catalog.ofFlows flows).load .standard id :=
    Catalog.get_fst (Catalog.ofFlows flows) .standard id
  refine ⟨rfl, rfl, fun id => ?_, fun id graph hgraph => ?_⟩
  · rw [hload, hload]
    exact (Catalog.load_undelayed hflows id).1
  · rw [hload] at hgraph
    exact (Catalog.load_undelayed hflows id).2 graph hgraph

/-- A run without the delays of its nested flow waits for a reply at once, and ends with it. -/
theorem talks_undelayed_sample :
    ∃ final last,
      (opened {} ⟨0, 0⟩ ([.calling "outer" "inner", .unhurried "inner"].map Flow.undelayed)
        (fun _ _ _ => .ok "sent") (fun _ _ _ => .ok ()) {}).Talks
          { flow := "outer", contactId := "ann" } [.reply "yes"] (.ok final) last ∧
      final.status = .completed ∧ final.failure = none ∧ last.ledger.sent = 2 := by
  obtain ⟨world₀, hworld₀⟩ : ∃ world₀, world₀ = opened {} ⟨0, 0⟩
    ([.calling "outer" "inner", .unhurried "inner"].map Flow.undelayed)
    (fun _ _ _ => .ok "sent") (fun _ _ _ => .ok ()) {} := ⟨_, rfl⟩
  obtain ⟨begun, hbegun⟩ : ∃ begun, begun = world₀.proceed 0
    (Engine.start world₀.bounds { flow := "outer", contactId := "ann" }) := ⟨_, rfl⟩
  obtain ⟨id, hid⟩ : ∃ id : Identifier, id = ⟨world₀.supply.firstRun⟩ := ⟨_, rfl⟩
  obtain ⟨ended, hended⟩ : ∃ ended, ended =
    begun.2.carryOut (.resume id ⟨none, .reply "yes"⟩) := ⟨_, rfl⟩
  rw [← hworld₀]
  have hstarts : begun.1.run?.any (·.id == id) = true := by
    rw [hbegun, hid, hworld₀]
    decide +kernel
  have hwaits : (begun.2.store.find? id).any (fun run =>
      decide (run.nextEvent? [.reply "yes"] = some (⟨none, .reply "yes"⟩, []))) = true := by
    rw [hbegun, hid, hworld₀]
    decide +kernel
  have hends : (ended.store.find? id).any (fun run =>
      decide (run.nextEvent? [] = none) && run.status == .completed && run.failure.isNone) =
        true := by
    rw [hended, hbegun, hid, hworld₀]
    decide +kernel
  have hsent : ended.ledger.sent = 2 := by
    rw [hended, hbegun, hid, hworld₀]
    decide +kernel
  obtain ⟨run₀, hrun₀, hsameId⟩ := (Option.any_eq_true _ _).mp hstarts
  obtain ⟨waiting, hwaiting, hnext⟩ := (Option.any_eq_true _ _).mp hwaits
  obtain ⟨final₀, hfinal₀, hover⟩ := (Option.any_eq_true _ _).mp hends
  simp only [Bool.and_eq_true, decide_eq_true_eq, beq_iff_eq, Option.isNone_iff_eq_none]
    at hsameId hnext hover
  obtain rfl := hsameId
  have hdone : world₀.proceed 0
      (Engine.start world₀.bounds { flow := "outer", contactId := "ann" }) =
        (.done (.ok run₀), begun.2) := by
    rw [← hbegun]
    exact Prod.ext (Operating.eq_of_run? hrun₀) rfl
  have hrest : Converses run₀.id (begun.2.carryOut (.resume run₀.id ⟨none, .reply "yes"⟩)) []
      ended := by
    rw [← hended]
    exact .stop hfinal₀ hover.1.1
  exact ⟨final₀, ended, .held hdone (.next hwaiting hnext hrest) hfinal₀, hover.1.2, hover.2,
    hsent⟩

/-- Delays make no difference.  Without the delays of its flows, any conversation comes to an end;
and unless its run was stopped for making too many steps, the conversation with the delays comes to
an end after the same requests to the collaborators, and with a run that is alike. -/
theorem delays_make_no_difference (settings : Settings) (now : Instant) (flows : List Flow)
    (hflows : ∀ flow ∈ flows, ∃ graph, Graph.load .standard flow = .ok graph)
    (send : Ledger → String → Message → Except DispatchError String)
    (assign : Ledger → String → String → Except AssignmentError Unit)
    (supply supply₀ : Supply) (request : RunRequest) (replies : List Payload) :
    ∃ result₀ last₀,
      (opened settings now (flows.map Flow.undelayed) send assign supply₀).Talks request replies
        result₀ last₀ ∧
      ((∀ run₀, result₀ = .ok run₀ → ¬Drive.Exceeded run₀) →
        ∃ result last, (opened settings now flows send assign supply).Talks request replies
            result last ∧
          last.ledger = last₀.ledger ∧ AlikeResults result result₀) :=
  (twin_opened hflows settings now send assign supply supply₀).talks (ready_opened ..)
    (ready_opened ..) rfl request replies

/-- A nested flow with delays is among the flows of such a conversation. -/
theorem delays_make_no_difference_sample :
    ∃ run last,
      (opened {} ⟨0, 0⟩ [.calling "outer" "inner", .unhurried "inner"] (fun _ _ _ => .ok "sent")
        (fun _ _ _ => .ok ()) {}).Talks { flow := "outer", contactId := "ann" } [.reply "yes"]
          (.ok run) last ∧ run.status = .completed ∧ last.ledger.sent = 2 := by
  have hloaded : ∀ flow ∈ [.calling "outer" "inner", .unhurried "inner"],
      (Graph.load .standard flow).isOk = true := by decide +kernel
  have hflows : ∀ flow ∈ [.calling "outer" "inner", .unhurried "inner"],
      ∃ graph, Graph.load .standard flow = .ok graph := by
    intro flow hflow
    have hok := hloaded flow hflow
    cases hgraph : Graph.load .standard flow with
    | error e => simp [hgraph, Except.isOk, Except.toBool] at hok
    | ok graph => exact ⟨graph, rfl⟩
  obtain ⟨result₀, last₀, htalks₀, hsame⟩ := delays_make_no_difference {} ⟨0, 0⟩ _ hflows
    (fun _ _ _ => .ok "sent") (fun _ _ _ => .ok ()) {} {}
    { flow := "outer", contactId := "ann" } [.reply "yes"]
  obtain ⟨final₀, ended, htalk, hcompleted, hunfailed, hsent⟩ := talks_undelayed_sample
  obtain ⟨rfl, rfl⟩ := htalk.unique htalks₀
  obtain ⟨result, last, htalks, hledger, halike⟩ := hsame fun other hother => by
    obtain rfl := Except.ok.inj hother
    rintro ⟨failure, hfailure, -⟩
    simp [hunfailed] at hfailure
  cases result with
  | error e => cases halike
  | ok run =>
      have hstatus : run.status = final₀.status := (Run.Alike.level halike).status
      refine ⟨run, last, htalks, hstatus.trans hcompleted, ?_⟩
      rw [hledger]
      exact hsent

end World

end Dialogue
