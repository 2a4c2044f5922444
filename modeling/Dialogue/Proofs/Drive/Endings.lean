import Dialogue.Proofs.Drive.Recounting

/-!
# How the levels of a drive end

A drive tells last of its own run how that run now stands, and of a nested run
something only if it hands its payload down to it.  `Course.unreached` and
`Course.reached_told` say of which nested runs anything is told; whatever was told
of another run, that run has ended or is still nested in the one that was driven
(`Course.stays_or_ends`).  The notes that a drive makes about nested runs say of
them what was told last (`Course.noted`).
-/

namespace Dialogue

/-- How a run stands of which this was told last. -/
def Occurrence.status? : Occurrence → Option Status
  | .nodeEntered | .nodeCompleted => none
  | .runPaused _ => some .paused
  | .runCompleted => some .completed
  | .runFailed .. => some .failed

namespace Tale

/-- How the run stands by what was told of it last. -/
def status? (tale : Tale) : Option Status := tale.getLast?.bind (·.2.status?)

/-- The last that was told of the run is its end. -/
def Ended (tale : Tale) : Prop := ∃ status, tale.status? = some status ∧ status.isTerminal = true

/-- The run was last told to wait, and has not come to its end. -/
def Halted (tale : Tale) : Prop := tale.Open ∧ tale.status? = some .paused

/-- The run stands as it is recorded to, or it waits. -/
def Bears (tale : Tale) (status : Status) : Prop :=
  tale.status? = some status ∨ tale.status? = some .paused

variable {tale before after : Tale} {node : NodeId} {what : Occurrence}

@[simp] theorem status?_tell : status? (tale ++ [(node, what)]) = what.status? := by
  simp [status?]

/-- What had not come to its end and is told one drive more is over, if that told its end. -/
theorem Ended.over (h : after.Ended) (hspoke : Spoke before after) (hopen : before.Open) :
    after.Over := by
  obtain ⟨told, ⟨node, what⟩, rfl, htold, -⟩ := hspoke
  obtain ⟨status, hstatus, hterminal⟩ := h
  refine ⟨before ++ told, (node, what), by simp, ?_, ?_⟩
  · intro entry hentry
    rcases List.mem_append.mp hentry with hold | hnew
    · exact hopen entry hold
    · have hunsettled := htold entry hnew
      cases hwhat : entry.2 <;> simp_all [Occurrence.isSettled, Occurrence.isEnd]
  · rw [← List.append_assoc, status?_tell] at hstatus
    cases what with
    | runPaused reason =>
        obtain rfl := Option.some.inj hstatus
        cases hterminal
    | runCompleted => rfl
    | runFailed kind message => rfl
    | nodeEntered => cases hstatus
    | nodeCompleted => cases hstatus

end Tale

namespace Level

/-- The level stands at a node that runs another flow. -/
def calls (flows : Flows) (level : Level) : Bool :=
  ((flows level.flow).toOption.bind (·.find? level.node)).any (·.behaviour.isSubflow)

/-- The nested levels that a payload for a level is handed down to, where every level may be stepped
so many times: as far as every level stands at a node that runs another flow, and the flow of the
next one loads. -/
def reached (flows : Flows) (steps : Nat) : Level → List Level → List Level
  | _, [] => []
  | level, child :: below =>
    if 0 < steps ∧ level.calls flows = true ∧ (flows child.flow).isOk = true then
      child :: child.reached flows steps below
    else []

/-- A level has a note about how a nested run ended. -/
def Records (level : Level) (id : Identifier) (status : Status) : Prop :=
  ∃ flow nodes, .subflow flow id status nodes ∈ level.history.remarks

variable {flows : Flows} {steps : Nat} {level after : Level} {below : List Level}

theorem calls_eq_true {graph : Graph} {node : Graph.Node} {flow : FlowId}
    (hgraph : flows level.flow = .ok graph) (hnode : graph.find? level.node = some node)
    (hflow : node.behaviour = .subflow flow) : level.calls flows = true := by
  simp [calls, hgraph, Except.toOption, hnode, hflow, Behaviour.isSubflow]

theorem reached_of_not_calls (h : level.calls flows = false) :
    level.reached flows steps below = [] := by
  cases below with
  | nil => rfl
  | cons child below => simp [reached, h]

theorem reached_zero : level.reached flows 0 below = [] := by
  cases below with
  | nil => rfl
  | cons child below => simp [reached]

/-- Only where a level stands matters to what is reached below it. -/
theorem reached_congr (hflow : after.flow = level.flow) (hnode : after.node = level.node) :
    after.reached flows steps below = level.reached flows steps below := by
  have hcalls : after.calls flows = level.calls flows := by rw [calls, calls, hflow, hnode]
  cases below with
  | nil => rfl
  | cons child below => rw [reached, reached, hcalls]

theorem reached_subset : level.reached flows steps below ⊆ below := by
  induction below generalizing level with
  | nil => exact List.Subset.refl _
  | cons child below ih =>
      rw [reached]
      split
      · exact List.cons_subset_cons _ ih
      · exact List.nil_subset _

theorem records_of_noted {id : Identifier} {status : Status}
    (hnotes : level.history.Noted after.history) (h : after.Records id status) :
    level.Records id status := by
  obtain ⟨flow, nodes, hnote⟩ := h
  exact ⟨flow, nodes, hnotes.mem_remarks rfl hnote⟩

theorem records_of_enter {id : Identifier} {status : Status} {node : NodeId} {time : Instant}
    (h : (level.enter node time).Records id status) : level.Records id status := by
  obtain ⟨flow, nodes, hnote⟩ := h
  change _ ∈ (level.history.enter node time).remarks at hnote
  rw [History.remarks_enter] at hnote
  exact ⟨flow, nodes, hnote⟩

theorem records_of_fail {id : Identifier} {status : Status} {kind : FailureKind}
    {message : String} {time : Instant} (h : (level.fail kind message time).Records id status) :
    level.Records id status :=
  records_of_noted (.note (.refl _) (.failure kind message) rfl) h

/-- A level that takes a nested run back records how that stands. -/
theorem records_of_absorb {child : Level} {id : Identifier} {status : Status}
    (h : (level.absorb child).Records id status) :
    (id = child.id ∧ status = child.status) ∨ level.Records id status := by
  obtain ⟨flow, nodes, hnote⟩ := h
  rcases History.mem_remarks_note hnote with hnew | hold
  · obtain ⟨-, rfl, rfl, -⟩ := Note.subflow.inj hnew
    exact .inl ⟨rfl, rfl⟩
  · exact .inr ⟨flow, nodes, hold⟩

end Level

namespace Drive

open Run

variable {bounds : Bounds} {flows : Flows} {phase : Phase} {world world' : World}
  {run run' child : Run} {id : Identifier}

/-- The nested levels that a payload is handed down to. -/
def Phase.reached (flows : Flows) (settings : Settings) (run : Run) : Phase → List Level
  | .level _ (some _) | .walk _ _ (some _) =>
    run.toLevel.reached flows settings.maxSteps run.nested
  | .level _ none | .walk _ _ none | .leave .. => []

/-- A payload is handed down by a level that has not been stepped yet, in its flow. -/
def Phase.HandsDown (flows : Flows) (settings : Settings) (run : Run) : Phase → Prop
  | .level graph (some _) => flows run.flow = .ok graph
  | .walk graph left (some _) => flows run.flow = .ok graph ∧ left = settings.maxSteps
  | .level _ none | .walk _ _ none | .leave .. => True

theorem Phase.reached_awake {graph : Graph} {left : Nat} {payload : Option Payload} :
    Phase.reached flows bounds.settings run.awake (.walk graph left payload) =
      Phase.reached flows bounds.settings run (.level graph payload) := by
  cases payload with
  | none => rfl
  | some payload => exact Level.reached_congr rfl rfl

/-- The nested run of a level that runs another flow is reached, and so is what it reaches. -/
theorem Phase.reached_pass {graph inner : Graph} {left : Nat} {payload : Payload}
    {node : Graph.Node} {flow : FlowId} {level : Level} {below : List Level}
    (hphase : Phase.HandsDown flows bounds.settings run (.walk graph (left + 1) (some payload)))
    (hnode : graph.find? run.node = some node) (hflow : node.behaviour = .subflow flow)
    (hnested : run.nested = level :: below) (hlook : flows level.flow = .ok inner) :
    Phase.reached flows bounds.settings run (.walk graph (left + 1) (some payload)) =
      level :: Phase.reached flows bounds.settings { level with nested := below }
        (.level inner (some payload)) := by
  obtain ⟨hgraph, hleft⟩ := hphase
  have hcalls : run.toLevel.calls flows = true := Level.calls_eq_true hgraph hnode hflow
  have hloads : (flows level.flow).isOk = true := by rw [hlook]; rfl
  change run.toLevel.reached flows bounds.settings.maxSteps run.nested = _
  rw [hnested, Level.reached, if_pos ⟨hleft ▸ Nat.succ_pos left, hcalls, hloads⟩]
  rfl

theorem Phase.reached_subset : phase.reached flows bounds.settings run ⊆ run.nested := by
  cases phase with
  | level graph payload =>
      cases payload with
      | none => exact List.nil_subset _
      | some payload => exact Level.reached_subset
  | walk graph left payload =>
      cases payload with
      | none => exact List.nil_subset _
      | some payload => exact Level.reached_subset
  | leave graph left outcome => exact List.nil_subset _

/-! ## The run itself -/

/-- A drive tells last how its run stands. -/
theorem Course.status (h : Course bounds phase world run world' run') :
    (world'.tale run.id).status? = some run'.status := by
  have own {world : World} {run : Run} {node : NodeId} {what : Occurrence} :
      ((world.told bounds run node what).tale run.id).status? = what.status? := by
    rw [told_own, Tale.status?_tell]
  induction h with
  | enter rest ih => exact ih
  | wake rest ih => exact ih
  | plain hnode hplain hstep rest ih =>
      rw [← (Behaviour.stepped hplain hstep).visit.id]
      exact ih
  | tooDeep hnode hflow hdepth rest ih => exact ih
  | unloadable hnode hflow hdepth hlook rest ih => exact ih
  | @nest _ _ _ run _ flow _ _ child _ _ hnode hflow hdepth hlook drive rest ihDrive ih =>
      rw [← show _ = run.id from (settle_visit flow _ (run.givingAway.withChild child)).id]
      exact ih
  | orphan hnode hflow hnested rest ih => exact ih
  | lost hnode hflow hnested hlook rest ih =>
      rw [← (reclaim_visit _).id]
      exact ih
  | @pass _ _ _ _ run _ flow _ _ _ _ ended _ _ hnode hflow hnested hlook drive rest ihDrive ih =>
      rw [← show _ = run.id from (settle_visit flow _ (run.withChild ended)).id]
      exact ih
  | go hnext rest ih => exact ih
  | astray hnext => exact own
  | complete => exact own
  | _ => exact own

/-- A run that has paused waits for something. -/
theorem Course.suspended (h : Course bounds phase world run world' run')
    (hpaused : run'.status = .paused) : run'.suspension.isSome = true := by
  induction h with
  | suspend => rfl
  | nest hnode hflow hdepth hlook drive rest ihDrive ih => exact ih hpaused
  | pass hnode hflow hnested hlook drive rest ihDrive ih => exact ih hpaused
  | exhausted => cases hpaused
  | missing hnode => cases hpaused
  | astray hnext => cases hpaused
  | complete => cases hpaused
  | fail => cases hpaused
  | _ => next ih => exact ih hpaused

/-- A run either waits with the nested run that it has driven, or takes it back once it has
ended. -/
theorem Course.settle_cases (drive : Course bounds phase world child world' run') (flow : FlowId)
    (around : Surroundings) (outer : Run) :
    (∃ suspension, run'.status = .paused ∧
      Subflow.settle flow around (outer.withChild run') =
        (.suspend suspension, outer.withChild run')) ∨
    run'.isTerminal = true ∧
      (Subflow.settle flow around (outer.withChild run')).2 = (outer.withChild run').reclaim := by
  rcases drive.stops with hstatus | hstatus | hstatus
  · have hended : run'.isTerminal = true := by simp [Level.isTerminal, hstatus, Status.isTerminal]
    exact .inr ⟨hended, settle_ended flow around hended⟩
  · have hended : run'.isTerminal = true := by simp [Level.isTerminal, hstatus, Status.isTerminal]
    exact .inr ⟨hended, settle_ended flow around hended⟩
  · obtain ⟨suspension, hpending⟩ := Option.isSome_iff_exists.mp (drive.suspended hstatus)
    exact .inl ⟨suspension, hstatus, settle_paused flow around hstatus hpending⟩

/-- Every drive tells something of its run. -/
theorem Course.speaks (h : Course bounds phase world run world' run') :
    (world.tale run.id).length < (world'.tale run.id).length := by
  have tells {world : World} {run : Run} {node : NodeId} {what : Occurrence} :
      (world.tale run.id).length < ((world.told bounds run node what).tale run.id).length := by
    simp [told_own]
  have grows {world world' : World} (hahead : world.Ahead world') (id : Identifier) :
      (world.tale id).length ≤ (world'.tale id).length := (hahead.tale id).length_le
  induction h with
  | enter rest ih => exact Nat.lt_trans tells ih
  | wake rest ih => exact ih
  | plain hnode hplain hstep rest ih =>
      have hstepped := Behaviour.stepped hplain hstep
      rw [hstepped.visit.id, World.tale_of_events hstepped.quiet.silent.events] at ih
      exact ih
  | tooDeep hnode hflow hdepth rest ih => exact ih
  | unloadable hnode hflow hdepth hlook rest ih => exact ih
  | @nest _ _ world run _ flow _ _ child _ _ hnode hflow hdepth hlook drive rest ihDrive ih =>
      rw [show _ = run.id from (settle_visit flow _ (run.givingAway.withChild child)).id] at ih
      exact Nat.lt_of_le_of_lt (grows drive.ahead run.id) ih
  | orphan hnode hflow hnested rest ih => exact ih
  | lost hnode hflow hnested hlook rest ih =>
      rw [(reclaim_visit _).id] at ih
      exact ih
  | @pass _ _ _ world run _ flow _ _ _ _ ended _ _ hnode hflow hnested hlook drive rest ihDrive
      ih =>
      rw [show _ = run.id from (settle_visit flow _ (run.withChild ended)).id] at ih
      exact Nat.lt_of_le_of_lt (grows drive.ahead run.id) ih
  | go hnext rest ih => exact Nat.lt_trans (Nat.lt_trans tells tells) ih
  | astray hnext => exact Nat.lt_trans tells tells
  | complete => exact Nat.lt_trans tells tells
  | _ => exact tells

/-! ## Nested runs -/

/-- Nothing is told of a run but the one that is driven, the levels that its payload reaches, and
runs that begin. -/
theorem Course.unreached (h : Course bounds phase world run world' run')
    (hflows : world.flow = flows) (hphase : phase.HandsDown flows bounds.settings run)
    (hnamed : world.Named id) (hother : id ≠ run.id)
    (hreached : ∀ level ∈ phase.reached flows bounds.settings run, level.id ≠ id) :
    world'.tale id = world.tale id := by
  have others {world : World} {run : Run} {node : NodeId} {what : Occurrence}
      (hother : id ≠ run.id) : (world.told bounds run node what).tale id = world.tale id :=
    told_other hother
  induction h with
  | enter rest ih =>
      rw [ih hflows trivial hnamed hother (by simp [Phase.reached]), others hother]
  | wake rest ih =>
      refine ih hflows ⟨hphase, rfl⟩ hnamed hother ?_
      rw [Phase.reached_awake]
      exact hreached
  | exhausted => exact others hother
  | missing hnode => exact others hother
  | @plain _ _ payload world run node _ _ _ _ _ hnode hplain hstep rest ih =>
      have hstepped := Behaviour.stepped hplain hstep
      have hlater := hstepped.later
      have hahead := hstepped.quiet.silent.ahead
      rw [ih (hlater.flow.trans hflows) trivial (hahead.named hnamed)
        (hstepped.visit.id ▸ hother) (by simp [Phase.reached])]
      exact World.tale_of_events hstepped.quiet.silent.events id
  | tooDeep hnode hflow hdepth rest ih =>
      exact ih hflows trivial hnamed hother (by simp [Phase.reached])
  | unloadable hnode hflow hdepth hlook rest ih =>
      exact ih hflows trivial hnamed hother (by simp [Phase.reached])
  | @nest _ _ world run node flow inner world₁ child _ _ hnode hflow hdepth hlook drive rest
      ihDrive ih =>
      have hlater := (world.later_look flow).trans (World.later_newRun _)
      have hnamed' : (world.look flow).2.newRun.2.Named id :=
        World.named_newRun_iff.mpr (.inr hnamed)
      have hnew : id ≠ (world.look flow).2.newRun.1 := by
        rintro rfl
        exact World.newRun_not_named _ hnamed
      have hvisit := settle_visit flow (alone bounds node) (run.givingAway.withChild child)
      rw [ih ((hlater.trans drive.later).flow.trans hflows) trivial (drive.ahead.named hnamed')
          (hvisit.id ▸ hother) (by simp [Phase.reached]),
        ihDrive (hlater.flow.trans hflows) trivial hnamed' hnew (by simp [Phase.reached])]
      rfl
  | orphan hnode hflow hnested rest ih =>
      exact ih hflows trivial hnamed hother (by simp [Phase.reached])
  | lost hnode hflow hnested hlook rest ih =>
      have hother' : id ≠ (Run.reclaim _).id := fun hid => hother (hid.trans (reclaim_visit _).id)
      exact ih hflows trivial hnamed hother' (by simp [Phase.reached])
  | @pass _ left payload world run node flow level below inner world₁ ended _ _ hnode hflow
      hnested hlook drive rest ihDrive ih =>
      have hlater := world.later_look level.flow
      have hloads : flows level.flow = .ok inner := hflows ▸ hlook
      rw [Phase.reached_pass hphase hnode hflow hnested hloads] at hreached
      obtain ⟨hlevel, hbelow⟩ := List.forall_mem_cons.mp hreached
      have hvisit := settle_visit flow (alone bounds node) (run.withChild ended)
      rw [ih ((hlater.trans drive.later).flow.trans hflows) trivial
          (drive.ahead.named (show (world.look level.flow).2.Named id from hnamed))
          (hvisit.id ▸ hother) (by simp [Phase.reached]),
        ihDrive (hlater.flow.trans hflows) hloads hnamed hlevel.symm hbelow]
      rfl
  | go hnext rest ih =>
      rw [ih hflows trivial hnamed hother (by simp [Phase.reached]), others hother, others hother]
  | astray hnext => rw [others hother, others hother]
  | complete => rw [others hother, others hother]
  | suspend => exact others hother
  | fail => exact others hother

/-- Something is told of every level that the payload reaches. -/
theorem Course.reached_told (h : Course bounds phase world run world' run')
    (hflows : world.flow = flows) (hphase : phase.HandsDown flows bounds.settings run) :
    ∀ level ∈ phase.reached flows bounds.settings run,
      (world.tale level.id).length < (world'.tale level.id).length := by
  have grows {world world' : World} (hahead : world.Ahead world') (id : Identifier) :
      (world.tale id).length ≤ (world'.tale id).length := (hahead.tale id).length_le
  -- No level is reached below one that runs no other flow, or where the nested run's flow is gone.
  have nothing {graph : Graph} {left : Nat} {payload : Option Payload} {run : Run}
      (hphase : Phase.HandsDown flows bounds.settings run (.walk graph left payload))
      (hstands : ∀ node, graph.find? run.node = some node → node.behaviour.isSubflow = false) :
      Phase.reached flows bounds.settings run (.walk graph left payload) = [] := by
    cases payload with
    | none => rfl
    | some payload =>
        refine Level.reached_of_not_calls ?_
        simp only [Level.calls, hphase.1, Except.toOption, Option.bind_some]
        cases hnode : graph.find? run.node with
        | none => rfl
        | some node => simpa using hstands node hnode
  induction h with
  | enter rest ih => simp [Phase.reached]
  | wake rest ih =>
      rw [← Phase.reached_awake]
      exact ih hflows ⟨hphase, rfl⟩
  | @exhausted graph payload world run =>
      cases payload with
      | none => simp [Phase.reached]
      | some payload => simp [Phase.reached, ← hphase.2, Level.reached_zero]
  | missing hnode => simp [nothing hphase (by simp [hnode])]
  | plain hnode hplain hstep rest ih => simp [nothing hphase (by simp [hnode, hplain])]
  | orphan hnode hflow hnested rest ih => simp [Phase.reached, hnested, Level.reached]
  | @lost graph left payload world run node flow child below e _ _ hnode hflow hnested hlook rest
      ih =>
      have hgone : (flows child.flow).isOk = false := by rw [← hflows, hlook]; rfl
      simp [Phase.reached, hnested, Level.reached, hgone]
  | @pass _ left payload world run node flow level below inner world₁ ended _ _ hnode hflow
      hnested hlook drive rest ihDrive ih =>
      have hloads : flows level.flow = .ok inner := hflows ▸ hlook
      have hdriven := ihDrive ((world.later_look level.flow).flow.trans hflows) hloads
      rw [Phase.reached_pass hphase hnode hflow hnested hloads]
      refine List.forall_mem_cons.mpr ⟨?_, fun other hother => ?_⟩
      · exact Nat.lt_of_lt_of_le drive.speaks (grows rest.ahead level.id)
      · exact Nat.lt_of_lt_of_le (hdriven other hother) (grows rest.ahead other.id)
  | _ => simp [Phase.reached]

/-- Whatever was told of another run, that run has come to its end, or it waits below the one that
was driven. -/
theorem Course.stays_or_ends (h : Course bounds phase world run world' run') (hother : id ≠ run.id)
    (htold : world'.tale id ≠ world.tale id) :
    (world'.tale id).Ended ∨ run'.status = .paused ∧ ∃ level ∈ run'.nested, level.id = id := by
  have others {world : World} {run : Run} {node : NodeId} {what : Occurrence}
      (hother : id ≠ run.id) : (world.told bounds run node what).tale id = world.tale id :=
    told_other hother
  -- After a nested run was driven, nothing more may be told of others before the run ends.
  have nested {graph : Graph} {left : Nat} {flow : FlowId} {node : Graph.Node} {inner : Phase}
      {world first world' : World} {start child outer run' : Run}
      (drive : Course bounds inner world start first child)
      (rest : Course bounds
        (.leave graph left (Subflow.settle flow (alone bounds node) (outer.withChild child)).1)
        first (Subflow.settle flow (alone bounds node) (outer.withChild child)).2 world' run')
      (ihDrive : id ≠ start.id → first.tale id ≠ world.tale id → (first.tale id).Ended ∨
        child.status = .paused ∧ ∃ level ∈ child.nested, level.id = id)
      (ih : world'.tale id ≠ first.tale id → (world'.tale id).Ended ∨
        run'.status = .paused ∧ ∃ level ∈ run'.nested, level.id = id)
      (htold : world'.tale id ≠ world.tale id) :
      (world'.tale id).Ended ∨ run'.status = .paused ∧ ∃ level ∈ run'.nested, level.id = id := by
    by_cases hrest : world'.tale id = first.tale id
    · rw [hrest] at htold ⊢
      have hdriven : (first.tale id).Ended ∨
          child.status = .paused ∧ ∃ level ∈ child.levels, level.id = id := by
        by_cases hown : id = start.id
        · have hstatus := drive.status
          rcases drive.stops with hstops | hstops | hstops
          · exact .inl ⟨_, hown ▸ hstatus, by rw [hstops]; rfl⟩
          · exact .inl ⟨_, hown ▸ hstatus, by rw [hstops]; rfl⟩
          · exact .inr ⟨hstops, _, child.own_mem, drive.sameRun.id.trans hown.symm⟩
        · refine (ihDrive hown htold).imp_right ?_
          rintro ⟨hpaused, level, hlevel, hid⟩
          exact ⟨hpaused, level, nested_mem hlevel, hid⟩
      refine hdriven.imp_right ?_
      rintro ⟨hpaused, hlevel⟩
      rcases drive.settle_cases flow (alone bounds node) outer with
        ⟨suspension, -, hsettle⟩ | ⟨hended, -⟩
      · rw [hsettle] at rest
        cases rest with
        | suspend => exact ⟨rfl, hlevel⟩
      · simp [Level.isTerminal, hpaused, Status.isTerminal] at hended
    · exact ih hrest
  induction h with
  | enter rest ih => exact ih hother (by rwa [others hother])
  | wake rest ih => exact ih hother htold
  | exhausted => exact absurd (others hother) htold
  | missing hnode => exact absurd (others hother) htold
  | plain hnode hplain hstep rest ih =>
      have hstepped := Behaviour.stepped hplain hstep
      refine ih (hstepped.visit.id ▸ hother) ?_
      rwa [World.tale_of_events hstepped.quiet.silent.events]
  | tooDeep hnode hflow hdepth rest ih => exact ih hother htold
  | unloadable hnode hflow hdepth hlook rest ih => exact ih hother htold
  | @nest _ _ _ run node flow _ _ child _ _ hnode hflow hdepth hlook drive rest ihDrive ih =>
      have hvisit := settle_visit flow (alone bounds node) (run.givingAway.withChild child)
      exact nested drive rest ihDrive (ih (hvisit.id ▸ hother)) htold
  | orphan hnode hflow hnested rest ih => exact ih hother htold
  | lost hnode hflow hnested hlook rest ih =>
      exact ih (fun hid => hother (hid.trans (reclaim_visit _).id)) htold
  | @pass _ _ _ _ run node flow _ _ _ _ ended _ _ hnode hflow hnested hlook drive rest ihDrive
      ih =>
      have hvisit := settle_visit flow (alone bounds node) (run.withChild ended)
      exact nested drive rest ihDrive (ih (hvisit.id ▸ hother)) htold
  | go hnext rest ih => exact ih hother (by rwa [others hother, others hother])
  | astray hnext => exact absurd (by rw [others hother, others hother]) htold
  | complete => exact absurd (by rw [others hother, others hother]) htold
  | suspend => exact absurd (others hother) htold
  | fail => exact absurd (others hother) htold

/-! ## Notes -/

/-- What the notes of a run are about that were not there before: new runs and runs that were nested
in it, which stand as the notes say or wait. -/
def Notes (world : World) (run : Run) (world' : World) (run' : Run) : Prop :=
  ∀ level' ∈ run'.levels, ∀ id status, level'.Records id status →
    (∃ level ∈ run.levels, level.Records id status) ∨
      (¬world.Named id ∨ ∃ level ∈ run.nested, level.id = id) ∧ (world'.tale id).Bears status

/-- The nested levels that a payload may be handed down to have got identifiers of their own, and
wait. -/
def Phase.Waits (world : World) (run : Run) : Phase → Prop
  | .level _ (some _) | .walk _ _ (some _) =>
    (run.levels.map Level.id).Nodup ∧
      ∀ level ∈ run.nested, world.Named level.id ∧ (world.tale level.id).status? = some .paused
  | .level _ none | .walk _ _ none | .leave .. => True

theorem Phase.waits_of (hapart : (run.levels.map Level.id).Nodup)
    (hnested : ∀ level ∈ run.nested,
      world.Named level.id ∧ (world.tale level.id).status? = some .paused) :
    phase.Waits world run := by
  cases phase with
  | level graph payload =>
      cases payload with
      | none => trivial
      | some payload => exact ⟨hapart, hnested⟩
  | walk graph left payload =>
      cases payload with
      | none => trivial
      | some payload => exact ⟨hapart, hnested⟩
  | leave graph left outcome => trivial

namespace Notes

variable {first : World} {middle after : Run}

/-- Work on the outermost level that makes no note about a nested run. -/
theorem of_records (hnested : after.nested = run.nested)
    (hrecords : ∀ id status, after.Records id status → run.Records id status) :
    Notes world run world' after := by
  intro level hlevel id status hnote
  rcases List.mem_cons.mp hlevel with rfl | hlevel
  · exact .inl ⟨_, run.own_mem, hrecords id status hnote⟩
  · exact .inl ⟨level, nested_mem (hnested ▸ hlevel), hnote⟩

/-- A drive goes on after work on the outermost level that makes no note about a nested run. -/
theorem later (h : Notes first middle world' run') (hahead : world.Ahead first)
    (hnested : middle.nested = run.nested)
    (hrecords : ∀ id status, middle.Records id status → run.Records id status) :
    Notes world run world' run' := by
  intro level hlevel id status hnote
  rcases h level hlevel id status hnote with ⟨other, hother, hold⟩ | ⟨habout, hbears⟩
  · have hmiddle : Notes world run world' middle := of_records hnested hrecords
    exact hmiddle other hother id status hold
  · rw [hnested] at habout
    exact .inr ⟨habout.imp_left (mt hahead.named), hbears⟩

/-- What a run takes back once it has ended stands as the note says that the run makes of it. -/
theorem reclaim {graph : Graph} {left : Nat} {outcome : Outcome}
    (rest : Course bounds (.leave graph left outcome) first run.reclaim world' run')
    (hahead : world.Ahead first)
    (hchild : ∀ level below, run.nested = level :: below → first.Named level.id ∧
      level.id ≠ run.id ∧ (first.tale level.id).Bears level.status ∧
      (¬world.Named level.id ∨ ∃ other ∈ middle.nested, other.id = level.id))
    (hrecords : ∀ id status, run.Records id status → middle.Records id status)
    (hrest : Notes first run.reclaim world' run') : Notes world middle world' run' := by
  intro level' hlevel' id status hnote
  have hsame := (reclaim_visit run).id
  rcases hrest level' hlevel' id status hnote with ⟨level, hlevel, hold⟩ | ⟨hnew, hbears⟩
  · have hown : level = run.reclaim.toLevel := by
      rw [levels, nested_reclaim] at hlevel
      exact List.mem_singleton.mp hlevel
    subst hown
    unfold Run.reclaim at hold
    cases hnested : run.nested with
    | nil =>
        rw [hnested] at hold
        exact .inl ⟨_, middle.own_mem, hrecords id status hold⟩
    | cons child below =>
        obtain ⟨hnamed', hother, hbears, habout⟩ := hchild child below hnested
        rw [hnested] at hold
        rcases Level.records_of_absorb hold with ⟨rfl, rfl⟩ | hold
        · -- Nothing more is told of it before the run ends.
          have hnone := hsame ▸ hother
          have htale := rest.unreached rfl trivial hnamed' hnone (by simp [Phase.reached])
          exact .inr ⟨habout, htale.symm ▸ hbears⟩
        · exact .inl ⟨_, middle.own_mem, hrecords id status hold⟩
  · refine .inr ⟨.inl ?_, hbears⟩
    rcases hnew with hnew | ⟨level, hlevel, -⟩
    · exact mt hahead.named hnew
    · rw [nested_reclaim] at hlevel
      cases hlevel

/-- A run goes on after it has driven a nested run, which it keeps or takes back. -/
theorem nested {graph : Graph} {left : Nat} {flow : FlowId} {node : Graph.Node} {inner : Phase}
    {outset : World} {start : Run} (drive : Course bounds inner outset start first child)
    (rest : Course bounds
      (.leave graph left (Subflow.settle flow (alone bounds node) (middle.withChild child)).1)
      first (Subflow.settle flow (alone bounds node) (middle.withChild child)).2 world' run')
    (hahead : world.Ahead outset) (hid : middle.id = run.id)
    (hrecords : ∀ id status, middle.Records id status → run.Records id status)
    (hnamed : outset.Named run.id) (hstart : outset.Named start.id)
    (hapart : ∀ level ∈ start.levels, level.id ≠ run.id)
    (hbelow : ∀ level ∈ start.levels, ¬world.Named level.id ∨ level ∈ run.nested)
    (hold : ∀ level ∈ start.levels, ∀ id status, level.Records id status → level ∈ run.nested)
    (hdriven : Notes outset start first child)
    (hrest : Notes first (Subflow.settle flow (alone bounds node) (middle.withChild child)).2
      world' run') : Notes world run world' run' := by
  have habout {level : Level} (hlevel : level ∈ start.levels) :
      ¬world.Named level.id ∨ ∃ other ∈ run.nested, other.id = level.id :=
    (hbelow level hlevel).imp_right fun hmem => ⟨level, hmem, rfl⟩
  have hchild : child.id = start.id := drive.sameRun.id
  have hown : start.id ≠ run.id := hapart _ start.own_mem
  rcases drive.settle_cases flow (alone bounds node) middle with
    ⟨suspension, -, hsettle⟩ | ⟨-, hsettle⟩
  · rw [hsettle] at rest
    cases rest with
    | suspend =>
      intro level' hlevel' id status hnote
      rcases List.mem_cons.mp hlevel' with rfl | hlevel'
      · exact .inl ⟨_, run.own_mem, hrecords id status hnote⟩
      rcases hdriven level' hlevel' id status hnote with ⟨level, hlevel, hnote'⟩ | ⟨hnew, hbears⟩
      · exact .inl ⟨level, nested_mem (hold level hlevel id status hnote'), hnote'⟩
      · -- The run itself pauses, of which no note below it tells.
        have hother : id ≠ middle.id := by
          rw [hid]
          rcases hnew with hnew | ⟨level, hlevel, rfl⟩
          · rintro rfl
            exact hnew hnamed
          · exact hapart level (nested_mem hlevel)
        have htale : ((first.told bounds (middle.withChild child) (middle.withChild child).node
            (.runPaused suspension.reason)).tale id) = first.tale id := told_other hother
        refine .inr ⟨?_, htale.symm ▸ hbears⟩
        rcases hnew with hnew | ⟨level, hlevel, rfl⟩
        · exact .inl (mt hahead.named hnew)
        · exact habout (nested_mem hlevel)
  · rw [hsettle] at rest hrest
    refine reclaim rest (hahead.trans drive.ahead) ?_ hrecords hrest
    intro level below hlevels
    obtain ⟨rfl, -⟩ := List.cons.inj (hlevels : child.toLevel :: child.nested = level :: below)
    refine ⟨?_, ?_, .inl ?_, ?_⟩
    · rw [hchild]
      exact drive.ahead.named hstart
    · change child.id ≠ middle.id
      rw [hchild, hid]
      exact hown
    · rw [hchild]
      exact drive.status
    · rw [hchild]
      exact habout start.own_mem

end Notes

/-- The notes that a drive makes are about new runs and nested ones, and say of them what was told
last, or they wait. -/
theorem Course.notes (h : Course bounds phase world run world' run') (hnamed : world.Named run.id)
    (hwaits : phase.Waits world run) : Notes world run world' run' := by
  have failing {world world' : World} {run : Run} (kind : FailureKind) (message : String) :
      Notes world run world' (run.failing bounds kind message) :=
    .of_records rfl fun _ _ => Level.records_of_fail
  induction h with
  | enter rest ih =>
      exact .later (ih ((World.ahead_emit _ _).named hnamed) trivial) (World.ahead_emit _ _) rfl
        fun _ _ => Level.records_of_enter
  | wake rest ih => exact .later (ih hnamed hwaits) (.refl _) rfl fun _ _ h => h
  | exhausted => exact failing _ _
  | missing hnode => exact failing _ _
  | plain hnode hplain hstep rest ih =>
      have hstepped := Behaviour.stepped hplain hstep
      have hahead := hstepped.quiet.silent.ahead
      have hrest := ih (hstepped.visit.id ▸ hahead.named hnamed) trivial
      exact .later hrest hahead hstepped.nested fun _ _ =>
        Level.records_of_noted hstepped.quiet.notes
  | tooDeep hnode hflow hdepth rest ih => exact ih hnamed trivial
  | unloadable hnode hflow hdepth hlook rest ih => exact ih hnamed trivial
  | @nest _ _ world run node flow inner world₁ child _ _ hnode hflow hdepth hlook drive rest
      ihDrive ih =>
      have hnamed' : (world.look flow).2.newRun.2.Named run.id :=
        World.named_newRun_iff.mpr (.inr hnamed)
      have hbegun : (world.look flow).2.newRun.2.Named (world.look flow).2.newRun.1 :=
        World.named_newRun_iff.mpr (.inl rfl)
      have hnew : ¬world.Named (world.look flow).2.newRun.1 := World.newRun_not_named _
      have hvisit := settle_visit flow (alone bounds node) (run.givingAway.withChild child)
      have hdriven := ihDrive hbegun trivial
      have hrest := ih (hvisit.id ▸ drive.ahead.named hnamed') trivial
      have hahead := (world.silent_look flow).ahead.trans (World.ahead_newRun _)
      refine .nested drive rest hahead rfl (fun _ _ h => h) hnamed' hbegun
        ?_ ?_ ?_ hdriven hrest
      all_goals
        intro level hlevel
        obtain rfl := List.mem_singleton.mp hlevel
      · intro heq
        have hown : (world.look flow).2.newRun.1 = run.id := heq
        exact hnew (hown ▸ hnamed)
      · exact .inl hnew
      · rintro id status ⟨_, _, hnote⟩
        cases hnote
  | orphan hnode hflow hnested rest ih => exact ih hnamed trivial
  | @lost _ _ _ world run _ _ child below _ _ _ hnode hflow hnested hlook rest ih =>
      obtain ⟨hapart, hpaused⟩ := hwaits
      have hown := (reclaim_visit run).id
      refine .reclaim rest (.refl world) ?_ (fun _ _ h => h) (ih (hown ▸ hnamed) trivial)
      intro level below' hnested'
      have hmem : level ∈ run.nested := hnested' ▸ .head _
      obtain ⟨hnamed', hwaits⟩ := hpaused level hmem
      refine ⟨hnamed', ?_, .inr hwaits, .inr ⟨level, hmem, rfl⟩⟩
      intro hid
      exact (List.nodup_cons.mp hapart).1 (hid ▸ List.mem_map_of_mem hmem)
  | @pass _ left payload world run node flow level below inner world₁ ended _ _ hnode hflow
      hnested hlook drive rest ihDrive ih =>
      obtain ⟨hapart, hpaused⟩ := hwaits
      have hlevels : ({ level with nested := below } : Run).levels = run.nested := hnested.symm
      obtain ⟨hown, hapart'⟩ := List.nodup_cons.mp hapart
      have hmem : level ∈ run.nested := hnested ▸ .head _
      have hnamed' : (world.look level.flow).2.Named run.id := hnamed
      have hvisit := settle_visit flow (alone bounds node) (run.withChild ended)
      have hdriven := ihDrive (hpaused level hmem).1
        ⟨hlevels ▸ hapart', fun other hother => hpaused other (hnested ▸ .tail _ hother)⟩
      have hrest := ih (hvisit.id ▸ drive.ahead.named hnamed') trivial
      refine .nested drive rest (world.silent_look level.flow).ahead rfl (fun _ _ h => h) hnamed'
        (hpaused level hmem).1 ?_ ?_ ?_ hdriven hrest
      all_goals
        rw [hlevels]
        intro other hother
      · intro hid
        exact hown (hid ▸ List.mem_map_of_mem hother)
      · exact .inr hother
      · exact fun _ _ _ => hother
  | @go _ _ next world run _ _ hnext rest ih =>
      have hahead : world.Ahead ((world.told bounds run run.node .nodeCompleted).told bounds run
          next .nodeEntered) := (World.ahead_emit _ _).trans (World.ahead_emit _ _)
      exact .later (ih (hahead.named hnamed) trivial) hahead rfl fun _ _ => Level.records_of_enter
  | astray hnext => exact failing _ _
  | complete => exact .of_records rfl fun _ _ h => h
  | suspend => exact .of_records rfl fun _ _ h => h
  | fail => exact failing _ _

end Drive

end Dialogue
