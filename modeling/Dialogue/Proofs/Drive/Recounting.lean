import Dialogue.Proofs.Drive.Part
import Dialogue.Proofs.Drive.Story

/-!
# Drives are recounted to their end

A drive tells of its own run up to one entry that settles it, and no other entry
of the drive does.  `Course.recounts` shows this by one induction over the course
of a drive, together with what becomes of the story of the run and of all that is
nested in it.  `Phase.Scene` says how it has to stand with the run before a phase.
Every step hands that on, and so does every nested drive, so that all parts of a
drive are settled once (`Part.spoke`).
-/

namespace Dialogue

/-! ## Runs that go on -/

namespace Run

variable {world world' : World} {run after child : Run}

/-- A run as a drive leaves it. -/
structure Kept (world : World) (run : Run) : Prop where
  story : run.Story world
  rests : ∀ level ∈ run.nested, level.Rests world
  ends : (run.status = .paused ∧ run.toLevel.Rests world) ∨
    (run.isTerminal = true ∧ (world.tale run.id).Over)

/-- What has been told by a drive, to its end. -/
structure Recounts (reach : List Level) (world : World) (run : Run) (world' : World) (run' : Run) :
    Prop extends Tells reach world run world' run' where
  kept : run'.Kept world'
  spoke : Tale.Spoke (world.tale run.id) (world'.tale run.id)

/-- A run that has not come to its end, with what is nested in it waiting. -/
structure Ongoing (world : World) (run : Run) : Prop where
  story : run.Story world
  rests : ∀ level ∈ run.nested, level.Rests world
  unended : (world.tale run.id).Open

/-- A run that goes on and has come to its node. -/
structure Underway (world : World) (run : Run) : Prop extends run.Ongoing world where
  here : (world.tale run.id).At run.node

/-- A run that has not ended is under way again as soon as it is resumed. -/
theorem Kept.underway (h : run.Kept world) (hunended : run.isTerminal = false) :
    run.Underway world := by
  rcases h.ends with ⟨-, hrests⟩ | ⟨hterminal, -⟩
  · exact ⟨⟨h.story, h.rests, hrests.unended⟩, hrests.here⟩
  · simp [hunended] at hterminal

/-- A run that has ended is told to have, once and last. -/
theorem Kept.over (h : run.Kept world) (hended : run.isTerminal = true) :
    (world.tale run.id).Over := by
  rcases h.ends with ⟨hpaused, -⟩ | ⟨-, hover⟩
  · simp [Level.isTerminal, hpaused, Status.isTerminal] at hended
  · exact hover

/-! ## Telling one thing -/

variable {bounds : Bounds} {node : NodeId} {what : Occurrence}

theorem told_own : (world.told bounds run node what).tale run.id =
    world.tale run.id ++ [(node, what)] := by
  rw [World.told, World.tale_emit]
  exact if_pos rfl

theorem told_other {id : Identifier} (hother : id ≠ run.id) :
    (world.told bounds run node what).tale id = world.tale id := by
  rw [World.told, World.tale_emit]
  exact if_neg hother.symm

/-- A story goes on with what the run tells, if its history does. -/
theorem Story.tell (h : run.Story world) (hnested : after.nested = run.nested)
    (hgoes : run.toLevel.GoesOn after.toLevel)
    (hcompleted : what = .nodeCompleted → (world.tale run.id).At node)
    (hnodes : after.history.nodes =
      if what = .nodeEntered then run.history.nodes ++ [node] else run.history.nodes) :
    after.Story (world.told bounds run node what) := by
  refine h.change (h.told.emit h.own_named hcompleted) (world.ahead_emit _)
    (fun id hother => told_other hother) hnested hgoes ?_
  rw [told_own, Tale.entered_tell, hnodes, h.entered _ run.own_mem]

theorem Tells.tell (world : World) (bounds : Bounds) (node : NodeId) (what : Occurrence)
    (hnested : after.nested = run.nested) (hgoes : run.toLevel.GoesOn after.toLevel) :
    Tells [] world run (world.told bounds run node what) after :=
  .of_goesOn (world.ahead_emit _) (fun _ h => h) (fun _ hother => told_other hother) hnested hgoes

theorem Story.rests_tell (h : run.Story world) (hrests : ∀ level ∈ run.nested, level.Rests world) :
    ∀ level ∈ run.nested, level.Rests (world.told bounds run node what) :=
  fun level hlevel => (hrests level hlevel).of_tale (told_other (h.nested_ne hlevel))

/-- A run goes on once its node is completed. -/
theorem Underway.completed (h : run.Underway world) (bounds : Bounds) :
    run.Ongoing (world.told bounds run run.node .nodeCompleted) where
  story := h.story.tell rfl (.refl _) (fun _ => h.here) rfl
  rests := h.story.rests_tell h.rests
  unended := by
    rw [told_own]
    exact Tale.open_tell h.unended rfl

/-- A run that goes on is under way at the node that it has entered. -/
theorem Ongoing.entered (h : run.Ongoing world) (hnested : after.nested = run.nested)
    (hgoes : run.toLevel.GoesOn after.toLevel) (hnode : after.node = node)
    (hnodes : after.history.nodes = run.history.nodes ++ [node]) :
    after.Underway (world.told bounds run node .nodeEntered) where
  story := h.story.tell hnested hgoes (by simp) hnodes
  rests := by
    rw [hnested]
    exact h.story.rests_tell h.rests
  unended := by
    rw [hgoes.id, told_own]
    exact Tale.open_tell h.unended rfl
  here := by
    rw [hgoes.id, told_own, hnode]
    exact .inl List.getLast?_concat

/-- The last thing that a drive tells. -/
theorem Recounts.ending (h : run.Ongoing world) (hnested : after.nested = run.nested)
    (hgoes : run.toLevel.GoesOn after.toLevel) (hnode : after.node = run.node)
    (hnodes : after.history.nodes = run.history.nodes) (hsettled : what.isSettled = true)
    (hends : (after.status = .paused ∧ ∃ reason, what = .runPaused reason) ∨
      (after.isTerminal = true ∧ what.isEnd = true)) :
    Recounts [] world run (world.told bounds run run.node what) after where
  toTells := .tell world bounds run.node what hnested hgoes
  kept := by
    refine ⟨?_, ?_, ?_⟩
    · refine h.story.tell hnested hgoes ?_ ?_
      · rintro rfl
        cases hsettled
      · rw [if_neg, hnodes]
        rintro rfl
        cases hsettled
    · rw [hnested]
      exact h.story.rests_tell h.rests
    · rcases hends with ⟨hstatus, reason, rfl⟩ | ⟨hterminal, hend⟩
      · refine .inl ⟨hstatus, ?_, reason, ?_⟩
        · rw [hgoes.id, told_own]
          exact Tale.open_tell h.unended rfl
        · rw [hgoes.id, told_own, hnode]
          exact List.getLast?_concat
      · rw [hgoes.id, told_own]
        exact .inr ⟨hterminal, _, _, rfl, h.unended, hend⟩
  spoke := by
    rw [told_own]
    exact Tale.spoke_tell hsettled

/-- A drive goes on after it has told something. -/
theorem Recounts.tell {run' : Run} (h : run.Story world) (hnested : after.nested = run.nested)
    (hgoes : run.toLevel.GoesOn after.toLevel) (hwhat : what.isSettled = false)
    (hworld : (world.told bounds run node what).Orderly)
    (hrest : Recounts [] (world.told bounds run node what) after world' run') :
    Recounts [] world run world' run' where
  toTells := (Tells.tell world bounds node what hnested hgoes).trans hrest.toTells h hworld
  kept := hrest.kept
  spoke := by
    have hspoke := hrest.spoke
    rw [hgoes.id, told_own] at hspoke
    exact hspoke.before hwhat

theorem Recounts.widen {reach : List Level} {run' : Run}
    (h : Recounts [] world run world' run') : Recounts reach world run world' run' :=
  { h with toTells := h.toTells.widen }

/-- A drive goes on after something was told of others only. -/
theorem Recounts.later {reach : List Level} {first : World} {middle run' : Run}
    (h : run.Story world) (htells : Tells reach world run first middle)
    (hown : first.tale run.id = world.tale run.id) (hfirst : first.Orderly)
    (hrest : Recounts [] first middle world' run') : Recounts reach world run world' run' where
  toTells := htells.trans hrest.toTells h hfirst
  kept := hrest.kept
  spoke := by
    have hspoke := hrest.spoke
    rw [htells.id, hown] at hspoke
    exact hspoke

/-- A drive fails the run where it is. -/
theorem Recounts.failing (h : run.Ongoing world) (kind : FailureKind) (message : String) :
    Recounts [] world run (world.told bounds run run.node (.runFailed kind message))
      (run.failing bounds kind message) :=
  .ending h rfl (.fail _ _ _ _) rfl (History.nodes_note _ _) rfl (.inr ⟨rfl, rfl⟩)

theorem Recounts.completed {run' : Run} (h : run.Underway world)
    (hrest : Recounts [] (world.told bounds run run.node .nodeCompleted) run world' run') :
    Recounts [] world run world' run' :=
  .tell h.story rfl (.refl _) rfl (h.completed bounds).story.told hrest

theorem Recounts.entered {run' : Run} (h : run.Story world)
    (hafter : after.Underway (world.told bounds run node .nodeEntered))
    (hnested : after.nested = run.nested) (hgoes : run.toLevel.GoesOn after.toLevel)
    (hrest : Recounts [] (world.told bounds run node .nodeEntered) after world' run') :
    Recounts [] world run world' run' :=
  .tell h hnested hgoes rfl hafter.story.told hrest

/-- A run that is woken is under way as it was. -/
theorem Underway.awake (h : run.Underway world) : run.awake.Underway world :=
  ⟨⟨h.story.silent (.refl _) rfl (.of_history rfl rfl) rfl, h.rests, h.unended⟩, h.here⟩

/-- Waking changes neither the nested levels nor what has been told. -/
theorem Recounts.awake {reach : List Level} {run' : Run}
    (h : Recounts reach world run.awake world' run') : Recounts reach world run world' run' :=
  { ahead := h.ahead, id := h.id, frame := h.frame, spoken := h.spoken, begun := h.begun
    grows := h.grows, nested := h.nested, kept := h.kept, spoke := h.spoke
    cited := by
      intro level hlevel id nodes hcites
      refine (h.cited level hlevel id nodes hcites).imp_right ?_
      rintro ⟨other, hother, howns⟩
      rcases List.mem_cons.mp hother with rfl | hother
      · exact ⟨_, run.own_mem, howns⟩
      · exact ⟨other, nested_mem hother, howns⟩ }

/-- A run is under way after a quiet step of its node. -/
theorem Underway.stepped {first : World} (h : run.Underway world)
    (hquiet : Quiet world run.toLevel first after.toLevel)
    (hvisit : run.toLevel.SameVisit after.toLevel) (hnested : after.nested = run.nested) :
    after.Underway first := by
  have hgoes : run.toLevel.GoesOn after.toLevel := .of_noted hvisit.id hquiet.notes
  have hsame (id : Identifier) : first.tale id = world.tale id :=
    World.tale_of_events hquiet.silent.events id
  refine ⟨⟨h.story.silent hquiet.silent hnested hgoes hvisit.nodes, ?_, ?_⟩, ?_⟩
  · rw [hnested]
    exact fun level hlevel => (h.rests level hlevel).of_tale (hsame _)
  · rw [hvisit.id, hsame]
    exact h.unended
  · rw [hvisit.id, hvisit.node, hsame]
    exact h.here

/-- A drive goes on after a quiet step of its node. -/
theorem Recounts.stepped {first : World} {run' : Run} (h : run.Underway world)
    (hquiet : Quiet world run.toLevel first after.toLevel)
    (hvisit : run.toLevel.SameVisit after.toLevel) (hnested : after.nested = run.nested)
    (hrest : Recounts [] first after world' run') : Recounts [] world run world' run' := by
  have hsame (id : Identifier) : first.tale id = world.tale id :=
    World.tale_of_events hquiet.silent.events id
  have htells : Tells [] world run first after :=
    .of_goesOn hquiet.silent.ahead (fun _ => hquiet.silent.named_iff.mp) (fun id _ => hsame id)
      hnested (.of_noted hvisit.id hquiet.notes)
  exact .later h.story htells (hsame _) (h.stepped hquiet hvisit hnested).story.told hrest

/-! ## Nested runs -/

/-- A run that takes its nested run back is under way, whatever has become of that one. -/
theorem Story.underway_reclaim (h : run.Story world) (hopen : (world.tale run.id).Open)
    (hhere : (world.tale run.id).At run.node) : run.reclaim.Underway world := by
  have hvisit := Drive.reclaim_visit run
  refine ⟨⟨h.reclaim, ?_, ?_⟩, ?_⟩
  · simp [nested_reclaim]
  · rw [hvisit.id]
    exact hopen
  · rw [hvisit.id, hvisit.node]
    exact hhere

theorem Underway.givingAway (h : run.Underway world) : run.givingAway.Underway world :=
  ⟨⟨h.story.silent (.refl _) rfl (.of_history rfl rfl) rfl, h.rests, h.unended⟩, h.here⟩

/-- A nested run has a story of its own. -/
theorem Story.inner (h : run.Story world) {inner : Level} {below : List Level}
    (hnested : run.nested = inner :: below) :
    ({ inner with nested := below } : Run).Story world := by
  have hmem : ∀ level ∈ ({ inner with nested := below } : Run).levels, level ∈ run.levels :=
    fun level hlevel => nested_mem (hnested ▸ hlevel)
  refine ⟨h.told, fun level hlevel => h.named level (hmem level hlevel), ?_,
    fun level hlevel => h.entered level (hmem level hlevel), ?_⟩
  · have hapart : (run.id :: run.nested.map Level.id).Nodup := h.apart
    rw [hnested] at hapart
    exact (List.nodup_cons.mp hapart).2
  · intro level hlevel id nodes hcites
    obtain ⟨hnamed, hentered, hothers⟩ := h.cited level (hmem level hlevel) id nodes hcites
    exact ⟨hnamed, hentered, fun other hother => hothers other (hmem other hother)⟩

/-- The nested run waits at its node, and goes on there once it is resumed. -/
theorem Ongoing.inner (h : run.Ongoing world) {inner : Level} {below : List Level}
    (hnested : run.nested = inner :: below) (flow : FlowId) :
    ({ inner with nested := below } : Run).Underway (world.look flow).2 := by
  have hsilent : world.Silent (world.look flow).2 := world.silent_look flow
  have hrests := h.rests
  rw [hnested] at hrests
  obtain ⟨hinner, hbelow⟩ := List.forall_mem_cons.mp hrests
  exact ⟨⟨(h.story.inner hnested).silent hsilent rfl (.refl _) rfl,
    fun level hlevel => (hbelow level hlevel).of_tale rfl, hinner.unended⟩, hinner.here⟩

/-- A run that has just got its identifier goes on. -/
theorem Ongoing.begun (hworld : world.Orderly) (hid : run.id = world.newRun.1)
    (hhistory : run.history = []) (hnested : run.nested = []) : run.Ongoing world.newRun.2 where
  story := .begun hworld hid hhistory hnested
  rests := by simp [hnested]
  unended := by
    rw [hid]
    exact hworld.open_newRun

/-- A run that has begun and was driven: all that it owns is new, no tale that there was has
changed, and every run that began on the way has a tale. -/
structure Arises (world world' : World) (run : Run) : Prop where
  ahead : world.Ahead world'
  kept : run.Kept world'
  frame : ∀ id, world.Named id → world'.tale id = world.tale id
  spoken : ∀ id, Tale.Spoken (world.tale id) (world'.tale id)
  begun : ∀ id, ¬world.Named id → world'.Named id →
    Tale.Spoke (world.tale id) (world'.tale id)
  owned : ∀ id, run.Owns id → ¬world.Named id

theorem Recounts.arises {first : World} {fresh run' : Run} (hsilent : world.Silent first)
    (hid : fresh.id = first.newRun.1) (hhistory : fresh.history = []) (hnested : fresh.nested = [])
    (h : Recounts [] first.newRun.2 fresh world' run') : Arises world world' run' := by
  have hahead : world.Ahead first.newRun.2 := hsilent.ahead.trans (World.ahead_newRun first)
  have hsame (id : Identifier) : first.newRun.2.tale id = world.tale id :=
    World.tale_of_events hsilent.events id
  have hnew : ¬world.Named fresh.id := by
    rw [← hsilent.named_iff, hid]
    exact first.newRun_not_named
  refine ⟨hahead.trans h.ahead, h.kept, ?_, ?_, ?_, ?_⟩
  · intro id hid
    have hother : id ≠ fresh.id := by
      rintro rfl
      exact hnew hid
    rw [h.frame id (hahead.named hid) hother (by simp)]
    exact hsame id
  · intro id
    rw [← hsame id]
    by_cases hown : id = fresh.id
    · rw [hown]
      exact .inr h.spoke
    · exact h.spoken id hown
  · intro id hunnamed hnamed
    rw [← hsame id]
    by_cases hown : id = fresh.id
    · rw [hown]
      exact h.spoke
    · refine h.begun id ?_ hnamed
      rw [World.named_newRun_iff, ← hid, hsilent.named_iff]
      exact not_or.mpr ⟨hown, hunnamed⟩
  · intro id howns
    rcases h.owned howns with hnew' | ⟨other, hother, howns⟩
    · exact mt hahead.named hnew'
    · have hlevels : fresh.levels = [fresh.toLevel] := by rw [Run.levels, hnested]
      rw [hlevels] at hother
      obtain rfl := List.mem_singleton.mp hother
      rcases howns with rfl | ⟨nodes', flow, status, hnote⟩
      · exact hnew
      · simp [hhistory, History.remarks] at hnote

theorem Arises.drivenBelow (h : Arises world world' child) :
    DrivenBelow [] world run world' child where
  ahead := h.ahead
  story := h.kept.story
  frame := fun id hid _ => h.frame id hid
  spoken := h.spoken
  begun := h.begun
  levels := fun level hlevel => .inl (h.owned level.id ⟨level, hlevel, .inl rfl⟩)
  cited := fun level hlevel id nodes hcites =>
    .inl (h.owned id ⟨level, hlevel, .inr ⟨nodes, hcites⟩⟩)

/-- A nested run that was resumed changes no tale but its own and those below it. -/
theorem DrivenBelow.of_resumed {first : World} {inner : Level} {below : List Level}
    (hsilent : world.Silent first) (hnested : run.nested = inner :: below)
    (h : Recounts below first { inner with nested := below } world' child) :
    DrivenBelow run.nested world run world' child where
  ahead := hsilent.ahead.trans h.ahead
  story := h.kept.story
  frame := by
    intro id hid hothers
    rw [hnested] at hothers
    obtain ⟨hother, hbelow⟩ := List.forall_mem_cons.mp hothers
    rw [h.frame id (hsilent.ahead.named hid) (Ne.symm hother) hbelow]
    exact World.tale_of_events hsilent.events id
  spoken := by
    intro id
    rw [← World.tale_of_events hsilent.events id]
    by_cases hown : id = inner.id
    · rw [hown]
      exact .inr h.spoke
    · exact h.spoken id hown
  begun := by
    intro id hnew hid
    rw [← World.tale_of_events hsilent.events id]
    exact h.begun id (mt hsilent.named_iff.mp hnew) hid
  levels := by
    have hsame (id : Identifier) : first.tale id = world.tale id :=
      World.tale_of_events hsilent.events id
    rw [hnested]
    refine List.forall_mem_cons.mpr ⟨.inr ⟨inner, .head _, h.id, h.grows, ?_⟩, ?_⟩
    · intro hunchanged
      -- The drive has told something of it.
      rw [← hsame] at hunchanged
      exact absurd hunchanged h.spoke.ne
    · intro level hlevel
      rcases h.nested level hlevel with hnew | ⟨other, hother, hcontinues⟩
      · exact .inl (mt hsilent.ahead.named hnew)
      · refine .inr ⟨other, .tail _ hother, hcontinues.id, hcontinues.grows, ?_⟩
        intro hunchanged
        exact hcontinues.same (by rw [hsame]; exact hunchanged)
  cited := by
    intro level hlevel id nodes hcites
    rcases h.cited level hlevel id nodes hcites with hnew | ⟨other, hother, howns⟩
    · exact .inl (mt hsilent.ahead.named hnew)
    · exact .inr ⟨other, hnested ▸ hother, howns⟩

/-- Once a nested run was driven the run is under way again: with the nested run, which waits, or
without it, if it has ended. -/
theorem DrivenBelow.settled {reach : List Level}
    (hchild : DrivenBelow reach world run world' child) (hkept : child.Kept world')
    (h : run.Underway world) (hreach : ∀ level ∈ reach, level ∈ run.nested) (flow : FlowId)
    (around : Surroundings) :
    (Subflow.settle flow around (run.withChild child)).2.Underway world' ∧
      Tells [] world' (run.withChild child) world'
        (Subflow.settle flow around (run.withChild child)).2 := by
  have hjoined := hchild.story_withChild h.story hreach
  have hown : world'.tale run.id = world.tale run.id :=
    hchild.frame run.id h.story.own_named fun level hlevel =>
      h.story.nested_ne (hreach level hlevel)
  have hopen : (world'.tale (run.withChild child).id).Open := by
    change (world'.tale run.id).Open
    rw [hown]
    exact h.unended
  have hhere : (world'.tale (run.withChild child).id).At (run.withChild child).node := by
    change (world'.tale run.id).At run.node
    rw [hown]
    exact h.here
  rcases hkept.ends with ⟨hstatus, hwaiting⟩ | ⟨hterminal, -⟩
  · have hwaits : (Subflow.settle flow around (run.withChild child)).2 = run.withChild child := by
      cases hpending : child.suspension <;> simp [Subflow.settle, hstatus, hpending]
    rw [hwaits]
    exact ⟨⟨⟨hjoined, List.forall_mem_cons.mpr ⟨hwaiting, hkept.rests⟩, hopen⟩, hhere⟩,
      .of_goesOn (.refl _) (fun _ h => h) (fun _ _ => rfl) rfl (.refl _)⟩
  · rw [Drive.settle_ended flow around hterminal]
    exact ⟨hjoined.underway_reclaim hopen hhere, .reclaim world' _⟩

/-- A run goes on after a nested run was driven. -/
theorem Recounts.of_nested {reach : List Level} {first : World} {run' : Run} (flow : FlowId)
    (around : Surroundings) (h : run.Underway world)
    (hreach : ∀ level ∈ reach, level ∈ run.nested)
    (hchild : DrivenBelow reach world run first child) (hkept : child.Kept first)
    (hrest : (Subflow.settle flow around (run.withChild child)).2.Underway first →
      Recounts [] first (Subflow.settle flow around (run.withChild child)).2 world' run') :
    Recounts reach world run world' run' := by
  have hown : first.tale run.id = world.tale run.id :=
    hchild.frame run.id h.story.own_named fun level hlevel =>
      h.story.nested_ne (hreach level hlevel)
  obtain ⟨hsettled, htells⟩ := hchild.settled hkept h hreach flow around
  exact .later h.story (hchild.tells.trans htells h.story hchild.story.told) hown
    hchild.story.told (hrest hsettled)

end Run

namespace Drive

open Run

variable {bounds : Bounds}

/-- The levels that a payload is handed down to. -/
def Phase.reach (run : Run) : Phase → List Level
  | .level _ (some _) | .walk _ _ (some _) => run.nested
  | .level _ none | .walk _ _ none | .leave .. => []

/-- How it stands with a run before a phase: it goes on, and has come to its node unless the phase
is to enter it. -/
def Phase.Scene (world : World) (run : Run) : Phase → Prop
  | .level _ none => run.Ongoing world
  | .level _ (some _) | .walk .. | .leave .. => run.Underway world

theorem goesOn_entering (run : Run) (node : NodeId) :
    run.toLevel.GoesOn (run.awake.entering bounds node).toLevel := by
  have hentered := Level.GoesOn.enter run.toLevel node bounds.now
  exact ⟨hentered.id, hentered.grows, hentered.cites⟩

/-- A level that begins is under way at its node. -/
theorem underway_entering {world : World} {run : Run} (h : run.Ongoing world)
    (bounds : Bounds) :
    (run.awake.entering bounds run.node).Underway (world.told bounds run run.node .nodeEntered) :=
  h.entered rfl (goesOn_entering run run.node) rfl (History.nodes_enter _ _ _)

/-- A level that goes on is under way at the next node. -/
theorem underway_next {world : World} {run : Run} (h : run.Underway world) (bounds : Bounds)
    (next : NodeId) : (run.entering bounds next).Underway
      ((world.told bounds run run.node .nodeCompleted).told bounds run next .nodeEntered) :=
  (h.completed bounds).entered rfl (.enter _ _ _) rfl (History.nodes_enter _ _ _)

/-- A nested run that has just begun goes on. -/
theorem ongoing_begun {world : World} {run : Run} (h : run.Ongoing world) (bounds : Bounds)
    (inner : Graph) (flow : FlowId) :
    (run.begun bounds (world.look flow).2.newRun.1 inner flow).Ongoing
      (world.look flow).2.newRun.2 :=
  .begun (h.story.told.silent (world.silent_look flow)) rfl rfl rfl

/-- What the drive of a nested run that has begun tells is told below the run around it. -/
theorem drivenBelow_begun {world world' : World} {run child : Run} {inner : Graph} {flow : FlowId}
    (h : Recounts [] (world.look flow).2.newRun.2
      (run.begun bounds (world.look flow).2.newRun.1 inner flow) world' child) :
    DrivenBelow [] world run.givingAway world' child :=
  (h.arises (world.silent_look flow) rfl rfl rfl).drivenBelow

/-- A drive recounts what it does. -/
theorem Course.recounts {phase : Phase} {world world' : World} {run run' : Run}
    (h : Course bounds phase world run world' run') (hscene : phase.Scene world run) :
    Recounts (phase.reach run) world run world' run' := by
  induction h with
  | enter rest ih =>
      have hafter := underway_entering hscene bounds
      exact .entered hscene.story hafter rfl (goesOn_entering _ _) (ih hafter)
  | wake rest ih => exact .awake (ih hscene.awake)
  | exhausted => exact (Recounts.failing hscene.toOngoing _ _).widen
  | missing hnode => exact (Recounts.failing hscene.toOngoing _ _).widen
  | plain hnode hplain hstep rest ih =>
      have hstepped := Behaviour.stepped hplain hstep
      have hafter := hscene.stepped hstepped.quiet hstepped.visit hstepped.nested
      exact .widen (.stepped hscene hstepped.quiet hstepped.visit hstepped.nested (ih hafter))
  | tooDeep hnode hflow hdepth rest ih => exact ih hscene
  | unloadable hnode hflow hdepth hlook rest ih => exact ih hscene
  | @nest graph left world run node flow inner world₁ child world' run' hnode hflow hdepth hlook
      drive rest ihDrive ih =>
      have hdriven := ihDrive (ongoing_begun hscene.toOngoing bounds inner flow)
      -- The nested run owns nothing that had a name, so no tale that there was has changed.
      have hrecounts : Recounts [] world run.givingAway world' run' :=
        .of_nested flow (alone bounds node) hscene.givingAway (by simp)
          (drivenBelow_begun hdriven) hdriven.kept ih
      have htells : Tells [] world run world run.givingAway :=
        .of_goesOn (.refl _) (fun _ h => h) (fun _ _ => rfl) rfl (.of_history rfl rfl)
      exact .later hscene.story htells rfl hscene.story.told hrecounts
  | orphan hnode hflow hnested rest ih => exact .widen (ih hscene)
  | lost hnode hflow hnested hlook rest ih =>
      have hafter := hscene.story.underway_reclaim hscene.unended hscene.here
      exact .widen (.later hscene.story (.reclaim _ _) rfl hscene.story.told (ih hafter))
  | @pass graph left payload world run node flow child below inner world₁ ended world' run' hnode
      hflow hnested hlook drive rest ihDrive ih =>
      have hdriven := ihDrive (hscene.inner hnested child.flow)
      have hresumed : DrivenBelow run.nested world run world₁ ended :=
        .of_resumed (world.silent_look child.flow) hnested hdriven
      exact .of_nested flow (alone bounds node) hscene (fun _ hlevel => hlevel) hresumed
        hdriven.kept ih
  | @go graph left next world run world' run' hnext rest ih =>
      have hafter := underway_next hscene bounds next
      exact .completed hscene
        (.entered (hscene.completed bounds).story hafter rfl (.enter _ _ _) (ih hafter))
  | astray hnext => exact .completed hscene (.failing (hscene.completed bounds) _ _)
  | complete =>
      exact .completed hscene
        (.ending (hscene.completed bounds) rfl (.of_history rfl rfl) rfl rfl rfl (.inr ⟨rfl, rfl⟩))
  | suspend =>
      exact .ending hscene.toOngoing rfl (.of_history rfl rfl) rfl rfl rfl (.inl ⟨rfl, _, rfl⟩)
  | fail => exact .failing hscene.toOngoing _ _

/-! ## All parts of a drive -/

/-- What a stretch goes on with finds the run as it has to. -/
theorem Leg.Then.scene {first second : Leg} (h : first.Then bounds second)
    (hscene : first.phase.Scene first.world first.run) :
    second.phase.Scene second.world second.run := by
  cases h with
  | enter => exact underway_entering hscene bounds
  | wake => exact hscene.awake
  | plain hnode hplain hstep =>
      have hstepped := Behaviour.stepped hplain hstep
      exact hscene.stepped hstepped.quiet hstepped.visit hstepped.nested
  | tooDeep hnode hflow hdepth => exact hscene
  | unloadable hnode hflow hdepth hlook => exact hscene
  | @nest graph left world run node flow inner world₁ child world' run' hnode hflow hdepth hlook
      drive =>
      -- The step ends with the drive of the nested run, so this is recounted first.
      have hdriven := drive.recounts (ongoing_begun hscene.toOngoing bounds inner flow)
      exact ((drivenBelow_begun hdriven).settled hdriven.kept hscene.givingAway (by simp) flow
        (alone bounds node)).1
  | orphan hnode hflow hnested => exact hscene
  | lost hnode hflow hnested hlook =>
      exact hscene.story.underway_reclaim hscene.unended hscene.here
  | @pass graph left payload world run node flow child below inner world₁ ended world' run' hnode
      hflow hnested hlook drive =>
      have hdriven := drive.recounts (hscene.inner hnested child.flow)
      have hresumed : DrivenBelow run.nested world run world₁ ended :=
        .of_resumed (world.silent_look child.flow) hnested hdriven
      exact (hresumed.settled hdriven.kept hscene (fun _ hlevel => hlevel) flow
        (alone bounds node)).1
  | go hnext => exact underway_next hscene bounds _

/-- A nested drive finds its run as it has to. -/
theorem Leg.Hosts.scene {host lower : Leg} {waiting : Run} (h : host.Hosts bounds waiting lower)
    (hscene : host.phase.Scene host.world host.run) :
    lower.phase.Scene lower.world lower.run := by
  cases h with
  | nest hnode hflow hdepth hlook rest => exact ongoing_begun hscene.toOngoing bounds _ _
  | pass hnode hflow hnested hlook rest => exact hscene.inner hnested _

/-- Every part of a drive, however deeply it is nested, tells of its run up to one entry that
settles it, and no other one. -/
theorem Part.spoke {whole part : Leg} {outer : List Run} (h : Part bounds whole outer part)
    (hscene : whole.phase.Scene whole.world whole.run) :
    Tale.Spoke (part.world.tale part.run.id) (part.world'.tale part.run.id) := by
  induction h with
  | whole goes =>
      have hcourse : Course bounds _ _ _ _ _ := goes
      exact (hcourse.recounts hscene).spoke
  | after next rest ih => exact ih (next.scene hscene)
  | within hosts rest ih => exact ih (hosts.scene hscene)

end Drive

end Dialogue
