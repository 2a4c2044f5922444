import Dialogue.Proofs.Drive.Shape
import Dialogue.Proofs.Step.Effect
import Dialogue.Proofs.World.Tale

/-!
# The story of a drive

A drive writes the history of every level that it drives, and tells the observers
of it.  Both are the same story: the nodes that were entered are the nodes of the
history, and those of a nested run that has ended are kept in the note about it.

A drive changes the tales of its own run, of the levels that it hands a payload
down to, and of runs that it begins; `Tells` says so.  For this the identifiers
of all levels have to be apart from each other, and from those of the runs that
notes are about, which is a part of the `Story` of a run.
-/

namespace Dialogue

/-! ## Levels -/

namespace Level

/-- A level has a note about a nested run that has visited some nodes. -/
def Cites (level : Level) (id : Identifier) (nodes : List NodeId) : Prop :=
  ∃ flow status, .subflow flow id status nodes ∈ level.history.remarks

/-- A level after something was done that ended no nested run. -/
structure GoesOn (before after : Level) : Prop where
  id : after.id = before.id
  grows : before.history.Grows after.history
  cites : ∀ id nodes, after.Cites id nodes → before.Cites id nodes

/-- What a level has become between two worlds; a level of which nothing was told is the same. -/
structure Continues (world : World) (before : Level) (world' : World) (after : Level) : Prop where
  id : after.id = before.id
  grows : before.history.Grows after.history
  same : world'.tale before.id = world.tale before.id → after = before

/-- A level that was there is what one of some levels has become; any other one is new. -/
def ComesFrom (levels : List Level) (world world' : World) (after : Level) : Prop :=
  ¬world.Named after.id ∨ ∃ level ∈ levels, level.Continues world world' after

/-- A level has come to its node and waits there. -/
structure Rests (world : World) (level : Level) : Prop where
  unended : (world.tale level.id).Open
  last : ∃ reason, (world.tale level.id).getLast? = some (level.node, .runPaused reason)

variable {level : Level}

/-- Who rests goes on to do so as long as nothing is told. -/
theorem Rests.of_tale {world world' : World} (h : level.Rests world)
    (hsame : world'.tale level.id = world.tale level.id) : level.Rests world' := by
  constructor
  · rw [hsame]
    exact h.unended
  · rw [hsame]
    exact h.last

theorem Rests.here {world : World} (h : level.Rests world) :
    (world.tale level.id).At level.node := .inr h.last

theorem GoesOn.refl (level : Level) : level.GoesOn level := ⟨rfl, .refl _, fun _ _ h => h⟩

/-- The history is as it was. -/
theorem GoesOn.of_history {after : Level} (hid : after.id = level.id)
    (hhistory : after.history = level.history) : level.GoesOn after where
  id := hid
  grows := by
    rw [hhistory]
    exact .refl _
  cites := by
    intro id nodes h
    rw [Cites, hhistory] at h
    exact h

theorem GoesOn.of_noted {after : Level} (hid : after.id = level.id)
    (hnotes : level.history.Noted after.history) : level.GoesOn after where
  id := hid
  grows := hnotes.grows
  cites := by
    rintro id nodes ⟨flow, status, h⟩
    exact ⟨flow, status, hnotes.mem_remarks rfl h⟩

theorem GoesOn.enter (level : Level) (node : NodeId) (time : Instant) :
    level.GoesOn (level.enter node time) where
  id := rfl
  grows := History.grows_enter _ _ _
  cites := by
    rintro id nodes ⟨flow, status, h⟩
    change _ ∈ (level.history.enter node time).remarks at h
    rw [History.remarks_enter] at h
    exact ⟨flow, status, h⟩

theorem GoesOn.fail (level : Level) (kind : FailureKind) (message : String) (time : Instant) :
    level.GoesOn (level.fail kind message time) :=
  .of_noted rfl (.note (.refl _) (.failure kind message) rfl)

/-- A level that has taken a nested run back tells of it, too. -/
theorem cites_absorb {child : Level} {id : Identifier} {nodes : List NodeId}
    (h : (level.absorb child).Cites id nodes) :
    (id = child.id ∧ nodes = child.history.nodes) ∨ level.Cites id nodes := by
  obtain ⟨flow, status, hnote⟩ := h
  rcases History.mem_remarks_note hnote with hnew | hold
  · obtain ⟨-, rfl, -, rfl⟩ := Note.subflow.inj hnew
    exact .inl ⟨rfl, rfl⟩
  · exact .inr ⟨flow, status, hold⟩

theorem Continues.refl (world world' : World) (level : Level) :
    level.Continues world world' level := ⟨rfl, .refl _, fun _ => rfl⟩

theorem Continues.trans {world first world' : World} {middle after : Level}
    (h : level.Continues world first middle) (h' : middle.Continues first world' after)
    (hahead : world.Ahead first) (hahead' : first.Ahead world') :
    level.Continues world world' after where
  id := h'.id.trans h.id
  grows := h.grows.trans h'.grows
  same := by
    intro hsame
    have hbefore := hahead.tale level.id
    have hafter := hahead'.tale level.id
    rw [hsame] at hafter
    -- A tale that is the same in the end has not changed on the way.
    have hmiddle : first.tale level.id = world.tale level.id :=
      (hafter.eq_of_length_le hbefore.length_le)
    have hid : middle = level := h.same hmiddle
    subst hid
    exact h'.same (hsame.trans hmiddle.symm)

theorem ComesFrom.trans {levels middle : List Level} {world first world' : World} {after : Level}
    (h' : after.ComesFrom middle first world')
    (h : ∀ level ∈ middle, level.ComesFrom levels world first) (hahead : world.Ahead first)
    (hahead' : first.Ahead world') : after.ComesFrom levels world world' := by
  rcases h' with hnew | ⟨level₁, hlevel₁, hlater⟩
  · exact .inl (mt hahead.named hnew)
  · rcases h level₁ hlevel₁ with hnew | ⟨level, hlevel, hcontinues⟩
    · exact .inl (hlater.id ▸ hnew)
    · exact .inr ⟨level, hlevel, hcontinues.trans hlater hahead hahead'⟩

end Level

/-! ## The story of a run -/

namespace Run

/-- The identifiers of the levels of a run, and of the nested runs that its notes are about. -/
def Owns (run : Run) (id : Identifier) : Prop :=
  ∃ level ∈ run.levels, level.id = id ∨ ∃ nodes, level.Cites id nodes

/-- The histories of a run and what the observers were told of it are the same. -/
structure Story (world : World) (run : Run) : Prop where
  told : world.Orderly
  named : ∀ level ∈ run.levels, world.Named level.id
  apart : (run.levels.map Level.id).Nodup
  entered : ∀ level ∈ run.levels, (world.tale level.id).entered = level.history.nodes
  cited : ∀ level ∈ run.levels, ∀ id nodes, level.Cites id nodes →
    world.Named id ∧ (world.tale id).entered = nodes ∧ ∀ other ∈ run.levels, other.id ≠ id

variable {world world' : World} {run after child : Run}

theorem own_mem (run : Run) : run.toLevel ∈ run.levels := .head _

theorem nested_mem {level : Level} (h : level ∈ run.nested) : level ∈ run.levels := .tail _ h

theorem nested_reclaim (run : Run) : run.reclaim.nested = [] := by
  unfold Run.reclaim
  split
  · assumption
  · rfl

namespace Story

theorem own_named (h : run.Story world) : world.Named run.id := h.named _ run.own_mem

theorem nested_ne (h : run.Story world) {level : Level} (hlevel : level ∈ run.nested) :
    level.id ≠ run.id := by
  have hapart : (run.id :: run.nested.map Level.id).Nodup := h.apart
  intro hid
  exact (List.nodup_cons.mp hapart).1 (hid ▸ List.mem_map_of_mem hlevel)

/-- What is done in the outermost level and told of it. -/
theorem change (h : run.Story world) (hworld : world'.Orderly) (hahead : world.Ahead world')
    (hothers : ∀ id, id ≠ run.id → world'.tale id = world.tale id)
    (hnested : after.nested = run.nested) (hgoes : run.toLevel.GoesOn after.toLevel)
    (hentered : (world'.tale run.id).entered = after.history.nodes) : after.Story world' := by
  have hlevels : after.levels = after.toLevel :: run.nested := by rw [levels, hnested]
  have hids : after.levels.map Level.id = run.levels.map Level.id := by
    rw [hlevels, List.map_cons, hgoes.id]
    rfl
  have hother : ∀ other ∈ after.levels, ∃ level ∈ run.levels, level.id = other.id := by
    intro other hother
    have hmem : other.id ∈ run.levels.map Level.id := hids ▸ List.mem_map_of_mem hother
    exact List.mem_map.mp hmem
  -- The notes of all levels are those that there were.
  have hcites : ∀ level ∈ after.levels, ∀ id nodes, level.Cites id nodes →
      ∃ level' ∈ run.levels, level'.Cites id nodes := by
    intro level hlevel id nodes hcites
    rw [hlevels] at hlevel
    rcases List.mem_cons.mp hlevel with rfl | hlevel
    · exact ⟨_, run.own_mem, hgoes.cites id nodes hcites⟩
    · exact ⟨level, nested_mem hlevel, hcites⟩
  refine ⟨hworld, ?_, hids ▸ h.apart, ?_, ?_⟩
  · intro level hlevel
    obtain ⟨level', hlevel', hid⟩ := hother level hlevel
    exact hid ▸ hahead.named (h.named level' hlevel')
  · intro level hlevel
    rw [hlevels] at hlevel
    rcases List.mem_cons.mp hlevel with rfl | hlevel
    · rw [hgoes.id]
      exact hentered
    · rw [hothers _ (h.nested_ne hlevel)]
      exact h.entered level (nested_mem hlevel)
  · intro level hlevel id nodes hnote
    obtain ⟨level', hlevel', hnote'⟩ := hcites level hlevel id nodes hnote
    obtain ⟨hnamed, hentered, hothers'⟩ := h.cited level' hlevel' id nodes hnote'
    refine ⟨hahead.named hnamed, ?_, ?_⟩
    · rw [hothers id (hothers' _ run.own_mem).symm]
      exact hentered
    · intro other hmem
      obtain ⟨level'', hlevel'', hid⟩ := hother other hmem
      exact hid ▸ hothers' level'' hlevel''

/-- Work of which nobody is told and that enters no node. -/
theorem silent (h : run.Story world) (hsilent : world.Silent world')
    (hnested : after.nested = run.nested) (hgoes : run.toLevel.GoesOn after.toLevel)
    (hnodes : after.history.nodes = run.history.nodes) : after.Story world' := by
  refine h.change (h.told.silent hsilent) hsilent.ahead ?_ hnested hgoes ?_
  · exact fun id _ => World.tale_of_events hsilent.events id
  · rw [World.tale_of_events hsilent.events, hnodes]
    exact h.entered _ run.own_mem

/-- The nested runs are over, and notes tell of them. -/
theorem close (h : run.Story world) {own : Level} (hid : own.id = run.id)
    (hnodes : own.history.nodes = run.history.nodes)
    (hcites : ∀ id nodes, own.Cites id nodes → run.toLevel.Cites id nodes ∨
      ∃ inner ∈ run.nested, id = inner.id ∧ nodes = inner.history.nodes) :
    (ofLevel own).Story world := by
  have hlevels : (ofLevel own).levels = [own] := rfl
  refine ⟨h.told, ?_, by simp [hlevels], ?_, ?_⟩
  · intro level hlevel
    obtain rfl := List.mem_singleton.mp hlevel
    rw [hid]
    exact h.own_named
  · intro level hlevel
    obtain rfl := List.mem_singleton.mp hlevel
    rw [hid, hnodes]
    exact h.entered _ run.own_mem
  · intro level hlevel id nodes hnote
    obtain rfl := List.mem_singleton.mp hlevel
    have hown : run.id ≠ id → ∀ other ∈ [level], other.id ≠ id := by
      intro hne other hother
      obtain rfl := List.mem_singleton.mp hother
      exact hid ▸ hne
    rcases hcites id nodes hnote with hold | ⟨inner, hinner, rfl, rfl⟩
    · obtain ⟨hnamed, hentered, hothers⟩ := h.cited _ run.own_mem id nodes hold
      exact ⟨hnamed, hentered, hown (hothers _ run.own_mem)⟩
    · have hmem := nested_mem hinner
      exact ⟨h.named inner hmem, h.entered inner hmem, hown (h.nested_ne hinner).symm⟩

/-- A nested run is taken back. -/
theorem reclaim (h : run.Story world) : run.reclaim.Story world := by
  unfold Run.reclaim
  split
  · exact h
  · next child below hnested =>
    refine h.close rfl (History.nodes_note _ _) fun id nodes hcites => ?_
    rcases Level.cites_absorb hcites with hnew | hold
    · exact .inr ⟨child, hnested ▸ .head _, hnew⟩
    · exact .inl hold

/-- A run that has just got its identifier. -/
theorem begun (hworld : world.Orderly) (hid : run.id = world.newRun.1) (hhistory : run.history = [])
    (hnested : run.nested = []) : run.Story world.newRun.2 := by
  have hlevels : run.levels = [run.toLevel] := by rw [levels, hnested]
  refine ⟨hworld.newRun, ?_, by simp [hlevels], ?_, ?_⟩
  · intro level hlevel
    rw [hlevels] at hlevel
    obtain rfl := List.mem_singleton.mp hlevel
    exact World.named_newRun_iff.mpr (.inl hid)
  · intro level hlevel
    rw [hlevels] at hlevel
    obtain rfl := List.mem_singleton.mp hlevel
    have htale : world.newRun.2.tale run.id = [] :=
      hworld.unnamed run.id (hid ▸ world.newRun_not_named)
    rw [htale, hhistory]
    rfl
  · intro level hlevel id nodes hcites
    rw [hlevels] at hlevel
    obtain rfl := List.mem_singleton.mp hlevel
    obtain ⟨flow, status, hnote⟩ := hcites
    simp [hhistory, History.remarks] at hnote

end Story

/-- A nested run that was driven below a run, among the levels that it may have been handed a
payload for. -/
structure DrivenBelow (reach : List Level) (world : World) (run : Run) (world' : World)
    (child : Run) : Prop where
  ahead : world.Ahead world'
  story : child.Story world'
  frame : ∀ id, world.Named id → (∀ level ∈ reach, level.id ≠ id) →
    world'.tale id = world.tale id
  spoken : ∀ id, Tale.Spoken (world.tale id) (world'.tale id)
  begun : ∀ id, ¬world.Named id → world'.Named id →
    Tale.Spoke (world.tale id) (world'.tale id)
  levels : ∀ level ∈ child.levels, level.ComesFrom run.nested world world'
  cited : ∀ level' ∈ child.levels, ∀ id nodes, level'.Cites id nodes → ¬world.Named id ∨
    ∃ level ∈ run.nested, level.id = id ∨ ∃ nodes, level.Cites id nodes

/-- The story of a run goes on with that of the nested run. -/
theorem DrivenBelow.story_withChild {reach : List Level}
    (hchild : DrivenBelow reach world run world' child) (h : run.Story world)
    (hreach : ∀ level ∈ reach, level ∈ run.nested) : (run.withChild child).Story world' := by
  have hframe : ∀ id, world.Named id → (∀ level ∈ run.nested, level.id ≠ id) →
      world'.tale id = world.tale id :=
    fun id hid hothers =>
      hchild.frame id hid fun level hlevel => hothers level (hreach level hlevel)
  -- The levels of the nested run have been below the run, or they are new.
  have hlevels : ∀ level ∈ child.levels, ∀ id, world.Named id →
      (∀ other ∈ run.nested, other.id ≠ id) → level.id ≠ id := by
    rintro level hlevel id hid hothers rfl
    rcases hchild.levels level hlevel with hnew | ⟨other, hother, hcontinues⟩
    · exact hnew hid
    · exact hothers other hother hcontinues.id.symm
  have hown : ∀ level ∈ child.levels, level.id ≠ run.id := fun level hlevel =>
    hlevels level hlevel run.id h.own_named fun other hother => h.nested_ne hother
  refine ⟨hchild.story.told, ?_, ?_, ?_, ?_⟩
  · refine List.forall_mem_cons.mpr ⟨hchild.ahead.named h.own_named, hchild.story.named⟩
  · refine List.nodup_cons.mpr ⟨?_, hchild.story.apart⟩
    intro hmem
    obtain ⟨level, hlevel, hid⟩ := List.mem_map.mp hmem
    exact hown level hlevel hid
  · refine List.forall_mem_cons.mpr ⟨?_, hchild.story.entered⟩
    have hsame : world'.tale run.id = world.tale run.id :=
      hframe run.id h.own_named fun level hlevel => h.nested_ne hlevel
    change (world'.tale run.id).entered = run.history.nodes
    rw [hsame]
    exact h.entered _ run.own_mem
  · refine List.forall_mem_cons.mpr ⟨?_, ?_⟩
    · intro id nodes hcites
      obtain ⟨hnamed, hentered, hothers⟩ := h.cited _ run.own_mem id nodes hcites
      have hothers' : ∀ level ∈ run.nested, level.id ≠ id :=
        fun level hlevel => hothers level (nested_mem hlevel)
      refine ⟨hchild.ahead.named hnamed, ?_, ?_⟩
      · rw [hframe id hnamed hothers']
        exact hentered
      · exact List.forall_mem_cons.mpr ⟨hothers _ run.own_mem, fun level hlevel =>
          hlevels level hlevel id hnamed hothers'⟩
    · intro level hlevel id nodes hcites
      obtain ⟨hnamed, hentered, hothers⟩ := hchild.story.cited level hlevel id nodes hcites
      refine ⟨hnamed, hentered, List.forall_mem_cons.mpr ⟨?_, hothers⟩⟩
      rintro rfl
      rcases hchild.cited level hlevel _ nodes hcites with hnew | ⟨other, hother, hid | hcited⟩
      · exact hnew h.own_named
      · exact h.nested_ne hother hid
      · obtain ⟨nodes', hcited⟩ := hcited
        exact (h.cited other (nested_mem hother) _ nodes' hcited).2.2 _ run.own_mem rfl

/-! ## What a drive tells -/

/-- What has been told between a run and what has become of it: only the run itself, the levels that
a payload may have been handed to and new runs have more to their tales, and every new run has. -/
structure Tells (reach : List Level) (world : World) (run : Run) (world' : World) (run' : Run) :
    Prop where
  ahead : world.Ahead world'
  id : run'.id = run.id
  frame : ∀ id, world.Named id → id ≠ run.id → (∀ level ∈ reach, level.id ≠ id) →
    world'.tale id = world.tale id
  spoken : ∀ id, id ≠ run.id → Tale.Spoken (world.tale id) (world'.tale id)
  begun : ∀ id, ¬world.Named id → world'.Named id →
    Tale.Spoke (world.tale id) (world'.tale id)
  grows : run.history.Grows run'.history
  nested : ∀ level ∈ run'.nested, level.ComesFrom run.nested world world'
  cited : ∀ level' ∈ run'.levels, ∀ id nodes, level'.Cites id nodes →
    ¬world.Named id ∨ run.Owns id

namespace Tells

variable {reach : List Level} {run' : Run}

/-- Nothing is told of other runs, and nothing happens to nested ones but that they go. -/
theorem of_own (hahead : world.Ahead world') (hid : run'.id = run.id)
    (hnamed : ∀ id, world'.Named id → world.Named id)
    (hothers : ∀ id, id ≠ run.id → world'.tale id = world.tale id)
    (hgrows : run.history.Grows run'.history)
    (hnested : ∀ level ∈ run'.nested, level ∈ run.nested)
    (hcited : ∀ id nodes, run'.toLevel.Cites id nodes → run.Owns id) :
    Tells [] world run world' run' where
  ahead := hahead
  id := hid
  frame := fun id _ hother _ => hothers id hother
  spoken := fun id hother => .inl (hothers id hother)
  begun := fun id hnew hid => absurd (hnamed id hid) hnew
  grows := hgrows
  nested := fun level hlevel => .inr ⟨level, hnested level hlevel, .refl _ _ level⟩
  cited := by
    intro level hlevel id nodes hcites
    rcases List.mem_cons.mp hlevel with rfl | hlevel
    · exact .inr (hcited id nodes hcites)
    · exact .inr ⟨level, nested_mem (hnested level hlevel), .inr ⟨nodes, hcites⟩⟩

/-- What is done in the outermost level and told of it. -/
theorem of_goesOn (hahead : world.Ahead world')
    (hnamed : ∀ id, world'.Named id → world.Named id)
    (hothers : ∀ id, id ≠ run.id → world'.tale id = world.tale id)
    (hnested : run'.nested = run.nested) (hgoes : run.toLevel.GoesOn run'.toLevel) :
    Tells [] world run world' run' := by
  refine .of_own hahead hgoes.id hnamed hothers hgoes.grows ?_ ?_
  · intro level hlevel
    exact hnested ▸ hlevel
  · intro id nodes hcites
    exact ⟨_, run.own_mem, .inr ⟨nodes, hgoes.cites id nodes hcites⟩⟩

theorem reclaim (world : World) (run : Run) : Tells [] world run world run.reclaim := by
  unfold Run.reclaim
  split
  · exact .of_goesOn (.refl _) (fun _ h => h) (fun _ _ => rfl) rfl (.refl _)
  · next child below hnested =>
    refine .of_own (.refl _) rfl (fun _ h => h) (fun _ _ => rfl) (History.grows_note _ _)
      (by simp) ?_
    intro id nodes hcites
    rcases Level.cites_absorb hcites with ⟨rfl, -⟩ | hold
    · exact ⟨child, nested_mem (hnested ▸ .head _), .inl rfl⟩
    · exact ⟨_, run.own_mem, .inr ⟨nodes, hold⟩⟩

/-- What a run owns in the end it has owned before, or it is new. -/
theorem owned (h : Tells reach world run world' run') {id : Identifier} (howns : run'.Owns id) :
    ¬world.Named id ∨ run.Owns id := by
  obtain ⟨level', hlevel', rfl | ⟨nodes, hcites⟩⟩ := howns
  · rcases List.mem_cons.mp hlevel' with rfl | hlevel'
    · rw [h.id]
      exact .inr ⟨_, run.own_mem, .inl rfl⟩
    · rcases h.nested level' hlevel' with hnew | ⟨level, hlevel, hcontinues⟩
      · exact .inl hnew
      · exact .inr ⟨level, nested_mem hlevel, .inl hcontinues.id.symm⟩
  · exact h.cited level' hlevel' id nodes hcites

/-- A drive may tell of fewer levels than it could. -/
theorem widen (h : Tells [] world run world' run') : Tells reach world run world' run' :=
  { h with frame := fun id hid hother _ => h.frame id hid hother (by simp) }

/-- A drive goes on without handing a payload down. -/
theorem trans {first : World} {middle : Run} (h : Tells reach world run first middle)
    (h' : Tells [] first middle world' run') (hstory : run.Story world) (hfirst : first.Orderly) :
    Tells reach world run world' run' where
  ahead := h.ahead.trans h'.ahead
  id := h'.id.trans h.id
  frame := by
    intro id hid hother hreach
    have hmiddle : id ≠ middle.id := h.id.symm ▸ hother
    rw [h'.frame id (h.ahead.named hid) hmiddle (by simp)]
    exact h.frame id hid hother hreach
  spoken := by
    intro id hother
    have hmiddle : id ≠ middle.id := h.id.symm ▸ hother
    by_cases hid : first.Named id
    · rw [h'.frame id hid hmiddle (by simp)]
      exact h.spoken id hother
    · have hnew : ¬world.Named id := mt h.ahead.named hid
      have hspoken := h'.spoken id hmiddle
      rw [hfirst.unnamed id hid, ← hstory.told.unnamed id hnew] at hspoken
      exact hspoken
  begun := by
    intro id hnew hid
    have hmiddle : id ≠ middle.id := by
      rintro rfl
      exact hnew (h.id ▸ hstory.own_named)
    by_cases hfirst' : first.Named id
    · -- It began on the way, and nothing was told of it since.
      rw [h'.frame id hfirst' hmiddle (by simp)]
      exact h.begun id hnew hfirst'
    · rw [hstory.told.unnamed id hnew, ← hfirst.unnamed id hfirst']
      exact h'.begun id hfirst' hid
  grows := h.grows.trans h'.grows
  nested := fun level hlevel => (h'.nested level hlevel).trans h.nested h.ahead h'.ahead
  cited := by
    intro level' hlevel' id nodes hcites
    rcases h'.cited level' hlevel' id nodes hcites with hnew | howns
    · exact .inl (mt h.ahead.named hnew)
    · exact h.owned howns

end Tells

/-- What a nested run has told is told below the run. -/
theorem DrivenBelow.tells {reach : List Level}
    (hchild : DrivenBelow reach world run world' child) :
    Tells reach world run world' (run.withChild child) where
  ahead := hchild.ahead
  id := rfl
  frame := fun id hid _ hreach => hchild.frame id hid hreach
  spoken := fun id _ => hchild.spoken id
  begun := hchild.begun
  grows := .refl _
  nested := hchild.levels
  cited := by
    intro level' hlevel' id nodes hcites
    rcases List.mem_cons.mp hlevel' with rfl | hlevel'
    · exact .inr ⟨_, run.own_mem, .inr ⟨nodes, hcites⟩⟩
    · rcases hchild.cited level' hlevel' id nodes hcites with hnew | ⟨level, hlevel, howns⟩
      · exact .inl hnew
      · exact .inr ⟨level, nested_mem hlevel, howns⟩

end Run

end Dialogue
