import Dialogue.Proofs.Drive.Recounting
import Dialogue.Proofs.Engine.Numbering
import Dialogue.Proofs.Run.Termination

/-!
# The story of a world

Whatever is ordered, the histories of the stored runs and the events that the
observers were told are the same story, for outermost and nested runs alike.  One
order adds to the tale of every run at most one drive, which its last entry
settles, and exactly one to that of a run that begins; and histories only grow.

The stored runs own their identifiers apart from each other, so what is told of
one of them says nothing of another.
-/

namespace Dialogue

namespace Run

variable {world world' : World} {run run' : Run}

theorem Story.owns_named (h : run.Story world) {id : Identifier} (howns : run.Owns id) :
    world.Named id := by
  obtain ⟨level, hlevel, rfl | ⟨nodes, hcites⟩⟩ := howns
  · exact h.named level hlevel
  · exact (h.cited level hlevel id nodes hcites).1

/-- A run of which nothing is told stays as it is. -/
theorem Kept.frame (h : run.Kept world) (hworld : world'.Orderly) (hahead : world.Ahead world')
    (hsame : ∀ id, run.Owns id → world'.tale id = world.tale id) : run.Kept world' := by
  have hlevel : ∀ level ∈ run.levels, world'.tale level.id = world.tale level.id :=
    fun level hlevel => hsame _ ⟨level, hlevel, .inl rfl⟩
  refine ⟨⟨hworld, ?_, h.story.apart, ?_, ?_⟩, ?_, ?_⟩
  · exact fun level hmem => hahead.named (h.story.named level hmem)
  · intro level hmem
    rw [hlevel level hmem]
    exact h.story.entered level hmem
  · intro level hmem id nodes hcites
    obtain ⟨hnamed, hentered, hothers⟩ := h.story.cited level hmem id nodes hcites
    refine ⟨hahead.named hnamed, ?_, hothers⟩
    rw [hsame id ⟨level, hmem, .inr ⟨nodes, hcites⟩⟩]
    exact hentered
  · exact fun level hmem => (h.rests level hmem).of_tale (hlevel level (nested_mem hmem))
  · have hown := hlevel _ run.own_mem
    rcases h.ends with ⟨hstatus, hrests⟩ | ⟨hterminal, hover⟩
    · exact .inl ⟨hstatus, hrests.of_tale hown⟩
    · rw [← hown] at hover
      exact .inr ⟨hterminal, hover⟩

theorem Kept.silent (h : run.Kept world) (hsilent : world.Silent world') : run.Kept world' :=
  h.frame (h.story.told.silent hsilent) hsilent.ahead
    fun id _ => World.tale_of_events hsilent.events id

/-- What is done in silence before and after a drive makes no difference to what it recounts. -/
theorem Recounts.between {reach : List Level} {first second : World}
    (h : Recounts reach first run second run') (hbefore : world.Silent first)
    (hafter : second.Silent world') : Recounts reach world run world' run' := by
  have hfirst (id : Identifier) : first.tale id = world.tale id :=
    World.tale_of_events hbefore.events id
  have hsecond (id : Identifier) : world'.tale id = second.tale id :=
    World.tale_of_events hafter.events id
  refine ⟨⟨?_, h.id, ?_, ?_, ?_, h.grows, ?_, ?_⟩, h.kept.silent hafter, ?_⟩
  · exact hbefore.ahead.trans (h.ahead.trans hafter.ahead)
  · intro id hid hother hreach
    rw [hsecond, ← hfirst]
    exact h.frame id (hbefore.ahead.named hid) hother hreach
  · intro id hother
    rw [hsecond, ← hfirst]
    exact h.spoken id hother
  · intro id hnew hid
    rw [hsecond, ← hfirst]
    exact h.begun id (mt hbefore.named_iff.mp hnew) (hafter.named_iff.mp hid)
  · intro level' hlevel'
    rcases h.nested level' hlevel' with hnew | ⟨level, hlevel, hcontinues⟩
    · exact .inl (mt hbefore.ahead.named hnew)
    · refine .inr ⟨level, hlevel, hcontinues.id, hcontinues.grows, ?_⟩
      rw [hsecond, ← hfirst]
      exact hcontinues.same
  · intro level' hlevel' id nodes hcites
    exact (h.cited level' hlevel' id nodes hcites).imp_left (mt hbefore.ahead.named)
  · rw [hsecond, ← hfirst]
    exact h.spoke

/-- Termination fails the outermost level, once it has noted how the nested run ended. -/
theorem unwind_eq_fail (kind : FailureKind) (message : String) (time : Instant) (level : Level)
    (below : List Level) :
    ∃ own : Level, unwind kind message time level below = own.fail kind message time ∧
      own.id = level.id ∧ own.node = level.node ∧ level.history.Grows own.history ∧
      own.history.nodes = level.history.nodes ∧
      ∀ id nodes, own.Cites id nodes → level.Cites id nodes ∨
        ∃ inner ∈ below, id = inner.id ∧ nodes = inner.history.nodes := by
  cases below with
  | nil => exact ⟨level, rfl, rfl, rfl, .refl _, rfl, fun _ _ hcites => .inl hcites⟩
  | cons child below =>
      refine ⟨level.absorb (unwind kind message time child below), rfl, rfl, rfl,
        History.grows_note _ _, History.nodes_note _ _, ?_⟩
      intro id nodes hcites
      rcases Level.cites_absorb hcites with ⟨hid, hnodes⟩ | hold
      · have hsame := (Run.unwind_ended kind message time child below).1.id
        exact .inr ⟨child, .head _, hid.trans hsame, hnodes.trans (unwind_nodes _ _ _ _ _)⟩
      · exact .inl hold

/-- A termination recounts itself. -/
theorem Kept.terminate (h : run.Kept world) (hunended : run.isTerminal = false) (kind : FailureKind)
    (message : String) :
    Recounts [] world run (world.terminate run kind message).2
      (run.terminate kind message world.bounds.now) := by
  obtain ⟨own, hfail, hid, hnode, hgrows, hnodes, hcites⟩ :=
    unwind_eq_fail kind message world.bounds.now run.toLevel run.nested
  have hended : run.terminate kind message world.bounds.now =
      ofLevel (own.fail kind message world.bounds.now) := by
    rw [Run.terminate, hfail]
  have hclosed : (ofLevel own).Story world := h.story.close hid hnodes hcites
  have htells : Tells [] world run world (ofLevel own) := by
    refine .of_own (.refl _) hid (fun _ h => h) (fun _ _ => rfl) hgrows
      (fun _ hlevel => nomatch hlevel) ?_
    intro id nodes hnote
    rcases hcites id nodes hnote with hold | ⟨inner, hinner, rfl, -⟩
    · exact ⟨_, run.own_mem, .inr ⟨nodes, hold⟩⟩
    · exact ⟨inner, nested_mem hinner, .inl rfl⟩
  have hopen : (world.tale own.id).Open := by
    rw [hid]
    exact (h.underway hunended).unended
  have hfails : Recounts [] world (ofLevel own)
      (world.told world.bounds (ofLevel own) own.node (.runFailed kind message))
      (ofLevel (own.fail kind message world.bounds.now)) :=
    .ending ⟨hclosed, (fun _ hlevel => nomatch hlevel), hopen⟩ rfl (.fail _ _ _ _) rfl
      (History.nodes_note _ _) rfl (.inr ⟨rfl, rfl⟩)
  have hsilent : World.Silent
      (world.told world.bounds (ofLevel own) own.node (.runFailed kind message))
      (world.terminate run kind message).2 := by
    rw [World.terminate, hended, ← hnode]
    exact ⟨rfl, rfl, rfl⟩
  rw [hended]
  exact (Recounts.later h.story htells rfl h.story.told hfails).between (.refl _) hsilent

end Run

namespace World

/-- The stored runs of a world are kept, and own their identifiers apart. -/
structure Chronicled (world : World) : Prop where
  told : world.Orderly
  runs : ∀ run, world.store.find? run.id = some run → run.Kept world
  apart : ∀ run other, world.store.find? run.id = some run →
    world.store.find? other.id = some other → run.id ≠ other.id →
    ∀ id, run.Owns id → ¬other.Owns id

/-- What an order adds: at most one drive to every tale, one drive to that of every run that begins,
and to histories only what comes after.  A level that has been there goes on, and it is the same if
nothing was told of it. -/
structure Adds (world world' : World) : Prop where
  ahead : world.Ahead world'
  spoken : ∀ id, Tale.Spoken (world.tale id) (world'.tale id)
  begun : ∀ id, ¬world.Named id → world'.Named id →
    Tale.Spoke (world.tale id) (world'.tale id)
  runs : ∀ run, world.store.find? run.id = some run →
    ∃ run', world'.store.find? run.id = some run' ∧
      ∀ level ∈ run'.levels, level.ComesFrom run.levels world world'

variable {world world' : World} {run run' : Run}

/-- One run takes its place in the store. -/
theorem Chronicled.replace (h : world.Chronicled) (hahead : world.Ahead world')
    (hkept : run'.Kept world')
    (hstore : ∀ id, world'.store.find? id =
      if run'.id = id then some run' else world.store.find? id)
    (howned : ∀ id, run'.Owns id → ¬world.Named id ∨
      ∃ run, world.store.find? run.id = some run ∧ run.id = run'.id ∧ run.Owns id)
    (hframe : ∀ other, world.store.find? other.id = some other → other.id ≠ run'.id →
      ∀ id, other.Owns id → world'.tale id = world.tale id) : world'.Chronicled := by
  have hstored : ∀ other, world'.store.find? other.id = some other →
      other = run' ∨ (other.id ≠ run'.id ∧ world.store.find? other.id = some other) := by
    intro other hother
    rw [hstore] at hother
    split at hother
    · exact .inl (Option.some.inj hother).symm
    · next hid => exact .inr ⟨Ne.symm hid, hother⟩
  have hnew : ∀ other, world.store.find? other.id = some other → other.id ≠ run'.id →
      ∀ id, run'.Owns id → ¬other.Owns id := by
    intro other hother hne id howns hothers
    rcases howned id howns with hunnamed | ⟨run, hrun, hid, howns'⟩
    · exact hunnamed ((h.runs other hother).story.owns_named hothers)
    · exact h.apart run other hrun hother (hid ▸ hne.symm) id howns' hothers
  refine ⟨hkept.story.told, ?_, ?_⟩
  · intro other hother
    rcases hstored other hother with rfl | ⟨hne, hother⟩
    · exact hkept
    · exact (h.runs other hother).frame hkept.story.told hahead (hframe other hother hne)
  · intro one other hone hother hne id hones hothers
    rcases hstored one hone with rfl | ⟨hone', hone⟩
    · rcases hstored other hother with rfl | ⟨hother', hother⟩
      · exact hne rfl
      · exact hnew other hother hother' id hones hothers
    · rcases hstored other hother with rfl | ⟨hother', hother⟩
      · exact hnew one hone hone' id hothers hones
      · exact h.apart one other hone hother hne id hones hothers

/-- Nothing is told and nothing is stored. -/
theorem Chronicled.silent (h : world.Chronicled) (hstore : world'.store = world.store)
    (hsilent : world.Silent world') : world'.Chronicled ∧ world.Adds world' := by
  refine ⟨⟨h.told.silent hsilent, ?_, ?_⟩, hsilent.ahead, ?_, ?_, ?_⟩
  · intro run hrun
    rw [hstore] at hrun
    exact (h.runs run hrun).silent hsilent
  · rw [hstore]
    exact h.apart
  · exact fun id => .inl (tale_of_events hsilent.events id)
  · exact fun id hnew hid => absurd (hsilent.named_iff.mp hid) hnew
  · intro run hrun
    rw [hstore]
    exact ⟨run, hrun, fun level hlevel => .inr ⟨level, hlevel, .refl _ _ level⟩⟩

/-- A stored run is driven, or terminated. -/
theorem Chronicled.recounts {reach : List Level} (h : world.Chronicled)
    (hrun : world.store.find? run.id = some run)
    (hrecounts : Run.Recounts reach world run world' run')
    (hreach : ∀ level ∈ reach, level ∈ run.nested)
    (hstore : ∀ id, world'.store.find? id =
      if run.id = id then some run' else world.store.find? id) :
    world'.Chronicled ∧ world.Adds world' := by
  have hid : run'.id = run.id := hrecounts.id
  constructor
  · refine h.replace hrecounts.ahead hrecounts.kept (by rw [hid]; exact hstore) ?_ ?_
    · intro id howns
      exact (hrecounts.owned howns).imp_right fun howns' => ⟨run, hrun, hid.symm, howns'⟩
    · intro other hother hne id howns
      rw [hid] at hne
      have hforeign : ¬run.Owns id := h.apart other run hother hrun hne id howns
      refine hrecounts.frame id ((h.runs other hother).story.owns_named howns) ?_ ?_
      · rintro rfl
        exact hforeign ⟨_, run.own_mem, .inl rfl⟩
      · rintro level hlevel rfl
        exact hforeign ⟨level, Run.nested_mem (hreach level hlevel), .inl rfl⟩
  · refine ⟨hrecounts.ahead, ?_, hrecounts.begun, ?_⟩
    · intro id
      by_cases hown : id = run.id
      · subst hown
        exact .inr hrecounts.spoke
      · exact hrecounts.spoken id hown
    · intro other hother
      rw [hstore]
      split
      · next hsame =>
        rw [← hsame, hrun] at hother
        obtain rfl := Option.some.inj hother
        refine ⟨run', rfl, List.forall_mem_cons.mpr ⟨?_, ?_⟩⟩
        · refine .inr ⟨_, run.own_mem, hrecounts.id, hrecounts.grows, ?_⟩
          exact fun hsilent => absurd hsilent hrecounts.spoke.ne
        · intro level' hlevel'
          refine (hrecounts.nested level' hlevel').imp_right ?_
          rintro ⟨level, hlevel, hcontinues⟩
          exact ⟨level, Run.nested_mem hlevel, hcontinues⟩
      · exact ⟨other, hother, fun level hlevel => .inr ⟨level, hlevel, .refl _ _ level⟩⟩

/-- A run begins. -/
theorem Chronicled.arises (h : world.Chronicled) (harises : Run.Arises world world' run')
    (hstore : ∀ id, world'.store.find? id =
      if run'.id = id then some run' else world.store.find? id) :
    world'.Chronicled ∧ world.Adds world' := by
  have hnew : ¬world.Named run'.id := harises.owned _ ⟨_, run'.own_mem, .inl rfl⟩
  have hnamed : ∀ other, world.store.find? other.id = some other → ∀ id, other.Owns id →
      world.Named id := fun other hother id howns =>
    (h.runs other hother).story.owns_named howns
  constructor
  · refine h.replace harises.ahead harises.kept hstore ?_ ?_
    · exact fun id howns => .inl (harises.owned id howns)
    · exact fun other hother _ id howns => harises.frame id (hnamed other hother id howns)
  · refine ⟨harises.ahead, harises.spoken, harises.begun, ?_⟩
    intro other hother
    have hne : run'.id ≠ other.id := by
      intro hid
      exact hnew (hid ▸ hnamed other hother _ ⟨_, other.own_mem, .inl rfl⟩)
    rw [hstore, if_neg hne]
    exact ⟨other, hother, fun level hlevel => .inr ⟨level, hlevel, .refl _ _ level⟩⟩

/-- What has become of a world by terminations: either nothing was told of a run, or it has been
terminated. -/
structure Terminated (world world' : World) : Prop where
  chronicled : world'.Chronicled
  ahead : world.Ahead world'
  named : ∀ id, world'.Named id → world.Named id
  tales : ∀ id, world'.tale id = world.tale id ∨ (Tale.Spoke (world.tale id) (world'.tale id) ∧
    ∀ run, world'.store.find? id = some run → run.isTerminal = true)
  runs : ∀ run, world.store.find? run.id = some run →
    ∃ run', world'.store.find? run.id = some run' ∧
      ∀ level ∈ run'.levels, level.ComesFrom run.levels world world'

theorem tale_terminate (world : World) (run : Run) (kind : FailureKind) (message : String)
    {id : Identifier} (hother : id ≠ run.id) :
    (world.terminate run kind message).2.tale id = world.tale id := by
  have hid : (run.terminate kind message world.bounds.now).id = run.id :=
    (Run.unwind_ended kind message world.bounds.now run.toLevel run.nested).1.id
  have hevents : (world.terminate run kind message).2.events =
      (world.told world.bounds (run.terminate kind message world.bounds.now) run.node
        (.runFailed kind message)).events := rfl
  rw [tale_of_events hevents]
  exact Run.told_other (hid.symm ▸ hother)

theorem Terminated.tail {first : World} (h : world.Terminated first)
    (hending : Ending first world') : world.Terminated world' := by
  cases hending with
  | @terminate run kind message stored unended words =>
      have hrecounts := (h.chronicled.runs run stored).terminate unended kind message
      have hstore := store_terminate first run kind message
      obtain ⟨hchronicled, hadds⟩ :=
        h.chronicled.recounts stored hrecounts (fun _ hlevel => nomatch hlevel) hstore
      refine ⟨hchronicled, h.ahead.trans hadds.ahead, fun id hid => h.named id hid, ?_, ?_⟩
      · intro id
        by_cases hown : id = run.id
        · subst hown
          -- Nothing was told of the run before, as it had not ended.
          rcases h.tales run.id with hsame | ⟨-, hended⟩
          · refine .inr ⟨hsame ▸ hrecounts.spoke, ?_⟩
            intro run' hrun'
            rw [hstore, if_pos rfl] at hrun'
            obtain rfl := Option.some.inj hrun'
            have hstatus := (Run.unwind_ended kind message first.bounds.now run.toLevel
              run.nested).2.1
            change (Run.unwind kind message first.bounds.now run.toLevel
              run.nested).status.isTerminal = true
            rw [hstatus]
            rfl
          · simp [hended run stored] at unended
        · rw [tale_terminate first run kind message hown, hstore, if_neg (Ne.symm hown)]
          exact h.tales id
      · intro other hother
        obtain ⟨middle, hmiddle, hlevels⟩ := h.runs other hother
        have hid := Store.id_of_find? hmiddle
        obtain ⟨other', hother', hlevels'⟩ := hadds.runs middle (hid.symm ▸ hmiddle)
        refine ⟨other', hid ▸ hother', fun level hlevel => ?_⟩
        exact (hlevels' level hlevel).trans hlevels h.ahead hadds.ahead

theorem Chronicled.endings (h : world.Chronicled) (hendings : world.Endings world') :
    world'.Chronicled ∧ world.Adds world' := by
  have hterminated : world.Terminated world' := by
    induction hendings with
    | refl =>
        refine ⟨h, .refl _, fun _ hid => hid, fun id => .inl rfl, fun run hrun => ⟨run, hrun, ?_⟩⟩
        exact fun level hlevel => .inr ⟨level, hlevel, .refl _ _ level⟩
    | tail _ hending ih => exact ih.tail hending
  refine ⟨hterminated.chronicled, hterminated.ahead, fun id => ?_, fun id hnew hid => ?_,
    hterminated.runs⟩
  · exact (hterminated.tales id).imp_right And.left
  · exact absurd (hterminated.named id hid) hnew

/-- Every deed goes on with the story. -/
theorem Chronicled.deed (h : world.Chronicled) {order : Order} (hdeed : world.Deed order world') :
    world'.Chronicled ∧ world.Adds world' := by
  cases hdeed with
  | idle still => exact h.silent still.store still.toSilent
  | @begin request graph node first second run flow place still drive =>
      have horderly : first.Orderly := h.told.silent still.toSilent
      have hfresh : (Run.fresh first.newRun.1 request node world.bounds.now).Ongoing
          first.newRun.2 := .begun horderly rfl rfl rfl
      have hdriven := drive.recounts hfresh
      have harises := (hdriven.between (.refl _) (silent_persist second run)).arises
        still.toSilent rfl rfl rfl
      exact h.arises harises (store_begun still drive)
  | @resume _ run event suspension graph first second run' wakes stored accepted flow still
      drive =>
      have hkept := (h.runs run stored).silent still.toSilent
      have hpaused := (paused_of_checkResumable accepted).1
      have hdriven := drive.recounts
        (hkept.underway (by simp [Level.isTerminal, hpaused, Status.isTerminal]))
      have hrecounts := hdriven.between still.toSilent (silent_persist second run')
      exact h.recounts stored hrecounts (fun _ hlevel => hlevel) (store_resumed still drive)
  | endings endings => exact h.endings endings

theorem Chronicled.carryOut (h : world.Chronicled) (hworld : world.Ready) (order : Order) :
    (world.carryOut order).Chronicled ∧ world.Adds (world.carryOut order) := by
  cases hflows : order.keepsFlows with
  | true => exact h.deed (carryOut_deed hworld hflows)
  | false =>
      obtain ⟨hstore, hsilent⟩ := carryOut_flows hworld hflows
      exact h.silent hstore hsilent

theorem Chronicled.atTime (h : world.Chronicled) (now : Instant) :
    (world.atTime now).Chronicled := by
  have hstore : (world.atTime now).store = world.store := rfl
  exact (h.silent hstore ⟨rfl, rfl, rfl⟩).1

end World

end Dialogue
