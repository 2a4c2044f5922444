import Dialogue.Proofs.Basic
import Dialogue.Proofs.World.Telling

/-!
# What is told of one run

The observers are told of all runs at once.  What concerns one run, oldest first,
is its tale: at which node what happened.  A tale says which nodes were entered,
and where it may go on; every drive adds some entries to it, of which the last
one alone is settled.
-/

namespace Dialogue

/-- Whether a run is at its end with an occurrence. -/
def Occurrence.isEnd : Occurrence → Bool
  | .runCompleted | .runFailed .. => true
  | .nodeEntered | .nodeCompleted | .runPaused _ => false

/-- What happened in a run at which node, oldest first. -/
abbrev Tale := List (NodeId × Occurrence)

namespace Tale

/-- The nodes that were entered. -/
def entered (tale : Tale) : List NodeId := (tale.filter (·.2 == .nodeEntered)).map Prod.fst

/-- The run has come to a node, or has waited there. -/
def At (tale : Tale) (node : NodeId) : Prop :=
  tale.getLast? = some (node, .nodeEntered) ∨
    ∃ reason, tale.getLast? = some (node, .runPaused reason)

/-- A node is completed only directly after it was entered, or after the run has waited there. -/
def Orderly (tale : Tale) : Prop :=
  ∀ earlier node later, tale = earlier ++ (node, .nodeCompleted) :: later → Tale.At earlier node

/-- The run has not come to its end. -/
def Open (tale : Tale) : Prop := ∀ entry ∈ tale, entry.2.isEnd = false

/-- The run has come to its end, once and with the last entry. -/
def Over (tale : Tale) : Prop :=
  ∃ earlier last, tale = earlier ++ [last] ∧ Tale.Open earlier ∧ last.2.isEnd = true

/-- A tale with one drive more, which is settled by its last entry and by no other one. -/
def Spoke (before after : Tale) : Prop :=
  ∃ told last, after = before ++ (told ++ [last]) ∧
    (∀ entry ∈ told, entry.2.isSettled = false) ∧ last.2.isSettled = true

/-- A tale with at most one drive more. -/
def Spoken (before after : Tale) : Prop := after = before ∨ Spoke before after

variable {tale : Tale} {node : NodeId} {what : Occurrence}

theorem entered_tell :
    Tale.entered (tale ++ [(node, what)]) =
      if what = .nodeEntered then tale.entered ++ [node] else tale.entered := by
  by_cases hwhat : what = .nodeEntered
  · simp [entered, hwhat]
  · simp [entered, hwhat]

theorem orderly_nil : Orderly [] := by
  intro earlier node later h
  simp at h

theorem Orderly.tell (h : tale.Orderly) (hcompleted : what = .nodeCompleted → tale.At node) :
    Orderly (tale ++ [(node, what)]) := by
  intro earlier other later heq
  rcases split_snoc heq with ⟨rfl, hlast, -⟩ | ⟨rest, -, hsplit⟩
  · obtain ⟨rfl, rfl⟩ := Prod.mk.inj hlast
    exact hcompleted rfl
  · exact h earlier other rest hsplit

theorem open_tell (h : tale.Open) (hwhat : what.isEnd = false) : Open (tale ++ [(node, what)]) := by
  intro entry hentry
  rcases List.mem_append.mp hentry with hold | hnew
  · exact h entry hold
  · rw [List.mem_singleton.mp hnew]
    exact hwhat

/-- A drive that has yet to settle goes on. -/
theorem Spoke.before {after : Tale} (h : Spoke (tale ++ [(node, what)]) after)
    (hwhat : what.isSettled = false) : Spoke tale after := by
  obtain ⟨told, last, heq, htold, hlast⟩ := h
  refine ⟨(node, what) :: told, last, by simp [heq], ?_, hlast⟩
  intro entry hentry
  rcases List.mem_cons.mp hentry with rfl | hentry
  · exact hwhat
  · exact htold entry hentry

theorem spoke_tell (hwhat : what.isSettled = true) : Spoke tale (tale ++ [(node, what)]) :=
  ⟨[], (node, what), rfl, by simp, hwhat⟩

theorem Spoke.ne {before after : Tale} (h : Spoke before after) : after ≠ before := by
  obtain ⟨told, last, rfl, -⟩ := h
  simp

end Tale

namespace World

variable {world world' : World} {id : Identifier}

/-- What the observers were told of a run. -/
def tale (world : World) (id : Identifier) : Tale :=
  (world.events.reverse.filter (·.run == id)).map fun event => (event.node, event.what)

theorem tale_of_events (h : world'.events = world.events) (id : Identifier) :
    world'.tale id = world.tale id := by
  rw [tale, tale, h]

theorem tale_emit (world : World) (event : Event) (id : Identifier) :
    (world.emit event).tale id =
      if event.run = id then world.tale id ++ [(event.node, event.what)] else world.tale id := by
  have hevents : (world.emit event).events = event :: world.events := rfl
  by_cases hid : event.run = id
  · simp [tale, hevents, hid]
  · simp [tale, hevents, hid]

/-- What was told of a run is not taken back. -/
theorem Ahead.tale (h : world.Ahead world') (id : Identifier) :
    world.tale id <+: world'.tale id := by
  obtain ⟨told, htold⟩ := h.events
  have hsplit : world'.tale id =
      world.tale id ++ (told.reverse.filter (·.run == id)).map fun e => (e.node, e.what) := by
    simp [World.tale, htold]
  rw [hsplit]
  exact List.prefix_append _ _

/-- Runs without an identifier have no tale, and every tale is orderly. -/
structure Orderly (world : World) : Prop where
  unnamed : ∀ id, ¬world.Named id → world.tale id = []
  tales : ∀ id, (world.tale id).Orderly

theorem Orderly.silent (h : world.Orderly) (hsilent : world.Silent world') : world'.Orderly where
  unnamed := by
    intro id hid
    rw [tale_of_events hsilent.events]
    exact h.unnamed id (mt hsilent.named_iff.mpr hid)
  tales := by
    intro id
    rw [tale_of_events hsilent.events]
    exact h.tales id

theorem Orderly.newRun (h : world.Orderly) : world.newRun.2.Orderly where
  unnamed := by
    intro id hid
    exact h.unnamed id (mt (ahead_newRun world).named hid)
  tales := h.tales

/-- Nothing has been told of a run that has just got its identifier. -/
theorem Orderly.open_newRun (h : world.Orderly) : (world.newRun.2.tale world.newRun.1).Open := by
  have hnew : world.newRun.2.tale world.newRun.1 = [] := h.unnamed _ world.newRun_not_named
  rw [hnew]
  intro entry hentry
  simp at hentry

theorem Orderly.emit (h : world.Orderly) {event : Event} (hnamed : world.Named event.run)
    (hcompleted : event.what = .nodeCompleted → (world.tale event.run).At event.node) :
    (world.emit event).Orderly where
  unnamed := by
    intro id hid
    have hother : event.run ≠ id := by
      rintro rfl
      exact hid hnamed
    rw [tale_emit, if_neg hother]
    exact h.unnamed id hid
  tales := by
    intro id
    rw [tale_emit]
    split
    · next hid =>
      subst hid
      exact (h.tales event.run).tell hcompleted
    · exact h.tales id

end World

end Dialogue
