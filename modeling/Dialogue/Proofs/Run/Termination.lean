import Dialogue.Proofs.Fields
import Dialogue.Proofs.Run.History

/-!
# Runs that are terminated

A run is terminated together with all that is nested in it, innermost first: each
level fails at its own node, and the level above takes its variables back and
notes how it ended before it fails in turn.  What becomes of the outermost level
is shown by induction over the levels below it.  Nothing is asked of the run; its
levels may have any status, and some of them may never have entered a node.
-/

namespace Dialogue.Run

variable (kind : FailureKind) (message : String) (time : Instant)

/-! ## Variables -/

/-- The variables of a chain of levels; where several have one of a name, the innermost one of
these counts. -/
def gathered (level : Level) : List Level → Values
  | [] => level.vars
  | child :: below => (gathered child below).union level.vars

theorem unwind_gathered (level : Level) (below : List Level) :
    (unwind kind message time level below).vars = gathered level below := by
  induction below generalizing level with
  | nil => rfl
  | cons child below ih =>
      change (unwind kind message time child below).vars.union level.vars = _
      rw [ih]
      rfl

theorem ascending_gathered {level : Level} {below : List Level}
    (h : ∀ other ∈ level :: below, other.vars.Ascending) : (gathered level below).Ascending := by
  cases below with
  | nil => exact h level (.head _)
  | cons child below => exact Fields.Ascending.union (h level (.head _)) _

/-- Of the levels that have a variable of a name the innermost one is asked. -/
theorem get?_gathered {level : Level} {below : List Level}
    (h : ∀ other ∈ level :: below, other.vars.Ascending) (name : String) :
    (gathered level below).get? name =
      (level :: below).reverse.findSome? fun other => other.vars.get? name := by
  induction below generalizing level with
  | nil => simp [gathered]
  | cons child below ih =>
      have hbelow : ∀ other ∈ child :: below, other.vars.Ascending := by
        intro other hother
        exact h other (.tail _ hother)
      have hlast :
          [level].findSome? (fun other => other.vars.get? name) = level.vars.get? name := by
        rw [List.findSome?_cons]
        cases level.vars.get? name <;> rfl
      have hsplit : (level :: child :: below).reverse = (child :: below).reverse ++ [level] :=
        List.reverse_cons
      rw [gathered, Fields.get?_union (ascending_gathered hbelow), ih hbelow, hsplit,
        List.findSome?_append, hlast]

/-! ## The history -/

theorem unwind_nodes (level : Level) (below : List Level) :
    (unwind kind message time level below).history.nodes = level.history.nodes := by
  cases below with
  | nil => exact History.nodes_note _ _
  | cons child below => exact (History.nodes_note _ _).trans (History.nodes_note _ _)

/-- What a level with such levels below it notes when it is terminated: how the nested run ended,
if there is one, and why it fails itself. -/
def farewell : List Level → List Note
  | [] => [.failure kind message]
  | child :: _ =>
    [.subflow child.flow child.id .failed child.history.nodes, .failure kind message]

theorem unwind_history (level : Level) (below : List Level) :
    (unwind kind message time level below).history =
      level.history.noted (farewell kind message below) := by
  cases below with
  | nil => rfl
  | cons child below =>
      -- The nested run has failed by now, and termination moves it to no other node.
      have hchild : ∃ own : Level, unwind kind message time child below =
          own.fail kind message time ∧ own.flow = child.flow ∧ own.id = child.id := by
        cases below with
        | nil => exact ⟨child, rfl, rfl, rfl⟩
        | cons inner below => exact ⟨_, rfl, rfl, rfl⟩
      obtain ⟨own, hfails, hflow, hid⟩ := hchild
      have hnodes := unwind_nodes kind message time child below
      rw [unwind, hfails] at *
      change (level.history.note (.subflow own.flow own.id .failed _)).note _ = _
      rw [hflow, hid, hnodes]
      rfl

/-! ## The run -/

/-- The level that fails in the end has kept everything but variables and history. -/
theorem unwind_frame (level : Level) (below : List Level) :
    ∃ vars history, unwind kind message time level below =
      { level with
        vars := vars
        history := history
        failure := some ⟨kind, message, level.node, time⟩
        status := .failed
        suspension := none
        updatedAt := time } := by
  cases below with
  | nil => exact ⟨_, _, rfl⟩
  | cons child below => exact ⟨_, _, rfl⟩

/-- What a run has come to when it was terminated at a time, for a reason and in words. -/
structure Unwound (run ended : Run) : Prop where
  status : ended.status = .failed
  /-- It fails where it stands itself, however deeply others were nested in it. -/
  failure : ended.failure = some ⟨kind, message, run.node, time⟩
  suspension : ended.suspension = none
  nested : ended.nested = []
  /-- It has the variables of all levels; of one name, that of the innermost level. -/
  vars : ∀ name, ended.vars.get? name =
    run.levels.reverse.findSome? fun level => level.vars.get? name
  ordered : ended.vars.Ascending
  /-- It has made its visits, and no more notes than those on the last one. -/
  history : ∀ earlier last, run.history = earlier ++ [last] →
    ended.history =
      earlier ++ [{ last with notes := last.notes ++ farewell kind message run.nested }]
  /-- Without a visit there is nothing to note on. -/
  unvisited : run.history = [] → ended.history = []
  id : ended.id = run.id
  flow : ended.flow = run.flow
  contactId : ended.contactId = run.contactId
  parent : ended.parent = run.parent
  contact : ended.contact = run.contact
  node : ended.node = run.node
  cursor : ended.cursor = run.cursor
  depth : ended.depth = run.depth
  createdAt : ended.createdAt = run.createdAt
  updatedAt : ended.updatedAt = time

/-- Terminating a run unwinds all levels of it, whatever they are like and however many they are:
the run fails where it stands with the variables of all levels, of which the inner ones count first,
and with a note about the run that was nested in it, which has failed before. -/
theorem termination_unwinds_all_levels (run : Run)
    (hvars : ∀ level ∈ run.levels, level.vars.Ascending) :
    run.Unwound kind message time (run.terminate kind message time) := by
  have hgathered := unwind_gathered kind message time run.toLevel run.nested
  have hhistory := unwind_history kind message time run.toLevel run.nested
  obtain ⟨vars, history, hframe⟩ := unwind_frame kind message time run.toLevel run.nested
  have hended : run.terminate kind message time =
      ofLevel (unwind kind message time run.toLevel run.nested) := rfl
  rw [hframe] at hgathered hhistory hended
  change vars = gathered run.toLevel run.nested at hgathered
  change history = run.history.noted (farewell kind message run.nested) at hhistory
  rw [hended]
  constructor
  case vars =>
    intro name
    change vars.get? name = _
    rw [hgathered, get?_gathered hvars]
    rfl
  case ordered =>
    change vars.Ascending
    rw [hgathered]
    exact ascending_gathered hvars
  case history =>
    intro earlier last hrun
    change history = _
    rw [hhistory, hrun, History.noted_append]
  case unvisited =>
    intro hrun
    change history = _
    rw [hhistory, hrun, History.noted_nil]
  all_goals rfl

/-- Three levels that no drive leaves so: one has completed with another one still nested in it, and
one has never entered a node.  Each has a value of its own for one variable. -/
theorem termination_unwinds_all_levels_sample :
    let level (n : Nat) (status : Status) (history : History) (vars : Values) : Level :=
      { Level.fresh ⟨n⟩ { flow := "flow", contactId := "ann", vars } "call" ⟨60, 0⟩ with
        status, history }
    let visit : Visit := ⟨"call", ⟨60, 0⟩, []⟩
    let run : Run :=
      ⟨level 1 .paused [⟨"begin", ⟨60, 0⟩, []⟩, visit] [("plan", .string "gold"), ("step", .null)],
        [level 2 .completed [] [("step", .boolean true)],
          level 3 .running [visit] [("answer", .string "yes"), ("step", .boolean false)]]⟩
    let ended := run.terminate .cancelled "run cancelled" ⟨90, 0⟩
    (∀ level ∈ run.levels, level.vars.Ascending) ∧
      run.Unwound .cancelled "run cancelled" ⟨90, 0⟩ ended ∧
      ended.vars.get? "plan" = some (.string "gold") ∧
      ended.vars.get? "step" = some (.boolean false) ∧
      ended.history = [⟨"begin", ⟨60, 0⟩, []⟩, { visit with notes :=
        [.subflow "flow" ⟨2⟩ .failed [], .failure .cancelled "run cancelled"] }] := by
  intro level visit run ended
  have hvars : ∀ level ∈ run.levels, level.vars.Ascending := by
    unfold Fields.Ascending
    decide +kernel
  have hunwound := termination_unwinds_all_levels .cancelled "run cancelled" ⟨90, 0⟩ run hvars
  refine ⟨hvars, hunwound, ?_, ?_, ?_⟩
  · rw [hunwound.vars]
    rfl
  · rw [hunwound.vars]
    rfl
  · exact hunwound.history [_] visit rfl

end Dialogue.Run
