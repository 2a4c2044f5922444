import Mathlib.Data.List.Forall2
import Dialogue.Proofs.Step.Visit

/-!
# Runs that are alike

Two runs are alike if they agree in everything but the identifiers and tokens
that were given out to them, the place that the current node has got to with its
work, and the time of the last change.  What is done to the levels of a run keeps
runs alike.
-/

namespace Dialogue

/-! ## Leaving names out -/

/-- A note without the identifier that a nested run was given. -/
def Note.nameless : Note → Note
  | .subflow flow _ status nodes => .subflow flow ⟨0⟩ status nodes
  | note => note

/-- A history without the identifiers that nested runs were given. -/
def History.nameless (history : History) : History :=
  history.map fun visit => { visit with notes := visit.notes.map Note.nameless }

/-- A suspension without its token. -/
def Suspension.nameless (suspension : Suspension) : Suspension := { suspension with token := ⟨0⟩ }

/-- An outcome without the token of a pause. -/
def Outcome.nameless : Outcome → Outcome
  | .suspend suspension => .suspend suspension.nameless
  | outcome => outcome

/-- An outcome that is not a pause has nothing to leave out. -/
theorem Outcome.eq_of_nameless {outcome outcome' : Outcome}
    (h : outcome.nameless = outcome'.nameless)
    (hpause : ∀ suspension, outcome' ≠ .suspend suspension) : outcome = outcome' := by
  cases outcome' with
  | suspend suspension => exact absurd rfl (hpause suspension)
  | _ => cases outcome <;> simp_all [nameless]

namespace History

@[simp] theorem nodes_nameless (history : History) : history.nameless.nodes = history.nodes := by
  simp [nameless, nodes]

theorem nameless_enter (history : History) (node : NodeId) (time : Instant) :
    (history.enter node time).nameless = history.nameless.enter node time := by
  simp [nameless, enter]

theorem nameless_note (history : History) (remark : Note) :
    (history.note remark).nameless = history.nameless.note remark.nameless := by
  induction history with
  | nil => rfl
  | cons visit rest ih =>
      cases rest with
      | nil => simp [nameless, note]
      | cons next rest => exact congrArg (List.cons _) ih

/-- Histories that differ in names only have visited the same nodes. -/
theorem nodes_of_nameless {a b : History} (h : a.nameless = b.nameless) : a.nodes = b.nodes := by
  rw [← nodes_nameless a, h, nodes_nameless]

end History

/-! ## Levels -/

namespace Level

/-- Two levels agree in all that is not a name. -/
structure Alike (a b : Level) : Prop where
  flow : a.flow = b.flow
  contactId : a.contactId = b.contactId
  vars : a.vars = b.vars
  contact : a.contact = b.contact
  node : a.node = b.node
  history : a.history.nameless = b.history.nameless
  status : a.status = b.status
  depth : a.depth = b.depth
  suspension : a.suspension.map Suspension.nameless = b.suspension.map Suspension.nameless
  failure : a.failure = b.failure
  createdAt : a.createdAt = b.createdAt

namespace Alike

variable {a b : Level}

theorem symm (h : a.Alike b) : b.Alike a where
  flow := h.flow.symm
  contactId := h.contactId.symm
  vars := h.vars.symm
  contact := h.contact.symm
  node := h.node.symm
  history := h.history.symm
  status := h.status.symm
  depth := h.depth.symm
  suspension := h.suspension.symm
  failure := h.failure.symm
  createdAt := h.createdAt.symm

/-- The place that a node has got to does not count. -/
theorem cursor (h : a.Alike b) (cursor : Nat) : Alike { a with cursor } b := { h with }

theorem withVars (h : a.Alike b) (vars : Values) :
    Alike { a with vars } { b with vars } := { h with vars := rfl }

theorem note (h : a.Alike b) {remark remark' : Note}
    (hremark : remark.nameless = remark'.nameless) :
    (a.note remark).Alike (b.note remark') :=
  { h with
    history := by
      change (a.history.note remark).nameless = (b.history.note remark').nameless
      rw [History.nameless_note, History.nameless_note, h.history, hremark] }

theorem enter (h : a.Alike b) (node : NodeId) (time : Instant) :
    (a.enter node time).Alike (b.enter node time) :=
  { h with
    node := rfl
    history := by
      change (a.history.enter node time).nameless = (b.history.enter node time).nameless
      rw [History.nameless_enter, History.nameless_enter, h.history] }

theorem awake (h : a.Alike b) :
    Alike { a with status := .running, suspension := none }
      { b with status := .running, suspension := none } :=
  { h with status := rfl, suspension := rfl }

theorem suspend (h : a.Alike b) {suspension suspension' : Suspension}
    (hsuspension : suspension.nameless = suspension'.nameless) :
    (a.suspend suspension).Alike (b.suspend suspension') :=
  { h with status := rfl, suspension := congrArg some hsuspension }

theorem complete (h : a.Alike b) (time : Instant) : (a.complete time).Alike (b.complete time) :=
  { h with status := rfl, suspension := rfl }

theorem fail (h : a.Alike b) (kind : FailureKind) (message : String) (time : Instant) :
    (a.fail kind message time).Alike (b.fail kind message time) := by
  have hnote : (a.note (.failure kind message)).Alike (b.note (.failure kind message)) :=
    h.note rfl
  exact
    { hnote with
      status := rfl
      suspension := rfl
      failure := by
        change some (Failure.mk kind message a.node time) = some ⟨kind, message, b.node, time⟩
        rw [h.node] }

theorem absorb (h : a.Alike b) {child child' : Level} (hchild : child.Alike child') :
    (a.absorb child).Alike (b.absorb child') := by
  have hvars : Alike { a with vars := child.vars.union a.vars }
      { b with vars := child'.vars.union b.vars } := by
    rw [hchild.vars, h.vars]
    exact h.withVars _
  refine hvars.note ?_
  simp only [Note.nameless, hchild.flow, hchild.status,
    History.nodes_of_nameless hchild.history]

/-- Levels that are spawned by levels that are alike are alike. -/
theorem spawn (h : a.Alike b) (id id' : Identifier) (flow : FlowId) (start : NodeId)
    (now : Instant) : (a.spawn id flow start now).2.Alike (b.spawn id' flow start now).2 where
  flow := rfl
  contactId := h.contactId
  vars := h.vars
  contact := h.contact
  node := rfl
  history := rfl
  status := rfl
  depth := congrArg (· + 1) h.depth
  suspension := rfl
  failure := rfl
  createdAt := rfl

end Alike

end Level

/-! ## Runs -/

namespace Run

/-- Two runs whose levels are alike. -/
abbrev Alike (a b : Run) : Prop := List.Forall₂ Level.Alike a.levels b.levels

namespace Alike

variable {a b : Run}

theorem intro (hlevel : a.toLevel.Alike b.toLevel)
    (hnested : List.Forall₂ Level.Alike a.nested b.nested) : a.Alike b := .cons hlevel hnested

theorem level (h : a.Alike b) : a.toLevel.Alike b.toLevel := by
  cases h with
  | cons hlevel hnested => exact hlevel

theorem nested (h : a.Alike b) : List.Forall₂ Level.Alike a.nested b.nested := by
  cases h with
  | cons hlevel hnested => exact hnested

theorem onLevel (h : a.Alike b) {f g : Level → Level} (hfg : (f a.toLevel).Alike (g b.toLevel)) :
    (a.onLevel f).Alike (b.onLevel g) := .cons hfg h.nested

theorem withChild (h : a.toLevel.Alike b.toLevel) {child child' : Run}
    (hchild : child.Alike child') :
    (a.withChild child).Alike (b.withChild child') := .cons h hchild

theorem reclaim (h : a.Alike b) : a.reclaim.Alike b.reclaim := by
  obtain ⟨level, nested⟩ := a
  obtain ⟨level', nested'⟩ := b
  cases h with
  | cons hlevel hnested =>
      cases hnested with
      | nil => exact .cons hlevel .nil
      | cons hchild hbelow => exact .cons (hlevel.absorb hchild) .nil

/-- A level is unwound as one that is alike. -/
theorem unwind (kind : FailureKind) (message : String) (time : Instant) {a b : Level}
    (h : a.Alike b) {below below' : List Level} (hbelow : List.Forall₂ Level.Alike below below') :
    (Run.unwind kind message time a below).Alike (Run.unwind kind message time b below') := by
  induction hbelow generalizing a b with
  | nil => exact h.fail kind message time
  | cons hchild hbelow ih => exact (h.absorb (ih hchild)).fail kind message time

theorem terminate (h : a.Alike b) (kind : FailureKind) (message : String) (time : Instant) :
    (a.terminate kind message time).Alike (b.terminate kind message time) :=
  .cons (unwind kind message time h.level h.nested) .nil

end Alike

end Run

end Dialogue
