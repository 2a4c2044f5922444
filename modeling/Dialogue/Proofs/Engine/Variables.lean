import Dialogue.Proofs.Drive.Variables
import Dialogue.Proofs.Engine.Order

/-!
# Variables across a resume

A resumed run that ends has every variable that any level of it had, whatever
has become of its flows meanwhile, as long as every level but the innermost
still stands at a node that runs another flow.  Otherwise there is nothing to be
relied on: with other variables in the innermost level the run ends without one
of them.
-/

namespace Dialogue

/-- There is always one more name. -/
theorem Fields.exists_not_has {α : Type} (fields : Fields α) :
    ∃ name, fields.has name = false := by
  have hbound : ∃ n, ∀ name, fields.has name = true → name.length < n := by
    induction fields with
    | nil => exact ⟨0, fun name hname => by simp [has] at hname⟩
    | cons field rest ih =>
        obtain ⟨n, hn⟩ := ih
        refine ⟨max n (field.1.length + 1), fun name hname => ?_⟩
        rw [has, get?_cons] at hname
        split at hname
        · next heq =>
          subst heq
          omega
        · have := hn name hname
          omega
  obtain ⟨n, hn⟩ := hbound
  refine ⟨String.ofList (List.replicate n 'x'), ?_⟩
  cases h : fields.has (String.ofList (List.replicate n 'x')) with
  | false => rfl
  | true =>
      have := hn _ h
      simp at this

namespace World

variable {world : World}

/-- What happens within a run does not depend on what is stored. -/
theorem act_keep {α : Type} (world : World) (run : Run) (acting : Acting α) :
    (world.keep run).act acting =
      ((world.act acting).1, (world.act acting).2.keep run) := by
  induction acting generalizing world with
  | done value => rfl
  | ask call next ih =>
      have hreply : reply call (world.keep run) =
          ((reply call world).1, (reply call world).2.keep run) := by cases call <;> rfl
      change (reply call (world.keep run)).2.act (next (reply call (world.keep run)).1) = _
      rw [hreply]
      exact ih _ _

end World

namespace Engine

open World

variable {world world' : World} {run run' : Run} {event : Wakeup}

/-- The course of the drive of a resumed run. -/
theorem course_resumed (h : resumed world run event = (.ok run', world')) :
    ∃ graph first second, world.flow run.flow = .ok graph ∧ world.Later first ∧
      Drive.Course world.bounds (.level graph (some event.payload)) first run second run' := by
  obtain ⟨suspension, graph, after, -, -, hlook, hdriven⟩ := resumed_ok h
  have hlater := world.later_look run.flow
  rw [hlook] at hlater
  have hlater' := hlater.trans (later_unalarmed run.id)
  obtain ⟨second, driven, drive, heq⟩ :=
    (after.unalarmed run.id).course_driven graph run (some event.payload)
  obtain ⟨rfl, -⟩ := Prod.mk.inj (hdriven.symm.trans heq)
  rw [hlater'.bounds] at drive
  exact ⟨graph, _, second, congrArg Prod.fst hlook, hlater', drive⟩

/-- Where a chain is broken, the run that comes out is the same for other variables in its
innermost level, but for what is left nested in it. -/
theorem resumed_refilled (h : resumed world run event = (.ok run', world'))
    (hbroken : ¬run.Intact world.flow world.bounds.settings) (vars : Values) :
    ∃ nested' after', resumed (world.keep (run.refilled vars)) (run.refilled vars) event =
      (.ok (run'.withNested nested'), after') := by
  obtain ⟨suspension, graph, after, hchecked, hoverdue, hlook, hdriven⟩ := resumed_ok h
  have hlater := world.later_look run.flow
  rw [hlook] at hlater
  have hlater' := hlater.trans (later_unalarmed run.id)
  obtain ⟨second, driven, drive, heq⟩ :=
    (after.unalarmed run.id).course_driven graph run (some event.payload)
  obtain ⟨rfl, -⟩ := Prod.mk.inj (hdriven.symm.trans heq)
  -- The other run is driven in the same world to the same outermost level.
  have hphase : Drive.Broken world.flow (after.unalarmed run.id).bounds.settings
      (.level graph (some event.payload)) run := by
    rw [hlater'.bounds]
    exact ⟨congrArg Prod.fst hlook, hbroken⟩
  obtain ⟨nested', hforgets⟩ := drive.forgets hlater'.flow hphase vars
  have hact := Drive.course_drive (after.unalarmed run.id).bounds (after.unalarmed run.id)
    (run.refilled vars) graph (some event.payload)
  obtain ⟨hworld, hrun⟩ := hact.unique hforgets
  -- What is stored makes no difference to the drive.
  have hlook' : (world.keep (run.refilled vars)).look (run.refilled vars).flow =
      (.ok graph, after.keep (run.refilled vars)) := by
    have hkeep := world.act_keep (run.refilled vars) (Acting.flow run.flow)
    rw [act_flow, act_flow, hlook] at hkeep
    exact hkeep
  have hdriven' : (((after.keep (run.refilled vars)).unalarmed run.id).driven graph
      (run.refilled vars) (some event.payload)).1 = run'.withNested nested' := by
    have hkeep := (after.unalarmed run.id).act_keep (run.refilled vars)
      ((run.refilled vars).drive (after.unalarmed run.id).bounds graph (some event.payload))
    exact (congrArg Prod.fst hkeep).trans hrun
  have hresumed := resumed_driven (show checkResumable (run.refilled vars) event = _ from hchecked)
    (show suspension.isOverdue (world.keep (run.refilled vars)).bounds.now = false from hoverdue)
    hlook'
  exact ⟨nested', _, hresumed.trans (by rw [← hdriven']; rfl)⟩

end Engine

namespace World

/-- A resumed run that ends hands all variables back if its chain is intact.  If it is not, then
for some variables of the innermost level the run ends without one of them. -/
theorem resume_hands_variables_back (world world' : World) (hworld : world.Ready)
    (who : Ticket) (id : Identifier) (event : Wakeup) (run run' : Run)
    (hrun : world.store.find? id = some run)
    (hresume : world.proceed who (Engine.resume world.bounds id event) =
      (.done (.ok run'), world')) (hended : run'.isTerminal = true) :
    (run.Intact world.flow world.bounds.settings →
      run'.nested = [] ∧ ∀ level ∈ run.levels, ∀ name,
        level.vars.has name = true → run'.vars.has name = true) ∧
    (¬run.Intact world.flow world.bounds.settings →
      ∃ vars name run'' world'', (run.refilled vars).innermost.vars.has name = true ∧
        (world.keep (run.refilled vars)).proceed who (Engine.resume world.bounds id event) =
          (.done (.ok run''), world'') ∧
        run''.isTerminal = true ∧ run''.vars.has name = false) := by
  obtain rfl := Store.id_of_find? hrun
  rw [Engine.smooth_resume _ _ _ who _ hworld.toUndisturbed, Engine.obey_resume hworld.store,
    hrun] at hresume
  simp only [Prod.mk.injEq, Interaction.done.injEq] at hresume
  have hresumed : Engine.resumed world run event = (.ok run', world') :=
    Prod.ext hresume.1 hresume.2
  constructor
  · intro hintact
    obtain ⟨graph, first, second, hflow, hlater, drive⟩ := Engine.course_resumed hresumed
    rcases drive.fares hlater.flow ⟨hflow, hintact⟩ with ⟨hpaused, -⟩ | hback
    · simp [Level.isTerminal, hpaused, Status.isTerminal] at hended
    · exact ⟨hback.nested, fun level hlevel name hname => hback.vars name ⟨level, hlevel, hname⟩⟩
  · intro hbroken
    obtain ⟨name, hname⟩ := Fields.exists_not_has run'.vars
    obtain ⟨nested', after', hother⟩ :=
      Engine.resumed_refilled hresumed hbroken [(name, .null)]
    refine ⟨[(name, .null)], name, run'.withNested nested', after', ?_, ?_, hended, hname⟩
    · rw [run.innermost_refilled _ (Run.not_intact hbroken).1]
      simp [Fields.has, Fields.get?_cons]
    · have hworld' : (world.keep (run.refilled [(name, .null)])).Ready :=
        ⟨⟨hworld.holds, hworld.free⟩, hworld.store⟩
      have hfind : (world.keep (run.refilled [(name, .null)])).store.find? run.id =
          some (run.refilled [(name, .null)]) := by
        change (world.store.put _).find? run.id = _
        rw [Store.find?_put]
        exact if_pos rfl
      change World.proceed _ who
        (Engine.resume (world.keep (run.refilled [(name, .null)])).bounds run.id event) = _
      rw [Engine.smooth_resume _ _ _ who _ hworld'.toUndisturbed,
        Engine.obey_resume hworld'.store, hfind]
      dsimp only
      rw [hother]

/-- The sample with a run that waits in its nested flow, after some changes of flows. -/
def sampleChanged (changes : List (Instant × Order)) : World :=
  (sample.after [(⟨0, 0⟩, .start
    { flow := "outer", contactId := "ann", vars := [("plan", .string "gold")] })]).after changes

/-- With the nested flow gone, the variables come back with the failure. -/
theorem resume_hands_variables_back_sample :
    let world := sampleChanged [(⟨1, 0⟩, .define { id := "inner" }), (⟨1, 0⟩, .invalidate "inner")]
    let id : Identifier := ⟨sample.supply.firstRun⟩
    ∃ run run', world.store.find? id = some run ∧ run.nested ≠ [] ∧
      (world.proceed 0 (Engine.resume world.bounds id (.reply "yes"))).1 = .done (.ok run') ∧
      run'.status = .failed ∧ run'.nested = [] ∧
      ∀ level ∈ run.levels, ∀ name, level.vars.has name = true →
        run'.vars.has name = true := by
  intro world id
  have hworld : world.Ready :=
    ready_after (ready_after (ready_opened {} ⟨0, 0⟩ _ _ _ {}) _) _
  have hbefore : (world.store.find? id).any (fun run => !run.nested.isEmpty &&
      decide (run.Intact world.flow world.bounds.settings)) = true := by decide +kernel
  have hafter : (Operating.run? (world.proceed 0
      (Engine.resume world.bounds id (.reply "yes"))).1).any (·.status == .failed) = true := by
    decide +kernel
  obtain ⟨run, hrun, hintact⟩ := (Option.any_eq_true _ _).mp hbefore
  obtain ⟨run', hresumed, hfailed⟩ := (Option.any_eq_true _ _).mp hafter
  have hdone := Operating.eq_of_run? hresumed
  have hstatus : run'.status = .failed := by simpa using hfailed
  simp only [Bool.and_eq_true, Bool.not_eq_true', decide_eq_true_eq] at hintact
  have hback := (resume_hands_variables_back world _ hworld 0 id (.reply "yes") run run' hrun
    (Prod.ext hdone rfl) (by simp [Level.isTerminal, hstatus, Status.isTerminal])).1 hintact.2
  exact ⟨run, run', hrun, by simpa using hintact.1, hdone, hstatus, hback⟩

/-- With the node gone that ran the nested flow, a resumed run fails without the variables. -/
theorem resume_leaves_variables_behind :
    let world := sampleChanged [(⟨1, 0⟩, .define (.asking "outer")), (⟨1, 0⟩, .invalidate "outer")]
    let id : Identifier := ⟨sample.supply.firstRun⟩
    ∃ run run', world.store.find? id = some run ∧
      (world.proceed 0 (Engine.resume world.bounds id (.reply "yes"))).1 = .done (.ok run') ∧
      run'.status = .failed ∧ run'.nested ≠ [] ∧
      ∃ level ∈ run.levels, level.vars.has "plan" = true ∧ run'.vars.has "plan" = false := by
  intro world id
  have hbefore : (world.store.find? id).any (fun run =>
      run.levels.any (·.vars.has "plan")) = true := by decide +kernel
  have hafter : (Operating.run? (world.proceed 0
      (Engine.resume world.bounds id (.reply "yes"))).1).any (fun run =>
        run.status == .failed && !run.nested.isEmpty && !run.vars.has "plan") = true := by
    decide +kernel
  obtain ⟨run, hrun, hhas⟩ := (Option.any_eq_true _ _).mp hbefore
  obtain ⟨run', hresumed, hlost⟩ := (Option.any_eq_true _ _).mp hafter
  obtain ⟨level, hlevel, hplan⟩ := List.any_eq_true.mp hhas
  simp only [Bool.and_eq_true, Bool.not_eq_true', beq_iff_eq] at hlost
  exact ⟨run, run', hrun, Operating.eq_of_run? hresumed, hlost.1.1, by simpa using hlost.1.2,
    level, hlevel, hplan, hlost.2⟩

end World

end Dialogue
