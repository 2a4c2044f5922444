import Dialogue.Proofs.Engine.Numbering

/-!
# Changes of a world

What an order makes of a whole world, and not of its runs only.  Five things can
happen, each an equation: the catalog changes, a run begins, a paused run is
resumed, a run that has not ended is terminated, or all alarms are set anew.  A
property that each of them keeps holds after any orders.
-/

namespace Dialogue.World

variable {world world' : World}

/-- One thing that happens to a world. -/
inductive Change : World → World → Prop
  /-- Flows are loaded, forgotten or defined. -/
  | catalog {world : World} (catalog : Catalog) : Change world { world with catalog }
  /-- A run begins, with an identifier that no stored run has. -/
  | begin {world : World} (graph : Graph) (request : RunRequest) (node : NodeId)
      (new : world.store.find? world.newRun.1 = none) :
      Change world (world.newRun.2.driven graph
        (Run.fresh world.newRun.1 request node world.bounds.now) none).2
  /-- A run is resumed, its alarms being removed first. -/
  | resume {world : World} {run event suspension} (graph : Graph)
      (stored : world.store.find? run.id = some run)
      (accepted : Engine.checkResumable run event = .ok suspension) :
      Change world ((world.unalarmed run.id).driven graph run (some event.payload)).2
  /-- A run is terminated. -/
  | terminate {world : World} {run} (kind : FailureKind) (message : String)
      (stored : world.store.find? run.id = some run) (unended : run.isTerminal = false) :
      Change world (world.terminate run kind message).2
  /-- All alarms are set anew. -/
  | recover {world : World} : Change world (world.recovered (world.store.all (some .paused)))

/-- Any number of changes. -/
abbrev Changes : World → World → Prop := Relation.ReflTransGen Change

/-- What every change keeps is kept by any number of them. -/
theorem Changes.keeps {Good : World → Prop}
    (step : ∀ {world world' : World}, Change world world' → Good world → Good world')
    (h : world.Changes world') (hgood : Good world) : Good world' := by
  induction h with
  | refl => exact hgood
  | tail _ hchange ih => exact step hchange ih

theorem changes_resumed {run : Run} (event : Wakeup)
    (hrun : world.store.find? run.id = some run) :
    world.Changes (Engine.resumed world run event).2 := by
  unfold Engine.resumed
  cases haccepts : Engine.checkResumable run event with
  | error e => exact .refl
  | ok suspension =>
      dsimp only
      split
      · refine .single (.terminate _ _ hrun ?_)
        simp [Level.isTerminal, (paused_of_checkResumable haccepts).1, Status.isTerminal]
      · have hlooked : Change world (world.look run.flow).2 := .catalog _
        have hstore : (world.look run.flow).2.store = world.store := rfl
        revert hlooked hstore
        rcases world.look run.flow with ⟨loaded, looked⟩
        intro hlooked hstore
        cases loaded with
        | error e => exact .single hlooked
        | ok graph => exact .tail (.single hlooked) (.resume graph (hstore ▸ hrun) haccepts)

/-- Terminations are changes. -/
theorem Endings.changes (h : world.Endings world') : world.Changes world' := by
  refine Relation.ReflTransGen.mono ?_ _ _ h
  rintro _ _ ⟨stored, unended, -⟩
  exact .terminate _ _ stored unended

theorem changes_start (hworld : world.Ready) (hnumbered : world.Numbered) (request : RunRequest) :
    world.Changes (world.obey (Engine.start world.bounds request)).2 := by
  rw [Engine.obey_start hworld.store]
  have hlooked : Change world (world.look request.flow).2 := .catalog _
  have hstill := world.still_look request.flow
  revert hlooked hstill
  rcases world.look request.flow with ⟨loaded, looked⟩
  intro hlooked hstill
  cases loaded with
  | error e => exact .single hlooked
  | ok graph =>
      dsimp only
      cases Engine.startNode graph request with
      | error e => exact .single hlooked
      | ok node =>
          have hnew : looked.store.find? looked.newRun.1 = none := by
            rw [hstill.store]
            refine Option.not_isSome_iff_eq_none.mp fun hstored => ?_
            exact hnumbered.newRun_ne hstill hstored rfl
          rw [← hstill.bounds]
          exact .tail (.single hlooked) (.begin graph request node hnew)

/-- An order comes to changes. -/
theorem carryOut_changes (hworld : world.Ready) (hnumbered : world.Numbered) (order : Order) :
    world.Changes (world.carryOut order) := by
  have hworld' := hworld.toUndisturbed
  have hresume (id : Identifier) (event : Wakeup) :
      world.Changes (world.obey (Engine.resume world.bounds id event)).2 := by
    rw [Engine.obey_resume hworld.store]
    cases hrun : world.store.find? id with
    | none => exact .refl
    | some run =>
        obtain rfl := Store.id_of_find? hrun
        exact changes_resumed event hrun
  cases order with
  | start request =>
      rw [carryOut, Engine.smooth_start _ _ _ _ hworld']
      exact changes_start hworld hnumbered request
  | resume id event =>
      rw [carryOut, Engine.smooth_resume _ _ _ _ _ hworld']
      exact hresume id event
  | cancel id =>
      rw [carryOut, Engine.smooth_cancel _ _ _ _ hworld', Engine.obey_cancel hworld.store]
      cases hrun : world.store.find? id with
      | none => exact .refl
      | some run =>
          obtain rfl := Store.id_of_find? hrun
          dsimp only
          split
          · exact .refl
          · next hopen => exact .single (.terminate _ _ hrun (by simpa using hopen))
  | expire id =>
      rw [carryOut, Engine.expire, Engine.smooth_expireAt _ _ _ _ _ _ hworld']
      exact (endings_expireAt hworld.store id none _).changes
  | expireDue time =>
      rw [carryOut, Engine.smooth_expireDue _ _ _ _ hworld', Engine.expireDue, obey_bind,
        Engine.attend_list hworld.store]
      exact (endings_expireEach hworld time _).changes
  | fire firing =>
      rw [carryOut, Engine.smooth_handleFiring _ _ _ _ hworld',
        Engine.obey_handleFiring hworld.store]
      cases firing.action with
      | resume => exact hresume firing.run (.timer firing.token)
      | expire => exact (endings_expireAt hworld.store _ _ _).changes
  | recover =>
      rw [carryOut, Engine.smooth_recover _ _ hworld', Engine.obey_recover hworld.store]
      exact .single .recover
  | invalidate flow =>
      rw [carryOut, Engine.smooth_invalidateFlow flow 0 _ hworld']
      exact .single (.catalog _)
  | define flow => exact .single (.catalog _)

/-- What every change keeps holds after any orders. -/
theorem changes_induction {Good : World → Prop}
    (time : ∀ {world : World} (now : Instant), Good world → Good (world.atTime now))
    (step : ∀ {world world' : World}, Change world world' → Good world → Good world')
    (hworld : world.Ready) (hnumbered : world.Numbered) (h : Good world)
    (orders : List (Instant × Order)) : Good (world.after orders) := by
  refine (after_induction (fun _ => True) (fun world => world.Numbered ∧ Good world)
    (fun now h => ⟨h.1, time now h.2⟩) (fun hready _ h => ⟨h.1.carryOut hready _, ?_⟩) hworld
    ⟨hnumbered, h⟩ fun _ _ => trivial).2
  exact (carryOut_changes hready h.1 _).keeps step h.2

end Dialogue.World
