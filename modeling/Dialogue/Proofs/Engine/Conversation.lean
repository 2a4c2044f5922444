import Dialogue.Proofs.Engine.Order

/-!
# Conversations

A run is started for a contact with some replies ready.  Whenever it waits for a
reply it is given the next one, and whenever it waits for time to pass it is
woken, until it waits no longer or there are no replies left.  All that the run
comes to in this way is decided by the world and the replies: `Talks.unique`.
-/

namespace Dialogue

/-- What a level is resumed with next, and the replies that are left then: if it waits for time to
pass, with the token of its wait, and otherwise with the next reply. -/
def Level.nextEvent? (level : Level) (replies : List Payload) : Option (Wakeup × List Payload) :=
  match level.suspension with
  | none => none
  | some suspension =>
    if suspension.isTimer then some (.timer suspension.token, replies)
    else
      match replies with
      | [] => none
      | reply :: rest => some (⟨none, reply⟩, rest)

/-- A level that waits for nothing is not resumed. -/
theorem Level.nextEvent?_of_none {level : Level} (h : level.suspension = none)
    (replies : List Payload) : level.nextEvent? replies = none := by
  unfold nextEvent?
  rw [h]

theorem Level.nextEvent?_of_timer {level : Level} {suspension : Suspension}
    (h : level.suspension = some suspension) (htimer : suspension.isTimer = true)
    (replies : List Payload) :
    level.nextEvent? replies = some (.timer suspension.token, replies) := by
  unfold nextEvent?
  rw [h]
  exact if_pos htimer

namespace World

/-- A stored run is resumed with one event after the other, from one world to another. -/
inductive Converses (id : Identifier) : World → List Payload → World → Prop
  /-- It waits no longer, or there is no reply left. -/
  | stop {world run replies} (stored : world.store.find? id = some run)
      (done : run.nextEvent? replies = none) : Converses id world replies world
  /-- It is resumed. -/
  | next {world run event replies rest last} (stored : world.store.find? id = some run)
      (awaited : run.nextEvent? replies = some (event, rest))
      (others : Converses id (world.carryOut (.resume id event)) rest last) :
      Converses id world replies last

/-- A run is started as requested, and then resumed as long as there are replies: what comes of
it. -/
inductive Talks (world : World) (request : RunRequest) (replies : List Payload) :
    Except FlowError Run → World → Prop
  /-- It cannot be started. -/
  | refused {e after}
      (begun : world.proceed 0 (Engine.start world.bounds request) = (.done (.error e), after)) :
      Talks world request replies (.error e) after
  | held {run after final last}
      (begun : world.proceed 0 (Engine.start world.bounds request) = (.done (.ok run), after))
      (converses : Converses run.id after replies last)
      (stored : last.store.find? run.id = some final) :
      Talks world request replies (.ok final) last

variable {world : World}

theorem Converses.unique {id : Identifier} {replies : List Payload} {last last' : World}
    (h : Converses id world replies last) (h' : Converses id world replies last') :
    last = last' := by
  induction h with
  | stop stored done =>
      cases h' with
      | stop stored' done' => rfl
      | next stored' awaited' others' =>
          obtain rfl := Option.some.inj (stored.symm.trans stored')
          simp [done] at awaited'
  | next stored awaited others ih =>
      cases h' with
      | stop stored' done' =>
          obtain rfl := Option.some.inj (stored.symm.trans stored')
          simp [done'] at awaited
      | next stored' awaited' others' =>
          obtain rfl := Option.some.inj (stored.symm.trans stored')
          obtain ⟨rfl, rfl⟩ := Prod.mk.inj (Option.some.inj (awaited.symm.trans awaited'))
          exact ih others'

/-- A conversation can go in one way only. -/
theorem Talks.unique {request : RunRequest} {replies : List Payload}
    {result result' : Except FlowError Run} {last last' : World}
    (h : world.Talks request replies result last)
    (h' : world.Talks request replies result' last') : result = result' ∧ last = last' := by
  cases h with
  | refused begun =>
      cases h' with
      | refused begun' =>
          obtain ⟨hresult, rfl⟩ := Prod.mk.inj (begun.symm.trans begun')
          obtain rfl := Except.error.inj (Interaction.done.inj hresult)
          exact ⟨rfl, rfl⟩
      | held begun' converses' stored' =>
          cases Interaction.done.inj (congrArg Prod.fst (begun.symm.trans begun'))
  | held begun converses stored =>
      cases h' with
      | refused begun' =>
          cases Interaction.done.inj (congrArg Prod.fst (begun.symm.trans begun'))
      | held begun' converses' stored' =>
          obtain ⟨hresult, rfl⟩ := Prod.mk.inj (begun.symm.trans begun')
          obtain rfl := Except.ok.inj (Interaction.done.inj hresult)
          obtain rfl := converses.unique converses'
          obtain rfl := Option.some.inj (stored.symm.trans stored')
          exact ⟨rfl, rfl⟩

/-! ## Orders of a conversation -/

/-- What the resumption of a stored run comes to. -/
theorem carryOut_resume (hworld : world.Ready) {run : Run}
    (hrun : world.store.find? run.id = some run) (event : Wakeup) :
    world.carryOut (.resume run.id event) = (Engine.resumed world run event).2 := by
  rw [carryOut, Engine.smooth_resume _ _ _ _ _ hworld.toUndisturbed,
    Engine.obey_resume hworld.store, hrun]

/-- A run whose flow cannot be loaded is not started. -/
theorem proceed_start_unloaded (hworld : world.Ready) {request : RunRequest} {e : FlowError}
    (hflow : world.flow request.flow = .error e) :
    world.proceed 0 (Engine.start world.bounds request) = (.done (.error e), world) := by
  rw [Engine.smooth_start _ _ _ _ hworld.toUndisturbed, Engine.obey_start hworld.store,
    look_of_error hflow]

/-- A run that is to start at a node that its flow does not have is not started. -/
theorem proceed_start_astray (hworld : world.Ready) {request : RunRequest} {graph : Graph}
    {e : FlowError} (hflow : world.flow request.flow = .ok graph)
    (hnode : Engine.startNode graph request = .error e) :
    world.proceed 0 (Engine.start world.bounds request) =
      (.done (.error e), (world.look request.flow).2) := by
  have hlook : world.look request.flow = (.ok graph, (world.look request.flow).2) :=
    Prod.ext hflow rfl
  rw [Engine.smooth_start _ _ _ _ hworld.toUndisturbed, Engine.obey_start hworld.store, hlook]
  simp only [hnode]

theorem proceed_start_driven (hworld : world.Ready) {request : RunRequest} {graph : Graph}
    {node : NodeId} (hflow : world.flow request.flow = .ok graph)
    (hnode : Engine.startNode graph request = .ok node) :
    world.proceed 0 (Engine.start world.bounds request) =
      let next := (world.look request.flow).2.newRun
      let driven := next.2.driven graph (Run.fresh next.1 request node world.bounds.now) none
      (.done (.ok driven.1), driven.2) := by
  have hlook : world.look request.flow = (.ok graph, (world.look request.flow).2) :=
    Prod.ext hflow rfl
  rw [Engine.smooth_start _ _ _ _ hworld.toUndisturbed, Engine.obey_start hworld.store, hlook]
  simp only [hnode]

/-- What is persisted is found. -/
theorem find?_persist (world : World) (run : Run) :
    (world.persist run).store.find? run.id = some run := by
  rw [(later_persist run).store]
  change (world.store.put run).find? run.id = some run
  rw [Store.find?_put, if_pos rfl]

theorem onward_keep (world : World) (run : Run) : world.Onward (world.keep run) :=
  ⟨rfl, rfl, rfl, rfl, rfl, rfl, rfl, Nat.le_refl _⟩

theorem onward_persist (world : World) (run : Run) : world.Onward (world.persist run) :=
  (world.onward_keep run).trans (later_persist run).onward

end World

end Dialogue
