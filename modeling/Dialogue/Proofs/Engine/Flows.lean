import Dialogue.Proofs.Engine.Order
import Dialogue.Proofs.Graph.Loading

/-!
# The flows of a world

Whatever was ordered, and whatever has become of the definitions, every flow that
a world gives has been loaded with the standard types of nodes, and so is sound.
-/

namespace Dialogue

namespace World

variable {world world' : World} {α : Type}

/-- A world of standard nodes whose loaded flows are sound. -/
structure Loads (world : World) : Prop where
  registry : world.registry = .standard
  loaded : ∀ entry ∈ world.catalog.loaded, entry.2.Sound

theorem loads_opened (settings : Settings) (start : Instant) (flows : List Flow)
    (send : Ledger → String → Message → Except DispatchError String)
    (assign : Ledger → String → String → Except AssignmentError Unit) (supply : Supply) :
    (opened settings start flows send assign supply).Loads where
  registry := rfl
  loaded := by simp [opened, Catalog.ofFlows]

/-- What is loaded from a definition is sound. -/
theorem sound_of_load {catalog : Catalog} {id : FlowId} {graph : Graph}
    (h : catalog.load .standard id = .ok graph) : graph.Sound := by
  unfold Catalog.load at h
  cases hflow : catalog.definitions.get? id with
  | none => simp [hflow] at h
  | some flow =>
      simp only [hflow] at h
      cases hload : Graph.load .standard flow with
      | error e =>
          rw [hload] at h
          cases h
      | ok loaded =>
          rw [hload] at h
          cases h
          exact Graph.load_sound hload

/-- Every flow of the world is sound. -/
theorem Loads.sound (h : world.Loads) {id : FlowId} {graph : Graph}
    (hflow : world.flow id = .ok graph) : graph.Sound := by
  change (world.catalog.get world.registry id).1 = .ok graph at hflow
  rw [Catalog.get_fst, h.registry] at hflow
  cases hloaded : world.catalog.loaded.get? id with
  | none =>
      rw [hloaded] at hflow
      exact sound_of_load hflow
  | some kept =>
      rw [hloaded] at hflow
      cases hflow
      exact h.loaded _ (Fields.mem_of_get? hloaded)

theorem Loads.look (h : world.Loads) (id : FlowId) : (world.look id).2.Loads := by
  refine ⟨h.registry, ?_⟩
  change ∀ entry ∈ (world.catalog.get world.registry id).2.loaded, entry.2.Sound
  unfold Catalog.get
  split
  · exact h.loaded
  · split
    · exact h.loaded
    · next graph hload =>
      intro entry hentry
      rw [h.registry] at hload
      rcases Fields.mem_insert hentry with rfl | hentry
      · exact sound_of_load hload
      · exact h.loaded entry hentry

theorem Loads.attend (q : Request) (h : world.Loads) : (attend q world).2.Loads := by
  cases q with
  | call c =>
      cases c with
      | flow id => exact h.look id
      | _ => exact ⟨h.registry, h.loaded⟩
  | forget flow =>
      refine ⟨h.registry, fun entry hentry => ?_⟩
      exact h.loaded entry (List.mem_of_mem_filter hentry)
  | _ => exact ⟨h.registry, h.loaded⟩

theorem Loads.obey (h : world.Loads) (operation : Operating α) :
    (world.obey operation).2.Loads :=
  @Interaction.run_induction _ _ _ _ World.attend (fun before after => before.Loads → after.Loads)
    (fun _ h => h) (fun h h' hfirst => h' (h hfirst)) (fun q _ h => h.attend q)
    operation world h

/-- Orders change definitions, but what is loaded stays sound. -/
theorem Loads.carryOut (h : world.Loads) (hworld : world.Ready) (order : Order) :
    (world.carryOut order).Loads := by
  rcases carryOut_cases hworld.toUndisturbed order with ⟨α, operation, heq⟩ | ⟨flow, rfl⟩
  · rw [heq]
    exact h.obey operation
  · exact ⟨h.registry, h.loaded⟩

theorem Loads.after (h : world.Loads) (hworld : world.Ready)
    (orders : List (Instant × Order)) : (world.after orders).Loads :=
  after_induction (fun _ => True) Loads (fun _ h => ⟨h.registry, h.loaded⟩)
    (fun hready _ h => h.carryOut hready _) hworld h fun _ _ => trivial

end World

end Dialogue
