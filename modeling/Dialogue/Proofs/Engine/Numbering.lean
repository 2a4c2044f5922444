import Dialogue.Proofs.Engine.Shape

/-!
# The identifiers of stored runs

Every stored run has an identifier that was given out, so a run that begins is
never stored in the place of another one.
-/

namespace Dialogue.World

variable {world world' : World} {order : Order}

/-- Persisting a run changes what is found for its own identifier only. -/
theorem store_persist (world : World) (run : Run) (id : Identifier) :
    (world.persist run).store.find? id =
      if run.id = id then some run else world.store.find? id := by
  rw [(later_persist run).store]
  exact world.store.find?_put run id

/-- Where a run has begun, it is found, and all others are found as they were. -/
theorem store_begun {first second : World} {bounds : Bounds} {phase : Drive.Phase}
    {fresh run : Run} (still : world.Still first)
    (drive : Drive.Course bounds phase first.newRun.2 fresh second run) (id : Identifier) :
    (second.persist run).store.find? id =
      if run.id = id then some run else world.store.find? id := by
  have hstore := ((later_newRun first).trans drive.later).store.trans still.store
  rw [store_persist, hstore]

/-- Where a run was resumed, it is found as it has become. -/
theorem store_resumed {first second : World} {bounds : Bounds} {phase : Drive.Phase}
    {run run' : Run} (still : world.Still first)
    (drive : Drive.Course bounds phase first run second run') (id : Identifier) :
    (second.persist run').store.find? id =
      if run.id = id then some run' else world.store.find? id := by
  rw [store_persist, drive.later.store, still.store, drive.sameRun.id]

theorem silent_persist (world : World) (run : Run) : world.Silent (world.persist run) := by
  have hkeep : world.Silent (world.keep run) := ⟨rfl, rfl, rfl⟩
  exact hkeep.trans (still_persist run).toSilent

theorem ahead_terminate (world : World) (run : Run) (kind : FailureKind) (message : String) :
    world.Ahead (world.terminate run kind message).2 :=
  ⟨⟨[_], rfl⟩, Nat.le_refl _, rfl⟩

theorem store_terminate (world : World) (run : Run) (kind : FailureKind) (message : String)
    (id : Identifier) : (world.terminate run kind message).2.store.find? id =
      if run.id = id then some (run.terminate kind message world.bounds.now)
      else world.store.find? id := by
  have hid : (run.terminate kind message world.bounds.now).id = run.id :=
    (Run.unwind_ended kind message world.bounds.now run.toLevel run.nested).1.id
  rw [← hid]
  exact world.store.find?_put _ id

theorem Endings.ahead (h : world.Endings world') : world.Ahead world' := by
  induction h with
  | refl => exact .refl _
  | tail _ ending ih =>
      obtain ⟨stored, unended, words⟩ := ending
      exact ih.trans (ahead_terminate _ _ _ _)

/-- Terminations begin no run. -/
theorem Endings.find? (h : world.Endings world') {id : Identifier}
    (hnew : world.store.find? id = none) : world'.store.find? id = none := by
  induction h with
  | refl => exact hnew
  | tail _ ending ih =>
      obtain ⟨stored, unended, words⟩ := ending
      rw [store_terminate]
      split
      · next hid =>
        rw [hid, ih] at stored
        cases stored
      · exact ih

/-- No order takes anything back that the observers were told. -/
theorem Deed.ahead (h : world.Deed order world') : world.Ahead world' := by
  cases h with
  | idle still => exact still.toSilent.ahead
  | begin flow place still drive =>
      exact still.toSilent.ahead.trans
        ((ahead_newRun _).trans (drive.ahead.trans (silent_persist _ _).ahead))
  | resume wakes stored accepted flow still drive =>
      exact still.toSilent.ahead.trans (drive.ahead.trans (silent_persist _ _).ahead)
  | endings endings => exact endings.ahead

/-- Every stored run has an identifier that was given out. -/
def Numbered (world : World) : Prop :=
  ∀ id, (world.store.find? id).isSome = true → world.Named id

theorem numbered_opened (settings : Settings) (start : Instant) (flows : List Flow)
    (send : Ledger → String → Message → Except DispatchError String)
    (assign : Ledger → String → String → Except AssignmentError Unit) (supply : Supply) :
    (opened settings start flows send assign supply).Numbered := by
  intro id hid
  simp [opened, Store.find?] at hid

/-- A run that begins has an identifier that no stored run has. -/
theorem Numbered.newRun_ne (h : world.Numbered) {first : World} (still : world.Still first)
    {id : Identifier} (hid : (world.store.find? id).isSome = true) : first.newRun.1 ≠ id := by
  rintro rfl
  exact first.newRun_not_named (still.toSilent.named_iff.mpr (h _ hid))

theorem Numbered.ending (h : world.Numbered) (hending : Ending world world') :
    world'.Numbered := by
  obtain ⟨stored, unended, words⟩ := hending
  intro id hid
  apply (ahead_terminate _ _ _ _).named
  rw [store_terminate] at hid
  split at hid
  · next heq =>
    subst heq
    exact h _ (by simp [stored])
  · exact h id hid

theorem Numbered.deed (h : world.Numbered) (hdeed : world.Deed order world') :
    world'.Numbered := by
  have hahead := hdeed.ahead
  cases hdeed with
  | idle still =>
      intro id hid
      exact hahead.named (h id (still.store ▸ hid))
  | @begin request graph node first second run flow place still drive =>
      intro id hid
      rw [store_begun still drive] at hid
      split at hid
      · next heq =>
        have hnew : run.id = first.newRun.1 := drive.sameRun.id
        rw [← heq, hnew]
        exact (drive.ahead.trans (silent_persist second run).ahead).named
          (named_newRun_iff.mpr (.inl rfl))
      · exact hahead.named (h id hid)
  | @resume _ run event suspension graph first second run' wakes stored accepted flow still
      drive =>
      intro id hid
      apply hahead.named
      rw [store_resumed still drive] at hid
      split at hid
      · next heq => exact h id (by simp [← heq, stored])
      · exact h id hid
  | endings endings =>
      clear hahead
      induction endings with
      | refl => exact h
      | tail _ hending ih => exact ih.ending hending

theorem Numbered.carryOut (h : world.Numbered) (hworld : world.Ready) (order : Order) :
    (world.carryOut order).Numbered := by
  cases hflows : order.keepsFlows with
  | true => exact h.deed (carryOut_deed hworld hflows)
  | false =>
      obtain ⟨hstore, hsilent⟩ := carryOut_flows hworld hflows
      intro id hid
      exact hsilent.named_iff.mpr (h id (hstore ▸ hid))

theorem Numbered.after (h : world.Numbered) (hworld : world.Ready)
    (orders : List (Instant × Order)) : (world.after orders).Numbered :=
  after_induction (fun _ => True) Numbered (fun _ h => h)
    (fun hready _ h => h.carryOut hready _) hworld h fun _ _ => trivial

end Dialogue.World
