import Dialogue.Proofs.World.Acting

/-!
# What a world has been told

Acting tells the observers more and begins more runs, and takes nothing of it
back.  The identifiers of runs are given out in order, so one that is new was
never given out before.
-/

namespace Dialogue.World

/-- Nobody was told anything between two worlds, and no run got an identifier. -/
structure Silent (before after : World) : Prop where
  events : after.events = before.events
  runs : after.supply.runs = before.supply.runs
  firstRun : after.supply.firstRun = before.supply.firstRun

/-- A world after some acting in another one, as to what the observers were told and which runs
have got identifiers. -/
structure Ahead (before after : World) : Prop where
  events : ∃ told, after.events = told ++ before.events
  runs : before.supply.runs ≤ after.supply.runs
  firstRun : after.supply.firstRun = before.supply.firstRun

/-- An identifier that was given to a run. -/
def Named (world : World) (id : Identifier) : Prop :=
  ∃ n, n < world.supply.runs ∧ id = ⟨world.supply.firstRun + n⟩

variable {world world' : World} {id : Identifier}

theorem Silent.refl (world : World) : world.Silent world := ⟨rfl, rfl, rfl⟩

theorem Silent.trans {first second third : World} (h : first.Silent second)
    (h' : second.Silent third) : first.Silent third where
  events := h'.events.trans h.events
  runs := h'.runs.trans h.runs
  firstRun := h'.firstRun.trans h.firstRun

theorem Ahead.refl (world : World) : world.Ahead world := ⟨⟨[], rfl⟩, Nat.le_refl _, rfl⟩

theorem Ahead.trans {first second third : World} (h : first.Ahead second)
    (h' : second.Ahead third) : first.Ahead third where
  events := by
    obtain ⟨told, htold⟩ := h.events
    obtain ⟨told', htold'⟩ := h'.events
    exact ⟨told' ++ told, by rw [htold', htold, List.append_assoc]⟩
  runs := Nat.le_trans h.runs h'.runs
  firstRun := h'.firstRun.trans h.firstRun

theorem Silent.ahead (h : world.Silent world') : world.Ahead world' :=
  ⟨⟨[], h.events⟩, Nat.le_of_eq h.runs.symm, h.firstRun⟩

theorem silent_look (world : World) (flow : FlowId) : world.Silent (world.look flow).2 :=
  ⟨rfl, rfl, rfl⟩

theorem ahead_emit (world : World) (event : Event) : world.Ahead (world.emit event) :=
  ⟨⟨[event], rfl⟩, Nat.le_refl _, rfl⟩

theorem ahead_newRun (world : World) : world.Ahead world.newRun.2 :=
  ⟨⟨[], rfl⟩, Nat.le_succ _, rfl⟩

theorem ahead_reply (call : Call) (world : World) : world.Ahead (reply call world).2 := by
  cases call with
  | emit event => exact ahead_emit world event
  | newRun => exact ahead_newRun world
  | _ => exact ⟨⟨[], rfl⟩, Nat.le_refl _, rfl⟩

/-! ## Identifiers of runs -/

theorem Ahead.named (h : world.Ahead world') (hid : world.Named id) : world'.Named id := by
  obtain ⟨n, hn, rfl⟩ := hid
  exact ⟨n, Nat.lt_of_lt_of_le hn h.runs, by rw [h.firstRun]⟩

theorem Silent.named_iff (h : world.Silent world') : world'.Named id ↔ world.Named id := by
  unfold Named
  rw [h.runs, h.firstRun]

/-- A new identifier is new. -/
theorem newRun_not_named (world : World) : ¬world.Named world.newRun.1 := by
  rintro ⟨n, hn, heq⟩
  have : world.supply.firstRun + world.supply.runs = world.supply.firstRun + n :=
    congrArg Identifier.bits heq
  omega

theorem named_newRun_iff : world.newRun.2.Named id ↔ id = world.newRun.1 ∨ world.Named id := by
  constructor
  · rintro ⟨n, hn, rfl⟩
    rcases Nat.lt_succ_iff_lt_or_eq.mp hn with hlt | rfl
    · exact .inr ⟨n, hlt, rfl⟩
    · exact .inl rfl
  · rintro (rfl | hid)
    · exact ⟨world.supply.runs, Nat.lt_succ_self _, rfl⟩
    · exact (ahead_newRun world).named hid

end Dialogue.World
