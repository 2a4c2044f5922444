import Dialogue.Proofs.Engine.Verdict

/-!
# Operations on different runs commute

Two calls on different runs may be made in either order.  What each decides does
not depend on the other, and what it does concerns its own run only.  The one
difference is which identifiers they are given: the calls that come first are
given the ones that come first.  So the two orders differ by the renaming that
exchanges two neighbouring blocks of identifiers.
-/

namespace Dialogue

/-! ## Exchanging blocks of numbers -/

/-- Exchanges two neighbouring blocks of numbers, of lengths `first` and `second`. -/
def swapBlocks (start first second n : Nat) : Nat :=
  if n < start then n
  else if n < start + first then n + second
  else if n < start + first + second then n - first
  else n

section

variable (start first second n : Nat)

theorem swapBlocks_swapBlocks :
    swapBlocks start second first (swapBlocks start first second n) = n := by
  unfold swapBlocks
  split_ifs <;> omega

theorem bijective_swapBlocks : Function.Bijective (swapBlocks start first second) :=
  Function.bijective_iff_has_inverse.mpr ⟨swapBlocks start second first,
    swapBlocks_swapBlocks start first second, swapBlocks_swapBlocks start second first⟩

variable {start first second n}

theorem swapBlocks_of_first (h : n < first) :
    swapBlocks start first second (start + n) = start + second + n := by
  unfold swapBlocks
  split_ifs <;> omega

theorem swapBlocks_of_second (h : n < second) :
    swapBlocks start first second (start + first + n) = start + n := by
  unfold swapBlocks
  split_ifs <;> omega

/-- Only the numbers in the two blocks are moved. -/
theorem mem_of_swapBlocks_ne (h : swapBlocks start first second n ≠ n) :
    start ≤ n ∧ n < start + first + second := by
  unfold swapBlocks at h
  split_ifs at h <;> omega

end

/-! ## Exchanging what was given out -/

namespace Identifier

/-- Exchanges two blocks of identifiers given out one after the other: of all that begin at `first`,
those from number `n` up to `middle`, and those from there up to `last`. -/
def exchange (first n middle last : Nat) (id : Identifier) : Identifier :=
  ⟨swapBlocks (first + n) (middle - n) (last - middle) id.bits⟩

variable {first n middle last : Nat}

theorem bijective_exchange : Function.Bijective (exchange first n middle last) := by
  obtain ⟨hinjective, hsurjective⟩ :=
    bijective_swapBlocks (first + n) (middle - n) (last - middle)
  constructor
  · intro id other heq
    exact congrArg mk (hinjective (congrArg bits heq))
  · intro id
    obtain ⟨m, hm⟩ := hsurjective id.bits
    exact ⟨⟨m⟩, congrArg mk hm⟩

/-- The second block takes the place of the first. -/
theorem exchange_of_second {k : Nat} (hn : n ≤ middle) (hk : middle + k < last) :
    exchange first n middle last ⟨first + (middle + k)⟩ = ⟨first + (n + k)⟩ := by
  have hshift : first + (middle + k) = first + n + (middle - n) + k := by omega
  have hback : first + (n + k) = first + n + k := by omega
  rw [hshift, hback]
  exact congrArg mk (swapBlocks_of_second (by omega))

/-- The first block comes after the second. -/
theorem exchange_of_first {m k : Nat} (hmiddle : middle ≤ last) (hm : m + middle = last + n)
    (hk : n + k < middle) :
    exchange first n middle last ⟨first + (n + k)⟩ = ⟨first + (m + k)⟩ := by
  have hplace : first + (m + k) = first + n + (last - middle) + k := by omega
  rw [hplace, ← Nat.add_assoc]
  exact congrArg mk (swapBlocks_of_first (by omega))

/-- What is moved was given out in one of the blocks. -/
theorem exchange_ne {id : Identifier} (hn : n ≤ middle) (hmiddle : middle ≤ last)
    (h : exchange first n middle last id ≠ id) :
    (∃ k, k < last ∧ id = ⟨first + k⟩) ∧ ¬∃ k, k < n ∧ id = ⟨first + k⟩ := by
  obtain ⟨hlow, hhigh⟩ := mem_of_swapBlocks_ne fun hsame => h (congrArg mk hsame)
  constructor
  · exact ⟨id.bits - first, by omega, congrArg mk (by omega)⟩
  · rintro ⟨k, hk, rfl⟩
    exact absurd hlow (by dsimp only; omega)

end Identifier

/-- A renaming exchanges identifiers that were given out between two worlds, and no others. -/
structure Renaming.Between (ρ : Renaming) (before after : World) : Prop where
  run_bijective : Function.Bijective ρ.run
  token_bijective : Function.Bijective ρ.token
  run : ∀ id, ρ.run id ≠ id → after.Named id ∧ ¬before.Named id
  token : ∀ token, ρ.token token ≠ token → after.Known token ∧ ¬before.Known token

/-- What was given out before is kept. -/
theorem Renaming.Between.keeps {ρ : Renaming} {before after : World}
    (h : ρ.Between before after) : ρ.Keeps before where
  run id hid := by
    by_contra hmoved
    exact (h.run id hmoved).2 hid
  token token htoken := by
    by_contra hmoved
    exact (h.token token hmoved).2 htoken

namespace World

variable {world first second both : World}

/-- Exchanges what was given out between two worlds with what was given out from there to a
third. -/
def exchange (world first both : World) : Renaming where
  run := Identifier.exchange world.supply.firstRun world.supply.runs first.supply.runs
    both.supply.runs
  token := Identifier.exchange world.supply.firstToken world.supply.tokens first.supply.tokens
    both.supply.tokens

theorem exchange_between (h : world.Grown first) (h' : first.Grown both) :
    (exchange world first both).Between world both where
  run_bijective := Identifier.bijective_exchange
  token_bijective := Identifier.bijective_exchange
  run id hmoved := by
    rw [Named, Named, (h.trans h').firstRun]
    exact Identifier.exchange_ne h.runs h'.runs hmoved
  token token hmoved := by
    rw [Known, Known, (h.trans h').firstToken]
    exact Identifier.exchange_ne h.tokens h'.tokens hmoved

/-- Without the call before it, the second call is given what that one was given, and so on. -/
theorem exchange_carries_second (hforgetful : world.collaborators.Forgetful)
    (hfirst : world.Beside first) :
    (exchange world first both).Carries both.supply.runs both.supply.tokens first world where
  flow := hfirst.flow.symm
  collaborators := hfirst.collaborators.symm
  forgetful := by
    rw [hfirst.collaborators]
    exact hforgetful
  run n hn := by
    rw [hfirst.firstRun]
    exact Identifier.exchange_of_second hfirst.runs hn
  token n hn := by
    rw [hfirst.firstToken]
    exact Identifier.exchange_of_second hfirst.tokens hn

/-- After the other call, the first call is given what comes after that one's. -/
theorem exchange_carries_first (hforgetful : world.collaborators.Forgetful)
    (hsecond : world.Beside second) (hboth : first.Grown both)
    (hpace : first.Apace both world second) :
    (exchange world first both).Carries first.supply.runs first.supply.tokens world second where
  flow := hsecond.flow
  collaborators := hsecond.collaborators
  forgetful := hforgetful
  run n hn := by
    rw [hsecond.firstRun]
    exact Identifier.exchange_of_first hboth.runs hpace.runs hn
  token n hn := by
    rw [hsecond.firstToken]
    exact Identifier.exchange_of_first hboth.tokens hpace.tokens hn

/-! ## Two calls in either order -/

/-- What becomes of a call on a run, made now. -/
def call (world : World) (who : Ticket) (id : Identifier) (errand : Errand) :
    Operating Report × World :=
  world.proceed who (errand.operation world.bounds id)

/-- A call finishes, and does what it decides. -/
theorem call_eq (hworld : world.Ready) (who : Ticket) (id : Identifier) (errand : Errand) :
    world.call who id errand =
      (.done (world.enact (world.verdict id errand)).1,
        (world.enact (world.verdict id errand)).2) := by
  unfold call
  rw [Errand.smooth_operation _ _ _ who _ hworld.toUndisturbed, obey_errand hworld.store]

/-- A call leaves everybody ready for the next one. -/
theorem Ready.enact (h : world.Ready) (id : Identifier) (errand : Errand) :
    (world.enact (world.verdict id errand)).2.Ready := by
  rw [← obey_errand h.store]
  exact h.onward (world.onward_obey _)

/-- Two calls are made in the one order and in the other.  All four finish; reports and standings
are the same up to an exchange of the identifiers that are given out meanwhile, and third runs
stand as before. -/
structure Commute (world : World) (who : Ticket) (x y : Identifier) (first second : Errand)
    (ρ : Renaming) (reports : Report × Report) (after after' : World) : Prop where
  forth : ∃ middle, world.call who x first = (.done reports.1, middle) ∧
    middle.call who y second = (.done reports.2, after)
  back : ∃ middle, world.call who y second = (.done (reports.2.renamed ρ), middle) ∧
    middle.call who x first = (.done (reports.1.renamed ρ), after')
  exchanged : ρ.Between world after
  standing : ∀ id, after'.standing id = (after.standing id).renamed ρ
  others : ∀ id, id ≠ x → id ≠ y →
    after.standing id = world.standing id ∧ after'.standing id = world.standing id

/-- Verdicts about different runs commute. -/
theorem Settled.enact_commute (h : world.Settled) {x y : Identifier} (hne : x ≠ y)
    {own other : Verdict Report}
    (hown : ∀ ρ : Renaming, ρ.Keeps world → own.About x ρ (·.renamed ρ))
    (hother : ∀ ρ : Renaming, ρ.Keeps world → other.About y ρ (·.renamed ρ)) :
    let alone := world.enact own
    let after := alone.2.enact other
    let alone' := world.enact other
    let after' := alone'.2.enact own
    ∃ ρ : Renaming, ρ.Between world after.2 ∧
      alone'.1 = after.1.renamed ρ ∧ after'.1 = alone.1.renamed ρ ∧
      (∀ id, after'.2.standing id = (after.2.standing id).renamed ρ) ∧
      ∀ id, id ≠ x → id ≠ y →
        after.2.standing id = world.standing id ∧ after'.2.standing id = world.standing id := by
  intro alone after alone' after'
  let ρ := exchange world alone.2 after.2
  have hbeside : world.Beside alone.2 := beside_enact _ _
  have hbeside' : world.Beside alone'.2 := beside_enact _ _
  have hnext : alone.2.Beside after.2 := beside_enact _ _
  have hbetween : ρ.Between world after.2 := exchange_between hbeside.toGrown hnext.toGrown
  have hown := hown ρ hbetween.keeps
  have hother := hother ρ hbetween.keeps
  have hkept (id : Identifier) : (world.standing id).Kept ρ :=
    h.standing ρ hbetween.keeps id
  have hinjective := hbetween.token_bijective.injective
  -- The second call does without the first what it does after it, ...
  have hy : alone.2.standing y = world.standing y := standing_enact_of_ne _ hown hne.symm
  have hcarries : ρ.Carries after.2.supply.runs after.2.supply.tokens alone.2 world :=
    exchange_carries_second h.forgetful hbeside
  obtain ⟨hreport, hstands, hpace⟩ := enact_renamed hcarries hbeside.bounds.symm
    hbeside.deadline.symm hy.symm (hy ▸ hkept y) hinjective hother (Nat.le_refl _) (Nat.le_refl _)
  -- ... and the first does after the second what it does without it.
  have hx : alone'.2.standing x = world.standing x := standing_enact_of_ne _ hother hne
  have hcarries' : ρ.Carries alone.2.supply.runs alone.2.supply.tokens world alone'.2 :=
    exchange_carries_first h.forgetful hbeside' hnext.toGrown hpace
  obtain ⟨hreport', hstands', -⟩ := enact_renamed hcarries' hbeside'.bounds hbeside'.deadline hx
    (hkept x) hinjective hown (Nat.le_refl _) (Nat.le_refl _)
  have hothers (id : Identifier) (hidx : id ≠ x) (hidy : id ≠ y) :
      after.2.standing id = world.standing id ∧ after'.2.standing id = world.standing id :=
    ⟨(standing_enact_of_ne alone.2 hother hidy).trans (standing_enact_of_ne world hown hidx),
      (standing_enact_of_ne alone'.2 hown hidx).trans (standing_enact_of_ne world hother hidy)⟩
  refine ⟨ρ, hbetween, hreport, hreport', fun id => ?_, hothers⟩
  by_cases hidx : id = x
  · subst hidx
    have hlast : after.2.standing id = alone.2.standing id :=
      standing_enact_of_ne alone.2 hother hne
    rw [hlast]
    exact hstands'
  by_cases hidy : id = y
  · subst hidy
    have hlast : after'.2.standing id = alone'.2.standing id :=
      standing_enact_of_ne alone'.2 hown hne.symm
    rw [hlast]
    exact hstands
  · rw [(hothers id hidx hidy).1, (hothers id hidx hidy).2]
    exact (hkept id).renamed_eq.symm

/-- A call concerns its own run, whatever keeps what was given out. -/
theorem Settled.about_verdict (h : world.Settled) (id : Identifier) (errand : Errand)
    (ρ : Renaming) (hkeeps : ρ.Keeps world) :
    (world.verdict id errand).About id ρ (·.renamed ρ) :=
  World.about_verdict (h.standing ρ hkeeps id).run errand

/-- What a call decides does not depend on a call on another run before it. -/
theorem Settled.verdict_enact_of_ne (h : world.Settled) {x y : Identifier} (hne : y ≠ x)
    (first second : Errand) :
    (world.enact (world.verdict x first)).2.verdict y second = world.verdict y second := by
  have hnothing : Renaming.Keeps ⟨id, id⟩ world := ⟨fun _ _ => rfl, fun _ _ => rfl⟩
  have hstands := standing_enact_of_ne world (h.about_verdict x first _ hnothing) hne
  have hbeside := world.beside_enact (world.verdict x first)
  exact verdict_congr (congrArg Standing.run hstands) hbeside.bounds hbeside.flow second

/-- Calls on different runs commute. -/
theorem Composed.commute (h : world.Composed) (who : Ticket) {x y : Identifier} (hne : x ≠ y)
    (first second : Errand) :
    ∃ ρ reports after after', world.Commute who x y first second ρ reports after after' := by
  obtain ⟨ρ, hbetween, hreport, hreport', hstanding, hothers⟩ :=
    h.settled.enact_commute hne (h.settled.about_verdict x first) (h.settled.about_verdict y second)
  have hforth := call_eq (h.toReady.enact x first) who y second
  rw [h.settled.verdict_enact_of_ne hne.symm first second] at hforth
  have hback := call_eq h.toReady who y second
  rw [hreport] at hback
  have hback' := call_eq (h.toReady.enact y second) who x first
  rw [h.settled.verdict_enact_of_ne hne second first, hreport'] at hback'
  exact ⟨ρ, (_, _), _, _, ⟨_, call_eq h.toReady who x first, hforth⟩, ⟨_, hback, hback'⟩, hbetween,
    hstanding, hothers⟩

/-- Operations on different runs commute.  Wherever an engine may have come to, any two calls on two
different runs give the same reports in either order, and leave every run's stored state and timers
the same, up to the identifiers given out meanwhile; and they leave those of third runs as they
were. -/
theorem operations_commute (registry : Registry) (settings : Settings) (start : Instant)
    (definitions : List Flow) (send : String → Message → Except DispatchError String)
    (assign : String → String → Except AssignmentError Unit) (supply : Supply) {world : World}
    (hworld : (openedWith registry settings start definitions (fun _ => send) (fun _ => assign)
      supply).LeadsTo world)
    (now : Instant) (who : Ticket) {x y : Identifier} (hne : x ≠ y) (first second : Errand) :
    ∃ ρ reports after after',
      (world.atTime now).Commute who x y first second ρ reports after after' :=
  (((composed_openedWith ..).leadsTo hworld).atTime now).commute who hne first second

/-- Two runs of one flow and one contact wait for time to pass.  Each is resumed by its alarm and
waits again; which of two new tokens it gets depends on the order, and nothing else does. -/
theorem operations_commute_sample :
    let world := ((opened {} ⟨0, 0⟩ [.unhurried "slow"] (fun _ _ _ => .ok "sent")
      (fun _ _ _ => .ok ()) {}).after
        [(⟨0, 0⟩, .start { flow := "slow", contactId := "ann" }),
          (⟨1, 0⟩, .start { flow := "slow", contactId := "ann" })]).atTime ⟨2, 0⟩
    let x : Identifier := ⟨world.supply.firstRun⟩
    let y : Identifier := ⟨world.supply.firstRun + 1⟩
    let wake : Nat → Errand := fun n => .fire ⟨world.supply.firstToken + n⟩ .resume
    x ≠ y ∧
      ((world.store.find? x).map (·.key) = some ⟨"slow", "ann"⟩ ∧
        (world.store.find? y).map (·.key) = some ⟨"slow", "ann"⟩) ∧
      ∃ ρ reports after after', world.Commute 0 x y (wake 0) (wake 1) ρ reports after after' ∧
      (after.standing x).token = some ⟨world.supply.firstToken + 2⟩ ∧
      (after'.standing x).token = some ⟨world.supply.firstToken + 3⟩ := by
  intro world x y wake
  have hnext (n : Nat) : (⟨n⟩ : Identifier) ≠ ⟨n + 1⟩ := by simp
  have hne : x ≠ y := hnext _
  have hcommutes : ∃ ρ reports after after',
      world.Commute 0 x y (wake 0) (wake 1) ρ reports after after' :=
    operations_commute .standard {} ⟨0, 0⟩ [.unhurried "slow"] (fun _ _ => .ok "sent")
      (fun _ _ => .ok ()) {}
      ((LeadsTo.here.order ⟨0, 0⟩ (.start { flow := "slow", contactId := "ann" })).order ⟨1, 0⟩
        (.start { flow := "slow", contactId := "ann" })) ⟨2, 0⟩ 0 hne (wake 0) (wake 1)
  obtain ⟨ρ, reports, after, after', hcommute⟩ := hcommutes
  have hkeys : (world.store.find? x).map (·.key) = some ⟨"slow", "ann"⟩ ∧
      (world.store.find? y).map (·.key) = some ⟨"slow", "ann"⟩ := by decide +kernel
  refine ⟨hne, hkeys, ρ, reports, after, after', hcommute, ?_, ?_⟩
  · obtain ⟨middle, hfirst, hsecond⟩ := hcommute.forth
    have hafter : after = ((world.call 0 x (wake 0)).2.call 0 y (wake 1)).2 := by
      rw [hfirst, hsecond]
    rw [hafter]
    decide +kernel
  · obtain ⟨middle, hfirst, hsecond⟩ := hcommute.back
    have hafter : after' = ((world.call 0 y (wake 1)).2.call 0 x (wake 0)).2 := by
      rw [hfirst, hsecond]
    rw [hafter]
    decide +kernel

end World

end Dialogue
