import Dialogue.Proofs.Engine.Serving
import Dialogue.Proofs.Engine.Shape
import Dialogue.Proofs.Engine.Token

/-!
# Transcripts of work under a permit

What is done with a permit of a run begins by loading the run, and either asks for
nothing more than its flow and leaves the world as it is, or stores the run once.
-/

namespace Dialogue

/-- A request with its answer. -/
abbrev Exchange : Type := (request : Request) × request.Answer

namespace Request

/-- Whether a request stores a run. -/
def isSave : Request → Bool
  | .save _ => true
  | _ => false

/-- Whether a request loads a run. -/
def isLoad : Request → Bool
  | .load _ => true
  | _ => false

/-- Whether a request is part of working on a run that has been loaded. -/
def isWork : Request → Bool
  | .call _ | .save _ | .schedule .. | .cancelTimers _ => true
  | _ => false

theorem not_load_of_work {q : Request} (h : q.isWork = true) : q.isLoad = false := by
  cases q <;> first | rfl | simp [isWork] at h

theorem not_permit_of_work {q : Request} (h : q.isWork = true) : q.forPermit = false := by
  cases q <;> first | rfl | simp [isWork] at h

end Request

/-- In this transcript a loaded run is worked on, and these runs are stored in turn. -/
structure Saves (exchanges : List Exchange) (runs : List Run) : Prop where
  work : ∀ x ∈ exchanges, x.1.isWork = true
  saved : exchanges.filter (·.1.isSave) = runs.map fun run => ⟨.save run, .ok ()⟩

namespace Saves

variable {first second : List Exchange} {runs others : List Run}

theorem nil : Saves [] [] := ⟨by simp, rfl⟩

theorem append (h : Saves first runs) (h' : Saves second others) :
    Saves (first ++ second) (runs ++ others) := by
  refine ⟨fun x hx => ?_, ?_⟩
  · rcases List.mem_append.mp hx with hx | hx
    · exact h.work x hx
    · exact h'.work x hx
  · rw [List.filter_append, h.saved, h'.saved, List.map_append]

theorem after (h : Saves second runs) (hfirst : Saves first []) : Saves (first ++ second) runs :=
  hfirst.append h

theorem before (h : Saves first runs) (hsecond : Saves second []) :
    Saves (first ++ second) runs := by
  rw [← List.append_nil runs]
  exact h.append hsecond

theorem of_none (hwork : ∀ x ∈ first, x.1.isWork = true)
    (hnone : ∀ x ∈ first, x.1.isSave = false) : Saves first [] :=
  ⟨hwork, List.filter_eq_nil_iff.mpr fun x hx => by simp [hnone x hx]⟩

end Saves

namespace World

variable {α β : Type} {world : World}

/-- What an operation asks for and is answered where it never has to wait. -/
def transcript (world : World) (operation : Operating α) : List Exchange :=
  Interaction.transcript attend operation world

theorem transcript_ask (world : World) (q : Request) (next : q.Answer → Operating α) :
    world.transcript (.ask q next) =
      ⟨q, (attend q world).1⟩ :: (attend q world).2.transcript (next (attend q world).1) := rfl

theorem transcript_bind (world : World) (m : Operating α) (f : α → Operating β) :
    world.transcript (m >>= f) =
      world.transcript m ++ (world.obey m).2.transcript (f (world.obey m).1) :=
  Interaction.transcript_bind attend m f world

@[simp] theorem transcript_pure (world : World) (value : α) :
    world.transcript (pure value) = [] := rfl

@[simp] theorem transcript_request (world : World) (q : Request) :
    world.transcript (Operating.request q) = [⟨q, (attend q world).1⟩] := rfl

/-- What happens within a run is neither storing nor loading. -/
theorem saves_within (world : World) (acting : Acting α) :
    Saves (world.transcript (Operating.within acting)) [] := by
  have hcalls : ∀ x ∈ world.transcript (Operating.within acting), ∃ call, x.1 = .call call := by
    refine Interaction.mem_transcript_relay (fun call world x hx => ⟨call, ?_⟩) acting world
    exact congrArg Sigma.fst (List.mem_singleton.mp hx)
  refine .of_none (fun x hx => ?_) fun x hx => ?_ <;>
    · obtain ⟨call, hcall⟩ := hcalls x hx
      rw [hcall]
      rfl

theorem saves_request {q : Request} (hwork : q.isWork = true) (hsave : q.isSave = false) :
    Saves (world.transcript (Operating.request q)) [] :=
  .of_none (by simpa using hwork) (by simpa using hsave)

end World

namespace Engine

open World

variable {world : World} {run : Run}

theorem saves_save (hstore : world.store.outage = {}) (run : Run) :
    Saves (world.transcript (Operating.save run)) [run] := by
  have hanswer : world.transcript (Operating.save run) = [⟨.save run, .ok ()⟩] := by
    change [(⟨.save run, (world.store.save run).1⟩ : Exchange)] = _
    simp [Store.save, hstore]
  rw [hanswer]
  exact ⟨by simp [Request.isWork], rfl⟩

theorem saves_scheduleFor (id : Identifier) (suspension : Suspension) :
    Saves (world.transcript (scheduleFor id suspension)) [] := by
  unfold scheduleFor
  cases suspension.resumeAt? <;> cases suspension.expiresAt
  · exact .nil
  · exact saves_request rfl rfl
  · exact saves_request rfl rfl
  · rw [transcript_bind]
    exact (saves_request rfl rfl).append (saves_request rfl rfl)

theorem saves_persist (hstore : world.store.outage = {}) (run : Run) :
    Saves (world.transcript (Engine.persist run)) [run] := by
  unfold Engine.persist
  rw [transcript_bind, obey_save hstore]
  refine (saves_save hstore run).before ?_
  dsimp only
  split
  · rw [transcript_bind]
    exact (saves_scheduleFor _ _).before .nil
  · rw [transcript_bind]
    exact (saves_request rfl rfl).before .nil

theorem saves_driveAndStore (hstore : world.store.outage = {}) (graph : Graph) (run : Run)
    (payload : Option Payload) :
    Saves (world.transcript (driveAndStore world.bounds graph run payload))
      [(world.driven graph run payload).1] := by
  have hdriven : (world.act (run.drive world.bounds graph payload)).2.store.outage = {} := by
    rw [(world.later_act _).store]
    exact hstore
  unfold driveAndStore
  rw [transcript_bind, obey_within, transcript_bind, obey_persist hdriven]
  exact ((saves_persist hdriven _).before .nil).after (saves_within _ _)

theorem saves_terminate (hstore : world.store.outage = {}) (run : Run) (kind : FailureKind)
    (message : String) :
    Saves (world.transcript (Engine.terminate world.bounds run kind message))
      [(world.terminate run kind message).1] := by
  unfold Engine.terminate
  dsimp only
  rw [transcript_bind]
  refine Saves.after ?_ (saves_request rfl rfl)
  change Saves ((world.unalarmed run.id).transcript _) _
  rw [transcript_bind, obey_within]
  refine Saves.after ?_ (saves_within _ _)
  have htold : (((world.unalarmed run.id).act ((run.terminate kind message world.bounds.now).tell
      world.bounds run.node (.runFailed kind message))).2).store.outage = {} := hstore
  rw [transcript_bind, obey_save htold]
  exact (saves_save htold _).before .nil

/-! ## Work on one run -/

/-- What work on a loaded run comes to: it asks for no more than its flow and leaves the world as it
is, or it stores the run once, in a suspension that is new. -/
inductive Stint (world : World) (run : Run) : List Exchange → Option Run → World → Prop
  | idle {rest} (saves : Saves rest []) (quiet : ∀ x ∈ rest, x.1.isInquiry = true) :
      Stint world run (⟨.load run.id, .ok (some run)⟩ :: rest) none world
  | writes {rest run' world'} (saves : Saves rest [run']) (same : run.toLevel.SameRun run'.toLevel)
      (store : world'.store = world.store.put run')
      (issued : ∀ suspension, run'.suspension = some suspension →
        world.Issued world' suspension.token) :
      Stint world run (⟨.load run.id, .ok (some run)⟩ :: rest) (some run') world'

theorem Stint.terminate {rest : List Exchange} {kind : FailureKind} {message : String}
    (hsaves : Saves rest [(world.terminate run kind message).1]) :
    Stint world run (⟨.load run.id, .ok (some run)⟩ :: rest)
      (some (world.terminate run kind message).1) (world.terminate run kind message).2 := by
  obtain ⟨hsame, -, hpending, -⟩ :=
    Run.unwind_ended kind message world.bounds.now run.toLevel run.nested
  refine .writes hsaves hsame rfl fun suspension hsuspension => ?_
  have hnone : (world.terminate run kind message).1.suspension = none := hpending
  simp [hnone] at hsuspension

theorem Stint.driven {rest : List Exchange} {earlier : World} {graph : Graph}
    {payload : Option Payload} (hlater : world.Later earlier)
    (hsaves : Saves rest [(earlier.driven graph run payload).1]) :
    Stint world run (⟨.load run.id, .ok (some run)⟩ :: rest)
      (some (earlier.driven graph run payload).1) (earlier.driven graph run payload).2 := by
  obtain ⟨after, run', drive, hdriven⟩ := earlier.course_driven graph run payload
  rw [hdriven] at hsaves ⊢
  refine .writes hsaves drive.sameRun ?_ fun suspension hsuspension => ?_
  · rw [(later_persist run').store]
    exact congrArg (Store.put · run') (drive.later.store.trans hlater.store)
  · have hissued := drive.level_issued suspension hsuspension
    exact hissued.widen hlater.firstToken hlater.tokens (later_persist run').tokens

namespace Stint

variable {exchanges past more : List Exchange} {saved : Option Run} {world' : World}

theorem exists_rest (h : Stint world run exchanges saved world') :
    ∃ rest, exchanges = ⟨.load run.id, .ok (some run)⟩ :: rest ∧ Saves rest saved.toList := by
  cases h with
  | idle saves quiet => exact ⟨_, rfl, saves⟩
  | writes saves same store issued => exact ⟨_, rfl, saves⟩

theorem not_permit (h : Stint world run exchanges saved world') {x : Exchange}
    (hsplit : exchanges = past ++ x :: more) : x.1.forPermit = false := by
  obtain ⟨rest, rfl, hsaves⟩ := h.exists_rest
  have hmem : x ∈ (⟨.load run.id, .ok (some run)⟩ :: rest : List Exchange) := by simp [hsplit]
  rcases List.mem_cons.mp hmem with rfl | hmem
  · rfl
  · exact Request.not_permit_of_work (hsaves.work x hmem)

/-- The run is loaded first, and nothing is loaded later. -/
theorem load_first (h : Stint world run exchanges saved world') {x : Exchange}
    (hsplit : exchanges = past ++ x :: more) (hload : x.1.isLoad = true) :
    past = [] ∧ x = ⟨.load run.id, .ok (some run)⟩ := by
  obtain ⟨rest, rfl, hsaves⟩ := h.exists_rest
  cases past with
  | nil => exact ⟨rfl, (List.cons.inj hsplit).1.symm⟩
  | cons first mid =>
      have hmem : x ∈ rest := by simp [(List.cons.inj hsplit).2]
      simp [Request.not_load_of_work (hsaves.work x hmem)] at hload

/-- A run is stored once, after the one that it comes from was loaded. -/
theorem save_once (h : Stint world run exchanges saved world') {run' : Run}
    {answer : Except FlowError Unit} (hsplit : exchanges = past ++ ⟨.save run', answer⟩ :: more) :
    saved = some run' ∧ answer = .ok () ∧ ∃ mid, past = ⟨.load run.id, .ok (some run)⟩ :: mid ∧
      ∀ x ∈ mid, x.1.isSave = false := by
  obtain ⟨rest, rfl, hsaves⟩ := h.exists_rest
  cases past with
  | nil =>
      have hkind := congrArg (fun x : Exchange => x.1.isSave) (List.cons.inj hsplit).1
      simp [Request.isSave] at hkind
  | cons first mid =>
      rw [List.cons_append] at hsplit
      obtain ⟨rfl, rfl⟩ := List.cons.inj hsplit
      -- the runs stored are those of `saved`, at most one, so there is none in the middle
      have hsaved := hsaves.saved
      rw [List.filter_append, List.filter_cons_of_pos rfl] at hsaved
      cases hearlier : mid.filter (·.1.isSave) with
      | nil =>
          have hnone : ∀ x ∈ mid, x.1.isSave = false := by
            simpa using List.filter_eq_nil_iff.mp hearlier
          rw [hearlier, List.nil_append] at hsaved
          cases saved with
          | none => simp at hsaved
          | some kept =>
              cases (List.cons.inj hsaved).1
              exact ⟨rfl, rfl, mid, rfl, hnone⟩
      | cons other others =>
          rw [hearlier] at hsaved
          cases saved <;> simp at hsaved

/-- Stored runs have kept their suspensions or left them, and may have got into new ones. -/
theorem renews (h : Stint world run exchanges saved world') (honward : world.Onward world') :
    world.Renews world' := by
  cases h with
  | idle => exact .refl world
  | @writes rest run' world' saves same store issued =>
      refine ⟨honward.firstToken, honward.tokens, fun id hid => ?_, ?_⟩
      · rw [store, Store.find?_put]
        split
        · rfl
        · exact hid
      · rintro id token ⟨found, suspension, hfound, hpending, rfl⟩
        rw [store, Store.find?_put] at hfound
        split at hfound
        · obtain rfl := Option.some.inj hfound
          exact .inr (issued suspension hpending)
        · exact .inl ⟨found, suspension, hfound, hpending, rfl⟩

theorem quiet (h : Stint world run exchanges none world') :
    (∀ x ∈ exchanges, x.1.isInquiry = true) ∧ world' = world := by
  cases h with
  | idle saves quiet =>
      refine ⟨fun x hx => ?_, rfl⟩
      rcases List.mem_cons.mp hx with rfl | hx
      · rfl
      · exact quiet x hx

theorem mem_save {run' : Run} (h : Stint world run exchanges (some run') world') :
    ⟨.save run', .ok ()⟩ ∈ exchanges := by
  obtain ⟨rest, rfl, hsaves⟩ := h.exists_rest
  have hmem : (⟨.save run', .ok ()⟩ : Exchange) ∈ rest.filter (·.1.isSave) := by
    simp [hsaves.saved]
  exact .tail _ (List.mem_filter.mp hmem).1

/-- What is stored is the same run, in a new suspension if it is in one. -/
theorem saved_run {run' : Run} (h : Stint world run exchanges (some run') world') :
    run.toLevel.SameRun run'.toLevel ∧ ∀ suspension, run'.suspension = some suspension →
      world.Issued world' suspension.token := by
  cases h with
  | writes saves same store issued => exact ⟨same, issued⟩

theorem stored (h : Stint world run exchanges saved world')
    (hrun : world.store.find? run.id = some run) :
    ∃ run', world'.store.find? run.id = some run' ∧ run.toLevel.SameRun run'.toLevel := by
  cases h with
  | idle => exact ⟨run, hrun, .refl _⟩
  | @writes rest run' world' saves same store issued =>
      refine ⟨run', ?_, same⟩
      rw [store, Store.find?_put, if_pos same.id]

end Stint

theorem transcript_load (hstore : world.store.outage = {}) (id : Identifier) :
    world.transcript (Operating.load id) = [⟨.load id, .ok (world.store.find? id)⟩] := by
  change [(⟨.load id, world.store.load id⟩ : Exchange)] = _
  simp [Store.load, hstore]

theorem transcript_loadForResume (hstore : world.store.outage = {})
    (hrun : world.store.find? run.id = some run) :
    world.transcript (loadForResume run.id) = [⟨.load run.id, .ok (some run)⟩] := by
  unfold loadForResume
  rw [transcript_bind, transcript_load hstore, attend_load hstore, hrun]
  rfl

theorem transcript_loadExisting (hstore : world.store.outage = {})
    (hrun : world.store.find? run.id = some run) :
    world.transcript (loadExisting run.id) = [⟨.load run.id, .ok (some run)⟩] := by
  unfold loadExisting
  rw [transcript_bind, transcript_load hstore, attend_load hstore, hrun]
  rfl

theorem transcript_loadFlow (flow : FlowId) :
    world.transcript (loadFlow flow) = [⟨.call (.flow flow), world.flow flow⟩] := rfl

/-- An event that is refused for the state of the run has asked for nothing but the run. -/
theorem transcript_resumeHeld_refused (hstore : world.store.outage = {}) {event : Wakeup}
    (hrun : world.store.find? run.id = some run) {e : ResumeError}
    (hchecked : checkResumable run event = .error e) :
    world.transcript (resumeHeld world.bounds run.id event) =
      [⟨.load run.id, .ok (some run)⟩] := by
  unfold resumeHeld
  rw [transcript_bind, transcript_loadForResume hstore hrun, obey_loadForResume hstore, hrun]
  simp only [hchecked]
  rfl

/-- For an event that comes too late, the loaded run is failed and stored. -/
theorem transcript_resumeHeld_late (hstore : world.store.outage = {}) {event : Wakeup}
    (hrun : world.store.find? run.id = some run) {suspension : Suspension}
    (hchecked : checkResumable run event = .ok suspension)
    (hoverdue : suspension.isOverdue world.bounds.now = true) :
    ∃ rest, world.transcript (resumeHeld world.bounds run.id event) =
        ⟨.load run.id, .ok (some run)⟩ :: rest ∧
      Saves rest [(world.terminate run .timeout expiredMessage).1] := by
  unfold resumeHeld
  rw [transcript_bind, transcript_loadForResume hstore hrun, obey_loadForResume hstore, hrun]
  simp only [hchecked, hoverdue, if_true]
  refine ⟨_, List.singleton_append, ?_⟩
  rw [transcript_bind, obey_terminate hstore]
  exact (saves_terminate hstore run .timeout expiredMessage).before .nil

/-- For a run whose flow is unknown, nothing is asked for after the flow. -/
theorem transcript_resumeHeld_unknown (hstore : world.store.outage = {}) {event : Wakeup}
    (hrun : world.store.find? run.id = some run) {suspension : Suspension} {e : FlowError}
    (hchecked : checkResumable run event = .ok suspension)
    (hoverdue : suspension.isOverdue world.bounds.now = false)
    (hflow : world.flow run.flow = .error e) :
    world.transcript (resumeHeld world.bounds run.id event) =
      [⟨.load run.id, .ok (some run)⟩, ⟨.call (.flow run.flow), .error e⟩] := by
  unfold resumeHeld
  rw [transcript_bind, transcript_loadForResume hstore hrun, obey_loadForResume hstore, hrun]
  simp only [hchecked, hoverdue, Bool.false_eq_true, if_false]
  rw [transcript_bind, obey_loadFlow, transcript_loadFlow, look_of_error hflow, hflow]
  rfl

/-- For an event in time, the loaded run is driven and stored. -/
theorem transcript_resumeHeld_driven (hstore : world.store.outage = {}) {event : Wakeup}
    (hrun : world.store.find? run.id = some run) {suspension : Suspension} {graph : Graph}
    {looked : World} (hchecked : checkResumable run event = .ok suspension)
    (hoverdue : suspension.isOverdue world.bounds.now = false)
    (hlook : world.look run.flow = (.ok graph, looked)) :
    ∃ rest, world.transcript (resumeHeld world.bounds run.id event) =
        ⟨.load run.id, .ok (some run)⟩ :: rest ∧
      Saves rest [((looked.unalarmed run.id).driven graph run (some event.payload)).1] := by
  have hlater : world.Later looked := by simpa [hlook] using world.later_look run.flow
  have hstore' : (looked.unalarmed run.id).store.outage = {} := hlater.store ▸ hstore
  have hbounds : world.bounds = (looked.unalarmed run.id).bounds := hlater.bounds.symm
  unfold resumeHeld
  rw [transcript_bind, transcript_loadForResume hstore hrun, obey_loadForResume hstore, hrun]
  simp only [hchecked, hoverdue, Bool.false_eq_true, if_false]
  refine ⟨_, List.singleton_append, ?_⟩
  rw [transcript_bind, obey_loadFlow, transcript_loadFlow, hlook]
  refine Saves.after ?_ (.of_none (by simp [Request.isWork]) (by simp [Request.isSave]))
  dsimp only
  rw [transcript_bind]
  refine Saves.after ?_ (saves_request rfl rfl)
  change Saves ((looked.unalarmed run.id).transcript _) _
  rw [hbounds, transcript_bind, obey_driveAndStore hstore']
  exact (saves_driveAndStore hstore' graph run (some event.payload)).before .nil

/-- Work for an event stores the run if it resumes it, or if the event comes too late. -/
theorem stint_resumeHeld (hstore : world.store.outage = {}) (event : Wakeup)
    (hrun : world.store.find? run.id = some run) :
    ∃ saved, Stint world run (world.transcript (resumeHeld world.bounds run.id event)) saved
        (world.obey (resumeHeld world.bounds run.id event)).2 ∧
      ((∃ run', (world.obey (resumeHeld world.bounds run.id event)).1 = .ok run') →
        saved.isSome = true ∧ run.suspension.isSome = true) ∧
      (saved.isSome = true →
        (∃ run', (world.obey (resumeHeld world.bounds run.id event)).1 = .ok run') ∨
        (world.obey (resumeHeld world.bounds run.id event)).1 =
          .error (.stale run.id expiredMessage)) := by
  rw [obey_resumeHeld hstore run.id event, hrun]
  dsimp only
  cases hchecked : checkResumable run event with
  | error e =>
      rw [transcript_resumeHeld_refused hstore hrun hchecked]
      simp only [resumed, hchecked]
      exact ⟨none, .idle .nil (by simp), by simp, by simp⟩
  | ok suspension =>
      have hpaused : run.suspension.isSome = true := by
        simp [(paused_of_checkResumable hchecked).2]
      cases hoverdue : suspension.isOverdue world.bounds.now with
      | true =>
          obtain ⟨rest, hrest, hsaves⟩ :=
            transcript_resumeHeld_late hstore hrun hchecked hoverdue
          simp only [hrest, resumed, hchecked, hoverdue, if_true]
          exact ⟨_, .terminate hsaves, by simp, by simp⟩
      | false =>
          rcases hlook : world.look run.flow with ⟨e | graph, looked⟩
          · have hflow : world.flow run.flow = .error e := congrArg Prod.fst hlook
            rw [look_of_error hflow] at hlook
            obtain ⟨-, rfl⟩ := hlook
            rw [transcript_resumeHeld_unknown hstore hrun hchecked hoverdue hflow]
            simp only [resumed, hchecked, hoverdue, Bool.false_eq_true, if_false,
              look_of_error hflow]
            refine ⟨none, .idle (.of_none ?_ ?_) ?_, by simp, by simp⟩ <;>
              simp [Request.isWork, Request.isSave, Request.isInquiry]
          · have hlater : world.Later looked := by
              simpa [hlook] using world.later_look run.flow
            obtain ⟨rest, hrest, hsaves⟩ :=
              transcript_resumeHeld_driven hstore hrun hchecked hoverdue hlook
            simp only [hrest, resumed, hchecked, hoverdue, Bool.false_eq_true, if_false, hlook]
            exact ⟨_, .driven (hlater.trans (later_unalarmed run.id)) hsaves,
              fun _ => ⟨rfl, hpaused⟩, by simp⟩

theorem stint_cancelHeld (hstore : world.store.outage = {})
    (hrun : world.store.find? run.id = some run) :
    ∃ saved, Stint world run (world.transcript (cancelHeld world.bounds run.id)) saved
        (world.obey (cancelHeld world.bounds run.id)).2 ∧
      ∃ run', (world.obey (cancelHeld world.bounds run.id)).1 = .ok run' := by
  unfold cancelHeld
  rw [transcript_bind, transcript_loadExisting hstore hrun, obey_bind, obey_loadExisting hstore,
    hrun]
  dsimp only
  split
  · exact ⟨none, .idle .nil (by simp), run, rfl⟩
  · rw [obey_terminate hstore]
    exact ⟨_, .terminate (saves_terminate hstore run _ _), _, rfl⟩

theorem stint_expireHeld (hstore : world.store.outage = {}) (token : Option Identifier)
    (time : Instant) (hrun : world.store.find? run.id = some run) :
    ∃ saved, Stint world run (world.transcript (expireHeld world.bounds run.id token time)) saved
        (world.obey (expireHeld world.bounds run.id token time)).2 ∧
      ∃ expired, (world.obey (expireHeld world.bounds run.id token time)).1 = .ok expired := by
  unfold expireHeld
  rw [transcript_bind, transcript_loadExisting hstore hrun, obey_bind, obey_loadExisting hstore,
    hrun]
  dsimp only
  split
  · rw [obey_bind, transcript_bind, obey_terminate hstore]
    exact ⟨_, .terminate ((saves_terminate hstore run _ _).before .nil), _, rfl⟩
  · exact ⟨none, .idle .nil (by simp), none, rfl⟩

end Engine

end Dialogue
