import Dialogue.Proofs.Engine.Serving

/-!
# Failing calls among others

What a call has asked for when it fails, whatever others do to the world between one
of its requests and the next.
-/

namespace Dialogue

namespace Engine

open Operating

variable {who : Ticket} {requests : List Request} {bounds : Bounds} {id : Identifier}

/-! ## What the parts of a call ask for -/

/-- A run that has to exist is missing only if it is not stored. -/
theorem yields_loadExisting {result : Except FlowError Run}
    (h : Yields who (loadExisting id) requests result) :
    requests = [.load id] ∧ (result = .error (.runNotFound id) ∨ ∃ run, result = .ok run) := by
  obtain ⟨first, second, loaded, hload, hrest, rfl⟩ := h.of_bind
  obtain ⟨rfl, world, hworld, hanswer⟩ := hload.of_request
  have hloaded : loaded = .ok (world.store.find? id) := by
    have heq : world.store.load id = loaded := Option.some.inj hanswer
    simp [← heq, Store.load, hworld.store]
  subst hloaded
  cases hrun : world.store.find? id with
  | none =>
      rw [hrun] at hrest
      obtain ⟨rfl, rfl⟩ := hrest.of_pure
      exact ⟨rfl, .inl rfl⟩
  | some run =>
      rw [hrun] at hrest
      obtain ⟨rfl, rfl⟩ := hrest.of_pure
      exact ⟨rfl, .inr ⟨run, rfl⟩⟩

theorem yields_loadForResume {result : Except ResumeError Run}
    (h : Yields who (loadForResume id) requests result) : requests = [.load id] := by
  obtain ⟨first, second, loaded, hload, hrest, rfl⟩ := h.of_bind
  obtain ⟨rfl, -⟩ := hload.of_request
  rcases loaded with e | _ | run <;>
    · obtain ⟨-, rfl⟩ := hrest.of_pure
      rfl

theorem yields_save {run : Run} {result : Except FlowError Unit}
    (h : Yields who (Operating.save run) requests result) :
    requests = [.save run] ∧ result = .ok () := by
  obtain ⟨rfl, world, hworld, hanswer⟩ := h.of_request
  have heq : (world.store.save run).1 = result := Option.some.inj hanswer
  refine ⟨rfl, ?_⟩
  simp [← heq, Store.save, hworld.store]

/-- Terminating a run never fails, and delivers nothing. -/
theorem yields_terminate {run : Run} {kind : FailureKind} {message : String}
    {result : Except FlowError Run}
    (h : Yields who (Engine.terminate bounds run kind message) requests result) :
    (∃ ended, result = .ok ended) ∧ ∀ q ∈ requests, q.isDelivery = false := by
  obtain ⟨cancels, afterCancel, ⟨⟩, hcancel, hafterCancel, rfl⟩ := h.of_bind
  obtain ⟨tells, afterTell, ⟨⟩, htell, hafterTell, rfl⟩ := hafterCancel.of_bind
  obtain ⟨saves, afterSave, saved, hsave, hafterSave, rfl⟩ := hafterTell.of_bind
  obtain ⟨rfl, rfl⟩ := yields_save hsave
  obtain ⟨rfl, rfl⟩ := hafterSave.of_pure
  obtain ⟨rfl, -⟩ := hcancel.of_request
  have htold : tells = [.call (.emit _)] := htell.of_request.1
  subst htold
  exact ⟨⟨_, rfl⟩, by simp [Request.isDelivery]⟩

theorem yields_persist {run : Run} {result : Except FlowError Unit}
    (h : Yields who (Engine.persist run) requests result) : result = .ok () := by
  obtain ⟨_, _, saved, hsave, hafterSave, -⟩ := h.of_bind
  obtain ⟨-, rfl⟩ := yields_save hsave
  dsimp only at hafterSave
  split at hafterSave
  · obtain ⟨_, _, ⟨⟩, -, hdone, -⟩ := hafterSave.of_bind
    exact hdone.of_pure.1
  · obtain ⟨_, _, ⟨⟩, -, hdone, -⟩ := hafterSave.of_bind
    exact hdone.of_pure.1

/-- Storing what a run has come to never fails. -/
theorem yields_driveAndStore {graph : Graph} {run : Run} {payload : Option Payload}
    {result : Except FlowError Run}
    (h : Yields who (driveAndStore bounds graph run payload) requests result) :
    ∃ driven, result = .ok driven := by
  obtain ⟨_, _, driven, -, hafterDrive, -⟩ := h.of_bind
  obtain ⟨_, _, kept, hpersist, hafterPersist, -⟩ := hafterDrive.of_bind
  obtain rfl := yields_persist hpersist
  exact ⟨driven, hafterPersist.of_pure.1⟩

/-- A flow is loaded with one request. -/
theorem yields_loadFlow {flow : FlowId} {result : Except FlowError Graph}
    (h : Yields who (loadFlow flow) requests result) : requests = [.call (.flow flow)] :=
  (@Yields.of_request who requests (.call (.flow flow)) result h).1

/-! ## Whole calls -/

/-- A start that fails has asked for the flow only. -/
theorem yields_start_error {request : RunRequest} {e : FlowError}
    (h : Yields who (start bounds request) requests (.error e)) :
    requests = [.call (.flow request.flow)] := by
  obtain ⟨_, _, loaded, hload, hloaded, rfl⟩ := h.of_bind
  obtain rfl := yields_loadFlow hload
  cases loaded with
  | error e =>
      obtain ⟨-, rfl⟩ := hloaded.of_pure
      rfl
  | ok graph =>
      dsimp only at hloaded
      cases hplace : startNode graph request with
      | error e =>
          rw [hplace] at hloaded
          obtain ⟨-, rfl⟩ := hloaded.of_pure
          rfl
      | ok node =>
          rw [hplace] at hloaded
          obtain ⟨_, _, id, -, hheld, rfl⟩ := hloaded.of_bind
          obtain ⟨inner, hdrive, -⟩ := hheld.of_holding
          obtain ⟨run, hrun⟩ := yields_driveAndStore hdrive
          simp at hrun

/-- Work that fails on a run for an event has asked for nothing but the run and its flow, unless
the wait had expired. -/
theorem yields_resumeHeld_error {event : Wakeup} {e : ResumeError}
    (h : Yields who (resumeHeld bounds id event) requests (.error e)) :
    (∀ q ∈ requests, q.isInquiry = true) ∨
      (e = .stale id expiredMessage ∧ ∀ q ∈ requests, q.isDelivery = false) := by
  obtain ⟨_, _, loaded, hload, hloaded, rfl⟩ := h.of_bind
  obtain rfl := yields_loadForResume hload
  cases loaded with
  | error e =>
      obtain ⟨-, rfl⟩ := hloaded.of_pure
      exact .inl (by simp [Request.isInquiry])
  | ok run =>
      dsimp only at hloaded
      cases hchecked : checkResumable run event with
      | error e =>
          rw [hchecked] at hloaded
          obtain ⟨-, rfl⟩ := hloaded.of_pure
          exact .inl (by simp [Request.isInquiry])
      | ok suspension =>
          rw [hchecked] at hloaded
          dsimp only at hloaded
          split at hloaded
          · obtain ⟨_, _, ended, hended, hdone, rfl⟩ := hloaded.of_bind
            obtain ⟨⟨ended, rfl⟩, hquiet⟩ := yields_terminate hended
            obtain ⟨hresult, rfl⟩ := hdone.of_pure
            refine .inr ⟨Except.error.inj hresult, ?_⟩
            simpa [Request.isDelivery] using hquiet
          · obtain ⟨_, _, flow, hflow, hgiven, rfl⟩ := hloaded.of_bind
            obtain rfl := yields_loadFlow hflow
            cases flow with
            | error e =>
                obtain ⟨-, rfl⟩ := hgiven.of_pure
                exact .inl (by simp [Request.isInquiry])
            | ok graph =>
                obtain ⟨_, _, ⟨⟩, -, hdriven, -⟩ := hgiven.of_bind
                obtain ⟨_, _, driven, hdrive, hdone, -⟩ := hdriven.of_bind
                obtain ⟨run', rfl⟩ := yields_driveAndStore hdrive
                have hresult : Except.error e = Except.ok run' := hdone.of_pure.1
                cases hresult

theorem yields_resume_error {event : Wakeup} {e : ResumeError}
    (h : Yields who (resume bounds id event) requests (.error e)) :
    (∀ q ∈ requests, q.isInquiry = true) ∨
      (e = .stale id expiredMessage ∧ ∀ q ∈ requests, q.isDelivery = false) := by
  obtain ⟨_, _, loaded, hload, hloaded, rfl⟩ := h.of_bind
  obtain rfl := yields_loadForResume hload
  cases loaded with
  | error e =>
      obtain ⟨-, rfl⟩ := hloaded.of_pure
      exact .inl (by simp [Request.isInquiry])
  | ok run =>
      obtain ⟨-, rfl⟩ | ⟨inner, hinner, rfl⟩ := hloaded.of_holdingIfFree
      · exact .inl (by simp [Request.isInquiry])
      · refine (yields_resumeHeld_error hinner).imp ?_ (And.imp_right ?_) <;>
          · intro hquiet q hq
            simp only [List.cons_append, List.nil_append, List.mem_cons, List.mem_append,
              List.not_mem_nil, or_false] at hq
            rcases hq with rfl | rfl | hq | rfl <;> first | rfl | exact hquiet _ hq

/-- What a stored run is loaded for under its permit fails only if the run is missing, if the work
that follows never fails. -/
theorem yields_existing_error {α : Type} {work : Run → Operating (Except FlowError α)}
    {e : FlowError}
    (hwork : ∀ {run requests result}, Yields who (work run) requests result →
      ∃ value, result = .ok value)
    (h : Yields who (do
      match ← loadExisting id with
      | .error e => return .error e
      | .ok run => work run) requests (.error e)) :
    e = .runNotFound id ∧ requests = [.load id] := by
  obtain ⟨_, _, loaded, hload, hloaded, rfl⟩ := h.of_bind
  obtain ⟨rfl, rfl | ⟨run, rfl⟩⟩ := yields_loadExisting hload
  · obtain ⟨hresult, rfl⟩ := hloaded.of_pure
    exact ⟨Except.error.inj hresult, rfl⟩
  · obtain ⟨value, hvalue⟩ := hwork hloaded
    simp at hvalue

theorem yields_cancelHeld_error {e : FlowError}
    (h : Yields who (cancelHeld bounds id) requests (.error e)) :
    e = .runNotFound id ∧ requests = [.load id] := by
  refine yields_existing_error (fun {run requests result} hwork => ?_) h
  split at hwork
  · exact ⟨run, hwork.of_pure.1⟩
  · exact (yields_terminate hwork).1

theorem yields_expireHeld_error {token : Option Identifier} {time : Instant} {e : FlowError}
    (h : Yields who (expireHeld bounds id token time) requests (.error e)) :
    e = .runNotFound id ∧ requests = [.load id] := by
  refine yields_existing_error (fun {run requests result} hwork => ?_) h
  split at hwork
  · obtain ⟨_, _, ended, hended, hdone, -⟩ := hwork.of_bind
    obtain ⟨⟨ended, rfl⟩, -⟩ := yields_terminate hended
    exact ⟨some ended, hdone.of_pure.1⟩
  · exact ⟨none, hwork.of_pure.1⟩

/-- A call that works on a run under its permit fails only if the run is missing. -/
theorem yields_gated_error {α : Type} {work : Operating (Except FlowError α)} {e : FlowError}
    (hwork : ∀ {requests}, Yields who work requests (.error e) →
      e = .runNotFound id ∧ requests = [.load id])
    (h : Yields who (do
      match ← loadExisting id with
      | .error e => return .error e
      | .ok run => holding run.key work) requests (.error e)) :
    e = .runNotFound id ∧ ∀ q ∈ requests, q.isInquiry = true := by
  obtain ⟨_, _, loaded, hload, hloaded, rfl⟩ := h.of_bind
  obtain ⟨rfl, rfl | ⟨run, rfl⟩⟩ := yields_loadExisting hload
  · obtain ⟨hresult, rfl⟩ := hloaded.of_pure
    exact ⟨Except.error.inj hresult, by simp [Request.isInquiry]⟩
  · obtain ⟨inner, hinner, rfl⟩ := hloaded.of_holding
    obtain ⟨rfl, rfl⟩ := hwork hinner
    exact ⟨rfl, by simp [Request.isInquiry]⟩

/-- Timing a run out delivers nothing. -/
theorem yields_expireAt {token : Option Identifier} {time : Instant}
    {result : Except FlowError (Option Run)}
    (h : Yields who (expireAt bounds id token time) requests result) :
    ∀ q ∈ requests, q.isDelivery = false := by
  obtain ⟨_, _, loaded, hload, hloaded, rfl⟩ := h.of_bind
  obtain ⟨rfl, rfl | ⟨run, rfl⟩⟩ := yields_loadExisting hload
  · obtain ⟨-, rfl⟩ := hloaded.of_pure
    simp [Request.isDelivery]
  · obtain ⟨_, hinner, rfl⟩ := hloaded.of_holding
    obtain ⟨_, _, loaded, hload, hloaded, rfl⟩ := hinner.of_bind
    obtain ⟨rfl, rfl | ⟨run, rfl⟩⟩ := yields_loadExisting hload
    · obtain ⟨-, rfl⟩ := hloaded.of_pure
      simp [Request.isDelivery]
    · dsimp only at hloaded
      split at hloaded
      · obtain ⟨_, _, ended, hended, hdone, rfl⟩ := hloaded.of_bind
        obtain ⟨-, rfl⟩ := hdone.of_pure
        have hquiet := (yields_terminate hended).2
        simp only [List.cons_append, List.nil_append, List.append_nil, List.mem_cons,
          List.mem_append, List.not_mem_nil, or_false]
        rintro q (rfl | rfl | rfl | hq | rfl) <;> first | rfl | exact hquiet _ hq
      · obtain ⟨-, rfl⟩ := hloaded.of_pure
        simp [Request.isDelivery]

theorem yields_expireEach {time : Instant} {runs : List Run}
    {result : Except FlowError (List Identifier)}
    (h : Yields who (expireEach bounds time runs) requests result) :
    (∀ e, result = .error e → ∃ id, e = .runNotFound id) ∧
      ∀ q ∈ requests, q.isDelivery = false := by
  induction runs generalizing requests result with
  | nil =>
      obtain ⟨rfl, rfl⟩ := h.of_pure
      simp
  | cons run rest ih =>
      unfold expireEach at h
      split at h
      · obtain ⟨_, _, expired, hexpire, hexpired, rfl⟩ := h.of_bind
        have hquiet := yields_expireAt hexpire
        cases expired with
        | error e =>
            obtain ⟨rfl, rfl⟩ := hexpired.of_pure
            obtain ⟨rfl, -⟩ := yields_gated_error yields_expireHeld_error hexpire
            refine ⟨fun e he => ⟨run.id, (Except.error.inj he).symm⟩, ?_⟩
            simpa using hquiet
        | ok expired =>
            obtain ⟨_, _, ids, hrest, hdone, rfl⟩ := hexpired.of_bind
            obtain ⟨rfl, rfl⟩ := hdone.of_pure
            obtain ⟨herror, hquiet'⟩ := ih hrest
            refine ⟨fun e he => ?_, ?_⟩
            · cases ids with
              | error e' => exact herror e (by simpa [Except.map] using he)
              | ok ids => simp [Except.map] at he
            · simp only [List.append_nil, List.mem_append]
              rintro q (hq | hq)
              · exact hquiet q hq
              · exact hquiet' q hq
      · exact ih h

/-- Listing never fails. -/
theorem yields_list {status : Option Status} {result : Except FlowError (List Run)}
    (h : Yields who (Operating.list status) requests result) :
    requests = [.list status] ∧ ∃ runs, result = .ok runs := by
  obtain ⟨rfl, world, hworld, hanswer⟩ := h.of_request
  have heq : world.store.list status = result := Option.some.inj hanswer
  exact ⟨rfl, world.store.all status, by rw [← heq]; simp [Store.list, hworld.store]⟩

theorem yields_expireDue {time : Instant} {result : Except FlowError (List Identifier)}
    (h : Yields who (expireDue bounds time) requests result) :
    (∀ e, result = .error e → ∃ id, e = .runNotFound id) ∧
      ∀ q ∈ requests, q.isDelivery = false := by
  obtain ⟨_, _, listed, hlist, heach, rfl⟩ := h.of_bind
  obtain ⟨rfl, runs, rfl⟩ := yields_list hlist
  obtain ⟨herror, hquiet⟩ := yields_expireEach heach
  exact ⟨herror, by simpa [Request.isDelivery] using hquiet⟩

theorem yields_recover {result : Except FlowError Nat}
    (h : Yields who recover requests result) : ∃ count, result = .ok count := by
  obtain ⟨_, _, listed, hlist, heach, -⟩ := h.of_bind
  obtain ⟨-, runs, rfl⟩ := yields_list hlist
  obtain ⟨_, _, count, -, hdone, -⟩ := heach.of_bind
  exact ⟨count, hdone.of_pure.1⟩

/-- What a failing call has asked for, whatever others do between its requests. -/
structure FailsAmongOthers (who : Ticket) (bounds : Bounds) : Prop where
  start : ∀ {request requests e}, Yields who (start bounds request) requests (.error e) →
    ∀ q ∈ requests, q.isInquiry = true
  /-- An event that comes too late is the exception, and even that delivers nothing. -/
  resume : ∀ {id event requests e}, Yields who (resume bounds id event) requests (.error e) →
    (∀ q ∈ requests, q.isInquiry = true) ∨
      (e = .stale id expiredMessage ∧ ∀ q ∈ requests, q.isDelivery = false)
  cancel : ∀ {id requests e}, Yields who (cancel bounds id) requests (.error e) →
    e = .runNotFound id ∧ ∀ q ∈ requests, q.isInquiry = true
  expireAt : ∀ {id token time requests e},
    Yields who (expireAt bounds id token time) requests (.error e) →
      e = .runNotFound id ∧ ∀ q ∈ requests, q.isInquiry = true
  expireDue : ∀ {time requests e}, Yields who (expireDue bounds time) requests (.error e) →
    (∃ id, e = .runNotFound id) ∧ ∀ q ∈ requests, q.isDelivery = false
  recover : ∀ {requests e}, ¬Yields who recover requests (.error e)

theorem failsAmongOthers (who : Ticket) (bounds : Bounds) : FailsAmongOthers who bounds where
  start := fun h => by simp [yields_start_error h, Request.isInquiry]
  resume := yields_resume_error
  cancel := yields_gated_error yields_cancelHeld_error
  expireAt := yields_gated_error yields_expireHeld_error
  expireDue := fun h => ⟨(yields_expireDue h).1 _ rfl, (yields_expireDue h).2⟩
  recover := fun h => by
    obtain ⟨count, hcount⟩ := yields_recover h
    simp at hcount

end Engine

end Dialogue
