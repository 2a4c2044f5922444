import Dialogue.Proofs.Engine.Undisturbed

/-!
# Operations run to their end

No operation of the engine has to wait in an undisturbed world: each asks for
one permit at a time, and never for another one while it holds it.
-/

namespace Dialogue.Engine

open Operating

theorem lockless_loadFlow (flow : FlowId) : Lockless (loadFlow flow) := .within _

theorem lockless_scheduleFor (run : Identifier) (suspension : Suspension) :
    Lockless (scheduleFor run suspension) := by
  unfold scheduleFor
  cases suspension.resumeAt? <;> cases suspension.expiresAt
  · exact .pure ()
  · exact .request rfl
  · exact .bind (.request rfl) fun _ => .pure ()
  · exact .bind (.request rfl) fun _ => .request rfl

theorem lockless_persist (run : Run) : Lockless (persist run) := by
  refine .bind (.request rfl) fun saved => ?_
  cases saved with
  | error e => exact .pure _
  | ok _ =>
      dsimp only
      split
      · exact .bind (lockless_scheduleFor _ _) fun _ => .pure _
      · exact .bind (.request rfl) fun _ => .pure _

theorem lockless_driveAndStore (bounds : Bounds) (graph : Graph) (run : Run)
    (payload : Option Payload) : Lockless (driveAndStore bounds graph run payload) := by
  refine .bind (.within _) fun driven => .bind (lockless_persist driven) fun kept => ?_
  cases kept <;> exact .pure _

theorem lockless_terminate (bounds : Bounds) (run : Run) (kind : FailureKind)
    (message : String) : Lockless (terminate bounds run kind message) := by
  refine .bind (.request rfl) fun _ => .bind (.within _) fun _ =>
    .bind (.request rfl) fun saved => ?_
  cases saved <;> exact .pure _

theorem lockless_loadForResume (id : Identifier) : Lockless (loadForResume id) := by
  refine .bind (.request rfl) fun loaded => ?_
  rcases loaded with e | _ | run <;> exact .pure _

theorem lockless_loadExisting (id : Identifier) : Lockless (loadExisting id) := by
  refine .bind (.request rfl) fun loaded => ?_
  rcases loaded with e | _ | run <;> exact .pure _

theorem lockless_resumeHeld (bounds : Bounds) (id : Identifier) (event : Wakeup) :
    Lockless (resumeHeld bounds id event) := by
  refine .bind (lockless_loadForResume id) fun loaded => ?_
  cases loaded with
  | error e => exact .pure _
  | ok run =>
      dsimp only
      cases checkResumable run event with
      | error e => exact .pure _
      | ok suspension =>
          dsimp only
          split
          · refine .bind (lockless_terminate bounds run _ _) fun ended => ?_
            cases ended <;> exact .pure _
          · refine .bind (lockless_loadFlow run.flow) fun flow => ?_
            cases flow with
            | error e => exact .pure _
            | ok graph =>
                exact .bind (.request rfl) fun _ =>
                  .bind (lockless_driveAndStore _ _ _ _) fun _ => .pure _

theorem lockless_cancelHeld (bounds : Bounds) (id : Identifier) :
    Lockless (cancelHeld bounds id) := by
  refine .bind (lockless_loadExisting id) fun loaded => ?_
  cases loaded with
  | error e => exact .pure _
  | ok run =>
      dsimp only
      split
      · exact .pure _
      · exact lockless_terminate _ _ _ _

theorem lockless_expireHeld (bounds : Bounds) (id : Identifier) (token : Option Identifier)
    (time : Instant) : Lockless (expireHeld bounds id token time) := by
  refine .bind (lockless_loadExisting id) fun loaded => ?_
  cases loaded with
  | error e => exact .pure _
  | ok run =>
      dsimp only
      split
      · exact .bind (lockless_terminate _ _ _ _) fun _ => .pure _
      · exact .pure _

theorem lockless_recoverEach (runs : List Run) : Lockless (recoverEach runs) := by
  induction runs with
  | nil => exact .pure _
  | cons run rest ih =>
      unfold recoverEach
      cases run.suspension with
      | none => exact ih
      | some suspension =>
          exact .bind (lockless_scheduleFor _ _) fun _ => .bind ih fun _ => .pure _

/-! ## The operations themselves -/

theorem smooth_start (bounds : Bounds) (request : RunRequest) :
    Smooth (start bounds request) := by
  refine .bind (lockless_loadFlow request.flow).smooth fun loaded => ?_
  cases loaded with
  | error e => exact .pure _
  | ok graph =>
      dsimp only
      cases startNode graph request with
      | error e => exact .pure _
      | ok node =>
          exact .bind (Lockless.within _).smooth fun id =>
            .holding (lockless_driveAndStore _ _ _ _) _

theorem smooth_resume (bounds : Bounds) (id : Identifier) (event : Wakeup) :
    Smooth (resume bounds id event) := by
  refine .bind (lockless_loadForResume id).smooth fun loaded => ?_
  cases loaded with
  | error e => exact .pure _
  | ok run => exact .holdingIfFree (lockless_resumeHeld _ _ _) _ _

theorem smooth_resumeInTurn (bounds : Bounds) (id : Identifier) (event : Wakeup) :
    Smooth (resumeInTurn bounds id event) := by
  refine .bind (lockless_loadForResume id).smooth fun loaded => ?_
  cases loaded with
  | error e => exact .pure _
  | ok run => exact .holding (lockless_resumeHeld _ _ _) _

theorem smooth_cancel (bounds : Bounds) (id : Identifier) : Smooth (cancel bounds id) := by
  refine .bind (lockless_loadExisting id).smooth fun loaded => ?_
  cases loaded with
  | error e => exact .pure _
  | ok run => exact .holding (lockless_cancelHeld _ _) _

theorem smooth_expireAt (bounds : Bounds) (id : Identifier) (token : Option Identifier)
    (time : Instant) : Smooth (expireAt bounds id token time) := by
  refine .bind (lockless_loadExisting id).smooth fun loaded => ?_
  cases loaded with
  | error e => exact .pure _
  | ok run => exact .holding (lockless_expireHeld _ _ _ _) _

theorem smooth_expireEach (bounds : Bounds) (time : Instant) (runs : List Run) :
    Smooth (expireEach bounds time runs) := by
  induction runs with
  | nil => exact .pure _
  | cons run rest ih =>
      unfold expireEach
      split
      · refine .bind (smooth_expireAt _ _ _ _) fun expired => ?_
        cases expired with
        | error e => exact .pure _
        | ok _ => exact .bind ih fun _ => .pure _
      · exact ih

theorem smooth_expireDue (bounds : Bounds) (time : Instant) :
    Smooth (expireDue bounds time) := by
  refine .bind (Lockless.request rfl).smooth fun listed => ?_
  cases listed with
  | error e => exact .pure _
  | ok runs => exact smooth_expireEach _ _ _

theorem smooth_recover : Smooth recover := by
  refine .bind (Lockless.request rfl).smooth fun listed => ?_
  cases listed with
  | error e => exact .pure _
  | ok runs => exact .bind (lockless_recoverEach runs).smooth fun _ => .pure _

theorem smooth_handleFiring (bounds : Bounds) (firing : Firing) :
    Smooth (handleFiring bounds firing) := by
  unfold handleFiring
  cases firing.action with
  | resume => exact .bind (smooth_resumeInTurn _ _ _) fun _ => .pure _
  | expire => exact .bind (smooth_expireAt _ _ _ _) fun _ => .pure _

theorem smooth_invalidateFlow (flow : FlowId) : Smooth (invalidateFlow flow) :=
  (Lockless.request rfl).smooth

end Dialogue.Engine
