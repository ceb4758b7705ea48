import TrainingScheduler.Scheduler.Generations

/-!
# Stops by the owner

A runtime that its owner stops is stopping until its reservation is released, and then stopped, as
long as nothing records a failure for it.  Its lease is no longer renewed, but its deadlines and the
answers of the management service are still looked at, so a slow cleanup can become a failure.
-/

namespace TrainingScheduler

/-- The runtime is stopping without a failure, and stops once cleaned up and revoked. -/
structure Tenure.Halting (tenure : Tenure) : Prop where
  desired : tenure.runtime.desiredState = .stopped
  unfailed : tenure.runtime.failureCode = none
  state : tenure.runtime.state = .stopping ∨ tenure.runtime.state = .stopped
  finished : (∀ assignment ∈ tenure.held, assignment.cleanupAck = true) →
    tenure.runtime.managementRevoked = true → tenure.runtime.state = .stopped

/-- Neither the startup nor the lifetime deadline of a runtime has passed. -/
def Runtime.InTime (now : Time) (runtime : Runtime) : Prop :=
  (∀ deadline ∈ runtime.startupDeadline, now < deadline) ∧
    ∀ deadline ∈ runtime.lifetimeDeadline, now < deadline

/-- The runtime has not ended and holds such an assignment. -/
def Tenure.Holds (tenure : Tenure) (p : Grant → Prop) : Prop :=
  tenure.runtime.state.ended = false ∧ ∃ assignment ∈ tenure.held, p assignment.toGrant

/-- Nothing about the step makes a failure of a stopping runtime: a heartbeat of its Worker comes
before its deadlines, an event or a cleanup reports no failure, its Worker does not restart, a pass
locks it before the lease it has read and before the startup deadline, and no pass over it handles
a refusal. -/
def Tenure.Undisturbed (tenure : Tenure) (control : Control) (now : Time) : Act → Prop
  | .operate (.heartbeat _ workerId _) =>
    tenure.Holds (fun grant => grant.workerId = workerId) → tenure.runtime.InTime now
  | .operate (.event _ body) =>
    tenure.Holds (fun grant => grant.id = body.assignmentId) → body.failureCode = none
  | .operate (.cleanup _ body) =>
    tenure.Holds (fun grant => grant.id = body.assignmentId) → body.failureCode = none
  | .operate (.register workerId body) =>
    tenure.Holds (fun grant => grant.workerId = workerId) →
      (control.db.workers.lookup workerId).bind Worker.instanceId = some body.instanceId
  | .lock flight _ =>
    match control.flights flight with
    | some (.selected runtimeId assignment) =>
      runtimeId = tenure.runtime.id → now < assignment.leaseUntil ∧
        ∀ deadline ∈ tenure.runtime.startupDeadline, now < deadline
    | _ => True
  | .reject flight =>
    match control.flights flight with
    | some (.reconciling pass .rejecting) => pass.runtimeId ≠ tenure.runtime.id
    | _ => True
  | _ => True

variable {assignment : Assignment}

section

variable {now : Time} {runtime : Runtime}

theorem requestStop_of_stopping (desired : runtime.desiredState = .stopped)
    (state : runtime.state = .stopping ∨ runtime.state = .stopped) :
    stopRuntime none none runtime = runtime := by
  have kept : (if runtime.state = .stopped ∨ runtime.state = .failed then runtime.state
      else RuntimeState.stopping) = runtime.state := by
    rcases state with stopping | stopped
    · simp [stopping]
    · simp [stopped]
  simp only [stopRuntime, requestStop, kept, ← desired]

/-- A heartbeat leaves a stopping runtime as it is until one of its deadlines passes. -/
theorem heartbeatRuntime_of_stopping (desired : runtime.desiredState = .stopped)
    (inTime : runtime.InTime now) (fresh : Bool) (body : Heartbeat) (assignment : Assignment) :
    heartbeatRuntime now fresh body assignment runtime = runtime := by
  have startup : enforceStartup now runtime = runtime := by
    unfold enforceStartup
    split
    · rfl
    · rename_i deadline set
      rw [if_neg]
      exact fun late => not_lt.mpr late.2 (inTime.1 deadline set)
  have lifetime : enforceLifetime now runtime = runtime := by
    unfold enforceLifetime
    split
    · rfl
    · rename_i deadline set
      rw [if_neg]
      exact fun late => not_lt.mpr late (inTime.2 deadline set)
  have reviewed (valid : Bool) (report : Option Active) :
      reviewRuntime now valid report runtime = (runtime, false) := by
    unfold reviewRuntime
    rw [startup, lifetime]
    simp [desired]
  simp [heartbeatRuntime, reviewed, loseRuntime, desired]

/-- A pass leaves a stopping runtime until its lease or the startup deadline passes. -/
theorem lockedRuntime_of_stopping {leaseUntil : Time} {token : UUID}
    (state : runtime.state = .stopping ∨ runtime.state = .stopped) (lease : now < leaseUntil)
    (startup : ∀ deadline ∈ runtime.startupDeadline, now < deadline) :
    lockedRuntime token now leaseUntil runtime = lockController token now runtime := by
  have kept : runtime.state ≠ .lost := by
    rcases state with stopping | stopped <;> simp [*]
  have unserved : runtime.state ≠ .ready := by
    rcases state with stopping | stopped <;> simp [*]
  have early : ¬(runtime.state = .lost ∨ leaseUntil ≤ now ∨ runtime.state ≠ .ready ∧
      runtime.startupDeadline.any fun deadline => deadline ≤ now) := by
    rintro (lost | late | ⟨-, late⟩)
    · exact kept lost
    · exact not_lt.mpr late lease
    · obtain ⟨deadline, set, passed⟩ := (Option.any_eq_true _ _).mp late
      exact not_lt.mpr (of_decide_eq_true passed) (startup deadline set)
  unfold lockedRuntime reconcileReview
  rw [if_neg early, if_neg fun ready => unserved ready.1]

theorem eventTransition_of_stopping {body : Event} {moved : Runtime} {next : AssignmentState}
    (desired : runtime.desiredState = .stopped)
    (state : runtime.state = .stopping ∨ runtime.state = .stopped)
    (unfailed : body.failureCode = none)
    (moves : eventTransition now body runtime assignment = .ok (moved, next)) :
    moved = runtime := by
  unfold eventTransition at moves
  rw [unfailed] at moves
  split_ifs at moves with stopping running illegal
  · cases moves
    exact requestStop_of_stopping desired state
  · rw [desired] at running
    cases running
  · cases moves
    rfl

end

/-- The runtime is still stopping without a failure, with the same deadlines and assignments. -/
structure Steady (before after : Tenure) : Prop where
  halting : after.Halting
  id_eq : after.runtime.id = before.runtime.id
  startup : after.runtime.startupDeadline = before.runtime.startupDeadline
  lifetime : after.runtime.lifetimeDeadline = before.runtime.lifetimeDeadline
  grants : after.held.map Assignment.toGrant = before.held.map Assignment.toGrant

variable {f : Assignment → Assignment} {after : Tenure} {now : Time}

namespace Steady

theorem trans {before middle : Tenure} (first : Steady before middle)
    (second : Steady middle after) :
    Steady before after where
  halting := second.halting
  id_eq := second.id_eq.trans first.id_eq
  startup := second.startup.trans first.startup
  lifetime := second.lifetime.trans first.lifetime
  grants := second.grants.trans first.grants

/-- What a step asks of a stopping runtime: its deadlines, its assignments and its end. -/
theorem undisturbed {before : Tenure} {control : Control} {act : Act} (steady : Steady before after)
    (advances : Advances before after) (undisturbed : before.Undisturbed control now act) :
    after.Undisturbed control now act := by
  have holds {p : Grant → Prop} (held : after.Holds p) : before.Holds p := by
    obtain ⟨alive, assignment, member, property⟩ := held
    have old : assignment.toGrant ∈ before.held.map Assignment.toGrant := by
      rw [← steady.grants]
      exact List.mem_map_of_mem member
    obtain ⟨row, row_mem, same⟩ := List.mem_map.mp old
    refine ⟨?_, row, row_mem, same ▸ property⟩
    cases past : before.runtime.state.ended with
    | false => rfl
    | true =>
      have stays : after.runtime.state = before.runtime.state := advances.moves.ended past
      rw [stays, past] at alive
      cases alive
  unfold Tenure.Undisturbed Runtime.InTime at *
  rw [steady.id_eq, steady.startup, steady.lifetime]
  split at undisturbed
  · exact fun held => undisturbed (holds held)
  · exact fun held => undisturbed (holds held)
  · exact fun held => undisturbed (holds held)
  · exact fun held => undisturbed (holds held)
  · exact undisturbed
  · exact undisturbed
  · exact trivial

variable {runtime next : Runtime} {held : List Assignment}

theorem of_columns (halting : Tenure.Halting ⟨runtime, held⟩)
    (id_eq : next.id = runtime.id) (desired : next.desiredState = runtime.desiredState)
    (failure : next.failureCode = runtime.failureCode) (state : next.state = runtime.state)
    (revoked : next.managementRevoked = runtime.managementRevoked)
    (startup : next.startupDeadline = runtime.startupDeadline)
    (lifetime : next.lifetimeDeadline = runtime.lifetimeDeadline) :
    Steady ⟨runtime, held⟩ ⟨next, held⟩ where
  halting :=
    { desired := desired.trans halting.desired
      unfailed := failure.trans halting.unfailed
      state := by
        show next.state = .stopping ∨ next.state = .stopped
        rw [state]
        exact halting.state
      finished := fun acked done =>
        state.trans (halting.finished acked (revoked.symm.trans done)) }
  id_eq := id_eq
  startup := startup
  lifetime := lifetime
  grants := rfl

theorem grants_update {assignmentId : UUID} (keeps : ∀ row, (f row).toGrant = row.toGrant) :
    (updateHeld assignmentId f held).map Assignment.toGrant = held.map Assignment.toGrant := by
  simp only [updateHeld, Table.rewriteAt, List.map_map]
  refine List.map_congr_left ?_
  intro row _
  simp only [Function.comp_apply]
  split_ifs
  · exact keeps row
  · rfl

theorem of_update (halting : Tenure.Halting ⟨runtime, held⟩) (assignmentId : UUID)
    (keeps : ∀ row, (f row).toGrant = row.toGrant)
    (ack : ∀ row, (f row).cleanupAck = row.cleanupAck) :
    Steady ⟨runtime, held⟩ ⟨runtime, updateHeld assignmentId f held⟩ where
  halting :=
    { desired := halting.desired
      unfailed := halting.unfailed
      state := halting.state
      finished := fun acked => halting.finished fun row member => by
        by_cases selected : row.id = assignmentId
        · rw [← ack row]
          exact acked (f row) (Table.mem_rewriteAt.mpr (.inr ⟨row, member, selected, rfl⟩))
        · exact acked row (Table.mem_rewriteAt.mpr (.inl ⟨member, selected⟩)) }
  id_eq := rfl
  startup := rfl
  lifetime := rfl
  grants := grants_update keeps

theorem finish (halting : Tenure.Halting ⟨runtime, held⟩) (now : Time) (assignmentId : UUID)
    (keeps : ∀ row, (f row).toGrant = row.toGrant) :
    Steady ⟨runtime, held⟩ ⟨finishRuntime now runtime, updateHeld assignmentId f held⟩ := by
  have stopped : (finishRuntime now runtime).state = .stopped := by
    simp [finishRuntime, show runtime.failureCode = none from halting.unfailed]
  exact
    { halting :=
        { desired := halting.desired
          unfailed := halting.unfailed
          state := .inr stopped
          finished := fun _ _ => stopped }
      id_eq := rfl
      startup := rfl
      lifetime := rfl
      grants := grants_update keeps }

end Steady

section

variable {digest : Digest} {now : Time} {control : Control} {act : Act} {runtime : Runtime}
  {held : List Assignment} {before : Tenure}

/-- A second stop of the owner ends a runtime that was never assigned. -/
theorem ownerStop_steady (halting : Tenure.Halting ⟨runtime, held⟩) :
    Steady ⟨runtime, held⟩ ⟨ownerStop now runtime, held⟩ := by
  have again := requestStop_of_stopping halting.desired halting.state
  unfold ownerStop
  rw [again]
  split_ifs
  · exact
      { halting :=
          { desired := halting.desired
            unfailed := halting.unfailed
            state := .inr rfl
            finished := fun _ _ => rfl }
        id_eq := rfl
        startup := rfl
        lifetime := rfl
        grants := rfl }
  · exact .of_columns halting rfl rfl rfl rfl rfl rfl rfl

/-- A pass that records a revocation without releasing the assignment finds it released, or not
acknowledged, or has not revoked. -/
theorem recordRevocation_steady {outcome : Outcome} (halting : Tenure.Halting ⟨runtime, held⟩)
    (bound : Bound runtime.life held) (member : assignment ∈ held)
    (kept : ¬assignment.Unreleased ∨ assignment.cleanupAck = false ∨ outcome.revoked = false) :
    Steady ⟨runtime, held⟩ ⟨recordRevocation outcome runtime, held⟩ := by
  refine ⟨⟨halting.desired, halting.unfailed, halting.state, ?_⟩, rfl, rfl, rfl, rfl⟩
  intro acked done
  rcases kept with freed | unacked | unrevoked
  · have past : runtime.state.ended = true := (bound.fits member).freed.mpr freed
    rcases halting.state with stopping | stopped
    · rw [show runtime.state = .stopping from stopping] at past
      cases past
    · exact stopped
  · cases unacked.symm.trans (acked assignment member)
  · cases unrevoked.symm.trans done

/-- Every change of an undisturbed step leaves a stopping runtime stopping without a failure. -/
theorem Alters.steady (alters : Alters digest now control runtime held act after)
    (bound : Bound runtime.life held) (halting : Tenure.Halting ⟨runtime, held⟩)
    (undisturbed : Tenure.Undisturbed ⟨runtime, held⟩ control now act) :
    Steady ⟨runtime, held⟩ after := by
  cases alters with
  | granted queued running target claimed unreleased unacknowledged =>
    cases running.symm.trans halting.desired
  | beaten fresh member worker unreleased =>
    have inTime := undisturbed ⟨bound.not_ended member unreleased, _, member, worker⟩
    rw [heartbeatRuntime_of_stopping halting.desired inTime]
    exact .of_update halting _ (fun _ => by unfold concludeHeartbeat; split_ifs <;> rfl)
      fun row => (concludeHeartbeat_kept _ _ row).2
  | reported member named unreleased alive moves =>
    have unfailed := undisturbed ⟨bound.not_ended member unreleased, _, member, named⟩
    obtain rfl := eventTransition_of_stopping halting.desired halting.state unfailed moves
    exact .of_update halting _ (fun _ => rfl) fun _ => rfl
  | interrupted member worker unreleased restarted =>
    exact absurd (undisturbed ⟨bound.not_ended member unreleased, _, member, worker⟩) restarted
  | acknowledged member named unreleased unrevoked =>
    have unfailed := undisturbed ⟨bound.not_ended member unreleased, _, member, named⟩
    rw [unfailed, requestStop_of_stopping halting.desired halting.state]
    refine ⟨⟨halting.desired, halting.unfailed, halting.state, ?_⟩, rfl, rfl, rfl, ?_⟩
    · exact fun _ done => by cases unrevoked.symm.trans done
    · exact Steady.grants_update fun _ => rfl
  | cleaned member named unreleased revoked =>
    have unfailed := undisturbed ⟨bound.not_ended member unreleased, _, member, named⟩
    rw [unfailed, requestStop_of_stopping halting.desired halting.state]
    exact .finish halting now _ fun _ => rfl
  | expired member unreleased late =>
    rw [leaseLost, halting.desired]
    exact .of_update halting _ (fun _ => rfl) fun _ => rfl
  | stopped => exact ownerStop_steady halting
  | locked selected =>
    simp only [Tenure.Undisturbed, selected] at undisturbed
    obtain ⟨lease, startup⟩ := undisturbed trivial
    rw [lockedRuntime_of_stopping halting.state lease startup]
    exact .of_columns halting rfl rfl rfl rfl rfl rfl rfl
  | reserved running starting => cases running.symm.trans halting.desired
  | enrolled recording mine =>
    unfold releaseController
    split_ifs <;> exact .of_columns halting rfl rfl rfl rfl rfl rfl rfl
  | revoked concluding mine desired member named kept =>
    exact recordRevocation_steady halting bound member kept
  | @released _ _ outcome =>
    have stopped : (finishRuntime now (recordRevocation outcome runtime)).state = .stopped := by
      simp [finishRuntime, recordRevocation,
        show runtime.failureCode = none from halting.unfailed]
    exact ⟨⟨halting.desired, halting.unfailed, .inr stopped, fun _ _ => stopped⟩, rfl, rfl, rfl,
      Steady.grants_update fun _ => rfl⟩
  | served concluding mine member servable =>
    simp only [Pass.servable, Bool.and_eq_true, beq_iff_eq] at servable
    cases servable.1.1.1.1.1.symm.trans halting.desired
  | rejected rejecting mine =>
    simp only [Tenure.Undisturbed, rejecting] at undisturbed
    exact absurd mine undisturbed
  | backedOff =>
    unfold Pass.backOff
    split_ifs <;> exact .of_columns halting rfl rfl rfl rfl rfl rfl rfl
  | dropped =>
    unfold releaseController
    split_ifs <;> exact .of_columns halting rfl rfl rfl rfl rfl rfl rfl

theorem Altered.steady (altered : Altered digest now control act before after)
    (bound : Bound before.runtime.life before.held) (halting : before.Halting)
    (undisturbed : before.Undisturbed control now act) : Steady before after := by
  induction altered with
  | refl => exact .of_columns halting rfl rfl rfl rfl rfl rfl rfl
  | tail altered alters induction =>
    have advances := Altered.advances altered bound
    exact induction.trans (alters.steady advances.bound induction.halting
      (induction.undisturbed advances undisturbed))

end

namespace Control

variable {digest : Digest} {control : Control}

/-- Nothing about the step makes a failure of the runtime. -/
def Undisturbed (control : Control) (runtimeId : UUID) (now : Time) (act : Act) : Prop :=
  ∀ runtime ∈ control.db.runtimes.rows, runtime.id = runtimeId →
    (control.db.tenure runtime).Undisturbed control now act

/-- Nothing about the steps of a run makes a failure of the runtime. -/
def UndisturbedRun (digest : Digest) (runtimeId : UUID) : Control → List (Time × Act) → Prop
  | _, [] => True
  | control, (now, act) :: rest => control.Undisturbed runtimeId now act ∧
      UndisturbedRun digest runtimeId (control.perform digest now act) rest

/-- The runtime is stored and stopping without a failure. -/
def Halting (control : Control) (runtimeId : UUID) : Prop :=
  ∃ runtime ∈ control.db.runtimes.rows, runtime.id = runtimeId ∧
    (control.db.tenure runtime).Halting

variable {runtimeId : UUID}

theorem Sound.halting_perform (sound : control.Sound) (halting : control.Halting runtimeId)
    {act : Act} (undisturbed : control.Undisturbed runtimeId now act) :
    (control.perform digest now act).Halting runtimeId := by
  obtain ⟨runtime, member, named, halting⟩ := halting
  obtain ⟨next, next_mem, same, altered⟩ := sound.altered act member
  have steady := Altered.steady altered (sound.db.bound runtime member) halting
    (undisturbed runtime member named)
  exact ⟨next, next_mem, same.trans named, steady.halting⟩

theorem Sound.halting_performAll {acts : List (Time × Act)} (sound : control.Sound)
    (halting : control.Halting runtimeId)
    (undisturbed : control.UndisturbedRun digest runtimeId acts) :
    (control.performAll digest acts).Halting runtimeId := by
  induction acts generalizing control with
  | nil => exact halting
  | cons act rest induction =>
    obtain ⟨first, others⟩ := undisturbed
    exact induction (sound.perform act.1 act.2).1 (sound.halting_perform halting first) others

/-- The owner's stop of a runtime that is to run and has not failed. -/
theorem Sound.halting_stop {owner : UUID} {runtime : Runtime} (sound : control.Sound)
    (stored : control.db.runtimes.lookup runtimeId = some runtime)
    (running : runtime.desiredState = .running) (unfailed : runtime.failureCode = none)
    (accepted : (stop now control.db owner runtimeId).isOk = true) :
    (control.perform digest now (.stop owner runtimeId)).Halting runtimeId := by
  have member := Table.mem_of_lookup stored
  have named : runtime.id = runtimeId := Table.key_of_lookup stored
  have bound := sound.db.bound runtime member
  have alive : runtime.state.ended = false := by
    have ranked : runtime.state = .lost ∨ (phaseRank runtime.state).isSome = true :=
      bound.running running
    revert ranked
    cases runtime.state <;> decide
  have unacked {assignment : Assignment} (held : assignment ∈ control.db.held runtime.id) :
      assignment.cleanupAck ≠ true := by
    intro acked
    cases running.symm.trans ((bound.fits held).acknowledged acked)
  obtain ⟨after, stopped⟩ : ∃ after, stop now control.db owner runtimeId = .ok after := by
    cases outcome : stop now control.db owner runtimeId with
    | error exception =>
      rw [outcome] at accepted
      cases accepted
    | ok after => exact ⟨after, rfl⟩
  have db : (control.perform digest now (.stop owner runtimeId)).db =
      control.db.modifyRuntime runtimeId (ownerStop now) (ownerStop_id now) := by
    simp only [Control.perform, stopped, commit]
    unfold TrainingScheduler.stop at stopped
    split at stopped
    · cases stopped
    · obtain ⟨-, -, rfl⟩ := map_eq_ok stopped
      rfl
  refine ⟨ownerStop now runtime, ?_, (ownerStop_id now runtime).trans named, ?_⟩
  · rw [db]
    exact Table.mem_rewriteAt.mpr (.inr ⟨runtime, member, named, rfl⟩)
  · have tenure : (control.perform digest now (.stop owner runtimeId)).db.tenure
        (ownerStop now runtime) = ⟨ownerStop now runtime, control.db.held runtime.id⟩ := by
      rw [Db.tenure, ownerStop_id, db]
      rfl
    rw [tenure]
    unfold ownerStop
    split_ifs with unassigned
    · exact ⟨rfl, unfailed, .inr rfl, fun _ _ => rfl⟩
    · have stopping : (stopRuntime none none runtime).state = .stopping := by
        have going : ¬(runtime.state = .stopped ∨ runtime.state = .failed) := by
          rintro (past | past) <;> rw [past] at alive <;> cases alive
        simp only [stopRuntime, requestStop, if_neg going]
      refine ⟨rfl, unfailed, .inl stopping, ?_⟩
      intro acked
      obtain ⟨id, assigned⟩ := Option.ne_none_iff_exists'.mp fun missing =>
        unassigned (Option.isNone_iff_eq_none.mpr missing)
      obtain ⟨-, assignment, sole, -⟩ := bound.assigned id assigned
      have held : assignment ∈ control.db.held runtime.id := by
        rw [sole]
        exact List.mem_singleton_self assignment
      exact absurd (acked assignment held) (unacked held)

end Control

open Control

/-- The owner stops a runtime that is to run and has not failed.  Along every later run in which
nothing makes a failure of it, it has no failure code, it is stopping or stopped, and it is stopped
as soon as its cleanup is acknowledged and its enrollment revoked. -/
theorem owner_stop_ends_stopped (digest : Digest) (workers : Table Worker.workerId)
    (jobs : Table Job.id) (acts later : List (Time × Act)) (now : Time) (owner runtimeId : UUID)
    (runtime : Runtime)
    (stored : ((initial workers jobs).performAll digest acts).db.runtimes.lookup runtimeId =
      some runtime)
    (running : runtime.desiredState = .running) (unfailed : runtime.failureCode = none)
    (accepted : (stop now ((initial workers jobs).performAll digest acts).db owner
      runtimeId).isOk = true)
    (undisturbed : (((initial workers jobs).performAll digest acts).perform digest now
      (.stop owner runtimeId)).UndisturbedRun digest runtimeId later) :
    let last := (((initial workers jobs).performAll digest acts).perform digest now
      (.stop owner runtimeId)).performAll digest later
    ∃ next, last.db.runtimes.lookup runtimeId = some next ∧ next.desiredState = .stopped ∧
      next.failureCode = none ∧ (next.state = .stopping ∨ next.state = .stopped) ∧
      ((∀ assignment ∈ last.db.assignments.rows, assignment.runtimeId = some runtimeId →
          assignment.cleanupAck = true) →
        next.managementRevoked = true → next.state = .stopped) := by
  intro last
  have sound : ((initial workers jobs).performAll digest acts).Sound :=
    ((initial_sound workers jobs).performAll acts).1
  have halting : (((initial workers jobs).performAll digest acts).perform digest now
      (.stop owner runtimeId)).Halting runtimeId :=
    sound.halting_stop stored running unfailed accepted
  obtain ⟨next, member, rfl, stopped⟩ :=
    (sound.perform now (.stop owner runtimeId)).1.halting_performAll halting undisturbed
  refine ⟨next, Table.lookup_of_mem member, stopped.desired, stopped.unfailed, stopped.state, ?_⟩
  intro acked
  exact stopped.finished fun assignment held =>
    acked assignment (mem_held.mp held).1 (mem_held.mp held).2

instance (now : Time) (runtime : Runtime) : Decidable (runtime.InTime now) :=
  inferInstanceAs (Decidable (_ ∧ _))

instance (tenure : Tenure) (p : Grant → Prop) [DecidablePred p] : Decidable (tenure.Holds p) :=
  inferInstanceAs (Decidable (_ ∧ _))

instance (tenure : Tenure) (control : Control) (now : Time) (act : Act) :
    Decidable (tenure.Undisturbed control now act) := by
  unfold Tenure.Undisturbed
  split
  · infer_instance
  · infer_instance
  · infer_instance
  · infer_instance
  · split <;> infer_instance
  · split <;> infer_instance
  · infer_instance

instance (control : Control) (runtimeId : UUID) (now : Time) (act : Act) :
    Decidable (control.Undisturbed runtimeId now act) := by
  unfold Control.Undisturbed
  infer_instance

instance decidableUndisturbedRun (digest : Digest) (runtimeId : UUID) (control : Control)
    (acts : List (Time × Act)) : Decidable (control.UndisturbedRun digest runtimeId acts) :=
  match acts with
  | [] => .isTrue trivial
  | (now, act) :: rest =>
    have := decidableUndisturbedRun digest runtimeId (control.perform digest now act) rest
    inferInstanceAs (Decidable (_ ∧ _))

namespace Deployment

def placed : Control :=
  (Control.initial db.workers db.jobs).performAll digest [(0, startRuntime), (0, placeRuntime)]

/-- A pass over the runtime, which was never enrolled, and then the Worker's cleanup. -/
def passAndCleanup (now : Time) : List (Time × Act) :=
  [(now, .select 0), (now, .lock 0 9), (now, .conclude 0), (now, .close 0),
    (now + 1, .operate (.cleanup 1 ⟨runtimeFence, none⟩))]

/-- The owner stops the runtime after ten seconds and the Worker cleans up without a failure; but
the pass at 50 finds the lease, which is no longer renewed, passed at 45, and the runtime fails. -/
theorem late_pass_fails_stop :
    (stop 10 placed.db 7 300).isOk = true ∧
      (placed.db.runtimes.lookup 300).map (fun runtime =>
          (runtime.desiredState, runtime.failureCode)) = some (.running, none) ∧
      (((placed.perform digest 10 (.stop 7 300)).performAll digest
          (passAndCleanup 50)).db.runtimes.lookup 300).map (fun runtime =>
          (runtime.state, runtime.failureCode)) = some (.failed, some .startFailed) := by
  decide +kernel

/-- A pass before the lease has passed leaves the stop as it is. -/
theorem timely_pass_keeps_stop :
    (((placed.perform digest 10 (.stop 7 300)).performAll digest
        (passAndCleanup 12)).db.runtimes.lookup 300).map Runtime.state = some .stopped ∧
      ∃ next, ((placed.perform digest 10 (.stop 7 300)).performAll digest
          (passAndCleanup 12)).db.runtimes.lookup 300 = some next ∧
        next.desiredState = .stopped ∧ next.failureCode = none ∧
        (next.state = .stopping ∨ next.state = .stopped) ∧
        ((∀ assignment ∈ ((placed.perform digest 10 (.stop 7 300)).performAll digest
              (passAndCleanup 12)).db.assignments.rows,
            assignment.runtimeId = some 300 → assignment.cleanupAck = true) →
          next.managementRevoked = true → next.state = .stopped) := by
  refine ⟨by decide +kernel, ?_⟩
  obtain ⟨runtime, stored⟩ : ∃ runtime, placed.db.runtimes.lookup 300 = some runtime :=
    Option.isSome_iff_exists.mp (by decide +kernel)
  have before : (placed.db.runtimes.lookup 300).map (fun runtime =>
      (runtime.desiredState, runtime.failureCode)) = some (.running, none) := by decide +kernel
  rw [stored, Option.map_some, Option.some.injEq, Prod.mk.injEq] at before
  exact owner_stop_ends_stopped digest db.workers db.jobs [(0, startRuntime), (0, placeRuntime)]
    (passAndCleanup 12) 10 7 300 runtime stored before.1 before.2 (by decide +kernel)
    (by decide +kernel)

end Deployment

end TrainingScheduler
