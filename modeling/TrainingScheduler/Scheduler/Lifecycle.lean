import TrainingScheduler.Scheduler.Tenures

/-!
# The lifecycle of a runtime

The columns of a runtime that make up its lifecycle, and how every row function of the Scheduler
moves them.  A stop is never withdrawn, an end is final and frees the Worker, and while a runtime is
to run its phase only moves forward.
-/

namespace TrainingScheduler

/-- The columns that make up the lifecycle of a runtime. -/
structure Life where
  workspaceId : UUID
  generation : Nat
  assignmentId : Option UUID
  desiredState : DesiredState
  state : RuntimeState
  deriving DecidableEq, Repr

def Runtime.life (runtime : Runtime) : Life where
  workspaceId := runtime.workspaceId
  generation := runtime.generation
  assignmentId := runtime.assignmentId
  desiredState := runtime.desiredState
  state := runtime.state

namespace Life

def enter (life : Life) (state : RuntimeState) : Life := { life with state }

def stop (life : Life) : Life :=
  { life with
    desiredState := .stopped
    state := if life.state.ended then life.state else .stopping }

def lose (life : Life) : Life :=
  if life.desiredState = .running then life.enter .lost else life

/-- The life of a runtime that either goes on or is to stop. -/
def Stays (before after : Life) : Prop := after = before ∨ after = before.stop

@[simp]
theorem stop_stop (life : Life) : life.stop.stop = life.stop := by
  unfold stop
  cases state : life.state <;> simp [RuntimeState.ended]

theorem Stays.trans {first second third : Life} (left : Stays first second)
    (right : Stays second third) : Stays first third := by
  rcases left with rfl | rfl
  · exact right
  · rcases right with rfl | rfl
    · exact .inr rfl
    · exact .inr (stop_stop first)

private theorem stop_ended (life : Life) : life.stop.state.ended = life.state.ended := by
  unfold stop
  dsimp only
  split_ifs with past
  · rfl
  · exact (Bool.eq_false_iff.mpr past).symm

private theorem lose_stop (life : Life) : life.stop.lose = life.stop := by simp [lose, stop]

end Life

section

variable {now : Time}

@[simp]
theorem stopRuntime_life (code : Option FailureCode) (detail : Option String) (runtime : Runtime) :
    (stopRuntime code detail runtime).life = runtime.life.stop := by
  have requested : (requestStop runtime).life = runtime.life.stop := by
    simp [requestStop, Runtime.life, Life.stop, RuntimeState.ended]
  unfold stopRuntime recordFailure
  split
  · exact requested
  · split_ifs <;> exact requested

private theorem enforceStartup_life (runtime : Runtime) :
    runtime.life.Stays (enforceStartup now runtime).life := by
  unfold enforceStartup
  split
  · exact .inl rfl
  · split_ifs
    · exact .inr (stopRuntime_life _ _ _)
    · exact .inl rfl

private theorem enforceLifetime_life (runtime : Runtime) :
    runtime.life.Stays (enforceLifetime now runtime).life := by
  unfold enforceLifetime
  split
  · exact .inl rfl
  · split_ifs
    · exact .inr (stopRuntime_life _ _ _)
    · exact .inl rfl

/-- A changed host key stops a runtime. -/
theorem applySsh_life (ssh : SshReport) (runtime : Runtime) :
    (applySsh ssh runtime).1.life =
      if (applySsh ssh runtime).2 then runtime.life.stop else runtime.life := by
  unfold applySsh
  dsimp only
  split
  · split
    · rfl
    · exact stopRuntime_life _ _ _
  · rfl
  · rfl

/-- A report that renews a lease leaves the runtime as it is. -/
theorem applyReport_life (report : Active) (runtime : Runtime) :
    (applyReport now report runtime).1.life =
      if (applyReport now report runtime).2 then runtime.life else runtime.life.stop := by
  have ssh : (applySsh report.ssh
      { runtime with health := some report.health, healthAt := some now }).1.life =
      if (applySsh report.ssh
        { runtime with health := some report.health, healthAt := some now }).2 then
        runtime.life.stop
      else runtime.life :=
    applySsh_life report.ssh _
  unfold applyReport
  generalize applySsh report.ssh
    { runtime with health := some report.health, healthAt := some now } = result at ssh
  obtain ⟨reported, changed⟩ := result
  dsimp only at ssh ⊢
  split
  · rw [stopRuntime_life, ssh]
    cases changed
    · rfl
    · exact Life.stop_stop _
  · rw [ssh]
    cases changed <;> rfl

private theorem reviewRuntime_life (valid : Bool) (report : Option Active) (runtime : Runtime) :
    runtime.life.Stays (reviewRuntime now valid report runtime).1.life ∧
      ((reviewRuntime now valid report runtime).2 = true →
        (reviewRuntime now valid report runtime).1.life = runtime.life ∧
          runtime.desiredState = .running) := by
  have enforced : runtime.life.Stays (enforceLifetime now (enforceStartup now runtime)).life :=
    (enforceStartup_life runtime).trans (enforceLifetime_life _)
  have running (desired : (enforceLifetime now (enforceStartup now runtime)).desiredState =
      .running) : (enforceLifetime now (enforceStartup now runtime)).life = runtime.life ∧
        runtime.desiredState = .running := by
    rcases enforced with same | stopped
    · exact ⟨same, (congrArg Life.desiredState same).symm.trans desired⟩
    · have halted := congrArg Life.desiredState stopped
      rw [show (enforceLifetime now (enforceStartup now runtime)).life.desiredState = .running from
        desired] at halted
      cases halted
  unfold reviewRuntime
  dsimp only
  split
  · rename_i report both
    simp only [Bool.and_eq_true, decide_eq_true_eq] at both
    obtain ⟨same, desired⟩ := running both.2
    have reported : (applyReport now report
        (enforceLifetime now (enforceStartup now runtime))).1.life = _ :=
      applyReport_life report _
    rw [same] at reported
    refine ⟨?_, fun renewed => ⟨?_, desired⟩⟩
    · rw [reported]
      split_ifs
      · exact .inl rfl
      · exact .inr rfl
    · rw [reported, if_pos renewed]
  · refine ⟨enforced, fun renewed => ?_⟩
    simp only [Bool.and_eq_true, decide_eq_true_eq] at renewed
    exact running renewed.2

theorem loseRuntime_life (runtime : Runtime) : (loseRuntime runtime).life = runtime.life.lose := by
  unfold loseRuntime Life.lose
  change _ = if runtime.desiredState = .running then _ else _
  split_ifs <;> rfl

/-- A heartbeat keeps the runtime of a renewed assignment, and stops or loses any other. -/
theorem heartbeatRuntime_life (fresh : Bool) (body : Heartbeat) (assignment : Assignment)
    (runtime : Runtime) :
    if renewal now fresh body assignment runtime then
      (heartbeatRuntime now fresh body assignment runtime).life = runtime.life
    else
      (heartbeatRuntime now fresh body assignment runtime).life = runtime.life.stop ∨
        (heartbeatRuntime now fresh body assignment runtime).life = runtime.life.lose := by
  obtain ⟨stays, keeps⟩ := @reviewRuntime_life now
    (reportValid now fresh body.instanceId assignment (body.report assignment.id))
    (body.report assignment.id) runtime
  unfold renewal heartbeatRuntime
  dsimp only
  split_ifs with renewed
  · exact (keeps renewed).1
  · rw [loseRuntime_life]
    rcases stays with same | stopped
    · exact .inr (by rw [same])
    · exact .inl (by rw [stopped, Life.lose_stop])

theorem leaseLost_life (runtime : Runtime) : (leaseLost runtime).life = runtime.life.lose := by
  unfold leaseLost Life.lose
  change _ = if runtime.desiredState = .running then _ else _
  split_ifs <;> rfl

theorem releaseController_life (token : UUID) (runtime : Runtime) :
    (releaseController token runtime).life = runtime.life := by
  unfold releaseController
  split_ifs <;> rfl

private theorem lockedRuntime_life (token : UUID) (leaseUntil : Time) (runtime : Runtime) :
    runtime.life.Stays (lockedRuntime token now leaseUntil runtime).life := by
  change runtime.life.Stays (reconcileReview now leaseUntil runtime).life
  unfold reconcileReview
  dsimp only
  split_ifs <;> first | exact .inl rfl | exact .inr (by simp)

end

/-- Position of a phase in `QUEUED, ASSIGNED, PULLING, STARTING, CONNECTING, READY`. -/
def phaseRank : RuntimeState → Option Nat
  | .queued => some 0
  | .assigned => some 1
  | .pulling => some 2
  | .starting => some 3
  | .connecting => some 4
  | .ready => some 5
  | .stopping | .lost | .stopped | .failed => none

/-- The state moves forward along the phases, or is lost. -/
def Forward (before after : RuntimeState) : Prop :=
  after = .lost ∨ ∃ i j, phaseRank before = some i ∧ phaseRank after = some j ∧ i ≤ j

namespace Forward

theorem trans {first second third : RuntimeState} (left : Forward first second)
    (right : Forward second third) : Forward first third := by
  rcases right with lost | ⟨j, k, second_rank, third_rank, later⟩
  · exact .inl lost
  · rcases left with rfl | ⟨i, j', first_rank, second_rank', earlier⟩
    · cases second_rank
    · obtain rfl : j' = j := Option.some.inj (second_rank'.symm.trans second_rank)
      exact .inr ⟨i, k, first_rank, third_rank, earlier.trans later⟩

variable {state : RuntimeState}

theorem refl (phase : state = .lost ∨ (phaseRank state).isSome = true) : Forward state state := by
  rcases phase with lost | ranked
  · exact .inl lost
  · obtain ⟨rank, found⟩ := Option.isSome_iff_exists.mp ranked
    exact .inr ⟨rank, rank, found, found, le_rfl⟩

theorem ready (ranked : (phaseRank state).isSome = true) : Forward state .ready := by
  cases state with
  | stopping | lost | stopped | failed => cases ranked
  | _ => exact .inr ⟨_, _, rfl, rfl, by decide⟩

end Forward

theorem forward_of_legal {state : RuntimeState} {phase : Phase}
    (legal : illegalTransition state phase = false) :
    state.ended = false ∧ phase.state.ended = false ∧ phase.state ≠ .queued ∧
      phase.state ≠ .lost ∧ Forward state phase.state := by
  revert legal
  cases state <;> cases phase <;>
    first
      | exact fun legal => absurd legal (by decide)
      | exact fun _ => ⟨rfl, rfl, by decide, by decide, .inr ⟨_, _, rfl, rfl, by decide⟩⟩

variable {assignment : Assignment} {state : AssignmentState}

private theorem eventTransition_life {now : Time} {body : Event} {runtime moved : Runtime}
    (moves : eventTransition now body runtime assignment = .ok (moved, state)) :
    moved.life = runtime.life.stop ∨
      moved.life = runtime.life ∧ state = assignment.state ∨
      state = .active ∧ illegalTransition runtime.state body.phase = false ∧
        moved.life = runtime.life.enter body.phase.state := by
  unfold eventTransition at moves
  split_ifs at moves with stopping running illegal
  · cases moves
    exact .inl (stopRuntime_life _ _ _)
  · cases moves
    have legal : illegalTransition runtime.state body.phase = false := by simpa using illegal
    have reported := applySsh_life body.ssh
      { runtime with
        state := body.phase.state
        health := some body.health
        healthAt := some now }
    rw [reported]
    split_ifs
    · obtain ⟨alive, entered, -⟩ := forward_of_legal legal
      refine .inl ?_
      simp [Runtime.life, Life.stop, alive, entered]
    · exact .inr (.inr ⟨rfl, legal, rfl⟩)
  · cases moves
    exact .inr (.inl ⟨rfl, rfl⟩)

/-- What holds of a runtime and its assignment: the runtime has ended exactly when the assignment is
released; while it is cleaned up the runtime is to stop; and a runtime that is lost without being
stopped has lost it. -/
structure Fits (life : Life) (assignment : Assignment) : Prop where
  freed : life.state.ended = true ↔ ¬assignment.Unreleased
  cleaning : assignment.state = .cleaning → life.desiredState = .stopped
  acknowledged : assignment.cleanupAck = true → life.desiredState = .stopped
  lost : life.state = .lost → life.desiredState = .running → assignment.state = .lost

theorem Fits.congr {life : Life} {next : Assignment} (fits : Fits life assignment)
    (freed : next.releasedAt = assignment.releasedAt) (state : next.state = assignment.state)
    (ack : next.cleanupAck = assignment.cleanupAck) : Fits life next where
  freed := by rw [fits.freed, Assignment.Unreleased, Assignment.Unreleased, freed]
  cleaning row := fits.cleaning (state ▸ row)
  acknowledged acked := fits.acknowledged (ack ▸ acked)
  lost gone desired := state ▸ fits.lost gone desired

/-- A runtime has at most one assignment, which it names, and without one it does not fail. -/
structure Bound (life : Life) (held : List Assignment) : Prop where
  unassigned : life.assignmentId = none → held = [] ∧ life.state ≠ .failed
  assigned : ∀ id, life.assignmentId = some id → life.state ≠ .queued ∧
    ∃ assignment, held = [assignment] ∧ assignment.id = id ∧ Fits life assignment
  running : life.desiredState = .running →
    life.state = .lost ∨ (phaseRank life.state).isSome = true

/-- How the life of a runtime may differ between two moments. -/
structure Life.Moves (before after : Life) : Prop where
  workspaceId : after.workspaceId = before.workspaceId
  generation : after.generation = before.generation
  assigned : ∀ id, before.assignmentId = some id → after.assignmentId = some id
  desired : before.desiredState = .stopped → after.desiredState = .stopped
  ended : before.state.ended = true → after.state = before.state
  forward : after.desiredState = .running → Forward before.state after.state

namespace Life.Moves

variable {before middle after : Life}

theorem trans (first : Moves before middle) (second : Moves middle after) :
    Moves before after where
  workspaceId := second.workspaceId.trans first.workspaceId
  generation := second.generation.trans first.generation
  assigned id found := second.assigned id (first.assigned id found)
  desired stopped := second.desired (first.desired stopped)
  ended past := (second.ended (by rwa [first.ended past])).trans (first.ended past)
  forward running := by
    have earlier : middle.desiredState = .running := by
      cases desired : middle.desiredState with
      | running => rfl
      | stopped =>
        rw [second.desired desired] at running
        cases running
    exact (first.forward earlier).trans (second.forward running)

theorem stop (life : Life) : Moves life life.stop where
  workspaceId := rfl
  generation := rfl
  assigned _ found := found
  desired _ := rfl
  ended past := by simp [Life.stop, past]
  forward running := by cases running

end Life.Moves

variable {f : Assignment → Assignment}

namespace Bound

variable {life : Life} {held : List Assignment} {assignment : Assignment}

theorem moves_refl (bound : Bound life held) : life.Moves life where
  workspaceId := rfl
  generation := rfl
  assigned _ found := found
  desired stopped := stopped
  ended _ := rfl
  forward running := .refl (bound.running running)

theorem single (bound : Bound life held) (member : assignment ∈ held) :
    life.assignmentId = some assignment.id ∧ held = [assignment] ∧ life.state ≠ .queued ∧
      Fits life assignment := by
  cases assigned : life.assignmentId with
  | none =>
    rw [(bound.unassigned assigned).1] at member
    cases member
  | some id =>
    obtain ⟨started, sole, held_eq, named, fits⟩ := bound.assigned id assigned
    rw [held_eq, List.mem_singleton] at member
    subst member
    exact ⟨by rw [named], held_eq, started, fits⟩

theorem fits (bound : Bound life held) (member : assignment ∈ held) : Fits life assignment :=
  (bound.single member).2.2.2

theorem not_ended (bound : Bound life held) (member : assignment ∈ held)
    (unreleased : assignment.Unreleased) : life.state.ended = false := by
  rw [← Bool.not_eq_true, (bound.fits member).freed, not_not]
  exact unreleased

theorem of_single (assigned : life.assignmentId = some assignment.id)
    (started : life.state ≠ .queued)
    (running : life.desiredState = .running →
      life.state = .lost ∨ (phaseRank life.state).isSome = true)
    (fits : Fits life assignment) : Bound life [assignment] where
  unassigned missing := by cases assigned.symm.trans missing
  assigned id found :=
    ⟨started, assignment, rfl, Option.some.inj (assigned.symm.trans found), fits⟩
  running := running

section

variable (bound : Bound life held)

include bound

theorem rewrite (member : assignment ∈ held) (named : (f assignment).id = assignment.id)
    (fits : Fits life (f assignment)) : Bound life (updateHeld assignment.id f held) := by
  obtain ⟨assigned, rfl, started, -⟩ := bound.single member
  rw [updateHeld_singleton]
  exact .of_single (named ▸ assigned) started bound.running fits

theorem stop : Bound life.stop held where
  unassigned missing := by
    obtain ⟨empty, unfailed⟩ := bound.unassigned missing
    refine ⟨empty, ?_⟩
    simp only [Life.stop]
    split_ifs
    · exact unfailed
    · decide
  assigned id found := by
    obtain ⟨started, assignment, held_eq, named, fits⟩ := bound.assigned id found
    refine ⟨?_, assignment, held_eq, named, ?_⟩
    · simp only [Life.stop]
      split_ifs
      · exact started
      · decide
    · exact
        { freed := by rw [Life.stop_ended, fits.freed]
          cleaning := fun _ => rfl
          acknowledged := fun _ => rfl
          lost := fun _ desired => by cases desired }
  running desired := by cases desired

theorem stays {after : Life} (stays : life.Stays after) : Bound after held ∧ life.Moves after := by
  rcases stays with rfl | rfl
  · exact ⟨bound, bound.moves_refl⟩
  · exact ⟨bound.stop, .stop life⟩

theorem stop_rewrite (member : assignment ∈ held) (named : (f assignment).id = assignment.id)
    (unfreed : (f assignment).releasedAt = assignment.releasedAt) :
    Bound life.stop (updateHeld assignment.id f held) ∧ life.Moves life.stop := by
  refine ⟨bound.stop.rewrite member named ?_, .stop life⟩
  exact
    { freed := by rw [(bound.stop.fits member).freed, Assignment.Unreleased,
        Assignment.Unreleased, unfreed]
      cleaning := fun _ => rfl
      acknowledged := fun _ => rfl
      lost := fun _ desired => by cases desired }

theorem lose (member : assignment ∈ held) (unreleased : assignment.Unreleased)
    (named : (f assignment).id = assignment.id)
    (unfreed : (f assignment).releasedAt = assignment.releasedAt)
    (ack : (f assignment).cleanupAck = assignment.cleanupAck)
    (state : (f assignment).state = .lost ∨
      (f assignment).state = .cleaning ∧ assignment.state = .cleaning) :
    Bound life.lose (updateHeld assignment.id f held) ∧ life.Moves life.lose := by
  have alive := bound.not_ended member unreleased
  have fits := bound.fits member
  have cleaning (row : (f assignment).state = .cleaning) : life.desiredState = .stopped := by
    rcases state with gone | ⟨-, earlier⟩
    · cases row.symm.trans gone
    · exact fits.cleaning earlier
  unfold Life.lose
  split_ifs with running
  · have gone : (f assignment).state = .lost := by
      rcases state with gone | ⟨row, -⟩
      · exact gone
      · cases running.symm.trans (cleaning row)
    obtain ⟨assigned, rfl, _, -⟩ := bound.single member
    rw [updateHeld_singleton]
    refine ⟨.of_single (named ▸ assigned) (by simp [Life.enter]) (fun _ => .inl rfl) ?_, ?_⟩
    · exact
        { freed := by
            rw [Assignment.Unreleased, unfreed]
            simpa [Life.enter, RuntimeState.ended] using unreleased
          cleaning := cleaning
          acknowledged := fun acked => fits.acknowledged (ack ▸ acked)
          lost := fun _ _ => gone }
    · exact
        { bound.moves_refl with
          ended := fun past => by cases alive.symm.trans past
          forward := fun _ => .inl rfl }
  · refine ⟨bound.rewrite member named ?_, bound.moves_refl⟩
    exact
      { freed := by rw [fits.freed, Assignment.Unreleased, Assignment.Unreleased, unfreed]
        cleaning := cleaning
        acknowledged := fun acked => fits.acknowledged (ack ▸ acked)
        lost := fun _ desired => absurd desired running }

theorem finish {final : RuntimeState} (member : assignment ∈ held)
    (unreleased : assignment.Unreleased) (named : (f assignment).id = assignment.id)
    (freed : ¬(f assignment).Unreleased) (stopped : life.desiredState = .stopped)
    (past : final.ended = true) :
    Bound (life.enter final) (updateHeld assignment.id f held) ∧
      life.Moves (life.enter final) := by
  have alive := bound.not_ended member unreleased
  have not_running : (life.enter final).desiredState ≠ .running := by
    rw [show (life.enter final).desiredState = .stopped from stopped]
    decide
  obtain ⟨assigned, rfl, started, -⟩ := bound.single member
  rw [updateHeld_singleton]
  refine ⟨.of_single (named ▸ assigned) ?_ (fun desired => absurd desired not_running) ?_, ?_⟩
  · rintro (queued : final = .queued)
    rw [queued] at past
    cases past
  · exact
      { freed := iff_of_true past freed
        cleaning := fun _ => stopped
        acknowledged := fun _ => stopped
        lost := fun _ desired => absurd desired not_running }
  · exact
      { bound.moves_refl with
        ended := fun ended => by cases alive.symm.trans ended
        forward := fun desired => absurd desired not_running }

theorem enter {state : RuntimeState} (alive : life.state.ended = false) (started : state ≠ .queued)
    (kept : state ≠ .lost) (goes_on : state.ended = false) (forward : Forward life.state state) :
    Bound (life.enter state) held ∧ life.Moves (life.enter state) := by
  refine ⟨?_, ?_⟩
  · exact
      { unassigned := fun missing => by
          refine ⟨(bound.unassigned missing).1, ?_⟩
          rintro (failed : state = .failed)
          rw [failed] at goes_on
          cases goes_on
        assigned := fun id found => by
          obtain ⟨-, assignment, held_eq, named, fits⟩ := bound.assigned id found
          refine ⟨started, assignment, held_eq, named, ?_⟩
          exact
            { freed := by rw [← fits.freed, alive]; simp [Life.enter, goes_on]
              cleaning := fits.cleaning
              acknowledged := fits.acknowledged
              lost := fun gone => absurd gone kept }
        running := fun _ => by
          rcases forward with gone | ⟨i, j, -, rank, -⟩
          · exact .inl gone
          · exact .inr (by rw [show (life.enter state).state = state from rfl, rank]; rfl) }
  · exact
      { bound.moves_refl with
        ended := fun past => by cases alive.symm.trans past
        forward := fun _ => forward }

end

end Bound

/-- What a step keeps of a tenure, and how it moves it. -/
structure Advances (before after : Tenure) : Prop where
  bound : Bound after.runtime.life after.held
  moves : before.runtime.life.Moves after.runtime.life
  retained : ∀ assignment ∈ before.held, ∃ next ∈ after.held, next.id = assignment.id

variable {after : Tenure}

namespace Advances

theorem trans {before middle : Tenure} (first : Advances before middle)
    (second : Advances middle after) : Advances before after where
  bound := second.bound
  moves := first.moves.trans second.moves
  retained assignment member := by
    obtain ⟨next, next_mem, named⟩ := first.retained assignment member
    obtain ⟨last, last_mem, last_named⟩ := second.retained next next_mem
    exact ⟨last, last_mem, last_named.trans named⟩

variable {runtime next : Runtime} {held : List Assignment}

theorem of_life (advanced : Bound next.life held ∧ runtime.life.Moves next.life) :
    Advances ⟨runtime, held⟩ ⟨next, held⟩ :=
  ⟨advanced.1, advanced.2, fun assignment member => ⟨assignment, member, rfl⟩⟩

theorem of_update {assignmentId : UUID} (keeps : ∀ row, (f row).id = row.id)
    (advanced : Bound next.life (updateHeld assignmentId f held) ∧ runtime.life.Moves next.life) :
    Advances ⟨runtime, held⟩ ⟨next, updateHeld assignmentId f held⟩ := by
  refine ⟨advanced.1, advanced.2, ?_⟩
  intro assignment member
  by_cases selected : assignment.id = assignmentId
  · exact ⟨f assignment, Table.mem_rewriteAt.mpr (.inr ⟨assignment, member, selected, rfl⟩),
      keeps assignment⟩
  · exact ⟨assignment, Table.mem_rewriteAt.mpr (.inl ⟨member, selected⟩), rfl⟩

end Advances

section

variable {digest : Digest} {now : Time} {control : Control} {act : Act}

/-- A heartbeat that does not renew an assignment loses it, unless it is being cleaned up. -/
theorem concludeHeartbeat_refused (settings : Settings) (assignment : Assignment) :
    (concludeHeartbeat settings now false assignment).state = .lost ∨
      (concludeHeartbeat settings now false assignment).state = .cleaning ∧
        assignment.state = .cleaning := by
  unfold concludeHeartbeat
  rw [if_neg (by decide)]
  split_ifs with cleaning
  · exact .inr ⟨cleaning, cleaning⟩
  · exact .inl rfl

theorem concludeHeartbeat_kept (settings : Settings) (valid : Bool) (assignment : Assignment) :
    (concludeHeartbeat settings now valid assignment).releasedAt = assignment.releasedAt ∧
      (concludeHeartbeat settings now valid assignment).cleanupAck = assignment.cleanupAck := by
  unfold concludeHeartbeat
  split_ifs <;> exact ⟨rfl, rfl⟩

variable {runtime : Runtime} {held : List Assignment} {assignment : Assignment}
  {settings : Settings} {before : Tenure}

theorem beaten_advances {body : Heartbeat} (fresh : Bool) (bound : Bound runtime.life held)
    (member : assignment ∈ held) (unreleased : assignment.Unreleased) :
    Advances ⟨runtime, held⟩
      ⟨heartbeatRuntime now fresh body assignment runtime,
        updateHeld assignment.id
          (concludeHeartbeat settings now (renewal now fresh body assignment runtime)) held⟩ := by
  have life := @heartbeatRuntime_life now fresh body assignment runtime
  refine .of_update (concludeHeartbeat_id _ _ _) ?_
  cases renewed : renewal now fresh body assignment runtime with
  | true =>
    rw [renewed, if_pos rfl] at life
    rw [life]
    exact ⟨bound.rewrite member rfl ((bound.fits member).congr rfl rfl rfl), bound.moves_refl⟩
  | false =>
    rw [renewed, if_neg (by decide)] at life
    obtain ⟨unfreed, ack⟩ := @concludeHeartbeat_kept now settings false assignment
    rcases life with stopped | lost
    · rw [stopped]
      exact bound.stop_rewrite member (concludeHeartbeat_id _ _ _ _) unfreed
    · rw [lost]
      exact bound.lose member unreleased (concludeHeartbeat_id _ _ _ _) unfreed ack
        (concludeHeartbeat_refused settings assignment)

theorem reported_advances {body : Event} {moved : Runtime} (bound : Bound runtime.life held)
    (member : assignment ∈ held)
    (moves : eventTransition now body runtime assignment = .ok (moved, state)) :
    Advances ⟨runtime, held⟩
      ⟨moved, updateHeld assignment.id (eventRow digest body state) held⟩ := by
  have fits := bound.fits member
  refine .of_update (fun _ => rfl) ?_
  rcases eventTransition_life moves with stopped | ⟨same, rfl⟩ | ⟨rfl, legal, entered⟩
  · rw [stopped]
    exact bound.stop_rewrite member rfl rfl
  · rw [same]
    exact ⟨bound.rewrite member rfl (fits.congr rfl rfl rfl), bound.moves_refl⟩
  · obtain ⟨alive, goes_on, started, not_lost, forward⟩ := forward_of_legal legal
    obtain ⟨advanced, moves⟩ := bound.enter alive started not_lost goes_on forward
    rw [entered]
    refine ⟨advanced.rewrite member rfl ?_, moves⟩
    exact
      { freed := (advanced.fits member).freed
        cleaning := fun cleaning => by cases cleaning
        acknowledged := fits.acknowledged
        lost := fun gone => absurd gone not_lost }

theorem granted_advances (bound : Bound runtime.life held) (queued : runtime.state = .queued)
    (running : runtime.desiredState = .running) (claimed : assignment.state = .claimed)
    (unreleased : assignment.Unreleased) (unacknowledged : assignment.cleanupAck = false) :
    Advances ⟨runtime, held⟩
      ⟨assignRuntime settings now assignment.id runtime, held ++ [assignment]⟩ := by
  have unassigned : runtime.assignmentId = none := by
    cases assigned : runtime.assignmentId with
    | none => rfl
    | some id => exact absurd queued (bound.assigned id assigned).1
  obtain rfl := (bound.unassigned unassigned).1
  refine ⟨.of_single rfl (by simp [Runtime.life, assignRuntime]) (fun _ => .inr rfl) ?_, ?_, ?_⟩
  · exact
      { freed := iff_of_false (by simp [Runtime.life, assignRuntime, RuntimeState.ended])
          (not_not.mpr unreleased)
        cleaning := fun cleaning => by cases claimed.symm.trans cleaning
        acknowledged := fun acked => by cases unacknowledged.symm.trans acked
        lost := fun gone => by cases gone }
  · exact
      { workspaceId := rfl
        generation := rfl
        assigned := fun id found => by cases unassigned.symm.trans found
        desired := fun stopped => by cases running.symm.trans stopped
        ended := fun past => by
          rw [show runtime.life.state = .queued from queued] at past
          cases past
        forward := fun _ =>
          .inr ⟨0, 1, by rw [show runtime.life.state = .queued from queued]; rfl, rfl, by decide⟩ }
  · rintro row ⟨⟩

private theorem ownerStop_life (runtime : Runtime) :
    (ownerStop now runtime).life =
      if runtime.assignmentId.isNone then runtime.life.stop.enter .stopped
      else runtime.life.stop := by
  have stopped := stopRuntime_life none none runtime
  unfold ownerStop
  split_ifs
  · rw [← stopped]
    rfl
  · exact stopped

theorem ownerStop_advances (bound : Bound runtime.life held) :
    Advances ⟨runtime, held⟩ ⟨ownerStop now runtime, held⟩ := by
  refine .of_life ?_
  rw [ownerStop_life]
  split_ifs with unassigned
  · have missing : runtime.life.assignmentId = none := Option.isNone_iff_eq_none.mp unassigned
    obtain ⟨rfl, unfailed⟩ := bound.unassigned missing
    refine ⟨?_, ?_⟩
    · exact
        { unassigned := fun _ => ⟨rfl, by simp [Life.enter]⟩
          assigned := fun id found => by cases missing.symm.trans found
          running := fun desired => by cases desired }
    · refine { Life.Moves.stop runtime.life with ended := ?_, forward := ?_ }
      · intro past
        have final : runtime.life.state = .stopped ∨ runtime.life.state = .failed := by
          simpa [RuntimeState.ended] using past
        rcases final with stopped | failed
        · exact stopped.symm
        · exact absurd failed unfailed
      · intro desired
        cases desired
  · exact bound.stays (.inr rfl)

/-- A pass serves a runtime only while its assignment is not lost. -/
theorem served_advances {version : UUID} {state : Management.EndpointState}
    (bound : Bound runtime.life held) (member : assignment ∈ held)
    (servable : Pass.servable now runtime assignment = true) :
    Advances ⟨runtime, held⟩ ⟨Pass.markServed now version state runtime, held⟩ := by
  simp only [Pass.servable, Bool.and_eq_true, beq_iff_eq, bne_iff_ne] at servable
  obtain ⟨⟨⟨⟨⟨running, -⟩, -⟩, kept⟩, -⟩, -⟩ := servable
  have ranked : (phaseRank runtime.life.state).isSome = true := by
    rcases bound.running running with gone | ranked
    · exact absurd ((bound.fits member).lost gone running) kept
    · exact ranked
  have alive : runtime.life.state.ended = false := by
    revert ranked
    cases runtime.life.state <;> decide
  refine .of_life ?_
  unfold Pass.markServed
  split_ifs
  · have entered : Bound (runtime.life.enter .ready) held ∧
        runtime.life.Moves (runtime.life.enter .ready) :=
      bound.enter alive (by decide) (by decide) rfl (.ready ranked)
    exact entered
  · exact ⟨bound, bound.moves_refl⟩

theorem finishRuntime_life (runtime : Runtime) :
    ∃ final : RuntimeState, final.ended = true ∧
      (finishRuntime now runtime).life = runtime.life.enter final :=
  ⟨if runtime.failureCode.isSome then .failed else .stopped, by split_ifs <;> rfl, rfl⟩

/-- Every change of a tenure keeps its invariant and moves its life on. -/
theorem Alters.advances (alters : Alters digest now control runtime held act after)
    (bound : Bound runtime.life held) : Advances ⟨runtime, held⟩ after := by
  cases alters with
  | granted queued running target claimed unreleased unacknowledged =>
    exact granted_advances bound queued running claimed unreleased unacknowledged
  | beaten fresh member worker unreleased => exact beaten_advances fresh bound member unreleased
  | reported member named unreleased alive moves =>
    exact reported_advances bound member moves
  | interrupted member worker unreleased restarted =>
    refine .of_update (fun _ => rfl) ?_
    rw [stopRuntime_life]
    exact bound.stop_rewrite member rfl rfl
  | acknowledged member named unreleased unrevoked =>
    refine .of_update (fun _ => rfl) ?_
    rw [stopRuntime_life]
    exact bound.stop_rewrite member rfl rfl
  | @cleaned _ body _ member named unreleased revoked =>
    obtain ⟨final, past, life⟩ :=
      @finishRuntime_life now (stopRuntime body.failureCode none runtime)
    refine .of_update (fun _ => rfl) ?_
    rw [life, stopRuntime_life]
    obtain ⟨finished, moves⟩ := bound.stop.finish
      (f := fun row => releaseRow now (acknowledge row)) member unreleased rfl
      (by simp [releaseRow]) rfl past
    exact ⟨finished, (Life.Moves.stop _).trans moves⟩
  | expired member unreleased late =>
    refine .of_update (fun _ => rfl) ?_
    rw [leaseLost_life]
    exact bound.lose member unreleased rfl rfl rfl (.inl rfl)
  | stopped => exact ownerStop_advances bound
  | locked selected => exact .of_life (bound.stays (lockedRuntime_life _ _ _))
  | enrolled recording mine =>
    refine .of_life ?_
    rw [releaseController_life]
    exact ⟨bound, bound.moves_refl⟩
  | reserved | revoked => exact .of_life ⟨bound, bound.moves_refl⟩
  | @released _ _ outcome _ concluding mine desired stopping member named unreleased acknowledged =>
    obtain ⟨final, past, life⟩ := @finishRuntime_life now (recordRevocation outcome runtime)
    refine .of_update (fun _ => rfl) ?_
    rw [life]
    exact bound.finish member unreleased rfl (by simp [releaseRow]) stopping past
  | served concluding mine member servable => exact served_advances bound member servable
  | rejected rejecting mine =>
    refine .of_life ?_
    rw [stopRuntime_life]
    exact bound.stays (.inr rfl)
  | backedOff =>
    refine .of_life ?_
    unfold Pass.backOff
    split_ifs <;> exact ⟨bound, bound.moves_refl⟩
  | dropped =>
    refine .of_life ?_
    rw [releaseController_life]
    exact ⟨bound, bound.moves_refl⟩

theorem Altered.advances (altered : Altered digest now control act before after)
    (bound : Bound before.runtime.life before.held) : Advances before after := by
  induction altered with
  | refl => exact .of_life ⟨bound, bound.moves_refl⟩
  | tail _ alters induction => exact induction.trans (alters.advances induction.bound)

end

end TrainingScheduler
