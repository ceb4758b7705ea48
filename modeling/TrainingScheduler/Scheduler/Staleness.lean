import TrainingScheduler.Scheduler.Coherence
import TrainingScheduler.Scheduler.Reports

/-!
# Stale attempts

An attempt that is released, lost, past its lease or owned by a previous Worker instance is fenced
off: no event, result, log or bootstrap request that carries its identity writes a row, and no
cleanup request does once it is released.
-/

namespace TrainingScheduler

/-- The identity that messages about an assignment carry. -/
def Assignment.fence (assignment : Assignment) : Fence where
  instanceId := assignment.instanceId
  assignmentId := assignment.id
  attemptToken := assignment.attemptToken
  generation := assignment.generation

/-- The attempt was released or quarantined, or its lease has passed. -/
def Retired (now : Time) (assignment : Assignment) : Prop :=
  ¬assignment.Unreleased ∨ assignment.state = .lost ∨ assignment.leaseUntil ≤ now

/-- The attempt is retired, or another instance of its Worker has registered. -/
def StaleAttempt (db : Db) (now : Time) (assignment : Assignment) : Prop :=
  Retired now assignment ∨
    db.currentInstance assignment.workerId ≠ some assignment.instanceId

section

variable {db : Db} {now : Time} {workerId : UUID} {assignment : Assignment}

/-- A fence that carries an assignment's identity names no other row. -/
theorem eq_of_fence {cleanup : Bool} {worker : Worker} {found : Assignment}
    (member : assignment ∈ db.assignments.rows)
    (passed : TrainingScheduler.fence db workerId assignment.fence now cleanup =
      .ok (worker, found)) : found = assignment := by
  obtain ⟨found_mem, named, -, -⟩ := mem_of_fence passed
  simp only [Fence.names, Bool.and_eq_true, beq_iff_eq] at named
  exact db.assignments.eq_of_key_eq found_mem member named.1.1.1.1

theorem fence_error_of_stale (workerId : UUID) (member : assignment ∈ db.assignments.rows)
    (stale : StaleAttempt db now assignment) :
    ∃ exception, TrainingScheduler.fence db workerId assignment.fence now = .error exception := by
  cases outcome : TrainingScheduler.fence db workerId assignment.fence now with
  | error exception => exact ⟨exception, rfl⟩
  | ok value =>
    obtain ⟨worker, found⟩ := value
    obtain ⟨-, named, stored, off⟩ := mem_of_fence outcome
    obtain rfl := eq_of_fence member outcome
    have authority := off rfl
    simp only [fencedOff, Bool.or_eq_false_iff, bne_eq_false_iff_eq, decide_eq_false_iff_not,
      not_le] at authority
    obtain ⟨⟨⟨unreleased, current⟩, alive⟩, unexpired⟩ := authority
    simp only [Fence.names, Bool.and_eq_true, beq_iff_eq] at named
    rcases stale with (released | lost | expired) | moved
    · exact absurd (by simpa using unreleased) released
    · simp [lost] at alive
    · exact absurd unexpired (not_lt.mpr expired)
    · rw [Db.currentInstance, named.1.1.1.2, stored] at moved
      exact absurd current moved

/-- At most the enrollment and the controller lease of the runtime are written. -/
def Runtime.Enrolled (runtimeId : UUID) (old new : Runtime) : Prop :=
  (old.id ≠ runtimeId → new = old) ∧
    new = { old with
      enrollmentId := new.enrollmentId
      controllerToken := new.controllerToken
      controllerUntil := new.controllerUntil }

theorem enrolled_releaseController {token runtimeId : UUID} {row : Runtime}
    (enrollmentId : Option UUID) (selected : row.id = runtimeId) :
    row.Enrolled runtimeId (releaseController token { row with enrollmentId }) := by
  unfold releaseController
  split_ifs <;> exact ⟨fun other => absurd selected other, rfl⟩

private theorem enrolled_bootstrapEnd (token : UUID) (body : Fence) (call : Enrollment)
    (reply : EnrollmentReply) :
    ∃ runtimes, (bootstrapEnd token now db workerId body call reply).2 = { db with runtimes } ∧
      db.runtimes.Rowwise (Runtime.Enrolled call.runtimeId) runtimes := by
  have same (row : Runtime) : row.Enrolled call.runtimeId row := ⟨fun _ => rfl, rfl⟩
  unfold bootstrapEnd
  split
  · exact ⟨_, rfl, Table.rowwise_of_rewriteAt rfl same fun row _ =>
      enrolled_releaseController row.enrollmentId⟩
  · exact ⟨_, rfl, Table.rowwise_of_rewriteAt rfl same fun row _ =>
      enrolled_releaseController row.enrollmentId⟩
  · exact ⟨_, rfl, Table.rowwise_of_rewriteAt (Table.rewriteAt_rewriteAt fun _ => rfl) same
      fun _ _ => enrolled_releaseController _⟩

end

/-- A stale attempt is inert, whatever else the database holds: event, result, log and bootstrap
requests with its fence leave every row as it was, and so do cleanup requests once it is
released.  The second transaction of a bootstrap request, which passed its fence earlier, writes at
most the enrollment and the controller lease of its runtime. -/
theorem stale_attempt_inert (digest : Digest) (now : Time) (db : Db) (assignment : Assignment)
    (member : assignment ∈ db.assignments.rows) (workerId : UUID) :
    (StaleAttempt db now assignment →
      (∀ body : Event, body.toFence = assignment.fence →
        (Op.event workerId body).apply digest now db = db) ∧
      (∀ body : Result, body.toFence = assignment.fence →
        (Op.result workerId body).apply digest now db = db) ∧
      (∀ body : Logs, body.toFence = assignment.fence →
        ∃ exception, logs now db workerId body = .error exception) ∧
      ∀ token later meanwhile management,
        (bootstrap token now later meanwhile management db workerId assignment.fence).2 = db) ∧
    (¬assignment.Unreleased → ∀ body : Cleanup, body.toFence = assignment.fence →
      (Op.cleanup workerId body).apply digest now db = db) ∧
    ∀ token call reply, ∃ runtimes,
      (bootstrapEnd token now db workerId assignment.fence call reply).2 = { db with runtimes } ∧
        db.runtimes.Rowwise (Runtime.Enrolled call.runtimeId) runtimes := by
  refine ⟨fun stale => ?_, fun released body carries => ?_, fun token =>
    enrolled_bootstrapEnd token _⟩
  · obtain ⟨exception, rejected⟩ := fence_error_of_stale workerId member stale
    refine ⟨fun body carries => ?_, fun body carries => ?_, fun body carries => ⟨exception, ?_⟩, ?_⟩
    · simp only [Op.apply, event, carries, rejected, commit]
    · simp only [Op.apply, result, carries, rejected, Except.map, commit]
    · simp only [logs, carries, rejected]
    · intro token later meanwhile management
      simp only [bootstrap, rejected]
  · simp only [Op.apply, cleanup, carries]
    cases outcome : TrainingScheduler.fence db workerId assignment.fence now true with
    | error exception => rfl
    | ok value =>
      obtain ⟨worker, found⟩ := value
      obtain rfl := eq_of_fence member outcome
      simp only [Option.isSome_iff_ne_none.mpr released, if_true, commit]

namespace Deployment

def idleHeartbeat (sequence : Nat) (observedAt : Time) : Op :=
  .heartbeat settings 1
    { instanceId := 10, sequence, paused := false, draining := false
      inventory := { inventory with observedAt }, assignments := [] }

/-- After the expiry the same Worker claims the job again. -/
def replaced : Db :=
  Op.apply digest 102 ((idleHeartbeat 1 101).apply digest 101 expired)
    (.claim settings (fun _ _ _ _ => some { kind := .batch, targetId := 100, flag := "retry" })
      (fun _ => (1002, 2002)) 1 ⟨10, 2⟩)

/-- The released attempt is inert while its replacement is live on the same Worker. -/
theorem replaced_attempt_inert :
    ∃ old ∈ replaced.assignments.rows, ∃ new ∈ replaced.assignments.rows,
      ¬old.Unreleased ∧ new.Unreleased ∧ old.jobId = new.jobId ∧
      (∀ body : Event, body.toFence = old.fence →
        (Op.event 1 body).apply digest 103 replaced = replaced) ∧
      (∀ body : Result, body.toFence = old.fence →
        (Op.result 1 body).apply digest 103 replaced = replaced) ∧
      (∀ body : Logs, body.toFence = old.fence →
        ∃ exception, logs 103 replaced 1 body = .error exception) ∧
      (∀ management, (bootstrap 5 103 104 id management replaced 1 old.fence).2 = replaced) ∧
      ∀ body : Cleanup, body.toFence = old.fence →
        (Op.cleanup 1 body).apply digest 103 replaced = replaced := by
  obtain ⟨old, old_mem, new, new_mem, released, live, job⟩ :
      ∃ old ∈ replaced.assignments.rows, ∃ new ∈ replaced.assignments.rows,
        ¬old.Unreleased ∧ new.Unreleased ∧ old.jobId = new.jobId := by
    decide +kernel
  obtain ⟨inert, cleaned, -⟩ := stale_attempt_inert digest 103 replaced old old_mem 1
  obtain ⟨event, result, log, bootstrap⟩ := inert (.inl (.inl released))
  exact ⟨old, old_mem, new, new_mem, released, live, job, event, result, log, bootstrap 5 104 id,
    cleaned released⟩

end Deployment

end TrainingScheduler
