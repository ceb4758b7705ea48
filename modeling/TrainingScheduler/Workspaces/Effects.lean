import TrainingScheduler.Workspaces.Saves

/-!
# What the commits of a workspace do

Every commit inserts or rewrites at most one row of each table at a time, and rewrites only rows
that its session has locked.  What survives the commits of other sessions, and what holds of every
reachable store, follows from that.
-/

namespace TrainingScheduler.Workspaces

namespace Label

/-- The commit serves a callback that carries this builder and this attempt for the revision. -/
def Carries (revisionId : UUID) (builderId : String) (attemptId : UUID) : Label → Prop
  | ready attempt _ | failure attempt => attempt = ⟨revisionId, builderId, attemptId⟩
  | heartbeat builder active => builder = builderId ∧ (revisionId, attemptId) ∈ active
  | reconcile _ | other => False

/-- The commit serves a callback of a builder. -/
def callback : Label → Bool
  | ready _ _ | failure _ | heartbeat _ _ => true
  | reconcile _ | other => false

/-- A callback carries the builder and the attempt of the row. -/
def Fences (label : Label) (row : ImageRevision) : Prop :=
  label.callback = true → ∃ builderId attemptId, row.builderId = some builderId ∧
    row.attemptId = some attemptId ∧ label.Carries row.id builderId attemptId

end Label

/-- The image of the revision is still to be built. -/
def ImageRevision.Open (row : ImageRevision) : Prop := row.state = .queued ∨ row.state = .building

/-- The columns of a revision that no operation rewrites. -/
structure ImageRevision.Kept (old row : ImageRevision) : Prop where
  workspaceId : row.workspaceId = old.workspaceId
  revisionNumber : row.revisionNumber = old.revisionNumber
  origin : row.origin = old.origin
  snapshotOperationId : row.snapshotOperationId = old.snapshotOperationId

/-- Attempts are bounded, a queued revision has one left, and one that is built has a lease. -/
structure ImageRevision.Valid (row : ImageRevision) : Prop where
  bounded : row.attemptCount ≤ maxAttempts
  queued : row.state = .queued → row.attemptCount < maxAttempts
  leased : row.state = .building →
    row.builderId.isSome ∧ row.attemptId.isSome ∧ row.leaseUntil.isSome

/-- What a commit may do to a revision: its session holds the row, the revision is still to be
built, and a new attempt was never seen before. -/
structure RevisionStep (label : Label) (held : Set LockedRow) (before after : Store)
    (old row : ImageRevision) : Prop where
  locked : .revision old.id ∈ held
  opened : old.Open
  kept : old.Kept row
  attempt : ((row.attemptId = old.attemptId ∨ row.attemptId = none) ∧
      row.attemptCount = old.attemptCount) ∨
    ∃ attemptId, row.attemptId = some attemptId ∧ attemptId ∉ before.attempts ∧
      attemptId ∈ after.attempts
  valid : row.Valid
  fenced : label.Fences old

/-- A new revision is built by nobody, and a new snapshot is the target of its operation. -/
structure NewRevision (label : Label) (after : Store) (row : ImageRevision) : Prop where
  requested : label.callback = false
  attemptId : row.attemptId = none
  valid : row.Valid
  origin : row.origin = .snapshot ↔ row.snapshotOperationId.isSome
  target : ∀ operationId, row.snapshotOperationId = some operationId →
    ∃ operation ∈ after.saves.rows, operation.id = operationId ∧
      operation.targetRevisionId = some row.id

/-- What a commit may do to a save operation.  Its target is set once. -/
structure SaveStep (timely : Prop) (held : Set LockedRow) (after : Store)
    (old operation : SaveOperation) : Prop where
  locked : .save old.id ∈ held
  purpose : operation.purpose = old.purpose
  target : operation.targetRevisionId = old.targetRevisionId ∨
    old.targetRevisionId = none ∧ ∃ row ∈ after.revisions.rows,
      operation.targetRevisionId = some row.id ∧ row.snapshotOperationId = some old.id
  capture : operation.state.capture = true → operation.targetRevisionId = none
  failed : timely → old.state = .failed → operation.state = .failed

/-- A new save operation has no target yet, and one for training has a submission. -/
structure NewSave (after : Store) (operation : SaveOperation) : Prop where
  target : operation.targetRevisionId = none
  train : operation.purpose = .train →
    ∃ submission ∈ after.submissions.rows, submission.saveOperationId = operation.id

structure SubmissionStep (held : Set LockedRow) (old submission : TrainingSubmission) : Prop where
  locked : .submission old.id ∈ held
  operation : submission.saveOperationId = old.saveOperationId

/-- A submission comes with its save operation. -/
structure NewSubmission (before after : Store) (submission : TrainingSubmission) : Prop where
  fresh : ∀ operation ∈ before.saves.rows, operation.id ≠ submission.saveOperationId
  operation : ∃ operation ∈ after.saves.rows, operation.id = submission.saveOperationId

/-- The revision is a ready one of the workspace. -/
def Store.ReadyHead (store : Store) (workspaceId revisionId : UUID) : Prop :=
  ∃ row ∈ store.revisions.rows, row.id = revisionId ∧ row.workspaceId = workspaceId ∧
    row.state = .imageReady

/-- The head of a workspace stays, or a ready callback moves it to its revision. -/
def HeadStep (label : Label) (after : Store) (old item : InteractiveWorkspace) : Prop :=
  item.savedRevisionId = old.savedRevisionId ∨
    ∃ attempt, label = .ready attempt true ∧ item.savedRevisionId = some attempt.revisionId ∧
      after.ReadyHead item.id attempt.revisionId

/-- What one commit does, a row of each table at a time. -/
structure Effect (timely : Prop) (label : Label) (held : Set LockedRow) (before after : Store) :
    Prop where
  attempts : before.attempts ⊆ after.attempts
  nodup : before.attempts.Nodup → after.attempts.Nodup
  revisions : before.revisions.Change (RevisionStep label held before after)
    (NewRevision label after) after.revisions
  saves : before.saves.Change (SaveStep timely held after) (NewSave after) after.saves
  submissions : before.submissions.Change (SubmissionStep held) (NewSubmission before after)
    after.submissions
  workspaces : before.workspaces.Change (HeadStep label after)
    (fun item => item.savedRevisionId = none) after.workspaces
  jobs : ∀ job ∈ workspaceJobs after.db, job ∈ workspaceJobs before.db ∨
    ∃ row ∈ after.revisions.rows, row.id = job.2

variable {operation : SaveOperation}

namespace Effect

variable {timely : Prop} {label : Label} {held wider : Set LockedRow} {before after : Store}

theorem mono (subset : held ⊆ wider) (effect : Effect timely label held before after) :
    Effect timely label wider before after where
  attempts := effect.attempts
  nodup := effect.nodup
  revisions := effect.revisions.mono
    (fun _ _ step => { step with locked := subset step.locked }) fun _ => id
  saves := effect.saves.mono
    (fun _ _ step => { step with locked := subset step.locked }) fun _ => id
  submissions := effect.submissions.mono
    (fun _ _ step => { step with locked := subset step.locked }) fun _ => id
  workspaces := effect.workspaces
  jobs := effect.jobs

section

variable (effect : Effect timely label held before after)

include effect

variable {row : ImageRevision}

theorem revision {revisionId : UUID} (found : before.revisions.lookup revisionId = some row)
    (free : .revision revisionId ∉ held) : after.revisions.lookup revisionId = some row :=
  effect.revisions.lookup_kept found fun _ step => free (Table.key_of_lookup found ▸ step.locked)

theorem save {operationId : UUID} (found : before.saves.lookup operationId = some operation)
    (free : .save operationId ∉ held) : after.saves.lookup operationId = some operation :=
  effect.saves.lookup_kept found fun _ step => free (Table.key_of_lookup found ▸ step.locked)

theorem submission {submission : TrainingSubmission} {submissionId : UUID}
    (found : before.submissions.lookup submissionId = some submission)
    (free : .submission submissionId ∉ held) :
    after.submissions.lookup submissionId = some submission :=
  effect.submissions.lookup_kept found fun _ step => free (Table.key_of_lookup found ▸ step.locked)

theorem kept_revision {old : ImageRevision} (member : old ∈ before.revisions.rows) :
    ∃ row ∈ after.revisions.rows, row.id = old.id ∧ old.Kept row := by
  obtain ⟨row, row_mem, same, rfl | step⟩ := effect.revisions.exists_after member
  · exact ⟨row, row_mem, same, rfl, rfl, rfl, rfl⟩
  · exact ⟨row, row_mem, same, step.kept⟩

theorem ready_revision (member : row ∈ before.revisions.rows) (ready : row.state = .imageReady) :
    row ∈ after.revisions.rows := by
  obtain ⟨next, next_mem, -, rfl | step⟩ := effect.revisions.exists_after member
  · exact next_mem
  · rcases step.opened with queued | building
    · rw [queued] at ready
      cases ready
    · rw [building] at ready
      cases ready

theorem kept_submission {old : TrainingSubmission} (member : old ∈ before.submissions.rows) :
    ∃ submission ∈ after.submissions.rows, submission.id = old.id ∧
      submission.saveOperationId = old.saveOperationId := by
  obtain ⟨submission, submission_mem, same, rfl | step⟩ := effect.submissions.exists_after member
  · exact ⟨submission, submission_mem, same, rfl⟩
  · exact ⟨submission, submission_mem, same, step.operation⟩

theorem old_submission {submission : TrainingSubmission}
    (member : submission ∈ after.submissions.rows) (present : operation ∈ before.saves.rows)
    (owned : submission.saveOperationId = operation.id) :
    ∃ old ∈ before.submissions.rows, old.id = submission.id ∧
      old.saveOperationId = submission.saveOperationId := by
  rcases effect.submissions.exists_before member with old | ⟨new, -⟩ | ⟨old, old_mem, same, step⟩
  · exact ⟨submission, old, rfl, rfl⟩
  · exact absurd owned.symm (new.fresh operation present)
  · exact ⟨old, old_mem, same, step.operation.symm⟩

theorem kept_save {old : SaveOperation} (member : old ∈ before.saves.rows) :
    ∃ operation ∈ after.saves.rows, operation.id = old.id ∧ operation.purpose = old.purpose ∧
      ∀ revisionId, old.targetRevisionId = some revisionId →
        operation.targetRevisionId = some revisionId := by
  obtain ⟨operation, operation_mem, same, rfl | step⟩ := effect.saves.exists_after member
  · exact ⟨operation, operation_mem, same, rfl, fun _ target => target⟩
  · refine ⟨operation, operation_mem, same, step.purpose, fun revisionId target => ?_⟩
    rcases step.target with kept | ⟨unset, -⟩
    · rw [kept, target]
    · rw [unset] at target
      cases target

end

end Effect

/-- A save operation in the first state goes with a target in the second. -/
def SaveState.Publishes : SaveState → RevisionState → Prop
  | .publishQueued, .queued | .publishQueued, .building => True
  | .succeeded, .imageReady => True
  | .failed, .failed | .failed, .cancelled => True
  | _, _ => False

/-- The state of the submission of an operation. -/
def SaveState.submission : SaveState → SubmissionState
  | .succeeded => .jobCreated
  | .failed => .failed
  | _ => .saving

namespace Store

/-- The operation, its target, its submission and the jobs of its target agree. -/
structure Agrees (store : Store) (operation : SaveOperation) : Prop where
  unpublished : operation.targetRevisionId = none →
    operation.state.capture = true ∨ operation.state = .failed
  published : ∀ row ∈ store.revisions.rows, operation.targetRevisionId = some row.id →
    operation.state.Publishes row.state
  submitted : ∀ submission ∈ store.submissions.rows, submission.saveOperationId = operation.id →
    submission.state = operation.state.submission ∧
      (submission.jobId.isSome ↔ operation.state = .succeeded)
  jobs : ∀ jobId revisionId, operation.targetRevisionId = some revisionId →
    ((jobId, revisionId) ∈ workspaceJobs store.db ↔
      ∃ submission ∈ store.submissions.rows, submission.saveOperationId = operation.id ∧
        submission.jobId = some jobId)

/-- Operations agree with what they did not see change. -/
theorem Agrees.transfer {before after : Store} (agrees : before.Agrees operation)
    (rows : ∀ row ∈ after.revisions.rows, operation.targetRevisionId = some row.id →
      ∃ old ∈ before.revisions.rows, old.id = row.id ∧
        ∀ state : SaveState, state.Publishes old.state → state.Publishes row.state)
    (submissions : ∀ submission, submission.saveOperationId = operation.id →
      (submission ∈ after.submissions.rows ↔ submission ∈ before.submissions.rows))
    (jobs : ∀ jobId revisionId, operation.targetRevisionId = some revisionId →
      ((jobId, revisionId) ∈ workspaceJobs after.db ↔
        (jobId, revisionId) ∈ workspaceJobs before.db)) : after.Agrees operation where
  unpublished := agrees.unpublished
  published row member target := by
    obtain ⟨old, old_mem, same, publishes⟩ := rows row member target
    exact publishes _ (agrees.published old old_mem (target.trans (congrArg some same.symm)))
  submitted submission member owned :=
    agrees.submitted submission ((submissions submission owned).mp member) owned
  jobs jobId revisionId target := by
    rw [jobs jobId revisionId target, agrees.jobs jobId revisionId target]
    refine exists_congr fun submission => ?_
    constructor
    · rintro ⟨member, owned, job⟩
      exact ⟨(submissions submission owned).mpr member, owned, job⟩
    · rintro ⟨member, owned, job⟩
      exact ⟨(submissions submission owned).mp member, owned, job⟩

/-- What holds of every committed store.  The operations agree with their targets as long as the
watchdog has failed none that was past its capture. -/
structure Sound (timely : Prop) (store : Store) : Prop where
  nodup : store.attempts.Nodup
  minted : ∀ row ∈ store.revisions.rows, ∀ attemptId, row.attemptId = some attemptId →
    attemptId ∈ store.attempts
  valid : ∀ row ∈ store.revisions.rows, row.Valid
  origin : ∀ row ∈ store.revisions.rows,
    row.origin = .snapshot ↔ row.snapshotOperationId.isSome
  target : ∀ row ∈ store.revisions.rows, ∀ operationId,
    row.snapshotOperationId = some operationId →
      ∃ operation ∈ store.saves.rows, operation.id = operationId ∧
        operation.targetRevisionId = some row.id
  source : ∀ operation ∈ store.saves.rows, ∀ revisionId,
    operation.targetRevisionId = some revisionId →
      ∃ row ∈ store.revisions.rows, row.id = revisionId ∧
        row.snapshotOperationId = some operation.id
  capture : ∀ operation ∈ store.saves.rows, operation.state.capture = true →
    operation.targetRevisionId = none
  unique : store.submissions.Unique TrainingSubmission.saveOperationId
  operation : ∀ submission ∈ store.submissions.rows,
    ∃ operation ∈ store.saves.rows, operation.id = submission.saveOperationId
  train : ∀ operation ∈ store.saves.rows, operation.purpose = .train →
    ∃ submission ∈ store.submissions.rows, submission.saveOperationId = operation.id
  head : ∀ item ∈ store.workspaces.rows, ∀ revisionId, item.savedRevisionId = some revisionId →
    store.ReadyHead item.id revisionId
  jobs : ∀ job ∈ workspaceJobs store.db, ∃ row ∈ store.revisions.rows, row.id = job.2
  agrees : timely → ∀ operation ∈ store.saves.rows, store.Agrees operation

theorem Sound.effect {timely : Prop} {label : Label} {held : Set LockedRow} {before after : Store}
    (sound : before.Sound timely) (effect : Effect timely label held before after)
    (agrees : timely → ∀ operation ∈ after.saves.rows, after.Agrees operation) :
    after.Sound timely where
  nodup := effect.nodup sound.nodup
  minted row member attemptId minted := by
    rcases effect.revisions.origin member with new | ⟨old, old_mem, -, rfl | step⟩
    · rw [new.attemptId] at minted
      cases minted
    · exact effect.attempts (sound.minted row old_mem attemptId minted)
    · rcases step.attempt with ⟨kept | ended, -⟩ | ⟨other, fresh, -, recorded⟩
      · exact effect.attempts (sound.minted old old_mem attemptId (kept ▸ minted))
      · rw [ended] at minted
        cases minted
      · cases fresh.symm.trans minted
        exact recorded
  valid row member := by
    rcases effect.revisions.origin member with new | ⟨old, old_mem, -, rfl | step⟩
    · exact new.valid
    · exact sound.valid row old_mem
    · exact step.valid
  origin row member := by
    rcases effect.revisions.origin member with new | ⟨old, old_mem, -, rfl | step⟩
    · exact new.origin
    · exact sound.origin row old_mem
    · rw [step.kept.origin, step.kept.snapshotOperationId]
      exact sound.origin old old_mem
  target row member operationId owned := by
    rcases effect.revisions.origin member with new | ⟨old, old_mem, same, change⟩
    · exact new.target operationId owned
    · have old_owned : old.snapshotOperationId = some operationId := by
        rcases change with rfl | step
        · exact owned
        · exact step.kept.snapshotOperationId ▸ owned
      obtain ⟨operation, operation_mem, named, target⟩ := sound.target old old_mem _ old_owned
      obtain ⟨next, next_mem, next_same, -, targets⟩ := effect.kept_save operation_mem
      exact ⟨next, next_mem, next_same.trans named, targets _ (same ▸ target)⟩
  source operation member revisionId target := by
    have carry {old : SaveOperation} (old_mem : old ∈ before.saves.rows)
        (same : old.id = operation.id) (target : old.targetRevisionId = some revisionId) :
        ∃ row ∈ after.revisions.rows, row.id = revisionId ∧
          row.snapshotOperationId = some operation.id := by
      obtain ⟨row, row_mem, named, owned⟩ := sound.source old old_mem revisionId target
      obtain ⟨next, next_mem, next_same, kept⟩ := effect.kept_revision row_mem
      exact ⟨next, next_mem, next_same.trans named,
        kept.snapshotOperationId.trans (owned.trans (congrArg some same))⟩
    rcases effect.saves.exists_before member with old | ⟨new, -⟩ | ⟨old, old_mem, same, step⟩
    · exact carry old rfl target
    · rw [new.target] at target
      cases target
    · rcases step.target with kept | ⟨-, row, row_mem, set, owned⟩
      · exact carry old_mem same (kept ▸ target)
      · exact ⟨row, row_mem, Option.some.inj (set.symm.trans target),
          owned.trans (congrArg some same)⟩
  capture operation member capture := by
    rcases effect.saves.origin member with new | ⟨old, old_mem, -, rfl | step⟩
    · exact new.target
    · exact sound.capture operation old_mem capture
    · exact step.capture capture
  unique := by
    refine effect.submissions.unique sound.unique (fun _ _ step => step.operation) ?_
    intro submission new old old_mem same
    obtain ⟨operation, operation_mem, named⟩ := sound.operation old old_mem
    exact new.fresh operation operation_mem (named.trans same)
  operation submission member := by
    rcases effect.submissions.origin member with new | ⟨old, old_mem, -, change⟩
    · exact new.operation
    · have owned : old.saveOperationId = submission.saveOperationId := by
        rcases change with rfl | step
        · rfl
        · exact step.operation.symm
      obtain ⟨operation, operation_mem, named⟩ := sound.operation old old_mem
      obtain ⟨next, next_mem, same, -⟩ := effect.kept_save operation_mem
      exact ⟨next, next_mem, same.trans (named.trans owned)⟩
  train operation member purpose := by
    rcases effect.saves.origin member with new | ⟨old, old_mem, same, change⟩
    · exact new.train purpose
    · have old_purpose : old.purpose = .train := by
        rcases change with rfl | step
        · exact purpose
        · exact step.purpose ▸ purpose
      obtain ⟨submission, submission_mem, owned⟩ := sound.train old old_mem old_purpose
      obtain ⟨next, next_mem, -, kept⟩ := effect.kept_submission submission_mem
      exact ⟨next, next_mem, kept.trans (owned.trans same)⟩
  head item member revisionId saved := by
    have carry {old : InteractiveWorkspace} (old_mem : old ∈ before.workspaces.rows)
        (same : old.id = item.id) (saved : old.savedRevisionId = some revisionId) :
        after.ReadyHead item.id revisionId := by
      obtain ⟨row, row_mem, named, workspace, ready⟩ := sound.head old old_mem revisionId saved
      exact ⟨row, effect.ready_revision row_mem ready, named, workspace.trans same, ready⟩
    rcases effect.workspaces.exists_before member with old | ⟨new, -⟩ | ⟨old, old_mem, same, step⟩
    · exact carry old rfl saved
    · rw [new] at saved
      cases saved
    · rcases step with kept | ⟨attempt, -, set, ready⟩
      · exact carry old_mem same (kept ▸ saved)
      · cases set.symm.trans saved
        exact ready
  jobs job member := by
    rcases effect.jobs job member with old | new
    · obtain ⟨row, row_mem, named⟩ := sound.jobs job old
      obtain ⟨next, next_mem, same, -⟩ := effect.kept_revision row_mem
      exact ⟨next, next_mem, same.trans named⟩
    · exact new
  agrees := agrees

end Store

end TrainingScheduler.Workspaces
