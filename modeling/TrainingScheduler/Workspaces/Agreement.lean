import TrainingScheduler.Workspaces.Heads

/-!
# Agreement of saves, revisions, submissions and jobs

A save operation ends with its revision, its submission and the job of that.  The watchdog of
captures is the one session that writes an operation which it has not locked: what it read may be
over when it commits.  As long as that does not happen, the four tables agree.
-/

namespace TrainingScheduler.Workspaces

open Workspaces.Request

variable {timely : Prop} {label : Label} {held : Set LockedRow} {store before after : Store}

instance (store : Store) (label : Label) : Decidable (label.Timely store) :=
  match label with
  | .reconcile operations => inferInstanceAs (Decidable (∀ operation ∈ store.saves.rows,
      operation.id ∈ operations → operation.state.capture = true))
  | .ready _ _ | .failure _ | .heartbeat _ _ | .other => .isTrue trivial

private theorem failed_of_steps (now : timely)
    (steps : Relation.ReflTransGen (Step timely label held) before after) {operationId : UUID}
    (failed : ∃ operation, before.saves.lookup operationId = some operation ∧
      operation.state = .failed) :
    ∃ operation, after.saves.lookup operationId = some operation ∧ operation.state = .failed := by
  induction steps with
  | refl => exact failed
  | tail _ step induction =>
    obtain ⟨operation, found, ended⟩ := induction
    obtain ⟨next, next_found, rfl | rewritten⟩ := step.2.saves.lookup_eq_some found
    · exact ⟨next, next_found, ended⟩
    · exact ⟨next, next_found, rewritten.failed now ended⟩

namespace Store

variable {operation : SaveOperation}

theorem Sound.succeeded_iff (sound : store.Sound timely) (now : timely)
    (member : operation ∈ store.saves.rows) :
    operation.state = .succeeded ↔ ∃ row ∈ store.revisions.rows,
      operation.targetRevisionId = some row.id ∧ row.state = .imageReady := by
  have agrees := sound.agrees now operation member
  constructor
  · intro succeeded
    cases target : operation.targetRevisionId with
    | none =>
      have unpublished := agrees.unpublished target
      rw [succeeded] at unpublished
      simp [SaveState.capture] at unpublished
    | some revisionId =>
      obtain ⟨row, row_mem, rfl, -⟩ := sound.source operation member revisionId target
      have published := agrees.published row row_mem target
      rw [succeeded] at published
      refine ⟨row, row_mem, rfl, ?_⟩
      cases state : row.state <;> simp [state, SaveState.Publishes] at published ⊢
  · rintro ⟨row, row_mem, target, ready⟩
    have published := agrees.published row row_mem target
    rw [ready] at published
    cases state : operation.state <;> simp [state, SaveState.Publishes] at published ⊢

theorem Sound.failed_of_target (sound : store.Sound timely) (now : timely)
    (member : operation ∈ store.saves.rows) {row : ImageRevision}
    (row_mem : row ∈ store.revisions.rows) (target : operation.targetRevisionId = some row.id)
    (ended : row.state = .failed ∨ row.state = .cancelled) : operation.state = .failed := by
  have published := (sound.agrees now operation member).published row row_mem target
  rcases ended with failed | cancelled
  · rw [failed] at published
    cases state : operation.state <;> simp [state, SaveState.Publishes] at published ⊢
  · rw [cancelled] at published
    cases state : operation.state <;> simp [state, SaveState.Publishes] at published ⊢

variable {submission : TrainingSubmission}

theorem Sound.job_iff (sound : store.Sound timely) (now : timely)
    (member : submission ∈ store.submissions.rows) :
    submission.jobId.isSome ↔ submission.state = .jobCreated := by
  obtain ⟨operation, operation_mem, named⟩ := sound.operation submission member
  obtain ⟨state, created⟩ :=
    (sound.agrees now operation operation_mem).submitted submission member named.symm
  rw [created, state]
  cases operation.state <;> simp [SaveState.submission]

theorem Sound.mem_workspaceJobs_iff (sound : store.Sound timely) (now : timely)
    (member : operation ∈ store.saves.rows) (submission_mem : submission ∈ store.submissions.rows)
    (owned : submission.saveOperationId = operation.id) {revisionId : UUID}
    (target : operation.targetRevisionId = some revisionId) (jobId : UUID) :
    (jobId, revisionId) ∈ workspaceJobs store.db ↔ submission.jobId = some jobId := by
  rw [(sound.agrees now operation member).jobs jobId revisionId target]
  constructor
  · rintro ⟨other, other_mem, other_owned, created⟩
    have same : other = submission :=
      sound.unique other other_mem submission submission_mem (other_owned.trans owned.symm)
    exact same ▸ created
  · exact fun created => ⟨submission, submission_mem, owned, created⟩

end Store

/-- In every interleaving in which the watchdog fails only operations that are still to be captured,
the outcomes of an operation, its target, its submission and the one job of that agree, and a failed
operation stays failed. -/
theorem saves_agree (digest : EditorDigest) (db : Db) (clock : Time)
    (unused : workspaceJobs db = []) {pool later : WorkspacePool}
    (run : Interleaving (script digest) (fun label store => label.Timely store)
      { store := .initial db clock } pool)
    (onward : Interleaving (script digest) (fun label store => label.Timely store) pool
      later) :
    (∀ operationId operation, pool.store.saves.lookup operationId = some operation →
      operation.state = .failed →
        ∃ next, later.store.saves.lookup operationId = some next ∧ next.state = .failed) ∧
    (∀ operation ∈ pool.store.saves.rows,
      (operation.state = .succeeded ↔ ∃ row ∈ pool.store.revisions.rows,
        operation.targetRevisionId = some row.id ∧ row.state = .imageReady) ∧
      ∀ row ∈ pool.store.revisions.rows, operation.targetRevisionId = some row.id →
        row.state = .failed ∨ row.state = .cancelled → operation.state = .failed) ∧
    ∀ submission ∈ pool.store.submissions.rows,
      (submission.jobId.isSome ↔ submission.state = .jobCreated) ∧
      ∃ operation ∈ pool.store.saves.rows, operation.id = submission.saveOperationId ∧
        (submission.jobId.isSome → operation.targetRevisionId.isSome) ∧
        ∀ revisionId, operation.targetRevisionId = some revisionId → ∀ jobId,
          (jobId, revisionId) ∈ workspaceJobs pool.store.db ↔ submission.jobId = some jobId := by
  have verified : pool.Verified (workspaceContract True) :=
    verified_of_run unused (fun _ _ met _ => met) run
  have sound : pool.store.Sound True := verified.invariant
  refine ⟨?_, ?_, ?_⟩
  · intro operationId operation found failed
    refine stays (fun _ _ met _ => met) verified onward
      (fun store => ∃ operation, store.saves.lookup operationId = some operation ∧
        operation.state = .failed) ?_ ⟨operation, found, failed⟩
    intro label held before after _ _ steps
    exact failed_of_steps trivial steps
  · intro operation member
    exact ⟨sound.succeeded_iff trivial member,
      fun row row_mem target ended => sound.failed_of_target trivial member row_mem target ended⟩
  · intro submission member
    obtain ⟨operation, operation_mem, named⟩ := sound.operation submission member
    refine ⟨sound.job_iff trivial member, operation, operation_mem, named, fun created => ?_,
      fun revisionId target jobId =>
        sound.mem_workspaceJobs_iff trivial operation_mem member named.symm target jobId⟩
    have succeeded := ((sound.agrees trivial operation operation_mem).submitted submission member
      named.symm).2.mp created
    obtain ⟨row, -, target, -⟩ := (sound.succeeded_iff trivial operation_mem).mp succeeded
    rw [target]
    rfl

namespace Deployment

def training : TrainingSettings where
  command := "python train.py"

/-- The first session saves its workspace, and the capture begins. -/
def captured : List (Choice Request) :=
  opened ++ serve 4 8 (.save editor 41 1 71 "save" (saveBody 1)) ++
    serve 5 4 (.capability (snapshotFence 1) 300)

/-- The database while the second session runs, four hours later. -/
def laterSession : Db :=
  { session 2 with
    runtimes := ⟨[{ runtime 2 with healthAt := some 14401 }], List.nodup_singleton _⟩ }

/-- The watchdog fails the save of the first session.  The second session submits its workspace for
training, and the snapshot is published. -/
def trained : List (Choice Request) :=
  captured ++ serve 6 2 (.external laterSession 14401) ++ serve 7 8 .reconcileStale ++
    serve 8 12 (.submission editor 52 42 1 72 "train" (saveBody 2) training) ++
    serve 9 4 (.capability (snapshotFence 2) 300) ++
    serve 10 5 (.complete (snapshotFence 2) sha256 1 62) ++
    serve 11 8 (.claim "first" 105 106 107 108) ++
    serve 12 9 (.ready (published 62 "first" 105) 201)

/-- The states of the operations, the submissions with their jobs, and the jobs of revisions. -/
structure Outcome where
  operations : List SaveState
  submissions : List (SubmissionState × Option UUID)
  jobs : List (UUID × UUID)
  deriving DecidableEq

def outcomeOf (store : Store) : Outcome where
  operations := store.saves.rows.map SaveOperation.state
  submissions := store.submissions.rows.map fun submission => (submission.state, submission.jobId)
  jobs := workspaceJobs store.db

/-- The report is delivered twice, and there is one job. -/
theorem submission_trained_once :
    ∃ pool later,
      Interleaving (script digest) (fun label store => label.Timely store) opening pool ∧
      Interleaving (script digest) (fun label store => label.Timely store) pool later ∧
      outcomeOf later.store = ⟨[.failed, .succeeded], [(.jobCreated, some 201)], [(201, 62)]⟩ ∧
      ∀ submission ∈ pool.store.submissions.rows,
        submission.jobId.isSome ↔ submission.state = .jobCreated := by
  have outcome : ((opening.performAll (script digest)
      (fun label store => decide (label.Timely store)) trained).bind
        fun pool => (pool.performAll (script digest)
          (fun label store => decide (label.Timely store))
          (serve 13 2 (.ready (published 62 "first" 105) 202))).map fun later =>
            outcomeOf later.store) =
      some ⟨[.failed, .succeeded], [(.jobCreated, some 201)], [(201, 62)]⟩ := by
    decide +kernel
  obtain ⟨pool, later, run, onward, values⟩ := interleavings_of_performAll
    (fun _ _ => of_decide_eq_true) (fun _ _ => of_decide_eq_true) outcome
  have agree := saves_agree digest _ 0 (by decide +kernel) run onward
  exact ⟨pool, later, run, onward, values, fun submission member => (agree.2.2 submission member).1⟩

/-- The watchdog reads an operation that is being captured for four hours.  The capture is completed
before the watchdog goes on and fails the operation. -/
def overlooked : List (Choice Request) :=
  captured ++ serve 6 2 (.external (session 1) 14401) ++ serve 7 2 .reconcileStale ++
    serve 8 5 (.complete (snapshotFence 1) sha256 1 62) ++ List.replicate 6 (.step 7)

/-- The failed operation succeeds when its snapshot is published. -/
theorem failed_save_succeeds :
    ∃ pool later, Interleaving (script digest) (fun _ _ => True) opening pool ∧
      Interleaving (script digest) (fun _ _ => True) pool later ∧
      outcomeOf pool.store = ⟨[.failed], [], []⟩ ∧
      outcomeOf later.store = ⟨[.succeeded], [], []⟩ := by
  have outcome : ((opening.performAll (script digest) (fun _ _ => true) overlooked).bind
      fun pool => (pool.performAll (script digest) (fun _ _ => true)
        (serve 9 8 (.claim "first" 105 106 107 108) ++
          serve 10 9 (.ready (published 62 "first" 105) 201))).map fun later =>
            (outcomeOf pool.store, outcomeOf later.store)) =
      some (⟨[.failed], [], []⟩, ⟨[.succeeded], [], []⟩) := by
    decide +kernel
  obtain ⟨pool, later, run, onward, values⟩ :=
    interleavings_of_performAll (fun _ _ _ => trivial) (fun _ _ _ => trivial) outcome
  simp only [Prod.mk.injEq] at values
  exact ⟨pool, later, run, onward, values⟩

end Deployment

end TrainingScheduler.Workspaces
