import TrainingScheduler.Sessions
import TrainingScheduler.Scheduler.Runtimes
import TrainingScheduler.Scheduler.Jobs

/-!
# Interactive workspaces and their image revisions

The rows of `interactive_workspace_model.py`: workspaces, image revisions, save operations and
training submissions, with the constraints and triggers of their tables.  They stand beside the
tables of the scheduler, whose jobs, runtimes and assignments they refer to.
-/

namespace TrainingScheduler.Workspaces

/-- Where the first image of a workspace comes from, or a snapshot of a running one. -/
inductive Origin where
  | upload
  | existingJob
  | snapshot
  deriving DecidableEq, Repr

/-- A row of `interactive_workspaces`. -/
structure InteractiveWorkspace where
  id : UUID
  ownerUserId : UUID
  sourceJobId : Option UUID := none
  currentRevisionId : Option UUID := none
  savedRevisionId : Option UUID := none
  requestKey : String
  requestHash : Hash
  defaultResourceRequirements : Option Requirements := none
  createdAt : Time := 0
  deriving DecidableEq, Repr

/-- A row of `interactive_image_revisions`. -/
structure ImageRevision where
  id : UUID
  workspaceId : UUID
  revisionNumber : ℕ := 1
  origin : Origin
  sourceImageTag : Option String := none
  state : RevisionState := .queued
  imageTag : Option String := none
  imageDigestRef : Option String := none
  resolvedBaseDigest : Option String := none
  failureType : Option FailureType := none
  failureReason : Option String := none
  builderId : Option String := none
  attemptId : Option UUID := none
  startedAt : Option Time := none
  leaseUntil : Option Time := none
  excludedBuilderId : Option String := none
  excludedUntil : Option Time := none
  attemptCount : ℕ := 0
  parentRevisionId : Option UUID := none
  snapshotOperationId : Option UUID := none
  developerProfile : Option String := none
  sshProfile : Option String := none
  createdAt : Time := 0
  deriving DecidableEq, Repr

inductive SavePurpose where
  | save
  | train
  deriving DecidableEq, Repr

inductive SaveState where
  | requested
  | capturing
  | uploading
  | publishQueued
  | publishing
  | succeeded
  | failed
  | cancelled
  deriving DecidableEq, Repr

/-- A row of `workspace_save_operations`. -/
structure SaveOperation where
  id : UUID
  ownerUserId : UUID
  workspaceId : UUID
  runtimeId : UUID
  generation : ℕ
  assignmentId : Option UUID
  parentRevisionId : UUID
  purpose : SavePurpose
  requestKey : String
  requestHash : Hash
  state : SaveState := .requested
  captureAttemptId : Option UUID := none
  artifactSha256 : Option String := none
  artifactSize : Option ℕ := none
  targetRevisionId : Option UUID := none
  failureCode : Option String := none
  failureDetail : Option String := none
  createdAt : Time := 0
  deriving DecidableEq, Repr

inductive SubmissionState where
  | saving
  | jobCreated
  | failed
  deriving DecidableEq, Repr

/-- What the owner wants to train. -/
structure TrainingSettings where
  command : String
  resumeCommand : Option String := none
  priority : JobPriority := .normal
  reasonForPriority : Option String := none
  deriving DecidableEq, Repr

/-- A row of `workspace_training_submissions`. -/
structure TrainingSubmission where
  id : UUID
  ownerUserId : UUID
  workspaceId : UUID
  runtimeId : UUID
  generation : ℕ
  saveOperationId : UUID
  requestKey : String
  requestHash : Hash
  settings : TrainingSettings
  state : SubmissionState := .saving
  jobId : Option UUID := none
  failureCode : Option String := none
  failureDetail : Option String := none
  deriving DecidableEq, Repr

/-- The committed tables, the clock and the build attempts minted so far. -/
structure Store where
  db : Db
  workspaces : Table InteractiveWorkspace.id
  revisions : Table ImageRevision.id
  saves : Table SaveOperation.id
  submissions : Table TrainingSubmission.id
  clock : Time
  attempts : List UUID := []

/-- A row that a session may lock. -/
inductive LockedRow where
  | user (id : UUID)
  | job (id : UUID)
  | runtime (id : UUID)
  | workspace (id : UUID)
  | revision (id : UUID)
  | save (id : UUID)
  | submission (id : UUID)
  deriving DecidableEq, Repr

/-- What a callback of a builder carries. -/
structure BuildAttempt where
  revisionId : UUID
  builderId : String
  attemptId : UUID
  deriving DecidableEq, Repr

/-- The request that a commit serves.  The commit of `mark_ready` says whether it sets
`saved_revision_id`, and the one of `reconcile_stale` which operations it fails. -/
inductive Label where
  | ready (attempt : BuildAttempt) (advances : Bool)
  | failure (attempt : BuildAttempt)
  | heartbeat (builderId : String) (active : List (UUID × UUID))
  | reconcile (operations : List UUID)
  | other
  deriving DecidableEq, Repr

inductive Reply where
  | ok
  | workspace (id : UUID)
  | runtime (runtime : Runtime)
  | claimed (work : Option (UUID × UUID))
  | cancelled (active : List (UUID × UUID))
  | count (changed : ℕ)
  | save (operation : SaveOperation)
  | submission (submission : TrainingSubmission)
  | capability (operationId : UUID)
  | state (state : SaveState)
  | target (revisionId : UUID)
  | rejected (exception : HTTPException)
  deriving DecidableEq, Repr

abbrev WorkspaceScript := Script Store LockedRow Label Reply

/-- The answer to an exception that no handler expects. -/
def internalServerError : HTTPException := ⟨500, "Internal Server Error"⟩

/-- The jobs that were created for a revision, with that revision. -/
def workspaceJobs (db : Db) : List (UUID × UUID) :=
  db.jobs.rows.filterMap fun job => job.sourceRevisionId.map fun revisionId => (job.id, revisionId)

namespace Store

variable (store : Store)

/-- The newest revision of a workspace. -/
def latestRevision (workspaceId : UUID) : Option ImageRevision :=
  firstBy (fun left right => decide (right.revisionNumber < left.revisionNumber))
    (store.revisions.rows.filter fun row => row.workspaceId == workspaceId)

def submissionOf (operationId : UUID) : Option TrainingSubmission :=
  store.submissions.rows.find? fun row => row.saveOperationId == operationId

/-- `UPDATE` of one revision.  A trigger rejects every change of a ready one. -/
def updateRevision (revisionId : UUID) (f : ImageRevision → ImageRevision) : Option Store :=
  match store.revisions.lookup revisionId with
  | none => some store
  | some row =>
    if row.state = .imageReady ∧ f row ≠ row then none
    else some { store with revisions := store.revisions.replace { f row with id := row.id } }

/-- `UPDATE` of one save operation. -/
def updateSave (operationId : UUID) (f : SaveOperation → SaveOperation) : Store :=
  match store.saves.lookup operationId with
  | none => store
  | some row => { store with saves := store.saves.replace { f row with id := row.id } }

/-- `UPDATE` of one submission. -/
def updateSubmission (submissionId : UUID) (f : TrainingSubmission → TrainingSubmission) : Store :=
  match store.submissions.lookup submissionId with
  | none => store
  | some row => { store with submissions := store.submissions.replace { f row with id := row.id } }

def updateWorkspace (workspaceId : UUID) (f : InteractiveWorkspace → InteractiveWorkspace) :
    Store :=
  match store.workspaces.lookup workspaceId with
  | none => store
  | some row => { store with workspaces := store.workspaces.replace { f row with id := row.id } }

end Store

end TrainingScheduler.Workspaces
