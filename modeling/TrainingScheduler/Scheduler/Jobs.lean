import TrainingScheduler.Scheduler.Runs

/-!
# Public job operations

The job routes of `job_service.py` and the watchdog scans of `watchdog_service.py`.  Each operation
is a transaction at one instant; the part of it that computes the new row from the loaded one is a
definition of its own.
-/

namespace TrainingScheduler

/-- How a job operation fails: a rejected request, or a Python exception with its text. -/
inductive JobError where
  | http (exception : HTTPException)
  | raised (text : String)
  deriving DecidableEq, Repr

def JobStatus.value : JobStatus → String
  | .notRunnable => "NOT_RUNNABLE"
  | .imageReady => "IMAGE_READY"
  | .vramEstimationPending => "VRAM_ESTIMATION_PENDING"
  | .runnable => "RUNNABLE"
  | .inProgress => "IN_PROGRESS"
  | .imageBuilding => "IMAGE_BUILDING"
  | .completed => "COMPLETED"
  | .failed => "FAILED"
  | .retryNeeded => "RETRY_NEEDED"

variable (now : Time) (db : Db) (jobId : UUID)

def Db.writeJob (written : Job) : Db :=
  db.modifyJob jobId (fun row => { written with id := row.id }) fun _ => rfl

/-- Load a job, compute its new row, and commit it. -/
def updateJob (compute : Job → Except JobError Job) : Except JobError Db :=
  match db.jobs.lookup jobId with
  | none => .error (.raised "Job not found")
  | some job => (compute job).map (db.writeJob jobId)

def elapsedHours (startedAt : Time) : ℚ := max (now - startedAt) 0 / 3600

/-- The GPU hours of a job that stops running now. -/
def chargeGpu (job : Job) : Job :=
  { job with gpuHour := (job.startedAt.map (elapsedHours now)) <|> job.gpuHour }

structure NewJob where
  id : UUID
  userId : UUID
  sourceKind : Option SourceKind := none
  objectKey : Option String := none
  command : Option String := none
  resumeCommand : Option String := none
  vramRequired : Option ℚ := none
  priority : JobPriority := .normal
  reasonForPriority : Option String := none
  deriving DecidableEq, Repr

/-- The row of a submission. -/
def NewJob.row (data : NewJob) (now : Time) : Job where
  id := data.id
  userId := data.userId
  objectKey := data.objectKey
  sourceKind := data.sourceKind.getD .archive
  command := data.command
  resumeCommand := data.resumeCommand
  vramRequired := data.vramRequired
  priority := data.priority
  reasonForPriority := data.reasonForPriority
  status := .notRunnable
  createdAt := now

/-- The object key of a row is already in use. -/
def objectKeyTaken (row : Job) : Bool :=
  row.objectKey.isSome && db.jobs.rows.any fun other => other.objectKey == row.objectKey

def createJob (data : NewJob) : Except JobError Db :=
  let row := data.row now
  if row.sourceKind = .archive ∧ presentKey row.objectKey = none then
    .error (.raised "ARCHIVE jobs require an object_key")
  else if row.sourceKind = .packagesOnly ∧ presentKey row.objectKey ≠ none then
    .error (.raised "PACKAGES_ONLY jobs must not have an object_key")
  else if objectKeyTaken db row then .error (.http ⟨500, "Internal Server Error"⟩)
  else
    match db.jobs.insert row with
    | none => .error (.http ⟨500, "Internal Server Error"⟩)
    | some jobs => .ok { db with jobs }

def buildable (builderId : String) (job : Job) : Bool :=
  job.status == .notRunnable &&
    (job.imageBuildExcludedBuilderId.all (fun excluded => excluded != builderId) ||
      job.imageBuildExcludedUntil.all fun excludedUntil => decide (excludedUntil ≤ now))

def startBuild (builderId : String) (attemptId : UUID) (job : Job) : Job :=
  { job with
    status := .imageBuilding
    imageBuilderId := some builderId
    imageBuildAttemptId := some attemptId
    imageBuildStartedAt := some now
    imageBuildExcludedBuilderId := none
    imageBuildExcludedUntil := none
    imageTag := none }

/-- `claim_job_for_building`; a collision of the minted attempt violates a uniqueness constraint. -/
def claimJobForBuilding (builderId : String) (attemptId : UUID) :
    Except JobError (Option JobPayload × Db) :=
  match firstBy (fun left right => decide (left.createdAt < right.createdAt))
      (db.jobs.rows.filter (buildable now builderId)) with
  | none => .ok (none, db)
  | some job =>
    if db.jobs.rows.any fun other => other.imageBuildAttemptId == some attemptId then
      .error (.http ⟨500, "Internal Server Error"⟩)
    else
      .ok (some (formatJobResponse (startBuild now builderId attemptId job) "image_building"),
        db.modifyJob job.id (startBuild now builderId attemptId) fun _ => rfl)

/-- `_require_image_build_owner`. -/
def requireImageBuildOwner (job : Job) (builderId : Option String) (attemptId : Option UUID) :
    Except JobError Unit :=
  if presentKey builderId = none ∨ attemptId = none then
    .error (.raised "Image builder ID and build attempt ID are required")
  else if job.imageBuilderId ≠ builderId ∨ job.imageBuildAttemptId ≠ attemptId then
    .error (.raised "Stale or unowned image build attempt")
  else .ok ()

/-- `_clear_image_build_lease`. -/
def clearImageBuildLease (job : Job) : Job :=
  { job with imageBuilderId := none, imageBuildAttemptId := none, imageBuildStartedAt := none }

/-- The job carries an entry command that arms it for training once its image is built. -/
def armed (job : Job) : Bool :=
  (presentKey job.command).isSome && job.sourceKind != .packagesOnly

/-- The row of a job whose image is built.  A package-only job loses its command. -/
def imageReady (imageTag : Option String) (job : Job) : Job :=
  clearImageBuildLease
    { job with
      command :=
        if job.sourceKind = .packagesOnly ∧ presentKey job.command ≠ none then none
        else job.command
      status := if armed job then .vramEstimationPending else .imageReady
      imageTag := imageTag <|> job.imageTag }

/-- The row of `set_job_image_ready`. -/
def readyRow (builderId : Option String) (attemptId : Option UUID) (imageTag : Option String)
    (job : Job) : Except JobError Job :=
  if job.status ≠ .imageBuilding then .error (.raised "Job is not in IMAGE_BUILDING state")
  else if builderId.isSome ∨ attemptId.isSome then
    (requireImageBuildOwner job builderId attemptId).map fun _ => imageReady imageTag job
  else .ok (imageReady imageTag job)

/-- The row of `release_job_to_not_runnable`. -/
def releasedRow (builderId : String) (attemptId : UUID) (job : Job) : Except JobError Job :=
  if job.status ≠ .imageBuilding then
    .error (.raised ("Job is not in IMAGE_BUILDING state (current: " ++ job.status.value ++ ")"))
  else
    (requireImageBuildOwner job (some builderId) (some attemptId)).map fun _ =>
      clearImageBuildLease { job with status := .notRunnable }

/-- `set_job_image_ready`. -/
def setJobImageReady (builderId : Option String) (attemptId : Option UUID)
    (imageTag : Option String) : Except JobError Db :=
  updateJob db jobId (readyRow builderId attemptId imageTag)

/-- `release_job_to_not_runnable`. -/
def releaseJobToNotRunnable (builderId : String) (attemptId : UUID) : Except JobError Db :=
  updateJob db jobId (releasedRow builderId attemptId)

/-- Seconds without a heartbeat after which an image build is given to another builder. -/
def imageBuildHeartbeatTimeout : ℚ := 45

/-- The update of `_requeue_stalled_image_builds`, for the attempt that was inspected. -/
def requeueImageBuild (attemptId : Option UUID) : Db :=
  db.modifyJob jobId
    (fun job =>
      if job.status = .imageBuilding ∧ job.imageBuildAttemptId = attemptId then
        clearImageBuildLease
          { job with
            status := .notRunnable
            imageBuildExcludedBuilderId := job.imageBuilderId
            imageBuildExcludedUntil := some (now + imageBuildHeartbeatTimeout) }
      else job)
    fun job => by split_ifs <;> rfl

def packageOnlyTrainingMessage : String :=
  "This image has no workspace files and is interactive-only. Open it as an " ++
    "interactive workspace, add and save files, then submit the saved workspace " ++
    "for training."

structure TrainingSubmission where
  command : String
  resumeCommand : Option String := none
  priority : Option JobPriority := none
  reasonForPriority : Option String := none
  deriving DecidableEq, Repr

/-- The row of a job armed with an entry command. -/
def armJob (submission : TrainingSubmission) (job : Job) : Job :=
  { job with
    command := some submission.command
    resumeCommand := presentKey submission.resumeCommand
    priority := submission.priority.getD job.priority
    reasonForPriority := presentKey submission.reasonForPriority
    vramRequired := none
    ramRequired := none
    stepTime := none
    failureReason := none
    status := .vramEstimationPending }

def submitTraining (userId jobId : UUID) (submission : TrainingSubmission) : Except JobError Db :=
  match (db.jobs.lookup jobId).filter fun job => job.userId == userId with
  | none => .error (.http ⟨404, "Job not found"⟩)
  | some job =>
    if job.sourceKind = .packagesOnly then .error (.http ⟨409, packageOnlyTrainingMessage⟩)
    else if job.status = .imageBuilding ∨ job.status = .notRunnable then
      .error (.http ⟨409, "Job image is still building; wait for it to be ready"⟩)
    else if job.status ≠ .imageReady ∨ presentKey job.imageTag = none then
      .error (.http ⟨409,
        "Job is not awaiting a training command (status " ++ job.status.value ++ ")"⟩)
    else .ok (db.writeJob jobId (armJob submission job))

inductive FailureType where
  | user
  | system
  deriving DecidableEq, Repr

def terminalStatuses : List JobStatus := [.completed, .failed, .retryNeeded]

/-- Statuses in which the watchdog takes a job to be on a Worker. -/
def runningStatuses : List JobStatus := [.inProgress, .vramEstimationPending]

/-- A callback that writes the status of a job outside the fenced assignment routes. -/
inductive Callback where
  | setJobRunnable
  | saveVramEstimation (vramRequired ramRequired stepTime : ℚ)
  | setToCompleted
  | markJobFailed (failureType : FailureType) (failureReason : Option String)
      (builderId : Option String) (attemptId : Option UUID)
  | markRetryNeeded
  deriving DecidableEq, Repr

def failJob (failureType : FailureType) (failureReason : Option String) (job : Job) : Job :=
  let failed : Job :=
    { job with
      status := if failureType = .user then .failed else .retryNeeded
      failureReason := ((presentKey failureReason).map fun text => (text.take 2000).toString) <|>
        job.failureReason }
  clearImageBuildLease (if job.status = .inProgress then chargeGpu now failed else failed)

def stallDetail : String := "Worker did not send a heartbeat for 180 seconds"

/-- The row a callback computes.  The watchdog skips a job that is not running. -/
def Callback.compute (job : Job) : Callback → Except JobError Job
  | .setJobRunnable =>
    if job.status ≠ .vramEstimationPending then
      .error (.raised "Job is not in VRAM_ESTIMATION_PENDING state")
    else .ok { job with status := .runnable }
  | .saveVramEstimation vramRequired ramRequired stepTime =>
    .ok { job with
      vramRequired := some vramRequired
      ramRequired := some ramRequired
      stepTime := some stepTime
      status := .runnable }
  | .setToCompleted =>
    if job.status ≠ .inProgress then .error (.raised "Job is not in IN_PROGRESS state")
    else .ok (chargeGpu now { job with status := .completed })
  | .markJobFailed failureType failureReason builderId attemptId =>
    if job.status ∈ terminalStatuses then
      .error (.raised ("Job is already in terminal state " ++ job.status.value))
    else if job.status = .imageBuilding then
      (requireImageBuildOwner job builderId attemptId).map fun _ =>
        failJob now failureType failureReason job
    else .ok (failJob now failureType failureReason job)
  | .markRetryNeeded =>
    if job.status ∈ runningStatuses then
      .ok (chargeGpu now
        { job with
          status := .retryNeeded
          device := none
          failureReason := presentKey job.failureReason <|> some stallDetail })
    else .ok job

/-- Some assignment, released or not, was made for the job. -/
def managed : Bool :=
  db.assignments.rows.any fun assignment => assignment.jobId == some jobId

/-- `_reject_managed_job`. -/
def managedJobException : HTTPException :=
  ⟨409, "Assignment-managed jobs require authenticated fenced results"⟩

/-- The callback as one transaction.  The watchdog passes over managed and missing jobs. -/
def Callback.run (callback : Callback) : Except JobError Db :=
  if callback = .markRetryNeeded ∧ (managed db jobId ∨ db.jobs.lookup jobId = none) then .ok db
  else if managed db jobId then .error (.http managedJobException)
  else updateJob db jobId fun job => callback.compute now job

/-- A public job operation. -/
inductive JobOp where
  | create (data : NewJob)
  | claimForBuilding (builderId : String) (attemptId : UUID)
  | releaseBuild (jobId : UUID) (builderId : String) (attemptId : UUID)
  | requeueBuild (jobId : UUID) (attemptId : Option UUID)
  | imageReady (jobId : UUID) (builderId : Option String) (attemptId : Option UUID)
      (imageTag : Option String)
  | submitTraining (userId jobId : UUID) (submission : TrainingSubmission)
  | callback (jobId : UUID) (legacy : Callback)

/-- A failed operation commits nothing. -/
def JobOp.apply : JobOp → Except JobError Db
  | create data => createJob now db data
  | claimForBuilding builderId attemptId =>
    (claimJobForBuilding now db builderId attemptId).map Prod.snd
  | releaseBuild jobId builderId attemptId =>
    releaseJobToNotRunnable db jobId builderId attemptId
  | requeueBuild jobId attemptId => .ok (requeueImageBuild now db jobId attemptId)
  | imageReady jobId builderId attemptId imageTag =>
    setJobImageReady db jobId builderId attemptId imageTag
  | submitTraining userId jobId submission =>
    TrainingScheduler.submitTraining db userId jobId submission
  | callback jobId legacy => legacy.run now db jobId

end TrainingScheduler
