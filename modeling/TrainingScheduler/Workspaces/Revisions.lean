import TrainingScheduler.Workspaces.Schema

/-!
# Image builds of workspaces

`interactive_workspace_service.py` as database sessions: the creation of a workspace, the leases of
its image builds, and the callbacks of the builders.
-/

namespace TrainingScheduler.Workspaces

/-- Seconds that a build lease lasts. -/
def leaseSeconds : ℚ := 45

def maxAttempts : ℕ := 3

def imageJobStates : List JobStatus :=
  [.imageReady, .vramEstimationPending, .runnable, .inProgress, .completed, .failed, .retryNeeded]

/-- `PUBLIC_FAILURES`. -/
def publicFailure : FailureType → String
  | .user => "Workload build failed. Check the archive, dependencies and source image."
  | .system => "Build infrastructure unavailable; retry limit reached."

/-- The source of a new workspace.  An upload carries what became of its parts. -/
inductive Source where
  | upload (stored : Except HTTPException Unit)
  | existingJob (jobId : UUID)

/-- A request to create a workspace, with the hash of its content and the identifiers it mints. -/
structure Creation where
  owner : UUID
  key : String
  requestHash : Hash
  workspaceId : UUID
  revisionId : UUID
  requirements : Option Requirements := none

namespace Creation

def workspace (body : Creation) (sourceJobId : Option UUID) (now : Time) :
    InteractiveWorkspace where
  id := body.workspaceId
  ownerUserId := body.owner
  sourceJobId := sourceJobId
  requestKey := body.key
  requestHash := body.requestHash
  defaultResourceRequirements := body.requirements
  createdAt := now

def revision (body : Creation) (origin : Origin) (sourceImageTag : Option String) (now : Time) :
    ImageRevision where
  id := body.revisionId
  workspaceId := body.workspaceId
  origin := origin
  sourceImageTag := sourceImageTag
  createdAt := now

/-- The earlier request of this owner under this key. -/
def existing (body : Creation) (store : Store) : Option InteractiveWorkspace :=
  store.workspaces.rows.find? fun row => row.ownerUserId == body.owner && row.requestKey == body.key

/-- Insert the workspace and its first revision; the owner's keys are unique. -/
def insert (body : Creation) (origin : Origin) (sourceJobId : Option UUID)
    (sourceImageTag : Option String) (store : Store) : Option Store :=
  if (body.existing store).isSome then none
  else do
    let workspaces ← store.workspaces.insert (body.workspace sourceJobId store.clock)
    let revisions ← store.revisions.insert (body.revision origin sourceImageTag store.clock)
    some { store with workspaces, revisions }

/-- The insert, and the answer to a request that lost a race. -/
def commit (body : Creation) (origin : Origin) (sourceJobId : Option UUID)
    (sourceImageTag : Option String) : WorkspaceScript :=
  .commit .other (body.insert origin sourceJobId sourceImageTag) fun committed =>
    if committed then .done (.workspace body.workspaceId)
    else
      .select fun store =>
        match (body.existing store).filter fun row => row.requestHash == body.requestHash with
        | none => .done (.rejected ⟨409, "Conflicting request"⟩)
        | some row => .done (.workspace row.id)

end Creation

/-- `create`. -/
def create (body : Creation) (source : Source) : WorkspaceScript :=
  .await (.user body.owner) fun _ => .select fun store =>
    match body.existing store with
    | some row =>
      if row.requestHash ≠ body.requestHash then
        .done (.rejected ⟨409, "Idempotency key reused for a different request"⟩)
      else .done (.workspace row.id)
    | none =>
      match source with
      | .upload stored =>
        match stored with
        | .error exception => .done (.rejected exception)
        | .ok () => body.commit .upload none none
      | .existingJob jobId =>
        .awaitIf (.job jobId)
          (fun store => (store.db.jobs.lookup jobId).any fun job => job.userId == body.owner)
          fun found store =>
            match if found then store.db.jobs.lookup jobId else none with
            | none => .done (.rejected ⟨404, "Source job image not found"⟩)
            | some job =>
              if presentKey job.imageTag = none ∨ job.status ∉ imageJobStates then
                .done (.rejected ⟨404, "Source job image not found"⟩)
              else body.commit .existingJob (some jobId) job.imageTag

def failedOperation (code detail : String) (operation : SaveOperation) : SaveOperation :=
  { operation with state := .failed, failureCode := some code, failureDetail := some detail }

def failedSubmission (code detail : String) (submission : TrainingSubmission) :
    TrainingSubmission :=
  { submission with state := .failed, failureCode := some code, failureDetail := some detail }

/-- A save operation that fails, and its submission. -/
structure FailedSave where
  operationId : UUID
  submissionId : Option UUID
  deriving DecidableEq, Repr

namespace FailedSave

def rows (failed : FailedSave) : List LockedRow :=
  .save failed.operationId :: failed.submissionId.toList.map .submission

/-- The operation and its submission fail for one reason. -/
def apply (failed : FailedSave) (code detail : String) (store : Store) : Store :=
  let store := store.updateSave failed.operationId (failedOperation code detail)
  match failed.submissionId with
  | none => store
  | some submissionId => store.updateSubmission submissionId (failedSubmission code detail)

end FailedSave

/-- The operation fails with the submission that it has now. -/
def Store.failureOf (store : Store) (operationId : UUID) : FailedSave :=
  ⟨operationId, (store.submissionOf operationId).map TrainingSubmission.id⟩

/-- `_fail_snapshot`: the reads.  Their rows are written when the session commits. -/
def failSnapshot (revision : ImageRevision) (next : Option FailedSave → WorkspaceScript) :
    WorkspaceScript :=
  if revision.origin ≠ .snapshot then next none
  else
    .select fun store =>
      match revision.snapshotOperationId.bind store.saves.lookup with
      | none => next none
      | some operation =>
        .select fun store =>
          next (some (store.failureOf operation.id))

/-- One revision that a session rewrites, and the save operation that fails with it. -/
structure Rewrite where
  revisionId : UUID
  row : ImageRevision → ImageRevision
  failed : Option FailedSave := none
  code : String := ""
  detail : String := ""

namespace Rewrite

def rows (rewrite : Rewrite) : List LockedRow :=
  rewrite.failed.toList.flatMap FailedSave.rows

def apply (rewrite : Rewrite) (store : Store) : Option Store :=
  (store.updateRevision rewrite.revisionId rewrite.row).map fun store =>
    match rewrite.failed with
    | none => store
    | some failed => failed.apply rewrite.code rewrite.detail store

end Rewrite

/-- Flush the rewritten rows, which locks them, and commit. -/
def flush (label : Label) (rewrites : List Rewrite) (next : Bool → WorkspaceScript) :
    WorkspaceScript :=
  .awaitAll (rewrites.flatMap Rewrite.rows)
    (.commit label (fun store => rewrites.foldlM (fun store rewrite => rewrite.apply store) store)
      next)

/-- `cancel`. -/
def cancel (owner workspaceId : UUID) : WorkspaceScript :=
  .select fun store =>
    match (store.workspaces.lookup workspaceId).filter fun row => row.ownerUserId == owner with
    | none => .done (.rejected ⟨404, "Workspace not found"⟩)
    | some item =>
      .select fun store =>
        match store.latestRevision item.id with
        | none => .done (.rejected internalServerError)
        | some revision =>
          .awaitIf (.revision revision.id)
            (fun store => (store.revisions.lookup revision.id).any fun row =>
              row.state == .queued || row.state == .building)
            fun changed _ =>
              if changed then
                failSnapshot revision fun failed =>
                  flush .other
                    [{ revisionId := revision.id
                       row := fun row => { row with state := .cancelled, leaseUntil := none }
                       failed := failed
                       code := "PUBLISH_CANCELLED"
                       detail := "Workspace image publication was cancelled." }]
                    fun _ => .done (.workspace item.id)
              else
                .select fun store =>
                  match store.latestRevision item.id with
                  | none => .done (.rejected internalServerError)
                  | some latest =>
                    if latest.state ≠ .cancelled then
                      .done (.rejected
                        ⟨409, "Only queued or building images can be cancelled"⟩)
                    else .done (.workspace item.id)

variable (timestamp : Time) (revision : ImageRevision) (attempt : BuildAttempt)

/-- The lease of the attempt that was read is over at this time. -/
def expired (row : ImageRevision) : Bool :=
  row.state == .building && row.attemptId == revision.attemptId &&
    row.leaseUntil.any fun deadline => decide (deadline ≤ timestamp)

/-- The row after its lease has expired, from the count and the builder that were read. -/
def expiredRow (row : ImageRevision) : ImageRevision :=
  { row with
    state := if maxAttempts ≤ revision.attemptCount then .failed else .queued
    failureType := some .system
    failureReason :=
      if maxAttempts ≤ revision.attemptCount then some (publicFailure .system) else none
    excludedBuilderId := revision.builderId
    excludedUntil := some (timestamp + leaseSeconds)
    builderId := none
    attemptId := none
    startedAt := none
    leaseUntil := none }

def expiryOf (failed : Option FailedSave) : Rewrite where
  revisionId := revision.id
  row := expiredRow timestamp revision
  failed := failed
  code := "PUBLISH_FAILED"
  detail := "Could not publish the workspace image."

/-- The conditional updates of `expire`, one for each lease it has read. -/
def expireLoop (timestamp : Time) (rewrites : List Rewrite) (next : ℕ → WorkspaceScript) :
    List ImageRevision → WorkspaceScript
  | [] => flush .other rewrites fun _ => next rewrites.length
  | revision :: rest =>
    .awaitIf (.revision revision.id)
      (fun store => (store.revisions.lookup revision.id).any (expired timestamp revision))
      fun changed _ =>
        if !changed then expireLoop timestamp rewrites next rest
        else if maxAttempts ≤ revision.attemptCount then
          failSnapshot revision fun failed =>
            expireLoop timestamp (rewrites ++ [expiryOf timestamp revision failed]) next rest
        else expireLoop timestamp (rewrites ++ [expiryOf timestamp revision none]) next rest

/-- `expire`. -/
def expire (next : ℕ → WorkspaceScript) : WorkspaceScript :=
  .select fun start => .select fun store =>
    expireLoop start.clock [] next
      (store.revisions.rows.filter fun row =>
        row.state == .building &&
          row.leaseUntil.any fun deadline => decide (deadline ≤ start.clock))

/-- The revision may be built by this builder. -/
def claimable (builderId : String) (row : ImageRevision) : Bool :=
  row.state == .queued &&
    (row.excludedUntil.all (fun excludedUntil => decide (excludedUntil ≤ timestamp)) ||
      row.excludedBuilderId.any fun excluded => excluded != builderId)

/-- `order_by(created_at, id)`. -/
def createdEarlier (left right : ImageRevision) : Bool :=
  decide (left.createdAt < right.createdAt) ||
    left.createdAt == right.createdAt && decide (left.id ≤ right.id)

def buildQueue (builderId : String) (store : Store) : List LockedRow :=
  ((store.revisions.rows.filter (claimable timestamp builderId)).mergeSort createdEarlier).map
    fun row => .revision row.id

def claimedRow (builderId : String) (attemptId : UUID) (row : ImageRevision) : ImageRevision :=
  { row with
    state := .building
    builderId := some builderId
    attemptId := some attemptId
    startedAt := some timestamp
    leaseUntil := some (timestamp + leaseSeconds)
    attemptCount := row.attemptCount + 1
    failureType := none
    failureReason := none }

/-- Begin an attempt; `uuid4` does not repeat one. -/
def Store.beginAttempt (store : Store) (timestamp : Time) (builderId : String)
    (attemptId revisionId : UUID) : Option Store :=
  if attemptId ∈ store.attempts then none
  else
    (store.updateRevision revisionId (claimedRow timestamp builderId attemptId)).map fun after =>
      { after with attempts := store.attempts ++ [attemptId] }

/-- The rounds of `claim`, each with an attempt of its own. -/
def claimLoop (timestamp : Time) (builderId : String) : List UUID → WorkspaceScript
  | [] => .done (.claimed none)
  | attemptId :: rest =>
    .lock (buildQueue timestamp builderId) true fun picked _ =>
      match picked with
      | some (.revision revisionId) =>
        .awaitIf (.revision revisionId)
          (fun store => (store.revisions.lookup revisionId).any fun row => row.state == .queued)
          fun changed _ =>
            if changed then
              .commit .other
                (fun store => store.beginAttempt timestamp builderId attemptId revisionId)
                fun committed =>
                  .done (if committed then .claimed (some (revisionId, attemptId))
                    else .rejected internalServerError)
            else .commit .other some fun _ => claimLoop timestamp builderId rest
      | _ => .done (.claimed none)

/-- `claim`: four rounds, with the attempts they would mint. -/
def claim (builderId : String) (first second third fourth : UUID) : WorkspaceScript :=
  expire fun _ => .select fun store =>
    claimLoop store.clock builderId [first, second, third, fourth]

/-- The row carries this builder and this attempt. -/
def BuildAttempt.owns (row : ImageRevision) : Bool :=
  row.builderId == some attempt.builderId && row.attemptId == some attempt.attemptId

/-- `fence`. -/
def fence (allowReady : Bool) (next : ImageRevision → WorkspaceScript) : WorkspaceScript :=
  .awaitIf (.revision attempt.revisionId)
    (fun store => (store.revisions.lookup attempt.revisionId).any attempt.owns)
    fun found store =>
      match if found then store.revisions.lookup attempt.revisionId else none with
      | none => .done (.rejected ⟨409, "Stale build attempt"⟩)
      | some row =>
        if row.state = .building then
          match row.leaseUntil with
          | none => .done (.rejected internalServerError)
          | some deadline =>
            if deadline ≤ store.clock then .done (.rejected ⟨409, "Expired build attempt"⟩)
            else next row
        else if row.state = .imageReady ∧ allowReady then next row
        else .done (.rejected ⟨409, "Stale build attempt"⟩)

/-- The body of a ready callback. -/
structure ReadyBody extends BuildAttempt where
  imageTag : String
  imageDigestRef : String
  resolvedBaseDigest : String
  developerProfile : Option String := none
  sshProfile : Option String := none
  deriving DecidableEq, Repr

/-- The part of a reference before its last colon. -/
def repositoryOf (reference : List Char) : List Char :=
  if ':' ∈ reference then ((reference.reverse.dropWhile fun c => c != ':').drop 1).reverse
  else reference

/-- The tag and the digest name the repository of the workspace, and the tag this attempt. -/
def ReadyBody.names (body : ReadyBody) (row : ImageRevision) : Bool :=
  let tag := body.imageTag.toList
  let repository := repositoryOf tag
  ("/interactive-" ++ toString row.workspaceId).toList.isSuffixOf repository &&
    (":revision-" ++ toString row.id ++ "-attempt-" ++
      toString body.attemptId).toList.isSuffixOf tag &&
    (body.imageDigestRef.toList.takeWhile fun c => c != '@') == repository

def ReadyBody.publishedRow (body : ReadyBody) (row : ImageRevision) : ImageRevision :=
  { row with
    state := .imageReady
    imageTag := some body.imageTag
    imageDigestRef := some body.imageDigestRef
    resolvedBaseDigest := some body.resolvedBaseDigest
    developerProfile := if body.developerProfile = some "v1" then some "v1" else none
    sshProfile := if body.sshProfile = some "v1" then some "v1" else none
    leaseUntil := none }

/-- The head of the workspace moves to the published revision. -/
def headRow (revisionId : UUID) (advances : Bool) (item : InteractiveWorkspace) :
    InteractiveWorkspace :=
  { item with
    currentRevisionId := some revisionId
    savedRevisionId := if advances then some revisionId else item.savedRevisionId }

def trainingJob (jobId : UUID) (body : ReadyBody) (row : ImageRevision)
    (submission : TrainingSubmission) (now : Time) : Job where
  id := jobId
  status := .vramEstimationPending
  userId := submission.ownerUserId
  sourceKind := .workspaceRevision
  sourceWorkspaceId := some row.workspaceId
  sourceRevisionId := some row.id
  command := some submission.settings.command
  resumeCommand := presentKey submission.settings.resumeCommand
  imageTag := some body.imageDigestRef
  priority := if submission.settings.priority = .requested then .requested else .normal
  reasonForPriority := submission.settings.reasonForPriority
  createdAt := now

/-- The runtime that was locked is asked to stop, if it is of this generation. -/
def stopSubmitted (runtime : Option Runtime) (generation : ℕ) (db : Db) : Db :=
  match runtime.filter fun runtime => runtime.generation == generation with
  | none => db
  | some runtime => db.modifyRuntime runtime.id (stopRuntime none none) (stopRuntime_id none none)

/-- Record the job of a submission that has none, and let its runtime stop. -/
def Store.createJob (store : Store) (jobId : UUID) (body : ReadyBody) (row : ImageRevision)
    (submission : TrainingSubmission) (runtime : Option Runtime) : Option Store :=
  if submission.jobId.isSome then some store
  else
    (store.db.jobs.insert (trainingJob jobId body row submission store.clock)).map fun jobs =>
      let db := stopSubmitted runtime submission.generation { store.db with jobs }
      { store with db }.updateSubmission submission.id fun submission =>
        { submission with jobId := some jobId, state := .jobCreated }

/-- The revision is ready and the head of its workspace. -/
def Store.publish (store : Store) (body : ReadyBody) (row : ImageRevision) (advances : Bool) :
    Option Store :=
  (store.updateRevision row.id body.publishedRow).map fun store =>
    store.updateWorkspace row.workspaceId (headRow row.id advances)

/-- A published snapshot also ends its save operation and creates the job of its submission. -/
def Store.publishSnapshot (store : Store) (body : ReadyBody) (row : ImageRevision)
    (advances : Bool) (operationId jobId : UUID) (submission : Option TrainingSubmission)
    (runtime : Option Runtime) : Option Store := do
  let published ← store.publish body row advances
  let saved := published.updateSave operationId fun operation =>
    { operation with state := .succeeded }
  match submission with
  | none => some saved
  | some submission => saved.createJob jobId body row submission runtime

/-- The operation that the revision is the target of. -/
def Store.operationOf (store : Store) (row : ImageRevision) : Option SaveOperation :=
  (row.snapshotOperationId.bind store.saves.lookup).filter fun operation =>
    operation.targetRevisionId == some row.id

/-- Lock the save operation and its submission, and commit the publication. -/
def commitSnapshot (body : ReadyBody) (row : ImageRevision) (advances : Bool)
    (operationId jobId : UUID) (runtime : Option Runtime) : WorkspaceScript :=
  .awaitIf (.save operationId) (fun store => (store.operationOf row).isSome) fun found _ =>
    if !found then .done (.rejected ⟨409, "Snapshot operation not found"⟩)
    else
      .lock (fun store => (store.submissionOf operationId).toList.map fun submission =>
          .submission submission.id)
        false fun _ store =>
          let submission := store.submissionOf operationId
          .commit (.ready body.toBuildAttempt advances)
            (fun store => store.publishSnapshot body row advances operationId jobId submission
              runtime)
            fun committed => .done (if committed then .ok else .rejected internalServerError)

/-- The publication of a snapshot; it locks the runtime before the save operation. -/
def markSnapshotReady (body : ReadyBody) (row : ImageRevision) (advances : Bool) (jobId : UUID) :
    WorkspaceScript :=
  .select fun store =>
    match store.operationOf row with
    | none => .done (.rejected ⟨409, "Snapshot operation not found"⟩)
    | some reference =>
      .awaitIf (.runtime reference.runtimeId)
        (fun store => (store.db.runtimes.lookup reference.runtimeId).isSome) fun _ store =>
          commitSnapshot body row advances reference.id jobId
            (store.db.runtimes.lookup reference.runtimeId)

/-- Record a profile that is missing. -/
def recordProfile (body : ReadyBody) (missing : Bool) (revisionId : UUID)
    (f : ImageRevision → ImageRevision) (next : WorkspaceScript) : WorkspaceScript :=
  if missing then
    .commit (.ready body.toBuildAttempt false) (fun store => store.updateRevision revisionId f)
      fun committed => if committed then next else .done (.rejected internalServerError)
  else next

/-- A ready callback for a revision that is ready already may only repeat itself.  A profile that it
would add is a change of a ready revision. -/
def repeatReady (body : ReadyBody) (row : ImageRevision) : WorkspaceScript :=
  if row.imageTag ≠ some body.imageTag ∨ row.imageDigestRef ≠ some body.imageDigestRef ∨
      row.resolvedBaseDigest ≠ some body.resolvedBaseDigest then
    .done (.rejected ⟨409, "Immutable revision already published"⟩)
  else
    recordProfile body (row.developerProfile == none && body.developerProfile == some "v1") row.id
      (fun row => { row with developerProfile := some "v1" })
      (recordProfile body (row.sshProfile == none && body.sshProfile == some "v1") row.id
        (fun row => { row with sshProfile := some "v1" }) (.done .ok))

/-- `mark_ready`, with the identifier of the job it may create. -/
def markReady (body : ReadyBody) (jobId : UUID) : WorkspaceScript :=
  fence body.toBuildAttempt true fun row =>
    if !body.names row then
      .done (.rejected ⟨422, "Image reference does not match build attempt"⟩)
    else if row.state = .imageReady then repeatReady body row
    else
      .select fun store =>
        match store.workspaces.lookup row.workspaceId with
        | none => .done (.rejected internalServerError)
        | some item =>
          let advances := item.savedRevisionId.isNone || row.origin == .snapshot
          .await (.workspace row.workspaceId) fun _ =>
            if row.origin = .snapshot then markSnapshotReady body row advances jobId
            else
              .commit (.ready body.toBuildAttempt advances)
                (fun store => store.publish body row advances)
                fun committed => .done (if committed then .ok else .rejected internalServerError)

/-- The row of a failed build.  It is queued again while attempts are left and the system failed. -/
def failedRow (failureType : FailureType) (terminal : Bool) (row : ImageRevision) : ImageRevision :=
  { row with
    state := if terminal then .failed else .queued
    failureType := some failureType
    failureReason := if terminal then some (publicFailure failureType) else none
    excludedBuilderId := row.builderId
    excludedUntil := some (timestamp + leaseSeconds)
    builderId := none
    attemptId := none
    startedAt := none
    leaseUntil := none }

/-- `failure`. -/
def failure (attempt : BuildAttempt) (failureType : FailureType) : WorkspaceScript :=
  fence attempt false fun row => .select fun store =>
    let terminal := failureType == .user || decide (maxAttempts ≤ row.attemptCount)
    let ended (failed : Option FailedSave) : WorkspaceScript :=
      flush (.failure attempt)
        [{ revisionId := row.id
           row := failedRow store.clock failureType terminal
           failed := failed
           code := "PUBLISH_FAILED"
           detail := "Could not publish the workspace image." }]
        fun _ => .done .ok
    if terminal then failSnapshot row ended else ended none

/-- The attempt is current and its lease has not expired. -/
def renewable (row : ImageRevision) : Bool :=
  row.state == .building && attempt.owns row &&
    row.leaseUntil.any fun deadline => decide (timestamp < deadline)

def renewedRow (row : ImageRevision) : ImageRevision :=
  { row with leaseUntil := some (timestamp + leaseSeconds) }

/-- The conditional updates of `heartbeat`, one for each active build. -/
def heartbeatLoop (timestamp : Time) (builderId : String) (active : List (UUID × UUID))
    (renewed cancelled : List (UUID × UUID)) : List (UUID × UUID) → WorkspaceScript
  | [] =>
    .commit (.heartbeat builderId active)
      (fun store => renewed.foldlM
        (fun store item => store.updateRevision item.1 (renewedRow timestamp)) store)
      fun _ => .done (.cancelled cancelled)
  | (revisionId, attemptId) :: rest =>
    .awaitIf (.revision revisionId)
      (fun store => (store.revisions.lookup revisionId).any
        (renewable timestamp ⟨revisionId, builderId, attemptId⟩))
      fun changed _ =>
        if changed then
          heartbeatLoop timestamp builderId active (renewed ++ [(revisionId, attemptId)]) cancelled
            rest
        else
          heartbeatLoop timestamp builderId active renewed (cancelled ++ [(revisionId, attemptId)])
            rest

/-- `heartbeat`. -/
def heartbeat (builderId : String) (active : List (UUID × UUID)) : WorkspaceScript :=
  .select fun store => heartbeatLoop store.clock builderId active [] [] active

end TrainingScheduler.Workspaces
