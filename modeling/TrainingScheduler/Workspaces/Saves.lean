import TrainingScheduler.Workspaces.Revisions

/-!
# Saves and training submissions

`workspace_editor_service.py` and `snapshot_artifact_service.py` as database sessions: an owner asks
for a snapshot or for training on one, the Worker captures it, and the watchdog fails what was never
captured.  The watchdog reads and writes without a lock.
-/

namespace TrainingScheduler.Workspaces

/-- The gates of the workspace editor. -/
structure EditorSettings where
  workspaceSave : Bool := false
  workspaceTrainingSubmission : Bool := false
  deriving DecidableEq, Repr

/-- The body of a save request; a training request also has settings. -/
structure SaveBody where
  generation : ℕ
  parentRevisionId : UUID
  settings : Option TrainingSettings := none
  deriving DecidableEq, Repr

/-- The hashes that tell requests under one key apart. -/
structure EditorDigest where
  save : SavePurpose → SaveBody → Hash
  submission : SaveBody → Hash

/-- The states before a save operation has a revision. -/
def SaveState.capture (state : SaveState) : Bool :=
  state == .requested || state == .capturing || state == .uploading

/-- The states of an operation that is still to succeed or to fail. -/
def SaveState.active (state : SaveState) : Bool :=
  state.capture || state == .publishQueued || state == .publishing

variable (settings : EditorSettings) (digest : EditorDigest) (store : Store)

/-- `ready` of `interactive_runtime_service.py`. -/
def runtimeReady (runtime : Runtime) : Bool :=
  runtime.desiredState == .running && runtime.state == .ready &&
    (runtime.healthAt.any fun healthAt => decide (store.clock - 15 < healthAt)) &&
    runtime.health.any Health.all &&
    (runtime.assignmentId.bind store.db.assignments.lookup).any fun assignment =>
      assignment.releasedAt.isNone && assignment.state != .lost && assignment.state != .cleaning &&
        decide (store.clock < assignment.leaseUntil) &&
        assignment.generation == some runtime.generation

/-- `_owned_runtime`. -/
def ownedRuntime (owner runtimeId : UUID) (next : Runtime → WorkspaceScript) : WorkspaceScript :=
  .awaitIf (.runtime runtimeId)
    (fun store => (store.db.runtimes.lookup runtimeId).any fun runtime =>
      runtime.ownerUserId == owner)
    fun found store =>
      match if found then store.db.runtimes.lookup runtimeId else none with
      | none => .done (.rejected ⟨404, "Runtime not found"⟩)
      | some runtime =>
        .select fun store =>
          if !runtime.editorCapable || !runtimeReady store runtime then
            .done (.rejected ⟨409, "Workspace runtime is unavailable"⟩)
          else next runtime

/-- An earlier request under the key, which has to be the same one. -/
def replaySave (purpose : SavePurpose) (body : SaveBody) (existing : SaveOperation)
    (next : SaveOperation → WorkspaceScript) : WorkspaceScript :=
  if existing.requestHash ≠ digest.save purpose body ∨ existing.purpose ≠ purpose then
    .done (.rejected ⟨409, "Idempotency key reused"⟩)
  else next existing

def newSave (saveId owner : UUID) (requestKey : String) (purpose : SavePurpose) (body : SaveBody)
    (runtime : Runtime) (assignmentId : UUID) (now : Time) : SaveOperation where
  id := saveId
  ownerUserId := owner
  workspaceId := runtime.workspaceId
  runtimeId := runtime.id
  generation := runtime.generation
  assignmentId := some assignmentId
  parentRevisionId := runtime.revisionId
  purpose := purpose
  requestKey := requestKey
  requestHash := digest.save purpose body
  createdAt := now

/-- `INSERT` of a save operation: unique keys, and one active operation per generation. -/
def Store.insertSave (operation : SaveOperation) : Option Store :=
  if store.saves.rows.any fun row =>
      row.runtimeId == operation.runtimeId && row.generation == operation.generation &&
        (row.requestKey == operation.requestKey || row.state.active && operation.state.active) then
    none
  else (store.saves.insert operation).map fun saves => { store with saves }

/-- `create_save` up to its insert: the replayed operation, or the new one. -/
def createSave (saveId owner runtimeId : UUID) (requestKey : String) (purpose : SavePurpose)
    (body : SaveBody) (replayed inserted : SaveOperation → WorkspaceScript) : WorkspaceScript :=
  if !settings.workspaceSave then .done (.rejected ⟨503, "Workspace saving is not enabled"⟩)
  else
    .select fun store =>
      match store.saves.rows.find? fun row =>
          row.runtimeId == runtimeId && row.ownerUserId == owner &&
            row.generation == body.generation && row.requestKey == requestKey with
      | some existing => replaySave digest purpose body existing replayed
      | none =>
        ownedRuntime owner runtimeId fun runtime =>
          if body.generation ≠ runtime.generation ∨
              body.parentRevisionId ≠ runtime.revisionId then
            .done (.rejected ⟨409, "Workspace source changed; reload before saving"⟩)
          else
            .select fun store =>
              match store.saves.rows.find? fun row =>
                  row.runtimeId == runtime.id && row.generation == runtime.generation &&
                    row.requestKey == requestKey with
              | some existing => replaySave digest purpose body existing replayed
              | none =>
                .select fun store =>
                  if store.saves.rows.any fun row =>
                      row.runtimeId == runtime.id && row.generation == runtime.generation &&
                        row.state.active then
                    .done (.rejected ⟨409, "A workspace save is already in progress"⟩)
                  else
                    .select fun store =>
                      match runtime.assignmentId.bind store.db.assignments.lookup with
                      | none =>
                        .done (.rejected ⟨409, "Workspace runtime is unavailable"⟩)
                      | some assignment =>
                        if assignment.releasedAt.isSome then
                          .done (.rejected ⟨409, "Workspace runtime is unavailable"⟩)
                        else
                          inserted (newSave digest saveId owner requestKey purpose body
                            runtime assignment.id store.clock)

/-- `create_save` with its commit. -/
def createSaveRequest (saveId owner runtimeId : UUID) (requestKey : String) (body : SaveBody) :
    WorkspaceScript :=
  createSave settings digest saveId owner runtimeId requestKey .save body
    (fun existing => .done (.save existing))
    fun operation =>
      .commit .other (fun store => store.insertSave operation) fun committed =>
        .done (if committed then .save operation else .rejected internalServerError)

def newSubmission (submissionId owner : UUID) (requestKey : String) (body : SaveBody)
    (training : TrainingSettings) (runtime : Runtime) (saveId : UUID) : TrainingSubmission where
  id := submissionId
  ownerUserId := owner
  workspaceId := runtime.workspaceId
  runtimeId := runtime.id
  generation := runtime.generation
  saveOperationId := saveId
  requestKey := requestKey
  requestHash := digest.submission body
  settings := training

/-- `INSERT` of a submission: unique keys and save operations. -/
def Store.insertSubmission (submission : TrainingSubmission) : Option Store :=
  if store.submissions.rows.any fun row =>
      row.runtimeId == submission.runtimeId && row.generation == submission.generation &&
        row.requestKey == submission.requestKey ||
      row.saveOperationId == submission.saveOperationId then none
  else (store.submissions.insert submission).map fun submissions => { store with submissions }

/-- An earlier submission under the key, which has to be the same one. -/
def replaySubmission (body : SaveBody) (existing : TrainingSubmission) : WorkspaceScript :=
  if existing.requestHash ≠ digest.submission body then
    .done (.rejected ⟨409, "Idempotency key reused"⟩)
  else .done (.submission existing)

/-- The commit of a submission, together with its save operation if that is new. -/
def commitSubmission (submission : TrainingSubmission) (operation : Option SaveOperation) :
    WorkspaceScript :=
  .commit .other
    (fun store =>
      (match operation with
        | none => some store
        | some operation => store.insertSave operation).bind
        fun store => store.insertSubmission submission)
    fun committed =>
      .done (if committed then .submission submission else .rejected internalServerError)

/-- `create_submission`. -/
def createSubmission (submissionId saveId owner runtimeId : UUID) (requestKey : String)
    (body : SaveBody) (training : TrainingSettings) : WorkspaceScript :=
  let body := { body with settings := some training }
  if !settings.workspaceTrainingSubmission then
    .done (.rejected ⟨503, "Workspace training submission is not enabled"⟩)
  else if !settings.workspaceSave then
    .done (.rejected ⟨503, "Workspace saving is not enabled"⟩)
  else
    .select fun store =>
      match store.submissions.rows.find? fun row =>
          row.runtimeId == runtimeId && row.ownerUserId == owner &&
            row.generation == body.generation && row.requestKey == requestKey with
      | some existing => replaySubmission digest body existing
      | none =>
        ownedRuntime owner runtimeId fun runtime =>
          if body.generation ≠ runtime.generation ∨
              body.parentRevisionId ≠ runtime.revisionId then
            .done (.rejected ⟨409, "Workspace source changed; reload before submitting"⟩)
          else
            .select fun store =>
              match store.submissions.rows.find? fun row =>
                  row.runtimeId == runtime.id && row.generation == runtime.generation &&
                    row.requestKey == requestKey with
              | some existing => replaySubmission digest body existing
              | none =>
                let submission (saveId : UUID) :=
                  newSubmission digest submissionId owner requestKey body training runtime saveId
                createSave settings digest saveId owner runtimeId requestKey .train body
                  (fun existing => commitSubmission (submission existing.id) none)
                  fun operation =>
                    commitSubmission (submission operation.id) (some operation)

/-- What a callback of a Worker carries. -/
structure SnapshotFence where
  workerId : UUID
  operationId : UUID
  assignmentId : UUID
  attemptToken : UUID
  generation : ℕ
  deriving DecidableEq, Repr

/-- The assignment of the operation is the one that the Worker names, and it is live. -/
def SnapshotFence.live (body : SnapshotFence) (now : Time) (operation : SaveOperation)
    (assignment : Assignment) : Bool :=
  assignment.id == body.assignmentId && assignment.workerId == body.workerId &&
    assignment.attemptToken == body.attemptToken &&
    assignment.generation == some body.generation && operation.generation == body.generation &&
    assignment.releasedAt.isNone && decide (now < assignment.leaseUntil)

/-- `_fenced_save`. -/
def fencedSave (body : SnapshotFence) (next : SaveOperation → WorkspaceScript) :
    WorkspaceScript :=
  .awaitIf (.save body.operationId) (fun store => (store.saves.lookup body.operationId).isSome)
    fun _ store =>
      match store.saves.lookup body.operationId with
      | none => .done (.rejected ⟨404, "Save not found"⟩)
      | some operation =>
        .select fun store =>
          if (operation.assignmentId.bind store.db.assignments.lookup).any
              (body.live store.clock operation) then next operation
          else .done (.rejected ⟨409, "Stale assignment"⟩)

/-- `issue_capability`. -/
def issueCapability (body : SnapshotFence) (captureAttemptId : UUID) : WorkspaceScript :=
  fencedSave body fun operation =>
    if operation.state ≠ .requested ∧ operation.state ≠ .capturing then
      .done (.rejected ⟨409, "Save is not capturable"⟩)
    else
      .commit .other
        (fun store => some (store.updateSave operation.id fun operation =>
          { operation with
            state := .capturing
            captureAttemptId := operation.captureAttemptId <|> some captureAttemptId }))
        fun _ => .done (.capability operation.id)

/-- `fail`. -/
def fail (body : SnapshotFence) (code : String) : WorkspaceScript :=
  fencedSave body fun operation =>
    if !operation.state.capture then .done (.state operation.state)
    else
      .select fun store =>
        let failed := store.failureOf operation.id
        .awaitAll failed.rows
          (.commit .other
            (fun store => some (failed.apply code
              "Could not capture this workspace. Check the session and try again." store))
            fun _ => .done (.state .failed))

def maxArtifact : ℕ := 8 * 1024 * 1024 * 1024

/-- `SHA_RE`. -/
def validSha (sha256 : String) : Bool :=
  sha256.toList.length == 64 &&
    sha256.toList.all fun c => ('0' ≤ c && c ≤ '9') || ('a' ≤ c && c ≤ 'f')

/-- The number of the next revision of a workspace. -/
def Store.nextNumber (workspaceId : UUID) : ℕ :=
  ((store.revisions.rows.filter fun row => row.workspaceId == workspaceId).map
    ImageRevision.revisionNumber).foldr max 0 + 1

def snapshotRevision (revisionId : UUID) (number : ℕ) (operation : SaveOperation) (now : Time) :
    ImageRevision where
  id := revisionId
  workspaceId := operation.workspaceId
  revisionNumber := number
  origin := .snapshot
  parentRevisionId := some operation.parentRevisionId
  snapshotOperationId := some operation.id
  createdAt := now

/-- Queue the snapshot revision of an operation.  The numbers of a workspace, the operations of
revisions and the targets of operations are unique. -/
def Store.enqueue (revision : ImageRevision) (sha256 : String) (size : ℕ) (operationId : UUID) :
    Option Store :=
  if (store.revisions.rows.any fun row =>
        row.workspaceId == revision.workspaceId &&
          row.revisionNumber == revision.revisionNumber ||
        row.snapshotOperationId == some operationId) ||
      store.saves.rows.any fun row => row.targetRevisionId == some revision.id then none
  else
    (store.revisions.insert revision).map fun revisions =>
      { store with revisions }.updateSave operationId fun operation =>
        { operation with
          artifactSha256 := some sha256
          artifactSize := some size
          state := .publishQueued
          targetRevisionId := some revision.id }

/-- `complete`, with the identifier of the revision it queues. -/
def complete (body : SnapshotFence) (sha256 : String) (size : ℕ) (revisionId : UUID) :
    WorkspaceScript :=
  if !validSha sha256 then .done (.rejected ⟨422, "Invalid snapshot hash"⟩)
  else if size = 0 ∨ maxArtifact < size then .done (.rejected ⟨422, "Invalid snapshot size"⟩)
  else
    fencedSave body fun operation =>
      if operation.state ≠ .capturing ∧ operation.state ≠ .uploading then
        .done (.rejected ⟨409, "Save is not uploadable"⟩)
      else if (presentKey operation.artifactSha256).any fun recorded =>
          recorded != sha256 || operation.artifactSize != some size then
        .done (.rejected ⟨409, "Snapshot receipt conflict"⟩)
      else
        .select fun store =>
          let number := store.nextNumber operation.workspaceId
          .commit .other
            (fun store => store.enqueue (snapshotRevision revisionId number operation store.clock)
              sha256 size operation.id)
            fun committed =>
              .done (if committed then .target revisionId else .rejected internalServerError)

/-- Seconds after which a capture is given up. -/
def captureTimeout : ℚ := 4 * 3600

/-- The session that the operation captures is still there. -/
def captureLive (start : Time) (assignment : Option Assignment) (runtime : Option Runtime)
    (operation : SaveOperation) : Bool :=
  (assignment.any fun assignment => assignment.releasedAt.isNone) &&
    (runtime.any fun runtime =>
      runtime.state != .stopped && runtime.state != .failed && runtime.state != .lost) &&
    !decide (operation.createdAt < start - captureTimeout)

/-- Fail the operations and their submissions, whatever they have become since they were read. -/
def Store.failAll (stale : List FailedSave) : Store :=
  stale.foldl
    (fun store failed => failed.apply "RUNTIME_UNAVAILABLE"
      "Interactive session ended before the workspace was saved." store)
    store

/-- The rounds of `reconcile_stale`, one for each operation it has read, and its commit. -/
def reconcileLoop (start : Time) (stale : List FailedSave) : List SaveOperation → WorkspaceScript
  | [] =>
    if stale = [] then .done (.count 0)
    else
      .awaitAll (stale.flatMap FailedSave.rows)
        (.commit (.reconcile (stale.map FailedSave.operationId))
          (fun store => some (store.failAll stale))
          fun _ => .done (.count stale.length))
  | operation :: rest =>
    .select fun store =>
      let assignment := operation.assignmentId.bind store.db.assignments.lookup
      .select fun store =>
        if captureLive start assignment (store.db.runtimes.lookup operation.runtimeId) operation
        then reconcileLoop start stale rest
        else
          .select fun store =>
            reconcileLoop start (stale ++ [store.failureOf operation.id]) rest

/-- `reconcile_stale`. -/
def reconcileStale : WorkspaceScript :=
  .select fun start => .select fun store =>
    reconcileLoop start.clock []
      (store.saves.rows.filter fun operation => operation.state.capture)

inductive Request where
  | create (body : Creation) (source : Source)
  | cancel (owner workspaceId : UUID)
  | expire
  | claim (builderId : String) (first second third fourth : UUID)
  | ready (body : ReadyBody) (jobId : UUID)
  | failure (attempt : BuildAttempt) (failureType : FailureType)
  | heartbeat (builderId : String) (active : List (UUID × UUID))
  | save (settings : EditorSettings) (saveId owner runtimeId : UUID) (requestKey : String)
      (body : SaveBody)
  | submission (settings : EditorSettings) (submissionId saveId owner runtimeId : UUID)
      (requestKey : String) (body : SaveBody) (training : TrainingSettings)
  | capability (body : SnapshotFence) (captureAttemptId : UUID)
  | fail (body : SnapshotFence) (code : String)
  | complete (body : SnapshotFence) (sha256 : String) (size : ℕ) (revisionId : UUID)
  | reconcileStale
  | external (db : Db) (clock : Time)

/-- Time passes and the rest of the scheduler works, on no job of a revision. -/
def external (db : Db) (clock : Time) : WorkspaceScript :=
  .commit .other
    (fun store =>
      if store.clock ≤ clock ∧ workspaceJobs db = workspaceJobs store.db then
        some { store with db, clock }
      else none)
    fun _ => .done .ok

def Request.script (_ : ℕ) : Request → WorkspaceScript
  | create body source => Workspaces.create body source
  | cancel owner workspaceId => Workspaces.cancel owner workspaceId
  | expire => Workspaces.expire fun count => .done (.count count)
  | claim builderId first second third fourth =>
    Workspaces.claim builderId first second third fourth
  | ready body jobId => markReady body jobId
  | failure attempt failureType => Workspaces.failure attempt failureType
  | heartbeat builderId active => Workspaces.heartbeat builderId active
  | save settings saveId owner runtimeId requestKey body =>
    createSaveRequest settings digest saveId owner runtimeId requestKey body
  | submission settings submissionId saveId owner runtimeId requestKey body training =>
    createSubmission settings digest submissionId saveId owner runtimeId requestKey body training
  | capability body captureAttemptId => issueCapability body captureAttemptId
  | fail body code => Workspaces.fail body code
  | complete body sha256 size revisionId => Workspaces.complete body sha256 size revisionId
  | reconcileStale => Workspaces.reconcileStale
  | external db clock => Workspaces.external db clock

end TrainingScheduler.Workspaces
