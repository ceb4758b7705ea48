import TrainingScheduler.Scheduler.Policy

/-!
# Claims

`claim` of `scheduling/claims.py`: the replay of an earlier request, the admission gates, the
revalidation of the policy's candidate in the reservation layer, and the insertion of one durable
reservation.  A transaction runs at one instant `now`; a raised exception or a rollback leaves the
committed database as it was.
-/

namespace TrainingScheduler

/-- The assignment part of a claim response. -/
structure Envelope where
  kind : Kind
  assignmentId : UUID
  attemptToken : UUID
  instanceId : UUID
  generation : Option Nat
  leaseSeconds : Time
  leaseUntil : Time
  payload : Payload
  deriving DecidableEq, Repr

inductive RequestState where
  | released
  | stale
  deriving DecidableEq, Repr

/-- The answer to a claim. -/
structure ClaimReply where
  assignment : Option Envelope := none
  requestState : Option RequestState := none
  retryAfterSeconds : Nat := 5
  deriving DecidableEq, Repr

def lockWorker (db : Db) (workerId : UUID) : Except HTTPException Worker :=
  match db.workers.lookup workerId with
  | none => .error ⟨404, "Worker not registered"⟩
  | some worker => .ok worker

def live (db : Db) (workerId : UUID) : List Assignment :=
  db.assignments.rows.filter fun assignment =>
    assignment.workerId == workerId && assignment.releasedAt.isNone

/-- The attempt can no longer be executed: it is lost, being cleaned, or past its lease. -/
def stale (assignment : Assignment) (now : Time) : Bool :=
  assignment.state == .lost || assignment.state == .cleaning || decide (assignment.leaseUntil ≤ now)

def envelope (assignment : Assignment) (settings : Settings) (now : Time) : ClaimReply :=
  if assignment.releasedAt.isSome then { requestState := some .released }
  else if stale assignment now then { requestState := some .stale }
  else
    { assignment := some
        { kind := assignment.kind
          assignmentId := assignment.id
          attemptToken := assignment.attemptToken
          instanceId := assignment.instanceId
          generation := assignment.generation
          leaseSeconds := max 0 (min settings.leaseSeconds (assignment.leaseUntil - now))
          leaseUntil := assignment.leaseUntil
          payload := assignment.payload } }

/-- The earlier assignment made for the same Worker, instance and request. -/
def previousClaim (db : Db) (workerId : UUID) (body : Claim) : Option Assignment :=
  db.assignments.rows.find? fun assignment =>
    assignment.workerId == workerId && assignment.instanceId == body.instanceId &&
      assignment.requestId == body.requestId

/-- An active assignment that bars every further one. -/
def barring (assignment : Assignment) : Bool :=
  assignment.exclusive || assignment.kind == .estimation || assignment.state == .lost ||
    assignment.state == .cleaning

variable (settings : Settings) (digest : Digest) (choose : Choose)

def admissionBlocked (worker : Worker) (body : Claim) (active : List Assignment) (now : Time) :
    Bool :=
  !settings.admission || worker.instanceId != some body.instanceId ||
    !workerEligible worker now settings.freshSeconds || active.any barring

def slotsExhausted (inventory : Inventory) (active : List Assignment) : Bool :=
  decide (inventory.availableSlots + inventory.localAssignments.length ≤ active.length)

def inventoryExpired (inventory : Inventory) (now : Time) : Bool :=
  decide ((settings.freshSeconds : ℚ) < |now - inventory.observedAt|)

def claimSnapshot (worker : Worker) (inventory : Inventory)
    (active : List Assignment) : Snapshot where
  workerId := worker.workerId
  gpuType := worker.gpuType
  freeVram := inventory.freeVramGb
  assignments := active.length
  inventory := inventory

/-- A unique constraint or partial unique index rejects the pair of rows. -/
def conflicts (old new : Assignment) : Bool :=
  old.attemptToken == new.attemptToken ||
    (old.workerId == new.workerId && old.instanceId == new.instanceId &&
      old.requestId == new.requestId) ||
    (old.releasedAt.isNone &&
      ((old.jobId.isSome && old.jobId == new.jobId) ||
        (old.runtimeId.isSome && old.runtimeId == new.runtimeId) ||
        (old.kind == .interactive && new.kind == .interactive && old.workerId == new.workerId)))

/-- Insert a reservation; `none` is an `IntegrityError`. -/
def insertAssignment (db : Db) (assignment : Assignment) : Option Db :=
  if db.assignments.rows.any (conflicts · assignment) then none
  else (db.assignments.insert assignment).map fun assignments => { db with assignments }

def newAssignment (now : Time) (workerId : UUID) (body : Claim) (ids : UUID × UUID)
    (target : Target) (payload : Payload) (gpuUuid : Option String) : Assignment where
  id := ids.1
  workerId := workerId
  instanceId := body.instanceId
  target := target
  attemptToken := ids.2
  requestId := body.requestId
  requestHash := digest.claim body
  payload := payload
  gpuUuid := gpuUuid
  createdAt := now
  leaseUntil := now + settings.leaseSeconds

def assignRuntime (now : Time) (assignmentId : UUID) (runtime : Runtime) : Runtime :=
  { runtime with
    state := .assigned
    assignmentId := some assignmentId
    resourceId := some assignmentId
    assignedAt := some now
    startupDeadline := some (now + settings.startupSeconds)
    lifetimeDeadline :=
      if settings.lifetimeSeconds = 0 then runtime.lifetimeDeadline
      else some (now + settings.lifetimeSeconds) }

def runtimePayload (runtime : Runtime) (gpuUuid : Option String) : RuntimePayload where
  runtimeId := runtime.id
  workspaceId := runtime.workspaceId
  revisionId := runtime.revisionId
  ownerId := runtime.ownerUserId
  generation := runtime.generation
  imageDigestRef := runtime.imageDigestRef
  gpuUuid := gpuUuid
  launchSpec := runtime.launchSpec

/-- Revalidate and reserve an interactive candidate; `none` rolls back. -/
def reserveRuntime (now : Time) (db : Db) (workerId : UUID) (body : Claim) (snapshot : Snapshot)
    (candidate : Candidate) (ids : UUID × UUID) : Option (Assignment × Db) :=
  match db.runtimes.lookup candidate.targetId with
  | none => none
  | some runtime =>
    if runtime.state != .queued || runtime.desiredState != .running || !settings.interactive ||
        compatibleGpu snapshot runtime.launchSpec != candidate.gpuUuid then none
    else if db.runtimes.rows.any fun other => other.resourceId == some ids.1 then none
    else
      let assignment := newAssignment settings digest now workerId body ids
        (.interactive runtime.id runtime.generation)
        (.runtime (runtimePayload runtime candidate.gpuUuid)) candidate.gpuUuid
      (insertAssignment
        (db.modifyRuntime runtime.id (assignRuntime settings now ids.1) fun _ => rfl)
        assignment).map fun db => (assignment, db)

/-- The job status a candidate must find. -/
def expectedStatus (candidate : Candidate) : JobStatus :=
  if candidate.kind = .estimation then .vramEstimationPending
  else if candidate.flag = "retry" then .retryNeeded
  else .runnable

/-- `training_eligible_for_source_kind`. -/
def trainingEligible (sourceKind : SourceKind) : Bool := sourceKind != .packagesOnly

def formatJobResponse (job : Job) (flag : String) : JobPayload where
  flag := flag
  id := job.id
  userId := job.userId
  objectKey := job.objectKey
  sourceKind := job.sourceKind
  trainingEligible := trainingEligible job.sourceKind
  command := job.command
  resumeCommand := job.resumeCommand
  status := job.status
  priority := job.priority
  reasonForPriority := job.reasonForPriority
  vramRequired := job.vramRequired
  ramRequired := job.ramRequired
  device := job.device
  imageTag := job.imageTag
  imageBuilderId := job.imageBuilderId
  imageBuildAttemptId := job.imageBuildAttemptId

/-- The job does not fit into the reported free VRAM with one gigabyte to spare. -/
def vramExceeds (job : Job) (snapshot : Snapshot) : Bool :=
  match job.vramRequired with
  | none => false
  | some required => decide (snapshot.freeVram < required + 1)

def startJob (now : Time) (gpuType : String) (job : Job) : Job :=
  { job with status := .inProgress, startedAt := some now, device := some gpuType }

/-- Revalidate and reserve a job candidate; `none` rolls back. -/
def reserveJob (now : Time) (db : Db) (worker : Worker) (body : Claim) (snapshot : Snapshot)
    (candidate : Candidate) (ids : UUID × UUID) : Option (Assignment × Db) :=
  match db.jobs.lookup candidate.targetId with
  | none => none
  | some job =>
    if job.status != expectedStatus candidate ||
        db.assignments.rows.any (fun other =>
          other.jobId == some candidate.targetId && other.releasedAt.isNone) then none
    else if candidate.kind = .estimation then
      let assignment := newAssignment settings digest now worker.workerId body ids
        (.estimation job.id) (.job (formatJobResponse job candidate.flag)) none
      (insertAssignment db assignment).map fun db => (assignment, db)
    else if vramExceeds job snapshot then none
    else
      let assignment := newAssignment settings digest now worker.workerId body ids
        (.batch job.id)
        (.job (formatJobResponse (startJob now worker.gpuType job) candidate.flag)) none
      (insertAssignment (db.modifyJob job.id (startJob now worker.gpuType) fun _ => rfl)
        assignment).map fun db => (assignment, db)

inductive Attempt where
  | commit (reply : ClaimReply) (db : Db)
  | rollback

/-- The committed reply without an assignment. -/
def refuse (db : Db) : Attempt := .commit {} db

/-- Reserve a candidate, or roll the iteration back. -/
def reserve (now : Time) (db : Db) (worker : Worker) (body : Claim) (snapshot : Snapshot)
    (candidate : Candidate) (ids : UUID × UUID) : Option (Assignment × Db) :=
  if candidate.kind = .interactive then
    reserveRuntime settings digest now db worker.workerId body snapshot candidate ids
  else reserveJob settings digest now db worker body snapshot candidate ids

/-- The part of a claim that follows the admission gates. -/
def placeCandidate (now : Time) (db : Db) (worker : Worker) (inventory : Inventory) (body : Claim)
    (iteration : Nat) (ids : UUID × UUID) : Attempt :=
  let active := live db worker.workerId
  let snapshot := claimSnapshot worker inventory active
  match choose iteration db snapshot settings with
  | none => refuse db
  | some candidate =>
    if candidate.kind == .estimation && (!active.isEmpty || !inventory.localAssignments.isEmpty)
    then refuse db
    else
      match reserve settings digest now db worker body snapshot candidate ids with
      | none => .rollback
      | some (assignment, db) => .commit (envelope assignment settings now) db

def claimAttempt (now : Time) (db : Db) (workerId : UUID) (body : Claim) (iteration : Nat)
    (ids : UUID × UUID) : Except HTTPException Attempt :=
  match lockWorker db workerId with
  | .error exception => .error exception
  | .ok worker =>
    match previousClaim db workerId body with
    | some previous =>
      if previous.requestHash != digest.claim body then
        .error ⟨409, "Claim request conflict"⟩
      else .ok (.commit (envelope previous settings now) db)
    | none =>
      if admissionBlocked settings worker body (live db workerId) now then .ok (refuse db)
      else
        match worker.inventory with
        | none => .error ⟨500, "Internal Server Error"⟩
        | some inventory =>
          if slotsExhausted inventory (live db workerId) then .ok (refuse db)
          else if inventoryExpired settings inventory now then .ok (refuse db)
          else .ok
            (placeCandidate settings digest choose now db worker inventory body iteration ids)

def claimLoop (settings : Settings) (digest : Digest) (choose : Choose) (now : Time) (db : Db)
    (workerId : UUID) (body : Claim) (newId : Nat → UUID × UUID) :
    Nat → Except HTTPException (ClaimReply × Db)
  | 0 => .ok ({}, db)
  | remaining + 1 =>
    match claimAttempt settings digest choose now db workerId body (2 - remaining)
        (newId (2 - remaining)) with
    | .error exception => .error exception
    | .ok (.commit reply db) => .ok (reply, db)
    | .ok .rollback => claimLoop settings digest choose now db workerId body newId remaining

/-- Claim work for a Worker.  `newId` supplies the identifiers minted in each iteration. -/
def claim (newId : Nat → UUID × UUID) (now : Time) (db : Db) (workerId : UUID) (body : Claim) :
    Except HTTPException (ClaimReply × Db) :=
  claimLoop settings digest choose now db workerId body newId 3

end TrainingScheduler
