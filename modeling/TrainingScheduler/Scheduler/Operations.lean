import TrainingScheduler.Scheduler.Claims

/-!
# Fenced operations

The remaining transactions of `scheduling/claims.py` on a claimed assignment (`register`,
`heartbeat`, `event`, `result`, `cleanup` and `expire`), with the log and bootstrap routes that
share their fence.  Each returns its reply and the committed database, or the exception that rolls
the transaction back.
-/

namespace TrainingScheduler

/-- The row matches every component of a fence presented by a Worker. -/
def Fence.names (body : Fence) (workerId : UUID) (assignment : Assignment) : Bool :=
  assignment.id == body.assignmentId && assignment.workerId == workerId &&
    assignment.instanceId == body.instanceId && assignment.attemptToken == body.attemptToken &&
    assignment.generation == body.generation

/-- The attempt has lost execution authority. -/
def fencedOff (worker : Worker) (assignment : Assignment) (body : Fence) (now : Time) : Bool :=
  assignment.releasedAt.isSome || worker.instanceId != some body.instanceId ||
    assignment.state == .lost || decide (assignment.leaseUntil ≤ now)

variable (settings : Settings) (now : Time) (db : Db)

def fence (workerId : UUID) (body : Fence) (now : Time) (cleanup : Bool := false) :
    Except HTTPException (Worker × Assignment) :=
  match lockWorker db workerId with
  | .error exception => .error exception
  | .ok worker =>
    match db.assignments.rows.find? (body.names workerId) with
    | none => .error ⟨409, "Stale assignment"⟩
    | some assignment =>
      if !cleanup && fencedOff worker assignment body now then
        .error ⟨409, "Expired assignment"⟩
      else .ok (worker, assignment)

def timeUpDetail : String := "Interactive time limit reached; runtime stopped after time up."

/-- The detail recorded with a failure code. -/
def failureDetail (code : FailureCode) (detail : Option String) : String :=
  match detail with
  | some text =>
    if text.isEmpty then
      if code = .timeUp then timeUpDetail
      else "Runtime stopped; start a new runtime after cleanup."
    else (text.take 256).toString
  | none =>
    if code = .timeUp then timeUpDetail else "Runtime stopped; start a new runtime after cleanup."

/-- The runtime wants to stop, and is stopping unless it already ended. -/
def requestStop (runtime : Runtime) : Runtime :=
  { runtime with
    desiredState := .stopped
    state := if runtime.state = .stopped ∨ runtime.state = .failed then runtime.state
      else .stopping }

/-- The first failure code of a runtime is kept. -/
def recordFailure (code : FailureCode) (detail : Option String) (runtime : Runtime) : Runtime :=
  if runtime.failureCode.isSome then runtime
  else
    { runtime with
      failureCode := some code
      failureDetail := some (failureDetail code detail) }

def stopRuntime (code : Option FailureCode) (detail : Option String)
    (runtime : Runtime) : Runtime :=
  match code with
  | none => requestStop runtime
  | some code => recordFailure code detail (requestStop runtime)

@[simp]
theorem stopRuntime_id (code : Option FailureCode) (detail : Option String) (runtime : Runtime) :
    (stopRuntime code detail runtime).id = runtime.id := by
  unfold stopRuntime recordFailure
  split
  · rfl
  · split_ifs <;> rfl

/-- Mirror authenticated inventory into the dashboard columns. -/
def applyInventoryMetrics (inventory : Inventory) (worker : Worker) : Worker :=
  { worker with
    hostname := inventory.hostname <|> worker.hostname
    ipAddress := inventory.ipAddress <|> worker.ipAddress
    availableVram := some inventory.freeVramGb
    gpusInUse := inventory.gpusInUse <|> worker.gpusInUse
    gpuLoad := inventory.gpuLoad <|> worker.gpuLoad
    cpuLoad := inventory.cpuLoad <|> worker.cpuLoad
    memUsage := inventory.memUsage <|> worker.memUsage
    cpuCores := some inventory.cpuCores
    totalRam := inventory.totalRam <|> worker.totalRam
    totalDisk := inventory.totalDisk <|> worker.totalDisk
    availableDisk := inventory.availableDisk <|> worker.availableDisk }

/-- The row created for a Worker that registers for the first time. -/
def newWorker (workerId : UUID) (body : Register) : Worker where
  workerId := workerId
  gpuType := body.gpuType
  numGpus := body.inventory.gpus.length
  totalVram := (body.inventory.gpus.map GPU.memoryGb).foldr max 0

/-- Mark one live assignment lost because its Worker restarted. -/
def interruptAssignment (assignment : Assignment) : Db :=
  let db := db.modifyAssignment assignment.id (fun row => { row with state := .lost }) fun _ => rfl
  match assignment.runtimeId with
  | none => db
  | some runtimeId =>
    db.modifyRuntime runtimeId (stopRuntime (some .interrupted) none) fun _ => by simp

def registerWorker (body : Register) (restarted : Bool) (worker : Worker) : Worker :=
  applyInventoryMetrics body.inventory
    { worker with
      heartbeatSequence := if restarted then 0 else worker.heartbeatSequence
      instanceId := some body.instanceId
      protocolVersion := some 1
      inventory := some body.inventory
      gpuType := body.gpuType
      executionMode := body.inventory.mode
      executionReconciling := true
      authenticatedHeartbeatAt := some now }

@[simp]
theorem registerWorker_workerId (body : Register) (restarted : Bool) (worker : Worker) :
    (registerWorker now body restarted worker).workerId = worker.workerId := rfl

/-- The live fences a registration returns for reconciliation. -/
def reconcileAssignments (workerId : UUID) : List Fence :=
  (live db workerId).map fun assignment =>
    { instanceId := assignment.instanceId
      assignmentId := assignment.id
      attemptToken := assignment.attemptToken
      generation := assignment.generation }

/-- The database with a row for the registering Worker. -/
def ensureWorker (workerId : UUID) (body : Register) : Db :=
  { db with workers := (db.workers.insert (newWorker workerId body)).getD db.workers }

def register (workerId : UUID) (body : Register) : List Fence × Db :=
  let db := ensureWorker db workerId body
  let restarted := (db.workers.lookup workerId).bind Worker.instanceId != some body.instanceId
  let db := if restarted then (live db workerId).foldl interruptAssignment db else db
  let db := db.modifyWorker workerId (registerWorker now body restarted)
    (registerWorker_workerId now body restarted)
  (reconcileAssignments db workerId, db)

inductive Action where
  | renew
  | stop
  deriving DecidableEq, Repr

/-- What the Worker is to do with an assignment. -/
structure Decision where
  assignmentId : UUID
  action : Action
  leaseSeconds : Nat
  deriving DecidableEq, Repr

/-- The answer to a heartbeat. -/
structure HeartbeatReply where
  sequence : Nat
  decisions : List Decision
  deriving DecidableEq, Repr

/-- The report for an assignment; a later duplicate replaces an earlier one. -/
def Heartbeat.report (body : Heartbeat) (assignmentId : UUID) : Option Active :=
  body.assignments.reverse.find? fun report => report.assignmentId == assignmentId

/-- The inventory observation is recent enough to decide on. -/
def Heartbeat.fresh (body : Heartbeat) (settings : Settings) (now : Time) : Bool :=
  decide (|now - body.inventory.observedAt| ≤ (settings.freshSeconds : ℚ))

/-- A report renews its assignment: the checks made before the runtime is looked at. -/
def reportValid (fresh : Bool) (instanceId : UUID) (assignment : Assignment) :
    Option Active → Bool
  | none => false
  | some report =>
    fresh && report.instanceId == assignment.instanceId && assignment.instanceId == instanceId &&
      report.attemptToken == assignment.attemptToken &&
      report.generation == assignment.generation &&
      assignment.state != .lost && assignment.state != .cleaning &&
      decide (now < assignment.leaseUntil)

/-- Stop a runtime that is not ready at its startup deadline. -/
def enforceStartup (runtime : Runtime) : Runtime :=
  match runtime.startupDeadline with
  | none => runtime
  | some deadline =>
    if runtime.state ≠ RuntimeState.ready ∧ deadline ≤ now then
      stopRuntime (some .startFailed) none runtime
    else runtime

def enforceLifetime (runtime : Runtime) : Runtime :=
  match runtime.lifetimeDeadline with
  | none => runtime
  | some deadline => if deadline ≤ now then stopRuntime (some .timeUp) none runtime else runtime

/-- A present, non-empty key. -/
def presentKey (key : Option String) : Option String :=
  key.filter fun text => !text.isEmpty

/-- Record the SSH part of a report; the flag says that the host key changed. -/
def applySsh (ssh : SshReport) (runtime : Runtime) : Runtime × Bool :=
  let reported : Runtime :=
    { runtime with
      sshCapable := ssh.capable
      sshReady := ssh.ready
      sshStatus := ((if ssh.status.isEmpty then "disabled" else ssh.status).take 32).toString }
  match presentKey ssh.hostKey, presentKey runtime.sshHostKey with
  | some new, some old =>
    if new = old then (reported, false)
    else (stopRuntime (some .healthFailed) none reported, true)
  | some new, none =>
    ({ reported with
        sshHostKey := some new
        sshKeyFingerprint := ssh.fingerprint
        sshGeneration := some runtime.generation }, false)
  | none, _ => (reported, false)

/-- Record a valid report on its runtime; the flag says whether the lease may be renewed. -/
def applyReport (report : Active) (runtime : Runtime) : Runtime × Bool :=
  let (reported, changed) := applySsh report.ssh
    { runtime with health := some report.health, healthAt := some now }
  if reported.state = .ready ∧ !report.health.all then
    (stopRuntime (some .healthFailed) none reported, false)
  else (reported, !changed)

/-- What a heartbeat makes of the runtime of an assignment, and whether the lease is renewed. -/
def reviewRuntime (valid : Bool) (report : Option Active) (runtime : Runtime) : Runtime × Bool :=
  let runtime := enforceLifetime now (enforceStartup now runtime)
  match valid && decide (runtime.desiredState = .running), report with
  | true, some report => applyReport now report runtime
  | valid, _ => (runtime, valid)

/-- Quarantine the runtime of an assignment that was not renewed. -/
def loseRuntime (runtime : Runtime) : Runtime :=
  if runtime.desiredState = .running then { runtime with state := .lost } else runtime

/-- Renew one lease, or stop the assignment. -/
def concludeHeartbeat (valid : Bool) (assignment : Assignment) : Assignment :=
  if valid then { assignment with leaseUntil := now + settings.leaseSeconds }
  else if assignment.state = .cleaning then assignment
  else { assignment with state := .lost }

def heartbeatDecision (valid : Bool) (assignmentId : UUID) : Decision :=
  if valid then ⟨assignmentId, .renew, settings.leaseSeconds⟩ else ⟨assignmentId, .stop, 0⟩

@[simp]
theorem concludeHeartbeat_id (valid : Bool) (assignment : Assignment) :
    (concludeHeartbeat settings now valid assignment).id = assignment.id := by
  unfold concludeHeartbeat
  split_ifs <;> rfl

@[simp]
theorem enforceStartup_id (runtime : Runtime) : (enforceStartup now runtime).id = runtime.id := by
  unfold enforceStartup
  split
  · rfl
  · split_ifs <;> simp

@[simp]
theorem enforceLifetime_id (runtime : Runtime) : (enforceLifetime now runtime).id = runtime.id := by
  unfold enforceLifetime
  split
  · rfl
  · split_ifs <;> simp

@[simp]
theorem applySsh_id (ssh : SshReport) (runtime : Runtime) :
    (applySsh ssh runtime).1.id = runtime.id := by
  unfold applySsh
  dsimp only
  split
  · split_ifs <;> simp
  · rfl
  · rfl

@[simp]
theorem applyReport_id (report : Active) (runtime : Runtime) :
    (applyReport now report runtime).1.id = runtime.id := by
  unfold applyReport
  dsimp only
  split_ifs <;> simp

@[simp]
theorem reviewRuntime_id (valid : Bool) (report : Option Active) (runtime : Runtime) :
    (reviewRuntime now valid report runtime).1.id = runtime.id := by
  unfold reviewRuntime
  dsimp only
  split <;> simp

@[simp]
theorem loseRuntime_id (runtime : Runtime) : (loseRuntime runtime).id = runtime.id := by
  unfold loseRuntime
  split_ifs <;> rfl

def runtimeOf (assignment : Assignment) : Option Runtime :=
  assignment.runtimeId.bind db.runtimes.lookup

/-- Whether a heartbeat renews an assignment. -/
def renews (fresh : Bool) (body : Heartbeat) (db : Db) (assignment : Assignment) : Bool :=
  let valid := reportValid now fresh body.instanceId assignment (body.report assignment.id)
  match runtimeOf db assignment with
  | none => valid
  | some runtime => (reviewRuntime now valid (body.report assignment.id) runtime).2

/-- The runtime row after a heartbeat has been decided for its assignment. -/
def heartbeatRuntime (fresh : Bool) (body : Heartbeat) (assignment : Assignment)
    (runtime : Runtime) : Runtime :=
  let valid := reportValid now fresh body.instanceId assignment (body.report assignment.id)
  let reviewed := reviewRuntime now valid (body.report assignment.id) runtime
  if reviewed.2 then reviewed.1 else loseRuntime reviewed.1

@[simp]
theorem heartbeatRuntime_id (fresh : Bool) (body : Heartbeat) (assignment : Assignment)
    (runtime : Runtime) : (heartbeatRuntime now fresh body assignment runtime).id = runtime.id := by
  unfold heartbeatRuntime
  dsimp only
  split_ifs <;> simp

def heartbeatAssignment (fresh : Bool) (body : Heartbeat) (assignment : Assignment) (db : Db) :
    Db :=
  let valid := renews now fresh body db assignment
  let reviewed :=
    match assignment.runtimeId with
    | none => db
    | some runtimeId =>
      db.modifyRuntime runtimeId (heartbeatRuntime now fresh body assignment) fun _ => by simp
  reviewed.modifyAssignment assignment.id (concludeHeartbeat settings now valid) fun _ => by simp

def heartbeatLoop (settings : Settings) (now : Time) (fresh : Bool) (body : Heartbeat) :
    List Assignment → Db → Db × List Decision
  | [], db => (db, [])
  | assignment :: rest, db =>
    let decision :=
      heartbeatDecision settings (renews now fresh body db assignment) assignment.id
    let (after, decisions) := heartbeatLoop settings now fresh body rest
      (heartbeatAssignment settings now fresh body assignment db)
    (after, decision :: decisions)

/-- The Worker row written by an accepted heartbeat. -/
def heartbeatWorker (body : Heartbeat) (worker : Worker) : Worker :=
  applyInventoryMetrics body.inventory
    { worker with
      heartbeatSequence := body.sequence
      authenticatedHeartbeatAt := some now
      executionPaused := body.paused
      executionDraining := body.draining
      inventory := some body.inventory
      executionMode := body.inventory.mode }

@[simp]
theorem heartbeatWorker_workerId (body : Heartbeat) (worker : Worker) :
    (heartbeatWorker now body worker).workerId = worker.workerId := rfl

/-- The reported and the live assignments are the same set. -/
def sameAssignments (body : Heartbeat) (active : List Assignment) : Bool :=
  body.assignments.all (fun report => active.any fun assignment =>
      assignment.id == report.assignmentId) &&
    active.all fun assignment => (body.report assignment.id).isSome

/-- The Worker must reconcile before it receives new work. -/
def mustReconcile (body : Heartbeat) (fresh : Bool) (active : List Assignment) : Bool :=
  !fresh || body.inventory.mode == .reconciling || body.inventory.mode == .cleaning ||
    body.inventory.mode == .uncertain || active.any (·.state == .lost) ||
    !sameAssignments body active

def heartbeat (settings : Settings) (now : Time) (db : Db) (workerId : UUID) (body : Heartbeat) :
    Except HTTPException (HeartbeatReply × Db) :=
  match lockWorker db workerId with
  | .error exception => .error exception
  | .ok worker =>
    if worker.instanceId != some body.instanceId || body.sequence ≤ worker.heartbeatSequence then
      .error ⟨409, "Stale heartbeat"⟩
    else
      let fresh := body.fresh settings now
      let db := db.modifyWorker workerId (heartbeatWorker now body)
        (heartbeatWorker_workerId now body)
      let (db, decisions) :=
        heartbeatLoop settings now fresh body (live db workerId) db
      let db := db.modifyWorker workerId
        (fun worker => { worker with
          executionReconciling := mustReconcile body fresh (live db workerId) }) fun _ => rfl
      .ok ({ sequence := body.sequence, decisions }, db)

structure EventReply where
  accepted : Bool
  state : RuntimeState
  deriving DecidableEq, Repr

/-- Position of a runtime state in the startup order. -/
def startupRank : RuntimeState → Option Nat
  | .assigned => some 0
  | .pulling => some 1
  | .starting => some 2
  | .connecting => some 3
  | _ => none

def Phase.state : Phase → RuntimeState
  | .pulling => .pulling
  | .starting => .starting
  | .connecting => .connecting
  | .stopping => .stopping

/-- The event moves a startup phase backwards, or the runtime is past startup. -/
def illegalTransition (state : RuntimeState) (phase : Phase) : Bool :=
  match startupRank state, startupRank phase.state with
  | some current, some next => decide (next < current)
  | _, _ => true

/-- The runtime and the assignment state after a new event. -/
def eventTransition (body : Event) (runtime : Runtime) (assignment : Assignment) :
    Except HTTPException (Runtime × AssignmentState) :=
  if body.failureCode.isSome || body.phase == .stopping then
    .ok (stopRuntime body.failureCode none runtime, .cleaning)
  else if runtime.desiredState = .running then
    if illegalTransition runtime.state body.phase then
      .error ⟨409, "Illegal runtime transition"⟩
    else
      .ok ((applySsh body.ssh
        { runtime with
          state := body.phase.state
          health := some body.health
          healthAt := some now }).1, .active)
  else .ok (runtime, assignment.state)

def event (digest : Digest) (now : Time) (db : Db) (workerId : UUID) (body : Event) :
    Except HTTPException (EventReply × Db) :=
  match fence db workerId body.toFence now with
  | .error exception => .error exception
  | .ok (_, assignment) =>
    match assignment.runtimeId with
    | none => .error ⟨409, "Interactive event required"⟩
    | some runtimeId =>
      match db.runtimes.lookup runtimeId with
      | none => .error ⟨500, "Internal Server Error"⟩
      | some runtime =>
        if body.sequence ≤ assignment.eventSequence then
          if body.sequence = assignment.eventSequence ∧
              some (digest.event body) ≠ assignment.eventHash then
            .error ⟨409, "Event conflict"⟩
          else .ok ({ accepted := true, state := runtime.state }, db)
        else
          match eventTransition now body runtime assignment with
          | .error exception => .error exception
          | .ok (moved, state) =>
            let db := db.modifyRuntime runtimeId
              (fun row => { moved with id := row.id }) fun _ => rfl
            let db := db.modifyAssignment assignment.id
              (fun row => { row with
                state := state
                eventSequence := body.sequence
                eventHash := some (digest.event body) }) fun _ => rfl
            .ok ({ accepted := true, state := moved.state }, db)

/-- A result that its assignment's kind does not admit. -/
def resultRejection (assignment : Assignment) (value : ResultValue) : Option HTTPException :=
  if value.outcome = .estimation ∧ (assignment.kind ≠ .estimation ∨ value.vramRequired = none ∨
      value.ramRequired = none ∨ value.stepTime = none) then
    some ⟨422, "Valid estimation report required"⟩
  else if value.outcome = .completed ∧ assignment.kind ≠ .batch then
    some ⟨422, "Training completion required"⟩
  else none

def result (digest : Digest) (now : Time) (db : Db) (workerId : UUID) (body : Result) :
    Except HTTPException Db :=
  match fence db workerId body.toFence now with
  | .error exception => .error exception
  | .ok (_, assignment) =>
    if assignment.jobId.isNone then .error ⟨409, "Batch result required"⟩
    else if assignment.resultHash.isSome ∧
        assignment.resultHash ≠ some (digest.result body.value) then
      .error ⟨409, "Result conflict"⟩
    else
      match resultRejection assignment body.value with
      | some exception => .error exception
      | none =>
        .ok (db.modifyAssignment assignment.id
          (fun row => { row with
            result := some body.value
            resultHash := some (digest.result body.value)
            state := .cleaning }) fun _ => rfl)

/-- The lines a log request publishes; it writes no row. -/
def logs (now : Time) (db : Db) (workerId : UUID) (body : Logs) :
    Except HTTPException (UUID × List String) :=
  match fence db workerId body.toFence now with
  | .error exception => .error exception
  | .ok (_, assignment) =>
    match assignment.jobId with
    | none => .error ⟨409, "Batch logs required"⟩
    | some jobId => .ok (jobId, body.lines)

/-- The job status an assignment leaves behind without a usable result. -/
def retryStatus (assignment : Assignment) : JobStatus :=
  if assignment.kind = .estimation then .vramEstimationPending else .retryNeeded

/-- The job status a released assignment writes. -/
def settledStatus (assignment : Assignment) : JobStatus :=
  match assignment.result.map ResultValue.outcome with
  | some .estimation => .runnable
  | some .completed => .completed
  | some .userFailure => .failed
  | some .systemFailure | none => retryStatus assignment

/-- The other job columns a released assignment writes. -/
def settledJob (assignment : Assignment) (job : Job) : Job :=
  let settled : Job :=
    match assignment.result with
    | some { outcome := .estimation, vramRequired, ramRequired, stepTime } =>
      { job with vramRequired, ramRequired, stepTime }
    | some { outcome := .completed, .. } =>
      { job with
        gpuHour := some (match job.startedAt with
          | some startedAt => max 0 ((now - startedAt) / 3600)
          | none => 0) }
    | some { outcome := .userFailure, .. } =>
      { job with failureReason := some "Workload execution failed." }
    | some { outcome := .systemFailure, .. } | none =>
      { job with
        failureReason := some "Execution interrupted; previous attempt cleanup confirmed." }
  { settled with device := none }

@[simp]
theorem settledJob_id (assignment : Assignment) (job : Job) :
    (settledJob now assignment job).id = job.id := by
  unfold settledJob
  dsimp only
  split <;> rfl

def releaseRow (assignment : Assignment) : Assignment :=
  { assignment with state := .released, releasedAt := some now }

/-- The runtime must not be freed before management has revoked its enrollment. -/
def holdsRuntime (assignment : Assignment) : Bool :=
  match runtimeOf db assignment with
  | none => false
  | some runtime => !runtime.managementRevoked

def finishRuntime (runtime : Runtime) : Runtime :=
  { runtime with
    state := if runtime.failureCode.isSome then .failed else .stopped
    stoppedAt := some now }

/-- Settle the job or runtime of an acknowledged assignment. -/
def settleTarget (assignment : Assignment) : Db :=
  match assignment.target with
  | .interactive runtimeId _ => db.modifyRuntime runtimeId (finishRuntime now) fun _ => rfl
  | .estimation jobId | .batch jobId =>
    db.settleJob assignment.id jobId (settledStatus assignment) (settledJob now assignment)
      fun _ => by simp

/-- Release an assignment whose cleanup is acknowledged and whose runtime is not held. -/
def releaseIfClean (assignment : Assignment) : Bool × Db :=
  if assignment.releasedAt.isSome then (true, db)
  else if !assignment.cleanupAck then (false, db)
  else if holdsRuntime db assignment then (false, db)
  else
    (true, (settleTarget now db assignment).modifyAssignment assignment.id (releaseRow now)
      fun _ => rfl)

def acknowledge (assignment : Assignment) : Assignment := { assignment with cleanupAck := true }

/-- Stop the runtime whose cleanup is being acknowledged. -/
def stopForCleanup (failureCode : Option FailureCode) (assignment : Assignment) (db : Db) : Db :=
  match assignment.runtimeId with
  | none => db
  | some runtimeId => db.modifyRuntime runtimeId (stopRuntime failureCode none) fun _ => by simp

def cleanup (workerId : UUID) (body : Cleanup) : Except HTTPException (Bool × Db) :=
  match fence db workerId body.toFence now true with
  | .error exception => .error exception
  | .ok (_, assignment) =>
    if assignment.releasedAt.isSome then .ok (true, db)
    else if body.failureCode.isSome ∧ assignment.runtimeId.isNone then
      .error ⟨422, "Runtime failure code requires interactive assignment"⟩
    else
      let db := db.modifyAssignment assignment.id acknowledge fun _ => rfl
      let db := stopForCleanup body.failureCode assignment db
      .ok (releaseIfClean now db (acknowledge assignment))

/-- Retire an expired job attempt, so that another Worker can retry the job. -/
def tombstone (assignment : Assignment) (jobId : UUID) : Db :=
  (db.settleJob assignment.id jobId (retryStatus assignment)
    (fun job => { job with
      device := none
      failureReason := some "Worker assignment lease expired; retry required." })
    fun _ => rfl).modifyAssignment assignment.id (releaseRow now) fun _ => rfl

def leaseLost (runtime : Runtime) : Runtime :=
  if runtime.desiredState = .running then
    { runtime with state := .lost, failureCode := some .leaseLost }
  else runtime

/-- Expire one live assignment whose lease has passed. -/
def expireAssignment (assignment : Assignment) : Db :=
  if now < assignment.leaseUntil then db
  else
    match assignment.target with
    | .estimation jobId | .batch jobId => tombstone now db assignment jobId
    | .interactive runtimeId _ =>
      (db.modifyAssignment assignment.id (fun row => { row with state := .lost }) fun _ => rfl
        ).modifyRuntime runtimeId leaseLost fun runtime => by unfold leaseLost; split_ifs <;> rfl

/-- Expire the live assignments of one Worker in one transaction. -/
def expireWorker (workerId : UUID) : Db :=
  let expired := (live db workerId).any fun assignment => decide (assignment.leaseUntil ≤ now)
  let db := (live db workerId).foldl (expireAssignment now) db
  if expired then
    db.modifyWorker workerId (fun worker => { worker with executionReconciling := true })
      fun _ => rfl
  else db

/-- The Workers that hold an unreleased assignment past its lease. -/
def expiredWorkers : List UUID :=
  ((db.assignments.rows.filter fun assignment =>
    assignment.releasedAt.isNone && decide (assignment.leaseUntil ≤ now)).map
      fun assignment => assignment.workerId).dedup

def expire : Db :=
  (expiredWorkers now db).foldl (expireWorker now) db

end TrainingScheduler
