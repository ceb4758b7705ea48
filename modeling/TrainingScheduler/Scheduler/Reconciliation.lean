import TrainingScheduler.Management.Schema
import TrainingScheduler.Scheduler.Runs
import TrainingScheduler.Scheduler.Runtimes

/-!
# Reconciliation and bootstrap in flight

`reconcile_one` and `bootstrap` of `interactive_controller.py` as programs that stop at every call
to the management service.  The query of a pass, its transactions, the answers to its calls and its
`finally` block are steps of their own, so anything may commit in between, and a process may crash
at every point.
-/

namespace TrainingScheduler

/-- A request of the controller. -/
inductive ManagementRequest where
  | status (enrollment : UUID)
  | enroll (resource : UUID) (generation : Nat)
  | revokeEnrollment (enrollment : UUID)
  | revokeEndpoint (resource : UUID)
  | confirm (enrollment : UUID) (generation : Nat)
  | register (resource : UUID) (body : Management.Register)
  | lease (resource : UUID) (generation : Nat)
  deriving DecidableEq, Repr

/-- The fields that the controller reads of an answer. -/
inductive ManagementReply where
  | status (state : Management.EnrollmentState)
  | key (enrollment : UUID)
  | endpoint (version : UUID) (state : Management.EndpointState)
  deriving DecidableEq, Repr

/-- The call at which a pass waits. -/
inductive PassCall where
  | status
  | denyResource
  | denyEnrollment
  | recheck
  | recover
  | withdraw (enrollment : UUID)
  | confirm
  | register
  | lease
  | undo
  deriving DecidableEq, Repr

/-- What the calls of a pass leave for its closing transaction. -/
structure Outcome where
  enrollment : Option UUID
  revoked : Bool
  endpoint : Option (UUID × Management.EndpointState)
  deriving DecidableEq, Repr

/-- Where a pass stands after its first transaction. -/
inductive PassPoint where
  | calling (call : PassCall) (request : ManagementRequest)
  | concluding (outcome : Outcome)
  | rejecting
  | closing
  deriving DecidableEq, Repr

/-- What a pass remembers of the runtime and the assignment it locked. -/
structure Pass where
  token : UUID
  runtimeId : UUID
  assignmentId : UUID
  workerId : UUID
  resource : Option UUID
  enrollment : Option UUID
  generation : Nat
  owner : UUID
  service : String
  desired : DesiredState
  phase : RuntimeState
  enrollmentStarted : Bool
  fresh : Bool
  healthy : Bool
  deriving DecidableEq, Repr

variable (token : UUID) (now leaseUntil : Time) (runtime : Runtime)

/-- The last health report is at most 15 seconds old. -/
def Runtime.fresh : Bool :=
  runtime.healthAt.any fun healthAt => decide (now - 15 < healthAt)

def Runtime.healthy : Bool := runtime.health.any Health.all

/-- The filter of the query. -/
def reconcilable : Bool :=
  runtime.assignmentId.isSome && !runtime.state.ended &&
    (runtime.state ∈ [RuntimeState.connecting, .ready, .lost, .stopping] ||
      runtime.desiredState == .stopped ||
      runtime.startupDeadline.any fun deadline => decide (deadline ≤ now)) &&
    !controllerBusy now runtime

/-- `order_by(health_at.asc().nullsfirst(), id)`. -/
def reportedEarlier (left right : Runtime) : Bool :=
  match left.healthAt, right.healthAt with
  | none, none => decide (left.id < right.id)
  | none, some _ => true
  | some _, none => false
  | some leftAt, some rightAt =>
    decide (leftAt < rightAt) || leftAt == rightAt && decide (left.id < right.id)

/-- The unlocked reads of a pass: its candidate, and the assignment as it stands at this moment. -/
def reconcileCandidate (db : Db) : Option (UUID × Assignment) :=
  (firstBy reportedEarlier (db.runtimes.rows.filter (reconcilable now))).bind fun runtime =>
    (runtime.assignmentId.bind db.assignments.lookup).map fun assignment =>
      (runtime.id, assignment)

/-- Stop a runtime that was lost, outlived the lease the pass has read, or did not start in time;
then one that is served without a recent report of good health. -/
def reconcileReview : Runtime :=
  let reviewed :=
    if runtime.state = .lost ∨ leaseUntil ≤ now ∨
        runtime.state ≠ .ready ∧ runtime.startupDeadline.any fun deadline => deadline ≤ now then
      stopRuntime (some (if runtime.state = .lost then .leaseLost else .startFailed)) none runtime
    else runtime
  if reviewed.state = .ready ∧ ¬(reviewed.fresh now ∧ reviewed.healthy) then
    stopRuntime (some .healthFailed) none reviewed
  else reviewed

def lockController : Runtime :=
  { runtime with controllerToken := some token, controllerUntil := some (now + 20) }

/-- The runtime as a pass leaves it with its first transaction. -/
def lockedRuntime : Runtime :=
  lockController token now (reconcileReview now leaseUntil runtime)

@[simp]
theorem reconcileReview_id : (reconcileReview now leaseUntil runtime).id = runtime.id := by
  unfold reconcileReview
  dsimp only
  split_ifs <;> simp

@[simp]
theorem lockedRuntime_id : (lockedRuntime token now leaseUntil runtime).id = runtime.id :=
  reconcileReview_id now leaseUntil runtime

/-- The local variables of a pass after its first transaction. -/
def passOf (assignment : Assignment) : Pass where
  token := token
  runtimeId := runtime.id
  assignmentId := assignment.id
  workerId := assignment.workerId
  resource := runtime.resourceId
  enrollment := runtime.enrollmentId
  generation := runtime.generation
  owner := runtime.ownerUserId
  service := runtime.accessService
  desired := runtime.desiredState
  phase := runtime.state
  enrollmentStarted := runtime.enrollmentStarted
  fresh := runtime.fresh now
  healthy := runtime.healthy

/-- The first transaction of a pass, on the candidate and the assignment read before the locks.  A
reservation taken meanwhile ends the pass. -/
def reconcileBegin (db : Db) (runtimeId : UUID) (assignment : Assignment) : Option (Pass × Db) :=
  match lockWorker db assignment.workerId, db.runtimes.lookup runtimeId with
  | .ok _, some runtime =>
    if controllerBusy now runtime then none
    else
      some (passOf token now (lockedRuntime token now assignment.leaseUntil runtime) assignment,
        db.modifyRuntime runtimeId (lockedRuntime token now assignment.leaseUntil)
          (lockedRuntime_id token now assignment.leaseUntil))
  | _, _ => none

namespace Pass

variable (pass : Pass)

/-- The request of a call; a path cannot be built from a missing identifier. -/
def request : PassCall → Option ManagementRequest
  | .status | .recheck => pass.enrollment.map .status
  | .denyResource | .undo => pass.resource.map .revokeEndpoint
  | .denyEnrollment => pass.enrollment.map .revokeEnrollment
  | .recover => pass.resource.map fun resource => .enroll resource pass.generation
  | .withdraw enrollment => some (.revokeEnrollment enrollment)
  | .confirm => pass.enrollment.map fun enrollment => .confirm enrollment pass.generation
  | .register =>
    match pass.resource, pass.enrollment with
    | some resource, some enrollment =>
      some (.register resource
        { generation := pass.generation
          owner := pass.owner
          enrollmentId := enrollment
          service := pass.service
          port := 9000 })
    | _, _ => none
  | .lease => pass.resource.map fun resource => .lease resource pass.generation

/-- Go on to a call. -/
def dial (call : PassCall) : PassPoint :=
  match pass.request call with
  | none => .closing
  | some request => .calling call request

/-- Where the calls of a pass start. -/
def first : PassPoint :=
  if pass.desired = .stopped then
    if !pass.enrollmentStarted then .concluding ⟨pass.enrollment, true, none⟩
    else if pass.enrollment.isSome then pass.dial .status
    else pass.dial .recover
  else if pass.enrollment.isSome && (pass.phase == .connecting || pass.phase == .ready) &&
      pass.fresh && pass.healthy then
    pass.dial .confirm
  else .concluding ⟨pass.enrollment, false, none⟩

/-- The handler of a pass: it fails the runtime on a definite refusal. -/
def raise (exception : HTTPException) : PassPoint :=
  if exception.status ∈ [409, 410, 422] then .rejecting else .closing

/-- The status says that the enrollment is gone. -/
def gone (state : Management.EnrollmentState) : Bool := state == .revoked || state == .expired

/-- Where a pass goes with the answer to a call. -/
def resume : PassCall → Except HTTPException ManagementReply → PassPoint
  | .status, .ok (.status state) =>
    if gone state then .concluding ⟨pass.enrollment, true, none⟩ else pass.dial .denyResource
  | .denyResource, .ok _ => pass.dial .denyEnrollment
  | .denyResource, .error exception =>
    if exception.status = 404 then pass.dial .denyEnrollment else raise exception
  | .denyEnrollment, .ok _ => pass.dial .recheck
  | .recheck, .ok (.status state) => .concluding ⟨pass.enrollment, gone state, none⟩
  | .recover, .ok (.key enrollment) => pass.dial (.withdraw enrollment)
  | .recover, .error exception =>
    if exception.status = 410 then .concluding ⟨pass.enrollment, true, none⟩
    else raise exception
  | .withdraw enrollment, .ok _ => .concluding ⟨some enrollment, false, none⟩
  | .withdraw enrollment, .error exception =>
    if exception.status = 410 then .concluding ⟨some enrollment, true, none⟩
    else raise exception
  | .confirm, .ok _ => pass.dial .register
  | .register, .ok _ => pass.dial .lease
  | .lease, .ok (.endpoint version state) =>
    .concluding ⟨pass.enrollment, false, some (version, state)⟩
  | _, .error exception => raise exception
  -- An answer without the expected field raises `KeyError`, which no handler catches.
  | _, .ok _ => .closing

/-- The runtime may be marked as served by its endpoint. -/
def servable (now : Time) (runtime : Runtime) (assignment : Assignment) : Bool :=
  runtime.desiredState == .running && runtime.fresh now && runtime.healthy &&
    assignment.state != .lost && assignment.state != .cleaning &&
    decide (now < assignment.leaseUntil)

/-- Record the endpoint of a runtime, which is ready when its endpoint is. -/
def markServed (now : Time) (version : UUID) (state : Management.EndpointState)
    (runtime : Runtime) : Runtime :=
  if state = .ready then
    { runtime with
      endpointVersion := some version
      state := .ready
      readyAt := runtime.readyAt <|> some now }
  else { runtime with endpointVersion := some version }

@[simp]
theorem markServed_id (now : Time) (version : UUID) (state : Management.EndpointState)
    (runtime : Runtime) : (markServed now version state runtime).id = runtime.id := by
  unfold markServed
  split_ifs <;> rfl

/-- The closing transaction of a pass whose runtime was to run. -/
def concludeRunning (now : Time) (db : Db) (runtime : Runtime)
    (endpoint : Option (UUID × Management.EndpointState)) : Db × PassPoint :=
  match endpoint with
  | none => (db, .closing)
  | some (version, state) =>
    if (db.assignments.lookup pass.assignmentId).any (servable now runtime) then
      (db.modifyRuntime pass.runtimeId (markServed now version state)
        (markServed_id now version state), .closing)
    else if runtime.desiredState = .stopped then (db, pass.dial .undo)
    else (db, .closing)

def conclude (now : Time) (db : Db) (outcome : Outcome) : Db × PassPoint :=
  match lockWorker db pass.workerId, db.runtimes.lookup pass.runtimeId with
  | .error exception, _ => (db, raise exception)
  | .ok _, none => (db, .closing)
  | .ok _, some runtime =>
    if runtime.controllerToken ≠ some pass.token ∨ !controllerBusy now runtime then
      (db, .closing)
    else if pass.desired = .stopped then
      (concludeStop pass.token now db pass.assignmentId outcome.enrollment outcome.revoked,
        .closing)
    else pass.concludeRunning now db runtime outcome.endpoint

/-- The transaction of the handler. -/
def reject (db : Db) : Db :=
  match lockWorker db pass.workerId with
  | .error _ => db
  | .ok _ => db.modifyRuntime pass.runtimeId (stopRuntime (some .startFailed) none) fun _ => by simp

/-- Give up the reservation of a pass, with a pause before the next one. -/
def backOff (token : UUID) (now : Time) (runtime : Runtime) : Runtime :=
  if runtime.controllerToken = some token then
    { runtime with controllerToken := none, controllerUntil := some (now + 5) }
  else runtime

@[simp]
theorem backOff_id (token : UUID) (now : Time) (runtime : Runtime) :
    (backOff token now runtime).id = runtime.id := by
  unfold backOff
  split_ifs <;> rfl

/-- The `finally` block of a pass. -/
def close (now : Time) (db : Db) : Db :=
  db.modifyRuntime pass.runtimeId (backOff pass.token now) (backOff_id pass.token now)

end Pass

/-- The call at which a bootstrap request waits. -/
inductive BootCall where
  | status
  | enroll
  | withdraw
  deriving DecidableEq, Repr

/-- Where a bootstrap request stands after its first transaction. -/
inductive BootPoint where
  | calling (call : BootCall) (request : ManagementRequest)
  | recording (reply : EnrollmentReply)
  | closing
  deriving DecidableEq, Repr

structure Boot where
  token : UUID
  workerId : UUID
  body : Fence
  call : Enrollment
  deriving DecidableEq, Repr

namespace Boot

def dial (call : BootCall) : Option ManagementRequest → BootPoint
  | none => .closing
  | some request => .calling call request

def dialEnroll (boot : Boot) : BootPoint :=
  dial .enroll (boot.call.resource.map fun resource => .enroll resource boot.call.generation)

/-- Where the calls of a bootstrap request start. -/
def first (boot : Boot) : BootPoint :=
  match boot.call.enrollment with
  | some enrollment => .calling .status (.status enrollment)
  | none => boot.dialEnroll

/-- Where a bootstrap request goes with the answer to a call. -/
def resume (boot : Boot) : BootCall → Except HTTPException ManagementReply → BootPoint
  | .status, .ok (.status .confirmed) => .recording { alreadyEnrolled := true }
  | .status, .ok (.status _) => boot.dialEnroll
  | .enroll, .ok (.key enrollment) => .recording { enrollmentId := some enrollment }
  | _, _ => .closing

/-- The second transaction, after which a request that was stopped withdraws its enrollment. -/
def record (boot : Boot) (now : Time) (db : Db) (reply : EnrollmentReply) : Db × BootPoint :=
  match bootstrapEnd boot.token now db boot.workerId boot.body boot.call reply with
  | (.error ⟨409, _⟩, after) => (after, dial .withdraw (reply.enrollmentId.map .revokeEnrollment))
  | (_, after) => (after, .closing)

end Boot

/-- A program of the controller between two of its steps. -/
inductive Flight where
  | selected (runtimeId : UUID) (assignment : Assignment)
  | reconciling (pass : Pass) (point : PassPoint)
  | bootstrapping (boot : Boot) (point : BootPoint)
  deriving DecidableEq, Repr

/-- The committed database and the programs in flight. -/
structure Control where
  db : Db
  flights : ℕ → Option Flight := fun _ => none

/-- A step of the Scheduler: a transaction of one of its operations, a step of a program in flight,
or its crash.  The rest of the Scheduler may rewrite Workers and jobs. -/
inductive Act where
  | start (settings : Settings) (operator : Operator) (catalog : Catalog) (owner workspaceId : UUID)
      (key : String) (body : Start) (newId : UUID)
  | stop (owner runtimeId : UUID)
  | operate (op : Op)
  | select (flight : ℕ)
  | lock (flight : ℕ) (token : UUID)
  | bootstrap (flight : ℕ) (token workerId : UUID) (body : Fence)
  | answer (flight : ℕ) (reply : Except HTTPException ManagementReply)
  | conclude (flight : ℕ)
  | reject (flight : ℕ)
  | close (flight : ℕ)
  | crash (flight : ℕ)
  | elsewhere (workers : Table Worker.workerId) (jobs : Table Job.id)

/-- The operation is a transaction of its own, not the conclusion of a pass. -/
def Op.direct : Op → Bool
  | .concludeStop .. => false
  | _ => true

namespace Control

def setFlight (control : Control) (flight : ℕ) (state : Option Flight) : Control :=
  { control with flights := Function.update control.flights flight state }

def perform (digest : Digest) (now : Time) (control : Control) : Act → Control
  | .start settings operator catalog owner workspaceId key body newId =>
    { control with
      db := commit control.db
        (start settings operator catalog now control.db owner workspaceId key body newId) }
  | .stop owner runtimeId =>
    { control with db := commit control.db (stop now control.db owner runtimeId) }
  | .operate op =>
    if op.direct then { control with db := op.apply digest now control.db } else control
  | .select flight =>
    match control.flights flight, reconcileCandidate now control.db with
    | none, some (runtimeId, assignment) =>
      control.setFlight flight (some (.selected runtimeId assignment))
    | _, _ => control
  | .lock flight token =>
    match control.flights flight with
    | some (.selected runtimeId assignment) =>
      match reconcileBegin token now control.db runtimeId assignment with
      | none => control.setFlight flight none
      | some (pass, db) =>
        { control with db }.setFlight flight (some (.reconciling pass pass.first))
    | _ => control
  | .bootstrap flight token workerId body =>
    match control.flights flight, bootstrapBegin token now control.db workerId body with
    | none, .ok (call, db) =>
      let boot : Boot := { token, workerId, body, call }
      { control with db }.setFlight flight (some (.bootstrapping boot boot.first))
    | _, _ => control
  | .answer flight reply =>
    match control.flights flight with
    | some (.reconciling pass (.calling call _)) =>
      control.setFlight flight (some (.reconciling pass (pass.resume call reply)))
    | some (.bootstrapping boot (.calling call _)) =>
      control.setFlight flight (some (.bootstrapping boot (boot.resume call reply)))
    | _ => control
  | .conclude flight =>
    match control.flights flight with
    | some (.reconciling pass (.concluding outcome)) =>
      let (db, point) := pass.conclude now control.db outcome
      { control with db }.setFlight flight (some (.reconciling pass point))
    | some (.bootstrapping boot (.recording reply)) =>
      let (db, point) := boot.record now control.db reply
      { control with db }.setFlight flight (some (.bootstrapping boot point))
    | _ => control
  | .reject flight =>
    match control.flights flight with
    | some (.reconciling pass .rejecting) =>
      { control with db := pass.reject control.db }.setFlight flight
        (some (.reconciling pass .closing))
    | _ => control
  | .close flight =>
    match control.flights flight with
    | some (.reconciling pass .closing) =>
      { control with db := pass.close now control.db }.setFlight flight none
    | some (.bootstrapping boot .closing) =>
      { control with db := bootstrapFinally boot.token control.db boot.call }.setFlight flight
        none
    | _ => control
  | .crash flight => control.setFlight flight none
  | .elsewhere workers jobs => { control with db := { control.db with workers, jobs } }

/-- The Scheduler after a sequence of steps, each at its own time. -/
def performAll (digest : Digest) (control : Control) (acts : List (Time × Act)) : Control :=
  acts.foldl (fun control act => control.perform digest act.1 act.2) control

end Control

namespace Deployment

def operator : Operator where
  canonical := some
  resourceProfile _ := .ok
    { version := "v1", platform := .linuxAmd64, cpu := 2, memoryGb := 8, diskGb := 20
      pullHeadroomGb := 10, pids := 512, minimumVramGb := 16, gpuModels := [], allowRoot := false
      allowInternet := false, developerMode := false, sshCapable := false }
  digest _ := ""

def catalog : Catalog where
  workspaces := ⟨[{ id := 5, ownerUserId := 7, currentRevisionId := some 50 }], by decide⟩
  revisions := ⟨[⟨50, 5, .imageReady, "registry/workspace@sha256:0", none, none⟩], by decide⟩

def startRuntime : Act := .start settings operator catalog 7 5 "start" {} 300

/-- The Worker claims under request 1 and is granted the runtime, as assignment 1001. -/
def placeRuntime : Act := .operate (.claim settings (threeTier 0) (fun _ => (1001, 2001)) 1 ⟨10, 1⟩)

def runtimeFence : Fence := ⟨10, 1001, 2001, some 1⟩

end Deployment

end TrainingScheduler
