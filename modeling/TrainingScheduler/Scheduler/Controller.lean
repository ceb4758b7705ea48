import TrainingScheduler.Scheduler.Operations

/-!
# Endpoint controller

`bootstrap` of `interactive_controller.py` behind its route, and the transaction that concludes the
reconciliation of a stopped runtime.  A bootstrap request reserves the runtime in one transaction,
calls the management service outside any transaction, and records the enrollment in a second one;
other transactions may commit in between.
-/

namespace TrainingScheduler

/-- The management service's answer to an enrollment call. -/
structure EnrollmentReply where
  enrollmentId : Option UUID := none
  alreadyEnrolled : Bool := false
  deriving DecidableEq, Repr

/-- What a bootstrap request remembers across the management call. -/
structure Enrollment where
  runtimeId : UUID
  resource : Option UUID
  generation : Nat
  enrollment : Option UUID
  deriving DecidableEq, Repr

variable (token : UUID) (now : Time)

/-- A reconciliation of the runtime is in progress. -/
def controllerBusy (runtime : Runtime) : Bool :=
  match runtime.controllerUntil with
  | none => false
  | some deadline => decide (now < deadline)

def reserveController (runtime : Runtime) : Runtime :=
  { runtime with
    enrollmentStarted := true
    controllerToken := some token
    controllerUntil := some (now + 20) }

def releaseController (runtime : Runtime) : Runtime :=
  if runtime.controllerToken = some token then
    { runtime with controllerToken := none, controllerUntil := none }
  else runtime

@[simp]
theorem releaseController_id (runtime : Runtime) :
    (releaseController token runtime).id = runtime.id := by
  unfold releaseController
  split_ifs <;> rfl

def bootstrapBegin (db : Db) (workerId : UUID) (body : Fence) :
    Except HTTPException (Enrollment × Db) :=
  match fence db workerId body now with
  | .error exception => .error exception
  | .ok (_, assignment) =>
    match assignment.runtimeId with
    | none => .error ⟨409, "Interactive bootstrap required"⟩
    | some runtimeId =>
      match db.runtimes.lookup runtimeId with
      | none => .error ⟨500, "Internal Server Error"⟩
      | some runtime =>
        if runtime.desiredState ≠ .running ∨
            (runtime.state ≠ .starting ∧ runtime.state ≠ .connecting) then
          .error ⟨409, "Runtime stopping"⟩
        else if controllerBusy now runtime then
          .error ⟨503, "Enrollment reconciliation in progress"⟩
        else
          .ok (⟨runtimeId, runtime.resourceId, runtime.generation, runtime.enrollmentId⟩,
            db.modifyRuntime runtimeId (reserveController token now) fun _ => rfl)

/-- Drop the reservation that a request may still hold on its runtime. -/
def bootstrapFinally (db : Db) (call : Enrollment) : Db :=
  db.modifyRuntime call.runtimeId (releaseController token) fun _ => by simp

/-- The enrollment outlived its reservation, its Worker instance or its lease. -/
def enrollmentStopped (db : Db) (worker : Worker) (body : Fence) (runtime : Runtime) : Bool :=
  runtime.desiredState != .running || runtime.controllerToken != some token ||
    (match runtime.controllerUntil with
      | none => true
      | some deadline => decide (deadline ≤ now)) ||
    worker.instanceId != some body.instanceId ||
    (match db.assignments.lookup body.assignmentId with
      | none => true
      | some assignment => decide (assignment.leaseUntil ≤ now))

def bootstrapEnd (db : Db) (workerId : UUID) (body : Fence) (call : Enrollment)
    (reply : EnrollmentReply) : Except HTTPException EnrollmentReply × Db :=
  match lockWorker db workerId, db.runtimes.lookup call.runtimeId with
  | .error exception, _ => (.error exception, bootstrapFinally token db call)
  | .ok _, none => (.error ⟨500, "Internal Server Error"⟩, bootstrapFinally token db call)
  | .ok worker, some runtime =>
    let recorded := db.modifyRuntime call.runtimeId
      (fun row => { row with enrollmentId := reply.enrollmentId <|> call.enrollment })
      fun _ => rfl
    (if enrollmentStopped token now db worker body runtime then
      .error ⟨409, "Runtime changed during enrollment"⟩ else .ok reply,
      bootstrapFinally token recorded call)

/-- One bootstrap request, with the database it leaves behind.  The route fences the request before
it builds the management client; `meanwhile` stands for the transactions that commit during the
management call. -/
def bootstrap (later : Time) (meanwhile : Db → Db)
    (management : Option (Enrollment → Except HTTPException EnrollmentReply)) (db : Db)
    (workerId : UUID) (body : Fence) : Except HTTPException EnrollmentReply × Db :=
  match fence db workerId body now, management with
  | .error exception, _ => (.error exception, db)
  | .ok _, none => (.error ⟨503, "Endpoint service unavailable"⟩, db)
  | .ok _, some client =>
    match bootstrapBegin token now db workerId body with
    | .error exception => (.error exception, db)
    | .ok (call, reserved) =>
      match client call with
      | .error exception =>
        (.error exception, bootstrapFinally token (meanwhile reserved) call)
      | .ok reply => bootstrapEnd token later (meanwhile reserved) workerId body call reply

/-- The closing transaction of `reconcile_one` for a runtime that is to stop: record whether
management has revoked its enrollment, and release the assignment when its cleanup is acknowledged.
A reservation that another controller took over rolls it back. -/
def concludeStop (db : Db) (assignmentId : UUID) (enrollment : Option UUID) (revoked : Bool) : Db :=
  match db.assignments.lookup assignmentId with
  | none => db
  | some assignment =>
    match runtimeOf db assignment with
    | none => db
    | some runtime =>
      if runtime.controllerToken = some token ∧ controllerBusy now runtime then
        (releaseIfClean now
          (db.modifyRuntime runtime.id (fun row =>
            { row with enrollmentId := enrollment, managementRevoked := revoked }) fun _ => rfl)
          assignment).2
      else db

end TrainingScheduler
