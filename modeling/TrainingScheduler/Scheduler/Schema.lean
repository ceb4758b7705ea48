import Mathlib.Data.Rat.Defs
import TrainingScheduler.Table

/-!
# Scheduler rows and wire bodies

The four tables touched by the reservation layer (`workers`, `jobs`, `interactive_runtimes` and
`worker_assignments`) and the request bodies of the Worker execution routes.  Identifiers are opaque
and only compared, so they are natural numbers; instants and durations are rational seconds, and
gigabyte quantities are exact rationals.
-/

namespace TrainingScheduler

/-- An opaque identifier minted by `uuid4`. -/
abbrev UUID := Nat

/-- An instant, in seconds. -/
abbrev Time := ℚ

/-- A hexadecimal digest. -/
abbrev Hash := String

/-- A rejected request: HTTP status and detail. -/
structure HTTPException where
  status : Nat
  detail : String
  deriving DecidableEq, Repr

/-- What an assignment is for. -/
inductive Kind where
  | estimation
  | batch
  | interactive
  deriving DecidableEq, Repr

inductive JobStatus where
  | notRunnable
  | imageReady
  | vramEstimationPending
  | runnable
  | inProgress
  | imageBuilding
  | completed
  | failed
  | retryNeeded
  deriving DecidableEq, Repr

/-- Phases of an assignment. -/
inductive AssignmentState where
  | claimed
  | active
  | cleaning
  | lost
  | released
  deriving DecidableEq, Repr

/-- Phases of an interactive runtime. -/
inductive RuntimeState where
  | queued
  | assigned
  | pulling
  | starting
  | connecting
  | ready
  | stopping
  | lost
  | stopped
  | failed
  deriving DecidableEq, Repr

/-- What the owner wants of a runtime. -/
inductive DesiredState where
  | running
  | stopped
  deriving DecidableEq, Repr

/-- Execution mode reported by a Worker. -/
inductive Mode where
  | reconciling
  | available
  | batchActive
  | interactiveReserved
  | interactiveActive
  | cleaning
  | uncertain
  deriving DecidableEq, Repr

/-- The lower-case mode name used in placement reasons. -/
def Mode.lower : Mode → String
  | .reconciling => "reconciling"
  | .available => "available"
  | .batchActive => "batch_active"
  | .interactiveReserved => "interactive_reserved"
  | .interactiveActive => "interactive_active"
  | .cleaning => "cleaning"
  | .uncertain => "uncertain"

inductive Platform where
  | linuxAmd64
  | linuxArm64
  deriving DecidableEq, Repr

inductive FailureCode where
  | pullFailed
  | unsupportedImage
  | gpuBusy
  | diskFull
  | startFailed
  | healthFailed
  | leaseLost
  | interrupted
  | localConflict
  | timeUp
  deriving DecidableEq, Repr

/-- Phase named by an interactive event. -/
inductive Phase where
  | pulling
  | starting
  | connecting
  | stopping
  deriving DecidableEq, Repr

inductive ResultOutcome where
  | completed
  | estimation
  | userFailure
  | systemFailure
  deriving DecidableEq, Repr

structure GPU where
  uuid : String
  model : String
  memoryGb : ℚ
  busy : Bool
  processes : List Int
  deriving DecidableEq, Repr

/-- What a Worker reports about itself. -/
structure Inventory where
  complete : Bool
  observedAt : Time
  mode : Mode
  availableSlots : Nat
  localAssignments : List UUID
  freeVramGb : ℚ
  freeRamGb : ℚ
  freeDiskGb : ℚ
  cpuCores : Nat
  hostname : Option String := none
  ipAddress : Option String := none
  cpuLoad : Option ℚ := none
  memUsage : Option ℚ := none
  totalRam : Option ℚ := none
  totalDisk : Option ℚ := none
  availableDisk : Option ℚ := none
  gpuLoad : Option ℚ := none
  gpusInUse : Option Nat := none
  platform : Platform
  nvidiaRuntime : Bool
  quotaSupported : Bool
  interactiveReady : Bool
  developerModeCapable : Bool := false
  internetEgressCapable : Bool := false
  sshCapable : Bool := false
  gpus : List GPU
  deriving DecidableEq, Repr

/-- The pinned resource profile of an interactive runtime. -/
structure LaunchSpec where
  version : String
  platform : Platform
  cpu : ℚ
  memoryGb : ℚ
  diskGb : Nat
  pullHeadroomGb : Nat
  pids : Nat
  minimumVramGb : ℚ
  gpuModels : List String
  allowRoot : Bool
  allowInternet : Bool
  developerMode : Bool
  sshCapable : Bool
  deriving DecidableEq, Repr

/-- Execution deadlines and gates, `Settings` of the scheduling package. -/
structure Settings where
  admission : Bool := false
  interactive : Bool := false
  leaseSeconds : Nat := 45
  freshSeconds : Nat := 15
  startupSeconds : Nat := 1920
  lifetimeSeconds : Nat := 0
  workspaceEditor : Bool := false
  deriving DecidableEq, Repr

/-- A row of `workers`. -/
structure Worker where
  workerId : UUID
  gpuType : String
  numGpus : Nat
  totalVram : ℚ
  gpusInUse : Option Nat := none
  availableVram : Option ℚ := none
  hostname : Option String := none
  ipAddress : Option String := none
  gpuLoad : Option ℚ := none
  cpuLoad : Option ℚ := none
  memUsage : Option ℚ := none
  cpuCores : Option Nat := none
  totalRam : Option ℚ := none
  totalDisk : Option ℚ := none
  availableDisk : Option ℚ := none
  isTesting : Option Bool := none
  protocolVersion : Option Nat := none
  instanceId : Option UUID := none
  authenticatedHeartbeatAt : Option Time := none
  inventory : Option Inventory := none
  executionMode : Mode := .reconciling
  executionPaused : Bool := false
  executionDraining : Bool := false
  adminRestricted : Bool := false
  executionReconciling : Bool := true
  heartbeatSequence : Nat := 0
  deriving DecidableEq, Repr

inductive SourceKind where
  | archive
  | packagesOnly
  | workspaceRevision
  deriving DecidableEq, Repr

inductive JobPriority where
  | normal
  | requested
  | high
  deriving DecidableEq, Repr

/-- The columns of `jobs` that describe the submission and its image build.  The reservation layer
writes none of them. -/
structure JobImage where
  userId : UUID := 0
  objectKey : Option String := none
  sourceKind : SourceKind := .archive
  sourceWorkspaceId : Option UUID := none
  sourceRevisionId : Option UUID := none
  command : Option String := none
  resumeCommand : Option String := none
  priority : JobPriority := .normal
  reasonForPriority : Option String := none
  imageBuilderId : Option String := none
  imageBuildAttemptId : Option UUID := none
  imageBuildStartedAt : Option Time := none
  imageBuildExcludedBuilderId : Option String := none
  imageBuildExcludedUntil : Option Time := none
  imageTag : Option String := none
  deriving DecidableEq, Repr

/-- A row of `jobs`. -/
structure Job extends JobImage where
  id : UUID
  status : JobStatus
  vramRequired : Option ℚ := none
  ramRequired : Option ℚ := none
  stepTime : Option ℚ := none
  gpuHour : Option ℚ := none
  startedAt : Option Time := none
  device : Option String := none
  failureReason : Option String := none
  createdAt : Time := 0
  deriving DecidableEq, Repr

/-- Component health of one interactive runtime. -/
structure Health where
  workload : Bool := false
  broker : Bool := false
  access : Bool := false
  endpoint : Bool := false
  deriving DecidableEq, Repr

/-- `all(health.values())`. -/
def Health.all (health : Health) : Bool :=
  health.workload && health.broker && health.access && health.endpoint

/-- What an event reports about SSH. -/
structure SshReport where
  capable : Bool := false
  ready : Bool := false
  status : String := "disabled"
  hostKey : Option String := none
  fingerprint : Option String := none
  deriving DecidableEq, Repr

/-- A row of `interactive_runtimes`. -/
structure Runtime where
  id : UUID
  workspaceId : UUID
  ownerUserId : UUID
  revisionId : UUID
  imageDigestRef : String
  generation : Nat
  launchSpec : LaunchSpec
  desiredState : DesiredState := .running
  state : RuntimeState := .queued
  assignmentId : Option UUID := none
  createdAt : Time
  assignedAt : Option Time := none
  readyAt : Option Time := none
  stoppedAt : Option Time := none
  startupDeadline : Option Time := none
  lifetimeDeadline : Option Time := none
  healthAt : Option Time := none
  health : Option Health := none
  failureCode : Option FailureCode := none
  failureDetail : Option String := none
  resourceId : Option UUID := none
  enrollmentStarted : Bool := false
  enrollmentId : Option UUID := none
  managementRevoked : Bool := false
  controllerToken : Option UUID := none
  controllerUntil : Option Time := none
  sshCapable : Bool := false
  sshReady : Bool := false
  sshStatus : String := "disabled"
  sshHostKey : Option String := none
  sshKeyFingerprint : Option String := none
  sshGeneration : Option Nat := none
  profileVersion : String := ""
  requestKey : String := ""
  requestHash : Hash := ""
  endpointVersion : Option UUID := none
  accessService : String := "terminal"
  applicationProtocol : String := "terminal-stream-v1"
  editorCapable : Bool := false
  deriving DecidableEq, Repr

/-- What an assignment reserves.  The `CHECK` constraint of `worker_assignments` ties kind, job,
runtime, generation and exclusivity together; here it holds by construction. -/
inductive Target where
  | estimation (jobId : UUID)
  | batch (jobId : UUID)
  | interactive (runtimeId : UUID) (generation : Nat)
  deriving DecidableEq, Repr

namespace Target

def kind : Target → Kind
  | estimation _ => .estimation
  | batch _ => .batch
  | interactive _ _ => .interactive

def jobId : Target → Option UUID
  | estimation job => some job
  | batch job => some job
  | interactive _ _ => none

def runtimeId : Target → Option UUID
  | interactive runtime _ => some runtime
  | estimation _ | batch _ => none

def generation : Target → Option Nat
  | interactive _ generation => some generation
  | estimation _ | batch _ => none

def exclusive : Target → Bool
  | interactive _ _ => true
  | estimation _ | batch _ => false

end Target

/-- Job payload of `_format_job_response`. -/
structure JobPayload where
  flag : String
  id : UUID
  userId : UUID := 0
  objectKey : Option String := none
  sourceKind : SourceKind := .archive
  trainingEligible : Bool := true
  command : Option String := none
  resumeCommand : Option String := none
  status : JobStatus
  priority : JobPriority := .normal
  reasonForPriority : Option String := none
  vramRequired : Option ℚ
  ramRequired : Option ℚ
  device : Option String
  imageTag : Option String := none
  imageBuilderId : Option String := none
  imageBuildAttemptId : Option UUID := none
  deriving DecidableEq, Repr

structure RuntimePayload where
  runtimeId : UUID
  workspaceId : UUID
  revisionId : UUID
  ownerId : UUID
  generation : Nat
  imageDigestRef : String
  gpuUuid : Option String
  launchSpec : LaunchSpec
  deriving DecidableEq, Repr

/-- What the Worker is told to run. -/
inductive Payload where
  | job (payload : JobPayload)
  | runtime (payload : RuntimePayload)
  deriving DecidableEq, Repr

/-- The outcome part of a batch result, without its fence. -/
structure ResultValue where
  outcome : ResultOutcome
  vramRequired : Option ℚ := none
  ramRequired : Option ℚ := none
  stepTime : Option ℚ := none
  deriving DecidableEq, Repr

/-- The columns of an assignment that no operation rewrites. -/
structure Grant where
  id : UUID
  workerId : UUID
  instanceId : UUID
  target : Target
  attemptToken : UUID
  requestId : UUID
  requestHash : Hash
  payload : Payload
  gpuUuid : Option String := none
  createdAt : Time
  deriving DecidableEq, Repr

/-- A row of `worker_assignments`. -/
structure Assignment extends Grant where
  state : AssignmentState := .claimed
  eventSequence : Nat := 0
  eventHash : Option Hash := none
  leaseUntil : Time
  releasedAt : Option Time := none
  cleanupAck : Bool := false
  result : Option ResultValue := none
  resultHash : Option Hash := none
  deriving DecidableEq, Repr

namespace Assignment

def kind (assignment : Assignment) : Kind := assignment.target.kind

def jobId (assignment : Assignment) : Option UUID := assignment.target.jobId

def runtimeId (assignment : Assignment) : Option UUID := assignment.target.runtimeId

def generation (assignment : Assignment) : Option Nat := assignment.target.generation

def exclusive (assignment : Assignment) : Bool := assignment.target.exclusive

/-- The assignment still reserves its Worker: `released_at` is null. -/
abbrev Unreleased (assignment : Assignment) : Prop := assignment.releasedAt = none

end Assignment

/-- The body of a claim. -/
structure Claim where
  instanceId : UUID
  requestId : UUID
  deriving DecidableEq, Repr

/-- Identity that every message about one attempt must carry. -/
structure Fence where
  instanceId : UUID
  assignmentId : UUID
  attemptToken : UUID
  generation : Option Nat := none
  deriving DecidableEq, Repr

/-- The body of a registration. -/
structure Register where
  instanceId : UUID
  gpuType : String
  inventory : Inventory
  deriving DecidableEq, Repr

/-- One assignment listed in a heartbeat. -/
structure Active extends Fence where
  health : Health := {}
  ssh : SshReport := {}
  deriving DecidableEq, Repr

/-- The body of a heartbeat. -/
structure Heartbeat where
  instanceId : UUID
  sequence : Nat
  paused : Bool
  draining : Bool
  inventory : Inventory
  assignments : List Active
  deriving DecidableEq, Repr

/-- A phase that the Worker reports. -/
structure Event extends Fence where
  sequence : Nat
  phase : Phase
  health : Health := {}
  failureCode : Option FailureCode := none
  ssh : SshReport := {}
  deriving DecidableEq, Repr

/-- A report of cleaned-up resources. -/
structure Cleanup extends Fence where
  failureCode : Option FailureCode := none
  deriving DecidableEq, Repr

/-- The outcome of an attempt. -/
structure Result extends Fence where
  value : ResultValue
  deriving DecidableEq, Repr

structure Logs extends Fence where
  lines : List String
  deriving DecidableEq, Repr

/-- SHA-256 of the canonical JSON dump, one function for each dumped body. -/
structure Digest where
  claim : Claim → Hash
  event : Event → Hash
  result : ResultValue → Hash

/-- One write of a job's status made for an assignment after its grant. -/
structure StatusWrite where
  assignmentId : UUID
  jobId : UUID
  status : JobStatus
  deriving DecidableEq, Repr

/-- Committed database contents.  `statusWrites` is a history variable: it records which assignment
settled which job and is read by no operation. -/
structure Db where
  workers : Table Worker.workerId
  jobs : Table Job.id
  runtimes : Table Runtime.id
  assignments : Table fun assignment : Assignment => assignment.id
  statusWrites : List StatusWrite := []

namespace Db

def modifyWorker (db : Db) (workerId : UUID) (f : Worker → Worker)
    (keeps : ∀ worker, (f worker).workerId = worker.workerId) : Db :=
  { db with workers := db.workers.modify workerId f keeps }

def modifyRuntime (db : Db) (runtimeId : UUID) (f : Runtime → Runtime)
    (keeps : ∀ runtime, (f runtime).id = runtime.id) : Db :=
  { db with runtimes := db.runtimes.modify runtimeId f keeps }

def modifyAssignment (db : Db) (assignmentId : UUID) (f : Assignment → Assignment)
    (keeps : ∀ assignment, (f assignment).id = assignment.id) : Db :=
  { db with assignments := db.assignments.modify assignmentId f keeps }

def modifyJob (db : Db) (jobId : UUID) (f : Job → Job) (keeps : ∀ job, (f job).id = job.id) : Db :=
  { db with jobs := db.jobs.modify jobId f keeps }

/-- Rewrite a job for an assignment and record the status it now has. -/
def settleJob (db : Db) (assignmentId jobId : UUID) (status : JobStatus) (f : Job → Job)
    (keeps : ∀ job, (f job).id = job.id) : Db :=
  { db.modifyJob jobId (fun job => { f job with status }) keeps with
    statusWrites := db.statusWrites ++ [⟨assignmentId, jobId, status⟩] }

end Db

end TrainingScheduler
