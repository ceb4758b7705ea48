import TrainingScheduler.Scheduler.Controller

/-!
# Interactive runtimes of an owner

`start` and `stop` of `interactive_runtime_service.py`.  A start holds the row lock of its workspace
from its first read to its commit, so starts of one workspace are serialized.
-/

namespace TrainingScheduler

/-- `ResourceRequirements`: the minimums that a user may select. -/
structure Requirements where
  gpuModel : Option String := none
  minimumVramGb : ℚ
  cpuCores : ℚ
  memoryGb : ℚ
  diskGb : Nat
  deriving DecidableEq, Repr

/-- The columns of `interactive_workspaces` that a start reads. -/
structure Workspace where
  id : UUID
  ownerUserId : UUID
  currentRevisionId : Option UUID := none
  savedRevisionId : Option UUID := none
  defaultResourceRequirements : Option Requirements := none
  deriving DecidableEq, Repr

inductive RevisionState where
  | queued
  | building
  | imageReady
  | failed
  | cancelled
  deriving DecidableEq, Repr

/-- The columns of `interactive_image_revisions` that a start reads. -/
structure Revision where
  id : UUID
  workspaceId : UUID
  state : RevisionState
  imageDigestRef : String
  developerProfile : Option String := none
  sshProfile : Option String := none
  deriving DecidableEq, Repr

/-- The workspaces and their image revisions. -/
structure Catalog where
  workspaces : Table Workspace.id
  revisions : Table Revision.id

structure Start where
  revisionId : Option UUID := none
  requirements : Option Requirements := none
  deriving DecidableEq, Repr

/-- How `resource_profile` fails. -/
inductive ProfileError where
  | valueError
  | other
  deriving DecidableEq, Repr

/-- The operator's side of a start: validation of requirements, the launch specification built from
them, the gate for SSH, and the hash of a request. -/
structure Operator where
  canonical : Requirements → Option Requirements
  resourceProfile : Option Requirements → Except ProfileError LaunchSpec
  sshEnabled : Bool := false
  digest : Start → Hash

def RuntimeState.ended (state : RuntimeState) : Bool := state == .stopped || state == .failed

def Db.runtimesOf (db : Db) (workspaceId : UUID) : List Runtime :=
  db.runtimes.rows.filter fun runtime => runtime.workspaceId == workspaceId

/-- The generation after the highest one of a workspace. -/
def nextGeneration (runtimes : List Runtime) : Nat :=
  (runtimes.map Runtime.generation).foldr max 0 + 1

variable (settings : Settings) (operator : Operator) (catalog : Catalog) (now : Time)

/-- The specification with the capabilities that the revision supports. -/
def pinSpec (revision : Revision) (spec : LaunchSpec) : LaunchSpec :=
  { spec with
    developerMode := spec.developerMode && revision.developerProfile == some "v1"
    sshCapable := operator.sshEnabled && revision.sshProfile == some "v1" }

/-- The specification is one that no Worker could launch. -/
def invalidSpec (spec : LaunchSpec) : Bool :=
  decide (spec.cpu ≤ 0) || decide (spec.memoryGb ≤ 0) || spec.diskGb == 0 ||
    decide (spec.pids < 16) || decide (4096 < spec.pids)

def newRuntime (id owner workspaceId : UUID) (revision : Revision) (generation : Nat)
    (spec : LaunchSpec) (key : String) (hash : Hash) : Runtime where
  id := id
  workspaceId := workspaceId
  ownerUserId := owner
  revisionId := revision.id
  imageDigestRef := revision.imageDigestRef
  generation := generation
  profileVersion := spec.version
  launchSpec := spec
  requestKey := key
  requestHash := hash
  createdAt := now
  accessService := if settings.workspaceEditor then "workspace" else "terminal"
  applicationProtocol :=
    if settings.workspaceEditor then "workspace-stream-v1" else "terminal-stream-v1"
  editorCapable := settings.workspaceEditor
  sshCapable := spec.sshCapable
  sshStatus := if spec.sshCapable then "provisioning" else "disabled"
  sshGeneration := if spec.sshCapable then some generation else none

/-- The canonical requirements of a request. -/
def canonicalRequirements :
    Option Requirements → Except HTTPException (Option Requirements)
  | none => .ok none
  | some requirements =>
    match operator.canonical requirements with
    | none => .error ⟨422, "Invalid requirements"⟩
    | some canonical => .ok (some canonical)

def startRevision (workspace : Workspace) (body : Start) : Except HTTPException Revision :=
  match (body.revisionId <|> workspace.savedRevisionId <|> workspace.currentRevisionId).bind
      catalog.revisions.lookup with
  | none => .error ⟨409, "Start requires a ready revision"⟩
  | some revision =>
    if revision.workspaceId = workspace.id ∧ revision.state = .imageReady then .ok revision
    else .error ⟨409, "Start requires a ready revision"⟩

def startSpec (revision : Revision) (effective : Option Requirements) :
    Except HTTPException LaunchSpec :=
  match operator.resourceProfile effective with
  | .error .valueError => .error ⟨422, "Requirements outside operator bounds"⟩
  | .error .other => .error ⟨503, "Invalid runtime profile"⟩
  | .ok spec =>
    if invalidSpec (pinSpec operator revision spec) then .error ⟨503, "Invalid runtime profile"⟩
    else .ok (pinSpec operator revision spec)

def launch (db : Db) (workspace : Workspace) (key : String) (body : Start)
    (effective : Option Requirements) (hash : Hash) (newId : UUID) :
    Except HTTPException (Runtime × Db) :=
  if !settings.interactive then .error ⟨503, "Runtime admission disabled"⟩
  else if (db.runtimesOf workspace.id).any fun runtime => !runtime.state.ended then
    .error ⟨409, "Workspace runtime still active or awaiting cleanup"⟩
  else do
    let revision ← startRevision catalog workspace body
    let spec ← startSpec operator revision effective
    let runtime := newRuntime settings now newId workspace.ownerUserId workspace.id revision
      (nextGeneration (db.runtimesOf workspace.id)) spec key hash
    match db.runtimes.insert runtime with
    | none => .error ⟨500, "Internal Server Error"⟩
    | some runtimes => .ok (runtime, { db with runtimes })

/-- Start a new generation of a workspace, or replay the start of an idempotency key. -/
def start (db : Db) (owner workspaceId : UUID) (key : String) (body : Start) (newId : UUID) :
    Except HTTPException (Runtime × Db) :=
  match (catalog.workspaces.lookup workspaceId).filter fun row => row.ownerUserId == owner with
  | none => .error ⟨404, "Workspace not found"⟩
  | some workspace => do
      let requirements ← canonicalRequirements operator body.requirements
      let effective := requirements <|>
        workspace.defaultResourceRequirements.bind operator.canonical
      let hash := operator.digest { body with requirements }
      match (db.runtimesOf workspaceId).find? fun runtime => runtime.requestKey == key with
      | some previous =>
        if previous.requestHash ≠ hash then .error ⟨409, "Idempotency key reused"⟩
        else .ok (previous, db)
      | none =>
        launch settings operator catalog now db workspace key body effective hash newId

/-- Lock the Worker that holds the assignment of a runtime, if there is one. -/
def lockHolder (db : Db) (runtime : Runtime) : Except HTTPException Unit :=
  match runtime.assignmentId with
  | none => .ok ()
  | some assignmentId =>
    match db.assignments.lookup assignmentId with
    | none => .error ⟨500, "Internal Server Error"⟩
    | some assignment => (lockWorker db assignment.workerId).map fun _ => ()

/-- What an owner's stop makes of a runtime: one that was never assigned ends at once. -/
def ownerStop (runtime : Runtime) : Runtime :=
  if runtime.assignmentId.isNone then
    { stopRuntime none none runtime with
      state := .stopped
      stoppedAt := some now
      managementRevoked := true }
  else stopRuntime none none runtime

@[simp]
theorem ownerStop_id (runtime : Runtime) : (ownerStop now runtime).id = runtime.id := by
  unfold ownerStop
  split_ifs <;> rfl

def stop (db : Db) (owner runtimeId : UUID) : Except HTTPException (Runtime × Db) :=
  match (db.runtimes.lookup runtimeId).filter fun row => row.ownerUserId == owner with
  | none => .error ⟨404, "Runtime not found"⟩
  | some runtime =>
    (lockHolder db runtime).map fun _ =>
      (ownerStop now runtime, db.modifyRuntime runtimeId (ownerStop now) (ownerStop_id now))

end TrainingScheduler
