import TrainingScheduler.Scheduler.Isolation
import TrainingScheduler.Worker.Coordinator

/-!
# Cleanup of containers

`DockerOps.cleanup` and the four places that mark an assignment locally clean after it: the end of
an interactive session, the end of a batch job, the startup of the Worker and its maintenance.  The
containers of a failed session are kept unless the operator has them removed, and they are kept
running.
-/

namespace TrainingScheduler.Docker

/-- The labels that the Worker reads. -/
inductive LabelKey where
  | component
  | worker
  | assignment
  | job
  | runtime
  | workspace
  | revision
  | generation
  | owner
  deriving DecidableEq, Repr

structure Container where
  id : String
  labels : LabelKey → Option String
  running : Bool

inductive Component where
  | access
  | sidecar
  | workload
  | batch
  | batchSeed
  | batchCleanup
  deriving DecidableEq, Repr

def Component.name : Component → String
  | access => "access"
  | sidecar => "sidecar"
  | workload => "workload"
  | batch => "batch"
  | batchSeed => "batch-seed"
  | batchCleanup => "batch-cleanup"

/-- The order in which `cleanup` removes the components. -/
def cleanupOrder : List Component :=
  [.access, .sidecar, .workload, .batch, .batchSeed, .batchCleanup]

/-- What a forced removal comes to. -/
inductive Removal where
  | removed
  | kept
  | failed (gone : Bool)
  deriving DecidableEq, Repr

def Removal.removes : Removal → Bool
  | .removed => true
  | .kept => false
  | .failed gone => gone

/-- The calls of the daemon that fail during one cleanup. -/
structure Faults where
  list : Bool := false
  get : String → Bool := fun _ => false
  remove : String → Removal := fun _ => .removed
  recheck : String → Bool := fun _ => false
  relist : Bool := false

/-- The daemon's client of one Worker, with the operator's choice for failed containers. -/
structure DockerOps where
  workerId : String
  cleanupOnFailure : Bool

namespace DockerOps

variable (ops : DockerOps)

/-- `labels`; a payload of the other kind raises. -/
def labels (record : Record) (component : Option String) :
    Option (List (LabelKey × Option String)) :=
  let common : List (LabelKey × Option String) :=
    [(.component, component), (.worker, some ops.workerId),
      (.assignment, some (toString record.assignmentId))]
  if record.kind ≠ .interactive then
    match record.payload with
    | .job payload => some (common ++ [(.job, some (toString payload.id))])
    | .runtime _ => none
  else
    match record.payload with
    | .job _ => none
    | .runtime payload =>
      some (common ++
        [(.runtime, some (toString payload.runtimeId)),
          (.workspace, some (toString payload.workspaceId)),
          (.revision, some (toString payload.revisionId)),
          (.generation, some (toString payload.generation)),
          (.owner, some (toString payload.ownerId))])

/-- The container is one of this assignment on this Worker. -/
def selects (assignmentId : UUID) (container : Container) : Bool :=
  container.labels .assignment == some (toString assignmentId) &&
    container.labels .worker == some ops.workerId

/-- `remove_exact`: whether it returns, and the containers that are left. -/
def removeExact (faults : Faults) (record : Record) (containers : List Container) (id : String) :
    Bool × List Container :=
  if faults.get id then (false, containers)
  else
    match containers.find? fun container => container.id == id with
    | none => (true, containers)
    | some container =>
      match ops.labels record (container.labels .component) with
      | none => (false, containers)
      | some expected =>
        if expected.any fun label => container.labels label.1 != label.2 then
          (false, containers)
        else
          let left :=
            if (faults.remove id).removes then
              containers.filter fun container => container.id != id
            else containers
          match faults.remove id with
          | .failed _ => (false, left)
          | .removed | .kept =>
            if faults.recheck id then (false, left)
            else (left.all fun container => container.id != id, left)

/-- Remove one container after the other, up to the first failure. -/
def removeAll (faults : Faults) (record : Record) :
    List String → List Container → Bool × List Container
  | [], containers => (true, containers)
  | id :: rest, containers =>
    match ops.removeExact faults record containers id with
    | (false, left) => (false, left)
    | (true, left) => removeAll faults record rest left

/-- The code is of a failure whose containers are worth a look. -/
def keepsContainers (record : Record) : Bool :=
  (record.runtimeFailureCode.any fun code => code != .timeUp) && !ops.cleanupOnFailure

/-- `cleanup`: whether it returns, and the containers that are left. -/
def cleanup (faults : Faults) (record : Record) (containers : List Container) :
    Bool × List Container :=
  if ops.keepsContainers record then (true, containers)
  else if faults.list then (false, containers)
  else
    let objects := containers.filter (ops.selects record.assignmentId)
    let ids := cleanupOrder.flatMap fun component =>
      (objects.filter fun container =>
        container.labels .component == some component.name).map Container.id
    match ops.removeAll faults record ids containers with
    | (false, left) => (false, left)
    | (true, left) =>
      (!faults.relist && !left.any (ops.selects record.assignmentId), left)

end DockerOps

/-- A Worker, its containers, and the cleanups that it has acknowledged to the Scheduler. -/
structure Host where
  coordinator : Coordinator
  containers : List Container
  acknowledged : List UUID := []

variable (host : Host)

/-- Clean up after an assignment and mark it clean; whether that was reached. -/
def Host.settle (ops : DockerOps) (faults : Faults) (directories : Bool) (record : Record) :
    Bool × Host :=
  match ops.cleanup faults record host.containers with
  | (false, left) => (false, { host with containers := left })
  | (true, left) =>
    if !directories then (false, { host with containers := left })
    else
      (true, { host with
        containers := left
        coordinator := host.coordinator.markClean record.assignmentId })

/-- A cleanup that raised leaves the assignment uncertain. -/
def Host.suspect (assignmentId : UUID) : Host :=
  { host with
    coordinator := { host.coordinator.markUncertain assignmentId with mode := .uncertain } }

/-- The end of `Manager.execute`. -/
def Host.endSession (ops : DockerOps) (faults : Faults) (directories : Bool) (record : Record) :
    Bool × Host :=
  let cleaning := { host with coordinator := { host.coordinator with mode := .cleaning } }
  match cleaning.settle ops faults directories record with
  | (true, after) => (true, after)
  | (false, after) => (false, after.suspect record.assignmentId)

/-- The end of `finish_batch`. -/
def Host.finishBatch (ops : DockerOps) (faults : Faults) (record : Record) : Bool × Host :=
  match host.settle ops faults true record with
  | (true, after) => (true, after)
  | (false, after) => (false, after.suspect record.assignmentId)

/-- What the Scheduler makes of a callback. -/
inductive Answer where
  | accepted (released : Bool)
  | conflict
  | failed
  deriving DecidableEq, Repr

/-- The answers to the result and to the cleanup of an assignment. -/
structure Answers where
  result : Answer
  cleanup : Answer
  deriving DecidableEq, Repr

/-- The result of a batch job is still to be delivered. -/
def resultPending (record : Record) : Bool := record.pendingResult.isSome && !record.resultAccepted

private theorem acceptResult_key (record : Record) :
    ({ record with resultAccepted := true } : Record).assignmentId = record.assignmentId := rfl

def Host.acceptResult (assignmentId : UUID) : Host :=
  { host with
    coordinator := { host.coordinator with
      journal := host.coordinator.journal.update assignmentId
        (fun record => { record with resultAccepted := true }) acceptResult_key } }

/-- The end of a round of `startup`.  A refused result or cleanup does not hold it up. -/
def Host.reconcile (answers : Answers) (record : Record) : Host :=
  let acknowledge (host : Host) : Host :=
    let host := { host with acknowledged := record.assignmentId :: host.acknowledged }
    match answers.cleanup with
    | .accepted false | .failed => host
    | .accepted true | .conflict =>
      { host with coordinator := host.coordinator.release record.assignmentId }
  if !resultPending record then acknowledge host
  else
    match answers.result with
    | .accepted _ => acknowledge (host.acceptResult record.assignmentId)
    | .conflict => acknowledge host
    | .failed => host

/-- A round of `startup`: one unreleased assignment of the journal. -/
def Host.startup (ops : DockerOps) (faults : Faults) (directories : Bool) (answers : Answers)
    (record : Record) : Bool × Host :=
  match host.settle ops faults directories record with
  | (true, after) => (true, after.reconcile answers record)
  | (false, after) => (false, after)

/-- `maintenance` of a clean assignment.  A refused result holds it up during the lease. -/
def Host.report (clock : Time) (answers : Answers) (record : Record) : Host :=
  let acknowledge (host : Host) : Host :=
    let host := { host with acknowledged := record.assignmentId :: host.acknowledged }
    match answers.cleanup with
    | .accepted false | .conflict | .failed => host
    | .accepted true => { host with coordinator := host.coordinator.release record.assignmentId }
  if !resultPending record then acknowledge host
  else
    match answers.result with
    | .accepted _ => acknowledge (host.acceptResult record.assignmentId)
    | .conflict =>
      if clock < (host.coordinator.deadlines record.assignmentId).getD 0 ∧ !record.uncertain then
        host
      else acknowledge host
    | .failed => host

/-- A round of `maintenance` for an unreleased assignment whose thread has ended. -/
def Host.maintenance (ops : DockerOps) (faults : Faults) (clock : Time) (answers : Answers)
    (record : Record) : Bool × Host :=
  if record.localClean then (false, host.report clock answers record)
  else if record.uncertain then host.settle ops faults true record
  else (false, host)

/-- The places that mark an assignment clean. -/
inductive Path where
  | endSession (directories : Bool)
  | finishBatch
  | startup (directories : Bool) (answers : Answers)
  | maintenance (clock : Time) (answers : Answers)

/-- Follow the path; whether it marks the assignment clean. -/
def Path.follow (path : Path) (ops : DockerOps) (faults : Faults) (record : Record) (host : Host) :
    Bool × Host :=
  match path with
  | endSession directories => host.endSession ops faults directories record
  | finishBatch => host.finishBatch ops faults record
  | startup directories answers => host.startup ops faults directories answers record
  | maintenance clock answers => host.maintenance ops faults clock answers record

/-- No container of the assignment runs on the Worker. -/
def Host.Quiet (ops : DockerOps) (assignmentId : UUID) : Prop :=
  ∀ container ∈ host.containers, ops.selects assignmentId container = true →
    container.running = false

namespace DockerOps

variable {ops : DockerOps} {faults : Faults} {record : Record} {containers left : List Container}

private theorem not_selects_of_cleanup (removes : ops.keepsContainers record = false)
    (returned : ops.cleanup faults record containers = (true, left)) :
    ∀ container ∈ left, ops.selects record.assignmentId container = false := by
  unfold cleanup at returned
  rw [removes] at returned
  split at returned
  · rename_i impossible
    cases impossible
  · split at returned
    · cases returned
    · dsimp only at returned
      split at returned
      · cases returned
      · simp only [Prod.mk.injEq, Bool.and_eq_true, Bool.not_eq_true',
          List.any_eq_false] at returned
        obtain ⟨⟨-, none⟩, rfl⟩ := returned
        exact fun container member => by simpa using none container member

end DockerOps

variable {ops : DockerOps} {faults : Faults} {record : Record} {host after : Host}

/-- What marks an assignment clean is a cleanup that returned. -/
theorem Host.cleanup_of_settle {directories : Bool}
    (settled : host.settle ops faults directories record = (true, after)) :
    ops.cleanup faults record host.containers = (true, after.containers) := by
  unfold settle at settled
  split at settled
  · cases settled
  · rename_i left returned
    split at settled
    · cases settled
    · cases settled
      exact returned

theorem Host.containers_reconcile (host : Host) (answers : Answers) (record : Record) :
    (host.reconcile answers record).containers = host.containers := by
  obtain ⟨result, cleanup⟩ := answers
  unfold reconcile
  cases resultPending record <;> cases result <;> rcases cleanup with ⟨_ | _⟩ | _ | _ <;> rfl

theorem Host.containers_report (host : Host) (clock : Time) (answers : Answers) (record : Record) :
    (host.report clock answers record).containers = host.containers := by
  obtain ⟨result, cleanup⟩ := answers
  unfold report
  dsimp only
  split
  · rcases cleanup with ⟨_ | _⟩ | _ | _ <;> rfl
  · split
    · rcases cleanup with ⟨_ | _⟩ | _ | _ <;> rfl
    · split
      · rfl
      · rcases cleanup with ⟨_ | _⟩ | _ | _ <;> rfl
    · rfl

theorem Path.cleanup_of_follow {path : Path}
    (marked : path.follow ops faults record host = (true, after)) :
    ops.cleanup faults record host.containers = (true, after.containers) := by
  cases path with
  | endSession directories =>
    simp only [follow, Host.endSession] at marked
    split at marked
    · rename_i settled
      cases marked
      exact (Host.cleanup_of_settle settled :)
    · cases marked
  | finishBatch =>
    simp only [follow, Host.finishBatch] at marked
    split at marked
    · rename_i settled
      cases marked
      exact Host.cleanup_of_settle settled
    · cases marked
  | startup directories answers =>
    simp only [follow, Host.startup] at marked
    split at marked
    · rename_i settled
      cases marked
      rw [Host.containers_reconcile]
      exact Host.cleanup_of_settle settled
    · cases marked
  | maintenance clock answers =>
    simp only [follow, Host.maintenance] at marked
    split at marked
    · cases marked
    · split at marked
      · exact Host.cleanup_of_settle marked
      · cases marked

theorem DockerOps.keepsContainers_eq_false_iff :
    ops.keepsContainers record = false ↔ record.runtimeFailureCode = none ∨
      record.runtimeFailureCode = some .timeUp ∨ ops.cleanupOnFailure = true := by
  unfold keepsContainers
  cases record.runtimeFailureCode with
  | none => simp
  | some code => cases ops.cleanupOnFailure <;> simp

/-- After a path has marked an assignment clean, and when its cleanup is acknowledged, no container
of the assignment runs exactly if it did not fail, its time was up, the operator has failed
containers removed, or none was running before. -/
theorem acknowledged_quiet_iff (ops : DockerOps) (faults : Faults) (path : Path) (host : Host)
    (record : Record) {after : Host}
    (marked : path.follow ops faults record host = (true, after)) (clock : Time)
    (answers : Answers) (current : Record) :
    (after.report clock answers current).Quiet ops record.assignmentId ↔
      record.runtimeFailureCode = none ∨ record.runtimeFailureCode = some .timeUp ∨
        ops.cleanupOnFailure = true ∨ host.Quiet ops record.assignmentId := by
  have cleaned := Path.cleanup_of_follow marked
  have same : (after.report clock answers current).Quiet ops record.assignmentId ↔
      after.Quiet ops record.assignmentId := by
    unfold Host.Quiet
    rw [Host.containers_report]
  have condition : (record.runtimeFailureCode = none ∨ record.runtimeFailureCode = some .timeUp ∨
      ops.cleanupOnFailure = true ∨ host.Quiet ops record.assignmentId) ↔
        ops.keepsContainers record = false ∨ host.Quiet ops record.assignmentId := by
    rw [DockerOps.keepsContainers_eq_false_iff, or_assoc, or_assoc]
  rw [same, condition]
  cases keeps : ops.keepsContainers record with
  | true =>
    rw [DockerOps.cleanup, if_pos keeps] at cleaned
    have untouched : host.containers = after.containers := (Prod.mk.inj cleaned).2
    unfold Host.Quiet
    rw [untouched]
    simp
  | false =>
    refine ⟨fun _ => .inl rfl, fun _ container member selected => ?_⟩
    rw [DockerOps.not_selects_of_cleanup keeps cleaned container member] at selected
    cases selected

/-- The journal of an interactive session. -/
def sessionRecord (code : Option FailureCode) : Record where
  assignmentId := 5
  kind := .interactive
  attemptToken := 6
  instanceId := 10
  generation := some 1
  payload := .runtime
    { runtimeId := 200
      workspaceId := 300
      revisionId := 500
      ownerId := 400
      generation := 1
      imageDigestRef := "image"
      gpuUuid := none
      launchSpec := Deployment.launchSpec }
  runtimeFailureCode := code

/-- The labels that the Worker gives the workload of the session. -/
def workloadLabels : LabelKey → Option String
  | .component => some "workload"
  | .worker => some "worker-1"
  | .assignment => some "5"
  | .job => none
  | .runtime => some "200"
  | .workspace => some "300"
  | .revision => some "500"
  | .generation => some "1"
  | .owner => some "400"

/-- The workload of the session is running. -/
def sessionHost (code : Option FailureCode) : Host where
  coordinator :=
    { journal := { records := Table.empty.put (sessionRecord code) }
      instanceId := 10
      mode := .interactiveActive }
  containers := [⟨"workload", workloadLabels, true⟩]

/-- The operator has not asked for the removal of failed containers. -/
def keepFailed : DockerOps where
  workerId := "worker-1"
  cleanupOnFailure := false

/-- A session that ends on time is cleaned and acknowledged, and nothing is left running. -/
theorem ended_session_quiet :
    ∃ after, (Path.endSession true).follow keepFailed {} (sessionRecord none) (sessionHost none) =
        (true, after) ∧
      (after.report 0 ⟨.accepted true, .accepted true⟩ (sessionRecord none)).acknowledged = [5] ∧
      (after.report 0 ⟨.accepted true, .accepted true⟩ (sessionRecord none)).Quiet
        keepFailed 5 := by
  have marked : ((Path.endSession true).follow keepFailed {} (sessionRecord none)
      (sessionHost none)).1 = true := by
    decide +kernel
  refine ⟨_, Prod.ext marked rfl, by decide +kernel, ?_⟩
  exact (acknowledged_quiet_iff keepFailed {} (.endSession true) (sessionHost none)
    (sessionRecord none)
    (Prod.ext marked rfl) 0 _ _).mpr (.inl rfl)

/-- A session that fails is marked clean and acknowledged while its workload runs on. -/
theorem failed_session_running :
    ((Path.endSession true).follow keepFailed {} (sessionRecord (some .healthFailed))
        (sessionHost (some .healthFailed))).1 = true ∧
      ∃ acknowledged, acknowledged =
        ((Path.endSession true).follow keepFailed {} (sessionRecord (some .healthFailed))
          (sessionHost (some .healthFailed))).2.report 0 ⟨.accepted true, .accepted true⟩
            { sessionRecord (some .healthFailed) with localClean := true } ∧
        acknowledged.acknowledged = [5] ∧
        (acknowledged.coordinator.journal.records.rows.map Record.localClean) = [true] ∧
        ∃ container ∈ acknowledged.containers, keepFailed.selects 5 container = true ∧
          container.running = true := by
  refine ⟨by decide +kernel, _, rfl, by decide +kernel, by decide +kernel, ?_⟩
  exact ⟨⟨"workload", workloadLabels, true⟩, List.mem_singleton_self _, by decide +kernel, rfl⟩

end TrainingScheduler.Docker
