import TrainingScheduler.Scheduler.Attempts
import TrainingScheduler.System.Hosts

/-!
# Startup of a Worker

`startup` of `managed_worker.py` as one program that calls the Scheduler.  It registers its new
instance before it replays the results it has journalled, and the registration quarantines every
attempt those results belong to.  So a replayed result is never recorded: the job of an interrupted
attempt ends as the Scheduler knew it before the restart.
-/

namespace TrainingScheduler

/-- Why `startup` raises. -/
inductive StartupError where
  | rejected (exception : HTTPException)
  | runtimeError (message : String)
  | unknownAssignment (assignmentId : UUID)
  | uncleaned (assignmentId : UUID)
  deriving DecidableEq, Repr

/-- The Scheduler as a starting Worker meets it, with the time at which it handles each call. -/
structure Service where
  settings : Settings
  digest : Digest
  choose : Choose
  newId : Nat → UUID × UUID
  clock : Nat → Time

/-- What `startup` reads from its host.  `markers` are the jobs of the legacy batch markers, and
`cleans` tells for which assignments the local cleanup succeeds. -/
structure Site where
  workerId : UUID
  gpuType : String
  probe : Inventory
  slots : Nat
  offset : Time := 0
  paused : Bool := false
  preflight : Bool := false
  markers : List UUID := []
  cleans : UUID → Bool := fun _ => true

/-- A startup in progress: the process, the database and the number of calls made so far. -/
structure Session where
  coordinator : Coordinator
  db : Db
  calls : Nat := 0

/-- The job that a payload names. -/
def Payload.jobId : Payload → Option UUID
  | .job payload => some payload.id
  | .runtime _ => none

namespace Session

variable (service : Service) (site : Site)

/-- The Scheduler's time at the next call. -/
def now (session : Session) : Time := service.clock session.calls

/-- Resolve a lost-response claim under its original key. -/
def resolveClaim (session : Session) : Except StartupError Session :=
  match session.coordinator.journal.claim with
  | none => .ok session
  | some request =>
    match claim service.settings service.digest service.choose service.newId (session.now service)
        session.db site.workerId request with
    | .error exception => .error (.rejected exception)
    | .ok (reply, db) =>
      .ok
        { coordinator := session.coordinator.resolve reply
          db
          calls := session.calls + 1 }

/-- Register the new instance; every assignment it is told about must be journalled. -/
def registerInstance (session : Session) : Except StartupError Session :=
  let (fences, db) := register (session.now service) session.db site.workerId
    { instanceId := session.coordinator.instanceId
      gpuType := site.gpuType
      inventory := executionInventory session.coordinator site.probe false site.slots }
  if fences.any fun fence =>
      (session.coordinator.journal.records.lookup fence.assignmentId).isNone then
    .error (.runtimeError "Missing journal identity; operator reconciliation required")
  else .ok { session with db, calls := session.calls + 1 }

/-- Replay a journalled result that was not accepted yet; a conflict is ignored. -/
def replayResult (record : Record) (session : Session) : Except StartupError Session :=
  match record.pendingResult, record.resultAccepted with
  | some value, false =>
    match result service.digest (session.now service) session.db site.workerId
        { record.fence with value } with
    | .ok db =>
      .ok
        { coordinator :=
            { session.coordinator with
              journal := session.coordinator.journal.update record.assignmentId
                (fun record => { record with resultAccepted := true }) fun _ => rfl }
          db
          calls := session.calls + 1 }
    | .error exception =>
      if exception.status = 409 then .ok { session with calls := session.calls + 1 }
      else .error (.rejected exception)
  | _, _ => .ok session

/-- Acknowledge the local cleanup; an attempt the Scheduler no longer holds is closed locally. -/
def acknowledgeCleanup (record : Record) (session : Session) : Except StartupError Session :=
  match cleanup (session.now service) session.db site.workerId
      { record.fence with failureCode := record.runtimeFailureCode } with
  | .ok (released, db) =>
    .ok
      { coordinator :=
          if released then session.coordinator.release record.assignmentId
          else session.coordinator
        db
        calls := session.calls + 1 }
  | .error exception =>
    if exception.status = 409 then
      .ok
        { session with
          coordinator := session.coordinator.release record.assignmentId
          calls := session.calls + 1 }
    else .error (.rejected exception)

/-- Reconcile one journalled record. -/
def reconcile (session : Session) (record : Record) : Except StartupError Session :=
  if record.released then .ok session
  else if !site.cleans record.assignmentId then .error (.uncleaned record.assignmentId)
  else do
    let cleaned : Session :=
      { session with coordinator := session.coordinator.markClean record.assignmentId }
    let replayed ← replayResult service site record cleaned
    acknowledgeCleanup service site record replayed

/-- Every legacy batch marker must belong to a journalled job. -/
def checkMarkers (session : Session) : Except StartupError Session :=
  if site.markers.all fun marker => session.coordinator.journal.records.rows.any fun record =>
      record.payload.jobId == some marker then .ok session
  else .error (.runtimeError "Legacy batch marker requires drain/reconciliation")

/-- Carry out one decision of the first heartbeat. -/
def carryOut (clock sentAt : Time) (sequence : Nat) (session : Session) (decision : Decision) :
    Except StartupError Session :=
  if (session.coordinator.journal.records.lookup decision.assignmentId).isNone then
    .error (.unknownAssignment decision.assignmentId)
  else
    let renewed := session.coordinator.renew clock decision.assignmentId sentAt
      decision.leaseSeconds sequence
    if (decision.action = .renew ∧ renewed.1 = true) ∨ site.cleans decision.assignmentId then
      .ok { session with coordinator := session.coordinator.decide clock sentAt sequence decision }
    else .error (.uncleaned decision.assignmentId)

/-- The first heartbeat; no manager runs yet, so nothing is reported healthy. -/
def heartbeatOnce (session : Session) : Except StartupError Session :=
  let coordinator := { session.coordinator with paused := site.paused }
  let sentAt := session.now service + site.offset
  match heartbeat service.settings (session.now service) session.db site.workerId
      (heartbeatBody coordinator 1
        (executionInventory coordinator site.probe site.preflight site.slots)
        coordinator.journal.active (fun _ => {}) fun _ => {}) with
  | .error exception => .error (.rejected exception)
  | .ok (reply, db) =>
    let answered : Session := { coordinator, db, calls := session.calls + 1 }
    reply.decisions.foldlM
      (carryOut site (answered.now service + site.offset) sentAt reply.sequence) answered

/-- `ManagedWorker.startup`. -/
def startup (session : Session) : Except StartupError Session := do
  let resolved ← resolveClaim service site session
  let registered ← registerInstance service site resolved
  let reconciled ← registered.coordinator.journal.records.rows.foldlM (reconcile service site)
    registered
  let checked ← checkMarkers site reconciled
  heartbeatOnce service site
    { checked with coordinator := checked.coordinator.available }

end Session

namespace Session

section

variable {service : Service} {site : Site} {session after : Session} {row : Assignment}
  {jobId : UUID} {status : Option JobStatus}

/-- An open record of the journal carries the fence of the row. -/
def Knows (session : Session) (row : Assignment) : Prop :=
  ∃ record ∈ session.coordinator.journal.active, record.fence = row.fence

private theorem tracked_of_resolveClaim (tracked : Tracked row jobId status session.db)
    (unreleased : row.Unreleased) (job : row.jobId = some jobId) (knows : session.Knows row)
    (resolved : resolveClaim service site session = .ok after) :
    Tracked row jobId status after.db ∧ after.Knows row ∧ after.db.workers = session.db.workers ∧
      after.coordinator.instanceId = session.coordinator.instanceId := by
  unfold resolveClaim at resolved
  split at resolved
  · cases resolved
    exact ⟨tracked, knows, rfl, rfl⟩
  · rename_i request _
    split at resolved
    · cases resolved
    · rename_i reply db accepted
      cases resolved
      have kept := tracked.of_claim unreleased job accepted
      refine ⟨kept, ?_, ?_, rfl⟩
      · obtain ⟨record, active, fence⟩ := knows
        obtain ⟨record_mem, still⟩ := List.mem_filter.mp active
        have stored :
            record ∈ (session.coordinator.journal.adopt reply fun _ => false).records.rows ∨
            ∃ envelope, reply.assignment = some envelope ∧
              envelope.assignmentId = record.assignmentId :=
          mem_adopt_of_mem record_mem
        rcases stored with same | ⟨envelope, shown, replaced⟩
        · exact ⟨record, List.mem_filter.mpr ⟨same, still⟩, fence⟩
        · obtain ⟨found, found_mem, found_fence⟩ := stored_of_claim accepted shown
          have found_id : found.id = envelope.assignmentId :=
            congrArg Fence.assignmentId found_fence
          have record_id : record.assignmentId = row.id := congrArg Fence.assignmentId fence
          obtain rfl := db.assignments.eq_of_key_eq found_mem kept.member
            (found_id.trans (replaced.trans record_id))
          exact ⟨envelope.record false, List.mem_filter.mpr ⟨adopted_mem shown, rfl⟩,
            found_fence.symm⟩
      · cases claimResult_of_claim accepted with
        | replayed | refused => rfl
        | granted after assignment placement granted => exact granted.inserted.workers

private theorem tracked_of_registerInstance (tracked : Tracked row jobId status session.db)
    (unreleased : row.Unreleased) (worker : row.workerId = site.workerId)
    (restarted : session.db.currentInstance site.workerId ≠ some session.coordinator.instanceId)
    (registered : registerInstance service site session = .ok after) :
    Tracked row.interrupted jobId status after.db ∧ after.coordinator = session.coordinator := by
  unfold registerInstance at registered
  dsimp only at registered
  split_ifs at registered
  cases registered
  exact ⟨tracked.of_register unreleased worker restarted, rfl⟩

variable {record : Record}

theorem replayResult_cases (replayed : replayResult service site record session = .ok after) :
    after.db = session.db ∨ ∃ value, result service.digest (session.now service) session.db
      site.workerId { record.fence with value } = .ok after.db := by
  unfold replayResult at replayed
  split at replayed
  · rename_i value _ _
    split at replayed
    · rename_i db accepted
      cases replayed
      exact .inr ⟨value, accepted⟩
    · split_ifs at replayed
      cases replayed
      exact .inl rfl
  · cases replayed
    exact .inl rfl

theorem acknowledgeCleanup_cases
    (acknowledged : acknowledgeCleanup service site record session = .ok after) :
    (∃ released, cleanup (session.now service) session.db site.workerId
      { record.fence with failureCode := record.runtimeFailureCode } = .ok (released, after.db)) ∨
    after.db = session.db ∧ ∃ exception : HTTPException, exception.status = 409 ∧
      cleanup (session.now service) session.db site.workerId
        { record.fence with failureCode := record.runtimeFailureCode } = .error exception := by
  unfold acknowledgeCleanup at acknowledged
  split at acknowledged
  · rename_i released db accepted
    cases acknowledged
    exact .inl ⟨released, accepted⟩
  · rename_i exception rejected
    split_ifs at acknowledged with conflict
    cases acknowledged
    exact .inr ⟨rfl, exception, conflict, rejected⟩

theorem reconcile_open (open_record : record.released = false)
    (reconciled : reconcile service site session record = .ok after) :
    ∃ cleaned replayed, cleaned.db = session.db ∧
      replayResult service site record cleaned = .ok replayed ∧
      acknowledgeCleanup service site record replayed = .ok after := by
  unfold reconcile at reconciled
  rw [open_record, if_neg Bool.false_ne_true] at reconciled
  split_ifs at reconciled
  obtain ⟨replayed, replay, acknowledge⟩ := bind_eq_ok reconciled
  refine ⟨_, replayed, ?_, replay, acknowledge⟩
  rfl

theorem tracked_of_reconcile (tracked : Tracked row jobId status session.db)
    (other : row.id ≠ record.assignmentId)
    (reconciled : reconcile service site session record = .ok after) :
    Tracked row jobId status after.db := by
  cases open_record : record.released with
  | true =>
    unfold reconcile at reconciled
    rw [open_record, if_pos rfl] at reconciled
    cases reconciled
    exact tracked
  | false =>
    obtain ⟨cleaned, replayed, same, replay, acknowledge⟩ := reconcile_open open_record reconciled
    rw [← same] at tracked
    have middle : Tracked row jobId status replayed.db := by
      rcases replayResult_cases replay with unchanged | ⟨value, accepted⟩
      · rwa [unchanged]
      · exact tracked.of_result other accepted
    rcases acknowledgeCleanup_cases acknowledge with ⟨released, accepted⟩ | ⟨unchanged, -⟩
    · exact middle.of_cleanup other accepted
    · rwa [unchanged]

section

variable (tracked : Tracked row jobId status session.db) (unreleased : row.Unreleased)
  (lost : row.state = .lost) (job : row.jobId = some jobId) (worker : row.workerId = site.workerId)
  (open_record : record.released = false) (fence : record.fence = row.fence)

include tracked unreleased lost job worker open_record fence

theorem cleaned_of_reconcile (reconciled : reconcile service site session record = .ok after) :
    ∃ now, Tracked (row.cleaned now) jobId (status.map fun _ => settledStatus row) after.db := by
  obtain ⟨cleaned, replayed, same, replay, acknowledge⟩ := reconcile_open open_record reconciled
  rw [← same] at tracked
  have middle : Tracked row jobId status replayed.db := by
    rcases replayResult_cases replay with unchanged | ⟨value, accepted⟩
    · rwa [unchanged]
    · have stale : StaleAttempt cleaned.db (cleaned.now service) row := .inl (.inr (.inl lost))
      obtain ⟨exception, rejected⟩ := fence_error_of_stale site.workerId tracked.member stale
      unfold result at accepted
      rw [fence, rejected] at accepted
      cases accepted
  rcases acknowledgeCleanup_cases acknowledge with
    ⟨released, accepted⟩ | ⟨-, exception, conflict, rejected⟩
  · exact ⟨_, middle.cleaned unreleased job (congrArg Fence.assignmentId fence) accepted⟩
  · exact absurd conflict (status_of_cleanup middle.member worker fence.symm rejected)

theorem cleaned_of_loop {records : List Record} (distinct : (records.map Record.assignmentId).Nodup)
    (member : record ∈ records)
    (done : records.foldlM (reconcile service site) session = .ok after) :
    ∃ now, Tracked (row.cleaned now) jobId (status.map fun _ => settledStatus row) after.db := by
  induction records generalizing session with
  | nil => cases member
  | cons head rest induction =>
    obtain ⟨head_new, rest_distinct⟩ := List.nodup_cons.mp distinct
    rw [List.foldlM_cons] at done
    obtain ⟨middle, head_done, rest_done⟩ := bind_eq_ok done
    have record_id : record.assignmentId = row.id := congrArg Fence.assignmentId fence
    rcases List.mem_cons.mp member with rfl | later
    · obtain ⟨now, cleaned⟩ :=
        cleaned_of_reconcile tracked unreleased lost job worker open_record fence head_done
      refine ⟨now, foldlM_preserves (fun session : Session => Tracked (row.cleaned now) jobId
        (status.map fun _ => settledStatus row) session.db) ?_ cleaned rest_done⟩
      intro item item_mem before after kept item_done
      refine tracked_of_reconcile kept (fun same => ?_) item_done
      exact head_new (List.mem_map.mpr ⟨item, item_mem, same.symm.trans record_id.symm⟩)
    · have other : row.id ≠ head.assignmentId := fun same =>
        head_new (List.mem_map.mpr ⟨record, later, record_id.trans same⟩)
      exact induction (tracked_of_reconcile tracked other head_done) rest_distinct later rest_done

end

private theorem tracked_of_heartbeatOnce (tracked : Tracked row jobId status session.db)
    (released : ¬row.Unreleased) (done : heartbeatOnce service site session = .ok after) :
    Tracked row jobId status after.db := by
  unfold heartbeatOnce at done
  dsimp only at done
  split at done
  · cases done
  · rename_i reply db accepted
    have effects : Effects (session.now service) service.settings.leaseSeconds (fun _ => False)
        (fun id => id = site.workerId) session.db db :=
      heartbeat_effects accepted
    refine foldlM_preserves (fun session : Session => Tracked row jobId status session.db) ?_
      (tracked.of_released released effects) done
    intro decision _ before after kept carried
    unfold carryOut at carried
    dsimp only at carried
    split_ifs at carried
    cases carried
    exact kept

/-- A completed startup releases an attempt of the previous instance with the result that the
Scheduler had recorded before, and its job ends as that result says. -/
theorem startup_settles (coherent : Coherent session.db)
    (restarted : session.db.currentInstance site.workerId ≠ some session.coordinator.instanceId)
    (member : row ∈ session.db.assignments.rows) (worker : row.workerId = site.workerId)
    (unreleased : row.Unreleased) (job : row.jobId = some jobId) (knows : session.Knows row)
    (done : startup service site session = .ok after) :
    ∃ now, (row.interrupted.cleaned now) ∈ after.db.assignments.rows ∧
      after.db.jobStatus jobId = some (settledStatus row) := by
  have tracked := Tracked.of_exclusive coherent.exclusive member unreleased job
  rw [coherent.held row member unreleased jobId job] at tracked
  obtain ⟨resolved, resolve, done⟩ := bind_eq_ok done
  obtain ⟨registered, register, done⟩ := bind_eq_ok done
  obtain ⟨reconciled, loop, done⟩ := bind_eq_ok done
  obtain ⟨checked, check, done⟩ := bind_eq_ok done
  obtain ⟨tracked, knows, workers, instanceId⟩ :=
    tracked_of_resolveClaim tracked unreleased job knows resolve
  have still : resolved.db.currentInstance site.workerId ≠
      some resolved.coordinator.instanceId := by
    rw [Db.currentInstance, workers, instanceId]
    exact restarted
  obtain ⟨tracked, same⟩ := tracked_of_registerInstance tracked unreleased worker still register
  obtain ⟨record, active, fence⟩ := knows
  rw [← same] at active
  obtain ⟨record_mem, open_record⟩ := List.mem_filter.mp active
  obtain ⟨now, cleaned⟩ := cleaned_of_loop tracked unreleased rfl job worker
    (by simpa using open_record) fence registered.coordinator.journal.records.nodup record_mem loop
  have unchanged : checked = reconciled := by
    unfold checkMarkers at check
    split_ifs at check
    cases check
    rfl
  rw [← unchanged] at cleaned
  let available : Session := { checked with coordinator := checked.coordinator.available }
  have ready : Tracked (row.interrupted.cleaned now) jobId _ available.db := cleaned
  have released : ¬(row.interrupted.cleaned now).Unreleased := by
    rintro ⟨⟩
  have final := tracked_of_heartbeatOnce ready released done
  exact ⟨now, final.member, final.status⟩

end

end Session

/-- The status in which a result leaves the job of a batch attempt. -/
def ResultOutcome.status : ResultOutcome → JobStatus
  | .estimation => .runnable
  | .completed => .completed
  | .userFailure => .failed
  | .systemFailure => .retryNeeded

private theorem settledStatus_batch {row : Assignment} {jobId : UUID} {value : ResultValue}
    (target : row.target = .batch jobId) (recorded : row.result = some value) :
    settledStatus row = value.outcome.status := by
  have kind : row.kind = .batch := by
    rw [Assignment.kind, target]
    rfl
  cases outcome : value.outcome <;>
    simp [settledStatus, retryStatus, recorded, outcome, kind, ResultOutcome.status]

/-- A finished batch survives a restart exactly if the Scheduler had recorded its result before: its
attempt ends with the pending result of the journal, and its job with the result's outcome, iff the
Scheduler held that result when the startup began. -/
theorem startup_accepts_iff {service : Service} {site : Site} {initial : Db}
    {session after : Session} (empty : initial.assignments.rows = [])
    (unwritten : initial.statusWrites = []) (run : Run service.digest initial session.db)
    (restarted : session.db.currentInstance site.workerId ≠ some session.coordinator.instanceId)
    {record : Record} (active : record ∈ session.coordinator.journal.active) {value : ResultValue}
    (pending : record.pendingResult = some value) {row : Assignment}
    (member : row ∈ session.db.assignments.rows) (worker : row.workerId = site.workerId)
    (fence : row.fence = record.fence) (unreleased : row.Unreleased) {jobId : UUID}
    (target : row.target = .batch jobId)
    (done : Session.startup service site session = .ok after) :
    (∃ final ∈ after.db.assignments.rows, final.id = row.id ∧
      final.result = record.pendingResult ∧
      after.db.jobStatus jobId = some value.outcome.status) ↔
    row.result = record.pendingResult := by
  have coherent := (Coherent.of_empty empty unwritten).of_run run
  have job : row.jobId = some jobId := by
    rw [Assignment.jobId, target]
    rfl
  obtain ⟨now, cleaned_mem, status⟩ := Session.startup_settles coherent restarted member worker
    unreleased job ⟨record, active, fence.symm⟩ done
  constructor
  · rintro ⟨final, final_mem, id_eq, result, -⟩
    obtain rfl := after.db.assignments.eq_of_key_eq final_mem cleaned_mem id_eq
    exact result
  · intro recorded
    refine ⟨_, cleaned_mem, rfl, recorded, ?_⟩
    rw [status, settledStatus_batch target (recorded.trans pending)]

namespace Deployment

def service : Service where
  settings := settings
  digest := digest
  choose := batchOnly 101
  newId _ := (1009, 2009)
  clock _ := 2

def site : Site where
  workerId := 1
  gpuType := "A100"
  probe := { inventory with observedAt := 2 }
  slots := 2

def assigned : Db := (claimBatch 1 100).apply digest 1 db

/-- The record of the claimed attempt with a finished, unreported result. -/
def finishedRecord : Record where
  assignmentId := 1001
  kind := .batch
  attemptToken := 2001
  instanceId := 10
  generation := none
  payload := .job (formatJobResponse
    { job 100 with
      status := .inProgress
      device := some "A100" } "")
  pendingResult := some { outcome := .completed }

/-- The Worker restarts under instance 11 with the result in its journal. -/
def finished (db : Db) : Session where
  coordinator :=
    { journal := { records := ⟨[finishedRecord], by decide⟩ }
      instanceId := 11 }
  db := db

def report : Op := .result 1 { finishedRecord.fence with value := { outcome := .completed } }

/-- The result is journalled and its lease unexpired; still, the completed startup leaves the
attempt without a result, and the job is queued for a retry. -/
theorem finished_discarded :
    Run digest db assigned ∧ ∃ row ∈ assigned.assignments.rows, row.Unreleased ∧
      row.workerId = site.workerId ∧ row.target = .batch 100 ∧
      finishedRecord ∈ (finished assigned).coordinator.journal.active ∧
      row.fence = finishedRecord.fence ∧ (∀ call, service.clock call < row.leaseUntil) ∧
      ∃ after, Session.startup service site (finished assigned) = .ok after ∧
        (∃ final ∈ after.db.assignments.rows, final.id = row.id ∧ final.result = none) ∧
        after.db.jobStatus 100 = some .retryNeeded := by
  have attempt : ∃ row ∈ assigned.assignments.rows, row.Unreleased ∧ row.workerId = site.workerId ∧
      row.target = .batch 100 ∧ row.id = 1001 ∧ row.fence = finishedRecord.fence ∧
      2 < row.leaseUntil := by
    decide +kernel
  obtain ⟨row, member, unreleased, worker, target, id_eq, fence, leased⟩ := attempt
  obtain ⟨after, started, ended⟩ : ∃ after,
      Session.startup service site (finished assigned) = .ok after ∧
        (∃ final ∈ after.db.assignments.rows, final.id = 1001 ∧ final.result = none) ∧
        after.db.jobStatus 100 = some .retryNeeded :=
    exists_ok_of_any (by decide +kernel)
  refine ⟨.single ⟨1, claimBatch 1 100, rfl⟩, row, member, unreleased, worker, target,
    by decide +kernel, fence, fun _ => leased, after, started, ?_⟩
  rwa [id_eq]

/-- Had the result been reported before the restart, the startup would have kept it. -/
theorem reported_kept :
    ∃ after, Session.startup service site (finished (report.apply digest 2 assigned)) = .ok after ∧
      ∃ final ∈ after.db.assignments.rows, final.id = 1001 ∧
        final.result = finishedRecord.pendingResult ∧
        after.db.jobStatus 100 = some .completed := by
  have run : Run digest db (report.apply digest 2 assigned) :=
    .tail (.single ⟨1, claimBatch 1 100, rfl⟩) ⟨2, report, rfl⟩
  have attempt : ∃ row ∈ (report.apply digest 2 assigned).assignments.rows, row.Unreleased ∧
      row.workerId = site.workerId ∧ row.target = .batch 100 ∧ row.id = 1001 ∧
      row.fence = finishedRecord.fence ∧ row.result = finishedRecord.pendingResult := by
    decide +kernel
  obtain ⟨row, member, unreleased, worker, target, id_eq, fence, recorded⟩ := attempt
  have active : finishedRecord ∈
      (finished (report.apply digest 2 assigned)).coordinator.journal.active := by
    decide +kernel
  obtain ⟨after, started, -⟩ : ∃ after,
      Session.startup service site (finished (report.apply digest 2 assigned)) = .ok after ∧ True :=
    exists_ok_of_any (by decide +kernel)
  obtain ⟨final, final_mem, same, result, status⟩ :=
    (startup_accepts_iff rfl rfl run (by decide +kernel) active rfl member worker fence unreleased
      target started).mpr recorded
  exact ⟨after, started, final, final_mem, same.trans id_eq, result, status⟩

end Deployment

end TrainingScheduler
