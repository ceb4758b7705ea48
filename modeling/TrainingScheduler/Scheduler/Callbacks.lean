import Mathlib.Logic.Function.Basic
import TrainingScheduler.Scheduler.Coherence
import TrainingScheduler.Scheduler.Images

/-!
# Callbacks and claims, statement by statement

The legacy callbacks and the job branch of `claim` as sequences of database statements under read
committed isolation.  A statement sees the last committed rows.  `FOR UPDATE` and `UPDATE` wait for
the lock of a row, `SKIP LOCKED` passes over a locked one, and an `UPDATE` at the end of a session
writes only the columns that differ from the row the session has loaded.
-/

namespace TrainingScheduler

namespace Callback

/-- `mark_job_failed` loads its job with `FOR UPDATE`. -/
def locksRow : Callback → Bool
  | markJobFailed _ _ _ _ => true
  | _ => false

/-- The watchdog loads its job before it looks for assignments. -/
def loadsFirst : Callback → Bool
  | markRetryNeeded => true
  | _ => false

end Callback

/-- The session of one callback: whether it has found the job unmanaged, the row it has loaded, and
the row of an `UPDATE` that is not committed yet. -/
structure CallbackSession where
  callback : Callback
  jobId : UUID
  checked : Bool := false
  loaded : Option Job := none
  written : Option Job := none
  deriving DecidableEq, Repr

/-- What the job branch of a claim has read before it locks its job. -/
structure JobClaim where
  settings : Settings
  digest : Digest
  now : Time
  worker : Worker
  body : Claim
  snapshot : Snapshot
  candidate : Candidate
  ids : UUID × UUID

/-- A claim that has locked its job, and whether it has found the job unassigned. -/
structure ClaimSession where
  claim : JobClaim
  row : Job
  checked : Bool := false

/-- The holder of a row lock. -/
inductive Party where
  | callback (session : Nat)
  | claim (session : Nat)
  deriving DecidableEq, Repr

/-- The committed rows, the locks on job rows, and the open sessions. -/
structure Shared where
  db : Db
  locks : UUID → Option Party := fun _ => none
  callbacks : Nat → Option CallbackSession := fun _ => none
  claims : Nat → Option ClaimSession := fun _ => none

/-- The value of a column after an `UPDATE` that includes only changed columns. -/
def writtenColumn {α : Type} [DecidableEq α] (loaded written current : α) : α :=
  if written = loaded then current else written

/-- The row after the `UPDATE` of a session. -/
def writeBack (loaded written current : Job) : Job :=
  { current with
    status := writtenColumn loaded.status written.status current.status
    vramRequired := writtenColumn loaded.vramRequired written.vramRequired current.vramRequired
    ramRequired := writtenColumn loaded.ramRequired written.ramRequired current.ramRequired
    stepTime := writtenColumn loaded.stepTime written.stepTime current.stepTime
    gpuHour := writtenColumn loaded.gpuHour written.gpuHour current.gpuHour
    device := writtenColumn loaded.device written.device current.device
    failureReason := writtenColumn loaded.failureReason written.failureReason current.failureReason
    imageBuilderId :=
      writtenColumn loaded.imageBuilderId written.imageBuilderId current.imageBuilderId
    imageBuildAttemptId := writtenColumn loaded.imageBuildAttemptId written.imageBuildAttemptId
      current.imageBuildAttemptId
    imageBuildStartedAt := writtenColumn loaded.imageBuildStartedAt written.imageBuildStartedAt
      current.imageBuildStartedAt }

namespace JobClaim

/-- The job is held by an unreleased assignment. -/
def held (claim : JobClaim) (db : Db) : Bool :=
  db.assignments.rows.any fun other =>
    other.jobId == some claim.candidate.targetId && other.releasedAt.isNone

/-- The job does not fit into the reported memory. -/
def exceeds (claim : JobClaim) (row : Job) : Bool :=
  decide (claim.candidate.kind ≠ .estimation) && vramExceeds row claim.snapshot

/-- Insert the assignment, update a batch job, and commit. -/
def store (claim : JobClaim) (db : Db) (row : Job) : Option (Assignment × Db) :=
  if claim.candidate.kind = .estimation then
    let assignment := newAssignment claim.settings claim.digest claim.now claim.worker.workerId
      claim.body claim.ids (.estimation row.id)
      (.job (formatJobResponse row claim.candidate.flag)) none
    (insertAssignment db assignment).map fun db => (assignment, db)
  else
    let assignment := newAssignment claim.settings claim.digest claim.now claim.worker.workerId
      claim.body claim.ids (.batch row.id)
      (.job (formatJobResponse (startJob claim.now claim.worker.gpuType row)
        claim.candidate.flag)) none
    (insertAssignment (db.modifyJob row.id (startJob claim.now claim.worker.gpuType) fun _ => rfl)
      assignment).map fun db => (assignment, db)

end JobClaim

namespace Shared

variable (state : Shared) (n : Nat)

def setCallback (session : Option CallbackSession) : Shared :=
  { state with callbacks := Function.update state.callbacks n session }

def setClaim (session : Option ClaimSession) : Shared :=
  { state with claims := Function.update state.claims n session }

def lock (jobId : UUID) (party : Party) : Shared :=
  { state with locks := Function.update state.locks jobId (some party) }

/-- The end of a transaction releases its locks. -/
def unlock (party : Party) : Shared :=
  { state with
    locks := fun jobId => if state.locks jobId = some party then none else state.locks jobId }

/-- The row can be locked by the party without waiting. -/
def free (jobId : UUID) (party : Party) : Bool :=
  state.locks jobId == none || state.locks jobId == some party

def closeCallback : Shared :=
  (state.setCallback n none).unlock (.callback n)

def closeClaim : Shared := (state.setClaim n none).unlock (.claim n)

/-- The query for an assignment of the job; a managed job ends the callback. -/
def checkManaged (session : CallbackSession) : Option Shared :=
  if session.checked || session.callback.loadsFirst && session.loaded.isNone then none
  else if managed state.db session.jobId then some (state.closeCallback n)
  else some (state.setCallback n (some { session with checked := true }))

/-- The lock that the query for the job row takes. -/
def lockLoaded (session : CallbackSession) : Shared :=
  if session.callback.locksRow then state.lock session.jobId (.callback n) else state

/-- The query for the job row. -/
def loadJob (session : CallbackSession) : Option Shared :=
  if session.loaded.isSome || !session.checked && !session.callback.loadsFirst then none
  else if session.callback.locksRow && !state.free session.jobId (.callback n) then none
  else
    match state.db.jobs.lookup session.jobId with
    | none => some (state.closeCallback n)
    | some row =>
      some ((state.lockLoaded n session).setCallback n (some { session with loaded := some row }))

/-- The `UPDATE` of the job row; a raised exception ends the callback. -/
def updateRow (session : CallbackSession) (now : Time) : Option Shared :=
  match session.loaded with
  | none => none
  | some row =>
    if !session.checked || session.written.isSome || !state.free session.jobId (.callback n) then
      none
    else
      match session.callback.compute now row with
      | .error _ => some (state.closeCallback n)
      | .ok written =>
        some ((state.lock session.jobId (.callback n)).setCallback n
          (some { session with written := some written }))

def commitCallback (session : CallbackSession) : Option Shared :=
  match session.loaded, session.written with
  | some row, some written =>
    some (({ state with
      db := state.db.modifyJob session.jobId (writeBack row written) fun _ => rfl
      } : Shared).closeCallback n)
  | _, _ => none

/-- The query that locks the job of a claim; a locked row or another status rolls it back. -/
def selectJob (claim : JobClaim) : Option Shared :=
  match state.db.jobs.lookup claim.candidate.targetId with
  | none => none
  | some row =>
    if (state.claims n).isSome || row.status != expectedStatus claim.candidate ||
        (state.locks row.id).isSome then none
    else some ((state.lock row.id (.claim n)).setClaim n (some { claim, row }))

/-- The query for an unreleased assignment of the job. -/
def checkHeld (session : ClaimSession) : Option Shared :=
  if session.checked then none
  else if session.claim.held state.db || session.claim.exceeds session.row then
    some (state.closeClaim n)
  else some (state.setClaim n (some { session with checked := true }))

/-- The commit of a claim; a violated constraint rolls it back. -/
def commitClaim (session : ClaimSession) : Option Shared :=
  if !session.checked then none
  else
    match session.claim.store state.db session.row with
    | none => some (state.closeClaim n)
    | some (_, db) => some (({ state with db } : Shared).closeClaim n)

end Shared

open Shared

/-- One statement of one session, or a transaction of the rest of the system. -/
inductive Statement where
  | openCallback (n : Nat) (callback : Callback) (jobId : UUID)
  | checkManaged (n : Nat)
  | loadJob (n : Nat)
  | updateRow (n : Nat) (now : Time)
  | commitCallback (n : Nat)
  | abandonCallback (n : Nat)
  | selectJob (n : Nat) (claim : JobClaim)
  | checkHeld (n : Nat)
  | commitClaim (n : Nat)
  | abandonClaim (n : Nat)
  | environment (db : Db)

/-- The jobs with an assignment, in the order of the assignments. -/
def assignedJobs (db : Db) : List UUID := db.assignments.rows.filterMap fun row => row.jobId

/-- Carry out a statement; `none` is a statement that is not due or has to wait.  The rest of the
system makes no job assignment. -/
def Shared.perform (state : Shared) : Statement → Option Shared
  | .openCallback n callback jobId =>
    if (state.callbacks n).isSome then none
    else some (state.setCallback n (some { callback, jobId }))
  | .checkManaged n => (state.callbacks n).bind (state.checkManaged n)
  | .loadJob n => (state.callbacks n).bind (state.loadJob n)
  | .updateRow n now => (state.callbacks n).bind fun session => state.updateRow n session now
  | .commitCallback n => (state.callbacks n).bind (state.commitCallback n)
  | .abandonCallback n => some (state.closeCallback n)
  | .selectJob n claim => state.selectJob n claim
  | .checkHeld n => (state.claims n).bind (state.checkHeld n)
  | .commitClaim n => (state.claims n).bind (state.commitClaim n)
  | .abandonClaim n => some (state.closeClaim n)
  | .environment db =>
    if assignedJobs db = assignedJobs state.db then some { state with db } else none

/-- The callbacks that are past their check have an unassigned job. -/
structure Guarded (state : Shared) : Prop where
  unmanaged : ∀ n session, state.callbacks n = some session → session.checked = true →
    managed state.db session.jobId = false
  updated : ∀ n session, state.callbacks n = some session → session.written.isSome →
    session.checked = true

namespace Guarded

variable {state after : Shared} {n : Nat}

private theorem of_idle (callbacks : ∀ n, state.callbacks n = none) : Guarded state where
  unmanaged := by simp [callbacks]
  updated := by simp [callbacks]

theorem setDb (guarded : Guarded state) {db : Db}
    (same : ∀ jobId, managed db jobId = managed state.db jobId) :
    Guarded { state with db } where
  unmanaged n session opened checked := (same _).trans (guarded.unmanaged n session opened checked)
  updated := guarded.updated

theorem setCallback (guarded : Guarded state) {session : Option CallbackSession}
    (unmanaged : ∀ next, session = some next → next.checked = true →
      managed state.db next.jobId = false)
    (updated : ∀ next, session = some next → next.written.isSome → next.checked = true) :
    Guarded (state.setCallback n session) where
  unmanaged m next opened := by
    simp only [Shared.setCallback, Function.update_apply] at opened
    split_ifs at opened
    · exact unmanaged next opened
    · exact guarded.unmanaged m next opened
  updated m next opened := by
    simp only [Shared.setCallback, Function.update_apply] at opened
    split_ifs at opened
    · exact updated next opened
    · exact guarded.updated m next opened

theorem closeCallback (guarded : Guarded state) : Guarded (state.closeCallback n) := by
  have closed : Guarded (state.setCallback n none) :=
    guarded.setCallback (fun _ impossible => by cases impossible)
      fun _ impossible => by cases impossible
  exact ⟨closed.unmanaged, closed.updated⟩

theorem closeClaim (guarded : Guarded state) : Guarded (state.closeClaim n) :=
  ⟨guarded.unmanaged, guarded.updated⟩

section

variable {session : CallbackSession} (guarded : Guarded state)

include guarded

theorem checkManaged (done : state.checkManaged n session = some after) : Guarded after := by
  unfold Shared.checkManaged at done
  split_ifs at done with due found
  · cases done
    exact guarded.closeCallback
  · cases done
    refine guarded.setCallback ?_ ?_
    · rintro _ ⟨⟩ -
      simpa using found
    · rintro _ ⟨⟩ -
      rfl

theorem loadJob (opened : state.callbacks n = some session)
    (done : state.loadJob n session = some after) : Guarded after := by
  unfold Shared.loadJob at done
  split_ifs at done
  split at done
  · cases done
    exact guarded.closeCallback
  · cases done
    have locked : Guarded (state.lockLoaded n session) ∧
        (state.lockLoaded n session).db = state.db := by
      unfold lockLoaded
      split_ifs
      · exact ⟨⟨guarded.unmanaged, guarded.updated⟩, rfl⟩
      · exact ⟨guarded, rfl⟩
    refine locked.1.setCallback ?_ ?_
    · rintro _ ⟨⟩ checked
      rw [locked.2]
      exact guarded.unmanaged n session opened checked
    · rintro _ ⟨⟩ written
      exact guarded.updated n session opened written

theorem updateRow {now : Time} (opened : state.callbacks n = some session)
    (done : state.updateRow n session now = some after) : Guarded after := by
  unfold Shared.updateRow at done
  split at done
  · cases done
  · split_ifs at done with waits
    simp only [Bool.or_eq_true, Bool.not_eq_true', not_or, Bool.not_eq_false] at waits
    obtain ⟨⟨checked, -⟩, -⟩ := waits
    split at done
    · cases done
      exact guarded.closeCallback
    · cases done
      have locked : Guarded (state.lock session.jobId (.callback n)) :=
        ⟨guarded.unmanaged, guarded.updated⟩
      refine locked.setCallback ?_ ?_
      · rintro _ ⟨⟩ -
        exact guarded.unmanaged n session opened checked
      · rintro _ ⟨⟩ -
        exact checked

theorem commitCallback (done : state.commitCallback n session = some after) : Guarded after := by
  unfold Shared.commitCallback at done
  split at done
  · cases done
    refine Guarded.closeCallback (guarded.setDb ?_)
    exact fun _ => rfl
  · cases done

theorem selectJob {claim : JobClaim} (done : state.selectJob n claim = some after) :
    Guarded after := by
  unfold Shared.selectJob at done
  split at done
  · cases done
  · split_ifs at done
    cases done
    exact ⟨guarded.unmanaged, guarded.updated⟩

theorem checkHeld {session : ClaimSession} (done : state.checkHeld n session = some after) :
    Guarded after := by
  unfold Shared.checkHeld at done
  split_ifs at done
  · cases done
    exact guarded.closeClaim
  · cases done
    exact ⟨guarded.unmanaged, guarded.updated⟩

end

end Guarded

namespace JobClaim

/-- The statements of a claim reserve its job as `claim` does in one transaction. -/
theorem reserveJob_eq (claim : JobClaim) (db : Db) :
    reserveJob claim.settings claim.digest claim.now db claim.worker claim.body claim.snapshot
        claim.candidate claim.ids =
      (db.jobs.lookup claim.candidate.targetId).bind fun row =>
        if row.status != expectedStatus claim.candidate || claim.held db || claim.exceeds row then
          none
        else claim.store db row := by
  unfold reserveJob
  cases db.jobs.lookup claim.candidate.targetId with
  | none => rfl
  | some row =>
    by_cases estimation : claim.candidate.kind = .estimation
    · simp [held, exceeds, store, estimation]
    · simp only [held, exceeds, store, estimation]
      split_ifs <;> simp_all

theorem managed_store {claim : JobClaim} {db after : Db} {row : Job} {assignment : Assignment}
    (stored : claim.store db row = some (assignment, after)) (jobId : UUID) :
    managed after jobId = (managed db jobId || row.id == jobId) := by
  unfold store at stored
  dsimp only at stored
  split_ifs at stored
  all_goals
    obtain ⟨inserted, insertion, equal⟩ := Option.map_eq_some_iff.mp stored
    cases equal
    have rows := (insertAssignment_eq_some insertion).1
    unfold managed
    rw [rows, List.any_append]
    simp [newAssignment, Assignment.jobId, Target.jobId, Db.modifyJob]

end JobClaim

/-- A claim commits only while no callback for its job is past its check. -/
def Statement.Orderly (state : Shared) : Statement → Prop
  | .commitClaim n =>
    ∀ claiming, state.claims n = some claiming →
      ∀ m session, state.callbacks m = some session → session.checked = true →
        session.jobId ≠ claiming.row.id
  | _ => True

namespace Guarded

variable {state after : Shared} {n : Nat}

theorem commitClaim (guarded : Guarded state) {claiming : ClaimSession}
    (opened : state.claims n = some claiming) (orderly : (Statement.commitClaim n).Orderly state)
    (done : state.commitClaim n claiming = some after) : Guarded after := by
  unfold Shared.commitClaim at done
  split_ifs at done
  split at done
  · cases done
    exact guarded.closeClaim
  · rename_i assignment db stored
    cases done
    refine Guarded.closeClaim ⟨?_, guarded.updated⟩
    intro m session callback checked
    rw [JobClaim.managed_store stored, guarded.unmanaged m session callback checked, Bool.false_or,
      beq_eq_false_iff_ne]
    exact (orderly claiming opened m session callback checked).symm

theorem environment (guarded : Guarded state) {db : Db}
    (same : assignedJobs db = assignedJobs state.db) : Guarded { state with db } := by
  refine guarded.setDb fun jobId => ?_
  have managed_iff (db : Db) : managed db jobId = decide (jobId ∈ assignedJobs db) := by
    rw [Bool.eq_iff_iff]
    simp [managed, assignedJobs]
  rw [managed_iff, managed_iff, same]

theorem perform (guarded : Guarded state) {statement : Statement}
    (orderly : statement.Orderly state) (done : state.perform statement = some after) :
    Guarded after := by
  cases statement with
  | openCallback n callback jobId =>
    simp only [Shared.perform] at done
    split_ifs at done
    cases done
    refine guarded.setCallback ?_ ?_
    · rintro _ ⟨⟩ ⟨⟩
    · rintro _ ⟨⟩ ⟨⟩
  | checkManaged n =>
    obtain ⟨session, _, checked⟩ := Option.bind_eq_some_iff.mp done
    exact guarded.checkManaged checked
  | loadJob n =>
    obtain ⟨session, opened, loaded⟩ := Option.bind_eq_some_iff.mp done
    exact guarded.loadJob opened loaded
  | updateRow n now =>
    obtain ⟨session, opened, updated⟩ := Option.bind_eq_some_iff.mp done
    exact guarded.updateRow opened updated
  | commitCallback n =>
    obtain ⟨session, _, committed⟩ := Option.bind_eq_some_iff.mp done
    exact guarded.commitCallback committed
  | abandonCallback n =>
    cases done
    exact guarded.closeCallback
  | selectJob n claim => exact guarded.selectJob done
  | checkHeld n =>
    obtain ⟨session, _, checked⟩ := Option.bind_eq_some_iff.mp done
    exact guarded.checkHeld checked
  | commitClaim n =>
    obtain ⟨claiming, opened, committed⟩ := Option.bind_eq_some_iff.mp done
    exact guarded.commitClaim opened orderly committed
  | abandonClaim n =>
    cases done
    exact guarded.closeClaim
  | environment db =>
    simp only [Shared.perform] at done
    split_ifs at done with same
    cases done
    exact guarded.environment same

end Guarded

/-- An interleaving of statements, each allowed in the state it meets. -/
inductive Interleaved (allowed : Shared → Statement → Prop) (first : Shared) : Shared → Prop where
  | start : Interleaved allowed first first
  | step {state after : Shared} (earlier : Interleaved allowed first state) (statement : Statement)
      (allows : allowed state statement) (done : state.perform statement = some after) :
      Interleaved allowed first after

theorem Interleaved.guarded {first last : Shared} (guarded : Guarded first)
    (run : Interleaved (fun state statement => statement.Orderly state) first last) :
    Guarded last := by
  induction run with
  | start => exact guarded
  | step _ statement allows done induction => exact induction.perform allows done

/-- In every interleaving in which no claim commits a job while a callback for it is past its check,
the commit of a callback leaves the status of every job that has an assignment. -/
theorem callback_spares_managed_jobs {first before after : Shared}
    (callbacks : ∀ n, first.callbacks n = none)
    (run : Interleaved (fun state statement => statement.Orderly state) first before) {n : Nat}
    (commit : before.perform (.commitCallback n) = some after) {jobId : UUID}
    (assigned : managed before.db jobId = true) :
    after.db.jobStatus jobId = before.db.jobStatus jobId := by
  have guarded := run.guarded (.of_idle callbacks)
  obtain ⟨session, opened, committed⟩ := Option.bind_eq_some_iff.mp commit
  unfold commitCallback at committed
  split at committed
  · rename_i row written _ updated
    cases committed
    have checked := guarded.updated n session opened (by simp [updated])
    have unmanaged := guarded.unmanaged n session opened checked
    have other : jobId ≠ session.jobId := by
      rintro rfl
      rw [assigned] at unmanaged
      cases unmanaged
    exact Db.jobStatus_rewritten_ne (f := writeBack row written) rfl (fun _ => rfl) other
  · cases committed

/-- Carry out statements one by one. -/
def Shared.performAll (state : Shared) (statements : List Statement) : Option Shared :=
  statements.foldlM Shared.perform state

theorem interleaved_of_performAll {allowed : Shared → Statement → Prop} {first state last : Shared}
    {statements : List Statement} (allows : ∀ statement ∈ statements, ∀ state,
      allowed state statement) (earlier : Interleaved allowed first state)
    (done : state.performAll statements = some last) : Interleaved allowed first last := by
  induction statements generalizing state with
  | nil =>
    cases done
    exact earlier
  | cons head tail induction =>
    obtain ⟨next, performed, remaining⟩ := Option.bind_eq_some_iff.mp done
    exact induction (fun statement member => allows statement (List.mem_cons_of_mem _ member))
      (earlier.step head (allows head List.mem_cons_self state) performed) remaining

namespace Deployment

def estimationClaim (jobId : UUID) : JobClaim where
  settings := settings
  digest := digest
  now := 0
  worker := worker
  body := ⟨10, 1⟩
  snapshot := claimSnapshot worker inventory []
  candidate := { kind := .estimation, targetId := jobId, flag := "vram_estimation" }
  ids := (1001, 2001)

/-- Two jobs wait for their estimation. -/
def waiting : Db :=
  { db with
    jobs := ⟨[100, 101].map fun id => { job id with status := .vramEstimationPending },
      by decide⟩ }

/-- Behind the check of a callback for job 100, a claim selects a job and finds it unassigned. -/
def window (jobId : UUID) : List Statement :=
  [.openCallback 0 .setJobRunnable 100, .checkManaged 0, .loadJob 0,
    .selectJob 0 (estimationClaim jobId), .checkHeld 0]

/-- The claim commits before the write of the callback, which makes the job runnable although an
estimation of it has been assigned. -/
theorem racing_callback_changes_status :
    ∃ before after, Interleaved (fun _ _ => True) { db := waiting } before ∧
      before.perform (.commitCallback 0) = some after ∧ managed before.db 100 = true ∧
        before.db.jobStatus 100 = some .vramEstimationPending ∧
          after.db.jobStatus 100 = some .runnable := by
  have outcome : (({ db := waiting } : Shared).performAll
      (window 100 ++ [.commitClaim 0, .updateRow 0 1])).bind (fun before =>
        (before.perform (.commitCallback 0)).map fun after =>
          (managed before.db 100, before.db.jobStatus 100, after.db.jobStatus 100)) =
      some (true, some .vramEstimationPending, some .runnable) := by
    decide +kernel
  obtain ⟨before, run, rest⟩ := Option.bind_eq_some_iff.mp outcome
  obtain ⟨after, commit, values⟩ := Option.map_eq_some_iff.mp rest
  simp only [Prod.mk.injEq] at values
  exact ⟨before, after, interleaved_of_performAll (fun _ _ _ => trivial) .start run, commit, values⟩

/-- The state in which the claim of job 101 is about to commit. -/
def committing : Shared :=
  (({ db := waiting } : Shared).performAll (window 101)).getD { db := waiting }

private theorem committing_orderly : (Statement.commitClaim 0).Orderly committing := by
  intro session opened m callback found _
  have row : (committing.claims 0).map (fun session => session.row.id) = some 101 := by
    decide +kernel
  have job : (committing.callbacks 0).map CallbackSession.jobId = some 100 := by decide +kernel
  rw [opened] at row
  cases m with
  | zero =>
    rw [found] at job
    simp only [Option.map_some, Option.some_inj] at row job
    rw [row, job]
    decide
  | succ m => cases found

/-- An estimation of job 101 is committed between the check and the write of a callback for job
100; the callback commits and leaves the status of job 101. -/
theorem callback_spares_granted_job :
    ∃ before after : Shared, before.perform (.commitCallback 0) = some after ∧
      managed before.db 101 = true ∧ after.db.jobStatus 100 = some .runnable ∧
        after.db.jobStatus 101 = before.db.jobStatus 101 := by
  have outcome : (committing.perform (.commitClaim 0)).bind (fun granted =>
      (granted.perform (.updateRow 0 1)).bind fun before =>
        (before.perform (.commitCallback 0)).map fun after =>
          (managed before.db 101, after.db.jobStatus 100)) = some (true, some .runnable) := by
    decide +kernel
  obtain ⟨granted, committed, rest⟩ := Option.bind_eq_some_iff.mp outcome
  obtain ⟨before, updated, rest⟩ := Option.bind_eq_some_iff.mp rest
  obtain ⟨after, commit, values⟩ := Option.map_eq_some_iff.mp rest
  simp only [Prod.mk.injEq] at values
  have reached : ({ db := waiting } : Shared).performAll (window 101) = some committing := by
    rw [committing]
    rfl
  have opened : Interleaved (fun state statement => statement.Orderly state) { db := waiting }
      committing := interleaved_of_performAll (by simp [window, Statement.Orderly]) .start reached
  refine ⟨before, after, commit, values.1, values.2, ?_⟩
  exact callback_spares_managed_jobs (fun _ => rfl)
    ((opened.step _ committing_orderly committed).step (.updateRow 0 1) trivial updated) commit
    values.1

end Deployment

end TrainingScheduler
