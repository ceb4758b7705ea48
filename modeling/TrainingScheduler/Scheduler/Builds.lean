import Mathlib.Data.List.Sort
import Mathlib.Data.Rat.Floor
import TrainingScheduler.Programs
import TrainingScheduler.Sessions
import TrainingScheduler.Scheduler.Jobs

/-!
# Image builds, statement by statement

The image-build lease of a job as database sessions: the claim, the callbacks and the heartbeat of a
builder, and `_requeue_stalled_image_builds` of the watchdog, whose snapshot, Redis reads and
conditional updates are separate steps.  The store remembers the attempts that were ever minted,
`uuid4` does not repeat one, and when the watchdog has taken one back.
-/

namespace TrainingScheduler

open Table

/-- The committed tables, the Redis keys of attempts, the clock, the attempts minted so far and
those requeued by the watchdog. -/
structure BuildStore where
  db : Db
  heartbeats : UUID → Option Time := fun _ => none
  clock : Time
  attempts : List UUID
  requeued : List (UUID × Time) := []

/-- The request a commit serves: a claim, a callback, the watchdog for one attempt of its snapshot,
a key of Redis that is set or deleted, or anything else that leaves the jobs alone. -/
inductive BuildLabel where
  | claim (jobId : UUID) (builderId : String) (attemptId : UUID)
  | ready (jobId : UUID) (builderId : String) (attemptId : UUID)
  | release (jobId : UUID) (builderId : String) (attemptId : UUID)
  | fail (jobId : UUID) (builderId : Option String) (attemptId : Option UUID)
  | requeue (jobId : UUID) (attemptId : Option UUID)
  | renew (attemptId : UUID) (sent : Time)
  | forget (attemptId : Option UUID)
  | other
  deriving DecidableEq, Repr

inductive BuildReply where
  | claimed (payload : Option JobPayload)
  | outcome (result : Except JobError JobStatus)
  | cancelled (attempts : List (UUID × UUID))
  | marked (count : ℕ)
  | ticked
  deriving DecidableEq

abbrev BuildScript := Script BuildStore UUID BuildLabel BuildReply

variable (now : Time) (store : BuildStore) (jobId : UUID)

def BuildStore.write (written : Job) : BuildStore :=
  { store with db := store.db.writeJob jobId written }

/-- The jobs that a builder may claim, the oldest first. -/
def buildQueue (builderId : String) (store : BuildStore) : List UUID :=
  ((store.db.jobs.rows.filter (buildable store.clock builderId)).insertionSort
    fun left right => left.createdAt ≤ right.createdAt).map Job.id

/-- `claim_job_for_building`. -/
def claimForBuildingScript (builderId : String) (attemptId : UUID) : BuildScript :=
  .lock (buildQueue builderId) true fun picked store =>
    match picked.bind store.db.jobs.lookup with
    | none => .done (.claimed none)
    | some job =>
      let written := startBuild store.clock builderId attemptId job
      .commit (.claim job.id builderId attemptId)
        (fun current =>
          if attemptId ∈ current.attempts then none
          else some { current.write job.id written with
            attempts := current.attempts ++ [attemptId] })
        fun committed =>
          .done (if committed then .claimed (some (formatJobResponse written "image_building"))
            else .outcome (.error (.http ⟨500, "Internal Server Error"⟩)))

/-- A callback loads its job with `FOR UPDATE`, computes the new row and commits it. -/
def callbackScript (label : BuildLabel) (jobId : UUID)
    (compute : Time → Job → Except JobError Job) :
    BuildScript :=
  .lock (fun store => ((store.db.jobs.lookup jobId).map Job.id).toList) false fun _ store =>
    match store.db.jobs.lookup jobId with
    | none => .done (.outcome (.error (.raised "Job not found")))
    | some job =>
      match compute store.clock job with
      | .error exception => .done (.outcome (.error exception))
      | .ok written =>
        .commit label (fun current => some (current.write jobId written))
          fun _ => .done (.outcome (.ok written.status))

/-- `mark_image_ready`: the route demands both identifiers. -/
def markImageReadyScript (builderId : String) (attemptId : UUID) (imageTag : String) :
    BuildScript :=
  callbackScript (.ready jobId builderId attemptId) jobId fun _ =>
    readyRow (some builderId) (some attemptId) (some imageTag)

def releaseToNotRunnableScript (builderId : String) (attemptId : UUID) : BuildScript :=
  callbackScript (.release jobId builderId attemptId) jobId fun _ => releasedRow builderId attemptId

/-- `mark_job_failed`. -/
def markJobFailedScript (failureType : FailureType) (failureReason : Option String)
    (builderId : Option String) (attemptId : Option UUID) : BuildScript :=
  .select fun store =>
    if managed store.db jobId then .done (.outcome (.error (.http managedJobException)))
    else
      callbackScript (.fail jobId builderId attemptId) jobId fun now job =>
        (Callback.markJobFailed failureType failureReason builderId attemptId).compute now job

def heartbeatKeyTtl : ℚ := 300

/-- The heartbeat of an attempt, unless its key has expired. -/
def BuildStore.lastHeartbeat (attemptId : UUID) : Option Time :=
  (store.heartbeats attemptId).filter fun sent => decide (store.clock < sent + heartbeatKeyTtl)

def buildCurrent (builderId : String) (jobId attemptId : UUID) : Bool :=
  (store.db.jobs.lookup jobId).any fun job =>
    job.status == .imageBuilding && job.imageBuilderId == some builderId &&
      job.imageBuildAttemptId == some attemptId

/-- Set the keys of the current attempts, one after the other. -/
def renewKeys (now : Time) (cancelled : List (UUID × UUID)) : List UUID → BuildScript
  | [] => .done (.cancelled cancelled)
  | attemptId :: rest =>
    .commit (.renew attemptId now)
      (fun store => some
        { store with heartbeats := Function.update store.heartbeats attemptId (some now) })
      fun _ => renewKeys now cancelled rest

/-- `process_heartbeat`, with the time it was started: the jobs are read once. -/
def builderHeartbeatScript (builderId : String) (active : List (UUID × UUID)) : BuildScript :=
  .select fun store =>
    let (current, stale) := active.partition fun (jobId, attemptId) =>
      buildCurrent store builderId jobId attemptId
    renewKeys now stale (current.map Prod.snd)

/-- What the watchdog copies of a job that is being built. -/
structure BuildSnapshot where
  jobId : UUID
  attemptId : Option UUID
  startedAt : Option Time
  updatedAt : Option Time
  createdAt : Time
  deriving DecidableEq, Repr

/-- The snapshot of the scan.  Every update of a row sets its `updated_at`, which the jobs here do
not have; `updatedAt` is what the scan reads of that column. -/
def buildSnapshots (updatedAt : List (UUID × Time)) : List BuildSnapshot :=
  (store.db.jobs.rows.filter fun job => job.status == .imageBuilding).map fun job =>
    { jobId := job.id
      attemptId := job.imageBuildAttemptId
      startedAt := job.imageBuildStartedAt
      updatedAt := updatedAt.lookup job.id
      createdAt := job.createdAt }

/-- The attempt has shown no sign of life for the timeout. -/
def BuildSnapshot.stale (snapshot : BuildSnapshot) : Bool :=
  let last := (snapshot.attemptId.bind store.lastHeartbeat).getD
    (snapshot.startedAt.getD (snapshot.updatedAt.getD snapshot.createdAt))
  decide (imageBuildHeartbeatTimeout ≤ now - last)

/-- The job still belongs to the attempt that was inspected. -/
def requeueable (attemptId : Option UUID) (job : Job) : Bool :=
  job.status == .imageBuilding && job.imageBuildAttemptId == attemptId

/-- The row of a requeued job; its last builder is passed over for a while. -/
def requeuedRow (builderId : Option String) (job : Job) : Job :=
  clearImageBuildLease
    { job with
      status := .notRunnable
      imageBuildExcludedBuilderId := builderId
      imageBuildExcludedUntil := some (now + imageBuildHeartbeatTimeout) }

/-- The Redis key of a requeued attempt is deleted. -/
def forgetKey (attemptId : Option UUID) (next : BuildScript) : BuildScript :=
  .commit (.forget attemptId)
    (fun store => some
      { store with
        heartbeats := fun other =>
          if attemptId = some other then none else store.heartbeats other })
    fun _ => next

/-- The commit of a conditional update. -/
def takeBack (attemptId : Option UUID) (builderId : Option String) (job : Job)
    (next : BuildScript) : BuildScript :=
  .commit (.requeue jobId attemptId)
    (fun current => some
      { current.write jobId (requeuedRow now builderId job) with
        requeued := current.requeued ++
          attemptId.toList.map fun attempt => (attempt, current.clock) })
    fun _ => forgetKey attemptId next

/-- The conditional update of one job, which waits for the lock of its row. -/
def updateAttempt (attemptId : Option UUID) (builderId : Option String)
    (missed updated : BuildScript) : BuildScript :=
  .lock (fun store =>
      (((store.db.jobs.lookup jobId).filter (requeueable attemptId)).map Job.id).toList)
    false fun picked locked =>
      match picked.bind locked.db.jobs.lookup with
      | none => missed
      | some job => takeBack now jobId attemptId builderId job updated

/-- The conditional updates, each committed on its own. -/
def requeueStale (now : Time) (marked : ℕ) : List (UUID × Option UUID) → BuildScript
  | [] => .done (.marked marked)
  | (jobId, attemptId) :: rest =>
    .select fun store =>
      updateAttempt now jobId attemptId
        ((store.db.jobs.lookup jobId).bind fun job => job.imageBuilderId)
        (requeueStale now marked rest) (requeueStale now (marked + 1) rest)

/-- The Redis reads, one for each job of the snapshot. -/
def inspectBuilds (now : Time) (stale : List (UUID × Option UUID)) :
    List BuildSnapshot → BuildScript
  | [] => requeueStale now 0 stale
  | snapshot :: rest =>
    .select fun store =>
      inspectBuilds now
        (if snapshot.stale now store then stale ++ [(snapshot.jobId, snapshot.attemptId)]
         else stale)
        rest

/-- `_requeue_stalled_image_builds`, with the time its scan was started. -/
def requeueStalledScript (updatedAt : List (UUID × Time)) : BuildScript :=
  .select fun store => inspectBuilds now [] (buildSnapshots store updatedAt)

inductive BuildRequest where
  | claim (builderId : String) (attemptId : UUID)
  | ready (jobId : UUID) (builderId : String) (attemptId : UUID) (imageTag : String)
  | release (jobId : UUID) (builderId : String) (attemptId : UUID)
  | fail (jobId : UUID) (failureType : FailureType) (failureReason : Option String)
      (builderId : Option String) (attemptId : Option UUID)
  | heartbeat (now : Time) (builderId : String) (active : List (UUID × UUID))
  | requeue (now : Time) (updatedAt : List (UUID × Time))
  | tick (clock : Time)
  deriving DecidableEq, Repr

open BuildRequest

def BuildRequest.script (_ : ℕ) : BuildRequest → BuildScript
  | claim builderId attemptId => claimForBuildingScript builderId attemptId
  | ready jobId builderId attemptId imageTag =>
    markImageReadyScript jobId builderId attemptId imageTag
  | release jobId builderId attemptId => releaseToNotRunnableScript jobId builderId attemptId
  | fail jobId failureType failureReason builderId attemptId =>
    markJobFailedScript jobId failureType failureReason builderId attemptId
  | heartbeat now builderId active => builderHeartbeatScript now builderId active
  | requeue now updatedAt => requeueStalledScript now updatedAt
  | tick clock =>
    .commit .other
      (fun store => if store.clock ≤ clock then some { store with clock } else none)
      fun _ => .done .ticked

/-- The job is being built, by this builder and under this attempt. -/
def BuildStore.Owns (builderId : Option String) (attemptId : Option UUID) : Prop :=
  ∃ job, store.db.jobs.lookup jobId = some job ∧ job.status = .imageBuilding ∧
    job.imageBuilderId = builderId ∧ job.imageBuildAttemptId = attemptId

variable {label : BuildLabel}

namespace BuildLabel

/-- The commit serves a callback that carries exactly this job, builder and attempt, or the watchdog
for this job and attempt. -/
def For (jobId : UUID) (builderId : Option String) (attemptId : Option UUID) : BuildLabel → Prop
  | ready job builder attempt | release job builder attempt =>
    job = jobId ∧ some builder = builderId ∧ some attempt = attemptId
  | fail job builder attempt => job = jobId ∧ builder = builderId ∧ attempt = attemptId
  | requeue job attempt => job = jobId ∧ attempt = attemptId
  | claim _ _ _ | renew _ _ | forget _ | other => False

/-- The attempt that a callback or the watchdog acts for. -/
def attempt : BuildLabel → Option UUID
  | ready _ _ attempt | release _ _ attempt => some attempt
  | fail _ _ attempt | requeue _ attempt => attempt
  | claim _ _ _ | renew _ _ | forget _ | other => none

theorem For.attempt_eq {jobId : UUID} {builderId : Option String} {attemptId : Option UUID}
    (serves : label.For jobId builderId attemptId) : label.attempt = attemptId := by
  cases label with
  | ready | release | fail => exact serves.2.2
  | requeue job attempt => exact serves.2
  | claim | renew | forget | other => exact serves.elim

end BuildLabel

namespace BuildStore

/-- No attempt is minted twice, and the attempts of the jobs were minted and differ. -/
structure Sound (store : BuildStore) : Prop where
  nodup : store.attempts.Nodup
  minted : ∀ job ∈ store.db.jobs.rows, ∀ attemptId, job.imageBuildAttemptId = some attemptId →
    attemptId ∈ store.attempts
  single : ∀ job ∈ store.db.jobs.rows, ∀ other ∈ store.db.jobs.rows, ∀ attemptId,
    job.imageBuildAttemptId = some attemptId → other.imageBuildAttemptId = some attemptId →
      job.id = other.id

def Carries (store : BuildStore) (attemptId : UUID) : Prop :=
  ∃ job ∈ store.db.jobs.rows, job.imageBuildAttemptId = some attemptId

/-- The attempt has ended. -/
def Retired (store : BuildStore) (attemptId : UUID) : Prop :=
  attemptId ∈ store.attempts ∧ ¬ store.Carries attemptId

/-- A commit does not bring an attempt back, it sets keys under its label and deletes those of
attempts that have ended, and the watchdog takes back an attempt that some job has. -/
structure Tended (label : BuildLabel) (before after : BuildStore) : Prop where
  attempts : before.attempts ⊆ after.attempts
  leases : ∀ attemptId ∈ before.attempts, after.Carries attemptId → before.Carries attemptId
  clock : before.clock ≤ after.clock
  keys : ∀ attemptId, after.heartbeats attemptId = before.heartbeats attemptId ∨
    (∃ sent, label = .renew attemptId sent ∧ after.heartbeats attemptId = some sent) ∨
      before.Retired attemptId
  requeued : after.requeued = before.requeued ∨
    ∃ jobId attemptId, label = .requeue jobId (some attemptId) ∧ before.Carries attemptId ∧
      ¬ after.Carries attemptId ∧ after.requeued = before.requeued ++ [(attemptId, before.clock)]

/-- A commit leaves unlocked jobs, and changes one that is being built only for its attempt. -/
structure Fenced (label : BuildLabel) (held : Set UUID) (before after : BuildStore) : Prop
    extends Tended label before after where
  frame : ∀ jobId, jobId ∉ held → after.db.jobs.lookup jobId = before.db.jobs.lookup jobId
  fenced : ∀ jobId builderId attemptId, before.Owns jobId builderId attemptId →
    after.db.jobs.lookup jobId ≠ before.db.jobs.lookup jobId → label.For jobId builderId attemptId

variable {store after : BuildStore} {jobId : UUID} {job written : Job}

theorem lookup_write_ne {other : UUID} (ne : other ≠ jobId) :
    (store.write jobId written).db.jobs.lookup other = store.db.jobs.lookup other :=
  lookup_rewritten_ne (f := fun row => { written with id := row.id }) rfl (fun _ => rfl) ne

theorem mem_write (member : job ∈ (store.write jobId written).db.jobs.rows) :
    (job ∈ store.db.jobs.rows ∧ job.id ≠ jobId) ∨
      (job.id = jobId ∧ job.imageBuildAttemptId = written.imageBuildAttemptId) := by
  rcases mem_rewriteAt.mp member with old | ⟨row, -, selected, rfl⟩
  · exact .inl old
  · exact .inr ⟨selected, rfl⟩

variable {attemptId : UUID} {label : BuildLabel}

theorem mem_write_of_ended (lease : written.imageBuildAttemptId = none)
    (member : job ∈ (store.write jobId written).db.jobs.rows)
    (carried : job.imageBuildAttemptId = some attemptId) :
    job ∈ store.db.jobs.rows ∧ job.id ≠ jobId := by
  rcases mem_write member with old | ⟨-, same⟩
  · exact old
  · rw [same, lease] at carried
    cases carried

theorem fenced_write {held : Set UUID} (tended : Tended label store after) (locked : jobId ∈ held)
    (db : after.db = (store.write jobId written).db)
    (owner : ∀ builderId attemptId, store.Owns jobId builderId attemptId →
      label.For jobId builderId attemptId) : Fenced label held store after where
  toTended := tended
  frame other free := by
    rw [db]
    exact lookup_write_ne fun same => free (same ▸ locked)
  fenced other builderId attemptId owns changed := by
    by_cases same : other = jobId
    · subst same
      exact owner builderId attemptId owns
    · rw [db] at changed
      exact absurd (lookup_write_ne same) changed

theorem Sound.write (sound : store.Sound) (jobId : UUID)
    (lease : written.imageBuildAttemptId = none) :
    (store.write jobId written).Sound where
  nodup := sound.nodup
  minted job member attemptId carried :=
    sound.minted job (mem_write_of_ended lease member carried).1 attemptId carried
  single job member other other_member attemptId carried other_carried :=
    sound.single job (mem_write_of_ended lease member carried).1 other
      (mem_write_of_ended lease other_member other_carried).1 attemptId carried other_carried

theorem tended_write (lease : written.imageBuildAttemptId = none) :
    Tended label store (store.write jobId written) where
  attempts := List.Subset.refl _
  leases _ _ := fun ⟨job, member, carried⟩ =>
    ⟨job, (mem_write_of_ended lease member carried).1, carried⟩
  clock := le_rfl
  keys _ := .inl rfl
  requeued := .inl rfl

theorem Sound.mint (sound : store.Sound) (fresh : attemptId ∉ store.attempts)
    (lease : written.imageBuildAttemptId = some attemptId) :
    Sound { store.write jobId written with attempts := store.attempts ++ [attemptId] } where
  nodup := by
    refine List.nodup_append.mpr ⟨sound.nodup, by simp, ?_⟩
    rintro earlier member other new rfl
    exact fresh (List.mem_singleton.mp new ▸ member)
  minted job member other minted := by
    rcases mem_write member with ⟨old, -⟩ | ⟨-, same⟩
    · exact List.mem_append_left _ (sound.minted job old other minted)
    · rw [same, lease] at minted
      cases minted
      exact List.mem_append_right _ (List.mem_singleton_self _)
  single job member other other_member attempt carried other_carried := by
    have unused {row : Job} (old : row ∈ store.db.jobs.rows)
        (carries : row.imageBuildAttemptId = some attemptId) : False :=
      fresh (sound.minted row old attemptId carries)
    rcases mem_write member with ⟨old, -⟩ | ⟨id, same⟩ <;>
      rcases mem_write other_member with ⟨other_old, -⟩ | ⟨other_id, other_same⟩
    · exact sound.single job old other other_old attempt carried other_carried
    · cases lease.symm.trans (other_same.symm.trans other_carried)
      exact (unused old carried).elim
    · cases lease.symm.trans (same.symm.trans carried)
      exact (unused other_old other_carried).elim
    · exact id.trans other_id.symm

private theorem tended_mint (fresh : attemptId ∉ store.attempts)
    (lease : written.imageBuildAttemptId = some attemptId) :
    Tended label store
      { store.write jobId written with attempts := store.attempts ++ [attemptId] } where
  attempts := List.subset_append_left _ _
  leases := by
    rintro attempt minted ⟨job, member, carried⟩
    rcases mem_write member with ⟨old, -⟩ | ⟨-, same⟩
    · exact ⟨job, old, carried⟩
    · cases lease.symm.trans (same.symm.trans carried)
      exact absurd minted fresh
  clock := le_rfl
  keys _ := .inl rfl
  requeued := .inl rfl

theorem Sound.tended_requeue (sound : store.Sound) (found : store.db.jobs.lookup jobId = some job)
    (lease : written.imageBuildAttemptId = none) :
    Tended (.requeue jobId job.imageBuildAttemptId) store
      { store.write jobId written with
        requeued := store.requeued ++
          job.imageBuildAttemptId.toList.map fun attempt => (attempt, store.clock) } where
  attempts := List.Subset.refl _
  leases := (tended_write lease : Tended .other store (store.write jobId written)).leases
  clock := le_rfl
  keys _ := .inl rfl
  requeued := by
    have member := mem_of_lookup found
    cases carried : job.imageBuildAttemptId with
    | none => exact .inl (by simp)
    | some attemptId =>
      refine .inr ⟨jobId, attemptId, rfl, ⟨job, member, carried⟩, ?_, rfl⟩
      rintro ⟨other, other_member, other_carried⟩
      obtain ⟨old, apart⟩ := mem_write_of_ended lease other_member other_carried
      have same := sound.single other old job member attemptId other_carried carried
      exact apart (same.trans (key_of_lookup found))

theorem Sound.quiet (sound : store.Sound) (heartbeats : UUID → Option Time) (clock : Time)
    (label : BuildLabel) (held : Set UUID) (later : store.clock ≤ clock)
    (keys : ∀ attemptId, heartbeats attemptId = store.heartbeats attemptId ∨
      (∃ sent, label = .renew attemptId sent ∧ heartbeats attemptId = some sent) ∨
        store.Retired attemptId) :
    let after : BuildStore := { store with heartbeats, clock }
    after.Sound ∧ Fenced label held store after :=
  ⟨⟨sound.nodup, sound.minted, sound.single⟩,
    ⟨List.Subset.refl _, fun _ _ carried => carried, later, keys, .inl rfl⟩,
    fun _ _ => rfl, fun _ _ _ _ changed => absurd rfl changed⟩

theorem Retired.tended (retired : store.Retired attemptId) (tended : Tended label store after) :
    after.Retired attemptId :=
  ⟨tended.attempts retired.1, fun carried => retired.2 (tended.leases _ retired.1 carried)⟩

/-- The watchdog has taken an attempt back at most once, and what it has taken back has ended. -/
structure Recorded (store : BuildStore) : Prop where
  once : (store.requeued.map Prod.fst).Nodup
  ended : ∀ entry ∈ store.requeued, store.Retired entry.1 ∧ entry.2 ≤ store.clock

theorem Recorded.tended (recorded : store.Recorded) (sound : store.Sound)
    (tended : Tended label store after) :
    after.Recorded := by
  have kept (entry) (member : entry ∈ store.requeued) :
      after.Retired entry.1 ∧ entry.2 ≤ after.clock :=
    ⟨(recorded.ended entry member).1.tended tended,
      (recorded.ended entry member).2.trans tended.clock⟩
  rcases tended.requeued with same | ⟨jobId, attemptId, -, carried, gone, added⟩
  · exact ⟨same ▸ recorded.once, same ▸ kept⟩
  · have minted : attemptId ∈ store.attempts := by
      obtain ⟨job, member, current⟩ := carried
      exact sound.minted job member attemptId current
    refine ⟨?_, fun entry member => ?_⟩
    · rw [added, List.map_append, List.nodup_append]
      refine ⟨recorded.once, by simp, ?_⟩
      rintro _ earlier _ new rfl
      obtain ⟨entry, member, rfl⟩ := List.mem_map.mp earlier
      exact (recorded.ended entry member).1.2 (List.mem_singleton.mp new ▸ carried)
    · rcases List.mem_append.mp (added ▸ member) with old | new
      · exact kept entry old
      · cases List.mem_singleton.mp new
        exact ⟨⟨tended.attempts minted, gone⟩, tended.clock⟩

end BuildStore

open BuildStore

def buildContract : Contract BuildStore UUID BuildLabel where
  invariant := BuildStore.Sound
  effect _ := BuildStore.Fenced

section

variable {store : BuildStore} {n : ℕ} {held : Set UUID} {jobId : UUID} {attemptId : Option UUID}
  {now : BuildStore} {builderId : Option String}

theorem lookup_of_interfered (interfered : buildContract.Interfered n held store now)
    (locked : jobId ∈ held) : now.db.jobs.lookup jobId = store.db.jobs.lookup jobId := by
  refine interfered.stable (fun now => now.db.jobs.lookup jobId = store.db.jobs.lookup jobId) ?_ rfl
  intro before after m label other _ _ disjoint effect same
  exact (effect.frame jobId fun taken => Set.disjoint_left.mp disjoint taken locked).trans same

theorem owns_of_interfered {job : Job} (interfered : buildContract.Interfered n held store now)
    (locked : jobId ∈ held) (found : store.db.jobs.lookup jobId = some job)
    (owns : now.Owns jobId builderId attemptId) :
    job.status = .imageBuilding ∧ job.imageBuilderId = builderId ∧
      job.imageBuildAttemptId = attemptId := by
  obtain ⟨current, current_found, fields⟩ := owns
  rw [lookup_of_interfered interfered locked, found] at current_found
  cases current_found
  exact fields

theorem safe_claimForBuildingScript (builderId : String) (attemptId : UUID)
    (sound : store.Sound) :
    (claimForBuildingScript builderId attemptId).Safe buildContract n ∅ store := by
  intro locked first
  have locked_sound := first.invariant sound
  refine ⟨fun _ => trivial, fun row listed => ?_⟩
  obtain ⟨job, queued, rfl⟩ := List.mem_map.mp listed
  obtain ⟨member, free⟩ := List.mem_filter.mp ((List.mem_insertionSort _).mp queued)
  have found := lookup_of_mem member
  simp only [Option.bind_some, found]
  intro now interfered
  refine ⟨fun _ => trivial, fun after _ written => ?_⟩
  dsimp only at written
  split_ifs at written with used
  cases written
  refine ⟨(interfered.invariant locked_sound).mint used rfl, ?_, trivial⟩
  refine fenced_write (tended_mint used rfl) (Set.mem_insert _ _) rfl
    fun builder attempt owns => ?_
  have building := (owns_of_interfered interfered (Set.mem_insert _ _) found owns).1
  simp [buildable, building] at free

/-- A callback is safe if the row it computes ends the lease, and if only the owner of the attempt
gets a row for a job that is being built. -/
theorem safe_callbackScript {compute : Time → Job → Except JobError Job} (sound : store.Sound)
    (ends : ∀ now job written, compute now job = .ok written → written.imageBuildAttemptId = none)
    (owner : ∀ now job written, compute now job = .ok written → job.status = .imageBuilding →
      label.For jobId job.imageBuilderId job.imageBuildAttemptId) :
    (callbackScript label jobId compute).Safe buildContract n held store := by
  intro locked first
  have locked_sound := first.invariant sound
  dsimp only
  cases found : locked.db.jobs.lookup jobId with
  | none => exact ⟨fun _ => trivial, fun row listed => by simp at listed⟩
  | some job =>
    refine ⟨fun absent => by simp at absent, fun row listed => ?_⟩
    have row_eq : row = jobId := by
      simpa [key_of_lookup found] using listed
    subst row_eq
    dsimp only
    cases computed : compute locked.clock job with
    | error exception => trivial
    | ok written =>
      intro now interfered
      refine ⟨fun _ => trivial, ?_⟩
      rintro after - ⟨⟩
      have ended := ends _ _ _ computed
      refine ⟨(interfered.invariant locked_sound).write _ ended, ?_, trivial⟩
      refine fenced_write (tended_write ended) (Set.mem_insert _ _) rfl
        fun builder attempt owns => ?_
      obtain ⟨building, rfl, rfl⟩ := owns_of_interfered interfered (Set.mem_insert _ _) found owns
      exact owner _ _ _ computed building

theorem requireImageBuildOwner_eq_ok {job : Job}
    (passed : requireImageBuildOwner job builderId attemptId = .ok ()) :
    builderId = job.imageBuilderId ∧ attemptId = job.imageBuildAttemptId := by
  unfold requireImageBuildOwner at passed
  split_ifs at passed with missing stale
  obtain ⟨builder, attempt⟩ := not_or.mp stale
  exact ⟨(not_ne_iff.mp builder).symm, (not_ne_iff.mp attempt).symm⟩

theorem safe_markImageReadyScript (jobId : UUID) (builderId : String) (attemptId : UUID)
    (imageTag : String) (sound : store.Sound) :
    (markImageReadyScript jobId builderId attemptId imageTag).Safe buildContract n held store := by
  have owned {job written : Job}
      (computed : readyRow (some builderId) (some attemptId) (some imageTag) job = .ok written) :
      written = imageReady (some imageTag) job ∧
        some builderId = job.imageBuilderId ∧ some attemptId = job.imageBuildAttemptId := by
    simp only [readyRow, Option.isSome_some, true_or, if_true] at computed
    split_ifs at computed
    obtain ⟨⟨⟩, passed, rfl⟩ := map_eq_ok computed
    exact ⟨rfl, requireImageBuildOwner_eq_ok passed⟩
  refine safe_callbackScript sound (fun _ job written computed => ?_)
    fun _ job written computed _ => ?_
  · rw [(owned computed).1]
    rfl
  · exact ⟨rfl, (owned computed).2⟩

theorem safe_releaseToNotRunnableScript (jobId : UUID) (builderId : String) (attemptId : UUID)
    (sound : store.Sound) :
    (releaseToNotRunnableScript jobId builderId attemptId).Safe buildContract n held store := by
  have owned {job written : Job} (computed : releasedRow builderId attemptId job = .ok written) :
      written.imageBuildAttemptId = none ∧
        some builderId = job.imageBuilderId ∧ some attemptId = job.imageBuildAttemptId := by
    unfold releasedRow at computed
    split_ifs at computed
    obtain ⟨⟨⟩, passed, rfl⟩ := map_eq_ok computed
    exact ⟨rfl, requireImageBuildOwner_eq_ok passed⟩
  exact safe_callbackScript sound (fun _ job written computed => (owned computed).1)
    fun _ job written computed _ => ⟨rfl, (owned computed).2⟩

theorem safe_markJobFailedScript (jobId : UUID) (failureType : FailureType)
    (failureReason : Option String) (builderId : Option String) (attemptId : Option UUID)
    (sound : store.Sound) :
    (markJobFailedScript jobId failureType failureReason builderId attemptId).Safe buildContract n
      held store := by
  intro seen first
  dsimp only
  split_ifs
  · trivial
  · refine safe_callbackScript (first.invariant sound) (fun now job written computed => ?_)
      fun now job written computed building => ?_
    · simp only [Callback.compute] at computed
      split_ifs at computed
      · obtain ⟨-, -, rfl⟩ := map_eq_ok computed
        rfl
      · cases computed
        rfl
    · simp only [Callback.compute, building, if_true] at computed
      split_ifs at computed
      obtain ⟨⟨⟩, passed, -⟩ := map_eq_ok computed
      exact ⟨rfl, requireImageBuildOwner_eq_ok passed⟩

theorem safe_renewKeys (now : Time) (cancelled : List (UUID × UUID)) (attempts : List UUID)
    (sound : store.Sound) :
    (renewKeys now cancelled attempts).Safe buildContract n held store := by
  induction attempts generalizing held store with
  | nil => trivial
  | cons attemptId rest induction =>
    intro current interfered
    refine ⟨by rintro ⟨⟩, ?_⟩
    rintro after - ⟨⟩
    obtain ⟨kept, effect⟩ := (interfered.invariant sound).quiet
      (Function.update current.heartbeats attemptId (some now)) current.clock
      (.renew attemptId now) held le_rfl fun other => by
        by_cases same : other = attemptId
        · subst same
          exact .inr (.inl ⟨now, rfl, Function.update_self ..⟩)
        · exact .inl (Function.update_of_ne same ..)
    exact ⟨kept, effect, induction kept⟩

theorem safe_forgetKey {next : BuildScript} (sound : store.Sound)
    (retired : ∀ attempt, attemptId = some attempt → store.Retired attempt)
    (safe : ∀ now : BuildStore, now.Sound → next.Safe buildContract n ∅ now) :
    (forgetKey attemptId next).Safe buildContract n held store := by
  intro now interfered
  have still : ∀ attempt, attemptId = some attempt → now.Retired attempt :=
    interfered.stable (fun now => ∀ attempt, attemptId = some attempt → now.Retired attempt)
      (fun _ _ _ _ _ _ _ _ effect ended attempt same => (ended attempt same).tended effect.toTended)
      retired
  refine ⟨by rintro ⟨⟩, ?_⟩
  rintro after - ⟨⟩
  obtain ⟨kept, effect⟩ := (interfered.invariant sound).quiet
    (fun other => if attemptId = some other then none else now.heartbeats other) now.clock
    (.forget attemptId) held le_rfl fun other => by
      by_cases same : attemptId = some other
      · exact .inr (.inr (still other same))
      · exact .inl (if_neg same)
  exact ⟨kept, effect, safe _ kept⟩

/-- The conditional update takes the job from the inspected attempt, whatever has happened since. -/
theorem safe_updateAttempt (now : Time) (jobId : UUID) (attemptId : Option UUID)
    (builderId : Option String) {missed updated : BuildScript} (sound : store.Sound)
    (missed_safe : ∀ now : BuildStore, now.Sound → missed.Safe buildContract n held now)
    (updated_safe : ∀ now : BuildStore, now.Sound → updated.Safe buildContract n ∅ now) :
    (updateAttempt now jobId attemptId builderId missed updated).Safe buildContract n held
      store := by
  intro locked second
  have locked_sound := second.invariant sound
  refine ⟨fun _ => missed_safe _ locked_sound, fun row listed => ?_⟩
  obtain ⟨job, matched, rfl⟩ := Option.map_eq_some_iff.mp (Option.mem_toList.mp listed)
  obtain ⟨found, inspected⟩ := Option.filter_eq_some_iff.mp matched
  have same : job.id = jobId := key_of_lookup found
  subst same
  simp only [requeueable, Bool.and_eq_true, beq_iff_eq] at inspected
  obtain ⟨-, rfl⟩ := inspected
  simp only [Option.bind_some, found]
  intro current interfered
  have current_found := (lookup_of_interfered interfered (Set.mem_insert _ _)).trans found
  have current_sound := interfered.invariant locked_sound
  have ended : (requeuedRow now builderId job).imageBuildAttemptId = none := rfl
  have kept := current_sound.write job.id ended
  have tended := current_sound.tended_requeue current_found ended
  refine ⟨by rintro ⟨⟩, ?_⟩
  rintro after - ⟨⟩
  refine ⟨⟨kept.nodup, kept.minted, kept.single⟩, ?_, ?_⟩
  · refine fenced_write tended (Set.mem_insert _ _) rfl fun builder attempt owns => ?_
    have owned := owns_of_interfered interfered (Set.mem_insert _ _) found owns
    exact ⟨rfl, owned.2.2⟩
  · refine safe_forgetKey ⟨kept.nodup, kept.minted, kept.single⟩ (fun attempt carried => ?_)
      updated_safe
    have minted := current_sound.minted job (mem_of_lookup current_found) attempt carried
    refine ⟨minted, ?_⟩
    rintro ⟨other, member, other_carried⟩
    obtain ⟨old, apart⟩ := mem_write_of_ended ended member other_carried
    exact apart (current_sound.single other old job (mem_of_lookup current_found) attempt
      other_carried carried)

theorem safe_requeueStale (now : Time) (marked : ℕ) (inspected : List (UUID × Option UUID))
    (sound : store.Sound) :
    (requeueStale now marked inspected).Safe buildContract n held store := by
  induction inspected generalizing held store marked with
  | nil => trivial
  | cons head rest induction =>
    obtain ⟨jobId, attemptId⟩ := head
    exact fun seen first => safe_updateAttempt now jobId attemptId _ (first.invariant sound)
      (fun _ => induction marked) fun _ => induction (marked + 1)

theorem safe_inspectBuilds (now : Time) (stale : List (UUID × Option UUID))
    (snapshots : List BuildSnapshot) (sound : store.Sound) :
    (inspectBuilds now stale snapshots).Safe buildContract n held store := by
  induction snapshots generalizing store stale with
  | nil => exact safe_requeueStale now 0 stale sound
  | cons snapshot _ induction => exact fun _ first => induction _ (first.invariant sound)

theorem BuildRequest.safe (n : ℕ) (request : BuildRequest) (store : BuildStore)
    (sound : store.Sound) : (request.script n).Safe buildContract n ∅ store := by
  cases request with
  | claim builderId attemptId => exact safe_claimForBuildingScript builderId attemptId sound
  | ready jobId builderId attemptId imageTag =>
    exact safe_markImageReadyScript jobId builderId attemptId imageTag sound
  | release jobId builderId attemptId =>
    exact safe_releaseToNotRunnableScript jobId builderId attemptId sound
  | fail jobId failureType failureReason builderId attemptId =>
    exact safe_markJobFailedScript jobId failureType failureReason builderId attemptId sound
  | heartbeat now builderId active =>
    exact fun _ first => safe_renewKeys _ _ _ (first.invariant sound)
  | requeue now => exact fun _ first => safe_inspectBuilds now [] _ (first.invariant sound)
  | tick clock =>
    intro now interfered
    refine ⟨fun _ => trivial, fun after _ written => ?_⟩
    dsimp only at written
    split_ifs at written with later
    cases written
    obtain ⟨kept, effect⟩ := (interfered.invariant sound).quiet now.heartbeats clock .other ∅
      later fun _ => .inl rfl
    exact ⟨kept, effect, trivial⟩

end

/-- The attempts that the jobs of a database carry; the column is unique. -/
def Db.buildAttempts (db : Db) : List UUID :=
  db.jobs.rows.filterMap fun job => job.imageBuildAttemptId

/-- Nothing has happened yet. -/
def BuildStore.initial (db : Db) (clock : Time) : BuildStore :=
  { db, clock, attempts := db.buildAttempts }

theorem BuildStore.sound_initial {db : Db} (clock : Time) (unique : db.buildAttempts.Nodup) :
    (initial db clock).Sound where
  nodup := unique
  minted job member _ minted := List.mem_filterMap.mpr ⟨job, member, minted⟩
  single job member other other_member attemptId carried other_carried := by
    let Apart (job other : Job) : Prop := ∀ attempt, job.imageBuildAttemptId = some attempt →
      other.imageBuildAttemptId ≠ some attempt
    have symmetric : Std.Symm Apart :=
      ⟨fun _ _ apart attempt carried other_carried => apart attempt other_carried carried⟩
    have apart : db.jobs.rows.Pairwise Apart := by
      refine (List.pairwise_filterMap.mp unique).imp fun differ attempt carried other_carried => ?_
      exact differ attempt carried attempt other_carried rfl
    by_contra ne
    have distinct : job ≠ other := fun same => ne (congrArg Job.id same)
    exact apart.forall member other_member distinct attemptId carried other_carried

/-- In every interleaving a job that is being built has one builder and one attempt, its row is
changed only for that attempt, no attempt is minted twice, and what is decided for an earlier
attempt leaves a job that is being built under a later one. -/
theorem image_builds_fenced (db : Db) (clock : Time) (unique : db.buildAttempts.Nodup)
    {pool after : Pool BuildStore UUID BuildLabel BuildReply}
    (run : Interleaving script (fun _ _ => True)
      { store := .initial db clock } pool)
    (choice : Choice BuildRequest) (done : pool.perform script choice = some after)
    {jobId : UUID} {builderId : Option String} {attemptId : Option UUID}
    (owns : pool.store.Owns jobId builderId attemptId) :
    (∀ otherBuilder otherAttempt, pool.store.Owns jobId otherBuilder otherAttempt →
      otherBuilder = builderId ∧ otherAttempt = attemptId) ∧
    (after.store.db.jobs.lookup jobId ≠ pool.store.db.jobs.lookup jobId →
      ∃ n label write next, choice = .step n ∧ pool.sessions n = some (.commit label write next) ∧
        label.For jobId builderId attemptId) ∧
    pool.store.attempts.Nodup ∧
    ∀ n label write next earlier later, choice = .step n →
      pool.sessions n = some (.commit label write next) → label.attempt = some earlier →
      attemptId = some later → [earlier, later].Sublist pool.store.attempts →
        after.store.db.jobs.lookup jobId = pool.store.db.jobs.lookup jobId := by
  have verified : pool.Verified buildContract :=
    run.verified (fun n request store _ => safe n request store)
      (.of_store (sound_initial clock unique))
  have nodup := verified.invariant.nodup
  have changes (changed : after.store.db.jobs.lookup jobId ≠ pool.store.db.jobs.lookup jobId) :
      ∃ n label write next, choice = .step n ∧ pool.sessions n = some (.commit label write next) ∧
        label.For jobId builderId attemptId := by
    rcases verified.change (Pool.meets_of_forall (fun _ _ => trivial) pool choice) done with
      same | ⟨n, label, stepped, -, ⟨write, next, found⟩, effect⟩
    · exact absurd (by rw [same]) changed
    · exact ⟨n, label, write, next, stepped, found, effect.fenced _ _ _ owns changed⟩
  refine ⟨?_, changes, nodup, ?_⟩
  · rintro otherBuilder otherAttempt ⟨other, other_found, -, rfl, rfl⟩
    obtain ⟨job, found, -, rfl, rfl⟩ := owns
    cases found.symm.trans other_found
    exact ⟨rfl, rfl⟩
  · rintro n label write next earlier later rfl committing acts rfl minted
    by_contra changed
    obtain ⟨m, label, _, _, same, committed, serves⟩ := changes changed
    cases same
    cases committing.symm.trans committed
    cases acts.symm.trans serves.attempt_eq
    exact absurd (nodup.sublist minted) (by simp)

/-- In every interleaving the watchdog takes an attempt back at most once, and no attempt that it
has taken back or that has ended otherwise is current again. -/
theorem requeued_attempts_ended (db : Db) (clock : Time) (unique : db.buildAttempts.Nodup)
    {pool later : Pool BuildStore UUID BuildLabel BuildReply}
    (run : Interleaving script (fun _ _ => True) { store := .initial db clock } pool)
    (onward : Interleaving script (fun _ _ => True) pool later) :
    pool.store.Recorded ∧
      ∀ attemptId, pool.store.Retired attemptId → later.store.Retired attemptId := by
  have start : Pool.Verified (α := BuildReply) buildContract { store := .initial db clock } :=
    .of_store (sound_initial clock unique)
  constructor
  · refine run.stays (fun n request store _ => safe n request store) (fun _ _ => id) start
      BuildStore.Recorded ?_ ⟨List.nodup_nil, by rintro _ ⟨⟩⟩
    exact fun sound _ effect recorded => recorded.tended sound effect.toTended
  · intro attemptId
    refine onward.stays (fun n request store _ => safe n request store) (fun _ _ => id)
      (run.verified (fun n request store _ => safe n request store) start)
      (fun store => store.Retired attemptId) ?_
    exact fun _ _ effect retired => retired.tended effect.toTended

namespace Deployment

def unclaimed : Pool BuildStore UUID BuildLabel BuildReply where
  store := .initial (db.writeJob 100 { job 100 with status := .notRunnable }) 0

/-- The first builder falls silent and is requeued, a second one claims the job, the first one is
refused, and the second one is about to report its image. -/
def takeover : List (Choice BuildRequest) :=
  [.start (.claim "first" 50), .step 0, .step 0, .step 0,
    .start (.tick 1000), .step 1, .step 1,
    .start (.requeue 1000 []), .step 2, .step 2, .step 2, .step 2, .step 2, .step 2, .step 2,
    .start (.claim "second" 51), .step 3, .step 3, .step 3,
    .start (.ready 100 "first" 50 "image:first"), .step 4, .step 4,
    .start (.ready 100 "second" 51 "image:second"), .step 5]

structure Build where
  status : JobStatus
  builderId : Option String
  attemptId : Option UUID
  deriving DecidableEq

def buildOf (pool : Pool BuildStore UUID BuildLabel BuildReply) : Option Build :=
  (pool.store.db.jobs.lookup 100).map fun job =>
    ⟨job.status, job.imageBuilderId, job.imageBuildAttemptId⟩

/-- Only the second builder moves the job on. -/
theorem image_build_taken_over :
    ∃ pool after, Interleaving script (fun _ _ => True) unclaimed pool ∧
      pool.perform script (.step 5) = some after ∧
      pool.store.attempts = [50, 51] ∧ pool.store.Owns 100 (some "second") (some 51) ∧
      after.store.db.jobs.lookup 100 ≠ pool.store.db.jobs.lookup 100 ∧
        ∃ label write next, pool.sessions 5 = some (.commit label write next) ∧
          label.For 100 (some "second") (some 51) := by
  have outcome : ((unclaimed.performAll script (fun _ _ => true) takeover).bind
      fun pool => (pool.perform script (.step 5)).map fun after =>
        (pool.store.attempts, buildOf pool, buildOf after)) =
      some ([50, 51], some ⟨.imageBuilding, some "second", some 51⟩,
        some ⟨.imageReady, none, none⟩) := by
    decide +kernel
  obtain ⟨pool, performed, rest⟩ := Option.bind_eq_some_iff.mp outcome
  obtain ⟨after, done, values⟩ := Option.map_eq_some_iff.mp rest
  simp only [Prod.mk.injEq] at values
  obtain ⟨attempts, building, ready⟩ := values
  have run : Interleaving script (fun _ _ => True) unclaimed pool :=
    (interleaving_of_performAll performed).mono fun _ _ _ => trivial
  have owns : pool.store.Owns 100 (some "second") (some 51) := by
    obtain ⟨row, found, fields⟩ := Option.map_eq_some_iff.mp building
    simp only [Build.mk.injEq] at fields
    exact ⟨row, found, fields⟩
  have changed : after.store.db.jobs.lookup 100 ≠ pool.store.db.jobs.lookup 100 := by
    intro same
    rw [buildOf, same, ← buildOf, building] at ready
    simp at ready
  obtain ⟨n, label, write, next, stepped, committing, serves⟩ :=
    (image_builds_fenced _ 0 (by decide +kernel) run (.step 5) done owns).2.1 changed
  cases stepped
  exact ⟨pool, after, run, done, attempts, owns, changed, label, write, next, committing, serves⟩

/-- The attempt of the silent builder has been taken back for good. -/
theorem first_attempt_ended :
    ∃ pool, Interleaving script (fun _ _ => True) unclaimed pool ∧
      (50, 1000) ∈ pool.store.requeued ∧ pool.store.Retired 50 := by
  have outcome : (unclaimed.performAll script (fun _ _ => true) takeover).map
      (fun pool => pool.store.requeued) = some [(50, 1000)] := by
    decide +kernel
  obtain ⟨pool, performed, requeued⟩ := Option.map_eq_some_iff.mp outcome
  have run : Interleaving script (fun _ _ => True) unclaimed pool :=
    (interleaving_of_performAll performed).mono fun _ _ _ => trivial
  have member : (50, 1000) ∈ pool.store.requeued := by simp [requeued]
  refine ⟨pool, run, member, ?_⟩
  exact ((requeued_attempts_ended _ 0 (by decide +kernel) run .start).1.ended _ member).1

end Deployment

end TrainingScheduler
