import TrainingScheduler.Programs
import TrainingScheduler.Scheduler.Jobs

/-!
# Built images and grants

A job is trainable when a tag of a built image is recorded and its source has workspace files.
Under three conditions on the public operations, every job that can be claimed is trainable; the
operations themselves check none of the three.
-/

namespace TrainingScheduler

open Table

/-- A built image is recorded for the job, and the job is not interactive-only. -/
def Trainable (job : Job) : Prop :=
  presentKey job.imageTag ≠ none ∧ job.sourceKind ≠ .packagesOnly

instance (job : Job) : Decidable (Trainable job) := by unfold Trainable; infer_instance

/-- Statuses in which a job can be claimed, or has been. -/
def launchStatuses : List JobStatus :=
  [.vramEstimationPending, .runnable, .inProgress, .retryNeeded]

/-- Some assignment was made for the job. -/
def Assigned (db : Db) (jobId : UUID) : Prop :=
  ∃ grant ∈ db.grants, grant.target.jobId = some jobId

variable {jobId : UUID} {assignment : Assignment}

private theorem assigned_of_mem {db : Db} (member : assignment ∈ db.assignments.rows)
    (job : assignment.jobId = some jobId) : Assigned db jobId :=
  ⟨assignment.toGrant, List.mem_map_of_mem member, job⟩

theorem managed_eq_true_iff {db : Db} : managed db jobId = true ↔
    Assigned db jobId := by
  simp [managed, Assigned, Db.grants, Assignment.jobId]

/-- How a transaction of the reservation layer may rewrite a job: its image stays, and its status
moves to a settled one only if an assignment was made for it. -/
structure Settles (assigned : UUID → Prop) (before after : Job) : Prop where
  id_eq : after.id = before.id
  image : after.toJobImage = before.toJobImage
  status : after.status = before.status ∨ assigned before.id ∧ after.status ∉ earlyStatuses

variable {assigned : UUID → Prop}

theorem Settles.refl (job : Job) : Settles assigned job job :=
  ⟨rfl, rfl, .inl rfl⟩

theorem Settles.trans {before middle after : Job} (first : Settles assigned before middle)
    (second : Settles assigned middle after) :
    Settles assigned before after where
  id_eq := second.id_eq.trans first.id_eq
  image := second.image.trans first.image
  status := by
    rcases second.status with kept | ⟨assigned, late⟩
    · exact kept ▸ first.status
    · exact .inr ⟨first.id_eq ▸ assigned, late⟩

/-- The grants of a database stay, and its jobs are only settled. -/
structure Keeps (before after : Db) : Prop where
  grants : after.grants = before.grants
  jobs : before.jobs.Rowwise (Settles (Assigned before)) after.jobs

namespace Keeps

theorem of_jobs {before after : Db} (grants : after.grants = before.grants)
    (jobs : after.jobs = before.jobs) : Keeps before after :=
  ⟨grants, jobs ▸ .refl Settles.refl _⟩

theorem refl (db : Db) : Keeps db db := of_jobs rfl rfl

theorem assigned_iff {before after : Db} (keeps : Keeps before after) :
    Assigned after jobId ↔ Assigned before jobId := by
  rw [Assigned, keeps.grants, Assigned]

theorem trans {before middle after : Db} (first : Keeps before middle)
    (second : Keeps middle after) : Keeps before after where
  grants := second.grants.trans first.grants
  jobs := first.jobs.trans Settles.trans (second.jobs.mono fun _ _ settles =>
    { settles with status := settles.status.imp_right fun moved =>
        ⟨first.assigned_iff.mp moved.1, moved.2⟩ })

theorem modifyAssignment (db : Db) (assignmentId : UUID) {f : Assignment → Assignment}
    (keeps : ∀ row, (f row).id = row.id) (grant : ∀ row, (f row).toGrant = row.toGrant) :
    Keeps db (db.modifyAssignment assignmentId f keeps) := by
  refine of_jobs ?_ rfl
  unfold Db.grants Db.modifyAssignment Table.modify Table.rewriteAt
  rw [List.map_map]
  refine List.map_congr_left fun row _ => ?_
  simp only [Function.comp_apply]
  split_ifs
  · exact grant row
  · rfl

theorem settleJob {db : Db} {assignmentId jobId : UUID} {status : JobStatus} {f : Job → Job}
    {keeps : ∀ job, (f job).id = job.id} (assigned : Assigned db jobId)
    (image : ∀ job, (f job).toJobImage = job.toJobImage) (late : status ∉ earlyStatuses) :
    Keeps db (db.settleJob assignmentId jobId status f keeps) where
  grants := rfl
  jobs := by
    refine rowwise_of_rewriteAt (k := jobId) rfl Settles.refl ?_
    rintro job - rfl
    exact ⟨keeps job, image job, .inr ⟨assigned, late⟩⟩

end Keeps

section

variable {now : Time} {db after : Db}

theorem Effects.keeps {lease : ℚ} {acks reports : UUID → Prop}
    (effects : Effects now lease acks reports db after) : Keeps db after := by
  induction effects with
  | refl => exact .refl db
  | tail _ effect induction =>
    refine induction.trans ?_
    have grants := Effects.grants_eq (.single effect)
    cases effect with
    | quiet jobs _ _ _ => exact .of_jobs grants jobs
    | settle assignment jobId _ _ _ member _ job _ image late =>
      exact (Keeps.settleJob (assigned_of_mem member job) image late).trans
        (.modifyAssignment _ _ _ fun _ => rfl)

theorem Op.keeps_or_granted (digest : Digest) (now : Time) (db : Db) (op : Op) :
    Keeps db (op.apply digest now db) ∨
      ∃ settings choose workerId body assignment placement,
        Granted settings digest choose now db workerId body (op.apply digest now db) assignment
          placement := by
  cases Op.transition digest now db op.leases_lease with
  | effects effects => exact .inl effects.keeps
  | granted settings choose _ workerId body assignment placement _ granted =>
    exact .inr ⟨settings, choose, workerId, body, assignment, placement, granted⟩

end

/-- Every job that can be claimed is trainable, and so is every job that has been. -/
structure Prepared (db : Db) : Prop where
  launch : ∀ job ∈ db.jobs.rows, job.status ∈ launchStatuses → Trainable job
  assigned : ∀ job ∈ db.jobs.rows, Assigned db job.id →
    Trainable job ∧ job.status ∉ earlyStatuses
  stored : ∀ jobId, Assigned db jobId → ∃ job ∈ db.jobs.rows, job.id = jobId

theorem trainable_of_image {before after : Job} (image : after.toJobImage = before.toJobImage)
    (trainable : Trainable before) : Trainable after := by
  unfold Trainable at trainable ⊢
  rwa [image]

variable {job : Job}

namespace Prepared

variable {before after db : Db}

theorem of_empty (jobs : db.jobs.rows = []) (assignments : db.assignments.rows = []) :
    Prepared db where
  launch := by simp [jobs]
  assigned := by simp [jobs]
  stored := by simp [Assigned, Db.grants, assignments]

theorem keeps (prepared : Prepared before) (kept : Keeps before after) : Prepared after where
  launch job member launch := by
    obtain ⟨old, old_mem, settles⟩ := kept.jobs.exists_before member
    refine trainable_of_image settles.image ?_
    rcases settles.status with same | ⟨assigned, -⟩
    · exact prepared.launch old old_mem (same ▸ launch)
    · exact (prepared.assigned old old_mem assigned).1
  assigned job member assigned := by
    obtain ⟨old, old_mem, settles⟩ := kept.jobs.exists_before member
    rw [kept.assigned_iff, settles.id_eq] at assigned
    obtain ⟨trainable, late⟩ := prepared.assigned old old_mem assigned
    refine ⟨trainable_of_image settles.image trainable, ?_⟩
    rcases settles.status with same | ⟨-, moved⟩
    · exact same ▸ late
    · exact moved
  stored jobId assigned := by
    obtain ⟨old, old_mem, rfl⟩ := prepared.stored jobId (kept.assigned_iff.mp assigned)
    obtain ⟨job, member, settles⟩ := kept.jobs.exists_after old_mem
    exact ⟨job, member, settles.id_eq⟩

theorem unassigned_of_early (prepared : Prepared db) (member : job ∈ db.jobs.rows)
    (early : job.status ∈ earlyStatuses) : ¬Assigned db job.id :=
  fun assigned => (prepared.assigned job member assigned).2 early

theorem rewriteJob (prepared : Prepared before) {f : Job → Job}
    (rows : after.jobs.rows = Table.rewriteAt Job.id jobId f before.jobs.rows)
    (assignments : after.assignments = before.assignments) (keeps : ∀ job, (f job).id = job.id)
    (change : ∀ job ∈ before.jobs.rows, job.id = jobId → f job = job ∨
      ¬Assigned before jobId ∧ ((f job).status ∈ launchStatuses → Trainable (f job))) :
    Prepared after := by
  have same (id : UUID) : Assigned after id ↔ Assigned before id := by
    rw [Assigned, Db.grants, assignments]
    rfl
  constructor
  · intro job member
    rw [rows] at member
    rcases mem_rewriteAt.mp member with ⟨old_mem, -⟩ | ⟨old, old_mem, selected, rfl⟩
    · exact prepared.launch job old_mem
    · rcases change old old_mem selected with unchanged | ⟨-, launch⟩
      · rw [unchanged]
        exact prepared.launch old old_mem
      · exact launch
  · intro job member assigned
    rw [same] at assigned
    rw [rows] at member
    rcases mem_rewriteAt.mp member with ⟨old_mem, -⟩ | ⟨old, old_mem, selected, rfl⟩
    · exact prepared.assigned job old_mem assigned
    · rw [keeps] at assigned
      rcases change old old_mem selected with unchanged | ⟨unassigned, -⟩
      · rw [unchanged]
        exact prepared.assigned old old_mem assigned
      · exact absurd (selected ▸ assigned) unassigned
  · intro id assigned
    rw [same] at assigned
    obtain ⟨old, old_mem, rfl⟩ := prepared.stored id assigned
    by_cases selected : old.id = jobId
    · exact ⟨f old, rows ▸ mem_rewriteAt.mpr (.inr ⟨old, old_mem, selected, rfl⟩), keeps old⟩
    · exact ⟨old, rows ▸ mem_rewriteAt.mpr (.inl ⟨old_mem, selected⟩), rfl⟩

section

variable {settings : Settings} {digest : Digest} {choose : Choose} {now : Time} {workerId : UUID}
  {body : Claim} {assignment : Assignment} {placement : Placement}
  (grant : Granted settings digest choose now before workerId body after assignment placement)

include grant

theorem trainable_of_granted (prepared : Prepared before) (target : assignment.jobId = some jobId) :
    ∃ job, before.jobs.lookup jobId = some job ∧ job.status ∈ launchStatuses ∧ Trainable job := by
  have claimable : ∃ job, before.jobs.lookup jobId = some job ∧ job.status ∈ launchStatuses := by
    rw [Assignment.jobId] at target
    cases grant.target with
    | interactive runtime _ _ _ _ _ shape =>
      rw [shape] at target
      cases target
    | estimation job _ found pending shape =>
      rw [shape] at target
      cases target
      exact ⟨job, key_of_lookup found ▸ found, by simp [pending, launchStatuses]⟩
    | batch job _ found claimable _ shape =>
      rw [shape] at target
      cases target
      refine ⟨job, key_of_lookup found ▸ found, ?_⟩
      rcases claimable with status | status <;> simp [status, launchStatuses]
  obtain ⟨job, found, launch⟩ := claimable
  exact ⟨job, found, launch, prepared.launch job (mem_of_lookup found) launch⟩

private theorem jobs_of_granted :
    before.jobs.Rowwise (Settles fun jobId => assignment.jobId = some jobId) after.jobs := by
  cases grant.target with
  | interactive _ _ _ _ _ _ _ _ _ jobs => exact jobs ▸ .refl Settles.refl _
  | estimation _ _ _ _ _ jobs => exact jobs ▸ .refl Settles.refl _
  | batch job _ _ _ _ target _ jobs =>
    refine rowwise_of_rewriteAt jobs Settles.refl ?_
    rintro row - selected
    refine ⟨rfl, rfl, .inr ⟨?_, by simp [startJob, earlyStatuses]⟩⟩
    rw [Assignment.jobId, target, selected]
    rfl

theorem granted (prepared : Prepared before) : Prepared after := by
  have moves := jobs_of_granted grant
  have assigned_iff (jobId : UUID) :
      Assigned after jobId ↔ Assigned before jobId ∨ assignment.jobId = some jobId := by
    simp [Assigned, Db.grants, grant.inserted.rows, or_and_right, exists_or, Assignment.jobId]
  -- The row of a job that the grant may have claimed was trainable and launchable before.
  have claimed {job : Job} (member : job ∈ before.jobs.rows)
      (target : assignment.jobId = some job.id) :
      Trainable job ∧ job.status ∈ launchStatuses := by
    obtain ⟨row, found, launch, trainable⟩ := prepared.trainable_of_granted grant target
    obtain rfl := eq_of_lookup found member rfl
    exact ⟨trainable, launch⟩
  constructor
  · intro job member launch
    obtain ⟨old, old_mem, settles⟩ := moves.exists_before member
    refine trainable_of_image settles.image ?_
    rcases settles.status with same | ⟨target, -⟩
    · exact prepared.launch old old_mem (same ▸ launch)
    · exact (claimed old_mem target).1
  · intro job member assigned
    obtain ⟨old, old_mem, settles⟩ := moves.exists_before member
    rw [settles.id_eq, assigned_iff] at assigned
    have earlier : Trainable old ∧ old.status ∉ earlyStatuses := by
      rcases assigned with assigned | target
      · exact prepared.assigned old old_mem assigned
      · obtain ⟨trainable, launch⟩ := claimed old_mem target
        refine ⟨trainable, ?_⟩
        revert launch
        cases old.status <;> decide
    refine ⟨trainable_of_image settles.image earlier.1, ?_⟩
    rcases settles.status with same | ⟨-, late⟩
    · exact same ▸ earlier.2
    · exact late
  · intro jobId assigned
    have stored : ∃ job ∈ before.jobs.rows, job.id = jobId := by
      rcases (assigned_iff jobId).mp assigned with assigned | target
      · exact prepared.stored jobId assigned
      · obtain ⟨job, found, -⟩ := prepared.trainable_of_granted grant target
        exact ⟨job, mem_of_lookup found, key_of_lookup found⟩
    obtain ⟨old, old_mem, rfl⟩ := stored
    obtain ⟨job, member, settles⟩ := moves.exists_after old_mem
    exact ⟨job, member, settles.id_eq⟩

end

theorem op (prepared : Prepared db) (digest : Digest) (now : Time) (op : Op) :
    Prepared (op.apply digest now db) := by
  rcases op.keeps_or_granted digest now db with kept | ⟨_, _, _, _, _, _, granted⟩
  · exact prepared.keeps kept
  · exact prepared.granted granted

end Prepared

/-- The conditions under which a job operation arms only trainable jobs. -/
def JobOp.Sound (db : Db) : JobOp → Prop
  | imageReady jobId _ _ imageTag =>
    ∀ job, db.jobs.lookup jobId = some job → armed job → presentKey imageTag ≠ none
  | callback jobId (.saveVramEstimation _ _ _) | callback jobId (.markJobFailed .system _ _ _) =>
    ∀ job, db.jobs.lookup jobId = some job → Trainable job
  | _ => True

theorem updateJob_eq_ok {db after : Db} {compute : Job → Except JobError Job}
    (done : updateJob db jobId compute = .ok after) :
    ∃ job written, db.jobs.lookup jobId = some job ∧ compute job = .ok written ∧
      after = db.writeJob jobId written := by
  unfold updateJob at done
  cases found : db.jobs.lookup jobId with
  | none => simp [found] at done
  | some job =>
    simp only [found] at done
    obtain ⟨written, computed, rfl⟩ := map_eq_ok done
    exact ⟨job, written, rfl, computed, rfl⟩

namespace Prepared

variable {db after : Db} {now : Time} {written : Job} {builderId : Option String}
  {attemptId : Option UUID}

section

variable (prepared : Prepared db)

include prepared

theorem writeJob (unassigned : ¬Assigned db jobId)
    (launch : written.status ∈ launchStatuses → Trainable written) :
    Prepared (db.writeJob jobId written) := by
  refine prepared.rewriteJob (f := fun row => { written with id := row.id }) rfl rfl
    (fun _ => rfl) ?_
  intro row _ _
  exact .inr ⟨unassigned, launch⟩

theorem createJob {data : NewJob} (created : createJob now db data = .ok after) :
    Prepared after := by
  unfold TrainingScheduler.createJob at created
  dsimp only at created
  split_ifs at created
  cases inserted : db.jobs.insert (data.row now) with
  | none => simp [inserted] at created
  | some jobs =>
    simp only [inserted, Except.ok.injEq] at created
    subst created
    obtain ⟨rows, fresh⟩ := insert_eq_some inserted
    have unassigned : ¬Assigned db (data.row now).id := by
      intro assigned
      obtain ⟨job, member, same⟩ := prepared.stored _ assigned
      exact fresh job member same
    constructor
    · intro job member launch
      rw [rows, List.mem_append, List.mem_singleton] at member
      rcases member with member | rfl
      · exact prepared.launch job member launch
      · simp [NewJob.row, launchStatuses] at launch
    · intro job member assigned
      rw [rows, List.mem_append, List.mem_singleton] at member
      rcases member with member | rfl
      · exact prepared.assigned job member assigned
      · exact absurd assigned unassigned
    · intro jobId assigned
      obtain ⟨job, member, same⟩ := prepared.stored jobId assigned
      exact ⟨job, rows ▸ List.mem_append_left _ member, same⟩

theorem unassigned_of_lookup (found : db.jobs.lookup jobId = some job)
    (early : job.status ∈ earlyStatuses) : ¬Assigned db jobId :=
  key_of_lookup found ▸ prepared.unassigned_of_early (mem_of_lookup found) early

theorem claimForBuilding {builderId : String} {attemptId : UUID} {payload : Option JobPayload}
    (claimed : claimJobForBuilding now db builderId attemptId = .ok (payload, after)) :
    Prepared after := by
  unfold claimJobForBuilding at claimed
  split at claimed
  · cases claimed
    exact prepared
  · rename_i job first
    split_ifs at claimed
    cases claimed
    obtain ⟨member, buildable⟩ := List.mem_filter.mp (firstBy_mem first)
    simp only [TrainingScheduler.buildable, Bool.and_eq_true, beq_iff_eq] at buildable
    refine prepared.rewriteJob (f := startBuild now builderId attemptId) rfl rfl (fun _ => rfl) ?_
    intro row _ _
    refine .inr ⟨prepared.unassigned_of_early member (by simp [buildable.1, earlyStatuses]), ?_⟩
    intro launch
    simp [startBuild, launchStatuses] at launch

theorem releaseBuild {builderId : String} {attemptId : UUID}
    (released : releaseJobToNotRunnable db jobId builderId attemptId = .ok after) :
    Prepared after := by
  obtain ⟨job, written, found, computed, rfl⟩ := updateJob_eq_ok released
  unfold releasedRow at computed
  split_ifs at computed with status
  have building : job.status = .imageBuilding := not_not.mp status
  obtain ⟨-, -, rfl⟩ := map_eq_ok computed
  refine prepared.writeJob (prepared.unassigned_of_lookup found (by simp [building, earlyStatuses]))
    ?_
  intro launch
  simp [clearImageBuildLease, launchStatuses] at launch

theorem requeueBuild (jobId : UUID) (attemptId : Option UUID) :
    Prepared (requeueImageBuild now db jobId attemptId) := by
  refine prepared.rewriteJob rfl rfl (fun job => by split_ifs <;> rfl) ?_
  rintro job member rfl
  split_ifs with inspected
  · refine .inr ⟨prepared.unassigned_of_early member (by simp [inspected.1, earlyStatuses]), ?_⟩
    intro launch
    simp [clearImageBuildLease, launchStatuses] at launch
  · exact .inl rfl

theorem imageReady {imageTag : Option String}
    (sound : JobOp.Sound db (.imageReady jobId builderId attemptId imageTag))
    (ready : setJobImageReady db jobId builderId attemptId imageTag = .ok after) :
    Prepared after := by
  obtain ⟨job, written, found, computed, rfl⟩ := updateJob_eq_ok ready
  have ready : job.status = .imageBuilding ∧
      written = TrainingScheduler.imageReady imageTag job := by
    unfold readyRow at computed
    split_ifs at computed with status checked
    · obtain ⟨-, -, rfl⟩ := map_eq_ok computed
      exact ⟨not_not.mp status, rfl⟩
    · exact ⟨not_not.mp status, (Except.ok.inj computed).symm⟩
  obtain ⟨building, rfl⟩ := ready
  refine prepared.writeJob (prepared.unassigned_of_lookup found (by simp [building, earlyStatuses]))
    ?_
  intro launch
  have arms : armed job = true := by
    by_contra unarmed
    simp [TrainingScheduler.imageReady, clearImageBuildLease, unarmed, launchStatuses] at launch
  have tagged := sound job found arms
  simp only [armed, Bool.and_eq_true, bne_iff_ne] at arms
  refine ⟨?_, arms.2⟩
  cases imageTag with
  | none => exact absurd rfl tagged
  | some tag => exact tagged

theorem submitTraining {userId jobId : UUID} {submission : TrainingSubmission}
    (submitted : submitTraining db userId jobId submission = .ok after) : Prepared after := by
  unfold TrainingScheduler.submitTraining at submitted
  split at submitted
  · cases submitted
  · rename_i job owned
    obtain ⟨found, -⟩ := Option.filter_eq_some_iff.mp owned
    split_ifs at submitted with packages building waiting
    cases submitted
    push Not at waiting
    exact prepared.writeJob
      (prepared.unassigned_of_lookup found (by simp [waiting.1, earlyStatuses]))
      fun _ => ⟨waiting.2, packages⟩

end

private theorem compute_markJobFailed {failureType : FailureType} {failureReason : Option String}
    (computed : (Callback.markJobFailed failureType failureReason builderId attemptId).compute now
      job = .ok written) : written = failJob now failureType failureReason job := by
  simp only [Callback.compute] at computed
  split_ifs at computed
  · obtain ⟨-, -, rfl⟩ := map_eq_ok computed
    rfl
  · exact (Except.ok.inj computed).symm

variable {legacy : Callback}

/-- The rows a callback computes, under its condition. -/
theorem trainable_of_compute (prepared : Prepared db)
    (sound : JobOp.Sound db (.callback jobId legacy)) (found : db.jobs.lookup jobId = some job)
    (computed : legacy.compute now job = .ok written) (launch : written.status ∈ launchStatuses) :
    Trainable written := by
  have earlier := prepared.launch job (mem_of_lookup found)
  cases legacy with
  | setJobRunnable =>
    simp only [Callback.compute] at computed
    split_ifs at computed with status
    cases computed
    exact earlier (by simp [not_not.mp status, launchStatuses])
  | saveVramEstimation vramRequired ramRequired stepTime =>
    cases computed
    exact sound job found
  | setToCompleted =>
    simp only [Callback.compute] at computed
    split_ifs at computed
    cases computed
    simp [chargeGpu, launchStatuses] at launch
  | markJobFailed failureType failureReason builderId attemptId =>
    obtain rfl := compute_markJobFailed computed
    cases failureType with
    | user =>
      simp only [failJob, clearImageBuildLease, chargeGpu] at launch
      split_ifs at launch <;> simp [launchStatuses] at launch
    | system =>
      unfold failJob
      dsimp only
      split_ifs <;> exact sound job found
  | markRetryNeeded =>
    simp only [Callback.compute] at computed
    split_ifs at computed with running
    · cases computed
      refine earlier ?_
      revert running
      cases job.status <;> decide
    · cases computed
      exact earlier launch

theorem callback (prepared : Prepared db) (sound : JobOp.Sound db (.callback jobId legacy))
    (done : legacy.run now db jobId = .ok after) : Prepared after := by
  unfold Callback.run at done
  split_ifs at done with skipped rejected
  · cases done
    exact prepared
  · obtain ⟨job, written, found, computed, rfl⟩ := updateJob_eq_ok done
    exact prepared.writeJob (managed_eq_true_iff.not.mp rejected)
      (prepared.trainable_of_compute sound found computed)

private theorem jobOp (prepared : Prepared db) {op : JobOp} (sound : op.Sound db)
    (done : op.apply now db = .ok after) : Prepared after := by
  cases op with
  | create data => exact prepared.createJob done
  | claimForBuilding builderId attemptId =>
    obtain ⟨⟨payload, claimed⟩, outcome, rfl⟩ := map_eq_ok done
    exact prepared.claimForBuilding outcome
  | releaseBuild jobId builderId attemptId => exact prepared.releaseBuild done
  | requeueBuild jobId attemptId =>
    cases done
    exact prepared.requeueBuild jobId attemptId
  | imageReady jobId builderId attemptId imageTag => exact prepared.imageReady sound done
  | submitTraining userId jobId submission => exact prepared.submitTraining done
  | callback jobId legacy => exact prepared.callback sound done

end Prepared

/-- One committed transaction: of the reservation layer, or of an allowed public job operation. -/
inductive PublicStep (digest : Digest) (allowed : Db → JobOp → Prop) (before : Db) : Db → Prop where
  | reservation (now : Time) (op : Op) :
      PublicStep digest allowed before (op.apply digest now before)
  | job (now : Time) (op : JobOp) {after : Db} (allows : allowed before op)
      (done : op.apply now before = .ok after) : PublicStep digest allowed before after

/-- A sequence of transactions whose job operations meet their conditions. -/
abbrev SoundRun (digest : Digest) : Db → Db → Prop :=
  Relation.ReflTransGen (PublicStep digest JobOp.Sound)

private theorem prepared_of_run {digest : Digest} {first last : Db} (prepared : Prepared first)
    (run : SoundRun digest first last) : Prepared last := by
  induction run with
  | refl => exact prepared
  | tail _ step induction =>
    cases step with
    | reservation now op => exact induction.op digest now op
    | job now op sound done => exact induction.jobOp sound done

theorem JobOp.assignments_eq {now : Time} {db after : Db} {op : JobOp}
    (done : op.apply now db = .ok after) : after.assignments = db.assignments := by
  have update {jobId : UUID} {compute : Job → Except JobError Job}
      (done : updateJob db jobId compute = .ok after) : after.assignments = db.assignments := by
    obtain ⟨_, _, -, -, rfl⟩ := updateJob_eq_ok done
    rfl
  cases op with
  | create data =>
    simp only [JobOp.apply, createJob] at done
    split_ifs at done
    split at done
    · cases done
    · cases done
      rfl
  | claimForBuilding builderId attemptId =>
    simp only [JobOp.apply, claimJobForBuilding] at done
    split at done
    · cases done
      rfl
    · split_ifs at done
      · cases done
      · cases done
        rfl
  | releaseBuild | imageReady => exact update done
  | requeueBuild jobId attemptId =>
    cases done
    rfl
  | submitTraining userId jobId submission =>
    simp only [JobOp.apply, TrainingScheduler.submitTraining] at done
    split at done
    · cases done
    · split_ifs at done
      cases done
      rfl
  | callback jobId legacy =>
    simp only [JobOp.apply, Callback.run] at done
    split_ifs at done
    · cases done
      rfl
    · exact update done

/-- A job is granted only with a built image, if all job operations meet their conditions. -/
theorem granted_jobs_trainable {digest : Digest} {first before after : Db}
    (unsubmitted : first.jobs.rows = []) (unassigned : first.assignments.rows = [])
    (run : SoundRun digest first before)
    (step : PublicStep digest (fun _ _ => True) before after) {assignment : Assignment}
    (granted : assignment ∈ after.assignments.rows)
    (new : ∀ old ∈ before.assignments.rows, old.id ≠ assignment.id) {jobId : UUID}
    (target : assignment.jobId = some jobId) :
    ∃ job, before.jobs.lookup jobId = some job ∧ Trainable job := by
  have prepared := prepared_of_run (Prepared.of_empty unsubmitted unassigned) run
  cases step with
  | job now op allows done =>
    exact absurd rfl (new assignment (op.assignments_eq done ▸ granted))
  | reservation now op =>
    rcases op.keeps_or_granted digest now before with
      kept | ⟨settings, choose, workerId, body, inserted, placement, claimed⟩
    · have same : assignment.toGrant ∈ before.grants :=
        kept.grants ▸ List.mem_map_of_mem granted
      obtain ⟨old, old_mem, grant⟩ := List.mem_map.mp same
      exact absurd (congrArg Grant.id grant) (new old old_mem)
    · rcases claimed.inserted.mem_iff.mp granted with old_mem | rfl
      · exact absurd rfl (new assignment old_mem)
      · obtain ⟨job, found, -, trainable⟩ := prepared.trainable_of_granted claimed target
        exact ⟨job, found, trainable⟩

namespace Deployment

def jobless : Db where
  workers := db.workers
  jobs := .empty
  runtimes := .empty
  assignments := .empty

def claimThreeTier (now : Time) (requestId : UUID) : Op :=
  .claim settings (threeTier now) (fun _ => (requestId + 1000, requestId + 2000)) 1 ⟨10, requestId⟩

def submitted : JobOp := .create { id := 100, userId := 7, objectKey := some "jobs/100.zip" }

def estimated : JobOp := .callback 100 (.saveVramEstimation 8 4 1)

/-- The submitted job has been given an estimation, and no image was ever built for it. -/
def unbuilt : Db :=
  { jobless with
    jobs :=
      ⟨[{ id := 100
          userId := 7
          objectKey := some "jobs/100.zip"
          status := .runnable
          vramRequired := some 8
          ramRequired := some 4
          stepTime := some 1 }], by decide⟩ }

/-- A saved estimation makes a job runnable that was never built, and the three-tier policy grants
it. -/
theorem unbuilt_job_granted :
    Relation.ReflTransGen (PublicStep digest fun _ _ => True) jobless unbuilt ∧
      ∃ assignment ∈ ((claimThreeTier 0 1).apply digest 0 unbuilt).assignments.rows,
        assignment.jobId = some 100 ∧ unbuilt.assignments.rows = [] ∧
          ∃ job, unbuilt.jobs.lookup 100 = some job ∧ ¬Trainable job := by
  constructor
  · exact .tail (.single (.job 0 submitted trivial rfl)) (.job 0 estimated trivial rfl)
  · decide +kernel

def claimedBuild : JobOp := .claimForBuilding "builder" 5

def finishedBuild : JobOp := .imageReady 100 (some "builder") (some 5) (some "images/100:5")

def training : JobOp := .submitTraining 7 100 { command := "python train.py" }

def building : Job where
  id := 100
  userId := 7
  objectKey := some "jobs/100.zip"
  status := .imageBuilding
  imageBuilderId := some "builder"
  imageBuildAttemptId := some 5
  imageBuildStartedAt := some 0

def built : Db :=
  { jobless with
    jobs :=
      ⟨[{ id := 100
          userId := 7
          objectKey := some "jobs/100.zip"
          command := some "python train.py"
          imageTag := some "images/100:5"
          status := .vramEstimationPending }], by decide⟩ }

private theorem built_run : SoundRun digest jobless built := by
  have claimed : SoundRun digest jobless { jobless with jobs := ⟨[building], by decide⟩ } :=
    .tail (.single (.job 0 submitted trivial rfl)) (.job 0 claimedBuild trivial rfl)
  have tagged : finishedBuild.Sound { jobless with jobs := ⟨[building], by decide⟩ } := by
    intro job _ _
    decide
  exact .tail (.tail claimed (.job 0 finishedBuild tagged rfl)) (.job 0 training trivial rfl)

/-- The built job is granted for its estimation. -/
theorem built_job_granted : ∃ job, built.jobs.lookup 100 = some job ∧ Trainable job := by
  obtain ⟨assignment, granted, target⟩ :
      ∃ assignment ∈ ((claimThreeTier 0 1).apply digest 0 built).assignments.rows,
        assignment.jobId = some 100 := by
    decide +kernel
  exact granted_jobs_trainable rfl rfl built_run (.reservation 0 (claimThreeTier 0 1)) granted
    (fun old member => absurd member List.not_mem_nil) target

end Deployment

end TrainingScheduler
