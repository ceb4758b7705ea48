import TrainingScheduler.Scheduler.Replies

/-!
# One attempt among others

A job attempt is followed through the transactions of a Worker that restarts: its row changes only
by its own requests and by the registration of a new instance, and its job's status only when it is
released.
-/

namespace TrainingScheduler

open Table

/-- The database stores the row, no other attempt holds its job, and the job has the status. -/
structure Tracked (row : Assignment) (jobId : UUID) (status : Option JobStatus)
    (db : Db) : Prop where
  member : row ∈ db.assignments.rows
  sole : ∀ other ∈ db.assignments.rows, other.jobId = some jobId → other.Unreleased →
    other.id = row.id
  status : db.jobStatus jobId = status

section

variable {row next : Assignment} {jobId workerId : UUID} {status : Option JobStatus} {now : Time}
  {before after : Db}

theorem Tracked.of_exclusive (exclusive : Exclusive Target.jobId before)
    (member : row ∈ before.assignments.rows) (unreleased : row.Unreleased)
    (job : row.jobId = some jobId) : Tracked row jobId (before.jobStatus jobId) before where
  member := member
  sole other other_mem other_job other_unreleased := by
    have held : other.jobId ≠ none := by simp [other_job]
    rw [exclusive other other_mem row member other_unreleased unreleased held
      (other_job.trans job.symm)]
  status := rfl

variable {acks reports : UUID → Prop}

theorem Tracked.of_effects {lease : ℚ} (tracked : Tracked row jobId status before)
    (effects : Effects now lease acks reports before after) (member : next ∈ after.assignments.rows)
    (id_eq : next.id = row.id) (released : next.releasedAt = row.releasedAt) :
    Tracked next jobId status after where
  member := member
  sole other other_mem job unreleased := by
    obtain ⟨old, old_mem, evolves⟩ := effects.evolves.exists_before other_mem
    have same := tracked.sole old old_mem (evolves.jobId_eq ▸ job)
      (evolves.unreleased_of_after unreleased)
    rw [evolves.id_eq, same, id_eq]
  status := by
    rw [← tracked.status]
    by_contra changed
    obtain ⟨old, old_mem, unreleased, job, later, later_mem, later_id, closed⟩ :=
      ReleasedBetween.of_effects effects changed
    have same := tracked.sole old old_mem job unreleased
    obtain rfl := before.assignments.eq_of_key_eq old_mem tracked.member same
    obtain rfl := after.assignments.eq_of_key_eq later_mem member (later_id.trans id_eq.symm)
    exact closed (released.trans unreleased)

theorem Tracked.of_released {lease : ℚ} (tracked : Tracked row jobId status before)
    (released : ¬row.Unreleased) (effects : Effects now lease acks reports before after) :
    Tracked row jobId status after := by
  obtain ⟨next, next_mem, evolves⟩ := effects.evolves.exists_after tracked.member
  rw [evolves.frozen released] at next_mem
  exact tracked.of_effects effects next_mem rfl rfl

variable {settings : Settings} {digest : Digest} {choose : Choose} {reply : ClaimReply}
  {newId : Nat → UUID × UUID}

theorem Tracked.of_claim {body : Claim} (tracked : Tracked row jobId status before)
    (unreleased : row.Unreleased) (job : row.jobId = some jobId)
    (accepted : claim settings digest choose newId now before workerId body = .ok (reply, after)) :
    Tracked row jobId status after := by
  cases claimResult_of_claim accepted with
  | replayed | refused => exact tracked
  | granted after assignment placement granted =>
    have inserted := granted.inserted
    have other : assignment.jobId ≠ some jobId := by
      intro same
      have held : row.jobId ≠ none := by simp [job]
      exact indexed_jobId _ _ (inserted.unconflicted row tracked.member) held
        (job.trans same.symm) unreleased
    refine ⟨?_, fun found found_mem found_job found_unreleased => ?_, ?_⟩
    · exact inserted.mem_iff.mpr (.inl tracked.member)
    · rcases inserted.mem_iff.mp found_mem with old | rfl
      · exact tracked.sole found old found_job found_unreleased
      · exact absurd found_job other
    · rw [granted.target.jobStatus, if_neg other]
      exact tracked.status

theorem stored_of_claim {body : Claim} {shown : Envelope}
    (accepted : claim settings digest choose newId now before workerId body = .ok (reply, after))
    (answered : reply.assignment = some shown) :
    ∃ stored ∈ after.assignments.rows, stored.fence = shown.fence := by
  cases claimResult_of_claim accepted with
  | replayed previous found hash =>
    exact ⟨previous, (madeFor_of_previousClaim found).1, (envelope_leased answered).1⟩
  | refused => cases answered
  | granted after assignment placement granted =>
    refine ⟨assignment, ?_, (envelope_leased answered).1⟩
    rw [granted.inserted.rows]
    exact List.mem_append_right _ List.mem_cons_self

variable {db : Db} {body : Register}

/-- The row of an attempt whose Worker restarted. -/
def Assignment.interrupted (row : Assignment) : Assignment := { row with state := .lost }

private theorem mem_interruptAssignment (member : row ∈ db.assignments.rows) :
    row.interrupted ∈ (interruptAssignment db row).assignments.rows := by
  have rewritten : row.interrupted ∈ Table.rewriteAt (fun row : Assignment => row.id) row.id
      Assignment.interrupted db.assignments.rows :=
    mem_rewriteAt.mpr (.inr ⟨row, member, rfl, rfl⟩)
  unfold interruptAssignment
  split <;> exact rewritten

private theorem mem_foldl_interruptAssignment {rows : List Assignment}
    (distinct : rows.Pairwise fun left right => left.id ≠ right.id)
    (stored : ∀ row ∈ rows, row ∈ db.assignments.rows) (visited : row ∈ rows) :
    row.interrupted ∈ (rows.foldl interruptAssignment db).assignments.rows := by
  induction rows generalizing db with
  | nil => cases visited
  | cons head rest induction =>
    obtain ⟨apart, rest_distinct⟩ := List.pairwise_cons.mp distinct
    rw [List.foldl_cons]
    rcases List.mem_cons.mp visited with rfl | later
    · exact foldl_frame interruptAssignment_frame
        (mem_interruptAssignment (stored row List.mem_cons_self)) apart
    · refine induction rest_distinct (fun other other_mem => ?_) later
      exact interruptAssignment_frame db head other
        (stored other (List.mem_cons_of_mem _ other_mem)) (apart other other_mem).symm

theorem Tracked.of_register (tracked : Tracked row jobId status db) (unreleased : row.Unreleased)
    (worker : row.workerId = workerId)
    (restarted : db.currentInstance workerId ≠ some body.instanceId) :
    Tracked row.interrupted jobId status (register now db workerId body).2 := by
  have effects : Effects now 0 (fun _ => False) (fun id => id = workerId) db
      (register now db workerId body).2 :=
    register_effects db workerId body
  refine tracked.of_effects effects ?_ rfl rfl
  have visited : row ∈ live (ensureWorker db workerId body) workerId :=
    mem_live.mpr ⟨tracked.member, worker, unreleased⟩
  have changed : ((ensureWorker db workerId body).workers.lookup workerId).bind Worker.instanceId !=
      some body.instanceId := by
    have kept : (ensureWorker db workerId body).currentInstance workerId ≠
        some body.instanceId := by
      rwa [currentInstance_ensureWorker]
    simpa [Db.currentInstance] using kept
  unfold register
  dsimp only
  rw [if_pos changed]
  exact mem_foldl_interruptAssignment (live_distinct _ workerId)
    (fun other other_mem => (mem_live.mp other_mem).1) visited

theorem result_frame {body : Result} (accepted : result digest now before workerId body = .ok after)
    (member : row ∈ before.assignments.rows) (other : row.id ≠ body.assignmentId) :
    row ∈ after.assignments.rows := by
  revert accepted
  fun_cases result digest now before workerId body <;> intro accepted <;> cases accepted
  rename_i passed _ _ _
  obtain ⟨-, named, -, -⟩ := mem_of_fence passed
  simp only [Fence.names, Bool.and_eq_true, beq_iff_eq] at named
  exact mem_rewriteAt_of_ne member (named.1.1.1.1 ▸ other)

theorem releaseIfClean_frame {assignment : Assignment} (member : row ∈ before.assignments.rows)
    (other : row.id ≠ assignment.id) :
    row ∈ (releaseIfClean now before assignment).2.assignments.rows := by
  unfold releaseIfClean
  split_ifs
  · exact member
  · exact member
  · exact member
  · refine mem_rewriteAt_of_ne ?_ other
    rw [settleTarget]
    split <;> exact member

variable {body : Cleanup} {released : Bool}

private theorem cleanup_frame (accepted : cleanup now before workerId body = .ok (released, after))
    (member : row ∈ before.assignments.rows) (other : row.id ≠ body.assignmentId) :
    row ∈ after.assignments.rows := by
  obtain ⟨assignment, -, id_eq, result⟩ := cleanupResult_of_cleanup accepted
  have ne : row.id ≠ assignment.id := id_eq ▸ other
  cases result with
  | already closed same => exact same ▸ member
  | acknowledged acked unreleased workers jobs writes rows confirmed final =>
    exact final ▸ releaseIfClean_frame (rows ▸ mem_rewriteAt_of_ne member ne) ne

theorem Tracked.of_result {body : Result} (tracked : Tracked row jobId status before)
    (other : row.id ≠ body.assignmentId)
    (accepted : result digest now before workerId body = .ok after) :
    Tracked row jobId status after := by
  have effects : Effects now 0 (fun _ => False) (fun _ => False) before after :=
    result_effects accepted
  exact tracked.of_effects effects (result_frame accepted tracked.member other) rfl rfl

theorem Tracked.of_cleanup (tracked : Tracked row jobId status before)
    (other : row.id ≠ body.assignmentId)
    (accepted : cleanup now before workerId body = .ok (released, after)) :
    Tracked row jobId status after := by
  have effects : Effects now 0 (fun id => id = body.assignmentId) (fun _ => False) before
      after :=
    cleanup_effects accepted
  exact tracked.of_effects effects (cleanup_frame accepted tracked.member other) rfl rfl

theorem Db.jobStatus_settleJob (db : Db) (assignmentId jobId : UUID) (status : JobStatus)
    (f : Job → Job) (keeps : ∀ job, (f job).id = job.id) :
    (db.settleJob assignmentId jobId status f keeps).jobStatus jobId =
      (db.jobStatus jobId).map fun _ => status := by
  have rewritten : (db.settleJob assignmentId jobId status f keeps).jobs.rows =
      Table.rewriteAt Job.id jobId (fun job => { f job with status }) db.jobs.rows := rfl
  rw [Db.jobStatus, lookup_rewritten_self rewritten keeps, Db.jobStatus, Option.map_map,
    Option.map_map]
  rfl

private theorem releaseIfClean_job {db : Db} (unreleased : row.Unreleased)
    (acknowledged : row.cleanupAck = true) (job : row.jobId = some jobId) :
    releaseIfClean now db row =
      (true, (db.settleJob row.id jobId (settledStatus row) (settledJob now row)
        (settledJob_id now row)).modifyAssignment row.id (releaseRow now) fun _ => rfl) := by
  have held : holdsRuntime db row = false ∧ settleTarget now db row =
      db.settleJob row.id jobId (settledStatus row) (settledJob now row)
        (settledJob_id now row) := by
    unfold holdsRuntime runtimeOf settleTarget
    unfold Assignment.jobId at job
    unfold Assignment.runtimeId
    cases target : row.target with
    | interactive runtimeId generation => simp [target, Target.jobId] at job
    | estimation id | batch id =>
      rw [target] at job
      cases job
      exact ⟨rfl, rfl⟩
  have open_row : row.releasedAt = none := unreleased
  simp [releaseIfClean, open_row, acknowledged, held]

theorem Tracked.settled (tracked : Tracked row jobId status before) (unreleased : row.Unreleased)
    (acknowledged : row.cleanupAck = true) (job : row.jobId = some jobId) :
    Tracked (releaseRow now row) jobId (status.map fun _ => settledStatus row)
      (releaseIfClean now before row).2 := by
  rw [releaseIfClean_job unreleased acknowledged job]
  refine ⟨?_, fun other other_mem other_job other_unreleased => ?_, ?_⟩
  · exact mem_rewriteAt.mpr (.inr ⟨row, tracked.member, rfl, rfl⟩)
  · rcases mem_rewriteAt.mp other_mem with ⟨kept, -⟩ | ⟨old, -, selected, rfl⟩
    · exact tracked.sole other kept other_job other_unreleased
    · exact selected
  · rw [← tracked.status]
    exact Db.jobStatus_settleJob before row.id jobId (settledStatus row) (settledJob now row)
      (settledJob_id now row)

/-- The row of a job attempt once its cleanup is acknowledged. -/
def Assignment.cleaned (now : Time) (row : Assignment) : Assignment :=
  releaseRow now (acknowledge row)

theorem Tracked.cleaned (tracked : Tracked row jobId status before) (unreleased : row.Unreleased)
    (job : row.jobId = some jobId) (target : body.assignmentId = row.id)
    (accepted : cleanup now before workerId body = .ok (released, after)) :
    Tracked (row.cleaned now) jobId (status.map fun _ => settledStatus row) after := by
  obtain ⟨assignment, member, id_eq, result⟩ := cleanupResult_of_cleanup accepted
  obtain rfl := before.assignments.eq_of_key_eq member tracked.member (id_eq.trans target)
  cases result with
  | already closed same => exact absurd unreleased closed
  | acknowledged acked unreleased workers jobs writes rows confirmed final =>
    have effects : Effects now 0 (fun id => id = assignment.id) (fun _ => False) before acked :=
      .single (.rewriteRow acknowledge jobs writes workers rows member
        (quiet_acknowledge unreleased rfl))
    have acked_row := tracked.of_effects effects (acknowledge_mem member rows) rfl rfl
    exact final ▸ acked_row.settled unreleased rfl job

end

end TrainingScheduler
