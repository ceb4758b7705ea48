import TrainingScheduler.Scheduler.Runs

/-!
# Jobs and their assignments

Along every run a job has at most one unreleased assignment, its status is the one that assignment
holds it in, and an assignment settles its job at most once, when it is released.
-/

namespace TrainingScheduler

open Table

def Db.jobStatus (db : Db) (jobId : UUID) : Option JobStatus :=
  (db.jobs.lookup jobId).map Job.status

section

variable {before after : Db} {digest : Digest} {now : Time}

theorem Db.jobStatus_rewritten_ne {jobId other : UUID} {f : Job → Job}
    (jobs : after.jobs.rows = Table.rewriteAt Job.id jobId f before.jobs.rows)
    (keeps : ∀ job, (f job).id = job.id) (ne : other ≠ jobId) :
    after.jobStatus other = before.jobStatus other := by
  rw [Db.jobStatus, lookup_rewritten_ne jobs keeps ne, Db.jobStatus]

/-- How often an assignment has written its job's status. -/
def Db.writesFor (db : Db) (assignmentId : UUID) : Nat :=
  db.statusWrites.countP fun write => write.assignmentId == assignmentId

/-- The status in which an unreleased assignment holds its job. -/
def Kind.heldStatus : Kind → JobStatus
  | .estimation => .vramEstimationPending
  | .batch | .interactive => .inProgress

/-- Two unreleased assignments with one key, such as their job or their runtime, are the same. -/
def Exclusive (key : Target → Option UUID) (db : Db) : Prop :=
  ∀ left ∈ db.assignments.rows, ∀ right ∈ db.assignments.rows, left.Unreleased →
    right.Unreleased → key left.target ≠ none → key left.target = key right.target → left = right

/-- A partial unique index keeps unreleased assignments with one key apart. -/
def Indexed (key : Target → Option UUID) : Prop :=
  ∀ old new, conflicts old new = false → key old.target ≠ none →
    key old.target = key new.target → ¬old.Unreleased

/-- Jobs, assignments and the history of status writes agree. -/
structure Coherent (db : Db) : Prop where
  exclusive : Exclusive Target.jobId db
  held : ∀ row ∈ db.assignments.rows, row.Unreleased → ∀ jobId, row.jobId = some jobId →
    db.jobStatus jobId = some row.kind.heldStatus
  unsettled : ∀ row ∈ db.assignments.rows, row.Unreleased → db.writesFor row.id = 0
  settled : ∀ row ∈ db.assignments.rows, db.writesFor row.id ≤ 1
  recorded : ∀ write ∈ db.statusWrites, ∃ row ∈ db.assignments.rows, row.id = write.assignmentId

theorem Coherent.of_empty {db : Db} (empty : db.assignments.rows = [])
    (unwritten : db.statusWrites = []) : Coherent db where
  exclusive left member := by simp [empty] at member
  held row member := by simp [empty] at member
  unsettled row member := by simp [empty] at member
  settled row member := by simp [empty] at member
  recorded write member := by simp [unwritten] at member

theorem indexed_jobId : Indexed Target.jobId := by
  intro old new unconflicted job same unreleased
  have equal : old.jobId = new.jobId := same
  have isSome : new.jobId.isSome = true := equal ▸ Option.isSome_iff_ne_none.mpr job
  simp [conflicts, unreleased, equal, isSome] at unconflicted

theorem indexed_runtimeId : Indexed Target.runtimeId := by
  intro old new unconflicted runtime same unreleased
  have equal : old.runtimeId = new.runtimeId := same
  have isSome : new.runtimeId.isSome = true := equal ▸ Option.isSome_iff_ne_none.mpr runtime
  simp [conflicts, unreleased, equal, isSome] at unconflicted

variable {assignment : Assignment} {settings : Settings} {lease : ℚ} {op : Op}

section

variable {key : Target → Option UUID}

theorem Exclusive.of_empty {db : Db} (empty : db.assignments.rows = []) : Exclusive key db := by
  intro left member
  simp [empty] at member

theorem Exclusive.of_evolves {acks : UUID → Prop} (exclusive : Exclusive key before)
    (rows : before.assignments.Rowwise (Evolves now lease acks) after.assignments) :
    Exclusive key after := by
  intro left left_mem right right_mem left_unreleased right_unreleased held same
  obtain ⟨left', left_mem', left_evolves⟩ := rows.exists_before left_mem
  obtain ⟨right', right_mem', right_evolves⟩ := rows.exists_before right_mem
  rw [left_evolves.target_eq] at held
  rw [left_evolves.target_eq, right_evolves.target_eq] at same
  have equal := exclusive left' left_mem' right' right_mem'
    (left_evolves.unreleased_of_after left_unreleased)
    (right_evolves.unreleased_of_after right_unreleased) held same
  apply after.assignments.eq_of_key_eq left_mem right_mem
  rw [left_evolves.id_eq, right_evolves.id_eq, equal]

theorem Exclusive.of_inserted {workerId : UUID} {body : Claim} (exclusive : Exclusive key before)
    (indexed : Indexed key)
    (inserted : Inserted settings digest now before workerId body after assignment) :
    Exclusive key after := by
  intro left left_mem right right_mem left_unreleased right_unreleased held same
  rw [inserted.mem_iff] at left_mem right_mem
  rcases left_mem with left_old | rfl <;> rcases right_mem with right_old | rfl
  · exact exclusive left left_old right right_old left_unreleased right_unreleased held same
  · exact absurd left_unreleased (indexed _ _ (inserted.unconflicted left left_old) held same)
  · exact absurd right_unreleased
      (indexed _ _ (inserted.unconflicted right right_old) (same ▸ held) same.symm)
  · rfl

theorem Exclusive.of_transition (exclusive : Exclusive key before) (indexed : Indexed key)
    (transition : Transition digest now lease op before after) : Exclusive key after := by
  cases transition with
  | effects effects => exact exclusive.of_evolves effects.evolves
  | granted _ _ _ _ _ assignment placement _ granted =>
    exact exclusive.of_inserted indexed granted.inserted

variable {now : Time} {lease : ℚ} {acks reports : UUID → Prop} {before after : Db}

theorem kind_eq_of_target_eq {left right : Assignment} (target : left.target = right.target) :
    left.kind = right.kind :=
  congrArg Target.kind target

theorem Coherent.of_effect (coherent : Coherent before)
    (effect : Effect now lease acks reports before after) : Coherent after := by
  have exclusive := coherent.exclusive.of_evolves effect.evolves
  have stored (row : Assignment) (row_mem : row ∈ before.assignments.rows) :
      ∃ next ∈ after.assignments.rows, next.id = row.id := by
    obtain ⟨next, next_mem, evolves⟩ := effect.evolves.exists_after row_mem
    exact ⟨next, next_mem, evolves.id_eq⟩
  have recorded (write : StatusWrite) (earlier : write ∈ before.statusWrites) :
      ∃ row ∈ after.assignments.rows, row.id = write.assignmentId := by
    obtain ⟨row, row_mem, same⟩ := coherent.recorded write earlier
    exact same ▸ stored row row_mem
  cases effect with
  | quiet jobs writes _ rows =>
    have count (assignmentId : UUID) :
        after.writesFor assignmentId = before.writesFor assignmentId := by
      rw [Db.writesFor, Db.writesFor, writes]
    refine ⟨exclusive, ?_, ?_, ?_, writes ▸ recorded⟩
    · intro row member unreleased jobId job
      obtain ⟨old, old_mem, quiet⟩ := rows.exists_before member
      rw [Db.jobStatus, jobs, kind_eq_of_target_eq quiet.target_eq]
      exact coherent.held old old_mem (quiet.unreleased_of_after unreleased) jobId
        (quiet.jobId_eq ▸ job)
    · intro row member unreleased
      obtain ⟨old, old_mem, quiet⟩ := rows.exists_before member
      rw [count, quiet.id_eq]
      exact coherent.unsettled old old_mem (quiet.unreleased_of_after unreleased)
    · intro row member
      obtain ⟨old, old_mem, quiet⟩ := rows.exists_before member
      rw [count, quiet.id_eq]
      exact coherent.settled old old_mem
  | settle assignment jobId status f keeps member unreleased job cause =>
    have others {row : Assignment} (row_mem : row ∈ Table.rewriteAt
        (fun row : Assignment => row.id) assignment.id (releaseRow now) before.assignments.rows) :
        row ∈ before.assignments.rows ∧ row.id ≠ assignment.id ∨
          row = releaseRow now assignment := by
      rcases mem_rewriteAt.mp row_mem with other | ⟨old, old_mem, selected, rfl⟩
      · exact .inl other
      · obtain rfl := before.assignments.eq_of_key_eq old_mem member selected
        exact .inr rfl
    have count (assignmentId : UUID) : ((before.settleJob assignment.id jobId status f
          keeps).modifyAssignment assignment.id (releaseRow now) fun _ => rfl).writesFor
          assignmentId =
        before.writesFor assignmentId + if assignment.id = assignmentId then 1 else 0 := by
      simp [Db.writesFor, Db.modifyAssignment, Db.settleJob, List.countP_append,
        List.countP_singleton]
    refine ⟨exclusive, ?_, ?_, ?_, ?_⟩
    · intro row row_mem row_unreleased other_job row_job
      rcases others row_mem with ⟨old_mem, different⟩ | rfl
      · have ne : other_job ≠ jobId := by
          rintro rfl
          apply different
          have held : row.jobId ≠ none := by simp [row_job]
          rw [coherent.exclusive row old_mem assignment member row_unreleased unreleased held
            (row_job.trans job.symm)]
        rw [← coherent.held row old_mem row_unreleased other_job row_job]
        exact Db.jobStatus_rewritten_ne (f := fun job => { f job with status }) rfl keeps ne
      · cases row_unreleased
    · intro row row_mem row_unreleased
      rcases others row_mem with ⟨old_mem, different⟩ | rfl
      · rw [count, if_neg (Ne.symm different), coherent.unsettled row old_mem row_unreleased]
      · cases row_unreleased
    · intro row row_mem
      rcases others row_mem with ⟨old_mem, different⟩ | rfl
      · rw [count, if_neg (Ne.symm different)]
        exact coherent.settled row old_mem
      · rw [count]
        simp [releaseRow, coherent.unsettled assignment member unreleased]
    · intro write write_mem
      rcases List.mem_append.mp write_mem with earlier | new
      · exact recorded write earlier
      · obtain rfl := List.mem_singleton.mp new
        exact stored assignment member

theorem Coherent.of_effects (coherent : Coherent before)
    (effects : Effects now lease acks reports before after) : Coherent after := by
  induction effects with
  | refl => exact coherent
  | tail _ effect induction => exact induction.of_effect effect

end

theorem Reserved.jobStatus {worker : Worker} {snapshot : Snapshot} {candidate : Candidate}
    (reserved : Reserved settings now before worker snapshot candidate assignment after)
    (jobId : UUID) :
    after.jobStatus jobId =
      if assignment.jobId = some jobId then some assignment.kind.heldStatus
      else before.jobStatus jobId := by
  cases reserved with
  | interactive runtime _ _ _ _ _ target _ _ jobs =>
    rw [Db.jobStatus, jobs, if_neg (by simp [Assignment.jobId, target, Target.jobId])]
    rfl
  | estimation job _ found pending target jobs =>
    have _ := key_of_lookup found
    have stored := lookup_of_mem (mem_of_lookup found)
    rw [Db.jobStatus, jobs]
    by_cases same : job.id = jobId
    · subst same
      simp [Assignment.jobId, Assignment.kind, target, Target.jobId, Target.kind,
        Kind.heldStatus, stored, pending]
    · simp [Assignment.jobId, target, Target.jobId, same, Db.jobStatus]
  | batch job _ found _ _ target _ jobs =>
    have stored := lookup_of_mem (mem_of_lookup found)
    by_cases same : job.id = jobId
    · subst same
      rw [Db.jobStatus, lookup_rewritten_self jobs fun _ => rfl, stored, Assignment.jobId,
        Assignment.kind, target]
      simp [Target.jobId, Target.kind, Kind.heldStatus, startJob]
    · rw [Db.jobStatus_rewritten_ne jobs (fun _ => rfl) (Ne.symm same)]
      simp [Assignment.jobId, target, Target.jobId, same]

theorem Coherent.of_granted {choose : Choose} {workerId : UUID} {body : Claim}
    {placement : Placement} (coherent : Coherent before)
    (granted : Granted settings digest choose now before workerId body after assignment placement) :
    Coherent after := by
  have inserted := granted.inserted
  have status := granted.target.jobStatus
  have count (assignmentId : UUID) :
      after.writesFor assignmentId = before.writesFor assignmentId := by
    rw [Db.writesFor, Db.writesFor, inserted.writes]
  have unwritten : before.writesFor assignment.id = 0 := by
    rw [Db.writesFor, List.countP_eq_zero]
    intro write member
    obtain ⟨row, row_mem, same⟩ := coherent.recorded write member
    simpa [← same] using inserted.fresh row row_mem
  refine ⟨coherent.exclusive.of_inserted indexed_jobId inserted, ?_, ?_, ?_, ?_⟩
  · intro row member unreleased jobId job
    rw [status]
    rcases inserted.mem_iff.mp member with old | rfl
    · rw [if_neg, coherent.held row old unreleased jobId job]
      intro same
      have held : row.jobId ≠ none := by simp [job]
      exact indexed_jobId _ _ (inserted.unconflicted row old) held (job.trans same.symm) unreleased
    · rw [if_pos job]
  · intro row member unreleased
    rw [count]
    rcases inserted.mem_iff.mp member with old | rfl
    · exact coherent.unsettled row old unreleased
    · exact unwritten
  · intro row member
    rw [count]
    rcases inserted.mem_iff.mp member with old | rfl
    · exact coherent.settled row old
    · omega
  · intro write member
    rw [inserted.writes] at member
    obtain ⟨row, row_mem, same⟩ := coherent.recorded write member
    refine ⟨row, ?_, same⟩
    exact inserted.mem_iff.mpr (.inl row_mem)

theorem Coherent.of_transition (coherent : Coherent before)
    (transition : Transition digest now lease op before after) : Coherent after := by
  cases transition with
  | effects effects => exact coherent.of_effects effects
  | granted _ _ _ _ _ assignment placement _ granted =>
    exact coherent.of_granted granted

/-- An assignment of the job is granted between the two states. -/
def GrantedBetween (before after : Db) (jobId : UUID) : Prop :=
  ∃ assignment ∈ after.assignments.rows, assignment.jobId = some jobId ∧
    ∀ old ∈ before.assignments.rows, old.id ≠ assignment.id

/-- An unreleased assignment of the job is released between the two states. -/
def ReleasedBetween (before after : Db) (jobId : UUID) : Prop :=
  ∃ assignment ∈ before.assignments.rows, assignment.Unreleased ∧ assignment.jobId = some jobId ∧
    ∃ next ∈ after.assignments.rows, next.id = assignment.id ∧ ¬next.Unreleased

section

variable {now : Time} {lease : ℚ} {acks reports : UUID → Prop} {before after : Db} {jobId : UUID}

theorem ReleasedBetween.of_effect (effect : Effect now lease acks reports before after)
    (changed : after.jobStatus jobId ≠ before.jobStatus jobId) :
    ReleasedBetween before after jobId := by
  cases effect with
  | quiet jobs _ _ _ => exact absurd (by rw [Db.jobStatus, jobs]; rfl) changed
  | settle assignment settledId status f keeps member unreleased job cause =>
    have same : jobId = settledId := by
      by_contra ne
      exact changed (Db.jobStatus_rewritten_ne (f := fun job => { f job with status }) rfl keeps ne)
    subst same
    refine ⟨assignment, member, unreleased, job, releaseRow now assignment, ?_, rfl, by
      simp [releaseRow, Assignment.Unreleased]⟩
    exact mem_rewriteAt.mpr (.inr ⟨assignment, member, rfl, rfl⟩)

theorem ReleasedBetween.of_effects (effects : Effects now lease acks reports before after)
    (changed : after.jobStatus jobId ≠ before.jobStatus jobId) :
    ReleasedBetween before after jobId := by
  induction effects with
  | refl => exact absurd rfl changed
  | @tail middle after effects effect induction =>
    by_cases earlier : middle.jobStatus jobId = before.jobStatus jobId
    · obtain ⟨row, row_mem, unreleased, job, next, next_mem, next_id, released⟩ :=
        ReleasedBetween.of_effect effect (earlier ▸ changed)
      obtain ⟨old, old_mem, evolves⟩ := (Effects.evolves effects).exists_before row_mem
      exact ⟨old, old_mem, evolves.unreleased_of_after unreleased, evolves.jobId_eq ▸ job, next,
        next_mem, next_id.trans evolves.id_eq, released⟩
    · obtain ⟨row, row_mem, unreleased, job, next, next_mem, next_id, released⟩ := induction earlier
      obtain ⟨last, last_mem, evolves⟩ := effect.evolves.exists_after next_mem
      refine ⟨row, row_mem, unreleased, job, last, last_mem, evolves.id_eq.trans next_id, ?_⟩
      rwa [evolves.frozen released]

theorem changed_of_transition (transition : Transition digest now lease op before after)
    (changed : after.jobStatus jobId ≠ before.jobStatus jobId) :
    GrantedBetween before after jobId ∨ ReleasedBetween before after jobId := by
  cases transition with
  | effects effects => exact .inr (.of_effects effects changed)
  | granted _ _ _ _ _ assignment placement _ granted =>
    refine .inl ⟨assignment, ?_, ?_, granted.inserted.fresh⟩
    · rw [granted.inserted.rows]
      exact List.mem_append_right _ List.mem_cons_self
    · by_contra other
      rw [granted.target.jobStatus, if_neg other] at changed
      exact changed rfl

end

theorem Coherent.of_run (coherent : Coherent before) (run : Run digest before after) :
    Coherent after := by
  induction run with
  | refl => exact coherent
  | tail _ step induction =>
    obtain ⟨now, op, rfl⟩ := step
    exact induction.of_transition (Op.transition digest now _ op.leases_lease)

private theorem mem_of_run_of_released (run : Run digest before after) {row : Assignment}
    (member : row ∈ before.assignments.rows) (released : ¬row.Unreleased) :
    row ∈ after.assignments.rows := by
  induction run with
  | refl => exact member
  | tail _ step induction =>
    obtain ⟨now, op, rfl⟩ := step
    obtain ⟨next, next_mem, persists⟩ :=
      (Op.transition digest now _ op.leases_lease).persists induction
    rwa [persists.frozen released] at next_mem

/-- From a database without assignments, every run keeps jobs and assignments coherent, and an
assignment writes its job's status at most once after its grant.  Nothing else in the reservation
layer changes a job's status. -/
theorem run_coherent {digest : Digest} {initial db : Db} (empty : initial.assignments.rows = [])
    (unwritten : initial.statusWrites = []) (run : Run digest initial db) :
    (∀ left ∈ db.assignments.rows, ∀ right ∈ db.assignments.rows, left.Unreleased →
      right.Unreleased → left.jobId ≠ none → left.jobId = right.jobId → left = right) ∧
    (∀ row ∈ db.assignments.rows, row.Unreleased → ∀ jobId, row.target = .batch jobId →
      db.jobStatus jobId = some .inProgress) ∧
    (∀ row ∈ db.assignments.rows, row.Unreleased → ∀ jobId, row.target = .estimation jobId →
      db.jobStatus jobId = some .vramEstimationPending) ∧
    (∀ later, Run digest db later → ∀ row ∈ db.assignments.rows, ¬row.Unreleased →
      row ∈ later.assignments.rows) ∧
    (∀ row ∈ db.assignments.rows, db.writesFor row.id ≤ 1) ∧
    (∀ after, Step digest db after → ∀ jobId, after.jobStatus jobId ≠ db.jobStatus jobId →
      GrantedBetween db after jobId ∨ ReleasedBetween db after jobId) := by
  have coherent := (Coherent.of_empty empty unwritten).of_run run
  refine ⟨coherent.exclusive, ?_, ?_, ?_, coherent.settled, ?_⟩
  · intro row member unreleased jobId target
    rw [coherent.held row member unreleased jobId (by rw [Assignment.jobId, target]; rfl),
      Assignment.kind, target]
    rfl
  · intro row member unreleased jobId target
    rw [coherent.held row member unreleased jobId (by rw [Assignment.jobId, target]; rfl),
      Assignment.kind, target]
    rfl
  · intro later continuation row member released
    exact mem_of_run_of_released continuation member released
  · rintro after ⟨now, op, rfl⟩ jobId changed
    exact changed_of_transition (Op.transition digest now db op.leases_lease) changed

end

namespace Deployment

def expired : Db :=
  Op.expire.apply digest 100 ((claimBatch 1 100).apply digest 1 db)

private theorem run_expired : Run digest db expired :=
  .tail (.single ⟨1, claimBatch 1 100, rfl⟩) ⟨100, .expire, rfl⟩

/-- The expired attempt is released, has settled its job once, and keeps its row. -/
theorem expired_coherent :
    expired.jobStatus 100 = some .retryNeeded ∧
      ∃ row ∈ expired.assignments.rows, ¬row.Unreleased ∧ expired.writesFor row.id ≤ 1 ∧
        ∀ later, Run digest expired later → row ∈ later.assignments.rows := by
  obtain ⟨-, -, -, frozen, once, -⟩ := run_coherent rfl rfl run_expired
  obtain ⟨row, member, released⟩ : ∃ row ∈ expired.assignments.rows, ¬row.Unreleased := by
    decide +kernel
  exact ⟨by decide +kernel, row, member, released, once row member, fun later run =>
    frozen later run row member released⟩

end Deployment

end TrainingScheduler
