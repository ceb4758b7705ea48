import TrainingScheduler.System.Lawful

/-!
# Lease mutual exclusion

A Worker that holds execution authority has an unreleased row, and no job has two of those.
-/

namespace TrainingScheduler

theorem World.Lawful.unreleased_of_authoritative {settings : Settings} {digest : Digest}
    {world : World} (lawful : world.Lawful settings digest) {row : Assignment}
    (member : row ∈ world.db.assignments.rows) {workerId : UUID}
    (authority : world.authoritative workerId row.id = true) : row.Unreleased := by
  have host_lawful := lawful.hosts workerId
  unfold World.authoritative at authority
  split at authority
  · cases authority
  · rename_i process host
    rw [host] at host_lawful
    obtain ⟨record, deadline, found, unclean, held, early⟩ :=
      deadline_of_authoritative host_lawful.clock authority
    obtain ⟨leased, leased_mem, id_eq, worker, bound⟩ :=
      host_lawful.coordinator.leased row.id deadline held
    obtain rfl : leased = row := world.db.assignments.eq_of_key_eq leased_mem member id_eq
    by_contra released
    rcases lawful.retired leased member released with past | acknowledged
    · unfold Process.clock at early
      linarith
    · obtain ⟨call, request, body, carried, sender, message, target⟩ :=
        lawful.acknowledged leased member acknowledged
      obtain ⟨-, retires⟩ := lawful.retiring call request body carried message
      rw [sender, worker, host, target] at retires
      obtain ⟨other, other_mem, other_id, clean⟩ := retires
      have same : other = record :=
        process.journal.records.eq_of_key_eq other_mem (Table.mem_of_lookup found)
          (other_id.trans (Table.key_of_lookup found).symm)
      rw [same, unclean] at clean
      exact Bool.false_ne_true (clean (by simp [held]))

/-- Lease mutual exclusion.  In every reachable state of the joint system, two distinct assignments
of one job are never both authoritative, on whichever Workers. -/
theorem lease_mutual_exclusion {settings : Settings} {digest : Digest} {world : World}
    (reachable : world.Reachable settings digest) {left right : Assignment}
    (left_mem : left ∈ world.db.assignments.rows) (right_mem : right ∈ world.db.assignments.rows)
    (distinct : left ≠ right) {jobId : UUID} (left_job : left.jobId = some jobId)
    (right_job : right.jobId = some jobId) (leftWorker rightWorker : UUID) :
    ¬(world.authoritative leftWorker left.id = true ∧
      world.authoritative rightWorker right.id = true) := by
  rintro ⟨left_authority, right_authority⟩
  have lawful := World.Lawful.of_reachable reachable
  have held : left.jobId ≠ none := by simp [left_job]
  apply distinct
  exact lawful.jobs left left_mem right right_mem
    (lawful.unreleased_of_authoritative left_mem left_authority)
    (lawful.unreleased_of_authoritative right_mem right_authority) held
    (left_job.trans right_job.symm)

section

variable {settings : Settings} {digest : Digest} {world : World}
  (reachable : world.Reachable settings digest)

include reachable

/-- In every reachable state of the joint system, a Worker that may execute an assignment has a row
of its own for it that is neither released nor acknowledged as cleaned up, and whose lease lasts for
more than five further seconds. -/
theorem authority_within_lease {workerId assignmentId : UUID}
    (authority : world.authoritative workerId assignmentId = true) :
    ∃ row ∈ world.db.assignments.rows, row.id = assignmentId ∧ row.workerId = workerId ∧
      row.Unreleased ∧ row.cleanupAck = false ∧ world.now + 5 < row.leaseUntil := by
  have lawful := World.Lawful.of_reachable reachable
  have host_lawful := lawful.hosts workerId
  have held := authority
  unfold World.authoritative at held
  split at held
  · cases held
  · rename_i process host
    rw [host] at host_lawful
    obtain ⟨record, deadline, found, unclean, set, early⟩ :=
      deadline_of_authoritative host_lawful.clock held
    obtain ⟨row, member, rfl, rfl, bound⟩ := host_lawful.coordinator.leased _ deadline set
    refine ⟨row, member, rfl, rfl, lawful.unreleased_of_authoritative member authority, ?_, ?_⟩
    · by_contra acknowledged
      obtain ⟨call, request, body, carried, sender, message, target⟩ :=
        lawful.acknowledged row member (by simpa using acknowledged)
      obtain ⟨-, retires⟩ := lawful.retiring call request body carried message
      rw [sender, host, target] at retires
      obtain ⟨other, other_mem, other_id, clean⟩ := retires
      cases found.symm.trans (other_id ▸ Table.lookup_of_mem other_mem)
      rw [clean (by simp [set])] at unclean
      cases unclean
    · unfold Process.clock at early
      linarith

/-- In every reachable state a journalled record carries the fence of a row of its Worker, which is
released if the record is, and no two Workers have journalled one assignment. -/
theorem journals_name_grants {workerId : UUID} {record : Record}
    (member : record ∈ (world.hosts workerId).journal.records.rows) :
    (∃ row ∈ world.db.assignments.rows, row.workerId = workerId ∧ row.fence = record.fence ∧
      (record.released = true → ¬row.Unreleased)) ∧
    ∀ other, ∀ found ∈ (world.hosts other).journal.records.rows,
      found.assignmentId = record.assignmentId → other = workerId ∧ found.fence = record.fence := by
  have lawful := World.Lawful.of_reachable reachable
  have tracks := (lawful.hosts workerId).tracks member
  refine ⟨tracks, fun other found found_mem same => ?_⟩
  obtain ⟨row, row_mem, rfl, fence, -⟩ := tracks
  obtain ⟨second, second_mem, rfl, second_fence, -⟩ := (lawful.hosts other).tracks found_mem
  have ids : second.id = row.id := calc
    second.id = found.assignmentId := congrArg Fence.assignmentId second_fence
    _ = record.assignmentId := same
    _ = row.id := (congrArg Fence.assignmentId fence).symm
  obtain rfl := world.db.assignments.eq_of_key_eq second_mem row_mem ids
  exact ⟨rfl, second_fence.symm.trans fence⟩

end

namespace Deployment

def pair : World where
  now := 0
  db :=
    { workers := ⟨[worker, { worker with workerId := 2, instanceId := some 20 }], by decide⟩
      jobs := ⟨[job 100], by decide⟩
      runtimes := .empty
      assignments := .empty }
  hosts id := if id = 1 then .up (idle 10) else if id = 2 then .up (idle 20) else .down {}

theorem pair_initial : pair.Initial where
  unassigned := rfl
  silent := ⟨rfl, rfl⟩
  fresh workerId := by
    unfold pair
    dsimp only
    split_ifs
    · exact ⟨rfl, rfl, .inr rfl, rfl, fun _ => rfl, by decide +kernel⟩
    · exact ⟨rfl, rfl, .inr rfl, rfl, fun _ => rfl, by decide +kernel⟩
    · exact ⟨rfl, rfl⟩

def retryOnly (jobId : UUID) : Choose :=
  fun _ _ _ _ => some { kind := .batch, targetId := jobId, flag := "retry" }

def claimed : World := pair.act 1 (.up (begins pair 1 (idle 10))) (some (.claim ⟨10, 1⟩))

def served : World :=
  claimed.serve settings digest (batchOnly 100) (fun _ => (1001, 2001)) 0 ⟨1, 0, .claim ⟨10, 1⟩⟩

def firstReply : ClaimReply :=
  replyOf (Request.respond settings digest (batchOnly 100) (fun _ => (1001, 2001)) 0 claimed.db
    ⟨1, 0, .claim ⟨10, 1⟩⟩)

def holder : Process := accepts served firstReply (begins pair 1 (idle 10))

def held : World := served.act 1 (.up holder) none

/-- The first Worker is cut off until its lease has passed. -/
def cutOff : World := { held with now := 45 }

def expiredLease : World := { cutOff with db := expire 45 cutOff.db }

def awake : World := expiredLease.act 2 (.up (collects expiredLease (idle 20))) none

def awakeBody : Heartbeat := beatBody 45 (collects expiredLease (idle 20)) []

def reporter : Process := beats awake (collects expiredLease (idle 20))

def reporting : World := awake.act 2 (.up reporter) (some (.heartbeat awakeBody))

def refreshed : World :=
  reporting.serve settings digest (retryOnly 100) (fun _ => (1002, 2002)) 1
    ⟨2, 45, .heartbeat awakeBody⟩

def reclaimed : World :=
  refreshed.act 2 (.up (begins refreshed 2 reporter)) (some (.claim ⟨20, 2⟩))

def reserved : World :=
  reclaimed.serve settings digest (retryOnly 100) (fun _ => (1002, 2002)) 2
    ⟨2, 45, .claim ⟨20, 2⟩⟩

def secondReply : ClaimReply :=
  replyOf (Request.respond settings digest (retryOnly 100) (fun _ => (1002, 2002)) 45 reclaimed.db
    ⟨2, 45, .claim ⟨20, 2⟩⟩)

def takenOver : World :=
  reserved.act 2 (.up (accepts reserved secondReply (begins refreshed 2 reporter))) none

theorem step_claimed : World.Step settings digest pair claimed :=
  .main rfl (.beginClaim 1 _ _ (by decide) rfl rfl)

theorem step_served : World.Step settings digest claimed served := .serve 0 _ _ _ rfl

theorem step_held : World.Step settings digest served held := by
  have up : served.hosts 1 = .up (begins pair 1 (idle 10)) := rfl
  exact .main up (.accepted 0 _ firstReply rfl (by decide +kernel))

private theorem cutOff_reachable : cutOff.Reachable settings digest :=
  ⟨pair, pair_initial,
    (((Relation.ReflTransGen.single step_claimed).tail step_served).tail step_held).tail
      (.tick 45 (by decide +kernel))⟩

private theorem refreshed_reachable : refreshed.Reachable settings digest := by
  obtain ⟨initial, start, run⟩ := cutOff_reachable
  have reading : awake.hosts 2 = .up (collects expiredLease (idle 20)) := rfl
  have collect : World.Step settings digest expiredLease awake := .beat rfl (.collect rfl)
  have send : World.Step settings digest awake reporting :=
    .beat reading (.send [] _ { inventory with observedAt := 45 } true 2 (fun _ => {})
      (fun _ => {}) rfl)
  have take : World.Step settings digest reporting refreshed := .serve 1 _ _ _ rfl
  exact ⟨initial, start, (((run.tail .expire).tail collect).tail send).tail take⟩

theorem takenOver_reachable : takenOver.Reachable settings digest := by
  obtain ⟨initial, start, run⟩ := refreshed_reachable
  have resting : refreshed.hosts 2 = .up reporter := rfl
  have waiting : reserved.hosts 2 = .up (begins refreshed 2 reporter) := rfl
  have claim : World.Step settings digest refreshed reclaimed :=
    .main resting (.beginClaim 2 _ _ (by decide +kernel) rfl rfl)
  have grant : World.Step settings digest reclaimed reserved := .serve 2 _ _ _ rfl
  have accept : World.Step settings digest reserved takenOver :=
    .main waiting (.accepted 2 _ secondReply rfl (by decide +kernel))
  exact ⟨initial, start, ((run.tail claim).tail grant).tail accept⟩

/-- Once the second Worker has taken the job over, the first one has no authority left. -/
theorem takenOver_excluded :
    ∃ left ∈ takenOver.db.assignments.rows, ∃ right ∈ takenOver.db.assignments.rows,
      left ≠ right ∧ left.jobId = some 100 ∧ right.jobId = some 100 ∧
      takenOver.authoritative 2 right.id = true ∧ ¬takenOver.authoritative 1 left.id = true := by
  have rows : ∃ left ∈ takenOver.db.assignments.rows, ∃ right ∈ takenOver.db.assignments.rows,
      left ≠ right ∧ left.jobId = some 100 ∧ right.jobId = some 100 ∧
      takenOver.authoritative 2 right.id = true := by
    decide +kernel
  obtain ⟨left, left_mem, right, right_mem, distinct, left_job, right_job, authority⟩ := rows
  refine ⟨left, left_mem, right, right_mem, distinct, left_job, right_job, authority, ?_⟩
  intro stale
  exact lease_mutual_exclusion takenOver_reachable left_mem right_mem distinct left_job right_job
    1 2 ⟨stale, authority⟩

/-- The second Worker has more than five seconds left. -/
theorem takenOver_within_lease : ∃ row ∈ takenOver.db.assignments.rows, row.id = 1002 ∧
    row.workerId = 2 ∧ row.Unreleased ∧ row.cleanupAck = false ∧
      takenOver.now + 5 < row.leaseUntil :=
  authority_within_lease takenOver_reachable (by decide +kernel)

/-- The first Worker still has its record of the attempt that was taken over. -/
theorem takenOver_journalled : ∃ record ∈ (takenOver.hosts 1).journal.records.rows,
    ∃ row ∈ takenOver.db.assignments.rows, row.workerId = 1 ∧ row.fence = record.fence := by
  obtain ⟨record, member⟩ :=
    List.exists_mem_of_ne_nil (takenOver.hosts 1).journal.records.rows (by decide +kernel)
  obtain ⟨⟨row, row_mem, worker, fence, -⟩, -⟩ := journals_name_grants takenOver_reachable member
  exact ⟨record, member, row, row_mem, worker, fence⟩

end Deployment

end TrainingScheduler
