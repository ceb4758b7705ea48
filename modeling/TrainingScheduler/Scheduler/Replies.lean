import TrainingScheduler.Scheduler.Idempotency
import TrainingScheduler.Scheduler.Staleness

/-!
# Replies and rows

What the replies of the reservation layer promise about the rows they were computed from.
-/

namespace TrainingScheduler

/-- The identity of the assignment in a claim reply. -/
def Envelope.fence (envelope : Envelope) : Fence where
  instanceId := envelope.instanceId
  assignmentId := envelope.assignmentId
  attemptToken := envelope.attemptToken
  generation := envelope.generation

section

variable {row : Assignment} {settings : Settings} {now : Time}

theorem envelope_leased {shown : Envelope}
    (answered : (envelope row settings now).assignment = some shown) :
    row.fence = shown.fence ∧ now + shown.leaseSeconds ≤ row.leaseUntil := by
  unfold envelope at answered
  split_ifs at answered with released outdated
  cases answered
  have current : now < row.leaseUntil := by
    simp only [stale, Bool.or_eq_true, decide_eq_true_eq, not_or, not_le] at outdated
    exact outdated.2
  have budget : max 0 (min (settings.leaseSeconds : Time) (row.leaseUntil - now)) ≤
      row.leaseUntil - now :=
    max_le (by linarith) (min_le_right _ _)
  exact ⟨rfl, by linarith⟩

/-- A reply without an assignment hides a live one only when it says that it is stale. -/
theorem released_of_envelope (hidden : (envelope row settings now).assignment = none)
    (candid : (envelope row settings now).requestState ≠ some .stale) : ¬row.Unreleased := by
  unfold envelope at hidden candid
  split_ifs at hidden candid with released outdated
  · exact Option.isSome_iff_ne_none.mp released
  · exact absurd rfl candid

variable {fresh : Bool} {body : Heartbeat} {rows : List Assignment} {db : Db}
  {other assignment head : Assignment} {rest : List Assignment} {decision : Decision}
  {workerId : UUID} {reply : HeartbeatReply}

private theorem mem_heartbeatAssignment (member : assignment ∈ db.assignments.rows) :
    concludeHeartbeat settings now (renews now fresh body db assignment) assignment ∈
      (heartbeatAssignment settings now fresh body assignment db).assignments.rows := by
  have rewritten : concludeHeartbeat settings now (renews now fresh body db assignment) assignment ∈
      Table.rewriteAt (fun row : Assignment => row.id) assignment.id
        (concludeHeartbeat settings now (renews now fresh body db assignment))
        db.assignments.rows :=
    Table.mem_rewriteAt.mpr (.inr ⟨assignment, member, rfl, rfl⟩)
  unfold heartbeatAssignment
  dsimp only
  split <;> exact rewritten

theorem mem_heartbeatLoop_head (stored : head ∈ db.assignments.rows)
    (visited : ∀ other ∈ rest, head.id ≠ other.id) :
    concludeHeartbeat settings now (renews now fresh body db head) head ∈
      (heartbeatLoop settings now fresh body (head :: rest) db).1.assignments.rows := by
  have written : concludeHeartbeat settings now (renews now fresh body db head) head ∈
      (heartbeatAssignment settings now fresh body head db).assignments.rows :=
    mem_heartbeatAssignment stored
  have final : concludeHeartbeat settings now (renews now fresh body db head) head ∈
      (heartbeatLoop settings now fresh body rest
        (heartbeatAssignment settings now fresh body head db)).1.assignments.rows := by
    rw [heartbeatLoop_fst]
    exact foldl_frame (heartbeatAssignment_frame settings fresh body) written
      (by simpa using visited)
  exact final

theorem stored_heartbeatLoop_tail (stored : ∀ row ∈ head :: rest, row ∈ db.assignments.rows)
    (visited : ∀ other ∈ rest, head.id ≠ other.id) (member : row ∈ rest) :
    row ∈ (heartbeatAssignment settings now fresh body head db).assignments.rows :=
  heartbeatAssignment_frame settings fresh body db head row
    (stored row (List.mem_cons_of_mem _ member)) (visited row member).symm

@[simp]
theorem heartbeatDecision_assignmentId {valid : Bool} {assignmentId : UUID} :
    (heartbeatDecision settings valid assignmentId).assignmentId = assignmentId := by
  unfold heartbeatDecision
  split_ifs <;> rfl

/-- Each decision is the one under which its row was rewritten. -/
theorem decision_of_heartbeatLoop (distinct : rows.Pairwise fun left right => left.id ≠ right.id)
    (stored : ∀ row ∈ rows, row ∈ db.assignments.rows)
    (member : decision ∈ (heartbeatLoop settings now fresh body rows db).2) :
    ∃ row ∈ rows, ∃ valid, decision = heartbeatDecision settings valid row.id ∧
      concludeHeartbeat settings now valid row ∈
        (heartbeatLoop settings now fresh body rows db).1.assignments.rows := by
  induction rows generalizing db with
  | nil => cases member
  | cons head rest induction =>
    obtain ⟨visited, rest_distinct⟩ := List.pairwise_cons.mp distinct
    rcases List.mem_cons.mp member with rfl | later
    · exact ⟨head, List.mem_cons_self, _, rfl,
        mem_heartbeatLoop_head (stored head List.mem_cons_self) visited⟩
    · obtain ⟨row, row_mem, valid, decided, written⟩ :=
        induction rest_distinct (fun row => stored_heartbeatLoop_tail stored visited) later
      exact ⟨row, List.mem_cons_of_mem _ row_mem, valid, decided, written⟩

private theorem renews_heartbeatAssignment
    (apart : other.runtimeId ≠ none → other.runtimeId ≠ assignment.runtimeId) :
    renews now fresh body (heartbeatAssignment settings now fresh body assignment db) other =
      renews now fresh body db other := by
  have same : runtimeOf (heartbeatAssignment settings now fresh body assignment db) other =
      runtimeOf db other := by
    unfold runtimeOf
    cases held : other.runtimeId with
    | none => rfl
    | some runtimeId =>
      have ne : some runtimeId ≠ assignment.runtimeId := held ▸ apart (by simp [held])
      unfold heartbeatAssignment
      dsimp only [Option.bind_some]
      split
      · rfl
      · rename_i visited visited_eq
        refine Table.lookup_rewritten_ne rfl (heartbeatRuntime_id now fresh body assignment) ?_
        rintro rfl
        exact ne visited_eq.symm
  unfold renews
  dsimp only
  rw [same]

variable (settings now fresh body) in
/-- Where no two visited assignments share a runtime, each is decided by the database as it was. -/
theorem heartbeatLoop_decides (distinct : rows.Pairwise fun left right => left.id ≠ right.id)
    (stored : ∀ row ∈ rows, row ∈ db.assignments.rows)
    (apart : ∀ left ∈ rows, ∀ right ∈ rows, left.runtimeId ≠ none →
      left.runtimeId = right.runtimeId → left = right) (member : row ∈ rows) :
    (∀ decision ∈ (heartbeatLoop settings now fresh body rows db).2,
      decision.assignmentId = row.id →
        decision = heartbeatDecision settings (renews now fresh body db row) row.id) ∧
    heartbeatDecision settings (renews now fresh body db row) row.id ∈
      (heartbeatLoop settings now fresh body rows db).2 ∧
    concludeHeartbeat settings now (renews now fresh body db row) row ∈
      (heartbeatLoop settings now fresh body rows db).1.assignments.rows := by
  induction rows generalizing db with
  | nil => cases member
  | cons head rest induction =>
    obtain ⟨visited, rest_distinct⟩ := List.pairwise_cons.mp distinct
    have rest_stored (other : Assignment) (other_mem : other ∈ rest) :
        other ∈ (heartbeatAssignment settings now fresh body head db).assignments.rows :=
      stored_heartbeatLoop_tail stored visited other_mem
    rcases List.mem_cons.mp member with rfl | later
    · refine ⟨fun decision decision_mem same => ?_, List.mem_cons_self,
        mem_heartbeatLoop_head (stored row List.mem_cons_self) visited⟩
      rcases List.mem_cons.mp decision_mem with rfl | tail_mem
      · rfl
      · obtain ⟨other, other_mem, valid, rfl, -⟩ :=
          decision_of_heartbeatLoop rest_distinct rest_stored tail_mem
        rw [heartbeatDecision_assignmentId] at same
        exact absurd same.symm (visited other other_mem)
    · have decided : renews now fresh body
          (heartbeatAssignment settings now fresh body head db) row =
            renews now fresh body db row := by
        apply renews_heartbeatAssignment
        intro held same
        have equal := apart row member head List.mem_cons_self held same
        exact visited row later (congrArg (fun other : Assignment => other.id) equal.symm)
      obtain ⟨only, decision_mem, written⟩ := induction rest_distinct rest_stored
        (fun left left_mem right right_mem => apart left (List.mem_cons_of_mem _ left_mem) right
          (List.mem_cons_of_mem _ right_mem)) later
      rw [decided] at only decision_mem written
      refine ⟨fun decision all_mem same => ?_, List.mem_cons_of_mem _ decision_mem, written⟩
      rcases List.mem_cons.mp all_mem with rfl | tail_mem
      · rw [heartbeatDecision_assignmentId] at same
        exact absurd same (visited row later)
      · exact only decision tail_mem same

theorem heartbeat_eq_ok {after : Db}
    (accepted : heartbeat settings now db workerId body = .ok (reply, after)) :
    ∃ recorded : Db, recorded.assignments = db.assignments ∧ recorded.runtimes = db.runtimes ∧
      (heartbeatLoop settings now (body.fresh settings now) body (live db workerId)
        recorded).2 = reply.decisions ∧
      (heartbeatLoop settings now (body.fresh settings now) body (live db workerId)
        recorded).1.assignments = after.assignments := by
  unfold heartbeat at accepted
  split at accepted
  · cases accepted
  · split_ifs at accepted
    cases accepted
    exact ⟨db.modifyWorker workerId (heartbeatWorker now body) (heartbeatWorker_workerId now body),
      rfl, rfl, rfl, rfl⟩

theorem leased_of_renewal {after : Db}
    (accepted : heartbeat settings now db workerId body = .ok (reply, after))
    (member : decision ∈ reply.decisions) (renewal : decision.action = .renew) :
    ∃ row ∈ after.assignments.rows, row.id = decision.assignmentId ∧ row.workerId = workerId ∧
      row.leaseUntil = now + decision.leaseSeconds := by
  obtain ⟨recorded, rows, -, decisions, written⟩ := heartbeat_eq_ok accepted
  rw [← decisions] at member
  have stored (row : Assignment) (row_mem : row ∈ live db workerId) :
      row ∈ recorded.assignments.rows := rows ▸ (mem_live.mp row_mem).1
  obtain ⟨row, row_mem, valid, rfl, row_written⟩ :=
    decision_of_heartbeatLoop (live_distinct db workerId) stored member
  rw [written] at row_written
  refine ⟨_, row_written, ?_⟩
  unfold heartbeatDecision at renewal ⊢
  split_ifs at renewal ⊢ with holds
  · have worker := (mem_live.mp row_mem).2.1
    exact ⟨concludeHeartbeat_id .., by simpa [concludeHeartbeat, holds] using worker,
      by simp [concludeHeartbeat, holds]⟩

end

section

variable {now : Time} {db after : Db} {workerId : UUID} {body : Cleanup}

private theorem released_of_releaseIfClean {assignment : Assignment}
    (member : assignment ∈ db.assignments.rows)
    (released : (releaseIfClean now db assignment).1 = true) :
    ∃ row ∈ (releaseIfClean now db assignment).2.assignments.rows, row.id = assignment.id ∧
      ¬row.Unreleased := by
  unfold releaseIfClean at released ⊢
  split_ifs at released ⊢ with already
  · exact ⟨assignment, member, rfl, Option.isSome_iff_ne_none.mp already⟩
  · have rewritten : releaseRow now assignment ∈ Table.rewriteAt (fun row : Assignment => row.id)
        assignment.id (releaseRow now) db.assignments.rows :=
      Table.mem_rewriteAt.mpr (.inr ⟨assignment, member, rfl, rfl⟩)
    refine ⟨releaseRow now assignment, ?_, rfl, by simp [releaseRow, Assignment.Unreleased]⟩
    unfold settleTarget
    split <;> exact rewritten

theorem released_of_cleanup (accepted : cleanup now db workerId body = .ok (true, after)) :
    ∃ row ∈ after.assignments.rows, row.id = body.assignmentId ∧ ¬row.Unreleased := by
  obtain ⟨assignment, member, id_eq, result⟩ := cleanupResult_of_cleanup accepted
  cases result with
  | already closed same => exact ⟨assignment, same ▸ member, id_eq, closed⟩
  | acknowledged acked unreleased workers jobs writes rows confirmed final =>
    obtain ⟨row, row_mem, same, closed⟩ :=
      released_of_releaseIfClean (acknowledge_mem member rows) confirmed
    exact ⟨row, final ▸ row_mem, same.trans id_eq, closed⟩

/-- A cleanup that names a row is never a conflict. -/
theorem status_of_cleanup {exception : HTTPException} {row : Assignment}
    (member : row ∈ db.assignments.rows) (worker : row.workerId = workerId)
    (fence : row.fence = body.toFence)
    (rejected : cleanup now db workerId body = .error exception) : exception.status ≠ 409 := by
  have named : body.toFence.names workerId row = true := by
    rw [← fence]
    simp [Fence.names, Assignment.fence, worker]
  unfold cleanup TrainingScheduler.fence lockWorker at rejected
  cases registered : db.workers.lookup workerId with
  | none =>
    simp only [registered] at rejected
    cases rejected
    decide
  | some found =>
    simp only [registered] at rejected
    cases located : db.assignments.rows.find? (body.toFence.names workerId) with
    | none => exact absurd named (List.find?_eq_none.mp located row member)
    | some assignment =>
      simp only [located, Bool.not_true, Bool.false_and, Bool.false_eq_true, if_false] at rejected
      split_ifs at rejected
      cases rejected
      decide

end

end TrainingScheduler
