import TrainingScheduler.Scheduler.Reports

/-!
# Claim requests

A claim request of one Worker instance names one assignment for good: at most one row is ever made
for it, and every repeat is answered from that row without writing anything.
-/

namespace TrainingScheduler

/-- The row was made for a claim request of a Worker. -/
def Assignment.MadeFor (assignment : Assignment) (workerId : UUID) (body : Claim) : Prop :=
  assignment.workerId = workerId ∧ assignment.instanceId = body.instanceId ∧
    assignment.requestId = body.requestId

variable {workerId : UUID} {body : Claim}

theorem Assignment.MadeFor.of_grant {left right : Assignment} (grant : left.toGrant = right.toGrant)
    (made : right.MadeFor workerId body) : left.MadeFor workerId body := by
  obtain ⟨worker, process, request⟩ := made
  exact ⟨(congrArg Grant.workerId grant).trans worker,
    (congrArg Grant.instanceId grant).trans process,
    (congrArg Grant.requestId grant).trans request⟩

theorem madeFor_of_previousClaim {db : Db} {row : Assignment}
    (found : previousClaim db workerId body = some row) :
    row ∈ db.assignments.rows ∧ row.MadeFor workerId body := by
  refine ⟨List.mem_of_find?_eq_some found, ?_⟩
  have named := List.find?_some found
  simp only [Bool.and_eq_true, beq_iff_eq] at named
  exact ⟨named.1.1, named.1.2, named.2⟩

theorem not_madeFor_of_previousClaim {db : Db} {row : Assignment}
    (absent : previousClaim db workerId body = none) (member : row ∈ db.assignments.rows) :
    ¬row.MadeFor workerId body := by
  rintro ⟨worker, process, request⟩
  have other := List.find?_eq_none.mp absent row member
  simp [worker, process, request] at other

/-- Rows are determined by their claim request, carry its hash, and belong to known Workers. -/
structure Keyed (digest : Digest) (db : Db) : Prop where
  unique : ∀ left ∈ db.assignments.rows, ∀ right ∈ db.assignments.rows,
    left.MadeFor right.workerId ⟨right.instanceId, right.requestId⟩ → left = right
  hash : ∀ row ∈ db.assignments.rows,
    row.requestHash = digest.claim ⟨row.instanceId, row.requestId⟩
  known : ∀ row ∈ db.assignments.rows, (db.workers.lookup row.workerId).isSome

theorem Keyed.of_empty {digest : Digest} {db : Db} (empty : db.assignments.rows = []) :
    Keyed digest db where
  unique left member := by simp [empty] at member
  hash row member := by simp [empty] at member
  known row member := by simp [empty] at member

theorem Keyed.eq_of_madeFor {digest : Digest} {db : Db} (keyed : Keyed digest db)
    {left right : Assignment} (left_mem : left ∈ db.assignments.rows)
    (right_mem : right ∈ db.assignments.rows) (left_made : left.MadeFor workerId body)
    (right_made : right.MadeFor workerId body) : left = right := by
  obtain ⟨worker, process, request⟩ := right_made
  apply keyed.unique left left_mem right right_mem
  rwa [worker, process, request]

section

variable {digest : Digest} {before after : Db}

theorem Keyed.of_grants (keyed : Keyed digest before)
    (grants : ∀ row ∈ after.assignments.rows, ∃ old ∈ before.assignments.rows,
      row.toGrant = old.toGrant)
    (known : ∀ id, (before.workers.lookup id).isSome → (after.workers.lookup id).isSome) :
    Keyed digest after where
  unique left left_mem right right_mem made := by
    obtain ⟨left', left_mem', left_eq⟩ := grants left left_mem
    obtain ⟨right', right_mem', right_eq⟩ := grants right right_mem
    have same : left' = right' :=
      keyed.eq_of_madeFor left_mem' right_mem' (.of_grant left_eq.symm made)
        (.of_grant right_eq.symm ⟨rfl, rfl, rfl⟩)
    apply after.assignments.eq_of_key_eq left_mem right_mem
    exact congrArg Grant.id (left_eq.trans (same ▸ right_eq.symm))
  hash row member := by
    obtain ⟨old, old_mem, same⟩ := grants row member
    rw [same]
    exact keyed.hash old old_mem
  known row member := by
    obtain ⟨old, old_mem, same⟩ := grants row member
    rw [same]
    exact known _ (keyed.known old old_mem)

theorem Keyed.of_granted {settings : Settings} {choose : Choose} {now : Time}
    {assignment : Assignment} {placement : Placement} (keyed : Keyed digest before)
    (granted : Granted settings digest choose now before workerId body after assignment placement) :
    Keyed digest after := by
  have inserted := granted.inserted
  have made : assignment.MadeFor workerId body :=
    ⟨inserted.worker, inserted.instance_eq, inserted.request⟩
  have fresh {old : Assignment} (member : old ∈ before.assignments.rows) :
      ¬old.MadeFor workerId body := not_madeFor_of_previousClaim granted.first member
  refine ⟨?_, ?_, ?_⟩
  · intro left left_mem right right_mem same
    rw [inserted.mem_iff] at left_mem right_mem
    rcases left_mem with left_old | rfl <;> rcases right_mem with right_old | rfl
    · exact keyed.unique left left_old right right_old same
    · rw [inserted.worker, inserted.instance_eq, inserted.request] at same
      exact absurd same (fresh left_old)
    · obtain ⟨worker, process, request⟩ := same
      refine absurd ⟨?_, ?_, ?_⟩ (fresh right_old)
      · exact worker.symm.trans inserted.worker
      · exact process.symm.trans inserted.instance_eq
      · exact request.symm.trans inserted.request
    · rfl
  · intro row member
    rcases inserted.mem_iff.mp member with old | rfl
    · exact keyed.hash row old
    · rw [inserted.hash, inserted.instance_eq, inserted.request]
  · intro row member
    rw [inserted.workers]
    rcases inserted.mem_iff.mp member with old | rfl
    · exact keyed.known row old
    · rw [inserted.worker, granted.found]
      rfl

theorem Keyed.of_openStep (keyed : Keyed digest before) (step : OpenStep digest before after) :
    Keyed digest after := by
  have known (id : UUID) (registered : (before.workers.lookup id).isSome) :
      (after.workers.lookup id).isSome := step.known registered
  cases step with
  | op now op =>
    cases Op.transition digest now before op.leases_lease with
    | effects effects =>
      refine keyed.of_grants (fun row member => ?_) known
      obtain ⟨old, old_mem, evolves⟩ := effects.evolves.exists_before member
      exact ⟨old, old_mem, evolves.grant⟩
    | granted _ _ _ _ _ assignment placement _ granted =>
      exact keyed.of_granted granted
  | outside assignments _ =>
    refine keyed.of_grants (fun row member => ?_) known
    exact ⟨row, assignments ▸ member, rfl⟩

theorem Keyed.of_openRun (keyed : Keyed digest before) (run : OpenRun digest before after) :
    Keyed digest after := by
  induction run with
  | refl => exact keyed
  | tail _ step induction => exact induction.of_openStep step

variable {settings : Settings} {choose : Choose} {newId : Nat → UUID × UUID} {now : Time} {db : Db}
  {workerId : UUID} {body : Claim} {row : Assignment}

theorem Keyed.previousClaim_eq {digest : Digest} (keyed : Keyed digest db)
    (member : row ∈ db.assignments.rows) (made : row.MadeFor workerId body) :
    previousClaim db workerId body = some row := by
  cases found : previousClaim db workerId body with
  | none => exact absurd made (not_madeFor_of_previousClaim found member)
  | some other =>
    obtain ⟨other_mem, other_made⟩ := madeFor_of_previousClaim found
    rw [keyed.eq_of_madeFor other_mem member other_made made]

/-- A claim whose request has a row is decided in its first iteration. -/
theorem claim_of_previous {worker : Worker} (registered : db.workers.lookup workerId = some worker)
    (found : previousClaim db workerId body = some row) :
    claim settings digest choose newId now db workerId body =
      if row.requestHash != digest.claim body then .error ⟨409, "Claim request conflict"⟩
      else .ok (envelope row settings now, db) := by
  by_cases conflict : row.requestHash = digest.claim body <;>
    simp [claim, claimLoop, claimAttempt, lockWorker, registered, found, conflict]

/-- A reply hides exactly the released and the stale assignments. -/
theorem envelope_eq_none_iff :
    (envelope row settings now).assignment = none ↔ ¬row.Unreleased ∨ stale row now = true := by
  unfold envelope
  split_ifs with released outdated
  · simpa [Assignment.Unreleased] using .inl (Option.isSome_iff_ne_none.mp released)
  · simp [outdated]
  · simpa [outdated] using released

variable {answer : Envelope}

theorem envelope_names (answered : (envelope row settings now).assignment = some answer) :
    answer.assignmentId = row.id ∧ answer.attemptToken = row.attemptToken := by
  unfold envelope at answered
  split_ifs at answered
  cases answered
  exact ⟨rfl, rfl⟩

private theorem row_of_reply {reply : ClaimReply}
    (committed : claim settings digest choose newId now db workerId body = .ok (reply, after))
    (answered : reply.assignment = some answer) :
    ∃ row ∈ after.assignments.rows, row.MadeFor workerId body ∧ row.id = answer.assignmentId ∧
      row.attemptToken = answer.attemptToken := by
  cases claimResult_of_claim committed with
  | replayed previous found _ =>
    obtain ⟨member, made⟩ := madeFor_of_previousClaim found
    obtain ⟨id_eq, token_eq⟩ := envelope_names answered
    exact ⟨previous, member, made, id_eq.symm, token_eq.symm⟩
  | refused => cases answered
  | granted after assignment placement granted =>
    have inserted := granted.inserted
    obtain ⟨id_eq, token_eq⟩ := envelope_names answered
    refine ⟨assignment, ?_, ⟨inserted.worker, inserted.instance_eq, inserted.request⟩,
      id_eq.symm, token_eq.symm⟩
    rw [inserted.rows]
    exact List.mem_append_right _ List.mem_cons_self

end

/-- Claim idempotency.  After a claim call and any later history, the Worker, the instance and the
request identifier name at most one assignment.  A repeat is answered from it, or without an
assignment exactly when it is released or stale; a repeat never writes, and one whose body hashes
differently is rejected. -/
theorem claim_idempotent {digest : Digest} {initial first middle second : Db}
    (empty : initial.assignments.rows = []) (earlier : OpenRun digest initial first)
    {settings : Settings} {choose : Choose} {newId : Nat → UUID × UUID} {now : Time}
    {workerId : UUID} {body : Claim} {reply : ClaimReply}
    (call : claim settings digest choose newId now first workerId body = .ok (reply, middle))
    (later : OpenRun digest middle second) :
    (∀ left ∈ second.assignments.rows, ∀ right ∈ second.assignments.rows,
      left.MadeFor workerId body → right.MadeFor workerId body → left = right) ∧
    (∀ answer, reply.assignment = some answer → ∃ row ∈ second.assignments.rows,
      row.MadeFor workerId body ∧ row.id = answer.assignmentId ∧
        row.attemptToken = answer.attemptToken) ∧
    ∀ row ∈ second.assignments.rows, row.MadeFor workerId body →
      ∀ (settings : Settings) (choose : Choose) (newId : Nat → UUID × UUID) (now : Time),
        ∃ repeated, claim settings digest choose newId now second workerId body =
            .ok (repeated, second) ∧
          (repeated.assignment = none ↔ ¬row.Unreleased ∨ stale row now = true) ∧
          (∀ answer, repeated.assignment = some answer →
            answer.assignmentId = row.id ∧ answer.attemptToken = row.attemptToken) ∧
          ∀ other : Digest, other.claim body ≠ row.requestHash →
            claim settings other choose newId now second workerId body =
              .error ⟨409, "Claim request conflict"⟩ := by
  have step : OpenStep digest first middle := by
    have outcome :
        (Op.claim settings choose newId workerId body).apply digest now first = middle := by
      simp only [Op.apply, call, commit]
    exact outcome ▸ .op now _
  have keyed := (((Keyed.of_empty empty).of_openRun earlier).of_openStep step).of_openRun later
  refine ⟨?_, ?_, ?_⟩
  · intro left left_mem right right_mem left_made right_made
    exact keyed.eq_of_madeFor left_mem right_mem left_made right_made
  · intro answer answered
    obtain ⟨row, member, made, id_eq, token_eq⟩ := row_of_reply call answered
    obtain ⟨next, next_mem, persists⟩ := persists_of_openRun later member
    exact ⟨next, next_mem, .of_grant persists.grant made,
      (congrArg Grant.id persists.grant).trans id_eq,
      (congrArg Grant.attemptToken persists.grant).trans token_eq⟩
  · intro row member made settings choose newId now
    obtain ⟨worker, registered⟩ := Option.isSome_iff_exists.mp (keyed.known row member)
    rw [made.1] at registered
    have found := keyed.previousClaim_eq member made
    have hash : row.requestHash = digest.claim body := by
      rw [keyed.hash row member, made.2.1, made.2.2]
    refine ⟨envelope row settings now, ?_, envelope_eq_none_iff, fun _ => envelope_names, ?_⟩
    · rw [claim_of_previous registered found, hash]
      simp
    · intro other conflict
      rw [claim_of_previous registered found, if_pos (by simpa using conflict.symm)]

namespace Deployment

def firstClaim : Except HTTPException (ClaimReply × Db) :=
  claim settings digest (batchOnly 100) (fun _ => (1001, 2001)) 1 db 1 ⟨10, 1⟩

/-- A retry of the granted claim repeats its assignment until the lease has passed. -/
theorem firstClaim_idempotent :
    ∃ reply middle, firstClaim = .ok (reply, middle) ∧ reply.assignment.isSome ∧
      ∃ row ∈ middle.assignments.rows, row.MadeFor 1 ⟨10, 1⟩ ∧
        ∃ repeated, claim settings digest (batchOnly 101) (fun _ => (1002, 2002)) 2 middle 1
          ⟨10, 1⟩ = .ok (repeated, middle) ∧
          ∀ answer, repeated.assignment = some answer → answer.assignmentId = row.id := by
  have granted : (match firstClaim with
      | .ok (reply, _) => reply.assignment.isSome
      | .error _ => false) = true := by
    decide +kernel
  cases outcome : firstClaim with
  | error exception => simp [outcome] at granted
  | ok value =>
    obtain ⟨reply, middle⟩ := value
    have answered : reply.assignment.isSome := by simpa [outcome] using granted
    obtain ⟨answer, answer_eq⟩ := Option.isSome_iff_exists.mp answered
    obtain ⟨-, stored, repeats⟩ := claim_idempotent rfl .refl outcome .refl
    obtain ⟨row, member, made, -, -⟩ := stored answer answer_eq
    obtain ⟨repeated, retried, -, same, -⟩ :=
      repeats row member made settings (batchOnly 101) (fun _ => (1002, 2002)) 2
    exact ⟨reply, middle, rfl, answered, row, member, made, repeated, retried,
      fun answer shown => (same answer shown).1⟩

end Deployment

end TrainingScheduler
