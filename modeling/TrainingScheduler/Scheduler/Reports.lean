import TrainingScheduler.Scheduler.Runs

/-!
# Worker rows along a run

Only a registration or a heartbeat of a Worker changes which process the Scheduler knows for it and
what that process last reported.  Worker rows are never deleted.
-/

namespace TrainingScheduler

open Table

def Db.inventory (db : Db) (workerId : UUID) : Option Inventory :=
  (db.workers.lookup workerId).bind Worker.inventory

variable {before after db : Db} {workerId : UUID} {digest : Digest} {now : Time}
  {settings : Settings}

theorem Db.inventory_of_report (same : (after.workers.lookup workerId).map Worker.report =
      (before.workers.lookup workerId).map Worker.report) :
    after.inventory workerId = before.inventory workerId := by
  unfold Db.inventory
  cases old : before.workers.lookup workerId with
  | none =>
    rw [old, Option.map_none, Option.map_eq_none_iff] at same
    rw [same]
  | some worker =>
    rw [old, Option.map_some, Option.map_eq_some_iff] at same
    obtain ⟨next, found, report⟩ := same
    rw [found]
    exact congrArg (fun report => report.2.1) report

private theorem interruptAssignment_workers (db : Db) (assignment : Assignment) :
    (interruptAssignment db assignment).workers = db.workers := by
  unfold interruptAssignment
  split <;> rfl

theorem heartbeatLoop_workers (settings : Settings) (now : Time) (fresh : Bool) (body : Heartbeat)
    (rows : List Assignment) (db : Db) :
    (heartbeatLoop settings now fresh body rows db).1.workers = db.workers := by
  rw [heartbeatLoop_fst]
  refine foldl_column Db.workers (fun db assignment => ?_) rows db
  unfold heartbeatAssignment
  dsimp only
  split <;> rfl

variable {body : Heartbeat} {reply : HeartbeatReply} {row : Assignment}

theorem heartbeat_report (accepted : heartbeat settings now db workerId body = .ok (reply, after)) :
    (∃ worker, db.workers.lookup workerId = some worker ∧
      worker.instanceId = some body.instanceId ∧ worker.heartbeatSequence < body.sequence) ∧
    (after.workers.lookup workerId).map Worker.report =
      some (some body.instanceId, some body.inventory, body.sequence) := by
  unfold heartbeat at accepted
  split at accepted
  · cases accepted
  · rename_i worker locked
    have found := lookup_of_lockWorker locked
    split_ifs at accepted with rejected
    simp only [Bool.or_eq_true, bne_iff_ne, ne_eq, decide_eq_true_eq, not_or, not_not,
      not_le] at rejected
    cases accepted
    refine ⟨⟨worker, found, rejected⟩, ?_⟩
    rw [Db.lookup_modifyWorker, heartbeatLoop_workers, Db.lookup_modifyWorker, found]
    exact congrArg some (Prod.ext rejected.1 rfl)

theorem register_report (now : Time) (db : Db) (workerId : UUID) (body : Register) :
    ∃ worker, (register now db workerId body).2.workers.lookup workerId = some worker ∧
      worker.instanceId = some body.instanceId ∧ worker.inventory = some body.inventory := by
  have stored : ((ensureWorker db workerId body).workers.lookup workerId).isSome := by
    unfold ensureWorker
    cases inserted : db.workers.insert (newWorker workerId body) with
    | none =>
      obtain ⟨worker, member, same⟩ := mem_of_insert_eq_none inserted
      exact Option.isSome_iff_exists.mpr ⟨worker, lookup_eq_some_iff.mpr ⟨member, same⟩⟩
    | some workers =>
      have self : workers.lookup workerId = some _ := lookup_insert_self inserted
      simp [self]
  obtain ⟨worker, found⟩ := Option.isSome_iff_exists.mp stored
  unfold register
  dsimp only
  generalize (((ensureWorker db workerId body).workers.lookup workerId).bind Worker.instanceId !=
    some body.instanceId) = restarted
  refine ⟨registerWorker now body restarted worker, ?_, rfl, rfl⟩
  rw [Db.lookup_modifyWorker]
  split_ifs
  · rw [foldl_column Db.workers interruptAssignment_workers, found]
    rfl
  · rw [found]
    rfl

theorem Op.tendsWorkers (digest : Digest) (now : Time) (db : Db) (op : Op) :
    TendsWorkers op.reports db (op.apply digest now db) := by
  cases Op.transition digest now db op.leases_lease with
  | effects effects => exact effects.workers
  | granted _ _ _ _ _ _ _ _ granted => exact .of_eq granted.inserted.workers

/-- A transaction of the reservation layer, or a write by the rest of the Scheduler.  The latter may
rewrite jobs, runtimes and the administrative columns of Workers. -/
inductive OpenStep (digest : Digest) (before : Db) : Db → Prop where
  | op (now : Time) (op : Op) : OpenStep digest before (op.apply digest now before)
  | outside {after : Db} (assignments : after.assignments = before.assignments)
      (workers : KeepsWorkers (fun _ => False) before after) : OpenStep digest before after

abbrev OpenRun (digest : Digest) : Db → Db → Prop := Relation.ReflTransGen (OpenStep digest)

theorem OpenStep.known (step : OpenStep digest before after) {id : UUID}
    (known : (before.workers.lookup id).isSome) : (after.workers.lookup id).isSome := by
  cases step with
  | op now op => exact (op.tendsWorkers digest now before).known id known
  | outside _ workers => exact workers.known id known

theorem OpenStep.persists (step : OpenStep digest before after)
    (member : row ∈ before.assignments.rows) :
    ∃ next ∈ after.assignments.rows, Persists row next := by
  cases step with
  | op now op => exact (Op.transition digest now before op.leases_lease).persists member
  | outside assignments _ => exact ⟨row, assignments ▸ member, .refl row⟩

theorem persists_of_openRun (run : OpenRun digest before after)
    (member : row ∈ before.assignments.rows) :
    ∃ next ∈ after.assignments.rows, Persists row next := by
  induction run with
  | refl => exact ⟨row, member, .refl row⟩
  | tail _ step induction =>
    obtain ⟨middle, middle_mem, first⟩ := induction
    obtain ⟨next, next_mem, second⟩ := step.persists middle_mem
    exact ⟨next, next_mem, first.trans second⟩

end TrainingScheduler
