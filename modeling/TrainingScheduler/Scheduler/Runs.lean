import TrainingScheduler.Scheduler.Controller
import TrainingScheduler.Scheduler.Grants

/-!
# Runs of the Scheduler

A run is a finite sequence of committed transactions at arbitrary instants.  A rejected request
commits nothing.  In an open run the rest of the Scheduler may also rewrite jobs and runtimes
between two transactions of the reservation layer.
-/

namespace TrainingScheduler

/-- One transaction offered to the reservation layer. -/
inductive Op where
  | claim (settings : Settings) (choose : Choose) (newId : Nat → UUID × UUID) (workerId : UUID)
      (body : Claim)
  | heartbeat (settings : Settings) (workerId : UUID) (body : Heartbeat)
  | event (workerId : UUID) (body : Event)
  | result (workerId : UUID) (body : Result)
  | cleanup (workerId : UUID) (body : Cleanup)
  | register (workerId : UUID) (body : Register)
  | expire
  | concludeStop (token assignmentId : UUID) (enrollment : Option UUID) (revoked : Bool)

/-- The database a fallible transaction leaves behind. -/
def commit {α : Type} (db : Db) : Except HTTPException (α × Db) → Db
  | .error _ => db
  | .ok (_, after) => after

theorem commit_cases {α : Type} {db : Db} {outcome : Except HTTPException (α × Db)}
    (motive : Db → Prop) (failed : motive db)
    (done : ∀ {reply after}, outcome = .ok (reply, after) → motive after) :
    motive (commit db outcome) := by
  cases returned : outcome with
  | error exception => exact failed
  | ok value => exact done returned

theorem commit_map_cases {db : Db} {outcome : Except HTTPException Db} (motive : Db → Prop)
    (failed : motive db) (done : ∀ {after}, outcome = .ok after → motive after) :
    motive (commit db (outcome.map fun after => ((), after))) := by
  cases returned : outcome with
  | error exception => exact failed
  | ok after => exact done returned

namespace Op

def apply (digest : Digest) (now : Time) (db : Db) : Op → Db
  | claim settings choose newId workerId body =>
    commit db (TrainingScheduler.claim settings digest choose newId now db workerId body)
  | heartbeat settings workerId body =>
    commit db (TrainingScheduler.heartbeat settings now db workerId body)
  | event workerId body => commit db (TrainingScheduler.event digest now db workerId body)
  | result workerId body =>
    commit db
      ((TrainingScheduler.result digest now db workerId body).map fun after => ((), after))
  | cleanup workerId body => commit db (TrainingScheduler.cleanup now db workerId body)
  | register workerId body => (TrainingScheduler.register now db workerId body).2
  | expire => TrainingScheduler.expire now db
  | concludeStop token assignmentId enrollment revoked =>
    TrainingScheduler.concludeStop token now db assignmentId enrollment revoked

/-- The transaction grants and renews no leases but those of `lease` seconds. -/
def Leases (lease : ℚ) : Op → Prop
  | claim settings _ _ _ _ | heartbeat settings _ _ => (settings.leaseSeconds : ℚ) = lease
  | _ => True

/-- The length of the leases that the transaction grants or renews. -/
def lease : Op → ℚ
  | claim settings _ _ _ _ | heartbeat settings _ _ => settings.leaseSeconds
  | _ => 0

theorem leases_lease (op : Op) : op.Leases op.lease := by
  cases op with
  | claim | heartbeat => rfl
  | _ => exact trivial

/-- The assignments whose cleanup the transaction acknowledges. -/
def acks : Op → UUID → Prop
  | cleanup _ body, id => id = body.assignmentId
  | _, _ => False

/-- The Worker whose process and inventory the transaction records. -/
def reports : Op → UUID → Prop
  | heartbeat _ workerId _, id | register workerId _, id => id = workerId
  | _, _ => False

end Op

def Step (digest : Digest) (before after : Db) : Prop :=
  ∃ now op, after = Op.apply digest now before op

abbrev Run (digest : Digest) : Db → Db → Prop := Relation.ReflTransGen (Step digest)

/-- What a transaction amounts to: a grant by a claim, or effects on the rows already there. -/
inductive Transition (digest : Digest) (now : Time) (lease : ℚ) (op : Op) (before : Db) :
    Db → Prop where
  | effects {after : Db} (effects : Effects now lease op.acks op.reports before after) :
      Transition digest now lease op before after
  | granted {after : Db} (settings : Settings) (choose : Choose) (newId : Nat → UUID × UUID)
      (workerId : UUID) (body : Claim) (assignment : Assignment) (placement : Placement)
      (claimed : op = .claim settings choose newId workerId body)
      (granted : Granted settings digest choose now before workerId body after assignment
        placement) : Transition digest now lease op before after

variable {now : Time} {lease : ℚ} {op : Op} {acks reports : UUID → Prop}

theorem Transition.unchanged {digest : Digest} {db : Db} : Transition digest now lease op db db :=
  .effects .refl

theorem concludeStop_effects (token : UUID) (db : Db) (assignmentId : UUID)
    (enrollment : Option UUID) (revoked : Bool) :
    Effects now lease acks reports db
      (concludeStop token now db assignmentId enrollment revoked) := by
  unfold concludeStop
  split
  · exact .refl
  · rename_i assignment found
    split
    · exact .refl
    · split_ifs
      · refine .head ?recorded (releaseIfClean_effects (Table.mem_of_lookup found))
        exact .quiet rfl rfl (.of_eq rfl) (.refl QuietRow.refl _)
      · exact .refl

theorem Op.transition (digest : Digest) (now : Time) (db : Db) (leases : op.Leases lease) :
    Transition digest now lease op db (op.apply digest now db) := by
  cases op with
  | claim settings choose newId workerId body =>
    refine commit_cases (Transition digest now lease _ db) .unchanged fun outcome => ?_
    cases claimResult_of_claim outcome with
    | replayed | refused => exact .unchanged
    | granted after assignment placement granted => exact .granted _ _ _ _ _ _ _ rfl granted
  | heartbeat settings workerId body =>
    exact commit_cases (Transition digest now lease _ db) .unchanged fun outcome =>
      .effects (leases ▸ heartbeat_effects outcome)
  | event workerId body =>
    exact commit_cases (Transition digest now lease _ db) .unchanged fun outcome =>
      .effects (event_effects outcome)
  | result workerId body =>
    exact commit_map_cases (Transition digest now lease _ db) .unchanged fun outcome =>
      .effects (result_effects outcome)
  | cleanup workerId body =>
    exact commit_cases (Transition digest now lease _ db) .unchanged fun outcome =>
      .effects (cleanup_effects outcome)
  | register workerId body => exact .effects (register_effects db workerId body)
  | expire => exact .effects (expire_effects db)
  | concludeStop token assignmentId enrollment revoked =>
    exact .effects (concludeStop_effects token db assignmentId enrollment revoked)

/-- The immutable parts of the assignments, in the order of their grants. -/
def Db.grants (db : Db) : List Grant := db.assignments.rows.map Assignment.toGrant

theorem Effects.grants_eq {before after : Db}
    (effects : Effects now lease acks reports before after) : after.grants = before.grants := by
  have rows := effects.evolves
  unfold Table.Rowwise at rows
  unfold Db.grants
  generalize before.assignments.rows = left at rows
  generalize after.assignments.rows = right at rows
  induction rows with
  | nil => rfl
  | cons evolves _ induction => rw [List.map_cons, List.map_cons, evolves.grant, induction]

/-- How one row may differ between two states of a run. -/
structure Persists (before after : Assignment) : Prop where
  grant : after.toGrant = before.toGrant
  frozen : before.releasedAt ≠ none → after = before

theorem Persists.refl (row : Assignment) : Persists row row := ⟨rfl, fun _ => rfl⟩

theorem Persists.trans {before middle after : Assignment} (first : Persists before middle)
    (second : Persists middle after) : Persists before after where
  grant := second.grant.trans first.grant
  frozen released := by
    have same := first.frozen released
    subst same
    exact second.frozen released

theorem Transition.persists {digest : Digest} {before after : Db}
    (transition : Transition digest now lease op before after) {row : Assignment}
    (member : row ∈ before.assignments.rows) :
    ∃ next ∈ after.assignments.rows, Persists row next := by
  cases transition with
  | effects effects =>
    obtain ⟨next, next_mem, evolves⟩ := effects.evolves.exists_after member
    exact ⟨next, next_mem, evolves.grant, evolves.frozen⟩
  | granted _ _ _ _ _ assignment placement _ granted =>
    exact ⟨row, granted.inserted.mem_iff.mpr (.inl member), .refl row⟩

namespace Deployment

def settings : Settings := { admission := true, interactive := true }

/-- A digest that separates results by their outcome. -/
def digest : Digest where
  claim _ := ""
  event _ := ""
  result value :=
    match value.outcome with
    | .completed => "completed"
    | .estimation => "estimation"
    | .userFailure => "user_failure"
    | .systemFailure => "system_failure"

/-- A complete report of an idle host with one 80 GB GPU. -/
def inventory : Inventory where
  complete := true
  observedAt := 0
  mode := .available
  availableSlots := 2
  localAssignments := []
  freeVramGb := 10
  freeRamGb := 64
  freeDiskGb := 512
  cpuCores := 16
  platform := .linuxAmd64
  nvidiaRuntime := true
  quotaSupported := true
  interactiveReady := true
  gpus := [⟨"GPU-0", "A100", 80, false, []⟩]

def worker : Worker where
  workerId := 1
  gpuType := "A100"
  numGpus := 1
  totalVram := 80
  protocolVersion := some 1
  instanceId := some 10
  authenticatedHeartbeatAt := some 0
  inventory := some inventory
  executionMode := .available
  executionReconciling := false

def job (id : UUID) : Job where
  id := id
  status := .runnable
  vramRequired := some 8

def db : Db where
  workers := ⟨[worker], by decide⟩
  jobs := ⟨[job 100, job 101], by decide⟩
  runtimes := .empty
  assignments := .empty

/-- A policy that always selects one batch job. -/
def batchOnly (jobId : UUID) : Choose := fun _ _ _ _ => some { kind := .batch, targetId := jobId }

/-- The Worker claims under a request; the assignment gets the request's number plus 1000. -/
def claimBatch (requestId jobId : UUID) : Op :=
  .claim settings (batchOnly jobId) (fun _ => (requestId + 1000, requestId + 2000)) 1
    ⟨10, requestId⟩

end Deployment

end TrainingScheduler
