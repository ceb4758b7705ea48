import TrainingScheduler.Scheduler.Effects

/-!
# What a claim can do

A successful claim replays the earlier assignment of its request, refuses, or grants exactly one
new assignment.  `Granted` collects the gates passed and the candidate revalidated by a grant.
-/

namespace TrainingScheduler

/-- The data a granting iteration of `claim` works with. -/
structure Placement where
  worker : Worker
  inventory : Inventory
  candidate : Candidate
  iteration : Nat
  ids : UUID × UUID

namespace Placement

def snapshot (placement : Placement) (db : Db) : Snapshot :=
  claimSnapshot placement.worker placement.inventory (live db placement.worker.workerId)

end Placement

/-- A claim passed every gate and inserted an assignment. -/
structure Granted (settings : Settings) (digest : Digest) (choose : Choose) (now : Time)
    (before : Db) (workerId : UUID) (body : Claim) (after : Db) (assignment : Assignment)
    (placement : Placement) : Prop where
  found : before.workers.lookup workerId = some placement.worker
  first : previousClaim before workerId body = none
  admitted : admissionBlocked settings placement.worker body (live before workerId) now = false
  reported : placement.worker.inventory = some placement.inventory
  slots : slotsExhausted placement.inventory (live before workerId) = false
  current : inventoryExpired settings placement.inventory now = false
  chosen : choose placement.iteration before (placement.snapshot before) settings =
    some placement.candidate
  isolated : placement.candidate.kind = .estimation →
    live before workerId = [] ∧ placement.inventory.localAssignments = []
  reserved : reserve settings digest now before placement.worker body (placement.snapshot before)
    placement.candidate placement.ids = some (assignment, after)

/-- The three ways a claim commits. -/
inductive ClaimResult (settings : Settings) (digest : Digest) (choose : Choose) (now : Time)
    (before : Db) (workerId : UUID) (body : Claim) : ClaimReply → Db → Prop where
  | replayed (previous : Assignment) (found : previousClaim before workerId body = some previous)
      (hash : previous.requestHash = digest.claim body) :
      ClaimResult settings digest choose now before workerId body
        (envelope previous settings now) before
  | refused (first : previousClaim before workerId body = none) :
      ClaimResult settings digest choose now before workerId body {} before
  | granted (after : Db) (assignment : Assignment) (placement : Placement)
      (granted : Granted settings digest choose now before workerId body after assignment
        placement) :
      ClaimResult settings digest choose now before workerId body
        (envelope assignment settings now) after

variable {settings : Settings} {digest : Digest} {choose : Choose} {now : Time} {before after : Db}
  {workerId : UUID} {body : Claim} {reply : ClaimReply} {iteration : Nat} {ids : UUID × UUID}

private theorem claimResult_of_placed {worker : Worker} {inventory : Inventory}
    (locked : lockWorker before workerId = .ok worker)
    (first : previousClaim before workerId body = none)
    (blocked : ¬admissionBlocked settings worker body (live before workerId) now = true)
    (reported : worker.inventory = some inventory)
    (full : ¬slotsExhausted inventory (live before workerId) = true)
    (expired : ¬inventoryExpired settings inventory now = true)
    (placed : placeCandidate settings digest choose now before worker inventory body iteration ids =
      .commit reply after) :
    ClaimResult settings digest choose now before workerId body reply after := by
  have found := lookup_of_lockWorker locked
  obtain rfl : worker.workerId = workerId := Table.key_of_lookup found
  unfold placeCandidate at placed
  dsimp only at placed
  split at placed
  · cases placed
    exact .refused first
  · rename_i candidate chosen
    split_ifs at placed with shared
    · cases placed
      exact .refused first
    · split at placed
      · cases placed
      · rename_i assignment db reserved
        cases placed
        refine .granted _ assignment ⟨worker, inventory, candidate, iteration, ids⟩
          { found, first, reported, chosen, reserved
            admitted := by simpa using blocked
            slots := by simpa using full
            current := by simpa using expired
            isolated := ?_ }
        intro kind
        simp only [Bool.and_eq_true, Bool.or_eq_true, not_and, not_or] at shared
        simpa using shared (beq_iff_eq.mpr kind)

private theorem claimResult_of_attempt
    (committed : claimAttempt settings digest choose now before workerId body iteration ids =
      .ok (.commit reply after)) :
    ClaimResult settings digest choose now before workerId body reply after := by
  unfold claimAttempt at committed
  split at committed
  · cases committed
  · rename_i worker locked
    split at committed
    · rename_i previous earlier
      split_ifs at committed with conflict
      cases committed
      exact .replayed previous earlier (by simpa using conflict)
    · rename_i first
      split_ifs at committed with blocked
      · cases committed
        exact .refused first
      · split at committed
        · cases committed
        · rename_i inventory reported
          split_ifs at committed with full expired
          · cases committed
            exact .refused first
          · cases committed
            exact .refused first
          · have placed := Except.ok.inj committed
            exact claimResult_of_placed locked first blocked reported full expired placed

theorem claimResult_of_claim {newId : Nat → UUID × UUID}
    (committed : claim settings digest choose newId now before workerId body = .ok (reply, after)) :
    ClaimResult settings digest choose now before workerId body reply after := by
  have loop : ∀ remaining, claimLoop settings digest choose now before workerId body newId
      remaining = .ok (reply, after) →
      remaining = 0 ∧ reply = {} ∧ after = before ∨
        ClaimResult settings digest choose now before workerId body reply after := by
    intro remaining
    induction remaining with
    | zero =>
      intro done
      cases done
      exact .inl ⟨rfl, rfl, rfl⟩
    | succ remaining induction =>
      intro done
      unfold claimLoop at done
      split at done
      · cases done
      · rename_i attempt
        cases done
        exact .inr (claimResult_of_attempt attempt)
      · rename_i rolledBack
        rcases induction done with ⟨-, rfl, rfl⟩ | result
        · refine .inr (.refused ?_)
          unfold claimAttempt at rolledBack
          split at rolledBack
          · cases rolledBack
          · split at rolledBack
            · split_ifs at rolledBack
              cases rolledBack
            · assumption
        · exact .inr result
  rcases loop 3 committed with ⟨absurd, -, -⟩ | result
  · cases absurd
  · exact result

/-- What the insertion of a new reservation guarantees. -/
structure Inserted (settings : Settings) (digest : Digest) (now : Time) (before : Db)
    (workerId : UUID) (body : Claim) (after : Db) (assignment : Assignment) : Prop where
  rows : after.assignments.rows = before.assignments.rows ++ [assignment]
  fresh : ∀ old ∈ before.assignments.rows, old.id ≠ assignment.id
  unconflicted : ∀ old ∈ before.assignments.rows, conflicts old assignment = false
  workers : after.workers = before.workers
  writes : after.statusWrites = before.statusWrites
  worker : assignment.workerId = workerId
  instance_eq : assignment.instanceId = body.instanceId
  request : assignment.requestId = body.requestId
  hash : assignment.requestHash = digest.claim body
  lease : assignment.leaseUntil = now + settings.leaseSeconds
  state : assignment.state = .claimed
  unreleased : assignment.Unreleased
  unacknowledged : assignment.cleanupAck = false

theorem Inserted.mem_iff {settings : Settings} {digest : Digest} {now : Time} {before after : Db}
    {workerId : UUID} {body : Claim} {assignment row : Assignment}
    (inserted : Inserted settings digest now before workerId body after assignment) :
    row ∈ after.assignments.rows ↔ row ∈ before.assignments.rows ∨ row = assignment := by
  rw [inserted.rows, List.mem_append, List.mem_singleton]

/-- How a reservation is tied to its target. -/
inductive Reserved (settings : Settings) (now : Time) (before : Db) (worker : Worker)
    (snapshot : Snapshot) (candidate : Candidate) (assignment : Assignment) (after : Db) :
    Prop where
  | interactive (runtime : Runtime) (kind : candidate.kind = .interactive)
      (found : before.runtimes.lookup candidate.targetId = some runtime)
      (queued : runtime.state = .queued) (running : runtime.desiredState = .running)
      (gpu : compatibleGpu snapshot runtime.launchSpec = candidate.gpuUuid)
      (target : assignment.target = .interactive runtime.id runtime.generation)
      (gpu_eq : assignment.gpuUuid = candidate.gpuUuid)
      (payload : assignment.payload = .runtime (runtimePayload runtime candidate.gpuUuid))
      (jobs : after.jobs = before.jobs)
      (runtimes : after.runtimes.rows = Table.rewriteAt Runtime.id runtime.id
        (assignRuntime settings now assignment.id) before.runtimes.rows)
  | estimation (job : Job) (kind : candidate.kind = .estimation)
      (found : before.jobs.lookup candidate.targetId = some job)
      (pending : job.status = .vramEstimationPending)
      (target : assignment.target = .estimation job.id)
      (jobs : after.jobs = before.jobs) (runtimes : after.runtimes = before.runtimes)
  | batch (job : Job) (kind : candidate.kind = .batch)
      (found : before.jobs.lookup candidate.targetId = some job)
      (claimable : job.status = .retryNeeded ∨ job.status = .runnable)
      (fits : vramExceeds job snapshot = false)
      (target : assignment.target = .batch job.id)
      (payload : assignment.payload =
        .job (formatJobResponse (startJob now worker.gpuType job) candidate.flag))
      (jobs : after.jobs.rows =
        Table.rewriteAt Job.id job.id (startJob now worker.gpuType) before.jobs.rows)
      (runtimes : after.runtimes = before.runtimes)

theorem insertAssignment_eq_some {db after : Db} {assignment : Assignment}
    (inserted : insertAssignment db assignment = some after) :
    after.assignments.rows = db.assignments.rows ++ [assignment] ∧
      (∀ old ∈ db.assignments.rows, old.id ≠ assignment.id) ∧
      (∀ old ∈ db.assignments.rows, conflicts old assignment = false) ∧
      after.workers = db.workers ∧ after.jobs = db.jobs ∧ after.runtimes = db.runtimes ∧
      after.statusWrites = db.statusWrites := by
  unfold insertAssignment at inserted
  split_ifs at inserted with conflicting
  obtain ⟨assignments, stored, rfl⟩ := Option.map_eq_some_iff.mp inserted
  obtain ⟨rows, fresh⟩ := Table.insert_eq_some stored
  refine ⟨rows, fresh, ?_, rfl, rfl, rfl, rfl⟩
  simpa using conflicting

variable {worker : Worker} {snapshot : Snapshot} {candidate : Candidate} {assignment : Assignment}
  {placement : Placement}

theorem inserted_of_insertAssignment {workerId : UUID} {db : Db} {target : Target}
    {payload : Payload} {gpuUuid : Option String}
    (inserted : insertAssignment db
      (newAssignment settings digest now workerId body ids target payload gpuUuid) = some after)
    (rows : db.assignments = before.assignments) (workers : db.workers = before.workers)
    (writes : db.statusWrites = before.statusWrites) :
    Inserted settings digest now before workerId body after
      (newAssignment settings digest now workerId body ids target payload gpuUuid) := by
  obtain ⟨appended, fresh, unconflicted, sameWorkers, -, -, sameWrites⟩ :=
    insertAssignment_eq_some inserted
  rw [rows] at appended fresh unconflicted
  exact
    { rows := appended
      fresh, unconflicted
      workers := sameWorkers.trans workers
      writes := sameWrites.trans writes
      worker := rfl
      instance_eq := rfl
      request := rfl
      hash := rfl
      lease := rfl
      state := rfl
      unreleased := rfl
      unacknowledged := rfl }

theorem reserve_eq_some
    (reserved : reserve settings digest now before worker body snapshot candidate ids =
      some (assignment, after)) :
    Inserted settings digest now before worker.workerId body after assignment ∧
      Reserved settings now before worker snapshot candidate assignment after := by
  unfold reserve at reserved
  split_ifs at reserved with kind
  · unfold reserveRuntime at reserved
    split at reserved
    · cases reserved
    · rename_i runtime found
      split_ifs at reserved with rejected taken
      obtain ⟨db, inserted, equal⟩ := Option.map_eq_some_iff.mp reserved
      cases equal
      simp only [Bool.or_eq_true, not_or, bne_iff_ne, ne_eq, not_not, Bool.not_eq_true',
        Bool.not_eq_false] at rejected
      obtain ⟨⟨⟨queued, running⟩, -⟩, gpu⟩ := rejected
      refine ⟨inserted_of_insertAssignment inserted rfl rfl rfl, ?_⟩
      obtain ⟨-, -, -, -, jobs, runtimes, -⟩ := insertAssignment_eq_some inserted
      exact .interactive runtime kind found queued running gpu rfl rfl rfl jobs
        (congrArg Table.rows runtimes)
  · unfold reserveJob at reserved
    split at reserved
    · cases reserved
    · rename_i job found
      split_ifs at reserved with rejected estimation exceeds
      · obtain ⟨db, inserted, equal⟩ := Option.map_eq_some_iff.mp reserved
        cases equal
        simp only [Bool.or_eq_true, not_or, bne_iff_ne, ne_eq, not_not] at rejected
        refine ⟨inserted_of_insertAssignment inserted rfl rfl rfl, ?_⟩
        obtain ⟨-, -, -, -, jobs, runtimes, -⟩ := insertAssignment_eq_some inserted
        exact .estimation job estimation found
          (by rw [rejected.1, expectedStatus, if_pos estimation]) rfl jobs runtimes
      · obtain ⟨db, inserted, equal⟩ := Option.map_eq_some_iff.mp reserved
        cases equal
        simp only [Bool.or_eq_true, not_or, bne_iff_ne, ne_eq, not_not] at rejected
        have batch : candidate.kind = .batch := by
          cases shape : candidate.kind with
          | estimation => exact absurd shape estimation
          | batch => rfl
          | interactive => exact absurd shape kind
        refine ⟨inserted_of_insertAssignment inserted rfl rfl rfl, ?_⟩
        obtain ⟨-, -, -, -, jobs, runtimes, -⟩ := insertAssignment_eq_some inserted
        refine .batch job batch found ?_ (by simpa using exceeds) rfl rfl
          (congrArg Table.rows jobs) runtimes
        rw [rejected.1, expectedStatus, if_neg estimation]
        split_ifs
        · exact .inl rfl
        · exact .inr rfl

section

variable
  (granted : Granted settings digest choose now before workerId body after assignment placement)

include granted

theorem Granted.workerId_eq : placement.worker.workerId = workerId :=
  Table.key_of_lookup granted.found

theorem Granted.inserted : Inserted settings digest now before workerId body after assignment :=
  granted.workerId_eq ▸ (reserve_eq_some granted.reserved).1

theorem Granted.target :
    Reserved settings now before placement.worker (placement.snapshot before) placement.candidate
      assignment after :=
  (reserve_eq_some granted.reserved).2

/-- A grant assigns one queued runtime, or it leaves the runtimes alone. -/
theorem Granted.runtimes :
    (∃ runtime ∈ before.runtimes.rows, runtime.state = .queued ∧
        runtime.desiredState = .running ∧ assignment.runtimeId = some runtime.id ∧
        after.runtimes.rows = Table.rewriteAt Runtime.id runtime.id
          (assignRuntime settings now assignment.id) before.runtimes.rows) ∨
      assignment.runtimeId = none ∧ after.runtimes = before.runtimes := by
  unfold Assignment.runtimeId
  cases granted.target with
  | interactive runtime _ found queued running _ shape _ _ _ runtimes =>
    rw [shape]
    exact .inl ⟨runtime, Table.mem_of_lookup found, queued, running, rfl, runtimes⟩
  | estimation _ _ _ _ shape _ runtimes => exact .inr ⟨by rw [shape]; rfl, runtimes⟩
  | batch _ _ _ _ _ shape _ _ runtimes => exact .inr ⟨by rw [shape]; rfl, runtimes⟩

theorem Granted.eligible : workerEligible placement.worker now settings.freshSeconds = true := by
  have admitted := granted.admitted
  simp only [admissionBlocked, Bool.or_eq_false_iff] at admitted
  simpa using admitted.1.2

end

end TrainingScheduler
