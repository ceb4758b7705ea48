import Mathlib
import TrainingScheduler.Scheduler.Generations
import TrainingScheduler.Scheduler.Reports

/-!
# Policy and reservation

What `ThreeTierPolicy.choose` returns passes the revalidation of `claim`, so that without other
transactions the first iteration commits it.
-/

namespace TrainingScheduler

open Table Control

/-- The identifiers that an iteration mints are new. -/
def Minted (db : Db) (ids : UUID × UUID) : Prop :=
  (∀ assignment ∈ db.assignments.rows, assignment.id ≠ ids.1 ∧ assignment.attemptToken ≠ ids.2) ∧
    ∀ runtime ∈ db.runtimes.rows, runtime.resourceId ≠ some ids.1

/-- A Worker that passes the gates of `claim` with a new request. -/
structure Admitted (settings : Settings) (now : Time) (db : Db) (body : Claim) (worker : Worker)
    (inventory : Inventory) : Prop where
  found : db.workers.lookup worker.workerId = some worker
  new : previousClaim db worker.workerId body = none
  admitted : admissionBlocked settings worker body (live db worker.workerId) now = false
  reported : worker.inventory = some inventory
  slots : slotsExhausted inventory (live db worker.workerId) = false
  observed : inventoryExpired settings inventory now = false

theorem Admitted.enabled {settings : Settings} {now : Time} {db : Db} {body : Claim}
    {worker : Worker} {inventory : Inventory}
    (gates : Admitted settings now db body worker inventory) : settings.admission = true := by
  have admitted := gates.admitted
  simp only [admissionBlocked, Bool.or_eq_false_iff, Bool.not_eq_false'] at admitted
  exact admitted.1.1.1

/-- A candidate, with the row that the policy has seen it in. -/
inductive Selected (settings : Settings) (db : Db) (snapshot : Snapshot) (candidate : Candidate) :
    Prop where
  | estimation (job : Job) (member : job ∈ unassignedJobs db .vramEstimationPending)
      (idle : snapshot.assignments = 0) (quiet : snapshot.inventory.localAssignments = [])
      (same : candidate =
        { kind := .estimation, targetId := job.id, flag := "vram_estimation" })
  | interactive (runtime : Runtime) (member : runtime ∈ db.runtimes.rows)
      (enabled : settings.interactive = true) (idle : snapshot.assignments = 0)
      (queued : runtime.state = .queued) (running : runtime.desiredState = .running)
      (same : candidate =
        { kind := .interactive, targetId := runtime.id
          gpuUuid := compatibleGpu snapshot runtime.launchSpec })
  | batch (job : Job) (status : JobStatus) (flag : String)
      (listed : status = .retryNeeded ∧ flag = "retry" ∨ status = .runnable ∧ flag = "training")
      (member : job ∈ unassignedJobs db status)
      (fits : ∀ required, job.vramRequired = some required → required + 1 ≤ snapshot.freeVram)
      (same : candidate = { kind := .batch, targetId := job.id, flag })

variable {status : JobStatus}

section

variable {settings : Settings} {timestamp : Time} {db : Db} {snapshot : Snapshot}
  {candidate : Candidate}

private theorem selected_of_chooseEstimation
    (chosen : chooseEstimation settings timestamp db snapshot = some candidate) :
    Selected settings db snapshot candidate := by
  unfold chooseEstimation at chosen
  split_ifs at chosen with idle
  obtain ⟨job, first, same⟩ := Option.map_eq_some_iff.mp chosen
  exact .estimation job (firstBy_mem first) idle.1 idle.2.1 same.symm

theorem selected_of_chooseRuntime (chosen : chooseRuntime settings db snapshot = some candidate) :
    Selected settings db snapshot candidate := by
  unfold chooseRuntime at chosen
  split_ifs at chosen with idle
  obtain ⟨runtime, first, same⟩ := Option.map_eq_some_iff.mp chosen
  obtain ⟨member, waiting⟩ := List.mem_filter.mp (firstBy_mem first)
  simp only [Bool.and_eq_true, beq_iff_eq] at waiting
  exact .interactive runtime member idle.1 idle.2 waiting.1.1 waiting.1.2 same.symm

theorem selected_of_chooseBatch {flag : String} {precedes : Job → Job → Bool}
    (listed : status = .retryNeeded ∧ flag = "retry" ∨ status = .runnable ∧ flag = "training")
    (chosen : chooseBatch status flag precedes db snapshot = some candidate) :
    Selected settings db snapshot candidate := by
  unfold chooseBatch at chosen
  obtain ⟨job, first, same⟩ := Option.map_eq_some_iff.mp chosen
  obtain ⟨member, fits⟩ := List.mem_filter.mp (firstBy_mem first)
  refine .batch job status flag listed member (fun required needs => ?_) same.symm
  rw [needs] at fits
  simpa using fits

private theorem selected_of_threeTier {iteration : ℕ}
    (chosen : threeTier timestamp iteration db snapshot settings = some candidate) :
    Selected settings db snapshot candidate := by
  simp only [threeTier, Option.orElse_eq_orElse, Option.orElse_eq_or, Option.or_eq_some_iff]
    at chosen
  rcases chosen with estimation | ⟨-, runtime | ⟨-, retry | ⟨-, training⟩⟩⟩
  · exact selected_of_chooseEstimation estimation
  · exact selected_of_chooseRuntime runtime
  · exact selected_of_chooseBatch (.inl ⟨rfl, rfl⟩) retry
  · exact selected_of_chooseBatch (.inr ⟨rfl, rfl⟩) training

end

theorem mem_unassignedJobs {db : Db} {job : Job} :
    job ∈ unassignedJobs db status ↔ job ∈ db.jobs.rows ∧ job.status = status ∧
      ∀ assignment ∈ db.assignments.rows, assignment.jobId = some job.id →
        assignment.releasedAt ≠ none := by
  simp only [unassignedJobs, List.mem_filter, Bool.and_eq_true, beq_iff_eq, Bool.not_eq_true',
    List.any_eq_false, not_and, Option.isNone_iff_eq_none, ne_eq]

section

variable {settings : Settings} {digest : Digest} {now : Time} {db : Db} {worker : Worker}
  {body : Claim} {inventory : Inventory} {snapshot : Snapshot} {candidate : Candidate}
  {ids : UUID × UUID}

/-- No unreleased reservation holds the target, or the Worker that is to run a runtime. -/
structure Available (db : Db) (workerId : UUID) (target : Target) : Prop where
  job : ∀ old ∈ db.assignments.rows, old.releasedAt = none → old.jobId.isSome = true →
    old.jobId ≠ target.jobId
  runtime : ∀ old ∈ db.assignments.rows, old.releasedAt = none → old.runtimeId.isSome = true →
    old.runtimeId ≠ target.runtimeId
  idle : target.kind = .interactive → live db workerId = []

variable {target : Target} {payload : Payload} {gpuUuid : Option String}

section

variable (available : Available db worker.workerId target) (minted : Minted db ids)
  (new : previousClaim db worker.workerId body = none)

include available minted new

private theorem newAssignment_unconflicted {old : Assignment} (member : old ∈ db.assignments.rows) :
    conflicts old (newAssignment settings digest now worker.workerId body ids target payload
      gpuUuid) = false := by
  have request := List.find?_eq_none.mp new old member
  simp only [Bool.and_eq_true, beq_iff_eq, not_and] at request
  simp only [conflicts, newAssignment, Bool.or_eq_false_iff, Bool.and_eq_false_iff,
    beq_eq_false_iff_ne]
  refine ⟨⟨(minted.1 old member).2, ?_⟩, ?_⟩
  · by_cases same : old.workerId = worker.workerId
    · by_cases instance_eq : old.instanceId = body.instanceId
      · exact .inr (request ⟨same, instance_eq⟩)
      · exact .inl (.inr instance_eq)
    · exact .inl (.inl same)
  · cases released : old.releasedAt with
    | some _ => exact .inl rfl
    | none =>
      refine .inr ⟨⟨?_, ?_⟩, ?_⟩
      · cases held : old.jobId.isSome with
        | false => exact .inl rfl
        | true => exact .inr (available.job old member released held)
      · cases held : old.runtimeId.isSome with
        | false => exact .inl rfl
        | true => exact .inr (available.runtime old member released held)
      · by_cases kind : target.kind = .interactive
        · refine .inr fun same => ?_
          have none := List.filter_eq_nil_iff.mp (available.idle kind) old member
          simp [same, released] at none
        · exact .inl (.inr kind)

theorem insert_newAssignment {changed : Db} (same : changed.assignments = db.assignments) :
    ∃ result : Assignment × Db,
      (insertAssignment changed (newAssignment settings digest now worker.workerId body ids target
        payload gpuUuid)).map (fun after => (newAssignment settings digest now worker.workerId body
          ids target payload gpuUuid, after)) = some result := by
  have unconflicted : changed.assignments.rows.any (conflicts · (newAssignment settings digest now
      worker.workerId body ids target payload gpuUuid)) = false := by
    rw [same]
    exact List.any_eq_false.mpr fun old member => by
      rw [newAssignment_unconflicted available minted new member]
      exact Bool.false_ne_true
  rw [insertAssignment, unconflicted, same]
  cases inserted : db.assignments.insert (newAssignment settings digest now worker.workerId body ids
      target payload gpuUuid) with
  | none =>
    obtain ⟨old, member, taken⟩ := mem_of_insert_eq_none inserted
    exact absurd taken (minted.1 old member).1
  | some assignments => exact ⟨_, rfl⟩

end

theorem available_of_unassigned {job : Job} {workerId : UUID}
    (member : job ∈ unassignedJobs db status) (holds : target.jobId = some job.id)
    (alone : target.runtimeId = none) (kind : target.kind ≠ .interactive) :
    Available db workerId target where
  job old old_mem unreleased _ same :=
    (mem_unassignedJobs.mp member).2.2 old old_mem (same.trans holds) unreleased
  runtime old _ _ held same := by simp [same, alone] at held
  idle interactive := absurd interactive kind

theorem reserveJob_of_unassigned {job : Job} (minted : Minted db ids)
    (new : previousClaim db worker.workerId body = none) (target : candidate.targetId = job.id)
    (member : job ∈ unassignedJobs db (expectedStatus candidate))
    (fits : candidate.kind = .estimation ∨ vramExceeds job snapshot = false) :
    ∃ result, reserveJob settings digest now db worker body snapshot candidate ids =
      some result := by
  obtain ⟨stored, status, unassigned⟩ := mem_unassignedJobs.mp member
  have found : db.jobs.lookup candidate.targetId = some job := by
    rw [target]
    exact lookup_of_mem stored
  have unheld : db.assignments.rows.any (fun other =>
      other.jobId == some candidate.targetId && other.releasedAt.isNone) = false := by
    refine List.any_eq_false.mpr fun other other_mem held => ?_
    simp only [Bool.and_eq_true, beq_iff_eq, Option.isNone_iff_eq_none, target] at held
    exact unassigned other other_mem held.1 held.2
  simp only [reserveJob, found, status, bne_self_eq_false, unheld, Bool.or_self, Bool.false_eq_true,
    if_false]
  split_ifs with estimation exceeds
  · exact insert_newAssignment (available_of_unassigned member rfl rfl (by rintro ⟨⟩))
      minted new rfl
  · rcases fits with estimates | fits
    · exact absurd estimates estimation
    · rw [fits] at exceeds
      cases exceeds
  · exact insert_newAssignment (available_of_unassigned member rfl rfl (by rintro ⟨⟩))
      minted new rfl

variable {runtime : Runtime}

private theorem held_of_queued (sound : db.Sound) (member : runtime ∈ db.runtimes.rows)
    (queued : runtime.state = .queued) : db.held runtime.id = [] := by
  have bound := sound.bound runtime member
  cases assigned : runtime.life.assignmentId with
  | none => exact (bound.unassigned assigned).1
  | some id => exact absurd queued (bound.assigned id assigned).1

private theorem reserveRuntime_of_queued (minted : Minted db ids)
    (new : previousClaim db worker.workerId body = none) (idle : live db worker.workerId = [])
    (enabled : settings.interactive = true) (member : runtime ∈ db.runtimes.rows)
    (unreserved : db.held runtime.id = []) (queued : runtime.state = .queued)
    (running : runtime.desiredState = .running) (target : candidate.targetId = runtime.id)
    (gpu : compatibleGpu snapshot runtime.launchSpec = candidate.gpuUuid) :
    ∃ result, reserveRuntime settings digest now db worker.workerId body snapshot candidate ids =
      some result := by
  have found : db.runtimes.lookup candidate.targetId = some runtime := by
    rw [target]
    exact lookup_of_mem member
  have unused : db.runtimes.rows.any (fun other => other.resourceId == some ids.1) = false :=
    List.any_eq_false.mpr fun other other_mem => by simpa using minted.2 other other_mem
  have available : Available db worker.workerId (.interactive runtime.id runtime.generation) :=
    { job := fun old _ _ held same => by
        rw [same] at held
        cases held
      runtime := fun old old_mem _ _ same => by
        have holds : old ∈ db.held runtime.id := mem_held.mpr ⟨old_mem, same⟩
        rw [unreserved] at holds
        cases holds
      idle := fun _ => idle }
  simp only [reserveRuntime, found, queued, running, enabled, gpu, unused, bne_self_eq_false,
    Bool.not_true, Bool.or_self, Bool.false_eq_true, if_false]
  exact insert_newAssignment available minted new rfl

/-- The runtime of a candidate, while it is queued, has never been reserved. -/
def Unreserved (db : Db) (candidate : Candidate) : Prop :=
  candidate.kind = .interactive → ∀ runtime ∈ db.runtimes.rows, runtime.id = candidate.targetId →
    runtime.state = .queued → db.held runtime.id = []

theorem reserve_of_selected (digest : Digest) (now : Time) (unreserved : Unreserved db candidate)
    (minted : Minted db ids)
    (new : previousClaim db worker.workerId body = none)
    (selected : Selected settings db
      (claimSnapshot worker inventory (live db worker.workerId)) candidate) :
    ∃ assignment after, reserve settings digest now db worker body
      (claimSnapshot worker inventory (live db worker.workerId)) candidate ids =
        some (assignment, after) := by
  suffices reserved : ∃ result, reserve settings digest now db worker body
      (claimSnapshot worker inventory (live db worker.workerId)) candidate ids = some result by
    obtain ⟨⟨assignment, after⟩, reserved⟩ := reserved
    exact ⟨assignment, after, reserved⟩
  cases selected with
  | estimation job member idle quiet same =>
    have expected : expectedStatus candidate = .vramEstimationPending := by rw [same]; rfl
    have kind : candidate.kind = .estimation := by rw [same]
    rw [reserve, if_neg (by rw [kind]; decide)]
    exact reserveJob_of_unassigned minted new (by rw [same]) (expected ▸ member) (.inl kind)
  | interactive runtime member enabled idle queued running same =>
    rw [reserve, if_pos (by rw [same])]
    have unheld := unreserved (by rw [same]) runtime member (by rw [same]) queued
    exact reserveRuntime_of_queued minted new (List.length_eq_zero_iff.mp idle) enabled member
      unheld queued running (by rw [same]) (by rw [same])
  | batch job status flag listed member fits same =>
    have expected : expectedStatus candidate = status := by
      subst same
      rcases listed with ⟨rfl, rfl⟩ | ⟨rfl, rfl⟩ <;> simp [expectedStatus]
    have kind : candidate.kind = .batch := by rw [same]
    rw [reserve, if_neg (by rw [kind]; decide)]
    refine reserveJob_of_unassigned minted new (by rw [same]) (expected ▸ member) (.inr ?_)
    cases needs : job.vramRequired with
    | none => simp [vramExceeds, needs]
    | some required => simpa [vramExceeds, needs] using fits required needs

variable {timestamp : Time}

theorem Admitted.claimAttempt (gates : Admitted settings now db body worker inventory)
    (digest : Digest) (choose : Choose) (iteration : ℕ) (ids : UUID × UUID) :
    claimAttempt settings digest choose now db worker.workerId body iteration ids =
      .ok (placeCandidate settings digest choose now db worker inventory body iteration ids) := by
  simp [TrainingScheduler.claimAttempt, lockWorker, gates.found, gates.new, gates.admitted,
    gates.reported, gates.slots, gates.observed]

variable {candidate : Candidate} {choose : Choose}

private theorem placeCandidate_of_reserve {assignment : Assignment} {after : Db} {iteration : ℕ}
    {ids : UUID × UUID}
    (chosen : choose iteration db (claimSnapshot worker inventory (live db worker.workerId))
      settings = some candidate)
    (selected : Selected settings db (claimSnapshot worker inventory (live db worker.workerId))
      candidate) (reserved : reserve settings digest now db worker body
      (claimSnapshot worker inventory (live db worker.workerId)) candidate ids =
        some (assignment, after)) :
    placeCandidate settings digest choose now db worker inventory body iteration ids =
      .commit (envelope assignment settings now) after := by
  have quiet : (candidate.kind == .estimation && (!(live db worker.workerId).isEmpty ||
      !inventory.localAssignments.isEmpty)) = false := by
    cases selected with
    | estimation job member idle quiet same =>
      have none : live db worker.workerId = [] := List.length_eq_zero_iff.mp idle
      have empty : inventory.localAssignments = [] := quiet
      simp [none, empty]
    | interactive runtime member enabled idle queued running same => simp [same]
    | batch job status flag listed member fits same => simp [same]
  simp only [placeCandidate, chosen, quiet, Bool.false_eq_true, if_false, reserved]

variable {newId : ℕ → UUID × UUID}

theorem claim_of_attempt {workerId : UUID} {reply : ClaimReply} {after : Db}
    (attempt : claimAttempt settings digest choose now db workerId body 0 (newId 0) =
      .ok (.commit reply after)) :
    claim settings digest choose newId now db workerId body = .ok (reply, after) := by
  simp only [claim, claimLoop, Nat.sub_self, attempt]

theorem Admitted.claim_of_selected (gates : Admitted settings now db body worker inventory)
    (digest : Digest) (minted : Minted db (newId 0)) (unreserved : Unreserved db candidate)
    (chosen : threeTier timestamp 0 db (claimSnapshot worker inventory (live db worker.workerId))
      settings = some candidate) :
    ∃ assignment after,
      TrainingScheduler.claimAttempt settings digest (threeTier timestamp) now db worker.workerId
          body 0 (newId 0) = .ok (.commit (envelope assignment settings now) after) ∧
        claim settings digest (threeTier timestamp) newId now db worker.workerId body =
          .ok (envelope assignment settings now, after) ∧
        Inserted settings digest now db worker.workerId body after assignment ∧
        Reserved settings now db worker
          (claimSnapshot worker inventory (live db worker.workerId))
            candidate assignment after := by
  have selected := selected_of_threeTier chosen
  obtain ⟨assignment, after, reserved⟩ :=
    reserve_of_selected digest now unreserved minted gates.new selected
  have committed := (gates.claimAttempt digest (threeTier timestamp) 0 (newId 0)).trans
    (congrArg _ (placeCandidate_of_reserve chosen selected reserved))
  obtain ⟨inserted, tied⟩ := reserve_eq_some reserved
  exact ⟨assignment, after, committed, claim_of_attempt committed, inserted, tied⟩

end

/-- In every state that the Scheduler reaches, and for every Worker that passes the gates: what the
policy chooses is committed by the first iteration, and where it chooses nothing the claim leaves
the database as it is. -/
theorem policy_and_reservation_agree (digest : Digest) (workers : Table Worker.workerId)
    (jobs : Table Job.id) (acts : List (Time × Act)) (settings : Settings) (timestamp now : Time)
    (newId : ℕ → UUID × UUID) (body : Claim) (worker : Worker) (inventory : Inventory)
    (gates : Admitted settings now ((initial workers jobs).performAll digest acts).db body
      worker inventory)
    (minted : Minted ((initial workers jobs).performAll digest acts).db (newId 0)) :
    let db := ((initial workers jobs).performAll digest acts).db
    let snapshot := claimSnapshot worker inventory (live db worker.workerId)
    (∀ candidate, threeTier timestamp 0 db snapshot settings = some candidate →
      ∃ assignment after,
        claimAttempt settings digest (threeTier timestamp) now db worker.workerId body 0 (newId 0) =
          .ok (.commit (envelope assignment settings now) after) ∧
        claim settings digest (threeTier timestamp) newId now db worker.workerId body =
          .ok (envelope assignment settings now, after) ∧
        Inserted settings digest now db worker.workerId body after assignment ∧
        Reserved settings now db worker snapshot candidate assignment after) ∧
      (threeTier timestamp 0 db snapshot settings = none →
        claim settings digest (threeTier timestamp) newId now db worker.workerId body =
          .ok ({}, db)) := by
  intro db snapshot
  have sound : db.Sound := ((initial_sound workers jobs).performAll acts).1.db
  refine ⟨?_, ?_⟩
  · intro candidate chosen
    refine gates.claim_of_selected digest minted ?_ chosen
    exact fun _ runtime member _ queued => held_of_queued sound member queued
  · intro nothing
    refine claim_of_attempt ((gates.claimAttempt digest _ 0 (newId 0)).trans ?_)
    simp only [placeCandidate]
    rw [nothing]
    rfl

namespace Deployment

def claimedOnce : List (Time × Act) := [(0, .operate (claimBatch 1 100))]

/-- The policy then chooses the second job, and the Worker's next claim commits it. -/
theorem second_claim_agrees :
    threeTier 0 0 ((initial db.workers db.jobs).performAll digest claimedOnce).db
        (claimSnapshot worker inventory
          (live ((initial db.workers db.jobs).performAll digest claimedOnce).db 1)) settings =
      some { kind := .batch, targetId := 101, flag := "training" } ∧
    ∃ assignment after,
      claim settings digest (threeTier 0) (fun _ => (1002, 2002)) 0
          ((initial db.workers db.jobs).performAll digest claimedOnce).db 1 ⟨10, 2⟩ =
        .ok (envelope assignment settings 0, after) := by
  have chosen : threeTier 0 0 ((initial db.workers db.jobs).performAll digest claimedOnce).db
        (claimSnapshot worker inventory
          (live ((initial db.workers db.jobs).performAll digest claimedOnce).db 1)) settings =
      some { kind := .batch, targetId := 101, flag := "training" } := by decide +kernel
  refine ⟨chosen, ?_⟩
  obtain ⟨assignment, after, -, committed, -⟩ := (policy_and_reservation_agree digest db.workers
    db.jobs claimedOnce settings 0 0 (fun _ => (1002, 2002)) ⟨10, 2⟩ worker inventory
    ⟨by decide +kernel, by decide +kernel, by decide +kernel, rfl, by decide +kernel,
      by decide +kernel⟩
    ⟨by decide +kernel, by decide +kernel⟩).1 _ chosen
  exact ⟨assignment, after, committed⟩

end Deployment

section

variable {settings : Settings} {timestamp : Time} {db : Db} {worker : Worker}
  {inventory : Inventory} {snapshot : Snapshot}

theorem foldl_max_le_iff {ρ : Type} (value : ρ → ℚ) (rows : List ρ) (least bound : ℚ) :
    rows.foldl (fun maximum row => max maximum (value row)) least ≤ bound ↔
      least ≤ bound ∧ ∀ row ∈ rows, value row ≤ bound := by
  induction rows generalizing least with
  | nil => simp
  | cons row rest induction =>
    rw [List.foldl_cons, induction, max_le_iff, List.forall_mem_cons, and_assoc]

def Worker.reportedVram (worker : Worker) : ℚ :=
  (worker.inventory.map Inventory.freeVramGb).getD 0

theorem maximumVram_le_iff (bound : ℚ) :
    maximumVram settings timestamp db snapshot ≤ bound ↔ snapshot.freeVram ≤ bound ∧
      ∀ worker ∈ db.workers.rows, idleCompetitor settings timestamp db worker = true →
        worker.reportedVram ≤ bound := by
  rw [maximumVram, foldl_max_le_iff]
  simp only [List.mem_filter, and_imp, Worker.reportedVram]

private theorem exists_largest (worker : Worker) (member : worker ∈ db.workers.rows)
    (idle : idleCompetitor settings timestamp db worker = true) :
    ∃ largest ∈ db.workers.rows, idleCompetitor settings timestamp db largest = true ∧
      ∀ other ∈ db.workers.rows, idleCompetitor settings timestamp db other = true →
        other.reportedVram ≤ largest.reportedVram := by
  have listed : worker ∈ db.workers.rows.filter (idleCompetitor settings timestamp db) :=
    List.mem_filter.mpr ⟨member, idle⟩
  cases found : (db.workers.rows.filter (idleCompetitor settings timestamp db)).argmax
      Worker.reportedVram with
  | none =>
    rw [List.argmax_eq_none.mp found] at listed
    cases listed
  | some largest =>
    obtain ⟨stored, competes⟩ := List.mem_filter.mp (List.argmax_mem found)
    refine ⟨largest, stored, competes, fun other other_mem other_idle => ?_⟩
    exact List.le_of_mem_argmax (List.mem_filter.mpr ⟨other_mem, other_idle⟩) found

/-- What makes a Worker compete for estimations. -/
structure Competes (settings : Settings) (timestamp : Time) (db : Db) (worker : Worker)
    (inventory : Inventory) : Prop where
  reported : worker.inventory = some inventory
  idle : live db worker.workerId = []
  quiet : inventory.localAssignments = []
  eligible : workerEligible worker timestamp settings.freshSeconds = true
  observed : |timestamp - inventory.observedAt| ≤ (settings.freshSeconds : ℚ)

theorem competes_of_idleCompetitor
    (idle : idleCompetitor settings timestamp db worker = true) :
    ∃ inventory, Competes settings timestamp db worker inventory := by
  simp only [idleCompetitor, Bool.and_eq_true, List.all_eq_true, Bool.or_eq_true, bne_iff_ne,
    Option.any_eq_true, List.isEmpty_iff, decide_eq_true_eq] at idle
  obtain ⟨⟨unheld, eligible⟩, inventory, reported, quiet, observed⟩ := idle
  refine ⟨inventory, reported, ?_, quiet, eligible, observed⟩
  refine List.filter_eq_nil_iff.mpr fun assignment stored held => ?_
  simp only [Bool.and_eq_true, beq_iff_eq, Option.isNone_iff_eq_none] at held
  rcases unheld assignment stored with other | released
  · exact other held.1
  · rw [held.2] at released
    cases released

namespace Competes

theorem reportedVram_eq (competes : Competes settings timestamp db worker inventory) :
    worker.reportedVram = inventory.freeVramGb := by
  rw [Worker.reportedVram, competes.reported]
  rfl

theorem registered (competes : Competes settings timestamp db worker inventory)
    (registered : worker.Registered) : worker.instanceId ≠ none := by
  have eligible := competes.eligible
  simp only [workerEligible, Bool.and_eq_true, beq_iff_eq] at eligible
  obtain ⟨⟨⟨⟨⟨⟨⟨⟨version, -⟩, -⟩, -⟩, -⟩, -⟩, -⟩, -⟩, -⟩ := eligible
  exact registered version

theorem admitted (competes : Competes settings timestamp db worker inventory) {request : Claim}
    (enabled : settings.admission = true) (member : worker ∈ db.workers.rows)
    (instance_eq : worker.instanceId = some request.instanceId)
    (new : previousClaim db worker.workerId request = none) :
    Admitted settings timestamp db request worker inventory := by
  refine ⟨lookup_of_mem member, new, ?_, competes.reported, ?_, ?_⟩
  · simp [admissionBlocked, enabled, instance_eq, competes.eligible, competes.idle]
  · have slots : 0 < inventory.availableSlots := by
      have eligible := competes.eligible
      simp only [workerEligible, competes.reported, Bool.and_eq_true, decide_eq_true_eq] at eligible
      exact eligible.2.2
    simp only [slotsExhausted, competes.idle, competes.quiet, List.length_nil,
      decide_eq_false_iff_not]
    omega
  · simpa [inventoryExpired] using competes.observed

end Competes

theorem threeTier_of_largest {job : Job} (waiting : job ∈ unassignedJobs db .vramEstimationPending)
    (idle : snapshot.assignments = 0) (quiet : snapshot.inventory.localAssignments = [])
    (largest : maximumVram settings timestamp db snapshot ≤ snapshot.freeVram) :
    ∃ candidate, threeTier timestamp 0 db snapshot settings = some candidate ∧
      candidate.kind = .estimation := by
  cases first : firstBy olderJob (unassignedJobs db .vramEstimationPending) with
  | none =>
    rw [firstBy_eq_none first] at waiting
    cases waiting
  | some job =>
    refine ⟨{ kind := .estimation, targetId := job.id, flag := "vram_estimation" }, ?_, rfl⟩
    simp [threeTier, chooseEstimation, idle, quiet, largest, first]

/-- The competitor with the most free VRAM is admitted and granted an estimation. -/
theorem Competes.granted_estimation (competes : Competes settings timestamp db worker inventory)
    (digest : Digest) {request : Claim} {newId : ℕ → UUID × UUID}
    (enabled : settings.admission = true) (member : worker ∈ db.workers.rows)
    (largest : ∀ other ∈ db.workers.rows, idleCompetitor settings timestamp db other = true →
      other.reportedVram ≤ worker.reportedVram)
    (waiting : unassignedJobs db .vramEstimationPending ≠ [])
    (instance_eq : worker.instanceId = some request.instanceId)
    (new : previousClaim db worker.workerId request = none) (minted : Minted db (newId 0)) :
    Admitted settings timestamp db request worker inventory ∧
      ∃ assignment after, assignment.kind = .estimation ∧
        Inserted settings digest timestamp db worker.workerId request after assignment ∧
        claim settings digest (threeTier timestamp) newId timestamp db worker.workerId request =
          .ok (envelope assignment settings timestamp, after) := by
  have admitted := competes.admitted enabled member instance_eq new
  obtain ⟨job, listed⟩ := List.exists_mem_of_ne_nil _ waiting
  obtain ⟨candidate, chosen, kind⟩ : ∃ candidate, threeTier timestamp 0 db
      (claimSnapshot worker inventory (live db worker.workerId)) settings = some candidate ∧
        candidate.kind = .estimation := by
    refine threeTier_of_largest listed (List.length_eq_zero_iff.mpr competes.idle) competes.quiet
      ((maximumVram_le_iff _).mpr ⟨le_rfl, ?_⟩)
    exact fun other stored idle => (largest other stored idle).trans_eq competes.reportedVram_eq
  obtain ⟨assignment, after, -, granted, inserted, tied⟩ := admitted.claim_of_selected digest
    minted (fun interactive => by rw [kind] at interactive; cases interactive) chosen
  refine ⟨admitted, assignment, after, ?_, inserted, granted⟩
  cases tied with
  | interactive runtime other_kind => rw [kind] at other_kind; cases other_kind
  | estimation job _ found pending target jobs => rw [Assignment.kind, target]; rfl
  | batch job other_kind => rw [kind] at other_kind; cases other_kind

end

/-- Whichever transactions have run, the estimation that all others leave to the competitor with the
most free VRAM is there for it: it has registered an instance, whose new requests pass every gate
and are granted an estimation. -/
theorem estimation_claimable {digest : Digest} {initial db : Db} (start : initial.Registered)
    (run : Run digest initial db) (settings : Settings) (timestamp : Time) (worker : Worker)
    (enabled : settings.admission = true) (member : worker ∈ db.workers.rows)
    (idle : idleCompetitor settings timestamp db worker = true)
    (largest : ∀ other ∈ db.workers.rows, idleCompetitor settings timestamp db other = true →
      other.reportedVram ≤ worker.reportedVram)
    (waiting : unassignedJobs db .vramEstimationPending ≠ []) :
    ∃ instanceId inventory, worker.instanceId = some instanceId ∧
      worker.inventory = some inventory ∧
      ∀ (requestId : UUID) (newId : ℕ → UUID × UUID),
        previousClaim db worker.workerId ⟨instanceId, requestId⟩ = none → Minted db (newId 0) →
        Admitted settings timestamp db ⟨instanceId, requestId⟩ worker inventory ∧
          ∃ assignment after, assignment.kind = .estimation ∧
            Inserted settings digest timestamp db worker.workerId ⟨instanceId, requestId⟩ after
              assignment ∧
            claim settings digest (threeTier timestamp) newId timestamp db worker.workerId
                ⟨instanceId, requestId⟩ =
              .ok (envelope assignment settings timestamp, after) := by
  have registered : db.Registered := by
    clear member idle largest waiting
    induction run with
    | refl => exact start
    | tail _ step induction =>
      obtain ⟨now, op, rfl⟩ := step
      exact (op.tendsWorkers digest now _).registered induction
  obtain ⟨inventory, competes⟩ := competes_of_idleCompetitor idle
  obtain ⟨instanceId, known⟩ :=
    Option.ne_none_iff_exists'.mp (competes.registered (registered worker member))
  refine ⟨instanceId, inventory, known, competes.reported, fun requestId newId new minted => ?_⟩
  exact competes.granted_estimation digest enabled member largest waiting known new minted

/-- An idle Worker past the gates that is not offered the estimation of an unassigned job is
exceeded by another Worker: one with strictly more free VRAM, that passes all gates at the moment of
the choice, and to which any new request of its instance grants an estimation. -/
theorem estimation_never_blocked (digest : Digest) (settings : Settings) (now timestamp : Time)
    (db : Db) (body : Claim) (worker : Worker) (inventory : Inventory)
    (gates : Admitted settings now db body worker inventory)
    (idle : live db worker.workerId = []) (quiet : inventory.localAssignments = [])
    (waiting : unassignedJobs db .vramEstimationPending ≠ [])
    (refused : ∀ candidate, threeTier timestamp 0 db
        (claimSnapshot worker inventory (live db worker.workerId)) settings = some candidate →
      candidate.kind ≠ .estimation) :
    ∃ other ∈ db.workers.rows, other.workerId ≠ worker.workerId ∧
      ∃ offered, other.inventory = some offered ∧ inventory.freeVramGb < offered.freeVramGb ∧
      (db.Registered → other.instanceId ≠ none) ∧
      ∀ (request : Claim) (newId : ℕ → UUID × UUID),
        other.instanceId = some request.instanceId →
        previousClaim db other.workerId request = none → Minted db (newId 0) →
        Admitted settings timestamp db request other offered ∧
          ∃ assignment after, assignment.kind = .estimation ∧
            Inserted settings digest timestamp db other.workerId request after assignment ∧
            claim settings digest (threeTier timestamp) newId timestamp db other.workerId request =
              .ok (envelope assignment settings timestamp, after) := by
  have exceeded : ¬ maximumVram settings timestamp db
      (claimSnapshot worker inventory (live db worker.workerId)) ≤ inventory.freeVramGb := by
    intro largest
    obtain ⟨job, listed⟩ := List.exists_mem_of_ne_nil _ waiting
    obtain ⟨candidate, chosen, kind⟩ := threeTier_of_largest listed
      (List.length_eq_zero_iff.mpr idle) quiet largest
    exact refused candidate chosen kind
  rw [maximumVram_le_iff] at exceeded
  push Not at exceeded
  obtain ⟨rival, rival_mem, rival_idle, more⟩ := exceeded le_rfl
  obtain ⟨other, member, other_idle, largest⟩ := exists_largest rival rival_mem rival_idle
  obtain ⟨offered, competes⟩ := competes_of_idleCompetitor other_idle
  have larger : inventory.freeVramGb < offered.freeVramGb :=
    competes.reportedVram_eq ▸ more.trans_le (largest rival rival_mem rival_idle)
  refine ⟨other, member, ?_, offered, competes.reported, larger, ?_, ?_⟩
  · intro same
    have found := lookup_of_mem member
    rw [same, gates.found] at found
    cases found
    have equal := gates.reported.symm.trans competes.reported
    exact larger.ne (congrArg Inventory.freeVramGb (Option.some.inj equal))
  · exact fun registered => competes.registered (registered other member)
  · intro request newId instance_eq new minted
    exact competes.granted_estimation digest gates.enabled member largest waiting instance_eq new
      minted

namespace Deployment

def larger : Worker :=
  { worker with
    workerId := 2
    instanceId := some 20
    inventory := some { inventory with freeVramGb := 40 } }

/-- Two idle Workers and a job that waits for its estimation. -/
def unestimated : Db :=
  { db with
    workers := ⟨[worker, larger], by decide⟩
    jobs := ⟨[{ job 100 with status := .vramEstimationPending }], by decide⟩ }

/-- The smaller Worker is refused the estimation that a larger one would be granted. -/
theorem larger_is_offered :
    threeTier 0 0 unestimated (claimSnapshot worker inventory (live unestimated 1)) settings =
        none ∧
      ∃ other ∈ unestimated.workers.rows, ∃ offered, other.inventory = some offered ∧
        inventory.freeVramGb < offered.freeVramGb ∧
        ∀ request newId, other.instanceId = some request.instanceId →
          previousClaim unestimated other.workerId request = none →
          Minted unestimated (newId 0) → ∃ assignment after, assignment.kind = .estimation ∧
            claim settings digest (threeTier 0) newId 0 unestimated other.workerId request =
              .ok (envelope assignment settings 0, after) := by
  have nothing : threeTier 0 0 unestimated (claimSnapshot worker inventory (live unestimated 1))
      settings = none := by decide +kernel
  refine ⟨nothing, ?_⟩
  obtain ⟨other, member, -, offered, reported, more, -, granted⟩ := estimation_never_blocked digest
    settings 0 0 unestimated ⟨10, 1⟩ worker inventory
    ⟨by decide +kernel, by decide +kernel, by decide +kernel, rfl, by decide +kernel,
      by decide +kernel⟩
    (by decide +kernel) rfl (by decide +kernel) fun candidate chosen => by
      rw [show worker.workerId = 1 from rfl, nothing] at chosen
      cases chosen
  refine ⟨other, member, offered, reported, more, fun request newId instance_eq new minted => ?_⟩
  obtain ⟨-, assignment, after, kind, -, committed⟩ := granted request newId instance_eq new minted
  exact ⟨assignment, after, kind, committed⟩

/-- After a pass of `expire`, a request of the larger Worker is granted the estimation. -/
theorem larger_claims :
    ∃ assignment after, assignment.kind = .estimation ∧
      claim settings digest (threeTier 0) (fun _ => (1001, 2001)) 0 (expire 0 unestimated) 2
        ⟨20, 1⟩ = .ok (envelope assignment settings 0, after) := by
  have known : ∀ other ∈ unestimated.workers.rows, other.instanceId ≠ none := by decide +kernel
  have run : Run digest unestimated (expire 0 unestimated) := .single ⟨0, .expire, rfl⟩
  obtain ⟨instanceId, inventory, registered, -, granted⟩ := estimation_claimable
    (fun other stored _ => known other stored) run settings 0 larger rfl (by decide +kernel)
    (by decide +kernel) (by decide +kernel) (by decide +kernel)
  cases registered
  obtain ⟨-, assignment, after, kind, -, committed⟩ :=
    granted 1 (fun _ => (1001, 2001)) (by decide +kernel) ⟨by decide +kernel, by decide +kernel⟩
  exact ⟨assignment, after, kind, committed⟩

end Deployment

end TrainingScheduler
