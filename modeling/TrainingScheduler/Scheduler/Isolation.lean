import TrainingScheduler.Scheduler.Coherence
import TrainingScheduler.Scheduler.Reports

/-!
# Isolation of exclusive work

The reservation layer revalidates whatever a policy selects.  Estimation runs alone, nothing joins
an exclusive assignment, and an interactive assignment is placed alone on an eligible Worker with
one of its compatible GPUs, as long as the policy does not select an ineligible Worker for a runtime
without naming a GPU.
-/

namespace TrainingScheduler

/-- What a new assignment may rely on about its Worker at the moment of the grant. -/
structure IsolatedGrant (before : Db) (assignment : Assignment) (worker : Worker)
    (inventory : Inventory) : Prop where
  found : before.workers.lookup assignment.workerId = some worker
  reported : worker.inventory = some inventory
  interactive : assignment.kind = .interactive →
    live before assignment.workerId = [] ∧
      ∃ runtime, assignment.target = .interactive runtime.id runtime.generation ∧
        before.runtimes.lookup runtime.id = some runtime ∧
        interactiveIneligibility
          (claimSnapshot worker inventory (live before assignment.workerId)) runtime.launchSpec =
            none ∧
        ∃ gpu ∈ inventory.gpus, suitableGpu runtime.launchSpec gpu = true ∧
          assignment.gpuUuid = some gpu.uuid
  estimation : assignment.kind = .estimation →
    live before assignment.workerId = [] ∧ inventory.localAssignments = []
  shared : ∀ other ∈ live before assignment.workerId, other.kind = .batch

/-- The policy selects a runtime without a GPU only for a Worker that is eligible for it. -/
def NamesGpu (db : Db) : Op → Prop
  | .claim settings choose _ workerId _ =>
    ∀ worker inventory iteration candidate runtime,
      db.workers.lookup workerId = some worker → worker.inventory = some inventory →
      choose iteration db (claimSnapshot worker inventory (live db workerId)) settings =
        some candidate →
      candidate.kind = .interactive → candidate.gpuUuid = none →
      db.runtimes.lookup candidate.targetId = some runtime →
      interactiveIneligibility (claimSnapshot worker inventory (live db workerId))
        runtime.launchSpec = none
  | _ => True

section

variable {settings : Settings} {digest : Digest} {choose : Choose} {now : Time} {before after : Db}
  {workerId : UUID} {body : Claim} {assignment : Assignment} {placement : Placement}

theorem Granted.kind_of_live
    (granted : Granted settings digest choose now before workerId body after assignment placement)
    {other : Assignment} (member : other ∈ live before workerId) : other.kind = .batch := by
  have admitted := granted.admitted
  simp only [admissionBlocked, Bool.or_eq_false_iff, List.any_eq_false] at admitted
  have open_ : barring other = false := by simpa using admitted.2 other member
  simp only [barring, Bool.or_eq_false_iff, beq_eq_false_iff_ne] at open_
  obtain ⟨⟨⟨shared, kind⟩, -⟩, -⟩ := open_
  cases target : other.target with
  | estimation jobId => exact absurd (by rw [Assignment.kind, target]; rfl) kind
  | batch jobId => rw [Assignment.kind, target]; rfl
  | interactive runtimeId generation =>
    rw [Assignment.exclusive, target] at shared
    cases shared

theorem Reserved.kind_eq {worker : Worker} {snapshot : Snapshot} {candidate : Candidate}
    (reserved : Reserved settings now before worker snapshot candidate assignment after) :
    assignment.kind = candidate.kind := by
  cases reserved with
  | interactive runtime kind _ _ _ _ target _ _ _ => rw [Assignment.kind, target, kind]; rfl
  | estimation job kind _ _ target _ => rw [Assignment.kind, target, kind]; rfl
  | batch job kind _ _ _ target _ _ => rw [Assignment.kind, target, kind]; rfl

theorem Granted.isolated_grant {newId : Nat → UUID × UUID}
    (granted : Granted settings digest choose now before workerId body after assignment placement)
    (named : NamesGpu before (.claim settings choose newId workerId body)) :
    IsolatedGrant before assignment placement.worker placement.inventory := by
  have worker_eq := granted.inserted.worker
  have reserved := granted.target
  have snapshot_eq : placement.snapshot before =
      claimSnapshot placement.worker placement.inventory (live before workerId) := by
    rw [Placement.snapshot, granted.workerId_eq]
  refine ⟨worker_eq ▸ granted.found, granted.reported, ?_, ?_, ?_⟩
  · intro interactive
    rw [worker_eq]
    cases reserved with
    | estimation job kind _ _ target _ =>
      rw [Assignment.kind, target] at interactive
      cases interactive
    | batch job kind _ _ _ target _ _ =>
      rw [Assignment.kind, target] at interactive
      cases interactive
    | interactive runtime kind found queued running gpu target gpu_eq payload jobs =>
      rw [snapshot_eq] at gpu
      cases selected : placement.candidate.gpuUuid with
      | none =>
        have chosen := granted.chosen
        rw [snapshot_eq] at chosen
        have eligible := named placement.worker placement.inventory placement.iteration
          placement.candidate runtime granted.found granted.reported chosen kind selected found
        have some_gpu := compatibleGpu_isSome_of_eligible eligible
        rw [gpu, selected] at some_gpu
        cases some_gpu
      | some uuid =>
        rw [selected] at gpu
        obtain ⟨eligible, device, device_mem, suitable, uuid_eq⟩ := compatibleGpu_eq_some gpu
        refine ⟨?_, runtime, target, Table.lookup_of_mem (Table.mem_of_lookup found), eligible,
          device, device_mem, suitable, ?_⟩
        · exact List.length_eq_zero_iff.mp (idle_of_eligible eligible).1
        · rw [gpu_eq, selected, uuid_eq]
  · intro estimation
    rw [worker_eq]
    exact granted.isolated (reserved.kind_eq.symm.trans estimation)
  · intro other member
    rw [worker_eq] at member
    exact granted.kind_of_live member

end

/-- An open step whose policy names a GPU for every runtime it selects on an ineligible Worker. -/
inductive NamedStep (digest : Digest) (before : Db) : Db → Prop where
  | op (now : Time) (op : Op) (named : NamesGpu before op) :
      NamedStep digest before (op.apply digest now before)
  | outside {after : Db} (assignments : after.assignments = before.assignments)
      (workers : KeepsWorkers (fun _ => False) before after) : NamedStep digest before after

/-- An interactive or estimation assignment is the only live assignment of its Worker. -/
def ExclusiveAlone (db : Db) : Prop :=
  ∀ workerId, ∀ assignment ∈ live db workerId, assignment.kind ≠ .batch →
    ∀ other ∈ live db workerId, other = assignment

theorem NamedStep.rows {digest : Digest} {before after : Db}
    (step : NamedStep digest before after) :
      (∀ row ∈ after.assignments.rows, ∃ old ∈ before.assignments.rows,
      row.toGrant = old.toGrant ∧ (row.Unreleased → old.Unreleased)) ∨
    ∃ assignment worker inventory,
      after.assignments.rows = before.assignments.rows ++ [assignment] ∧
        IsolatedGrant before assignment worker inventory := by
  cases step with
  | outside assignments _ =>
    exact .inl fun row member => ⟨row, assignments ▸ member, rfl, id⟩
  | op now op named =>
    cases Op.transition digest now before op.leases_lease with
    | effects effects =>
      refine .inl fun row member => ?_
      obtain ⟨old, old_mem, evolves⟩ := effects.evolves.exists_before member
      exact ⟨old, old_mem, evolves.grant, evolves.unreleased_of_after⟩
    | granted settings choose newId workerId body assignment placement claimed granted =>
      subst claimed
      exact .inr ⟨assignment, placement.worker, placement.inventory, granted.inserted.rows,
        granted.isolated_grant named⟩

theorem ExclusiveAlone.of_namedStep {digest : Digest} {before after : Db}
    (alone : ExclusiveAlone before) (step : NamedStep digest before after) :
    ExclusiveAlone after := by
  intro workerId assignment member kind other other_mem
  obtain ⟨stored, worker, unreleased⟩ := mem_live.mp member
  obtain ⟨other_stored, other_worker, other_unreleased⟩ := mem_live.mp other_mem
  rcases step.rows with grants | ⟨granted, worker_row, inventory, rows, isolated⟩
  · obtain ⟨old, old_mem, grant, live_old⟩ := grants assignment stored
    obtain ⟨old', old_mem', grant', live_old'⟩ := grants other other_stored
    have same : old' = old := by
      refine alone workerId old (mem_live.mpr ⟨old_mem, ?_, live_old unreleased⟩) ?_ old'
        (mem_live.mpr ⟨old_mem', ?_, live_old' other_unreleased⟩)
      · exact (congrArg Grant.workerId grant).symm.trans worker
      · rwa [kind_eq_of_target_eq (congrArg Grant.target grant.symm)]
      · exact (congrArg Grant.workerId grant').symm.trans other_worker
    apply after.assignments.eq_of_key_eq other_stored stored
    exact congrArg Grant.id (grant'.trans (same ▸ grant.symm))
  · rw [rows, List.mem_append, List.mem_singleton] at stored other_stored
    have unshared {row : Assignment} (row_mem : row ∈ before.assignments.rows)
        (row_worker : row.workerId = granted.workerId) (row_unreleased : row.Unreleased) :
        row.kind = .batch ∧ granted.kind = .batch := by
      have row_live := mem_live.mpr ⟨row_mem, row_worker, row_unreleased⟩
      refine ⟨isolated.shared row row_live, ?_⟩
      cases shape : granted.kind with
      | batch => rfl
      | estimation =>
        rw [(isolated.estimation shape).1] at row_live
        cases row_live
      | interactive =>
        rw [(isolated.interactive shape).1] at row_live
        cases row_live
    rcases stored with old | rfl <;> rcases other_stored with other_old | rfl
    · exact alone workerId assignment (mem_live.mpr ⟨old, worker, unreleased⟩) kind other
        (mem_live.mpr ⟨other_old, other_worker, other_unreleased⟩)
    · exact absurd (unshared old (worker.trans other_worker.symm) unreleased).1 kind
    · exact absurd (unshared other_old (other_worker.trans worker.symm) other_unreleased).2 kind
    · rfl

/-- Isolation for every policy.  Along every run whose policies name a GPU whenever they select an
ineligible Worker for a runtime, each new assignment is isolated at its grant, and an interactive or
estimation assignment stays alone on its Worker. -/
theorem named_run_isolated {digest : Digest} {initial db : Db}
    (empty : initial.assignments.rows = [])
    (run : Relation.ReflTransGen (NamedStep digest) initial db) :
    ExclusiveAlone db ∧
      ∀ after, NamedStep digest db after → ∀ assignment ∈ after.assignments.rows,
        (∀ old ∈ db.assignments.rows, old.id ≠ assignment.id) →
        ∃ worker inventory, IsolatedGrant db assignment worker inventory := by
  constructor
  · induction run with
    | refl =>
      intro workerId assignment member
      simp [live, empty] at member
    | tail _ step induction => exact induction.of_namedStep step
  · intro after step assignment member fresh
    rcases step.rows with grants | ⟨granted, worker, inventory, rows, isolated⟩
    · obtain ⟨old, old_mem, grant, -⟩ := grants assignment member
      exact absurd (congrArg Grant.id grant).symm (fresh old old_mem)
    · rw [rows, List.mem_append, List.mem_singleton] at member
      rcases member with old | rfl
      · exact absurd rfl (fresh assignment old)
      · exact ⟨worker, inventory, isolated⟩

namespace Deployment

def launchSpec : LaunchSpec where
  version := "1"
  platform := .linuxAmd64
  cpu := 4
  memoryGb := 16
  diskGb := 64
  pullHeadroomGb := 16
  pids := 512
  minimumVramGb := 8
  gpuModels := []
  allowRoot := false
  allowInternet := false
  developerMode := false
  sshCapable := false

def studio : Db :=
  { db with
    runtimes := ⟨[{ id := 200, workspaceId := 300, ownerUserId := 400, revisionId := 500
                    imageDigestRef := "image", generation := 1, launchSpec, createdAt := 0 }],
      by decide⟩ }

/-- A policy that always selects the queued runtime with one choice of GPU. -/
def runtimeOnly (gpuUuid : Option String) : Choose :=
  fun _ _ _ _ => some { kind := .interactive, targetId := 200, gpuUuid }

def claimRuntime (gpuUuid : Option String) : Op :=
  .claim settings (runtimeOnly gpuUuid) (fun _ => (1002, 2002)) 1 ⟨10, 2⟩

/-- A batch job runs on the Worker that is selected for the runtime without a GPU. -/
def crowded : Db :=
  (claimRuntime none).apply digest 2 ((claimBatch 1 100).apply digest 1 studio)

/-- `compatible_gpu` is `None` for an ineligible Worker, which equals the candidate's missing GPU:
the interactive assignment is created beside the batch assignment, without a GPU. -/
theorem crowded_not_isolated :
    Run digest studio crowded ∧ studio.assignments.rows = [] ∧
      ∃ assignment ∈ live crowded 1, ∃ other ∈ live crowded 1,
        assignment.kind = .interactive ∧ assignment.gpuUuid = none ∧ other.kind = .batch := by
  refine ⟨.tail (.single ⟨1, claimBatch 1 100, rfl⟩) ⟨2, claimRuntime none, rfl⟩, rfl, ?_⟩
  decide +kernel

/-- A candidate with a GPU is placed alone on the eligible Worker. -/
theorem named_studio_isolated :
    ∃ assignment ∈ ((claimRuntime (some "GPU-0")).apply digest 1 studio).assignments.rows,
      assignment.kind = .interactive ∧
        ∃ worker inventory, IsolatedGrant studio assignment worker inventory := by
  obtain ⟨assignment, member, kind⟩ :
      ∃ assignment ∈ ((claimRuntime (some "GPU-0")).apply digest 1 studio).assignments.rows,
        assignment.kind = .interactive := by
    decide +kernel
  have run : Relation.ReflTransGen (NamedStep digest) studio studio := .refl
  obtain ⟨-, isolated⟩ := named_run_isolated rfl run
  have names : NamesGpu studio (claimRuntime (some "GPU-0")) :=
    fun _ _ _ _ _ _ _ chosen _ missing => by cases chosen; cases missing
  exact ⟨assignment, member, kind, isolated _ (.op 1 _ names) assignment member
    (fun old absent => by cases absent)⟩

end Deployment

end TrainingScheduler
