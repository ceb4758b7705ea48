import Mathlib.Algebra.Order.Ring.Rat
import TrainingScheduler.Scheduler.Schema

/-!
# Placement predicates

The pure predicates of `scheduling/policy.py` that decide whether a Worker may receive work:
`worker_eligible`, `interactive_ineligibility` and `compatible_gpu`, together with the selection
interface a replaceable policy implements and its implementation `ThreeTierPolicy`.
-/

namespace TrainingScheduler

/-- What a policy sees of the requesting Worker. -/
structure Snapshot where
  workerId : UUID
  gpuType : String
  freeVram : ℚ
  assignments : Nat
  inventory : Inventory
  deriving DecidableEq, Repr

structure Candidate where
  kind : Kind
  targetId : UUID
  flag : String := ""
  gpuUuid : Option String := none
  deriving DecidableEq, Repr

/-- A replaceable policy: the choice made in each of the three iterations of a claim. -/
abbrev Choose := Nat → Db → Snapshot → Settings → Option Candidate

def workerEligible (worker : Worker) (timestamp : Time) (fresh : Nat) : Bool :=
  worker.protocolVersion == some 1 &&
    (match worker.authenticatedHeartbeatAt with
      | none => false
      | some heartbeatAt => decide (timestamp - fresh < heartbeatAt)) &&
    !worker.executionPaused && !worker.executionDraining && !worker.adminRestricted &&
    !worker.executionReconciling && !(worker.isTesting.getD false) &&
    (worker.executionMode == .available || worker.executionMode == .batchActive) &&
    (match worker.inventory with
      | none => false
      | some inventory => inventory.complete && decide (0 < inventory.availableSlots))

def modelMatches (gpu : GPU) (spec : LaunchSpec) : Bool :=
  spec.gpuModels.isEmpty || spec.gpuModels.contains gpu.model

/-- The GPU meets the identity, memory and model requirements of a launch specification. -/
def suitableGpu (spec : LaunchSpec) (gpu : GPU) : Bool :=
  gpu.uuid.startsWith "GPU-" && decide (spec.minimumVramGb ≤ gpu.memoryGb) && modelMatches gpu spec

def developerIneligibility (inventory : Inventory) (spec : LaunchSpec) : Option String :=
  if !spec.developerMode then none
  else if !inventory.developerModeCapable then some "developer_mode_unavailable"
  else if spec.allowInternet && !inventory.internetEgressCapable then
    some "internet_egress_unavailable"
  else none

/-- `gpu_busy`, with the sorted distinct process identifiers when there are any. -/
def gpuBusyReason (gpus : List GPU) : String :=
  let pids := ((gpus.flatMap GPU.processes).dedup).mergeSort
    (fun left right => decide (left ≤ right))
  "gpu_busy" ++
    if pids.isEmpty then "" else ":pids=" ++ ",".intercalate (pids.map toString)

/-- Include a reason exactly when its condition holds. -/
def reasonWhen (condition : Bool) (reason : String) : List String :=
  if condition then [reason] else []

/-- The reasons collected by `interactive_ineligibility`, in order. -/
def interactiveReasons (snapshot : Snapshot) (spec : LaunchSpec) : List String :=
  let inv := snapshot.inventory
  reasonWhen (snapshot.assignments != 0) "scheduler_assignments_active" ++
  reasonWhen (!inv.localAssignments.isEmpty) "worker_assignments_active" ++
  reasonWhen (inv.mode != .available) ("worker_mode_" ++ inv.mode.lower) ++
  reasonWhen (!inv.interactiveReady) "interactive_preflight_not_ready" ++
  reasonWhen (inv.platform != spec.platform) "platform_mismatch" ++
  reasonWhen (!inv.nvidiaRuntime) "nvidia_runtime_unavailable" ++
  reasonWhen (!inv.quotaSupported) "disk_quota_unavailable" ++
  reasonWhen (decide (inv.freeRamGb < spec.memoryGb + 1)) "insufficient_ram" ++
  reasonWhen (decide ((inv.cpuCores : ℚ) < spec.cpu + 1)) "insufficient_cpu" ++
  reasonWhen (decide (inv.freeDiskGb < (spec.diskGb : ℚ) + spec.pullHeadroomGb))
    "insufficient_disk" ++
  (if inv.gpus.isEmpty then ["gpu_inventory_missing"]
    else reasonWhen (inv.gpus.any fun gpu => gpu.busy || !gpu.processes.isEmpty)
      (gpuBusyReason inv.gpus)) ++
  reasonWhen (!inv.gpus.isEmpty && !inv.gpus.any (suitableGpu spec)) "no_compatible_gpu" ++
  (developerIneligibility inv spec).toList

/-- Join collected reasons; no reason is `None`. -/
def joinReasons (reasons : List String) : Option String :=
  if reasons.isEmpty then none else some (",".intercalate reasons)

/-- A stable operator-facing reason when a Worker cannot host a runtime. -/
def interactiveIneligibility (snapshot : Snapshot) (spec : LaunchSpec) : Option String :=
  joinReasons (interactiveReasons snapshot spec)

def compatibleGpu (snapshot : Snapshot) (spec : LaunchSpec) : Option String :=
  if (interactiveIneligibility snapshot spec).isSome then none
  else (snapshot.inventory.gpus.find? (suitableGpu spec)).map GPU.uuid

/-- The first row of a query under a strict order. -/
def firstBy {ρ : Type} (precedes : ρ → ρ → Bool) (rows : List ρ) : Option ρ :=
  rows.foldl (fun best row => best.elim (some row) fun current =>
    if precedes row current then some row else some current) none

/-- `order_by(created_at, id)`. -/
def olderJob (left right : Job) : Bool :=
  decide (left.createdAt < right.createdAt) ||
    left.createdAt == right.createdAt && decide (left.id < right.id)

/-- `order_by(vram_required.desc().nullslast(), created_at, id)`. -/
def largerJob (left right : Job) : Bool :=
  match left.vramRequired, right.vramRequired with
  | some leftVram, some rightVram =>
    decide (rightVram < leftVram) || leftVram == rightVram && olderJob left right
  | some _, none => true
  | none, some _ => false
  | none, none => olderJob left right

def olderRuntime (left right : Runtime) : Bool :=
  decide (left.createdAt < right.createdAt) ||
    left.createdAt == right.createdAt && decide (left.id < right.id)

variable (settings : Settings) (timestamp : Time) (db : Db)

/-- The jobs of a status that no unreleased assignment holds. -/
def unassignedJobs (status : JobStatus) : List Job :=
  db.jobs.rows.filter fun job => job.status == status &&
    !db.assignments.rows.any fun assignment =>
      assignment.jobId == some job.id && assignment.releasedAt.isNone

/-- The Worker is idle and eligible, so that its free VRAM competes for estimations.  The conditions
of the Worker query are among those of `workerEligible`. -/
def idleCompetitor (worker : Worker) : Bool :=
  (db.assignments.rows.all fun assignment =>
      assignment.workerId != worker.workerId || assignment.releasedAt.isSome) &&
    workerEligible worker timestamp settings.freshSeconds &&
    worker.inventory.any fun inventory =>
      inventory.localAssignments.isEmpty &&
        decide (|timestamp - inventory.observedAt| ≤ (settings.freshSeconds : ℚ))

/-- The largest free VRAM among the requesting Worker and the idle ones. -/
def maximumVram (snapshot : Snapshot) : ℚ :=
  (db.workers.rows.filter (idleCompetitor settings timestamp db)).foldl
    (fun maximum worker => max maximum ((worker.inventory.map Inventory.freeVramGb).getD 0))
    snapshot.freeVram

/-- An estimation for an idle Worker that no idle Worker exceeds. -/
def chooseEstimation (snapshot : Snapshot) : Option Candidate :=
  if snapshot.assignments = 0 ∧ snapshot.inventory.localAssignments = [] ∧
      maximumVram settings timestamp db snapshot ≤ snapshot.freeVram then
    (firstBy olderJob (unassignedJobs db .vramEstimationPending)).map fun job =>
      { kind := .estimation, targetId := job.id, flag := "vram_estimation" }
  else none

/-- The oldest queued runtime that fits an idle Worker. -/
def chooseRuntime (snapshot : Snapshot) : Option Candidate :=
  if settings.interactive ∧ snapshot.assignments = 0 then
    (firstBy olderRuntime (db.runtimes.rows.filter fun runtime =>
      runtime.state == .queued && runtime.desiredState == .running &&
        (compatibleGpu snapshot runtime.launchSpec).isSome)).map fun runtime =>
      { kind := .interactive
        targetId := runtime.id
        gpuUuid := compatibleGpu snapshot runtime.launchSpec }
  else none

/-- A job of the status that fits into the free VRAM. -/
def chooseBatch (status : JobStatus) (flag : String) (precedes : Job → Job → Bool) (db : Db)
    (snapshot : Snapshot) : Option Candidate :=
  (firstBy precedes ((unassignedJobs db status).filter fun job =>
    job.vramRequired.all fun required => decide (required + 1 ≤ snapshot.freeVram))).map fun job =>
      { kind := .batch, targetId := job.id, flag }

/-- `ThreeTierPolicy.choose`: estimations, then runtimes, then retries and training jobs. -/
def threeTier : Choose := fun _ db snapshot settings =>
  chooseEstimation settings timestamp db snapshot <|>
    chooseRuntime settings db snapshot <|>
    chooseBatch .retryNeeded "retry" olderJob db snapshot <|>
    chooseBatch .runnable "training" largerJob db snapshot

section

variable {ρ : Type} {precedes : ρ → ρ → Bool} {rows : List ρ} {row other : ρ}

/-- The best row is one of those seen, and in a preorder that the order decides before them all. -/
theorem foldl_first (order : ρ → ρ → Prop) (trans : ∀ {x y z}, order x y → order y z → order x z)
    (taken : ∀ {x y}, precedes x y = true → order x y)
    (kept : ∀ {x y}, precedes x y = false → order y x) (best : ρ) :
    ∃ row ∈ best :: rows, (∀ other ∈ best :: rows, other = row ∨ order row other) ∧
      rows.foldl (fun best row => best.elim (some row) fun current =>
        if precedes row current then some row else some current) (some best) = some row := by
  induction rows generalizing best with
  | nil => exact ⟨best, by simp⟩
  | cons head rows induction =>
    rw [List.foldl_cons, Option.elim_some]
    cases before : precedes head best with
    | true =>
      obtain ⟨row, member, first, result⟩ := induction head
      refine ⟨row, List.mem_cons_of_mem _ member, fun other other_mem => ?_, result⟩
      rcases List.mem_cons.mp other_mem with rfl | later
      · rcases first head List.mem_cons_self with rfl | further
        · exact .inr (taken before)
        · exact .inr (trans further (taken before))
      · exact first other later
    | false =>
      obtain ⟨row, member, first, result⟩ := induction best
      refine ⟨row, ?_, fun other other_mem => ?_, result⟩
      · rcases List.mem_cons.mp member with rfl | later
        · exact List.mem_cons_self
        · exact List.mem_cons_of_mem _ (List.mem_cons_of_mem _ later)
      · rcases List.mem_cons.mp other_mem with rfl | later
        · exact first other List.mem_cons_self
        · rcases List.mem_cons.mp later with rfl | later
          · rcases first best List.mem_cons_self with rfl | further
            · exact .inr (kept before)
            · exact .inr (trans further (kept before))
          · exact first other (List.mem_cons_of_mem _ later)

theorem firstBy_mem (first : firstBy precedes rows = some row) : row ∈ rows := by
  cases rows with
  | nil => cases first
  | cons head rows =>
    obtain ⟨found, member, -, result⟩ := foldl_first (fun _ _ => True) (fun _ _ => trivial)
      (fun _ => trivial) (fun _ => trivial) head
    cases result.symm.trans first
    exact member

/-- The first row of a query comes before every other in each preorder the order decides. -/
theorem firstBy_le (order : ρ → ρ → Prop) (trans : ∀ {x y z}, order x y → order y z → order x z)
    (taken : ∀ {x y}, precedes x y = true → order x y)
    (kept : ∀ {x y}, precedes x y = false → order y x) (first : firstBy precedes rows = some row)
    (member : other ∈ rows) : other = row ∨ order row other := by
  cases rows with
  | nil => cases first
  | cons head rows =>
    obtain ⟨found, -, before, result⟩ := foldl_first order trans taken kept head
    cases result.symm.trans first
    exact before other member

theorem firstBy_eq_none (none : firstBy precedes rows = none) : rows = [] := by
  cases rows with
  | nil => rfl
  | cons head rows =>
    obtain ⟨found, -, -, result⟩ := foldl_first (fun _ _ => True) (fun _ _ => trivial)
      (fun _ => trivial) (fun _ => trivial) head
    cases result.symm.trans none

end

@[simp]
theorem reasonWhen_eq_nil_iff {condition : Bool} {reason : String} :
    reasonWhen condition reason = [] ↔ condition = false := by
  cases condition <;> simp [reasonWhen]

@[simp]
theorem joinReasons_eq_none_iff {reasons : List String} : joinReasons reasons = none ↔ reasons =
    [] := by
  simp [joinReasons]

variable {snapshot : Snapshot} {spec : LaunchSpec}

theorem idle_of_eligible (eligible : interactiveIneligibility snapshot spec = none) :
    snapshot.assignments = 0 ∧ snapshot.inventory.localAssignments = [] := by
  simp only [interactiveIneligibility, joinReasons_eq_none_iff, interactiveReasons,
    List.append_eq_nil_iff, reasonWhen_eq_nil_iff] at eligible
  obtain ⟨⟨⟨⟨⟨⟨⟨⟨⟨⟨⟨⟨assignments, locals⟩, -⟩, -⟩, -⟩, -⟩, -⟩, -⟩, -⟩, -⟩, -⟩, -⟩, -⟩ := eligible
  exact ⟨by simpa using assignments, by simpa using locals⟩

theorem compatibleGpu_eq_some {uuid : String} (found : compatibleGpu snapshot spec = some uuid) :
    interactiveIneligibility snapshot spec = none ∧
      ∃ gpu ∈ snapshot.inventory.gpus, suitableGpu spec gpu = true ∧ gpu.uuid = uuid := by
  unfold compatibleGpu at found
  split at found
  · cases found
  · rename_i eligible
    obtain ⟨gpu, first, rfl⟩ := Option.map_eq_some_iff.mp found
    exact ⟨by simpa using eligible, gpu, List.mem_of_find?_eq_some first,
      List.find?_some first, rfl⟩

theorem compatibleGpu_isSome_of_eligible
    (eligible : interactiveIneligibility snapshot spec = none) :
    (compatibleGpu snapshot spec).isSome := by
  have reasons := eligible
  simp only [interactiveIneligibility, joinReasons_eq_none_iff, interactiveReasons,
    List.append_eq_nil_iff, reasonWhen_eq_nil_iff] at reasons
  obtain ⟨⟨⟨-, missing⟩, incompatible⟩, -⟩ := reasons
  have nonempty : snapshot.inventory.gpus.isEmpty = false := by
    cases gpus : snapshot.inventory.gpus with
    | nil => simp [gpus] at missing
    | cons gpu rest => rfl
  have suitable : snapshot.inventory.gpus.any (suitableGpu spec) = true := by
    simpa [nonempty] using incompatible
  simpa [compatibleGpu, eligible] using suitable

end TrainingScheduler
