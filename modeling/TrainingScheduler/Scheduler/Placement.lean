import Mathlib
import TrainingScheduler.Scheduler.Policy

/-!
# Capability and availability

`capability_ineligibility` and `availability_ineligibility` of `scheduling/policy.py` split the
conditions of `interactive_ineligibility` into what a Worker can ever host and what it can host now.
-/

namespace TrainingScheduler

variable (inventory : Inventory) (snapshot : Snapshot) (spec : LaunchSpec)

/-- The RAM that a capability check counts: the total where it is reported. -/
def capableRam : ℚ := inventory.totalRam.getD inventory.freeRamGb

def capableDisk : ℚ := inventory.totalDisk.getD inventory.freeDiskGb

def GPU.idle (gpu : GPU) : Bool := !gpu.busy && gpu.processes.isEmpty

/-- The reasons collected by `capability_ineligibility`, in order. -/
def capabilityReasons : List String :=
  let inv := snapshot.inventory
  reasonWhen (inv.platform != spec.platform) "platform_mismatch" ++
  reasonWhen (!inv.nvidiaRuntime) "nvidia_runtime_unavailable" ++
  reasonWhen (!inv.quotaSupported) "disk_quota_unavailable" ++
  reasonWhen (decide ((inv.cpuCores : ℚ) < spec.cpu + 1)) "insufficient_cpu" ++
  reasonWhen (decide (capableRam inv < spec.memoryGb + 1)) "insufficient_ram" ++
  reasonWhen (decide (capableDisk inv < (spec.diskGb : ℚ) + spec.pullHeadroomGb))
    "insufficient_disk" ++
  (if inv.gpus.isEmpty then ["gpu_inventory_missing"]
    else reasonWhen (!inv.gpus.any (suitableGpu spec)) "no_compatible_gpu") ++
  (developerIneligibility inv spec).toList

/-- Total hardware: whether the Worker can ever satisfy the request. -/
def capabilityIneligibility : Option String :=
  joinReasons (capabilityReasons snapshot spec)

/-- The reasons collected by `availability_ineligibility`, in order. -/
def availabilityReasons : List String :=
  let inv := snapshot.inventory
  reasonWhen (snapshot.assignments != 0) "scheduler_assignments_active" ++
  reasonWhen (!inv.localAssignments.isEmpty) "worker_assignments_active" ++
  reasonWhen (inv.mode != .available) ("worker_mode_" ++ inv.mode.lower) ++
  reasonWhen (!inv.interactiveReady) "interactive_preflight_not_ready" ++
  reasonWhen (decide (inv.freeRamGb < spec.memoryGb + 1)) "insufficient_ram" ++
  reasonWhen (decide ((inv.cpuCores : ℚ) < spec.cpu + 1)) "insufficient_cpu" ++
  reasonWhen (decide (inv.freeDiskGb < (spec.diskGb : ℚ) + spec.pullHeadroomGb))
    "insufficient_disk" ++
  (if inv.gpus.isEmpty then ["gpu_inventory_missing"]
    else reasonWhen (inv.gpus.any fun gpu => gpu.busy || !gpu.processes.isEmpty)
      (gpuBusyReason inv.gpus)) ++
  reasonWhen (!inv.gpus.isEmpty && !inv.gpus.any fun gpu => suitableGpu spec gpu && gpu.idle)
    "no_compatible_gpu" ++
  (developerIneligibility inv spec).toList

/-- A moment: whether the Worker is free for interactive work. -/
def availabilityIneligibility : Option String :=
  joinReasons (availabilityReasons snapshot spec)

/-- What a Worker has whatever it runs. -/
structure Hardware (ram disk : ℚ) : Prop where
  platform : inventory.platform = spec.platform
  nvidia : inventory.nvidiaRuntime = true
  quota : inventory.quotaSupported = true
  ram : spec.memoryGb + 1 ≤ ram
  cpu : spec.cpu + 1 ≤ inventory.cpuCores
  disk : (spec.diskGb : ℚ) + spec.pullHeadroomGb ≤ disk
  suitable : ∃ gpu ∈ inventory.gpus, suitableGpu spec gpu = true
  developer : developerIneligibility inventory spec = none

/-- Nothing else runs on the Worker. -/
structure Idle : Prop where
  assignments : snapshot.assignments = 0
  locals : snapshot.inventory.localAssignments = []
  mode : snapshot.inventory.mode = .available
  ready : snapshot.inventory.interactiveReady = true
  gpus : ∀ gpu ∈ snapshot.inventory.gpus, gpu.idle = true

section

variable {snapshot : Snapshot} {spec : LaunchSpec} {gpus : List GPU}

theorem ifEmpty_eq_nil_iff {missing : String} {reasons : List String} :
    (if gpus.isEmpty then [missing] else reasons) = [] ↔ gpus ≠ [] ∧ reasons = [] := by
  cases gpus <;> simp

theorem any_busy_eq_false_iff :
    gpus.any (fun gpu => gpu.busy || !gpu.processes.isEmpty) = false ↔
      ∀ gpu ∈ gpus, gpu.idle = true := by
  simp only [List.any_eq_false, Bool.not_eq_true, Bool.or_eq_false_iff, Bool.not_eq_false',
    GPU.idle, Bool.and_eq_true, Bool.not_eq_true']

theorem capabilityIneligibility_eq_none_iff :
    capabilityIneligibility snapshot spec = none ↔
      Hardware snapshot.inventory spec (capableRam snapshot.inventory)
        (capableDisk snapshot.inventory) := by
  simp only [capabilityIneligibility, joinReasons_eq_none_iff, capabilityReasons,
    List.append_eq_nil_iff, reasonWhen_eq_nil_iff, ifEmpty_eq_nil_iff, bne_eq_false_iff_eq,
    Bool.not_eq_false', decide_eq_false_iff_not, not_lt, List.any_eq_true,
    Option.toList_eq_nil_iff]
  constructor
  · rintro ⟨⟨⟨⟨⟨⟨⟨platform, nvidia⟩, quota⟩, cpu⟩, ram⟩, disk⟩, -, suitable⟩, developer⟩
    exact ⟨platform, nvidia, quota, ram, cpu, disk, suitable, developer⟩
  · rintro ⟨platform, nvidia, quota, ram, cpu, disk, suitable, developer⟩
    obtain ⟨gpu, member, -⟩ := id suitable
    exact ⟨⟨⟨⟨⟨⟨⟨platform, nvidia⟩, quota⟩, cpu⟩, ram⟩, disk⟩, List.ne_nil_of_mem member,
      suitable⟩, developer⟩

theorem interactiveIneligibility_eq_none_iff :
    interactiveIneligibility snapshot spec = none ↔ Idle snapshot ∧
      Hardware snapshot.inventory spec snapshot.inventory.freeRamGb
        snapshot.inventory.freeDiskGb := by
  simp only [interactiveIneligibility, joinReasons_eq_none_iff, interactiveReasons,
    List.append_eq_nil_iff, reasonWhen_eq_nil_iff, ifEmpty_eq_nil_iff, bne_eq_false_iff_eq,
    Bool.not_eq_false', decide_eq_false_iff_not, not_lt, any_busy_eq_false_iff,
    Option.toList_eq_nil_iff, Bool.and_eq_false_iff, List.any_eq_true]
  simp only [List.isEmpty_iff]
  constructor
  · rintro ⟨⟨⟨⟨⟨⟨⟨⟨⟨⟨⟨⟨assignments, locals⟩, mode⟩, ready⟩, platform⟩, nvidia⟩, quota⟩, ram⟩, cpu⟩,
      disk⟩, some_gpu, idle⟩, suitable⟩, developer⟩
    refine ⟨⟨assignments, locals, mode, ready, idle⟩,
      platform, nvidia, quota, ram, cpu, disk, ?_, developer⟩
    exact suitable.resolve_left some_gpu
  · rintro ⟨⟨assignments, locals, mode, ready, idle⟩,
      platform, nvidia, quota, ram, cpu, disk, suitable, developer⟩
    obtain ⟨gpu, member, -⟩ := id suitable
    exact ⟨⟨⟨⟨⟨⟨⟨⟨⟨⟨⟨⟨assignments, locals⟩, mode⟩, ready⟩, platform⟩, nvidia⟩, quota⟩, ram⟩, cpu⟩,
      disk⟩, List.ne_nil_of_mem member, idle⟩, .inr suitable⟩, developer⟩

/-- An available Worker is idle and has the free resources, a suitable GPU included. -/
theorem availabilityIneligibility_eq_none_iff :
    availabilityIneligibility snapshot spec = none ↔ Idle snapshot ∧
      spec.memoryGb + 1 ≤ snapshot.inventory.freeRamGb ∧
      spec.cpu + 1 ≤ snapshot.inventory.cpuCores ∧
      (spec.diskGb : ℚ) + spec.pullHeadroomGb ≤ snapshot.inventory.freeDiskGb ∧
      (∃ gpu ∈ snapshot.inventory.gpus, suitableGpu spec gpu = true) ∧
      developerIneligibility snapshot.inventory spec = none := by
  simp only [availabilityIneligibility, joinReasons_eq_none_iff, availabilityReasons,
    List.append_eq_nil_iff, reasonWhen_eq_nil_iff, ifEmpty_eq_nil_iff, bne_eq_false_iff_eq,
    Bool.not_eq_false', decide_eq_false_iff_not, not_lt, any_busy_eq_false_iff,
    Option.toList_eq_nil_iff, Bool.and_eq_false_iff, List.any_eq_true, Bool.and_eq_true]
  simp only [List.isEmpty_iff]
  constructor
  · rintro ⟨⟨⟨⟨⟨⟨⟨⟨⟨assignments, locals⟩, mode⟩, ready⟩, ram⟩, cpu⟩, disk⟩, some_gpu, idle⟩,
      suitable⟩, developer⟩
    refine ⟨⟨assignments, locals, mode, ready, idle⟩, ram, cpu, disk, ?_, developer⟩
    obtain ⟨gpu, member, fits, -⟩ := suitable.resolve_left some_gpu
    exact ⟨gpu, member, fits⟩
  · rintro ⟨⟨assignments, locals, mode, ready, idle⟩, ram, cpu, disk, ⟨gpu, member, fits⟩,
        developer⟩
    exact ⟨⟨⟨⟨⟨⟨⟨⟨⟨assignments, locals⟩, mode⟩, ready⟩, ram⟩, cpu⟩, disk⟩,
      List.ne_nil_of_mem member, idle⟩, .inr ⟨gpu, member, fits, idle gpu member⟩⟩, developer⟩

theorem eligible_of_capable_available (capable : capabilityIneligibility snapshot spec = none)
    (available : availabilityIneligibility snapshot spec = none) :
    interactiveIneligibility snapshot spec = none := by
  obtain ⟨idle, free_ram, -, free_disk, -, -⟩ := availabilityIneligibility_eq_none_iff.mp available
  have hardware := capabilityIneligibility_eq_none_iff.mp capable
  exact interactiveIneligibility_eq_none_iff.mpr
    ⟨idle, { hardware with ram := free_ram, disk := free_disk }⟩

end

/-- Where the reported totals are at least the free values, a Worker is capable and available
exactly if it is eligible; an eligible Worker is given a listed GPU that meets the specification,
and any other none. -/
theorem placement_predicates_agree (snapshot : Snapshot) (spec : LaunchSpec)
    (ram : ∀ total, snapshot.inventory.totalRam = some total →
      snapshot.inventory.freeRamGb ≤ total)
    (disk : ∀ total, snapshot.inventory.totalDisk = some total →
      snapshot.inventory.freeDiskGb ≤ total) :
    (capabilityIneligibility snapshot spec = none ∧ availabilityIneligibility snapshot spec = none ↔
      interactiveIneligibility snapshot spec = none) ∧
    (interactiveIneligibility snapshot spec = none → ∃ gpu ∈ snapshot.inventory.gpus,
      compatibleGpu snapshot spec = some gpu.uuid ∧ spec.minimumVramGb ≤ gpu.memoryGb ∧
        (spec.gpuModels = [] ∨ gpu.model ∈ spec.gpuModels)) ∧
    (interactiveIneligibility snapshot spec ≠ none → compatibleGpu snapshot spec = none) := by
  have more_ram : snapshot.inventory.freeRamGb ≤ capableRam snapshot.inventory := by
    unfold capableRam
    cases total : snapshot.inventory.totalRam with
    | none => exact le_rfl
    | some reported => exact ram reported total
  have more_disk : snapshot.inventory.freeDiskGb ≤ capableDisk snapshot.inventory := by
    unfold capableDisk
    cases total : snapshot.inventory.totalDisk with
    | none => exact le_rfl
    | some reported => exact disk reported total
  refine ⟨?_, ?_, ?_⟩
  · constructor
    · rintro ⟨capable, available⟩
      exact eligible_of_capable_available capable available
    · intro eligible
      obtain ⟨idle, hardware⟩ := interactiveIneligibility_eq_none_iff.mp eligible
      rw [capabilityIneligibility_eq_none_iff, availabilityIneligibility_eq_none_iff]
      refine ⟨?_, idle, hardware.ram, hardware.cpu, hardware.disk, hardware.suitable,
        hardware.developer⟩
      exact { hardware with
        ram := hardware.ram.trans more_ram, disk := hardware.disk.trans more_disk }
  · intro eligible
    obtain ⟨uuid, found⟩ := Option.isSome_iff_exists.mp (compatibleGpu_isSome_of_eligible eligible)
    obtain ⟨-, gpu, member, suitable, rfl⟩ := compatibleGpu_eq_some found
    simp only [suitableGpu, Bool.and_eq_true, decide_eq_true_eq, modelMatches, Bool.or_eq_true,
      List.isEmpty_iff, List.contains_iff_mem] at suitable
    exact ⟨gpu, member, found, suitable.1.2, suitable.2⟩
  · intro ineligible
    rw [compatibleGpu, if_pos (Option.isSome_iff_ne_none.mpr ineligible)]

namespace Deployment

def trainedProfile : LaunchSpec where
  version := "gpu-v1"
  platform := .linuxAmd64
  cpu := 2
  memoryGb := 8
  diskGb := 20
  pullHeadroomGb := 40
  pids := 256
  minimumVramGb := 16
  gpuModels := ["A100"]
  allowRoot := false
  allowInternet := false
  developerMode := false
  sshCapable := false

def reportingHost : Snapshot where
  workerId := 1
  gpuType := "A100"
  freeVram := 10
  assignments := 0
  inventory :=
    { complete := true, observedAt := 0, mode := .available, availableSlots := 2
      localAssignments := [], freeVramGb := 10, freeRamGb := 64, freeDiskGb := 512, cpuCores := 16
      totalRam := some 128, totalDisk := some 1024, platform := .linuxAmd64
      nvidiaRuntime := true, quotaSupported := true, interactiveReady := true
      gpus := [⟨"GPU-0", "A100", 80, false, []⟩] }

theorem reportingHost_placed :
    capabilityIneligibility reportingHost trainedProfile = none ∧
      availabilityIneligibility reportingHost trainedProfile = none ∧
      interactiveIneligibility reportingHost trainedProfile = none := by
  have agree := placement_predicates_agree reportingHost trainedProfile
    (by rintro _ ⟨⟩; decide +kernel) (by rintro _ ⟨⟩; decide +kernel)
  have capable : capabilityIneligibility reportingHost trainedProfile = none := by decide +kernel
  have available : availabilityIneligibility reportingHost trainedProfile = none := by
    decide +kernel
  exact ⟨capable, available, agree.1.mp ⟨capable, available⟩⟩

end Deployment

end TrainingScheduler
