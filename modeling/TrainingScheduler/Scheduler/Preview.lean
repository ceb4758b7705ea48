import TrainingScheduler.Scheduler.Admission
import TrainingScheduler.Scheduler.Placement
import TrainingScheduler.Scheduler.Profiles

/-!
# Capacity preview and workload mix

`preview_payload` of `interactive_capacity_service.py` lists the machines that match a request.  It
filters the Workers by other conditions than `claim` does.  `get_resource_distribution` of
`scheduler_service.py` tells which shares of the capacity the unreleased assignments take.
-/

namespace TrainingScheduler

inductive WorkloadState where
  | assigned (state : AssignmentState)
  | workerLocal
  deriving DecidableEq, Repr

structure Workload where
  kind : Kind
  state : WorkloadState
  mine : Bool
  deriving DecidableEq, Repr

structure Machine where
  machineKey : String
  displayName : String
  gpuModel : Option String
  gpuCount : Nat
  totalVramGb : ℚ
  freeVramGb : ℚ
  cpuCores : Nat
  cpuLoadPercent : Option ℚ
  totalRamGb : Option ℚ
  freeRamGb : ℚ
  totalDiskGb : Option ℚ
  freeDiskGb : ℚ
  gpuLoadPercent : Option ℚ
  availableNow : Bool
  availabilityReason : Option String
  workloads : List Workload
  deriving DecidableEq, Repr

structure Preview where
  generatedAt : Time
  requirements : Requirements
  matchingOnline : Nat
  availableNow : Nat
  busy : Nat
  queuedInteractiveRequests : Nat
  machines : List Machine
  deriving DecidableEq, Repr

/-- How Workers are shown: the hash of an identifier, and the identifier itself. -/
structure Names where
  machineKey : UUID → String
  workerId : UUID → String

/-- `_fresh_workers`. -/
def freshWorkers (now : Time) (db : Db) : List Worker :=
  db.workers.rows.filter fun worker => worker.protocolVersion == some 1 &&
    worker.authenticatedHeartbeatAt.any fun heartbeatAt => decide (now - 15 < heartbeatAt)

/-- The owner of the request owns the runtime or the job of an assignment. -/
def previewMine (db : Db) (owner : UUID) (assignment : Assignment) : Bool :=
  ((assignment.runtimeId.bind db.runtimes.lookup).any fun runtime =>
    runtime.ownerUserId == owner) ||
    (assignment.jobId.bind db.jobs.lookup).any fun job => job.userId == owner

/-- The workloads of a Worker: its reservations, and what it reports without one. -/
def previewWorkloads (db : Db) (owner : UUID) (worker : Worker) (inventory : Inventory) :
    List Workload :=
  (live db worker.workerId).map (fun assignment =>
      ⟨assignment.kind, .assigned assignment.state, previewMine db owner assignment⟩) ++
    if inventory.localAssignments.isEmpty then [] else [⟨.batch, .workerLocal, false⟩]

/-- The reason why a Worker is not available, with local assignments named once more. -/
def previewReason (inventory : Inventory) (reason : Option String) : Option String :=
  if inventory.localAssignments.isEmpty then reason
  else some (reason.elim "worker_assignments_active" fun reason =>
    reason ++ ",worker_assignments_active")

def displayName (names : Names) (worker : Worker) (inventory : Inventory) : String :=
  let given := (inventory.hostname.filter fun name => name != "") <|>
    worker.hostname.filter fun name => name != ""
  String.ofList ((given.getD (names.workerId worker.workerId)).toList.take 256)

/-- The first of the largest GPUs. -/
def primaryGpu (gpus : List GPU) : Option GPU :=
  firstBy (fun left right => decide (right.memoryGb < left.memoryGb)) gpus

/-- The card of a Worker that can host the specification. -/
def previewMachine (names : Names) (db : Db) (spec : LaunchSpec) (owner : UUID) (worker : Worker) :
    Option Machine :=
  match worker.inventory with
  | none => none
  | some inventory =>
    if !inventory.complete || inventory.platform != spec.platform || !inventory.nvidiaRuntime ||
        !inventory.quotaSupported then none
    else
      let snapshot := claimSnapshot worker inventory (live db worker.workerId)
      if (capabilityIneligibility snapshot spec).isSome then none
      else
        let reason := previewReason inventory (availabilityIneligibility snapshot spec)
        some
          { machineKey := names.machineKey worker.workerId
            displayName := displayName names worker inventory
            gpuModel := (primaryGpu inventory.gpus).map GPU.model
            gpuCount := inventory.gpus.length
            totalVramGb := (inventory.gpus.map GPU.memoryGb).foldr max 0
            freeVramGb := inventory.freeVramGb
            cpuCores := inventory.cpuCores
            cpuLoadPercent := inventory.cpuLoad
            totalRamGb := inventory.totalRam
            freeRamGb := inventory.freeRamGb
            totalDiskGb := inventory.totalDisk
            freeDiskGb := inventory.freeDiskGb
            gpuLoadPercent := inventory.gpuLoad
            availableNow := reason.isNone
            availabilityReason := reason
            workloads := previewWorkloads db owner worker inventory }

/-- Available machines first, then by name. -/
def shownBefore (left right : Machine) : Bool :=
  if left.availableNow = right.availableNow then decide (left.displayName ≤ right.displayName)
  else left.availableNow

def queuedRuntimes (db : Db) : List Runtime :=
  db.runtimes.rows.filter fun runtime =>
    runtime.state == .queued && runtime.desiredState == .running

def previewPayload (env : Environment) (names : Names) (now : Time) (db : Db)
    (requirements : Requirements) (owner : UUID) : Except ProfileError Preview := do
  let spec ← env.buildLaunchSpec (some requirements.canonical)
  let machines :=
    ((freshWorkers now db).filterMap (previewMachine names db spec owner)).mergeSort shownBefore
  let available := machines.countP Machine.availableNow
  return { generatedAt := now
           requirements := requirements.canonical
           matchingOnline := machines.length
           availableNow := available
           busy := machines.length - available
           queuedInteractiveRequests := (queuedRuntimes db).length
           machines }

section

variable {env : Environment} {names : Names} {settings : Settings} {digest : Digest} {now : Time}
  {db : Db} {requirements : Requirements} {owner : UUID} {preview : Preview} {machine : Machine}
  {spec : LaunchSpec} {worker : Worker} {inventory : Inventory} {operator : Operator}
  {revision : Revision}

theorem mem_machines (previewed : previewPayload env names now db requirements owner = .ok preview)
    (listed : machine ∈ preview.machines) :
    ∃ spec, env.buildLaunchSpec (some requirements.canonical) = .ok spec ∧
      ∃ worker ∈ freshWorkers now db, previewMachine names db spec owner worker = some machine := by
  unfold previewPayload at previewed
  cases built : env.buildLaunchSpec (some requirements.canonical) with
  | error error =>
    rw [built] at previewed
    cases previewed
  | ok spec =>
    rw [built] at previewed
    cases previewed
    obtain ⟨worker, fresh, card⟩ := List.mem_filterMap.mp (List.mem_mergeSort.mp listed)
    exact ⟨spec, rfl, worker, fresh, card⟩

theorem eligible_of_available (card : previewMachine names db spec owner worker = some machine)
    (available : machine.availableNow = true) :
    machine.machineKey = names.machineKey worker.workerId ∧
      ∃ inventory, worker.inventory = some inventory ∧ inventory.complete = true ∧
        interactiveIneligibility (claimSnapshot worker inventory (live db worker.workerId)) spec =
          none := by
  unfold previewMachine at card
  split at card
  · cases card
  · rename_i inventory reported
    dsimp only at card
    split_ifs at card with incapable unsuitable
    cases card
    refine ⟨rfl, inventory, reported, ?_, ?_⟩
    · simp only [Bool.or_eq_true, not_or, Bool.not_eq_true', Bool.not_eq_false] at incapable
      exact incapable.1.1.1
    · have free : availabilityIneligibility
          (claimSnapshot worker inventory (live db worker.workerId)) spec = none := by
        simp only [previewReason] at available
        split_ifs at available
        · exact Option.isNone_iff_eq_none.mp available
        · cases available
      exact eligible_of_capable_available (Option.not_isSome_iff_eq_none.mp unsuitable) free

variable {snapshot : Snapshot} {runtime : Runtime}

/-- A start only takes capabilities away from the previewed specification. -/
theorem eligible_pinSpec (eligible : interactiveIneligibility snapshot spec = none) :
    interactiveIneligibility snapshot (pinSpec operator revision spec) = none := by
  obtain ⟨idle, hardware⟩ := interactiveIneligibility_eq_none_iff.mp eligible
  refine interactiveIneligibility_eq_none_iff.mpr ⟨idle, ⟨hardware.platform, hardware.nvidia,
    hardware.quota, hardware.ram, hardware.cpu, hardware.disk, hardware.suitable, ?_⟩⟩
  have developer := hardware.developer
  unfold developerIneligibility at developer ⊢
  split_ifs at developer ⊢ <;> simp_all [pinSpec]

/-- What the preview leaves out of the gates of `claim`. -/
structure Accepting (settings : Settings) (now : Time) (worker : Worker) (inventory : Inventory) :
    Prop where
  heartbeat : ∃ heartbeatAt, worker.authenticatedHeartbeatAt = some heartbeatAt ∧
    now - settings.freshSeconds < heartbeatAt
  running : worker.executionPaused = false
  filling : worker.executionDraining = false
  unrestricted : worker.adminRestricted = false
  reconciled : worker.executionReconciling = false
  production : worker.isTesting.getD false = false
  mode : worker.executionMode = .available ∨ worker.executionMode = .batchActive
  slots : 0 < inventory.availableSlots
  observed : |now - inventory.observedAt| ≤ (settings.freshSeconds : ℚ)

/-- A complete fresh Worker passes the gates exactly if it accepts work. -/
theorem accepting_iff (version : worker.protocolVersion = some 1)
    (reported : worker.inventory = some inventory) (complete : inventory.complete = true) :
    Accepting settings now worker inventory ↔
      workerEligible worker now settings.freshSeconds = true ∧
        inventoryExpired settings inventory now = false := by
  simp only [workerEligible, version, reported, complete, inventoryExpired, beq_self_eq_true,
    Bool.true_and, Bool.and_eq_true, Bool.not_eq_true', Bool.or_eq_true, beq_iff_eq,
    decide_eq_true_eq, decide_eq_false_iff_not, not_lt]
  constructor
  · rintro ⟨⟨heartbeatAt, found, fresh⟩, running, filling, unrestricted, reconciled, production,
      mode, slots, observed⟩
    rw [found]
    exact ⟨⟨⟨⟨⟨⟨⟨⟨decide_eq_true fresh, running⟩, filling⟩, unrestricted⟩, reconciled⟩, production⟩,
      mode⟩, slots⟩, observed⟩
  · rintro ⟨⟨⟨⟨⟨⟨⟨⟨fresh, running⟩, filling⟩, unrestricted⟩, reconciled⟩, production⟩,
        mode⟩, slots⟩,
      observed⟩
    refine ⟨?_, running, filling, unrestricted, reconciled, production, mode, slots, observed⟩
    cases found : worker.authenticatedHeartbeatAt with
    | none =>
      rw [found] at fresh
      cases fresh
    | some heartbeatAt =>
      rw [found] at fresh
      exact ⟨heartbeatAt, rfl, of_decide_eq_true fresh⟩

variable {body : Claim} {newId : ℕ → UUID × UUID}

theorem claim_of_refused {choose : Choose} (found : db.workers.lookup worker.workerId = some worker)
    (new : previousClaim db worker.workerId body = none)
    (reported : worker.inventory = some inventory)
    (refused : workerEligible worker now settings.freshSeconds = false ∨
      inventoryExpired settings inventory now = true) :
    claim settings digest choose newId now db worker.workerId body = .ok ({}, db) := by
  refine claim_of_attempt ?_
  simp only [claimAttempt, lockWorker, found, new, reported]
  rcases refused with ineligible | expired
  · simp [admissionBlocked, ineligible, refuse]
  · split_ifs <;> rfl

/-- A single queued runtime, without estimations, is chosen for an eligible Worker. -/
theorem threeTier_of_queued (enabled : settings.interactive = true)
    (alone : queuedRuntimes db = [runtime]) (none : unassignedJobs db .vramEstimationPending = [])
    (eligible : interactiveIneligibility snapshot runtime.launchSpec = Option.none) :
    threeTier now 0 db snapshot settings =
      some { kind := .interactive, targetId := runtime.id
             gpuUuid := compatibleGpu snapshot runtime.launchSpec } := by
  have idle := (idle_of_eligible eligible).1
  have fits := compatibleGpu_isSome_of_eligible eligible
  have estimation : chooseEstimation settings now db snapshot = Option.none := by
    simp [chooseEstimation, none, firstBy]
  have filtered : db.runtimes.rows.filter (fun runtime => runtime.state == .queued &&
      runtime.desiredState == .running && (compatibleGpu snapshot runtime.launchSpec).isSome) =
        [runtime] := by
    have both := congrArg (List.filter fun runtime : Runtime =>
      (compatibleGpu snapshot runtime.launchSpec).isSome) alone
    simpa [queuedRuntimes, List.filter_filter, fits, Bool.and_comm] using both
  have chosen : chooseRuntime settings db snapshot =
      some { kind := .interactive, targetId := runtime.id
             gpuUuid := compatibleGpu snapshot runtime.launchSpec } := by
    rw [chooseRuntime, if_pos ⟨enabled, idle⟩, filtered]
    rfl
  simp [threeTier, estimation, chosen]

/-- A claim is granted the runtime, as a new assignment. -/
def GrantedRuntime (settings : Settings) (digest : Digest) (newId : ℕ → UUID × UUID) (now : Time)
    (db : Db) (worker : Worker) (body : Claim) (runtime : Runtime) : Prop :=
  ∃ assignment after,
    claim settings digest (threeTier now) newId now db worker.workerId body =
        .ok (envelope assignment settings now, after) ∧
      Inserted settings digest now db worker.workerId body after assignment ∧
      assignment.target = .interactive runtime.id runtime.generation

private theorem not_grantedRuntime
    (refused : claim settings digest (threeTier now) newId now db worker.workerId body =
      .ok ({}, db)) : ¬ GrantedRuntime settings digest newId now db worker body runtime := by
  rintro ⟨assignment, after, granted, inserted, -⟩
  rw [refused] at granted
  have same : db = after := (Prod.ext_iff.mp (Except.ok.inj granted)).2
  have rows := congrArg List.length inserted.rows
  simp [← same] at rows

private theorem admitted_of_accepting (member : worker ∈ db.workers.rows)
    (version : worker.protocolVersion = some 1) (reported : worker.inventory = some inventory)
    (complete : inventory.complete = true) (enabled : settings.admission = true)
    (idle : live db worker.workerId = []) (quiet : inventory.localAssignments = [])
    (instance_eq : worker.instanceId = some body.instanceId)
    (new : previousClaim db worker.workerId body = none)
    (accepting : Accepting settings now worker inventory) :
    Admitted settings now db body worker inventory := by
  obtain ⟨eligible, observed⟩ := (accepting_iff version reported complete).mp accepting
  refine ⟨Table.lookup_of_mem member, new, ?_, reported, ?_, observed⟩
  · simp [admissionBlocked, enabled, instance_eq, eligible, idle]
  · have slots := accepting.slots
    simp only [slotsExhausted, idle, quiet, List.length_nil, decide_eq_false_iff_not]
    omega

end

/-- A machine that a preview reports as available belongs to a Worker, and where the only queued
runtime is pinned to the same requirements, with no estimation waiting, that Worker's claim is
granted the runtime exactly if the Worker accepts work, which the preview does not look at. -/
theorem preview_honest_iff (env : Environment) (names : Names) (settings : Settings)
    (admission : settings.admission = true) (interactive : settings.interactive = true)
    (digest : Digest) (now : Time) (db : Db) (requirements : Requirements) (owner : UUID)
    (preview : Preview)
    (previewed : previewPayload env names now db requirements owner = .ok preview)
    (machine : Machine) (listed : machine ∈ preview.machines)
    (available : machine.availableNow = true) :
    ∃ worker ∈ db.workers.rows, machine.machineKey = names.machineKey worker.workerId ∧
      ∃ inventory, worker.inventory = some inventory ∧
      ∀ (spec : LaunchSpec) (operator : Operator) (revision : Revision) (runtime : Runtime)
        (body : Claim) (newId : ℕ → UUID × UUID),
        env.resourceProfile (some requirements.canonical) = .ok spec →
        queuedRuntimes db = [runtime] → runtime.launchSpec = pinSpec operator revision spec →
        db.held runtime.id = [] → unassignedJobs db .vramEstimationPending = [] →
        worker.instanceId = some body.instanceId →
        previousClaim db worker.workerId body = none → Minted db (newId 0) →
        (GrantedRuntime settings digest newId now db worker body runtime ↔
          Accepting settings now worker inventory) := by
  obtain ⟨built, builds, worker, fresh, card⟩ := mem_machines previewed listed
  obtain ⟨key, inventory, reported, complete, eligible⟩ := eligible_of_available card available
  obtain ⟨member, recent⟩ := List.mem_filter.mp fresh
  have version : worker.protocolVersion = some 1 := by
    simp only [Bool.and_eq_true, beq_iff_eq] at recent
    exact recent.1
  refine ⟨worker, member, key, inventory, reported, ?_⟩
  intro spec operator revision runtime body newId profile alone pinned unheld none instance_eq new
    minted
  have same : built = spec := Except.ok.inj (builds.symm.trans profile)
  subst same
  have idle := idle_of_eligible eligible
  have no_assignment : live db worker.workerId = [] := List.length_eq_zero_iff.mp idle.1
  constructor
  · intro granted
    by_contra closed
    rw [accepting_iff version reported complete, not_and_or, Bool.not_eq_true,
      Bool.not_eq_false] at closed
    exact not_grantedRuntime
      (claim_of_refused (Table.lookup_of_mem member) new reported closed) granted
  · intro accepting
    have gates := admitted_of_accepting member version reported complete admission no_assignment
      idle.2 instance_eq new accepting
    have chosen := @threeTier_of_queued settings now db
      (claimSnapshot worker inventory (live db worker.workerId)) runtime interactive alone none
      (pinned ▸ eligible_pinSpec eligible)
    obtain ⟨assignment, after, -, granted, inserted, tied⟩ := gates.claim_of_selected digest minted
      (fun _ other _ target _ => target ▸ unheld) chosen
    refine ⟨assignment, after, granted, inserted, ?_⟩
    cases tied with
    | interactive stored _ found queued running gpu target gpu_eq payload jobs =>
      have listed : runtime ∈ queuedRuntimes db := by simp [alone]
      have lookup := Table.lookup_of_mem (List.mem_filter.mp listed).1
      cases found.symm.trans lookup
      exact target
    | estimation job kind => cases kind
    | batch job kind => cases kind

namespace Deployment

def requirements : Requirements where
  minimumVramGb := 16
  cpuCores := 2
  memoryGb := 8
  diskGb := 20

/-- The specification that the default environment builds from the requirements. -/
def builtSpec : LaunchSpec := { trainedProfile with gpuModels := [] }

def revision : Revision := ⟨50, 5, .imageReady, "registry/workspace@sha256:0", none, none⟩

def queuedRuntime : Runtime where
  id := 300
  workspaceId := 5
  ownerUserId := 7
  revisionId := 50
  imageDigestRef := "registry/workspace@sha256:0"
  generation := 1
  launchSpec := pinSpec operator revision builtSpec
  createdAt := 0

def lobby (worker : Worker) : Db where
  workers := ⟨[worker], by simp⟩
  jobs := .empty
  runtimes := ⟨[queuedRuntime], by simp⟩
  assignments := .empty

def names : Names := ⟨fun _ => "key", fun _ => "worker"⟩

def idleCard : Machine where
  machineKey := "key"
  displayName := "worker"
  gpuModel := some "A100"
  gpuCount := 1
  totalVramGb := 80
  freeVramGb := 10
  cpuCores := 16
  cpuLoadPercent := none
  totalRamGb := none
  freeRamGb := 64
  totalDiskGb := none
  freeDiskGb := 512
  gpuLoadPercent := none
  availableNow := true
  availabilityReason := none
  workloads := []

def oneCard : Preview := ⟨0, requirements, 1, 1, 0, 1, [idleCard]⟩

/-- The Worker accepts work, and its claim is granted the previewed runtime. -/
theorem available_granted :
    idleCard ∈ oneCard.machines ∧ Accepting settings 0 worker inventory ∧
      GrantedRuntime settings digest (fun _ => (1001, 2001)) 0 (lobby worker) worker ⟨10, 1⟩
        queuedRuntime := by
  have listed : idleCard ∈ oneCard.machines := by decide +kernel
  have accepting : Accepting settings 0 worker inventory :=
    ⟨⟨0, rfl, by decide +kernel⟩, rfl, rfl, rfl, rfl, rfl, .inl rfl, by decide,
      by decide +kernel⟩
  obtain ⟨shown, member, -, reported, same, honest⟩ := preview_honest_iff {} names settings rfl rfl
    digest 0 (lobby worker) requirements 7 oneCard (by decide +kernel) idleCard listed rfl
  obtain rfl : shown = worker := List.mem_singleton.mp member
  obtain rfl : inventory = reported := Option.some.inj same
  refine ⟨listed, accepting, ?_⟩
  refine (honest builtSpec operator revision queuedRuntime ⟨10, 1⟩ (fun _ => (1001, 2001))
    (by decide +kernel) (by decide +kernel) rfl (by decide +kernel) (by decide +kernel) rfl
    (by decide +kernel) ⟨by decide +kernel, by decide +kernel⟩).mpr accepting

def pausedWorker : Worker := { worker with executionPaused := true }

/-- The preview shows the paused Worker as available, but its claim is granted nothing. -/
theorem paused_available_not_granted :
    previewPayload {} names 0 (lobby pausedWorker) requirements 7 = .ok oneCard ∧
      idleCard ∈ oneCard.machines ∧ idleCard.availableNow = true ∧
      Environment.resourceProfile {} (some requirements.canonical) = .ok builtSpec ∧
      queuedRuntimes (lobby pausedWorker) = [queuedRuntime] ∧
      queuedRuntime.launchSpec = pinSpec operator revision builtSpec ∧
      unassignedJobs (lobby pausedWorker) .vramEstimationPending = [] ∧
      claim settings digest (threeTier 0) (fun _ => (1001, 2001)) 0 (lobby pausedWorker) 1 ⟨10, 1⟩ =
        .ok ({}, lobby pausedWorker) := by
  refine ⟨by decide +kernel, by decide +kernel, rfl, by decide +kernel, by decide +kernel, rfl,
    by decide +kernel, ?_⟩
  have found : (lobby pausedWorker).workers.lookup pausedWorker.workerId = some pausedWorker := by
    decide +kernel
  exact claim_of_refused found (by decide +kernel) rfl (.inl (by decide +kernel))

end Deployment

/-! ## Workload mix -/

/-- `round`: the nearest integer, and the even one of two. -/
def roundHalfEven (x : ℚ) : ℤ :=
  if x - ⌊x⌋ < 1 / 2 ∨ x - ⌊x⌋ = 1 / 2 ∧ Even ⌊x⌋ then ⌊x⌋ else ⌊x⌋ + 1

structure ResourceDistribution where
  batch : ℤ
  experimentation : ℤ
  idle : ℤ
  deriving DecidableEq, Repr

def workloadMix (batch experimentation : ℕ) (gpusTotal : ℤ) : ResourceDistribution :=
  let capacity := max gpusTotal (batch + experimentation)
  if capacity ≤ 0 then ⟨0, 0, 100⟩
  else
    let batchPct := roundHalfEven (100 * batch / capacity)
    let expPct := roundHalfEven (100 * experimentation / capacity)
    ⟨batchPct, expPct, 100 - batchPct - expPct⟩

def getResourceDistribution (db : Db) (gpusTotal : ℤ) : ResourceDistribution :=
  let kinds := (db.assignments.rows.filter fun row => row.releasedAt.isNone).map Assignment.kind
  workloadMix (kinds.countP (· == .batch))
    (kinds.countP fun kind => kind == .interactive || kind == .estimation) gpusTotal

structure ResourceDistribution.Split (mix : ResourceDistribution) : Prop where
  batch : 0 ≤ mix.batch ∧ mix.batch ≤ 100
  experimentation : 0 ≤ mix.experimentation ∧ mix.experimentation ≤ 100
  idle : 0 ≤ mix.idle ∧ mix.idle ≤ 100
  sum : mix.batch + mix.experimentation + mix.idle = 100

/-- A rounded number is half a unit away at most, and then even. -/
theorem roundHalfEven_near (x : ℚ) :
    x - 1 / 2 ≤ roundHalfEven x ∧ (roundHalfEven x < x + 1 / 2 ∨
      roundHalfEven x = x + 1 / 2 ∧ Even (roundHalfEven x)) := by
  have below := Int.floor_le x
  have above := Int.lt_floor_add_one x
  rw [roundHalfEven]
  split_ifs with down
  · exact ⟨by rcases down with less | ⟨tie, -⟩ <;> linarith, .inl (by linarith)⟩
  · obtain ⟨up, tie⟩ := not_or.mp down
    push_cast
    refine ⟨by linarith, ?_⟩
    rcases (not_lt.mp up).lt_or_eq with more | half
    · exact .inl (by linarith)
    · refine .inr ⟨by linarith, ?_⟩
      exact Int.even_add_one.mpr fun even => tie ⟨half.symm, even⟩

/-- Two shares of at most 100 in sum cannot both be rounded up from a half: both would be even, and
their sum 101. -/
theorem roundHalfEven_add_le {x y : ℚ} (whole : x + y ≤ 100) :
    roundHalfEven x + roundHalfEven y ≤ 100 := by
  obtain ⟨-, first⟩ := roundHalfEven_near x
  obtain ⟨-, second⟩ := roundHalfEven_near y
  by_contra over_full
  have most : (101 : ℚ) ≤ roundHalfEven x + roundHalfEven y := by
    exact_mod_cast not_le.mp over_full
  rcases first with less | ⟨tie, even⟩
  · rcases second with other | ⟨other, -⟩ <;> linarith
  · rcases second with less | ⟨other, other_even⟩
    · linarith
    · have sum : roundHalfEven x + roundHalfEven y = 101 := by
        exact_mod_cast le_antisymm (by linarith : (_ : ℚ) ≤ 101) most
      have parity := even.add other_even
      rw [sum] at parity
      exact absurd parity (by decide)

theorem roundHalfEven_nonneg {x : ℚ} (nonneg : 0 ≤ x) : 0 ≤ roundHalfEven x := by
  have near := (roundHalfEven_near x).1
  have : (-1 : ℚ) < roundHalfEven x := by linarith
  have : -1 < roundHalfEven x := by exact_mod_cast this
  omega

theorem workloadMix_split (batch experimentation : ℕ) (gpusTotal : ℤ) :
    (workloadMix batch experimentation gpusTotal).Split := by
  rw [workloadMix]
  set capacity : ℤ := max gpusTotal (batch + experimentation) with _
  split_ifs with empty
  · constructor <;> decide
  · have positive : (0 : ℚ) < capacity := by exact_mod_cast not_le.mp empty
    have first := roundHalfEven_nonneg (x := 100 * batch / capacity) (by positivity)
    have second := roundHalfEven_nonneg (x := 100 * experimentation / capacity) (by positivity)
    have enough : (batch + experimentation : ℚ) ≤ capacity := by
      exact_mod_cast le_max_right gpusTotal (batch + experimentation : ℤ)
    have total : roundHalfEven (100 * batch / capacity) +
        roundHalfEven (100 * experimentation / capacity) ≤ 100 := by
      refine roundHalfEven_add_le ?_
      rw [← add_div, div_le_iff₀ positive]
      linarith
    constructor <;> dsimp only <;> omega

/-- The three values of the workload mix are percentages that sum to 100, whatever the numbers of
assignments and of GPUs are. -/
theorem distribution_sums_to_hundred :
    (∀ batch experimentation gpusTotal,
      (workloadMix batch experimentation gpusTotal).Split) ∧
    ∀ db gpusTotal, (getResourceDistribution db gpusTotal).Split :=
  ⟨workloadMix_split, fun _ _ => workloadMix_split _ _ _⟩

example : workloadMix 1 7 8 = ⟨12, 88, 0⟩ := by decide +kernel

end TrainingScheduler
