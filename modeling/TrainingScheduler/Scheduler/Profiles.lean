import Mathlib
import TrainingScheduler.Programs
import TrainingScheduler.Scheduler.Runtimes

/-!
# Resource profiles

`scheduling/config.py`: the operator's environment, the defaults and bounds read from it, and the
launch specification built from the minimums that a user selects.
-/

namespace TrainingScheduler

/-- The environment variables of the resource profile.  A number is `none` where the variable is no
finite number: reading or validating it is then a `ValueError`. -/
structure Environment where
  profileVersion : String := "gpu-v1"
  platform : String := "linux/amd64"
  cpu : Option ℚ := some 2
  ramGb : Option ℚ := some 8
  writableGb : Option ℤ := some 20
  pullHeadroomGb : Option ℤ := some 40
  pids : Option ℤ := some 256
  minVramSet : Bool := false
  minVramGb : Option ℚ := some 4
  gpuModels : List String := []
  allowRoot : Bool := false
  allowInternet : Bool := false
  developerMode : Bool := false
  minCpu : Option ℚ := some (1 / 2)
  maxCpu : Option ℚ := some 64
  minRamGb : Option ℚ := some (1 / 2)
  maxRamGb : Option ℚ := some 512
  minWritableGb : Option ℤ := some 1
  maxWritableGb : Option ℤ := some 2000
  maxVramGb : Option ℚ := some 192

/-- A profile before its shape is validated. -/
structure Profile where
  version : String
  platform : String
  cpu : ℚ
  memoryGb : ℚ
  diskGb : ℤ
  pullHeadroomGb : ℤ
  pids : ℤ
  minimumVramGb : ℚ
  gpuModels : List String
  allowRoot : Bool
  allowInternet : Bool
  developerMode : Bool
  sshCapable : Bool
  deriving DecidableEq, Repr

/-- The smallest, the largest and the default value that a user may select. -/
structure Limit (α : Type) where
  least : α
  most : α
  default : α

namespace Limit

variable {α : Type} [LinearOrder α] [Zero α]

/-- The limit is positive and its default lies within it. -/
def wellFormed (limit : Limit α) : Bool :=
  decide (0 < limit.least) && decide (limit.least ≤ limit.most) &&
    decide (limit.least ≤ limit.default) && decide (limit.default ≤ limit.most)

def admits (limit : Limit α) (value : α) : Bool :=
  decide (limit.least ≤ value) && decide (value ≤ limit.most)

end Limit

structure Bounds where
  cpuCores : Limit ℚ
  memoryGb : Limit ℚ
  diskGb : Limit ℤ
  minimumVramGb : Limit ℚ
  gpuModelsAllowlist : List String

/-- The selected minimums are within the operator's bounds. -/
def Bounds.admits (bounds : Bounds) (requirements : Requirements) : Bool :=
  bounds.cpuCores.admits requirements.cpuCores && bounds.memoryGb.admits requirements.memoryGb &&
    bounds.diskGb.admits requirements.diskGb &&
    bounds.minimumVramGb.admits requirements.minimumVramGb

def parsePlatform (platform : String) : Option Platform :=
  if platform = "linux/amd64" then some .linuxAmd64
  else if platform = "linux/arm64" then some .linuxArm64
  else none

/-- `re.fullmatch(r"[A-Za-z0-9_-]{1,64}", version)`. -/
def versionAccepted (version : String) : Bool :=
  let letters := version.toList
  !letters.isEmpty && decide (letters.length ≤ 64) &&
    letters.all fun letter => letter.isAlphanum || letter == '_' || letter == '-'

/-- The numbers of a profile are in range. -/
def Profile.shaped (profile : Profile) : Bool :=
  versionAccepted profile.version && decide (0 < profile.cpu) && decide (0 < profile.memoryGb) &&
    decide (0 < profile.minimumVramGb) && decide (1 ≤ profile.diskGb) &&
    decide (profile.diskGb ≤ 1000000) && decide (1 ≤ profile.pullHeadroomGb) &&
    decide (16 ≤ profile.pids) && decide (profile.pids ≤ 4096)

/-- `_validate_profile_shape`, with the specification that a profile of valid shape is. -/
def validateProfileShape (profile : Profile) : Except ProfileError LaunchSpec :=
  match parsePlatform profile.platform with
  | none => .error .valueError
  | some platform =>
    if !profile.shaped then .error .valueError
    else .ok
      { version := profile.version
        platform
        cpu := profile.cpu
        memoryGb := profile.memoryGb
        diskGb := profile.diskGb.toNat
        pullHeadroomGb := profile.pullHeadroomGb.toNat
        pids := profile.pids.toNat
        minimumVramGb := profile.minimumVramGb
        gpuModels := profile.gpuModels
        allowRoot := profile.allowRoot
        allowInternet := profile.allowInternet
        developerMode := profile.developerMode
        sshCapable := profile.sshCapable }

/-- A number of the environment, or the `ValueError` that reading it raises. -/
def numeric {α : Type} : Option α → Except ProfileError α
  | none => .error .valueError
  | some value => .ok value

/-- The stripped model; a blank one is no model. -/
def canonicalModel (model : Option String) : Option String :=
  (model.map fun model => String.ofList (strip model.toList)).filter fun model => model != ""

/-- `ResourceRequirements.canonical`. -/
def Requirements.canonical (requirements : Requirements) : Requirements :=
  { requirements with gpuModel := canonicalModel requirements.gpuModel }

namespace Environment

variable (env : Environment)

def operatorDefaults : Except ProfileError Profile := do
  let cpu ← numeric env.cpu
  let memoryGb ← numeric env.ramGb
  let diskGb ← numeric env.writableGb
  let pullHeadroomGb ← numeric env.pullHeadroomGb
  let pids ← numeric env.pids
  let minimumVramGb ← numeric env.minVramGb
  return { version := env.profileVersion, platform := env.platform, cpu, memoryGb, diskGb
           pullHeadroomGb, pids, minimumVramGb, gpuModels := env.gpuModels
           allowRoot := env.allowRoot, allowInternet := env.allowInternet
           developerMode := env.developerMode, sshCapable := false }

/-- The least VRAM is the configured one, if the variable is set. -/
def leastVram : Option ℚ :=
  if env.minVramSet then env.minVramGb else some (1 / 2)

def operatorBounds : Except ProfileError Bounds := do
  let defaults ← env.operatorDefaults
  let minCpu ← numeric env.minCpu
  let maxCpu ← numeric env.maxCpu
  let minRam ← numeric env.minRamGb
  let maxRam ← numeric env.maxRamGb
  let minDisk ← numeric env.minWritableGb
  let maxDisk ← numeric env.maxWritableGb
  let minVram ← numeric env.leastVram
  let maxVram ← numeric env.maxVramGb
  let bounds : Bounds :=
    { cpuCores := ⟨minCpu, maxCpu, defaults.cpu⟩
      memoryGb := ⟨minRam, maxRam, defaults.memoryGb⟩
      diskGb := ⟨minDisk, maxDisk, defaults.diskGb⟩
      minimumVramGb := ⟨minVram, maxVram, defaults.minimumVramGb⟩
      gpuModelsAllowlist := defaults.gpuModels }
  if bounds.cpuCores.wellFormed && bounds.memoryGb.wellFormed && bounds.minimumVramGb.wellFormed &&
      bounds.diskGb.wellFormed then
    return bounds
  else throw .valueError

/-- The GPU models that a request may be placed on. -/
def selectModels (allowlist : List String) : Option String → Except ProfileError (List String)
  | none => .ok allowlist
  | some model =>
    if 128 < model.length || (strip model.toList).isEmpty then .error .valueError
    else if !allowlist.isEmpty && !allowlist.contains model then .error .valueError
    else .ok [model]

/-- The launch specification of the operator's policy and a user's minimums. -/
def buildLaunchSpec : Option Requirements → Except ProfileError LaunchSpec
  | none => do
      let spec ← env.operatorDefaults >>= validateProfileShape
      let _ ← env.operatorBounds
      return spec
  | some requirements => do
      let defaults ← env.operatorDefaults
      let _ ← validateProfileShape defaults
      let bounds ← env.operatorBounds
      if !bounds.admits requirements then throw .valueError
      let gpuModels ← selectModels bounds.gpuModelsAllowlist (canonicalModel requirements.gpuModel)
      validateProfileShape
        { defaults with
          gpuModels
          cpu := requirements.cpuCores
          memoryGb := requirements.memoryGb
          diskGb := requirements.diskGb
          minimumVramGb := requirements.minimumVramGb }

def resourceProfile : Option Requirements → Except ProfileError LaunchSpec
  | none => env.operatorDefaults >>= validateProfileShape
  | some requirements => env.buildLaunchSpec (some requirements)

end Environment

/-- A value between two configured numbers. -/
def Between {α : Type} [LE α] (least most : Option α) (value : α) : Prop :=
  ∃ low ∈ least, ∃ high ∈ most, low ≤ value ∧ value ≤ high

/-- The four numbers that a user may select are within the operator's bounds. -/
structure Environment.Admits (env : Environment) (cpu memoryGb : ℚ) (diskGb : ℤ)
    (minimumVramGb : ℚ) : Prop where
  cpu : Between env.minCpu env.maxCpu cpu
  memoryGb : Between env.minRamGb env.maxRamGb memoryGb
  diskGb : Between env.minWritableGb env.maxWritableGb diskGb
  minimumVramGb : Between env.leastVram env.maxVramGb minimumVramGb

/-- The operator's own defaults for the four numbers are within the operator's bounds. -/
def Environment.DefaultsAdmitted (env : Environment) : Prop :=
  ∃ cpu ∈ env.cpu, ∃ memoryGb ∈ env.ramGb, ∃ diskGb ∈ env.writableGb,
    ∃ minimumVramGb ∈ env.minVramGb, env.Admits cpu memoryGb diskGb minimumVramGb

/-- A specification keeps to the operator's bounds, models and policy. -/
structure Environment.Respected (env : Environment) (spec : LaunchSpec) : Prop where
  bounds : env.Admits spec.cpu spec.memoryGb spec.diskGb spec.minimumVramGb
  models : env.gpuModels ≠ [] → spec.gpuModels ⊆ env.gpuModels
  version : spec.version = env.profileVersion
  platform : parsePlatform env.platform = some spec.platform
  pids : env.pids = some ↑spec.pids
  pullHeadroomGb : env.pullHeadroomGb = some ↑spec.pullHeadroomGb
  allowRoot : spec.allowRoot = env.allowRoot
  allowInternet : spec.allowInternet = env.allowInternet
  developerMode : spec.developerMode = env.developerMode

namespace Environment

variable {env : Environment} {profile : Profile} {spec : LaunchSpec}

theorem numeric_eq_ok {α : Type} {number : Option α} {value : α}
    (read : numeric number = .ok value) : number = some value := by
  cases number with
  | none => cases read
  | some number => cases read; rfl

/-- A profile of valid shape is its specification. -/
theorem eq_of_validateProfileShape (valid : validateProfileShape profile = .ok spec) :
    parsePlatform profile.platform = some spec.platform ∧
      profile = { spec with
        platform := profile.platform, diskGb := spec.diskGb
        pullHeadroomGb := spec.pullHeadroomGb, pids := spec.pids } := by
  unfold validateProfileShape at valid
  split at valid
  · cases valid
  next platform parsed =>
    split_ifs at valid with malformed
    cases valid
    simp only [Bool.not_eq_true', Bool.not_eq_false, Profile.shaped, Bool.and_eq_true,
      decide_eq_true_eq] at malformed
    refine ⟨parsed, ?_⟩
    dsimp only
    rw [Int.toNat_of_nonneg (by omega), Int.toNat_of_nonneg (by omega),
      Int.toNat_of_nonneg (by omega)]

theorem operatorDefaults_eq (read : env.operatorDefaults = .ok profile) :
    (env.pids = some profile.pids ∧ env.pullHeadroomGb = some profile.pullHeadroomGb) ∧
      (env.cpu = some profile.cpu ∧ env.ramGb = some profile.memoryGb ∧
        env.writableGb = some profile.diskGb ∧ env.minVramGb = some profile.minimumVramGb) ∧
      profile = { profile with
        version := env.profileVersion, platform := env.platform, gpuModels := env.gpuModels
        allowRoot := env.allowRoot, allowInternet := env.allowInternet
        developerMode := env.developerMode } := by
  obtain ⟨cpu, cpu_read, read⟩ := bind_eq_ok read
  obtain ⟨memory, memory_read, read⟩ := bind_eq_ok read
  obtain ⟨disk, disk_read, read⟩ := bind_eq_ok read
  obtain ⟨headroom, headroom_read, read⟩ := bind_eq_ok read
  obtain ⟨pids, pids_read, read⟩ := bind_eq_ok read
  obtain ⟨vram, vram_read, ⟨⟩⟩ := bind_eq_ok read
  exact ⟨⟨numeric_eq_ok pids_read, numeric_eq_ok headroom_read⟩, ⟨numeric_eq_ok cpu_read,
    numeric_eq_ok memory_read, numeric_eq_ok disk_read, numeric_eq_ok vram_read⟩, rfl⟩

/-- The defaults with other minimums are a specification that keeps to the operator's policy. -/
theorem respected_iff {models : List String} {cpu memoryGb minimumVramGb : ℚ} {diskGb : ℤ}
    (read : env.operatorDefaults = .ok profile)
    (valid : validateProfileShape { profile with
      gpuModels := models, cpu, memoryGb, diskGb, minimumVramGb } = .ok spec)
    (allowed : env.gpuModels ≠ [] → models ⊆ env.gpuModels) :
    env.Respected spec ↔ env.Admits cpu memoryGb diskGb minimumVramGb := by
  obtain ⟨⟨pids, headroom⟩, -, same⟩ := operatorDefaults_eq read
  rw [same] at valid
  obtain ⟨platform, shaped⟩ := eq_of_validateProfileShape valid
  simp only [Profile.mk.injEq, true_and] at shaped
  obtain ⟨version, rfl, rfl, rfl, headroom_eq, pids_eq, rfl, rfl, root, internet, developer, -⟩ :=
    shaped
  exact ⟨Respected.bounds, fun bounds => ⟨bounds, allowed, version.symm, platform, pids_eq ▸ pids,
    headroom_eq ▸ headroom, root.symm, internet.symm, developer.symm⟩⟩

private theorem admits_of_operatorBounds {bounds : Bounds} {requirements : Requirements}
    (read : env.operatorBounds = .ok bounds) (admitted : bounds.admits requirements = true) :
    env.Admits requirements.cpuCores requirements.memoryGb requirements.diskGb
      requirements.minimumVramGb ∧ bounds.gpuModelsAllowlist = env.gpuModels := by
  obtain ⟨profile, defaults, read⟩ := bind_eq_ok read
  obtain ⟨minCpu, minCpu_read, read⟩ := bind_eq_ok read
  obtain ⟨maxCpu, maxCpu_read, read⟩ := bind_eq_ok read
  obtain ⟨minRam, minRam_read, read⟩ := bind_eq_ok read
  obtain ⟨maxRam, maxRam_read, read⟩ := bind_eq_ok read
  obtain ⟨minDisk, minDisk_read, read⟩ := bind_eq_ok read
  obtain ⟨maxDisk, maxDisk_read, read⟩ := bind_eq_ok read
  obtain ⟨minVram, minVram_read, read⟩ := bind_eq_ok read
  obtain ⟨maxVram, maxVram_read, read⟩ := bind_eq_ok read
  dsimp only at read
  split_ifs at read
  cases read
  simp only [Bounds.admits, Limit.admits, Bool.and_eq_true, decide_eq_true_eq] at admitted
  obtain ⟨⟨⟨cpu, memory⟩, disk⟩, vram⟩ := admitted
  exact ⟨⟨⟨_, numeric_eq_ok minCpu_read, _, numeric_eq_ok maxCpu_read, cpu⟩,
    ⟨_, numeric_eq_ok minRam_read, _, numeric_eq_ok maxRam_read, memory⟩,
    ⟨_, numeric_eq_ok minDisk_read, _, numeric_eq_ok maxDisk_read, disk⟩,
    ⟨_, numeric_eq_ok minVram_read, _, numeric_eq_ok maxVram_read, vram⟩⟩,
    congrArg Profile.gpuModels (operatorDefaults_eq defaults).2.2⟩

private theorem selectModels_subset {allowlist models : List String} {model : Option String}
    (selected : selectModels allowlist model = .ok models) (listed : allowlist ≠ []) :
    models ⊆ allowlist := by
  unfold selectModels at selected
  split at selected
  · cases selected
    exact List.Subset.refl _
  · obtain ⟨-, selected⟩ := guard_eq_ok selected
    obtain ⟨unlisted, selected⟩ := guard_eq_ok selected
    cases selected
    simpa [listed] using unlisted

/-- A specification that `resource_profile` returns keeps to what the operator configured exactly
when it was built from requirements or the operator's defaults are within the operator's bounds. -/
theorem resource_profile_respects_iff (env : Environment) (requirements : Option Requirements)
    (spec : LaunchSpec) (built : env.resourceProfile requirements = .ok spec) :
    env.Respected spec ↔ requirements ≠ none ∨ env.DefaultsAdmitted := by
  cases requirements with
  | none =>
    obtain ⟨profile, read, valid⟩ := bind_eq_ok built
    obtain ⟨-, ⟨cpu, memory, disk, vram⟩, same⟩ := operatorDefaults_eq read
    have models : profile.gpuModels = env.gpuModels := congrArg Profile.gpuModels same
    rw [respected_iff read valid fun _ => models ▸ List.Subset.refl _]
    simp [DefaultsAdmitted, cpu, memory, disk, vram]
  | some requirements =>
    obtain ⟨profile, read, built⟩ := bind_eq_ok built
    obtain ⟨-, -, built⟩ := bind_eq_ok built
    obtain ⟨bounds, bounded, built⟩ := bind_eq_ok built
    dsimp only at built
    split_ifs at built with refused
    · cases built
    · obtain ⟨models, selected, valid⟩ := bind_eq_ok built
      obtain ⟨admitted, allowlist⟩ := admits_of_operatorBounds bounded (by simpa using refused)
      rw [allowlist] at selected
      exact iff_of_true ((respected_iff read valid (selectModels_subset selected)).mpr admitted)
        (.inl (Option.some_ne_none _))

theorem requested_profile_respected :
    ∃ spec, resourceProfile {} (some ⟨none, 4, 2, 8, 20⟩) = .ok spec ∧ spec.cpu = 2 ∧
      Respected {} spec := by
  obtain ⟨spec, built, cpu⟩ : ∃ spec, resourceProfile {} (some ⟨none, 4, 2, 8, 20⟩) = .ok spec ∧
      spec.cpu = 2 := exists_ok_of_any (by decide +kernel)
  exact ⟨spec, built, cpu, (resource_profile_respects_iff {} _ spec built).mpr
    (.inl (Option.some_ne_none _))⟩

/-- With a default of 128 cores and at most 64, a start without requirements gets 128. -/
theorem default_above_most :
    ∃ spec, ({ cpu := some 128 } : Environment).resourceProfile none = .ok spec ∧
      ¬ ({ cpu := some 128 } : Environment).Respected spec := by
  refine ⟨_, rfl, fun respected => ?_⟩
  obtain ⟨low, -, high, configured, -, most⟩ := respected.bounds.cpu
  cases configured
  exact absurd most (by decide +kernel)

end Environment

end TrainingScheduler
