import TrainingScheduler.Programs
import TrainingScheduler.Worker.Checkpoints

/-!
# Resumes on many Workers

The attempts of one job, each in some output directory on some Worker, over one object store.  An
attempt goes on in its directory until the next one starts there, whatever happens to its lease, and
it may stop at any moment.
-/

namespace TrainingScheduler.Outputs

variable {γ : Type*}

/-- What a resume command finds when it starts, and the uploads that were made before. -/
structure Resumption (γ : Type*) where
  files : Path → Option (File γ)
  uploads : List (Path × γ)

/-- The output directories, the store, and what happened so far. -/
structure Fleet (γ : Type*) where
  job : Text
  directory : ℕ → Workspace γ
  objects : Text → Option γ
  uploads : List (Path × γ)
  resumed : List (Resumption γ)

/-- A training run or a resume attempt starts in a directory, and meets what comes before its
container; the container, the monitor or the log of an attempt goes on; or a directory is
removed. -/
inductive FleetEvent (γ : Type*) where
  | trains (place : ℕ) (training : Training γ)
  | resumes (place : ℕ) (resume : Resume γ)
  | acts (place : ℕ) (event : Event γ)
  | clears (place : ℕ) (removal : Removal)

def Workspace.landed (workspace : Workspace γ) : Event γ → List (Path × γ)
  | .finish upload =>
    match workspace.visit, upload with
    | none, _ | some _, .failed none => []
    | some visit, .stored torn => [(visit.path, workspace.sent visit torn)]
    | some visit, .failed (some content) => [(visit.path, content)]
  | _ => []

open Outputs.Workspace

/-- What an event stores: nothing, an output, or the log. -/
theorem Workspace.stores (workspace : Workspace γ) (event : Event γ) :
    (workspace.landed event = [] ∧ (workspace.step event).objects = workspace.objects) ∨
      (∃ path content, workspace.landed event = [(path, content)] ∧
        (workspace.step event).objects =
          Function.update workspace.objects (objectKey workspace.job path) (some content)) ∨
      ∃ content, workspace.landed event = [] ∧ (workspace.step event).objects =
        Function.update workspace.objects (objectKey workspace.job trainingLog) (some content) := by
  cases event with
  | write | remove => exact .inl ⟨rfl, rfl⟩
  | visit path authority readable =>
    refine .inl ⟨rfl, ?_⟩
    rw [step, maybeUpload]
    repeat' split
    all_goals rfl
  | finish upload =>
    simp only [step, finishUpload, landed]
    cases workspace.visit with
    | none => exact .inl ⟨rfl, rfl⟩
    | some visit =>
      cases upload with
      | stored torn => exact .inr (.inl ⟨visit.path, _, rfl, rfl⟩)
      | failed effect =>
        cases effect with
        | none => exact .inl ⟨rfl, rfl⟩
        | some content => exact .inr (.inl ⟨visit.path, content, rfl, rfl⟩)
  | log effect =>
    cases effect with
    | none => exact .inl ⟨rfl, rfl⟩
    | some content => exact .inr (.inr ⟨content, rfl, rfl⟩)

namespace Fleet

/-- Before the first attempt. -/
def start (job : Text) (objects : Text → Option γ) : Fleet γ where
  job := job
  directory := fun _ => ⟨job, fun _ => none, fun _ => false, fun _ => none, none, objects⟩
  objects := objects
  uploads := []
  resumed := []

variable (fleet : Fleet γ) (place : ℕ)

/-- A directory as an attempt in it sees the world. -/
def workspace : Workspace γ :=
  { fleet.directory place with job := fleet.job, objects := fleet.objects }

def setDirectory (workspace : Workspace γ) : Fleet γ :=
  { fleet with directory := Function.update fleet.directory place workspace }

/-- The resume command starts. -/
def resume (started : Workspace γ) : Fleet γ :=
  { fleet.setDirectory place started with
    resumed := fleet.resumed ++ [⟨started.files, fleet.uploads⟩] }

def step (fleet : Fleet γ) : FleetEvent γ → Fleet γ
  | .trains place training =>
    match training.cleared with
    | .left kept => fleet.setDirectory place ((fleet.workspace place).clear (.left kept))
    | .gone => fleet.setDirectory place (training.start (fleet.workspace place))
  | .resumes place resume =>
    match resume.prepare (fleet.workspace place) with
    | .reused started | .restored started => fleet.resume place started
    | .uncleared kept => fleet.setDirectory place ((fleet.workspace place).clear (.left kept))
    | .raised left => fleet.setDirectory place left
  | .acts place event =>
    { fleet.setDirectory place ((fleet.workspace place).step event) with
      objects := ((fleet.workspace place).step event).objects
      uploads := fleet.uploads ++ (fleet.workspace place).landed event }
  | .clears place removal => fleet.setDirectory place ((fleet.workspace place).clear removal)

def run (job : Text) (objects : Text → Option γ) (events : List (FleetEvent γ)) : Fleet γ :=
  events.foldl step (start job objects)

/-- A path under which an attempt has stored an output. -/
def Uploads (path : Path) : Prop := ∃ content, (path, content) ∈ fleet.uploads

end Fleet

variable (moment : γ → ℚ)

/-- Every file that was uploaded is there, in a version that is not older. -/
def Resumption.Latest (resumption : Resumption γ) : Prop :=
  ∀ path content, (path, content) ∈ resumption.uploads →
    ∃ file, resumption.files path = some file ∧ moment content ≤ moment file.content

/-- An upload replaces no newer version.  A resume has a directory of its own, the store lists and
serves every object, and the image and the names of the logs leave room for every output. -/
def Fleet.Prompt (fleet : Fleet γ) : FleetEvent γ → Prop
  | .acts place event => ∀ path content, (path, content) ∈ (fleet.workspace place).landed event →
      ∀ old, fleet.objects (objectKey fleet.job path) = some old → moment old ≤ moment content
  | .resumes place resume =>
    (fleet.directory place).files metaFile = none ∧
      Listing fleet.job fleet.objects resume.listing ∧ Scattered fleet.Uploads ∧
      ∀ path, fleet.Uploads path → skipped path = false ∧ resume.seeding.tree.Open path
  | _ => True

/-- The store holds the latest upload of every output, and besides that only logs. -/
structure Fleet.Sound (fleet : Fleet γ) : Prop where
  latest : ∀ path content, (path, content) ∈ fleet.uploads → path ≠ trainingLog →
    ∃ held, fleet.objects (objectKey fleet.job path) = some held ∧ moment content ≤ moment held
  known : ∀ path, (fleet.objects (objectKey fleet.job path)).isSome →
    path ∈ logNames ∨ fleet.Uploads path
  resumed : ∀ resumption ∈ fleet.resumed, resumption.Latest moment

theorem skipped_of_log {path : Path} (isLog : path ∈ logNames) : skipped path = true := by
  simp only [logNames, List.mem_cons, List.not_mem_nil, or_false] at isLog
  rcases isLog with rfl | rfl | rfl <;> decide +kernel

namespace Fleet.Sound

variable {moment} {fleet : Fleet γ}

section

variable (sound : fleet.Sound moment)

include sound

theorem setDirectory (place : ℕ) (workspace : Workspace γ) :
    (fleet.setDirectory place workspace).Sound moment :=
  ⟨sound.latest, sound.known, sound.resumed⟩

theorem resume (place : ℕ) {started : Workspace γ}
    (latest : Resumption.Latest moment ⟨started.files, fleet.uploads⟩) :
    (fleet.resume place started).Sound moment := by
  refine ⟨sound.latest, sound.known, fun resumption member => ?_⟩
  rcases List.mem_append.mp member with earlier | new
  · exact sound.resumed resumption earlier
  · rw [List.mem_singleton.mp new]
    exact latest

theorem store (place : ℕ) (workspace : Workspace γ) {path : Path} {content : γ}
    (newer : ∀ old, fleet.objects (objectKey fleet.job path) = some old →
      moment old ≤ moment content) :
    Fleet.Sound moment { fleet.setDirectory place workspace with
      objects := Function.update fleet.objects (objectKey fleet.job path) (some content)
      uploads := fleet.uploads ++ [(path, content)] } := by
  refine ⟨fun other version member notLog => ?_, fun other present => ?_, sound.resumed⟩
  · by_cases same : other = path
    · subst same
      refine ⟨content, Function.update_self .., ?_⟩
      rcases List.mem_append.mp member with earlier | new
      · obtain ⟨held, stored, older⟩ := sound.latest other version earlier notLog
        exact older.trans (newer held stored)
      · cases List.mem_singleton.mp new
        exact le_rfl
    · rcases List.mem_append.mp member with earlier | new
      · obtain ⟨held, stored, older⟩ := sound.latest other version earlier notLog
        have apart : objectKey fleet.job other ≠ objectKey fleet.job path := by simpa using same
        exact ⟨held, (Function.update_of_ne apart _ _).trans stored, older⟩
      · cases List.mem_singleton.mp new
        exact absurd rfl same
  · by_cases same : other = path
    · subst same
      exact .inr ⟨content, List.mem_append_right _ (List.mem_singleton.mpr rfl)⟩
    · have before : (fleet.objects (objectKey fleet.job other)).isSome := by
        simpa [Fleet.setDirectory, same] using present
      refine (sound.known other before).imp_right ?_
      rintro ⟨version, member⟩
      exact ⟨version, List.mem_append_left _ member⟩

theorem log (place : ℕ) (workspace : Workspace γ) (content : γ) :
    Fleet.Sound moment { fleet.setDirectory place workspace with
      objects := Function.update fleet.objects (objectKey fleet.job trainingLog)
        (some content) } := by
  refine ⟨fun other version member notLog => ?_, fun other present => ?_, sound.resumed⟩
  · obtain ⟨held, stored, older⟩ := sound.latest other version member notLog
    have apart : objectKey fleet.job other ≠ objectKey fleet.job trainingLog :=
      by simpa using notLog
    exact ⟨held, (Function.update_of_ne apart _ _).trans stored, older⟩
  · by_cases same : other = trainingLog
    · exact .inl (same ▸ trainingLog_mem)
    · exact sound.known other (by simpa [Fleet.setDirectory, same] using present)

theorem acts {place : ℕ} {event : Event γ} (prompt : fleet.Prompt moment (.acts place event)) :
    (fleet.step (.acts place event)).Sound moment := by
  rw [Fleet.step]
  rcases (fleet.workspace place).stores event with
    ⟨landed, objects⟩ | ⟨path, content, landed, objects⟩ | ⟨content, landed, objects⟩
  · rw [landed, objects, List.append_nil]
    exact sound.setDirectory place _
  · rw [landed, objects]
    exact sound.store place _ (prompt path content
        (by rw [landed]; exact List.mem_singleton.mpr rfl))
  · rw [landed, objects, List.append_nil]
    exact sound.log place _ content

/-- A resume that is prompt finds the latest version of every output. -/
theorem resumes {place : ℕ} {resume : Resume γ}
    (prompt : fleet.Prompt moment (.resumes place resume)) :
    (fleet.step (.resumes place resume)).Sound moment := by
  obtain ⟨new, listing, scattered, room⟩ := prompt
  have own : ((fleet.workspace place).files metaFile).isSome = false := by
    rw [show (fleet.workspace place).files metaFile = none from new]
    rfl
  have served : Served fleet.job fleet.objects fleet.Uploads resume.listing := by
    intro listed member
    obtain ⟨⟨path, key⟩, present⟩ := (listing.keys listed.key).mp (List.mem_map_of_mem member)
    have named : listed.key = objectKey fleet.job path := by simpa [objectKey] using key.symm
    obtain ⟨content, holds⟩ := Option.isSome_iff_exists.mp present
    obtain ⟨signature, download⟩ := listing.served listed member
    refine ⟨path, content, named, holds, ?_⟩
    refine (sound.known path (named ▸ present)).imp skipped_of_log fun uploaded => ⟨uploaded, ?_⟩
    simp [Listed.content, holds, download]
  obtain ⟨tree, done, restored⟩ := restore_open scattered room served
  have latest : Resumption.Latest moment ⟨tree.files, fleet.uploads⟩ := by
    intro path content member
    have uploaded : fleet.Uploads path := ⟨content, member⟩
    have notLog : path ≠ trainingLog := by
      rintro rfl
      have wrong := (room _ uploaded).1
      rw [skipped_of_log trainingLog_mem] at wrong
      cases wrong
    obtain ⟨held, stored, older⟩ := sound.latest path content member notLog
    have listed : objectKey fleet.job path ∈ resume.listing.map Listed.key :=
      (listing.keys _).mpr ⟨⟨path, by simp [objectKey]⟩, by rw [stored]; rfl⟩
    obtain ⟨found, signature, holds, there⟩ := restored path uploaded (.inl listed)
    obtain rfl : held = found := Option.some.inj (stored.symm.trans holds)
    exact ⟨⟨held, signature⟩, there, older⟩
  have same : restoreJobOutput (fleet.workspace place).job (fleet.workspace place).objects
      resume.listing resume.seeding.tree = .ok tree := done
  rw [Fleet.step, Resume.prepare, own]
  cases cleared : resume.cleared with
  | left kept => exact sound.setDirectory place _
  | gone =>
    simp only [Bool.false_eq_true, if_false, same]
    exact sound.resume place latest

theorem step {event : FleetEvent γ} (prompt : fleet.Prompt moment event) :
    (fleet.step event).Sound moment := by
  cases event with
  | trains place training =>
    rw [Fleet.step]
    split <;> exact sound.setDirectory place _
  | resumes place resume => exact sound.resumes prompt
  | acts place event => exact sound.acts prompt
  | clears place removal => exact sound.setDirectory place _

end

end Fleet.Sound

/-- In every history of attempts in which each resume has a directory of its own, gets every object
that the store holds and has room for it, and no upload replaces a newer version, each resume
command starts with every file that was uploaded before, in a version that is not older. -/
theorem resumed_from_latest (moment : γ → ℚ) (job : Text) (objects : Text → Option γ)
    (events : List (FleetEvent γ))
    (logs : ∀ path, (objects (objectKey job path)).isSome → path ∈ logNames)
    (prompt : Machine.Throughout Fleet.step (Fleet.Prompt moment) (.start job objects) events) :
    ∀ resumption ∈ (Fleet.run job objects events).resumed, resumption.Latest moment := by
  have sound : (Fleet.start job objects).Sound moment :=
    ⟨fun _ _ member => (by cases member), fun path present => .inl (logs path present),
      fun _ member => (by cases member)⟩
  exact (prompt.invariant (fun _ _ sound met => sound.step met) sound).resumed

/-! A job whose first attempt uploads a checkpoint. -/

namespace Deployment

def saves (place version : ℕ) : List (FleetEvent ℕ) :=
  [.acts place (.write checkpoint ⟨version, (4, version)⟩),
    .acts place (.visit checkpoint true true),
    .acts place (.finish (.stored 0))]

def quiet : ContainerRun ℕ := ⟨[], .error, [], []⟩

def fresh (record : Option (File ℕ)) : Training ℕ :=
  ⟨.gone, .seeded image record, quiet, ⟨[], [], fun _ => true, .gone⟩⟩

def resuming (listing : List (Listed ℕ)) : Resume ℕ :=
  ⟨fun _ => false, .gone, .seeded image none, listing, quiet, ⟨[], [], fun _ => true, .gone⟩, .gone⟩

def moved (listing : List (Listed ℕ)) : List (FleetEvent ℕ) :=
  .trains 0 (fresh none) :: saves 0 7 ++ [.resumes 1 (resuming listing)]

/-- The Worker of the first attempt still has its directory when another one has gone further. -/
def returned : List (FleetEvent ℕ) :=
  .trains 0 (fresh (some ⟨0, (0, 0)⟩)) :: saves 0 7 ++
    .resumes 1 (resuming (objects checkpoint)) :: saves 1 9 ++ [.resumes 0 (resuming [])]

/-- Versions are numbered as they are written. -/
def serial (version : ℕ) : ℚ := version

def uploadedFleet : Fleet ℕ :=
  Fleet.run empty.job empty.objects (.trains 0 (fresh none) :: saves 0 7)

private theorem uploadedFleet_objects : uploadedFleet.objects =
    Function.update (fun _ => none) (objectKey empty.job checkpoint) (some 7) := by
  have apart : checkpoint ≠ metaFile := by decide +kernel
  simp [apart, uploadedFleet, Fleet.run, Fleet.step, Fleet.start, Fleet.setDirectory,
    Fleet.workspace,
    saves, fresh, Training.start, monitor, step, write,
    maybeUpload, stat, finishUpload, sent, Seeding.tree,
    Seeding.baseline, image, empty]

theorem uploads_uploadedFleet (path : Path) : uploadedFleet.Uploads path ↔ path = checkpoint := by
  have uploads : uploadedFleet.uploads = [(checkpoint, 7)] := by decide +kernel
  simp [Fleet.Uploads, uploads]

/-- The store answers, and the checkpoint is there. -/
theorem moved_from_latest :
    (Fleet.run empty.job empty.objects (moved (objects checkpoint))).resumed.length = 1 ∧
      ∀ resumption ∈ (Fleet.run empty.job empty.objects (moved (objects checkpoint))).resumed,
        resumption.Latest serial := by
  refine ⟨by decide +kernel, ?_⟩
  refine resumed_from_latest serial empty.job empty.objects _ (fun _ present => by cases present) ?_
  simp only [moved, saves, List.cons_append, List.nil_append, Machine.Throughout, and_true]
  refine ⟨trivial, fun _ _ member => (by cases member), fun _ _ member => (by cases member),
    fun path version _ old held => ?_, ?_⟩
  · have apart : checkpoint ≠ metaFile := by decide +kernel
    simp [apart, Fleet.step, Fleet.start, Fleet.setDirectory, Fleet.workspace, fresh,
      Training.start,
      monitor, step, write, maybeUpload, stat,
      Seeding.tree, Seeding.baseline, image, empty] at held
  · refine ⟨rfl, ?_, ?_, ?_⟩
    · change Listing empty.job uploadedFleet.objects (objects checkpoint)
      rw [uploadedFleet_objects]
      have listing := listing_left checkpoint
      rw [uploads_done] at listing
      exact listing
    · intro path directory output above other
      change uploadedFleet.Uploads path at output
      change uploadedFleet.Uploads directory at other
      rw [uploads_uploadedFleet] at output other
      subst output other
      exact absurd above (by decide +kernel)
    · intro path output
      change uploadedFleet.Uploads path at output
      rw [uploads_uploadedFleet] at output
      subst output
      exact ⟨by decide +kernel, by decide +kernel, rfl⟩

def found (fleet : Fleet ℕ) : List (Option (File ℕ) × List (Path × ℕ)) :=
  fleet.resumed.map fun resumption => (resumption.files checkpoint, resumption.uploads)

/-- The store does not answer the request for the list, and the resume command runs without the
checkpoint.  A Worker that has kept its directory resumes from an older checkpoint than another one
has uploaded. -/
theorem resumed_from_older :
    found (Fleet.run empty.job empty.objects (moved [])) = [(none, [(checkpoint, 7)])] ∧
      found (Fleet.run empty.job empty.objects returned) =
        [(some ⟨7, (4, 200)⟩, [(checkpoint, 7)]),
          (some ⟨7, (4, 7)⟩, [(checkpoint, 7), (checkpoint, 9)])] := by
  decide +kernel

end Deployment

end TrainingScheduler.Outputs
