import TrainingScheduler.Worker.Outputs

/-!
# Outputs reach the object store

As long as a modified file never gets a size and time back that it had before, a file whose
signature is noted as uploaded is in the store with its present content.  The end of a job rests on
that.  The failed resume attempt of a retry does not look at the uploads before it clears the
directory.
-/

namespace TrainingScheduler.Outputs

variable {γ : Type*} {known : Path → Signature → Prop} {workspace : Workspace γ}

/-- Every output of a workspace is in the store with its present content. -/
def Workspace.Delivered (workspace : Workspace γ) : Prop :=
  ∀ path file, workspace.files path = some file → workspace.excluded path = false →
    workspace.objects (objectKey workspace.job path) = some file.content

open Outputs.Workspace

/-- What a deed may rest on. -/
def Deed.Kept : Deed γ → Prop
  | .deleted workspace => workspace.Delivered
  | .completed exit workspace => exit = .code 0 ∧ workspace.Delivered
  | .failed => True

theorem Workspace.delivered_of_empty (empty : ∀ path, workspace.files path = none) :
    workspace.Delivered := by
  intro path file present
  rw [empty] at present
  cases present

/-- The signatures that a file has had, after one more. -/
def learn (known : Path → Signature → Prop) (path : Path) (signature : Signature) :
    Path → Signature → Prop :=
  fun other value => known other value ∨ (other = path ∧ value = signature)

/-- The signatures that the files of a workspace have. -/
def Workspace.signatures (workspace : Workspace γ) : Path → Signature → Prop :=
  fun path signature => ∃ file, workspace.files path = some file ∧ file.signature = signature

/-- Every modification of a file gives it a size and time that it has not had. -/
def Renewed (known : Path → Signature → Prop) : List (Event γ) → Prop
  | [] => True
  | .write path file :: rest =>
    ¬ known path file.signature ∧ Renewed (learn known path file.signature) rest
  | _ :: rest => Renewed known rest

/-- The events that the container makes. -/
def Event.byContainer : Event γ → Bool
  | .write _ _ | .remove _ => true
  | .visit _ _ _ | .finish _ | .log _ => false

variable {events : List (Event γ)}

theorem renewed_of_monitor (known : Path → Signature → Prop)
    (monitor : ∀ event ∈ events, event.byContainer = false) : Renewed known events := by
  induction events with
  | nil => trivial
  | cons event rest ih =>
    have following := ih fun later member => monitor later (List.mem_cons_of_mem _ member)
    have here := monitor event List.mem_cons_self
    cases event with
    | write | remove => simp [Event.byContainer] at here
    | visit | finish | log => exact following

theorem flush_byContainer (scans : List (List (UploadAttempt γ))) :
    ∀ event ∈ flush scans, event.byContainer = false := by
  intro event member
  simp only [flush, scan, List.mem_flatMap] at member
  obtain ⟨attempts, _, attempt, _, made⟩ := member
  simp only [UploadAttempt.events, List.mem_cons, List.not_mem_nil, or_false] at made
  rcases made with rfl | rfl <;> rfl

/-- The notes of the monitor about a workspace whose files have had the known signatures. -/
structure Tracked (known : Path → Signature → Prop) (workspace : Workspace γ) : Prop where
  files : ∀ path file, workspace.files path = some file → known path file.signature
  uploaded : ∀ path signature,
    workspace.uploaded (objectKey workspace.job path) = some signature → known path signature
  stored : ∀ path file, workspace.files path = some file →
    workspace.uploaded (objectKey workspace.job path) = some file.signature →
    path ≠ trainingLog → workspace.objects (objectKey workspace.job path) = some file.content
  visited : ∀ visit, workspace.visit = some visit → known visit.path visit.signature
  unchanged : ∀ visit, workspace.visit = some visit → visit.changed = false →
    ∃ file, workspace.files visit.path = some file
  current : ∀ visit, workspace.visit = some visit → ∀ file,
    workspace.files visit.path = some file →
    (file.signature = visit.signature ↔ visit.changed = false)
  awaited : ∀ visit, workspace.visit = some visit → ∀ file,
    workspace.files visit.path = some file →
    workspace.uploaded (objectKey workspace.job visit.path) ≠ some file.signature

namespace Tracked

theorem monitor (workspace : Workspace γ) (files : Path → Option (File γ))
    (excluded : Path → Bool) :
    Tracked (workspace.monitor files excluded).signatures (workspace.monitor files excluded) where
  files := fun _ file present => ⟨file, present, rfl⟩
  uploaded := fun _ _ noted => by cases noted
  stored := fun _ _ _ noted => by cases noted
  visited := fun _ flying => by cases flying
  unchanged := fun _ flying => by cases flying
  current := fun _ flying => by cases flying
  awaited := fun _ flying => by cases flying

variable {path : Path}

section

variable (tracked : Tracked known workspace)

include tracked

theorem modify {wider : Path → Signature → Prop} {next : Option (File γ)}
    (grown : ∀ other signature, known other signature → wider other signature)
    (fresh : ∀ file, next = some file →
      wider path file.signature ∧ ¬ known path file.signature) :
    Tracked wider (workspace.write path next) := by
  have earlierFile : ∀ other found, (workspace.write path next).files other = some found →
      other = path ∧ next = some found ∨ other ≠ path ∧ workspace.files other = some found := by
    intro other found present
    by_cases same : other = path
    · subst same
      exact Or.inl ⟨rfl, by simpa [write] using present⟩
    · exact Or.inr ⟨same, by simpa [write, same] using present⟩
  have touched : ∀ visit, (workspace.write path next).visit = some visit →
      ∃ earlier, workspace.visit = some earlier ∧ visit = earlier.touch path := by
    intro visit flying
    obtain ⟨earlier, before, same⟩ := Option.map_eq_some_iff.mp flying
    exact ⟨earlier, before, same.symm⟩
  constructor
  case files =>
    intro other found present
    rcases earlierFile other found present with ⟨rfl, written⟩ | ⟨-, present⟩
    · exact (fresh found written).1
    · exact grown _ _ (tracked.files other found present)
  case uploaded =>
    exact fun other signature noted => grown _ _ (tracked.uploaded other signature noted)
  case stored =>
    intro other found present noted notLog
    rcases earlierFile other found present with ⟨rfl, written⟩ | ⟨-, present⟩
    · exact absurd (tracked.uploaded other _ noted) (fresh found written).2
    · exact tracked.stored other found present noted notLog
  case visited =>
    intro visit flying
    obtain ⟨earlier, before, rfl⟩ := touched visit flying
    exact grown _ _ (tracked.visited earlier before)
  case unchanged =>
    intro visit flying still
    obtain ⟨earlier, before, rfl⟩ := touched visit flying
    simp only [Visit.touch, Bool.or_eq_false_iff, decide_eq_false_iff_not] at still
    obtain ⟨found, present⟩ := tracked.unchanged earlier before still.1
    exact ⟨found, by simpa [write, Visit.touch, still.2] using present⟩
  case current =>
    intro visit flying found present
    obtain ⟨earlier, before, rfl⟩ := touched visit flying
    rcases earlierFile earlier.path found present with ⟨rfl, written⟩ | ⟨differs, present⟩
    · have differs : found.signature ≠ earlier.signature := fun equal =>
        (fresh found written).2 (equal ▸ tracked.visited earlier before)
      simp [Visit.touch, differs]
    · have kept := tracked.current earlier before found present
      simpa [Visit.touch, show earlier.path ≠ path from differs] using kept
  case awaited =>
    intro visit flying found present
    obtain ⟨earlier, before, rfl⟩ := touched visit flying
    rcases earlierFile earlier.path found present with ⟨rfl, written⟩ | ⟨-, present⟩
    · exact fun noted => (fresh found written).2 (tracked.uploaded _ _ noted)
    · exact tracked.awaited earlier before found present

theorem write {file : File γ} (fresh : ¬ known path file.signature) :
    Tracked (learn known path file.signature) (workspace.write path (some file)) := by
  refine tracked.modify (fun _ _ => Or.inl) ?_
  rintro found ⟨⟩
  exact ⟨Or.inr ⟨rfl, rfl⟩, fresh⟩

theorem remove (path : Path) : Tracked known (workspace.write path none) :=
  tracked.modify (fun _ _ => id) fun _ absent => by cases absent

theorem maybeUpload (path : Path) (authority readable : Bool) :
    Tracked known (workspace.maybeUpload path authority readable) := by
  rw [Workspace.maybeUpload]
  split
  · exact tracked
  · split
    · exact tracked
    · rename_i file seen
      have present : workspace.files path = some file := by
        rw [stat] at seen
        split at seen
        · exact seen
        · cases seen
      split
      · exact tracked
      · rename_i unsent
        constructor
        case files => exact tracked.files
        case uploaded => exact tracked.uploaded
        case stored => exact tracked.stored
        all_goals
          intro visit flying
          obtain rfl : (⟨path, file.signature, false⟩ : Visit) = visit := Option.some.inj flying
        case visited => exact tracked.files path file present
        case unchanged => exact fun _ => ⟨file, present⟩
        case current =>
          intro found same
          obtain rfl : file = found := Option.some.inj (present.symm.trans same)
          simp
        case awaited =>
          intro found same
          obtain rfl : file = found := Option.some.inj (present.symm.trans same)
          exact unsent

theorem replaceObject {objects : Text → Option γ}
    (others : ∀ other, other ≠ path → objects (objectKey workspace.job other) =
      workspace.objects (objectKey workspace.job other))
    (unnoted : path = trainingLog ∨ ∀ file, workspace.files path = some file →
      workspace.uploaded (objectKey workspace.job path) ≠ some file.signature) :
    Tracked known { workspace with objects := objects } where
  files := tracked.files
  uploaded := tracked.uploaded
  stored := by
    intro other file present noted notLog
    by_cases same : other = path
    · subst same
      rcases unnoted with isLog | unnoted
      · exact absurd isLog notLog
      · exact absurd noted (unnoted file present)
    · exact (others other same).trans (tracked.stored other file present noted notLog)
  visited := tracked.visited
  unchanged := tracked.unchanged
  current := tracked.current
  awaited := tracked.awaited

theorem land :
    Tracked known { workspace with visit := none } where
  files := tracked.files
  uploaded := tracked.uploaded
  stored := tracked.stored
  visited := fun _ flying => by cases flying
  unchanged := fun _ flying => by cases flying
  current := fun _ flying => by cases flying
  awaited := fun _ flying => by cases flying

end

theorem replace_other (objects : Text → Option γ) (job : Text) {other : Path}
    (differs : other ≠ path) (effect : Option γ) :
    replace objects (objectKey job path) effect (objectKey job other) =
      objects (objectKey job other) := by
  cases effect with
  | none => rfl
  | some content => simp [replace, differs]

theorem finishUpload (tracked : Tracked known workspace) (upload : Upload γ) :
    Tracked known (workspace.finishUpload upload) := by
  rw [Workspace.finishUpload]
  split
  · exact tracked
  · rename_i visit flying
    cases upload with
    | failed effect =>
      exact (tracked.replaceObject (fun other differs => replace_other _ _ differs effect)
        (Or.inr (tracked.awaited visit flying))).land
    | stored torn =>
      constructor
      case files => exact tracked.files
      case uploaded =>
        intro other signature noted
        by_cases same : other = visit.path
        · subst same
          obtain rfl : visit.signature = signature := by simpa using noted
          exact tracked.visited visit flying
        · exact tracked.uploaded other signature (by simpa [same] using noted)
      case stored =>
        intro other file present noted notLog
        by_cases same : other = visit.path
        · subst same
          have unchanged : visit.changed = false :=
            (tracked.current visit flying file present).mp (by simpa using noted.symm)
          have content : workspace.sent visit torn = file.content := by
            rw [sent, if_neg (by simp [unchanged])]
            have here : workspace.files visit.path = some file := present
            rw [here]
          simp [content]
        · have kept := tracked.stored other file present (by simpa [same] using noted) notLog
          simpa [same] using kept
      all_goals exact fun _ flying => by cases flying

theorem appendLog (tracked : Tracked known workspace) (effect : Option γ) :
    Tracked known (workspace.appendLog effect) :=
  tracked.replaceObject (fun _ differs => replace_other _ _ differs effect) (Or.inl rfl)

theorem perform (tracked : Tracked known workspace) (renewed : Renewed known events) :
    ∃ more, Tracked more (workspace.perform events) := by
  induction events generalizing known workspace with
  | nil => exact ⟨known, tracked⟩
  | cons event rest ih =>
    cases event with
    | write path file => exact ih (tracked.write renewed.1) renewed.2
    | remove path => exact ih (tracked.remove path) renewed
    | visit path authority readable =>
      exact ih (tracked.maybeUpload path authority readable) renewed
    | finish upload => exact ih (tracked.finishUpload upload) renewed
    | log effect => exact ih (tracked.appendLog effect) renewed

end Tracked

/-- The container has stopped writing when its output ends, and every modification of a file before
that changes its size and time. -/
def ContainerRun.Lawful (run : ContainerRun γ) (workspace : Workspace γ) : Prop :=
  Renewed workspace.signatures run.events ∧ ∀ event ∈ run.tail, event.byContainer = false

/-- `pending_uploads` gets to see every output, and none of them has the name of the log. -/
def Finalization.Thorough (ending : Finalization γ) (workspace : Workspace γ) : Prop :=
  ∀ path file, (workspace.flushed ending).files path = some file →
    (workspace.flushed ending).excluded path = false →
    path ∈ ending.listing ∧ ending.readable path = true ∧ path ≠ trainingLog

theorem Tracked.runContainer {run : ContainerRun γ} (tracked : Tracked known workspace)
    (renewed : Renewed known run.events) (quiet : ∀ event ∈ run.tail, event.byContainer = false) :
    ∃ more, Tracked more (workspace.runContainer run) := by
  obtain ⟨atExit, ended⟩ := tracked.perform renewed
  obtain ⟨atStop, stopped⟩ := ended.perform (renewed_of_monitor atExit quiet)
  exact stopped.perform (renewed_of_monitor atStop (flush_byContainer run.scans))

variable {ending : Finalization γ}

theorem Tracked.delivered (tracked : Tracked known (workspace.flushed ending))
    (thorough : ending.Thorough workspace)
    (settled : (workspace.flushed ending).pendingUploads ending.listing ending.readable = []) :
    (workspace.flushed ending).Delivered := by
  intro path file present output
  obtain ⟨listed, readable, notLog⟩ := thorough path file present output
  have sent := List.filter_eq_nil_iff.mp settled path listed
  simp only [output, readable, stat, present] at sent
  exact tracked.stored path file present (by simpa using sent) notLog

theorem finalizeJob_kept {exit : Exit} (tracked : Tracked known workspace)
    (thorough : ending.Thorough workspace) :
    ∀ deed ∈ (workspace.finalizeJob exit ending).1, deed.Kept := by
  obtain ⟨more, flushed⟩ : ∃ more, Tracked more (workspace.flushed ending) :=
    tracked.perform (renewed_of_monitor known (flush_byContainer ending.scans))
  rw [finalizeJob]
  split
  · intro deed member
    obtain rfl := List.mem_singleton.mp member
    trivial
  · rename_i settled
    have delivered := flushed.delivered thorough (not_not.mp settled)
    intro deed member
    simp only [List.mem_cons, List.not_mem_nil, or_false] at member
    rcases member with rfl | rfl
    · exact delivered
    · split
      · rename_i success
        exact ⟨of_decide_eq_true success, delivered⟩
      · trivial

/-- The container run of a fresh training run is lawful. -/
def Training.Lawful (training : Training γ) (workspace : Workspace γ) : Prop :=
  training.run.Lawful (training.start workspace)

/-- A fresh run finds no leftover directory, and its outputs can be seen at the end. -/
def Training.Clean (training : Training γ) (workspace : Workspace γ) : Prop :=
  (∀ path, workspace.files path = none) ∧
    training.ending.Thorough ((training.start workspace).runContainer training.run)

theorem Training.kept {training : Training γ} (lawful : training.Lawful workspace)
    (clean : training.Clean workspace) :
    ∀ deed ∈ (training.handleTraining workspace).1, deed.Kept := by
  have cleared : (Deed.deleted workspace).Kept := delivered_of_empty clean.1
  rw [Training.handleTraining]
  split
  · intro deed member
    simp only [List.mem_cons, List.not_mem_nil, or_false] at member
    rcases member with rfl | rfl
    · exact cleared
    · trivial
  · obtain ⟨known, tracked⟩ := (Tracked.monitor workspace training.seeding.tree.files
      training.seeding.baseline).runContainer lawful.1 lawful.2
    intro deed member
    rcases List.mem_cons.mp member with rfl | later
    · exact cleared
    · exact finalizeJob_kept tracked clean.2 deed later

namespace Resume

/-- The container run of a resume attempt is lawful. -/
def Lawful (resume : Resume γ) (workspace : Workspace γ) : Prop :=
  match resume.prepare workspace with
  | .reused started | .restored started => resume.run.Lawful started
  | .uncleared _ | .raised _ => True

/-- A resume clears no leftover, does not fail, and its outputs are seen at the end. -/
def Clean (resume : Resume γ) (workspace : Workspace γ) : Prop :=
  match resume.prepare workspace with
  | .reused started =>
    resume.run.exit = .code 0 ∧ resume.ending.Thorough (started.runContainer resume.run)
  | .uncleared _ | .raised _ => ∀ path, workspace.files path = none
  | .restored started =>
    (∀ path, workspace.files path = none) ∧ resume.run.exit = .code 0 ∧
      resume.ending.Thorough (started.runContainer resume.run)

variable {resume : Resume γ}

theorem attempt_finished (started : Workspace γ) (success : resume.run.exit = .code 0) :
    resume.attempt started =
      (((started.runContainer resume.run).finalizeJob resume.run.exit resume.ending).1,
        ((started.runContainer resume.run).finalizeJob resume.run.exit resume.ending).2,
        .finished) := by
  rw [attempt]
  dsimp only
  rw [if_pos (by simp [Exit.success, success])]

theorem prepare_tracked {workspace started : Workspace γ}
    (prepared : resume.prepare workspace = .reused started ∨
      resume.prepare workspace = .restored started) : Tracked started.signatures started := by
  unfold prepare at prepared
  split at prepared
  · rcases prepared with same | same
    · obtain rfl := Prepared.reused.inj same
      exact Tracked.monitor _ _ _
    · cases same
  · split at prepared
    · rcases prepared with same | same <;> cases same
    · split at prepared
      · rcases prepared with same | same <;> cases same
      · rcases prepared with same | same
        · cases same
        · obtain rfl := Prepared.restored.inj same
          exact Tracked.monitor _ _ _

theorem kept (lawful : resume.Lawful workspace) (clean : resume.Clean workspace) :
    (∀ deed ∈ (resume.resumeAttempt workspace).1, deed.Kept) ∧
      (resume.resumeAttempt workspace).2.2 ≠ .user := by
  unfold Lawful at lawful
  unfold Clean at clean
  rw [resumeAttempt]
  split at lawful
  · rename_i started prepared
    rw [prepared] at clean ⊢
    obtain ⟨known, tracked⟩ := (prepare_tracked (Or.inl prepared)).runContainer lawful.1 lawful.2
    dsimp only at clean ⊢
    rw [attempt_finished started clean.1]
    exact ⟨finalizeJob_kept tracked clean.2, fun wrong => by cases wrong⟩
  · rename_i started prepared
    rw [prepared] at clean ⊢
    obtain ⟨known, tracked⟩ := (prepare_tracked (Or.inr prepared)).runContainer lawful.1 lawful.2
    dsimp only at clean ⊢
    rw [attempt_finished started clean.2.1]
    refine ⟨fun deed member => ?_, fun wrong => by cases wrong⟩
    rcases List.mem_cons.mp member with rfl | later
    · exact delivered_of_empty clean.1
    · exact finalizeJob_kept tracked clean.2.2 deed later
  · rename_i kept prepared
    rw [prepared] at clean ⊢
    refine ⟨fun deed member => ?_, fun wrong => by cases wrong⟩
    obtain rfl := List.mem_singleton.mp member
    exact delivered_of_empty clean
  · rename_i left prepared
    rw [prepared] at clean ⊢
    refine ⟨fun deed member => ?_, fun wrong => by cases wrong⟩
    simp only [List.mem_cons, List.not_mem_nil, or_false] at member
    rcases member with rfl | rfl
    · exact delivered_of_empty clean
    · trivial

end Resume

namespace JobRun

/-- What is assumed of the container, over a whole run of a job. -/
def Lawful (run : JobRun γ) (workspace : Workspace γ) : Prop :=
  match run with
  | .training fresh => fresh.Lawful workspace
  | .retry none original => ∀ fresh, original = some fresh → fresh.Lawful workspace
  | .retry (some resume) original =>
    resume.Lawful workspace ∧
      ((resume.resumeAttempt workspace).2.2 = .user → ∀ fresh, original = some fresh →
        fresh.Lawful (resume.resumeAttempt workspace).2.1)

/-- A run without cleared leftovers and failed resumes, whose outputs are seen at the end. -/
def Clean (run : JobRun γ) (workspace : Workspace γ) : Prop :=
  match run with
  | .training fresh => fresh.Clean workspace
  | .retry none original => ∀ fresh, original = some fresh → fresh.Clean workspace
  | .retry (some resume) _ => resume.Clean workspace

private theorem startFresh_kept {original : Option (Training γ)}
    (lawful : ∀ fresh, original = some fresh → fresh.Lawful workspace)
    (clean : ∀ fresh, original = some fresh → fresh.Clean workspace) :
    ∀ deed ∈ (startFresh original workspace).1, deed.Kept := by
  cases original with
  | none =>
    intro deed member
    obtain rfl := List.mem_singleton.mp member
    trivial
  | some fresh => exact Training.kept (lawful fresh rfl) (clean fresh rfl)

end JobRun

/-- No completed job loses an output: with a lawful container, whatever the uploads come to, a
completed job exited with code 0 and has every output in the store with its present content. -/
theorem outputs_delivered (run : JobRun γ) (workspace : Workspace γ)
    (lawful : run.Lawful workspace) (clean : run.Clean workspace) :
    ∀ deed ∈ (run.processJob workspace).1, deed.Kept := by
  unfold JobRun.Lawful at lawful
  unfold JobRun.Clean at clean
  unfold JobRun.processJob
  split
  · exact Training.kept lawful clean
  · exact JobRun.startFresh_kept lawful clean
  · rename_i resume original
    obtain ⟨kept, notUser⟩ := Resume.kept lawful.1 clean
    dsimp only
    split
    · exact kept
    · exact kept
    · intro deed member
      rcases List.mem_append.mp member with earlier | last
      · exact kept deed earlier
      · obtain rfl := List.mem_singleton.mp last
        trivial
    · rename_i verdict
      exact absurd verdict notUser

/-! A job that writes one checkpoint. -/

namespace Deployment

def checkpoint : Path := "checkpoint.pt".toList

def empty : Workspace ℕ where
  job := "job".toList
  files := fun _ => none
  excluded := fun _ => false
  uploaded := fun _ => none
  visit := none
  objects := fun _ => none

def image : Tree ℕ := ⟨fun _ => none, fun _ => false⟩

/-- The container writes a checkpoint, and no upload of it is acknowledged. -/
def run (exit : Exit) : ContainerRun ℕ where
  events :=
    [.write checkpoint ⟨7, (4, 100)⟩, .visit checkpoint true true, .finish (.failed none)]
  exit := exit
  tail := []
  scans := List.replicate 3 [⟨checkpoint, true, true, .failed none⟩]

def resume : Resume ℕ where
  loaded := fun _ => false
  cleared := .gone
  seeding := .seeded image none
  listing := []
  run := run (.code 1)
  ending := ⟨[], [], fun _ => true, .gone⟩
  discarded := .gone

/-- The same checkpoint, with an object store that answers at the end. -/
def training : Training ℕ where
  cleared := .gone
  seeding := .seeded image none
  run := run (.code 0)
  ending := ⟨[[⟨checkpoint, true, true, .stored 0⟩]], [checkpoint], fun _ => true, .gone⟩

theorem run_lawful (exit : Exit) {workspace : Workspace ℕ}
    (bare : workspace.files checkpoint = none) : (run exit).Lawful workspace := by
  refine ⟨⟨?_, trivial⟩, fun event member => by cases member⟩
  rintro ⟨file, present, _⟩
  rw [bare] at present
  cases present

/-- A job that completes after its only checkpoint was uploaded by the last flush. -/
theorem checkpoint_delivered :
    (∀ deed ∈ ((JobRun.training training).processJob empty).1, deed.Kept) ∧
      ((JobRun.training training).processJob empty).1.length = 3 := by
  refine ⟨outputs_delivered (.training training) empty (run_lawful _ rfl) ⟨fun _ => rfl, ?_⟩, by
    decide +kernel⟩
  intro path file present _
  by_cases same : path = checkpoint
  · subst same
    exact ⟨List.mem_singleton.mpr rfl, rfl, by decide⟩
  · have absent : (((training.start empty).runContainer training.run).flushed
        training.ending).files path = none :=
      Function.update_of_ne same _ _
    rw [absent] at present
    cases present

/-- A retry whose resume command fails: the checkpoint that was never uploaded is deleted. -/
theorem failed_resume_loses_checkpoint :
    (JobRun.retry (some resume) none).Lawful empty ∧
      ∃ deed ∈ ((JobRun.retry (some resume) none).processJob empty).1, ¬ deed.Kept := by
  refine ⟨⟨run_lawful _ rfl, fun _ fresh none => by cases none⟩, ?_⟩
  let ended := (empty.monitor image.files (Seeding.seeded image none).baseline).runContainer
    (run (.code 1))
  refine ⟨.deleted ended, List.mem_append_left _ (List.mem_cons_of_mem _ List.mem_cons_self), ?_⟩
  intro delivered
  have stored := delivered checkpoint ⟨7, (4, 100)⟩ (by decide +kernel) (by decide +kernel)
  have absent : ended.objects (objectKey ended.job checkpoint) = none := by decide +kernel
  rw [absent] at stored
  cases stored

end Deployment

end TrainingScheduler.Outputs
