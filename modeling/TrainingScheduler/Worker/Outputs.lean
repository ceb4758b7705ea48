import Mathlib

/-!
# Output directories of batch jobs

The output directory of an attempt, the monitor that uploads it to the object store, and the three
paths of the executor that fill and clear it: fresh training, the resume attempt of a retry, and
the end of a job.  Contents of files are of an arbitrary type.
-/

namespace TrainingScheduler.Outputs

abbrev Text := List Char

/-- A path below the output directory, as `os.path.relpath` writes it. -/
abbrev Path := Text

/-- `(st_size, st_mtime)`. -/
abbrev Signature := ℕ × ℚ

variable {γ : Type*}

structure File (γ : Type*) where
  content : γ
  signature : Signature
  deriving DecidableEq, Repr

/-- `META_FILE`: the record of the files that came with the image. -/
def metaFile : Path := ".output_baseline".toList

def trainingLog : Path := "training.log".toList

/-- The names that `_restore_job_output` takes for logs. -/
def logNames : List Text :=
  ["build.log".toList, trainingLog, "vram-estimation.log".toList]

def objectKey (job : Text) (path : Path) : Text := job ++ '/' :: path

private theorem objectKey_injective (job : Text) : Function.Injective (objectKey job) := by
  intro left right same
  simpa [objectKey] using same

@[simp]
theorem objectKey_inj {job : Text} {left right : Path} :
    objectKey job left = objectKey job right ↔ left = right :=
  (objectKey_injective job).eq_iff

/-- An upload in flight: what was read, and whether the file has changed since. -/
structure Visit where
  path : Path
  signature : Signature
  changed : Bool
  deriving DecidableEq, Repr

def Visit.touch (visit : Visit) (path : Path) : Visit :=
  { visit with changed := visit.changed || decide (visit.path = path) }

/-- The output directory of an attempt with its monitor, and the objects of the store. -/
structure Workspace (γ : Type*) where
  job : Text
  files : Path → Option (File γ)
  excluded : Path → Bool
  uploaded : Text → Option Signature
  visit : Option Visit
  objects : Text → Option γ

/-- What `upload_file` comes to.  A file that changes under the reader may be stored in any shape,
and a request without an acknowledgement may still have replaced the object. -/
inductive Upload (γ : Type*) where
  | stored (torn : γ)
  | failed (effect : Option γ)

inductive Event (γ : Type*) where
  | write (path : Path) (file : File γ)
  | remove (path : Path)
  | visit (path : Path) (authority readable : Bool)
  | finish (upload : Upload γ)
  | log (effect : Option γ)

namespace Workspace

/-- An object that a request has replaced, if it took effect. -/
def replace (objects : Text → Option γ) (key : Text) : Option γ → Text → Option γ
  | none => objects
  | some content => Function.update objects key (some content)

variable (workspace : Workspace γ)

def write (path : Path) (file : Option (File γ)) : Workspace γ :=
  { workspace with
    files := Function.update workspace.files path file
    visit := workspace.visit.map (·.touch path) }

/-- `os.stat`. -/
def stat (readable : Bool) (path : Path) : Option (File γ) :=
  if readable then workspace.files path else none

/-- The part of `_maybe_upload` before `upload_file`. -/
def maybeUpload (path : Path) (authority readable : Bool) : Workspace γ :=
  if workspace.visit.isSome || workspace.excluded path || !authority then workspace
  else
    match workspace.stat readable path with
    | none => workspace
    | some file =>
      if workspace.uploaded (objectKey workspace.job path) = some file.signature then workspace
      else { workspace with visit := some ⟨path, file.signature, false⟩ }

/-- The content that a completed upload leaves in the store. -/
def sent (visit : Visit) (torn : γ) : γ :=
  if visit.changed then torn
  else
    match workspace.files visit.path with
    | none => torn
    | some file => file.content

/-- The end of `upload_file`, and what `_maybe_upload` notes of it. -/
def finishUpload (upload : Upload γ) : Workspace γ :=
  match workspace.visit with
  | none => workspace
  | some visit =>
    let key := objectKey workspace.job visit.path
    match upload with
    | .stored torn =>
      { workspace with
        objects := Function.update workspace.objects key (some (workspace.sent visit torn))
        uploaded := Function.update workspace.uploaded key (some visit.signature)
        visit := none }
    | .failed effect =>
      { workspace with objects := replace workspace.objects key effect, visit := none }

/-- `_append_build_log`: one request for the log object of the job. -/
def appendLog (effect : Option γ) : Workspace γ :=
  { workspace with
    objects := replace workspace.objects (objectKey workspace.job trainingLog) effect }

def step : Event γ → Workspace γ
  | .write path file => workspace.write path (some file)
  | .remove path => workspace.write path none
  | .visit path authority readable => workspace.maybeUpload path authority readable
  | .finish upload => workspace.finishUpload upload
  | .log effect => workspace.appendLog effect

def perform (events : List (Event γ)) : Workspace γ :=
  events.foldl step workspace

/-- `pending_uploads` over the files that `os.walk` lists. -/
def pendingUploads (listing : List Path) (readable : Path → Bool) : List Path :=
  listing.filter fun path =>
    !workspace.excluded path &&
      match workspace.stat (readable path) path with
      | none => false
      | some file =>
        decide (workspace.uploaded (objectKey workspace.job path) ≠ some file.signature)

end Workspace

/-- One call of `_maybe_upload` with nothing happening in between. -/
structure UploadAttempt (γ : Type*) where
  path : Path
  authority : Bool
  readable : Bool
  upload : Upload γ

def UploadAttempt.events (attempt : UploadAttempt γ) : List (Event γ) :=
  [.visit attempt.path attempt.authority attempt.readable, .finish attempt.upload]

/-- `_scan`, over the files that `os.walk` lists. -/
def scan (attempts : List (UploadAttempt γ)) : List (Event γ) :=
  attempts.flatMap UploadAttempt.events

/-- `flush`: one scan after the other. -/
def flush (scans : List (List (UploadAttempt γ))) : List (Event γ) :=
  scans.flatMap scan

/-- The tree that a workspace is prepared in. -/
structure Tree (γ : Type*) where
  files : Path → Option (File γ)
  directories : Path → Bool

/-- The directories above a path, the output directory itself apart. -/
def parents (path : Path) : List Path :=
  path.inits.filter fun directory => (directory ++ ['/']).isPrefixOf path

theorem mem_parents {directory path : Path} :
    directory ∈ parents path ↔ ∃ rest, path = directory ++ '/' :: rest := by
  simp only [parents, List.mem_filter, List.mem_inits, List.isPrefixOf_iff_prefix]
  constructor
  · rintro ⟨_, rest, same⟩
    exact ⟨rest, by simpa using same.symm⟩
  · rintro ⟨rest, same⟩
    exact ⟨⟨'/' :: rest, same.symm⟩, ⟨rest, by simp [same]⟩⟩

def basename (path : Path) : Text := (path.splitOn '/').getLast?.getD []

/-- The value of a hexadecimal digit. -/
def hexDigit (char : Char) : Option ℕ := "0123456789abcdef".toList.idxOf? char.toLower

/-- Every `%` begins an escape. -/
def escaped : Text → Bool
  | [] => true
  | '%' :: high :: low :: rest =>
    (hexDigit high).isSome && (hexDigit low).isSome && escaped rest
  | char :: rest => char != '%' && escaped rest

/-- The bytes of a text, its escapes decoded. -/
def unquote : Text → List UInt8
  | [] => []
  | '%' :: high :: low :: rest =>
    .ofNat (16 * (hexDigit high).getD 0 + (hexDigit low).getD 0) :: unquote rest
  | char :: rest => String.utf8EncodeChar char ++ unquote rest

/-- The key that the object store reads in the URL of `download`, which holds the key as it is.  A
`#` or a `?` ends it, and its escapes are decoded, unless some `%` is none: then all are quoted. -/
def requestedKey (decode : List UInt8 → Text) (key : Text) : Text :=
  let path := key.takeWhile fun char => char != '#' && char != '?'
  if path.contains '%' && escaped path then decode (unquote path) else path

/-- No character of the key has a meaning in a URL. -/
def plainKey (key : Text) : Bool := key.all fun char => char != '#' && char != '?' && char != '%'

theorem requestedKey_eq_self {decode : List UInt8 → Text} {key : Text}
    (plain : plainKey key = true) : requestedKey decode key = key := by
  simp only [plainKey, List.all_eq_true, Bool.and_eq_true, bne_iff_ne] at plain
  have whole : (key.takeWhile fun char => char != '#' && char != '?') = key :=
    List.takeWhile_eq_self_iff.mpr fun char member => by simp [plain char member]
  have unescaped : key.contains '%' = false := by
    simpa using fun member => (plain '%' member).2 rfl
  simp only [requestedKey, whole, unescaped, Bool.false_and, Bool.false_eq_true, if_false]

example : requestedKey (fun _ => []) "7/best#2.pt".toList = "7/best".toList ∧
    requestedKey (fun _ => []) "7/100%".toList = "7/100%".toList := by
  decide +kernel

/-- What the object store and the disk answer to one download: the object, or what is saved in its
place, a part of it or another object. -/
inductive Download (γ : Type*) where
  | served (signature : Signature)
  | failed (partly : Option (File γ))

/-- An entry of `list_objects`, whether it is a large file, and how its download ends. -/
structure Listed (γ : Type*) where
  key : Text
  large : Bool
  download : Download γ

namespace Tree

/-- `open(dest, "wb")` and the writes that follow, below directories that exist. -/
def put (tree : Tree γ) (path : Path) (file : File γ) : Tree γ where
  files := Function.update tree.files path (some file)
  directories := fun directory => tree.directories directory || (parents path).contains directory

/-- `os.makedirs` of the directories above a path fails on a file among them. -/
def blocked (tree : Tree γ) (path : Path) : Bool :=
  (parents path).any fun directory => (tree.files directory).isSome

/-- The part of `download_to` from `os.makedirs` on.  Only a small object lets the exception of
`os.makedirs` out, and an `open` that fails is reported as a failed download. -/
def save (tree : Tree γ) (large : Bool) (path : Path) (file : File γ) :
    Except (Tree γ) (Tree γ) :=
  if tree.blocked path then if large then .ok tree else .error tree
  else if tree.directories path then .ok tree
  else .ok (tree.put path file)

/-- `download_to`. -/
def downloadTo (tree : Tree γ) (objects : Text → Option γ) (listed : Listed γ) (path : Path) :
    Except (Tree γ) (Tree γ) :=
  match objects listed.key, listed.download with
  | none, _ => .ok tree
  | some _, .failed none => .ok tree
  | some _, .failed (some file) => tree.save listed.large path file
  | some content, .served signature => tree.save listed.large path ⟨content, signature⟩

end Tree

/-- The path that `_restore_job_output` gives an object. -/
def relPath (job key : Text) : Path :=
  if (job ++ ['/']).isPrefixOf key then key.drop (job.length + 1) else key

@[simp]
theorem relPath_objectKey (job : Text) (path : Path) : relPath job (objectKey job path) = path := by
  have prefixed : (job ++ ['/']).isPrefixOf (objectKey job path) = true := by
    rw [List.isPrefixOf_iff_prefix]
    exact ⟨path, by simp [objectKey]⟩
  have dropped : (objectKey job path).drop (job.length + 1) = path := by
    simp [objectKey, List.drop_append]
  rw [relPath, if_pos prefixed, dropped]

/-- An object that is no training state. -/
def skipped (path : Path) : Bool := path.isEmpty || logNames.contains (basename path)

/-- `_restore_job_output` over the answer of `list_objects`, an empty one on failure.  An exception
leaves the tree as far as it has been restored. -/
def restoreJobOutput (job : Text) (objects : Text → Option γ) :
    List (Listed γ) → Tree γ → Except (Tree γ) (Tree γ)
  | [], tree => .ok tree
  | listed :: rest, tree =>
    if skipped (relPath job listed.key) then restoreJobOutput job objects rest tree
    else
      (tree.downloadTo objects listed (relPath job listed.key)).bind
        (restoreJobOutput job objects rest)

/-- What `_prepare_output_mount` leaves: the tree of the image with the record of its files, if that
could be written, or whatever a failed copy left. -/
inductive Seeding (γ : Type*) where
  | seeded (image : Tree γ) (record : Option (File γ))
  | fallback (copied : Tree γ)

namespace Seeding

def tree : Seeding γ → Tree γ
  | .seeded image none => image
  | .seeded image (some record) =>
    { image with files := Function.update image.files metaFile (some record) }
  | .fallback copied => copied

/-- The baseline: the files of the image and the record of them. -/
def baseline : Seeding γ → Path → Bool
  | .seeded image _ => fun path => (image.files path).isSome || decide (path = metaFile)
  | .fallback _ => fun _ => false

end Seeding

inductive Exit where
  | code (value : ℤ)
  | error
  deriving DecidableEq, Repr

/-- What `_run_container` reports as success. -/
def Exit.success (exit : Exit) : Bool := decide (exit = .code 0)

/-- What the run of a container meets: the events until its output ends, those of the monitor and
of the log until the monitor has stopped, and the scans that `stop` makes after that. -/
structure ContainerRun (γ : Type*) where
  events : List (Event γ)
  exit : Exit
  tail : List (Event γ)
  scans : List (List (UploadAttempt γ))

/-- What `_remove_output_dir` comes to: the files that are left when the directory still exists. -/
inductive Removal where
  | gone
  | left (kept : Path → Bool)

/-- What `_finalize_job` meets. -/
structure Finalization (γ : Type*) where
  scans : List (List (UploadAttempt γ))
  listing : List Path
  readable : Path → Bool
  removal : Removal

/-- What the executor does about the outputs of a job, with the workspace it does it to. -/
inductive Deed (γ : Type*) where
  | deleted (workspace : Workspace γ)
  | completed (exit : Exit) (workspace : Workspace γ)
  | failed

namespace Workspace

variable (workspace : Workspace γ)

def clear : Removal → Workspace γ
  | .gone => { workspace with files := fun _ => none }
  | .left kept =>
    { workspace with files := fun path => if kept path then workspace.files path else none }

/-- A new monitor over a directory. -/
def monitor (files : Path → Option (File γ)) (excluded : Path → Bool) : Workspace γ :=
  { workspace with files := files, excluded := excluded, uploaded := fun _ => none, visit := none }

def runContainer (run : ContainerRun γ) : Workspace γ :=
  ((workspace.perform run.events).perform run.tail).perform (flush run.scans)

/-- The workspace that `_finalize_job` looks at for pending uploads. -/
def flushed (ending : Finalization γ) : Workspace γ :=
  workspace.perform (flush ending.scans)

def finalizeJob (exit : Exit) (ending : Finalization γ) : List (Deed γ) × Workspace γ :=
  let flushed := workspace.flushed ending
  if flushed.pendingUploads ending.listing ending.readable ≠ [] then ([.failed], flushed)
  else
    (.deleted flushed :: [if exit.success then .completed exit flushed else .failed],
      flushed.clear ending.removal)

end Workspace

/-- What a fresh training run meets. -/
structure Training (γ : Type*) where
  cleared : Removal
  seeding : Seeding γ
  run : ContainerRun γ
  ending : Finalization γ

/-- What a resume attempt meets: the record of the baseline that it loads when there is one, the
seeding and the restore when there is none. -/
structure Resume (γ : Type*) where
  loaded : Path → Bool
  cleared : Removal
  seeding : Seeding γ
  listing : List (Listed γ)
  run : ContainerRun γ
  ending : Finalization γ
  discarded : Removal

/-- A job that `process_job` runs, with what it meets on the way. -/
inductive JobRun (γ : Type*) where
  | training (training : Training γ)
  | retry (resume : Option (Resume γ)) (original : Option (Training γ))

namespace Training

/-- The workspace that the container of a fresh run starts in. -/
def start (training : Training γ) (workspace : Workspace γ) : Workspace γ :=
  workspace.monitor training.seeding.tree.files training.seeding.baseline

/-- `handle_training`. -/
def handleTraining (training : Training γ) (workspace : Workspace γ) :
    List (Deed γ) × Workspace γ :=
  match training.cleared with
  | .left kept => ([.deleted workspace, .failed], workspace.clear (.left kept))
  | .gone =>
    let ended := (training.start workspace).runContainer training.run
    let (deeds, last) := ended.finalizeJob training.run.exit training.ending
    (.deleted workspace :: deeds, last)

end Training

namespace Resume

/-- How the workspace of a resume attempt comes about. -/
inductive Prepared (γ : Type*) where
  | reused (workspace : Workspace γ)
  | uncleared (kept : Path → Bool)
  | raised (workspace : Workspace γ)
  | restored (workspace : Workspace γ)

variable (resume : Resume γ) (workspace : Workspace γ)

/-- `_resume_attempt` up to the start of its container. -/
def prepare : Prepared γ :=
  if (workspace.files metaFile).isSome then
    .reused (workspace.monitor workspace.files fun path =>
      resume.loaded path || decide (path = metaFile))
  else
    match resume.cleared with
    | .left kept => .uncleared kept
    | .gone =>
      match restoreJobOutput workspace.job workspace.objects resume.listing
          resume.seeding.tree with
      | .error tree => .raised { workspace with files := tree.files }
      | .ok tree => .restored (workspace.monitor tree.files resume.seeding.baseline)

/-- What a resume attempt tells `handle_retry`. -/
inductive Verdict where
  | finished
  | system
  | user
  | raised
  deriving DecidableEq, Repr

/-- The container of a resume attempt and what follows it. -/
def attempt : List (Deed γ) × Workspace γ × Verdict :=
  let ended := workspace.runContainer resume.run
  if resume.run.exit.success then
    let (deeds, last) := ended.finalizeJob resume.run.exit resume.ending
    (deeds, last, .finished)
  else
    match resume.discarded with
    | .left kept => ([.deleted ended], ended.clear (.left kept), .system)
    | .gone =>
      ([.deleted ended], ended.clear .gone, if resume.run.exit = .error then .system else .user)

/-- `_resume_attempt`. -/
def resumeAttempt : List (Deed γ) × Workspace γ × Verdict :=
  match resume.prepare workspace with
  | .reused started => resume.attempt started
  | .uncleared kept => ([.deleted workspace], workspace.clear (.left kept), .system)
  | .raised left => ([.deleted workspace, .failed], left, .raised)
  | .restored started =>
    let (deeds, last) := resume.attempt started
    (.deleted workspace :: deeds, last)

end Resume

namespace JobRun

/-- The part of `handle_retry` after the resume attempt. -/
def startFresh (original : Option (Training γ)) (workspace : Workspace γ) :
    List (Deed γ) × Workspace γ :=
  match original with
  | none => ([.failed], workspace)
  | some fresh => fresh.handleTraining workspace

/-- `handle_training` and `handle_retry`, as `process_job` calls them. -/
def processJob (run : JobRun γ) (workspace : Workspace γ) : List (Deed γ) × Workspace γ :=
  match run with
  | .training fresh => fresh.handleTraining workspace
  | .retry none original => startFresh original workspace
  | .retry (some resume) original =>
    let (deeds, last, verdict) := resume.resumeAttempt workspace
    match verdict with
    | .finished | .raised => (deeds, last)
    | .system => (deeds ++ [.failed], last)
    | .user =>
      let (more, final) := startFresh original last
      (deeds ++ more, final)

end JobRun

end TrainingScheduler.Outputs
