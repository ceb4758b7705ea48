import TrainingScheduler.Worker.Deliveries

/-!
# Checkpoints on another Worker

The outputs of a run, uploaded by the monitor and restored into a workspace that is freshly seeded
with the image.  A file comes back exactly when it does not carry the name of a log, the image does
not stand in its way, and its download asks for the right object.
-/

namespace TrainingScheduler.Outputs

variable {γ : Type*}

/-- A path that the restore never writes: a log, or one that the tree has no room for. -/
def Tree.Refused (tree : Tree γ) (path : Path) : Prop :=
  skipped path = true ∨ tree.blocked path = true ∨ tree.directories path = true

/-- The content that the download of an entry saves. -/
def Listed.content (objects : Text → Option γ) (listed : Listed γ) : Option γ :=
  match objects listed.key, listed.download with
  | none, _ => none
  | some _, .failed partly => partly.map File.content
  | some content, .served _ => some content

/-- A path below directories, where there is no directory. -/
def Tree.Open (tree : Tree γ) (path : Path) : Prop :=
  tree.blocked path = false ∧ tree.directories path = false

variable {tree last : Tree γ}

namespace Tree

variable {path : Path}

theorem not_refused_iff : ¬ tree.Refused path ↔ skipped path = false ∧ tree.Open path := by
  simp [Refused, Open, not_or]

theorem blocked_iff :
    tree.blocked path = true ↔ ∃ directory ∈ parents path, (tree.files directory).isSome := by
  simp [blocked]

theorem Refused.put (refused : tree.Refused path) (target : Path) (file : File γ) :
    (tree.put target file).Refused path := by
  rcases refused with isLog | blocked | taken
  · exact Or.inl isLog
  · obtain ⟨directory, above, present⟩ := blocked_iff.mp blocked
    refine Or.inr (Or.inl (blocked_iff.mpr ⟨directory, above, ?_⟩))
    by_cases same : directory = target
    · simp [Tree.put, same]
    · simpa [Tree.put, same] using present
  · exact Or.inr (Or.inr (by simp [Tree.put, taken]))

theorem Open.put {target : Path} (opened : tree.Open path) (beside : target ∉ parents path)
    (above : path ∉ parents target) (file : File γ) : (tree.put target file).Open path := by
  refine ⟨Bool.eq_false_iff.mpr fun blocked => ?_, by simp [Tree.put, opened.2, above]⟩
  obtain ⟨directory, within, present⟩ := blocked_iff.mp blocked
  have differs : directory ≠ target := fun same => beside (same ▸ within)
  have earlier : tree.blocked path = true :=
    blocked_iff.mpr ⟨directory, within, by simpa [Tree.put, differs] using present⟩
  rw [opened.1] at earlier
  cases earlier

theorem save_cases {large : Bool} {file : File γ} (saved : tree.save large path file = .ok last) :
    last = tree ∨ (tree.Open path ∧ last = tree.put path file) := by
  rw [save] at saved
  split at saved
  · split at saved
    · exact Or.inl (Except.ok.inj saved).symm
    · cases saved
  · rename_i free
    split at saved
    · exact Or.inl (Except.ok.inj saved).symm
    · rename_i absent
      exact Or.inr ⟨⟨by simpa using free, by simpa using absent⟩, (Except.ok.inj saved).symm⟩

theorem downloadTo_cases {objects : Text → Option γ} {listed : Listed γ}
    (done : tree.downloadTo objects listed path = .ok last) :
    last = tree ∨ ∃ file, listed.content objects = some file.content ∧ tree.Open path ∧
      last = tree.put path file := by
  rw [downloadTo] at done
  split at done
  · exact Or.inl (Except.ok.inj done).symm
  · exact Or.inl (Except.ok.inj done).symm
  · rename_i file holds download
    refine (save_cases done).imp_right fun written => ⟨file, ?_, written⟩
    simp [Listed.content, holds, download]
  · rename_i content signature holds download
    refine (save_cases done).imp_right fun written => ⟨⟨content, signature⟩, ?_, written⟩
    simp [Listed.content, holds, download]

private theorem downloadTo_of_content {objects : Text → Option γ} {listed : Listed γ} {content : γ}
    (brings : listed.content objects = some content) (opened : tree.Open path) :
    ∃ signature, tree.downloadTo objects listed path =
      .ok (tree.put path ⟨content, signature⟩) := by
  have saved (file : File γ) : tree.save listed.large path file = .ok (tree.put path file) := by
    rw [save, if_neg (by simp [opened.1]), if_neg (by simp [opened.2])]
  rw [Listed.content] at brings
  rw [downloadTo]
  split at brings
  · cases brings
  · rename_i partly holds download
    obtain ⟨⟨_, signature⟩, rfl, rfl⟩ := Option.map_eq_some_iff.mp brings
    exact ⟨signature, by simp [holds, download, saved]⟩
  · rename_i held signature holds download
    cases brings
    exact ⟨signature, by simp [holds, download, saved]⟩

end Tree

variable {job : Text} {path : Path} {listing : List (Listed γ)}

/-- A path that is refused, or for which the store has other contents, does not get a content that
it does not have. -/
theorem restore_misses {objects : Text → Option γ} {content : γ}
    (missing : ∀ file, tree.files path = some file → file.content ≠ content)
    (never : tree.Refused path ∨ ∀ listed ∈ listing, relPath job listed.key = path →
      listed.content objects ≠ some content)
    (done : restoreJobOutput job objects listing tree = .ok last) :
    ∀ file, last.files path = some file → file.content ≠ content := by
  induction listing generalizing tree with
  | nil =>
    cases done
    exact missing
  | cons listed rest ih =>
    have later : ∀ {next : Tree γ}, (tree.Refused path → next.Refused path) →
        next.Refused path ∨ ∀ listed ∈ rest, relPath job listed.key = path →
          listed.content objects ≠ some content := fun kept =>
      never.imp kept fun others => fun entry member => others entry (List.mem_cons_of_mem _ member)
    rw [restoreJobOutput] at done
    split at done
    · exact ih missing (later id) done
    · rename_i notLog
      cases stepped : tree.downloadTo objects listed (relPath job listed.key) with
      | error left =>
        rw [stepped] at done
        cases done
      | ok middle =>
        rw [stepped] at done
        rcases Tree.downloadTo_cases stepped with rfl | ⟨file, brings, opened, rfl⟩
        · exact ih missing (later id) done
        · refine ih (fun stored found => ?_) (later fun refused => refused.put _ file) done
          by_cases same : path = relPath job listed.key
          · subst same
            obtain rfl : file = stored := by simpa [Tree.put] using found
            rintro rfl
            rcases never with refused | others
            · exact Tree.not_refused_iff.mpr ⟨by simpa using notLog, opened⟩ refused
            · exact others listed List.mem_cons_self rfl brings
          · exact missing stored (by simpa [Tree.put, same] using found)

/-- Paths of which none lies above another. -/
def Scattered (outputs : Path → Prop) : Prop :=
  ∀ path directory, outputs path → directory ∈ parents path → ¬ outputs directory

/-- A path holds what the store has for it. -/
def Tree.Restored (tree : Tree γ) (job : Text) (objects : Text → Option γ) (path : Path) : Prop :=
  ∃ content signature, objects (objectKey job path) = some content ∧
    tree.files path = some ⟨content, signature⟩

theorem Tree.Restored.put {objects : Text → Option γ} {target : Path} {content : γ}
    (restored : tree.Restored job objects path)
    (holds : objects (objectKey job target) = some content) (signature : Signature) :
    (tree.put target ⟨content, signature⟩).Restored job objects path := by
  by_cases same : path = target
  · subst same
    exact ⟨content, signature, holds, by simp [Tree.put]⟩
  · obtain ⟨value, time, stored, present⟩ := restored
    exact ⟨value, time, stored, by simpa [Tree.put, same] using present⟩

/-- Every entry of the listing is a log or an output, whose download brings it. -/
def Served (job : Text) (objects : Text → Option γ) (outputs : Path → Prop)
    (listing : List (Listed γ)) : Prop :=
  ∀ listed ∈ listing, ∃ path content, listed.key = objectKey job path ∧
    objects listed.key = some content ∧
    (skipped path = true ∨ outputs path ∧ listed.content objects = some content)

/-- Open paths of which none lies above another all come back. -/
theorem restore_open {objects : Text → Option γ} {outputs : Path → Prop}
    (scattered : Scattered outputs)
    (opened : ∀ path, outputs path → skipped path = false ∧ tree.Open path)
    (served : Served job objects outputs listing) :
    ∃ last, restoreJobOutput job objects listing tree = .ok last ∧
      ∀ path, outputs path →
        objectKey job path ∈ listing.map Listed.key ∨ tree.Restored job objects path →
        last.Restored job objects path := by
  induction listing generalizing tree with
  | nil => exact ⟨tree, rfl, fun path _ present => present.resolve_left List.not_mem_nil⟩
  | cons listed rest ih =>
    have servedRest : Served job objects outputs rest :=
      fun later member => served later (List.mem_cons_of_mem _ member)
    obtain ⟨target, content, key, holds, kind⟩ := served listed List.mem_cons_self
    rw [restoreJobOutput, key, relPath_objectKey]
    by_cases isLog : skipped target = true
    · obtain ⟨last, done, restored⟩ := ih opened servedRest
      refine ⟨last, by rw [if_pos isLog]; exact done, fun path output present => ?_⟩
      refine restored path output (present.imp_left fun member => ?_)
      rw [List.map_cons, List.mem_cons, key, objectKey_inj] at member
      rcases member with rfl | later
      · rw [(opened path output).1] at isLog
        cases isLog
      · exact later
    · obtain ⟨output, brings⟩ := kind.resolve_left isLog
      obtain ⟨signature, stepped⟩ := Tree.downloadTo_of_content brings (opened target output).2
      have openedNext : ∀ path, outputs path → skipped path = false ∧
          (tree.put target ⟨content, signature⟩).Open path := fun path other =>
        ⟨(opened path other).1, (opened path other).2.put
          (fun above => scattered path target other above output)
          (fun above => scattered target path output above other) _⟩
      obtain ⟨last, done, restored⟩ := ih openedNext servedRest
      refine ⟨last, by rw [if_neg isLog, stepped]; exact done, fun path other present => ?_⟩
      rw [key] at holds
      refine restored path other ?_
      rcases present with member | already
      · rw [List.map_cons, List.mem_cons, key, objectKey_inj] at member
        rcases member with rfl | later
        · exact Or.inr ⟨content, signature, holds, by simp [Tree.put]⟩
        · exact Or.inl later
      · exact Or.inr (already.put holds signature)

theorem Workspace.step_monitor (workspace : Workspace γ) {event : Event γ}
    (monitor : event.byContainer = false) :
    (workspace.step event).files = workspace.files ∧ (workspace.step event).job = workspace.job ∧
      (workspace.step event).excluded = workspace.excluded := by
  cases event with
  | write | remove => simp [Event.byContainer] at monitor
  | visit path authority readable =>
    rw [Workspace.step, Workspace.maybeUpload]
    repeat' split
    all_goals exact ⟨rfl, rfl, rfl⟩
  | finish upload =>
    rw [Workspace.step, Workspace.finishUpload]
    repeat' split
    all_goals exact ⟨rfl, rfl, rfl⟩
  | log effect => exact ⟨rfl, rfl, rfl⟩

/-- An output of a workspace: a file outside the baseline. -/
def Workspace.Output (workspace : Workspace γ) (path : Path) : Prop :=
  (workspace.files path).isSome ∧ workspace.excluded path = false

open Outputs.Workspace

/-- The objects of the job are its outputs and its logs, and only outputs are being uploaded. -/
structure Workspace.Confined (workspace : Workspace γ) : Prop where
  objects : ∀ path, (workspace.objects (objectKey workspace.job path)).isSome →
    path ∈ logNames ∨ workspace.Output path
  visit : ∀ visit, workspace.visit = some visit → workspace.Output visit.path

theorem trainingLog_mem : trainingLog ∈ logNames :=
  List.mem_cons_of_mem _ List.mem_cons_self

namespace Workspace.Confined

variable {workspace : Workspace γ}

theorem replace (confined : workspace.Confined) {path : Path}
    (allowed : path ∈ logNames ∨ workspace.Output path) (effect : Option γ) (other : Path)
    (present : (replace workspace.objects (objectKey workspace.job path) effect
      (objectKey workspace.job other)).isSome) :
    other ∈ logNames ∨ workspace.Output other := by
  by_cases same : other = path
  · exact same ▸ allowed
  · rw [Tracked.replace_other _ _ same] at present
    exact confined.objects other present

theorem step (confined : workspace.Confined) {event : Event γ}
    (monitor : event.byContainer = false) : (workspace.step event).Confined := by
  cases event with
  | write | remove => simp [Event.byContainer] at monitor
  | visit path authority readable =>
    rw [Workspace.step, Workspace.maybeUpload]
    split
    · exact confined
    · rename_i idle
      split
      · exact confined
      · rename_i file seen
        split
        · exact confined
        · refine ⟨confined.objects, fun visit flying => ?_⟩
          obtain rfl := Option.some.inj flying
          simp only [Bool.or_eq_true, not_or, Bool.not_eq_true] at idle
          refine ⟨?_, idle.1.2⟩
          rw [stat] at seen
          split at seen
          · exact Option.isSome_iff_exists.mpr ⟨file, seen⟩
          · cases seen
  | finish upload =>
    rw [Workspace.step, Workspace.finishUpload]
    split
    · exact confined
    · rename_i visit flying
      have allowed := Or.inr (a := visit.path ∈ logNames) (confined.visit visit flying)
      cases upload with
      | stored torn =>
        exact ⟨confined.replace allowed (some (workspace.sent visit torn)),
          fun _ landed => by cases landed⟩
      | failed effect =>
        exact ⟨confined.replace allowed effect, fun _ landed => by cases landed⟩
  | log effect => exact ⟨confined.replace (Or.inl trainingLog_mem) effect, confined.visit⟩

end Workspace.Confined

variable {workspace : Workspace γ} {events : List (Event γ)}

theorem perform_monitor (monitor : ∀ event ∈ events, event.byContainer = false)
    (confined : workspace.Confined) :
    (workspace.perform events).Confined ∧ (workspace.perform events).files = workspace.files ∧
      (workspace.perform events).job = workspace.job ∧
      (workspace.perform events).excluded = workspace.excluded := by
  induction events generalizing workspace with
  | nil => exact ⟨confined, rfl, rfl, rfl⟩
  | cons event rest ih =>
    have here := monitor event List.mem_cons_self
    obtain ⟨files, job, excluded⟩ := workspace.step_monitor here
    have following := ih (fun later member => monitor later (List.mem_cons_of_mem _ member))
      (confined.step here)
    rw [files, job, excluded] at following
    exact following

/-- What a run leaves to its monitor: files of which none lies below another, and a store that holds
of the job at most its logs. -/
structure Leftover (workspace : Workspace γ) : Prop where
  named : workspace.files [] = none
  tree : ∀ path directory, (workspace.files path).isSome → directory ∈ parents path →
    workspace.files directory = none
  logs : ∀ path, (workspace.objects (objectKey workspace.job path)).isSome → path ∈ logNames
  fresh : workspace.uploaded = fun _ => none
  idle : workspace.visit = none

/-- The uploads of a run that leave nothing pending. -/
structure Uploaded (workspace : Workspace γ) (events : List (Event γ)) : Prop where
  monitor : ∀ event ∈ events, event.byContainer = false
  settled : ∀ listing, (workspace.perform events).pendingUploads listing (fun _ => true) = []

/-- `list_objects` names every object of the job, and every download is served. -/
structure Listing (job : Text) (objects : Text → Option γ) (listing : List (Listed γ)) :
    Prop where
  keys : ∀ key, key ∈ listing.map Listed.key ↔ (job ++ ['/']) <+: key ∧ (objects key).isSome
  served : ∀ listed ∈ listing, ∃ signature, listed.download = .served signature

/-- What a store that returns what was last stored answers to `download_to`: a large object is asked
for under its key, a small one under the key of the URL. -/
def answer (decode : List UInt8 → Text) (objects : Text → Option γ) (key : Text) (large : Bool)
    (signature : Signature) : Download γ :=
  if large || requestedKey decode key == key then .served signature
  else .failed ((objects (requestedKey decode key)).map (⟨·, signature⟩))

/-- `list_objects` names every object of the job once, and the store answers every download. -/
structure Answered (decode : List UInt8 → Text) (job : Text) (objects : Text → Option γ)
    (listing : List (Listed γ)) : Prop where
  keys : ∀ key, key ∈ listing.map Listed.key ↔ (job ++ ['/']) <+: key ∧ (objects key).isSome
  distinct : (listing.map Listed.key).Nodup
  answers : ∀ listed ∈ listing, ∃ signature,
    listed.download = answer decode objects listed.key listed.large signature

/-- An object is found: it is large, or the store has the same content under the key of its URL. -/
def Found (decode : List UInt8 → Text) (objects : Text → Option γ) (listing : List (Listed γ))
    (key : Text) : Prop :=
  ∀ listed ∈ listing, listed.key = key →
    listed.large = true ∨ objects (requestedKey decode key) = objects key

namespace Answered

variable {decode : List UInt8 → Text} {objects : Text → Option γ} {listed : Listed γ} {content : γ}

theorem content_iff (answered : Answered decode job objects listing) (member : listed ∈ listing)
    (holds : objects listed.key = some content) :
    listed.content objects = some content ↔
      listed.large = true ∨ objects (requestedKey decode listed.key) = objects listed.key := by
  obtain ⟨signature, download⟩ := answered.answers listed member
  rw [Listed.content, holds, download, answer]
  cases listed.large with
  | true => simp
  | false =>
    by_cases same : requestedKey decode listed.key = listed.key
    · simp [same, holds]
    · cases objects (requestedKey decode listed.key) <;> simp [same]

theorem key_eq (answered : Answered decode job objects listing) (member : listed ∈ listing) :
    listed.key = objectKey job (relPath job listed.key) := by
  obtain ⟨⟨path, key⟩, -⟩ := (answered.keys listed.key).mp (List.mem_map_of_mem member)
  have named : listed.key = objectKey job path := by simpa [objectKey] using key.symm
  rw [named, relPath_objectKey]

/-- An object that is not found is brought by no entry. -/
theorem content_ne (answered : Answered decode job objects listing)
    (holds : objects (objectKey job path) = some content)
    (missed : ¬ Found decode objects listing (objectKey job path)) (member : listed ∈ listing)
    (same : relPath job listed.key = path) : listed.content objects ≠ some content := by
  simp only [Found, not_forall] at missed
  obtain ⟨other, other_mem, key, lost⟩ := missed
  -- the entry of the path is the only one for it
  obtain rfl : listed = other := List.inj_on_of_nodup_map answered.distinct member other_mem
    (by rw [answered.key_eq member, same, key])
  rw [← key] at holds lost
  exact mt (answered.content_iff member holds).mp lost

end Answered

/-- Every output of the workspace is in the tree with its content. -/
def Reproduced (workspace : Workspace γ) (tree : Tree γ) : Prop :=
  ∀ path file, workspace.files path = some file → workspace.excluded path = false →
    ∃ signature, tree.files path = some ⟨file.content, signature⟩

theorem Leftover.tracked (leftover : Leftover workspace) :
    Tracked workspace.signatures workspace := by
  have same : workspace.monitor workspace.files workspace.excluded = workspace := by
    rw [monitor, ← leftover.fresh, ← leftover.idle]
  have tracked := Tracked.monitor workspace workspace.files workspace.excluded
  rwa [same] at tracked

theorem Leftover.confined (leftover : Leftover workspace) :
    workspace.Confined where
  objects := fun path present => Or.inl (leftover.logs path present)
  visit := fun visit flying => by
    rw [leftover.idle] at flying
    cases flying

/-- After the uploads the store holds every output that is not the log. -/
theorem Uploaded.stored (uploaded : Uploaded workspace events) (leftover : Leftover workspace)
    {file : File γ} (present : workspace.files path = some file)
    (output : workspace.excluded path = false) (notLog : path ≠ trainingLog) :
    (workspace.perform events).objects (objectKey workspace.job path) = some file.content := by
  obtain ⟨known, tracked⟩ := leftover.tracked.perform (renewed_of_monitor _ uploaded.monitor)
  obtain ⟨_, files, job, excluded⟩ := perform_monitor uploaded.monitor leftover.confined
  have sent := List.filter_eq_nil_iff.mp (uploaded.settled [path]) path List.mem_cons_self
  rw [stat, files, job, excluded] at sent
  simp only [output, present] at sent
  have kept := tracked.stored path file (by rw [files]; exact present)
    (by rw [job]; simpa using sent) notLog
  rwa [job] at kept

/-- The outputs of a run come back on another Worker exactly when none of them has the name of a
log, lies below a file of the image or is a directory of the image, and each is found by its
download. -/
theorem checkpoint_round_trip (decode : List UInt8 → Text) (workspace : Workspace γ)
    (events : List (Event γ)) (seeding : Seeding γ) (listing : List (Listed γ))
    (leftover : Leftover workspace)
    (baseline : ∀ path, (seeding.tree.files path).isSome → workspace.excluded path = true)
    (uploaded : Uploaded workspace events)
    (answered : Answered decode workspace.job (workspace.perform events).objects listing) :
    (∃ tree, restoreJobOutput workspace.job (workspace.perform events).objects listing
        seeding.tree = .ok tree ∧ Reproduced workspace tree) ↔
      ∀ path, workspace.Output path → basename path ∉ logNames ∧
        seeding.tree.blocked path = false ∧ seeding.tree.directories path = false ∧
        Found decode (workspace.perform events).objects listing (objectKey workspace.job path) := by
  have named : ∀ path, workspace.Output path → path ≠ [] := by
    rintro path output rfl
    rw [Workspace.Output, leftover.named] at output
    cases output.1
  have skipped_iff : ∀ path, workspace.Output path →
      (skipped path = false ↔ basename path ∉ logNames) := fun path output => by
    simp [skipped, named path output]
  have stored : ∀ path file, workspace.files path = some file → workspace.excluded path = false →
      basename path ∉ logNames →
      (workspace.perform events).objects (objectKey workspace.job path) = some file.content :=
    fun path file present outside notLog =>
      uploaded.stored leftover present outside (by rintro rfl; exact notLog (by decide +kernel))
  constructor
  · rintro ⟨tree, done, reproduced⟩ path output
    obtain ⟨file, present⟩ := Option.isSome_iff_exists.mp output.1
    obtain ⟨signature, restored⟩ := reproduced path file present output.2
    by_contra missed
    refine restore_misses (fun old found => ?_) ?_ done _ restored rfl
    · have excluded := baseline path (by rw [found]; rfl)
      rw [output.2] at excluded
      cases excluded
    · by_cases refused : seeding.tree.Refused path
      · exact .inl refused
      · obtain ⟨notLog, opened⟩ := Tree.not_refused_iff.mp refused
        have nameless := (skipped_iff path output).mp notLog
        refine .inr fun _ => answered.content_ne (stored path file present output.2 nameless) ?_
        exact fun found => missed ⟨nameless, opened.1, opened.2, found⟩
  · intro accepted
    obtain ⟨confined, files, job, excluded⟩ := perform_monitor uploaded.monitor leftover.confined
    have sameOutput : ∀ path, (workspace.perform events).Output path ↔ workspace.Output path := by
      intro path
      rw [Workspace.Output, Workspace.Output, files, excluded]
    have scattered : Scattered workspace.Output := fun path directory output above below => by
      rw [Workspace.Output, leftover.tree path directory output.1 above] at below
      cases below.1
    have served : Served workspace.job (workspace.perform events).objects workspace.Output
        listing := by
      intro entry member
      have key := answered.key_eq member
      obtain ⟨-, present⟩ := (answered.keys entry.key).mp (List.mem_map_of_mem member)
      obtain ⟨content, holds⟩ := Option.isSome_iff_exists.mp present
      refine ⟨_, content, key, holds, ?_⟩
      have allowed := confined.objects (relPath workspace.job entry.key)
        (by rw [job, ← key]; exact present)
      rw [sameOutput] at allowed
      refine allowed.imp (fun isLog => ?_) fun output => ⟨output, ?_⟩
      · simp only [logNames, List.mem_cons, List.not_mem_nil, or_false] at isLog
        rcases isLog with same | same | same <;> rw [same] <;> decide +kernel
      · rw [answered.content_iff member holds, key]
        exact (accepted _ output).2.2.2 entry member key
    obtain ⟨tree, done, restored⟩ := restore_open scattered
      (fun path output => ⟨(skipped_iff path output).mpr (accepted path output).1,
        (accepted path output).2.1, (accepted path output).2.2.1⟩) served
    refine ⟨tree, done, fun path file present outside => ?_⟩
    have output : workspace.Output path := ⟨by rw [present]; rfl, outside⟩
    have kept := stored path file present outside (accepted path output).1
    obtain ⟨content, signature, holds, there⟩ := restored path output
      (Or.inl ((answered.keys _).mpr ⟨⟨path, by simp [objectKey]⟩, by rw [kept]; rfl⟩))
    obtain rfl : file.content = content := Option.some.inj (kept.symm.trans holds)
    exact ⟨signature, there⟩

/-! A run that leaves one file. -/

namespace Deployment

def left (path : Path) : Workspace ℕ :=
  { empty with files := Function.update (fun _ => none) path (some ⟨7, (4, 100)⟩) }

def uploads (path : Path) : List (Event ℕ) :=
  [.visit path true true, .finish (.stored 0), .log none]

def objects (path : Path) : List (Listed ℕ) :=
  [⟨objectKey empty.job path, false, .served (4, 200)⟩]

theorem left_eq {path other : Path} {file : File ℕ}
    (present : (left path).files other = some file) :
    other = path ∧ file = ⟨7, (4, 100)⟩ := by
  by_cases same : other = path
  · subst same
    exact ⟨rfl, by simpa [left, eq_comm] using present⟩
  · simp [left, same] at present

theorem leftover_left {path : Path} (named : path ≠ []) : Leftover (left path) where
  named := by simp [left, named.symm]
  tree := by
    intro other directory present above
    obtain ⟨file, present⟩ := Option.isSome_iff_exists.mp present
    obtain ⟨rfl, _⟩ := left_eq present
    have differs : directory ≠ other := by
      rintro rfl
      obtain ⟨rest, same⟩ := mem_parents.mp above
      have longer := congrArg List.length same
      simp at longer
    simp [left, differs]
  logs := fun _ present => by cases present
  fresh := rfl
  idle := rfl

theorem uploads_done (path : Path) :
    (left path).perform (uploads path) =
      { left path with
        objects := Function.update (fun _ => none) (objectKey empty.job path) (some 7)
        uploaded := Function.update (fun _ => none) (objectKey empty.job path)
          (some (4, 100)) } := by
  simp [uploads, perform, step, maybeUpload, stat,
    finishUpload, sent, appendLog, replace, left, empty]

theorem uploaded_left (path : Path) : Uploaded (left path) (uploads path) where
  monitor := by
    intro event member
    simp only [uploads, List.mem_cons, List.not_mem_nil, or_false] at member
    rcases member with rfl | rfl | rfl <;> rfl
  settled := by
    intro listing
    rw [uploads_done, pendingUploads, List.filter_eq_nil_iff]
    intro other _
    by_cases same : other = path
    · subst same
      simp [stat, left, empty]
    · simp [stat, left, same]

theorem listing_left (path : Path) :
    Listing (left path).job ((left path).perform (uploads path)).objects (objects path) where
  keys := by
    intro key
    rw [uploads_done]
    by_cases same : key = objectKey empty.job path
    · subst same
      simp only [objects, List.map_cons, List.map_nil, List.mem_singleton, Function.update_self,
        Option.isSome_some, and_true, true_iff]
      exact ⟨path, by simp [objectKey, left]⟩
    · simp [objects, same]
  served := by
    intro listed member
    obtain rfl := List.mem_singleton.mp member
    exact ⟨_, rfl⟩

theorem answered_left {path : Path} (plain : plainKey (objectKey empty.job path) = true) :
    Answered (fun _ => []) (left path).job ((left path).perform (uploads path)).objects
      (objects path) where
  keys := (listing_left path).keys
  distinct := List.nodup_singleton _
  answers := by
    intro listed member
    obtain rfl := List.mem_singleton.mp member
    exact ⟨(4, 200), by simp [answer, requestedKey_eq_self plain]⟩

/-- A checkpoint comes back. -/
theorem checkpoint_restored :
    ∃ tree, restoreJobOutput (left checkpoint).job
        ((left checkpoint).perform (uploads checkpoint)).objects (objects checkpoint)
        (Seeding.seeded image none).tree = .ok tree ∧ Reproduced (left checkpoint) tree := by
  refine (checkpoint_round_trip (fun _ => []) (left checkpoint) (uploads checkpoint)
    (.seeded image none) (objects checkpoint) (leftover_left (by decide))
    (fun _ present => by cases present) (uploaded_left _)
    (answered_left (by decide +kernel))).mpr fun path output => ?_
  obtain ⟨file, present⟩ := Option.isSome_iff_exists.mp output.1
  obtain ⟨rfl, _⟩ := left_eq present
  refine ⟨by decide +kernel, by decide +kernel, rfl, fun _ _ _ => .inr ?_⟩
  rw [requestedKey_eq_self]
  decide +kernel

def runLog : Path := "runs/training.log".toList

/-- An output with the name of the log is uploaded and does not come back. -/
theorem run_log_not_restored :
    Leftover (left runLog) ∧ Uploaded (left runLog) (uploads runLog) ∧
      Answered (fun _ => []) (left runLog).job ((left runLog).perform (uploads runLog)).objects
        (objects runLog) ∧
      ((left runLog).perform (uploads runLog)).objects (objectKey (left runLog).job runLog) =
        some 7 ∧
      ¬ ∃ tree, restoreJobOutput (left runLog).job
          ((left runLog).perform (uploads runLog)).objects (objects runLog)
          (Seeding.seeded image none).tree = .ok tree ∧ Reproduced (left runLog) tree := by
  refine ⟨leftover_left (by decide), uploaded_left _, answered_left (by decide +kernel),
    by decide +kernel, ?_⟩
  rintro ⟨tree, done, reproduced⟩
  obtain ⟨signature, there⟩ := reproduced runLog ⟨7, (4, 100)⟩ (by decide +kernel) rfl
  exact restore_misses (fun _ found => by cases found) (.inl (.inl (by decide +kernel))) done _
    there rfl

end Deployment

end TrainingScheduler.Outputs
