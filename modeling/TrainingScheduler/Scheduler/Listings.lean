import Mathlib
import TrainingScheduler.Programs

/-!
# Listings of output objects

`collect_job_output_entries` turns the keys of a bucket into the names of an archive.  Texts are
lists of code points, as Python compares them.
-/

namespace TrainingScheduler.Listing

abbrev Text := List ℕ

def slash : ℕ := 47

def backslash : ℕ := 92

def dots : List Text := [[], [46], [46, 46]]

/-- The control characters of ASCII. -/
def control (char : ℕ) : Bool := char < 32 || char == 127

/-- `split("/")`. -/
def segments : Text → List Text
  | [] => [[]]
  | char :: rest =>
    if char = slash then [] :: segments rest
    else (char :: (segments rest).headI) :: (segments rest).tail

theorem segments_ne_nil (path : Text) : segments path ≠ [] := by
  cases path with
  | nil => simp [segments]
  | cons char rest =>
    rw [segments]
    split_ifs <;> simp

/-- `is_safe_job_id`. -/
def isSafeJobId (jobId : Text) : Prop :=
  jobId ≠ [] ∧ jobId ∉ dots ∧ slash ∉ jobId ∧ backslash ∉ jobId ∧ ¬[46, 46] <:+: jobId ∧
    ∀ char ∈ jobId, control char = false

instance (jobId : Text) : Decidable (isSafeJobId jobId) := by
  unfold isSafeJobId
  infer_instance

/-- `safe_output_rel_path`, of a key that is a string. -/
def safeOutputRelPath (jobId key : Text) : Option Text :=
  if ¬jobId ++ [slash] <+: key then none
  else
    let rel := key.drop (jobId ++ [slash]).length
    if rel = [] ∨ rel.head? = some slash ∨ backslash ∈ rel ∨ [slash, slash] <:+: rel ∨
        (∃ char ∈ rel, control char = true) ∨ ∃ part ∈ segments rel, part ∈ dots then
      none
    else some rel

inductive Bucket where
  | uploads
  | outputs
  deriving DecidableEq

/-- The size of a listed object: unusable, a number, or with an `OverflowError` of `int`. -/
inductive Size where
  | unknown
  | known (bytes : ℤ)
  | infinite

/-- A listed object that is a JSON object, with its key if that is a string. -/
structure Listed where
  key : Option Text
  size : Size

structure OutputEntry where
  bucket : Bucket
  key : Text
  archiveName : Text
  size : Option ℤ
  forcePresigned : Bool

inductive Fault where
  | invalidJobId
  | foreignSubmission
  | listFailed
  | duplicate (archiveName : Text)
  | overflow

/-- `"submitted/"` and `"outputs/"`. -/
def submittedFolder : Text := [115, 117, 98, 109, 105, 116, 116, 101, 100]

def outputsFolder : Text := [111, 117, 116, 112, 117, 116, 115]

/-- The entry of the upload that the job was made from. -/
def submittedEntries (jobId : Text) : Option Text → Except Fault (List OutputEntry)
  | none | some [] => .ok []
  | some key =>
    match safeOutputRelPath jobId key with
    | none => .error .foreignSubmission
    | some rel =>
      let submittedName := (segments rel).getLast (segments_ne_nil rel)
      .ok [⟨.uploads, key, submittedFolder ++ slash :: submittedName, none, true⟩]

/-- The body of the loop over the listed objects; one that is no JSON object is `none`. -/
def collectObject (jobId : Text) (entries : List OutputEntry) (object : Option Listed) :
    Except Fault (List OutputEntry) :=
  match object with
  | none => .ok entries
  | some listed =>
    match listed.key.bind fun key => (safeOutputRelPath jobId key).map (key, ·) with
    | none => .ok entries
    | some (key, rel) =>
      let archiveName := outputsFolder ++ slash :: rel
      if (entries.map (·.archiveName)).contains archiveName then .error (.duplicate archiveName)
      else
        match listed.size with
        | .infinite => .error .overflow
        | .known bytes => .ok (entries ++ [⟨.outputs, key, archiveName, some bytes, false⟩])
        | .unknown => .ok (entries ++ [⟨.outputs, key, archiveName, none, false⟩])

/-- `collect_job_output_entries`. -/
def collectJobOutputEntries (jobId : Text) (submitted : Option Text)
    (listing : Option (List (Option Listed))) : Except Fault (List OutputEntry) :=
  if ¬isSafeJobId jobId then .error .invalidJobId
  else do
    let entries ← submittedEntries jobId submitted
    match listing with
    | none => .error .listFailed
    | some objects => objects.foldlM (collectObject jobId) entries

/-- A relative path without empty, dot or dot-dot segments, backslashes and control characters. -/
structure SafePath (path : Text) : Prop where
  segments : ∀ segment ∈ segments path, segment ∉ dots
  backslash : backslash ∉ path
  control : ∀ char ∈ path, control char = false

variable {jobId key rel : Text}

theorem segments_append (first second : Text) :
    segments (first ++ slash :: second) = segments first ++ segments second := by
  induction first with
  | nil => simp [segments]
  | cons char rest induction =>
    obtain ⟨head, tail, found⟩ := List.exists_cons_of_ne_nil (segments_ne_nil rest)
    rw [List.cons_append, segments, segments, induction, found]
    split_ifs <;> simp

theorem segments_of_slash_notMem {path : Text} (plain : slash ∉ path) : segments path = [path] := by
  induction path with
  | nil => rfl
  | cons char rest induction =>
    rw [List.mem_cons, not_or] at plain
    rw [segments, if_neg (Ne.symm plain.1), induction plain.2]
    rfl

theorem mem_of_mem_segments {path segment : Text} (listed : segment ∈ segments path) {char : ℕ}
    (member : char ∈ segment) : char ∈ path ∧ char ≠ slash := by
  induction path generalizing segment with
  | nil => simp_all [segments]
  | cons head rest induction =>
    obtain ⟨first, later, found⟩ := List.exists_cons_of_ne_nil (segments_ne_nil rest)
    rw [segments] at listed
    rw [found] at induction listed
    split_ifs at listed with same
    · rcases List.mem_cons.mp listed with rfl | listed
      · cases member
      · exact (induction listed member).imp_left (List.mem_cons_of_mem _)
    · rcases List.mem_cons.mp listed with rfl | listed
      · rcases List.mem_cons.mp member with rfl | member
        · exact ⟨List.mem_cons_self, same⟩
        · exact (induction List.mem_cons_self member).imp_left (List.mem_cons_of_mem _)
      · exact (induction (List.mem_cons_of_mem _ listed) member).imp_left (List.mem_cons_of_mem _)

theorem safeOutputRelPath_eq_some_iff :
    safeOutputRelPath jobId key = some rel ↔ key = jobId ++ slash :: rel ∧ SafePath rel := by
  unfold safeOutputRelPath
  by_cases below : jobId ++ [slash] <+: key
  · obtain ⟨rest, rfl⟩ := below
    rw [if_neg (by simp), List.drop_left]
    have same : jobId ++ [slash] ++ rest = jobId ++ slash :: rel ↔ rest = rel := by simp
    rw [same]
    dsimp only
    split_ifs with unsafe_
    · refine iff_of_false (by simp) ?_
      rintro ⟨rfl, safe⟩
      rcases unsafe_ with rfl | first | wrong | ⟨front, back, rfl⟩ | ⟨char, member, wrong⟩ |
        ⟨part, listed, wrong⟩
      · exact safe.segments [] (by simp [segments]) (by simp [dots])
      · obtain ⟨tail, rfl⟩ := List.head?_eq_some_iff.mp first
        exact safe.segments [] (by simp [segments]) (by simp [dots])
      · exact safe.backslash wrong
      · have shape : front ++ [slash, slash] ++ back = front ++ slash :: (slash :: back) := by simp
        rw [shape] at safe
        refine safe.segments [] ?_ (by simp [dots])
        rw [segments_append, List.mem_append]
        exact .inr (by simp [segments])
      · exact absurd (safe.control char member) (by simp [wrong])
      · exact safe.segments part listed wrong
    · simp only [not_or, not_exists, not_and] at unsafe_
      obtain ⟨-, -, back, -, plain, parts⟩ := unsafe_
      rw [Option.some.injEq]
      refine ⟨fun same => ⟨same, same ▸ ⟨parts, back, fun char member => ?_⟩⟩, And.left⟩
      simpa using plain char member
  · rw [if_pos below]
    refine iff_of_false (by simp) fun shape => below ?_
    rw [shape.1]
    exact ⟨rel, by simp⟩

theorem SafePath.below {folder : Text} (safe : SafePath rel) (plain : SafePath folder)
    (single : slash ∉ folder) : SafePath (folder ++ slash :: rel) where
  segments segment listed := by
    rw [segments_append, segments_of_slash_notMem single] at listed
    rcases List.mem_append.mp listed with folded | inner
    · rw [List.mem_singleton.mp folded]
      exact plain.segments folder (by simp [segments_of_slash_notMem single])
    · exact safe.segments segment inner
  backslash := by
    rw [List.mem_append, List.mem_cons]
    rintro (wrong | wrong | wrong)
    · exact plain.backslash wrong
    · cases wrong
    · exact safe.backslash wrong
  control char member := by
    rcases List.mem_append.mp member with inner | rest
    · exact plain.control char inner
    · rcases List.mem_cons.mp rest with rfl | inner
      · rfl
      · exact safe.control char inner

private theorem safePath_of_mem_segments (safe : SafePath rel) {part : Text}
    (listed : part ∈ segments rel) : SafePath part := by
  have inside {char : ℕ} (member : char ∈ part) := mem_of_mem_segments listed member
  refine ⟨fun segment found => ?_, fun wrong => safe.backslash (inside wrong).1,
    fun char member => safe.control char (inside member).1⟩
  rw [segments_of_slash_notMem fun wrong => (inside wrong).2 rfl, List.mem_singleton] at found
  exact found ▸ safe.segments part listed

/-- What the entries of a listing are made of. -/
structure Sound (jobId : Text) (entries : List OutputEntry) : Prop where
  distinct : (entries.map (·.archiveName)).Nodup
  safe : ∀ entry ∈ entries, SafePath entry.archiveName
  owned : ∀ entry ∈ entries, jobId ++ [slash] <+: entry.key
  output : ∀ entry ∈ entries, entry.bucket = .outputs → ∃ rel, entry.key = jobId ++ slash :: rel ∧
    entry.archiveName = outputsFolder ++ slash :: rel

private theorem safePath_outputs (safe : SafePath rel) : SafePath (outputsFolder ++ slash :: rel) :=
  safe.below ⟨by decide, by decide, by decide⟩ (by decide)

theorem owned_of_eq (shape : key = jobId ++ slash :: rel) : jobId ++ [slash] <+: key :=
  ⟨rel, by simp [shape]⟩

variable {entries after : List OutputEntry} {object : Option Listed}

private theorem sound_submitted {submitted : Option Text}
    (collected : submittedEntries jobId submitted = .ok entries) : Sound jobId entries := by
  unfold submittedEntries at collected
  split at collected
  · cases collected
    constructor <;> simp
  · cases collected
    constructor <;> simp
  · split at collected
    · cases collected
    · rename_i key _ rel found
      cases collected
      obtain ⟨shape, safe⟩ := safeOutputRelPath_eq_some_iff.mp found
      have last := safePath_of_mem_segments safe (List.getLast_mem (segments_ne_nil rel))
      have folder : SafePath submittedFolder := ⟨by decide, by decide, by decide⟩
      have named := last.below folder (by decide)
      exact ⟨by simp, by simpa using named, by simpa using owned_of_eq shape, by simp⟩

theorem collectObject_cases (collected : collectObject jobId entries object = .ok after) :
    (after = entries ∧ ∀ listed key rel, object = some listed → listed.key = some key →
        safeOutputRelPath jobId key ≠ some rel) ∨
      ∃ listed key rel size, object = some listed ∧ listed.key = some key ∧
        safeOutputRelPath jobId key = some rel ∧
        outputsFolder ++ slash :: rel ∉ entries.map (·.archiveName) ∧
        after = entries ++ [⟨.outputs, key, outputsFolder ++ slash :: rel, size, false⟩] := by
  unfold collectObject at collected
  split at collected
  · cases collected
    exact .inl ⟨rfl, by simp⟩
  · rename_i listed
    split at collected
    · rename_i passed
      cases collected
      refine .inl ⟨rfl, fun _ key rel same named found => ?_⟩
      cases same
      simp [named, found] at passed
    · rename_i key rel passed
      obtain ⟨other, named, found⟩ := Option.bind_eq_some_iff.mp passed
      obtain ⟨path, found, same⟩ := Option.map_eq_some_iff.mp found
      cases same
      dsimp only at collected
      split_ifs at collected with taken
      refine .inr ⟨listed, key, rel, ?_⟩
      split at collected <;> cases collected <;>
        exact ⟨_, rfl, named, found, by simpa using taken, rfl⟩

theorem Sound.collectObject (sound : Sound jobId entries)
    (collected : collectObject jobId entries object = .ok after) : Sound jobId after := by
  rcases collectObject_cases collected with
    ⟨rfl, -⟩ | ⟨listed, key, rel, size, -, -, found, new, rfl⟩
  · exact sound
  · obtain ⟨shape, safe⟩ := safeOutputRelPath_eq_some_iff.mp found
    refine ⟨?_, ?_, ?_, ?_⟩
    · rw [List.map_append, List.nodup_append]
      refine ⟨sound.distinct, by simp, fun name member other same => ?_⟩
      rintro rfl
      have name_eq : name = outputsFolder ++ slash :: rel := List.mem_singleton.mp same
      exact new (name_eq ▸ member)
    · simpa [or_imp, forall_and] using ⟨sound.safe, safePath_outputs safe⟩
    · simpa [or_imp, forall_and] using ⟨sound.owned, owned_of_eq shape⟩
    · intro entry member outputs
      rcases List.mem_append.mp member with old | fresh
      · exact sound.output entry old outputs
      · rw [List.mem_singleton.mp fresh]
        exact ⟨rel, shape, rfl⟩

private theorem collected_all {objects : List (Option Listed)} {last : List OutputEntry}
    (collected : objects.foldlM (collectObject jobId) entries = .ok last) :
    entries ⊆ last ∧ ∀ listed, some listed ∈ objects → ∀ key rel, listed.key = some key →
      safeOutputRelPath jobId key = some rel →
        ∃ entry ∈ last, entry.bucket = .outputs ∧ entry.key = key := by
  induction objects generalizing entries with
  | nil =>
    cases collected
    exact ⟨fun _ => id, by simp⟩
  | cons object objects induction =>
    obtain ⟨middle, first, rest⟩ := bind_eq_ok collected
    obtain ⟨kept, later⟩ := induction rest
    have grows : entries ⊆ middle := by
      rcases collectObject_cases first with ⟨rfl, -⟩ | ⟨_, _, _, _, -, -, -, -, rfl⟩
      · exact fun _ => id
      · exact List.subset_append_left _ _
    refine ⟨fun entry member => kept (grows member), fun listed among key rel named found => ?_⟩
    rcases List.mem_cons.mp among with rfl | among
    · rcases collectObject_cases first with ⟨-, passed⟩ | ⟨_, other, _, _, same, named', -, -, rfl⟩
      · exact absurd found (passed listed key rel rfl named)
      · cases same
        cases named.symm.trans named'
        exact ⟨_, kept (List.mem_append_right _ (List.mem_singleton_self _)), rfl, rfl⟩
    · exact later listed among key rel named found

/-- The output listing is complete and safe: the names are distinct safe paths, every listed key
below the prefix of the job whose rest is safe has one entry, under a name that gives the key back,
and no other key has one. -/
theorem output_listing_complete (jobId : Text) (submitted : Option Text)
    (objects : List (Option Listed)) (entries : List OutputEntry)
    (collected : collectJobOutputEntries jobId submitted (some objects) = .ok entries) :
    (entries.map (·.archiveName)).Nodup ∧
    (∀ entry ∈ entries, SafePath entry.archiveName ∧ jobId ++ [slash] <+: entry.key) ∧
    (∀ listed rel, some listed ∈ objects → listed.key = some (jobId ++ slash :: rel) →
      SafePath rel →
        (entries.filter fun entry =>
          entry.bucket = .outputs ∧ entry.key = jobId ++ slash :: rel).length = 1) ∧
    ∀ entry ∈ entries, entry.bucket = .outputs → ∃ rel, entry.key = jobId ++ slash :: rel ∧
      entry.archiveName = outputsFolder ++ slash :: rel := by
  unfold collectJobOutputEntries at collected
  split_ifs at collected
  obtain ⟨first, uploads, collected⟩ := bind_eq_ok collected
  have sound := foldlM_preserves (Sound jobId) (fun _ _ _ _ kept step => kept.collectObject step)
    (sound_submitted uploads) collected
  refine ⟨sound.distinct, fun entry member => ⟨sound.safe entry member, sound.owned entry member⟩,
    fun listed rel among named safe => ?_, sound.output⟩
  obtain ⟨entry, member, outputs, same⟩ := (collected_all collected).2 listed among _ rel named
    (safeOutputRelPath_eq_some_iff.mpr ⟨rfl, safe⟩)
  generalize found : (entries.filter fun entry =>
    entry.bucket = .outputs ∧ entry.key = jobId ++ slash :: rel) = matching
  have among : entry ∈ matching := by simp [← found, member, outputs, same]
  have names : ∀ name ∈ matching.map (·.archiveName), name = outputsFolder ++ slash :: rel := by
    intro name listed
    obtain ⟨other, other_mem, rfl⟩ := List.mem_map.mp listed
    obtain ⟨present, outputs, shape⟩ : other ∈ entries ∧ _ ∧ _ := by
      simpa [← found] using other_mem
    obtain ⟨path, shape', name⟩ := sound.output other present outputs
    cases List.cons.inj (List.append_cancel_left (shape.symm.trans shape')) with
    | intro _ same => rw [name, same]
  have distinct : (matching.map (·.archiveName)).Nodup :=
    sound.distinct.sublist (found ▸ (List.filter_sublist).map _)
  rw [List.eq_replicate_of_mem names, List.nodup_replicate, List.length_map] at distinct
  exact le_antisymm distinct (List.length_pos_of_mem among)

/-- An unsafe key, a key of another job, and a checkpoint. -/
def checkpointListing : List (Option Listed) :=
  [some ⟨some [106, 47, 46, 46], .unknown⟩, some ⟨some [107, 47, 98], .unknown⟩, none,
    some ⟨some [106, 47, 99], .known 5⟩]

theorem checkpoint_listed :
    ∃ entries, collectJobOutputEntries [106] (some [106, 47, 97]) (some checkpointListing) =
        .ok entries ∧
      (entries.filter fun entry =>
        entry.bucket = .outputs ∧ entry.key = [106] ++ slash :: [99]).length = 1 :=
  ⟨_, rfl, (output_listing_complete [106] (some [106, 47, 97]) checkpointListing _ rfl).2.2.1
    ⟨some [106, 47, 99], .known 5⟩ [99] (by simp [checkpointListing]) rfl
    ⟨by decide, by decide, by decide⟩⟩

end TrainingScheduler.Listing
