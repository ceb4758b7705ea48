import Mathlib.Data.List.Infix
import Mathlib.Data.List.Nodup
import Mathlib.Data.Nat.Bitwise
import Mathlib.Logic.Function.Basic

/-!
# Uploaded archives

`extract` of the image builder: the entries of an uploaded archive, with names, modes, sizes and
data as an adversary chooses them, written below a fresh directory.  The file system has symbolic
links, and paths are resolved through them.
-/

namespace TrainingScheduler.Archive

abbrev Text := List Char

abbrev Name := Text

abbrev Place := List Name

inductive Node where
  | file (content : List UInt8)
  | directory
  | link (target : Place)

abbrev Files := Place → Option Node

def maxUpload : ℕ := 64 * 1024 * 1024

def maxExpanded : ℕ := 512 * 1024 * 1024

def maxFiles : ℕ := 10000

/-- The parts of a `PurePosixPath`. -/
def parts (filename : Text) : List Name :=
  (filename.splitOn '/').filter fun name => decide (name ≠ [] ∧ name ≠ ['.'])

/-- `str` of a `PurePosixPath` that is not absolute. -/
def pathText (names : List Name) : Text :=
  if names = [] then ['.'] else ['/'].intercalate names

/-- The name that leads up. -/
def parent : Name := ['.', '.']

def isAbsolute (filename : Text) : Bool := decide (filename.head? = some '/')

/-- `S_IFMT`. -/
def fileType (mode : ℕ) : ℕ := mode &&& 0o170000

def isLink (mode : ℕ) : Bool := decide (fileType mode = 0o120000)

def isRegular (mode : ℕ) : Bool := decide (fileType mode = 0o100000)

def isDirectory (mode : ℕ) : Bool := decide (fileType mode = 0o040000)

inductive Failure where
  | user
  | other
  deriving DecidableEq, Repr

/-- A chunk that the reader yields, and how much of it is written when its write raises. -/
structure Chunk where
  bytes : List UInt8
  stored : Option ℕ

/-- An entry of the archive, with what its reader and the disk answer: an exception of
`archive.open`, the chunks, an exception after them, the number of directories that can still be
made, and whether the target can be opened. -/
structure Entry where
  filename : Text
  externalAttr : ℕ
  fileSize : ℕ
  unreadable : Option Failure
  chunks : List Chunk
  ending : Option Failure
  room : ℕ
  refused : Bool

namespace Entry

def mode (entry : Entry) : ℕ := entry.externalAttr >>> 16

def isDir (entry : Entry) : Bool := decide (entry.filename.getLast? = some '/')

def parts (entry : Entry) : List Name := Archive.parts entry.filename

/-- A name that `extract` does not take. -/
def badName (entry : Entry) (names : List Text) : Bool :=
  entry.filename.isEmpty || isAbsolute entry.filename || decide (parent ∈ entry.parts) ||
    decide ('\\' ∈ entry.filename) || decide (':' ∈ entry.filename) ||
    decide (Char.ofNat 0 ∈ entry.filename) || decide (pathText entry.parts ∈ names)

/-- `joinpath` with the parts of an entry: an absolute one starts at the root. -/
def target (entry : Entry) (destination : Place) : Place :=
  if isAbsolute entry.filename then entry.parts else destination ++ entry.parts

/-- A kind of file that `extract` does not take. -/
def badKind (entry : Entry) : Bool :=
  isLink entry.mode ||
    (decide (fileType entry.mode ≠ 0) && !(isRegular entry.mode || isDirectory entry.mode)) ||
    decide (entry.parts.getLast?.getD [] ∈ ["Dockerfile".toList, ".dockerignore".toList])

end Entry

/-- What is done to the file system. -/
inductive Effect where
  | made (place : Place)
  | opened (place : Place)
  | wrote (place : Place) (count : ℕ)
  deriving DecidableEq, Repr

namespace Effect

def place : Effect → Place
  | made place | opened place | wrote place _ => place

def written : Effect → ℕ
  | wrote _ count => count
  | made _ | opened _ => 0

def file : Effect → Option Place
  | opened place => some place
  | made _ | wrote _ _ => none

end Effect

/-- Walk down a path, up to the first symbolic link, to a place or to where the link leads. -/
def walk (files : Files) (base : Place) : List Name → Place ⊕ List Name
  | [] => .inl base
  | name :: rest =>
    if name = parent then walk files base.dropLast rest
    else
      match files (base ++ [name]) with
      | some (.link target) => .inr (target ++ rest)
      | _ => walk files (base ++ [name]) rest

/-- Resolve a path through symbolic links, at most so many of them. -/
def resolve (files : Files) : ℕ → List Name → Option Place
  | links, names =>
    match walk files [] names, links with
    | .inl place, _ => some place
    | .inr _, 0 => none
    | .inr next, more + 1 => resolve files more next

/-- The limit of the kernel on links in one path. -/
def maxLinks : ℕ := 40

/-- The files, the names and the size so far, and what was done. -/
structure Extraction where
  files : Files
  names : List Text
  total : ℕ
  trace : List Effect

namespace Extraction

variable (state : Extraction) (place : Place)

def note (node : Node) (effect : Effect) : Extraction :=
  { state with
    files := Function.update state.files place (some node)
    trace := state.trace ++ [effect] }

/-- Make the directories of a resolved path below `base`, as long as there is room. -/
def makeAll (base : Place) : List Name → ℕ → Extraction → Extraction × Option Failure
  | [], _, state => (state, none)
  | name :: rest, room, state =>
    match state.files (base ++ [name]), room with
    | none, 0 => (state, some .user)
    | none, more + 1 =>
      makeAll (base ++ [name]) rest more
        (state.note (base ++ [name]) .directory (.made (base ++ [name])))
    | some .directory, _ => makeAll (base ++ [name]) rest room state
    | some (.file _), _ => (state, some .user)
    | some (.link _), _ => (state, some .user)

/-- `mkdir(parents=True, exist_ok=True)`. -/
def mkdir (room : ℕ) : Extraction × Option Failure :=
  match resolve state.files maxLinks place with
  | none => (state, some .user)
  | some resolved => makeAll [] resolved room state

/-- `open('wb')`, with the resolved path when it succeeds. -/
def openFile (refused : Bool) : Extraction × Except Failure Place :=
  match resolve state.files maxLinks place with
  | none => (state, .error .user)
  | some resolved =>
    match state.files resolved with
    | some .directory | some (.link _) => (state, .error .user)
    | none | some (.file _) =>
      if refused || resolved.isEmpty then (state, .error .user)
      else (state.note resolved (.file []) (.opened resolved), .ok resolved)

def append (bytes : List UInt8) : Extraction :=
  match state.files place with
  | some (.file content) =>
    state.note place (.file (content ++ bytes)) (.wrote place bytes.length)
  | _ => state

/-- The loop over the chunks of an entry. -/
def writeChunks (place : Place) : List Chunk → Extraction → Extraction × Option Failure
  | [], state => (state, none)
  | chunk :: rest, state =>
    let counted := { state with total := state.total + chunk.bytes.length }
    if counted.total > maxExpanded then (counted, some .user)
    else
      match chunk.stored with
      | some count => (counted.append place (chunk.bytes.take count), some .user)
      | none => writeChunks place rest (counted.append place chunk.bytes)

/-- An entry that is a file, once its parent exists. -/
def extractFile (target : Place) (entry : Entry) : Extraction × Option Failure :=
  match entry.unreadable with
  | some failure => (state, some failure)
  | none =>
    match state.openFile target entry.refused with
    | (opened, .error failure) => (opened, some failure)
    | (opened, .ok place) =>
      match writeChunks place entry.chunks opened with
      | (last, some failure) => (last, some failure)
      | (last, none) => (last, entry.ending)

/-- The body of the loop over the entries. -/
def extractEntry (destination : Place) (entry : Entry) : Extraction × Option Failure :=
  if entry.badName state.names then (state, some .user)
  else
    let named := { state with names := pathText entry.parts :: state.names }
    if entry.badKind then (named, some .user)
    else
      let target := entry.target destination
      if entry.isDir then named.mkdir target entry.room
      else
        match named.mkdir target.dropLast entry.room with
        | (made, some failure) => (made, some failure)
        | (made, none) => made.extractFile target entry

def extractAll (destination : Place) :
    List Entry → Extraction → Extraction × Option Failure
  | [], state => (state, none)
  | entry :: rest, state =>
    match state.extractEntry destination entry with
    | (last, some failure) => (last, some failure)
    | (next, none) => extractAll destination rest next

end Extraction

open Extraction

/-- The length of the bytes given to `extract`, and the entries in them, if it is an archive. -/
structure Upload where
  size : ℕ
  entries : Except Failure (List Entry)

/-- `root.glob('*/requirements.txt')`, among what has been written below the directory. -/
def projects (destination : Place) (trace : List Effect) : List Place :=
  (trace.filterMap fun effect =>
    match effect.place.drop destination.length with
    | [directory, name] =>
      if name = "requirements.txt".toList ∧ directory.head? ≠ some '.' ∧
          directory.take 2 ≠ ['_', '_'] then some (destination ++ [directory])
      else none
    | _ => none).dedup

/-- The directory that `extract` returns. -/
def project (destination : Place) (state : Extraction) : Except Failure Place :=
  match state.files (destination ++ ["requirements.txt".toList]) with
  | some (.file _) => .ok destination
  | _ =>
    match projects destination state.trace with
    | [found] => .ok found
    | _ => .error .user

def extract (upload : Upload) (destination : Place) (files : Files) :
    Extraction × Except Failure Place :=
  let start : Extraction := ⟨files, [], 0, []⟩
  if upload.size > maxUpload then (start, .error .user)
  else
    match upload.entries with
    | .error failure => (start, .error failure)
    | .ok entries =>
      if entries.length > maxFiles || (entries.map Entry.fileSize).sum > maxExpanded then
        (start, .error .user)
      else
        match Extraction.extractAll destination entries start with
        | (last, some failure) => (last, .error failure)
        | (last, none) => (last, project destination last)

/-- A place strictly below a directory. -/
def Below (destination place : Place) : Prop := destination <+: place ∧ place ≠ destination

/-- A directory whose own path has no symbolic links, and that is empty. -/
structure Fresh (files : Files) (destination : Place) : Prop where
  straight : parent ∉ destination
  reached : ∀ place, place <+: destination → place ≠ [] → files place = some .directory
  empty : ∀ place, Below destination place → files place = none

def bytesWritten (trace : List Effect) : ℕ := (trace.map Effect.written).sum

/-- What an extraction has done, at any moment. -/
structure Confined (files : Files) (destination : Place) (state : Extraction) : Prop where
  outside : ∀ place, ¬ Below destination place → state.files place = files place
  noLink : ∀ place, Below destination place → ∀ target, state.files place ≠ some (.link target)
  below : ∀ effect ∈ state.trace, Below destination effect.place
  named : ∀ place ∈ state.trace.filterMap Effect.file,
    ∃ names, place = destination ++ names ∧ pathText names ∈ state.names
  once : (state.trace.filterMap Effect.file).Nodup
  counted : bytesWritten state.trace ≤ state.total
  bounded : bytesWritten state.trace ≤ maxExpanded

section

variable {files : Files} {destination : Place} {names : List Name}

theorem Fresh.straight_append (fresh : Fresh files destination) (straight : parent ∉ names) :
    parent ∉ destination ++ names := by
  simp [fresh.straight, straight]

theorem not_below_of_above {place : Place} (above : place <+: destination) :
    ¬ Below destination place := by
  rintro ⟨within, differs⟩
  exact differs (above.eq_of_length (Nat.le_antisymm above.length_le within.length_le))

/-- On a path that leads towards the destination or below it, what is not below lies on the way. -/
theorem prefix_of_not_below {place whole : Place} (within : place <+: whole)
    (near : whole <+: destination ∨ destination <+: whole) (away : ¬ Below destination place) :
    place <+: destination := by
  rcases near with near | near
  · exact within.trans near
  · rcases List.prefix_or_prefix_of_prefix within near with first | second
    · exact first
    · by_contra beyond
      exact away ⟨second, fun same => beyond (same ▸ List.prefix_rfl)⟩

private theorem below_append (proper : names ≠ []) : Below destination (destination ++ names) :=
  ⟨List.prefix_append _ _, by simpa using proper⟩

private theorem walk_plain {current : Files} {base : Place} (straight : parent ∉ names)
    (plain : ∀ place, base <+: place → place <+: base ++ names → place ≠ base →
      ∀ target, current place ≠ some (.link target)) :
    walk current base names = .inl (base ++ names) := by
  induction names generalizing base with
  | nil => simp [walk]
  | cons name rest ih =>
    have first : ∀ target, current (base ++ [name]) ≠ some (.link target) :=
      plain (base ++ [name]) (List.prefix_append _ _) ⟨rest, by simp⟩ (by simp)
    have following : walk current (base ++ [name]) rest = .inl (base ++ name :: rest) := by
      have walked := @ih (base ++ [name]) (fun up => straight (List.mem_cons_of_mem _ up))
        fun place above within differs =>
        plain place ((List.prefix_append _ _).trans above) (by simpa using within) (by
          rintro rfl
          have shorter := above.length_le
          rw [List.length_append, List.length_singleton] at shorter
          omega)
      simpa using walked
    rw [walk, if_neg fun up : name = parent => straight (up ▸ List.mem_cons_self)]
    split
    · rename_i target found
      exact absurd found (first target)
    · exact following

namespace Confined

variable {state : Extraction}

theorem start (files : Files) (destination : Place) (fresh : Fresh files destination) :
    Confined files destination ⟨files, [], 0, []⟩ where
  outside := fun _ _ => rfl
  noLink := fun place below target found =>
    absurd ((fresh.empty place below).symm.trans found) (by simp)
  below := fun _ member => by cases member
  named := fun _ member => by cases member
  once := List.nodup_nil
  counted := Nat.le_refl _
  bounded := Nat.zero_le _

variable {place : Place}

section

variable (confined : Confined files destination state)

include confined

/-- Paths below the destination and the paths to it lead where they say. -/
theorem resolve_eq (fresh : Fresh files destination) (straight : parent ∉ place)
    (near : place <+: destination ∨ destination <+: place) :
    resolve state.files maxLinks place = some place := by
  have walked : walk state.files [] place = .inl place := by
    refine walk_plain straight fun middle _ within proper target found => ?_
    by_cases below : Below destination middle
    · exact confined.noLink middle below target found
    · rw [confined.outside middle below] at found
      rw [fresh.reached middle (prefix_of_not_below within near below) proper] at found
      cases found
  rw [resolve.eq_def]
  simp [walked]

theorem note {node : Node} {effect : Effect} (below : Below destination place)
    (plain : ∀ target, node ≠ .link target) (here : effect.place = place)
    (named : ∀ opened, effect.file = some opened →
      opened ∉ state.trace.filterMap Effect.file ∧
        ∃ names, opened = destination ++ names ∧ pathText names ∈ state.names)
    (counted : bytesWritten state.trace + effect.written ≤ state.total)
    (bounded : bytesWritten state.trace + effect.written ≤ maxExpanded) :
    Confined files destination (state.note place node effect) := by
  have opened : (state.note place node effect).trace.filterMap Effect.file =
      state.trace.filterMap Effect.file ++ effect.file.toList := by
    cases made : effect.file with
    | none | some => simp [Extraction.note, made]
  have written : bytesWritten (state.note place node effect).trace =
      bytesWritten state.trace + effect.written := by
    simp [bytesWritten, Extraction.note]
  constructor
  case outside =>
    intro other away
    have differs : other ≠ place := fun same => away (same ▸ below)
    simpa [Extraction.note, differs] using confined.outside other away
  case noLink =>
    intro other within target found
    by_cases same : other = place
    · subst same
      exact plain target (by simpa [Extraction.note] using found)
    · exact confined.noLink other within target (by simpa [Extraction.note, same] using found)
  case below =>
    intro found member
    rcases List.mem_append.mp member with earlier | last
    · exact confined.below found earlier
    · obtain rfl := List.mem_singleton.mp last
      exact here ▸ below
  case named =>
    intro found member
    rw [opened] at member
    rcases List.mem_append.mp member with earlier | last
    · exact confined.named found earlier
    · exact (named found (Option.mem_toList.mp last)).2
  case once =>
    rw [opened]
    cases made : effect.file with
    | none => simpa using confined.once
    | some found =>
      exact List.nodup_append.mpr ⟨confined.once, List.nodup_singleton _, fun left member right
        same => by
          obtain rfl := List.mem_singleton.mp same
          exact fun equal => (named _ made).1 (equal ▸ member)⟩
  case counted => exact written ▸ counted
  case bounded => exact written ▸ bounded

theorem makeAll (fresh : Fresh files destination) (base : Place) (names : List Name)
    (near : base ++ names <+: destination ∨ destination <+: base ++ names) (room : ℕ) :
    Confined files destination (makeAll base names room state).1 ∧
      (makeAll base names room state).1.names = state.names := by
  induction names generalizing base room state with
  | nil => exact ⟨confined, rfl⟩
  | cons name rest ih =>
    have following : base ++ [name] ++ rest <+: destination ∨
        destination <+: base ++ [name] ++ rest := by simpa using near
    cases found : state.files (base ++ [name]) with
    | some node =>
      cases node with
      | directory => simpa only [makeAll, found] using ih confined _ following room
      | file | link => simp only [makeAll, found]; exact ⟨confined, trivial⟩
    | none =>
      cases room with
      | zero => simp only [makeAll, found]; exact ⟨confined, trivial⟩
      | succ room =>
        have below : Below destination (base ++ [name]) := by
          by_contra away
          rw [confined.outside _ away] at found
          have above := prefix_of_not_below (List.prefix_append (base ++ [name]) rest)
            following away
          rw [fresh.reached _ above (by simp)] at found
          cases found
        have made : Confined files destination
            (state.note (base ++ [name]) .directory (.made (base ++ [name]))) :=
          confined.note below (fun _ wrong => by cases wrong) rfl
            (fun _ wrong => by cases wrong) confined.counted confined.bounded
        simp only [makeAll, found]
        exact ih made _ following room

theorem mkdir (fresh : Fresh files destination) (straight : parent ∉ place)
    (near : place <+: destination ∨ destination <+: place) (room : ℕ) :
    Confined files destination (state.mkdir place room).1 ∧
      (state.mkdir place room).1.names = state.names := by
  rw [Extraction.mkdir, confined.resolve_eq fresh straight near]
  exact confined.makeAll fresh [] place near room

theorem openFile (fresh : Fresh files destination) {names : List Name} (straight : parent ∉ names)
    (taken : pathText names ∈ state.names)
    (unopened : destination ++ names ∉ state.trace.filterMap Effect.file) (refused : Bool) :
    Confined files destination (state.openFile (destination ++ names) refused).1 ∧
      ∀ place, (state.openFile (destination ++ names) refused).2 = .ok place →
        Below destination place := by
  rw [Extraction.openFile, confined.resolve_eq fresh (fresh.straight_append straight)
    (Or.inr (List.prefix_append _ _))]
  dsimp only
  have proper : names = [] → ∀ node, state.files (destination ++ names) = node →
      destination ≠ [] → node = some .directory := by
    rintro rfl node found inside
    rw [List.append_nil, confined.outside _ (not_below_of_above List.prefix_rfl),
      fresh.reached _ List.prefix_rfl inside] at found
    exact found.symm
  have closed : Confined files destination state ∧ ∀ place,
      (Except.error Failure.user : Except Failure Place) = .ok place → Below destination place :=
    ⟨confined, fun _ wrong => by cases wrong⟩
  split
  · exact closed
  · exact closed
  all_goals
    rename_i found
    split
    · exact closed
    · rename_i allowed
      have below : Below destination (destination ++ names) := by
        refine below_append fun nothing => ?_
        subst nothing
        have inside : destination ≠ [] := by
          rintro rfl
          simp at allowed
        have wrong := proper rfl _ found inside
        cases wrong
      refine ⟨confined.note below (fun _ wrong => by cases wrong) rfl ?_ confined.counted
        confined.bounded, fun place same => ?_⟩
      · intro opened same
        obtain rfl := Option.some.inj same
        exact ⟨unopened, names, rfl, taken⟩
      · obtain rfl := Except.ok.inj same
        exact below

theorem append (below : Below destination place) {bytes : List UInt8}
    (counted : bytesWritten state.trace + bytes.length ≤ state.total)
    (bounded : state.total ≤ maxExpanded) :
    Confined files destination (state.append place bytes) ∧
      (state.append place bytes).total = state.total ∧
      bytesWritten (state.append place bytes).trace ≤ bytesWritten state.trace + bytes.length := by
  rw [Extraction.append]
  split
  · refine ⟨confined.note below (fun _ wrong => by cases wrong) rfl (fun _ wrong => by cases wrong)
      counted (counted.trans bounded), rfl, ?_⟩
    simp [Extraction.note, bytesWritten, Effect.written]
  · exact ⟨confined, rfl, Nat.le_add_right _ _⟩

theorem writeChunks (below : Below destination place) (chunks : List Chunk) :
    Confined files destination (writeChunks place chunks state).1 := by
  induction chunks generalizing state with
  | nil => exact confined
  | cons chunk rest ih =>
    have recounted : Confined files destination
        { state with total := state.total + chunk.bytes.length } :=
      { confined with counted := Nat.le_add_right_of_le confined.counted }
    rw [writeChunks]
    dsimp only
    split
    · exact recounted
    · rename_i fits
      have bounded := Nat.le_of_not_lt fits
      split
      · rename_i count _
        have fewer := List.length_take_le' count chunk.bytes
        exact (recounted.append below (Nat.add_le_add confined.counted fewer) bounded).1
      · exact ih (recounted.append below (Nat.add_le_add_right confined.counted _) bounded).1

theorem extractFile (fresh : Fresh files destination) (entry : Entry)
    (straight : parent ∉ entry.parts) (taken : pathText entry.parts ∈ state.names)
    (unopened : destination ++ entry.parts ∉ state.trace.filterMap Effect.file) :
    Confined files destination (state.extractFile (destination ++ entry.parts) entry).1 := by
  obtain ⟨opened, inside⟩ := confined.openFile fresh straight taken unopened entry.refused
  rw [Extraction.extractFile]
  split
  · exact confined
  · split
    · rename_i result
      rw [result] at opened
      exact opened
    · rename_i place result
      rw [result] at opened inside
      have written := opened.writeChunks (inside place rfl) entry.chunks
      split <;> rename_i ended <;> rw [ended] at written <;> exact written

theorem take (name : Text) :
    Confined files destination { state with names := name :: state.names } :=
  { confined with
    named := fun place member => by
      obtain ⟨names, same, taken⟩ := confined.named place member
      exact ⟨names, same, List.mem_cons_of_mem _ taken⟩ }

end

end Confined

private theorem makeAll_opened (base : Place) (names : List Name) (room : ℕ) (state : Extraction) :
    (makeAll base names room state).1.trace.filterMap Effect.file =
      state.trace.filterMap Effect.file := by
  induction names generalizing base room state with
  | nil => rfl
  | cons name rest ih =>
    cases found : state.files (base ++ [name]) with
    | some node => cases node <;> simp [makeAll, found, ih]
    | none =>
      cases room with
      | zero => simp [makeAll, found]
      | succ room => simp [makeAll, found, ih, note, Effect.file]

private theorem mkdir_opened (state : Extraction) (place : Place) (room : ℕ) :
    (state.mkdir place room).1.trace.filterMap Effect.file =
      state.trace.filterMap Effect.file := by
  rw [mkdir]
  split
  · rfl
  · exact makeAll_opened _ _ _ _

variable {state : Extraction}

theorem Confined.extractEntry (confined : Confined files destination state)
    (fresh : Fresh files destination) (entry : Entry) :
    Confined files destination (state.extractEntry destination entry).1 := by
  rw [Extraction.extractEntry]
  split
  · exact confined
  · rename_i accepted
    simp only [Entry.badName, Bool.or_eq_true, decide_eq_true_eq, not_or] at accepted
    obtain ⟨⟨⟨⟨⟨⟨_, relative⟩, straight⟩, _⟩, _⟩, _⟩, untaken⟩ := accepted
    have target : entry.target destination = destination ++ entry.parts := by
      rw [Entry.target, if_neg relative]
    rw [target]
    have named := confined.take (pathText entry.parts)
    dsimp only
    split
    · exact named
    · split
      · exact (named.mkdir fresh (fresh.straight_append straight)
          (Or.inr (List.prefix_append _ _)) entry.room).1
      · have near : (destination ++ entry.parts).dropLast <+: destination ∨
            destination <+: (destination ++ entry.parts).dropLast := by
          by_cases bare : entry.parts = []
          · exact Or.inl (by rw [bare, List.append_nil]; exact List.dropLast_prefix _)
          · exact Or.inr (by
              rw [List.dropLast_append_of_ne_nil bare]
              exact List.prefix_append _ _)
        obtain ⟨made, names⟩ := named.mkdir fresh
          (fun up => fresh.straight_append straight (List.mem_of_mem_dropLast up)) near entry.room
        have opened := mkdir_opened
          { state with names := pathText entry.parts :: state.names }
          (destination ++ entry.parts).dropLast entry.room
        split <;> rename_i result <;> rw [result] at made names opened
        · exact made
        · refine made.extractFile fresh entry straight (by rw [names]; exact List.mem_cons_self) ?_
          rw [opened]
          intro member
          obtain ⟨others, same, taken⟩ := confined.named _ member
          obtain rfl := List.append_cancel_left same
          exact untaken taken

theorem Confined.extractAll (confined : Confined files destination state)
    (fresh : Fresh files destination) (entries : List Entry) :
    Confined files destination (extractAll destination entries state).1 := by
  induction entries generalizing state with
  | nil => exact confined
  | cons entry rest ih =>
    have stepped := confined.extractEntry fresh entry
    rw [extractAll]
    split <;> rename_i result <;> rw [result] at stepped
    · exact stepped
    · exact ih stepped

private theorem extract_confined_state (upload : Upload) (fresh : Fresh files destination) :
    Confined files destination (extract upload destination files).1 := by
  have start := Confined.start files destination fresh
  rw [extract]
  split
  · exact start
  · split
    · exact start
    · rename_i entries _
      split
      · exact start
      · have all := start.extractAll fresh entries
        split <;> rename_i result <;> rw [result] at all <;> exact all

end

/-- Uploaded archives cannot escape or flood the build directory, whatever the archive holds and
however `extract` ends. -/
theorem extract_confined (upload : Upload) (destination : Place) (files : Files)
    (fresh : Fresh files destination) :
    let state := (extract upload destination files).1
    (∀ effect ∈ state.trace, Below destination effect.place) ∧
      (∀ place, ¬ Below destination place → state.files place = files place) ∧
      (state.trace.filterMap Effect.file).Nodup ∧
      (∀ place target, state.files place = some (.link target) →
        files place = some (.link target)) ∧
      bytesWritten state.trace ≤ maxExpanded := by
  have confined := extract_confined_state upload fresh
  refine ⟨confined.below, confined.outside, confined.once, fun place target found => ?_,
    confined.bounded⟩
  by_cases below : Below destination place
  · exact absurd found (confined.noLink place below target)
  · rw [← confined.outside place below]
    exact found

/-! An archive whose second entry leads up. -/

namespace Deployment

def extracted : Place := ["tmp".toList, "extracted".toList]

def files : Files := fun place => if place.isPrefixOf extracted then some .directory else none

def entry (filename : Text) : Entry where
  filename := filename
  externalAttr := 0o100644 <<< 16
  fileSize := 0
  unreadable := none
  chunks := [⟨[1, 2, 3], none⟩]
  ending := none
  room := 100
  refused := false

def upload : Upload := ⟨300, .ok [entry "src/./train.py".toList, entry "src/../../evil".toList]⟩

private theorem files_fresh : Fresh files extracted where
  straight := by decide
  reached := fun place above _ => by
    rw [files, if_pos (List.isPrefixOf_iff_prefix.mpr above)]
  empty := fun place below => by
    rw [files, if_neg fun above => not_below_of_above (List.isPrefixOf_iff_prefix.mp above) below]

/-- The first entry is written, more of it than its header says, and the second one is refused. -/
theorem upload_confined :
    (∀ effect ∈ (extract upload extracted files).1.trace, Below extracted effect.place) ∧
      (extract upload extracted files).1.trace =
        [.made (extracted ++ ["src".toList]),
          .opened (extracted ++ ["src".toList, "train.py".toList]),
          .wrote (extracted ++ ["src".toList, "train.py".toList]) 3] :=
  ⟨(extract_confined upload extracted files files_fresh).1, by decide +kernel⟩

end Deployment

end TrainingScheduler.Archive
