import TrainingScheduler.Json

/-!
# Files of the editor

`FileService.call` sends a request to a helper inside the workload container, and the helper answers
it; of its operations this module has `read` and `write`.  Docker delivers what either side sends,
`json.loads` reads back what `json.dumps` wrote, and the container has room for what is written, so
that requests and answers are objects, measured by the bytes in which they are sent.
-/

namespace TrainingScheduler.Files

open Json

abbrev Bytes := List UInt8

def maxText : ℕ := 2 * 1024 * 1024

def maxRequest : ℕ := maxText + 16 * 1024

def maxResponse : ℕ := maxText + 32 * 1024

structure Stat where
  device : ℕ
  inode : ℕ
  links : ℕ
  modified : ℕ
  readable : Bool
  replaceable : Bool

/-- An entry of a directory; a directory has its `dir_version` if it can be listed. -/
inductive Entry where
  | file (stat : Stat) (content : Bytes)
  | directory (version : Option Text)
  | other

structure Directory where
  searchable : Bool
  writable : Bool
  entries : List (Text × Entry)

inductive Code where
  | protocolError
  | invalidPath
  | unsupportedRoot
  | unavailable
  | notFound
  | conflict
  | unsafeFile
  | tooLarge
  | unsupportedFile

def Code.text : Code → Text
  | .protocolError => "PROTOCOL_ERROR".toList
  | .invalidPath => "INVALID_PATH".toList
  | .unsupportedRoot => "UNSUPPORTED_ROOT".toList
  | .unavailable => "UNAVAILABLE".toList
  | .notFound => "NOT_FOUND".toList
  | .conflict => "CONFLICT".toList
  | .unsafeFile => "UNSAFE_FILE".toList
  | .tooLarge => "TOO_LARGE".toList
  | .unsupportedFile => "UNSUPPORTED_FILE".toList

/-- How an operation ends early: `fail`, or an `OSError`. -/
inductive Failure where
  | code (code : Code)
  | os

/-- The directories, and what `rootfd` and `parent` make of a root and of a path below it. -/
structure Disk where
  rootfd : Text → Except Code ℕ
  parent : ℕ → Value → Except Code (ℕ × Text)
  directories : ℕ → Directory

/-- `os.stat` of a name; `none` is `FileNotFoundError`. -/
def Directory.stat (directory : Directory) (name : Text) : Except Failure (Option Entry) :=
  if directory.searchable then .ok (directory.entries.lookup name) else .error .os

/-- `os.open` with `O_CREAT` and `O_EXCL`, and `os.write`. -/
def Directory.create (directory : Directory) (name : Text) (stat : Stat) (data : Bytes) :
    Option Directory :=
  if directory.searchable && directory.writable && (directory.entries.lookup name).isNone then
    some { directory with entries := (name, .file stat data) :: directory.entries }
  else none

/-- `os.unlink`, where an `OSError` is passed over. -/
def Directory.unlink (directory : Directory) (name : Text) : Directory :=
  match directory.entries.lookup name with
  | some (.directory _) => directory
  | _ =>
    if directory.searchable && directory.writable then
      { directory with entries := directory.entries.filter (·.1 ≠ name) }
    else directory

/-- `os.replace` of a name by the file that has another one. -/
def Directory.replace (directory : Directory) (temp name : Text) : Option Directory :=
  let allowed := match directory.entries.lookup name with
    | some (.file stat _) => stat.replaceable
    | some (.directory _) => false
    | _ => true
  match directory.entries.lookup temp with
  | some entry =>
    if directory.writable && allowed then
      some { directory with entries := (name, entry) :: directory.entries.filter fun other =>
        other.1 ≠ name && other.1 ≠ temp }
    else none
  | none => none

section

variable (sha256 : Bytes → Fin 64 → Fin 16)

/-- `version`. -/
def version (stat : Stat) (data : Bytes) : Text :=
  let decimal := Nat.toDigits 10
  List.ofFn fun i => hexDigit (sha256 (utf8 (decimal stat.device ++ ':' :: decimal stat.inode ++
    ':' :: decimal data.length ++ ':' :: decimal stat.modified) ++ data) i)

/-- `check_version`. -/
def checkVersion (directory : Directory) (name : Text) (expected : Value) : Except Failure Unit :=
  match directory.stat name with
  | .error failure => .error failure
  | .ok none => if expected = .null then .ok () else .error (.code .conflict)
  | .ok (some (.directory none)) => .error (.code .unavailable)
  | .ok (some (.directory (some actual))) =>
    if expected = .null ∨ expected = .text actual then .ok () else .error (.code .conflict)
  | .ok (some .other) => .error (.code .unsafeFile)
  | .ok (some (.file stat content)) =>
    if stat.links ≠ 1 ∨ !stat.readable then .error (.code .unsafeFile)
    else if (content.take (maxText + 1)).length > maxText then .error (.code .tooLarge)
    else if expected = .text (version sha256 stat content) then .ok ()
    else .error (.code .conflict)

/-- The operation `read`. -/
def read (disk : Disk) (root : ℕ) (request : Fields) : Except Failure Fields :=
  match disk.parent root (get request "path") with
  | .error code => .error (.code code)
  | .ok (directory, name) =>
    match (disk.directories directory).stat name with
    | .error failure => .error failure
    | .ok none => .error .os
    | .ok (some (.file stat content)) =>
      if !stat.readable then .error .os
      else if (content.take (maxText + 1)).length > maxText then .error (.code .tooLarge)
      else
        match ofUtf8 content with
        | none => .error (.code .unsupportedFile)
        | some text => .ok [("content", .text text), ("size", .number content.length),
            ("version", .text (version sha256 stat content)),
            ("encoding", .text "utf-8".toList)]
    | .ok _ => .error (.code .unsupportedFile)

/-- The end of the temporary name, and the attributes that the kernel gives to the file. -/
structure Chance where
  candidate : Text
  stat : Stat

def Chance.temp (chance : Chance) : Text := ".dml-write-".toList ++ chance.candidate

/-- The `try` of `write`, with the directory that it leaves behind.  The cleanup removes the
temporary name also where it could not be created. -/
def overwrite (chance : Chance) (directory : Directory) (name : Text) (expected : Value)
    (data : Bytes) : Except Failure Fields × Directory :=
  match checkVersion sha256 directory name expected with
  | .error failure => (.error failure, directory)
  | .ok () =>
    match directory.create chance.temp chance.stat data with
    | none => (.error .os, directory.unlink chance.temp)
    | some created =>
      match checkVersion sha256 created name expected with
      | .error failure => (.error failure, created.unlink chance.temp)
      | .ok () =>
        match created.replace chance.temp name with
        | none => (.error .os, created.unlink chance.temp)
        | some replaced =>
          (.ok [("version", .text (version sha256 chance.stat data))], replaced)

/-- `except OSError: fail('UNAVAILABLE')`. -/
def caught : Except Failure Fields → Except Failure Fields
  | .error .os => .error (.code .unavailable)
  | answer => answer

/-- The operation `write`. -/
def write (chance : Chance) (disk : Disk) (root : ℕ) (request : Fields) :
    Except Failure Fields × Disk :=
  match get request "content" with
  | .text content =>
    if (utf8 content).length > maxText then (.error (.code .tooLarge), disk)
    else
      match disk.parent root (get request "path") with
      | .error code => (.error (.code code), disk)
      | .ok (directory, name) =>
        let (answer, left) := overwrite sha256 chance (disk.directories directory) name
          (get request "expected_version") (utf8 content)
        (caught answer,
          { disk with directories := Function.update disk.directories directory left })
  | _ => (.error (.code .protocolError), disk)

/-- The operations of the helper besides the two. -/
abbrev Others := Disk → ℕ → Fields → Except Failure Fields × Disk

def helper (chance : Chance) (others : Others) (disk : Disk) (request : Fields) :
    Except Failure Fields × Disk :=
  if request.any fun field => field.1 ∉ ["operation", "root", "path", "target", "expected_version",
    "content", "cursor"] then (.error (.code .protocolError), disk)
  else
    match get request "root" with
    | .text root =>
      match disk.rootfd root with
      | .error code => (.error (.code code), disk)
      | .ok root =>
        if get request "operation" = .text "read".toList then
          (read sha256 disk root request, disk)
        else if get request "operation" = .text "write".toList then
          write sha256 chance disk root request
        else others disk root request
    | _ => (.error (.code .protocolError), disk)

end

/-- What the helper prints; a traceback does not go to the output. -/
def printed : Except Failure Fields → Option Fields
  | .ok fields => some (("ok", .bool true) :: fields)
  | .error (.code code) => some [("ok", .bool false), ("code", .text code.text)]
  | .error .os => none

def line (printed : Option Fields) : Bytes :=
  printed.elim [] fun fields => utf8 (dumps fields ++ ['\n'])

/-- The loop over the frames of `docker exec`, by their payloads; `none` is a `ValueError`. -/
def receive (output : Bytes) : List Bytes → Option Bytes
  | [] => some output
  | payload :: frames =>
    if payload.length > maxResponse ∨ output.length + payload.length > maxResponse then none
    else receive (output ++ payload) frames

/-- What `call` makes of the output; `split` is how Docker cuts it into frames.  A helper that
printed nothing has exited with 1, any other with 0. -/
def response (split : Bytes → List Bytes) (printed : Option Fields) : Except Text Fields :=
  match receive [] (split (line printed)), printed with
  | some output, some result =>
    if output.length > maxResponse then .error Code.unavailable.text
    else if get result "ok" = .bool true then .ok (result.filter (·.1 ≠ "ok"))
    else
      match get result "code" with
      | .text code => .error code
      | _ => .error Code.unavailable.text
  | _, _ => .error Code.unavailable.text

/-- `FileService.call`. -/
def call (sha256 : Bytes → Fin 64 → Fin 16) (chance : Chance) (others : Others)
    (split : Bytes → List Bytes) (root : Text) (disk : Disk) (operation : String)
    (values : Fields) : Except Text Fields × Disk :=
  let request := ("operation", .text operation.toList) :: ("root", .text root) :: values
  if (utf8 (dumps request)).length > maxRequest then (.error Code.tooLarge.text, disk)
  else
    let (answer, disk) := helper sha256 chance others disk request
    (response split (printed answer), disk)

theorem receive_eq (frames : List Bytes) {output : Bytes} (fits : output.length ≤ maxResponse) :
    receive output frames =
      if output.length + frames.flatten.length ≤ maxResponse then some (output ++ frames.flatten)
      else none := by
  induction frames generalizing output with
  | nil => simp [receive, fits]
  | cons payload frames induction =>
    rw [receive, List.flatten_cons, List.length_append]
    split_ifs with long total total
    · omega
    · rfl
    all_goals
      rw [induction (by rw [List.length_append]; omega), List.length_append, List.append_assoc]
      split_ifs <;> first | rfl | omega

section

variable {sha256 : Bytes → Fin 64 → Fin 16} {chance : Chance} {others : Others}
  {split : Bytes → List Bytes} {disk : Disk} {root : Text}
  (delivered : ∀ output, (split output).flatten = output)
include delivered

theorem response_ok_iff {answer : Except Failure Fields} {fields : Fields} :
    response split (printed answer) = .ok fields ↔ ∃ result, answer = .ok result ∧
      size (("ok", .bool true) :: result) < maxResponse ∧
      result.filter (·.1 ≠ "ok") = fields := by
  have received (output : Bytes) : receive [] (split output) =
      if output.length ≤ maxResponse then some output else none := by
    rw [receive_eq _ (Nat.zero_le _), delivered, List.length_nil, Nat.zero_add, List.nil_append]
  cases answer with
  | ok result =>
    have length : (line (some (("ok", .bool true) :: result))).length =
        size (("ok", .bool true) :: result) + 1 := by
      simp only [line, Option.elim_some, utf8_append, List.length_append,
        length_utf8_dumps (List.cons_ne_nil _ _)]
      rfl
    have shown : get (("ok", .bool true) :: result) "ok" = .bool true := rfl
    simp only [response, printed, received, length, Nat.add_one_le_iff]
    by_cases fits : size (("ok", .bool true) :: result) < maxResponse
    · have within : ¬maxResponse < size (("ok", .bool true) :: result) + 1 := by omega
      simp [fits, length, within, shown]
    · simp [fits]
  | error failure =>
    simp only [response, received]
    cases failure <;> split_ifs <;> simp [printed, Json.get, List.lookup]
    split_ifs <;> simp

theorem call_ok_iff {operation : String} {values fields : Fields} :
    (call sha256 chance others split root disk operation values).1 = .ok fields ↔
      size (("operation", .text operation.toList) :: ("root", .text root) :: values) ≤ maxRequest ∧
      ∃ result, (helper sha256 chance others disk (("operation", .text operation.toList) ::
          ("root", .text root) :: values)).1 = .ok result ∧
        size (("ok", .bool true) :: result) < maxResponse ∧
        result.filter (·.1 ≠ "ok") = fields := by
  simp only [call, length_utf8_dumps (List.cons_ne_nil _ _)]
  split_ifs with long
  · simp [Nat.not_le_of_lt long]
  · simp only [response_ok_iff delivered, Nat.le_of_not_lt long, true_and]

end

/-- A regular file with a single link at a path that the helper accepts, readable and replaceable,
with a text of at most `maxText` bytes. -/
structure Permitted (disk : Disk) (root path : Text) (directory : Directory) (name : Text)
    (stat : Stat) (content : Text) : Prop where
  opened : ∃ fd, disk.rootfd root = .ok fd ∧
    ∃ place, disk.parent fd (.text path) = .ok (place, name) ∧ disk.directories place = directory
  searchable : directory.searchable
  writable : directory.writable
  found : directory.entries.lookup name = some (.file stat (utf8 content))
  single : stat.links = 1
  readable : stat.readable
  replaceable : stat.replaceable
  short : (utf8 content).length ≤ maxText

section

variable {sha256 : Bytes → Fin 64 → Fin 16} {chance : Chance} {others : Others} {disk : Disk}
  {directory : Directory} {name root path content text : Text} {stat : Stat}

section

variable (permitted : Permitted disk root path directory name stat content)

include permitted

theorem helper_read :
    (helper sha256 chance others disk [("operation", .text "read".toList), ("root", .text root),
      ("path", .text path)]).1 = .ok [("content", .text content),
        ("size", .number (utf8 content).length),
        ("version", .text (version sha256 stat (utf8 content))),
        ("encoding", .text "utf-8".toList)] := by
  obtain ⟨fd, opened, place, located, rfl⟩ := permitted.opened
  simp [helper, Json.get, List.lookup, opened, read, located, Directory.stat, permitted.searchable,
    permitted.found, permitted.readable, permitted.short]

theorem overwrite_eq (data : Bytes) :
    (overwrite sha256 chance directory name (.text (version sha256 stat (utf8 content))) data).1 =
      if directory.entries.lookup chance.temp = none then
        .ok [("version", .text (version sha256 chance.stat data))]
      else .error .os := by
  have checked (grown : Directory) (searchable : grown.searchable)
      (found : grown.entries.lookup name = some (.file stat (utf8 content))) :
      checkVersion sha256 grown name (.text (version sha256 stat (utf8 content))) = .ok () := by
    simp [checkVersion, Directory.stat, searchable, found, permitted.single, permitted.readable,
      permitted.short]
  rw [overwrite, checked directory permitted.searchable permitted.found]
  by_cases free : directory.entries.lookup chance.temp = none
  · have other : (name == chance.temp) = false := by
      rw [beq_eq_false_iff_ne]
      rintro rfl
      cases free.symm.trans permitted.found
    have found : ((chance.temp, Entry.file chance.stat data) :: directory.entries).lookup name =
        some (.file stat (utf8 content)) := by rw [List.lookup_cons, other, permitted.found]
    simp [Directory.create, permitted.searchable, permitted.writable, free, checked, found,
      Directory.replace, permitted.replaceable]
  · simp [Directory.create, free]

private theorem helper_write (expected : Value) (short : (utf8 text).length ≤ maxText) :
    (helper sha256 chance others disk [("operation", .text "write".toList), ("root", .text root),
      ("path", .text path), ("expected_version", expected), ("content", .text text)]).1 =
      caught (overwrite sha256 chance directory name expected (utf8 text)).1 := by
  obtain ⟨fd, opened, place, located, rfl⟩ := permitted.opened
  simp [helper, Json.get, List.lookup, opened, write, located, Nat.not_lt_of_le short]

end

private theorem size_written (data : Bytes) : size [("ok", .bool true),
    ("version", .text (version sha256 stat data))] < maxResponse := by
  have digits : ((version sha256 stat data).map width).sum ≤ 64 * 6 := by
    have bound := List.sum_le_card_nsmul ((version sha256 stat data).map width) 6 ?_
    · simpa [version] using bound
    · simp only [List.mem_map]
      rintro _ ⟨char, -, rfl⟩
      unfold width
      have := char.utf8Size_le_four
      split_ifs <;> omega
  have keys : ("ok".toList.map width).sum = 2 ∧ ("version".toList.map width).sum = 7 := by decide
  have limit : maxResponse = 2129920 := rfl
  simp only [size, List.map_cons, List.map_nil, List.sum_cons, List.sum_nil, keys, Value.width,
    limit]
  simp only [if_true]
  omega

/-- A permitted file can be read exactly when the request and the answer fit into their limits as
JSON, and overwritten with a text of at most `maxText` bytes exactly when the request does and the
temporary name is free. -/
theorem permitted_file_editable_iff {split : Bytes → List Bytes}
    (delivered : ∀ output, (split output).flatten = output)
    (permitted : Permitted disk root path directory name stat content)
    (short : (utf8 text).length ≤ maxText) :
    ((∃ fields, (call sha256 chance others split root disk "read" [("path", .text path)]).1 =
        .ok fields ∧ get fields "content" = .text content) ↔
      size [("operation", .text "read".toList), ("root", .text root), ("path", .text path)] ≤
        maxRequest ∧
      size [("ok", .bool true), ("content", .text content), ("size", .number (utf8 content).length),
        ("version", .text (version sha256 stat (utf8 content))),
        ("encoding", .text "utf-8".toList)] < maxResponse) ∧
    ((∃ fields, (call sha256 chance others split root disk "write" [("path", .text path),
        ("expected_version", .text (version sha256 stat (utf8 content))),
        ("content", .text text)]).1 = .ok fields) ↔
      size [("operation", .text "write".toList), ("root", .text root), ("path", .text path),
        ("expected_version", .text (version sha256 stat (utf8 content))),
        ("content", .text text)] ≤ maxRequest ∧
      directory.entries.lookup chance.temp = none) := by
  constructor
  · simp only [call_ok_iff delivered, helper_read permitted]
    constructor
    · rintro ⟨_, ⟨asked, _, result, answered, -⟩, -⟩
      cases result
      exact ⟨asked, answered⟩
    · rintro ⟨asked, answered⟩
      exact ⟨_, ⟨asked, _, rfl, answered, rfl⟩, rfl⟩
  · simp only [call_ok_iff delivered, helper_write permitted _ short, overwrite_eq permitted]
    constructor
    · rintro ⟨_, asked, _, result, -⟩
      refine ⟨asked, ?_⟩
      split_ifs at result with free
      · exact free
      · cases result
    · rintro ⟨asked, free⟩
      rw [if_pos free]
      exact ⟨_, asked, _, rfl, size_written _, rfl⟩

end

/-- A directory with one file, which consists of line ends. -/
def ruled (count : ℕ) : Directory :=
  ⟨true, true, [(['a'], .file ⟨1, 2, 1, 0, true, true⟩ (utf8 (List.replicate count '\n')))]⟩

def ruledDisk (count : ℕ) : Disk :=
  ⟨fun _ => .ok 0, fun _ _ => .ok (0, ['a']), fun _ => ruled count⟩

theorem permitted_ruled {count : ℕ} (short : count ≤ maxText) :
    Permitted (ruledDisk count) ['w'] ['a'] (ruled count) ['a'] ⟨1, 2, 1, 0, true, true⟩
      (List.replicate count '\n') := by
  have single : '\n'.utf8Size = 1 := rfl
  refine ⟨⟨0, rfl, 0, rfl, rfl⟩, rfl, rfl, rfl, rfl, rfl, rfl, ?_⟩
  simpa [length_utf8, single] using short

/-- The calls of a service that uses a fixed digest and sends every output in one frame. -/
def plainCall (disk : Disk) : String → Fields → Except Text Fields × Disk :=
  call (fun _ _ => 0) ⟨[], ⟨1, 3, 1, 1, true, true⟩⟩ (fun disk _ _ => (.error .os, disk))
    (fun output => [output]) ['w'] disk

/-- A file with one line end is read, and then emptied. -/
theorem short_file_read :
    (∃ fields, (plainCall (ruledDisk 1) "read" [("path", .text ['a'])]).1 = .ok fields ∧
      get fields "content" = .text ['\n']) ∧
    ∃ fields, (plainCall (ruledDisk 1) "write" [("path", .text ['a']),
      ("expected_version", .text (version (fun _ _ => 0) ⟨1, 2, 1, 0, true, true⟩ (utf8 ['\n']))),
      ("content", .text [])]).1 = .ok fields := by
  have delivered (output : Bytes) : [output].flatten = output := List.append_nil _
  have short : (utf8 []).length ≤ maxText := by decide
  constructor
  · exact (permitted_file_editable_iff delivered (permitted_ruled (by decide)) short).1.mpr
      ⟨by decide +kernel, by decide +kernel⟩
  · exact (permitted_file_editable_iff delivered (permitted_ruled (by decide)) short).2.mpr
      ⟨by decide +kernel, rfl⟩

/-- Twice as many bytes as line ends go over the wire. -/
theorem ruled_unanswered {count : ℕ} (short : count ≤ maxText) (long : maxResponse < count * 2) :
    (∀ fields, (plainCall (ruledDisk count) "read" [("path", .text ['a'])]).1 ≠ .ok fields) ∧
    ∀ expected fields, (plainCall (ruledDisk count) "write" [("path", .text ['a']),
      ("expected_version", expected), ("content", .text (List.replicate count '\n'))]).1 ≠
        .ok fields := by
  have wide : ((List.replicate count '\n').map width).sum = count * 2 := by
    have double : width '\n' = 2 := rfl
    rw [List.map_replicate, List.sum_replicate, double, smul_eq_mul]
  have less : maxRequest ≤ maxResponse := by decide
  refine ⟨fun fields returned => ?_, fun expected fields returned => ?_⟩
  · obtain ⟨-, _, result, fits, -⟩ := (call_ok_iff (fun _ => List.append_nil _)).mp returned
    rw [helper_read (permitted_ruled short)] at result
    cases result
    simp only [size, List.map_cons, List.sum_cons, Value.width, wide] at fits
    omega
  · have fits := ((call_ok_iff (fun _ => List.append_nil _)).mp returned).1
    simp only [size, List.map_cons, List.sum_cons, Value.width, wide] at fits
    omega

/-- A file of `maxText` line ends is permitted, yet no read returns it and no write stores it. -/
theorem ruled_file_stuck :
    Permitted (ruledDisk maxText) ['w'] ['a'] (ruled maxText) ['a'] ⟨1, 2, 1, 0, true, true⟩
      (List.replicate maxText '\n') ∧
    (∀ fields, (plainCall (ruledDisk maxText) "read" [("path", .text ['a'])]).1 ≠ .ok fields) ∧
    ∀ expected fields, (plainCall (ruledDisk maxText) "write" [("path", .text ['a']),
      ("expected_version", expected), ("content", .text (List.replicate maxText '\n'))]).1 ≠
        .ok fields :=
  ⟨permitted_ruled le_rfl, ruled_unanswered le_rfl (by decide)⟩

end TrainingScheduler.Files
