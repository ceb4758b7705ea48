import Mathlib

/-!
# Records on the wire

The framing that the Access container, the broker and their clients share: a version, a type, a
length of four bytes and a payload.
-/

namespace TrainingScheduler.Wire

abbrev Byte := UInt8

/-- `Type` of `protocol.py`. -/
inductive Kind where
  | opening
  | stdin
  | resize
  | close
  | opened
  | stdout
  | exit
  | error
  | challenge
  | auth
  | authenticated
  | probe
  | ready
  | hello
  | workspaceReady
  | fileRequest
  | fileResult
  | fileChunk
  | fileEnd
  | ptyOpen
  | ptyOpened
  | ptyStdin
  | ptyStdout
  | ptyResize
  | ptyClose
  | ptyExit
  | workspaceState
  | cancel
  | sshOpen
  | sshReady
  deriving DecidableEq, Repr

namespace Kind

def code : Kind → Byte
  | opening => 1
  | stdin => 2
  | resize => 3
  | close => 4
  | opened => 5
  | stdout => 6
  | exit => 7
  | error => 8
  | challenge => 16
  | auth => 17
  | authenticated => 18
  | probe => 19
  | ready => 20
  | hello => 32
  | workspaceReady => 33
  | fileRequest => 34
  | fileResult => 35
  | fileChunk => 36
  | fileEnd => 37
  | ptyOpen => 38
  | ptyOpened => 39
  | ptyStdin => 40
  | ptyStdout => 41
  | ptyResize => 42
  | ptyClose => 43
  | ptyExit => 44
  | workspaceState => 45
  | cancel => 46
  | sshOpen => 48
  | sshReady => 49

def all : List Kind :=
  [opening, stdin, resize, close, opened, stdout, exit, error, challenge, auth, authenticated,
    probe, ready, hello, workspaceReady, fileRequest, fileResult, fileChunk, fileEnd, ptyOpen,
    ptyOpened, ptyStdin, ptyStdout, ptyResize, ptyClose, ptyExit, workspaceState, cancel, sshOpen,
    sshReady]

/-- `Type(kind)`, which raises for a number that is none. -/
def ofCode (value : Byte) : Option Kind := all.find? fun kind => kind.code == value

@[simp]
theorem ofCode_code (kind : Kind) : ofCode kind.code = some kind := by
  cases kind <;> rfl

end Kind

def maxPayload : ℕ := 65530

/-- `HEADER.pack`. -/
def pack (version kind : Byte) (length : ℕ) : List Byte :=
  [version, kind, .ofNat (length / 2 ^ 24), .ofNat (length / 2 ^ 16), .ofNat (length / 2 ^ 8),
    .ofNat length]

/-- `HEADER.unpack`. -/
def unpack : List Byte → Option (Byte × Byte × ℕ)
  | [version, kind, a, b, c, d] =>
    some (version, kind, ((a.toNat * 256 + b.toNat) * 256 + c.toNat) * 256 + d.toNat)
  | _ => none

@[simp]
theorem length_pack (version kind : Byte) (length : ℕ) : (pack version kind length).length = 6 :=
  rfl

theorem unpack_pack (version kind : Byte) {length : ℕ} (fits : length < 2 ^ 32) :
    unpack (pack version kind length) = some (version, kind, length) := by
  have digits : ((length / 2 ^ 24 % 256 * 256 + length / 2 ^ 16 % 256) * 256 +
      length / 2 ^ 8 % 256) * 256 + length % 256 = length := by omega
  simp only [pack, unpack, UInt8.toNat_ofNat']
  exact congrArg (fun value => some (version, kind, value)) digits

def record (kind : Kind) (payload : List Byte) : List Byte :=
  pack 1 kind.code payload.length ++ payload

/-- `encode`. -/
def encode (kind : Kind) (payload : List Byte) : Option (List Byte) :=
  if payload.length > maxPayload then none else some (record kind payload)

/-- `decode_header`. -/
def decodeHeader (header : List Byte) : Option (Kind × ℕ) :=
  (unpack header).bind fun (version, kind, length) =>
    if version ≠ 1 ∨ length > maxPayload then none
    else (Kind.ofCode kind).map fun kind => (kind, length)

/-- A record as its reader returns it. -/
structure Received where
  kind : Kind
  payload : List Byte
  deriving DecidableEq, Repr

/-- How a stream of records ends: with no byte left, or with a record that cannot be read. -/
inductive StreamEnd where
  | eof
  | invalid
  deriving DecidableEq, Repr

/-- `read_record`, with the bytes after the record. -/
def readRecord (bytes : List Byte) : Except StreamEnd (Received × List Byte) :=
  if bytes.isEmpty then .error .eof
  else if bytes.length < 6 then .error .invalid
  else
    match decodeHeader (bytes.take 6) with
    | none => .error .invalid
    | some (kind, length) =>
      if (bytes.drop 6).length < length then .error .invalid
      else .ok (⟨kind, (bytes.drop 6).take length⟩, (bytes.drop 6).drop length)

/-- The records of a stream, read one after the other. -/
def readFrom : ℕ → List Byte → List Received × StreamEnd
  | 0, _ => ([], .eof)
  | fuel + 1, bytes =>
    match readRecord bytes with
    | .error reason => ([], reason)
    | .ok (received, rest) =>
      (received :: (readFrom fuel rest).1, (readFrom fuel rest).2)

/-- Every record takes bytes, so that the length of the stream is fuel enough. -/
def readAll (bytes : List Byte) : List Received × StreamEnd := readFrom (bytes.length + 1) bytes

theorem decodeHeader_pack (kind : Kind) {length : ℕ} (fits : length ≤ maxPayload) :
    decodeHeader (pack 1 kind.code length) = some (kind, length) := by
  have small : length < 2 ^ 32 := lt_of_le_of_lt fits (by decide)
  have legal : ¬((1 : Byte) ≠ 1 ∨ length > maxPayload) := by
    rintro (wrong | long)
    · exact wrong rfl
    · omega
  rw [decodeHeader, unpack_pack 1 kind.code small, Option.bind_some]
  dsimp only
  rw [if_neg legal, Kind.ofCode_code, Option.map_some]

theorem readRecord_record (received : Received) (fits : received.payload.length ≤ maxPayload)
    (rest : List Byte) :
    readRecord (record received.kind received.payload ++ rest) = .ok (received, rest) := by
  have shape : record received.kind received.payload ++ rest =
      pack 1 received.kind.code received.payload.length ++ (received.payload ++ rest) := by
    rw [record, List.append_assoc]
  have header : (pack 1 received.kind.code received.payload.length).length = 6 := length_pack _ _ _
  have long : ¬(pack 1 received.kind.code received.payload.length ++
      (received.payload ++ rest)).length < 6 := by
    rw [List.length_append, header]
    omega
  rw [readRecord, shape, if_neg (by simp [pack]), if_neg long, List.take_left' header,
    List.drop_left' header, decodeHeader_pack _ fits]
  simp

variable {bytes : List Byte}

theorem readRecord_shrinks {rest : List Byte} {received : Received}
    (read : readRecord bytes = .ok (received, rest)) : rest.length < bytes.length := by
  unfold readRecord at read
  repeat' split at read
  all_goals cases read
  simp only [List.length_drop]
  omega

theorem readFrom_of_lt {fuel : ℕ} (enough : bytes.length < fuel) :
    readFrom fuel bytes = readAll bytes := by
  rw [readAll]
  generalize plenty : bytes.length + 1 = other
  have sufficient : bytes.length < other := by omega
  clear plenty
  induction fuel generalizing bytes other with
  | zero => omega
  | succ fuel ih =>
    obtain ⟨other, rfl⟩ : ∃ less, other = less + 1 := ⟨other - 1, by omega⟩
    simp only [readFrom]
    cases read : readRecord bytes with
    | error reason => rfl
    | ok found =>
      have shorter := readRecord_shrinks read
      dsimp only
      rw [ih (by omega) other (by omega)]

private theorem readAll_record (received : Received) (fits : received.payload.length ≤ maxPayload)
    (rest : List Byte) :
    readAll (record received.kind received.payload ++ rest) =
      (received :: (readAll rest).1, (readAll rest).2) := by
  have read := readRecord_record received fits rest
  have shorter := readRecord_shrinks read
  rw [readAll, readFrom, read]
  dsimp only
  rw [readFrom_of_lt shorter]

def records (sent : List Received) : List Byte :=
  sent.flatMap fun received => record received.kind received.payload

variable {sent : List Received}

theorem readAll_records_append (fits : ∀ received ∈ sent, received.payload.length ≤ maxPayload)
    (rest : List Byte) :
    readAll (records sent ++ rest) = (sent ++ (readAll rest).1, (readAll rest).2) := by
  induction sent with
  | nil => rfl
  | cons received sent ih =>
    have later := ih fun other member => fits other (List.mem_cons_of_mem _ member)
    rw [records, List.flatMap_cons, List.append_assoc,
      readAll_record received (fits received List.mem_cons_self)]
    rw [← records, later]
    rfl

theorem readAll_records (fits : ∀ received ∈ sent, received.payload.length ≤ maxPayload) :
    readAll (records sent) = (sent, .eof) := by
  have read := readAll_records_append fits []
  rwa [List.append_nil, show readAll [] = ([], .eof) from rfl, List.append_nil] at read

end TrainingScheduler.Wire
