import TrainingScheduler.Access.Protocol
import TrainingScheduler.Json

/-!
# Input to a workspace terminal

What is typed into the terminal of a workspace leaves the browser in records of the workspace
protocol.
-/

namespace TrainingScheduler.Browser

open Wire

inductive PtyState where
  | closed
  | opening
  | opened
  | closing
  | exited
  deriving DecidableEq, Repr

structure WorkspaceError where
  code : String
  message : String
  retryable : Bool := false
  deriving DecidableEq, Repr

/-- `WorkspaceConnection`, with what its socket was given to send. -/
structure Connection where
  pty : PtyState
  /-- There is a socket, and its `readyState` is `OPEN`. -/
  connected : Bool
  sent : List (List Byte)
  deriving DecidableEq, Repr

def record (kind : Kind) (payload : List Byte) : Except WorkspaceError (List Byte) :=
  if payload.length > maxPayload then
    .error { code := "PROTOCOL_ERROR", message := "Workspace message too large" }
  else .ok (Wire.record kind payload)

/-- One code unit as `TextEncoder` reads it where it is no part of a pair. -/
def scalar (unit : UInt16) : Char :=
  if 0xD800 ≤ unit ∧ unit < 0xE000 then '�' else .ofNat unit.toNat

/-- The code points of a JavaScript string. -/
def codePoints : List UInt16 → Json.Text
  | high :: low :: rest =>
    if (0xD800 ≤ high ∧ high < 0xDC00) ∧ 0xDC00 ≤ low ∧ low < 0xE000 then
      .ofNat (0x10000 + (high.toNat - 0xD800) * 0x400 + (low.toNat - 0xDC00)) :: codePoints rest
    else scalar high :: codePoints (low :: rest)
  | [unit] => [scalar unit]
  | [] => []

/-- `encoder.encode`. -/
def encode (data : List UInt16) : List Byte := Json.utf8 (codePoints data)

namespace Connection

variable (connection : Connection)

def send (kind : Kind) (payload : List Byte) : Except WorkspaceError Connection :=
  if connection.connected then
    (Browser.record kind payload).map fun bytes =>
      { connection with sent := connection.sent ++ [bytes] }
  else .error { code := "UNAVAILABLE", message := "Workspace disconnected", retryable := true }

/-- `send` to the terminal with every error caught. -/
def sendStdin (payload : List Byte) : Connection :=
  match connection.send .ptyStdin payload with
  | .ok after => after
  | .error _ => connection

def ptyInput (data : List UInt16) : Connection :=
  if connection.pty ≠ .opened then connection
  else if data = [] then connection
  else connection.sendStdin (encode data)

def ptyBinary (data : List Byte) : Connection :=
  if connection.pty ≠ .opened then connection
  else if data = [] then connection
  else connection.sendStdin data

end Connection

open Connection

/-- What `ptyInput` or `ptyBinary` is called with. -/
inductive Input where
  | text (data : List UInt16)
  | binary (data : List Byte)
  deriving DecidableEq, Repr

def Input.bytes : Input → List Byte
  | text data => encode data
  | binary data => data

def Connection.type (connection : Connection) : Input → Connection
  | .text data => connection.ptyInput data
  | .binary data => connection.ptyBinary data

/-- What was sent after `before` are records for the terminal that carry `bytes`. -/
def Carries (before after : Connection) (bytes : List Byte) : Prop :=
  ∃ payloads : List (List Byte),
    after.sent = before.sent ++ payloads.map (Wire.record .ptyStdin) ∧
      (∀ payload ∈ payloads, payload.length ≤ maxPayload) ∧ payloads.flatten = bytes

variable {connection : Connection}

theorem carries_nil : Carries connection connection [] :=
  ⟨[], by simp, by simp, rfl⟩

theorem sendStdin_eq (connected : connection.connected = true) (payload : List Byte) :
    connection.sendStdin payload =
      if payload.length > maxPayload then connection
      else { connection with sent := connection.sent ++ [Wire.record .ptyStdin payload] } := by
  unfold sendStdin send Browser.record
  rw [if_pos connected]
  split_ifs <;> rfl

theorem carries_sendStdin_iff (connected : connection.connected = true) (payload : List Byte) :
    Carries connection (connection.sendStdin payload) payload ↔ payload.length ≤ maxPayload := by
  rw [sendStdin_eq connected]
  split_ifs with long
  · refine iff_of_false ?_ (by omega)
    rintro ⟨payloads, same, -, rfl⟩
    have none : payloads = [] := by simpa using same
    simp [none] at long
  · exact iff_of_true ⟨[payload], rfl, by simpa using long, by simp⟩ (by omega)

/-- What is typed into an open terminal is sent exactly where it fits into one record. -/
theorem typed_input_carried_iff (opened : connection.pty = .opened)
    (connected : connection.connected = true) (input : Input) :
    Carries connection (connection.type input) input.bytes ↔ input.bytes.length ≤ maxPayload := by
  cases input with
  | text data =>
    simp only [type, ptyInput, opened, ne_eq, not_true, if_false]
    split_ifs with empty
    · subst empty
      exact iff_of_true carries_nil (Nat.zero_le _)
    · exact carries_sendStdin_iff connected _
  | binary data =>
    simp only [type, ptyBinary, opened, ne_eq, not_true, if_false]
    split_ifs with empty
    · subst empty
      exact iff_of_true carries_nil (Nat.zero_le _)
    · exact carries_sendStdin_iff connected _

def openConnection : Connection := ⟨.opened, true, []⟩

theorem short_line_carried :
    openConnection.pty = .opened ∧ openConnection.connected = true ∧
      Carries openConnection (openConnection.type (.text [0x6c, 0x73, 0x0d])) [0x6c, 0x73, 0x0d] :=
  ⟨rfl, rfl, (typed_input_carried_iff rfl rfl (.text [0x6c, 0x73, 0x0d])).mpr (by decide)⟩

/-- A paste of one byte more than a record holds is not sent at all. -/
theorem long_paste_dropped :
    ∃ data : List Byte, data.length = 65531 ∧
      openConnection.type (.binary data) = openConnection ∧
      ¬Carries openConnection (openConnection.type (.binary data)) data := by
  obtain ⟨data, length⟩ : ∃ data : List Byte, data.length = 65531 :=
    ⟨List.replicate 65531 0, List.length_replicate⟩
  have long : data.length > maxPayload := by
    rw [length]
    decide
  have some : data ≠ [] := List.ne_nil_of_length_pos (by omega)
  have typed : openConnection.type (.binary data) = openConnection.sendStdin data := if_neg some
  exact ⟨data, length, by rw [typed, sendStdin_eq rfl, if_pos long], fun carries =>
    absurd ((carries_sendStdin_iff rfl _).mp (typed ▸ carries)) (by omega)⟩

end TrainingScheduler.Browser
