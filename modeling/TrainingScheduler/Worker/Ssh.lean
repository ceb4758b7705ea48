import Mathlib
import TrainingScheduler.Programs

/-!
# SSH access to a workload

Two parts of `interactive/ssh.py`.  `install_authorized_key` reads the key file, appends to it and
checks it in separate commands inside the container, from one thread for each connection; a file is
the list of its complete lines, stripped and without the blank ones, as the function reads it.
`SshRelay` reads the frames of a Docker exec from a socket and passes on what they carry for the
standard output.
-/

namespace TrainingScheduler.Ssh

/-- `_MAX_KEYS`. -/
def maxKeys : ℕ := 16

variable {κ : Type*}

/-- Where a call stands; `lines` is what it has read. -/
inductive Call (κ : Type*)
  | ready (clean : κ)
  | missing (clean : κ) (lines : List κ)
  | appended (clean : κ)
  | returned (clean : κ)
  | failed

/-- The key file and the calls made so far. -/
structure Workload (κ : Type*) where
  file : List κ
  calls : ℕ → Option (Call κ)

open Ssh.Workload

def Workload.start (file : List κ) : Workload κ := ⟨file, fun _ => none⟩

/-- A call begins, or one of its commands ends.  The shell that appends exits with the code of its
last command, `chown`, so that code does not tell whether the line was written. -/
inductive Command (κ : Type*)
  | enter (call : ℕ) (clean : κ)
  | cat (call : ℕ) (succeeded : Bool)
  | append (call : ℕ) (written succeeded : Bool)
  | stat (call : ℕ) (safe : Bool)

def Workload.move (workload : Workload κ) (call : ℕ) (next : Call κ) : Workload κ :=
  { workload with calls := Function.update workload.calls call (some next) }

/-- `install_authorized_key`, one command at a time. -/
def Workload.installAuthorizedKey [DecidableEq κ] (workload : Workload κ) :
    Command κ → Workload κ
  | .enter call clean =>
    if (workload.calls call).isNone then workload.move call (.ready clean) else workload
  | .cat call succeeded =>
    match workload.calls call with
    | some (.ready clean) =>
      let lines := if succeeded then workload.file else []
      workload.move call
        (if clean ∈ lines then .returned clean
          else if maxKeys ≤ lines.length then .failed else .missing clean lines)
    | _ => workload
  | .append call written succeeded =>
    match workload.calls call with
    | some (.missing clean _) =>
      { workload with file := workload.file ++ if written then [clean] else [] }.move call
        (if succeeded then .appended clean else .failed)
    | _ => workload
  | .stat call safe =>
    match workload.calls call with
    | some (.appended clean) => workload.move call (if safe then .returned clean else .failed)
    | _ => workload

/-- A call appends to the file it has read, and a command that exits with zero has written. -/
def Undisturbed (workload : Workload κ) : Command κ → Prop
  | .append call written succeeded =>
    (∀ clean lines, workload.calls call = some (.missing clean lines) → lines = workload.file) ∧
      (succeeded → written)
  | _ => True

/-- What a call knows of the file. -/
def Call.Sound (file : List κ) : Call κ → Prop
  | .missing clean lines => clean ∉ lines ∧ lines.length < maxKeys
  | .appended clean | .returned clean => clean ∈ file
  | _ => True

/-- The file keeps the lines of `initial`, has no line twice and at most the allowed number. -/
structure Workload.Secure (initial : List κ) (workload : Workload κ) : Prop where
  kept : initial ⊆ workload.file
  distinct : workload.file.Nodup
  few : workload.file.length ≤ maxKeys
  calls : ∀ number call, workload.calls number = some call → call.Sound workload.file

section

variable {initial : List κ} {workload : Workload κ} (secure : workload.Secure initial)
include secure

theorem Workload.Secure.move (number : ℕ) {next : Call κ} (sound : next.Sound workload.file) :
    (workload.move number next).Secure initial := by
  refine { secure with calls := fun other call found => ?_ }
  by_cases same : other = number
  · subst other
    obtain rfl : next = call := by simpa [Workload.move] using found
    exact sound
  · exact secure.calls other call (by simpa [Workload.move, same] using found)

theorem Workload.Secure.append {clean : κ} (missing : clean ∉ workload.file)
    (room : workload.file.length < maxKeys) :
    Workload.Secure initial { workload with file := workload.file ++ [clean] } where
  kept := List.subset_append_of_subset_left _ secure.kept
  distinct := by
    simpa using secure.distinct.concat missing
  few := by
    simpa using room
  calls := by
    intro number call found
    have sound := secure.calls number call found
    cases call with
    | ready | failed => trivial
    | missing => exact sound
    | appended | returned => exact List.mem_append_left _ sound

theorem Workload.Secure.step [DecidableEq κ] {command : Command κ}
    (undisturbed : Undisturbed workload command) :
    (workload.installAuthorizedKey command).Secure initial := by
  cases command with
  | enter call clean =>
    simp only [installAuthorizedKey]
    split
    · exact secure.move call trivial
    · exact secure
  | cat call succeeded =>
    simp only [installAuthorizedKey]
    split
    · refine secure.move call ?_
      cases succeeded with
      | false => simp [Call.Sound, maxKeys]
      | true =>
        simp only [if_true]
        split_ifs with present full
        · exact present
        · trivial
        · exact ⟨present, not_le.mp full⟩
    · exact secure
  | append call written succeeded =>
    simp only [installAuthorizedKey]
    split
    · next clean lines found =>
      obtain ⟨missing, room⟩ := secure.calls call _ found
      obtain ⟨read, honest⟩ := undisturbed
      obtain rfl := read clean lines found
      cases written with
      | false =>
        obtain rfl : succeeded = false := by simpa using honest
        have failure : Call.Sound workload.file .failed := trivial
        simpa using secure.move call failure
      | true =>
        refine (secure.append missing room).move call ?_
        split_ifs
        · exact List.mem_append_right _ (List.mem_singleton_self clean)
        · trivial
    · exact secure
  | stat call safe =>
    simp only [installAuthorizedKey]
    split
    · next clean found =>
      have written : clean ∈ workload.file := secure.calls call _ found
      refine secure.move call ?_
      split_ifs
      · exact written
      · trivial
    · exact secure

end

/-- In every run of calls each of which appends to the file it has read, the keys of the calls that
succeeded and the lines from before are in the file, no line is there twice, and the file has at
most `maxKeys` lines. -/
theorem undisturbed_installs_secure [DecidableEq κ] {initial : List κ} (distinct : initial.Nodup)
    (few : initial.length ≤ maxKeys) {commands : List (Command κ)}
    (undisturbed : Machine.Throughout installAuthorizedKey Undisturbed
      (Workload.start initial) commands) :
    let last := commands.foldl installAuthorizedKey (Workload.start initial)
    (∀ call clean, last.calls call = some (.returned clean) → clean ∈ last.file) ∧
      initial ⊆ last.file ∧ last.file.Nodup ∧ last.file.length ≤ maxKeys := by
  intro last
  have begun : (Workload.start initial).Secure initial :=
    ⟨List.Subset.refl _, distinct, few, by simp [Workload.start]⟩
  have secure : last.Secure initial :=
    undisturbed.invariant (fun _ _ secure condition => secure.step condition) begun
  exact ⟨fun call clean => secure.calls call _, secure.kept, secure.distinct, secure.few⟩

/-- Two calls at a time, with different keys, and a third one with the key of the first. -/
theorem repeated_key_installed_once :
    let last := [.enter 0 7, .enter 1 8, .cat 0 true, .append 0 true true, .cat 1 true,
      .append 1 true true, .stat 0 true, .enter 2 7, .stat 1 true, .cat 2 true].foldl
        installAuthorizedKey (Workload.start [3])
    last.file = [3, 7, 8] ∧ last.calls 2 = some (.returned 7) ∧ last.file.Nodup := by
  refine ⟨rfl, rfl, ?_⟩
  refine (undisturbed_installs_secure (by decide) (by decide) ?_).2.2.1
  simp [Machine.Throughout, Undisturbed, installAuthorizedKey, move,
    Workload.start, maxKeys]

/-- Two calls with one key that both read the file before either appends list the key twice. -/
theorem concurrent_installs_repeat_key :
    let last := [.enter 0 7, .enter 1 7, .cat 0 true, .cat 1 true, .append 0 true true,
      .append 1 true true, .stat 0 true, .stat 1 true].foldl installAuthorizedKey
        (Workload.start [3])
    last.calls 0 = some (.returned 7) ∧ last.calls 1 = some (.returned 7) ∧
      last.file = [3, 7, 7] :=
  ⟨rfl, rfl, rfl⟩

abbrev Bytes := List UInt8

/-- What a socket is still to deliver, and how many bytes beyond the first a `recv` may return. -/
structure Socket where
  bytes : Bytes
  cuts : List ℕ

def Socket.recv (socket : Socket) (size : ℕ) : Bytes × Socket :=
  let count := min size (socket.cuts.headD size + 1)
  (socket.bytes.take count, ⟨socket.bytes.drop count, socket.cuts.tail⟩)

inductive Failure where
  | eof
  | truncated
  | invalid
  | badSize
  deriving DecidableEq, Repr

/-- `_read_exact`, with what it has read so far. -/
def readExact (size : ℕ) (data : Bytes) (socket : Socket) : Except Failure (Bytes × Socket) :=
  if data.length < size then
    match socket.recv (size - data.length) with
    | ([], _) => .error (if data = [] then .eof else .truncated)
    | (byte :: chunk, socket) => readExact size (data ++ byte :: chunk) socket
  else .ok (data, socket)
termination_by size - data.length
decreasing_by
  simp only [List.length_append, List.length_cons]
  omega

def maxFrame : ℕ := 1048576

structure SshRelay where
  pending : Bytes
  socket : Socket

namespace SshRelay

/-- The loop of `recv` while nothing is pending. -/
def fill : ℕ → SshRelay → Except Failure SshRelay
  | 0, relay => .ok relay
  | fuel + 1, relay =>
    if relay.pending ≠ [] then .ok relay
    else
      match readExact 8 [] relay.socket with
      | .error .eof => .ok relay
      | .error failure => .error failure
      | .ok (header, socket) =>
        let size := (header.drop 4).foldl (fun value byte => value * 256 + byte.toNat) 0
        if (header.drop 1).take 3 ≠ [0, 0, 0] ∨ size > maxFrame ∨
            header.head? ≠ some 1 ∧ header.head? ≠ some 2 then .error .invalid
        else
          match readExact size [] socket with
          | .error failure => .error failure
          | .ok (payload, socket) =>
            fill fuel ⟨if header.head? = some 1 then payload else [], socket⟩

/-- Every frame takes bytes, so that the number of bytes to come is fuel enough. -/
def recv (relay : SshRelay) (size : ℕ) : Except Failure (Bytes × SshRelay) :=
  if size = 0 then .error .badSize
  else (fill (relay.socket.bytes.length + 1) relay).map fun relay =>
    (relay.pending.take size, { relay with pending := relay.pending.drop size })

/-- The results of one `recv` after the other. -/
def recvAll (relay : SshRelay) : List ℕ+ → Except Failure (List Bytes × SshRelay)
  | [] => .ok ([], relay)
  | size :: sizes =>
    (relay.recv size).bind fun (result, relay) =>
      (relay.recvAll sizes).map fun (results, relay) => (result :: results, relay)

end SshRelay

structure Frame where
  stderr : Bool
  payload : Bytes
  bounded : payload.length ≤ maxFrame

def Frame.header (frame : Frame) : Bytes :=
  let size := frame.payload.length
  [if frame.stderr then 2 else 1, 0, 0, 0, .ofNat (size / 2 ^ 24), .ofNat (size / 2 ^ 16),
    .ofNat (size / 2 ^ 8), .ofNat size]

def stream (frames : List Frame) : Bytes :=
  frames.flatMap fun frame => frame.header ++ frame.payload

def stdout (frames : List Frame) : Bytes :=
  frames.flatMap fun frame => if frame.stderr then [] else frame.payload

theorem readExact_eq (size : ℕ) (data : Bytes) (socket : Socket) (short : data.length ≤ size)
    (enough : size ≤ data.length + socket.bytes.length) :
    ∃ cuts, readExact size data socket = .ok (data ++ socket.bytes.take (size - data.length),
      ⟨socket.bytes.drop (size - data.length), cuts⟩) := by
  fun_induction readExact size data socket with
  | case1 data socket less rest received =>
    have none : socket.bytes.take _ = [] := congrArg Prod.fst received
    have length := congrArg List.length none
    rw [List.length_take, List.length_nil] at length
    omega
  | case2 data socket less byte chunk rest received induction =>
    obtain ⟨part, rfl⟩ := Prod.mk.inj received
    generalize counted : min (size - data.length) _ = count at part induction
    have length := congrArg List.length part
    rw [List.length_take] at length
    have within : size - data.length = count + (size - data.length - count) := by omega
    rw [← part] at induction ⊢
    have joined : (data ++ socket.bytes.take count).length = data.length + count := by
      rw [List.length_append, List.length_take]
      omega
    rw [joined, List.length_drop] at induction
    obtain ⟨cuts, read⟩ := induction (by omega) (by omega)
    refine ⟨cuts, read.trans ?_⟩
    rw [List.append_assoc, Nat.sub_add_eq, ← List.take_add, List.drop_drop, ← within]
  | case3 data socket full =>
    have done : size - data.length = 0 := by omega
    exact ⟨socket.cuts, by simp [done]⟩

theorem readExact_append (socket : Socket) {first rest : Bytes}
    (delivers : socket.bytes = first ++ rest) :
    ∃ cuts, readExact first.length [] socket = .ok (first, ⟨rest, cuts⟩) := by
  have read := readExact_eq first.length [] socket (Nat.zero_le _) (by simp [delivers])
  simpa [delivers] using read

theorem Frame.size_header (frame : Frame) :
    (frame.header.drop 4).foldl (fun value byte => value * 256 + byte.toNat) 0 =
      frame.payload.length := by
  have bounded : frame.payload.length ≤ 1048576 := frame.bounded
  simp only [header, List.drop_succ_cons, List.drop_zero, List.foldl_cons, List.foldl_nil,
    UInt8.toNat_ofNat']
  omega

/-- The frames and the output that are still to come. -/
structure SshRelay.Holds (relay : SshRelay) (frames : List Frame) (output : Bytes) : Prop where
  delivers : relay.socket.bytes = stream frames
  output : relay.pending ++ stdout frames = output

namespace SshRelay.Holds

variable {relay : SshRelay} {frames : List Frame} {output : Bytes}

theorem fill (holds : relay.Holds frames output) {fuel : ℕ} (enough : frames.length < fuel) :
    ∃ after rest, relay.fill fuel = .ok after ∧ after.Holds rest output ∧
      (after.pending = [] → rest = []) := by
  induction frames generalizing relay fuel with
  | nil =>
    obtain ⟨fuel, rfl⟩ : ∃ less, fuel = less + 1 := ⟨fuel - 1, by omega⟩
    refine ⟨relay, [], ?_, holds, fun _ => rfl⟩
    have ended : readExact 8 [] relay.socket = .error .eof := by
      rw [readExact]
      simp [Socket.recv, holds.delivers, stream]
    rw [SshRelay.fill, ended]
    split_ifs <;> rfl
  | cons frame frames induction =>
    obtain ⟨fuel, rfl⟩ : ∃ less, fuel = less + 1 := ⟨fuel - 1, by omega⟩
    by_cases pending : relay.pending = []
    · have delivers : relay.socket.bytes = frame.header ++ (frame.payload ++ stream frames) := by
        rw [holds.delivers, stream, List.flatMap_cons, List.append_assoc, ← stream]
      obtain ⟨middle, header⟩ := readExact_append relay.socket delivers
      obtain ⟨cuts, payload⟩ :=
        readExact_append ⟨frame.payload ++ stream frames, middle⟩ rfl
      have valid : ¬((frame.header.drop 1).take 3 ≠ [0, 0, 0] ∨ frame.payload.length > maxFrame ∨
          frame.header.head? ≠ some 1 ∧ frame.header.head? ≠ some 2) := by
        have bounded := frame.bounded
        cases kind : frame.stderr <;> simp [Frame.header, kind, bounded]
      have first : (if frame.header.head? = some 1 then frame.payload else []) ++ stdout frames =
          output := by
        rw [← holds.output, pending]
        cases kind : frame.stderr <;> simp [Frame.header, kind, stdout]
      have later : SshRelay.Holds ⟨_, ⟨stream frames, cuts⟩⟩ frames output := ⟨rfl, first⟩
      obtain ⟨last, rest, filled, shape⟩ := induction later (Nat.lt_of_succ_lt_succ enough)
      refine ⟨last, rest, ?_, shape⟩
      rw [SshRelay.fill, if_neg (not_not.mpr pending), show (8 : ℕ) = frame.header.length from rfl,
        header]
      dsimp only
      rw [frame.size_header, if_neg valid, payload]
      exact filled
    · exact ⟨relay, frame :: frames, by rw [SshRelay.fill, if_pos pending], holds,
        fun none => absurd none pending⟩

theorem recv (holds : relay.Holds frames output) (size : ℕ+) :
    ∃ result after rest left, relay.recv size = .ok (result, after) ∧ after.Holds rest left ∧
      result ++ left = output ∧ (result = [] → after.pending = [] ∧ rest = []) := by
  have enough : frames.length < relay.socket.bytes.length + 1 := by
    rw [holds.delivers, stream, List.length_flatMap, Nat.lt_succ_iff, ← List.length_map]
    exact List.length_le_sum_of_one_le _ (by simp [Frame.header])
  obtain ⟨after, rest, filled, later, idle⟩ := holds.fill enough
  refine ⟨after.pending.take size, { after with pending := after.pending.drop size }, rest, _,
    ?_, ⟨later.delivers, rfl⟩, ?_, fun none => ?_⟩
  · rw [SshRelay.recv, if_neg size.ne_zero, filled]
    rfl
  · rw [← List.append_assoc, List.take_append_drop, later.output]
  · have empty : after.pending = [] := (List.take_eq_nil_iff.mp none).resolve_left size.ne_zero
    exact ⟨by simp [empty], idle empty⟩

theorem recvAll (holds : relay.Holds frames output) (sizes : List ℕ+) :
    ∃ results after rest left, relay.recvAll sizes = .ok (results, after) ∧
      after.Holds rest left ∧ results.flatten ++ left = output ∧
      results.length = sizes.length := by
  induction sizes generalizing relay frames output with
  | nil => exact ⟨[], relay, frames, output, rfl, holds, rfl, rfl⟩
  | cons size sizes induction =>
    obtain ⟨result, middle, later, left, received, carried, rfl, -⟩ := holds.recv size
    obtain ⟨results, after, rest, left, done, last, rfl, length⟩ := induction carried
    refine ⟨result :: results, after, rest, left, ?_, last, ?_, congrArg (· + 1) length⟩
    · simp only [SshRelay.recvAll, received, Except.bind, done]
      rfl
    · rw [List.flatten_cons, List.append_assoc]

end SshRelay.Holds

/-- However the socket cuts the frames and whatever the sizes, `recv` returns the standard output
and nothing else, and an empty result only at the end, where everything has been returned. -/
theorem exec_output_decoded (frames : List Frame) (cuts : List ℕ) (sizes : List ℕ+) (size : ℕ+) :
    ∃ results middle result after,
      SshRelay.recvAll ⟨[], stream frames, cuts⟩ sizes = .ok (results, middle) ∧
      middle.recv size = .ok (result, after) ∧
      (results ++ [result]).flatten <+: stdout frames ∧
      (result = [] → results.flatten = stdout frames ∧ after.pending = [] ∧
        after.socket.bytes = []) ∧
      ((stdout frames).length ≤ sizes.length → [] ∈ results ++ [result]) := by
  have start : SshRelay.Holds ⟨[], stream frames, cuts⟩ frames (stdout frames) := ⟨rfl, rfl⟩
  obtain ⟨results, middle, later, left, done, holds, joined, length⟩ := start.recvAll sizes
  obtain ⟨result, after, rest, left, received, remaining, rfl, ended⟩ := holds.recv size
  have whole : (results ++ [result]).flatten ++ left = stdout frames := by
    rw [List.flatten_append, List.flatten_singleton, List.append_assoc, joined]
  refine ⟨results, middle, result, after, done, received, ⟨left, whole⟩, fun none => ?_,
    fun many => ?_⟩
  · obtain ⟨idle, rfl⟩ := ended none
    refine ⟨?_, idle, remaining.delivers⟩
    rw [← joined, none, ← remaining.output, idle]
    simp [stdout]
  · by_contra absent
    have counted : (results ++ [result]).length ≤ (results ++ [result]).flatten.length := by
      rw [List.length_flatten, ← List.length_map (f := List.length)]
      refine List.length_le_sum_of_one_le _ fun count listed => ?_
      obtain ⟨part, member, rfl⟩ := List.mem_map.mp listed
      exact List.length_pos_iff.mpr fun none => absent (none ▸ member)
    have total := congrArg List.length whole
    simp only [List.length_append, List.length_singleton] at counted total
    omega

end TrainingScheduler.Ssh
