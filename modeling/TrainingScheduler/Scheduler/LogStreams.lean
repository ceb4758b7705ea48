import Mathlib

/-!
# Log viewers

`_serve_log_stream` sends the history of a stream or resumes behind the last entry of the client,
reads on in batches, and looks at the status of the job between them.  The identifier of an entry is
its position; `"0"` is the position before the first one.
-/

namespace TrainingScheduler.LogStream

variable {α : Type}

/-- Where the handler of a connection is: before the history, in front of a read behind an entry, or
in front of the status query, with the position and the length of the stream that the read has
found. -/
inductive Phase where
  | closed
  | opening
  | reading (last : ℕ)
  | checking (last before seen : ℕ)

/-- The stream with its length when the job became terminal, the entries that the client has
received, and the connection: the entries of the messages on their way, the `done` behind them and
the one that was received.  A `done` carries what the last read has found. -/
structure Viewer (α : Type) where
  stream : List α
  terminal : Option ℕ
  received : List α
  phase : Phase
  channel : List (List α)
  closing : Option (ℕ × ℕ)
  finished : Option (ℕ × ℕ)

open Viewer

inductive Event (α : Type) where
  | append (entry : α)
  | terminate
  | connect
  | history
  | read
  | check
  | receive
  | disconnect

/-- `read_log_stream`: at most 100 entries behind the given one. -/
def readLogStream (stream : List α) (last : ℕ) : List α := (stream.drop last).take 100

def Viewer.step (viewer : Viewer α) : Event α → Viewer α
  | .append entry => { viewer with stream := viewer.stream ++ [entry] }
  | .terminate => { viewer with terminal := viewer.terminal.or (some viewer.stream.length) }
  | .connect =>
    match viewer.phase, viewer.channel, viewer.closing with
    | .closed, [], none => { viewer with phase := .opening, finished := none }
    | _, _, _ => viewer
  | .history =>
    match viewer.phase with
    | .opening =>
      if viewer.received = [] then
        { viewer with channel := [viewer.stream], phase := .reading viewer.stream.length }
      else { viewer with phase := .reading viewer.received.length }
    | _ => viewer
  | .read =>
    match viewer.phase with
    | .reading last =>
      let messages := readLogStream viewer.stream last
      { viewer with
        channel := viewer.channel ++ messages.map ([·])
        phase := .checking (last + messages.length) last viewer.stream.length }
    | _ => viewer
  | .check =>
    match viewer.phase with
    | .checking last before seen =>
      if viewer.terminal.isSome then
        { viewer with phase := .closed, closing := some (before, seen) }
      else { viewer with phase := .reading last }
    | _ => viewer
  | .receive =>
    match viewer.channel, viewer.closing with
    | message :: channel, _ =>
      { viewer with received := viewer.received ++ message, channel }
    | [], some found => { viewer with closing := none, finished := some found }
    | [], none => viewer
  | .disconnect => { viewer with phase := .closed, channel := [], closing := none }

def Viewer.start : Viewer α := ⟨[], none, [], .closed, [], none, none⟩

def Viewer.run (events : List (Event α)) : Viewer α := events.foldl step start

/-- The client has, or will get, the entries up to the position of the handler. -/
structure Viewer.Sound (viewer : Viewer α) (last : ℕ) : Prop where
  bound : last ≤ viewer.stream.length
  flow : viewer.received ++ viewer.channel.flatten = viewer.stream.take last
  count : ∀ length, viewer.terminal = some length → length ≤ viewer.stream.length
  phase : match viewer.phase with
    | .closed => True
    | .opening => viewer.channel = []
    | .reading position => position = last
    | .checking position before seen => position = last ∧ last = min seen (before + 100)
  closing : ∀ before seen, viewer.closing = some (before, seen) → viewer.phase = .closed ∧
    viewer.finished = none ∧ viewer.terminal.isSome = true ∧ last = min seen (before + 100)
  finished : ∀ before seen, viewer.finished = some (before, seen) → viewer.phase = .closed ∧
    viewer.channel = [] ∧ viewer.closing = none ∧ viewer.terminal.isSome = true ∧
      viewer.received.length = min seen (before + 100)

section

variable {viewer : Viewer α} {last : ℕ}

section

variable (sound : viewer.Sound last)

include sound

theorem Viewer.Sound.received_prefix : viewer.received <+: viewer.stream :=
  (List.prefix_append _ _).trans (sound.flow ▸ List.take_prefix last viewer.stream)

theorem Viewer.Sound.unended (running : viewer.phase ≠ .closed) :
    viewer.closing = none ∧ viewer.finished = none := by
  constructor
  · refine Option.eq_none_iff_forall_ne_some.mpr fun found closes => running ?_
    exact (sound.closing found.1 found.2 closes).1
  · refine Option.eq_none_iff_forall_ne_some.mpr fun found done => running ?_
    exact (sound.finished found.1 found.2 done).1

theorem Viewer.Sound.history : ∃ last, (viewer.step .history).Sound last := by
  rw [step]
  split
  · rename_i opening
    obtain ⟨quiet, unfinished⟩ := sound.unended (by simp [opening])
    have empty : viewer.channel = [] := by simpa [opening] using sound.phase
    split_ifs with fresh
    · exact ⟨viewer.stream.length, le_rfl, by simp [fresh], sound.count, rfl, by simp [quiet],
        by simp [unfinished]⟩
    · refine ⟨viewer.received.length, sound.received_prefix.length_le, ?_, sound.count, rfl,
        by simp [quiet], by simp [unfinished]⟩
      simpa [empty] using List.prefix_iff_eq_take.mp sound.received_prefix
  · exact ⟨last, sound⟩

theorem Viewer.Sound.read : ∃ last, (viewer.step .read).Sound last := by
  obtain ⟨bound, flow, count, phase, closing, finished⟩ := sound
  rw [step]
  split
  · rename_i position reading
    simp only [reading] at phase closing finished
    subst phase
    have length : (readLogStream viewer.stream position).length =
        min 100 (viewer.stream.length - position) := by
      rw [readLogStream, List.length_take, List.length_drop]
    refine ⟨position + (readLogStream viewer.stream position).length, by dsimp only; omega, ?_,
      count, ⟨rfl, by omega⟩, fun before seen closes => by simpa using closing before seen closes,
      fun before seen done => by simpa using finished before seen done⟩
    have singles : ((readLogStream viewer.stream position).map ([·])).flatten =
        readLogStream viewer.stream position := by simp [← List.flatMap_def]
    dsimp only
    have front : readLogStream viewer.stream position <+: viewer.stream.drop position :=
      List.take_prefix _ _
    rw [List.flatten_append, singles, ← List.append_assoc, flow, List.take_add,
      ← List.prefix_iff_eq_take.mp front]
  · exact ⟨last, bound, flow, count, phase, closing, finished⟩

theorem Viewer.Sound.check : ∃ last, (viewer.step .check).Sound last := by
  rw [step]
  split
  · rename_i position before seen checking
    obtain ⟨quiet, unfinished⟩ := sound.unended (by simp [checking])
    have phase := sound.phase
    simp only [checking] at phase
    split_ifs with terminal
    · refine ⟨last, sound.bound, sound.flow, sound.count, trivial, ?_, by simp [unfinished]⟩
      rintro _ _ ⟨⟩
      exact ⟨rfl, unfinished, terminal, phase.2⟩
    · exact ⟨last, sound.bound, sound.flow, sound.count, phase.1, by simp [quiet],
        by simp [unfinished]⟩
  · exact ⟨last, sound⟩

theorem Viewer.Sound.receive : ∃ last, (viewer.step .receive).Sound last := by
  obtain ⟨bound, flow, count, phase, closing, finished⟩ := sound
  rw [step]
  split
  · rename_i message channel found
    refine ⟨last, bound, by simpa [found] using flow, count, ?_, closing,
      fun before seen done => ?_⟩
    · revert phase
      cases viewer.phase <;> simp [found]
    · simp [found] at finished
      exact absurd done (finished before seen)
  · rename_i found empty closes
    obtain ⟨closed, -, terminal, position⟩ := closing found.1 found.2 closes
    refine ⟨last, bound, flow, count, phase, by simp, ?_⟩
    rintro _ _ ⟨⟩
    refine ⟨closed, empty, rfl, terminal, ?_⟩
    have length := congrArg List.length flow
    rw [empty, List.flatten_nil, List.append_nil, List.length_take] at length
    dsimp only
    omega
  · exact ⟨last, bound, flow, count, phase, closing, finished⟩

theorem Viewer.Sound.step (event : Event α) : ∃ last, (viewer.step event).Sound last := by
  cases event with
  | history => exact sound.history
  | read => exact sound.read
  | check => exact sound.check
  | receive => exact sound.receive
  | append entry =>
    refine ⟨last, ?_, ?_, fun length found => ?_, sound.phase, sound.closing, sound.finished⟩
    · simp only [Viewer.step, List.length_append]
      have := sound.bound
      omega
    · rw [Viewer.step, List.take_append_of_le_length sound.bound]
      exact sound.flow
    · rw [Viewer.step, List.length_append]
      exact le_add_right (sound.count length found)
  | terminate =>
    obtain ⟨bound, flow, count, phase, closing, finished⟩ := sound
    refine ⟨last, bound, flow, fun length found => ?_, phase, fun before seen closes => ?_,
      fun before seen done => ?_⟩
    · cases known : viewer.terminal with
      | none =>
        simp only [Viewer.step, known, Option.none_or, Option.some.injEq] at found
        exact found.ge
      | some old =>
        simp only [Viewer.step, known, Option.some_or, Option.some.injEq] at found
        exact found ▸ count old known
    · obtain ⟨closed, fresh, -, position⟩ := closing before seen closes
      exact ⟨closed, fresh, by simp [Viewer.step], position⟩
    · obtain ⟨closed, empty, quiet, -, length⟩ := finished before seen done
      exact ⟨closed, empty, quiet, by simp [Viewer.step], length⟩
  | connect =>
    rw [Viewer.step]
    split
    · rename_i _ empty quiet
      exact ⟨last, sound.bound, sound.flow, sound.count, empty, by simp [quiet], by simp⟩
    · exact ⟨last, sound⟩
  | disconnect =>
    refine ⟨viewer.received.length, sound.received_prefix.length_le, ?_, sound.count, trivial,
      by simp [Viewer.step], fun before seen done => ?_⟩
    · simpa [Viewer.step] using List.prefix_iff_eq_take.mp sound.received_prefix
    · obtain ⟨-, -, -, terminal, length⟩ := sound.finished before seen done
      exact ⟨rfl, rfl, rfl, terminal, length⟩

end

end

theorem Viewer.sound_run (events : List (Event α)) : ∃ last, (run events).Sound last := by
  induction events using List.reverseRecOn with
  | nil => exact ⟨0, by simp [run, start], by simp [run, start], by simp [run, start], trivial,
      by simp [run, start], by simp [run, start]⟩
  | append_singleton events event induction =>
    obtain ⟨last, sound⟩ := induction
    rw [run, List.foldl_append]
    exact sound.step event

/-- A log viewer receives the entries of the stream in order, none of them twice.  When it receives
`done` it has every entry from before the job became terminal iff the last read found all of them in
the stream and at most 100 of them were left. -/
theorem log_viewer_complete_iff (events : List (Event α)) :
    (run events).received <+: (run events).stream ∧
    ∀ before seen, (run events).finished = some (before, seen) →
      ∃ length, (run events).terminal = some length ∧
        ((run events).stream.take length <+: (run events).received ↔
          length ≤ seen ∧ length ≤ before + 100) := by
  obtain ⟨last, sound⟩ := sound_run events
  refine ⟨sound.received_prefix, fun before seen done => ?_⟩
  obtain ⟨-, -, -, terminal, received⟩ := sound.finished before seen done
  obtain ⟨length, known⟩ := Option.isSome_iff_exists.mp terminal
  refine ⟨length, known, ?_⟩
  have count := sound.count length known
  have whole : (run events).stream.take length <+: (run events).received ↔
      length ≤ (run events).received.length := by
    constructor
    · intro front
      simpa [count] using front.length_le
    · intro enough
      exact List.prefix_of_prefix_length_le (List.take_prefix _ _) sound.received_prefix
        (by simpa [count] using enough)
  rw [whole, received, le_min_iff]

/-- Two lines and the end of the job in front of the last read: both are delivered. -/
theorem settled_job_complete :
    let last : Viewer ℕ := run [.connect, .history, .append 7, .append 8, .terminate, .read, .check,
      .receive, .receive, .receive, .receive]
    last.finished = some (0, 2) ∧ last.stream.take 2 <+: last.received := by
  intro last
  have done : last.finished = some (0, 2) := rfl
  obtain ⟨length, ended, complete⟩ := (log_viewer_complete_iff _).2 0 2 done
  cases ended
  exact ⟨done, complete.mpr ⟨by decide, by decide⟩⟩

/-- A line that is appended between the last read and the end of the job is never delivered. -/
theorem late_line_lost :
    (run [.connect, .history, .read, .append 7, .terminate, .check, .receive, .receive] :
      Viewer ℕ) = ⟨[7], some 1, [], .closed, [], none, some (0, 0)⟩ := by
  rfl

end TrainingScheduler.LogStream
