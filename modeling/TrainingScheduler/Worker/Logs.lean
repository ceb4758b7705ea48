import Mathlib
import TrainingScheduler.Programs

/-!
# Live log lines

`BatchAPI.send_logs` cuts the lines of a flush into requests, and `_flush_log_push` keeps the lines
of a failed flush for the next one.  Lines are lists of code points.
-/

namespace TrainingScheduler.Logs

abbrev Text := List ℕ

/-- The ASCII text of a literal. -/
def ascii (literal : String) : Text := literal.toList.map Char.toNat

def hexDigit (value : ℕ) : ℕ := if value < 10 then 48 + value else 87 + value

/-- The escape of a code unit. -/
def escapeUnit (unit : ℕ) : Text :=
  [92, 117, hexDigit (unit / 4096 % 16), hexDigit (unit / 256 % 16), hexDigit (unit / 16 % 16),
    hexDigit (unit % 16)]

/-- A character as `json.dumps` writes it in ASCII: two code units beyond the basic plane. -/
def dumpsChar (char : ℕ) : Text :=
  if char = 34 ∨ char = 92 then [92, char]
  else if char = 10 then [92, 110]
  else if char = 13 then [92, 114]
  else if char = 9 then [92, 116]
  else if char = 12 then [92, 102]
  else if char = 8 then [92, 98]
  else if 32 ≤ char ∧ char ≤ 126 then [char]
  else if char < 65536 then escapeUnit char
  else
    escapeUnit (55296 + (char - 65536) / 1024 % 1024) ++ escapeUnit (56320 + (char - 65536) % 1024)

/-- `json.dumps` of a string. -/
def dumps (line : Text) : Text := 34 :: line.flatMap dumpsChar ++ [34]

theorem length_dumps_le (line : Text) : (dumps line).length ≤ 12 * line.length + 2 := by
  have each (char : ℕ) : (dumpsChar char).length ≤ 12 := by
    unfold dumpsChar escapeUnit
    split_ifs <;> simp
  have chars : (line.flatMap dumpsChar).length ≤ 12 * line.length := by
    induction line with
    | nil => simp
    | cons char line induction =>
      have first := each char
      rw [List.flatMap_cons, List.length_append, List.length_cons]
      omega
  simp only [dumps, List.length_append, List.length_cons, List.length_nil]
  omega

/-- `Fence.body`, with the generation as it is written. -/
structure Fence where
  instanceId : Text
  assignmentId : Text
  attemptToken : Text
  generation : Text

/-- The JSON array of the lines. -/
def dumpsLines : List Text → Text
  | [] => []
  | [line] => dumps line
  | line :: lines => dumps line ++ ascii ", " ++ dumpsLines lines

/-- The body of a request, as `requests` encodes it. -/
def body (fence : Fence) (lines : List Text) : Text :=
  ascii "\x7b\"instance_id\": " ++ dumps fence.instanceId ++
    ascii ", \"assignment_id\": " ++ dumps fence.assignmentId ++
    ascii ", \"attempt_token\": " ++ dumps fence.attemptToken ++
    ascii ", \"generation\": " ++ fence.generation ++
    ascii ", \"lines\": [" ++ dumpsLines lines ++ ascii "]\x7d"

structure Fence.UuidSized (fence : Fence) : Prop where
  instanceId : fence.instanceId.length ≤ 36
  assignmentId : fence.assignmentId.length ≤ 36
  attemptToken : fence.attemptToken.length ≤ 36
  generation : fence.generation.length ≤ 36

def encodedSize (line : Text) : ℕ := (dumps line).length + 2

structure Sender where
  requests : List (List Text)
  batch : List Text
  size : ℕ

/-- A request with the batch; the `n`th one succeeds if `answers n`. -/
def Sender.call (answers : ℕ → Bool) (sender : Sender) : Except Sender Sender :=
  let sent := { sender with requests := sender.requests ++ [sender.batch] }
  if answers sender.requests.length then .ok { sent with batch := [], size := 0 } else .error sent

/-- The body of the loop of `send_logs`. -/
def sendLine (answers : ℕ → Bool) (sender : Sender) (line : Text) : Except Sender Sender := do
  let line := line.take 4096
  let sender ←
    if sender.batch ≠ [] ∧
        (100 ≤ sender.batch.length ∨ 60000 < sender.size + encodedSize line) then
      sender.call answers
    else .ok sender
  .ok { sender with batch := sender.batch ++ [line], size := sender.size + encodedSize line }

/-- The loop and the request with the last batch. -/
def sendBatches (answers : ℕ → Bool) (lines : List Text) : Except Sender Sender := do
  let sender ← lines.foldlM (sendLine answers) ⟨[], [], 0⟩
  if sender.batch = [] then .ok sender else sender.call answers

/-- `send_logs`: the requests that it makes and what it returns.  `known` is whether the fence of
the attempt is found. -/
def sendLogs (known : Bool) (answers : ℕ → Bool) (lines : List Text) : List (List Text) × Bool :=
  if lines = [] then ([], true)
  else if !known then ([], false)
  else
    match sendBatches answers lines with
    | .ok sender => (sender.requests, true)
    | .error sender => (sender.requests, false)

/-- What a request may carry. -/
structure Fits (request : List Text) : Prop where
  some_ : 1 ≤ request.length
  few : request.length ≤ 100
  short : ∀ line ∈ request, line.length ≤ 4096
  small : (request.map encodedSize).sum ≤ 60000

/-- A sender after the lines that it has taken. -/
structure Sender.Sound (answers : ℕ → Bool) (taken : List Text) (sender : Sender) : Prop where
  fit : ∀ request ∈ sender.requests, Fits request
  answered : ∀ n < sender.requests.length, answers n = true
  batch : sender.batch = [] ∨ Fits sender.batch
  size : sender.size = (sender.batch.map encodedSize).sum
  all : sender.requests.flatten ++ sender.batch = taken.map (·.take 4096)

/-- How a part of `send_logs` ends: past the lines it has taken, or at a request that fails. -/
def Outcome (answers : ℕ → Bool) (taken : List Text) : Except Sender Sender → Prop
  | .ok sender => sender.Sound answers taken
  | .error sender => (∀ request ∈ sender.requests, Fits request) ∧ ∃ n, answers n = false

private theorem encodedSize_take_le (line : Text) : encodedSize (line.take 4096) ≤ 60000 := by
  have bound := length_dumps_le (line.take 4096)
  have length := List.length_take_le 4096 line
  unfold encodedSize
  omega

section

variable {answers : ℕ → Bool} {sender : Sender} {taken : List Text}

/-- A part that ends at a failed request takes what comes after it with it. -/
theorem Outcome.bind {first : Except Sender Sender} {next : Sender → Except Sender Sender}
    {later : List Text} (outcome : Outcome answers taken first)
    (goes : ∀ after, first = .ok after → after.Sound answers taken →
      Outcome answers later (next after)) : Outcome answers later (first >>= next) := by
  cases first with
  | error after => exact outcome
  | ok after => exact goes after rfl outcome

theorem Sender.Sound.call (sound : sender.Sound answers taken) (pending : sender.batch ≠ []) :
    Outcome answers taken (sender.call answers) := by
  have fit : ∀ request ∈ sender.requests ++ [sender.batch], Fits request :=
    List.forall_mem_append.mpr ⟨sound.fit, by simpa using sound.batch.resolve_left pending⟩
  unfold Sender.call
  cases answer : answers sender.requests.length with
  | false => exact ⟨fit, _, answer⟩
  | true =>
    refine ⟨fit, fun n less => ?_, .inl rfl, rfl, by simpa using sound.all⟩
    rw [List.length_append, List.length_singleton, Nat.lt_succ_iff_lt_or_eq] at less
    rcases less with less | rfl
    · exact sound.answered n less
    · exact answer

theorem Sender.batch_of_call {after : Sender} (called : sender.call answers = .ok after) :
    after.batch = [] := by
  unfold Sender.call at called
  cases answer : answers sender.requests.length <;> simp only [answer] at called <;> cases called
  rfl

theorem Sender.Sound.append (sound : sender.Sound answers taken) (line : Text)
    (room : sender.batch = [] ∨
      sender.batch.length < 100 ∧ sender.size + encodedSize (line.take 4096) ≤ 60000) :
    Sender.Sound answers (taken ++ [line]) { sender with
      batch := sender.batch ++ [line.take 4096]
      size := sender.size + encodedSize (line.take 4096) } := by
  have _ : (line.take 4096).length ≤ 4096 := List.length_take_le _ _
  refine ⟨sound.fit, sound.answered, .inr ?_, by simp [sound.size], by simp [← sound.all]⟩
  rcases sound.batch with empty | fits
  · rw [empty]
    exact ⟨by simp, by simp, by simp, by simpa using encodedSize_take_le line⟩
  · obtain ⟨few, small⟩ := room.resolve_left fun empty => by simpa [empty] using fits.some_
    refine ⟨by simp, by simp; omega, ?_, by simpa [← sound.size] using small⟩
    exact List.forall_mem_append.mpr ⟨fits.short, by simp⟩

/-- One line: the batch is sent first if it has no room for it. -/
theorem Sender.Sound.sendLine (sound : sender.Sound answers taken) (line : Text) :
    Outcome answers (taken ++ [line]) (sendLine answers sender line) := by
  unfold Logs.sendLine
  by_cases full : sender.batch ≠ [] ∧
      (100 ≤ sender.batch.length ∨ 60000 < sender.size + encodedSize (line.take 4096))
  · rw [if_pos full]
    exact (sound.call full.1).bind fun after called sound =>
      sound.append line (.inl (batch_of_call called))
  · rw [if_neg full]
    refine sound.append line ?_
    by_cases empty : sender.batch = []
    · exact .inl empty
    · simp only [empty, ne_eq, not_false_iff, true_and, not_or] at full
      exact .inr ⟨by omega, by omega⟩

theorem Sender.Sound.foldlM (sound : sender.Sound answers taken) (lines : List Text) :
    Outcome answers (taken ++ lines) (lines.foldlM (Logs.sendLine answers) sender) := by
  induction lines generalizing sender taken with
  | nil =>
    rw [List.append_nil]
    exact sound
  | cons line lines induction =>
    rw [List.foldlM_cons, ← List.singleton_append, ← List.append_assoc]
    exact (sound.sendLine line).bind fun after _ first => induction first

private theorem sendBatches_outcome (answers : ℕ → Bool) (lines : List Text) :
    Outcome answers lines (sendBatches answers lines) := by
  have start : Sender.Sound answers [] ⟨[], [], 0⟩ := ⟨by simp, by simp, .inl rfl, rfl, rfl⟩
  refine (start.foldlM lines).bind fun after _ sound => ?_
  by_cases empty : after.batch = []
  · rw [if_pos empty]
    exact sound
  · rw [if_neg empty]
    exact sound.call empty

theorem batch_of_sendBatches {lines : List Text} (done : sendBatches answers lines = .ok sender) :
    sender.batch = [] := by
  unfold sendBatches at done
  obtain ⟨after, -, done⟩ := bind_eq_ok done
  split_ifs at done with empty
  · cases done
    exact empty
  · exact Sender.batch_of_call done

/-- The requests of `send_logs` fit; it returns `True` past all of them, with every line sent. -/
theorem sendLogs_outcome (known : Bool) (answers : ℕ → Bool) (lines : List Text) :
    (∀ request ∈ (sendLogs known answers lines).1, Fits request) ∧
    ((sendLogs known answers lines).2 = true →
      (sendLogs known answers lines).1.flatten = lines.map (·.take 4096) ∧
        ∀ n < (sendLogs known answers lines).1.length, answers n = true) ∧
    (known = true → (∀ n, answers n = true) → (sendLogs known answers lines).2 = true) := by
  have outcome := sendBatches_outcome answers lines
  unfold sendLogs
  split_ifs with none unknown
  · simp [none]
  · simp_all
  · cases result : sendBatches answers lines with
    | ok sender =>
      rw [result] at outcome
      have all := Sender.Sound.all outcome
      rw [batch_of_sendBatches result, List.append_nil] at all
      exact ⟨outcome.fit, fun _ => ⟨all, outcome.answered⟩, fun _ _ => rfl⟩
    | error sender =>
      rw [result] at outcome
      obtain ⟨fit, n, failed⟩ := outcome
      refine ⟨fit, fun wrong => (by cases wrong), fun _ all => ?_⟩
      rw [all n] at failed
      cases failed

end

private theorem length_dumpsLines_le (lines : List Text) :
    (dumpsLines lines).length ≤ (lines.map encodedSize).sum := by
  have comma : (ascii ", ").length = 2 := rfl
  induction lines with
  | nil => rfl
  | cons line lines induction =>
    rw [List.map_cons, List.sum_cons, encodedSize]
    cases lines with
    | nil => simp [dumpsLines]
    | cons next lines =>
      rw [dumpsLines, List.length_append, List.length_append]
      · omega
      · simp

theorem Fits.length_body_le {request : List Text} (fits : Fits request) {fence : Fence}
    (sized : fence.UuidSized) : (body fence request).length ≤ 65536 := by
  have keys : (ascii "\x7b\"instance_id\": ").length + (ascii ", \"assignment_id\": ").length +
      (ascii ", \"attempt_token\": ").length + (ascii ", \"generation\": ").length +
      (ascii ", \"lines\": [").length + (ascii "]\x7d").length ≤ 100 := by decide
  have first := length_dumps_le fence.instanceId
  have second := length_dumps_le fence.assignmentId
  have third := length_dumps_le fence.attemptToken
  have lines := length_dumpsLines_le request
  have small := fits.small
  obtain ⟨instanceId, assignmentId, attemptToken, generation⟩ := sized
  simp only [body, List.length_append]
  omega

/-- Log batches always fit: every request of `send_logs` carries 1 to 100 lines of at most 4096
characters in a body of at most 65536 bytes, and when it returns `True` the batches together are the
lines, each cut to 4096 characters. -/
theorem log_batches_fit (known : Bool) (answers : ℕ → Bool) (lines : List Text) :
    (∀ request ∈ (sendLogs known answers lines).1,
      1 ≤ request.length ∧ request.length ≤ 100 ∧ (∀ line ∈ request, line.length ≤ 4096) ∧
        ∀ fence : Fence, fence.UuidSized → (body fence request).length ≤ 65536) ∧
    ((sendLogs known answers lines).2 = true →
      (sendLogs known answers lines).1.flatten = lines.map (·.take 4096)) ∧
    (known = true → (∀ n, answers n = true) → (sendLogs known answers lines).2 = true) := by
  obtain ⟨fit, sent, fine⟩ := sendLogs_outcome known answers lines
  refine ⟨fun request member => ?_, fun done => (sent done).1, fine⟩
  have fits := fit request member
  exact ⟨fits.some_, fits.few, fits.short, fun fence sized => fits.length_body_le sized⟩

/-- The lines that the requests of a flush append to the stream; one that fails has no effect. -/
def accepted (answers : ℕ → Bool) (requests : List (List Text)) : List Text :=
  (requests.zipIdx.filter fun request => answers request.2).flatMap (·.1)

/-- The log state of a job, with the lines that it has produced, the lines of its stream, and
whether a flush has failed behind a request that succeeded. -/
structure Pusher where
  buffer : List Text
  lastPush : Option ℚ
  produced : List Text
  appended : List Text
  torn : Bool

open Pusher

inductive Event where
  | line (text : Text)
  | flush (force : Bool) (now interval : ℚ) (known : Bool) (answers : ℕ → Bool)

/-- `_throttled`. -/
def throttled (last : Option ℚ) (now interval : ℚ) (force : Bool) : Bool :=
  !force && last.any fun before => now - before < interval

/-- A line of output, or `_flush_log_push`. -/
def Pusher.step (pusher : Pusher) : Event → Pusher
  | .line text =>
    { pusher with buffer := pusher.buffer ++ [text], produced := pusher.produced ++ [text] }
  | .flush force now interval known answers =>
    if pusher.buffer = [] ∨ throttled pusher.lastPush now interval force then pusher
    else
      let sent := sendLogs known answers pusher.buffer
      let pushed := { pusher with
        lastPush := some now
        appended := pusher.appended ++ accepted answers sent.1 }
      if sent.2 then { pushed with buffer := [] }
      else { pushed with torn := pusher.torn || !(accepted answers sent.1).isEmpty }

def Pusher.start : Pusher := ⟨[], none, [], [], false⟩

def Pusher.run (events : List Event) : Pusher := events.foldl step start

/-- The stream and the buffer hold every line once, unless a flush was torn: then they hold more. -/
structure Pusher.Counted (pusher : Pusher) : Prop where
  whole : pusher.torn = false →
    pusher.appended ++ pusher.buffer.map (·.take 4096) = pusher.produced.map (·.take 4096)
  more : pusher.produced.length + pusher.torn.toNat ≤ pusher.appended.length + pusher.buffer.length

private theorem accepted_of_sendLogs {known : Bool} {answers : ℕ → Bool} {lines : List Text}
    (fine : (sendLogs known answers lines).2 = true) :
    accepted answers (sendLogs known answers lines).1 = lines.map (·.take 4096) := by
  obtain ⟨flat, answered⟩ := (sendLogs_outcome known answers lines).2.1 fine
  rw [← flat, accepted, List.filter_eq_self.mpr]
  · rw [List.flatMap_def, List.zipIdx_map_fst]
  · intro request member
    exact answered _ (List.snd_lt_of_mem_zipIdx member)

theorem Pusher.Counted.step {pusher : Pusher} (counted : pusher.Counted) (event : Event) :
    (pusher.step event).Counted := by
  obtain ⟨whole, more⟩ := counted
  cases event with
  | line text =>
    refine ⟨fun clean => ?_, by simp [Pusher.step]; omega⟩
    simp only [Pusher.step, List.map_append, ← whole clean, List.append_assoc]
  | flush force now interval known answers =>
    rw [Pusher.step]
    dsimp only
    split_ifs with idle fine
    · exact ⟨whole, more⟩
    · have sent := accepted_of_sendLogs fine
      refine ⟨fun clean => ?_, ?_⟩
      · simp [sent, whole clean]
      · simp [sent]
        omega
    · refine ⟨fun clean => ?_, ?_⟩
      · simp only [Bool.or_eq_false_iff, Bool.not_eq_false', List.isEmpty_iff] at clean
        simp [clean.2, whole clean.1]
      · cases pushed : accepted answers (sendLogs known answers pusher.buffer).1 with
        | nil => simpa [pushed] using more
        | cons line lines =>
          have bit : pusher.torn.toNat ≤ 1 := Bool.toNat_le pusher.torn
          simp
          omega

theorem Pusher.counted_run (events : List Event) : (run events).Counted := by
  induction events using List.reverseRecOn with
  | nil => exact ⟨fun _ => rfl, le_rfl⟩
  | append_singleton events event induction =>
    rw [run, List.foldl_append]
    exact induction.step event

/-- Live log lines reach the stream exactly once and in order, once the last flush has emptied the
buffer, if and only if no flush has failed behind one of its requests. -/
theorem live_lines_once_iff (events : List Event) (flushed : (run events).buffer = []) :
    (run events).appended = (run events).produced.map (·.take 4096) ↔
      (run events).torn = false := by
  obtain ⟨whole, more⟩ := counted_run events
  rw [flushed] at whole more
  refine ⟨fun same => ?_, fun clean => by simpa using whole clean⟩
  rw [same] at more
  cases torn : (run events).torn with
  | false => rfl
  | true => simp [torn] at more

/-- A flush whose first request fails is repeated as a whole. -/
theorem failed_flush_repeated :
    (run [.line [97], .line [98], .flush true 0 1 true fun _ => false,
      .flush true 5 1 true fun _ => true]).appended = [[97], [98]] :=
  (live_lines_once_iff [.line [97], .line [98], .flush true 0 1 true fun _ => false,
    .flush true 5 1 true fun _ => true] (by decide +kernel)).mpr (by decide +kernel)

/-- 101 lines in a flush of two requests whose second one fails, and a flush that succeeds. -/
def tornEvents : List Event :=
  List.replicate 101 (.line [97]) ++
    [.flush true 0 1 true fun n => n == 0, .flush true 5 1 true fun _ => true]

/-- The second flush appends the lines of the first request again. -/
theorem torn_flush_repeats :
    (run tornEvents).buffer = [] ∧
      (run tornEvents).produced = List.replicate 101 [97] ∧
      (run tornEvents).appended = List.replicate 201 [97] := by
  decide +kernel

end TrainingScheduler.Logs
