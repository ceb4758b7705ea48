import TrainingScheduler.Access.Protocol

/-!
# The proxy of the SSH client

`proxy_stream` of dml-ssh, from its `SSH_OPEN` on: it takes one WebSocket message for the answer and
copies the messages after it to its standard output, while a second thread sends what it reads from
the standard input.
-/

namespace TrainingScheduler.Proxy

open Wire

/-- What `ws.recv` returns. -/
inductive Message where
  | text (content : String)
  | binary (content : List Byte)
  deriving DecidableEq, Repr

/-- What the client ends with. -/
inductive Refusal where
  | closed
  | rejected
  deriving DecidableEq, Repr

/-- The check of the answer to `SSH_OPEN`. -/
def acceptsReady (raw : List Byte) : Bool :=
  match unpack (raw.take 6) with
  | none => false
  | some (version, kind, length) =>
    decide (version = 1 ∧ kind = Kind.sshReady.code ∧ raw.length = 6 + length)

/-- One turn of `pump_in`. -/
structure Pumped where
  /-- What is read from the standard input, nothing at its end. -/
  chunk : List Byte
  /-- Whether `send_binary` returns. -/
  sent : Bool

/-- One turn of the loop that copies to the standard output. -/
structure Turn where
  /-- What `pump_in` has done since the test of `stop` in the turn before. -/
  pumped : List Pumped
  /-- What `ws.recv` returns; `none` is its exception after 60 seconds or on a closed connection. -/
  received : Option Message

/-- `stop.is_set()`: the standard input has ended, or a send has failed. -/
def Turn.stopped (turn : Turn) : Bool :=
  turn.pumped.any fun pumped => pumped.chunk.isEmpty || !pumped.sent

/-- The loop that writes to the standard output. -/
def copy : List Turn → List Byte
  | [] => []
  | turn :: rest =>
    if turn.stopped then []
    else
      match turn.received with
      | none => []
      | some (.text _) => copy rest
      | some (.binary data) => if data.isEmpty then [] else data ++ copy rest

/-- `proxy_stream` after its `SSH_OPEN`: a refusal, or what it writes.  No answer is an exception
after ten seconds or on a closed connection. -/
def proxyStream (answer : Option Message) (turns : List Turn) : Except Refusal (List Byte) :=
  match answer with
  | none => .error .closed
  | some (.text _) => .error .rejected
  | some (.binary raw) => if acceptsReady raw then .ok (copy turns) else .error .rejected

/-- The messages that the loop receives until it is stopped or `ws.recv` raises. -/
def arrived (turns : List Turn) : List Message :=
  (turns.takeWhile fun turn => !turn.stopped && turn.received.isSome).filterMap Turn.received

/-- The messages that `proxy_stream` receives. -/
def delivered (answer : Option Message) (turns : List Turn) : List Message :=
  match answer with
  | none => []
  | some message => message :: arrived turns

private theorem copy_of_arrived {turns : List Turn} {frames : List (List Byte)}
    (nonempty : ∀ frame ∈ frames, frame ≠ []) (came : arrived turns = frames.map .binary) :
    copy turns = frames.flatten := by
  induction turns generalizing frames with
  | nil => simp_all [arrived, copy]
  | cons turn rest ih =>
    cases stopped : turn.stopped with
    | true => simp_all [arrived, copy]
    | false =>
      cases received : turn.received with
      | none => simp_all [arrived, copy]
      | some message =>
        have next : frames.map .binary = message :: arrived rest := by
          simpa [arrived, stopped, received] using came.symm
        obtain ⟨frame, later, rfl, rfl, following⟩ := List.map_eq_cons_iff.mp next
        obtain ⟨some_bytes, others⟩ := List.forall_mem_cons.mp nonempty
        simp [copy, stopped, received, some_bytes, ih others following.symm]

/-- Among the beginnings of a stream that starts with the record, only the record itself is
taken. -/
theorem acceptsReady_iff {payload frame : List Byte} (fits : payload.length ≤ maxPayload)
    {bytes rest : List Byte} (stream : frame ++ rest = record .sshReady payload ++ bytes) :
    acceptsReady frame = true ↔ frame = record .sshReady payload := by
  have small : payload.length < 2 ^ 32 := lt_of_le_of_lt fits (by decide)
  have header : ∀ taken : List Byte, 6 ≤ taken.length →
      taken <+: record .sshReady payload ++ bytes →
      taken.take 6 = pack 1 Kind.sshReady.code payload.length := by
    rintro taken long ⟨after, same⟩
    have first := congrArg (List.take 6) same
    rw [List.take_append_of_le_length long, record, List.append_assoc,
      List.take_left' (length_pack _ _ _)] at first
    exact first
  constructor
  · intro accepted
    rw [acceptsReady] at accepted
    split at accepted
    · cases accepted
    · rename_i version kind length unpacked
      have long : 6 ≤ frame.length := by
        by_contra short
        rw [List.take_of_length_le (by omega)] at unpacked
        unfold unpack at unpacked
        split at unpacked
        · simp at short
        · cases unpacked
      rw [header frame long ⟨rest, stream⟩, unpack_pack 1 Kind.sshReady.code small] at unpacked
      obtain ⟨_, _, rfl⟩ := Prod.mk.injEq .. ▸ Option.some.inj unpacked
      obtain ⟨_, _, whole⟩ := of_decide_eq_true accepted
      have size : frame.length = (record .sshReady payload).length := by
        rw [whole, record, List.length_append, length_pack]
      exact (List.append_inj stream size).1
  · rintro rfl
    rw [acceptsReady, record, List.take_left' (length_pack _ _ _), unpack_pack 1 _ small]
    simp

/-- The proxy takes a stream of one `SSH_READY` record and SSH bytes, and writes the bytes after the
record, exactly when the record comes alone in the first frame, and every frame is received before
the standard input ends, a send fails or a receive raises. -/
theorem proxy_transparent_iff (payload bytes : List Byte) (frames : List (List Byte))
    (fits : payload.length ≤ maxPayload) (nonempty : ∀ frame ∈ frames, frame ≠ [])
    (stream : frames.flatten = record .sshReady payload ++ bytes) (answer : Option Message)
    (turns : List Turn) (inOrder : delivered answer turns <+: frames.map .binary) :
    proxyStream answer turns = .ok bytes ↔
      frames.head? = some (record .sshReady payload) ∧
        delivered answer turns = frames.map .binary := by
  cases answer with
  | none =>
    refine iff_of_false (fun done => by cases done) fun ⟨first, received⟩ => ?_
    obtain rfl : frames = [] := by simpa [delivered, eq_comm] using received
    cases first
  | some message =>
    cases frames with
    | nil => cases List.prefix_nil.mp inOrder
    | cons frame rest =>
      obtain ⟨rfl, came⟩ := List.cons_prefix_cons.mp inOrder
      obtain ⟨-, later⟩ := List.forall_mem_cons.mp nonempty
      have accepts := acceptsReady_iff fits (show frame ++ rest.flatten = _ from stream)
      -- the loop writes the frames that it has received
      rw [List.prefix_iff_eq_take, ← List.map_take] at came
      generalize (arrived turns).length = count at came
      have copied := copy_of_arrived
        (fun frame member => later frame (List.mem_of_mem_take member)) came
      rw [proxyStream, copied, delivered, came, List.head?_cons, Option.some_inj, List.map_cons,
        List.cons_inj_right]
      constructor
      · intro done
        split at done
        · rename_i accepted
          obtain rfl := accepts.mp accepted
          refine ⟨rfl, congrArg _ ?_⟩
          have whole := (Except.ok.inj done).trans (List.append_cancel_left stream).symm
          rw [← List.take_append_drop count rest, List.flatten_append] at whole
          have nothing : (rest.drop count).flatten = [] := by simpa using whole
          have none_left : rest.drop count = [] := List.eq_nil_iff_forall_not_mem.mpr
            fun frame member => later frame (List.mem_of_mem_drop member)
              (List.flatten_eq_nil_iff.mp nothing frame member)
          exact List.take_of_length_le (List.drop_eq_nil_iff.mp none_left)
        · cases done
      · rintro ⟨rfl, all⟩
        rw [if_pos (accepts.mpr rfl)]
        have taken : rest.take count = rest :=
          List.map_injective_iff.mpr (fun _ _ same => Message.binary.inj same) all
        rw [taken]
        exact congrArg Except.ok (List.append_cancel_left stream)

/-- One frame for the record and two for the bytes, while a chunk of the standard input is sent. -/
theorem record_alone_accepted :
    proxyStream (some (.binary (record .sshReady [123, 125])))
        [⟨[⟨[83], true⟩], some (.binary [83, 83])⟩, ⟨[], some (.binary [72])⟩, ⟨[], none⟩] =
      .ok [83, 83, 72] :=
  (proxy_transparent_iff [123, 125] [83, 83, 72] [record .sshReady [123, 125], [83, 83], [72]]
    (by decide) (by decide) (by decide) _ _ (by decide +kernel)).mpr (by decide +kernel)

/-- At the end of the standard input nothing more is written. -/
example :
    proxyStream (some (.binary (record .sshReady [])))
        [⟨[], some (.binary [83])⟩, ⟨[⟨[], true⟩], some (.binary [72])⟩] = .ok [83] := by
  decide +kernel

/-- The record and the first SSH byte in one frame, and the record in two frames. -/
theorem coalesced_rejected :
    proxyStream (some (.binary (record .sshReady [123, 125] ++ [83])))
        [⟨[], some (.binary [83, 72])⟩] = .error .rejected ∧
      proxyStream (some (.binary ((record .sshReady [123, 125]).take 6)))
        [⟨[], some (.binary [123, 125])⟩, ⟨[], some (.binary [83, 83, 72])⟩] =
        .error .rejected := by
  decide +kernel

end TrainingScheduler.Proxy
