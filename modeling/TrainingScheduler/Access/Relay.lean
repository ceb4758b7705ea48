import Mathlib
import TrainingScheduler.Programs

/-!
# The SSH relay

Raw bytes between an SSH client and the sshd of a workload, through the relay of the Access
container (`run_ssh_session`) and that of the Worker's broker (`relay_ssh`).  Each of the two hops
runs one copy loop for each direction, awaits the first of them to finish and then cancels the
other.
-/

namespace TrainingScheduler.Relay

open Machine

variable {β : Type*}

/-- One direction of the connection, through two hops. -/
structure Direction (β : Type*) where
  /-- Everything the sender has written. -/
  sent : List β
  /-- The sender has closed its side. -/
  ended : Bool
  /-- What waits in front of the first hop. -/
  near : List β
  /-- The copy loop of the first hop has finished. -/
  firstDone : Bool
  /-- What waits between the hops. -/
  middle : List β
  /-- No more bytes come behind those of `middle`. -/
  middleEnded : Bool
  /-- The copy loop of the second hop has finished. -/
  secondDone : Bool
  /-- Everything that has come to the receiver. -/
  received : List β
  /-- The receiver has been told that the stream ends. -/
  receivedEnded : Bool

namespace Direction

def fresh : Direction β := ⟨[], false, [], false, [], false, false, [], false⟩

variable (direction : Direction β)

def send (chunk : List β) : Direction β :=
  if direction.ended then direction
  else { direction with sent := direction.sent ++ chunk, near := direction.near ++ chunk }

def finish : Direction β := { direction with ended := true }

/-- An iteration of the copy loop of the first hop, with a read of at most `size + 1` bytes.  At the
end of the stream the loop of the sending client shuts the next connection down for writing. -/
def copyFirst (shutdown : Bool) (size : ℕ) : Direction β :=
  if direction.firstDone then direction
  else if direction.near = [] then
    if direction.ended then
      { direction with firstDone := true, middleEnded := direction.middleEnded || shutdown }
    else direction
  else
    { direction with
      near := direction.near.drop (size + 1)
      middle := direction.middle ++ direction.near.take (size + 1) }

/-- An iteration of the copy loop of the second hop. -/
def copySecond (shutdown : Bool) (size : ℕ) : Direction β :=
  if direction.secondDone then direction
  else if direction.middle = [] then
    if direction.middleEnded then
      { direction with secondDone := true, receivedEnded := direction.receivedEnded || shutdown }
    else direction
  else
    { direction with
      middle := direction.middle.drop (size + 1)
      received := direction.received ++ direction.middle.take (size + 1) }

/-- The first hop closes its connection to the second. -/
def closeFirst : Direction β := { direction with middleEnded := true }

/-- The second hop closes its connection to the receiver. -/
def closeSecond : Direction β := { direction with receivedEnded := true }

/-- Iterations and closed hops that are still to come. -/
def work : ℕ :=
  2 * direction.near.length + direction.middle.length +
    (if direction.firstDone then 0 else 1) + if direction.secondDone then 0 else 1

end Direction

/-- The connection: `up` from the client to the workload, `down` back. -/
structure Connection (β : Type*) where
  up : Direction β
  down : Direction β
  /-- The relay of the Access container has closed both of its connections. -/
  accessClosed : Bool
  /-- So has the relay of the broker. -/
  brokerClosed : Bool

/-- What the two ends do, and the iterations and ends of the hops. -/
inductive Event (β : Type*) where
  | clientSends (chunk : List β)
  | clientCloses
  | workloadSends (chunk : List β)
  | workloadCloses
  | clientToBroker (size : ℕ)
  | brokerToClient (size : ℕ)
  | clientToNet (size : ℕ)
  | netToClient (size : ℕ)
  | accessCloses
  | brokerCloses

/-- One of the hops does it. -/
def Event.ofHop : Event β → Bool
  | .clientSends _ | .clientCloses | .workloadSends _ | .workloadCloses => false
  | .clientToBroker _ | .brokerToClient _ | .clientToNet _ | .netToClient _ => true
  | .accessCloses | .brokerCloses => true

/-- It is an iteration of a copy loop. -/
def Event.ofLoop : Event β → Bool
  | .accessCloses | .brokerCloses => false
  | event => event.ofHop

namespace Connection

def fresh : Connection β := ⟨.fresh, .fresh, false, false⟩

variable (connection : Connection β)

/-- A copy loop of the Access container has finished. -/
def accessReturns : Bool :=
  connection.up.firstDone || connection.down.secondDone

/-- A copy loop of the broker has finished. -/
def brokerReturns : Bool :=
  connection.up.secondDone || connection.down.firstDone

def step : Event β → Connection β
  | .clientSends chunk => { connection with up := connection.up.send chunk }
  | .clientCloses => { connection with up := connection.up.finish }
  | .workloadSends chunk => { connection with down := connection.down.send chunk }
  | .workloadCloses => { connection with down := connection.down.finish }
  | .clientToBroker size =>
    if connection.accessClosed then connection
    else { connection with up := connection.up.copyFirst true size }
  | .brokerToClient size =>
    if connection.accessClosed then connection
    else { connection with down := connection.down.copySecond false size }
  | .clientToNet size =>
    if connection.brokerClosed then connection
    else { connection with up := connection.up.copySecond true size }
  | .netToClient size =>
    if connection.brokerClosed then connection
    else { connection with down := connection.down.copyFirst false size }
  -- `asyncio.wait(tasks, return_when=FIRST_COMPLETED)`, the cancellation, and the closed writers
  | .accessCloses =>
    if connection.accessClosed || !connection.accessReturns then connection
    else
      { connection with
        up := connection.up.closeFirst
        down := connection.down.closeSecond
        accessClosed := true }
  | .brokerCloses =>
    if connection.brokerClosed || !connection.brokerReturns then connection
    else
      { connection with
        up := connection.up.closeSecond
        down := connection.down.closeFirst
        brokerClosed := true }

def run (events : List (Event β)) : Connection β :=
  events.foldl step connection

/-- No hop can do anything more. -/
def AtRest : Prop :=
  ∀ event : Event β, event.ofHop = true → connection.step event = connection

/-- No copy loop can do anything more. -/
def Idle : Prop :=
  ∀ event : Event β, event.ofLoop = true → connection.step event = connection

/-- Every byte sent has been received, in both directions. -/
def Delivered : Prop :=
  connection.up.received = connection.up.sent ∧ connection.down.received = connection.down.sent

def work (connection : Connection β) : ℕ :=
  connection.up.work + connection.down.work + (if connection.accessClosed then 0 else 1) +
    if connection.brokerClosed then 0 else 1

end Connection

/-- A hop closes only after both of its copy loops have finished. -/
def Patient (connection : Connection β) : Event β → Prop
  | .accessCloses => connection.up.firstDone = true ∧ connection.down.secondDone = true
  | .brokerCloses => connection.up.secondDone = true ∧ connection.down.firstDone = true
  | _ => True

namespace Direction

/-- What has been sent is received, or waits. -/
def Ordered (direction : Direction β) : Prop :=
  direction.sent = direction.received ++ direction.middle ++ direction.near

/-- A loop that has finished has relayed everything, and the next connection ends only then. -/
structure Honest (direction : Direction β) : Prop where
  ordered : direction.Ordered
  first : direction.firstDone = true → direction.near = [] ∧ direction.ended = true
  second : direction.secondDone = true → direction.middle = [] ∧ direction.middleEnded = true
  ending : direction.middleEnded = true → direction.firstDone = true

variable {direction : Direction β} {shutdown : Bool} {size : ℕ}

private theorem copyFirst_cases {motive : Direction β → Prop} (idle : motive direction)
    (ends : direction.firstDone ≠ true → direction.near = [] → direction.ended = true →
      motive { direction with
        firstDone := true, middleEnded := direction.middleEnded || shutdown })
    (copies : direction.firstDone ≠ true → direction.near ≠ [] → motive { direction with
      near := direction.near.drop (size + 1)
      middle := direction.middle ++ direction.near.take (size + 1) }) :
    motive (direction.copyFirst shutdown size) :=
  iteInduction (fun _ => idle) fun working =>
    iteInduction (fun drained => iteInduction (ends working drained) fun _ => idle) (copies working)

private theorem copySecond_cases {motive : Direction β → Prop} (idle : motive direction)
    (ends : direction.secondDone ≠ true → direction.middle = [] → direction.middleEnded = true →
      motive { direction with
        secondDone := true, receivedEnded := direction.receivedEnded || shutdown })
    (copies : direction.secondDone ≠ true → direction.middle ≠ [] → motive { direction with
      middle := direction.middle.drop (size + 1)
      received := direction.received ++ direction.middle.take (size + 1) }) :
    motive (direction.copySecond shutdown size) :=
  iteInduction (fun _ => idle) fun working =>
    iteInduction (fun drained => iteInduction (ends working drained) fun _ => idle) (copies working)

theorem honest_fresh : (fresh : Direction β).Honest where
  ordered := rfl
  first := fun done => by cases done
  second := fun done => by cases done
  ending := fun done => by cases done

namespace Honest

section

variable (honest : direction.Honest)

include honest

theorem send (chunk : List β) : (direction.send chunk).Honest := by
  rw [Direction.send]
  split
  · exact honest
  · rename_i unended
    refine ⟨?_, fun done => absurd (honest.first done).2 unended, honest.second, honest.ending⟩
    have ordered := honest.ordered
    unfold Ordered at ordered ⊢
    simp only [ordered, List.append_assoc]

theorem finish : direction.finish.Honest :=
  ⟨honest.ordered, fun done => ⟨(honest.first done).1, rfl⟩, honest.second, honest.ending⟩

theorem copyFirst : (direction.copyFirst shutdown size).Honest := by
  refine copyFirst_cases (motive := Honest) honest (fun _ drained ended => ?_) fun working _ => ?_
  · exact ⟨honest.ordered, fun _ => ⟨drained, ended⟩,
      fun done => ⟨(honest.second done).1, by simp [(honest.second done).2]⟩, fun _ => rfl⟩
  · exact ⟨by simpa [Ordered] using honest.ordered, fun done => absurd done working,
      fun done => absurd (honest.ending (honest.second done).2) working, honest.ending⟩

theorem copySecond : (direction.copySecond shutdown size).Honest := by
  refine copySecond_cases (motive := Honest) honest (fun _ drained ended => ?_) fun working _ => ?_
  · exact ⟨honest.ordered, honest.first, fun _ => ⟨drained, ended⟩, honest.ending⟩
  · refine ⟨?_, honest.first, fun done => absurd done working, honest.ending⟩
    have ordered := honest.ordered
    unfold Ordered at ordered ⊢
    simp only [List.append_assoc]
    rw [← List.append_assoc (direction.middle.take _), List.take_append_drop]
    simpa using ordered

theorem closeFirst (done : direction.firstDone = true) : direction.closeFirst.Honest :=
  ⟨honest.ordered, honest.first, fun second => ⟨(honest.second second).1, rfl⟩, fun _ => done⟩

theorem closeSecond : direction.closeSecond.Honest :=
  ⟨honest.ordered, honest.first, honest.second, honest.ending⟩

theorem near_eq_nil (rest : direction.copyFirst shutdown 0 = direction) : direction.near = [] := by
  by_contra waiting
  rw [Direction.copyFirst, if_neg fun done => waiting (honest.first done).1, if_neg waiting] at rest
  have shorter := congrArg (fun after => after.near.length) rest
  have some := List.length_pos_iff.mpr waiting
  simp only [List.length_drop] at shorter
  omega

theorem middle_eq_nil (rest : direction.copySecond shutdown 0 = direction) :
    direction.middle = [] := by
  by_contra waiting
  rw [Direction.copySecond, if_neg fun done => waiting (honest.second done).1,
    if_neg waiting] at rest
  have shorter := congrArg (fun after => after.middle.length) rest
  have some := List.length_pos_iff.mpr waiting
  simp only [List.length_drop] at shorter
  omega

theorem received (near : direction.near = []) (middle : direction.middle = []) :
    direction.received = direction.sent := by
  have ordered := honest.ordered
  rw [Ordered, near, middle] at ordered
  simpa using ordered.symm

end

end Honest

/-- A loop that has finished stays finished. -/
structure Keeps (before after : Direction β) : Prop where
  first : before.firstDone = true → after.firstDone = true
  second : before.secondDone = true → after.secondDone = true

private theorem keeps_send (chunk : List β) : direction.Keeps (direction.send chunk) :=
  iteInduction (fun _ => ⟨id, id⟩) fun _ => ⟨id, id⟩

private theorem keeps_copyFirst : direction.Keeps (direction.copyFirst shutdown size) := by
  refine copyFirst_cases (motive := direction.Keeps) ⟨id, id⟩ (fun _ _ _ => ?_) fun _ _ => ?_
  · exact ⟨fun _ => rfl, id⟩
  · exact ⟨id, id⟩

private theorem keeps_copySecond : direction.Keeps (direction.copySecond shutdown size) := by
  refine copySecond_cases (motive := direction.Keeps) ⟨id, id⟩ (fun _ _ _ => ?_) fun _ _ => ?_
  · exact ⟨id, fun _ => rfl⟩
  · exact ⟨id, id⟩

private theorem work_copyFirst : direction.copyFirst shutdown size = direction ∨
    (direction.copyFirst shutdown size).work < direction.work := by
  refine copyFirst_cases (motive := fun after => after = direction ∨ after.work < direction.work)
    (.inl rfl) (fun working _ _ => .inr (by simp [work, working])) fun _ waiting => .inr ?_
  have some := List.length_pos_iff.mpr waiting
  simp only [work, List.length_drop, List.length_append, List.length_take]
  omega

private theorem work_copySecond : direction.copySecond shutdown size = direction ∨
    (direction.copySecond shutdown size).work < direction.work := by
  refine copySecond_cases (motive := fun after => after = direction ∨ after.work < direction.work)
    (.inl rfl) (fun working _ _ => .inr (by simp [work, working])) fun _ waiting => .inr ?_
  have some := List.length_pos_iff.mpr waiting
  simp only [work, List.length_drop]
  omega

end Direction

open Direction

namespace Connection

private theorem work_step (connection : Connection β) {event : Event β} (hop : event.ofHop = true) :
    connection.step event = connection ∨ (connection.step event).work < connection.work := by
  let nearer (after : Connection β) : Prop := after = connection ∨ after.work < connection.work
  have idle : nearer connection := .inl rfl
  have up {next : Direction β} (progress : next = connection.up ∨ next.work < connection.up.work) :
      nearer { connection with up := next } := by
    rcases progress with rfl | less
    · exact idle
    · exact .inr (by simp only [work]; omega)
  have down {next : Direction β}
      (progress : next = connection.down ∨ next.work < connection.down.work) :
      nearer { connection with down := next } := by
    rcases progress with rfl | less
    · exact idle
    · exact .inr (by simp only [work]; omega)
  change nearer (connection.step event)
  cases event with
  | clientSends | clientCloses | workloadSends | workloadCloses => cases hop
  | clientToBroker => exact iteInduction (fun _ => idle) fun _ => up work_copyFirst
  | brokerToClient => exact iteInduction (fun _ => idle) fun _ => down work_copySecond
  | clientToNet => exact iteInduction (fun _ => idle) fun _ => up work_copySecond
  | netToClient => exact iteInduction (fun _ => idle) fun _ => down work_copyFirst
  | accessCloses | brokerCloses =>
    refine iteInduction (fun _ => idle) fun opened => .inr ?_
    simp only [Bool.or_eq_true, not_or] at opened
    simp [work, opened.1, work, closeFirst, closeSecond]
    exact le_rfl

/-- What holds along a run in which the hops are patient. -/
structure Sound (connection : Connection β) : Prop where
  up : connection.up.Honest
  down : connection.down.Honest
  access : connection.accessClosed = true →
    connection.up.firstDone = true ∧ connection.down.secondDone = true
  broker : connection.brokerClosed = true →
    connection.up.secondDone = true ∧ connection.down.firstDone = true

private theorem sound_fresh : (fresh : Connection β).Sound where
  up := honest_fresh
  down := honest_fresh
  access := fun closed => by cases closed
  broker := fun closed => by cases closed

section

variable {connection : Connection β} (sound : connection.Sound)

include sound

theorem Sound.step {event : Event β} (patient : Patient connection event) :
    (connection.step event).Sound := by
  have ⟨up, down, access, broker⟩ := sound
  cases event with
  | clientSends chunk =>
    have keeps := connection.up.keeps_send chunk
    exact ⟨up.send chunk, down, fun closed => ⟨keeps.first (access closed).1, (access closed).2⟩,
      fun closed => ⟨keeps.second (broker closed).1, (broker closed).2⟩⟩
  | clientCloses => exact ⟨up.finish, down, access, broker⟩
  | workloadSends chunk =>
    have keeps := connection.down.keeps_send chunk
    exact ⟨up, down.send chunk, fun closed => ⟨(access closed).1, keeps.second (access closed).2⟩,
      fun closed => ⟨(broker closed).1, keeps.first (broker closed).2⟩⟩
  | workloadCloses => exact ⟨up, down.finish, access, broker⟩
  | clientToBroker size =>
    exact iteInduction (fun _ => sound) fun opened =>
      ⟨up.copyFirst, down, fun closed => absurd closed opened,
        fun closed => ⟨keeps_copyFirst.second (broker closed).1, (broker closed).2⟩⟩
  | brokerToClient size =>
    exact iteInduction (fun _ => sound) fun opened =>
      ⟨up, down.copySecond, fun closed => absurd closed opened,
        fun closed => ⟨(broker closed).1, keeps_copySecond.first (broker closed).2⟩⟩
  | clientToNet size =>
    exact iteInduction (fun _ => sound) fun opened =>
      ⟨up.copySecond, down,
        fun closed => ⟨keeps_copySecond.first (access closed).1, (access closed).2⟩,
        fun closed => absurd closed opened⟩
  | netToClient size =>
    exact iteInduction (fun _ => sound) fun opened =>
      ⟨up, down.copyFirst,
        fun closed => ⟨(access closed).1, keeps_copyFirst.second (access closed).2⟩,
        fun closed => absurd closed opened⟩
  | accessCloses =>
    exact iteInduction (fun _ => sound) fun _ =>
      ⟨up.closeFirst patient.1, down.closeSecond, fun _ => patient, broker⟩
  | brokerCloses =>
    exact iteInduction (fun _ => sound) fun _ =>
      ⟨up.closeSecond, down.closeFirst patient.2, access, fun _ => patient⟩

theorem Sound.run {events : List (Event β)}
    (patient : Throughout Connection.step Patient connection events) :
    (connection.run events).Sound :=
  patient.invariant (fun _ _ sound closes => sound.step closes) sound

/-- Once the copy loops are idle, everything has been delivered. -/
theorem Sound.delivered (idle : connection.Idle) : connection.Delivered := by
  have upNear : connection.up.near = [] := by
    by_cases closed : connection.accessClosed = true
    · exact (sound.up.first (sound.access closed).1).1
    · have still := congrArg Connection.up (idle (.clientToBroker 0) rfl)
      rw [Connection.step, if_neg closed] at still
      exact sound.up.near_eq_nil still
  have upMiddle : connection.up.middle = [] := by
    by_cases closed : connection.brokerClosed = true
    · exact (sound.up.second (sound.broker closed).1).1
    · have still := congrArg Connection.up (idle (.clientToNet 0) rfl)
      rw [Connection.step, if_neg closed] at still
      exact sound.up.middle_eq_nil still
  have downNear : connection.down.near = [] := by
    by_cases closed : connection.brokerClosed = true
    · exact (sound.down.first (sound.broker closed).2).1
    · have still := congrArg Connection.down (idle (.netToClient 0) rfl)
      rw [Connection.step, if_neg closed] at still
      exact sound.down.near_eq_nil still
  have downMiddle : connection.down.middle = [] := by
    by_cases closed : connection.accessClosed = true
    · exact (sound.down.second (sound.access closed).2).1
    · have still := congrArg Connection.down (idle (.brokerToClient 0) rfl)
      rw [Connection.step, if_neg closed] at still
      exact sound.down.middle_eq_nil still
  exact ⟨sound.up.received upNear upMiddle, sound.down.received downNear downMiddle⟩

end

end Connection

open Connection

/-- Half-closing loses nothing where the hops are patient: bytes arrive in order, the hops come to
rest, and whenever their copy loops are idle, every byte that was sent has arrived, whichever side
has closed. -/
theorem half_close_delivers (events : List (Event β))
    (patient : Throughout step Patient fresh events) :
    let connection := (fresh : Connection β).run events
    connection.up.received <+: connection.up.sent ∧
      connection.down.received <+: connection.down.sent ∧
      (∀ event, event.ofHop = true → connection.step event = connection ∨
        (connection.step event).work < connection.work) ∧
      (connection.Idle → connection.Delivered) := by
  have sound := sound_fresh.run patient
  refine ⟨?_, ?_, fun event hop => work_step _ hop, sound.delivered⟩
  · exact ⟨_, (sound.up.ordered.trans (List.append_assoc _ _ _)).symm⟩
  · exact ⟨_, (sound.down.ordered.trans (List.append_assoc _ _ _)).symm⟩

/-- The client has closed its side, and the workload has not. -/
def openSession : List (Event ℕ) :=
  [.clientSends [1, 2], .clientToBroker 0, .workloadSends [3, 4, 5], .clientCloses, .netToClient 1,
    .clientToBroker 7, .clientToBroker 0, .clientToNet 9, .clientToNet 0, .netToClient 0,
    .brokerToClient 9]

/-- The streams end in both directions before any hop closes. -/
def patientSession : List (Event ℕ) :=
  openSession ++ [.workloadSends [6], .workloadCloses, .netToClient 0, .netToClient 0,
    .brokerCloses, .brokerToClient 3, .brokerToClient 0, .accessCloses]

theorem patientSession_delivered :
    ((fresh : Connection ℕ).run openSession).Delivered ∧
      ((fresh : Connection ℕ).run patientSession).Delivered := by
  have patient : Throughout step Patient (fresh : Connection ℕ) patientSession := by
    simp only [patientSession, openSession, List.cons_append, List.nil_append, Throughout, Patient,
      true_and, and_true]
    decide +kernel
  constructor
  · refine (half_close_delivers openSession ?_).2.2.2 fun event loop => ?_
    · simp [openSession, Throughout, Patient]
    · cases event <;> first | rfl | cases loop
  · refine (half_close_delivers patientSession patient).2.2.2 fun event _ => ?_
    cases event <;> rfl

/-- The client closes its sending side after one byte.  The Access relay has copied the end of its
stream and closes; what the workload sent before and after that never arrives. -/
def halfClosedSession : List (Event ℕ) :=
  [.clientSends [1], .workloadSends [2, 3], .clientCloses, .clientToBroker 0, .clientToBroker 0,
    .accessCloses, .clientToNet 0, .netToClient 0, .clientToNet 0, .workloadSends [4],
    .workloadCloses, .brokerCloses]

theorem halfClosedSession_loses :
    let connection := (fresh : Connection ℕ).run halfClosedSession
    connection.AtRest ∧ connection.up.ended = true ∧ connection.down.ended = true ∧
      connection.down.sent = [2, 3, 4] ∧ connection.down.received = [] ∧
      ¬ connection.Delivered := by
  refine ⟨fun event _ => ?_, by decide +kernel, by decide +kernel, by decide +kernel,
    by decide +kernel, ?_⟩
  · cases event <;> rfl
  · rintro ⟨_, down⟩
    exact absurd down (by decide +kernel)

end TrainingScheduler.Relay
