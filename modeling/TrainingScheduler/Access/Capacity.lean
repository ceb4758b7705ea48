import Mathlib
import TrainingScheduler.Programs

/-!
# Session capacity of an Access container

`run_session` and `run_ssh_session` as far as they take and give back slots.  A connection takes a
browser slot before its first record is read, and only an SSH connection gives it back once that
record has come.  A session that ends awaits its connections before it gives its slot back, and the
readiness watch may cancel it there.
-/

namespace TrainingScheduler.Access

open Machine

/-- What a connection sends as its first record: `SSH_OPEN`, `HELLO` or `OPEN`, or anything else. -/
inductive Kind where
  | ssh
  | browser
  | invalid
  deriving DecidableEq, Repr

/-- The two kinds of slots. -/
inductive Slot where
  | browser
  | ssh
  deriving DecidableEq, Repr

/-- Where a session is; `ending` is its `finally` block, and `cut` where one is cancelled there. -/
inductive Phase where
  | busy
  | opening
  | relaying
  | tunnel
  | sshBusy
  | ending (slot : Option Slot)
  | ended
  | cut (slot : Option Slot)
  deriving DecidableEq, Repr

/-- A connection to the container. -/
structure Session where
  kind : Kind
  phase : Phase
  deriving DecidableEq, Repr

/-- `Capacity`. -/
structure Capacity where
  maximum : ℕ
  active : ℕ
  deriving DecidableEq, Repr

namespace Capacity

def acquire (capacity : Capacity) : Bool × Capacity :=
  if capacity.active ≥ capacity.maximum then (false, capacity)
  else (true, { capacity with active := capacity.active + 1 })

/-- `none` is a failed assertion. -/
def release (capacity : Capacity) : Option Capacity :=
  if capacity.active > 0 then some { capacity with active := capacity.active - 1 } else none

end Capacity

/-- The slots of an Access container and the sessions it has begun. -/
structure Container where
  /-- The slots of `run_session`. -/
  capacity : Capacity
  sshCapacity : ℕ
  /-- The SSH slots that are taken. -/
  sshActive : ℕ
  /-- The number of sessions; those below it have begun. -/
  count : ℕ
  sessions : ℕ → Session

/-- A container without sessions. -/
def start (capacity sshCapacity : ℕ) : Container where
  capacity := ⟨capacity, 0⟩
  sshCapacity := sshCapacity
  sshActive := 0
  count := 0
  sessions := fun _ => ⟨.invalid, .ended⟩

/-- What happens on the event loop between two awaits. -/
inductive Step where
  | connect (kind : Kind)
  | receive (session : ℕ)
  | leave (session : ℕ)
  | finish (session : ℕ)
  | cancel (session : ℕ)
  deriving DecidableEq, Repr

namespace Container

variable (container : Container) (session : ℕ)

def set (phase : Phase) : Container :=
  { container with
    sessions := Function.update container.sessions session
      { container.sessions session with phase := phase } }

def sshAcquire : Bool × Container :=
  if container.sshActive ≥ container.sshCapacity then (false, container)
  else (true, { container with sshActive := container.sshActive + 1 })

def sshRelease : Container :=
  { container with sshActive := container.sshActive - 1 }

def releaseSlot : Container :=
  match container.capacity.release with
  | some capacity => { container with capacity := capacity }
  | none => container

/-- The start of `run_session`. -/
def connect (kind : Kind) : Container :=
  { container with
    capacity := container.capacity.acquire.2
    count := container.count + 1
    sessions := Function.update container.sessions container.count
      ⟨kind, if container.capacity.acquire.1 then .opening else .busy⟩ }

/-- The first record of a session.  `SSH_OPEN` hands the browser slot back. -/
def receive : Container :=
  match (container.sessions session).kind with
  | .ssh =>
    let after := container.releaseSlot.sshAcquire
    after.2.set session (if after.1 then .tunnel else .sshBusy)
  | .browser => container.set session .relaying
  | .invalid => container.set session (.ending (some .browser))

/-- The slot that a session has. -/
def slot : Phase → Option Slot
  | .opening | .relaying => some .browser
  | .tunnel => some .ssh
  | .ending slot | .cut slot => slot
  | .busy | .sshBusy | .ended => none

/-- The end of a `finally` block. -/
def finish (held : Option Slot) : Container :=
  match held with
  | some .browser => container.releaseSlot.set session .ended
  | some .ssh => container.sshRelease.set session .ended
  | none => container.set session .ended

def step : Step → Container
  | .connect kind => container.connect kind
  | .receive session =>
    if session < container.count ∧ (container.sessions session).phase = .opening then
      container.receive session
    else container
  | .leave session =>
    match (container.sessions session).phase with
    | .ending _ | .ended | .cut _ => container
    | phase =>
      if session < container.count then container.set session (.ending (slot phase))
      else container
  | .finish session =>
    match (container.sessions session).phase with
    | .ending held =>
      if session < container.count then container.finish session held else container
    | _ => container
  | .cancel session =>
    match (container.sessions session).phase with
    | .ended | .cut _ => container
    | .ending held =>
      if session < container.count then container.set session (.cut held) else container
    | phase =>
      if session < container.count then container.set session (.ending (slot phase))
      else container

/-- The number of sessions that count. -/
def tally (counts : Session → Bool) : ℕ :=
  ∑ session ∈ Finset.range container.count, if counts (container.sessions session) then 1 else 0

/-- The SSH sessions that are relayed or closing. -/
def sshSessions : ℕ :=
  container.tally fun session =>
    decide (session.phase = .tunnel ∨ session.phase = .ending (some .ssh))

/-- The browser sessions that are opened, relayed or closing. -/
def browserSessions : ℕ :=
  container.tally fun session =>
    decide (session.kind = .browser ∧ (session.phase = .opening ∨ session.phase = .relaying ∨
      session.phase = .ending (some .browser)))

/-- The connections of any kind that await their first record, and the sessions that are not SSH. -/
def holders : ℕ :=
  container.tally fun session =>
    decide (session.phase = .opening ∨ session.phase = .relaying ∨
      session.phase = .ending (some .browser))

/-- The sessions that have a slot, cancelled ones included. -/
def slots (which : Slot) : ℕ :=
  container.tally fun session => decide (slot session.phase = some which)

end Container

/-- SSH and browser do not take slots from each other: a connection that will send `SSH_OPEN` is not
turned away while there is an SSH slot, and one of the browser not while there is a browser slot. -/
def Isolated (container : Container) : Step → Prop
  | .connect .ssh => container.sshSessions < container.sshCapacity →
      ((container.connect .ssh).sessions container.count).phase ≠ .busy
  | .connect .browser => container.browserSessions < container.capacity.maximum →
      ((container.connect .browser).sessions container.count).phase ≠ .busy
  | .receive session =>
    session < container.count → (container.sessions session).phase = .opening →
      ((container.sessions session).kind = .ssh →
        container.sshSessions < container.sshCapacity →
        ((container.step (.receive session)).sessions session).phase = .tunnel) ∧
      ((container.sessions session).kind = .browser →
        ((container.step (.receive session)).sessions session).phase = .relaying)
  | .connect .invalid | .leave _ | .finish _ | .cancel _ => True

/-- A connection comes while fewer connections than there are browser slots await their first record
or are browser sessions, unless sessions of its kind have all slots of this kind, and no session is
cancelled while it ends. -/
def Roomy (container : Container) : Step → Prop
  | .connect .ssh => container.holders < container.capacity.maximum ∨
      container.sshCapacity ≤ container.sshSessions
  | .connect .browser => container.holders < container.capacity.maximum ∨
      container.capacity.maximum ≤ container.browserSessions
  | .cancel session => ∀ held, (container.sessions session).phase ≠ .ending held
  | .connect .invalid | .receive _ | .leave _ | .finish _ => True

namespace Container

variable {container : Container} {session : ℕ}

theorem tally_update (counts : Session → Bool) (here : session < container.count) (phase : Phase) :
    (container.set session phase).tally counts +
        (if counts (container.sessions session) then 1 else 0) =
      container.tally counts +
        if counts { container.sessions session with phase := phase } then 1 else 0 := by
  have member : session ∈ Finset.range container.count := Finset.mem_range.mpr here
  have others : ∑ other ∈ (Finset.range container.count).erase session,
        (if counts ((container.set session phase).sessions other) then 1 else 0) =
      ∑ other ∈ (Finset.range container.count).erase session,
        if counts (container.sessions other) then 1 else 0 := by
    refine Finset.sum_congr rfl fun other within => ?_
    rw [show (container.set session phase).sessions other = container.sessions other from
      Function.update_of_ne (Finset.ne_of_mem_erase within) _ _]
  have updated : (container.set session phase).sessions session =
      { container.sessions session with phase := phase } := Function.update_self _ _ _
  have after := Finset.add_sum_erase (Finset.range container.count)
    (fun other => if counts ((container.set session phase).sessions other) then 1 else 0) member
  have before := Finset.add_sum_erase (Finset.range container.count)
    (fun other => if counts (container.sessions other) then 1 else 0) member
  rw [others, updated] at after
  change _ = (container.set session phase).tally counts at after
  change _ = container.tally counts at before
  omega

theorem slots_set (here : session < container.count) (phase : Phase) (which : Slot) :
    (container.set session phase).slots which +
        (if slot (container.sessions session).phase = some which then 1 else 0) =
      container.slots which + if slot phase = some which then 1 else 0 := by
  have counted := tally_update (fun other => decide (slot other.phase = some which)) here phase
  simp only [decide_eq_true_eq] at counted
  exact counted

private theorem tally_congr {first second : Session → Bool} (same : ∀ session < container.count,
      first (container.sessions session) = second (container.sessions session)) :
    container.tally first = container.tally second := by
  refine Finset.sum_congr rfl fun session within => ?_
  rw [same session (Finset.mem_range.mp within)]

private theorem tally_connect (container : Container) (counts : Session → Bool) (kind : Kind) :
    (container.connect kind).tally counts =
      container.tally counts +
        if counts ((container.connect kind).sessions container.count) then 1 else 0 := by
  have added : (container.connect kind).count = container.count + 1 := by
    simp [connect]
  rw [tally, added, Finset.sum_range_succ]
  congr 1
  refine Finset.sum_congr rfl fun session within => ?_
  have differs : session ≠ container.count := Nat.ne_of_lt (Finset.mem_range.mp within)
  simp [connect, differs]

theorem slots_pos (here : session < container.count) {which : Slot}
    (held : slot (container.sessions session).phase = some which) : 0 < container.slots which := by
  have counted := slots_set here .ended which
  rw [if_pos held, if_neg (by simp [slot])] at counted
  omega

theorem releaseSlot_of_pos (held : 0 < container.capacity.active) :
    container.releaseSlot = { container with
      capacity := { container.capacity with active := container.capacity.active - 1 } } := by
  simp [releaseSlot, Capacity.release, held]

end Container

open Container

/-- The counters are the numbers of sessions that have a slot, and no session lost one. -/
structure Balanced (capacity sshCapacity : ℕ) (container : Container) : Prop where
  maximum : container.capacity.maximum = capacity
  sshMaximum : container.sshCapacity = sshCapacity
  active : container.capacity.active = container.slots .browser
  sshActive : container.sshActive = container.slots .ssh
  uncut : ∀ session < container.count, ∀ held, (container.sessions session).phase ≠ .cut held

namespace Balanced

variable {capacity sshCapacity : ℕ} {container : Container} {session : ℕ} {phase : Phase}

private theorem uncut_set
    (before : ∀ other < container.count, ∀ held, (container.sessions other).phase ≠ .cut held)
    (uncut : ∀ held, phase ≠ .cut held) :
    ∀ other < (container.set session phase).count, ∀ held,
      ((container.set session phase).sessions other).phase ≠ .cut held := by
  intro other within held
  by_cases same : other = session
  · subst same
    simpa [Container.set] using uncut held
  · simpa [Container.set, same] using before other within held

section

variable (balanced : Balanced capacity sshCapacity container)

include balanced

/-- A session that moves on to another phase, with the counters following its slot. -/
theorem move (here : session < container.count) {freed : Container}
    (sessions : freed.sessions = container.sessions) (count : freed.count = container.count)
    (maximum : freed.capacity.maximum = container.capacity.maximum)
    (sshMaximum : freed.sshCapacity = container.sshCapacity) (active : freed.capacity.active +
        (if slot (container.sessions session).phase = some .browser then 1 else 0) =
      container.capacity.active + if slot phase = some .browser then 1 else 0)
    (sshActive : freed.sshActive +
        (if slot (container.sessions session).phase = some .ssh then 1 else 0) =
      container.sshActive + if slot phase = some .ssh then 1 else 0)
    (uncut : ∀ held, phase ≠ .cut held) :
    Balanced capacity sshCapacity (freed.set session phase) := by
  have slots : ∀ which, (freed.set session phase).slots which =
      (container.set session phase).slots which := by
    intro which
    obtain ⟨_, _, _, _, _⟩ := freed
    dsimp only at sessions count
    subst sessions count
    rfl
  constructor
  case maximum => exact maximum.trans balanced.maximum
  case sshMaximum => exact sshMaximum.trans balanced.sshMaximum
  case active =>
    have counted := slots_set here phase .browser
    rw [slots]
    rw [balanced.active] at active
    change freed.capacity.active = _
    omega
  case sshActive =>
    have counted := slots_set here phase .ssh
    rw [slots]
    rw [balanced.sshActive] at sshActive
    change freed.sshActive = _
    omega
  case uncut =>
    refine uncut_set (fun other within held => ?_) uncut
    rw [sessions]
    exact balanced.uncut other (count ▸ within) held

theorem keep (here : session < container.count)
    (kept : slot phase = slot (container.sessions session).phase)
    (uncut : ∀ held, phase ≠ .cut held) :
    Balanced capacity sshCapacity (container.set session phase) :=
  balanced.move here rfl rfl rfl rfl (by rw [kept]) (by rw [kept]) uncut

theorem connect (kind : Kind) : Balanced capacity sshCapacity (container.connect kind) := by
  have added := fun which => tally_connect container
    (fun other => decide (slot other.phase = some which)) kind
  constructor
  case maximum =>
    rw [← balanced.maximum]
    simp only [Container.connect, Capacity.acquire]
    split <;> rfl
  case sshMaximum => exact balanced.sshMaximum
  case active =>
    rw [slots, added, ← slots, ← balanced.active]
    simp only [Container.connect, Capacity.acquire, Function.update_self]
    split <;> simp [slot]
  case sshActive =>
    rw [slots, added, ← slots, ← balanced.sshActive]
    simp only [Container.connect, Capacity.acquire, Function.update_self]
    split <;> simp [slot]
  case uncut =>
    intro session within held
    simp only [Container.connect] at within ⊢
    by_cases same : session = container.count
    · subst same
      simp only [Function.update_self]
      split <;> simp
    · simpa [same] using balanced.uncut session (by omega) held

theorem receive (here : session < container.count)
    (opening : (container.sessions session).phase = .opening) :
    Balanced capacity sshCapacity (container.receive session) := by
  have held : slot (container.sessions session).phase = some .browser := by
    rw [opening]; rfl
  rw [Container.receive]
  split
  · have positive := slots_pos here held
    rw [← balanced.active] at positive
    rw [releaseSlot_of_pos positive, sshAcquire]
    split
    · refine balanced.move here rfl rfl rfl rfl ?_ ?_ (by simp)
      · simpa [opening, slot] using Nat.sub_add_cancel positive
      · simp [opening, slot]
    · refine balanced.move here rfl rfl rfl rfl ?_ ?_ (by simp)
      · simpa [opening, slot] using Nat.sub_add_cancel positive
      · simp [opening, slot]
  · exact balanced.keep here held.symm (by simp)
  · exact balanced.keep here held.symm (by simp)

theorem finish (here : session < container.count) {held : Option Slot}
    (ending : (container.sessions session).phase = .ending held) :
    Balanced capacity sshCapacity (container.finish session held) := by
  have slot : Container.slot (container.sessions session).phase = held := by rw [ending]; rfl
  unfold Container.finish
  split
  · have positive := Container.slots_pos here slot
    rw [← balanced.active] at positive
    rw [Container.releaseSlot_of_pos positive]
    refine balanced.move here rfl rfl rfl rfl ?_ ?_ (by simp)
    · simpa [ending, Container.slot] using Nat.sub_add_cancel positive
    · simp [ending, Container.slot]
  · have positive := Container.slots_pos here slot
    rw [← balanced.sshActive] at positive
    refine balanced.move here rfl rfl rfl rfl ?_ ?_ (by simp)
    · simp [ending, Container.slot, Container.sshRelease]
    · simpa [ending, Container.slot, Container.sshRelease] using Nat.sub_add_cancel positive
  · exact balanced.keep here (by rw [slot]; rfl) (by simp)

theorem step {step : Step} (roomy : Roomy container step) :
    Balanced capacity sshCapacity (container.step step) := by
  cases step with
  | connect kind => exact balanced.connect kind
  | receive session =>
    exact iteInduction (fun opened => balanced.receive opened.1 opened.2) fun _ => balanced
  | leave session =>
    rw [Container.step]
    split
    · exact balanced
    · exact balanced
    · exact balanced
    · exact iteInduction (fun here => balanced.keep here rfl (by simp)) fun _ => balanced
  | finish session =>
    rw [Container.step]
    split
    · exact iteInduction (fun here => balanced.finish here ‹_›) fun _ => balanced
    · exact balanced
  | cancel session =>
    rw [Container.step]
    split
    · exact balanced
    · exact balanced
    · exact absurd ‹_› (roomy _)
    · exact iteInduction (fun here => balanced.keep here rfl (by simp)) fun _ => balanced

theorem slots_eq : container.slots .browser = container.holders ∧
    container.slots .ssh = container.sshSessions := by
  constructor
  all_goals
    refine tally_congr fun session within => decide_eq_decide.mpr ?_
    have uncut := balanced.uncut session within
    cases phase : (container.sessions session).phase <;> simp_all [slot]

theorem connected (room : container.holders < container.capacity.maximum) (kind : Kind) :
    ((container.connect kind).sessions container.count).phase = .opening := by
  rw [← balanced.slots_eq.1, ← balanced.active] at room
  simp [Container.connect, Capacity.acquire, Nat.not_le_of_lt room]

theorem isolated {step : Step} (roomy : Roomy container step) : Isolated container step := by
  cases step with
  | connect kind =>
    cases kind with
    | ssh | browser =>
      intro free busy
      rw [balanced.connected (roomy.resolve_right (not_le.mpr free))] at busy
      cases busy
    | invalid => trivial
  | receive session =>
    intro here opening
    rw [Container.step, if_pos ⟨here, opening⟩, Container.receive]
    constructor
    · intro kind room
      have held : Container.slot (container.sessions session).phase = some .browser := by
        rw [opening]; rfl
      have positive := Container.slots_pos here held
      rw [← balanced.active] at positive
      rw [← balanced.slots_eq.2, ← balanced.sshActive] at room
      rw [kind, Container.releaseSlot_of_pos positive]
      simp [Container.sshAcquire, Container.set, Nat.not_le_of_lt room]
    · intro kind
      rw [kind]
      simp [Container.set]
  | leave | finish | cancel => trivial

end

end Balanced

private theorem balanced_start (capacity sshCapacity : ℕ) :
    Balanced capacity sshCapacity (start capacity sshCapacity) where
  maximum := rfl
  sshMaximum := rfl
  active := rfl
  sshActive := rfl
  uncut := fun _ within => absurd within (Nat.not_lt_zero _)

/-- Along every run in which a connection finds a free browser slot for its first record, unless its
own kind has no slot left, and no session is cancelled while it ends, neither kind of session takes
slots from the other. -/
theorem ssh_capacity_isolated (capacity sshCapacity : ℕ) (steps : List Step)
    (roomy : Throughout Container.step Roomy (start capacity sshCapacity) steps) :
    Throughout Container.step Isolated (start capacity sshCapacity) steps := by
  refine roomy.imp (fun _ _ balanced free => balanced.step free) ?_
    (balanced_start capacity sshCapacity)
  exact fun _ _ balanced free => balanced.isolated free

instance (container : Container) (step : Step) : Decidable (Isolated container step) := by
  unfold Isolated
  split <;> infer_instance

/-- Two SSH sessions beside two browser sessions, and a connection of either kind too many. -/
theorem sessions_side_by_side :
    Throughout Container.step Isolated (start 2 2)
      [.connect .browser, .receive 0, .connect .ssh, .receive 1, .connect .ssh, .receive 2,
        .connect .browser, .receive 3, .connect .browser, .connect .ssh] := by
  refine ssh_capacity_isolated 2 2 _ ⟨?_, trivial, ?_, trivial, ?_, trivial, ?_, trivial, ?_, ?_,
    trivial⟩ <;> (change _ ∨ _; decide +kernel)

/-- With one browser slot and eight for SSH, a browser session keeps every SSH connection out, and
an SSH connection that has not sent its first record keeps the browser out. -/
theorem slots_shared :
    ¬ Throughout Container.step Isolated (start 1 8)
        [.connect .browser, .receive 0, .connect .ssh] ∧
      ¬ Throughout Container.step Isolated (start 1 8) [.connect .ssh, .connect .browser] := by
  constructor
  · rintro ⟨_, _, isolated, _⟩
    exact absurd isolated (by decide +kernel)
  · rintro ⟨_, isolated, _⟩
    exact absurd isolated (by decide +kernel)

end TrainingScheduler.Access
