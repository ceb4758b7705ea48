import Mathlib

/-!
# Admission of connections at the Gateway

`Capacity` of `sessions.py`, and `connect` of `main.py` as far as it takes and gives back what the
capacity counts.  No method of `Capacity` awaits anything under its lock, so each is one step of the
event loop.  A handler that has dialled awaits the end of its stream before it gives its entry back,
and may be cancelled there.
-/

namespace TrainingScheduler.Gateway

structure Settings where
  unauthenticatedConnections : ℕ
  totalConnections : ℕ
  perUserConnections : ℕ

/-- An entry of `active`. -/
structure Entry where
  session : String
  user : String
  deriving DecidableEq, Repr

structure Capacity where
  unauthenticated : ℤ := 0
  active : List Entry := []
  users : String → ℤ := fun _ => 0

variable (settings : Settings)

namespace Capacity

/-- `none` is a `CapacityError`. -/
def beginAuth (capacity : Capacity) : Option Capacity :=
  if capacity.unauthenticated ≥ settings.unauthenticatedConnections then none
  else some { capacity with unauthenticated := capacity.unauthenticated + 1 }

def endAuth (capacity : Capacity) : Capacity :=
  { capacity with unauthenticated := capacity.unauthenticated - 1 }

def reserve (capacity : Capacity) (entry : Entry) : Option Capacity :=
  if (capacity.active.any fun other => other.session == entry.session) ∨
      capacity.active.length ≥ settings.totalConnections ∨
      capacity.users entry.user ≥ settings.perUserConnections then none
  else some
    { capacity with
      active := entry :: capacity.active
      users := Function.update capacity.users entry.user (capacity.users entry.user + 1) }

def release (capacity : Capacity) (session : String) : Capacity :=
  match capacity.active.find? fun entry => entry.session == session with
  | none => capacity
  | some entry =>
    { capacity with
      active := capacity.active.erase entry
      users := Function.update capacity.users entry.user (capacity.users entry.user - 1) }

end Capacity

/-- Where a handler is.  It awaits the end of its stream while `closing`, and is `cut` if it is
cancelled there. -/
inductive Phase where
  | authenticating
  | dialing (entry : Entry)
  | relaying (entry : Entry)
  | closing (entry : Entry)
  | ended
  | cut (entry : Entry)
  deriving DecidableEq, Repr

/-- What a handler has reserved and not given back. -/
def Phase.reserved : Phase → List Entry
  | authenticating | ended => []
  | dialing entry | relaying entry | closing entry | cut entry => [entry]

/-- The Gateway with the connections it has accepted. -/
structure Server where
  capacity : Capacity := {}
  handlers : List Phase := []

/-- What happens between two awaits.  A handler leaves at an exception, a cancellation or the end of
its relay. -/
inductive Event where
  | connect
  | reserve (handler : ℕ) (entry : Entry)
  | dialed (handler : ℕ)
  | leave (handler : ℕ)
  | closed (handler : ℕ)
  | cancel (handler : ℕ)
  deriving DecidableEq, Repr

namespace Server

variable (server : Server) (handler : ℕ)

def move (phase : Phase) (capacity : Capacity) : Server where
  capacity := capacity
  handlers := server.handlers.set handler phase

/-- The `finally` block of a handler that has reserved nothing. -/
def turnAway : Server :=
  server.move handler .ended server.capacity.endAuth

/-- The `finally` block of a handler that has reserved an entry. -/
def giveBack (entry : Entry) : Server :=
  server.move handler .ended (server.capacity.release entry.session)

def step : Event → Server
  | .connect =>
    match server.capacity.beginAuth settings with
    | none => { server with handlers := server.handlers ++ [.ended] }
    | some capacity => { server with capacity, handlers := server.handlers ++ [.authenticating] }
  | .reserve handler entry =>
    match server.handlers[handler]?, server.capacity.reserve settings entry with
    | some .authenticating, none => server.turnAway handler
    | some .authenticating, some capacity =>
      server.move handler (.dialing entry) capacity.endAuth
    | _, _ => server
  | .dialed handler =>
    match server.handlers[handler]? with
    | some (.dialing entry) => server.move handler (.relaying entry) server.capacity
    | _ => server
  | .leave handler =>
    match server.handlers[handler]? with
    | some .authenticating => server.turnAway handler
    | some (.dialing entry) => server.giveBack handler entry
    | some (.relaying entry) => server.move handler (.closing entry) server.capacity
    | _ => server
  | .closed handler =>
    match server.handlers[handler]? with
    | some (.closing entry) => server.giveBack handler entry
    | _ => server
  | .cancel handler =>
    match server.handlers[handler]? with
    | some (.closing entry) => server.move handler (.cut entry) server.capacity
    | _ => server

def run (events : List Event) : Server := events.foldl (step settings) {}

end Server

/-- The entries have different sessions, are within the limits and are counted for their users. -/
structure Capacity.Sound (capacity : Capacity) : Prop where
  distinct : (capacity.active.map Entry.session).Nodup
  total : capacity.active.length ≤ settings.totalConnections
  users : ∀ user, capacity.users user = capacity.active.countP fun entry => entry.user = user
  perUser : ∀ user, capacity.users user ≤ settings.perUserConnections

/-- The capacity counts the handlers that authenticate, and the entries that handlers have reserved
and not given back. -/
structure Server.Accounted (server : Server) : Prop extends server.capacity.Sound settings where
  unauthenticated : server.capacity.unauthenticated = server.handlers.count .authenticating
  limited : server.capacity.unauthenticated ≤ settings.unauthenticatedConnections
  active : server.capacity.active.Perm (server.handlers.flatMap Phase.reserved)

variable {settings}

namespace Capacity

variable {capacity next : Capacity} {entry : Entry}

theorem Sound.endAuth (sound : capacity.Sound settings) : capacity.endAuth.Sound settings :=
  ⟨sound.distinct, sound.total, sound.users, sound.perUser⟩

theorem Sound.reserve (sound : capacity.Sound settings)
    (admitted : capacity.reserve settings entry = some next) :
    next.Sound settings ∧ next.unauthenticated = capacity.unauthenticated ∧
      next.active = entry :: capacity.active := by
  unfold Capacity.reserve at admitted
  split_ifs at admitted with full
  cases admitted
  push Not at full
  obtain ⟨fresh, total, perUser⟩ := full
  refine ⟨⟨?_, total, fun user => ?_, fun user => ?_⟩, rfl, rfl⟩
  · refine List.nodup_cons.mpr ⟨?_, sound.distinct⟩
    simpa using fresh
  · have counted := sound.users user
    by_cases same : user = entry.user
    · subst same
      simp [counted]
    · simp [same, Ne.symm same, counted]
  · by_cases same : user = entry.user
    · subst same
      simpa using perUser
    · simpa [same] using sound.perUser user

theorem Sound.release (sound : capacity.Sound settings) (member : entry ∈ capacity.active) :
    (capacity.release entry.session).Sound settings ∧
      (capacity.release entry.session).unauthenticated = capacity.unauthenticated ∧
      (capacity.release entry.session).active = capacity.active.erase entry := by
  unfold Capacity.release
  split
  next absent => exact absurd (beq_self_eq_true _) (List.find?_eq_none.mp absent entry member)
  next other found =>
    have same : other.session = entry.session := by simpa using List.find?_some found
    obtain rfl := List.inj_on_of_nodup_map sound.distinct
        (List.mem_of_find?_eq_some found) member same
    refine ⟨⟨sound.distinct.sublist (List.erase_sublist.map _),
      List.erase_sublist.length_le.trans sound.total, fun user => ?_, fun user => ?_⟩, rfl, rfl⟩
    all_goals
      have counted := sound.users user
      have bound := sound.perUser user
      rw [(List.perm_cons_erase member).countP_eq, List.countP_cons] at counted
      by_cases same : user = other.user
      · subst same
        simp only [Function.update_self, decide_true, if_true] at counted ⊢
        omega
      · rw [if_neg (by simpa using Ne.symm same)] at counted
        simp only [Function.update_of_ne same]
        omega

end Capacity

namespace Server.Accounted

variable {server : Server} {handler : ℕ} {old : Phase}

section

variable (accounted : server.Accounted settings) (here : server.handlers[handler]? = some old)

include accounted here

/-- A handler moves on to another phase, and the capacity follows it. -/
theorem move {phase : Phase} {capacity : Capacity} (sound : capacity.Sound settings)
    (unauthenticated : capacity.unauthenticated + [old].count .authenticating =
      server.capacity.unauthenticated + [phase].count .authenticating)
    (lowered : capacity.unauthenticated ≤ server.capacity.unauthenticated)
    (active : (old.reserved ++ capacity.active).Perm (phase.reserved ++ server.capacity.active)) :
    (server.move handler phase capacity).Accounted settings := by
  obtain ⟨within, rfl⟩ := List.getElem?_eq_some_iff.mp here
  have before := (List.getElem_cons_eraseIdx_perm within).symm
  have after := List.set_perm_cons_eraseIdx within phase
  refine ⟨sound, ?_, lowered.trans accounted.limited, ?_⟩
  · have counted := accounted.unauthenticated
    rw [before.count_eq, ← List.singleton_append, List.count_append] at counted
    rw [Server.move, after.count_eq, ← List.singleton_append, List.count_append]
    push_cast at counted ⊢
    omega
  · have entries := accounted.active.trans (before.flatMap_right Phase.reserved)
    refine .trans ?_ (after.flatMap_right Phase.reserved).symm
    rw [List.flatMap_cons] at entries ⊢
    refine (List.perm_append_left_iff server.handlers[handler].reserved).mp ?_
    refine (active.trans (entries.append_left phase.reserved)).trans ?_
    rw [← List.append_assoc, ← List.append_assoc]
    exact List.perm_append_comm.append_right _

theorem giveBack {entry : Entry} (reserved : old.reserved = [entry])
    (authenticated : old ≠ .authenticating) :
    (server.giveBack handler entry).Accounted settings := by
  have member : entry ∈ server.capacity.active := accounted.active.mem_iff.mpr
    (List.mem_flatMap.mpr ⟨old, List.mem_of_getElem? here, by simp [reserved]⟩)
  obtain ⟨sound, same, active⟩ := accounted.release member
  refine accounted.move here sound (by simp [same, authenticated]) same.le ?_
  rw [reserved, active]
  exact (List.perm_cons_erase member).symm

end

theorem step (accounted : server.Accounted settings) (event : Event) :
    (server.step settings event).Accounted settings := by
  have turned {handler : ℕ} (here : server.handlers[handler]? = some .authenticating) :
      (server.turnAway handler).Accounted settings := by
    refine accounted.move here accounted.endAuth ?_ ?_ (.refl _) <;> simp [Capacity.endAuth]
  cases event with
  | connect =>
    rw [Server.step]
    split
    · exact ⟨accounted.toSound, by simpa using accounted.unauthenticated, accounted.limited,
        by simpa [Phase.reserved] using accounted.active⟩
    · rename_i begun
      unfold Capacity.beginAuth at begun
      split_ifs at begun with full
      cases begun
      refine ⟨⟨accounted.distinct, accounted.total, accounted.users, accounted.perUser⟩, ?_,
        not_le.mp full, by simpa [Phase.reserved] using accounted.active⟩
      simpa using accounted.unauthenticated
  | reserve handler entry =>
    rw [Server.step]
    split
    · exact turned ‹_›
    · rename_i here admitted
      obtain ⟨sound, same, active⟩ := accounted.reserve admitted
      refine accounted.move here sound.endAuth ?_ ?_ ?_
      · simp [Capacity.endAuth, same]
      · simp [Capacity.endAuth, same]
      · rw [Capacity.endAuth, active]
        exact .refl _
    · exact accounted
  | dialed handler =>
    rw [Server.step]
    split
    · rename_i here
      exact accounted.move here accounted.toSound (by simp) le_rfl (.refl _)
    · exact accounted
  | leave handler =>
    rw [Server.step]
    split
    · exact turned ‹_›
    · exact accounted.giveBack ‹_› rfl (by simp)
    · rename_i here
      exact accounted.move here accounted.toSound (by simp) le_rfl (.refl _)
    · exact accounted
  | closed handler =>
    rw [Server.step]
    split
    · exact accounted.giveBack ‹_› rfl (by simp)
    · exact accounted
  | cancel handler =>
    rw [Server.step]
    split
    · rename_i here
      exact accounted.move here accounted.toSound (by simp) le_rfl (.refl _)
    · exact accounted

end Server.Accounted

variable (settings)

/-- In every run the counters are the numbers of handlers that authenticate and of entries that were
reserved and not given back, within the limits and with no session twice.  Once all handlers have
ended and none was cancelled while it closed its stream, nothing is counted. -/
theorem admission_accounted (events : List Event) :
    let server := Server.run settings events
    server.Accounted settings ∧ ((∀ phase ∈ server.handlers, phase = .ended) →
      server.capacity.unauthenticated = 0 ∧ server.capacity.active = [] ∧
        ∀ user, server.capacity.users user = 0) := by
  intro server
  have start : Server.Accounted settings {} := ⟨by constructor <;> simp, rfl, by simp, .refl _⟩
  have accounted : server.Accounted settings :=
    List.foldlRecOn events _ start fun _ known event _ => known.step event
  refine ⟨accounted, fun ended => ?_⟩
  have idle : server.capacity.active = [] := by
    refine List.perm_nil.mp (accounted.active.trans (.of_eq (List.flatMap_eq_nil_iff.mpr ?_)))
    intro phase member
    rw [ended phase member]
    rfl
  refine ⟨?_, idle, fun user => ?_⟩
  · rw [accounted.unauthenticated, List.count_eq_zero.mpr fun member => by cases ended _ member]
    rfl
  · rw [accounted.users, idle]
    rfl

end TrainingScheduler.Gateway
