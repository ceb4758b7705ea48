import Mathlib
import TrainingScheduler.Programs
import TrainingScheduler.Scheduler.Reconciliation

/-!
# Connection requests

The readiness that `connection` and `ssh_connection` of `interactive_runtime_service.py` check
before and after they ask the management service for a grant, and the window that limits the
grants of `ssh_connection`.
-/

namespace TrainingScheduler

/-- The assignment is held, leased and of the generation of the runtime. -/
def leased (now : Time) (runtime : Runtime) (assignment : Assignment) : Bool :=
  assignment.releasedAt.isNone && assignment.state != .lost && assignment.state != .cleaning &&
    decide (now < assignment.leaseUntil) && assignment.generation == some runtime.generation

def connectionReady (now : Time) (db : Db) (runtime : Runtime) : Bool :=
  runtime.desiredState == .running && runtime.state == .ready && runtime.fresh now &&
    runtime.healthy && (runtime.assignmentId.bind db.assignments.lookup).any (leased now runtime)

def sshGrantReady (now : Time) (db : Db) (runtime : Runtime) : Bool :=
  connectionReady now db runtime && runtime.sshCapable && runtime.sshReady

/-- `ssh_grant_window_start` and `ssh_grant_window_count` of a runtime. -/
structure GrantWindow where
  start : Option Time := none
  count : Option ℕ := none
  deriving DecidableEq, Repr

/-- An SSH request: its time, the outcome of the checks in front of the grant window, and that of
the checks behind it and of the commit. -/
structure SshRequest where
  now : Time
  checked : Except HTTPException Unit := .ok ()
  committed : Except HTTPException Unit := .ok ()

/-- The grant window with one more request. -/
def GrantWindow.request (window : GrantWindow) (now : Time) : Except HTTPException GrantWindow :=
  let count := window.count.getD 0
  if window.start.all (· ≤ now - 10) then .ok ⟨some now, some 1⟩
  else if count ≥ 5 then .error ⟨429, "Wait before requesting another SSH connection"⟩
  else .ok { window with count := some (count + 1) }

/-- `ssh_connection` up to its first commit. -/
def sshConnection (window : GrantWindow) (request : SshRequest) :
    Except HTTPException GrantWindow := do
  request.checked
  let window ← window.request request.now
  request.committed
  return window

/-- The times of the requests that commit a window; any other request is rolled back. -/
def grantTimes (window : GrantWindow) : List SshRequest → List Time
  | [] => []
  | request :: rest =>
    match sshConnection window request with
    | .ok window => request.now :: grantTimes window rest
    | .error _ => grantTimes window rest

namespace GrantWindow

/-- No window is open at an instant. -/
def Idle (window : GrantWindow) (now : Time) : Prop := ∀ start ∈ window.start, start + 10 ≤ now

/-- The requests that an open window still takes. -/
def room (window : GrantWindow) : ℕ := if window.start.isNone then 0 else 5 - window.count.getD 0

variable {window next : GrantWindow} {request : SshRequest} {requests : List SshRequest}

/-- A committed request opens a window or is counted in the one that is open. -/
theorem committed_cases (done : sshConnection window request = .ok next) :
    window.Idle request.now ∧ next = ⟨some request.now, some 1⟩ ∨
      next.start = window.start ∧ window.room = next.room + 1 := by
  obtain ⟨-, -, done⟩ := bind_eq_ok done
  obtain ⟨after, counted, done⟩ := bind_eq_ok done
  obtain ⟨-, -, ⟨⟩⟩ := bind_eq_ok done
  obtain ⟨_ | start, count⟩ := window
  · cases counted
    exact .inl ⟨by simp [Idle], rfl⟩
  · simp only [GrantWindow.request, Option.all_some, decide_eq_true_eq] at counted
    split_ifs at counted with ended full
    · cases counted
      refine .inl ⟨fun other opened => ?_, rfl⟩
      obtain rfl : start = other := Option.some.inj opened
      linarith
    · cases counted
      refine .inr ⟨rfl, ?_⟩
      simp only [room, Option.isNone_some, Bool.false_eq_true, if_false, Option.getD_some]
      omega

private theorem mem_grantTimes {time : Time} (granted : time ∈ grantTimes window requests) :
    ∃ request ∈ requests, request.now = time := by
  induction requests generalizing window with
  | nil => cases granted
  | cons request rest ih =>
    have later : ∀ {window}, time ∈ grantTimes window rest →
        ∃ other ∈ request :: rest, other.now = time := fun granted =>
      (ih granted).imp fun _ found => ⟨List.mem_cons_of_mem _ found.1, found.2⟩
    rw [grantTimes] at granted
    split at granted
    · rcases List.mem_cons.mp granted with rfl | granted
      · exact ⟨request, List.mem_cons_self, rfl⟩
      · exact later granted
    · exact later granted

/-- Behind the requests that the open window takes, any five more take ten seconds. -/
theorem le_of_mem_drop (ordered : requests.Pairwise fun earlier later => earlier.now ≤ later.now)
    {first : Time} (opens : ∀ request ∈ requests, window.Idle request.now → first ≤ request.now)
    (k : ℕ) : ∀ time ∈ (grantTimes window requests).drop (window.room + 5 * k),
      first + 10 * k ≤ time := by
  induction requests generalizing window first k with
  | nil => simp [grantTimes]
  | cons request rest ih =>
    obtain ⟨later, ordered⟩ := List.pairwise_cons.mp ordered
    have opens_rest : ∀ other ∈ rest, window.Idle other.now → first ≤ other.now :=
      fun other listed => opens other (List.mem_cons_of_mem _ listed)
    intro time granted
    rw [grantTimes] at granted
    split at granted
    next next done =>
      rcases committed_cases done with ⟨idle, rfl⟩ | ⟨same, counted⟩
      · have start := opens request List.mem_cons_self idle
        cases k with
        | zero =>
          rcases List.mem_cons.mp (List.mem_of_mem_drop granted) with rfl | granted
          · simpa using start
          · obtain ⟨other, listed, rfl⟩ := mem_grantTimes granted
            simpa using start.trans (later other listed)
        | succ k =>
          have opened : room ⟨some request.now, some 1⟩ = 4 := rfl
          rw [show window.room + 5 * (k + 1) = (4 + 5 * k + window.room) + 1 by omega,
            List.drop_succ_cons, ← List.drop_drop, ← opened] at granted
          have waited : request.now + 10 + 10 * k ≤ time :=
            ih ordered (fun other _ idle => idle _ rfl) k time (List.mem_of_mem_drop granted)
          push_cast
          linarith
      · rw [counted, show next.room + 1 + 5 * k = next.room + 5 * k + 1 by omega,
          List.drop_succ_cons] at granted
        refine ih ordered (fun other listed idle => opens_rest other listed ?_) k time granted
        rwa [Idle, ← same]
    next => exact ih ordered opens_rest k time granted

/-- Five grants for each ten seconds, and four of a window that was opened before. -/
theorem countP_grantTimes_le
    (ordered : requests.Pairwise fun earlier later => earlier.now ≤ later.now) {k : ℕ}
    {inside : Time → Bool}
    (short : ∀ first last, inside first → inside last → last < first + 10 * k)
    (opened : window.room ≤ 4) : (grantTimes window requests).countP inside ≤ 5 * k + 4 := by
  induction requests generalizing window with
  | nil => simp [grantTimes]
  | cons request rest ih =>
    obtain ⟨later, ordered_rest⟩ := List.pairwise_cons.mp ordered
    have waited : ∀ time ∈ (grantTimes window (request :: rest)).drop (window.room + 5 * k),
        request.now + 10 * k ≤ time :=
      le_of_mem_drop ordered (fun other listed _ =>
        (List.mem_cons.mp listed).elim (fun same => by rw [same]) (later other)) k
    rw [grantTimes] at waited ⊢
    split at waited
    next next done =>
      by_cases first : inside request.now
      · rw [← List.take_append_drop (window.room + 5 * k) (request.now :: _), List.countP_append]
        have rest_outside := List.countP_eq_zero.mpr fun time granted counted =>
          not_le.mpr (short _ time first counted) (waited time granted)
        have front := (List.countP_le_length (p := inside)).trans
          (List.length_take_le (window.room + 5 * k) (request.now :: grantTimes next rest))
        omega
      · rw [List.countP_cons_of_neg first]
        refine ih ordered_rest ?_
        rcases committed_cases done with ⟨-, rfl⟩ | ⟨-, counted⟩
        · exact le_refl 4
        · omega
    next => exact ih ordered_rest opened

end GrantWindow

/-- In every half-open interval of `10 * k` seconds at most `5 * k + 4` requests for a runtime
commit their window, however many of them fail and are rolled back. -/
theorem ssh_grant_rate (requests : List SshRequest)
    (ordered : requests.Pairwise fun earlier later => earlier.now ≤ later.now) (k : ℕ)
    (since : Time) :
    (grantTimes {} requests).countP (fun time => since ≤ time ∧ time < since + 10 * k) ≤ 5 * k + 4 ∧
    (grantTimes {} requests).countP (fun time => since < time ∧ time ≤ since + 10 * k) ≤
      5 * k + 4 := by
  constructor
  · refine GrantWindow.countP_grantTimes_le ordered (fun first last start stop => ?_) (by decide)
    linarith [(of_decide_eq_true start).1, (of_decide_eq_true stop).2]
  · refine GrantWindow.countP_grantTimes_le ordered (fun first last start stop => ?_) (by decide)
    linarith [(of_decide_eq_true start).1, (of_decide_eq_true stop).2]

/-- Four grants of a window that is about to end and five of the next one. -/
theorem nine_grants_in_ten_seconds :
    let times := grantTimes {} ([0, 9, 9, 9, 9, 9, 10, 10, 10, 10, 10, 10].map fun now => { now })
    times = [0, 9, 9, 9, 9, 10, 10, 10, 10, 10] ∧
      times.countP (fun time => (9 : Time) ≤ time ∧ time < 9 + 10 * (1 : ℕ)) ≤ 5 * 1 + 4 :=
  ⟨by decide +kernel, (ssh_grant_rate _ (by decide +kernel) 1 9).1⟩

end TrainingScheduler
