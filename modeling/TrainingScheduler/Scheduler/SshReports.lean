import TrainingScheduler.Scheduler.Connections
import TrainingScheduler.Scheduler.Generations

/-!
# Reports of SSH

A Worker reports the SSH side of a runtime with its heartbeats and events.  The host key of the
first report is kept.  The capability, which a start pins, is overwritten by every report that is
applied.
-/

namespace TrainingScheduler

/-- The SSH columns of a runtime that decide about grants and trust. -/
structure Shell where
  capable : Bool
  hostKey : Option String
  deriving DecidableEq, Repr

def Runtime.shell (runtime : Runtime) : Shell := ⟨runtime.sshCapable, runtime.sshHostKey⟩

/-- The key after a report: the known one, or the first that is reported. -/
def firstKey (known reported : Option String) : Option String :=
  if (presentKey known).isSome then known else (presentKey reported).or known

def Shell.report (shell : Shell) (ssh : SshReport) : Shell :=
  ⟨ssh.capable, firstKey shell.hostKey ssh.hostKey⟩

/-- The step carries an SSH report for an assignment. -/
def Act.Reports (assignmentId : UUID) (ssh : SshReport) : Act → Prop
  | .operate (.heartbeat _ _ body) =>
    ∃ report, body.report assignmentId = some report ∧ report.ssh = ssh
  | .operate (.event _ body) => body.assignmentId = assignmentId ∧ body.ssh = ssh
  | _ => False

section

variable {now : Time} {runtime : Runtime}

@[simp]
theorem stopRuntime_shell (code : Option FailureCode) (detail : Option String)
    (runtime : Runtime) : (stopRuntime code detail runtime).shell = runtime.shell := by
  unfold stopRuntime recordFailure
  split
  · rfl
  · split_ifs <;> rfl

@[simp]
theorem enforceStartup_shell (runtime : Runtime) :
    (enforceStartup now runtime).shell = runtime.shell := by
  unfold enforceStartup
  split
  · rfl
  · split_ifs <;> simp

@[simp]
theorem enforceLifetime_shell (runtime : Runtime) :
    (enforceLifetime now runtime).shell = runtime.shell := by
  unfold enforceLifetime
  split
  · rfl
  · split_ifs <;> simp

theorem applySsh_shell (ssh : SshReport) (runtime : Runtime) :
    (applySsh ssh runtime).1.shell = runtime.shell.report ssh := by
  unfold applySsh
  dsimp only
  split
  · rename_i new old _ known
    split
    · simp [Runtime.shell, Shell.report, firstKey, known]
    · rw [stopRuntime_shell]
      simp [Runtime.shell, Shell.report, firstKey, known]
  · rename_i new reported known
    simp [Runtime.shell, Shell.report, firstKey, reported, known]
  · rename_i reported
    simp [Runtime.shell, Shell.report, firstKey, reported]

private theorem applyReport_shell (report : Active) (runtime : Runtime) :
    (applyReport now report runtime).1.shell = runtime.shell.report report.ssh := by
  have reported := applySsh_shell report.ssh
    { runtime with health := some report.health, healthAt := some now }
  unfold applyReport
  dsimp only
  split_ifs
  · rw [stopRuntime_shell]
    exact reported
  · exact reported

private theorem heartbeatRuntime_shell (fresh : Bool) (body : Heartbeat) (assignment : Assignment)
    (runtime : Runtime) :
    (heartbeatRuntime now fresh body assignment runtime).shell = runtime.shell ∨
      ∃ report, body.report assignment.id = some report ∧
        (heartbeatRuntime now fresh body assignment runtime).shell =
          runtime.shell.report report.ssh := by
  have lost (row : Runtime) : (loseRuntime row).shell = row.shell := by
    unfold loseRuntime
    split_ifs <;> rfl
  have chosen : (heartbeatRuntime now fresh body assignment runtime).shell =
      (reviewRuntime now
        (reportValid now fresh body.instanceId assignment (body.report assignment.id))
        (body.report assignment.id) runtime).1.shell := by
    unfold heartbeatRuntime
    dsimp only
    split_ifs
    · rfl
    · exact lost _
  rw [chosen]
  unfold reviewRuntime
  dsimp only
  split
  · rename_i report _ found
    refine .inr ⟨report, found, ?_⟩
    rw [applyReport_shell, enforceLifetime_shell, enforceStartup_shell]
  · exact .inl (by rw [enforceLifetime_shell, enforceStartup_shell])

private theorem eventTransition_shell {body : Event} {moved : Runtime} {assignment : Assignment}
    {state : AssignmentState}
    (moves : eventTransition now body runtime assignment = .ok (moved, state)) :
    moved.shell = runtime.shell ∨ moved.shell = runtime.shell.report body.ssh := by
  unfold eventTransition at moves
  split_ifs at moves
  · cases moves
    exact .inl (stopRuntime_shell _ _ _)
  · cases moves
    exact .inr (applySsh_shell _ _)
  · cases moves
    exact .inl rfl

theorem ownerStop_shell (runtime : Runtime) : (ownerStop now runtime).shell = runtime.shell := by
  have stopped := stopRuntime_shell none none runtime
  unfold ownerStop
  split_ifs <;> exact stopped

theorem leaseLost_shell (runtime : Runtime) : (leaseLost runtime).shell = runtime.shell := by
  unfold leaseLost
  split_ifs <;> rfl

private theorem releaseController_shell (token : UUID) (runtime : Runtime) :
    (releaseController token runtime).shell = runtime.shell := by
  unfold releaseController
  split_ifs <;> rfl

variable {digest : Digest} {control : Control} {act : Act} {before after : Tenure}
  {held : List Assignment}

theorem Alters.shell (alters : Alters digest now control runtime held act after) :
    after.runtime.shell = runtime.shell ∨ ∃ assignment ∈ held, ∃ ssh,
      act.Reports assignment.id ssh ∧ after.runtime.shell = runtime.shell.report ssh := by
  cases alters with
  | granted | reserved | revoked | released => exact .inl rfl
  | @beaten _ _ body assignment fresh member worker unreleased =>
    rcases heartbeatRuntime_shell fresh body assignment runtime with same | ⟨report, found, same⟩
    · exact .inl same
    · exact .inr ⟨assignment, member, report.ssh, ⟨report, found, rfl⟩, same⟩
  | @reported _ body _ assignment _ member named unreleased alive moves =>
    rcases eventTransition_shell moves with same | same
    · exact .inl same
    · exact .inr ⟨assignment, member, body.ssh, ⟨named.symm, rfl⟩, same⟩
  | interrupted | acknowledged | rejected | cleaned => exact .inl (stopRuntime_shell _ _ _)
  | expired => exact .inl (leaseLost_shell _)
  | stopped => exact .inl (ownerStop_shell _)
  | locked =>
    left
    change (reconcileReview _ _ _).shell = _
    unfold reconcileReview
    dsimp only
    split_ifs <;> simp
  | served => exact .inl (by unfold Pass.markServed; split_ifs <;> rfl)
  | backedOff => exact .inl (by unfold Pass.backOff; split_ifs <;> rfl)
  | enrolled | dropped => exact .inl (releaseController_shell _ _)

theorem Alters.held_before (alters : Alters digest now control runtime held act after)
    {assignment : Assignment} (member : assignment ∈ after.held) {ssh : SshReport}
    (reports : act.Reports assignment.id ssh) : ∃ old ∈ held, old.id = assignment.id := by
  have updated {id : UUID} {f : Assignment → Assignment}
      (keeps : ∀ row, (f row).id = row.id) (member : assignment ∈ updateHeld id f held) :
      ∃ old ∈ held, old.id = assignment.id := by
    rcases Table.mem_rewriteAt.mp member with ⟨stored, -⟩ | ⟨old, stored, -, rfl⟩
    · exact ⟨assignment, stored, rfl⟩
    · exact ⟨old, stored, (keeps old).symm⟩
  cases alters with
  | beaten => exact updated (concludeHeartbeat_id _ _ _) member
  | reported => exact updated (f := eventRow _ _ _) (fun _ => rfl) member
  | dropped => exact ⟨assignment, member, rfl⟩
  | granted | interrupted | acknowledged | cleaned | expired | stopped | locked | reserved
  | enrolled | revoked | released | served | rejected | backedOff => cases reports

/-- Every report for the assignments of a tenure has the capability that the runtime has. -/
def Tenure.Faithful (act : Act) (tenure : Tenure) : Prop :=
  ∀ assignment ∈ tenure.held, ∀ ssh, act.Reports assignment.id ssh →
    ssh.capable = tenure.runtime.sshCapable

theorem Altered.capable (altered : Altered digest now control act before after)
    (faithful : before.Faithful act) :
    after.runtime.sshCapable = before.runtime.sshCapable ∧ after.Faithful act := by
  induction altered with
  | refl => exact ⟨rfl, faithful⟩
  | @tail middle after _ alters induction =>
    obtain ⟨same, faithful⟩ := induction
    have kept : after.runtime.sshCapable = middle.runtime.sshCapable := by
      rcases alters.shell with kept | ⟨assignment, held, ssh, reports, kept⟩
      · exact congrArg Shell.capable kept
      · exact (congrArg Shell.capable kept).trans (faithful assignment held ssh reports)
    refine ⟨kept.trans same, fun assignment held ssh reports => ?_⟩
    obtain ⟨old, old_held, named⟩ := alters.held_before held reports
    exact (faithful old old_held ssh (named ▸ reports)).trans kept.symm

end

/-- Every report of the step about a runtime has the capability that the runtime has. -/
def Control.Faithful (control : Control) (runtimeId : UUID) (act : Act) : Prop :=
  ∀ runtime ∈ control.db.runtimes.rows, runtime.id = runtimeId →
    (control.db.tenure runtime).Faithful act

/-- One step of a run. -/
def Control.tick (digest : Digest) (control : Control) (event : Time × Act) : Control :=
  control.perform digest event.1 event.2

/-- In every run whose reports about a runtime are faithful, the capability stays what it was, and
without it the runtime never becomes eligible for an SSH grant. -/
theorem ssh_capability_pinned (digest : Digest) (workers : Table Worker.workerId)
    (jobs : Table Job.id) (acts later : List (Time × Act)) :
    let middle := (Control.initial workers jobs).performAll digest acts
    let last := middle.performAll digest later
    ∀ runtime ∈ middle.db.runtimes.rows,
      Machine.Throughout (Control.tick digest)
        (fun control event => control.Faithful runtime.id event.2) middle later →
      ∃ next ∈ last.db.runtimes.rows, next.id = runtime.id ∧
        next.sshCapable = runtime.sshCapable ∧
        (runtime.sshCapable = false → ∀ now, sshGrantReady now last.db next = false) := by
  intro middle last runtime member faithful
  have sound : middle.Sound := ((Control.initial_sound workers jobs).performAll acts).1
  have kept := @Machine.Throughout.invariant _ _ (Control.tick digest)
    (fun control event => control.Faithful runtime.id event.2)
    (fun control => control.Sound ∧ ∃ next ∈ control.db.runtimes.rows, next.id = runtime.id ∧
      next.sshCapable = runtime.sshCapable) ?_ middle
    ⟨sound, runtime, member, rfl, rfl⟩ later faithful
  · obtain ⟨-, next, next_mem, named, capable⟩ := kept
    refine ⟨next, next_mem, named, capable, fun incapable now => ?_⟩
    simp [sshGrantReady, capable, incapable]
  · rintro control ⟨now, act⟩ ⟨sound, old, old_mem, named, capable⟩ faithful
    obtain ⟨next, next_mem, same, altered⟩ := @Control.Sound.altered digest now control old sound
      act old_mem
    have kept := (Altered.capable altered (faithful old old_mem named)).1
    exact ⟨(sound.perform now act).1, next, next_mem, same.trans named, kept.trans capable⟩

namespace Deployment

def wellHealth : Health := ⟨true, true, true, true⟩

def phaseEvent (sequence : ℕ) (phase : Phase) (ssh : SshReport) : Act :=
  .operate (.event 1 { toFence := runtimeFence, sequence, phase, health := wellHealth, ssh })

/-- The runtime is started without SSH, placed, enrolled and becomes ready. -/
def readyActs (ssh : SshReport) : List (Time × Act) :=
  [(0, startRuntime), (0, placeRuntime), (1, phaseEvent 1 .starting ssh),
    (1, .bootstrap 0 900 1 runtimeFence), (1, .answer 0 (.ok (.key 700))), (1, .conclude 0),
    (1, .close 0), (2, phaseEvent 2 .connecting ssh), (2, .select 1), (2, .lock 1 901),
    (2, .answer 1 (.ok (.status .confirmed))), (2, .answer 1 (.ok (.endpoint 800 .registered))),
    (2, .answer 1 (.ok (.endpoint 800 .ready))), (2, .conclude 1), (2, .close 1)]

def readied (ssh : SshReport) : Control :=
  (Control.initial db.workers db.jobs).performAll digest (readyActs ssh)

def sshBeat (sequence : ℕ) (ssh : SshReport) : Act :=
  .operate (.heartbeat settings 1
    { instanceId := 10, sequence, paused := false, draining := false
      inventory := { inventory with observedAt := 3, mode := .interactiveActive }
      assignments := [{ toFence := runtimeFence, health := wellHealth, ssh }] })

/-- Reports without the capability leave the runtime without it. -/
theorem faithful_beat_pinned :
    ∃ runtime ∈ (readied {}).db.runtimes.rows, runtime.sshCapable = false ∧
      ∃ next ∈ ((readied {}).performAll digest [(3, sshBeat 1 {})]).db.runtimes.rows,
        next.id = runtime.id ∧ next.sshCapable = runtime.sshCapable := by
  obtain ⟨runtime, member⟩ := List.exists_mem_of_ne_nil (readied {}).db.runtimes.rows
    (by decide +kernel)
  have incapable : ∀ runtime ∈ (readied {}).db.runtimes.rows, runtime.sshCapable = false := by
    decide +kernel
  have faithful : (readied {}).Faithful runtime.id (sshBeat 1 {}) := by
    rintro other other_mem - assignment - ssh ⟨report, found, rfl⟩
    cases List.mem_singleton.mp (List.mem_of_find?_eq_some found)
    exact (incapable other other_mem).symm
  obtain ⟨next, next_mem, named, capable, -⟩ := ssh_capability_pinned digest db.workers db.jobs
    (readyActs {}) [(3, sshBeat 1 {})] runtime member ⟨faithful, trivial⟩
  exact ⟨runtime, member, incapable runtime member, next, next_mem, named, capable⟩

def sshReport (key : String) : SshReport := { capable := true, ready := true, hostKey := some key }

/-- A runtime started without SSH becomes eligible for an SSH grant by a report. -/
theorem reported_capability_granted :
    (∀ runtime ∈ (readied {}).db.runtimes.rows, runtime.sshCapable = false) ∧
      ∃ runtime ∈ ((readied {}).perform digest 3 (sshBeat 1 (sshReport "key"))).db.runtimes.rows,
        runtime.sshCapable = true ∧ sshGrantReady 3
          ((readied {}).perform digest 3 (sshBeat 1 (sshReport "key"))).db runtime = true := by
  decide +kernel

end Deployment

end TrainingScheduler
