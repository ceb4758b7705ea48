import TrainingScheduler.Programs
import TrainingScheduler.Scheduler.Reconciliation

/-!
# What a step can do to a runtime

A tenure is a runtime with the assignments that were granted for it.  Every step of the Scheduler
but a start rewrites the tenures in place, and `Alters` lists everything that may happen to one of
them; a start adds one runtime.
-/

namespace TrainingScheduler

open Table

/-- A runtime with the assignments that were granted for it. -/
structure Tenure where
  runtime : Runtime
  held : List Assignment

def Db.held (db : Db) (runtimeId : UUID) : List Assignment :=
  db.assignments.rows.filter fun assignment => assignment.runtimeId == some runtimeId

def Db.tenure (db : Db) (runtime : Runtime) : Tenure := ⟨runtime, db.held runtime.id⟩

def updateHeld (assignmentId : UUID) (f : Assignment → Assignment) (held : List Assignment) :
    List Assignment :=
  Table.rewriteAt (fun row : Assignment => row.id) assignmentId f held

@[simp]
theorem updateHeld_singleton (f : Assignment → Assignment) (assignment : Assignment) :
    updateHeld assignment.id f [assignment] = [f assignment] := by
  simp [updateHeld, rewriteAt]

theorem mem_held {db : Db} {runtimeId : UUID} {assignment : Assignment} :
    assignment ∈ db.held runtimeId ↔
      assignment ∈ db.assignments.rows ∧ assignment.runtimeId = some runtimeId := by
  simp [Db.held]

section

variable {before after : Db} {assignment : Assignment} {f : Assignment → Assignment}

theorem held_rewritten
    (rows : after.assignments.rows = rewriteAt (fun row : Assignment => row.id) assignment.id
      f before.assignments.rows)
    (member : assignment ∈ before.assignments.rows)
    (target : (f assignment).runtimeId = assignment.runtimeId) (runtimeId : UUID) :
    after.held runtimeId = updateHeld assignment.id f (before.held runtimeId) := by
  unfold Db.held
  rw [rows]
  refine filter_rewriteAt ?_
  intro row row_mem selected
  obtain rfl := before.assignments.eq_of_key_eq row_mem member selected
  rw [target]

theorem updateHeld_other (member : assignment ∈ before.assignments.rows) {runtimeId : UUID}
    (other : assignment.runtimeId ≠ some runtimeId) :
    updateHeld assignment.id f (before.held runtimeId) = before.held runtimeId := by
  refine rewriteAt_of_absent ?_
  intro row row_held selected
  obtain ⟨row_mem, target⟩ := mem_held.mp row_held
  obtain rfl := before.assignments.eq_of_key_eq row_mem member selected
  exact other target

theorem held_appended (rows : after.assignments.rows = before.assignments.rows ++ [assignment])
    (runtimeId : UUID) :
    after.held runtimeId =
      before.held runtimeId ++
        if assignment.runtimeId = some runtimeId then [assignment] else [] := by
  unfold Db.held
  rw [rows, List.filter_append]
  split_ifs with target <;> simp [target]

end

namespace Db

/-- The runtimes of two databases are the same rows, and their tenures are related. -/
def Follows (relation : Tenure → Tenure → Prop) (before after : Db) : Prop :=
  before.runtimes.Rowwise
    (fun row next => next.id = row.id ∧ relation (before.tenure row) (after.tenure next))
    after.runtimes

namespace Follows

variable {relation : Tenure → Tenure → Prop} [IsPreorder Tenure relation] {before middle after : Db}

theorem refl (db : Db) : db.Follows relation db :=
  Table.Rowwise.refl (fun row => ⟨rfl, refl_of relation (db.tenure row)⟩) _

theorem trans (first : before.Follows relation middle) (second : middle.Follows relation after) :
    before.Follows relation after :=
  first.comp second fun left right => ⟨right.1.trans left.1, trans_of relation left.2 right.2⟩

/-- Nothing happened to a runtime or to an assignment of one. -/
theorem elsewhere (runtimes : after.runtimes = before.runtimes)
    (held : ∀ runtimeId, after.held runtimeId = before.held runtimeId) :
    before.Follows relation after := by
  unfold Follows
  rw [runtimes]
  refine Table.Rowwise.refl (fun row => ⟨rfl, ?_⟩) _
  have same : after.tenure row = before.tenure row := by simp [tenure, held]
  rw [same]
  exact refl_of relation _

variable {runtimeId : UUID}

section

variable {f : Runtime → Runtime}
  (runtimes : after.runtimes.rows = Table.rewriteAt Runtime.id runtimeId f before.runtimes.rows)
  (keeps : ∀ runtime, (f runtime).id = runtime.id)

include runtimes keeps

theorem rewritten (others : ∀ other, other ≠ runtimeId → after.held other = before.held other)
    (row : ∀ runtime ∈ before.runtimes.rows, runtime.id = runtimeId →
      relation (before.tenure runtime) ⟨f runtime, after.held runtime.id⟩) :
    before.Follows relation after := by
  simp only [Follows, Table.Rowwise, runtimes, rewriteAt, List.forall₂_map_right_iff]
  rw [List.forall₂_same]
  intro runtime member
  by_cases selected : runtime.id = runtimeId
  · simpa [tenure, selected, keeps] using row runtime member selected
  · have same : after.tenure runtime = before.tenure runtime := by
      simp [tenure, others runtime.id selected]
    simpa [selected, same] using refl_of relation (before.tenure runtime)

theorem modified (assignments : after.assignments = before.assignments)
    (row : ∀ runtime ∈ before.runtimes.rows, runtime.id = runtimeId →
      relation (before.tenure runtime) ⟨f runtime, before.held runtime.id⟩) :
    before.Follows relation after := by
  have held (other : UUID) : after.held other = before.held other := by
    unfold Db.held
    rw [assignments]
  refine rewritten runtimes keeps (fun other _ => held other) ?_
  intro runtime member selected
  rw [held]
  exact row runtime member selected

end

variable {assignment : Assignment} {g : Assignment → Assignment}
  (member : assignment ∈ before.assignments.rows) (assignments : after.assignments.rows =
    rewriteAt (fun row : Assignment => row.id) assignment.id g before.assignments.rows)
  (same : (g assignment).runtimeId = assignment.runtimeId)

include member assignments same

theorem paired {f : Runtime → Runtime} (target : assignment.runtimeId = some runtimeId)
    (runtimes : after.runtimes.rows = rewriteAt Runtime.id runtimeId f before.runtimes.rows)
    (keeps : ∀ runtime, (f runtime).id = runtime.id)
    (row : ∀ runtime ∈ before.runtimes.rows, runtime.id = runtimeId →
      assignment ∈ before.held runtime.id →
      relation (before.tenure runtime)
        ⟨f runtime, updateHeld assignment.id g (before.held runtime.id)⟩) :
    before.Follows relation after := by
  have held := held_rewritten assignments member same
  refine rewritten runtimes keeps ?_ ?_
  · intro other ne
    rw [held, updateHeld_other member]
    rw [target]
    exact fun equal => ne (Option.some.inj equal).symm
  · intro runtime runtime_mem selected
    rw [held]
    exact row runtime runtime_mem selected (mem_held.mpr ⟨member, selected ▸ target⟩)

theorem unpaired (job : assignment.runtimeId = none) (runtimes : after.runtimes = before.runtimes) :
    before.Follows relation after := by
  refine elsewhere runtimes ?_
  intro runtimeId
  rw [held_rewritten assignments member same, updateHeld_other member]
  simp [job]

end Follows
end Db

/-- Whether a heartbeat renews the assignment of a runtime. -/
def renewal (now : Time) (fresh : Bool) (body : Heartbeat) (assignment : Assignment)
    (runtime : Runtime) : Bool :=
  (reviewRuntime now (reportValid now fresh body.instanceId assignment (body.report assignment.id))
    (body.report assignment.id) runtime).2

def loseRow (assignment : Assignment) : Assignment := { assignment with state := .lost }

/-- The row of an assignment after an event. -/
def eventRow (digest : Digest) (body : Event) (state : AssignmentState) (assignment : Assignment) :
    Assignment :=
  { assignment with
    state := state
    eventSequence := body.sequence
    eventHash := some (digest.event body) }

/-- The runtime with the revocation that a pass records. -/
def recordRevocation (outcome : Outcome) (runtime : Runtime) : Runtime :=
  { runtime with enrollmentId := outcome.enrollment, managementRevoked := outcome.revoked }

/-- The runtime with the enrollment that a bootstrap request records. -/
def recordEnrollment (boot : Boot) (reply : EnrollmentReply) (runtime : Runtime) : Runtime :=
  { runtime with enrollmentId := reply.enrollmentId <|> boot.call.enrollment }

section

variable (digest : Digest) (now : Time) (control : Control) (runtime : Runtime)
  (held : List Assignment)

/-- What a step may make of one tenure. -/
inductive Alters : Act → Tenure → Prop where
  | granted {settings : Settings} {choose : Choose} {newId : Nat → UUID × UUID} {workerId : UUID}
      {body : Claim} {assignment : Assignment} (queued : runtime.state = .queued)
      (running : runtime.desiredState = .running)
      (target : assignment.runtimeId = some runtime.id) (claimed : assignment.state = .claimed)
      (unreleased : assignment.Unreleased) (unacknowledged : assignment.cleanupAck = false) :
      Alters (.operate (.claim settings choose newId workerId body))
        ⟨assignRuntime settings now assignment.id runtime, held ++ [assignment]⟩
  | beaten {settings : Settings} {workerId : UUID} {body : Heartbeat} {assignment : Assignment}
      (fresh : Bool) (member : assignment ∈ held) (worker : assignment.workerId = workerId)
      (unreleased : assignment.Unreleased) :
      Alters (.operate (.heartbeat settings workerId body))
        ⟨heartbeatRuntime now fresh body assignment runtime,
          updateHeld assignment.id
            (concludeHeartbeat settings now (renewal now fresh body assignment runtime)) held⟩
  | reported {workerId : UUID} {body : Event} {moved : Runtime} {assignment : Assignment}
      {state : AssignmentState} (member : assignment ∈ held)
      (named : assignment.id = body.assignmentId) (unreleased : assignment.Unreleased)
      (alive : assignment.state ≠ .lost)
      (moves : eventTransition now body runtime assignment = .ok (moved, state)) :
      Alters (.operate (.event workerId body))
        ⟨moved, updateHeld assignment.id (eventRow digest body state) held⟩
  | interrupted {workerId : UUID} {body : Register} {assignment : Assignment}
      (member : assignment ∈ held) (worker : assignment.workerId = workerId)
      (unreleased : assignment.Unreleased)
      (restarted : control.db.currentInstance workerId ≠ some body.instanceId) :
      Alters (.operate (.register workerId body))
        ⟨stopRuntime (some .interrupted) none runtime, updateHeld assignment.id loseRow held⟩
  | acknowledged {workerId : UUID} {body : Cleanup} {assignment : Assignment}
      (member : assignment ∈ held) (named : assignment.id = body.assignmentId)
      (unreleased : assignment.Unreleased) (unrevoked : runtime.managementRevoked = false) :
      Alters (.operate (.cleanup workerId body))
        ⟨stopRuntime body.failureCode none runtime, updateHeld assignment.id acknowledge held⟩
  | cleaned {workerId : UUID} {body : Cleanup} {assignment : Assignment}
      (member : assignment ∈ held) (named : assignment.id = body.assignmentId)
      (unreleased : assignment.Unreleased) (revoked : runtime.managementRevoked = true) :
      Alters (.operate (.cleanup workerId body))
        ⟨finishRuntime now (stopRuntime body.failureCode none runtime),
          updateHeld assignment.id (fun row => releaseRow now (acknowledge row)) held⟩
  | expired {assignment : Assignment} (member : assignment ∈ held)
      (unreleased : assignment.Unreleased) (late : assignment.leaseUntil ≤ now) :
      Alters (.operate .expire) ⟨leaseLost runtime, updateHeld assignment.id loseRow held⟩
  | stopped {owner : UUID} : Alters (.stop owner runtime.id) ⟨ownerStop now runtime, held⟩
  | locked {flight : ℕ} {token : UUID} {assignment : Assignment}
      (selected : control.flights flight = some (.selected runtime.id assignment)) :
      Alters (.lock flight token) ⟨lockedRuntime token now assignment.leaseUntil runtime, held⟩
  | reserved {flight : ℕ} {token workerId : UUID} {body : Fence}
      (running : runtime.desiredState = .running)
      (starting : runtime.state = .starting ∨ runtime.state = .connecting) :
      Alters (.bootstrap flight token workerId body) ⟨reserveController token now runtime, held⟩
  | enrolled {flight : ℕ} {boot : Boot} {reply : EnrollmentReply}
      (recording : control.flights flight = some (.bootstrapping boot (.recording reply)))
      (mine : boot.call.runtimeId = runtime.id) :
      Alters (.conclude flight)
        ⟨releaseController boot.token (recordEnrollment boot reply runtime), held⟩
  | revoked {flight : ℕ} {pass : Pass} {outcome : Outcome} {assignment : Assignment}
      (concluding : control.flights flight = some (.reconciling pass (.concluding outcome)))
      (mine : pass.runtimeId = runtime.id) (desired : pass.desired = .stopped)
      (member : assignment ∈ held) (named : assignment.id = pass.assignmentId)
      (kept : ¬assignment.Unreleased ∨ assignment.cleanupAck = false ∨ outcome.revoked = false) :
      Alters (.conclude flight) ⟨recordRevocation outcome runtime, held⟩
  | released {flight : ℕ} {pass : Pass} {outcome : Outcome} {assignment : Assignment}
      (concluding : control.flights flight = some (.reconciling pass (.concluding outcome)))
      (mine : pass.runtimeId = runtime.id) (desired : pass.desired = .stopped)
      (stopping : runtime.desiredState = .stopped) (member : assignment ∈ held)
      (named : assignment.id = pass.assignmentId) (unreleased : assignment.Unreleased)
      (acknowledged : assignment.cleanupAck = true) (revoked : outcome.revoked = true) :
      Alters (.conclude flight)
        ⟨finishRuntime now (recordRevocation outcome runtime),
          updateHeld assignment.id (releaseRow now) held⟩
  | served {flight : ℕ} {pass : Pass} {outcome : Outcome} {version : UUID}
      {state : Management.EndpointState} {assignment : Assignment}
      (concluding : control.flights flight = some (.reconciling pass (.concluding outcome)))
      (mine : pass.runtimeId = runtime.id) (member : assignment ∈ held)
      (servable : Pass.servable now runtime assignment = true) :
      Alters (.conclude flight) ⟨Pass.markServed now version state runtime, held⟩
  | rejected {flight : ℕ} {pass : Pass}
      (rejecting : control.flights flight = some (.reconciling pass .rejecting))
      (mine : pass.runtimeId = runtime.id) :
      Alters (.reject flight) ⟨stopRuntime (some .startFailed) none runtime, held⟩
  | backedOff {flight : ℕ} {token : UUID} :
      Alters (.close flight) ⟨Pass.backOff token now runtime, held⟩
  | dropped {act : Act} {token : UUID} : Alters act ⟨releaseController token runtime, held⟩

end

/-- A finite sequence of changes that one step makes to one tenure. -/
abbrev Altered (digest : Digest) (now : Time) (control : Control) (act : Act) :
    Tenure → Tenure → Prop :=
  Relation.ReflTransGen fun before => Alters digest now control before.runtime before.held act

section

variable {digest : Digest} {now : Time} {control : Control} {act : Act} {after db : Db}
  {workerId runtimeId : UUID} {body : Heartbeat} {assignment : Assignment} {runtime : Runtime}
  {settings : Settings} {flight : ℕ} {pass : Pass}

theorem Db.Follows.foldl_live {step : Db → Assignment → Db}
    (effect : ∀ (db : Db) (assignment : Assignment), assignment ∈ db.assignments.rows →
      assignment.workerId = workerId ∧ assignment.Unreleased →
      db.Follows (Altered digest now control act) (step db assignment))
    (frame : ∀ (db : Db) (assignment other : Assignment), other ∈ db.assignments.rows →
      other.id ≠ assignment.id → other ∈ (step db assignment).assignments.rows) (db : Db) :
    db.Follows (Altered digest now control act) ((live db workerId).foldl step db) :=
  foldl_live_related .refl .trans effect frame db

theorem Db.Follows.modifyWorker (db : Db) (workerId : UUID) (f : Worker → Worker)
    (keeps : ∀ worker, (f worker).workerId = worker.workerId) :
    db.Follows (Altered digest now control act) (db.modifyWorker workerId f keeps) :=
  .elsewhere rfl fun _ => rfl

theorem interruptAssignment_follows {body : Register}
    (restarted : control.db.currentInstance workerId ≠ some body.instanceId) (db : Db)
    (assignment : Assignment) (member : assignment ∈ db.assignments.rows)
    (visited : assignment.workerId = workerId ∧ assignment.Unreleased) :
    db.Follows (Altered digest now control (.operate (.register workerId body)))
      (interruptAssignment db assignment) := by
  unfold interruptAssignment
  cases target : assignment.runtimeId with
  | none => exact .unpaired member rfl rfl target rfl
  | some runtimeId =>
    refine .paired (g := loseRow) member rfl rfl target rfl (by simp) ?_
    intro runtime _ _ held
    exact .single (.interrupted held visited.1 visited.2 restarted)

theorem register_follows (workerId : UUID) (body : Register) :
    control.db.Follows (Altered digest now control (.operate (.register workerId body)))
      (register now control.db workerId body).2 := by
  have ensured : control.db.Follows (Altered digest now control
      (.operate (.register workerId body))) (ensureWorker control.db workerId body) :=
    .elsewhere rfl fun _ => rfl
  unfold register
  dsimp only
  refine ensured.trans (.trans ?_ (.modifyWorker _ _ _ _))
  split_ifs with restarted
  · rw [← Db.currentInstance, currentInstance_ensureWorker, bne_iff_ne] at restarted
    exact .foldl_live (interruptAssignment_follows restarted) interruptAssignment_frame _
  · exact .refl _

/-- Whether a heartbeat renews an assignment is decided on its runtime. -/
theorem renews_eq_renewal {fresh : Bool} (member : runtime ∈ db.runtimes.rows)
    (target : assignment.runtimeId = some runtime.id) :
    renews now fresh body db assignment = renewal now fresh body assignment runtime := by
  have found : runtimeOf db assignment = some runtime := by
    rw [runtimeOf, target]
    exact lookup_of_mem member
  simp [renews, found, renewal]

theorem concludeHeartbeat_runtimeId (settings : Settings) (valid : Bool) (assignment : Assignment) :
    (concludeHeartbeat settings now valid assignment).runtimeId = assignment.runtimeId := by
  unfold concludeHeartbeat
  split_ifs <;> rfl

theorem heartbeatAssignment_follows (fresh : Bool) (db : Db) (assignment : Assignment)
    (member : assignment ∈ db.assignments.rows)
    (visited : assignment.workerId = workerId ∧ assignment.Unreleased) :
    db.Follows (Altered digest now control (.operate (.heartbeat settings workerId body)))
      (heartbeatAssignment settings now fresh body assignment db) := by
  unfold heartbeatAssignment
  dsimp only
  cases target : assignment.runtimeId with
  | none =>
    exact .unpaired member rfl (concludeHeartbeat_runtimeId _ _ _) target rfl
  | some runtimeId =>
    refine .paired member rfl (concludeHeartbeat_runtimeId _ _ _) target rfl (by simp) ?_
    intro runtime runtime_mem selected held
    rw [renews_eq_renewal runtime_mem (selected ▸ target)]
    exact .single (.beaten fresh held visited.1 visited.2)

theorem heartbeat_follows {reply : HeartbeatReply}
    (accepted : heartbeat settings now control.db workerId body = .ok (reply, after)) :
    control.db.Follows (Altered digest now control (.operate (.heartbeat settings workerId body)))
      after := by
  unfold heartbeat at accepted
  split at accepted
  · cases accepted
  · split_ifs at accepted
    cases accepted
    have decided (db : Db) : db.Follows
        (Altered digest now control (.operate (.heartbeat settings workerId body)))
        (heartbeatLoop settings now (body.fresh settings now) body (live db workerId) db).1 := by
      rw [heartbeatLoop_fst]
      exact .foldl_live (heartbeatAssignment_follows (body.fresh settings now))
        (heartbeatAssignment_frame settings (body.fresh settings now) body) db
    exact .trans (.modifyWorker _ _ _ _) ((decided _).trans (.modifyWorker _ _ _ _))

theorem event_follows {body : Event} {reply : EventReply}
    (accepted : event digest now control.db workerId body = .ok (reply, after)) :
    control.db.Follows (Altered digest now control (.operate (.event workerId body))) after := by
  rcases event_eq_ok accepted with rfl | ⟨assignment, member, runtime, moved, state, named,
    unreleased, alive, target, stored, moves, rfl⟩
  · exact .refl _
  · refine .paired (g := eventRow digest body state) member rfl rfl target rfl (fun _ => rfl) ?_
    intro row row_mem selected held
    obtain rfl := control.db.runtimes.eq_of_key_eq row_mem stored selected
    have same_id : moved.id = row.id := by
      unfold eventTransition at moves
      split_ifs at moves <;> cases moves <;> simp
    have same : ({ moved with id := row.id } : Runtime) = moved := by
      rw [← same_id]
    rw [same]
    exact .single (.reported held named unreleased alive moves)

theorem runtimeId_of_jobId (job : assignment.jobId ≠ none) : assignment.runtimeId = none := by
  unfold Assignment.jobId at job
  unfold Assignment.runtimeId
  cases target : assignment.target with
  | estimation | batch => rfl
  | interactive runtimeId generation =>
    rw [target] at job
    exact absurd rfl job

theorem result_follows {body : Result}
    (accepted : result digest now control.db workerId body = .ok after) :
    control.db.Follows (Altered digest now control act) after := by
  revert accepted
  fun_cases result digest now control.db workerId body <;> intro accepted <;> cases accepted
  rename_i passed job _ _
  refine .unpaired (mem_of_fence passed).1 rfl rfl (runtimeId_of_jobId ?_) rfl
  simpa using job

private theorem target_of_runtimeId (target : assignment.runtimeId = some runtimeId) :
    ∃ generation, assignment.target = .interactive runtimeId generation := by
  unfold Assignment.runtimeId at target
  cases form : assignment.target with
  | estimation | batch =>
    rw [form] at target
    cases target
  | interactive other generation =>
    rw [form] at target
    cases target
    exact ⟨generation, rfl⟩

theorem releaseIfClean_interactive (target : assignment.runtimeId = some runtimeId) :
    (releaseIfClean now db assignment).2 = db ∧
        (∀ runtime ∈ db.runtimes.rows, runtime.id = runtimeId → ¬assignment.Unreleased ∨
          assignment.cleanupAck = false ∨ runtime.managementRevoked = false) ∨
      (releaseIfClean now db assignment).2 =
          (db.modifyRuntime runtimeId (finishRuntime now) fun _ => rfl).modifyAssignment
            assignment.id (releaseRow now) (fun _ => rfl) ∧
        assignment.Unreleased ∧ assignment.cleanupAck = true ∧
        ∀ runtime ∈ db.runtimes.rows, runtime.id = runtimeId →
          runtime.managementRevoked = true := by
  have found {runtime : Runtime} (member : runtime ∈ db.runtimes.rows)
      (selected : runtime.id = runtimeId) : runtimeOf db assignment = some runtime := by
    rw [runtimeOf, target, ← selected]
    exact lookup_of_mem member
  obtain ⟨generation, shape⟩ := target_of_runtimeId target
  unfold releaseIfClean
  split_ifs with released unacknowledged holds
  · exact .inl ⟨rfl, fun _ _ _ => .inl (Option.isSome_iff_ne_none.mp released)⟩
  · exact .inl ⟨rfl, fun _ _ _ => .inr (.inl (by simpa using unacknowledged))⟩
  · refine .inl ⟨rfl, fun runtime member selected => .inr (.inr ?_)⟩
    simpa [holdsRuntime, found member selected] using holds
  · refine .inr ⟨by rw [settleTarget, shape], by simpa using released,
      by simpa using unacknowledged, ?_⟩
    intro runtime member selected
    simpa [holdsRuntime, found member selected] using holds

theorem stopRuntime_managementRevoked (code : Option FailureCode) (detail : Option String)
    (runtime : Runtime) :
    (stopRuntime code detail runtime).managementRevoked = runtime.managementRevoked := by
  unfold stopRuntime recordFailure
  split
  · rfl
  · split_ifs <;> rfl

private theorem releaseIfClean_follows_job (member : assignment ∈ db.assignments.rows)
    (job : assignment.runtimeId = none) :
    db.Follows (Altered digest now control act) (releaseIfClean now db assignment).2 := by
  unfold releaseIfClean
  split_ifs with released unacknowledged holds
  · exact .refl _
  · exact .refl _
  · exact .refl _
  · unfold settleTarget
    split
    · rename_i runtimeId generation shape
      rw [Assignment.runtimeId, shape] at job
      cases job
    · exact .unpaired member rfl rfl job rfl
    · exact .unpaired member rfl rfl job rfl

private theorem cleanup_follows_runtime {body : Cleanup} {acked : Db}
    (member : assignment ∈ db.assignments.rows) (named : assignment.id = body.assignmentId)
    (unreleased : assignment.Unreleased) (target : assignment.runtimeId = some runtimeId)
    (runtimes : acked.runtimes.rows = rewriteAt Runtime.id runtimeId
      (stopRuntime body.failureCode none) db.runtimes.rows)
    (assignments : acked.assignments.rows = rewriteAt (fun row : Assignment => row.id)
      assignment.id acknowledge db.assignments.rows) :
    db.Follows (Altered digest now control (.operate (.cleanup workerId body)))
      (releaseIfClean now acked (acknowledge assignment)).2 := by
  have stopped {runtime : Runtime} (runtime_mem : runtime ∈ db.runtimes.rows)
      (selected : runtime.id = runtimeId) :
      stopRuntime body.failureCode none runtime ∈ acked.runtimes.rows := by
    rw [runtimes]
    exact mem_rewriteAt.mpr (.inr ⟨runtime, runtime_mem, selected, rfl⟩)
  have interactive : (acknowledge assignment).runtimeId = some runtimeId := target
  rcases releaseIfClean_interactive interactive with ⟨same, held⟩ | ⟨done, -, -, free⟩
  · rw [same]
    refine .paired member assignments rfl target runtimes (stopRuntime_id _ _) ?_
    intro runtime runtime_mem selected row_held
    refine .single (.acknowledged row_held named unreleased ?_)
    rcases held _ (stopped runtime_mem selected) (by simpa using selected) with
      released | unacknowledged | unrevoked
    · exact absurd unreleased released
    · cases unacknowledged
    · rwa [stopRuntime_managementRevoked] at unrevoked
  · rw [done]
    refine .paired
      (f := fun runtime => finishRuntime now (stopRuntime body.failureCode none runtime))
      (g := fun row => releaseRow now (acknowledge row)) member ?_ rfl target ?_
      (fun runtime => stopRuntime_id _ _ runtime) ?_
    · show rewriteAt _ assignment.id (releaseRow now) acked.assignments.rows = _
      rw [assignments]
      exact rewriteAt_rewriteAt fun _ => rfl
    · show rewriteAt Runtime.id runtimeId (finishRuntime now) acked.runtimes.rows = _
      rw [runtimes]
      exact rewriteAt_rewriteAt (stopRuntime_id _ _)
    · intro runtime runtime_mem selected row_held
      refine .single (.cleaned row_held named unreleased ?_)
      have revoked := free _ (stopped runtime_mem selected) (by simpa using selected)
      rwa [stopRuntime_managementRevoked] at revoked

theorem cleanup_follows {body : Cleanup} {released : Bool}
    (accepted : cleanup now control.db workerId body = .ok (released, after)) :
    control.db.Follows (Altered digest now control (.operate (.cleanup workerId body))) after := by
  unfold cleanup at accepted
  split at accepted
  · cases accepted
  · rename_i worker assignment passed
    obtain ⟨member, named, -, -⟩ := mem_of_fence passed
    split_ifs at accepted with already rejected
    · cases accepted
      exact .refl _
    · have outcome : (releaseIfClean now _ (acknowledge assignment)).2 = after :=
        congrArg Prod.snd (Except.ok.inj accepted)
      rw [← outcome]
      cases target : assignment.runtimeId with
      | none =>
        have acked : control.db.Follows
            (Altered digest now control (.operate (.cleanup workerId body)))
            (control.db.modifyAssignment assignment.id acknowledge fun _ => rfl) :=
          .unpaired member rfl rfl target rfl
        have stopped : stopForCleanup body.failureCode assignment
            (control.db.modifyAssignment assignment.id acknowledge fun _ => rfl) =
            control.db.modifyAssignment assignment.id acknowledge fun _ => rfl := by
          rw [stopForCleanup, target]
        rw [stopped]
        exact acked.trans (releaseIfClean_follows_job (acknowledge_mem member rfl) target)
      | some runtimeId =>
        refine cleanup_follows_runtime member (names_id named) (by simpa using already) target
          ?_ ?_ <;> rw [stopForCleanup, target] <;> rfl

theorem expireAssignment_follows (db : Db) (assignment : Assignment)
    (member : assignment ∈ db.assignments.rows) (unreleased : assignment.Unreleased) :
    db.Follows (Altered digest now control (.operate .expire))
      (expireAssignment now db assignment) := by
  unfold expireAssignment
  split_ifs with current
  · exact .refl _
  · split
    · rename_i jobId target
      exact .unpaired member rfl rfl (by rw [Assignment.runtimeId, target]; rfl) rfl
    · rename_i jobId target
      exact .unpaired member rfl rfl (by rw [Assignment.runtimeId, target]; rfl) rfl
    · rename_i runtimeId generation target
      refine .paired (g := loseRow) member rfl rfl
        (by rw [Assignment.runtimeId, target]; rfl) rfl ?_ ?_
      · intro runtime
        unfold leaseLost
        split_ifs <;> rfl
      · intro runtime _ _ held
        exact .single (.expired held unreleased (not_lt.mp current))

theorem expire_follows (db : Db) :
    db.Follows (Altered digest now control (.operate .expire)) (expire now db) := by
  unfold expire
  generalize expiredWorkers now db = workers
  induction workers generalizing db with
  | nil => exact .refl _
  | cons workerId rest induction =>
    refine .trans ?_ (induction _)
    have visited : db.Follows (Altered digest now control (.operate .expire))
        ((live db workerId).foldl (expireAssignment now) db) :=
      .foldl_live (fun db assignment member visited =>
        expireAssignment_follows db assignment member visited.2) expireAssignment_frame db
    unfold expireWorker
    dsimp only
    split_ifs
    · exact visited.trans (.modifyWorker _ _ _ _)
    · exact visited

private theorem assignRuntime_id (settings : Settings) (assignmentId : UUID) (runtime : Runtime) :
    (assignRuntime settings now assignmentId runtime).id = runtime.id := rfl

theorem claim_follows {choose : Choose} {newId : Nat → UUID × UUID} {body : Claim}
    {reply : ClaimReply}
    (committed : claim settings digest choose newId now control.db workerId body =
      .ok (reply, after)) :
    control.db.Follows
      (Altered digest now control (.operate (.claim settings choose newId workerId body)))
      after := by
  cases claimResult_of_claim committed with
  | replayed | refused => exact .refl _
  | granted after assignment placement granted =>
    have inserted := granted.inserted
    rcases granted.runtimes with ⟨runtime, member, queued, running, target, runtimes⟩ |
      ⟨job, runtimes⟩
    · refine .rewritten runtimes (assignRuntime_id settings assignment.id) ?_ ?_
      · intro other ne
        rw [held_appended inserted.rows, target, if_neg, List.append_nil]
        exact fun same => ne (Option.some.inj same).symm
      · intro row row_mem selected
        obtain rfl := control.db.runtimes.eq_of_key_eq row_mem member selected
        rw [held_appended inserted.rows, if_pos target]
        exact .single (.granted queued running target inserted.state inserted.unreleased
          inserted.unacknowledged)
    · refine .elsewhere runtimes ?_
      intro runtimeId
      rw [held_appended inserted.rows, job, if_neg (by simp), List.append_nil]

theorem Op.follows {op : Op} (direct : op.direct = true) :
    control.db.Follows (Altered digest now control (.operate op))
      (op.apply digest now control.db) := by
  cases op with
  | claim settings choose newId workerId body =>
    exact commit_cases (control.db.Follows _) (.refl _) claim_follows
  | heartbeat settings workerId body =>
    exact commit_cases (control.db.Follows _) (.refl _) heartbeat_follows
  | event workerId body =>
    exact commit_cases (control.db.Follows _) (.refl _) event_follows
  | result workerId body =>
    exact commit_map_cases (control.db.Follows _) (.refl _) result_follows
  | cleanup workerId body =>
    exact commit_cases (control.db.Follows _) (.refl _) cleanup_follows
  | register workerId body => exact register_follows workerId body
  | expire => exact expire_follows control.db
  | concludeStop token assignmentId enrollment revoked => cases direct

/-- The pass holds the assignment of the runtime it works on, and what it saw stopping stays so. -/
structure Pass.Tracks (pass : Pass) (db : Db) : Prop where
  granted : ∃ assignment ∈ db.held pass.runtimeId, assignment.id = pass.assignmentId
  stopping : pass.desired = .stopped → ∀ runtime ∈ db.runtimes.rows,
    runtime.id = pass.runtimeId → runtime.desiredState = .stopped

variable {outcome : Outcome}

theorem concludeStop_follows
    (concluding : control.flights flight = some (.reconciling pass (.concluding outcome)))
    (desired : pass.desired = .stopped) (tracks : pass.Tracks control.db) :
    control.db.Follows (Altered digest now control (.conclude flight))
      (concludeStop pass.token now control.db pass.assignmentId outcome.enrollment
        outcome.revoked) := by
  obtain ⟨assignment, held, named⟩ := tracks.granted
  obtain ⟨member, target⟩ := mem_held.mp held
  have found : control.db.assignments.lookup pass.assignmentId = some assignment :=
    named ▸ lookup_of_mem member
  unfold concludeStop
  rw [found]
  dsimp only
  split
  · exact .refl _
  · rename_i runtime runtime_found
    rw [runtimeOf, target, Option.bind_some] at runtime_found
    have runtime_id : runtime.id = pass.runtimeId := key_of_lookup runtime_found
    split_ifs
    · rw [runtime_id]
      have recorded {row : Runtime} (row_mem : row ∈ control.db.runtimes.rows)
          (selected : row.id = pass.runtimeId) :
          recordRevocation outcome row ∈ (control.db.modifyRuntime pass.runtimeId
            (recordRevocation outcome) fun _ => rfl).runtimes.rows :=
        mem_rewriteAt.mpr (.inr ⟨row, row_mem, selected, rfl⟩)
      change control.db.Follows _ (releaseIfClean now (control.db.modifyRuntime pass.runtimeId
        (recordRevocation outcome) fun _ => rfl) assignment).2
      rcases releaseIfClean_interactive target with
        ⟨same, kept⟩ | ⟨done, unreleased, acknowledged, free⟩
      · rw [same]
        refine .modified rfl (fun _ => rfl) rfl ?_
        intro row row_mem selected
        rw [← selected] at held
        exact .single (.revoked concluding selected.symm desired held named
          (kept _ (recorded row_mem selected) selected))
      · rw [done]
        refine .paired
          (f := fun row => finishRuntime now (recordRevocation outcome row)) (g := releaseRow now)
          member rfl rfl target ?_ (fun _ => rfl) ?_
        · exact rewriteAt_rewriteAt fun _ => rfl
        · intro row row_mem selected row_held
          exact .single (.released concluding selected.symm desired
            (tracks.stopping desired row row_mem selected) row_held named unreleased acknowledged
            (free _ (recorded row_mem selected) selected))
    · exact .refl _

theorem Pass.conclude_follows
    (concluding : control.flights flight = some (.reconciling pass (.concluding outcome)))
    (tracks : pass.Tracks control.db) :
    control.db.Follows (Altered digest now control (.conclude flight))
      (pass.conclude now control.db outcome).1 := by
  unfold Pass.conclude
  split
  · exact .refl _
  · exact .refl _
  · rename_i worker runtime _ found
    split_ifs with taken desired
    · exact .refl _
    · exact concludeStop_follows concluding desired tracks
    · unfold Pass.concludeRunning
      split
      · exact .refl _
      · split_ifs with servable stopped
        · obtain ⟨assignment, held, named⟩ := tracks.granted
          have row_found : control.db.assignments.lookup pass.assignmentId = some assignment :=
            named ▸ lookup_of_mem (mem_held.mp held).1
          rw [row_found, Option.any_some] at servable
          refine .modified rfl (Pass.markServed_id _ _ _) rfl ?_
          intro row row_mem selected
          obtain rfl := eq_of_lookup found row_mem selected
          rw [← selected] at held
          exact .single (.served concluding selected.symm held servable)
        · exact .refl _
        · exact .refl _

theorem Boot.record_follows {boot : Boot} {reply : EnrollmentReply}
    (recording : control.flights flight = some (.bootstrapping boot (.recording reply))) :
    control.db.Follows (Altered digest now control (.conclude flight))
      (boot.record now control.db reply).1 := by
  have dropped : control.db.Follows (Altered digest now control (.conclude flight))
      (bootstrapFinally boot.token control.db boot.call) :=
    .modified rfl (by simp) rfl fun _ _ _ => .single .dropped
  have ended : control.db.Follows (Altered digest now control (.conclude flight))
      (bootstrapEnd boot.token now control.db boot.workerId boot.body boot.call reply).2 := by
    unfold bootstrapEnd
    split
    · exact dropped
    · exact dropped
    · have rows : rewriteAt Runtime.id boot.call.runtimeId (releaseController boot.token)
          (rewriteAt Runtime.id boot.call.runtimeId (recordEnrollment boot reply)
            control.db.runtimes.rows) =
          rewriteAt Runtime.id boot.call.runtimeId
            (fun row => releaseController boot.token (recordEnrollment boot reply row))
            control.db.runtimes.rows :=
        rewriteAt_rewriteAt fun _ => rfl
      refine .modified rows (fun row => releaseController_id _ _) rfl ?_
      intro row _ selected
      exact .single (.enrolled recording selected.symm)
  unfold Boot.record
  split <;> rename_i after result <;> rw [result] at ended <;> exact ended

theorem reconcileBegin_follows {token : UUID}
    (selected : control.flights flight = some (.selected runtimeId assignment))
    (begun : reconcileBegin token now control.db runtimeId assignment = some (pass, after)) :
    control.db.Follows (Altered digest now control (.lock flight token)) after := by
  unfold reconcileBegin at begun
  split at begun
  · split_ifs at begun
    cases begun
    refine .modified rfl (lockedRuntime_id _ _ _) rfl ?_
    intro row _ same
    exact .single (.locked (same ▸ selected))
  · cases begun

theorem bootstrapBegin_follows {token : UUID} {body : Fence} {call : Enrollment}
    (begun : bootstrapBegin token now control.db workerId body = .ok (call, after)) :
    control.db.Follows (Altered digest now control (.bootstrap flight token workerId body))
      after := by
  revert begun
  fun_cases bootstrapBegin token now control.db workerId body <;> intro begun <;> cases begun
  rename_i runtime found stopping _
  refine .modified rfl (fun _ => rfl) rfl ?_
  intro row row_mem selected
  obtain rfl := eq_of_lookup found row_mem selected
  simp only [not_or, ne_eq, not_not, not_and_or] at stopping
  exact .single (.reserved stopping.1 stopping.2)

theorem stop_follows {owner : UUID}
    (accepted : stop now control.db owner runtimeId = .ok (runtime, after)) :
    control.db.Follows (Altered digest now control (.stop owner runtimeId)) after := by
  unfold stop at accepted
  split at accepted
  · cases accepted
  · obtain ⟨-, -, equal⟩ := map_eq_ok accepted
    cases equal
    refine .modified rfl (ownerStop_id now) rfl ?_
    intro row _ selected
    exact selected ▸ .single .stopped

end

/-- Every step but a start rewrites the tenures in place. -/
theorem Control.follows {digest : Digest} {now : Time} {control : Control}
    (tracks : ∀ flight pass point, control.flights flight = some (.reconciling pass point) →
      pass.Tracks control.db)
    {act : Act}
    (not_start : ∀ settings operator catalog owner workspaceId key body newId,
      act ≠ .start settings operator catalog owner workspaceId key body newId) :
    control.db.Follows (Altered digest now control act) (control.perform digest now act).db := by
  cases act with
  | start => exact absurd rfl (not_start _ _ _ _ _ _ _ _)
  | stop => exact commit_cases (control.db.Follows _) (.refl _) stop_follows
  | operate op =>
    rw [Control.perform]
    split_ifs with direct
    · exact Op.follows direct
    · exact .refl _
  | lock flight token =>
    rw [Control.perform]
    split
    · rename_i selected
      split
      · exact .refl _
      · exact reconcileBegin_follows selected ‹_›
    · exact .refl _
  | bootstrap flight token workerId body =>
    rw [Control.perform]
    split
    · exact bootstrapBegin_follows ‹_›
    · exact .refl _
  | conclude flight =>
    rw [Control.perform]
    split
    · rename_i pass outcome concluding
      exact pass.conclude_follows concluding (tracks _ pass _ concluding)
    · rename_i boot reply recording
      exact boot.record_follows recording
    · exact .refl _
  | reject flight =>
    rw [Control.perform]
    split
    · rename_i pass rejecting
      unfold setFlight Pass.reject
      dsimp only
      split
      · exact .refl _
      · refine .modified rfl (stopRuntime_id _ _) rfl ?_
        intro row _ selected
        exact .single (.rejected rejecting selected.symm)
    · exact .refl _
  | close flight =>
    rw [Control.perform]
    split
    · exact .modified rfl (Pass.backOff_id _ _) rfl fun _ _ _ => .single .backedOff
    · exact .modified rfl (releaseController_id _) rfl fun _ _ _ => .single .dropped
    · exact .refl _
  | select | answer =>
    rw [Control.perform]
    split <;> exact .refl _
  | crash => exact .refl _
  | elsewhere => exact .elsewhere rfl fun _ => rfl

end TrainingScheduler
