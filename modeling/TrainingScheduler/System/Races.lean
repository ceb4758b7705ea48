import TrainingScheduler.System.Leases

/-!
# Heartbeats against claims

A heartbeat quarantines every live assignment of its Worker that it does not list.  Its list is
built before the call is sent, so an assignment granted in between, or granted but not yet
journalled, is lost although nothing failed.  Runs that keep grants and lists apart lose no healthy
assignment.
-/

namespace TrainingScheduler

/-- The list of a heartbeat that is built and not yet sent. -/
def Host.collected : Host → Option (List Record)
  | .down _ => none
  | .up process =>
    match process.beat with
    | .collected records _ => some records
    | _ => none

namespace World

variable (world : World) (workerId : UUID)

/-- The call carries a heartbeat that the Scheduler has not processed. -/
structure AwaitsHeartbeat (call : Nat) (request : Request) (body : Heartbeat) : Prop where
  carried : world.calls.Carries call request
  message : request.message = .heartbeat body
  unanswered : ∀ answer, ¬world.calls.Answers call answer

/-- A heartbeat list of the Worker is built, and the Scheduler has not processed it. -/
def InFlight : Prop :=
  (world.hosts workerId).collected ≠ none ∨
    ∃ call request body, world.AwaitsHeartbeat call request body ∧ request.workerId = workerId

/-- The Worker has journalled every live assignment the Scheduler holds for it. -/
def Journalled : Prop :=
  ∀ row ∈ live world.db workerId,
    ∃ record ∈ (world.hosts workerId).journal.records.rows, record.assignmentId = row.id

/-- The fences name assignments of the Worker, and every live one. -/
structure Lists (fences : List Fence) : Prop where
  holds : ∀ fence ∈ fences, world.Holds workerId fence
  live : ∀ row ∈ live world.db workerId, row.fence ∈ fences

/-- Every heartbeat list under way names what the Worker holds. -/
structure Listed : Prop where
  collected : ∀ workerId records, (world.hosts workerId).collected = some records →
    world.Lists workerId (records.map Record.fence)
  sent : ∀ call request body, world.AwaitsHeartbeat call request body →
    world.Lists request.workerId (body.assignments.map Active.toFence)

end World

/-- A step that keeps grants and heartbeat lists apart: a list is built only once every grant is
journalled, and nothing is granted to a Worker between the building of a list and the processing of
its heartbeat. -/
structure Unraced (before after : World) : Prop where
  collected : ∀ workerId, (before.hosts workerId).collected = none →
    (after.hosts workerId).collected ≠ none → before.Journalled workerId
  granted : ∀ row ∈ after.db.assignments.rows,
    (∀ old ∈ before.db.assignments.rows, old.id ≠ row.id) → ¬before.InFlight row.workerId

def UnracedStep (settings : Settings) (digest : Digest) (before after : World) : Prop :=
  World.Step settings digest before after ∧ Unraced before after

/-- The report of a heartbeat for an assignment, or one that only names it. -/
def Heartbeat.reportOr (body : Heartbeat) (row : Assignment) : Active :=
  (body.report row.id).getD { toFence := row.fence }

/-- Nothing but its absence from the list keeps the heartbeat from renewing the assignment. -/
structure Healthy (settings : Settings) (now : Time) (db : Db) (body : Heartbeat)
    (row : Assignment) : Prop where
  fresh : body.fresh settings now = true
  own : row.instanceId = body.instanceId
  kept : row.state ≠ .lost ∧ row.state ≠ .cleaning
  leased : now < row.leaseUntil
  runtime : ∀ runtime, runtimeOf db row = some runtime →
    (reviewRuntime now true (some (body.reportOr row)) runtime).2 = true

section

variable {settings : Settings} {now : Time} {db : Db} {body : Heartbeat} {row : Assignment}
  {report : Active}

section

variable (healthy : Healthy settings now db body row) (fence : report.toFence = row.fence)

include healthy fence

/-- A heartbeat that lists a healthy assignment under its fence decides to renew it. -/
theorem Healthy.renews (found : body.report row.id = some report) :
    renews now (body.fresh settings now) body db row = true := by
  have shown : body.reportOr row = report := by simp [Heartbeat.reportOr, found]
  have own := healthy.own
  have kept := healthy.kept
  have valid : reportValid now (body.fresh settings now) body.instanceId row
      (some report) = true := by
    simp [reportValid, healthy.fresh, healthy.leased, fence, Assignment.fence, own, kept.1, kept.2]
  unfold TrainingScheduler.renews
  dsimp only
  rw [found, valid]
  split
  · rfl
  · rename_i runtime located
    have reviewed := healthy.runtime runtime located
    rwa [shown] at reviewed

private theorem renewed_of_healthy {after : Db} {workerId : UUID} {reply : HeartbeatReply}
    (runtimes : Exclusive Target.runtimeId db)
    (accepted : heartbeat settings now db workerId body = .ok (reply, after))
    (member : row ∈ live db workerId) (found : body.report row.id = some report) :
    ⟨row.id, .renew, settings.leaseSeconds⟩ ∈ reply.decisions ∧
      (∀ decision ∈ reply.decisions, decision.assignmentId = row.id → decision.action = .renew) ∧
      ∃ next ∈ after.assignments.rows, next.id = row.id ∧ next.state ≠ .lost := by
  obtain ⟨recorded, rows, same_runtimes, decisions, written⟩ := heartbeat_eq_ok accepted
  have stored (other : Assignment) (other_mem : other ∈ live db workerId) :
      other ∈ recorded.assignments.rows := rows ▸ (mem_live.mp other_mem).1
  have apart (left : Assignment) (left_mem : left ∈ live db workerId) (right : Assignment)
      (right_mem : right ∈ live db workerId) (held : left.runtimeId ≠ none)
      (same : left.runtimeId = right.runtimeId) : left = right :=
    runtimes left (mem_live.mp left_mem).1 right (mem_live.mp right_mem).1
      (mem_live.mp left_mem).2.2 (mem_live.mp right_mem).2.2 held same
  have renewed : renews now (body.fresh settings now) body recorded row = true := by
    have located : runtimeOf recorded row = runtimeOf db row := by
      rw [runtimeOf, same_runtimes, runtimeOf]
    have decided := healthy.renews fence found
    unfold renews at decided ⊢
    rwa [located]
  obtain ⟨only, decided, final⟩ := heartbeatLoop_decides settings now (body.fresh settings now) body
    (live_distinct db workerId) stored apart member
  rw [decisions, renewed] at only decided
  rw [written, renewed] at final
  refine ⟨decided, fun decision decision_mem same => ?_, _, final, concludeHeartbeat_id .., ?_⟩
  · rw [only decision decision_mem same]
    rfl
  · exact healthy.kept.1

end

end

section

variable {world : World} {workerId : UUID} {host next : Host} {message : Option Message}

theorem HostStep.collected (step : HostStep world workerId host next message)
    {records : List Record} (listed : next.collected = some records) :
    host.collected = some records ∨
      host.collected = none ∧ records = host.journal.active := by
  cases step with
  | main process next message step =>
    refine .inl ?_
    cases step <;> exact listed
  | beat process next message step =>
    cases step with
    | collect beat =>
      refine .inr ⟨by simp [Host.collected, beat], ?_⟩
      exact (Option.some.inj listed).symm
    | _ => cases listed
  | upkeep process coordinator message step => exact .inl listed
  | _ => cases listed

theorem HostStep.sends_heartbeat {body : Heartbeat}
    (step : HostStep world workerId host next (some (.heartbeat body))) :
    ∃ records, host.collected = some records ∧
      body.assignments.map Active.toFence = records.map Record.fence := by
  cases step with
  | main process next message step => cases step
  | beat process next message step =>
    cases step with
    | send records sentAt probe preflightReady slots health ssh beat =>
      refine ⟨records, by simp [Host.collected, beat], ?_⟩
      simp [heartbeatBody]
  | upkeep process coordinator message step => cases step

end

/-- A step of a host grants nothing, so only a list it builds can be raced. -/
theorem Unraced.of_act {world : World} {workerId : UUID} {host : Host} {message : Option Message}
    (collected : host.collected ≠ none → world.Journalled workerId) :
    Unraced world (world.act workerId host message) where
  collected other resting built := by
    by_cases same : other = workerId
    · subst same
      rw [world.act_self] at built
      exact collected built
    · rw [world.act_ne same] at built
      exact absurd resting built
  granted row member fresh := absurd rfl (fresh row member)

section

variable {settings : Settings} {digest : Digest} {world after : World} {workerId : UUID}

/-- A list that names what the Worker holds still does after an unraced step: a step that moves a
host grants nothing, and one that moves none grants nothing to a Worker with a list under way. -/
theorem World.Lists.of_unraced (lawful : world.Lawful settings digest)
    (step : World.Step settings digest world after) (unraced : Unraced world after)
    {fences : List Fence} (lists : world.Lists workerId fences)
    (inFlight : after.hosts = world.hosts → world.InFlight workerId) :
    after.Lists workerId fences where
  holds fence listed := (lists.holds fence listed).mono (lawful.follows_step step)
  live row member := by
    obtain ⟨row_mem, rfl, unreleased⟩ := mem_live.mp member
    rcases step.origin row_mem with ⟨old, old_mem, grant, backwards⟩ | ⟨rest, fresh⟩
    · rw [Assignment.fence_of_grant grant]
      refine lists.live old (mem_live.mpr ⟨old_mem, ?_, backwards unreleased⟩)
      exact (congrArg Grant.workerId grant).symm
    · exact absurd (inFlight rest) (unraced.granted row row_mem fresh)

/-- A list read from a journal that is up to date names what the Worker holds. -/
theorem World.Lists.of_journal (lawful : world.Lawful settings digest)
    (journalled : world.Journalled workerId) :
    world.Lists workerId ((world.hosts workerId).journal.active.map Record.fence) where
  holds fence listed := by
    obtain ⟨record, active, rfl⟩ := List.mem_map.mp listed
    exact ((lawful.hosts workerId).tracks (List.mem_filter.mp active).1).holds
  live row member := by
    obtain ⟨row_mem, -, unreleased⟩ := mem_live.mp member
    obtain ⟨record, record_mem, id_eq⟩ := journalled row member
    obtain ⟨active, fence⟩ := lawful.open_record row_mem unreleased record_mem id_eq
    exact List.mem_map.mpr ⟨record, active, fence⟩

variable {body : Heartbeat}

theorem World.Step.awaits (step : World.Step settings digest world after) {call : Nat}
    {request : Request} (awaits : after.AwaitsHeartbeat call request body) :
    world.AwaitsHeartbeat call request body ∨
      HostStep world request.workerId (world.hosts request.workerId)
        (after.hosts request.workerId) (some (.heartbeat body)) := by
  obtain ⟨carried, message, unanswered⟩ := awaits
  cases step with
  | serve served other choose newId known =>
    refine .inl ⟨carried, message, fun answer answered => unanswered answer ?_⟩
    exact Calls.answers_answer_iff.mpr (.inl answered)
  | host workerId host sent step =>
    cases sent with
    | none => exact .inl ⟨carried, message, unanswered⟩
    | some sent =>
      rcases Calls.carries_send_iff.mp carried with earlier | ⟨-, rfl⟩
      · exact .inl ⟨earlier, message, unanswered⟩
      · dsimp only at message ⊢
        subst message
        rw [world.act_self]
        exact .inr step
  | _ => exact .inl ⟨carried, message, unanswered⟩

theorem World.Listed.of_step (listed : world.Listed) (lawful : world.Lawful settings digest)
    (step : World.Step settings digest world after) (unraced : Unraced world after) :
    after.Listed where
  collected workerId records collected := by
    have kept (earlier : (world.hosts workerId).collected = some records) :
        after.Lists workerId (records.map Record.fence) :=
      (listed.collected workerId records earlier).of_unraced lawful step unraced
        fun _ => .inl (by simp [earlier])
    rcases step.hosts workerId with rest | ⟨message, moved⟩
    · exact kept (rest ▸ collected)
    · rcases moved.collected collected with earlier | ⟨resting, rfl⟩
      · exact kept earlier
      · have journalled := unraced.collected workerId resting (by simp [collected])
        refine (World.Lists.of_journal lawful journalled).of_unraced lawful step unraced
          fun rest => ?_
        rw [rest, resting] at collected
        cases collected
  sent call request body awaits := by
    rcases step.awaits awaits with earlier | sends
    · exact (listed.sent call request body earlier).of_unraced lawful step unraced
        fun _ => .inr ⟨call, request, body, earlier, rfl⟩
    · obtain ⟨records, collected, fences⟩ := sends.sends_heartbeat
      rw [fences]
      exact (listed.collected request.workerId records collected).of_unraced lawful step unraced
        fun _ => .inl (by simp [collected])

theorem World.Listed.of_initial (initial : world.Initial) : world.Listed where
  collected workerId records collected := by
    have fresh := initial.fresh workerId
    cases host : world.hosts workerId with
    | down journal =>
      rw [host] at collected
      cases collected
    | up process =>
      rw [host] at collected fresh
      simp [Host.collected, fresh.2.2.2.1] at collected
  sent call request body awaits := by
    have carried := awaits.carried
    simp [Calls.Carries, initial.silent.1] at carried

theorem World.Lists.report (lists : world.Lists workerId (body.assignments.map Active.toFence))
    {row : Assignment} (member : row ∈ TrainingScheduler.live world.db workerId) :
    ∃ report, body.report row.id = some report ∧ report.toFence = row.fence := by
  obtain ⟨listed, listed_mem, named⟩ := List.mem_map.mp (lists.live row member)
  cases found : body.report row.id with
  | none =>
    have missing := List.find?_eq_none.mp found listed (List.mem_reverse.mpr listed_mem)
    have same : listed.assignmentId = row.id := congrArg Fence.assignmentId named
    simp [same] at missing
  | some report =>
    refine ⟨report, rfl, ?_⟩
    have report_id : report.assignmentId = row.id := by
      simpa using List.find?_some found
    have report_mem : report ∈ body.assignments :=
      List.mem_reverse.mp (List.mem_of_find?_eq_some found)
    obtain ⟨other, other_mem, -, fence⟩ :=
      lists.holds report.toFence (List.mem_map_of_mem report_mem)
    have other_id : other.id = report.assignmentId := congrArg Fence.assignmentId fence
    obtain rfl : other = row :=
      world.db.assignments.eq_of_key_eq other_mem (mem_live.mp member).1
        (other_id.trans report_id)
    exact fence.symm

end

/-- In a run that keeps grants and heartbeat lists apart, every heartbeat renews every healthy
assignment of its Worker: none is stopped or lost. -/
theorem unraced_run_renews {settings : Settings} {digest : Digest} {initial world : World}
    (start : initial.Initial)
    (run : Relation.ReflTransGen (UnracedStep settings digest) initial world) {call : Nat}
    {request : Request} {body : Heartbeat} (awaits : world.AwaitsHeartbeat call request body)
    {reply : HeartbeatReply} {after : Db}
    (accepted : heartbeat settings world.now world.db request.workerId body = .ok (reply, after))
    {row : Assignment} (member : row ∈ live world.db request.workerId)
    (healthy : Healthy settings world.now world.db body row) :
    ⟨row.id, .renew, settings.leaseSeconds⟩ ∈ reply.decisions ∧
      (∀ decision ∈ reply.decisions, decision.assignmentId = row.id → decision.action = .renew) ∧
      ∃ next ∈ after.assignments.rows, next.id = row.id ∧ next.state ≠ .lost := by
  have invariant : world.Lawful settings digest ∧ world.Listed := by
    clear awaits accepted member healthy
    induction run with
    | refl => exact ⟨.of_initial start, .of_initial start⟩
    | tail _ step induction =>
      obtain ⟨lawful, listed⟩ := induction
      exact ⟨lawful.of_step step.1, listed.of_step lawful step.1 step.2⟩
  obtain ⟨lawful, listed⟩ := invariant
  obtain ⟨report, found, fence⟩ := (listed.sent call request body awaits).report member
  exact renewed_of_healthy healthy fence lawful.runtimes accepted member found

namespace Deployment

def collecting : World := pair.act 1 (.up (collects pair (idle 10))) none

def racer : Process := begins collecting 1 (collects pair (idle 10))

def claiming : World := collecting.act 1 (.up racer) (some (.claim ⟨10, 1⟩))

/-- The Scheduler grants the claim, and its response is under way. -/
def granting : World :=
  claiming.serve settings digest (batchOnly 100) (fun _ => (1001, 2001)) 0
    ⟨1, 0, .claim ⟨10, 1⟩⟩

def racedBody : Heartbeat := beatBody 0 racer []

def raced : World := granting.act 1 (.up (beats granting racer)) (some (.heartbeat racedBody))

private theorem raced_reachable : raced.Reachable settings digest := by
  have reading : collecting.hosts 1 = .up (collects pair (idle 10)) := rfl
  have waiting : granting.hosts 1 = .up racer := rfl
  have collect : World.Step settings digest pair collecting := .beat rfl (.collect rfl)
  have claim : World.Step settings digest collecting claiming :=
    .main reading (.beginClaim 1 _ _ (by decide) rfl rfl)
  have grant : World.Step settings digest claiming granting := .serve 0 _ _ _ rfl
  have send : World.Step settings digest granting raced :=
    .beat waiting (.send [] _ { inventory with observedAt := 0 } true 2 (fun _ => {})
      (fun _ => {}) rfl)
  exact ⟨pair, pair_initial,
    (((Relation.ReflTransGen.single collect).tail claim).tail grant).tail send⟩

/-- Both threads wait for calls that the Scheduler accepts, and no time has passed; yet the
heartbeat stops the healthy assignment that was granted after its list was built. -/
theorem raced_stopped :
    raced.Reachable settings digest ∧
      (∃ process sentAt, raced.hosts 1 = .up process ∧ process.main = .claiming 0 sentAt ∧
        process.beat = .waiting 1 sentAt) ∧
      raced.AwaitsHeartbeat 1 ⟨1, 0, .heartbeat racedBody⟩ racedBody ∧
      ∃ reply after, heartbeat settings raced.now raced.db 1 racedBody = .ok (reply, after) ∧
      ∃ row ∈ live raced.db 1, Healthy settings raced.now raced.db racedBody row ∧
        ⟨row.id, .stop, 0⟩ ∈ reply.decisions ∧
        ∃ next ∈ after.assignments.rows, next.id = row.id ∧ next.state = .lost := by
  refine ⟨raced_reachable, ⟨_, _, rfl, rfl, rfl⟩,
    ⟨by decide +kernel, rfl, fun answer answered => ?_⟩, ?_⟩
  · have first : ∀ pair ∈ raced.calls.answers, pair.1 = 0 := by decide +kernel
    cases first _ answered
  · obtain ⟨⟨reply, after⟩, accepted, row, member, own, kept, leased, batch, decision, lost⟩ :
        ∃ value, heartbeat settings raced.now raced.db 1 racedBody = .ok value ∧
          ∃ row ∈ live raced.db 1, row.instanceId = racedBody.instanceId ∧
            (row.state ≠ .lost ∧ row.state ≠ .cleaning) ∧ raced.now < row.leaseUntil ∧
            row.runtimeId = none ∧ ⟨row.id, .stop, 0⟩ ∈ value.1.decisions ∧
            ∃ next ∈ value.2.assignments.rows, next.id = row.id ∧ next.state = .lost :=
      exists_ok_of_any (by decide +kernel)
    refine ⟨reply, after, accepted, row, member, ?_, decision, lost⟩
    exact
      { fresh := by decide +kernel
        own := own
        kept := kept
        leased := leased
        runtime := fun runtime located => by simp [runtimeOf, batch] at located }

/-- The first Worker reads its journal once the grant is in it. -/
def recollecting : World := held.act 1 (.up (collects held holder)) none

def listedBody : Heartbeat := beatBody 0 (collects held holder) holder.journal.active

def beating : World :=
  recollecting.act 1 (.up (beats recollecting (collects held holder)))
    (some (.heartbeat listedBody))

private theorem beating_run : Relation.ReflTransGen (UnracedStep settings digest) pair beating := by
  have taken : held.hosts 1 = .up holder := rfl
  have reading : recollecting.hosts 1 = .up (collects held holder) := rfl
  have collect : World.Step settings digest held recollecting := .beat taken (.collect rfl)
  have send : World.Step settings digest recollecting beating :=
    .beat reading (.send _ _ { inventory with observedAt := 0 } true 2 (fun _ => {})
      (fun _ => {}) rfl)
  have granted : Unraced claimed served :=
    { collected := fun workerId resting moved => absurd resting moved
      granted := fun row member _ => by
        have worker : ∀ row ∈ served.db.assignments.rows, row.workerId = 1 := by decide +kernel
        rw [worker row member]
        rintro (built | ⟨call, request, body, awaits, -⟩)
        · exact built rfl
        · have claims : ∀ request ∈ claimed.calls.requests, request.message = .claim ⟨10, 1⟩ := by
            decide +kernel
          have other := claims request (List.mem_of_getElem? awaits.carried)
          cases other.symm.trans awaits.message }
  have journalled : held.Journalled 1 := by
    unfold World.Journalled
    decide +kernel
  refine .tail (.tail (.tail (.tail (.single ⟨step_claimed, ?_⟩) ⟨step_served, granted⟩)
    ⟨step_held, ?_⟩) ⟨collect, ?_⟩) ⟨send, ?_⟩
  · exact .of_act fun built => absurd rfl built
  · exact .of_act fun built => absurd rfl built
  · exact .of_act fun _ => journalled
  · exact .of_act fun built => absurd rfl built

/-- The heartbeat that lists the granted assignment renews it. -/
theorem beating_renewed :
    ∃ reply after, heartbeat settings beating.now beating.db 1 listedBody = .ok (reply, after) ∧
      ∃ row ∈ live beating.db 1, Healthy settings beating.now beating.db listedBody row ∧
        ⟨row.id, .renew, 45⟩ ∈ reply.decisions := by
  have awaits : beating.AwaitsHeartbeat 1 ⟨1, 0, .heartbeat listedBody⟩ listedBody := by
    refine ⟨by decide +kernel, rfl, fun answer answered => ?_⟩
    have first : ∀ pair ∈ beating.calls.answers, pair.1 = 0 := by decide +kernel
    cases first _ answered
  obtain ⟨row, member, own, kept, leased, batch⟩ : ∃ row ∈ live beating.db 1,
      row.instanceId = listedBody.instanceId ∧ (row.state ≠ .lost ∧ row.state ≠ .cleaning) ∧
      beating.now < row.leaseUntil ∧ row.runtimeId = none := by
    decide +kernel
  have healthy : Healthy settings beating.now beating.db listedBody row :=
    { fresh := by decide +kernel
      own := own
      kept := kept
      leased := leased
      runtime := fun runtime located => by simp [runtimeOf, batch] at located }
  obtain ⟨⟨reply, after⟩, accepted, -⟩ : ∃ value,
      heartbeat settings beating.now beating.db 1 listedBody = .ok value ∧ True :=
    exists_ok_of_any (by decide +kernel)
  refine ⟨reply, after, accepted, row, member, healthy, ?_⟩
  exact (unraced_run_renews pair_initial beating_run awaits accepted member healthy).1

end Deployment

end TrainingScheduler
