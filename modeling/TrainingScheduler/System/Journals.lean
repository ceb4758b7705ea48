import TrainingScheduler.Scheduler.Replies
import TrainingScheduler.System.World

/-!
# What a Worker knows

Everything a Worker process acts on is backed by the Scheduler's rows: its journal names rows of its
own, each local deadline stays five seconds short of a lease, and each decision still to be carried
out belongs to a renewed lease.
-/

namespace TrainingScheduler

theorem Assignment.fence_of_grant {left right : Assignment} (grant : left.toGrant = right.toGrant) :
    left.fence = right.fence := by
  simp only [Assignment.fence, Assignment.generation, grant]

/-- Time does not go back, rows persist and keep their leases, and no call is forgotten. -/
structure World.Follows (before after : World) : Prop where
  time : before.now ≤ after.now
  rows : ∀ row ∈ before.db.assignments.rows, ∃ next ∈ after.db.assignments.rows,
    Persists row next ∧ row.leaseUntil ≤ next.leaseUntil
  calls : ∀ call request, before.calls.Carries call request → after.calls.Carries call request

namespace World

variable (world : World) (workerId : UUID)

/-- The journalled record names a row of the Worker, released if the record is. -/
def Tracks (record : Record) : Prop :=
  ∃ row ∈ world.db.assignments.rows, row.workerId = workerId ∧ row.fence = record.fence ∧
    (record.released = true → ¬row.Unreleased)

/-- The Scheduler holds an assignment of the Worker under the fence. -/
def Holds (fence : Fence) : Prop :=
  ∃ row ∈ world.db.assignments.rows, row.workerId = workerId ∧ row.fence = fence

/-- The Worker has a lease on the assignment at least until `deadline`. -/
def Leased (assignmentId : UUID) (deadline : Time) : Prop :=
  ∃ row ∈ world.db.assignments.rows, row.id = assignmentId ∧ row.workerId = workerId ∧
    deadline ≤ row.leaseUntil

theorem follows_act (host : Host) (message : Option Message) :
    Follows world (world.act workerId host message) where
  time := le_rfl
  rows row member := ⟨row, member, .refl row, le_rfl⟩
  calls call request carried := by
    cases message with
    | none => exact carried
    | some body => exact carried.send _

variable {before after : World} {workerId : UUID} {record : Record} {assignmentId : UUID}
  {deadline : Time}

theorem Tracks.mono (follows : Follows before after) (tracks : before.Tracks workerId record) :
    after.Tracks workerId record := by
  obtain ⟨row, member, worker, fence, released⟩ := tracks
  obtain ⟨next, next_mem, persists, -⟩ := follows.rows row member
  refine ⟨next, next_mem, (congrArg Grant.workerId persists.grant).trans worker,
    (Assignment.fence_of_grant persists.grant).trans fence, fun closed => ?_⟩
  rw [persists.frozen (released closed)]
  exact released closed

theorem Tracks.holds {world : World} (tracks : world.Tracks workerId record) :
    world.Holds workerId record.fence := by
  obtain ⟨row, member, worker, fence, -⟩ := tracks
  exact ⟨row, member, worker, fence⟩

theorem Holds.mono (follows : Follows before after) {fence : Fence}
    (holds : before.Holds workerId fence) : after.Holds workerId fence := by
  obtain ⟨row, member, worker, same⟩ := holds
  obtain ⟨next, next_mem, persists, -⟩ := follows.rows row member
  exact ⟨next, next_mem, (congrArg Grant.workerId persists.grant).trans worker,
    (Assignment.fence_of_grant persists.grant).trans same⟩

theorem Leased.mono (follows : Follows before after)
    (leased : before.Leased workerId assignmentId deadline) :
    after.Leased workerId assignmentId deadline := by
  obtain ⟨row, member, id_eq, worker, bound⟩ := leased
  obtain ⟨next, next_mem, persists, later⟩ := follows.rows row member
  exact ⟨next, next_mem, (congrArg Grant.id persists.grant).trans id_eq,
    (congrArg Grant.workerId persists.grant).trans worker, bound.trans later⟩

theorem Leased.le {world : World} {earlier : Time}
    (leased : world.Leased workerId assignmentId deadline) (order : earlier ≤ deadline) :
    world.Leased workerId assignmentId earlier := by
  obtain ⟨row, member, id_eq, worker, bound⟩ := leased
  exact ⟨row, member, id_eq, worker, order.trans bound⟩

end World

variable (world : World) (workerId : UUID) (offset : Time)

/-- What the coordinator of a process with the given clock offset may hold.  No assignment of its
own pending claim is journalled yet. -/
structure Coordinator.Lawful (coordinator : Coordinator) : Prop where
  tracked : ∀ record ∈ coordinator.journal.records.rows, world.Tracks workerId record
  leased : ∀ id deadline, coordinator.deadlines id = some deadline →
    world.Leased workerId id (deadline + 5 - offset)
  unjournalled : ∀ claim, coordinator.journal.claim = some claim →
    claim.instanceId = coordinator.instanceId → ∀ record ∈ coordinator.journal.records.rows,
      ∃ row ∈ world.db.assignments.rows, row.id = record.assignmentId ∧ ¬row.MadeFor workerId claim

def World.CarriesClaim (call : Nat) (claim : Claim) (request : Request) : Prop :=
  world.calls.Carries call request ∧ request.workerId = workerId ∧ request.message = .claim claim

/-- The claim call in progress carries the durable claim, and before polling no deadline is set. -/
def MainThread.Lawful (coordinator : Coordinator) : MainThread → Prop
  | .polling => True
  | .claiming call sentAt =>
    ∃ claim request, coordinator.journal.claim = some claim ∧
      claim.instanceId = coordinator.instanceId ∧
      world.CarriesClaim workerId call claim request ∧ sentAt ≤ request.sentAt + offset
  | .resolving call =>
    (∀ id, coordinator.deadlines id = none) ∧
      ∃ claim request, coordinator.journal.claim = some claim ∧
        world.CarriesClaim workerId call claim request
  | .starting | .resolved | .registering _ | .reconciling => ∀ id, coordinator.deadlines id = none

/-- Renewals still to be carried out belong to leases renewed after the heartbeat was sent. -/
def BeatThread.Lawful : BeatThread → Prop
  | .idle => True
  | .collected _ sentAt => sentAt ≤ world.now + offset
  | .waiting call sentAt =>
    ∃ request, world.calls.Carries call request ∧ request.workerId = workerId ∧
      sentAt ≤ request.sentAt + offset
  | .deciding decisions sentAt _ =>
    ∀ decision ∈ decisions, decision.action = .renew →
      world.Leased workerId decision.assignmentId (sentAt + decision.leaseSeconds - offset)

structure Process.Lawful (world : World) (workerId : UUID) (process : Process) : Prop where
  clock : 0 ≤ process.clock world.now
  coordinator : process.coordinator.Lawful world workerId process.offset
  main : process.main.Lawful world workerId process.offset process.coordinator
  beat : process.beat.Lawful world workerId process.offset

def Host.Lawful (world : World) (workerId : UUID) : Host → Prop
  | .down journal => ∀ record ∈ journal.records.rows, world.Tracks workerId record
  | .up process => process.Lawful world workerId

/-- The host has journalled the assignment, and holds no deadline for it unless it is clean. -/
def Host.Retires (assignmentId : UUID) : Host → Prop
  | .down journal => ∃ record ∈ journal.records.rows, record.assignmentId = assignmentId
  | .up process =>
    ∃ record ∈ process.journal.records.rows, record.assignmentId = assignmentId ∧
      (process.coordinator.deadlines assignmentId ≠ none → record.localClean = true)

variable {request : Request} {main : MainThread}

section

variable {before after : World} {workerId : UUID} {offset : Time} {coordinator : Coordinator}

section

variable (follows : World.Follows before after)

include follows

theorem Coordinator.Lawful.mono (lawful : coordinator.Lawful before workerId offset) :
    coordinator.Lawful after workerId offset where
  tracked record member := (lawful.tracked record member).mono follows
  leased id deadline held := (lawful.leased id deadline held).mono follows
  unjournalled claim pending own record member := by
    obtain ⟨row, row_mem, id_eq, other⟩ := lawful.unjournalled claim pending own record member
    obtain ⟨next, next_mem, persists, -⟩ := follows.rows row row_mem
    exact ⟨next, next_mem, (congrArg Grant.id persists.grant).trans id_eq,
      fun made => other (.of_grant persists.grant.symm made)⟩

theorem World.CarriesClaim.mono {call : Nat} {claim : Claim}
    (carries : before.CarriesClaim workerId call claim request) :
    after.CarriesClaim workerId call claim request :=
  ⟨follows.calls call request carries.1, carries.2⟩

theorem MainThread.Lawful.mono (lawful : main.Lawful before workerId offset coordinator) :
    main.Lawful after workerId offset coordinator := by
  cases main with
  | claiming call sentAt =>
    obtain ⟨claim, request, pending, own, carries, order⟩ := lawful
    exact ⟨claim, request, pending, own, carries.mono follows, order⟩
  | resolving call =>
    obtain ⟨unset, claim, request, pending, carries⟩ := lawful
    exact ⟨unset, claim, request, pending, carries.mono follows⟩
  | _ => exact lawful

theorem BeatThread.Lawful.mono {beat : BeatThread} (lawful : beat.Lawful before workerId offset) :
    beat.Lawful after workerId offset := by
  cases beat with
  | idle => exact trivial
  | collected records sentAt => exact lawful.trans (add_le_add_left follows.time offset)
  | waiting call sentAt =>
    obtain ⟨request, carried, sender, order⟩ := lawful
    exact ⟨request, follows.calls call request carried, sender, order⟩
  | deciding decisions sentAt sequence =>
    exact fun decision member renew => (lawful decision member renew).mono follows

theorem Process.Lawful.mono {process : Process} (lawful : process.Lawful before workerId) :
    process.Lawful after workerId where
  clock := lawful.clock.trans (add_le_add_left follows.time process.offset)
  coordinator := lawful.coordinator.mono follows
  main := lawful.main.mono follows
  beat := lawful.beat.mono follows

theorem Host.Lawful.mono {host : Host} (lawful : host.Lawful before workerId) :
    host.Lawful after workerId := by
  cases host with
  | down journal => exact fun record member => (lawful record member).mono follows
  | up process => exact Process.Lawful.mono follows lawful

end

end

/-- What a produced answer says about the Scheduler's rows.  A cleanup call of a Worker is never
rejected as a conflict, since the row it names exists. -/
def Answer.Sound (world : World) (request : Request) : Answer → Prop
  | .claim reply =>
    (∀ envelope, reply.assignment = some envelope → ∃ claim, request.message = .claim claim ∧
      ∃ row ∈ world.db.assignments.rows, row.MadeFor request.workerId claim ∧
        row.fence = envelope.fence ∧ request.sentAt + envelope.leaseSeconds ≤ row.leaseUntil) ∧
    (reply.requestState = some .released → ∃ claim, request.message = .claim claim ∧
      ∃ row ∈ world.db.assignments.rows, row.MadeFor request.workerId claim ∧ ¬row.Unreleased)
  | .heartbeat reply =>
    ∀ decision ∈ reply.decisions, decision.action = .renew →
      world.Leased request.workerId decision.assignmentId
        (request.sentAt + decision.leaseSeconds)
  | .cleanup released =>
    released = true → ∀ body, request.message = .cleanup body →
      ∃ row ∈ world.db.assignments.rows, row.id = body.assignmentId ∧ ¬row.Unreleased
  | .rejected exception =>
    ∀ body, request.message = .cleanup body → exception.status ≠ 409
  | .event _ | .result | .register _ => True

theorem Answer.Sound.mono {before after : World} (follows : World.Follows before after)
    {answer : Answer} (sound : answer.Sound before request) : answer.Sound after request := by
  cases answer with
  | claim reply =>
    refine ⟨fun envelope shown => ?_, fun released => ?_⟩
    · obtain ⟨claim, message, row, member, made, fence, bound⟩ := sound.1 envelope shown
      obtain ⟨next, next_mem, persists, later⟩ := follows.rows row member
      exact ⟨claim, message, next, next_mem, .of_grant persists.grant made,
        (Assignment.fence_of_grant persists.grant).trans fence, bound.trans later⟩
    · obtain ⟨claim, message, row, member, made, closed⟩ := sound.2 released
      obtain ⟨next, next_mem, persists, -⟩ := follows.rows row member
      refine ⟨claim, message, next, next_mem, .of_grant persists.grant made, ?_⟩
      rwa [persists.frozen closed]
  | heartbeat reply => exact fun decision member renew => (sound decision member renew).mono follows
  | cleanup released =>
    intro confirmed body message
    obtain ⟨row, member, id_eq, closed⟩ := sound confirmed body message
    obtain ⟨next, next_mem, persists, -⟩ := follows.rows row member
    refine ⟨next, next_mem, (congrArg Grant.id persists.grant).trans id_eq, ?_⟩
    rwa [persists.frozen closed]
  | _ => exact sound

/-- Every answer is sound for the current rows. -/
def World.AnswersSound (world : World) : Prop :=
  world.calls.Justified fun request answer => answer.Sound world request

theorem World.AnswersSound.follow {before after : World} (sound : before.AnswersSound)
    (follows : World.Follows before after) :
    before.calls.Justified fun request answer => answer.Sound after request :=
  sound.mono fun _ _ answered => answered.mono follows

/-- A record is rewritten in place; `closes` holds of the assignments whose record may be closed. -/
structure Record.Keeps (closes : UUID → Prop) (before after : Record) : Prop where
  fence : after.fence = before.fence
  clean : before.localClean = true → after.localClean = true
  released : after.released = true → before.released = true ∨ closes before.assignmentId

variable {closes : UUID → Prop}

theorem Record.Keeps.refl (record : Record) : record.Keeps closes record :=
  ⟨rfl, id, .inl⟩

theorem Record.Keeps.id_eq {before after : Record} (keeps : before.Keeps closes after) :
    after.assignmentId = before.assignmentId :=
  congrArg Fence.assignmentId keeps.fence

/-- Records are rewritten in place; the durable claim, the instance and the deadlines stay. -/
structure Coordinator.Keeps (closes : UUID → Prop) (before after : Coordinator) : Prop where
  records : before.journal.records.Rowwise (Record.Keeps closes) after.journal.records
  claim : after.journal.claim = before.journal.claim
  instanceId : after.instanceId = before.instanceId
  deadlines : after.deadlines = before.deadlines

namespace Coordinator.Keeps

variable {closes : UUID → Prop} {before after : Coordinator}

theorem of_records (records : after.journal.records = before.journal.records)
    (claim : after.journal.claim = before.journal.claim)
    (instanceId : after.instanceId = before.instanceId)
    (deadlines : after.deadlines = before.deadlines) : before.Keeps closes after where
  records := records ▸ .refl Record.Keeps.refl _
  claim := claim
  instanceId := instanceId
  deadlines := deadlines

theorem of_rewritten {assignmentId : UUID} {f : Record → Record}
    (rows : after.journal.records.rows =
      Table.rewriteAt Record.assignmentId assignmentId f before.journal.records.rows)
    (claim : after.journal.claim = before.journal.claim)
    (instanceId : after.instanceId = before.instanceId)
    (deadlines : after.deadlines = before.deadlines)
    (keeps : ∀ record : Record, record.assignmentId = assignmentId →
      record.Keeps closes (f record)) :
    before.Keeps closes after where
  records := Table.rowwise_of_rewriteAt rows Record.Keeps.refl fun record _ => keeps record
  claim := claim
  instanceId := instanceId
  deadlines := deadlines

end Coordinator.Keeps

/-- No record is closed. -/
abbrev noCloses : UUID → Prop := fun _ => False

section

variable (coordinator : Coordinator) (assignmentId : UUID)

theorem keeps_available : coordinator.Keeps noCloses coordinator.available :=
  .of_records rfl rfl rfl rfl

theorem keeps_claimFailed : coordinator.Keeps noCloses coordinator.claimFailed :=
  .of_records rfl rfl rfl rfl

theorem keeps_markClean : coordinator.Keeps noCloses (coordinator.markClean assignmentId) :=
  .of_rewritten rfl rfl rfl rfl fun _ _ => ⟨rfl, fun _ => rfl, .inl⟩

theorem keeps_markUncertain : coordinator.Keeps noCloses (coordinator.markUncertain assignmentId) :=
  .of_rewritten rfl rfl rfl rfl fun _ _ => ⟨rfl, id, .inl⟩

end

section

variable {world : World} {workerId : UUID} {offset : Time} {closes : UUID → Prop}
  {before after : Coordinator}

/-- The assignments are released in the database. -/
def World.Released (world : World) (ids : UUID → Prop) : Prop :=
  ∀ id, ids id → ∃ row ∈ world.db.assignments.rows, row.id = id ∧ ¬row.Unreleased

theorem Coordinator.Lawful.of_keeps (lawful : before.Lawful world workerId offset)
    (keeps : before.Keeps closes after) (closed : world.Released closes) :
    after.Lawful world workerId offset where
  tracked record member := by
    obtain ⟨old, old_mem, kept⟩ := keeps.records.exists_before member
    obtain ⟨row, row_mem, worker, fence, released⟩ := lawful.tracked old old_mem
    refine ⟨row, row_mem, worker, fence.trans kept.fence.symm, fun closing => ?_⟩
    rcases kept.released closing with earlier | permitted
    · exact released earlier
    · obtain ⟨other, other_mem, id_eq, other_closed⟩ := closed _ permitted
      have same : row.id = old.assignmentId := congrArg Fence.assignmentId fence
      rwa [world.db.assignments.eq_of_key_eq row_mem other_mem (same.trans id_eq.symm)]
  leased id deadline held := lawful.leased id deadline (keeps.deadlines ▸ held)
  unjournalled claim pending own record member := by
    obtain ⟨old, old_mem, kept⟩ := keeps.records.exists_before member
    obtain ⟨row, row_mem, id_eq, other⟩ := lawful.unjournalled claim (keeps.claim ▸ pending)
      (keeps.instanceId ▸ own) old old_mem
    exact ⟨row, row_mem, id_eq.trans kept.id_eq.symm, other⟩

theorem MainThread.Lawful.of_keeps (lawful : main.Lawful world workerId offset before)
    (keeps : before.Keeps closes after) : main.Lawful world workerId offset after := by
  unfold MainThread.Lawful at lawful ⊢
  rwa [keeps.claim, keeps.instanceId, keeps.deadlines]

end

end TrainingScheduler
