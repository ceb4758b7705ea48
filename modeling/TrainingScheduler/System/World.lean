import TrainingScheduler.Programs
import TrainingScheduler.Scheduler.Reports
import TrainingScheduler.Worker.Coordinator

/-!
# Scheduler and Workers together

The joint system: one Scheduler database, any number of Worker hosts with their journals and at most
one process each, and calls between them that may be delayed, lost, repeated or answered too late.
Time is the Scheduler's clock; the monotonic clock of a Worker process is a constant away from it.
The main thread of a process runs `startup` and then `poll_once`, its heartbeat thread runs
`heartbeat_once`; a step of a thread ends where another thread can interleave.  Cleanup, result and
event calls are not tied to a thread, and their outcomes are taken at any later time.
-/

namespace TrainingScheduler

/-- The body of a call to the Scheduler. -/
inductive Message where
  | claim (body : Claim)
  | heartbeat (body : Heartbeat)
  | event (body : Event)
  | result (body : Result)
  | cleanup (body : Cleanup)
  | register (body : Register)
  deriving DecidableEq

/-- A call of an authenticated Worker, with the Scheduler time at which it was sent. -/
structure Request where
  workerId : UUID
  sentAt : Time
  message : Message
  deriving DecidableEq

inductive Answer where
  | claim (reply : ClaimReply)
  | heartbeat (reply : HeartbeatReply)
  | event (reply : EventReply)
  | result
  | cleanup (released : Bool)
  | register (fences : List Fence)
  | rejected (exception : HTTPException)
  deriving DecidableEq

def Request.op (settings : Settings) (choose : Choose) (newId : Nat → UUID × UUID)
    (request : Request) : Op :=
  match request.message with
  | .claim body => .claim settings choose newId request.workerId body
  | .heartbeat body => .heartbeat settings request.workerId body
  | .event body => .event request.workerId body
  | .result body => .result request.workerId body
  | .cleanup body => .cleanup request.workerId body
  | .register body => .register request.workerId body

def Request.respond (settings : Settings) (digest : Digest) (choose : Choose)
    (newId : Nat → UUID × UUID) (now : Time) (db : Db) (request : Request) : Answer :=
  match request.message with
  | .claim body =>
    match claim settings digest choose newId now db request.workerId body with
    | .error exception => .rejected exception
    | .ok (reply, _) => .claim reply
  | .heartbeat body =>
    match heartbeat settings now db request.workerId body with
    | .error exception => .rejected exception
    | .ok (reply, _) => .heartbeat reply
  | .event body =>
    match event digest now db request.workerId body with
    | .error exception => .rejected exception
    | .ok (reply, _) => .event reply
  | .result body =>
    match result digest now db request.workerId body with
    | .error exception => .rejected exception
    | .ok _ => .result
  | .cleanup body =>
    match cleanup now db request.workerId body with
    | .error exception => .rejected exception
    | .ok (released, _) => .cleanup released
  | .register body => .register (register now db request.workerId body).1

/-- The program counter of the main thread. -/
inductive MainThread where
  | starting
  | resolving (call : Nat)
  | resolved
  | registering (call : Nat)
  | reconciling
  | polling
  | claiming (call : Nat) (sentAt : Time)

/-- The program counter of the heartbeat thread.  The listed records are read and the send time is
taken before the call is made; the decisions of the response are carried out one by one. -/
inductive BeatThread where
  | idle
  | collected (records : List Record) (sentAt : Time)
  | waiting (call : Nat) (sentAt : Time)
  | deciding (decisions : List Decision) (sentAt : Time) (sequence : Nat)

/-- A running Worker process; its monotonic clock is `offset` ahead of the Scheduler's. -/
structure Process where
  coordinator : Coordinator
  offset : Time
  main : MainThread := .starting
  beat : BeatThread := .idle
  sequence : Nat := 0

namespace Process

def clock (process : Process) (now : Time) : Time := now + process.offset

def journal (process : Process) : Journal := process.coordinator.journal

end Process

/-- A Worker host: the host lock admits one process at a time. -/
inductive Host where
  | down (journal : Journal)
  | up (process : Process)

/-- The durable state of a host. -/
def Host.journal : Host → Journal
  | .down journal => journal
  | .up process => process.journal

/-- The state of the joint system. -/
structure World where
  now : Time
  db : Db
  hosts : UUID → Host
  calls : Calls Request Answer := {}

namespace World

/-- The Scheduler carries out a call. -/
def serve (world : World) (settings : Settings) (digest : Digest) (choose : Choose)
    (newId : Nat → UUID × UUID) (call : Nat) (request : Request) : World :=
  { world with
    db := (request.op settings choose newId).apply digest world.now world.db
    calls := world.calls.answer call
      (request.respond settings digest choose newId world.now world.db) }

/-- A host moves on, possibly sending a call. -/
def act (world : World) (workerId : UUID) (host : Host) (message : Option Message) : World :=
  { world with
    hosts := Function.update world.hosts workerId host
    calls :=
      match message with
      | none => world.calls
      | some message => world.calls.send ⟨workerId, world.now, message⟩ }

theorem act_self (world : World) (workerId : UUID) (host : Host) (message : Option Message) :
    (world.act workerId host message).hosts workerId = host :=
  Function.update_self ..

theorem act_ne (world : World) {workerId other : UUID} {host : Host} {message : Option Message}
    (ne : other ≠ workerId) : (world.act workerId host message).hosts other = world.hosts other :=
  Function.update_of_ne ne ..

/-- The Worker holds execution authority for an assignment now. -/
def authoritative (world : World) (workerId assignmentId : UUID) : Bool :=
  match world.hosts workerId with
  | .down _ => false
  | .up process => process.coordinator.authoritative (process.clock world.now) assignmentId

end World

/-- The durable state after the response to a claim has been journalled, before the durable claim is
deleted.  A crash at this point leaves both. -/
def Journal.adopt (journal : Journal) (reply : ClaimReply) (conflict : Kind → Bool) : Journal :=
  match reply.assignment with
  | none => journal
  | some envelope => journal.persist (envelope.record (conflict envelope.kind))

/-- The record is locally clean, as its release demands. -/
def Journal.Clean (journal : Journal) (assignmentId : UUID) : Prop :=
  ∃ record, journal.records.lookup assignmentId = some record ∧ record.localClean = true

/-- What `startup` makes of the response to the durable claim. -/
def Coordinator.resolve (coordinator : Coordinator) (reply : ClaimReply) : Coordinator :=
  { coordinator with
    journal := (coordinator.journal.adopt reply fun _ => false).dropClaim }

/-- The body of a heartbeat that lists the collected records. -/
def heartbeatBody (coordinator : Coordinator) (sequence : Nat) (inventory : Inventory)
    (records : List Record) (health : UUID → Health) (ssh : UUID → SshReport) : Heartbeat where
  instanceId := coordinator.instanceId
  sequence := sequence
  paused := coordinator.paused
  draining := coordinator.draining || !coordinator.journal.acceptingJobs
  inventory := inventory
  assignments := records.map fun record =>
    { record.fence with
      health := health record.assignmentId
      ssh := ssh record.assignmentId }

/-- One decision of a heartbeat response for a journalled assignment. -/
def Coordinator.decide (coordinator : Coordinator) (clock sentAt : Time) (sequence : Nat)
    (decision : Decision) : Coordinator :=
  let renewed := coordinator.renew clock decision.assignmentId sentAt decision.leaseSeconds sequence
  if decision.action = .renew ∧ renewed.1 = true then renewed.2
  else { coordinator.markUncertain decision.assignmentId with mode := .cleaning }

section

variable (settings : Settings) (digest : Digest) (world : World) (workerId : UUID)
  (process : Process)

/-- One step of the main thread, and the call it sends: `startup`, then `poll_once`.  A request
identifier minted by `uuid4` belongs to no assignment. -/
inductive MainStep : Process → Option Message → Prop where
  | resolve (request : Claim) (main : process.main = .starting)
      (pending : process.journal.claim = some request) :
      MainStep { process with main := .resolving world.calls.next } (some (.claim request))
  | unclaimed (main : process.main = .starting) (pending : process.journal.claim = none) :
      MainStep { process with main := .resolved } none
  | resolved (call : Nat) (reply : ClaimReply) (main : process.main = .resolving call)
      (answered : world.calls.Answers call (.claim reply)) :
      MainStep
        { process with coordinator := process.coordinator.resolve reply, main := .resolved } none
  | register (gpuType : String) (probe : Inventory) (preflightReady : Bool) (slots : Nat)
      (main : process.main = .resolved) :
      MainStep { process with main := .registering world.calls.next }
        (some (.register
          { instanceId := process.coordinator.instanceId
            gpuType
            inventory := executionInventory process.coordinator probe preflightReady slots }))
  | registered (call : Nat) (fences : List Fence) (main : process.main = .registering call)
      (answered : world.calls.Answers call (.register fences))
      (known : ∀ fence ∈ fences, (process.journal.records.lookup fence.assignmentId).isSome) :
      MainStep { process with main := .reconciling } none
  | started (main : process.main = .reconciling) :
      MainStep { process with coordinator := process.coordinator.available, main := .polling } none
  | beginClaim (requestId : UUID) (request : Claim) (coordinator : Coordinator)
      (fresh : ∀ row ∈ world.db.assignments.rows, row.requestId ≠ requestId)
      (main : process.main = .polling)
      (begun : process.coordinator.beginClaim requestId = (some request, coordinator)) :
      MainStep
        { process with
          coordinator
          main := .claiming world.calls.next (process.clock world.now) }
        (some (.claim request))
  | declined (requestId : UUID) (coordinator : Coordinator) (main : process.main = .polling)
      (begun : process.coordinator.beginClaim requestId = (none, coordinator)) :
      MainStep { process with coordinator } none
  | accepted (call : Nat) (sentAt : Time) (reply : ClaimReply)
      (main : process.main = .claiming call sentAt)
      (answered : world.calls.Answers call (.claim reply)) :
      MainStep
        { process with
          coordinator := process.coordinator.accept (process.clock world.now) reply sentAt
          main := .polling } none
  | claimFailed (call : Nat) (sentAt : Time) (main : process.main = .claiming call sentAt) :
      MainStep
        { process with coordinator := process.coordinator.claimFailed, main := .polling } none

/-- One step of the heartbeat thread, and the call it sends. -/
inductive BeatStep : Process → Option Message → Prop where
  | collect (beat : process.beat = .idle) :
      BeatStep
        { process with
          beat := .collected process.journal.active (process.clock world.now)
          sequence := process.sequence + 1 } none
  | send (records : List Record) (sentAt : Time) (probe : Inventory) (preflightReady : Bool)
      (slots : Nat) (health : UUID → Health) (ssh : UUID → SshReport)
      (beat : process.beat = .collected records sentAt) :
      BeatStep { process with beat := .waiting world.calls.next sentAt }
        (some (.heartbeat (heartbeatBody process.coordinator process.sequence
          (executionInventory process.coordinator probe preflightReady slots) records health ssh)))
  | answered (call : Nat) (sentAt : Time) (reply : HeartbeatReply)
      (beat : process.beat = .waiting call sentAt)
      (answered : world.calls.Answers call (.heartbeat reply)) :
      BeatStep { process with beat := .deciding reply.decisions sentAt reply.sequence } none
  | failed (call : Nat) (sentAt : Time) (beat : process.beat = .waiting call sentAt) :
      BeatStep { process with beat := .idle } none
  | decide (decision : Decision) (rest : List Decision) (sentAt : Time) (sequence : Nat)
      (beat : process.beat = .deciding (decision :: rest) sentAt sequence)
      (known : (process.journal.records.lookup decision.assignmentId).isSome) :
      BeatStep
        { process with
          coordinator := process.coordinator.decide (process.clock world.now) sentAt sequence
            decision
          beat := .deciding rest sentAt sequence } none
  | decided (decisions : List Decision) (sentAt : Time) (sequence : Nat)
      (beat : process.beat = .deciding decisions sentAt sequence) :
      BeatStep { process with beat := .idle } none

/-- One step on the journal made by `maintenance`, by the reconciliation loop of `startup`, by the
threads that execute assignments or by the operator, and the call it sends. -/
inductive UpkeepStep : Coordinator → Option Message → Prop where
  | markClean (assignmentId : UUID) : UpkeepStep (process.coordinator.markClean assignmentId) none
  | markUncertain (assignmentId : UUID) :
      UpkeepStep (process.coordinator.markUncertain assignmentId) none
  | annotate (assignmentId : UUID) (eventSequence : Nat) (pendingResult : Option ResultValue)
      (resultAccepted : Bool) (runtimeFailureCode : Option FailureCode) :
      UpkeepStep
        { process.coordinator with
          journal := process.journal.update assignmentId (fun record =>
            { record with eventSequence, pendingResult, resultAccepted, runtimeFailureCode })
            fun _ => rfl } none
  | adjust (paused draining acceptingJobs : Bool) (mode : Mode) :
      UpkeepStep
        { process.coordinator with
          paused, draining, mode
          journal := { process.journal with acceptingJobs } } none
  | sendEvent (record : Record) (phase : Phase) (health : Health) (failureCode : Option FailureCode)
      (ssh : SshReport) (member : record ∈ process.journal.active) :
      UpkeepStep process.coordinator
        (some (.event { record.fence with
          sequence := record.eventSequence
          phase, health, failureCode, ssh }))
  | sendResult (record : Record) (value : ResultValue) (member : record ∈ process.journal.active)
      (pending : record.pendingResult = some value) :
      UpkeepStep process.coordinator (some (.result { record.fence with value }))
  | sendCleanup (record : Record) (member : record ∈ process.journal.active)
      (clean : record.localClean = true) :
      UpkeepStep process.coordinator
        (some (.cleanup { record.fence with failureCode := record.runtimeFailureCode }))
  | released (call : Nat) (request : Request) (body : Cleanup)
      (carried : world.calls.Carries call request) (sender : request.workerId = workerId)
      (message : request.message = .cleanup body)
      (answered : world.calls.Answers call (.cleanup true))
      (clean : process.journal.Clean body.assignmentId) :
      UpkeepStep (process.coordinator.release body.assignmentId) none
  | closed (call : Nat) (request : Request) (body : Cleanup) (exception : HTTPException)
      (main : process.main = .reconciling) (carried : world.calls.Carries call request)
      (sender : request.workerId = workerId) (message : request.message = .cleanup body)
      (answered : world.calls.Answers call (.rejected exception))
      (conflict : exception.status = 409) (clean : process.journal.Clean body.assignmentId) :
      UpkeepStep (process.coordinator.release body.assignmentId) none

/-- One step of a host, and the call it sends.  The instance minted for a new process is not the one
of the durable claim.  The two interrupted steps are crashes between the commit that journals an
assignment and the commit that deletes the durable claim. -/
inductive HostStep : Host → Host → Option Message → Prop where
  | boot (journal : Journal) (instanceId : UUID) (offset : Time)
      (fresh : ∀ claim, journal.claim = some claim → claim.instanceId ≠ instanceId)
      (clock : 0 ≤ world.now + offset) :
      HostStep (.down journal) (.up { coordinator := { journal, instanceId }, offset }) none
  | crash (process : Process) : HostStep (.up process) (.down process.journal) none
  | resolveInterrupted (process : Process) (call : Nat) (reply : ClaimReply)
      (main : process.main = .resolving call)
      (answered : world.calls.Answers call (.claim reply)) :
      HostStep (.up process) (.down (process.journal.adopt reply fun _ => false)) none
  | acceptInterrupted (process : Process) (call : Nat) (sentAt : Time) (reply : ClaimReply)
      (main : process.main = .claiming call sentAt)
      (answered : world.calls.Answers call (.claim reply)) :
      HostStep (.up process)
        (.down (process.journal.adopt reply (Coordinator.claimConflict process.journal))) none
  | main (process next : Process) (message : Option Message)
      (step : MainStep world process next message) :
      HostStep (.up process) (.up next) message
  | beat (process next : Process) (message : Option Message)
      (step : BeatStep world process next message) :
      HostStep (.up process) (.up next) message
  | upkeep (process : Process) (coordinator : Coordinator) (message : Option Message)
      (step : UpkeepStep world workerId process coordinator message) :
      HostStep (.up process) (.up { process with coordinator }) message

/-- One step of the joint system. -/
inductive World.Step : World → Prop where
  | tick (later : Time) (order : world.now ≤ later) : World.Step { world with now := later }
  | serve (call : Nat) (request : Request) (choose : Choose) (newId : Nat → UUID × UUID)
      (carried : world.calls.Carries call request) :
      World.Step (world.serve settings digest choose newId call request)
  | expire : World.Step { world with db := expire world.now world.db }
  | concludeStop (token assignmentId : UUID) (enrollment : Option UUID) (revoked : Bool) :
      World.Step
        { world with db := concludeStop token world.now world.db assignmentId enrollment revoked }
  | outside (db : Db) (assignments : db.assignments = world.db.assignments)
      (workers : KeepsWorkers (fun _ => False) world.db db) :
      World.Step { world with db }
  | host (workerId : UUID) (host : Host) (message : Option Message)
      (step : HostStep world workerId (world.hosts workerId) host message) :
      World.Step (world.act workerId host message)

end

section

variable {settings : Settings} {digest : Digest} {world : World} {workerId : UUID}
  {process next : Process} {message : Option Message}

theorem World.Step.main (current : world.hosts workerId = .up process)
    (step : MainStep world process next message) :
    World.Step settings digest world (world.act workerId (.up next) message) :=
  .host workerId _ _ (current ▸ .main process next message step)

theorem World.Step.beat (current : world.hosts workerId = .up process)
    (step : BeatStep world process next message) :
    World.Step settings digest world (world.act workerId (.up next) message) :=
  .host workerId _ _ (current ▸ .beat process next message step)

end

/-- A Worker that is down or between two calls, with an empty journal and no durable claim. -/
def Host.Fresh (now : Time) : Host → Prop
  | .down journal => journal.records.rows = [] ∧ journal.claim = none
  | .up process =>
    process.journal.records.rows = [] ∧ process.journal.claim = none ∧
      (process.main = .starting ∨ process.main = .polling) ∧ process.beat = .idle ∧
      (∀ id, process.coordinator.deadlines id = none) ∧ 0 ≤ process.clock now

/-- A deployment before the first claim. -/
structure World.Initial (world : World) : Prop where
  unassigned : world.db.assignments.rows = []
  silent : world.calls.requests = [] ∧ world.calls.answers = []
  fresh : ∀ workerId, (world.hosts workerId).Fresh world.now

/-- The states reached from a deployment before the first claim. -/
def World.Reachable (settings : Settings) (digest : Digest) (world : World) : Prop :=
  ∃ initial : World, initial.Initial ∧
    Relation.ReflTransGen (World.Step settings digest) initial world

namespace Deployment

def idle (instanceId : UUID) : Process where
  coordinator := { journal := {}, instanceId, mode := .available }
  offset := 0
  main := .polling

def replyOf : Answer → ClaimReply
  | .claim reply => reply
  | _ => {}

def begins (world : World) (requestId : UUID) (process : Process) : Process :=
  { process with
    coordinator := (process.coordinator.beginClaim requestId).2
    main := .claiming world.calls.next (process.clock world.now) }

/-- The process once the reply to a claim sent at the current instant is taken. -/
def accepts (world : World) (reply : ClaimReply) (process : Process) : Process :=
  { process with
    coordinator := process.coordinator.accept (process.clock world.now) reply
      (process.clock world.now)
    main := .polling }

/-- The process once it has read its journal for a heartbeat. -/
def collects (world : World) (process : Process) : Process :=
  { process with
    beat := .collected process.journal.active (process.clock world.now)
    sequence := process.sequence + 1 }

/-- The heartbeat that the process sends with the records it has read. -/
def beatBody (observedAt : Time) (process : Process) (records : List Record) : Heartbeat :=
  heartbeatBody process.coordinator process.sequence
    (executionInventory process.coordinator { inventory with observedAt } true 2) records
    (fun _ => {}) fun _ => {}

/-- The process once its heartbeat is sent at the instant at which it read its journal. -/
def beats (world : World) (process : Process) : Process :=
  { process with beat := .waiting world.calls.next (process.clock world.now) }

end Deployment

end TrainingScheduler
