import TrainingScheduler.Scheduler.Operations

/-!
# The Worker's coordinator

`Coordinator` of `execution_state.py`: the durable journal of assignments with the pending claim,
and the volatile mode, lease deadlines and renewal numbers of one Worker process.  Clock readings
are arguments.
-/

namespace TrainingScheduler

/-- A journalled assignment. -/
structure Record where
  assignmentId : UUID
  kind : Kind
  attemptToken : UUID
  instanceId : UUID
  generation : Option Nat
  payload : Payload
  localClean : Bool := false
  released : Bool := false
  uncertain : Bool := false
  eventSequence : Nat := 0
  pendingResult : Option ResultValue := none
  resultAccepted : Bool := false
  runtimeFailureCode : Option FailureCode := none
  deriving DecidableEq, Repr

namespace Record

/-- `Fence.from_assignment`. -/
def fence (record : Record) : Fence where
  instanceId := record.instanceId
  assignmentId := record.assignmentId
  attemptToken := record.attemptToken
  generation := record.generation

end Record

/-- The record a claim response starts. -/
def Envelope.record (envelope : Envelope) (uncertain : Bool) : Record where
  assignmentId := envelope.assignmentId
  kind := envelope.kind
  attemptToken := envelope.attemptToken
  instanceId := envelope.instanceId
  generation := envelope.generation
  payload := envelope.payload
  uncertain := uncertain

/-- The state that survives a restart: the journal and the metadata table. -/
structure Journal where
  records : Table Record.assignmentId := .empty
  claim : Option Claim := none
  acceptingJobs : Bool := true

namespace Journal

def persist (journal : Journal) (record : Record) : Journal :=
  { journal with records := journal.records.put record }

def update (journal : Journal) (assignmentId : UUID) (f : Record → Record)
    (keeps : ∀ record, (f record).assignmentId = record.assignmentId) : Journal :=
  { journal with records := journal.records.modify assignmentId f keeps }

/-- The records whose release has not been confirmed. -/
def active (journal : Journal) : List Record :=
  journal.records.rows.filter fun record => !record.released

def dropClaim (journal : Journal) : Journal := { journal with claim := none }

end Journal

/-- Kinds that never share a Worker. -/
def exclusiveKinds : List Kind := [.interactive, .estimation]

/-- Modes in which no work is requested. -/
def modesBlocking : List Mode :=
  [.reconciling, .interactiveReserved, .interactiveActive, .cleaning, .uncertain]

/-- One Worker process under its host lock. -/
structure Coordinator where
  journal : Journal
  instanceId : UUID
  mode : Mode := .reconciling
  paused : Bool := false
  draining : Bool := false
  claimPending : Bool := false
  deadlines : UUID → Option Time := fun _ => none
  renewSequences : UUID → Nat := fun _ => 0

namespace Coordinator

variable (coordinator : Coordinator) (clock : Time) (assignmentId : UUID)

def estimationActive : Bool :=
  coordinator.journal.active.any fun record => record.kind == .estimation

def mayRequestWork : Bool :=
  !coordinator.paused && !coordinator.draining && coordinator.journal.acceptingJobs &&
    !modesBlocking.contains coordinator.mode && !coordinator.claimPending &&
    !coordinator.estimationActive

def available (coordinator : Coordinator) : Coordinator :=
  let active := coordinator.journal.active
  { coordinator with
    mode :=
      if active.any fun record => record.localClean || record.uncertain then .cleaning
      else if active.any fun record => record.kind == .interactive then .interactiveActive
      else if active.isEmpty then .available
      else .batchActive }

/-- Start a claim under the durable request, or under a new one if none is pending. -/
def beginClaim (requestId : UUID) : Option Claim × Coordinator :=
  if !coordinator.mayRequestWork then (none, coordinator)
  else
    let request := coordinator.journal.claim.getD ⟨coordinator.instanceId, requestId⟩
    if request.instanceId ≠ coordinator.instanceId then
      (none, { coordinator with mode := .uncertain })
    else
      (some request,
        { coordinator with
          claimPending := true
          journal := { coordinator.journal with claim := some request } })

/-- The new assignment cannot run beside what the journal holds. -/
def claimConflict (journal : Journal) (kind : Kind) : Bool :=
  !journal.acceptingJobs ||
    (!journal.active.isEmpty &&
      (exclusiveKinds.contains kind ||
        journal.active.any fun record => exclusiveKinds.contains record.kind))

/-- The local deadline of a lease of `budget` seconds requested at `sentAt`. -/
def leaseDeadline (sentAt budget : Time) : Time := sentAt + budget - 5

/-- Take a claim response: journal its assignment, set the local deadline from the time the request
was sent, and forget the durable claim. -/
def accept (reply : ClaimReply) (sentAt : Time) : Coordinator :=
  match reply.assignment with
  | none =>
    { coordinator with claimPending := false, journal := coordinator.journal.dropClaim }
  | some envelope =>
    let conflict := claimConflict coordinator.journal envelope.kind
    let deadline := leaseDeadline sentAt envelope.leaseSeconds
    { coordinator with
      claimPending := false
      journal := (coordinator.journal.persist (envelope.record conflict)).dropClaim
      deadlines := Function.update coordinator.deadlines envelope.assignmentId (some deadline)
      mode :=
        if conflict ∨ deadline ≤ clock then .uncertain
        else if envelope.kind = .interactive then .interactiveReserved
        else .batchActive }

/-- The request failed; the durable claim stays for a retry. -/
def claimFailed : Coordinator :=
  { coordinator with claimPending := false }

/-- The Worker may execute the assignment; an unknown assignment raises instead. -/
def authoritative : Bool :=
  match coordinator.journal.records.lookup assignmentId with
  | none => false
  | some record =>
    !record.localClean && !record.uncertain && !coordinator.draining &&
      decide (clock < (coordinator.deadlines assignmentId).getD 0)

/-- Extend an authoritative lease; the flag says whether it was extended. -/
def renew (sentAt budget : Time) (sequence : Nat) : Bool × Coordinator :=
  if sequence ≤ coordinator.renewSequences assignmentId ∨
      coordinator.authoritative clock assignmentId = false then (false, coordinator)
  else if leaseDeadline sentAt budget ≤ clock then (false, coordinator)
  else
    (true,
      { coordinator with
        deadlines := Function.update coordinator.deadlines assignmentId
          (some (leaseDeadline sentAt budget))
        renewSequences := Function.update coordinator.renewSequences assignmentId sequence })

def markUncertain : Coordinator :=
  { coordinator with
    journal := coordinator.journal.update assignmentId
      (fun record => { record with uncertain := true }) fun _ => rfl }

def markClean : Coordinator :=
  { coordinator with
    journal := coordinator.journal.update assignmentId
      (fun record => { record with localClean := true }) fun _ => rfl
    mode := .cleaning }

/-- Close a locally clean record. -/
def release : Coordinator :=
  available
    { coordinator with
      journal := coordinator.journal.update assignmentId
        (fun record => { record with released := true }) fun _ => rfl }

end Coordinator

/-- `execution_inventory`.  The hardware entries are taken from `probe`; the mode, the slots and the
local assignments come from the coordinator. -/
def executionInventory (coordinator : Coordinator) (probe : Inventory) (preflightReady : Bool)
    (availableSlots : Nat) : Inventory :=
  let records := coordinator.journal.active
  { probe with
    mode := coordinator.mode
    availableSlots :=
      if records.any fun record => record.kind == .estimation then 0
      else if coordinator.mode = .available ∨ coordinator.mode = .batchActive then
        availableSlots - records.length
      else 0
    localAssignments := records.map Record.assignmentId
    nvidiaRuntime := preflightReady
    quotaSupported := preflightReady
    interactiveReady := preflightReady }

end TrainingScheduler
