import Mathlib
import TrainingScheduler.Worker.Coordinator

/-!
# Exclusive assignments of one Worker

The coordinator of `execution_state.py` against a Scheduler that may answer a claim with anything:
an assignment without an identifier, a kind or a lease, of an unknown kind, or under the identifier
of another assignment.  What a call wrote before it raised stays.  Whatever comes, an exclusive
assignment that the Worker may execute is the only one, and only a clean assignment is released.
-/

namespace TrainingScheduler.Exclusivity

open Table Coordinator

/-- The `kind` of an assignment, as an answer may have it. -/
inductive KindEntry where
  | known (kind : Kind)
  | unknown
  | unhashable
  | missing
  deriving DecidableEq, Repr

namespace KindEntry

def exclusive : KindEntry → Bool
  | known kind => exclusiveKinds.contains kind
  | unknown | unhashable | missing => false

/-- `kind in EXCLUSIVE_KINDS`, or nothing if that raises. -/
def isExclusive : KindEntry → Option Bool
  | known kind => some (exclusiveKinds.contains kind)
  | unknown => some false
  | unhashable | missing => none

/-- `kind == "interactive_access"`, or nothing if that raises. -/
def isInteractive : KindEntry → Option Bool
  | known kind => some (kind == .interactive)
  | unknown | unhashable => some false
  | missing => none

end KindEntry

/-- `any` of a test that may raise. -/
def anyEntry {α : Type} (test : α → Option Bool) : List α → Option Bool
  | [] => some false
  | head :: rest => (test head).bind fun found => if found then some true else anyEntry test rest

structure Answer where
  assignmentId : Option UUID
  kind : KindEntry
  leaseSeconds : Option Time
  uncertain : Bool := false
  deriving DecidableEq, Repr

/-- The entries of a journalled assignment that the coordinator reads. -/
structure Entry where
  assignmentId : UUID
  kind : KindEntry
  localClean : Bool := false
  released : Bool := false
  uncertain : Bool := false
  deriving DecidableEq, Repr

/-- The journal and the metadata survive a restart, the rest does not. -/
structure Process where
  records : Table Entry.assignmentId := .empty
  claim : Option Claim := none
  acceptingJobs : Bool := true
  instanceId : UUID
  mode : Mode := .reconciling
  paused : Bool := false
  draining : Bool := false
  claimPending : Bool := false
  deadlines : UUID → Option Time := fun _ => none
  renewSequences : UUID → ℕ := fun _ => 0

namespace Process

variable (process : Process) (clock : ℚ≥0) (assignmentId : UUID)

def active : List Entry :=
  process.records.rows.filter fun entry => !entry.released

def estimationActive : Bool :=
  process.active.any fun entry => entry.kind == .known .estimation

def mayRequestWork : Bool :=
  !process.paused && !process.draining && process.acceptingJobs &&
    !modesBlocking.contains process.mode && !process.claimPending && !process.estimationActive

/-- `begin_claim`. -/
def beginClaim (requestId : UUID) : Process :=
  if !process.mayRequestWork then process
  else
    let request := process.claim.getD ⟨process.instanceId, requestId⟩
    if request.instanceId ≠ process.instanceId then { process with mode := .uncertain }
    else { process with claimPending := true, claim := some request }

/-- The new assignment cannot run beside what the journal holds; nothing if the look raises. -/
def conflict (kind : KindEntry) : Option Bool :=
  if !process.acceptingJobs then some true
  else if process.active.isEmpty then some false
  else
    kind.isExclusive.bind fun own =>
      if own then some true else anyEntry (fun entry => entry.kind.isExclusive) process.active

/-- The end of `accept`: the mode, unless the kind is missing, and the end of the claim. -/
def engage (kind : KindEntry) (refused : Bool) : Process :=
  if refused then { process with mode := .uncertain, claim := none }
  else
    match kind.isInteractive with
    | none => process
    | some true => { process with mode := .interactiveReserved, claim := none }
    | some false => { process with mode := .batchActive, claim := none }

/-- `accept`.  The boot identifier of the host may be unreadable. -/
def accept (answer : Option Answer) (sentAt : Time) (bootId : Bool) : Process :=
  let process := { process with claimPending := false }
  match answer with
  | none => { process with claim := none }
  | some answer =>
    match process.conflict answer.kind, answer.assignmentId with
    | some conflict, some assignmentId =>
      let process := { process with
        records := process.records.put
          { assignmentId, kind := answer.kind, uncertain := conflict } }
      match answer.leaseSeconds with
      | none => process
      | some budget =>
        let deadline := Coordinator.leaseDeadline sentAt budget
        let process := { process with
          deadlines := Function.update process.deadlines assignmentId (some deadline) }
        if !bootId then process
        else process.engage answer.kind (conflict || decide (deadline ≤ clock))
    | _, _ => process

/-- `claim_failed`. -/
def claimFailed : Process := { process with claimPending := false }

/-- `authoritative`; an unknown assignment raises instead. -/
def authoritative : Bool :=
  match process.records.lookup assignmentId with
  | none => false
  | some entry =>
    !entry.localClean && !entry.uncertain && !process.draining &&
      decide ((clock : ℚ) < (process.deadlines assignmentId).getD 0)

/-- `renew`. -/
def renew (sentAt budget : Time) (sequence : ℕ) : Process :=
  if sequence ≤ process.renewSequences assignmentId ∨
      process.authoritative clock assignmentId = false then process
  else if Coordinator.leaseDeadline sentAt budget ≤ clock then process
  else
    { process with
      deadlines := Function.update process.deadlines assignmentId
        (some (Coordinator.leaseDeadline sentAt budget))
      renewSequences := Function.update process.renewSequences assignmentId sequence }

/-- `update` that sets `uncertain`, or entries that the coordinator does not read. -/
def update (uncertain : Bool) : Process :=
  { process with
    records := process.records.modify assignmentId
      (fun entry => { entry with uncertain := entry.uncertain || uncertain }) fun _ => rfl }

/-- `mark_clean`; an unknown assignment raises. -/
def markClean : Process :=
  if (process.records.lookup assignmentId).isNone then process
  else
    { process with
      records := process.records.modify assignmentId
        (fun entry => { entry with localClean := true }) fun _ => rfl
      mode := .cleaning }

/-- `available`. -/
def available (process : Process) : Process :=
  if process.active.any fun entry => entry.localClean || entry.uncertain then
    { process with mode := .cleaning }
  else
    match anyEntry (fun entry => entry.kind.isInteractive) process.active with
    | none => process
    | some true => { process with mode := .interactiveActive }
    | some false =>
      { process with mode := if process.active.isEmpty then .available else .batchActive }

/-- `released`; it raises unless the assignment is clean. -/
def released (process : Process) (assignmentId : UUID) : Process :=
  match process.records.lookup assignmentId with
  | none => process
  | some entry =>
    if !entry.localClean then process
    else
      available { process with
        records := process.records.modify assignmentId
          (fun entry => { entry with released := true }) fun _ => rfl }

/-- The answer to the claim that a process left behind, unless the request fails. -/
inductive Resolution where
  | failed
  | answered (answer : Option Answer)
  deriving DecidableEq, Repr

/-- A new process opens the journal, and `startup` journals the assignment of the pending claim. -/
def restart (instanceId : UUID) (resolution : Resolution) : Process :=
  let fresh : Process :=
    { records := process.records
      claim := process.claim
      acceptingJobs := process.acceptingJobs
      instanceId := instanceId }
  match process.claim, resolution with
  | none, _ | some _, .failed => fresh
  | some _, .answered none => { fresh with claim := none }
  | some _, .answered (some answer) =>
    match answer.assignmentId with
    | none => fresh
    | some assignmentId =>
      { fresh with
        records := process.records.put
          { assignmentId, kind := answer.kind, uncertain := answer.uncertain }
        claim := none }

end Process

/-- The calls on a coordinator.  `control` stands for what the rest of the Worker sets directly. -/
inductive Call where
  | beginClaim (requestId : UUID)
  | accept (clock : ℚ≥0) (answer : Option Answer) (sentAt : Time) (bootId : Bool)
  | claimFailed
  | renew (clock : ℚ≥0) (assignmentId : UUID) (sentAt budget : Time) (sequence : ℕ)
  | update (assignmentId : UUID) (uncertain : Bool)
  | markClean (assignmentId : UUID)
  | released (assignmentId : UUID)
  | available
  | control (mode : Mode) (paused draining acceptingJobs : Bool)
  | restart (instanceId : UUID) (resolution : Process.Resolution)

variable (process : Process) (coordinator : Coordinator) (clock : ℚ≥0)

def Call.perform : Call → Process
  | beginClaim requestId => process.beginClaim requestId
  | accept clock answer sentAt bootId => process.accept clock answer sentAt bootId
  | claimFailed => process.claimFailed
  | renew clock assignmentId sentAt budget sequence =>
    process.renew clock assignmentId sentAt budget sequence
  | update assignmentId uncertain => process.update assignmentId uncertain
  | markClean assignmentId => process.markClean assignmentId
  | released assignmentId => process.released assignmentId
  | available => process.available
  | control mode paused draining acceptingJobs =>
    { process with mode, paused, draining, acceptingJobs }
  | restart instanceId resolution => process.restart instanceId resolution

def performAll (calls : List Call) : Process :=
  calls.foldl Call.perform process

def Envelope.answer (envelope : Envelope) : Answer where
  assignmentId := some envelope.assignmentId
  kind := .known envelope.kind
  leaseSeconds := some envelope.leaseSeconds

def Record.entry (record : Record) : Entry where
  assignmentId := record.assignmentId
  kind := .known record.kind
  localClean := record.localClean
  released := record.released
  uncertain := record.uncertain

/-- The coordinator with all entries of its journal in order. -/
def processOf : Process where
  records := coordinator.journal.records.image Record.entry fun _ => rfl
  claim := coordinator.journal.claim
  acceptingJobs := coordinator.journal.acceptingJobs
  instanceId := coordinator.instanceId
  mode := coordinator.mode
  paused := coordinator.paused
  draining := coordinator.draining
  claimPending := coordinator.claimPending
  deadlines := coordinator.deadlines
  renewSequences := coordinator.renewSequences

theorem anyEntry_map {records : List Record} {test : KindEntry → Option Bool} {holds : Kind → Bool}
    (total : ∀ kind, test (.known kind) = some (holds kind)) :
    anyEntry (fun entry : Entry => test entry.kind) (records.map Record.entry) =
      some (records.any fun record => holds record.kind) := by
  induction records with
  | nil => rfl
  | cons head rest induction =>
    rw [List.map_cons, anyEntry, Record.entry, total, Option.bind_some, List.any_cons]
    cases holds head.kind with
    | true => rfl
    | false => exact induction

theorem conflict_processOf (kind : Kind) :
    (processOf coordinator).conflict (.known kind) =
      some (claimConflict coordinator.journal kind) := by
  unfold Process.conflict claimConflict
  rw [show (processOf coordinator).active = coordinator.journal.active.map Record.entry from
    List.filter_map, anyEntry_map fun _ => rfl]
  simp only [processOf, KindEntry.isExclusive, Option.bind_some, List.isEmpty_map]
  cases coordinator.journal.acceptingJobs <;> cases coordinator.journal.active.isEmpty <;>
    cases exclusiveKinds.contains kind <;> rfl

/-- On an answer that is in order, `accept` is that of the coordinator. -/
theorem processOf_accept (reply : ClaimReply) (sentAt : Time) :
    processOf (coordinator.accept clock reply sentAt) =
      (processOf coordinator).accept clock (reply.assignment.map Envelope.answer) sentAt true := by
  unfold accept Process.accept
  cases reply.assignment with
  | none => rfl
  | some envelope =>
    have passed := conflict_processOf { coordinator with claimPending := false } envelope.kind
    have records (conflict : Bool) :
        (coordinator.journal.records.put (envelope.record conflict)).image Record.entry
          (fun _ => rfl) = (processOf coordinator).records.put
            { assignmentId := envelope.assignmentId
              kind := .known envelope.kind
              uncertain := conflict } :=
      image_put _ _ _
    simp only [Option.map_some, Envelope.answer]
    rw [show ({ processOf coordinator with claimPending := false } : Process) =
      processOf { coordinator with claimPending := false } from rfl, passed]
    simp only [Process.engage, Bool.not_true, Bool.false_eq_true, if_false]
    by_cases refused : claimConflict coordinator.journal envelope.kind = true ∨
        leaseDeadline sentAt envelope.leaseSeconds ≤ clock
    · have rejects : (claimConflict coordinator.journal envelope.kind ||
          decide (leaseDeadline sentAt envelope.leaseSeconds ≤ clock)) = true := by
        simpa using refused
      rw [if_pos refused, if_pos rejects, ← records]
      rfl
    · have admits : ¬ (claimConflict coordinator.journal envelope.kind ||
          decide (leaseDeadline sentAt envelope.leaseSeconds ≤ clock)) = true := by
        simpa using refused
      rw [if_neg refused, if_neg admits, ← records]
      obtain ⟨kind, _, _, _, _, _, _, _⟩ := envelope
      cases kind <;> rfl

theorem authoritative_processOf (assignmentId : UUID) :
    (processOf coordinator).authoritative clock assignmentId =
      coordinator.authoritative clock assignmentId := by
  have found : (processOf coordinator).records.lookup assignmentId =
      (coordinator.journal.records.lookup assignmentId).map Record.entry :=
    lookup_image _ (fun _ => rfl) _
  unfold Process.authoritative authoritative
  rw [found]
  cases coordinator.journal.records.lookup assignmentId <;> rfl

private theorem processOf_renew (assignmentId : UUID) (sentAt budget : Time) (sequence : ℕ) :
    processOf (coordinator.renew clock assignmentId sentAt budget sequence).2 =
      (processOf coordinator).renew clock assignmentId sentAt budget sequence := by
  unfold Process.renew renew
  rw [authoritative_processOf]
  by_cases refused : sequence ≤ coordinator.renewSequences assignmentId ∨
      coordinator.authoritative clock assignmentId = false
  · rw [if_pos refused]
    exact (if_pos refused).symm
  · rw [if_neg refused]
    refine Eq.trans ?_ (if_neg refused).symm
    split <;> rfl

/-- A coordinator that is answered in order behaves as the process with its journal and leases: it
finds the same conflicts, may execute the same assignments, and `accept`, `renew` and `update` lead
to the process of the next coordinator. -/
theorem coordinator_simulated :
    (∀ kind, (processOf coordinator).conflict (.known kind) =
      some (claimConflict coordinator.journal kind)) ∧
    (∀ assignmentId, (processOf coordinator).authoritative clock assignmentId =
      coordinator.authoritative clock assignmentId) ∧
    (∀ reply sentAt, processOf (coordinator.accept clock reply sentAt) =
      (processOf coordinator).accept clock (reply.assignment.map Envelope.answer) sentAt true) ∧
    (∀ assignmentId sentAt budget sequence,
      processOf (coordinator.renew clock assignmentId sentAt budget sequence).2 =
        (processOf coordinator).renew clock assignmentId sentAt budget sequence) ∧
    ∀ assignmentId, processOf (coordinator.markUncertain assignmentId) =
      (processOf coordinator).update assignmentId true := by
  refine ⟨conflict_processOf coordinator, authoritative_processOf coordinator clock,
    processOf_accept coordinator clock, processOf_renew coordinator clock, fun assignmentId => ?_⟩
  refine congrArg (fun records => { processOf coordinator with records })
    (image_modify _ _ ?_ _ fun record => ?_)
  · exact fun _ => rfl
  · simp [Record.entry]

/-- What a call does to a journalled assignment. -/
structure Entry.Step (call : Call) (old entry : Entry) : Prop where
  assignmentId : old.assignmentId = entry.assignmentId
  kind : entry.kind = old.kind
  uncertain : old.uncertain = true → entry.uncertain = true
  cleaned : old.localClean = true → entry.localClean = true
  clean : entry.localClean = true → old.localClean = true ∨ call = .markClean entry.assignmentId
  closed : old.released = true → entry.released = true
  released : entry.released = true → old.released = true ∨
    call = .released entry.assignmentId ∧ old.localClean = true

theorem Entry.Step.refl (call : Call) (entry : Entry) : Entry.Step call entry entry where
  assignmentId := rfl
  kind := rfl
  uncertain := id
  cleaned := id
  clean := .inl
  closed := id
  released := .inl

/-- The assignment can run beside those that are not released. -/
def Process.Compatible (kind : KindEntry) : Prop :=
  process.active = [] ∨
    kind.exclusive = false ∧ ∀ entry ∈ process.active, entry.kind.exclusive = false

/-- A call rewrites assignments in place and starts no lease, or journals one assignment. -/
inductive Change (call : Call) (before after : Process) : Prop where
  | rewritten
      (entries : ∀ entry ∈ after.records.rows, ∃ old ∈ before.records.rows, old.Step call entry)
      (leases : ∀ assignmentId, (after.deadlines assignmentId).isSome →
        (before.deadlines assignmentId).isSome)
  | journalled (entry : Entry) (records : after.records = before.records.put entry)
      (dirty : entry.localClean = false) (opened : entry.released = false)
      (leases : ∀ assignmentId, assignmentId ≠ entry.assignmentId →
        (after.deadlines assignmentId).isSome → (before.deadlines assignmentId).isSome)
      (compatible : entry.uncertain = false → before.Compatible entry.kind ∨
        ∀ assignmentId, after.deadlines assignmentId = none)

namespace Change

variable {call : Call} {before after : Process}

theorem of_same (records : after.records = before.records)
    (deadlines : after.deadlines = before.deadlines) : Change call before after := by
  refine .rewritten (fun entry member => ?_) fun assignmentId lease => deadlines ▸ lease
  exact ⟨entry, records ▸ member, .refl call entry⟩

theorem of_rewriteAt {assignmentId : UUID} {f : Entry → Entry}
    (rows : after.records.rows =
      Table.rewriteAt Entry.assignmentId assignmentId f before.records.rows)
    (deadlines : after.deadlines = before.deadlines)
    (step : ∀ entry ∈ before.records.rows, entry.assignmentId = assignmentId →
      entry.Step call (f entry)) : Change call before after := by
  refine .rewritten (fun entry member => ?_) fun assignmentId lease => deadlines ▸ lease
  rw [rows] at member
  rcases mem_rewriteAt.mp member with ⟨same, -⟩ | ⟨old, old_mem, named, rfl⟩
  · exact ⟨entry, same, .refl call entry⟩
  · exact ⟨old, old_mem, step old old_mem named⟩

end Change

private theorem anyEntry_eq_false {α : Type} {test : α → Option Bool} {list : List α}
    (passed : anyEntry test list = some false) : ∀ item ∈ list, test item = some false := by
  induction list with
  | nil => simp
  | cons head rest induction =>
    obtain ⟨found, tested, remaining⟩ := Option.bind_eq_some_iff.mp passed
    cases found with
    | true => simp at remaining
    | false =>
      intro item member
      rcases List.mem_cons.mp member with rfl | later
      · exact tested
      · exact induction (by simpa using remaining) item later

theorem KindEntry.exclusive_of_isExclusive {kind : KindEntry} {value : Bool}
    (tested : kind.isExclusive = some value) : kind.exclusive = value := by
  cases kind <;> simp_all [isExclusive, exclusive]

namespace Process

variable {process : Process}

theorem compatible_of_conflict {kind : KindEntry} (passed : process.conflict kind = some false) :
    process.Compatible kind := by
  unfold conflict at passed
  split at passed
  · cases passed
  · split at passed
    · rename_i empty
      exact .inl (List.isEmpty_iff.mp empty)
    · obtain ⟨own, tested, remaining⟩ := Option.bind_eq_some_iff.mp passed
      cases own with
      | true => simp at remaining
      | false =>
        refine .inr ⟨KindEntry.exclusive_of_isExclusive tested, fun entry member => ?_⟩
        have others := anyEntry_eq_false (by simpa using remaining) entry member
        exact KindEntry.exclusive_of_isExclusive others

theorem records_engage (kind : KindEntry) (refused : Bool) :
    (process.engage kind refused).records = process.records := by
  unfold engage
  split
  · rfl
  · split <;> rfl

theorem records_available : process.available.records = process.records := by
  unfold available
  split
  · rfl
  · split <;> rfl

theorem deadlines_available : process.available.deadlines = process.deadlines := by
  unfold available
  split
  · rfl
  · split <;> rfl

/-- The clock has not run backwards from zero: authority rests on a lease of this process. -/
theorem lease_of_authoritative {clock : ℚ≥0} {assignmentId : UUID}
    (authority : process.authoritative clock assignmentId = true) :
    ∃ entry, process.records.lookup assignmentId = some entry ∧ entry.localClean = false ∧
      entry.uncertain = false ∧ (process.deadlines assignmentId).isSome := by
  unfold authoritative at authority
  cases found : process.records.lookup assignmentId with
  | none => simp [found] at authority
  | some entry =>
    simp only [found, Bool.and_eq_true, Bool.not_eq_true', decide_eq_true_eq] at authority
    refine ⟨entry, rfl, authority.1.1.1, authority.1.1.2, ?_⟩
    cases lease : process.deadlines assignmentId with
    | none =>
      rw [lease, Option.getD_none] at authority
      exact absurd authority.2 (not_lt.mpr clock.2)
    | some deadline => rfl

theorem change_accept (clock : ℚ≥0) (answer : Option Answer) (sentAt : Time) (bootId : Bool) :
    Change (.accept clock answer sentAt bootId) process
      (process.accept clock answer sentAt bootId) := by
  unfold accept
  cases answer with
  | none => exact .of_same rfl rfl
  | some answer =>
    dsimp only
    split
    · rename_i conflict assignmentId passed _
      have compatible (certain : conflict = false) : process.Compatible answer.kind :=
        compatible_of_conflict (certain ▸ passed)
      have leases {deadline : Time} (other : UUID) (ne : other ≠ assignmentId)
          (lease : (Function.update process.deadlines assignmentId (some deadline) other).isSome) :
          (process.deadlines other).isSome := by
        rwa [Function.update_of_ne ne] at lease
      split
      · exact .journalled _ rfl rfl rfl (fun _ _ lease => lease) fun certain =>
          .inl (compatible certain)
      · split
        · exact .journalled _ rfl rfl rfl leases fun certain => .inl (compatible certain)
        · refine .journalled { assignmentId, kind := answer.kind, uncertain := conflict } ?_ rfl rfl
            ?_ fun certain => .inl (compatible certain)
          · exact records_engage _ _
          · unfold engage
            split
            · exact leases
            · split <;> exact leases
    · exact .of_same rfl rfl

theorem change_renew (clock : ℚ≥0) (assignmentId : UUID) (sentAt budget : Time) (sequence : ℕ) :
    Change (.renew clock assignmentId sentAt budget sequence) process
      (process.renew clock assignmentId sentAt budget sequence) := by
  unfold renew
  split
  · exact .of_same rfl rfl
  · rename_i renewable
    have authority : process.authoritative clock assignmentId = true := by
      simpa using (not_or.mp renewable).2
    split
    · exact .of_same rfl rfl
    · refine .rewritten (fun entry member => ⟨entry, member, .refl _ entry⟩) fun other lease => ?_
      by_cases same : other = assignmentId
      · obtain ⟨-, -, -, -, granted⟩ := lease_of_authoritative authority
        exact same ▸ granted
      · dsimp only at lease
        rwa [Function.update_of_ne same] at lease

private theorem change_released (assignmentId : UUID) :
    Change (.released assignmentId) process (process.released assignmentId) := by
  unfold released
  split
  · exact .of_same rfl rfl
  · rename_i entry found
    split
    · exact .of_same rfl rfl
    · rename_i dirty
      have clean : entry.localClean = true := by simpa using dirty
      refine .of_rewriteAt (congrArg Table.rows records_available) deadlines_available
        fun old member named => ?_
      have same := eq_of_lookup found member named
      exact
        { assignmentId := rfl
          kind := rfl
          uncertain := id
          cleaned := id
          clean := .inl
          closed := fun _ => rfl
          released := fun _ => .inr ⟨by rw [named], same ▸ clean⟩ }

private theorem change_restart (instanceId : UUID) (resolution : Resolution) :
    Change (.restart instanceId resolution) process (process.restart instanceId resolution) := by
  have reopened (after : Process) (records : after.records = process.records)
      (deadlines : ∀ assignmentId, after.deadlines assignmentId = none) :
      Change (.restart instanceId resolution) process after := by
    refine .rewritten (fun entry member => ⟨entry, records ▸ member, .refl _ entry⟩) ?_
    intro assignmentId lease
    rw [deadlines] at lease
    cases lease
  unfold restart
  split
  · exact reopened _ rfl fun _ => rfl
  · exact reopened _ rfl fun _ => rfl
  · exact reopened _ rfl fun _ => rfl
  · split
    · exact reopened _ rfl fun _ => rfl
    · refine .journalled _ rfl rfl rfl ?_ fun _ => .inr fun _ => rfl
      intro assignmentId _ lease
      cases lease

end Process

open Exclusivity.Process

/-- What each call does to the journal and the leases. -/
theorem change_perform (call : Call) (process : Process) :
    Change call process (call.perform process) := by
  cases call with
  | beginClaim requestId =>
    change Change _ process (process.beginClaim requestId)
    unfold Process.beginClaim
    split
    · exact .of_same rfl rfl
    · dsimp only
      split <;> exact .of_same rfl rfl
  | accept clock answer sentAt bootId => exact change_accept clock answer sentAt bootId
  | renew clock assignmentId sentAt budget sequence =>
    exact change_renew clock assignmentId sentAt budget sequence
  | update assignmentId uncertain =>
    refine .of_rewriteAt rfl rfl fun entry _ _ => ?_
    exact { Entry.Step.refl _ entry with uncertain := fun set => by simp [set] }
  | markClean assignmentId =>
    change Change _ process (process.markClean assignmentId)
    unfold Process.markClean
    split
    · exact .of_same rfl rfl
    · refine .of_rewriteAt rfl rfl fun entry _ named => ?_
      exact
        { Entry.Step.refl (.markClean assignmentId) entry with
          cleaned := fun _ => rfl
          clean := fun _ => .inr (by rw [named]) }
  | released assignmentId => exact change_released assignmentId
  | available => exact .of_same records_available deadlines_available
  | claimFailed | control => exact .of_same rfl rfl
  | restart instanceId resolution => exact change_restart instanceId resolution

/-- The Worker may execute the assignment while its lease lasts. -/
structure Process.Live (process : Process) (entry : Entry) : Prop where
  dirty : entry.localClean = false
  certain : entry.uncertain = false
  opened : entry.released = false
  leased : (process.deadlines entry.assignmentId).isSome

/-- A live assignment of an exclusive kind is the only live one, and what is released is clean. -/
structure Process.Guarded (process : Process) : Prop where
  separate : ∀ left ∈ process.records.rows, ∀ right ∈ process.records.rows, process.Live left →
    process.Live right → left.kind.exclusive = true → right = left
  clean : ∀ entry ∈ process.records.rows, entry.released = true → entry.localClean = true

variable {entry : Entry} {before after : Process} {instanceId : UUID}

theorem Entry.Step.live {call : Call} {old : Entry} (step : old.Step call entry)
    (leases : ∀ assignmentId, (after.deadlines assignmentId).isSome →
      (before.deadlines assignmentId).isSome) (live : after.Live entry) : before.Live old where
  dirty := Bool.eq_false_iff.mpr (mt step.cleaned (Bool.eq_false_iff.mp live.dirty))
  certain := Bool.eq_false_iff.mpr (mt step.uncertain (Bool.eq_false_iff.mp live.certain))
  opened := Bool.eq_false_iff.mpr (mt step.closed (Bool.eq_false_iff.mp live.opened))
  leased := step.assignmentId ▸ leases _ live.leased

theorem Change.origin {call : Call} (change : Change call before after)
    (member : entry ∈ after.records.rows) :
    (∃ old ∈ before.records.rows, old.Step call entry) ∨
      entry.localClean = false ∧ entry.released = false := by
  cases change with
  | rewritten entries leases => exact .inl (entries entry member)
  | journalled new records dirty opened leases compatible =>
    rw [records] at member
    rcases mem_put.mp member with rfl | ⟨old_mem, -⟩
    · exact .inr ⟨dirty, opened⟩
    · exact .inl ⟨entry, old_mem, .refl _ entry⟩

theorem Process.Guarded.change {call : Call} (guarded : before.Guarded)
    (change : Change call before after) : after.Guarded where
  separate left left_mem right right_mem left_live right_live exclusive := by
    cases change with
    | rewritten entries leases =>
      obtain ⟨left_old, left_old_mem, left_step⟩ := entries left left_mem
      obtain ⟨right_old, right_old_mem, right_step⟩ := entries right right_mem
      have same : right_old = left_old :=
        guarded.separate left_old left_old_mem right_old right_old_mem
          (left_step.live leases left_live) (right_step.live leases right_live)
          (left_step.kind ▸ exclusive)
      refine after.records.eq_of_key_eq right_mem left_mem ?_
      rw [← right_step.assignmentId, ← left_step.assignmentId, same]
    | journalled entry records dirty opened leases compatible =>
      have older {other : Entry} (live : after.Live other)
          (ne : other.assignmentId ≠ entry.assignmentId) : before.Live other :=
        ⟨live.dirty, live.certain, live.opened, leases _ ne live.leased⟩
      -- An assignment that was live before stands beside the new one.
      have beside {other : Entry} (member : other ∈ before.records.rows) (live : after.Live other)
          (new : after.Live entry) :
          entry.kind.exclusive = false ∧ other.kind.exclusive = false := by
        have listed : other ∈ before.active :=
          List.mem_filter.mpr ⟨member, by simp [live.opened]⟩
        rcases compatible new.certain with (empty | ⟨own, others⟩) | unleased
        · rw [empty] at listed
          cases listed
        · exact ⟨own, others other listed⟩
        · have lease := new.leased
          rw [unleased] at lease
          cases lease
      rw [records] at left_mem right_mem
      rcases mem_put.mp left_mem with rfl | ⟨left_old, left_ne⟩
      · rcases mem_put.mp right_mem with rfl | ⟨right_old, -⟩
        · rfl
        · rw [(beside right_old right_live left_live).1] at exclusive
          cases exclusive
      · rcases mem_put.mp right_mem with rfl | ⟨right_old, right_ne⟩
        · rw [(beside left_old left_live right_live).2] at exclusive
          cases exclusive
        · exact guarded.separate left left_old right right_old (older left_live left_ne)
            (older right_live right_ne) exclusive
  clean entry member released := by
    rcases change.origin member with ⟨old, old_mem, step⟩ | ⟨-, opened⟩
    · rcases step.released released with closed | ⟨-, clean⟩
      · exact step.cleaned (guarded.clean old old_mem closed)
      · exact step.cleaned clean
    · rw [opened] at released
      cases released

theorem performAll_append (process : Process) (calls : List Call) (call : Call) :
    performAll process (calls ++ [call]) = call.perform (performAll process calls) := by
  simp [performAll]

theorem guarded_performAll {process : Process} (guarded : process.Guarded) (calls : List Call) :
    (performAll process calls).Guarded := by
  induction calls using List.reverseRecOn with
  | nil => exact guarded
  | append_singleton calls call induction =>
    rw [performAll_append]
    exact induction.change (change_perform call _)

private theorem marked_of_clean (calls : List Call)
    (member : entry ∈ (performAll { instanceId } calls).records.rows)
    (clean : entry.localClean = true) : .markClean entry.assignmentId ∈ calls := by
  induction calls using List.reverseRecOn generalizing entry with
  | nil => cases member
  | append_singleton calls call induction =>
    rw [performAll_append] at member
    rw [List.mem_append]
    rcases (change_perform call _).origin member with ⟨old, old_mem, step⟩ | ⟨dirty, -⟩
    · rcases step.clean clean with old_clean | marks
      · exact .inl (step.assignmentId ▸ induction old_mem old_clean)
      · exact .inr (List.mem_singleton.mpr marks.symm)
    · rw [dirty] at clean
      cases clean

private theorem released_after_clean (calls : List Call)
    (member : entry ∈ (performAll { instanceId } calls).records.rows)
    (released : entry.released = true) :
    ∃ before after, calls = before ++ .released entry.assignmentId :: after ∧
      .markClean entry.assignmentId ∈ before := by
  induction calls using List.reverseRecOn generalizing entry with
  | nil => cases member
  | append_singleton calls call induction =>
    rw [performAll_append] at member
    rcases (change_perform call _).origin member with ⟨old, old_mem, step⟩ | ⟨-, opened⟩
    · rcases step.released released with old_released | ⟨releases, clean⟩
      · obtain ⟨before, after, split, marked⟩ := induction old_mem old_released
        refine ⟨before, after ++ [call], ?_, step.assignmentId ▸ marked⟩
        rw [split, step.assignmentId, List.append_assoc, List.cons_append]
      · exact ⟨calls, [], by rw [releases], step.assignmentId ▸ marked_of_clean calls old_mem clean⟩
    · rw [opened] at released
      cases released

/-- After any calls, restarts and answers of the Scheduler, an assignment of an exclusive kind over
which the Worker has authority is the only one, and an assignment is released only after it was
marked clean. -/
theorem worker_exclusivity (instanceId : UUID) (calls : List Call) :
    (∀ clock otherClock assignmentId other entry,
      (performAll { instanceId } calls).authoritative clock assignmentId = true →
      (performAll { instanceId } calls).records.lookup assignmentId = some entry →
      entry.kind.exclusive = true →
      (performAll { instanceId } calls).authoritative otherClock other = true →
        other = assignmentId) ∧
    ∀ entry ∈ (performAll { instanceId } calls).records.rows, entry.released = true →
      entry.localClean = true ∧
        ∃ before after, calls = before ++ .released entry.assignmentId :: after ∧
          .markClean entry.assignmentId ∈ before := by
  have empty : Process.Guarded { instanceId } :=
    ⟨fun _ member => (by cases member), fun _ member => (by cases member)⟩
  have guarded := guarded_performAll empty calls
  have live {clock : ℚ≥0} {assignmentId : UUID}
      (authority : (performAll { instanceId } calls).authoritative clock assignmentId = true) :
      ∃ entry ∈ (performAll { instanceId } calls).records.rows, entry.assignmentId = assignmentId ∧
        (performAll { instanceId } calls).Live entry := by
    obtain ⟨entry, found, dirty, certain, leased⟩ := lease_of_authoritative authority
    have named : entry.assignmentId = assignmentId := key_of_lookup found
    have opened : entry.released = false := Bool.eq_false_iff.mpr
      (mt (guarded.clean entry (mem_of_lookup found)) (Bool.eq_false_iff.mp dirty))
    exact ⟨entry, mem_of_lookup found, named, dirty, certain, opened, named ▸ leased⟩
  refine ⟨fun clock otherClock assignmentId other entry authority found exclusive others => ?_,
    fun entry member released => ⟨guarded.clean entry member released,
      released_after_clean calls member released⟩⟩
  obtain ⟨left, left_mem, left_named, left_live⟩ := live authority
  obtain ⟨right, right_mem, right_named, right_live⟩ := live others
  have same := eq_of_lookup found left_mem left_named
  rw [← right_named, ← left_named,
    guarded.separate left left_mem right right_mem left_live right_live (same ▸ exclusive)]

/-- The Scheduler grants an interactive assignment, and then a batch job beside it. -/
def crowding : List Call :=
  [.control .available false false true, .beginClaim 1,
    .accept 0 (some ⟨some 5, .known .interactive, some 60, false⟩) 0 true,
    .accept 1 (some ⟨some 6, .known .batch, some 60, false⟩) 1 true]

/-- The Worker has authority over the interactive assignment only. -/
theorem interactive_assignment_alone :
    (performAll { instanceId := 10 } crowding).authoritative 2 5 = true ∧
      ∀ clock other, (performAll { instanceId := 10 } crowding).authoritative clock other = true →
        other = 5 := by
  have authority : (performAll { instanceId := 10 } crowding).authoritative 2 5 = true := by
    decide +kernel
  refine ⟨authority, fun clock other others => ?_⟩
  exact (worker_exclusivity 10 crowding).1 2 clock 5 other
    ⟨5, .known .interactive, false, false, false⟩
    authority (by decide +kernel) (by decide) others

end TrainingScheduler.Exclusivity
