import Mathlib.Logic.Relation
import Mathlib.Tactic.Linarith
import TrainingScheduler.Scheduler.Operations

/-!
# What an operation can do

Every committed operation other than a grant is a finite sequence of two primitive effects on the
database: quiet effects, which rewrite assignment and Worker rows without touching a job, and
settlements, which release one job assignment together with the single write of its job's status.
The row relation `Evolves` says everything that may happen to one assignment row, and `TendsWorkers`
what may happen to the Workers.
-/

namespace TrainingScheduler

open Table

def Db.currentInstance (db : Db) (workerId : UUID) : Option UUID :=
  (db.workers.lookup workerId).bind Worker.instanceId

/-- The instance, the inventory and the heartbeat number last recorded for a Worker. -/
def Worker.report (worker : Worker) : Option UUID × Option Inventory × Nat :=
  (worker.instanceId, worker.inventory, worker.heartbeatSequence)

theorem Db.lookup_modifyWorker (db : Db) (workerId : UUID) (f : Worker → Worker)
    (keeps : ∀ worker, (f worker).workerId = worker.workerId) :
    (db.modifyWorker workerId f keeps).workers.lookup workerId =
      (db.workers.lookup workerId).map f :=
  lookup_rewritten_self rfl keeps

/-- Workers outside `reporting` keep their report, and no Worker disappears. -/
structure KeepsWorkers (reporting : UUID → Prop) (before after : Db) : Prop where
  report : ∀ id, ¬reporting id →
    (after.workers.lookup id).map Worker.report = (before.workers.lookup id).map Worker.report
  known : ∀ id, (before.workers.lookup id).isSome → (after.workers.lookup id).isSome

/-- A Worker with the current protocol has registered an instance. -/
def Worker.Registered (worker : Worker) : Prop :=
  worker.protocolVersion = some 1 → worker.instanceId ≠ none

def Db.Registered (db : Db) : Prop := ∀ worker ∈ db.workers.rows, worker.Registered

/-- What an operation may do to the Workers: those outside `reporting` keep their report, and all
stay registered. -/
structure TendsWorkers (reporting : UUID → Prop) (before after : Db) : Prop
    extends KeepsWorkers reporting before after where
  registered : before.Registered → after.Registered

namespace TendsWorkers

variable {reporting : UUID → Prop} {before middle after : Db}

theorem of_eq (workers : after.workers = before.workers) :
    TendsWorkers reporting before after where
  report _ _ := by rw [workers]
  known _ known := by rwa [workers]
  registered := by
    unfold Db.Registered
    rw [workers]
    exact id

theorem trans (first : TendsWorkers reporting before middle)
    (second : TendsWorkers reporting middle after) : TendsWorkers reporting before after where
  report id silent := (second.report id silent).trans (first.report id silent)
  known id known := second.known id (first.known id known)
  registered known := second.registered (first.registered known)

theorem modifyWorker (db : Db) (workerId : UUID) {f : Worker → Worker}
    (keeps : ∀ worker, (f worker).workerId = worker.workerId)
    (silent : ¬reporting workerId → ∀ worker, (f worker).report = worker.report)
    (registers : ∀ worker, worker.Registered → (f worker).Registered) :
    TendsWorkers reporting db (db.modifyWorker workerId f keeps) where
  report id other := by
    by_cases same : id = workerId
    · subst same
      rw [db.lookup_modifyWorker, Option.map_map]
      exact congrFun (congrArg Option.map (funext (silent other))) _
    · exact congrArg _ (lookup_rewritten_ne (f := f) rfl keeps same)
  known id known := by
    by_cases same : id = workerId
    · subst same
      rwa [db.lookup_modifyWorker, Option.isSome_map]
    · rwa [show (db.modifyWorker workerId f keeps).workers.lookup id = _ from
        lookup_rewritten_ne (f := f) rfl keeps same]
  registered known worker member := by
    rcases mem_rewriteAt.mp member with ⟨stored, -⟩ | ⟨old, stored, -, rfl⟩
    · exact known worker stored
    · exact registers old (known old stored)

theorem ensureWorker (db : Db) (workerId : UUID) (body : Register) :
    TendsWorkers (fun id => id = workerId) db (ensureWorker db workerId body) := by
  unfold TrainingScheduler.ensureWorker
  cases inserted : db.workers.insert (newWorker workerId body) with
  | none => exact .of_eq rfl
  | some workers =>
    have other {id : UUID} (ne : id ≠ workerId) : workers.lookup id = db.workers.lookup id :=
      lookup_insert_ne inserted ne
    refine ⟨⟨fun id silent => congrArg _ (other silent), fun id known => ?_⟩, ?_⟩
    · by_cases same : id = workerId
      · have self : workers.lookup workerId = some _ := lookup_insert_self inserted
        simp [same, self]
      · exact (congrArg _ (other same)).trans known
    · intro known worker member
      rcases (mem_insert inserted).mp member with stored | rfl
      · exact known worker stored
      · rintro ⟨⟩

end TendsWorkers

/-- Statuses before a job is armed for training. -/
def earlyStatuses : List JobStatus := [.notRunnable, .imageBuilding, .imageReady]

variable {now : Time} {lease : ℚ} {acks reports : UUID → Prop}

/-- Everything an operation at `now` may do to one assignment row.  Leases are renewed to `lease`
seconds from now, and `acks` holds of the assignments whose cleanup the operation acknowledges. -/
structure Evolves (now : Time) (lease : ℚ) (acks : UUID → Prop) (before after : Assignment) :
    Prop where
  grant : after.toGrant = before.toGrant
  frozen : before.releasedAt ≠ none → after = before
  renewed : after.leaseUntil = before.leaseUntil ∨
    now < before.leaseUntil ∧ after.leaseUntil = now + lease
  acked : after.cleanupAck = true → before.cleanupAck = true ∨ acks before.id
  released : before.releasedAt = none → after.releasedAt ≠ none →
    after.leaseUntil ≤ now ∨ after.cleanupAck = true
  lost : before.state = .lost → after.state = .lost ∨ after.releasedAt ≠ none

namespace Evolves

variable {before after : Assignment}

theorem refl (row : Assignment) : Evolves now lease acks row row where
  grant := rfl
  frozen _ := rfl
  renewed := .inl rfl
  acked := .inl
  released unreleased released := absurd unreleased released
  lost := .inl

theorem trans (first : Evolves now lease acks before middle)
    (second : Evolves now lease acks middle after) : Evolves now lease acks before after where
  grant := second.grant.trans first.grant
  frozen released := by
    have same := first.frozen released
    subst same
    exact second.frozen released
  renewed := by
    rcases first.renewed with kept | ⟨early, renewed⟩
    · rcases second.renewed with kept' | ⟨early', renewed'⟩
      · exact .inl (kept'.trans kept)
      · exact .inr ⟨kept ▸ early', renewed'⟩
    · rcases second.renewed with kept' | ⟨-, renewed'⟩
      · exact .inr ⟨early, kept'.trans renewed⟩
      · exact .inr ⟨early, renewed'⟩
  acked acknowledged := by
    rcases second.acked acknowledged with earlier | permitted
    · exact first.acked earlier
    · have same : middle.id = before.id := congrArg Grant.id first.grant
      exact .inr (same ▸ permitted)
  released unreleased released := by
    by_cases already : middle.releasedAt = none
    · exact second.released already released
    · rw [second.frozen already]
      exact first.released unreleased already
  lost lost := by
    rcases first.lost lost with still | released
    · exact second.lost still
    · rw [second.frozen released]
      exact .inr released

section

variable (evolves : Evolves now lease acks before after)

include evolves

theorem id_eq : after.id = before.id :=
  congrArg Grant.id evolves.grant

theorem workerId_eq : after.workerId = before.workerId :=
  congrArg Grant.workerId evolves.grant

theorem target_eq : after.target = before.target :=
  congrArg Grant.target evolves.grant

theorem jobId_eq : after.jobId = before.jobId :=
  congrArg Target.jobId evolves.target_eq

theorem unreleased_of_after (unreleased : after.Unreleased) : before.Unreleased := by
  by_contra released
  have same := evolves.frozen released
  subst same
  exact released unreleased

end

end Evolves

/-- A row effect without a release of a job assignment. -/
structure QuietRow (now : Time) (lease : ℚ) (acks : UUID → Prop) (before after : Assignment) :
    Prop extends Evolves now lease acks before after where
  held : before.jobId ≠ none → after.releasedAt = before.releasedAt

namespace QuietRow

variable {before middle after : Assignment}

theorem refl (row : Assignment) : QuietRow now lease acks row row where
  toEvolves := .refl row
  held _ := rfl

theorem of_unreleased (unreleased : before.Unreleased) (grant : after.toGrant = before.toGrant)
    (lease_eq : after.leaseUntil = before.leaseUntil) (ack : after.cleanupAck = before.cleanupAck)
    (release : after.releasedAt = before.releasedAt)
    (lost : before.state = .lost → after.state = .lost) :
    QuietRow now lease acks before after where
  grant := grant
  frozen released := absurd unreleased released
  renewed := .inl lease_eq
  acked acknowledged := .inl (ack ▸ acknowledged)
  released _ released := absurd (release.trans unreleased) released
  lost state := .inl (lost state)
  held _ := release

end QuietRow

/-- A primitive effect of a committed operation.  `acks` holds of the assignments whose cleanup it
acknowledges, and `reports` of the Workers whose report it records. -/
inductive Effect (now : Time) (lease : ℚ) (acks reports : UUID → Prop) : Db → Db → Prop where
  | quiet {before after : Db} (jobs : after.jobs = before.jobs)
      (writes : after.statusWrites = before.statusWrites)
      (workers : TendsWorkers reports before after)
      (rows : before.assignments.Rowwise (QuietRow now lease acks) after.assignments) :
      Effect now lease acks reports before after
  | settle {before : Db} (assignment : Assignment) (jobId : UUID) (status : JobStatus)
      (f : Job → Job) (keeps : ∀ job, (f job).id = job.id)
      (member : assignment ∈ before.assignments.rows) (unreleased : assignment.Unreleased)
      (job : assignment.jobId = some jobId)
      (cause : assignment.leaseUntil ≤ now ∨ assignment.cleanupAck = true)
      (image : ∀ job, (f job).toJobImage = job.toJobImage) (late : status ∉ earlyStatuses) :
      Effect now lease acks reports before
        ((before.settleJob assignment.id jobId status f keeps).modifyAssignment assignment.id
          (releaseRow now) fun _ => rfl)

/-- A finite sequence of primitive effects. -/
abbrev Effects (now : Time) (lease : ℚ) (acks reports : UUID → Prop) : Db → Db → Prop :=
  Relation.ReflTransGen (Effect now lease acks reports)

variable {assignment other : Assignment} {before after db : Db}

theorem evolves_releaseRow (unreleased : assignment.Unreleased)
    (cause : assignment.leaseUntil ≤ now ∨ assignment.cleanupAck = true) :
    Evolves now lease acks assignment (releaseRow now assignment) where
  grant := rfl
  frozen released := absurd unreleased released
  renewed := .inl rfl
  acked := .inl
  released _ _ := cause
  lost _ := .inr (by simp [releaseRow])

theorem Effect.evolves (effect : Effect now lease acks reports before after) :
    before.assignments.Rowwise (Evolves now lease acks) after.assignments := by
  cases effect with
  | quiet _ _ _ rows => exact rows.mono fun _ _ => QuietRow.toEvolves
  | settle assignment jobId status f keeps member unreleased job cause =>
    refine rowwise_of_rewriteAt (k := assignment.id) (f := releaseRow now) rfl Evolves.refl ?_
    intro row row_mem selected
    obtain rfl := before.assignments.eq_of_key_eq row_mem member selected
    exact evolves_releaseRow unreleased cause

theorem Effects.evolves (effects : Effects now lease acks reports before after) :
    before.assignments.Rowwise (Evolves now lease acks) after.assignments := by
  induction effects with
  | refl => exact .refl Evolves.refl _
  | tail _ effect induction => exact induction.trans Evolves.trans effect.evolves

theorem Effects.workers (effects : Effects now lease acks reports before after) :
    TendsWorkers reports before after := by
  induction effects with
  | refl => exact .of_eq rfl
  | tail _ effect induction =>
    refine induction.trans ?_
    cases effect with
    | quiet _ _ workers _ => exact workers
    | settle => exact .of_eq rfl

theorem Effect.modifyWorker (db : Db) (workerId : UUID) {f : Worker → Worker}
    (keeps : ∀ worker, (f worker).workerId = worker.workerId)
    (silent : ¬reports workerId → ∀ worker, (f worker).report = worker.report)
    (registers : ∀ worker, worker.Registered → (f worker).Registered) :
    Effect now lease acks reports db (db.modifyWorker workerId f keeps) :=
  .quiet rfl rfl (.modifyWorker db workerId keeps silent registers) (.refl QuietRow.refl _)

theorem Effect.rewriteRow (f : Assignment → Assignment) (jobs : after.jobs = before.jobs)
    (writes : after.statusWrites = before.statusWrites) (workers : after.workers = before.workers)
    (rows : after.assignments.rows =
      rewriteAt (fun row : Assignment => row.id) assignment.id f before.assignments.rows)
    (member : assignment ∈ before.assignments.rows)
    (quiet : QuietRow now lease acks assignment (f assignment)) :
    Effect now lease acks reports before after := by
  refine .quiet jobs writes (.of_eq workers) (rowwise_of_rewriteAt rows QuietRow.refl ?_)
  intro row row_mem selected
  obtain rfl := before.assignments.eq_of_key_eq row_mem member selected
  exact quiet

theorem mem_live {workerId : UUID} :
    assignment ∈ live db workerId ↔
      assignment ∈ db.assignments.rows ∧ assignment.workerId = workerId ∧
        assignment.Unreleased := by
  simp [live, Assignment.Unreleased]

theorem live_distinct (db : Db) (workerId : UUID) :
    (live db workerId).Pairwise fun left right => left.id ≠ right.id :=
  List.pairwise_map.mp ((List.filter_sublist.map _).nodup db.assignments.nodup)

variable {step : Db → Assignment → Db}

section

variable {relation : Db → Db → Prop} (refl : ∀ db, relation db db)
  (trans : ∀ {x y z}, relation x y → relation y z → relation x z)

include refl trans

/-- A loop over the distinct live rows whose body only touches its row is related as its visits
are. -/
theorem foldl_live_related {workerId : UUID}
    (effect : ∀ db assignment, assignment ∈ db.assignments.rows →
      assignment.workerId = workerId ∧ assignment.Unreleased → relation db (step db assignment))
    (frame : ∀ db assignment other, other ∈ db.assignments.rows → other.id ≠ assignment.id →
      other ∈ (step db assignment).assignments.rows) (db : Db) :
    relation db ((live db workerId).foldl step db) := by
  have stored : ∀ row ∈ live db workerId, row ∈ db.assignments.rows ∧
      row.workerId = workerId ∧ row.Unreleased := fun _ => mem_live.mp
  have distinct := live_distinct db workerId
  generalize live db workerId = rows at stored distinct
  induction rows generalizing db with
  | nil => exact refl db
  | cons head rest induction =>
    obtain ⟨apart, rest_distinct⟩ := List.pairwise_cons.mp distinct
    obtain ⟨head_mem, visited⟩ := stored head List.mem_cons_self
    refine trans (effect db head head_mem visited) (induction _ ?_ rest_distinct)
    intro row member
    obtain ⟨row_mem, visited⟩ := stored row (List.mem_cons_of_mem _ member)
    exact ⟨frame db head row row_mem (apart row member).symm, visited⟩

end

theorem foldl_column {α β : Type} {step : Db → α → Db} (column : Db → β)
    (keeps : ∀ db value, column (step db value) = column db) (values : List α) (db : Db) :
    column (values.foldl step db) = column db := by
  induction values generalizing db with
  | nil => rfl
  | cons head tail induction => rw [List.foldl_cons, induction, keeps]

theorem foldl_frame
    (frame : ∀ db assignment other, other ∈ db.assignments.rows → other.id ≠ assignment.id →
      other ∈ (step db assignment).assignments.rows) {rows : List Assignment}
    (member : other ∈ db.assignments.rows) (unvisited : ∀ row ∈ rows, other.id ≠ row.id) :
    other ∈ (rows.foldl step db).assignments.rows := by
  induction rows generalizing db with
  | nil => exact member
  | cons head rest induction =>
    refine induction ?_ fun row row_mem => unvisited row (List.mem_cons_of_mem _ row_mem)
    exact frame db head other member (unvisited head List.mem_cons_self)

theorem Effects.foldl_live
    (effect : ∀ db assignment, assignment ∈ db.assignments.rows → assignment.Unreleased →
      Effects now lease acks reports db (step db assignment))
    (frame : ∀ db assignment other, other ∈ db.assignments.rows → other.id ≠ assignment.id →
      other ∈ (step db assignment).assignments.rows)
    (db : Db) (workerId : UUID) :
    Effects now lease acks reports db ((live db workerId).foldl step db) :=
  foldl_live_related (fun _ => .refl) (fun first second => first.trans second)
    (fun db assignment member visited => effect db assignment member visited.2) frame db

theorem mem_rewriteAt_of_ne {assignmentId : UUID} {f : Assignment → Assignment}
    (member : other ∈ db.assignments.rows) (ne : other.id ≠ assignmentId) :
    other ∈ rewriteAt (fun row : Assignment => row.id) assignmentId f
      db.assignments.rows :=
  mem_rewriteAt.mpr (.inl ⟨member, ne⟩)

theorem interruptAssignment_effects (db : Db) (assignment : Assignment)
    (member : assignment ∈ db.assignments.rows) (unreleased : assignment.Unreleased) :
    Effects now lease acks reports db (interruptAssignment db assignment) := by
  have lost : QuietRow now lease acks assignment { assignment with state := .lost } :=
    .of_unreleased unreleased rfl rfl rfl rfl fun _ => rfl
  unfold interruptAssignment
  split <;>
    exact .single (.rewriteRow (fun row => { row with state := .lost }) rfl rfl rfl rfl member lost)

theorem interruptAssignment_frame (db : Db) (assignment other : Assignment)
    (member : other ∈ db.assignments.rows) (ne : other.id ≠ assignment.id) :
    other ∈ (interruptAssignment db assignment).assignments.rows := by
  unfold interruptAssignment
  split <;> exact mem_rewriteAt_of_ne member ne

theorem currentInstance_ensureWorker (db : Db) (workerId : UUID) (body : Register) :
    (ensureWorker db workerId body).currentInstance workerId = db.currentInstance workerId := by
  unfold ensureWorker Db.currentInstance
  cases inserted : db.workers.insert (newWorker workerId body) with
  | none => rfl
  | some workers =>
    have missing : db.workers.lookup workerId = none :=
      lookup_eq_none_iff.mpr (insert_eq_some inserted).2
    have created : workers.lookup workerId = some (newWorker workerId body) :=
      lookup_insert_self inserted
    simp [missing, created, newWorker]

theorem register_effects (db : Db) (workerId : UUID) (body : Register) :
    Effects now lease acks (fun id => id = workerId) db (register now db workerId body).2 := by
  have ensured : Effect now lease acks (fun id => id = workerId) db
      (ensureWorker db workerId body) :=
    .quiet rfl rfl (.ensureWorker db workerId body) (.refl QuietRow.refl _)
  unfold register
  dsimp only
  refine .tail (.head ensured ?_) (.modifyWorker _ workerId _ (fun other => absurd rfl other) ?_)
  · split_ifs
    · exact Effects.foldl_live interruptAssignment_effects interruptAssignment_frame _ workerId
    · exact .refl
  · rintro worker - - ⟨⟩

variable {workerId : UUID} {settings : Settings} {report : Option Active} {body : Heartbeat}
  {worker : Worker} {digest : Digest} {released : Bool}

/-- A heartbeat renews a valid lease, and otherwise quarantines the row. -/
theorem concludeHeartbeat_quiet {valid : Bool} (unreleased : assignment.Unreleased)
    (alive : valid = true → now < assignment.leaseUntil) :
    QuietRow now settings.leaseSeconds acks assignment
      (concludeHeartbeat settings now valid assignment) := by
  unfold concludeHeartbeat
  split_ifs with isValid cleaning
  · exact
      { grant := rfl
        frozen := fun released => absurd unreleased released
        renewed := .inr ⟨alive isValid, rfl⟩
        acked := .inl
        released := fun _ released => absurd unreleased released
        lost := .inl
        held := fun _ => rfl }
  · exact .refl _
  · exact .of_unreleased unreleased rfl rfl rfl rfl fun _ => rfl

theorem lt_of_reportValid {fresh : Bool} {instanceId : UUID}
    (valid : reportValid now fresh instanceId assignment report = true) :
    now < assignment.leaseUntil := by
  cases report with
  | none => cases valid
  | some report =>
    simp only [reportValid, Bool.and_eq_true, decide_eq_true_eq] at valid
    exact valid.2

/-- A runtime review never validates a report that was invalid before it. -/
theorem valid_of_reviewRuntime {valid : Bool} {runtime : Runtime}
    (reviewed : (reviewRuntime now valid report runtime).2 = true) : valid = true := by
  unfold reviewRuntime at reviewed
  dsimp only at reviewed
  split at reviewed
  · rename_i both
    exact (Bool.and_eq_true_iff.mp both).1
  · exact (Bool.and_eq_true_iff.mp reviewed).1

theorem heartbeatAssignment_effects (settings : Settings) (fresh : Bool) (body : Heartbeat)
    (db : Db) (assignment : Assignment) (member : assignment ∈ db.assignments.rows)
    (unreleased : assignment.Unreleased) :
    Effects now settings.leaseSeconds acks reports db
      (heartbeatAssignment settings now fresh body assignment db) := by
  have alive (renewed : renews now fresh body db assignment = true) :
      now < assignment.leaseUntil := by
    unfold renews at renewed
    dsimp only at renewed
    split at renewed
    · exact lt_of_reportValid renewed
    · exact lt_of_reportValid (valid_of_reviewRuntime renewed)
  have quiet : QuietRow now settings.leaseSeconds acks assignment
      (concludeHeartbeat settings now (renews now fresh body db assignment) assignment) :=
    concludeHeartbeat_quiet unreleased alive
  unfold heartbeatAssignment
  dsimp only
  split <;> exact .single (.rewriteRow _ rfl rfl rfl rfl member quiet)

theorem heartbeatAssignment_frame (settings : Settings) (fresh : Bool) (body : Heartbeat) (db : Db)
    (assignment other : Assignment) (member : other ∈ db.assignments.rows)
    (ne : other.id ≠ assignment.id) :
    other ∈ (heartbeatAssignment settings now fresh body assignment db).assignments.rows := by
  unfold heartbeatAssignment
  dsimp only
  split <;> exact mem_rewriteAt_of_ne member ne

theorem heartbeatLoop_fst (settings : Settings) (fresh : Bool) (body : Heartbeat)
    (rows : List Assignment) (db : Db) :
    (heartbeatLoop settings now fresh body rows db).1 =
      rows.foldl (fun db assignment => heartbeatAssignment settings now fresh body assignment db)
        db := by
  induction rows generalizing db with
  | nil => rfl
  | cons head rest induction =>
    simp only [heartbeatLoop, List.foldl_cons]
    exact induction _

theorem heartbeat_effects {reply : HeartbeatReply}
    (accepted : heartbeat settings now db workerId body = .ok (reply, after)) :
    Effects now settings.leaseSeconds acks (fun id => id = workerId) db after := by
  unfold heartbeat at accepted
  split at accepted
  · cases accepted
  · split_ifs at accepted
    cases accepted
    refine .tail (.head (.modifyWorker db workerId (heartbeatWorker_workerId now body)
      (fun other => absurd rfl other) fun _ known => known) ?_)
      (.modifyWorker _ workerId _ (fun other => absurd rfl other) fun _ known => known)
    rw [heartbeatLoop_fst]
    exact Effects.foldl_live (heartbeatAssignment_effects settings (body.fresh settings now) body)
      (heartbeatAssignment_frame settings (body.fresh settings now) body) _ workerId

theorem lookup_of_lockWorker (locked : lockWorker db workerId = .ok worker) :
    db.workers.lookup workerId = some worker := by
  unfold lockWorker at locked
  split at locked
  · cases locked
  · rename_i found
    cases locked
    exact found

theorem mem_of_fence {body : Fence} {cleanup : Bool}
    (passed : fence db workerId body now cleanup = .ok (worker, assignment)) :
    assignment ∈ db.assignments.rows ∧ body.names workerId assignment = true ∧
      db.workers.lookup workerId = some worker ∧
      (cleanup = false → fencedOff worker assignment body now = false) := by
  revert passed
  fun_cases fence db workerId body now cleanup <;> intro passed <;> cases passed
  rename_i locked row_found off
  refine ⟨List.mem_of_find?_eq_some row_found, List.find?_some row_found,
    lookup_of_lockWorker locked, ?_⟩
  rintro rfl
  simpa using off

theorem unreleased_of_fencedOff {body : Fence}
    (passed : fencedOff worker assignment body now = false) :
    assignment.Unreleased ∧ assignment.state ≠ .lost := by
  simp only [fencedOff, Bool.or_eq_false_iff] at passed
  exact ⟨by simpa using passed.1.1.1, by simpa using passed.1.2⟩

theorem names_id {body : Fence} (named : body.names workerId assignment = true) :
    assignment.id = body.assignmentId := by
  simp only [Fence.names, Bool.and_eq_true, beq_iff_eq] at named
  exact named.1.1.1.1

/-- An accepted event is a repeated one, or it moves the runtime of a live attempt. -/
theorem event_eq_ok {body : Event} {reply : EventReply}
    (accepted : event digest now db workerId body = .ok (reply, after)) :
    after = db ∨ ∃ assignment ∈ db.assignments.rows, ∃ runtime moved state,
      assignment.id = body.assignmentId ∧ assignment.Unreleased ∧ assignment.state ≠ .lost ∧
      assignment.runtimeId = some runtime.id ∧ runtime ∈ db.runtimes.rows ∧
      eventTransition now body runtime assignment = .ok (moved, state) ∧
      after = (db.modifyRuntime runtime.id (fun row => { moved with id := row.id })
        fun _ => rfl).modifyAssignment assignment.id (fun row =>
          { row with
            state
            eventSequence := body.sequence
            eventHash := some (digest.event body) }) fun _ => rfl := by
  unfold event at accepted
  split at accepted
  · cases accepted
  · rename_i passed
    obtain ⟨member, named, -, off⟩ := mem_of_fence passed
    obtain ⟨unreleased, alive⟩ := unreleased_of_fencedOff (off rfl)
    split at accepted
    · cases accepted
    · rename_i target
      split at accepted
      · cases accepted
      · rename_i runtime found
        obtain rfl := key_of_lookup found
        split_ifs at accepted
        · cases accepted
          exact .inl rfl
        · split at accepted
          · cases accepted
          · rename_i moved state moves
            cases accepted
            exact .inr ⟨_, member, runtime, moved, state, names_id named, unreleased, alive, target,
              mem_of_lookup found, moves, rfl⟩

theorem event_effects {body : Event} {reply : EventReply}
    (accepted : event digest now db workerId body = .ok (reply, after)) :
    Effects now lease acks reports db after := by
  rcases event_eq_ok accepted with
    rfl | ⟨assignment, member, _, _, _, -, unreleased, alive, -, -, -, rfl⟩
  · exact .refl
  · exact .single (.rewriteRow _ rfl rfl rfl rfl member
      (.of_unreleased unreleased rfl rfl rfl rfl fun lost => absurd lost alive))

theorem result_effects {body : Result} (accepted : result digest now db workerId body = .ok after) :
    Effects now lease acks reports db after := by
  revert accepted
  fun_cases result digest now db workerId body <;> intro accepted <;> cases accepted
  rename_i passed _ _ _
  obtain ⟨member, -, -, off⟩ := mem_of_fence passed
  obtain ⟨unreleased, alive⟩ := unreleased_of_fencedOff (off rfl)
  exact .single (.rewriteRow _ rfl rfl rfl rfl member
    (.of_unreleased unreleased rfl rfl rfl rfl fun lost => absurd lost alive))

theorem retryStatus_not_early (assignment : Assignment) :
    retryStatus assignment ∉ earlyStatuses := by
  unfold retryStatus
  split_ifs <;> decide

private theorem settledStatus_not_early (assignment : Assignment) :
    settledStatus assignment ∉ earlyStatuses := by
  unfold settledStatus
  split
  · decide
  · decide
  · decide
  · exact retryStatus_not_early assignment
  · exact retryStatus_not_early assignment

theorem releaseIfClean_effects (member : assignment ∈ db.assignments.rows) :
    Effects now lease acks reports db (releaseIfClean now db assignment).2 := by
  unfold releaseIfClean
  split_ifs with released unacked held
  · exact .refl
  · exact .refl
  · exact .refl
  · have unreleased : assignment.Unreleased := by simpa using released
    have acknowledged : assignment.cleanupAck = true := by simpa using unacked
    unfold settleTarget
    split
    · rename_i runtimeId generation target
      refine .single (.rewriteRow _ rfl rfl rfl rfl member ?_)
      exact
        { evolves_releaseRow unreleased (.inr acknowledged) with
          held := fun job => absurd (by rw [Assignment.jobId, target]; rfl) job }
    all_goals
      rename_i jobId target
      refine .single (.settle assignment jobId _ _ _ member unreleased
        (by rw [Assignment.jobId, target]; rfl) (.inr acknowledged) (fun job => ?_)
        (settledStatus_not_early assignment))
      unfold settledJob
      dsimp only
      split <;> rfl

theorem quiet_acknowledge (unreleased : assignment.Unreleased) (permitted : acks assignment.id) :
    QuietRow now lease acks assignment (acknowledge assignment) where
  grant := rfl
  frozen released := absurd unreleased released
  renewed := .inl rfl
  acked _ := .inr permitted
  released _ released := absurd unreleased released
  lost := .inl
  held _ := rfl

/-- What an accepted cleanup amounts to: nothing for a released attempt, and otherwise its
acknowledgement, with a write to its runtime, and its release if nothing holds it. -/
inductive CleanupResult (now : Time) (before : Db) (assignment : Assignment) (released : Bool)
    (after : Db) : Prop where
  | already (closed : ¬assignment.Unreleased) (same : after = before)
  | acknowledged (acked : Db) (unreleased : assignment.Unreleased)
      (workers : acked.workers = before.workers) (jobs : acked.jobs = before.jobs)
      (writes : acked.statusWrites = before.statusWrites)
      (rows : acked.assignments.rows = rewriteAt (fun row : Assignment => row.id)
        assignment.id acknowledge before.assignments.rows)
      (confirmed : (releaseIfClean now acked (acknowledge assignment)).1 = released)
      (final : (releaseIfClean now acked (acknowledge assignment)).2 = after)

theorem cleanupResult_of_cleanup {body : Cleanup}
    (accepted : cleanup now db workerId body = .ok (released, after)) :
    ∃ assignment ∈ db.assignments.rows, assignment.id = body.assignmentId ∧
      CleanupResult now db assignment released after := by
  unfold cleanup at accepted
  split at accepted
  · cases accepted
  · rename_i worker assignment passed
    obtain ⟨member, named, -, -⟩ := mem_of_fence passed
    refine ⟨assignment, member, names_id named, ?_⟩
    split_ifs at accepted with already rejected
    · cases accepted
      exact .already (Option.isSome_iff_ne_none.mp already) rfl
    · have outcome := Except.ok.inj accepted
      refine .acknowledged _ (by simpa using already) ?_ ?_ ?_ ?_ (congrArg Prod.fst outcome)
        (congrArg Prod.snd outcome)
      all_goals
        unfold stopForCleanup
        split <;> rfl

theorem acknowledge_mem {before acked : Db} (member : assignment ∈ before.assignments.rows)
    (rows : acked.assignments.rows = rewriteAt (fun row : Assignment => row.id)
      assignment.id acknowledge before.assignments.rows) :
    acknowledge assignment ∈ acked.assignments.rows :=
  rows ▸ mem_rewriteAt.mpr (.inr ⟨assignment, member, rfl, rfl⟩)

theorem cleanup_effects {body : Cleanup}
    (accepted : cleanup now db workerId body = .ok (released, after)) :
    Effects now lease (fun id => id = body.assignmentId) reports db after := by
  obtain ⟨assignment, member, id_eq, result⟩ := cleanupResult_of_cleanup accepted
  cases result with
  | already closed same => exact same ▸ .refl
  | acknowledged acked unreleased workers jobs writes rows confirmed final =>
    refine final ▸ (releaseIfClean_effects (acknowledge_mem member rows)).head ?_
    exact .rewriteRow acknowledge jobs writes workers rows member
      (quiet_acknowledge unreleased id_eq)

theorem expireAssignment_effects (db : Db) (assignment : Assignment)
    (member : assignment ∈ db.assignments.rows) (unreleased : assignment.Unreleased) :
    Effects now lease acks reports db (expireAssignment now db assignment) := by
  unfold expireAssignment
  split_ifs with current
  · exact .refl
  · have expired : assignment.leaseUntil ≤ now := not_lt.mp current
    split
    on_goal 3 =>
      exact .single (.rewriteRow _ rfl rfl rfl rfl member
        (.of_unreleased unreleased rfl rfl rfl rfl fun _ => rfl))
    all_goals
      rename_i jobId target
      exact .single (.settle assignment jobId _ _ _ member unreleased
        (by rw [Assignment.jobId, target]; rfl) (.inl expired) (fun _ => rfl)
        (retryStatus_not_early assignment))

theorem expireAssignment_frame (db : Db) (assignment other : Assignment)
    (member : other ∈ db.assignments.rows) (ne : other.id ≠ assignment.id) :
    other ∈ (expireAssignment now db assignment).assignments.rows := by
  unfold expireAssignment
  split_ifs
  · exact member
  · split <;> exact mem_rewriteAt_of_ne member ne

theorem expireWorker_effects (db : Db) (workerId : UUID) :
    Effects now lease acks reports db (expireWorker now db workerId) := by
  have expired : Effects now lease acks reports db
      ((live db workerId).foldl (expireAssignment now) db) :=
    Effects.foldl_live expireAssignment_effects expireAssignment_frame db workerId
  unfold expireWorker
  dsimp only
  split_ifs
  · exact expired.tail (.modifyWorker _ workerId _ (fun _ _ => rfl) fun _ known => known)
  · exact expired

theorem expire_effects (db : Db) : Effects now lease acks reports db (expire now db) := by
  unfold expire
  generalize expiredWorkers now db = workers
  induction workers generalizing db with
  | nil => exact .refl
  | cons workerId rest induction =>
    exact (expireWorker_effects db workerId).trans (induction _)

end TrainingScheduler
