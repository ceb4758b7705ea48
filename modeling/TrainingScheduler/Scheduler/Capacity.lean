import Mathlib
import TrainingScheduler.Scheduler.Reports
import TrainingScheduler.Worker.Coordinator

/-!
# Capacity of a Worker

What the claims granted against one inventory report add up to.  Free memory is checked for one job
at a time, so several jobs granted under one report fit together only if they were planned to.
-/

namespace TrainingScheduler

/-- The job of a batch grant with a known requirement, and the memory it counts for, one gigabyte
included. -/
def Grant.demand (grant : Grant) : Option (UUID × ℚ) :=
  match grant.target, grant.payload with
  | .batch jobId, .job payload => payload.vramRequired.map fun required => (jobId, required + 1)
  | _, _ => none

/-- The batch jobs with a known requirement granted to the Worker since a database state. -/
def demandsSince (start db : Db) (workerId : UUID) : List (UUID × ℚ) :=
  ((db.grants.drop start.grants.length).filter fun grant => grant.workerId == workerId).filterMap
    Grant.demand

/-- What they count for. -/
def vramSince (start db : Db) (workerId : UUID) : List ℚ :=
  (demandsSince start db workerId).map Prod.snd

/-- The jobs that a Worker may be granted under one report, and what each of them needs at most. -/
structure Plan where
  jobs : Finset UUID
  requirement : UUID → ℚ

namespace Plan

/-- The plan has a single job, or its jobs fit together, each with its extra gigabyte. -/
def Fits (plan : Plan) (free : ℚ) : Prop :=
  plan.jobs.card ≤ 1 ∨ (∀ jobId ∈ plan.jobs, 0 ≤ plan.requirement jobId + 1) ∧
    ∑ jobId ∈ plan.jobs, (plan.requirement jobId + 1) ≤ free

/-- What the Worker is granted between two states is planned, and new since the report. -/
def Allows (plan : Plan) (start : Db) (workerId : UUID) (before after : Db) : Prop :=
  ∀ demand ∈ demandsSince before after workerId, demand.1 ∈ plan.jobs ∧
    demand.2 ≤ plan.requirement demand.1 + 1 ∧
    demand.1 ∉ (demandsSince start before workerId).map Prod.fst

end Plan

/-- An open step that keeps the report of a Worker and grants it only what is planned. -/
inductive PlannedStep (digest : Digest) (plan : Plan) (start : Db) (workerId : UUID)
    (before : Db) : Db → Prop where
  | op (now : Time) (op : Op) (silent : ¬op.reports workerId)
      (allowed : plan.Allows start workerId before (op.apply digest now before)) :
      PlannedStep digest plan start workerId before (op.apply digest now before)
  | outside {after : Db} (assignments : after.assignments = before.assignments)
      (workers : KeepsWorkers (fun _ => False) before after) :
      PlannedStep digest plan start workerId before after

variable {assignment : Assignment} {now : Time} {settings : Settings}

section

variable {digest : Digest} {plan : Plan} {start before after : Db} {workerId : UUID}
  {inventory : Inventory} {granted : List Grant}

private theorem demandsSince_append (longer : start.grants.length ≤ before.grants.length)
    (appended : after.grants = before.grants ++ granted) :
    demandsSince start after workerId =
      demandsSince start before workerId ++ demandsSince before after workerId := by
  rw [demandsSince, demandsSince, demandsSince, appended, List.drop_left,
    List.drop_append_of_le_length longer, List.filter_append, List.filterMap_append]

theorem demandsSince_eq_nil (same : after.grants = before.grants) :
    demandsSince before after workerId = [] := by
  rw [demandsSince, same, List.drop_length]
  rfl

private theorem length_demandsSince_le (appended : after.grants = before.grants ++ granted) :
    (demandsSince before after workerId).length ≤ granted.length := by
  rw [demandsSince, appended, List.drop_left]
  exact (List.length_filterMap_le _ _).trans (List.length_filter_le _ _)

theorem Reserved.demand_le {worker : Worker} {snapshot : Snapshot} {candidate : Candidate}
    {demand : UUID × ℚ}
    (target : Reserved settings now before worker snapshot candidate assignment after)
    (known : assignment.demand = some demand) : demand.2 ≤ snapshot.freeVram := by
  cases target with
  | interactive runtime _ _ _ _ _ target _ _ _ => simp [Grant.demand, target] at known
  | estimation job _ _ _ target _ => simp [Grant.demand, target] at known
  | batch job _ _ _ fits target payload _ =>
    simp only [Grant.demand, target, payload, formatJobResponse, startJob,
      Option.map_eq_some_iff] at known
    obtain ⟨required, requirement, rfl⟩ := known
    simpa [vramExceeds, requirement] using fits

/-- Under a current report, a step appends at most one grant, which fits alone. -/
theorem PlannedStep.appends (step : PlannedStep digest plan start workerId before after)
    (reported : before.inventory workerId = some inventory) :
    ∃ granted, after.grants = before.grants ++ granted ∧ granted.length ≤ 1 ∧
      ∀ demand ∈ demandsSince before after workerId, demand.2 ≤ inventory.freeVramGb := by
  have nothing {after : Db} (same : after.grants = before.grants) :
      ∃ granted, after.grants = before.grants ++ granted ∧ granted.length ≤ 1 ∧
        ∀ demand ∈ demandsSince before after workerId, demand.2 ≤ inventory.freeVramGb := by
    refine ⟨[], by simpa using same, Nat.zero_le _, fun demand member => ?_⟩
    rw [demandsSince_eq_nil same] at member
    cases member
  cases step with
  | outside assignments workers => exact nothing (by rw [Db.grants, assignments, Db.grants])
  | op now op =>
    cases Op.transition digest now before op.leases_lease with
    | effects effects => exact nothing effects.grants_eq
    | granted settings choose newId claimant body assignment placement claimed granted =>
      subst claimed
      have appended : (Op.apply digest now before
          (.claim settings choose newId claimant body)).grants =
            before.grants ++ [assignment.toGrant] := by
        rw [Db.grants, granted.inserted.rows, List.map_append]
        rfl
      refine ⟨[assignment.toGrant], appended, le_rfl, fun demand member => ?_⟩
      rw [demandsSince, appended, List.drop_left] at member
      obtain ⟨grant, filtered, known⟩ := List.mem_filterMap.mp member
      obtain ⟨single, own⟩ := List.mem_filter.mp filtered
      obtain rfl := List.mem_singleton.mp single
      obtain rfl : claimant = workerId := granted.inserted.worker.symm.trans (by simpa using own)
      rw [Db.inventory, granted.found, Option.bind_some, granted.reported] at reported
      cases reported
      exact granted.target.demand_le known

/-- The state of the induction: the report is current, and what was granted under it is planned,
fits job by job, and names no job twice. -/
structure WithinReport (plan : Plan) (start : Db) (workerId : UUID) (inventory : Inventory)
    (db : Db) : Prop where
  reported : db.inventory workerId = some inventory
  longer : start.grants.length ≤ db.grants.length
  alone : ∀ demand ∈ demandsSince start db workerId, demand.2 ≤ inventory.freeVramGb
  planned : ∀ demand ∈ demandsSince start db workerId, demand.1 ∈ plan.jobs ∧
    demand.2 ≤ plan.requirement demand.1 + 1
  distinct : ((demandsSince start db workerId).map Prod.fst).Nodup

namespace WithinReport

private theorem of_plannedStep (within : WithinReport plan start workerId inventory before)
    (step : PlannedStep digest plan start workerId before after) :
    WithinReport plan start workerId inventory after := by
  have reported : after.inventory workerId = some inventory := by
    rw [← within.reported]
    cases step with
    | outside _ workers => exact Db.inventory_of_report (workers.report workerId id)
    | op now op silent =>
      exact Db.inventory_of_report ((op.tendsWorkers digest now before).report workerId silent)
  obtain ⟨granted, appended, single, alone⟩ := step.appends within.reported
  have allowed : plan.Allows start workerId before after := by
    cases step with
    | outside assignments =>
      intro demand member
      rw [demandsSince_eq_nil (by rw [Db.grants, assignments, Db.grants])] at member
      cases member
    | op now op silent allowed => exact allowed
  have short : (demandsSince before after workerId).length ≤ 1 :=
    (length_demandsSince_le appended).trans single
  have split : demandsSince start after workerId =
      demandsSince start before workerId ++ demandsSince before after workerId :=
    demandsSince_append within.longer appended
  refine ⟨reported, ?_, ?_, ?_, ?_⟩
  · rw [appended, List.length_append]
    exact within.longer.trans (Nat.le_add_right _ _)
  · rw [split]
    exact List.forall_mem_append.mpr ⟨within.alone, alone⟩
  · rw [split]
    exact List.forall_mem_append.mpr ⟨within.planned, fun demand member =>
      ⟨(allowed demand member).1, (allowed demand member).2.1⟩⟩
  · rw [split, List.map_append, List.nodup_append]
    refine ⟨within.distinct, ?_, ?_⟩
    · match demandsSince before after workerId, short with
      | [], _ => exact List.nodup_nil
      | [_], _ => exact List.nodup_singleton _
    · rintro jobId earlier _ later rfl
      obtain ⟨demand, member, rfl⟩ := List.mem_map.mp later
      exact (allowed demand member).2.2 earlier

/-- What was granted fits together if the plan does. -/
theorem fits (within : WithinReport plan start workerId inventory after)
    (valid : 0 ≤ inventory.freeVramGb) (fits : plan.Fits inventory.freeVramGb) :
    (vramSince start after workerId).sum ≤ inventory.freeVramGb := by
  unfold vramSince
  obtain ⟨-, -, alone, planned, distinct⟩ := within
  generalize demandsSince start after workerId = demands at alone planned distinct
  have subset : (demands.map Prod.fst).toFinset ⊆ plan.jobs := by
    intro jobId member
    obtain ⟨demand, listed, rfl⟩ := List.mem_map.mp (List.mem_toFinset.mp member)
    exact (planned demand listed).1
  rcases fits with single | ⟨nonneg, together⟩
  · have few := (Finset.card_le_card subset).trans single
    rw [List.toFinset_card_of_nodup distinct, List.length_map] at few
    match demands, few with
    | [], _ => simpa using valid
    | [demand], _ => simpa using alone demand List.mem_cons_self
  · calc (demands.map Prod.snd).sum
        ≤ (demands.map fun demand => plan.requirement demand.1 + 1).sum :=
          List.sum_le_sum fun demand listed => (planned demand listed).2
      _ = ∑ jobId ∈ (demands.map Prod.fst).toFinset, (plan.requirement jobId + 1) := by
          rw [List.sum_toFinset _ distinct, List.map_map]
          rfl
      _ ≤ ∑ jobId ∈ plan.jobs, (plan.requirement jobId + 1) :=
          Finset.sum_le_sum_of_subset_of_nonneg subset fun jobId member _ => nonneg jobId member
      _ ≤ inventory.freeVramGb := together

end WithinReport

end

/-- Memory under one report.  From the state in which a report was recorded, and for as long as it
stays current, the batch jobs granted to the Worker fit together into the reported free memory,
provided they are planned jobs, each granted once, and the plan is a single job or fits as a
whole. -/
theorem vram_within_report {digest : Digest} {plan : Plan} {start db : Db} {workerId : UUID}
    {inventory : Inventory} (reported : start.inventory workerId = some inventory)
    (valid : 0 ≤ inventory.freeVramGb) (fits : plan.Fits inventory.freeVramGb)
    (run : Relation.ReflTransGen (PlannedStep digest plan start workerId) start db) :
    (vramSince start db workerId).sum ≤ inventory.freeVramGb := by
  suffices within : WithinReport plan start workerId inventory db from within.fits valid fits
  induction run with
  | refl => exact ⟨reported, le_rfl, by simp [demandsSince], by simp [demandsSince],
      by simp [demandsSince]⟩
  | tail _ step induction => exact induction.of_plannedStep step

namespace Deployment

def overcommitted : Db := (claimBatch 2 101).apply digest 2 ((claimBatch 1 100).apply digest 1 db)

/-- Two jobs of 8 GB are granted under one report of 10 GB: each of them alone leaves the gigabyte
to spare that the check asks for. -/
theorem overcommitted_exceeds :
    Run digest db overcommitted ∧ db.inventory 1 = some inventory ∧
      overcommitted.inventory 1 = some inventory ∧ vramSince db overcommitted 1 = [9, 9] ∧
      inventory.freeVramGb < (vramSince db overcommitted 1).sum := by
  refine ⟨.tail (.single ⟨1, claimBatch 1 100, rfl⟩) ⟨2, claimBatch 2 101, rfl⟩, rfl, ?_⟩
  decide +kernel

def roomy : Db :=
  { db with
    workers := ⟨[{ worker with inventory := some { inventory with freeVramGb := 20 } }],
      by decide⟩ }

def bothJobs : Plan := ⟨{100, 101}, fun _ => 8⟩

/-- Under a report of 20 GB the two jobs fit together. -/
theorem planned_jobs_fit :
    vramSince roomy ((claimBatch 2 101).apply digest 2 ((claimBatch 1 100).apply digest 1 roomy))
        1 = [9, 9] ∧
      (vramSince roomy ((claimBatch 2 101).apply digest 2
        ((claimBatch 1 100).apply digest 1 roomy)) 1).sum ≤ 20 := by
  refine ⟨by decide +kernel, ?_⟩
  have run : Relation.ReflTransGen (PlannedStep digest bothJobs roomy 1) roomy
      ((claimBatch 2 101).apply digest 2 ((claimBatch 1 100).apply digest 1 roomy)) := by
    refine .tail (.single (.op 1 (claimBatch 1 100) id ?_)) (.op 2 (claimBatch 2 101) id ?_)
    all_goals
      unfold Plan.Allows
      decide +kernel
  have fits : bothJobs.Fits 20 := by
    unfold Plan.Fits
    decide +kernel
  have reported : roomy.inventory 1 = some { inventory with freeVramGb := 20 } := rfl
  exact vram_within_report reported (by decide +kernel) fits run

end Deployment

/-- The inventory is one that a Worker with `n` slots builds from its journal. -/
def BuiltInventory (n : Nat) (inventory : Inventory) : Prop :=
  ∃ coordinator probe preflightReady,
    inventory = executionInventory coordinator probe preflightReady n

/-- A transaction records for the Worker only inventories it builds from its journal. -/
def RecordsBuilt (workerId : UUID) (n : Nat) : Op → Prop
  | .heartbeat _ reporter body => reporter = workerId → BuiltInventory n body.inventory
  | .register reporter body => reporter = workerId → BuiltInventory n body.inventory
  | _ => True

/-- An open step of a Scheduler whose Worker reports what it builds from its journal. -/
inductive BuiltStep (digest : Digest) (workerId : UUID) (n : Nat) (before : Db) : Db → Prop where
  | op (now : Time) (op : Op) (built : RecordsBuilt workerId n op) :
      BuiltStep digest workerId n before (op.apply digest now before)
  | outside {after : Db} (assignments : after.assignments = before.assignments)
      (workers : KeepsWorkers (fun _ => False) before after) :
      BuiltStep digest workerId n before after

section

variable {digest : Digest} {before after : Db} {workerId : UUID} {n : Nat}

theorem length_live (db : Db) (workerId : UUID) :
    (live db workerId).length = db.assignments.rows.countP fun assignment =>
      assignment.workerId == workerId && assignment.releasedAt.isNone := by
  rw [live, List.countP_eq_length_filter]

theorem Effects.length_live_le {lease : ℚ} {acks reports : UUID → Prop}
    (effects : Effects now lease acks reports before after) (workerId : UUID) :
    (live after workerId).length ≤ (live before workerId).length := by
  rw [length_live, length_live]
  apply effects.evolves.countP_le
  intro old new evolves counted
  simp only [Bool.and_eq_true, beq_iff_eq, Option.isNone_iff_eq_none] at counted ⊢
  exact ⟨evolves.workerId_eq ▸ counted.1, evolves.unreleased_of_after counted.2⟩

theorem Granted.length_lt {choose : Choose} {body : Claim} {placement : Placement}
    (granted : Granted settings digest choose now before workerId body after assignment placement)
    (built : BuiltInventory n placement.inventory) : (live before workerId).length < n := by
  have offers : 0 < placement.inventory.availableSlots := by
    have eligible := granted.eligible
    simp only [workerEligible, granted.reported, Bool.and_eq_true, decide_eq_true_eq] at eligible
    exact eligible.2.2
  obtain ⟨coordinator, probe, preflightReady, inventory_eq⟩ := built
  have slots := granted.slots
  simp only [slotsExhausted, decide_eq_false_iff_not, not_le] at slots
  rw [inventory_eq] at offers slots
  -- a report that offers a slot accounts for every slot of the Worker
  simp only [executionInventory, List.length_map] at offers slots
  split_ifs at offers slots <;> omega

/-- The recorded inventory is built from the journal, and the slots are not oversubscribed. -/
structure WithinSlots (workerId : UUID) (n : Nat) (db : Db) : Prop where
  built : ∀ inventory, db.inventory workerId = some inventory → BuiltInventory n inventory
  fits : (live db workerId).length ≤ n

theorem inventory_of_recordsBuilt (now : Time) {op : Op} (built : RecordsBuilt workerId n op)
    (recorded : ∀ inventory, before.inventory workerId = some inventory →
      BuiltInventory n inventory) (inventory : Inventory)
    (found : (op.apply digest now before).inventory workerId = some inventory) :
    BuiltInventory n inventory := by
  by_cases reports : op.reports workerId
  · cases op with
    | heartbeat settings reporter body =>
      obtain rfl : workerId = reporter := reports
      simp only [Op.apply] at found
      cases outcome : TrainingScheduler.heartbeat settings now before workerId body with
      | error exception =>
        rw [outcome] at found
        exact recorded inventory found
      | ok value =>
        obtain ⟨reply, after⟩ := value
        obtain ⟨-, report⟩ := heartbeat_report outcome
        obtain ⟨worker, stored, columns⟩ := Option.map_eq_some_iff.mp report
        rw [outcome, commit, Db.inventory, stored, Option.bind_some] at found
        have same : worker.inventory = some body.inventory :=
          congrArg (fun columns => columns.2.1) columns
        rw [same] at found
        cases found
        exact built rfl
    | register reporter body =>
      obtain rfl : workerId = reporter := reports
      obtain ⟨worker, stored, -, same⟩ := register_report now before workerId body
      simp only [Op.apply] at found
      rw [Db.inventory, stored, Option.bind_some, same] at found
      cases found
      exact built rfl
    | _ => cases reports
  · have kept := (op.tendsWorkers digest now before).report workerId reports
    rw [Db.inventory_of_report kept] at found
    exact recorded inventory found

theorem WithinSlots.of_builtStep (within : WithinSlots workerId n before)
    (step : BuiltStep digest workerId n before after) : WithinSlots workerId n after := by
  cases step with
  | outside assignments workers =>
    refine ⟨fun inventory found => within.built inventory ?_, ?_⟩
    · rwa [Db.inventory_of_report (workers.report workerId id)] at found
    · rw [live, assignments]
      exact within.fits
  | op now op built =>
    refine ⟨inventory_of_recordsBuilt now built within.built, ?_⟩
    cases Op.transition digest now before op.leases_lease with
    | effects effects => exact (effects.length_live_le workerId).trans within.fits
    | granted settings choose newId claimant body assignment placement claimed granted =>
      have rows := granted.inserted.rows
      rw [length_live, rows, List.countP_append, List.countP_singleton, ← length_live]
      by_cases own : claimant = workerId
      · subst own
        have reported : before.inventory claimant = some placement.inventory := by
          rw [Db.inventory, granted.found, Option.bind_some, granted.reported]
        have free := granted.length_lt (within.built _ reported)
        split_ifs <;> omega
      · have other : assignment.workerId ≠ workerId := granted.inserted.worker ▸ own
        simpa [other] using within.fits

end

/-- Slot capacity.  A Worker with `n` slots whose reports are built from its journal never holds
more than `n` unreleased assignments, of its current instance or of all its instances together. -/
theorem slots_not_oversubscribed {digest : Digest} {initial db : Db} {workerId : UUID} {n : Nat}
    (empty : initial.assignments.rows = [])
    (built : ∀ inventory, initial.inventory workerId = some inventory → BuiltInventory n inventory)
    (run : Relation.ReflTransGen (BuiltStep digest workerId n) initial db) :
    ((live db workerId).filter fun assignment =>
      db.currentInstance workerId == some assignment.instanceId).length ≤ n ∧
    (live db workerId).length ≤ n := by
  suffices within : WithinSlots workerId n db from
    ⟨(List.length_filter_le _ _).trans within.fits, within.fits⟩
  induction run with
  | refl => exact ⟨built, by simp [live, empty]⟩
  | tail _ step induction => exact induction.of_builtStep step

namespace Deployment

/-- The report of the deployment is the one its idle Worker with two slots builds. -/
theorem builtInventory_inventory : BuiltInventory 2 inventory :=
  ⟨{ journal := {}, instanceId := 10, mode := .available }, inventory, true, rfl⟩

/-- Two claims fill the two slots of the Worker. -/
theorem full_not_oversubscribed :
    (live overcommitted 1).length = 2 ∧
      ((live overcommitted 1).filter fun assignment =>
        overcommitted.currentInstance 1 == some assignment.instanceId).length ≤ 2 := by
  have built (stored : Inventory) (found : db.inventory 1 = some stored) :
      BuiltInventory 2 stored := by
    cases found
    exact builtInventory_inventory
  have run : Relation.ReflTransGen (BuiltStep digest 1 2) db overcommitted :=
    .tail (.single (.op 1 (claimBatch 1 100) trivial)) (.op 2 (claimBatch 2 101) trivial)
  exact ⟨by decide +kernel, (slots_not_oversubscribed rfl built run).1⟩

end Deployment

end TrainingScheduler
