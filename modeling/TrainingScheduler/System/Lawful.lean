import TrainingScheduler.System.Hosts

/-!
# Lawful worlds

Along every run of the joint system the Scheduler's rows back what the Workers act on, and every
answer under way is sound.
-/

namespace TrainingScheduler

open Request

section

variable {digest : Digest} {now : Time} {lease : ℚ} {op : Op} {before after : Db} {row : Assignment}

theorem Transition.extends (transition : Transition digest now lease op before after)
    (bounded : ∀ row ∈ before.assignments.rows, row.leaseUntil ≤ now + lease)
    (member : row ∈ before.assignments.rows) :
    ∃ next ∈ after.assignments.rows, Persists row next ∧ row.leaseUntil ≤ next.leaseUntil := by
  cases transition with
  | effects effects =>
    obtain ⟨next, next_mem, evolves⟩ := effects.evolves.exists_after member
    refine ⟨next, next_mem, ⟨evolves.grant, evolves.frozen⟩, ?_⟩
    rcases evolves.renewed with kept | ⟨-, renewed⟩
    · exact kept.ge
    · exact renewed ▸ bounded row member
  | granted _ _ _ _ _ assignment placement _ granted =>
    refine ⟨row, ?_, .refl row, le_rfl⟩
    exact granted.inserted.mem_iff.mpr (.inl member)

section

variable (transition : Transition digest now lease op before after)
  (member : row ∈ after.assignments.rows)

include transition member

theorem Transition.bounded (leases : op.Leases lease)
    (bounded : ∀ row ∈ before.assignments.rows, row.leaseUntil ≤ now + lease) :
    row.leaseUntil ≤ now + lease := by
  cases transition with
  | effects effects =>
    obtain ⟨old, old_mem, evolves⟩ := effects.evolves.exists_before member
    rcases evolves.renewed with kept | ⟨-, renewed⟩
    · exact kept ▸ bounded old old_mem
    · exact renewed.le
  | granted settings _ _ _ _ assignment placement claimed granted =>
    subst claimed
    rcases granted.inserted.mem_iff.mp member with old | rfl
    · exact bounded row old
    · exact (granted.inserted.lease.trans (congrArg (now + ·) leases)).le

theorem Transition.retired (retired : ∀ row ∈ before.assignments.rows, ¬row.Unreleased →
      row.leaseUntil ≤ now ∨ row.cleanupAck = true) (released : ¬row.Unreleased) :
    row.leaseUntil ≤ now ∨ row.cleanupAck = true := by
  cases transition with
  | effects effects =>
    obtain ⟨old, old_mem, evolves⟩ := effects.evolves.exists_before member
    by_cases unreleased : old.Unreleased
    · exact evolves.released unreleased released
    · rw [evolves.frozen unreleased]
      exact retired old old_mem unreleased
  | granted _ _ _ _ _ assignment placement _ granted =>
    rcases granted.inserted.mem_iff.mp member with old | rfl
    · exact retired row old released
    · exact absurd granted.inserted.unreleased released

theorem Transition.acknowledged (acknowledged : row.cleanupAck = true) :
    ∃ old ∈ before.assignments.rows, row.toGrant = old.toGrant ∧
      (old.cleanupAck = true ∨ op.acks old.id) := by
  cases transition with
  | effects effects =>
    obtain ⟨old, old_mem, evolves⟩ := effects.evolves.exists_before member
    exact ⟨old, old_mem, evolves.grant, evolves.acked acknowledged⟩
  | granted _ _ _ _ _ assignment placement _ granted =>
    rcases granted.inserted.mem_iff.mp member with old | rfl
    · exact ⟨row, old, rfl, .inl acknowledged⟩
    · exact absurd acknowledged (by simp [granted.inserted.unacknowledged])

end

end

def World.SentCleanup (world : World) (workerId assignmentId : UUID) : Prop :=
  ∃ call request body, world.calls.Carries call request ∧ request.workerId = workerId ∧
    request.message = .cleanup body ∧ body.assignmentId = assignmentId

/-- The Scheduler's rows, the calls under way and the Worker hosts fit together. -/
structure World.Lawful (settings : Settings) (digest : Digest) (world : World) : Prop where
  jobs : Exclusive Target.jobId world.db
  runtimes : Exclusive Target.runtimeId world.db
  keyed : Keyed digest world.db
  bounded : ∀ row ∈ world.db.assignments.rows,
    row.leaseUntil ≤ world.now + settings.leaseSeconds
  retired : ∀ row ∈ world.db.assignments.rows, ¬row.Unreleased →
    row.leaseUntil ≤ world.now ∨ row.cleanupAck = true
  acknowledged : ∀ row ∈ world.db.assignments.rows, row.cleanupAck = true →
    world.SentCleanup row.workerId row.id
  sent : ∀ call request, world.calls.Carries call request → request.sentAt ≤ world.now
  answers : world.AnswersSound
  retiring : ∀ call request body, world.calls.Carries call request →
    request.message = .cleanup body →
      world.Holds request.workerId body.toFence ∧
        (world.hosts request.workerId).Retires body.assignmentId
  hosts : ∀ workerId, (world.hosts workerId).Lawful world workerId

variable {settings : Settings} {digest : Digest} {world after : World} {workerId : UUID}

theorem World.Lawful.of_initial (initial : world.Initial) : world.Lawful settings digest := by
  have rows {row : Assignment} (member : row ∈ world.db.assignments.rows) : False := by
    simp [initial.unassigned] at member
  have uncarried {call : Nat} {request : Request} (carried : world.calls.Carries call request) :
      False := by
    simp [Calls.Carries, initial.silent.1] at carried
  refine
    { jobs := .of_empty initial.unassigned
      runtimes := .of_empty initial.unassigned
      keyed := .of_empty initial.unassigned
      bounded := fun row member => (rows member).elim
      retired := fun row member => (rows member).elim
      acknowledged := fun row member => (rows member).elim
      sent := fun call request carried => (uncarried carried).elim
      answers := .empty initial.silent.2
      retiring := fun call request body carried => (uncarried carried).elim
      hosts := fun workerId => ?_ }
  have fresh := initial.fresh workerId
  cases host : world.hosts workerId with
  | down journal =>
    rw [host] at fresh
    intro record member
    rw [fresh.1] at member
    cases member
  | up process =>
    rw [host] at fresh
    obtain ⟨empty, unclaimed, main, beat, unset, clock⟩ := fresh
    exact
      { clock := clock
        coordinator :=
          { tracked := fun record member => by
              have absent : record ∈ ([] : List Record) := empty ▸ member
              cases absent
            leased := fun id deadline held => by cases (unset id).symm.trans held
            unjournalled := fun claim pending => by cases unclaimed.symm.trans pending }
        main := by
          rcases main with starting | polling
          · rw [starting]
            exact unset
          · rw [polling]
            exact trivial
        beat := by
          rw [beat]
          exact trivial }

section

variable {choose : Choose} {newId : Nat → UUID × UUID} {request : Request}

theorem Request.respond_sound
    (outcome : after.db = (request.op settings choose newId).apply digest world.now world.db)
    (order : request.sentAt ≤ world.now)
    (held : ∀ body, request.message = .cleanup body → world.Holds request.workerId body.toFence) :
    (request.respond settings digest choose newId world.now world.db).Sound after request := by
  obtain ⟨workerId, sentAt, message⟩ := request
  cases message with
  | claim body =>
    simp only [op, Op.apply] at outcome
    simp only [respond]
    cases called : claim settings digest choose newId world.now world.db workerId body with
    | error exception => rintro _ ⟨⟩
    | ok value =>
      obtain ⟨reply, db⟩ := value
      rw [called] at outcome
      have backed {row : Assignment} (member : row ∈ after.db.assignments.rows)
          (made : row.MadeFor workerId body) :
          (Answer.claim (envelope row settings world.now)).Sound after
            ⟨workerId, sentAt, .claim body⟩ := by
        refine ⟨fun shown answered => ?_, fun released => ?_⟩
        · obtain ⟨fence, bound⟩ := envelope_leased answered
          refine ⟨body, rfl, row, member, made, fence, ?_⟩
          dsimp only at order ⊢
          linarith
        · refine ⟨body, rfl, row, member, made, ?_⟩
          unfold envelope at released
          split_ifs at released with freed outdated
          · exact Option.isSome_iff_ne_none.mp freed
          · cases released
      cases claimResult_of_claim called with
      | replayed previous found hash =>
        obtain ⟨member, made⟩ := madeFor_of_previousClaim found
        exact backed (outcome ▸ member) made
      | refused first =>
        refine ⟨?_, ?_⟩
        · rintro _ ⟨⟩
        · rintro ⟨⟩
      | granted db assignment placement granted =>
        have inserted := granted.inserted
        refine backed ?_ ⟨inserted.worker, inserted.instance_eq, inserted.request⟩
        rw [outcome]
        exact inserted.rows ▸ List.mem_append_right _ List.mem_cons_self
  | heartbeat body =>
    simp only [op, Op.apply] at outcome
    simp only [respond]
    cases called : heartbeat settings world.now world.db workerId body with
    | error exception => rintro _ ⟨⟩
    | ok value =>
      obtain ⟨reply, db⟩ := value
      rw [called] at outcome
      intro decision member renewal
      obtain ⟨row, row_mem, id_eq, worker, lease⟩ := leased_of_renewal called member renewal
      refine ⟨row, outcome ▸ row_mem, id_eq, worker, ?_⟩
      dsimp only at order ⊢
      linarith
  | event | result =>
    simp only [respond]
    split
    · rintro _ ⟨⟩
    · exact trivial
  | cleanup body =>
    simp only [op, Op.apply] at outcome
    simp only [respond]
    cases called : cleanup world.now world.db workerId body with
    | error exception =>
      rintro other ⟨⟩
      obtain ⟨row, member, worker, fence⟩ := held body rfl
      exact status_of_cleanup member worker fence called
    | ok value =>
      obtain ⟨released, db⟩ := value
      rw [called] at outcome
      rintro rfl other ⟨⟩
      rw [outcome]
      exact released_of_cleanup called
  | register body => exact trivial

theorem Request.op_leases : (request.op settings choose newId).Leases settings.leaseSeconds := by
  unfold op
  split
  · rfl
  · rfl
  all_goals exact trivial

end

section

variable (lawful : world.Lawful settings digest) (op : Op)
  (leases : op.Leases settings.leaseSeconds) (time : after.now = world.now)
  (outcome : after.db = op.apply digest world.now world.db)
  (requests : after.calls.requests = world.calls.requests)

include lawful op leases time outcome requests

theorem World.Lawful.follows : World.Follows world after where
  time := time.ge
  rows row member := outcome ▸
    (Op.transition digest world.now world.db leases).extends lawful.bounded member
  calls call request carried := by
    rwa [Calls.Carries, requests]

theorem World.Lawful.of_op (hosts : after.hosts = world.hosts)
    (acks : ∀ id, op.acks id → ∃ call request body, world.calls.Carries call request ∧
      request.message = .cleanup body ∧ id = body.assignmentId) (answers : after.AnswersSound) :
    after.Lawful settings digest := by
  have follows := lawful.follows op leases time outcome requests
  have transition : Transition digest world.now settings.leaseSeconds op world.db after.db :=
    outcome ▸ Op.transition digest world.now world.db leases
  have carries {call : Nat} {request : Request} :
      after.calls.Carries call request ↔ world.calls.Carries call request := by
    rw [Calls.Carries, Calls.Carries, requests]
  refine
    { jobs := lawful.jobs.of_transition indexed_jobId transition
      runtimes := lawful.runtimes.of_transition indexed_runtimeId transition
      keyed := lawful.keyed.of_openStep (outcome ▸ .op world.now op)
      bounded := fun row member => time ▸ transition.bounded member leases lawful.bounded
      retired := fun row member released => time ▸ transition.retired member lawful.retired released
      acknowledged := fun row member acknowledged => ?_
      sent := fun call request carried => time ▸ lawful.sent call request (carries.mp carried)
      answers := answers
      retiring := fun call request body carried message => ?_
      hosts := fun workerId => hosts ▸ (lawful.hosts workerId).mono follows }
  · obtain ⟨old, old_mem, grant, earlier | permitted⟩ := transition.acknowledged member acknowledged
    · obtain ⟨call, request, body, carried, sender, message, target⟩ :=
        lawful.acknowledged old old_mem earlier
      exact ⟨call, request, body, carries.mpr carried,
        sender.trans (congrArg Grant.workerId grant).symm, message,
        target.trans (congrArg Grant.id grant).symm⟩
    · obtain ⟨call, request, body, carried, message, target⟩ := acks _ permitted
      obtain ⟨⟨named, named_mem, worker, fence⟩, -⟩ :=
        lawful.retiring call request body carried message
      have named_id : named.id = body.assignmentId := congrArg Fence.assignmentId fence
      have same : named = old :=
        world.db.assignments.eq_of_key_eq named_mem old_mem (named_id.trans target.symm)
      subst same
      exact ⟨call, request, body, carries.mpr carried,
        worker.symm.trans (congrArg Grant.workerId grant).symm, message,
        target.symm.trans (congrArg Grant.id grant).symm⟩
  · obtain ⟨held, retires⟩ := lawful.retiring call request body (carries.mp carried) message
    exact ⟨held.mono follows, hosts ▸ retires⟩

end

section

variable (lawful : world.Lawful settings digest)

include lawful

theorem World.Lawful.of_host {workerId : UUID} {host : Host} {message : Option Message}
    (step : HostStep world workerId (world.hosts workerId) host message) :
    (world.act workerId host message).Lawful settings digest := by
  have follows := world.follows_act workerId host message
  have sent : world.Records (world.act workerId host message) workerId message := by
    rintro body rfl
    exact Calls.carries_next _ _
  have carried_cases {call : Nat} {request : Request}
      (carried : (world.act workerId host message).calls.Carries call request) :
      world.calls.Carries call request ∨
        ∃ body, message = some body ∧ request = ⟨workerId, world.now, body⟩ := by
    cases message with
    | none => exact .inl carried
    | some body =>
      rcases Calls.carries_send_iff.mp carried with earlier | ⟨-, rfl⟩
      · exact .inl earlier
      · exact .inr ⟨body, rfl, rfl⟩
  have answers : (world.act workerId host message).AnswersSound := by
    have still := lawful.answers.follow follows
    cases message with
    | none => exact still
    | some body => exact still.send _
  refine
    { jobs := lawful.jobs
      runtimes := lawful.runtimes
      keyed := lawful.keyed
      bounded := lawful.bounded
      retired := lawful.retired
      acknowledged := fun row member acknowledged => ?_
      sent := fun call request carried => ?_
      answers := answers
      retiring := fun call request body carried body_eq => ?_
      hosts := fun other => ?_ }
  · obtain ⟨call, request, body, carried, sender⟩ := lawful.acknowledged row member acknowledged
    exact ⟨call, request, body, follows.calls call request carried, sender⟩
  · rcases carried_cases carried with earlier | ⟨body, -, rfl⟩
    · exact lawful.sent call request earlier
    · exact le_rfl
  · rcases carried_cases carried with earlier | ⟨sent, sends, rfl⟩
    · obtain ⟨held, retires⟩ := lawful.retiring call request body earlier body_eq
      refine ⟨held.mono follows, ?_⟩
      by_cases same : request.workerId = workerId
      · rw [same] at retires ⊢
        rw [world.act_self]
        exact step.retires lawful.answers (lawful.hosts workerId) retires
      · rwa [world.act_ne same]
    · dsimp only at body_eq
      subst body_eq sends
      obtain ⟨held, retires⟩ := step.retires_of_cleanup (lawful.hosts workerId)
      refine ⟨held.mono follows, ?_⟩
      rwa [world.act_self]
  · by_cases same : other = workerId
    · subst same
      rw [world.act_self]
      exact step.lawful lawful.answers follows sent (lawful.hosts other)
    · rw [world.act_ne same]
      exact (lawful.hosts other).mono follows

theorem World.Lawful.of_follows (time : world.now ≤ after.now)
    (rows : after.db.assignments = world.db.assignments)
    (known : ∀ id, (world.db.workers.lookup id).isSome → (after.db.workers.lookup id).isSome)
    (calls : after.calls = world.calls) (hosts : after.hosts = world.hosts) :
    after.Lawful settings digest := by
  have follows : World.Follows world after :=
    { time := time
      rows := fun row member => ⟨row, rows ▸ member, .refl row, le_rfl⟩
      calls := fun call request carried => calls ▸ carried }
  refine
    { jobs := fun left left_mem right right_mem =>
        lawful.jobs left (rows ▸ left_mem) right (rows ▸ right_mem)
      runtimes := fun left left_mem right right_mem =>
        lawful.runtimes left (rows ▸ left_mem) right (rows ▸ right_mem)
      keyed := lawful.keyed.of_grants (fun row member => ⟨row, rows ▸ member, rfl⟩) known
      bounded := fun row member =>
        (lawful.bounded row (rows ▸ member)).trans (add_le_add_left time _)
      retired := fun row member released =>
        (lawful.retired row (rows ▸ member) released).imp_left fun past => past.trans time
      acknowledged := fun row member acknowledged => ?_
      sent := fun call request carried => (lawful.sent call request (calls ▸ carried)).trans time
      answers := by
        have still := lawful.answers.follow follows
        rwa [← calls] at still
      retiring := fun call request body carried message => ?_
      hosts := fun workerId => hosts ▸ (lawful.hosts workerId).mono follows }
  · obtain ⟨call, request, body, carried, sender⟩ :=
      lawful.acknowledged row (rows ▸ member) acknowledged
    exact ⟨call, request, body, follows.calls call request carried, sender⟩
  · obtain ⟨held, retires⟩ := lawful.retiring call request body (calls ▸ carried) message
    exact ⟨held.mono follows, hosts ▸ retires⟩

theorem World.Lawful.of_background (op : Op) (leases : op.Leases settings.leaseSeconds)
    (silent : ∀ id, ¬op.acks id) :
    { world with db := op.apply digest world.now world.db }.Lawful settings digest := by
  refine lawful.of_op op leases rfl rfl rfl rfl (fun id acks => absurd acks (silent id)) ?_
  exact lawful.answers.follow (lawful.follows op leases rfl rfl rfl)

theorem World.Lawful.of_step (step : World.Step settings digest world after) :
    after.Lawful settings digest := by
  cases step with
  | tick later order => exact lawful.of_follows order rfl (fun _ known => known) rfl rfl
  | serve call request choose newId carried =>
    let op := request.op settings choose newId
    let served := world.serve settings digest choose newId call request
    have follows : World.Follows world served := lawful.follows op op_leases rfl rfl rfl
    refine lawful.of_op op op_leases rfl rfl rfl rfl (fun id acks => ?_) ?_
    · unfold op Request.op at acks
      split at acks
      all_goals first
        | exact ⟨call, request, _, carried, ‹_›, acks⟩
        | exact acks.elim
    · refine (lawful.answers.follow follows).answer carried ?_
      refine respond_sound rfl (lawful.sent call request carried) fun body message => ?_
      exact (lawful.retiring call request body carried message).1
  | expire => exact lawful.of_background .expire trivial fun _ acks => acks.elim
  | concludeStop token assignmentId enrollment revoked =>
    exact lawful.of_background (.concludeStop token assignmentId enrollment revoked) trivial
      fun _ acks => acks.elim
  | outside db assignments workers =>
    exact lawful.of_follows le_rfl assignments workers.known rfl rfl
  | host workerId host message step => exact lawful.of_host step

theorem World.Lawful.follows_step (step : World.Step settings digest world after) :
    World.Follows world after := by
  cases step with
  | tick later order =>
    exact
      { time := order
        rows := fun row member => ⟨row, member, .refl row, le_rfl⟩
        calls := fun _ _ carried => carried }
  | serve call request choose newId carried =>
    exact lawful.follows (request.op settings choose newId) op_leases rfl rfl rfl
  | expire => exact lawful.follows .expire trivial rfl rfl rfl
  | concludeStop token assignmentId enrollment revoked =>
    exact lawful.follows (.concludeStop token assignmentId enrollment revoked) trivial rfl rfl rfl
  | outside db assignments workers =>
    exact
      { time := le_rfl
        rows := fun row member => ⟨row, assignments ▸ member, .refl row, le_rfl⟩
        calls := fun _ _ carried => carried }
  | host workerId host message step => exact world.follows_act workerId host message

end

theorem World.Lawful.of_reachable (reachable : world.Reachable settings digest) :
    world.Lawful settings digest := by
  obtain ⟨initial, start, run⟩ := reachable
  induction run with
  | refl => exact .of_initial start
  | tail _ step induction => exact induction.of_step step

theorem World.Step.hosts (step : World.Step settings digest world after)
    (workerId : UUID) :
    after.hosts workerId = world.hosts workerId ∨
      ∃ message, HostStep world workerId (world.hosts workerId) (after.hosts workerId) message := by
  cases step with
  | host moving host message step =>
    by_cases same : workerId = moving
    · subst same
      rw [world.act_self]
      exact .inr ⟨message, step⟩
    · exact .inl (world.act_ne same)
  | _ => exact .inl rfl

theorem World.Step.origin {after : World} (step : World.Step settings digest world after)
    {row : Assignment} (member : row ∈ after.db.assignments.rows) :
    (∃ old ∈ world.db.assignments.rows, row.toGrant = old.toGrant ∧
      (row.Unreleased → old.Unreleased)) ∨
    after.hosts = world.hosts ∧ ∀ old ∈ world.db.assignments.rows, old.id ≠ row.id := by
  have of_op (op : Op) (hosts : after.hosts = world.hosts)
      (outcome : after.db = op.apply digest world.now world.db) :
      (∃ old ∈ world.db.assignments.rows, row.toGrant = old.toGrant ∧
        (row.Unreleased → old.Unreleased)) ∨
      after.hosts = world.hosts ∧ ∀ old ∈ world.db.assignments.rows, old.id ≠ row.id := by
    rw [outcome] at member
    cases Op.transition digest world.now world.db op.leases_lease with
    | effects effects =>
      obtain ⟨old, old_mem, evolves⟩ := effects.evolves.exists_before member
      exact .inl ⟨old, old_mem, evolves.grant, evolves.unreleased_of_after⟩
    | granted _ _ _ _ _ assignment placement _ granted =>
      rcases granted.inserted.mem_iff.mp member with old | rfl
      · exact .inl ⟨row, old, rfl, id⟩
      · exact .inr ⟨hosts, granted.inserted.fresh⟩
  cases step with
  | tick later order => exact .inl ⟨row, member, rfl, id⟩
  | serve call request choose newId carried =>
    exact of_op (request.op settings choose newId) rfl rfl
  | expire => exact of_op .expire rfl rfl
  | concludeStop token assignmentId enrollment revoked =>
    exact of_op (.concludeStop token assignmentId enrollment revoked) rfl rfl
  | outside db assignments workers => exact .inl ⟨row, assignments ▸ member, rfl, id⟩
  | host => exact .inl ⟨row, member, rfl, id⟩

variable {record : Record}

theorem Host.Lawful.tracks {host : Host} (lawful : host.Lawful world workerId)
    (member : record ∈ host.journal.records.rows) : world.Tracks workerId record := by
  cases host with
  | down journal => exact lawful record member
  | up process => exact lawful.coordinator.tracked record member

theorem World.Lawful.open_record (lawful : world.Lawful settings digest) {row : Assignment}
    (member : row ∈ world.db.assignments.rows) (unreleased : row.Unreleased)
    (record_mem : record ∈ (world.hosts workerId).journal.records.rows)
    (id_eq : record.assignmentId = row.id) :
    record ∈ (world.hosts workerId).journal.active ∧ record.fence = row.fence := by
  obtain ⟨tracked, tracked_mem, -, fence, closed⟩ := (lawful.hosts workerId).tracks record_mem
  have tracked_id : tracked.id = record.assignmentId := congrArg Fence.assignmentId fence
  obtain rfl : tracked = row :=
    world.db.assignments.eq_of_key_eq tracked_mem member (tracked_id.trans id_eq)
  refine ⟨List.mem_filter.mpr ⟨record_mem, ?_⟩, fence.symm⟩
  cases released : record.released with
  | false => rfl
  | true => exact absurd unreleased (closed released)

end TrainingScheduler
