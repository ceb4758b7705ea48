import TrainingScheduler.Scheduler.Lifecycle

/-!
# Generations of a workspace

The generations of a workspace are numbered without gaps and only the newest is alive; what a pass
in flight knows of its runtime stays true until it concludes, so no interleaving takes a runtime
back.
-/

namespace TrainingScheduler

open Table

variable {workspaceId : UUID} {runtime : Runtime} {before after db : Db}

theorem mem_runtimesOf :
    runtime ∈ db.runtimesOf workspaceId ↔
      runtime ∈ db.runtimes.rows ∧ runtime.workspaceId = workspaceId := by
  simp [Db.runtimesOf]

/-- Generations are numbered from one without gaps, and only the highest has not ended. -/
def Db.Numbered (db : Db) (workspaceId : UUID) : Prop :=
  (db.runtimesOf workspaceId).map Runtime.generation =
      List.range' 1 (db.runtimesOf workspaceId).length ∧
    ∀ runtime ∈ db.runtimesOf workspaceId, runtime.state.ended = false →
      runtime.generation = (db.runtimesOf workspaceId).length

/-- The invariant of the database: assignments of runtimes are for stored runtimes, and the
invariant of every tenure and of every workspace holds. -/
structure Db.Sound (db : Db) : Prop where
  rooted : ∀ assignment ∈ db.assignments.rows, ∀ runtimeId,
    assignment.runtimeId = some runtimeId → ∃ runtime ∈ db.runtimes.rows, runtime.id = runtimeId
  bound : ∀ runtime ∈ db.runtimes.rows, Bound runtime.life (db.held runtime.id)
  numbered : ∀ workspaceId, db.Numbered workspaceId

/-- No runtime disappears, and each moves on. -/
def Db.Extends (before after : Db) : Prop :=
  ∀ runtime ∈ before.runtimes.rows, ∃ next ∈ after.runtimes.rows, next.id = runtime.id ∧
    runtime.life.Moves next.life

theorem Db.Extends.trans {middle : Db} (first : before.Extends middle)
    (second : middle.Extends after) : before.Extends after := by
  intro runtime member
  obtain ⟨next, next_mem, same, moves⟩ := first runtime member
  obtain ⟨last, last_mem, last_same, last_moves⟩ := second next next_mem
  exact ⟨last, last_mem, last_same.trans same, moves.trans last_moves⟩

theorem Db.Follows.extended (follows : before.Follows Advances after) : before.Extends after := by
  intro runtime member
  obtain ⟨next, next_mem, same, advances⟩ := Table.Rowwise.exists_after follows member
  exact ⟨next, next_mem, same, advances.moves⟩

theorem Db.Follows.bound (follows : before.Follows Advances after)
    (member : runtime ∈ after.runtimes.rows) : Bound runtime.life (after.held runtime.id) := by
  obtain ⟨old, -, -, advances⟩ := Table.Rowwise.exists_before follows member
  exact advances.bound

theorem Db.Follows.numbered (follows : before.Follows Advances after)
    (numbered : before.Numbered workspaceId) : after.Numbered workspaceId := by
  have related : List.Forall₂
      (fun row next => next.id = row.id ∧ Advances (before.tenure row) (after.tenure next))
      (before.runtimesOf workspaceId) (after.runtimesOf workspaceId) :=
    Table.Rowwise.filter follows fun moved => by
      have same := moved.2.moves.workspaceId
      simp only [Runtime.life, Db.tenure] at same
      rw [same]
  have generations : (after.runtimesOf workspaceId).map Runtime.generation =
      (before.runtimesOf workspaceId).map Runtime.generation := by
    revert related
    generalize before.runtimesOf workspaceId = left
    generalize after.runtimesOf workspaceId = right
    intro related
    induction related with
    | nil => rfl
    | cons head _ induction =>
      rw [List.map_cons, List.map_cons, induction]
      congr 1
      exact head.2.moves.generation
  obtain ⟨gapless, newest⟩ := numbered
  refine ⟨by rw [generations, gapless, related.length_eq], ?_⟩
  intro runtime member alive
  obtain ⟨stored, mine⟩ := mem_runtimesOf.mp member
  obtain ⟨old, old_mem, -, advances⟩ := Table.Rowwise.exists_before follows stored
  have old_alive : old.state.ended = false := by
    cases past : old.state.ended with
    | false => rfl
    | true =>
      have same : runtime.state = old.state := advances.moves.ended past
      rw [same, past] at alive
      cases alive
  have generation : runtime.generation = old.generation := advances.moves.generation
  have workspace : runtime.workspaceId = old.workspaceId := advances.moves.workspaceId
  rw [generation, ← related.length_eq]
  exact newest old (mem_runtimesOf.mpr ⟨old_mem, workspace.symm.trans mine⟩) old_alive

/-- What a start inserts. -/
structure Launched (before after : Db) (runtime : Runtime) : Prop where
  inserted : before.runtimes.insert runtime = some after.runtimes
  assignments : after.assignments = before.assignments
  quiet : ∀ other ∈ before.runtimesOf runtime.workspaceId, other.state.ended = true
  generation : runtime.generation = nextGeneration (before.runtimesOf runtime.workspaceId)
  queued : runtime.state = .queued
  running : runtime.desiredState = .running
  unassigned : runtime.assignmentId = none ∧ runtime.resourceId = none
  unenrolled : runtime.enrollmentId = none ∧ runtime.managementRevoked = false
  unkeyed : runtime.sshHostKey = none

theorem start_eq_ok {settings : Settings} {operator : Operator} {catalog : Catalog} {now : Time}
    {owner newId : UUID} {key : String} {body : Start}
    (accepted : start settings operator catalog now before owner workspaceId key body newId =
      .ok (runtime, after)) : after = before ∨ Launched before after runtime := by
  unfold start at accepted
  split at accepted
  · cases accepted
  · rename_i workspace _
    obtain ⟨requirements, -, rest⟩ := bind_eq_ok accepted
    dsimp only at rest
    split at rest
    · split_ifs at rest
      cases rest
      exact .inl rfl
    · unfold launch at rest
      split_ifs at rest with disabled active
      obtain ⟨revision, -, rest⟩ := bind_eq_ok rest
      obtain ⟨spec, -, rest⟩ := bind_eq_ok rest
      dsimp only at rest
      split at rest
      · cases rest
      · rename_i runtimes inserted
        cases rest
        refine .inr ⟨inserted, rfl, ?_, rfl, rfl, rfl, ⟨rfl, rfl⟩, ⟨rfl, rfl⟩, rfl⟩
        intro other member
        by_contra alive
        exact active (List.any_eq_true.mpr ⟨other, member, by simpa using alive⟩)

private theorem foldr_max_range' (n m : Nat) : (List.range' 1 n).foldr max m = max n m := by
  induction n generalizing m with
  | zero => simp
  | succ n induction =>
    rw [List.range'_1_concat, List.foldr_append, List.foldr_cons, List.foldr_nil, induction]
    omega

namespace Launched

variable {before after : Db} {runtime : Runtime}

section

variable (launched : Launched before after runtime)

include launched

theorem rows : after.runtimes.rows = before.runtimes.rows ++ [runtime] :=
  (insert_eq_some launched.inserted).1

theorem runtimesOf (workspaceId : UUID) :
    after.runtimesOf workspaceId = before.runtimesOf workspaceId ++
      if runtime.workspaceId = workspaceId then [runtime] else [] := by
  unfold Db.runtimesOf
  rw [launched.rows, List.filter_append]
  split_ifs with mine <;> simp [mine]

theorem held (runtimeId : UUID) : after.held runtimeId = before.held runtimeId := by
  unfold Db.held
  rw [launched.assignments]

theorem numbered {workspaceId : UUID} (numbered : before.Numbered workspaceId) :
    after.Numbered workspaceId := by
  obtain ⟨gapless, newest⟩ := numbered
  unfold Db.Numbered
  rw [launched.runtimesOf]
  split_ifs with mine
  · have next : runtime.generation = (before.runtimesOf workspaceId).length + 1 := by
      rw [launched.generation, mine, nextGeneration, gapless, foldr_max_range', Nat.max_zero]
    refine ⟨?_, ?_⟩
    · rw [List.map_append, gapless, List.length_append, List.map_singleton, List.length_singleton,
        List.range'_1_concat, next, Nat.add_comm]
    · intro row member alive
      rw [List.length_append, List.length_singleton]
      rcases List.mem_append.mp member with old | new
      · rw [launched.quiet row (mine ▸ old)] at alive
        cases alive
      · rw [List.mem_singleton.mp new, next]
  · rw [List.append_nil]
    exact ⟨gapless, newest⟩

theorem sound (sound : before.Sound) : after.Sound where
  rooted assignment member runtimeId target := by
    rw [launched.assignments] at member
    obtain ⟨stored, stored_mem, same⟩ := sound.rooted assignment member runtimeId target
    refine ⟨stored, ?_, same⟩
    rw [launched.rows]
    exact List.mem_append_left _ stored_mem
  bound row member := by
    rw [launched.held]
    rw [launched.rows, List.mem_append, List.mem_singleton] at member
    rcases member with old | rfl
    · exact sound.bound row old
    · have fresh : before.held row.id = [] := by
        refine List.eq_nil_iff_forall_not_mem.mpr ?_
        intro assignment held
        obtain ⟨stored, target⟩ := mem_held.mp held
        obtain ⟨other, other_mem, same⟩ := sound.rooted assignment stored row.id target
        exact (insert_eq_some launched.inserted).2 other other_mem same
      rw [fresh]
      exact
        { unassigned := fun _ => ⟨rfl, by simp [Runtime.life, launched.queued]⟩
          assigned := fun id found => by cases launched.unassigned.1.symm.trans found
          running := fun _ => .inr (by simp [Runtime.life, launched.queued, phaseRank]) }
  numbered workspaceId := launched.numbered (sound.numbered workspaceId)

theorem extended (sound : before.Sound) : before.Extends after := by
  intro row member
  refine ⟨row, ?_, rfl, (sound.bound row member).moves_refl⟩
  rw [launched.rows]
  exact List.mem_append_left _ member

end

end Launched

/-- What a program in flight knows of the database. -/
def Flight.Sound (db : Db) : Flight → Prop
  | .selected runtimeId assignment =>
    ∃ stored ∈ db.held runtimeId, stored.id = assignment.id
  | .reconciling pass _ => pass.Tracks db
  | .bootstrapping _ _ => True

structure Control.Sound (control : Control) : Prop where
  db : control.db.Sound
  flights : ∀ flight state, control.flights flight = some state → state.Sound control.db

section

variable {digest : Digest} {now : Time} {control : Control} {pass : Pass} {before after : Db}
  {assignment : Assignment} {runtimeId token : UUID}

theorem Control.Sound.tracks (sound : control.Sound) {flight : ℕ} {point : PassPoint}
    (found : control.flights flight = some (.reconciling pass point)) : pass.Tracks control.db :=
  sound.flights flight _ found

/-- Every step but a start advances every tenure. -/
theorem Control.Sound.advances (sound : control.Sound) {act : Act}
    (not_start : ∀ settings operator catalog owner workspaceId key body newId,
      act ≠ .start settings operator catalog owner workspaceId key body newId) :
    control.db.Follows Advances (control.perform digest now act).db :=
  Table.Rowwise.mono_of_mem (Control.follows (fun _ _ _ => sound.tracks) not_start)
    fun runtime member _ altered =>
      ⟨altered.1, altered.2.advances (sound.db.bound runtime member)⟩

theorem Op.target_stored {op : Op} (rooted : ∀ assignment ∈ db.assignments.rows,
      ∀ runtimeId, assignment.runtimeId = some runtimeId →
        ∃ runtime ∈ db.runtimes.rows, runtime.id = runtimeId)
    (member : assignment ∈ (op.apply digest now db).assignments.rows)
    (target : assignment.runtimeId = some runtimeId) :
    ∃ runtime ∈ db.runtimes.rows, runtime.id = runtimeId := by
  have transition := op.transition digest now db op.leases_lease
  generalize op.apply digest now db = after at member transition
  cases transition with
  | effects effects =>
    obtain ⟨old, old_mem, evolves⟩ := effects.evolves.exists_before member
    have same := congrArg Target.runtimeId evolves.target_eq
    exact rooted old old_mem runtimeId (same.symm.trans target)
  | granted settings choose newId workerId body granted placement claimed grant =>
    rcases grant.inserted.mem_iff.mp member with old | rfl
    · exact rooted assignment old runtimeId target
    · rcases grant.runtimes with ⟨runtime, runtime_mem, -, -, mine, -⟩ | ⟨job, -⟩
      · exact ⟨runtime, runtime_mem, Option.some.inj (mine.symm.trans target)⟩
      · cases job.symm.trans target

theorem Pass.conclude_assignments (pass : Pass) (outcome : Outcome) (db : Db) :
    (pass.conclude now db outcome).1.assignments = db.assignments ∨
      (pass.conclude now db outcome).1 =
        (Op.concludeStop pass.token pass.assignmentId outcome.enrollment outcome.revoked).apply
          digest now db := by
  unfold Pass.conclude
  split
  · exact .inl rfl
  · exact .inl rfl
  · split_ifs
    · exact .inl rfl
    · exact .inr rfl
    · unfold Pass.concludeRunning
      split
      · exact .inl rfl
      · split_ifs <;> exact .inl rfl

theorem Boot.record_assignments (boot : Boot) (reply : EnrollmentReply) (db : Db) :
    (boot.record now db reply).1.assignments = db.assignments := by
  have ended : (bootstrapEnd boot.token now db boot.workerId boot.body boot.call
      reply).2.assignments = db.assignments := by
    unfold bootstrapEnd
    split <;> rfl
  unfold Boot.record
  split <;> rename_i after result <;> rw [result] at ended <;> exact ended

private theorem reconcileBegin_assignments
    (begun : reconcileBegin token now before runtimeId assignment = some (pass, after)) :
    after.assignments = before.assignments := by
  revert begun
  fun_cases reconcileBegin token now before runtimeId assignment <;> intro begun <;> cases begun
  rfl

private theorem bootstrapBegin_assignments {workerId : UUID} {body : Fence} {call : Enrollment}
    (begun : bootstrapBegin token now before workerId body = .ok (call, after)) :
    after.assignments = before.assignments := by
  revert begun
  fun_cases bootstrapBegin token now before workerId body <;> intro begun <;> cases begun
  rfl

theorem Control.perform_assignments (digest : Digest) (now : Time) (control : Control) (act : Act) :
    (control.perform digest now act).db.assignments = control.db.assignments ∨
      ∃ op : Op, (control.perform digest now act).db = op.apply digest now control.db := by
  cases act with
  | start settings operator catalog owner workspaceId key body newId =>
    refine .inl (commit_cases (fun after => after.assignments = control.db.assignments) rfl ?_)
    intro _ _ outcome
    rcases start_eq_ok outcome with same | launched
    · exact congrArg Db.assignments same
    · exact launched.assignments
  | stop owner runtimeId =>
    refine .inl (commit_cases (fun after => after.assignments = control.db.assignments) rfl ?_)
    intro _ _ outcome
    unfold TrainingScheduler.stop at outcome
    split at outcome
    · cases outcome
    · obtain ⟨-, -, equal⟩ := map_eq_ok outcome
      cases equal
      rfl
  | operate op =>
    rw [Control.perform]
    split_ifs
    · exact .inr ⟨op, rfl⟩
    · exact .inl rfl
  | lock flight token =>
    refine .inl ?_
    rw [Control.perform]
    split
    · split
      · rfl
      · exact reconcileBegin_assignments ‹_›
    · rfl
  | bootstrap flight token workerId body =>
    refine .inl ?_
    rw [Control.perform]
    split
    · exact bootstrapBegin_assignments ‹_›
    · rfl
  | conclude flight =>
    rw [Control.perform]
    split
    · rename_i pass outcome _
      exact (pass.conclude_assignments outcome control.db).imp_right fun same => ⟨_, same⟩
    · rename_i boot reply _
      exact .inl (boot.record_assignments reply control.db)
    · exact .inl rfl
  | reject flight =>
    refine .inl ?_
    rw [Control.perform]
    split
    · unfold setFlight Pass.reject
      dsimp only
      split <;> rfl
    · rfl
  | select | answer | close =>
    refine .inl ?_
    rw [Control.perform]
    split <;> rfl
  | crash | elsewhere => exact .inl rfl

theorem Db.Sound.follows {act : Act} (sound : control.db.Sound)
    (follows : control.db.Follows Advances (control.perform digest now act).db) :
    (control.perform digest now act).db.Sound where
  rooted assignment member runtimeId target := by
    obtain ⟨runtime, stored, same⟩ : ∃ runtime ∈ control.db.runtimes.rows,
        runtime.id = runtimeId := by
      rcases control.perform_assignments digest now act with kept | ⟨op, applied⟩
      · rw [kept] at member
        exact sound.rooted assignment member runtimeId target
      · rw [applied] at member
        exact Op.target_stored sound.rooted member target
    obtain ⟨next, next_mem, next_same, -⟩ := follows.extended runtime stored
    exact ⟨next, next_mem, next_same.trans same⟩
  bound _ member := follows.bound member
  numbered workspaceId := follows.numbered (sound.numbered workspaceId)

theorem Flight.Sound.follows {state : Flight} (known : state.Sound before) (sound : before.Sound)
    (follows : before.Follows Advances after) : state.Sound after := by
  have retained {runtimeId id : UUID} (held : ∃ stored ∈ before.held runtimeId, stored.id = id) :
      ∃ stored ∈ after.held runtimeId, stored.id = id := by
    obtain ⟨stored, stored_held, named⟩ := held
    obtain ⟨member, target⟩ := mem_held.mp stored_held
    obtain ⟨runtime, runtime_mem, rfl⟩ := sound.rooted stored member runtimeId target
    obtain ⟨next, -, same, advances⟩ := Table.Rowwise.exists_after follows runtime_mem
    obtain ⟨kept, kept_held, kept_named⟩ := advances.retained stored stored_held
    refine ⟨kept, ?_, kept_named.trans named⟩
    rw [← same]
    exact kept_held
  cases state with
  | selected runtimeId assignment => exact retained known
  | reconciling pass point =>
    refine ⟨retained known.granted, ?_⟩
    intro desired runtime member mine
    obtain ⟨old, old_mem, same, advances⟩ := Table.Rowwise.exists_before follows member
    exact advances.moves.desired (known.stopping desired old old_mem (same.symm.trans mine))
  | bootstrapping boot point => exact trivial

variable {runtime : Runtime}

theorem Flight.Sound.launched {state : Flight} (known : state.Sound before) (sound : before.Sound)
    (launched : Launched before after runtime) : state.Sound after := by
  cases state with
  | selected runtimeId assignment =>
    obtain ⟨stored, held, named⟩ := known
    exact ⟨stored, launched.held runtimeId ▸ held, named⟩
  | reconciling pass point =>
    obtain ⟨stored, held, named⟩ := known.granted
    refine ⟨⟨stored, launched.held pass.runtimeId ▸ held, named⟩, ?_⟩
    intro desired row member mine
    rw [launched.rows, List.mem_append, List.mem_singleton] at member
    rcases member with old | rfl
    · exact known.stopping desired row old mine
    · obtain ⟨member, target⟩ := mem_held.mp held
      obtain ⟨other, other_mem, same⟩ := sound.rooted stored member pass.runtimeId target
      have fresh := (insert_eq_some launched.inserted).2 other other_mem
      exact absurd (same.trans mine.symm) fresh
  | bootstrapping boot point => exact trivial

private theorem reconcileCandidate_sound (sound : db.Sound)
    (found : reconcileCandidate now db = some (runtimeId, assignment)) :
    (Flight.selected runtimeId assignment).Sound db := by
  unfold reconcileCandidate at found
  obtain ⟨runtime, chosen, rest⟩ := Option.bind_eq_some_iff.mp found
  obtain ⟨row, row_found, equal⟩ := Option.map_eq_some_iff.mp rest
  cases equal
  obtain ⟨id, assigned, stored⟩ := Option.bind_eq_some_iff.mp row_found
  have member : runtime ∈ db.runtimes.rows := List.mem_of_mem_filter (firstBy_mem chosen)
  obtain ⟨-, held, held_eq, named, -⟩ := (sound.bound runtime member).assigned id assigned
  refine ⟨held, by rw [held_eq]; exact List.mem_singleton_self held, ?_⟩
  rw [named, key_of_lookup stored]

private theorem reconcileBegin_sound (known : (Flight.selected runtimeId assignment).Sound after)
    (begun : reconcileBegin token now before runtimeId assignment = some (pass, after)) :
    pass.Tracks after := by
  unfold reconcileBegin at begun
  split at begun
  · rename_i worker runtime _ found
    split_ifs at begun
    cases begun
    have named : (lockedRuntime token now assignment.leaseUntil runtime).id = runtimeId :=
      (lockedRuntime_id token now assignment.leaseUntil runtime).trans (key_of_lookup found)
    refine ⟨?_, ?_⟩
    · rw [show (passOf token now (lockedRuntime token now assignment.leaseUntil runtime)
        assignment).runtimeId = runtimeId from named]
      exact known
    · intro desired row member mine
      have locked : lockedRuntime token now assignment.leaseUntil runtime ∈
          (before.modifyRuntime runtimeId (lockedRuntime token now assignment.leaseUntil)
            (lockedRuntime_id token now assignment.leaseUntil)).runtimes.rows :=
        mem_rewriteAt.mpr
          (.inr ⟨runtime, mem_of_lookup found, key_of_lookup found, rfl⟩)
      rw [eq_of_key_eq _ member locked mine]
      exact desired
  · cases begun

namespace Control

section

variable (sound : db.Sound)
  (known : ∀ flight state, control.flights flight = some state → state.Sound db) (flight : ℕ)

include sound known

theorem Sound.fly {next : Flight} (next_sound : next.Sound db) :
    ({ control with db }.setFlight flight (some next)).Sound := by
  refine ⟨sound, fun other state found => ?_⟩
  by_cases same : other = flight
  · obtain rfl : next = state := by simpa [Control.setFlight, same] using found
    exact next_sound
  · exact known other state (by simpa [Control.setFlight, same] using found)

theorem Sound.land : ({ control with db }.setFlight flight none).Sound := by
  refine ⟨sound, fun other state found => ?_⟩
  by_cases same : other = flight
  · simp [Control.setFlight, same] at found
  · exact known other state (by simpa [Control.setFlight, same] using found)

end

theorem Sound.start (sound : control.Sound) (settings : Settings) (operator : Operator)
    (catalog : Catalog) (owner workspaceId : UUID) (key : String) (body : Start) (newId : UUID) :
    (control.perform digest now
        (.start settings operator catalog owner workspaceId key body newId)).Sound ∧
      control.db.Extends (control.perform digest now
        (.start settings operator catalog owner workspaceId key body newId)).db := by
  have unchanged : control.db.Extends control.db := fun runtime member =>
    ⟨runtime, member, rfl, (sound.db.bound runtime member).moves_refl⟩
  simp only [perform]
  cases outcome : TrainingScheduler.start settings operator catalog now control.db owner
    workspaceId key body newId with
  | error exception => exact ⟨sound, unchanged⟩
  | ok value =>
    rcases start_eq_ok outcome with same | launched
    · simp only [commit, same]
      exact ⟨sound, unchanged⟩
    · exact ⟨⟨launched.sound sound.db, fun flight state found =>
        (sound.flights flight state found).launched sound.db launched⟩,
        launched.extended sound.db⟩

theorem Sound.altered (sound : control.Sound) (act : Act)
    (member : runtime ∈ control.db.runtimes.rows) :
    ∃ next ∈ (control.perform digest now act).db.runtimes.rows, next.id = runtime.id ∧
      Altered digest now control act (control.db.tenure runtime)
        ((control.perform digest now act).db.tenure next) := by
  by_cases starts : ∃ settings operator catalog owner workspaceId key body newId,
      act = .start settings operator catalog owner workspaceId key body newId
  · obtain ⟨settings, operator, catalog, owner, workspaceId, key, body, newId, rfl⟩ := starts
    simp only [perform]
    cases outcome : TrainingScheduler.start settings operator catalog now control.db owner
      workspaceId key body newId with
    | error exception => exact ⟨runtime, member, rfl, .refl⟩
    | ok value =>
      rcases start_eq_ok outcome with same | launched
      · simp only [commit, same]
        exact ⟨runtime, member, rfl, .refl⟩
      · refine ⟨runtime, ?_, rfl, ?_⟩
        · rw [show commit control.db (.ok value) = value.2 from rfl, launched.rows]
          exact List.mem_append_left _ member
        · rw [Db.tenure, show commit control.db (.ok value) = value.2 from rfl, Db.tenure,
            launched.held]
  · exact Table.Rowwise.exists_after (Control.follows (fun _ _ _ => sound.tracks)
      fun settings operator catalog owner workspaceId key body newId same =>
        starts ⟨settings, operator, catalog, owner, workspaceId, key, body, newId, same⟩) member

theorem Sound.perform (sound : control.Sound) (now : Time) (act : Act) :
    (control.perform digest now act).Sound ∧
      control.db.Extends (control.perform digest now act).db := by
  by_cases starts : ∃ settings operator catalog owner workspaceId key body newId,
      act = .start settings operator catalog owner workspaceId key body newId
  · obtain ⟨settings, operator, catalog, owner, workspaceId, key, body, newId, rfl⟩ := starts
    exact sound.start settings operator catalog owner workspaceId key body newId
  · have follows : control.db.Follows Advances (control.perform digest now act).db :=
      sound.advances fun settings operator catalog owner workspaceId key body newId same =>
        starts ⟨settings, operator, catalog, owner, workspaceId, key, body, newId, same⟩
    refine ⟨?_, follows.extended⟩
    have db := sound.db.follows follows
    have known (flight : ℕ) (state : Flight) (found : control.flights flight = some state) :
        state.Sound (control.perform digest now act).db :=
      (sound.flights flight state found).follows sound.db follows
    clear follows
    revert db known
    cases act with
    | start => exact absurd ⟨_, _, _, _, _, _, _, _, rfl⟩ starts
    | stop | elsewhere => exact fun db known => ⟨db, known⟩
    | crash flight => exact fun db known => .land db known flight
    | operate op =>
      rw [Control.perform]
      split_ifs <;> exact fun db known => ⟨db, known⟩
    | select flight =>
      rw [Control.perform]
      split
      · exact fun db known => .fly db known flight (reconcileCandidate_sound sound.db ‹_›)
      · exact fun db known => ⟨db, known⟩
    | lock flight token =>
      rw [Control.perform]
      split
      · rename_i selected
        split
        · exact fun db known => .land db known flight
        · rename_i begun
          exact fun db known => .fly db known flight
            (reconcileBegin_sound (known flight _ selected) begun)
      · exact fun db known => ⟨db, known⟩
    | bootstrap flight token workerId body =>
      rw [Control.perform]
      split
      · exact fun db known => .fly db known flight trivial
      · exact fun db known => ⟨db, known⟩
    | answer flight reply =>
      rw [Control.perform]
      split
      · exact fun db known => .fly db known flight (sound.tracks ‹_›)
      · exact fun db known => .fly db known flight trivial
      · exact fun db known => ⟨db, known⟩
    | conclude flight =>
      rw [Control.perform]
      split
      · rename_i pass outcome concluding
        exact fun db known => .fly db known flight
          (known flight (.reconciling pass (.concluding outcome)) concluding)
      · exact fun db known => .fly db known flight trivial
      · exact fun db known => ⟨db, known⟩
    | reject flight =>
      rw [Control.perform]
      split
      · rename_i pass rejecting
        exact fun db known => .fly db known flight
          (known flight (.reconciling pass .rejecting) rejecting)
      · exact fun db known => ⟨db, known⟩
    | close flight =>
      rw [Control.perform]
      split
      · exact fun db known => .land db known flight
      · exact fun db known => .land db known flight
      · exact fun db known => ⟨db, known⟩

theorem Sound.performAll (sound : control.Sound) (acts : List (Time × Act)) :
    (control.performAll digest acts).Sound ∧
      control.db.Extends (control.performAll digest acts).db := by
  induction acts generalizing control with
  | nil =>
    exact ⟨sound, fun runtime member =>
      ⟨runtime, member, rfl, (sound.db.bound runtime member).moves_refl⟩⟩
  | cons act rest induction =>
    obtain ⟨next, extended⟩ := @Sound.perform digest control sound act.1 act.2
    obtain ⟨last, extended'⟩ := induction next
    exact ⟨last, extended.trans extended'⟩

/-- A Scheduler without runtimes and reservations. -/
def initial (workers : Table Worker.workerId) (jobs : Table Job.id) : Control where
  db := { workers, jobs, runtimes := .empty, assignments := .empty }

theorem initial_sound (workers : Table Worker.workerId) (jobs : Table Job.id) :
    (initial workers jobs).Sound where
  db :=
    { rooted := by rintro _ ⟨⟩
      bound := by rintro _ ⟨⟩
      numbered := fun _ => ⟨rfl, by rintro _ ⟨⟩⟩ }
  flights := by rintro _ _ ⟨⟩

end Control
end

/-- Over every interleaving, from a Scheduler without runtimes: the generations of a workspace are
`1, …, n` and only the highest has not ended; a runtime that is to stop stays so, one that has ended
stays as it ended, and one that is still to run only moves forward along its phases, or is lost. -/
theorem generations_only_advance (digest : Digest) (workers : Table Worker.workerId)
    (jobs : Table Job.id) (acts later : List (Time × Act)) :
    let middle := (Control.initial workers jobs).performAll digest acts
    let last := middle.performAll digest later
    (∀ workspaceId, ∃ n,
        (middle.db.runtimesOf workspaceId).map Runtime.generation = List.range' 1 n ∧
          ∀ runtime ∈ middle.db.runtimesOf workspaceId, runtime.state.ended = false →
            runtime.generation = n) ∧
      ∀ runtime ∈ middle.db.runtimes.rows, ∃ next ∈ last.db.runtimes.rows,
        next.id = runtime.id ∧
          (runtime.desiredState = .stopped → next.desiredState = .stopped) ∧
          (runtime.state.ended = true → next.state = runtime.state ∧
            ∀ assignment ∈ middle.db.assignments.rows,
              assignment.runtimeId = some runtime.id → assignment.releasedAt ≠ none) ∧
          (next.desiredState = .running → Forward runtime.state next.state) := by
  intro middle last
  have sound : middle.Sound := ((Control.initial_sound workers jobs).performAll acts).1
  have extended : middle.db.Extends last.db := (sound.performAll later).2
  refine ⟨?_, ?_⟩
  · intro workspaceId
    exact ⟨_, sound.db.numbered workspaceId⟩
  · intro runtime member
    obtain ⟨next, next_mem, same, moves⟩ := extended runtime member
    refine ⟨next, next_mem, same, moves.desired, ?_, moves.forward⟩
    intro past
    refine ⟨moves.ended past, ?_⟩
    intro assignment stored target
    have fits := (sound.db.bound runtime member).fits (mem_held.mpr ⟨stored, target⟩)
    exact fits.freed.mp past

end TrainingScheduler
