import TrainingScheduler.Workspaces.Captures

/-!
# Attempts of image builds

A revision is built by one builder at a time, at most three times, and each time under an attempt of
its own.  A callback counts only while its attempt is current and its lease is not over, and a
revision that is ready stays as it is.
-/

namespace TrainingScheduler.Workspaces

open Table

variable {timely : Prop} {label : Label} {held : Set LockedRow} {store before after : Store}

/-- The builder builds the revision under this attempt. -/
def Store.Current (store : Store) (revisionId : UUID) (builderId : String) (attemptId : UUID) :
    Prop :=
  ∃ row, store.revisions.lookup revisionId = some row ∧ row.state = .building ∧
    row.builderId = some builderId ∧ row.attemptId = some attemptId

variable {revisionId : UUID} {builderId : String} {row : ImageRevision} {attemptId : UUID}
  {body : ReadyBody} {attempt : BuildAttempt} {f : ImageRevision → ImageRevision}

theorem Store.Current.unique {otherAttempt : UUID} {otherBuilder : String}
    (current : store.Current revisionId builderId attemptId)
    (other : store.Current revisionId otherBuilder otherAttempt) :
    otherBuilder = builderId ∧ otherAttempt = attemptId := by
  obtain ⟨row, found, -, built, attempted⟩ := current
  obtain ⟨same, same_found, -, other_built, other_attempted⟩ := other
  cases found.symm.trans same_found
  exact ⟨Option.some.inj (other_built.symm.trans built),
    Option.some.inj (other_attempted.symm.trans attempted)⟩

/-- The attempt is current, and its lease is not over. -/
def Store.Live (store : Store) (attempt : BuildAttempt) : Prop :=
  ∃ row deadline, store.revisions.lookup attempt.revisionId = some row ∧ attempt.owns row = true ∧
    row.state = .building ∧ row.leaseUntil = some deadline ∧ store.clock < deadline

/-- The attempts that a callback of a builder is about. -/
def Request.callback : Request → Option (List BuildAttempt)
  | ready body _ => some [body.toBuildAttempt]
  | failure attempt _ => some [attempt]
  | heartbeat builderId active =>
    some (active.map fun item => ⟨item.1, builderId, item.2⟩)
  | _ => none

open Workspaces.Request

theorem Effect.ended (effect : Effect timely label held before after)
    (minted : attemptId ∈ before.attempts)
    (ended : ∀ row, before.revisions.lookup revisionId = some row →
      row.attemptId ≠ some attemptId) :
    ∀ row, after.revisions.lookup revisionId = some row → row.attemptId ≠ some attemptId := by
  intro row found current
  have named : row.id = revisionId := key_of_lookup found
  rcases effect.revisions.exists_before (mem_of_lookup found) with
    same | ⟨new, -⟩ | ⟨old, old_mem, old_named, step⟩
  · exact ended row (named ▸ lookup_of_mem same) current
  · rw [new.attemptId] at current
    cases current
  · have old_found : before.revisions.lookup revisionId = some old := by
      rw [← named, ← old_named]
      exact lookup_of_mem old_mem
    rcases step.attempt with ⟨kept | cleared, -⟩ | ⟨fresh, begun, unused, -⟩
    · exact ended old old_found (kept ▸ current)
    · rw [cleared] at current
      cases current
    · cases begun.symm.trans current
      exact unused minted

/-- A commit changes only revisions to be built, and a callback only that of its attempt. -/
theorem fenced_of_steps (steps : Relation.ReflTransGen (Step timely label held) before after)
    (found : before.revisions.lookup revisionId = some row)
    (changed : after.revisions.lookup revisionId ≠ some row) : row.Open ∧ label.Fences row := by
  induction steps using Relation.ReflTransGen.head_induction_on with
  | refl => exact absurd found changed
  | head step _ induction =>
    obtain ⟨next, next_found, rfl | rewritten⟩ := step.2.revisions.lookup_eq_some found
    · exact induction next_found
    · exact ⟨rewritten.opened, rewritten.fenced⟩

theorem run_recordProfile (body : ReadyBody) {missing : Bool} {next : WorkspaceScript}
    (found : store.revisions.lookup row.id = some row) (ready : row.state = .imageReady)
    (changes : missing = true → f row ≠ row) (rest : (next.run store).2 = store) :
    ((recordProfile body missing row.id f next).run store).2 = store := by
  unfold recordProfile
  split_ifs with absent
  · have rejected : store.updateRevision row.id f = none := by
      simp [Store.updateRevision, found, ready, changes absent]
    simp [Script.run, rejected]
  · exact rest

private theorem run_repeatReady (found : store.revisions.lookup row.id = some row)
    (ready : row.state = .imageReady) : ((repeatReady body row).run store).2 = store := by
  unfold repeatReady
  split
  · rfl
  · refine run_recordProfile body found ready ?_ (run_recordProfile body found ready ?_ rfl)
    · intro missing same
      simp only [Bool.and_eq_true, beq_iff_eq] at missing
      have recorded := congrArg ImageRevision.developerProfile same
      rw [missing.1] at recorded
      cases recorded
    · intro missing same
      simp only [Bool.and_eq_true, beq_iff_eq] at missing
      have recorded := congrArg ImageRevision.sshProfile same
      rw [missing.1] at recorded
      cases recorded

theorem run_fence {allowReady : Bool} {next : ImageRevision → WorkspaceScript}
    (stale : ¬ store.Live attempt)
    (ready : ∀ row, store.revisions.lookup attempt.revisionId = some row →
      row.state = .imageReady → allowReady = true → ((next row).run store).2 = store) :
    ((fence attempt allowReady next).run store).2 = store := by
  unfold fence
  rw [Script.run_awaitIf]
  split
  · rfl
  · rename_i row passed
    split at passed
    · rename_i owned
      rw [passed, Option.any_some] at owned
      split
      · rename_i building
        split
        · rfl
        · rename_i deadline lease
          split
          · rfl
          · rename_i live
            exact absurd ⟨row, deadline, passed, owned, building, lease, not_le.mp live⟩ stale
      · split
        · rename_i published
          exact ready row passed published.1 published.2
        · rfl
    · cases passed

/-- The active builds that a heartbeat renews. -/
def Store.renewals (store : Store) (builderId : String) (active : List (UUID × UUID)) :
    List (UUID × UUID) :=
  active.filter fun item => (store.revisions.lookup item.1).any
    (renewable store.clock ⟨item.1, builderId, item.2⟩)

theorem Store.mem_renewals {active : List (UUID × UUID)} {item : UUID × UUID}
    (member : item ∈ store.renewals builderId active) :
    item ∈ active ∧ store.Live ⟨item.1, builderId, item.2⟩ := by
  obtain ⟨listed, live⟩ := List.mem_filter.mp member
  obtain ⟨row, found, renewed⟩ := (Option.any_eq_true _ _).mp live
  simp only [renewable, Bool.and_eq_true, beq_iff_eq] at renewed
  obtain ⟨deadline, lease, later⟩ := (Option.any_eq_true _ _).mp renewed.2
  exact ⟨listed, row, deadline, found, renewed.1.2, renewed.1.1, lease, of_decide_eq_true later⟩

private theorem run_heartbeatLoop (store : Store) (builderId : String)
    (active renewed cancelled rest : List (UUID × UUID)) :
    ((heartbeatLoop store.clock builderId active renewed cancelled rest).run store).2 =
      ((renewed ++ store.renewals builderId rest).foldlM
        (fun (after : Store) item =>
          after.updateRevision item.1 (renewedRow store.clock)) store).getD
          store := by
  induction rest generalizing renewed cancelled with
  | nil =>
    simp only [heartbeatLoop, Script.run, Store.renewals, List.filter_nil, List.append_nil]
    cases renewed.foldlM (fun (after : Store) item =>
      after.updateRevision item.1 (renewedRow store.clock)) store <;> rfl
  | cons item rest induction =>
    obtain ⟨revisionId, attemptId⟩ := item
    unfold heartbeatLoop
    rw [Script.run_awaitIf]
    cases live : (store.revisions.lookup revisionId).any
        (renewable store.clock ⟨revisionId, builderId, attemptId⟩) with
    | true =>
      rw [if_pos rfl, induction]
      simp only [Store.renewals, List.filter_cons, live, List.append_assoc, if_true]
      rfl
    | false =>
      simp only [Bool.false_eq_true, if_false]
      rw [induction]
      simp only [Store.renewals, List.filter_cons, live, Bool.false_eq_true, if_false]

theorem run_heartbeat (builderId : String) (active : List (UUID × UUID)) :
    ((heartbeat builderId active).run store).2 =
      ((store.renewals builderId active).foldlM
        (fun (after : Store) item =>
          after.updateRevision item.1 (renewedRow store.clock)) store).getD
          store :=
  run_heartbeatLoop store builderId active [] [] active

theorem Store.lookup_updateRevision_ne {other : UUID} (ne : other ≠ revisionId)
    (written : store.updateRevision revisionId f = some after) :
    after.revisions.lookup other = store.revisions.lookup other := by
  unfold updateRevision at written
  split at written
  · cases written
    rfl
  · rename_i row found
    split at written
    · cases written
    · cases written
      refine lookup_replace_ne ?_
      have named : row.id = revisionId := key_of_lookup found
      exact named ▸ ne

private theorem lookup_run_heartbeat {active : List (UUID × UUID)}
    (stale : ∀ item ∈ active, item.1 = revisionId → ¬ store.Live ⟨item.1, builderId, item.2⟩) :
    ((heartbeat builderId active).run store).2.revisions.lookup revisionId =
      store.revisions.lookup revisionId := by
  have loop (items : List (UUID × UUID)) (others : ∀ item ∈ items, revisionId ≠ item.1)
      (first last : Store)
      (written : items.foldlM
        (fun (after : Store) item => after.updateRevision item.1 (renewedRow store.clock)) first =
          some last) :
      last.revisions.lookup revisionId = first.revisions.lookup revisionId := by
    induction items generalizing first with
    | nil =>
      cases written
      rfl
    | cons item rest induction =>
      obtain ⟨middle, head, tail⟩ := Option.bind_eq_some_iff.mp written
      rw [induction (fun other member => others other (List.mem_cons_of_mem _ member)) middle tail]
      exact Store.lookup_updateRevision_ne (others item List.mem_cons_self) head
  rw [run_heartbeat]
  cases written : (store.renewals builderId active).foldlM
      (fun (after : Store) item => after.updateRevision item.1 (renewedRow store.clock)) store with
  | none => rfl
  | some last =>
    refine loop _ (fun item member same => ?_) store last written
    obtain ⟨listed, live⟩ := Store.mem_renewals member
    exact stale item listed same.symm live

private theorem run_of_stale (digest : EditorDigest) (n : ℕ) {request : Request}
    {attempts : List BuildAttempt} (about : request.callback = some attempts)
    (stale : ∀ attempt ∈ attempts, ¬ store.Live attempt) :
    ((request.script digest n).run store).2 = store := by
  cases request with
  | ready body jobId =>
    cases about
    refine run_fence (stale _ List.mem_cons_self) fun row found ready _ => ?_
    split
    · rfl
    · exact run_repeatReady (key_of_lookup found ▸ found) ready
  | failure attempt failureType =>
    cases about
    exact run_fence (stale _ List.mem_cons_self) fun _ _ _ allowed => by cases allowed
  | heartbeat builderId active =>
    cases about
    have none_renewed : store.renewals builderId active = [] := by
      rw [List.eq_nil_iff_forall_not_mem]
      intro item member
      obtain ⟨listed, live⟩ := Store.mem_renewals member
      exact stale _ (List.mem_map_of_mem listed) live
    change ((heartbeat builderId active).run store).2 = store
    rw [run_heartbeat, none_renewed]
    rfl
  | _ => cases about

/-- In every interleaving a revision is built under one attempt at a time, at most three begin, and
one that is over does not come back.  A callback changes only the revision of its current attempt
under its lease, and a revision that is ready stays what it is. -/
theorem build_attempts_fenced (digest : EditorDigest) (db : Db) (clock : Time)
    (unused : workspaceJobs db = []) {pool later : WorkspacePool}
    (run : Interleaving (script digest) (fun _ _ => True) { store := .initial db clock } pool)
    (onward : Interleaving (script digest) (fun _ _ => True) pool later) :
    (∀ revisionId builderId attemptId otherBuilder otherAttempt,
      pool.store.Current revisionId builderId attemptId →
        pool.store.Current revisionId otherBuilder otherAttempt →
          otherBuilder = builderId ∧ otherAttempt = attemptId) ∧
    (∀ revisionId attemptId, attemptId ∈ pool.store.attempts →
      (∀ row, pool.store.revisions.lookup revisionId = some row → row.attemptId ≠ some attemptId) →
        ∀ row, later.store.revisions.lookup revisionId = some row →
          row.attemptId ≠ some attemptId) ∧
    (∀ row ∈ pool.store.revisions.rows, row.attemptCount ≤ maxAttempts ∧
      (row.state = .queued → row.attemptCount < maxAttempts) ∧
        ∀ attemptId, row.attemptId = some attemptId → attemptId ∈ pool.store.attempts) ∧
    (∀ choice after revisionId row, pool.perform (script digest) choice = some after →
      pool.store.revisions.lookup revisionId = some row →
        after.store.revisions.lookup revisionId ≠ some row →
          ∃ n label write next, choice = .step n ∧
            pool.sessions n = some (.commit label write next) ∧ label.Fences row) ∧
    (∀ (n : ℕ) (request : Request) attempts, request.callback = some attempts →
      (∀ attempt ∈ attempts, ¬ pool.store.Live attempt) →
        ((request.script digest n).run pool.store).2 = pool.store) ∧
    (∀ builderId active revisionId,
      (∀ item ∈ active, item.1 = revisionId → ¬ pool.store.Live ⟨item.1, builderId, item.2⟩) →
        ((heartbeat builderId active).run pool.store).2.revisions.lookup revisionId =
          pool.store.revisions.lookup revisionId) ∧
    ∀ row ∈ pool.store.revisions.rows, row.state = .imageReady →
      row ∈ later.store.revisions.rows := by
  have embed (label : Label) (store : Store) (_ : True) : False → label.Timely store := False.elim
  have verified : pool.Verified (workspaceContract False) := verified_of_run unused embed run
  refine ⟨fun _ _ _ _ _ current other => current.unique other, ?_, ?_, ?_,
    fun n _ _ about stale => run_of_stale digest n about stale,
    fun _ _ _ stale => lookup_run_heartbeat stale, ?_⟩
  · intro revisionId attemptId minted ended
    refine (stays embed verified onward (fun store => attemptId ∈ store.attempts ∧
      ∀ row, store.revisions.lookup revisionId = some row → row.attemptId ≠ some attemptId) ?_
        ⟨minted, ended⟩).2
    intro label held before after _ _ steps holds
    induction steps with
    | refl => exact holds
    | tail _ step induction =>
      exact ⟨step.2.attempts induction.1, step.2.ended induction.1 induction.2⟩
  · intro row member
    have valid := verified.invariant.valid row member
    exact ⟨valid.bounded, valid.queued, verified.invariant.minted row member⟩
  · intro choice after revisionId row done found changed
    rcases verified.change (Pool.meets_of_forall (fun _ _ => False.elim) pool choice) done with
      same | ⟨n, label, stepped, -, ⟨write, next, committing⟩, steps⟩
    · exact absurd (same ▸ found) changed
    · exact ⟨n, label, write, next, stepped, committing, (fenced_of_steps steps found changed).2⟩
  · intro row member ready
    refine stays embed verified onward (fun store => row ∈ store.revisions.rows) ?_ member
    intro label held before after _ _ steps holds
    induction steps with
    | refl => exact holds
    | tail _ step induction => exact step.2.ready_revision induction ready

namespace Deployment

/-- Every body has the same hash; no key is used for two of them here. -/
def digest : EditorDigest := ⟨fun _ _ => "save", fun _ => "submission"⟩

def opening : WorkspacePool where
  store := .initial TrainingScheduler.Deployment.db 0

def serve (n steps : ℕ) (request : Request) : List (Choice Request) :=
  .start request :: List.replicate steps (.step n)

def creation : Creation where
  owner := 1
  key := "workspace"
  requestHash := "creation"
  workspaceId := 60
  revisionId := 61

def published (revisionId : UUID) (builderId : String) (attemptId : UUID) : ReadyBody where
  revisionId := revisionId
  builderId := builderId
  attemptId := attemptId
  imageTag := "registry/interactive-60:revision-" ++ toString revisionId ++ "-attempt-" ++
    toString attemptId
  imageDigestRef := "registry/interactive-60@sha256:" ++ toString revisionId
  resolvedBaseDigest := "base"

/-- The first builder falls silent, and the second one takes its revision. -/
def silence : List (Choice Request) :=
  serve 0 4 (.create creation (.upload (.ok ()))) ++
    serve 1 8 (.claim "first" 101 102 103 104) ++
    serve 2 2 (.external TrainingScheduler.Deployment.db 100) ++
    serve 3 9 (.claim "second" 105 106 107 108)

/-- What the callbacks of a revision are checked against. -/
structure Build where
  state : RevisionState
  builderId : Option String
  attemptId : Option UUID
  attemptCount : ℕ
  deriving DecidableEq

def buildOf (store : Store) (revisionId : UUID) : Option Build :=
  (store.revisions.lookup revisionId).map fun row =>
    ⟨row.state, row.builderId, row.attemptId, row.attemptCount⟩

/-- The first builder reports its image too late, the second one in time. -/
theorem silent_builder_replaced :
    ∃ pool later, Interleaving (script digest) (fun _ _ => True) opening pool ∧
      Interleaving (script digest) (fun _ _ => True) pool later ∧
      pool.store.attempts = [101, 105] ∧
      buildOf pool.store 61 = some ⟨.building, some "second", some 105, 2⟩ ∧
      ((markReady (published 61 "first" 101) 200).run pool.store).2 = pool.store ∧
      buildOf later.store 61 = some ⟨.imageReady, some "second", some 105, 2⟩ ∧
      ∀ row, later.store.revisions.lookup 61 = some row → row.attemptId ≠ some 101 := by
  have outcome : ((opening.performAll (script digest) (fun _ _ => true) silence).bind
      fun pool => (pool.performAll (script digest) (fun _ _ => true)
        (serve 4 5 (.ready (published 61 "second" 105) 200))).map fun later =>
          (pool.store.attempts, buildOf pool.store 61, buildOf later.store 61)) =
      some ([101, 105], some ⟨.building, some "second", some 105, 2⟩,
        some ⟨.imageReady, some "second", some 105, 2⟩) := by
    decide +kernel
  obtain ⟨pool, later, run, onward, values⟩ :=
    interleavings_of_performAll (fun _ _ _ => trivial) (fun _ _ _ => trivial) outcome
  simp only [Prod.mk.injEq] at values
  obtain ⟨attempts, building, ready⟩ := values
  obtain ⟨row, found, fields⟩ := Option.map_eq_some_iff.mp building
  simp only [Build.mk.injEq] at fields
  have fenced := build_attempts_fenced digest _ 0 (by decide +kernel) run onward
  refine ⟨pool, later, run, onward, attempts, building, ?_, ready, ?_⟩
  · refine fenced.2.2.2.2.1 0 (.ready (published 61 "first" 101) 200) _ rfl ?_
    intro attempt member live
    rw [List.mem_singleton.mp member] at live
    obtain ⟨other, deadline, other_found, owned, -⟩ := live
    cases found.symm.trans other_found
    simp [BuildAttempt.owns, fields, published] at owned
  · refine fenced.2.1 61 101 (by simp [attempts]) fun other other_found current => ?_
    cases found.symm.trans other_found
    simp [fields] at current

end Deployment

end TrainingScheduler.Workspaces
