import TrainingScheduler.Workspaces.Publication

/-!
# Safety of saves and captures

The sessions of the owner that save a workspace and submit it for training, the callbacks of the
Worker that captures it, and the watchdog of captures keep the invariants of the workspaces.  With
the sessions of the revisions this is every session there is.
-/

namespace TrainingScheduler.Workspaces

open FailedSave

variable {timely : Prop} {label : Label} {held : Set LockedRow} {store after : Store} {n : ℕ}
  {runtimeId : UUID} {purpose : SavePurpose} {body : SaveBody} {existing operation : SaveOperation}
  {stale : List FailedSave} {operations : List SaveOperation} {pool : WorkspacePool}

theorem safe_ownedRuntime {owner : UUID} {next : Runtime → WorkspaceScript}
    (sound : store.Sound timely) (safe : ∀ held now runtime, now.Sound timely →
      (next runtime).Safe (workspaceContract timely) n held now) :
    (ownedRuntime owner runtimeId next).Safe (workspaceContract timely) n held store := by
  refine Script.safe_awaitIf (fun first first_interfered _ => ?_) fun _ _ _ => trivial
  have first_sound := first_interfered.invariant sound
  split
  · trivial
  · intro second interfered
    dsimp only
    split_ifs
    · trivial
    · exact safe _ second _ (interfered.invariant first_sound)

variable {digest : EditorDigest} {submission : TrainingSubmission}
  {next : SaveOperation → WorkspaceScript}

theorem safe_replaySave (safe : existing.purpose = purpose →
      (next existing).Safe (workspaceContract timely) n held store) :
    (replaySave digest purpose body existing next).Safe (workspaceContract timely) n held
      store := by
  unfold replaySave
  split_ifs with other
  · trivial
  · exact safe (not_not.mp (not_or.mp other).2)

theorem safe_createSave {settings : EditorSettings} {saveId owner : UUID} {requestKey : String}
    {replayed inserted : SaveOperation → WorkspaceScript} (sound : store.Sound timely)
    (replays : ∀ held now existing, now.Sound timely → existing ∈ now.saves.rows →
      existing.purpose = purpose → (replayed existing).Safe (workspaceContract timely) n held now)
    (inserts : ∀ held now operation, now.Sound timely → operation.state = .requested →
      operation.targetRevisionId = none → operation.purpose = purpose →
      (inserted operation).Safe (workspaceContract timely) n held now) :
    (createSave settings digest saveId owner runtimeId requestKey purpose body replayed
      inserted).Safe (workspaceContract timely) n held store := by
  unfold createSave
  split
  · trivial
  · intro first first_interfered
    have first_sound := first_interfered.invariant sound
    dsimp only
    split
    · rename_i existing found
      exact safe_replaySave fun same =>
        replays _ first existing first_sound (List.mem_of_find?_eq_some found) same
    · refine safe_ownedRuntime first_sound fun held second runtime second_sound => ?_
      split
      · trivial
      · intro third third_interfered
        have third_sound := third_interfered.invariant second_sound
        dsimp only
        split
        · rename_i existing found
          exact safe_replaySave fun same =>
            replays _ third existing third_sound (List.mem_of_find?_eq_some found) same
        · intro fourth fourth_interfered
          dsimp only
          split
          · trivial
          · intro fifth fifth_interfered
            have fifth_sound := fifth_interfered.invariant
              (fourth_interfered.invariant third_sound)
            dsimp only
            split
            · trivial
            · split
              · trivial
              · exact inserts _ fifth _ fifth_sound rfl rfl rfl

theorem Store.insertSave_eq_some (written : store.insertSave operation = some after) :
    ∃ saves, store.saves.insert operation = some saves ∧ after = { store with saves } := by
  unfold insertSave at written
  split_ifs at written
  obtain ⟨saves, inserted, rfl⟩ := Option.map_eq_some_iff.mp written
  exact ⟨saves, inserted, rfl⟩

theorem safe_createSaveRequest (settings : EditorSettings) (digest : EditorDigest)
    (saveId owner runtimeId : UUID) (requestKey : String) (body : SaveBody)
    (sound : store.Sound timely) :
    (createSaveRequest settings digest saveId owner runtimeId requestKey body).Safe
      (workspaceContract timely) n ∅ store := by
  refine safe_createSave sound (fun _ _ _ _ _ _ => trivial) ?_
  intro held seen operation seen_sound requested target purpose now interfered
  refine ⟨fun _ => trivial, fun after _ written => ?_⟩
  obtain ⟨saves, inserted, rfl⟩ := Store.insertSave_eq_some written
  refine Step.commits ?_ trivial
  refine (interfered.invariant seen_sound).request inserted requested target .same fun train => ?_
  rw [purpose] at train
  cases train

theorem Store.insertSubmission_eq_some (written : store.insertSubmission submission = some after) :
    (∀ row ∈ store.submissions.rows, row.saveOperationId ≠ submission.saveOperationId) ∧
      ∃ submissions, store.submissions.insert submission = some submissions ∧
        after = { store with submissions } := by
  unfold insertSubmission at written
  split_ifs at written with taken
  obtain ⟨submissions, inserted, rfl⟩ := Option.map_eq_some_iff.mp written
  refine ⟨fun row member same => taken ?_, submissions, inserted, rfl⟩
  rw [List.any_eq_true]
  exact ⟨row, member, by simp [same]⟩

section

variable (sound : store.Sound timely)

include sound

/-- A second submission of an operation violates a constraint. -/
theorem safe_commitSubmission_none (member : existing ∈ store.saves.rows)
    (train : existing.purpose = .train) (owned : submission.saveOperationId = existing.id) :
    (commitSubmission submission none).Safe (workspaceContract timely) n held store := by
  intro now interfered
  refine ⟨fun _ => trivial, fun after _ written => ?_⟩
  have now_sound := interfered.invariant sound
  have present : ∃ operation ∈ now.saves.rows, operation.id = existing.id ∧
      operation.purpose = .train := by
    refine stable (fun store => ∃ operation ∈ store.saves.rows, operation.id = existing.id ∧
      operation.purpose = .train) ?_ interfered sound ⟨existing, member, rfl, train⟩
    rintro before after label other - - - effect ⟨operation, operation_mem, named, purpose⟩
    obtain ⟨next, next_mem, same, kept, -⟩ := effect.kept_save operation_mem
    exact ⟨next, next_mem, same.trans named, kept.trans purpose⟩
  obtain ⟨operation, operation_mem, named, purpose⟩ := present
  obtain ⟨earlier, earlier_mem, earlier_owned⟩ := now_sound.train operation operation_mem purpose
  obtain ⟨free, -⟩ := Store.insertSubmission_eq_some written
  exact absurd (earlier_owned.trans (named.trans owned.symm)) (free earlier earlier_mem)

theorem safe_commitSubmission_some (requested : operation.state = .requested)
    (target : operation.targetRevisionId = none) (owned : submission.saveOperationId = operation.id)
    (saving : submission.state = .saving) (jobless : submission.jobId = none) :
    (commitSubmission submission (some operation)).Safe (workspaceContract timely) n held
      store := by
  intro now interfered
  refine ⟨fun _ => trivial, fun after _ written => ?_⟩
  obtain ⟨middle, save_written, submission_written⟩ := Option.bind_eq_some_iff.mp written
  obtain ⟨saves, save_inserted, rfl⟩ := Store.insertSave_eq_some save_written
  obtain ⟨-, submissions, inserted, rfl⟩ := Store.insertSubmission_eq_some submission_written
  refine Step.commits ?_ trivial
  refine (interfered.invariant sound).request save_inserted requested target
    (.inserted inserted ⟨owned, saving, jobless⟩) fun _ => ?_
  exact ⟨submission, (Table.mem_insert inserted).mpr (.inr rfl), owned⟩

theorem safe_createSubmission (settings : EditorSettings) (digest : EditorDigest)
    (submissionId saveId owner runtimeId : UUID) (requestKey : String) (body : SaveBody)
    (training : TrainingSettings) :
    (createSubmission settings digest submissionId saveId owner runtimeId requestKey body
      training).Safe (workspaceContract timely) n ∅ store := by
  unfold createSubmission
  dsimp only
  split
  · trivial
  · split
    · trivial
    · intro first first_interfered
      have first_sound := first_interfered.invariant sound
      dsimp only
      split
      · unfold replaySubmission
        split_ifs <;> trivial
      · refine safe_ownedRuntime first_sound fun held second runtime second_sound => ?_
        split
        · trivial
        · intro third third_interfered
          have third_sound := third_interfered.invariant second_sound
          dsimp only
          split
          · unfold replaySubmission
            split_ifs <;> trivial
          · refine safe_createSave third_sound ?_ ?_
            · intro held now existing now_sound member train
              exact safe_commitSubmission_none now_sound member train rfl
            · intro held now operation now_sound requested target _
              exact safe_commitSubmission_some now_sound requested target rfl rfl rfl

theorem safe_fencedSave {body : SnapshotFence}
    (safe : ∀ now operation, now.Sound timely → now.saves.lookup operation.id = some operation →
      (next operation).Safe (workspaceContract timely) n {.save operation.id} now) :
    (fencedSave body next).Safe (workspaceContract timely) n ∅ store := by
  refine Script.safe_awaitIf (fun first first_interfered _ => ?_) fun first _ missing => ?_
  · have first_sound := first_interfered.invariant sound
    rw [LawfulSingleton.insert_empty_eq]
    split
    · trivial
    · rename_i operation found
      have named : operation.id = body.operationId := Table.key_of_lookup found
      rw [← named] at found ⊢
      intro second interfered
      dsimp only
      split_ifs
      · exact safe second operation (interfered.invariant first_sound)
          (save_stable interfered first_sound (Set.mem_singleton _) found)
      · trivial
  · rw [Option.isSome_eq_false_iff, Option.isNone_iff_eq_none] at missing
    rw [missing]
    trivial

theorem safe_issueCapability (body : SnapshotFence) (captureAttemptId : UUID) :
    (issueCapability body captureAttemptId).Safe (workspaceContract timely) n ∅ store := by
  refine safe_fencedSave sound fun seen operation seen_sound found => ?_
  split
  · trivial
  · rename_i capturable
    intro now interfered
    refine ⟨by rintro ⟨⟩, ?_⟩
    rintro after - ⟨⟩
    have now_found := save_stable interfered seen_sound (Set.mem_singleton _) found
    have capture : operation.state.capture = true := by
      rcases not_and_or.mp capturable with requested | capturing
      · rw [not_not.mp requested]
        rfl
      · rw [not_not.mp capturing]
        rfl
    refine Step.commits ?_ trivial
    simp only [Store.updateSave, now_found]
    have rewritten_found : now.saves.lookup ({ operation with
        state := .capturing
        captureAttemptId := operation.captureAttemptId <|> some captureAttemptId } :
          SaveOperation).id = some operation := now_found
    exact (interfered.invariant seen_sound).captured rewritten_found (Set.mem_singleton _) capture
      rfl rfl rfl

theorem safe_fail (body : SnapshotFence) (code : String) :
    (fail body code).Safe (workspaceContract timely) n ∅ store := by
  refine safe_fencedSave sound fun first operation first_sound found => ?_
  split
  · trivial
  · rename_i capture
    have capture : operation.state.capture = true := by simpa using capture
    intro second second_interfered
    have second_sound := second_interfered.invariant first_sound
    have second_found := save_stable second_interfered first_sound (Set.mem_singleton _) found
    refine Script.safe_awaitAll
      (fun now => now.Sound timely ∧ now.saves.lookup operation.id = some operation ∧
        now.Fails (second.failureOf operation.id)) ?_ ?_
      ⟨second_sound, second_found, Store.fails_failureOf (Table.mem_of_lookup second_found)⟩
    · rintro locked before later wider interfered ⟨before_sound, before_found, fails⟩
      exact ⟨interfered.invariant before_sound, save_stable interfered before_sound
        (wider (Set.mem_singleton _)) before_found, fails_stable interfered before_sound fails⟩
    · rintro locked third wider taken ⟨third_sound, third_found, fails⟩ now interfered
      refine ⟨by rintro ⟨⟩, ?_⟩
      rintro after - ⟨⟩
      have now_sound := interfered.invariant third_sound
      have now_found := save_stable interfered third_sound (wider (Set.mem_singleton _)) third_found
      have same : now.failureOf operation.id = second.failureOf operation.id :=
        (fails_stable interfered third_sound fails).2
      refine Step.commits ?_ trivial
      rw [← same] at taken ⊢
      exact now_sound.fail now_found taken fun _ => capture

theorem safe_complete (body : SnapshotFence) (sha256 : String) (size : ℕ) (revisionId : UUID) :
    (complete body sha256 size revisionId).Safe (workspaceContract timely) n ∅ store := by
  unfold complete
  split
  · trivial
  · split
    · trivial
    · refine safe_fencedSave sound fun first operation first_sound found => ?_
      split
      · trivial
      · rename_i uploadable
        have capture : operation.state.capture = true := by
          rcases not_and_or.mp uploadable with capturing | uploading
          · rw [not_not.mp capturing]
            rfl
          · rw [not_not.mp uploading]
            rfl
        split
        · trivial
        · intro second second_interfered
          have second_sound := second_interfered.invariant first_sound
          have second_found := save_stable second_interfered first_sound (Set.mem_singleton _) found
          intro now interfered
          refine ⟨fun _ => trivial, fun after _ written => ?_⟩
          have now_found := save_stable interfered second_sound (Set.mem_singleton _) second_found
          dsimp only [Store.enqueue] at written
          split_ifs at written
          obtain ⟨revisions, inserted, rfl⟩ := Option.map_eq_some_iff.mp written
          refine Step.commits ?_ trivial
          simp only [Store.updateSave, now_found]
          have queued_found : now.saves.lookup ({ operation with
              artifactSha256 := some sha256
              artifactSize := some size
              state := .publishQueued
              targetRevisionId := some revisionId } : SaveOperation).id = some operation :=
            now_found
          exact (interfered.invariant second_sound).enqueue queued_found inserted rfl
            (Set.mem_singleton _) capture rfl rfl rfl rfl rfl rfl rfl rfl

/-- Failures of different operations, one after the other. -/
theorem steps_of_stale (fails : ∀ failed ∈ stale, store.Fails failed)
    (distinct : (stale.map operationId).Nodup)
    (locked : ∀ row ∈ stale.flatMap rows, row ∈ held)
    (capture : timely → ∀ operation ∈ store.saves.rows,
      operation.id ∈ stale.map operationId → operation.state.capture = true) :
    (store.failAll stale).Sound timely ∧
      Relation.ReflTransGen (Step timely label held) store (store.failAll stale) := by
  induction stale generalizing store with
  | nil => exact ⟨sound, .refl⟩
  | cons failed rest induction =>
    obtain ⟨⟨operation, member, named⟩, same⟩ := fails failed List.mem_cons_self
    rw [List.map_cons, List.nodup_cons] at distinct
    have found := Table.lookup_of_mem member
    have step : Step timely label {row | row ∈ failed.rows} store
        (failed.apply "RUNTIME_UNAVAILABLE"
          "Interactive session ended before the workspace was saved." store) := by
      rw [← same, ← named]
      refine sound.fail found (fun _ row_mem => row_mem) fun now => ?_
      exact capture now operation member (by simp [named])
    have subset : {row | row ∈ failed.rows} ⊆ held := fun row row_mem =>
      locked row (List.mem_flatMap.mpr ⟨failed, List.mem_cons_self, row_mem⟩)
    obtain ⟨last_sound, steps⟩ := induction step.1
      (fun other other_mem =>
        step.2.fails sound step.1 (fails other (List.mem_cons_of_mem _ other_mem)))
      distinct.2
      (fun row row_mem => by
        obtain ⟨other, other_mem, listed⟩ := List.mem_flatMap.mp row_mem
        exact locked row (List.mem_flatMap.mpr ⟨other, List.mem_cons_of_mem _ other_mem, listed⟩))
      (fun now later later_mem listed => by
        obtain ⟨other, other_mem, other_named⟩ := List.mem_map.mp listed
        obtain ⟨⟨old, old_mem, old_named⟩, -⟩ := fails other (List.mem_cons_of_mem _ other_mem)
        have old_id : old.id = later.id := old_named.trans other_named
        have kept := step.2.save (Table.lookup_of_mem old_mem) (by
          intro theirs
          have head : old.id = failed.operationId := by
            simpa [rows] using theirs
          exact distinct.1 (head ▸ old_id ▸ listed))
        rw [Table.eq_of_lookup kept later_mem old_id.symm] at listed ⊢
        exact capture now old old_mem (List.mem_cons_of_mem _ listed))
    exact ⟨last_sound, .head (step.mono subset) steps⟩

theorem present_stable {now : Store}
    (interfered : (workspaceContract timely).Interfered n held store now)
    (present : ∀ operation ∈ operations, ∃ row ∈ store.saves.rows, row.id = operation.id) :
    ∀ operation ∈ operations, ∃ row ∈ now.saves.rows, row.id = operation.id := by
  intro operation member
  refine stable (fun store => ∃ row ∈ store.saves.rows, row.id = operation.id) ?_ interfered sound
    (present operation member)
  rintro before after label other - - - effect ⟨row, row_mem, named⟩
  obtain ⟨next, next_mem, same, -⟩ := effect.kept_save row_mem
  exact ⟨next, next_mem, same.trans named⟩

/-- The watchdog collects failures of operations that it has read, each of them once. -/
theorem safe_reconcileLoop {start : Time} (fails : ∀ failed ∈ stale, store.Fails failed)
    (present : ∀ operation ∈ operations, ∃ row ∈ store.saves.rows, row.id = operation.id)
    (distinct : (stale.map operationId ++ operations.map SaveOperation.id).Nodup) :
    (reconcileLoop start stale operations).Safe (workspaceContract timely) n ∅ store := by
  induction operations generalizing stale store with
  | nil =>
    unfold reconcileLoop
    split
    · trivial
    · refine Script.safe_awaitAll
        (fun now => now.Sound timely ∧ ∀ failed ∈ stale, now.Fails failed) ?_ ?_ ⟨sound, fails⟩
      · rintro locked before later - interfered ⟨before_sound, before_fails⟩
        exact ⟨interfered.invariant before_sound, fun failed member =>
          fails_stable interfered before_sound (before_fails failed member)⟩
      · rintro locked seen - taken ⟨seen_sound, seen_fails⟩ now interfered
        refine ⟨by rintro ⟨⟩, ?_⟩
        rintro after allowed ⟨⟩
        have now_fails := fun failed member =>
          fails_stable interfered seen_sound (seen_fails failed member)
        rw [List.map_nil, List.append_nil] at distinct
        obtain ⟨after_sound, steps⟩ := steps_of_stale (interfered.invariant seen_sound) now_fails
          distinct taken allowed
        exact ⟨after_sound, steps, trivial⟩
  | cons operation rest induction =>
    obtain ⟨_, _⟩ := List.forall_mem_cons.mp present
    have others : (stale.map operationId ++ rest.map SaveOperation.id).Nodup :=
      distinct.sublist (List.Sublist.append_left (List.sublist_cons_self _ _) _)
    intro first first_interfered second second_interfered
    have second_sound := second_interfered.invariant (first_interfered.invariant sound)
    have second_fails : ∀ failed ∈ stale, second.Fails failed := fun failed member =>
      fails_stable second_interfered (first_interfered.invariant sound)
        (fails_stable first_interfered sound (fails failed member))
    have second_present := present_stable (first_interfered.invariant sound) second_interfered
      (present_stable sound first_interfered present)
    dsimp only
    split
    · exact induction second_sound second_fails
        (fun other member => second_present other (List.mem_cons_of_mem _ member)) others
    · intro third third_interfered
      have third_present := present_stable second_sound third_interfered second_present
      refine induction (third_interfered.invariant second_sound) (fun failed member => ?_)
        (fun other other_mem => third_present other (List.mem_cons_of_mem _ other_mem)) ?_
      · rcases List.mem_append.mp member with earlier | new
        · exact fails_stable third_interfered second_sound (second_fails failed earlier)
        · obtain ⟨row, row_mem, named⟩ := third_present operation List.mem_cons_self
          rw [List.mem_singleton.mp new, ← named]
          exact Store.fails_failureOf row_mem
      · rw [List.map_append, List.append_assoc]
        exact distinct

theorem safe_reconcileStale : reconcileStale.Safe (workspaceContract timely) n ∅ store := by
  intro first first_interfered second second_interfered
  have second_sound := second_interfered.invariant (first_interfered.invariant sound)
  refine safe_reconcileLoop second_sound (by simp) (fun operation member => ?_) ?_
  · exact ⟨operation, (List.mem_filter.mp member).1, rfl⟩
  · exact second.saves.nodup.sublist (List.filter_sublist.map _)

theorem safe_external (db : Db) (clock : Time) :
    (external db clock).Safe (workspaceContract timely) n ∅ store := by
  intro now interfered
  refine ⟨fun _ => trivial, fun after _ written => ?_⟩
  dsimp only at written
  split_ifs at written with passed
  cases written
  exact Step.commits ((interfered.invariant sound).external db clock passed.2) trivial

theorem Request.safe (digest : EditorDigest) (request : Request) :
    (request.script digest n).Safe (workspaceContract timely) n ∅ store := by
  cases request with
  | create body source => exact safe_create body source sound
  | cancel owner workspaceId => exact safe_cancel owner workspaceId sound
  | expire => exact safe_expire sound fun _ _ _ => trivial
  | claim builderId first second third fourth =>
    exact safe_expire sound fun _ _ now_sound _ interfered =>
      safe_claimLoop (interfered.invariant now_sound)
  | ready body jobId => exact safe_markReady body jobId sound
  | failure attempt failureType => exact safe_failure attempt failureType sound
  | heartbeat builderId active =>
    intro now interfered
    exact safe_heartbeatLoop (interfered.invariant sound) (List.Subset.refl _) (by simp) (by simp)
  | save settings saveId owner runtimeId requestKey body =>
    exact safe_createSaveRequest settings digest saveId owner runtimeId requestKey body sound
  | submission settings submissionId saveId owner runtimeId requestKey body training =>
    exact safe_createSubmission sound settings digest submissionId saveId owner runtimeId requestKey
      body training
  | capability body captureAttemptId => exact safe_issueCapability sound body captureAttemptId
  | fail body code => exact safe_fail sound body code
  | complete body sha256 size revisionId =>
    exact safe_complete sound body sha256 size revisionId
  | reconcileStale => exact safe_reconcileStale sound
  | external db clock => exact safe_external sound db clock

end

/-- The tables of the workspaces are empty; the rest of the database is any. -/
def Store.initial (db : Db) (clock : Time) : Store where
  db := db
  workspaces := .empty
  revisions := .empty
  saves := .empty
  submissions := .empty
  clock := clock

theorem Store.sound_initial {db : Db} (clock : Time) (unused : workspaceJobs db = []) :
    (initial db clock).Sound timely where
  nodup := List.nodup_nil
  minted _ member := by cases member
  valid _ member := by cases member
  origin _ member := by cases member
  target _ member := by cases member
  source _ member := by cases member
  capture _ member := by cases member
  unique _ member := by cases member
  operation _ member := by cases member
  train _ member := by cases member
  head _ member := by cases member
  jobs job member := by
    change job ∈ workspaceJobs db at member
    rw [unused] at member
    cases member
  agrees _ _ member := by cases member

abbrev WorkspacePool := Pool Store LockedRow Label Reply

variable {allowed : Label → Store → Prop}

theorem verified_of_run {db : Db} {clock : Time} (unused : workspaceJobs db = [])
    (embed : ∀ label store, allowed label store → timely → label.Timely store)
    (run : Interleaving (Request.script digest) allowed { store := .initial db clock } pool) :
    pool.Verified (workspaceContract timely) := by
  have considered : Interleaving (Request.script digest) (workspaceContract timely).allowed
      { store := .initial db clock } pool := run.mono embed
  exact considered.verified (fun _ request _ _ sound => request.safe sound digest)
    (.of_store (Store.sound_initial clock unused))

/-- What each step of a commit keeps, every later commit keeps. -/
theorem stays (embed : ∀ label store, allowed label store → timely → label.Timely store)
    {later : WorkspacePool} (verified : pool.Verified (workspaceContract timely))
    (onward : Interleaving (Request.script digest) allowed pool later) (assertion : Store → Prop)
    (keeps : ∀ {label held before after}, before.Sound timely → allowed label before →
      Relation.ReflTransGen (Step timely label held) before after → assertion before →
        assertion after) (holds : assertion pool.store) : assertion later.store :=
  onward.stays (fun _ request _ _ sound => request.safe sound digest) embed verified assertion
    (fun sound met steps holds => keeps sound met steps holds) holds

end TrainingScheduler.Workspaces
