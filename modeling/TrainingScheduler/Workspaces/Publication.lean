import TrainingScheduler.Workspaces.Safety

/-!
# Safety of publication and capture

The sessions that publish a revision, and those that request, capture and fail save operations.
-/

namespace TrainingScheduler.Workspaces

open Table Store

variable {timely : Prop} {label : Label} {held locked : Set LockedRow} {store after : Store} {n : ℕ}
  {body : ReadyBody} {row : ImageRevision} {advances : Bool} {jobId : UUID}
  {runtime : Option Runtime}

/-- What a publication writes: the ready revision and the head of its workspace. -/
theorem Store.exists_publish (found : store.revisions.lookup row.id = some row)
    (named : row.id = body.revisionId) (written : store.publish body row advances = some after) :
    ∃ workspaces, after = { store with
        revisions := store.revisions.replace (body.publishedRow row), workspaces } ∧
      ∀ final : Store, final.revisions = store.revisions.replace (body.publishedRow row) →
        store.workspaces.Change (HeadStep (.ready body.toBuildAttempt advances) final)
          (fun item => item.savedRevisionId = none) workspaces := by
  obtain ⟨revised, updated, rfl⟩ := Option.map_eq_some_iff.mp written
  have revised_eq := updateRevision_eq_some found updated
  subst revised_eq
  have row_found : store.revisions.lookup (body.publishedRow row).id = some row := found
  unfold updateWorkspace
  cases item_found : store.workspaces.lookup row.workspaceId with
  | none => exact ⟨store.workspaces, rfl, fun _ _ => .same⟩
  | some item =>
    refine ⟨store.workspaces.replace { headRow row.id advances item with id := item.id },
      rfl, fun final revisions => ?_⟩
    have item_id : item.id = row.workspaceId := key_of_lookup item_found
    have moved_found : store.workspaces.lookup
        ({ headRow row.id advances item with id := item.id } : InteractiveWorkspace).id =
        some item := item_id ▸ item_found
    refine .replaced moved_found ?_
    cases advances with
    | false => exact .inl rfl
    | true =>
      refine .inr ⟨body.toBuildAttempt, rfl, congrArg some named, body.publishedRow row, ?_,
        named, item_id.symm, rfl⟩
      rw [revisions]
      exact mem_of_lookup (lookup_replace_self row_found)

theorem revisionStep_publishedRow (sound : store.Sound timely)
    (found : store.revisions.lookup row.id = some row) (mine : .revision row.id ∈ held)
    (building : row.state = .building) (fenced : label.Fences row) :
    RevisionStep label held store after row (body.publishedRow row) where
  locked := mine
  opened := .inr building
  kept := ⟨rfl, rfl, rfl, rfl⟩
  attempt := .inl ⟨.inl rfl, rfl⟩
  valid := ⟨(sound.valid row (mem_of_lookup found)).bounded, by rintro ⟨⟩, by rintro ⟨⟩⟩
  fenced := fenced

/-- A submission without a job gets one of the revision. -/
theorem Store.exists_createJob {submission : TrainingSubmission}
    (written : store.createJob jobId body row submission runtime = some after)
    (found : store.submissions.lookup submission.id = some submission)
    (jobless : submission.jobId = none) :
    ∃ db, workspaceJobs db = workspaceJobs store.db ++ [(jobId, row.id)] ∧
      after = { store with
        db
        submissions := store.submissions.replace
          { submission with jobId := some jobId, state := .jobCreated } } := by
  simp only [createJob, jobless, Option.isSome_none, Bool.false_eq_true, if_false] at written
  obtain ⟨jobs, inserted, rfl⟩ := Option.map_eq_some_iff.mp written
  let stopped := stopSubmitted runtime submission.generation { store.db with jobs }
  have same : stopped.jobs = jobs := by
    unfold stopped stopSubmitted
    split <;> rfl
  refine ⟨stopped, ?_, by simp only [updateSubmission, found, stopped]⟩
  rw [workspaceJobs, same, (insert_eq_some inserted).1, List.filterMap_append, workspaceJobs]
  rfl

variable {operation : SaveOperation}

section

variable (sound : store.Sound timely) (found : store.revisions.lookup row.id = some row)

include sound found

private theorem step_publishSnapshot (building : row.state = .building)
    (fenced : (Label.ready body.toBuildAttempt advances).Fences row)
    (named : row.id = body.revisionId) (mine : .revision row.id ∈ held)
    (operation_found : store.saves.lookup operation.id = some operation)
    (target : operation.targetRevisionId = some row.id) (operation_mine : .save operation.id ∈ held)
    (submission_mine : ∀ submission ∈ store.submissionOf operation.id,
      .submission submission.id ∈ held)
    (written : store.publishSnapshot body row advances operation.id jobId
      (store.submissionOf operation.id) runtime = some after) :
    Step timely (.ready body.toBuildAttempt advances) held store after := by
  obtain ⟨published, published_written, written⟩ := Option.bind_eq_some_iff.mp written
  obtain ⟨workspaces, rfl, heads⟩ := Store.exists_publish found named published_written
  have operation_mem := mem_of_lookup operation_found
  have row_mem := mem_of_lookup found
  have row_found : store.revisions.lookup (body.publishedRow row).id = some row := found
  have target' : operation.targetRevisionId = some (body.publishedRow row).id := target
  have pending (now : timely) {submission : TrainingSubmission}
      (member : submission ∈ store.submissions.rows)
      (owned : submission.saveOperationId = operation.id) : submission.jobId = none := by
    have waiting := sound.publishQueued now row_mem (.inr building) operation_mem target
    have job := ((sound.agrees now operation operation_mem).submitted submission member owned).2
    simpa [waiting] using job
  have step (final : Store) : RevisionStep (.ready body.toBuildAttempt advances) held store final
      row (body.publishedRow row) :=
    revisionStep_publishedRow sound found mine building fenced
  simp only [Store.updateSave, operation_found] at written
  cases submission_eq : store.submissionOf operation.id with
  | none =>
    rw [submission_eq] at written
    cases written
    refine sound.publish row_found operation_found target' operation_mine rfl rfl rfl (step _) rfl
      (heads _ rfl) .same (fun _ _ _ => Iff.rfl) ?_ ?_
    · intro _ submission member owned
      exact absurd owned (Store.submissionOf_eq_none.mp submission_eq submission member)
    · exact fun now jobId => (sound.agrees now operation operation_mem).jobs jobId _ target
  | some submission =>
    rw [submission_eq] at written
    obtain ⟨submission_mem, owned⟩ := (Store.submissionOf_eq_some sound.unique).mp submission_eq
    cases job : submission.jobId with
    | some existing =>
      simp only [Store.createJob, job, Option.isSome_some, if_true] at written
      cases written
      refine sound.publish row_found operation_found target' operation_mine rfl rfl rfl (step _)
        rfl (heads _ rfl) .same (fun _ _ _ => Iff.rfl) ?_ ?_
      · intro now
        have jobless := pending now submission_mem owned
        rw [job] at jobless
        cases jobless
      · exact fun now jobId => (sound.agrees now operation operation_mem).jobs jobId _ target
    | none =>
      have submission_found := lookup_of_mem submission_mem
      dsimp only at written
      obtain ⟨db, jobs, rfl⟩ := Store.exists_createJob written submission_found job
      have jobs : workspaceJobs db = workspaceJobs store.db ++ [(jobId, row.id)] := jobs
      have created_found : store.submissions.lookup ({ submission with
          jobId := some jobId, state := .jobCreated } : TrainingSubmission).id =
          some submission := submission_found
      have locked_row : LockedRow.submission submission.id ∈ held :=
        submission_mine submission submission_eq
      refine sound.publish row_found operation_found target' operation_mine rfl rfl rfl (step _)
        rfl (heads _ rfl) (.replaced created_found ⟨owned, locked_row, rfl⟩) ?_ ?_ ?_
      · intro otherId revisionId ne
        have ne : revisionId ≠ row.id := ne
        rw [jobs]
        simp [ne]
      · intro _ other member other_owned
        rcases mem_replace.mp member with ⟨other_mem, ne⟩ | ⟨rfl, -⟩
        · have same := sound.unique other other_mem submission submission_mem
            (other_owned.trans owned.symm)
          exact absurd (congrArg TrainingSubmission.id same) ne
        · exact ⟨rfl, rfl⟩
      · intro now otherId
        have before := (sound.agrees now operation operation_mem).jobs otherId _ target
        have none_before : (otherId, row.id) ∉ workspaceJobs store.db := by
          rw [before]
          rintro ⟨other, other_mem, other_owned, set⟩
          rw [pending now other_mem other_owned] at set
          cases set
        have job_mem : (otherId, row.id) ∈ workspaceJobs db ↔ otherId = jobId := by
          rw [jobs]
          simp [none_before]
        refine job_mem.trans ⟨?_, ?_⟩
        · rintro rfl
          exact ⟨_, mem_of_lookup (lookup_replace_self created_found), owned, rfl⟩
        · rintro ⟨other, other_mem, other_owned, set⟩
          rcases mem_replace.mp other_mem with ⟨earlier_mem, ne⟩ | ⟨rfl, -⟩
          · have same := sound.unique other earlier_mem submission submission_mem
              (other_owned.trans owned.symm)
            exact absurd (congrArg TrainingSubmission.id same) ne
          · exact (Option.some.inj set).symm

/-- The trigger lets no profile be added to a ready revision. -/
theorem safe_recordProfile {missing : Bool} {f : ImageRevision → ImageRevision}
    {next : WorkspaceScript} (mine : .revision row.id ∈ held) (ready : row.state = .imageReady)
    (changes : missing = true → f row ≠ row)
    (rest : next.Safe (workspaceContract timely) n held store) :
    (recordProfile body missing row.id f next).Safe (workspaceContract timely) n held store := by
  unfold recordProfile
  split_ifs with adds
  · intro now interfered
    refine ⟨fun _ => trivial, fun after _ written => ?_⟩
    have now_found := revision_stable interfered sound mine found
    simp [updateRevision, now_found, ready, changes adds] at written
  · exact rest

theorem safe_repeatReady (mine : .revision row.id ∈ held) (ready : row.state = .imageReady) :
    (repeatReady body row).Safe (workspaceContract timely) n held store := by
  unfold repeatReady
  split_ifs
  · trivial
  · refine safe_recordProfile sound found mine ready ?_
      (safe_recordProfile sound found mine ready ?_ trivial)
    · intro missing same
      simp only [Bool.and_eq_true, beq_iff_eq] at missing
      have set := congrArg ImageRevision.developerProfile same
      rw [missing.1] at set
      cases set
    · intro missing same
      simp only [Bool.and_eq_true, beq_iff_eq] at missing
      have set := congrArg ImageRevision.sshProfile same
      rw [missing.1] at set
      cases set

end

theorem Store.operationOf_eq_some :
    store.operationOf row = some operation ↔ row.snapshotOperationId = some operation.id ∧
      store.saves.lookup operation.id = some operation ∧
        operation.targetRevisionId = some row.id := by
  unfold operationOf
  rw [Option.filter_eq_some_iff, beq_iff_eq, Option.bind_eq_some_iff]
  constructor
  · rintro ⟨⟨operationId, owned, found⟩, target⟩
    have named : operation.id = operationId := key_of_lookup found
    subst named
    exact ⟨owned, found, target⟩
  · rintro ⟨owned, found, target⟩
    exact ⟨⟨operation.id, owned, found⟩, target⟩

section

variable (sound : store.Sound timely) (found : store.revisions.lookup row.id = some row)
  (building : row.state = .building)
  (fenced : (Label.ready body.toBuildAttempt advances).Fences row)
  (named : row.id = body.revisionId) (mine : .revision row.id ∈ held)

include sound found building fenced named mine

theorem safe_commitSnapshot {operationId : UUID}
    (owned : row.snapshotOperationId = some operationId) :
    (commitSnapshot body row advances operationId jobId runtime).Safe (workspaceContract timely) n
      held store := by
  refine Script.safe_awaitIf (fun first first_interfered matched => ?_) fun _ _ _ => trivial
  have first_sound := first_interfered.invariant sound
  have first_found := revision_stable first_interfered sound mine found
  obtain ⟨operation, operation_eq⟩ := Option.isSome_iff_exists.mp matched
  obtain ⟨operation_owned, operation_found, target⟩ := operationOf_eq_some.mp operation_eq
  cases owned.symm.trans operation_owned
  rw [Bool.not_true, if_neg Bool.false_ne_true]
  -- The submission stays the one that was read: it is locked, or there is none to come.
  have commits {held : Set LockedRow} {seen : Store} (seen_sound : seen.Sound timely)
      (seen_found : seen.revisions.lookup row.id = some row)
      (seen_operation : seen.saves.lookup operation.id = some operation)
      (mine : .revision row.id ∈ held) (operation_mine : .save operation.id ∈ held)
      (submission_mine : ∀ submission ∈ seen.submissionOf operation.id,
        .submission submission.id ∈ held) :
      (Script.commit (.ready body.toBuildAttempt advances)
        (fun store : Store => store.publishSnapshot body row advances operation.id jobId
          (seen.submissionOf operation.id) runtime)
        fun committed => .done (if committed then Reply.ok else .rejected internalServerError)).Safe
        (workspaceContract timely) n held seen := by
    intro now interfered
    refine ⟨fun _ => trivial, fun after _ written => ?_⟩
    have now_sound := interfered.invariant seen_sound
    have same : now.submissionOf operation.id = seen.submissionOf operation.id := by
      cases submission_eq : seen.submissionOf operation.id with
      | none =>
        have fails := fails_stable interfered seen_sound
          (fails_failureOf (mem_of_lookup seen_operation))
        have later := congrArg FailedSave.submissionId fails.2
        simpa [failureOf, submission_eq] using later
      | some submission =>
        obtain ⟨submission_mem, submission_owned⟩ :=
          (submissionOf_eq_some seen_sound.unique).mp submission_eq
        have later := submission_stable interfered seen_sound
          (submission_mine submission submission_eq) (lookup_of_mem submission_mem)
        exact (submissionOf_eq_some now_sound.unique).mpr
          ⟨mem_of_lookup later, submission_owned⟩
    refine Step.commits ?_ trivial
    rw [← same] at written submission_mine
    exact step_publishSnapshot now_sound (revision_stable interfered seen_sound mine seen_found)
      building fenced named mine (save_stable interfered seen_sound operation_mine seen_operation)
      target operation_mine submission_mine written
  intro second interfered
  have second_sound := interfered.invariant first_sound
  have second_found := revision_stable interfered first_sound (Set.mem_insert_of_mem _ mine)
    first_found
  have second_operation := save_stable interfered first_sound (Set.mem_insert _ _) operation_found
  refine ⟨fun absent => ?_, fun picked listed => ?_⟩
  · refine commits second_sound second_found second_operation (Set.mem_insert_of_mem _ mine)
      (Set.mem_insert _ _) fun submission submission_eq => ?_
    rcases absent with empty | skips
    · simp [Option.mem_def.mp submission_eq] at empty
    · cases skips
  · obtain ⟨submission, submission_mem, rfl⟩ := List.mem_map.mp listed
    refine commits second_sound second_found second_operation
      (Set.mem_insert_of_mem _ (Set.mem_insert_of_mem _ mine))
      (Set.mem_insert_of_mem _ (Set.mem_insert _ _)) fun other other_eq => ?_
    rw [Option.mem_toList] at submission_mem
    cases submission_mem.symm.trans other_eq
    exact Set.mem_insert _ _

theorem safe_markSnapshotReady :
    (markSnapshotReady body row advances jobId).Safe (workspaceContract timely) n held store := by
  intro first first_interfered
  have first_sound := first_interfered.invariant sound
  have first_found := revision_stable first_interfered sound mine found
  dsimp only
  split
  · trivial
  · rename_i reference referenced
    have owned := (operationOf_eq_some.mp referenced).1
    exact Script.safe_awaitIf
      (fun second interfered _ => safe_commitSnapshot (interfered.invariant first_sound)
        (revision_stable interfered first_sound mine first_found) building fenced named
        (Set.mem_insert_of_mem _ mine) owned)
      fun second interfered _ => safe_commitSnapshot (interfered.invariant first_sound)
        (revision_stable interfered first_sound mine first_found) building fenced named mine owned

end

theorem safe_markReady (body : ReadyBody) (jobId : UUID) (sound : store.Sound timely) :
    (markReady body jobId).Safe (workspaceContract timely) n ∅ store := by
  refine safe_fence sound fun first row first_sound found owns state => ?_
  have named : row.id = body.revisionId := key_of_lookup found
  rw [← named] at found ⊢
  split
  · trivial
  by_cases ready : row.state = .imageReady
  · rw [if_pos ready]
    exact safe_repeatReady first_sound found (Set.mem_singleton _) ready
  · rw [if_neg ready]
    have building : row.state = .building := by
      rcases state with building | ⟨published, -⟩
      · exact building
      · exact absurd published ready
    intro second second_interfered
    have second_sound := second_interfered.invariant first_sound
    have second_found := revision_stable second_interfered first_sound (Set.mem_singleton _) found
    dsimp only
    split
    · trivial
    · rename_i item _
      have fenced : (Label.ready body.toBuildAttempt
          (item.savedRevisionId.isNone || row.origin == .snapshot)).Fences row :=
        BuildAttempt.fences owns named rfl
      refine Script.safe_await fun third third_interfered => ?_
      have third_sound := third_interfered.invariant second_sound
      have third_found := revision_stable third_interfered second_sound (Set.mem_singleton _)
        second_found
      split_ifs with snapshot
      · exact safe_markSnapshotReady third_sound third_found building fenced named
          (Set.mem_insert_of_mem _ (Set.mem_singleton _))
      · intro now interfered
        refine ⟨fun _ => trivial, fun after _ written => ?_⟩
        have now_sound := interfered.invariant third_sound
        have now_found := revision_stable interfered third_sound
          (Set.mem_insert_of_mem _ (Set.mem_singleton _)) third_found
        obtain ⟨workspaces, rfl, heads⟩ := exists_publish now_found named written
        have published_found : now.revisions.lookup (body.publishedRow row).id =
            some row := now_found
        have alone : row.snapshotOperationId = none := by
          have initial := (now_sound.origin row (mem_of_lookup now_found)).not.mp snapshot
          simpa using initial
        refine Step.commits ?_ trivial
        exact now_sound.revise published_found rfl rfl rfl rfl (fun _ member => member) id
          (heads _ rfl)
          (revisionStep_publishedRow now_sound now_found
            (Set.mem_insert_of_mem _ (Set.mem_singleton _)) building fenced) (.inl alone)

end TrainingScheduler.Workspaces
