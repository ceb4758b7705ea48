import TrainingScheduler.Workspaces.Effects

/-!
# The commits of a workspace, one shape at a time

Each shape of commit keeps the invariants and has an allowed effect.
-/

namespace TrainingScheduler.Workspaces

open Table

/-- A commit, or a part of one that could have been a commit of its own. -/
def Step (timely : Prop) (label : Label) (held : Set LockedRow) (before after : Store) : Prop :=
  after.Sound timely ∧ Effect timely label held before after

variable {timely : Prop} {label : Label} {held wider : Set LockedRow} {store after : Store}

theorem Step.mono (subset : held ⊆ wider) (step : Step timely label held store after) :
    Step timely label wider store after :=
  ⟨step.1, step.2.mono subset⟩

theorem ImageRevision.valid_of_new {row : ImageRevision} (queued : row.state = .queued)
    (count : row.attemptCount = 0) : row.Valid where
  bounded := count ▸ Nat.zero_le _
  queued _ := by
    rw [count]
    decide
  leased building := by
    rw [queued] at building
    cases building

namespace Store

variable {operationId : UUID} {row : ImageRevision} {operation old : SaveOperation}
  {code detail : String}

theorem submissionOf_eq_some (unique : store.submissions.Unique TrainingSubmission.saveOperationId)
    {submission : TrainingSubmission} :
    store.submissionOf operationId = some submission ↔
      submission ∈ store.submissions.rows ∧ submission.saveOperationId = operationId := by
  constructor
  · intro found
    exact ⟨List.mem_of_find?_eq_some found, by simpa using List.find?_some found⟩
  · rintro ⟨member, owned⟩
    cases found : store.submissionOf operationId with
    | none =>
      have absent := List.find?_eq_none.mp found submission member
      simp [owned] at absent
    | some other =>
      have other_owned : other.saveOperationId = operationId := by
        simpa using List.find?_some found
      rw [unique other (List.mem_of_find?_eq_some found) submission member
        (other_owned.trans owned.symm)]

theorem submissionOf_eq_none :
    store.submissionOf operationId = none ↔
      ∀ submission ∈ store.submissions.rows, submission.saveOperationId ≠ operationId := by
  simp [submissionOf, List.find?_eq_none]

theorem Sound.operation_eq (sound : store.Sound timely) (member : row ∈ store.revisions.rows)
    (operation_mem : operation ∈ store.saves.rows)
    (target : operation.targetRevisionId = some row.id) :
    row.snapshotOperationId = some operation.id := by
  obtain ⟨other, other_mem, same, owned⟩ := sound.source operation operation_mem row.id target
  rwa [store.revisions.eq_of_key_eq other_mem member same] at owned

theorem Sound.publishQueued (sound : store.Sound timely) (now : timely)
    (member : row ∈ store.revisions.rows) (opened : row.Open)
    (operation_mem : operation ∈ store.saves.rows)
    (target : operation.targetRevisionId = some row.id) : operation.state = .publishQueued := by
  have publishes := (sound.agrees now operation operation_mem).published row member target
  rcases opened with queued | building
  · rw [queued] at publishes
    cases state : operation.state <;> rw [state] at publishes <;> first | rfl | exact publishes.elim
  · rw [building] at publishes
    cases state : operation.state <;> rw [state] at publishes <;> first | rfl | exact publishes.elim

theorem Sound.external (sound : store.Sound timely) (db : Db) (clock : Time)
    (jobs : workspaceJobs db = workspaceJobs store.db) :
    Step timely label held store { store with db, clock } := by
  have effect : Effect timely label held store { store with db, clock } :=
    { attempts := fun _ member => member
      nodup := id
      revisions := .same
      saves := .same
      submissions := .same
      workspaces := .same
      jobs := fun job member => .inl (jobs ▸ member) }
  refine ⟨sound.effect effect fun now operation member => ?_, effect⟩
  refine (sound.agrees now operation member).transfer ?_ (fun _ _ => Iff.rfl) ?_
  · exact fun row row_mem _ => ⟨row, row_mem, rfl, fun _ publishes => publishes⟩
  · exact fun jobId revisionId _ => by rw [jobs]

variable {revisions : Table ImageRevision.id}

section

variable (sound : store.Sound timely)

include sound

theorem Sound.created {item : InteractiveWorkspace} {workspaces : Table InteractiveWorkspace.id}
    (item_inserted : store.workspaces.insert item = some workspaces)
    (row_inserted : store.revisions.insert row = some revisions)
    (requested : label.callback = false) (unsaved : item.savedRevisionId = none)
    (unbuilt : row.attemptId = none) (count : row.attemptCount = 0) (queued : row.state = .queued)
    (origin : row.origin ≠ .snapshot) (source : row.snapshotOperationId = none) :
    Step timely label held store { store with workspaces, revisions } := by
  have valid := ImageRevision.valid_of_new queued count
  have effect : Effect timely label held store { store with workspaces, revisions } :=
    { attempts := fun _ member => member
      nodup := id
      revisions := .inserted row_inserted
        { requested := requested
          attemptId := unbuilt
          valid := valid
          origin := by simp [origin, source]
          target := fun operationId owned => by simp [source] at owned }
      saves := .same
      submissions := .same
      workspaces := .inserted item_inserted unsaved
      jobs := fun job member => .inl member }
  refine ⟨sound.effect effect fun now operation member => ?_, effect⟩
  refine (sound.agrees now operation member).transfer ?_ (fun _ _ => Iff.rfl) fun _ _ _ => Iff.rfl
  intro next next_mem target
  rcases (mem_insert row_inserted).mp next_mem with old | rfl
  · exact ⟨next, old, rfl, fun _ publishes => publishes⟩
  · obtain ⟨other, other_mem, same, -⟩ := sound.source operation member _ target
    exact absurd same ((insert_eq_some row_inserted).2 other other_mem)

theorem Sound.revise {old : ImageRevision} (found : store.revisions.lookup row.id = some old)
    (revisions : after.revisions = store.revisions.replace row) (saves : after.saves = store.saves)
    (submissions : after.submissions = store.submissions) (db : after.db = store.db)
    (attempts : store.attempts ⊆ after.attempts)
    (nodup : store.attempts.Nodup → after.attempts.Nodup)
    (workspaces : store.workspaces.Change (HeadStep label after)
      (fun item => item.savedRevisionId = none) after.workspaces)
    (step : RevisionStep label held store after old row)
    (waits : old.snapshotOperationId = none ∨ row.Open) : Step timely label held store after := by
  have effect : Effect timely label held store after :=
    { attempts := attempts
      nodup := nodup
      revisions := revisions ▸ .replaced found step
      saves := saves ▸ .same
      submissions := submissions ▸ .same
      workspaces := workspaces
      jobs := fun job member => .inl (db ▸ member) }
  refine ⟨sound.effect effect fun now operation member => ?_, effect⟩
  rw [saves] at member
  refine (sound.agrees now operation member).transfer ?_ ?_ ?_
  · intro next next_mem target
    rw [revisions] at next_mem
    rcases mem_replace.mp next_mem with ⟨same, -⟩ | ⟨rfl, -⟩
    · exact ⟨next, same, rfl, fun _ publishes => publishes⟩
    · have old_mem := mem_of_lookup found
      have old_id : old.id = next.id := key_of_lookup found
      refine ⟨old, old_mem, old_id, fun state publishes => ?_⟩
      rcases waits with alone | opened
      · have owned := sound.operation_eq old_mem member (old_id ▸ target)
        rw [alone] at owned
        cases owned
      · rcases step.opened with was | was <;> rcases opened with is | is <;>
          rw [was] at publishes <;> rw [is] <;> cases state <;> trivial
  · exact fun _ _ => by rw [submissions]
  · exact fun _ _ _ => by rw [db]

theorem Sound.settle (found : store.saves.lookup operation.id = some old)
    (saves : after.saves = store.saves.replace operation) (revisions : store.revisions.Change
      (fun old row => old.snapshotOperationId = some operation.id ∧
        RevisionStep label held store after old row) (fun _ => False) after.revisions)
    (submissions : store.submissions.Change
      (fun old submission => old.saveOperationId = operation.id ∧
        SubmissionStep held old submission) (fun _ => False) after.submissions)
    (attempts : after.attempts = store.attempts)
    (workspaces : store.workspaces.Change (HeadStep label after)
      (fun item => item.savedRevisionId = none) after.workspaces)
    (step : SaveStep timely held after old operation)
    (target : operation.targetRevisionId = old.targetRevisionId)
    (jobs : ∀ jobId revisionId, operation.targetRevisionId ≠ some revisionId →
      ((jobId, revisionId) ∈ workspaceJobs after.db ↔
        (jobId, revisionId) ∈ workspaceJobs store.db)) (agrees : timely → after.Agrees operation) :
    Step timely label held store after := by
  have old_mem := mem_of_lookup found
  have old_id : old.id = operation.id := key_of_lookup found
  have kept_rows : store.revisions.Change (RevisionStep label held store after)
      (NewRevision label after) after.revisions :=
    revisions.mono (fun _ _ related => related.2) fun _ => False.elim
  have effect : Effect timely label held store after :=
    { attempts := attempts ▸ fun _ member => member
      nodup := fun unique => attempts ▸ unique
      revisions := kept_rows
      saves := saves ▸ .replaced found step
      submissions := submissions.mono (fun _ _ related => related.2) fun _ => False.elim
      workspaces := workspaces
      jobs := by
        rintro ⟨jobId, revisionId⟩ member
        by_cases targeted : operation.targetRevisionId = some revisionId
        · obtain ⟨row, row_mem, named, -⟩ := sound.source old old_mem revisionId (target ▸ targeted)
          obtain ⟨next, next_mem, same, -⟩ := kept_rows.exists_after row_mem
          exact .inr ⟨next, next_mem, same.trans named⟩
        · exact .inl ((jobs jobId revisionId targeted).mp member) }
  refine ⟨sound.effect effect fun now other member => ?_, effect⟩
  rw [saves] at member
  rcases mem_replace.mp member with ⟨other_mem, ne⟩ | ⟨rfl, -⟩
  · refine (sound.agrees now other other_mem).transfer ?_ ?_ ?_
    · intro row row_mem other_target
      rcases revisions.exists_before row_mem with
        same | ⟨impossible, -⟩ | ⟨earlier, earlier_mem, same, owned, -⟩
      · exact ⟨row, same, rfl, fun _ publishes => publishes⟩
      · exact impossible.elim
      · have other_owned := sound.operation_eq earlier_mem other_mem (same ▸ other_target)
        exact absurd (Option.some.inj (other_owned.symm.trans owned)) ne
    · intro submission other_owned
      constructor
      · intro submission_mem
        rcases submissions.exists_before submission_mem with
          same | ⟨impossible, -⟩ | ⟨earlier, -, -, owned, change⟩
        · exact same
        · exact impossible.elim
        · exact absurd (other_owned.symm.trans (change.operation.trans owned)) ne
      · intro submission_mem
        obtain ⟨next, next_mem, -, rfl | ⟨owned, -⟩⟩ := submissions.exists_after submission_mem
        · exact next_mem
        · exact absurd (other_owned.symm.trans owned) ne
    · intro jobId revisionId other_target
      refine jobs jobId revisionId fun targeted => ?_
      obtain ⟨row, row_mem, rfl, owned⟩ := sound.source other other_mem revisionId other_target
      have both := sound.operation_eq row_mem old_mem (target ▸ targeted)
      exact ne (Option.some.inj (owned.symm.trans (both.trans (congrArg some old_id))))
  · exact agrees now

theorem Sound.request {saves : Table SaveOperation.id}
    (inserted : store.saves.insert operation = some saves)
    (requested : operation.state = .requested) (target : operation.targetRevisionId = none)
    {submissions : Table TrainingSubmission.id}
    (submitted : store.submissions.Change (fun _ _ => False)
      (fun submission => submission.saveOperationId = operation.id ∧
        submission.state = .saving ∧ submission.jobId = none) submissions)
    (train : operation.purpose = .train →
      ∃ submission ∈ submissions.rows, submission.saveOperationId = operation.id) :
    Step timely label held store { store with saves, submissions } := by
  obtain ⟨-, fresh⟩ := insert_eq_some inserted
  have stored : operation ∈ saves.rows := (mem_insert inserted).mpr (.inr rfl)
  have effect : Effect timely label held store { store with saves, submissions } :=
    { attempts := fun _ member => member
      nodup := id
      revisions := .same
      saves := .inserted inserted ⟨target, train⟩
      submissions := by
        refine submitted.mono (fun _ _ => False.elim) fun submission new => ?_
        exact ⟨fun other other_mem => new.1 ▸ fresh other other_mem, operation, stored, new.1.symm⟩
      workspaces := .same
      jobs := fun job member => .inl member }
  refine ⟨sound.effect effect fun now other member => ?_, effect⟩
  rcases (mem_insert inserted).mp member with other_mem | rfl
  · refine (sound.agrees now other other_mem).transfer ?_ ?_ fun _ _ _ => Iff.rfl
    · exact fun row row_mem _ => ⟨row, row_mem, rfl, fun _ publishes => publishes⟩
    · intro submission owned
      constructor
      · intro submission_mem
        rcases submitted.exists_before submission_mem with same | ⟨new, -⟩ | ⟨_, _, _, impossible⟩
        · exact same
        · exact absurd (owned.symm.trans new.1) (fresh other other_mem)
        · exact impossible.elim
      · intro submission_mem
        obtain ⟨next, next_mem, -, rfl | impossible⟩ := submitted.exists_after submission_mem
        · exact next_mem
        · exact impossible.elim
  · refine ⟨fun _ => .inl (by rw [requested]; rfl), fun row _ targeted => ?_, ?_, ?_⟩
    · rw [target] at targeted
      cases targeted
    · intro submission submission_mem owned
      rcases submitted.exists_before submission_mem with same | ⟨new, -⟩ | ⟨_, _, _, impossible⟩
      · obtain ⟨earlier, earlier_mem, named⟩ := sound.operation submission same
        exact absurd (named.trans owned) (fresh earlier earlier_mem)
      · simp [requested, new.2.1, new.2.2, SaveState.submission]
      · exact impossible.elim
    · intro jobId revisionId targeted
      rw [target] at targeted
      cases targeted

theorem Sound.enqueue (found : store.saves.lookup operation.id = some old)
    (inserted : store.revisions.insert row = some revisions) (requested : label.callback = false)
    (locked : .save old.id ∈ held) (capture : old.state.capture = true)
    (purpose : operation.purpose = old.purpose) (target : operation.targetRevisionId = some row.id)
    (waiting : operation.state = .publishQueued) (queued : row.state = .queued)
    (unbuilt : row.attemptId = none) (count : row.attemptCount = 0)
    (origin : row.origin = .snapshot) (source : row.snapshotOperationId = some operation.id) :
    Step timely label held store
      { store with revisions, saves := store.saves.replace operation } := by
  obtain ⟨-, fresh⟩ := insert_eq_some inserted
  have old_mem := mem_of_lookup found
  have old_id : old.id = operation.id := key_of_lookup found
  have stored : operation ∈ (store.saves.replace operation).rows :=
    mem_replace.mpr (.inr ⟨rfl, old, old_mem, old_id⟩)
  have row_mem : row ∈ revisions.rows := (mem_insert inserted).mpr (.inr rfl)
  have valid := ImageRevision.valid_of_new queued count
  have not_failed : old.state ≠ .failed := by
    intro failed
    rw [failed] at capture
    cases capture
  have effect : Effect timely label held store
      { store with revisions, saves := store.saves.replace operation } :=
    { attempts := fun _ member => member
      nodup := id
      revisions := .inserted inserted
        { requested := requested
          attemptId := unbuilt
          valid := valid
          origin := by simp [origin, source]
          target := fun operationId owned =>
            ⟨operation, stored, Option.some.inj (source.symm.trans owned), target⟩ }
      saves := .replaced found
        { locked := locked
          purpose := purpose
          target := .inr ⟨sound.capture old old_mem capture, row, row_mem, target,
            source.trans (congrArg some old_id.symm)⟩
          capture := fun impossible => by simp [waiting, SaveState.capture] at impossible
          failed := fun _ failed => absurd failed not_failed }
      submissions := .same
      workspaces := .same
      jobs := fun job member => .inl member }
  refine ⟨sound.effect effect fun now other member => ?_, effect⟩
  rcases mem_replace.mp member with ⟨other_mem, -⟩ | ⟨rfl, -⟩
  · refine (sound.agrees now other other_mem).transfer ?_ (fun _ _ => Iff.rfl) fun _ _ _ => Iff.rfl
    intro next next_mem other_target
    rcases (mem_insert inserted).mp next_mem with same | rfl
    · exact ⟨next, same, rfl, fun _ publishes => publishes⟩
    · obtain ⟨earlier, earlier_mem, named, -⟩ := sound.source other other_mem _ other_target
      exact absurd named (fresh earlier earlier_mem)
  · have before := sound.agrees now old old_mem
    have unsubmitted {submission : TrainingSubmission}
        (submission_mem : submission ∈ store.submissions.rows)
        (owned : submission.saveOperationId = other.id) :
        submission.state = .saving ∧ submission.jobId.isSome = false := by
      obtain ⟨state, job⟩ := before.submitted submission submission_mem (owned.trans old_id.symm)
      have pending : old.state ≠ .succeeded := by
        intro succeeded
        rw [succeeded] at capture
        cases capture
      refine ⟨?_, by simpa [pending] using job⟩
      rw [state]
      cases old_state : old.state <;> rw [old_state] at capture pending not_failed <;>
        first | rfl | exact absurd rfl not_failed | exact absurd rfl pending
    refine ⟨fun none => ?_, fun next next_mem targeted => ?_, ?_, ?_⟩
    · rw [target] at none
      cases none
    · rcases (mem_insert inserted).mp next_mem with same | rfl
      · exact absurd (Option.some.inj (targeted.symm.trans target)) (fresh next same)
      · rw [waiting, queued]
        trivial
    · intro submission submission_mem owned
      obtain ⟨saving, jobless⟩ := unsubmitted submission_mem owned
      simp [saving, jobless, waiting, SaveState.submission]
    · intro jobId revisionId targeted
      have new : revisionId = row.id := Option.some.inj (targeted.symm.trans target)
      constructor
      · intro job_mem
        obtain ⟨earlier, earlier_mem, named⟩ := sound.jobs _ job_mem
        exact absurd (named.trans new) (fresh earlier earlier_mem)
      · rintro ⟨submission, submission_mem, owned, job⟩
        have jobless := (unsubmitted submission_mem owned).2
        rw [job] at jobless
        cases jobless

theorem Sound.captured (found : store.saves.lookup operation.id = some old)
    (locked : .save old.id ∈ held) (was : old.state.capture = true)
    (is : operation.state.capture = true) (purpose : operation.purpose = old.purpose)
    (target : operation.targetRevisionId = old.targetRevisionId) :
    Step timely label held store { store with saves := store.saves.replace operation } := by
  have old_mem := mem_of_lookup found
  have old_id : old.id = operation.id := key_of_lookup found
  have unset := sound.capture old old_mem was
  refine sound.settle found rfl .same .same rfl .same ?_ target (fun _ _ _ => Iff.rfl) fun now => ?_
  · refine ⟨locked, purpose, .inl target, fun _ => target.trans unset, fun _ failed => ?_⟩
    rw [failed] at was
    cases was
  · have before := sound.agrees now old old_mem
    have same : operation.state.submission = old.state.submission ∧
        (operation.state = .succeeded ↔ old.state = .succeeded) := by
      cases old_state : old.state <;> rw [old_state] at was <;> cases state : operation.state <;>
        rw [state] at is <;> simp_all [SaveState.capture, SaveState.submission]
    refine ⟨fun _ => .inl is, fun row _ targeted => ?_, ?_, fun _ _ targeted => ?_⟩
    · rw [target, unset] at targeted
      cases targeted
    · rw [same.1, same.2, ← old_id]
      exact before.submitted
    · rw [target, unset] at targeted
      cases targeted

end

/-- The submissions after the one of an operation has failed. -/
def failedSubmissions (store : Store) (code detail : String) (operationId : UUID) :
    Table TrainingSubmission.id :=
  match store.submissionOf operationId with
  | none => store.submissions
  | some submission => store.submissions.replace (failedSubmission code detail submission)

theorem apply_failureOf (store : Store)
    (unique : store.submissions.Unique TrainingSubmission.saveOperationId)
    (found : store.saves.lookup operation.id = some operation) :
    (store.failureOf operation.id).apply code detail store =
      { store with
        saves := store.saves.replace (failedOperation code detail operation)
        submissions := store.failedSubmissions code detail operation.id } := by
  cases submission_eq : store.submissionOf operation.id with
  | none =>
    simp only [failureOf, FailedSave.apply, submission_eq, Option.map_none, updateSave, found,
      failedSubmissions]
    rfl
  | some submission =>
    have submission_mem := ((submissionOf_eq_some unique).mp submission_eq).1
    have submission_found := lookup_of_mem submission_mem
    simp only [failureOf, FailedSave.apply, submission_eq, Option.map_some, updateSave, found,
      failedSubmissions, updateSubmission, submission_found]
    rfl

theorem change_failedSubmissions
    (unique : store.submissions.Unique TrainingSubmission.saveOperationId)
    (locked : ∀ row ∈ (store.failureOf operationId).rows, row ∈ held) :
    store.submissions.Change
      (fun old submission => (old.saveOperationId = operationId ∧
        SubmissionStep held old submission) ∧
          submission = failedSubmission code detail old) (fun _ => False)
      (store.failedSubmissions code detail operationId) := by
  unfold failedSubmissions
  cases found : store.submissionOf operationId with
  | none => exact .same
  | some submission =>
    obtain ⟨member, owned⟩ := (submissionOf_eq_some unique).mp found
    have held_row : LockedRow.submission submission.id ∈ held := by
      refine locked _ ?_
      simp [FailedSave.rows, failureOf, found]
    have stored : store.submissions.lookup (failedSubmission code detail submission).id =
        some submission := lookup_of_mem member
    exact .replaced stored ⟨⟨owned, held_row, rfl⟩, rfl⟩

theorem Agrees.failed (unique : store.submissions.Unique TrainingSubmission.saveOperationId)
    (before : store.Agrees old) (pending : old.state ≠ .succeeded)
    (unpublished : ∀ row ∈ after.revisions.rows, old.targetRevisionId = some row.id →
      SaveState.failed.Publishes row.state)
    (submissions : after.submissions = store.failedSubmissions code detail old.id)
    (db : after.db = store.db) : after.Agrees (failedOperation code detail old) := by
  have failed {submission : TrainingSubmission}
      (member : submission ∈ after.submissions.rows)
      (owned : submission.saveOperationId = old.id) :
      submission.state = .failed ∧ submission.jobId = none := by
    rw [submissions] at member
    have jobless {earlier : TrainingSubmission} (earlier_mem : earlier ∈ store.submissions.rows)
        (earlier_owned : earlier.saveOperationId = old.id) : earlier.jobId = none := by
      have job := (before.submitted earlier earlier_mem earlier_owned).2
      simpa [pending] using job
    unfold failedSubmissions at member
    cases found : store.submissionOf old.id with
    | none =>
      rw [found] at member
      exact absurd owned (submissionOf_eq_none.mp found submission member)
    | some earlier =>
      obtain ⟨earlier_mem, earlier_owned⟩ := (submissionOf_eq_some unique).mp found
      rw [found] at member
      rcases mem_replace.mp member with ⟨other_mem, ne⟩ | ⟨rfl, -⟩
      · have same := unique submission other_mem earlier earlier_mem
          (owned.trans earlier_owned.symm)
        exact absurd (congrArg TrainingSubmission.id same) ne
      · have kept := jobless earlier_mem earlier_owned
        exact ⟨rfl, kept⟩
  refine ⟨fun _ => .inr rfl, unpublished, fun submission member owned => ?_, ?_⟩
  · obtain ⟨state, job⟩ := failed member owned
    exact ⟨state, by simp [job, failedOperation]⟩
  · intro jobId revisionId target
    rw [db, before.jobs jobId revisionId target]
    constructor
    · rintro ⟨submission, member, owned, job⟩
      have isSome := (before.submitted submission member owned).2
      rw [job] at isSome
      simp [pending] at isSome
    · rintro ⟨submission, member, owned, job⟩
      rw [(failed member owned).2] at job
      cases job

theorem Sound.fail (sound : store.Sound timely) (found : store.saves.lookup old.id = some old)
    (locked : ∀ row ∈ (store.failureOf old.id).rows, row ∈ held)
    (capture : timely → old.state.capture = true) :
    Step timely label held store ((store.failureOf old.id).apply code detail store) := by
  rw [apply_failureOf store sound.unique found]
  have old_mem := mem_of_lookup found
  have old_found : store.saves.lookup (failedOperation code detail old).id = some old := found
  refine sound.settle old_found rfl .same
    ((change_failedSubmissions sound.unique locked).mono (fun _ _ change => change.1) fun _ => id)
    rfl .same ?_ rfl (fun _ _ _ => Iff.rfl) fun now => ?_
  · refine ⟨locked _ (by simp [FailedSave.rows, failureOf]), rfl, .inl rfl, ?_, fun _ _ => rfl⟩
    rintro ⟨⟩
  · have unset := sound.capture old old_mem (capture now)
    refine (sound.agrees now old old_mem).failed sound.unique ?_ ?_ rfl rfl
    · intro succeeded
      have was := capture now
      rw [succeeded] at was
      cases was
    · intro row _ target
      rw [unset] at target
      cases target

theorem Sound.close (sound : store.Sound timely) {old : ImageRevision}
    (found : store.revisions.lookup row.id = some old)
    (owned : old.snapshotOperationId = some operationId)
    (step : ∀ after : Store, after.attempts = store.attempts →
      RevisionStep label held store after old row)
    (ended : row.state = .failed ∨ row.state = .cancelled)
    (locked : ∀ row ∈ (store.failureOf operationId).rows, row ∈ held) :
    Step timely label held store ((store.failureOf operationId).apply code detail
      { store with revisions := store.revisions.replace row }) := by
  have old_mem := mem_of_lookup found
  have old_id : old.id = row.id := key_of_lookup found
  obtain ⟨operation, operation_mem, rfl, target⟩ := sound.target old old_mem operationId owned
  have operation_found := lookup_of_mem operation_mem
  have written : (store.failureOf operation.id).apply code detail
      { store with revisions := store.revisions.replace row } =
      { store with
        revisions := store.revisions.replace row
        saves := store.saves.replace (failedOperation code detail operation)
        submissions := store.failedSubmissions code detail operation.id } :=
    apply_failureOf { store with revisions := store.revisions.replace row } sound.unique
      operation_found
  rw [written]
  have failed_found : store.saves.lookup (failedOperation code detail operation).id =
      some operation := operation_found
  refine sound.settle failed_found rfl (.replaced found ⟨owned, step _ rfl⟩)
    ((change_failedSubmissions sound.unique locked).mono (fun _ _ change => change.1) fun _ => id)
    rfl .same ?_ rfl (fun _ _ _ => Iff.rfl) fun now => ?_
  · refine ⟨locked _ (by simp [FailedSave.rows, failureOf]), rfl, .inl rfl, ?_, fun _ _ => rfl⟩
    rintro ⟨⟩
  · have waiting := sound.publishQueued now old_mem (step store rfl).opened operation_mem target
    refine (sound.agrees now operation operation_mem).failed sound.unique (by simp [waiting]) ?_
      rfl rfl
    intro next next_mem targeted
    have same : next.id = row.id :=
      (Option.some.inj (targeted.symm.trans target)).trans old_id
    rcases mem_replace.mp next_mem with ⟨-, ne⟩ | ⟨rfl, -⟩
    · exact absurd same ne
    · rcases ended with failed | cancelled
      · rw [failed]
        trivial
      · rw [cancelled]
        trivial

theorem Sound.publish (sound : store.Sound timely) {old row : ImageRevision}
    {operation : SaveOperation} (found : store.revisions.lookup row.id = some old)
    (operation_found : store.saves.lookup operation.id = some operation)
    (target : operation.targetRevisionId = some row.id) (locked : .save operation.id ∈ held)
    (revisions : after.revisions = store.revisions.replace row)
    (saves : after.saves = store.saves.replace { operation with state := .succeeded })
    (attempts : after.attempts = store.attempts)
    (step : RevisionStep label held store after old row) (ready : row.state = .imageReady)
    (workspaces : store.workspaces.Change (HeadStep label after)
      (fun item => item.savedRevisionId = none) after.workspaces)
    (submissions : store.submissions.Change
      (fun old submission => old.saveOperationId = operation.id ∧
        SubmissionStep held old submission) (fun _ => False) after.submissions)
    (others : ∀ jobId revisionId, revisionId ≠ row.id →
      ((jobId, revisionId) ∈ workspaceJobs after.db ↔
        (jobId, revisionId) ∈ workspaceJobs store.db))
    (submitted : timely → ∀ submission ∈ after.submissions.rows,
      submission.saveOperationId = operation.id →
        submission.state = .jobCreated ∧ submission.jobId.isSome = true)
    (jobs : timely → ∀ jobId, (jobId, row.id) ∈ workspaceJobs after.db ↔
      ∃ submission ∈ after.submissions.rows, submission.saveOperationId = operation.id ∧
        submission.jobId = some jobId) :
    Step timely label held store after := by
  have old_mem := mem_of_lookup found
  have old_id : old.id = row.id := key_of_lookup found
  have operation_mem := mem_of_lookup operation_found
  have owned : old.snapshotOperationId = some operation.id :=
    sound.operation_eq old_mem operation_mem (target.trans (congrArg some old_id.symm))
  have succeeded_found : store.saves.lookup ({ operation with state := .succeeded } :
      SaveOperation).id = some operation := operation_found
  refine sound.settle succeeded_found saves (revisions ▸ .replaced found ⟨owned, step⟩) submissions
    attempts workspaces ?_ rfl (fun jobId revisionId ne => ?_) fun now => ?_
  · refine ⟨locked, rfl, .inl rfl, by rintro ⟨⟩, fun now failed => ?_⟩
    have waiting := sound.publishQueued now old_mem step.opened operation_mem
      (target.trans (congrArg some old_id.symm))
    rw [failed] at waiting
    cases waiting
  · exact others jobId revisionId fun same => ne (target.trans (congrArg some same.symm))
  · refine ⟨fun unset => ?_, fun next next_mem targeted => ?_, ?_, ?_⟩
    · have set : operation.targetRevisionId = none := unset
      rw [target] at set
      cases set
    · have same : next.id = row.id := (Option.some.inj (target.symm.trans targeted)).symm
      rw [revisions] at next_mem
      rcases mem_replace.mp next_mem with ⟨-, ne⟩ | ⟨rfl, -⟩
      · exact absurd same ne
      · rw [ready]
        trivial
    · intro submission submission_mem submission_owned
      obtain ⟨created, job⟩ := submitted now submission submission_mem submission_owned
      exact ⟨created, by simp [job]⟩
    · intro jobId revisionId targeted
      have same : revisionId = row.id := (Option.some.inj (target.symm.trans targeted)).symm
      subst same
      exact jobs now jobId

end Store

end TrainingScheduler.Workspaces
