import TrainingScheduler.Workspaces.Steps

/-!
# Safety of the workspace sessions

Every session keeps the invariants of the workspaces, whatever the others commit between its
statements.  A session relies on the rows it has locked, and on the few facts about unlocked rows
that no commit changes: what a revision is a snapshot of, which submission an operation has, and how
many attempts had begun when an attempt was current.
-/

namespace TrainingScheduler.Workspaces

open Table Script

/-- The watchdog fails only operations that are not past their capture. -/
def Label.Timely (store : Store) : Label → Prop
  | reconcile operations => ∀ operation ∈ store.saves.rows, operation.id ∈ operations →
      operation.state.capture = true
  | _ => True

def workspaceContract (timely : Prop) : Contract Store LockedRow Label where
  invariant := Store.Sound timely
  effect _ label held := Relation.ReflTransGen (Step timely label held)
  allowed label store := timely → label.Timely store

variable {timely : Prop} {label : Label} {held : Set LockedRow} {store now after : Store} {n : ℕ}

theorem Step.commits {rest : Prop} (step : Step timely label held now after) (safe : rest) :
    (workspaceContract timely).invariant after ∧
      (workspaceContract timely).effect n label held now after ∧ rest :=
  ⟨step.1, .single step, safe⟩

theorem stable (assertion : Store → Prop)
    (keeps : ∀ {before after label other}, before.Sound timely → after.Sound timely →
      Disjoint other held → Effect timely label other before after → assertion before →
      assertion after)
    (interfered : (workspaceContract timely).Interfered n held store now)
    (sound : store.Sound timely) (holds : assertion store) : assertion now := by
  have both : now.Sound timely ∧ assertion now := by
    refine interfered.stable (fun now => now.Sound timely ∧ assertion now) ?_ ⟨sound, holds⟩
    intro before after m label other invariant _ disjoint steps kept
    clear invariant
    induction steps with
    | refl => exact kept
    | tail _ step induction =>
      exact ⟨step.1, keeps induction.1 step.1 disjoint step.2 induction.2⟩
  exact both.2

variable {row revision : ImageRevision} {revisionId attemptId : UUID} {failed : Option FailedSave}
  {rewrites : List Rewrite} {timestamp : Time} {builderId : String} {attempt : BuildAttempt}
  {operation : SaveOperation}

/-- The operation exists, and this is what its failure writes. -/
def Store.Fails (store : Store) (failed : FailedSave) : Prop :=
  (∃ operation ∈ store.saves.rows, operation.id = failed.operationId) ∧
    store.failureOf failed.operationId = failed

open Store

theorem Store.fails_failureOf (member : operation ∈ store.saves.rows) :
    store.Fails (store.failureOf operation.id) :=
  ⟨⟨operation, member, rfl⟩, rfl⟩

theorem Effect.fails (sound : store.Sound timely) (after_sound : after.Sound timely)
    (effect : Effect timely label held store after) {failed : FailedSave}
    (fails : store.Fails failed) : after.Fails failed := by
  obtain ⟨⟨operation, member, named⟩, same⟩ := fails
  obtain ⟨next, next_mem, next_same, -⟩ := effect.kept_save member
  refine ⟨⟨next, next_mem, next_same.trans named⟩, ?_⟩
  rw [← same, ← named]
  simp only [failureOf, FailedSave.mk.injEq, true_and]
  cases found : store.submissionOf operation.id with
  | none =>
    have absent : after.submissionOf operation.id = none := by
      rw [submissionOf_eq_none]
      intro submission submission_mem owned
      obtain ⟨old, old_mem, -, old_owned⟩ := effect.old_submission submission_mem member owned
      exact submissionOf_eq_none.mp found old old_mem (old_owned.trans owned)
    rw [absent]
  | some submission =>
    obtain ⟨submission_mem, owned⟩ := (submissionOf_eq_some sound.unique).mp found
    obtain ⟨later, later_mem, later_same, later_owned⟩ := effect.kept_submission submission_mem
    have later_found : after.submissionOf operation.id = some later :=
      (submissionOf_eq_some after_sound.unique).mpr ⟨later_mem, later_owned.trans owned⟩
    rw [later_found, Option.map_some, Option.map_some, later_same]

/-- The revision was read while this attempt was current. -/
structure Store.Read (store : Store) (revision : ImageRevision) (attemptId : UUID) : Prop where
  current : revision.attemptId = some attemptId
  minted : attemptId ∈ store.attempts
  kept : ∃ row, store.revisions.lookup revision.id = some row ∧ revision.Kept row
  count : ∀ row, store.revisions.lookup revision.id = some row → row.attemptId = some attemptId →
    row.attemptCount = revision.attemptCount

theorem ImageRevision.Kept.trans {first second third : ImageRevision} (left : first.Kept second)
    (right : second.Kept third) : first.Kept third where
  workspaceId := right.workspaceId.trans left.workspaceId
  revisionNumber := right.revisionNumber.trans left.revisionNumber
  origin := right.origin.trans left.origin
  snapshotOperationId := right.snapshotOperationId.trans left.snapshotOperationId

theorem Effect.read (effect : Effect timely label held store after)
    (read : store.Read revision attemptId) : after.Read revision attemptId := by
  obtain ⟨row, found, kept⟩ := read.kept
  obtain ⟨next, next_found, changed⟩ := effect.revisions.lookup_eq_some found
  refine ⟨read.current, effect.attempts read.minted, ⟨next, next_found, ?_⟩, ?_⟩
  · rcases changed with rfl | step
    · exact kept
    · exact kept.trans step.kept
  · intro other other_found current
    cases next_found.symm.trans other_found
    rcases changed with rfl | step
    · exact read.count _ found current
    · rcases step.attempt with ⟨same | ended, count⟩ | ⟨fresh, set, unseen, -⟩
      · rw [count]
        exact read.count row found (same ▸ current)
      · rw [ended] at current
        cases current
      · cases set.symm.trans current
        exact absurd read.minted unseen

section

variable (interfered : (workspaceContract timely).Interfered n held store now)
  (sound : store.Sound timely)

include interfered sound

theorem revision_stable (mine : .revision revisionId ∈ held)
    (found : store.revisions.lookup revisionId = some row) :
    now.revisions.lookup revisionId = some row :=
  stable (fun store => store.revisions.lookup revisionId = some row)
    (fun _ _ disjoint effect found =>
      effect.revision found fun theirs => Set.disjoint_left.mp disjoint theirs mine)
    interfered sound found

theorem save_stable {operationId : UUID} (mine : .save operationId ∈ held)
    (found : store.saves.lookup operationId = some operation) :
    now.saves.lookup operationId = some operation :=
  stable (fun store => store.saves.lookup operationId = some operation)
    (fun _ _ disjoint effect found =>
      effect.save found fun theirs => Set.disjoint_left.mp disjoint theirs mine)
    interfered sound found

theorem submission_stable {submission : TrainingSubmission} {submissionId : UUID}
    (mine : .submission submissionId ∈ held)
    (found : store.submissions.lookup submissionId = some submission) :
    now.submissions.lookup submissionId = some submission :=
  stable (fun store => store.submissions.lookup submissionId = some submission)
    (fun _ _ disjoint effect found =>
      effect.submission found fun theirs => Set.disjoint_left.mp disjoint theirs mine)
    interfered sound found

theorem fails_stable {failed : FailedSave} (fails : store.Fails failed) : now.Fails failed :=
  stable (fun store => store.Fails failed)
    (fun before_sound after_sound _ effect fails => effect.fails before_sound after_sound fails)
    interfered sound fails

theorem read_stable (read : store.Read revision attemptId) : now.Read revision attemptId :=
  stable (fun store => store.Read revision attemptId)
    (fun _ _ _ effect read => effect.read read) interfered sound read

theorem kept_stable {old : ImageRevision} (member : old ∈ store.revisions.rows) :
    ∃ row, now.revisions.lookup old.id = some row ∧ old.Kept row := by
  refine stable (fun store => ∃ row, store.revisions.lookup old.id = some row ∧ old.Kept row) ?_
    interfered sound ⟨old, lookup_of_mem member, rfl, rfl, rfl, rfl⟩
  rintro before after label other - - - effect ⟨row, found, kept⟩
  obtain ⟨next, next_found, rfl | step⟩ := effect.revisions.lookup_eq_some found
  · exact ⟨next, next_found, kept⟩
  · exact ⟨next, next_found, kept.trans step.kept⟩

end

theorem Store.updateRevision_eq_some {f : ImageRevision → ImageRevision}
    (found : store.revisions.lookup revisionId = some row)
    (written : store.updateRevision revisionId f = some after) :
    after = { store with revisions := store.revisions.replace { f row with id := row.id } } := by
  simp only [updateRevision, found] at written
  split_ifs at written
  exact (Option.some.inj written).symm

/-- This is what fails with the revision. -/
def Store.Closes (store : Store) (row : ImageRevision) (failed : Option FailedSave) : Prop :=
  failed = row.snapshotOperationId.map store.failureOf ∧ ∀ item ∈ failed, store.Fails item

theorem Store.Closes.of_fails (closes : store.Closes row failed)
    (fails : ∀ item ∈ failed, after.Fails item) : after.Closes row failed := by
  refine ⟨?_, fails⟩
  cases owned : row.snapshotOperationId with
  | none => rw [closes.1, owned, Option.map_none, Option.map_none]
  | some operationId =>
    have item_mem : store.failureOf operationId ∈ failed := by
      rw [closes.1, owned, Option.map_some]
      rfl
    have same : after.failureOf operationId = store.failureOf operationId :=
      (fails _ item_mem).2
    rw [closes.1, owned, Option.map_some, Option.map_some, same]

/-- The rewrite of this row is an allowed one: the revision is still to be built, and either it is
afterwards or its save operation fails with it. -/
structure Rewrite.Due (rewrite : Rewrite) (label : Label) (store : Store) (row : ImageRevision) :
    Prop where
  found : store.revisions.lookup rewrite.revisionId = some row
  opened : row.Open
  kept : row.Kept (rewrite.row row)
  attempt : (rewrite.row row).attemptId = row.attemptId ∨ (rewrite.row row).attemptId = none
  count : (rewrite.row row).attemptCount = row.attemptCount
  valid : (rewrite.row row).Valid
  fenced : label.Fences row
  outcome : (rewrite.row row).Open ∧ rewrite.failed = none ∨
    ((rewrite.row row).state = .failed ∨ (rewrite.row row).state = .cancelled) ∧
      store.Closes row rewrite.failed

namespace Rewrite

variable {rewrite : Rewrite} {row : ImageRevision}

/-- The rows that the rewrite touches. -/
def touched (rewrite : Rewrite) : Set LockedRow :=
  insert (.revision rewrite.revisionId) {row | row ∈ rewrite.rows}

theorem Due.step (due : rewrite.Due label store row) (sound : store.Sound timely)
    (applied : rewrite.apply store = some after) :
    Step timely label rewrite.touched store after := by
  obtain ⟨revised, updated, rfl⟩ := Option.map_eq_some_iff.mp applied
  have revised_eq := updateRevision_eq_some due.found updated
  subst revised_eq
  have named : row.id = rewrite.revisionId := key_of_lookup due.found
  have row_found : store.revisions.lookup
      ({ rewrite.row row with id := row.id } : ImageRevision).id = some row := by
    have found := due.found
    rw [← named] at found
    exact found
  have step (after : Store) : RevisionStep label rewrite.touched store after row
      { rewrite.row row with id := row.id } :=
    { locked := named ▸ Set.mem_insert _ _
      opened := due.opened
      kept := ⟨due.kept.workspaceId, due.kept.revisionNumber, due.kept.origin,
        due.kept.snapshotOperationId⟩
      attempt := .inl ⟨due.attempt, due.count⟩
      valid := ⟨due.valid.bounded, due.valid.queued, due.valid.leased⟩
      fenced := due.fenced }
  rcases due.outcome with ⟨waits, failed⟩ | ⟨ended, failed, -⟩
  · rw [failed]
    exact sound.revise row_found rfl rfl rfl rfl (fun _ member => member) id .same (step _)
      (.inr waits)
  · cases owned : row.snapshotOperationId with
    | none =>
      rw [failed, owned]
      exact sound.revise row_found rfl rfl rfl rfl (fun _ member => member) id .same (step _)
        (.inl owned)
    | some operationId =>
      rw [owned, Option.map_some] at failed
      rw [failed]
      refine sound.close row_found owned (fun after _ => step after) ended ?_
      intro other listed
      refine Set.mem_insert_of_mem _ ?_
      simpa [Rewrite.rows, failed] using listed

theorem Due.of_found (due : rewrite.Due label store row)
    (found : after.revisions.lookup rewrite.revisionId = some row)
    (fails : ∀ item, store.Fails item → after.Fails item) : rewrite.Due label after row :=
  { due with
    found := found
    outcome := by
      rcases due.outcome with waits | ⟨ended, closes⟩
      · exact .inl waits
      · exact .inr ⟨ended, closes.of_fails fun item member => fails item (closes.2 item member)⟩ }

private theorem steps_of_due {rewrites : List Rewrite} (sound : store.Sound timely)
    (due : ∀ rewrite ∈ rewrites, ∃ row, rewrite.Due label store row)
    (distinct : (rewrites.map Rewrite.revisionId).Nodup)
    (locked : ∀ rewrite ∈ rewrites, rewrite.touched ⊆ held)
    (applied : rewrites.foldlM (fun store rewrite => rewrite.apply store) store = some after) :
    Relation.ReflTransGen (Step timely label held) store after := by
  induction rewrites generalizing store with
  | nil =>
    cases applied
    exact .refl
  | cons head rest induction =>
    obtain ⟨middle, head_applied, rest_applied⟩ := Option.bind_eq_some_iff.mp applied
    obtain ⟨row, head_due⟩ := due head List.mem_cons_self
    have step := head_due.step sound head_applied
    rw [List.map_cons, List.nodup_cons] at distinct
    refine .head (step.mono (locked head List.mem_cons_self)) (induction step.1 ?_ distinct.2
      (fun rewrite member => locked rewrite (List.mem_cons_of_mem _ member)) rest_applied)
    intro rewrite member
    obtain ⟨other, other_due⟩ := due rewrite (List.mem_cons_of_mem _ member)
    refine ⟨other, other_due.of_found (step.2.revision other_due.found ?_)
      fun item fails => step.2.fails sound step.1 fails⟩
    rintro (same | listed)
    · exact distinct.1 (LockedRow.revision.inj same ▸ List.mem_map_of_mem member)
    · obtain ⟨failed, -, row_mem⟩ := List.mem_flatMap.mp listed
      simp [FailedSave.rows] at row_mem

end Rewrite

/-- The reads of a failing snapshot: its operation and the submission of it. -/
theorem safe_failSnapshot {next : Option FailedSave → WorkspaceScript} (sound : store.Sound timely)
    (mine : .revision revision.id ∈ held) (found : store.revisions.lookup revision.id = some row)
    (kept : revision.Kept row)
    (safe : ∀ now failed, (workspaceContract timely).Interfered n held store now →
      now.Closes row failed → (next failed).Safe (workspaceContract timely) n held now) :
    (failSnapshot revision next).Safe (workspaceContract timely) n held store := by
  have row_mem := mem_of_lookup found
  unfold failSnapshot
  cases owned : row.snapshotOperationId with
  | none =>
    have other : revision.origin ≠ .snapshot := by
      intro snapshot
      have set := (sound.origin row row_mem).mp (kept.origin.trans snapshot)
      rw [owned] at set
      cases set
    rw [if_pos other]
    refine safe store none .refl ⟨by rw [owned, Option.map_none], ?_⟩
    rintro _ ⟨⟩
  | some operationId =>
    have snapshot : revision.origin = .snapshot := by
      rw [← kept.origin, sound.origin row row_mem, owned]
      rfl
    rw [if_neg (not_not.mpr snapshot)]
    intro first first_interfered
    have first_sound := first_interfered.invariant sound
    have first_found := revision_stable first_interfered sound mine found
    obtain ⟨operation, operation_mem, rfl, -⟩ :=
      first_sound.target row (mem_of_lookup first_found) operationId owned
    have operation_found := lookup_of_mem operation_mem
    simp only [← kept.snapshotOperationId, owned, Option.bind_some, operation_found]
    intro second second_interfered
    refine safe second _ (first_interfered.trans second_interfered)
      ⟨by rw [owned, Option.map_some], ?_⟩
    rintro failed ⟨⟩
    obtain ⟨later, later_mem, named⟩ := (fails_stable second_interfered first_sound
      (fails_failureOf operation_mem)).1
    rw [← show later.id = operation.id from named]
    exact fails_failureOf later_mem

theorem due_stable (interfered : (workspaceContract timely).Interfered n held store now)
    (sound : store.Sound timely) (mine : ∀ rewrite ∈ rewrites, .revision rewrite.revisionId ∈ held)
    (due : ∀ rewrite ∈ rewrites, ∃ row, rewrite.Due label store row) :
    ∀ rewrite ∈ rewrites, ∃ row, rewrite.Due label now row := by
  intro rewrite member
  obtain ⟨row, row_due⟩ := due rewrite member
  exact ⟨row, row_due.of_found
    (revision_stable interfered sound (mine rewrite member) row_due.found)
    fun item fails => fails_stable interfered sound fails⟩

theorem safe_flush {next : Bool → WorkspaceScript} (sound : store.Sound timely)
    (due : ∀ rewrite ∈ rewrites, ∃ row, rewrite.Due label store row)
    (mine : ∀ rewrite ∈ rewrites, .revision rewrite.revisionId ∈ held)
    (distinct : (rewrites.map Rewrite.revisionId).Nodup) (rest : ∀ committed now, now.Sound timely →
      (next committed).Safe (workspaceContract timely) n ∅ now) :
    (flush label rewrites next).Safe (workspaceContract timely) n held store := by
  refine safe_awaitAll
    (fun now => now.Sound timely ∧ ∀ rewrite ∈ rewrites, ∃ row, rewrite.Due label now row) ?_ ?_
    ⟨sound, due⟩
  · rintro locked before after wider interfered ⟨before_sound, before_due⟩
    exact ⟨interfered.invariant before_sound, due_stable interfered before_sound
      (fun rewrite member => wider (mine rewrite member)) before_due⟩
  · rintro locked seen wider taken ⟨seen_sound, seen_due⟩ now interfered
    have now_sound := interfered.invariant seen_sound
    refine ⟨fun _ => rest false now now_sound, fun after _ written => ?_⟩
    have now_due := due_stable interfered seen_sound
      (fun rewrite member => wider (mine rewrite member)) seen_due
    have steps := Rewrite.steps_of_due now_sound now_due distinct
      (fun rewrite member => Set.insert_subset (wider (mine rewrite member))
        fun row listed => taken row (List.mem_flatMap.mpr ⟨rewrite, member, listed⟩)) written
    have after_sound : after.Sound timely := by
      cases steps with
      | refl => exact now_sound
      | tail _ step => exact step.1
    exact ⟨after_sound, steps, rest true after after_sound⟩

theorem safe_create (body : Creation) (source : Source) (sound : store.Sound timely) :
    (create body source).Safe (workspaceContract timely) n ∅ store := by
  have commits {held : Set LockedRow} {store : Store} {origin : Origin} {sourceJobId : Option UUID}
      {sourceImageTag : Option String} (sound : store.Sound timely) (initial : origin ≠ .snapshot) :
      (body.commit origin sourceJobId sourceImageTag).Safe (workspaceContract timely) n held
        store := by
    intro now interfered
    refine ⟨fun _ => ?_, fun after _ written => ?_⟩
    · intro later _
      dsimp only
      split <;> trivial
    · unfold Creation.insert at written
      split_ifs at written
      obtain ⟨workspaces, item_inserted, written⟩ := Option.bind_eq_some_iff.mp written
      obtain ⟨revisions, row_inserted, written⟩ := Option.bind_eq_some_iff.mp written
      cases written
      refine Step.commits ?_ trivial
      exact (interfered.invariant sound).created item_inserted row_inserted rfl rfl rfl rfl rfl
        initial rfl
  refine safe_await fun first first_interfered => ?_
  intro second second_interfered
  have second_sound := second_interfered.invariant (first_interfered.invariant sound)
  dsimp only
  split
  · split_ifs <;> trivial
  · cases source with
    | upload stored =>
      cases stored with
      | error exception => trivial
      | ok _ => exact commits second_sound (by decide)
    | existingJob jobId =>
      refine safe_awaitIf (fun third interfered _ => ?_) fun third _ _ => ?_
      · split
        · trivial
        · split_ifs
          · trivial
          · exact commits (interfered.invariant second_sound) (by decide)
      · trivial

theorem safe_cancel (owner workspaceId : UUID) (sound : store.Sound timely) :
    (cancel owner workspaceId).Safe (workspaceContract timely) n ∅ store := by
  intro first first_interfered
  have first_sound := first_interfered.invariant sound
  dsimp only
  split
  · trivial
  · intro second second_interfered
    have second_sound := second_interfered.invariant first_sound
    dsimp only
    split
    · trivial
    · rename_i revision latest
      have revision_mem : revision ∈ second.revisions.rows :=
        List.mem_of_mem_filter (firstBy_mem latest)
      refine safe_awaitIf (fun third interfered matched => ?_) fun third _ _ => ?_
      · have third_sound := interfered.invariant second_sound
        obtain ⟨row, found, kept⟩ := kept_stable interfered second_sound revision_mem
        rw [found] at matched
        have opened : row.Open := by
          simpa [ImageRevision.Open] using matched
        rw [if_pos rfl]
        refine safe_failSnapshot third_sound (Set.mem_insert _ _) found kept ?_
        intro fourth failed fourth_interfered closes
        have fourth_found := revision_stable fourth_interfered third_sound
          (Set.mem_insert _ _) found
        have fourth_sound := fourth_interfered.invariant third_sound
        have valid := fourth_sound.valid row (mem_of_lookup fourth_found)
        refine safe_flush fourth_sound ?_ ?_ ?_ fun _ _ _ => trivial
        · intro rewrite member
          rw [List.mem_singleton] at member
          subst member
          exact ⟨row,
            { found := fourth_found
              opened := opened
              kept := ⟨rfl, rfl, rfl, rfl⟩
              attempt := .inl rfl
              count := rfl
              valid := ⟨valid.bounded, by rintro ⟨⟩, by rintro ⟨⟩⟩
              fenced := by rintro ⟨⟩
              outcome := .inr ⟨.inr rfl, closes⟩ }⟩
        · intro rewrite member
          rw [List.mem_singleton] at member
          subst member
          exact Set.mem_insert _ _
        · exact List.nodup_singleton _
      · rw [if_neg (by decide)]
        intro fourth _
        dsimp only
        split
        · trivial
        · split_ifs <;> trivial

section

variable (sound : store.Sound timely)

include sound

/-- A building row is due to fail with its operation, or to be queued again. -/
theorem due_of_building {rewrite : Rewrite}
    (found : store.revisions.lookup rewrite.revisionId = some row)
    (building : row.state = .building)
    (fenced : label.Fences row) (kept : row.Kept (rewrite.row row))
    (ended : (rewrite.row row).attemptId = none)
    (count : (rewrite.row row).attemptCount = row.attemptCount)
    (outcome : (rewrite.row row).state = .failed ∧ store.Closes row rewrite.failed ∨
      (rewrite.row row).state = .queued ∧ row.attemptCount < maxAttempts ∧
        rewrite.failed = none) : rewrite.Due label store row := by
  have bounded := (sound.valid row (mem_of_lookup found)).bounded
  rcases outcome with ⟨failed, closes⟩ | ⟨again, left, unfailed⟩
  · have valid : (rewrite.row row).Valid := ⟨count ▸ bounded, by simp [failed], by simp [failed]⟩
    exact ⟨found, .inr building, kept, .inr ended, count, valid, fenced, .inr ⟨.inl failed, closes⟩⟩
  · have valid : (rewrite.row row).Valid :=
      ⟨count ▸ bounded, fun _ => count ▸ left, by simp [again]⟩
    exact ⟨found, .inr building, kept, .inr ended, count, valid, fenced,
      .inl ⟨.inl again, unfailed⟩⟩

variable {next : ℕ → WorkspaceScript}

theorem safe_expireLoop {rows : List ImageRevision}
    (due : ∀ rewrite ∈ rewrites, ∃ row, rewrite.Due .other store row)
    (mine : ∀ rewrite ∈ rewrites, .revision rewrite.revisionId ∈ held)
    (reads : ∀ revision ∈ rows, ∃ attemptId, store.Read revision attemptId)
    (distinct : (rewrites.map Rewrite.revisionId ++ rows.map ImageRevision.id).Nodup)
    (rest : ∀ count now, now.Sound timely → (next count).Safe (workspaceContract timely) n ∅ now) :
    (expireLoop timestamp rewrites next rows).Safe (workspaceContract timely) n held store := by
  induction rows generalizing rewrites held store with
  | nil =>
    rw [List.map_nil, List.append_nil] at distinct
    exact safe_flush sound due mine distinct fun _ now now_sound => rest _ now now_sound
  | cons revision rows induction =>
    have later_reads {now : Store}
        (interfered : (workspaceContract timely).Interfered n held store now) :
        ∀ revision ∈ rows, ∃ attemptId, now.Read revision attemptId := by
      intro other member
      obtain ⟨attemptId, read⟩ := reads other (List.mem_cons_of_mem _ member)
      exact ⟨attemptId, read_stable interfered sound read⟩
    refine safe_awaitIf (fun now interfered matched => ?_) fun now interfered _ => ?_
    · have now_sound := interfered.invariant sound
      have now_due := due_stable interfered sound mine due
      obtain ⟨attemptId, read⟩ := reads revision List.mem_cons_self
      have now_read := read_stable interfered sound read
      obtain ⟨row, found, kept⟩ := now_read.kept
      rw [found, Option.any_some, expired, Bool.and_eq_true, Bool.and_eq_true, beq_iff_eq,
        beq_iff_eq, now_read.current] at matched
      have count := now_read.count row found matched.1.2
      have wider : ∀ rewrite ∈ rewrites,
          LockedRow.revision rewrite.revisionId ∈ insert (.revision revision.id) held :=
        fun rewrite member => Set.mem_insert_of_mem _ (mine rewrite member)
      have continued {later : Store} {failed : Option FailedSave}
          (moved : (workspaceContract timely).Interfered n (insert (.revision revision.id) held)
            now later)
          (outcome : (expiredRow timestamp revision row).state = .failed ∧ later.Closes row failed ∨
            (expiredRow timestamp revision row).state = .queued ∧
              row.attemptCount < maxAttempts ∧ failed = none) :
          (expireLoop timestamp (rewrites ++ [expiryOf timestamp revision failed]) next
            rows).Safe (workspaceContract timely) n (insert (.revision revision.id) held)
              later := by
        have later_sound := moved.invariant now_sound
        have later_found := revision_stable moved now_sound (Set.mem_insert _ _) found
        refine induction later_sound ?_ ?_ ?_ ?_
        · intro rewrite member
          rcases List.mem_append.mp member with earlier | new
          · exact due_stable moved now_sound wider now_due rewrite earlier
          · rw [List.mem_singleton.mp new]
            exact ⟨row, due_of_building later_sound later_found matched.1.1 (by rintro ⟨⟩)
              ⟨rfl, rfl, rfl, rfl⟩ rfl rfl outcome⟩
        · intro rewrite member
          rcases List.mem_append.mp member with earlier | new
          · exact wider rewrite earlier
          · rw [List.mem_singleton.mp new]
            exact Set.mem_insert _ _
        · intro other member
          obtain ⟨attemptId, read⟩ := later_reads interfered other member
          exact ⟨attemptId, read_stable moved now_sound read⟩
        · rw [List.map_append, List.append_assoc]
          exact distinct
      rw [Bool.not_true, if_neg Bool.false_ne_true]
      split_ifs with terminal
      · refine safe_failSnapshot now_sound (Set.mem_insert _ _) found kept ?_
        exact fun later failed moved closes => continued moved (.inl ⟨if_pos terminal, closes⟩)
      · exact continued .refl (.inr ⟨if_neg terminal, count ▸ not_le.mp terminal, rfl⟩)
    · exact induction (interfered.invariant sound) (due_stable interfered sound mine due) mine
        (later_reads interfered) (distinct.sublist (by simp))

theorem safe_expire
    (rest : ∀ count now, now.Sound timely → (next count).Safe (workspaceContract timely) n ∅ now) :
    (expire next).Safe (workspaceContract timely) n ∅ store := by
  intro first first_interfered second second_interfered
  have second_sound := second_interfered.invariant (first_interfered.invariant sound)
  refine safe_expireLoop second_sound (by simp) (by simp) ?_ ?_ rest
  · intro revision member
    obtain ⟨revision_mem, due⟩ := List.mem_filter.mp member
    rw [Bool.and_eq_true, beq_iff_eq] at due
    obtain ⟨attemptId, current⟩ :=
      Option.isSome_iff_exists.mp ((second_sound.valid revision revision_mem).leased due.1).2.1
    have found := lookup_of_mem revision_mem
    refine ⟨attemptId, current, second_sound.minted revision revision_mem attemptId current,
      ⟨revision, found, rfl, rfl, rfl, rfl⟩, fun row row_found _ => ?_⟩
    cases found.symm.trans row_found
    rfl
  · rw [List.map_nil, List.nil_append]
    exact second.revisions.nodup.sublist (List.filter_sublist.map _)

theorem Store.step_beginAttempt (found : store.revisions.lookup revisionId = some row)
    (queued : row.state = .queued) (mine : .revision revisionId ∈ held)
    (written : store.beginAttempt timestamp builderId attemptId revisionId = some after) :
    Step timely .other held store after := by
  unfold beginAttempt at written
  split_ifs at written with used
  obtain ⟨revised, updated, rfl⟩ := Option.map_eq_some_iff.mp written
  have revised_eq := updateRevision_eq_some found updated
  subst revised_eq
  have named : row.id = revisionId := key_of_lookup found
  subst named
  have valid := sound.valid row (mem_of_lookup found)
  have row_found : store.revisions.lookup ({ claimedRow timestamp builderId attemptId row with
      id := row.id } : ImageRevision).id = some row := found
  refine sound.revise row_found rfl rfl rfl rfl (fun _ member => List.mem_append_left _ member) ?_
    .same ?_ (.inr (.inr rfl))
  · intro nodup
    refine List.nodup_append.mpr ⟨nodup, List.nodup_singleton _, ?_⟩
    rintro earlier member other new rfl
    exact used (List.mem_singleton.mp new ▸ member)
  · exact
      { locked := mine
        opened := .inl queued
        kept := ⟨rfl, rfl, rfl, rfl⟩
        attempt := .inr ⟨attemptId, rfl, used, List.mem_append_right _ (List.mem_singleton_self _)⟩
        valid := ⟨valid.queued queued, by rintro ⟨⟩, fun _ => ⟨rfl, rfl, rfl⟩⟩
        fenced := by rintro ⟨⟩ }

theorem safe_claimLoop {attempts : List UUID} :
    (claimLoop timestamp builderId attempts).Safe (workspaceContract timely) n ∅ store := by
  induction attempts generalizing store with
  | nil => trivial
  | cons attemptId attempts induction =>
    intro first first_interfered
    have first_sound := first_interfered.invariant sound
    refine ⟨fun _ => trivial, fun picked listed => ?_⟩
    obtain ⟨row, _, rfl⟩ := List.mem_map.mp listed
    dsimp only
    refine safe_awaitIf (fun second interfered matched => ?_) fun second interfered _ => ?_
    · have second_sound := interfered.invariant first_sound
      rw [if_pos rfl]
      intro now moved
      refine ⟨fun _ => trivial, fun after _ written => ?_⟩
      have now_sound := moved.invariant second_sound
      obtain ⟨current, found, waiting⟩ := (Option.any_eq_true _ _).mp matched
      have now_found := revision_stable moved second_sound (Set.mem_insert _ _) found
      refine Step.commits ?_ trivial
      exact step_beginAttempt now_sound now_found (by simpa using waiting)
        (Set.mem_insert _ _) written
    · rw [if_neg Bool.false_ne_true]
      intro now moved
      have now_sound := moved.invariant (interfered.invariant first_sound)
      refine ⟨by rintro ⟨⟩, ?_⟩
      rintro after - ⟨⟩
      exact ⟨now_sound, .refl, induction now_sound⟩

end

theorem safe_fence {allowReady : Bool} {next : ImageRevision → WorkspaceScript}
    (sound : store.Sound timely)
    (safe : ∀ now row, now.Sound timely → now.revisions.lookup attempt.revisionId = some row →
      attempt.owns row = true →
      row.state = .building ∨ row.state = .imageReady ∧ allowReady = true →
      (next row).Safe (workspaceContract timely) n {.revision attempt.revisionId} now) :
    (fence attempt allowReady next).Safe (workspaceContract timely) n ∅ store := by
  refine safe_awaitIf (fun now interfered matched => ?_) fun now _ _ => trivial
  have now_sound := interfered.invariant sound
  obtain ⟨row, found, owns⟩ := (Option.any_eq_true _ _).mp matched
  rw [if_pos rfl, found]
  dsimp only
  rw [LawfulSingleton.insert_empty_eq]
  split_ifs with building ready
  · split
    · trivial
    · split_ifs
      · trivial
      · exact safe now row now_sound found owns (.inl building)
  · exact safe now row now_sound found owns (.inr ready)
  · trivial

theorem BuildAttempt.fences {label : Label} (owns : attempt.owns row = true)
    (named : row.id = attempt.revisionId)
    (carries : label.Carries attempt.revisionId attempt.builderId attempt.attemptId) :
    label.Fences row := by
  simp only [BuildAttempt.owns, Bool.and_eq_true, beq_iff_eq] at owns
  intro _
  exact ⟨attempt.builderId, attempt.attemptId, owns.1, owns.2, named ▸ carries⟩

theorem safe_failure (attempt : BuildAttempt) (failureType : FailureType)
    (sound : store.Sound timely) :
    (failure attempt failureType).Safe (workspaceContract timely) n ∅ store := by
  refine safe_fence sound fun first row first_sound found owns state => ?_
  have named : row.id = attempt.revisionId := key_of_lookup found
  have building : row.state = .building := by
    rcases state with building | ⟨-, allowed⟩
    · exact building
    · cases allowed
  have fenced : (Label.failure attempt).Fences row := BuildAttempt.fences owns named rfl
  rw [← named] at found ⊢
  intro second interfered
  have second_sound := interfered.invariant first_sound
  have second_found := revision_stable interfered first_sound (Set.mem_singleton _) found
  have ends {now : Store} {terminal : Bool} {failed : Option FailedSave}
      (now_sound : now.Sound timely) (now_found : now.revisions.lookup row.id = some row)
      (outcome : (failedRow second.clock failureType terminal row).state = .failed ∧
          now.Closes row failed ∨
        (failedRow second.clock failureType terminal row).state = .queued ∧
          row.attemptCount < maxAttempts ∧ failed = none) :
      (flush (.failure attempt)
        [⟨row.id, failedRow second.clock failureType terminal, failed, "PUBLISH_FAILED",
          "Could not publish the workspace image."⟩] fun _ => .done .ok).Safe
        (workspaceContract timely) n {.revision row.id} now := by
    refine safe_flush now_sound ?_ ?_ (List.nodup_singleton _) fun _ _ _ => trivial
    · intro rewrite member
      rw [List.mem_singleton] at member
      subst member
      exact ⟨row, due_of_building now_sound now_found building fenced ⟨rfl, rfl, rfl, rfl⟩ rfl rfl
        outcome⟩
    · intro rewrite member
      rw [List.mem_singleton] at member
      subst member
      exact Set.mem_singleton _
  dsimp only
  cases terminal : failureType == .user || decide (maxAttempts ≤ row.attemptCount) with
  | true =>
    rw [if_pos rfl]
    refine safe_failSnapshot second_sound (Set.mem_singleton _) second_found
      ⟨rfl, rfl, rfl, rfl⟩ fun third failed moved closes => ?_
    exact ends (moved.invariant second_sound)
      (revision_stable moved second_sound (Set.mem_singleton _) second_found)
      (.inl ⟨rfl, closes⟩)
  | false =>
    rw [if_neg Bool.false_ne_true]
    rw [Bool.or_eq_false_iff, decide_eq_false_iff_not, not_le] at terminal
    exact ends second_sound second_found (.inr ⟨rfl, terminal.2, rfl⟩)

/-- The heartbeat may renew this lease. -/
def Store.Renews (store : Store) (builderId : String) (active : List (UUID × UUID))
    (item : UUID × UUID) : Prop :=
  item ∈ active ∧ ∃ row, store.revisions.lookup item.1 = some row ∧ row.state = .building ∧
    row.builderId = some builderId ∧ row.attemptId = some item.2

variable {active : List (UUID × UUID)} {item : UUID × UUID}

theorem Store.Renews.step (renews : store.Renews builderId active item) (sound : store.Sound timely)
    (written : store.updateRevision item.1 (renewedRow timestamp) = some after) :
    Step timely (.heartbeat builderId active) {.revision item.1} store after ∧
      ∀ other, store.Renews builderId active other → after.Renews builderId active other := by
  obtain ⟨revisionId, attemptId⟩ := item
  obtain ⟨listed, row, found, building, builder, attempt⟩ := renews
  have after_eq := updateRevision_eq_some found written
  subst after_eq
  have named : row.id = revisionId := key_of_lookup found
  subst named
  have valid := sound.valid row (mem_of_lookup found)
  have row_found : store.revisions.lookup ({ renewedRow timestamp row with
      id := row.id } : ImageRevision).id = some row := found
  constructor
  · refine sound.revise row_found rfl rfl rfl rfl (fun _ member => member) id .same ?_
      (.inr (.inr building))
    exact
      { locked := Set.mem_singleton _
        opened := .inr building
        kept := ⟨rfl, rfl, rfl, rfl⟩
        attempt := .inl ⟨.inl rfl, rfl⟩
        valid := ⟨valid.bounded, valid.queued, fun leased =>
          ⟨(valid.leased leased).1, (valid.leased leased).2.1, rfl⟩⟩
        fenced := fun _ => ⟨builderId, attemptId, builder, attempt, rfl, listed⟩ }
  · rintro ⟨otherId, otherAttempt⟩ ⟨other_listed, other, other_found, fields⟩
    refine ⟨other_listed, ?_⟩
    by_cases same : otherId = row.id
    · subst same
      cases found.symm.trans other_found
      exact ⟨_, lookup_replace_self row_found, fields⟩
    · have ne : otherId ≠ ({ renewedRow timestamp row with id := row.id } : ImageRevision).id :=
        same
      exact ⟨other, (lookup_replace_ne ne).trans other_found, fields⟩

theorem renews_stable (interfered : (workspaceContract timely).Interfered n held store now)
    (sound : store.Sound timely) (mine : .revision item.1 ∈ held)
    (renews : store.Renews builderId active item) : now.Renews builderId active item := by
  obtain ⟨listed, row, found, fields⟩ := renews
  exact ⟨listed, row, revision_stable interfered sound mine found, fields⟩

private theorem steps_of_renews {renewed : List (UUID × UUID)} (sound : store.Sound timely)
    (renews : ∀ item ∈ renewed, store.Renews builderId active item)
    (mine : ∀ item ∈ renewed, .revision item.1 ∈ held) (written : renewed.foldlM
      (fun store item => store.updateRevision item.1 (renewedRow timestamp)) store = some after) :
    after.Sound timely ∧
      Relation.ReflTransGen (Step timely (.heartbeat builderId active) held) store after := by
  induction renewed generalizing store with
  | nil =>
    cases written
    exact ⟨sound, .refl⟩
  | cons item rest induction =>
    obtain ⟨middle, updated, rest_written⟩ := Option.bind_eq_some_iff.mp written
    obtain ⟨step, others⟩ := (renews item List.mem_cons_self).step sound updated
    obtain ⟨after_sound, steps⟩ := induction step.1
      (fun other member => others other (renews other (List.mem_cons_of_mem _ member)))
      (fun other member => mine other (List.mem_cons_of_mem _ member)) rest_written
    have subset : {LockedRow.revision item.1} ⊆ held :=
      Set.singleton_subset_iff.mpr (mine item List.mem_cons_self)
    exact ⟨after_sound, .head (step.mono subset) steps⟩

theorem safe_heartbeatLoop {renewed cancelled rest : List (UUID × UUID)}
    (sound : store.Sound timely) (listed : rest ⊆ active)
    (renews : ∀ item ∈ renewed, store.Renews builderId active item)
    (mine : ∀ item ∈ renewed, .revision item.1 ∈ held) :
    (heartbeatLoop timestamp builderId active renewed cancelled rest).Safe
      (workspaceContract timely) n held store := by
  induction rest generalizing held store renewed cancelled with
  | nil =>
    intro now interfered
    refine ⟨fun _ => trivial, fun after _ written => ?_⟩
    obtain ⟨after_sound, steps⟩ := steps_of_renews (interfered.invariant sound)
      (fun item member => renews_stable interfered sound (mine item member) (renews item member))
      mine written
    exact ⟨after_sound, steps, trivial⟩
  | cons item rest induction =>
    obtain ⟨revisionId, attemptId⟩ := item
    have rest_listed := (List.cons_subset.mp listed).2
    refine safe_awaitIf (fun now interfered matched => ?_) fun now interfered _ => ?_
    · have now_sound := interfered.invariant sound
      obtain ⟨row, found, live⟩ := (Option.any_eq_true _ _).mp matched
      simp only [renewable, BuildAttempt.owns, Bool.and_eq_true, beq_iff_eq] at live
      rw [if_pos rfl]
      refine induction now_sound rest_listed (fun item member => ?_) fun item member => ?_
      · rcases List.mem_append.mp member with earlier | new
        · exact renews_stable interfered sound (mine item earlier) (renews item earlier)
        · rw [List.mem_singleton.mp new]
          exact ⟨listed List.mem_cons_self, row, found, live.1.1, live.1.2⟩
      · rcases List.mem_append.mp member with earlier | new
        · exact Set.mem_insert_of_mem _ (mine item earlier)
        · rw [List.mem_singleton.mp new]
          exact Set.mem_insert _ _
    · exact induction (interfered.invariant sound) rest_listed
        (fun item member => renews_stable interfered sound (mine item member) (renews item member))
        mine

end TrainingScheduler.Workspaces
