import TrainingScheduler.Workspaces.Heads

/-!
# Repeated snapshot receipts

A Worker reports the hash and size of a snapshot with `complete`, which queues the revision of the
operation and moves the operation on.  A second report finds an operation that is no longer being
captured, and is refused whatever has become of the first.
-/

namespace TrainingScheduler.Workspaces

open Workspaces.Request

/-- A receipt was accepted: it is recorded with the revision that was queued for it. -/
structure SaveOperation.Accepted (operation : SaveOperation) (sha256 : String) (size : ℕ)
    (revisionId : UUID) : Prop where
  sha256 : operation.artifactSha256 = some sha256
  size : operation.artifactSize = some size
  target : operation.targetRevisionId = some revisionId

/-- The Worker of the callback holds the live assignment of the operation. -/
def Store.Holds (store : Store) (body : SnapshotFence) : Prop :=
  ∃ operation ∈ store.saves.rows, operation.id = body.operationId ∧
    (operation.assignmentId.bind store.db.assignments.lookup).any
      (body.live store.clock operation) = true

section

variable {body : SnapshotFence} {store : Store} {operation : SaveOperation}

/-- A callback without interruption: it is refused, or goes on with the operation it names. -/
theorem run_fencedSave (next : SaveOperation → WorkspaceScript)
    (member : operation ∈ store.saves.rows) (named : body.operationId = operation.id) :
    (fencedSave body next).run store = (next operation).run store ∧ store.Holds body ∨
      (fencedSave body next).run store = (.rejected ⟨409, "Stale assignment"⟩, store) ∧
        ¬store.Holds body := by
  have found : store.saves.lookup body.operationId = some operation := by
    rw [named]
    exact Table.lookup_of_mem member
  unfold fencedSave
  simp only [Script.run_awaitIf, found, Script.run]
  split_ifs with live
  · exact .inl ⟨rfl, operation, member, named.symm, live⟩
  · refine .inr ⟨rfl, ?_⟩
    rintro ⟨other, other_mem, other_named, other_live⟩
    rw [store.saves.eq_of_key_eq other_mem member (other_named.trans named)] at other_live
    exact live other_live

/-- An operation that is past its capture takes no receipt. -/
theorem run_complete_of_captured (sha256 : String) (size : ℕ) (revisionId : UUID)
    (member : operation ∈ store.saves.rows) (named : body.operationId = operation.id)
    (captured : operation.state.capture = false) :
    ∃ exception, (complete body sha256 size revisionId).run store =
      (.rejected exception, store) := by
  simp only [SaveState.capture, Bool.or_eq_false_iff, beq_eq_false_iff_ne] at captured
  unfold complete
  split_ifs
  · exact ⟨_, rfl⟩
  · exact ⟨_, rfl⟩
  · rcases run_fencedSave _ member named with ⟨ran, -⟩ | ⟨ran, -⟩
    · rw [ran, if_pos ⟨captured.1.2, captured.2⟩]
      exact ⟨_, rfl⟩
    · exact ⟨_, ran⟩

end

private theorem accepted_stays {digest : EditorDigest} {db : Db} {clock : Time}
    (unused : workspaceJobs db = []) {pool later : WorkspacePool}
    (run : Interleaving (script digest) (fun _ _ => True)
      { store := .initial db clock } pool)
    (onward : Interleaving (script digest) (fun _ _ => True) pool later)
    {operation : SaveOperation} (member : operation ∈ pool.store.saves.rows) {revisionId : UUID}
    (target : operation.targetRevisionId = some revisionId) :
    later.store.Sound False ∧ ∃ next ∈ later.store.saves.rows, next.id = operation.id ∧
      next.targetRevisionId = some revisionId := by
  have embed (label : Label) (store : Store) (_ : True) (now : False) : label.Timely store :=
    now.elim
  have verified := verified_of_run unused embed run
  refine stays embed verified onward (fun store => store.Sound False ∧ ∃ next ∈ store.saves.rows,
    next.id = operation.id ∧ next.targetRevisionId = some revisionId) ?_
    ⟨verified.invariant, operation, member, rfl, target⟩
  intro label held before after _ _ steps holds
  induction steps with
  | refl => exact holds
  | tail _ step induction =>
    obtain ⟨-, next, next_mem, same, next_target⟩ := induction
    obtain ⟨last, last_mem, last_same, -, kept⟩ := step.2.kept_save next_mem
    exact ⟨step.1, last, last_mem, last_same.trans same, kept revisionId next_target⟩

/-- An accepted receipt has one revision for good, and neither a repetition nor the failure report
that follows it changes anything.  But the repetition is refused, so that it is answered as the
first one was only where no Worker is left that may repeat it. -/
theorem receipt_repeatable_iff (digest : EditorDigest) (db : Db) (clock : Time)
    (unused : workspaceJobs db = []) {pool later : WorkspacePool}
    (run : Interleaving (script digest) (fun _ _ => True)
      { store := .initial db clock } pool)
    (onward : Interleaving (script digest) (fun _ _ => True) pool later)
    {operation : SaveOperation} {sha256 : String} {size : ℕ} {revisionId : UUID}
    (member : operation ∈ pool.store.saves.rows)
    (accepted : operation.Accepted sha256 size revisionId)
    {body : SnapshotFence} (named : body.operationId = operation.id) :
    (∀ row ∈ later.store.revisions.rows,
      row.snapshotOperationId = some operation.id ↔ row.id = revisionId) ∧
      (∀ newId, ∃ exception, (complete body sha256 size newId).run later.store =
        (.rejected exception, later.store)) ∧
      (∀ code, ((fail body code).run later.store).2 = later.store) ∧
      ((∀ newId, later.store.Holds body →
        ((complete body sha256 size newId).run later.store).1 = .target revisionId ∧
          ((complete body sha256 size newId).run later.store).2.revisions =
            later.store.revisions) ↔ ¬later.store.Holds body) := by
  obtain ⟨sound, next, next_mem, same, target⟩ :=
    accepted_stays unused run onward member accepted.target
  have next_named : body.operationId = next.id := named.trans same.symm
  have captured : next.state.capture = false := by
    by_contra capturing
    rw [sound.capture next next_mem (by simpa using capturing)] at target
    cases target
  have refused (newId : UUID) :=
    run_complete_of_captured sha256 size newId next_mem next_named captured
  refine ⟨fun row row_mem => ⟨fun snapshot => ?_, fun row_named => ?_⟩, refused,
    fun code => ?_, fun repeats holds => ?_, fun gone newId holds => absurd holds gone⟩
  · obtain ⟨other, other_mem, other_same, other_target⟩ := sound.target row row_mem _ snapshot
    rw [later.store.saves.eq_of_key_eq other_mem next_mem (other_same.trans same.symm),
      target] at other_target
    exact (Option.some.inj other_target).symm
  · obtain ⟨source, source_mem, source_named, snapshot⟩ :=
      sound.source next next_mem revisionId target
    rw [later.store.revisions.eq_of_key_eq row_mem source_mem (row_named.trans source_named.symm),
      snapshot, same]
  · unfold fail
    rcases run_fencedSave _ next_mem next_named with ⟨ran, -⟩ | ⟨ran, -⟩
    · rw [ran, captured]
      rfl
    · rw [ran]
  · obtain ⟨exception, ran⟩ := refused 0
    have answered := (repeats 0 holds).1
    rw [ran] at answered
    cases answered

namespace Deployment

/-- The receipt of the session in workspace 60 is accepted. -/
def receipted : List (Choice Request) := opened ++ saved 4 1 62

/-- What is seen of the receipt: the reply to it, the record, whether its Worker is still there, and
how a repetition is answered. -/
structure ReceiptView where
  reply : Option Reply
  recorded : Option (Option String × Option ℕ × Option UUID)
  held : Bool
  repeated : Reply
  deriving DecidableEq

def receiptView (pool : WorkspacePool) : ReceiptView where
  reply := pool.replies 6
  recorded := (pool.store.saves.lookup 41).map fun operation =>
    (operation.artifactSha256, operation.artifactSize, operation.targetRevisionId)
  held := pool.store.saves.rows.any fun operation =>
    operation.id == (snapshotFence 1).operationId &&
      (operation.assignmentId.bind pool.store.db.assignments.lookup).any
        ((snapshotFence 1).live pool.store.clock operation)
  repeated := ((complete (snapshotFence 1) sha256 1 63).run pool.store).1

/-- The receipt is accepted, its Worker is still there, and it is refused when it is repeated. -/
theorem exists_receipted :
    ∃ pool, Interleaving (script digest) (fun _ _ => True) opening pool ∧
      pool.replies 6 = some (.target 62) ∧
      (∃ operation ∈ pool.store.saves.rows, operation.id = 41 ∧
        operation.Accepted sha256 1 62) ∧
      pool.store.Holds (snapshotFence 1) ∧
      ((complete (snapshotFence 1) sha256 1 63).run pool.store).1 =
        .rejected ⟨409, "Save is not uploadable"⟩ := by
  have outcome : (opening.performAll (script digest) (fun _ _ => true) receipted).map
      receiptView = some ⟨some (.target 62), some (some sha256, some 1, some 62), true,
        .rejected ⟨409, "Save is not uploadable"⟩⟩ := by
    decide +kernel
  obtain ⟨pool, reached, view⟩ := Option.map_eq_some_iff.mp outcome
  simp only [receiptView, ReceiptView.mk.injEq] at view
  obtain ⟨reply, recorded, held, repeated⟩ := view
  obtain ⟨operation, found, columns⟩ := Option.map_eq_some_iff.mp recorded
  simp only [Prod.mk.injEq] at columns
  obtain ⟨holder, holder_mem, live⟩ := List.any_eq_true.mp held
  rw [Bool.and_eq_true, beq_iff_eq] at live
  exact ⟨pool, (interleaving_of_performAll reached).mono fun _ _ _ => trivial, reply,
    ⟨operation, Table.mem_of_lookup found, Table.key_of_lookup found,
      columns.1, columns.2.1, columns.2.2⟩, ⟨holder, holder_mem, live.1, live.2⟩, repeated⟩

/-- The receipt keeps its one revision, and no repetition of it changes anything. -/
theorem receipt_kept :
    ∃ pool, Interleaving (script digest) (fun _ _ => True) opening pool ∧
      pool.replies 6 = some (.target 62) ∧
      (∀ row ∈ pool.store.revisions.rows, row.snapshotOperationId = some 41 ↔ row.id = 62) ∧
      ∀ newId, ((complete (snapshotFence 1) sha256 1 newId).run pool.store).2 = pool.store := by
  obtain ⟨pool, run, reply, ⟨operation, member, named, accepted⟩, -, -⟩ := exists_receipted
  have fenced : (snapshotFence 1).operationId = operation.id := named.symm
  obtain ⟨revision, refused, -⟩ := receipt_repeatable_iff digest _ 0 (by decide +kernel) run .start
    member accepted fenced
  rw [named] at revision
  refine ⟨pool, run, reply, revision, fun newId => ?_⟩
  obtain ⟨exception, ran⟩ := refused newId
  rw [ran]

/-- The response to an accepted receipt is lost, and its repetition is refused. -/
theorem repeated_receipt_refused :
    ∃ pool, Interleaving (script digest) (fun _ _ => True) opening pool ∧
      pool.replies 6 = some (.target 62) ∧ pool.store.Holds (snapshotFence 1) ∧
      ((complete (snapshotFence 1) sha256 1 63).run pool.store).1 =
        .rejected ⟨409, "Save is not uploadable"⟩ := by
  obtain ⟨pool, run, reply, -, holds, repeated⟩ := exists_receipted
  exact ⟨pool, run, reply, holds, repeated⟩

end Deployment

end TrainingScheduler.Workspaces
