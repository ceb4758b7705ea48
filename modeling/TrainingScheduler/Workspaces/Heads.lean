import TrainingScheduler.Scheduler.Isolation
import TrainingScheduler.Workspaces.Attempts

/-!
# Heads of workspaces

A ready callback moves the head of the workspace to its snapshot without a look at the revision that
is the head.  The number of the head therefore grows as long as snapshots are published in the order
of their numbers, and falls when an older snapshot is published last.
-/

namespace TrainingScheduler.Workspaces

open Workspaces.Request

variable {timely : Prop} {label : Label} {held : Set LockedRow} {store before after : Store}
  {workspaceId : UUID} {number : ℕ}

/-- The head of the workspace is a revision with this number. -/
def Store.Head (store : Store) (workspaceId : UUID) (number : ℕ) : Prop :=
  ∃ item ∈ store.workspaces.rows, item.id = workspaceId ∧
    ∃ row ∈ store.revisions.rows, item.savedRevisionId = some row.id ∧ row.revisionNumber = number

/-- A commit that moves the head of a workspace publishes its newest ready revision. -/
def Label.Newest (store : Store) : Label → Prop
  | ready attempt true => ∀ row ∈ store.revisions.rows, row.id = attempt.revisionId →
      ∀ other ∈ store.revisions.rows, other.workspaceId = row.workspaceId →
        other.state = .imageReady → other.revisionNumber ≤ row.revisionNumber
  | _ => True

instance (store : Store) (label : Label) : Decidable (label.Newest store) :=
  match label with
  | .ready attempt true => inferInstanceAs (Decidable (∀ row ∈ store.revisions.rows,
      row.id = attempt.revisionId → ∀ other ∈ store.revisions.rows,
        other.workspaceId = row.workspaceId → other.state = .imageReady →
          other.revisionNumber ≤ row.revisionNumber))
  | .ready _ false | .failure _ | .heartbeat _ _ | .reconcile _ | .other => .isTrue trivial

/-- The head is at least this far, and so is the revision that the commit may move it to. -/
structure Store.Floor (store : Store) (label : Label) (workspaceId : UUID) (number : ℕ) : Prop where
  head : ∃ later, number ≤ later ∧ store.Head workspaceId later
  next : ∀ attempt, label = .ready attempt true → ∀ row ∈ store.revisions.rows,
    row.id = attempt.revisionId → row.workspaceId = workspaceId → number ≤ row.revisionNumber

theorem Store.Sound.ready_head (sound : store.Sound timely) {item : InteractiveWorkspace}
    (item_mem : item ∈ store.workspaces.rows) {row : ImageRevision}
    (row_mem : row ∈ store.revisions.rows) (saved : item.savedRevisionId = some row.id) :
    row.workspaceId = item.id ∧ row.state = .imageReady := by
  obtain ⟨other, other_mem, same, owned, ready⟩ := sound.head item item_mem row.id saved
  cases store.revisions.eq_of_key_eq other_mem row_mem same
  exact ⟨owned, ready⟩

theorem Store.Head.floor (head : store.Head workspaceId number) (sound : store.Sound timely)
    (newest : label.Newest store) : store.Floor label workspaceId number where
  head := ⟨number, le_rfl, head⟩
  next := by
    rintro attempt rfl row row_mem named owned
    obtain ⟨item, item_mem, rfl, current, current_mem, saved, rfl⟩ := head
    obtain ⟨here, ready⟩ := sound.ready_head item_mem current_mem saved
    exact newest row row_mem named current current_mem (here.trans owned.symm) ready

theorem Store.Floor.step (floor : before.Floor label workspaceId number)
    (step : Step timely label held before after) : after.Floor label workspaceId number := by
  have next : ∀ attempt, label = .ready attempt true → ∀ row ∈ after.revisions.rows,
      row.id = attempt.revisionId → row.workspaceId = workspaceId →
        number ≤ row.revisionNumber := by
    rintro attempt labelled row row_mem named owned
    rcases step.2.revisions.exists_before row_mem with
      same | ⟨new, -⟩ | ⟨old, old_mem, old_named, rewritten⟩
    · exact floor.next attempt labelled row same named owned
    · have requested := new.requested
      rw [labelled] at requested
      cases requested
    · rw [rewritten.kept.revisionNumber]
      exact floor.next attempt labelled old old_mem (old_named.trans named)
        (rewritten.kept.workspaceId ▸ owned)
  refine ⟨?_, next⟩
  obtain ⟨later, reached, item, item_mem, named, row, row_mem, saved, rfl⟩ := floor.head
  obtain ⟨row_after, row_after_mem, row_named, kept⟩ := step.2.kept_revision row_mem
  obtain ⟨item_after, item_after_mem, item_named, moved⟩ := step.2.workspaces.exists_after item_mem
  have stayed (same : item_after.savedRevisionId = item.savedRevisionId) :
      ∃ later, number ≤ later ∧ after.Head workspaceId later :=
    ⟨row.revisionNumber, reached, item_after, item_after_mem, item_named.trans named, row_after,
      row_after_mem, by rw [same, saved, row_named], kept.revisionNumber⟩
  rcases moved with rfl | same | ⟨attempt, labelled, head, ready, ready_mem, ready_named, owned, -⟩
  · exact stayed rfl
  · exact stayed same
  · exact ⟨ready.revisionNumber,
      next attempt labelled ready ready_mem ready_named (owned.trans (item_named.trans named)),
      item_after, item_after_mem, item_named.trans named, ready, ready_mem,
      by rw [head, ready_named], rfl⟩

/-- In every interleaving, from a point on at which every commit that moves a head publishes the
newest ready revision of its workspace, the number of a head never falls. -/
theorem workspace_head_monotone (digest : EditorDigest) (db : Db) (clock : Time)
    (unused : workspaceJobs db = []) {pool later : WorkspacePool}
    (run : Interleaving (script digest) (fun _ _ => True) { store := .initial db clock } pool)
    (onward : Interleaving (script digest) (fun label store => label.Newest store) pool later)
    (head : pool.store.Head workspaceId number) :
    ∃ next, number ≤ next ∧ later.store.Head workspaceId next := by
  have verified : pool.Verified (workspaceContract False) :=
    verified_of_run unused (fun _ _ _ => False.elim) run
  refine stays (fun _ _ _ => False.elim) verified onward
    (fun store => ∃ next, number ≤ next ∧ store.Head workspaceId next) ?_ ⟨number, le_rfl, head⟩
  rintro label held before after sound newest steps ⟨next, reached, current⟩
  have floor : after.Floor label workspaceId next := by
    have first := current.floor sound newest
    clear current
    induction steps with
    | refl => exact first
    | tail _ step induction => exact induction.step step
  obtain ⟨last, grown, final⟩ := floor.head
  exact ⟨last, reached.trans grown, final⟩

namespace Deployment

open TrainingScheduler.Deployment (launchSpec)

/-- A session of the owner in workspace 60, which was started from its first revision. -/
def runtime (generation : ℕ) : Runtime where
  id := 70 + generation
  workspaceId := 60
  ownerUserId := 1
  revisionId := 61
  imageDigestRef := "registry/interactive-60@sha256:61"
  generation := generation
  launchSpec := launchSpec
  state := .ready
  assignmentId := some (80 + generation)
  createdAt := 0
  healthAt := some 0
  health := some ⟨true, true, true, true⟩
  editorCapable := true

def assignment (generation : ℕ) : Assignment where
  id := 80 + generation
  workerId := 1
  instanceId := 10
  target := .interactive (70 + generation) generation
  attemptToken := 90 + generation
  requestId := generation
  requestHash := ""
  payload := .runtime
    { runtimeId := 70 + generation
      workspaceId := 60
      revisionId := 61
      ownerId := 1
      generation := generation
      imageDigestRef := "registry/interactive-60@sha256:61"
      gpuUuid := none
      launchSpec := launchSpec }
  state := .active
  createdAt := 0
  leaseUntil := 100000

/-- The database while the session of this generation runs. -/
def session (generation : ℕ) : Db :=
  { TrainingScheduler.Deployment.db with
    runtimes := ⟨[runtime generation], List.nodup_singleton _⟩
    assignments := ⟨[assignment generation], List.nodup_singleton _⟩ }

def editor : EditorSettings where
  workspaceSave := true
  workspaceTrainingSubmission := true

def snapshotFence (generation : ℕ) : SnapshotFence where
  workerId := 1
  operationId := 40 + generation
  assignmentId := 80 + generation
  attemptToken := 90 + generation
  generation := generation

def saveBody (generation : ℕ) : SaveBody where
  generation := generation
  parentRevisionId := 61

def sha256 : String := "0123456789abcdef0123456789abcdef0123456789abcdef0123456789abcdef"

/-- The first revision of workspace 60 is built, and a session starts from it. -/
def opened : List (Choice Request) :=
  serve 0 4 (.create creation (.upload (.ok ()))) ++
    serve 1 8 (.claim "first" 101 102 103 104) ++
    serve 2 5 (.ready (published 61 "first" 101) 200) ++
    serve 3 2 (.external (session 1) 0)

/-- The session of a generation saves its workspace as a revision. -/
def saved (n generation : ℕ) (revisionId : UUID) : List (Choice Request) :=
  serve n 8 (.save editor (40 + generation) 1 (70 + generation) "save" (saveBody generation)) ++
    serve (n + 1) 4 (.capability (snapshotFence generation) 300) ++
    serve (n + 2) 5 (.complete (snapshotFence generation) sha256 1 revisionId)

def headsOf (store : Store) : List (UUID × ℕ) :=
  store.workspaces.rows.flatMap fun item =>
    ((item.savedRevisionId.bind store.revisions.lookup).map
      fun row => (item.id, row.revisionNumber)).toList

private theorem head_of_mem {store : Store} {workspaceId : UUID} {number : ℕ}
    (member : (workspaceId, number) ∈ headsOf store) : store.Head workspaceId number := by
  obtain ⟨item, item_mem, listed⟩ := List.mem_flatMap.mp member
  obtain ⟨row, found, pair⟩ := Option.map_eq_some_iff.mp (Option.mem_toList.mp listed)
  obtain ⟨revisionId, saved, row_found⟩ := Option.bind_eq_some_iff.mp found
  cases pair
  have named : row.id = revisionId := Table.key_of_lookup row_found
  exact ⟨item, item_mem, rfl, row, Table.mem_of_lookup row_found, named ▸ saved, rfl⟩

/-- The snapshot of a session is published and becomes the head. -/
theorem head_advances :
    ∃ pool later, Interleaving (script digest) (fun _ _ => True) opening pool ∧
      Interleaving (script digest) (fun label store => label.Newest store) pool later ∧
      pool.store.Head 60 1 ∧ headsOf later.store = [(60, 2)] ∧
      ∃ next, 1 ≤ next ∧ later.store.Head 60 next := by
  have outcome : ((opening.performAll (script digest) (fun _ _ => true) opened).bind
      fun pool => (pool.performAll (script digest)
        (fun label store => decide (label.Newest store))
        (saved 4 1 62 ++ serve 7 8 (.claim "first" 105 106 107 108) ++
          serve 8 9 (.ready (published 62 "first" 105) 201))).map fun later =>
            (headsOf pool.store, headsOf later.store)) = some ([(60, 1)], [(60, 2)]) := by
    decide +kernel
  obtain ⟨pool, later, run, onward, values⟩ :=
    interleavings_of_performAll (fun _ _ _ => trivial) (fun _ _ => of_decide_eq_true) outcome
  simp only [Prod.mk.injEq] at values
  have head : pool.store.Head 60 1 := head_of_mem (by simp [values.1])
  exact ⟨pool, later, run, onward, head, values.2,
    workspace_head_monotone digest _ 0 (by decide +kernel) run onward head⟩

/-- Two sessions, one after the other, save the workspace.  The first builder takes the older
snapshot and the second builder the newer one, and the second builder is done first. -/
def overtaken : List (Choice Request) :=
  opened ++ saved 4 1 62 ++ serve 7 8 (.claim "first" 105 106 107 108) ++
    serve 8 2 (.external (session 2) 0) ++ saved 9 2 63 ++
    serve 12 8 (.claim "second" 109 110 111 112) ++
    serve 13 9 (.ready (published 63 "second" 109) 201)

/-- The report of the older snapshot takes the head back. -/
theorem head_falls_back :
    ∃ pool later, Interleaving (script digest) (fun _ _ => True) opening pool ∧
      Interleaving (script digest) (fun _ _ => True) pool later ∧
      headsOf pool.store = [(60, 3)] ∧ headsOf later.store = [(60, 2)] := by
  have outcome : ((opening.performAll (script digest) (fun _ _ => true) overtaken).bind
      fun pool => (pool.performAll (script digest) (fun _ _ => true)
        (serve 14 9 (.ready (published 62 "first" 105) 202))).map fun later =>
          (headsOf pool.store, headsOf later.store)) = some ([(60, 3)], [(60, 2)]) := by
    decide +kernel
  obtain ⟨pool, later, run, onward, values⟩ :=
    interleavings_of_performAll (fun _ _ _ => trivial) (fun _ _ _ => trivial) outcome
  simp only [Prod.mk.injEq] at values
  exact ⟨pool, later, run, onward, values⟩

end Deployment

end TrainingScheduler.Workspaces
