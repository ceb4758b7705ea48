import Mathlib
import TrainingScheduler.Programs

/-!
# Imported snapshots

`import_snapshot` of the image builder.  The bytes of a snapshot are hashed and counted as they are
downloaded, and move to a file once they outgrow memory.  What Docker answers to a call, and whether
it fails, is arbitrary.
-/

namespace TrainingScheduler.Snapshot

abbrev Bytes := List UInt8

def maxSnapshot : ℕ := 8 * 1024 * 1024 * 1024

def memoryLimit : ℕ := 64 * 1024 * 1024

/-- The kind of a `BuildFailure`, or another exception. -/
inductive Failure where
  | user
  | system
  | raised
  deriving DecidableEq, Repr

/-- What a work item records of its snapshot. -/
structure Item where
  operationId : String
  sha256 : Option String
  size : Option ℤ

def validateTrainingCommand (command : List String) : Except Failure (List String) :=
  if command.head? ≠ some "python" ∧ command.head? ≠ some "python3" then .error .user
  else if command.any fun token => token = "" || decide (512 < token.length) ||
      token.toList.any fun char => char = '\n' || char = '\r' || char = '\x00' then .error .user
  else .ok command

/-- The chunks that arrive, and whether an exception ends the loop after them. -/
structure Download where
  chunks : List Bytes
  interrupted : Bool

/-- The variables of the loop. -/
structure Progress where
  /-- What `sha` was updated with. -/
  hashed : Bytes := []
  size : ℕ := 0
  data : Bytes := []
  /-- The content of the file, once there is one. -/
  output : Option Bytes := none

def Progress.take (progress : Progress) (chunk : Bytes) : Except Failure Progress :=
  let hashed := progress.hashed ++ chunk
  let size := progress.size + chunk.length
  if size > maxSnapshot then .error .system
  else
    match progress.output with
    | some written => .ok { progress with hashed, size, output := some (written ++ chunk) }
    | none =>
      if progress.data.length + chunk.length > memoryLimit then
        .ok { hashed, size, data := [], output := some (progress.data ++ chunk) }
      else .ok { hashed, size, data := progress.data ++ chunk, output := none }

def receive (download : Download) : Except Failure Progress :=
  match download.chunks.foldlM Progress.take {} with
  | .error failure => .error failure
  | .ok progress => if download.interrupted then .error .raised else .ok progress

variable (sha256 : Bytes → String)

/-- The checks after the loop; a hash or a size that is empty or zero is not checked. -/
def verify (item : Item) (progress : Progress) : Except Failure Progress :=
  if item.sha256.getD "" ≠ "" ∧ item.sha256 ≠ some (sha256 progress.hashed) then .error .system
  else if item.size.getD 0 ≠ 0 ∧ item.size ≠ some (progress.size : ℤ) then .error .system
  else .ok progress

/-- The calls that the builder makes; `γ` are those that publish a loaded image. -/
inductive Call (γ : Type) where
  | load (bytes : Bytes)
  /-- `docker load -i` of a file with this content. -/
  | loadFile (bytes : Bytes)
  | remove (reference : String)
  | get (reference : String)
  | publishing (call : γ)

/-- What Docker returns, and `none` for an exception: the loaded images, the output, an image. -/
structure Docker where
  load : Bytes → Option (List String)
  loadFile : Bytes → Option String
  get : String → Option String

variable {γ : Type} (docker : Docker)

def captureTag (item : Item) : String := "dml-snapshot-" ++ item.operationId ++ ":capture"

/-- The id of the loaded image, with the calls made for it. -/
def load (item : Item) (progress : Progress) : Except Failure String × List (Call γ) :=
  let tag := captureTag item
  match progress.output with
  | none =>
    (match docker.load progress.data with
      | some [id] => .ok id
      | some _ => .error .system
      | none => .error .raised, [.load progress.data])
  | some written =>
    match docker.loadFile written with
    | none => (.error .raised, [.remove tag, .loadFile written])
    | some output =>
      if ("Loaded image: " ++ tag).toList <:+: output.toList then
        ((docker.get tag).elim (.error .raised) .ok,
          [.remove tag, .loadFile written, .get tag])
      else (.error .system, [.remove tag, .loadFile written])

/-- The calls of `import_snapshot`; what follows the load depends on the loaded image. -/
def importSnapshot (publish : String → List γ) (item : Item) (command : Option (List String))
    (download : Download) : List (Call γ) :=
  match command.mapM validateTrainingCommand, (receive download).bind (verify sha256 item) with
  | .error _, _ | _, .error _ => []
  | .ok _, .ok progress =>
    match load docker item progress with
    | (.error _, calls) => calls
    | (.ok id, calls) => if id = "" then calls else calls ++ (publish id).map .publishing

/-- The bytes that Docker may be handed. -/
structure Verified (item : Item) (download : Download) (bytes : Bytes) : Prop where
  complete : download.interrupted = false
  whole : bytes = download.chunks.flatten
  bounded : bytes.length ≤ maxSnapshot
  hash : ∀ recorded, item.sha256 = some recorded → recorded ≠ "" → sha256 bytes = recorded
  size : ∀ recorded, item.size = some recorded → recorded ≠ 0 → (bytes.length : ℤ) = recorded

def Call.Loads (bytes : Bytes) (call : Call γ) : Prop :=
  call = .load bytes ∨ call = .loadFile bytes

def Progress.bytes (progress : Progress) : Bytes := progress.output.getD progress.data

/-- The state of the loop after `chunks`. -/
structure Progress.Holds (progress : Progress) (chunks : List Bytes) : Prop where
  hashed : progress.hashed = chunks.flatten
  size : progress.size = chunks.flatten.length
  bytes : progress.bytes = chunks.flatten
  bounded : progress.size ≤ maxSnapshot

theorem Progress.Holds.take {progress after : Progress} {chunks : List Bytes} {chunk : Bytes}
    (holds : progress.Holds chunks) (taken : progress.take chunk = .ok after) :
    after.Holds (chunks ++ [chunk]) := by
  obtain ⟨hashed, size, bytes, -⟩ := holds
  unfold Progress.bytes at bytes
  obtain ⟨large, taken⟩ := guard_eq_ok taken
  have added : after.hashed = progress.hashed ++ chunk ∧
      after.size = progress.size + chunk.length ∧ after.bytes = progress.bytes ++ chunk := by
    unfold Progress.bytes
    split at taken
    · rename_i written output
      cases taken
      simp [output]
    · rename_i output
      split_ifs at taken
      all_goals
        cases taken
        simp [output]
  obtain ⟨same_hashed, same_size, same_bytes⟩ := added
  have joined : (chunks ++ [chunk]).flatten = chunks.flatten ++ chunk := by simp
  exact ⟨by rw [joined, same_hashed, hashed], by rw [joined, same_size, size, List.length_append],
    by rw [joined, same_bytes, ← bytes]; rfl, by omega⟩

private theorem holds_of_foldlM {chunks : List Bytes} {progress : Progress}
    (received : chunks.foldlM Progress.take {} = .ok progress) : progress.Holds chunks := by
  induction chunks using List.reverseRecOn generalizing progress with
  | nil =>
    cases received
    exact ⟨rfl, rfl, rfl, Nat.zero_le _⟩
  | append_singleton chunks chunk induction =>
    rw [List.foldlM_append] at received
    obtain ⟨before, earlier, last⟩ := bind_eq_ok received
    exact (induction earlier).take (by simpa using last)

variable {sha256} {item : Item} {download : Download} {progress : Progress}

theorem verified_of_verify (checked : (receive download).bind (verify sha256 item) = .ok progress) :
    Verified sha256 item download progress.bytes := by
  obtain ⟨received, done, checked⟩ := bind_eq_ok checked
  obtain ⟨hash, checked⟩ := guard_eq_ok checked
  obtain ⟨size, checked⟩ := guard_eq_ok checked
  cases checked
  unfold receive at done
  split at done
  · cases done
  · rename_i finished
    obtain ⟨complete, done⟩ := guard_eq_ok done
    cases done
    have holds := holds_of_foldlM finished
    refine ⟨by simpa using complete, holds.bytes, ?_, ?_, ?_⟩
    · rw [holds.bytes, ← holds.size]
      exact holds.bounded
    · rintro recorded found some
      rw [holds.bytes, ← holds.hashed]
      simpa [found, some, eq_comm] using hash
    · rintro recorded found some
      rw [holds.bytes, ← holds.size]
      simpa [found, some, eq_comm] using size

theorem loads_of_load {call : Call γ} (made : call ∈ (load docker item progress).2) {bytes : Bytes}
    (loads : call.Loads bytes) : bytes = progress.bytes := by
  unfold load at made
  unfold Progress.bytes
  dsimp only at made
  split at made
  · rename_i output
    rw [List.mem_singleton.mp made] at loads
    simpa [Call.Loads, output, eq_comm] using loads
  · rename_i written output
    have listed :
        call ∈ [.remove (captureTag item), .loadFile written, .get (captureTag item)] := by
      split at made
      · exact List.mem_append_left [_] made
      · split_ifs at made
        · exact made
        · exact List.mem_append_left [_] made
    simp only [List.mem_cons, List.not_mem_nil, or_false] at listed
    rcases listed with rfl | rfl | rfl
    · simp [Call.Loads] at loads
    · simpa [Call.Loads, output, eq_comm] using loads
    · simp [Call.Loads] at loads

/-- Docker is handed verified bytes, and nothing is called for bytes that are not. -/
theorem snapshot_loaded_verified (publish : String → List γ) (item : Item)
    (command : Option (List String)) (download : Download) :
    (∀ call ∈ importSnapshot sha256 docker publish item command download, ∀ bytes,
      call.Loads bytes → Verified sha256 item download bytes) ∧
    (¬Verified sha256 item download download.chunks.flatten →
      importSnapshot sha256 docker publish item command download = []) := by
  unfold importSnapshot
  split
  · simp
  · simp
  · rename_i progress _ checked
    have verified := verified_of_verify checked
    refine ⟨fun call made bytes loads => ?_, fun wrong => absurd (verified.whole ▸ verified) wrong⟩
    have loading : call ∈ (load docker item progress).2 := by
      split at made
      · rename_i loaded
        rwa [loaded]
      · rename_i loaded
        rw [loaded]
        split_ifs at made
        · exact made
        · rcases List.mem_append.mp made with early | late
          · exact early
          · obtain ⟨other, -, rfl⟩ := List.mem_map.mp late
            simp [Call.Loads] at loads
    exact loads_of_load docker loading loads ▸ verified

end TrainingScheduler.Snapshot
