import TrainingScheduler.Worker.Logs

/-!
# The stored training log

`_append_build_log` writes the log of an attempt behind what it has downloaded at its first upload.
A download that fails looks like a log that does not exist.
-/

namespace TrainingScheduler.TrainingLog

open Logs (Text throttled)

def newline : ℕ := 10

/-- The log state of a job on its Worker, the versions of `training.log` that were stored so far,
and whether one of them was written past a stored version whose download failed.  The attempts of a
job are one after the other, and no output of its command is named `training.log`. -/
structure Logger where
  base : Option Text
  lastUpload : Option ℚ
  buffer : List Text
  versions : List Text
  blind : Bool

open Logger

/-- `_reset_log_state` of the next attempt, on any Worker; a line of output; or `_append_build_log`
with the outcome of its download and of its upload. -/
inductive Event where
  | reset
  | line (text : Text)
  | append (force : Bool) (now interval : ℚ) (downloads uploads : Bool)

def Logger.stored (logger : Logger) : Option Text := logger.versions.getLast?

/-- The base of an upload: the one that an earlier upload has used, or the stored log. -/
def Logger.buildLogBase (logger : Logger) (downloads : Bool) : Text :=
  logger.base.getD (if downloads then logger.stored.getD [] else [])

/-- The new contents of the log. -/
def content (base : Text) (lines : List Text) : Text :=
  (if base ≠ [] ∧ base.getLast? ≠ some newline then base ++ [newline] else base) ++
    ([newline].intercalate lines ++ [newline])

def Logger.step (logger : Logger) : Event → Logger
  | .reset => { logger with base := none, lastUpload := none, buffer := [] }
  | .line text => { logger with buffer := logger.buffer ++ [text] }
  | .append force now interval downloads uploads =>
    if logger.buffer = [] ∨ throttled logger.lastUpload now interval force then logger
    else if uploads then
      { logger with
        base := some (logger.buildLogBase downloads)
        lastUpload := some now
        versions := logger.versions ++ [content (logger.buildLogBase downloads) logger.buffer]
        blind := logger.blind || !downloads && logger.base.isNone && logger.stored.isSome }
    else logger

def Logger.start : Logger := ⟨none, none, [], [], false⟩

def Logger.run (events : List Event) : Logger := events.foldl step start

variable {lines : List Text}

theorem intercalate_newline (some_ : lines ≠ []) :
    [newline].intercalate lines ++ [newline] = lines.flatMap (· ++ [newline]) := by
  induction lines with
  | nil => exact absurd rfl some_
  | cons line lines induction =>
    cases lines with
    | nil => simp [List.intercalate]
    | cons next lines =>
      have rest := induction (by simp)
      rw [List.flatMap_cons, ← rest]
      simp [List.intercalate]

theorem base_prefix_content (base : Text) (lines : List Text) : base <+: content base lines := by
  unfold content
  split_ifs
  · rw [List.append_assoc]
    exact List.prefix_append _ _
  · exact List.prefix_append _ _

private theorem content_mono {base : Text} {earlier : List Text} (some_ : earlier ≠ [])
    (grows : earlier <+: lines) : content base earlier <+: content base lines := by
  obtain ⟨later, rfl⟩ := grows
  rw [content, content, intercalate_newline some_, intercalate_newline (by simp [some_]),
    List.flatMap_append, List.prefix_append_right_inj]
  exact List.prefix_append _ _

/-- The versions extend each other, and the last holds lines of the attempt after its base. -/
structure Logger.Grows (logger : Logger) : Prop where
  chain : logger.versions.IsChain (· <+: ·)
  based : ∀ base, logger.base = some base → ∃ earlier, earlier ≠ [] ∧ earlier <+: logger.buffer ∧
    logger.stored = some (content base earlier)

theorem Logger.Grows.step {logger : Logger} (event : Event)
    (grows : logger.blind = false → logger.Grows) (clean : (logger.step event).blind = false) :
    (logger.step event).Grows := by
  cases event with
  | reset => exact ⟨(grows clean).chain, fun base wrong => by cases wrong⟩
  | line text =>
    refine ⟨(grows clean).chain, fun base used => ?_⟩
    obtain ⟨earlier, some_, front, same⟩ := (grows clean).based base used
    exact ⟨earlier, some_, front.trans (List.prefix_append _ _), same⟩
  | append force now interval downloads uploads =>
    rw [Logger.step] at clean ⊢
    split_ifs at clean ⊢ with idle stores
    · exact grows clean
    · simp only [Bool.or_eq_false_iff] at clean
      obtain ⟨chain, based⟩ := grows clean.1
      have lines : logger.buffer ≠ [] := fun empty => idle (.inl empty)
      refine ⟨List.isChain_append.mpr ⟨chain, by simp, fun old stored new newest => ?_⟩, ?_⟩
      · cases newest
        cases used : logger.base with
        | some base =>
          obtain ⟨earlier, some_, front, same⟩ := based base used
          cases stored.symm.trans same
          simpa [buildLogBase, used] using content_mono some_ front
        | none =>
          have read : downloads = true := by
            have present : logger.stored = some old := stored
            simpa [used, present] using clean.2
          have base : logger.buildLogBase downloads = old := by
            have present : logger.stored = some old := stored
            simp [buildLogBase, used, read, present]
          exact base ▸ base_prefix_content _ _
      · rintro base ⟨⟩
        exact ⟨logger.buffer, lines, List.prefix_rfl, by simp [stored]⟩
    · exact grows clean

theorem Logger.grows_run (events : List Event) :
    (run events).blind = false → (run events).Grows := by
  induction events using List.reverseRecOn with
  | nil => exact fun _ => ⟨by simp [run, start], fun base wrong => by cases wrong⟩
  | append_singleton events event induction =>
    rw [run, List.foldl_append]
    exact Logger.Grows.step event induction

/-- The stored training log only grows in every run in which no version is written past a stored one
whose download failed: every stored version is the front of the next one. -/
theorem training_log_grows (events : List Event) (sighted : (run events).blind = false) :
    (run events).versions.IsChain (· <+: ·) :=
  (grows_run events sighted).chain

/-- Two attempts; the first upload of the second one fails. -/
def retryEvents (downloads : Bool) : List Event :=
  [.line [97], .append true 0 10 true true, .reset, .line [98], .append true 5 10 downloads false,
    .append true 6 10 downloads true]

theorem retry_extends_log :
    (run (retryEvents true)).versions.IsChain (· <+: ·) :=
  training_log_grows (retryEvents true) (by decide +kernel)

/-- With a failed download the second attempt erases the lines of the first. -/
theorem failed_download_erases :
    (run (retryEvents false)).versions = [[97, 10], [98, 10]] := by
  decide +kernel

end TrainingScheduler.TrainingLog
