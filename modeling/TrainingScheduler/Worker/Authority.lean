import TrainingScheduler.Programs
import TrainingScheduler.Worker.Exclusivity

/-!
# Loss of authority

The threads of one Worker call its coordinator one call at a time.  Every writer of the journal
updates an assignment in one call, but `capture` of `snapshot.py` reads it with `get` and writes
what it read back with `persist`.  A mark that is set in between is lost.
-/

namespace TrainingScheduler.Exclusivity

open Table Exclusivity.Process

/-- The coordinator, and the assignments that captures have read and not written back. -/
structure Threads where
  process : Process
  copies : UUID → Option Entry

/-- One call of one thread: the two calls of a capture, or any other. -/
inductive Action where
  | call (call : Call)
  | reads (assignmentId : UUID)
  | writes (assignmentId : UUID)

namespace Threads

def start (instanceId : UUID) : Threads := ⟨{ instanceId }, fun _ => none⟩

/-- `get` raises for an unknown assignment, and a restart ends every capture. -/
def step (threads : Threads) : Action → Threads
  | .call (.restart instanceId resolution) =>
    ⟨(Call.restart instanceId resolution).perform threads.process, fun _ => none⟩
  | .call call => { threads with process := call.perform threads.process }
  | .reads assignmentId =>
    { threads with
      copies := Function.update threads.copies assignmentId
        (threads.process.records.lookup assignmentId) }
  | .writes assignmentId =>
    match threads.copies assignmentId with
    | none => threads
    | some copy =>
      { process := { threads.process with records := threads.process.records.put copy }
        copies := Function.update threads.copies assignmentId none }

def run (instanceId : UUID) (actions : List Action) : Threads :=
  actions.foldl step (start instanceId)

end Threads

open Threads

/-- The assignment that a call marks as uncertain, clean or released. -/
def Call.marks : Call → Option UUID
  | update assignmentId true | markClean assignmentId | released assignmentId => some assignmentId
  | _ => none

/-- The assignment that a call journals anew. -/
def Call.journals : Call → Option UUID
  | accept _ (some answer) _ _ | restart _ (.answered (some answer)) => answer.assignmentId
  | _ => none

/-- No assignment is marked within a capture, and no answer brings a journalled one. -/
def Careful (threads : Threads) : Action → Prop
  | .call call =>
    (∀ assignmentId, call.marks = some assignmentId → threads.copies assignmentId = none) ∧
      ∀ assignmentId, call.journals = some assignmentId →
        threads.process.records.lookup assignmentId = none
  | _ => True

/-- Every mark of an assignment is kept. -/
structure Entry.Keeps (old entry : Entry) : Prop where
  uncertain : old.uncertain = true → entry.uncertain = true
  clean : old.localClean = true → entry.localClean = true
  released : old.released = true → entry.released = true

theorem Entry.Keeps.refl (entry : Entry) : entry.Keeps entry := ⟨id, id, id⟩

theorem Entry.Keeps.trans {first second third : Entry} (one : first.Keeps second)
    (two : second.Keeps third) : first.Keeps third :=
  ⟨two.uncertain ∘ one.uncertain, two.clean ∘ one.clean, two.released ∘ one.released⟩

variable {table : Table Entry.assignmentId} {assignmentId : UUID} {process : Process}

private theorem lookup_put_self (entry : Entry) :
    (table.put entry).lookup entry.assignmentId = some entry :=
  lookup_of_mem (mem_put.mpr (.inl rfl))

theorem lookup_put_of_ne {entry : Entry} (ne : entry.assignmentId ≠ assignmentId) :
    (table.put entry).lookup assignmentId = table.lookup assignmentId := by
  cases found : table.lookup assignmentId with
  | some old =>
    obtain ⟨member, rfl⟩ := lookup_eq_some_iff.mp found
    exact lookup_of_mem (mem_put.mpr (.inr ⟨member, ne.symm⟩))
  | none =>
    rw [lookup_eq_none_iff] at found ⊢
    intro row member
    rcases mem_put.mp member with rfl | ⟨old, -⟩
    · exact ne
    · exact found row old

section

variable {process : Process} {assignmentId : UUID} {old : Entry}

/-- An assignment after a call: nothing is unmarked, and nothing is marked but what the call
marks. -/
def Kept (call : Call) (old : Entry) (after : Process) (assignmentId : UUID) : Prop :=
  ∃ entry, after.records.lookup assignmentId = some entry ∧ old.Keeps entry ∧
    (call.marks ≠ some assignmentId → entry = old)

variable {call : Call} {after : Process}

section

variable (found : process.records.lookup assignmentId = some old)

include found

theorem Kept.of_same (records : after.records = process.records) :
    Kept call old after assignmentId :=
  ⟨old, records ▸ found, .refl old, fun _ => rfl⟩

theorem Kept.of_put {entry : Entry} (records : after.records = process.records.put entry)
    (ne : entry.assignmentId ≠ assignmentId) : Kept call old after assignmentId :=
  ⟨old, by rw [records, lookup_put_of_ne ne, found], .refl old, fun _ => rfl⟩

theorem Kept.of_modify {target : UUID} {f : Entry → Entry}
    (rows : after.records.rows = Table.rewriteAt Entry.assignmentId target f process.records.rows)
    (names : ∀ entry, (f entry).assignmentId = entry.assignmentId)
    (keeps : target = assignmentId → old.Keeps (f old) ∧
      (call.marks ≠ some assignmentId → f old = old)) : Kept call old after assignmentId := by
  by_cases same : target = assignmentId
  · obtain ⟨marks, unmarked⟩ := keeps same
    subst same
    exact ⟨f old, by rw [lookup_rewritten_self rows names, found]; rfl, marks, unmarked⟩
  · refine ⟨old, ?_, .refl old, fun _ => rfl⟩
    rw [lookup_rewritten_ne rows names (Ne.symm same), found]

private theorem kept_accept {clock : ℚ≥0} {answer : Option Answer} {sentAt : Time} {bootId : Bool}
    (new : (Call.accept clock answer sentAt bootId).journals ≠ some assignmentId) :
    Kept (.accept clock answer sentAt bootId) old (process.accept clock answer sentAt bootId)
      assignmentId := by
  cases answer with
  | none => exact .of_same found rfl
  | some answer =>
    unfold accept
    dsimp only
    split
    · rename_i conflict named _ name
      have ne : named ≠ assignmentId := by
        rintro rfl
        exact new name
      split
      · exact .of_put found rfl ne
      · split
        · exact .of_put found rfl ne
        · exact .of_put found (records_engage _ _) ne
    · exact .of_same found rfl

private theorem kept_restart {instanceId : UUID} {resolution : Process.Resolution}
    (new : (Call.restart instanceId resolution).journals ≠ some assignmentId) :
    Kept (.restart instanceId resolution) old (process.restart instanceId resolution)
      assignmentId := by
  unfold restart
  dsimp only
  split
  · exact .of_same found rfl
  · exact .of_same found rfl
  · exact .of_same found rfl
  · rename_i answer _
    split
    · exact .of_same found rfl
    · rename_i named name
      refine .of_put found rfl ?_
      rintro rfl
      exact new name

end

theorem kept_perform (call : Call) (found : process.records.lookup assignmentId = some old)
    (new : call.journals ≠ some assignmentId) :
    Kept call old (call.perform process) assignmentId := by
  cases call with
  | beginClaim requestId =>
    refine .of_same found ?_
    change (process.beginClaim requestId).records = process.records
    unfold beginClaim
    split
    · rfl
    · dsimp only
      split <;> rfl
  | accept clock answer sentAt bootId => exact kept_accept found new
  | claimFailed => exact .of_same found rfl
  | renew clock named sentAt budget sequence =>
    refine .of_same found ?_
    change (process.renew clock named sentAt budget sequence).records = process.records
    unfold renew
    split
    · rfl
    · split <;> rfl
  | update named uncertain =>
    refine .of_modify found rfl (fun _ => rfl) ?_
    rintro rfl
    refine ⟨⟨fun set => by simp [set], id, id⟩, fun unmarked => ?_⟩
    cases uncertain with
    | true => exact absurd rfl unmarked
    | false => simp
  | markClean named =>
    change Kept _ old (process.markClean named) assignmentId
    unfold markClean
    split
    · exact .of_same found rfl
    · refine .of_modify found rfl (fun _ => rfl) ?_
      rintro rfl
      exact ⟨⟨id, fun _ => rfl, id⟩, fun unmarked => absurd rfl unmarked⟩
  | released named =>
    change Kept _ old (process.released named) assignmentId
    unfold released
    split
    · exact .of_same found rfl
    · split
      · exact .of_same found rfl
      · refine .of_modify found (congrArg Table.rows records_available) (fun _ => rfl) ?_
        rintro rfl
        exact ⟨⟨id, id, fun _ => rfl⟩, fun unmarked => absurd rfl unmarked⟩
  | available => exact .of_same found records_available
  | control mode paused draining acceptingJobs => exact .of_same found rfl
  | restart instanceId resolution => exact kept_restart found new

end

/-- A copy is what the journal holds, and a released assignment is clean. -/
structure Threads.Coherent (threads : Threads) : Prop where
  copies : ∀ assignmentId copy, threads.copies assignmentId = some copy →
    threads.process.records.lookup assignmentId = some copy
  closed : ∀ entry ∈ threads.process.records.rows, entry.released = true → entry.localClean = true

/-- Every journalled assignment keeps its marks. -/
def Threads.Keeps (before after : Threads) : Prop :=
  ∀ assignmentId old, before.process.records.lookup assignmentId = some old →
    ∃ entry, after.process.records.lookup assignmentId = some entry ∧ old.Keeps entry

private theorem closed_perform (call : Call)
    (closed : ∀ entry ∈ process.records.rows, entry.released = true → entry.localClean = true) :
    ∀ entry ∈ (call.perform process).records.rows, entry.released = true →
      entry.localClean = true := by
  intro entry member released
  cases change_perform call process with
  | rewritten entries _ =>
    obtain ⟨old, among, step⟩ := entries entry member
    rcases step.released released with before | ⟨_, clean⟩
    · exact step.cleaned (closed old among before)
    · exact step.cleaned clean
  | journalled new records _ opened _ _ =>
    rw [records] at member
    rcases mem_put.mp member with rfl | ⟨old, -⟩
    · rw [opened] at released
      cases released
    · exact closed entry old released

namespace Threads.Coherent

variable {threads : Threads}

section

variable (coherent : threads.Coherent)

include coherent

theorem call {call : Call} (careful : Careful threads (.call call)) :
    threads.Keeps { threads with process := call.perform threads.process } ∧
      Threads.Coherent { threads with process := call.perform threads.process } := by
  have new : ∀ assignmentId old, threads.process.records.lookup assignmentId = some old →
      call.journals ≠ some assignmentId := by
    intro assignmentId old found journals
    rw [careful.2 assignmentId journals] at found
    cases found
  refine ⟨fun assignmentId old found => ?_, fun assignmentId copy held => ?_,
    closed_perform call coherent.closed⟩
  · obtain ⟨entry, known, keeps, _⟩ := kept_perform call found (new assignmentId old found)
    exact ⟨entry, known, keeps⟩
  · have found := coherent.copies assignmentId copy held
    obtain ⟨entry, known, _, same⟩ := kept_perform call found (new assignmentId copy found)
    have unmarked : call.marks ≠ some assignmentId := by
      intro marks
      rw [careful.1 assignmentId marks] at held
      cases held
    rw [same unmarked] at known
    exact known

theorem writes (assignmentId : UUID) :
    threads.Keeps (threads.step (.writes assignmentId)) ∧
      (threads.step (.writes assignmentId)).Coherent := by
  rw [step]
  split
  · exact ⟨fun _ old found => ⟨old, found, .refl old⟩, coherent⟩
  · rename_i copy held
    -- the copy is the record that it replaces
    have found := coherent.copies assignmentId copy held
    have named : copy.assignmentId = assignmentId := key_of_lookup found
    have same : ∀ other, (threads.process.records.put copy).lookup other =
        threads.process.records.lookup other := by
      intro other
      by_cases own : copy.assignmentId = other
      · rw [← own, lookup_put_self, named, found]
      · exact lookup_put_of_ne own
    refine ⟨fun other old known => ⟨old, (same other).trans known, .refl old⟩,
      fun other stored kept => ?_, fun entry member released => ?_⟩
    · by_cases own : other = assignmentId
      · subst own
        simp at kept
      · have kept : threads.copies other = some stored := by
          simpa [Function.update_of_ne own] using kept
        exact (same other).trans (coherent.copies other stored kept)
    · rcases mem_put.mp member with rfl | ⟨old, -⟩
      · exact coherent.closed entry (mem_of_lookup found) released
      · exact coherent.closed entry old released

theorem reads (assignmentId : UUID) : (threads.step (.reads assignmentId)).Coherent := by
  refine ⟨fun other copy held => ?_, coherent.closed⟩
  by_cases own : other = assignmentId
  · subst own
    simpa [step] using held
  · have held : threads.copies other = some copy := by
      simpa [step, Function.update_of_ne own] using held
    exact coherent.copies other copy held

theorem step {action : Action} (careful : Careful threads action) :
    threads.Keeps (threads.step action) ∧ (threads.step action).Coherent := by
  cases action with
  | reads assignmentId =>
    exact ⟨fun _ old found => ⟨old, found, .refl old⟩, coherent.reads assignmentId⟩
  | writes assignmentId => exact coherent.writes assignmentId
  | call made =>
    obtain ⟨keeps, after⟩ := coherent.call careful
    cases made with
    | restart instanceId resolution =>
      exact ⟨keeps, fun _ _ held => (by cases held), after.closed⟩
    | _ => exact ⟨keeps, after⟩

theorem run {actions : List Action}
    (careful : Machine.Throughout Threads.step Careful threads actions) :
    threads.Keeps (actions.foldl Threads.step threads) ∧
      (actions.foldl Threads.step threads).Coherent := by
  induction actions generalizing threads with
  | nil => exact ⟨fun _ old found => ⟨old, found, .refl old⟩, coherent⟩
  | cons action rest ih =>
    obtain ⟨first, next⟩ := coherent.step careful.1
    obtain ⟨others, last⟩ := ih next careful.2
    refine ⟨fun assignmentId old found => ?_, last⟩
    obtain ⟨middle, known, one⟩ := first assignmentId old found
    obtain ⟨entry, reached, two⟩ := others assignmentId middle known
    exact ⟨entry, reached, one.trans two⟩

end

end Threads.Coherent

private theorem coherent_start (instanceId : UUID) : (Threads.start instanceId).Coherent :=
  ⟨fun _ _ held => (by cases held), fun _ member => (by cases member)⟩

/-- In every interleaving in which no assignment is marked between the two calls of a capture and no
answer brings an assignment that is journalled, a marked assignment stays marked, and the Worker
never has authority for it again. -/
theorem loss_of_authority_permanent (instanceId : UUID) (earlier later : List Action)
    (careful : Machine.Throughout Threads.step Careful (.start instanceId) (earlier ++ later))
    (assignmentId : UUID) (old : Entry)
    (found : (Threads.run instanceId earlier).process.records.lookup assignmentId = some old)
    (marked : old.uncertain = true ∨ old.localClean = true ∨ old.released = true) :
    (∃ entry, (Threads.run instanceId (earlier ++ later)).process.records.lookup assignmentId =
        some entry ∧ old.Keeps entry) ∧
      ∀ clock,
        (Threads.run instanceId (earlier ++ later)).process.authoritative clock assignmentId =
        false := by
  obtain ⟨before, after⟩ := careful.append
  obtain ⟨_, coherent⟩ := (coherent_start instanceId).run before
  obtain ⟨keeps, _⟩ := coherent.run after
  obtain ⟨entry, known, kept⟩ := keeps assignmentId old found
  rw [Threads.run, List.foldl_append]
  refine ⟨⟨entry, known, kept⟩, fun clock => ?_⟩
  rw [authoritative, known]
  rcases marked with uncertain | clean | released
  · simp [kept.uncertain uncertain]
  · simp [kept.clean clean]
  · simp [kept.clean (coherent.closed old (mem_of_lookup found) released)]

/-- A Worker takes an interactive assignment and saves its workspace. -/
def claimed : List Action :=
  [.call .available, .call (.beginClaim 1),
    .call (.accept 0 (some ⟨some 7, .known .interactive, some 60, false⟩) 0 true)]

/-- A capture is finished when the heartbeat is told to stop, and another one follows. -/
theorem stopped_assignment_lost :
    (∃ entry, (run 3 (claimed ++ [.reads 7, .writes 7, .call (.update 7 true)] ++
        [.reads 7, .writes 7])).process.records.lookup 7 = some entry ∧
        (⟨7, .known .interactive, false, false, true⟩ : Entry).Keeps entry) ∧
      (run 3 (claimed ++ [.reads 7, .writes 7, .call (.update 7 true)] ++
        [.reads 7, .writes 7])).process.authoritative 10 7 = false := by
  have careful : Machine.Throughout step Careful (.start 3)
      (claimed ++ [.reads 7, .writes 7, .call (.update 7 true)] ++ [.reads 7, .writes 7]) := by
    simp only [claimed, List.cons_append, List.nil_append, Machine.Throughout, Careful, Call.marks,
      Call.journals, reduceCtorEq, false_implies, implies_true, Option.some.injEq, forall_eq',
      true_and, and_true]
    decide +kernel
  obtain ⟨kept, lost⟩ := loss_of_authority_permanent 3 _ _ careful 7
    ⟨7, .known .interactive, false, false, true⟩ (by decide +kernel) (.inl rfl)
  exact ⟨kept, lost 10⟩

/-- The heartbeat marks the assignment between the two calls of the capture. -/
theorem capture_restores_authority :
    (run 3 (claimed ++ [.reads 7, .call (.update 7 true)])).process.records.lookup 7 =
        some ⟨7, .known .interactive, false, false, true⟩ ∧
      (run 3 (claimed ++ [.reads 7, .call (.update 7 true)])).process.authoritative 10 7 =
        false ∧
      (run 3 (claimed ++ [.reads 7, .call (.update 7 true), .writes 7])).process.records.lookup
          7 = some ⟨7, .known .interactive, false, false, false⟩ ∧
      (run 3 (claimed ++ [.reads 7, .call (.update 7 true), .writes 7])).process.authoritative
          11 7 = true := by
  decide +kernel

end TrainingScheduler.Exclusivity
