import Mathlib.Data.List.Induction
import TrainingScheduler.System.Startup

/-!
# Carrying out heartbeat decisions

The loop of `heartbeat_once` over the decisions of a response.  A decision for an assignment that
the journal does not know raises, and so does a failing local cleanup; the decisions behind it are
then never carried out, and their leases run out although the Scheduler renewed them.
-/

namespace TrainingScheduler

/-- Why carrying out a decision raises. -/
inductive DecisionError where
  | unknownAssignment (assignmentId : UUID)
  | uncleaned (assignmentId : UUID)
  deriving DecidableEq, Repr

/-- The assignments that a manager runs, and those whose local cleanup succeeds. -/
structure Executors where
  managed : UUID → Bool
  cleans : UUID → Bool

/-- A decision with the monotonic clock reading at which its turn comes. -/
structure Turn extends Decision where
  clock : Time
  deriving DecidableEq, Repr

namespace Coordinator

variable (executors : Executors) (sentAt : Time) (sequence : Nat)

/-- The decision is a renewal, and the renewal succeeds. -/
def renews (coordinator : Coordinator) (turn : Turn) : Bool :=
  turn.action == .renew &&
    (coordinator.renew turn.clock turn.assignmentId sentAt turn.leaseSeconds sequence).1

/-- One iteration of the loop over the decisions. -/
def carryOut (coordinator : Coordinator) (turn : Turn) : Option DecisionError × Coordinator :=
  match coordinator.journal.records.lookup turn.assignmentId with
  | none => (some (.unknownAssignment turn.assignmentId), coordinator)
  | some _ =>
    (if coordinator.renews sentAt sequence turn || executors.managed turn.assignmentId ||
        executors.cleans turn.assignmentId then none
      else some (.uncleaned turn.assignmentId),
      coordinator.decide turn.clock sentAt sequence turn.toDecision)

/-- The loop over the decisions; an exception ends it. -/
def carryOutAll : Coordinator → List Turn → Option DecisionError × Coordinator
  | coordinator, [] => (none, coordinator)
  | coordinator, turn :: rest =>
    match coordinator.carryOut executors sentAt sequence turn with
    | (none, next) => carryOutAll next rest
    | (some error, next) => (some error, next)

/-- Two coordinators agree on everything a renewal of the assignment reads. -/
structure SameLease (before after : Coordinator) (assignmentId : UUID) : Prop where
  record : after.journal.records.lookup assignmentId = before.journal.records.lookup assignmentId
  draining : after.draining = before.draining
  deadline : after.deadlines assignmentId = before.deadlines assignmentId
  renewal : after.renewSequences assignmentId = before.renewSequences assignmentId

variable {executors sentAt sequence} {coordinator before middle after : Coordinator}
  {turn first : Turn} {turns later rest : List Turn} {assignmentId : UUID}

namespace SameLease

theorem refl : SameLease coordinator coordinator assignmentId := ⟨rfl, rfl, rfl, rfl⟩

theorem trans (first : SameLease before middle assignmentId)
    (second : SameLease middle after assignmentId) : SameLease before after assignmentId where
  record := second.record.trans first.record
  draining := second.draining.trans first.draining
  deadline := second.deadline.trans first.deadline
  renewal := second.renewal.trans first.renewal

theorem authoritative (same : SameLease before after assignmentId) (clock : Time) :
    after.authoritative clock assignmentId = before.authoritative clock assignmentId := by
  unfold Coordinator.authoritative
  rw [same.record, same.draining, same.deadline]

end SameLease

/-- A renewal succeeds exactly when it is new, authoritative and its deadline lies ahead. -/
theorem renews_iff :
    coordinator.renews sentAt sequence turn = true ↔ turn.action = .renew ∧
      coordinator.renewSequences turn.assignmentId < sequence ∧
        coordinator.authoritative turn.clock turn.assignmentId = true ∧
        turn.clock < leaseDeadline sentAt turn.leaseSeconds := by
  rw [renews, Bool.and_eq_true, beq_iff_eq]
  refine and_congr_right fun _ => ?_
  unfold Coordinator.renew
  split_ifs with stale late
  · simp only [false_iff, not_and, not_lt]
    intro new authoritative
    rcases stale with old | lost
    · omega
    · simp [authoritative] at lost
  · simp only [false_iff, not_and, not_lt]
    exact fun _ _ => late
  · simp only [not_or, not_le, Bool.not_eq_false] at stale late
    simp [stale, late]

theorem SameLease.renews (same : SameLease before after turn.assignmentId) :
    after.renews sentAt sequence turn = before.renews sentAt sequence turn := by
  rw [Bool.eq_iff_iff, renews_iff, renews_iff, same.renewal, same.authoritative]

private theorem authoritative_of_le {earlier later : Time} (order : earlier ≤ later)
    (authoritative : coordinator.authoritative later assignmentId = true) :
    coordinator.authoritative earlier assignmentId = true := by
  unfold Coordinator.authoritative at authoritative ⊢
  split at authoritative
  · cases authoritative
  · simp only [Bool.and_eq_true, decide_eq_true_eq] at authoritative ⊢
    exact ⟨authoritative.1, lt_of_le_of_lt order authoritative.2⟩

/-- A renewal that is due succeeds as well under an earlier clock. -/
theorem renews_of_le (due : coordinator.renews sentAt sequence turn = true)
    (same : first.assignmentId = turn.assignmentId) (renewal : first.action = .renew)
    (lease : first.leaseSeconds = turn.leaseSeconds) (order : first.clock ≤ turn.clock) :
    coordinator.renews sentAt sequence first = true := by
  rw [renews_iff] at due ⊢
  obtain ⟨-, new, authoritative, ahead⟩ := due
  rw [same, lease]
  exact ⟨renewal, new, authoritative_of_le order authoritative, lt_of_le_of_lt order ahead⟩

/-- No renewal under this sequence number can extend the lease any more. -/
def Spent (sequence : Nat) (coordinator : Coordinator) (assignmentId : UUID) : Prop :=
  sequence ≤ coordinator.renewSequences assignmentId ∨
    ∀ clock, coordinator.authoritative clock assignmentId = false

theorem Spent.not_renews (spent : Spent sequence coordinator turn.assignmentId) :
    coordinator.renews sentAt sequence turn = false := by
  rw [← Bool.not_eq_true, renews_iff]
  rintro ⟨-, new, authoritative, -⟩
  rcases spent with renewed | lost
  · omega
  · simp [lost] at authoritative

theorem markUncertain_lookup_self :
    (coordinator.markUncertain assignmentId).journal.records.lookup assignmentId =
      (coordinator.journal.records.lookup assignmentId).map fun record =>
        { record with uncertain := true } :=
  Table.lookup_rewritten_self (f := fun record : Record => { record with uncertain := true }) rfl
    fun _ => rfl

private theorem markUncertain_not_authoritative (clock : Time) :
    (coordinator.markUncertain assignmentId).authoritative clock assignmentId = false := by
  unfold Coordinator.authoritative
  rw [markUncertain_lookup_self]
  cases coordinator.journal.records.lookup assignmentId <;> simp

theorem decide_of_renews (due : coordinator.renews sentAt sequence turn = true) :
    coordinator.decide turn.clock sentAt sequence turn.toDecision =
      { coordinator with
        deadlines := Function.update coordinator.deadlines turn.assignmentId
          (some (leaseDeadline sentAt turn.leaseSeconds))
        renewSequences :=
          Function.update coordinator.renewSequences turn.assignmentId sequence } := by
  obtain ⟨renewal, new, authoritative, ahead⟩ := renews_iff.mp due
  rw [renews, Bool.and_eq_true, beq_iff_eq] at due
  rw [Coordinator.decide, if_pos due, Coordinator.renew, if_neg (by simp [authoritative, new]),
    if_neg (not_le.mpr ahead)]

theorem decide_of_not_renews (undue : coordinator.renews sentAt sequence turn = false) :
    coordinator.decide turn.clock sentAt sequence turn.toDecision =
      { coordinator.markUncertain turn.assignmentId with mode := .cleaning } := by
  rw [← Bool.not_eq_true, renews, Bool.and_eq_true, beq_iff_eq] at undue
  rw [Coordinator.decide, if_neg undue]

theorem decide_sameLease (ne : assignmentId ≠ turn.assignmentId) :
    SameLease coordinator (coordinator.decide turn.clock sentAt sequence turn.toDecision)
      assignmentId := by
  cases due : coordinator.renews sentAt sequence turn with
  | true =>
    rw [decide_of_renews due]
    exact ⟨rfl, rfl, Function.update_of_ne ne .., Function.update_of_ne ne ..⟩
  | false =>
    rw [decide_of_not_renews due]
    exact ⟨Table.lookup_rewritten_ne (f := fun record : Record => { record with uncertain := true })
      rfl (fun _ => rfl) ne, rfl, rfl, rfl⟩

theorem decide_spent :
    Spent sequence (coordinator.decide turn.clock sentAt sequence turn.toDecision)
      turn.assignmentId := by
  cases due : coordinator.renews sentAt sequence turn with
  | true =>
    rw [decide_of_renews due]
    left
    dsimp only
    rw [Function.update_self]
  | false =>
    rw [decide_of_not_renews due]
    exact .inr markUncertain_not_authoritative

/-- A spent lease stays spent, with its deadline and its sequence number. -/
structure Rests (sequence : Nat) (before after : Coordinator) (assignmentId : UUID) : Prop where
  deadline : after.deadlines assignmentId = before.deadlines assignmentId
  renewal : after.renewSequences assignmentId = before.renewSequences assignmentId
  spent : Spent sequence after assignmentId

private theorem decide_of_spent (spent : Spent sequence coordinator assignmentId) :
    Rests sequence coordinator
      (coordinator.decide turn.clock sentAt sequence turn.toDecision) assignmentId := by
  by_cases same : assignmentId = turn.assignmentId
  · subst same
    refine ⟨?_, ?_, decide_spent⟩ <;> rw [decide_of_not_renews spent.not_renews] <;> rfl
  · have kept : SameLease coordinator
        (coordinator.decide turn.clock sentAt sequence turn.toDecision) assignmentId :=
      decide_sameLease same
    refine ⟨kept.deadline, kept.renewal, spent.imp (fun renewed => ?_) fun lost clock => ?_⟩
    · exact kept.renewal ▸ renewed
    · exact (kept.authoritative clock).trans (lost clock)

private theorem decide_known :
    ((coordinator.decide turn.clock sentAt sequence turn.toDecision).journal.records.lookup
      assignmentId).isSome = (coordinator.journal.records.lookup assignmentId).isSome := by
  by_cases same : assignmentId = turn.assignmentId
  · subst same
    cases due : coordinator.renews sentAt sequence turn with
    | true => rw [decide_of_renews due]
    | false =>
      rw [decide_of_not_renews due]
      simp [markUncertain_lookup_self]
  · have kept : SameLease coordinator
        (coordinator.decide turn.clock sentAt sequence turn.toDecision) assignmentId :=
      decide_sameLease same
    rw [kept.record]

theorem carryOut_snd
    (known : (coordinator.journal.records.lookup turn.assignmentId).isSome = true) :
    (coordinator.carryOut executors sentAt sequence turn).2 =
      coordinator.decide turn.clock sentAt sequence turn.toDecision := by
  obtain ⟨record, found⟩ := Option.isSome_iff_exists.mp known
  simp [carryOut, found]

/-- A decision is carried out without an exception if its assignment is journalled and it either
renews the lease or finds a manager or a working local cleanup. -/
theorem carryOut_completes_iff :
    (coordinator.carryOut executors sentAt sequence turn).1 = none ↔
      (coordinator.journal.records.lookup turn.assignmentId).isSome = true ∧
        (coordinator.renews sentAt sequence turn = true ∨
          executors.managed turn.assignmentId = true ∨
          executors.cleans turn.assignmentId = true) := by
  unfold carryOut
  split
  · rename_i unknown
    simp [unknown]
  · rename_i known
    simp only [known, Option.isSome_some, true_and]
    split_ifs with passes
    · simpa [or_assoc] using passes
    · simpa [or_assoc] using passes

/-- The beat thread takes a decision for a journalled assignment as the loop does. -/
theorem beatStep_of_carryOut {world : World} {process : Process} {rest : List Decision}
    (beat : process.beat = .deciding (turn.toDecision :: rest) sentAt sequence)
    (reading : turn.clock = process.clock world.now)
    (known : (process.journal.records.lookup turn.assignmentId).isSome = true) :
    BeatStep world process
      { process with
        coordinator := (process.coordinator.carryOut executors sentAt sequence turn).2
        beat := .deciding rest sentAt sequence } none := by
  rw [carryOut_snd known, reading]
  exact .decide turn.toDecision rest sentAt sequence beat known

/-- The first heartbeat takes a decision as the loop does with no manager running. -/
theorem session_carryOut_eq {site : Site} {clock : Time} {session : Session}
    {decision : Decision} :
    session.carryOut site clock sentAt sequence decision =
      match session.coordinator.carryOut ⟨fun _ => false, site.cleans⟩ sentAt sequence
        ⟨decision, clock⟩ with
      | (none, coordinator) => .ok { session with coordinator }
      | (some (.unknownAssignment assignmentId), _) => .error (.unknownAssignment assignmentId)
      | (some (.uncleaned assignmentId), _) => .error (.uncleaned assignmentId) := by
  unfold Session.carryOut carryOut
  cases session.coordinator.journal.records.lookup decision.assignmentId with
  | none => rfl
  | some record =>
    simp only [renews, Bool.or_false, Bool.or_eq_true, Bool.and_eq_true, beq_iff_eq,
      Option.isNone_some, Bool.false_eq_true, if_false]
    split_ifs <;> rfl

theorem carryOutAll_cons :
    coordinator.carryOutAll executors sentAt sequence (turn :: rest) =
      if (coordinator.carryOut executors sentAt sequence turn).1 = none then
        (coordinator.carryOut executors sentAt sequence turn).2.carryOutAll executors sentAt
          sequence rest
      else coordinator.carryOut executors sentAt sequence turn := by
  rw [carryOutAll]
  split <;> simp_all

/-- What every decision of a list keeps, the loop over the list keeps. -/
theorem carryOutAll_keeps (relation : Coordinator → Coordinator → Prop)
    (refl : ∀ coordinator, relation coordinator coordinator)
    (trans : ∀ {before middle after}, relation before middle → relation middle after →
      relation before after)
    (step : ∀ turn ∈ turns, ∀ coordinator : Coordinator,
      relation coordinator (coordinator.decide turn.clock sentAt sequence turn.toDecision)) :
    relation coordinator (coordinator.carryOutAll executors sentAt sequence turns).2 := by
  induction turns generalizing coordinator with
  | nil => exact refl _
  | cons head rest induction =>
    have first : relation coordinator (coordinator.carryOut executors sentAt sequence head).2 := by
      unfold carryOut
      split
      · exact refl _
      · exact step head List.mem_cons_self coordinator
    rw [carryOutAll_cons]
    split_ifs
    · exact trans first (induction fun turn member => step turn (.tail _ member))
    · exact first

theorem carryOutAll_sameLease (untouched : ∀ turn ∈ turns, assignmentId ≠ turn.assignmentId) :
    SameLease coordinator (coordinator.carryOutAll executors sentAt sequence turns).2
      assignmentId :=
  carryOutAll_keeps (SameLease · · assignmentId) (fun _ => .refl) SameLease.trans
    fun turn member _ => decide_sameLease (untouched turn member)

theorem carryOutAll_of_spent (spent : Spent sequence coordinator assignmentId) :
    Rests sequence coordinator (coordinator.carryOutAll executors sentAt sequence turns).2
      assignmentId :=
  carryOutAll_keeps (fun before after => Spent sequence before assignmentId →
      Rests sequence before after assignmentId)
    (fun _ spent => ⟨rfl, rfl, spent⟩)
    (fun first second spent =>
      have kept := first spent
      have later := second kept.spent
      ⟨later.deadline.trans kept.deadline, later.renewal.trans kept.renewal, later.spent⟩)
    (fun _ _ _ => decide_of_spent) spent

private theorem carryOutAll_known :
    ((coordinator.carryOutAll executors sentAt sequence turns).2.journal.records.lookup
      assignmentId).isSome = (coordinator.journal.records.lookup assignmentId).isSome :=
  carryOutAll_keeps (fun before after =>
      (after.journal.records.lookup assignmentId).isSome =
        (before.journal.records.lookup assignmentId).isSome)
    (fun _ => rfl) (fun first second => second.trans first) fun _ _ _ => decide_known

theorem carryOutAll_append {first : List Turn} :
    coordinator.carryOutAll executors sentAt sequence (first ++ rest) =
      if (coordinator.carryOutAll executors sentAt sequence first).1 = none then
        (coordinator.carryOutAll executors sentAt sequence first).2.carryOutAll executors sentAt
          sequence rest
      else coordinator.carryOutAll executors sentAt sequence first := by
  induction first generalizing coordinator with
  | nil => rfl
  | cons head tail induction =>
    rw [List.cons_append, carryOutAll_cons, carryOutAll_cons]
    by_cases passed : (coordinator.carryOut executors sentAt sequence head).1 = none
    · simp only [if_pos passed, induction]
    · simp only [if_neg passed]

private theorem carryOutAll_spent
    (completed : (coordinator.carryOutAll executors sentAt sequence turns).1 = none)
    (member : turn ∈ turns) :
    Spent sequence (coordinator.carryOutAll executors sentAt sequence turns).2
      turn.assignmentId := by
  induction turns generalizing coordinator with
  | nil => cases member
  | cons head rest induction =>
    rw [carryOutAll_cons] at completed ⊢
    split_ifs at completed ⊢ with passed
    · rcases List.mem_cons.mp member with rfl | later
      · refine (carryOutAll_of_spent ?_).spent
        rw [carryOut_snd (carryOut_completes_iff.mp passed).1]
        exact decide_spent
      · exact induction completed later
    · exact absurd completed passed

variable (executors sentAt sequence) in
/-- The decision is carried out without an exception, judged by the state before the loop: its
assignment is journalled, and the decision is the first about it and renews it, or its executor is
stopped without an error. -/
structure Completes (coordinator : Coordinator) (earlier : List Turn) (turn : Turn) : Prop where
  known : (coordinator.journal.records.lookup turn.assignmentId).isSome = true
  handled : coordinator.renews sentAt sequence turn = true ∧
      (∀ previous ∈ earlier, turn.assignmentId ≠ previous.assignmentId) ∨
    executors.managed turn.assignmentId = true ∨ executors.cleans turn.assignmentId = true

/-- Behind a completed list, a renewal succeeds if it did before and is the first decision about its
assignment. -/
theorem renews_behind_iff {earlier : List Turn}
    (completed : (coordinator.carryOutAll executors sentAt sequence earlier).1 = none) :
    (coordinator.carryOutAll executors sentAt sequence earlier).2.renews sentAt sequence turn =
        true ↔
      coordinator.renews sentAt sequence turn = true ∧
        ∀ previous ∈ earlier, turn.assignmentId ≠ previous.assignmentId := by
  by_cases repeated : ∃ previous ∈ earlier, turn.assignmentId = previous.assignmentId
  · obtain ⟨previous, member, same⟩ := repeated
    have spent : Spent sequence (coordinator.carryOutAll executors sentAt sequence earlier).2
        turn.assignmentId :=
      same ▸ carryOutAll_spent completed member
    rw [spent.not_renews]
    exact iff_of_false Bool.false_ne_true fun ⟨_, first⟩ => first previous member same
  · have first : ∀ previous ∈ earlier, turn.assignmentId ≠ previous.assignmentId := by
      simpa using repeated
    have same : SameLease coordinator
        (coordinator.carryOutAll executors sentAt sequence earlier).2 turn.assignmentId :=
      carryOutAll_sameLease first
    rw [same.renews, and_iff_left first]

/-- The loop over a list and one more decision. -/
theorem carryOutAll_concat_iff {last : Turn} :
    (coordinator.carryOutAll executors sentAt sequence (turns ++ [last])).1 = none ↔
      (coordinator.carryOutAll executors sentAt sequence turns).1 = none ∧
        Completes executors sentAt sequence coordinator turns last := by
  rw [carryOutAll_append]
  split_ifs with completed
  · have step : Completes executors sentAt sequence coordinator turns last ↔
        ((coordinator.carryOutAll executors sentAt sequence turns).2.carryOut executors sentAt
          sequence last).1 = none := by
      rw [carryOut_completes_iff, carryOutAll_known, renews_behind_iff completed]
      exact ⟨fun completes => ⟨completes.known, completes.handled⟩,
        fun ⟨known, handled⟩ => ⟨known, handled⟩⟩
    rw [step, carryOutAll_cons]
    split_ifs with passed <;> simp [carryOutAll, completed, passed]
  · simp [completed]

/-- The loop raises no exception exactly when each of its decisions is carried out. -/
theorem carryOutAll_completes_iff :
    (coordinator.carryOutAll executors sentAt sequence turns).1 = none ↔
      ∀ earlier turn later, turns = earlier ++ turn :: later →
        Completes executors sentAt sequence coordinator earlier turn := by
  induction turns using List.reverseRecOn with
  | nil => simp [carryOutAll]
  | append_singleton turns last induction =>
    rw [carryOutAll_concat_iff, induction]
    constructor
    · rintro ⟨before, last_completes⟩ earlier turn later split
      rcases List.eq_nil_or_concat later with rfl | ⟨front, final, rfl⟩
      · obtain ⟨rfl, equal⟩ := List.append_inj' split rfl
        cases equal
        exact last_completes
      · have split' : turns ++ [last] = (earlier ++ turn :: front) ++ [final] := by
          simpa using split
        obtain ⟨rfl, -⟩ := List.append_inj' split' rfl
        exact before earlier turn front rfl
    · intro all
      refine ⟨fun earlier turn later split => ?_, all turns last [] rfl⟩
      exact all earlier turn (later ++ [last]) (by simp [split])

/-- The decisions in front of the first one about an assignment. -/
def decisionsAhead (turns : List Turn) (assignmentId : UUID) : List Turn :=
  turns.takeWhile fun turn => turn.assignmentId != assignmentId

/-- The decisions from the first one about an assignment on. -/
def decisionsFrom (turns : List Turn) (assignmentId : UUID) : List Turn :=
  turns.dropWhile fun turn => turn.assignmentId != assignmentId

private theorem ne_of_mem_ahead (member : turn ∈ decisionsAhead turns assignmentId) :
    assignmentId ≠ turn.assignmentId := by
  have differs := List.all_eq_true.mp List.all_takeWhile turn member
  exact (bne_iff_ne.mp differs).symm

/-- The first decision about the assignment of a decision in the list comes at no later time. -/
theorem exists_from (ordered : turns.Pairwise fun earlier later => earlier.clock ≤ later.clock)
    (member : turn ∈ turns) :
    ∃ first later, decisionsFrom turns turn.assignmentId = first :: later ∧
      first.assignmentId = turn.assignmentId ∧ first.clock ≤ turn.clock := by
  induction turns with
  | nil => cases member
  | cons head rest induction =>
    obtain ⟨before, ordered⟩ := List.pairwise_cons.mp ordered
    by_cases same : head.assignmentId = turn.assignmentId
    · refine ⟨head, rest, by simp [decisionsFrom, same], same, ?_⟩
      rcases List.mem_cons.mp member with rfl | later
      · exact le_rfl
      · exact before turn later
    · rcases List.mem_cons.mp member with rfl | later
      · exact absurd rfl same
      · obtain ⟨first, rest', tail, found⟩ := induction ordered later
        exact ⟨first, rest', by simpa [decisionsFrom, same] using tail, found⟩

/-- A due renewal has its effect exactly when every decision in front of the first one about its
assignment is carried out, and that one is the same renewal. -/
theorem applied_iff {ahead : List Turn}
    (untouched : ∀ previous ∈ ahead, turn.assignmentId ≠ previous.assignmentId)
    (due : coordinator.renews sentAt sequence turn = true)
    (same : first.assignmentId = turn.assignmentId) (order : first.clock ≤ turn.clock) :
    (coordinator.carryOutAll executors sentAt sequence (ahead ++ first :: later)).2.deadlines
          turn.assignmentId = some (leaseDeadline sentAt turn.leaseSeconds) ∧
        (coordinator.carryOutAll executors sentAt sequence
          (ahead ++ first :: later)).2.renewSequences turn.assignmentId = sequence ↔
      (coordinator.carryOutAll executors sentAt sequence ahead).1 = none ∧
        first.action = .renew ∧ first.leaseSeconds = turn.leaseSeconds := by
  obtain ⟨-, new, authoritative, -⟩ := renews_iff.mp due
  have kept : SameLease coordinator
      (coordinator.carryOutAll executors sentAt sequence ahead).2 turn.assignmentId :=
    carryOutAll_sameLease untouched
  have unrenewed : (coordinator.carryOutAll executors sentAt sequence ahead).2.renewSequences
      turn.assignmentId ≠ sequence := by
    rw [kept.renewal]
    omega
  rw [carryOutAll_append]
  split_ifs with completed
  · generalize (coordinator.carryOutAll executors sentAt sequence ahead).2 = reached
      at kept unrenewed
    have known : (reached.journal.records.lookup first.assignmentId).isSome = true := by
      rw [same, kept.record]
      unfold Coordinator.authoritative at authoritative
      split at authoritative
      · cases authoritative
      next found => rw [found]; rfl
    -- behind its first decision the lease is spent
    have rests : Rests sequence (reached.decide first.clock sentAt sequence first.toDecision)
        (reached.carryOutAll executors sentAt sequence (first :: later)).2 turn.assignmentId := by
      have spent : Spent sequence (reached.decide first.clock sentAt sequence first.toDecision)
          turn.assignmentId := same ▸ decide_spent
      rw [carryOutAll_cons, ← carryOut_snd known]
      rw [← carryOut_snd known] at spent
      split_ifs
      · exact carryOutAll_of_spent spent
      · exact ⟨rfl, rfl, spent⟩
    have as_before : reached.renews sentAt sequence first =
        coordinator.renews sentAt sequence first :=
      SameLease.renews (same ▸ kept)
    rw [rests.deadline, rests.renewal]
    cases succeeds : reached.renews sentAt sequence first with
    | true =>
      rw [decide_of_renews succeeds, ← same]
      simp [completed, (renews_iff.mp succeeds).1, leaseDeadline]
    | false =>
      rw [decide_of_not_renews succeeds]
      refine iff_of_false (fun applied => unrenewed applied.2) fun ⟨_, renewal, lease⟩ => ?_
      rw [as_before, renews_of_le due same renewal lease order] at succeeds
      cases succeeds
  · exact iff_of_false (fun applied => unrenewed applied.2) fun applied => completed applied.1

end Coordinator

open Coordinator

/-- The decisions of a heartbeat response are independent exactly as far as none of them raises: the
deadline of a renewed assignment is set as if the renewal stood alone iff every decision in front of
the first one about the assignment is carried out without an exception, and that first one is a
renewal for the same lease. -/
theorem renewals_independent_iff (executors : Executors) (sentAt : Time) (sequence : Nat)
    (coordinator : Coordinator) (turns : List Turn)
    (ordered : turns.Pairwise fun earlier later => earlier.clock ≤ later.clock) (turn : Turn)
    (member : turn ∈ turns) (renewal : turn.action = .renew)
    (authoritative : coordinator.authoritative turn.clock turn.assignmentId = true)
    (new : coordinator.renewSequences turn.assignmentId < sequence)
    (ahead : turn.clock < leaseDeadline sentAt turn.leaseSeconds) :
    let after := (coordinator.carryOutAll executors sentAt sequence turns).2
    let alone := (coordinator.carryOutAll executors sentAt sequence [turn]).2
    (after.deadlines turn.assignmentId =
        some (leaseDeadline sentAt turn.leaseSeconds) ∧
      after.deadlines turn.assignmentId = alone.deadlines turn.assignmentId ∧
      after.renewSequences turn.assignmentId = alone.renewSequences turn.assignmentId) ↔
    ((∀ earlier previous later,
        decisionsAhead turns turn.assignmentId = earlier ++ previous :: later →
          Coordinator.Completes executors sentAt sequence coordinator earlier previous) ∧
      ∃ first later, decisionsFrom turns turn.assignmentId = first :: later ∧
        first.action = .renew ∧ first.leaseSeconds = turn.leaseSeconds) := by
  have due : coordinator.renews sentAt sequence turn = true :=
    renews_iff.mpr ⟨renewal, new, authoritative, ahead⟩
  obtain ⟨first, later, split, same, order⟩ := exists_from ordered member
  have parts : decisionsAhead turns turn.assignmentId ++ first :: later = turns :=
    split ▸ List.takeWhile_append_dropWhile
  have untouched : ∀ previous ∈ decisionsAhead turns turn.assignmentId,
      turn.assignmentId ≠ previous.assignmentId := fun _ => ne_of_mem_ahead
  have applied := @applied_iff executors sentAt sequence coordinator turn first later _ untouched
    due same order
  rw [parts] at applied
  have single := (@applied_iff executors sentAt sequence coordinator turn turn [] [] (by simp) due
    rfl le_rfl).mpr ⟨rfl, renewal, rfl⟩
  dsimp only [List.nil_append] at single ⊢
  rw [single.1, single.2, ← and_assoc, and_self, applied, carryOutAll_completes_iff]
  refine and_congr_right fun _ => ⟨fun repeated => ⟨first, later, split, repeated⟩, ?_⟩
  rintro ⟨other, rest, split', repeated⟩
  obtain ⟨rfl, rfl⟩ : other = first ∧ rest = later := by simpa using split'.symm.trans split
  exact repeated

namespace Deployment

def batchRecord (assignmentId jobId : UUID) : Record where
  assignmentId := assignmentId
  kind := .batch
  attemptToken := assignmentId + 1000
  instanceId := 10
  generation := none
  payload := .job (formatJobResponse (job jobId) "")

def leased : Coordinator where
  journal := { records := ⟨[batchRecord 1001 100, batchRecord 1002 101], by decide⟩ }
  instanceId := 10
  mode := .batchActive
  deadlines id := if id = 1001 ∨ id = 1002 then some 40 else none

def executors : Executors where
  managed _ := false
  cleans _ := true

def renewal : Turn where
  assignmentId := 1001
  action := .renew
  leaseSeconds := 45
  clock := 10

def stop (assignmentId : UUID) : Turn where
  assignmentId := assignmentId
  action := .stop
  leaseSeconds := 0
  clock := 10

/-- The renewal is due, yet a decision in front of it, for an assignment that the Scheduler granted
and the journal does not hold, keeps the old deadline; alone in the list, the renewal would have set
the deadline to 50. -/
theorem unknown_keeps_deadline :
    renewal.action = .renew ∧ leased.authoritative renewal.clock renewal.assignmentId = true ∧
      leased.renewSequences renewal.assignmentId < 1 ∧
      renewal.clock < leaseDeadline 10 renewal.leaseSeconds ∧
      (leased.carryOutAll executors 10 1 [stop 1003, renewal]).1 =
        some (.unknownAssignment 1003) ∧
      (leased.carryOutAll executors 10 1 [stop 1003, renewal]).2.deadlines 1001 = some 40 ∧
      (leased.carryOutAll executors 10 1 [renewal]).2.deadlines 1001 = some 50 := by
  decide +kernel

/-- Behind a stop of the other journalled assignment the renewal has its effect. -/
theorem journalled_sets_deadline :
    (leased.carryOutAll executors 10 1 [stop 1002, renewal]).2.deadlines 1001 = some 50 := by
  have applied := (renewals_independent_iff executors 10 1 leased [stop 1002, renewal]
    (by decide +kernel) renewal (by decide +kernel) rfl (by decide +kernel) (by decide +kernel)
    (by decide +kernel)).mpr
      ⟨carryOutAll_completes_iff.mp (by decide +kernel), renewal, [], rfl, rfl, rfl⟩
  rw [show (1001 : UUID) = renewal.assignmentId from rfl, applied.1]
  decide +kernel

end Deployment

end TrainingScheduler
