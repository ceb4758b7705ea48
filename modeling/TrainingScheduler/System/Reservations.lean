import TrainingScheduler.Scheduler.Isolation
import TrainingScheduler.System.Leases

/-!
# Orphaned reservations

The Worker forgets its durable claim whenever a response arrives, whatever it says.  An unreleased
assignment is therefore orphaned when the response hides it, or when a late repeat of the claim is
granted after the Worker has given it up.  Runs without these two events have no orphans.
-/

namespace TrainingScheduler

/-- The main thread waits for the response to a claim call. -/
def Host.Outstanding (call : Nat) : Host → Prop
  | .down _ => False
  | .up process =>
    process.main = .resolving call ∨ ∃ sentAt, process.main = .claiming call sentAt

namespace World

variable (world : World) (workerId : UUID)

def pending : Option Claim := (world.hosts workerId).journal.claim

/-- A response to the outstanding claim call of the Worker is under way. -/
def Offered (reply : ClaimReply) : Prop :=
  ∃ call, (world.hosts workerId).Outstanding call ∧ world.calls.Answers call (.claim reply)

/-- The Worker still waits for an assignment under the claim. -/
def Awaits (claim : Claim) : Prop :=
  world.pending workerId = some claim ∧ ∀ reply, world.Offered workerId reply →
    reply.assignment ≠ none

/-- An open record names the assignment, or its claim is still to be resolved. -/
def Covers (row : Assignment) : Prop :=
  (∃ record ∈ (world.hosts row.workerId).journal.active, record.fence = row.fence) ∨
    world.pending row.workerId = some ⟨row.instanceId, row.requestId⟩

instance (world : World) (row : Assignment) : Decidable (world.Covers row) :=
  inferInstanceAs (Decidable (_ ∨ _))

end World

/-- A step that orphans nothing: a claim is granted only while its Worker awaits it, and the Worker
gives up its durable claim on a stale response only if the assignment made for it is released. -/
structure Careful (before after : World) : Prop where
  granted : ∀ row ∈ after.db.assignments.rows,
    (∀ old ∈ before.db.assignments.rows, old.id ≠ row.id) →
      before.Awaits row.workerId ⟨row.instanceId, row.requestId⟩
  discarded : ∀ workerId claim, before.pending workerId = some claim →
    after.pending workerId = none → ∀ reply, before.Offered workerId reply →
      reply.requestState = some .stale → ∀ row ∈ before.db.assignments.rows,
        row.MadeFor workerId claim → ¬row.Unreleased

def CarefulStep (settings : Settings) (digest : Digest) (before after : World) : Prop :=
  World.Step settings digest before after ∧ Careful before after

section

variable {world : World} {workerId : UUID} {host next : Host} {message : Option Message}

theorem HostStep.journalled (answers : world.AnswersSound)
    (step : HostStep world workerId host next message) {record : Record}
    (member : record ∈ host.journal.records.rows) :
    ∃ later ∈ next.journal.records.rows, later.assignmentId = record.assignmentId := by
  have kept {closes : UUID → Prop} {before after : Coordinator} (keeps : before.Keeps closes after)
      (member : record ∈ before.journal.records.rows) :
      ∃ later ∈ after.journal.records.rows, later.assignmentId = record.assignmentId := by
    obtain ⟨later, later_mem, same⟩ := keeps.records.exists_after member
    exact ⟨later, later_mem, same.id_eq⟩
  cases step with
  | boot | crash => exact ⟨record, member, rfl⟩
  | resolveInterrupted | acceptInterrupted =>
    simp only [Host.journal] at member ⊢
    exact exists_adopted member
  | main process next message step =>
    cases step with
    | resolved call reply main answered => exact exists_adopted member
    | beginClaim requestId request coordinator fresh main begun =>
      obtain ⟨-, -, rfl⟩ := beginClaim_eq_some begun
      exact ⟨record, member, rfl⟩
    | declined requestId coordinator main begun => exact kept (beginClaim_eq_none begun) member
    | accepted call sentAt reply main answered =>
      simp only [Host.journal, Process.journal, accept_journal]
      exact exists_adopted member
    | _ => exact ⟨record, member, rfl⟩
  | beat process next message step =>
    cases step with
    | decide decision rest sentAt sequence beat known =>
      rcases decide_cases process.coordinator (process.clock world.now) sentAt sequence
        decision with keeps | ⟨-, -, renewed⟩
      · exact kept keeps member
      · simp only [Host.journal, Process.journal, renewed]
        exact ⟨record, member, rfl⟩
    | _ => exact ⟨record, member, rfl⟩
  | upkeep process coordinator message step =>
    obtain ⟨closes, keeps, -⟩ := step.keeps answers
    exact kept keeps member

/-- What a step does with the durable claim: it leaves it, sends it, or settles it by a response. -/
inductive ClaimProgress (world : World) (host next : Host) : Prop where
  | kept (claim : next.journal.claim = host.journal.claim)
      (outstanding : ∀ call, next.Outstanding call → host.Outstanding call)
  | sent (request : Claim) (claim : next.journal.claim = some request)
      (same : ∀ earlier, host.journal.claim = some earlier → earlier = request)
      (outstanding : ∀ call, next.Outstanding call → call = world.calls.next)
  | settled (call : Nat) (reply : ClaimReply) (outstanding : host.Outstanding call)
      (answered : world.calls.Answers call (.claim reply)) (claim : next.journal.claim = none)
      (resting : ∀ call, ¬next.Outstanding call)
      (journalled : ∀ envelope, reply.assignment = some envelope →
        ∃ record ∈ next.journal.records.rows, record.assignmentId = envelope.assignmentId)

theorem MainStep.progress {process next : Process} (step : MainStep world process next message) :
    ClaimProgress world (.up process) (.up next) := by
  have outstanding_eq {main : MainThread} (main_eq : process.main = main) (call : Nat) :
      (Host.up process).Outstanding call ↔
        main = .resolving call ∨ ∃ sentAt, main = .claiming call sentAt := by
    simp only [Host.Outstanding, main_eq]
  cases step with
  | resolve request main pending =>
    refine .sent request pending (fun earlier found => ?_) (fun call waiting => ?_)
    · exact Option.some.inj (found.symm.trans pending)
    · simpa [Host.Outstanding, eq_comm] using waiting
  | resolved call reply main answered =>
    refine .settled call reply ((outstanding_eq main call).mpr (.inl rfl)) answered rfl
      (by simp [Host.Outstanding]) fun envelope shown => ?_
    exact ⟨_, adopted_mem shown, rfl⟩
  | beginClaim requestId request coordinator fresh main begun =>
    obtain ⟨chosen, _, rfl⟩ := beginClaim_eq_some begun
    refine .sent request rfl (fun earlier found => ?_) (fun call waiting => ?_)
    · have pending : process.coordinator.journal.claim = some earlier := found
      rw [chosen, pending, Option.getD_some]
    · simpa [Host.Outstanding, eq_comm] using waiting
  | declined requestId coordinator main begun =>
    exact .kept (beginClaim_eq_none begun).claim fun call waiting => waiting
  | accepted call sentAt reply main answered =>
    have journal := accept_journal process.coordinator (process.clock world.now) reply sentAt
    refine .settled call reply ((outstanding_eq main call).mpr (.inr ⟨sentAt, rfl⟩)) answered ?_
      (by simp [Host.Outstanding]) fun envelope shown => ?_
    · simp only [Host.journal, Process.journal, journal, Journal.dropClaim]
    · simp only [Host.journal, Process.journal, journal]
      exact ⟨_, adopted_mem shown, rfl⟩
  | _ => exact .kept rfl (by simp [Host.Outstanding])

theorem HostStep.progress (answers : world.AnswersSound)
    (step : HostStep world workerId host next message) : ClaimProgress world host next := by
  cases step with
  | boot | crash => exact .kept rfl (by simp [Host.Outstanding])
  | resolveInterrupted | acceptInterrupted =>
    exact .kept (by simp [Host.journal]) (by simp [Host.Outstanding])
  | main process next message step => exact step.progress
  | beat process next message step =>
    cases step with
    | decide decision rest sentAt sequence beat known =>
      refine .kept ?_ fun call waiting => waiting
      rcases decide_cases process.coordinator (process.clock world.now) sentAt sequence
        decision with keeps | ⟨-, -, renewed⟩
      · exact keeps.claim
      · simp only [Host.journal, Process.journal, renewed]
    | _ => exact .kept rfl fun call waiting => waiting
  | upkeep process coordinator message step =>
    obtain ⟨closes, keeps, -⟩ := step.keeps answers
    exact .kept keeps.claim fun call waiting => waiting

theorem Host.Lawful.carries {call : Nat} (lawful : host.Lawful world workerId)
    (outstanding : host.Outstanding call) :
    ∃ claim request, host.journal.claim = some claim ∧
      world.CarriesClaim workerId call claim request := by
  cases host with
  | down journal => exact outstanding.elim
  | up process =>
    have phase := lawful.main
    rcases outstanding with resolving | ⟨sentAt, claiming⟩
    · rw [resolving] at phase
      obtain ⟨-, claim, request, pending, carries⟩ := phase
      exact ⟨claim, request, pending, carries⟩
    · rw [claiming] at phase
      obtain ⟨claim, request, pending, -, carries, -⟩ := phase
      exact ⟨claim, request, pending, carries⟩

end

/-- A response without an assignment hides no live one, unless it says that it does. -/
def Candid (world : World) : Prop :=
  ∀ workerId claim reply, world.pending workerId = some claim → world.Offered workerId reply →
    reply.assignment = none → reply.requestState ≠ some .stale →
      ∀ row ∈ world.db.assignments.rows, row.MadeFor workerId claim → ¬row.Unreleased

/-- Every unreleased assignment is journalled or still to be resolved. -/
def Known (world : World) : Prop :=
  ∀ row ∈ world.db.assignments.rows, row.Unreleased →
    (∃ record ∈ (world.hosts row.workerId).journal.records.rows, record.assignmentId = row.id) ∨
      world.pending row.workerId = some ⟨row.instanceId, row.requestId⟩

section

variable {settings : Settings} {digest : Digest} {world after : World} {workerId : UUID}
  {reply : ClaimReply} {claim : Claim} {row : Assignment}

/-- Giving up the durable claim leaves no live assignment behind. -/
theorem settled_of_careful (lawful : world.Lawful settings digest) (candid : Candid world)
    (careful : Careful world after) {call : Nat}
    (outstanding : (world.hosts workerId).Outstanding call)
    (answered : world.calls.Answers call (.claim reply))
    (pending : world.pending workerId = some claim) (dropped : after.pending workerId = none)
    (member : row ∈ world.db.assignments.rows) (made : row.MadeFor workerId claim)
    (unreleased : row.Unreleased) :
    ∃ envelope, reply.assignment = some envelope ∧ envelope.assignmentId = row.id := by
  have offered : world.Offered workerId reply := ⟨call, outstanding, answered⟩
  cases shown : reply.assignment with
  | none =>
    by_cases stale : reply.requestState = some .stale
    · exact absurd unreleased
        (careful.discarded workerId claim pending dropped reply offered stale row member made)
    · exact absurd unreleased
        (candid workerId claim reply pending offered shown stale row member made)
  | some envelope =>
    refine ⟨envelope, rfl, ?_⟩
    obtain ⟨other, request, other_pending, carries⟩ := (lawful.hosts workerId).carries outstanding
    obtain rfl : claim = other := Option.some.inj (pending.symm.trans other_pending)
    obtain ⟨named, named_mem, named_made, fence, -⟩ :=
      row_of_answer lawful.answers carries answered shown
    rw [lawful.keyed.eq_of_madeFor member named_mem made named_made]
    exact (congrArg Fence.assignmentId fence).symm

theorem Known.of_step (known : Known world) (lawful : world.Lawful settings digest)
    (candid : Candid world) (step : World.Step settings digest world after)
    (careful : Careful world after) : Known after := by
  intro row member unreleased
  rcases step.origin member with ⟨old, old_mem, grant, backwards⟩ | ⟨hosts, fresh⟩
  · have old_unreleased := backwards unreleased
    have covered := known old old_mem old_unreleased
    rw [grant]
    rcases step.hosts old.workerId with rest | ⟨message, moved⟩
    · rwa [World.pending, rest]
    · rcases covered with ⟨record, record_mem, id_eq⟩ | pending
      · obtain ⟨later, later_mem, same⟩ := moved.journalled lawful.answers record_mem
        exact .inl ⟨later, later_mem, same.trans id_eq⟩
      · cases moved.progress lawful.answers with
        | kept claim outstanding => exact .inr (claim.trans pending)
        | sent request claim same outstanding => exact .inr (same _ pending ▸ claim)
        | settled call reply outstanding answered claim resting journalled =>
          obtain ⟨envelope, shown, id_eq⟩ := settled_of_careful lawful candid careful outstanding
            answered pending claim old_mem ⟨rfl, rfl, rfl⟩ old_unreleased
          obtain ⟨record, record_mem, same⟩ := journalled envelope shown
          exact .inl ⟨record, record_mem, same.trans id_eq⟩
  · obtain ⟨pending, -⟩ := careful.granted row member fresh
    refine .inr ?_
    rwa [World.pending, hosts]

theorem Candid.of_earlier (candid : Candid world) (step : World.Step settings digest world after)
    (careful : Careful world after) (pending : world.pending workerId = some claim)
    (offered : world.Offered workerId reply) (hidden : reply.assignment = none)
    (honest : reply.requestState ≠ some .stale) (member : row ∈ after.db.assignments.rows)
    (made : row.MadeFor workerId claim) : ¬row.Unreleased := by
  intro unreleased
  rcases step.origin member with ⟨old, old_mem, grant, backwards⟩ | ⟨-, fresh⟩
  · exact candid workerId claim reply pending offered hidden honest old old_mem
      (.of_grant grant.symm made) (backwards unreleased)
  · obtain ⟨-, awaiting⟩ := careful.granted row member fresh
    obtain ⟨rfl, -, -⟩ := made
    exact awaiting reply offered hidden

private theorem candid_of_respond (lawful : world.Lawful settings digest) {choose : Choose}
    {newId : Nat → UUID × UUID} {sentAt : Time}
    (produced : Request.respond settings digest choose newId world.now world.db
      ⟨workerId, sentAt, .claim claim⟩ = .claim reply) (hidden : reply.assignment = none)
    (honest : reply.requestState ≠ some .stale) (member : row ∈ (Op.apply digest world.now world.db
      (.claim settings choose newId workerId claim)).assignments.rows)
    (made : row.MadeFor workerId claim) : ¬row.Unreleased := by
  simp only [Request.respond] at produced
  simp only [Op.apply] at member
  cases called : TrainingScheduler.claim settings digest choose newId world.now world.db workerId
    claim with
  | error exception => simp [called] at produced
  | ok value =>
    obtain ⟨answer, db⟩ := value
    simp only [called, Answer.claim.injEq] at produced
    subst produced
    rw [called] at member
    cases claimResult_of_claim called with
    | replayed previous found hash =>
      obtain ⟨previous_mem, previous_made⟩ := madeFor_of_previousClaim found
      rw [lawful.keyed.eq_of_madeFor member previous_mem made previous_made]
      exact released_of_envelope hidden honest
    | refused first => exact absurd made (not_madeFor_of_previousClaim first member)
    | granted db assignment placement granted =>
      exact absurd granted.inserted.unreleased (released_of_envelope hidden honest)

theorem Candid.of_step (candid : Candid world) (lawful : world.Lawful settings digest)
    (step : World.Step settings digest world after) (careful : Careful world after) :
    Candid after := by
  intro workerId claim reply pending offered hidden honest row member made
  have whole := step
  cases step with
  | serve call request choose newId carried =>
    obtain ⟨waiting, outstanding, answered⟩ := offered
    rcases Calls.answers_answer_iff.mp answered with earlier | ⟨rfl, produced⟩
    · exact candid.of_earlier whole careful pending ⟨waiting, outstanding, earlier⟩ hidden honest
        member made
    · obtain ⟨other, sent, other_pending, sent_carried, sender, message⟩ :=
        (lawful.hosts workerId).carries outstanding
      obtain rfl : claim = other := Option.some.inj (pending.symm.trans other_pending)
      obtain rfl : request = sent := carried.unique sent_carried
      obtain ⟨_, sentAt, _⟩ := request
      dsimp only at sender message
      subst sender message
      exact candid_of_respond lawful produced.symm hidden honest member made
  | host moving host message moved =>
    obtain ⟨call, outstanding, answered⟩ := offered
    have earlier : world.calls.Answers call (.claim reply) := by
      cases message with
      | none | some => exact answered
    by_cases same : workerId = moving
    · subst same
      rw [World.pending, world.act_self] at pending
      rw [world.act_self] at outstanding
      cases moved.progress lawful.answers with
      | kept claim_eq still =>
        exact candid.of_earlier whole careful (claim_eq.symm.trans pending)
          ⟨call, still call outstanding, earlier⟩ hidden honest member made
      | sent request claim_eq same still =>
        obtain rfl := still call outstanding
        obtain ⟨asked, carried, -⟩ := lawful.answers _ _ earlier
        simp [Calls.Carries, Calls.next] at carried
      | settled waiting settling outstanding' answered' claim_eq resting journalled =>
        exact absurd outstanding (resting call)
    · rw [World.pending, world.act_ne same] at pending
      rw [world.act_ne same] at outstanding
      exact candid.of_earlier whole careful pending ⟨call, outstanding, earlier⟩ hidden honest
        member made
  | _ => exact candid.of_earlier whole careful pending offered hidden honest member made

end

/-- The Worker can acknowledge whatever is known. -/
theorem covers_of_known {settings : Settings} {digest : Digest} {world : World}
    (lawful : world.Lawful settings digest) (known : Known world) {row : Assignment}
    (member : row ∈ world.db.assignments.rows) (unreleased : row.Unreleased) :
    world.Covers row := by
  rcases known row member unreleased with ⟨record, record_mem, id_eq⟩ | pending
  · exact .inl ⟨record, lawful.open_record member unreleased record_mem id_eq⟩
  · exact .inr pending

/-- In a careful run each unreleased assignment is in its journal or under its durable claim. -/
theorem careful_run_covers {settings : Settings} {digest : Digest} {initial world : World}
    (start : initial.Initial)
    (run : Relation.ReflTransGen (CarefulStep settings digest) initial world)
    {row : Assignment} (member : row ∈ world.db.assignments.rows) (unreleased : row.Unreleased) :
    world.Covers row := by
  have invariant : world.Lawful settings digest ∧ Known world ∧ Candid world := by
    clear member unreleased
    induction run with
    | refl =>
      refine ⟨.of_initial start, fun row member => ?_, ?_⟩
      · simp [start.unassigned] at member
      · rintro workerId claim reply - ⟨call, -, answered⟩
        simp [Calls.Answers, start.silent.2] at answered
    | tail _ step induction =>
      obtain ⟨lawful, known, candid⟩ := induction
      obtain ⟨step, careful⟩ := step
      exact ⟨lawful.of_step step, known.of_step lawful candid step careful,
        candid.of_step lawful step careful⟩
  exact covers_of_known invariant.1 invariant.2.1 member unreleased

namespace Deployment

def workspace : World where
  now := 1
  db := studio
  hosts id := if id = 1 then .up (idle 10) else .down {}

private theorem workspace_initial : workspace.Initial where
  unassigned := rfl
  silent := ⟨rfl, rfl⟩
  fresh workerId := by
    unfold workspace
    dsimp only
    split_ifs
    · exact ⟨rfl, rfl, .inr rfl, rfl, fun _ => rfl, by decide +kernel⟩
    · exact ⟨rfl, rfl⟩

def requested : World :=
  workspace.act 1 (.up (begins workspace 2 (idle 10))) (some (.claim ⟨10, 2⟩))

def grantedRuntime : World :=
  requested.serve settings digest (runtimeOnly (some "GPU-0")) (fun _ => (1002, 2002)) 0
    ⟨1, 1, .claim ⟨10, 2⟩⟩

/-- The process after the response got lost: the claim stays durable for a retry. -/
def unanswered : Process :=
  { begins workspace 2 (idle 10) with
    coordinator := (begins workspace 2 (idle 10)).coordinator.claimFailed
    main := .polling }

/-- The response is lost, and the lease passes before the retry. -/
def lapsed : World := { grantedRuntime.act 1 (.up unanswered) none with now := 60 }

def lapsedLost : World := { lapsed with db := expire 60 lapsed.db }

/-- The Worker retries under its durable claim, and is told that the assignment is stale. -/
def retried : World :=
  lapsedLost.act 1 (.up (begins lapsedLost 3 unanswered)) (some (.claim ⟨10, 2⟩))

def answeredStale : World :=
  retried.serve settings digest (runtimeOnly (some "GPU-0")) (fun _ => (1003, 2003)) 1
    ⟨1, 60, .claim ⟨10, 2⟩⟩

def staleReply : ClaimReply :=
  replyOf (Request.respond settings digest (runtimeOnly (some "GPU-0")) (fun _ => (1003, 2003)) 60
    retried.db ⟨1, 60, .claim ⟨10, 2⟩⟩)

/-- The Worker takes the response and forgets the claim. -/
def orphaned : World :=
  answeredStale.act 1 (.up (accepts answeredStale staleReply (begins lapsedLost 3 unanswered))) none

private theorem lapsed_reachable : lapsed.Reachable settings digest := by
  have waiting : grantedRuntime.hosts 1 = .up (begins workspace 2 (idle 10)) := rfl
  have claim : World.Step settings digest workspace requested :=
    .main rfl (.beginClaim 2 _ _ (by decide) rfl rfl)
  have grant : World.Step settings digest requested grantedRuntime := .serve 0 _ _ _ rfl
  have fail : World.Step settings digest grantedRuntime
      (grantedRuntime.act 1 (.up unanswered) none) :=
    .main waiting (.claimFailed 0 _ rfl)
  exact ⟨workspace, workspace_initial,
    (((Relation.ReflTransGen.single claim).tail grant).tail fail).tail
      (.tick 60 (by decide +kernel))⟩

private theorem orphaned_reachable : orphaned.Reachable settings digest := by
  obtain ⟨initial, start, run⟩ := lapsed_reachable
  have resting : lapsedLost.hosts 1 = .up unanswered := rfl
  have waiting : answeredStale.hosts 1 = .up (begins lapsedLost 3 unanswered) := rfl
  have retry : World.Step settings digest lapsedLost retried :=
    .main resting (.beginClaim 3 _ _ (by decide +kernel) rfl rfl)
  have answer : World.Step settings digest retried answeredStale := .serve 1 _ _ _ rfl
  have accept : World.Step settings digest answeredStale orphaned :=
    .main waiting (.accepted 1 _ staleReply rfl (by decide +kernel))
  exact ⟨initial, start, (((run.tail .expire).tail retry).tail answer).tail accept⟩

/-- The unreleased assignment of the current instance is neither journalled nor under the durable
claim, so the Worker can never acknowledge its cleanup. -/
theorem orphaned_uncovered :
    orphaned.Reachable settings digest ∧ ∃ row ∈ orphaned.db.assignments.rows, row.Unreleased ∧
      orphaned.db.currentInstance row.workerId = some row.instanceId ∧ ¬orphaned.Covers row :=
  ⟨orphaned_reachable, by decide +kernel⟩

private theorem careful_claimed : Careful pair claimed where
  granted row member fresh := absurd rfl (fresh row member)
  discarded workerId claim pending := by
    unfold World.pending pair at pending
    dsimp only at pending
    split_ifs at pending <;> cases pending

private theorem careful_served : Careful claimed served where
  granted row member _ := by
    have made : ∀ row ∈ served.db.assignments.rows, row.workerId = 1 ∧
        (⟨row.instanceId, row.requestId⟩ : Claim) = ⟨10, 1⟩ := by decide +kernel
    obtain ⟨worker, claim⟩ := made row member
    rw [worker, claim]
    refine ⟨rfl, ?_⟩
    rintro reply ⟨call, -, answered⟩
    cases answered
  discarded workerId claim pending dropped := by
    cases pending.symm.trans dropped

private theorem careful_held : Careful served held where
  granted row member fresh := absurd rfl (fresh row member)
  discarded workerId claim _ _ reply offered stale := by
    obtain ⟨call, -, answered⟩ := offered
    have candid : ∀ answer ∈ served.calls.answers.map Prod.snd,
        (replyOf answer).requestState = none := by decide +kernel
    have state := candid (.claim reply) (List.mem_map.mpr ⟨_, answered, rfl⟩)
    cases state.symm.trans stale

/-- The granted assignment is covered by the durable claim, and then by the journal. -/
theorem held_covered :
    ∃ row, row ∈ served.db.assignments.rows ∧ row ∈ held.db.assignments.rows ∧ row.Unreleased ∧
      served.Covers row ∧ held.Covers row ∧ served.pending 1 ≠ none ∧ held.pending 1 = none := by
  obtain ⟨row, member, unreleased⟩ : ∃ row ∈ served.db.assignments.rows, row.Unreleased := by
    decide +kernel
  have run : Relation.ReflTransGen (CarefulStep settings digest) pair served :=
    .tail (.single ⟨step_claimed, careful_claimed⟩) ⟨step_served, careful_served⟩
  exact ⟨row, member, member, unreleased, careful_run_covers pair_initial run member unreleased,
    careful_run_covers pair_initial (run.tail ⟨step_held, careful_held⟩) member unreleased,
    by decide +kernel, by decide +kernel⟩

end Deployment

end TrainingScheduler
