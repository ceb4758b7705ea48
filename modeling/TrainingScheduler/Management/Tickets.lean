import TrainingScheduler.Management.Service

/-!
# Tickets and their sessions

A ticket stands for its grant, which has at most one session.  A grant is spent once it is revoked
or its session has ended, also by a new registration of its endpoint or the end of its enrollment.
A spent grant never leads to a destination again.
-/

namespace TrainingScheduler.Management

open Table

section

variable {store : Store} {settings : Settings} {clock : Time} {session : Session}
  {grantId enrollmentId resourceId : UUID}

namespace Transition

variable {marks : Marks} {before after : Store}

section

variable (transition : Transition marks before after)

include transition

theorem grants_after {grant : Grant} (member : grant ∈ before.grants.rows) :
    ∃ next ∈ after.grants.rows, Grant.Moves grant next := by
  obtain ⟨middle, others, within, evolves, -⟩ := transition.factors
  exact evolves.grants.exists_after (within.grants member)

theorem sessions_after (member : session ∈ before.sessions.rows) :
    ∃ next ∈ after.sessions.rows, Session.Moves session next := by
  obtain ⟨middle, others, within, evolves, -⟩ := transition.factors
  exact evolves.sessions.exists_after (within.sessions member)

theorem sessions_before (member : session ∈ after.sessions.rows) :
    ∃ old, Session.Moves old session ∧ (old ∈ before.sessions.rows ∨ Opened before after old) := by
  obtain ⟨middle, others, -, evolves, origin⟩ := transition.factors
  obtain ⟨old, old_mem, moves⟩ := evolves.sessions.exists_before member
  exact ⟨old, moves, origin old old_mem⟩

theorem held (held : before.Held grantId resourceId enrollmentId) :
    after.Held grantId resourceId enrollmentId := by
  obtain ⟨middle, others, within, evolves, -⟩ := transition.factors
  exact evolves.held (held.mono within)

end

end Transition

/-- A grant has at most one session, with the deadline of the grant and a lease within it. -/
structure Bounded (store : Store) : Prop where
  one : store.sessions.Unique Session.grantId
  lease : ∀ session ∈ store.sessions.rows, session.leaseExpires ≤ session.deadline
  grant : ∀ session ∈ store.sessions.rows, ∃ grant ∈ store.grants.rows,
    grant.id = session.grantId ∧ grant.deadline = session.deadline

namespace Bounded

variable {marks : Marks} {before after : Store}

theorem init : Bounded {} where
  one := by rintro _ ⟨⟩
  lease := by rintro _ ⟨⟩
  grant := by rintro _ ⟨⟩

private theorem one_step (one : before.sessions.Unique Session.grantId)
    (transition : Transition marks before after) : after.sessions.Unique Session.grantId := by
  have evolved {sessions : Table Session.id} (one : sessions.Unique Session.grantId)
      (related : sessions.Rowwise Session.Moves after.sessions) :
      after.sessions.Unique Session.grantId :=
    one.rowwise related (fun moves => moves.id_eq) fun moves => moves.grantId_eq
  cases transition with
  | evolved evolves => exact evolved one evolves.sessions
  | reserved row reserved =>
    obtain ⟨enrollments, -, evolves⟩ := reserved.evolves
    exact evolved one evolves.sessions
  | registered _ _ _ after_eq =>
    subst after_eq
    exact one
  | issued _ _ _ _ after_eq =>
    subst after_eq
    exact one
  | opened session opened =>
    obtain ⟨sessions, inserted, evolves⟩ := opened.evolves
    have grown : sessions.Unique Session.grantId := one.insert inserted opened.only
    exact evolved grown evolves.sessions

theorem step (bounded : Bounded before) (transition : Transition marks before after) :
    Bounded after where
  one := one_step bounded.one transition
  lease session member := by
    obtain ⟨old, moves, earlier | opened⟩ := transition.sessions_before member
    · exact moves.bounded (bounded.lease old earlier)
    · exact moves.bounded opened.bounded
  grant session member := by
    obtain ⟨old, moves, source⟩ := transition.sessions_before member
    obtain ⟨grant, grant_mem, id, deadline⟩ : ∃ grant ∈ before.grants.rows,
        grant.id = old.grantId ∧ grant.deadline = old.deadline := by
      rcases source with earlier | opened
      · exact bounded.grant old earlier
      · obtain ⟨grant, grant_mem, id, deadline⟩ := opened.grant
        exact ⟨grant, grant_mem, id.symm, deadline.symm⟩
    obtain ⟨next, next_mem, grant_moves⟩ := transition.grants_after grant_mem
    refine ⟨next, next_mem, ?_, ?_⟩
    · rw [grant_moves.id_eq, id, moves.grantId_eq]
    · rw [grant_moves.deadline_eq, deadline, moves.deadline_eq]

end Bounded

/-- The grant is revoked, or its session has ended. -/
def Store.Spent (store : Store) (grantId : UUID) : Prop :=
  (∃ grant ∈ store.grants.rows, grant.id = grantId ∧ grant.state = .revoked) ∨
    ∃ session ∈ store.sessions.rows, session.grantId = grantId ∧ session.state ≠ .active

theorem Transition.spent {marks : Marks} {before after : Store}
    (transition : Transition marks before after) (spent : before.Spent grantId) :
    after.Spent grantId := by
  rcases spent with ⟨grant, member, id, revoked⟩ | ⟨session, member, id, ended⟩
  · obtain ⟨next, next_mem, moves⟩ := transition.grants_after member
    exact .inl ⟨next, next_mem, moves.id_eq.trans id, moves.revoked revoked⟩
  · obtain ⟨next, next_mem, moves⟩ := transition.sessions_after member
    exact .inr ⟨next, next_mem, moves.grantId_eq.trans id, moves.ended ended⟩

variable {reply : Destination}

theorem destination_eq_ok (done : destination settings clock store session = .ok reply) :
    session.state = .active ∧ reply.sessionId = session.id ∧
      ∃ grant ∈ store.grants.rows, grant.id = session.grantId ∧ grant.state = .claimed := by
  obtain ⟨grant, found, rest⟩ := bind_eq_ok done
  obtain ⟨endpoint, -, rest⟩ := bind_eq_ok rest
  obtain ⟨usable, rest⟩ := guard_eq_ok rest
  obtain ⟨enrollment, -, rest⟩ := bind_eq_ok rest
  obtain ⟨gateway, -, same⟩ := bind_eq_ok rest
  cases same
  obtain ⟨member, id⟩ := get_eq_ok found
  have active : session.state = .active := by
    by_contra ended
    exact usable (.inl ended)
  have claimed : grant.state = .claimed := by
    by_contra unclaimed
    exact usable (.inr (.inl unclaimed))
  exact ⟨active, rfl, grant, member, id, claimed⟩

theorem no_destination_of_spent (bounded : Bounded store) (member : session ∈ store.sessions.rows)
    (spent : store.Spent session.grantId) (reply : Destination) :
    destination settings clock store session ≠ .ok reply := by
  intro done
  obtain ⟨active, -, grant, grant_mem, id, claimed⟩ := destination_eq_ok done
  rcases spent with ⟨other, other_mem, other_id, revoked⟩ | ⟨other, other_mem, same, ended⟩
  · have merged := store.grants.eq_of_key_eq grant_mem other_mem (id.trans other_id.symm)
    rw [← merged, claimed] at revoked
    cases revoked
  · rw [bounded.one other other_mem session member same] at ended
    exact ended active

variable {ticket : Ticket} {requestId sessionId : UUID}

private theorem no_claim_of_spent (bounded : Bounded store) (spent : store.Spent ticket.jti)
    (requestId id : UUID) (actor : Actor) (outcome : Destination × Store) :
    claim settings clock store ticket requestId actor id ≠ .ok outcome := by
  intro done
  obtain ⟨grant, grant_mem, ⟨grant_id, -, -⟩, session, -, ⟨owner, -, -⟩, leads, source⟩ :=
    claim_eq_ok done
  rw [← grant_id] at spent
  rcases source with ⟨existing, same⟩ | ⟨issued, opened⟩
  · rw [same] at leads
    exact no_destination_of_spent bounded existing (owner ▸ spent) _ leads
  · rcases spent with ⟨other, other_mem, other_id, revoked⟩ | ⟨other, other_mem, same, -⟩
    · have merged := store.grants.eq_of_key_eq grant_mem other_mem other_id.symm
      rw [← merged, issued] at revoked
      cases revoked
    · exact opened.only other other_mem (same.trans owner.symm)

private theorem no_renew_of_spent (bounded : Bounded store) (member : session ∈ store.sessions.rows)
    (spent : store.Spent session.grantId) (actor : Actor) (outcome : Destination × Store) :
    renew settings clock store session.id actor ≠ .ok outcome := by
  intro done
  obtain ⟨⟨other, other_mem, same, reply, leads⟩, -⟩ := renew_eq_ok done
  have merged := store.sessions.eq_of_key_eq other_mem member same
  rw [merged] at leads
  exact no_destination_of_spent bounded member spent reply leads

/-- The grant issued for the endpoint was revoked, its session released or revoked, the endpoint
registered under another enrollment, or the enrollment denied or replaced. -/
inductive Ended (store : Store) (grantId : UUID) (endpoint : Endpoint) : Prop where
  | revoked (grant : Grant) (member : grant ∈ store.grants.rows) (id : grant.id = grantId)
      (state : grant.state = .revoked)
  | closed (session : Session) (member : session ∈ store.sessions.rows)
      (owner : session.grantId = grantId) (state : session.state ≠ .active)
  | registered (current : Endpoint) (member : current ∈ store.endpoints.rows)
      (id : current.id = endpoint.id) (other : current.enrollmentId ≠ endpoint.enrollmentId)
  | denied (row : Enrollment) (member : row ∈ store.enrollments.rows)
      (id : row.id = endpoint.enrollmentId) (dead : ¬ row.Live)
  | replaced (row newer : Enrollment) (member : row ∈ store.enrollments.rows)
      (newer_mem : newer ∈ store.enrollments.rows) (id : row.id = endpoint.enrollmentId)
      (identity : newer.SameIdentity row) (created : row.created < newer.created)

theorem revoked_of_not_bound (held : store.Held grantId resourceId enrollmentId)
    (unbound : ¬ store.Bound resourceId enrollmentId) : store.Spent grantId := by
  obtain ⟨grant, member, id, -, revoked | bound⟩ := held
  · exact .inl ⟨grant, member, id, revoked⟩
  · exact absurd bound unbound

theorem Ended.spent {endpoint : Endpoint} (ended : Ended store grantId endpoint)
    (newest : Newest store.enrollments)
    (held : store.Held grantId endpoint.id endpoint.enrollmentId) : store.Spent grantId := by
  have dead {row : Enrollment} (member : row ∈ store.enrollments.rows)
      (id : row.id = endpoint.enrollmentId) (dead : ¬ row.Live) :
      ¬ store.Bound endpoint.id endpoint.enrollmentId := by
    rintro ⟨-, other, other_mem, other_id, confirmed⟩
    have merged := store.enrollments.eq_of_key_eq other_mem member (other_id.trans id.symm)
    rw [merged] at confirmed
    exact dead (by simp [Enrollment.Live, confirmed, deadStates])
  cases ended with
  | revoked grant member id state => exact .inl ⟨grant, member, id, state⟩
  | closed session member owner state => exact .inr ⟨session, member, owner, state⟩
  | registered current member id other =>
    refine revoked_of_not_bound held ?_
    rintro ⟨⟨served, served_mem, served_id, registered⟩, -⟩
    have merged := store.endpoints.eq_of_key_eq served_mem member (served_id.trans id.symm)
    rw [merged] at registered
    exact other registered
  | denied row member id not_live => exact revoked_of_not_bound held (dead member id not_live)
  | replaced row newer member newer_mem id identity created =>
    refine revoked_of_not_bound held (dead member id ?_)
    intro alive
    exact absurd created (not_lt.mpr (newest row member alive newer newer_mem identity))

structure Sound (store : Store) : Prop where
  distinct : Distinct store.enrollments
  newest : Newest store.enrollments
  bounded : Bounded store

theorem Sound.run (settings : Settings) (sound : Sound store) (transactions : List Transaction) :
    Sound (store.run settings transactions) := by
  refine Store.run_preserves Sound (fun store transaction sound => ?_) sound transactions
  have transition := Transaction.transition settings store transaction
  obtain ⟨distinct, newest⟩ := transition.ordered sound.distinct sound.newest
  exact ⟨distinct, newest, sound.bounded.step transition⟩

theorem Sound.init : Sound {} :=
  ⟨Service.Invariant.init.distinct, Service.Invariant.init.newest, .init⟩

private theorem held_run (settings : Settings) (held : store.Held grantId resourceId enrollmentId)
    (transactions : List Transaction) :
    (store.run settings transactions).Held grantId resourceId enrollmentId :=
  Store.run_preserves (fun store => store.Held grantId resourceId enrollmentId)
    (fun store transaction held => (transaction.transition settings store).held held) held
    transactions

private theorem spent_run (settings : Settings) (spent : store.Spent grantId)
    (transactions : List Transaction) : (store.run settings transactions).Spent grantId :=
  Store.run_preserves (fun store => store.Spent grantId)
    (fun store transaction spent => (transaction.transition settings store).spent spent) spent
    transactions

/-- A session and its grant, as the ticket and the first request describe them. -/
structure Claimed (settings : Settings) (store : Store) (ticket : Ticket)
    (requestId sessionId : UUID) : Prop where
  grant : ∃ grant ∈ store.grants.rows, grant.id = ticket.jti ∧ grant.ticket = ticket ∧
    grant.gateway = settings.gatewayId
  session : ∃ session ∈ store.sessions.rows, session.id = sessionId ∧
    session.grantId = ticket.jti ∧ session.requestId = requestId ∧
    session.gateway = settings.gatewayId

theorem Claimed.step {marks : Marks} {before after : Store}
    (claimed : Claimed settings before ticket requestId sessionId)
    (transition : Transition marks before after) :
    Claimed settings after ticket requestId sessionId where
  grant := by
    obtain ⟨grant, member, id, ticket_eq, gateway⟩ := claimed.grant
    obtain ⟨next, next_mem, moves⟩ := transition.grants_after member
    refine ⟨next, next_mem, moves.id_eq.trans id, ?_, ?_⟩
    · exact (congrArg Grant.ticket moves.terms).trans ticket_eq
    · exact (congrArg Grant.gateway moves.terms).trans gateway
  session := by
    obtain ⟨session, member, id, owner, request, gateway⟩ := claimed.session
    obtain ⟨next, next_mem, moves⟩ := transition.sessions_after member
    refine ⟨next, next_mem, moves.id_eq.trans id, moves.grantId_eq.trans owner, ?_, ?_⟩
    · exact (congrArg Session.requestId moves.terms).trans request
    · exact (congrArg Session.gateway moves.terms).trans gateway

private theorem claimed_of_claim {store after : Store} {id : UUID} {actor : Actor}
    (done : claim settings clock store ticket requestId actor id = .ok (reply, after)) :
    Claimed settings after ticket requestId reply.sessionId := by
  have transition := (Transaction.claim clock ticket requestId actor id).transition settings store
  simp only [Transaction.apply, settle, done] at transition
  obtain ⟨grant, grant_mem, ⟨grant_id, ticket_eq, gateway⟩, session, session_mem,
    ⟨owner, request, served⟩, leads, -⟩ := claim_eq_ok done
  obtain ⟨next, next_mem, moves⟩ := transition.grants_after grant_mem
  refine ⟨⟨next, next_mem, moves.id_eq.trans grant_id, ?_, ?_⟩, session, session_mem, ?_, ?_,
    request, served⟩
  · exact (congrArg Grant.ticket moves.terms).trans ticket_eq
  · exact (congrArg Grant.gateway moves.terms).trans gateway
  · exact (destination_eq_ok leads).2.1.symm
  · exact owner.trans grant_id

/-- A ticket with a session leads to it under its first request only. -/
theorem Claimed.claim_eq (claimed : Claimed settings store ticket requestId sessionId)
    (bounded : Bounded store) (decoded : decode settings clock ticket = .ok ticket) :
    ∃ session ∈ store.sessions.rows, session.id = sessionId ∧ ∀ other id,
      claim settings clock store ticket other .gateway id =
        if other = requestId then
          (destination settings clock store session).map fun reply => (reply, store)
        else .error ⟨410, "ticket consumed"⟩ := by
  obtain ⟨grant, grant_mem, grant_id, ticket_eq, gateway⟩ := claimed.grant
  obtain ⟨session, session_mem, id, owner, request, served⟩ := claimed.session
  refine ⟨session, session_mem, id, fun other new => ?_⟩
  have found : get store.grants ticket.jti = .ok grant := by
    unfold get
    rw [lookup_eq_some_iff.mpr ⟨grant_mem, grant_id⟩]
  have existing : (store.sessions.rows.find? fun session => session.grantId == grant.id) =
      some session := by
    cases first : store.sessions.rows.find? fun session => session.grantId == grant.id with
    | none =>
      have absent := List.find?_eq_none.mp first session session_mem
      simp [owner, grant_id] at absent
    | some other =>
      have same : other.grantId = grant.id := by simpa using List.find?_some first
      rw [bounded.one other (List.mem_of_find?_eq_some first) session session_mem
        (by rw [same, owner, grant_id])]
  have passed : require .gateway [Actor.gateway] = .ok () := rfl
  simp only [claim, passed, decoded, found, existing, ticket_eq, gateway, request, served, bind,
    Except.bind, ne_eq, not_true_eq_false, or_false, if_false]
  by_cases same : other = requestId
  · simp [same]
  · simp [same, Ne.symm same]

/-- Rows that every transaction keeps up to a relation are kept up to it by a run. -/
theorem run_related {ρ : Type} (settings : Settings) (rows : Store → List ρ) {moves : ρ → ρ → Prop}
    (refl : ∀ row, moves row row)
    (trans : ∀ {before middle after}, moves before middle → moves middle after → moves before after)
    (step : ∀ store (transaction : Transaction), ∀ row ∈ rows store,
      ∃ next ∈ rows (transaction.apply settings store).2, moves row next)
    (store : Store) (transactions : List Transaction) :
    ∀ row ∈ rows store, ∃ next ∈ rows (store.run settings transactions), moves row next := by
  intro row member
  refine Store.run_preserves (fun final => ∃ next ∈ rows final, moves row next) ?_
    ⟨row, member, refl row⟩ transactions
  rintro now transaction ⟨next, next_mem, first⟩
  obtain ⟨last, last_mem, second⟩ := step now transaction next next_mem
  exact ⟨last, last_mem, trans first second⟩

/-- Whatever transactions follow, enrollments, grants and sessions are kept under their terms, and
what has ended has ended for good: a dead enrollment, a revoked grant, and a session that is no
longer active. -/
theorem records_persist (settings : Settings) (store : Store) (transactions : List Transaction) :
    let final := store.run settings transactions
    (∀ row ∈ store.enrollments.rows, ∃ next ∈ final.enrollments.rows,
      next.terms = row.terms ∧ (¬ row.Live → ¬ next.Live)) ∧
    (∀ grant ∈ store.grants.rows, ∃ next ∈ final.grants.rows, Grant.Moves grant next) ∧
    ∀ session ∈ store.sessions.rows, ∃ next ∈ final.sessions.rows, Session.Moves session next := by
  refine ⟨?_, ?_, ?_⟩
  · refine run_related settings (fun store => store.enrollments.rows) (fun _ => ⟨rfl, id⟩) ?_
      (fun now transaction _ => (transaction.transition settings now).exists_after) _ _
    exact fun first second => ⟨second.1.trans first.1, second.2 ∘ first.2⟩
  · exact run_related settings (fun store => store.grants.rows) .refl .trans
      (fun now transaction _ => (transaction.transition settings now).grants_after) _ _
  · exact run_related settings (fun store => store.sessions.rows) .refl .trans
      (fun now transaction _ => (transaction.transition settings now).sessions_after) _ _

/-- After any run of transactions a ticket whose claim succeeded leads to the one session of its
grant, under the same request only and within the deadline of the grant, and a grant that was
revoked, closed, or cut off from its enrollment never leads to a destination again. -/
theorem tickets_authorize_one_session (settings : Settings) (history : List Transaction) :
    let store := Store.run settings {} history
    store.sessions.Unique Session.grantId ∧
    (∀ clock ticket requestId actor id reply after,
      claim settings clock store ticket requestId actor id = .ok (reply, after) →
      ∀ transactions later, decode settings later ticket = .ok ticket →
        let final := after.run settings transactions
        ∃ session ∈ final.sessions.rows, session.id = reply.sessionId ∧ ∀ other new,
          claim settings later final ticket other .gateway new =
            if other = requestId then
              (destination settings later final session).map fun reply => (reply, final)
            else .error ⟨410, "ticket consumed"⟩) ∧
    (∀ session ∈ store.sessions.rows, ∃ grant ∈ store.grants.rows,
      grant.id = session.grantId ∧ session.leaseExpires ≤ grant.deadline) ∧
    ∀ clock request actor jti reply issued endpoint,
      issue settings clock store request actor jti = .ok (reply, issued) →
      store.endpoints.lookup request.resourceId = some endpoint →
      ∀ between, Ended (issued.run settings between) jti endpoint → ∀ rest,
        let final := (issued.run settings between).run settings rest
        (∀ clock ticket requestId actor id outcome, ticket.jti = jti →
          claim settings clock final ticket requestId actor id ≠ .ok outcome) ∧
        ∀ session ∈ final.sessions.rows, session.grantId = jti → ∀ clock actor outcome,
          renew settings clock final session.id actor ≠ .ok outcome := by
  intro store
  have sound : Sound store := Sound.init.run settings history
  refine ⟨sound.bounded.one, ?_, ?_, ?_⟩
  · intro clock ticket requestId actor id reply after done transactions later decoded
    have stepped := sound.run settings [.claim clock ticket requestId actor id]
    simp only [Store.run, List.foldl_cons, List.foldl_nil, Transaction.apply, settle, done]
      at stepped
    have claimed : Claimed settings (after.run settings transactions) ticket requestId
        reply.sessionId :=
      Store.run_preserves (fun store => Claimed settings store ticket requestId reply.sessionId)
        (fun store transaction claimed => claimed.step (transaction.transition settings store))
        (claimed_of_claim done) transactions
    exact claimed.claim_eq (stepped.run settings transactions).bounded decoded
  · intro session member
    obtain ⟨grant, grant_mem, id, deadline⟩ := sound.bounded.grant session member
    exact ⟨grant, grant_mem, id, deadline ▸ sound.bounded.lease session member⟩
  · intro clock request actor jti reply issued endpoint done found between ended rest
    have stepped := sound.run settings [.issue clock request actor jti]
    simp only [Store.run, List.foldl_cons, List.foldl_nil, Transaction.apply, settle, done]
      at stepped
    obtain ⟨served, served_mem, served_id, bound, grants, inserted, -, -, rfl⟩ := issue_eq_ok done
    obtain rfl := eq_of_lookup found served_mem served_id
    have held : Store.Held { store with grants } jti served.id served.enrollmentId :=
      ⟨_, (mem_insert inserted).mpr (.inr rfl), rfl, rfl, .inr bound⟩
    have sound_ended := stepped.run settings between
    have spent := spent_run settings
      (ended.spent sound_ended.newest (held_run settings held between)) rest
    have bounded := (sound_ended.run settings rest).bounded
    refine ⟨?_, ?_⟩
    · rintro clock ticket requestId actor id outcome rfl
      exact no_claim_of_spent bounded spent requestId id actor outcome
    · rintro session member rfl clock actor outcome
      exact no_renew_of_spent bounded member spent actor outcome

end

namespace Tailnet

def nodes : List Node :=
  [{ id := 40, keyId := 30, tags := Role.gateway.tags, ips := ["100.64.0.1"], online := true,
      ephemeral := false },
    { id := 41, keyId := 31, tags := Role.endpoint.tags, ips := ["100.64.0.2"], online := true,
      ephemeral := true }]

def registration : Register where
  generation := 1
  owner := 5
  enrollmentId := 21
  service := "jupyter"
  port := 9000

/-- The gateway and the endpoint of resource 7 are enrolled, and the endpoint is ready. -/
def readyHistory : List Transaction :=
  [.enroll 10 ⟨.gateway, 1, 1⟩ .bootstrap (some "gateway") 20,
    .enrollCreated 10 10 20 30 "gateway key",
    .enroll 10 ⟨.endpoint, 7, 1⟩ .controller (some "runtime-7") 21,
    .enrollCreated 10 10 21 31 "endpoint key",
    .confirm 11 20 .gateway nodes,
    .confirm 11 21 .controller nodes,
    .register 11 7 registration .controller 50,
    .targets 12 1 .gateway fun _ => 60,
    .probe 12 7 ⟨1, 50, 60, true⟩ .gateway]

def ready : Store := Store.run settings {} readyHistory

def issueRequest : Issue where
  generation := 1
  user := 5
  resourceId := 7
  service := "jupyter"
  gatewayId := 1

def readyEndpoint : Endpoint where
  id := 7
  owner := 5
  generation := 1
  enrollmentId := 21
  service := "jupyter"
  protocol := "tcp-stream-v1"
  port := 9000
  version := 50
  leaseExpires := 71
  state := .ready
  probeExpires := some 27
  probeGateway := some 1
  probed := some 12

def ticket : Ticket := newTicket settings 13 issueRequest readyEndpoint 70

def granted : Store := ready.run settings [.issue 13 issueRequest .controller 70]

def claimed : Store := granted.run settings [.claim 14 ticket 80 .gateway 90]

def denied : Store := claimed.run settings [.revokeEnrollment 15 21 .controller]

/-- The session can be renewed, but never again after the denial. -/
theorem denied_enrollment_ends_session :
    (renew settings 15 claimed 90 .gateway).toOption.isSome = true ∧
    ∀ rest, ∀ session ∈ (denied.run settings rest).sessions.rows, session.grantId = 70 →
      ∀ clock actor outcome,
        renew settings clock (denied.run settings rest) session.id actor ≠ .ok outcome := by
  refine ⟨by decide +kernel, fun rest => ?_⟩
  have issued : (issue settings 13 ready issueRequest .controller 70).toOption.isSome = true := by
    decide +kernel
  obtain ⟨⟨reply, after⟩, some_eq⟩ := Option.isSome_iff_exists.mp issued
  have done := ok_of_toOption some_eq
  have after_eq : granted = after := by
    simp [granted, Store.run, Transaction.apply, settle, done]
  have dead : ∃ row ∈ denied.enrollments.rows, row.id = 21 ∧ ¬ row.Live := by decide +kernel
  obtain ⟨row, member, id, not_live⟩ := dead
  subst after_eq
  exact ((tickets_authorize_one_session settings readyHistory).2.2.2 13 issueRequest .controller 70
    reply granted readyEndpoint done (by decide +kernel)
    [.claim 14 ticket 80 .gateway 90, .revokeEnrollment 15 21 .controller]
    (.denied row member id not_live) rest).2

end Tailnet

end TrainingScheduler.Management
