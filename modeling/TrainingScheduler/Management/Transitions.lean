import Mathlib.Tactic.Linarith
import TrainingScheduler.Management.Effects

/-!
# Transitions of the management service

Each transaction either rewrites rows in place or inserts one row.  Every invariant of the service
is derived from this description.
-/

namespace TrainingScheduler.Management

open Table

/-- The two enrollments stand for one identity. -/
def Enrollment.SameIdentity (left right : Enrollment) : Prop :=
  left.role = right.role ∧ left.identity = right.identity

/-- The enrollment is neither revoked nor expired nor failed. -/
def Enrollment.Live (row : Enrollment) : Prop := row.state ∉ deadStates

instance (row : Enrollment) : Decidable row.Live :=
  inferInstanceAs (Decidable (row.state ∉ deadStates))

/-- The step that reserves an enrollment. -/
structure Reserved (before after : Store) (row : Enrollment) : Prop where
  evolves : ∃ enrollments, before.enrollments.insert row = some enrollments ∧
    Evolves {} { before with enrollments } after
  state : row.state = .pending
  keyId : row.keyId = none
  newest : ∀ old ∈ before.enrollments.rows, old.SameIdentity row → old.created < row.created
  generation : ∀ old ∈ before.enrollments.rows, old.SameIdentity row →
    old.generation ≠ row.generation
  key : ∀ old ∈ before.enrollments.rows, old.actor = row.actor →
    old.idempotencyKey ≠ row.idempotencyKey
  member : row ∈ after.enrollments.rows
  replaced : ∀ other ∈ after.enrollments.rows, other.SameIdentity row → other ≠ row →
    ¬ other.Live

/-- The step that opens a session. -/
structure Opened (before after : Store) (session : Session) : Prop where
  evolves : ∃ sessions, before.sessions.insert session = some sessions ∧
    Evolves {} { before with sessions } after
  only : ∀ old ∈ before.sessions.rows, old.grantId ≠ session.grantId
  grant : ∃ grant ∈ before.grants.rows, session.grantId = grant.id ∧
    session.deadline = grant.deadline
  bounded : session.leaseExpires ≤ session.deadline

/-- Everything that one transaction may do to a store. -/
inductive Transition (marks : Marks) (before after : Store) : Prop where
  | evolved (evolves : Evolves marks before after)
  | reserved (row : Enrollment) (reserved : Reserved before after row)
  | registered (endpoint : Endpoint) (endpoints : Table Endpoint.id)
      (inserted : before.endpoints.insert endpoint = some endpoints)
      (after_eq : after = { before with endpoints })
  | issued (grant : Grant) (grants : Table Grant.id)
      (inserted : before.grants.insert grant = some grants)
      (bound : ∃ enrollmentId, before.Bound grant.resourceId enrollmentId)
      (after_eq : after = { before with grants })
  | opened (session : Session) (opened : Opened before after session)

/-- What sets a transaction apart. -/
def Transaction.marks : Transaction → Marks
  | .enrollCreated _ _ id keyId _ => { recorded := some (id, keyId) }
  | .reconcile now _ _ => { cutoff := some now }
  | .finish _ id true _ => { finished := some id }
  | _ => {}

variable {id resourceId : UUID} {store after : Store} {row : Enrollment} {actor : Actor}
  {settings : Settings} {now clock : Time} {marks : Marks} {reply : EndpointReply}

/-- A store with the rows of another one and possibly one more. -/
structure Store.Within (before after : Store) : Prop where
  enrollments : before.enrollments.rows ⊆ after.enrollments.rows
  endpoints : before.endpoints.rows ⊆ after.endpoints.rows
  grants : before.grants.rows ⊆ after.grants.rows
  sessions : before.sessions.rows ⊆ after.sessions.rows

theorem Store.Held.mono {grantId enrollmentId : UUID} (within : store.Within after)
    (held : store.Held grantId resourceId enrollmentId) :
    after.Held grantId resourceId enrollmentId := by
  obtain ⟨grant, member, grant_id, resource, bound⟩ := held
  refine ⟨grant, within.grants member, grant_id, resource, bound.imp_right ?_⟩
  rintro ⟨⟨endpoint, endpoint_mem, serves⟩, row, row_mem, confirmed⟩
  exact ⟨⟨endpoint, within.endpoints endpoint_mem, serves⟩, row, within.enrollments row_mem,
    confirmed⟩

/-- A transaction inserts at most one row, and then moves the rows that are there. -/
theorem Transition.factors (transition : Transition marks store after) :
    ∃ middle others, store.Within middle ∧ Evolves others middle after ∧
      ∀ session ∈ middle.sessions.rows,
        session ∈ store.sessions.rows ∨ Opened store after session := by
  have grown {ρ : Type} {key : ρ → UUID} {table later : Table key} {row : ρ}
      (inserted : table.insert row = some later) : table.rows ⊆ later.rows :=
    fun _ member => (mem_insert inserted).mpr (.inl member)
  have same {α : Type} {rows : List α} : rows ⊆ rows := List.Subset.refl rows
  cases transition with
  | evolved evolves => exact ⟨store, _, ⟨same, same, same, same⟩, evolves, fun _ => .inl⟩
  | reserved row reserved =>
    obtain ⟨enrollments, inserted, evolves⟩ := reserved.evolves
    exact ⟨{ store with enrollments }, _, ⟨grown inserted, same, same, same⟩, evolves,
      fun _ => .inl⟩
  | registered endpoint endpoints inserted after_eq =>
    subst after_eq
    exact ⟨{ store with endpoints }, {}, ⟨same, grown inserted, same, same⟩, .refl _, fun _ => .inl⟩
  | issued grant grants inserted bound after_eq =>
    subst after_eq
    exact ⟨{ store with grants }, {}, ⟨same, same, grown inserted, same⟩, .refl _, fun _ => .inl⟩
  | opened session opened =>
    obtain ⟨sessions, inserted, evolves⟩ := opened.evolves
    refine ⟨{ store with sessions }, _, ⟨same, same, same, grown inserted⟩, evolves,
      fun other member => ?_⟩
    rcases (mem_insert inserted).mp member with old | rfl
    · exact .inl old
    · exact .inr opened

theorem get_eq_ok {ρ : Type} {key : ρ → UUID} {table : Table key} {row : ρ}
    (found : get table id = .ok row) : row ∈ table.rows ∧ key row = id := by
  unfold get at found
  split at found
  · cases found
  · cases found
    rename_i found
    exact lookup_eq_some_iff.mp found

theorem mem_enrolled {role : Role} {identity : UUID} :
    row ∈ store.enrolled role identity ↔
      row ∈ store.enrollments.rows ∧ row.role = role ∧ row.identity = identity := by
  simp [Store.enrolled]

private theorem created_le_latest {rows : List Enrollment} {newest : Enrollment}
    (found : latest rows = some newest) (member : row ∈ rows) : row.created ≤ newest.created := by
  have order := firstBy_le (fun left right : Enrollment => right.created ≤ left.created)
    (fun first second => second.trans first) (fun before => (of_decide_eq_true before).le)
    (fun kept => not_lt.mp (of_decide_eq_false kept)) found member
  rcases order with rfl | later
  · exact le_rfl
  · exact later

section

variable {now : Time} {store : Store} {ids : List UUID} {row : Enrollment}

theorem mem_foldl_deny_of_notMem (other : row.id ∉ ids) :
    row ∈ (ids.foldl (deny now) store).enrollments.rows ↔ row ∈ store.enrollments.rows := by
  induction ids generalizing store with
  | nil => rfl
  | cons id rest induction =>
    obtain ⟨ne, rest_notMem⟩ := not_or.mp (mt List.mem_cons.mpr other)
    rw [List.foldl_cons, induction rest_notMem]
    constructor
    · intro member
      rcases mem_rewriteAt.mp member with ⟨kept, -⟩ | ⟨old, -, selected, rfl⟩
      · exact kept
      · exact absurd selected ne
    · intro member
      exact mem_rewriteAt.mpr (.inl ⟨member, ne⟩)

private theorem dead_of_foldl_deny (member : row ∈ (ids.foldl (deny now) store).enrollments.rows)
    (selected : row.id ∈ ids) : row.state = .revoking := by
  induction ids generalizing store with
  | nil => cases selected
  | cons id rest induction =>
    by_cases later : row.id ∈ rest
    · exact induction member later
    · rw [List.foldl_cons, mem_foldl_deny_of_notMem later] at member
      rcases List.mem_cons.mp selected with same | impossible
      · rcases mem_rewriteAt.mp member with ⟨-, other⟩ | ⟨old, -, -, rfl⟩
        · exact absurd same other
        · rfl
      · exact absurd impossible later

end

private theorem created_lt_reservation {request : Enroll} {key : String} {old : Enrollment}
    (member : old ∈ store.enrolled request.role request.identity) :
    old.created < (reservation settings now store request actor key id).created := by
  unfold reservation
  simp only
  cases found : latest (store.enrolled request.role request.identity) with
  | none =>
    rw [firstBy_eq_none found] at member
    cases member
  | some newest =>
    have bound := created_le_latest found member
    have step : newest.created + 1 / 1000000 ≤ max now (newest.created + 1 / 1000000) :=
      le_max_right _ _
    simp only
    linarith

/-- The first transaction of an enrollment replays a stored key, or reserves a new row. -/
theorem enroll_eq_ok {request : Enroll} {idempotency : Option String} {outcome : EnrollOutcome}
    (done : enroll settings now store request actor idempotency id = .ok (outcome, after)) :
    (∃ reply, ∃ previous ∈ store.enrollments.rows, outcome = .replayed reply ∧ after = store ∧
      replay settings now previous = .ok reply) ∨
    ∃ row, outcome = .reserved row ∧ row.id = id ∧ Reserved store after row := by
  obtain ⟨key, -, rest⟩ := bind_eq_ok done
  split at rest
  · rename_i previous found
    split_ifs at rest
    obtain ⟨reply, replayed, same⟩ := map_eq_ok rest
    cases same
    exact .inl ⟨reply, previous, List.mem_of_find?_eq_some found, rfl, rfl, replayed⟩
  · rename_i absent
    split_ifs at rest with generation
    dsimp only at rest
    split at rest
    · cases rest
    · rename_i enrollments inserted
      cases rest
      obtain ⟨rows, fresh⟩ := insert_eq_some inserted
      set row := reservation settings now store request actor key id with _
      have replaced_mem {other : Enrollment} (member : other ∈ store.enrolled request.role
          request.identity) : other.id ≠ row.id :=
        fresh other (mem_enrolled.mp member).1
      have row_notMem : row.id ∉ replaced store request := by
        intro member
        obtain ⟨old, old_mem, same⟩ := List.mem_map.mp member
        exact replaced_mem (List.mem_of_mem_filter old_mem) same
      refine .inr ⟨row, rfl, rfl, ?_⟩
      refine
        { evolves := ⟨enrollments, inserted, .foldl (.deny now) _ _⟩
          state := rfl
          keyId := rfl
          newest := ?_
          generation := ?_
          key := ?_
          member := ?_
          replaced := ?_ }
      · intro old member same
        exact created_lt_reservation (mem_enrolled.mpr ⟨member, same⟩)
      · intro old member same equal
        apply generation
        exact List.any_eq_true.mpr ⟨old, mem_enrolled.mpr ⟨member, same⟩, beq_iff_eq.mpr equal⟩
      · intro old member same
        have unmatched := List.find?_eq_none.mp absent old member
        simp only [Bool.and_eq_true, beq_iff_eq, not_and] at unmatched
        exact unmatched same
      · rw [mem_foldl_deny_of_notMem row_notMem, rows]
        exact List.mem_append_right _ List.mem_cons_self
      · intro other member same ne alive
        by_cases selected : other.id ∈ replaced store request
        · exact alive (by simp [dead_of_foldl_deny member selected, deadStates])
        · rw [mem_foldl_deny_of_notMem selected, rows] at member
          rcases List.mem_append.mp member with old | new
          · apply selected
            refine List.mem_map_of_mem (List.mem_filter.mpr ⟨mem_enrolled.mpr ⟨old, same⟩, ?_⟩)
            simp only [Enrollment.Live, deadStates] at alive
            grind
          · exact ne (List.mem_singleton.mp new)

theorem enrollFailed_evolves (store : Store) (id : UUID) (unknown : Bool) :
    Evolves marks store (enrollFailed store id unknown) := by
  refine .modifyEnrollment ?_ ?_
  · intro row _ _
    split_ifs with pending
    · exact .of_state rfl rfl (by simp [pending, deadStates]) (by simp [pending, unsettledStates])
        (by simp)
    · exact .of_state rfl rfl (by simp [pending, deadStates]) (by simp [pending, unsettledStates])
        (by simp)
    · exact .refl row
  · intro row _ _ confirmed
    simp [confirmed]

section

variable {settings : Settings} {clock later : Time} {store : Store} {id keyId : UUID} {key : String}

theorem recordKey_evolves :
    Evolves { recorded := some (id, keyId) } store
      (store.modifyEnrollment id (recordKey clock keyId) fun _ => rfl) := by
  refine .modifyEnrollment ?_ fun _ _ _ confirmed => confirmed
  rintro row - rfl
  exact
    { terms := rfl
      dead := fun dead => dead
      unsettled := fun unsettled => unsettled
      revoked := .inl
      expired := .inl
      keyId := .inr ⟨keyId, rfl, rfl⟩ }

theorem mem_recorded {row other : Enrollment} (found : store.enrollments.lookup id = some row)
    (member : other ∈ (store.modifyEnrollment id (recordKey clock keyId)
      fun _ => rfl).enrollments.rows) (selected : other.id = id) :
    other = recordKey clock keyId row := by
  rcases mem_rewriteAt.mp member with ⟨-, ne⟩ | ⟨old, old_mem, old_id, rfl⟩
  · exact absurd selected ne
  · rw [eq_of_lookup found old_mem old_id]

theorem issueKey_evolves {row : Enrollment} {marks : Marks}
    (found : store.enrollments.lookup id = some row) (pending : row.state = .pending) :
    Evolves marks (store.modifyEnrollment id (recordKey clock keyId) fun _ => rfl)
      ((store.modifyEnrollment id (recordKey clock keyId) fun _ => rfl).modifyEnrollment id
        (issueKey key) fun _ => rfl) := by
  refine .modifyEnrollment ?_ ?_
  · intro other member selected
    have same := mem_recorded found member selected
    subst same
    refine .of_state rfl rfl ?_ ?_ (by simp [issueKey])
    · simp [recordKey, pending, deadStates]
    · simp [recordKey, pending, unsettledStates]
  · intro other member selected confirmed
    have same := mem_recorded found member selected
    subst same
    simp [recordKey, pending] at confirmed

theorem enrollCreated_evolves :
    Evolves { recorded := some (id, keyId) } store
      (enrollCreated settings clock later store id keyId key).2 := by
  unfold enrollCreated
  split
  · exact .refl store
  · rename_i row found
    dsimp only
    split_ifs with refused
    · exact recordKey_evolves.trans (.deny clock _ id)
    · split
      · exact .refl store
      · have pending : row.state = .pending := not_not.mp (not_or.mp refused).1
        exact recordKey_evolves.trans (issueKey_evolves found pending)

end

variable {nodes : List Node}

theorem confirm_evolves {reply : StatusReply}
    (done : confirm settings clock store id actor nodes = .ok (reply, after)) :
    Evolves marks store after := by
  obtain ⟨row, found, rest⟩ := bind_eq_ok done
  obtain ⟨_, checked, rest⟩ := bind_eq_ok rest
  obtain ⟨-, rest⟩ := guard_eq_ok rest
  obtain ⟨⟨seen, observed⟩, seen_eq, rest⟩ := bind_eq_ok rest
  obtain ⟨-, rest⟩ := guard_eq_ok rest
  obtain ⟨final, -, rest⟩ := bind_eq_ok rest
  obtain ⟨_, -, same⟩ := map_eq_ok rest
  cases same
  exact .observe (get_eq_ok found).1 (alive_of_current checked) seen_eq

theorem probeObserved_evolves {request : Probe}
    (done : probeObserved settings clock store resourceId request nodes = .ok after) :
    Evolves marks store after := by
  obtain ⟨endpoint, -, rest⟩ := bind_eq_ok done
  obtain ⟨_, -, rest⟩ := bind_eq_ok rest
  obtain ⟨-, rest⟩ := guard_eq_ok rest
  obtain ⟨row, found, rest⟩ := bind_eq_ok rest
  obtain ⟨_, checked, rest⟩ := bind_eq_ok rest
  obtain ⟨⟨seen, observed⟩, seen_eq, rest⟩ := bind_eq_ok rest
  obtain ⟨-, same⟩ := guard_eq_ok rest
  cases same
  exact .observe (get_eq_ok found).1 (alive_of_current checked) seen_eq

private theorem revokeEnrollment_eq_ok {reply : StatusReply}
    (done : revokeEnrollment settings clock store id actor = .ok (reply, after)) :
    after = deny clock store id := by
  obtain ⟨_, -, rest⟩ := bind_eq_ok done
  obtain ⟨_, -, rest⟩ := bind_eq_ok rest
  dsimp only at rest
  obtain ⟨_, -, rest⟩ := bind_eq_ok rest
  obtain ⟨_, -, same⟩ := map_eq_ok rest
  cases same
  rfl

private theorem revokeEndpoint_eq_ok
    (done : revokeEndpoint clock store resourceId actor = .ok (reply, after)) :
    ∃ endpoint ∈ store.endpoints.rows, endpoint.id = resourceId ∧
      after = deny clock store endpoint.enrollmentId := by
  obtain ⟨_, -, rest⟩ := bind_eq_ok done
  obtain ⟨endpoint, found, rest⟩ := bind_eq_ok rest
  obtain ⟨row, row_found, rest⟩ := bind_eq_ok rest
  dsimp only at rest
  obtain ⟨_, -, same⟩ := bind_eq_ok rest
  cases same
  rw [(get_eq_ok row_found).2]
  exact ⟨endpoint, (get_eq_ok found).1, (get_eq_ok found).2, rfl⟩

theorem replaceEndpoint_evolves (store : Store) (old row : Endpoint) :
    Evolves marks store (replaceEndpoint store old row) where
  enrollments := .refl .refl _
  endpoints := rowwise_of_rewriteAt rfl (fun _ => rfl) fun _ _ _ => rfl
  grants := invalidate_grants _ _
  sessions := invalidate_sessions _ _
  held := by
    rintro grantId resourceId enrollmentId ⟨grant, member, rfl, rfl, bound⟩
    obtain ⟨next, next_mem, moves, chosen⟩ := mem_invalidate
      (store.modifyEndpoint old.id
        (fun endpoint => { row with
          id := endpoint.id
          owner := endpoint.owner
          probeExpires := endpoint.probeExpires
          probeGateway := endpoint.probeGateway }) fun _ => rfl) [old.id] member
    refine ⟨next, next_mem, moves.id_eq, moves.resourceId_eq, ?_⟩
    rcases bound with revoked | ⟨⟨endpoint, endpoint_mem, serves, registered⟩, confirmed⟩
    · exact .inl (moves.revoked revoked)
    · by_cases same : grant.resourceId = old.id
      · exact .inl (chosen (by simp [same]))
      · refine .inr ⟨⟨endpoint, ?_, serves, registered⟩, confirmed⟩
        exact mem_rewriteAt.mpr (.inl ⟨endpoint_mem, by rwa [serves]⟩)

theorem register_transition {version : UUID} {request : Register}
    (done : register settings clock store resourceId request actor version = .ok (reply, after)) :
    Transition marks store after := by
  obtain ⟨_, -, rest⟩ := bind_eq_ok done
  obtain ⟨enrollment, -, rest⟩ := bind_eq_ok rest
  split_ifs at rest
  dsimp only at rest
  split at rest
  · split_ifs at rest
    · cases rest
      exact .evolved (.refl store)
    · cases rest
      exact .evolved (replaceEndpoint_evolves store _ _)
  · split at rest
    · cases rest
    · rename_i endpoints inserted
      cases rest
      exact .registered _ endpoints inserted rfl

theorem lease_evolves {generation : Nat}
    (done : lease settings clock store resourceId generation actor = .ok (reply, after)) :
    Evolves marks store after := by
  obtain ⟨_, -, rest⟩ := bind_eq_ok done
  obtain ⟨endpoint, -, rest⟩ := bind_eq_ok rest
  obtain ⟨_, -, rest⟩ := bind_eq_ok rest
  obtain ⟨-, same⟩ := guard_eq_ok rest
  cases same
  exact .modifyEndpoint fun _ => rfl

theorem targets_evolves {gatewayId : UUID} {newId : UUID → UUID} {reply : List ProbeTarget}
    (done : targets settings clock store gatewayId actor newId = .ok (reply, after)) :
    Evolves marks store after := by
  obtain ⟨_, -, rest⟩ := bind_eq_ok done
  obtain ⟨-, rest⟩ := guard_eq_ok rest
  obtain ⟨_, -, same⟩ := bind_eq_ok rest
  cases same
  refine .of_endpoints (rowwise_of_map rfl fun endpoint _ => ?_)
  split_ifs
  · rw [assignProbe]
    split_ifs <;> exact ⟨rfl, rfl⟩
  · exact ⟨rfl, rfl⟩

theorem probe_evolves {request : Probe}
    (done : probe settings clock store resourceId request actor = .ok (reply, after)) :
    Evolves marks store after := by
  obtain ⟨_, -, rest⟩ := bind_eq_ok done
  obtain ⟨endpoint, -, rest⟩ := bind_eq_ok rest
  obtain ⟨_, -, rest⟩ := bind_eq_ok rest
  obtain ⟨_, -, rest⟩ := bind_eq_ok rest
  obtain ⟨-, same⟩ := guard_eq_ok rest
  cases same
  exact .modifyEndpoint fun _ => rfl

private theorem bound_of_available {endpoint : Endpoint} {ready : Bool} {enrollment : Enrollment}
    (member : endpoint ∈ store.endpoints.rows)
    (done : available settings clock store endpoint ready = .ok enrollment) :
    store.Bound endpoint.id endpoint.enrollmentId := by
  unfold available at done
  split_ifs at done
  obtain ⟨row, found, rest⟩ := bind_eq_ok done
  split at rest
  · cases rest
  · rename_i usable
    have confirmed : row.state = .confirmed := by
      have member : membership settings clock row = true := by simp_all
      simp only [membership, Bool.and_eq_true, beq_iff_eq] at member
      exact member.1.1
    obtain ⟨row_mem, row_id⟩ := get_eq_ok found
    exact ⟨⟨endpoint, member, rfl, rfl⟩, row, row_mem, row_id, confirmed⟩

theorem issue_eq_ok {request : Issue} {jti : UUID} {reply : GrantReply}
    (done : issue settings clock store request actor jti = .ok (reply, after)) :
    ∃ endpoint ∈ store.endpoints.rows, endpoint.id = request.resourceId ∧
      store.Bound endpoint.id endpoint.enrollmentId ∧
      ∃ grants, store.grants.insert (newGrant settings ⌊clock⌋ request endpoint jti) = some grants ∧
        reply.grantId = jti ∧
        reply.ticket = newTicket settings ⌊clock⌋ request endpoint jti ∧
        after = { store with grants } := by
  obtain ⟨_, -, rest⟩ := bind_eq_ok done
  obtain ⟨endpoint, found, rest⟩ := bind_eq_ok rest
  obtain ⟨-, rest⟩ := guard_eq_ok rest
  obtain ⟨_, -, rest⟩ := bind_eq_ok rest
  obtain ⟨-, rest⟩ := guard_eq_ok rest
  obtain ⟨enrollment, available, rest⟩ := bind_eq_ok rest
  dsimp only at rest
  split at rest
  · cases rest
  · rename_i grants inserted
    cases rest
    obtain ⟨member, resource⟩ := get_eq_ok found
    exact ⟨endpoint, member, resource, bound_of_available member available, grants, inserted, rfl,
      rfl, rfl⟩

variable {reply : Destination}

theorem claim_eq_ok {ticket : Ticket} {requestId : UUID}
    (done : claim settings clock store ticket requestId actor id = .ok (reply, after)) :
    ∃ grant ∈ store.grants.rows,
      (grant.id = ticket.jti ∧ grant.ticket = ticket ∧ grant.gateway = settings.gatewayId) ∧
      ∃ session ∈ after.sessions.rows,
        (session.grantId = grant.id ∧ session.requestId = requestId ∧
          session.gateway = settings.gatewayId) ∧
        destination settings clock after session = .ok reply ∧
        (session ∈ store.sessions.rows ∧ after = store ∨
          grant.state = .issued ∧ Opened store after session) := by
  obtain ⟨_, -, rest⟩ := bind_eq_ok done
  obtain ⟨claims, decoded, rest⟩ := bind_eq_ok rest
  obtain ⟨grant, found, rest⟩ := bind_eq_ok rest
  have claims_eq : claims = ticket := by
    unfold decode at decoded
    split_ifs at decoded
    exact (Except.ok.inj decoded).symm
  subst claims_eq
  obtain ⟨grant_mem, grant_id⟩ := get_eq_ok found
  obtain ⟨mismatch, rest⟩ := guard_eq_ok rest
  have ticket_eq : grant.ticket = claims := not_not.mp (not_or.mp mismatch).1
  have gateway_eq : grant.gateway = settings.gatewayId := not_not.mp (not_or.mp mismatch).2
  refine ⟨grant, grant_mem, ⟨grant_id, ticket_eq, gateway_eq⟩, ?_⟩
  split at rest
  · rename_i session existing
    obtain ⟨other, rest⟩ := guard_eq_ok rest
    obtain ⟨value, leads, same⟩ := map_eq_ok rest
    cases same
    have owner : session.grantId = grant.id := by simpa using List.find?_some existing
    have member := List.mem_of_find?_eq_some existing
    have request_eq : session.requestId = requestId := not_not.mp (not_or.mp other).1
    have served : session.gateway = settings.gatewayId := not_not.mp (not_or.mp other).2
    exact ⟨session, member, ⟨owner, request_eq, served⟩, leads, .inl ⟨member, rfl⟩⟩
  · rename_i absent
    obtain ⟨unusable, rest⟩ := guard_eq_ok rest
    obtain ⟨-, rest⟩ := guard_eq_ok rest
    obtain ⟨endpoint, -, rest⟩ := bind_eq_ok rest
    obtain ⟨_, -, rest⟩ := bind_eq_ok rest
    obtain ⟨_, -, rest⟩ := bind_eq_ok rest
    dsimp only at rest
    split at rest
    · cases rest
    · rename_i sessions inserted
      obtain ⟨value, leads, same⟩ := map_eq_ok rest
      cases same
      have issued : grant.state = .issued := not_not.mp (not_or.mp unusable).1
      have member : newSession settings clock grant endpoint requestId id ∈ sessions.rows := by
        rw [(insert_eq_some inserted).1]
        exact List.mem_append_right _ List.mem_cons_self
      refine ⟨_, member, ⟨rfl, rfl, rfl⟩, leads, .inr ⟨issued, ?_⟩⟩
      refine
        { evolves := ⟨sessions, inserted, ?_⟩
          only := ?_
          grant := ⟨grant, grant_mem, rfl, rfl⟩
          bounded := min_le_right _ _ }
      · refine .of_grants (rowwise_of_rewriteAt rfl .refl ?_) (.refl .refl _)
        intro row row_mem selected
        have same := store.grants.eq_of_key_eq row_mem grant_mem selected
        subst same
        exact ⟨rfl, fun revoked => by simp [issued] at revoked⟩
      · intro old old_mem
        have checked : ¬ (old.grantId == grant.id) = true :=
          List.find?_eq_none.mp absent old old_mem
        exact fun same => checked (beq_iff_eq.mpr same)

theorem renew_eq_ok {sessionId : UUID}
    (done : renew settings clock store sessionId actor = .ok (reply, after)) :
    (∃ session ∈ store.sessions.rows, session.id = sessionId ∧
      ∃ current, destination settings clock store session = .ok current) ∧
    after = store.modifySession sessionId (renewed settings clock) fun _ => rfl := by
  obtain ⟨_, -, rest⟩ := bind_eq_ok done
  obtain ⟨session, found, rest⟩ := bind_eq_ok rest
  obtain ⟨-, rest⟩ := guard_eq_ok rest
  obtain ⟨current, leads, rest⟩ := bind_eq_ok rest
  obtain ⟨_, -, same⟩ := map_eq_ok rest
  cases same
  exact ⟨⟨session, (get_eq_ok found).1, (get_eq_ok found).2, current, leads⟩, rfl⟩

theorem release_evolves {sessionId : UUID} {state : SessionState}
    (done : release settings store sessionId actor = .ok (state, after)) :
    Evolves marks store after := by
  obtain ⟨_, -, rest⟩ := bind_eq_ok done
  obtain ⟨session, -, rest⟩ := bind_eq_ok rest
  split_ifs at rest
  · cases rest
    exact .modifySession fun row => ⟨rfl, fun _ => by simp, fun bounded => bounded⟩
  · cases rest
    exact .refl store

theorem revokeGrant_evolves {grantId : UUID} {state : GrantState}
    (done : revokeGrant store grantId actor = .ok (state, after)) : Evolves marks store after := by
  obtain ⟨_, -, rest⟩ := bind_eq_ok done
  obtain ⟨_, -, rest⟩ := bind_eq_ok rest
  cases rest
  refine .of_grants (rowwise_of_rewriteAt rfl .refl fun _ _ _ => ⟨rfl, fun _ => rfl⟩)
    (rowwise_of_map rfl fun session _ => ?_)
  split_ifs
  · exact .revoke session
  · exact .refl session

theorem expired_moves (now : Time) (row : Enrollment) :
    Enrollment.Moves { cutoff := some now } row (expired now row) := by
  unfold expired
  split_ifs with past
  · refine
      { terms := rfl
        dead := fun _ => by simp [deadStates]
        unsettled := fun _ => past.1
        revoked := fun impossible => by simp at impossible
        expired := fun _ => .inr ⟨past.1, now, rfl, past.2⟩
        keyId := .inl rfl }
  · exact .refl row

private theorem confirmed_expired (confirmed : row.state = .confirmed) : expired now row = row := by
  simp [expired, confirmed, unsettledStates]

theorem Evolves.expired (now : Time) (store : Store) (id : UUID) :
    Evolves { cutoff := some now } store
      (store.modifyEnrollment id (Management.expired now) (expired_id now)) := by
  refine .modifyEnrollment (fun row _ _ => expired_moves now row) ?_
  intro row _ _ confirmed
  rw [confirmed_expired confirmed]
  exact confirmed

theorem Evolves.buried (store : Store) (id : UUID) :
    Evolves marks store (store.modifyEnrollment id buried fun _ => rfl) :=
  .modifyEnrollment (fun _ _ _ => .of_same rfl rfl rfl) fun _ _ _ confirmed => confirmed

theorem reconcileEnrollment_evolves (settings : Settings) (now clock : Time)
    (nodes : Option (List Node)) (state : Store × List Cleanup) (id : UUID) :
    Evolves { cutoff := some now } state.1
      (reconcileEnrollment settings now clock nodes state id).1 := by
  unfold reconcileEnrollment
  split
  · exact .refl _
  · rename_i row found
    have current_mem : expired now row ∈
        (state.1.modifyEnrollment id (expired now) (expired_id now)).enrollments.rows :=
      mem_rewriteAt.mpr
        (.inr ⟨row, mem_of_lookup found, key_of_lookup found, rfl⟩)
    dsimp only
    split
    · exact (Evolves.expired now _ id).trans (.buried _ id)
    · split
      · exact .expired now _ id
      · split
        · rename_i observable
          refine (Evolves.expired now state.1 id).trans ?_
          split
          · rename_i observed
            refine .observe current_mem ?_ observed
            simp only [deadStates]
            grind
          · exact .offline _ id
        · exact .expired now _ id

theorem reconcileEndpoint_evolves (settings : Settings) (now clock : Time) (store : Store)
    (id : UUID) : Evolves marks store (reconcileEndpoint settings now clock store id) := by
  unfold reconcileEndpoint
  split
  · exact .refl store
  · split
    · exact .refl store
    · split
      · exact .refl store
      · split_ifs
        · exact .deny clock store _
        · exact .modifyEndpoint fun _ => rfl
        · exact .refl store

theorem reconcileEnrollments_evolves (settings : Settings) (now clock : Time) (store : Store)
    (nodes : Option (List Node)) :
    Evolves { cutoff := some now } store
      (reconcileEnrollments settings now clock store nodes).1 := by
  have loop (ids : List UUID) (state : Store × List Cleanup) :
      Evolves { cutoff := some now } state.1
        (ids.foldl (reconcileEnrollment settings now clock nodes) state).1 := by
    induction ids generalizing state with
    | nil => exact .refl state.1
    | cons id rest induction =>
      exact (reconcileEnrollment_evolves settings now clock nodes state id).trans (induction _)
  exact loop _ (store, [])

theorem reconcile_evolves (settings : Settings) (now clock : Time) (store : Store)
    (nodes : Option (List Node)) :
    Evolves { cutoff := some now } store (reconcile settings now clock store nodes).2 := by
  have enrolled := reconcileEnrollments_evolves settings now clock store nodes
  have endpoints (store : Store) :
      Evolves { cutoff := some now } store (reconcileEndpoints settings now clock store) :=
    .foldl (reconcileEndpoint_evolves settings now clock) _ _
  refine enrolled.trans ((endpoints _).trans ?_)
  refine .of_grants (.refl .refl _) (rowwise_of_map rfl fun session _ => ?_)
  rw [reconcileSession]
  split_ifs
  · exact .revoke session
  · exact .refl session

theorem cleaned_moves (settings : Settings) (now : Time) (row : Enrollment) :
    Enrollment.Moves { finished := some row.id } row (cleaned settings now row) where
  terms := rfl
  dead dead := by
    simp only [cleaned]
    split_ifs
    · simp [deadStates]
    · exact dead
  unsettled unsettled := by
    simp only [cleaned] at unsettled
    split_ifs at unsettled with revoking
    · simp [unsettledStates] at unsettled
    · exact unsettled
  revoked _ := .inr rfl
  expired expired := by
    simp only [cleaned] at expired
    split_ifs at expired
    exact .inl expired
  keyId := .inl rfl

theorem finish_true_evolves (settings : Settings) (now : Time) (store : Store) (id : UUID)
    (jitter : Time) :
    Evolves { finished := some id } store (finish settings now store id true jitter) := by
  have enrollments : Evolves { finished := some id } store
      (store.modifyEnrollment id (cleaned settings now) fun _ => rfl) := by
    refine .modifyEnrollment ?_ ?_
    · rintro row - rfl
      exact cleaned_moves settings now row
    · intro row _ _ confirmed
      simp [cleaned, confirmed]
  refine enrollments.trans (.of_endpoints (rowwise_of_map rfl fun endpoint _ => ?_))
  split_ifs <;> exact ⟨rfl, rfl⟩

theorem settle_transition {α : Type} {reply : α → Reply}
    {program : Except HTTPException (α × Store)}
    (transition : ∀ value after, program = .ok (value, after) → Transition marks store after) :
    Transition marks store (settle store reply program).2 := by
  unfold settle
  split
  · exact .evolved (.refl store)
  · rename_i value after
    exact transition value after rfl

private theorem settle_read {α : Type} {reply : α → Reply} {program : Except HTTPException α} :
    Transition marks store (settle store reply (program.map fun value => (value, store))).2 := by
  refine settle_transition fun value after done => ?_
  obtain ⟨_, -, same⟩ := map_eq_ok done
  cases same
  exact .evolved (.refl store)

theorem Transaction.transition (settings : Settings) (store : Store) (transaction : Transaction) :
    Transition transaction.marks store (transaction.apply settings store).2 := by
  cases transaction with
  | enroll =>
    refine settle_transition fun outcome after done => ?_
    rcases enroll_eq_ok done with ⟨-, -, -, -, rfl, -⟩ | ⟨row, -, -, reserved⟩
    · exact .evolved (.refl _)
    · exact .reserved row reserved
  | enrollFailed id unknown => exact .evolved (enrollFailed_evolves store id unknown)
  | enrollCreated => exact .evolved enrollCreated_evolves
  | status | confirmBegin => exact settle_read
  | confirm => exact settle_transition fun _ _ done => .evolved (confirm_evolves done)
  | revokeEnrollment clock id =>
    refine settle_transition fun _ _ done => ?_
    rw [revokeEnrollment_eq_ok done]
    exact .evolved (.deny clock store id)
  | register => exact settle_transition fun _ _ done => register_transition done
  | lease => exact settle_transition fun _ _ done => .evolved (lease_evolves done)
  | targets => exact settle_transition fun _ _ done => .evolved (targets_evolves done)
  | probeObserved =>
    refine settle_transition fun _ _ done => ?_
    obtain ⟨_, observed, same⟩ := map_eq_ok done
    cases same
    exact .evolved (probeObserved_evolves observed)
  | probe => exact settle_transition fun _ _ done => .evolved (probe_evolves done)
  | revokeEndpoint clock =>
    refine settle_transition fun _ _ done => ?_
    obtain ⟨endpoint, -, -, rfl⟩ := revokeEndpoint_eq_ok done
    exact .evolved (.deny clock store endpoint.enrollmentId)
  | issue =>
    refine settle_transition fun _ _ done => ?_
    obtain ⟨endpoint, -, -, bound, grants, inserted, -, -, rfl⟩ := issue_eq_ok done
    exact .issued _ grants inserted ⟨endpoint.enrollmentId, bound⟩ rfl
  | claim =>
    refine settle_transition fun _ _ done => ?_
    obtain ⟨-, -, -, session, -, -, -, ⟨-, rfl⟩ | ⟨-, opened⟩⟩ := claim_eq_ok done
    · exact .evolved (.refl _)
    · exact .opened session opened
  | renew clock =>
    refine settle_transition fun _ _ done => ?_
    rw [(renew_eq_ok done).2]
    exact .evolved (.modifySession fun row =>
      ⟨rfl, fun ended => ended, fun _ => min_le_right _ _⟩)
  | release => exact settle_transition fun _ _ done => .evolved (release_evolves done)
  | revokeGrant => exact settle_transition fun _ _ done => .evolved (revokeGrant_evolves done)
  | reconcile now clock nodes => exact .evolved (reconcile_evolves settings now clock store nodes)
  | finish now id success jitter =>
    cases success with
    | false =>
      exact .evolved (.modifyEnrollment (fun _ _ _ => .of_same rfl rfl rfl)
        fun _ _ _ confirmed => confirmed)
    | true => exact .evolved (finish_true_evolves settings now store id jitter)

end TrainingScheduler.Management
