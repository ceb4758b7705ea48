import TrainingScheduler.Programs
import TrainingScheduler.Management.Transactions

/-!
# What a transaction can do

A transaction rewrites rows in place and inserts at most one row.  The row relations say everything
that may happen to an enrollment, a grant or a session, and `Evolves` collects them for a store,
together with the link between a grant and the enrollment it was issued under.
-/

namespace TrainingScheduler.Management

open Table

/-- The part of a row that no transaction changes. -/
def Enrollment.terms (row : Enrollment) : Enrollment :=
  { row with
    keyId := none
    ciphertext := none
    nodeId := none
    ips := []
    observed := none
    online := false
    state := .pending
    retries := 0
    retryAfter := 0
    updated := 0 }

open Enrollment

@[inherit_doc Enrollment.terms]
def Grant.terms (grant : Grant) : Grant := { grant with state := .issued }

@[inherit_doc Enrollment.terms]
def Session.terms (session : Session) : Session :=
  { session with state := .active, leaseExpires := 0 }

/-- What sets a transaction apart: the time up to which it lets enrollments expire, the enrollment
whose cleanup it finishes, and the key it records for an enrollment. -/
structure Marks where
  cutoff : Option Time := none
  finished : Option UUID := none
  recorded : Option (UUID × UUID) := none

/-- Everything that may happen to an enrollment. -/
structure Enrollment.Moves (marks : Marks) (before after : Enrollment) : Prop where
  terms : after.terms = before.terms
  dead : before.state ∈ deadStates → after.state ∈ deadStates
  unsettled : after.state ∈ unsettledStates → before.state ∈ unsettledStates
  revoked : after.state = .revoked → before.state = .revoked ∨ marks.finished = some before.id
  expired : after.state = .expired → before.state = .expired ∨
    before.state ∈ unsettledStates ∧ ∃ now, marks.cutoff = some now ∧ before.expires ≤ now
  keyId : after.keyId = before.keyId ∨
    ∃ keyId, marks.recorded = some (before.id, keyId) ∧ after.keyId = some keyId

namespace Enrollment.Moves

variable {marks : Marks} {before middle after : Enrollment}

theorem refl (row : Enrollment) : Moves marks row row where
  terms := rfl
  dead state := state
  unsettled state := state
  revoked := .inl
  expired := .inl
  keyId := .inl rfl

section

variable (moves : Moves marks before after)

include moves

theorem id_eq : after.id = before.id :=
  (congrArg id moves.terms :)

theorem role_eq : after.role = before.role :=
  (congrArg role moves.terms :)

theorem identity_eq : after.identity = before.identity :=
  (congrArg identity moves.terms :)

theorem generation_eq : after.generation = before.generation :=
  (congrArg generation moves.terms :)

theorem created_eq : after.created = before.created :=
  (congrArg created moves.terms :)

theorem expires_eq : after.expires = before.expires :=
  (congrArg expires moves.terms :)

theorem actor_eq : after.actor = before.actor :=
  (congrArg actor moves.terms :)

theorem idempotencyKey_eq : after.idempotencyKey = before.idempotencyKey :=
  (congrArg idempotencyKey moves.terms :)

end

theorem trans (first : Moves marks before middle) (second : Moves marks middle after) :
    Moves marks before after where
  terms := second.terms.trans first.terms
  dead state := second.dead (first.dead state)
  unsettled state := first.unsettled (second.unsettled state)
  revoked state := by
    rcases second.revoked state with earlier | finished
    · exact first.revoked earlier
    · exact .inr (first.id_eq ▸ finished)
  expired state := by
    rcases second.expired state with earlier | ⟨unsettled, now, cutoff, expires⟩
    · exact first.expired earlier
    · exact .inr ⟨first.unsettled unsettled, now, cutoff, first.expires_eq ▸ expires⟩
  keyId := by
    rcases second.keyId with kept | ⟨keyId, recorded, written⟩
    · rw [kept]
      exact first.keyId
    · exact .inr ⟨keyId, first.id_eq ▸ recorded, written⟩

theorem of_state (terms : after.terms = before.terms) (keyId : after.keyId = before.keyId)
    (dead : before.state ∈ deadStates → after.state ∈ deadStates)
    (unsettled : after.state ∈ unsettledStates → before.state ∈ unsettledStates)
    (state : after.state ∉ [EnrollmentState.revoked, .expired]) :
    Moves marks before after where
  terms := terms
  dead := dead
  unsettled := unsettled
  revoked impossible := absurd impossible (by grind)
  expired impossible := absurd impossible (by grind)
  keyId := .inl keyId

theorem of_same (terms : after.terms = before.terms) (keyId : after.keyId = before.keyId)
    (state : after.state = before.state) : Moves marks before after where
  terms := terms
  dead := by simp [state]
  unsettled := by simp [state]
  revoked := by simp +contextual [state]
  expired := by simp +contextual [state]
  keyId := .inl keyId

end Enrollment.Moves

/-- Everything that may happen to a grant. -/
structure Grant.Moves (before after : Grant) : Prop where
  terms : after.terms = before.terms
  revoked : before.state = .revoked → after.state = .revoked

namespace Grant.Moves

variable {before middle after : Grant}

theorem refl (grant : Grant) : Moves grant grant := ⟨rfl, fun revoked => revoked⟩

theorem trans (first : Moves before middle) (second : Moves middle after) : Moves before after :=
  ⟨second.terms.trans first.terms, fun revoked => second.revoked (first.revoked revoked)⟩

theorem id_eq (moves : Moves before after) : after.id = before.id :=
  (congrArg Grant.id moves.terms :)

theorem resourceId_eq (moves : Moves before after) : after.resourceId = before.resourceId :=
  (congrArg Grant.resourceId moves.terms :)

theorem deadline_eq (moves : Moves before after) : after.deadline = before.deadline :=
  (congrArg Grant.deadline moves.terms :)

end Grant.Moves

/-- Everything that may happen to a session. -/
structure Session.Moves (before after : Session) : Prop where
  terms : after.terms = before.terms
  ended : before.state ≠ .active → after.state ≠ .active
  bounded : before.leaseExpires ≤ before.deadline → after.leaseExpires ≤ after.deadline

namespace Session.Moves

variable {before middle after : Session}

theorem refl (session : Session) : Moves session session :=
  ⟨rfl, fun ended => ended, fun bounded => bounded⟩

theorem trans (first : Moves before middle) (second : Moves middle after) : Moves before after :=
  ⟨second.terms.trans first.terms, fun ended => second.ended (first.ended ended),
    fun bounded => second.bounded (first.bounded bounded)⟩

theorem id_eq (moves : Moves before after) : after.id = before.id :=
  (congrArg Session.id moves.terms :)

theorem grantId_eq (moves : Moves before after) : after.grantId = before.grantId :=
  (congrArg Session.grantId moves.terms :)

theorem deadline_eq (moves : Moves before after) : after.deadline = before.deadline :=
  (congrArg Session.deadline moves.terms :)

theorem revoke (session : Session) : Moves session { session with state := .revoked } :=
  ⟨rfl, fun _ => by simp, fun bounded => bounded⟩

end Session.Moves

/-- The endpoint of the resource is registered under the enrollment, which is confirmed. -/
def Store.Bound (store : Store) (resourceId enrollmentId : UUID) : Prop :=
  (∃ endpoint ∈ store.endpoints.rows, endpoint.id = resourceId ∧
    endpoint.enrollmentId = enrollmentId) ∧
  ∃ row ∈ store.enrollments.rows, row.id = enrollmentId ∧ row.state = .confirmed

/-- The grant of a resource is revoked, or the resource is still served under the enrollment. -/
def Store.Held (store : Store) (grantId resourceId enrollmentId : UUID) : Prop :=
  ∃ grant ∈ store.grants.rows, grant.id = grantId ∧ grant.resourceId = resourceId ∧
    (grant.state = .revoked ∨ store.Bound resourceId enrollmentId)

/-- Everything that may happen to the rows of a store. -/
structure Evolves (marks : Marks) (before after : Store) : Prop where
  enrollments : before.enrollments.Rowwise (Enrollment.Moves marks) after.enrollments
  endpoints : before.endpoints.Rowwise (fun old new => new.id = old.id) after.endpoints
  grants : before.grants.Rowwise Grant.Moves after.grants
  sessions : before.sessions.Rowwise Session.Moves after.sessions
  held : ∀ {grantId resourceId enrollmentId}, before.Held grantId resourceId enrollmentId →
    after.Held grantId resourceId enrollmentId

namespace Evolves

variable {marks : Marks} {before middle after store : Store}

theorem refl (store : Store) : Evolves marks store store where
  enrollments := .refl .refl _
  endpoints := .refl (fun row => Eq.refl row.id) _
  grants := .refl .refl _
  sessions := .refl .refl _
  held := id

theorem trans (first : Evolves marks before middle) (second : Evolves marks middle after) :
    Evolves marks before after where
  enrollments := first.enrollments.trans .trans second.enrollments
  endpoints := first.endpoints.trans (fun one two => two.trans one) second.endpoints
  grants := first.grants.trans .trans second.grants
  sessions := first.sessions.trans .trans second.sessions
  held held := second.held (first.held held)

theorem foldl {step : Store → UUID → Store}
    (evolves : ∀ store id, Evolves marks store (step store id)) (ids : List UUID) (store : Store) :
    Evolves marks store (ids.foldl step store) := by
  induction ids generalizing store with
  | nil => exact .refl store
  | cons id rest induction => exact (evolves store id).trans (induction (step store id))

theorem of_grants {grants : Table Grant.id} {sessions : Table Session.id}
    (grants_move : store.grants.Rowwise Grant.Moves grants)
    (sessions_move : store.sessions.Rowwise Session.Moves sessions) :
    Evolves marks store { store with grants, sessions } where
  enrollments := .refl .refl _
  endpoints := .refl (fun row => Eq.refl row.id) _
  grants := grants_move
  sessions := sessions_move
  held := by
    rintro grantId resourceId enrollmentId ⟨grant, member, rfl, rfl, bound⟩
    obtain ⟨next, next_mem, moves⟩ := grants_move.exists_after member
    exact ⟨next, next_mem, moves.id_eq, moves.resourceId_eq, bound.imp_left moves.revoked⟩

theorem of_endpoints {endpoints : Table Endpoint.id}
    (move : store.endpoints.Rowwise
      (fun old new => new.id = old.id ∧ new.enrollmentId = old.enrollmentId) endpoints) :
    Evolves marks store { store with endpoints } where
  enrollments := .refl .refl _
  endpoints := move.mono fun _ _ same => same.1
  grants := .refl .refl _
  sessions := .refl .refl _
  held := by
    rintro grantId resourceId enrollmentId ⟨grant, member, rfl, rfl, bound⟩
    refine ⟨grant, member, rfl, rfl, bound.imp_right ?_⟩
    rintro ⟨⟨endpoint, endpoint_mem, serves, registered⟩, row⟩
    obtain ⟨next, next_mem, id, enrollment⟩ := move.exists_after endpoint_mem
    exact ⟨⟨next, next_mem, id.trans serves, enrollment.trans registered⟩, row⟩

private theorem of_enrollments {enrollments : Table Enrollment.id}
    (move : store.enrollments.Rowwise
      (fun old new => Enrollment.Moves marks old new ∧
        (old.state = .confirmed → new.state = .confirmed)) enrollments) :
    Evolves marks store { store with enrollments } where
  enrollments := move.mono fun _ _ moved => moved.1
  endpoints := .refl (fun row => Eq.refl row.id) _
  grants := .refl .refl _
  sessions := .refl .refl _
  held := by
    rintro grantId resourceId enrollmentId ⟨grant, member, rfl, rfl, bound⟩
    refine ⟨grant, member, rfl, rfl, bound.imp_right ?_⟩
    rintro ⟨serves, row, row_mem, id, confirmed⟩
    obtain ⟨next, next_mem, moves, keeps⟩ := move.exists_after row_mem
    exact ⟨serves, next, next_mem, moves.id_eq.trans id, keeps confirmed⟩

variable {id : UUID}

theorem modifyEnrollment {f : Enrollment → Enrollment} {keeps}
    (moves : ∀ row ∈ store.enrollments.rows, row.id = id → Enrollment.Moves marks row (f row))
    (confirmed : ∀ row ∈ store.enrollments.rows, row.id = id → row.state = .confirmed →
      (f row).state = .confirmed) : Evolves marks store (store.modifyEnrollment id f keeps) :=
  of_enrollments (rowwise_of_rewriteAt rfl (fun row => ⟨.refl row, fun state => state⟩)
    fun row member selected => ⟨moves row member selected, confirmed row member selected⟩)

theorem modifyEndpoint {f : Endpoint → Endpoint} {keeps}
    (same : ∀ row, (f row).enrollmentId = row.enrollmentId) :
    Evolves marks store (store.modifyEndpoint id f keeps) :=
  of_endpoints (rowwise_of_rewriteAt rfl (fun _ => ⟨rfl, rfl⟩)
    fun row _ _ => ⟨keeps row, same row⟩)

theorem modifySession {f : Session → Session} {keeps} (moves : ∀ row, Session.Moves row (f row)) :
    Evolves marks store (store.modifySession id f keeps) :=
  of_grants (.refl .refl _) (rowwise_of_rewriteAt rfl .refl fun row _ _ => moves row)

end Evolves

theorem mem_invalidate (store : Store) (resources : List UUID) {grant : Grant}
    (member : grant ∈ store.grants.rows) :
    ∃ next ∈ (invalidate store resources).grants.rows, Grant.Moves grant next ∧
      (grant.resourceId ∈ resources → next.state = .revoked) := by
  refine ⟨_, List.mem_map_of_mem member, ?_, ?_⟩
  · split_ifs
    · exact ⟨rfl, fun _ => rfl⟩
    · exact .refl grant
  · intro chosen
    simp [chosen]

theorem invalidate_grants (store : Store) (resources : List UUID) :
    store.grants.Rowwise Grant.Moves (invalidate store resources).grants := by
  refine rowwise_of_map rfl fun grant _ => ?_
  split_ifs
  · exact ⟨rfl, fun _ => rfl⟩
  · exact .refl grant

theorem invalidate_sessions (store : Store) (resources : List UUID) :
    store.sessions.Rowwise Session.Moves (invalidate store resources).sessions := by
  refine rowwise_of_map rfl fun session _ => ?_
  split_ifs
  · exact .revoke session
  · exact .refl session

variable {store : Store} {clock : Time} {marks : Marks} {row : Enrollment}
  {enrollmentId resourceId : UUID}

/-- A held grant is revoked with its enrollment, and untouched by the denial of another one. -/
theorem held_deny {id grantId : UUID} (held : store.Held grantId resourceId enrollmentId) :
    (deny clock store id).Held grantId resourceId enrollmentId := by
  obtain ⟨grant, member, rfl, rfl, bound⟩ := held
  obtain ⟨next, next_mem, moves, chosen⟩ :=
    mem_invalidate
      { store with
        enrollments := store.enrollments.modify id (denied clock) fun _ => rfl
        endpoints := store.endpoints.mapRows
          (fun endpoint =>
            if endpoint.enrollmentId = id then { endpoint with state := .revoking }
            else endpoint)
          fun endpoint => by split_ifs <;> rfl }
      (store.served id) member
  refine ⟨next, next_mem, moves.id_eq, moves.resourceId_eq, ?_⟩
  rcases bound with revoked | ⟨⟨endpoint, endpoint_mem, serves, registered⟩, row, row_mem, rfl,
    confirmed⟩
  · exact .inl (moves.revoked revoked)
  · by_cases same : row.id = id
    · exact .inl (chosen (by
        simpa [Store.served] using ⟨endpoint, ⟨endpoint_mem, registered.trans same⟩, serves⟩))
    · refine .inr ⟨⟨endpoint, ?_, serves, registered⟩, row, ?_, rfl, confirmed⟩
      · refine List.mem_map.mpr ⟨endpoint, endpoint_mem, if_neg ?_⟩
        rw [registered]
        exact same
      · exact mem_rewriteAt.mpr (.inl ⟨row_mem, same⟩)

theorem denied_moves (row : Enrollment) : Enrollment.Moves marks row (denied clock row) :=
  .of_state rfl rfl (fun _ => by simp [denied, deadStates]) (by simp [denied, unsettledStates])
    (by simp [denied])

theorem Evolves.deny (clock : Time) (store : Store) (id : UUID) :
    Evolves marks store (deny clock store id) where
  enrollments := rowwise_of_rewriteAt rfl .refl fun row _ _ => denied_moves row
  endpoints := by
    refine rowwise_of_map rfl fun endpoint _ => ?_
    split_ifs <;> rfl
  grants := invalidate_grants _ _
  sessions := invalidate_sessions _ _
  held := held_deny

theorem offline_moves (row : Enrollment) : Enrollment.Moves marks row (offline row) :=
  .of_same rfl rfl rfl

theorem Evolves.offline (store : Store) (id : UUID) :
    Evolves marks store (store.modifyEnrollment id offline offline_id) :=
  .modifyEnrollment (fun row _ _ => offline_moves row) fun _ _ _ confirmed => confirmed

/-- An enrollment that is not dead is the newest one, if it is current. -/
theorem alive_of_current (checked : current store row = .ok ()) : row.state ∉ deadStates := by
  unfold current at checked
  split_ifs at checked with newer dead
  exact dead

theorem Evolves.observe {settings : Settings} {after : Store} {nodes : List Node} {seen : Bool}
    (member : row ∈ store.enrollments.rows) (alive : row.state ∉ deadStates)
    (done : Management.observe settings clock store row nodes = .ok (seen, after)) :
    Evolves marks store after := by
  unfold Management.observe at done
  split at done
  · split at done
    · cases done
      exact .offline store row.id
    · obtain ⟨ips, -, rest⟩ := bind_eq_ok done
      split_ifs at rest
      · cases rest
        exact .offline store row.id
      · cases rest
        exact .deny clock store row.id
      · cases rest
        refine .modifyEnrollment ?_ fun _ _ _ _ => rfl
        intro other other_mem selected
        have same := store.enrollments.eq_of_key_eq other_mem member selected
        subst same
        exact .of_state rfl rfl (fun dead => absurd dead alive)
          (by simp [confirmed, unsettledStates]) (by simp [confirmed])
  · cases done
    exact .offline store row.id

end TrainingScheduler.Management
