import TrainingScheduler.Management.Transitions

/-!
# Enrollment requests in flight

The service as its callers see it: the store, the enrollment requests between their two
transactions, and the record of the remote key creations.  A request may be abandoned at any point.
-/

namespace TrainingScheduler.Management

open Table

/-- No two enrollments agree in identity and creation time, in the actor and its idempotency key, or
in identity and generation. -/
structure Distinct (table : Table Enrollment.id) : Prop where
  created : table.Unique fun row => (row.role, row.identity, row.created)
  keys : table.Unique fun row => (row.actor, row.idempotencyKey)
  generations : table.Unique fun row => (row.role, row.identity, row.generation)

/-- A live enrollment is the newest of its identity. -/
def Newest (table : Table Enrollment.id) : Prop :=
  ∀ row ∈ table.rows, row.Live → ∀ other ∈ table.rows, other.SameIdentity row →
    other.created ≤ row.created

namespace Enrollment

variable {marks : Marks} {left left' right right' : Enrollment}

theorem SameIdentity.symm (same : left.SameIdentity right) : right.SameIdentity left :=
  ⟨same.1.symm, same.2.symm⟩

theorem SameIdentity.trans (first : left.SameIdentity right) (second : right.SameIdentity right') :
    left.SameIdentity right' :=
  ⟨first.1.trans second.1, first.2.trans second.2⟩

namespace Moves

theorem sameIdentity (moves : Moves marks left left') : left'.SameIdentity left :=
  ⟨moves.role_eq, moves.identity_eq⟩

theorem live (moves : Moves marks left left') (alive : left'.Live) : left.Live :=
  fun dead => alive (moves.dead dead)

end Moves
end Enrollment

variable {store : Store}

namespace Distinct

variable {marks : Marks} {before after : Table Enrollment.id}

theorem rowwise (distinct : Distinct before)
    (related : before.Rowwise (Enrollment.Moves marks) after) : Distinct after where
  created := distinct.created.rowwise related (fun moves => moves.id_eq) fun moves => by
    rw [moves.role_eq, moves.identity_eq, moves.created_eq]
  keys := distinct.keys.rowwise related (fun moves => moves.id_eq) fun moves => by
    rw [moves.actor_eq, moves.idempotencyKey_eq]
  generations := distinct.generations.rowwise related (fun moves => moves.id_eq) fun moves => by
    rw [moves.role_eq, moves.identity_eq, moves.generation_eq]

theorem insert {row : Enrollment} {after : Store} {inserted : Table Enrollment.id}
    (distinct : Distinct store.enrollments) (reserved : Reserved store after row)
    (insert_eq : store.enrollments.insert row = some inserted) : Distinct inserted where
  created := distinct.created.insert insert_eq fun old member same => by
    simp only [Prod.mk.injEq] at same
    exact (reserved.newest old member ⟨same.1, same.2.1⟩).ne same.2.2
  keys := distinct.keys.insert insert_eq fun old member same => by
    simp only [Prod.mk.injEq] at same
    exact reserved.key old member same.1 same.2
  generations := distinct.generations.insert insert_eq fun old member same => by
    simp only [Prod.mk.injEq] at same
    exact reserved.generation old member ⟨same.1, same.2.1⟩ same.2.2

end Distinct

variable {marks : Marks}

theorem Newest.rowwise {before after : Table Enrollment.id} (newest : Newest before)
    (related : before.Rowwise (Enrollment.Moves marks) after) : Newest after := by
  intro row' row_mem alive other' other_mem identity
  obtain ⟨row, row_old, row_moves⟩ := related.exists_before row_mem
  obtain ⟨other, other_old, other_moves⟩ := related.exists_before other_mem
  rw [row_moves.created_eq, other_moves.created_eq]
  refine newest row row_old (row_moves.live alive) other other_old ?_
  exact other_moves.sameIdentity.symm.trans (identity.trans row_moves.sameIdentity)

theorem Newest.reserved {before after : Store} {row : Enrollment}
    (newest : Newest before.enrollments) (reserved : Reserved before after row) :
    Newest after.enrollments := by
  obtain ⟨inserted, insert_eq, evolves⟩ := reserved.evolves
  have rows := (insert_eq_some insert_eq).1
  intro live live_mem alive other other_mem identity
  obtain ⟨live₀, live_old, live_moves⟩ := evolves.enrollments.exists_before live_mem
  obtain ⟨other₀, other_old, other_moves⟩ := evolves.enrollments.exists_before other_mem
  rw [rows, List.mem_append, List.mem_singleton] at live_old other_old
  rw [live_moves.created_eq, other_moves.created_eq]
  have identity₀ : other₀.SameIdentity live₀ :=
    other_moves.sameIdentity.symm.trans (identity.trans live_moves.sameIdentity)
  by_cases mine : live.SameIdentity row
  · have same : live = row := by
      by_contra ne
      exact reserved.replaced live live_mem mine ne alive
    have created : live₀.created = row.created := by rw [← live_moves.created_eq, same]
    have mine₀ : live₀.SameIdentity row := live_moves.sameIdentity.symm.trans mine
    rw [created]
    rcases other_old with old | rfl
    · exact (reserved.newest other₀ old (identity₀.trans mine₀)).le
    · exact le_rfl
  · rcases live_old with live_old | rfl
    · rcases other_old with other_old | rfl
      · exact newest live₀ live_old (live_moves.live alive) other₀ other_old identity₀
      · exact absurd (live_moves.sameIdentity.trans identity₀.symm) mine
    · exact absurd live_moves.sameIdentity mine

theorem Transition.ordered {before after : Store} (transition : Transition marks before after)
    (distinct : Distinct before.enrollments) (newest : Newest before.enrollments) :
    Distinct after.enrollments ∧ Newest after.enrollments := by
  cases transition with
  | evolved evolves =>
    exact ⟨distinct.rowwise evolves.enrollments, newest.rowwise evolves.enrollments⟩
  | reserved row reserved =>
    obtain ⟨inserted, insert_eq, evolves⟩ := reserved.evolves
    exact ⟨(distinct.insert reserved insert_eq).rowwise evolves.enrollments,
      newest.reserved reserved⟩
  | registered _ _ _ after_eq =>
    subst after_eq
    exact ⟨distinct, newest⟩
  | issued _ _ _ _ after_eq =>
    subst after_eq
    exact ⟨distinct, newest⟩
  | opened session opened =>
    obtain ⟨sessions, -, evolves⟩ := opened.evolves
    exact ⟨distinct.rowwise evolves.enrollments, newest.rowwise evolves.enrollments⟩

theorem Transition.exists_after {before after : Store} (transition : Transition marks before after)
    {row : Enrollment} (member : row ∈ before.enrollments.rows) :
    ∃ next ∈ after.enrollments.rows, next.terms = row.terms ∧ (¬ row.Live → ¬ next.Live) := by
  obtain ⟨middle, others, within, evolves, -⟩ := transition.factors
  obtain ⟨next, next_mem, moves⟩ := evolves.enrollments.exists_after (within.enrollments member)
  exact ⟨next, next_mem, moves.terms, fun dead alive => dead (moves.live alive)⟩

/-- An enrollment request after its first transaction. -/
inductive EnrollCall where
  | reserved (row : Enrollment)
  | awaiting (row : Enrollment)

/-- The service: its store, the enrollment requests in flight, and the enrollments for which
`create_key` was invoked, the last one first. -/
structure Service where
  store : Store := {}
  calls : ℕ → Option EnrollCall := fun _ => none
  invocations : List Enrollment := []

/-- A step of the service.  The two transactions of an enrollment request and its remote call are
separate steps; all other transactions are steps of their own. -/
inductive Event where
  | enroll (call : ℕ) (now : Time) (request : Enroll) (actor : Actor) (idempotency : Option String)
      (id : UUID)
  | createKey (call : ℕ)
  | created (call : ℕ) (clock later : Time) (keyId : UUID) (key : String)
  | unavailable (call : ℕ) (unknown : Bool)
  | abandon (call : ℕ)
  | transaction (transaction : Transaction)

/-- The transaction is not one of an enrollment request. -/
def Transaction.standalone : Transaction → Bool
  | .enroll .. | .enrollFailed .. | .enrollCreated .. => false
  | _ => true

variable {service : Service}

namespace Service

/-- The call with its state. -/
def setCall (service : Service) (call : ℕ) (state : Option EnrollCall) : Service :=
  { service with calls := Function.update service.calls call state }

/-- What a step answers to its caller, and the service after it. -/
def perform (settings : Settings) (service : Service) :
    Event → Option (Except HTTPException Reply) × Service
  | .enroll call now request actor idempotency id =>
    match service.calls call with
    | some _ => (none, service)
    | none =>
      match (Transaction.enroll now request actor idempotency id).apply settings
        service.store with
      | (.ok (.reserved row), store) =>
        (none, { service with store }.setCall call (some (.reserved row)))
      | (reply, store) => (some reply, { service with store })
  | .createKey call =>
    match service.calls call with
    | some (.reserved row) =>
      (none,
        { service with invocations := row :: service.invocations }.setCall call
          (some (.awaiting row)))
    | _ => (none, service)
  | .created call clock later keyId key =>
    match service.calls call with
    | some (.awaiting row) =>
      let (reply, store) :=
        (Transaction.enrollCreated clock later row.id keyId key).apply settings service.store
      (some reply, { service with store }.setCall call none)
    | _ => (none, service)
  | .unavailable call unknown =>
    match service.calls call with
    | some (.awaiting row) =>
      let (_, store) :=
        (Transaction.enrollFailed row.id unknown).apply settings service.store
      (some (.error ⟨503, "enrollment unavailable"⟩), { service with store }.setCall call none)
    | _ => (none, service)
  | .abandon call => (none, service.setCall call none)
  | .transaction transaction =>
    if transaction.standalone then
      let (reply, store) := transaction.apply settings service.store
      (some reply, { service with store })
    else (none, service)

def performAll (settings : Settings) (service : Service) (events : List Event) : Service :=
  events.foldl (fun service event => (service.perform settings event).2) service

/-- What every step keeps.  A reserved request and an invocation belong to a stored row, and no
reserved request is among the invocations or reserved twice. -/
structure Invariant (service : Service) : Prop where
  distinct : Distinct service.store.enrollments
  newest : Newest service.store.enrollments
  invoked : ∀ row ∈ service.invocations, ∃ stored ∈ service.store.enrollments.rows,
    stored.terms = row.terms
  once : (service.invocations.map Enrollment.id).Nodup
  reserved : ∀ call row, service.calls call = some (.reserved row) →
    (∃ stored ∈ service.store.enrollments.rows, stored.terms = row.terms) ∧
      row.id ∉ service.invocations.map Enrollment.id
  sole : ∀ call row other row', service.calls call = some (.reserved row) →
    service.calls other = some (.reserved row') → row.id = row'.id → call = other

variable {state : Option EnrollCall}

theorem setCall_eq_reserved {call other : ℕ} {row : Enrollment}
    (found : (service.setCall call state).calls other = some (.reserved row)) :
    other = call ∧ state = some (.reserved row) ∨
      other ≠ call ∧ service.calls other = some (.reserved row) := by
  by_cases same : other = call
  · exact .inl ⟨same, by simpa [setCall, same] using found⟩
  · exact .inr ⟨same, by simpa [setCall, same] using found⟩

namespace Invariant

variable {settings : Settings} {service : Service}

theorem init : Invariant {} where
  distinct := ⟨by rintro _ ⟨⟩, by rintro _ ⟨⟩, by rintro _ ⟨⟩⟩
  newest := by rintro _ ⟨⟩
  invoked := by rintro _ ⟨⟩
  once := List.nodup_nil
  reserved := by rintro _ _ ⟨⟩
  sole := by rintro _ _ _ _ ⟨⟩

section

variable (invariant : Invariant service)

include invariant

theorem transact {after : Store} (transition : Transition marks service.store after) :
    Invariant { service with store := after } := by
  have persists {row : Enrollment} (kept : ∃ stored ∈ service.store.enrollments.rows,
      stored.terms = row.terms) : ∃ stored ∈ after.enrollments.rows, stored.terms = row.terms := by
    obtain ⟨stored, member, terms⟩ := kept
    obtain ⟨next, next_mem, next_terms, -⟩ := transition.exists_after member
    exact ⟨next, next_mem, next_terms.trans terms⟩
  obtain ⟨distinct, newest⟩ := transition.ordered invariant.distinct invariant.newest
  exact
    { distinct := distinct
      newest := newest
      invoked := fun row member => persists (invariant.invoked row member)
      once := invariant.once
      reserved := fun call row found =>
        ⟨persists (invariant.reserved call row found).1, (invariant.reserved call row found).2⟩
      sole := invariant.sole }

theorem setCall (call : ℕ) (not_reserved : ∀ row, state ≠ some (.reserved row)) :
    Invariant (service.setCall call state) := by
  have old {other : ℕ} {row : Enrollment}
      (found : (service.setCall call state).calls other = some (.reserved row)) :
      service.calls other = some (.reserved row) :=
    ((setCall_eq_reserved found).resolve_left fun new => not_reserved row new.2).2
  exact
    { invariant with
      reserved := fun other row found => invariant.reserved other row (old found)
      sole := fun left row right row' left_found right_found =>
        invariant.sole left row right row' (old left_found) (old right_found) }

theorem reserve (call : ℕ) {row : Enrollment} {after : Store}
    (reserved : Reserved service.store after row) :
    Invariant ({ service with store := after }.setCall call (some (.reserved row))) := by
  have transition : Transition {} service.store after := .reserved row reserved
  have kept := invariant.transact transition
  obtain ⟨inserted, insert_eq, -⟩ := reserved.evolves
  have fresh := (insert_eq_some insert_eq).2
  have unheld {other : Enrollment} (stored : ∃ stored ∈ service.store.enrollments.rows,
      stored.terms = other.terms) : other.id ≠ row.id := by
    obtain ⟨stored, member, terms⟩ := stored
    have same : stored.id = other.id := (congrArg Enrollment.id terms :)
    rw [← same]
    exact fresh stored member
  refine { kept with reserved := ?_, sole := ?_ }
  · intro other held found
    rcases setCall_eq_reserved found with ⟨-, ⟨⟩⟩ | ⟨-, found⟩
    · refine ⟨⟨row, reserved.member, rfl⟩, ?_⟩
      intro member
      obtain ⟨invoked, invoked_mem, same⟩ := List.mem_map.mp member
      exact unheld (invariant.invoked invoked invoked_mem) same
    · exact kept.reserved other held found
  · intro left held right held' left_found right_found same
    rcases setCall_eq_reserved left_found with ⟨rfl, ⟨⟩⟩ | ⟨-, left_old⟩
    · rcases setCall_eq_reserved right_found with ⟨rfl, -⟩ | ⟨-, right_old⟩
      · rfl
      · exact absurd same.symm (unheld (invariant.reserved right held' right_old).1)
    · rcases setCall_eq_reserved right_found with ⟨rfl, ⟨⟩⟩ | ⟨-, right_old⟩
      · exact absurd same (unheld (invariant.reserved left held left_old).1)
      · exact invariant.sole left held right held' left_old right_old same

theorem invoke {call : ℕ} {row : Enrollment} (found : service.calls call = some (.reserved row)) :
    Invariant ({ service with invocations := row :: service.invocations }.setCall call
      (some (.awaiting row))) := by
  obtain ⟨stored, uninvoked⟩ := invariant.reserved call row found
  have old {other : ℕ} {held : Enrollment}
      (found : ({ service with invocations := row :: service.invocations }.setCall call
        (some (.awaiting row))).calls other = some (.reserved held)) :
      other ≠ call ∧ service.calls other = some (.reserved held) :=
    (setCall_eq_reserved found).resolve_left (by simp)
  refine
    { distinct := invariant.distinct
      newest := invariant.newest
      invoked := ?_
      once := List.nodup_cons.mpr ⟨uninvoked, invariant.once⟩
      reserved := ?_
      sole := ?_ }
  · intro invoked member
    rcases List.mem_cons.mp member with rfl | earlier
    · exact stored
    · exact invariant.invoked invoked earlier
  · intro other held held_found
    obtain ⟨ne, other_found⟩ := old held_found
    refine ⟨(invariant.reserved other held other_found).1, ?_⟩
    intro member
    rcases List.mem_cons.mp member with same | earlier
    · exact ne (invariant.sole other held call row other_found found same)
    · exact (invariant.reserved other held other_found).2 earlier
  · intro left held right held' left_found right_found
    exact invariant.sole left held right held' (old left_found).2 (old right_found).2

theorem perform (event : Event) : Invariant (service.perform settings event).2 := by
  have transacted (transaction : Transaction) :
      Invariant { service with store := (transaction.apply settings service.store).2 } :=
    invariant.transact (transaction.transition settings service.store)
  have unreserved (row : Enrollment) : (none : Option EnrollCall) ≠ some (.reserved row) := by simp
  cases event with
  | enroll call now request actor idempotency id =>
    rw [Service.perform]
    split
    · exact invariant
    · split
      · rename_i row store applied
        refine invariant.reserve call ?_
        simp only [Transaction.apply, settle] at applied
        split at applied
        · cases applied
        · rename_i outcome after done
          rcases enroll_eq_ok done with ⟨reply, -, -, rfl, -, -⟩ | ⟨other, rfl, -, reserved⟩
          · cases applied
          · cases applied
            exact reserved
      · rename_i applied
        have kept := transacted (.enroll now request actor idempotency id)
        rwa [applied] at kept
  | createKey call =>
    rw [Service.perform]
    split
    · exact invariant.invoke ‹_›
    · exact invariant
  | created call clock later keyId key =>
    rw [Service.perform]
    split
    · rename_i row _
      exact (transacted (.enrollCreated clock later row.id keyId key)).setCall call unreserved
    · exact invariant
  | unavailable call unknown =>
    rw [Service.perform]
    split
    · rename_i row _
      exact (transacted (.enrollFailed row.id unknown)).setCall call unreserved
    · exact invariant
  | abandon call => exact invariant.setCall call unreserved
  | transaction transaction =>
    rw [Service.perform]
    split_ifs
    · exact transacted transaction
    · exact invariant

theorem performAll (events : List Event) : Invariant (service.performAll settings events) := by
  induction events generalizing service with
  | nil => exact invariant
  | cons event _ induction => exact induction (invariant.perform event)

end

end Invariant

private theorem perform_store (settings : Settings) (service : Service) (event : Event) :
    (service.perform settings event).2.store = service.store ∨
      ∃ transaction : Transaction,
        (transaction.standalone = false ∨ event = .transaction transaction) ∧
        (service.perform settings event).2.store =
          (transaction.apply settings service.store).2 := by
  cases event with
  | enroll call now request actor idempotency id =>
    rw [perform]
    split
    · exact .inl rfl
    · split
      all_goals
        rename_i applied
        exact .inr ⟨_, .inl rfl, (congrArg Prod.snd applied).symm⟩
  | created call clock later keyId key =>
    rw [perform]
    split
    · rename_i row _
      exact .inr ⟨.enrollCreated clock later row.id keyId key, .inl rfl, rfl⟩
    · exact .inl rfl
  | unavailable call unknown =>
    rw [perform]
    split
    · rename_i row _
      exact .inr ⟨.enrollFailed row.id unknown, .inl rfl, rfl⟩
    · exact .inl rfl
  | createKey call =>
    rw [perform]
    split <;> exact .inl rfl
  | abandon call => exact .inl rfl
  | transaction transaction =>
    rw [perform]
    split_ifs
    · exact .inr ⟨_, .inr rfl, rfl⟩
    · exact .inl rfl

private theorem dead_of_performAll {settings : Settings} (events : List Event) {row : Enrollment}
    (member : row ∈ service.store.enrollments.rows) (dead : ¬ row.Live) :
    ∀ next ∈ (service.performAll settings events).store.enrollments.rows, next.id = row.id →
      ¬ next.Live := by
  induction events generalizing service row with
  | nil =>
    intro next next_mem same
    rw [service.store.enrollments.eq_of_key_eq next_mem member same]
    exact dead
  | cons event rest induction =>
    rcases perform_store settings service event with same | ⟨transaction, -, same⟩
    · exact @induction (service.perform settings event).2 row (same ▸ member) dead
    · obtain ⟨middle, middle_mem, terms, dies⟩ :=
        (Transaction.transition settings service.store transaction).exists_after member
      have id_eq : middle.id = row.id := (congrArg Enrollment.id terms :)
      rw [← id_eq]
      exact @induction (service.perform settings event).2 middle (same ▸ middle_mem) (dies dead)

end Service

variable {reply : KeyReply}

theorem replay_eq_ok {settings : Settings} {clock : Time} {row : Enrollment}
    (done : replay settings clock row = .ok reply) :
    row.state = .keyIssued ∧ reply.enrollmentId = row.id := by
  unfold replay at done
  split_ifs at done
  split at done
  · rename_i issued _
    cases done
    exact ⟨issued, rfl⟩
  · cases done
  · cases done
  · cases done

private theorem enrollCreated_eq_ok {settings : Settings} {clock later : Time} {id keyId : UUID}
    {key : String} (done : (enrollCreated settings clock later store id keyId key).1 = .ok reply) :
    ∃ row ∈ (enrollCreated settings clock later store id keyId key).2.enrollments.rows,
      row.id = reply.enrollmentId ∧ row.state = .keyIssued := by
  unfold enrollCreated at done ⊢
  split at done
  · cases done
  · rename_i row found
    dsimp only at done ⊢
    split_ifs at done ⊢
    split at done
    · cases done
    · rename_i reply' replayed
      cases done
      refine ⟨issueKey key (recordKey clock keyId row), ?_, ?_, rfl⟩
      · refine mem_rewriteAt.mpr (.inr ⟨recordKey clock keyId row, ?_, ?_, rfl⟩)
        · exact mem_rewriteAt.mpr
            (.inr ⟨row, mem_of_lookup found, key_of_lookup found, rfl⟩)
        · exact (key_of_lookup found :)
      · exact (replay_eq_ok replayed).2.symm

theorem settle_eq_ok {α : Type} {reply : α → Reply} {answer : Reply}
    {program : Except HTTPException (α × Store)}
    (done : (settle store reply program).1 = .ok answer) :
    ∃ value, program = .ok (value, (settle store reply program).2) ∧ reply value = answer := by
  unfold settle at done ⊢
  split at done
  · cases done
  · cases done
    exact ⟨_, rfl, rfl⟩

theorem Transaction.not_key_of_standalone {settings : Settings} {transaction : Transaction}
    (standalone : transaction.standalone = true) (reply : KeyReply) :
    (transaction.apply settings store).1 ≠ .ok (.key reply) := by
  intro answered
  cases transaction with
  | enroll | enrollFailed | enrollCreated => cases standalone
  | reconcile | finish => cases answered
  | _ =>
    obtain ⟨value, -, same⟩ := settle_eq_ok answered
    cases same

theorem Service.issued_of_key {settings : Settings} {event : Event}
    (answered : (service.perform settings event).1 = some (.ok (.key reply))) :
    ∃ row ∈ (service.perform settings event).2.store.enrollments.rows,
      row.id = reply.enrollmentId ∧ row.state = .keyIssued := by
  revert answered
  cases event with
  | enroll call now request actor idempotency id =>
    rw [perform]
    split
    · rintro ⟨⟩
    · split
      · rintro ⟨⟩
      · rename_i applied
        rintro ⟨⟩
        rw [Transaction.apply] at applied
        obtain ⟨outcome, done, same⟩ := settle_eq_ok (congrArg Prod.fst applied)
        rw [applied] at done
        rcases enroll_eq_ok done with ⟨reply', previous, member, rfl, rfl, replayed⟩ | ⟨_, rfl, -⟩
        · cases same
          obtain ⟨issued, id_eq⟩ := replay_eq_ok replayed
          exact ⟨previous, member, id_eq.symm, issued⟩
        · cases same
  | createKey call =>
    rw [perform]
    split <;> rintro ⟨⟩
  | created call clock later keyId key =>
    rw [perform]
    split
    · intro answered
      obtain ⟨reply', done, same⟩ := map_eq_ok (Option.some.inj answered)
      cases same
      exact enrollCreated_eq_ok done
    · rintro ⟨⟩
  | unavailable call unknown =>
    rw [perform]
    split <;> rintro ⟨⟩
  | abandon call => rintro ⟨⟩
  | transaction transaction =>
    rw [perform]
    split_ifs with standalone
    · intro answered
      exact absurd (Option.some.inj answered)
        (Transaction.not_key_of_standalone standalone reply)
    · rintro ⟨⟩

def Enrollment.NewestIn (row : Enrollment) (table : Table Enrollment.id) : Prop :=
  row ∈ table.rows ∧ ∀ other ∈ table.rows, other.SameIdentity row → other ≠ row →
    other.created < row.created

theorem Service.Invariant.newestIn (invariant : service.Invariant) {row : Enrollment}
    (member : row ∈ service.store.enrollments.rows) (alive : row.Live) :
    row.NewestIn service.store.enrollments := by
  refine ⟨member, fun other other_mem identity ne => ?_⟩
  refine lt_of_le_of_ne (invariant.newest row member alive other other_mem identity) ?_
  intro created
  refine ne (invariant.distinct.created other other_mem row member ?_)
  simp only [identity.1, identity.2, created]

/-- Two requests for which a key was created are different requests: they have different rows, they
are not one actor's under one idempotency key, and they are not for one generation of one
identity. -/
theorem Service.Invariant.pairwise_invocations (invariant : service.Invariant) :
    service.invocations.Pairwise fun later earlier => later.id ≠ earlier.id ∧
      ¬ (later.actor = earlier.actor ∧ later.idempotencyKey = earlier.idempotencyKey) ∧
      ¬ (later.SameIdentity earlier ∧ later.generation = earlier.generation) := by
  refine (List.pairwise_map.mp invariant.once).imp_of_mem ?_
  intro later earlier later_mem earlier_mem ne
  obtain ⟨left, left_mem, left_terms⟩ := invariant.invoked later later_mem
  obtain ⟨right, right_mem, right_terms⟩ := invariant.invoked earlier earlier_mem
  -- one stored row would give the two requests one identifier
  have apart : left ≠ right := by
    rintro rfl
    exact ne (congrArg Enrollment.id (left_terms.symm.trans right_terms) :)
  have field {β : Type} (f : Enrollment → β) (terms : ∀ row, f row.terms = f row) :
      f left = f later ∧ f right = f earlier :=
    ⟨by rw [← terms left, left_terms, terms], by rw [← terms right, right_terms, terms]⟩
  refine ⟨ne, ?_, ?_⟩
  · rintro ⟨actor, key⟩
    obtain ⟨left_eq, right_eq⟩ := field (fun row => (row.actor, row.idempotencyKey)) fun _ => rfl
    refine apart (invariant.distinct.keys left left_mem right right_mem ?_)
    simp only at left_eq right_eq ⊢
    rw [left_eq, right_eq, actor, key]
  · rintro ⟨⟨role, identity⟩, generation⟩
    obtain ⟨left_eq, right_eq⟩ :=
      field (fun row => (row.role, row.identity, row.generation)) fun _ => rfl
    refine apart (invariant.distinct.generations left left_mem right right_mem ?_)
    simp only at left_eq right_eq ⊢
    rw [left_eq, right_eq, role, identity, generation]

/-- After any steps of the service, a live enrollment is the only live one of its identity and the
newest one, a dead one stays dead, no two key creations were for one enrollment, one idempotency key
or one generation, and a key is handed out for the newest enrollment only. -/
theorem single_live_enrollment (settings : Settings) (events later : List Event) :
    let service := Service.performAll settings {} events
    (∀ row ∈ service.store.enrollments.rows, row.Live →
      row.NewestIn service.store.enrollments ∧
        ∀ other ∈ service.store.enrollments.rows, other.SameIdentity row → other.Live →
          other = row) ∧
    (∀ row ∈ service.store.enrollments.rows, ¬ row.Live →
      ∀ next ∈ (service.performAll settings later).store.enrollments.rows, next.id = row.id →
        ¬ next.Live) ∧
    (service.invocations.Pairwise fun later earlier => later.id ≠ earlier.id ∧
      ¬ (later.actor = earlier.actor ∧ later.idempotencyKey = earlier.idempotencyKey) ∧
      ¬ (later.SameIdentity earlier ∧ later.generation = earlier.generation)) ∧
    ∀ event reply, (service.perform settings event).1 = some (.ok (.key reply)) →
      ∃ row : Enrollment, row.id = reply.enrollmentId ∧ row.state = .keyIssued ∧
        row.NewestIn (service.perform settings event).2.store.enrollments := by
  intro service
  have invariant : service.Invariant := Service.Invariant.init.performAll events
  refine ⟨?_, ?_, invariant.pairwise_invocations, ?_⟩
  · intro row member alive
    have newest := invariant.newestIn member alive
    refine ⟨newest, fun other other_mem identity other_alive => ?_⟩
    by_contra ne
    have older := newest.2 other other_mem identity ne
    have newer := invariant.newest other other_mem other_alive row member identity.symm
    exact absurd older (not_lt.mpr newer)
  · intro row member dead
    exact Service.dead_of_performAll later member dead
  · intro event reply answered
    obtain ⟨row, member, id_eq, issued⟩ := Service.issued_of_key answered
    have alive : row.Live := by simp [Enrollment.Live, issued, deadStates]
    exact ⟨row, id_eq, issued, (invariant.perform event).newestIn member alive⟩

namespace Tailnet

/-- Settings with one admissible address for the gateway and one for an endpoint. -/
def settings : Settings where
  gatewayId := 1
  gatewayGeneration := 1
  loginServer := "headscale"
  signingKey := "signing"
  address ip := if ip ∈ ["100.64.0.1", "100.64.0.2"] then some ip else none
  digest request := if request.generation = 1 then "first" else "second"

/-- The first generation of resource 7 is enrolled and its key created. -/
def firstGeneration : Service :=
  Service.performAll settings {}
    [.enroll 0 10 ⟨.endpoint, 7, 1⟩ .controller (some "runtime-7") 20, .createKey 0,
      .created 0 11 11 30 "key"]

/-- The request for the first generation once more. -/
def retry : Event := .enroll 1 12 ⟨.endpoint, 7, 1⟩ .controller (some "runtime-7") 21

def firstKey : KeyReply where
  enrollmentId := 20
  key := "key"
  expiresAt := 310
  loginServer := "headscale"
  tags := ["tag:interactive-endpoint"]
  hostname := "interactive-20"

theorem retry_eq : (firstGeneration.perform settings retry).1 = some (.ok (.key firstKey)) := by
  decide +kernel

/-- The retry is answered with the key, which is not created again. -/
theorem retry_replays_key :
    (firstGeneration.perform settings retry).1 = some (.ok (.key firstKey)) ∧
    (firstGeneration.perform settings retry).2.invocations.length = 1 ∧
    ∃ row : Enrollment, row.id = firstKey.enrollmentId ∧ row.state = .keyIssued ∧
      row.NewestIn (firstGeneration.perform settings retry).2.store.enrollments :=
  ⟨retry_eq, by decide +kernel,
    (single_live_enrollment settings
      [.enroll 0 10 ⟨.endpoint, 7, 1⟩ .controller (some "runtime-7") 20, .createKey 0,
        .created 0 11 11 30 "key"] []).2.2.2 retry firstKey retry_eq⟩

end Tailnet

end TrainingScheduler.Management
