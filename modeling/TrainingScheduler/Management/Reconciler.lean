import TrainingScheduler.Management.Endpoints

/-!
# Reconciliation

`Reconciler.once` of `reconciliation.py`.  A pass lists the nodes, runs one transaction over all
rows, and then cleans up at Headscale what the transaction collected: one remote call and one final
transaction for each collected enrollment.
-/

namespace TrainingScheduler.Management

/-- The row of a reservation or an unused key whose time is over.  A reservation passes through
`UNKNOWN_RESULT` within the transaction. -/
def expired (now : Time) (row : Enrollment) : Enrollment :=
  if row.state ∈ unsettledStates ∧ row.expires ≤ now then
    { row with state := .expired, ciphertext := none }
  else row

variable (settings : Settings) (now clock : Time) (store : Store)

theorem expired_id (row : Enrollment) : (expired now row).id = row.id := by
  unfold expired
  split_ifs <;> rfl

/-- The states whose key and nodes a pass removes. -/
def buriedStates : List EnrollmentState := [.revoking, .revoked, .expired]

def buried (row : Enrollment) : Enrollment := { row with ciphertext := none, online := false }

/-- What is removed at Headscale for one enrollment. -/
structure Cleanup where
  enrollmentId : UUID
  keyId : Option UUID
  nodeIds : List UUID
  deriving DecidableEq, Repr

/-- The exact nodes of the key, and the node that was seen before. -/
def Enrollment.cleanup (row : Enrollment) (nodes : List Node) : Cleanup where
  enrollmentId := row.id
  keyId := row.keyId
  nodeIds :=
    let exact := (nodes.filter fun node => some node.keyId == row.keyId).map Node.id
    match row.nodeId with
    | none => exact
    | some nodeId => if nodeId ∈ exact then exact else exact ++ [nodeId]

/-- What a pass collects for an enrollment; nothing when the nodes could not be listed. -/
def Enrollment.collected (row : Enrollment) (nodes : Option (List Node)) : List Cleanup :=
  match nodes with
  | none => []
  | some nodes => if row.retryAfter ≤ now then [row.cleanup nodes] else []

/-- The pass at one enrollment. -/
def reconcileEnrollment (nodes : Option (List Node)) (state : Store × List Cleanup) (id : UUID) :
    Store × List Cleanup :=
  match state.1.enrollments.lookup id with
  | none => state
  | some row =>
    let current := expired now row
    let store := state.1.modifyEnrollment id (expired now) (expired_id now)
    if current.state ∈ buriedStates then
      (store.modifyEnrollment id buried fun _ => rfl, state.2 ++ current.collected now nodes)
    else
      match nodes with
      | none => (store, state.2)
      | some nodes =>
        if current.state ∈ [EnrollmentState.keyIssued, .confirmed] then
          match observe settings clock store current nodes with
          | .ok (_, after) => (after, state.2)
          | .error _ => (store.modifyEnrollment id offline offline_id, state.2)
        else (store, state.2)

def reconcileEnrollments (nodes : Option (List Node)) : Store × List Cleanup :=
  (store.enrollments.rows.map Enrollment.id).foldl
    (reconcileEnrollment settings now clock nodes) (store, [])

/-- The pass at one endpoint. -/
def reconcileEndpoint (id : UUID) : Store :=
  match store.endpoints.lookup id with
  | none => store
  | some endpoint =>
    if endpoint.closed then store
    else
      match store.enrollments.lookup endpoint.enrollmentId with
      | none => store
      | some enrollment =>
        if endpoint.leaseExpires ≤ now then deny clock store enrollment.id
        else if !membership settings clock enrollment || !endpoint.answered settings now then
          store.modifyEndpoint id
            (fun row =>
              { row with
                state :=
                  if row.probed.any fun probed => probed != 0 then .offline else .registered })
            fun _ => rfl
        else store

def reconcileEndpoints : Store :=
  (store.endpoints.rows.map Endpoint.id).foldl (reconcileEndpoint settings now clock) store

/-- The pass at one session. -/
def reconcileSession (session : Session) : Session :=
  if session.state = .active ∧ (session.leaseExpires ≤ now ∨ session.deadline ≤ now) then
    { session with state := .revoked }
  else session

/-- The transaction of a pass that began at `now`. -/
def reconcile (nodes : Option (List Node)) : List Cleanup × Store :=
  let enrolled := reconcileEnrollments settings now clock store nodes
  let served := reconcileEndpoints settings now clock enrolled.1
  (enrolled.2,
    { served with
      sessions := served.sessions.mapRows (reconcileSession now) fun session => by
        unfold reconcileSession; split_ifs <;> rfl })

def cleaned (row : Enrollment) : Enrollment :=
  { row with
    state := if row.state = .revoking then .revoked else row.state
    retryAfter := now + settings.reconcileInterval }

/-- The row after a failed cleanup; `jitter` is random. -/
def postponed (jitter : Time) (row : Enrollment) : Enrollment :=
  { row with
    retries := row.retries + 1
    retryAfter := now + min (2 ^ min (row.retries + 1) 5) 30 + jitter }

/-- The final transaction of a pass for one collected enrollment. -/
def finish (id : UUID) (success : Bool) (jitter : Time) : Store :=
  if success then
    { store with
      enrollments := store.enrollments.modify id (cleaned settings now) fun _ => rfl
      endpoints := store.endpoints.mapRows
        (fun endpoint =>
          if endpoint.enrollmentId = id ∧ endpoint.state = .revoking then
            { endpoint with state := .revoked }
          else endpoint)
        fun endpoint => by split_ifs <;> rfl }
  else store.modifyEnrollment id (postponed now jitter) fun _ => rfl

end TrainingScheduler.Management
