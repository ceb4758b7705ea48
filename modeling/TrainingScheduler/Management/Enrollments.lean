import TrainingScheduler.Scheduler.Operations
import TrainingScheduler.Management.Schema

/-!
# Enrollments

`EnrollmentService` of `enrollment_service.py`.  An enrollment request reserves a row in one
transaction, creates a pre-auth key at Headscale outside any transaction, and records the key in a
second one; a confirmation lists the nodes between its two transactions.  Every transaction takes
the write lock first, so transactions are serialized; a raised exception rolls one back.
-/

namespace TrainingScheduler.Management

/-- Revoke the grants of some resources, with their sessions. -/
def invalidate (store : Store) (resources : List UUID) : Store :=
  { store with
    grants := store.grants.mapRows
      (fun grant =>
        if grant.resourceId ∈ resources then { grant with state := .revoked } else grant)
      fun grant => by split_ifs <;> rfl
    sessions := store.sessions.mapRows
      (fun session =>
        if (store.grants.lookup session.grantId).any fun grant => grant.resourceId ∈ resources then
          { session with state := .revoked }
        else session)
      fun session => by split_ifs <;> rfl }

def Store.served (store : Store) (enrollmentId : UUID) : List UUID :=
  (store.endpoints.rows.filter fun endpoint => endpoint.enrollmentId == enrollmentId).map
    Endpoint.id

variable (settings : Settings) (clock : Time)

def denied (enrollment : Enrollment) : Enrollment :=
  { enrollment with state := .revoking, ciphertext := none, online := false, updated := clock }

/-- `deny`: revoke an enrollment with its endpoints, their grants and their sessions. -/
def deny (store : Store) (enrollmentId : UUID) : Store :=
  invalidate
    { store with
      enrollments := store.enrollments.modify enrollmentId (denied clock) fun _ => rfl
      endpoints := store.endpoints.mapRows
        (fun endpoint =>
          if endpoint.enrollmentId = enrollmentId then { endpoint with state := .revoking }
          else endpoint)
        fun endpoint => by split_ifs <;> rfl }
    (store.served enrollmentId)

def Store.enrolled (store : Store) (role : Role) (identity : UUID) : List Enrollment :=
  store.enrollments.rows.filter fun row => row.role == role && row.identity == identity

/-- `order_by(created.desc())`. -/
def latest (rows : List Enrollment) : Option Enrollment :=
  firstBy (fun left right => decide (right.created < left.created)) rows

/-- States that an enrollment never leaves for a live one. -/
def deadStates : List EnrollmentState := [.revoking, .revoked, .expired, .failed]

/-- States in which an enrollment waits for its node, until it expires. -/
def unsettledStates : List EnrollmentState := [.keyIssued, .unknownResult, .pending]

/-- `current`: the enrollment is the newest of its identity and not revoked. -/
def current (store : Store) (enrollment : Enrollment) : Except HTTPException Unit :=
  if (latest (store.enrolled enrollment.role enrollment.identity)).any fun newest =>
      newest.id != enrollment.id then
    .error ⟨409, "stale generation"⟩
  else if enrollment.state ∈ deadStates then .error ⟨410, "revoked or expired"⟩
  else .ok ()

structure StatusReply where
  id : UUID
  state : EnrollmentState
  role : Role
  identity : UUID
  generation : Nat
  expiresAt : Time
  nodeId : Option UUID
  ips : List String
  online : Bool
  observedAt : Option Time
  headscaleKeyId : Option UUID
  tags : List String
  ephemeral : Bool
  deriving DecidableEq, Repr

def Enrollment.view (enrollment : Enrollment) : StatusReply where
  id := enrollment.id
  state := enrollment.state
  role := enrollment.role
  identity := enrollment.identity
  generation := enrollment.generation
  expiresAt := enrollment.expires
  nodeId := enrollment.nodeId
  ips := enrollment.ips
  online := enrollment.online
  observedAt := enrollment.observed.filter fun observed => observed != 0
  headscaleKeyId := enrollment.keyId
  tags := enrollment.tags
  ephemeral := enrollment.role == .endpoint

/-- `status`: a gateway sees only its own enrollment. -/
def status (enrollment : Enrollment) (actor : Actor) :
    Except HTTPException StatusReply := do
  require actor [.controller, .gateway]
  if actor = .gateway ∧ (enrollment.role ≠ .gateway ∨ enrollment.identity ≠ settings.gatewayId) then
    .error ⟨403, "denied"⟩
  else .ok enrollment.view

structure KeyReply where
  enrollmentId : UUID
  key : String
  expiresAt : Time
  loginServer : String
  tags : List String
  hostname : String
  deriving DecidableEq, Repr

/-- `replay`: the stored key of an enrollment that was issued and not yet used. -/
def replay (enrollment : Enrollment) : Except HTTPException KeyReply :=
  if enrollment.expires ≤ clock then .error ⟨410, "expired"⟩
  else
    match enrollment.state, presentKey enrollment.ciphertext with
    | .keyIssued, some key =>
      .ok
        { enrollmentId := enrollment.id
          key := key
          expiresAt := enrollment.expires
          loginServer := settings.loginServer
          tags := enrollment.tags
          hostname := "interactive-" ++ ((toString enrollment.id).take 8).toString }
    | .pending, _ | .unknownResult, _ => .error ⟨503, "enrollment unavailable"⟩
    | _, _ => .error ⟨410, "enrollment unavailable"⟩

/-- The tags of the nodes of a role. -/
def Role.tags : Role → List String
  | .endpoint => ["tag:interactive-endpoint"]
  | .gateway => ["tag:interactive-gateway"]

/-- The checks of an enrollment request that read no row. -/
def enrollRejection (request : Enroll) (actor : Actor) (idempotency : Option String) :
    Except HTTPException String := do
  require actor [.controller, .bootstrap]
  match presentKey idempotency with
  | none => .error ⟨422, "bounded Idempotency-Key required"⟩
  | some key =>
    if 128 < key.length then .error ⟨422, "bounded Idempotency-Key required"⟩
    else if request.role = .gateway ∧ (request.identity ≠ settings.gatewayId ∨
        request.generation ≠ settings.gatewayGeneration) then
      .error ⟨403, "denied"⟩
    else if actor = .bootstrap ∧ request.role ≠ .gateway then .error ⟨403, "denied"⟩
    else .ok key

/-- How the first transaction of an enrollment request ends. -/
inductive EnrollOutcome where
  | replayed (reply : KeyReply)
  | reserved (enrollment : Enrollment)
  deriving DecidableEq, Repr

/-- The row reserved for a request, younger than every earlier enrollment of the identity. -/
def reservation (now : Time) (store : Store) (request : Enroll) (actor : Actor) (key : String)
    (id : UUID) : Enrollment where
  id := id
  actor := actor
  idempotencyKey := key
  requestHash := settings.digest request
  role := request.role
  identity := request.identity
  generation := request.generation
  tags := request.role.tags
  expires := now + settings.enrollmentTtl
  state := .pending
  created :=
    match latest (store.enrolled request.role request.identity) with
    | none => now
    | some newest => max now (newest.created + 1 / 1000000)
  updated := now

def replaced (store : Store) (request : Enroll) : List UUID :=
  ((store.enrolled request.role request.identity).filter fun old =>
    old.state ∉ [EnrollmentState.revoked, .expired, .failed]).map Enrollment.id

/-- The first transaction of `enroll`. -/
def enroll (now : Time) (store : Store) (request : Enroll) (actor : Actor)
    (idempotency : Option String) (id : UUID) : Except HTTPException (EnrollOutcome × Store) := do
  let key ← enrollRejection settings request actor idempotency
  match store.enrollments.rows.find? fun row => row.actor == actor && row.idempotencyKey == key with
  | some previous =>
    if previous.requestHash ≠ settings.digest request then .error ⟨409, "idempotency conflict"⟩
    else (replay settings now previous).map fun reply => (.replayed reply, store)
  | none =>
    if (store.enrolled request.role request.identity).any fun row =>
        row.generation == request.generation then
      .error ⟨409, "generation already enrolled; replace with a new generation"⟩
    else
      let row := reservation settings now store request actor key id
      match store.enrollments.insert row with
      | none => .error ⟨500, "Internal Server Error"⟩
      | some enrollments =>
        .ok (.reserved row,
          (replaced store request).foldl (deny now) { store with enrollments })

/-- The transaction after a failed key creation. -/
def enrollFailed (store : Store) (id : UUID) (unknown : Bool) : Store :=
  store.modifyEnrollment id
    (fun row =>
      if row.state = .pending then
        { row with state := if unknown then .unknownResult else .failed }
      else row)
    fun row => by split_ifs <;> rfl

/-- Record the exact key of an enrollment, even if a concurrent revocation won. -/
def recordKey (keyId : UUID) (row : Enrollment) : Enrollment :=
  { row with keyId := some keyId, updated := clock }

def issueKey (key : String) (row : Enrollment) : Enrollment :=
  { row with ciphertext := some key, state := .keyIssued }

/-- The transaction after a successful key creation.  The expiry is read twice, at `clock` and at
`later`; only the second reading rolls the transaction back. -/
def enrollCreated (later : Time) (store : Store) (id keyId : UUID) (key : String) :
    Except HTTPException KeyReply × Store :=
  match store.enrollments.lookup id with
  | none => (.error ⟨404, "unavailable"⟩, store)
  | some row =>
    let recorded := store.modifyEnrollment id (recordKey clock keyId) fun _ => rfl
    if row.state ≠ .pending ∨ row.expires ≤ clock then
      (.error ⟨410, "revoked or expired"⟩, deny clock recorded id)
    else
      match replay settings later (issueKey key (recordKey clock keyId row)) with
      | .error exception => (.error exception, store)
      | .ok reply => (.ok reply, recorded.modifyEnrollment id (issueKey key) fun _ => rfl)

/-- `validate_ips`: the canonical addresses, if all of them are admissible. -/
def validateIps (ips excluded : List String) : Except HTTPException (List String) :=
  match ips.mapM fun ip => (settings.address ip).filter fun address => address ∉ excluded with
  | some (first :: rest) => .ok (first :: rest)
  | _ => .error ⟨422, "invalid endpoint"⟩

/-- The node is the one that the enrollment stands for. -/
def Node.matchesEnrollment (node : Node) (enrollment : Enrollment) : Bool :=
  node.tags.isPerm enrollment.tags && node.ephemeral == (enrollment.role == .endpoint) &&
    !node.reusable && enrollment.nodeId.all fun nodeId => nodeId == node.id

/-- The addresses of the gateways, which no endpoint may have. -/
def Store.gatewayIps (store : Store) : List String :=
  (store.enrollments.rows.filter fun row => row.role == .gateway).flatMap Enrollment.ips

/-- The row of an enrollment that is not seen. -/
def offline (row : Enrollment) : Enrollment := { row with online := false }

theorem offline_id (row : Enrollment) : (offline row).id = row.id := rfl

/-- The row of an enrollment that is seen as a node. -/
def confirmed (clock : Time) (nodeId : UUID) (ips : List String) (row : Enrollment) : Enrollment :=
  { row with
    nodeId := some nodeId
    ips := ips
    observed := some clock
    online := true
    state := .confirmed
    ciphertext := none }

/-- `observe`: look for the node of an enrollment; the flag says that it was seen.  An unexpected
change of its addresses denies the enrollment. -/
def observe (store : Store) (enrollment : Enrollment) (nodes : List Node) :
    Except HTTPException (Bool × Store) :=
  let unseen := store.modifyEnrollment enrollment.id offline offline_id
  match nodes.filter fun node => some node.keyId == enrollment.keyId with
  | [node] =>
    if !node.matchesEnrollment enrollment then .ok (false, unseen)
    else do
      let ips ← validateIps settings node.ips
        (if enrollment.role = .endpoint then store.gatewayIps else [])
      if !node.online ||
          node.expiry.any (fun expiry => expiry != 0 && decide (expiry ≤ clock)) then
        .ok (false, unseen)
      else if enrollment.ips ≠ [] ∧ enrollment.ips ≠ ips then
        .ok (false, deny clock store enrollment.id)
      else
        .ok (true,
          store.modifyEnrollment enrollment.id (confirmed clock node.id ips) fun _ => rfl)
  | _ => .ok (false, unseen)

/-- The first transaction of `confirm`; it writes nothing. -/
def confirmBegin (store : Store) (id : UUID) (generation : Nat) (actor : Actor) :
    Except HTTPException Unit := do
  let row ← get store.enrollments id
  let _ ← status settings row actor
  if generation ≠ row.generation then .error ⟨409, "stale generation"⟩ else current store row

/-- The second transaction of `confirm`; an enrollment that is not seen rolls it back. -/
def confirm (store : Store) (id : UUID) (actor : Actor) (nodes : List Node) :
    Except HTTPException (StatusReply × Store) := do
  let row ← get store.enrollments id
  current store row
  if row.state ≠ .confirmed ∧ row.expires ≤ clock then .error ⟨410, "expired"⟩
  else
    let (seen, after) ← observe settings clock store row nodes
    if !seen then .error ⟨409, "membership not verified"⟩
    else
      let observed ← get after.enrollments id
      (status settings observed actor).map fun reply => (reply, after)

/-- `revoke_enrollment`. -/
def revokeEnrollment (store : Store) (id : UUID) (actor : Actor) :
    Except HTTPException (StatusReply × Store) := do
  require actor [.controller]
  let _ ← get store.enrollments id
  let after := deny clock store id
  let row ← get after.enrollments id
  (status settings row actor).map fun reply => (reply, after)

end TrainingScheduler.Management
