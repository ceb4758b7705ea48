import TrainingScheduler.Scheduler.Schema

/-!
# Rows and wire bodies of the management service

The tables of `headscale_management/models.py`, the request bodies of its routes, and the nodes that
Headscale reports.  Cryptography is symbolic: a stored ciphertext is the key it decrypts to, and a
ticket is its claims together with the key that signed them.
-/

namespace TrainingScheduler.Management

inductive Role where
  | endpoint
  | gateway
  deriving DecidableEq, Repr

/-- The service credential a request was authenticated with. -/
inductive Actor where
  | controller
  | gateway
  | bootstrap
  deriving DecidableEq, Repr

inductive EnrollmentState where
  | pending
  | keyIssued
  | unknownResult
  | confirmed
  | revoking
  | revoked
  | expired
  | failed
  deriving DecidableEq, Repr

inductive EndpointState where
  | registered
  | ready
  | offline
  | revoking
  | revoked
  deriving DecidableEq, Repr

inductive GrantState where
  | issued
  | claimed
  | revoked
  deriving DecidableEq, Repr

inductive SessionState where
  | active
  | released
  | revoked
  deriving DecidableEq, Repr

inductive Purpose where
  | browser
  | ssh
  deriving DecidableEq, Repr

structure Enroll where
  role : Role
  identity : UUID
  generation : Nat
  deriving DecidableEq, Repr

structure Register where
  generation : Nat
  owner : UUID
  enrollmentId : UUID
  service : String
  protocol : String := "tcp-stream-v1"
  port : Nat
  deriving DecidableEq, Repr

structure Probe where
  generation : Nat
  version : UUID
  probeId : UUID
  success : Bool
  deriving DecidableEq, Repr

structure Issue where
  generation : Nat
  user : UUID
  resourceId : UUID
  service : String
  gatewayId : UUID
  purpose : Purpose := .browser
  deriving DecidableEq, Repr

/-- A retired ticket key that is still accepted for a while. -/
structure VerificationKey where
  kid : String
  pem : String
  notAfter : Time
  deriving DecidableEq, Repr

/-- `Settings` of the service.  `address` is the canonical form of an address in one of the tailnet
ranges, and `digest` the hash of an enrollment request. -/
structure Settings where
  gatewayId : UUID
  gatewayGeneration : Nat
  loginServer : String
  signingKey : String
  signingKid : String := "primary"
  issuer : String := "dml-interactive"
  verificationKeys : List VerificationKey := []
  enrollmentTtl : ℚ := 300
  resourceLease : ℚ := 60
  admissionTtl : ℚ := 60
  sessionMax : ℚ := 1800
  sessionLease : ℚ := 15
  sshSessionMax : ℚ := 14400
  reconcileInterval : ℚ := 5
  observationTtl : ℚ := 15
  ports : List Nat := [9000]
  address : String → Option String
  digest : Enroll → Hash

/-- A row of `enrollments`. -/
structure Enrollment where
  id : UUID
  actor : Actor
  idempotencyKey : String
  requestHash : Hash
  role : Role
  identity : UUID
  generation : Nat
  tags : List String
  expires : Time
  keyId : Option UUID := none
  ciphertext : Option String := none
  nodeId : Option UUID := none
  ips : List String := []
  observed : Option Time := none
  online : Bool := false
  state : EnrollmentState
  retries : Nat := 0
  retryAfter : Time := 0
  created : Time
  updated : Time
  deriving DecidableEq, Repr

/-- A row of `endpoints`; its key is the resource it serves. -/
structure Endpoint where
  id : UUID
  owner : UUID
  generation : Nat
  enrollmentId : UUID
  service : String
  protocol : String
  port : Nat
  version : UUID
  leaseExpires : Time
  state : EndpointState
  probeId : Option UUID := none
  probeExpires : Option Time := none
  probeGateway : Option UUID := none
  probed : Option Time := none
  deriving DecidableEq, Repr

/-- A signed ticket of the Gateway. -/
structure Ticket where
  kid : String
  key : String
  issuer : String
  audience : UUID
  subject : UUID
  jti : UUID
  issuedAt : Time
  notBefore : Time
  expires : Time
  resourceId : UUID
  generation : Nat
  service : String
  protocol : String
  purpose : Purpose
  deriving DecidableEq, Repr

/-- A row of `grants`. -/
structure Grant where
  id : UUID
  user : UUID
  resourceId : UUID
  generation : Nat
  service : String
  gateway : UUID
  expires : Time
  deadline : Time
  state : GrantState
  ticket : Ticket
  purpose : Purpose := .browser
  deriving DecidableEq, Repr

/-- A row of `sessions`. -/
structure Session where
  id : UUID
  grantId : UUID
  gateway : UUID
  requestId : UUID
  version : UUID
  leaseExpires : Time
  deadline : Time
  state : SessionState
  deriving DecidableEq, Repr

/-- A node that Headscale lists. -/
structure Node where
  id : UUID
  keyId : UUID
  tags : List String
  ips : List String
  online : Bool
  expiry : Option Time := none
  ephemeral : Bool
  reusable : Bool := false
  deriving DecidableEq, Repr

/-- The committed database of the service. -/
structure Store where
  enrollments : Table Enrollment.id := .empty
  endpoints : Table Endpoint.id := .empty
  grants : Table Grant.id := .empty
  sessions : Table Session.id := .empty

namespace Store

def modifyEnrollment (store : Store) (id : UUID) (f : Enrollment → Enrollment)
    (keeps : ∀ row, (f row).id = row.id) : Store :=
  { store with enrollments := store.enrollments.modify id f keeps }

def modifyEndpoint (store : Store) (id : UUID) (f : Endpoint → Endpoint)
    (keeps : ∀ row, (f row).id = row.id) : Store :=
  { store with endpoints := store.endpoints.modify id f keeps }

def modifySession (store : Store) (id : UUID) (f : Session → Session)
    (keeps : ∀ row, (f row).id = row.id) : Store :=
  { store with sessions := store.sessions.modify id f keeps }

end Store

/-- `get`: the row of a key. -/
def get {ρ : Type} {key : ρ → UUID} (table : Table key) (id : UUID) : Except HTTPException ρ :=
  match table.lookup id with
  | none => .error ⟨404, "unavailable"⟩
  | some row => .ok row

/-- `require`: the actor must have one of the roles. -/
def require (actor : Actor) (roles : List Actor) : Except HTTPException Unit :=
  if actor ∈ roles then .ok () else .error ⟨403, "denied"⟩

end TrainingScheduler.Management
