import Mathlib.Data.Rat.Floor
import TrainingScheduler.Management.Endpoints

/-!
# Access grants and sessions

`GrantService` of `grant_service.py`: grants with a signed ticket, and the session for which the
gateway claims a ticket.  Each operation is one transaction at one instant.
-/

namespace TrainingScheduler.Management

structure GrantReply where
  grantId : UUID
  ticket : Ticket
  expiresAt : Time
  deriving DecidableEq, Repr

variable (settings : Settings) (clock : Time) (store : Store) (ticket : Ticket)

/-- The longest session of a purpose. -/
def sessionCap : Purpose → ℚ
  | .ssh => settings.sshSessionMax
  | .browser => settings.sessionMax

/-- The ticket of a new grant; `now` is in whole seconds. -/
def newTicket (now : Time) (request : Issue) (endpoint : Endpoint) (jti : UUID) : Ticket where
  kid := settings.signingKid
  key := settings.signingKey
  issuer := settings.issuer
  audience := request.gatewayId
  subject := request.user
  jti := jti
  issuedAt := now
  notBefore := now
  expires := now + settings.admissionTtl
  resourceId := endpoint.id
  generation := endpoint.generation
  service := endpoint.service
  protocol := "tcp-stream-v1"
  purpose := request.purpose

def newGrant (now : Time) (request : Issue) (endpoint : Endpoint) (jti : UUID) : Grant where
  id := jti
  user := request.user
  resourceId := endpoint.id
  generation := endpoint.generation
  service := endpoint.service
  gateway := request.gatewayId
  expires := now + settings.admissionTtl
  deadline := now + sessionCap settings request.purpose
  state := .issued
  ticket := newTicket settings now request endpoint jti
  purpose := request.purpose

/-- `issue`. -/
def issue (request : Issue) (actor : Actor) (jti : UUID) :
    Except HTTPException (GrantReply × Store) := do
  require actor [.controller]
  let endpoint ← get store.endpoints request.resourceId
  if request.user ≠ endpoint.owner ∨ request.gatewayId ≠ settings.gatewayId then
    .error ⟨403, "denied"⟩
  else do
    checkGeneration endpoint request.generation
    if endpoint.service ≠ request.service then .error ⟨404, "unavailable"⟩
    else do
      let _ ← available settings clock store endpoint
      let grant := newGrant settings ⌊clock⌋ request endpoint jti
      match store.grants.insert grant with
      | none => .error ⟨500, "Internal Server Error"⟩
      | some grants =>
        .ok ({ grantId := jti, ticket := grant.ticket, expiresAt := grant.expires },
          { store with grants })

/-- The key a ticket names verifies it: the active key, or a retired one that is still accepted. -/
def verified : Bool :=
  if ticket.kid = settings.signingKid then ticket.key == settings.signingKey
  else
    (settings.verificationKeys.find? fun record => record.kid == ticket.kid).any fun record =>
      decide (clock < record.notAfter) && ticket.key == record.pem

/-- `decode` without the admission expiry. -/
def decode : Except HTTPException Ticket :=
  if !verified settings clock ticket || ticket.issuer != settings.issuer ||
      ticket.audience != settings.gatewayId || ticket.protocol != "tcp-stream-v1" ||
      decide (clock < ticket.issuedAt) || decide (clock < ticket.notBefore) then
    .error ⟨401, "invalid ticket"⟩
  else .ok ticket

structure Destination where
  sessionId : UUID
  user : UUID
  resourceId : UUID
  generation : Nat
  version : UUID
  service : String
  protocol : String
  ips : List String
  port : Nat
  gatewayIps : List String
  leaseExpiresAt : Time
  deadline : Time
  deriving DecidableEq, Repr

/-- `destination`. -/
def destination (session : Session) :
    Except HTTPException Destination := do
  let grant ← get store.grants session.grantId
  let endpoint ← get store.endpoints grant.resourceId
  if session.state ≠ .active ∨ grant.state ≠ .claimed ∨ session.deadline ≤ clock ∨
      session.leaseExpires ≤ clock ∨ endpoint.generation ≠ grant.generation ∨
      endpoint.version ≠ session.version then
    .error ⟨410, "revoked or expired"⟩
  else do
    let enrollment ← available settings clock store endpoint
    let gateway ← gateway settings clock store
    .ok
      { sessionId := session.id
        user := grant.user
        resourceId := endpoint.id
        generation := endpoint.generation
        version := session.version
        service := endpoint.service
        protocol := endpoint.protocol
        ips := enrollment.ips
        port := endpoint.port
        gatewayIps := gateway.ips
        leaseExpiresAt := session.leaseExpires
        deadline := session.deadline }

def newSession (grant : Grant) (endpoint : Endpoint) (requestId id : UUID) : Session where
  id := id
  grantId := grant.id
  gateway := settings.gatewayId
  requestId := requestId
  version := endpoint.version
  leaseExpires := min (clock + settings.sessionLease) grant.deadline
  deadline := grant.deadline
  state := .active

/-- `claim`: the first claim of a ticket opens its session, and a retry returns it. -/
def claim (requestId : UUID) (actor : Actor) (id : UUID) :
    Except HTTPException (Destination × Store) := do
  require actor [.gateway]
  let claims ← decode settings clock ticket
  let grant ← get store.grants claims.jti
  if grant.ticket ≠ ticket ∨ grant.gateway ≠ settings.gatewayId then
    .error ⟨401, "invalid ticket"⟩
  else
    match store.sessions.rows.find? fun session => session.grantId == grant.id with
    | some existing =>
      if existing.requestId ≠ requestId ∨ existing.gateway ≠ settings.gatewayId then
        .error ⟨410, "ticket consumed"⟩
      else (destination settings clock store existing).map fun reply => (reply, store)
    | none =>
      if grant.state ≠ .issued ∨ grant.expires ≤ clock then .error ⟨410, "revoked or expired"⟩
      else if store.sessions.rows.any fun session =>
          session.gateway == settings.gatewayId && session.requestId == requestId then
        .error ⟨409, "request UUID already used"⟩
      else do
        let endpoint ← get store.endpoints grant.resourceId
        checkGeneration endpoint grant.generation
        let _ ← available settings clock store endpoint
        let session := newSession settings clock grant endpoint requestId id
        match store.sessions.insert session with
        | none => .error ⟨500, "Internal Server Error"⟩
        | some sessions =>
          let after : Store :=
            { store with
              sessions
              grants := store.grants.modify grant.id
                (fun row => { row with state := .claimed }) fun _ => rfl }
          (destination settings clock after session).map fun reply => (reply, after)

def renewed (session : Session) : Session :=
  { session with leaseExpires := min (clock + settings.sessionLease) session.deadline }

/-- `renew`. -/
def renew (sessionId : UUID) (actor : Actor) :
    Except HTTPException (Destination × Store) := do
  require actor [.gateway]
  let session ← get store.sessions sessionId
  if session.gateway ≠ settings.gatewayId then .error ⟨403, "denied"⟩
  else do
    let _ ← destination settings clock store session
    let after := store.modifySession sessionId (renewed settings clock) fun _ => rfl
    (destination settings clock after (renewed settings clock session)).map fun reply =>
      (reply, after)

/-- `release`. -/
def release (sessionId : UUID) (actor : Actor) :
    Except HTTPException (SessionState × Store) := do
  require actor [.gateway]
  let session ← get store.sessions sessionId
  if session.gateway ≠ settings.gatewayId then .error ⟨403, "denied"⟩
  else if session.state = .active then
    .ok (.released, store.modifySession sessionId
      (fun row => { row with state := .released }) fun _ => rfl)
  else .ok (session.state, store)

/-- `revoke` of a grant, with its session. -/
def revokeGrant (grantId : UUID) (actor : Actor) :
    Except HTTPException (GrantState × Store) := do
  require actor [.controller]
  let _ ← get store.grants grantId
  .ok (.revoked,
    { store with
      grants := store.grants.modify grantId (fun row => { row with state := .revoked }) fun _ => rfl
      sessions := store.sessions.mapRows
        (fun session =>
          if session.grantId = grantId then { session with state := .revoked } else session)
        fun session => by split_ifs <;> rfl })

end TrainingScheduler.Management
