import TrainingScheduler.Management.Enrollments

/-!
# Endpoints

`EndpointService` of `endpoint_service.py`: the registration of an endpoint, its lease, the probes
of the gateway, and when an endpoint is available.  Each operation is one transaction at one
instant.
-/

namespace TrainingScheduler.Management

variable (settings : Settings) (clock : Time) (store : Store) (resourceId : UUID)

/-- `membership`: the enrollment was seen as a node a short while ago. -/
def membership (enrollment : Enrollment) : Bool :=
  enrollment.state == .confirmed && enrollment.online &&
    enrollment.observed.any fun observed => decide (clock < observed + settings.observationTtl)

/-- `gateway`: the enrollment of the configured gateway. -/
def gateway (settings : Settings) (clock : Time) (store : Store) :
    Except HTTPException Enrollment :=
  match store.enrollments.rows.find? fun row => row.role == .gateway &&
      row.identity == settings.gatewayId && row.generation == settings.gatewayGeneration with
  | none => .error ⟨503, "gateway unavailable"⟩
  | some row =>
    if membership settings clock row then .ok row else .error ⟨503, "gateway unavailable"⟩

/-- The endpoint is revoked, or being revoked. -/
def Endpoint.closed (endpoint : Endpoint) : Bool :=
  endpoint.state == .revoking || endpoint.state == .revoked

/-- The endpoint answered a probe of the gateway a short while ago. -/
def Endpoint.answered (endpoint : Endpoint) : Bool :=
  endpoint.probed.any fun probed =>
    probed != 0 && decide (clock < probed + settings.observationTtl)

/-- `available`: the enrollment behind an endpoint that can be reached. -/
def available (endpoint : Endpoint) (ready : Bool := true) : Except HTTPException Enrollment :=
  if endpoint.closed then .error ⟨410, "revoked"⟩
  else do
    let enrollment ← get store.enrollments endpoint.enrollmentId
    if decide (endpoint.leaseExpires ≤ clock) || !membership settings clock enrollment ||
        ready && (endpoint.state != .ready || !endpoint.answered settings clock) then
      .error ⟨404, "unavailable"⟩
    else do
      let gateway ← gateway settings clock store
      let _ ← validateIps settings enrollment.ips gateway.ips
      .ok enrollment

/-- `generation`. -/
def checkGeneration (endpoint : Endpoint) (generation : Nat) : Except HTTPException Unit :=
  if endpoint.generation ≠ generation then .error ⟨409, "stale generation"⟩ else .ok ()

structure EndpointReply where
  resourceId : UUID
  generation : Nat
  version : UUID
  state : EndpointState
  leaseExpiresAt : Time
  deriving DecidableEq, Repr

def Endpoint.describe (endpoint : Endpoint) : EndpointReply where
  resourceId := endpoint.id
  generation := endpoint.generation
  version := endpoint.version
  state := endpoint.state
  leaseExpiresAt := endpoint.leaseExpires

/-- `order_by(created.desc(), id.desc())`. -/
def newestById (rows : List Enrollment) : Option Enrollment :=
  firstBy (fun left right => decide (right.created < left.created) ||
    left.created == right.created && decide (right.id < left.id)) rows

/-- The row of a newly registered endpoint version. -/
def registeredEndpoint (request : Register) (version : UUID) : Endpoint where
  id := resourceId
  owner := request.owner
  generation := request.generation
  enrollmentId := request.enrollmentId
  service := request.service
  protocol := request.protocol
  port := request.port
  version := version
  leaseExpires := clock + settings.resourceLease
  state := .registered

/-- A registration under another enrollment replaces the endpoint and revokes its grants.  The probe
reservation of the gateway stays with the row. -/
def replaceEndpoint (old row : Endpoint) : Store :=
  invalidate
    (store.modifyEndpoint old.id
      (fun endpoint => { row with
        id := endpoint.id
        owner := endpoint.owner
        probeExpires := endpoint.probeExpires
        probeGateway := endpoint.probeGateway }) fun _ => rfl)
    [old.id]

/-- `register`. -/
def register (request : Register) (actor : Actor) (version : UUID) :
    Except HTTPException (EndpointReply × Store) := do
  require actor [.controller]
  let enrollment ← get store.enrollments request.enrollmentId
  if enrollment.role ≠ .endpoint ∨ enrollment.identity ≠ resourceId then
    .error ⟨422, "invalid enrollment binding"⟩
  else if enrollment.generation ≠ request.generation then .error ⟨409, "stale generation"⟩
  else if (newestById (store.enrolled .endpoint resourceId)).any fun newest =>
      newest.id != enrollment.id then
    .error ⟨409, "stale generation"⟩
  else if !membership settings clock enrollment || request.port ∉ settings.ports then
    .error ⟨422, "invalid endpoint"⟩
  else
    let row := registeredEndpoint settings clock resourceId request version
    match store.endpoints.lookup resourceId with
    | some old =>
      if old.owner ≠ request.owner then .error ⟨403, "owner is immutable"⟩
      else if old.enrollmentId = enrollment.id then
        if old.service ≠ request.service ∨ old.port ≠ request.port ∨
            old.protocol ≠ request.protocol then
          .error ⟨409, "endpoint version is immutable"⟩
        else .ok (old.describe, store)
      else .ok (row.describe, replaceEndpoint store old row)
    | none =>
      match store.endpoints.insert row with
      | none => .error ⟨500, "Internal Server Error"⟩
      | some endpoints => .ok (row.describe, { store with endpoints })

/-- `lease`. -/
def lease (generation : Nat) (actor : Actor) : Except HTTPException (EndpointReply × Store) := do
  require actor [.controller]
  let endpoint ← get store.endpoints resourceId
  checkGeneration endpoint generation
  if endpoint.closed || decide (endpoint.leaseExpires ≤ clock) then
    .error ⟨410, "revoked or expired"⟩
  else
    let leased : Endpoint := { endpoint with leaseExpires := clock + settings.resourceLease }
    .ok (leased.describe, store.modifyEndpoint resourceId
      (fun row => { row with leaseExpires := clock + settings.resourceLease }) fun _ => rfl)

/-- A probe that the gateway is asked to make. -/
structure ProbeTarget where
  resourceId : UUID
  generation : Nat
  version : UUID
  probeId : Option UUID
  ips : List String
  port : Nat
  deriving DecidableEq, Repr

/-- Assign a probe to an endpoint; an unanswered one stays until it expires. -/
def assignProbe (probeId : UUID) (endpoint : Endpoint) : Endpoint :=
  if endpoint.probeId.isNone ||
      endpoint.probeExpires.all fun expires => decide (expires ≤ clock) then
    { endpoint with
      probeId := some probeId
      probeExpires := some (clock + settings.observationTtl)
      probeGateway := some settings.gatewayId }
  else endpoint

/-- `targets`; `newId` mints the probe of each endpoint. -/
def targets (gatewayId : UUID) (actor : Actor) (newId : UUID → UUID) :
    Except HTTPException (List ProbeTarget × Store) := do
  require actor [.gateway]
  if gatewayId ≠ settings.gatewayId then .error ⟨403, "denied"⟩
  else do
    let _ ← gateway settings clock store
    let probed := store.endpoints.rows.filterMap fun endpoint =>
      (available settings clock store endpoint false).toOption.map fun enrollment =>
        (assignProbe settings clock (newId endpoint.id) endpoint, enrollment)
    .ok (probed.map fun (endpoint, enrollment) =>
        { resourceId := endpoint.id
          generation := endpoint.generation
          version := endpoint.version
          probeId := endpoint.probeId
          ips := enrollment.ips
          port := endpoint.port },
      { store with
        endpoints := store.endpoints.mapRows
          (fun endpoint =>
            if (available settings clock store endpoint false).toOption.isSome then
              assignProbe settings clock (newId endpoint.id) endpoint
            else endpoint)
          fun endpoint => by unfold assignProbe; split_ifs <;> rfl })

/-- The transaction before a successful probe is recorded: the enrollment must be seen. -/
def probeObserved (request : Probe) (nodes : List Node) : Except HTTPException Store := do
  let endpoint ← get store.endpoints resourceId
  checkGeneration endpoint request.generation
  if endpoint.version ≠ request.version then .error ⟨409, "stale probe"⟩
  else do
    let enrollment ← get store.enrollments endpoint.enrollmentId
    current store enrollment
    let (seen, after) ← observe settings clock store enrollment nodes
    if !seen then .error ⟨404, "unavailable"⟩ else .ok after

/-- `probe`. -/
def probe (settings : Settings) (clock : Time) (store : Store) (resourceId : UUID)
    (request : Probe) (actor : Actor) : Except HTTPException (EndpointReply × Store) := do
  require actor [.gateway]
  let endpoint ← get store.endpoints resourceId
  checkGeneration endpoint request.generation
  let _ ← available settings clock store endpoint false
  if request.version ≠ endpoint.version ∨ some request.probeId ≠ endpoint.probeId ∨
      endpoint.probeGateway ≠ some settings.gatewayId ∨
      endpoint.probeExpires.all (fun expires => decide (expires ≤ clock)) then
    .error ⟨409, "stale probe"⟩
  else
    let answer (row : Endpoint) : Endpoint :=
      { row with
        state := if request.success then .ready else .offline
        probed := if request.success then some clock else none
        probeId := none }
    .ok ((answer endpoint).describe, store.modifyEndpoint resourceId answer fun _ => rfl)

/-- `revoke` of an endpoint denies the enrollment behind it. -/
def revokeEndpoint (actor : Actor) :
    Except HTTPException (EndpointReply × Store) := do
  require actor [.controller]
  let endpoint ← get store.endpoints resourceId
  let enrollment ← get store.enrollments endpoint.enrollmentId
  let after := deny clock store enrollment.id
  let revoked ← get after.endpoints resourceId
  .ok (revoked.describe, after)

end TrainingScheduler.Management
