import TrainingScheduler.Management.Grants
import TrainingScheduler.Management.Reconciler

/-!
# Transactions of the management service

Every transaction of the service as one type, with its answer and the store it commits.  A request
that raises leaves the store unchanged, but for the second transaction of an enrollment, which
commits a denial before it raises.
-/

namespace TrainingScheduler.Management

/-- A transaction with its arguments, the clock readings among them. -/
inductive Transaction where
  | enroll (now : Time) (request : Enroll) (actor : Actor) (idempotency : Option String) (id : UUID)
  | enrollFailed (id : UUID) (unknown : Bool)
  | enrollCreated (clock later : Time) (id keyId : UUID) (key : String)
  | status (id : UUID) (actor : Actor)
  | confirmBegin (id : UUID) (generation : Nat) (actor : Actor)
  | confirm (clock : Time) (id : UUID) (actor : Actor) (nodes : List Node)
  | revokeEnrollment (clock : Time) (id : UUID) (actor : Actor)
  | register (clock : Time) (resourceId : UUID) (request : Register) (actor : Actor)
      (version : UUID)
  | lease (clock : Time) (resourceId : UUID) (generation : Nat) (actor : Actor)
  | targets (clock : Time) (gatewayId : UUID) (actor : Actor) (newId : UUID → UUID)
  | probeObserved (clock : Time) (resourceId : UUID) (request : Probe) (nodes : List Node)
  | probe (clock : Time) (resourceId : UUID) (request : Probe) (actor : Actor)
  | revokeEndpoint (clock : Time) (resourceId : UUID) (actor : Actor)
  | issue (clock : Time) (request : Issue) (actor : Actor) (jti : UUID)
  | claim (clock : Time) (ticket : Ticket) (requestId : UUID) (actor : Actor) (id : UUID)
  | renew (clock : Time) (sessionId : UUID) (actor : Actor)
  | release (sessionId : UUID) (actor : Actor)
  | revokeGrant (grantId : UUID) (actor : Actor)
  | reconcile (now clock : Time) (nodes : Option (List Node))
  | finish (now : Time) (id : UUID) (success : Bool) (jitter : Time)

inductive Reply where
  | done
  | key (reply : KeyReply)
  | reserved (enrollment : Enrollment)
  | status (reply : StatusReply)
  | endpoint (reply : EndpointReply)
  | targets (reply : List ProbeTarget)
  | grant (reply : GrantReply)
  | destination (reply : Destination)
  | session (state : SessionState)
  | grantState (state : GrantState)
  | cleanups (collected : List Cleanup)
  deriving DecidableEq, Repr

def EnrollOutcome.reply : EnrollOutcome → Reply
  | .replayed reply => .key reply
  | .reserved enrollment => .reserved enrollment

/-- Commit the outcome of a program, or keep the store when it raised. -/
def settle {α : Type} (store : Store) (reply : α → Reply)
    (program : Except HTTPException (α × Store)) :
    Except HTTPException Reply × Store :=
  match program with
  | .error exception => (.error exception, store)
  | .ok (value, after) => (.ok (reply value), after)

/-- The answer of a transaction and the committed store. -/
def Transaction.apply (settings : Settings) (store : Store) :
    Transaction → Except HTTPException Reply × Store
  | .enroll now request actor idempotency id =>
    settle store EnrollOutcome.reply
      (Management.enroll settings now store request actor idempotency id)
  | .enrollFailed id unknown => (.ok .done, Management.enrollFailed store id unknown)
  | .enrollCreated clock later id keyId key =>
    let (reply, after) := Management.enrollCreated settings clock later store id keyId key
    (reply.map .key, after)
  | .status id actor =>
    settle store .status ((get store.enrollments id >>= fun row =>
      Management.status settings row actor).map fun reply => (reply, store))
  | .confirmBegin id generation actor =>
    settle store (fun _ => .done)
      ((Management.confirmBegin settings store id generation actor).map fun reply =>
        (reply, store))
  | .confirm clock id actor nodes =>
    settle store .status (Management.confirm settings clock store id actor nodes)
  | .revokeEnrollment clock id actor =>
    settle store .status (Management.revokeEnrollment settings clock store id actor)
  | .register clock resourceId request actor version =>
    settle store .endpoint
      (Management.register settings clock store resourceId request actor version)
  | .lease clock resourceId generation actor =>
    settle store .endpoint (Management.lease settings clock store resourceId generation actor)
  | .targets clock gatewayId actor newId =>
    settle store .targets (Management.targets settings clock store gatewayId actor newId)
  | .probeObserved clock resourceId request nodes =>
    settle store (fun _ => .done)
      ((Management.probeObserved settings clock store resourceId request nodes).map fun after =>
        ((), after))
  | .probe clock resourceId request actor =>
    settle store .endpoint (Management.probe settings clock store resourceId request actor)
  | .revokeEndpoint clock resourceId actor =>
    settle store .endpoint (Management.revokeEndpoint clock store resourceId actor)
  | .issue clock request actor jti =>
    settle store .grant (Management.issue settings clock store request actor jti)
  | .claim clock ticket requestId actor id =>
    settle store .destination (Management.claim settings clock store ticket requestId actor id)
  | .renew clock sessionId actor =>
    settle store .destination (Management.renew settings clock store sessionId actor)
  | .release sessionId actor =>
    settle store .session (Management.release settings store sessionId actor)
  | .revokeGrant grantId actor =>
    settle store .grantState (Management.revokeGrant store grantId actor)
  | .reconcile now clock nodes =>
    let (collected, after) := Management.reconcile settings now clock store nodes
    (.ok (.cleanups collected), after)
  | .finish now id success jitter =>
    (.ok .done, Management.finish settings now store id success jitter)

def Store.run (settings : Settings) (store : Store) (transactions : List Transaction) : Store :=
  transactions.foldl (fun store transaction => (transaction.apply settings store).2) store

theorem Store.run_preserves {settings : Settings} (invariant : Store → Prop)
    (preserves : ∀ store (transaction : Transaction), invariant store →
      invariant (transaction.apply settings store).2)
    {store : Store} (start : invariant store) (transactions : List Transaction) :
    invariant (store.run settings transactions) := by
  induction transactions generalizing store with
  | nil => exact start
  | cons transaction _ induction => exact induction (preserves store transaction start)

end TrainingScheduler.Management
