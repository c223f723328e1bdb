import Stateback.Compensation.Recover
import Stateback.Messaging.Codec
/-!
# The work handler

`messaging/worker.py` and `messaging/ids.py`: a delivered message leads to one call of the runtime,
of the recovery service or of the compensation service, under ids derived from the message.
`WorkHandler.handle` of the codec is what happens before: here the message has been decoded.
-/

namespace Stateback.Messaging

open Domain Persistence Transitions Providers Stateback.Runtime Stateback.Recovery Process
open Compensation

/-! ## Ids -/

section Ids

variable (uuid5 : String → OpaqueId)

/-- `_id`. -/
def workId (namespace_ role : String) : OpaqueId :=
  uuid5 ("stateback:" ++ namespace_ ++ ":" ++ role)

/-- `_RetryIds.for_attempt`. -/
def retryIdsFor (namespace_ : String) (compensationId : OpaqueId) (attemptNumber : Nat) :
    Except Persistence.Raised CompensationRetryIds :=
  let make (role : String) : OpaqueId :=
    workId uuid5 namespace_
      ("retry:" ++ compensationId.value ++ ":" ++ toString attemptNumber ++ ":" ++ role)
  if attemptNumber < 2 then .error (.valueError "retry attempt_number must be >= 2")
  else
    .ok
      { parentRetryTransitionAuditEventId := make "parent-transition"
        parentRetryOutboxEventId := make "parent-outbox"
        attemptId := make "attempt"
        attemptAuditEventId := make "attempt-audit"
        attemptOutboxEventId := make "attempt-outbox"
        resumeVerificationId := make "resume-verification"
        resumeVerificationStartAuditEventId := make "resume-verify-start"
        resumeVerificationCompleteAuditEventId := make "resume-verify-complete"
        resumeVerificationOutboxEventId := make "resume-verify-outbox"
        resumeCompleteTransitionAuditEventId := make "resume-transition"
        resumeCompleteOutboxEventId := make "resume-outbox"
        evidenceAuditEventId := make "evidence"
        completeTransitionAuditEventId := make "complete-transition"
        completeOutboxEventId := make "complete-outbox"
        verificationId := make "verification"
        verificationStartAuditEventId := make "verify-start"
        verificationCompleteAuditEventId := make "verify-complete"
        verificationOutboxEventId := make "verify-outbox" }

/-- What the handler uses of a message. -/
structure Delivery where
  outboxEventId : OpaqueId
  operationId : OpaqueId
  command : WorkCommand
  correlationId : Option String

namespace Delivery

variable (message : Delivery)

/-- `DeterministicWorkIds._make`. -/
def make (role : String) : OpaqueId := workId uuid5 message.outboxEventId.value role

def execute : ExecuteIds where
  attemptId := message.make uuid5 "execute:attempt"
  claimTransitionAuditEventId := message.make uuid5 "execute:claim"
  attemptAuditEventId := message.make uuid5 "execute:attempt-audit"
  evidenceAuditEventId := message.make uuid5 "execute:evidence"
  executionTransitionAuditEventId := message.make uuid5 "execute:transition"
  executionOutboxEventId := message.make uuid5 "execute:outbox"
  verificationId := message.make uuid5 "execute:verification"
  verificationAuditEventId := message.make uuid5 "execute:verification-audit"

def runtimeRecover : RecoverIds where
  evidenceAuditEventId := message.make uuid5 "runtime-recover:evidence"
  executionTransitionAuditEventId := message.make uuid5 "runtime-recover:transition"
  executionOutboxEventId := message.make uuid5 "runtime-recover:outbox"
  verificationId := message.make uuid5 "runtime-recover:verification"
  verificationAuditEventId := message.make uuid5 "runtime-recover:verification-audit"

/-- `DeterministicWorkIds.recovery`, but for the two ids of a stored reconciliation decision. -/
def recovery : RecoveryIds where
  verificationId := message.make uuid5 "recovery:verification"
  verificationStartAuditEventId := message.make uuid5 "recovery:verify-start"
  verificationCompleteAuditEventId := message.make uuid5 "recovery:verify-complete"
  startTransitionAuditEventId := message.make uuid5 "recovery:start-transition"
  startOutboxEventId := message.make uuid5 "recovery:start-outbox"
  completeTransitionAuditEventId := message.make uuid5 "recovery:complete-transition"
  retryOutboxEventId := message.make uuid5 "recovery:retry-outbox"
  manualAuditEventId := message.make uuid5 "recovery:manual-audit"
  executionRecover := message.runtimeRecover uuid5

def compensation : CompensationIds where
  compensationId := message.make uuid5 "compensation:id"
  compensationAttemptId := message.make uuid5 "compensation:attempt"
  startTransitionAuditEventId := message.make uuid5 "compensation:start-transition"
  compensationRequestedAuditEventId := message.make uuid5 "compensation:requested-audit"
  startOutboxEventId := message.make uuid5 "compensation:start-outbox"
  claimAttemptAuditEventId := message.make uuid5 "compensation:claim-audit"
  evidenceAuditEventId := message.make uuid5 "compensation:evidence"
  completeTransitionAuditEventId := message.make uuid5 "compensation:complete-transition"
  completeOutboxEventId := message.make uuid5 "compensation:complete-outbox"
  verificationId := message.make uuid5 "compensation:verification"
  verificationStartAuditEventId := message.make uuid5 "compensation:verify-start"
  verificationCompleteAuditEventId := message.make uuid5 "compensation:verify-complete"
  verificationOutboxEventId := message.make uuid5 "compensation:verify-outbox"
  manualAuditEventId := message.make uuid5 "compensation:manual-audit"
  operatorAuditEventId := message.make uuid5 "compensation:operator-audit"
  retryIdsFor := retryIdsFor uuid5 message.outboxEventId.value

end Delivery

end Ids

/-! ## Dispatch -/

/-- `WORKER_ACTOR`. -/
def workerActor : PrincipalRef := ⟨.service, "stateback.worker", some "StatebackWorker"⟩

def runtimeDisposition : RuntimeDisposition → String
  | .accepted => "ACCEPTED"
  | .rejected => "REJECTED"
  | .inFlight => "IN_FLIGHT"
  | .infrastructureFailure => "INFRASTRUCTURE_FAILURE"

def recoveryDisposition : RecoveryDisposition → String
  | .accepted => "ACCEPTED"
  | .rejected => "REJECTED"
  | .infrastructureFailure => "INFRASTRUCTURE_FAILURE"

def compensationDisposition : CompensationDisposition → String
  | .accepted => "ACCEPTED"
  | .rejected => "REJECTED"
  | .inFlight => "IN_FLIGHT"
  | .infrastructureFailure => "INFRASTRUCTURE_FAILURE"
  | .notEligible => "NOT_ELIGIBLE"

section Handler

variable (registry : CapabilityRegistry) (uuid5 : String → OpaqueId) (turns : Nat)
  (message : Delivery)

def dispatchCompensation (op : Operation) : Service (Option String) := do
  let result ← executeCompensation registry turns
    { operationId := message.operationId
      expectedVersion := op.version
      ids := message.compensation uuid5
      actor := some workerActor
      correlationId := message.correlationId }
  pure (result.map fun result => compensationDisposition result.disposition)

/-- `_dispatch` on an EXECUTE message. -/
def dispatchExecute (op : Operation) : Service (Option String) :=
  match op.state with
  | .ready => do
    let result ← executeOperation registry
      { operationId := message.operationId
        expectedVersion := op.version
        ids := message.execute uuid5
        actor := some workerActor
        correlationId := message.correlationId } turns
    pure (result.map fun result => runtimeDisposition result.disposition)
  | .executing => do
    let result ← recoverOperation registry
      { operationId := message.operationId
        expectedVersion := op.version
        ids := message.runtimeRecover uuid5
        actor := some workerActor
        correlationId := message.correlationId }
    pure (some (runtimeDisposition result.disposition))
  | _ => pure (some "ACCEPTED")

/-- `_dispatch` on a VERIFY message. -/
def dispatchVerify (op : Operation) : Service (Option String) :=
  match op.state with
  | .executing | .unknown | .verifying => do
    let result ← recoverUnknownOperation registry
      { operationId := message.operationId
        expectedVersion := op.version
        ids := message.recovery uuid5
        actor := some workerActor
        correlationId := message.correlationId }
    pure (some (recoveryDisposition result.disposition))
  | .compensating | .compensationUnknown => dispatchCompensation registry uuid5 turns message op
  | _ => pure (some "ACCEPTED")

/-- `_dispatch` on a COMPENSATE message. -/
def dispatchCompensate (op : Operation) : Service (Option String) :=
  match op.state with
  | .compensating | .compensationUnknown | .compensationFailed | .compensated =>
    dispatchCompensation registry uuid5 turns message op
  | _ => pure (some "ACCEPTED")

/-- `_dispatch`; `none` when the call has not ended within its turns. -/
def WorkHandler.dispatch (op : Operation) : Service (Option String) :=
  match message.command with
  | .execute => dispatchExecute registry uuid5 turns message op
  | .verify => dispatchVerify registry uuid5 turns message op
  | .compensate => dispatchCompensate registry uuid5 turns message op

/-- `_retry_or_term`. -/
def retryOrTerm (maxDeliveries deliveryCount : Int) : AckDecision :=
  if maxDeliveries ≤ deliveryCount then .term else .nak

/-- What `except (PersistenceError, DBAPIError)` catches. -/
def isInfrastructure (e : Persistence.Raised) : Bool :=
  e.isPersistenceError || decide (e = .databaseError)

/-- The decision for how a dispatch ended. -/
def settleDispatched (maxDeliveries deliveryCount : Int) :
    Except Persistence.Raised (Option String) → Service (Option AckDecision)
  | .error e =>
    if isInfrastructure e then pure (some (retryOrTerm maxDeliveries deliveryCount))
    else Prog.raise e
  | .ok none => pure none
  | .ok (some disposition) =>
    pure (some (if disposition = "INFRASTRUCTURE_FAILURE" then
      retryOrTerm maxDeliveries deliveryCount else .ack))

/-- `handle` on a decoded message. -/
def WorkHandler.handleDecoded (maxDeliveries deliveryCount : Int) :
    Service (Option AckDecision) := do
  let loaded ← (loadOperation message.operationId).handled
  match loaded with
  | .error e =>
    if isInfrastructure e then pure (some (retryOrTerm maxDeliveries deliveryCount))
    else Prog.raise e
  | .ok op => do
    let dispatched ← (WorkHandler.dispatch registry uuid5 turns message op).handled
    settleDispatched maxDeliveries deliveryCount dispatched

end Handler

end Stateback.Messaging
