import Stateback.Runtime.Execute
/-!
# Recovery of an execution

`runtime/recover.py`: finishes an execution from its durable evidence, or marks it UNKNOWN,
without calling `execute`.
-/

namespace Stateback.Runtime

open Domain Persistence Transitions Providers Process

/-- `RECOVERY_ACTOR` of the runtime. -/
def runtimeRecoveryActor : PrincipalRef :=
  ⟨.service, "stateback.runtime", some "SynchronousRuntime"⟩

structure RecoverCommand where
  operationId : OpaqueId
  expectedVersion : Int
  ids : RecoverIds
  actor : Option PrincipalRef
  correlationId : Option String
deriving DecidableEq, Repr

/-- The `ExecutionUnknown` of an attempt still STARTED: it completes nothing. -/
def unknownCommand (command : RecoverCommand) (op : Operation) (actor : PrincipalRef)
    (occurredAt : UtcTimestamp) : OperationCommand where
  operationId := op.operationId
  expectedVersion := op.version
  occurredAt := occurredAt
  actor := some actor
  correlationId := command.correlationId
  reasonCode := "execution_unknown"
  transitionAuditEventId := command.ids.executionTransitionAuditEventId
  body := .executionUnknown none command.ids.evidenceAuditEventId
    command.ids.executionOutboxEventId

def unknownWithoutCompleting (command : RecoverCommand) (op : Operation) (actor : PrincipalRef) :
    Service RuntimeResult :=
  if (interpretExecutionCrash .executing (some .started)).interpretation ≠ .potentiallyUnknown then
    Prog.raise (.statebackError "illegal_combination"
      "EXECUTING+STARTED must interpret as POTENTIALLY_UNKNOWN")
  else do
    let occurredAt ← Service.now
    let result ← Service.submit (.operation (unknownCommand command op actor occurredAt))
    if result.outcome = .rejected then
      pure ⟨.rejected, result.reasonCode, result.operation, some result, none, none⟩
    else pure ⟨.accepted, "accepted", result.operation, some result, none, none⟩

/-- `recover_operation` on an EXECUTING operation, by its latest attempt. -/
def recoverExecuting (registry : CapabilityRegistry) (command : RecoverCommand)
    (actor : PrincipalRef) (op : Operation) : Service RuntimeResult := do
  let attempt ← latestAttempt op
  match attempt with
  | none => pure (makeResult .rejected "unsupported_state" (some op))
  | some attempt =>
    match attempt.state with
    | .started => unknownWithoutCompleting command op actor
    | .completed => do
      let evidence ← Service.lift (evidenceFromAttempt attempt)
      applyExecutionKind registry op attempt (some actor) command.correlationId command.ids
        evidence

def recoverOperation (registry : CapabilityRegistry) (command : RecoverCommand) :
    Service RuntimeResult := do
  let op ← loadOperation command.operationId
  let actor := command.actor.getD runtimeRecoveryActor
  match op.state with
  | .pendingPolicy => pure (makeResult .rejected "not_ready" (some op))
  | .ready => pure (makeResult .accepted "accepted" (some op))
  | .executing => recoverExecuting registry command actor op
  | .succeeded | .failed | .denied | .cancelled | .unknown | .verifying | .awaitingApproval
  | .compensating | .compensationUnknown | .compensated | .compensationFailed
  | .manualIntervention => pure (makeResult .accepted "already_applied" (some op))

end Stateback.Runtime
