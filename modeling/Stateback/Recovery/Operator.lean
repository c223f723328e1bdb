import Stateback.Compensation.Operator
/-!
# Operator verification and the recovery scan

`recovery/operator.py` and `recovery/scan.py`.
-/

namespace Stateback.Recovery

open Domain Persistence Transitions Providers Stateback.Runtime Process

structure OperatorVerificationCommand where
  operationId : OpaqueId
  expectedVersion : Int
  ids : RecoveryIds
  actor : PrincipalRef
  correlationId : Option String
  reasonCode : String

/-- `_as_recovery_command`. -/
def asRecoveryCommand (command : OperatorVerificationCommand) : RecoveryCommand where
  operationId := command.operationId
  expectedVersion := command.expectedVersion
  ids := command.ids
  actor := some command.actor
  correlationId := command.correlationId

def invalidReasonCode (lower : String → String) (reasonCode : String) : Bool :=
  decide (reasonCode = "") || decide (200 < reasonCode.length)
    || keyIsForbidden lower reasonCode || valueIsForbidden lower reasonCode

def manualStartCommand (command : OperatorVerificationCommand) (op : Operation)
    (request : VerificationRequest) (occurredAt : UtcTimestamp) : OperationCommand :=
  commandOn op command.actor command.correlationId occurredAt command.reasonCode
    command.ids.startTransitionAuditEventId
    (.manualStartVerification request command.ids.manualAuditEventId
      command.ids.verificationStartAuditEventId command.ids.startOutboxEventId)

/-- What follows the unit of work that starts the verification. -/
def settleManualStart (registry : CapabilityRegistry) (command : OperatorVerificationCommand)
    (op : Operation) : Except Raised TransitionResult → Service RecoveryResult
  | .ok result =>
    match result.outcome with
    | .rejected =>
      pure (makeRecoveryResult .rejected result.reasonCode result.operation (some result))
    | .alreadyApplied => do
      let reloaded ← loadOperation command.operationId
      runVerifyingCycle registry (asRecoveryCommand command) reloaded command.actor
    | .applied => do
      let verifying ← Prog.require result.operation .assertionError
      runVerifyingCycle registry (asRecoveryCommand command) verifying command.actor
  | .error (.notFoundError _) => pure (makeRecoveryResult .rejected "not_found" none none)
  | .error e =>
    if e.isConflict then
      pure (makeRecoveryResult .infrastructureFailure "stale_version" (some op) none)
    else if e.isPersistenceError then
      pure (makeRecoveryResult .infrastructureFailure "persist_failed" (some op) none)
    else Prog.raise e

def startOperatorVerification (registry : CapabilityRegistry) (lower : String → String)
    (command : OperatorVerificationCommand) : Service RecoveryResult :=
  if invalidReasonCode lower command.reasonCode then
    pure (makeRecoveryResult .rejected "invalid_reason_code" none none)
  else do
    let loaded ← tryLoadOperation command.operationId
    match loaded with
    | none => pure (makeRecoveryResult .rejected "not_found" none none)
    | some op =>
      if op.state ≠ .manualIntervention then
        pure (makeRecoveryResult .rejected "source_state_mismatch" (some op) none)
      else do
        let descriptor ← Service.lift (registry.descriptor op.intent.effect)
        if descriptor.verificationMode = .none then
          pure (makeRecoveryResult .rejected "verification_unsupported" (some op) none)
        else do
          let attempts ← Service.load (·.listAttempts op.operationId)
          let requestedAt ← Service.now
          let request := buildOriginalVerificationRequest op attempts.getLast?
            command.ids.verificationId requestedAt
          let occurredAt ← Service.now
          let applied ← Service.trySubmit
            (.operation (manualStartCommand command op request occurredAt))
          settleManualStart registry command op applied

/-! ## Scan -/

structure ScanCommand where
  idsFor : OpaqueId → RecoveryIds
  actor : Option PrincipalRef
  correlationId : Option String

/-- The recoveries of one listed group, in order. -/
def recoverListed (registry : CapabilityRegistry) (command : ScanCommand) :
    List Operation → Service (List RecoveryResult)
  | [] => pure []
  | op :: rest => do
    let result ← recoverUnknownOperation registry
      { operationId := op.operationId
        expectedVersion := op.version
        ids := command.idsFor op.operationId
        actor := some (command.actor.getD recoveryActor)
        correlationId := command.correlationId }
    let results ← recoverListed registry command rest
    pure (result :: results)

def scanGroup (registry : CapabilityRegistry) (command : ScanCommand) (state : OperationState) :
    Service (List RecoveryResult) := do
  let operations ← Service.load (·.operationsByState state)
  recoverListed registry command operations

/-- `scan_recoverable`: each group is listed after the one before it was recovered. -/
def scanRecoverable (registry : CapabilityRegistry) (command : ScanCommand) :
    Service (List RecoveryResult) := do
  let executing ← scanGroup registry command .executing
  let verifying ← scanGroup registry command .verifying
  let unknown ← scanGroup registry command .unknown
  pure (executing ++ verifying ++ unknown)

end Stateback.Recovery
