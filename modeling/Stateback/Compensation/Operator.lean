import Stateback.Compensation.Recover
import Stateback.Domain.Secrets
/-!
# Starting and steering a compensation

`compensation/start.py` and `operator.py`.  An operator's reason code may not look like a secret.
-/

namespace Stateback.Compensation

open Domain Persistence Transitions Providers Stateback.Runtime Stateback.Recovery Transaction
open Process

/-! ## Start -/

def startBody (kind : TransitionKind) (compensation : Compensation) (ids : CompensationIds) :
    Except Raised CommandBody :=
  match kind with
  | .succeededStartCompensation =>
    .ok (.succeededStartCompensation compensation ids.compensationRequestedAuditEventId
      ids.startOutboxEventId)
  | .failedStartCompensation =>
    .ok (.failedStartCompensation compensation ids.compensationRequestedAuditEventId
      ids.startOutboxEventId)
  | .manualStartCompensation =>
    .ok (.manualStartCompensation compensation ids.operatorAuditEventId
      ids.compensationRequestedAuditEventId ids.startOutboxEventId)
  | _ => .error .assertionError

/-- What the unit of work of `start_compensation` answers: a result of its own, or that of the
transition it applied. -/
abbrev Started := CompensationResult ⊕ TransitionResult

/-- The unit of work once the operation may be compensated. -/
def startEligible (sha256Hex : JsonValue → String) (command : StartCompensationCommand)
    (reasonCode : String) (op : Operation) (descriptor : EffectDescriptor)
    (kind : Option TransitionKind) (createdAt occurredAt : UtcTimestamp) : Uow Started := fun s =>
  let actor := command.actor.getD compensationActor
  let compensation := buildCompensationRecord sha256Hex op descriptor command.ids actor createdAt
    op.currentPolicyDecisionId
  match kind with
  | none => .error .assertionError
  | some kind =>
    match startBody kind compensation command.ids with
    | .error e => .error e
    | .ok body =>
      (Sum.inr <$> applyOperation (commandOn op actor command.correlationId occurredAt reasonCode
        command.ids.startTransitionAuditEventId body)) s

/-- The unit of work of `start_compensation`; its early returns commit without a write. -/
def startUow (registry : CapabilityRegistry) (sha256Hex : JsonValue → String)
    (command : StartCompensationCommand) (operator : Bool) (reasonCode : String)
    (createdAt occurredAt : UtcTimestamp) : Uow Started := fun s =>
  let answer (result : CompensationResult) : Except Raised (Started × Store) := .ok (.inl result, s)
  match s.operation? command.operationId with
  | none => .error (.notFoundError "operation not found")
  | some op =>
    if (op.version : Int) ≠ command.expectedVersion then
      .error (.concurrencyConflictError "stale operation version")
    else
      match op.compensationId with
      | some compensationId =>
        answer (makeCompensationResult .accepted "already_applied" (some op)
          (s.compensation? compensationId))
      | none =>
        match registry.descriptor op.intent.effect with
        | .error _ => answer (makeCompensationResult .rejected "unregistered_effect" (some op) none)
        | .ok descriptor =>
          match op.currentPolicyDecisionId.bind s.policyDecision? with
          | none => answer (makeCompensationResult .rejected "policy_missing" (some op) none)
          | some policy =>
            let eligibility := evaluateStartEligibility op descriptor policy.obligations
              (s.listAttempts op.operationId).getLast? command.automatic operator
            if !eligibility.allowed then
              answer (makeCompensationResult .notEligible eligibility.reasonCode (some op) none)
            else
              startEligible sha256Hex command reasonCode op descriptor eligibility.startKind
                createdAt occurredAt s

def fromStarted : Started → CompensationResult
  | .inl result => result
  | .inr result =>
    match result.outcome with
    | .rejected => fromTransition .rejected result.reasonCode result none none
    | .alreadyApplied => fromTransition .accepted "already_applied" result none none
    | .applied => fromTransition .accepted "accepted" result none none

/-- `start_compensation`: of the exceptions only a conflict becomes a result. -/
def startCompensation (registry : CapabilityRegistry) (sha256Hex : JsonValue → String)
    (command : StartCompensationCommand) (operator : Bool) (reasonCode : String) :
    Service CompensationResult := do
  let createdAt ← Service.now
  let occurredAt ← Service.now
  let started ← Prog.attempt .work
    (startUow registry sha256Hex command operator reasonCode createdAt occurredAt)
  match started with
  | .ok started => pure (fromStarted started)
  | .error e =>
    if e.isConflict then pure (makeCompensationResult .rejected "concurrency_conflict" none none)
    else Prog.raise e

/-! ## Operator actions -/

/-- `_validate_reason_code`. -/
@[irreducible]
def validateReasonCode (lower : String → String) (command : OperatorCompensationCommand) :
    Option CompensationResult :=
  if keyIsForbidden lower command.reasonCode || valueIsForbidden lower command.reasonCode then
    some (makeCompensationResult .rejected "secret_field" none none)
  else none

def startOperatorCompensation (registry : CapabilityRegistry) (lower : String → String)
    (sha256Hex : JsonValue → String) (command : OperatorCompensationCommand) :
    Service CompensationResult :=
  match validateReasonCode lower command with
  | some invalid => pure invalid
  | none =>
    startCompensation registry sha256Hex
      { operationId := command.operationId
        expectedVersion := command.expectedVersion
        ids := command.ids
        actor := some command.actor
        correlationId := command.correlationId
        automatic := false }
      true command.reasonCode

def OperatorCompensationCommand.handling (command : OperatorCompensationCommand) : Handling :=
  ⟨command.actor, command.correlationId, command.ids⟩

/-- `retry_failed_compensation` after its loads. -/
def retryFailed (registry : CapabilityRegistry) (turns : Nat)
    (command : OperatorCompensationCommand) (op : Operation) (compensation : Compensation) :
    Service (Option CompensationResult) := do
  let descriptor ← Service.lift (registry.descriptor op.intent.effect)
  let attempts ← listCompensationAttempts compensation.compensationId
  let number := attempts.length + 1
  let retryIds ← Service.lift (command.ids.retryIdsFor compensation.compensationId number)
  let startedAt ← Service.now
  let next := buildStartedAttempt compensation.compensationId retryIds.attemptId number descriptor
    startedAt
  let occurredAt ← Service.now
  let claimedAt ← Service.now
  let claimed ← Prog.attempt .work (retryAndClaim
    { operationId := op.operationId
      expectedVersion := command.expectedVersion
      occurredAt := occurredAt
      actor := some command.actor
      correlationId := command.correlationId
      reasonCode := command.reasonCode
      transitionAuditEventId := retryIds.parentRetryTransitionAuditEventId
      body := .compensationFailedRetry retryIds.parentRetryOutboxEventId }
    (retryClaim command.actor command.correlationId command.reasonCode next
      retryIds.attemptAuditEventId claimedAt))
  settleRetry op compensation some
    (fun claimedOp claimedCompensation =>
      enterCycle registry command.handling turns claimedOp claimedCompensation (.compensate next))
    claimed

def retryFailedCompensation (registry : CapabilityRegistry) (lower : String → String)
    (turns : Nat) (command : OperatorCompensationCommand) : Service (Option CompensationResult) :=
  match validateReasonCode lower command with
  | some invalid => pure (some invalid)
  | none => do
    let op ← loadOperation command.operationId
    if (op.version : Int) ≠ command.expectedVersion then
      pure (some (makeCompensationResult .rejected "concurrency_conflict" (some op) none))
    else if op.state ≠ .compensationFailed then
      pure (some (makeCompensationResult .rejected "source_state_mismatch" (some op) none))
    else
      match op.compensationId with
      | none => pure (some (makeCompensationResult .rejected "compensation_missing" (some op) none))
      | some compensationId => do
        let loaded ← loadCompensation compensationId
        match loaded with
        | none =>
          pure (some (makeCompensationResult .rejected "compensation_missing" (some op) none))
        | some compensation => retryFailed registry turns command op compensation

/-- The escalation command for the state the operation is in. -/
def escalateBody? (ids : CompensationIds) : OperationState → Option CommandBody
  | .compensating => some (.compensationEscalate ids.manualAuditEventId none)
  | .compensationUnknown => some (.compensationUnknownEscalate ids.manualAuditEventId none)
  | .compensationFailed => some (.compensationFailedEscalate ids.manualAuditEventId)
  | _ => none

def escalateCompensation (lower : String → String) (command : OperatorCompensationCommand) :
    Service CompensationResult :=
  match validateReasonCode lower command with
  | some invalid => pure invalid
  | none => do
    let op ← loadOperation command.operationId
    if (op.version : Int) ≠ command.expectedVersion then
      pure (makeCompensationResult .rejected "concurrency_conflict" (some op) none)
    else
      match escalateBody? command.ids op.state with
      | none => pure (makeCompensationResult .rejected "source_state_mismatch" (some op) none)
      | some body => do
        let occurredAt ← Service.now
        let applied ← Service.trySubmit (.operation
          { operationId := op.operationId
            expectedVersion := command.expectedVersion
            occurredAt := occurredAt
            actor := some command.actor
            correlationId := command.correlationId
            reasonCode := command.reasonCode
            transitionAuditEventId := command.ids.completeTransitionAuditEventId
            body := body })
        settled op.operationId
          (makeCompensationResult .rejected "concurrency_conflict" (some op) none)
          (fun failedOp =>
            makeCompensationResult .infrastructureFailure "persist_failed" (some failedOp) none)
          id
          (fun result =>
            match result.outcome with
            | .rejected => pure (fromTransition .rejected result.reasonCode result none none)
            | .alreadyApplied => pure (fromTransition .accepted "already_applied" result none none)
            | .applied => pure (fromTransition .accepted "accepted" result none none))
          applied

end Stateback.Compensation
