import Stateback.Compensation.Execute
/-!
# Compensation recovery

`compensation/recover.py` and `scan.py`: resume a compensation from what the journal says about
it.  `recover_compensation` and `execute_compensation` call each other; `turns` bounds how often.
-/

namespace Stateback.Compensation

open Domain Persistence Transitions Providers Stateback.Runtime Stateback.Recovery Transaction
open Process

def RecoverCompensationCommand.handling (command : RecoverCompensationCommand) : Handling :=
  ⟨command.actor.getD compensationActor, command.correlationId, command.ids⟩

/-- The end of the branches that only apply one transition. -/
def settleApplied (op : Operation) (compensation : Option Compensation)
    (applied : Except Raised TransitionResult) : Service (Option CompensationResult) :=
  settled op.operationId
    (makeCompensationResult .rejected "concurrency_conflict" (some op) compensation)
    (fun failedOp =>
      makeCompensationResult .infrastructureFailure "persist_failed" (some failedOp) none)
    some
    (fun result =>
      if result.outcome = .rejected then
        pure (some (fromTransition .rejected result.reasonCode result none none))
      else pure (some (fromTransition .accepted "accepted" result none none)))
    applied

/-! ## COMPENSATING -/

/-- `_leftover_started_to_unknown`: the command completes no attempt. -/
def leftoverStartedToUnknown (h : Handling) (op : Operation) (compensation : Compensation) :
    Service (Option CompensationResult) := do
  let occurredAt ← Service.now
  let applied ← Service.trySubmit
    (handlingCommand h op h.actor occurredAt "compensation_leftover_unknown"
      h.ids.completeTransitionAuditEventId
      (.compensationOutcomeUnknown none h.ids.evidenceAuditEventId h.ids.completeOutboxEventId
        none))
  settleApplied op (some compensation) applied

/-- `_replay_completed_mapper`. -/
def replayCompletedMapper (registry : CapabilityRegistry) (h : Handling) (turns : Nat)
    (op : Operation) (compensation : Compensation) (latest : CompensationAttempt) :
    Service (Option CompensationResult) := do
  let descriptor ← Service.lift (registry.descriptor op.intent.effect)
  let policy ← loadPolicy op
  match policy with
  | none =>
    pure (some (makeCompensationResult .rejected "policy_missing" (some op) (some compensation)))
  | some policy => do
    let outcome ← Prog.require latest.outcome .assertionError
    let decision := decideCompensateKind outcome descriptor policy.obligations
    let occurredAt ← Service.now
    let requestedAt ← Service.now
    let command ← Service.lift (buildCompensateOutcomeCommand h decision op compensation latest
      occurredAt requestedAt)
    let applied ← Service.trySubmit command
    settled op.operationId
      (makeCompensationResult .rejected "concurrency_conflict" (some op) (some compensation))
      (fun failedOp =>
        makeCompensationResult .infrastructureFailure "persist_failed" (some failedOp) none)
      some
      (fun result =>
        if result.outcome = .rejected then
          pure (some (fromTransition .rejected result.reasonCode result none none))
        else do
          let settledOp ← Prog.require result.operation .assertionError
          let settledCompensation ← Prog.require result.compensation .assertionError
          if decision.kind = .progress .startCompensationVerification then
            enterCycle registry h turns settledOp settledCompensation (.verify none)
          else pure (some (fromTransition .accepted "accepted" result none none)))
      applied

/-- The result of the last completed verification of a compensation. -/
def lastCompletedResult (rows : List VerificationRow) : Option VerificationResult :=
  (rows.filter fun row => decide (row.1.target = .compensation) && row.2.isSome).getLast?.bind (·.2)

def recoverVerifying (registry : CapabilityRegistry) (h : Handling) (turns : Nat) (op : Operation)
    (compensation : Compensation) : Service (Option CompensationResult) := do
  let rows ← listVerifications op.operationId
  match findPendingCompensationVerification rows with
  | some _ => enterCycle registry h turns op compensation (.verify none)
  | none => do
    let rows ← listVerifications op.operationId
    match lastCompletedResult rows with
    | none =>
      pure (some
        (makeCompensationResult .rejected "verification_missing" (some op) (some compensation)))
    | some existingResult => enterCycle registry h turns op compensation (.verify existingResult)

/-- `_recover_compensating`. -/
def recoverCompensating (registry : CapabilityRegistry)
    (execute : ExecuteCompensationCommand → Service (Option CompensationResult)) (turns : Nat)
    (h : Handling) (op : Operation) (compensation : Compensation) :
    Service (Option CompensationResult) :=
  match compensation.state with
  | .pending =>
    execute
      { operationId := op.operationId
        expectedVersion := op.version
        ids := h.ids
        actor := some h.actor
        correlationId := h.correlationId }
  | .executing => do
    let attempts ← listCompensationAttempts compensation.compensationId
    match attempts.getLast? with
    | none =>
      pure (some (makeCompensationResult .rejected "attempt_missing" (some op) (some compensation)))
    | some latest =>
      match latest.state with
      | .started => leftoverStartedToUnknown h op compensation
      | .completed => replayCompletedMapper registry h turns op compensation latest
  | .verifying => recoverVerifying registry h turns op compensation
  | .unknown | .succeeded | .failed =>
    pure (some
      (makeCompensationResult .rejected "unsupported_state" (some op) (some compensation)))

/-! ## COMPENSATION_UNKNOWN -/

/-- The recovery a replayed transition returns to, on the operation as it is now. -/
def recoverAgain (recover : RecoverCompensationCommand → Service (Option CompensationResult))
    (h : Handling) (operationId : OpaqueId) : Service (Option CompensationResult) := do
  let freshOp ← loadOperation operationId
  recover
    { operationId := freshOp.operationId
      expectedVersion := freshOp.version
      ids := h.ids
      actor := some h.actor
      correlationId := h.correlationId }

/-- `_unknown_without_verify` when the retry is safe and within the attempt budget. -/
def unknownRetry (registry : CapabilityRegistry)
    (recover : RecoverCompensationCommand → Service (Option CompensationResult)) (turns : Nat)
    (h : Handling) (descriptor : EffectDescriptor) (op : Operation) (compensation : Compensation)
    (number : Nat) (reasonCode : String) : Service (Option CompensationResult) := do
  let retryIds ← Service.lift (h.ids.retryIdsFor compensation.compensationId number)
  let startedAt ← Service.now
  let next := buildStartedAttempt compensation.compensationId retryIds.attemptId number descriptor
    startedAt
  let occurredAt ← Service.now
  let claimedAt ← Service.now
  let claimed ← Prog.attempt .work (retryAndClaim
    (commandOn op compensationActor h.correlationId occurredAt reasonCode
      retryIds.parentRetryTransitionAuditEventId
      (.compensationUnknownRetry retryIds.parentRetryOutboxEventId))
    (retryClaim compensationActor h.correlationId "compensation_retry_claimed" next
      retryIds.attemptAuditEventId claimedAt))
  settled op.operationId
    (makeCompensationResult .rejected "concurrency_conflict" (some op) (some compensation))
    (fun failedOp => makeCompensationResult .infrastructureFailure
      "persist_failed_before_compensate" (some failedOp) none)
    some
    (fun result =>
      match result.outcome with
      | .rejected => pure (some (fromTransition .rejected result.reasonCode result none none))
      | .alreadyApplied => recoverAgain recover h op.operationId
      | .applied => do
        let claimedOp ← Prog.require result.operation .assertionError
        let claimedCompensation ← Prog.require result.compensation .assertionError
        enterCycle registry { h with actor := compensationActor } turns claimedOp
          claimedCompensation (.compensate next))
    claimed

/-- `_unknown_without_verify`. -/
def unknownWithoutVerify (registry : CapabilityRegistry)
    (recover : RecoverCompensationCommand → Service (Option CompensationResult)) (turns : Nat)
    (h : Handling) (op : Operation) (compensation : Compensation) (latest : CompensationAttempt)
    (descriptor : EffectDescriptor) (policy : PolicyDecision) :
    Service (Option CompensationResult) := do
  let attempts ← listCompensationAttempts compensation.compensationId
  let first ← Prog.require attempts.head? .assertionError
  let now ← Service.now
  let retryDescriptor ← Service.lift (registry.descriptor op.intent.effect)
  let retry ← Service.lift (evaluateRetrySafety retryDescriptor
    (compensationAttemptOutcome latest) none now (some first.startedAt) none)
  if retry.verdict = .safe ∧
      (latest.attemptNumber : Int) < maxAutomaticAttempts policy.obligations then
    unknownRetry registry recover turns h descriptor op compensation (latest.attemptNumber + 1)
      retry.reasonCode
  else do
    let occurredAt ← Service.now
    let applied ← Service.trySubmit
      (handlingCommand h op compensationActor occurredAt
        (if retry.verdict = .safe then "compensation_attempt_budget_exhausted"
         else "unknown_without_verification")
        h.ids.completeTransitionAuditEventId
        (.compensationUnknownEscalate h.ids.manualAuditEventId none))
    settleApplied op (some compensation) applied

/-- The verification an UNKNOWN compensation is resumed with. -/
def resumeVerificationCommand (h : Handling) (retryIds : CompensationRetryIds)
    (latest : CompensationAttempt) (requestedAt occurredAt : UtcTimestamp) (operation : Operation)
    (compensation : Compensation) : StartCompensationVerification where
  operationId := operation.operationId
  expectedOperationVersion := operation.version
  compensationId := compensation.compensationId
  expectedCompensationVersion := compensation.version
  completedCompensationAttempt := none
  verificationRequest := buildCompensationVerificationRequest operation compensation latest
    retryIds.resumeVerificationId requestedAt
  occurredAt := occurredAt
  actor := some h.actor
  correlationId := h.correlationId
  reasonCode := "unknown_verification_supported"
  attemptAuditEventId := none
  verificationAuditEventId := retryIds.resumeVerificationStartAuditEventId
  outboxEventId := retryIds.resumeVerificationOutboxEventId

/-- The unit of work of `_unknown_start_verification`: back to COMPENSATING and, if that was
applied just now, on to VERIFYING. -/
def retryAndVerify (retry : OperationCommand)
    (start : Operation → Compensation → StartCompensationVerification) :
    Uow TransitionResult := do
  let retried ← applyOperation retry
  match retried.outcome, retried.operation, retried.compensation with
  | .applied, some operation, some compensation =>
    applyStartCompensationVerification (start operation compensation)
  | .applied, _, _ => throw .assertionError
  | _, _, _ => pure retried

/-- `_unknown_start_verification`. -/
def unknownStartVerification (registry : CapabilityRegistry)
    (recover : RecoverCompensationCommand → Service (Option CompensationResult)) (turns : Nat)
    (h : Handling) (op : Operation) (compensation : Compensation) (latest : CompensationAttempt) :
    Service (Option CompensationResult) := do
  let retryIds ← Service.lift
    (h.ids.retryIdsFor compensation.compensationId (latest.attemptNumber + 1))
  let occurredAt ← Service.now
  let requestedAt ← Service.now
  let startedAt ← Service.now
  let started ← Prog.attempt .work (retryAndVerify
    (commandOn op h.actor h.correlationId occurredAt "unknown_verification_supported"
      retryIds.parentRetryTransitionAuditEventId
      (.compensationUnknownRetry retryIds.parentRetryOutboxEventId))
    (resumeVerificationCommand h retryIds latest requestedAt startedAt))
  settled op.operationId
    (makeCompensationResult .rejected "concurrency_conflict" (some op) (some compensation))
    (fun failedOp =>
      makeCompensationResult .infrastructureFailure "persist_failed" (some failedOp) none)
    some
    (fun result =>
      match result.outcome with
      | .rejected => pure (some (fromTransition .rejected result.reasonCode result none none))
      | .alreadyApplied => recoverAgain recover h op.operationId
      | .applied => do
        let startedOp ← Prog.require result.operation .assertionError
        let startedCompensation ← Prog.require result.compensation .assertionError
        enterCycle registry h turns startedOp startedCompensation (.verify none))
    started

/-- `_recover_unknown`. -/
def recoverUnknown (registry : CapabilityRegistry)
    (recover : RecoverCompensationCommand → Service (Option CompensationResult)) (turns : Nat)
    (h : Handling) (op : Operation) (compensation : Compensation) :
    Service (Option CompensationResult) := do
  let descriptor ← Service.lift (registry.descriptor op.intent.effect)
  let attempts ← listCompensationAttempts compensation.compensationId
  match attempts.getLast? with
  | none =>
    pure (some (makeCompensationResult .rejected "attempt_missing" (some op) (some compensation)))
  | some latest => do
    let policy ← loadPolicy op
    match policy with
    | none =>
      pure (some (makeCompensationResult .rejected "policy_missing" (some op) (some compensation)))
    | some policy =>
      match descriptor.verificationMode with
      | .none =>
        unknownWithoutVerify registry recover turns h op compensation latest descriptor policy
      | .readBack | .operationLookup | .custom =>
        unknownStartVerification registry recover turns h op compensation latest

/-! ## Entry points -/

/-- `recover_compensation`, given the two entry points it may come back to. -/
def recoverWith (registry : CapabilityRegistry)
    (recover : RecoverCompensationCommand → Service (Option CompensationResult))
    (execute : ExecuteCompensationCommand → Service (Option CompensationResult)) (turns : Nat)
    (command : RecoverCompensationCommand) : Service (Option CompensationResult) := do
  let op ← loadOperation command.operationId
  if op.state = .compensated then
    pure (some (makeCompensationResult .accepted "already_applied" (some op) none))
  else
    match op.compensationId with
    | none => pure (some (makeCompensationResult .rejected "compensation_missing" (some op) none))
    | some compensationId => do
      let loaded ← loadCompensation compensationId
      match loaded with
      | none => pure (some (makeCompensationResult .rejected "compensation_missing" (some op) none))
      | some compensation =>
        if op.state = .compensationFailed then
          pure (some
            (makeCompensationResult .accepted "already_applied" (some op) (some compensation)))
        else if (op.version : Int) ≠ command.expectedVersion then
          pure (some
            (makeCompensationResult .rejected "concurrency_conflict" (some op) (some compensation)))
        else if op.state = .compensating then
          recoverCompensating registry execute turns command.handling op compensation
        else if op.state = .compensationUnknown then
          recoverUnknown registry recover turns command.handling op compensation
        else
          pure (some
            (makeCompensationResult .rejected "source_state_mismatch" (some op)
              (some compensation)))

def recoverCompensation (registry : CapabilityRegistry) :
    Nat → RecoverCompensationCommand → Service (Option CompensationResult)
  | 0, _ => pure none
  | turns + 1, command =>
    recoverWith registry (recoverCompensation registry turns)
      (executeWith registry (recoverCompensation registry turns) turns) turns command

def executeCompensation (registry : CapabilityRegistry) (turns : Nat)
    (command : ExecuteCompensationCommand) : Service (Option CompensationResult) :=
  executeWith registry (recoverCompensation registry turns) turns command

/-- The recoveries of one listed group, in order; one that has not ended holds up the rest. -/
def recoverListed (registry : CapabilityRegistry) (turns : Nat)
    (command : ScanCompensationCommand) : List Operation → Service Unit
  | [] => pure ()
  | op :: rest => do
    let recovered ← recoverCompensation registry turns
      { operationId := op.operationId
        expectedVersion := op.version
        ids := command.idsFor op.operationId
        actor := some (command.actor.getD compensationActor)
        correlationId := command.correlationId }
    match recovered with
    | none => pure ()
    | some _ => recoverListed registry turns command rest

def scanGroup (registry : CapabilityRegistry) (turns : Nat) (command : ScanCompensationCommand)
    (state : OperationState) : Service Unit := do
  let operations ← Service.load (·.operationsByState state)
  recoverListed registry turns command
    (match command.limit with
     | some limit => operations.take limit
     | none => operations)

/-- `scan_compensations`; the results it collects are those of the recoveries. -/
def scanCompensations (registry : CapabilityRegistry) (turns : Nat)
    (command : ScanCompensationCommand) : Service Unit := do
  scanGroup registry turns command .compensating
  scanGroup registry turns command .compensationUnknown

end Stateback.Compensation
