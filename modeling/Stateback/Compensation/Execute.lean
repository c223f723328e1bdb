import Stateback.Compensation.Reconcile
/-!
# Compensation execution

`compensation/execute.py` with `persist.py`: claim a compensation attempt, call the provider,
apply what the evidence means, verify, retry.  The fault-injection points are left out.

`_run_cycle` is a `while True` loop and `dispatch_execute` calls itself after a replayed claim;
here both take the number of turns they may still make and answer `none` when they run out.
Where the source reads the clock inside a unit of work, it is read before it.
-/

namespace Stateback.Compensation

open Domain Persistence Transitions Providers Stateback.Runtime Stateback.Recovery Transaction
open Process

/-! ## Loads -/

def loadCompensation (compensationId : OpaqueId) : Service (Option Compensation) :=
  Service.load (·.compensation? compensationId)

def listCompensationAttempts (compensationId : OpaqueId) : Service (List CompensationAttempt) :=
  Service.load (·.listCompensationAttempts compensationId)

def listExecutionAttempts (operationId : OpaqueId) : Service (List ExecutionAttempt) :=
  Service.load (·.listAttempts operationId)

def listVerifications (operationId : OpaqueId) : Service (List VerificationRow) :=
  Service.load (·.listVerifications operationId)

def findPendingCompensationVerification (rows : List VerificationRow) : Option VerificationRow :=
  (rows.filter fun row => decide (row.1.target = .compensation) && row.2.isNone).getLast?

/-! ## Cycle steps -/

/-- What every handling of a compensation is about. -/
structure Handling where
  actor : PrincipalRef
  correlationId : Option String
  ids : CompensationIds

/-- What a step of `_run_cycle` leads to. -/
inductive CycleStep where
  | done (result : CompensationResult)
  | compensate (op : Operation) (compensation : Compensation) (attempt : CompensationAttempt)
  | verify (op : Operation) (compensation : Compensation)

/-- The `except` clauses around a unit of work: a conflict answers `conflict`, any other
persistence error `failed` on the reloaded operation, the rest passes. -/
def settled {α γ : Type} (operationId : OpaqueId) (conflict : CompensationResult)
    (failed : Operation → CompensationResult) (done : CompensationResult → γ)
    (committed : α → Service γ) : Except Raised α → Service γ
  | .ok a => committed a
  | .error e =>
    if e.isConflict then pure (done conflict)
    else if e.isPersistenceError then do
      let failedOp ← loadOperation operationId
      pure (done (failed failedOp))
    else Prog.raise e

/-! ## Provider calls -/

/-- `_call_compensate` after the adapter lookup. -/
def compensationEvidence (ended : CallEnd CompensationEvidence) :
    Except Raised CompensationEvidence :=
  let failure (kind : ErrorKind) (code message : String) (retryable : Bool)
      (details : List (String × JsonValue)) : NormalizedError :=
    { contractVersion := contractVersion
      kind := kind
      code := code
      message := message
      retryableInfrastructure := retryable
      providerHttpStatus := none
      providerErrorCode := none
      retryAfterSeconds := none
      details := jsonObjectFromPlain details }
  match ended with
  | .returned evidence => .ok evidence
  | .raisedUnsupportedEffect _ =>
    .ok ⟨.notApplied, none, some (failure .unsupportedCapability "ref.compensation.unsupported"
      "effect does not support compensation" false []), none⟩
  | .raisedContractValidation reasonCode => .error (.contractValidationError reasonCode)
  | .raisedOther typeName =>
    .ok ⟨.unknown, none, some (failure .transientTransport "compensation.adapter_exception"
      "unclassified compensation adapter exception" true
      [("exception_type", .str typeName)]), none⟩

/-- An unregistered effect raises inside the same `try` as the call. -/
def callCompensate (registry : CapabilityRegistry) (op : Operation)
    (context : ProviderExecutionContext) (request : CompensationRequest) :
    Service CompensationEvidence :=
  match registry.adapterFor op.intent.effect with
  | .error _ => Service.lift (compensationEvidence (.raisedUnsupportedEffect op.intent.effect))
  | .ok _ => do
    let ended ← Prog.question (Query.compensate op.intent.effect context request)
    Service.lift (compensationEvidence ended)

/-- The verification call of a cycle, with the result it makes. -/
def callVerify (registry : CapabilityRegistry) (h : Handling) (op : Operation)
    (compensation : Compensation) (request : VerificationRequest) :
    Service (VerificationEvidence × VerificationResult) := do
  let context ← Service.lift
    (buildCompensationVerifyContext op compensation request h.correlationId)
  let _adapter ← Service.lift (registry.adapterFor op.intent.effect)
  let ended ← Prog.question (Query.verify context request)
  let evidence ← verificationEvidence op.intent.effect.provider ended
  let completedAt ← Service.now
  pure (evidence, resultFromEvidence request.verificationId evidence completedAt)

/-! ## Commands -/

/-- The ids a completed attempt is recorded under: those of the first attempt, or those the
factory derives for a retry. -/
structure OutcomeIds where
  completeTransitionAuditEventId : OpaqueId
  evidenceAuditEventId : OpaqueId
  completeOutboxEventId : OpaqueId
  verificationId : OpaqueId
  verificationStartAuditEventId : OpaqueId
  verificationOutboxEventId : OpaqueId

def outcomeIds (ids : CompensationIds) (compensation : Compensation) (attemptNumber : Nat) :
    Except Raised OutcomeIds :=
  if 1 < attemptNumber then
    match ids.retryIdsFor compensation.compensationId attemptNumber with
    | .error e => .error e
    | .ok retryIds =>
      .ok ⟨retryIds.completeTransitionAuditEventId, retryIds.evidenceAuditEventId,
        retryIds.completeOutboxEventId, retryIds.verificationId,
        retryIds.verificationStartAuditEventId, retryIds.verificationOutboxEventId⟩
  else
    .ok ⟨ids.completeTransitionAuditEventId, ids.evidenceAuditEventId, ids.completeOutboxEventId,
      ids.verificationId, ids.verificationStartAuditEventId, ids.verificationOutboxEventId⟩

/-- An operation command of a compensation at the loaded version. -/
def handlingCommand (h : Handling) (op : Operation) (actor : PrincipalRef)
    (occurredAt : UtcTimestamp) (reasonCode : String) (transitionAuditEventId : OpaqueId)
    (body : CommandBody) : TransitionCommand :=
  .operation (commandOn op actor h.correlationId occurredAt reasonCode transitionAuditEventId body)

/-- `build_compensate_outcome_command`; `requestedAt` is the clock of the verification request. -/
def buildCompensateOutcomeCommand (h : Handling) (decision : CompensateKindDecision)
    (op : Operation) (compensation : Compensation) (completed : CompensationAttempt)
    (occurredAt requestedAt : UtcTimestamp) : Except Raised TransitionCommand :=
  match outcomeIds h.ids compensation completed.attemptNumber with
  | .error e => .error e
  | .ok ids =>
    match decision.kind with
    | .transition .compensationApplied =>
      .ok (handlingCommand h op h.actor occurredAt decision.reasonCode
        ids.completeTransitionAuditEventId
        (.compensationApplied completed ids.evidenceAuditEventId none))
    | .transition .compensationOutcomeUnknown =>
      .ok (handlingCommand h op h.actor occurredAt decision.reasonCode
        ids.completeTransitionAuditEventId
        (.compensationOutcomeUnknown (some completed) ids.evidenceAuditEventId
          ids.completeOutboxEventId none))
    | .transition .compensationOutcomeFailed =>
      .ok (handlingCommand h op h.actor occurredAt decision.reasonCode
        ids.completeTransitionAuditEventId
        (.compensationOutcomeFailed completed ids.evidenceAuditEventId none))
    | .progress .startCompensationVerification =>
      .ok (.startCompensationVerification
        { operationId := op.operationId
          expectedOperationVersion := op.version
          compensationId := compensation.compensationId
          expectedCompensationVersion := compensation.version
          completedCompensationAttempt := some completed
          verificationRequest := buildCompensationVerificationRequest op compensation completed
            ids.verificationId requestedAt
          occurredAt := occurredAt
          actor := some h.actor
          correlationId := h.correlationId
          reasonCode := decision.reasonCode
          attemptAuditEventId := some ids.evidenceAuditEventId
          verificationAuditEventId := ids.verificationStartAuditEventId
          outboxEventId := ids.verificationOutboxEventId })
    | _ => .error .assertionError

/-- `_verification_write_ids`: transition, verification and outbox ids of the write that settles
the verification. -/
def verificationWriteIds (ids : CompensationIds) (compensationId : OpaqueId) (attemptNumber : Nat)
    (verificationId : OpaqueId) : Except Raised (OpaqueId × OpaqueId × OpaqueId) :=
  let initial := (ids.completeTransitionAuditEventId, ids.verificationCompleteAuditEventId,
    ids.completeOutboxEventId)
  let resumed : Except Raised (OpaqueId × OpaqueId × OpaqueId) :=
    match ids.retryIdsFor compensationId (attemptNumber + 1) with
    | .error e => .error e
    | .ok resumeIds =>
      if verificationId = resumeIds.resumeVerificationId then
        .ok (resumeIds.resumeCompleteTransitionAuditEventId,
          resumeIds.resumeVerificationCompleteAuditEventId, resumeIds.resumeCompleteOutboxEventId)
      else .ok initial
  if verificationId = ids.verificationId then .ok initial
  else if 2 ≤ attemptNumber then
    match ids.retryIdsFor compensationId attemptNumber with
    | .error e => .error e
    | .ok attemptIds =>
      if verificationId = attemptIds.verificationId then
        .ok (attemptIds.completeTransitionAuditEventId,
          attemptIds.verificationCompleteAuditEventId, attemptIds.completeOutboxEventId)
      else resumed
  else resumed

/-- The outcome a verification proves of the attempt, for the kinds that complete one. -/
def verifiedOutcome? : CommandKind → Option EffectOutcome
  | .transition .compensationApplied => some .applied
  | .transition .compensationOutcomeFailed => some .notApplied
  | _ => none

/-- `_verify_outcome_command`. -/
def verifyOutcomeCommand (h : Handling) (mapped : CompensateKindDecision) (op : Operation)
    (compensation : Compensation) (result : VerificationResult)
    (completed next : Option CompensationAttempt) (descriptor : EffectDescriptor)
    (occurredAt : UtcTimestamp) (currentAttemptNumber : Nat) : Except Raised TransitionCommand :=
  match verificationWriteIds h.ids compensation.compensationId currentAttemptNumber
      result.verificationId with
  | .error e => .error e
  | .ok (transitionEventId, verificationEventId, outcomeOutboxEventId) =>
    match mapped.kind, completed, next with
    | .transition .compensationApplied, some completed, _ =>
      .ok (handlingCommand h op h.actor occurredAt mapped.reasonCode transitionEventId
        (.compensationApplied completed verificationEventId (some result)))
    | .transition .compensationOutcomeFailed, some completed, _ =>
      .ok (handlingCommand h op h.actor occurredAt mapped.reasonCode transitionEventId
        (.compensationOutcomeFailed completed verificationEventId (some result)))
    | .transition .compensationOutcomeUnknown, _, _ =>
      .ok (handlingCommand h op h.actor occurredAt mapped.reasonCode transitionEventId
        (.compensationOutcomeUnknown none verificationEventId outcomeOutboxEventId (some result)))
    | .transition .compensationEscalate, _, _ =>
      .ok (handlingCommand h op compensationActor occurredAt mapped.reasonCode transitionEventId
        (.compensationEscalate h.ids.manualAuditEventId (some result)))
    | .progress .retryCompensationAfterVerification, _, some next =>
      match h.ids.retryIdsFor compensation.compensationId next.attemptNumber with
      | .error e => .error e
      | .ok retryIds =>
        .ok (.retryCompensationAfterVerification
          { operationId := op.operationId
            expectedOperationVersion := op.version
            compensationId := compensation.compensationId
            expectedCompensationVersion := compensation.version
            verificationResult := result
            attempt := next
            idempotencyMode := descriptor.idempotencyMode
            occurredAt := occurredAt
            actor := some h.actor
            correlationId := h.correlationId
            reasonCode := mapped.reasonCode
            attemptAuditEventId := retryIds.attemptAuditEventId
            verificationAuditEventId := verificationEventId
            outboxEventId := retryIds.attemptOutboxEventId })
    | _, _, _ => .error .assertionError

/-! ## Claiming a retry -/

/-- The unit of work of a retry: the operation returns to COMPENSATING and, if that was applied
just now, the next attempt is claimed. -/
def retryAndClaim (retry : OperationCommand)
    (claim : Operation → Compensation → ClaimCompensationRetryAttempt) : Uow TransitionResult := do
  let retried ← applyOperation retry
  match retried.outcome, retried.operation, retried.compensation with
  | .applied, some operation, some compensation =>
    applyClaimCompensationRetryAttempt (claim operation compensation)
  | .applied, _, _ => throw .assertionError
  | _, _, _ => pure retried

def retryClaim (actor : PrincipalRef) (correlationId : Option String) (reasonCode : String)
    (attempt : CompensationAttempt) (attemptAuditEventId : OpaqueId) (occurredAt : UtcTimestamp)
    (operation : Operation) (compensation : Compensation) : ClaimCompensationRetryAttempt where
  operationId := operation.operationId
  expectedOperationVersion := operation.version
  compensationId := compensation.compensationId
  expectedCompensationVersion := compensation.version
  attempt := attempt
  occurredAt := occurredAt
  actor := some actor
  correlationId := correlationId
  reasonCode := reasonCode
  attemptAuditEventId := attemptAuditEventId

/-- What follows a retry's unit of work; `resume` goes on with the claimed attempt. -/
def settleRetry {γ : Type} (op : Operation) (compensation : Compensation)
    (done : CompensationResult → γ) (resume : Operation → Compensation → Service γ)
    (claimed : Except Raised TransitionResult) : Service γ :=
  settled op.operationId
    (makeCompensationResult .rejected "concurrency_conflict" (some op) (some compensation))
    (fun failedOp => makeCompensationResult .infrastructureFailure
      "persist_failed_before_compensate" (some failedOp) none)
    done
    (fun result =>
      if result.outcome = .rejected then
        pure (done (fromTransition .rejected result.reasonCode result none none))
      else do
        let claimedOp ← Prog.require result.operation .assertionError
        let claimedCompensation ← Prog.require result.compensation .assertionError
        resume claimedOp claimedCompensation)
    claimed

/-- `_maybe_claim_retry`; `none` when the failure stands. -/
def maybeClaimRetry (registry : CapabilityRegistry) (h : Handling) (descriptor : EffectDescriptor)
    (op : Operation) (compensation : Compensation) (completed : CompensationAttempt) :
    Service (Option CycleStep) := do
  let attempts ← listCompensationAttempts compensation.compensationId
  let policy ← loadPolicy op
  match policy with
  | none => pure none
  | some policy => do
    let now ← Service.now
    let retryDescriptor ← Service.lift (registry.descriptor op.intent.effect)
    let firstStartedAt := (attempts.head?.getD completed).startedAt
    let retry ← Service.lift (evaluateRetrySafety retryDescriptor (some .notApplied) none now
      (some firstStartedAt) none)
    if retry.verdict ≠ .safe ∨
        maxAutomaticAttempts policy.obligations ≤ completed.attemptNumber then pure none
    else do
      let number := completed.attemptNumber + 1
      let retryIds ← Service.lift (h.ids.retryIdsFor compensation.compensationId number)
      let startedAt ← Service.now
      let next := buildStartedAttempt compensation.compensationId retryIds.attemptId number
        descriptor startedAt
      let occurredAt ← Service.now
      let claimedAt ← Service.now
      let claimed ← Prog.attempt .work (retryAndClaim
        (commandOn op compensationActor h.correlationId occurredAt retry.reasonCode
          retryIds.parentRetryTransitionAuditEventId
          (.compensationFailedRetry retryIds.parentRetryOutboxEventId))
        (retryClaim compensationActor h.correlationId "compensation_retry_claimed" next
          retryIds.attemptAuditEventId claimedAt))
      settleRetry op compensation (some ∘ .done)
        (fun claimedOp claimedCompensation =>
          pure (some (.compensate claimedOp claimedCompensation next))) claimed

/-! ## The two steps of a cycle -/

/-- What follows the unit of work that records a `compensate` call's evidence. -/
def settleCompensate (registry : CapabilityRegistry) (h : Handling)
    (descriptor : EffectDescriptor) (op : Operation) (compensation : Compensation)
    (evidence : CompensationEvidence) (completed : CompensationAttempt) (kind : CommandKind)
    (applied : Except Raised TransitionResult) : Service CycleStep :=
  settled op.operationId
    { makeCompensationResult .rejected "concurrency_conflict" (some op) (some compensation) with
      evidence := some evidence }
    (fun failedOp =>
      { makeCompensationResult .infrastructureFailure "persist_failed_after_compensate"
          (some failedOp) none with evidence := some evidence })
    .done
    (fun result =>
      if result.outcome = .rejected then
        pure (.done (fromTransition .rejected result.reasonCode result (some evidence) none))
      else do
        let settledOp ← Prog.require result.operation .assertionError
        let settledCompensation ← Prog.require result.compensation .assertionError
        let accepted := CycleStep.done
          (fromTransition .accepted "accepted" result (some evidence) none)
        match kind with
        | .progress .startCompensationVerification => pure (.verify settledOp settledCompensation)
        | .transition .compensationOutcomeFailed => do
          let retry ← maybeClaimRetry registry h descriptor settledOp settledCompensation completed
          pure (retry.getD accepted)
        | _ => pure accepted)
    applied

/-- What follows a `compensate` call that gave evidence. -/
def recordCompensate (registry : CapabilityRegistry) (h : Handling)
    (descriptor : EffectDescriptor) (op : Operation) (compensation : Compensation)
    (attempt : CompensationAttempt) (evidence : CompensationEvidence) : Service CycleStep := do
  let completedAt ← Service.now
  let completed := completeAttemptFromEvidence attempt evidence completedAt
  let policy ← loadPolicy op
  match policy with
  | none =>
    pure (.done (makeCompensationResult .rejected "policy_missing" (some op) (some compensation)))
  | some policy => do
    let decision := decideCompensateKind evidence.outcome descriptor policy.obligations
    let occurredAt ← Service.now
    let requestedAt ← Service.now
    let command ← Service.lift (buildCompensateOutcomeCommand h decision op compensation completed
      occurredAt requestedAt)
    let applied ← Service.trySubmit command
    settleCompensate registry h descriptor op compensation evidence completed decision.kind applied

/-- `_compensate_step`. -/
def compensateStep (registry : CapabilityRegistry) (h : Handling) (descriptor : EffectDescriptor)
    (op : Operation) (compensation : Compensation) (attempt : CompensationAttempt) :
    Service CycleStep := do
  let originalAttempts ← listExecutionAttempts op.operationId
  let request := buildCompensationProviderRequest op compensation attempt originalAttempts
  let context := buildCompensateContext op attempt compensation h.correlationId
  let evidence ← callCompensate registry op context request
  recordCompensate registry h descriptor op compensation attempt evidence

/-- The attempt a settled verification completes: the latest one, from the verification when the
call left it STARTED. -/
def completedForCommand (kind : CommandKind) (latest : Option CompensationAttempt)
    (result : VerificationResult) : Service (Option CompensationAttempt) :=
  match verifiedOutcome? kind, latest with
  | some outcome, some latest =>
    match latest.state with
    | .completed => pure (some latest)
    | .started => do
      let completedAt ← Service.now
      pure (some (completeAttemptFromVerification latest result outcome completedAt))
  | _, _ => pure none

/-- The attempt a verified retry starts. -/
def nextAttemptForRetry (h : Handling) (descriptor : EffectDescriptor) (kind : CommandKind)
    (compensation : Compensation) : Service (Option CompensationAttempt) :=
  match kind with
  | .progress .retryCompensationAfterVerification => do
    let existing ← listCompensationAttempts compensation.compensationId
    let number := existing.length + 1
    let retryIds ← Service.lift (h.ids.retryIdsFor compensation.compensationId number)
    let startedAt ← Service.now
    pure (some (buildStartedAttempt compensation.compensationId retryIds.attemptId number descriptor
      startedAt))
  | _ => pure none

/-- What follows the unit of work that settles a verification.  ALREADY_APPLIED is not told from
APPLIED: a replayed retry goes on to the provider call as well. -/
def settleVerify (op : Operation) (compensation : Compensation)
    (evidence : Option VerificationEvidence) (next : Option CompensationAttempt)
    (kind : CommandKind) (applied : Except Raised TransitionResult) : Service CycleStep :=
  settled op.operationId
    { makeCompensationResult .rejected "concurrency_conflict" (some op) (some compensation) with
      verificationEvidence := evidence }
    (fun failedOp =>
      { makeCompensationResult .infrastructureFailure "persist_failed_after_verify"
          (some failedOp) none with verificationEvidence := evidence })
    .done
    (fun result =>
      if result.outcome = .rejected then
        pure (.done (fromTransition .rejected result.reasonCode result none evidence))
      else do
        let settledOp ← Prog.require result.operation .assertionError
        let settledCompensation ← Prog.require result.compensation .assertionError
        match kind with
        | .progress .retryCompensationAfterVerification => do
          let next ← Prog.require next .assertionError
          pure (.compensate settledOp settledCompensation next)
        | _ => pure (.done (fromTransition .accepted "accepted" result none evidence)))
    applied

/-- The verifications counted against the recovery budget, this one included. -/
def countedVerifications (rows : List VerificationRow) (result : VerificationResult) : Nat :=
  let current := rows.find? fun row =>
    decide (row.1.verificationId = result.verificationId)
      && decide (row.1.target = .compensation)
  completedCompensationVerificationCount rows +
    if current.any fun row => row.2.isNone then 1 else 0

/-- `_verify_step` once there is a result. -/
def applyVerified (h : Handling) (descriptor : EffectDescriptor) (op : Operation)
    (compensation : Compensation) (evidence : Option VerificationEvidence)
    (result : VerificationResult) : Service CycleStep := do
  let attempts ← listCompensationAttempts compensation.compensationId
  let latest := attempts.getLast?
  let policy ← loadPolicy op
  match policy with
  | none =>
    pure (.done
      { makeCompensationResult .rejected "policy_missing" (some op) (some compensation) with
        verificationEvidence := evidence })
  | some policy => do
    let rows ← listVerifications op.operationId
    let decision := reconcileCompensation result latest descriptor policy.obligations
      (countedVerifications rows result)
    let mapped ← Service.lift (compensationDecisionToKind op.state compensation.state decision)
    let completed ← completedForCommand mapped.kind latest result
    if (verifiedOutcome? mapped.kind).isSome ∧ completed.isNone then
      pure (.done
        { makeCompensationResult .rejected "attempt_missing" (some op) (some compensation) with
          verificationEvidence := evidence })
    else do
      let next ← nextAttemptForRetry h descriptor mapped.kind compensation
      let occurredAt ← Service.now
      let command ← Service.lift (verifyOutcomeCommand h mapped op compensation result completed
        next descriptor occurredAt ((latest.map (·.attemptNumber)).getD 1))
      let applied ← Service.trySubmit command
      settleVerify op compensation evidence next mapped.kind applied

/-- `_verify_step`; every caller leaves the request to be looked up. -/
def verifyStep (registry : CapabilityRegistry) (h : Handling) (descriptor : EffectDescriptor)
    (op : Operation) (compensation : Compensation) (existingResult : Option VerificationResult) :
    Service CycleStep :=
  match existingResult with
  | some result => applyVerified h descriptor op compensation none result
  | none => do
    let rows ← listVerifications op.operationId
    match findPendingCompensationVerification rows with
    | none =>
      pure (.done
        (makeCompensationResult .rejected "verification_missing" (some op) (some compensation)))
    | some row => do
      let (evidence, result) ← callVerify registry h op compensation row.1
      applyVerified h descriptor op compensation (some evidence) result

/-! ## The cycle -/

inductive CycleMode where
  | compensate (attempt : CompensationAttempt)
  | verify (existingResult : Option VerificationResult)

def cycleStep (registry : CapabilityRegistry) (h : Handling) (descriptor : EffectDescriptor)
    (op : Operation) (compensation : Compensation) : CycleMode → Service CycleStep
  | .compensate attempt => compensateStep registry h descriptor op compensation attempt
  | .verify existingResult => verifyStep registry h descriptor op compensation existingResult

/-- The loop of `_run_cycle`, for at most so many turns. -/
def runCycle (registry : CapabilityRegistry) (h : Handling) (descriptor : EffectDescriptor) :
    Nat → Operation → Compensation → CycleMode → Service (Option CompensationResult)
  | 0, _, _, _ => pure none
  | turns + 1, op, compensation, mode => do
    let step ← cycleStep registry h descriptor op compensation mode
    match step with
    | .done result => pure (some result)
    | .compensate nextOp nextCompensation attempt =>
      runCycle registry h descriptor turns nextOp nextCompensation (.compensate attempt)
    | .verify nextOp nextCompensation =>
      runCycle registry h descriptor turns nextOp nextCompensation (.verify none)

/-- `_run_cycle` entered without a descriptor, as `run_verify_cycle` and
`run_compensate_from_attempt` enter it. -/
def enterCycle (registry : CapabilityRegistry) (h : Handling) (turns : Nat) (op : Operation)
    (compensation : Compensation) (mode : CycleMode) : Service (Option CompensationResult) := do
  let descriptor ← Service.lift (registry.descriptor op.intent.effect)
  runCycle registry h descriptor turns op compensation mode

/-! ## Claiming the first attempt -/

def claimCompensationCommand (h : Handling) (op : Operation) (compensation : Compensation)
    (started : CompensationAttempt) (occurredAt : UtcTimestamp) : ClaimCompensationExecution where
  operationId := op.operationId
  expectedOperationVersion := op.version
  compensationId := compensation.compensationId
  expectedCompensationVersion := compensation.version
  attempt := started
  occurredAt := occurredAt
  actor := some h.actor
  correlationId := h.correlationId
  reasonCode := "compensation_claimed"
  attemptAuditEventId := h.ids.claimAttemptAuditEventId

/-- What follows the claiming unit of work; `again` is the dispatch a replay returns to. -/
def settleClaimCompensation (registry : CapabilityRegistry) (h : Handling)
    (descriptor : EffectDescriptor) (again : Operation → Service (Option CompensationResult))
    (turns : Nat) (op : Operation) (compensation : Compensation) (started : CompensationAttempt)
    (claimed : Except Raised TransitionResult) : Service (Option CompensationResult) :=
  settled op.operationId
    (makeCompensationResult .rejected "concurrency_conflict" (some op) (some compensation))
    (fun failedOp => makeCompensationResult .infrastructureFailure
      "persist_failed_before_compensate" (some failedOp) none)
    some
    (fun result =>
      match result.outcome with
      | .rejected => pure (some (fromTransition .rejected result.reasonCode result none none))
      | .alreadyApplied => do
        let freshOp ← loadOperation op.operationId
        again freshOp
      | .applied => do
        let claimedOp ← Prog.require result.operation .assertionError
        let claimedCompensation ← Prog.require result.compensation .assertionError
        runCycle registry h descriptor turns claimedOp claimedCompensation (.compensate started))
    claimed

/-- `claim_and_compensate`. -/
def claimAndCompensate (registry : CapabilityRegistry) (h : Handling)
    (again : Operation → Service (Option CompensationResult)) (turns : Nat) (op : Operation)
    (compensation : Compensation) : Service (Option CompensationResult) :=
  match registry.descriptor op.intent.effect with
  | .error _ =>
    pure (some
      (makeCompensationResult .rejected "unregistered_effect" (some op) (some compensation)))
  | .ok descriptor => do
    let existingAttempts ← listCompensationAttempts compensation.compensationId
    let startedAt ← Service.now
    let started := buildStartedAttempt compensation.compensationId h.ids.compensationAttemptId
      (existingAttempts.length + 1) descriptor startedAt
    let occurredAt ← Service.now
    let claimed ← Service.trySubmit
      (.claimCompensation (claimCompensationCommand h op compensation started occurredAt))
    settleClaimCompensation registry h descriptor again turns op compensation started claimed

/-! ## Dispatch -/

def delegateToRecover (recover : RecoverCompensationCommand → Service (Option CompensationResult))
    (command : ExecuteCompensationCommand) (op : Operation) :
    Service (Option CompensationResult) :=
  recover
    { operationId := op.operationId
      expectedVersion := op.version
      ids := command.ids
      actor := command.actor
      correlationId := command.correlationId }

def ExecuteCompensationCommand.handling (command : ExecuteCompensationCommand) : Handling :=
  ⟨command.actor.getD compensationActor, command.correlationId, command.ids⟩

/-- `dispatch_execute` on a COMPENSATING operation, by its compensation's state. -/
def dispatchCompensating (registry : CapabilityRegistry)
    (recover : RecoverCompensationCommand → Service (Option CompensationResult))
    (again : Operation → Service (Option CompensationResult)) (turns : Nat)
    (command : ExecuteCompensationCommand) (op : Operation) (compensation : Compensation) :
    Service (Option CompensationResult) :=
  match compensation.state with
  | .pending => claimAndCompensate registry command.handling again turns op compensation
  | .executing => do
    let attempts ← listCompensationAttempts compensation.compensationId
    match attempts.getLast? with
    | none => delegateToRecover recover command op
    | some latest =>
      match latest.state with
      | .started =>
        pure (some (makeCompensationResult .inFlight "in_flight" (some op) (some compensation)))
      | .completed => delegateToRecover recover command op
  | .verifying => delegateToRecover recover command op
  | .unknown | .succeeded | .failed =>
    pure (some
      (makeCompensationResult .rejected "unsupported_state" (some op) (some compensation)))

/-- `dispatch_execute`, for at most so many turns. -/
def dispatchExecute (registry : CapabilityRegistry)
    (recover : RecoverCompensationCommand → Service (Option CompensationResult))
    (command : ExecuteCompensationCommand) :
    Nat → Operation → Service (Option CompensationResult)
  | 0, _ => pure none
  | turns + 1, op =>
    match op.state with
    | .compensated =>
      pure (some (makeCompensationResult .accepted "already_applied" (some op) none))
    | .compensating | .compensationUnknown | .compensationFailed =>
      match op.compensationId with
      | none => pure (some (makeCompensationResult .rejected "compensation_missing" (some op) none))
      | some compensationId => do
        let compensation ← loadCompensation compensationId
        match compensation with
        | none =>
          pure (some (makeCompensationResult .rejected "compensation_missing" (some op) none))
        | some compensation =>
          if op.state = .compensating then
            dispatchCompensating registry recover (dispatchExecute registry recover command turns)
              turns command op compensation
          else delegateToRecover recover command op
    | .pendingPolicy | .awaitingApproval | .ready | .executing | .verifying | .unknown
    | .succeeded | .failed | .denied | .cancelled | .manualIntervention =>
      pure (some (makeCompensationResult .rejected "source_state_mismatch" (some op) none))

/-- `execute_compensation`, given the recovery it may delegate to. -/
def executeWith (registry : CapabilityRegistry)
    (recover : RecoverCompensationCommand → Service (Option CompensationResult)) (turns : Nat)
    (command : ExecuteCompensationCommand) : Service (Option CompensationResult) := do
  let op ← loadOperation command.operationId
  if op.state ≠ .compensated ∧ op.state ≠ .compensationFailed ∧
      (op.version : Int) ≠ command.expectedVersion then
    pure (some (makeCompensationResult .rejected "concurrency_conflict" (some op) none))
  else dispatchExecute registry recover command turns op

end Stateback.Compensation
