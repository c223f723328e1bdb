import Stateback.Persistence.Store
import Stateback.Transitions.Commands
/-!
# Preconditions

`src/stateback/transitions/preconditions.py`: pure checks over already loaded records.  A check
answers the reason code of the rejection, or `none` when nothing objects.
-/

namespace Stateback.Transitions

open Stateback.Domain Stateback.Persistence

def actorRequiredKinds : List TransitionKind :=
  [.cancelPendingPolicy, .cancelAwaitingApproval, .cancelReady, .verificationEscalate,
   .unknownEscalate, .succeededStartCompensation, .failedStartCompensation,
   .manualStartVerification, .manualStartCompensation, .manualSafeRetry,
   .compensationEscalate, .compensationUnknownEscalate, .compensationFailedRetry,
   .compensationFailedEscalate, .approvalGrant, .approvalReject]

def escalateKinds : List TransitionKind :=
  [.compensationEscalate, .compensationUnknownEscalate, .compensationFailedEscalate]

/-- `COMPENSATION_TARGET_STATE`. -/
def compensationTargetState? : TransitionKind → Option CompensationState
  | .compensationApplied => some .succeeded
  | .compensationOutcomeUnknown => some .unknown
  | .compensationOutcomeFailed => some .failed
  | .compensationUnknownRetry => some .executing
  | .compensationUnknownApplied => some .succeeded
  | .compensationUnknownFailed => some .failed
  | .compensationFailedRetry => some .executing
  | _ => none

structure RelatedRecords where
  existingApproval : Option Approval
  attempts : List ExecutionAttempt
  loadedAttempt : Option ExecutionAttempt
  existingVerificationResult : Option VerificationResult
  compensation : Option Compensation
  compensationAttempts : List CompensationAttempt
  loadedCompensationAttempt : Option CompensationAttempt
  existingCompensationVerification : Option VerificationRow
deriving DecidableEq, Repr

/-- The transition side of the retry gate: it passes no capability proof, so a declared
idempotency alone answers `retry_needs_capability_proof`. -/
def mapRetrySafetyReason (executionOutcome verificationOutcome : Option EffectOutcome)
    (idempotencyMode : IdempotencyMode) (insufficientSignal : Option String) : Option String :=
  let decision := evaluateEffectRetrySafety executionOutcome verificationOutcome idempotencyMode
    insufficientSignal none false false
  match decision.verdict with
  | .safe => none
  | .needsCapabilityProof => some "retry_needs_capability_proof"
  | .unsafeRetry => some decision.reasonCode

def checkActor (kind : TransitionKind) (actor : Option PrincipalRef) (approval : Option Approval)
    (occurredAt : UtcTimestamp) : Option String :=
  let expired := kind = .cancelAwaitingApproval ∧ approval.any fun approval =>
    decide (approval.state = .expired) &&
      approval.expiresAt.any fun expires => decide (expires.value ≤ occurredAt.value)
  let required := kind ∈ actorRequiredKinds ∧ ¬expired
  if required ∧ actor = none then some "actor_required" else none

def checkPolicy (decision : PolicyDecision) (operation : Operation) (expected : PolicyVerdict) :
    Option String :=
  if decision.operationId ≠ operation.operationId then some "policy_operation_mismatch"
  else if decision.intentDigest ≠ operation.intent.intentDigest then
    some "policy_digest_mismatch"
  else if decision.operationVersion ≠ operation.version then some "policy_version_mismatch"
  else if decision.verdict ≠ expected then some "policy_verdict_mismatch"
  else none

def checkOutboxId (body : CommandBody) : Option String :=
  let mapped := body.kind.outboxCommand?.isSome
  let hasId := body.outboxEventId?.isSome
  if mapped && !hasId then some "outbox_id_required"
  else if !mapped && hasId then some "outbox_id_forbidden"
  else none

def checkExecutionAttemptComplete (operation : Operation)
    (completed loaded : Option ExecutionAttempt) (expectedOutcome : Option EffectOutcome)
    (allowUnknownCrash : Bool) : Option String :=
  if operation.latestAttemptId = none then some "attempt_missing"
  else
    match loaded with
    | none => some "attempt_missing"
    | some loaded =>
      if loaded.operationId ≠ operation.operationId then some "attempt_operation_mismatch"
      else
        match completed with
        | none =>
          if !allowUnknownCrash then some "attempt_missing"
          else if loaded.state ≠ .started then some "attempt_not_started"
          else if (interpretExecutionCrash .executing (some .started)).interpretation
              ≠ .potentiallyUnknown then some "attempt_not_started"
          else none
        | some completed =>
          if completed.attemptId ≠ loaded.attemptId then some "evidence_conflict"
          else if completed.operationId ≠ operation.operationId then
            some "attempt_operation_mismatch"
          else if completed.attemptNumber ≠ loaded.attemptNumber then
            some "attempt_number_mismatch"
          else
            match loaded.state with
            | .completed =>
              if completed.outcome ≠ loaded.outcome then some "evidence_conflict"
              else if expectedOutcome ≠ none ∧ loaded.outcome ≠ expectedOutcome then
                some "attempt_outcome_mismatch"
              else none
            | .started =>
              if completed.state ≠ .completed then some "attempt_not_completed"
              else if completed.startedAt ≠ loaded.startedAt then some "evidence_conflict"
              else if expectedOutcome ≠ none ∧ completed.outcome ≠ expectedOutcome then
                some "attempt_outcome_mismatch"
              else none

def checkVerificationComplete (operation : Operation) (result : VerificationResult)
    (existing : Option VerificationResult) (expectedOutcome : Option EffectOutcome) :
    Option String :=
  if operation.latestVerificationId = none then some "verification_missing"
  else if some result.verificationId ≠ operation.latestVerificationId then
    some "verification_missing"
  else if expectedOutcome ≠ none ∧ some result.outcome ≠ expectedOutcome then
    some "verification_outcome_mismatch"
  else if existing.any fun existing => decide (existing.outcome ≠ result.outcome) then
    some "evidence_conflict"
  else none

def checkVerificationRequest (request : VerificationRequest) (operation : Operation)
    (expectedVersion : Int) (expectedTarget : VerificationTarget) : Option String :=
  if request.operationId ≠ operation.operationId then some "attempt_operation_mismatch"
  else if request.target ≠ expectedTarget then some "verification_outcome_mismatch"
  else if (request.operationVersion : Int) ≠ expectedVersion then some "stale_version"
  else none

def checkCompensationStart (compensation : Compensation) (operation : Operation) :
    Option String :=
  if compensation.originalOperationId ≠ operation.operationId then
    some "compensation_parent_inconsistent"
  else if compensation.state ≠ .pending then some "compensation_state_mismatch"
  else if compensation.kind = .none then some "compensation_kind_none"
  else if !compensationParentIsConsistent .pending .compensating then
    some "compensation_parent_inconsistent"
  else none

/-- The part of `_check_compensation_outcome` about a carried verification result. -/
def checkCompensationVerification (operation : Operation)
    (loadedAttempt : Option CompensationAttempt) (verificationResult : Option VerificationResult)
    (expectedVerificationOutcome : Option EffectOutcome)
    (existingVerification : Option VerificationRow) : Option String :=
  match verificationResult with
  | none => none
  | some result =>
    if expectedVerificationOutcome ≠ none ∧ some result.outcome ≠ expectedVerificationOutcome then
      some "verification_outcome_mismatch"
    else
      match existingVerification with
      | none => some "verification_missing"
      | some (request, durableResult) =>
        if request.verificationId ≠ result.verificationId then some "verification_missing"
        else if request.target ≠ .compensation then some "verification_outcome_mismatch"
        else if request.operationId ≠ operation.operationId then
          some "attempt_operation_mismatch"
        else if request.operationVersion ≠ operation.version then some "stale_version"
        else
          match loadedAttempt with
          | none => some "attempt_missing"
          | some attempt =>
            if request.targetAttemptId ≠ some attempt.compensationAttemptId then
              some "attempt_missing"
            else if durableResult ≠ none ∧ durableResult ≠ some result then
              some "evidence_conflict"
            else none

/-- The part of `_check_compensation_outcome` about the record's own state machine. -/
def checkCompensationTarget (kind : TransitionKind) (compensation : Compensation) :
    Option String :=
  if kind ∈ escalateKinds then none
  else
    match compensationTargetState? kind with
    | none => none
    | some target =>
      if !compensationParentIsConsistent target kind.edge.2 then
        some "compensation_parent_inconsistent"
      else if !evaluateCompensationTransition compensation.state target
          && decide (compensation.state ≠ target) then some "compensation_state_mismatch"
      else none

/-- The part of `_check_compensation_outcome` about the attempt the command completes. -/
def checkCompensationAttempt (compensation : Compensation)
    (completed loadedAttempt : Option CompensationAttempt)
    (expectedAttemptOutcome : Option EffectOutcome) (allowMissingAttempt : Bool)
    (verificationResult : Option VerificationResult) : Option String :=
  match completed with
  | none => if allowMissingAttempt then none else some "attempt_missing"
  | some completed =>
    match loadedAttempt with
    | none => some "attempt_missing"
    | some loaded =>
      if completed.compensationId ≠ compensation.compensationId then some "evidence_conflict"
      else if completed.compensationAttemptId ≠ loaded.compensationAttemptId then
        some "evidence_conflict"
      else
        match loaded.state with
        | .completed =>
          if completed.outcome ≠ loaded.outcome then some "evidence_conflict"
          else if expectedAttemptOutcome ≠ none ∧ loaded.outcome ≠ expectedAttemptOutcome then
            if (verificationResult.map (·.outcome) = expectedAttemptOutcome)
                ∧ loaded.outcome = some .unknown then none
            else some "attempt_outcome_mismatch"
          else none
        | .started =>
          if completed.state ≠ .completed then some "attempt_not_completed"
          else if expectedAttemptOutcome ≠ none ∧ completed.outcome ≠ expectedAttemptOutcome then
            some "attempt_outcome_mismatch"
          else none

/-- `_check_compensation_outcome`: the first part that objects gives the reason. -/
def checkCompensationOutcome (kind : TransitionKind) (operation : Operation)
    (compensation : Option Compensation) (completed loadedAttempt : Option CompensationAttempt)
    (expectedAttemptOutcome : Option EffectOutcome) (allowMissingAttempt : Bool)
    (verificationResult : Option VerificationResult)
    (expectedVerificationOutcome : Option EffectOutcome)
    (existingVerification : Option VerificationRow) : Option String :=
  if operation.compensationId = none then some "compensation_missing"
  else
    match compensation with
    | none => some "compensation_missing"
    | some compensation =>
      if some compensation.compensationId ≠ operation.compensationId then
        some "compensation_parent_inconsistent"
      else if compensation.originalOperationId ≠ operation.operationId then
        some "compensation_parent_inconsistent"
      else if !compensationParentIsConsistent compensation.state operation.state then
        some "compensation_parent_inconsistent"
      else
        checkCompensationVerification operation loadedAttempt verificationResult
            expectedVerificationOutcome existingVerification
          <|> checkCompensationTarget kind compensation
          <|> checkCompensationAttempt compensation completed loadedAttempt
            expectedAttemptOutcome allowMissingAttempt verificationResult

/-- The provider key an attempt carries may not differ from the key of an earlier attempt. -/
def idempotencyKeyMismatch (earlier : List (Option String)) (key : Option String) : Bool :=
  key.isSome && earlier.any fun other => other.isSome && decide (other ≠ key)

def checkReconciliation (stored : StoredReconciliationDecision) (operation : Operation)
    (expectedVersion : Int) (action : ReconciliationAction) : Option String :=
  if stored.operationId ≠ operation.operationId then some "attempt_operation_mismatch"
  else if (stored.operationVersion : Int) ≠ expectedVersion then some "stale_version"
  else if stored.decision.action ≠ action then some "reconciliation_action_mismatch"
  else none

/-- What `ApprovalReject` and `CancelAwaitingApproval` share around their own state check. -/
def checkClosedApproval (approval : Approval) (operation : Operation)
    (related : RelatedRecords) (stateReason : Option String) : Option String :=
  match related.existingApproval with
  | none => some "approval_missing"
  | some existing =>
    if existing.state ≠ .pending then some "approval_state_mismatch"
    else
      stateReason <|>
        if approval.decidedAt = none then some "approval_state_mismatch"
        else if approval.intentDigest ≠ operation.intent.intentDigest then
          some "intent_digest_mismatch"
        else none

/-- The class-specific half of `evaluate_preconditions`. -/
def evaluateBody (command : OperationCommand) (operation : Operation)
    (related : RelatedRecords) : Option String :=
  match command.body with
  | .policyAllow policyDecision .. => checkPolicy policyDecision operation .allow
  | .policyDeny policyDecision _ => checkPolicy policyDecision operation .deny
  | .policyRequireApproval policyDecision approval .. =>
    checkPolicy policyDecision operation .requireApproval <|>
      if approval.state ≠ .pending then some "approval_state_mismatch"
      else if approval.operationId ≠ operation.operationId then some "operation_id_mismatch"
      else if approval.intentDigest ≠ operation.intent.intentDigest then
        some "intent_digest_mismatch"
      else if approval.policyDecisionId ≠ policyDecision.policyDecisionId then
        some "policy_decision_mismatch"
      else if approval.operationVersion ≠ nextVersion operation.version then
        some "operation_version_mismatch"
      else none
  | .approvalGrant approval .. =>
    match related.existingApproval with
    | none => some "approval_missing"
    | some existing =>
      if existing.state ≠ .pending then some "approval_state_mismatch"
      else if approval.decidedBy ≠ command.actor then some "actor_required"
      else
        let binding := evaluateApprovalBinding approval operation command.occurredAt
        if binding.valid then none else some binding.reasonCode
  | .approvalReject approval _ =>
    checkClosedApproval approval operation related <|
      if approval.state ≠ .rejected then some "approval_state_mismatch"
      else if approval.decidedBy ≠ command.actor then some "actor_required"
      else none
  | .cancelAwaitingApproval approval =>
    checkClosedApproval approval operation related <|
      if approval.state ≠ .expired ∧ approval.state ≠ .cancelled then
        some "approval_state_mismatch"
      else none
  | .claimExecution attempt _ =>
    if operation.currentPolicyDecisionId = none then some "policy_missing"
    else if attempt.operationId ≠ operation.operationId then some "attempt_operation_mismatch"
    else if attempt.state ≠ .started then some "attempt_not_started"
    else if attempt.outcome ≠ none then some "attempt_outcome_mismatch"
    else if attempt.attemptNumber ≠ related.attempts.length + 1 then
      some "attempt_number_mismatch"
    else if idempotencyKeyMismatch (related.attempts.map (·.providerIdempotencyKey))
        attempt.providerIdempotencyKey then some "idempotency_key_mismatch"
    else none
  | .executionApplied completedAttempt _ =>
    checkExecutionAttemptComplete operation (some completedAttempt) related.loadedAttempt
      (some .applied) false
  | .executionNotAppliedFail completedAttempt _ =>
    checkExecutionAttemptComplete operation (some completedAttempt) related.loadedAttempt
      (some .notApplied) false
  | .executionNotAppliedRetry completedAttempt idempotencyMode _ _ insufficientSignal =>
    checkExecutionAttemptComplete operation (some completedAttempt) related.loadedAttempt
        (some .notApplied) false
      <|> mapRetrySafetyReason (some .notApplied) none idempotencyMode insufficientSignal
  | .executionRequireVerification completedAttempt verificationRequest .. =>
    checkExecutionAttemptComplete operation (some completedAttempt) related.loadedAttempt
        none false
      <|> checkVerificationRequest verificationRequest operation command.expectedVersion
        .originalEffect
  | .executionUnknown completedAttempt _ _ =>
    checkExecutionAttemptComplete operation completedAttempt related.loadedAttempt
      (some .unknown) true
  | .verificationApplied verificationResult _ =>
    checkVerificationComplete operation verificationResult related.existingVerificationResult
      (some .applied)
  | .verificationNotAppliedFail verificationResult _ =>
    checkVerificationComplete operation verificationResult related.existingVerificationResult
      (some .notApplied)
  | .verificationInconclusive verificationResult _ =>
    checkVerificationComplete operation verificationResult related.existingVerificationResult
      (some .unknown)
  | .verificationNotAppliedRetry verificationResult idempotencyMode _ _ insufficientSignal =>
    checkVerificationComplete operation verificationResult related.existingVerificationResult
        (some .notApplied)
      <|> mapRetrySafetyReason none (some .notApplied) idempotencyMode insufficientSignal
  | .verificationEscalate verificationResult _ =>
    match verificationResult with
    | none => none
    | some result =>
      checkVerificationComplete operation result related.existingVerificationResult none
  | .unknownStartVerification verificationRequest .. =>
    checkVerificationRequest verificationRequest operation command.expectedVersion
      .originalEffect
  | .manualStartVerification verificationRequest .. =>
    checkVerificationRequest verificationRequest operation command.expectedVersion
      .originalEffect
  | .unknownSafeRetry idempotencyMode executionOutcome verificationOutcome _
      insufficientSignal =>
    mapRetrySafetyReason executionOutcome verificationOutcome idempotencyMode insufficientSignal
  | .manualSafeRetry idempotencyMode executionOutcome verificationOutcome _ _
      insufficientSignal =>
    mapRetrySafetyReason executionOutcome verificationOutcome idempotencyMode insufficientSignal
  | .unknownReconcileApplied reconciliation _ =>
    checkReconciliation reconciliation operation command.expectedVersion .markSucceeded
  | .unknownReconcileNotApplied reconciliation _ =>
    checkReconciliation reconciliation operation command.expectedVersion .markFailed
  | .succeededStartCompensation compensation .. => checkCompensationStart compensation operation
  | .failedStartCompensation compensation .. => checkCompensationStart compensation operation
  | .manualStartCompensation compensation .. => checkCompensationStart compensation operation
  | .compensationApplied completed _ verificationResult =>
    checkCompensationOutcome command.kind operation related.compensation (some completed)
      related.loadedCompensationAttempt (some .applied) false verificationResult
      (some .applied) related.existingCompensationVerification
  | .compensationOutcomeFailed completed _ verificationResult =>
    checkCompensationOutcome command.kind operation related.compensation (some completed)
      related.loadedCompensationAttempt (some .notApplied) false verificationResult
      (some .notApplied) related.existingCompensationVerification
  | .compensationOutcomeUnknown completed _ _ verificationResult =>
    checkCompensationOutcome command.kind operation related.compensation completed
      related.loadedCompensationAttempt (completed.map fun _ => .unknown) true
      verificationResult (some .unknown) related.existingCompensationVerification
  | .compensationUnknownApplied completed verificationResult =>
    checkCompensationOutcome command.kind operation related.compensation (some completed)
      related.loadedCompensationAttempt (some .applied) false verificationResult
      (some .applied) related.existingCompensationVerification
  | .compensationUnknownFailed completed verificationResult =>
    checkCompensationOutcome command.kind operation related.compensation (some completed)
      related.loadedCompensationAttempt (some .notApplied) false verificationResult
      (some .notApplied) related.existingCompensationVerification
  | .compensationUnknownRetry _ =>
    checkCompensationOutcome command.kind operation related.compensation none none none true
      none none none
  | .compensationFailedRetry _ =>
    checkCompensationOutcome command.kind operation related.compensation none none none true
      none none none
  | .compensationEscalate _ verificationResult =>
    checkCompensationOutcome command.kind operation related.compensation none
      related.loadedCompensationAttempt none true verificationResult none
      related.existingCompensationVerification
  | .compensationUnknownEscalate _ verificationResult =>
    checkCompensationOutcome command.kind operation related.compensation none
      related.loadedCompensationAttempt none true verificationResult none
      related.existingCompensationVerification
  | .compensationFailedEscalate _ =>
    checkCompensationOutcome command.kind operation related.compensation none
      related.loadedCompensationAttempt none true none none
      related.existingCompensationVerification
  | .cancelPendingPolicy => none
  | .cancelReady => none
  | .readyMessagingRecoveryExhausted => none
  | .executionMessagingRecoveryExhausted => none
  | .unknownEscalate _ => none

def evaluatePreconditions (command : OperationCommand) (operation : Operation)
    (related : RelatedRecords) : Option String :=
  checkActor command.kind command.actor command.body.approval? command.occurredAt
    <|> checkOutboxId command.body
    <|> evaluateBody command operation related

theorem orElse_eq_none {α : Type} {a b : Option α} : (a <|> b) = none ↔ a = none ∧ b = none := by
  simp

/-- A check that passed did not object and went on. -/
theorem guard_eq_none {c : Prop} [Decidable c] {reason : String} {rest : Option String} :
    (if c then some reason else rest) = none ↔ ¬c ∧ rest = none := by
  by_cases objects : c <;> simp [objects]

theorem evaluateBody_none {command : OperationCommand} {operation : Operation}
    {related : RelatedRecords} (allowed : evaluatePreconditions command operation related = none) :
    evaluateBody command operation related = none :=
  (orElse_eq_none.mp (orElse_eq_none.mp allowed).2).2

theorem checkOutboxId_none (body : CommandBody) : checkOutboxId body = none := by
  unfold checkOutboxId
  rw [body.outboxEventId_isSome_iff]
  cases body.kind.outboxCommand?.isSome <;> rfl

/-! ## Compensation progress -/

def evaluateClaimCompensationPreconditions (command : ClaimCompensationExecution)
    (operation : Operation) (compensation : Compensation)
    (existingAttempts : List CompensationAttempt) : Option String :=
  if operation.state ≠ .compensating then some "source_state_mismatch"
  else if compensation.originalOperationId ≠ operation.operationId then
    some "compensation_parent_inconsistent"
  else if compensation.state ≠ .pending then some "compensation_state_mismatch"
  else if !evaluateCompensationTransition .pending .executing then
    some "unlisted_operation_transition"
  else if !compensationParentIsConsistent .executing .compensating then
    some "compensation_parent_inconsistent"
  else if command.attempt.compensationId ≠ compensation.compensationId then
    some "compensation_parent_inconsistent"
  else if command.attempt.state ≠ .started then some "attempt_not_started"
  else if command.attempt.attemptNumber ≠ existingAttempts.length + 1 then
    some "attempt_number_mismatch"
  else none

def evaluateStartCompensationVerificationPreconditions (command : StartCompensationVerification)
    (operation : Operation) (compensation : Compensation)
    (loadedAttempt : Option CompensationAttempt) : Option String :=
  if operation.state ≠ .compensating then some "source_state_mismatch"
  else if compensation.originalOperationId ≠ operation.operationId then
    some "compensation_parent_inconsistent"
  else if compensation.state ≠ .executing then some "compensation_state_mismatch"
  else if !evaluateCompensationTransition .executing .verifying then
    some "unlisted_operation_transition"
  else if !compensationParentIsConsistent .verifying .compensating then
    some "compensation_parent_inconsistent"
  else
    checkVerificationRequest command.verificationRequest operation
        command.expectedOperationVersion .compensation
      <|>
      match command.completedCompensationAttempt, loadedAttempt with
      | some _, none => some "attempt_missing"
      | some completed, some loaded =>
        if completed.compensationId ≠ compensation.compensationId then some "evidence_conflict"
        else if completed.compensationAttemptId ≠ loaded.compensationAttemptId then
          some "evidence_conflict"
        else
          match loaded.state with
          | .completed =>
            if completed.outcome ≠ loaded.outcome then some "evidence_conflict"
            else if loaded.outcome ≠ some .applied then some "attempt_outcome_mismatch"
            else none
          | .started =>
            if completed.state ≠ .completed then some "attempt_not_completed"
            else if completed.outcome ≠ some .applied then some "attempt_outcome_mismatch"
            else none
      | none, none => some "attempt_missing"
      | none, some _ => none

def evaluateClaimCompensationRetryAttemptPreconditions (command : ClaimCompensationRetryAttempt)
    (operation : Operation) (compensation : Compensation)
    (existingAttempts : List CompensationAttempt) : Option String :=
  if operation.state ≠ .compensating then some "source_state_mismatch"
  else if compensation.originalOperationId ≠ operation.operationId then
    some "compensation_parent_inconsistent"
  else if compensation.state ≠ .executing then some "compensation_state_mismatch"
  else if !compensationParentIsConsistent .executing .compensating then
    some "compensation_parent_inconsistent"
  else
    match existingAttempts.getLast? with
    | none => some "attempt_missing"
    | some latest =>
      if latest.state ≠ .completed then some "attempt_not_completed"
      else if command.attempt.compensationId ≠ compensation.compensationId then
        some "compensation_parent_inconsistent"
      else if command.attempt.state ≠ .started then some "attempt_not_started"
      else if command.attempt.attemptNumber ≠ existingAttempts.length + 1 then
        some "attempt_number_mismatch"
      else if idempotencyKeyMismatch (existingAttempts.map (·.providerIdempotencyKey))
          command.attempt.providerIdempotencyKey then some "idempotency_key_mismatch"
      else none

def evaluateRetryCompensationAfterVerificationPreconditions
    (command : RetryCompensationAfterVerification) (operation : Operation)
    (compensation : Compensation) (existingAttempts : List CompensationAttempt)
    (existingVerification : Option VerificationRow) : Option String :=
  if operation.state ≠ .compensating then some "source_state_mismatch"
  else if compensation.originalOperationId ≠ operation.operationId then
    some "compensation_parent_inconsistent"
  else if compensation.state ≠ .verifying then some "compensation_state_mismatch"
  else if !evaluateCompensationTransition .verifying .executing then
    some "unlisted_operation_transition"
  else if !compensationParentIsConsistent .executing .compensating then
    some "compensation_parent_inconsistent"
  else if command.verificationResult.outcome ≠ .notApplied then
    some "verification_outcome_mismatch"
  else
    match existingVerification with
    | none => some "verification_missing"
    | some (request, durableResult) =>
      if request.verificationId ≠ command.verificationResult.verificationId then
        some "verification_missing"
      else if request.target ≠ .compensation then some "verification_outcome_mismatch"
      else if request.operationId ≠ operation.operationId then some "attempt_operation_mismatch"
      else if request.operationVersion ≠ operation.version then some "stale_version"
      else
        match existingAttempts.getLast? with
        | none => some "attempt_missing"
        | some latest =>
          if request.targetAttemptId ≠ some latest.compensationAttemptId then
            some "attempt_missing"
          else if durableResult ≠ none ∧ durableResult ≠ some command.verificationResult then
            some "evidence_conflict"
          else if command.attempt.compensationId ≠ compensation.compensationId then
            some "compensation_parent_inconsistent"
          else if command.attempt.state ≠ .started then some "attempt_not_started"
          else if command.attempt.attemptNumber ≠ existingAttempts.length + 1 then
            some "attempt_number_mismatch"
          else if idempotencyKeyMismatch (existingAttempts.map (·.providerIdempotencyKey))
              command.attempt.providerIdempotencyKey then some "idempotency_key_mismatch"
          else mapRetrySafetyReason none (some .notApplied) command.idempotencyMode none

end Stateback.Transitions
