import Stateback.Domain.Rules
/-!
# Transition kinds and commands

`src/stateback/transitions/kinds.py`, `commands.py` and `outbox.py`.  Every command carries
its own ids and timestamps; the service fills in nothing.  A command's `kind` field must equal
the kind of its class (`apply` raises otherwise), so here the kind is read off the body.
Expected versions are integers: a caller may send any.
-/

namespace Stateback.Transitions

open Stateback.Domain

inductive TransitionKind where
  | createOperation
  | policyAllow
  | policyRequireApproval
  | policyDeny
  | cancelPendingPolicy
  | approvalGrant
  | approvalReject
  | cancelAwaitingApproval
  | claimExecution
  | cancelReady
  | readyMessagingRecoveryExhausted
  | executionApplied
  | executionRequireVerification
  | executionNotAppliedRetry
  | executionNotAppliedFail
  | executionUnknown
  | executionMessagingRecoveryExhausted
  | verificationApplied
  | verificationNotAppliedRetry
  | verificationNotAppliedFail
  | verificationInconclusive
  | verificationEscalate
  | unknownStartVerification
  | unknownSafeRetry
  | unknownReconcileApplied
  | unknownReconcileNotApplied
  | unknownEscalate
  | succeededStartCompensation
  | failedStartCompensation
  | manualStartVerification
  | manualStartCompensation
  | manualSafeRetry
  | compensationApplied
  | compensationOutcomeUnknown
  | compensationOutcomeFailed
  | compensationEscalate
  | compensationUnknownRetry
  | compensationUnknownApplied
  | compensationUnknownFailed
  | compensationUnknownEscalate
  | compensationFailedRetry
  | compensationFailedEscalate
deriving DecidableEq, Repr

def TransitionKind.value : TransitionKind → String
  | .createOperation => "CREATE_OPERATION"
  | .policyAllow => "POLICY_ALLOW"
  | .policyRequireApproval => "POLICY_REQUIRE_APPROVAL"
  | .policyDeny => "POLICY_DENY"
  | .cancelPendingPolicy => "CANCEL_PENDING_POLICY"
  | .approvalGrant => "APPROVAL_GRANT"
  | .approvalReject => "APPROVAL_REJECT"
  | .cancelAwaitingApproval => "CANCEL_AWAITING_APPROVAL"
  | .claimExecution => "CLAIM_EXECUTION"
  | .cancelReady => "CANCEL_READY"
  | .readyMessagingRecoveryExhausted => "READY_MESSAGING_RECOVERY_EXHAUSTED"
  | .executionApplied => "EXECUTION_APPLIED"
  | .executionRequireVerification => "EXECUTION_REQUIRE_VERIFICATION"
  | .executionNotAppliedRetry => "EXECUTION_NOT_APPLIED_RETRY"
  | .executionNotAppliedFail => "EXECUTION_NOT_APPLIED_FAIL"
  | .executionUnknown => "EXECUTION_UNKNOWN"
  | .executionMessagingRecoveryExhausted => "EXECUTION_MESSAGING_RECOVERY_EXHAUSTED"
  | .verificationApplied => "VERIFICATION_APPLIED"
  | .verificationNotAppliedRetry => "VERIFICATION_NOT_APPLIED_RETRY"
  | .verificationNotAppliedFail => "VERIFICATION_NOT_APPLIED_FAIL"
  | .verificationInconclusive => "VERIFICATION_INCONCLUSIVE"
  | .verificationEscalate => "VERIFICATION_ESCALATE"
  | .unknownStartVerification => "UNKNOWN_START_VERIFICATION"
  | .unknownSafeRetry => "UNKNOWN_SAFE_RETRY"
  | .unknownReconcileApplied => "UNKNOWN_RECONCILE_APPLIED"
  | .unknownReconcileNotApplied => "UNKNOWN_RECONCILE_NOT_APPLIED"
  | .unknownEscalate => "UNKNOWN_ESCALATE"
  | .succeededStartCompensation => "SUCCEEDED_START_COMPENSATION"
  | .failedStartCompensation => "FAILED_START_COMPENSATION"
  | .manualStartVerification => "MANUAL_START_VERIFICATION"
  | .manualStartCompensation => "MANUAL_START_COMPENSATION"
  | .manualSafeRetry => "MANUAL_SAFE_RETRY"
  | .compensationApplied => "COMPENSATION_APPLIED"
  | .compensationOutcomeUnknown => "COMPENSATION_OUTCOME_UNKNOWN"
  | .compensationOutcomeFailed => "COMPENSATION_OUTCOME_FAILED"
  | .compensationEscalate => "COMPENSATION_ESCALATE"
  | .compensationUnknownRetry => "COMPENSATION_UNKNOWN_RETRY"
  | .compensationUnknownApplied => "COMPENSATION_UNKNOWN_APPLIED"
  | .compensationUnknownFailed => "COMPENSATION_UNKNOWN_FAILED"
  | .compensationUnknownEscalate => "COMPENSATION_UNKNOWN_ESCALATE"
  | .compensationFailedRetry => "COMPENSATION_FAILED_RETRY"
  | .compensationFailedEscalate => "COMPENSATION_FAILED_ESCALATE"

inductive CompensationProgressKind where
  | claimCompensationExecution
  | startCompensationVerification
  | claimCompensationRetryAttempt
  | retryCompensationAfterVerification
deriving DecidableEq, Repr

def CompensationProgressKind.value : CompensationProgressKind → String
  | .claimCompensationExecution => "CLAIM_COMPENSATION_EXECUTION"
  | .startCompensationVerification => "START_COMPENSATION_VERIFICATION"
  | .claimCompensationRetryAttempt => "CLAIM_COMPENSATION_RETRY_ATTEMPT"
  | .retryCompensationAfterVerification => "RETRY_COMPENSATION_AFTER_VERIFICATION"

/-- `KIND_TO_EDGE`. -/
def TransitionKind.edge : TransitionKind → Option OperationState × OperationState
  | .createOperation => (none, .pendingPolicy)
  | .policyAllow => (some .pendingPolicy, .ready)
  | .policyRequireApproval => (some .pendingPolicy, .awaitingApproval)
  | .policyDeny => (some .pendingPolicy, .denied)
  | .cancelPendingPolicy => (some .pendingPolicy, .cancelled)
  | .approvalGrant => (some .awaitingApproval, .ready)
  | .approvalReject => (some .awaitingApproval, .denied)
  | .cancelAwaitingApproval => (some .awaitingApproval, .cancelled)
  | .claimExecution => (some .ready, .executing)
  | .cancelReady => (some .ready, .cancelled)
  | .readyMessagingRecoveryExhausted => (some .ready, .manualIntervention)
  | .executionApplied => (some .executing, .succeeded)
  | .executionRequireVerification => (some .executing, .verifying)
  | .executionNotAppliedRetry => (some .executing, .ready)
  | .executionNotAppliedFail => (some .executing, .failed)
  | .executionUnknown => (some .executing, .unknown)
  | .executionMessagingRecoveryExhausted => (some .executing, .manualIntervention)
  | .verificationApplied => (some .verifying, .succeeded)
  | .verificationNotAppliedRetry => (some .verifying, .ready)
  | .verificationNotAppliedFail => (some .verifying, .failed)
  | .verificationInconclusive => (some .verifying, .unknown)
  | .verificationEscalate => (some .verifying, .manualIntervention)
  | .unknownStartVerification => (some .unknown, .verifying)
  | .unknownSafeRetry => (some .unknown, .ready)
  | .unknownReconcileApplied => (some .unknown, .succeeded)
  | .unknownReconcileNotApplied => (some .unknown, .failed)
  | .unknownEscalate => (some .unknown, .manualIntervention)
  | .succeededStartCompensation => (some .succeeded, .compensating)
  | .failedStartCompensation => (some .failed, .compensating)
  | .manualStartVerification => (some .manualIntervention, .verifying)
  | .manualStartCompensation => (some .manualIntervention, .compensating)
  | .manualSafeRetry => (some .manualIntervention, .ready)
  | .compensationApplied => (some .compensating, .compensated)
  | .compensationOutcomeUnknown => (some .compensating, .compensationUnknown)
  | .compensationOutcomeFailed => (some .compensating, .compensationFailed)
  | .compensationEscalate => (some .compensating, .manualIntervention)
  | .compensationUnknownRetry => (some .compensationUnknown, .compensating)
  | .compensationUnknownApplied => (some .compensationUnknown, .compensated)
  | .compensationUnknownFailed => (some .compensationUnknown, .compensationFailed)
  | .compensationUnknownEscalate => (some .compensationUnknown, .manualIntervention)
  | .compensationFailedRetry => (some .compensationFailed, .compensating)
  | .compensationFailedEscalate => (some .compensationFailed, .manualIntervention)

/-- `OUTBOX_COMMAND_FOR_KIND`. -/
def TransitionKind.outboxCommand? : TransitionKind → Option WorkCommand
  | .policyAllow => some .execute
  | .approvalGrant => some .execute
  | .executionRequireVerification => some .verify
  | .executionNotAppliedRetry => some .execute
  | .executionUnknown => some .verify
  | .verificationNotAppliedRetry => some .execute
  | .unknownStartVerification => some .verify
  | .unknownSafeRetry => some .execute
  | .succeededStartCompensation => some .compensate
  | .failedStartCompensation => some .compensate
  | .manualStartVerification => some .verify
  | .manualStartCompensation => some .compensate
  | .manualSafeRetry => some .execute
  | .compensationOutcomeUnknown => some .compensate
  | .compensationUnknownRetry => some .compensate
  | .compensationFailedRetry => some .compensate
  | _ => none

/-- The class-specific fields of an operation command. -/
inductive CommandBody where
  | policyAllow (policyDecision : PolicyDecision) (policyAuditEventId outboxEventId : OpaqueId)
  | policyRequireApproval (policyDecision : PolicyDecision) (approval : Approval)
      (policyAuditEventId approvalAuditEventId : OpaqueId)
  | policyDeny (policyDecision : PolicyDecision) (policyAuditEventId : OpaqueId)
  | cancelPendingPolicy
  | approvalGrant (approval : Approval) (approvalAuditEventId outboxEventId : OpaqueId)
  | approvalReject (approval : Approval) (approvalAuditEventId : OpaqueId)
  | cancelAwaitingApproval (approval : Approval)
  | claimExecution (attempt : ExecutionAttempt) (attemptAuditEventId : OpaqueId)
  | cancelReady
  | readyMessagingRecoveryExhausted
  | executionApplied (completedAttempt : ExecutionAttempt) (evidenceAuditEventId : OpaqueId)
  | executionRequireVerification (completedAttempt : ExecutionAttempt)
      (verificationRequest : VerificationRequest)
      (evidenceAuditEventId verificationAuditEventId outboxEventId : OpaqueId)
  | executionNotAppliedRetry (completedAttempt : ExecutionAttempt)
      (idempotencyMode : IdempotencyMode) (evidenceAuditEventId outboxEventId : OpaqueId)
      (insufficientSignal : Option String)
  | executionNotAppliedFail (completedAttempt : ExecutionAttempt)
      (evidenceAuditEventId : OpaqueId)
  | executionUnknown (completedAttempt : Option ExecutionAttempt)
      (evidenceAuditEventId outboxEventId : OpaqueId)
  | executionMessagingRecoveryExhausted
  | verificationApplied (verificationResult : VerificationResult)
      (verificationAuditEventId : OpaqueId)
  | verificationNotAppliedRetry (verificationResult : VerificationResult)
      (idempotencyMode : IdempotencyMode) (verificationAuditEventId outboxEventId : OpaqueId)
      (insufficientSignal : Option String)
  | verificationNotAppliedFail (verificationResult : VerificationResult)
      (verificationAuditEventId : OpaqueId)
  | verificationInconclusive (verificationResult : VerificationResult)
      (verificationAuditEventId : OpaqueId)
  | verificationEscalate (verificationResult : Option VerificationResult)
      (manualAuditEventId : OpaqueId)
  | unknownStartVerification (verificationRequest : VerificationRequest)
      (verificationAuditEventId outboxEventId : OpaqueId)
  | unknownSafeRetry (idempotencyMode : IdempotencyMode)
      (executionOutcome verificationOutcome : Option EffectOutcome) (outboxEventId : OpaqueId)
      (insufficientSignal : Option String)
  | unknownReconcileApplied (reconciliation : StoredReconciliationDecision)
      (reconciliationAuditEventId : OpaqueId)
  | unknownReconcileNotApplied (reconciliation : StoredReconciliationDecision)
      (reconciliationAuditEventId : OpaqueId)
  | unknownEscalate (manualAuditEventId : OpaqueId)
  | succeededStartCompensation (compensation : Compensation)
      (compensationAuditEventId outboxEventId : OpaqueId)
  | failedStartCompensation (compensation : Compensation)
      (compensationAuditEventId outboxEventId : OpaqueId)
  | manualStartVerification (verificationRequest : VerificationRequest)
      (operatorAuditEventId verificationAuditEventId outboxEventId : OpaqueId)
  | manualStartCompensation (compensation : Compensation)
      (operatorAuditEventId compensationAuditEventId outboxEventId : OpaqueId)
  | manualSafeRetry (idempotencyMode : IdempotencyMode)
      (executionOutcome verificationOutcome : Option EffectOutcome)
      (operatorAuditEventId outboxEventId : OpaqueId) (insufficientSignal : Option String)
  | compensationApplied (completedCompensationAttempt : CompensationAttempt)
      (compensationResultAuditEventId : OpaqueId)
      (verificationResult : Option VerificationResult)
  | compensationOutcomeUnknown (completedCompensationAttempt : Option CompensationAttempt)
      (compensationResultAuditEventId outboxEventId : OpaqueId)
      (verificationResult : Option VerificationResult)
  | compensationOutcomeFailed (completedCompensationAttempt : CompensationAttempt)
      (compensationResultAuditEventId : OpaqueId)
      (verificationResult : Option VerificationResult)
  | compensationEscalate (manualAuditEventId : OpaqueId)
      (verificationResult : Option VerificationResult)
  | compensationUnknownRetry (outboxEventId : OpaqueId)
  | compensationUnknownApplied (completedCompensationAttempt : CompensationAttempt)
      (verificationResult : Option VerificationResult)
  | compensationUnknownFailed (completedCompensationAttempt : CompensationAttempt)
      (verificationResult : Option VerificationResult)
  | compensationUnknownEscalate (manualAuditEventId : OpaqueId)
      (verificationResult : Option VerificationResult)
  | compensationFailedRetry (outboxEventId : OpaqueId)
  | compensationFailedEscalate (manualAuditEventId : OpaqueId)
deriving DecidableEq, Repr

namespace CommandBody

/-- `COMMAND_TYPE_TO_KIND`. -/
def kind : CommandBody → TransitionKind
  | .policyAllow .. => .policyAllow
  | .policyRequireApproval .. => .policyRequireApproval
  | .policyDeny .. => .policyDeny
  | .cancelPendingPolicy => .cancelPendingPolicy
  | .approvalGrant .. => .approvalGrant
  | .approvalReject .. => .approvalReject
  | .cancelAwaitingApproval .. => .cancelAwaitingApproval
  | .claimExecution .. => .claimExecution
  | .cancelReady => .cancelReady
  | .readyMessagingRecoveryExhausted => .readyMessagingRecoveryExhausted
  | .executionApplied .. => .executionApplied
  | .executionRequireVerification .. => .executionRequireVerification
  | .executionNotAppliedRetry .. => .executionNotAppliedRetry
  | .executionNotAppliedFail .. => .executionNotAppliedFail
  | .executionUnknown .. => .executionUnknown
  | .executionMessagingRecoveryExhausted => .executionMessagingRecoveryExhausted
  | .verificationApplied .. => .verificationApplied
  | .verificationNotAppliedRetry .. => .verificationNotAppliedRetry
  | .verificationNotAppliedFail .. => .verificationNotAppliedFail
  | .verificationInconclusive .. => .verificationInconclusive
  | .verificationEscalate .. => .verificationEscalate
  | .unknownStartVerification .. => .unknownStartVerification
  | .unknownSafeRetry .. => .unknownSafeRetry
  | .unknownReconcileApplied .. => .unknownReconcileApplied
  | .unknownReconcileNotApplied .. => .unknownReconcileNotApplied
  | .unknownEscalate .. => .unknownEscalate
  | .succeededStartCompensation .. => .succeededStartCompensation
  | .failedStartCompensation .. => .failedStartCompensation
  | .manualStartVerification .. => .manualStartVerification
  | .manualStartCompensation .. => .manualStartCompensation
  | .manualSafeRetry .. => .manualSafeRetry
  | .compensationApplied .. => .compensationApplied
  | .compensationOutcomeUnknown .. => .compensationOutcomeUnknown
  | .compensationOutcomeFailed .. => .compensationOutcomeFailed
  | .compensationEscalate .. => .compensationEscalate
  | .compensationUnknownRetry .. => .compensationUnknownRetry
  | .compensationUnknownApplied .. => .compensationUnknownApplied
  | .compensationUnknownFailed .. => .compensationUnknownFailed
  | .compensationUnknownEscalate .. => .compensationUnknownEscalate
  | .compensationFailedRetry .. => .compensationFailedRetry
  | .compensationFailedEscalate .. => .compensationFailedEscalate

/-! The rows a command carries, under the attribute names the source reads them by. -/

def policyDecision? : CommandBody → Option PolicyDecision
  | .policyAllow policyDecision .. => some policyDecision
  | .policyRequireApproval policyDecision .. => some policyDecision
  | .policyDeny policyDecision .. => some policyDecision
  | _ => none

/-- `getattr(command, "approval", None)`. -/
def approval? : CommandBody → Option Approval
  | .policyRequireApproval _ approval .. => some approval
  | .approvalGrant approval .. => some approval
  | .approvalReject approval .. => some approval
  | .cancelAwaitingApproval approval => some approval
  | _ => none

/-- The approval a command requests, to be inserted. -/
def requestedApproval? : CommandBody → Option Approval
  | .policyRequireApproval _ approval .. => some approval
  | _ => none

/-- The approval a command decides or closes, to overwrite a PENDING one. -/
def decidedApproval? : CommandBody → Option Approval
  | .approvalGrant approval .. => some approval
  | .approvalReject approval .. => some approval
  | .cancelAwaitingApproval approval => some approval
  | _ => none

def claimedAttempt? : CommandBody → Option ExecutionAttempt
  | .claimExecution attempt _ => some attempt
  | _ => none

def completedAttempt? : CommandBody → Option ExecutionAttempt
  | .executionApplied completedAttempt _ => some completedAttempt
  | .executionRequireVerification completedAttempt .. => some completedAttempt
  | .executionNotAppliedRetry completedAttempt .. => some completedAttempt
  | .executionNotAppliedFail completedAttempt _ => some completedAttempt
  | .executionUnknown completedAttempt .. => completedAttempt
  | _ => none

def verificationRequest? : CommandBody → Option VerificationRequest
  | .executionRequireVerification _ verificationRequest .. => some verificationRequest
  | .unknownStartVerification verificationRequest .. => some verificationRequest
  | .manualStartVerification verificationRequest .. => some verificationRequest
  | _ => none

/-- The result a `Verification*` command carries. -/
def verificationResult? : CommandBody → Option VerificationResult
  | .verificationApplied verificationResult _ => some verificationResult
  | .verificationNotAppliedRetry verificationResult .. => some verificationResult
  | .verificationNotAppliedFail verificationResult _ => some verificationResult
  | .verificationInconclusive verificationResult _ => some verificationResult
  | .verificationEscalate verificationResult _ => verificationResult
  | _ => none

def reconciliation? : CommandBody → Option StoredReconciliationDecision
  | .unknownReconcileApplied reconciliation _ => some reconciliation
  | .unknownReconcileNotApplied reconciliation _ => some reconciliation
  | _ => none

/-- The compensation record a start command inserts. -/
def startedCompensation? : CommandBody → Option Compensation
  | .succeededStartCompensation compensation .. => some compensation
  | .failedStartCompensation compensation .. => some compensation
  | .manualStartCompensation compensation .. => some compensation
  | _ => none

def completedCompensationAttempt? : CommandBody → Option CompensationAttempt
  | .compensationApplied completed .. => some completed
  | .compensationOutcomeUnknown completed .. => completed
  | .compensationOutcomeFailed completed .. => some completed
  | .compensationUnknownApplied completed _ => some completed
  | .compensationUnknownFailed completed _ => some completed
  | _ => none

/-- The compensation verification result a `Compensation*` command carries. -/
def compensationVerificationResult? : CommandBody → Option VerificationResult
  | .compensationApplied _ _ verificationResult => verificationResult
  | .compensationOutcomeUnknown _ _ _ verificationResult => verificationResult
  | .compensationOutcomeFailed _ _ verificationResult => verificationResult
  | .compensationUnknownApplied _ verificationResult => verificationResult
  | .compensationUnknownFailed _ verificationResult => verificationResult
  | .compensationEscalate _ verificationResult => verificationResult
  | .compensationUnknownEscalate _ verificationResult => verificationResult
  | _ => none

/-- `getattr(command, "outbox_event_id", None)`. -/
def outboxEventId? : CommandBody → Option OpaqueId
  | .policyAllow _ _ outboxEventId => some outboxEventId
  | .approvalGrant _ _ outboxEventId => some outboxEventId
  | .executionRequireVerification _ _ _ _ outboxEventId => some outboxEventId
  | .executionNotAppliedRetry _ _ _ outboxEventId _ => some outboxEventId
  | .executionUnknown _ _ outboxEventId => some outboxEventId
  | .verificationNotAppliedRetry _ _ _ outboxEventId _ => some outboxEventId
  | .unknownStartVerification _ _ outboxEventId => some outboxEventId
  | .unknownSafeRetry _ _ _ outboxEventId _ => some outboxEventId
  | .succeededStartCompensation _ _ outboxEventId => some outboxEventId
  | .failedStartCompensation _ _ outboxEventId => some outboxEventId
  | .manualStartVerification _ _ _ outboxEventId => some outboxEventId
  | .manualStartCompensation _ _ _ outboxEventId => some outboxEventId
  | .manualSafeRetry _ _ _ _ outboxEventId _ => some outboxEventId
  | .compensationOutcomeUnknown _ _ outboxEventId _ => some outboxEventId
  | .compensationUnknownRetry outboxEventId => some outboxEventId
  | .compensationFailedRetry outboxEventId => some outboxEventId
  | _ => none

/-- A command declares an outbox id exactly when its kind is mapped to a work command. -/
theorem outboxEventId_isSome_iff (body : CommandBody) :
    body.outboxEventId?.isSome = body.kind.outboxCommand?.isSome := by
  cases body <;> rfl

/-! Which commands carry the rows an authorization rests on. -/

theorem policyDecision?_eq_none {body : CommandBody}
    (source : body.kind.edge.1 ≠ some .pendingPolicy) : body.policyDecision? = none := by
  cases body <;> first | rfl | exact absurd rfl source

theorem approval?_eq_none {body : CommandBody} (pending : body.kind.edge.1 ≠ some .pendingPolicy)
    (awaiting : body.kind.edge.1 ≠ some .awaitingApproval) : body.approval? = none := by
  cases body <;> first | rfl | exact absurd rfl pending | exact absurd rfl awaiting

theorem claimedAttempt?_eq_none {body : CommandBody} (source : body.kind.edge.1 ≠ some .ready) :
    body.claimedAttempt? = none := by
  cases body <;> first | rfl | exact absurd rfl source

theorem completedAttempt?_eq_none {body : CommandBody}
    (source : body.kind.edge.1 ≠ some .executing) : body.completedAttempt? = none := by
  cases body <;> first | rfl | exact absurd rfl source

/-- What leaves PENDING_POLICY: an allow, a request for approval, or the end of the operation. -/
theorem pendingPolicy_cases {body : CommandBody}
    (source : body.kind.edge.1 = some .pendingPolicy) :
    (∃ decision audit outbox, body = .policyAllow decision audit outbox) ∨
      (∃ decision approval audit approvalAudit,
        body = .policyRequireApproval decision approval audit approvalAudit) ∨
      body.kind.edge.2 = .denied ∨ body.kind.edge.2 = .cancelled := by
  cases body with
  | policyAllow decision audit outbox => exact .inl ⟨decision, audit, outbox, rfl⟩
  | policyRequireApproval decision approval audit approvalAudit =>
    exact .inr (.inl ⟨decision, approval, audit, approvalAudit, rfl⟩)
  | policyDeny => exact .inr (.inr (.inl rfl))
  | cancelPendingPolicy => exact .inr (.inr (.inr rfl))
  | _ => cases source

/-- What leaves AWAITING_APPROVAL: a grant, or the end of the operation. -/
theorem awaitingApproval_cases {body : CommandBody}
    (source : body.kind.edge.1 = some .awaitingApproval) :
    (∃ approval audit outbox, body = .approvalGrant approval audit outbox) ∨
      body.kind.edge.2 = .denied ∨ body.kind.edge.2 = .cancelled := by
  cases body with
  | approvalGrant approval audit outbox => exact .inl ⟨approval, audit, outbox, rfl⟩
  | approvalReject => exact .inr (.inl rfl)
  | cancelAwaitingApproval => exact .inr (.inr rfl)
  | _ => cases source

end CommandBody

/-- `_OperationCommand` with its class-specific body. -/
structure OperationCommand where
  operationId : OpaqueId
  expectedVersion : Int
  occurredAt : UtcTimestamp
  actor : Option PrincipalRef
  correlationId : Option String
  reasonCode : String
  transitionAuditEventId : OpaqueId
  body : CommandBody
deriving DecidableEq, Repr

def OperationCommand.kind (command : OperationCommand) : TransitionKind := command.body.kind

structure CreateOperation where
  operation : Operation
  occurredAt : UtcTimestamp
  actor : Option PrincipalRef
  correlationId : Option String
  reasonCode : String
  createdAuditEventId : OpaqueId
deriving DecidableEq, Repr

structure ClaimCompensationExecution where
  operationId : OpaqueId
  expectedOperationVersion : Int
  compensationId : OpaqueId
  expectedCompensationVersion : Int
  attempt : CompensationAttempt
  occurredAt : UtcTimestamp
  actor : Option PrincipalRef
  correlationId : Option String
  reasonCode : String
  attemptAuditEventId : OpaqueId
deriving DecidableEq, Repr

structure StartCompensationVerification where
  operationId : OpaqueId
  expectedOperationVersion : Int
  compensationId : OpaqueId
  expectedCompensationVersion : Int
  completedCompensationAttempt : Option CompensationAttempt
  verificationRequest : VerificationRequest
  occurredAt : UtcTimestamp
  actor : Option PrincipalRef
  correlationId : Option String
  reasonCode : String
  attemptAuditEventId : Option OpaqueId
  verificationAuditEventId : OpaqueId
  outboxEventId : OpaqueId
deriving DecidableEq, Repr

structure ClaimCompensationRetryAttempt where
  operationId : OpaqueId
  expectedOperationVersion : Int
  compensationId : OpaqueId
  expectedCompensationVersion : Int
  attempt : CompensationAttempt
  occurredAt : UtcTimestamp
  actor : Option PrincipalRef
  correlationId : Option String
  reasonCode : String
  attemptAuditEventId : OpaqueId
deriving DecidableEq, Repr

structure RetryCompensationAfterVerification where
  operationId : OpaqueId
  expectedOperationVersion : Int
  compensationId : OpaqueId
  expectedCompensationVersion : Int
  verificationResult : VerificationResult
  attempt : CompensationAttempt
  idempotencyMode : IdempotencyMode
  occurredAt : UtcTimestamp
  actor : Option PrincipalRef
  correlationId : Option String
  reasonCode : String
  attemptAuditEventId : OpaqueId
  verificationAuditEventId : OpaqueId
  outboxEventId : OpaqueId
deriving DecidableEq, Repr

/-- `TransitionCommand`. -/
inductive TransitionCommand where
  | create (command : CreateOperation)
  | operation (command : OperationCommand)
  | claimCompensation (command : ClaimCompensationExecution)
  | startCompensationVerification (command : StartCompensationVerification)
  | claimCompensationRetryAttempt (command : ClaimCompensationRetryAttempt)
  | retryCompensationAfterVerification (command : RetryCompensationAfterVerification)
deriving DecidableEq, Repr

end Stateback.Transitions
