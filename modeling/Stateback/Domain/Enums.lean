/-!
# Canonical enumerations

The enumerations of `src/stateback/domain/enums.py`.  A member's wire string is kept where
some modelled function writes it into stored data (`value`); the others are compared by
identity only, as the source compares them.
-/

namespace Stateback.Domain

inductive OperationState where
  | pendingPolicy
  | awaitingApproval
  | ready
  | executing
  | verifying
  | unknown
  | succeeded
  | failed
  | denied
  | cancelled
  | compensating
  | compensationUnknown
  | compensated
  | compensationFailed
  | manualIntervention
deriving DecidableEq, Repr

inductive EffectOutcome where
  | applied
  | notApplied
  | unknown
deriving DecidableEq, Repr

def EffectOutcome.value : EffectOutcome → String
  | .applied => "APPLIED"
  | .notApplied => "NOT_APPLIED"
  | .unknown => "UNKNOWN"

inductive AttemptState where
  | started
  | completed
deriving DecidableEq, Repr

inductive RiskLevel where
  | low
  | moderate
  | high
  | critical
deriving DecidableEq, Repr

inductive PrincipalType where
  | agent
  | human
  | service
  | operator
deriving DecidableEq, Repr

inductive ArgumentsMode where
  | inline
  | reference
deriving DecidableEq, Repr

def ArgumentsMode.value : ArgumentsMode → String
  | .inline => "INLINE"
  | .reference => "REFERENCE"

inductive Mutability where
  | readOnly
  | mutating
deriving DecidableEq, Repr

inductive IdempotencyMode where
  | none
  | natural
  | providerKey
deriving DecidableEq, Repr

inductive VerificationMode where
  | none
  | readBack
  | operationLookup
  | custom
deriving DecidableEq, Repr

inductive CompensationKind where
  | none
  | exact
  | approximate
  | mitigating
deriving DecidableEq, Repr

def CompensationKind.value : CompensationKind → String
  | .none => "NONE"
  | .exact => "EXACT"
  | .approximate => "APPROXIMATE"
  | .mitigating => "MITIGATING"

inductive EvidenceSource where
  | executionResponse
  | operationLookup
  | readBack
  | custom
deriving DecidableEq, Repr

inductive PolicyVerdict where
  | allow
  | deny
  | requireApproval
deriving DecidableEq, Repr

inductive ApprovalState where
  | pending
  | approved
  | rejected
  | expired
  | cancelled
deriving DecidableEq, Repr

inductive CompensationState where
  | pending
  | executing
  | verifying
  | unknown
  | succeeded
  | failed
deriving DecidableEq, Repr

inductive OutboxState where
  | pending
  | published
deriving DecidableEq, Repr

inductive WorkCommand where
  | execute
  | verify
  | compensate
deriving DecidableEq, Repr

def WorkCommand.value : WorkCommand → String
  | .execute => "EXECUTE"
  | .verify => "VERIFY"
  | .compensate => "COMPENSATE"

inductive ErrorKind where
  | validation
  | policy
  | authentication
  | authorization
  | providerRejected
  | rateLimited
  | transientTransport
  | providerUnavailable
  | malformedProviderResponse
  | providerInconsistent
  | persistence
  | messaging
  | concurrencyConflict
  | unsupportedCapability
  | unsupportedContractVersion
  | security
  | internal
deriving DecidableEq, Repr

inductive VerificationTarget where
  | originalEffect
  | compensation
deriving DecidableEq, Repr

inductive ReconciliationAction where
  | markSucceeded
  | markFailed
  | makeReadyForSafeRetry
  | remainUnknown
  | requireManualIntervention
deriving DecidableEq, Repr

inductive AuditEventType where
  | operationCreated
  | policyEvaluated
  | approvalRequested
  | approvalDecided
  | operationTransitioned
  | executionAttemptStarted
  | executionEvidenceRecorded
  | verificationStarted
  | verificationCompleted
  | reconciliationDecided
  | compensationRequested
  | compensationAttempted
  | compensationResult
  | operatorAction
  | outboxDiagnostic
  | manualInterventionReason
  | securityControlDecision
deriving DecidableEq, Repr

inductive RetrySafetyVerdict where
  | safe
  | unsafeRetry
  | needsCapabilityProof
deriving DecidableEq, Repr

inductive RetrySafetyBasis where
  | executionNotApplied
  | verifiedNotApplied
  | naturalIdempotency
  | providerNativeIdempotency
  | providerSpecificContract
deriving DecidableEq, Repr

inductive CrashInterpretation where
  | noProviderAttempt
  | potentiallyUnknown
  | useDurableEvidence
deriving DecidableEq, Repr

def CrashInterpretation.value : CrashInterpretation → String
  | .noProviderAttempt => "NO_PROVIDER_ATTEMPT"
  | .potentiallyUnknown => "POTENTIALLY_UNKNOWN"
  | .useDurableEvidence => "USE_DURABLE_EVIDENCE"

/-- `ABSOLUTE_TERMINAL_STATES`: no transition leads out of these. -/
def OperationState.isAbsoluteTerminal : OperationState → Bool
  | .denied | .cancelled | .compensated => true
  | _ => false

def contractVersion : String := "v1"
def initialOperationVersion : Nat := 1
def initialCompensationVersion : Nat := 1
def initialAuditSequence : Nat := 1

end Stateback.Domain
