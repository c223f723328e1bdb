import Stateback.Domain.Enums
import Stateback.Domain.Json
/-!
# Canonical records

The dataclasses of `src/stateback/domain/` that the transition engine, the services and the
persistence layer pass around, with all their fields.  Where `__post_init__` relates several
fields and later code depends on it, the relation is a field of the structure, so an attempt
that violates its lifecycle or a `PROVIDER_KEY` descriptor without key semantics cannot be
written down.  Secret scanning, hash recomputation and the wire format are not modelled here.

A `UtcTimestamp` is its microsecond count: the source compares and stores timestamps and
never does calendar arithmetic on them.
-/

namespace Stateback.Domain

structure OpaqueId where
  value : String
deriving DecidableEq, Repr

/-- The lowest hexadecimal digits of a number, in front of other characters. -/
def hexDigitsOf : Nat → Nat → List Char → List Char
  | 0, _, digits => digits
  | count + 1, n, digits => hexDigitsOf count (n / 16) (Nat.digitChar (n % 16) :: digits)

/-- An id made from a name, in the form of a UUID: `uuid5` with a smaller hash. -/
def idOf (name : String) : OpaqueId :=
  let hash := name.toByteArray.data.toList.foldl
    (fun mixed byte => (mixed + byte.toNat) * 0x9e3779b1 % 0x100000000) 1
  ⟨String.ofList (hexDigitsOf 8 hash []) ++ "-0000-4000-8000-000000000000"⟩

structure UtcTimestamp where
  value : Int
deriving DecidableEq, Repr

structure EffectRef where
  provider : String
  action : String
  version : String
deriving DecidableEq, Repr

structure PrincipalRef where
  type : PrincipalType
  id : String
  displayName : Option String
deriving DecidableEq, Repr

structure IntentEnvelope where
  effect : EffectRef
  argumentsMode : ArgumentsMode
  arguments : Option JsonValue
  argumentsRef : Option String
  canonicalArgumentsHash : String
  intentDigest : String
  requester : PrincipalRef
  requestedAt : UtcTimestamp
  metadata : List (String × String)
deriving DecidableEq, Repr

def operationIdempotencyIdentity (operationId : OpaqueId) : String :=
  "sb:" ++ contractVersion ++ ":op:" ++ operationId.value

def compensationIdempotencyIdentity (compensationId : OpaqueId) : String :=
  "sb:" ++ contractVersion ++ ":comp:" ++ compensationId.value

structure Operation where
  contractVersion : String
  operationId : OpaqueId
  state : OperationState
  version : Nat
  intent : IntentEnvelope
  riskLevel : RiskLevel
  idempotencyIdentity : String
  currentPolicyDecisionId : Option OpaqueId
  currentApprovalId : Option OpaqueId
  latestAttemptId : Option OpaqueId
  latestVerificationId : Option OpaqueId
  compensationId : Option OpaqueId
  createdAt : UtcTimestamp
  updatedAt : UtcTimestamp
deriving DecidableEq, Repr

def nextVersion (current : Nat) : Nat := current + 1

structure NormalizedError where
  contractVersion : String
  kind : ErrorKind
  code : String
  message : String
  retryableInfrastructure : Bool
  providerHttpStatus : Option Int
  providerErrorCode : Option String
  retryAfterSeconds : Option Int
  details : JsonValue
deriving DecidableEq, Repr

structure ProviderEvidence where
  source : EvidenceSource
  provider : String
  observedAt : UtcTimestamp
  providerStatus : Option String
  providerRequestId : Option String
  externalOperationId : Option String
  externalResourceIds : List String
  evidenceFields : JsonValue
  rawReference : Option String
deriving DecidableEq, Repr

/-- `ExecutionAttempt.__post_init__`: a STARTED attempt has neither completion time nor
outcome, a COMPLETED one has both and did not complete before it started. -/
def executionLifecycle (state : AttemptState) (startedAt : UtcTimestamp)
    (completedAt : Option UtcTimestamp) (outcome : Option EffectOutcome) : Bool :=
  match state with
  | .started => completedAt.isNone && outcome.isNone
  | .completed =>
    match completedAt with
    | none => false
    | some completed => outcome.isSome && decide (startedAt.value ≤ completed.value)

structure ExecutionAttempt where
  contractVersion : String
  attemptId : OpaqueId
  operationId : OpaqueId
  attemptNumber : Nat
  state : AttemptState
  startedAt : UtcTimestamp
  completedAt : Option UtcTimestamp
  providerIdempotencyKey : Option String
  externalOperationId : Option String
  externalResourceIds : List String
  outcome : Option EffectOutcome
  evidence : Option ProviderEvidence
  error : Option NormalizedError
  correlationId : Option String
  lifecycle : executionLifecycle state startedAt completedAt outcome = true
deriving DecidableEq, Repr

/-- `CompensationAttempt.__post_init__`: as for execution attempts, without the comparison of
the two times. -/
def compensationLifecycle (state : AttemptState) (completedAt : Option UtcTimestamp)
    (outcome : Option EffectOutcome) : Bool :=
  match state with
  | .started => completedAt.isNone && outcome.isNone
  | .completed => completedAt.isSome && outcome.isSome

structure CompensationAttempt where
  contractVersion : String
  compensationAttemptId : OpaqueId
  compensationId : OpaqueId
  attemptNumber : Nat
  state : AttemptState
  startedAt : UtcTimestamp
  completedAt : Option UtcTimestamp
  providerIdempotencyKey : Option String
  externalOperationId : Option String
  outcome : Option EffectOutcome
  evidence : Option ProviderEvidence
  error : Option NormalizedError
  lifecycle : compensationLifecycle state completedAt outcome = true
deriving DecidableEq, Repr

structure Compensation where
  contractVersion : String
  compensationId : OpaqueId
  originalOperationId : OpaqueId
  kind : CompensationKind
  state : CompensationState
  version : Nat
  intentDigest : String
  argumentsMode : ArgumentsMode
  arguments : Option JsonValue
  argumentsRef : Option String
  idempotencyIdentity : String
  requestedBy : PrincipalRef
  policyDecisionId : Option OpaqueId
  createdAt : UtcTimestamp
  updatedAt : UtcTimestamp
deriving DecidableEq, Repr

structure PolicyObligations where
  requireVerification : Bool
  maxAutomaticExecutionAttempts : Option Int
  maxAutomaticRecoveryAttempts : Option Int
  automaticCompensationAllowed : Bool
  operatorReasonRequired : Bool
  approvalExpiresAt : Option UtcTimestamp
deriving DecidableEq, Repr

structure PolicyDecision where
  contractVersion : String
  policyDecisionId : OpaqueId
  operationId : OpaqueId
  operationVersion : Nat
  intentDigest : String
  verdict : PolicyVerdict
  reasonCodes : List String
  explanation : Option String
  obligations : PolicyObligations
  policyRevision : String
  evaluatedAt : UtcTimestamp
deriving DecidableEq, Repr

/-- `Approval.__post_init__`: a PENDING approval carries no decision, any other one a decision
time. -/
def approvalLifecycle (state : ApprovalState) (decidedAt : Option UtcTimestamp)
    (decidedBy : Option PrincipalRef) : Bool :=
  match state with
  | .pending => decidedAt.isNone && decidedBy.isNone
  | .approved | .rejected | .expired | .cancelled => decidedAt.isSome

structure Approval where
  contractVersion : String
  approvalId : OpaqueId
  operationId : OpaqueId
  operationVersion : Nat
  intentDigest : String
  policyDecisionId : OpaqueId
  state : ApprovalState
  requestedAt : UtcTimestamp
  expiresAt : Option UtcTimestamp
  decidedAt : Option UtcTimestamp
  decidedBy : Option PrincipalRef
  reason : Option String
  lifecycle : approvalLifecycle state decidedAt decidedBy = true
deriving DecidableEq, Repr

structure VerificationRequest where
  contractVersion : String
  verificationId : OpaqueId
  operationId : OpaqueId
  operationVersion : Nat
  target : VerificationTarget
  targetAttemptId : Option OpaqueId
  effect : EffectRef
  externalOperationId : Option String
  externalResourceIds : List String
  idempotencyIdentity : String
  providerEvidenceRefs : List OpaqueId
  requestedAt : UtcTimestamp
deriving DecidableEq, Repr

structure VerificationResult where
  contractVersion : String
  verificationId : OpaqueId
  outcome : EffectOutcome
  evidence : ProviderEvidence
  error : Option NormalizedError
  completedAt : UtcTimestamp
deriving DecidableEq, Repr

structure AuditEvent where
  contractVersion : String
  auditEventId : OpaqueId
  operationId : OpaqueId
  sequence : Nat
  eventType : AuditEventType
  fromState : Option OperationState
  toState : Option OperationState
  operationVersion : Nat
  actor : Option PrincipalRef
  reasonCode : String
  data : JsonValue
  correlationId : Option String
  createdAt : UtcTimestamp
deriving DecidableEq, Repr

structure OutboxEvent where
  contractVersion : String
  eventId : OpaqueId
  state : OutboxState
  aggregateType : String
  aggregateId : OpaqueId
  operationVersion : Nat
  command : WorkCommand
  createdAt : UtcTimestamp
  publishedAt : Option UtcTimestamp
  correlationId : Option String
deriving DecidableEq, Repr

structure ReconciliationDecision where
  action : ReconciliationAction
  reasonCode : String
deriving DecidableEq, Repr

structure StoredReconciliationDecision where
  reconciliationDecisionId : OpaqueId
  operationId : OpaqueId
  operationVersion : Nat
  verificationId : Option OpaqueId
  decision : ReconciliationDecision
  createdAt : UtcTimestamp
deriving DecidableEq, Repr

structure ProviderKeySemantics where
  scope : String
  replayWindow : Option String
  sameKeySameRequestRequired : Bool
  conflictingRequestBehavior : String
  responseReplayBehavior : String
deriving DecidableEq, Repr

structure EffectDescriptor where
  contractVersion : String
  effect : EffectRef
  mutability : Mutability
  riskLevel : RiskLevel
  idempotencyMode : IdempotencyMode
  verificationMode : VerificationMode
  compensationKind : CompensationKind
  supportsExternalOperationId : Bool
  immediateResponseCanProveApplied : Bool
  immediateResponseCanProveNotApplied : Bool
  providerKeySemantics : Option ProviderKeySemantics
  documentation : String
  keySemantics : idempotencyMode = .providerKey ↔ providerKeySemantics.isSome = true
  readOnlyCompensation : mutability = .readOnly → compensationKind = .none
deriving DecidableEq, Repr

theorem ExecutionAttempt.outcome_none_of_started (attempt : ExecutionAttempt)
    (started : attempt.state = .started) : attempt.outcome = none := by
  have lifecycle := attempt.lifecycle
  rw [started] at lifecycle
  simp only [executionLifecycle, Bool.and_eq_true, Option.isNone_iff_eq_none] at lifecycle
  exact lifecycle.2

theorem ExecutionAttempt.outcome_isSome_of_completed (attempt : ExecutionAttempt)
    (completed : attempt.state = .completed) : ∃ outcome, attempt.outcome = some outcome := by
  have lifecycle := attempt.lifecycle
  rw [completed] at lifecycle
  unfold executionLifecycle at lifecycle
  cases at_ : attempt.completedAt with
  | none => simp [at_] at lifecycle
  | some completedAt =>
    simp only [at_, Bool.and_eq_true] at lifecycle
    exact Option.isSome_iff_exists.mp lifecycle.1

theorem compensationLifecycle_started : compensationLifecycle .started none none = true := rfl

theorem CompensationAttempt.outcome_isSome_of_completed (attempt : CompensationAttempt)
    (completed : attempt.state = .completed) : ∃ outcome, attempt.outcome = some outcome := by
  have lifecycle := attempt.lifecycle
  rw [completed] at lifecycle
  simp only [compensationLifecycle, Bool.and_eq_true] at lifecycle
  exact Option.isSome_iff_exists.mp lifecycle.2

end Stateback.Domain
