import Stateback.Recovery.Recover
/-!
# Compensation records and requests

`compensation/commands.py`, `ids.py`, `results.py`, `arguments.py`, `intent.py`, `request.py` and
`evidence.py`.  `sha256_hex` is a parameter; a retry id factory may raise, as the worker's does
for attempt numbers below two.
-/

namespace Stateback.Compensation

open Domain Persistence Transitions Providers Stateback.Runtime

def compensationActor : PrincipalRef :=
  ⟨.service, "stateback.compensation", some "CompensationService"⟩

/-! ## Ids, commands, results -/

structure CompensationRetryIds where
  parentRetryTransitionAuditEventId : OpaqueId
  parentRetryOutboxEventId : OpaqueId
  attemptId : OpaqueId
  attemptAuditEventId : OpaqueId
  attemptOutboxEventId : OpaqueId
  resumeVerificationId : OpaqueId
  resumeVerificationStartAuditEventId : OpaqueId
  resumeVerificationCompleteAuditEventId : OpaqueId
  resumeVerificationOutboxEventId : OpaqueId
  resumeCompleteTransitionAuditEventId : OpaqueId
  resumeCompleteOutboxEventId : OpaqueId
  evidenceAuditEventId : OpaqueId
  completeTransitionAuditEventId : OpaqueId
  completeOutboxEventId : OpaqueId
  verificationId : OpaqueId
  verificationStartAuditEventId : OpaqueId
  verificationCompleteAuditEventId : OpaqueId
  verificationOutboxEventId : OpaqueId

structure CompensationIds where
  compensationId : OpaqueId
  compensationAttemptId : OpaqueId
  startTransitionAuditEventId : OpaqueId
  compensationRequestedAuditEventId : OpaqueId
  startOutboxEventId : OpaqueId
  claimAttemptAuditEventId : OpaqueId
  evidenceAuditEventId : OpaqueId
  completeTransitionAuditEventId : OpaqueId
  completeOutboxEventId : OpaqueId
  verificationId : OpaqueId
  verificationStartAuditEventId : OpaqueId
  verificationCompleteAuditEventId : OpaqueId
  verificationOutboxEventId : OpaqueId
  manualAuditEventId : OpaqueId
  operatorAuditEventId : OpaqueId
  /-- `retry_ids_for.for_attempt`. -/
  retryIdsFor : OpaqueId → Nat → Except Raised CompensationRetryIds

structure StartCompensationCommand where
  operationId : OpaqueId
  expectedVersion : Int
  ids : CompensationIds
  actor : Option PrincipalRef
  correlationId : Option String
  automatic : Bool

structure ExecuteCompensationCommand where
  operationId : OpaqueId
  expectedVersion : Int
  ids : CompensationIds
  actor : Option PrincipalRef
  correlationId : Option String

structure RecoverCompensationCommand where
  operationId : OpaqueId
  expectedVersion : Int
  ids : CompensationIds
  actor : Option PrincipalRef
  correlationId : Option String

/-- `limit`, when set, is at least one. -/
structure ScanCompensationCommand where
  idsFor : OpaqueId → CompensationIds
  actor : Option PrincipalRef
  correlationId : Option String
  limit : Option Nat
  limited : ∀ n ∈ limit, 1 ≤ n

/-- The type of `actor` excludes `None`, so `_validate_reason_code` never answers
`actor_required`. -/
structure OperatorCompensationCommand where
  operationId : OpaqueId
  expectedVersion : Int
  ids : CompensationIds
  actor : PrincipalRef
  correlationId : Option String
  reasonCode : String

inductive CompensationDisposition where
  | accepted
  | rejected
  | inFlight
  | infrastructureFailure
  | notEligible
deriving DecidableEq, Repr

structure CompensationResult where
  disposition : CompensationDisposition
  reasonCode : String
  operation : Option Operation
  compensation : Option Compensation
  transition : Option TransitionResult
  evidence : Option CompensationEvidence
  verificationEvidence : Option VerificationEvidence
deriving DecidableEq, Repr

/-- `make_compensation_result` with at most an operation and a compensation given. -/
def makeCompensationResult (disposition : CompensationDisposition) (reasonCode : String)
    (operation : Option Operation) (compensation : Option Compensation) : CompensationResult :=
  ⟨disposition, reasonCode, operation, compensation, none, none, none⟩

/-- The result of an answered transition, with the evidence gathered on the way to it. -/
def fromTransition (disposition : CompensationDisposition) (reasonCode : String)
    (transition : TransitionResult) (evidence : Option CompensationEvidence)
    (verificationEvidence : Option VerificationEvidence) : CompensationResult :=
  ⟨disposition, reasonCode, transition.operation, transition.compensation, some transition,
    evidence, verificationEvidence⟩

/-! ## Builders -/

/-- A JSON object of one entry, whose value may be `None`. -/
def argumentsRefObject (argumentsRef : Option String) : JsonValue :=
  .object [("arguments_ref", (argumentsRef.map .str).getD .null)]

def buildCompensationArguments (operation : Operation) : Option JsonValue :=
  match operation.intent.argumentsMode with
  | .reference => some (argumentsRefObject operation.intent.argumentsRef)
  | .inline => operation.intent.arguments

def providerCompensationKey (descriptor : EffectDescriptor) (compensationId : OpaqueId) :
    Option String :=
  if descriptor.idempotencyMode = .providerKey then
    some ("sb:v1:comp-key:" ++ compensationId.value)
  else none

def computeCompensationIntentDigest (sha256Hex : JsonValue → String)
    (originalOperationId : OpaqueId) (kind : CompensationKind) (argumentsMode : ArgumentsMode)
    (arguments : Option JsonValue) (argumentsRef : Option String) : String :=
  sha256Hex <| jsonObjectFromPlain
    [("contract_version", .str contractVersion),
     ("original_operation_id", .str originalOperationId.value),
     ("kind", .str kind.value),
     ("arguments_mode", .str argumentsMode.value),
     ("arguments", arguments.getD .null),
     ("arguments_ref", (argumentsRef.map .str).getD .null)]

def buildCompensationRecord (sha256Hex : JsonValue → String) (operation : Operation)
    (descriptor : EffectDescriptor) (ids : CompensationIds) (actor : PrincipalRef)
    (now : UtcTimestamp) (policyDecisionId : Option OpaqueId) : Compensation :=
  let isReference := operation.intent.argumentsMode = .reference
  let argumentsMode := if isReference then ArgumentsMode.reference else .inline
  let arguments := if isReference then none else buildCompensationArguments operation
  let argumentsRef := if isReference then operation.intent.argumentsRef else none
  { contractVersion := contractVersion
    compensationId := ids.compensationId
    originalOperationId := operation.operationId
    kind := descriptor.compensationKind
    state := .pending
    version := initialCompensationVersion
    intentDigest := computeCompensationIntentDigest sha256Hex operation.operationId
      descriptor.compensationKind argumentsMode arguments argumentsRef
    argumentsMode := argumentsMode
    arguments := arguments
    argumentsRef := argumentsRef
    idempotencyIdentity := compensationIdempotencyIdentity ids.compensationId
    requestedBy := actor
    policyDecisionId := policyDecisionId
    createdAt := now
    updatedAt := now }

def buildStartedAttempt (compensationId attemptId : OpaqueId) (attemptNumber : Nat)
    (descriptor : EffectDescriptor) (now : UtcTimestamp) : CompensationAttempt where
  contractVersion := contractVersion
  compensationAttemptId := attemptId
  compensationId := compensationId
  attemptNumber := attemptNumber
  state := .started
  startedAt := now
  completedAt := none
  providerIdempotencyKey := providerCompensationKey descriptor compensationId
  externalOperationId := none
  outcome := none
  evidence := none
  error := none
  lifecycle := rfl

def buildCompensationProviderRequest (operation : Operation) (compensation : Compensation)
    (attempt : CompensationAttempt) (originalAttempts : List ExecutionAttempt) :
    CompensationRequest where
  originalOperationId := operation.operationId
  compensationId := compensation.compensationId
  compensationAttemptId := attempt.compensationAttemptId
  originalEvidence := originalAttempts.filterMap (·.evidence)
  compensationArguments :=
    match compensation.argumentsMode with
    | .inline => compensation.arguments
    | .reference => some (argumentsRefObject compensation.argumentsRef)
  idempotencyIdentity := compensation.idempotencyIdentity
  providerIdempotencyKey := attempt.providerIdempotencyKey

def buildCompensateContext (operation : Operation) (attempt : CompensationAttempt)
    (compensation : Compensation) (correlationId : Option String) : ProviderExecutionContext where
  operationId := operation.operationId
  attemptId := attempt.compensationAttemptId
  idempotencyIdentity := compensation.idempotencyIdentity
  providerIdempotencyKey := attempt.providerIdempotencyKey
  correlationId := correlationId
  deadline := none

def buildCompensationVerifyContext (operation : Operation) (compensation : Compensation)
    (request : VerificationRequest) (correlationId : Option String) :
    Except Raised ProviderExecutionContext :=
  match request.targetAttemptId with
  | none => .error .assertionError
  | some attemptId =>
    .ok
      { operationId := operation.operationId
        attemptId := attemptId
        idempotencyIdentity := compensation.idempotencyIdentity
        providerIdempotencyKey := none
        correlationId := correlationId
        deadline := none }

def buildCompensationVerificationRequest (operation : Operation) (compensation : Compensation)
    (attempt : CompensationAttempt) (verificationId : OpaqueId) (now : UtcTimestamp) :
    VerificationRequest where
  contractVersion := contractVersion
  verificationId := verificationId
  operationId := operation.operationId
  operationVersion := operation.version
  target := .compensation
  targetAttemptId := some attempt.compensationAttemptId
  effect := operation.intent.effect
  externalOperationId := attempt.externalOperationId
  externalResourceIds := (attempt.evidence.map (·.externalResourceIds)).getD []
  idempotencyIdentity := compensation.idempotencyIdentity
  providerEvidenceRefs := []
  requestedAt := now

/-! ## Completed attempts -/

def completeAttemptFromEvidence (started : CompensationAttempt) (evidence : CompensationEvidence)
    (completedAt : UtcTimestamp) : CompensationAttempt :=
  { started with
    state := .completed
    completedAt := some completedAt
    externalOperationId := evidence.externalOperationId
    outcome := some evidence.outcome
    evidence := evidence.evidence
    error := evidence.error
    lifecycle := rfl }

/-- Completes a leftover STARTED attempt by what a verification found. -/
def completeAttemptFromVerification (started : CompensationAttempt) (result : VerificationResult)
    (outcome : EffectOutcome) (completedAt : UtcTimestamp) : CompensationAttempt :=
  { started with
    state := .completed
    completedAt := some completedAt
    outcome := some outcome
    evidence := some result.evidence
    error := result.error
    lifecycle := rfl }

end Stateback.Compensation
