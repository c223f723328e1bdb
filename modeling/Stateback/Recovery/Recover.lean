import Stateback.Recovery.Reconcile
import Stateback.Runtime.Recover
/-!
# Recovery of unknown outcomes

`recovery/recover.py` with `evidence.py`, `ids.py`, `commands.py`, `results.py` and
`persist.py`: verify, store the result, apply what it reconciles to.  No provider mutation is
made here; the fault-injection points are left out.
-/

namespace Stateback.Recovery

open Domain Persistence Transitions Providers Stateback.Runtime Process

structure RecoveryIds where
  verificationId : OpaqueId
  verificationStartAuditEventId : OpaqueId
  verificationCompleteAuditEventId : OpaqueId
  startTransitionAuditEventId : OpaqueId
  startOutboxEventId : OpaqueId
  completeTransitionAuditEventId : OpaqueId
  retryOutboxEventId : OpaqueId
  manualAuditEventId : OpaqueId
  executionRecover : RecoverIds
deriving DecidableEq, Repr

/-- `RECOVERY_ACTOR` of the recovery service. -/
def recoveryActor : PrincipalRef := ⟨.service, "stateback.recovery", some "RecoveryService"⟩

structure RecoveryCommand where
  operationId : OpaqueId
  expectedVersion : Int
  ids : RecoveryIds
  actor : Option PrincipalRef
  correlationId : Option String
deriving DecidableEq, Repr

inductive RecoveryDisposition where
  | accepted
  | rejected
  | infrastructureFailure
deriving DecidableEq, Repr

structure RecoveryResult where
  disposition : RecoveryDisposition
  reasonCode : String
  operation : Option Operation
  transition : Option TransitionResult
  verificationEvidence : Option VerificationEvidence
  decision : Option ReconciliationDecision
deriving DecidableEq, Repr

/-- `make_recovery_result` with at most an operation and a transition given. -/
def makeRecoveryResult (disposition : RecoveryDisposition) (reasonCode : String)
    (operation : Option Operation) (transition : Option TransitionResult) :
    RecoveryResult :=
  ⟨disposition, reasonCode, operation, transition, none, none⟩

/-! ## Evidence -/

def resultFromEvidence (verificationId : OpaqueId) (evidence : VerificationEvidence)
    (completedAt : UtcTimestamp) : VerificationResult where
  contractVersion := contractVersion
  verificationId := verificationId
  outcome := evidence.outcome
  evidence := evidence.evidence
  error := evidence.error
  completedAt := completedAt

def contextForVerify (operation : Operation) (attempt : Option ExecutionAttempt)
    (correlationId : Option String) : Except Raised ProviderExecutionContext :=
  match (attempt.map (·.attemptId)) <|> operation.latestAttemptId with
  | none => .error .assertionError
  | some attemptId =>
    .ok
      { operationId := operation.operationId
        attemptId := attemptId
        idempotencyIdentity := operation.idempotencyIdentity
        providerIdempotencyKey := attempt.bind (·.providerIdempotencyKey)
        correlationId := correlationId
        deadline := none }

/-- The evidence of a verification call; an unclassified exception counts as UNKNOWN. -/
def verificationEvidence (provider : String) (ended : CallEnd VerificationEvidence) :
    Service VerificationEvidence :=
  match ended with
  | .returned evidence => pure evidence
  | .raisedUnsupportedEffect effect => Prog.raise (.unsupportedEffectError effect)
  | .raisedContractValidation reasonCode => Prog.raise (.contractValidationError reasonCode)
  | .raisedOther typeName => do
    let observedAt ← Service.now
    let (outcome, error, evidence) :=
      evidenceForUnclassifiedException typeName observedAt provider
    pure ⟨outcome, evidence, some error⟩

def requestWithRegisteredEffect (registry : CapabilityRegistry) (request : VerificationRequest) :
    Except Raised VerificationRequest :=
  match registry.descriptor request.effect with
  | .error e => .error e
  | .ok descriptor => .ok { request with effect := descriptor.effect }

/-! ## Applying one transition -/

/-- A command on the loaded operation at its own version. -/
def commandOn (op : Operation) (actor : PrincipalRef) (correlationId : Option String)
    (occurredAt : UtcTimestamp) (reasonCode : String) (transitionAuditEventId : OpaqueId)
    (body : CommandBody) : OperationCommand where
  operationId := op.operationId
  expectedVersion := op.version
  occurredAt := occurredAt
  actor := some actor
  correlationId := correlationId
  reasonCode := reasonCode
  transitionAuditEventId := transitionAuditEventId
  body := body

/-- `_apply_transition`: three kinds of exception become results, the others pass. -/
def applyTransition (command : OperationCommand) :
    Service (TransitionResult ⊕ RecoveryResult) := do
  let applied ← Service.trySubmit (.operation command)
  match applied with
  | .ok result => pure (.inl result)
  | .error (.notFoundError _) =>
    pure (.inr (makeRecoveryResult .rejected "not_found" none none))
  | .error e =>
    if e.isConflict then
      pure (.inr (makeRecoveryResult .infrastructureFailure "stale_version" none none))
    else if e.isPersistenceError then
      pure (.inr (makeRecoveryResult .infrastructureFailure "persist_failed" none none))
    else Prog.raise e

def fromApply (applied : TransitionResult ⊕ RecoveryResult) (operation : Operation) :
    RecoveryResult :=
  match applied with
  | .inr failed =>
    if failed.operation = none then
      makeRecoveryResult failed.disposition failed.reasonCode (some operation) none
    else failed
  | .inl result =>
    match result.outcome with
    | .rejected => makeRecoveryResult .rejected result.reasonCode result.operation (some result)
    | .alreadyApplied =>
      makeRecoveryResult .accepted "already_applied" result.operation (some result)
    | .applied => makeRecoveryResult .accepted "accepted" result.operation (some result)

def fromRuntimeResult (runtime : RuntimeResult) : RecoveryResult :=
  match runtime.disposition with
  | .inFlight =>
    makeRecoveryResult .rejected "in_flight_not_scanner_safe" runtime.operation
      runtime.transition
  | .accepted =>
    makeRecoveryResult .accepted runtime.reasonCode runtime.operation runtime.transition
  | .rejected =>
    makeRecoveryResult .rejected runtime.reasonCode runtime.operation runtime.transition
  | .infrastructureFailure =>
    makeRecoveryResult .infrastructureFailure runtime.reasonCode runtime.operation
      runtime.transition

def loadPolicy (op : Operation) : Service (Option PolicyDecision) :=
  match op.currentPolicyDecisionId with
  | none => pure none
  | some policyDecisionId => Service.load (·.policyDecision? policyDecisionId)

/-! ## The verification cycle -/

def attemptForRequest (op : Operation) (request : VerificationRequest) :
    Service (Option ExecutionAttempt) := do
  let targeted ←
    match request.targetAttemptId with
    | none => pure none
    | some attemptId => Service.load (·.attempt? attemptId)
  match targeted with
  | some attempt => pure (some attempt)
  | none => latestAttempt op

/-- The class `_verification_command` builds; every other kind escalates. -/
def verificationBody (kind : TransitionKind) (ids : RecoveryIds) (result : VerificationResult)
    (descriptor : EffectDescriptor) : CommandBody :=
  match kind with
  | .verificationApplied => .verificationApplied result ids.verificationCompleteAuditEventId
  | .verificationNotAppliedFail =>
    .verificationNotAppliedFail result ids.verificationCompleteAuditEventId
  | .verificationNotAppliedRetry =>
    .verificationNotAppliedRetry result descriptor.idempotencyMode
      ids.verificationCompleteAuditEventId ids.retryOutboxEventId none
  | .verificationInconclusive =>
    .verificationInconclusive result ids.verificationCompleteAuditEventId
  | _ => .verificationEscalate (some result) ids.manualAuditEventId

def applyVerificationKind (registry : CapabilityRegistry) (command : RecoveryCommand)
    (op : Operation) (actor : PrincipalRef) (existingResult : VerificationResult) :
    Service RecoveryResult := do
  let attempts ← Service.load (·.listAttempts op.operationId)
  let policy ← loadPolicy op
  match policy with
  | none => pure (makeRecoveryResult .rejected "policy_missing" (some op) none)
  | some policy => do
    let descriptor ← Service.lift (registry.descriptor op.intent.effect)
    let rows ← Service.load (·.listVerifications op.operationId)
    let decision := reconcile ⟨op, attempts, existingResult, descriptor, policy.obligations⟩
      (completedOriginalVerificationCount rows)
    let occurredAt ← Service.now
    let applied ← applyTransition (commandOn op actor command.correlationId occurredAt
      decision.reasonCode command.ids.completeTransitionAuditEventId
      (verificationBody (verifyingActions decision.action) command.ids existingResult descriptor))
    let evidence : VerificationEvidence :=
      ⟨existingResult.outcome, existingResult.evidence, existingResult.error⟩
    match applied with
    | .inr failed => pure failed
    | .inl result =>
      match result.outcome with
      | .rejected =>
        pure ⟨.rejected, result.reasonCode, result.operation, some result, some evidence,
          some decision⟩
      | .alreadyApplied =>
        pure ⟨.accepted, "already_applied", result.operation, some result, some evidence,
          some decision⟩
      | .applied =>
        pure ⟨.accepted, "accepted", result.operation, some result, some evidence,
          some decision⟩

/-- The provider call of a verification cycle, up to the result it makes. -/
def verifyOriginal (registry : CapabilityRegistry) (command : RecoveryCommand) (op : Operation)
    (request : VerificationRequest) : Service VerificationResult := do
  let attempt ← attemptForRequest op request
  let _adapter ← Service.lift (registry.adapterFor op.intent.effect)
  let context ← Service.lift (contextForVerify op attempt command.correlationId)
  let verifyRequest ← Service.lift (requestWithRegisteredEffect registry request)
  let ended ← Prog.question (Query.verify context verifyRequest)
  let evidence ← verificationEvidence op.intent.effect.provider ended
  let completedAt ← Service.now
  pure (resultFromEvidence request.verificationId evidence completedAt)

/-- What a verification whose result could not be stored answers. -/
def persistFailed (op : Operation) (e : Raised) : Service RecoveryResult :=
  if e.isPersistenceError then
    if e = .persistenceError "not_found" then
      pure (makeRecoveryResult .rejected "verification_missing" (some op) none)
    else
      pure (makeRecoveryResult .infrastructureFailure "persist_failed_after_verify" (some op) none)
  else Prog.raise e

/-- `run_verifying_cycle` on a stored request and its result, if it has one. -/
def settleVerification (registry : CapabilityRegistry) (command : RecoveryCommand)
    (op : Operation) (actor : PrincipalRef) (row : VerificationRow) : Service RecoveryResult :=
  let (request, existingResult) := row
  if request.target ≠ .originalEffect then
    pure (makeRecoveryResult .rejected "verification_outcome_mismatch" (some op) none)
  else
    match existingResult with
    | some result => applyVerificationKind registry command op actor result
    | none => do
      let result ← verifyOriginal registry command op request
      let persisted ← Prog.attempt .work (persistVerificationResult result)
      match persisted with
      | .error e => persistFailed op e
      | .ok () => applyVerificationKind registry command op actor result

def runVerifyingCycle (registry : CapabilityRegistry) (command : RecoveryCommand)
    (op : Operation) (actor : PrincipalRef) : Service RecoveryResult :=
  if op.state ≠ .verifying then
    pure (makeRecoveryResult .rejected "source_state_mismatch" (some op) none)
  else
    match op.latestVerificationId with
    | none => pure (makeRecoveryResult .rejected "verification_missing" (some op) none)
    | some verificationId => do
      let loaded ← Service.load (·.verification? verificationId)
      match loaded with
      | none => pure (makeRecoveryResult .rejected "verification_missing" (some op) none)
      | some row => settleVerification registry command op actor row

/-! ## UNKNOWN -/

/-- The retry decision of the registry for an operation that cannot be verified. -/
def unknownRetry (descriptor : EffectDescriptor) (latest : ExecutionAttempt)
    (firstStartedAt now : UtcTimestamp) : Except Raised RetrySafetyDecision :=
  evaluateRetrySafety descriptor (attemptOutcome latest) none now (some firstStartedAt) none

/-- The registry calls the retry SAFE and the attempt cap leaves room for it. -/
def RegistryRetries (retry : RetrySafetyDecision) (latest : ExecutionAttempt)
    (obligations : PolicyObligations) : Prop :=
  retry.verdict = .safe ∧ (latest.attemptNumber : Int) < maxAutomaticAttempts obligations
deriving Decidable

def unknownSafeRetryCommand (command : RecoveryCommand) (op : Operation) (actor : PrincipalRef)
    (descriptor : EffectDescriptor) (latest : ExecutionAttempt) (reasonCode : String)
    (occurredAt : UtcTimestamp) : OperationCommand :=
  commandOn op actor command.correlationId occurredAt reasonCode
    command.ids.completeTransitionAuditEventId
    (.unknownSafeRetry descriptor.idempotencyMode (attemptOutcome latest) none
      command.ids.retryOutboxEventId none)

def unknownEscalateCommand (command : RecoveryCommand) (op : Operation) (actor : PrincipalRef)
    (reasonCode : String) (occurredAt : UtcTimestamp) : OperationCommand :=
  commandOn op actor command.correlationId occurredAt reasonCode
    command.ids.completeTransitionAuditEventId (.unknownEscalate command.ids.manualAuditEventId)

/-- The command `_unknown_without_verify` builds. -/
def unknownWithoutVerifyCommand (command : RecoveryCommand) (op : Operation)
    (actor : PrincipalRef) (descriptor : EffectDescriptor) (latest : ExecutionAttempt)
    (retry : RetrySafetyDecision) (obligations : PolicyObligations) (occurredAt : UtcTimestamp) :
    OperationCommand :=
  if RegistryRetries retry latest obligations then
    unknownSafeRetryCommand command op actor descriptor latest retry.reasonCode occurredAt
  else
    unknownEscalateCommand command op actor
      (if retry.verdict = .safe then "execution_attempt_budget_exhausted"
       else "unknown_without_verification") occurredAt

def unknownWithoutVerify (command : RecoveryCommand) (op : Operation) (actor : PrincipalRef)
    (descriptor : EffectDescriptor) (first latest : ExecutionAttempt) (policy : PolicyDecision) :
    Service RecoveryResult := do
  let now ← Service.now
  let retry ← Service.lift (unknownRetry descriptor latest first.startedAt now)
  let occurredAt ← Service.now
  let applied ← applyTransition (unknownWithoutVerifyCommand command op actor descriptor latest
    retry policy.obligations occurredAt)
  pure (fromApply applied op)

def unknownStartVerification (registry : CapabilityRegistry) (command : RecoveryCommand)
    (op : Operation) (actor : PrincipalRef) (latest : ExecutionAttempt) :
    Service RecoveryResult := do
  let requestedAt ← Service.now
  let request := buildOriginalVerificationRequest op (some latest) command.ids.verificationId
    requestedAt
  let occurredAt ← Service.now
  let applied ← applyTransition (commandOn op actor command.correlationId occurredAt
    "unknown_start_verification" command.ids.startTransitionAuditEventId
    (.unknownStartVerification request command.ids.verificationStartAuditEventId
      command.ids.startOutboxEventId))
  let mapped := fromApply applied op
  if mapped.disposition ≠ .accepted then pure mapped
  else if mapped.reasonCode = "already_applied" then do
    let reloaded ← loadOperation command.operationId
    runVerifyingCycle registry command reloaded actor
  else do
    let verifying ← Prog.require mapped.operation .assertionError
    runVerifyingCycle registry command verifying actor

/-- `_recover_unknown` after its loads. -/
def recoverUnknownFrom (registry : CapabilityRegistry) (command : RecoveryCommand)
    (op : Operation) (actor : PrincipalRef) (descriptor : EffectDescriptor)
    (first latest : ExecutionAttempt) : Service RecoveryResult := do
  let policy ← loadPolicy op
  match policy with
  | none => pure (makeRecoveryResult .rejected "policy_missing" (some op) none)
  | some policy =>
    match descriptor.verificationMode with
    | .none => unknownWithoutVerify command op actor descriptor first latest policy
    | .readBack | .operationLookup | .custom =>
      unknownStartVerification registry command op actor latest

def recoverUnknown (registry : CapabilityRegistry) (command : RecoveryCommand) (op : Operation)
    (actor : PrincipalRef) : Service RecoveryResult := do
  let descriptor ← Service.lift (registry.descriptor op.intent.effect)
  let attempts ← Service.load (·.listAttempts op.operationId)
  match attempts.head?, attempts.getLast? with
  | some first, some latest =>
    match op.latestAttemptId with
    | none => recoverUnknownFrom registry command op actor descriptor first latest
    | some attemptId => do
      let latestRow ← Service.load (·.attempt? attemptId)
      match latestRow with
      | none => pure (makeRecoveryResult .rejected "attempt_missing" (some op) none)
      | some _ => recoverUnknownFrom registry command op actor descriptor first latest
  | _, _ => pure (makeRecoveryResult .rejected "attempt_missing" (some op) none)

/-! ## Entry point -/

def recoverExecuting (registry : CapabilityRegistry) (command : RecoveryCommand)
    (actor : PrincipalRef) : Service RecoveryResult := do
  let runtime ← recoverOperation registry
    { operationId := command.operationId
      expectedVersion := command.expectedVersion
      ids := command.ids.executionRecover
      actor := some actor
      correlationId := command.correlationId }
  pure (fromRuntimeResult runtime)

/-- The load `load_operation` makes inside `try ... except NotFoundError`. -/
def tryLoadOperation (operationId : OpaqueId) : Service (Option Operation) :=
  Service.load (·.operation? operationId)

def recoverUnknownOperation (registry : CapabilityRegistry) (command : RecoveryCommand) :
    Service RecoveryResult := do
  let actor := command.actor.getD recoveryActor
  let loaded ← tryLoadOperation command.operationId
  match loaded with
  | none => pure (makeRecoveryResult .rejected "not_found" none none)
  | some op =>
    match op.state with
    | .executing => recoverExecuting registry command actor
    | .verifying => runVerifyingCycle registry command op actor
    | .unknown => recoverUnknown registry command op actor
    | .manualIntervention | .succeeded | .failed | .denied | .cancelled | .ready
    | .pendingPolicy | .awaitingApproval | .compensating | .compensationUnknown | .compensated
    | .compensationFailed => pure (makeRecoveryResult .accepted "already_applied" (some op) none)

end Stateback.Recovery
