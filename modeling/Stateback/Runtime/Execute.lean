import Stateback.Journal
import Stateback.Providers.Registry
/-!
# Execution

`runtime/execute.py` with `attempt.py`, `outcome.py`, `ids.py`, `commands.py` and `results.py`:
claim an attempt, call the provider outside any unit of work, persist the evidence, apply the
execution transition.  The fault-injection points are left out: a process may stop anywhere.

`_dispatch` and `_claim_and_execute` call each other after a conflict or a replay.  Here
`dispatch` takes the number of turns it may still make and answers `none` when they run out, so
a run that ends is a run with an answer for some number of turns.
-/

namespace Stateback.Runtime

open Domain Persistence Transitions Providers Transaction Process

/-! ## Attempts -/

/-- Empty keys do not count, as in the source's truth test. -/
def providerKeyFor (operation : Operation) (descriptor : EffectDescriptor)
    (priorAttempts : List ExecutionAttempt) : Option String :=
  match priorAttempts.findSome? fun attempt =>
      attempt.providerIdempotencyKey.filter fun key => decide (key ≠ "") with
  | some existing => some existing
  | none =>
    if descriptor.idempotencyMode = .providerKey then some operation.idempotencyIdentity else none

def buildStartedAttempt (operation : Operation) (attemptId : OpaqueId) (attemptNumber : Nat)
    (startedAt : UtcTimestamp) (providerIdempotencyKey : Option String)
    (externalResourceIds : List String) (correlationId : Option String) : ExecutionAttempt where
  contractVersion := contractVersion
  attemptId := attemptId
  operationId := operation.operationId
  attemptNumber := attemptNumber
  state := .started
  startedAt := startedAt
  completedAt := none
  providerIdempotencyKey := providerIdempotencyKey
  externalOperationId := none
  externalResourceIds := externalResourceIds
  outcome := none
  evidence := none
  error := none
  correlationId := correlationId
  lifecycle := rfl

/-- The copy raises when the clock reads before the attempt's start. -/
def buildCompletedAttempt (started : ExecutionAttempt) (evidence : ExecutionEvidence)
    (completedAt : UtcTimestamp) : Except Raised ExecutionAttempt :=
  if accepted : started.startedAt.value ≤ completedAt.value then
    .ok { started with
      state := .completed
      completedAt := some completedAt
      outcome := some evidence.outcome
      evidence := evidence.evidence
      error := evidence.error
      externalOperationId := evidence.externalOperationId
      externalResourceIds :=
        (started.externalResourceIds ++ evidence.externalResourceIds).eraseDups
      lifecycle := by simpa [executionLifecycle] using accepted }
  else .error (.contractValidationError "invalid_timestamp")

/-! ## Outcome to transition -/

def maxAutomaticAttempts (obligations : PolicyObligations) : Int :=
  match obligations.maxAutomaticExecutionAttempts with
  | none => 1
  | some value => if value < 1 then 1 else value

structure ExecutionKindDecision where
  kind : TransitionKind
  reasonCode : String
deriving DecidableEq, Repr

def decideExecutionKind (outcome : EffectOutcome) (descriptor : EffectDescriptor)
    (obligations : PolicyObligations) (attemptNumber : Nat) (retryVerdict : RetrySafetyVerdict) :
    ExecutionKindDecision :=
  match outcome with
  | .unknown => ⟨.executionUnknown, "execution_unknown"⟩
  | .applied =>
    if obligations.requireVerification || !descriptor.immediateResponseCanProveApplied then
      ⟨.executionRequireVerification, "execution_require_verification"⟩
    else ⟨.executionApplied, "execution_applied"⟩
  | .notApplied =>
    if retryVerdict = .safe ∧ (attemptNumber : Int) < maxAutomaticAttempts obligations then
      ⟨.executionNotAppliedRetry, "execution_not_applied_retry"⟩
    else ⟨.executionNotAppliedFail, "execution_not_applied_fail"⟩

/-! ## Commands and results -/

structure ExecuteIds where
  attemptId : OpaqueId
  claimTransitionAuditEventId : OpaqueId
  attemptAuditEventId : OpaqueId
  evidenceAuditEventId : OpaqueId
  executionTransitionAuditEventId : OpaqueId
  executionOutboxEventId : OpaqueId
  verificationId : OpaqueId
  verificationAuditEventId : OpaqueId
deriving DecidableEq, Repr

structure RecoverIds where
  evidenceAuditEventId : OpaqueId
  executionTransitionAuditEventId : OpaqueId
  executionOutboxEventId : OpaqueId
  verificationId : OpaqueId
  verificationAuditEventId : OpaqueId
deriving DecidableEq, Repr

/-- The ids `apply_execution_kind_from_ids` takes from either bundle. -/
def ExecuteIds.recoverIds (ids : ExecuteIds) : RecoverIds where
  evidenceAuditEventId := ids.evidenceAuditEventId
  executionTransitionAuditEventId := ids.executionTransitionAuditEventId
  executionOutboxEventId := ids.executionOutboxEventId
  verificationId := ids.verificationId
  verificationAuditEventId := ids.verificationAuditEventId

structure ExecuteCommand where
  operationId : OpaqueId
  expectedVersion : Int
  ids : ExecuteIds
  actor : Option PrincipalRef
  correlationId : Option String
deriving DecidableEq, Repr

inductive RuntimeDisposition where
  | accepted
  | rejected
  | inFlight
  | infrastructureFailure
deriving DecidableEq, Repr

structure RuntimeResult where
  disposition : RuntimeDisposition
  reasonCode : String
  operation : Option Operation
  transition : Option TransitionResult
  evidence : Option ExecutionEvidence
  validationError : Option NormalizedError
deriving DecidableEq, Repr

/-- `make_result` with only the operation given. -/
def makeResult (disposition : RuntimeDisposition) (reasonCode : String)
    (operation : Option Operation) : RuntimeResult :=
  ⟨disposition, reasonCode, operation, none, none, none⟩

def executionRequest (operation : Operation) (completed : ExecutionAttempt)
    (verificationId : OpaqueId) (requestedAt : UtcTimestamp) : VerificationRequest where
  contractVersion := contractVersion
  verificationId := verificationId
  operationId := operation.operationId
  operationVersion := operation.version
  target := .originalEffect
  targetAttemptId := some completed.attemptId
  effect := operation.intent.effect
  externalOperationId := completed.externalOperationId
  externalResourceIds := completed.externalResourceIds
  idempotencyIdentity := operation.idempotencyIdentity
  providerEvidenceRefs := []
  requestedAt := requestedAt

/-- The class `_execution_command` builds; any other kind is an illegal combination. -/
def executionBody (kind : TransitionKind) (operation : Operation) (completed : ExecutionAttempt)
    (descriptor : EffectDescriptor) (occurredAt : UtcTimestamp) (ids : RecoverIds) :
    Except Raised CommandBody :=
  match kind with
  | .executionApplied => .ok (.executionApplied completed ids.evidenceAuditEventId)
  | .executionUnknown =>
    .ok (.executionUnknown (some completed) ids.evidenceAuditEventId ids.executionOutboxEventId)
  | .executionNotAppliedRetry =>
    .ok (.executionNotAppliedRetry completed descriptor.idempotencyMode ids.evidenceAuditEventId
      ids.executionOutboxEventId none)
  | .executionNotAppliedFail =>
    .ok (.executionNotAppliedFail completed ids.evidenceAuditEventId)
  | .executionRequireVerification =>
    .ok (.executionRequireVerification completed
      (executionRequest operation completed ids.verificationId occurredAt)
      ids.evidenceAuditEventId ids.verificationAuditEventId ids.executionOutboxEventId)
  | other =>
    .error (.statebackError "illegal_combination" ("unsupported execution kind " ++ other.value))

def executionCommand (decision : ExecutionKindDecision) (operation : Operation)
    (completed : ExecutionAttempt) (descriptor : EffectDescriptor) (actor : Option PrincipalRef)
    (correlationId : Option String) (occurredAt : UtcTimestamp) (ids : RecoverIds) :
    Except Raised OperationCommand :=
  match executionBody decision.kind operation completed descriptor occurredAt ids with
  | .error e => .error e
  | .ok body =>
    .ok
      { operationId := operation.operationId
        expectedVersion := operation.version
        occurredAt := occurredAt
        actor := actor
        correlationId := correlationId
        reasonCode := decision.reasonCode
        transitionAuditEventId := ids.executionTransitionAuditEventId
        body := body }

/-! ## Services -/

def loadOperation (operationId : OpaqueId) : Service Operation :=
  Service.uow fun s =>
    match s.operation? operationId with
    | some operation => .ok (operation, s)
    | none => .error (.notFoundError "operation not found")

def latestAttempt (operation : Operation) : Service (Option ExecutionAttempt) :=
  match operation.latestAttemptId with
  | none => pure none
  | some attemptId => Service.load (·.attempt? attemptId)

def evidenceFromAttempt (completed : ExecutionAttempt) : Except Raised ExecutionEvidence :=
  match completed.outcome with
  | none => .error (.statebackError "illegal_combination" "completed attempt is missing outcome")
  | some outcome =>
    .ok ⟨outcome, completed.evidence, completed.error, completed.externalOperationId,
      completed.externalResourceIds⟩

/-- The unit of work of `apply_execution_kind`; `none` when the decision row is missing. -/
def executionTransition (operation : Operation) (policyDecisionId : OpaqueId)
    (completed : ExecutionAttempt) (descriptor : EffectDescriptor) (actor : Option PrincipalRef)
    (correlationId : Option String) (ids : RecoverIds) (now occurredAt : UtcTimestamp) :
    Uow (Option TransitionResult) := fun s =>
  match s.policyDecision? policyDecisionId with
  | none => .ok (none, s)
  | some policy =>
    match completed.outcome with
    | none =>
      .error (.statebackError "illegal_combination" "completed attempt is missing outcome")
    | some outcome =>
      let prior := s.listAttempts operation.operationId
      let firstStartedAt := (prior.head?.getD completed).startedAt
      match evaluateRetrySafety descriptor (some outcome) none now (some firstStartedAt) none with
      | .error e => .error e
      | .ok retry =>
        let decision := decideExecutionKind outcome descriptor policy.obligations
          completed.attemptNumber retry.verdict
        match executionCommand decision operation completed descriptor actor correlationId
            occurredAt ids with
        | .error e => .error e
        | .ok command => (some <$> applyOperation command) s

def applyExecutionKind (registry : CapabilityRegistry) (operation : Operation)
    (completed : ExecutionAttempt) (actor : Option PrincipalRef) (correlationId : Option String)
    (ids : RecoverIds) (evidence : ExecutionEvidence) : Service RuntimeResult :=
  match operation.currentPolicyDecisionId with
  | none => pure (makeResult .rejected "policy_missing" (some operation))
  | some policyDecisionId => do
    let descriptor ← Service.lift (registry.descriptor operation.intent.effect)
    let now ← Service.now
    let occurredAt ← Service.now
    let result ← Service.uow (executionTransition operation policyDecisionId completed descriptor
      actor correlationId ids now occurredAt)
    match result with
    | none => pure (makeResult .rejected "policy_missing" (some operation))
    | some result =>
      if result.outcome = .rejected then
        pure ⟨.rejected, result.reasonCode, result.operation, some result, some evidence, none⟩
      else
        pure ⟨.accepted, "accepted", result.operation, some result, some evidence, none⟩

/-- The claim command of one `_claim_and_execute`, with the attempt it carries. -/
def claimCommand (command : ExecuteCommand) (operation : Operation)
    (started : ExecutionAttempt) : OperationCommand where
  operationId := operation.operationId
  expectedVersion := command.expectedVersion
  occurredAt := started.startedAt
  actor := command.actor
  correlationId := command.correlationId
  reasonCode := "execution_claimed"
  transitionAuditEventId := command.ids.claimTransitionAuditEventId
  body := .claimExecution started command.ids.attemptAuditEventId

/-- The attempt a claim would start in this store. -/
def claimedAttempt (command : ExecuteCommand) (operation : Operation)
    (descriptor : EffectDescriptor) (resourceIds : List String) (startedAt : UtcTimestamp)
    (s : Store) : ExecutionAttempt :=
  let prior := s.listAttempts operation.operationId
  buildStartedAttempt operation command.ids.attemptId (prior.length + 1) startedAt
    (providerKeyFor operation descriptor prior) resourceIds command.correlationId

/-- The claiming unit of work. -/
def claim (command : ExecuteCommand) (operation : Operation) (descriptor : EffectDescriptor)
    (resourceIds : List String) (startedAt : UtcTimestamp) :
    Uow (ExecutionAttempt × TransitionResult) := fun s =>
  let started := claimedAttempt command operation descriptor resourceIds startedAt s
  (Prod.mk started <$> applyOperation (claimCommand command operation started)) s

def executionContext (claimed : Operation) (started : ExecutionAttempt)
    (correlationId : Option String) : ProviderExecutionContext where
  operationId := claimed.operationId
  attemptId := started.attemptId
  idempotencyIdentity := claimed.idempotencyIdentity
  providerIdempotencyKey := started.providerIdempotencyKey
  correlationId := correlationId
  deadline := none

/-- The evidence of a provider call: what it returned, or UNKNOWN for an unclassified
exception; two kinds of exception pass through. -/
def executionEvidence (provider : String) (ended : CallEnd ExecutionEvidence) :
    Service ExecutionEvidence :=
  match ended with
  | .returned evidence => pure evidence
  | .raisedUnsupportedEffect effect => Prog.raise (.unsupportedEffectError effect)
  | .raisedContractValidation reasonCode => Prog.raise (.contractValidationError reasonCode)
  | .raisedOther typeName => do
    let observedAt ← Service.now
    let (outcome, error, evidence) :=
      evidenceForUnclassifiedException typeName observedAt provider
    pure ⟨outcome, some evidence, some error, none, []⟩

/-- Persists the evidence of the attempt's call and applies the execution transition. -/
def recordExecution (registry : CapabilityRegistry) (command : ExecuteCommand)
    (claimed : Operation) (started : ExecutionAttempt) (evidence : ExecutionEvidence) :
    Service RuntimeResult := do
  let completedAt ← Service.now
  let completed ← Service.lift (buildCompletedAttempt started evidence completedAt)
  let persisted ← Prog.attempt .work (persistAttemptEvidence completed)
  match persisted with
  | .error e =>
    if e.isPersistenceError then do
      let failed ← loadOperation command.operationId
      pure ⟨.infrastructureFailure, "persist_failed_after_execute", some failed, none,
        some evidence, none⟩
    else Prog.raise e
  | .ok () =>
    applyExecutionKind registry claimed completed command.actor command.correlationId
      command.ids.recoverIds evidence

/-- The provider call of a claimed attempt and what follows it. -/
def callAndRecord (registry : CapabilityRegistry) (command : ExecuteCommand)
    (request : ProviderExecutionRequest) (claimed : Operation) (started : ExecutionAttempt) :
    Service RuntimeResult := do
  let ended ← Prog.question
    (Query.execute (executionContext claimed started command.correlationId) request)
  let evidence ← executionEvidence claimed.intent.effect.provider ended
  recordExecution registry command claimed started evidence

/-- What follows the claiming unit of work; `again` is the dispatch a conflict returns to. -/
def settleClaim (registry : CapabilityRegistry) (command : ExecuteCommand)
    (again : Operation → Service (Option RuntimeResult)) (request : ProviderExecutionRequest) :
    Except Raised (ExecutionAttempt × TransitionResult) → Service (Option RuntimeResult)
  | .error e =>
    if e.isConflict then do
      let fresh ← loadOperation command.operationId
      again fresh
    else if e.isPersistenceError then do
      let failed ← loadOperation command.operationId
      pure (some (makeResult .infrastructureFailure "persist_failed_before_execute"
        (some failed)))
    else Prog.raise e
  | .ok (started, result) =>
    match result.outcome with
    | .rejected =>
      pure (some ⟨.rejected, result.reasonCode, result.operation, some result, none, none⟩)
    | .alreadyApplied => do
      let fresh ← loadOperation command.operationId
      again fresh
    | .applied => do
      let claimed ← Prog.require result.operation
        (.statebackError "illegal_combination" "claim did not produce a started attempt")
      some <$> callAndRecord registry command request claimed started

/-- `_claim_and_execute`. -/
def claimAndExecute (registry : CapabilityRegistry) (command : ExecuteCommand)
    (again : Operation → Service (Option RuntimeResult)) (op : Operation) :
    Service (Option RuntimeResult) := do
  let descriptor ← Service.lift (registry.descriptor op.intent.effect)
  let arguments ← Prog.require op.intent.arguments
    (.statebackError "illegal_combination" "INLINE intent is missing arguments at execute")
  let request : ProviderExecutionRequest := ⟨op.intent.effect, arguments⟩
  let adapter ← Service.lift (registry.adapterFor op.intent.effect)
  let resourceIds ← Service.lift (adapter.verificationResourceIds request)
  let startedAt ← Service.now
  let claim ← Prog.attempt .work (claim command op descriptor resourceIds startedAt)
  settleClaim registry command again request claim

/-- `_dispatch` on an EXECUTING operation, by its latest attempt. -/
def dispatchExecuting (registry : CapabilityRegistry) (command : ExecuteCommand)
    (op : Operation) : Service RuntimeResult := do
  let attempt ← latestAttempt op
  match attempt with
  | none => pure (makeResult .rejected "unsupported_state" (some op))
  | some attempt =>
    match attempt.state with
    | .started => pure (makeResult .inFlight "in_flight" (some op))
    | .completed => do
      let evidence ← Service.lift (evidenceFromAttempt attempt)
      applyExecutionKind registry op attempt command.actor command.correlationId
        command.ids.recoverIds evidence

/-- `_dispatch`, for at most so many turns. -/
def dispatch (registry : CapabilityRegistry) (command : ExecuteCommand) :
    Nat → Operation → Service (Option RuntimeResult)
  | 0, _ => pure none
  | turns + 1, op =>
    match op.state with
    | .ready => claimAndExecute registry command (dispatch registry command turns) op
    | .executing => some <$> dispatchExecuting registry command op
    | .pendingPolicy => pure (some (makeResult .rejected "not_ready" (some op)))
    | .awaitingApproval => pure (some (makeResult .rejected "not_ready" (some op)))
    | .succeeded => pure (some (makeResult .accepted "already_applied" (some op)))
    | .failed | .denied | .cancelled | .unknown | .verifying | .compensating
    | .compensationUnknown | .compensated | .compensationFailed | .manualIntervention =>
      pure (some (makeResult .rejected "unsupported_state" (some op)))

def executeOperation (registry : CapabilityRegistry) (command : ExecuteCommand) (turns : Nat) :
    Service (Option RuntimeResult) := do
  let op ← loadOperation command.operationId
  dispatch registry command turns op

end Stateback.Runtime
