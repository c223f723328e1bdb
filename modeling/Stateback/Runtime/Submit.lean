import Stateback.Application.Ids
import Stateback.Policy.Rules
import Stateback.Runtime.Execute
/-!
# Submission

`runtime/submit.py`: the intent is made and checked, the operation is created in one unit of work,
the policy engine is asked, and what it says is applied in another.  A process may stop between the
two; the call that repeats the submission goes on from there.
-/

namespace Stateback.Runtime

open Domain Persistence Transitions Providers Policy Transaction Process

/-! ## Commands -/

structure SubmitCommand where
  effect : EffectRef
  arguments : JsonValue
  requester : PrincipalRef
  metadata : List (String × String)
  ids : Application.SubmitIds
  correlationId : Option String
  deploymentEnvironment : String
  canonical : Canonical arguments

/-- What a runtime is composed of besides its journal.  `validateExecution` is what the adapter of
an effect says of a request before it is made, `none` where it accepts it. -/
structure SynchronousRuntime where
  registry : CapabilityRegistry
  validateExecution : ProviderExecutionRequest → Option NormalizedError
  policyEngine : PolicyEngine
  lower : String → String
  sha256 : List UInt8 → String
  digits : Nat

/-- JSON's null is no arguments. -/
def SubmitCommand.inlined (command : SubmitCommand) : Option JsonValue :=
  if command.arguments = .null then none else some command.arguments

def SynchronousRuntime.intentOf (runtime : SynchronousRuntime) (command : SubmitCommand)
    (requestedAt : UtcTimestamp) : Except IntentError IntentEnvelope :=
  IntentEnvelope.fromParts runtime.lower runtime.sha256 runtime.digits command.effect .inline
    command.inlined none command.requester requestedAt command.metadata

/-- What the submission asks for. -/
def SubmitCommand.input (command : SubmitCommand) : IntentInput where
  effect := command.effect
  argumentsMode := .inline
  arguments := command.arguments
  argumentsRef := none
  requester := command.requester
  metadata := command.metadata

def SubmitCommand.request (command : SubmitCommand) : ProviderExecutionRequest :=
  ⟨command.effect, command.arguments⟩

def submittedOperation (command : SubmitCommand) (intent : IntentEnvelope)
    (descriptor : EffectDescriptor) : Operation where
  contractVersion := contractVersion
  operationId := command.ids.operationId
  state := .pendingPolicy
  version := initialOperationVersion
  intent := intent
  riskLevel := descriptor.riskLevel
  idempotencyIdentity := operationIdempotencyIdentity command.ids.operationId
  currentPolicyDecisionId := none
  currentApprovalId := none
  latestAttemptId := none
  latestVerificationId := none
  compensationId := none
  createdAt := intent.requestedAt
  updatedAt := intent.requestedAt

def createCommand (command : SubmitCommand) (intent : IntentEnvelope)
    (descriptor : EffectDescriptor) : CreateOperation where
  operation := submittedOperation command intent descriptor
  occurredAt := intent.requestedAt
  actor := some command.requester
  correlationId := command.correlationId
  reasonCode := "operation_submitted"
  createdAuditEventId := command.ids.createdAuditEventId

/-! ## The policy step -/

/-- `_policy_inputs`. -/
def policyInputs (operation : Operation) (descriptor : EffectDescriptor)
    (deploymentEnvironment : String) : PolicyInputs where
  operationId := operation.operationId
  operationVersion := operation.version
  intentDigest := operation.intent.intentDigest
  requester := operation.intent.requester
  effect := operation.intent.effect
  riskLevel := descriptor.riskLevel
  mutability := descriptor.mutability
  idempotencyMode := descriptor.idempotencyMode
  verificationMode := descriptor.verificationMode
  compensationKind := descriptor.compensationKind
  metadata := operation.intent.metadata
  deploymentEnvironment := deploymentEnvironment

/-- The decision that is stored for an evaluation. -/
def policyDecisionOf (ids : Application.SubmitIds) (operation : Operation)
    (evaluation : PolicyEvaluation) (now : UtcTimestamp) : PolicyDecision where
  contractVersion := contractVersion
  policyDecisionId := ids.policyDecisionId
  operationId := operation.operationId
  operationVersion := operation.version
  intentDigest := operation.intent.intentDigest
  verdict := evaluation.verdict
  reasonCodes := evaluation.reasonCodes
  explanation := evaluation.explanation
  obligations := evaluation.obligations
  policyRevision := evaluation.policyRevision
  evaluatedAt := now

theorem undecided_lifecycle : approvalLifecycle .pending none none = true := rfl

/-- The approval that is asked for. -/
def requestedApproval (ids : Application.SubmitIds) (operation : Operation)
    (evaluation : PolicyEvaluation) (now : UtcTimestamp) : Approval where
  contractVersion := contractVersion
  approvalId := ids.approvalId
  operationId := operation.operationId
  operationVersion := nextVersion operation.version
  intentDigest := operation.intent.intentDigest
  policyDecisionId := ids.policyDecisionId
  state := .pending
  requestedAt := now
  expiresAt := evaluation.obligations.approvalExpiresAt
  decidedAt := none
  decidedBy := none
  reason := none
  lifecycle := undecided_lifecycle

def policyReasonCode : PolicyVerdict → String
  | .allow => "policy_allow"
  | .deny => "policy_deny"
  | .requireApproval => "policy_require_approval"

def policyBody (ids : Application.SubmitIds) (operation : Operation)
    (evaluation : PolicyEvaluation) (now : UtcTimestamp) : CommandBody :=
  let decision := policyDecisionOf ids operation evaluation now
  match evaluation.verdict with
  | .allow => .policyAllow decision ids.policyAuditEventId ids.allowOutboxEventId
  | .deny => .policyDeny decision ids.policyAuditEventId
  | .requireApproval =>
    .policyRequireApproval decision (requestedApproval ids operation evaluation now)
      ids.policyAuditEventId ids.approvalAuditEventId

/-- The command for what the engine says. -/
def policyCommand (command : SubmitCommand) (operation : Operation)
    (evaluation : PolicyEvaluation) (now : UtcTimestamp) : OperationCommand where
  operationId := operation.operationId
  expectedVersion := operation.version
  occurredAt := now
  actor := some command.requester
  correlationId := command.correlationId
  reasonCode := policyReasonCode evaluation.verdict
  transitionAuditEventId := command.ids.policyTransitionAuditEventId
  body := policyBody command.ids operation evaluation now

/-- The answer to a policy transition. -/
def policyAnswer (result : TransitionResult) : RuntimeResult :=
  if result.outcome = .rejected then
    ⟨.rejected, result.reasonCode, result.operation, some result, none, none⟩
  else ⟨.accepted, "accepted", result.operation, some result, none, none⟩

/-- `_persist_policy`. -/
def persistPolicy (command : SubmitCommand) (operation : Operation)
    (evaluation : PolicyEvaluation) : Service RuntimeResult := do
  let now ← Service.now
  let result ← Service.submit (.operation (policyCommand command operation evaluation now))
  pure (policyAnswer result)

/-- `_apply_policy`. -/
def applyPolicy (runtime : SynchronousRuntime) (command : SubmitCommand) (operation : Operation) :
    Service RuntimeResult :=
  if operation.state ≠ .pendingPolicy then
    pure (makeResult .accepted "already_applied" (some operation))
  else do
    let descriptor ← Service.lift (runtime.registry.descriptor operation.intent.effect)
    match runtime.policyEngine
        (policyInputs operation descriptor command.deploymentEnvironment) with
    | .error _ => pure (makeResult .infrastructureFailure "policy_engine_failed" (some operation))
    | .ok evaluation => persistPolicy command operation evaluation

/-! ## Submission -/

/-- What follows a creation: an answer, or the operation to go on with. -/
def settleCreate (digest : String) (result : TransitionResult) : RuntimeResult ⊕ Operation :=
  let refused (reasonCode : String) : RuntimeResult :=
    ⟨.rejected, reasonCode, result.operation, some result, none, none⟩
  match result.operation with
  | none => .inl (refused (if result.outcome = .rejected then result.reasonCode
      else "transition_rejected"))
  | some operation =>
    if result.outcome = .rejected then
      -- an operation of this id that has moved on is the one asked for, if its intent is
      if result.reasonCode = "operation_id_reused" ∧ operation.intent.intentDigest = digest then
        .inr operation
      else .inl (refused result.reasonCode)
    else if result.outcome = .alreadyApplied ∧ operation.intent.intentDigest ≠ digest then
      .inl (refused "intent_conflict")
    else .inr operation

/-- `_apply_policy` on what a creation leaves to do. -/
def continueSubmit (runtime : SynchronousRuntime) (command : SubmitCommand) :
    RuntimeResult ⊕ Operation → Service RuntimeResult
  | .inl answer => pure answer
  | .inr operation => applyPolicy runtime command operation

/-- The operation whose insert was refused as a duplicate. -/
def existingOperation (operation : Operation) (s : Store) : Option Operation :=
  match s.operation? operation.operationId with
  | some existing => some existing
  | none => s.operations.rows.find? fun row =>
      decide (row.idempotencyIdentity = operation.idempotencyIdentity)

/-- What follows the unit of work of the creation. -/
def afterCreate (runtime : SynchronousRuntime) (command : SubmitCommand) (operation : Operation) :
    Except Raised TransitionResult → Service RuntimeResult
  | .ok result =>
    continueSubmit runtime command (settleCreate operation.intent.intentDigest result)
  | .error (.duplicateKeyError reasonCode) => do
    let existing ← Service.load (existingOperation operation)
    match existing with
    | none => Prog.raise (.duplicateKeyError reasonCode)
    | some existing =>
      if existing.intent.intentDigest ≠ operation.intent.intentDigest then
        pure (makeResult .rejected "intent_conflict" (some existing))
      else applyPolicy runtime command existing
  | .error e => Prog.raise e

/-- `submit_operation`. -/
def submitOperation (runtime : SynchronousRuntime) (command : SubmitCommand) :
    Service RuntimeResult :=
  match runtime.registry.descriptor command.effect with
  | .error _ => pure (makeResult .rejected "unregistered_effect" none)
  | .ok descriptor =>
    if descriptor.mutability = .readOnly then
      pure (makeResult .rejected "read_only_effect_not_consequential" none)
    else do
      let requestedAt ← Service.now
      match runtime.intentOf command requestedAt with
      | .error (.contract e) => pure (makeResult .rejected e.reasonCode none)
      | .error .unwritable => Prog.raise (.valueError "integer string conversion")
      | .ok intent =>
        match runtime.validateExecution command.request with
        | some error => pure ⟨.rejected, "validation_rejected", none, none, none, some error⟩
        | none => do
          let ended ← Service.trySubmit (.create (createCommand command intent descriptor))
          afterCreate runtime command (submittedOperation command intent descriptor) ended

end Stateback.Runtime
