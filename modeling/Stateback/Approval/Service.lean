import Stateback.Compensation.Operator
/-!
# Approval decisions

`approval/service.py` with `commands.py` and `results.py`.  Who may decide is the deployment's
`ApproverAuthorizer`, a parameter here.
-/

namespace Stateback.Approval

open Domain Persistence Transitions Providers Process

/-- `ApproverAuthorizer.is_authorized`. -/
abbrev ApproverAuthorizer := PrincipalRef → Operation → Domain.Approval → Bool

structure ApprovalDecisionIds where
  transitionAuditEventId : OpaqueId
  approvalAuditEventId : OpaqueId
  outboxEventId : OpaqueId

structure ApprovalDecisionCommand where
  operationId : OpaqueId
  approvalId : OpaqueId
  expectedVersion : Int
  decision : ApprovalState
  actor : PrincipalRef
  reason : Option String
  correlationId : Option String
  ids : ApprovalDecisionIds
  decides : decision = .approved ∨ decision = .rejected
  positive : 1 ≤ expectedVersion

structure ApprovalExpiryCommand where
  operationId : OpaqueId
  approvalId : OpaqueId
  expectedVersion : Int
  transitionAuditEventId : OpaqueId
  correlationId : Option String
  positive : 1 ≤ expectedVersion

inductive ApprovalDisposition where
  | accepted
  | rejected
  | unauthorized
  | infrastructureFailure
deriving DecidableEq, Repr

structure ApprovalResult where
  disposition : ApprovalDisposition
  reasonCode : String
  operation : Option Operation
  approval : Option Domain.Approval
  transition : Option TransitionResult
deriving DecidableEq, Repr

/-! ## Answers -/

def notFound : ApprovalResult := ⟨.rejected, "not_found", none, none, none⟩

/-- An answer about the rows as they were loaded. -/
def answered (disposition : ApprovalDisposition) (reasonCode : String) (operation : Operation)
    (approval : Domain.Approval) : ApprovalResult :=
  ⟨disposition, reasonCode, some operation, some approval, none⟩

/-- The answer to a transition that returned, with the approval it would have left. -/
def transitionAnswered (approval closed : Domain.Approval) (result : TransitionResult) :
    ApprovalResult :=
  if result.outcome = .rejected then
    ⟨.rejected, result.reasonCode, result.operation, some approval, some result⟩
  else ⟨.accepted, "accepted", result.operation, some closed, some result⟩

/-- `_binding_error`. -/
def bindingError (operation : Operation) (approval : Domain.Approval) : Option String :=
  if approval.operationId ≠ operation.operationId then some "approval_operation_mismatch"
  else if operation.currentApprovalId ≠ some approval.approvalId then some "approval_not_current"
  else if approval.intentDigest ≠ operation.intent.intentDigest then
    some "approval_intent_mismatch"
  else if operation.currentPolicyDecisionId ≠ some approval.policyDecisionId then
    some "approval_policy_mismatch"
  else if approval.state = .pending then
    if approval.operationVersion ≠ operation.version then some "approval_version_mismatch"
    else none
  else if operation.version ≤ approval.operationVersion then some "approval_version_mismatch"
  else none

/-! ## Loads and commands -/

/-- `_load_ids`. -/
def loadIds (operationId approvalId : OpaqueId) : Service (Option (Operation × Domain.Approval)) :=
  Service.load fun s =>
    (s.operation? operationId).bind fun operation =>
      (s.approval? approvalId).map fun approval => (operation, approval)

/-- `_terminal_approval`. -/
def terminalApproval (approval : Domain.Approval) (command : ApprovalDecisionCommand)
    (decidedAt : UtcTimestamp) : Domain.Approval :=
  { approval with
    state := command.decision
    decidedAt := some decidedAt
    decidedBy := some command.actor
    reason := command.reason
    lifecycle := by rcases command.decides with same | same <;> rw [same] <;> rfl }

/-- `_transition_command`. -/
def transitionCommand (command : ApprovalDecisionCommand) (approval : Domain.Approval)
    (occurredAt : UtcTimestamp) : OperationCommand :=
  { operationId := command.operationId
    expectedVersion := command.expectedVersion
    occurredAt := occurredAt
    actor := some command.actor
    correlationId := command.correlationId
    reasonCode :=
      if command.decision = .approved then "approval_granted" else "approval_rejected"
    transitionAuditEventId := command.ids.transitionAuditEventId
    body :=
      if command.decision = .approved then
        .approvalGrant approval command.ids.approvalAuditEventId command.ids.outboxEventId
      else .approvalReject approval command.ids.approvalAuditEventId }

/-- The approval `expire` closes. -/
def expiredApproval (approval : Domain.Approval) (now : UtcTimestamp) : Domain.Approval :=
  { approval with
    state := .expired
    decidedAt := some now
    decidedBy := none
    reason := some "approval_expired"
    lifecycle := rfl }

def expiryCommand (command : ApprovalExpiryCommand) (expired : Domain.Approval)
    (now : UtcTimestamp) : OperationCommand where
  operationId := command.operationId
  expectedVersion := command.expectedVersion
  occurredAt := now
  actor := none
  correlationId := command.correlationId
  reasonCode := "approval_expired"
  transitionAuditEventId := command.transitionAuditEventId
  body := .cancelAwaitingApproval expired

/-! ## The service -/

/-- `_resolve_concurrent`. -/
def resolveConcurrent (command : ApprovalDecisionCommand) : Service ApprovalResult := do
  let loaded ← loadIds command.operationId command.approvalId
  match loaded with
  | none => pure notFound
  | some (operation, approval) =>
    match bindingError operation approval with
    | some reasonCode => pure (answered .rejected reasonCode operation approval)
    | none =>
      if approval.state = command.decision then
        pure (answered .accepted "already_applied" operation approval)
      else pure (answered .rejected "concurrency_conflict" operation approval)

/-- What follows the transition of a decision. -/
def settleDecision (command : ApprovalDecisionCommand) (approval terminal : Domain.Approval) :
    Except Raised TransitionResult → Service ApprovalResult
  | .ok result => pure (transitionAnswered approval terminal result)
  | .error e => if e.isConflict then resolveConcurrent command else Prog.raise e

/-- `ApprovalService.decide`. -/
def decide (lower : String → String) (authorizer : ApproverAuthorizer)
    (command : ApprovalDecisionCommand) : Service ApprovalResult :=
  if command.reason.any fun reason =>
      keyIsForbidden lower "reason" || valueIsForbidden lower reason then
    Prog.raise (.contractValidationError "secret_field")
  else do
    let loaded ← loadIds command.operationId command.approvalId
    match loaded with
    | none => pure notFound
    | some (operation, approval) =>
      match bindingError operation approval with
      | some reasonCode => pure (answered .rejected reasonCode operation approval)
      | none =>
        if !authorizer command.actor operation approval then
          pure (answered .unauthorized "approver_unauthorized" operation approval)
        else do
          let decidedAt ← Service.now
          let terminal := terminalApproval approval command decidedAt
          if approval.state = command.decision then
            pure (answered .accepted "already_applied" operation approval)
          else if approval.state ≠ .pending then
            pure (answered .rejected "approval_state_conflict" operation approval)
          else do
            let occurredAt ← Service.now
            let ended ← Service.trySubmit
              (.operation (transitionCommand command terminal occurredAt))
            settleDecision command approval terminal ended

/-- What `expire` answers after a conflict. -/
def resolveExpiry (command : ApprovalExpiryCommand) (operation : Operation)
    (approval : Domain.Approval) : Service ApprovalResult := do
  let refreshed ← loadIds command.operationId command.approvalId
  match refreshed with
  | some (reloaded, current) =>
    if bindingError reloaded current = none ∧ current.state = .expired then
      pure (answered .accepted "already_applied" reloaded current)
    else pure (answered .rejected "concurrency_conflict" operation approval)
  | none => pure (answered .rejected "concurrency_conflict" operation approval)

/-- What follows the transition of an expiry. -/
def settleExpiry (command : ApprovalExpiryCommand) (operation : Operation)
    (approval expired : Domain.Approval) : Except Raised TransitionResult → Service ApprovalResult
  | .ok result => pure (transitionAnswered approval expired result)
  | .error e => if e.isConflict then resolveExpiry command operation approval else Prog.raise e

/-- `ApprovalService.expire`. -/
def expire (command : ApprovalExpiryCommand) : Service ApprovalResult := do
  let loaded ← loadIds command.operationId command.approvalId
  match loaded with
  | none => pure notFound
  | some (operation, approval) =>
    match bindingError operation approval with
    | some reasonCode => pure (answered .rejected reasonCode operation approval)
    | none =>
      if approval.state = .expired then
        pure (answered .accepted "already_applied" operation approval)
      else if approval.state ≠ .pending then
        pure (answered .rejected "approval_state_conflict" operation approval)
      else do
        let now ← Service.now
        if approval.expiresAt.all fun expires => now.value < expires.value then
          pure (answered .rejected "approval_not_expired" operation approval)
        else do
          let expired := expiredApproval approval now
          let ended ← Service.trySubmit (.operation (expiryCommand command expired now))
          settleExpiry command operation approval expired ended

end Stateback.Approval
