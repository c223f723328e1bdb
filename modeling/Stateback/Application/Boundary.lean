import Stateback.Application.Ids
import Stateback.Application.InputValidation
import Stateback.Application.Search
import Stateback.Approval.Service
import Stateback.Runtime.Submit
/-!
# The application boundary

`ApplicationService.submit`, `get_operation`, `audit_page` and `decide_approval` with the checks
they make before anything is read or written.
-/

namespace Stateback.Application

open Domain Persistence Transitions Providers Stateback.Runtime Invariants Process
open KeyedTable.Table Pages

/-! ## Checks -/

inductive BoundaryError where
  | authorizationError (message : String)
  | applicationServiceError (code : String) (retryable : Bool)
  | contractValidationError (error : ContractValidationError)
deriving DecidableEq, Repr

/-- `require`, the only error of which is a missing role. -/
def AuthenticatedIdentity.requireRole (identity : AuthenticatedIdentity) (allowed : List Role) :
    Except BoundaryError Unit :=
  match identity.require allowed with
  | .ok () => .ok ()
  | .error _ => .error (.authorizationError "insufficient_role")

/-- `validate_metadata`. -/
def validateMetadata (items : List (String × String)) : Except BoundaryError Unit :=
  if 100 < items.length then
    .error (.contractValidationError (tooLarge "metadata exceeds the supported entry count"))
  else if items.any fun item => decide (100 < item.1.length ∨ 1000 < item.2.length) then
    .error (.contractValidationError (tooLarge "metadata exceeds the supported field length"))
  else .ok ()

/-- What is asked of a key, which is also what `_validate_action_key` asks. -/
def validateKey (key : String) : Except BoundaryError Unit :=
  if keyAccepted key then .ok ()
  else .error (.applicationServiceError "invalid_idempotency_key" false)

/-- `_validated_operator_text`. -/
def validatedOperatorText (lower : String → String) (value code : String) (limit : Nat) :
    Except BoundaryError String :=
  let normalized := strip value
  if normalized = "" ∨ limit < normalized.length ∨ isAscii normalized = false ∨
      Domain.keyIsForbidden lower normalized ∨ Domain.valueIsForbidden lower normalized then
    .error (.applicationServiceError code false)
  else .ok normalized

/-! ## Submitting -/

structure SubmitOperationRequest where
  effect : EffectRef
  arguments : JsonValue
  metadata : List (String × String)
  deploymentEnvironment : String
  canonical : Canonical arguments

/-- What the request asks for in the name of a principal. -/
def SubmitOperationRequest.inputOf (request : SubmitOperationRequest) (principal : PrincipalRef) :
    IntentInput where
  effect := request.effect
  argumentsMode := .inline
  arguments := request.arguments
  argumentsRef := none
  requester := principal
  metadata := request.metadata

def validatedCorrelationId (lower : String → String) :
    Option String → Except BoundaryError (Option String)
  | none => .ok none
  | some value => (validatedOperatorText lower value "invalid_correlation_id" 200).map some

/-- The command that `submit` hands to the runtime. -/
def submitCommand (lower : String → String) (uuid5 : String → OpaqueId)
    (identity : AuthenticatedIdentity) (idempotencyKey : String)
    (request : SubmitOperationRequest) (correlationId : Option String) :
    Except BoundaryError SubmitCommand := do
  identity.requireRole [.caller]
  validateKey idempotencyKey
  validateMetadata request.metadata
  let correlationId ← validatedCorrelationId lower correlationId
  pure
    { effect := request.effect
      arguments := request.arguments
      requester := identity.principal
      metadata := request.metadata
      ids := submitIds uuid5 (requestIdentity identity.principal idempotencyKey)
      correlationId := correlationId
      deploymentEnvironment := request.deploymentEnvironment
      canonical := request.canonical }

/-- What `submit` makes of the runtime's answer. -/
def submitAnswer (result : RuntimeResult) : Except BoundaryError Operation :=
  match result.operation with
  | some operation =>
    if result.reasonCode = "intent_conflict" then
      .error (.applicationServiceError "idempotency_conflict" false)
    else .ok operation
  | none =>
    .error (.applicationServiceError result.reasonCode
      (decide (result.disposition = .infrastructureFailure)))

/-- `submit`. -/
def submit (runtime : SynchronousRuntime) (uuid5 : String → OpaqueId)
    (identity : AuthenticatedIdentity) (idempotencyKey : String)
    (request : SubmitOperationRequest) (correlationId : Option String) :
    Service (Except BoundaryError Operation) :=
  match submitCommand runtime.lower uuid5 identity idempotencyKey request correlationId with
  | .error e => pure (.error e)
  | .ok command => do
    let result ← submitOperation runtime command
    pure (submitAnswer result)

/-! ## Reading -/

/-- `_read_allowed`. -/
def readAllowed (identity : AuthenticatedIdentity) (operation : Operation) : Bool :=
  decide (Role.operator ∈ identity.roles) ||
    (identity.roles.any fun role => decide (role = .caller ∨ role = .reader)) &&
      decide (operation.intent.requester.type = identity.principal.type ∧
        operation.intent.requester.id = identity.principal.id)

/-- `get_operation`. -/
def getOperation (identity : AuthenticatedIdentity) (operationId : OpaqueId) :
    Service (Except BoundaryError Operation) :=
  match identity.requireRole [.caller, .reader, .operator] with
  | .error e => pure (.error e)
  | .ok () => do
    let found ← Service.load fun s => s.operation? operationId
    match found with
    | none => pure (.error (.applicationServiceError "not_found" false))
    | some operation =>
      if readAllowed identity operation then pure (.ok operation)
      else pure (.error (.authorizationError "operation_read_forbidden"))

/-- The rows of `AuditRepository.page_for_operation`, one more than the page may hold. -/
def auditRows (operationId : OpaqueId) (afterSequence : Int) (limit : Nat) (s : Store) :
    List AuditEvent :=
  ((s.auditEvents.select fun row =>
      decide (row.operationId = operationId) && decide (afterSequence < row.sequence)).insertionSort
    fun a b => a.sequence ≤ b.sequence).take (limit + 1)

/-- The page of `audit_page`. -/
def auditPageAt (operationId : OpaqueId) (afterSequence : Int) (limit : Nat) (s : Store) :
    Page AuditEvent Nat :=
  let rows := auditRows operationId afterSequence limit s
  ⟨rows.take limit,
    if limit < rows.length then (rows.take limit).getLast?.map (·.sequence) else none⟩

/-- `audit_page`. -/
def auditPage (identity : AuthenticatedIdentity) (operationId : OpaqueId) (afterSequence : Int)
    (limit : Nat) : Service (Except BoundaryError (Page AuditEvent Nat)) :=
  if afterSequence < 0 ∨ ¬ (1 ≤ limit ∧ limit ≤ 100) then
    pure (.error (.applicationServiceError "invalid_pagination" false))
  else do
    let read ← getOperation identity operationId
    match read with
    | .error e => pure (.error e)
    | .ok _ => do
      let page ← Service.load (auditPageAt operationId afterSequence limit)
      pure (.ok page)

/-! ## Deciding -/

/-- `approval_ids`. -/
def approvalIds (uuid5 : String → OpaqueId) (operationId : OpaqueId) (actionKey : String) :
    Approval.ApprovalDecisionIds :=
  let identity := "sb:v1:approval:" ++ operationId.value ++ ":" ++ actionKey
  { transitionAuditEventId := idFor uuid5 identity "transition-audit"
    approvalAuditEventId := idFor uuid5 identity "decision-audit"
    outboxEventId := idFor uuid5 identity "outbox" }

structure DecisionRequest where
  operationId : OpaqueId
  approvalId : OpaqueId
  expectedVersion : Int
  decision : ApprovalState
  reason : String
  actionKey : String
  correlationId : String
  decides : decision = .approved ∨ decision = .rejected
  positive : 1 ≤ expectedVersion

/-- The command that `decide_approval` hands to the approval service. -/
def decisionCommand (lower : String → String) (uuid5 : String → OpaqueId)
    (identity : AuthenticatedIdentity) (request : DecisionRequest) :
    Except BoundaryError Approval.ApprovalDecisionCommand := do
  identity.requireRole [.approver]
  validateKey request.actionKey
  let reason ← validatedOperatorText lower request.reason "invalid_reason" 500
  let correlationId ← validatedOperatorText lower request.correlationId "invalid_correlation_id" 200
  pure
    { operationId := request.operationId
      approvalId := request.approvalId
      expectedVersion := request.expectedVersion
      decision := request.decision
      actor := identity.principal
      reason := some reason
      correlationId := some correlationId
      ids := approvalIds uuid5 request.operationId request.actionKey
      decides := request.decides
      positive := request.positive }

/-- What `decide_approval` makes of the answer of the approval service. -/
def decisionAnswer (result : Approval.ApprovalResult) : Except BoundaryError Operation :=
  if result.disposition = .unauthorized then .error (.authorizationError result.reasonCode)
  else
    match result.operation with
    | some operation =>
      if result.disposition = .accepted then .ok operation
      else .error (.applicationServiceError result.reasonCode false)
    | none => .error (.applicationServiceError result.reasonCode false)

/-- `decide_approval`; without an approval service every call is refused. -/
def decideApproval (authorizer : Option Approval.ApproverAuthorizer) (lower : String → String)
    (uuid5 : String → OpaqueId) (identity : AuthenticatedIdentity) (request : DecisionRequest) :
    Service (Except BoundaryError Operation) :=
  match decisionCommand lower uuid5 identity request with
  | .error e => pure (.error e)
  | .ok command =>
    match authorizer with
    | none => pure (.error (.applicationServiceError "approval_service_unavailable" true))
    | some authorizer => do
      let result ← Approval.decide lower authorizer command
      pure (decisionAnswer result)

end Stateback.Application
