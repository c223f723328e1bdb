import Stateback.Domain.Records
import Stateback.Lib.KeyedTable
import Stateback.Lib.Transaction
/-!
# The journal and its repositories

`src/stateback/persistence/repositories.py` over the tables of `persistence/models.py`.  A
repository method is a transaction body: it reads or writes the tables and raises what the
method raises.  Primary keys are part of the table type; the other unique constraints are
checked where a row is inserted.

Foreign keys, CHECK constraints, integer ranges and lost connections are not tables of this
model.  Each of them can only turn a commit into an exception that undoes its writes.  A body
raises here what its method raises and nothing else; a process that such an exception would end
is one that stops, as any process may at any point of a run.
-/

namespace Stateback.Persistence

open Stateback.Domain KeyedTable Transaction

/-- The exceptions the modelled code raises or handles.  `databaseError` is a driver error
that `map_db_error` does not recognise; `statebackError` stands for the services' own
`Stateback*Error` classes, `adapterError` for an exception of an adapter that is none of ours. -/
inductive Raised where
  | notFoundError (message : String)
  | concurrencyConflictError (message : String)
  | duplicateKeyError (reasonCode : String)
  | persistenceError (reasonCode : String)
  | malformedRowError
  | databaseError
  | valueError (message : String)
  | contractValidationError (reasonCode : String)
  | assertionError
  | runtimeError (message : String)
  | overflowError
  | unsupportedEffectError (effect : EffectRef)
  | statebackError (reasonCode message : String)
  | adapterError (typeName : String)
deriving DecidableEq, Repr

/-- What `except PersistenceError` catches: the error itself and its subclasses. -/
def Raised.isPersistenceError : Raised → Bool
  | .notFoundError _ | .concurrencyConflictError _ | .duplicateKeyError _
  | .persistenceError _ | .malformedRowError => true
  | .databaseError | .valueError _ | .contractValidationError _ | .assertionError
  | .runtimeError _ | .overflowError | .unsupportedEffectError _ | .statebackError _ _
  | .adapterError _ => false

/-- What `except ConcurrencyConflictError` catches; it comes before `PersistenceError`. -/
def Raised.isConflict : Raised → Bool
  | .concurrencyConflictError _ => true
  | _ => false

/-- A verification row holds the request and, once completed, the result. -/
abbrev VerificationRow := VerificationRequest × Option VerificationResult

def verificationKey (row : VerificationRow) : OpaqueId := row.1.verificationId

structure Store where
  operations : Table Operation.operationId
  attempts : Table ExecutionAttempt.attemptId
  policyDecisions : Table PolicyDecision.policyDecisionId
  approvals : Table Approval.approvalId
  verifications : Table verificationKey
  compensations : Table Compensation.compensationId
  compensationAttempts : Table CompensationAttempt.compensationAttemptId
  auditEvents : Table AuditEvent.auditEventId
  outboxEvents : Table OutboxEvent.eventId
  reconciliationDecisions : Table StoredReconciliationDecision.reconciliationDecisionId
deriving DecidableEq

def Store.empty : Store :=
  ⟨.empty, .empty, .empty, .empty, .empty, .empty, .empty, .empty, .empty, .empty⟩

/-- A unit of work over the journal. -/
abbrev Uow (α : Type) := Tx Store Raised α

/-! ## Queries -/

namespace Store

def operation? (s : Store) (operationId : OpaqueId) : Option Operation :=
  s.operations.find? operationId

def attempt? (s : Store) (attemptId : OpaqueId) : Option ExecutionAttempt :=
  s.attempts.find? attemptId

def policyDecision? (s : Store) (policyDecisionId : OpaqueId) : Option PolicyDecision :=
  s.policyDecisions.find? policyDecisionId

def approval? (s : Store) (approvalId : OpaqueId) : Option Approval :=
  s.approvals.find? approvalId

def verification? (s : Store) (verificationId : OpaqueId) : Option VerificationRow :=
  s.verifications.find? verificationId

def compensation? (s : Store) (compensationId : OpaqueId) : Option Compensation :=
  s.compensations.find? compensationId

def compensationAttempt? (s : Store) (attemptId : OpaqueId) : Option CompensationAttempt :=
  s.compensationAttempts.find? attemptId

/-- The rows of one operation, in insertion order. -/
def attemptsOf (s : Store) (operationId : OpaqueId) : List ExecutionAttempt :=
  s.attempts.select fun row => decide (row.operationId = operationId)

/-- `AttemptRepository.list_for_operation`: ordered by attempt number. -/
def listAttempts (s : Store) (operationId : OpaqueId) : List ExecutionAttempt :=
  (s.attemptsOf operationId).insertionSort fun a b => a.attemptNumber ≤ b.attemptNumber

def compensationAttemptsOf (s : Store) (compensationId : OpaqueId) : List CompensationAttempt :=
  s.compensationAttempts.select fun row => decide (row.compensationId = compensationId)

/-- `CompensationAttemptRepository.list_for_compensation`: ordered by attempt number. -/
def listCompensationAttempts (s : Store) (compensationId : OpaqueId) :
    List CompensationAttempt :=
  (s.compensationAttemptsOf compensationId).insertionSort fun a b =>
    a.attemptNumber ≤ b.attemptNumber

def auditEventsOf (s : Store) (operationId : OpaqueId) : List AuditEvent :=
  s.auditEvents.select fun row => decide (row.operationId = operationId)

/-- `AuditRepository.next_sequence`: the largest stored sequence plus one, or one. -/
def nextSequence (s : Store) (operationId : OpaqueId) : Nat :=
  (s.auditEventsOf operationId).foldr (fun event most => max event.sequence most) 0 + 1

/-- The text `data["command"]` of an audit event, when it is a string. -/
def commandText? (event : AuditEvent) : Option String :=
  match event.data with
  | .object items =>
    match items.lookup "command" with
    | some (.str text) => some text
    | _ => none
  | _ => none

/-- `AuditRepository.count_reason_for_command`. -/
def countReasonForCommand (s : Store) (operationId : OpaqueId) (reasonCode : String)
    (command : WorkCommand) (operationVersion : Nat) : Nat :=
  ((s.auditEventsOf operationId).filter fun event =>
    decide (event.reasonCode = reasonCode) && decide (commandText? event = some command.value)
      && decide (event.operationVersion = operationVersion)).length

def outboxEvent? (s : Store) (eventId : OpaqueId) : Option OutboxEvent :=
  s.outboxEvents.find? eventId

def outboxEventsOf (s : Store) (operationId : OpaqueId) : List OutboxEvent :=
  s.outboxEvents.select fun row => decide (row.aggregateId = operationId)

/-- `VerificationRepository.list_for_operation`: ordered by request time, then id. -/
def listVerifications (s : Store) (operationId : OpaqueId) : List VerificationRow :=
  (s.verifications.select fun row => decide (row.1.operationId = operationId)).insertionSort
    fun a b => a.1.requestedAt.value < b.1.requestedAt.value ∨
      a.1.requestedAt = b.1.requestedAt ∧ a.1.verificationId.value ≤ b.1.verificationId.value

/-- `OperationRepository.list_by_state`: ordered by creation time, then id. -/
def operationsByState (s : Store) (state : OperationState) : List Operation :=
  (s.operations.select fun row => decide (row.state = state)).insertionSort fun a b =>
    a.createdAt.value < b.createdAt.value ∨
      a.createdAt = b.createdAt ∧ a.operationId.value ≤ b.operationId.value

/-- The order of `latest_for_operation`: creation time, then event id. -/
def newerOutbox (a b : OutboxEvent) : Bool :=
  decide (b.createdAt.value < a.createdAt.value) ||
    decide (a.createdAt = b.createdAt) && decide (b.eventId.value < a.eventId.value)

/-- `OutboxRepository.latest_for_operation`. -/
def latestOutbox? (s : Store) (operationId : OpaqueId) : Option OutboxEvent :=
  (s.outboxEventsOf operationId).foldl
    (fun best event =>
      match best with
      | none => some event
      | some best => some (if newerOutbox event best then event else best)) none

end Store

/-! ## Writes -/

namespace OperationRepository

def insert (operation : Operation) : Uow Unit := fun s =>
  if operation.version ≠ 1 then
    .error (.persistenceError "check_violation")
  else if s.operations.rows.any fun row =>
      decide (row.idempotencyIdentity = operation.idempotencyIdentity) then
    .error (.duplicateKeyError "duplicate_idempotency_identity")
  else
    match s.operations.insert? operation with
    | some operations => .ok ((), { s with operations })
    | none => .error (.duplicateKeyError "duplicate_operation_id")

/-- One row of that id and version must be there to be overwritten. -/
def updateCas (expectedVersion : Int) (operation : Operation) : Uow Unit := fun s =>
  if (operation.version : Int) ≠ expectedVersion + 1 then
    .error (.concurrencyConflictError "CAS version must be expected_version + 1")
  else
    match s.operation? operation.operationId with
    | none => .error (.concurrencyConflictError "operation version conflict")
    | some row =>
      if (row.version : Int) = expectedVersion then
        .ok ((), { s with operations := s.operations.replace operation })
      else .error (.concurrencyConflictError "operation version conflict")

end OperationRepository

namespace AttemptRepository

def insert (attempt : ExecutionAttempt) : Uow Unit := fun s =>
  match s.attempts.insert? attempt with
  | none => .error (.duplicateKeyError "duplicate_attempt_id")
  | some attempts =>
    if (s.attemptsOf attempt.operationId).any fun row =>
        decide (row.attemptNumber = attempt.attemptNumber) then
      .error (.duplicateKeyError "duplicate_attempt_number")
    else .ok ((), { s with attempts })

/-- The row after its outcome columns are overwritten; identity, number and start time stay. -/
def completedRow (row attempt : ExecutionAttempt)
    (accepted : executionLifecycle attempt.state row.startedAt attempt.completedAt
      attempt.outcome = true) : ExecutionAttempt :=
  { row with
    state := attempt.state
    completedAt := attempt.completedAt
    providerIdempotencyKey := attempt.providerIdempotencyKey
    externalOperationId := attempt.externalOperationId
    externalResourceIds := attempt.externalResourceIds
    outcome := attempt.outcome
    evidence := attempt.evidence
    error := attempt.error
    correlationId := attempt.correlationId
    lifecycle := accepted }

/-- Only a STARTED row is completed.  A completion time before the stored start time would make
a row that no later read accepts; the callers compare the start times first, so that branch is
not reached. -/
def complete (attempt : ExecutionAttempt) : Uow Unit := fun s =>
  if attempt.state ≠ .completed then
    .error (.persistenceError "attempt_not_started")
  else
    match s.attempt? attempt.attemptId with
    | none => .error (.persistenceError "attempt_not_started")
    | some row =>
      if row.state = .started then
        if accepted : executionLifecycle attempt.state row.startedAt attempt.completedAt
            attempt.outcome = true then
          .ok ((), { s with attempts := s.attempts.replace (completedRow row attempt accepted) })
        else .error .malformedRowError
      else .error (.persistenceError "attempt_not_started")

end AttemptRepository

namespace PolicyDecisionRepository

def insert (decision : PolicyDecision) : Uow Unit := fun s =>
  match s.policyDecisions.insert? decision with
  | some policyDecisions => .ok ((), { s with policyDecisions })
  | none => .error (.duplicateKeyError "duplicate_policy_decision_id")

end PolicyDecisionRepository

namespace ApprovalRepository

def insert (approval : Approval) : Uow Unit := fun s =>
  match s.approvals.insert? approval with
  | some approvals => .ok ((), { s with approvals })
  | none => .error (.duplicateKeyError "duplicate_approval_id")

/-- Every column of the stored row is overwritten, whichever operation it belonged to. -/
def updateCasState (approval : Approval) (expectedState : ApprovalState) : Uow Unit := fun s =>
  match s.approval? approval.approvalId with
  | none => .error (.concurrencyConflictError "approval state conflict")
  | some row =>
    if row.state = expectedState then
      .ok ((), { s with approvals := s.approvals.replace approval })
    else .error (.concurrencyConflictError "approval state conflict")

end ApprovalRepository

namespace VerificationRepository

def insertRequest (request : VerificationRequest) : Uow Unit := fun s =>
  match s.verifications.insert? (request, none) with
  | some verifications => .ok ((), { s with verifications })
  | none => .error (.duplicateKeyError "duplicate_verification_id")

def complete (result : VerificationResult) : Uow Unit := fun s =>
  match s.verification? result.verificationId with
  | none => .error (.persistenceError "not_found")
  | some (request, stored) =>
    match stored with
    | some _ => .error (.persistenceError "check_violation")
    | none => .ok ((), { s with verifications := s.verifications.replace (request, some result) })

end VerificationRepository

namespace CompensationRepository

def insert (compensation : Compensation) : Uow Unit := fun s =>
  match s.compensations.insert? compensation with
  | none => .error (.duplicateKeyError "duplicate_compensation_id")
  | some compensations =>
    if s.compensations.rows.any fun row =>
        decide (row.idempotencyIdentity = compensation.idempotencyIdentity) then
      .error (.duplicateKeyError "duplicate_compensation_idempotency")
    else .ok ((), { s with compensations })

def updateCas (expectedVersion : Int) (compensation : Compensation) : Uow Unit := fun s =>
  if (compensation.version : Int) ≠ expectedVersion + 1 then
    .error (.concurrencyConflictError "CAS version must be expected_version + 1")
  else
    match s.compensation? compensation.compensationId with
    | none => .error (.concurrencyConflictError "compensation version conflict")
    | some row =>
      if (row.version : Int) = expectedVersion then
        .ok ((), { s with compensations := s.compensations.replace compensation })
      else .error (.concurrencyConflictError "compensation version conflict")

end CompensationRepository

namespace CompensationAttemptRepository

def insert (attempt : CompensationAttempt) : Uow Unit := fun s =>
  match s.compensationAttempts.insert? attempt with
  | none => .error (.duplicateKeyError "duplicate_compensation_attempt_id")
  | some compensationAttempts =>
    if (s.compensationAttemptsOf attempt.compensationId).any fun row =>
        decide (row.attemptNumber = attempt.attemptNumber) then
      .error (.duplicateKeyError "duplicate_compensation_attempt_number")
    else .ok ((), { s with compensationAttempts })

def completedRow (row attempt : CompensationAttempt) : CompensationAttempt :=
  { row with
    state := attempt.state
    completedAt := attempt.completedAt
    providerIdempotencyKey := attempt.providerIdempotencyKey
    externalOperationId := attempt.externalOperationId
    outcome := attempt.outcome
    evidence := attempt.evidence
    error := attempt.error
    lifecycle := attempt.lifecycle }

def complete (attempt : CompensationAttempt) : Uow Unit := fun s =>
  if attempt.state ≠ .completed then
    .error (.persistenceError "attempt_not_started")
  else
    match s.compensationAttempt? attempt.compensationAttemptId with
    | none => .error (.persistenceError "attempt_not_started")
    | some row =>
      if row.state = .started then
        .ok ((), { s with
          compensationAttempts := s.compensationAttempts.replace (completedRow row attempt) })
      else .error (.persistenceError "attempt_not_started")

end CompensationAttemptRepository

namespace AuditRepository

def append (event : AuditEvent) : Uow Unit := fun s =>
  match s.auditEvents.insert? event with
  | none => .error (.duplicateKeyError "duplicate_audit_event_id")
  | some auditEvents =>
    if (s.auditEventsOf event.operationId).any fun row =>
        decide (row.sequence = event.sequence) then
      .error (.duplicateKeyError "duplicate_audit_sequence")
    else .ok ((), { s with auditEvents })

end AuditRepository

namespace OutboxRepository

def insert (event : OutboxEvent) : Uow Unit := fun s =>
  match s.outboxEvents.insert? event with
  | some outboxEvents => .ok ((), { s with outboxEvents })
  | none => .error (.duplicateKeyError "duplicate_outbox_event_id")

def publishedRow (row : OutboxEvent) (publishedAt : UtcTimestamp) : OutboxEvent :=
  { row with state := .published, publishedAt := some publishedAt }

def markPublished (eventId : OpaqueId) (publishedAt : UtcTimestamp) : Uow Unit := fun s =>
  match s.outboxEvents.find? eventId with
  | none => .error (.notFoundError "outbox event not found")
  | some row =>
    match row.state with
    | .published => .ok ((), s)
    | .pending =>
      .ok ((), { s with outboxEvents := s.outboxEvents.replace (publishedRow row publishedAt) })

end OutboxRepository

namespace ReconciliationRepository

def insert (stored : StoredReconciliationDecision) : Uow Unit := fun s =>
  match s.reconciliationDecisions.insert? stored with
  | some reconciliationDecisions => .ok ((), { s with reconciliationDecisions })
  | none => .error (.duplicateKeyError "duplicate_reconciliation_decision_id")

end ReconciliationRepository

end Stateback.Persistence
