import Stateback.Transitions.Preconditions
/-!
# The transition service

`src/stateback/transitions/service.py` with `mutate.py` and `audit.py`: the single writer of
operation state.  Each method is one unit of work body; `_rejected` and `_already` answer
without writing, exceptions undo the whole unit.
-/

namespace Stateback.Transitions

open Stateback.Domain Stateback.Persistence KeyedTable Transaction

inductive TransitionOutcome where
  | applied
  | alreadyApplied
  | rejected
deriving DecidableEq, Repr

inductive CommandKind where
  | transition (kind : TransitionKind)
  | progress (kind : CompensationProgressKind)
deriving DecidableEq, Repr

structure TransitionResult where
  outcome : TransitionOutcome
  reasonCode : String
  kind : CommandKind
  operation : Option Operation
  compensation : Option Compensation
  auditEvents : List AuditEvent
  outboxEvent : Option OutboxEvent
  fromState : Option OperationState
  toState : Option OperationState
  operationVersion : Option Nat
deriving DecidableEq, Repr

def rejected (kind : CommandKind) (reasonCode : String) (operation : Option Operation)
    (fromState toState : Option OperationState) (operationVersion : Option Nat)
    (compensation : Option Compensation) : TransitionResult where
  outcome := .rejected
  reasonCode := reasonCode
  kind := kind
  operation := operation
  compensation := compensation
  auditEvents := []
  outboxEvent := none
  fromState := fromState
  toState := toState
  operationVersion := operationVersion

def already (kind : CommandKind) (operation : Operation)
    (fromState toState : Option OperationState) (operationVersion : Nat)
    (compensation : Option Compensation) : TransitionResult where
  outcome := .alreadyApplied
  reasonCode := "already_applied"
  kind := kind
  operation := some operation
  compensation := compensation
  auditEvents := []
  outboxEvent := none
  fromState := fromState
  toState := toState
  operationVersion := some operationVersion

/-! ## Record construction -/

/-- The pointers `_replace_for_kind` passes on; `none` is `UNCHANGED`. -/
structure PointerUpdate where
  currentPolicyDecisionId : Option OpaqueId
  currentApprovalId : Option OpaqueId
  latestAttemptId : Option OpaqueId
  latestVerificationId : Option OpaqueId
  compensationId : Option OpaqueId

def PointerUpdate.unchanged : PointerUpdate := ⟨none, none, none, none, none⟩

/-- The copy raises when the clock reads before the record's creation. -/
def replaceOperation (operation : Operation) (state : OperationState) (version : Nat)
    (updatedAt : UtcTimestamp) (pointers : PointerUpdate) : Uow Operation :=
  if updatedAt.value < operation.createdAt.value then
    throw (.contractValidationError "invalid_timestamp")
  else
    pure { operation with
      state := state
      version := version
      updatedAt := updatedAt
      currentPolicyDecisionId :=
        pointers.currentPolicyDecisionId <|> operation.currentPolicyDecisionId
      currentApprovalId := pointers.currentApprovalId <|> operation.currentApprovalId
      latestAttemptId := pointers.latestAttemptId <|> operation.latestAttemptId
      latestVerificationId := pointers.latestVerificationId <|> operation.latestVerificationId
      compensationId := pointers.compensationId <|> operation.compensationId }

def replaceCompensation (compensation : Compensation) (state : CompensationState)
    (version : Nat) (updatedAt : UtcTimestamp) : Uow Compensation :=
  if updatedAt.value < compensation.createdAt.value then
    throw (.contractValidationError "invalid_timestamp")
  else
    pure { compensation with state := state, version := version, updatedAt := updatedAt }

/-- `ALLOWED_AUDIT_DATA_KEYS`. -/
def allowedAuditDataKeys : List String :=
  ["kind", "policy_decision_id", "approval_id", "attempt_id", "verification_id",
   "compensation_id", "compensation_attempt_id", "reconciliation_decision_id",
   "effect_outcome", "retry_safety_reason", "crash_interpretation"]

def auditData (pairs : List (String × Option String)) : JsonValue :=
  jsonObjectFromPlain <| pairs.filterMap fun pair =>
    match pair.2 with
    | none => none
    | some value => if pair.1 ∈ allowedAuditDataKeys then some (pair.1, .str value) else none

def buildOutboxEvent (eventId operationId : OpaqueId) (operationVersion : Nat)
    (command : WorkCommand) (createdAt : UtcTimestamp) (correlationId : Option String) :
    OutboxEvent where
  contractVersion := contractVersion
  eventId := eventId
  state := .pending
  aggregateType := "operation"
  aggregateId := operationId
  operationVersion := operationVersion
  command := command
  createdAt := createdAt
  publishedAt := none
  correlationId := correlationId

/-- Appends events in order, one row each. -/
def appendAll : List AuditEvent → Uow Unit
  | [] => pure ()
  | event :: rest => do
    AuditRepository.append event
    appendAll rest

/-! ## Creation -/

def createdEvent (command : CreateOperation) : AuditEvent where
  contractVersion := contractVersion
  auditEventId := command.createdAuditEventId
  operationId := command.operation.operationId
  sequence := initialAuditSequence
  eventType := .operationCreated
  fromState := none
  toState := some .pendingPolicy
  operationVersion := initialOperationVersion
  actor := command.actor
  reasonCode := command.reasonCode
  data := auditData [("kind", some TransitionKind.createOperation.value)]
  correlationId := command.correlationId
  createdAt := command.occurredAt

/-- The writes of an accepted creation. -/
def insertCreated (command : CreateOperation) : Uow TransitionResult := do
  OperationRepository.insert command.operation
  appendAll [createdEvent command]
  pure
    { outcome := .applied
      reasonCode := "applied"
      kind := .transition .createOperation
      operation := some command.operation
      compensation := none
      auditEvents := [createdEvent command]
      outboxEvent := none
      fromState := none
      toState := some .pendingPolicy
      operationVersion := some initialOperationVersion }

def applyCreate (command : CreateOperation) : Uow TransitionResult := fun s =>
  let operation := command.operation
  let kind := CommandKind.transition .createOperation
  if operation.state ≠ .pendingPolicy then
    .ok (rejected kind "create_requires_pending_policy" none none (some .pendingPolicy) none
      none, s)
  else if operation.version ≠ initialOperationVersion then
    .ok (rejected kind "create_requires_version_1" none none (some .pendingPolicy)
      (some operation.version) none, s)
  else if operation.createdAt ≠ command.occurredAt ∨ operation.updatedAt ≠ command.occurredAt then
    .error (.valueError "create timestamps must equal occurred_at")
  else if !evaluateOperationTransition none .pendingPolicy then
    .ok (rejected kind "unlisted_operation_transition" none none (some .pendingPolicy) none none, s)
  else
    match s.operation? operation.operationId with
    | some existing =>
      if existing.state = .pendingPolicy ∧ existing.version = initialOperationVersion ∧
          existing.intent.intentDigest = operation.intent.intentDigest then
        .ok (already kind existing none (some .pendingPolicy) existing.version none, s)
      else if existing.intent.intentDigest ≠ operation.intent.intentDigest then
        .ok (rejected kind "intent_conflict" (some existing) (some existing.state)
          (some .pendingPolicy) (some existing.version) none, s)
      else
        .ok (rejected kind "operation_id_reused" (some existing) (some existing.state)
          (some .pendingPolicy) (some existing.version) none, s)
    | none =>
      match s.operations.rows.find? fun row =>
          decide (row.idempotencyIdentity = operation.idempotencyIdentity) with
      | some other =>
        -- the source also asks `other.operation_id != operation.operation_id`, true here
        .ok (rejected kind "intent_conflict" (some other) (some other.state)
          (some .pendingPolicy) (some other.version) none, s)
      | none =>
        insertCreated command s

/-! ## Operation transitions -/

def loadRelated (s : Store) (command : OperationCommand) (operation : Operation) :
    RelatedRecords :=
  let compensation := operation.compensationId.bind s.compensation?
  let compensationAttempts :=
    match compensation with
    | none => []
    | some compensation => s.listCompensationAttempts compensation.compensationId
  { existingApproval := command.body.approval?.bind fun approval => s.approval? approval.approvalId
    attempts := s.listAttempts operation.operationId
    loadedAttempt := operation.latestAttemptId.bind s.attempt?
    existingVerificationResult :=
      (operation.latestVerificationId.bind s.verification?).bind (·.2)
    compensation := compensation
    compensationAttempts := compensationAttempts
    loadedCompensationAttempt := compensationAttempts.getLast?
    existingCompensationVerification :=
      command.body.compensationVerificationResult?.bind fun result =>
        s.verification? result.verificationId }

/-- The attempt completion an execution result still has to write: the loaded attempt is
STARTED, so its evidence was not persisted on its own before. -/
def attemptToComplete (command : OperationCommand) (related : RelatedRecords) :
    Option ExecutionAttempt :=
  match command.body.completedAttempt?, related.loadedAttempt with
  | some completed, some loaded => if loaded.state = .started then some completed else none
  | _, _ => none

def resultToComplete (command : OperationCommand) (related : RelatedRecords) :
    Option VerificationResult :=
  match command.body.verificationResult?, related.existingVerificationResult with
  | some result, none => some result
  | _, _ => none

def compensationAttemptToComplete (command : OperationCommand) (related : RelatedRecords) :
    Option CompensationAttempt :=
  match command.body.completedCompensationAttempt?, related.loadedCompensationAttempt with
  | some completed, some loaded => if loaded.state = .started then some completed else none
  | _, _ => none

def compensationResultToComplete (command : OperationCommand) (related : RelatedRecords) :
    Option VerificationResult :=
  match command.body.compensationVerificationResult?,
      related.existingCompensationVerification with
  | some result, some (_, none) => some result
  | _, _ => none

/-- The record a transition moves: the one it inserts, or the operation's own. -/
def movedCompensation (command : OperationCommand) (related : RelatedRecords) :
    Option Compensation :=
  command.body.startedCompensation? <|> related.compensation

/-- Moves the compensation record for the kinds in `COMPENSATION_TARGET_STATE`. -/
def moveCompensation (command : OperationCommand) (related : RelatedRecords) :
    Uow (Option Compensation) := do
  match compensationTargetState? command.kind, movedCompensation command related with
  | some newState, some compensation =>
    let newCompensation ← replaceCompensation compensation newState
      (nextVersion compensation.version) command.occurredAt
    CompensationRepository.updateCas compensation.version newCompensation
    pure (some newCompensation)
  | _, compensation => pure compensation

/-- `_write_related`: each row around the operation is written only when the command carries
it, then the compensation record moves. -/
def writeRelated (command : OperationCommand) (related : RelatedRecords) :
    Uow (Option Compensation) := do
  whenSome command.body.policyDecision? PolicyDecisionRepository.insert
  whenSome command.body.requestedApproval? ApprovalRepository.insert
  whenSome command.body.decidedApproval? (ApprovalRepository.updateCasState · .pending)
  whenSome command.body.claimedAttempt? AttemptRepository.insert
  whenSome (attemptToComplete command related) AttemptRepository.complete
  whenSome command.body.verificationRequest? VerificationRepository.insertRequest
  whenSome (resultToComplete command related) VerificationRepository.complete
  whenSome command.body.reconciliation? ReconciliationRepository.insert
  whenSome command.body.startedCompensation? CompensationRepository.insert
  whenSome (compensationAttemptToComplete command related)
    CompensationAttemptRepository.complete
  whenSome (compensationResultToComplete command related) VerificationRepository.complete
  moveCompensation command related

def pointersForKind (body : CommandBody) : PointerUpdate where
  currentPolicyDecisionId := body.policyDecision?.map (·.policyDecisionId)
  currentApprovalId := body.approval?.map (·.approvalId)
  latestAttemptId := body.claimedAttempt?.map (·.attemptId)
  latestVerificationId := body.verificationRequest?.map (·.verificationId)
  compensationId := body.startedCompensation?.map (·.compensationId)

/-- The events `_append_audits` adds before the transition event, in its order. -/
def detailEntries (command : OperationCommand) (loaded : Operation) (related : RelatedRecords) :
    List (OpaqueId × AuditEventType × JsonValue) :=
  let kind := ("kind", some command.kind.value)
  match command.body with
  | .policyAllow policyDecision policyAuditEventId _ =>
    [(policyAuditEventId, .policyEvaluated,
      auditData [kind, ("policy_decision_id", some policyDecision.policyDecisionId.value)])]
  | .policyDeny policyDecision policyAuditEventId =>
    [(policyAuditEventId, .policyEvaluated,
      auditData [kind, ("policy_decision_id", some policyDecision.policyDecisionId.value)])]
  | .policyRequireApproval policyDecision approval policyAuditEventId approvalAuditEventId =>
    [(policyAuditEventId, .policyEvaluated,
      auditData [kind, ("policy_decision_id", some policyDecision.policyDecisionId.value)]),
     (approvalAuditEventId, .approvalRequested,
      auditData [kind, ("approval_id", some approval.approvalId.value),
        ("policy_decision_id", some policyDecision.policyDecisionId.value)])]
  | .approvalGrant approval approvalAuditEventId _ =>
    [(approvalAuditEventId, .approvalDecided,
      auditData [kind, ("approval_id", some approval.approvalId.value)])]
  | .approvalReject approval approvalAuditEventId =>
    [(approvalAuditEventId, .approvalDecided,
      auditData [kind, ("approval_id", some approval.approvalId.value)])]
  | .claimExecution attempt attemptAuditEventId =>
    [(attemptAuditEventId, .executionAttemptStarted,
      auditData [kind, ("attempt_id", some attempt.attemptId.value)])]
  | .executionApplied completed evidenceAuditEventId =>
    [(evidenceAuditEventId, .executionEvidenceRecorded, evidenceData kind (some completed))]
  | .executionRequireVerification completed request evidenceAuditEventId
      verificationAuditEventId _ =>
    [(evidenceAuditEventId, .executionEvidenceRecorded, evidenceData kind (some completed)),
     (verificationAuditEventId, .verificationStarted,
      auditData [kind, ("verification_id", some request.verificationId.value)])]
  | .executionNotAppliedRetry completed _ evidenceAuditEventId _ _ =>
    [(evidenceAuditEventId, .executionEvidenceRecorded, evidenceData kind (some completed))]
  | .executionNotAppliedFail completed evidenceAuditEventId =>
    [(evidenceAuditEventId, .executionEvidenceRecorded, evidenceData kind (some completed))]
  | .executionUnknown completed evidenceAuditEventId _ =>
    [(evidenceAuditEventId, .executionEvidenceRecorded, evidenceData kind completed)]
  | .verificationApplied result verificationAuditEventId =>
    [(verificationAuditEventId, .verificationCompleted, resultData kind result)]
  | .verificationNotAppliedRetry result _ verificationAuditEventId _ _ =>
    [(verificationAuditEventId, .verificationCompleted, resultData kind result)]
  | .verificationNotAppliedFail result verificationAuditEventId =>
    [(verificationAuditEventId, .verificationCompleted, resultData kind result)]
  | .verificationInconclusive result verificationAuditEventId =>
    [(verificationAuditEventId, .verificationCompleted, resultData kind result)]
  | .unknownStartVerification request verificationAuditEventId _ =>
    [(verificationAuditEventId, .verificationStarted,
      auditData [kind, ("verification_id", some request.verificationId.value)])]
  | .unknownReconcileApplied reconciliation reconciliationAuditEventId =>
    [(reconciliationAuditEventId, .reconciliationDecided,
      auditData [kind, ("reconciliation_decision_id",
        some reconciliation.reconciliationDecisionId.value)])]
  | .unknownReconcileNotApplied reconciliation reconciliationAuditEventId =>
    [(reconciliationAuditEventId, .reconciliationDecided,
      auditData [kind, ("reconciliation_decision_id",
        some reconciliation.reconciliationDecisionId.value)])]
  | .succeededStartCompensation compensation compensationAuditEventId _ =>
    [(compensationAuditEventId, .compensationRequested,
      auditData [kind, ("compensation_id", some compensation.compensationId.value)])]
  | .failedStartCompensation compensation compensationAuditEventId _ =>
    [(compensationAuditEventId, .compensationRequested,
      auditData [kind, ("compensation_id", some compensation.compensationId.value)])]
  | .compensationApplied completed resultAuditEventId _ =>
    [(resultAuditEventId, .compensationResult, compensationData kind (some completed))]
  | .compensationOutcomeUnknown completed resultAuditEventId _ _ =>
    [(resultAuditEventId, .compensationResult, compensationData kind completed)]
  | .compensationOutcomeFailed completed resultAuditEventId _ =>
    [(resultAuditEventId, .compensationResult, compensationData kind (some completed))]
  | .manualStartVerification request operatorAuditEventId verificationAuditEventId _ =>
    [(operatorAuditEventId, .operatorAction, auditData [kind]),
     (verificationAuditEventId, .verificationStarted,
      auditData [kind, ("verification_id", some request.verificationId.value)])]
  | .manualStartCompensation compensation operatorAuditEventId compensationAuditEventId _ =>
    [(operatorAuditEventId, .operatorAction, auditData [kind]),
     (compensationAuditEventId, .compensationRequested,
      auditData [kind, ("compensation_id", some compensation.compensationId.value)])]
  | .manualSafeRetry _ _ _ operatorAuditEventId _ _ =>
    [(operatorAuditEventId, .operatorAction, auditData [kind])]
  | .verificationEscalate _ manualAuditEventId =>
    [(manualAuditEventId, .manualInterventionReason, auditData [kind])]
  | .unknownSafeRetry .. => []
  | .unknownEscalate manualAuditEventId =>
    [(manualAuditEventId, .manualInterventionReason, auditData [kind])]
  | .compensationEscalate manualAuditEventId _ =>
    [(manualAuditEventId, .manualInterventionReason, auditData [kind])]
  | .compensationUnknownEscalate manualAuditEventId _ =>
    [(manualAuditEventId, .manualInterventionReason, auditData [kind])]
  | .compensationFailedEscalate manualAuditEventId =>
    [(manualAuditEventId, .manualInterventionReason, auditData [kind])]
  | .cancelPendingPolicy => []
  | .cancelAwaitingApproval _ => []
  | .cancelReady => []
  | .readyMessagingRecoveryExhausted => []
  | .executionMessagingRecoveryExhausted => []
  | .compensationUnknownRetry _ => []
  | .compensationUnknownApplied _ _ => []
  | .compensationUnknownFailed _ _ => []
  | .compensationFailedRetry _ => []
where
  /-- With no completed attempt the event records the crash interpretation instead. -/
  evidenceData (kind : String × Option String) : Option ExecutionAttempt → JsonValue
    | some completed =>
      auditData [kind, ("attempt_id", some completed.attemptId.value),
        ("effect_outcome", completed.outcome.map (·.value)), ("crash_interpretation", none)]
    | none =>
      auditData [kind, ("attempt_id", related.loadedAttempt.map (·.attemptId.value)),
        ("effect_outcome", none),
        ("crash_interpretation",
          some (interpretExecutionCrash .executing (some .started)).interpretation.value)]
  resultData (kind : String × Option String) (result : VerificationResult) : JsonValue :=
    auditData [kind, ("verification_id", some result.verificationId.value),
      ("effect_outcome", some result.outcome.value)]
  compensationData (kind : String × Option String)
      (attempt : Option CompensationAttempt) : JsonValue :=
    auditData [kind, ("compensation_id", loaded.compensationId.map (·.value)),
      ("compensation_attempt_id", attempt.map (·.compensationAttemptId.value)),
      ("effect_outcome", (attempt.bind (·.outcome)).map (·.value))]

/-- The data of the transition event itself. -/
def transitionData (command : OperationCommand) : JsonValue :=
  let kind := ("kind", some command.kind.value)
  match command.body with
  | .cancelAwaitingApproval approval =>
    auditData [kind, ("approval_id", some approval.approvalId.value)]
  | _ => auditData [kind]

/-- Consecutive sequence numbers from `sequence` on, all other columns from the command. -/
def numberEvents (command : OperationCommand) (operationId : OpaqueId) (version : Nat) :
    Nat → List (OpaqueId × AuditEventType × JsonValue) → List AuditEvent
  | _, [] => []
  | sequence, (auditEventId, eventType, data) :: rest =>
    { contractVersion := contractVersion
      auditEventId := auditEventId
      operationId := operationId
      sequence := sequence
      eventType := eventType
      fromState := command.kind.edge.1
      toState := some command.kind.edge.2
      operationVersion := version
      actor := command.actor
      reasonCode := command.reasonCode
      data := data
      correlationId := command.correlationId
      createdAt := command.occurredAt } ::
      numberEvents command operationId version (sequence + 1) rest

def auditEventsFor (s : Store) (command : OperationCommand) (loaded newOperation : Operation)
    (related : RelatedRecords) : List AuditEvent :=
  numberEvents command loaded.operationId newOperation.version
    (s.nextSequence loaded.operationId)
    (detailEntries command loaded related ++
      [(command.transitionAuditEventId, .operationTransitioned, transitionData command)])

def appendAudits (command : OperationCommand) (loaded newOperation : Operation)
    (related : RelatedRecords) : Uow (List AuditEvent) := do
  let s ← get
  let events := auditEventsFor s command loaded newOperation related
  appendAll events
  pure events

def insertOutbox (command : OperationCommand) (newOperation : Operation) :
    Uow (Option OutboxEvent) := do
  match command.kind.outboxCommand?, command.body.outboxEventId? with
  | some mapped, some eventId =>
    let event := buildOutboxEvent eventId newOperation.operationId newOperation.version mapped
      command.occurredAt command.correlationId
    OutboxRepository.insert event
    pure (some event)
  | _, _ => pure none

/-- The writes of an accepted command, after its preconditions. -/
def commitOperation (command : OperationCommand) (loaded : Operation)
    (related : RelatedRecords) : Uow TransitionResult := do
  let newCompensation ← writeRelated command related
  let newOperation ← replaceOperation loaded command.kind.edge.2 (nextVersion loaded.version)
    command.occurredAt (pointersForKind command.body)
  OperationRepository.updateCas command.expectedVersion newOperation
  let audits ← appendAudits command loaded newOperation related
  let outbox ← insertOutbox command newOperation
  pure
    { outcome := .applied
      reasonCode := "applied"
      kind := .transition command.kind
      operation := some newOperation
      compensation := newCompensation
      auditEvents := audits
      outboxEvent := outbox
      fromState := command.kind.edge.1
      toState := some command.kind.edge.2
      operationVersion := some (nextVersion loaded.version) }

def applyOperation (command : OperationCommand) : Uow TransitionResult := fun s =>
  let kind := CommandKind.transition command.kind
  let source := command.kind.edge.1
  let target := command.kind.edge.2
  match s.operation? command.operationId with
  | none => .error (.notFoundError "operation not found")
  | some loaded =>
    let reject (reasonCode : String) (compensation : Option Compensation) : TransitionResult :=
      rejected kind reasonCode (some loaded) (some loaded.state) (some target)
        (some loaded.version) compensation
    if (loaded.version : Int) = command.expectedVersion + 1 then
      if loaded.state = target then
        .ok (already kind loaded source (some target) loaded.version none, s)
      else .ok (reject "idempotent_mismatch" none, s)
    else if (loaded.version : Int) ≠ command.expectedVersion then
      .error (.concurrencyConflictError "stale operation version")
    else if some loaded.state ≠ source then .ok (reject "source_state_mismatch" none, s)
    else if loaded.state.isAbsoluteTerminal then .ok (reject "absolute_terminal" none, s)
    else if !evaluateOperationTransition (some loaded.state) target then
      .ok (reject "unlisted_operation_transition" none, s)
    else
      let related := loadRelated s command loaded
      match evaluatePreconditions command loaded related with
      | some reason => .ok (reject reason related.compensation, s)
      | none => commitOperation command loaded related s

/-! ## Compensation progress -/

def rejectedProgress (progress : CompensationProgressKind) (loaded : Operation)
    (compensation : Compensation) (reasonCode : String) : TransitionResult :=
  rejected (.progress progress) reasonCode (some loaded) (some loaded.state)
    (some loaded.state) (some loaded.version) (some compensation)

/-- The loads and guards the four compensation-progress methods begin with: the operation is
there, at the expected version and COMPENSATING, and the named record exists and is its own. -/
def withCompensation (progress : CompensationProgressKind) (operationId : OpaqueId)
    (expectedOperationVersion : Int) (compensationId : OpaqueId)
    (next : Operation → Compensation → Uow TransitionResult) : Uow TransitionResult := fun s =>
  let kind := CommandKind.progress progress
  match s.operation? operationId with
  | none => .error (.notFoundError "operation not found")
  | some loaded =>
    if (loaded.version : Int) ≠ expectedOperationVersion then
      .error (.concurrencyConflictError "stale operation version")
    else if loaded.state ≠ .compensating then
      .ok (rejected kind "source_state_mismatch" (some loaded) (some loaded.state)
        (some .compensating) (some loaded.version) none, s)
    else
      match s.compensation? compensationId with
      | none =>
        .ok (rejected kind "compensation_missing" (some loaded) (some loaded.state)
          (some loaded.state) (some loaded.version) none, s)
      | some compensation =>
        if compensation.originalOperationId ≠ loaded.operationId then
          .ok (rejectedProgress progress loaded compensation "compensation_parent_inconsistent", s)
        else next loaded compensation s

def alreadyProgress (progress : CompensationProgressKind) (loaded : Operation)
    (compensation : Compensation) : TransitionResult :=
  already (.progress progress) loaded (some loaded.state) (some loaded.state) loaded.version
    (some compensation)

def appliedProgress (progress : CompensationProgressKind) (loaded : Operation)
    (compensation : Compensation) (auditEvents : List AuditEvent)
    (outboxEvent : Option OutboxEvent) : TransitionResult where
  outcome := .applied
  reasonCode := "applied"
  kind := .progress progress
  operation := some loaded
  compensation := some compensation
  auditEvents := auditEvents
  outboxEvent := outboxEvent
  fromState := some .compensating
  toState := some .compensating
  operationVersion := some loaded.version

/-- An event of a progress command: it stays within COMPENSATING and moves no version. -/
def progressEvent (loaded : Operation) (sequence : Nat) (auditEventId : OpaqueId)
    (eventType : AuditEventType) (actor : Option PrincipalRef) (reasonCode : String)
    (data : JsonValue) (correlationId : Option String) (createdAt : UtcTimestamp) :
    AuditEvent where
  contractVersion := contractVersion
  auditEventId := auditEventId
  operationId := loaded.operationId
  sequence := sequence
  eventType := eventType
  fromState := some .compensating
  toState := some .compensating
  operationVersion := loaded.version
  actor := actor
  reasonCode := reasonCode
  data := data
  correlationId := correlationId
  createdAt := createdAt

def attemptedData (progress : CompensationProgressKind) (compensation : Compensation)
    (attempt : CompensationAttempt) : JsonValue :=
  auditData [("kind", some progress.value),
    ("compensation_id", some compensation.compensationId.value),
    ("compensation_attempt_id", some attempt.compensationAttemptId.value)]

/-- The writes both plain attempt claims share: the attempt, the record moved to EXECUTING,
and one audit event. -/
def commitClaim (progress : CompensationProgressKind) (loaded : Operation)
    (compensation : Compensation) (expectedCompensationVersion : Int)
    (attempt : CompensationAttempt) (occurredAt : UtcTimestamp) (actor : Option PrincipalRef)
    (correlationId : Option String) (reasonCode : String) (attemptAuditEventId : OpaqueId) :
    Uow TransitionResult := do
  CompensationAttemptRepository.insert attempt
  let newCompensation ← replaceCompensation compensation .executing
    (nextVersion compensation.version) occurredAt
  CompensationRepository.updateCas expectedCompensationVersion newCompensation
  let s ← get
  let attempted := progressEvent loaded (s.nextSequence loaded.operationId) attemptAuditEventId
    .compensationAttempted actor reasonCode (attemptedData progress compensation attempt)
    correlationId occurredAt
  appendAll [attempted]
  pure (appliedProgress progress loaded newCompensation [attempted] none)

def applyClaimCompensation (command : ClaimCompensationExecution) : Uow TransitionResult :=
  let progress := CompensationProgressKind.claimCompensationExecution
  withCompensation progress command.operationId command.expectedOperationVersion
    command.compensationId fun loaded compensation s =>
      if compensation.state = .executing ∧
          (compensation.version : Int) = command.expectedCompensationVersion + 1 then
        .ok (alreadyProgress progress loaded compensation, s)
      else if (compensation.version : Int) ≠ command.expectedCompensationVersion then
        .error (.concurrencyConflictError "stale compensation version")
      else
        match evaluateClaimCompensationPreconditions command loaded compensation
            (s.listCompensationAttempts compensation.compensationId) with
        | some reason => .ok (rejectedProgress progress loaded compensation reason, s)
        | none =>
          commitClaim progress loaded compensation command.expectedCompensationVersion
            command.attempt command.occurredAt command.actor command.correlationId
            command.reasonCode command.attemptAuditEventId s

/-- The version-one-ahead branch of both retry claims: the same attempt already STARTED. -/
def replayRetry (progress : CompensationProgressKind) (s : Store) (loaded : Operation)
    (compensation : Compensation) (attempt : CompensationAttempt) : TransitionResult :=
  match (s.listCompensationAttempts compensation.compensationId).getLast? with
  | none => rejectedProgress progress loaded compensation "idempotent_mismatch"
  | some latest =>
    if latest.state = .started ∧
        latest.compensationAttemptId = attempt.compensationAttemptId then
      alreadyProgress progress loaded compensation
    else rejectedProgress progress loaded compensation "idempotent_mismatch"

def applyClaimCompensationRetryAttempt (command : ClaimCompensationRetryAttempt) :
    Uow TransitionResult :=
  let progress := CompensationProgressKind.claimCompensationRetryAttempt
  withCompensation progress command.operationId command.expectedOperationVersion
    command.compensationId fun loaded compensation s =>
      if (compensation.version : Int) = command.expectedCompensationVersion + 1 then
        .ok (replayRetry progress s loaded compensation command.attempt, s)
      else if (compensation.version : Int) ≠ command.expectedCompensationVersion then
        .error (.concurrencyConflictError "stale compensation version")
      else
        match evaluateClaimCompensationRetryAttemptPreconditions command loaded compensation
            (s.listCompensationAttempts compensation.compensationId) with
        | some reason => .ok (rejectedProgress progress loaded compensation reason, s)
        | none =>
          commitClaim progress loaded compensation command.expectedCompensationVersion
            command.attempt command.occurredAt command.actor command.correlationId
            command.reasonCode command.attemptAuditEventId s

/-- The completion `StartCompensationVerification` still has to write. -/
def startVerificationCompletion (command : StartCompensationVerification)
    (loadedAttempt : Option CompensationAttempt) : Option CompensationAttempt :=
  match command.completedCompensationAttempt, loadedAttempt with
  | some completed, some loadedAttempt =>
    if loadedAttempt.state = .started then some completed else none
  | _, _ => none

/-- A result event when the command completes an attempt (its id is then required), an attempt
event otherwise. -/
def startVerificationEvent? (command : StartCompensationVerification) (loaded : Operation)
    (compensation : Compensation) (sequence : Nat) : Option AuditEvent :=
  let progress := CompensationProgressKind.startCompensationVerification
  match command.completedCompensationAttempt with
  | some completed =>
    command.attemptAuditEventId.map fun attemptAuditEventId =>
      progressEvent loaded sequence attemptAuditEventId .compensationResult command.actor
        command.reasonCode
        (auditData [("kind", some progress.value),
          ("compensation_id", some compensation.compensationId.value),
          ("compensation_attempt_id", some completed.compensationAttemptId.value),
          ("effect_outcome", completed.outcome.map (·.value))])
        command.correlationId command.occurredAt
  | none =>
    some <| progressEvent loaded sequence command.verificationAuditEventId
      .compensationAttempted command.actor command.reasonCode
      (auditData [("kind", some progress.value),
        ("compensation_id", some compensation.compensationId.value),
        ("verification_id", some command.verificationRequest.verificationId.value)])
      command.correlationId command.occurredAt

def commitStartVerification (command : StartCompensationVerification) (loaded : Operation)
    (compensation : Compensation) (loadedAttempt : Option CompensationAttempt) :
    Uow TransitionResult := do
  whenSome (startVerificationCompletion command loadedAttempt)
    CompensationAttemptRepository.complete
  VerificationRepository.insertRequest command.verificationRequest
  let newCompensation ← replaceCompensation compensation .verifying
    (nextVersion compensation.version) command.occurredAt
  CompensationRepository.updateCas command.expectedCompensationVersion newCompensation
  let s ← get
  let event ← requireSome
    (startVerificationEvent? command loaded compensation (s.nextSequence loaded.operationId))
    (.valueError "attempt_audit_event_id is required when completing an attempt")
  appendAll [event]
  let outboxEvent := buildOutboxEvent command.outboxEventId loaded.operationId loaded.version
    .verify command.occurredAt command.correlationId
  OutboxRepository.insert outboxEvent
  pure (appliedProgress .startCompensationVerification loaded newCompensation [event]
    (some outboxEvent))

def applyStartCompensationVerification (command : StartCompensationVerification) :
    Uow TransitionResult :=
  let progress := CompensationProgressKind.startCompensationVerification
  withCompensation progress command.operationId command.expectedOperationVersion
    command.compensationId fun loaded compensation s =>
      if (compensation.version : Int) = command.expectedCompensationVersion + 1 then
        if compensation.state = .verifying then
          .ok (alreadyProgress progress loaded compensation, s)
        else .ok (rejectedProgress progress loaded compensation "idempotent_mismatch", s)
      else if (compensation.version : Int) ≠ command.expectedCompensationVersion then
        .error (.concurrencyConflictError "stale compensation version")
      else
        let loadedAttempt := (s.listCompensationAttempts compensation.compensationId).getLast?
        match evaluateStartCompensationVerificationPreconditions command loaded compensation
            loadedAttempt with
        | some reason => .ok (rejectedProgress progress loaded compensation reason, s)
        | none => commitStartVerification command loaded compensation loadedAttempt s

/-- The result `RetryCompensationAfterVerification` still has to write. -/
def retryResultToComplete (command : RetryCompensationAfterVerification)
    (existing : Option VerificationRow) : Option VerificationResult :=
  match existing with
  | some (_, none) => some command.verificationResult
  | _ => none

def retryVerificationEvent (command : RetryCompensationAfterVerification) (loaded : Operation)
    (sequence : Nat) : AuditEvent :=
  progressEvent loaded sequence command.verificationAuditEventId .verificationCompleted
    command.actor command.reasonCode
    (auditData [("kind", some CompensationProgressKind.retryCompensationAfterVerification.value),
      ("verification_id", some command.verificationResult.verificationId.value),
      ("effect_outcome", some command.verificationResult.outcome.value)])
    command.correlationId command.occurredAt

def commitRetryAfterVerification (command : RetryCompensationAfterVerification)
    (loaded : Operation) (compensation : Compensation) (existing : Option VerificationRow) :
    Uow TransitionResult := do
  let progress := CompensationProgressKind.retryCompensationAfterVerification
  whenSome (retryResultToComplete command existing) VerificationRepository.complete
  CompensationAttemptRepository.insert command.attempt
  let newCompensation ← replaceCompensation compensation .executing
    (nextVersion compensation.version) command.occurredAt
  CompensationRepository.updateCas command.expectedCompensationVersion newCompensation
  let s ← get
  let sequence := s.nextSequence loaded.operationId
  let verificationEvent := retryVerificationEvent command loaded sequence
  let attempted := progressEvent loaded (sequence + 1) command.attemptAuditEventId
    .compensationAttempted command.actor command.reasonCode
    (attemptedData progress compensation command.attempt) command.correlationId
    command.occurredAt
  appendAll [verificationEvent, attempted]
  let outboxEvent := buildOutboxEvent command.outboxEventId loaded.operationId loaded.version
    .compensate command.occurredAt command.correlationId
  OutboxRepository.insert outboxEvent
  pure (appliedProgress progress loaded newCompensation [verificationEvent, attempted]
    (some outboxEvent))

def applyRetryCompensationAfterVerification (command : RetryCompensationAfterVerification) :
    Uow TransitionResult :=
  let progress := CompensationProgressKind.retryCompensationAfterVerification
  withCompensation progress command.operationId command.expectedOperationVersion
    command.compensationId fun loaded compensation s =>
      if (compensation.version : Int) = command.expectedCompensationVersion + 1 then
        .ok (replayRetry progress s loaded compensation command.attempt, s)
      else if (compensation.version : Int) ≠ command.expectedCompensationVersion then
        .error (.concurrencyConflictError "stale compensation version")
      else
        let existing := s.verification? command.verificationResult.verificationId
        match evaluateRetryCompensationAfterVerificationPreconditions command loaded compensation
            (s.listCompensationAttempts compensation.compensationId) existing with
        | some reason => .ok (rejectedProgress progress loaded compensation reason, s)
        | none => commitRetryAfterVerification command loaded compensation existing s

/-! ## Dispatch and messaging escalation -/

/-- `TransitionService.apply`. -/
def apply : TransitionCommand → Uow TransitionResult
  | .create command => applyCreate command
  | .operation command => applyOperation command
  | .claimCompensation command => applyClaimCompensation command
  | .startCompensationVerification command => applyStartCompensationVerification command
  | .claimCompensationRetryAttempt command => applyClaimCompensationRetryAttempt command
  | .retryCompensationAfterVerification command =>
    applyRetryCompensationAfterVerification command

/-- The kind an exhausted transport recovery is reported under, by current state. -/
def recoveryKind? : OperationState → Option TransitionKind
  | .ready => some .readyMessagingRecoveryExhausted
  | .executing => some .executionMessagingRecoveryExhausted
  | .verifying => some .verificationEscalate
  | .unknown => some .unknownEscalate
  | .compensating => some .compensationEscalate
  | .compensationUnknown => some .compensationUnknownEscalate
  | .compensationFailed => some .compensationFailedEscalate
  | _ => none

structure MessagingRecovery where
  operationId : OpaqueId
  expectedVersion : Int
  occurredAt : UtcTimestamp
  actor : PrincipalRef
  correlationId : Option String
  reasonCode : String
  transitionAuditEventId : OpaqueId
  command : WorkCommand
  maxRecoveries : Int
deriving DecidableEq, Repr

/-- The single event an escalation writes, in place of the kind's own reason event. -/
def escalationEvent (request : MessagingRecovery) (loaded : Operation) (sequence : Nat) :
    AuditEvent where
  contractVersion := contractVersion
  auditEventId := request.transitionAuditEventId
  operationId := loaded.operationId
  sequence := sequence
  eventType := .operationTransitioned
  fromState := some loaded.state
  toState := some .manualIntervention
  operationVersion := nextVersion loaded.version
  actor := some request.actor
  reasonCode := request.reasonCode
  data := jsonObjectFromPlain
    [("command", .str request.command.value),
     ("max_recoveries", .int request.maxRecoveries),
     ("operator_intervention_required", .bool true)]
  correlationId := request.correlationId
  createdAt := request.occurredAt

def commitEscalation (request : MessagingRecovery) (loaded : Operation)
    (kind : TransitionKind) : Uow TransitionResult := do
  let newOperation ← replaceOperation loaded .manualIntervention (nextVersion loaded.version)
    request.occurredAt .unchanged
  OperationRepository.updateCas request.expectedVersion newOperation
  let s ← get
  let event := escalationEvent request loaded (s.nextSequence loaded.operationId)
  appendAll [event]
  pure
    { outcome := .applied
      reasonCode := "applied"
      kind := .transition kind
      operation := some newOperation
      compensation := none
      auditEvents := [event]
      outboxEvent := none
      fromState := some loaded.state
      toState := some .manualIntervention
      operationVersion := some newOperation.version }

/-- Moves an operation whose work cannot be delivered to MANUAL_INTERVENTION, without the
preconditions or related records of the escalation commands. -/
def escalateMessagingRecovery (request : MessagingRecovery) : Uow TransitionResult := fun s =>
  match s.operation? request.operationId with
  | none => .error (.notFoundError "operation not found")
  | some loaded =>
    let target := OperationState.manualIntervention
    if (loaded.version : Int) ≠ request.expectedVersion then
      .error (.concurrencyConflictError "stale operation version")
    else
      match recoveryKind? loaded.state with
      | none =>
        .ok (rejected (.transition .readyMessagingRecoveryExhausted)
          "unsupported_messaging_recovery_state" (some loaded) (some loaded.state) (some target)
          (some loaded.version) none, s)
      | some kind =>
        if !evaluateOperationTransition (some loaded.state) target then
          .ok (rejected (.transition kind) "unlisted_operation_transition" (some loaded)
            (some loaded.state) (some target) (some loaded.version) none, s)
        else
          commitEscalation request loaded kind s

end Stateback.Transitions
