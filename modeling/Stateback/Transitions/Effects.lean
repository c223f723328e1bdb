import Stateback.Persistence.Writes
import Stateback.Transitions.Service
/-!
# What an applied command writes

The inversion lemmas of the transition service: for each method, the guards that held and, for
each table, how the committed table comes from the old one.  Invariants cite these and unfold
no method.
-/

namespace Stateback.Transitions

open Stateback.Domain Stateback.Persistence KeyedTable KeyedTable.Table Transaction

/-! ## Tables before and after -/

/-- A PENDING approval under the decided approval's id is overwritten. -/
def ApprovalDecided (approval? : Option Approval)
    (t t' : Table Approval.approvalId) : Prop :=
  match approval? with
  | none => t' = t
  | some approval =>
    ∃ row, t.find? approval.approvalId = some row ∧ row.state = .pending ∧
      t' = t.replace approval

def AttemptCompleted (completed? : Option ExecutionAttempt)
    (t t' : Table ExecutionAttempt.attemptId) : Prop :=
  match completed? with
  | none => t' = t
  | some completed =>
    completed.state = .completed ∧
      ∃ row accepted, t.find? completed.attemptId = some row ∧ row.state = .started ∧
        t' = t.replace (AttemptRepository.completedRow row completed accepted)

def ResultStored (result? : Option VerificationResult) (t t' : Table verificationKey) : Prop :=
  match result? with
  | none => t' = t
  | some result =>
    ∃ request, t.find? result.verificationId = some (request, none) ∧
      t' = t.replace (request, some result)

def CompensationAttemptCompleted (completed? : Option CompensationAttempt)
    (t t' : Table CompensationAttempt.compensationAttemptId) : Prop :=
  match completed? with
  | none => t' = t
  | some completed =>
    completed.state = .completed ∧
      ∃ row, t.find? completed.compensationAttemptId = some row ∧ row.state = .started ∧
        t' = t.replace (CompensationAttemptRepository.completedRow row completed)

/-- The record `replaceCompensation` builds. -/
def steppedCompensation (compensation : Compensation) (state : CompensationState)
    (updatedAt : UtcTimestamp) : Compensation :=
  { compensation with
    state := state
    version := nextVersion compensation.version
    updatedAt := updatedAt }

/-- The loaded record, still at its version, moves to `state`. -/
def CompensationStepped (compensation : Compensation) (state : CompensationState)
    (updatedAt : UtcTimestamp) (t t' : Table Compensation.compensationId) : Prop :=
  compensation.createdAt.value ≤ updatedAt.value ∧
    (∃ row, t.find? compensation.compensationId = some row ∧
      row.version = compensation.version) ∧
    t' = t.replace (steppedCompensation compensation state updatedAt)

/-- The compensation record moves for the kinds in `COMPENSATION_TARGET_STATE`. -/
def CompensationMoved (command : OperationCommand) (related : RelatedRecords)
    (t t' : Table Compensation.compensationId) : Prop :=
  match compensationTargetState? command.kind, movedCompensation command related with
  | some newState, some compensation =>
    CompensationStepped compensation newState command.occurredAt t t'
  | _, _ => t' = t

theorem replaceCompensation_ok {compensation new : Compensation} {state : CompensationState}
    {updatedAt : UtcTimestamp} {s s' : Store}
    (h : replaceCompensation compensation state (nextVersion compensation.version) updatedAt s =
      .ok (new, s')) :
    compensation.createdAt.value ≤ updatedAt.value ∧
      new = steppedCompensation compensation state updatedAt ∧ s' = s := by
  unfold replaceCompensation at h
  split at h
  · exact absurd h throw_ok
  next clock =>
    obtain ⟨rfl, rfl⟩ := pure_ok.mp h
    exact ⟨by omega, rfl, rfl⟩

/-- The operation `replaceOperation` builds. -/
def steppedOperation (operation : Operation) (state : OperationState) (updatedAt : UtcTimestamp)
    (pointers : PointerUpdate) : Operation :=
  { operation with
    state := state
    version := nextVersion operation.version
    updatedAt := updatedAt
    currentPolicyDecisionId :=
      pointers.currentPolicyDecisionId <|> operation.currentPolicyDecisionId
    currentApprovalId := pointers.currentApprovalId <|> operation.currentApprovalId
    latestAttemptId := pointers.latestAttemptId <|> operation.latestAttemptId
    latestVerificationId := pointers.latestVerificationId <|> operation.latestVerificationId
    compensationId := pointers.compensationId <|> operation.compensationId }

theorem replaceOperation_ok {operation new : Operation} {state : OperationState}
    {updatedAt : UtcTimestamp} {pointers : PointerUpdate} {s s' : Store}
    (h : replaceOperation operation state (nextVersion operation.version) updatedAt pointers s =
      .ok (new, s')) :
    operation.createdAt.value ≤ updatedAt.value ∧
      new = steppedOperation operation state updatedAt pointers ∧ s' = s := by
  unfold replaceOperation at h
  split at h
  · exact absurd h throw_ok
  next clock =>
    obtain ⟨rfl, rfl⟩ := pure_ok.mp h
    exact ⟨by omega, rfl, rfl⟩

theorem operation?_replace_stepped {s s' : Store} {operationId : OpaqueId} {loaded : Operation}
    {state : OperationState} {updatedAt : UtcTimestamp}
    {pointers : PointerUpdate} (found : s.operation? operationId = some loaded)
    (operations : s'.operations =
      s.operations.replace (steppedOperation loaded state updatedAt pointers)) (id : OpaqueId) :
    s'.operation? id =
      if operationId = id then some (steppedOperation loaded state updatedAt pointers)
      else s.operation? id := by
  have key : loaded.operationId = operationId := (find?_some found).2
  have stepped : (steppedOperation loaded state updatedAt pointers).operationId = operationId :=
    key
  rw [Store.operation?, operations, find?_replace, stepped]
  split
  next same =>
    subst same
    rw [show s.operations.find? operationId = some loaded from found, Option.map_some]
  next => rfl

/-- Appending events adds exactly their rows, in order. -/
theorem appendAll_ok {events : List AuditEvent} {s s' : Store} {u : Unit}
    (h : appendAll events s = .ok (u, s')) :
    ∃ auditEvents, s' = { s with auditEvents } ∧
      auditEvents.rows = s.auditEvents.rows ++ events := by
  induction events generalizing s with
  | nil =>
    obtain ⟨-, rfl⟩ := pure_ok.mp h
    exact ⟨s.auditEvents, rfl, by simp⟩
  | cons event rest ih =>
    obtain ⟨_, s₁, first, more⟩ := bind_ok.mp h
    obtain ⟨added, inserted, rfl⟩ := AuditRepository.append_ok first
    obtain ⟨auditEvents, rfl, rows⟩ := ih more
    refine ⟨auditEvents, rfl, ?_⟩
    rw [rows, (insert?_eq_some.mp inserted).2]
    simp

/-! ## The related writes -/

section Writes

variable {s s' : Store} {u : Unit}

private theorem insertPolicyDecision_ok {decision? : Option PolicyDecision}
    (h : whenSome decision? PolicyDecisionRepository.insert s = .ok (u, s')) :
    ∃ t, s' = { s with policyDecisions := t } ∧ Inserted decision? s.policyDecisions t := by
  obtain ⟨rfl, rfl⟩ | ⟨decision, rfl, h⟩ := whenSome_ok.mp h
  · exact ⟨_, rfl, rfl⟩
  · obtain ⟨t, inserted, rfl⟩ := PolicyDecisionRepository.insert_ok h
    exact ⟨t, rfl, inserted⟩

private theorem insertApproval_ok {approval? : Option Approval}
    (h : whenSome approval? ApprovalRepository.insert s = .ok (u, s')) :
    ∃ t, s' = { s with approvals := t } ∧ Inserted approval? s.approvals t := by
  obtain ⟨rfl, rfl⟩ | ⟨approval, rfl, h⟩ := whenSome_ok.mp h
  · exact ⟨_, rfl, rfl⟩
  · obtain ⟨t, inserted, rfl⟩ := ApprovalRepository.insert_ok h
    exact ⟨t, rfl, inserted⟩

private theorem decideApproval_ok {approval? : Option Approval}
    (h : whenSome approval? (ApprovalRepository.updateCasState · .pending) s = .ok (u, s')) :
    ∃ t, s' = { s with approvals := t } ∧ ApprovalDecided approval? s.approvals t := by
  obtain ⟨rfl, rfl⟩ | ⟨approval, rfl, h⟩ := whenSome_ok.mp h
  · exact ⟨_, rfl, rfl⟩
  · obtain ⟨⟨row, found, pending⟩, rfl⟩ := ApprovalRepository.updateCasState_ok h
    exact ⟨_, rfl, row, found, pending, rfl⟩

private theorem insertAttempt_ok {attempt? : Option ExecutionAttempt}
    (h : whenSome attempt? AttemptRepository.insert s = .ok (u, s')) :
    ∃ t, s' = { s with attempts := t } ∧ Inserted attempt? s.attempts t := by
  obtain ⟨rfl, rfl⟩ | ⟨attempt, rfl, h⟩ := whenSome_ok.mp h
  · exact ⟨_, rfl, rfl⟩
  · obtain ⟨-, t, inserted, rfl⟩ := AttemptRepository.insert_ok h
    exact ⟨t, rfl, inserted⟩

private theorem completeAttempt_ok {completed? : Option ExecutionAttempt}
    (h : whenSome completed? AttemptRepository.complete s = .ok (u, s')) :
    ∃ t, s' = { s with attempts := t } ∧ AttemptCompleted completed? s.attempts t := by
  obtain ⟨rfl, rfl⟩ | ⟨completed, rfl, h⟩ := whenSome_ok.mp h
  · exact ⟨_, rfl, rfl⟩
  · obtain ⟨state, row, accepted, found, started, rfl⟩ := AttemptRepository.complete_ok h
    exact ⟨_, rfl, state, row, accepted, found, started, rfl⟩

private theorem insertRequest_ok {request? : Option VerificationRequest}
    (h : whenSome request? VerificationRepository.insertRequest s = .ok (u, s')) :
    ∃ t, s' = { s with verifications := t } ∧
      Inserted (request?.map fun request => (request, none)) s.verifications t := by
  obtain ⟨rfl, rfl⟩ | ⟨request, rfl, h⟩ := whenSome_ok.mp h
  · exact ⟨_, rfl, rfl⟩
  · obtain ⟨t, inserted, rfl⟩ := VerificationRepository.insertRequest_ok h
    exact ⟨t, rfl, inserted⟩

theorem completeResult_ok {result? : Option VerificationResult}
    (h : whenSome result? VerificationRepository.complete s = .ok (u, s')) :
    ∃ t, s' = { s with verifications := t } ∧ ResultStored result? s.verifications t := by
  obtain ⟨rfl, rfl⟩ | ⟨result, rfl, h⟩ := whenSome_ok.mp h
  · exact ⟨_, rfl, rfl⟩
  · obtain ⟨request, found, rfl⟩ := VerificationRepository.complete_ok h
    exact ⟨_, rfl, request, found, rfl⟩

private theorem insertReconciliation_ok {stored? : Option StoredReconciliationDecision}
    (h : whenSome stored? ReconciliationRepository.insert s = .ok (u, s')) :
    ∃ t, s' = { s with reconciliationDecisions := t } ∧
      Inserted stored? s.reconciliationDecisions t := by
  obtain ⟨rfl, rfl⟩ | ⟨stored, rfl, h⟩ := whenSome_ok.mp h
  · exact ⟨_, rfl, rfl⟩
  · obtain ⟨t, inserted, rfl⟩ := ReconciliationRepository.insert_ok h
    exact ⟨t, rfl, inserted⟩

private theorem insertCompensation_ok {compensation? : Option Compensation}
    (h : whenSome compensation? CompensationRepository.insert s = .ok (u, s')) :
    ∃ t, s' = { s with compensations := t } ∧ Inserted compensation? s.compensations t := by
  obtain ⟨rfl, rfl⟩ | ⟨compensation, rfl, h⟩ := whenSome_ok.mp h
  · exact ⟨_, rfl, rfl⟩
  · obtain ⟨t, inserted, rfl⟩ := CompensationRepository.insert_ok h
    exact ⟨t, rfl, inserted⟩

theorem completeCompensationAttempt_ok {completed? : Option CompensationAttempt}
    (h : whenSome completed? CompensationAttemptRepository.complete s = .ok (u, s')) :
    ∃ t, s' = { s with compensationAttempts := t } ∧
      CompensationAttemptCompleted completed? s.compensationAttempts t := by
  obtain ⟨rfl, rfl⟩ | ⟨completed, rfl, h⟩ := whenSome_ok.mp h
  · exact ⟨_, rfl, rfl⟩
  · obtain ⟨state, row, found, started, rfl⟩ := CompensationAttemptRepository.complete_ok h
    exact ⟨_, rfl, state, row, found, started, rfl⟩

theorem stepCompensation_ok {compensation : Compensation} {state : CompensationState}
    {updatedAt : UtcTimestamp} {expectedVersion : Int}
    (h : CompensationRepository.updateCas expectedVersion
      (steppedCompensation compensation state updatedAt) s = .ok (u, s'))
    (clock : compensation.createdAt.value ≤ updatedAt.value) :
    ∃ t, s' = { s with compensations := t } ∧
      CompensationStepped compensation state updatedAt s.compensations t := by
  obtain ⟨version, ⟨row, found, same⟩, rfl⟩ := CompensationRepository.updateCas_ok h
  refine ⟨_, rfl, clock, ⟨row, found, ?_⟩, rfl⟩
  simp only [steppedCompensation, nextVersion] at version
  omega

private theorem moveCompensation_ok {command : OperationCommand} {related : RelatedRecords}
    {compensation : Option Compensation}
    (h : moveCompensation command related s = .ok (compensation, s')) :
    ∃ t, s' = { s with compensations := t } ∧
      CompensationMoved command related s.compensations t := by
  unfold moveCompensation at h
  unfold CompensationMoved
  cases target : compensationTargetState? command.kind with
  | none =>
    simp only [target] at h
    obtain ⟨-, rfl⟩ := pure_ok.mp h
    exact ⟨_, rfl, rfl⟩
  | some newState =>
    cases moved : movedCompensation command related with
    | none =>
      simp only [target, moved] at h
      obtain ⟨-, rfl⟩ := pure_ok.mp h
      exact ⟨_, rfl, rfl⟩
    | some loaded =>
      simp only [target, moved] at h
      obtain ⟨_, _, replaced, rest⟩ := bind_ok.mp h
      obtain ⟨clock, rfl, rfl⟩ := replaceCompensation_ok replaced
      obtain ⟨_, _, written, done⟩ := bind_ok.mp rest
      obtain ⟨-, rfl⟩ := pure_ok.mp done
      exact stepCompensation_ok written clock

end Writes

/-- What `writeRelated` leaves in each table it may write; it writes no other. -/
structure RelatedWritten (command : OperationCommand) (related : RelatedRecords)
    (s s' : Store) : Prop where
  policyDecisions :
    Inserted command.body.policyDecision? s.policyDecisions s'.policyDecisions
  approvals : ∃ mid,
    Inserted command.body.requestedApproval? s.approvals mid ∧
      ApprovalDecided command.body.decidedApproval? mid s'.approvals
  attempts : ∃ mid,
    Inserted command.body.claimedAttempt? s.attempts mid ∧
      AttemptCompleted (attemptToComplete command related) mid s'.attempts
  verifications : ∃ requested completed,
    Inserted (command.body.verificationRequest?.map fun request => (request, none))
        s.verifications requested ∧
      ResultStored (resultToComplete command related) requested completed ∧
      ResultStored (compensationResultToComplete command related) completed s'.verifications
  reconciliationDecisions :
    Inserted command.body.reconciliation? s.reconciliationDecisions s'.reconciliationDecisions
  compensations : ∃ mid,
    Inserted command.body.startedCompensation? s.compensations mid ∧
      CompensationMoved command related mid s'.compensations
  compensationAttempts :
    CompensationAttemptCompleted (compensationAttemptToComplete command related)
      s.compensationAttempts s'.compensationAttempts

theorem writeRelated_ok {command : OperationCommand} {related : RelatedRecords} {s s' : Store}
    {compensation : Option Compensation}
    (h : writeRelated command related s = .ok (compensation, s')) :
    RelatedWritten command related s s' ∧ s'.operations = s.operations ∧
      s'.auditEvents = s.auditEvents ∧ s'.outboxEvents = s.outboxEvents := by
  unfold writeRelated at h
  obtain ⟨_, _, h₁, h⟩ := bind_ok.mp h
  obtain ⟨_, rfl, policyDecisions⟩ := insertPolicyDecision_ok h₁
  obtain ⟨_, _, h₂, h⟩ := bind_ok.mp h
  obtain ⟨_, rfl, requested⟩ := insertApproval_ok h₂
  obtain ⟨_, _, h₃, h⟩ := bind_ok.mp h
  obtain ⟨_, rfl, decided⟩ := decideApproval_ok h₃
  obtain ⟨_, _, h₄, h⟩ := bind_ok.mp h
  obtain ⟨_, rfl, claimed⟩ := insertAttempt_ok h₄
  obtain ⟨_, _, h₅, h⟩ := bind_ok.mp h
  obtain ⟨_, rfl, completed⟩ := completeAttempt_ok h₅
  obtain ⟨_, _, h₆, h⟩ := bind_ok.mp h
  obtain ⟨_, rfl, request⟩ := insertRequest_ok h₆
  obtain ⟨_, _, h₇, h⟩ := bind_ok.mp h
  obtain ⟨_, rfl, result⟩ := completeResult_ok h₇
  obtain ⟨_, _, h₈, h⟩ := bind_ok.mp h
  obtain ⟨_, rfl, reconciliation⟩ := insertReconciliation_ok h₈
  obtain ⟨_, _, h₉, h⟩ := bind_ok.mp h
  obtain ⟨_, rfl, started⟩ := insertCompensation_ok h₉
  obtain ⟨_, _, h₁₀, h⟩ := bind_ok.mp h
  obtain ⟨_, rfl, compensationAttempts⟩ := completeCompensationAttempt_ok h₁₀
  obtain ⟨_, _, h₁₁, h⟩ := bind_ok.mp h
  obtain ⟨_, rfl, compensationResult⟩ := completeResult_ok h₁₁
  obtain ⟨_, rfl, moved⟩ := moveCompensation_ok h
  exact ⟨⟨policyDecisions, ⟨_, requested, decided⟩, ⟨_, claimed, completed⟩,
    ⟨_, _, request, result, compensationResult⟩, reconciliation, ⟨_, started, moved⟩,
    compensationAttempts⟩, rfl, rfl, rfl⟩

/-! ## Operation commands -/

/-- The operation row an applied command leaves. -/
def movedOperation (command : OperationCommand) (loaded : Operation) : Operation :=
  steppedOperation loaded command.kind.edge.2 command.occurredAt (pointersForKind command.body)

/-- The outbox row an applied command leaves, for the kinds mapped to a work command. -/
def outboxRow? (command : OperationCommand) (moved : Operation) : Option OutboxEvent :=
  match command.kind.outboxCommand?, command.body.outboxEventId? with
  | some mapped, some eventId =>
    some (buildOutboxEvent eventId moved.operationId moved.version mapped command.occurredAt
      command.correlationId)
  | _, _ => none

/-- An applied operation command: `loaded` was at the expected version in the source state, no
precondition objected, and the tables changed as written here. -/
structure OperationMoved (command : OperationCommand) (loaded : Operation) (s s' : Store) :
    Prop where
  found : s.operation? command.operationId = some loaded
  version : (loaded.version : Int) = command.expectedVersion
  source : command.kind.edge.1 = some loaded.state
  legal : evaluateOperationTransition (some loaded.state) command.kind.edge.2 = true
  allowed : evaluatePreconditions command loaded (loadRelated s command loaded) = none
  clock : loaded.createdAt.value ≤ command.occurredAt.value
  related : RelatedWritten command (loadRelated s command loaded) s s'
  operations : s'.operations = s.operations.replace (movedOperation command loaded)
  auditEvents : s'.auditEvents.rows = s.auditEvents.rows ++
    auditEventsFor s command loaded (movedOperation command loaded) (loadRelated s command loaded)
  outboxEvents :
    Inserted (outboxRow? command (movedOperation command loaded)) s.outboxEvents s'.outboxEvents

/-- The pure checks of `_apply_operation` accept the command: the operation is there at the
expected version, in the source state, and no precondition objects. -/
def OperationCommand.Admitted (command : OperationCommand) (s : Store) : Prop :=
  ∃ loaded, s.operation? command.operationId = some loaded ∧
    (loaded.version : Int) = command.expectedVersion ∧
    command.kind.edge.1 = some loaded.state ∧
    evaluatePreconditions command loaded (loadRelated s command loaded) = none

theorem OperationMoved.admitted {command : OperationCommand} {loaded : Operation} {s s' : Store}
    (made : OperationMoved command loaded s s') : command.Admitted s :=
  ⟨loaded, made.found, made.version, made.source, made.allowed⟩

theorem numberEvents_sequences (command : OperationCommand) (operationId : OpaqueId)
    (version sequence : Nat) (entries : List (OpaqueId × AuditEventType × JsonValue)) :
    (numberEvents command operationId version sequence entries).map (·.sequence) =
      List.range' sequence (numberEvents command operationId version sequence entries).length := by
  induction entries generalizing sequence with
  | nil => rfl
  | cons entry rest ih =>
    rw [numberEvents, List.map_cons, List.length_cons, List.range'_succ, ih]

theorem numberEvents_mem {command : OperationCommand} {operationId : OpaqueId}
    {version sequence : Nat} {entries : List (OpaqueId × AuditEventType × JsonValue)}
    {event : AuditEvent}
    (member : event ∈ numberEvents command operationId version sequence entries) :
    event.operationId = operationId ∧ event.fromState = command.kind.edge.1 := by
  induction entries generalizing sequence with
  | nil => cases member
  | cons entry rest ih =>
    rcases List.mem_cons.mp member with rfl | later
    · exact ⟨rfl, rfl⟩
    · exact ih later

/-- Every event tells the state and the reason of the command. -/
theorem numberEvents_told {command : OperationCommand} {operationId : OpaqueId}
    {version sequence : Nat} {entries : List (OpaqueId × AuditEventType × JsonValue)}
    {event : AuditEvent}
    (member : event ∈ numberEvents command operationId version sequence entries) :
    event.toState = some command.kind.edge.2 ∧ event.reasonCode = command.reasonCode := by
  induction entries generalizing sequence with
  | nil => cases member
  | cons entry rest ih =>
    rcases List.mem_cons.mp member with rfl | later
    · exact ⟨rfl, rfl⟩
    · exact ih later

theorem numberEvents_types (command : OperationCommand) (operationId : OpaqueId)
    (version sequence : Nat) (entries : List (OpaqueId × AuditEventType × JsonValue)) :
    (numberEvents command operationId version sequence entries).map (·.eventType) =
      entries.map (·.2.1) := by
  induction entries generalizing sequence with
  | nil => rfl
  | cons entry rest ih => rw [numberEvents, List.map_cons, List.map_cons, ih]

theorem numberEvents_ids (command : OperationCommand) (operationId : OpaqueId)
    (version sequence : Nat) (entries : List (OpaqueId × AuditEventType × JsonValue)) :
    (numberEvents command operationId version sequence entries).map (·.auditEventId) =
      entries.map (·.1) := by
  induction entries generalizing sequence with
  | nil => rfl
  | cons entry rest ih => simp [numberEvents, ih]

private theorem insertOutbox_ok {command : OperationCommand} {moved : Operation} {s s' : Store}
    {event? : Option OutboxEvent} (h : insertOutbox command moved s = .ok (event?, s')) :
    ∃ t, s' = { s with outboxEvents := t } ∧
      Inserted (outboxRow? command moved) s.outboxEvents t := by
  unfold insertOutbox at h
  unfold outboxRow?
  cases mapped : command.kind.outboxCommand? with
  | none =>
    simp only [mapped] at h
    obtain ⟨-, rfl⟩ := pure_ok.mp h
    exact ⟨_, rfl, rfl⟩
  | some workCommand =>
    cases id : command.body.outboxEventId? with
    | none =>
      simp only [mapped, id] at h
      obtain ⟨-, rfl⟩ := pure_ok.mp h
      exact ⟨_, rfl, rfl⟩
    | some eventId =>
      simp only [mapped, id] at h
      obtain ⟨_, _, inserted, done⟩ := bind_ok.mp h
      obtain ⟨-, rfl⟩ := pure_ok.mp done
      obtain ⟨t, written, rfl⟩ := OutboxRepository.insert_ok inserted
      exact ⟨t, rfl, written⟩

theorem commitOperation_ok {command : OperationCommand} {loaded : Operation}
    {related : RelatedRecords} {s s' : Store} {result : TransitionResult}
    (h : commitOperation command loaded related s = .ok (result, s')) :
    loaded.createdAt.value ≤ command.occurredAt.value ∧
      RelatedWritten command related s s' ∧
      s'.operations = s.operations.replace (movedOperation command loaded) ∧
      s'.auditEvents.rows = s.auditEvents.rows ++
        auditEventsFor s command loaded (movedOperation command loaded) related ∧
      Inserted (outboxRow? command (movedOperation command loaded)) s.outboxEvents
        s'.outboxEvents ∧
      result.outcome = .applied ∧ result.operation = some (movedOperation command loaded) := by
  unfold commitOperation at h
  obtain ⟨_, s₁, wrote, h₁⟩ := bind_ok.mp h
  obtain ⟨related, operations, auditEvents, outboxEvents⟩ := writeRelated_ok wrote
  obtain ⟨_, _, replaced, h₂⟩ := bind_ok.mp h₁
  obtain ⟨clock, rfl, rfl⟩ := replaceOperation_ok replaced
  obtain ⟨_, _, updated, h₃⟩ := bind_ok.mp h₂
  obtain ⟨-, -, rfl⟩ := OperationRepository.updateCas_ok updated
  obtain ⟨_, _, audited, h₄⟩ := bind_ok.mp h₃
  obtain ⟨_, _, read, appending⟩ := bind_ok.mp audited
  obtain ⟨rfl, rfl⟩ := get_ok.mp read
  obtain ⟨_, _, appended, returned⟩ := bind_ok.mp appending
  obtain ⟨rfl, rfl⟩ := pure_ok.mp returned
  obtain ⟨audits, rfl, rows⟩ := appendAll_ok appended
  obtain ⟨_, _, outboxed, h₅⟩ := bind_ok.mp h₄
  obtain ⟨outbox, rfl, written⟩ := insertOutbox_ok outboxed
  obtain ⟨rfl, rfl⟩ := pure_ok.mp h₅
  refine ⟨clock, ⟨related.policyDecisions, related.approvals, related.attempts,
    related.verifications, related.reconciliationDecisions, related.compensations,
    related.compensationAttempts⟩, ?_, ?_, ?_, rfl, rfl⟩
  · exact congrArg (Table.replace · _) operations
  · simp only [auditEventsFor, Store.nextSequence, Store.auditEventsOf] at rows ⊢
    rw [rows, auditEvents]
    rfl
  · rw [← outboxEvents]
    exact written

/-- The three answers of `_apply_operation`. -/
theorem applyOperation_cases {command : OperationCommand} {s s' : Store}
    {result : TransitionResult} (h : applyOperation command s = .ok (result, s')) :
    (∃ loaded, OperationMoved command loaded s s' ∧ result.outcome = .applied ∧
        result.operation = some (movedOperation command loaded)) ∨
      (∃ loaded, s' = s ∧ s.operation? command.operationId = some loaded ∧
        (loaded.version : Int) = command.expectedVersion + 1 ∧
        loaded.state = command.kind.edge.2 ∧ result.outcome = .alreadyApplied ∧
        result.operation = some loaded) ∨
      (∃ loaded, s' = s ∧ s.operation? command.operationId = some loaded ∧
        result.outcome = .rejected ∧ result.operation = some loaded) := by
  unfold applyOperation at h
  dsimp only at h
  split at h
  · cases h
  next loaded found =>
  split at h
  next ahead =>
    split at h
    next same =>
      cases h
      exact .inr (.inl ⟨loaded, rfl, found, ahead, same, rfl, rfl⟩)
    next =>
      cases h
      exact .inr (.inr ⟨loaded, rfl, found, rfl, rfl⟩)
  split at h
  · cases h
  next version =>
  split at h
  · cases h
    exact .inr (.inr ⟨loaded, rfl, found, rfl, rfl⟩)
  next source =>
  split at h
  · cases h
    exact .inr (.inr ⟨loaded, rfl, found, rfl, rfl⟩)
  split at h
  · cases h
    exact .inr (.inr ⟨loaded, rfl, found, rfl, rfl⟩)
  next legal =>
  split at h
  · cases h
    exact .inr (.inr ⟨loaded, rfl, found, rfl, rfl⟩)
  next allowed =>
    obtain ⟨clock, related, operations, auditEvents, outboxEvents, applied, moved⟩ :=
      commitOperation_ok h
    exact .inl ⟨loaded, ⟨found, by simpa using version, (by simpa using source : _ = _).symm,
      by simpa using legal, allowed, clock, related, operations, auditEvents, outboxEvents⟩,
      applied, moved⟩

/-- A version that is neither expected nor one ahead is a conflict. -/
theorem applyOperation_stale {command : OperationCommand} {loaded : Operation} {s : Store}
    (found : s.operation? command.operationId = some loaded)
    (notSame : (loaded.version : Int) ≠ command.expectedVersion)
    (notAhead : (loaded.version : Int) ≠ command.expectedVersion + 1) :
    applyOperation command s = .error (.concurrencyConflictError "stale operation version") := by
  unfold applyOperation
  rw [found]
  dsimp only
  rw [if_neg notAhead, if_pos notSame]

/-- A command in its source state and at its version is decided by its preconditions. -/
theorem applyOperation_current {command : OperationCommand} {loaded : Operation} {s : Store}
    (found : s.operation? command.operationId = some loaded)
    (version : (loaded.version : Int) = command.expectedVersion)
    (source : command.kind.edge.1 = some loaded.state)
    (legal : evaluateOperationTransition (some loaded.state) command.kind.edge.2 = true) :
    applyOperation command s =
      match evaluatePreconditions command loaded (loadRelated s command loaded) with
      | some reason =>
        .ok (rejected (.transition command.kind) reason (some loaded) (some loaded.state)
          (some command.kind.edge.2) (some loaded.version)
          (loadRelated s command loaded).compensation, s)
      | none => commitOperation command loaded (loadRelated s command loaded) s := by
  have notAhead : (loaded.version : Int) ≠ command.expectedVersion + 1 := by omega
  have running := no_legal_transition_from_absolute_terminal legal
  unfold applyOperation
  rw [found]
  dsimp only
  rw [if_neg notAhead, if_neg (not_not_intro version), if_neg (not_not_intro source.symm),
    if_neg (by simp [running])]
  exact if_neg (by simp [legal])

/-- One version ahead the command is answered without a write: replayed or a mismatch. -/
theorem applyOperation_ahead {command : OperationCommand} {loaded : Operation} {s : Store}
    (found : s.operation? command.operationId = some loaded)
    (ahead : (loaded.version : Int) = command.expectedVersion + 1) :
    ∃ result, applyOperation command s = .ok (result, s) := by
  unfold applyOperation
  rw [found]
  dsimp only
  rw [if_pos ahead]
  split
  · exact ⟨_, rfl⟩
  · exact ⟨_, rfl⟩

/-- At the expected version an exception comes from the writes alone. -/
theorem applyOperation_raised {command : OperationCommand} {loaded : Operation} {s : Store}
    {e : Raised} (found : s.operation? command.operationId = some loaded)
    (version : (loaded.version : Int) = command.expectedVersion)
    (raised : applyOperation command s = .error e) :
    commitOperation command loaded (loadRelated s command loaded) s = .error e := by
  unfold applyOperation at raised
  rw [found] at raised
  have notAhead : (loaded.version : Int) ≠ command.expectedVersion + 1 := by omega
  dsimp only at raised
  rw [if_neg notAhead, if_neg (not_not_intro version)] at raised
  split at raised
  · cases raised
  split at raised
  · cases raised
  split at raised
  · cases raised
  split at raised
  · cases raised
  · exact raised

/-! ## Creation -/

structure OperationCreated (command : CreateOperation) (s s' : Store) : Prop where
  state : command.operation.state = .pendingPolicy
  version : command.operation.version = 1
  operations : s.operations.insert? command.operation = some s'.operations
  auditEvents : s'.auditEvents.rows = s.auditEvents.rows ++ [createdEvent command]
  frame : s' = { s with operations := s'.operations, auditEvents := s'.auditEvents }

theorem applyCreate_cases {command : CreateOperation} {s s' : Store} {result : TransitionResult}
    (h : applyCreate command s = .ok (result, s')) :
    (OperationCreated command s s' ∧ result.outcome = .applied) ∨
      (s' = s ∧ result.outcome ≠ .applied) := by
  unfold applyCreate at h
  dsimp only at h
  split at h
  · cases h
    exact .inr ⟨rfl, nofun⟩
  next state =>
  split at h
  · cases h
    exact .inr ⟨rfl, nofun⟩
  split at h
  · cases h
  split at h
  · cases h
    exact .inr ⟨rfl, nofun⟩
  split at h
  · split at h
    · cases h
      exact .inr ⟨rfl, nofun⟩
    split at h <;>
    · cases h
      exact .inr ⟨rfl, nofun⟩
  split at h
  · cases h
    exact .inr ⟨rfl, nofun⟩
  unfold insertCreated at h
  obtain ⟨_, _, insertRan, h₁⟩ := bind_ok.mp h
  obtain ⟨version, operations, inserted, rfl⟩ := OperationRepository.insert_ok insertRan
  obtain ⟨_, _, appended, done⟩ := bind_ok.mp h₁
  obtain ⟨auditEvents, rfl, rows⟩ := appendAll_ok appended
  obtain ⟨rfl, rfl⟩ := pure_ok.mp done
  exact .inl ⟨⟨by simpa using state, version, inserted, rows, rfl⟩, rfl⟩

/-! ## Compensation progress -/

/-- An applied progress command: the operation stays where it is, the record steps to
`newState`, and the rows the command carries are written. -/
structure ProgressMade (loaded : Operation) (compensation : Compensation)
    (newState : CompensationState) (occurredAt : UtcTimestamp)
    (completed? attempt? : Option CompensationAttempt) (request? : Option VerificationRequest)
    (result? : Option VerificationResult) (events : List AuditEvent)
    (outbox? : Option OutboxEvent) (s s' : Store) : Prop where
  compensations :
    CompensationStepped compensation newState occurredAt s.compensations s'.compensations
  compensationAttempts : ∃ mid,
    CompensationAttemptCompleted completed? s.compensationAttempts mid ∧
      Inserted attempt? mid s'.compensationAttempts
  verifications : ∃ mid,
    Inserted (request?.map fun request => (request, none)) s.verifications mid ∧
      ResultStored result? mid s'.verifications
  auditEvents : s'.auditEvents.rows = s.auditEvents.rows ++ events
  outboxEvents : Inserted outbox? s.outboxEvents s'.outboxEvents
  frame : s' = { s with
    compensations := s'.compensations
    compensationAttempts := s'.compensationAttempts
    verifications := s'.verifications
    auditEvents := s'.auditEvents
    outboxEvents := s'.outboxEvents }

/-- The guards every progress command passes before its own: the operation at the expected
version in COMPENSATING, and a record of its own at the expected record version. -/
structure ProgressAllowed (operationId : OpaqueId) (expectedOperationVersion : Int)
    (compensationId : OpaqueId) (expectedCompensationVersion : Int) (loaded : Operation)
    (compensation : Compensation) (s : Store) : Prop where
  found : s.operation? operationId = some loaded
  version : (loaded.version : Int) = expectedOperationVersion
  state : loaded.state = .compensating
  compensationFound : s.compensation? compensationId = some compensation
  parent : compensation.originalOperationId = loaded.operationId
  compensationVersion : (compensation.version : Int) = expectedCompensationVersion

/-- The ways a progress command returns without reaching its own branches. -/
theorem withCompensation_cases {progress : CompensationProgressKind} {operationId : OpaqueId}
    {expectedOperationVersion : Int} {compensationId : OpaqueId}
    {next : Operation → Compensation → Uow TransitionResult} {s s' : Store}
    {result : TransitionResult}
    (h : withCompensation progress operationId expectedOperationVersion compensationId next s =
      .ok (result, s')) :
    (s' = s ∧ result.outcome = .rejected) ∨
      ∃ loaded compensation, s.operation? operationId = some loaded ∧
        (loaded.version : Int) = expectedOperationVersion ∧ loaded.state = .compensating ∧
        s.compensation? compensationId = some compensation ∧
        compensation.originalOperationId = loaded.operationId ∧
        next loaded compensation s = .ok (result, s') := by
  unfold withCompensation at h
  dsimp only at h
  split at h
  · cases h
  next loaded found =>
  split at h
  · cases h
  next version =>
  split at h
  · cases h
    exact .inl ⟨rfl, rfl⟩
  next state =>
  split at h
  · cases h
    exact .inl ⟨rfl, rfl⟩
  next compensation compensationFound =>
  split at h
  · cases h
    exact .inl ⟨rfl, rfl⟩
  next parent =>
  exact .inr ⟨loaded, compensation, found, by simpa using version, by simpa using state,
    compensationFound, by simpa using parent, h⟩

theorem commitClaim_ok {progress : CompensationProgressKind} {loaded : Operation}
    {compensation : Compensation} {expectedCompensationVersion : Int}
    {attempt : CompensationAttempt} {occurredAt : UtcTimestamp} {actor : Option PrincipalRef}
    {correlationId : Option String} {reasonCode : String} {attemptAuditEventId : OpaqueId}
    {s s' : Store} {result : TransitionResult}
    (h : commitClaim progress loaded compensation expectedCompensationVersion attempt occurredAt
      actor correlationId reasonCode attemptAuditEventId s = .ok (result, s')) :
    ProgressMade loaded compensation .executing occurredAt none (some attempt) none none
        [progressEvent loaded (s.nextSequence loaded.operationId) attemptAuditEventId
          .compensationAttempted actor reasonCode (attemptedData progress compensation attempt)
          correlationId occurredAt] none s s' ∧
      result.outcome = .applied ∧ result.operation = some loaded ∧
      result.compensation = some (steppedCompensation compensation .executing occurredAt) := by
  unfold commitClaim at h
  obtain ⟨_, _, insertRan, h₁⟩ := bind_ok.mp h
  obtain ⟨-, _, inserted, rfl⟩ := CompensationAttemptRepository.insert_ok insertRan
  obtain ⟨_, _, replaced, h₂⟩ := bind_ok.mp h₁
  obtain ⟨clock, rfl, rfl⟩ := replaceCompensation_ok replaced
  obtain ⟨_, _, updated, h₃⟩ := bind_ok.mp h₂
  obtain ⟨_, rfl, stepped⟩ := stepCompensation_ok updated clock
  obtain ⟨_, _, read, h₄⟩ := bind_ok.mp h₃
  obtain ⟨rfl, rfl⟩ := get_ok.mp read
  obtain ⟨_, _, appended, done⟩ := bind_ok.mp h₄
  obtain ⟨auditEvents, rfl, rows⟩ := appendAll_ok appended
  obtain ⟨rfl, rfl⟩ := pure_ok.mp done
  exact ⟨⟨stepped, ⟨_, rfl, inserted⟩, ⟨_, rfl, rfl⟩, rows, rfl, rfl⟩, rfl, rfl, rfl⟩

theorem applyClaimCompensation_cases {command : ClaimCompensationExecution} {s s' : Store}
    {result : TransitionResult} (h : applyClaimCompensation command s = .ok (result, s')) :
    (∃ loaded compensation,
        ProgressAllowed command.operationId command.expectedOperationVersion
          command.compensationId command.expectedCompensationVersion loaded compensation s ∧
        evaluateClaimCompensationPreconditions command loaded compensation
          (s.listCompensationAttempts compensation.compensationId) = none ∧
        ProgressMade loaded compensation .executing command.occurredAt none
          (some command.attempt) none none
          [progressEvent loaded (s.nextSequence loaded.operationId) command.attemptAuditEventId
            .compensationAttempted command.actor command.reasonCode
            (attemptedData .claimCompensationExecution compensation command.attempt)
            command.correlationId command.occurredAt] none s s' ∧
        result.outcome = .applied ∧ result.operation = some loaded ∧
        result.compensation =
          some (steppedCompensation compensation .executing command.occurredAt)) ∨
      (s' = s ∧ result.outcome = .alreadyApplied) ∨
      (s' = s ∧ result.outcome = .rejected) := by
  unfold applyClaimCompensation at h
  obtain same | ⟨loaded, compensation, found, version, state, compensationFound, parent, h⟩ :=
    withCompensation_cases h
  · exact .inr (.inr same)
  split at h
  · cases h
    exact .inr (.inl ⟨rfl, rfl⟩)
  split at h
  · cases h
  next compensationVersion =>
  split at h
  · cases h
    exact .inr (.inr ⟨rfl, rfl⟩)
  next allowed =>
  exact .inl ⟨loaded, compensation, ⟨found, version, state, compensationFound, parent,
    by simpa using compensationVersion⟩, allowed, commitClaim_ok h⟩

/-- Replaying a retry claim writes nothing and is never APPLIED. -/
theorem replayRetry_outcome {progress : CompensationProgressKind} {s : Store}
    {loaded : Operation} {compensation : Compensation} {attempt : CompensationAttempt} :
    (replayRetry progress s loaded compensation attempt).outcome = .alreadyApplied ∨
      (replayRetry progress s loaded compensation attempt).outcome = .rejected := by
  unfold replayRetry
  split
  · exact .inr rfl
  · split
    · exact .inl rfl
    · exact .inr rfl

theorem applyClaimCompensationRetryAttempt_cases {command : ClaimCompensationRetryAttempt}
    {s s' : Store} {result : TransitionResult}
    (h : applyClaimCompensationRetryAttempt command s = .ok (result, s')) :
    (∃ loaded compensation,
        ProgressAllowed command.operationId command.expectedOperationVersion
          command.compensationId command.expectedCompensationVersion loaded compensation s ∧
        evaluateClaimCompensationRetryAttemptPreconditions command loaded compensation
          (s.listCompensationAttempts compensation.compensationId) = none ∧
        ProgressMade loaded compensation .executing command.occurredAt none
          (some command.attempt) none none
          [progressEvent loaded (s.nextSequence loaded.operationId) command.attemptAuditEventId
            .compensationAttempted command.actor command.reasonCode
            (attemptedData .claimCompensationRetryAttempt compensation command.attempt)
            command.correlationId command.occurredAt] none s s' ∧
        result.outcome = .applied ∧ result.operation = some loaded ∧
        result.compensation =
          some (steppedCompensation compensation .executing command.occurredAt)) ∨
      (s' = s ∧ result.outcome = .alreadyApplied) ∨
      (s' = s ∧ result.outcome = .rejected) := by
  unfold applyClaimCompensationRetryAttempt at h
  obtain same | ⟨loaded, compensation, found, version, state, compensationFound, parent, h⟩ :=
    withCompensation_cases h
  · exact .inr (.inr same)
  split at h
  · cases h
    exact .inr (replayRetry_outcome.imp (⟨rfl, ·⟩) (⟨rfl, ·⟩))
  split at h
  · cases h
  next compensationVersion =>
  split at h
  · cases h
    exact .inr (.inr ⟨rfl, rfl⟩)
  next allowed =>
  exact .inl ⟨loaded, compensation, ⟨found, version, state, compensationFound, parent,
    by simpa using compensationVersion⟩, allowed, commitClaim_ok h⟩

theorem commitStartVerification_ok {command : StartCompensationVerification}
    {loaded : Operation} {compensation : Compensation}
    {loadedAttempt : Option CompensationAttempt} {s s' : Store} {result : TransitionResult}
    (h : commitStartVerification command loaded compensation loadedAttempt s =
      .ok (result, s')) :
    ∃ event, startVerificationEvent? command loaded compensation
        (s.nextSequence loaded.operationId) = some event ∧
      ProgressMade loaded compensation .verifying command.occurredAt
        (startVerificationCompletion command loadedAttempt) none
        (some command.verificationRequest) none [event]
        (some (buildOutboxEvent command.outboxEventId loaded.operationId loaded.version .verify
          command.occurredAt command.correlationId)) s s' ∧
      result.outcome = .applied ∧ result.operation = some loaded ∧
      result.compensation =
        some (steppedCompensation compensation .verifying command.occurredAt) := by
  unfold commitStartVerification at h
  obtain ⟨_, _, completeRan, h₁⟩ := bind_ok.mp h
  obtain ⟨_, rfl, completed⟩ := completeCompensationAttempt_ok completeRan
  obtain ⟨_, _, insertRan, h₂⟩ := bind_ok.mp h₁
  obtain ⟨_, inserted, rfl⟩ := VerificationRepository.insertRequest_ok insertRan
  obtain ⟨_, _, replaced, h₃⟩ := bind_ok.mp h₂
  obtain ⟨clock, rfl, rfl⟩ := replaceCompensation_ok replaced
  obtain ⟨_, _, updated, h₄⟩ := bind_ok.mp h₃
  obtain ⟨_, rfl, stepped⟩ := stepCompensation_ok updated clock
  obtain ⟨_, _, read, h₅⟩ := bind_ok.mp h₄
  obtain ⟨rfl, rfl⟩ := get_ok.mp read
  obtain ⟨event, _, required, h₆⟩ := bind_ok.mp h₅
  obtain ⟨built, rfl⟩ := requireSome_ok.mp required
  obtain ⟨_, _, appended, h₇⟩ := bind_ok.mp h₆
  obtain ⟨auditEvents, rfl, rows⟩ := appendAll_ok appended
  obtain ⟨_, _, outboxed, done⟩ := bind_ok.mp h₇
  obtain ⟨outbox, written, rfl⟩ := OutboxRepository.insert_ok outboxed
  obtain ⟨rfl, rfl⟩ := pure_ok.mp done
  exact ⟨event, built, ⟨stepped, ⟨_, completed, rfl⟩, ⟨_, inserted, rfl⟩, rows, written, rfl⟩,
    rfl, rfl, rfl⟩

theorem applyStartCompensationVerification_cases {command : StartCompensationVerification}
    {s s' : Store} {result : TransitionResult}
    (h : applyStartCompensationVerification command s = .ok (result, s')) :
    (∃ loaded compensation event,
        ProgressAllowed command.operationId command.expectedOperationVersion
          command.compensationId command.expectedCompensationVersion loaded compensation s ∧
        evaluateStartCompensationVerificationPreconditions command loaded compensation
          (s.listCompensationAttempts compensation.compensationId).getLast? = none ∧
        startVerificationEvent? command loaded compensation
          (s.nextSequence loaded.operationId) = some event ∧
        ProgressMade loaded compensation .verifying command.occurredAt
          (startVerificationCompletion command
            (s.listCompensationAttempts compensation.compensationId).getLast?) none
          (some command.verificationRequest) none [event]
          (some (buildOutboxEvent command.outboxEventId loaded.operationId loaded.version
            .verify command.occurredAt command.correlationId)) s s' ∧
        result.outcome = .applied ∧ result.operation = some loaded ∧
        result.compensation =
          some (steppedCompensation compensation .verifying command.occurredAt)) ∨
      (s' = s ∧ result.outcome = .alreadyApplied) ∨
      (s' = s ∧ result.outcome = .rejected) := by
  unfold applyStartCompensationVerification at h
  obtain same | ⟨loaded, compensation, found, version, state, compensationFound, parent, h⟩ :=
    withCompensation_cases h
  · exact .inr (.inr same)
  dsimp only at h
  split at h
  · split at h
    · cases h
      exact .inr (.inl ⟨rfl, rfl⟩)
    · cases h
      exact .inr (.inr ⟨rfl, rfl⟩)
  split at h
  · cases h
  next compensationVersion =>
  split at h
  · cases h
    exact .inr (.inr ⟨rfl, rfl⟩)
  next allowed =>
  obtain ⟨event, built, made⟩ := commitStartVerification_ok h
  exact .inl ⟨loaded, compensation, event, ⟨found, version, state, compensationFound, parent,
    by simpa using compensationVersion⟩, allowed, built, made⟩

theorem commitRetryAfterVerification_ok {command : RetryCompensationAfterVerification}
    {loaded : Operation} {compensation : Compensation} {existing : Option VerificationRow}
    {s s' : Store} {result : TransitionResult}
    (h : commitRetryAfterVerification command loaded compensation existing s =
      .ok (result, s')) :
    ProgressMade loaded compensation .executing command.occurredAt none (some command.attempt)
        none (retryResultToComplete command existing)
        [retryVerificationEvent command loaded (s.nextSequence loaded.operationId),
          progressEvent loaded (s.nextSequence loaded.operationId + 1)
            command.attemptAuditEventId .compensationAttempted command.actor command.reasonCode
            (attemptedData .retryCompensationAfterVerification compensation command.attempt)
            command.correlationId command.occurredAt]
        (some (buildOutboxEvent command.outboxEventId loaded.operationId loaded.version
          .compensate command.occurredAt command.correlationId)) s s' ∧
      result.outcome = .applied ∧ result.operation = some loaded ∧
      result.compensation =
        some (steppedCompensation compensation .executing command.occurredAt) := by
  unfold commitRetryAfterVerification at h
  obtain ⟨_, _, completeRan, h₁⟩ := bind_ok.mp h
  obtain ⟨_, rfl, completed⟩ := completeResult_ok completeRan
  obtain ⟨_, _, insertRan, h₂⟩ := bind_ok.mp h₁
  obtain ⟨-, _, inserted, rfl⟩ := CompensationAttemptRepository.insert_ok insertRan
  obtain ⟨_, _, replaced, h₃⟩ := bind_ok.mp h₂
  obtain ⟨clock, rfl, rfl⟩ := replaceCompensation_ok replaced
  obtain ⟨_, _, updated, h₄⟩ := bind_ok.mp h₃
  obtain ⟨_, rfl, stepped⟩ := stepCompensation_ok updated clock
  obtain ⟨_, _, read, h₅⟩ := bind_ok.mp h₄
  obtain ⟨rfl, rfl⟩ := get_ok.mp read
  obtain ⟨_, _, appended, h₆⟩ := bind_ok.mp h₅
  obtain ⟨auditEvents, rfl, rows⟩ := appendAll_ok appended
  obtain ⟨_, _, outboxed, done⟩ := bind_ok.mp h₆
  obtain ⟨outbox, written, rfl⟩ := OutboxRepository.insert_ok outboxed
  obtain ⟨rfl, rfl⟩ := pure_ok.mp done
  exact ⟨⟨stepped, ⟨_, rfl, inserted⟩, ⟨_, rfl, completed⟩, rows, written, rfl⟩, rfl, rfl, rfl⟩

theorem applyRetryCompensationAfterVerification_cases
    {command : RetryCompensationAfterVerification} {s s' : Store} {result : TransitionResult}
    (h : applyRetryCompensationAfterVerification command s = .ok (result, s')) :
    (∃ loaded compensation,
        ProgressAllowed command.operationId command.expectedOperationVersion
          command.compensationId command.expectedCompensationVersion loaded compensation s ∧
        evaluateRetryCompensationAfterVerificationPreconditions command loaded compensation
          (s.listCompensationAttempts compensation.compensationId)
          (s.verification? command.verificationResult.verificationId) = none ∧
        ProgressMade loaded compensation .executing command.occurredAt none
          (some command.attempt) none
          (retryResultToComplete command
            (s.verification? command.verificationResult.verificationId))
          [retryVerificationEvent command loaded (s.nextSequence loaded.operationId),
            progressEvent loaded (s.nextSequence loaded.operationId + 1)
              command.attemptAuditEventId .compensationAttempted command.actor
              command.reasonCode
              (attemptedData .retryCompensationAfterVerification compensation command.attempt)
              command.correlationId command.occurredAt]
          (some (buildOutboxEvent command.outboxEventId loaded.operationId loaded.version
            .compensate command.occurredAt command.correlationId)) s s' ∧
        result.outcome = .applied ∧ result.operation = some loaded ∧
        result.compensation =
          some (steppedCompensation compensation .executing command.occurredAt)) ∨
      (s' = s ∧ result.outcome = .alreadyApplied) ∨
      (s' = s ∧ result.outcome = .rejected) := by
  unfold applyRetryCompensationAfterVerification at h
  obtain same | ⟨loaded, compensation, found, version, state, compensationFound, parent, h⟩ :=
    withCompensation_cases h
  · exact .inr (.inr same)
  dsimp only at h
  split at h
  · cases h
    exact .inr (replayRetry_outcome.imp (⟨rfl, ·⟩) (⟨rfl, ·⟩))
  split at h
  · cases h
  next compensationVersion =>
  split at h
  · cases h
    exact .inr (.inr ⟨rfl, rfl⟩)
  next allowed =>
  exact .inl ⟨loaded, compensation, ⟨found, version, state, compensationFound, parent,
    by simpa using compensationVersion⟩, allowed, commitRetryAfterVerification_ok h⟩

/-! ## Messaging escalation -/

structure OperationEscalated (request : MessagingRecovery) (loaded : Operation)
    (s s' : Store) : Prop where
  found : s.operation? request.operationId = some loaded
  version : (loaded.version : Int) = request.expectedVersion
  legal : evaluateOperationTransition (some loaded.state) .manualIntervention = true
  operations : s'.operations =
    s.operations.replace
      (steppedOperation loaded .manualIntervention request.occurredAt .unchanged)
  auditEvents : s'.auditEvents.rows = s.auditEvents.rows ++
    [escalationEvent request loaded (s.nextSequence loaded.operationId)]
  frame : s' = { s with operations := s'.operations, auditEvents := s'.auditEvents }

theorem escalateMessagingRecovery_cases {request : MessagingRecovery} {s s' : Store}
    {result : TransitionResult}
    (h : escalateMessagingRecovery request s = .ok (result, s')) :
    (∃ loaded, OperationEscalated request loaded s s' ∧ result.outcome = .applied) ∨
      (s' = s ∧ result.outcome = .rejected) := by
  unfold escalateMessagingRecovery at h
  dsimp only at h
  split at h
  · cases h
  next loaded found =>
  split at h
  · cases h
  next version =>
  split at h
  · cases h
    exact .inr ⟨rfl, rfl⟩
  next kind recovery =>
  split at h
  · cases h
    exact .inr ⟨rfl, rfl⟩
  next legal =>
  unfold commitEscalation at h
  obtain ⟨_, _, replaced, h₁⟩ := bind_ok.mp h
  obtain ⟨-, rfl, rfl⟩ := replaceOperation_ok replaced
  obtain ⟨_, _, updated, h₂⟩ := bind_ok.mp h₁
  obtain ⟨-, -, rfl⟩ := OperationRepository.updateCas_ok updated
  obtain ⟨_, _, read, h₃⟩ := bind_ok.mp h₂
  obtain ⟨rfl, rfl⟩ := get_ok.mp read
  obtain ⟨_, _, appended, done⟩ := bind_ok.mp h₃
  obtain ⟨auditEvents, rfl, rows⟩ := appendAll_ok appended
  obtain ⟨rfl, rfl⟩ := pure_ok.mp done
  exact .inl ⟨loaded, ⟨found, by simpa using version, by simpa using legal, rfl, rows, rfl⟩, rfl⟩

end Stateback.Transitions
