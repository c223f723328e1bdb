import Stateback.Transitions.Effects
/-!
# When the writes of an accepted command commit

A command that carries no row writes its operation, its audit events and its outbox event.
These writes commit exactly when the clock is not behind the operation and every id they insert
is new; the sequence numbers never collide.
-/

namespace Stateback.Transitions

open Stateback.Domain Stateback.Persistence KeyedTable KeyedTable.Table Transaction

/-! ## Audit events -/

theorem sequence_lt_nextSequence {s : Store} {operationId : OpaqueId} {event : AuditEvent}
    (member : event ∈ s.auditEventsOf operationId) :
    event.sequence < s.nextSequence operationId := by
  have bounded : ∀ events : List AuditEvent, event ∈ events →
      event.sequence ≤ events.foldr (fun event most => max event.sequence most) 0 := by
    intro events
    induction events with
    | nil => nofun
    | cons head tail ih =>
      intro member
      rw [List.foldr_cons]
      obtain rfl | later := List.mem_cons.mp member
      · exact Nat.le_max_left _ _
      · exact (ih later).trans (Nat.le_max_right _ _)
  exact Nat.lt_succ_of_le (bounded _ member)

/-- Events numbered on from `sequence`, above every stored number of their operation. -/
structure NumberedOn (s : Store) (operationId : OpaqueId) (sequence : Nat)
    (events : List AuditEvent) : Prop where
  about : ∀ event ∈ events, event.operationId = operationId
  sequences : events.map (·.sequence) = List.range' sequence events.length
  above : ∀ event ∈ s.auditEventsOf operationId, event.sequence < sequence

/-- Every id is unused, and no two of them are the same. -/
def FreshAuditIds (s : Store) (ids : List OpaqueId) : Prop :=
  ids.Nodup ∧ ∀ id ∈ ids, s.auditEvents.find? id = none
deriving Decidable

theorem append_commits {s : Store} {operationId : OpaqueId} {sequence : Nat} {event : AuditEvent}
    {rest : List AuditEvent} (numbered : NumberedOn s operationId sequence (event :: rest))
    (fresh : FreshAuditIds s ((event :: rest).map (·.auditEventId))) :
    ∃ s', AuditRepository.append event s = .ok ((), s') ∧
      NumberedOn s' operationId (sequence + 1) rest ∧
      FreshAuditIds s' (rest.map (·.auditEventId)) := by
  have about : event.operationId = operationId := numbered.about event List.mem_cons_self
  have sequences := numbered.sequences
  rw [List.map_cons, List.length_cons, List.range'_succ, List.cons.injEq] at sequences
  have unused := fresh.2 event.auditEventId (by simp)
  obtain ⟨auditEvents, inserted, rows⟩ := insert?_isSome unused
  have distinct : ((s.auditEventsOf event.operationId).any fun row =>
      decide (row.sequence = event.sequence)) = false := by
    simp only [List.any_eq_false, decide_eq_true_eq, about]
    intro row member same
    have below := numbered.above row member
    omega
  refine ⟨{ s with auditEvents }, ?_, ⟨fun later member => ?_, sequences.2, fun row member => ?_⟩,
    ?_, fun id member => ?_⟩
  · simp [AuditRepository.append, inserted, distinct]
  · exact numbered.about later (List.mem_cons_of_mem _ member)
  · rw [Store.auditEventsOf, select, rows, List.filter_append, List.mem_append] at member
    obtain old | new := member
    · exact Nat.lt_succ_of_lt (numbered.above row old)
    · have same := List.mem_singleton.mp (List.mem_filter.mp new).1
      rw [same, sequences.1]
      exact Nat.lt_succ_self _
  · exact (List.nodup_cons.mp fresh.1).2
  · have differs : event.auditEventId ≠ id := by
      rintro rfl
      exact (List.nodup_cons.mp fresh.1).1 member
    rw [find?_insert inserted, if_neg differs]
    exact fresh.2 id (List.mem_cons_of_mem _ member)

theorem appendAll_commits {s : Store} {operationId : OpaqueId} {sequence : Nat}
    {events : List AuditEvent} (numbered : NumberedOn s operationId sequence events)
    (fresh : FreshAuditIds s (events.map (·.auditEventId))) :
    ∃ s', appendAll events s = .ok ((), s') := by
  induction events generalizing s sequence with
  | nil => exact ⟨s, rfl⟩
  | cons event rest ih =>
    obtain ⟨s₁, first, numbered, fresh⟩ := append_commits numbered fresh
    obtain ⟨s', later⟩ := ih numbered fresh
    exact ⟨s', bind_ok.mpr ⟨(), s₁, first, later⟩⟩

/-- Appended events had new ids: the table they end in holds each id once. -/
theorem freshAuditIds_of_appended {s s' : Store} {events : List AuditEvent}
    (rows : s'.auditEvents.rows = s.auditEvents.rows ++ events) :
    FreshAuditIds s (events.map (·.auditEventId)) := by
  have nodup := s'.auditEvents.nodup
  rw [rows, List.map_append, List.nodup_append] at nodup
  refine ⟨nodup.2.1, fun id member => find?_none.mpr fun row stored same => ?_⟩
  exact nodup.2.2 _ (List.mem_map_of_mem stored) _ member same

/-! ## Commands without rows -/

/-- The ids of the events a command writes. -/
def auditIds (command : OperationCommand) (loaded : Operation) (related : RelatedRecords) :
    List OpaqueId :=
  (detailEntries command loaded related).map (·.1) ++ [command.transitionAuditEventId]

theorem auditEventsFor_ids (s : Store) (command : OperationCommand)
    (loaded newOperation : Operation) (related : RelatedRecords) :
    (auditEventsFor s command loaded newOperation related).map (·.auditEventId) =
      auditIds command loaded related := by
  rw [auditEventsFor, numberEvents_ids, List.map_append]
  rfl

/-- The command's clock and ids are ones the journal takes. -/
structure Acceptable (command : OperationCommand) (loaded : Operation)
    (related : RelatedRecords) (s : Store) : Prop where
  clock : loaded.createdAt.value ≤ command.occurredAt.value
  audits : FreshAuditIds s (auditIds command loaded related)
  outbox : ∀ row, outboxRow? command (movedOperation command loaded) = some row →
    s.outboxEvent? row.eventId = none

theorem OperationMoved.acceptable {command : OperationCommand} {loaded : Operation}
    {s s' : Store} (made : OperationMoved command loaded s s') :
    Acceptable command loaded (loadRelated s command loaded) s := by
  refine ⟨made.clock, ?_, fun row carried => ?_⟩
  · have fresh := freshAuditIds_of_appended made.auditEvents
    rwa [auditEventsFor_ids] at fresh
  · have inserted := made.outboxEvents
    rw [carried] at inserted
    exact inserted.fresh

theorem acceptable_of_commit {command : OperationCommand} {loaded : Operation}
    {related : RelatedRecords} {s s' : Store} {result : TransitionResult}
    (ran : commitOperation command loaded related s = .ok (result, s')) :
    Acceptable command loaded related s := by
  obtain ⟨clock, -, -, audits, outbox, -⟩ := commitOperation_ok ran
  refine ⟨clock, ?_, fun row carried => ?_⟩
  · have fresh := freshAuditIds_of_appended audits
    rwa [auditEventsFor_ids] at fresh
  · rw [carried] at outbox
    exact outbox.fresh

private theorem insertOutbox_commits {command : OperationCommand} {moved : Operation} {s : Store}
    (fresh : ∀ row, outboxRow? command moved = some row → s.outboxEvent? row.eventId = none) :
    ∃ event? s', insertOutbox command moved s = .ok (event?, s') := by
  unfold insertOutbox
  unfold outboxRow? at fresh
  cases mapped : command.kind.outboxCommand? with
  | none => exact ⟨none, s, rfl⟩
  | some workCommand =>
    cases id : command.body.outboxEventId? with
    | none => exact ⟨none, s, rfl⟩
    | some eventId =>
      simp only [mapped, id, Option.some.injEq, forall_eq'] at fresh
      obtain ⟨outboxEvents, inserted, -⟩ := insert?_isSome fresh
      refine ⟨_, _, bind_ok.mpr ⟨(), { s with outboxEvents }, ?_, rfl⟩⟩
      simp [OutboxRepository.insert, inserted]

/-- Past its related writes, an accepted command commits. -/
theorem commitOperation_of_written {command : OperationCommand} {loaded : Operation}
    {related : RelatedRecords} {s s₀ : Store} {compensation? : Option Compensation}
    (wrote : writeRelated command related s = .ok (compensation?, s₀))
    (found : s.operation? loaded.operationId = some loaded)
    (version : (loaded.version : Int) = command.expectedVersion)
    (acceptable : Acceptable command loaded related s) :
    ∃ result s', commitOperation command loaded related s = .ok (result, s') := by
  obtain ⟨-, operations, audits, outbox⟩ := writeRelated_ok wrote
  have replaced : replaceOperation loaded command.kind.edge.2 (nextVersion loaded.version)
      command.occurredAt (pointersForKind command.body) s₀ =
        .ok (movedOperation command loaded, s₀) := by
    rw [replaceOperation, if_neg (by have clock := acceptable.clock; omega)]
    rfl
  have ahead : ((movedOperation command loaded).version : Int) = command.expectedVersion + 1 := by
    rw [← version]
    rfl
  have updated : OperationRepository.updateCas command.expectedVersion
      (movedOperation command loaded) s₀ =
        .ok ((), { s₀ with
          operations := s₀.operations.replace (movedOperation command loaded) }) := by
    have row : s₀.operation? (movedOperation command loaded).operationId = some loaded := by
      rw [Store.operation?, operations]
      exact found
    rw [OperationRepository.updateCas, if_neg (not_not_intro ahead)]
    simp only [row, version, if_true]
  let s₁ := { s₀ with operations := s₀.operations.replace (movedOperation command loaded) }
  have numbered : NumberedOn s₁ loaded.operationId (s₁.nextSequence loaded.operationId)
      (auditEventsFor s₁ command loaded (movedOperation command loaded) related) := by
    refine ⟨fun event member => (numberEvents_mem member).1, ?_,
      fun event member => sequence_lt_nextSequence member⟩
    rw [auditEventsFor, numberEvents_sequences]
  have fresh : FreshAuditIds s₁ ((auditEventsFor s₁ command loaded
      (movedOperation command loaded) related).map (·.auditEventId)) := by
    rw [auditEventsFor_ids, FreshAuditIds, show s₁.auditEvents = s.auditEvents from audits]
    exact acceptable.audits
  obtain ⟨s₂, appended⟩ := appendAll_commits numbered fresh
  obtain ⟨auditEvents, rfl, -⟩ := appendAll_ok appended
  have audited : appendAudits command loaded (movedOperation command loaded) related s₁ =
      .ok (auditEventsFor s₁ command loaded (movedOperation command loaded) related,
        { s₁ with auditEvents }) :=
    bind_ok.mpr ⟨s₁, s₁, rfl, bind_ok.mpr ⟨(), _, appended, rfl⟩⟩
  have unused : ∀ row, outboxRow? command (movedOperation command loaded) = some row →
      ({ s₁ with auditEvents } : Store).outboxEvent? row.eventId = none := by
    intro row carried
    have free := acceptable.outbox row carried
    rwa [Store.outboxEvent?, ← outbox] at free
  obtain ⟨event?, s', outboxed⟩ := insertOutbox_commits unused
  exact ⟨_, s', bind_ok.mpr ⟨compensation?, s₀, wrote, bind_ok.mpr ⟨_, s₀, replaced,
    bind_ok.mpr ⟨(), s₁, updated, bind_ok.mpr ⟨_, _, audited, bind_ok.mpr ⟨event?, s',
      outboxed, rfl⟩⟩⟩⟩⟩⟩

/-- A command that writes no related row commits exactly when the journal takes its clock and
its ids. -/
theorem commitOperation_iff {command : OperationCommand} {loaded : Operation}
    {related : RelatedRecords} {s : Store} {compensation? : Option Compensation}
    (bare : writeRelated command related = pure compensation?)
    (found : s.operation? loaded.operationId = some loaded)
    (version : (loaded.version : Int) = command.expectedVersion) :
    (∃ result s', commitOperation command loaded related s = .ok (result, s')) ↔
      Acceptable command loaded related s := by
  constructor
  · rintro ⟨result, s', ran⟩
    exact acceptable_of_commit ran
  · have wrote : writeRelated command related s = .ok (compensation?, s) := by
      rw [bare]
      rfl
    exact commitOperation_of_written wrote found version

/-! ## Related writes -/

section Writes

variable {s : Store}

private theorem insertPolicyDecision_commits {decision? : Option PolicyDecision}
    (fresh : ∀ decision, decision? = some decision →
      s.policyDecision? decision.policyDecisionId = none) :
    ∃ t, whenSome decision? PolicyDecisionRepository.insert s =
      .ok ((), { s with policyDecisions := t }) := by
  cases decision? with
  | none => exact ⟨_, rfl⟩
  | some decision =>
    obtain ⟨t, inserted, -⟩ := insert?_isSome (fresh decision rfl)
    exact ⟨t, by simp [whenSome, PolicyDecisionRepository.insert, inserted]⟩

private theorem insertApproval_commits {approval? : Option Approval}
    (fresh : ∀ approval, approval? = some approval → s.approval? approval.approvalId = none) :
    ∃ t, Inserted approval? s.approvals t ∧
      whenSome approval? ApprovalRepository.insert s = .ok ((), { s with approvals := t }) := by
  cases approval? with
  | none => exact ⟨_, rfl, rfl⟩
  | some approval =>
    obtain ⟨t, inserted, -⟩ := insert?_isSome (fresh approval rfl)
    exact ⟨t, inserted, by simp [whenSome, ApprovalRepository.insert, inserted]⟩

private theorem decideApproval_commits {approval? : Option Approval}
    (pending : ∀ approval, approval? = some approval → ∃ row,
      s.approval? approval.approvalId = some row ∧ row.state = .pending) :
    ∃ t, whenSome approval? (ApprovalRepository.updateCasState · .pending) s =
      .ok ((), { s with approvals := t }) := by
  cases approval? with
  | none => exact ⟨_, rfl⟩
  | some approval =>
    obtain ⟨row, found, state⟩ := pending approval rfl
    exact ⟨_, state ▸ ApprovalRepository.updateCasState_commits found⟩

private theorem insertAttempt_commits {attempt? : Option ExecutionAttempt}
    (fresh : ∀ attempt, attempt? = some attempt → s.attempt? attempt.attemptId = none ∧
      ∀ row ∈ s.attemptsOf attempt.operationId, row.attemptNumber ≠ attempt.attemptNumber) :
    ∃ t, Inserted attempt? s.attempts t ∧
      whenSome attempt? AttemptRepository.insert s = .ok ((), { s with attempts := t }) := by
  cases attempt? with
  | none => exact ⟨_, rfl, rfl⟩
  | some attempt =>
    obtain ⟨unused, number⟩ := fresh attempt rfl
    obtain ⟨t, inserted, -⟩ := insert?_isSome
      (show s.attempts.find? attempt.attemptId = none from unused)
    refine ⟨t, inserted, ?_⟩
    simp only [whenSome, AttemptRepository.insert, inserted, List.any_eq_true, decide_eq_true_eq]
    rw [if_neg]
    rintro ⟨row, member, same⟩
    exact number row member same

private theorem completeAttempt_commits {completed? : Option ExecutionAttempt}
    (checked : ∀ completed, completed? = some completed → completed.state = .completed ∧
      ∃ row, s.attempt? completed.attemptId = some row ∧ row.state = .started ∧
        executionLifecycle completed.state row.startedAt completed.completedAt
          completed.outcome = true) :
    ∃ t, whenSome completed? AttemptRepository.complete s =
      .ok ((), { s with attempts := t }) := by
  cases completed? with
  | none => exact ⟨_, rfl⟩
  | some completed =>
    obtain ⟨state, row, found, started, accepted⟩ := checked completed rfl
    exact ⟨_, AttemptRepository.complete_commits state found started accepted⟩

private theorem insertRequest_commits {request? : Option VerificationRequest}
    (fresh : ∀ request, request? = some request →
      s.verification? request.verificationId = none) :
    ∃ t, Inserted (request?.map fun request => (request, none)) s.verifications t ∧
      whenSome request? VerificationRepository.insertRequest s =
        .ok ((), { s with verifications := t }) := by
  cases request? with
  | none => exact ⟨_, rfl, rfl⟩
  | some request =>
    obtain ⟨t, inserted, -⟩ := insert?_isSome
      (show s.verifications.find? (verificationKey (request, none)) = none from fresh request rfl)
    exact ⟨t, inserted, by simp [whenSome, VerificationRepository.insertRequest, inserted]⟩

theorem completeResult_commits {result? : Option VerificationResult}
    (pending : ∀ result, result? = some result → ∃ request,
      s.verification? result.verificationId = some (request, none)) :
    ∃ t, ResultStored result? s.verifications t ∧
      whenSome result? VerificationRepository.complete s =
        .ok ((), { s with verifications := t }) := by
  cases result? with
  | none => exact ⟨_, rfl, rfl⟩
  | some result =>
    obtain ⟨request, found⟩ := pending result rfl
    exact ⟨_, ⟨request, found, rfl⟩, VerificationRepository.complete_commits found⟩

private theorem insertReconciliation_commits {stored? : Option StoredReconciliationDecision}
    (fresh : ∀ stored, stored? = some stored →
      s.reconciliationDecisions.find? stored.reconciliationDecisionId = none) :
    ∃ t, whenSome stored? ReconciliationRepository.insert s =
      .ok ((), { s with reconciliationDecisions := t }) := by
  cases stored? with
  | none => exact ⟨_, rfl⟩
  | some stored =>
    obtain ⟨t, inserted, -⟩ := insert?_isSome (fresh stored rfl)
    exact ⟨t, by simp [whenSome, ReconciliationRepository.insert, inserted]⟩

private theorem insertCompensation_commits {compensation? : Option Compensation}
    (fresh : ∀ compensation, compensation? = some compensation →
      s.compensation? compensation.compensationId = none ∧
        ∀ row ∈ s.compensations.rows,
          row.idempotencyIdentity ≠ compensation.idempotencyIdentity) :
    ∃ t, Inserted compensation? s.compensations t ∧
      whenSome compensation? CompensationRepository.insert s =
        .ok ((), { s with compensations := t }) := by
  cases compensation? with
  | none => exact ⟨_, rfl, rfl⟩
  | some compensation =>
    obtain ⟨unused, identity⟩ := fresh compensation rfl
    obtain ⟨t, inserted, -⟩ := insert?_isSome
      (show s.compensations.find? compensation.compensationId = none from unused)
    refine ⟨t, inserted, ?_⟩
    simp only [whenSome, CompensationRepository.insert, inserted, List.any_eq_true,
      decide_eq_true_eq]
    rw [if_neg]
    rintro ⟨row, member, same⟩
    exact identity row member same

theorem completeCompensationAttempt_commits {completed? : Option CompensationAttempt}
    (checked : ∀ completed, completed? = some completed → completed.state = .completed ∧ ∃ row,
      s.compensationAttempt? completed.compensationAttemptId = some row ∧
        row.state = .started) :
    ∃ t, whenSome completed? CompensationAttemptRepository.complete s =
      .ok ((), { s with compensationAttempts := t }) := by
  cases completed? with
  | none => exact ⟨_, rfl⟩
  | some completed =>
    obtain ⟨state, row, found, started⟩ := checked completed rfl
    exact ⟨_, CompensationAttemptRepository.complete_commits state found started⟩

theorem stepRecord_commits {compensation : Compensation} (state : CompensationState)
    {updatedAt : UtcTimestamp} {expectedVersion : Int}
    (clock : compensation.createdAt.value ≤ updatedAt.value)
    (found : s.compensation? compensation.compensationId = some compensation)
    (version : (compensation.version : Int) = expectedVersion) :
    replaceCompensation compensation state (nextVersion compensation.version) updatedAt s =
        .ok (steppedCompensation compensation state updatedAt, s) ∧
      CompensationRepository.updateCas expectedVersion
          (steppedCompensation compensation state updatedAt) s =
        .ok ((), { s with compensations :=
          s.compensations.replace (steppedCompensation compensation state updatedAt) }) := by
  constructor
  · rw [replaceCompensation, if_neg (by omega)]
    rfl
  · rw [← version]
    exact CompensationRepository.updateCas_commits found rfl

private theorem moveCompensation_commits {command : OperationCommand} {related : RelatedRecords}
    (ready : ∀ state compensation, compensationTargetState? command.kind = some state →
      movedCompensation command related = some compensation →
      compensation.createdAt.value ≤ command.occurredAt.value ∧
        s.compensation? compensation.compensationId = some compensation) :
    ∃ compensation? s', moveCompensation command related s = .ok (compensation?, s') := by
  unfold moveCompensation
  cases target : compensationTargetState? command.kind with
  | none => exact ⟨_, _, rfl⟩
  | some state =>
    cases moved : movedCompensation command related with
    | none => exact ⟨_, _, rfl⟩
    | some compensation =>
      obtain ⟨clock, found⟩ := ready state compensation target moved
      obtain ⟨replaced, updated⟩ := stepRecord_commits state clock found rfl
      exact ⟨_, _, bind_ok.mpr ⟨_, s, replaced, bind_ok.mpr ⟨(), _, updated, rfl⟩⟩⟩

end Writes

/-- The journal takes every related row the command writes. -/
structure RelatedAcceptable (command : OperationCommand) (related : RelatedRecords) (s : Store) :
    Prop where
  policyDecision : ∀ decision, command.body.policyDecision? = some decision →
    s.policyDecision? decision.policyDecisionId = none
  requestedApproval : ∀ approval, command.body.requestedApproval? = some approval →
    s.approval? approval.approvalId = none
  decidedApproval : ∀ approval, command.body.decidedApproval? = some approval → ∃ row,
    s.approval? approval.approvalId = some row ∧ row.state = .pending
  claimedAttempt : ∀ attempt, command.body.claimedAttempt? = some attempt →
    s.attempt? attempt.attemptId = none ∧
      ∀ row ∈ s.attemptsOf attempt.operationId, row.attemptNumber ≠ attempt.attemptNumber
  completedAttempt : ∀ completed, attemptToComplete command related = some completed →
    completed.state = .completed ∧ ∃ row, s.attempt? completed.attemptId = some row ∧
      row.state = .started ∧ executionLifecycle completed.state row.startedAt
        completed.completedAt completed.outcome = true
  request : ∀ request, command.body.verificationRequest? = some request →
    s.verification? request.verificationId = none
  result : ∀ result, resultToComplete command related = some result → ∃ request,
    s.verification? result.verificationId = some (request, none)
  reconciliation : ∀ stored, command.body.reconciliation? = some stored →
    s.reconciliationDecisions.find? stored.reconciliationDecisionId = none
  startedCompensation : ∀ compensation, command.body.startedCompensation? = some compensation →
    s.compensation? compensation.compensationId = none ∧
      ∀ row ∈ s.compensations.rows, row.idempotencyIdentity ≠ compensation.idempotencyIdentity
  compensationAttempt : ∀ completed,
    compensationAttemptToComplete command related = some completed →
    completed.state = .completed ∧ ∃ row,
      s.compensationAttempt? completed.compensationAttemptId = some row ∧ row.state = .started
  compensationResult : ∀ result, compensationResultToComplete command related = some result →
    ∃ request, s.verification? result.verificationId = some (request, none)
  movedCompensation : ∀ state compensation, compensationTargetState? command.kind = some state →
    Transitions.movedCompensation command related = some compensation →
    compensation.createdAt.value ≤ command.occurredAt.value ∧
      s.compensation? compensation.compensationId = some compensation

/-- No command carries both an effect's verification result and a compensation's. -/
theorem singleResult (body : CommandBody) :
    body.verificationResult? = none ∨ body.compensationVerificationResult? = none := by
  cases body <;> first | exact .inl rfl | exact .inr rfl

theorem writeRelated_commits {command : OperationCommand} {related : RelatedRecords} {s : Store}
    (acceptable : RelatedAcceptable command related s) :
    ∃ compensation? s', writeRelated command related s = .ok (compensation?, s') := by
  obtain ⟨t₁, h₁⟩ := insertPolicyDecision_commits acceptable.policyDecision
  let s₁ : Store := { s with policyDecisions := t₁ }
  obtain ⟨t₂, approvals, h₂⟩ :=
    insertApproval_commits (s := s₁) acceptable.requestedApproval
  let s₂ : Store := { s₁ with approvals := t₂ }
  have pending : ∀ approval, command.body.decidedApproval? = some approval → ∃ row,
      s₂.approval? approval.approvalId = some row ∧ row.state = .pending := by
    intro approval carried
    obtain ⟨row, found, state⟩ := acceptable.decidedApproval approval carried
    exact ⟨row, approvals.find?_of_some found, state⟩
  obtain ⟨t₃, h₃⟩ := decideApproval_commits pending
  let s₃ : Store := { s₂ with approvals := t₃ }
  obtain ⟨t₄, attempts, h₄⟩ := insertAttempt_commits (s := s₃) acceptable.claimedAttempt
  let s₄ : Store := { s₃ with attempts := t₄ }
  have started : ∀ completed, attemptToComplete command related = some completed →
      completed.state = .completed ∧ ∃ row, s₄.attempt? completed.attemptId = some row ∧
        row.state = .started ∧ executionLifecycle completed.state row.startedAt
          completed.completedAt completed.outcome = true := by
    intro completed writes
    obtain ⟨state, row, found, rest⟩ := acceptable.completedAttempt completed writes
    exact ⟨state, row, attempts.find?_of_some found, rest⟩
  obtain ⟨t₅, h₅⟩ := completeAttempt_commits started
  let s₅ : Store := { s₄ with attempts := t₅ }
  obtain ⟨t₆, requests, h₆⟩ := insertRequest_commits (s := s₅) acceptable.request
  let s₆ : Store := { s₅ with verifications := t₆ }
  have asked : ∀ result, resultToComplete command related = some result → ∃ request,
      s₆.verification? result.verificationId = some (request, none) := by
    intro result writes
    obtain ⟨request, found⟩ := acceptable.result result writes
    exact ⟨request, requests.find?_of_some found⟩
  obtain ⟨t₇, results, h₇⟩ := completeResult_commits asked
  let s₇ : Store := { s₆ with verifications := t₇ }
  obtain ⟨t₈, h₈⟩ := insertReconciliation_commits (s := s₇) acceptable.reconciliation
  let s₈ : Store := { s₇ with reconciliationDecisions := t₈ }
  obtain ⟨t₉, records, h₉⟩ :=
    insertCompensation_commits (s := s₈) acceptable.startedCompensation
  let s₉ : Store := { s₈ with compensations := t₉ }
  obtain ⟨t₁₀, h₁₀⟩ :=
    completeCompensationAttempt_commits (s := s₉) acceptable.compensationAttempt
  let s₁₀ : Store := { s₉ with compensationAttempts := t₁₀ }
  have compensationAsked : ∀ result,
      compensationResultToComplete command related = some result → ∃ request,
        s₁₀.verification? result.verificationId = some (request, none) := by
    intro result writes
    obtain ⟨request, found⟩ := acceptable.compensationResult result writes
    have silent : resultToComplete command related = none := by
      obtain none_ | none_ := singleResult command.body
      · simp [resultToComplete, none_]
      · simp [compensationResultToComplete, none_] at writes
    rw [silent] at results
    obtain rfl : t₇ = t₆ := results
    exact ⟨request, requests.find?_of_some found⟩
  obtain ⟨t₁₁, -, h₁₁⟩ := completeResult_commits compensationAsked
  let s₁₁ : Store := { s₁₀ with verifications := t₁₁ }
  have ready : ∀ state compensation, compensationTargetState? command.kind = some state →
      movedCompensation command related = some compensation →
      compensation.createdAt.value ≤ command.occurredAt.value ∧
        s₁₁.compensation? compensation.compensationId = some compensation := by
    intro state compensation target moved
    obtain ⟨clock, found⟩ := acceptable.movedCompensation state compensation target moved
    exact ⟨clock, records.find?_of_some found⟩
  obtain ⟨compensation?, s', h₁₂⟩ := moveCompensation_commits ready
  exact ⟨compensation?, s', bind_ok.mpr ⟨(), s₁, h₁, bind_ok.mpr ⟨(), s₂, h₂,
    bind_ok.mpr ⟨(), s₃, h₃, bind_ok.mpr ⟨(), s₄, h₄, bind_ok.mpr ⟨(), s₅, h₅,
      bind_ok.mpr ⟨(), s₆, h₆, bind_ok.mpr ⟨(), s₇, h₇, bind_ok.mpr ⟨(), s₈, h₈,
        bind_ok.mpr ⟨(), s₉, h₉, bind_ok.mpr ⟨(), s₁₀, h₁₀, bind_ok.mpr ⟨(), s₁₁, h₁₁,
          h₁₂⟩⟩⟩⟩⟩⟩⟩⟩⟩⟩⟩⟩

/-- Every kind's edge is a legal transition. -/
theorem edge_legal {kind : TransitionKind} {source : OperationState}
    (edge : kind.edge.1 = some source) :
    evaluateOperationTransition (some source) kind.edge.2 = true := by
  revert edge
  cases kind <;> rintro ⟨⟩ <;> decide

/-- An operation command whose checks pass is applied when the journal takes its clock, its ids
and its rows. -/
theorem applyOperation_applies {command : OperationCommand} {loaded : Operation} {s : Store}
    (found : s.operation? command.operationId = some loaded)
    (version : (loaded.version : Int) = command.expectedVersion)
    (source : command.kind.edge.1 = some loaded.state)
    (allowed : evaluatePreconditions command loaded (loadRelated s command loaded) = none)
    (acceptable : Acceptable command loaded (loadRelated s command loaded) s)
    (related : RelatedAcceptable command (loadRelated s command loaded) s) :
    ∃ result s', applyOperation command s = .ok (result, s') ∧ result.outcome = .applied := by
  obtain ⟨compensation?, s₀, wrote⟩ := writeRelated_commits related
  have key : loaded.operationId = command.operationId := (find?_some found).2
  obtain ⟨result, s', ran⟩ :=
    commitOperation_of_written wrote (key ▸ found) version acceptable
  obtain ⟨-, -, -, -, -, applied, -⟩ := commitOperation_ok ran
  refine ⟨result, s', ?_, applied⟩
  rw [applyOperation_current found version source (edge_legal source), allowed]
  exact ran

/-! ## The record an applied command answers with -/

theorem moveCompensation_stepped {command : OperationCommand} {related : RelatedRecords}
    {state : CompensationState} {record : Compensation} {answered : Option Compensation}
    {s s' : Store} (target : compensationTargetState? command.kind = some state)
    (moved : movedCompensation command related = some record)
    (ran : moveCompensation command related s = .ok (answered, s')) :
    answered = some (steppedCompensation record state command.occurredAt) := by
  unfold moveCompensation at ran
  simp only [target, moved] at ran
  obtain ⟨_, _, replaced, rest⟩ := bind_ok.mp ran
  obtain ⟨-, rfl, rfl⟩ := replaceCompensation_ok replaced
  obtain ⟨_, _, -, done⟩ := bind_ok.mp rest
  obtain ⟨rfl, -⟩ := pure_ok.mp done
  rfl

theorem writeRelated_stepped {command : OperationCommand} {related : RelatedRecords}
    {state : CompensationState} {record : Compensation} {answered : Option Compensation}
    {s s' : Store} (target : compensationTargetState? command.kind = some state)
    (moved : movedCompensation command related = some record)
    (ran : writeRelated command related s = .ok (answered, s')) :
    answered = some (steppedCompensation record state command.occurredAt) := by
  unfold writeRelated at ran
  iterate 11 obtain ⟨_, _, -, ran⟩ := bind_ok.mp ran
  exact moveCompensation_stepped target moved ran

/-- A command that moves the record answers with the record as moved. -/
theorem commitOperation_stepped {command : OperationCommand} {loaded : Operation}
    {related : RelatedRecords} {state : CompensationState} {record : Compensation}
    {s s' : Store} {result : TransitionResult}
    (target : compensationTargetState? command.kind = some state)
    (moved : movedCompensation command related = some record)
    (ran : commitOperation command loaded related s = .ok (result, s')) :
    result.compensation = some (steppedCompensation record state command.occurredAt) := by
  unfold commitOperation at ran
  obtain ⟨answered, _, wrote, rest⟩ := bind_ok.mp ran
  iterate 4 obtain ⟨_, _, -, rest⟩ := bind_ok.mp rest
  obtain ⟨rfl, -⟩ := pure_ok.mp rest
  exact writeRelated_stepped target moved wrote

end Stateback.Transitions
