import Stateback.Persistence.Store
/-!
# What each repository write does

One lemma for each repository method: when the method returns, which guard held and which
table changed.  Callers cite these and never unfold a repository.
-/

namespace Stateback.Persistence

open Stateback.Domain KeyedTable KeyedTable.Table Transaction

variable {s s' : Store} {u : Unit}

private theorem ok_state {new : Store}
    (h : (.ok ((), new) : Except Raised (Unit × Store)) = .ok (u, s')) : s' = new := by
  cases h
  rfl

theorem OperationRepository.insert_ok {operation : Operation}
    (h : OperationRepository.insert operation s = .ok (u, s')) :
    operation.version = 1 ∧
      ∃ operations, s.operations.insert? operation = some operations ∧
        s' = { s with operations } := by
  unfold OperationRepository.insert at h
  split at h
  · cases h
  next version =>
    split at h
    · cases h
    split at h
    next operations inserted =>
      exact ⟨by simpa using version, operations, inserted, ok_state h⟩
    · cases h

theorem OperationRepository.updateCas_ok {expectedVersion : Int} {operation : Operation}
    (h : OperationRepository.updateCas expectedVersion operation s = .ok (u, s')) :
    (operation.version : Int) = expectedVersion + 1 ∧
      (∃ row, s.operation? operation.operationId = some row ∧
        (row.version : Int) = expectedVersion) ∧
      s' = { s with operations := s.operations.replace operation } := by
  unfold OperationRepository.updateCas at h
  split at h
  · cases h
  next version =>
    split at h
    · cases h
    next row found =>
      split at h
      next same =>
        exact ⟨by simpa using version, ⟨row, found, same⟩, ok_state h⟩
      · cases h

theorem AttemptRepository.insert_ok {attempt : ExecutionAttempt}
    (h : AttemptRepository.insert attempt s = .ok (u, s')) :
    (∀ row ∈ s.attemptsOf attempt.operationId, row.attemptNumber ≠ attempt.attemptNumber) ∧
      ∃ attempts, s.attempts.insert? attempt = some attempts ∧ s' = { s with attempts } := by
  unfold AttemptRepository.insert at h
  split at h
  · cases h
  next attempts inserted =>
    split at h
    · cases h
    next fresh =>
      exact ⟨by simpa using fresh, attempts, inserted, ok_state h⟩

theorem AttemptRepository.complete_ok {attempt : ExecutionAttempt}
    (h : AttemptRepository.complete attempt s = .ok (u, s')) :
    attempt.state = .completed ∧
      ∃ row accepted, s.attempt? attempt.attemptId = some row ∧ row.state = .started ∧
        s' = { s with attempts := s.attempts.replace (completedRow row attempt accepted) } := by
  unfold AttemptRepository.complete at h
  split at h
  · cases h
  next completed =>
    split at h
    · cases h
    next row found =>
      split at h
      next started =>
        split at h
        next accepted =>
          exact ⟨by simpa using completed, row, accepted, found, started, ok_state h⟩
        · cases h
      · cases h

theorem PolicyDecisionRepository.insert_ok {decision : PolicyDecision}
    (h : PolicyDecisionRepository.insert decision s = .ok (u, s')) :
    ∃ policyDecisions, s.policyDecisions.insert? decision = some policyDecisions ∧
      s' = { s with policyDecisions } := by
  unfold PolicyDecisionRepository.insert at h
  split at h
  next policyDecisions inserted => exact ⟨policyDecisions, inserted, ok_state h⟩
  · cases h

theorem ApprovalRepository.insert_ok {approval : Approval}
    (h : ApprovalRepository.insert approval s = .ok (u, s')) :
    ∃ approvals, s.approvals.insert? approval = some approvals ∧
      s' = { s with approvals } := by
  unfold ApprovalRepository.insert at h
  split at h
  next approvals inserted => exact ⟨approvals, inserted, ok_state h⟩
  · cases h

theorem ApprovalRepository.updateCasState_ok {approval : Approval} {expected : ApprovalState}
    (h : ApprovalRepository.updateCasState approval expected s = .ok (u, s')) :
    (∃ row, s.approval? approval.approvalId = some row ∧ row.state = expected) ∧
      s' = { s with approvals := s.approvals.replace approval } := by
  unfold ApprovalRepository.updateCasState at h
  split at h
  · cases h
  next row found =>
    split at h
    next same => exact ⟨⟨row, found, same⟩, ok_state h⟩
    · cases h

theorem VerificationRepository.insertRequest_ok {request : VerificationRequest}
    (h : VerificationRepository.insertRequest request s = .ok (u, s')) :
    ∃ verifications, s.verifications.insert? (request, none) = some verifications ∧
      s' = { s with verifications } := by
  unfold VerificationRepository.insertRequest at h
  split at h
  next verifications inserted => exact ⟨verifications, inserted, ok_state h⟩
  · cases h

theorem VerificationRepository.complete_ok {result : VerificationResult}
    (h : VerificationRepository.complete result s = .ok (u, s')) :
    ∃ request, s.verification? result.verificationId = some (request, none) ∧
      s' = { s with verifications := s.verifications.replace (request, some result) } := by
  unfold VerificationRepository.complete at h
  split at h
  · cases h
  next request stored found =>
    split at h
    · cases h
    · exact ⟨request, found, ok_state h⟩

theorem CompensationRepository.insert_ok {compensation : Compensation}
    (h : CompensationRepository.insert compensation s = .ok (u, s')) :
    ∃ compensations, s.compensations.insert? compensation = some compensations ∧
      s' = { s with compensations } := by
  unfold CompensationRepository.insert at h
  split at h
  · cases h
  next compensations inserted =>
    split at h
    · cases h
    · exact ⟨compensations, inserted, ok_state h⟩

theorem CompensationRepository.updateCas_ok {expectedVersion : Int} {compensation : Compensation}
    (h : CompensationRepository.updateCas expectedVersion compensation s = .ok (u, s')) :
    (compensation.version : Int) = expectedVersion + 1 ∧
      (∃ row, s.compensation? compensation.compensationId = some row ∧
        (row.version : Int) = expectedVersion) ∧
      s' = { s with compensations := s.compensations.replace compensation } := by
  unfold CompensationRepository.updateCas at h
  split at h
  · cases h
  next version =>
    split at h
    · cases h
    next row found =>
      split at h
      next same =>
        exact ⟨by simpa using version, ⟨row, found, same⟩, ok_state h⟩
      · cases h

theorem CompensationAttemptRepository.insert_ok {attempt : CompensationAttempt}
    (h : CompensationAttemptRepository.insert attempt s = .ok (u, s')) :
    (∀ row ∈ s.compensationAttemptsOf attempt.compensationId,
        row.attemptNumber ≠ attempt.attemptNumber) ∧
      ∃ compensationAttempts,
        s.compensationAttempts.insert? attempt = some compensationAttempts ∧
          s' = { s with compensationAttempts } := by
  unfold CompensationAttemptRepository.insert at h
  split at h
  · cases h
  next compensationAttempts inserted =>
    split at h
    · cases h
    next fresh =>
      exact ⟨by simpa using fresh, compensationAttempts, inserted, ok_state h⟩

theorem CompensationAttemptRepository.complete_ok {attempt : CompensationAttempt}
    (h : CompensationAttemptRepository.complete attempt s = .ok (u, s')) :
    attempt.state = .completed ∧
      ∃ row, s.compensationAttempt? attempt.compensationAttemptId = some row ∧
        row.state = .started ∧
        s' = { s with
          compensationAttempts := s.compensationAttempts.replace (completedRow row attempt) } := by
  unfold CompensationAttemptRepository.complete at h
  split at h
  · cases h
  next completed =>
    split at h
    · cases h
    next row found =>
      split at h
      next started =>
        exact ⟨by simpa using completed, row, found, started, ok_state h⟩
      · cases h

theorem AuditRepository.append_ok {event : AuditEvent}
    (h : AuditRepository.append event s = .ok (u, s')) :
    ∃ auditEvents, s.auditEvents.insert? event = some auditEvents ∧
      s' = { s with auditEvents } := by
  unfold AuditRepository.append at h
  split at h
  · cases h
  next auditEvents inserted =>
    split at h
    · cases h
    · exact ⟨auditEvents, inserted, ok_state h⟩

theorem OutboxRepository.insert_ok {event : OutboxEvent}
    (h : OutboxRepository.insert event s = .ok (u, s')) :
    ∃ outboxEvents, s.outboxEvents.insert? event = some outboxEvents ∧
      s' = { s with outboxEvents } := by
  unfold OutboxRepository.insert at h
  split at h
  next outboxEvents inserted => exact ⟨outboxEvents, inserted, ok_state h⟩
  · cases h

theorem OutboxRepository.markPublished_ok {eventId : OpaqueId} {publishedAt : UtcTimestamp}
    (h : OutboxRepository.markPublished eventId publishedAt s = .ok (u, s')) :
    s' = s ∨ ∃ row, s.outboxEvent? eventId = some row ∧ row.state = .pending ∧
      s' = { s with
        outboxEvents := s.outboxEvents.replace (publishedRow row publishedAt) } := by
  unfold OutboxRepository.markPublished at h
  split at h
  · cases h
  next row found =>
    split at h
    · exact .inl (ok_state h)
    next pending => exact .inr ⟨row, found, pending, ok_state h⟩

theorem ReconciliationRepository.insert_ok {stored : StoredReconciliationDecision}
    (h : ReconciliationRepository.insert stored s = .ok (u, s')) :
    ∃ reconciliationDecisions,
      s.reconciliationDecisions.insert? stored = some reconciliationDecisions ∧
        s' = { s with reconciliationDecisions } := by
  unfold ReconciliationRepository.insert at h
  split at h
  next decisions inserted => exact ⟨decisions, inserted, ok_state h⟩
  · cases h

/-! ## When a write commits -/

theorem AttemptRepository.complete_commits {attempt row : ExecutionAttempt}
    (state : attempt.state = .completed) (found : s.attempt? attempt.attemptId = some row)
    (started : row.state = .started)
    (accepted : executionLifecycle attempt.state row.startedAt attempt.completedAt
      attempt.outcome = true) :
    AttemptRepository.complete attempt s =
      .ok ((), { s with attempts := s.attempts.replace (completedRow row attempt accepted) }) := by
  rw [AttemptRepository.complete, if_neg (not_not_intro state), found]
  simp only [started, if_true, accepted, dif_pos]

theorem ApprovalRepository.updateCasState_commits {approval row : Approval}
    (found : s.approval? approval.approvalId = some row) :
    ApprovalRepository.updateCasState approval row.state s =
      .ok ((), { s with approvals := s.approvals.replace approval }) := by
  rw [ApprovalRepository.updateCasState, found]
  simp only [if_true]

theorem VerificationRepository.insertRequest_commits {request : VerificationRequest}
    (fresh : s.verification? request.verificationId = none) :
    ∃ verifications, VerificationRepository.insertRequest request s =
      .ok ((), { s with verifications }) := by
  obtain ⟨verifications, inserted, -⟩ :=
    insert?_isSome (show s.verifications.find? (verificationKey (request, none)) = none from fresh)
  exact ⟨verifications, by rw [VerificationRepository.insertRequest, inserted]⟩

theorem VerificationRepository.complete_commits {result : VerificationResult}
    {request : VerificationRequest}
    (found : s.verification? result.verificationId = some (request, none)) :
    VerificationRepository.complete result s =
      .ok ((), { s with verifications := s.verifications.replace (request, some result) }) := by
  rw [VerificationRepository.complete, found]

theorem CompensationRepository.updateCas_commits {compensation row : Compensation}
    (found : s.compensation? compensation.compensationId = some row)
    (version : compensation.version = row.version + 1) :
    CompensationRepository.updateCas row.version compensation s =
      .ok ((), { s with compensations := s.compensations.replace compensation }) := by
  have ahead : (compensation.version : Int) = (row.version : Int) + 1 := by
    rw [version]
    rfl
  rw [CompensationRepository.updateCas, if_neg (not_not_intro ahead), found]
  simp only [if_true]

theorem CompensationAttemptRepository.insert_commits {attempt : CompensationAttempt}
    (fresh : s.compensationAttempt? attempt.compensationAttemptId = none)
    (number : ∀ row ∈ s.compensationAttemptsOf attempt.compensationId,
      row.attemptNumber ≠ attempt.attemptNumber) :
    ∃ compensationAttempts, CompensationAttemptRepository.insert attempt s =
      .ok ((), { s with compensationAttempts }) := by
  obtain ⟨compensationAttempts, inserted, -⟩ := insert?_isSome
    (show s.compensationAttempts.find? attempt.compensationAttemptId = none from fresh)
  refine ⟨compensationAttempts, ?_⟩
  rw [CompensationAttemptRepository.insert, inserted]
  simp only [List.any_eq_true, decide_eq_true_eq]
  rw [if_neg]
  rintro ⟨row, member, same⟩
  exact number row member same

theorem CompensationAttemptRepository.complete_commits {attempt row : CompensationAttempt}
    (state : attempt.state = .completed)
    (found : s.compensationAttempt? attempt.compensationAttemptId = some row)
    (started : row.state = .started) :
    CompensationAttemptRepository.complete attempt s = .ok ((), { s with
      compensationAttempts := s.compensationAttempts.replace (completedRow row attempt) }) := by
  rw [CompensationAttemptRepository.complete, if_neg (not_not_intro state), found]
  simp only [started, if_true]

theorem OutboxRepository.insert_commits {event : OutboxEvent}
    (fresh : s.outboxEvent? event.eventId = none) :
    ∃ outboxEvents, OutboxRepository.insert event s = .ok ((), { s with outboxEvents }) := by
  obtain ⟨outboxEvents, inserted, -⟩ := insert?_isSome fresh
  exact ⟨outboxEvents, by rw [OutboxRepository.insert, inserted]⟩

end Stateback.Persistence
