import Stateback.Journal
/-!
# Evidence is written once

Audit events and decisions are only inserted.  An attempt, a verification and an approval are
inserted open and closed once: every writer that closes one checks that it is open.
-/

namespace Stateback.Invariants

open Domain Persistence Transitions KeyedTable KeyedTable.Table

variable {s s' : Store} {action : JournalAction}

/-- What the later journal still holds, as the earlier one held it. -/
structure WriteOnce (s s' : Store) : Prop where
  auditEvents : s.auditEvents.Keeps (fun _ => True) s'.auditEvents
  policyDecisions : s.policyDecisions.Keeps (fun _ => True) s'.policyDecisions
  reconciliationDecisions :
    s.reconciliationDecisions.Keeps (fun _ => True) s'.reconciliationDecisions
  attempts : s.attempts.Keeps (fun attempt => attempt.state = .completed) s'.attempts
  compensationAttempts : s.compensationAttempts.Keeps
    (fun attempt => attempt.state = .completed) s'.compensationAttempts
  verifications : s.verifications.Keeps (fun row => row.2 ≠ none) s'.verifications
  approvals : s.approvals.Keeps (fun approval => approval.state ≠ .pending) s'.approvals

theorem WriteOnce.refl (s : Store) : WriteOnce s s :=
  ⟨.refl _ _, .refl _ _, .refl _ _, .refl _ _, .refl _ _, .refl _ _, .refl _ _⟩

theorem WriteOnce.trans {s t u : Store} (first : WriteOnce s t) (second : WriteOnce t u) :
    WriteOnce s u where
  auditEvents := first.auditEvents.trans second.auditEvents
  policyDecisions := first.policyDecisions.trans second.policyDecisions
  reconciliationDecisions := first.reconciliationDecisions.trans second.reconciliationDecisions
  attempts := first.attempts.trans second.attempts
  compensationAttempts := first.compensationAttempts.trans second.compensationAttempts
  verifications := first.verifications.trans second.verifications
  approvals := first.approvals.trans second.approvals

/-! ## The writers -/

theorem decided_keeps {approval? : Option Approval} {t t' : Table Approval.approvalId}
    (decided : ApprovalDecided approval? t t') :
    t.Keeps (fun approval => approval.state ≠ .pending) t' := by
  cases approval? with
  | none =>
    obtain rfl : t' = t := decided
    exact .refl _ _
  | some approval =>
    obtain ⟨row, found, pending, rfl⟩ := decided
    exact keeps_replace found (not_not_intro pending)

theorem attemptCompleted_keeps {completed? : Option ExecutionAttempt}
    {t t' : Table ExecutionAttempt.attemptId} (completed : AttemptCompleted completed? t t') :
    t.Keeps (fun attempt => attempt.state = .completed) t' := by
  cases completed? with
  | none =>
    obtain rfl : t' = t := completed
    exact .refl _ _
  | some attempt =>
    obtain ⟨-, row, accepted, found, started, rfl⟩ := completed
    have key : row.attemptId = attempt.attemptId := (find?_some found).2
    have at_ : t.find? (AttemptRepository.completedRow row attempt accepted).attemptId = some row :=
      key ▸ found
    exact keeps_replace at_ (by simp [started])

theorem compensationAttemptCompleted_keeps {completed? : Option CompensationAttempt}
    {t t' : Table CompensationAttempt.compensationAttemptId}
    (completed : CompensationAttemptCompleted completed? t t') :
    t.Keeps (fun attempt => attempt.state = .completed) t' := by
  cases completed? with
  | none =>
    obtain rfl : t' = t := completed
    exact .refl _ _
  | some attempt =>
    obtain ⟨-, row, found, started, rfl⟩ := completed
    have key : row.compensationAttemptId = attempt.compensationAttemptId := (find?_some found).2
    have at_ : t.find? (CompensationAttemptRepository.completedRow row
        attempt).compensationAttemptId = some row := key ▸ found
    exact keeps_replace at_ (by simp [started])

theorem resultStored_keeps {result? : Option VerificationResult} {t t' : Table verificationKey}
    (stored : ResultStored result? t t') : t.Keeps (fun row => row.2 ≠ none) t' := by
  cases result? with
  | none =>
    obtain rfl : t' = t := stored
    exact .refl _ _
  | some result =>
    obtain ⟨request, found, rfl⟩ := stored
    have key : request.verificationId = result.verificationId := (find?_some found).2
    have at_ : t.find? (verificationKey (request, some result)) = some (request, none) := by
      rw [← found, ← key]
      rfl
    exact keeps_replace at_ (by simp)

/-! ## Steps and runs -/

/-- An action that writes only operations, audit events and outbox events appends to the audit. -/
private theorem writeOnce_of_frame {operations : Table Operation.operationId}
    {auditEvents : Table AuditEvent.auditEventId} {outboxEvents : Table OutboxEvent.eventId}
    (appended : s.auditEvents.Keeps (fun _ => True) auditEvents) :
    WriteOnce s { s with operations, auditEvents, outboxEvents } :=
  { WriteOnce.refl s with auditEvents := appended }

theorem writeOnce_of_moved {command : OperationCommand} {loaded : Operation}
    (made : OperationMoved command loaded s s') : WriteOnce s s' where
  auditEvents := keeps_append made.auditEvents
  policyDecisions := made.related.policyDecisions.keeps
  reconciliationDecisions := made.related.reconciliationDecisions.keeps
  attempts := by
    obtain ⟨mid, inserted, completed⟩ := made.related.attempts
    exact inserted.keeps.trans (attemptCompleted_keeps completed)
  compensationAttempts := compensationAttemptCompleted_keeps made.related.compensationAttempts
  verifications := by
    obtain ⟨requested, completed, inserted, stored, compensated⟩ := made.related.verifications
    exact inserted.keeps.trans ((resultStored_keeps stored).trans (resultStored_keeps compensated))
  approvals := by
    obtain ⟨mid, inserted, decided⟩ := made.related.approvals
    exact inserted.keeps.trans (decided_keeps decided)

theorem writeOnce_of_progressed {progress : Progress} (made : progress.Made s s') :
    WriteOnce s s' where
  auditEvents := keeps_append made.written.auditEvents
  policyDecisions := by
    rw [made.written.frame]
    exact .refl _ _
  reconciliationDecisions := by
    rw [made.written.frame]
    exact .refl _ _
  attempts := by
    rw [made.written.frame]
    exact .refl _ _
  compensationAttempts := by
    obtain ⟨mid, completed, inserted⟩ := made.written.compensationAttempts
    exact (compensationAttemptCompleted_keeps completed).trans inserted.keeps
  verifications := by
    obtain ⟨mid, inserted, stored⟩ := made.written.verifications
    exact inserted.keeps.trans (resultStored_keeps stored)
  approvals := by
    rw [made.written.frame]
    exact .refl _ _

/-- No step changes or removes a row that is final. -/
theorem WriteOnce.step (taken : JournalStep action s s') : WriteOnce s s' := by
  cases taken with
  | unchanged same => exact same ▸ .refl s
  | created command _ made =>
    have appended := keeps_append (p := fun _ => True) made.auditEvents
    rw [made.frame]
    exact writeOnce_of_frame appended
  | moved command loaded _ made => exact writeOnce_of_moved made
  | progressed progress _ _ _ made => exact writeOnce_of_progressed made
  | escalated request loaded made =>
    have appended := keeps_append (p := fun _ => True) made.auditEvents
    rw [made.frame]
    exact writeOnce_of_frame appended
  | republished _ source operation now made =>
    have appended := keeps_append (p := fun _ => True) made.auditEvents
    rw [made.frame]
    exact writeOnce_of_frame appended
  | published outboxEvents same =>
    rw [same]
    exact writeOnce_of_frame (.refl _ _)
  | evidencePersisted completed attempts _ same made =>
    rw [same]
    exact { WriteOnce.refl s with attempts := attemptCompleted_keeps made }
  | resultPersisted result verifications same made =>
    rw [same]
    exact { WriteOnce.refl s with verifications := resultStored_keeps made }

/-- Evidence a journal holds is in every journal a run leads to from it, as it was written. -/
theorem evidence_write_once (uuid5 : String → OpaqueId) (s : Store)
    (actions : List JournalAction) : WriteOnce s (run uuid5 s actions) := by
  have step : ∀ action t t', WriteOnce s t → True → JournalStep action t t' → WriteOnce s t' :=
    fun _ _ _ before _ taken => before.trans (.step taken)
  exact run_preserves step actions (stepwise_true uuid5 s actions) (.refl s)

end Stateback.Invariants
