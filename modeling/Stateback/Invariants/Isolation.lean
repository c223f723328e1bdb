import Stateback.Invariants.Compensations
import Stateback.Invariants.Evidence
/-!
# Isolation between operations

Every row a command inserts or overwrites belongs to the operation it names, because a check
compares the owner.  One lookup goes without: the approval a grant, a rejection or a cancellation
decides is found by the id the command carries and overwritten as a whole.
-/

namespace Stateback.Invariants

open Domain Persistence Transitions KeyedTable KeyedTable.Table Transaction

variable {s s' : Store} {other : OpaqueId}

/-! ## The rows of an operation -/

/-- Every row that belongs to an operation. -/
structure OperationRows where
  operation : Option Operation
  policyDecisions : List PolicyDecision
  approvals : List Approval
  attempts : List ExecutionAttempt
  verifications : List VerificationRow
  reconciliationDecisions : List StoredReconciliationDecision
  compensations : List Compensation
  compensationAttempts : List CompensationAttempt
  auditEvents : List AuditEvent
  outboxEvents : List OutboxEvent
deriving DecidableEq

/-- The record under the id belongs to the operation. -/
def ownsRecord (s : Store) (operationId compensationId : OpaqueId) : Bool :=
  (s.compensation? compensationId).any fun record =>
    decide (record.originalOperationId = operationId)

def rowsOf (s : Store) (operationId : OpaqueId) : OperationRows where
  operation := s.operation? operationId
  policyDecisions := s.policyDecisions.select fun row => decide (row.operationId = operationId)
  approvals := s.approvals.select fun row => decide (row.operationId = operationId)
  attempts := s.attemptsOf operationId
  verifications := s.verifications.select fun row => decide (row.1.operationId = operationId)
  reconciliationDecisions :=
    s.reconciliationDecisions.select fun row => decide (row.operationId = operationId)
  compensations := s.compensations.select fun row =>
    decide (row.originalOperationId = operationId)
  compensationAttempts :=
    s.compensationAttempts.select fun row => ownsRecord s operationId row.compensationId
  auditEvents := s.auditEventsOf operationId
  outboxEvents := s.outboxEventsOf operationId

/-- The operation a command names. -/
def commandOperationId : TransitionCommand → OpaqueId
  | .create command => command.operation.operationId
  | .operation command => command.operationId
  | .claimCompensation command => command.operationId
  | .startCompensationVerification command => command.operationId
  | .claimCompensationRetryAttempt command => command.operationId
  | .retryCompensationAfterVerification command => command.operationId

/-- Applied or not, the command leaves the rows of every other operation as they are. -/
def Isolated (s : Store) (command : TransitionCommand) : Prop :=
  ∀ result s', apply command s = .ok (result, s') → ∀ other, other ≠ commandOperationId command →
    (s.operation? other).isSome → rowsOf s' other = rowsOf s other

/-- An accepted decision on an approval that another operation owns, or is given to. -/
def DecidesForeign (s : Store) : TransitionCommand → Prop
  | .operation command => ∃ approval row foreign loaded,
    command.body.decidedApproval? = some approval ∧
    s.approval? approval.approvalId = some row ∧
    (row.operationId = foreign ∨ approval.operationId = foreign) ∧
    foreign ≠ command.operationId ∧ (s.operation? foreign).isSome ∧
    s.operation? command.operationId = some loaded ∧
    (loaded.version : Int) = command.expectedVersion ∧
    command.kind.edge.1 = some loaded.state ∧
    evaluatePreconditions command loaded (loadRelated s command loaded) = none ∧
    Acceptable command loaded (loadRelated s command loaded) s
  | _ => False

/-! ## Decided approvals -/

theorem checkClosedApproval_none {approval : Approval} {operation : Operation}
    {related : RelatedRecords} {reason : Option String}
    (checked : checkClosedApproval approval operation related reason = none) :
    reason = none ∧ ∃ existing, related.existingApproval = some existing ∧
      existing.state = .pending := by
  unfold checkClosedApproval at checked
  cases existing : related.existingApproval with
  | none => rw [existing] at checked; cases checked
  | some row =>
    simp only [existing] at checked
    obtain ⟨pending, checked⟩ := guard_eq_none.mp checked
    exact ⟨(orElse_eq_none.mp checked).1, row, rfl, not_not.mp pending⟩

/-- A decided approval is stored PENDING and carried in another state. -/
theorem decidedApproval_checked {command : OperationCommand} {loaded : Operation}
    {approval : Approval} (carried : command.body.decidedApproval? = some approval)
    (allowed : evaluatePreconditions command loaded (loadRelated s command loaded) = none) :
    ∃ row, s.approval? approval.approvalId = some row ∧ row.state = .pending ∧
      approval.state ≠ .pending := by
  have allowed := evaluateBody_none allowed
  have existing : (loadRelated s command loaded).existingApproval =
      command.body.approval?.bind fun approval => s.approval? approval.approvalId := rfl
  unfold evaluateBody at allowed
  cases body : command.body with
  | approvalGrant =>
    rw [body] at carried existing
    cases carried
    simp only [body] at allowed
    cases found : (loadRelated s command loaded).existingApproval with
    | none => rw [found] at allowed; cases allowed
    | some row =>
      simp only [found] at allowed
      obtain ⟨pending, allowed⟩ := guard_eq_none.mp allowed
      obtain ⟨-, allowed⟩ := guard_eq_none.mp allowed
      refine ⟨row, existing.symm.trans found, not_not.mp pending, ?_⟩
      cases valid : (evaluateApprovalBinding approval loaded command.occurredAt).valid with
      | false => simp [valid] at allowed
      | true =>
        obtain ⟨-, -, -, approved⟩ := evaluateApprovalBinding_valid valid
        rw [approved]
        nofun
  | approvalReject =>
    rw [body] at carried existing
    cases carried
    simp only [body] at allowed
    obtain ⟨reason, row, found, pending⟩ := checkClosedApproval_none allowed
    obtain ⟨rejected, -⟩ := guard_eq_none.mp reason
    refine ⟨row, existing.symm.trans found, pending, ?_⟩
    rw [not_not.mp rejected]
    nofun
  | cancelAwaitingApproval =>
    rw [body] at carried existing
    cases carried
    simp only [body] at allowed
    obtain ⟨reason, row, found, pending⟩ := checkClosedApproval_none allowed
    obtain ⟨closed, -⟩ := guard_eq_none.mp reason
    refine ⟨row, existing.symm.trans found, pending, fun open_ => closed ?_⟩
    rw [open_]
    decide
  | _ => rw [body] at carried; cases carried

/-- A command that decides an approval carries no other row. -/
theorem decision_alone {body : CommandBody} {approval : Approval}
    (carried : body.decidedApproval? = some approval) :
    body.policyDecision? = none ∧ body.requestedApproval? = none ∧ body.claimedAttempt? = none ∧
      body.completedAttempt? = none ∧ body.verificationRequest? = none ∧
      body.verificationResult? = none ∧ body.reconciliation? = none ∧
      body.startedCompensation? = none ∧ body.completedCompensationAttempt? = none ∧
      body.compensationVerificationResult? = none ∧
      compensationTargetState? body.kind = none := by
  cases body with
  | approvalGrant | approvalReject | cancelAwaitingApproval =>
    exact ⟨rfl, rfl, rfl, rfl, rfl, rfl, rfl, rfl, rfl, rfl, rfl⟩
  | _ => cases carried

/-- A decision writes its approval and no other row around the operation. -/
theorem decision_acceptable {command : OperationCommand} {related : RelatedRecords}
    {approval row : Approval} (carried : command.body.decidedApproval? = some approval)
    (found : s.approval? approval.approvalId = some row) (pending : row.state = .pending) :
    RelatedAcceptable command related s := by
  obtain ⟨policy, requested, claimed, completed, request, result, reconciliation, started,
    attempt, compensationResult, target⟩ := decision_alone carried
  have still : compensationTargetState? command.kind = none := target
  exact
    { policyDecision := by simp [policy]
      requestedApproval := by simp [requested]
      decidedApproval := by
        intro decided same
        rw [carried, Option.some.injEq] at same
        exact ⟨row, same ▸ found, pending⟩
      claimedAttempt := by simp [claimed]
      completedAttempt := by simp [attemptToComplete, completed]
      request := by simp [request]
      result := by simp [resultToComplete, result]
      reconciliation := by simp [reconciliation]
      startedCompensation := by simp [started]
      compensationAttempt := by simp [compensationAttemptToComplete, attempt]
      compensationResult := by simp [compensationResultToComplete, compensationResult]
      movedCompensation := by simp [still] }

/-! ## Writes to the rows of one operation -/

theorem stored_select {result? : Option VerificationResult} {t t' : Table verificationKey}
    (stored : ResultStored result? t t')
    (owner : ∀ result request, result? = some result →
      t.find? result.verificationId = some (request, none) → request.operationId ≠ other) :
    (t'.select fun row => decide (row.1.operationId = other)) =
      t.select fun row => decide (row.1.operationId = other) := by
  cases result? with
  | none => rw [show t' = t from stored]
  | some result =>
    obtain ⟨request, found, rfl⟩ := stored
    have foreign := decide_eq_false (owner result request rfl found)
    refine select_replace_of_not foreign fun old member same => ?_
    obtain rfl := rows_injOn_key _ member (find?_some found).1 same
    exact foreign

private theorem completed_select {completed? : Option CompensationAttempt}
    {t t' : Table CompensationAttempt.compensationAttemptId} {owned : OpaqueId → Bool}
    (made : CompensationAttemptCompleted completed? t t')
    (owner : ∀ completed row, completed? = some completed →
      t.find? completed.compensationAttemptId = some row → owned row.compensationId = false) :
    (t'.select fun row => owned row.compensationId) =
      t.select fun row => owned row.compensationId := by
  cases completed? with
  | none => rw [show t' = t from made]
  | some completed =>
    obtain ⟨-, row, found, -, rfl⟩ := made
    have foreign := owner completed row rfl found
    refine select_replace_of_not foreign fun old member same => ?_
    obtain rfl := rows_injOn_key _ member (find?_some found).1 same
    exact foreign

private theorem appended_select {events : List AuditEvent} {owner : OpaqueId}
    (rows : s'.auditEvents.rows = s.auditEvents.rows ++ events)
    (about : ∀ event ∈ events, event.operationId = owner) (differs : owner ≠ other) :
    s'.auditEventsOf other = s.auditEventsOf other := by
  have none_ : events.filter (fun row => decide (row.operationId = other)) = [] := by
    refine List.filter_eq_nil_iff.mpr fun event member => ?_
    rw [about event member]
    simp [differs]
  rw [Store.auditEventsOf, select, rows, List.filter_append, none_, List.append_nil]
  rfl

theorem progressing_operationId {loaded : Operation} {compensation : Compensation}
    {command : TransitionCommand} (progressing : Progressing s loaded compensation command) :
    loaded.operationId = commandOperationId command := by
  cases command with
  | create => exact progressing.elim
  | operation => exact progressing.elim
  | claimCompensation => exact (find?_some progressing.1.found).2
  | startCompensationVerification => exact (find?_some progressing.1.found).2
  | claimCompensationRetryAttempt => exact (find?_some progressing.1.found).2
  | retryCompensationAfterVerification => exact (find?_some progressing.1.found).2

private theorem stepped_isolated {record : Compensation} {state : CompensationState}
    {updatedAt : UtcTimestamp}
    (found : s.compensation? record.compensationId = some record)
    (replaced : s'.compensations =
      s.compensations.replace (steppedCompensation record state updatedAt))
    (differs : record.originalOperationId ≠ other) :
    (s'.compensations.select fun row => decide (row.originalOperationId = other)) =
        (s.compensations.select fun row => decide (row.originalOperationId = other)) ∧
      ∀ id, ownsRecord s' other id = ownsRecord s other id := by
  constructor
  · rw [replaced]
    refine select_replace_of_not (decide_eq_false differs) fun old member same => ?_
    obtain rfl := rows_injOn_key _ member (find?_some found).1 same
    exact decide_eq_false differs
  · intro id
    rw [ownsRecord, compensation?_replace_stepped found replaced id]
    split
    next same =>
      subst same
      rw [ownsRecord, found]
      rfl
    next => rfl

/-- The compensation records of another operation stay, and no record changes hands. -/
theorem compensations_isolated {command : TransitionCommand}
    (taken : JournalStep (.transition command) s s')
    (differs : other ≠ commandOperationId command) :
    (s'.compensations.select fun row => decide (row.originalOperationId = other)) =
        (s.compensations.select fun row => decide (row.originalOperationId = other)) ∧
      ∀ id, ownsRecord s' other id = ownsRecord s other id := by
  cases compensationsStep_of taken with
  | kept same =>
    refine ⟨by rw [same], fun id => ?_⟩
    rw [ownsRecord, ownsRecord, Store.compensation?, same]
    rfl
  | started command' loaded record asked made carried inserted =>
    obtain rfl : command = .operation command' := JournalAction.transition.inj asked
    have owner : record.originalOperationId ≠ other := by
      rw [(made.startedCompensation_owner carried).1, made.operationId]
      exact differs.symm
    have added : Inserted (some record) s.compensations s'.compensations := inserted
    refine ⟨added.select_of_not fun row same => ?_, fun id => ?_⟩
    · cases same
      exact decide_eq_false owner
    · rw [ownsRecord, Store.compensation?, find?_insert inserted]
      split
      next same =>
        subst same
        rw [ownsRecord, Store.compensation?, added.fresh]
        simpa using owner
      next => rfl
  | moved command' loaded record state asked made moves found checked legal replaced =>
    obtain rfl : command = .operation command' := JournalAction.transition.inj asked
    refine stepped_isolated found replaced ?_
    rw [checked.parent, made.operationId]
    exact differs.symm
  | progressed progress command' asked checked made replaced =>
    obtain rfl : command = command' := JournalAction.transition.inj asked
    refine stepped_isolated made.record replaced ?_
    rw [made.parent, progressing_operationId checked]
    exact differs.symm

/-- A verification result belongs to a command from VERIFYING. -/
theorem verifying_of_result {body : CommandBody} {result : VerificationResult}
    (carried : body.verificationResult? = some result) :
    body.kind.edge.1 = some .verifying := by
  cases body <;> first | rfl | cases carried

section Moved

variable {command : OperationCommand} {loaded : Operation}

private theorem approvals_isolated (made : OperationMoved command loaded s s')
    (differs : other ≠ command.operationId)
    (own : ∀ approval row, command.body.decidedApproval? = some approval →
      s.approval? approval.approvalId = some row →
      row.operationId ≠ other ∧ approval.operationId ≠ other) :
    (s'.approvals.select fun row => decide (row.operationId = other)) =
      s.approvals.select fun row => decide (row.operationId = other) := by
  obtain ⟨mid, requested, decided⟩ := made.related.approvals
  have first : (mid.select fun row => decide (row.operationId = other)) =
      s.approvals.select fun row => decide (row.operationId = other) := by
    refine requested.select_of_not fun approval carried => decide_eq_false ?_
    rw [made.requestedApproval_owner carried, made.operationId]
    exact differs.symm
  rw [← first]
  cases carried : command.body.decidedApproval? with
  | none =>
    rw [carried] at decided
    rw [show s'.approvals = mid from decided]
  | some approval =>
    rw [carried] at decided
    obtain ⟨row, found, pending, replaced⟩ := decided
    have silent := (decision_alone carried).2.1
    rw [silent] at requested
    obtain rfl : mid = s.approvals := requested
    obtain ⟨stored, carriedOwner⟩ := own approval row carried found
    rw [replaced]
    refine select_replace_of_not (decide_eq_false carriedOwner) fun old member same => ?_
    obtain rfl := rows_injOn_key _ member (find?_some found).1
      (same.trans (find?_some found).2.symm)
    exact decide_eq_false stored

theorem attempts_isolated (made : OperationMoved command loaded s s')
    (differs : other ≠ command.operationId) : s'.attemptsOf other = s.attemptsOf other := by
  have owner : loaded.operationId ≠ other := by
    rw [made.operationId]
    exact differs.symm
  obtain ⟨mid, claimed, completed⟩ := made.related.attempts
  have first : (mid.select fun row => decide (row.operationId = other)) =
      s.attempts.select fun row => decide (row.operationId = other) := by
    refine claimed.select_of_not fun attempt carried => decide_eq_false ?_
    rw [(made.claimedAttempt_checked carried).1]
    exact owner
  rw [Store.attemptsOf, Store.attemptsOf, ← first]
  cases writes : attemptToComplete command (loadRelated s command loaded) with
  | none =>
    rw [writes] at completed
    rw [show s'.attempts = mid from completed]
  | some attempt =>
    rw [writes] at completed
    obtain ⟨-, row, accepted, found, -, replaced⟩ := completed
    obtain ⟨-, stored, at_, -, checked⟩ := made.attemptToComplete_checked writes
    have same : row = stored := Option.some.inj (found.symm.trans (claimed.find?_of_some at_))
    have foreign : row.operationId ≠ other := by
      rw [same, checked.owner]
      exact owner
    rw [replaced]
    refine select_replace_of_not (decide_eq_false foreign) fun old member key => ?_
    obtain rfl := rows_injOn_key _ member (find?_some found).1 key
    exact decide_eq_false foreign

theorem verifications_isolated (made : OperationMoved command loaded s s')
    (verifies : loaded.state = .verifying → VerifiesItself s loaded)
    (differs : other ≠ command.operationId) :
    (s'.verifications.select fun row => decide (row.1.operationId = other)) =
      s.verifications.select fun row => decide (row.1.operationId = other) := by
  have owner : loaded.operationId ≠ other := by
    rw [made.operationId]
    exact differs.symm
  obtain ⟨requested, completed, inserted, stored, compensated⟩ := made.related.verifications
  have evolves : s.verifications.Evolves VerificationKept completed :=
    (requested_evolves inserted).trans .trans (stored_evolves stored)
  rw [stored_select compensated ?_, stored_select stored ?_, inserted.select_of_not ?_]
  · intro row carried
    obtain ⟨request, asked, rfl⟩ := Option.map_eq_some_iff.mp carried
    refine decide_eq_false ?_
    rw [(made.verificationRequest_owner asked).1]
    exact owner
  · intro result request writes found
    obtain ⟨carried, checked⟩ := made.resultToComplete_checked writes
    have verifying : loaded.state = .verifying :=
      Option.some.inj (made.source.symm.trans (verifying_of_result carried))
    obtain ⟨verificationId, asked, known, named, at_, mine, -⟩ := verifies verifying
    obtain rfl : verificationId = result.verificationId :=
      Option.some.inj (named.symm.trans checked.latest)
    have there := inserted.find?_of_some at_
    rw [found, Option.some.injEq, Prod.mk.injEq] at there
    rw [there.1, mine]
    exact owner
  · intro result request writes found
    obtain ⟨asked, at_, mine, -⟩ := made.compensationResultToComplete_owner writes
    obtain ⟨later, there, same, -⟩ := evolves.find? VerificationKept.key at_
    rw [found, Option.some.injEq] at there
    subst there
    obtain rfl : request = asked := same
    rw [mine]
    exact owner

private theorem compensationAttempts_isolated (made : OperationMoved command loaded s s')
    (differs : other ≠ command.operationId) (records : ∀ id, ownsRecord s' other id =
      ownsRecord s other id) :
    (s'.compensationAttempts.select fun row => ownsRecord s' other row.compensationId) =
      s.compensationAttempts.select fun row => ownsRecord s other row.compensationId := by
  simp only [records]
  refine completed_select made.related.compensationAttempts fun completed row writes found => ?_
  obtain ⟨record, stored, named, parent, at_, same⟩ :=
    made.compensationAttemptToComplete_owner writes
  obtain ⟨recordId, -, there⟩ := Option.bind_eq_some_iff.mp named
  have key : record.compensationId = recordId := (find?_some there).2
  have mine : row = stored := Option.some.inj (found.symm.trans at_)
  rw [ownsRecord, mine, same, key, there]
  simpa [parent, made.operationId] using differs.symm

/-- A moved operation takes no row of another along. -/
theorem rowsOf_moved (made : OperationMoved command loaded s s')
    (verifies : loaded.state = .verifying → VerifiesItself s loaded)
    (differs : other ≠ command.operationId)
    (own : ∀ approval row, command.body.decidedApproval? = some approval →
      s.approval? approval.approvalId = some row →
      row.operationId ≠ other ∧ approval.operationId ≠ other) :
    rowsOf s' other = rowsOf s other := by
  have taken : JournalStep (.transition (.operation command)) s s' := .moved command loaded rfl made
  have owner : loaded.operationId ≠ other := by
    rw [made.operationId]
    exact differs.symm
  obtain ⟨compensations, records⟩ := compensations_isolated taken differs
  have operation : s'.operation? other = s.operation? other := by
    rw [operation?_replace_stepped made.found made.operations, if_neg differs.symm]
  have decisions : (s'.policyDecisions.select fun row => decide (row.operationId = other)) =
      s.policyDecisions.select fun row => decide (row.operationId = other) := by
    refine made.related.policyDecisions.select_of_not fun decision carried => decide_eq_false ?_
    rw [made.policyDecision_owner carried]
    exact owner
  have reconciliations :
      (s'.reconciliationDecisions.select fun row => decide (row.operationId = other)) =
        s.reconciliationDecisions.select fun row => decide (row.operationId = other) := by
    refine made.related.reconciliationDecisions.select_of_not fun stored carried =>
      decide_eq_false ?_
    rw [made.reconciliation_owner carried]
    exact owner
  have audits : s'.auditEventsOf other = s.auditEventsOf other :=
    appended_select made.auditEvents (fun event member => (numberEvents_mem member).1) owner
  have outbox : s'.outboxEventsOf other = s.outboxEventsOf other := by
    refine made.outboxEvents.select_of_not fun event scheduled => decide_eq_false ?_
    unfold outboxRow? at scheduled
    split at scheduled
    · cases scheduled
      exact owner
    · cases scheduled
  simp only [rowsOf, operation, decisions, approvals_isolated made differs own,
    attempts_isolated made differs, verifications_isolated made verifies differs, reconciliations,
    compensations, compensationAttempts_isolated made differs records, audits, outbox]

end Moved

/-- A progress command writes rows of its own operation alone. -/
theorem rowsOf_progressed {command : TransitionCommand} {progress : Progress}
    (checked : Progressing s progress.loaded progress.compensation command)
    (made : progress.Made s s') (differs : other ≠ commandOperationId command) :
    rowsOf s' other = rowsOf s other := by
  have taken : JournalStep (.transition command) s s' :=
    .progressed progress command rfl checked made
  have owner : progress.loaded.operationId ≠ other := by
    rw [progressing_operationId checked]
    exact differs.symm
  obtain ⟨compensations, records⟩ := compensations_isolated taken differs
  have foreign : ownsRecord s other progress.compensation.compensationId = false := by
    rw [ownsRecord, made.record]
    simpa [made.parent] using owner
  have attempts : (s'.compensationAttempts.select fun row =>
        ownsRecord s' other row.compensationId) =
      s.compensationAttempts.select fun row => ownsRecord s other row.compensationId := by
    simp only [records]
    obtain ⟨mid, completed, inserted⟩ := made.written.compensationAttempts
    rw [inserted.select_of_not ?_, completed_select completed ?_]
    · intro completed row carried found
      obtain ⟨-, stored, at_, -, same⟩ := made.checked.completed completed carried
      rw [Option.some.inj (found.symm.trans at_), same]
      exact foreign
    · intro attempt carried
      rw [(made.checked.attempt attempt carried).1]
      exact foreign
  have verifications : (s'.verifications.select fun row => decide (row.1.operationId = other)) =
      s.verifications.select fun row => decide (row.1.operationId = other) := by
    obtain ⟨mid, inserted, stored⟩ := made.written.verifications
    rw [stored_select stored ?_, inserted.select_of_not ?_]
    · intro row carried
      obtain ⟨request, asked, rfl⟩ := Option.map_eq_some_iff.mp carried
      refine decide_eq_false ?_
      rw [(made.checked.request request asked).1]
      exact owner
    · intro result request carried found
      obtain ⟨asked, at_, mine, -⟩ := made.checked.result result carried
      have there := inserted.find?_of_some at_
      rw [found, Option.some.injEq, Prod.mk.injEq] at there
      rw [there.1, mine]
      exact owner
  have audits : s'.auditEventsOf other = s.auditEventsOf other :=
    appended_select made.written.auditEvents made.logged.about owner
  have outbox : s'.outboxEventsOf other = s.outboxEventsOf other := by
    refine made.written.outboxEvents.select_of_not fun event scheduled => decide_eq_false ?_
    rw [(made.checked.outbox event scheduled).1]
    exact owner
  have frame := made.written.frame
  simp only [rowsOf, compensations, attempts, verifications, audits, outbox]
  rw [frame]
  rfl

theorem rowsOf_created {command : CreateOperation} (made : OperationCreated command s s')
    (differs : other ≠ command.operation.operationId) : rowsOf s' other = rowsOf s other := by
  have operation : s'.operation? other = s.operation? other := by
    rw [Store.operation?, find?_insert made.operations, if_neg differs.symm]
    rfl
  have about : ∀ event ∈ [createdEvent command],
      event.operationId = command.operation.operationId := by
    simp [createdEvent]
  have audits : s'.auditEventsOf other = s.auditEventsOf other :=
    appended_select made.auditEvents about differs.symm
  simp only [rowsOf, operation, audits]
  rw [made.frame]
  rfl

/-! ## Commands that cross operations -/

/-- An applied decision shows in the approvals of both owners, the stored and the carried. -/
theorem approvals_decided {command : OperationCommand} {loaded : Operation}
    {approval row : Approval} {foreign : OpaqueId} (made : OperationMoved command loaded s s')
    (carried : command.body.decidedApproval? = some approval)
    (found : s.approval? approval.approvalId = some row)
    (owned : row.operationId = foreign ∨ approval.operationId = foreign) :
    (s'.approvals.select fun row => decide (row.operationId = foreign)) ≠
      s.approvals.select fun row => decide (row.operationId = foreign) := by
  intro same
  obtain ⟨stored, at_, pending, decided⟩ := decidedApproval_checked carried made.allowed
  obtain rfl : stored = row := Option.some.inj (at_.symm.trans found)
  have distinct : stored ≠ approval := by
    rintro rfl
    exact decided pending
  have key : stored.approvalId = approval.approvalId := (find?_some found).2
  obtain ⟨mid, requested, replaced⟩ := made.related.approvals
  rw [(decision_alone carried).2.1] at requested
  rw [show mid = s.approvals from requested, carried] at replaced
  obtain ⟨-, -, -, replaced⟩ := replaced
  have overwritten : s'.approvals.find? approval.approvalId = some approval := by
    rw [replaced, find?_replace, if_pos rfl, show s.approvals.find? _ = _ from found]
    rfl
  obtain stays | given := owned
  · have before : stored ∈ s.approvals.select fun row => decide (row.operationId = foreign) :=
      mem_select.mpr ⟨(find?_some found).1, decide_eq_true stays⟩
    rw [← same] at before
    exact distinct (rows_injOn_key _ (mem_select.mp before).1 (find?_some overwritten).1 key)
  · have after : approval ∈ s'.approvals.select fun row => decide (row.operationId = foreign) :=
      mem_select.mpr ⟨(find?_some overwritten).1, decide_eq_true given⟩
    rw [same] at after
    exact distinct (rows_injOn_key _ (find?_some found).1 (mem_select.mp after).1 key)

/-- A command crosses into another operation exactly by deciding its approval. -/
theorem isolated_iff {uuid5 : String → OpaqueId} (reachable : Reachable uuid5 s)
    (command : TransitionCommand) : Isolated s command ↔ ¬DecidesForeign s command := by
  constructor
  · intro isolated decides
    cases command with
    | operation command =>
      obtain ⟨approval, row, foreign, loaded, carried, stored, owned, differs, known, found,
        version, source, allowed, acceptable⟩ := decides
      obtain ⟨stored', at_, pending, -⟩ := decidedApproval_checked carried allowed
      obtain ⟨result, s', ran, applied⟩ := applyOperation_applies found version source allowed
        acceptable (decision_acceptable carried at_ pending)
      have kept := isolated result s' ran foreign differs known
      obtain ⟨first, made, -⟩ | ⟨_, -, -, -, -, refused, -⟩ | ⟨_, -, -, refused, -⟩ :=
        applyOperation_cases ran
      · exact approvals_decided made carried stored owned (congrArg OperationRows.approvals kept)
      · rw [applied] at refused
        cases refused
      · rw [applied] at refused
        cases refused
    | _ => exact decides
  · intro own result s' ran other differs known
    have progressed : ProgressRan command s s' result → rowsOf s' other = rowsOf s other := by
      rintro (⟨progress, checked, made, -⟩ | ⟨same, -⟩)
      · exact rowsOf_progressed checked made differs
      · rw [same]
    cases command with
    | create command =>
      obtain ⟨made, -⟩ | ⟨same, -⟩ := applyCreate_cases ran
      · exact rowsOf_created made differs
      · rw [same]
    | operation command =>
      obtain ⟨loaded, made, -⟩ | ⟨_, same, -⟩ | ⟨_, same, -⟩ := applyOperation_cases ran
      · refine rowsOf_moved made (verifying_of_reachable reachable _ loaded made.found) differs ?_
        intro approval row carried stored
        rw [← not_or]
        intro owned
        exact own ⟨approval, row, other, loaded, carried, stored, owned, differs, known,
          made.found, made.version, made.source, made.allowed, made.acceptable⟩
      · rw [same]
      · rw [same]
    | claimCompensation => exact progressed (applyClaimCompensation_ran ran)
    | startCompensationVerification =>
      exact progressed (applyStartCompensationVerification_ran ran)
    | claimCompensationRetryAttempt =>
      exact progressed (applyClaimCompensationRetryAttempt_ran ran)
    | retryCompensationAfterVerification =>
      exact progressed (applyRetryCompensationAfterVerification_ran ran)

/-- The approval an operation waits for, and its decision by the requester. -/
def sampleApproval (operationId approvalId : String) : Approval where
  contractVersion := contractVersion
  approvalId := idOf approvalId
  operationId := idOf operationId
  operationVersion := 2
  intentDigest := sampleIntent.intentDigest
  policyDecisionId := idOf ("policy-" ++ operationId)
  state := .pending
  requestedAt := ⟨1⟩
  expiresAt := none
  decidedAt := none
  decidedBy := none
  reason := none
  lifecycle := rfl

def sampleRejected (operationId approvalId : String) : Approval :=
  { sampleApproval operationId approvalId with
    state := .rejected
    decidedAt := some ⟨2⟩
    decidedBy := some sampleRequester
    lifecycle := rfl }

/-- An operation created and sent to approval. -/
def awaitingActions (operationId : String) : List JournalAction :=
  [.transition (.create
     { operation := { sampleOperation with
         operationId := idOf operationId
         idempotencyIdentity := operationIdempotencyIdentity (idOf operationId) }
       occurredAt := ⟨0⟩
       actor := some sampleRequester
       correlationId := none
       reasonCode := "create"
       createdAuditEventId := idOf ("audit-created-" ++ operationId) }),
   .transition (.operation
     { operationId := idOf operationId
       expectedVersion := 1
       occurredAt := ⟨1⟩
       actor := some sampleRequester
       correlationId := none
       reasonCode := "policy"
       transitionAuditEventId := idOf ("audit-awaiting-" ++ operationId)
       body := .policyRequireApproval
         { samplePolicyDecision with
           policyDecisionId := idOf ("policy-" ++ operationId)
           operationId := idOf operationId
           verdict := .requireApproval }
         (sampleApproval operationId ("approval-" ++ operationId))
         (idOf ("audit-policy-" ++ operationId)) (idOf ("audit-approval-" ++ operationId)) })]

def awaitingJournal : Store :=
  run idOf .empty (awaitingActions "op" ++ awaitingActions "neighbour")

/-- A rejection of the sample operation that carries the approval under the id. -/
def sampleReject (owner approvalId : String) : TransitionCommand :=
  sampleCommand 2 2 "audit-rejected" (.approvalReject (sampleRejected owner approvalId)
    (idOf "audit-approval-rejected"))

theorem isolated_own_approval : Isolated awaitingJournal (sampleReject "op" "approval-op") := by
  refine (isolated_iff ⟨_, rfl⟩ _).mpr ?_
  rintro ⟨approval, row, foreign, loaded, carried, stored, owned, differs, -⟩
  cases carried
  have own : (awaitingJournal.approval? (idOf "approval-op")).map (·.operationId) =
      some (idOf "op") := by
    decide +kernel
  rw [show awaitingJournal.approval? (idOf "approval-op") = some row from stored] at own
  obtain owned | owned := owned
  · exact differs (owned ▸ Option.some.inj own)
  · exact differs owned.symm

/-- The rejection of one operation, carrying the approval of its neighbour, rewrites that. -/
theorem rejection_closes_foreign_approval :
    Reachable idOf awaitingJournal ∧
      ¬Isolated awaitingJournal (sampleReject "neighbour" "approval-neighbour") := by
  refine ⟨⟨_, rfl⟩, fun isolated => ?_⟩
  let rejected := act idOf awaitingJournal
    (.transition (sampleReject "neighbour" "approval-neighbour"))
  have before : (rowsOf awaitingJournal (idOf "neighbour")).approvals =
      [sampleApproval "neighbour" "approval-neighbour"] := by decide +kernel
  have after : (rowsOf rejected (idOf "neighbour")).approvals =
      [sampleRejected "neighbour" "approval-neighbour"] := by decide +kernel
  have known : (awaitingJournal.operation? (idOf "neighbour")).isSome := by decide +kernel
  have changed : rejected ≠ awaitingJournal := by
    intro same
    rw [same, before] at after
    exact absurd after (by decide)
  obtain ⟨result, ran⟩ := apply_of_act_ne changed
  have kept := isolated result rejected ran (idOf "neighbour") (by decide) known
  rw [kept, before] at after
  exact absurd after (by decide)

end Stateback.Invariants
