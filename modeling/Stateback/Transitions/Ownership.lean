import Stateback.Transitions.Effects
/-!
# Whose rows an applied command writes

What the preconditions of `preconditions.py` say about the rows a command carries, read off once
for each row: the operation a row belongs to, what it was checked against, and which stored row
it completes.  The approval a command decides is the exception: no check compares the stored
approval's operation with the command's.
-/

namespace Stateback.Transitions

open Stateback.Domain Stateback.Persistence KeyedTable KeyedTable.Table

/-- The outcome an execution kind records of the attempt it completes. -/
def TransitionKind.executionOutcome? : TransitionKind → Option EffectOutcome
  | .executionApplied => some .applied
  | .executionNotAppliedRetry => some .notApplied
  | .executionNotAppliedFail => some .notApplied
  | .executionUnknown => some .unknown
  | _ => none

/-- The outcome a verification kind takes from its result. -/
def TransitionKind.verificationOutcome? : TransitionKind → Option EffectOutcome
  | .verificationApplied => some .applied
  | .verificationNotAppliedRetry => some .notApplied
  | .verificationNotAppliedFail => some .notApplied
  | .verificationInconclusive => some .unknown
  | _ => none

/-! ## What the checks guarantee -/

/-- A completion the attempt's row accepts: the same attempt of the operation, with the outcome
already stored or still to be stored, and of the outcome the command stands for. -/
structure CompletionChecked (operation : Operation) (row completed : ExecutionAttempt)
    (expected : Option EffectOutcome) : Prop where
  owner : row.operationId = operation.operationId
  attemptId : completed.attemptId = row.attemptId
  attemptNumber : completed.attemptNumber = row.attemptNumber
  stored : row.state = .completed → completed.outcome = row.outcome
  stores : row.state = .started → completed.state = .completed ∧ completed.startedAt = row.startedAt
  outcome : ∀ outcome, expected = some outcome → completed.outcome = some outcome

theorem checkExecutionAttemptComplete_none {operation : Operation} {completed : ExecutionAttempt}
    {loaded : Option ExecutionAttempt} {expected : Option EffectOutcome} {crash : Bool}
    (checked :
      checkExecutionAttemptComplete operation (some completed) loaded expected crash = none) :
    ∃ row, loaded = some row ∧ CompletionChecked operation row completed expected := by
  unfold checkExecutionAttemptComplete at checked
  obtain ⟨-, checked⟩ := guard_eq_none.mp checked
  cases loaded with
  | none => cases checked
  | some row =>
    simp only at checked
    obtain ⟨owner, checked⟩ := guard_eq_none.mp checked
    obtain ⟨attemptId, checked⟩ := guard_eq_none.mp checked
    obtain ⟨-, checked⟩ := guard_eq_none.mp checked
    obtain ⟨attemptNumber, checked⟩ := guard_eq_none.mp checked
    refine ⟨row, rfl, not_not.mp owner, not_not.mp attemptId, not_not.mp attemptNumber, ?_, ?_, ?_⟩
    all_goals cases state : row.state
    all_goals simp only [state] at checked
    all_goals repeat' split at checked
    all_goals simp_all

/-- A result the operation's latest verification accepts. -/
structure ResultChecked (operation : Operation) (result : VerificationResult)
    (existing : Option VerificationResult) (expected : Option EffectOutcome) : Prop where
  latest : operation.latestVerificationId = some result.verificationId
  stored : ∀ stored, existing = some stored → stored.outcome = result.outcome
  outcome : ∀ outcome, expected = some outcome → result.outcome = outcome

theorem checkVerificationComplete_none {operation : Operation} {result : VerificationResult}
    {existing : Option VerificationResult} {expected : Option EffectOutcome}
    (checked : checkVerificationComplete operation result existing expected = none) :
    ResultChecked operation result existing expected := by
  unfold checkVerificationComplete at checked
  obtain ⟨-, checked⟩ := guard_eq_none.mp checked
  obtain ⟨latest, checked⟩ := guard_eq_none.mp checked
  obtain ⟨outcome, checked⟩ := guard_eq_none.mp checked
  obtain ⟨agrees, checked⟩ := guard_eq_none.mp checked
  refine ⟨(not_not.mp latest).symm, fun stored found => ?_, fun known is => ?_⟩
  · simpa [found] using agrees
  · simpa [is] using outcome

/-- What every command on a compensation in progress is checked against. -/
structure CompensationChecked (kind : TransitionKind) (operation : Operation)
    (compensation : Compensation) : Prop where
  named : operation.compensationId = some compensation.compensationId
  parent : compensation.originalOperationId = operation.operationId
  consistent : operation.state = parentForCompensationState compensation.state
  target : ∀ state, kind ∉ escalateKinds → compensationTargetState? kind = some state →
    kind.edge.2 = parentForCompensationState state ∧
      (evaluateCompensationTransition compensation.state state = true ∨ compensation.state = state)

theorem checkCompensationOutcome_none {kind : TransitionKind} {operation : Operation}
    {compensation? : Option Compensation} {completed loadedAttempt : Option CompensationAttempt}
    {expectedAttempt : Option EffectOutcome} {missing : Bool} {result : Option VerificationResult}
    {expectedVerification : Option EffectOutcome} {existing : Option VerificationRow}
    (checked : checkCompensationOutcome kind operation compensation? completed loadedAttempt
      expectedAttempt missing result expectedVerification existing = none) :
    ∃ compensation, compensation? = some compensation ∧
      CompensationChecked kind operation compensation ∧
      checkCompensationVerification operation loadedAttempt result expectedVerification existing =
        none ∧
      checkCompensationAttempt compensation completed loadedAttempt expectedAttempt missing
        result = none := by
  unfold checkCompensationOutcome at checked
  obtain ⟨-, checked⟩ := guard_eq_none.mp checked
  cases compensation? with
  | none => cases checked
  | some compensation =>
    simp only at checked
    obtain ⟨named, checked⟩ := guard_eq_none.mp checked
    obtain ⟨parent, checked⟩ := guard_eq_none.mp checked
    obtain ⟨consistent, checked⟩ := guard_eq_none.mp checked
    obtain ⟨verification, rest⟩ := orElse_eq_none.mp checked
    obtain ⟨target, attempt⟩ := orElse_eq_none.mp rest
    refine ⟨compensation, rfl, ⟨(not_not.mp named).symm, not_not.mp parent, ?_,
      fun state running moves => ?_⟩, verification, attempt⟩
    · simpa [compensationParentIsConsistent] using consistent
    · simp only [checkCompensationTarget, if_neg running, moves] at target
      obtain ⟨parent, target⟩ := guard_eq_none.mp target
      obtain ⟨legal, target⟩ := guard_eq_none.mp target
      refine ⟨by simpa [compensationParentIsConsistent] using parent, ?_⟩
      cases allowed : evaluateCompensationTransition compensation.state state with
      | true => exact .inl rfl
      | false => exact .inr (by simpa [allowed] using legal)

/-! ## The rows of an operation command -/

namespace OperationMoved

variable {command : OperationCommand} {loaded : Operation} {s s' : Store}

theorem operationId (made : OperationMoved command loaded s s') :
    loaded.operationId = command.operationId := (find?_some made.found).2

theorem policyDecision_owner (made : OperationMoved command loaded s s')
    {decision : PolicyDecision} (carried : command.body.policyDecision? = some decision) :
    decision.operationId = loaded.operationId := by
  have allowed := evaluateBody_none made.allowed
  unfold evaluateBody at allowed
  have owner : ∀ verdict, checkPolicy decision loaded verdict = none →
      decision.operationId = loaded.operationId := by
    intro verdict checked
    unfold checkPolicy at checked
    obtain ⟨same, -⟩ := guard_eq_none.mp checked
    exact not_not.mp same
  cases body : command.body with
  | policyAllow =>
    simp only [body] at allowed
    rw [body] at carried
    cases carried
    exact owner _ allowed
  | policyDeny =>
    simp only [body] at allowed
    rw [body] at carried
    cases carried
    exact owner _ allowed
  | policyRequireApproval =>
    simp only [body] at allowed
    rw [body] at carried
    cases carried
    exact owner _ (orElse_eq_none.mp allowed).1
  | _ => rw [body] at carried; cases carried

theorem requestedApproval_owner (made : OperationMoved command loaded s s')
    {approval : Approval} (carried : command.body.requestedApproval? = some approval) :
    approval.operationId = loaded.operationId := by
  have allowed := evaluateBody_none made.allowed
  unfold evaluateBody at allowed
  cases body : command.body with
  | policyRequireApproval =>
    simp only [body] at allowed
    rw [body] at carried
    cases carried
    have checked := (orElse_eq_none.mp allowed).2
    obtain ⟨-, checked⟩ := guard_eq_none.mp checked
    obtain ⟨same, -⟩ := guard_eq_none.mp checked
    exact not_not.mp same
  | _ => rw [body] at carried; cases carried

/-- What a claim is checked against. -/
theorem claimedAttempt_checked (made : OperationMoved command loaded s s')
    {attempt : ExecutionAttempt} (carried : command.body.claimedAttempt? = some attempt) :
    attempt.operationId = loaded.operationId ∧ attempt.state = .started ∧
      attempt.attemptNumber = (s.listAttempts loaded.operationId).length + 1 ∧
      idempotencyKeyMismatch ((s.listAttempts loaded.operationId).map (·.providerIdempotencyKey))
        attempt.providerIdempotencyKey = false := by
  have allowed := evaluateBody_none made.allowed
  unfold evaluateBody at allowed
  cases body : command.body with
  | claimExecution =>
    simp only [body] at allowed
    rw [body] at carried
    cases carried
    obtain ⟨-, allowed⟩ := guard_eq_none.mp allowed
    obtain ⟨owner, allowed⟩ := guard_eq_none.mp allowed
    obtain ⟨started, allowed⟩ := guard_eq_none.mp allowed
    obtain ⟨-, allowed⟩ := guard_eq_none.mp allowed
    obtain ⟨number, allowed⟩ := guard_eq_none.mp allowed
    obtain ⟨agrees, allowed⟩ := guard_eq_none.mp allowed
    exact ⟨not_not.mp owner, not_not.mp started, not_not.mp number,
      Bool.eq_false_of_not_eq_true agrees⟩
  | _ => rw [body] at carried; cases carried

theorem verificationRequest_owner (made : OperationMoved command loaded s s')
    {request : VerificationRequest} (carried : command.body.verificationRequest? = some request) :
    request.operationId = loaded.operationId ∧ request.target = .originalEffect := by
  have allowed := evaluateBody_none made.allowed
  unfold evaluateBody at allowed
  have owner : checkVerificationRequest request loaded command.expectedVersion .originalEffect =
      none → request.operationId = loaded.operationId ∧ request.target = .originalEffect := by
    intro checked
    unfold checkVerificationRequest at checked
    obtain ⟨same, checked⟩ := guard_eq_none.mp checked
    obtain ⟨target, -⟩ := guard_eq_none.mp checked
    exact ⟨not_not.mp same, not_not.mp target⟩
  cases body : command.body with
  | executionRequireVerification =>
    simp only [body] at allowed
    rw [body] at carried
    cases carried
    exact owner (orElse_eq_none.mp allowed).2
  | unknownStartVerification =>
    simp only [body] at allowed
    rw [body] at carried
    cases carried
    exact owner allowed
  | manualStartVerification =>
    simp only [body] at allowed
    rw [body] at carried
    cases carried
    exact owner allowed
  | _ => rw [body] at carried; cases carried

theorem reconciliation_owner (made : OperationMoved command loaded s s')
    {stored : StoredReconciliationDecision} (carried : command.body.reconciliation? = some stored) :
    stored.operationId = loaded.operationId := by
  have allowed := evaluateBody_none made.allowed
  unfold evaluateBody at allowed
  have owner : ∀ action, checkReconciliation stored loaded command.expectedVersion action = none →
      stored.operationId = loaded.operationId := by
    intro action checked
    unfold checkReconciliation at checked
    obtain ⟨same, -⟩ := guard_eq_none.mp checked
    exact not_not.mp same
  cases body : command.body with
  | unknownReconcileApplied =>
    simp only [body] at allowed
    rw [body] at carried
    cases carried
    exact owner _ allowed
  | unknownReconcileNotApplied =>
    simp only [body] at allowed
    rw [body] at carried
    cases carried
    exact owner _ allowed
  | _ => rw [body] at carried; cases carried

theorem startedCompensation_owner (made : OperationMoved command loaded s s')
    {compensation : Compensation}
    (carried : command.body.startedCompensation? = some compensation) :
    compensation.originalOperationId = loaded.operationId ∧ compensation.state = .pending := by
  have allowed := evaluateBody_none made.allowed
  unfold evaluateBody at allowed
  have owner : checkCompensationStart compensation loaded = none →
      compensation.originalOperationId = loaded.operationId ∧ compensation.state = .pending := by
    intro checked
    unfold checkCompensationStart at checked
    obtain ⟨same, checked⟩ := guard_eq_none.mp checked
    obtain ⟨pending, -⟩ := guard_eq_none.mp checked
    exact ⟨not_not.mp same, not_not.mp pending⟩
  cases body : command.body with
  | succeededStartCompensation =>
    simp only [body] at allowed
    rw [body] at carried
    cases carried
    exact owner allowed
  | failedStartCompensation =>
    simp only [body] at allowed
    rw [body] at carried
    cases carried
    exact owner allowed
  | manualStartCompensation =>
    simp only [body] at allowed
    rw [body] at carried
    cases carried
    exact owner allowed
  | _ => rw [body] at carried; cases carried

theorem completedAttempt_checked (made : OperationMoved command loaded s s')
    {completed : ExecutionAttempt} (carried : command.body.completedAttempt? = some completed) :
    ∃ row, loaded.latestAttemptId.bind s.attempt? = some row ∧
      CompletionChecked loaded row completed command.kind.executionOutcome? := by
  have allowed := evaluateBody_none made.allowed
  unfold evaluateBody at allowed
  cases body : command.body with
  | executionApplied | executionNotAppliedFail | executionUnknown =>
    simp only [body] at allowed
    rw [body] at carried
    cases carried
    rw [OperationCommand.kind, body]
    exact checkExecutionAttemptComplete_none allowed
  | executionNotAppliedRetry | executionRequireVerification =>
    simp only [body] at allowed
    rw [body] at carried
    cases carried
    rw [OperationCommand.kind, body]
    exact checkExecutionAttemptComplete_none (orElse_eq_none.mp allowed).1
  | _ => rw [body] at carried; cases carried

theorem verificationResult_checked (made : OperationMoved command loaded s s')
    {result : VerificationResult} (carried : command.body.verificationResult? = some result) :
    ResultChecked loaded result
      ((loaded.latestVerificationId.bind s.verification?).bind (·.2))
      command.kind.verificationOutcome? := by
  have allowed := evaluateBody_none made.allowed
  unfold evaluateBody at allowed
  cases body : command.body with
  | verificationApplied | verificationNotAppliedFail | verificationInconclusive =>
    simp only [body] at allowed
    rw [body] at carried
    cases carried
    rw [OperationCommand.kind, body]
    exact checkVerificationComplete_none allowed
  | verificationNotAppliedRetry =>
    simp only [body] at allowed
    rw [body] at carried
    cases carried
    rw [OperationCommand.kind, body]
    exact checkVerificationComplete_none (orElse_eq_none.mp allowed).1
  | verificationEscalate =>
    rw [body] at carried
    obtain rfl : _ = some result := carried
    simp only [body] at allowed
    rw [OperationCommand.kind, body]
    exact checkVerificationComplete_none allowed
  | _ => rw [body] at carried; cases carried

/-- The states of a compensation in progress or failed. -/
def compensationStates : List OperationState :=
  [.compensating, .compensationUnknown, .compensationFailed]

/-- The check of `_check_compensation_outcome` a command of a compensation passed.  It looks at
the stored attempt and verification whenever the command carries one of its own. -/
theorem compensation_checked (made : OperationMoved command loaded s s')
    (source : loaded.state ∈ compensationStates) :
    ∃ loadedAttempt expectedAttempt missing expectedVerification existing,
      checkCompensationOutcome command.kind loaded (loaded.compensationId.bind s.compensation?)
        command.body.completedCompensationAttempt? loadedAttempt expectedAttempt missing
        command.body.compensationVerificationResult? expectedVerification existing = none ∧
      (command.body.completedCompensationAttempt?.isSome ∨
          command.body.compensationVerificationResult?.isSome →
        loadedAttempt = (loadRelated s command loaded).loadedCompensationAttempt ∧
          existing = (loadRelated s command loaded).existingCompensationVerification) := by
  have allowed := evaluateBody_none made.allowed
  have edge := made.source
  unfold evaluateBody at allowed
  cases body : command.body with
  | compensationApplied | compensationOutcomeFailed | compensationOutcomeUnknown
  | compensationUnknownApplied | compensationUnknownFailed | compensationEscalate
  | compensationUnknownEscalate | compensationFailedEscalate =>
    simp only [body] at allowed
    exact ⟨_, _, _, _, _, allowed, fun _ => ⟨rfl, rfl⟩⟩
  | compensationUnknownRetry | compensationFailedRetry =>
    simp only [body] at allowed
    exact ⟨_, _, _, _, _, allowed, by simp [CommandBody.completedCompensationAttempt?,
      CommandBody.compensationVerificationResult?]⟩
  | _ =>
    rw [OperationCommand.kind, body] at edge
    rw [← Option.some.inj edge] at source
    exact absurd source (by decide)

/-- The attempt an applied command completes is the operation's latest, STARTED until then. -/
theorem attemptToComplete_checked (made : OperationMoved command loaded s s')
    {completed : ExecutionAttempt}
    (writes : attemptToComplete command (loadRelated s command loaded) = some completed) :
    command.body.completedAttempt? = some completed ∧
      ∃ row, s.attempt? completed.attemptId = some row ∧ row.state = .started ∧
        CompletionChecked loaded row completed command.kind.executionOutcome? := by
  unfold attemptToComplete at writes
  cases carried : command.body.completedAttempt? with
  | none => simp [carried] at writes
  | some attempt =>
    obtain ⟨row, found, checked⟩ := made.completedAttempt_checked carried
    have stored : (loadRelated s command loaded).loadedAttempt = some row := found
    simp only [carried, stored, Option.ite_none_right_eq_some, Option.some.injEq] at writes
    obtain ⟨started, rfl⟩ := writes
    obtain ⟨attemptId, -, at_⟩ := Option.bind_eq_some_iff.mp found
    have key : row.attemptId = attemptId := (find?_some at_).2
    exact ⟨rfl, row, by rw [checked.attemptId, key]; exact at_, started, checked⟩

/-- A result an applied command stores is the first of the operation's latest verification. -/
theorem resultToComplete_checked (made : OperationMoved command loaded s s')
    {result : VerificationResult}
    (writes : resultToComplete command (loadRelated s command loaded) = some result) :
    command.body.verificationResult? = some result ∧
      ResultChecked loaded result none command.kind.verificationOutcome? := by
  unfold resultToComplete at writes
  cases carried : command.body.verificationResult? with
  | none => simp [carried] at writes
  | some carriedResult =>
    have checked := made.verificationResult_checked carried
    cases existing : (loaded.latestVerificationId.bind s.verification?).bind (·.2) with
    | some stored =>
      have found : (loadRelated s command loaded).existingVerificationResult = some stored :=
        existing
      simp [carried, found] at writes
    | none =>
      have missing : (loadRelated s command loaded).existingVerificationResult = none := existing
      simp only [carried, missing, Option.some.injEq] at writes
      subst writes
      exact ⟨rfl, existing ▸ checked⟩

private theorem compensationStates_of_carried (made : OperationMoved command loaded s s')
    (carried : command.body.completedCompensationAttempt?.isSome ∨
      command.body.compensationVerificationResult?.isSome) :
    loaded.state ∈ compensationStates := by
  have edge := made.source
  rw [OperationCommand.kind] at edge
  cases body : command.body with
  | compensationApplied | compensationOutcomeFailed | compensationOutcomeUnknown
  | compensationUnknownApplied | compensationUnknownFailed | compensationEscalate
  | compensationUnknownEscalate =>
    rw [body] at edge
    rw [← Option.some.inj edge]
    decide
  | _ => rw [body] at carried; simp [CommandBody.completedCompensationAttempt?,
      CommandBody.compensationVerificationResult?] at carried

/-- The record of the operation a compensation attempt of the command completes, with the row. -/
theorem compensationAttemptToComplete_owner (made : OperationMoved command loaded s s')
    {completed : CompensationAttempt}
    (writes : compensationAttemptToComplete command (loadRelated s command loaded) =
      some completed) :
    ∃ compensation row, loaded.compensationId.bind s.compensation? = some compensation ∧
      compensation.originalOperationId = loaded.operationId ∧
      s.compensationAttempt? completed.compensationAttemptId = some row ∧
      row.compensationId = compensation.compensationId := by
  unfold compensationAttemptToComplete at writes
  cases carried : command.body.completedCompensationAttempt? with
  | none => simp [carried] at writes
  | some attempt =>
    have source := compensationStates_of_carried made (.inl (by simp [carried]))
    obtain ⟨_, _, _, _, _, checked, related⟩ := made.compensation_checked source
    obtain ⟨rfl, rfl⟩ := related (.inl (by simp [carried]))
    obtain ⟨compensation, found, known, -, checkedAttempt⟩ :=
      checkCompensationOutcome_none checked
    cases latest : (loadRelated s command loaded).loadedCompensationAttempt with
    | none => simp [carried, latest] at writes
    | some row =>
      simp only [carried, latest, Option.ite_none_right_eq_some, Option.some.injEq] at writes
      obtain ⟨-, rfl⟩ := writes
      have same : attempt.compensationAttemptId = row.compensationAttemptId := by
        rw [carried, latest] at checkedAttempt
        unfold checkCompensationAttempt at checkedAttempt
        simp only at checkedAttempt
        obtain ⟨-, checkedAttempt⟩ := guard_eq_none.mp checkedAttempt
        obtain ⟨same, -⟩ := guard_eq_none.mp checkedAttempt
        exact not_not.mp same
      have listed : row ∈ s.listCompensationAttempts compensation.compensationId := by
        simp only [loadRelated, found] at latest
        exact List.mem_of_getLast? latest
      obtain ⟨stored, owner⟩ := mem_select.mp ((List.mem_insertionSort _).mp listed)
      refine ⟨compensation, row, found, known.parent, ?_, of_decide_eq_true owner⟩
      rw [same]
      exact find?_of_mem stored

theorem compensationResultToComplete_owner (made : OperationMoved command loaded s s')
    {result : VerificationResult}
    (writes : compensationResultToComplete command (loadRelated s command loaded) = some result) :
    ∃ request, s.verification? result.verificationId = some (request, none) ∧
      request.operationId = loaded.operationId ∧ request.target = .compensation := by
  unfold compensationResultToComplete at writes
  cases carried : command.body.compensationVerificationResult? with
  | none => simp [carried] at writes
  | some carriedResult =>
    have source := compensationStates_of_carried made (.inr (by simp [carried]))
    obtain ⟨_, _, _, _, _, checked, related⟩ := made.compensation_checked source
    obtain ⟨rfl, rfl⟩ := related (.inr (by simp [carried]))
    obtain ⟨-, -, -, verified, -⟩ := checkCompensationOutcome_none checked
    have existing : (loadRelated s command loaded).existingCompensationVerification =
        s.verification? carriedResult.verificationId := by simp [loadRelated, carried]
    rw [existing] at writes verified
    rw [carried] at verified
    unfold checkCompensationVerification at verified
    simp only at verified
    obtain ⟨-, verified⟩ := guard_eq_none.mp verified
    cases found : s.verification? carriedResult.verificationId with
    | none => simp [carried, found] at writes
    | some row =>
      obtain ⟨request, stored⟩ := row
      cases stored with
      | some _ => simp [carried, found] at writes
      | none =>
        simp only [carried, found, Option.some.injEq] at writes
        subst writes
        rw [found] at verified
        simp only at verified
        obtain ⟨-, verified⟩ := guard_eq_none.mp verified
        obtain ⟨target, verified⟩ := guard_eq_none.mp verified
        obtain ⟨owner, -⟩ := guard_eq_none.mp verified
        exact ⟨request, found, not_not.mp owner, not_not.mp target⟩

/-- The record a command moves is the operation's own, on an edge of its state machine. -/
theorem movedCompensation_checked (made : OperationMoved command loaded s s')
    {state : CompensationState} (moves : compensationTargetState? command.kind = some state)
    {compensation : Compensation}
    (moved : movedCompensation command (loadRelated s command loaded) = some compensation) :
    s.compensation? compensation.compensationId = some compensation ∧
      CompensationChecked command.kind loaded compensation ∧ command.kind ∉ escalateKinds ∧
      loaded.state ∈ compensationStates := by
  have running : command.kind ∉ escalateKinds := by
    revert moves
    cases command.kind <;> simp [compensationTargetState?, escalateKinds]
  obtain ⟨source, plain⟩ : loaded.state ∈ compensationStates ∧
      command.body.startedCompensation? = none := by
    have edge := made.source
    rw [OperationCommand.kind] at edge moves
    cases body : command.body with
    | compensationApplied | compensationOutcomeUnknown | compensationOutcomeFailed
    | compensationUnknownRetry | compensationUnknownApplied | compensationUnknownFailed
    | compensationFailedRetry =>
      rw [body] at edge
      rw [← Option.some.inj edge]
      exact ⟨by decide, rfl⟩
    | _ => rw [body] at moves; cases moves
  obtain ⟨_, _, _, _, _, checked, -⟩ := made.compensation_checked source
  obtain ⟨own, found, known, -⟩ := checkCompensationOutcome_none checked
  have same : compensation = own := by
    have related : (loadRelated s command loaded).compensation = some own := found
    simpa [movedCompensation, plain, related] using moved.symm
  subst same
  obtain ⟨compensationId, -, at_⟩ := Option.bind_eq_some_iff.mp found
  exact ⟨find?_of_mem (find?_some at_).1, known, running, source⟩

end OperationMoved

/-! ## The rows of a progress command -/

/-- What the four progress commands have in common: the record steps along an edge or stays
EXECUTING, a claim writes its attempt and a verification start its request, and every row they
write belongs to the record, or to the operation as COMPENSATION work. -/
structure ProgressChecked (loaded : Operation) (compensation : Compensation)
    (newState : CompensationState) (completed? attempt? : Option CompensationAttempt)
    (request? : Option VerificationRequest) (result? : Option VerificationResult)
    (outbox? : Option OutboxEvent) (s : Store) : Prop where
  writes : newState = .executing ∧ attempt? ≠ none ∨ newState = .verifying ∧ request? ≠ none
  legal : evaluateCompensationTransition compensation.state newState = true ∨
    compensation.state = newState
  completed : ∀ completed, completed? = some completed → completed.state = .completed ∧ ∃ row,
    s.compensationAttempt? completed.compensationAttemptId = some row ∧ row.state = .started ∧
      row.compensationId = compensation.compensationId
  attempt : ∀ attempt, attempt? = some attempt →
    attempt.compensationId = compensation.compensationId ∧ attempt.state = .started ∧
      attempt.attemptNumber =
        (s.listCompensationAttempts compensation.compensationId).length + 1
  request : ∀ request, request? = some request →
    request.operationId = loaded.operationId ∧ request.target = .compensation
  result : ∀ result, result? = some result → ∃ request,
    s.verification? result.verificationId = some (request, none) ∧
      request.operationId = loaded.operationId ∧ request.target = .compensation
  outbox : ∀ event, outbox? = some event →
    event.aggregateId = loaded.operationId ∧ event.command ≠ .execute

section Progress

variable {loaded : Operation} {compensation : Compensation} {s : Store}

theorem ProgressChecked.state {newState : CompensationState}
    {completed? attempt? : Option CompensationAttempt} {request? : Option VerificationRequest}
    {result? : Option VerificationResult} {outbox? : Option OutboxEvent}
    (checked : ProgressChecked loaded compensation newState completed? attempt? request? result?
      outbox? s) : newState = .executing ∨ newState = .verifying :=
  checked.writes.imp And.left And.left

theorem claimCompensation_checked {command : ClaimCompensationExecution}
    (allowed : evaluateClaimCompensationPreconditions command loaded compensation
      (s.listCompensationAttempts compensation.compensationId) = none) :
    compensation.state = .pending ∧
      ProgressChecked loaded compensation .executing none (some command.attempt) none none none
        s := by
  unfold evaluateClaimCompensationPreconditions at allowed
  obtain ⟨-, allowed⟩ := guard_eq_none.mp allowed
  obtain ⟨-, allowed⟩ := guard_eq_none.mp allowed
  obtain ⟨pending, allowed⟩ := guard_eq_none.mp allowed
  obtain ⟨legal, allowed⟩ := guard_eq_none.mp allowed
  obtain ⟨-, allowed⟩ := guard_eq_none.mp allowed
  obtain ⟨owner, allowed⟩ := guard_eq_none.mp allowed
  obtain ⟨started, allowed⟩ := guard_eq_none.mp allowed
  obtain ⟨number, -⟩ := guard_eq_none.mp allowed
  have source := not_not.mp pending
  refine ⟨source, .inl ⟨rfl, by simp⟩, .inl (by simpa [source] using legal), by simp, ?_, by simp,
    by simp, by simp⟩
  rintro attempt ⟨⟩
  exact ⟨not_not.mp owner, not_not.mp started, not_not.mp number⟩

theorem claimCompensationRetry_checked {command : ClaimCompensationRetryAttempt}
    (allowed : evaluateClaimCompensationRetryAttemptPreconditions command loaded compensation
      (s.listCompensationAttempts compensation.compensationId) = none) :
    ProgressChecked loaded compensation .executing none (some command.attempt) none none none
      s := by
  unfold evaluateClaimCompensationRetryAttemptPreconditions at allowed
  obtain ⟨-, allowed⟩ := guard_eq_none.mp allowed
  obtain ⟨-, allowed⟩ := guard_eq_none.mp allowed
  obtain ⟨executing, allowed⟩ := guard_eq_none.mp allowed
  obtain ⟨-, allowed⟩ := guard_eq_none.mp allowed
  cases latest : (s.listCompensationAttempts compensation.compensationId).getLast? with
  | none => rw [latest] at allowed; cases allowed
  | some row =>
    rw [latest] at allowed
    obtain ⟨-, allowed⟩ := guard_eq_none.mp allowed
    obtain ⟨owner, allowed⟩ := guard_eq_none.mp allowed
    obtain ⟨started, allowed⟩ := guard_eq_none.mp allowed
    obtain ⟨number, -⟩ := guard_eq_none.mp allowed
    refine ⟨.inl ⟨rfl, by simp⟩, .inr (not_not.mp executing), by simp, ?_, by simp, by simp,
      by simp⟩
    rintro attempt ⟨⟩
    exact ⟨not_not.mp owner, not_not.mp started, not_not.mp number⟩

theorem startCompensationVerification_checked {command : StartCompensationVerification}
    (allowed : evaluateStartCompensationVerificationPreconditions command loaded compensation
      (s.listCompensationAttempts compensation.compensationId).getLast? = none) :
    ProgressChecked loaded compensation .verifying
      (startVerificationCompletion command
        (s.listCompensationAttempts compensation.compensationId).getLast?) none
      (some command.verificationRequest) none
      (some (buildOutboxEvent command.outboxEventId loaded.operationId loaded.version .verify
        command.occurredAt command.correlationId)) s := by
  unfold evaluateStartCompensationVerificationPreconditions at allowed
  obtain ⟨-, allowed⟩ := guard_eq_none.mp allowed
  obtain ⟨-, allowed⟩ := guard_eq_none.mp allowed
  obtain ⟨executing, allowed⟩ := guard_eq_none.mp allowed
  obtain ⟨legal, allowed⟩ := guard_eq_none.mp allowed
  obtain ⟨-, allowed⟩ := guard_eq_none.mp allowed
  obtain ⟨requested, completes⟩ := orElse_eq_none.mp allowed
  have source := not_not.mp executing
  refine ⟨.inr ⟨rfl, by simp⟩, .inl (by simpa [source] using legal), fun completed writes => ?_,
    by simp, ?_, by simp, ?_⟩
  · unfold startVerificationCompletion at writes
    cases carried : command.completedCompensationAttempt with
    | none => simp [carried] at writes
    | some attempt =>
      cases latest : (s.listCompensationAttempts compensation.compensationId).getLast? with
      | none => simp [carried, latest] at writes
      | some row =>
        simp only [carried, latest, Option.ite_none_right_eq_some, Option.some.injEq] at writes
        obtain ⟨started, rfl⟩ := writes
        rw [carried, latest] at completes
        obtain ⟨-, completes⟩ := guard_eq_none.mp completes
        obtain ⟨same, completes⟩ := guard_eq_none.mp completes
        simp only [started] at completes
        obtain ⟨ended, -⟩ := guard_eq_none.mp completes
        obtain ⟨stored, owner⟩ := mem_select.mp
          ((List.mem_insertionSort _).mp (List.mem_of_getLast? latest))
        exact ⟨not_not.mp ended, row, not_not.mp same ▸ find?_of_mem stored, started,
          of_decide_eq_true owner⟩
  · rintro request ⟨⟩
    obtain ⟨owner, requested⟩ := guard_eq_none.mp requested
    obtain ⟨target, -⟩ := guard_eq_none.mp requested
    exact ⟨not_not.mp owner, not_not.mp target⟩
  · rintro event ⟨⟩
    exact ⟨rfl, by simp [buildOutboxEvent]⟩

theorem retryCompensationAfterVerification_checked {command : RetryCompensationAfterVerification}
    (allowed : evaluateRetryCompensationAfterVerificationPreconditions command loaded compensation
      (s.listCompensationAttempts compensation.compensationId)
      (s.verification? command.verificationResult.verificationId) = none) :
    ProgressChecked loaded compensation .executing none (some command.attempt) none
      (retryResultToComplete command
        (s.verification? command.verificationResult.verificationId))
      (some (buildOutboxEvent command.outboxEventId loaded.operationId loaded.version .compensate
        command.occurredAt command.correlationId)) s := by
  unfold evaluateRetryCompensationAfterVerificationPreconditions at allowed
  obtain ⟨-, allowed⟩ := guard_eq_none.mp allowed
  obtain ⟨-, allowed⟩ := guard_eq_none.mp allowed
  obtain ⟨verifying, allowed⟩ := guard_eq_none.mp allowed
  obtain ⟨legal, allowed⟩ := guard_eq_none.mp allowed
  obtain ⟨-, allowed⟩ := guard_eq_none.mp allowed
  obtain ⟨-, allowed⟩ := guard_eq_none.mp allowed
  have source := not_not.mp verifying
  cases existing : s.verification? command.verificationResult.verificationId with
  | none => rw [existing] at allowed; cases allowed
  | some row =>
    obtain ⟨request, stored⟩ := row
    rw [existing] at allowed
    obtain ⟨-, allowed⟩ := guard_eq_none.mp allowed
    obtain ⟨target, allowed⟩ := guard_eq_none.mp allowed
    obtain ⟨owner, allowed⟩ := guard_eq_none.mp allowed
    obtain ⟨-, allowed⟩ := guard_eq_none.mp allowed
    cases latest : (s.listCompensationAttempts compensation.compensationId).getLast? with
    | none => rw [latest] at allowed; cases allowed
    | some last =>
      rw [latest] at allowed
      obtain ⟨-, allowed⟩ := guard_eq_none.mp allowed
      obtain ⟨-, allowed⟩ := guard_eq_none.mp allowed
      obtain ⟨record, allowed⟩ := guard_eq_none.mp allowed
      obtain ⟨started, allowed⟩ := guard_eq_none.mp allowed
      obtain ⟨number, -⟩ := guard_eq_none.mp allowed
      refine ⟨.inl ⟨rfl, by simp⟩, .inl (by simpa [source] using legal), by simp, ?_, by simp,
        fun result writes => ?_, ?_⟩
      · rintro attempt ⟨⟩
        exact ⟨not_not.mp record, not_not.mp started, not_not.mp number⟩
      · cases stored with
        | some _ => simp [retryResultToComplete] at writes
        | none =>
          simp only [retryResultToComplete, Option.some.injEq] at writes
          subst writes
          exact ⟨request, existing, not_not.mp owner, not_not.mp target⟩
      · rintro event ⟨⟩
        exact ⟨rfl, by simp [buildOutboxEvent]⟩

end Progress

end Stateback.Transitions
