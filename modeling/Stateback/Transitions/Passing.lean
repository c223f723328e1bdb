import Stateback.Transitions.Progress
/-!
# Commands that pass

The converse of the ownership lemmas: what an operation command has to carry for the checks of
its kind to pass.  A command that passes and whose ids are new is applied when its clock is not
behind the rows it replaces.
-/

namespace Stateback.Transitions

open Stateback.Domain Stateback.Persistence KeyedTable KeyedTable.Table

variable {s : Store} {command : OperationCommand} {operation : Operation}

theorem evaluatePreconditions_passes {related : RelatedRecords}
    (actor : command.kind ∈ actorRequiredKinds → command.actor ≠ none)
    (body : evaluateBody command operation related = none) :
    evaluatePreconditions command operation related = none := by
  refine orElse_eq_none.mpr ⟨?_, orElse_eq_none.mpr ⟨checkOutboxId_none _, body⟩⟩
  simp only [checkActor, ite_eq_right_iff]
  rintro ⟨⟨required, -⟩, missing⟩
  exact absurd missing (actor required)

/-! ## The checks of an execution -/

/-- A stored completion of the operation's own attempt passes for its own outcome. -/
theorem checkExecutionAttemptComplete_passes {completed : ExecutionAttempt}
    {expected : Option EffectOutcome} {crash : Bool} (named : operation.latestAttemptId ≠ none)
    (owner : completed.operationId = operation.operationId)
    (state : completed.state = .completed)
    (agrees : ∀ outcome, expected = some outcome → completed.outcome = some outcome) :
    checkExecutionAttemptComplete operation (some completed) (some completed) expected crash =
      none := by
  have outcome : ¬(expected ≠ none ∧ completed.outcome ≠ expected) := by
    rintro ⟨there, differs⟩
    obtain ⟨outcome, is⟩ := Option.ne_none_iff_exists'.mp there
    exact differs ((agrees outcome is).trans is.symm)
  simp [checkExecutionAttemptComplete, named, owner, state, outcome]

theorem checkVerificationRequest_passes {request : VerificationRequest} {version : Int}
    {target : VerificationTarget} (owner : request.operationId = operation.operationId)
    (asks : request.target = target) (current : (request.operationVersion : Int) = version) :
    checkVerificationRequest request operation version target = none := by
  simp [checkVerificationRequest, owner, asks, current]

/-- NOT_APPLIED makes every retry safe. -/
theorem mapRetrySafetyReason_notApplied (mode : IdempotencyMode) :
    mapRetrySafetyReason (some .notApplied) none mode none = none ∧
      mapRetrySafetyReason none (some .notApplied) mode none = none := by
  constructor <;> simp [mapRetrySafetyReason, evaluateEffectRetrySafety]

/-! ## The checks of a verification -/

theorem checkVerificationComplete_passes {result : VerificationResult}
    {expected : Option EffectOutcome}
    (latest : operation.latestVerificationId = some result.verificationId)
    (agrees : ∀ outcome, expected = some outcome → result.outcome = outcome) :
    checkVerificationComplete operation result (some result) expected = none := by
  have outcome : ¬(expected ≠ none ∧ some result.outcome ≠ expected) := by
    rintro ⟨there, differs⟩
    obtain ⟨outcome, is⟩ := Option.ne_none_iff_exists'.mp there
    exact differs ((congrArg some (agrees outcome is)).trans is.symm)
  simp [checkVerificationComplete, latest, outcome]

/-! ## The checks of a compensation -/

theorem checkCompensationOutcome_passes {kind : TransitionKind} {record : Compensation}
    {completed loadedAttempt : Option CompensationAttempt} {expectedAttempt : Option EffectOutcome}
    {missing : Bool} {result : Option VerificationResult}
    {expectedVerification : Option EffectOutcome} {existing : Option VerificationRow}
    (named : operation.compensationId = some record.compensationId)
    (parent : record.originalOperationId = operation.operationId)
    (consistent : operation.state = parentForCompensationState record.state)
    (verification : checkCompensationVerification operation loadedAttempt result
      expectedVerification existing = none)
    (target : checkCompensationTarget kind record = none)
    (attempt : checkCompensationAttempt record completed loadedAttempt expectedAttempt missing
      result = none) :
    checkCompensationOutcome kind operation (some record) completed loadedAttempt expectedAttempt
      missing result expectedVerification existing = none := by
  simp [checkCompensationOutcome, named, parent, compensationParentIsConsistent, consistent,
    verification, target, attempt]

/-- The record may take the edge of the command's kind. -/
theorem checkCompensationTarget_passes {kind : TransitionKind} {record : Compensation}
    (moves : ∀ state, compensationTargetState? kind = some state →
      kind.edge.2 = parentForCompensationState state ∧
        evaluateCompensationTransition record.state state = true) :
    checkCompensationTarget kind record = none := by
  unfold checkCompensationTarget
  split
  · rfl
  · cases target : compensationTargetState? kind with
    | none => rfl
    | some state =>
      obtain ⟨parent, legal⟩ := moves state target
      simp [compensationParentIsConsistent, parent, legal]

/-- A completion of the latest attempt passes for its own outcome, or for one a verification
found where the stored outcome is UNKNOWN. -/
theorem checkCompensationAttempt_passes {record : Compensation}
    {completed latest : CompensationAttempt} {expected : Option EffectOutcome} {missing : Bool}
    {result : Option VerificationResult}
    (owner : completed.compensationId = record.compensationId)
    (same : completed.compensationAttemptId = latest.compensationAttemptId)
    (state : completed.state = .completed)
    (stored : latest.state = .completed → completed.outcome = latest.outcome)
    (agrees : completed.outcome = expected ∨
      completed.outcome = some .unknown ∧ latest.state = .completed ∧
        result.map (·.outcome) = expected) :
    checkCompensationAttempt record (some completed) (some latest) expected missing result =
      none := by
  simp only [checkCompensationAttempt, owner, same, ne_eq, not_true_eq_false, if_false]
  cases ended : latest.state with
  | started =>
    obtain agrees | ⟨-, other, -⟩ := agrees
    · simp [state, agrees]
    · rw [ended] at other
      cases other
  | completed =>
    have outcome := stored ended
    obtain agrees | ⟨unknown, -, found⟩ := agrees
    · simp [← outcome, agrees]
    · simp [← outcome, unknown, found]

/-- An answer about the latest attempt to a request of the operation's version, still open. -/
theorem checkCompensationVerification_passes {request : VerificationRequest}
    {latest : CompensationAttempt} {result : VerificationResult} {expected : Option EffectOutcome}
    (answers : request.verificationId = result.verificationId)
    (target : request.target = .compensation)
    (owner : request.operationId = operation.operationId)
    (current : request.operationVersion = operation.version)
    (about : request.targetAttemptId = some latest.compensationAttemptId)
    (agrees : ∀ outcome, expected = some outcome → result.outcome = outcome) :
    checkCompensationVerification operation (some latest) (some result) expected
      (some (request, none)) = none := by
  have outcome : ¬(expected ≠ none ∧ some result.outcome ≠ expected) := by
    rintro ⟨there, differs⟩
    obtain ⟨outcome, is⟩ := Option.ne_none_iff_exists'.mp there
    exact differs ((congrArg some (agrees outcome is)).trans is.symm)
  simp [checkCompensationVerification, answers, target, owner, current, about, outcome]

/-! ## The checks of a compensation's progress -/

theorem startCompensationVerification_passes {command : StartCompensationVerification}
    {record : Compensation} {completed latest : CompensationAttempt}
    (compensating : operation.state = .compensating)
    (parent : record.originalOperationId = operation.operationId)
    (executing : record.state = .executing)
    (request : checkVerificationRequest command.verificationRequest operation
      command.expectedOperationVersion .compensation = none)
    (carries : command.completedCompensationAttempt = some completed)
    (owner : completed.compensationId = record.compensationId)
    (same : completed.compensationAttemptId = latest.compensationAttemptId)
    (state : completed.state = .completed)
    (stored : latest.state = .completed → completed.outcome = latest.outcome)
    (proved : completed.outcome = some .applied) :
    evaluateStartCompensationVerificationPreconditions command operation record (some latest) =
      none := by
  have legal : evaluateCompensationTransition .executing .verifying = true := by decide
  have consistent : compensationParentIsConsistent .verifying .compensating = true := by decide
  cases ended : latest.state with
  | started =>
    simp [evaluateStartCompensationVerificationPreconditions, compensating, parent, executing,
      legal, consistent, request, carries, owner, same, ended, state, proved]
  | completed =>
    have outcome := stored ended
    simp [evaluateStartCompensationVerificationPreconditions, compensating, parent, executing,
      legal, consistent, request, carries, owner, same, ended, ← outcome, proved]

theorem retryCompensationAfterVerification_passes {command : RetryCompensationAfterVerification}
    {record : Compensation} {latest : CompensationAttempt} {request : VerificationRequest}
    {attempts : List CompensationAttempt} (compensating : operation.state = .compensating)
    (parent : record.originalOperationId = operation.operationId)
    (verifying : record.state = .verifying)
    (outcome : command.verificationResult.outcome = .notApplied)
    (answers : request.verificationId = command.verificationResult.verificationId)
    (target : request.target = .compensation)
    (owner : request.operationId = operation.operationId)
    (current : request.operationVersion = operation.version)
    (last : attempts.getLast? = some latest)
    (about : request.targetAttemptId = some latest.compensationAttemptId)
    (own : command.attempt.compensationId = record.compensationId)
    (started : command.attempt.state = .started)
    (number : command.attempt.attemptNumber = attempts.length + 1)
    (keys : idempotencyKeyMismatch (attempts.map (·.providerIdempotencyKey))
      command.attempt.providerIdempotencyKey = false) :
    evaluateRetryCompensationAfterVerificationPreconditions command operation record attempts
      (some (request, none)) = none := by
  have legal : evaluateCompensationTransition .verifying .executing = true := by decide
  have consistent : compensationParentIsConsistent .executing .compensating = true := by decide
  simp [evaluateRetryCompensationAfterVerificationPreconditions, compensating, parent, verifying,
    legal, consistent, outcome, answers, target, owner, current, last, about, own, started, number,
    keys, mapRetrySafetyReason_notApplied]

/-- What an open request has to be for a verified retry to pass, and the key of its attempt. -/
theorem retryCompensationAfterVerification_none {command : RetryCompensationAfterVerification}
    {record : Compensation} {request : VerificationRequest} {attempts : List CompensationAttempt}
    (allowed : evaluateRetryCompensationAfterVerificationPreconditions command operation record
      attempts (some (request, none)) = none) :
    request.operationVersion = operation.version ∧
      (∃ latest, attempts.getLast? = some latest ∧
        request.targetAttemptId = some latest.compensationAttemptId) ∧
      idempotencyKeyMismatch (attempts.map (·.providerIdempotencyKey))
        command.attempt.providerIdempotencyKey = false := by
  unfold evaluateRetryCompensationAfterVerificationPreconditions at allowed
  obtain ⟨-, allowed⟩ := guard_eq_none.mp allowed
  obtain ⟨-, allowed⟩ := guard_eq_none.mp allowed
  obtain ⟨-, allowed⟩ := guard_eq_none.mp allowed
  obtain ⟨-, allowed⟩ := guard_eq_none.mp allowed
  obtain ⟨-, allowed⟩ := guard_eq_none.mp allowed
  obtain ⟨-, allowed⟩ := guard_eq_none.mp allowed
  obtain ⟨-, allowed⟩ := guard_eq_none.mp allowed
  obtain ⟨-, allowed⟩ := guard_eq_none.mp allowed
  obtain ⟨-, allowed⟩ := guard_eq_none.mp allowed
  obtain ⟨current, allowed⟩ := guard_eq_none.mp allowed
  cases last : attempts.getLast? with
  | none => simp [last] at allowed
  | some latest =>
    simp only [last] at allowed
    obtain ⟨about, allowed⟩ := guard_eq_none.mp allowed
    obtain ⟨-, allowed⟩ := guard_eq_none.mp allowed
    obtain ⟨-, allowed⟩ := guard_eq_none.mp allowed
    obtain ⟨-, allowed⟩ := guard_eq_none.mp allowed
    obtain ⟨-, allowed⟩ := guard_eq_none.mp allowed
    obtain ⟨keys, -⟩ := guard_eq_none.mp allowed
    exact ⟨not_not.mp current, ⟨latest, rfl, not_not.mp about⟩, by simpa using keys⟩

/-! ## Application -/

/-- The body inserts no row but a verification request. -/
structure Settles (body : CommandBody) : Prop where
  policyDecision : body.policyDecision? = none
  requestedApproval : body.requestedApproval? = none
  decidedApproval : body.decidedApproval? = none
  claimedAttempt : body.claimedAttempt? = none
  reconciliation : body.reconciliation? = none
  startedCompensation : body.startedCompensation? = none

/-- The ids an operation command writes under are in use nowhere. -/
structure OperationCommand.NewIds (command : OperationCommand) (s : Store) : Prop where
  audits : ∀ loaded, s.operation? command.operationId = some loaded →
    FreshAuditIds s (auditIds command loaded (loadRelated s command loaded))
  outbox : ∀ id, command.body.outboxEventId? = some id → s.outboxEvent? id = none
  request : ∀ request, command.body.verificationRequest? = some request →
    s.verification? request.verificationId = none

/-- The command is for this operation as it is, its checks pass, and it completes open rows. -/
structure OperationCommand.Passes (command : OperationCommand) (operation : Operation)
    (s : Store) : Prop where
  operationId : command.operationId = operation.operationId
  version : (operation.version : Int) = command.expectedVersion
  source : command.kind.edge.1 = some operation.state
  actor : command.kind ∈ actorRequiredKinds → command.actor ≠ none
  checks : evaluateBody command operation (loadRelated s command operation) = none
  settles : Settles command.body
  attempt : attemptToComplete command (loadRelated s command operation) = none
  result : resultToComplete command (loadRelated s command operation) = none
  compensationAttempt : ∀ completed,
    compensationAttemptToComplete command (loadRelated s command operation) = some completed →
    completed.state = .completed ∧ ∃ row,
      s.compensationAttempt? completed.compensationAttemptId = some row ∧ row.state = .started
  compensationResult : ∀ result,
    compensationResultToComplete command (loadRelated s command operation) = some result →
    ∃ request, s.verification? result.verificationId = some (request, none)

/-- The command's clock is not behind the rows it replaces. -/
def OperationCommand.InTime (command : OperationCommand) (operation : Operation) (s : Store) :
    Prop :=
  operation.createdAt.value ≤ command.occurredAt.value ∧
    ∀ state record, compensationTargetState? command.kind = some state →
      operation.compensationId.bind s.compensation? = some record →
      record.createdAt.value ≤ command.occurredAt.value

/-- An applied command moved the operation it was built for. -/
theorem moved_of_applied {s' : Store} {result : TransitionResult}
    (found : s.operation? command.operationId = some operation)
    (ran : applyOperation command s = .ok (result, s')) (applied : result.outcome = .applied) :
    OperationMoved command operation s s' := by
  obtain ⟨loaded, made, -⟩ | ⟨_, -, -, -, -, replayed, -⟩ | ⟨_, -, -, refused, -⟩ :=
    applyOperation_cases ran
  · obtain rfl : loaded = operation := Option.some.inj (made.found.symm.trans found)
    exact made
  · rw [applied] at replayed
    cases replayed
  · rw [applied] at refused
    cases refused

namespace OperationCommand.Passes

/-- The record a passing command moves is the operation's own. -/
theorem movedCompensation (passes : command.Passes operation s) :
    Transitions.movedCompensation command (loadRelated s command operation) =
      operation.compensationId.bind s.compensation? := by
  simp [Transitions.movedCompensation, passes.settles.startedCompensation, loadRelated]

theorem related (passes : command.Passes operation s) (ids : command.NewIds s)
    (inTime : command.InTime operation s) :
    RelatedAcceptable command (loadRelated s command operation) s where
  policyDecision := by simp [passes.settles.policyDecision]
  requestedApproval := by simp [passes.settles.requestedApproval]
  decidedApproval := by simp [passes.settles.decidedApproval]
  claimedAttempt := by simp [passes.settles.claimedAttempt]
  completedAttempt := by simp [passes.attempt]
  request := ids.request
  result := by simp [passes.result]
  reconciliation := by simp [passes.settles.reconciliation]
  startedCompensation := by simp [passes.settles.startedCompensation]
  compensationAttempt := passes.compensationAttempt
  compensationResult := passes.compensationResult
  movedCompensation := by
    intro state record target moved
    rw [passes.movedCompensation] at moved
    obtain ⟨_, -, found⟩ := Option.bind_eq_some_iff.mp moved
    exact ⟨inTime.2 state record target moved, find?_of_mem (find?_some found).1⟩

theorem acceptable (found : s.operation? operation.operationId = some operation)
    (passes : command.Passes operation s) (ids : command.NewIds s)
    (inTime : command.InTime operation s) :
    Acceptable command operation (loadRelated s command operation) s := by
  refine ⟨inTime.1, ids.audits operation (passes.operationId ▸ found), fun row carried => ?_⟩
  unfold outboxRow? at carried
  cases mapped : command.kind.outboxCommand? with
  | none => simp [mapped] at carried
  | some workCommand =>
    cases id : command.body.outboxEventId? with
    | none => simp [mapped, id] at carried
    | some eventId =>
      simp only [mapped, id, Option.some.injEq] at carried
      rw [← carried]
      exact ids.outbox eventId id

/-- With new ids, a passing command is applied exactly when its clock is not behind. -/
theorem applied_iff (passes : command.Passes operation s)
    (found : s.operation? operation.operationId = some operation) (ids : command.NewIds s) :
    (∃ result s', applyOperation command s = .ok (result, s') ∧ result.outcome = .applied) ↔
      command.InTime operation s := by
  have named : s.operation? command.operationId = some operation := by
    rw [passes.operationId]
    exact found
  constructor
  · rintro ⟨result, s', ran, applied⟩
    have made := moved_of_applied named ran applied
    refine ⟨made.clock, fun state record target own => ?_⟩
    obtain ⟨mid, -, moved⟩ := made.related.compensations
    rw [CompensationMoved, target, passes.movedCompensation, own] at moved
    exact moved.1
  · intro inTime
    exact applyOperation_applies named passes.version passes.source
      (evaluatePreconditions_passes passes.actor passes.checks)
      (passes.acceptable found ids inTime) (passes.related ids inTime)

end OperationCommand.Passes

end Stateback.Transitions
