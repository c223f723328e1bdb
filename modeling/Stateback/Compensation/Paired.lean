import Stateback.Compensation.Operator
import Stateback.Invariants.Compensations
/-!
# Paired commands

Three units of work send an operation back to COMPENSATING and go on with its record in the same
transaction.  A conflict undoes both commands.  A rejection of the second is an answer, and the
transaction commits the first alone.
-/

namespace Stateback.Compensation

open Domain Persistence Transitions Invariants KeyedTable KeyedTable.Table Transaction

variable {s s' : Store} {loaded : Operation} {record : Compensation} {result : TransitionResult}

/-- A command that sends an operation back to COMPENSATING. -/
structure RetryCommand where
  command : OperationCommand
  retries : command.kind = .compensationUnknownRetry ∨ command.kind = .compensationFailedRetry

/-- The units of work of two commands: `_unknown_without_verify`, `_maybe_claim_retry` and
`retry_failed_compensation` claim the next attempt, `_unknown_start_verification` starts a
verification of the latest one. -/
inductive PairedStep where
  | claim (retry : RetryCommand) (actor : PrincipalRef) (correlationId : Option String)
      (reasonCode : String) (next : CompensationAttempt) (attemptAuditEventId : OpaqueId)
      (claimedAt : UtcTimestamp)
  | verify (retry : RetryCommand) (h : Handling) (retryIds : CompensationRetryIds)
      (latest : CompensationAttempt) (requestedAt startedAt : UtcTimestamp)

namespace PairedStep

def retry : PairedStep → RetryCommand
  | .claim retry .. => retry
  | .verify retry .. => retry

def body : PairedStep → Uow TransitionResult
  | .claim retry actor correlationId reasonCode next attemptAuditEventId claimedAt =>
    retryAndClaim retry.command
      (retryClaim actor correlationId reasonCode next attemptAuditEventId claimedAt)
  | .verify retry h retryIds latest requestedAt startedAt =>
    retryAndVerify retry.command
      (resumeVerificationCommand h retryIds latest requestedAt startedAt)

/-- A step that ends REJECTED or raises leaves the journal as it found it. -/
def Atomic (step : PairedStep) (s : Store) : Prop :=
  ∀ ended s', execute step.body s = (s', ended) →
    (∀ result, ended = .ok result → result.outcome = .rejected) → s' = s

/-- The second command fits the attempts of the record. -/
def Follows (step : PairedStep) (compensationId : OpaqueId)
    (attempts : List CompensationAttempt) : Prop :=
  match step with
  | .claim _ _ _ _ next _ _ => ∃ latest, attempts.getLast? = some latest ∧
      latest.state = .completed ∧ next.compensationId = compensationId ∧ next.state = .started ∧
      next.attemptNumber = attempts.length + 1 ∧
      idempotencyKeyMismatch (attempts.map (·.providerIdempotencyKey))
        next.providerIdempotencyKey = false
  | .verify .. => attempts ≠ []

end PairedStep

/-- The first command's checks pass for the loaded operation and its record, and the journal
takes its clock and ids. -/
structure Returns (retry : RetryCommand) (loaded : Operation) (record : Compensation)
    (s : Store) : Prop where
  found : s.operation? retry.command.operationId = some loaded
  version : (loaded.version : Int) = retry.command.expectedVersion
  source : retry.command.kind.edge.1 = some loaded.state
  allowed : evaluatePreconditions retry.command loaded (loadRelated s retry.command loaded) = none
  acceptable : Acceptable retry.command loaded (loadRelated s retry.command loaded) s
  own : (loadRelated s retry.command loaded).compensation = some record
  clock : record.createdAt.value ≤ retry.command.occurredAt.value

/-- The first command is applied and the second does not fit. -/
def PairedStep.Splits (step : PairedStep) (s : Store) : Prop :=
  ∃ loaded record, Returns step.retry loaded record s ∧
    ¬step.Follows record.compensationId (s.listCompensationAttempts record.compensationId)

/-! ## The first command -/

section Returned

variable {retry : RetryCommand}

/-- The command carries an outbox id and nothing else. -/
theorem RetryCommand.body (retry : RetryCommand) :
    (∃ outboxEventId, retry.command.body = .compensationUnknownRetry outboxEventId) ∨
      ∃ outboxEventId, retry.command.body = .compensationFailedRetry outboxEventId := by
  have retries := retry.retries
  simp only [OperationCommand.kind] at retries
  cases body : retry.command.body with
  | compensationUnknownRetry outboxEventId => exact .inl ⟨outboxEventId, rfl⟩
  | compensationFailedRetry outboxEventId => exact .inr ⟨outboxEventId, rfl⟩
  | _ => simp [body, CommandBody.kind] at retries

theorem RetryCommand.target (retry : RetryCommand) :
    retry.command.kind.edge.2 = .compensating ∧
      compensationTargetState? retry.command.kind = some .executing := by
  obtain kind | kind := retry.retries <;> rw [kind] <;> exact ⟨rfl, rfl⟩

theorem RetryCommand.moves (retry : RetryCommand) (related : RelatedRecords) :
    movedCompensation retry.command related = related.compensation := by
  obtain ⟨_, body⟩ | ⟨_, body⟩ := retry.body <;>
    simp [movedCompensation, body, CommandBody.startedCompensation?]

theorem RetryCommand.completes (retry : RetryCommand) (related : RelatedRecords) :
    compensationAttemptToComplete retry.command related = none := by
  obtain ⟨_, body⟩ | ⟨_, body⟩ := retry.body <;>
    simp [compensationAttemptToComplete, body, CommandBody.completedCompensationAttempt?]

theorem Returns.stored (returns : Returns retry loaded record s) :
    s.compensation? record.compensationId = some record := by
  obtain ⟨_, -, there⟩ := Option.bind_eq_some_iff.mp returns.own
  exact find?_of_mem (find?_some there).1

/-- Apart from the record, the command writes no row around the operation. -/
theorem Returns.related (returns : Returns retry loaded record s) :
    RelatedAcceptable retry.command (loadRelated s retry.command loaded) s := by
  have moved : ∀ state compensation, compensationTargetState? retry.command.kind = some state →
      movedCompensation retry.command (loadRelated s retry.command loaded) = some compensation →
      compensation.createdAt.value ≤ retry.command.occurredAt.value ∧
        s.compensation? compensation.compensationId = some compensation := by
    intro state compensation _ moved
    rw [retry.moves, returns.own, Option.some.injEq] at moved
    subst moved
    exact ⟨returns.clock, returns.stored⟩
  have silent : compensationAttemptToComplete retry.command
      (loadRelated s retry.command loaded) = none := retry.completes _
  obtain ⟨_, body⟩ | ⟨_, body⟩ := retry.body <;>
  exact
    { policyDecision := by simp [body, CommandBody.policyDecision?]
      requestedApproval := by simp [body, CommandBody.requestedApproval?]
      decidedApproval := by simp [body, CommandBody.decidedApproval?]
      claimedAttempt := by simp [body, CommandBody.claimedAttempt?]
      completedAttempt := by simp [attemptToComplete, body, CommandBody.completedAttempt?]
      request := by simp [body, CommandBody.verificationRequest?]
      result := by simp [resultToComplete, body, CommandBody.verificationResult?]
      reconciliation := by simp [body, CommandBody.reconciliation?]
      startedCompensation := by simp [body, CommandBody.startedCompensation?]
      compensationAttempt := by simp [silent]
      compensationResult := by
        simp [compensationResultToComplete, body, CommandBody.compensationVerificationResult?]
      movedCompensation := moved }

/-- The journal between the two commands. -/
structure Returned (retry : RetryCommand) (loaded : Operation) (record : Compensation)
    (s s₁ : Store) (result : TransitionResult) : Prop where
  returns : Returns retry loaded record s
  made : OperationMoved retry.command loaded s s₁
  operation : result.operation = some (movedOperation retry.command loaded)
  compensation : result.compensation =
    some (steppedCompensation record .executing retry.command.occurredAt)

/-- An applied first command returned the operation and its record. -/
theorem returned_of_applied {s₁ : Store}
    (ran : applyOperation retry.command s = .ok (result, s₁))
    (applied : result.outcome = .applied) :
    ∃ loaded record, Returned retry loaded record s s₁ result := by
  obtain ⟨loaded, made, -, operation⟩ | ⟨_, -, -, -, -, refused, -⟩ | ⟨_, -, -, refused, -⟩ :=
    applyOperation_cases ran
  · obtain ⟨record, own⟩ : ∃ record,
        (loadRelated s retry.command loaded).compensation = some record := by
      have allowed := evaluateBody_none made.allowed
      unfold evaluateBody at allowed
      obtain ⟨_, body⟩ | ⟨_, body⟩ := retry.body <;>
      · simp only [body] at allowed
        obtain ⟨record, own, -⟩ := checkCompensationOutcome_none allowed
        exact ⟨record, own⟩
    have moves : movedCompensation retry.command (loadRelated s retry.command loaded) =
        some record := (retry.moves _).trans own
    have committed : commitOperation retry.command loaded (loadRelated s retry.command loaded) s =
        .ok (result, s₁) := by
      rw [applyOperation_current made.found made.version made.source made.legal,
        made.allowed] at ran
      exact ran
    have clock : record.createdAt.value ≤ retry.command.occurredAt.value := by
      obtain ⟨mid, -, stepped⟩ := made.related.compensations
      unfold CompensationMoved at stepped
      simp only [retry.target.2, moves] at stepped
      exact stepped.1
    exact ⟨loaded, record,
      ⟨made.found, made.version, made.source, made.allowed, made.acceptable, own, clock⟩, made,
      operation, commitOperation_stepped retry.target.2 moves committed⟩
  · rw [applied] at refused
    cases refused
  · rw [applied] at refused
    cases refused

theorem Returns.applied (returns : Returns retry loaded record s) :
    ∃ result s₁, applyOperation retry.command s = .ok (result, s₁) ∧ result.outcome = .applied :=
  applyOperation_applies returns.found returns.version returns.source returns.allowed
    returns.acceptable returns.related

/-- Between the two commands the second finds the operation and its record in place. -/
theorem Returned.allowed {s₁ : Store} (returned : Returned retry loaded record s s₁ result) :
    ProgressAllowed (movedOperation retry.command loaded).operationId
      (movedOperation retry.command loaded).version record.compensationId
      (nextVersion record.version) (movedOperation retry.command loaded)
      (steppedCompensation record .executing retry.command.occurredAt) s₁ := by
  obtain ⟨returns, made, -, -⟩ := returned
  have moves := (retry.moves _).trans returns.own
  have replaced : s₁.compensations = s.compensations.replace
      (steppedCompensation record .executing retry.command.occurredAt) := by
    obtain ⟨mid, started, stepped⟩ := made.related.compensations
    have silent : retry.command.body.startedCompensation? = none := by
      obtain ⟨_, body⟩ | ⟨_, body⟩ := retry.body <;> rw [body] <;> rfl
    rw [silent] at started
    unfold CompensationMoved at stepped
    simp only [retry.target.2, moves] at stepped
    rw [stepped.2.2, started.of_none]
  exact
    { found := by
        rw [operation?_replace_stepped made.found made.operations, if_pos]
        · rfl
        · exact made.operationId.symm
      version := rfl
      state := retry.target.1
      compensationFound :=
        (compensation?_replace_stepped returns.stored replaced _).trans (if_pos rfl)
      parent := (made.movedCompensation_checked retry.target.2 moves).2.1.parent
      compensationVersion := rfl }

theorem Returned.attempts {s₁ : Store} (returned : Returned retry loaded record s s₁ result)
    (compensationId : OpaqueId) :
    s₁.listCompensationAttempts compensationId = s.listCompensationAttempts compensationId := by
  have completed := returned.made.related.compensationAttempts
  rw [retry.completes] at completed
  rw [Store.listCompensationAttempts, Store.compensationAttemptsOf,
    show s₁.compensationAttempts = s.compensationAttempts from completed]
  rfl

/-- The first command raised the version, so the journal is not the one it was. -/
theorem Returned.changed {s₁ : Store} (returned : Returned retry loaded record s s₁ result) :
    s₁ ≠ s := by
  rintro rfl
  have found := returned.allowed.found
  have key : (movedOperation retry.command loaded).operationId = retry.command.operationId :=
    returned.made.operationId
  rw [key, returned.made.found, Option.some.injEq] at found
  have version := congrArg Operation.version found
  simp [movedOperation, steppedOperation, nextVersion] at version

end Returned

/-! ## The second command -/

section Second

variable {operation : Operation} {attempts : List CompensationAttempt}

/-- On a COMPENSATING operation and its EXECUTING record a claim is judged by the attempts. -/
theorem claimPreconditions_iff {command : ClaimCompensationRetryAttempt}
    (state : operation.state = .compensating)
    (parent : record.originalOperationId = operation.operationId)
    (executing : record.state = .executing) :
    evaluateClaimCompensationRetryAttemptPreconditions command operation record attempts = none ↔
      ∃ latest, attempts.getLast? = some latest ∧ latest.state = .completed ∧
        command.attempt.compensationId = record.compensationId ∧
        command.attempt.state = .started ∧
        command.attempt.attemptNumber = attempts.length + 1 ∧
        idempotencyKeyMismatch (attempts.map (·.providerIdempotencyKey))
          command.attempt.providerIdempotencyKey = false := by
  unfold evaluateClaimCompensationRetryAttemptPreconditions
  rw [if_neg (not_not_intro state), if_neg (not_not_intro parent),
    if_neg (not_not_intro executing), if_neg (by decide)]
  cases last : attempts.getLast? with
  | none => simp
  | some latest => simp only [guard_eq_none, Option.some.injEq, exists_eq_left', not_not,
      Bool.not_eq_true, and_true]

/-- A verification request without a completion asks for an attempt only. -/
theorem startPreconditions_iff {command : StartCompensationVerification}
    (state : operation.state = .compensating)
    (parent : record.originalOperationId = operation.operationId)
    (executing : record.state = .executing)
    (open_ : command.completedCompensationAttempt = none)
    (request : checkVerificationRequest command.verificationRequest operation
      command.expectedOperationVersion .compensation = none) :
    evaluateStartCompensationVerificationPreconditions command operation record
        attempts.getLast? = none ↔ attempts ≠ [] := by
  unfold evaluateStartCompensationVerificationPreconditions
  rw [if_neg (not_not_intro state), if_neg (not_not_intro parent),
    if_neg (not_not_intro executing), if_neg (by decide), if_neg (by decide), request, open_]
  cases last : attempts.getLast? with
  | none => simp [List.getLast?_eq_none_iff.mp last]
  | some latest =>
    have filled : attempts ≠ [] := by
      rintro rfl
      cases last
    simp [filled]

/-- The claim is refused and leaves no trace if it does not fit the attempts, and is not refused
if it does. -/
theorem claim_settles (command : ClaimCompensationRetryAttempt)
    (allowed : ProgressAllowed command.operationId command.expectedOperationVersion
      command.compensationId command.expectedCompensationVersion operation record s)
    {fits : Prop} (judged : evaluateClaimCompensationRetryAttemptPreconditions command operation
      record (s.listCompensationAttempts record.compensationId) = none ↔ fits) :
    (¬fits → ∃ refusal, applyClaimCompensationRetryAttempt command s = .ok (refusal, s) ∧
        refusal.outcome = .rejected) ∧
      (fits → ∀ answer s', applyClaimCompensationRetryAttempt command s = .ok (answer, s') →
        answer.outcome = .applied) := by
  have version := allowed.compensationVersion
  simp only [applyClaimCompensationRetryAttempt]
  rw [withCompensation_allowed allowed, if_neg (by omega), if_neg (not_not_intro version)]
  constructor
  · intro unfit
    obtain ⟨reason, refused⟩ := Option.ne_none_iff_exists'.mp fun passed => unfit (judged.mp passed)
    exact ⟨_, by rw [refused], rfl⟩
  · intro passes answer s' ran
    rw [judged.mpr passes] at ran
    exact (commitClaim_ok ran).2.1

theorem start_settles (command : StartCompensationVerification)
    (allowed : ProgressAllowed command.operationId command.expectedOperationVersion
      command.compensationId command.expectedCompensationVersion operation record s)
    {fits : Prop} (judged : evaluateStartCompensationVerificationPreconditions command operation
      record (s.listCompensationAttempts record.compensationId).getLast? = none ↔ fits) :
    (¬fits → ∃ refusal, applyStartCompensationVerification command s = .ok (refusal, s) ∧
        refusal.outcome = .rejected) ∧
      (fits → ∀ answer s', applyStartCompensationVerification command s = .ok (answer, s') →
        answer.outcome = .applied) := by
  have version := allowed.compensationVersion
  simp only [applyStartCompensationVerification]
  rw [withCompensation_allowed allowed, if_neg (by omega), if_neg (not_not_intro version)]
  constructor
  · intro unfit
    obtain ⟨reason, refused⟩ := Option.ne_none_iff_exists'.mp fun passed => unfit (judged.mp passed)
    exact ⟨_, by rw [refused], rfl⟩
  · intro passes answer s' ran
    rw [judged.mpr passes] at ran
    obtain ⟨-, -, -, applied, -⟩ := commitStartVerification_ok ran
    exact applied

end Second

namespace PairedStep

/-- The second command, for the rows the first one answered with. -/
def second (step : PairedStep) (operation : Operation) (compensation : Compensation) :
    Uow TransitionResult :=
  match step with
  | .claim _ actor correlationId reasonCode next attemptAuditEventId claimedAt =>
    applyClaimCompensationRetryAttempt (retryClaim actor correlationId reasonCode next
      attemptAuditEventId claimedAt operation compensation)
  | .verify _ h retryIds latest requestedAt startedAt =>
    applyStartCompensationVerification (resumeVerificationCommand h retryIds latest requestedAt
      startedAt operation compensation)

theorem body_eq (step : PairedStep) :
    step.body = applyOperation step.retry.command >>= fun retried =>
      match retried.outcome, retried.operation, retried.compensation with
      | .applied, some operation, some compensation => step.second operation compensation
      | .applied, _, _ => throw .assertionError
      | _, _, _ => pure retried := by
  cases step <;> rfl

variable {step : PairedStep} {s₁ : Store}

/-- The second command is judged by the attempts: refused and without a trace if it does not fit
them, never refused if it does. -/
theorem second_settles (returned : Returned step.retry loaded record s s₁ result) :
    (¬step.Follows record.compensationId (s.listCompensationAttempts record.compensationId) →
      ∃ refusal, step.second (movedOperation step.retry.command loaded)
          (steppedCompensation record .executing step.retry.command.occurredAt) s₁ =
        .ok (refusal, s₁) ∧ refusal.outcome = .rejected) ∧
    (step.Follows record.compensationId (s.listCompensationAttempts record.compensationId) →
      ∀ answer s', step.second (movedOperation step.retry.command loaded)
          (steppedCompensation record .executing step.retry.command.occurredAt) s₁ =
        .ok (answer, s') → answer.outcome = .applied) := by
  have allowed := returned.allowed
  rw [← returned.attempts record.compensationId]
  cases step with
  | claim retry actor correlationId reasonCode next attemptAuditEventId claimedAt =>
    let moved := movedOperation retry.command loaded
    let stepped := steppedCompensation record .executing retry.command.occurredAt
    have settles := claim_settles (retryClaim actor correlationId reasonCode next
      attemptAuditEventId claimedAt moved stepped) allowed
      (claimPreconditions_iff allowed.state allowed.parent (by rfl))
    exact settles
  | verify retry h retryIds latest requestedAt startedAt =>
    let moved := movedOperation retry.command loaded
    let stepped := steppedCompensation record .executing retry.command.occurredAt
    let command := resumeVerificationCommand h retryIds latest requestedAt startedAt moved stepped
    have request : checkVerificationRequest command.verificationRequest moved moved.version
        .compensation = none := by
      simp [checkVerificationRequest, command, resumeVerificationCommand,
        buildCompensationVerificationRequest]
    have settles := start_settles command allowed
      (startPreconditions_iff allowed.state allowed.parent (by rfl) rfl request)
    exact settles

/-! ## Half a pair -/

/-- A step of two commands leaves half of them behind exactly when the first is applied and the
second does not fit the attempts. -/
theorem atomic_iff (step : PairedStep) (s : Store) : step.Atomic s ↔ ¬step.Splits s := by
  constructor
  · rintro atomic ⟨loaded, record, returns, unfit⟩
    obtain ⟨first, s₁, ran, applied⟩ := returns.applied
    obtain ⟨loaded', record', returned⟩ := returned_of_applied ran applied
    obtain rfl : loaded' = loaded :=
      Option.some.inj (returned.returns.found.symm.trans returns.found)
    obtain rfl : record' = record := Option.some.inj (returned.returns.own.symm.trans returns.own)
    obtain ⟨refusal, refused, rejected⟩ := (second_settles returned).1 unfit
    have committed : step.body s = .ok (refusal, s₁) := by
      rw [body_eq]
      refine bind_ok.mpr ⟨first, s₁, ran, ?_⟩
      simp only [applied, returned.operation, returned.compensation]
      exact refused
    refine returned.changed (atomic _ s₁ (execute_ok.mpr committed) fun answer same => ?_)
    cases same
    exact rejected
  · intro whole ended s' ran rejects
    cases ended with
    | error raised => exact (execute_error.mp ran).1
    | ok answer =>
      have rejected := rejects answer rfl
      have committed := execute_ok.mp ran
      rw [body_eq] at committed
      obtain ⟨first, s₁, ran₁, rest⟩ := bind_ok.mp committed
      cases outcome : first.outcome with
      | applied =>
        obtain ⟨loaded, record, returned⟩ := returned_of_applied ran₁ outcome
        simp only [outcome, returned.operation, returned.compensation] at rest
        by_cases fits : step.Follows record.compensationId
            (s.listCompensationAttempts record.compensationId)
        · have applied := (second_settles returned).2 fits answer s' rest
          rw [rejected] at applied
          cases applied
        · exact absurd ⟨loaded, record, returned.returns, fits⟩ whole
      | alreadyApplied | rejected =>
        simp only [outcome] at rest
        obtain ⟨-, rfl⟩ := pure_ok.mp rest
        have unchanged := (applyOperation_cases ran₁).resolve_left (by simp [outcome])
        obtain ⟨_, same, -⟩ | ⟨_, same, -⟩ := unchanged
        · exact same
        · exact same

end PairedStep

/-- The handler that claimed the first attempt crashed in the provider call, and recovery gave
the compensation up as UNKNOWN: the attempt is still STARTED. -/
def leftoverJournal : Store :=
  run idOf .empty (compensatingActions ++
    [.transition (sampleClaim 5 "first" "compensation-attempt"),
     .transition (sampleCommand 5 8 "audit-leftover"
       (.compensationOutcomeUnknown none (idOf "audit-outcome") (idOf "outbox-outcome") none))])

/-- The next recovery, of an effect without verification whose retry is safe by nature. -/
def sampleRetry : PairedStep :=
  .claim
    ⟨{ operationId := idOf "op"
       expectedVersion := 6
       occurredAt := ⟨9⟩
       actor := some compensationActor
       correlationId := none
       reasonCode := "natural_idempotency_tested_declaration"
       transitionAuditEventId := idOf "audit-retried"
       body := .compensationUnknownRetry (idOf "outbox-retried") }, .inl rfl⟩
    compensationActor none "compensation_retry_claimed"
    { sampleCompensationAttempt "first" "second-attempt" with attemptNumber := 2 }
    (idOf "audit-second-attempt") ⟨9⟩

/-- The claim is refused because the attempt is STARTED, and the operation is COMPENSATING. -/
theorem leftover_retry_half_applied :
    Reachable idOf leftoverJournal ∧ ¬sampleRetry.Atomic leftoverJournal := by
  refine ⟨⟨_, rfl⟩, fun atomic => ?_⟩
  have refused : (execute sampleRetry.body leftoverJournal).2.toOption.map (·.outcome) =
      some .rejected := by decide +kernel
  have moved : ((execute sampleRetry.body leftoverJournal).1.operation? (idOf "op")).map (·.state) =
      some .compensating := by decide +kernel
  have before : (leftoverJournal.operation? (idOf "op")).map (·.state) =
      some .compensationUnknown := by
    decide +kernel
  cases ran : execute sampleRetry.body leftoverJournal with
  | mk after ended =>
    simp only [ran] at refused moved
    have same := atomic ended after ran fun result answered => by
      rw [answered] at refused
      exact Option.some.inj refused
    rw [same, before] at moved
    exact absurd moved (by decide)

end Stateback.Compensation
