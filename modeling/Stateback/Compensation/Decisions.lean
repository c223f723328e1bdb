import Stateback.Compensation.Recover
/-!
# The commands services decide on

Runtime outcome, verification cycle, compensate step and compensation verify step: from what the
journal holds each builds one command.  Here the command is a function of the store and of what
the service brings; it is the one the service submits.
-/

namespace Stateback.Compensation

open Domain Persistence Transitions Providers Stateback.Runtime Stateback.Recovery Process

/-- What a service submits first when it runs alone, and the journal it submits it to. -/
def submission? {α : Type} (answers : Nat → (query : Query) → Answer query) (service : Service α)
    (n : Nat) (s : Store) : Option (TransitionCommand × Store) :=
  Prog.first
    (fun
      | .submit command => some command
      | .work => none) answers service n s

section Submission

variable {α β : Type} {answers : Nat → (query : Query) → Answer query} {n : Nat} {s : Store}

@[simp] theorem submission?_load (read : Store → β) (rest : β → Service α) :
    submission? answers (Service.load read >>= rest) n s =
      submission? answers (rest (read s)) n s := rfl

@[simp] theorem submission?_now (rest : UtcTimestamp → Service α) :
    submission? answers (Service.now >>= rest) n s =
      submission? answers (rest (answers n .now)) (n + 1) s := rfl

@[simp] theorem submission?_trySubmit (command : TransitionCommand)
    (rest : Except Raised TransitionResult → Service α) :
    submission? answers (Service.trySubmit command >>= rest) n s = some (command, s) := rfl

@[simp] theorem submission?_pure (a : α) :
    submission? answers (pure a : Service α) n s = none := rfl

@[simp] theorem submission?_raise (e : Raised) :
    submission? answers (Prog.raise e : Service α) n s = none := rfl

/-- The decision an operation names. -/
def policy? (s : Store) (op : Operation) : Option PolicyDecision :=
  op.currentPolicyDecisionId.bind s.policyDecision?

theorem submission?_loadPolicy {op : Operation} {policy : PolicyDecision}
    (named : policy? s op = some policy) (rest : Option PolicyDecision → Service α) :
    submission? answers (loadPolicy op >>= rest) n s =
      submission? answers (rest (some policy)) n s := by
  obtain ⟨policyDecisionId, named, found⟩ := Option.bind_eq_some_iff.mp named
  simp only [loadPolicy, named, submission?_load, found]

end Submission

/-! ## Runtime outcome -/

/-- `apply_execution_kind` on a completed attempt. -/
def decideExecution (s : Store) (op : Operation) (obligations : PolicyObligations)
    (completed : ExecutionAttempt) (descriptor : EffectDescriptor) (actor : Option PrincipalRef)
    (correlationId : Option String) (ids : RecoverIds) (now occurredAt : UtcTimestamp) :
    Except Raised OperationCommand :=
  match completed.outcome with
  | none => .error (.statebackError "illegal_combination" "completed attempt is missing outcome")
  | some outcome =>
    let firstStartedAt := ((s.listAttempts op.operationId).head?.getD completed).startedAt
    match evaluateRetrySafety descriptor (some outcome) none now (some firstStartedAt) none with
    | .error e => .error e
    | .ok retry =>
      executionCommand
        (decideExecutionKind outcome descriptor obligations completed.attemptNumber retry.verdict)
        op completed descriptor actor correlationId occurredAt ids

/-- The command is built on what the registry decides, from the body of its kind. -/
theorem decideExecution_ok {s : Store} {op : Operation} {obligations : PolicyObligations}
    {completed : ExecutionAttempt} {descriptor : EffectDescriptor} {actor : Option PrincipalRef}
    {correlationId : Option String} {ids : RecoverIds} {now occurredAt : UtcTimestamp}
    {command : OperationCommand}
    (built : decideExecution s op obligations completed descriptor actor correlationId ids now
      occurredAt = .ok command) :
    ∃ outcome verdict,
      executionBody (decideExecutionKind outcome descriptor obligations completed.attemptNumber
          verdict).kind op completed descriptor occurredAt ids = .ok command.body ∧
        command.operationId = op.operationId ∧ command.expectedVersion = op.version := by
  unfold decideExecution at built
  split at built
  · cases built
  next outcome _ =>
  dsimp only at built
  split at built
  · cases built
  next retry _ =>
  unfold executionCommand at built
  split at built
  · cases built
  next body made =>
  cases built
  exact ⟨outcome, retry.verdict, made, rfl, rfl⟩

theorem executionTransition_decides {s : Store} {op : Operation} {policyDecisionId : OpaqueId}
    {policy : PolicyDecision} (found : s.policyDecision? policyDecisionId = some policy)
    (completed : ExecutionAttempt) (descriptor : EffectDescriptor) (actor : Option PrincipalRef)
    (correlationId : Option String) (ids : RecoverIds) (now occurredAt : UtcTimestamp) :
    executionTransition op policyDecisionId completed descriptor actor correlationId ids now
        occurredAt s =
      match decideExecution s op policy.obligations completed descriptor actor correlationId ids
        now occurredAt with
      | .error e => .error e
      | .ok command => (some <$> applyOperation command : Uow (Option TransitionResult)) s := by
  unfold executionTransition decideExecution
  rw [found]
  cases completed.outcome with
  | none => rfl
  | some outcome =>
    dsimp only
    cases evaluateRetrySafety descriptor (some outcome) none now
      (some ((s.listAttempts op.operationId).head?.getD completed).startedAt) none <;> rfl

/-! ## Verification cycle -/

/-- The decision `_apply_verification_kind` reconciles a stored result to. -/
def reconciled (s : Store) (op : Operation) (obligations : PolicyObligations)
    (result : VerificationResult) (descriptor : EffectDescriptor) : ReconciliationDecision :=
  reconcile ⟨op, s.listAttempts op.operationId, result, descriptor, obligations⟩
    (completedOriginalVerificationCount (s.listVerifications op.operationId))

def decideVerification (s : Store) (op : Operation) (obligations : PolicyObligations)
    (result : VerificationResult) (descriptor : EffectDescriptor) (actor : PrincipalRef)
    (correlationId : Option String) (ids : RecoveryIds) (occurredAt : UtcTimestamp) :
    OperationCommand :=
  let decision := reconciled s op obligations result descriptor
  commandOn op actor correlationId occurredAt decision.reasonCode
    ids.completeTransitionAuditEventId
    (verificationBody (verifyingActions decision.action) ids result descriptor)

theorem applyVerificationKind_submits {answers : Nat → (query : Query) → Answer query} {n : Nat}
    {s : Store} {registry : CapabilityRegistry} {op : Operation} {policy : PolicyDecision}
    {descriptor : EffectDescriptor} (named : policy? s op = some policy)
    (registered : registry.descriptor op.intent.effect = .ok descriptor)
    (command : RecoveryCommand) (actor : PrincipalRef) (result : VerificationResult) :
    submission? answers (applyVerificationKind registry command op actor result) n s =
      some (.operation (decideVerification s op policy.obligations result descriptor actor
        command.correlationId command.ids (answers n .now)), s) := by
  simp only [applyVerificationKind, submission?_load, submission?_loadPolicy named, registered,
    Service.lift_ok_bind, submission?_now, applyTransition]
  rfl

/-! ## Compensate step -/

/-- `build_compensate_outcome_command` on the evidence of a completed attempt. -/
def decideCompensate (op : Operation) (obligations : PolicyObligations) (record : Compensation)
    (completed : CompensationAttempt) (descriptor : EffectDescriptor) (h : Handling)
    (occurredAt requestedAt : UtcTimestamp) : Except Raised TransitionCommand :=
  match completed.outcome with
  | none => .error .assertionError
  | some outcome =>
    buildCompensateOutcomeCommand h (decideCompensateKind outcome descriptor obligations) op record
      completed occurredAt requestedAt

theorem replayCompletedMapper_submits {answers : Nat → (query : Query) → Answer query} {n : Nat}
    {s : Store} {registry : CapabilityRegistry} {op : Operation} {policy : PolicyDecision}
    {descriptor : EffectDescriptor} (named : policy? s op = some policy)
    (registered : registry.descriptor op.intent.effect = .ok descriptor) (h : Handling)
    (turns : Nat) (record : Compensation) (latest : CompensationAttempt) :
    submission? answers (replayCompletedMapper registry h turns op record latest) n s =
      ((decideCompensate op policy.obligations record latest descriptor h (answers n .now)
        (answers (n + 1) .now)).toOption.map (·, s)) := by
  simp only [replayCompletedMapper, registered, Service.lift_ok_bind, submission?_loadPolicy named,
    decideCompensate]
  cases latest.outcome with
  | none => rfl
  | some outcome =>
    simp only [Prog.require_some_bind, submission?_now]
    cases buildCompensateOutcomeCommand h (decideCompensateKind outcome descriptor
      policy.obligations) op record latest (answers n .now) (answers (n + 1) .now) <;> rfl

theorem recordCompensate_submits {answers : Nat → (query : Query) → Answer query} {n : Nat}
    {s : Store} {registry : CapabilityRegistry} {op : Operation} {policy : PolicyDecision}
    (named : policy? s op = some policy) (h : Handling) (descriptor : EffectDescriptor)
    (record : Compensation) (attempt : CompensationAttempt) (evidence : CompensationEvidence) :
    submission? answers (recordCompensate registry h descriptor op record attempt evidence) n s =
      ((decideCompensate op policy.obligations record
        (completeAttemptFromEvidence attempt evidence (answers n .now)) descriptor h
        (answers (n + 1) .now) (answers (n + 2) .now)).toOption.map (·, s)) := by
  simp only [recordCompensate, submission?_now, submission?_loadPolicy named, decideCompensate,
    completeAttemptFromEvidence]
  cases buildCompensateOutcomeCommand h (decideCompensateKind evidence.outcome descriptor
    policy.obligations) op record _ (answers (n + 1) .now) (answers (n + 2) .now) <;> rfl

/-! ## Compensation verify step -/

/-- The decision `_verify_step` reconciles an answer to. -/
def reconciledCompensation (s : Store) (op : Operation) (obligations : PolicyObligations)
    (record : Compensation) (result : VerificationResult) (descriptor : EffectDescriptor) :
    ReconciliationDecision :=
  reconcileCompensation result
    (s.listCompensationAttempts record.compensationId).getLast? descriptor obligations
    (countedVerifications (s.listVerifications op.operationId) result)

/-- The attempt a settled verification completes. -/
def verifiedAttempt? (kind : CommandKind) (latest : Option CompensationAttempt)
    (result : VerificationResult) (completedAt : UtcTimestamp) : Option CompensationAttempt :=
  match verifiedOutcome? kind, latest with
  | some outcome, some latest =>
    match latest.state with
    | .completed => some latest
    | .started => some (completeAttemptFromVerification latest result outcome completedAt)
  | _, _ => none

/-- The attempt a verified retry starts; its ids may not be there. -/
def retriedAttempt? (s : Store) (h : Handling) (kind : CommandKind) (record : Compensation)
    (descriptor : EffectDescriptor) (startedAt : UtcTimestamp) :
    Except Raised (Option CompensationAttempt) :=
  match kind with
  | .progress .retryCompensationAfterVerification =>
    let number := (s.listCompensationAttempts record.compensationId).length + 1
    match h.ids.retryIdsFor record.compensationId number with
    | .error e => .error e
    | .ok retryIds =>
      .ok (some (buildStartedAttempt record.compensationId retryIds.attemptId number descriptor
        startedAt))
  | _ => .ok none

/-- `_verify_step` on an answer. -/
def decideVerified (s : Store) (op : Operation) (obligations : PolicyObligations)
    (record : Compensation) (result : VerificationResult) (descriptor : EffectDescriptor)
    (h : Handling) (completedAt startedAt occurredAt : UtcTimestamp) :
    Except Raised TransitionCommand :=
  let latest := (s.listCompensationAttempts record.compensationId).getLast?
  match compensationDecisionToKind op.state record.state
    (reconciledCompensation s op obligations record result descriptor) with
  | .error e => .error e
  | .ok mapped =>
    match retriedAttempt? s h mapped.kind record descriptor startedAt with
    | .error e => .error e
    | .ok next =>
      verifyOutcomeCommand h mapped op record result
        (verifiedAttempt? mapped.kind latest result completedAt) next descriptor occurredAt
        ((latest.map (·.attemptNumber)).getD 1)

section Verified

variable {α : Type} {answers : Nat → (query : Query) → Answer query} {s s' : Store}

private theorem submission?_completedForCommand
    (answers : Nat → (query : Query) → Answer query) (s : Store) (kind : CommandKind)
    (latest : Option CompensationAttempt) (result : VerificationResult) (n : Nat)
    (rest : Option CompensationAttempt → Service α) :
    ∃ completedAt n', submission? answers (completedForCommand kind latest result >>= rest) n s =
      submission? answers (rest (verifiedAttempt? kind latest result completedAt)) n' s := by
  unfold completedForCommand verifiedAttempt?
  cases verifiedOutcome? kind with
  | none => exact ⟨⟨0⟩, n, rfl⟩
  | some outcome =>
    cases latest with
    | none => exact ⟨⟨0⟩, n, rfl⟩
    | some latest =>
      cases state : latest.state with
      | completed =>
        simp only [state]
        exact ⟨⟨0⟩, n, rfl⟩
      | started =>
        simp only [state]
        exact ⟨answers n .now, n + 1, rfl⟩

private theorem submission?_nextAttemptForRetry {h : Handling} {descriptor : EffectDescriptor}
    {kind : CommandKind} {record : Compensation} {n : Nat}
    {rest : Option CompensationAttempt → Service α} {submitted : TransitionCommand × Store}
    (submits : submission? answers (nextAttemptForRetry h descriptor kind record >>= rest) n s =
      some submitted) :
    ∃ startedAt next n', retriedAttempt? s h kind record descriptor startedAt = .ok next ∧
      submission? answers (rest next) n' s = some submitted := by
  unfold nextAttemptForRetry at submits
  split at submits
  next =>
    unfold retriedAttempt?
    simp only [listCompensationAttempts, Prog.bind_assoc, submission?_load] at submits
    cases made : h.ids.retryIdsFor record.compensationId
        ((s.listCompensationAttempts record.compensationId).length + 1) with
    | error e =>
      rw [made] at submits
      cases submits
    | ok retryIds =>
      rw [made] at submits
      refine ⟨answers n .now, _, n + 1, ?_, submits⟩
      simp only [made]
  next other =>
    refine ⟨⟨0⟩, none, n, ?_, submits⟩
    unfold retriedAttempt?
    split
    next => exact absurd rfl other
    next => rfl

/-- What the verify step submits is what it decides on, at some reading of its clock. -/
theorem applyVerified_submits {n : Nat} {op : Operation} {policy : PolicyDecision}
    {command : TransitionCommand} (named : policy? s op = some policy) {h : Handling}
    {descriptor : EffectDescriptor} {record : Compensation}
    {evidence : Option VerificationEvidence} {result : VerificationResult}
    (submits : submission? answers (applyVerified h descriptor op record evidence result) n s =
      some (command, s')) :
    s' = s ∧ ∃ completedAt startedAt occurredAt,
      decideVerified s op policy.obligations record result descriptor h completedAt startedAt
        occurredAt = .ok command := by
  simp only [applyVerified, listCompensationAttempts, listVerifications, submission?_load,
    submission?_loadPolicy named] at submits
  rw [← reconciledCompensation] at submits
  unfold decideVerified
  cases mapping : compensationDecisionToKind op.state record.state
      (reconciledCompensation s op policy.obligations record result descriptor) with
  | error e =>
    rw [mapping] at submits
    cases submits
  | ok mapped =>
    rw [mapping, Service.lift_ok_bind] at submits
    obtain ⟨completedAt, n₁, completes⟩ := submission?_completedForCommand answers s mapped.kind
      (s.listCompensationAttempts record.compensationId).getLast? result n _
    rw [completes] at submits
    split at submits
    · cases submits
    obtain ⟨startedAt, next, n₂, retried, submits⟩ := submission?_nextAttemptForRetry submits
    simp only [submission?_now] at submits
    cases built : verifyOutcomeCommand h mapped op record result (verifiedAttempt? mapped.kind
        (s.listCompensationAttempts record.compensationId).getLast? result completedAt) next
        descriptor (answers n₂ .now)
        (((s.listCompensationAttempts record.compensationId).getLast?.map
          (·.attemptNumber)).getD 1) with
    | error e =>
      rw [built] at submits
      cases submits
    | ok built' =>
      rw [built] at submits
      cases submits
      refine ⟨rfl, completedAt, startedAt, answers n₂ .now, ?_⟩
      simp only [retried, built]

end Verified

end Stateback.Compensation
