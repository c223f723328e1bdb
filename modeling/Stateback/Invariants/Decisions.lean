import Stateback.Compensation.Decisions
import Stateback.Invariants.Compensations
import Stateback.Invariants.Evidence
import Stateback.Transitions.Passing
/-!
# Automatic decisions

What the services decide on a reachable journal passes the checks of the transition engine, but
for one step: a compensation's verification is looked up by the time it was requested at, and the
one found may not be the one the record waits for.
-/

namespace Stateback.Invariants

open Domain Persistence Transitions KeyedTable KeyedTable.Table Transaction Providers
open Stateback.Runtime Stateback.Recovery Stateback.Compensation

variable {s s' : Store} {action : JournalAction}

/-! ## Pointers and results -/

/-- The attempt the operation names as its latest is stored and its own. -/
def ExecutesItself (s : Store) (operation : Operation) : Prop :=
  ∃ attemptId attempt, operation.latestAttemptId = some attemptId ∧
    s.attempt? attemptId = some attempt ∧ attempt.operationId = operation.operationId

/-- Every operation in EXECUTING executes an attempt of its own. -/
def ExecutingJournal (s : Store) : Prop :=
  ∀ id operation, s.operation? id = some operation → operation.state = .executing →
    ExecutesItself s operation

theorem AttemptKept.key {a b : ExecutionAttempt} (kept : AttemptKept a b) :
    b.attemptId = a.attemptId := kept.1

theorem ExecutesItself.later {operation : Operation} (executes : ExecutesItself s operation)
    (taken : JournalStep action s s') : ExecutesItself s' operation := by
  obtain ⟨attemptId, attempt, named, found, owner⟩ := executes
  obtain ⟨later, at_, -, same, -⟩ :=
    (attempts_evolve (attemptsStep_of taken)).find? AttemptKept.key found
  exact ⟨attemptId, later, named, at_, same.trans owner⟩

/-- Only a claim leads to EXECUTING. -/
theorem claimedAttempt_of_executing {body : CommandBody}
    (target : body.kind.edge.2 = .executing) : ∃ attempt, body.claimedAttempt? = some attempt := by
  cases body with
  | claimExecution attempt => exact ⟨attempt, rfl⟩
  | _ => cases target

theorem executesItself_of_moved {command : OperationCommand} {loaded : Operation}
    (made : OperationMoved command loaded s s') (target : command.kind.edge.2 = .executing) :
    ExecutesItself s' (movedOperation command loaded) := by
  obtain ⟨attempt, carried⟩ := claimedAttempt_of_executing target
  obtain ⟨owner, -⟩ := made.claimedAttempt_checked carried
  obtain ⟨mid, claimed, completed⟩ := made.related.attempts
  have silent : attemptToComplete command (loadRelated s command loaded) = none := by
    have plain : command.body.completedAttempt? = none := by
      cases body : command.body with
      | claimExecution => rfl
      | _ => rw [body] at carried; cases carried
    simp [attemptToComplete, plain]
  rw [silent] at completed
  rw [carried] at claimed
  have there : s'.attempt? attempt.attemptId = some attempt := by
    rw [Store.attempt?, show s'.attempts = mid from completed]
    exact (find?_insert claimed _).trans (if_pos rfl)
  refine ⟨attempt.attemptId, attempt, ?_, there, owner⟩
  simp [movedOperation, steppedOperation, pointersForKind, carried]

theorem ExecutingJournal.step (before : ExecutingJournal s) (taken : JournalStep action s s') :
    ExecutingJournal s' := by
  intro id operation found executing
  cases taken.operation_origin found with
  | kept same => exact (before id operation same executing).later taken
  | created command _ made row =>
    rw [row, made.state] at executing
    cases executing
  | moved command loaded _ made row =>
    subst row
    exact executesItself_of_moved made executing
  | escalated _ _ _ row =>
    rw [row] at executing
    cases executing

theorem executing_of_reachable {uuid5 : String → OpaqueId} (reachable : Reachable uuid5 s) :
    ExecutingJournal s :=
  reachable.invariant (fun _ _ found => by cases found)
    fun _ _ _ before taken => before.step taken

/-- A stored result is the answer to the request it is stored with. -/
def AnswersMatch (t : Table verificationKey) : Prop :=
  ∀ row ∈ t.rows, ∀ result, row.2 = some result → result.verificationId = row.1.verificationId

private theorem AnswersMatch.inserted {request? : Option VerificationRequest}
    {t t' : Table verificationKey} (before : AnswersMatch t)
    (inserted : Inserted (request?.map fun request => (request, none)) t t') : AnswersMatch t' := by
  intro row member result answered
  obtain old | new := inserted.mem.mp member
  · exact before row old result answered
  · obtain ⟨request, -, rfl⟩ := Option.map_eq_some_iff.mp new
    cases answered

private theorem AnswersMatch.stored {result? : Option VerificationResult}
    {t t' : Table verificationKey} (before : AnswersMatch t) (stored : ResultStored result? t t') :
    AnswersMatch t' := by
  cases result? with
  | none =>
    obtain rfl : t' = t := stored
    exact before
  | some result =>
    obtain ⟨request, found, rfl⟩ := stored
    intro row member answer answered
    obtain ⟨old, -⟩ | ⟨rfl, -⟩ := mem_replace.mp member
    · exact before row old answer answered
    · cases answered
      exact (find?_some found).2.symm

theorem answersMatch_step (before : AnswersMatch s.verifications)
    (taken : JournalStep action s s') : AnswersMatch s'.verifications := by
  have unchanged : s'.verifications = s.verifications → AnswersMatch s'.verifications :=
    fun same => same ▸ before
  cases taken with
  | unchanged same => exact unchanged (by rw [same])
  | created _ _ made => exact unchanged (by rw [made.frame])
  | moved command loaded _ made =>
    obtain ⟨requested, completed, inserted, stored, compensated⟩ := made.related.verifications
    exact ((before.inserted inserted).stored stored).stored compensated
  | progressed progress _ _ _ made =>
    obtain ⟨mid, inserted, stored⟩ := made.written.verifications
    exact (before.inserted inserted).stored stored
  | escalated _ _ made => exact unchanged (by rw [made.frame])
  | republished _ _ _ _ made => exact unchanged (by rw [made.frame])
  | published _ same => exact unchanged (by rw [same])
  | evidencePersisted _ _ _ same => exact unchanged (by rw [same])
  | resultPersisted result verifications same made =>
    rw [same]
    exact before.stored made

theorem answersMatch_of_reachable {uuid5 : String → OpaqueId} (reachable : Reachable uuid5 s) :
    AnswersMatch s.verifications :=
  reachable.invariant (fun _ member => by cases member)
    fun _ _ _ before taken => answersMatch_step before taken

/-- Every operation with an effect under way names a stored decision. -/
theorem policy?_of_reachable {uuid5 : String → OpaqueId} (reachable : Reachable uuid5 s)
    {id : OpaqueId} {op : Operation} (found : s.operation? id = some op)
    (settled : op.state ∉ unauthorizedStates) : ∃ policy, policy? s op = some policy := by
  obtain ⟨decision, decided, -⟩ :=
    (authorizedJournal_of_reachable reachable).authorized id op found settled
  exact ⟨decision, by rw [policy?, decided.named]; exact decided.stored⟩

/-! ## Decisions -/

/-- A situation a service decides in, with what the service brings to it. -/
inductive Decision where
  /-- `apply_execution_kind` on the completed attempt of an EXECUTING operation. -/
  | execution (completed : ExecutionAttempt) (descriptor : EffectDescriptor)
      (actor : Option PrincipalRef) (correlationId : Option String) (ids : RecoverIds)
      (now : UtcTimestamp)
  /-- `_apply_verification_kind` on the stored result of a VERIFYING operation. -/
  | verification (result : VerificationResult) (descriptor : EffectDescriptor)
      (actor : PrincipalRef) (correlationId : Option String) (ids : RecoveryIds)
  /-- `build_compensate_outcome_command` on the completed attempt of an EXECUTING record. -/
  | compensation (record : Compensation) (completed : CompensationAttempt)
      (descriptor : EffectDescriptor) (h : Handling) (requestedAt : UtcTimestamp)
  /-- `_verify_step` on the answer of the pending verification of a VERIFYING record. -/
  | compensationVerification (record : Compensation) (result : VerificationResult)
      (descriptor : EffectDescriptor) (h : Handling) (completedAt startedAt : UtcTimestamp)

namespace Decision

/-- The operation's own record, with its attempts. -/
def OwnRecord (s : Store) (op : Operation) (record : Compensation) : Prop :=
  op.state = .compensating ∧ op.compensationId.bind s.compensation? = some record

/-- The latest attempt is COMPLETED, or the call that just ended completes it. -/
def Completes (latest completed : CompensationAttempt) : Prop :=
  latest.state = .completed ∧ completed = latest ∨
    latest.state = .started ∧ ∃ evidence completedAt,
      completed = completeAttemptFromEvidence latest evidence completedAt

def Arises (s : Store) (op : Operation) : Decision → Prop
  | .execution completed .. =>
    op.state = .executing ∧ op.latestAttemptId.bind s.attempt? = some completed ∧
      completed.state = .completed
  | .verification result .. =>
    op.state = .verifying ∧ ∃ request,
      op.latestVerificationId.bind s.verification? = some (request, some result)
  | .compensation record completed .. =>
    OwnRecord s op record ∧ record.state = .executing ∧ ∃ latest,
      (s.listCompensationAttempts record.compensationId).getLast? = some latest ∧
        Completes latest completed
  | .compensationVerification record result .. =>
    OwnRecord s op record ∧ record.state = .verifying ∧ ∃ request,
      findPendingCompensationVerification (s.listVerifications op.operationId) =
        some (request, none) ∧ result.verificationId = request.verificationId

/-- The command the service builds, if it gets to build one. -/
def command (s : Store) (op : Operation) (occurredAt : UtcTimestamp) (decision : Decision) :
    Option TransitionCommand :=
  (policy? s op).bind fun policy =>
    match decision with
    | .execution completed descriptor actor correlationId ids now =>
      (decideExecution s op policy.obligations completed descriptor actor correlationId ids now
        occurredAt).toOption.map .operation
    | .verification result descriptor actor correlationId ids =>
      some (.operation (decideVerification s op policy.obligations result descriptor actor
        correlationId ids occurredAt))
    | .compensation record completed descriptor h requestedAt =>
      (decideCompensate op policy.obligations record completed descriptor h occurredAt
        requestedAt).toOption
    | .compensationVerification record result descriptor h completedAt startedAt =>
      (decideVerified s op policy.obligations record result descriptor h completedAt startedAt
        occurredAt).toOption

def Applied (s : Store) (command : TransitionCommand) : Prop :=
  ∃ result s', apply command s = .ok (result, s') ∧ result.outcome = .applied

/-- The service builds its command and the command is applied. -/
def Admitted (s : Store) (op : Operation) (occurredAt : UtcTimestamp) (decision : Decision) :
    Prop :=
  ∃ command, decision.command s op occurredAt = some command ∧ Applied s command

/-- The clock is not behind the rows a command of this kind replaces. -/
def InTime (op : Operation) (record : Compensation) (occurredAt : UtcTimestamp) :
    CommandKind → Prop
  | .transition kind =>
    op.createdAt.value ≤ occurredAt.value ∧
      (compensationTargetState? kind ≠ none → record.createdAt.value ≤ occurredAt.value)
  | .progress _ => record.createdAt.value ≤ occurredAt.value

/-- The request is of the operation's version and asks about the record's latest attempt. -/
structure AsksLatest (s : Store) (op : Operation) (record : Compensation)
    (request : VerificationRequest) : Prop where
  current : request.operationVersion = op.version
  about : ∃ latest, (s.listCompensationAttempts record.compensationId).getLast? = some latest ∧
    request.targetAttemptId = some latest.compensationAttemptId

/-- The key of the next attempt fits those of the record's attempts. -/
def KeyFits (s : Store) (record : Compensation) (descriptor : EffectDescriptor) : Prop :=
  idempotencyKeyMismatch
    ((s.listCompensationAttempts record.compensationId).map (·.providerIdempotencyKey))
    (providerCompensationKey descriptor record.compensationId) = false

/-- The clock is not behind, the registry can decide on a retry, and an answered request asks about
the latest attempt. -/
def Current (s : Store) (op : Operation) (occurredAt : UtcTimestamp) : Decision → Prop
  | .execution _ descriptor .. =>
    ReadableWindow descriptor ∧ op.createdAt.value ≤ occurredAt.value
  | .verification .. => op.createdAt.value ≤ occurredAt.value
  | .compensation record completed descriptor _ _ =>
    ∀ policy outcome, policy? s op = some policy → completed.outcome = some outcome →
      InTime op record occurredAt (decideCompensateKind outcome descriptor policy.obligations).kind
  | .compensationVerification record result descriptor .. =>
    ∀ policy request, policy? s op = some policy →
      findPendingCompensationVerification (s.listVerifications op.operationId) =
        some (request, none) →
      let action := (reconciledCompensation s op policy.obligations record result descriptor).action
      AsksLatest s op record request ∧
        (action = .makeReadyForSafeRetry → KeyFits s record descriptor) ∧
        InTime op record occurredAt (compensatingVerifying action)

/-! ### Fresh ids -/

/-- The ids a command writes under are in use nowhere. -/
def NewIds (s : Store) : TransitionCommand → Prop
  | .operation command => command.NewIds s
  | .startCompensationVerification command =>
    FreshAuditIds s (command.attemptAuditEventId.toList ++ [command.verificationAuditEventId]) ∧
      s.outboxEvent? command.outboxEventId = none ∧
      s.verification? command.verificationRequest.verificationId = none
  | .retryCompensationAfterVerification command =>
    FreshAuditIds s [command.verificationAuditEventId, command.attemptAuditEventId] ∧
      s.outboxEvent? command.outboxEventId = none ∧
      s.compensationAttempt? command.attempt.compensationAttemptId = none
  -- no service decides on the other commands
  | .create _ | .claimCompensation _ | .claimCompensationRetryAttempt _ => True

/-- The factory of a compensation's ids answers for every attempt. -/
def IdsGiven : Decision → Prop
  | .execution .. | .verification .. => True
  | .compensation record _ _ h _ | .compensationVerification record _ _ h .. =>
    ∀ number, ∃ ids, h.ids.retryIdsFor record.compensationId number = .ok ids

structure Fresh (s : Store) (op : Operation) (occurredAt : UtcTimestamp) (decision : Decision) :
    Prop where
  given : decision.IdsGiven
  new : ∀ command, decision.command s op occurredAt = some command → NewIds s command

end Decision

open Decision

/-! ## Runtime outcome -/

section Execution

variable {op : Operation} {completed : ExecutionAttempt}

/-- A body about the operation's own effect: it carries nothing of a compensation. -/
private structure SettlesEffect (source : OperationState) (body : CommandBody) : Prop where
  source : body.kind.edge.1 = some source
  settles : Settles body
  compensationAttempt : body.completedCompensationAttempt? = none
  compensationResult : body.compensationVerificationResult? = none
  record : compensationTargetState? body.kind = none

private theorem SettlesEffect.passes {command : OperationCommand}
    (effect : SettlesEffect op.state command.body) (on : command.operationId = op.operationId)
    (version : command.expectedVersion = op.version)
    (actor : command.kind ∈ actorRequiredKinds → command.actor ≠ none)
    (attempt : attemptToComplete command (loadRelated s command op) = none)
    (result : resultToComplete command (loadRelated s command op) = none)
    (checks : evaluateBody command op (loadRelated s command op) = none) :
    command.Passes op s where
  operationId := on
  version := version.symm
  source := effect.source
  actor := actor
  checks := checks
  settles := effect.settles
  attempt := attempt
  result := result
  compensationAttempt := by simp [compensationAttemptToComplete, effect.compensationAttempt]
  compensationResult := by simp [compensationResultToComplete, effect.compensationResult]

/-- What `_execution_command` builds needs no actor and completes the attempt alone. -/
private theorem executionBody_settles {kind : TransitionKind} {descriptor : EffectDescriptor}
    {occurredAt : UtcTimestamp} {ids : RecoverIds} {body : CommandBody}
    (built : executionBody kind op completed descriptor occurredAt ids = .ok body) :
    SettlesEffect .executing body ∧ body.kind ∉ actorRequiredKinds ∧
      body.completedAttempt? = some completed ∧ body.verificationResult? = none := by
  cases kind with
  | executionApplied | executionUnknown | executionNotAppliedRetry | executionNotAppliedFail
  | executionRequireVerification =>
    cases built
    exact ⟨⟨rfl, ⟨rfl, rfl, rfl, rfl, rfl, rfl⟩, rfl, rfl, rfl⟩,
      by simp [CommandBody.kind, actorRequiredKinds], rfl, rfl⟩
  | _ => cases built

/-- The kind decided for an outcome has a body, and its checks pass for that outcome. -/
private theorem executionBody_passes {outcome : EffectOutcome}
    (latest : op.latestAttemptId.bind s.attempt? = some completed)
    (owner : completed.operationId = op.operationId) (state : completed.state = .completed)
    (known : completed.outcome = some outcome) (obligations : PolicyObligations)
    (verdict : RetrySafetyVerdict) (descriptor : EffectDescriptor) (occurredAt : UtcTimestamp)
    (ids : RecoverIds) :
    ∃ body, executionBody
        (decideExecutionKind outcome descriptor obligations completed.attemptNumber verdict).kind op
        completed descriptor occurredAt ids = .ok body ∧
      ∀ command : OperationCommand, command.body = body → command.expectedVersion = op.version →
        evaluateBody command op (loadRelated s command op) = none := by
  have named : op.latestAttemptId ≠ none := by
    rintro missing
    rw [missing] at latest
    cases latest
  have passes : ∀ expected crash, expected = none ∨ expected = some outcome →
      checkExecutionAttemptComplete op (some completed) (some completed) expected crash = none := by
    rintro expected crash (rfl | rfl)
    · exact checkExecutionAttemptComplete_passes named owner state (by simp)
    · exact checkExecutionAttemptComplete_passes named owner state (by simp [known])
  unfold decideExecutionKind
  cases outcome with
  | unknown =>
    refine ⟨_, rfl, fun command body _ => ?_⟩
    simp only [evaluateBody, body, loadRelated, latest]
    exact passes _ _ (.inr rfl)
  | applied =>
    dsimp only
    split
    · refine ⟨_, rfl, fun command body version => ?_⟩
      simp only [evaluateBody, body, loadRelated, latest]
      exact orElse_eq_none.mpr ⟨passes _ _ (.inl rfl),
        checkVerificationRequest_passes rfl rfl version.symm⟩
    · refine ⟨_, rfl, fun command body _ => ?_⟩
      simp only [evaluateBody, body, loadRelated, latest]
      exact passes _ _ (.inr rfl)
  | notApplied =>
    dsimp only
    split
    · refine ⟨_, rfl, fun command body _ => ?_⟩
      simp only [evaluateBody, body, loadRelated, latest]
      exact orElse_eq_none.mpr ⟨passes _ _ (.inr rfl), (mapRetrySafetyReason_notApplied _).1⟩
    · refine ⟨_, rfl, fun command body _ => ?_⟩
      simp only [evaluateBody, body, loadRelated, latest]
      exact passes _ _ (.inr rfl)

theorem decideExecution_passes (executing : op.state = .executing)
    (latest : op.latestAttemptId.bind s.attempt? = some completed)
    (owner : completed.operationId = op.operationId) (state : completed.state = .completed)
    (obligations : PolicyObligations) (descriptor : EffectDescriptor) (actor : Option PrincipalRef)
    (correlationId : Option String) (ids : RecoverIds) (now occurredAt : UtcTimestamp) :
    (∀ command, decideExecution s op obligations completed descriptor actor correlationId ids now
        occurredAt = .ok command → command.Passes op s ∧ command.occurredAt = occurredAt ∧
      compensationTargetState? command.kind = none) ∧
    ((∃ command, decideExecution s op obligations completed descriptor actor correlationId ids now
        occurredAt = .ok command) ↔ ReadableWindow descriptor) := by
  obtain ⟨outcome, known⟩ := completed.outcome_isSome_of_completed state
  rw [← @evaluateRetrySafety_ok_iff descriptor (some outcome) none now
    ((s.listAttempts op.operationId).head?.getD completed).startedAt]
  unfold decideExecution executionCommand
  simp only [known]
  cases evaluateRetrySafety descriptor (some outcome) none now
      (some ((s.listAttempts op.operationId).head?.getD completed).startedAt) none with
  | error e => simp
  | ok retry =>
  obtain ⟨body, built, checks⟩ := executionBody_passes latest owner state known obligations
    retry.verdict descriptor occurredAt ids
  obtain ⟨effect, free, carried, silent⟩ := executionBody_settles built
  simp only [built]
  refine ⟨?_, fun _ => ⟨retry, rfl⟩, fun _ => ⟨_, rfl⟩⟩
  rintro command ⟨⟩
  refine ⟨(executing ▸ effect).passes rfl rfl (fun required => absurd required free) ?_ ?_
    (checks _ rfl rfl), rfl, effect.record⟩
  · simp [attemptToComplete, carried, loadRelated, latest, state]
  · simp [resultToComplete, silent]

end Execution

/-! ## Verification cycle -/

section Verification

variable {op : Operation} {request : VerificationRequest} {result : VerificationResult}

/-- The action a result reconciles to claims no other outcome than the result's. -/
theorem reconcile_claims (input : ReconciliationInput) (count : Nat) {outcome : EffectOutcome}
    (claims : (verifyingActions (reconcile input count).action).verificationOutcome? =
      some outcome) : input.verificationResult.outcome = outcome := by
  unfold reconcile at claims
  dsimp only at claims
  cases known : input.verificationResult.outcome <;> simp only [known] at claims
  all_goals
    repeat' split at claims
    all_goals simp_all [verifyingActions, TransitionKind.verificationOutcome?]

/-- What `_verification_command` builds for a result passes when it claims the result's outcome. -/
private theorem verificationBody_passes
    (latest : op.latestVerificationId = some result.verificationId)
    (existing : (op.latestVerificationId.bind s.verification?).bind (·.2) = some result)
    (action : ReconciliationAction) (ids : RecoveryIds) (descriptor : EffectDescriptor)
    (claims : ∀ outcome, (verifyingActions action).verificationOutcome? = some outcome →
      result.outcome = outcome) :
    SettlesEffect .verifying (verificationBody (verifyingActions action) ids result descriptor) ∧
      (verificationBody (verifyingActions action) ids result descriptor).completedAttempt? = none ∧
      ∀ command : OperationCommand,
        command.body = verificationBody (verifyingActions action) ids result descriptor →
        evaluateBody command op (loadRelated s command op) = none := by
  have passes : ∀ expected, (∀ outcome, expected = some outcome → result.outcome = outcome) →
      checkVerificationComplete op result (some result) expected = none :=
    fun _ agrees => checkVerificationComplete_passes latest agrees
  cases action with
  | markSucceeded | markFailed | remainUnknown =>
    refine ⟨⟨rfl, ⟨rfl, rfl, rfl, rfl, rfl, rfl⟩, rfl, rfl, rfl⟩, rfl, fun command body => ?_⟩
    simp only [evaluateBody, body, verificationBody, verifyingActions, loadRelated, existing]
    exact passes _ claims
  | makeReadyForSafeRetry =>
    refine ⟨⟨rfl, ⟨rfl, rfl, rfl, rfl, rfl, rfl⟩, rfl, rfl, rfl⟩, rfl, fun command body => ?_⟩
    simp only [evaluateBody, body, verificationBody, verifyingActions, loadRelated, existing]
    exact orElse_eq_none.mpr ⟨passes _ claims, (mapRetrySafetyReason_notApplied _).2⟩
  | requireManualIntervention =>
    refine ⟨⟨rfl, ⟨rfl, rfl, rfl, rfl, rfl, rfl⟩, rfl, rfl, rfl⟩, rfl, fun command body => ?_⟩
    simp only [evaluateBody, body, verificationBody, verifyingActions, loadRelated, existing]
    exact passes _ (by simp)

theorem decideVerification_passes (verifying : op.state = .verifying)
    (waits : op.latestVerificationId.bind s.verification? = some (request, some result))
    (answers : result.verificationId = request.verificationId) (obligations : PolicyObligations)
    (descriptor : EffectDescriptor) (actor : PrincipalRef) (correlationId : Option String)
    (ids : RecoveryIds) (occurredAt : UtcTimestamp) :
    (decideVerification s op obligations result descriptor actor correlationId ids
        occurredAt).Passes op s ∧
      compensationTargetState? (decideVerification s op obligations result descriptor actor
        correlationId ids occurredAt).kind = none := by
  obtain ⟨verificationId, named, found⟩ := Option.bind_eq_some_iff.mp waits
  have latest : op.latestVerificationId = some result.verificationId := by
    rw [named, answers]
    exact congrArg some (find?_some found).2.symm
  have existing : (op.latestVerificationId.bind s.verification?).bind (·.2) = some result := by
    rw [waits, Option.bind_some]
  obtain ⟨effect, plain, checks⟩ := verificationBody_passes latest existing
    (reconciled s op obligations result descriptor).action ids descriptor
    fun _ claims => reconcile_claims _ _ claims
  refine ⟨(verifying ▸ effect).passes rfl rfl (by simp [decideVerification, commandOn]) ?_ ?_
    (checks _ rfl), effect.record⟩
  · simp [attemptToComplete, decideVerification, commandOn, plain]
  · have silent : (loadRelated s (decideVerification s op obligations result descriptor actor
        correlationId ids occurredAt) op).existingVerificationResult = some result := existing
    unfold resultToComplete
    rw [silent]
    split <;> simp_all

end Verification

/-! ## Compensate step -/

section Compensation

variable {op : Operation} {record : Compensation} {latest completed : CompensationAttempt}

/-- The record of a COMPENSATING operation, with its latest attempt. -/
structure OwnAttempt (s : Store) (op : Operation) (record : Compensation)
    (latest : CompensationAttempt) : Prop where
  compensating : op.state = .compensating
  named : op.compensationId = some record.compensationId
  stored : s.compensation? record.compensationId = some record
  parent : record.originalOperationId = op.operationId
  latest : (s.listCompensationAttempts record.compensationId).getLast? = some latest

theorem ownRecord_of_reachable {uuid5 : String → OpaqueId} (reachable : Reachable uuid5 s)
    {id : OpaqueId} (found : s.operation? id = some op) (own : OwnRecord s op record) :
    op.state = .compensating ∧ op.compensationId = some record.compensationId ∧
      s.compensation? record.compensationId = some record ∧
      record.originalOperationId = op.operationId := by
  have consistent : ConsistentJournal s :=
    reachable.invariant .empty fun _ _ _ before taken => before.step taken
  obtain ⟨compensating, own⟩ := own
  obtain ⟨compensation, named, stored, parent, -⟩ :=
    consistent id op found (by rw [compensating]; decide)
  rw [named, Option.bind_some, stored, Option.some.injEq] at own
  subst own
  exact ⟨compensating, named, stored, parent⟩

namespace OwnAttempt

theorem of_reachable {uuid5 : String → OpaqueId} (reachable : Reachable uuid5 s) {id : OpaqueId}
    (found : s.operation? id = some op) (own : OwnRecord s op record)
    (last : (s.listCompensationAttempts record.compensationId).getLast? = some latest) :
    OwnAttempt s op record latest := by
  obtain ⟨compensating, named, stored, parent⟩ := ownRecord_of_reachable reachable found own
  exact ⟨compensating, named, stored, parent, last⟩

theorem loaded (own : OwnAttempt s op record latest) (command : OperationCommand) :
    (loadRelated s command op).compensation = some record ∧
      (loadRelated s command op).loadedCompensationAttempt = some latest := by
  have record : op.compensationId.bind s.compensation? = some record := by
    rw [own.named, Option.bind_some, own.stored]
  simp only [loadRelated, record]
  exact ⟨trivial, own.latest⟩

theorem attempt (own : OwnAttempt s op record latest) :
    s.compensationAttempt? latest.compensationAttemptId = some latest ∧
      latest.compensationId = record.compensationId := by
  obtain ⟨stored, owner⟩ := mem_select.mp
    ((List.mem_insertionSort _).mp (List.mem_of_getLast? own.latest))
  exact ⟨find?_of_mem stored, of_decide_eq_true owner⟩

end OwnAttempt

/-- What completes the latest attempt: itself, stored COMPLETED, or a copy of it STARTED. -/
structure CompletionOf (latest completed : CompensationAttempt) : Prop where
  compensationId : completed.compensationId = latest.compensationId
  attemptId : completed.compensationAttemptId = latest.compensationAttemptId
  state : completed.state = .completed
  stored : latest.state = .completed → completed.outcome = latest.outcome

theorem Decision.Completes.completion (completes : Completes latest completed) :
    CompletionOf latest completed := by
  obtain ⟨state, rfl⟩ | ⟨started, evidence, completedAt, rfl⟩ := completes
  · exact ⟨rfl, rfl, state, fun _ => rfl⟩
  · exact ⟨rfl, rfl, rfl, fun ended => by rw [started] at ended; cases ended⟩

/-- A body about the operation's compensation: it carries nothing of the effect itself. -/
private structure SettlesCompensation (body : CommandBody) : Prop where
  source : body.kind.edge.1 = some .compensating
  settles : Settles body
  attempt : body.completedAttempt? = none
  result : body.verificationResult? = none

private theorem SettlesCompensation.passes {command : OperationCommand}
    (undoes : SettlesCompensation command.body) (own : OwnAttempt s op record latest)
    (on : command.operationId = op.operationId) (version : command.expectedVersion = op.version)
    (actor : command.actor ≠ none)
    (completion : ∀ completed, command.body.completedCompensationAttempt? = some completed →
      CompletionOf latest completed)
    (asked : ∀ result, command.body.compensationVerificationResult? = some result →
      ∃ request, s.verification? result.verificationId = some (request, none))
    (checks : evaluateBody command op (loadRelated s command op) = none) :
    command.Passes op s where
  operationId := on
  version := version.symm
  source := own.compensating ▸ undoes.source
  actor _ := actor
  checks := checks
  settles := undoes.settles
  attempt := by simp [attemptToComplete, undoes.attempt]
  result := by simp [resultToComplete, undoes.result]
  compensationAttempt := by
    intro completed writes
    unfold compensationAttemptToComplete at writes
    rw [(own.loaded command).2] at writes
    cases carried : command.body.completedCompensationAttempt? with
    | none => simp [carried] at writes
    | some attempt =>
      simp only [carried, Option.ite_none_right_eq_some, Option.some.injEq] at writes
      obtain ⟨started, rfl⟩ := writes
      have completion := completion attempt carried
      exact ⟨completion.state, latest, completion.attemptId ▸ own.attempt.1, started⟩
  compensationResult := by
    intro result writes
    unfold compensationResultToComplete at writes
    cases carried : command.body.compensationVerificationResult? with
    | none => simp [carried] at writes
    | some carriedResult =>
      simp only [carried] at writes
      split at writes
      next same _ =>
        cases same
        cases writes
        exact asked _ carried
      next => cases writes

private theorem operation_applied_iff {command : OperationCommand}
    (passes : command.Passes op s) (own : OwnAttempt s op record latest)
    (found : s.operation? op.operationId = some op) (ids : command.NewIds s) :
    Applied s (.operation command) ↔
      InTime op record command.occurredAt (.transition command.kind) := by
  have at_ : op.compensationId.bind s.compensation? = some record := by
    rw [own.named, Option.bind_some, own.stored]
  refine (passes.applied_iff found ids).trans (and_congr_right fun _ => ?_)
  rw [at_]
  constructor
  · intro behind target
    obtain ⟨state, target⟩ := Option.ne_none_iff_exists'.mp target
    exact behind state record target rfl
  · rintro behind state _ target ⟨⟩
    exact behind (by simp [target])

private theorem startVerification_applied_iff {command : StartCompensationVerification}
    {eventId : OpaqueId} (numbered : AttemptsNumbered s)
    (found : s.operation? op.operationId = some op) (own : OwnAttempt s op record latest)
    (executing : record.state = .executing) (on : command.operationId = op.operationId)
    (version : command.expectedOperationVersion = op.version)
    (named : command.compensationId = record.compensationId)
    (recordVersion : command.expectedCompensationVersion = record.version)
    (carries : command.completedCompensationAttempt = some completed)
    (completion : CompletionOf latest completed) (proved : completed.outcome = some .applied)
    (request : checkVerificationRequest command.verificationRequest op
      command.expectedOperationVersion .compensation = none)
    (event : command.attemptAuditEventId = some eventId)
    (ids : NewIds s (.startCompensationVerification command)) :
    Applied s (.startCompensationVerification command) ↔
      record.createdAt.value ≤ command.occurredAt.value := by
  constructor
  · rintro ⟨result, s', ran, applied⟩
    obtain ⟨progress, ⟨allowed, -, _, -, acceptable⟩, -⟩ | ⟨-, refused⟩ :=
      applyStartCompensationVerification_ran ran
    · have same := allowed.compensationFound
      rw [named, own.stored, Option.some.injEq] at same
      exact same ▸ acceptable.clock
    · exact absurd applied refused
  · intro clock
    obtain ⟨audits, outbox, verification⟩ := ids
    have passed : evaluateStartCompensationVerificationPreconditions command op record
        (s.listCompensationAttempts record.compensationId).getLast? = none := by
      rw [own.latest]
      exact startCompensationVerification_passes own.compensating own.parent executing request
        carries (completion.compensationId.trans own.attempt.2) completion.attemptId
        completion.state completion.stored proved
    have built : ∃ written, startVerificationEvent? command op record
        (s.nextSequence op.operationId) = some written ∧ written.auditEventId = eventId := by
      simp [startVerificationEvent?, carries, event, progressEvent]
    obtain ⟨written, built, id⟩ := built
    refine apply_of_progressing numbered ⟨?_, passed, written, built, ?_⟩
    · exact
        { found := on ▸ found
          version := version.symm
          state := own.compensating
          compensationFound := named ▸ own.stored
          parent := own.parent
          compensationVersion := recordVersion.symm }
    · rw [event] at audits
      refine ⟨clock, by simp, ?_, ⟨by simp, ?_⟩, ?_⟩
      · rintro _ ⟨⟩
        exact verification
      · intro other member
        rw [List.mem_singleton.mp member, id]
        exact audits.2 eventId (by simp)
      · rintro _ ⟨⟩
        exact outbox

private theorem compensation_passes (own : OwnAttempt s op record latest)
    (running : parentForCompensationState record.state = .compensating)
    (command : OperationCommand) {kind : TransitionKind}
    {completed : Option CompensationAttempt} {expected expectedResult : Option EffectOutcome}
    {missing : Bool} {result : Option VerificationResult} {existing : Option VerificationRow}
    (target : ∀ state, compensationTargetState? kind = some state →
      kind.edge.2 = parentForCompensationState state ∧
        evaluateCompensationTransition record.state state = true)
    (verification : checkCompensationVerification op (some latest) result expectedResult existing =
      none)
    (attempt : checkCompensationAttempt record completed (some latest) expected missing result =
      none) :
    checkCompensationOutcome kind op (loadRelated s command op).compensation completed
      (loadRelated s command op).loadedCompensationAttempt expected missing result expectedResult
      existing = none := by
  rw [(own.loaded command).1, (own.loaded command).2]
  exact checkCompensationOutcome_passes own.named own.parent (own.compensating.trans running.symm)
    verification (checkCompensationTarget_passes target) attempt

theorem outcomeIds_given {h : Handling}
    (given : ∀ number, ∃ ids, h.ids.retryIdsFor record.compensationId number = .ok ids)
    (number : Nat) : ∃ ids, outcomeIds h.ids record number = .ok ids := by
  unfold outcomeIds
  obtain ⟨ids, made⟩ := given number
  split
  · simp only [made]
    exact ⟨_, rfl⟩
  · exact ⟨_, rfl⟩

/-- The command of a compensate step is applied exactly when its clock is not behind. -/
theorem decideCompensate_applied_iff (numbered : AttemptsNumbered s)
    (found : s.operation? op.operationId = some op) (own : OwnAttempt s op record latest)
    (executing : record.state = .executing) (completion : CompletionOf latest completed)
    {outcome : EffectOutcome} (known : completed.outcome = some outcome)
    (obligations : PolicyObligations) (descriptor : EffectDescriptor) (h : Handling)
    (given : ∀ number, ∃ ids, h.ids.retryIdsFor record.compensationId number = .ok ids)
    (occurredAt requestedAt : UtcTimestamp) :
    ∃ command, decideCompensate op obligations record completed descriptor h occurredAt
        requestedAt = .ok command ∧
      (NewIds s command → (Applied s command ↔ InTime op record occurredAt
        (decideCompensateKind outcome descriptor obligations).kind)) := by
  obtain ⟨ids, made⟩ := outcomeIds_given given completed.attemptNumber
  have running : parentForCompensationState record.state = .compensating := by
    rw [executing]
    rfl
  have attempt : ∀ missing, checkCompensationAttempt record (some completed) (some latest)
      (some outcome) missing none = none := fun _ =>
    checkCompensationAttempt_passes (completion.compensationId.trans own.attempt.2)
      completion.attemptId completion.state completion.stored (.inl known)
  have alone : ∀ completed', some completed = some completed' → CompletionOf latest completed' := by
    rintro _ ⟨⟩
    exact completion
  unfold decideCompensate decideCompensateKind buildCompensateOutcomeCommand
  simp only [known, made]
  cases outcome with
  | unknown =>
    refine ⟨_, rfl, fun new => operation_applied_iff (SettlesCompensation.passes ⟨rfl,
      ⟨rfl, rfl, rfl, rfl, rfl, rfl⟩, rfl, rfl⟩ own rfl rfl (by simp [commandOn]) alone
      (by rintro _ ⟨⟩) (compensation_passes own running _ ?_ rfl (attempt _))) own found new⟩
    rintro _ ⟨⟩
    rw [executing]
    exact ⟨rfl, by decide⟩
  | notApplied =>
    refine ⟨_, rfl, fun new => operation_applied_iff (SettlesCompensation.passes ⟨rfl,
      ⟨rfl, rfl, rfl, rfl, rfl, rfl⟩, rfl, rfl⟩ own rfl rfl (by simp [commandOn]) alone
      (by rintro _ ⟨⟩) (compensation_passes own running _ ?_ rfl (attempt _))) own found new⟩
    rintro _ ⟨⟩
    rw [executing]
    exact ⟨rfl, by decide⟩
  | applied =>
    by_cases verify : (obligations.requireVerification ||
        !descriptor.immediateResponseCanProveApplied) = true
    · simp only [if_pos verify]
      exact ⟨_, rfl, fun new => startVerification_applied_iff numbered found own executing rfl rfl
        rfl rfl rfl completion known (checkVerificationRequest_passes rfl rfl rfl) rfl new⟩
    · simp only [if_neg verify]
      refine ⟨_, rfl, fun new => operation_applied_iff (SettlesCompensation.passes ⟨rfl,
        ⟨rfl, rfl, rfl, rfl, rfl, rfl⟩, rfl, rfl⟩ own rfl rfl (by simp [commandOn]) alone
        (by rintro _ ⟨⟩) (compensation_passes own running _ ?_ rfl (attempt _))) own found new⟩
      rintro _ ⟨⟩
      rw [executing]
      exact ⟨rfl, by decide⟩

end Compensation

/-! ## Compensation verify step -/

section CompensationVerification

variable {op : Operation} {record : Compensation} {latest : CompensationAttempt}
  {request : VerificationRequest} {result : VerificationResult} {h : Handling}
  {descriptor : EffectDescriptor} {completed next : Option CompensationAttempt}
  {mapped : CompensateKindDecision} {occurredAt : UtcTimestamp}

/-- What an action of `_verify_step` says of the answer and of the latest attempt. -/
theorem reconcileCompensation_claims (result : VerificationResult)
    (latest : Option CompensationAttempt) (descriptor : EffectDescriptor)
    (obligations : PolicyObligations) (count : Nat) {action : ReconciliationAction}
    (decided : (reconcileCompensation result latest descriptor obligations count).action = action) :
    (action = .markSucceeded → result.outcome = .applied ∧
        latest.bind compensationAttemptOutcome ≠ some .notApplied) ∧
      (action = .markFailed → result.outcome = .notApplied ∧
        latest.bind compensationAttemptOutcome ≠ some .applied) ∧
      (action = .makeReadyForSafeRetry → result.outcome = .notApplied) ∧
      (action = .remainUnknown → result.outcome = .unknown) := by
  subst decided
  unfold reconcileCompensation
  dsimp only
  cases result.outcome <;> dsimp only
  all_goals
    repeat' split
    all_goals simp_all

/-- The bodies `_verify_outcome_command` builds. -/
private inductive VerifiedBody (completed : Option CompensationAttempt)
    (result : VerificationResult) : CommandBody → Prop where
  | applied (attempt : CompensationAttempt) (is : completed = some attempt) (eventId : OpaqueId) :
      VerifiedBody completed result (.compensationApplied attempt eventId (some result))
  | failed (attempt : CompensationAttempt) (is : completed = some attempt) (eventId : OpaqueId) :
      VerifiedBody completed result (.compensationOutcomeFailed attempt eventId (some result))
  | unknown (eventId outboxEventId : OpaqueId) : VerifiedBody completed result
      (.compensationOutcomeUnknown none eventId outboxEventId (some result))
  | escalate (eventId : OpaqueId) :
      VerifiedBody completed result (.compensationEscalate eventId (some result))

private theorem VerifiedBody.settles {body : CommandBody}
    (verified : VerifiedBody completed result body) :
    SettlesCompensation body ∧ body.compensationVerificationResult? = some result := by
  cases verified <;> exact ⟨⟨rfl, ⟨rfl, rfl, rfl, rfl, rfl, rfl⟩, rfl, rfl⟩, rfl⟩

private structure ForOperation (command : OperationCommand) (op : Operation)
    (occurredAt : UtcTimestamp) : Prop where
  operationId : command.operationId = op.operationId
  version : command.expectedVersion = op.version
  clock : command.occurredAt = occurredAt
  actor : command.actor ≠ none

private structure RetryFor (command : RetryCompensationAfterVerification) (op : Operation)
    (record : Compensation) (result : VerificationResult) (next : CompensationAttempt)
    (occurredAt : UtcTimestamp) : Prop where
  operationId : command.operationId = op.operationId
  version : command.expectedOperationVersion = op.version
  compensationId : command.compensationId = record.compensationId
  recordVersion : command.expectedCompensationVersion = record.version
  result : command.verificationResult = result
  attempt : command.attempt = next
  clock : command.occurredAt = occurredAt

private theorem verifyOutcomeCommand_ok {command : TransitionCommand} {number : Nat}
    (built : verifyOutcomeCommand h mapped op record result completed next descriptor occurredAt
      number = .ok command) :
    (∃ c, command = .operation c ∧ ForOperation c op occurredAt ∧
        mapped.kind = .transition c.kind ∧ VerifiedBody completed result c.body) ∨
      ∃ c attempt, command = .retryCompensationAfterVerification c ∧ next = some attempt ∧
        mapped.kind = .progress .retryCompensationAfterVerification ∧
        RetryFor c op record result attempt occurredAt := by
  unfold verifyOutcomeCommand at built
  split at built
  · cases built
  split at built
  next kind =>
    cases built
    exact .inl ⟨_, rfl, ⟨rfl, rfl, rfl, by simp [commandOn]⟩, kind, .applied _ rfl _⟩
  next kind =>
    cases built
    exact .inl ⟨_, rfl, ⟨rfl, rfl, rfl, by simp [commandOn]⟩, kind, .failed _ rfl _⟩
  next kind =>
    cases built
    exact .inl ⟨_, rfl, ⟨rfl, rfl, rfl, by simp [commandOn]⟩, kind, .unknown _ _⟩
  next kind =>
    cases built
    exact .inl ⟨_, rfl, ⟨rfl, rfl, rfl, by simp [commandOn]⟩, kind, .escalate _⟩
  next attempt kind =>
    split at built
    · cases built
    · cases built
      exact .inr ⟨_, attempt, rfl, rfl, kind, ⟨rfl, rfl, rfl, rfl, rfl, rfl, rfl⟩⟩
  next => cases built

/-- A command that carries an answer is applied only if the answered request asks about the
latest attempt. -/
private theorem asksLatest_of_applied {command : OperationCommand}
    (found : s.operation? op.operationId = some op) (compensating : op.state = .compensating)
    (own : op.compensationId.bind s.compensation? = some record)
    (on : command.operationId = op.operationId)
    (carried : command.body.compensationVerificationResult? = some result)
    (opened : s.verification? result.verificationId = some (request, none))
    (applied : Applied s (.operation command)) : AsksLatest s op record request := by
  obtain ⟨_, s', ran, applied⟩ := applied
  have made := moved_of_applied (on ▸ found) ran applied
  obtain ⟨_, _, _, _, _, checked, related⟩ :=
    made.compensation_checked (by rw [compensating]; decide)
  obtain ⟨rfl, rfl⟩ := related (.inr (by simp [carried]))
  obtain ⟨-, -, -, verified, -⟩ := checkCompensationOutcome_none checked
  have existing : (loadRelated s command op).existingCompensationVerification =
      some (request, none) := by simp [loadRelated, carried, opened]
  have last : (loadRelated s command op).loadedCompensationAttempt =
      (s.listCompensationAttempts record.compensationId).getLast? := by simp [loadRelated, own]
  rw [carried, existing, last] at verified
  unfold checkCompensationVerification at verified
  obtain ⟨-, verified⟩ := guard_eq_none.mp verified
  obtain ⟨-, verified⟩ := guard_eq_none.mp verified
  obtain ⟨-, verified⟩ := guard_eq_none.mp verified
  obtain ⟨-, verified⟩ := guard_eq_none.mp verified
  obtain ⟨current, verified⟩ := guard_eq_none.mp verified
  cases latest : (s.listCompensationAttempts record.compensationId).getLast? with
  | none => simp [latest] at verified
  | some attempt =>
    simp only [latest] at verified
    obtain ⟨about, -⟩ := guard_eq_none.mp verified
    exact ⟨not_not.mp current, attempt, latest, not_not.mp about⟩

/-- The answered request is stored open, about this operation's compensation. -/
structure OpenRequest (s : Store) (op : Operation) (request : VerificationRequest)
    (result : VerificationResult) : Prop where
  opened : s.verification? result.verificationId = some (request, none)
  target : request.target = .compensation
  owner : request.operationId = op.operationId

theorem OpenRequest.answers (asked : OpenRequest s op request result) :
    request.verificationId = result.verificationId := (find?_some asked.opened).2

/-- What the settled verification completes is a completion of the latest attempt, with the
outcome the answer proves or, where the stored one is UNKNOWN, next to it. -/
private theorem verifiedAttempt?_completes {kind : CommandKind} {outcome : EffectOutcome}
    {attempt : CompensationAttempt} {completedAt : UtcTimestamp}
    (proves : verifiedOutcome? kind = some outcome) (answer : result.outcome = outcome)
    (agrees : ∀ stored, compensationAttemptOutcome latest = some stored →
      stored = outcome ∨ stored = .unknown)
    (is : verifiedAttempt? kind (some latest) result completedAt = some attempt) :
    CompletionOf latest attempt ∧
      (attempt.outcome = some outcome ∨
        attempt.outcome = some .unknown ∧ latest.state = .completed ∧
          (some result).map (·.outcome) = some outcome) := by
  unfold verifiedAttempt? at is
  unfold compensationAttemptOutcome at agrees
  simp only [proves] at is
  cases state : latest.state with
  | started =>
    simp only [state, Option.some.injEq] at is
    subst is
    exact ⟨⟨rfl, rfl, rfl, fun ended => by rw [state] at ended; cases ended⟩, .inl rfl⟩
  | completed =>
    simp only [state, Option.some.injEq] at is
    subst is
    refine ⟨⟨rfl, rfl, state, fun _ => rfl⟩, ?_⟩
    obtain ⟨stored, known⟩ := latest.outcome_isSome_of_completed state
    obtain rfl | rfl := agrees stored (by rw [state]; exact known)
    · exact .inl known
    · exact .inr ⟨known, rfl, congrArg some answer⟩

/-- An action that settles the compensation goes with the answer and with the latest attempt. -/
private theorem reconcileCompensation_proves {obligations : PolicyObligations} {count : Nat}
    {kind : CommandKind} {outcome : EffectOutcome}
    (decided : compensatingVerifying (reconcileCompensation result (some latest) descriptor
      obligations count).action = kind) (proves : verifiedOutcome? kind = some outcome) :
    result.outcome = outcome ∧ ∀ stored, compensationAttemptOutcome latest = some stored →
      stored = outcome ∨ stored = .unknown := by
  obtain ⟨succeeded, failed, -, -⟩ :=
    reconcileCompensation_claims result (some latest) descriptor obligations count rfl
  cases action : (reconcileCompensation result (some latest) descriptor obligations count).action
    with
  | markSucceeded =>
    rw [← decided, action] at proves
    cases proves
    obtain ⟨answer, agrees⟩ := succeeded action
    refine ⟨answer, fun stored known => ?_⟩
    rw [Option.bind_some, known] at agrees
    cases stored <;> simp_all
  | markFailed =>
    rw [← decided, action] at proves
    cases proves
    obtain ⟨answer, agrees⟩ := failed action
    refine ⟨answer, fun stored known => ?_⟩
    rw [Option.bind_some, known] at agrees
    cases stored <;> simp_all
  | _ =>
    rw [← decided, action] at proves
    cases proves

private theorem reconcileCompensation_unknown {obligations : PolicyObligations} {count : Nat}
    (decided : compensatingVerifying (reconcileCompensation result (some latest) descriptor
      obligations count).action = .transition .compensationOutcomeUnknown) :
    result.outcome = .unknown := by
  refine (reconcileCompensation_claims result (some latest) descriptor obligations count
    rfl).2.2.2 ?_
  revert decided
  cases (reconcileCompensation result (some latest) descriptor obligations count).action <;>
    simp [compensatingVerifying]

/-- From VERIFYING the record may go where a settled verification sends it. -/
private theorem verifying_target {kind : TransitionKind}
    (settles : kind ∈ [TransitionKind.compensationApplied, .compensationOutcomeFailed,
      .compensationOutcomeUnknown, .compensationEscalate]) :
    ∀ state, compensationTargetState? kind = some state →
      kind.edge.2 = parentForCompensationState state ∧
        evaluateCompensationTransition .verifying state = true := by
  simp only [List.mem_cons, List.not_mem_nil, or_false] at settles
  obtain rfl | rfl | rfl | rfl := settles
  · rintro _ ⟨⟩
    exact ⟨rfl, rfl⟩
  · rintro _ ⟨⟩
    exact ⟨rfl, rfl⟩
  · rintro _ ⟨⟩
    exact ⟨rfl, rfl⟩
  · rintro _ ⟨⟩

section Answered

variable {command : OperationCommand} (own : OwnAttempt s op record latest)
  (verifying : record.state = .verifying) (asked : OpenRequest s op request result)
  (asks : AsksLatest s op record request)

include own asked asks

private theorem answer_passes {expected : Option EffectOutcome}
    (agrees : ∀ outcome, expected = some outcome → result.outcome = outcome) :
    checkCompensationVerification op (some latest) (some result) expected (some (request, none)) =
      none := by
  obtain ⟨last, same, about⟩ := asks.about
  obtain rfl : last = latest := Option.some.inj (same.symm.trans own.latest)
  exact checkCompensationVerification_passes asked.answers asked.target asked.owner asks.current
    about agrees

include verifying

/-- The checks of a verification that settles nothing about an attempt. -/
private theorem unsettled_passes {kind : TransitionKind} {expected : Option EffectOutcome}
    {missing : Bool}
    (target : ∀ state, compensationTargetState? kind = some state →
      kind.edge.2 = parentForCompensationState state ∧
        evaluateCompensationTransition .verifying state = true)
    (agrees : ∀ outcome, expected = some outcome → result.outcome = outcome)
    (attempt : checkCompensationAttempt record none (some latest) none missing (some result) =
      none) :
    checkCompensationOutcome kind op (loadRelated s command op).compensation none
      (loadRelated s command op).loadedCompensationAttempt none missing (some result) expected
      (some (request, none)) = none :=
  compensation_passes own (by rw [verifying]; rfl) command (by rw [verifying]; exact target)
    (answer_passes own asked asks agrees) attempt

/-- The checks of a verification that completes the latest attempt. -/
private theorem proven_passes {kind : TransitionKind} {outcome : EffectOutcome}
    {attempt : CompensationAttempt} {completedAt : UtcTimestamp} {missing : Bool}
    (target : ∀ state, compensationTargetState? kind = some state →
      kind.edge.2 = parentForCompensationState state ∧
        evaluateCompensationTransition .verifying state = true)
    (proves : verifiedOutcome? (.transition kind) = some outcome)
    (answer : result.outcome = outcome)
    (agrees : ∀ stored, compensationAttemptOutcome latest = some stored →
      stored = outcome ∨ stored = .unknown)
    (is : verifiedAttempt? (.transition kind) (some latest) result completedAt = some attempt) :
    checkCompensationOutcome kind op (loadRelated s command op).compensation (some attempt)
      (loadRelated s command op).loadedCompensationAttempt (some outcome) missing (some result)
      (some outcome) (some (request, none)) = none := by
  obtain ⟨completion, known⟩ := verifiedAttempt?_completes proves answer agrees is
  refine compensation_passes own (by rw [verifying]; rfl) command
    (by rw [verifying]; exact target) (answer_passes own asked asks ?_)
    (checkCompensationAttempt_passes (completion.compensationId.trans own.attempt.2)
      completion.attemptId completion.state completion.stored known)
  rintro _ ⟨⟩
  exact answer

/-- What `_verify_outcome_command` builds passes when the request asks about the latest attempt. -/
private theorem verifiedBody_passes {obligations : PolicyObligations} {count : Nat}
    {completedAt : UtcTimestamp} (on : ForOperation command op occurredAt)
    (kind : compensatingVerifying (reconcileCompensation result (some latest) descriptor obligations
      count).action = .transition command.kind)
    (body : VerifiedBody (verifiedAttempt? (.transition command.kind) (some latest) result
      completedAt) result command.body) : command.Passes op s := by
  obtain ⟨undoes, carries⟩ := body.settles
  have existing : (loadRelated s command op).existingCompensationVerification =
      some (request, none) := by simp [loadRelated, carries, asked.opened]
  have passes : (∀ completed, command.body.completedCompensationAttempt? = some completed →
      CompletionOf latest completed) →
      evaluateBody command op (loadRelated s command op) = none → command.Passes op s := by
    refine fun completion checks => undoes.passes own on.operationId on.version on.actor completion
      (fun _ is => ?_) checks
    rw [carries, Option.some.injEq] at is
    exact ⟨request, is ▸ asked.opened⟩
  simp only [OperationCommand.kind] at kind body
  generalize carried : command.body = settled at kind body
  cases body with
  | applied attempt is eventId =>
    obtain ⟨answer, agrees⟩ := reconcileCompensation_proves kind rfl
    refine passes ?_ ?_
    · rw [carried]
      rintro _ ⟨⟩
      exact (verifiedAttempt?_completes rfl answer agrees is).1
    · simp only [evaluateBody, OperationCommand.kind, carried, existing]
      exact proven_passes own verifying asked asks
        (verifying_target (by simp [CommandBody.kind])) rfl answer agrees is
  | failed attempt is eventId =>
    obtain ⟨answer, agrees⟩ := reconcileCompensation_proves kind rfl
    refine passes ?_ ?_
    · rw [carried]
      rintro _ ⟨⟩
      exact (verifiedAttempt?_completes rfl answer agrees is).1
    · simp only [evaluateBody, OperationCommand.kind, carried, existing]
      exact proven_passes own verifying asked asks
        (verifying_target (by simp [CommandBody.kind])) rfl answer agrees is
  | unknown eventId outboxEventId =>
    have answer := reconcileCompensation_unknown kind
    refine passes (by rw [carried]; rintro _ ⟨⟩) ?_
    simp only [evaluateBody, OperationCommand.kind, carried, existing]
    refine unsettled_passes own verifying asked asks
      (verifying_target (by simp [CommandBody.kind])) ?_ rfl
    rintro _ ⟨⟩
    exact answer
  | escalate eventId =>
    refine passes (by rw [carried]; rintro _ ⟨⟩) ?_
    simp only [evaluateBody, OperationCommand.kind, carried, existing]
    refine unsettled_passes own verifying asked asks
      (verifying_target (by simp [CommandBody.kind])) ?_ rfl
    intro _ is
    cases is

end Answered

private theorem retry_applied_iff {command : RetryCompensationAfterVerification}
    {attempt : CompensationAttempt} {attemptId : OpaqueId} {startedAt : UtcTimestamp}
    (numbered : AttemptsNumbered s) (found : s.operation? op.operationId = some op)
    (compensating : op.state = .compensating)
    (stored : s.compensation? record.compensationId = some record)
    (parent : record.originalOperationId = op.operationId) (verifying : record.state = .verifying)
    (asked : OpenRequest s op request result) (answer : result.outcome = .notApplied)
    (retry : RetryFor command op record result attempt occurredAt)
    (next : attempt = buildStartedAttempt record.compensationId attemptId
      ((s.listCompensationAttempts record.compensationId).length + 1) descriptor startedAt)
    (ids : NewIds s (.retryCompensationAfterVerification command)) :
    Applied s (.retryCompensationAfterVerification command) ↔
      AsksLatest s op record request ∧ KeyFits s record descriptor ∧
        record.createdAt.value ≤ occurredAt.value := by
  have key : command.attempt.providerIdempotencyKey =
      providerCompensationKey descriptor record.compensationId := by
    rw [retry.attempt, next]
    rfl
  have existing : s.verification? command.verificationResult.verificationId =
      some (request, none) := by
    rw [retry.result]
    exact asked.opened
  constructor
  · rintro ⟨_, s', ran, applied⟩
    obtain ⟨progress, ⟨allowed, passed, acceptable⟩, -⟩ | ⟨-, refused⟩ :=
      applyRetryCompensationAfterVerification_ran ran
    · have same := allowed.compensationFound
      have mine := allowed.found
      rw [retry.compensationId, stored, Option.some.injEq] at same
      rw [retry.operationId, found, Option.some.injEq] at mine
      rw [← same, ← mine, existing] at passed
      obtain ⟨current, about, keys⟩ := retryCompensationAfterVerification_none passed
      rw [key] at keys
      exact ⟨⟨current, about⟩, keys, retry.clock ▸ same ▸ acceptable.clock⟩
    · exact absurd applied refused
  · rintro ⟨asks, keys, clock⟩
    obtain ⟨latest, last, about⟩ := asks.about
    obtain ⟨audits, outbox, unused⟩ := ids
    have progressing : Progressing s op record (.retryCompensationAfterVerification command) := by
      refine ⟨⟨retry.operationId ▸ found, retry.version.symm, compensating,
        retry.compensationId ▸ stored, parent, retry.recordVersion.symm⟩, ?_, ?_⟩
      · rw [existing]
        refine retryCompensationAfterVerification_passes compensating parent verifying
          (retry.result ▸ answer) (retry.result ▸ asked.answers) asked.target asked.owner
          asks.current last about ?_ ?_ ?_ (key ▸ keys)
        all_goals
          rw [retry.attempt, next]
          rfl
      · refine ⟨retry.clock ▸ clock, ?_, by simp, audits, ?_⟩
        · rintro _ ⟨⟩
          exact unused
        · rintro _ ⟨⟩
          exact outbox
    exact apply_of_progressing numbered progressing

variable {obligations : PolicyObligations} {completedAt startedAt : UtcTimestamp}

/-- The two shapes of command `_verify_step` decides on. -/
private theorem decideVerified_cases {command : TransitionCommand}
    (compensating : op.state = .compensating) (verifying : record.state = .verifying)
    (built : decideVerified s op obligations record result descriptor h completedAt startedAt
      occurredAt = .ok command) :
    (∃ c, command = .operation c ∧ ForOperation c op occurredAt ∧
        compensatingVerifying (reconciledCompensation s op obligations record result
          descriptor).action = .transition c.kind ∧
        VerifiedBody (verifiedAttempt? (.transition c.kind)
          (s.listCompensationAttempts record.compensationId).getLast? result completedAt) result
          c.body) ∨
      ∃ c attemptId, command = .retryCompensationAfterVerification c ∧
        compensatingVerifying (reconciledCompensation s op obligations record result
          descriptor).action = .progress .retryCompensationAfterVerification ∧
        RetryFor c op record result (buildStartedAttempt record.compensationId attemptId
          ((s.listCompensationAttempts record.compensationId).length + 1) descriptor startedAt)
          occurredAt := by
  unfold decideVerified compensationDecisionToKind at built
  simp only [compensating, verifying, and_self, if_true] at built
  split at built
  · cases built
  next next retried =>
    obtain ⟨c, rfl, on, kind, body⟩ | ⟨c, attempt, rfl, rfl, kind, retry⟩ :=
      verifyOutcomeCommand_ok built
    · exact .inl ⟨c, rfl, on, kind, kind ▸ body⟩
    · unfold retriedAttempt? at retried
      simp only [show compensatingVerifying _ = _ from kind] at retried
      split at retried
      · cases retried
      · cases retried
        exact .inr ⟨c, _, rfl, kind, retry⟩

private theorem verificationWriteIds_given
    (given : ∀ number, ∃ ids, h.ids.retryIdsFor record.compensationId number = .ok ids)
    (number : Nat) (verificationId : OpaqueId) :
    ∃ ids, verificationWriteIds h.ids record.compensationId number verificationId = .ok ids := by
  obtain ⟨ids, made⟩ := given number
  obtain ⟨nextIds, madeNext⟩ := given (number + 1)
  unfold verificationWriteIds
  simp only [made, madeNext]
  repeat' split
  all_goals simp_all

/-- With a latest attempt and ids for every retry, `_verify_step` gets to build its command. -/
private theorem decideVerified_built (compensating : op.state = .compensating)
    (verifying : record.state = .verifying)
    (last : (s.listCompensationAttempts record.compensationId).getLast? = some latest)
    (given : ∀ number, ∃ ids, h.ids.retryIdsFor record.compensationId number = .ok ids) :
    ∃ command, decideVerified s op obligations record result descriptor h completedAt startedAt
      occurredAt = .ok command := by
  obtain ⟨ids, written⟩ := verificationWriteIds_given given latest.attemptNumber
    result.verificationId
  obtain ⟨retryIds, retried⟩ := given
    ((s.listCompensationAttempts record.compensationId).length + 1)
  unfold decideVerified compensationDecisionToKind retriedAttempt? verifyOutcomeCommand
    verifiedAttempt?
  cases (reconciledCompensation s op obligations record result descriptor).action <;>
    cases state : latest.state <;>
      simp [compensating, verifying, last, written, retried, compensatingVerifying,
        verifiedOutcome?, state, Compensation.buildStartedAttempt]

/-- An answer that moves the operation is applied when the latest attempt is asked about. -/
private theorem verifiedOperation_applied_iff {command : OperationCommand}
    (found : s.operation? op.operationId = some op) (compensating : op.state = .compensating)
    (named : op.compensationId = some record.compensationId)
    (stored : s.compensation? record.compensationId = some record)
    (parent : record.originalOperationId = op.operationId) (verifying : record.state = .verifying)
    (asked : OpenRequest s op request result) (on : ForOperation command op occurredAt)
    (kind : compensatingVerifying (reconciledCompensation s op obligations record result
      descriptor).action = .transition command.kind)
    (body : VerifiedBody (verifiedAttempt? (.transition command.kind)
      (s.listCompensationAttempts record.compensationId).getLast? result completedAt) result
      command.body) (ids : command.NewIds s) :
    Applied s (.operation command) ↔
      AsksLatest s op record request ∧ InTime op record occurredAt (.transition command.kind) := by
  have at_ : op.compensationId.bind s.compensation? = some record := by
    rw [named, Option.bind_some, stored]
  have admitted : AsksLatest s op record request →
      (Applied s (.operation command) ↔
        InTime op record occurredAt (.transition command.kind)) := by
    intro asks
    obtain ⟨latest, last, -⟩ := asks.about
    have own : OwnAttempt s op record latest := ⟨compensating, named, stored, parent, last⟩
    rw [last] at body
    unfold reconciledCompensation at kind
    rw [last] at kind
    have passes := verifiedBody_passes own verifying asked asks on kind body
    rw [operation_applied_iff passes own found ids, on.clock]
  constructor
  · intro applied
    have asks := asksLatest_of_applied found compensating at_ on.operationId body.settles.2
      asked.opened applied
    exact ⟨asks, (admitted asks).mp applied⟩
  · rintro ⟨asks, inTime⟩
    exact (admitted asks).mpr inTime

/-- The command of a verify step is applied exactly when the request it answers asks about the
latest attempt, a retry's key fits, and the clock is not behind. -/
theorem decideVerified_applied_iff (numbered : AttemptsNumbered s)
    (found : s.operation? op.operationId = some op) (compensating : op.state = .compensating)
    (named : op.compensationId = some record.compensationId)
    (stored : s.compensation? record.compensationId = some record)
    (parent : record.originalOperationId = op.operationId) (verifying : record.state = .verifying)
    (asked : OpenRequest s op request result)
    (given : ∀ number, ∃ ids, h.ids.retryIdsFor record.compensationId number = .ok ids)
    (new : ∀ command, decideVerified s op obligations record result descriptor h completedAt
      startedAt occurredAt = .ok command → NewIds s command) :
    (∃ command, decideVerified s op obligations record result descriptor h completedAt startedAt
        occurredAt = .ok command ∧ Applied s command) ↔
      AsksLatest s op record request ∧
        ((reconciledCompensation s op obligations record result descriptor).action =
          .makeReadyForSafeRetry → KeyFits s record descriptor) ∧
        InTime op record occurredAt (compensatingVerifying
          (reconciledCompensation s op obligations record result descriptor).action) := by
  have decided : ∀ command, decideVerified s op obligations record result descriptor h completedAt
      startedAt occurredAt = .ok command → (Applied s command ↔ AsksLatest s op record request ∧
        ((reconciledCompensation s op obligations record result descriptor).action =
          .makeReadyForSafeRetry → KeyFits s record descriptor) ∧
        InTime op record occurredAt (compensatingVerifying
          (reconciledCompensation s op obligations record result descriptor).action)) := by
    intro command built
    obtain ⟨c, rfl, on, kind, body⟩ | ⟨c, attemptId, rfl, kind, retry⟩ :=
      decideVerified_cases compensating verifying built
    · have other : (reconciledCompensation s op obligations record result descriptor).action ≠
          .makeReadyForSafeRetry := by
        intro retries
        rw [retries] at kind
        cases kind
      have admitted := verifiedOperation_applied_iff found compensating named stored parent
        verifying asked on kind body (new _ built)
      rw [kind, admitted]
      simp [other]
    · have retries : (reconciledCompensation s op obligations record result descriptor).action =
          .makeReadyForSafeRetry := by
        revert kind
        cases (reconciledCompensation s op obligations record result descriptor).action <;>
          simp [compensatingVerifying]
      have answer := (reconcileCompensation_claims result _ descriptor obligations _ rfl).2.2.1
        retries
      rw [retry_applied_iff numbered found compensating stored parent verifying asked answer retry
        rfl (new _ built), retries]
      simp [compensatingVerifying, InTime]
  constructor
  · rintro ⟨command, built, applied⟩
    exact (decided command built).mp applied
  · intro current
    obtain ⟨latest, last, -⟩ := current.1.about
    obtain ⟨command, built⟩ := decideVerified_built compensating verifying last given
    exact ⟨command, built, (decided command built).mpr current⟩

end CompensationVerification

/-! ## Admitted decisions -/

theorem findPending_open {op : Operation} {request : VerificationRequest}
    {result : VerificationResult}
    (pending : findPendingCompensationVerification (s.listVerifications op.operationId) =
      some (request, none)) (answers : result.verificationId = request.verificationId) :
    OpenRequest s op request result := by
  obtain ⟨listed, waiting⟩ := List.mem_filter.mp (List.mem_of_getLast? pending)
  obtain ⟨stored, owner⟩ := mem_select.mp ((List.mem_insertionSort _).mp listed)
  simp only [Bool.and_eq_true, decide_eq_true_eq] at waiting
  refine ⟨?_, waiting.1, of_decide_eq_true owner⟩
  rw [answers]
  exact find?_of_mem stored

private theorem toOption_eq_some {ε α : Type} {made : Except ε α} {a : α} :
    made.toOption = some a ↔ made = .ok a := by
  cases made <;> simp [Except.toOption]

private theorem admitted_iff {op : Operation} {occurredAt : UtcTimestamp} {decision : Decision}
    {command : TransitionCommand} (is : decision.command s op occurredAt = some command) :
    decision.Admitted s op occurredAt ↔ Applied s command := by
  simp [Admitted, is]

/-- A command about the effect itself replaces only the operation. -/
private theorem effect_applied_iff {op : Operation} {command : OperationCommand}
    (passes : command.Passes op s) (found : s.operation? op.operationId = some op)
    (ids : command.NewIds s) (plain : compensationTargetState? command.kind = none) :
    Applied s (.operation command) ↔ op.createdAt.value ≤ command.occurredAt.value := by
  refine (passes.applied_iff found ids).trans ?_
  simp [OperationCommand.InTime, plain]

/-- The command on an execution's outcome is admitted when the registry decides in time. -/
private theorem execution_admitted_iff {op : Operation} {policy : PolicyDecision}
    {completed : ExecutionAttempt} {descriptor : EffectDescriptor} {actor : Option PrincipalRef}
    {correlationId : Option String} {ids : RecoverIds} {now occurredAt : UtcTimestamp}
    (found : s.operation? op.operationId = some op) (decided : policy? s op = some policy)
    (executing : op.state = .executing)
    (latest : op.latestAttemptId.bind s.attempt? = some completed)
    (owner : completed.operationId = op.operationId) (state : completed.state = .completed)
    (new : ∀ command, (Decision.execution completed descriptor actor correlationId ids now).command
      s op occurredAt = some command → NewIds s command) :
    (Decision.execution completed descriptor actor correlationId ids now).Admitted s op occurredAt ↔
      ReadableWindow descriptor ∧ op.createdAt.value ≤ occurredAt.value := by
  obtain ⟨passes, readable⟩ := decideExecution_passes executing latest owner state
    policy.obligations descriptor actor correlationId ids now occurredAt
  have admits : ∀ command, decideExecution s op policy.obligations completed descriptor actor
      correlationId ids now occurredAt = .ok command →
      ((Decision.execution completed descriptor actor correlationId ids now).Admitted s op
        occurredAt ↔ op.createdAt.value ≤ occurredAt.value) := by
    intro command built
    obtain ⟨checks, clock, plain⟩ := passes command built
    have is : (Decision.execution completed descriptor actor correlationId ids now).command s op
        occurredAt = some (.operation command) := by
      simp [Decision.command, decided, toOption_eq_some, built]
    rw [admitted_iff is, effect_applied_iff checks found (new _ is) plain, clock]
  constructor
  · intro admitted
    obtain ⟨_, is, -⟩ := id admitted
    simp only [Decision.command, decided, Option.bind_some, Option.map_eq_some_iff,
      toOption_eq_some] at is
    obtain ⟨command, built, -⟩ := is
    exact ⟨readable.mp ⟨command, built⟩, (admits command built).mp admitted⟩
  · rintro ⟨window, clock⟩
    obtain ⟨command, built⟩ := readable.mpr window
    exact (admits command built).mpr clock

/-- On a reachable journal a decision is admitted exactly when it is current. -/
theorem decision_admitted_iff {uuid5 : String → OpaqueId} (reachable : Reachable uuid5 s)
    {operationId : OpaqueId} {op : Operation} (found : s.operation? operationId = some op)
    {decision : Decision} {occurredAt : UtcTimestamp} (arises : decision.Arises s op)
    (fresh : decision.Fresh s op occurredAt) :
    decision.Admitted s op occurredAt ↔ decision.Current s op occurredAt := by
  have numbered := attemptsNumbered_of_reachable reachable
  have at_ : s.operation? op.operationId = some op := by
    rw [show op.operationId = operationId from (find?_some found).2]
    exact found
  have settled : op.state ∉ unauthorizedStates := by
    cases decision with
    | execution | verification => rw [arises.1]; decide
    | compensation | compensationVerification => rw [arises.1.1]; decide
  obtain ⟨policy, decided⟩ := policy?_of_reachable reachable found settled
  obtain ⟨given, new⟩ := fresh
  cases decision with
  | execution completed descriptor actor correlationId ids now =>
    obtain ⟨executing, latest, state⟩ := arises
    obtain ⟨attemptId, attempt, named, there, owner⟩ :=
      executing_of_reachable reachable operationId op found executing
    rw [named, Option.bind_some, there, Option.some.injEq] at latest
    subst latest
    have latest : op.latestAttemptId.bind s.attempt? = some attempt := by
      rw [named, Option.bind_some]
      exact there
    exact execution_admitted_iff at_ decided executing latest owner state new
  | verification result descriptor actor correlationId ids =>
    obtain ⟨verifying, request, waits⟩ := arises
    obtain ⟨verificationId, -, there⟩ := Option.bind_eq_some_iff.mp waits
    have answers := answersMatch_of_reachable reachable _ (find?_some there).1 result rfl
    obtain ⟨passes, plain⟩ := decideVerification_passes verifying waits answers policy.obligations
      descriptor actor correlationId ids occurredAt
    have is : (Decision.verification result descriptor actor correlationId ids).command s op
        occurredAt = some (.operation (decideVerification s op policy.obligations result descriptor
          actor correlationId ids occurredAt)) := by
      simp [Decision.command, decided]
    rw [admitted_iff is, effect_applied_iff passes at_ (new _ is) plain]
    rfl
  | compensation record completed descriptor h requestedAt =>
    obtain ⟨own, executing, latest, last, completes⟩ := arises
    have own := OwnAttempt.of_reachable reachable found own last
    have completion := completes.completion
    obtain ⟨outcome, known⟩ := completed.outcome_isSome_of_completed completion.state
    obtain ⟨command, built, applied⟩ := decideCompensate_applied_iff numbered at_ own executing
      completion known policy.obligations descriptor h given occurredAt requestedAt
    have is : (Decision.compensation record completed descriptor h requestedAt).command s op
        occurredAt = some command := by
      simp [Decision.command, decided, toOption_eq_some, built]
    rw [admitted_iff is, applied (new _ is)]
    simp [Current, decided, known]
  | compensationVerification record result descriptor h completedAt startedAt =>
    obtain ⟨own, verifying, request, pending, answers⟩ := arises
    obtain ⟨compensating, named, stored, parent⟩ := ownRecord_of_reachable reachable found own
    have commands : ∀ command, (Decision.compensationVerification record result descriptor h
        completedAt startedAt).command s op occurredAt = some command ↔
        decideVerified s op policy.obligations record result descriptor h completedAt startedAt
          occurredAt = .ok command := by
      intro command
      simp [Decision.command, decided, toOption_eq_some]
    have applied := decideVerified_applied_iff numbered at_ compensating named stored parent
      verifying (findPending_open pending answers) given fun command built =>
        new command ((commands command).mpr built)
    simp only [Admitted, commands, applied, Current, decided, pending, Option.some.injEq,
      Prod.mk.injEq, and_true]
    constructor
    · rintro current _ _ rfl rfl
      exact current
    · intro current
      exact current policy request rfl rfl

/-- The ids of one handling; `verification` is the one it would request. -/
def sampleIds (first second verification : String) : CompensationIds where
  compensationId := idOf first
  compensationAttemptId := idOf first
  startTransitionAuditEventId := idOf first
  compensationRequestedAuditEventId := idOf second
  startOutboxEventId := idOf first
  claimAttemptAuditEventId := idOf first
  evidenceAuditEventId := idOf second
  completeTransitionAuditEventId := idOf first
  completeOutboxEventId := idOf first
  verificationId := idOf verification
  verificationStartAuditEventId := idOf second
  verificationCompleteAuditEventId := idOf second
  verificationOutboxEventId := idOf second
  manualAuditEventId := idOf second
  operatorAuditEventId := idOf second
  retryIdsFor _ _ := .ok
    { parentRetryTransitionAuditEventId := idOf first
      parentRetryOutboxEventId := idOf first
      attemptId := idOf first
      attemptAuditEventId := idOf first
      attemptOutboxEventId := idOf first
      resumeVerificationId := idOf verification
      resumeVerificationStartAuditEventId := idOf second
      resumeVerificationCompleteAuditEventId := idOf second
      resumeVerificationOutboxEventId := idOf second
      resumeCompleteTransitionAuditEventId := idOf first
      resumeCompleteOutboxEventId := idOf first
      evidenceAuditEventId := idOf second
      completeTransitionAuditEventId := idOf first
      completeOutboxEventId := idOf first
      verificationId := idOf verification
      verificationStartAuditEventId := idOf second
      verificationCompleteAuditEventId := idOf second
      verificationOutboxEventId := idOf second }

def sampleHandling (first second verification : String) : Handling :=
  ⟨compensationActor, none, sampleIds first second verification⟩

def undoneAttempt : CompensationAttempt :=
  completeAttemptFromEvidence (sampleCompensationAttempt "first" "compensation-attempt")
    ⟨.applied, none, none, none⟩ ⟨8⟩

/-- The operation of `compensatingJournal` at a later version. -/
def compensatingOperation (version : Nat) (updatedAt : Int) : Operation :=
  { allowedOperation with
    state := .compensating
    version := version
    updatedAt := ⟨updatedAt⟩
    latestAttemptId := some (idOf "attempt-1")
    compensationId := some (idOf "first") }

def movedRecord (state : CompensationState) (version : Nat) (updatedAt : Int) : Compensation :=
  { sampleCompensation "first" with
    state := state
    version := version
    updatedAt := ⟨updatedAt⟩ }

/-- A worker claims the first attempt, the provider answers, and a verification is requested. -/
def requestedActions : List JournalAction :=
  compensatingActions ++
    [.transition (sampleClaim 5 "first" "compensation-attempt")] ++
    ((buildCompensateOutcomeCommand (sampleHandling "worker" "worker-audit" "verify-2")
      ⟨.progress .startCompensationVerification, "compensation_require_verification"⟩
      (compensatingOperation 5 4) (movedRecord .executing 2 7) undoneAttempt ⟨8⟩
      ⟨8⟩).toOption.map JournalAction.transition).toList

def requestedJournal : Store := run idOf .empty requestedActions

/-- A recovery that loaded the attempt while it was STARTED gives it up; the next one returns the
compensation and requests a verification of its own at the same reading of the clock. -/
def staleActions : List JournalAction :=
  requestedActions ++
    [.transition (handlingCommand (sampleHandling "recovery" "recovery-audit" "unused")
       (compensatingOperation 5 4) compensationActor ⟨8⟩ "compensation_leftover_unknown"
       (idOf "recovery")
       (.compensationOutcomeUnknown none (idOf "recovery-audit") (idOf "recovery") none)),
     .transition (.operation (commandOn { compensatingOperation 6 8 with
       state := .compensationUnknown } compensationActor none ⟨8⟩ "unknown_verification_supported"
       (idOf "resume") (.compensationUnknownRetry (idOf "resume")))),
     .transition (.startCompensationVerification
       { operationId := idOf "op"
         expectedOperationVersion := 7
         compensationId := idOf "first"
         expectedCompensationVersion := 5
         completedCompensationAttempt := none
         verificationRequest := buildCompensationVerificationRequest (compensatingOperation 7 8)
           (movedRecord .executing 5 8) undoneAttempt (idOf "verify-3") ⟨8⟩
         occurredAt := ⟨8⟩
         actor := some compensationActor
         correlationId := none
         reasonCode := "unknown_verification_supported"
         attemptAuditEventId := none
         verificationAuditEventId := idOf "resume-audit"
         outboxEventId := idOf "resume-audit" })]

def staleJournal : Store := run idOf .empty staleActions

def sampleAnswer : VerificationResult where
  contractVersion := contractVersion
  verificationId := idOf "verify-2"
  outcome := .applied
  evidence :=
    { source := .readBack
      provider := "mail"
      observedAt := ⟨9⟩
      providerStatus := none
      providerRequestId := none
      externalOperationId := none
      externalResourceIds := []
      evidenceFields := .object []
      rawReference := none }
  error := none
  completedAt := ⟨9⟩

/-- The verify step on the answer to the pending verification. -/
def sampleVerified (record : Compensation) : Decision :=
  .compensationVerification record sampleAnswer sampleDescriptor
    (sampleHandling "verifier" "verifier-audit" "unused") ⟨9⟩ ⟨9⟩

/-- The command it builds on the operation at a version. -/
def sampleVerifiedCommand (version : Nat) (updatedAt : Int) : TransitionCommand :=
  .operation (commandOn (compensatingOperation version updatedAt) compensationActor none ⟨9⟩
    "verification_applied" (idOf "verifier")
    (.compensationApplied undoneAttempt (idOf "verifier-audit") (some sampleAnswer)))

theorem sampleVerified_fresh {record : Compensation} {version : Nat} {updatedAt : Int}
    (built : (sampleVerified record).command s (compensatingOperation version updatedAt) ⟨9⟩ =
      some (sampleVerifiedCommand version updatedAt))
    (audits : FreshAuditIds s [idOf "verifier-audit", idOf "verifier"]) :
    (sampleVerified record).Fresh s (compensatingOperation version updatedAt) ⟨9⟩ := by
  refine ⟨fun _ => ⟨_, rfl⟩, fun command is => ?_⟩
  rw [built, Option.some.injEq] at is
  subst is
  refine ⟨fun _ _ => audits, ?_, ?_⟩ <;>
  · rintro _ ⟨⟩

theorem decision_admitted_requested :
    (sampleVerified (movedRecord .verifying 3 8)).Admitted requestedJournal
      (compensatingOperation 5 4) ⟨9⟩ := by
  have found : requestedJournal.operation? (idOf "op") = some (compensatingOperation 5 4) := by
    decide +kernel
  have pending :
      findPendingCompensationVerification (requestedJournal.listVerifications (idOf "op")) =
      some (buildCompensationVerificationRequest (compensatingOperation 5 4)
        (movedRecord .executing 2 7) undoneAttempt (idOf "verify-2") ⟨8⟩, none) := by decide +kernel
  have last : (requestedJournal.listCompensationAttempts (idOf "first")).getLast? =
      some undoneAttempt := by decide +kernel
  have built : (sampleVerified (movedRecord .verifying 3 8)).command requestedJournal
      (compensatingOperation 5 4) ⟨9⟩ = some (sampleVerifiedCommand 5 4) := by decide +kernel
  have arises : (sampleVerified (movedRecord .verifying 3 8)).Arises requestedJournal
      (compensatingOperation 5 4) :=
    ⟨⟨rfl, by decide +kernel⟩, rfl, _, pending, rfl⟩
  have decided : policy? requestedJournal (compensatingOperation 5 4) =
      some samplePolicyDecision := by decide +kernel
  have action : (reconciledCompensation requestedJournal (compensatingOperation 5 4)
      samplePolicyDecision.obligations (movedRecord .verifying 3 8) sampleAnswer
      sampleDescriptor).action = .markSucceeded := by decide +kernel
  have reachable : Reachable idOf requestedJournal := ⟨requestedActions, rfl⟩
  refine (decision_admitted_iff reachable found arises
    (sampleVerified_fresh built (by decide +kernel))).mpr ?_
  intro policy request named asked
  rw [decided, Option.some.injEq] at named
  rw [show (compensatingOperation 5 4).operationId = idOf "op" from rfl, pending, Option.some.injEq,
    Prod.mk.injEq] at asked
  obtain ⟨rfl, -⟩ := asked
  subst named
  simp only [action]
  exact ⟨⟨rfl, undoneAttempt, last, rfl⟩, by simp, by decide, fun _ => by decide⟩

/-- The recovery that gave the attempt up left its request pending, and it is the one found. -/
theorem stale_verification_rejected :
    Reachable idOf staleJournal ∧
      staleJournal.operation? (idOf "op") = some (compensatingOperation 7 8) ∧
      (sampleVerified (movedRecord .verifying 6 8)).Arises staleJournal
        (compensatingOperation 7 8) ∧
      (sampleVerified (movedRecord .verifying 6 8)).Fresh staleJournal
        (compensatingOperation 7 8) ⟨9⟩ ∧
      ¬(sampleVerified (movedRecord .verifying 6 8)).Admitted staleJournal
        (compensatingOperation 7 8) ⟨9⟩ := by
  have built : (sampleVerified (movedRecord .verifying 6 8)).command staleJournal
      (compensatingOperation 7 8) ⟨9⟩ = some (sampleVerifiedCommand 7 8) := by decide +kernel
  have pending : findPendingCompensationVerification (staleJournal.listVerifications (idOf "op")) =
      some (buildCompensationVerificationRequest (compensatingOperation 5 4)
        (movedRecord .executing 2 7) undoneAttempt (idOf "verify-2") ⟨8⟩, none) := by decide +kernel
  refine ⟨⟨staleActions, rfl⟩, by decide +kernel, ⟨⟨rfl, by decide +kernel⟩, rfl, _, pending, rfl⟩,
    sampleVerified_fresh built (by decide +kernel), ?_⟩
  rintro ⟨command, is, result, s', ran, applied⟩
  rw [built, Option.some.injEq] at is
  subst is
  have refused : ((apply (sampleVerifiedCommand 7 8) staleJournal).toOption.map
      fun ended => ended.1.outcome) = some .rejected := by decide +kernel
  rw [ran] at refused
  simp [Except.toOption, applied] at refused

end Stateback.Invariants
