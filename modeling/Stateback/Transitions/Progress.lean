import Stateback.Transitions.Commits
import Stateback.Transitions.Ownership
/-!
# Progress commands

The four commands that move a compensation record under an operation that stays COMPENSATING.
An applied one passed its checks and wrote what `Progress.Made` says.  It is applied exactly when
the checks pass, the clock is not behind the record and every id it inserts is new; attempt
numbers never collide where the attempts of each record are numbered within their count.
-/

namespace Stateback.Transitions

open Stateback.Domain Stateback.Persistence KeyedTable KeyedTable.Table Transaction

/-- The attempts of every record are numbered within their count. -/
def AttemptsNumbered (s : Store) : Prop :=
  ∀ row ∈ s.compensationAttempts.rows,
    row.attemptNumber ≤ (s.compensationAttemptsOf row.compensationId).length

/-- The record's clock and the ids a progress command inserts are ones the journal takes. -/
structure ProgressAcceptable (compensation : Compensation) (occurredAt : UtcTimestamp)
    (attemptId? verificationId? : Option OpaqueId) (auditIds : List OpaqueId)
    (outboxEventId? : Option OpaqueId) (s : Store) : Prop where
  clock : compensation.createdAt.value ≤ occurredAt.value
  attempt : ∀ id, attemptId? = some id → s.compensationAttempt? id = none
  verification : ∀ id, verificationId? = some id → s.verification? id = none
  audits : FreshAuditIds s auditIds
  outbox : ∀ id, outboxEventId? = some id → s.outboxEvent? id = none

/-- The checks of a progress command pass on the loaded rows, and the journal takes its ids. -/
def Progressing (s : Store) (loaded : Operation) (compensation : Compensation) :
    TransitionCommand → Prop
  | .claimCompensation command =>
    ProgressAllowed command.operationId command.expectedOperationVersion command.compensationId
        command.expectedCompensationVersion loaded compensation s ∧
      evaluateClaimCompensationPreconditions command loaded compensation
        (s.listCompensationAttempts compensation.compensationId) = none ∧
      ProgressAcceptable compensation command.occurredAt
        (some command.attempt.compensationAttemptId) none [command.attemptAuditEventId] none s
  | .claimCompensationRetryAttempt command =>
    ProgressAllowed command.operationId command.expectedOperationVersion command.compensationId
        command.expectedCompensationVersion loaded compensation s ∧
      evaluateClaimCompensationRetryAttemptPreconditions command loaded compensation
        (s.listCompensationAttempts compensation.compensationId) = none ∧
      ProgressAcceptable compensation command.occurredAt
        (some command.attempt.compensationAttemptId) none [command.attemptAuditEventId] none s
  | .startCompensationVerification command =>
    ProgressAllowed command.operationId command.expectedOperationVersion command.compensationId
        command.expectedCompensationVersion loaded compensation s ∧
      evaluateStartCompensationVerificationPreconditions command loaded compensation
        (s.listCompensationAttempts compensation.compensationId).getLast? = none ∧
      ∃ event, startVerificationEvent? command loaded compensation
          (s.nextSequence loaded.operationId) = some event ∧
        ProgressAcceptable compensation command.occurredAt none
          (some command.verificationRequest.verificationId) [event.auditEventId]
          (some command.outboxEventId) s
  | .retryCompensationAfterVerification command =>
    ProgressAllowed command.operationId command.expectedOperationVersion command.compensationId
        command.expectedCompensationVersion loaded compensation s ∧
      evaluateRetryCompensationAfterVerificationPreconditions command loaded compensation
        (s.listCompensationAttempts compensation.compensationId)
        (s.verification? command.verificationResult.verificationId) = none ∧
      ProgressAcceptable compensation command.occurredAt
        (some command.attempt.compensationAttemptId) none
        [command.verificationAuditEventId, command.attemptAuditEventId]
        (some command.outboxEventId) s
  | .create _ => False
  | .operation _ => False

theorem ProgressAllowed.unique {operationId compensationId : OpaqueId}
    {operationVersion compensationVersion : Int} {loaded loaded' : Operation}
    {compensation compensation' : Compensation} {s : Store}
    (first : ProgressAllowed operationId operationVersion compensationId compensationVersion
      loaded compensation s)
    (second : ProgressAllowed operationId operationVersion compensationId compensationVersion
      loaded' compensation' s) : loaded = loaded' ∧ compensation = compensation' :=
  ⟨Option.some.inj (first.found.symm.trans second.found),
    Option.some.inj (first.compensationFound.symm.trans second.compensationFound)⟩

theorem Progressing.allowed {s : Store} {command : TransitionCommand} {loaded : Operation}
    {compensation : Compensation} (progressing : Progressing s loaded compensation command) :
    ∃ operationId operationVersion compensationId compensationVersion,
      ProgressAllowed operationId operationVersion compensationId compensationVersion loaded
        compensation s := by
  cases command with
  | create => exact progressing.elim
  | operation => exact progressing.elim
  | claimCompensation => exact ⟨_, _, _, _, progressing.1⟩
  | startCompensationVerification => exact ⟨_, _, _, _, progressing.1⟩
  | claimCompensationRetryAttempt => exact ⟨_, _, _, _, progressing.1⟩
  | retryCompensationAfterVerification => exact ⟨_, _, _, _, progressing.1⟩

theorem Progressing.unique {s : Store} {command : TransitionCommand} {loaded loaded' : Operation}
    {compensation compensation' : Compensation}
    (first : Progressing s loaded compensation command)
    (second : Progressing s loaded' compensation' command) :
    loaded = loaded' ∧ compensation = compensation' := by
  cases command with
  | create => exact first.elim
  | operation => exact first.elim
  | claimCompensation => exact first.1.unique second.1
  | startCompensationVerification => exact first.1.unique second.1
  | claimCompensationRetryAttempt => exact first.1.unique second.1
  | retryCompensationAfterVerification => exact first.1.unique second.1

/-! ## The single writes -/

section

variable {s s' : Store} {loaded : Operation} {compensation : Compensation}

theorem number_unused (numbered : AttemptsNumbered s) {attempt : CompensationAttempt}
    (number : attempt.attemptNumber =
      (s.listCompensationAttempts attempt.compensationId).length + 1) :
    ∀ row ∈ s.compensationAttemptsOf attempt.compensationId,
      row.attemptNumber ≠ attempt.attemptNumber := by
  intro row member same
  obtain ⟨stored, owner⟩ := mem_select.mp member
  have bounded := numbered row stored
  rw [of_decide_eq_true owner, same, number, Store.listCompensationAttempts,
    List.length_insertionSort] at bounded
  omega

private theorem appendEvents_commits (s : Store) (events : List AuditEvent)
    {operationId : OpaqueId} (about : ∀ event ∈ events, event.operationId = operationId)
    (sequences : events.map (·.sequence) =
      List.range' (s.nextSequence operationId) events.length)
    (fresh : FreshAuditIds s (events.map (·.auditEventId))) :
    ∃ auditEvents, appendAll events s = .ok ((), { s with auditEvents }) := by
  have numbered : NumberedOn s operationId (s.nextSequence operationId) events :=
    ⟨about, sequences, fun event member => sequence_lt_nextSequence member⟩
  obtain ⟨s', appended⟩ := appendAll_commits numbered fresh
  obtain ⟨auditEvents, rfl, -⟩ := appendAll_ok appended
  exact ⟨auditEvents, appended⟩

/-! ## The commits -/

theorem commitClaim_commits (loaded : Operation) {progress : CompensationProgressKind}
    {expectedVersion : Int} {attempt : CompensationAttempt} {occurredAt : UtcTimestamp}
    {actor : Option PrincipalRef} {correlationId : Option String} {reasonCode : String}
    {attemptAuditEventId : OpaqueId}
    (found : s.compensation? compensation.compensationId = some compensation)
    (version : (compensation.version : Int) = expectedVersion)
    (acceptable : ProgressAcceptable compensation occurredAt
      (some attempt.compensationAttemptId) none [attemptAuditEventId] none s)
    (number : ∀ row ∈ s.compensationAttemptsOf attempt.compensationId,
      row.attemptNumber ≠ attempt.attemptNumber) :
    ∃ result s', commitClaim progress loaded compensation expectedVersion attempt occurredAt actor
      correlationId reasonCode attemptAuditEventId s = .ok (result, s') := by
  obtain ⟨t, inserted⟩ :=
    CompensationAttemptRepository.insert_commits (acceptable.attempt _ rfl) number
  let s₁ : Store := { s with compensationAttempts := t }
  have record : s₁.compensation? compensation.compensationId = some compensation := found
  obtain ⟨replaced, updated⟩ := stepRecord_commits .executing acceptable.clock record version
  let s₂ : Store := { s₁ with
    compensations := s.compensations.replace
      (steppedCompensation compensation .executing occurredAt) }
  obtain ⟨auditEvents, appended⟩ := appendEvents_commits s₂
    [progressEvent loaded (s₂.nextSequence loaded.operationId) attemptAuditEventId
      .compensationAttempted actor reasonCode (attemptedData progress compensation attempt)
      correlationId occurredAt] (by simp [progressEvent]) rfl acceptable.audits
  exact ⟨_, _, bind_ok.mpr ⟨(), s₁, inserted, bind_ok.mpr ⟨_, s₁, replaced,
    bind_ok.mpr ⟨(), s₂, updated, bind_ok.mpr ⟨s₂, s₂, rfl,
      bind_ok.mpr ⟨(), _, appended, rfl⟩⟩⟩⟩⟩⟩

theorem startVerificationEvent?_about {command : StartCompensationVerification} {sequence : Nat}
    {event : AuditEvent}
    (built : startVerificationEvent? command loaded compensation sequence = some event) :
    event.operationId = loaded.operationId ∧ event.sequence = sequence := by
  unfold startVerificationEvent? at built
  dsimp only at built
  split at built
  · cases id : command.attemptAuditEventId with
    | none => simp [id] at built
    | some attemptAuditEventId =>
      simp only [id, Option.map_some, Option.some.injEq] at built
      subst built
      exact ⟨rfl, rfl⟩
  · cases built
    exact ⟨rfl, rfl⟩

theorem commitStartVerification_commits {command : StartCompensationVerification}
    {loadedAttempt : Option CompensationAttempt} {event : AuditEvent}
    (found : s.compensation? compensation.compensationId = some compensation)
    (version : (compensation.version : Int) = command.expectedCompensationVersion)
    (completes : ∀ completed, startVerificationCompletion command loadedAttempt = some completed →
      completed.state = .completed ∧ ∃ row,
        s.compensationAttempt? completed.compensationAttemptId = some row ∧ row.state = .started)
    (built : startVerificationEvent? command loaded compensation
      (s.nextSequence loaded.operationId) = some event)
    (acceptable : ProgressAcceptable compensation command.occurredAt none
      (some command.verificationRequest.verificationId) [event.auditEventId]
      (some command.outboxEventId) s) :
    ∃ result s', commitStartVerification command loaded compensation loadedAttempt s =
      .ok (result, s') := by
  obtain ⟨t, completed⟩ := completeCompensationAttempt_commits completes
  let s₁ : Store := { s with compensationAttempts := t }
  have unused : s₁.verification? command.verificationRequest.verificationId = none :=
    acceptable.verification _ rfl
  obtain ⟨v, inserted⟩ := VerificationRepository.insertRequest_commits unused
  let s₂ : Store := { s₁ with verifications := v }
  have record : s₂.compensation? compensation.compensationId = some compensation := found
  obtain ⟨replaced, updated⟩ := stepRecord_commits .verifying acceptable.clock record version
  let s₃ : Store := { s₂ with
    compensations := s.compensations.replace
      (steppedCompensation compensation .verifying command.occurredAt) }
  obtain ⟨about, sequence⟩ := startVerificationEvent?_about built
  obtain ⟨auditEvents, appended⟩ := appendEvents_commits s₃ [event] (by simpa using about)
    (by rw [List.map_singleton, sequence]; rfl) acceptable.audits
  let s₄ : Store := { s₃ with auditEvents }
  have fresh : s₄.outboxEvent? (buildOutboxEvent command.outboxEventId loaded.operationId
      loaded.version .verify command.occurredAt command.correlationId).eventId = none :=
    acceptable.outbox _ rfl
  obtain ⟨outboxEvents, outboxed⟩ := OutboxRepository.insert_commits fresh
  exact ⟨_, _, bind_ok.mpr ⟨(), s₁, completed, bind_ok.mpr ⟨(), s₂, inserted,
    bind_ok.mpr ⟨_, s₂, replaced, bind_ok.mpr ⟨(), s₃, updated, bind_ok.mpr ⟨s₃, s₃, rfl,
      bind_ok.mpr ⟨event, s₃, requireSome_ok.mpr ⟨built, rfl⟩, bind_ok.mpr ⟨(), s₄, appended,
        bind_ok.mpr ⟨(), _, outboxed, rfl⟩⟩⟩⟩⟩⟩⟩⟩⟩

theorem commitRetryAfterVerification_commits (loaded : Operation)
    {command : RetryCompensationAfterVerification}
    {existing : Option VerificationRow}
    (found : s.compensation? compensation.compensationId = some compensation)
    (version : (compensation.version : Int) = command.expectedCompensationVersion)
    (stores : ∀ result, retryResultToComplete command existing = some result → ∃ request,
      s.verification? result.verificationId = some (request, none))
    (number : ∀ row ∈ s.compensationAttemptsOf command.attempt.compensationId,
      row.attemptNumber ≠ command.attempt.attemptNumber)
    (acceptable : ProgressAcceptable compensation command.occurredAt
      (some command.attempt.compensationAttemptId) none
      [command.verificationAuditEventId, command.attemptAuditEventId]
      (some command.outboxEventId) s) :
    ∃ result s', commitRetryAfterVerification command loaded compensation existing s =
      .ok (result, s') := by
  obtain ⟨v, -, completed⟩ := completeResult_commits stores
  let s₁ : Store := { s with verifications := v }
  have unused : s₁.compensationAttempt? command.attempt.compensationAttemptId = none :=
    acceptable.attempt _ rfl
  obtain ⟨t, inserted⟩ := CompensationAttemptRepository.insert_commits unused number
  let s₂ : Store := { s₁ with compensationAttempts := t }
  have record : s₂.compensation? compensation.compensationId = some compensation := found
  obtain ⟨replaced, updated⟩ := stepRecord_commits .executing acceptable.clock record version
  let s₃ : Store := { s₂ with
    compensations := s.compensations.replace
      (steppedCompensation compensation .executing command.occurredAt) }
  obtain ⟨auditEvents, appended⟩ := appendEvents_commits s₃
    [retryVerificationEvent command loaded (s₃.nextSequence loaded.operationId),
      progressEvent loaded (s₃.nextSequence loaded.operationId + 1)
        command.attemptAuditEventId .compensationAttempted command.actor command.reasonCode
        (attemptedData .retryCompensationAfterVerification compensation command.attempt)
        command.correlationId command.occurredAt]
    (by simp [progressEvent, retryVerificationEvent]) rfl acceptable.audits
  let s₄ : Store := { s₃ with auditEvents }
  have fresh : s₄.outboxEvent? (buildOutboxEvent command.outboxEventId loaded.operationId
      loaded.version .compensate command.occurredAt command.correlationId).eventId = none :=
    acceptable.outbox _ rfl
  obtain ⟨outboxEvents, outboxed⟩ := OutboxRepository.insert_commits fresh
  exact ⟨_, _, bind_ok.mpr ⟨(), s₁, completed, bind_ok.mpr ⟨(), s₂, inserted,
    bind_ok.mpr ⟨_, s₂, replaced, bind_ok.mpr ⟨(), s₃, updated, bind_ok.mpr ⟨s₃, s₃, rfl,
      bind_ok.mpr ⟨(), s₄, appended, bind_ok.mpr ⟨(), _, outboxed, rfl⟩⟩⟩⟩⟩⟩⟩⟩

theorem ProgressMade.acceptable {newState : CompensationState} {occurredAt : UtcTimestamp}
    {completed? attempt? : Option CompensationAttempt} {request? : Option VerificationRequest}
    {result? : Option VerificationResult} {events : List AuditEvent}
    {outbox? : Option OutboxEvent}
    (made : ProgressMade loaded compensation newState occurredAt completed? attempt? request?
      result? events outbox? s s') :
    ProgressAcceptable compensation occurredAt (attempt?.map (·.compensationAttemptId))
      (request?.map (·.verificationId)) (events.map (·.auditEventId))
      (outbox?.map (·.eventId)) s := by
  refine ⟨made.compensations.1, ?_, ?_, freshAuditIds_of_appended made.auditEvents, ?_⟩
  · intro id claimed
    obtain ⟨attempt, rfl, rfl⟩ := Option.map_eq_some_iff.mp claimed
    obtain ⟨mid, completed, inserted⟩ := made.compensationAttempts
    have unused : mid.find? attempt.compensationAttemptId = none := inserted.fresh
    cases completed? with
    | none =>
      obtain rfl : mid = s.compensationAttempts := completed
      exact unused
    | some ended =>
      obtain ⟨-, row, found, -, rfl⟩ := completed
      rw [find?_replace] at unused
      split at unused
      · exact Option.map_eq_none_iff.mp unused
      · exact unused
  · intro id asked
    obtain ⟨request, rfl, rfl⟩ := Option.map_eq_some_iff.mp asked
    obtain ⟨mid, inserted, -⟩ := made.verifications
    exact inserted.fresh
  · intro id scheduled
    obtain ⟨event, rfl, rfl⟩ := Option.map_eq_some_iff.mp scheduled
    exact made.outboxEvents.fresh

end

/-! ## What an applied command did -/

/-- The audit events of a progress command: numbered on, about the loaded operation, staying in
COMPENSATING and recording no transition. -/
structure ProgressEvents (loaded : Operation) (sequence : Nat) (events : List AuditEvent) :
    Prop where
  sequences : events.map (·.sequence) = List.range' sequence events.length
  about : ∀ event ∈ events, event.operationId = loaded.operationId
  quiet : ∀ event ∈ events, event.eventType ≠ .operationTransitioned
  stays : ∀ event ∈ events, event.fromState = some .compensating

/-- What a progress command loads and writes. -/
structure Progress where
  loaded : Operation
  compensation : Compensation
  newState : CompensationState
  occurredAt : UtcTimestamp
  completed? : Option CompensationAttempt
  attempt? : Option CompensationAttempt
  request? : Option VerificationRequest
  result? : Option VerificationResult
  events : List AuditEvent
  outbox? : Option OutboxEvent

structure Progress.Made (p : Progress) (s s' : Store) : Prop where
  found : s.operation? p.loaded.operationId = some p.loaded
  compensating : p.loaded.state = .compensating
  record : s.compensation? p.compensation.compensationId = some p.compensation
  parent : p.compensation.originalOperationId = p.loaded.operationId
  checked : ProgressChecked p.loaded p.compensation p.newState p.completed? p.attempt?
    p.request? p.result? p.outbox? s
  logged : ProgressEvents p.loaded (s.nextSequence p.loaded.operationId) p.events
  written : ProgressMade p.loaded p.compensation p.newState p.occurredAt p.completed? p.attempt?
    p.request? p.result? p.events p.outbox? s s'

private theorem ProgressEvents.singleton {loaded : Operation} {sequence : Nat}
    {auditEventId : OpaqueId} {eventType : AuditEventType} {actor : Option PrincipalRef}
    {reasonCode : String} {data : JsonValue} {correlationId : Option String}
    {createdAt : UtcTimestamp} (quiet : eventType ≠ .operationTransitioned) :
    ProgressEvents loaded sequence
      [progressEvent loaded sequence auditEventId eventType actor reasonCode data correlationId
        createdAt] where
  sequences := rfl
  about := by simp [progressEvent]
  quiet := by simpa [progressEvent] using quiet
  stays := by simp [progressEvent]

private theorem startVerificationEvent_logged {command : StartCompensationVerification}
    {loaded : Operation} {compensation : Compensation} {sequence : Nat} {event : AuditEvent}
    (built : startVerificationEvent? command loaded compensation sequence = some event) :
    ProgressEvents loaded sequence [event] := by
  unfold startVerificationEvent? at built
  dsimp only at built
  split at built
  · cases id : command.attemptAuditEventId with
    | none => simp [id] at built
    | some attemptAuditEventId =>
      simp only [id, Option.map_some, Option.some.injEq] at built
      subst built
      exact .singleton nofun
  · cases built
    exact .singleton nofun

private theorem retryEvents_logged {command : RetryCompensationAfterVerification}
    {loaded : Operation} {compensation : Compensation} {sequence : Nat} :
    ProgressEvents loaded sequence
      [retryVerificationEvent command loaded sequence,
        progressEvent loaded (sequence + 1) command.attemptAuditEventId .compensationAttempted
          command.actor command.reasonCode
          (attemptedData .retryCompensationAfterVerification compensation command.attempt)
          command.correlationId command.occurredAt] where
  sequences := rfl
  about := by simp [retryVerificationEvent, progressEvent]
  quiet := by simp [retryVerificationEvent, progressEvent]
  stays := by simp [retryVerificationEvent, progressEvent]

/-- A progress command that returned: applied, on the rows it was checked against, or without
a write. -/
def ProgressRan (command : TransitionCommand) (s s' : Store) (result : TransitionResult) : Prop :=
  (∃ progress : Progress,
      Progressing s progress.loaded progress.compensation command ∧ progress.Made s s' ∧
      result.outcome = .applied ∧ result.operation = some progress.loaded ∧
      result.compensation = some (steppedCompensation progress.compensation progress.newState
        progress.occurredAt)) ∨
    (s' = s ∧ result.outcome ≠ .applied)

section

variable {s s' : Store} {loaded : Operation} {compensation : Compensation}
  {result : TransitionResult}

/-- An applied progress command, from its guards, its checks and its writes. -/
private theorem progressMade {operationId compensationId : OpaqueId}
    {operationVersion compensationVersion : Int} {p : Progress}
    (allowed : ProgressAllowed operationId operationVersion compensationId compensationVersion
      p.loaded p.compensation s)
    (checked : ProgressChecked p.loaded p.compensation p.newState p.completed? p.attempt?
      p.request? p.result? p.outbox? s)
    (logged : ProgressEvents p.loaded (s.nextSequence p.loaded.operationId) p.events)
    (written : ProgressMade p.loaded p.compensation p.newState p.occurredAt p.completed?
      p.attempt? p.request? p.result? p.events p.outbox? s s') : p.Made s s' where
  found := find?_of_mem (find?_some allowed.found).1
  compensating := allowed.state
  record := find?_of_mem (find?_some allowed.compensationFound).1
  parent := allowed.parent
  checked := checked
  logged := logged
  written := written

theorem applyClaimCompensation_ran {command : ClaimCompensationExecution}
    (ran : applyClaimCompensation command s = .ok (result, s')) :
    ProgressRan (.claimCompensation command) s s' result := by
  obtain ⟨loaded, compensation, allowed, passed, made, answered⟩ | ⟨same, refused⟩ |
      ⟨same, refused⟩ := applyClaimCompensation_cases ran
  · exact .inl ⟨⟨_, _, _, _, _, _, _, _, _, _⟩, ⟨allowed, passed, made.acceptable⟩,
      progressMade allowed (claimCompensation_checked passed).2 (.singleton (by decide)) made,
      answered⟩
  · exact .inr ⟨same, by rw [refused]; nofun⟩
  · exact .inr ⟨same, by rw [refused]; nofun⟩

theorem applyStartCompensationVerification_ran {command : StartCompensationVerification}
    (ran : applyStartCompensationVerification command s = .ok (result, s')) :
    ProgressRan (.startCompensationVerification command) s s' result := by
  obtain ⟨loaded, compensation, event, allowed, passed, built, made, answered⟩ |
      ⟨same, refused⟩ | ⟨same, refused⟩ := applyStartCompensationVerification_cases ran
  · exact .inl ⟨⟨_, _, _, _, _, _, _, _, _, _⟩,
      ⟨allowed, passed, event, built, made.acceptable⟩,
      progressMade allowed (startCompensationVerification_checked passed)
        (startVerificationEvent_logged built) made, answered⟩
  · exact .inr ⟨same, by rw [refused]; nofun⟩
  · exact .inr ⟨same, by rw [refused]; nofun⟩

theorem applyClaimCompensationRetryAttempt_ran {command : ClaimCompensationRetryAttempt}
    (ran : applyClaimCompensationRetryAttempt command s = .ok (result, s')) :
    ProgressRan (.claimCompensationRetryAttempt command) s s' result := by
  obtain ⟨loaded, compensation, allowed, passed, made, answered⟩ | ⟨same, refused⟩ |
      ⟨same, refused⟩ := applyClaimCompensationRetryAttempt_cases ran
  · exact .inl ⟨⟨_, _, _, _, _, _, _, _, _, _⟩, ⟨allowed, passed, made.acceptable⟩,
      progressMade allowed (claimCompensationRetry_checked passed) (.singleton (by decide)) made,
      answered⟩
  · exact .inr ⟨same, by rw [refused]; nofun⟩
  · exact .inr ⟨same, by rw [refused]; nofun⟩

theorem applyRetryCompensationAfterVerification_ran
    {command : RetryCompensationAfterVerification}
    (ran : applyRetryCompensationAfterVerification command s = .ok (result, s')) :
    ProgressRan (.retryCompensationAfterVerification command) s s' result := by
  obtain ⟨loaded, compensation, allowed, passed, made, answered⟩ | ⟨same, refused⟩ |
      ⟨same, refused⟩ := applyRetryCompensationAfterVerification_cases ran
  · exact .inl ⟨⟨_, _, _, _, _, _, _, _, _, _⟩, ⟨allowed, passed, made.acceptable⟩,
      progressMade allowed (retryCompensationAfterVerification_checked passed) retryEvents_logged
        made, answered⟩
  · exact .inr ⟨same, by rw [refused]; nofun⟩
  · exact .inr ⟨same, by rw [refused]; nofun⟩

/-- Past its guards a progress method runs its own branches. -/
theorem withCompensation_allowed {progress : CompensationProgressKind}
    {operationId compensationId : OpaqueId} {operationVersion compensationVersion : Int}
    (allowed : ProgressAllowed operationId operationVersion compensationId compensationVersion
      loaded compensation s) (next : Operation → Compensation → Uow TransitionResult) :
    withCompensation progress operationId operationVersion compensationId next s =
      next loaded compensation s := by
  unfold withCompensation
  rw [allowed.found]
  dsimp only
  rw [if_neg (not_not_intro allowed.version), if_neg (not_not_intro allowed.state),
    allowed.compensationFound]
  dsimp only
  rw [if_neg (not_not_intro allowed.parent)]

/-- A progress command whose checks pass is applied. -/
theorem apply_of_progressing {command : TransitionCommand} (numbered : AttemptsNumbered s)
    (progressing : Progressing s loaded compensation command) :
    ∃ result s', apply command s = .ok (result, s') ∧ result.outcome = .applied := by
  cases command with
  | create => exact progressing.elim
  | operation => exact progressing.elim
  | claimCompensation command =>
    obtain ⟨allowed, passed, acceptable⟩ := progressing
    have version := allowed.compensationVersion
    have record := find?_of_mem (find?_some allowed.compensationFound).1
    obtain ⟨-, checked⟩ := claimCompensation_checked (s := s) passed
    obtain ⟨owner, -, number⟩ := checked.attempt _ rfl
    obtain ⟨result, s', ran⟩ := commitClaim_commits loaded record version acceptable
      (number_unused numbered (owner ▸ number))
    refine ⟨result, s', ?_, (commitClaim_ok ran).2.1⟩
    simp only [apply, applyClaimCompensation]
    rw [withCompensation_allowed allowed, if_neg (by omega), if_neg (not_not_intro version), passed]
    exact ran
  | claimCompensationRetryAttempt command =>
    obtain ⟨allowed, passed, acceptable⟩ := progressing
    have version := allowed.compensationVersion
    have record := find?_of_mem (find?_some allowed.compensationFound).1
    have checked := claimCompensationRetry_checked passed
    obtain ⟨owner, -, number⟩ := checked.attempt _ rfl
    obtain ⟨result, s', ran⟩ := commitClaim_commits loaded record version acceptable
      (number_unused numbered (owner ▸ number))
    refine ⟨result, s', ?_, (commitClaim_ok ran).2.1⟩
    simp only [apply, applyClaimCompensationRetryAttempt]
    rw [withCompensation_allowed allowed, if_neg (by omega), if_neg (not_not_intro version), passed]
    exact ran
  | startCompensationVerification command =>
    obtain ⟨allowed, passed, event, built, acceptable⟩ := progressing
    have version := allowed.compensationVersion
    have record := find?_of_mem (find?_some allowed.compensationFound).1
    have checked := startCompensationVerification_checked passed
    obtain ⟨result, s', ran⟩ := commitStartVerification_commits record version
      (fun completed writes => by
        obtain ⟨ended, row, found, started, -⟩ := checked.completed completed writes
        exact ⟨ended, row, found, started⟩) built acceptable
    obtain ⟨-, -, -, applied, -⟩ := commitStartVerification_ok ran
    refine ⟨result, s', ?_, applied⟩
    simp only [apply, applyStartCompensationVerification]
    rw [withCompensation_allowed allowed, if_neg (by omega), if_neg (not_not_intro version), passed]
    exact ran
  | retryCompensationAfterVerification command =>
    obtain ⟨allowed, passed, acceptable⟩ := progressing
    have version := allowed.compensationVersion
    have record := find?_of_mem (find?_some allowed.compensationFound).1
    have checked := retryCompensationAfterVerification_checked passed
    obtain ⟨owner, -, number⟩ := checked.attempt _ rfl
    obtain ⟨result, s', ran⟩ := commitRetryAfterVerification_commits loaded record
      version (fun result writes => by
        obtain ⟨request, found, -⟩ := checked.result result writes
        exact ⟨request, found⟩) (number_unused numbered (owner ▸ number)) acceptable
    refine ⟨result, s', ?_, (commitRetryAfterVerification_ok ran).2.1⟩
    simp only [apply, applyRetryCompensationAfterVerification]
    rw [withCompensation_allowed allowed, if_neg (by omega), if_neg (not_not_intro version), passed]
    exact ran

/-- A progress command that was applied, with what it wrote. -/
theorem progressed_of_applied {command : TransitionCommand}
    (progressing : Progressing s loaded compensation command)
    (ran : apply command s = .ok (result, s')) (applied : result.outcome = .applied) :
    ∃ progress : Progress, progress.loaded = loaded ∧ progress.compensation = compensation ∧
      progress.Made s s' := by
  have ended : ProgressRan command s s' result := by
    cases command with
    | create => exact progressing.elim
    | operation => exact progressing.elim
    | claimCompensation => exact applyClaimCompensation_ran ran
    | startCompensationVerification => exact applyStartCompensationVerification_ran ran
    | claimCompensationRetryAttempt => exact applyClaimCompensationRetryAttempt_ran ran
    | retryCompensationAfterVerification => exact applyRetryCompensationAfterVerification_ran ran
  obtain ⟨progress, checked, made, -⟩ | ⟨-, refused⟩ := ended
  · obtain ⟨same, record⟩ := checked.unique progressing
    exact ⟨progress, same, record, made⟩
  · exact absurd applied refused

end

end Stateback.Transitions
