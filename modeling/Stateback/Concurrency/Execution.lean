import Stateback.Concurrency.Discipline
import Stateback.Recovery.Operator
/-!
# Execution and recovery within the budgets

The runtime counts attempts by the number of the operation's latest one, recovery by the last one
listed, and inconclusive verifications by the answers stored so far.  Each compares its count with
the cap before it submits; the version the command names keeps the count current.
-/

namespace Stateback.Concurrency

open Domain Persistence Transitions Providers Stateback.Runtime Recovery Process Transaction
open KeyedTable.Table Invariants
open Compensation (policy? decideExecution decideExecution_ok executionTransition_decides)

variable {uuid5 : String → OpaqueId} {requests : Requests} {s s' last : Store}
  {registry : CapabilityRegistry}

/-! ## Runtime -/

/-- The operation names the attempt as its latest, and it is stored under its number. -/
def LatestAttempt (s : Store) (op : Operation) (attempt : ExecutionAttempt) : Prop :=
  op.latestAttemptId = some attempt.attemptId ∧
    ∃ row, s.attempt? attempt.attemptId = some row ∧ row.attemptNumber = attempt.attemptNumber

theorem LatestAttempt.later {op : Operation} {attempt : ExecutionAttempt}
    (latest : LatestAttempt s op attempt) (later : Later s s') : LatestAttempt s' op attempt := by
  obtain ⟨named, row, found, number⟩ := latest
  obtain ⟨row', there, -, -, number'⟩ := later.numbers.find? (·.1) found
  exact ⟨named, row', there, number'.trans number⟩

theorem LatestAttempt.attempts {op : Operation} {attempt : ExecutionAttempt}
    (latest : LatestAttempt s op attempt) (reachable : Reachable uuid5 s)
    (found : s.operation? op.operationId = some op) :
    (s.attemptsOf op.operationId).length ≤ attempt.attemptNumber := by
  obtain ⟨named, row, stored, number⟩ := latest
  have key : row.attemptId = attempt.attemptId := (find?_some stored).2
  rw [← key] at named stored
  exact number ▸ attemptsOf_le_latest reachable found named stored

theorem decideExecutionKind_spends (outcome : EffectOutcome) (descriptor : EffectDescriptor)
    (obligations : PolicyObligations) (attemptNumber : Nat) (verdict : RetrySafetyVerdict) :
    let decision := decideExecutionKind outcome descriptor obligations attemptNumber verdict
    decision.kind ≠ .verificationInconclusive ∧
      (decision.kind ∈ retryKinds → (attemptNumber : Int) < maxAutomaticAttempts obligations) := by
  cases outcome with
  | unknown => exact ⟨nofun, by simp [decideExecutionKind, retryKinds]⟩
  | applied =>
    dsimp only [decideExecutionKind]
    split <;> simp [retryKinds]
  | notApplied =>
    dsimp only [decideExecutionKind]
    split
    next within => exact ⟨nofun, fun _ => within.2⟩
    next => simp [retryKinds]

theorem executionBody_kind {kind : TransitionKind} {op : Operation} {completed : ExecutionAttempt}
    {descriptor : EffectDescriptor} {occurredAt : UtcTimestamp} {ids : RecoverIds}
    {body : CommandBody}
    (built : executionBody kind op completed descriptor occurredAt ids = .ok body) :
    body.kind = kind := by
  cases kind <;> cases built <;> rfl

/-- The command an execution is settled by retries only below the cap. -/
theorem decideExecution_spends {op : Operation} {obligations : PolicyObligations}
    {completed : ExecutionAttempt} {descriptor : EffectDescriptor} {actor : Option PrincipalRef}
    {correlationId : Option String} {ids : RecoverIds} {now occurredAt : UtcTimestamp}
    {command : OperationCommand}
    (built : decideExecution s op obligations completed descriptor actor correlationId ids now
      occurredAt = .ok command) :
    (command.operationId = op.operationId ∧ command.expectedVersion = op.version) ∧
      command.kind ≠ .verificationInconclusive ∧
      (command.kind ∈ retryKinds →
        (completed.attemptNumber : Int) < maxAutomaticAttempts obligations) := by
  obtain ⟨outcome, verdict, made, about, version⟩ := decideExecution_ok built
  have kind := executionBody_kind made
  rw [OperationCommand.kind, kind]
  exact ⟨⟨about, version⟩, decideExecutionKind_spends ..⟩

/-- A command on an operation as it was read, against the decision that was read. -/
theorem disciplined_of_read {command : OperationCommand} {op : Operation} {policy : PolicyDecision}
    (seen : Seen s op) (named : policy? s op = some policy)
    (about : command.operationId = op.operationId) (version : command.expectedVersion = op.version)
    (meets : s.operation? op.operationId = some op →
      (command.kind ∈ retryKinds → ((s.attemptsOf op.operationId).length : Int) + 1 ≤
        maxAutomaticAttempts policy.obligations) ∧
      (command.kind = .verificationInconclusive → InconclusivesWithin
        (movesBetween s op.operationId .verifying .unknown + 1) policy.obligations)) :
    OperationDisciplined requests s command := by
  intro loaded decision found current decided
  rw [about] at found
  rw [version] at current
  obtain rfl := seen.current found current
  obtain rfl := policy?_decided named decided
  obtain ⟨retries, inconclusive⟩ := meets found
  refine ⟨fun retry => ?_, inconclusive⟩
  have within := retries retry
  omega

theorem frugal_applyExecutionKind {op : Operation} {completed : ExecutionAttempt}
    {actor : Option PrincipalRef} {correlationId : Option String} {ids : RecoverIds}
    {evidence : ExecutionEvidence} (seen : Seen last op)
    (latest : LatestAttempt last op completed) :
    Frugal uuid5 requests Anything
      (applyExecutionKind registry op completed actor correlationId ids evidence) last := by
  unfold applyExecutionKind
  cases named : op.currentPolicyDecisionId with
  | none => trivial
  | some policyDecisionId =>
    dsimp only
    refine frugal_lift fun descriptor _ => ?_
    refine frugal_now fun s₁ now _ later₁ => ?_
    refine frugal_now fun s₂ occurredAt _ later₂ => ?_
    have later₂ := later₁.trans later₂
    refine assures_commit (fun s₃ result s' inv later₃ ran => ?_) fun _ _ _ _ _ => trivial
    have later₃ := later₂.trans later₃
    refine ⟨?_, fun _ _ => ?_⟩
    · cases found : s₃.policyDecision? policyDecisionId with
      | none =>
        simp only [executionTransition, found, Except.ok.injEq, Prod.mk.injEq] at ran
        exact ran.2 ▸ budgetContract_sound.read inv
      | some policy =>
        rw [executionTransition_decides found] at ran
        split at ran
        · cases ran
        next command built =>
        obtain ⟨applied, done, -⟩ := map_ok.mp ran
        obtain ⟨⟨about, version⟩, conclusive, below⟩ := decideExecution_spends built
        have disciplined : OperationDisciplined requests s₃ command := by
          have read : policy? s₃ op = some policy := by
            rw [policy?, named, Option.bind_some, found]
          refine disciplined_of_read (seen.later later₃) read about version fun current => ?_
          have counted := (latest.later later₃).attempts inv.1 current
          refine ⟨fun retry => ?_, fun same => absurd same conclusive⟩
          have within := below retry
          omega
        exact guar_applyOperation inv done disciplined
    · cases result with
      | none => trivial
      | some result =>
        dsimp only
        split <;> trivial

/-- A claim that was applied left its operation and its attempt. -/
theorem claimed_latest {command : ExecuteCommand} {op claimed : Operation}
    {started : ExecutionAttempt} {result : TransitionResult}
    (ran : applyOperation (claimCommand command op started) s = .ok (result, s'))
    (applied : result.outcome = .applied) (named : result.operation = some claimed) :
    LatestAttempt s' claimed started := by
  obtain ⟨loaded, made, -, operation⟩ | ⟨_, -, -, -, -, refused, -⟩ | ⟨_, -, -, refused, -⟩ :=
    applyOperation_cases ran
  · obtain rfl := Option.some.inj (operation.symm.trans named)
    have carried : (claimCommand command op started).body.claimedAttempt? = some started := rfl
    obtain ⟨row, stored, key, -, number, -⟩ := claimedAttempt_numbered made carried
    exact ⟨rfl, row, find?_eq_some_iff.mpr ⟨stored, key⟩, number⟩
  · rw [applied] at refused
    cases refused
  · rw [applied] at refused
    cases refused

theorem frugal_executionEvidence {provider : String} {ended : CallEnd ExecutionEvidence} :
    Frugal uuid5 requests Anything (executionEvidence provider ended) last := by
  cases ended with
  | raisedOther typeName => exact frugal_now fun _ _ _ _ => trivial
  | _ => trivial

theorem frugal_recordExecution {command : ExecuteCommand} {claimed : Operation}
    {started : ExecutionAttempt} {evidence : ExecutionEvidence} (seen : Seen last claimed)
    (latest : LatestAttempt last claimed started) :
    Frugal uuid5 requests Anything (recordExecution registry command claimed started evidence)
      last := by
  unfold recordExecution
  refine frugal_now fun s₁ completedAt _ later₁ => ?_
  refine frugal_lift fun completed built => ?_
  have same : completed.attemptId = started.attemptId ∧
      completed.attemptNumber = started.attemptNumber := by
    unfold buildCompletedAttempt at built
    split at built <;> cases built
    exact ⟨rfl, rfl⟩
  refine frugal_attempt (fun s _ s' inv _ ran => ?_) (fun s _ s' later₂ _ _ later₃ => ?_)
    fun s e _ _ => ?_
  · have body : (JournalAction.persistAttemptEvidence completed).body uuid5 s = .ok ((), s') := ran
    have done := guar_act (.persistAttemptEvidence completed) inv trivial
    rwa [act, execute_ok.mpr body] at done
  · have later := later₁.trans (later₂.trans later₃)
    refine frugal_applyExecutionKind (seen.later later) ?_
    obtain ⟨named, row, stored, number⟩ := latest.later later
    exact ⟨same.1 ▸ named, row, same.1 ▸ stored, number.trans same.2.symm⟩
  · dsimp only
    split
    · exact frugal_loadOperation fun _ _ _ _ _ => trivial
    · trivial

theorem frugal_callAndRecord {command : ExecuteCommand} {request : ProviderExecutionRequest}
    {claimed : Operation} {started : ExecutionAttempt} (seen : Seen last claimed)
    (latest : LatestAttempt last claimed started) :
    Frugal uuid5 requests Anything (callAndRecord registry command request claimed started)
      last := by
  refine frugal_question fun s₁ ended inv later₁ => ?_
  refine frugal_executionEvidence.andThen budgetContract_sound inv fun evidence s₂ _ later₂ _ => ?_
  have later := later₁.trans later₂
  exact frugal_recordExecution (seen.later later) (latest.later later)

theorem frugal_dispatchExecuting {command : ExecuteCommand} {op : Operation}
    (seen : Seen last op) :
    Frugal uuid5 requests Anything (dispatchExecuting registry command op) last := by
  unfold dispatchExecuting latestAttempt
  cases named : op.latestAttemptId with
  | none => trivial
  | some attemptId =>
    refine frugal_load fun s _ later => ?_
    cases found : s.attempt? attemptId with
    | none => trivial
    | some attempt =>
      have key : attempt.attemptId = attemptId := (find?_some found).2
      cases state : attempt.state with
      | started =>
        dsimp only
        rw [state]
        trivial
      | completed =>
        dsimp only
        rw [state]
        exact frugal_lift fun evidence _ => frugal_applyExecutionKind (seen.later later)
          ⟨named.trans (congrArg some key.symm), attempt, key ▸ found, rfl⟩

section Dispatch

variable {command : ExecuteCommand} {again : Operation → Service (Option RuntimeResult)}

theorem frugal_settleClaim {request : ProviderExecutionRequest} {op : Operation}
    {descriptor : EffectDescriptor} {resourceIds : List String} {startedAt : UtcTimestamp}
    (goesOn : ∀ s fresh, Within uuid5 requests s → Seen s fresh →
      Frugal uuid5 requests Anything (again fresh) s) :
    Frugal uuid5 requests Anything (do
      let claimed ← Prog.attempt .work (claim command op descriptor resourceIds startedAt)
      settleClaim registry command again request claimed) last := by
  refine frugal_attempt (fun s claimed s' inv _ ran => ?_) (fun s claimed s' _ ran inv' _ => ?_)
    fun s e inv _ => ?_
  · obtain ⟨result, done, -⟩ := map_ok.mp ran
    exact guar_applyOperation inv done (disciplined_of_kind .claimExecution rfl (by decide))
  · obtain ⟨result, done, rfl⟩ := map_ok.mp ran
    dsimp only [settleClaim]
    cases outcome : result.outcome with
    | rejected => trivial
    | alreadyApplied =>
      exact frugal_loadOperation fun s fresh inv _ found => goesOn s fresh inv (seen_of_found found)
    | applied =>
      refine frugal_require fun claimed named => ?_
      have seen := seen_of_found (applyOperation_names done named)
      exact frugal_map some inv' (frugal_callAndRecord seen
        (claimed_latest done outcome named))
  · dsimp only [settleClaim]
    split
    · exact frugal_loadOperation fun s fresh inv _ found => goesOn s fresh inv (seen_of_found found)
    · split
      · exact frugal_loadOperation fun _ _ _ _ _ => trivial
      · trivial

theorem frugal_claimAndExecute {op : Operation}
    (goesOn : ∀ s fresh, Within uuid5 requests s → Seen s fresh →
      Frugal uuid5 requests Anything (again fresh) s) :
    Frugal uuid5 requests Anything (claimAndExecute registry command again op) last := by
  unfold claimAndExecute
  refine frugal_lift fun descriptor _ => ?_
  refine frugal_require fun arguments _ => ?_
  refine frugal_lift fun adapter _ => ?_
  refine frugal_lift fun resourceIds _ => ?_
  exact frugal_now fun s startedAt _ _ => frugal_settleClaim goesOn

end Dispatch

theorem frugal_dispatch {command : ExecuteCommand} (turns : Nat) {op : Operation}
    (inv : Within uuid5 requests last) (seen : Seen last op) :
    Frugal uuid5 requests Anything (dispatch registry command turns op) last := by
  induction turns generalizing op last with
  | zero => trivial
  | succ turns ih =>
    unfold dispatch
    cases op.state with
    | ready => exact frugal_claimAndExecute fun s fresh inv seen => ih inv seen
    | executing => exact frugal_map some inv (frugal_dispatchExecuting seen)
    | _ => trivial

theorem frugal_executeOperation (command : ExecuteCommand) (turns : Nat) :
    Frugal uuid5 requests Anything (executeOperation registry command turns) last :=
  frugal_loadOperation fun _ _ inv _ found => frugal_dispatch turns inv (seen_of_found found)

theorem frugal_unknownWithoutCompleting {command : RecoverCommand} {op : Operation}
    {actor : PrincipalRef} :
    Frugal uuid5 requests Anything (unknownWithoutCompleting command op actor) last := by
  unfold unknownWithoutCompleting
  split
  · trivial
  refine frugal_now fun s occurredAt _ _ => ?_
  refine assures_commit (fun s result s' inv _ ran => ⟨?_, fun _ _ => ?_⟩) fun _ _ _ _ _ => trivial
  · exact guar_applyOperation inv ran (disciplined_of_kind .executionUnknown rfl (by decide))
  · split <;> trivial

theorem frugal_recoverExecuting {command : RecoverCommand} {actor : PrincipalRef} {op : Operation}
    (seen : Seen last op) :
    Frugal uuid5 requests Anything (Runtime.recoverExecuting registry command actor op) last := by
  unfold Runtime.recoverExecuting latestAttempt
  cases named : op.latestAttemptId with
  | none => trivial
  | some attemptId =>
    refine frugal_load fun s _ later => ?_
    cases found : s.attempt? attemptId with
    | none => trivial
    | some attempt =>
      have key : attempt.attemptId = attemptId := (find?_some found).2
      cases state : attempt.state with
      | started =>
        dsimp only
        rw [state]
        exact frugal_unknownWithoutCompleting
      | completed =>
        dsimp only
        rw [state]
        exact frugal_lift fun evidence _ => frugal_applyExecutionKind (seen.later later)
          ⟨named.trans (congrArg some key.symm), attempt, key ▸ found, rfl⟩

theorem frugal_recoverOperation (command : RecoverCommand) :
    Frugal uuid5 requests Anything (recoverOperation registry command) last := by
  refine frugal_loadOperation fun s op _ _ found => ?_
  dsimp only
  cases op.state with
  | executing => exact frugal_recoverExecuting (seen_of_found found)
  | _ => trivial

/-! ## Recovery -/

theorem reconcile_spends (input : ReconciliationInput) (completedOriginalCount : Nat) :
    let kind := verifyingActions (reconcile input completedOriginalCount).action
    (kind ∈ retryKinds →
        (((input.attempts.getLast?.map (·.attemptNumber)).getD 0 : Nat) : Int) <
          maxAutomaticAttempts input.policyObligations) ∧
      (kind = .verificationInconclusive →
        (completedOriginalCount : Int) < maxAutomaticRecoveryAttempts input.policyObligations) := by
  dsimp only [reconcile]
  cases input.verificationResult.outcome with
  | applied =>
    dsimp only
    split <;> simp [verifyingActions, retryKinds]
  | notApplied =>
    dsimp only
    split
    · simp [verifyingActions, retryKinds]
    split
    next retries =>
      refine ⟨fun _ => ?_, nofun⟩
      cases at_ : input.attempts.getLast? <;> simpa [at_] using retries.2
    next => simp [verifyingActions, retryKinds]
  | unknown =>
    dsimp only
    split
    · simp [verifyingActions, retryKinds]
    split
    · simp [verifyingActions, retryKinds]
    split
    · simp [verifyingActions, retryKinds]
    next spare => exact ⟨by simp [verifyingActions, retryKinds], fun _ => not_le.mp spare⟩

theorem verificationBody_kind (action : ReconciliationAction) (ids : RecoveryIds)
    (result : VerificationResult) (descriptor : EffectDescriptor) :
    (verificationBody (verifyingActions action) ids result descriptor).kind =
      verifyingActions action := by
  cases action <;> rfl

/-- What `_apply_transition` answers names an operation only as the journal has it. -/
def AnswersSeen : TransitionResult ⊕ RecoveryResult → Store → Prop
  | .inl result, s => ∀ op, result.operation = some op → Seen s op
  | .inr failed, _ => failed.operation = none

theorem frugal_applyTransition {command : OperationCommand}
    (disciplined : ∀ s, Within uuid5 requests s → Later last s →
      OperationDisciplined requests s command) :
    Frugal uuid5 requests AnswersSeen (applyTransition command) last := by
  refine frugal_trySubmit disciplined (fun s result s' ran _ _ => ?_) fun s e _ _ => ?_
  · exact fun op named => seen_of_apply ran (fun _ => nofun) named
  · cases e with
    | notFoundError => exact rfl
    | _ =>
      dsimp only
      split
      · exact rfl
      · split
        · exact rfl
        · trivial

theorem fromApply_seen {applied : TransitionResult ⊕ RecoveryResult} {op verifying : Operation}
    (answers : AnswersSeen applied s) (seen : Seen s op)
    (named : (fromApply applied op).operation = some verifying) : Seen s verifying := by
  cases applied with
  | inr failed =>
    have none_ : failed.operation = none := answers
    simp only [fromApply, none_, if_true] at named
    cases named
    exact seen
  | inl result =>
    refine answers verifying ?_
    simp only [fromApply] at named
    split at named <;> exact named

theorem frugal_applyVerificationKind {command : RecoveryCommand} {op : Operation}
    {actor : PrincipalRef} {result : VerificationResult} (seen : Seen last op)
    (verifying : op.state = .verifying) (answered : Answered last op) :
    Frugal uuid5 requests Anything (applyVerificationKind registry command op actor result)
      last := by
  unfold applyVerificationKind
  refine frugal_load fun s₁ inv₁ later₁ => ?_
  refine frugal_loadPolicy (fun _ _ _ => trivial) (fun s₂ policy _ later₂ named => ?_) inv₁
  refine frugal_lift fun descriptor _ => ?_
  refine frugal_load fun s₃ inv₃ later₃ => ?_
  refine frugal_now fun s₄ occurredAt inv₄ later₄ => ?_
  have later₁₄ := later₂.trans (later₃.trans later₄)
  refine (frugal_applyTransition fun s₅ inv₅ later₅ => ?_).andThen budgetContract_sound inv₄
    fun applied s _ _ _ => ?_
  · have later₃₅ := later₄.trans later₅
    have later₁₅ := later₁₄.trans later₅
    refine disciplined_of_read (seen.later (later₁.trans later₁₅))
      (policy?_later named (later₃.trans later₃₅)) rfl rfl fun current => ?_
    obtain ⟨retries, inconclusive⟩ := reconcile_spends
      ⟨op, s₁.listAttempts op.operationId, result, descriptor, policy.obligations⟩
      (completedOriginalVerificationCount (s₃.listVerifications op.operationId))
    rw [commandOn, OperationCommand.kind, verificationBody_kind]
    refine ⟨fun retry => ?_, fun same => ?_⟩
    · have below := retries retry
      dsimp only at below
      obtain ⟨there, attempts, -⟩ := (seen.later later₁).between later₁₅ current
      have counted := attemptsOf_le_last inv₁.1 there
      omega
    · have below := inconclusive same
      dsimp only at below
      have later₀₃ := later₁.trans (later₂.trans later₃)
      obtain ⟨there, -, moves⟩ := (seen.later later₀₃).between later₃₅ current
      have unused := (inconclusives_of_reachable inv₃.1 _ op there).unused verifying
        (answered.later later₀₃.final.verifications)
      unfold InconclusivesWithin
      unfold answeredVerifications at unused
      omega
  · cases applied with
    | inr failed => trivial
    | inl result =>
      dsimp only
      split <;> trivial

/-- The result of a verification call is about the request it answers. -/
theorem frugal_verifyOriginal {command : RecoveryCommand} {op : Operation}
    {request : VerificationRequest} (inv : Within uuid5 requests last) :
    Frugal uuid5 requests
      (fun result _ => result.verificationId = request.verificationId)
      (verifyOriginal registry command op request) last := by
  unfold verifyOriginal
  refine (assures_attemptForRequest budgetContract_sound).andThen budgetContract_sound inv
    fun attempt s₁ _ _ _ => ?_
  refine frugal_lift fun adapter _ => ?_
  refine frugal_lift fun context _ => ?_
  refine frugal_lift fun verifyRequest _ => ?_
  refine frugal_question fun s₂ ended inv₂ _ => ?_
  refine Assures.andThen budgetContract_sound inv₂ (P := Anything)
    (assures_verificationEvidence (fun _ _ => trivial) fun _ _ _ _ => trivial)
    fun evidence s₃ _ _ _ => ?_
  exact frugal_now fun _ _ _ _ => rfl

theorem verification?_replaced {result : VerificationResult} {request : VerificationRequest}
    (open_ : s.verification? result.verificationId = some (request, none)) :
    (s.verifications.replace (request, some result)).find? result.verificationId =
      some (request, some result) := by
  have key : request.verificationId = result.verificationId := (find?_some open_).2
  have same : verificationKey (request, some result) = result.verificationId := key
  rw [find?_replace, if_pos same,
    show s.verifications.find? result.verificationId = some (request, none) from open_]
  rfl

theorem persisted_answers {result : VerificationResult}
    (ran : persistVerificationResult result s = .ok ((), s')) :
    ∃ request stored, s'.verification? result.verificationId = some (request, some stored) := by
  unfold persistVerificationResult at ran
  split at ran
  · cases ran
  next request existing found =>
    split at ran
    · cases ran
      exact ⟨request, existing, found⟩
    · cases ran
  next =>
    obtain ⟨request, found, rfl⟩ := VerificationRepository.complete_ok ran
    exact ⟨request, result, verification?_replaced found⟩

theorem frugal_persistFailed {op : Operation} {e : Raised} :
    Frugal uuid5 requests Anything (persistFailed op e) last := by
  unfold persistFailed
  split
  · split <;> trivial
  · trivial

theorem frugal_settleVerification {command : RecoveryCommand} {op : Operation}
    {actor : PrincipalRef} {row : VerificationRow} (inv : Within uuid5 requests last)
    (seen : Seen last op) (verifying : op.state = .verifying) {verificationId : OpaqueId}
    (named : op.latestVerificationId = some verificationId)
    (found : last.verification? verificationId = some row) :
    Frugal uuid5 requests Anything (settleVerification registry command op actor row) last := by
  obtain ⟨request, existingResult⟩ := row
  have key : request.verificationId = verificationId := (find?_some found).2
  unfold settleVerification
  dsimp only
  split
  · trivial
  cases existingResult with
  | some result =>
    exact frugal_applyVerificationKind seen verifying
      ⟨verificationId, request, result, named, found⟩
  | none =>
    refine (frugal_verifyOriginal inv).andThen budgetContract_sound inv
      fun result s₁ _ later₁ answers => ?_
    refine frugal_attempt (fun s _ s' inv _ ran => ?_) (fun s _ s' later₂ ran _ later₃ => ?_)
      fun _ _ _ _ => frugal_persistFailed
    · have body : (JournalAction.persistVerificationResult result).body uuid5 s = .ok ((), s') :=
        ran
      have done := guar_act (.persistVerificationResult result) inv trivial
      rwa [act, execute_ok.mpr body] at done
    · obtain ⟨stored, answer, there⟩ := persisted_answers ran
      exact frugal_applyVerificationKind (seen.later (later₁.trans (later₂.trans later₃))) verifying
        ⟨result.verificationId, stored, answer, by rw [named, answers, key], there⟩

theorem frugal_runVerifyingCycle {command : RecoveryCommand} {op : Operation}
    {actor : PrincipalRef} (seen : Seen last op) :
    Frugal uuid5 requests Anything (runVerifyingCycle registry command op actor) last := by
  unfold runVerifyingCycle
  split
  · trivial
  next verifying =>
  cases named : op.latestVerificationId with
  | none => trivial
  | some verificationId =>
    refine frugal_load fun s inv later => ?_
    cases found : s.verification? verificationId with
    | none => trivial
    | some row =>
      exact frugal_settleVerification inv (seen.later later) (not_not.mp verifying) named found

theorem unknownWithoutVerifyCommand_spends {command : RecoveryCommand} {op : Operation}
    {actor : PrincipalRef} {descriptor : EffectDescriptor} {latest : ExecutionAttempt}
    {retry : RetrySafetyDecision} {obligations : PolicyObligations} {occurredAt : UtcTimestamp} :
    let submitted :=
      unknownWithoutVerifyCommand command op actor descriptor latest retry obligations
      occurredAt
    (submitted.operationId = op.operationId ∧ submitted.expectedVersion = op.version) ∧
      submitted.kind ≠ .verificationInconclusive ∧
      (submitted.kind ∈ retryKinds →
        (latest.attemptNumber : Int) < maxAutomaticAttempts obligations) := by
  dsimp only [unknownWithoutVerifyCommand]
  split
  next retries => exact ⟨⟨rfl, rfl⟩, nofun, fun _ => retries.2⟩
  next => exact ⟨⟨rfl, rfl⟩, nofun, by simp [unknownEscalateCommand, commandOn,
    OperationCommand.kind, CommandBody.kind, retryKinds]⟩

/-- While the operation stands as it was read, it has no more attempts than `latest` counts. -/
def CountedBy (s : Store) (op : Operation) (latest : ExecutionAttempt) : Prop :=
  ∀ s', Later s s' → s'.operation? op.operationId = some op →
    (s'.attemptsOf op.operationId).length ≤ latest.attemptNumber

theorem countedBy_of_listed {op : Operation} {latest : ExecutionAttempt}
    (inv : Within uuid5 requests s) (seen : Seen s op)
    (listed : (s.listAttempts op.operationId).getLast? = some latest) : CountedBy s op latest := by
  intro s' later current
  obtain ⟨there, attempts, -⟩ := seen.between later current
  have counted := attemptsOf_le_last inv.1 there
  rw [listed, Option.map_some, Option.getD_some] at counted
  omega

theorem frugal_recoverUnknownFrom {command : RecoveryCommand} {op : Operation}
    {actor : PrincipalRef} {descriptor : EffectDescriptor} {first latest : ExecutionAttempt}
    (inv : Within uuid5 requests last) (seen : Seen last op)
    (counted : CountedBy last op latest) :
    Frugal uuid5 requests Anything
      (recoverUnknownFrom registry command op actor descriptor first latest) last := by
  unfold recoverUnknownFrom
  refine frugal_loadPolicy (fun _ _ _ => trivial) (fun s₁ policy inv₁ later₁ named => ?_) inv
  have verify : Frugal uuid5 requests Anything
      (unknownStartVerification registry command op actor latest) s₁ := by
    refine frugal_now fun s₂ requestedAt _ later₂ => ?_
    refine frugal_now fun s₃ occurredAt inv₃ later₃ => ?_
    refine (frugal_applyTransition fun s _ _ => ?_).andThen budgetContract_sound inv₃
      fun applied s₄ inv₄ later₄ answers => ?_
    · exact disciplined_of_kind .unknownStartVerification rfl (by decide)
    · have later := later₁.trans (later₂.trans (later₃.trans later₄))
      dsimp only
      split
      · trivial
      split
      · refine frugal_loadOperation fun _ _ _ _ found => ?_
        exact frugal_runVerifyingCycle (seen_of_found found)
      · exact frugal_require fun verifying there =>
          frugal_runVerifyingCycle (fromApply_seen answers (seen.later later) there)
  cases mode : descriptor.verificationMode with
  | none =>
    refine frugal_now fun s₂ now _ later₂ => ?_
    refine frugal_lift fun retry _ => ?_
    refine frugal_now fun s₃ occurredAt inv₃ later₃ => ?_
    refine (frugal_applyTransition fun s₄ inv₄ later₄ => ?_).andThen budgetContract_sound inv₃
      fun applied _ _ _ _ => trivial
    have later₁₄ := later₂.trans (later₃.trans later₄)
    have later := later₁.trans later₁₄
    obtain ⟨⟨about, version⟩, conclusive, below⟩ := unknownWithoutVerifyCommand_spends
    refine disciplined_of_read (seen.later later) (policy?_later named later₁₄) about version
      fun current => ⟨fun retry => ?_, fun same => absurd same conclusive⟩
    have within := below retry
    have few := counted s₄ later current
    omega
  | _ => exact verify

theorem frugal_recoverUnknown {command : RecoveryCommand} {op : Operation} {actor : PrincipalRef}
    (seen : Seen last op) :
    Frugal uuid5 requests Anything (recoverUnknown registry command op actor) last := by
  unfold recoverUnknown
  refine frugal_lift fun descriptor _ => ?_
  refine frugal_load fun s₁ inv₁ later₁ => ?_
  split
  next first latest _ listed =>
    have counted := countedBy_of_listed inv₁ (seen.later later₁) listed
    cases op.latestAttemptId with
    | none => exact frugal_recoverUnknownFrom inv₁ (seen.later later₁) counted
    | some attemptId =>
      refine frugal_load fun s₂ inv₂ later₂ => ?_
      cases s₂.attempt? attemptId with
      | none => trivial
      | some _ =>
        exact frugal_recoverUnknownFrom inv₂ (seen.later (later₁.trans later₂))
          fun s' later => counted s' (later₂.trans later)
  next => trivial

theorem frugal_recoverUnknownOperation (command : RecoveryCommand) :
    Frugal uuid5 requests Anything (recoverUnknownOperation registry command) last := by
  refine frugal_load fun s inv _ => ?_
  cases found : s.operation? command.operationId with
  | none => trivial
  | some op =>
    dsimp only
    cases op.state with
    | executing =>
      exact (frugal_recoverOperation _).andThen budgetContract_sound inv fun _ _ _ _ _ => trivial
    | verifying => exact frugal_runVerifyingCycle (seen_of_found found)
    | unknown => exact frugal_recoverUnknown (seen_of_found found)
    | _ => trivial

/-! ## Operators and scans -/

theorem frugal_settleManualStart {command : OperatorVerificationCommand} {op : Operation}
    {applied : Except Raised TransitionResult}
    (answers : ∀ result, applied = .ok result → ∀ row, result.operation = some row →
      Seen last row) :
    Frugal uuid5 requests Anything (settleManualStart registry command op applied) last := by
  cases applied with
  | ok result =>
    dsimp only [settleManualStart]
    cases result.outcome with
    | rejected => trivial
    | alreadyApplied =>
      exact frugal_loadOperation fun _ _ _ _ found => frugal_runVerifyingCycle (seen_of_found found)
    | applied =>
      exact frugal_require fun verifying named =>
        frugal_runVerifyingCycle (answers result rfl verifying named)
  | error e =>
    cases e with
    | notFoundError => trivial
    | _ =>
      dsimp only [settleManualStart]
      split
      · trivial
      · split <;> trivial

theorem frugal_startOperatorVerification {lower : String → String}
    (command : OperatorVerificationCommand) :
    Frugal uuid5 requests Anything (startOperatorVerification registry lower command) last := by
  unfold startOperatorVerification
  split
  · trivial
  refine frugal_load fun s inv _ => ?_
  cases s.operation? command.operationId with
  | none => trivial
  | some op =>
    dsimp only
    split
    · trivial
    refine frugal_lift fun descriptor _ => ?_
    split
    · trivial
    refine frugal_load fun _ _ _ => ?_
    refine frugal_now fun _ requestedAt _ _ => ?_
    refine frugal_now fun _ occurredAt _ _ => ?_
    refine frugal_trySubmit (fun _ _ _ => disciplined_of_kind .manualStartVerification rfl
      (by decide)) (fun s result s' ran _ _ => ?_) fun s e _ _ => ?_
    · refine frugal_settleManualStart fun result' same row named => ?_
      cases same
      exact seen_of_apply ran (fun _ => nofun) named
    · exact frugal_settleManualStart fun result' same => by cases same

theorem frugal_recoverListed (command : ScanCommand) (operations : List Operation)
    (inv : Within uuid5 requests last) :
    Frugal uuid5 requests Anything (Recovery.recoverListed registry command operations) last := by
  induction operations generalizing last with
  | nil => trivial
  | cons op rest ih =>
    refine (frugal_recoverUnknownOperation _).andThen budgetContract_sound inv
      fun result s inv' _ _ => ?_
    exact (ih inv').andThen budgetContract_sound inv' fun _ _ _ _ _ => trivial

theorem frugal_scanRecoverable (command : ScanCommand) (inv : Within uuid5 requests last) :
    Frugal uuid5 requests Anything (scanRecoverable registry command) last := by
  have group : ∀ s state, Within uuid5 requests s →
      Frugal uuid5 requests Anything (Recovery.scanGroup registry command state) s :=
    fun s state inv => frugal_load fun _ inv' _ => frugal_recoverListed command _ inv'
  refine (group last _ inv).andThen budgetContract_sound inv fun executing s₁ inv₁ _ _ => ?_
  refine (group s₁ _ inv₁).andThen budgetContract_sound inv₁ fun verifying s₂ inv₂ _ _ => ?_
  exact (group s₂ _ inv₂).andThen budgetContract_sound inv₂ fun _ _ _ _ _ => trivial

end Stateback.Concurrency
