import Stateback.Invariants.Compensations
import Stateback.Invariants.Evidence
/-!
# Verdicts against what happened

Two laws that the order of the steps can break.  MANUAL_INTERVENTION is entered from the
execution side and from the compensation side, and an operator's verification leads from it back
to READY, whatever the operation has been through.  And a failure verdict looks at the latest
attempt as it was read: evidence that comes in later, or stands on an earlier attempt, does not
take it back.
-/

namespace Stateback.Invariants

open Domain Persistence Transitions KeyedTable KeyedTable.Table Transaction

variable {s s' : Store} {action : JournalAction} {operationId : OpaqueId}

/-! ## Execution after compensation -/

def HasCompensationAttempt (s : Store) (operationId : OpaqueId) : Prop :=
  ∃ attempt ∈ s.compensationAttempts.rows, ∃ compensation ∈ s.compensations.rows,
    compensation.compensationId = attempt.compensationId ∧
      compensation.originalOperationId = operationId

/-- The states that execution starts from, or is under way in. -/
def executionStates : List OperationState := [.pendingPolicy, .awaitingApproval, .ready, .executing]

/-- The retries: from VERIFYING, UNKNOWN and MANUAL_INTERVENTION back to READY. -/
def resumingKinds : List TransitionKind :=
  [.verificationNotAppliedRetry, .unknownSafeRetry, .manualSafeRetry]

/-- A retry takes the operation back to READY though it has a compensation attempt. -/
def ResumesCompensated (operationId : OpaqueId) (s : Store) : JournalAction → Prop
  | .transition (.operation command) =>
    command.operationId = operationId ∧ command.kind ∈ resumingKinds ∧ command.Admitted s ∧
      HasCompensationAttempt s operationId
  | _ => False

/-- Compensation attempts are attempts of stored records, and an operation that has one has left
execution. -/
structure CompensatedJournal (operationId : OpaqueId) (s : Store) : Prop where
  owned : ∀ attempt ∈ s.compensationAttempts.rows, ∃ compensation,
    s.compensation? attempt.compensationId = some compensation
  aside : HasCompensationAttempt s operationId → ∃ operation,
    s.operation? operationId = some operation ∧ operation.state ∉ executionStates

theorem CompensatedJournal.empty : CompensatedJournal operationId .empty where
  owned _ member := by cases member
  aside := by
    rintro ⟨_, member, -⟩
    cases member

/-- Only the retries lead back to execution. -/
private theorem stays_aside {kind : TransitionKind} {source : OperationState}
    (edge : kind.edge.1 = some source) (aside : source ∉ executionStates)
    (stays : kind ∉ resumingKinds) : kind.edge.2 ∉ executionStates := by
  revert edge aside stays
  cases kind <;> rintro ⟨⟩ <;> decide

/-- An attempt in the later journal is one of a record of the operation that had one before, or
the step claimed it and the operation is COMPENSATING. -/
theorem HasCompensationAttempt.origin (owned : ∀ attempt ∈ s.compensationAttempts.rows,
      ∃ compensation, s.compensation? attempt.compensationId = some compensation)
    (taken : JournalStep action s s') (later : HasCompensationAttempt s' operationId) :
    HasCompensationAttempt s operationId ∨ ∃ operation,
      s'.operation? operationId = some operation ∧ operation.state = .compensating := by
  obtain ⟨attempt, member, compensation, stored, record, parent⟩ := later
  have evolved := compensations_evolve (compensationsStep_of taken)
  have kept : ∀ {row : Compensation}, s.compensation? attempt.compensationId = some row →
      row.originalOperationId = operationId := by
    intro row found
    obtain ⟨turned, at_, -, same, -⟩ := evolved.find? (·.1) found
    have there : s'.compensation? attempt.compensationId = some compensation := by
      rw [← record]
      exact find?_of_mem stored
    rw [show s'.compensation? attempt.compensationId = some turned from at_,
      Option.some.injEq] at there
    rw [← same, there, parent]
  obtain ⟨old, before, same⟩ | ⟨progress, made, same⟩ :=
    (compensationAttemptsStep_of taken).owner member
  · obtain ⟨row, found⟩ := owned old before
    rw [same] at found
    exact .inl ⟨old, before, row, (find?_some found).1, (find?_some found).2.trans same.symm,
      kept found⟩
  · refine .inr ⟨progress.loaded, ?_, made.compensating⟩
    have owner : progress.loaded.operationId = operationId := by
      rw [← made.parent]
      exact kept (same ▸ made.record)
    have unmoved : s'.operations = s.operations := by rw [made.written.frame]
    rw [← owner, Store.operation?, unmoved]
    exact made.found

theorem CompensatedJournal.step (before : CompensatedJournal operationId s)
    (taken : JournalStep action s s') (stays : ¬ResumesCompensated operationId s action) :
    CompensatedJournal operationId s' := by
  refine ⟨fun attempt member => ?_, fun later => ?_⟩
  · have evolved := compensations_evolve (compensationsStep_of taken)
    obtain ⟨old, stored, same⟩ | ⟨progress, made, same⟩ :=
      (compensationAttemptsStep_of taken).owner member
    · obtain ⟨row, found⟩ := before.owned old stored
      obtain ⟨turned, at_, -⟩ := evolved.find? (·.1) found
      exact ⟨turned, same ▸ at_⟩
    · obtain ⟨turned, at_, -⟩ := evolved.find? (·.1) made.record
      exact ⟨turned, same ▸ at_⟩
  obtain earlier | ⟨operation, found, compensating⟩ := later.origin before.owned taken
  · obtain ⟨operation, found, aside⟩ := before.aside earlier
    obtain ⟨later, at_, -⟩ := taken.operation?_some found
    refine ⟨later, at_, ?_⟩
    cases taken.operation_origin at_ with
    | kept same =>
      rw [found, Option.some.injEq] at same
      exact same ▸ aside
    | created _ _ _ _ absent =>
      rw [found] at absent
      cases absent
    | moved command loaded asked made row id =>
      subst asked id
      rw [made.found, Option.some.injEq] at found
      rw [row]
      refine stays_aside made.source (found ▸ aside) fun resumes => ?_
      exact stays ⟨rfl, resumes, made.admitted, earlier⟩
    | escalated request loaded made row id =>
      rw [row]
      exact show OperationState.manualIntervention ∉ executionStates by decide
  · exact ⟨operation, found, compensating ▸ by decide⟩

/-- An operation under compensation is given no new attempt. -/
theorem CompensatedJournal.no_claim (before : CompensatedJournal operationId s)
    (taken : JournalStep action s s') (compensated : HasCompensationAttempt s operationId)
    {attempt : ExecutionAttempt} (member : attempt ∈ s'.attemptsOf operationId) :
    ∃ old ∈ s.attemptsOf operationId, old.attemptId = attempt.attemptId := by
  obtain ⟨stored, owner⟩ := mem_select.mp member
  obtain old | ⟨command, loaded, -, made, carried⟩ | ⟨_, row, _, -, found, -, rfl⟩ :=
    (attemptsStep_of taken).mem_cases stored
  · exact ⟨attempt, mem_select.mpr ⟨old, owner⟩, rfl⟩
  · obtain ⟨operation, found, aside⟩ := before.aside compensated
    have same : loaded.operationId = operationId :=
      (made.claimedAttempt_checked carried).1.symm.trans (of_decide_eq_true owner)
    rw [← same, made.operationId, made.found, Option.some.injEq] at found
    have source := made.source
    cases body : command.body with
    | claimExecution =>
      rw [OperationCommand.kind, body, CommandBody.kind, found] at source
      simp only [TransitionKind.edge, Option.some.injEq] at source
      rw [← source] at aside
      exact absurd (by decide) aside
    | _ => rw [body] at carried; cases carried
  · exact ⟨row, mem_select.mpr ⟨(find?_some found).1, owner⟩, rfl⟩

theorem HasCompensationAttempt.later (compensated : HasCompensationAttempt s operationId)
    (taken : JournalStep action s s') : HasCompensationAttempt s' operationId := by
  obtain ⟨attempt, member, compensation, stored, record, parent⟩ := compensated
  obtain ⟨attempt', at_, -, same⟩ := (compensationAttemptsStep_of taken).evolves attempt member
  obtain ⟨compensation', there, key, owner, -⟩ :=
    compensations_evolve (compensationsStep_of taken) compensation stored
  exact ⟨attempt', at_, compensation', there, key.trans (record.trans same.symm),
    owner.trans parent⟩

/-- What a run keeps of an operation under compensation: no execution attempt beyond `known`. -/
structure NotReexecuted (operationId : OpaqueId) (known : List ExecutionAttempt) (s : Store) :
    Prop where
  journal : CompensatedJournal operationId s
  compensated : HasCompensationAttempt s operationId
  attempts : ∀ attempt ∈ s.attemptsOf operationId, ∃ old ∈ known,
    old.attemptId = attempt.attemptId

theorem NotReexecuted.step {known : List ExecutionAttempt}
    (before : NotReexecuted operationId known s)
    (stays : ¬ResumesCompensated operationId s action) (taken : JournalStep action s s') :
    NotReexecuted operationId known s' where
  journal := before.journal.step taken stays
  compensated := before.compensated.later taken
  attempts attempt member := by
    obtain ⟨earlier, there, same⟩ := before.journal.no_claim taken before.compensated member
    obtain ⟨old, first, same'⟩ := before.attempts earlier there
    exact ⟨old, first, same'.trans same⟩

/-- Once an operation has a compensation attempt, and as long as no retry takes it back to READY,
every execution attempt it has is one it had. -/
theorem compensated_not_reexecuted {uuid5 : String → OpaqueId} {before after : List JournalAction}
    (meets : Stepwise uuid5 (fun s action => ¬ResumesCompensated operationId s action) .empty
      (before ++ after))
    (compensated : HasCompensationAttempt (run uuid5 .empty before) operationId) :
    ∀ attempt ∈ (run uuid5 .empty (before ++ after)).attemptsOf operationId,
      ∃ old ∈ (run uuid5 .empty before).attemptsOf operationId,
        old.attemptId = attempt.attemptId := by
  obtain ⟨earlier, later⟩ := stepwise_append.mp meets
  have journal : CompensatedJournal operationId (run uuid5 .empty before) :=
    run_preserves (fun _ _ _ before stays taken => before.step taken stays) before earlier .empty
  have start : NotReexecuted operationId ((run uuid5 .empty before).attemptsOf operationId)
      (run uuid5 .empty before) := ⟨journal, compensated, fun attempt member =>
    ⟨attempt, member, rfl⟩⟩
  rw [run_append]
  exact (run_preserves (fun _ _ _ before stays taken => before.step stays taken) after later
    start).attempts

def sampleRequest (verificationId : String) (version : Nat) : VerificationRequest :=
  Recovery.buildOriginalVerificationRequest { Recovery.unknownOperation with version := version }
    (some Runtime.sampleAttempt) (idOf verificationId) ⟨version⟩

def sampleResult (verificationId : String) (outcome : EffectOutcome) : VerificationResult where
  contractVersion := contractVersion
  verificationId := idOf verificationId
  outcome := outcome
  evidence :=
    { source := .readBack
      provider := "mail"
      observedAt := ⟨5⟩
      providerStatus := none
      providerRequestId := none
      externalOperationId := none
      externalResourceIds := []
      evidenceFields := .object []
      rawReference := none }
  error := none
  completedAt := ⟨5⟩

/-- The attempt's outcome is lost, a verification finds the effect applied, and its compensation
is claimed. -/
def undoingActions : List JournalAction :=
  [.transition sampleCreate,
   .transition (sampleCommand 1 1 "audit-ready"
     (.policyAllow Recovery.samplePatientDecision (idOf "audit-policy") (idOf "outbox"))),
   .transition (sampleCommand 2 2 "audit-executing"
     (.claimExecution Runtime.sampleAttempt (idOf "audit-attempt"))),
   .transition (sampleCommand 3 3 "audit-unknown"
     (.executionUnknown none (idOf "audit-crash") (idOf "outbox-verify"))),
   .transition (sampleCommand 4 4 "audit-verifying"
     (.unknownStartVerification (sampleRequest "verification-1" 4) (idOf "audit-request-1")
       (idOf "outbox-verify-1"))),
   .transition (sampleCommand 5 5 "audit-succeeded"
     (.verificationApplied (sampleResult "verification-1" .applied) (idOf "audit-result-1"))),
   .transition (sampleCommand 6 6 "audit-compensating"
     (.succeededStartCompensation (sampleCompensation "first") (idOf "audit-requested")
       (idOf "outbox-compensate"))),
   .transition (sampleClaim 7 "first" "compensation-attempt")]

def undoingJournal : Store := run idOf .empty undoingActions

/-- An operator escalates the compensation. -/
def escalation : JournalAction :=
  .transition (sampleCommand 7 8 "audit-escalated"
    (.compensationEscalate (idOf "audit-manual") none))

/-- The operator asks again. -/
def reverification : JournalAction :=
  .transition (sampleCommand 8 9 "audit-reverifying"
    (.manualStartVerification (sampleRequest "verification-2" 8) (idOf "audit-operator")
      (idOf "audit-request-2") (idOf "outbox-verify-2")))

/-- The effect is there; the operation leaves MANUAL_INTERVENTION as SUCCEEDED. -/
def resolvingActions : List JournalAction :=
  [escalation, reverification,
   .transition (sampleCommand 9 10 "audit-resolved"
     (.verificationApplied (sampleResult "verification-2" .applied) (idOf "audit-result-2")))]

theorem escalated_not_reexecuted :
    ((run idOf .empty (undoingActions ++ resolvingActions)).operation?
        (idOf "op")).map (·.state) = some .succeeded ∧
      ∃ attempt ∈ (run idOf .empty (undoingActions ++ resolvingActions)).attemptsOf
        (idOf "op"), ∃ old ∈ (run idOf .empty undoingActions).attemptsOf (idOf "op"),
          old.attemptId = attempt.attemptId := by
  have plain : ∀ command, command.kind ∉ resumingKinds → ∀ s,
      ¬ResumesCompensated (idOf "op") s (.transition (.operation command)) :=
    fun command other s resumes => other resumes.2.1
  have meets : Stepwise idOf
      (fun s action => ¬ResumesCompensated (idOf "op") s action) .empty
      (undoingActions ++ resolvingActions) := by
    refine ⟨id, ?_, ?_, ?_, ?_, ?_, ?_, id, ?_, ?_, ?_, trivial⟩ <;>
    · apply plain
      decide
  have compensated : HasCompensationAttempt (run idOf .empty undoingActions)
      (idOf "op") := by
    unfold HasCompensationAttempt
    decide +kernel
  have executed : Runtime.sampleAttempt ∈ (run idOf .empty
      (undoingActions ++ resolvingActions)).attemptsOf (idOf "op") := by decide +kernel
  exact ⟨by decide +kernel, _, executed, compensated_not_reexecuted meets compensated _ executed⟩

def escalatedJournal : Store := act idOf undoingJournal escalation

/-- Now the effect is gone: it is executed a second time. -/
def reexecutingActions : List JournalAction :=
  [reverification,
   .transition (sampleCommand 9 10 "audit-retried"
     (.verificationNotAppliedRetry (sampleResult "verification-2" .notApplied) .none
       (idOf "audit-result-2") (idOf "outbox-execute-2") none)),
   .transition (sampleCommand 10 11 "audit-executing-2"
     (.claimExecution (keyedAttempt "attempt-2" 2 "key") (idOf "audit-attempt-2")))]

def reverifiedJournal : Store :=
  run idOf escalatedJournal (reexecutingActions.take 1)

theorem compensated_operation_reexecuted :
    Reachable idOf escalatedJournal ∧
      HasCompensationAttempt escalatedJournal (idOf "op") ∧
      (Recovery.reconcile ⟨Recovery.unknownOperation, reverifiedJournal.listAttempts (idOf "op"),
        sampleResult "verification-2" .notApplied, Runtime.sampleDescriptor,
        Recovery.samplePatientDecision.obligations⟩ 1).action = .makeReadyForSafeRetry ∧
      ∃ attempt ∈ (run idOf escalatedJournal reexecutingActions).attemptsOf (idOf "op"),
        ∀ old ∈ escalatedJournal.attemptsOf (idOf "op"), old.attemptId ≠ attempt.attemptId := by
  refine ⟨⟨undoingActions ++ [escalation], run_concat ..⟩, ?_, by decide +kernel,
    by decide +kernel⟩
  unfold HasCompensationAttempt
  decide +kernel

/-! ## Failure against applied evidence -/

def givenUpStates : List OperationState := [.failed, .cancelled]

/-- The operation is given up although an attempt of it was APPLIED, or still may turn out to be:
it is STARTED, and the command does not complete it. -/
def GivesUpUnanswered (s : Store) : JournalAction → Prop
  | .transition (.operation command) =>
    command.kind.edge.2 ∈ givenUpStates ∧ command.Admitted s ∧
      ∃ attempt ∈ s.attemptsOf command.operationId, attempt.outcome = some .applied ∨
        attempt.state = .started ∧ ∀ completed,
          command.body.completedAttempt? = some completed →
            completed.attemptId ≠ attempt.attemptId
  | _ => False

/-- The attempts of operations that were given up are answered, and not by APPLIED. -/
def GivenUpJournal (s : Store) : Prop :=
  ∀ operationId operation, s.operation? operationId = some operation →
    operation.state ∈ givenUpStates → ∀ attempt ∈ s.attemptsOf operationId,
      attempt.state = .completed ∧ attempt.outcome ≠ some .applied

/-- A command that gives up on the attempt it completes calls it NOT_APPLIED. -/
private theorem notApplied_of_givesUp {body : CommandBody} {completed : ExecutionAttempt}
    (givesUp : body.kind.edge.2 ∈ givenUpStates)
    (carried : body.completedAttempt? = some completed) :
    body.kind.executionOutcome? = some .notApplied := by
  revert givesUp carried
  cases body <;> simp [CommandBody.kind, TransitionKind.edge, givenUpStates,
    TransitionKind.executionOutcome?, CommandBody.completedAttempt?]

/-- A claim gives up on nothing. -/
private theorem claim_goes_on {body : CommandBody} {attempt : ExecutionAttempt}
    (carried : body.claimedAttempt? = some attempt) : body.kind.edge.2 ∉ givenUpStates := by
  cases body with
  | claimExecution =>
    rw [CommandBody.kind]
    decide
  | _ => cases carried

theorem GivenUpJournal.step (before : GivenUpJournal s) (taken : JournalStep action s s')
    (answered : ¬GivesUpUnanswered s action) : GivenUpJournal s' := by
  intro operationId operation found givenUp attempt member
  obtain ⟨stored, owner⟩ := mem_select.mp member
  have owner : attempt.operationId = operationId := of_decide_eq_true owner
  have origin := (attemptsStep_of taken).mem_cases stored
  cases taken.operation_origin found with
  | kept same =>
    have known := before operationId operation same givenUp
    obtain old | ⟨command, loaded, -, made, carried⟩ | ⟨_, row, _, -, at_, started, rfl⟩ := origin
    · exact known attempt (mem_select.mpr ⟨old, decide_eq_true owner⟩)
    · have id : loaded.operationId = operationId :=
        (made.claimedAttempt_checked carried).1.symm.trans owner
      rw [← id, operation?_replace_stepped made.found made.operations,
        if_pos made.operationId.symm, Option.some.injEq] at found
      rw [← found] at givenUp
      exact absurd givenUp (claim_goes_on carried)
    · have final := (known row (mem_select.mpr ⟨(find?_some at_).1, decide_eq_true owner⟩)).1
      rw [started] at final
      cases final
  | created command _ made row =>
    rw [row, made.state] at givenUp
    exact absurd givenUp (by decide)
  | moved command loaded asked made row id =>
    subst asked id
    rw [row] at givenUp
    have closed : ∀ completed, command.body.completedAttempt? = some completed →
        completed.attemptId = attempt.attemptId →
        attempt.state = .completed ∧ attempt.outcome ≠ some .applied := by
      intro completed carried same
      obtain ⟨row, there, -, ended, reports⟩ := completed_of_moved made carried
      have here : s'.attempt? attempt.attemptId = some attempt := find?_of_mem stored
      rw [same, here, Option.some.injEq] at there
      subst there
      obtain ⟨_, -, checked⟩ := made.completedAttempt_checked carried
      have notApplied := checked.outcome _ (notApplied_of_givesUp givenUp carried)
      refine ⟨ended, ?_⟩
      rw [reports, notApplied]
      decide
    obtain old | ⟨other, _, same, made', carried⟩ | ⟨completed, before, _, carried, at_, -, rfl⟩ :=
      origin
    · by_contra unanswered
      refine answered ⟨givenUp, made.admitted, attempt,
        mem_select.mpr ⟨old, decide_eq_true owner⟩, ?_⟩
      by_cases applied : attempt.outcome = some .applied
      · exact .inl applied
      · refine .inr ⟨?_, fun completed carried same => unanswered (closed completed carried same)⟩
        cases state : attempt.state with
        | started => rfl
        | completed => exact absurd ⟨state, applied⟩ unanswered
    · cases same
      exact absurd givenUp (claim_goes_on carried)
    · exact closed completed carried (find?_some at_).2.symm
  | escalated request loaded made row id =>
    rw [row] at givenUp
    exact absurd (show OperationState.manualIntervention ∈ givenUpStates from givenUp) (by decide)

/-- As long as operations are given up only once their attempts are answered, none that is FAILED
or CANCELLED has an attempt that was APPLIED. -/
theorem given_up_never_applied {uuid5 : String → OpaqueId} {actions : List JournalAction}
    (meets : Stepwise uuid5 (fun s action => ¬GivesUpUnanswered s action) .empty actions)
    {operation : Operation}
    (found : (run uuid5 .empty actions).operation? operationId = some operation)
    (givenUp : operation.state = .failed ∨ operation.state = .cancelled) :
    ∀ attempt ∈ (run uuid5 .empty actions).attemptsOf operationId,
      ¬(attempt.state = .completed ∧ attempt.outcome = some .applied) := by
  have journal : GivenUpJournal (run uuid5 .empty actions) :=
    run_preserves (fun _ _ _ before answered taken => before.step taken answered) actions meets
      fun _ _ found => by cases found
  rintro attempt member ⟨-, applied⟩
  refine (journal operationId operation found ?_ attempt member).2 applied
  obtain state | state := givenUp <;> rw [state] <;> decide

theorem given_up_never_applied_failed :
    ∃ attempt ∈ (run idOf .empty failedActions).attemptsOf (idOf "op"),
      ¬(attempt.state = .completed ∧ attempt.outcome = some .applied) := by
  have goesOn : ∀ command, command.kind.edge.2 ∉ givenUpStates → ∀ s,
      ¬GivesUpUnanswered s (.transition (.operation command)) :=
    fun command other s givesUp => other givesUp.1
  have meets : Stepwise idOf (fun s action => ¬GivesUpUnanswered s action) .empty
      failedActions := by
    refine ⟨id, goesOn _ (by decide) _, goesOn _ (by decide) _, ?_, trivial⟩
    rintro ⟨-, -, attempt, member, open_⟩
    have single : (run idOf .empty (failedActions.take 3)).attemptsOf (idOf "op") =
        [Runtime.sampleAttempt] := by decide +kernel
    have same : attempt = Runtime.sampleAttempt := by
      have listed := single ▸ member
      simpa using listed
    subst same
    obtain applied | ⟨-, other⟩ := open_
    · cases applied
    · exact other _ rfl rfl
  have found : (run idOf .empty failedActions).operation? (idOf "op") =
      some { allowedOperation with
        state := .failed
        version := 4
        updatedAt := ⟨3⟩
        latestAttemptId := some (idOf "attempt-1") } := by decide +kernel
  obtain ⟨attempt, executed⟩ : ∃ attempt,
      attempt ∈ (run idOf .empty failedActions).attemptsOf (idOf "op") := by
    have listed : (run idOf .empty failedActions).attemptsOf (idOf "op") ≠ [] := by
      decide +kernel
    exact List.exists_mem_of_ne_nil _ listed
  exact ⟨attempt, executed, given_up_never_applied meets found (.inl rfl) attempt executed⟩

/-- A worker's call is in flight while a recovery gives the attempt up and a verification finds
nothing; the worker then persists its evidence and meets a version conflict. -/
def lateJournal : Store :=
  run idOf .empty
    [.transition sampleCreate, .transition sampleAllow,
     .transition (sampleCommand 2 2 "audit-executing"
       (.claimExecution Runtime.sampleAttempt (idOf "audit-attempt"))),
     .transition (sampleCommand 3 3 "audit-unknown"
       (.executionUnknown none (idOf "audit-crash") (idOf "outbox-verify"))),
     .transition (sampleCommand 4 4 "audit-verifying"
       (.unknownStartVerification (sampleRequest "verification-1" 4) (idOf "audit-request-1")
         (idOf "outbox-verify-1"))),
     .transition (sampleCommand 5 5 "audit-failed"
       (.verificationNotAppliedFail (sampleResult "verification-1" .notApplied)
         (idOf "audit-result-1"))),
     .persistAttemptEvidence sampleApplied,
     .transition (sampleCommand 3 6 "audit-applied"
       (.executionApplied sampleApplied (idOf "audit-evidence")))]

theorem failed_operation_applied :
    Reachable idOf lateJournal ∧
      (lateJournal.operation? (idOf "op")).map (·.state) = some .failed ∧
      ∃ attempt ∈ lateJournal.attemptsOf (idOf "op"),
        attempt.state = .completed ∧ attempt.outcome = some .applied :=
  ⟨⟨_, rfl⟩, by decide +kernel, by decide +kernel⟩

end Stateback.Invariants
