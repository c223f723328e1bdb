import Stateback.Concurrency.Compensation
import Stateback.Concurrency.Flights
/-!
# Services that leave execution attempts alone

The verification cycle of the recovery service and the compensation services: whatever they read
and whatever they are answered, none of their commits writes an execution attempt or takes its
operation out of EXECUTING, and none of their questions is an `execute` call.
-/

namespace Stateback.Concurrency

open Domain Persistence Transitions Providers Stateback.Runtime Process Transaction
open KeyedTable KeyedTable.Table Invariants Compensation

variable {uuid5 : String → OpaqueId} {s s' last : Store} {registry : CapabilityRegistry}
  {α β γ : Type}

/-! ## Commits -/

/-- The command leads neither out of READY nor out of EXECUTING. -/
def LeadsElsewhere (command : OperationCommand) : Prop :=
  command.kind.edge.1 ≠ some .executing ∧ command.kind.edge.1 ≠ some .ready

def Elsewhere : TransitionCommand → Prop
  | .operation command => LeadsElsewhere command
  | _ => True

/-- The action writes no execution attempt. -/
def LeavesAttempts : JournalAction → Prop
  | .transition (.operation command) =>
    command.body.claimedAttempt? = none ∧ command.body.completedAttempt? = none
  | .persistAttemptEvidence _ => False
  | _ => True

theorem LeadsElsewhere.leaves {command : OperationCommand} (elsewhere : LeadsElsewhere command) :
    LeavesAttempts (.transition (.operation command)) :=
  ⟨CommandBody.claimedAttempt?_eq_none elsewhere.2,
    CommandBody.completedAttempt?_eq_none elsewhere.1⟩

theorem Elsewhere.leaves {command : TransitionCommand} (elsewhere : Elsewhere command) :
    LeavesAttempts (.transition command) := by
  cases command with
  | operation command => exact LeadsElsewhere.leaves elsewhere
  | _ => trivial

theorem LeavesAttempts.attempts {action : JournalAction} (leaves : LeavesAttempts action)
    (taken : JournalStep action s s') : s'.attempts = s.attempts := by
  cases attemptsStep_of taken with
  | kept same => exact same
  | claimed command loaded attempt asked made carried inserted =>
    subst asked
    exact nomatch leaves.1.symm.trans carried
  | completed completed row accepted carried =>
    cases action with
    | transition command =>
      cases command with
      | operation command => exact nomatch leaves.2.symm.trans carried
      | _ => cases carried
    | persistAttemptEvidence => exact leaves.elim
    | _ => cases carried

theorem keepsFlights_same (attempts : s'.attempts = s.attempts)
    (operations : s'.operations = s.operations) : KeepsFlights s s' :=
  fun _ under => under.same attempts operations

theorem KeepsFlights.trans {middle : Store} (first : KeepsFlights s middle)
    (second : KeepsFlights middle s') : KeepsFlights s s' :=
  fun attemptId under => second attemptId (first attemptId under)

theorem keepsFlights_operation {command : OperationCommand} {result : TransitionResult}
    (elsewhere : LeadsElsewhere command)
    (ran : applyOperation command s = .ok (result, s')) : KeepsFlights s s' := by
  obtain ⟨loaded, made, -⟩ | ⟨_, same, -⟩ | ⟨_, same, -⟩ := applyOperation_cases ran
  · refine fun attemptId under => under.moved made fun executing => ?_
    exact absurd (made.source.trans (congrArg some executing)) elsewhere.1
  · exact keepsFlights_same (by rw [same]) (by rw [same])
  · exact keepsFlights_same (by rw [same]) (by rw [same])

theorem keepsFlights_progress {command : TransitionCommand} {result : TransitionResult}
    (ran : ProgressRan command s s' result) : KeepsFlights s s' := by
  obtain ⟨progress, -, made, -⟩ | ⟨same, -⟩ := ran
  · exact keepsFlights_same (by rw [made.written.frame]) (by rw [made.written.frame])
  · exact keepsFlights_same (by rw [same]) (by rw [same])

theorem keepsFlights_apply {command : TransitionCommand} {result : TransitionResult}
    (elsewhere : Elsewhere command) (ran : apply command s = .ok (result, s')) :
    KeepsFlights s s' := by
  cases command with
  | create command =>
    obtain ⟨made, -⟩ | ⟨same, -⟩ := applyCreate_cases ran
    · rintro attemptId ⟨row, operation, found, started, there, rest⟩
      refine ⟨row, operation, ?_, started, ?_, rest⟩
      · rw [made.frame]
        exact found
      · have fresh := (insert?_eq_some.mp made.operations).1
        rw [Store.operation?, find?_insert made.operations, if_neg]
        · exact there
        · intro same
          rw [same] at fresh
          rw [show s.operations.find? _ = _ from there] at fresh
          cases fresh
    · exact keepsFlights_same (by rw [same]) (by rw [same])
  | operation command => exact keepsFlights_operation elsewhere ran
  | claimCompensation => exact keepsFlights_progress (applyClaimCompensation_ran ran)
  | startCompensationVerification =>
    exact keepsFlights_progress (applyStartCompensationVerification_ran ran)
  | claimCompensationRetryAttempt =>
    exact keepsFlights_progress (applyClaimCompensationRetryAttempt_ran ran)
  | retryCompensationAfterVerification =>
    exact keepsFlights_progress (applyRetryCompensationAfterVerification_ran ran)

theorem guar_trans_journal {middle : Store} (first : (journalContract uuid5).guar s middle)
    (second : (journalContract uuid5).guar middle s') : (journalContract uuid5).guar s s' := by
  obtain ⟨before, rfl⟩ := first
  obtain ⟨after, rfl⟩ := second
  exact ⟨before ++ after, run_append ..⟩

/-- What a unit of work that leaves the attempts alone does to the journal. -/
structure SetsAside (uuid5 : String → OpaqueId) (s s' : Store) : Prop where
  journaled : (journalContract uuid5).guar s s'
  flights : KeepsFlights s s'
  attempts : s'.attempts = s.attempts

theorem SetsAside.refl (uuid5 : String → OpaqueId) (s : Store) : SetsAside uuid5 s s :=
  ⟨⟨[], rfl⟩, fun _ under => under, rfl⟩

theorem SetsAside.trans {middle : Store} (first : SetsAside uuid5 s middle)
    (second : SetsAside uuid5 middle s') : SetsAside uuid5 s s' where
  journaled := guar_trans_journal first.journaled second.journaled
  flights := first.flights.trans second.flights
  attempts := second.attempts.trans first.attempts

theorem setsAside_apply {command : TransitionCommand} {result : TransitionResult}
    (elsewhere : Elsewhere command) (ran : apply command s = .ok (result, s')) :
    SetsAside uuid5 s s' :=
  ⟨guar_transition ran, keepsFlights_apply elsewhere ran,
    elsewhere.leaves.attempts (apply_step ran)⟩

def Aside (uuid5 : String → OpaqueId) (β : Type) (_ : Purpose) (body : Uow β) : Prop :=
  ∀ s b s', body s = .ok (b, s') → SetsAside uuid5 s s'

theorem aside_read {label : Purpose} {read : Store → β} :
    Aside uuid5 β label fun s => .ok (read s, s) := by
  rintro s b s' ⟨⟩
  exact .refl uuid5 s

theorem aside_apply {label : Purpose} {command : TransitionCommand}
    (elsewhere : Elsewhere command) : Aside uuid5 TransitionResult label (apply command) :=
  fun _ _ _ ran => setsAside_apply elsewhere ran

theorem aside_paired {label : Purpose} (step : PairedStep) :
    Aside uuid5 TransitionResult label step.body := by
  intro s result s' ran
  obtain ⟨retried, middle, first, ended⟩ := paired_cases ran
  have elsewhere : Elsewhere (.operation step.retry.command) := by
    change LeadsElsewhere step.retry.command
    unfold LeadsElsewhere
    obtain kind | kind := step.retry.retries <;> rw [kind] <;> decide
  have moved : SetsAside uuid5 s middle := setsAside_apply elsewhere first
  obtain ⟨-, operation, record, -, -, rest⟩ | ⟨-, -, rfl⟩ := ended
  · cases step with
    | claim =>
      have claims : apply (.claimCompensationRetryAttempt _) middle = .ok (result, s') := rest
      refine moved.trans (setsAside_apply ?_ claims)
      trivial
    | verify =>
      have starts : apply (.startCompensationVerification _) middle = .ok (result, s') := rest
      refine moved.trans (setsAside_apply ?_ starts)
      trivial
  · exact moved

/-! ## Programs -/

/-- No `execute` call. -/
def NoExecute (query : Query) : Prop := ∀ context request, query ≠ .execute context request

/-- Every commit leaves the attempts under way alone, and no question is an `execute` call. -/
abbrev StandsBy (uuid5 : String → OpaqueId) (program : Service α) : Prop :=
  MadeOf (Aside uuid5) NoExecute program

/-- Bystanders follow every track that lets a process rest in the phase it is in. -/
theorem StandsBy.follows {C : Contract Store} {Phase : Type}
    {T : Track Phase Purpose Store Query Answer} {program : Service α} {phase : Phase}
    (standsBy : StandsBy uuid5 program)
    (commits : ∀ {label s s'}, C.inv s → SetsAside uuid5 s s' →
      C.guar s s' ∧ T.commits phase label s s' phase)
    (begins : ∀ {query}, NoExecute query → T.begins phase query phase)
    (returns : ∀ {query answer}, NoExecute query → T.returns phase query answer phase) :
    Follows C T (fun _ phase' _ => phase' = phase) program phase last := by
  refine MadeOf.follows standsBy ?_ (fun _ => begins) (fun _ _ => returns) fun _ _ => rfl
  exact fun β label body aside s b s' inv ran => commits inv (aside s b s' ran)

theorem standsBy_load {read : Store → β} {next : β → Service α}
    (rest : ∀ b, StandsBy uuid5 (next b)) : StandsBy uuid5 (Service.load read >>= next) :=
  madeOf_commit aside_read rest

theorem standsBy_now {next : UtcTimestamp → Service α} (rest : ∀ now, StandsBy uuid5 (next now)) :
    StandsBy uuid5 (Service.now >>= next) :=
  madeOf_question nofun rest

theorem standsBy_lift {value : Except Raised β} {next : β → Service α}
    (rest : ∀ b, value = .ok b → StandsBy uuid5 (next b)) :
    StandsBy uuid5 (Service.lift value >>= next) := by
  cases value with
  | ok b => exact rest b rfl
  | error => trivial

theorem standsBy_loadOperation {operationId : OpaqueId} {next : Operation → Service α}
    (rest : ∀ op, StandsBy uuid5 (next op)) :
    StandsBy uuid5 (loadOperation operationId >>= next) := by
  refine madeOf_commit (fun s op s' ran => ?_) rest
  split at ran
  · cases ran
    exact .refl uuid5 s
  · cases ran

theorem standsBy_trySubmit {command : TransitionCommand}
    {next : Except Raised TransitionResult → Service α} (elsewhere : Elsewhere command)
    (rest : ∀ ended, StandsBy uuid5 (next ended)) :
    StandsBy uuid5 (Service.trySubmit command >>= next) :=
  madeOf_attempt (aside_apply elsewhere) rest

theorem standsBy_loadPolicy {op : Operation} {next : Option PolicyDecision → Service α}
    (rest : ∀ policy, StandsBy uuid5 (next policy)) :
    StandsBy uuid5 (Recovery.loadPolicy op >>= next) := by
  unfold Recovery.loadPolicy
  cases op.currentPolicyDecisionId with
  | none => exact rest none
  | some => exact standsBy_load rest

theorem standsBy_verificationEvidence {provider : String}
    {ended : CallEnd VerificationEvidence} :
    StandsBy uuid5 (Recovery.verificationEvidence provider ended) := by
  cases ended with
  | raisedOther =>
    refine standsBy_now fun observedAt => ?_
    trivial
  | _ => trivial

/-! ## The recovery of an unknown outcome -/

section Recovery

open Recovery

theorem standsBy_attemptForRequest {op : Operation} {request : VerificationRequest} :
    StandsBy uuid5 (attemptForRequest op request) := by
  have latest : StandsBy uuid5 (latestAttempt op) := by
    unfold latestAttempt
    cases op.latestAttemptId with
    | none => trivial
    | some attemptId => exact ⟨aside_read, fun _ => trivial⟩
  unfold attemptForRequest
  cases request.targetAttemptId with
  | none => exact latest
  | some =>
    refine standsBy_load fun targeted => ?_
    cases targeted with
    | none => exact latest
    | some => trivial

theorem standsBy_applyTransition {command : OperationCommand}
    (elsewhere : LeadsElsewhere command) :
    StandsBy uuid5 (applyTransition command) := by
  refine standsBy_trySubmit elsewhere fun ended => ?_
  split
  · trivial
  · trivial
  · repeat' split
    all_goals trivial

theorem verificationBody_elsewhere (action : ReconciliationAction) (ids : RecoveryIds)
    (result : VerificationResult) (descriptor : EffectDescriptor) :
    (verificationBody (verifyingActions action) ids result descriptor).kind.edge.1 ≠
        some .executing ∧
      (verificationBody (verifyingActions action) ids result descriptor).kind.edge.1 ≠
        some .ready := by
  rw [verificationBody_kind]
  cases action <;> decide

theorem standsBy_applyVerificationKind {command : RecoveryCommand} {op : Operation}
    {actor : PrincipalRef} {result : VerificationResult} :
    StandsBy uuid5 (applyVerificationKind registry command op actor result) := by
  refine standsBy_load fun attempts => standsBy_loadPolicy fun policy => ?_
  cases policy with
  | none => trivial
  | some policy =>
    refine standsBy_lift fun descriptor _ => standsBy_load fun rows => standsBy_now fun _ => ?_
    refine MadeOf.bind (standsBy_applyTransition ?_) fun applied => ?_
    · exact verificationBody_elsewhere _ _ _ _
    · cases applied with
      | inr => trivial
      | inl result =>
        dsimp only
        cases result.outcome <;> trivial

theorem standsBy_verifyOriginal {command : RecoveryCommand} {op : Operation}
    {request : VerificationRequest} :
    StandsBy uuid5 (verifyOriginal registry command op request) := by
  refine MadeOf.bind standsBy_attemptForRequest fun attempt => ?_
  refine standsBy_lift fun _ _ => standsBy_lift fun context _ => ?_
  refine standsBy_lift fun verifyRequest _ => madeOf_question nofun fun ended => ?_
  refine MadeOf.bind standsBy_verificationEvidence fun evidence => ?_
  exact standsBy_now fun _ => trivial

theorem aside_persisted {label : Purpose} {result : VerificationResult} :
    Aside uuid5 Unit label (persistVerificationResult result) := by
  intro s b s' ran
  have body : (JournalAction.persistVerificationResult result).body uuid5 s = .ok ((), s') := ran
  unfold persistVerificationResult at ran
  split at ran
  · cases ran
  · split at ran
    · cases ran
      exact .refl uuid5 s
    · cases ran
  · obtain ⟨_, -, rfl⟩ := VerificationRepository.complete_ok ran
    exact ⟨guar_body body, keepsFlights_same rfl rfl, rfl⟩

theorem standsBy_settleVerification {command : RecoveryCommand} {op : Operation}
    {actor : PrincipalRef} {row : VerificationRow} :
    StandsBy uuid5 (settleVerification registry command op actor row) := by
  obtain ⟨request, existing⟩ := row
  unfold settleVerification
  dsimp only
  split
  · trivial
  cases existing with
  | some result => exact standsBy_applyVerificationKind
  | none =>
    refine MadeOf.bind standsBy_verifyOriginal fun result => ?_
    refine madeOf_attempt aside_persisted fun persisted => ?_
    cases persisted with
    | ok => exact standsBy_applyVerificationKind
    | error e =>
      dsimp only [persistFailed]
      repeat' split
      all_goals trivial

theorem standsBy_runVerifyingCycle {command : RecoveryCommand} {op : Operation}
    {actor : PrincipalRef} :
    StandsBy uuid5 (runVerifyingCycle registry command op actor) := by
  unfold runVerifyingCycle
  split
  · trivial
  cases op.latestVerificationId with
  | none => trivial
  | some verificationId =>
    refine standsBy_load fun loaded => ?_
    cases loaded with
    | none => trivial
    | some row => exact standsBy_settleVerification

theorem standsBy_unknownWithoutVerify {command : RecoveryCommand} {op : Operation}
    {actor : PrincipalRef} {descriptor : EffectDescriptor} {first latest : ExecutionAttempt}
    {policy : PolicyDecision} :
    StandsBy uuid5 (unknownWithoutVerify command op actor descriptor first latest policy) := by
  refine standsBy_now fun now => standsBy_lift fun retry _ => standsBy_now fun occurredAt => ?_
  refine MadeOf.bind (standsBy_applyTransition ?_) fun applied => trivial
  unfold unknownWithoutVerifyCommand
  split <;> exact ⟨nofun, nofun⟩

theorem standsBy_unknownStartVerification {command : RecoveryCommand} {op : Operation}
    {actor : PrincipalRef} {latest : ExecutionAttempt} :
    StandsBy uuid5 (unknownStartVerification registry command op actor latest) := by
  refine standsBy_now fun requestedAt => standsBy_now fun occurredAt => ?_
  refine MadeOf.bind (standsBy_applyTransition ⟨nofun, nofun⟩) fun applied => ?_
  dsimp only
  split
  · trivial
  split
  · exact standsBy_loadOperation fun _ => standsBy_runVerifyingCycle
  · exact madeOf_require fun _ => standsBy_runVerifyingCycle

theorem standsBy_recoverUnknown {command : RecoveryCommand} {op : Operation}
    {actor : PrincipalRef} :
    StandsBy uuid5 (recoverUnknown registry command op actor) := by
  have goesOn : ∀ descriptor first latest, StandsBy uuid5
      (recoverUnknownFrom registry command op actor descriptor first latest) := by
    intro descriptor first latest
    refine standsBy_loadPolicy fun policy => ?_
    cases policy with
    | none => trivial
    | some policy =>
      dsimp only
      cases descriptor.verificationMode with
      | none => exact standsBy_unknownWithoutVerify
      | _ => exact standsBy_unknownStartVerification
  refine standsBy_lift fun descriptor _ => standsBy_load fun attempts => ?_
  split
  next first latest _ _ =>
    cases op.latestAttemptId with
    | none => exact goesOn descriptor first latest
    | some attemptId =>
      refine standsBy_load fun row => ?_
      cases row with
      | none => trivial
      | some => exact goesOn descriptor first latest
  · trivial

end Recovery

/-! ## Compensation -/

section Cycle

variable {h : Handling} {descriptor : EffectDescriptor} {op : Operation} {record : Compensation}

theorem standsBy_settled {operationId : OpaqueId} {conflict : CompensationResult}
    {failed : Operation → CompensationResult} {done : CompensationResult → γ}
    {committed : α → Service γ} {ended : Except Raised α}
    (commits : ∀ a, StandsBy uuid5 (committed a)) :
    StandsBy uuid5 (settled operationId conflict failed done committed ended) := by
  cases ended with
  | ok a => exact commits a
  | error e =>
    dsimp only [settled]
    split
    · trivial
    · split
      · exact standsBy_loadOperation fun _ => trivial
      · trivial

theorem standsBy_settleRetry {done : CompensationResult → γ}
    {resume : Operation → Compensation → Service γ} {claimed : Except Raised TransitionResult}
    (resumes : ∀ op record, StandsBy uuid5 (resume op record)) :
    StandsBy uuid5 (settleRetry op record done resume claimed) := by
  refine standsBy_settled fun result => ?_
  split
  · trivial
  · exact madeOf_require fun _ => madeOf_require fun _ => resumes _ _

theorem standsBy_retryAndClaim (retry : RetryCommand) {actor : PrincipalRef}
    {correlationId : Option String} {reasonCode : String} {next : CompensationAttempt}
    {attemptAuditEventId : OpaqueId} {claimedAt : UtcTimestamp}
    {rest : Except Raised TransitionResult → Service α}
    (settles : ∀ claimed, StandsBy uuid5 (rest claimed)) :
    StandsBy uuid5 (Prog.attempt .work (retryAndClaim retry.command
      (retryClaim actor correlationId reasonCode next attemptAuditEventId claimedAt)) >>= rest) :=
  madeOf_attempt
    (aside_paired (.claim retry actor correlationId reasonCode next attemptAuditEventId claimedAt))
    settles

theorem standsBy_maybeClaimRetry {completed : CompensationAttempt} :
    StandsBy uuid5 (maybeClaimRetry registry h descriptor op record completed) := by
  refine standsBy_load fun attempts => standsBy_loadPolicy fun policy => ?_
  cases policy with
  | none => trivial
  | some policy =>
    refine standsBy_now fun now => standsBy_lift fun retryDescriptor _ => ?_
    refine standsBy_lift fun retry _ => ?_
    split
    · trivial
    refine standsBy_lift fun retryIds _ => standsBy_now fun startedAt => ?_
    refine standsBy_now fun occurredAt => standsBy_now fun claimedAt => ?_
    exact standsBy_retryAndClaim ⟨_, .inr rfl⟩ fun _ => standsBy_settleRetry fun _ _ => trivial

theorem buildCompensateOutcomeCommand_elsewhere {decision : CompensateKindDecision}
    {completed : CompensationAttempt} {occurredAt requestedAt : UtcTimestamp}
    {command : TransitionCommand}
    (built : buildCompensateOutcomeCommand h decision op record completed occurredAt requestedAt =
      .ok command) : Elsewhere command := by
  unfold buildCompensateOutcomeCommand at built
  split at built
  · cases built
  split at built
  all_goals cases built
  all_goals first | trivial | exact ⟨nofun, nofun⟩

theorem verifyOutcomeCommand_elsewhere {mapped : CompensateKindDecision}
    {result : VerificationResult} {completed next : Option CompensationAttempt}
    {occurredAt : UtcTimestamp} {attemptNumber : Nat} {command : TransitionCommand}
    (built : verifyOutcomeCommand h mapped op record result completed next descriptor occurredAt
      attemptNumber = .ok command) : Elsewhere command := by
  unfold verifyOutcomeCommand at built
  split at built
  · cases built
  split at built
  case h_5 =>
    split at built
    · cases built
    · cases built
      trivial
  all_goals cases built
  all_goals exact ⟨nofun, nofun⟩

theorem standsBy_recordCompensate {attempt : CompensationAttempt}
    {evidence : CompensationEvidence} :
    StandsBy uuid5 (recordCompensate registry h descriptor op record attempt evidence) := by
  refine standsBy_now fun completedAt => standsBy_loadPolicy fun policy => ?_
  cases policy with
  | none => trivial
  | some policy =>
    refine standsBy_now fun occurredAt => standsBy_now fun requestedAt => ?_
    refine standsBy_lift fun command built => ?_
    refine standsBy_trySubmit (buildCompensateOutcomeCommand_elsewhere built) fun applied => ?_
    refine standsBy_settled fun result => ?_
    split
    · trivial
    refine madeOf_require fun settledOp => madeOf_require fun settledRecord => ?_
    dsimp only
    split
    · trivial
    · exact MadeOf.bind standsBy_maybeClaimRetry fun _ => trivial
    · trivial

theorem standsBy_compensateStep {attempt : CompensationAttempt} :
    StandsBy uuid5 (compensateStep registry h descriptor op record attempt) := by
  unfold compensateStep callCompensate
  refine standsBy_load fun attempts => ?_
  dsimp only
  split
  · exact standsBy_lift fun _ _ => standsBy_recordCompensate
  · exact madeOf_question nofun fun ended => standsBy_lift fun _ _ => standsBy_recordCompensate

theorem standsBy_applyVerified {evidence : Option VerificationEvidence}
    {result : VerificationResult} :
    StandsBy uuid5 (applyVerified h descriptor op record evidence result) := by
  refine standsBy_load fun attempts => standsBy_loadPolicy fun policy => ?_
  cases policy with
  | none => trivial
  | some policy =>
    refine standsBy_load fun rows => standsBy_lift fun mapped _ => ?_
    have completes : StandsBy uuid5 (completedForCommand mapped.kind attempts.getLast? result) := by
      unfold completedForCommand
      split
      · split
        · trivial
        · exact standsBy_now fun _ => trivial
      · trivial
    have chooses : StandsBy uuid5 (nextAttemptForRetry h descriptor mapped.kind record) := by
      unfold nextAttemptForRetry
      split
      · exact standsBy_load fun _ => standsBy_lift fun _ _ => standsBy_now fun _ => trivial
      · trivial
    refine MadeOf.bind completes fun completed => ?_
    split
    · trivial
    refine MadeOf.bind chooses fun next => standsBy_now fun occurredAt => ?_
    refine standsBy_lift fun command built => ?_
    refine standsBy_trySubmit (verifyOutcomeCommand_elsewhere built) fun applied => ?_
    refine standsBy_settled fun result => ?_
    split
    · trivial
    refine madeOf_require fun settledOp => madeOf_require fun settledRecord => ?_
    split
    · exact madeOf_require fun _ => trivial
    · trivial

theorem standsBy_callVerify {request : VerificationRequest} :
    StandsBy uuid5 (callVerify registry h op record request) := by
  refine standsBy_lift fun context _ => standsBy_lift fun _ _ => ?_
  refine madeOf_question nofun fun ended => ?_
  exact MadeOf.bind standsBy_verificationEvidence fun _ => standsBy_now fun _ => trivial

theorem standsBy_verifyStep {existingResult : Option VerificationResult} :
    StandsBy uuid5 (verifyStep registry h descriptor op record existingResult) := by
  unfold verifyStep
  cases existingResult with
  | some result => exact standsBy_applyVerified
  | none =>
    refine standsBy_load fun rows => ?_
    dsimp only
    split
    · trivial
    exact MadeOf.bind standsBy_callVerify fun _ => standsBy_applyVerified

theorem standsBy_runCycle (turns : Nat) {mode : CycleMode} :
    StandsBy uuid5 (runCycle registry h descriptor turns op record mode) := by
  induction turns generalizing op record mode with
  | zero => trivial
  | succ turns ih =>
    have turn : StandsBy uuid5 (cycleStep registry h descriptor op record mode) := by
      cases mode with
      | compensate attempt => exact standsBy_compensateStep
      | verify existingResult => exact standsBy_verifyStep
    refine MadeOf.bind turn fun step => ?_
    cases step with
    | done result => trivial
    | compensate nextOp nextRecord attempt => exact ih
    | verify nextOp nextRecord => exact ih

theorem standsBy_enterCycle {turns : Nat} {mode : CycleMode} :
    StandsBy uuid5 (enterCycle registry h turns op record mode) :=
  standsBy_lift fun _ _ => standsBy_runCycle turns

end Cycle

section Compensations

variable {h : Handling} {op : Operation} {record : Compensation} {turns : Nat}
  {recover : RecoverCompensationCommand → Service (Option CompensationResult)}

theorem standsBy_claimAndCompensate {again : Operation → Service (Option CompensationResult)}
    (goesOn : ∀ fresh, StandsBy uuid5 (again fresh)) :
    StandsBy uuid5 (claimAndCompensate registry h again turns op record) := by
  unfold claimAndCompensate
  split
  · trivial
  refine standsBy_load fun attempts => standsBy_now fun startedAt => ?_
  refine standsBy_now fun occurredAt => standsBy_trySubmit trivial fun claimed => ?_
  refine standsBy_settled fun result => ?_
  cases result.outcome with
  | rejected => trivial
  | alreadyApplied => exact standsBy_loadOperation goesOn
  | applied => exact madeOf_require fun _ => madeOf_require fun _ => standsBy_runCycle turns

theorem standsBy_executeWith (recovers : ∀ command, StandsBy uuid5 (recover command))
    {command : ExecuteCompensationCommand} :
    StandsBy uuid5 (executeWith registry recover turns command) := by
  have dispatches : ∀ turns op,
      StandsBy uuid5 (dispatchExecute registry recover command turns op) := by
    intro turns
    induction turns with
    | zero => exact fun _ => trivial
    | succ turns ih =>
      intro op
      have compensating : ∀ record, StandsBy uuid5 (dispatchCompensating registry recover
          (dispatchExecute registry recover command turns) turns command op record) := by
        intro record
        unfold dispatchCompensating
        cases record.state with
        | pending => exact standsBy_claimAndCompensate ih
        | executing =>
          refine standsBy_load fun attempts => ?_
          split
          · exact recovers _
          · split
            · trivial
            · exact recovers _
        | verifying => exact recovers _
        | _ => trivial
      unfold dispatchExecute
      cases op.state
      case compensating | compensationUnknown | compensationFailed =>
        dsimp only
        split
        · trivial
        refine standsBy_load fun loaded => ?_
        split
        · trivial
        split
        · exact compensating _
        · exact recovers _
      all_goals trivial
  refine standsBy_loadOperation fun op => ?_
  split
  · trivial
  · exact dispatches turns op

theorem standsBy_settleApplied {compensation : Option Compensation}
    {applied : Except Raised TransitionResult} :
    StandsBy uuid5 (settleApplied op compensation applied) := by
  refine standsBy_settled fun result => ?_
  split <;> trivial

theorem standsBy_replayCompletedMapper {latest : CompensationAttempt} :
    StandsBy uuid5 (replayCompletedMapper registry h turns op record latest) := by
  refine standsBy_lift fun descriptor _ => standsBy_loadPolicy fun policy => ?_
  cases policy with
  | none => trivial
  | some policy =>
    refine madeOf_require fun outcome => standsBy_now fun occurredAt => ?_
    refine standsBy_now fun requestedAt => standsBy_lift fun command built => ?_
    refine standsBy_trySubmit (buildCompensateOutcomeCommand_elsewhere built) fun applied => ?_
    refine standsBy_settled fun result => ?_
    split
    · trivial
    refine madeOf_require fun settledOp => madeOf_require fun settledRecord => ?_
    split
    · exact standsBy_enterCycle
    · trivial

theorem standsBy_recoverVerifying :
    StandsBy uuid5 (recoverVerifying registry h turns op record) := by
  refine standsBy_load fun rows => ?_
  split
  · exact standsBy_enterCycle
  refine standsBy_load fun rows => ?_
  split
  · trivial
  · exact standsBy_enterCycle

theorem standsBy_recoverCompensating
    {execute : ExecuteCompensationCommand → Service (Option CompensationResult)}
    (executes : ∀ command, StandsBy uuid5 (execute command)) :
    StandsBy uuid5 (recoverCompensating registry execute turns h op record) := by
  unfold recoverCompensating
  cases record.state with
  | pending => exact executes _
  | executing =>
    refine standsBy_load fun attempts => ?_
    cases attempts.getLast? with
    | none => trivial
    | some latest =>
      dsimp only
      cases latest.state with
      | started =>
        refine standsBy_now fun _ => standsBy_trySubmit ⟨nofun, nofun⟩ fun _ => ?_
        exact standsBy_settleApplied
      | completed => exact standsBy_replayCompletedMapper
  | verifying => exact standsBy_recoverVerifying
  | _ => trivial

theorem standsBy_recoverAgain (recovers : ∀ command, StandsBy uuid5 (recover command))
    {operationId : OpaqueId} : StandsBy uuid5 (recoverAgain recover h operationId) :=
  standsBy_loadOperation fun _ => recovers _

theorem standsBy_unknownRetry (recovers : ∀ command, StandsBy uuid5 (recover command))
    {descriptor : EffectDescriptor} {number : Nat} {reasonCode : String} :
    StandsBy uuid5 (Compensation.unknownRetry registry recover turns h descriptor op record number
      reasonCode) := by
  refine standsBy_lift fun retryIds _ => standsBy_now fun startedAt => ?_
  refine standsBy_now fun occurredAt => standsBy_now fun claimedAt => ?_
  refine standsBy_retryAndClaim ⟨_, .inl rfl⟩ fun claimed => standsBy_settled fun result => ?_
  cases result.outcome with
  | rejected => trivial
  | alreadyApplied => exact standsBy_recoverAgain recovers
  | applied => exact madeOf_require fun _ => madeOf_require fun _ => standsBy_enterCycle

theorem standsBy_unknownStartVerificationOf
    (recovers : ∀ command, StandsBy uuid5 (recover command)) {latest : CompensationAttempt} :
    StandsBy uuid5 (Compensation.unknownStartVerification registry recover turns h op record
      latest) := by
  refine standsBy_lift fun retryIds _ => standsBy_now fun occurredAt => ?_
  refine standsBy_now fun requestedAt => standsBy_now fun startedAt => ?_
  refine madeOf_attempt (aside_paired (.verify ⟨_, .inl rfl⟩ h retryIds latest requestedAt
    startedAt)) fun started => standsBy_settled fun result => ?_
  cases result.outcome with
  | rejected => trivial
  | alreadyApplied => exact standsBy_recoverAgain recovers
  | applied => exact madeOf_require fun _ => madeOf_require fun _ => standsBy_enterCycle

theorem standsBy_recoverWith
    {execute : ExecuteCompensationCommand → Service (Option CompensationResult)}
    (recovers : ∀ command, StandsBy uuid5 (recover command))
    (executes : ∀ command, StandsBy uuid5 (execute command))
    {command : RecoverCompensationCommand} :
    StandsBy uuid5 (recoverWith registry recover execute turns command) := by
  have unknown : ∀ op record, StandsBy uuid5
      (Compensation.recoverUnknown registry recover turns command.handling op record) := by
    intro op record
    refine standsBy_lift fun descriptor _ => standsBy_load fun attempts => ?_
    split
    · trivial
    next latest _ =>
    refine standsBy_loadPolicy fun policy => ?_
    cases policy with
    | none => trivial
    | some policy =>
      dsimp only
      cases descriptor.verificationMode with
      | none =>
        refine standsBy_load fun attempts => madeOf_require fun first => ?_
        refine standsBy_now fun now => standsBy_lift fun retryDescriptor _ => ?_
        refine standsBy_lift fun retry _ => ?_
        split
        · exact standsBy_unknownRetry recovers
        · refine standsBy_now fun _ => standsBy_trySubmit ⟨nofun, nofun⟩ fun _ => ?_
          exact standsBy_settleApplied
      | _ => exact standsBy_unknownStartVerificationOf recovers
  refine standsBy_loadOperation fun op => ?_
  split
  · trivial
  cases op.compensationId with
  | none => trivial
  | some compensationId =>
    refine standsBy_load fun loaded => ?_
    cases loaded with
    | none => trivial
    | some record =>
      dsimp only
      split
      · trivial
      split
      · trivial
      split
      · exact standsBy_recoverCompensating executes
      split
      · exact unknown op record
      · trivial

theorem standsBy_recoverCompensation (turns : Nat) (command : RecoverCompensationCommand) :
    StandsBy uuid5 (recoverCompensation registry turns command) := by
  induction turns generalizing command with
  | zero => trivial
  | succ turns ih => exact standsBy_recoverWith ih fun _ => standsBy_executeWith ih

theorem standsBy_executeCompensation (turns : Nat) (command : ExecuteCompensationCommand) :
    StandsBy uuid5 (executeCompensation registry turns command) :=
  standsBy_executeWith (standsBy_recoverCompensation turns)

end Compensations

end Stateback.Concurrency
