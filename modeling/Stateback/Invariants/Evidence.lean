import Stateback.Invariants.Attempts
import Stateback.Recovery.RetrySafety
/-!
# Recorded outcomes

What the journal itself knows of an effect: the outcome of a completed execution attempt, or the
stored result of an ORIGINAL_EFFECT verification.  Both are final.  The commands that complete an
attempt or a verification of their operation are bound to that record.  `UnknownReconcileApplied`,
`UnknownReconcileNotApplied`, `UnknownSafeRetry` and `ManualSafeRetry` are not: they rest on what
they carry.
-/

namespace Stateback.Invariants

open Domain Persistence Transitions KeyedTable KeyedTable.Table Transaction

variable {s s' : Store} {action : JournalAction}

/-! ## Rows that are final -/

/-- An attempt keeps its identity; completed, it is final. -/
def AttemptKept (row later : ExecutionAttempt) : Prop :=
  later.attemptId = row.attemptId ∧ later.operationId = row.operationId ∧
    (row.state = .completed → later = row)

/-- A request stays as it was asked; a stored result is final. -/
def VerificationKept (row later : VerificationRow) : Prop :=
  later.1 = row.1 ∧ (row.2 ≠ none → later = row)

theorem AttemptKept.refl (row : ExecutionAttempt) : AttemptKept row row :=
  ⟨rfl, rfl, fun _ => rfl⟩

theorem VerificationKept.refl (row : VerificationRow) : VerificationKept row row :=
  ⟨rfl, fun _ => rfl⟩

theorem VerificationKept.trans {a b c : VerificationRow} (first : VerificationKept a b)
    (second : VerificationKept b c) : VerificationKept a c := by
  refine ⟨second.1.trans first.1, fun stored => ?_⟩
  have same := first.2 stored
  exact (second.2 (same ▸ stored)).trans same

theorem VerificationKept.key {a b : VerificationRow} (kept : VerificationKept a b) :
    verificationKey b = verificationKey a := by
  rw [verificationKey, kept.1, verificationKey]

theorem attempts_evolve (step : AttemptsStep action s s') :
    s.attempts.Evolves AttemptKept s'.attempts := by
  cases step with
  | kept same => exact same ▸ Evolves.refl AttemptKept.refl _
  | claimed command loaded attempt asked made carried inserted =>
    have added : Inserted (some attempt) s.attempts s'.attempts := inserted
    exact added.evolves AttemptKept.refl
  | completed completed row accepted carried admitted state found started replaced =>
    rw [replaced]
    refine evolves_replace AttemptKept.refl fun old member same => ?_
    obtain rfl := rows_injOn_key _ member (find?_some found).1 same
    refine ⟨rfl, rfl, fun completed => ?_⟩
    rw [started] at completed
    cases completed

theorem requested_evolves {request? : Option VerificationRequest}
    {t t' : Table verificationKey}
    (inserted : Inserted (request?.map fun request => (request, none)) t t') :
    t.Evolves VerificationKept t' := inserted.evolves VerificationKept.refl

theorem stored_evolves {result? : Option VerificationResult} {t t' : Table verificationKey}
    (stored : ResultStored result? t t') : t.Evolves VerificationKept t' := by
  cases result? with
  | none =>
    obtain rfl : t' = t := stored
    exact Evolves.refl VerificationKept.refl _
  | some result =>
    obtain ⟨request, found, rfl⟩ := stored
    refine evolves_replace VerificationKept.refl fun old member same => ?_
    obtain rfl := rows_injOn_key _ member (find?_some found).1 same
    exact ⟨rfl, fun missing => absurd rfl missing⟩

theorem verifications_evolve (taken : JournalStep action s s') :
    s.verifications.Evolves VerificationKept s'.verifications := by
  have unchanged : s'.verifications = s.verifications →
      s.verifications.Evolves VerificationKept s'.verifications :=
    fun same => same ▸ Evolves.refl VerificationKept.refl _
  cases taken with
  | unchanged same => exact unchanged (by rw [same])
  | created _ _ made => exact unchanged (by rw [made.frame])
  | moved command loaded _ made =>
    obtain ⟨requested, completed, inserted, stored, compensated⟩ := made.related.verifications
    exact (requested_evolves inserted).trans .trans
      ((stored_evolves stored).trans .trans (stored_evolves compensated))
  | progressed progress _ _ _ made =>
    obtain ⟨mid, inserted, stored⟩ := made.written.verifications
    exact (requested_evolves inserted).trans .trans (stored_evolves stored)
  | escalated _ _ made => exact unchanged (by rw [made.frame])
  | republished _ _ _ _ made => exact unchanged (by rw [made.frame])
  | published _ same => exact unchanged (by rw [same])
  | evidencePersisted _ _ _ same => exact unchanged (by rw [same])
  | resultPersisted result verifications same made =>
    rw [same]
    exact stored_evolves made

/-! ## Recorded outcomes -/

/-- The journal records `outcome` of the operation's effect. -/
def Recorded (s : Store) (operationId : OpaqueId) (outcome : EffectOutcome) : Prop :=
  (∃ attempt ∈ s.attempts.rows, attempt.operationId = operationId ∧
      attempt.state = .completed ∧ attempt.outcome = some outcome) ∨
    ∃ row ∈ s.verifications.rows, row.1.operationId = operationId ∧
      row.1.target = .originalEffect ∧ row.2.map (·.outcome) = some outcome

instance (s : Store) (operationId : OpaqueId) (outcome : EffectOutcome) :
    Decidable (Recorded s operationId outcome) :=
  inferInstanceAs (Decidable ((∃ attempt ∈ s.attempts.rows, _) ∨ ∃ row ∈ s.verifications.rows, _))

variable {operationId : OpaqueId} {outcome : EffectOutcome}

/-- What is recorded stays recorded. -/
theorem Recorded.later (recorded : Recorded s operationId outcome)
    (taken : JournalStep action s s') : Recorded s' operationId outcome := by
  obtain ⟨attempt, member, owner, state, known⟩ | ⟨row, member, owner, target, known⟩ := recorded
  · obtain ⟨later, at_, -, -, final⟩ := attempts_evolve (attemptsStep_of taken) attempt member
    obtain rfl := final state
    exact .inl ⟨later, at_, owner, state, known⟩
  · obtain ⟨later, at_, -, final⟩ := verifications_evolve taken row member
    obtain rfl := final (by rintro missing; rw [missing] at known; cases known)
    exact .inr ⟨later, at_, owner, target, known⟩

theorem Recorded.run {uuid5 : String → OpaqueId} (recorded : Recorded s operationId outcome)
    (actions : List JournalAction) :
    Recorded (Stateback.run uuid5 s actions) operationId outcome := by
  have step : ∀ action s s', Recorded s operationId outcome → True → JournalStep action s s' →
      Recorded s' operationId outcome := fun _ _ _ before _ taken => before.later taken
  exact run_preserves step actions (stepwise_true uuid5 s actions) recorded

/-! ## The verification an operation waits for -/

/-- The verification the operation names as its latest is stored and asks about its own effect. -/
def VerifiesItself (s : Store) (operation : Operation) : Prop :=
  ∃ verificationId request stored, operation.latestVerificationId = some verificationId ∧
    s.verification? verificationId = some (request, stored) ∧
    request.operationId = operation.operationId ∧ request.target = .originalEffect

/-- Every operation in VERIFYING waits for a verification of its own. -/
def VerifyingJournal (s : Store) : Prop :=
  ∀ id operation, s.operation? id = some operation → operation.state = .verifying →
    VerifiesItself s operation

theorem VerifiesItself.later {operation : Operation} (verifies : VerifiesItself s operation)
    (taken : JournalStep action s s') : VerifiesItself s' operation := by
  obtain ⟨verificationId, request, stored, named, found, owner, target⟩ := verifies
  obtain ⟨later, at_, same, -⟩ := (verifications_evolve taken).find? VerificationKept.key found
  obtain rfl : later.1 = request := same
  exact ⟨verificationId, later.1, later.2, named, at_, owner, target⟩

/-- Only a command that carries a verification request leads to VERIFYING. -/
theorem verificationRequest_of_verifying {body : CommandBody}
    (target : body.kind.edge.2 = .verifying) :
    ∃ request, body.verificationRequest? = some request := by
  cases body with
  | executionRequireVerification _ request => exact ⟨request, rfl⟩
  | unknownStartVerification request => exact ⟨request, rfl⟩
  | manualStartVerification request => exact ⟨request, rfl⟩
  | _ => cases target

theorem verifiesItself_of_moved {command : OperationCommand} {loaded : Operation}
    (made : OperationMoved command loaded s s') (target : command.kind.edge.2 = .verifying) :
    VerifiesItself s' (movedOperation command loaded) := by
  obtain ⟨request, carried⟩ := verificationRequest_of_verifying target
  obtain ⟨owner, original⟩ := made.verificationRequest_owner carried
  obtain ⟨requested, completed, inserted, stored, compensated⟩ := made.related.verifications
  rw [carried] at inserted
  have there : requested.find? request.verificationId = some (request, none) :=
    (find?_insert inserted _).trans (if_pos rfl)
  have evolves := (stored_evolves stored).trans .trans (stored_evolves compensated)
  obtain ⟨later, at_, same, -⟩ := evolves.find? VerificationKept.key there
  obtain rfl : later.1 = request := same
  refine ⟨later.1.verificationId, later.1, later.2, ?_, at_, owner, original⟩
  simp [movedOperation, steppedOperation, pointersForKind, carried]

theorem VerifyingJournal.step (before : VerifyingJournal s) (taken : JournalStep action s s') :
    VerifyingJournal s' := by
  intro id operation found verifying
  cases taken.operation_origin found with
  | kept same => exact (before id operation same verifying).later taken
  | created command _ made row =>
    rw [row, made.state] at verifying
    cases verifying
  | moved command loaded _ made row =>
    subst row
    exact verifiesItself_of_moved made verifying
  | escalated _ _ _ row =>
    rw [row] at verifying
    cases verifying

theorem verifying_of_reachable {uuid5 : String → OpaqueId} (reachable : Reachable uuid5 s) :
    VerifyingJournal s :=
  reachable.invariant (fun _ _ found => by cases found)
    fun _ _ _ before taken => before.step taken

/-! ## Commands bound to the record -/

/-- The attempt a command carries is COMPLETED once the command is applied, with its outcome. -/
theorem completed_of_moved {command : OperationCommand} {loaded : Operation}
    {completed : ExecutionAttempt} (made : OperationMoved command loaded s s')
    (carried : command.body.completedAttempt? = some completed) :
    ∃ row, s'.attempt? completed.attemptId = some row ∧
      row.operationId = command.operationId ∧ row.state = .completed ∧
      row.outcome = completed.outcome := by
  obtain ⟨row, latest, checked⟩ := made.completedAttempt_checked carried
  obtain ⟨attemptId, -, found⟩ := Option.bind_eq_some_iff.mp latest
  have owner : row.operationId = command.operationId := checked.owner.trans made.operationId
  have key : attemptId = completed.attemptId :=
    ((find?_some found).2.symm.trans checked.attemptId.symm)
  rw [key] at found
  cases state : row.state with
  | completed =>
    have taken : JournalStep (.transition (.operation command)) s s' :=
      .moved command loaded rfl made
    obtain ⟨later, at_, -, -, final⟩ := (attempts_evolve (attemptsStep_of taken)).find? (·.1) found
    obtain rfl := final state
    exact ⟨later, at_, owner, state, (checked.stored state).symm⟩
  | started =>
    have related : (loadRelated s command loaded).loadedAttempt = some row := latest
    have writes : attemptToComplete command (loadRelated s command loaded) = some completed := by
      simp [attemptToComplete, carried, related, state]
    obtain ⟨mid, claimed, written⟩ := made.related.attempts
    rw [writes] at written
    obtain ⟨ended, old, accepted, at_, -, replaced⟩ := written
    obtain rfl : old = row := Option.some.inj (at_.symm.trans (claimed.find?_of_some found))
    refine ⟨AttemptRepository.completedRow old completed accepted, ?_, owner, ended, rfl⟩
    have key : (AttemptRepository.completedRow old completed accepted).attemptId =
        completed.attemptId := (find?_some at_).2
    rw [Store.attempt?, replaced, find?_replace, if_pos key, at_, Option.map_some]

/-- A command that stands for a known outcome of the execution leaves it recorded. -/
theorem recorded_of_execution {command : OperationCommand} {loaded : Operation}
    (made : OperationMoved command loaded s s')
    (expected : command.kind.executionOutcome? = some outcome) (known : outcome ≠ .unknown) :
    Recorded s' command.operationId outcome := by
  obtain ⟨completed, carried⟩ : ∃ completed, command.body.completedAttempt? = some completed := by
    rw [OperationCommand.kind] at expected
    cases body : command.body with
    | executionApplied completed => exact ⟨completed, rfl⟩
    | executionNotAppliedRetry completed => exact ⟨completed, rfl⟩
    | executionNotAppliedFail completed => exact ⟨completed, rfl⟩
    | executionUnknown =>
      rw [body] at expected
      cases expected
      exact absurd rfl known
    | _ => rw [body] at expected; cases expected
  obtain ⟨_, -, checked⟩ := made.completedAttempt_checked carried
  have reports := checked.outcome outcome expected
  obtain ⟨row, found, owner, state, same⟩ := completed_of_moved made carried
  exact .inl ⟨row, (find?_some found).1, owner, state, same.trans reports⟩

/-- The result a command carries is stored once the command is applied, unless one was before. -/
theorem storedResult_of_moved {command : OperationCommand} {loaded : Operation}
    (made : OperationMoved command loaded s s') (verifies : VerifiesItself s loaded)
    {result : VerificationResult} (carried : command.body.verificationResult? = some result) :
    ∃ request known, loaded.latestVerificationId = some result.verificationId ∧
      s'.verification? result.verificationId = some (request, some known) ∧
      known.outcome = result.outcome ∧ request.operationId = command.operationId ∧
      request.target = .originalEffect := by
  obtain ⟨verificationId, request, stored, named, found, owner, target⟩ := verifies
  have checked := made.verificationResult_checked carried
  have same : verificationId = result.verificationId :=
    Option.some.inj (named.symm.trans checked.latest)
  subst same
  rw [made.operationId] at owner
  have existing : (loaded.latestVerificationId.bind s.verification?).bind (·.2) = stored := by
    rw [named, Option.bind_some, found, Option.bind_some]
  cases stored with
  | some known =>
    have taken : JournalStep (.transition (.operation command)) s s' :=
      .moved command loaded rfl made
    obtain ⟨later, at_, -, final⟩ := (verifications_evolve taken).find? VerificationKept.key found
    obtain rfl := final (Option.some_ne_none known)
    exact ⟨request, known, named, at_, checked.stored known existing, owner, target⟩
  | none =>
    have related : (loadRelated s command loaded).existingVerificationResult = none := existing
    have writes : resultToComplete command (loadRelated s command loaded) = some result := by
      simp [resultToComplete, carried, related]
    obtain ⟨requested, completed, inserted, written, compensated⟩ := made.related.verifications
    have there := inserted.find?_of_some found
    rw [writes] at written
    obtain ⟨request', at_, rfl⟩ := written
    rw [there, Option.some.injEq, Prod.mk.injEq] at at_
    obtain ⟨rfl, -⟩ := at_
    have key : request.verificationId = result.verificationId := (find?_some there).2
    have row : (requested.replace (request, some result)).find? result.verificationId =
        some (request, some result) := by
      rw [find?_replace, verificationKey, if_pos key, there, Option.map_some]
    obtain ⟨later, at_, -, final⟩ := (stored_evolves compensated).find? VerificationKept.key row
    obtain rfl := final (Option.some_ne_none result)
    exact ⟨request, result, named, at_, rfl, owner, target⟩

/-- A command that stands for the outcome of the verification leaves it recorded. -/
theorem recorded_of_verification {command : OperationCommand} {loaded : Operation}
    (made : OperationMoved command loaded s s') (verifies : VerifiesItself s loaded)
    (expected : command.kind.verificationOutcome? = some outcome) :
    Recorded s' command.operationId outcome := by
  obtain ⟨result, carried⟩ : ∃ result, command.body.verificationResult? = some result := by
    rw [OperationCommand.kind] at expected
    cases body : command.body with
    | verificationApplied result => exact ⟨result, rfl⟩
    | verificationNotAppliedRetry result => exact ⟨result, rfl⟩
    | verificationNotAppliedFail result => exact ⟨result, rfl⟩
    | verificationInconclusive result => exact ⟨result, rfl⟩
    | _ => rw [body] at expected; cases expected
  have reports := (made.verificationResult_checked carried).outcome outcome expected
  obtain ⟨request, known, -, found, same, owner, target⟩ :=
    storedResult_of_moved made verifies carried
  exact .inr ⟨_, (find?_some found).1, owner, target, by rw [Option.map_some, same, reports]⟩

/-! ## Settled operations -/

/-- The outcome a state claims of the effect. -/
def settledOutcome? : OperationState → Option EffectOutcome
  | .succeeded => some .applied
  | .failed => some .notApplied
  | _ => none

/-- The outcome a reconciliation kind claims, from the decision it carries. -/
def reconciledOutcome? : TransitionKind → Option EffectOutcome
  | .unknownReconcileApplied => some .applied
  | .unknownReconcileNotApplied => some .notApplied
  | _ => none

/-- An accepted reconciliation to an outcome the journal does not record. -/
def ReconcilesUnrecorded (s : Store) : JournalAction → Prop
  | .transition (.operation command) => command.Admitted s ∧
    ∃ outcome, reconciledOutcome? command.kind = some outcome ∧
      ¬Recorded s command.operationId outcome
  | _ => False

theorem settles_by {kind : TransitionKind} (settles : settledOutcome? kind.edge.2 = some outcome) :
    outcome ≠ .unknown ∧ (kind.executionOutcome? = some outcome ∨
      (kind.edge.1 = some .verifying ∧ kind.verificationOutcome? = some outcome) ∨
      reconciledOutcome? kind = some outcome) := by
  revert settles
  cases kind <;> rintro ⟨⟩ <;> decide

structure EvidencedJournal (s : Store) : Prop where
  verifying : VerifyingJournal s
  settled : ∀ id operation outcome, s.operation? id = some operation →
    settledOutcome? operation.state = some outcome → Recorded s id outcome

theorem EvidencedJournal.empty : EvidencedJournal .empty where
  verifying _ _ found := by cases found
  settled _ _ _ found := by cases found

theorem EvidencedJournal.step (before : EvidencedJournal s) (taken : JournalStep action s s')
    (kept : ¬ReconcilesUnrecorded s action) : EvidencedJournal s' := by
  refine ⟨before.verifying.step taken, fun id operation outcome found settles => ?_⟩
  cases taken.operation_origin found with
  | kept same => exact (before.settled id operation outcome same settles).later taken
  | created command _ made row =>
    rw [row, made.state] at settles
    cases settles
  | moved command loaded asked made row same =>
    subst row same asked
    obtain ⟨known, execution | ⟨source, verification⟩ | reconciled⟩ := settles_by settles
    · exact recorded_of_execution made execution known
    · have state := Option.some.inj (made.source.symm.trans source)
      exact recorded_of_verification made (before.verifying _ loaded made.found state) verification
    · by_contra missing
      exact kept ⟨made.admitted, outcome, reconciled, fun recorded =>
        missing (recorded.later taken)⟩
  | escalated _ _ _ row =>
    rw [row] at settles
    cases settles

/-- As long as no reconciliation claims an outcome that is not recorded, whatever ever was
SUCCEEDED has APPLIED on record, and whatever ever was FAILED has NOT_APPLIED. -/
theorem settled_outcome_recorded {uuid5 : String → OpaqueId} {before after : List JournalAction}
    (meets : Stepwise uuid5 (fun s action => ¬ReconcilesUnrecorded s action) .empty
      (before ++ after))
    {operationId : OpaqueId} {operation : Operation}
    (entered : (run uuid5 .empty before).operation? operationId = some operation) :
    (operation.state = .succeeded →
        Recorded (run uuid5 .empty (before ++ after)) operationId .applied) ∧
      (operation.state = .failed →
        Recorded (run uuid5 .empty (before ++ after)) operationId .notApplied) := by
  have journal : EvidencedJournal (run uuid5 .empty before) :=
    run_preserves (fun _ _ _ before kept taken => before.step taken kept) before
      (stepwise_append.mp meets).1 .empty
  have recorded : ∀ outcome, settledOutcome? operation.state = some outcome →
      Recorded (run uuid5 .empty (before ++ after)) operationId outcome := by
    intro outcome settles
    rw [run_append]
    exact (journal.settled operationId operation outcome entered settles).run after
  exact ⟨fun state => recorded _ (by rw [state]; rfl), fun state => recorded _ (by rw [state]; rfl)⟩

def sampleReconciliation (action : ReconciliationAction) : StoredReconciliationDecision where
  reconciliationDecisionId := idOf "reconciliation"
  operationId := idOf "op"
  operationVersion := 4
  verificationId := none
  decision := ⟨action, "reconciled"⟩
  createdAt := ⟨4⟩

/-- An attempt answered NOT_APPLIED, and the operation FAILED on it. -/
def failedActions : List JournalAction :=
  [.transition sampleCreate, .transition sampleAllow,
   .transition (sampleCommand 2 2 "audit-executing"
     (.claimExecution Runtime.sampleAttempt (idOf "audit-attempt"))),
   .transition (sampleCommand 3 3 "audit-failed"
     (.executionNotAppliedFail Runtime.sampleNotApplied (idOf "audit-evidence")))]

theorem settled_outcome_recorded_failed :
    Recorded (run idOf .empty failedActions) (idOf "op") .notApplied := by
  have plain : ∀ command, reconciledOutcome? command.kind = none → ∀ s,
      ¬ReconcilesUnrecorded s (.transition (.operation command)) := by
    rintro command none_ s ⟨-, outcome, reconciles, -⟩
    rw [none_] at reconciles
    cases reconciles
  have meets : Stepwise idOf (fun s action => ¬ReconcilesUnrecorded s action)
      .empty (failedActions ++ []) :=
    ⟨id, plain _ rfl _, plain _ rfl _, plain _ rfl _, trivial⟩
  have entered : (run idOf .empty failedActions).operation? (idOf "op") =
      some { allowedOperation with
        state := .failed
        version := 4
        updatedAt := ⟨3⟩
        latestAttemptId := some (idOf "attempt-1") } := by decide +kernel
  exact (settled_outcome_recorded meets entered).2 rfl

/-- An abandoned attempt, reconciled to SUCCEEDED and to FAILED on the caller's word. -/
def reconciledJournal (body : CommandBody) : Store :=
  act idOf Recovery.unknownJournal
    (.transition (sampleCommand 4 4 "audit-reconciled" body))

theorem reconciledJournal_reachable (body : CommandBody) :
    Reachable idOf (reconciledJournal body) := by
  obtain ⟨actions, reached⟩ := Recovery.unknownJournal_reachable
  exact ⟨actions ++ [_], by rw [run_concat, reached]; rfl⟩

theorem reconciled_without_evidence :
    (∃ s, Reachable idOf s ∧
        (s.operation? (idOf "op")).map (·.state) = some .succeeded ∧
          ¬Recorded s (idOf "op") .applied) ∧
      ∃ s, Reachable idOf s ∧
        (s.operation? (idOf "op")).map (·.state) = some .failed ∧
          ¬Recorded s (idOf "op") .notApplied := by
  constructor
  · refine ⟨reconciledJournal (.unknownReconcileApplied (sampleReconciliation .markSucceeded)
      (idOf "audit-decision")), reconciledJournal_reachable _, ?_⟩
    decide +kernel
  · refine ⟨reconciledJournal (.unknownReconcileNotApplied (sampleReconciliation .markFailed)
      (idOf "audit-decision")), reconciledJournal_reachable _, ?_⟩
    decide +kernel

/-! ## Retries -/

/-- The states another execution attempt is prepared from. -/
def retrySources : List OperationState := [.executing, .verifying, .unknown, .manualIntervention]

/-- Whatever the command brings back to READY has NOT_APPLIED on record in the store it leaves. -/
def RetriesOnRecord (s : Store) (command : TransitionCommand) : Prop :=
  ∀ result s', apply command s = .ok (result, s') → ∀ id before after,
    s.operation? id = some before → before.state ∈ retrySources →
    s'.operation? id = some after → after.state = .ready → Recorded s' id .notApplied

/-- The retry kinds whose outcomes are fields of the command. -/
def assertedRetryKinds : List TransitionKind := [.unknownSafeRetry, .manualSafeRetry]

/-- An accepted retry on asserted outcomes, with no NOT_APPLIED on record. -/
def RetriesUnrecorded (s : Store) : TransitionCommand → Prop
  | .operation command => command.kind ∈ assertedRetryKinds ∧
    ¬Recorded s command.operationId .notApplied ∧
    ∃ loaded, s.operation? command.operationId = some loaded ∧
      (loaded.version : Int) = command.expectedVersion ∧
      command.kind.edge.1 = some loaded.state ∧
      evaluatePreconditions command loaded (loadRelated s command loaded) = none ∧
      Acceptable command loaded (loadRelated s command loaded) s
  | _ => False

theorem retries_by {kind : TransitionKind} {source : OperationState}
    (edge : kind.edge.1 = some source) (known : source ∈ retrySources)
    (target : kind.edge.2 = .ready) :
    kind.executionOutcome? = some .notApplied ∨
      (source = .verifying ∧ kind.verificationOutcome? = some .notApplied) ∨
      kind ∈ assertedRetryKinds := by
  revert edge known target
  cases kind <;> rintro ⟨⟩ <;> decide

/-- An asserted retry writes no related row. -/
theorem assertedRetry_bare {command : OperationCommand}
    (asserted : command.kind ∈ assertedRetryKinds) (related : RelatedRecords) :
    (∃ compensation?, writeRelated command related = pure compensation?) ∧
      (∀ s s', RelatedWritten command related s s' →
        s'.attempts = s.attempts ∧ s'.verifications = s.verifications) ∧
      command.kind.edge.2 = .ready ∧
      (command.kind.edge.1 = some .unknown ∨ command.kind.edge.1 = some .manualIntervention) := by
  obtain ⟨_, _, _, _, _, _, _, body⟩ := command
  cases body with
  | unknownSafeRetry =>
    refine ⟨⟨_, rfl⟩, fun s s' written => ?_, rfl, .inl rfl⟩
    obtain ⟨mid, claimed, completed⟩ := written.attempts
    obtain ⟨requested, stored, inserted, results, compensated⟩ := written.verifications
    exact ⟨completed.trans claimed, compensated.trans (results.trans inserted)⟩
  | manualSafeRetry =>
    refine ⟨⟨_, rfl⟩, fun s s' written => ?_, rfl, .inr rfl⟩
    obtain ⟨mid, claimed, completed⟩ := written.attempts
    obtain ⟨requested, stored, inserted, results, compensated⟩ := written.verifications
    exact ⟨completed.trans claimed, compensated.trans (results.trans inserted)⟩
  | _ => simp [OperationCommand.kind, CommandBody.kind, assertedRetryKinds] at asserted

/-- A retry is applied without a recorded basis exactly on asserted outcomes. -/
theorem retriesOnRecord_iff {uuid5 : String → OpaqueId} (reachable : Reachable uuid5 s)
    (command : TransitionCommand) :
    RetriesOnRecord s command ↔ ¬RetriesUnrecorded s command := by
  constructor
  · intro proven unrecorded
    cases command with
    | operation command =>
      obtain ⟨asserted, missing, loaded, found, version, source, allowed, acceptable⟩ := unrecorded
      obtain ⟨⟨compensation?, bare⟩, silent, target, edge⟩ :=
        assertedRetry_bare asserted (loadRelated s command loaded)
      have key : loaded.operationId = command.operationId := (find?_some found).2
      have known : loaded.state ∈ retrySources ∧
          evaluateOperationTransition (some loaded.state) command.kind.edge.2 = true := by
        rw [target]
        obtain edge | edge := edge <;>
        · rw [source, Option.some.injEq] at edge
          rw [edge]
          decide
      obtain ⟨result, s', ran⟩ :=
        (commitOperation_iff bare (key ▸ found) version).mpr acceptable
      have applied : apply (.operation command) s = .ok (result, s') := by
        rw [apply, applyOperation_current found version source known.2, allowed]
        exact ran
      obtain ⟨-, related, operations, -⟩ := commitOperation_ok ran
      have moved : s'.operation? command.operationId = some (movedOperation command loaded) := by
        rw [movedOperation, operation?_replace_stepped found operations, if_pos rfl]
      have recorded := proven result s' applied _ _ _ found known.1 moved target
      obtain ⟨attempts, verifications⟩ := silent s s' related
      rw [Recorded, attempts, verifications] at recorded
      exact missing recorded
    | _ => exact unrecorded
  · intro recorded result s' ran id before after found source moved ready
    have taken := apply_step ran
    cases taken.operation_origin moved with
    | kept same =>
      rw [found, Option.some.injEq] at same
      rw [same, ready] at source
      exact absurd source (by decide)
    | created _ _ _ _ absent =>
      rw [found] at absent
      cases absent
    | moved command loaded asked made row same =>
      obtain rfl : _ = TransitionCommand.operation command := JournalAction.transition.inj asked
      subst row same
      rw [made.found, Option.some.injEq] at found
      subst found
      obtain execution | ⟨verifying, verification⟩ | asserted :=
        retries_by made.source source ready
      · exact recorded_of_execution made execution (by decide)
      · exact recorded_of_verification made
          (verifying_of_reachable reachable _ loaded made.found verifying) verification
      · by_contra missing
        exact recorded ⟨asserted, fun basis => missing (basis.later taken), loaded, made.found,
          made.version, made.source, made.allowed, made.acceptable⟩
    | escalated _ _ _ row =>
      rw [row] at ready
      cases ready

def sampleSafeRetry : TransitionCommand :=
  sampleCommand 4 4 "audit-retried"
    (.unknownSafeRetry .none none (some .notApplied) (idOf "outbox-retried") none)

/-- The same command after the attempt's evidence came in late and said NOT_APPLIED. -/
def evidencedJournal : Store :=
  act idOf Recovery.unknownJournal
    (.persistAttemptEvidence Runtime.sampleNotApplied)

theorem evidencedJournal_reachable : Reachable idOf evidencedJournal := by
  obtain ⟨actions, reached⟩ := Recovery.unknownJournal_reachable
  exact ⟨actions ++ [_], by rw [run_concat, reached]; rfl⟩

theorem retriesOnRecord_evidenced : RetriesOnRecord evidencedJournal sampleSafeRetry := by
  refine (retriesOnRecord_iff evidencedJournal_reachable _).mpr ?_
  rintro ⟨-, missing, -⟩
  exact missing (by decide +kernel)

/-- The abandoned attempt has no outcome, the command says NOT_APPLIED: READY again. -/
theorem safeRetry_on_asserted_outcome :
    Reachable idOf Recovery.unknownJournal ∧
      ¬RetriesOnRecord Recovery.unknownJournal sampleSafeRetry := by
  refine ⟨Recovery.unknownJournal_reachable, fun proven => ?_⟩
  let retried := act idOf Recovery.unknownJournal (.transition sampleSafeRetry)
  have moved : retried.operation? (idOf "op") = some { Recovery.unknownOperation with
      state := .ready
      version := 5
      updatedAt := ⟨4⟩ } := by decide +kernel
  have missing : ¬Recorded retried (idOf "op") .notApplied := by decide +kernel
  have changed : retried ≠ Recovery.unknownJournal := by
    intro same
    rw [same, Recovery.unknownJournal_operation] at moved
    exact absurd moved (by decide)
  obtain ⟨result, ran⟩ := apply_of_act_ne changed
  exact missing (proven result retried ran _ _ _ Recovery.unknownJournal_operation (by decide)
    moved rfl)

end Stateback.Invariants
