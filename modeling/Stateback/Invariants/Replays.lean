import Stateback.Invariants.Decisions
/-!
# Replayed commands

`TransitionService.apply` answers ALREADY_APPLIED from what the operation or the record looks
like now: one version ahead and in the state the command leads to.  The history then holds a
move into that state at that version.  It need not be the command's own: another command, from
another state or with another attempt, may have made it.
-/

namespace Stateback.Invariants

open Domain Persistence Transitions Compensation KeyedTable KeyedTable.Table EventLog Transaction

variable {s s' : Store} {uuid5 : String → OpaqueId} {actions : List JournalAction}
  {action : JournalAction}

/-! ## Moves on record -/

/-- The operation's history holds a transition to `version`, from `source` to `target`. -/
def MoveRecorded (s : Store) (operationId : OpaqueId) (version : Int)
    (source target : Option OperationState) : Prop :=
  ∃ event ∈ transitionsOf (s.auditEventsOf operationId),
    (event.operationVersion : Int) = version ∧ event.fromState = source ∧ event.toState = target

instance (s : Store) (operationId : OpaqueId) (version : Int)
    (source target : Option OperationState) :
    Decidable (MoveRecorded s operationId version source target) :=
  inferInstanceAs (Decidable (∃ event ∈ transitionsOf (s.auditEventsOf operationId), _))

/-- Version and state of a compensation record after the first `n` actions of a run. -/
def recordAfter (uuid5 : String → OpaqueId) (actions : List JournalAction) (n : Nat)
    (compensationId : OpaqueId) : Option (Int × CompensationState) :=
  ((run uuid5 .empty (actions.take n)).compensation? compensationId).map fun compensation =>
    (compensation.version, compensation.state)

/-- The run took the record to `version`, from `source` to `target`. -/
def RecordMoved (uuid5 : String → OpaqueId) (actions : List JournalAction)
    (compensationId : OpaqueId) (version : Int) (source target : CompensationState) : Prop :=
  ∃ n < actions.length, recordAfter uuid5 actions n compensationId = some (version - 1, source) ∧
    recordAfter uuid5 actions (n + 1) compensationId = some (version, target)

instance (uuid5 : String → OpaqueId) (actions : List JournalAction) (compensationId : OpaqueId)
    (version : Int) (source target : CompensationState) :
    Decidable (RecordMoved uuid5 actions compensationId version source target) :=
  inferInstanceAs (Decidable (∃ n < actions.length, _))

/-- The run took the record into `target` at `version`, by an edge or a further attempt. -/
def RecordArrived (uuid5 : String → OpaqueId) (actions : List JournalAction)
    (compensationId : OpaqueId) (version : Int) (target : CompensationState) : Prop :=
  ∃ source, RecordMoved uuid5 actions compensationId version source target ∧
    (evaluateCompensationTransition source target = true ∨ source = target)

/-- The move to an operation's present version is on record. -/
theorem moveRecorded_of_moved {operationId : OpaqueId} {operation : Operation}
    (reachable : Reachable uuid5 s) (found : s.operation? operationId = some operation)
    (moved : operation.state ≠ .pendingPolicy) :
    ∃ source, MoveRecorded s operationId operation.version source (some operation.state) ∧
      evaluateOperationTransition source operation.state = true := by
  obtain ⟨-, version, chain, -⟩ := version_matches_audit_chain reachable found
  unfold MoveRecorded
  generalize transitionsOf (s.auditEventsOf operationId) = events at version chain ⊢
  cases events using List.reverseRecOn with
  | nil => exact absurd (Option.some.inj chain).symm moved
  | append_singleton earlier last =>
    rw [List.map_append, chain_append] at chain
    obtain ⟨middle, -, source, step, ⟨state, target, legal⟩, final⟩ := chain
    have arrives : last.toState = some operation.state := final
    obtain rfl : operation.state = state := Option.some.inj (arrives.symm.trans target)
    refine ⟨last.fromState, ⟨last, by simp, ?_, rfl, arrives⟩, legal⟩
    have reached : last.operationVersion = 1 + (earlier.map moveOf).length + 1 := step
    simp only [List.length_append, List.length_map, List.length_singleton] at version reached
    omega

theorem recordArrived_of_found {compensationId : OpaqueId} (actions : List JournalAction)
    {compensation : Compensation}
    (found : (run uuid5 .empty actions).compensation? compensationId = some compensation)
    (moved : compensation.state ≠ .pending) :
    RecordArrived uuid5 actions compensationId compensation.version compensation.state := by
  induction actions using List.reverseRecOn generalizing compensation with
  | nil => cases found
  | append_singleton earlier last ih =>
    rw [run_concat] at found
    -- what an earlier prefix shows, this run shows
    have prefixes : ∀ n ≤ earlier.length, recordAfter uuid5 (earlier ++ [last]) n compensationId =
        recordAfter uuid5 earlier n compensationId := by
      intro n within
      rw [recordAfter, List.take_append_of_le_length within, recordAfter]
    have before : recordAfter uuid5 (earlier ++ [last]) earlier.length compensationId =
        ((run uuid5 .empty earlier).compensation? compensationId).map fun compensation =>
          ((compensation.version : Int), compensation.state) := by
      rw [prefixes _ le_rfl, recordAfter, List.take_length]
    have after : recordAfter uuid5 (earlier ++ [last]) (earlier.length + 1) compensationId =
        some ((compensation.version : Int), compensation.state) := by
      rw [recordAfter, List.take_of_length_le (by simp), run_concat, found, Option.map_some]
    have kept : (run uuid5 .empty earlier).compensation? compensationId = some compensation →
        RecordArrived uuid5 (earlier ++ [last]) compensationId compensation.version
          compensation.state := by
      intro same
      obtain ⟨source, ⟨n, within, left, reached⟩, edge⟩ := ih same moved
      refine ⟨source, ⟨n, by simp; omega, ?_, ?_⟩, edge⟩
      · rw [prefixes n within.le, left]
      · rw [prefixes (n + 1) within, reached]
    have stepped : ∀ {old : Compensation} {state : CompensationState} {updatedAt : UtcTimestamp},
        (run uuid5 .empty earlier).compensation? old.compensationId = some old →
        (evaluateCompensationTransition old.state state = true ∨ old.state = state) →
        (act uuid5 (run uuid5 .empty earlier) last).compensations =
          (run uuid5 .empty earlier).compensations.replace
            (steppedCompensation old state updatedAt) →
        RecordArrived uuid5 (earlier ++ [last]) compensationId compensation.version
          compensation.state := by
      intro old state updatedAt there edge replaced
      rw [compensation?_replace_stepped there replaced] at found
      split at found
      next same =>
        subst same
        cases found
        refine ⟨old.state, ⟨earlier.length, by simp, ?_, after⟩, edge⟩
        rw [before, there]
        simp [steppedCompensation, nextVersion]
      next => exact kept found
    cases compensationsStep_of (act_step uuid5 (run uuid5 .empty earlier) last) with
    | kept same =>
      rw [Store.compensation?, same] at found
      exact kept found
    | started command loaded new _ made carried inserted =>
      rw [Store.compensation?, find?_insert inserted] at found
      split at found
      next =>
        cases found
        exact absurd (made.startedCompensation_owner carried).2 moved
      next => exact kept found
    | moved command loaded record state _ made moves there _ legal replaced =>
      exact stepped there legal replaced
    | progressed progress command _ _ made replaced =>
      exact stepped made.record made.checked.legal replaced

/-- A record that has attempts has left PENDING. -/
def AttemptedMoved (s : Store) : Prop :=
  ∀ row ∈ s.compensationAttempts.rows, ∃ record,
    s.compensation? row.compensationId = some record ∧ record.state ≠ .pending

theorem attemptedMoved_step (before : AttemptedMoved s) (taken : JournalStep action s s') :
    AttemptedMoved s' := by
  intro row member
  obtain ⟨old, stored, same⟩ | ⟨progress, made, owner⟩ :=
    (compensationAttemptsStep_of taken).owner member
  · obtain ⟨record, found, moved⟩ := before old stored
    obtain ⟨later, at_, -, -, edge⟩ :=
      (compensations_evolve (compensationsStep_of taken)).find? (·.1) found
    refine ⟨later, same ▸ at_, ?_⟩
    obtain stays | legal := edge
    · exact stays ▸ moved
    · intro back
      rw [back] at legal
      cases state : record.state <;> rw [state] at legal <;> exact absurd legal (by decide)
  · refine ⟨steppedCompensation progress.compensation progress.newState progress.occurredAt,
      ?_, ?_⟩
    · rw [owner, compensation?_replace_stepped made.record made.written.compensations.2.2,
        if_pos rfl]
    · show progress.newState ≠ .pending
      obtain executing | verifying := made.checked.state
      · simp [executing]
      · simp [verifying]

theorem attemptedMoved_of_reachable (reachable : Reachable uuid5 s) : AttemptedMoved s :=
  reachable.invariant (fun _ member => by cases member)
    fun _ _ _ before taken => attemptedMoved_step before taken

/-- A record that has left PENDING has an attempt, and a VERIFYING one a request. -/
def RecordWritten (s : Store) : Prop :=
  ∀ id record, s.compensation? id = some record →
    (record.state ≠ .pending → ∃ row ∈ s.compensationAttempts.rows, row.compensationId = id) ∧
      (record.state = .verifying → ∃ row ∈ s.verifications.rows,
        row.1.operationId = record.originalOperationId ∧ row.1.target = .compensation)

theorem recordWritten_step (before : RecordWritten s) (taken : JournalStep action s s') :
    RecordWritten s' := by
  have attempted : ∀ {id : OpaqueId},
      (∃ row ∈ s.compensationAttempts.rows, row.compensationId = id) →
        ∃ row ∈ s'.compensationAttempts.rows, row.compensationId = id := by
    rintro id ⟨row, member, owner⟩
    obtain ⟨later, there, -, same⟩ := (compensationAttemptsStep_of taken).evolves row member
    exact ⟨later, there, same.trans owner⟩
  have kept : ∀ {id : OpaqueId} {record : Compensation}, s.compensation? id = some record →
      (record.state ≠ .pending → ∃ row ∈ s'.compensationAttempts.rows, row.compensationId = id) ∧
        (record.state = .verifying → ∃ row ∈ s'.verifications.rows,
          row.1.operationId = record.originalOperationId ∧ row.1.target = .compensation) := by
    intro id record found
    obtain ⟨claimed, asked⟩ := before id record found
    refine ⟨fun moved => attempted (claimed moved), fun verifying => ?_⟩
    obtain ⟨row, member, owner, target⟩ := asked verifying
    obtain ⟨later, there, same, -⟩ := verifications_evolve taken row member
    exact ⟨later, there, same ▸ owner, same ▸ target⟩
  intro id record found
  cases compensationsStep_of taken with
  | kept same =>
    rw [Store.compensation?, same] at found
    exact kept found
  | started command loaded new _ made carried inserted =>
    rw [Store.compensation?, find?_insert inserted] at found
    split at found
    · cases found
      have waits := (made.startedCompensation_owner carried).2
      simp [waits]
    · exact kept found
  | moved command loaded old state _ made moves there checked legal replaced =>
    rw [compensation?_replace_stepped there replaced] at found
    split at found
    next same =>
      subst same
      cases found
      -- only a claim takes a record out of PENDING
      have past : old.state ≠ .pending := by
        intro waits
        have source := made.source
        rw [checked.consistent, waits] at source
        rw [waits] at legal
        revert moves source legal
        cases command.kind <;> simp [compensationTargetState?] <;> rintro rfl <;> decide
      refine ⟨fun _ => (kept there).1 past, fun verifying => ?_⟩
      have target : state = .verifying := verifying
      subst target
      revert moves
      cases command.kind <;> simp [compensationTargetState?]
    next => exact kept found
  | progressed progress _ _ _ made replaced =>
    rw [compensation?_replace_stepped made.record replaced] at found
    split at found
    next same =>
      subst same
      cases found
      obtain ⟨executing, claims⟩ | ⟨verifying, asks⟩ := made.checked.writes
      · refine ⟨fun _ => ?_, fun verifying => ?_⟩
        · obtain ⟨attempt, carried⟩ := Option.ne_none_iff_exists'.mp claims
          obtain ⟨mid, -, inserted⟩ := made.written.compensationAttempts
          exact ⟨attempt, inserted.mem.mpr (.inr carried), (made.checked.attempt _ carried).1⟩
        · cases executing.symm.trans verifying
      · have past : progress.compensation.state ≠ .pending := by
          intro waits
          have legal := made.checked.legal
          rw [waits, verifying] at legal
          exact absurd legal (by decide)
        refine ⟨fun _ => (kept made.record).1 past, fun _ => ?_⟩
        obtain ⟨request, carried⟩ := Option.ne_none_iff_exists'.mp asks
        obtain ⟨owner, target⟩ := made.checked.request request carried
        obtain ⟨mid, inserted, stored⟩ := made.written.verifications
        have member : (request, none) ∈ mid.rows :=
          inserted.mem.mpr (.inr (by rw [carried, Option.map_some]))
        obtain ⟨later, there, same, -⟩ := stored_evolves stored _ member
        have parent : request.operationId = progress.compensation.originalOperationId :=
          owner.trans made.parent.symm
        exact ⟨later, there, same ▸ parent, same ▸ target⟩
    next => exact kept found

theorem recordWritten_of_reachable (reachable : Reachable uuid5 s) : RecordWritten s :=
  reachable.invariant (fun _ _ found => by cases found)
    fun _ _ _ before taken => recordWritten_step before taken

/-! ## What ALREADY_APPLIED says -/

/-- The attempt is stored for the record, still STARTED. -/
def AttemptOpen (s : Store) (compensationId : OpaqueId) (attempt : CompensationAttempt) : Prop :=
  ∃ row, s.compensationAttempt? attempt.compensationAttemptId = some row ∧
    row.compensationId = compensationId ∧ row.state = .started

/-- What a run has done when a command is answered ALREADY_APPLIED. -/
def AlreadyDone (uuid5 : String → OpaqueId) (actions : List JournalAction) :
    TransitionCommand → Prop
  | .create command =>
    ∃ existing, (run uuid5 .empty actions).operation? command.operation.operationId =
        some existing ∧
      existing.state = .pendingPolicy ∧ existing.version = initialOperationVersion ∧
      existing.intent.intentDigest = command.operation.intent.intentDigest
  | .operation command =>
    (∃ source, MoveRecorded (run uuid5 .empty actions) command.operationId
        (command.expectedVersion + 1) source (some command.kind.edge.2) ∧
      evaluateOperationTransition source command.kind.edge.2 = true) ∧
    (command.body.claimedAttempt? ≠ none → ∃ operation,
      (run uuid5 .empty actions).operation? command.operationId = some operation ∧
        ExecutesItself (run uuid5 .empty actions) operation)
  | .claimCompensation command =>
    RecordArrived uuid5 actions command.compensationId
      (command.expectedCompensationVersion + 1) .executing ∧
    ∃ row ∈ (run uuid5 .empty actions).compensationAttempts.rows,
      row.compensationId = command.compensationId
  | .startCompensationVerification command =>
    RecordArrived uuid5 actions command.compensationId
      (command.expectedCompensationVersion + 1) .verifying ∧
    ∃ row ∈ (run uuid5 .empty actions).verifications.rows,
      row.1.operationId = command.operationId ∧ row.1.target = .compensation
  | .claimCompensationRetryAttempt command =>
    (∃ state, RecordArrived uuid5 actions command.compensationId
      (command.expectedCompensationVersion + 1) state) ∧
    AttemptOpen (run uuid5 .empty actions) command.compensationId command.attempt
  | .retryCompensationAfterVerification command =>
    (∃ state, RecordArrived uuid5 actions command.compensationId
      (command.expectedCompensationVersion + 1) state) ∧
    AttemptOpen (run uuid5 .empty actions) command.compensationId command.attempt

section Answers

variable {result : TransitionResult}

theorem create_already {command : CreateOperation}
    (ran : applyCreate command s = .ok (result, s')) (already : result.outcome = .alreadyApplied) :
    ∃ existing, s.operation? command.operation.operationId = some existing ∧
      existing.state = .pendingPolicy ∧ existing.version = initialOperationVersion ∧
      existing.intent.intentDigest = command.operation.intent.intentDigest := by
  have applied : ∀ {t t'}, insertCreated command t = .ok (result, t') →
      result.outcome = .applied := by
    intro t t' inserted
    unfold insertCreated at inserted
    obtain ⟨_, _, -, rest⟩ := bind_ok.mp inserted
    obtain ⟨_, _, -, done⟩ := bind_ok.mp rest
    obtain ⟨rfl, -⟩ := pure_ok.mp done
    rfl
  unfold applyCreate at ran
  dsimp only at ran
  split at ran
  · cases ran
    cases already
  split at ran
  · cases ran
    cases already
  split at ran
  · cases ran
  split at ran
  · cases ran
    cases already
  split at ran
  next existing found =>
    split at ran
    next same => exact ⟨existing, found, same⟩
    split at ran <;>
    · cases ran
      cases already
  next =>
    split at ran
    · cases ran
      cases already
    · rw [applied ran] at already
      cases already

/-- Past the shared guards the answer is that of the method's own branches. -/
theorem withCompensation_already {progress : CompensationProgressKind}
    {operationId compensationId : OpaqueId} {expectedOperationVersion : Int}
    {next : Operation → Compensation → Uow TransitionResult}
    (ran : withCompensation progress operationId expectedOperationVersion compensationId next s =
      .ok (result, s')) (already : result.outcome = .alreadyApplied) :
    ∃ loaded compensation, s.compensation? compensationId = some compensation ∧
      compensation.originalOperationId = operationId ∧
      next loaded compensation s = .ok (result, s') := by
  obtain ⟨-, refused⟩ | ⟨loaded, compensation, operation, -, -, found, parent, rest⟩ :=
    withCompensation_cases ran
  · rw [already] at refused
    cases refused
  · exact ⟨loaded, compensation, found, parent.trans (find?_some operation).2, rest⟩

theorem claimCompensation_already {command : ClaimCompensationExecution}
    (ran : applyClaimCompensation command s = .ok (result, s'))
    (already : result.outcome = .alreadyApplied) :
    ∃ compensation, s.compensation? command.compensationId = some compensation ∧
      (compensation.version : Int) = command.expectedCompensationVersion + 1 ∧
      compensation.state = .executing := by
  unfold applyClaimCompensation at ran
  obtain ⟨loaded, compensation, found, -, rest⟩ := withCompensation_already ran already
  split at rest
  next ahead => exact ⟨compensation, found, ahead.2, ahead.1⟩
  split at rest
  · cases rest
  split at rest
  · cases rest
    cases already
  · rw [(commitClaim_ok rest).2.1] at already
    cases already

theorem startVerification_already {command : StartCompensationVerification}
    (ran : applyStartCompensationVerification command s = .ok (result, s'))
    (already : result.outcome = .alreadyApplied) :
    ∃ compensation, s.compensation? command.compensationId = some compensation ∧
      compensation.originalOperationId = command.operationId ∧
      (compensation.version : Int) = command.expectedCompensationVersion + 1 ∧
      compensation.state = .verifying := by
  unfold applyStartCompensationVerification at ran
  obtain ⟨loaded, compensation, found, parent, rest⟩ := withCompensation_already ran already
  split at rest
  next ahead =>
    split at rest
    next verifying => exact ⟨compensation, found, parent, ahead, verifying⟩
    · cases rest
      cases already
  split at rest
  · cases rest
  dsimp only at rest
  split at rest
  · cases rest
    cases already
  · obtain ⟨-, -, -, applied, -⟩ := commitStartVerification_ok rest
    rw [applied] at already
    cases already

/-- The version-ahead branch of a retry claim looks for the command's own attempt. -/
theorem replayRetry_already {progress : CompensationProgressKind} {loaded : Operation}
    {compensation : Compensation} {attempt : CompensationAttempt}
    (already : (replayRetry progress s loaded compensation attempt).outcome = .alreadyApplied) :
    ∃ latest, s.compensationAttempt? attempt.compensationAttemptId = some latest ∧
      latest.compensationId = compensation.compensationId ∧ latest.state = .started := by
  unfold replayRetry at already
  split at already
  · cases already
  next latest last =>
    split at already
    next same =>
      have listed : latest ∈ s.compensationAttemptsOf compensation.compensationId :=
        (List.perm_insertionSort _ _).mem_iff.mp (List.mem_of_getLast? last)
      obtain ⟨stored, owner⟩ := mem_select.mp listed
      exact ⟨latest, same.2 ▸ find?_of_mem stored, of_decide_eq_true owner, same.1⟩
    · cases already

theorem claimRetry_already {command : ClaimCompensationRetryAttempt}
    (ran : applyClaimCompensationRetryAttempt command s = .ok (result, s'))
    (already : result.outcome = .alreadyApplied) :
    ∃ compensation, s.compensation? command.compensationId = some compensation ∧
      (compensation.version : Int) = command.expectedCompensationVersion + 1 ∧
      AttemptOpen s command.compensationId command.attempt := by
  unfold applyClaimCompensationRetryAttempt at ran
  obtain ⟨loaded, compensation, found, -, rest⟩ := withCompensation_already ran already
  have key : compensation.compensationId = command.compensationId := (find?_some found).2
  split at rest
  next ahead =>
    cases rest
    obtain ⟨latest, stored, owner, started⟩ := replayRetry_already already
    exact ⟨compensation, found, ahead, latest, stored, owner.trans key, started⟩
  split at rest
  · cases rest
  split at rest
  · cases rest
    cases already
  · rw [(commitClaim_ok rest).2.1] at already
    cases already

theorem retryAfterVerification_already {command : RetryCompensationAfterVerification}
    (ran : applyRetryCompensationAfterVerification command s = .ok (result, s'))
    (already : result.outcome = .alreadyApplied) :
    ∃ compensation, s.compensation? command.compensationId = some compensation ∧
      (compensation.version : Int) = command.expectedCompensationVersion + 1 ∧
      AttemptOpen s command.compensationId command.attempt := by
  unfold applyRetryCompensationAfterVerification at ran
  obtain ⟨loaded, compensation, found, -, rest⟩ := withCompensation_already ran already
  have key : compensation.compensationId = command.compensationId := (find?_some found).2
  split at rest
  next ahead =>
    cases rest
    obtain ⟨latest, stored, owner, started⟩ := replayRetry_already already
    exact ⟨compensation, found, ahead, latest, stored, owner.trans key, started⟩
  split at rest
  · cases rest
  dsimp only at rest
  split at rest
  · cases rest
    cases already
  · rw [(commitRetryAfterVerification_ok rest).2.1] at already
    cases already

/-- A record with an attempt of its own has made the move to its version. -/
theorem retry_done {compensationId : OpaqueId} {expectedVersion : Int}
    {attempt : CompensationAttempt}
    (answered : ∃ compensation,
      (run uuid5 .empty actions).compensation? compensationId = some compensation ∧
      (compensation.version : Int) = expectedVersion + 1 ∧
      AttemptOpen (run uuid5 .empty actions) compensationId attempt) :
    (∃ state, RecordArrived uuid5 actions compensationId (expectedVersion + 1) state) ∧
      AttemptOpen (run uuid5 .empty actions) compensationId attempt := by
  obtain ⟨compensation, found, ahead, row, stored, owner, started⟩ := answered
  obtain ⟨record, recorded, moved⟩ :=
    attemptedMoved_of_reachable ⟨actions, rfl⟩ row (find?_some stored).1
  obtain rfl : record = compensation := Option.some.inj (recorded.symm.trans (owner ▸ found))
  exact ⟨⟨record.state, ahead ▸ recordArrived_of_found actions found moved⟩,
    row, stored, owner, started⟩

/-- No operation command leads back to PENDING_POLICY. -/
theorem target_ne_pendingPolicy (body : CommandBody) : body.kind.edge.2 ≠ .pendingPolicy := by
  cases body <;> simp [CommandBody.kind, TransitionKind.edge]

/-- ALREADY_APPLIED means that the move the command asks for is made, by whatever command. -/
theorem already_applied_done {command : TransitionCommand}
    (ran : apply command (run uuid5 .empty actions) = .ok (result, s'))
    (already : result.outcome = .alreadyApplied) : AlreadyDone uuid5 actions command := by
  cases command with
  | create command => exact create_already ran already
  | operation command =>
    have reachable : Reachable uuid5 (run uuid5 .empty actions) := ⟨actions, rfl⟩
    obtain ⟨_, _, applied, -⟩ | ⟨loaded, -, found, ahead, target, -⟩ | ⟨_, -, -, refused, -⟩ :=
      applyOperation_cases ran
    · rw [already] at applied
      cases applied
    · have moved : loaded.state ≠ .pendingPolicy := target ▸ target_ne_pendingPolicy command.body
      obtain ⟨source, recorded, legal⟩ := moveRecorded_of_moved reachable found moved
      rw [ahead, target] at recorded
      refine ⟨⟨source, recorded, target ▸ legal⟩, fun claims => ⟨loaded, found, ?_⟩⟩
      refine executing_of_reachable reachable _ loaded found (target.trans ?_)
      cases body : command.body with
      | claimExecution => rw [OperationCommand.kind, body]; rfl
      | _ => exact absurd (by rw [body]; rfl) claims
    · rw [already] at refused
      cases refused
  | claimCompensation command =>
    obtain ⟨compensation, found, ahead, state⟩ := claimCompensation_already ran already
    have moved : compensation.state ≠ .pending := by simp [state]
    have arrived := recordArrived_of_found actions found moved
    rw [ahead, state] at arrived
    exact ⟨arrived, (recordWritten_of_reachable ⟨actions, rfl⟩ _ _ found).1 moved⟩
  | startCompensationVerification command =>
    obtain ⟨compensation, found, parent, ahead, state⟩ := startVerification_already ran already
    have arrived := recordArrived_of_found actions found (by simp [state])
    rw [ahead, state] at arrived
    exact ⟨arrived, parent ▸ (recordWritten_of_reachable ⟨actions, rfl⟩ _ _ found).2 state⟩
  | claimCompensationRetryAttempt command =>
    exact retry_done (claimRetry_already ran already)
  | retryCompensationAfterVerification command =>
    exact retry_done (retryAfterVerification_already ran already)

end Answers

/-- The allow command delivered again finds its own transition. -/
theorem already_applied_done_redelivered :
    MoveRecorded allowedJournal (idOf "op") 2 (some .pendingPolicy) (some .ready) := by
  have answered : (apply sampleAllow allowedJournal).toOption.map (·.1.outcome) =
      some .alreadyApplied := by decide +kernel
  cases ran : apply sampleAllow allowedJournal with
  | error _ =>
    rw [ran] at answered
    cases answered
  | ok ended =>
    rw [ran] at answered
    obtain ⟨⟨source, ⟨event, listed, version, left, reached⟩, -⟩, -⟩ :=
      already_applied_done ran (Option.some.inj answered)
    refine ⟨event, listed, version, ?_, reached⟩
    have only : ∀ event ∈ transitionsOf (allowedJournal.auditEventsOf (idOf "op")),
        event.fromState = some .pendingPolicy := by decide +kernel
    exact only event listed

/-- A recovery gives up on the attempt and returns the compensation; the next handling asks for a
verification while the attempt is still STARTED. -/
def reopenedActions : List JournalAction :=
  compensatingActions ++
    [.transition (sampleClaim 5 "first" "compensation-attempt"),
     .transition (sampleCommand 5 8 "audit-leftover"
       (.compensationOutcomeUnknown none (idOf "audit-outcome") (idOf "outbox-outcome") none)),
     .transition (sampleCommand 6 9 "audit-reopened"
       (.compensationUnknownRetry (idOf "outbox-reopened"))),
     .transition (.startCompensationVerification
       { operationId := idOf "op"
         expectedOperationVersion := 7
         compensationId := idOf "first"
         expectedCompensationVersion := 4
         completedCompensationAttempt := none
         verificationRequest := buildCompensationVerificationRequest (compensatingOperation 7 9)
           (movedRecord .executing 4 9) (sampleCompensationAttempt "first" "compensation-attempt")
           (idOf "verify-1") ⟨10⟩
         occurredAt := ⟨10⟩
         actor := some compensationActor
         correlationId := none
         reasonCode := "compensation_require_verification"
         attemptAuditEventId := none
         verificationAuditEventId := idOf "audit-requested-1"
         outboxEventId := idOf "outbox-requested-1" })]

/-- The run answers the command ALREADY_APPLIED. -/
def AnswersAlready (actions : List JournalAction) (command : TransitionCommand) : Prop :=
  (apply command (run idOf .empty actions)).toOption.map (·.1.outcome) =
    some .alreadyApplied

instance (actions : List JournalAction) (command : TransitionCommand) :
    Decidable (AnswersAlready actions command) :=
  inferInstanceAs (Decidable (_ = _))

/-- Another worker's claim at the same version. -/
def otherClaim : TransitionCommand :=
  sampleCommand 2 9 "audit-other"
    (.claimExecution { Runtime.sampleAttempt with attemptId := idOf "other" }
      (idOf "audit-attempt-other"))

/-- The claim of a record at a version, with the attempt `other`. -/
def otherCompensationClaim (expectedVersion expectedCompensationVersion : Int) :
    TransitionCommand :=
  .claimCompensation
    { operationId := idOf "op"
      expectedOperationVersion := expectedVersion
      compensationId := idOf "first"
      expectedCompensationVersion := expectedCompensationVersion
      attempt := sampleCompensationAttempt "first" "other"
      occurredAt := ⟨11⟩
      actor := none
      correlationId := none
      reasonCode := "claim"
      attemptAuditEventId := idOf "audit-other" }

/-- A request to verify the record of `requestedJournal` under another id. -/
def otherVerification : TransitionCommand :=
  .startCompensationVerification
    { operationId := idOf "op"
      expectedOperationVersion := 5
      compensationId := idOf "first"
      expectedCompensationVersion := 2
      completedCompensationAttempt := none
      verificationRequest := buildCompensationVerificationRequest (compensatingOperation 5 4)
        (movedRecord .executing 2 7) undoneAttempt (idOf "verify-1") ⟨9⟩
      occurredAt := ⟨9⟩
      actor := none
      correlationId := none
      reasonCode := "compensation_require_verification"
      attemptAuditEventId := none
      verificationAuditEventId := idOf "audit-other"
      outboxEventId := idOf "outbox-other" }

def repeatedRetry : TransitionCommand :=
  .claimCompensationRetryAttempt
    { operationId := idOf "op"
      expectedOperationVersion := 7
      compensationId := idOf "first"
      expectedCompensationVersion := 4
      attempt := sampleCompensationAttempt "first" "compensation-attempt"
      occurredAt := ⟨11⟩
      actor := none
      correlationId := none
      reasonCode := "claim"
      attemptAuditEventId := idOf "audit-other" }

def repeatedRetryAfterVerification : TransitionCommand :=
  .retryCompensationAfterVerification
    { operationId := idOf "op"
      expectedOperationVersion := 7
      compensationId := idOf "first"
      expectedCompensationVersion := 3
      verificationResult := sampleAnswer
      attempt := sampleCompensationAttempt "first" "compensation-attempt"
      idempotencyMode := .natural
      occurredAt := ⟨11⟩
      actor := none
      correlationId := none
      reasonCode := "retry"
      attemptAuditEventId := idOf "audit-other"
      verificationAuditEventId := idOf "audit-other-verification"
      outboxEventId := idOf "outbox-other" }

/-- Another command made the move in each case, from another source state or with rows of its
own; the asked command's attempt or verification request need not be stored. -/
theorem already_applied_by_another :
    (AnswersAlready (compensatingActions.take 3) otherClaim ∧
      (run idOf .empty (compensatingActions.take 3)).attempt? (idOf "other") = none) ∧
    (AnswersAlready (compensatingActions.take 4)
        (sampleCommand 3 9 "audit-other"
          (.verificationApplied sampleAnswer (idOf "audit-answer"))) ∧
      ¬MoveRecorded (run idOf .empty (compensatingActions.take 4)) (idOf "op") 4
        (some .verifying) (some .succeeded)) ∧
    (AnswersAlready (reopenedActions.take 8) (otherCompensationClaim 7 3) ∧
      ¬RecordMoved idOf (reopenedActions.take 8) (idOf "first") 4 .pending .executing ∧
      (run idOf .empty (reopenedActions.take 8)).compensationAttempt?
        (idOf "other") = none) ∧
    (AnswersAlready requestedActions otherVerification ∧
      requestedJournal.verification? (idOf "verify-1") = none) ∧
    (AnswersAlready reopenedActions repeatedRetry ∧
      ¬RecordMoved idOf reopenedActions (idOf "first") 5 .executing .executing) ∧
    (AnswersAlready (reopenedActions.take 8) repeatedRetryAfterVerification ∧
      ¬RecordMoved idOf (reopenedActions.take 8) (idOf "first") 4 .verifying
        .executing) :=
  ⟨by decide +kernel, by decide +kernel, by decide +kernel, by decide +kernel, by decide +kernel,
    by decide +kernel⟩

end Stateback.Invariants
