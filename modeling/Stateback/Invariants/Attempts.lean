import Stateback.Invariants.Authorization
import Stateback.Runtime.Termination
/-!
# The history of execution attempts

An attempt appears by the claim of a READY operation and is completed once, by an execution
command or by the direct evidence write; nothing else writes the table.  Two laws about it fail
at one command each: `CancelReady` asks for no attempt to be missing, and a completion
overwrites the provider key unchecked.
-/

namespace Stateback.Invariants

open Domain Persistence Transitions KeyedTable KeyedTable.Table Transaction

variable {s s' : Store} {action : JournalAction}

/-! ## What a step does to the attempts -/

/-- The writes of a step to the attempts table. -/
inductive AttemptsStep (action : JournalAction) (s s' : Store) : Prop where
  | kept (same : s'.attempts = s.attempts)
  | claimed (command : OperationCommand) (loaded : Operation) (attempt : ExecutionAttempt)
      (asked : action = .transition (.operation command))
      (made : OperationMoved command loaded s s')
      (carried : command.body.claimedAttempt? = some attempt)
      (inserted : s.attempts.insert? attempt = some s'.attempts)
  | completed (completed row : ExecutionAttempt)
      (accepted : executionLifecycle completed.state row.startedAt completed.completedAt
        completed.outcome = true)
      (carried : action.completedAttempt? = some completed) (admitted : action.Admitted s)
      (state : completed.state = .completed)
      (found : s.attempt? completed.attemptId = some row) (started : row.state = .started)
      (replaced : s'.attempts =
        s.attempts.replace (AttemptRepository.completedRow row completed accepted))

theorem attemptsStep_of (taken : JournalStep action s s') : AttemptsStep action s s' := by
  cases taken with
  | unchanged same => exact .kept (by rw [same])
  | created command _ made => exact .kept (by rw [made.frame])
  | moved command loaded asked made =>
    obtain ⟨mid, claimed, completed⟩ := made.related.attempts
    cases claims : command.body.claimedAttempt? with
    | some attempt =>
      have plain : attemptToComplete command (loadRelated s command loaded) = none := by
        have silent : command.body.completedAttempt? = none := by
          cases body : command.body with
          | claimExecution => rfl
          | _ => rw [body] at claims; cases claims
        simp [attemptToComplete, silent]
      rw [plain] at completed
      rw [claims] at claimed
      exact .claimed command loaded attempt asked made claims
        ((show s'.attempts = mid from completed) ▸ claimed)
    | none =>
      rw [claims] at claimed
      obtain rfl : mid = s.attempts := claimed
      cases writes : attemptToComplete command (loadRelated s command loaded) with
      | none =>
        rw [writes] at completed
        exact .kept completed
      | some attempt =>
        rw [writes] at completed
        obtain ⟨state, row, accepted, found, started, replaced⟩ := completed
        refine .completed attempt row accepted ?_ ?_ state found started replaced
        · rw [asked]
          exact (made.attemptToComplete_checked writes).1
        · rw [asked]
          exact made.admitted
  | progressed progress _ _ _ made => exact .kept (by rw [made.written.frame])
  | escalated request loaded made => exact .kept (by rw [made.frame])
  | republished _ _ _ _ made => exact .kept (by rw [made.frame])
  | published _ same => exact .kept (by rw [same])
  | evidencePersisted completed attempts asked same made =>
    obtain ⟨state, row, accepted, found, started, replaced⟩ := made
    subst asked
    exact .completed completed row accepted rfl trivial state found started
      (by rw [same]; exact replaced)
  | resultPersisted _ _ same => exact .kept (by rw [same])

/-- Every attempt after a step is an old one, with the same identity, or the claimed one. -/
theorem AttemptsStep.mem_cases (step : AttemptsStep action s s') {attempt : ExecutionAttempt}
    (member : attempt ∈ s'.attempts.rows) :
    attempt ∈ s.attempts.rows ∨
      (∃ command loaded, action = .transition (.operation command) ∧
        OperationMoved command loaded s s' ∧ command.body.claimedAttempt? = some attempt) ∨
      ∃ completed row accepted, action.completedAttempt? = some completed ∧
        s.attempt? completed.attemptId = some row ∧ row.state = .started ∧
        attempt = AttemptRepository.completedRow row completed accepted := by
  cases step with
  | kept same => exact .inl (same ▸ member)
  | claimed command loaded new asked made carried inserted =>
    obtain old | rfl := (mem_insert inserted).mp member
    · exact .inl old
    · exact .inr (.inl ⟨command, loaded, asked, made, carried⟩)
  | completed completed row accepted carried admitted state found started replaced =>
    rw [replaced] at member
    obtain ⟨old, -⟩ | ⟨rfl, -⟩ := mem_replace.mp member
    · exact .inl old
    · exact .inr (.inr ⟨completed, row, accepted, carried, found, started, rfl⟩)

/-- An attempt belongs to an operation that had one before, or to the claimed one. -/
theorem AttemptsStep.owner (step : AttemptsStep action s s') {attempt : ExecutionAttempt}
    (member : attempt ∈ s'.attempts.rows) :
    (∃ old ∈ s.attempts.rows, old.operationId = attempt.operationId) ∨
      ∃ command loaded, OperationMoved command loaded s s' ∧
        command.body.claimedAttempt? = some attempt := by
  obtain old | ⟨command, loaded, -, made, carried⟩ | ⟨_, row, _, -, found, -, rfl⟩ :=
    step.mem_cases member
  · exact .inl ⟨attempt, old, rfl⟩
  · exact .inr ⟨command, loaded, made, carried⟩
  · exact .inl ⟨row, (find?_some found).1, rfl⟩

/-! ## Cancelled operations -/

/-- A `CancelReady` that is accepted for an operation that has an execution attempt. -/
def CancelsExecuted (s : Store) : JournalAction → Prop
  | .transition (.operation command) =>
    command.kind = .cancelReady ∧ command.Admitted s ∧ s.attemptsOf command.operationId ≠ []
  | _ => False

/-- Operations with an attempt are authorized and not ended without execution. -/
structure ExecutedJournal (s : Store) : Prop where
  authorized : AuthorizedJournal s
  running : ∀ attempt ∈ s.attempts.rows, ∀ operation,
    s.operation? attempt.operationId = some operation → operation.state ∉ unauthorizedStates

theorem ExecutedJournal.empty : ExecutedJournal .empty where
  authorized := .empty
  running _ member := by cases member

/-- An executed operation leaves for CANCELLED or DENIED only by `CancelReady`. -/
private theorem cancelReady_of_ended {kind : TransitionKind} {source : OperationState}
    (edge : kind.edge.1 = some source) (running : source ∉ unauthorizedStates)
    (ended : kind.edge.2 ∈ unauthorizedStates) : kind = .cancelReady := by
  revert edge running ended
  cases kind <;> rintro ⟨⟩ <;> decide

theorem ExecutedJournal.step (before : ExecutedJournal s) (taken : JournalStep action s s')
    (kept : ¬CancelsExecuted s action) : ExecutedJournal s' := by
  refine ⟨before.authorized.step taken, fun attempt member operation found => ?_⟩
  obtain ⟨old, oldMember, owner⟩ | ⟨command, loaded, made, carried⟩ :=
    (attemptsStep_of taken).owner member
  · rw [← owner] at found
    obtain ⟨present, at_, -⟩ := before.authorized.attempted old oldMember
    have running := before.running old oldMember
    cases taken.operation_origin found with
    | kept same => exact running operation same
    | created command asked made row absent => rw [absent] at at_; cases at_
    | moved command loaded asked made row id =>
      subst row asked
      intro ended
      rw [id] at running
      refine kept ⟨cancelReady_of_ended made.source (running loaded made.found) ended,
        made.admitted, List.ne_nil_of_mem (mem_select.mpr ⟨oldMember, decide_eq_true id⟩)⟩
    | escalated request loaded made row id =>
      subst row
      exact show OperationState.manualIntervention ∉ unauthorizedStates by decide
  · obtain ⟨owner, -⟩ := made.claimedAttempt_checked carried
    rw [owner, made.operationId, operation?_replace_stepped made.found made.operations,
      if_pos rfl] at found
    cases found
    cases body : command.body with
    | claimExecution =>
      simp [steppedOperation, OperationCommand.kind, body, CommandBody.kind, TransitionKind.edge,
        unauthorizedStates]
    | _ => rw [body] at carried; cases carried

/-- As long as no `CancelReady` meets an executed operation, CANCELLED and DENIED operations
have no execution attempt. -/
theorem ended_never_executed {uuid5 : String → OpaqueId} {actions : List JournalAction}
    (meets : Stepwise uuid5 (fun s action => ¬CancelsExecuted s action) .empty actions)
    {operationId : OpaqueId} {operation : Operation}
    (found : (run uuid5 .empty actions).operation? operationId = some operation)
    (ended : operation.state = .cancelled ∨ operation.state = .denied) :
    (run uuid5 .empty actions).attemptsOf operationId = [] := by
  have journal : ExecutedJournal (run uuid5 .empty actions) :=
    run_preserves (fun action s s' before kept taken => before.step taken kept) actions meets .empty
  refine List.eq_nil_iff_forall_not_mem.mpr fun attempt member => ?_
  obtain ⟨stored, owner⟩ := mem_select.mp member
  refine journal.running attempt stored operation ?_ ?_
  · rw [of_decide_eq_true owner]
    exact found
  · obtain state | state := ended <;> rw [state] <;> decide

def withdrawnActions : List JournalAction :=
  [.transition sampleCreate,
    .transition (sampleCommand 1 1 "audit-cancelled" .cancelPendingPolicy)]

/-- An operation cancelled before its policy was evaluated. -/
theorem ended_never_executed_withdrawn :
    (run idOf .empty withdrawnActions).attemptsOf (idOf "op") = [] := by
  have found : (run idOf .empty withdrawnActions).operation? (idOf "op") =
      some { sampleOperation with state := .cancelled, version := 2, updatedAt := ⟨1⟩ } := by
    decide +kernel
  have meets : Stepwise idOf (fun s action => ¬CancelsExecuted s action) .empty
      withdrawnActions := ⟨id, fun cancels => absurd cancels.1 (by decide), trivial⟩
  exact ended_never_executed meets found (.inl rfl)

/-- An operation retried after NOT_APPLIED is READY, and cancelled with its attempt. -/
def cancelledJournal : Store :=
  run idOf .empty
    [.transition sampleCreate, .transition sampleAllow,
     .transition (sampleCommand 2 2 "audit-executing"
       (.claimExecution Runtime.sampleAttempt (idOf "audit-attempt"))),
     .transition (sampleCommand 3 3 "audit-retry"
       (.executionNotAppliedRetry Runtime.sampleNotApplied .none (idOf "audit-evidence")
         (idOf "outbox-retry") none)),
     .transition (sampleCommand 4 4 "audit-cancelled" .cancelReady)]

theorem executed_operation_cancelled :
    Reachable idOf cancelledJournal ∧
      (cancelledJournal.operation? (idOf "op")).map (·.state) = some .cancelled ∧
      cancelledJournal.attemptsOf (idOf "op") = [Runtime.sampleNotApplied] :=
  ⟨⟨_, rfl⟩, by decide +kernel, by decide +kernel⟩

/-! ## Provider keys -/

/-- The provider keys recorded for one operation are one key. -/
def KeysAgree (s : Store) : Prop :=
  ∀ a ∈ s.attempts.rows, ∀ b ∈ s.attempts.rows, a.operationId = b.operationId →
    a.providerIdempotencyKey ≠ none → b.providerIdempotencyKey ≠ none →
    a.providerIdempotencyKey = b.providerIdempotencyKey

/-- An accepted completion of a STARTED attempt whose key a claim would have refused next to the
operation's other attempts. -/
def Rekeys (s : Store) (action : JournalAction) : Prop :=
  action.Admitted s ∧ ∃ completed row, action.completedAttempt? = some completed ∧
    s.attempt? completed.attemptId = some row ∧ row.state = .started ∧
    idempotencyKeyMismatch
      (((s.attemptsOf row.operationId).filter fun other =>
        decide (other.attemptId ≠ row.attemptId)).map (·.providerIdempotencyKey))
      completed.providerIdempotencyKey = true

theorem key_eq_of_match {earlier : List (Option String)} {key other : Option String}
    (agrees : idempotencyKeyMismatch earlier key = false) (member : other ∈ earlier)
    (keyed : key ≠ none) (recorded : other ≠ none) : other = key := by
  by_contra differs
  have some_ := Option.isSome_iff_ne_none.mpr keyed
  have mismatch : idempotencyKeyMismatch earlier key = true := by
    simp only [idempotencyKeyMismatch, some_, Bool.true_and, List.any_eq_true, Bool.and_eq_true,
      decide_eq_true_eq]
    exact ⟨other, member, Option.isSome_iff_ne_none.mpr recorded, differs⟩
  rw [agrees] at mismatch
  cases mismatch

/-- A row with an agreeing key leaves the keys agreed, whatever row it takes the place of. -/
private theorem KeysAgree.with (before : KeysAgree s) (new : ExecutionAttempt)
    (agrees : ∀ other ∈ s.attempts.rows, other.attemptId ≠ new.attemptId →
      other.operationId = new.operationId → new.providerIdempotencyKey ≠ none →
      other.providerIdempotencyKey ≠ none →
      other.providerIdempotencyKey = new.providerIdempotencyKey)
    (rows : ∀ attempt ∈ s'.attempts.rows,
      (attempt ∈ s.attempts.rows ∧ attempt.attemptId ≠ new.attemptId) ∨ attempt = new) :
    KeysAgree s' := by
  intro a memberA b memberB same keyedA keyedB
  obtain ⟨oldA, differsA⟩ | rfl := rows a memberA <;>
    obtain ⟨oldB, differsB⟩ | rfl := rows b memberB
  · exact before a oldA b oldB same keyedA keyedB
  · exact agrees a oldA differsA same keyedB keyedA
  · exact (agrees b oldB differsB same.symm keyedA keyedB).symm
  · rfl

theorem KeysAgree.step (before : KeysAgree s) (taken : JournalStep action s s')
    (kept : ¬Rekeys s action) : KeysAgree s' := by
  cases attemptsStep_of taken with
  | kept same =>
    unfold KeysAgree
    rw [same]
    exact before
  | claimed command loaded new asked made carried inserted =>
    obtain ⟨owner, -, -, agrees⟩ := made.claimedAttempt_checked carried
    have fresh := (insert?_eq_some.mp inserted).1
    refine before.with new (fun other member _ same keyed recorded => ?_) fun attempt member => ?_
    · have listed : other ∈ s.listAttempts loaded.operationId :=
        (List.mem_insertionSort _).mpr
          (mem_select.mpr ⟨member, decide_eq_true (same.trans owner)⟩)
      exact key_eq_of_match agrees (List.mem_map_of_mem listed) keyed recorded
    · exact ((mem_insert inserted).mp member).imp_left fun old =>
        ⟨old, find?_none.mp fresh attempt old⟩
  | completed completed row accepted carried admitted state found started replaced =>
    have key : row.attemptId = completed.attemptId := (find?_some found).2
    refine before.with (AttemptRepository.completedRow row completed accepted)
      (fun other member differs same keyed recorded => ?_) fun attempt member => ?_
    · by_contra disagrees
      refine kept ⟨admitted, completed, row, carried, found, started, ?_⟩
      by_contra agrees
      refine disagrees (key_eq_of_match (Bool.eq_false_of_not_eq_true agrees)
        (List.mem_map_of_mem (List.mem_filter.mpr ⟨?_, decide_eq_true differs⟩)) keyed recorded)
      exact mem_select.mpr ⟨member, decide_eq_true same⟩
    · rw [replaced] at member
      exact (mem_replace.mp member).imp_right (·.1)

/-- As long as every completion keeps to the operation's key, one key is recorded. -/
theorem provider_keys_agree {uuid5 : String → OpaqueId} {actions : List JournalAction}
    (meets : Stepwise uuid5 (fun s action => ¬Rekeys s action) .empty actions) :
    KeysAgree (run uuid5 .empty actions) :=
  run_preserves (fun _ _ _ before kept taken => before.step taken kept) actions meets
    fun _ member => by cases member

def keyedAttempt (attemptId : String) (attemptNumber : Nat) (key : String) : ExecutionAttempt :=
  { Runtime.sampleAttempt with
    attemptId := idOf attemptId
    attemptNumber := attemptNumber
    providerIdempotencyKey := some key }

def keyedNotApplied (attemptId : String) (attemptNumber : Nat) (key : String) :
    ExecutionAttempt :=
  { Runtime.sampleNotApplied with
    attemptId := idOf attemptId
    attemptNumber := attemptNumber
    providerIdempotencyKey := some key }

/-- A first attempt under one key, answered NOT_APPLIED and retried. -/
def keyedActions : List JournalAction :=
  [.transition sampleCreate, .transition sampleAllow,
   .transition (sampleCommand 2 2 "audit-executing"
     (.claimExecution (keyedAttempt "attempt-1" 1 "key") (idOf "audit-attempt"))),
   .persistAttemptEvidence (keyedNotApplied "attempt-1" 1 "key"),
   .transition (sampleCommand 3 3 "audit-retry"
     (.executionNotAppliedRetry (keyedNotApplied "attempt-1" 1 "key") .none (idOf "audit-evidence")
       (idOf "outbox-retry") none)),
   .transition (sampleCommand 4 4 "audit-executing-2"
     (.claimExecution (keyedAttempt "attempt-2" 2 "key") (idOf "audit-attempt-2")))]

/-- With one attempt a completion has no other key to differ from. -/
private theorem not_rekeys_of_single {s : Store} {action : JournalAction}
    (single : ∀ row ∈ s.attempts.rows, ∀ other ∈ s.attempts.rows, other = row) :
    ¬Rekeys s action := by
  rintro ⟨-, completed, row, -, found, -, mismatch⟩
  have alone : (s.attemptsOf row.operationId).filter
      (fun other => decide (other.attemptId ≠ row.attemptId)) = [] := by
    refine List.filter_eq_nil_iff.mpr fun other member => ?_
    have same := single row (find?_some found).1 other (mem_select.mp member).1
    simp [same]
  rw [alone] at mismatch
  simp [idempotencyKeyMismatch] at mismatch

theorem provider_keys_agree_keyed : KeysAgree (run idOf .empty keyedActions) := by
  refine provider_keys_agree ⟨?_, ?_, ?_, ?_, ?_, ?_, trivial⟩ <;>
  · apply not_rekeys_of_single
    decide +kernel

/-- The second attempt is claimed under the operation's key and completed under another. -/
def rekeyedJournal : Store :=
  run idOf .empty
    (keyedActions ++ [.persistAttemptEvidence (keyedNotApplied "attempt-2" 2 "other-key")])

theorem rekeyed_operation_has_two_keys :
    Reachable idOf rekeyedJournal ∧ ¬KeysAgree rekeyedJournal := by
  refine ⟨⟨_, rfl⟩, ?_⟩
  unfold KeysAgree
  decide +kernel

end Stateback.Invariants
