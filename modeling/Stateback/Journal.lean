import Mathlib.Data.List.Induction
import Stateback.Messaging.Relay
import Stateback.Transitions.Progress
/-!
# Runs of the journal

Everything that writes the journal, as one action each: transition commands, messaging
escalation, the relay's unit of work for a candidate, the publication mark, and the two
evidence writes the services make outside a transition (`runtime/attempt.py`
`persist_attempt_evidence`, `recovery/persist.py` `persist_verification_result`).  A service
unit of work that makes several of these and commits is their sequence.

`run` commits what returns and undoes what raises.  A transaction lost to the database is a
run without that action.
-/

namespace Stateback

open Domain Persistence Transitions Messaging KeyedTable KeyedTable.Table Transaction

/-- `persist_attempt_evidence`. -/
def persistAttemptEvidence (completed : ExecutionAttempt) : Uow Unit :=
  AttemptRepository.complete completed

/-- `persist_verification_result`: a stored result of the same outcome is accepted as is. -/
def persistVerificationResult (result : VerificationResult) : Uow Unit := fun s =>
  match s.verification? result.verificationId with
  | none => .error (.persistenceError "not_found")
  | some (_, some existing) =>
    if existing.outcome = result.outcome then .ok ((), s)
    else .error (.persistenceError "check_violation")
  | some (_, none) => VerificationRepository.complete result s

inductive JournalAction where
  | transition (command : TransitionCommand)
  | escalate (request : MessagingRecovery)
  | recoverCandidate (now cutoff : UtcTimestamp) (maxRecoveries : Nat) (candidateId : OpaqueId)
  | markPublished (eventId : OpaqueId) (publishedAt : UtcTimestamp)
  | persistAttemptEvidence (completed : ExecutionAttempt)
  | persistVerificationResult (result : VerificationResult)
deriving DecidableEq

section

variable (uuid5 : String → OpaqueId)

/-- The transaction body of an action. -/
def JournalAction.body : JournalAction → Uow Unit
  | .transition command => do
    let _ ← apply command
    pure ()
  | .escalate request => do
    let _ ← escalateMessagingRecovery request
    pure ()
  | .recoverCandidate now cutoff maxRecoveries candidateId => do
    let _ ← Messaging.recoverCandidate uuid5 now cutoff maxRecoveries candidateId
    pure ()
  | .markPublished eventId publishedAt => OutboxRepository.markPublished eventId publishedAt
  | .persistAttemptEvidence completed => Stateback.persistAttemptEvidence completed
  | .persistVerificationResult result => Stateback.persistVerificationResult result

/-- The completed attempt an action carries. -/
def JournalAction.completedAttempt? : JournalAction → Option ExecutionAttempt
  | .transition (.operation command) => command.body.completedAttempt?
  | .persistAttemptEvidence completed => some completed
  | _ => none

/-- An operation command counts when its checks accept it, any other action always. -/
def JournalAction.Admitted (s : Store) : JournalAction → Prop
  | .transition (.operation command) => command.Admitted s
  | _ => True

def act (s : Store) (action : JournalAction) : Store := (execute (action.body uuid5) s).1

def run (s : Store) (actions : List JournalAction) : Store := actions.foldl (act uuid5) s

/-- Reachable from the empty journal by any sequence of actions. -/
def Reachable (s : Store) : Prop := ∃ actions, run uuid5 .empty actions = s

end

/-! ## What a committed action did -/

/-- The ways the commit of an action can change the journal: an operation appears and moves
only by the command the action carries. -/
inductive JournalStep (action : JournalAction) (s s' : Store) : Prop where
  | unchanged (same : s' = s)
  | created (command : CreateOperation) (asked : action = .transition (.create command))
      (made : OperationCreated command s s')
  | moved (command : OperationCommand) (loaded : Operation)
      (asked : action = .transition (.operation command))
      (made : OperationMoved command loaded s s')
  | progressed (progress : Progress) (command : TransitionCommand)
      (asked : action = .transition command)
      (checked : Progressing s progress.loaded progress.compensation command)
      (made : progress.Made s s')
  | escalated (request : MessagingRecovery) (loaded : Operation)
      (made : OperationEscalated request loaded s s')
  | republished (uuid5 : String → OpaqueId) (source : OutboxEvent) (operation : Operation)
      (now : UtcTimestamp) (made : Republished uuid5 source operation now s s')
  | published (outboxEvents : Table OutboxEvent.eventId) (same : s' = { s with outboxEvents })
      (row : OutboxEvent) (publishedAt : UtcTimestamp)
      (found : s.outboxEvents.find? row.eventId = some row)
      (made : outboxEvents = s.outboxEvents.replace (OutboxRepository.publishedRow row publishedAt))
  | evidencePersisted (completed : ExecutionAttempt) (attempts : Table ExecutionAttempt.attemptId)
      (asked : action = .persistAttemptEvidence completed) (same : s' = { s with attempts })
      (made : AttemptCompleted (some completed) s.attempts attempts)
  | resultPersisted (result : VerificationResult) (verifications : Table verificationKey)
      (same : s' = { s with verifications })
      (made : ResultStored (some result) s.verifications verifications)

variable {s s' : Store} {u : Unit}

theorem applyOperation_step {command : OperationCommand} {result : TransitionResult}
    (ran : applyOperation command s = .ok (result, s')) :
    JournalStep (.transition (.operation command)) s s' := by
  obtain ⟨loaded, made, -⟩ | ⟨_, same, -⟩ | ⟨_, same, -⟩ := applyOperation_cases ran
  · exact .moved command loaded rfl made
  · exact .unchanged same
  · exact .unchanged same

theorem applyCreate_step {command : CreateOperation} {result : TransitionResult}
    (ran : applyCreate command s = .ok (result, s')) :
    JournalStep (.transition (.create command)) s s' := by
  obtain ⟨made, -⟩ | ⟨same, -⟩ := applyCreate_cases ran
  · exact .created command rfl made
  · exact .unchanged same

theorem progress_step {command : TransitionCommand} {result : TransitionResult}
    (ran : ProgressRan command s s' result) : JournalStep (.transition command) s s' := by
  obtain ⟨progress, checked, made, -⟩ | ⟨same, -⟩ := ran
  · exact .progressed progress command rfl checked made
  · exact .unchanged same

/-- `TransitionService.apply` makes the step of its command. -/
theorem apply_step {command : TransitionCommand} {result : TransitionResult}
    (ran : apply command s = .ok (result, s')) : JournalStep (.transition command) s s' := by
  cases command with
  | create command => exact applyCreate_step ran
  | operation command => exact applyOperation_step ran
  | claimCompensation command => exact progress_step (applyClaimCompensation_ran ran)
  | startCompensationVerification command =>
    exact progress_step (applyStartCompensationVerification_ran ran)
  | claimCompensationRetryAttempt command =>
    exact progress_step (applyClaimCompensationRetryAttempt_ran ran)
  | retryCompensationAfterVerification command =>
    exact progress_step (applyRetryCompensationAfterVerification_ran ran)

theorem escalate_step {action : JournalAction} {request : MessagingRecovery}
    {result : TransitionResult} (ran : escalateMessagingRecovery request s = .ok (result, s')) :
    JournalStep action s s' := by
  obtain ⟨loaded, made, -⟩ | ⟨same, -⟩ := escalateMessagingRecovery_cases ran
  · exact .escalated request loaded made
  · exact .unchanged same

theorem recoverCandidate_step {action : JournalAction} {uuid5 : String → OpaqueId}
    {now cutoff : UtcTimestamp} {maxRecoveries : Nat} {candidateId : OpaqueId} {recovered : Bool}
    (ran : Messaging.recoverCandidate uuid5 now cutoff maxRecoveries candidateId s =
      .ok (recovered, s')) : JournalStep action s s' := by
  obtain ⟨same, -⟩ | ⟨request, loaded, made, -⟩ | ⟨source, operation, made, -⟩ :=
    recoverCandidate_cases ran
  · exact .unchanged same
  · exact .escalated request loaded made
  · exact .republished uuid5 source operation now made

theorem markPublished_step {action : JournalAction} {eventId : OpaqueId}
    {publishedAt : UtcTimestamp}
    (ran : OutboxRepository.markPublished eventId publishedAt s = .ok (u, s')) :
    JournalStep action s s' := by
  obtain same | ⟨row, found, -, same⟩ := OutboxRepository.markPublished_ok ran
  · exact .unchanged same
  · exact .published _ same row publishedAt (find?_of_mem (find?_some found).1) rfl

theorem persistAttemptEvidence_step {completed : ExecutionAttempt}
    (ran : Stateback.persistAttemptEvidence completed s = .ok (u, s')) :
    JournalStep (.persistAttemptEvidence completed) s s' := by
  obtain ⟨state, row, accepted, found, started, same⟩ := AttemptRepository.complete_ok ran
  exact .evidencePersisted completed _ rfl same ⟨state, row, accepted, found, started, rfl⟩

theorem persistVerificationResult_step {action : JournalAction} {result : VerificationResult}
    (ran : Stateback.persistVerificationResult result s = .ok (u, s')) :
    JournalStep action s s' := by
  unfold Stateback.persistVerificationResult at ran
  split at ran
  · cases ran
  · split at ran
    · cases ran
      exact .unchanged rfl
    · cases ran
  · obtain ⟨request, found, same⟩ := VerificationRepository.complete_ok ran
    exact .resultPersisted result _ same ⟨request, found, rfl⟩

/-- Whatever the action, a commit is one of these steps. -/
theorem JournalAction.body_step {uuid5 : String → OpaqueId} {action : JournalAction}
    (ran : action.body uuid5 s = .ok ((), s')) : JournalStep action s s' := by
  cases action with
  | transition command =>
    obtain ⟨_, _, applied, done⟩ := bind_ok.mp ran
    obtain ⟨-, rfl⟩ := pure_ok.mp done
    exact apply_step applied
  | escalate request =>
    obtain ⟨_, _, escalated, done⟩ := bind_ok.mp ran
    obtain ⟨-, rfl⟩ := pure_ok.mp done
    exact escalate_step escalated
  | recoverCandidate now cutoff maxRecoveries candidateId =>
    obtain ⟨_, _, recovered, done⟩ := bind_ok.mp ran
    obtain ⟨-, rfl⟩ := pure_ok.mp done
    exact recoverCandidate_step recovered
  | markPublished eventId publishedAt => exact markPublished_step ran
  | persistAttemptEvidence completed => exact persistAttemptEvidence_step ran
  | persistVerificationResult result => exact persistVerificationResult_step ran

theorem act_transition {uuid5 : String → OpaqueId} {command : TransitionCommand}
    {result : TransitionResult} (ran : apply command s = .ok (result, s')) :
    act uuid5 s (.transition command) = s' := by
  have body : JournalAction.body uuid5 (.transition command) s = .ok ((), s') :=
    bind_ok.mpr ⟨result, s', ran, rfl⟩
  rw [act, execute_ok.mpr body]

/-- A transition action that changes the journal is a command that returned. -/
theorem apply_of_act_ne {uuid5 : String → OpaqueId} {command : TransitionCommand}
    (changed : act uuid5 s (.transition command) ≠ s) :
    ∃ result, apply command s = .ok (result, act uuid5 s (.transition command)) := by
  cases ran : apply command s with
  | ok ended => exact ⟨ended.1, by rw [act_transition ran]⟩
  | error e =>
    have body : JournalAction.body uuid5 (.transition command) s = .error e :=
      bind_error.mpr (.inl ran)
    exact absurd (by rw [act, execute_error.mpr ⟨rfl, body⟩]) changed

/-- An action that raises leaves the journal as it was, which is a step too. -/
theorem act_step (uuid5 : String → OpaqueId) (s : Store) (action : JournalAction) :
    JournalStep action s (act uuid5 s action) := by
  unfold act execute
  split
  next s' ran => exact JournalAction.body_step ran
  next => exact .unchanged rfl

theorem run_concat (uuid5 : String → OpaqueId) (s : Store) (actions : List JournalAction)
    (action : JournalAction) :
    run uuid5 s (actions ++ [action]) = act uuid5 (run uuid5 s actions) action := by
  rw [run, List.foldl_append]
  rfl

theorem run_append (uuid5 : String → OpaqueId) (s : Store) (before after : List JournalAction) :
    run uuid5 s (before ++ after) = run uuid5 (run uuid5 s before) after := by
  rw [run, List.foldl_append]
  rfl

/-- Every action of the run satisfies `C` in the journal it is given. -/
def Stepwise (uuid5 : String → OpaqueId) (C : Store → JournalAction → Prop) :
    Store → List JournalAction → Prop
  | _, [] => True
  | s, action :: rest => C s action ∧ Stepwise uuid5 C (act uuid5 s action) rest

theorem stepwise_append {uuid5 : String → OpaqueId} {C : Store → JournalAction → Prop}
    {before after : List JournalAction} :
    Stepwise uuid5 C s (before ++ after) ↔
      Stepwise uuid5 C s before ∧ Stepwise uuid5 C (run uuid5 s before) after := by
  induction before generalizing s with
  | nil => exact ⟨fun meets => ⟨trivial, meets⟩, fun meets => meets.2⟩
  | cons action rest ih =>
    simp only [List.cons_append, Stepwise, ih, and_assoc]
    rfl

/-- What survives every step that satisfies `C` survives every run of such steps. -/
theorem run_preserves {uuid5 : String → OpaqueId} {C : Store → JournalAction → Prop}
    {P : Store → Prop} (step : ∀ action s s', P s → C s action → JournalStep action s s' → P s')
    (actions : List JournalAction) (meets : Stepwise uuid5 C s actions) (before : P s) :
    P (run uuid5 s actions) := by
  induction actions generalizing s with
  | nil => exact before
  | cons action rest ih =>
    exact ih meets.2 (step action s _ before meets.1 (act_step uuid5 s action))

theorem stepwise_true (uuid5 : String → OpaqueId) (s : Store) (actions : List JournalAction) :
    Stepwise uuid5 (fun _ _ => True) s actions := by
  induction actions generalizing s with
  | nil => trivial
  | cons action rest ih => exact ⟨trivial, ih _⟩

/-- What holds of the empty journal and survives every step from a reachable store holds of every
reachable store. -/
theorem Reachable.induction {uuid5 : String → OpaqueId} {P : Store → Prop} (empty : P .empty)
    (step : ∀ action s s', Reachable uuid5 s → P s → JournalStep action s s' → P s')
    (reachable : Reachable uuid5 s) : P s := by
  obtain ⟨actions, rfl⟩ := reachable
  induction actions using List.reverseRecOn with
  | nil => exact empty
  | append_singleton earlier action ih =>
    rw [run_concat]
    exact step action _ _ ⟨earlier, rfl⟩ ih (act_step uuid5 _ action)

/-- What holds of the empty journal and survives every step holds of every reachable store. -/
theorem Reachable.invariant {uuid5 : String → OpaqueId} {P : Store → Prop} (empty : P .empty)
    (step : ∀ action s s', P s → JournalStep action s s' → P s')
    (reachable : Reachable uuid5 s) : P s := by
  obtain ⟨actions, rfl⟩ := reachable
  exact run_preserves (fun action s s' before _ taken => step action s s' before taken) actions
    (stepwise_true uuid5 _ actions) empty

theorem reachable_apply {uuid5 : String → OpaqueId} {command : TransitionCommand}
    {result : TransitionResult} (reachable : Reachable uuid5 s)
    (ran : apply command s = .ok (result, s')) : Reachable uuid5 s' := by
  obtain ⟨actions, rfl⟩ := reachable
  exact ⟨actions ++ [.transition command], by rw [run_concat, act_transition ran]⟩

/-! ## Operation rows over a run -/

/-- How an operation row of the later journal came to be. -/
inductive OperationOrigin (action : JournalAction) (s s' : Store) (operationId : OpaqueId)
    (later : Operation) : Prop where
  | kept (found : s.operation? operationId = some later)
  | created (command : CreateOperation) (asked : action = .transition (.create command))
      (made : OperationCreated command s s') (row : later = command.operation)
      (absent : s.operation? operationId = none)
  | moved (command : OperationCommand) (loaded : Operation)
      (asked : action = .transition (.operation command))
      (made : OperationMoved command loaded s s')
      (row : later = movedOperation command loaded) (id : operationId = command.operationId)
  | escalated (request : MessagingRecovery) (loaded : Operation)
      (made : OperationEscalated request loaded s s')
      (row : later = steppedOperation loaded .manualIntervention request.occurredAt .unchanged)
      (id : operationId = request.operationId)

theorem JournalStep.operation_origin {action : JournalAction} (taken : JournalStep action s s')
    {operationId : OpaqueId} {later : Operation}
    (found : s'.operation? operationId = some later) :
    OperationOrigin action s s' operationId later := by
  have unchanged : s'.operations = s.operations → OperationOrigin action s s' operationId later :=
    fun same => .kept (by rw [Store.operation?, ← same]; exact found)
  cases taken with
  | unchanged same => exact unchanged (by rw [same])
  | created command asked made =>
    have row := found
    rw [Store.operation?, find?_insert made.operations] at row
    split at row
    next same =>
      subst same
      exact .created command asked made (Option.some.inj row).symm
        (insert?_eq_some.mp made.operations).1
    next => exact .kept row
  | moved command loaded asked made =>
    rw [operation?_replace_stepped made.found made.operations] at found
    split at found
    next same =>
      exact .moved command loaded asked made (Option.some.inj found).symm same.symm
    next => exact .kept found
  | progressed progress _ _ _ made => exact unchanged (by rw [made.written.frame])
  | escalated request loaded made =>
    rw [operation?_replace_stepped made.found made.operations] at found
    split at found
    next same => exact .escalated request loaded made (Option.some.inj found).symm same.symm
    next => exact .kept found
  | republished _ _ _ _ made => exact unchanged (by rw [made.frame])
  | published _ same => exact unchanged (by rw [same])
  | evidencePersisted _ _ _ same => exact unchanged (by rw [same])
  | resultPersisted _ _ same => exact unchanged (by rw [same])

/-- No step removes an operation or changes its intent. -/
theorem JournalStep.operation?_some {action : JournalAction} (taken : JournalStep action s s')
    {operationId : OpaqueId} {operation : Operation}
    (found : s.operation? operationId = some operation) :
    ∃ later, s'.operation? operationId = some later ∧ later.intent = operation.intent := by
  have stepped : ∀ {id loaded state updatedAt pointers}, s.operation? id = some loaded →
      s'.operations = s.operations.replace (steppedOperation loaded state updatedAt pointers) →
      ∃ later, s'.operation? operationId = some later ∧ later.intent = operation.intent := by
    intro id loaded state updatedAt pointers at_ operations
    rw [operation?_replace_stepped at_ operations]
    split
    next same =>
      subst same
      rw [at_, Option.some.injEq] at found
      exact ⟨_, rfl, found ▸ rfl⟩
    next => exact ⟨operation, found, rfl⟩
  have unchanged : s'.operations = s.operations →
      ∃ later, s'.operation? operationId = some later ∧ later.intent = operation.intent :=
    fun same => ⟨operation, by rw [Store.operation?, same]; exact found, rfl⟩
  cases taken with
  | unchanged same => exact unchanged (by rw [same])
  | created command _ made =>
    have inserted : Inserted (some command.operation) s.operations s'.operations :=
      made.operations
    exact ⟨operation, inserted.find?_of_some found, rfl⟩
  | moved command loaded _ made => exact stepped made.found made.operations
  | progressed _ _ _ _ made => exact unchanged (by rw [made.written.frame])
  | escalated request loaded made => exact stepped made.found made.operations
  | republished _ _ _ _ made => exact unchanged (by rw [made.frame])
  | published _ same => exact unchanged (by rw [same])
  | evidencePersisted _ _ _ same => exact unchanged (by rw [same])
  | resultPersisted _ _ same => exact unchanged (by rw [same])

/-- An operation appears only by the creation the step was asked for, as that command has it. -/
theorem JournalStep.operation?_fresh {action : JournalAction} (taken : JournalStep action s s')
    {operationId : OpaqueId} {operation : Operation} (absent : s.operation? operationId = none)
    (found : s'.operation? operationId = some operation) :
    ∃ command, action = .transition (.create command) ∧ operation = command.operation := by
  have stepped : ∀ {id loaded state updatedAt pointers}, s.operation? id = some loaded →
      s'.operations = s.operations.replace (steppedOperation loaded state updatedAt pointers) →
      s'.operation? operationId = none := by
    intro id loaded state updatedAt pointers at_ operations
    rw [operation?_replace_stepped at_ operations, if_neg, absent]
    rintro rfl
    rw [absent] at at_
    cases at_
  have unchanged : s'.operations = s.operations → s'.operation? operationId = none :=
    fun same => by rw [Store.operation?, same]; exact absent
  have impossible : s'.operation? operationId ≠ none := by
    rw [found]
    exact Option.some_ne_none operation
  cases taken with
  | unchanged same => exact absurd (unchanged (by rw [same])) impossible
  | created command asked made =>
    rw [Store.operation?, find?_insert made.operations] at found
    split at found
    · cases found
      exact ⟨command, asked, rfl⟩
    · rw [show s.operations.find? operationId = none from absent] at found
      cases found
  | moved command loaded _ made =>
    exact absurd (stepped made.found made.operations) impossible
  | progressed _ _ _ _ made => exact absurd (unchanged (by rw [made.written.frame])) impossible
  | escalated request loaded made =>
    exact absurd (stepped made.found made.operations) impossible
  | republished _ _ _ _ made => exact absurd (unchanged (by rw [made.frame])) impossible
  | published _ same => exact absurd (unchanged (by rw [same])) impossible
  | evidencePersisted _ _ _ same => exact absurd (unchanged (by rw [same])) impossible
  | resultPersisted _ _ same => exact absurd (unchanged (by rw [same])) impossible

/-- An operation keeps its row or gets a later version. -/
theorem operation_later {action : JournalAction} (taken : JournalStep action s s')
    {operationId : OpaqueId} {operation : Operation}
    (found : s.operation? operationId = some operation) :
    ∃ later, s'.operation? operationId = some later ∧
      (later = operation ∨ operation.version < later.version) := by
  obtain ⟨later, at_, -⟩ := taken.operation?_some found
  refine ⟨later, at_, ?_⟩
  have stepped : ∀ {id loaded}, s.operation? id = some loaded → operationId = id →
      operation.version < loaded.version + 1 := by
    intro id loaded there same
    subst same
    obtain rfl : loaded = operation := Option.some.inj (there.symm.trans found)
    omega
  obtain kept | ⟨command, asked, made, row, absent⟩ | ⟨command, loaded, asked, made, row, id⟩ |
    ⟨request, loaded, made, row, id⟩ := taken.operation_origin at_
  · exact .inl (Option.some.inj (kept.symm.trans found))
  · exact absurd (absent.symm.trans found) (by simp)
  · exact .inr (row ▸ stepped made.found id)
  · exact .inr (row ▸ stepped made.found id)

/-- `command` is the action of the run that put the operation into the journal. -/
def CreatedIn (uuid5 : String → OpaqueId) (actions : List JournalAction)
    (operationId : OpaqueId) (command : CreateOperation) : Prop :=
  ∃ before after, actions = before ++ .transition (.create command) :: after ∧
    (run uuid5 .empty before).operation? operationId = none ∧
    (run uuid5 .empty (before ++ [.transition (.create command)])).operation? operationId =
      some command.operation

/-- Every operation was created in the run, with the intent it still has. -/
theorem created_of_found {uuid5 : String → OpaqueId} {actions : List JournalAction}
    {operationId : OpaqueId} {operation : Operation}
    (found : (run uuid5 .empty actions).operation? operationId = some operation) :
    ∃ command, CreatedIn uuid5 actions operationId command ∧
      operation.intent = command.operation.intent := by
  induction actions using List.reverseRecOn generalizing operation with
  | nil => cases found
  | append_singleton earlier action ih =>
    have taken := act_step uuid5 (run uuid5 .empty earlier) action
    rw [run_concat] at found
    cases present : (run uuid5 .empty earlier).operation? operationId with
    | some old =>
      obtain ⟨command, ⟨before, after, split, absent, made⟩, intent⟩ := ih present
      obtain ⟨later, at_, same⟩ := taken.operation?_some present
      rw [found, Option.some.injEq] at at_
      refine ⟨command, ⟨before, after ++ [action], ?_, absent, made⟩, ?_⟩
      · rw [split, List.append_assoc, List.cons_append]
      · rw [at_, same, intent]
    | none =>
      obtain ⟨command, rfl, rfl⟩ := taken.operation?_fresh present found
      exact ⟨command, ⟨earlier, [], rfl, present, by rw [run_concat]; exact found⟩, rfl⟩

end Stateback
