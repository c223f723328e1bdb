import Stateback.Invariants.Counts
/-!
# Budgets

An operation's policy decision limits its execution attempts, the attempts of its compensation
and its inconclusive verifications.  The transition service does not look at these limits.  They
hold as long as every command that may use one up meets `Disciplined` where it commits.  What an
operator asks for by name is allowed on top.
-/

namespace Stateback.Invariants

open Domain Persistence Transitions Stateback.Runtime Recovery
open KeyedTable KeyedTable.Table Transaction

variable {s s' : Store} {uuid5 : String → OpaqueId} {action : JournalAction}

/-! ## What operators ask for -/

/-- The versions at which operators ask to retry an operation, and its compensation. -/
structure Requests where
  execution : OpaqueId → List Int
  compensation : OpaqueId → List Int

/-- The requests that are about an earlier version. -/
def extra (requests : List Int) (version : Nat) : Nat :=
  requests.countP fun asked => decide (asked < (version : Int))

theorem extra_mono (requests : List Int) {version later : Nat} (older : version ≤ later) :
    extra requests version ≤ extra requests later := by
  refine List.countP_mono_left fun asked _ before => ?_
  simp only [decide_eq_true_eq] at before ⊢
  omega

/-- A request adds one once the version it is about is past. -/
theorem extra_succ {requests : List Int} {version : Nat} (asked : (version : Int) ∈ requests) :
    extra requests version < extra requests (version + 1) := by
  induction requests with
  | nil => cases asked
  | cons first rest ih =>
    have tail := extra_mono rest (Nat.le_add_right version 1)
    simp only [extra, List.countP_cons, decide_eq_true_eq] at ih tail ⊢
    obtain rfl | later := List.mem_cons.mp asked
    · rw [if_neg (by omega), if_pos (by omega)]
      omega
    · have grown := ih later
      split <;> split <;> omega

theorem extra_le (requests : List Int) (version : Nat) :
    extra requests version ≤ requests.length := List.countP_le_length

/-! ## Decisions over a step -/

/-- Only commands on PENDING_POLICY carry a policy decision. -/
theorem pendingPolicy_of_decision {body : CommandBody} {decision : PolicyDecision}
    (carried : body.policyDecision? = some decision) : body.kind.edge.1 = some .pendingPolicy := by
  cases body <;> first | rfl | cases carried

theorem decidedBy_before_moved {command : OperationCommand} {loaded : Operation}
    {decision : PolicyDecision} (made : OperationMoved command loaded s s')
    (past : loaded.state ≠ .pendingPolicy)
    (decided : DecidedBy s' (movedOperation command loaded) decision) :
    DecidedBy s loaded decision := by
  have silent : command.body.policyDecision? = none := by
    cases carried : command.body.policyDecision? with
    | none => rfl
    | some other =>
      have source := made.source
      rw [OperationCommand.kind, pendingPolicy_of_decision carried] at source
      exact absurd (Option.some.inj source).symm past
  have same := made.related.policyDecisions
  rw [silent] at same
  obtain ⟨named, stored, owner, digest⟩ := decided
  refine ⟨?_, ?_, owner, digest⟩
  · simpa [movedOperation, steppedOperation, pointersForKind, silent] using named
  · rwa [Store.policyDecision?, same.of_none] at stored

/-- What decides an operation after a step decided it before, unless it waited for that. -/
theorem decidedBy_before (taken : JournalStep action s s') {id : OpaqueId}
    {operation later : Operation} {decision : PolicyDecision}
    (found : s.operation? id = some operation) (at_ : s'.operation? id = some later)
    (past : operation.state ≠ .pendingPolicy) (decided : DecidedBy s' later decision) :
    DecidedBy s operation decision := by
  cases taken.operation_origin at_ with
  | created command asked made row absent => exact absurd (absent.symm.trans found) (by simp)
  | moved command loaded asked made row mine =>
    subst row mine
    obtain rfl : loaded = operation := Option.some.inj (made.found.symm.trans found)
    exact decidedBy_before_moved made past decided
  | escalated request loaded made row mine =>
    subst row mine
    obtain rfl : loaded = operation := Option.some.inj (made.found.symm.trans found)
    obtain ⟨named, stored, owner, digest⟩ := decided
    rw [Store.policyDecision?, made.frame] at stored
    exact ⟨named, stored, owner, digest⟩
  | kept same =>
    obtain rfl : later = operation := Option.some.inj (same.symm.trans found)
    obtain ⟨named, stored, owner, digest⟩ := decided
    refine ⟨named, ?_, owner, digest⟩
    have unchanged : s'.policyDecisions = s.policyDecisions →
        s.policyDecision? decision.policyDecisionId = some decision := by
      intro same
      rwa [Store.policyDecision?, same] at stored
    cases taken with
    | unchanged same => exact unchanged (by rw [same])
    | created _ _ made => exact unchanged (by rw [made.frame])
    | moved command loaded _ made =>
      cases carried : command.body.policyDecision? with
      | none =>
        have same := made.related.policyDecisions
        rw [carried] at same
        exact unchanged same.of_none
      | some other =>
        have inserted := made.related.policyDecisions
        rw [carried] at inserted
        rw [Store.policyDecision?, find?_insert inserted] at stored
        split at stored
        · -- a decision just inserted is about the operation that moved
          obtain rfl := Option.some.inj stored
          have mine : later.operationId = command.operationId :=
            owner.symm.trans ((made.policyDecision_owner carried).trans made.operationId)
          have key : later.operationId = id := (find?_some same).2
          rw [operation?_replace_stepped made.found made.operations,
            if_pos (mine.symm.trans key), Option.some.injEq] at at_
          rw [← key, mine, made.found, Option.some.injEq] at same
          have version : loaded.version + 1 = later.version := congrArg (·.version) at_
          rw [same] at version
          omega
        · exact stored
    | progressed _ _ _ _ made => exact unchanged (by rw [made.written.frame])
    | escalated _ _ made => exact unchanged (by rw [made.frame])
    | republished _ _ _ _ made => exact unchanged (by rw [made.frame])
    | published _ same => exact unchanged (by rw [same])
    | evidencePersisted _ _ _ same => exact unchanged (by rw [same])
    | resultPersisted _ _ same => exact unchanged (by rw [same])

/-- Past its decision an operation stays decided as it is. -/
theorem decidedBy_after (taken : JournalStep action s s') {id : OpaqueId} {operation : Operation}
    {decision : PolicyDecision} (found : s.operation? id = some operation)
    (past : operation.state ≠ .pendingPolicy) (decided : DecidedBy s operation decision) :
    ∃ later, s'.operation? id = some later ∧ DecidedBy s' later decision := by
  obtain ⟨later, at_, -⟩ := operation_later taken found
  refine ⟨later, at_, ?_⟩
  cases taken.operation_origin at_ with
  | created command asked made row absent => exact absurd (absent.symm.trans found) (by simp)
  | moved command loaded asked made row mine =>
    subst row mine
    obtain rfl : loaded = operation := Option.some.inj (made.found.symm.trans found)
    have silent : command.body.policyDecision? = none :=
      CommandBody.policyDecision?_eq_none fun edge =>
        past (Option.some.inj (made.source.symm.trans edge))
    exact decided.kept (.of_moved made) rfl rfl
      (by simp [movedOperation, steppedOperation, pointersForKind, silent])
  | escalated request loaded made row mine =>
    subst row mine
    obtain rfl : loaded = operation := Option.some.inj (made.found.symm.trans found)
    exact decided.kept (.of_eq (by rw [made.frame]) (by rw [made.frame])) rfl rfl rfl
  | kept same =>
    obtain rfl : later = operation := Option.some.inj (same.symm.trans found)
    obtain ⟨named, stored, owner, digest⟩ := decided
    obtain ⟨row, key⟩ := find?_some stored
    have kept := (Later.step taken).final.policyDecisions _ row trivial
    exact ⟨named, find?_eq_some_iff.mpr ⟨kept, key⟩, owner, digest⟩

theorem startedCompensation_settled {body : CommandBody} {record : Compensation}
    (carried : body.startedCompensation? = some record) {source : OperationState}
    (edge : body.kind.edge.1 = some source) :
    source ∉ unauthorizedStates ∧ source ≠ .pendingPolicy := by
  cases body <;> cases carried <;> cases edge <;> decide

/-- The operation of a compensation record has its decision. -/
def RecordsDecided (s : Store) : Prop :=
  ∀ id record, s.compensation? id = some record → ∃ operation decision,
    s.operation? record.originalOperationId = some operation ∧ DecidedBy s operation decision

theorem recordsDecided_of_reachable (reachable : Reachable uuid5 s) : RecordsDecided s := by
  refine reachable.induction (fun _ _ found => by cases found) ?_
  intro action s s' reachable before taken id record found
  cases at_ : s.compensation? id with
  | some row =>
    obtain ⟨later, there, -, same, -⟩ := compensation?_later taken at_
    obtain rfl : later = record := Option.some.inj (there.symm.trans found)
    obtain ⟨operation, owner, moved⟩ := recordsOwned_of_reachable reachable id row at_
    obtain ⟨other, decision, owner', decided⟩ := before id row at_
    obtain rfl : other = operation := Option.some.inj (owner'.symm.trans owner)
    have past : other.state ≠ .pendingPolicy := fun pending => by
      have unmoved := pendingUnmoved_of_reachable reachable _ other owner pending
      omega
    obtain ⟨after, there', decided'⟩ := decidedBy_after taken owner past decided
    exact ⟨after, decision, same ▸ there', decided'⟩
  | none =>
    obtain ⟨command, loaded, made, carried, owner⟩ := compensation?_fresh taken at_ found
    obtain ⟨settled, past⟩ := startedCompensation_settled carried made.source
    obtain ⟨decision, decided, -⟩ :=
      (authorizedJournal_of_reachable reachable).authorized _ loaded made.found settled
    obtain ⟨after, there, decided'⟩ := decidedBy_after taken made.found past decided
    exact ⟨after, decision, by rw [owner, made.operationId]; exact there, decided'⟩

private theorem movesBetween_created {command : CreateOperation} (reachable : Reachable uuid5 s)
    (made : OperationCreated command s s')
    (absent : s.operation? command.operation.operationId = none) :
    movesBetween s' command.operation.operationId .verifying .unknown = 0 := by
  have silent := (auditChained_of_reachable reachable _).absent absent
  rw [movesBetween_quiet command.operation.operationId made.auditEvents (by simp [createdEvent])
    (by simp [createdEvent]), movesBetween, silent]
  rfl

/-- An operation whose verification was inconclusive has its decision. -/
def InconclusivesDecided (s : Store) : Prop :=
  ∀ id, 0 < movesBetween s id .verifying .unknown → ∃ operation decision,
    s.operation? id = some operation ∧ DecidedBy s operation decision

theorem inconclusivesDecided_of_reachable (reachable : Reachable uuid5 s) :
    InconclusivesDecided s := by
  refine reachable.induction (fun id some_ => absurd some_ (Nat.lt_irrefl 0)) ?_
  intro action s s' reachable before taken id some_
  cases found : s'.operation? id with
  | none =>
    have absent : s.operation? id = none := by
      cases at_ : s.operation? id with
      | none => rfl
      | some operation =>
        obtain ⟨after, there, -⟩ := operation_later taken at_
        exact absurd (there.symm.trans found) (by simp)
    rw [movesBetween_kept taken (found.trans absent.symm)] at some_
    obtain ⟨operation, -, at_, -⟩ := before id some_
    exact absurd (at_.symm.trans absent) (by simp)
  | some later =>
    -- an operation that had such a verification keeps its decision
    have kept : 0 < movesBetween s id .verifying .unknown →
        ∃ decision, DecidedBy s' later decision := by
      intro counted
      obtain ⟨operation, decision, at_, decided⟩ := before id counted
      have past : operation.state ≠ .pendingPolicy := fun pending => by
        rw [movesBetween_of_pendingPolicy reachable at_ pending] at counted
        exact Nat.lt_irrefl 0 counted
      obtain ⟨after, there, decided'⟩ := decidedBy_after taken at_ past decided
      exact ⟨decision, Option.some.inj (there.symm.trans found) ▸ decided'⟩
    refine ⟨later, ?_⟩
    suffices decided : ∃ decision, DecidedBy s' later decision from
      decided.imp fun _ decided => ⟨rfl, decided⟩
    cases taken.operation_origin found with
    | kept same => exact kept (movesBetween_kept taken (found.trans same.symm) ▸ some_)
    | created command asked made row absent =>
      subst row
      obtain rfl : command.operation.operationId = id := (find?_some found).2
      rw [movesBetween_created reachable made absent] at some_
      exact absurd some_ (Nat.lt_irrefl 0)
    | moved command loaded asked made row mine =>
      subst row mine
      rw [movesBetween_moved made] at some_
      by_cases edge : command.kind.edge = (some .verifying, .unknown)
      · have source := Option.some.inj (made.source.symm.trans (congrArg Prod.fst edge))
        obtain ⟨decision, decided, -⟩ := (authorizedJournal_of_reachable reachable).authorized _
          loaded made.found (by rw [source]; decide)
        obtain ⟨after, there, decided'⟩ := decidedBy_after taken made.found
          (by rw [source]; decide) decided
        exact ⟨decision, Option.some.inj (there.symm.trans found) ▸ decided'⟩
      · rw [if_neg fun both => edge both.2] at some_
        exact kept some_
    | escalated request loaded made row mine =>
      subst row mine
      rw [movesBetween_escalated made, if_neg (by simp)] at some_
      exact kept some_

/-! ## The invariant -/

/-- Execution attempts, one about to be claimed in READY included, are within the cap. -/
def AttemptsWithin (requests : Requests) (s : Store) (operation : Operation)
    (obligations : PolicyObligations) : Prop :=
  ((s.attemptsOf operation.operationId).length : Int) +
      (if operation.state = .ready then 1 else 0) ≤
    maxAutomaticAttempts obligations +
      extra (requests.execution operation.operationId) operation.version

/-- `n` attempts of a record of the operation are within the cap. -/
def RecordAttemptsWithin (requests : Requests) (n : Nat) (operation : Operation)
    (obligations : PolicyObligations) : Prop :=
  (n : Int) ≤ maxAutomaticAttempts obligations +
    extra (requests.compensation operation.operationId) operation.version

/-- `n` inconclusive verifications leave one to spare. -/
def InconclusivesWithin (n : Nat) (obligations : PolicyObligations) : Prop :=
  (n : Int) + 1 ≤ maxAutomaticRecoveryAttempts obligations

structure Budgeted (requests : Requests) (s : Store) : Prop where
  attempts : ∀ id operation decision, s.operation? id = some operation →
    DecidedBy s operation decision → AttemptsWithin requests s operation decision.obligations
  recordAttempts : ∀ id record operation decision, s.compensation? id = some record →
    s.operation? record.originalOperationId = some operation → DecidedBy s operation decision →
      RecordAttemptsWithin requests (s.compensationAttemptsOf id).length operation
        decision.obligations
  inconclusives : ∀ id operation decision, s.operation? id = some operation →
    DecidedBy s operation decision →
      InconclusivesWithin (movesBetween s id .verifying .unknown) decision.obligations

/-- The kinds that give an operation another execution attempt. -/
def retryKinds : List TransitionKind :=
  [.executionNotAppliedRetry, .verificationNotAppliedRetry, .unknownSafeRetry, .manualSafeRetry]

/-- What an operation command has to meet where it finds the operation at its version. -/
def OperationDisciplined (requests : Requests) (s : Store) (command : OperationCommand) : Prop :=
  ∀ loaded decision, s.operation? command.operationId = some loaded →
    (loaded.version : Int) = command.expectedVersion → DecidedBy s loaded decision →
      (command.kind ∈ retryKinds → ((s.attemptsOf loaded.operationId).length : Int) + 1 ≤
        maxAutomaticAttempts decision.obligations +
          extra (requests.execution loaded.operationId) (loaded.version + 1)) ∧
      (command.kind = .verificationInconclusive → InconclusivesWithin
        (movesBetween s loaded.operationId .verifying .unknown + 1) decision.obligations)

/-- What a command that retries a compensation has to meet where its checks pass. -/
def RetryDisciplined (requests : Requests) (s : Store) (command : TransitionCommand) : Prop :=
  ∀ loaded record decision, Progressing s loaded record command → DecidedBy s loaded decision →
    RecordAttemptsWithin requests ((s.compensationAttemptsOf record.compensationId).length + 1)
      loaded decision.obligations

/-- The discipline of an action. -/
def Disciplined (requests : Requests) (s : Store) : JournalAction → Prop
  | .transition (.operation command) => OperationDisciplined requests s command
  | .transition (.claimCompensationRetryAttempt command) =>
    RetryDisciplined requests s (.claimCompensationRetryAttempt command)
  | .transition (.retryCompensationAfterVerification command) =>
    RetryDisciplined requests s (.retryCompensationAfterVerification command)
  | _ => True

theorem one_le_maxAutomaticAttempts (obligations : PolicyObligations) :
    1 ≤ maxAutomaticAttempts obligations := by
  unfold maxAutomaticAttempts
  split
  · exact le_refl 1
  · split <;> omega

theorem one_le_maxAutomaticRecoveryAttempts (obligations : PolicyObligations) :
    1 ≤ maxAutomaticRecoveryAttempts obligations := by
  unfold maxAutomaticRecoveryAttempts phase6DefaultRecoveryAttempts
  split
  · decide
  · split <;> omega

/-- A command into READY retries, or authorizes the operation for the first time. -/
theorem ready_by {kind : TransitionKind} {source : OperationState}
    (edge : kind.edge.1 = some source) (ready : kind.edge.2 = .ready) :
    kind ∈ retryKinds ∨ source = .pendingPolicy ∨ source = .awaitingApproval := by
  cases kind <;> cases ready <;> cases edge <;> decide

theorem claim_edge {body : CommandBody} {attempt : ExecutionAttempt}
    (carried : body.claimedAttempt? = some attempt) :
    body.kind.edge = (some .ready, .executing) := by
  cases body <;> first | rfl | cases carried

section Steps

variable {requests : Requests}

theorem AttemptsWithin.moved {command : OperationCommand} {loaded : Operation}
    {decision : PolicyDecision} (reachable : Reachable uuid5 s) (before : Budgeted requests s)
    (made : OperationMoved command loaded s s')
    (disciplined : OperationDisciplined requests s command)
    (decided : DecidedBy s' (movedOperation command loaded) decision) :
    AttemptsWithin requests s' (movedOperation command loaded) decision.obligations := by
  have counted := attemptsOf_moved made loaded.operationId
  have grown := extra_mono (requests.execution loaded.operationId)
    (Nat.le_add_right loaded.version 1)
  have positive := one_le_maxAutomaticAttempts decision.obligations
  have found : s.operation? loaded.operationId = some loaded := made.operationId ▸ made.found
  have state : (movedOperation command loaded).state = command.kind.edge.2 := rfl
  have version : (movedOperation command loaded).version = loaded.version + 1 := rfl
  have id : (movedOperation command loaded).operationId = loaded.operationId := rfl
  unfold AttemptsWithin
  rw [id, state, version, counted]
  by_cases waits : loaded.state = .pendingPolicy ∨ loaded.state = .awaitingApproval
  · have none_ := attemptsOf_of_unauthorized reachable found waits
    have unclaimed : command.body.claimedAttempt?.isSome = false := by
      cases carried : command.body.claimedAttempt? with
      | none => rfl
      | some attempt =>
        have source := Option.some.inj (made.source.symm.trans
          (congrArg Prod.fst (claim_edge carried)))
        rw [source] at waits
        cases waits <;> contradiction
    rw [none_, unclaimed]
    simp only [List.length_nil, Bool.false_eq_true, false_and, if_false]
    split <;> omega
  obtain ⟨past, authorized⟩ := not_or.mp waits
  have decidedBefore := decidedBy_before_moved made past decided
  by_cases ready : command.kind.edge.2 = .ready
  · obtain retry | waiting := ready_by made.source ready
    · have within := (disciplined loaded decision made.found made.version decidedBefore).1 retry
      have unclaimed : command.body.claimedAttempt?.isSome = false := by
        cases carried : command.body.claimedAttempt? with
        | none => rfl
        | some attempt =>
          rw [OperationCommand.kind, claim_edge carried] at ready
          cases ready
      rw [unclaimed, if_pos ready]
      simpa using within
    · exact absurd waiting waits
  · have within := before.attempts _ loaded decision found decidedBefore
    unfold AttemptsWithin at within
    rw [if_neg ready]
    cases carried : command.body.claimedAttempt? with
    | none =>
      simp only [Option.isSome_none, Bool.false_eq_true, false_and, if_false]
      split at within <;> omega
    | some attempt =>
      have source := Option.some.inj (made.source.symm.trans
        (congrArg Prod.fst (claim_edge carried)))
      rw [if_pos source] at within
      simp only [Option.isSome_some, true_and, if_true]
      omega

private theorem attempts_step (reachable : Reachable uuid5 s) (before : Budgeted requests s)
    (taken : JournalStep action s s') (disciplined : Disciplined requests s action)
    {id : OpaqueId} {operation : Operation} {decision : PolicyDecision}
    (found : s'.operation? id = some operation) (decided : DecidedBy s' operation decision) :
    AttemptsWithin requests s' operation decision.obligations := by
  have positive := one_le_maxAutomaticAttempts decision.obligations
  cases taken.operation_origin found with
  | kept same =>
    have key : operation.operationId = id := (find?_some same).2
    have counted : (s'.attemptsOf operation.operationId).length = _ :=
      attemptsOf_kept taken (by rw [key, found, same])
    unfold AttemptsWithin
    rw [counted]
    by_cases pending : operation.state = .pendingPolicy
    · rw [key, attemptsOf_of_unauthorized reachable same (.inl pending), pending]
      simp only [List.length_nil, reduceCtorEq, if_false]
      omega
    · exact before.attempts id operation decision same
        (decidedBy_before taken same found pending decided)
  | created command asked made row absent =>
    subst row
    have key : command.operation.operationId = id := (find?_some found).2
    have none_ : s'.attemptsOf command.operation.operationId = [] := by
      refine List.eq_nil_iff_forall_not_mem.mpr fun attempt member => ?_
      obtain ⟨stored, owner⟩ := mem_select.mp member
      rw [made.frame] at stored
      obtain ⟨other, at_, -⟩ :=
        (authorizedJournal_of_reachable reachable).attempted attempt stored
      rw [of_decide_eq_true owner, key, absent] at at_
      cases at_
    unfold AttemptsWithin
    rw [none_, made.state]
    simp only [List.length_nil, reduceCtorEq, if_false]
    omega
  | moved command loaded asked made row =>
    subst row asked
    exact .moved reachable before made disciplined decided
  | escalated request loaded made row mine =>
    subst row mine
    have counted : (s'.attemptsOf loaded.operationId).length =
        (s.attemptsOf loaded.operationId).length := by rw [made.frame]; rfl
    have grown := extra_mono (requests.execution loaded.operationId)
      (Nat.le_add_right loaded.version 1)
    have pending : loaded.state ≠ .pendingPolicy := by
      intro pending
      have legal := made.legal
      rw [pending] at legal
      cases legal
    have within := before.attempts _ loaded decision made.found
      (decidedBy_before taken made.found found pending decided)
    unfold AttemptsWithin at within
    change ((s'.attemptsOf loaded.operationId).length : Int) + 0 ≤
      maxAutomaticAttempts decision.obligations +
        extra (requests.execution loaded.operationId) (loaded.version + 1)
    split at within <;> omega

/-- The cap on a record's attempts only moves with its operation. -/
private theorem RecordAttemptsWithin.later {n : Nat} {operation later : Operation}
    {obligations : PolicyObligations}
    (within : RecordAttemptsWithin requests n operation obligations)
    (same : later.operationId = operation.operationId) (newer : operation.version ≤ later.version) :
    RecordAttemptsWithin requests n later obligations := by
  have grown := extra_mono (requests.compensation operation.operationId) newer
  unfold RecordAttemptsWithin at within ⊢
  rw [same]
  omega

private theorem recordAttempts_step (reachable : Reachable uuid5 s) (before : Budgeted requests s)
    (taken : JournalStep action s s') (disciplined : Disciplined requests s action)
    (verifies : ∀ command, action = .transition (.startCompensationVerification command) →
      ∀ id, (s'.compensationAttemptsOf id).length = (s.compensationAttemptsOf id).length)
    {id : OpaqueId} {record : Compensation} {operation : Operation} {decision : PolicyDecision}
    (found : s'.compensation? id = some record)
    (owner : s'.operation? record.originalOperationId = some operation)
    (decided : DecidedBy s' operation decision) :
    RecordAttemptsWithin requests (s'.compensationAttemptsOf id).length operation
      decision.obligations := by
  have attempts := recordAttempts_of_reachable reachable
  have positive := one_le_maxAutomaticAttempts decision.obligations
  have first : RecordAttemptsWithin requests 1 operation decision.obligations := by
    unfold RecordAttemptsWithin
    omega
  cases at_ : s.compensation? id with
  | none =>
    -- a record that is new has no attempts
    have none_ : s.compensationAttemptsOf id = [] := by
      refine List.eq_nil_iff_forall_not_mem.mpr fun row member => ?_
      obtain ⟨stored, mine⟩ := mem_select.mp member
      obtain ⟨old, present⟩ := attempts.owned row stored
      rw [of_decide_eq_true mine, at_] at present
      cases present
    have few : (s'.compensationAttemptsOf id).length ≤ 1 := by
      cases recordAttemptsStep_of taken with
      | kept _ counts => simp [counts, none_]
      | added _ _ _ _ _ _ _ _ _ counts =>
        rw [counts, none_, List.length_nil]
        split <;> omega
    unfold RecordAttemptsWithin at first ⊢
    omega
  | some old =>
    obtain ⟨later, there, -, parent, -⟩ := compensation?_later taken at_
    obtain rfl : later = record := Option.some.inj (there.symm.trans found)
    obtain ⟨row, owned, moved⟩ := recordsOwned_of_reachable reachable id old at_
    rw [← parent] at owned
    have past : row.state ≠ .pendingPolicy := fun pending => by
      have unmoved := pendingUnmoved_of_reachable reachable _ row owned pending
      omega
    have decidedBefore := decidedBy_before taken owned owner past decided
    have newer : row.version ≤ operation.version := by
      obtain ⟨now, at_now, rfl | newer⟩ := operation_later taken owned
      · rw [owner, Option.some.injEq] at at_now
        exact at_now ▸ le_refl _
      · rw [owner, Option.some.injEq] at at_now
        exact at_now ▸ newer.le
    have same : operation.operationId = row.operationId :=
      (find?_some owner).2.trans (find?_some owned).2.symm
    have within := before.recordAttempts id old row decision at_ (parent ▸ owned) decidedBefore
    cases recordAttemptsStep_of taken with
    | kept _ counts =>
      rw [counts]
      exact within.later same newer
    | added progress command attempt asked checked made carried member evolves counts =>
      rw [counts]
      by_cases mine : progress.compensation.compensationId = id
      · subst mine asked
        have here : old = progress.compensation := Option.some.inj (at_.symm.trans made.record)
        subst here
        have loaded : progress.loaded = row := by
          rw [parent, made.parent, made.found] at owned
          exact Option.some.inj owned
        subst loaded
        rw [if_pos rfl]
        refine RecordAttemptsWithin.later ?_ same newer
        cases command with
        | create => exact checked.elim
        | operation => exact checked.elim
        | claimCompensation command =>
          obtain ⟨pending, -⟩ := claimCompensation_checked checked.2.1
          rw [attempts.pending _ _ made.record pending]
          unfold RecordAttemptsWithin
          simp only [List.length_nil]
          omega
        | startCompensationVerification command =>
          have more := counts progress.compensation.compensationId
          rw [if_pos rfl, verifies command rfl] at more
          omega
        | claimCompensationRetryAttempt => exact disciplined _ _ _ checked decidedBefore
        | retryCompensationAfterVerification => exact disciplined _ _ _ checked decidedBefore
      · rw [if_neg mine]
        exact within.later same newer

private theorem inconclusives_step (reachable : Reachable uuid5 s) (before : Budgeted requests s)
    (taken : JournalStep action s s') (disciplined : Disciplined requests s action)
    {id : OpaqueId} {operation : Operation} {decision : PolicyDecision}
    (found : s'.operation? id = some operation) (decided : DecidedBy s' operation decision) :
    InconclusivesWithin (movesBetween s' id .verifying .unknown) decision.obligations := by
  have spare : InconclusivesWithin 0 decision.obligations :=
    one_le_maxAutomaticRecoveryAttempts decision.obligations
  -- an operation that waited for its decision has made no transition
  have within : ∀ {row}, s.operation? id = some row →
      InconclusivesWithin (movesBetween s id .verifying .unknown) decision.obligations := by
    intro row at_
    by_cases pending : row.state = .pendingPolicy
    · rw [movesBetween_of_pendingPolicy reachable at_ pending]
      exact spare
    · exact before.inconclusives id row decision at_
        (decidedBy_before taken at_ found pending decided)
  cases taken.operation_origin found with
  | kept same =>
    rw [movesBetween_kept taken (found.trans same.symm)]
    exact within same
  | created command asked made row absent =>
    obtain rfl : operation.operationId = id := (find?_some found).2
    subst row
    rw [movesBetween_created reachable made absent]
    exact spare
  | moved command loaded asked made row mine =>
    subst row mine asked
    have here := within made.found
    rw [movesBetween_moved made]
    by_cases edge : command.kind.edge = (some .verifying, .unknown)
    · rw [if_pos ⟨rfl, edge⟩]
      have past : loaded.state ≠ .pendingPolicy := by
        have source := made.source.symm.trans (congrArg Prod.fst edge)
        rw [Option.some.inj source]
        decide
      have kept := (disciplined loaded decision made.found made.version
        (decidedBy_before_moved made past decided)).2 (inconclusive_of_edge edge)
      rwa [made.operationId] at kept
    · rw [if_neg fun both => edge both.2]
      exact here
  | escalated request loaded made row mine =>
    subst row mine
    rw [movesBetween_escalated made, if_neg (by simp)]
    exact within made.found

theorem Budgeted.empty : Budgeted requests .empty where
  attempts _ _ _ found := by cases found
  recordAttempts _ _ _ _ found := by cases found
  inconclusives _ _ _ found := by cases found

/-- Starting a verification adds no compensation attempt. -/
theorem compensationAttemptsOf_verified {command : StartCompensationVerification}
    (id : OpaqueId) :
    ((act uuid5 s (.transition (.startCompensationVerification command))).compensationAttemptsOf
      id).length = (s.compensationAttemptsOf id).length := by
  by_cases changed : act uuid5 s (.transition (.startCompensationVerification command)) = s
  · rw [changed]
  obtain ⟨result, ran⟩ := apply_of_act_ne changed
  obtain ⟨loaded, compensation, event, allowed, passed, built, made, -⟩ | ⟨same, -⟩ | ⟨same, -⟩ :=
    applyStartCompensationVerification_cases ran
  · obtain ⟨mid, completed, inserted⟩ := made.compensationAttempts
    rw [Store.compensationAttemptsOf, inserted.of_none]
    exact (compensationCompleted_evolves completed).2 id
  · rw [same]
  · rw [same]

theorem Budgeted.act (reachable : Reachable uuid5 s) (before : Budgeted requests s)
    (disciplined : Disciplined requests s action) : Budgeted requests (act uuid5 s action) := by
  have taken := act_step uuid5 s action
  have verifies : ∀ command, action = .transition (.startCompensationVerification command) →
      ∀ id, ((Stateback.act uuid5 s action).compensationAttemptsOf id).length =
        (s.compensationAttemptsOf id).length := by
    rintro command rfl id
    exact compensationAttemptsOf_verified id
  constructor
  · intro id operation decision found decided
    exact attempts_step reachable before taken disciplined found decided
  · intro id record operation decision found owner decided
    exact recordAttempts_step reachable before taken disciplined verifies found owner decided
  · intro id operation decision found decided
    exact inconclusives_step reachable before taken disciplined found decided

end Steps

end Stateback.Invariants
