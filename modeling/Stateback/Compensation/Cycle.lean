import Stateback.Concurrency.Compensation
import Stateback.Invariants.Decisions
import Stateback.Invariants.Replays
import Stateback.Lib.Accounts
/-!
# The rounds of a compensation cycle

`_run_cycle` alone, whatever the provider answers.  A `compensate` call carries the number of its
attempt; the next call of the cycle carries a higher one, and only a number up to the cap is
claimed.  A verification follows a call at most once before the next, so the numbers bound the
rounds as well.
-/

namespace Stateback.Compensation

open Domain Persistence Transitions Providers Stateback.Runtime Process Transaction
open KeyedTable.Table Invariants Concurrency
open Stateback.Recovery (loadPolicy)

variable {uuid5 : String → OpaqueId} {registry : CapabilityRegistry} {s s' : Store} {α β γ : Type}

/-! ## Counting the calls -/

/-- One for each `compensate` call. -/
def compensateCall : Account Purpose Store Raised Query Nat where
  asked
    | .compensate .., calls => calls + 1
    | _, calls => calls
  ran _ _ _ calls := calls

/-- How often a service that runs alone calls `compensate`. -/
def compensateCalls (answers : Nat → (query : Query) → Answer query) (service : Service α) (n : Nat)
    (s : Store) : Nat :=
  Prog.account compensateCall answers service n s 0

/-- Alone, the service ends as `Q` says of its end, its calls and the journal. -/
abbrev Calls (Q : Except Raised α → Nat → Store → Prop) (service : Service α) (calls : Nat)
    (s : Store) : Prop :=
  Yields compensateCall Q service calls s

section Rules

variable {Q : Except Raised α → Nat → Store → Prop} {calls : Nat}

theorem calls_load {read : Store → β} {next : β → Service α}
    (rest : Calls Q (next (read s)) calls s) : Calls Q (Service.load read >>= next) calls s := by
  refine ⟨fun b s' ran => ?_, fun e ran => by cases ran⟩
  cases ran
  exact rest

theorem calls_now {next : UtcTimestamp → Service α} (rest : ∀ now, Calls Q (next now) calls s) :
    Calls Q (Service.now >>= next) calls s :=
  rest

theorem calls_lift {value : Except Raised β} {next : β → Service α}
    (raised : ∀ e, Q (.error e) calls s) (rest : ∀ b, value = .ok b → Calls Q (next b) calls s) :
    Calls Q (Service.lift value >>= next) calls s := by
  cases value with
  | ok b => exact rest b rfl
  | error e => exact raised e

theorem calls_require {value : Option β} {e : Raised} {next : β → Service α}
    (raised : Q (.error e) calls s) (rest : ∀ b, value = some b → Calls Q (next b) calls s) :
    Calls Q (Prog.require value e >>= next) calls s :=
  yields_require raised rest

theorem calls_loadPolicy {op : Operation} {next : Option PolicyDecision → Service α}
    (rest : Calls Q (next (policy? s op)) calls s) :
    Calls Q (loadPolicy op >>= next) calls s := by
  unfold loadPolicy
  unfold policy? at rest
  cases named : op.currentPolicyDecisionId with
  | none =>
    rw [named] at rest
    exact rest
  | some policyDecisionId =>
    rw [named] at rest
    exact calls_load rest

theorem calls_attempt {body : Uow β} {next : Except Raised β → Service α}
    (ok : ∀ b s', body s = .ok (b, s') → Calls Q (next (.ok b)) calls s')
    (error : ∀ e, Calls Q (next (.error e)) calls s) :
    Calls Q (Prog.attempt .work body >>= next) calls s :=
  yields_attempt ok fun e _ => error e

theorem calls_trySubmit {command : TransitionCommand}
    {next : Except Raised TransitionResult → Service α}
    (ok : ∀ result s', apply command s = .ok (result, s') → Calls Q (next (.ok result)) calls s')
    (error : ∀ e, Calls Q (next (.error e)) calls s) :
    Calls Q (Service.trySubmit command >>= next) calls s :=
  yields_attempt ok fun e _ => error e

theorem calls_settled {operationId : OpaqueId} {conflict : CompensationResult}
    {failed : Operation → CompensationResult} {done : CompensationResult → α}
    {committed : β → Service α} {ended : Except Raised β} (raised : ∀ e, Q (.error e) calls s)
    (ends : ∀ result, Q (.ok (done result)) calls s)
    (commits : ∀ b, ended = .ok b → Calls Q (committed b) calls s) :
    Calls Q (settled operationId conflict failed done committed ended) calls s := by
  cases ended with
  | ok b => exact commits b rfl
  | error e =>
    dsimp only [settled]
    split
    · exact ends _
    · split
      · refine ⟨fun op s' ran => ?_, fun e _ => raised e⟩
        dsimp only at ran
        split at ran
        · cases ran
          exact ends _
        · cases ran
      · exact raised e

/-- A service that may leave its answer to a default. -/
theorem calls_getD {program : Service (Option α)} {default : α}
    (first : Calls (fun ended calls s => Q (ended.map fun a? => a?.getD default) calls s) program
      calls s) :
    Calls Q (program >>= fun a? => pure (a?.getD default)) calls s :=
  first.bind (fun _ _ _ ended => ended) fun _ _ _ ended => ended

end Rules

/-! ## What a turn goes on with -/

/-- The rows a turn starts from are the stored ones, so is the attempt it is about, and the cap is
the one the operation was decided with. -/
structure Entered (uuid5 : String → OpaqueId) (cap : Int) (s : Store) (op : Operation)
    (record : Compensation) (mode : CycleMode) : Prop where
  reachable : Reachable uuid5 s
  found : s.operation? op.operationId = some op
  stored : s.compensation? record.compensationId = some record
  attempt : ∀ attempt, mode = .compensate attempt →
    ∃ row, s.compensationAttempt? attempt.compensationAttemptId = some row ∧
      row.compensationId = record.compensationId ∧ row.attemptNumber = attempt.attemptNumber
  capped : ∀ policy, policy? s op = some policy → maxAutomaticAttempts policy.obligations = cap

/-- How many `compensate` calls the cycle may still make. -/
def callsLeft (cap : Int) (s : Store) (record : Compensation) : CycleMode → Nat
  | .compensate attempt => (cap - attempt.attemptNumber).toNat + 1
  | .verify _ => (cap - (s.compensationAttemptsOf record.compensationId).length).toNat

/-- How many turns it may still make: each call is followed by one verification at most. -/
def turnsLeft (cap : Int) (s : Store) (record : Compensation) : CycleMode → Nat
  | .compensate attempt => 2 * callsLeft cap s record (.compensate attempt)
  | .verify result => 2 * callsLeft cap s record (.verify result) + 1

/-- The number a cycle starts from: its attempt's, or the latest of the record. -/
def startNumber (s : Store) (record : Compensation) : CycleMode → Nat
  | .compensate attempt => attempt.attemptNumber
  | .verify _ =>
    ((s.listCompensationAttempts record.compensationId).getLast?.map (·.attemptNumber)).getD 0

/-- The next turn is well entered, and the calls so far leave room for it. -/
structure GoesOn (uuid5 : String → OpaqueId) (cap : Int) (calls turns : Nat) (s : Store)
    (made : Nat) (op : Operation) (record : Compensation) (mode : CycleMode) : Prop where
  entered : Entered uuid5 cap s op record mode
  calls : made + callsLeft cap s record mode ≤ calls
  turns : turnsLeft cap s record mode < turns

/-- How a turn ends that may see `calls` calls in all and has `turns` turns left. -/
def TurnEnds (uuid5 : String → OpaqueId) (cap : Int) (calls turns : Nat) :
    Except Raised CycleStep → Nat → Store → Prop
  | .ok (.compensate op record attempt), made, s =>
    GoesOn uuid5 cap calls turns s made op record (.compensate attempt)
  | .ok (.verify op record), made, s => GoesOn uuid5 cap calls turns s made op record (.verify none)
  | .ok (.done _), made, _ => made ≤ calls
  | .error _, made, _ => made ≤ calls

/-- No attempt of a record is numbered above how many there are. -/
theorem Entered.numbered {cap : Int} {op : Operation} {record : Compensation}
    {attempt : CompensationAttempt}
    (entered : Entered uuid5 cap s op record (.compensate attempt)) :
    attempt.attemptNumber ≤ (s.compensationAttemptsOf record.compensationId).length := by
  obtain ⟨row, found, owner, number⟩ := entered.attempt attempt rfl
  have bounded := attemptsNumbered_of_reachable entered.reachable row (find?_some found).1
  rw [owner, number] at bounded
  exact bounded

/-- The latest attempt of a record is numbered by how many there are. -/
theorem latest_numbered (reachable : Reachable uuid5 s) (id : OpaqueId) :
    ((s.listCompensationAttempts id).getLast?.map (·.attemptNumber)).getD 0 =
      (s.compensationAttemptsOf id).length := by
  apply Nat.le_antisymm
  · cases last : (s.listCompensationAttempts id).getLast? with
    | none => simp
    | some latest =>
      have listed : latest ∈ s.compensationAttemptsOf id :=
        (List.perm_insertionSort _ _).mem_iff.mp (List.mem_of_getLast? last)
      obtain ⟨stored, owner⟩ := mem_select.mp listed
      have bounded := attemptsNumbered_of_reachable reachable latest stored
      rw [of_decide_eq_true owner] at bounded
      exact bounded
  · exact compensationAttemptsOf_le_last (recordAttempts_of_reachable reachable) id

/-- Attempts of a record are never taken away. -/
theorem recordAttempts_grow {action : JournalAction} (taken : JournalStep action s s')
    (id : OpaqueId) :
    (s.compensationAttemptsOf id).length ≤ (s'.compensationAttemptsOf id).length := by
  cases recordAttemptsStep_of taken with
  | kept _ counts => exact (counts id).ge
  | added _ _ _ _ _ _ _ _ _ counts =>
    rw [counts]
    omega

theorem policy?_kept {op op' : Operation} {policy : PolicyDecision}
    (named : policy? s op = some policy) (later : Later s s')
    (same : op'.currentPolicyDecisionId = op.currentPolicyDecisionId) :
    policy? s' op' = some policy := by
  have there := policy?_later named later
  unfold policy? at there ⊢
  rw [same]
  exact there

theorem later_of_apply {command : TransitionCommand} {result : TransitionResult}
    (ran : apply command s = .ok (result, s')) : Later s s' :=
  .step (apply_step ran)

section Step

variable {cap : Int} {h : Handling} {descriptor : EffectDescriptor} {op : Operation}
  {record : Compensation} {calls turns made : Nat}

/-! ## Claiming a retry -/

theorem claimedRetry_stored {command : ClaimCompensationRetryAttempt} {result : TransitionResult}
    (ran : applyClaimCompensationRetryAttempt command s = .ok (result, s'))
    (applied : result.outcome = .applied) :
    s'.compensationAttempt? command.attempt.compensationAttemptId = some command.attempt ∧
      result.operation = s.operation? command.operationId ∧
      ∀ record, result.compensation = some record →
        command.attempt.compensationId = record.compensationId := by
  obtain ⟨loaded, row, allowed, passed, made, -, operation, moved⟩ | ⟨-, refused⟩ | ⟨-, refused⟩ :=
    applyClaimCompensationRetryAttempt_cases ran
  · obtain ⟨mid, -, inserted⟩ := made.compensationAttempts
    obtain ⟨owner, -, -⟩ := (claimCompensationRetry_checked passed).attempt command.attempt rfl
    refine ⟨(find?_insert inserted _).trans (if_pos rfl), operation.trans allowed.found.symm,
      fun record named => ?_⟩
    obtain rfl := Option.some.inj (moved.symm.trans named)
    exact owner
  · rw [applied] at refused
    cases refused
  · rw [applied] at refused
    cases refused

/-- A retry claimed on the rows as they are: the attempt it goes on with is stored. -/
theorem claimed_enters (retry : RetryCommand) {actor : PrincipalRef}
    {correlationId : Option String} {reasonCode : String} {next : CompensationAttempt}
    {attemptAuditEventId : OpaqueId} {claimedAt : UtcTimestamp} {result : TransitionResult}
    {policy : PolicyDecision} (reachable : Reachable uuid5 s)
    (found : s.operation? op.operationId = some op)
    (about : retry.command.operationId = op.operationId)
    (version : retry.command.expectedVersion = op.version) (named : policy? s op = some policy)
    (ran : retryAndClaim retry.command
      (retryClaim actor correlationId reasonCode next attemptAuditEventId claimedAt) s =
        .ok (result, s'))
    (accepted : result.outcome ≠ .rejected) {op' : Operation} {record' : Compensation}
    (operation : result.operation = some op') (moved : result.compensation = some record') :
    Entered uuid5 (maxAutomaticAttempts policy.obligations) s' op' record' (.compensate next) := by
  have ran : (PairedStep.claim retry actor correlationId reasonCode next attemptAuditEventId
      claimedAt).body s = .ok (result, s') := ran
  obtain ⟨retried, middle, first, ended⟩ := paired_cases ran
  have moves : apply (.operation retry.command) s = .ok (retried, middle) := first
  have reachable' := reachable_apply reachable moves
  have later' := later_of_apply moves
  obtain ⟨applied, operation₁, record₁, named₁, moved₁, rest⟩ | ⟨refused, same, -⟩ := ended
  · obtain ⟨loaded, row, returned⟩ := returned_of_applied first applied
    have there : s.operation? retry.command.operationId = some loaded := returned.returns.found
    rw [about, found, Option.some.injEq] at there
    subst there
    obtain rfl := Option.some.inj (returned.operation.symm.trans named₁)
    obtain rfl := Option.some.inj (returned.compensation.symm.trans moved₁)
    have claims : apply (.claimCompensationRetryAttempt (retryClaim actor correlationId reasonCode
        next attemptAuditEventId claimedAt (movedOperation retry.command op)
        (steppedCompensation row .executing retry.command.occurredAt))) middle =
          .ok (result, s') := rest
    have names := claimCompensationRetryAttempt_names claims
    cases outcome : result.outcome with
    | applied =>
      obtain ⟨stored, same, owner⟩ := claimedRetry_stored claims outcome
      obtain rfl : op' = movedOperation retry.command op := by
        have there := operation.symm.trans (same.trans returned.allowed.found)
        exact Option.some.inj there
      refine ⟨reachable_apply reachable' claims, names.operation _ operation,
        names.record _ moved, ?_, ?_⟩
      · rintro attempt ⟨⟩
        exact ⟨next, stored, owner record' moved, rfl⟩
      · intro other decided
        have same : (movedOperation retry.command op).currentPolicyDecisionId =
            op.currentPolicyDecisionId := by
          obtain ⟨_, body⟩ | ⟨_, body⟩ := retry.body <;>
          simp [movedOperation, steppedOperation, pointersForKind, body,
            CommandBody.policyDecision?]
        have kept : policy? s' (movedOperation retry.command op) = some policy :=
          policy?_kept named (later'.trans (later_of_apply claims)) same
        rw [kept, Option.some.injEq] at decided
        rw [decided]
    | alreadyApplied =>
      -- a replay is one version ahead, and the record stands as the first command left it
      obtain ⟨other, there, ahead, -⟩ := claimRetry_already claims outcome
      have there : middle.compensation? row.compensationId = some other := there
      rw [returned.allowed.compensationFound, Option.some.injEq] at there
      rw [← there] at ahead
      have ahead : (nextVersion row.version : Int) = nextVersion row.version + 1 := ahead
      omega
    | rejected => exact absurd outcome accepted
  · subst same
    obtain ⟨_, -, applied, -⟩ | ⟨loaded, -, there, ahead, -⟩ | ⟨_, -, -, rejected, -⟩ :=
      applyOperation_cases first
    · exact absurd applied refused
    · -- a replay is one version ahead, and the operation stands
      have there : s.operation? retry.command.operationId = some loaded := there
      rw [about, found, Option.some.injEq] at there
      have ahead : (loaded.version : Int) = retry.command.expectedVersion + 1 := ahead
      rw [version, ← there] at ahead
      omega
    · exact absurd rejected accepted

theorem calls_settleRetry {Q : Except Raised α → Nat → Store → Prop}
    {done : CompensationResult → α} {resume : Operation → Compensation → Service α}
    {claimed : Except Raised TransitionResult} (raised : ∀ e, Q (.error e) made s)
    (ends : ∀ result, Q (.ok (done result)) made s)
    (resumes : ∀ result op' record', claimed = .ok result → result.outcome ≠ .rejected →
      result.operation = some op' → result.compensation = some record' →
        Calls Q (resume op' record') made s) :
    Calls Q (settleRetry op record done resume claimed) made s := by
  unfold settleRetry
  refine calls_settled raised ends fun result same => ?_
  split
  · exact ends _
  next accepted =>
    refine calls_require (raised _) fun op' operation => ?_
    refine calls_require (raised _) fun record' moved => ?_
    exact resumes result op' record' same accepted operation moved

/-- `_maybe_claim_retry` calls no provider; the attempt it claims is the next one, within the
cap. -/
theorem calls_maybeClaimRetry {completed : CompensationAttempt} (reachable : Reachable uuid5 s)
    (found : s.operation? op.operationId = some op)
    (capped : ∀ policy, policy? s op = some policy →
      maxAutomaticAttempts policy.obligations = cap) (accepted : CompensationResult)
    (room : made + (cap - completed.attemptNumber).toNat ≤ calls)
    (rounds : 2 * (cap - completed.attemptNumber).toNat < turns) :
    Calls (fun ended made s => TurnEnds uuid5 cap calls turns
        (ended.map fun step => step.getD (.done accepted)) made s)
      (maybeClaimRetry registry h descriptor op record completed) made s := by
  have stops : made ≤ calls := by omega
  unfold maybeClaimRetry
  refine calls_load (calls_loadPolicy ?_)
  cases named : policy? s op with
  | none => exact stops
  | some policy =>
    refine calls_now fun now => ?_
    refine calls_lift (fun _ => stops) fun retryDescriptor _ => ?_
    refine calls_lift (fun _ => stops) fun retry _ => ?_
    split
    · exact stops
    next safe =>
      have below : (completed.attemptNumber : Int) < cap :=
        capped policy named ▸ not_le.mp (not_or.mp safe).2
      refine calls_lift (fun _ => stops) fun retryIds _ => ?_
      refine calls_now fun startedAt => calls_now fun occurredAt => calls_now fun claimedAt => ?_
      refine calls_attempt (fun result s' ran => ?_) fun e => ?_
      · refine calls_settleRetry (fun _ => stops) (fun _ => stops)
          fun result' op' record' same accepted operation moved => ?_
        cases same
        have entered := claimed_enters ⟨_, .inr rfl⟩ reachable found rfl rfl named ran
          accepted operation moved
        rw [capped policy named] at entered
        have number : (buildStartedAttempt record.compensationId retryIds.attemptId
            (completed.attemptNumber + 1) descriptor startedAt).attemptNumber =
              completed.attemptNumber + 1 := rfl
        refine ⟨entered, ?_, ?_⟩
        · simp only [callsLeft]
          omega
        · simp only [turnsLeft, callsLeft]
          omega
      · exact calls_settleRetry (fun _ => stops) (fun _ => stops) fun _ _ _ same => by cases same

/-! ## The turn that calls `compensate` -/

/-- A command of one of the kinds that end a call keeps the operation's decision. -/
theorem handled_keeps {command : OperationCommand} {result : TransitionResult}
    (found : s.operation? op.operationId = some op) (about : command.operationId = op.operationId)
    (silent : command.body.policyDecision? = none)
    (ran : apply (.operation command) s = .ok (result, s')) {op' : Operation}
    (operation : result.operation = some op') :
    op'.currentPolicyDecisionId = op.currentPolicyDecisionId := by
  have same : ∀ loaded, s.operation? command.operationId = some loaded → loaded = op := by
    intro loaded there
    rw [about, found, Option.some.injEq] at there
    exact there.symm
  obtain ⟨loaded, made, -, named⟩ | ⟨loaded, -, there, -, -, -, named⟩ |
      ⟨loaded, -, there, -, named⟩ := applyOperation_cases ran
  · obtain rfl := Option.some.inj (named.symm.trans operation)
    rw [← same loaded made.found]
    simp [movedOperation, steppedOperation, pointersForKind, silent]
  · obtain rfl := Option.some.inj (named.symm.trans operation)
    rw [same _ there]
  · obtain rfl := Option.some.inj (named.symm.trans operation)
    rw [same _ there]

/-- A verification started on the rows as they are, not refused: it is about the operation and the
record of the command. -/
theorem startVerification_enters {command : StartCompensationVerification}
    {result : TransitionResult} (found : s.operation? command.operationId = some op)
    (stored : s.compensation? command.compensationId = some record)
    (version : command.expectedCompensationVersion = record.version)
    (ran : applyStartCompensationVerification command s = .ok (result, s'))
    (accepted : result.outcome ≠ .rejected) :
    result.operation = some op ∧ ∀ record', result.compensation = some record' →
      record'.compensationId = record.compensationId := by
  cases outcome : result.outcome with
  | applied =>
    obtain ⟨loaded, row, _, allowed, -, -, -, -, operation, moved⟩ | ⟨-, refused⟩ | ⟨-, refused⟩ :=
      applyStartCompensationVerification_cases ran
    · obtain rfl := Option.some.inj (allowed.found.symm.trans found)
      obtain rfl := Option.some.inj (allowed.compensationFound.symm.trans stored)
      refine ⟨operation, fun record' named => ?_⟩
      obtain rfl := Option.some.inj (moved.symm.trans named)
      rfl
    · rw [outcome] at refused
      cases refused
    · rw [outcome] at refused
      cases refused
  | alreadyApplied =>
    -- a replay is one version ahead, and the record stands
    obtain ⟨row, there, -, ahead, -⟩ := startVerification_already ran outcome
    obtain rfl := Option.some.inj (there.symm.trans stored)
    omega
  | rejected => exact absurd outcome accepted

/-- What is recorded of a call keeps the operation's decision, and a verification it starts is one
of the record as it is stored. -/
theorem outcome_recorded {decision : CompensateKindDecision} {completed : CompensationAttempt}
    {occurredAt requestedAt : UtcTimestamp} {command : TransitionCommand}
    {result : TransitionResult} (found : s.operation? op.operationId = some op)
    (stored : s.compensation? record.compensationId = some record)
    (built : buildCompensateOutcomeCommand h decision op record completed occurredAt requestedAt =
      .ok command)
    (ran : apply command s = .ok (result, s')) (accepted : result.outcome ≠ .rejected) :
    (∀ op', result.operation = some op' → s'.operation? op'.operationId = some op' ∧
      op'.currentPolicyDecisionId = op.currentPolicyDecisionId) ∧
      (decision.kind = .progress .startCompensationVerification →
        ∀ record', result.compensation = some record' →
          s'.compensation? record'.compensationId = some record' ∧
            record'.compensationId = record.compensationId) := by
  have moved : ∀ {submitted}, command = .operation submitted →
      submitted.operationId = op.operationId → submitted.body.policyDecision? = none →
      ∀ op', result.operation = some op' → s'.operation? op'.operationId = some op' ∧
        op'.currentPolicyDecisionId = op.currentPolicyDecisionId := by
    intro submitted same about silent op' operation
    subst same
    exact ⟨applyOperation_names ran operation, handled_keeps found about silent ran operation⟩
  unfold buildCompensateOutcomeCommand at built
  split at built
  · cases built
  next ids _ =>
  split at built
  · cases built
    exact ⟨moved rfl rfl rfl, fun kind => by simp_all⟩
  · cases built
    exact ⟨moved rfl rfl rfl, fun kind => by simp_all⟩
  · cases built
    exact ⟨moved rfl rfl rfl, fun kind => by simp_all⟩
  · cases built
    have names := startCompensationVerification_names ran
    obtain ⟨operation, same⟩ := startVerification_enters found stored rfl ran accepted
    refine ⟨fun op' named => ?_, fun _ record' named => ⟨names.record _ named, same _ named⟩⟩
    obtain rfl := Option.some.inj (operation.symm.trans named)
    exact ⟨names.operation _ named, rfl⟩
  · cases built

theorem calls_settleCompensate {evidence : CompensationEvidence} {completed : CompensationAttempt}
    {kind : CommandKind} {applied : Except Raised TransitionResult} {policy : PolicyDecision}
    (reachable : Reachable uuid5 s)
    (rows : ∀ result op', applied = .ok result → result.operation = some op' →
      s.operation? op'.operationId = some op' ∧ policy? s op' = some policy)
    (records : kind = .progress .startCompensationVerification → ∀ result record',
      applied = .ok result → result.compensation = some record' →
        s.compensation? record'.compensationId = some record' ∧
          completed.attemptNumber ≤ (s.compensationAttemptsOf record'.compensationId).length)
    (capped : maxAutomaticAttempts policy.obligations = cap)
    (room : made + (cap - completed.attemptNumber).toNat ≤ calls)
    (rounds : 2 * (cap - completed.attemptNumber).toNat + 1 < turns) :
    Calls (TurnEnds uuid5 cap calls turns)
      (settleCompensate registry h descriptor op record evidence completed kind applied)
      made s := by
  have stops : made ≤ calls := by omega
  unfold settleCompensate
  refine calls_settled (fun _ => stops) (fun _ => stops) fun result same => ?_
  split
  · exact stops
  refine calls_require stops fun op' operation => ?_
  refine calls_require stops fun record' moved => ?_
  obtain ⟨found, decided⟩ := rows result op' same operation
  have limit : ∀ policy, policy? s op' = some policy →
      maxAutomaticAttempts policy.obligations = cap := by
    intro other named
    rw [← capped, Option.some.inj (named.symm.trans decided)]
  dsimp only
  split
  · obtain ⟨stored, counted⟩ := records rfl result record' same moved
    have entered : Entered uuid5 cap s op' record' (.verify none) :=
      ⟨reachable, found, stored, (fun _ same => by cases same), limit⟩
    refine ⟨entered, ?_, ?_⟩
    · simp only [callsLeft]
      omega
    · simp only [turnsLeft, callsLeft]
      omega
  · have below : 2 * (cap - completed.attemptNumber).toNat < turns := by omega
    exact calls_getD (calls_maybeClaimRetry reachable found limit _ room below)
  · exact stops

theorem calls_recordCompensate {attempt : CompensationAttempt} {evidence : CompensationEvidence}
    (entered : Entered uuid5 cap s op record (.compensate attempt))
    (room : made + (cap - attempt.attemptNumber).toNat ≤ calls)
    (rounds : 2 * (cap - attempt.attemptNumber).toNat + 1 < turns) :
    Calls (TurnEnds uuid5 cap calls turns)
      (recordCompensate registry h descriptor op record attempt evidence) made s := by
  have stops : made ≤ calls := by omega
  unfold recordCompensate
  refine calls_now fun completedAt => calls_loadPolicy ?_
  cases named : policy? s op with
  | none => exact stops
  | some policy =>
    refine calls_now fun occurredAt => calls_now fun requestedAt => ?_
    refine calls_lift (fun _ => stops) fun command built => ?_
    refine calls_trySubmit (fun result s' ran => ?_) fun e => ?_
    · by_cases refused : result.outcome = .rejected
      · refine calls_settled (fun _ => stops) (fun _ => stops) fun other same => ?_
        cases same
        rw [if_pos refused]
        exact stops
      · obtain ⟨rows, records⟩ := outcome_recorded entered.found entered.stored built ran refused
        have later := later_of_apply ran
        refine calls_settleCompensate (reachable_apply entered.reachable ran) ?_ ?_
          (entered.capped policy named) room rounds
        · rintro _ op' ⟨⟩ operation
          obtain ⟨there, same⟩ := rows op' operation
          exact ⟨there, policy?_kept named later same⟩
        · rintro kind _ record' ⟨⟩ moved
          obtain ⟨there, same⟩ := records kind record' moved
          rw [same]
          exact ⟨same ▸ there, entered.numbered.trans (recordAttempts_grow (apply_step ran) _)⟩
    · exact calls_settled (fun _ => stops) (fun _ => stops) fun _ same => by cases same

theorem calls_compensateStep {attempt : CompensationAttempt}
    (entered : Entered uuid5 cap s op record (.compensate attempt)) :
    Calls (TurnEnds uuid5 cap (made + callsLeft cap s record (.compensate attempt))
        (turnsLeft cap s record (.compensate attempt)))
      (compensateStep registry h descriptor op record attempt) made s := by
  unfold compensateStep callCompensate
  refine calls_load ?_
  dsimp only
  simp only [turnsLeft, callsLeft]
  split
  · refine calls_lift (fun _ => Nat.le_add_right _ _) fun evidence _ => ?_
    apply calls_recordCompensate entered <;> omega
  · rw [Prog.bind_assoc]
    refine yields_question fun ended => ?_
    change Calls _ _ (made + 1) s
    refine calls_lift (fun _ => ?_) fun evidence _ => ?_
    · exact Nat.add_le_add_left (Nat.le_add_left _ _) _
    · apply calls_recordCompensate entered <;> omega

/-! ## The turn that verifies -/

theorem calls_settleVerify {evidence : Option VerificationEvidence}
    {next : Option CompensationAttempt} {kind : CommandKind}
    {applied : Except Raised TransitionResult} (stops : made ≤ calls)
    (resumes : kind = .progress .retryCompensationAfterVerification →
      ∀ result op' record' attempt, applied = .ok result → result.outcome ≠ .rejected →
        result.operation = some op' → result.compensation = some record' → next = some attempt →
          GoesOn uuid5 cap calls turns s made op' record' (.compensate attempt)) :
    Calls (TurnEnds uuid5 cap calls turns)
      (settleVerify op record evidence next kind applied) made s := by
  unfold settleVerify
  refine calls_settled (fun _ => stops) (fun _ => stops) fun result same => ?_
  split
  · exact stops
  next accepted =>
    refine calls_require stops fun op' operation => ?_
    refine calls_require stops fun record' moved => ?_
    split
    · refine calls_require stops fun attempt named => ?_
      exact resumes rfl result op' record' attempt same accepted operation moved named
    · exact stops

theorem calls_completedForCommand {Q : Except Raised α → Nat → Store → Prop} {kind : CommandKind}
    {latest : Option CompensationAttempt} {result : VerificationResult}
    {next : Option CompensationAttempt → Service α}
    (rest : ∀ completed, Calls Q (next completed) made s) :
    Calls Q (completedForCommand kind latest result >>= next) made s := by
  unfold completedForCommand
  split
  · split
    · exact rest _
    · exact calls_now fun _ => rest _
  · exact rest _

/-- The attempt a verified retry starts is numbered after all that are listed. -/
theorem calls_nextAttemptForRetry {Q : Except Raised α → Nat → Store → Prop} {kind : CommandKind}
    {next : Option CompensationAttempt → Service α} (raised : ∀ e, Q (.error e) made s)
    (none_ : Calls Q (next none) made s)
    (rest : ∀ attempt : CompensationAttempt,
      attempt.attemptNumber = (s.compensationAttemptsOf record.compensationId).length + 1 →
        Calls Q (next (some attempt)) made s) :
    Calls Q (nextAttemptForRetry h descriptor kind record >>= next) made s := by
  unfold nextAttemptForRetry
  split
  · rw [Prog.bind_assoc]
    refine calls_load ?_
    rw [Prog.bind_assoc]
    refine calls_lift raised fun retryIds _ => ?_
    rw [Prog.bind_assoc]
    refine calls_now fun startedAt => rest _ ?_
    simp [buildStartedAttempt, Store.listCompensationAttempts, List.length_insertionSort]
  · exact none_

theorem calls_verificationEvidence {Q : Except Raised α → Nat → Store → Prop} {provider : String}
    {ended : CallEnd VerificationEvidence} {next : VerificationEvidence → Service α}
    (raised : ∀ e, Q (.error e) made s) (rest : ∀ evidence, Calls Q (next evidence) made s) :
    Calls Q (Recovery.verificationEvidence provider ended >>= next) made s := by
  cases ended with
  | returned evidence => exact rest evidence
  | raisedUnsupportedEffect => exact raised _
  | raisedContractValidation => exact raised _
  | raisedOther typeName => exact calls_now fun _ => rest _

/-- A retry after a verification, not refused on the rows as they are: its attempt is stored. -/
theorem retryAfterVerification_enters {command : RetryCompensationAfterVerification}
    {result : TransitionResult} {attempt : CompensationAttempt} {op' : Operation}
    {record' : Compensation} {result? : Option VerificationResult}
    (entered : Entered uuid5 cap s op record (.verify result?))
    (about : command.operationId = op.operationId)
    (own : command.compensationId = record.compensationId)
    (version : command.expectedCompensationVersion = record.version)
    (carried : command.attempt = attempt)
    (ran : apply (.retryCompensationAfterVerification command) s = .ok (result, s'))
    (accepted : result.outcome ≠ .rejected) (operation : result.operation = some op')
    (moved : result.compensation = some record') {policy : PolicyDecision}
    (named : policy? s op = some policy) :
    Entered uuid5 cap s' op' record' (.compensate attempt) := by
  have names := retryCompensationAfterVerification_names ran
  cases outcome : result.outcome with
  | applied =>
    obtain ⟨loaded, row, allowed, passed, made, -, answer, stepped⟩ | ⟨-, refused⟩ | ⟨-, refused⟩ :=
      applyRetryCompensationAfterVerification_cases ran
    · have found : s.operation? op.operationId = some loaded := about ▸ allowed.found
      obtain rfl := Option.some.inj (found.symm.trans entered.found)
      obtain rfl := Option.some.inj (answer.symm.trans operation)
      obtain rfl := Option.some.inj (stepped.symm.trans moved)
      obtain ⟨mid, -, inserted⟩ := made.compensationAttempts
      obtain ⟨owner, -, -⟩ :=
        (retryCompensationAfterVerification_checked passed).attempt command.attempt rfl
      refine ⟨reachable_apply entered.reachable ran, names.operation _ operation,
        names.record _ moved, ?_, ?_⟩
      · rintro other ⟨⟩
        subst carried
        exact ⟨command.attempt, (find?_insert inserted _).trans (if_pos rfl), owner, rfl⟩
      · intro other decided
        rw [policy?_kept named (later_of_apply ran) rfl, Option.some.injEq] at decided
        exact decided ▸ entered.capped policy named
    · rw [outcome] at refused
      cases refused
    · rw [outcome] at refused
      cases refused
  | alreadyApplied =>
    -- a replay is one version ahead, and the record stands
    obtain ⟨row, there, ahead, -⟩ := retryAfterVerification_already ran outcome
    rw [own, entered.stored, Option.some.injEq] at there
    subst there
    omega
  | rejected => exact absurd outcome accepted

theorem calls_applyVerified {evidence : Option VerificationEvidence} {result : VerificationResult}
    {result? : Option VerificationResult}
    (entered : Entered uuid5 cap s op record (.verify result?)) :
    Calls (TurnEnds uuid5 cap (made + callsLeft cap s record (.verify result?))
        (turnsLeft cap s record (.verify result?)))
      (applyVerified h descriptor op record evidence result) made s := by
  have stops : made ≤ made + callsLeft cap s record (.verify result?) := Nat.le_add_right _ _
  unfold applyVerified
  refine calls_load (calls_loadPolicy ?_)
  cases named : policy? s op with
  | none => exact stops
  | some policy =>
    refine calls_load (calls_lift (fun _ => stops) fun mapped decided => ?_)
    refine calls_completedForCommand fun completed => ?_
    split
    · exact stops
    have commits : ∀ next : Option CompensationAttempt,
        (∀ attempt ∈ next, attempt.attemptNumber =
          (s.compensationAttemptsOf record.compensationId).length + 1) →
        Calls (TurnEnds uuid5 cap (made + callsLeft cap s record (.verify result?))
          (turnsLeft cap s record (.verify result?))) (do
            let occurredAt ← Service.now
            let command ← Service.lift (verifyOutcomeCommand h mapped op record result completed
              next descriptor occurredAt (((s.listCompensationAttempts
                record.compensationId).getLast?.map (·.attemptNumber)).getD 1))
            let applied ← Service.trySubmit command
            settleVerify op record evidence next mapped.kind applied) made s := by
      intro next numbered
      refine calls_now fun occurredAt => calls_lift (fun _ => stops) fun command built => ?_
      refine calls_trySubmit (fun result s' ran => ?_) fun e => ?_
      · refine calls_settleVerify stops fun kind other op' record' attempt same accepted operation
          moved carried => ?_
        cases same
        have below := reconcileCompensation_below decided kind
        rw [entered.capped policy named] at below
        have latest := latest_numbered entered.reachable record.compensationId
        have number := numbered attempt carried
        obtain ⟨_, -, -, other⟩ | ⟨-, retry, rfl, about, -, own, version, next_⟩ :=
          verifyOutcomeCommand_cases built
        · exact absurd kind other
        · have entered' := retryAfterVerification_enters entered about own version
            (Option.some.inj (next_.symm.trans carried)) ran accepted operation moved named
          refine ⟨entered', ?_, ?_⟩
          · simp only [callsLeft]
            omega
          · simp only [turnsLeft, callsLeft]
            omega
      · exact calls_settleVerify stops fun _ _ _ _ _ same => by cases same
    refine calls_nextAttemptForRetry (fun _ => stops) (commits none ?_) fun attempt number =>
      commits (some attempt) ?_
    · rintro attempt ⟨⟩
    · rintro other ⟨⟩
      exact number

theorem calls_verifyStep {result? : Option VerificationResult}
    (entered : Entered uuid5 cap s op record (.verify result?)) :
    Calls (TurnEnds uuid5 cap (made + callsLeft cap s record (.verify result?))
        (turnsLeft cap s record (.verify result?)))
      (verifyStep registry h descriptor op record result?) made s := by
  have stops : made ≤ made + callsLeft cap s record (.verify result?) := Nat.le_add_right _ _
  unfold verifyStep
  cases result? with
  | some result => exact calls_applyVerified entered
  | none =>
    refine calls_load ?_
    dsimp only
    split
    · exact stops
    unfold callVerify
    simp only [Prog.bind_assoc]
    refine calls_lift (fun _ => stops) fun context _ => ?_
    refine calls_lift (fun _ => stops) fun adapter _ => ?_
    refine yields_question fun ended => ?_
    change Calls _ _ made s
    refine calls_verificationEvidence (fun _ => stops) fun evidence => ?_
    refine calls_now fun completedAt => ?_
    exact calls_applyVerified entered

/-! ## The cycle -/

/-- However the turns go, the cycle calls `compensate` only while there is room, and it ends within
the turns that leaves. -/
theorem calls_runCycle (turns : Nat) {mode : CycleMode}
    (entered : Entered uuid5 cap s op record mode) :
    Calls (fun ended made' _ => made' ≤ made + callsLeft cap s record mode ∧
        (turnsLeft cap s record mode ≤ turns → ended ≠ .ok none))
      (runCycle registry h descriptor turns op record mode) made s := by
  induction turns generalizing op record mode s made with
  | zero =>
    refine ⟨Nat.le_add_right _ _, fun enough => ?_⟩
    cases mode <;> simp [turnsLeft, callsLeft] at enough
  | succ turns ih =>
    have turn : Calls (TurnEnds uuid5 cap (made + callsLeft cap s record mode)
        (turnsLeft cap s record mode)) (cycleStep registry h descriptor op record mode) made s := by
      cases mode with
      | compensate attempt => exact calls_compensateStep entered
      | verify result? => exact calls_verifyStep entered
    refine turn.bind (fun e made' s' ended => ⟨ended, nofun⟩) fun step made' s' ended => ?_
    have again : ∀ {op' record' mode'}, GoesOn uuid5 cap (made + callsLeft cap s record mode)
        (turnsLeft cap s record mode) s' made' op' record' mode' →
        Calls (fun ended made'' _ => made'' ≤ made + callsLeft cap s record mode ∧
            (turnsLeft cap s record mode ≤ turns + 1 → ended ≠ .ok none))
          (runCycle registry h descriptor turns op' record' mode') made' s' := by
      intro op' record' mode' goesOn
      refine (ih goesOn.entered).mono fun ended made'' _ done => ⟨?_, fun enough => done.2 ?_⟩
      · exact done.1.trans goesOn.calls
      · have fewer := goesOn.turns
        omega
    cases step with
    | done result => exact ⟨ended, fun _ same => by cases same⟩
    | compensate op' record' attempt => exact again ended
    | verify op' record' => exact again ended

end Step

/-- Alone and whatever the provider answers, a cycle ends after at most two turns for each call,
and calls `compensate` at most once for each number from where it starts up to the cap. -/
theorem cycle_within_budget {cap : Int} {op : Operation} {record : Compensation} {mode : CycleMode}
    (entered : Entered uuid5 cap s op record mode) (registry : CapabilityRegistry) (h : Handling)
    (descriptor : EffectDescriptor) (answers : Nat → (query : Query) → Answer query) (n : Nat) :
    (∀ turns, (compensateCalls answers (runCycle registry h descriptor turns op record mode) n s :
        Int) ≤ max 1 (cap - startNumber s record mode + 1)) ∧
      ∀ turns : Nat, 2 * max 1 (cap - startNumber s record mode + 1) ≤ turns →
        (Prog.alone answers (runCycle registry h descriptor turns op record mode) n s).outcome ≠
          .ok none := by
  have done : ∀ turns,
      compensateCalls answers (runCycle registry h descriptor turns op record mode) n s ≤
        0 + callsLeft cap s record mode ∧
      (turnsLeft cap s record mode ≤ turns →
        (Prog.alone answers (runCycle registry h descriptor turns op record mode) n s).outcome ≠
          .ok none) := fun turns => (calls_runCycle turns entered).alone answers n
  have room : ((callsLeft cap s record mode : Nat) : Int) ≤
        max 1 (cap - startNumber s record mode + 1) ∧
      ((turnsLeft cap s record mode : Nat) : Int) ≤
        2 * max 1 (cap - startNumber s record mode + 1) := by
    cases mode with
    | compensate attempt =>
      simp only [turnsLeft, callsLeft, startNumber]
      omega
    | verify result? =>
      have latest := latest_numbered entered.reachable record.compensationId
      simp only [turnsLeft, callsLeft, startNumber, latest]
      omega
  refine ⟨fun turns => ?_, fun turns enough => (done turns).2 (by omega)⟩
  have made := (done turns).1
  omega

/-- Under a cap of three, a worker has claimed the first attempt. -/
def claimedJournal : Store :=
  run idOf .empty
    [.transition sampleCreate,
     .transition (sampleCommand 1 1 "audit-ready"
       (.policyAllow Recovery.samplePatientDecision (idOf "audit-policy") (idOf "outbox"))),
     .transition (sampleCommand 2 2 "audit-executing"
       (.claimExecution Runtime.sampleAttempt (idOf "audit-attempt"))),
     .transition (sampleCommand 3 3 "audit-succeeded"
       (.executionApplied sampleApplied (idOf "audit-evidence"))),
     .transition (sampleCommand 4 4 "audit-compensating"
       (.succeededStartCompensation (sampleCompensation "first") (idOf "audit-requested")
         (idOf "outbox-compensate"))),
     .transition (sampleClaim 5 "first" "compensation-attempt")]

theorem claimedJournal_entered :
    Entered idOf 3 claimedJournal (compensatingOperation 5 4) (movedRecord .executing 2 7)
      (.compensate (sampleCompensationAttempt "first" "compensation-attempt")) where
  reachable := ⟨_, rfl⟩
  found := by decide +kernel
  stored := by decide +kernel
  attempt := by
    rintro attempt ⟨⟩
    exact ⟨sampleCompensationAttempt "first" "compensation-attempt", by decide +kernel, rfl, rfl⟩
  capped := by
    intro policy named
    have decided : policy? claimedJournal (compensatingOperation 5 4) =
        some Recovery.samplePatientDecision := by decide +kernel
    rw [Option.some.inj (named.symm.trans decided)]
    decide

/-- Each round of the cycle writes under ids of its own. -/
def roundIds (round : String) : CompensationRetryIds where
  parentRetryTransitionAuditEventId := idOf ("transition-" ++ round)
  parentRetryOutboxEventId := idOf ("outbox-" ++ round)
  attemptId := idOf ("attempt-" ++ round)
  attemptAuditEventId := idOf ("attempt-audit-" ++ round)
  attemptOutboxEventId := idOf ("attempt-outbox-" ++ round)
  resumeVerificationId := idOf ("resume-" ++ round)
  resumeVerificationStartAuditEventId := idOf ("resume-start-" ++ round)
  resumeVerificationCompleteAuditEventId := idOf ("resume-complete-" ++ round)
  resumeVerificationOutboxEventId := idOf ("resume-outbox-" ++ round)
  resumeCompleteTransitionAuditEventId := idOf ("resume-transition-" ++ round)
  resumeCompleteOutboxEventId := idOf ("resume-complete-outbox-" ++ round)
  evidenceAuditEventId := idOf ("evidence-" ++ round)
  completeTransitionAuditEventId := idOf ("complete-" ++ round)
  completeOutboxEventId := idOf ("complete-outbox-" ++ round)
  verificationId := idOf ("verification-" ++ round)
  verificationStartAuditEventId := idOf ("verification-start-" ++ round)
  verificationCompleteAuditEventId := idOf ("verification-complete-" ++ round)
  verificationOutboxEventId := idOf ("verification-outbox-" ++ round)

def patientHandling : Handling where
  actor := compensationActor
  correlationId := none
  ids :=
    { sampleIds "first" "evidence" "verification" with
      retryIdsFor := fun _ number => .ok (roundIds (if number = 2 then "second" else "third")) }

/-- The provider refuses every compensation it is asked for. -/
def refusingAnswers : Nat → (query : Query) → Answer query
  | _, .now => ⟨20⟩
  | _, .execute .. => .raisedOther "TimeoutError"
  | _, .verify .. => .raisedOther "TimeoutError"
  | _, .compensate .. => .returned ⟨.notApplied, none, none, none⟩

def refusedCycle (turns : Nat) : Service (Option CompensationResult) :=
  runCycle Recovery.naturalRegistry patientHandling Recovery.naturalDescriptor turns
    (compensatingOperation 5 4) (movedRecord .executing 2 7)
    (.compensate (sampleCompensationAttempt "first" "compensation-attempt"))

/-- Two safe retries, then the budget is used up. -/
theorem cycle_within_budget_refused :
    compensateCalls refusingAnswers (refusedCycle 6) 0 claimedJournal = 3 ∧
      (∀ turns, (compensateCalls refusingAnswers (refusedCycle turns) 0 claimedJournal : Int) ≤
        3) ∧
      ∀ turns : Nat, 6 ≤ turns →
        (Prog.alone refusingAnswers (refusedCycle turns) 0 claimedJournal).outcome ≠ .ok none := by
  have within := cycle_within_budget claimedJournal_entered Recovery.naturalRegistry
    patientHandling Recovery.naturalDescriptor refusingAnswers 0
  have first : startNumber claimedJournal (movedRecord .executing 2 7)
      (.compensate (sampleCompensationAttempt "first" "compensation-attempt")) = 1 := rfl
  rw [first] at within
  refine ⟨by decide +kernel, within.1, fun turns enough => within.2 turns ?_⟩
  omega

end Stateback.Compensation
