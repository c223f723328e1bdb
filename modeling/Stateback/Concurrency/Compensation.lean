import Stateback.Compensation.Paired
import Stateback.Concurrency.Discipline
import Stateback.Recovery.Operator
/-!
# Compensation within the budgets

A retry is claimed with the number after the attempt it follows, and the service takes only the
number after all of them.  A verified retry counts the attempts listed with the record it read.
An operator's retry is not compared with the cap: its version is one that was asked for.
-/

namespace Stateback.Concurrency

open Domain Persistence Transitions Providers Stateback.Runtime Recovery Process Transaction
open KeyedTable.Table Invariants
open Stateback.Compensation hiding recoverUnknown unknownStartVerification unknownWithoutVerify
  unknownRetry recoverListed scanGroup buildStartedAttempt

variable {uuid5 : String → OpaqueId} {requests : Requests} {s s' last : Store} {α β γ : Type}
  {registry : CapabilityRegistry}

/-! ## The end of a unit of work -/

theorem frugal_settled {P : γ → Store → Prop} {operationId : OpaqueId}
    {conflict : CompensationResult} {failed : Operation → CompensationResult}
    {done : CompensationResult → γ} {committed : α → Service γ} {ended : Except Raised α}
    (ends : ∀ s result, P (done result) s)
    (commits : ∀ a, ended = .ok a → Frugal uuid5 requests P (committed a) last) :
    Frugal uuid5 requests P (settled operationId conflict failed done committed ended) last := by
  cases ended with
  | ok a => exact commits a rfl
  | error e =>
    dsimp only [settled]
    split
    · exact ends _ _
    · split
      · exact frugal_loadOperation fun _ _ _ _ _ => ends _ _
      · trivial

/-! ## Claiming a retry -/

/-- The operation a retry was claimed on: where it was read, one version further. -/
theorem moved_of_retried {retry : OperationCommand} {result : TransitionResult} {op : Operation}
    (ran : applyOperation retry s = .ok (result, s')) (applied : result.outcome = .applied)
    (seen : Seen s op) (about : retry.operationId = op.operationId)
    (version : retry.expectedVersion = op.version) :
    OperationMoved retry op s s' ∧ result.operation = some (movedOperation retry op) := by
  obtain ⟨loaded, made, -, operation⟩ | ⟨_, -, -, -, -, refused, -⟩ | ⟨_, -, -, refused, -⟩ :=
    applyOperation_cases ran
  · have found := made.found
    have current := made.version
    rw [about] at found
    rw [version] at current
    obtain rfl := seen.current found current
    exact ⟨made, operation⟩
  · rw [applied] at refused
    cases refused
  · rw [applied] at refused
    cases refused

/-- How a unit of work of two commands ended. -/
theorem paired_cases {step : PairedStep} {result : TransitionResult}
    (ran : step.body s = .ok (result, s')) :
    ∃ retried middle, applyOperation step.retry.command s = .ok (retried, middle) ∧
      ((retried.outcome = .applied ∧ ∃ operation record, retried.operation = some operation ∧
          retried.compensation = some record ∧
          step.second operation record middle = .ok (result, s')) ∨
        (retried.outcome ≠ .applied ∧ result = retried ∧ s' = middle)) := by
  rw [step.body_eq] at ran
  obtain ⟨retried, middle, first, rest⟩ := bind_ok.mp ran
  refine ⟨retried, middle, first, ?_⟩
  cases outcome : retried.outcome with
  | applied =>
    cases named : retried.operation with
    | none =>
      simp only [outcome, named] at rest
      cases rest
    | some operation =>
      cases moved : retried.compensation with
      | none =>
        simp only [outcome, named, moved] at rest
        cases rest
      | some record =>
        simp only [outcome, named, moved] at rest
        exact .inl ⟨rfl, operation, record, rfl, rfl, rest⟩
  | _ =>
    simp only [outcome] at rest
    obtain ⟨rfl, rfl⟩ := pure_ok.mp rest
    exact .inr ⟨nofun, rfl, rfl⟩

/-- What the second of two commands is, as an action. -/
theorem retryCommand_plain (retry : RetryCommand) : retry.command.kind ∉ budgetKinds := by
  obtain kind | kind := retry.retries <;> rw [kind] <;> decide

section Paired

variable {step : PairedStep} {result : TransitionResult} {op : Operation}

theorem guar_paired (step : PairedStep) (inv : Within uuid5 requests s) (seen : Seen s op)
    (about : step.retry.command.operationId = op.operationId)
    (version : step.retry.command.expectedVersion = op.version)
    (second : ∀ middle record, Within uuid5 requests middle → Later s middle →
      OperationMoved step.retry.command op s middle →
        step.second (movedOperation step.retry.command op) record middle = .ok (result, s') →
          (budgetContract uuid5 requests).guar middle s')
    (ran : step.body s = .ok (result, s')) : (budgetContract uuid5 requests).guar s s' := by
  obtain ⟨retried, middle, first, ended⟩ := paired_cases ran
  have moved := guar_applyOperation inv first
    (disciplined_of_kind _ rfl (retryCommand_plain step.retry))
  obtain ⟨within, later⟩ := budgetContract_sound.kept inv moved
  obtain ⟨applied, operation, record, named, -, rest⟩ | ⟨-, -, rfl⟩ := ended
  · obtain ⟨made, answered⟩ := moved_of_retried first applied seen about version
    obtain rfl := Option.some.inj (answered.symm.trans named)
    exact guar_trans moved (second middle record within later made rest)
  · exact moved

theorem paired_names (ran : step.body s = .ok (result, s')) :
    (∀ row, result.operation = some row → Seen s' row) ∧
      (result.outcome = .applied → ∀ record, result.compensation = some record →
        SeenRecord s' record) := by
  obtain ⟨retried, middle, first, ⟨-, operation, record, -, -, rest⟩ | ⟨refused, rfl, rfl⟩⟩ :=
    paired_cases ran
  · have names : Names s' result := by
      cases step with
      | claim => exact claimCompensationRetryAttempt_names rest
      | verify => exact startCompensationVerification_names rest
    exact ⟨fun row named => seen_of_found (names.operation row named),
      fun _ record named => seenRecord_of_found (names.record record named)⟩
  · exact ⟨fun row named => seen_of_found (applyOperation_names first named),
      fun applied => absurd applied refused⟩

end Paired

section Claim

variable (retry : RetryCommand) {actor : PrincipalRef} {correlationId : Option String}
  {reasonCode : String} {next : CompensationAttempt} {attemptAuditEventId : OpaqueId}
  {claimedAt : UtcTimestamp} {result : TransitionResult} {op : Operation}

/-- What the claim of a retry has to meet: it finds the operation the retry has moved, decided as
before, and numbers its attempt after all others of the record. -/
theorem guar_claim (inv : Within uuid5 requests s) (seen : Seen s op)
    (about : retry.command.operationId = op.operationId)
    (version : retry.command.expectedVersion = op.version)
    (claims : ∀ middle row decision, OperationMoved retry.command op s middle →
      DecidedBy s op decision → middle.compensation? row.compensationId = some row →
        row.originalOperationId = op.operationId →
          next.attemptNumber = (middle.compensationAttemptsOf row.compensationId).length + 1 →
            RecordAttemptsWithin requests next.attemptNumber (movedOperation retry.command op)
              decision.obligations)
    (ran : retryAndClaim retry.command
      (retryClaim actor correlationId reasonCode next attemptAuditEventId claimedAt) s =
        .ok (result, s')) : (budgetContract uuid5 requests).guar s s' := by
  refine guar_paired
    (.claim retry actor correlationId reasonCode next attemptAuditEventId claimedAt) inv seen about
    version (fun middle record within later made rest => ?_) ran
  have rest : apply (.claimCompensationRetryAttempt (retryClaim actor correlationId reasonCode next
      attemptAuditEventId claimedAt (movedOperation retry.command op) record)) middle =
        .ok (result, s') := rest
  have made : OperationMoved retry.command op s middle := made
  have moved := operation?_replace_stepped made.found made.operations op.operationId
  rw [if_pos made.operationId.symm] at moved
  have meets : RetryDisciplined requests middle (.claimCompensationRetryAttempt
      (retryClaim actor correlationId reasonCode next attemptAuditEventId claimedAt
        (movedOperation retry.command op) record)) := by
    rintro loaded row decision ⟨allowed, passed, -⟩ decided
    obtain rfl : loaded = movedOperation retry.command op :=
      Option.some.inj (allowed.found.symm.trans moved)
    obtain ⟨-, -, number⟩ := (claimCompensationRetry_checked passed).attempt next rfl
    rw [Store.listCompensationAttempts, List.length_insertionSort] at number
    have before : DecidedBy s op decision := by
      refine decidedBy_before_moved made (fun pending => ?_) decided
      have source := made.source
      obtain kind | kind := retry.retries <;>
      · rw [kind, pending] at source
        cases source
    rw [← number]
    exact claims middle row decision made before
      (find?_of_mem (find?_some allowed.compensationFound).1) allowed.parent number
  exact guar_apply within rest meets

theorem retryAndClaim_seen (ran : retryAndClaim retry.command
      (retryClaim actor correlationId reasonCode next attemptAuditEventId claimedAt) s =
        .ok (result, s')) {row : Operation} (named : result.operation = some row) :
    Seen s' row := by
  have ran : (PairedStep.claim retry actor correlationId reasonCode next attemptAuditEventId
      claimedAt).body s = .ok (result, s') := ran
  exact (paired_names ran).1 row named

/-- Claiming the attempt after one below the cap. -/
theorem guar_claim_below {policy : PolicyDecision} (inv : Within uuid5 requests s)
    (seen : Seen s op) (named : policy? s op = some policy)
    (about : retry.command.operationId = op.operationId)
    (version : retry.command.expectedVersion = op.version)
    (below : (next.attemptNumber : Int) ≤ maxAutomaticAttempts policy.obligations)
    (ran : retryAndClaim retry.command
      (retryClaim actor correlationId reasonCode next attemptAuditEventId claimedAt) s =
        .ok (result, s')) : (budgetContract uuid5 requests).guar s s' := by
  refine guar_claim retry inv seen about version
    (fun middle row decision made decided _ _ _ => ?_) ran
  obtain rfl := policy?_decided named decided
  unfold RecordAttemptsWithin
  omega

/-- Claiming an attempt at a version an operator asked to retry. -/
theorem guar_claim_asked (inv : Within uuid5 requests s) (seen : Seen s op)
    (asked : (op.version : Int) ∈ requests.compensation op.operationId)
    (about : retry.command.operationId = op.operationId)
    (version : retry.command.expectedVersion = op.version)
    (ran : retryAndClaim retry.command
      (retryClaim actor correlationId reasonCode next attemptAuditEventId claimedAt) s =
        .ok (result, s')) : (budgetContract uuid5 requests).guar s s' := by
  refine guar_claim retry inv seen about version
    (fun middle row decision made decided found parent number => ?_) ran
  have grown : extra (requests.compensation op.operationId) op.version <
      extra (requests.compensation op.operationId) (op.version + 1) := extra_succ asked
  have positive := one_le_maxAutomaticAttempts decision.obligations
  have taken : JournalStep (.transition (.operation retry.command)) s middle :=
    .moved _ _ rfl made
  have counted : (middle.compensationAttemptsOf row.compensationId).length =
      (s.compensationAttemptsOf row.compensationId).length := by
    cases recordAttemptsStep_of taken with
    | kept _ counts => exact counts _
    | added _ _ _ asked checked =>
      cases asked
      exact checked.elim
  change (next.attemptNumber : Int) ≤ maxAutomaticAttempts decision.obligations +
    extra (requests.compensation op.operationId) (op.version + 1)
  by_cases none_ : s.compensationAttemptsOf row.compensationId = []
  · rw [none_, List.length_nil] at counted
    omega
  · -- an attempt has a record, which is the one the claim found
    obtain ⟨attempt, member⟩ := List.exists_mem_of_ne_nil _ none_
    obtain ⟨stored, owner⟩ := mem_select.mp member
    obtain ⟨old, there⟩ := (recordAttempts_of_reachable inv.1).owned attempt stored
    rw [of_decide_eq_true owner] at there
    obtain ⟨later, at_, -, same, -⟩ := compensation?_later taken there
    obtain rfl : later = row := Option.some.inj (at_.symm.trans found)
    have current : s.operation? old.originalOperationId = some op := by
      rw [← same, parent, made.operationId]
      exact made.found
    have before := inv.2.recordAttempts _ old op decision there current decided
    unfold RecordAttemptsWithin at before
    omega

end Claim

/-! ## The steps of a cycle -/

/-- The rows a step of a cycle goes on with are as the journal has them. -/
def StepSeen : CycleStep → Store → Prop
  | .done _, _ => True
  | .compensate op _ _, s => Seen s op
  | .verify op record, s => Seen s op ∧ SeenRecord s record

/-- A step, if there is one. -/
def StepSeen? (step : Option CycleStep) (s : Store) : Prop := ∀ some_ ∈ step, StepSeen some_ s

theorem stepSeen?_none : StepSeen? none s := by
  intro step member
  cases member

theorem stepSeen?_some {step : CycleStep} (seen : StepSeen step s) : StepSeen? (some step) s := by
  intro other member
  cases member
  exact seen

/-- What follows a retry's unit of work, in a cycle or outside one. -/
theorem frugal_settleRetry {P : γ → Store → Prop} {op : Operation} {record : Compensation}
    {done : CompensationResult → γ} {resume : Operation → Compensation → Service γ}
    {claimed : Except Raised TransitionResult} (ends : ∀ s result, P (done result) s)
    (rows : ∀ result, claimed = .ok result → ∀ row, result.operation = some row → Seen last row)
    (resumes : ∀ row record, Seen last row →
      Frugal uuid5 requests P (resume row record) last) :
    Frugal uuid5 requests P (settleRetry op record done resume claimed) last := by
  unfold settleRetry
  refine frugal_settled ends fun result same => ?_
  split
  · exact ends _ _
  · refine frugal_require fun claimedOp named => ?_
    refine frugal_require fun claimedRecord _ => ?_
    exact resumes claimedOp claimedRecord (rows result same claimedOp named)

theorem frugal_maybeClaimRetry {h : Handling} {descriptor : EffectDescriptor} {op : Operation}
    {record : Compensation} {completed : CompensationAttempt} (seen : Seen last op) :
    Frugal uuid5 requests StepSeen?
      (maybeClaimRetry registry h descriptor op record completed) last := by
  unfold maybeClaimRetry
  refine frugal_load fun s₁ inv₁ later₁ => ?_
  refine frugal_loadPolicy (fun _ _ _ => stepSeen?_none) (fun s₂ policy _ later₂ named => ?_) inv₁
  refine frugal_now fun s₃ now _ later₃ => ?_
  refine frugal_lift fun retryDescriptor _ => ?_
  refine frugal_lift fun retry _ => ?_
  split
  · exact stepSeen?_none
  next safe =>
  have below : (completed.attemptNumber : Int) < maxAutomaticAttempts policy.obligations :=
    not_le.mp (not_or.mp safe).2
  refine frugal_lift fun retryIds _ => ?_
  refine frugal_now fun s₄ startedAt _ later₄ => ?_
  refine frugal_now fun s₅ occurredAt _ later₅ => ?_
  refine frugal_now fun s₆ claimedAt _ later₆ => ?_
  have later₂₆ := later₃.trans (later₄.trans (later₅.trans later₆))
  refine frugal_attempt (fun s result s' inv later ran => ?_) (fun s result s' _ ran _ _ => ?_)
    fun s e _ _ => ?_
  · have later₂ₛ := later₂₆.trans later
    exact guar_claim_below ⟨_, .inr rfl⟩ inv
      (seen.later (later₁.trans (later₂.trans later₂ₛ))) (policy?_later named later₂ₛ) rfl rfl
      (by exact below) ran
  · refine frugal_settleRetry (fun _ _ => stepSeen?_some trivial) ?_
      fun row _ seen => stepSeen?_some seen
    rintro _ ⟨⟩ row named
    exact retryAndClaim_seen ⟨_, .inr rfl⟩ ran named
  · refine frugal_settleRetry (fun _ _ => stepSeen?_some trivial) ?_
      fun row _ seen => stepSeen?_some seen
    rintro _ ⟨⟩

/-- The command a `compensate` call is recorded by is an operation command that spends no budget,
or starts a verification. -/
theorem buildCompensateOutcomeCommand_cases {h : Handling} {decision : CompensateKindDecision}
    {op : Operation} {record : Compensation} {completed : CompensationAttempt}
    {occurredAt requestedAt : UtcTimestamp} {command : TransitionCommand}
    (built : buildCompensateOutcomeCommand h decision op record completed occurredAt requestedAt =
      .ok command) :
    (decision.kind ≠ .progress .startCompensationVerification ∧
        ∃ submitted, command = .operation submitted ∧ submitted.kind ∉ budgetKinds) ∨
      ∃ start, command = .startCompensationVerification start := by
  unfold buildCompensateOutcomeCommand at built
  split at built
  · cases built
  next ids _ =>
  cases decided : decision.kind with
  | transition kind =>
    rw [decided] at built
    cases kind with
    | compensationApplied =>
      cases built
      exact .inl ⟨nofun, _, rfl, show TransitionKind.compensationApplied ∉ _ by decide⟩
    | compensationOutcomeUnknown =>
      cases built
      exact .inl ⟨nofun, _, rfl, show TransitionKind.compensationOutcomeUnknown ∉ _ by decide⟩
    | compensationOutcomeFailed =>
      cases built
      exact .inl ⟨nofun, _, rfl, show TransitionKind.compensationOutcomeFailed ∉ _ by decide⟩
    | _ => cases built
  | progress kind =>
    rw [decided] at built
    cases kind with
    | startCompensationVerification =>
      cases built
      exact .inr ⟨_, rfl⟩
    | _ => cases built

theorem frugal_submitOutcome {P : α → Store → Prop} {h : Handling}
    {decision : CompensateKindDecision} {op : Operation} {record : Compensation}
    {completed : CompensationAttempt} {occurredAt requestedAt : UtcTimestamp}
    {command : TransitionCommand} {next : Except Raised TransitionResult → Service α}
    (built : buildCompensateOutcomeCommand h decision op record completed occurredAt requestedAt =
      .ok command)
    (ok : ∀ result s, Within uuid5 requests s →
      (∀ row, result.operation = some row → Seen s row) →
        (decision.kind = .progress .startCompensationVerification →
          ∀ row, result.compensation = some row → SeenRecord s row) →
          Frugal uuid5 requests P (next (.ok result)) s)
    (error : ∀ s e, Within uuid5 requests s → Frugal uuid5 requests P (next (.error e)) s) :
    Frugal uuid5 requests P (Service.trySubmit command >>= next) last := by
  obtain ⟨other, submitted, rfl, plain⟩ | ⟨start, rfl⟩ :=
    buildCompensateOutcomeCommand_cases built
  · refine frugal_trySubmit (fun _ _ _ => disciplined_of_kind _ rfl plain)
      (fun s result s' ran inv _ => ?_) fun s e inv _ => error s e inv
    exact ok result s' inv (fun row named => seen_of_found (applyOperation_names ran named))
      fun kind => absurd kind other
  · refine frugal_trySubmit (fun _ _ _ => trivial) (fun s result s' ran inv _ => ?_)
      fun s e inv _ => error s e inv
    have names := startCompensationVerification_names ran
    exact ok result s' inv (fun row named => seen_of_found (names.operation row named))
      fun _ row named => seenRecord_of_found (names.record row named)

theorem frugal_settleCompensate {h : Handling} {descriptor : EffectDescriptor} {op : Operation}
    {record : Compensation} {evidence : CompensationEvidence} {completed : CompensationAttempt}
    {kind : CommandKind} {applied : Except Raised TransitionResult}
    (inv : Within uuid5 requests last)
    (rows : ∀ result, applied = .ok result → ∀ row, result.operation = some row → Seen last row)
    (records : kind = .progress .startCompensationVerification → ∀ result, applied = .ok result →
      ∀ row, result.compensation = some row → SeenRecord last row) :
    Frugal uuid5 requests StepSeen
      (settleCompensate registry h descriptor op record evidence completed kind applied) last := by
  unfold settleCompensate
  refine frugal_settled (fun _ _ => trivial) fun result same => ?_
  split
  · trivial
  refine frugal_require fun settledOp named => ?_
  refine frugal_require fun settledRecord stored => ?_
  have seen := rows result same settledOp named
  dsimp only
  split
  · exact ⟨seen, records rfl result same settledRecord stored⟩
  · refine (frugal_maybeClaimRetry seen).andThen budgetContract_sound inv
      fun retry s _ _ steps => ?_
    cases retry with
    | none => trivial
    | some step => exact steps step rfl
  · trivial

theorem frugal_recordCompensate {h : Handling} {descriptor : EffectDescriptor} {op : Operation}
    {record : Compensation} {attempt : CompensationAttempt} {evidence : CompensationEvidence} :
    Frugal uuid5 requests StepSeen
      (recordCompensate registry h descriptor op record attempt evidence) last := by
  unfold recordCompensate
  refine frugal_now fun s₁ completedAt inv₁ _ => ?_
  refine frugal_loadPolicy (fun _ _ _ => trivial) (fun s₂ policy _ _ _ => ?_) inv₁
  refine frugal_now fun s₃ occurredAt _ _ => ?_
  refine frugal_now fun s₄ requestedAt _ _ => ?_
  refine frugal_lift fun command built => ?_
  refine frugal_submitOutcome built (fun result s inv rows records => ?_) fun s e inv => ?_
  · refine frugal_settleCompensate inv ?_ fun kind => ?_
    · rintro _ ⟨⟩
      exact rows
    · rintro _ ⟨⟩
      exact records kind
  · exact frugal_settleCompensate inv (fun _ same => by cases same) fun _ _ same => by cases same

theorem frugal_compensateStep {h : Handling} {descriptor : EffectDescriptor} {op : Operation}
    {record : Compensation} {attempt : CompensationAttempt} :
    Frugal uuid5 requests StepSeen (compensateStep registry h descriptor op record attempt)
      last := by
  unfold compensateStep callCompensate
  refine frugal_load fun s₁ _ _ => ?_
  dsimp only
  split
  · exact frugal_lift fun evidence _ => frugal_recordCompensate
  · refine frugal_question fun s₂ ended _ _ => ?_
    exact frugal_lift fun evidence _ => frugal_recordCompensate

/-- A verified retry stays below the cap, by the number of the latest attempt. -/
theorem reconcileCompensation_below {result : VerificationResult}
    {latest : Option CompensationAttempt} {descriptor : EffectDescriptor}
    {obligations : PolicyObligations} {count : Nat} {op : Operation} {record : Compensation}
    {mapped : CompensateKindDecision}
    (decided : compensationDecisionToKind op.state record.state
      (reconcileCompensation result latest descriptor obligations count) = .ok mapped)
    (retries : mapped.kind = .progress .retryCompensationAfterVerification) :
    (((latest.map (·.attemptNumber)).getD 0 : Nat) : Int) < maxAutomaticAttempts obligations := by
  have action : (reconcileCompensation result latest descriptor obligations count).action =
      .makeReadyForSafeRetry := by
    unfold compensationDecisionToKind at decided
    split at decided
    · cases decided
      dsimp only at retries
      cases same : (reconcileCompensation result latest descriptor obligations count).action <;>
        rw [same] at retries <;> first | rfl | cases retries
    · split at decided
      · split at decided <;> cases decided <;> cases retries
      · cases decided
  unfold reconcileCompensation at action
  dsimp only at action
  split at action
  · split at action <;> cases action
  · split at action
    · cases action
    split at action
    next below => cases latest <;> simpa using below.2
    next => cases action
  · split at action
    · cases action
    split at action
    · cases action
    split at action <;> cases action

theorem verifyOutcomeCommand_cases {h : Handling} {mapped : CompensateKindDecision}
    {op : Operation} {record : Compensation} {result : VerificationResult}
    {completed next : Option CompensationAttempt} {descriptor : EffectDescriptor}
    {occurredAt : UtcTimestamp} {attemptNumber : Nat} {command : TransitionCommand}
    (built : verifyOutcomeCommand h mapped op record result completed next descriptor occurredAt
      attemptNumber = .ok command) :
    (∃ submitted, command = .operation submitted ∧ submitted.kind ∉ budgetKinds ∧
        mapped.kind ≠ .progress .retryCompensationAfterVerification) ∨
      mapped.kind = .progress .retryCompensationAfterVerification ∧
        ∃ retry, command = .retryCompensationAfterVerification retry ∧
          retry.operationId = op.operationId ∧ retry.expectedOperationVersion = op.version ∧
          retry.compensationId = record.compensationId ∧
          retry.expectedCompensationVersion = record.version ∧ next = some retry.attempt := by
  unfold verifyOutcomeCommand at built
  split at built
  · cases built
  split at built
  next kind =>
    cases built
    exact .inl ⟨_, rfl, show TransitionKind.compensationApplied ∉ _ by decide, by rw [kind]; nofun⟩
  next kind =>
    cases built
    exact .inl ⟨_, rfl, show TransitionKind.compensationOutcomeFailed ∉ _ by decide,
      by rw [kind]; nofun⟩
  next kind =>
    cases built
    exact .inl ⟨_, rfl, show TransitionKind.compensationOutcomeUnknown ∉ _ by decide,
      by rw [kind]; nofun⟩
  next kind =>
    cases built
    exact .inl ⟨_, rfl, show TransitionKind.compensationEscalate ∉ _ by decide, by rw [kind]; nofun⟩
  next kind =>
    split at built
    · cases built
    · cases built
      exact .inr ⟨kind, _, rfl, rfl, rfl, rfl, rfl, rfl⟩
  · cases built

theorem frugal_settleVerify {op : Operation} {record : Compensation}
    {evidence : Option VerificationEvidence} {next : Option CompensationAttempt}
    {kind : CommandKind} {applied : Except Raised TransitionResult}
    (rows : ∀ result, applied = .ok result → ∀ row, result.operation = some row → Seen last row) :
    Frugal uuid5 requests StepSeen (settleVerify op record evidence next kind applied) last := by
  unfold settleVerify
  refine frugal_settled (fun _ _ => trivial) fun result same => ?_
  split
  · trivial
  refine frugal_require fun settledOp named => ?_
  refine frugal_require fun settledRecord _ => ?_
  split
  · exact frugal_require fun attempt _ => rows result same settledOp named
  · trivial

theorem frugal_completedForCommand {kind : CommandKind} {latest : Option CompensationAttempt}
    {result : VerificationResult} :
    Frugal uuid5 requests Anything (completedForCommand kind latest result) last := by
  unfold completedForCommand
  split
  · split
    · trivial
    · exact frugal_now fun _ _ _ _ => trivial
  · trivial

theorem frugal_nextAttemptForRetry {h : Handling} {descriptor : EffectDescriptor}
    {kind : CommandKind} {record : Compensation} :
    Frugal uuid5 requests Anything (nextAttemptForRetry h descriptor kind record) last := by
  unfold nextAttemptForRetry
  split
  · refine frugal_load fun _ _ _ => ?_
    refine frugal_lift fun _ _ => ?_
    exact frugal_now fun _ _ _ _ => trivial
  · trivial

theorem frugal_applyVerified {h : Handling} {descriptor : EffectDescriptor} {op : Operation}
    {record : Compensation} {evidence : Option VerificationEvidence} {result : VerificationResult}
    (seen : Seen last op) (held : SeenRecord last record) :
    Frugal uuid5 requests StepSeen (applyVerified h descriptor op record evidence result) last := by
  unfold applyVerified
  refine frugal_load fun s₁ inv₁ later₁ => ?_
  refine frugal_loadPolicy (fun _ _ _ => trivial) (fun s₂ policy _ later₂ named => ?_) inv₁
  refine frugal_load fun s₃ inv₃ later₃ => ?_
  refine frugal_lift fun mapped decided => ?_
  refine frugal_completedForCommand.andThen budgetContract_sound inv₃
    fun completed s₄ inv₄ later₄ _ => ?_
  split
  · trivial
  refine frugal_nextAttemptForRetry.andThen budgetContract_sound inv₄ fun next s₅ _ later₅ _ => ?_
  refine frugal_now fun s₆ occurredAt _ later₆ => ?_
  refine frugal_lift fun command built => ?_
  have later₂₆ := later₃.trans (later₄.trans (later₅.trans later₆))
  refine frugal_trySubmit (fun s inv later => ?_) (fun s result s' ran _ _ => ?_) fun s e _ _ => ?_
  · obtain ⟨submitted, rfl, plain, -⟩ |
        ⟨kind, retry, rfl, operation, version, compensation, at_, -⟩ :=
      verifyOutcomeCommand_cases built
    · exact disciplined_of_kind _ rfl plain
    · rintro loaded row decision ⟨allowed, -⟩ decides
      have later₂ₛ := later₂₆.trans later
      have later₁ₛ := later₂.trans later₂ₛ
      obtain ⟨found, current, -, stored, -, unmoved⟩ := allowed
      rw [operation] at found
      rw [version] at current
      rw [compensation] at stored
      rw [at_] at unmoved
      obtain rfl := (seen.later (later₁.trans later₁ₛ)).current found current
      obtain rfl := (held.later (later₁.trans later₁ₛ)).current stored unmoved
      obtain rfl := policy?_decided (policy?_later named later₂ₛ) decides
      have counted := (held.later later₁).between later₁ₛ stored
      have listed := compensationAttemptsOf_le_last (recordAttempts_of_reachable inv₁.1)
        row.compensationId
      have below := reconcileCompensation_below decided kind
      unfold RecordAttemptsWithin
      omega
  · refine frugal_settleVerify ?_
    rintro _ ⟨⟩ row there
    refine seen_of_apply ran (fun create same => ?_) there
    obtain ⟨_, rfl, -⟩ | ⟨-, _, rfl, -⟩ := verifyOutcomeCommand_cases built <;> cases same
  · refine frugal_settleVerify ?_
    rintro _ ⟨⟩

theorem frugal_callVerify {h : Handling} {op : Operation} {record : Compensation}
    {request : VerificationRequest} :
    Frugal uuid5 requests Anything (callVerify registry h op record request) last := by
  unfold callVerify
  refine frugal_lift fun context _ => ?_
  refine frugal_lift fun adapter _ => ?_
  refine frugal_question fun s₁ ended inv₁ _ => ?_
  have evidence : Frugal uuid5 requests Anything
      (verificationEvidence op.intent.effect.provider ended) s₁ :=
    assures_verificationEvidence (fun _ _ => trivial) fun _ _ _ _ => trivial
  refine evidence.andThen budgetContract_sound inv₁ fun _ s₂ _ _ _ => ?_
  exact frugal_now fun _ _ _ _ => trivial

theorem frugal_verifyStep {h : Handling} {descriptor : EffectDescriptor} {op : Operation}
    {record : Compensation} {existingResult : Option VerificationResult} (seen : Seen last op)
    (held : SeenRecord last record) :
    Frugal uuid5 requests StepSeen (verifyStep registry h descriptor op record existingResult)
      last := by
  unfold verifyStep
  cases existingResult with
  | some result => exact frugal_applyVerified seen held
  | none =>
    refine frugal_load fun s₁ inv₁ later₁ => ?_
    dsimp only
    split
    · trivial
    refine frugal_callVerify.andThen budgetContract_sound inv₁ fun verified s₂ _ later₂ _ => ?_
    have later := later₁.trans later₂
    exact frugal_applyVerified (seen.later later) (held.later later)

/-! ## The cycle -/

/-- The rows a turn of the cycle needs as the journal has them. -/
def ModeSeen (s : Store) (op : Operation) (record : Compensation) : CycleMode → Prop
  | .compensate _ => True
  | .verify _ => Seen s op ∧ SeenRecord s record

theorem frugal_runCycle {h : Handling} {descriptor : EffectDescriptor} (turns : Nat)
    {op : Operation} {record : Compensation} {mode : CycleMode} (inv : Within uuid5 requests last)
    (seen : ModeSeen last op record mode) :
    Frugal uuid5 requests Anything (runCycle registry h descriptor turns op record mode) last := by
  induction turns generalizing op record mode last with
  | zero => trivial
  | succ turns ih =>
    have turn : Frugal uuid5 requests StepSeen (cycleStep registry h descriptor op record mode)
        last := by
      cases mode with
      | compensate attempt => exact frugal_compensateStep
      | verify existingResult => exact frugal_verifyStep seen.1 seen.2
    refine turn.andThen budgetContract_sound inv fun step s inv' _ steps => ?_
    cases step with
    | done result => trivial
    | compensate nextOp nextRecord attempt => exact ih inv' trivial
    | verify nextOp nextRecord => exact ih inv' steps

theorem frugal_enterCycle {h : Handling} {turns : Nat} {op : Operation} {record : Compensation}
    {mode : CycleMode} (inv : Within uuid5 requests last) (seen : ModeSeen last op record mode) :
    Frugal uuid5 requests Anything (enterCycle registry h turns op record mode) last :=
  frugal_lift fun _ _ => frugal_runCycle turns inv seen

/-! ## Dispatch -/

section Dispatch

variable {turns : Nat} {h : Handling} {op : Operation} {record : Compensation}

theorem frugal_claimAndCompensate {again : Operation → Service (Option CompensationResult)}
    (goesOn : ∀ s fresh, Within uuid5 requests s → Frugal uuid5 requests Anything (again fresh) s) :
    Frugal uuid5 requests Anything (claimAndCompensate registry h again turns op record) last := by
  unfold claimAndCompensate
  split
  · trivial
  refine frugal_load fun s₁ _ _ => ?_
  refine frugal_now fun s₂ startedAt _ _ => ?_
  refine frugal_now fun s₃ occurredAt _ _ => ?_
  refine frugal_trySubmit (fun _ _ _ => trivial) (fun s result s' _ inv' _ => ?_) fun s e _ _ => ?_
  · unfold settleClaimCompensation
    refine frugal_settled (fun _ _ => trivial) fun result _ => ?_
    cases result.outcome with
    | rejected => trivial
    | alreadyApplied => exact frugal_loadOperation fun s fresh inv _ _ => goesOn s fresh inv
    | applied =>
      refine frugal_require fun claimedOp _ => ?_
      exact frugal_require fun claimedRecord _ => frugal_runCycle turns inv' trivial
  · unfold settleClaimCompensation
    exact frugal_settled (fun _ _ => trivial) fun result same => by cases same

variable {recover : RecoverCompensationCommand → Service (Option CompensationResult)}
  {command : ExecuteCompensationCommand}

theorem frugal_dispatchExecute (recovers : ∀ command s, Within uuid5 requests s →
      Frugal uuid5 requests Anything (recover command) s) (inv : Within uuid5 requests last) :
    Frugal uuid5 requests Anything (dispatchExecute registry recover command turns op) last := by
  induction turns generalizing op last with
  | zero => trivial
  | succ turns ih =>
    have delegates : ∀ s, Within uuid5 requests s →
        Frugal uuid5 requests Anything (delegateToRecover recover command op) s :=
      fun s inv => recovers _ s inv
    have compensating : ∀ s record, Within uuid5 requests s → Frugal uuid5 requests Anything
        (dispatchCompensating registry recover (dispatchExecute registry recover command turns)
          turns command op record) s := by
      intro s record inv
      unfold dispatchCompensating
      cases record.state with
      | pending => exact frugal_claimAndCompensate fun s fresh inv => ih inv
      | executing =>
        refine frugal_load fun s inv _ => ?_
        split
        · exact delegates s inv
        · split
          · trivial
          · exact delegates s inv
      | verifying => exact delegates s inv
      | _ => trivial
    unfold dispatchExecute
    cases op.state
    case compensating | compensationUnknown | compensationFailed =>
      dsimp only
      split
      · trivial
      refine frugal_load fun s inv _ => ?_
      split
      · trivial
      split
      · exact compensating s _ inv
      · exact delegates s inv
    all_goals trivial

theorem frugal_executeWith (recovers : ∀ command s, Within uuid5 requests s →
      Frugal uuid5 requests Anything (recover command) s) :
    Frugal uuid5 requests Anything (executeWith registry recover turns command) last := by
  refine frugal_loadOperation fun s op inv _ _ => ?_
  split
  · trivial
  · exact frugal_dispatchExecute recovers inv

end Dispatch

/-! ## Recovery -/

section Recover

variable {turns : Nat} {h : Handling} {op : Operation} {record : Compensation}
  {latest : CompensationAttempt}

theorem frugal_settleApplied {compensation : Option Compensation}
    {applied : Except Raised TransitionResult} :
    Frugal uuid5 requests Anything (settleApplied op compensation applied) last := by
  refine frugal_settled (fun _ _ => trivial) fun result _ => ?_
  split <;> trivial

/-- A command that spends no budget, and then the end of its branch. -/
theorem frugal_submitApplied {command : OperationCommand} {compensation : Option Compensation}
    (plain : command.kind ∉ budgetKinds) :
    Frugal uuid5 requests Anything (do
      let applied ← Service.trySubmit (.operation command)
      settleApplied op compensation applied) last :=
  frugal_trySubmit (fun _ _ _ => disciplined_of_kind _ rfl plain)
    (fun _ _ _ _ _ _ => frugal_settleApplied) fun _ _ _ _ => frugal_settleApplied

theorem frugal_leftoverStartedToUnknown :
    Frugal uuid5 requests Anything (leftoverStartedToUnknown h op record) last :=
  frugal_now fun _ _ _ _ =>
    frugal_submitApplied (show TransitionKind.compensationOutcomeUnknown ∉ _ by decide)

theorem frugal_replayCompletedMapper (inv : Within uuid5 requests last) :
    Frugal uuid5 requests Anything (replayCompletedMapper registry h turns op record latest)
      last := by
  unfold replayCompletedMapper
  refine frugal_lift fun descriptor _ => ?_
  refine frugal_loadPolicy (fun _ _ _ => trivial) (fun s₁ policy _ _ _ => ?_) inv
  refine frugal_require fun outcome _ => ?_
  refine frugal_now fun s₂ occurredAt _ _ => ?_
  refine frugal_now fun s₃ requestedAt _ _ => ?_
  refine frugal_lift fun command built => ?_
  refine frugal_submitOutcome built (fun result s inv rows records => ?_) fun s e inv => ?_
  · refine frugal_settled (fun _ _ => trivial) fun result' same => ?_
    cases same
    split
    · trivial
    refine frugal_require fun settledOp named => ?_
    refine frugal_require fun settledRecord stored => ?_
    split
    next kind => exact frugal_enterCycle inv ⟨rows _ named, records kind _ stored⟩
    next => trivial
  · exact frugal_settled (fun _ _ => trivial) fun result same => by cases same

theorem frugal_recoverVerifying (seen : Seen last op) (held : SeenRecord last record) :
    Frugal uuid5 requests Anything (recoverVerifying registry h turns op record) last := by
  unfold recoverVerifying
  refine frugal_load fun s₁ inv₁ later₁ => ?_
  split
  · exact frugal_enterCycle inv₁ ⟨seen.later later₁, held.later later₁⟩
  refine frugal_load fun s₂ inv₂ later₂ => ?_
  have later := later₁.trans later₂
  split
  · trivial
  · exact frugal_enterCycle inv₂ ⟨seen.later later, held.later later⟩

section Mutual

variable {recover : RecoverCompensationCommand → Service (Option CompensationResult)}
  {execute : ExecuteCompensationCommand → Service (Option CompensationResult)}

theorem frugal_recoverCompensating (executes : ∀ command s, Within uuid5 requests s →
      Frugal uuid5 requests Anything (execute command) s) (inv : Within uuid5 requests last)
    (seen : Seen last op) (held : SeenRecord last record) :
    Frugal uuid5 requests Anything (recoverCompensating registry execute turns h op record)
      last := by
  unfold recoverCompensating
  cases record.state with
  | pending => exact executes _ last inv
  | executing =>
    refine frugal_load fun s inv _ => ?_
    split
    · trivial
    · split
      · exact frugal_leftoverStartedToUnknown
      · exact frugal_replayCompletedMapper inv
  | verifying => exact frugal_recoverVerifying seen held
  | _ => trivial

theorem frugal_recoverAgain (recovers : ∀ command s, Within uuid5 requests s →
      Frugal uuid5 requests Anything (recover command) s) {operationId : OpaqueId} :
    Frugal uuid5 requests Anything (recoverAgain recover h operationId) last :=
  frugal_loadOperation fun s _ inv _ _ => recovers _ s inv

theorem frugal_unknownRetry (recovers : ∀ command s, Within uuid5 requests s →
      Frugal uuid5 requests Anything (recover command) s) {descriptor : EffectDescriptor}
    {policy : PolicyDecision} {number : Nat} {reasonCode : String} (seen : Seen last op)
    (named : policy? last op = some policy)
    (below : (number : Int) ≤ maxAutomaticAttempts policy.obligations) :
    Frugal uuid5 requests Anything (Compensation.unknownRetry registry recover turns h descriptor op
      record number reasonCode) last := by
  unfold Compensation.unknownRetry
  refine frugal_lift fun retryIds _ => ?_
  refine frugal_now fun s₁ startedAt _ later₁ => ?_
  refine frugal_now fun s₂ occurredAt _ later₂ => ?_
  refine frugal_now fun s₃ claimedAt _ later₃ => ?_
  have later₀₃ := later₁.trans (later₂.trans later₃)
  refine frugal_attempt (fun s result s' inv later ran => ?_) (fun s result s' _ _ inv' _ => ?_)
    fun s e _ _ => ?_
  · have later := later₀₃.trans later
    exact guar_claim_below ⟨_, .inl rfl⟩ inv (seen.later later) (policy?_later named later) rfl rfl
      below ran
  · refine frugal_settled (fun _ _ => trivial) fun result' same => ?_
    cases same
    cases result.outcome with
    | rejected => trivial
    | alreadyApplied => exact frugal_recoverAgain recovers
    | applied =>
      refine frugal_require fun claimedOp _ => ?_
      exact frugal_require fun claimedRecord _ => frugal_enterCycle inv' trivial
  · exact frugal_settled (fun _ _ => trivial) fun result same => by cases same

theorem frugal_unknownWithoutVerify (recovers : ∀ command s, Within uuid5 requests s →
      Frugal uuid5 requests Anything (recover command) s) {descriptor : EffectDescriptor}
    {policy : PolicyDecision} (seen : Seen last op) (named : policy? last op = some policy) :
    Frugal uuid5 requests Anything (Compensation.unknownWithoutVerify registry recover turns h op
      record latest descriptor policy) last := by
  unfold Compensation.unknownWithoutVerify
  refine frugal_load fun s₁ _ later₁ => ?_
  refine frugal_require fun first _ => ?_
  refine frugal_now fun s₂ now _ later₂ => ?_
  refine frugal_lift fun retryDescriptor _ => ?_
  refine frugal_lift fun retry _ => ?_
  have later := later₁.trans later₂
  split
  next retries =>
    refine frugal_unknownRetry recovers (seen.later later) (policy?_later named later) ?_
    have below := retries.2
    push_cast
    omega
  next =>
    exact frugal_now fun _ _ _ _ =>
      frugal_submitApplied (show TransitionKind.compensationUnknownEscalate ∉ _ by decide)

theorem frugal_unknownStartVerification (recovers : ∀ command s, Within uuid5 requests s →
      Frugal uuid5 requests Anything (recover command) s) (seen : Seen last op) :
    Frugal uuid5 requests Anything (Compensation.unknownStartVerification registry recover turns h
      op record latest) last := by
  unfold Compensation.unknownStartVerification
  refine frugal_lift fun retryIds _ => ?_
  refine frugal_now fun s₁ occurredAt _ later₁ => ?_
  refine frugal_now fun s₂ requestedAt _ later₂ => ?_
  refine frugal_now fun s₃ startedAt _ later₃ => ?_
  have later₀₃ := later₁.trans (later₂.trans later₃)
  let step : PairedStep := .verify ⟨commandOn op h.actor h.correlationId occurredAt
    "unknown_verification_supported" retryIds.parentRetryTransitionAuditEventId
    (.compensationUnknownRetry retryIds.parentRetryOutboxEventId), .inl rfl⟩ h retryIds latest
    requestedAt startedAt
  refine frugal_attempt (fun s result s' inv later ran => ?_)
    (fun s result s' _ ran inv' _ => ?_) fun s e _ _ => ?_
  · refine guar_paired step inv (seen.later (later₀₃.trans later)) rfl rfl
      (fun middle row within _ _ rest => ?_) ran
    have rest : apply (.startCompensationVerification (resumeVerificationCommand h retryIds latest
        requestedAt startedAt (movedOperation step.retry.command op) row)) middle =
          .ok (result, s') := rest
    exact guar_apply within rest trivial
  · have ran : step.body s = .ok (result, s') := ran
    refine frugal_settled (fun _ _ => trivial) fun result' same => ?_
    cases same
    obtain ⟨rows, records⟩ := paired_names ran
    cases outcome : result.outcome with
    | rejected => trivial
    | alreadyApplied => exact frugal_recoverAgain recovers
    | applied =>
      refine frugal_require fun startedOp named => ?_
      refine frugal_require fun startedRecord stored => ?_
      exact frugal_enterCycle inv' ⟨rows _ named, records outcome _ stored⟩
  · exact frugal_settled (fun _ _ => trivial) fun result same => by cases same

theorem frugal_recoverUnknownCompensation (recovers : ∀ command s, Within uuid5 requests s →
      Frugal uuid5 requests Anything (recover command) s) (seen : Seen last op) :
    Frugal uuid5 requests Anything (Compensation.recoverUnknown registry recover turns h op record)
      last := by
  unfold Compensation.recoverUnknown
  refine frugal_lift fun descriptor _ => ?_
  refine frugal_load fun s₁ inv₁ later₁ => ?_
  split
  · trivial
  refine frugal_loadPolicy (fun _ _ _ => trivial) (fun s₂ policy _ later₂ named => ?_) inv₁
  have later := later₁.trans later₂
  cases descriptor.verificationMode with
  | none => exact frugal_unknownWithoutVerify recovers (seen.later later) named
  | _ => exact frugal_unknownStartVerification recovers (seen.later later)

theorem frugal_recoverWith (recovers : ∀ command s, Within uuid5 requests s →
      Frugal uuid5 requests Anything (recover command) s)
    (executes : ∀ command s, Within uuid5 requests s →
      Frugal uuid5 requests Anything (execute command) s) {command : RecoverCompensationCommand} :
    Frugal uuid5 requests Anything (recoverWith registry recover execute turns command) last := by
  refine frugal_loadOperation fun s₁ op _ _ found => ?_
  split
  · trivial
  cases op.compensationId with
  | none => trivial
  | some compensationId =>
    refine frugal_load fun s₂ inv₂ later₂ => ?_
    have seen := (seen_of_found found).later later₂
    cases at_ : s₂.compensation? compensationId with
    | none => trivial
    | some record =>
      dsimp only
      split
      · trivial
      split
      · trivial
      split
      · exact frugal_recoverCompensating executes inv₂ seen (seenRecord_of_found at_)
      split
      · exact frugal_recoverUnknownCompensation recovers seen
      · trivial

end Mutual

end Recover

theorem frugal_recoverCompensation (turns : Nat) (command : RecoverCompensationCommand) :
    Frugal uuid5 requests Anything (recoverCompensation registry turns command) last := by
  induction turns generalizing command last with
  | zero => trivial
  | succ turns ih =>
    exact frugal_recoverWith (fun _ _ _ => ih _) fun _ _ _ => frugal_executeWith fun _ _ _ => ih _

theorem frugal_executeCompensation (turns : Nat) (command : ExecuteCompensationCommand) :
    Frugal uuid5 requests Anything (executeCompensation registry turns command) last :=
  frugal_executeWith fun command _ _ => frugal_recoverCompensation turns command

theorem frugal_scanCompensations (turns : Nat) (command : ScanCompensationCommand)
    (inv : Within uuid5 requests last) :
    Frugal uuid5 requests Anything (scanCompensations registry turns command) last := by
  have listed : ∀ operations s, Within uuid5 requests s → Frugal uuid5 requests Anything
      (Compensation.recoverListed registry turns command operations) s := by
    intro operations
    induction operations with
    | nil => exact fun _ _ => trivial
    | cons op rest ih =>
      intro s inv
      refine (frugal_recoverCompensation turns _).andThen budgetContract_sound inv
        fun recovered s' inv' _ _ => ?_
      cases recovered with
      | none => trivial
      | some _ => exact ih s' inv'
  have group : ∀ s state, Frugal uuid5 requests Anything
      (Compensation.scanGroup registry turns command state) s :=
    fun s state => frugal_load fun s inv _ => listed _ s inv
  exact (group last _).andThen budgetContract_sound inv fun _ s _ _ _ => group s _

/-! ## Starting and steering -/

theorem startBody_plain {kind : TransitionKind} {record : Compensation} {ids : CompensationIds}
    {body : CommandBody} (built : startBody kind record ids = .ok body) :
    body.kind ∉ budgetKinds := by
  cases kind <;> cases built <;> simp [CommandBody.kind, budgetKinds, retryKinds]

theorem guar_startUow {sha256Hex : JsonValue → String} {command : StartCompensationCommand}
    {operator : Bool} {reasonCode : String} {createdAt occurredAt : UtcTimestamp}
    {started : Started} (inv : Within uuid5 requests s)
    (ran : startUow registry sha256Hex command operator reasonCode createdAt occurredAt s =
      .ok (started, s')) : (budgetContract uuid5 requests).guar s s' := by
  have read := budgetContract_sound.read inv
  unfold startUow at ran
  dsimp only at ran
  split at ran
  · cases ran
  split at ran
  · cases ran
  split at ran
  · cases ran
    exact read
  split at ran
  · cases ran
    exact read
  split at ran
  · cases ran
    exact read
  split at ran
  · cases ran
    exact read
  unfold startEligible at ran
  dsimp only at ran
  split at ran
  · cases ran
  split at ran
  · cases ran
  next body built =>
  obtain ⟨result, done, -⟩ := map_ok.mp ran
  exact guar_applyOperation inv done (disciplined_of_kind _ rfl (startBody_plain built))

theorem frugal_startCompensation {sha256Hex : JsonValue → String}
    {command : StartCompensationCommand} {operator : Bool} {reasonCode : String} :
    Frugal uuid5 requests Anything
      (startCompensation registry sha256Hex command operator reasonCode) last := by
  refine frugal_now fun s₁ createdAt _ _ => ?_
  refine frugal_now fun s₂ occurredAt _ _ => ?_
  refine frugal_attempt (fun s started s' inv _ ran => guar_startUow inv ran)
    (fun _ _ _ _ _ _ _ => trivial) fun s e _ _ => ?_
  dsimp only
  split <;> trivial

theorem frugal_startOperatorCompensation {lower : String → String} {sha256Hex : JsonValue → String}
    (command : OperatorCompensationCommand) :
    Frugal uuid5 requests Anything (startOperatorCompensation registry lower sha256Hex command)
      last := by
  unfold startOperatorCompensation
  split
  · trivial
  · exact frugal_startCompensation

theorem frugal_retryFailedCompensation {lower : String → String} (turns : Nat)
    (command : OperatorCompensationCommand)
    (asked : command.expectedVersion ∈ requests.compensation command.operationId) :
    Frugal uuid5 requests Anything (retryFailedCompensation registry lower turns command) last := by
  unfold retryFailedCompensation
  split
  · trivial
  refine frugal_loadOperation fun s₁ op inv₁ _ found => ?_
  have key : op.operationId = command.operationId := (find?_some found).2
  split
  · trivial
  next current =>
  have current : (op.version : Int) = command.expectedVersion := not_not.mp current
  split
  · trivial
  cases op.compensationId with
  | none => trivial
  | some compensationId =>
    refine frugal_load fun s₂ _ later₂ => ?_
    cases s₂.compensation? compensationId with
    | none => trivial
    | some record =>
      refine frugal_lift fun descriptor _ => ?_
      refine frugal_load fun s₃ _ later₃ => ?_
      refine frugal_lift fun retryIds _ => ?_
      refine frugal_now fun s₄ startedAt _ later₄ => ?_
      refine frugal_now fun s₅ occurredAt _ later₅ => ?_
      refine frugal_now fun s₆ claimedAt _ later₆ => ?_
      have later := later₂.trans (later₃.trans (later₄.trans (later₅.trans later₆)))
      refine frugal_attempt (fun s result s' inv later' ran => ?_)
        (fun s result s' _ ran inv' _ => ?_) fun s e inv _ => ?_
      · have seen := (seen_of_found found).later (later.trans later')
        refine guar_claim_asked ⟨_, .inr rfl⟩ inv seen ?_ rfl current.symm ran
        rw [key, current]
        exact asked
      · refine frugal_settleRetry (fun _ _ => trivial) ?_
          fun row _ seen => frugal_enterCycle inv' trivial
        rintro _ ⟨⟩ row named
        exact retryAndClaim_seen ⟨_, .inr rfl⟩ ran named
      · refine frugal_settleRetry (fun _ _ => trivial) ?_
          fun _ _ _ => frugal_enterCycle inv trivial
        rintro _ ⟨⟩

theorem escalateBody_plain {ids : CompensationIds} {state : OperationState} {body : CommandBody}
    (built : escalateBody? ids state = some body) : body.kind ∉ budgetKinds := by
  cases state <;> cases built <;> simp [CommandBody.kind, budgetKinds, retryKinds]

theorem frugal_escalateCompensation {lower : String → String}
    (command : OperatorCompensationCommand) :
    Frugal uuid5 requests Anything (escalateCompensation lower command) last := by
  unfold escalateCompensation
  split
  · trivial
  refine frugal_loadOperation fun s₁ op _ _ _ => ?_
  split
  · trivial
  split
  · trivial
  next body built =>
  refine frugal_now fun s₂ occurredAt _ _ => ?_
  refine frugal_trySubmit (fun _ _ _ => disciplined_of_kind _ rfl (escalateBody_plain built))
    (fun _ _ _ _ _ _ => ?_) fun _ _ _ _ => ?_
  all_goals
    refine frugal_settled (fun _ _ => trivial) fun result _ => ?_
    cases result.outcome <;> trivial

end Stateback.Concurrency
