import Stateback.Compensation.Operator
import Stateback.Invariants.Decisions
import Stateback.Invariants.Verdicts
import Stateback.Transitions.Passing
/-!
# Offered actions

`ApplicationService._available_actions` offers an operator the compensation of an operation;
`start_compensation` decides about the request that follows.  They read the same operation, policy
and attempts, but only the second looks at the compensation record.
-/

namespace Stateback.Application

open Domain Persistence Transitions Providers Stateback.Runtime Stateback.Recovery Compensation
open KeyedTable.Table Transaction Process

/-! ## The offer -/

inductive Role where
  | caller
  | reader
  | operator
  | approver
deriving DecidableEq, Repr

/-- What an application service was built with: the services it has, and its registry. -/
structure ApplicationService where
  approvals : Bool
  recovery : Bool
  compensation : Bool
  registry : Option CapabilityRegistry

/-- The actions of the last part of `_available_actions`, once a descriptor was found. -/
def compensationActions (descriptor : EffectDescriptor) (operation : Operation)
    (policyDecisions : List PolicyDecision) (attempts : List ExecutionAttempt) : List String :=
  let steering :=
    (if operation.state = .compensationFailed then ["retry_compensation"] else []) ++
      if operation.state ∈ [OperationState.compensating, .compensationUnknown, .compensationFailed]
      then ["escalate_compensation"] else []
  if operation.state ∈ [OperationState.succeeded, .failed, .manualIntervention] ∧
      policyDecisions ≠ [] then
    match policyDecisions.find? fun candidate =>
        decide (some candidate.policyDecisionId = operation.currentPolicyDecisionId) with
    | none => []
    | some policy =>
      let decision := evaluateStartEligibility operation descriptor policy.obligations
        attempts.getLast? false true
      (if decision.allowed then ["compensate"] else []) ++ steering
  else steering

/-- `_available_actions`. -/
def availableActions (service : ApplicationService) (roles : List Role) (operation : Operation)
    (policyDecisions : List PolicyDecision) (attempts : List ExecutionAttempt) : List String :=
  let decide_ :=
    if service.approvals ∧ Role.approver ∈ roles ∧ operation.state = .awaitingApproval ∧
        operation.currentApprovalId ≠ none then ["approve", "reject"] else []
  match service.registry with
  | none => decide_
  | some registry =>
    match registry.descriptor operation.intent.effect with
    | .error _ => decide_
    | .ok descriptor =>
      decide_ ++
        (if service.recovery ∧ operation.state = .manualIntervention ∧
            descriptor.verificationMode ≠ .none then ["verify"] else []) ++
        if service.compensation then
          compensationActions descriptor operation policyDecisions attempts
        else []

/-- `PolicyDecisionRepository.list_for_operation`: ordered by evaluation time, then id. -/
def listPolicyDecisions (s : Store) (operationId : OpaqueId) : List PolicyDecision :=
  (s.policyDecisions.select fun row => decide (row.operationId = operationId)).insertionSort
    fun a b => a.evaluatedAt.value < b.evaluatedAt.value ∨
      a.evaluatedAt = b.evaluatedAt ∧ a.policyDecisionId.value ≤ b.policyDecisionId.value

/-- The actions `reconstruct` shows for a stored operation. -/
def reconstructedActions (service : ApplicationService) (roles : List Role) (s : Store)
    (operation : Operation) : List String :=
  availableActions service roles operation (listPolicyDecisions s operation.operationId)
    (s.listAttempts operation.operationId)

/-! ## The request -/

/-- A call of `start_compensation` or of `start_operator_compensation`. -/
inductive StartRequest where
  | start (command : StartCompensationCommand) (asOperator : Bool) (reasonCode : String)
  | operator (command : OperatorCompensationCommand)

namespace StartRequest

/-- The command `start_operator_compensation` passes on. -/
def command : StartRequest → StartCompensationCommand
  | start command _ _ => command
  | operator command =>
    { operationId := command.operationId
      expectedVersion := command.expectedVersion
      ids := command.ids
      actor := some command.actor
      correlationId := command.correlationId
      automatic := false }

def isOperator : StartRequest → Bool
  | start _ asOperator _ => asOperator
  | operator _ => true

def reasonCode : StartRequest → String
  | start _ _ reasonCode => reasonCode
  | operator command => command.reasonCode

/-- An operator's reason that reads like a secret is turned away unseen. -/
def invalid (lower : String → String) : StartRequest → Option CompensationResult
  | start .. => none
  | operator command => validateReasonCode lower command

def run (registry : CapabilityRegistry) (lower : String → String)
    (sha256Hex : JsonValue → String) : StartRequest → Service CompensationResult
  | start command asOperator reasonCode =>
    startCompensation registry sha256Hex command asOperator reasonCode
  | operator command => startOperatorCompensation registry lower sha256Hex command

variable (registry : CapabilityRegistry) (lower : String → String) (sha256Hex : JsonValue → String)

theorem run_eq (request : StartRequest) :
    request.run registry lower sha256Hex =
      match request.invalid lower with
      | some invalid => pure invalid
      | none => startCompensation registry sha256Hex request.command request.isOperator
          request.reasonCode := by
  cases request <;> rfl

end StartRequest

/-! ## The unit of work of a start -/

section Start

variable {registry : CapabilityRegistry} {sha256Hex : JsonValue → String}
  {command : StartCompensationCommand} {asOperator : Bool} {reasonCode : String}
  {createdAt occurredAt : UtcTimestamp} {s s' : Store} {op : Operation}

def startKinds : List TransitionKind :=
  [.succeededStartCompensation, .failedStartCompensation, .manualStartCompensation]

/-- An allowed start has a kind that leaves the operation's state, and something to undo. -/
theorem evaluateStartEligibility_allowed {descriptor : EffectDescriptor}
    {obligations : PolicyObligations} {latest : Option ExecutionAttempt} {automatic : Bool}
    (allowed : (evaluateStartEligibility op descriptor obligations latest automatic
      asOperator).allowed = true) :
    descriptor.compensationKind ≠ .none ∧ ∃ kind ∈ startKinds,
      (evaluateStartEligibility op descriptor obligations latest automatic
        asOperator).startKind = some kind ∧ kind.edge.1 = some op.state := by
  unfold evaluateStartEligibility at allowed ⊢
  split at allowed
  · cases allowed
  next undoes =>
  rw [if_neg undoes]
  refine ⟨undoes, ?_⟩
  split at allowed
  · cases allowed
  next first =>
  rw [if_neg first]
  split at allowed
  · cases allowed
  next second =>
  rw [if_neg second]
  split at allowed
  next succeeded =>
    rw [if_pos succeeded, succeeded]
    exact ⟨_, by decide, rfl, rfl⟩
  next other =>
  rw [if_neg other]
  split at allowed
  next failed =>
    rw [if_pos failed, failed]
    split at allowed
    · cases allowed
    next artifact =>
    rw [if_neg artifact]
    split at allowed
    · cases allowed
    next rejected =>
    rw [if_neg rejected]
    exact ⟨_, by decide, rfl, rfl⟩
  next running =>
  rw [if_neg running]
  split at allowed
  next manual =>
    rw [if_pos manual, manual]
    split at allowed
    next steered =>
      rw [if_pos steered]
      exact ⟨_, by decide, rfl, rfl⟩
    · cases allowed
  · cases allowed

/-- The ids a start writes under are in use nowhere, and no other record has the identity derived
from its id. -/
structure FreshStartIds (ids : CompensationIds) (s : Store) : Prop where
  audits : FreshAuditIds s [ids.operatorAuditEventId, ids.compensationRequestedAuditEventId,
    ids.startTransitionAuditEventId]
  outbox : s.outboxEvent? ids.startOutboxEventId = none
  record : s.compensation? ids.compensationId = none
  identity : ∀ row ∈ s.compensations.rows,
    row.idempotencyIdentity ≠ compensationIdempotencyIdentity ids.compensationId

/-- The bodies `_start_command` builds around a record. -/
inductive IsStart (ids : CompensationIds) (record : Compensation) : CommandBody → Prop where
  | succeeded : IsStart ids record
      (.succeededStartCompensation record ids.compensationRequestedAuditEventId
        ids.startOutboxEventId)
  | failed : IsStart ids record
      (.failedStartCompensation record ids.compensationRequestedAuditEventId
        ids.startOutboxEventId)
  | manual : IsStart ids record
      (.manualStartCompensation record ids.operatorAuditEventId
        ids.compensationRequestedAuditEventId ids.startOutboxEventId)

theorem startBody_isStart {kind : TransitionKind} (starts : kind ∈ startKinds)
    (record : Compensation) (ids : CompensationIds) :
    ∃ body, startBody kind record ids = .ok body ∧ body.kind = kind ∧ IsStart ids record body := by
  simp only [startKinds, List.mem_cons, List.not_mem_nil, or_false] at starts
  rcases starts with rfl | rfl | rfl
  · exact ⟨_, rfl, rfl, .succeeded⟩
  · exact ⟨_, rfl, rfl, .failed⟩
  · exact ⟨_, rfl, rfl, .manual⟩

section Applied

variable {ids : CompensationIds} {record : Compensation} {built : OperationCommand}

theorem IsStart.target {body : CommandBody} (start : IsStart ids record body) :
    body.kind.edge.2 = .compensating := by
  cases start <;> rfl

/-- A start carries its record and no other row. -/
theorem IsStart.bare {body : CommandBody} (start : IsStart ids record body) :
    body.policyDecision? = none ∧ body.requestedApproval? = none ∧
      body.decidedApproval? = none ∧ body.claimedAttempt? = none ∧
      body.completedAttempt? = none ∧ body.verificationRequest? = none ∧
      body.verificationResult? = none ∧ body.reconciliation? = none ∧
      body.completedCompensationAttempt? = none ∧
      body.compensationVerificationResult? = none ∧
      compensationTargetState? body.kind = none ∧ body.startedCompensation? = some record := by
  cases start <;> exact ⟨rfl, rfl, rfl, rfl, rfl, rfl, rfl, rfl, rfl, rfl, rfl, rfl⟩

/-- The journal takes the rows of a start whose ids are fresh. -/
theorem IsStart.related (start : IsStart ids record built.body)
    (named : record.compensationId = ids.compensationId)
    (identity : record.idempotencyIdentity = compensationIdempotencyIdentity ids.compensationId)
    (fresh : FreshStartIds ids s) : RelatedAcceptable built (loadRelated s built op) s := by
  obtain ⟨h₁, h₂, h₃, h₄, h₅, h₆, h₇, h₈, h₉, h₁₀, h₁₁, h₁₂⟩ := start.bare
  refine ⟨?_, ?_, ?_, ?_, ?_, ?_, ?_, ?_, ?_, ?_, ?_, ?_⟩
  · simp [h₁]
  · simp [h₂]
  · simp [h₃]
  · simp [h₄]
  · simp [attemptToComplete, h₅]
  · simp [h₆]
  · simp [resultToComplete, h₇]
  · simp [h₈]
  · rintro other carried
    rw [h₁₂, Option.some.injEq] at carried
    rw [← carried, named, identity]
    exact ⟨fresh.record, fresh.identity⟩
  · simp [compensationAttemptToComplete, h₉]
  · simp [compensationResultToComplete, h₁₀]
  · simp [OperationCommand.kind, h₁₁]

theorem IsStart.acceptable (start : IsStart ids record built.body)
    (named : built.transitionAuditEventId = ids.startTransitionAuditEventId)
    (clock : op.createdAt.value ≤ built.occurredAt.value) (fresh : FreshStartIds ids s) :
    Acceptable built op (loadRelated s built op) s := by
  obtain ⟨distinct, unused⟩ := fresh.audits
  obtain ⟨operationId, expectedVersion, occurredAt, actor, correlationId, reasonCode, transitionId,
    body⟩ := built
  obtain rfl : transitionId = ids.startTransitionAuditEventId := named
  refine ⟨clock, ⟨?_, ?_⟩, ?_⟩
  · cases start <;> simp_all [auditIds, detailEntries]
  · cases start <;> simp_all [auditIds, detailEntries]
  · intro row carried
    have under : row.eventId = ids.startOutboxEventId := by
      unfold outboxRow? at carried
      cases start <;> cases carried <;> rfl
    rw [under]
    exact fresh.outbox

/-- A start is applied exactly when its clock is not behind the operation. -/
theorem IsStart.applied_iff (start : IsStart ids record built.body)
    (found : s.operation? op.operationId = some op)
    (about : built.operationId = op.operationId ∧ built.expectedVersion = op.version ∧
      built.transitionAuditEventId = ids.startTransitionAuditEventId ∧ built.actor ≠ none)
    (source : built.kind.edge.1 = some op.state)
    (parent : record.originalOperationId = op.operationId ∧ record.state = .pending ∧
      record.kind ≠ .none ∧ record.compensationId = ids.compensationId ∧
      record.idempotencyIdentity = compensationIdempotencyIdentity ids.compensationId)
    (fresh : FreshStartIds ids s) :
    (∃ result s', applyOperation built s = .ok (result, s') ∧ result.outcome = .applied) ↔
      op.createdAt.value ≤ built.occurredAt.value := by
  obtain ⟨named, version, transition, actor⟩ := about
  obtain ⟨original, pending, undoes, key, identity⟩ := parent
  have at_ : s.operation? built.operationId = some op := named ▸ found
  constructor
  · rintro ⟨result, s', ran, applied⟩
    exact (moved_of_applied at_ ran applied).clock
  · intro clock
    have body : evaluateBody built op (loadRelated s built op) = none := by
      have checked : checkCompensationStart record op = none := by
        simp [checkCompensationStart, original, pending, undoes]
        decide
      obtain ⟨operationId, expectedVersion, occurredAt, actor, correlationId, reasonCode,
        transitionId, body⟩ := built
      cases start <;> exact checked
    exact applyOperation_applies at_ version.symm source
      (evaluatePreconditions_passes (fun _ => actor) body)
      (start.acceptable transition clock fresh) (start.related key identity fresh)

end Applied

/-- An operation with a record is answered as if its start had been replayed. -/
theorem startUow_recorded (registry : CapabilityRegistry) (sha256Hex : JsonValue → String)
    (asOperator : Bool) (reasonCode : String) (createdAt occurredAt : UtcTimestamp)
    {compensationId : OpaqueId}
    (found : s.operation? command.operationId = some op)
    (version : (op.version : Int) = command.expectedVersion)
    (recorded : op.compensationId = some compensationId) :
    startUow registry sha256Hex command asOperator reasonCode createdAt occurredAt s =
      .ok (.inl (makeCompensationResult .accepted "already_applied" (some op)
        (s.compensation? compensationId)), s) := by
  simp [startUow, found, version, recorded]

theorem startUow_accepted {started : Started}
    (ran : startUow registry sha256Hex command asOperator reasonCode createdAt occurredAt s =
      .ok (started, s')) (accepted : (fromStarted started).disposition = .accepted) :
    (∃ op, s.operation? command.operationId = some op ∧
        (op.version : Int) = command.expectedVersion ∧ op.compensationId ≠ none ∧ s' = s) ∨
      ∃ moved, s'.operation? command.operationId = some moved ∧ moved.state = .compensating := by
  unfold startUow at ran
  dsimp only at ran
  split at ran
  · cases ran
  next op found =>
  split at ran
  · cases ran
  next current =>
  split at ran
  next compensationId recorded =>
    cases ran
    exact .inl ⟨op, found, not_not.mp current, by simp [recorded], rfl⟩
  split at ran
  · cases ran
    cases accepted
  next descriptor registered =>
  split at ran
  · cases ran
    cases accepted
  next policy named =>
  split at ran
  · cases ran
    cases accepted
  next allowed =>
  obtain ⟨-, kind, starts, chosen, source⟩ :=
    evaluateStartEligibility_allowed (by simpa using allowed)
  obtain ⟨body, built, -, start⟩ := startBody_isStart starts (buildCompensationRecord sha256Hex op
    descriptor command.ids (command.actor.getD compensationActor) createdAt
    op.currentPolicyDecisionId) command.ids
  simp only [startEligible, chosen, built] at ran
  obtain ⟨result, done, rfl⟩ := map_ok.mp ran
  have key : op.operationId = command.operationId := (find?_some found).2
  obtain ⟨loaded, made, -⟩ | ⟨loaded, -, at_, ahead, -⟩ | ⟨loaded, -, -, refused, -⟩ :=
    applyOperation_cases done
  · have own : s.operation? command.operationId = some loaded := key ▸ made.found
    have moved := operation?_replace_stepped own made.operations command.operationId
    rw [if_pos rfl] at moved
    exact .inr ⟨_, moved, start.target⟩
  · have same : s.operation? op.operationId = some loaded := at_
    rw [key, found, Option.some.injEq] at same
    subst same
    simp only [commandOn] at ahead
    omega
  · simp [fromStarted, refused, fromTransition] at accepted

/-- A start that may be made of an operation without a record is made exactly when its clock is
not behind the operation. -/
theorem startUow_changes {descriptor : EffectDescriptor} {policy : PolicyDecision}
    (found : s.operation? command.operationId = some op)
    (version : (op.version : Int) = command.expectedVersion) (free : op.compensationId = none)
    (registered : registry.descriptor op.intent.effect = .ok descriptor)
    (decided : op.currentPolicyDecisionId.bind s.policyDecision? = some policy)
    (allowed : (evaluateStartEligibility op descriptor policy.obligations
      (s.listAttempts op.operationId).getLast? command.automatic asOperator).allowed = true)
    (fresh : FreshStartIds command.ids s) :
    (execute (startUow registry sha256Hex command asOperator reasonCode createdAt occurredAt)
        s).1 ≠ s ↔ op.createdAt.value ≤ occurredAt.value := by
  obtain ⟨undoes, kind, starts, chosen, source⟩ := evaluateStartEligibility_allowed allowed
  obtain ⟨body, built, same, start⟩ := startBody_isStart starts (buildCompensationRecord sha256Hex
    op descriptor command.ids (command.actor.getD compensationActor) createdAt
    op.currentPolicyDecisionId) command.ids
  have key : op.operationId = command.operationId := (find?_some found).2
  let command' := commandOn op (command.actor.getD compensationActor) command.correlationId
    occurredAt reasonCode command.ids.startTransitionAuditEventId body
  have whole : startUow registry sha256Hex command asOperator reasonCode createdAt occurredAt s =
      (Sum.inr <$> applyOperation command') s := by
    simp [startUow, found, version, free, registered, decided, allowed, startEligible, chosen,
      built, command']
  have applied := IsStart.applied_iff (show IsStart _ _ command'.body from start)
    (key.symm ▸ found)
    ⟨rfl, rfl, rfl, by simp [command', commandOn]⟩ (show body.kind.edge.1 = _ by rw [same, source])
    ⟨rfl, rfl, undoes, rfl, rfl⟩ fresh
  have at_ : s.operation? op.operationId = some op := key.symm ▸ found
  refine Iff.trans ?_ applied
  constructor
  · intro changed
    cases ran : applyOperation command' s with
    | error e =>
      have raised : startUow registry sha256Hex command asOperator reasonCode createdAt occurredAt
          s = .error e := by rw [whole, map_error.mpr ran]
      rw [execute_error.mpr ⟨rfl, raised⟩] at changed
      exact absurd rfl changed
    | ok ended =>
      obtain ⟨result, s'⟩ := ended
      rw [execute_ok.mpr (whole.trans (map_ok.mpr ⟨result, ran, rfl⟩))] at changed
      obtain ⟨-, -, applied, -⟩ | ⟨-, stays, -⟩ | ⟨-, stays, -⟩ := applyOperation_cases ran
      · exact ⟨result, s', rfl, applied⟩
      · exact absurd stays changed
      · exact absurd stays changed
  · rintro ⟨result, s', ran, applied⟩ stays
    rw [execute_ok.mpr (whole.trans (map_ok.mpr ⟨result, ran, rfl⟩))] at stays
    have made := moved_of_applied at_ ran applied
    have moved := operation?_replace_stepped at_ made.operations op.operationId
    rw [if_pos rfl, show s' = s from stays, at_, Option.some.injEq] at moved
    have grown : op.version = nextVersion op.version := congrArg Operation.version moved
    simp [nextVersion] at grown

/-- Running alone, the call leaves the store of its unit of work, and answers what that
answered. -/
theorem alone_startCompensation (registry : CapabilityRegistry) (sha256Hex : JsonValue → String)
    (command : StartCompensationCommand) (asOperator : Bool) (reasonCode : String)
    (answers : Nat → (query : Query) → Answer query) (n : Nat) (s : Store) :
    let call := Prog.alone answers
      (startCompensation registry sha256Hex command asOperator reasonCode) n s
    let body := startUow registry sha256Hex command asOperator reasonCode (answers n Query.now)
      (answers (n + 1) Query.now)
    call.state = (execute body s).1 ∧
      (∀ ended, body s = .ok ended → call.outcome = .ok (fromStarted ended.1)) ∧
      ∀ result, call.outcome = .ok result → result.disposition = .accepted →
        ∃ ended, body s = .ok ended ∧ fromStarted ended.1 = result := by
  intro call body
  have steps : call = Prog.alone answers
      (startCompensation registry sha256Hex command asOperator reasonCode) n s := rfl
  simp only [startCompensation, Service.now_bind, Prog.alone_ask, Prog.attempt_bind] at steps
  change call = Prog.alone answers (Prog.transact _ body _) _ s at steps
  clear_value body
  cases done : body s with
  | ok ended =>
    rw [Prog.alone_transact_ok done] at steps
    rw [steps, execute_ok.mpr done]
    refine ⟨rfl, fun other same => ?_, fun result answered _ => ⟨ended, rfl, ?_⟩⟩
    · rw [← Except.ok.inj same]
      rfl
    · exact Except.ok.inj answered
  | error e =>
    rw [Prog.alone_transact_error done] at steps
    rw [steps, execute_error.mpr ⟨rfl, done⟩]
    refine ⟨?_, fun other same => (by cases same), fun result answered accepted => ?_⟩
    · dsimp only
      split <;> rfl
    · dsimp only at answered
      split at answered
      · cases answered
        cases accepted
      · cases answered

end Start

/-! ## Accepted and offered -/

/-- COMPENSATING, and where a compensation goes from there by itself. -/
def underWayStates : List OperationState :=
  [.compensating, .compensationUnknown, .compensated, .compensationFailed]

/-- An operator request for an offered compensation, while nothing has changed since. -/
structure TakesOffer (service : ApplicationService) (roles : List Role)
    (registry : CapabilityRegistry) (command : OperatorCompensationCommand) (s : Store) :
    Prop where
  registry : service.registry = some registry
  offered : ∃ op, s.operation? command.operationId = some op ∧
    (op.version : Int) = command.expectedVersion ∧
    "compensate" ∈ reconstructedActions service roles s op
  fresh : FreshStartIds command.ids s

section Calls

variable (registry : CapabilityRegistry) (lower : String → String)
  (sha256Hex : JsonValue → String) (request : StartRequest)
  (answers : Nat → (query : Query) → Answer query) (n : Nat) (s : Store)

/-- What the call owes: an ACCEPTED reply means that a compensation is under way, and a taken
offer changes the store. -/
structure StartsAsAnswered : Prop where
  accepted : ∀ result,
    (Prog.alone answers (request.run registry lower sha256Hex) n s).outcome = .ok result →
    result.disposition = .accepted → ∃ op,
      (Prog.alone answers (request.run registry lower sha256Hex) n s).state.operation?
        request.command.operationId = some op ∧ op.state ∈ underWayStates
  offered : ∀ service roles command, request = .operator command →
    TakesOffer service roles registry command s →
      (Prog.alone answers (request.run registry lower sha256Hex) n s).state ≠ s

/-- A current request finds no record left from an earlier compensation; and a taken offer has a
reason that is no secret and a clock that is not behind the operation. -/
structure NoRecordLeft : Prop where
  unrecorded : request.invalid lower = none → ∀ op,
    s.operation? request.command.operationId = some op →
    (op.version : Int) = request.command.expectedVersion →
      op.compensationId = none ∨ op.state ∈ underWayStates
  taken : ∀ service roles command, request = .operator command →
    TakesOffer service roles registry command s → request.invalid lower = none ∧ ∀ op,
      s.operation? command.operationId = some op →
        op.createdAt.value ≤ (answers (n + 1) Query.now).value

end Calls

theorem compensationActions_offers {descriptor : EffectDescriptor} {op : Operation}
    {policyDecisions : List PolicyDecision} {attempts : List ExecutionAttempt}
    (offered : "compensate" ∈ compensationActions descriptor op policyDecisions attempts) :
    op.state ∈ [OperationState.succeeded, .failed, .manualIntervention] ∧ ∃ policy,
      (policyDecisions.find? fun candidate =>
        decide (some candidate.policyDecisionId = op.currentPolicyDecisionId)) = some policy ∧
      (evaluateStartEligibility op descriptor policy.obligations attempts.getLast? false
        true).allowed = true := by
  unfold compensationActions at offered
  dsimp only at offered
  split at offered
  next ended =>
    split at offered
    · simp at offered
    next policy found =>
      refine ⟨ended.1, policy, found, ?_⟩
      by_contra refused
      rw [if_neg refused, List.nil_append] at offered
      simp only [List.mem_append] at offered
      rcases offered with offered | offered <;> split at offered <;> simp at offered
  next =>
    simp only [List.mem_append] at offered
    rcases offered with offered | offered <;> split at offered <;> simp at offered

/-- An offer rests on what the start will read. -/
theorem reconstructedActions_offers {service : ApplicationService} {roles : List Role}
    {registry : CapabilityRegistry} {s : Store} {op : Operation}
    (built : service.registry = some registry)
    (offered : "compensate" ∈ reconstructedActions service roles s op) :
    op.state ∈ [OperationState.succeeded, .failed, .manualIntervention] ∧
      ∃ descriptor policy, registry.descriptor op.intent.effect = .ok descriptor ∧
        op.currentPolicyDecisionId.bind s.policyDecision? = some policy ∧
        (evaluateStartEligibility op descriptor policy.obligations
          (s.listAttempts op.operationId).getLast? false true).allowed = true := by
  unfold reconstructedActions availableActions at offered
  simp only [built] at offered
  cases registered : registry.descriptor op.intent.effect with
  | error e =>
    simp only [registered] at offered
    split at offered <;> simp at offered
  | ok descriptor =>
    simp only [registered, List.mem_append] at offered
    rcases offered with (offered | offered) | offered
    · split at offered <;> simp at offered
    · split at offered <;> simp at offered
    · split at offered
      · obtain ⟨ended, policy, found, allowed⟩ := compensationActions_offers offered
        refine ⟨ended, descriptor, policy, rfl, ?_, allowed⟩
        have member := List.mem_of_find?_eq_some found
        simp only [listPolicyDecisions, List.mem_insertionSort, select, List.mem_filter] at member
        have named := List.find?_some found
        simp only [decide_eq_true_eq] at named
        rw [← named, Option.bind_some]
        exact find?_of_mem member.1
      · simp at offered

theorem StartRequest.invalid_rejects {request : StartRequest} {invalid : CompensationResult}
    (objects : request.invalid lower = some invalid) : invalid.disposition = .rejected := by
  cases request with
  | start => cases objects
  | operator command =>
    simp only [StartRequest.invalid, validateReasonCode] at objects
    split at objects
    · cases objects
      rfl
    · cases objects

section Calls

variable (registry : CapabilityRegistry) (lower : String → String)
  (sha256Hex : JsonValue → String) (request : StartRequest)
  (answers : Nat → (query : Query) → Answer query) (n : Nat) (s : Store)

/-- A current request for an operation with a record changes nothing and is ACCEPTED. -/
theorem alone_recorded {op : Operation} {compensationId : OpaqueId}
    (valid : request.invalid lower = none)
    (found : s.operation? request.command.operationId = some op)
    (version : (op.version : Int) = request.command.expectedVersion)
    (recorded : op.compensationId = some compensationId) :
    (Prog.alone answers (request.run registry lower sha256Hex) n s).state = s ∧
      (Prog.alone answers (request.run registry lower sha256Hex) n s).outcome =
        .ok (makeCompensationResult .accepted "already_applied" (some op)
          (s.compensation? compensationId)) := by
  have started : request.run registry lower sha256Hex = startCompensation registry sha256Hex
      request.command request.isOperator request.reasonCode := by
    rw [StartRequest.run_eq, valid]
  obtain ⟨left, replies, -⟩ := alone_startCompensation registry sha256Hex request.command
    request.isOperator request.reasonCode answers n s
  have replayed := startUow_recorded registry sha256Hex request.isOperator request.reasonCode
    (answers n Query.now) (answers (n + 1) Query.now) found version recorded
  rw [started, left, replies _ replayed, execute_ok.mpr replayed]
  exact ⟨rfl, rfl⟩

/-- A request whose reason is refused starts nothing. -/
theorem startsAsAnswered_of_invalid {invalid : CompensationResult}
    (objects : request.invalid lower = some invalid) :
    StartsAsAnswered registry lower sha256Hex request answers n s ↔
      NoRecordLeft registry lower request answers n s := by
  have turned : request.run registry lower sha256Hex = pure invalid := by
    rw [StartRequest.run_eq, objects]
  constructor
  · intro answered
    constructor
    · intro valid
      simp [objects] at valid
    · intro service roles command same taken
      refine absurd ?_ (answered.offered service roles command same taken)
      rw [turned]
      rfl
  · intro left
    constructor
    · intro result ended accepted
      rw [turned] at ended
      cases ended
      rw [StartRequest.invalid_rejects objects] at accepted
      cases accepted
    · intro service roles command same taken
      have valid := (left.taken service roles command same taken).1
      rw [objects] at valid
      cases valid

/-- An offered compensation has no record, unless one is under way. -/
theorem TakesOffer.free {service : ApplicationService} {roles : List Role}
    {registry : CapabilityRegistry} {command : OperatorCompensationCommand} {op : Operation}
    (taken : TakesOffer service roles registry command s)
    (found : s.operation? command.operationId = some op)
    (unrecorded : (op.version : Int) = command.expectedVersion →
      op.compensationId = none ∨ op.state ∈ underWayStates) : op.compensationId = none := by
  obtain ⟨op', found', version, offered⟩ := taken.offered
  obtain rfl : op' = op := Option.some.inj (found'.symm.trans found)
  have resting := (reconstructedActions_offers taken.registry offered).1
  refine (unrecorded version).resolve_right fun inside => ?_
  revert resting inside
  cases op'.state <;> decide

/-- A taken offer without a record starts a compensation, unless the clock is behind. -/
theorem TakesOffer.starts {service : ApplicationService} {roles : List Role}
    {command : OperatorCompensationCommand} {op : Operation}
    (taken : TakesOffer service roles registry command s)
    (objects : (StartRequest.operator command).invalid lower = none)
    (found : s.operation? command.operationId = some op) (free : op.compensationId = none) :
    (Prog.alone answers ((StartRequest.operator command).run registry lower sha256Hex) n s).state ≠
        s ↔ op.createdAt.value ≤ (answers (n + 1) Query.now).value := by
  obtain ⟨op', found', version, offered⟩ := taken.offered
  obtain rfl : op' = op := Option.some.inj (found'.symm.trans found)
  obtain ⟨-, descriptor, policy, registered, decided, allowed⟩ :=
    reconstructedActions_offers taken.registry offered
  rw [StartRequest.run_eq, objects]
  dsimp only
  rw [(alone_startCompensation registry sha256Hex _ _ _ answers n s).1]
  exact startUow_changes found version free registered decided allowed taken.fresh

/-- An ACCEPTED start finds its compensation under way and a taken offer changes the store,
exactly when no record is left from an earlier compensation and the taken offer is timely. -/
theorem startsAsAnswered_iff :
    StartsAsAnswered registry lower sha256Hex request answers n s ↔
      NoRecordLeft registry lower request answers n s := by
  cases objects : request.invalid lower with
  | some invalid =>
    exact startsAsAnswered_of_invalid registry lower sha256Hex request answers n s objects
  | none =>
    have started : request.run registry lower sha256Hex = startCompensation registry sha256Hex
        request.command request.isOperator request.reasonCode := by
      rw [StartRequest.run_eq, objects]
    obtain ⟨left, -, replied⟩ := alone_startCompensation registry sha256Hex request.command
      request.isOperator request.reasonCode answers n s
    rw [← started] at left replied
    constructor
    · intro answered
      have unrecorded : ∀ op, s.operation? request.command.operationId = some op →
          (op.version : Int) = request.command.expectedVersion →
            op.compensationId = none ∨ op.state ∈ underWayStates := by
        intro op found version
        by_contra recorded
        obtain ⟨kept, resting⟩ := not_or.mp recorded
        obtain ⟨compensationId, named⟩ := Option.ne_none_iff_exists'.mp kept
        obtain ⟨stays, replayed⟩ := alone_recorded registry lower sha256Hex request answers n s
          objects found version named
        obtain ⟨other, there, inside⟩ := answered.accepted _ replayed rfl
        rw [stays, found, Option.some.injEq] at there
        exact resting (there ▸ inside)
      refine ⟨fun _ => unrecorded, fun service roles command same taken => ⟨objects, ?_⟩⟩
      intro op found
      subst same
      have free := taken.free _ found (unrecorded op found)
      exact (taken.starts registry lower sha256Hex answers n s objects found free).mp
        (answered.offered service roles command rfl taken)
    · intro noRecord
      refine ⟨fun result ended accepted => ?_, fun service roles command same taken => ?_⟩
      · obtain ⟨ended, ran, rfl⟩ := replied result ended accepted
        rw [left, execute_ok.mpr ran]
        obtain ⟨op, found, version, recorded, stays⟩ | ⟨moved, found, compensating⟩ :=
          startUow_accepted ran accepted
        · have there := (noRecord.unrecorded objects op found version).resolve_left recorded
          exact ⟨op, stays ▸ found, there⟩
        · exact ⟨moved, found, by simp [compensating, underWayStates]⟩
      · subst same
        obtain ⟨op, found, -, -⟩ := taken.offered
        have free := taken.free _ found (noRecord.unrecorded objects op found)
        exact (taken.starts registry lower sha256Hex answers n s objects found free).mpr
          ((noRecord.taken service roles command rfl taken).2 op found)

end Calls

/-! ## A record left behind -/

open Invariants

/-- The sample effect, with something to undo it by. -/
def undoableRegistry : CapabilityRegistry :=
  ⟨fun _ => some
    ⟨fun _ =>
      { sampleDescriptor with
        compensationKind := .exact
        readOnlyCompensation := by decide },
      fun _ => .ok []⟩⟩

/-- The operator of an operation whose compensation was escalated asks for it again. -/
def sampleOperatorCommand : OperatorCompensationCommand where
  operationId := idOf "op"
  expectedVersion := 8
  ids :=
    { sampleIds "again" "again-requested" "again-verification" with
      operatorAuditEventId := idOf "again-operator" }
  actor := compensationActor
  correlationId := none
  reasonCode := "operator_request"

def fullService : ApplicationService := ⟨true, true, true, some undoableRegistry⟩

def escalatedOperation : Operation :=
  { compensatingOperation 8 8 with
    state := .manualIntervention
    latestVerificationId := some (idOf "verification-1") }

/-- The offer is taken and the store stays as it was; the plain request is ACCEPTED, and the
operation stays in MANUAL_INTERVENTION. -/
theorem escalated_start_accepted :
    Reachable idOf escalatedJournal ∧
      escalatedJournal.operation? (idOf "op") = some escalatedOperation ∧
      TakesOffer fullService [.operator] undoableRegistry sampleOperatorCommand escalatedJournal ∧
      ¬StartsAsAnswered undoableRegistry asciiLower compensationSha256
        (.operator sampleOperatorCommand) sampleAnswers 0 escalatedJournal ∧
      ¬StartsAsAnswered undoableRegistry asciiLower compensationSha256
        (.start (StartRequest.operator sampleOperatorCommand).command false
          "compensation_requested") sampleAnswers 0 escalatedJournal := by
  have found : escalatedJournal.operation? (idOf "op") = some escalatedOperation := by
    decide +kernel
  have taken : TakesOffer fullService [.operator] undoableRegistry sampleOperatorCommand
      escalatedJournal :=
    ⟨rfl, ⟨escalatedOperation, found, rfl, by decide +kernel⟩, by decide +kernel,
      by decide +kernel, by decide +kernel, by decide +kernel⟩
  refine ⟨⟨undoingActions ++ [escalation], run_concat ..⟩, found, taken, fun answered => ?_,
    fun answered => ?_⟩
  · have valid : (StartRequest.operator sampleOperatorCommand).invalid asciiLower = none := by
      decide +kernel
    have stays := (alone_recorded undoableRegistry asciiLower compensationSha256
      (.operator sampleOperatorCommand) sampleAnswers 0 escalatedJournal valid found rfl rfl).1
    exact answered.offered fullService [.operator] sampleOperatorCommand rfl taken stays
  · obtain ⟨stays, replayed⟩ := alone_recorded undoableRegistry asciiLower compensationSha256
      (.start (StartRequest.operator sampleOperatorCommand).command false
        "compensation_requested") sampleAnswers 0 escalatedJournal rfl found rfl rfl
    obtain ⟨other, there, inside⟩ := answered.accepted _ replayed rfl
    rw [stays] at there
    obtain rfl : escalatedOperation = other := Option.some.inj (found.symm.trans there)
    revert inside
    decide

end Stateback.Application
