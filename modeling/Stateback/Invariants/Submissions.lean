import Stateback.Invariants.Authorization
import Stateback.Runtime.Resubmit
/-!
# What submissions leave in the journal

Operations are created and policy decisions stored by submissions alone, and approvals are granted
by whoever may.  Then every stored operation is one that some submission asked for, and every stored
decision is what the policy engine said of its own operation, in the environment of a submission of
that operation.
-/

namespace Stateback.Invariants

open Domain Persistence Transitions Providers Policy Stateback.Runtime KeyedTable KeyedTable.Table

variable {uuid5 : String → OpaqueId} {asked : SubmitCommand → Prop} {runtime : SynchronousRuntime}
  {granted : Domain.Approval → Prop} {s s' : Store} {action : JournalAction}
  {operation after : Operation} {decision : PolicyDecision}

/-! ## Operations and decisions -/

/-- The operation is one the submission gets as far as creating. -/
structure SubmittedAs (runtime : SynchronousRuntime) (command : SubmitCommand)
    (operation : Operation) : Prop where
  id : operation.operationId = command.ids.operationId
  identity : operation.idempotencyIdentity = operationIdempotencyIdentity operation.operationId
  creates : ∃ requestedAt descriptor,
    Creates runtime command requestedAt descriptor operation.intent ∧
      operation.riskLevel = descriptor.riskLevel

/-- The decision is what the engine said of the operation, as the submission stores it. -/
structure EvaluatedFor (runtime : SynchronousRuntime) (command : SubmitCommand)
    (operation : Operation) (decision : PolicyDecision) : Prop where
  id : operation.operationId = command.ids.operationId
  answered : ∃ descriptor evaluation,
    runtime.registry.descriptor operation.intent.effect = .ok descriptor ∧
      runtime.policyEngine
          (policyInputs { operation with version := decision.operationVersion } descriptor
            command.deploymentEnvironment) = .ok evaluation ∧
      decision = policyDecisionOf command.ids
        { operation with version := decision.operationVersion } evaluation decision.evaluatedAt

theorem SubmittedAs.later {command : SubmitCommand}
    (submitted : SubmittedAs runtime command operation)
    (id : after.operationId = operation.operationId)
    (identity : after.idempotencyIdentity = operation.idempotencyIdentity)
    (intent : after.intent = operation.intent)
    (risk : after.riskLevel = operation.riskLevel) : SubmittedAs runtime command after := by
  refine ⟨id.trans submitted.id, ?_, ?_⟩
  · rw [identity, id, submitted.identity]
  · rw [intent, risk]
    exact submitted.creates

theorem EvaluatedFor.later {command : SubmitCommand}
    (evaluated : EvaluatedFor runtime command operation decision)
    (id : after.operationId = operation.operationId) (intent : after.intent = operation.intent) :
    EvaluatedFor runtime command after decision := by
  obtain ⟨descriptor, evaluation, described, answered, made⟩ := evaluated.answered
  refine ⟨id.trans evaluated.id, descriptor, evaluation, ?_, ?_, ?_⟩
  · rw [intent, described]
  · rw [← answered]
    unfold policyInputs
    rw [id, intent]
  · rw [made]
    unfold policyDecisionOf
    rw [id, intent]

/-- What is stored comes from the submissions that were asked for, and was granted. -/
structure Submissions (asked : SubmitCommand → Prop) (runtime : SynchronousRuntime)
    (granted : Domain.Approval → Prop) (s : Store) : Prop where
  operations : ∀ operationId operation, s.operation? operationId = some operation →
    ∃ command, asked command ∧ SubmittedAs runtime command operation
  decisions : ∀ decision ∈ s.policyDecisions.rows, ∃ operation command,
    s.operation? decision.operationId = some operation ∧ asked command ∧
      EvaluatedFor runtime command operation decision
  approvals : ∀ approval ∈ s.approvals.rows, approval.state = .approved → granted approval

theorem Submissions.empty : Submissions asked runtime granted .empty where
  operations _ _ found := by cases found
  decisions _ member := by cases member
  approvals _ member := by cases member

/-! ## Steps -/

/-- A creation and a decision come from a submission, and what approves is granted; anything else
is free. -/
def Sanctioned (asked : SubmitCommand → Prop) (runtime : SynchronousRuntime)
    (granted : Domain.Approval → Prop) (s : Store) : JournalAction → Prop
  | .transition (.create command) =>
    ∃ submit, asked submit ∧ SubmittedAs runtime submit command.operation
  | .transition (.operation command) =>
    (∀ decision, command.body.policyDecision? = some decision →
      ∀ loaded, s.operation? command.operationId = some loaded →
        (loaded.version : Int) = command.expectedVersion →
          ∃ submit, asked submit ∧ EvaluatedFor runtime submit loaded decision) ∧
    ∀ approval, command.body.decidedApproval? = some approval → approval.state = .approved →
      granted approval
  | _ => True

theorem requestedApproval_pending {command : OperationCommand} {loaded : Operation}
    (made : OperationMoved command loaded s s') {approval : Domain.Approval}
    (carried : command.body.requestedApproval? = some approval) : approval.state = .pending := by
  have allowed := evaluateBody_none made.allowed
  unfold evaluateBody at allowed
  cases body : command.body with
  | policyRequireApproval decision requested =>
    rw [body] at carried
    cases carried
    simp only [body] at allowed
    exact not_not.mp (guard_eq_none.mp (orElse_eq_none.mp allowed).2).1
  | _ => rw [body] at carried; cases carried

/-- A decision is stored by the transition that carries it. -/
theorem policyDecision_origin (taken : JournalStep action s s')
    (member : decision ∈ s'.policyDecisions.rows) : decision ∈ s.policyDecisions.rows ∨
      ∃ command loaded, action = .transition (.operation command) ∧
        OperationMoved command loaded s s' ∧ command.body.policyDecision? = some decision := by
  have unchanged : s'.policyDecisions = s.policyDecisions → decision ∈ s.policyDecisions.rows :=
    fun same => same ▸ member
  cases taken with
  | unchanged same => exact .inl (unchanged (by rw [same]))
  | created _ _ made => exact .inl (unchanged (by rw [made.frame]))
  | moved command loaded asked made =>
    rcases made.related.policyDecisions.mem.mp member with old | new
    · exact .inl old
    · exact .inr ⟨command, loaded, asked, made, new⟩
  | progressed _ _ _ _ made => exact .inl (unchanged (by rw [made.written.frame]))
  | escalated _ _ made => exact .inl (unchanged (by rw [made.frame]))
  | republished _ _ _ _ made => exact .inl (unchanged (by rw [made.frame]))
  | published _ same => exact .inl (unchanged (by rw [same]))
  | evidencePersisted _ _ _ same => exact .inl (unchanged (by rw [same]))
  | resultPersisted _ _ same => exact .inl (unchanged (by rw [same]))

/-- An approval is approved by the transition that decides it. -/
theorem approved_origin {approval : Domain.Approval} (taken : JournalStep action s s')
    (member : approval ∈ s'.approvals.rows) (approved : approval.state = .approved) :
    approval ∈ s.approvals.rows ∨
      ∃ command, action = .transition (.operation command) ∧
        command.body.decidedApproval? = some approval := by
  have unchanged : s'.approvals = s.approvals → approval ∈ s.approvals.rows :=
    fun same => same ▸ member
  cases taken with
  | unchanged same => exact .inl (unchanged (by rw [same]))
  | created _ _ made => exact .inl (unchanged (by rw [made.frame]))
  | moved command loaded asked made =>
    obtain ⟨mid, requested, decided⟩ := made.related.approvals
    have before : approval ∈ mid.rows → approval ∈ s.approvals.rows := by
      intro inside
      rcases requested.mem.mp inside with old | new
      · exact old
      · have pending := requestedApproval_pending made new
        rw [approved] at pending
        cases pending
    cases carried : command.body.decidedApproval? with
    | none =>
      rw [carried] at decided
      exact .inl (before ((show s'.approvals = mid from decided) ▸ member))
    | some closed =>
      rw [carried] at decided
      obtain ⟨row, -, -, replaced⟩ := decided
      rw [replaced] at member
      rcases mem_replace.mp member with ⟨old, -⟩ | ⟨rfl, -⟩
      · exact .inl (before old)
      · exact .inr ⟨command, asked, carried⟩
  | progressed _ _ _ _ made => exact .inl (unchanged (by rw [made.written.frame]))
  | escalated _ _ made => exact .inl (unchanged (by rw [made.frame]))
  | republished _ _ _ _ made => exact .inl (unchanged (by rw [made.frame]))
  | published _ same => exact .inl (unchanged (by rw [same]))
  | evidencePersisted _ _ _ same => exact .inl (unchanged (by rw [same]))
  | resultPersisted _ _ same => exact .inl (unchanged (by rw [same]))

/-- An operation keeps its id, its intent and its risk, and once decided it stays so. -/
structure OperationStays (operation later : Operation) : Prop where
  id : later.operationId = operation.operationId
  identity : later.idempotencyIdentity = operation.idempotencyIdentity
  intent : later.intent = operation.intent
  risk : later.riskLevel = operation.riskLevel
  past : operation.state ≠ .pendingPolicy → later.state ≠ .pendingPolicy

theorem OperationStays.refl (operation : Operation) : OperationStays operation operation :=
  ⟨rfl, rfl, rfl, rfl, fun past => past⟩

theorem OperationStays.trans {last : Operation} (first : OperationStays operation after)
    (second : OperationStays after last) : OperationStays operation last where
  id := second.id.trans first.id
  identity := second.identity.trans first.identity
  intent := second.intent.trans first.intent
  risk := second.risk.trans first.risk
  past open_ := second.past (first.past open_)

theorem past_of_legal {source : Option OperationState} {target : OperationState}
    (legal : evaluateOperationTransition source target = true) (moved : source ≠ none) :
    target ≠ .pendingPolicy := by
  rintro rfl
  cases source with
  | none => exact moved rfl
  | some source =>
    revert legal
    cases source <;> decide

/-- What a step makes of an operation row. -/
theorem operationStays_step (taken : JournalStep action s s') {operationId : OpaqueId}
    (found : s.operation? operationId = some operation) :
    ∃ later, s'.operation? operationId = some later ∧ OperationStays operation later := by
  obtain ⟨later, at_, -⟩ := taken.operation?_some found
  refine ⟨later, at_, ?_⟩
  cases taken.operation_origin at_ with
  | kept same =>
    obtain rfl := Option.some.inj (same.symm.trans found)
    exact .refl later
  | created command asked made row absent => exact nomatch absent.symm.trans found
  | moved command loaded asked made row mine =>
    subst row mine
    obtain rfl := Option.some.inj (made.found.symm.trans found)
    exact ⟨rfl, rfl, rfl, rfl, fun _ => past_of_legal made.legal nofun⟩
  | escalated request loaded made row mine =>
    subst row mine
    obtain rfl := Option.some.inj (made.found.symm.trans found)
    exact ⟨rfl, rfl, rfl, rfl, fun _ => nofun⟩

theorem Submissions.step (before : Submissions asked runtime granted s)
    (sanctioned : Sanctioned asked runtime granted s action) (taken : JournalStep action s s') :
    Submissions asked runtime granted s' := by
  constructor
  · intro operationId later at_
    cases found : s.operation? operationId with
    | none =>
      obtain ⟨command, rfl, rfl⟩ := taken.operation?_fresh found at_
      exact sanctioned
    | some operation =>
      obtain ⟨command, given, submitted⟩ := before.operations operationId operation found
      obtain ⟨row, there, stays⟩ := operationStays_step taken found
      obtain rfl := Option.some.inj (there.symm.trans at_)
      exact ⟨command, given, submitted.later stays.id stays.identity stays.intent stays.risk⟩
  · intro decision member
    rcases policyDecision_origin taken member with old | ⟨command, loaded, rfl, made, carried⟩
    · obtain ⟨operation, command, found, given, evaluated⟩ := before.decisions decision old
      obtain ⟨later, at_, stays⟩ := operationStays_step taken found
      exact ⟨later, command, at_, given, evaluated.later stays.id stays.intent⟩
    · obtain ⟨submit, given, evaluated⟩ := sanctioned.1 decision carried loaded made.found
        made.version
      obtain ⟨later, at_, stays⟩ := operationStays_step taken made.found
      have owner : decision.operationId = command.operationId :=
        (made.policyDecision_owner carried).trans made.operationId
      exact ⟨later, submit, owner ▸ at_, given, evaluated.later stays.id stays.intent⟩
  · intro approval member approved
    rcases approved_origin taken member approved with old | ⟨command, rfl, carried⟩
    · exact before.approvals approval old approved
    · exact sanctioned.2 approval carried approved

/-! ## Runs -/

theorem submissions_run {actions : List JournalAction}
    (before : Submissions asked runtime granted s)
    (sanctioned : Stepwise uuid5 (Sanctioned asked runtime granted) s actions) :
    Submissions asked runtime granted (run uuid5 s actions) :=
  run_preserves (fun _ _ _ before sanctioned taken => before.step sanctioned taken) actions
    sanctioned before

theorem operationStays_run (actions : List JournalAction) {operationId : OpaqueId}
    (found : s.operation? operationId = some operation) :
    ∃ later, (run uuid5 s actions).operation? operationId = some later ∧
      OperationStays operation later := by
  have step : ∀ action t t',
      (∃ later, t.operation? operationId = some later ∧ OperationStays operation later) → True →
        JournalStep action t t' →
          ∃ later, t'.operation? operationId = some later ∧ OperationStays operation later := by
    rintro action t t' ⟨later, at_, stays⟩ - taken
    obtain ⟨last, there, stays'⟩ := operationStays_step taken at_
    exact ⟨last, there, stays.trans stays'⟩
  exact run_preserves step actions (stepwise_true uuid5 s actions)
    ⟨operation, found, .refl operation⟩

end Stateback.Invariants
