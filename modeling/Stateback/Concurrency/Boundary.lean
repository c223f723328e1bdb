import Stateback.Application.Boundary
import Stateback.Concurrency.Submission
/-!
# Callers at the boundary

Any number of authenticated identities submit, read and decide at once, next to everybody else who
writes the journal.  Nobody but an operator is shown an operation that somebody else asked for, and
nothing executes that no caller submitted, or that needs an approval no approver gave.
-/

namespace Stateback.Concurrency

open Domain Persistence Transitions Providers Policy Stateback.Runtime Process Transaction
open KeyedTable KeyedTable.Table Invariants Application Pages

variable {uuid5 : String → OpaqueId} {asked : SubmitCommand → Prop} {runtime : SynchronousRuntime}
  {granted : Domain.Approval → Prop} {s s' last : Store} {identity : AuthenticatedIdentity}

/-! ## Calls -/

inductive BoundaryCall where
  | submit (identity : AuthenticatedIdentity) (idempotencyKey : String)
    (request : SubmitOperationRequest) (correlationId : Option String)
  | getOperation (identity : AuthenticatedIdentity) (operationId : OpaqueId)
  | auditPage (identity : AuthenticatedIdentity) (operationId : OpaqueId) (afterSequence : Int)
    (limit : Nat)
  | decideApproval (identity : AuthenticatedIdentity) (request : DecisionRequest)
  /-- Anybody else: any actions that leave submissions and grants alone, in one unit of work. -/
  | others (actions : List JournalAction) (leaves : ∀ action ∈ actions,
      LeavesPolicy action ∧ ∀ approval, ¬Grants action approval)

inductive BoundaryReply where
  | operation (operation : Operation)
  | audit (page : Page AuditEvent Nat)
  | nothing

/-- What a deployment serves its callers with. -/
structure Deployment where
  runtime : SynchronousRuntime
  authorizer : Option Approval.ApproverAuthorizer
  uuid5 : String → OpaqueId

def BoundaryCall.service (deployment : Deployment) :
    BoundaryCall → Service (Except BoundaryError BoundaryReply)
  | submit identity idempotencyKey request correlationId => do
    let answer ← Application.submit deployment.runtime deployment.uuid5 identity idempotencyKey
      request correlationId
    pure (answer.map .operation)
  | getOperation identity operationId => do
    let answer ← Application.getOperation identity operationId
    pure (answer.map .operation)
  | auditPage identity operationId afterSequence limit => do
    let answer ← Application.auditPage identity operationId afterSequence limit
    pure (answer.map .audit)
  | decideApproval identity request => do
    let answer ← Application.decideApproval deployment.authorizer deployment.runtime.lower
      deployment.uuid5 identity request
    pure (answer.map .operation)
  | others actions _ => Service.uow fun s => .ok (.ok .nothing, run deployment.uuid5 s actions)

/-- The identity that a call reads for; an approver is shown what is to be approved. -/
def BoundaryCall.reader? : BoundaryCall → Option AuthenticatedIdentity
  | submit identity .. | getOperation identity _ | auditPage identity .. => some identity
  | decideApproval .. | others .. => none

/-- The operations that the reply says something about. -/
def BoundaryReply.shows : BoundaryReply → List OpaqueId
  | operation shown => [shown.operationId]
  | audit page => page.items.map (·.operationId)
  | nothing => []

abbrev BoundaryEvent := Event BoundaryCall (Except BoundaryError BoundaryReply) Purpose Store
  Persistence.Raised Query Answer

abbrev BoundaryConfig := Config (Except BoundaryError BoundaryReply) Purpose Store
  Persistence.Raised Query Answer

/-! ## Roles -/

theorem requireRole_ok {allowed : List Role} (passed : identity.requireRole allowed = .ok ()) :
    ∃ role ∈ identity.roles, role ∈ allowed := by
  unfold AuthenticatedIdentity.requireRole AuthenticatedIdentity.require at passed
  split at passed
  next held =>
    split at held
    next any =>
      obtain ⟨role, member, inside⟩ := List.any_eq_true.mp any
      exact ⟨role, member, of_decide_eq_true inside⟩
    · cases held
  · cases passed

/-- A command that reaches the runtime is made for a caller, in its own name. -/
theorem submitCommand_ok {lower : String → String} {idempotencyKey : String}
    {request : SubmitOperationRequest} {correlationId : Option String} {command : SubmitCommand}
    (made : submitCommand lower uuid5 identity idempotencyKey request correlationId = .ok command) :
    Role.caller ∈ identity.roles ∧
      command.ids = submitIds uuid5 (requestIdentity identity.principal idempotencyKey) ∧
      command.input = request.inputOf identity.principal := by
  unfold submitCommand at made
  simp only [except_bind_ok] at made
  obtain ⟨_, passed, _, -, _, -, _, -, same⟩ := made
  cases same
  obtain ⟨role, member, caller⟩ := requireRole_ok passed
  exact ⟨List.mem_singleton.mp caller ▸ member, rfl, rfl⟩

/-- A command that reaches the approval service is made for an approver, in its own name. -/
theorem decisionCommand_ok {lower : String → String} {request : DecisionRequest}
    {command : Approval.ApprovalDecisionCommand}
    (made : decisionCommand lower uuid5 identity request = .ok command) :
    Role.approver ∈ identity.roles ∧ command.actor = identity.principal ∧
      command.approvalId = request.approvalId ∧ command.decision = request.decision := by
  unfold decisionCommand at made
  simp only [except_bind_ok] at made
  obtain ⟨_, passed, _, -, _, -, _, -, same⟩ := made
  cases same
  obtain ⟨role, member, approver⟩ := requireRole_ok passed
  exact ⟨List.mem_singleton.mp approver ▸ member, rfl, rfl, rfl⟩

/-! ## What may be shown -/

/-- Why the identity may be shown the operation: it may read it, or the operation has the intent of
a submission of its own. -/
inductive MayShow (asked : SubmitCommand → Prop) (runtime : SynchronousRuntime)
    (identity : AuthenticatedIdentity) (operationId : OpaqueId) (s : Store) : Prop where
  | read {row : Operation} (found : s.operation? operationId = some row)
    (allowed : readAllowed identity row = true)
  | submitted {command : SubmitCommand} {requestedAt : UtcTimestamp} {intent : IntentEnvelope}
    {row : Operation} (given : asked command) (own : command.requester = identity.principal)
    (intended : runtime.intentOf command requestedAt = .ok intent)
    (found : s.operation? operationId = some row)
    (same : row.intent.intentDigest = intent.intentDigest)

/-- Who may read an operation depends on its intent alone. -/
theorem readAllowed_intent {row later : Operation} (same : later.intent = row.intent) :
    readAllowed identity later = readAllowed identity row := by
  unfold readAllowed
  rw [same]

theorem MayShow.later {operationId : OpaqueId}
    (may : MayShow asked runtime identity operationId s) (stay : AllStay s s') :
    MayShow asked runtime identity operationId s' := by
  cases may with
  | read found allowed =>
    obtain ⟨later, at_, stays⟩ := stay _ _ found
    exact .read at_ ((readAllowed_intent stays.intent).trans allowed)
  | submitted given own intended found same =>
    obtain ⟨later, at_, stays⟩ := stay _ _ found
    exact .submitted given own intended at_ (by rw [stays.intent, same])

/-- What a reading call is answered may be shown. -/
def ReadsOwn (asked : SubmitCommand → Prop) (runtime : SynchronousRuntime) (call : BoundaryCall)
    (reply : Except BoundaryError BoundaryReply) (s : Store) : Prop :=
  ∀ shown identity operationId, reply = .ok shown → call.reader? = some identity →
    operationId ∈ shown.shows → MayShow asked runtime identity operationId s

/-! ## Submitting and reading -/

section Calls

variable {idempotencyKey : String} {request : SubmitOperationRequest}
  {correlationId : Option String} {operationId : OpaqueId}

/-- An operation that `submit` answers with has the intent of the submission. -/
theorem submits_submit (inv : Reachable uuid5 last ∧ Submissions asked runtime granted last)
    (given : ∀ command, submitCommand runtime.lower uuid5 identity idempotencyKey request
      correlationId = .ok command → asked command) :
    Submits uuid5 asked runtime granted
      (fun answer s => ∀ operation, answer = .ok operation →
        MayShow asked runtime identity operation.operationId s)
      (Application.submit runtime uuid5 identity idempotencyKey request correlationId) last := by
  unfold Application.submit
  cases made : submitCommand runtime.lower uuid5 identity idempotencyKey request correlationId with
  | error e =>
    rintro operation same
    cases same
  | ok command =>
    have asks := given command made
    refine Assures.andThen submissionContract_sound inv (submits_submitOperation asks)
      fun result s _ _ serves => ?_
    rintro operation answered
    unfold submitAnswer at answered
    cases named : result.operation with
    | none =>
      rw [named] at answered
      cases answered
    | some shown =>
      rw [named] at answered
      dsimp only at answered
      split at answered
      · cases answered
      next clear =>
      cases answered
      cases serves with
      | refused unnamed _ =>
        rcases unnamed with none_ | conflict
        · rw [named] at none_
          cases none_
        · exact absurd conflict clear
      | served intended _ same decided =>
        obtain ⟨id, asksFor⟩ := decided.named _ named
        obtain ⟨row, found, stays⟩ := decided.stored
        have own := congrArg IntentInput.requester (submitCommand_ok made).2.2
        exact .submitted asks own intended (id ▸ found) (by rw [stays.intent, same])

theorem submits_getOperation : Submits uuid5 asked runtime granted
    (fun answer s => ∀ operation, answer = .ok operation →
      s.operation? operationId = some operation ∧ readAllowed identity operation = true)
    (Application.getOperation identity operationId) last := by
  have sound : (submissionContract uuid5 asked runtime granted).Sound := submissionContract_sound
  unfold Application.getOperation
  cases identity.requireRole [.caller, .reader, .operator] with
  | error e =>
    rintro operation same
    cases same
  | ok _ =>
    refine assures_load sound fun s _ _ => ?_
    cases found : s.operation? operationId with
    | none =>
      rintro operation same
      cases same
    | some operation =>
      dsimp only
      split
      next allowed =>
        rintro _ ⟨⟩
        exact ⟨found, allowed⟩
      · rintro operation same
        cases same

/-- Every event of a page belongs to the operation it was asked for. -/
theorem auditPageAt_about {afterSequence : Int} {limit : Nat} {event : AuditEvent}
    (member : event ∈ (auditPageAt operationId afterSequence limit s).items) :
    event.operationId = operationId := by
  have listed := List.mem_of_mem_take (List.mem_of_mem_take member)
  rw [List.mem_insertionSort] at listed
  have both := (mem_select.mp listed).2
  rw [Bool.and_eq_true] at both
  exact of_decide_eq_true both.1

theorem submits_auditPage {afterSequence : Int} {limit : Nat}
    (inv : Reachable uuid5 last ∧ Submissions asked runtime granted last) :
    Submits uuid5 asked runtime granted
      (fun answer s => ∀ page, answer = .ok page →
        (∀ event ∈ page.items, event.operationId = operationId) ∧
          MayShow asked runtime identity operationId s)
      (Application.auditPage identity operationId afterSequence limit) last := by
  have sound : (submissionContract uuid5 asked runtime granted).Sound := submissionContract_sound
  unfold Application.auditPage
  split
  · rintro page same
    cases same
  refine Assures.andThen sound inv submits_getOperation fun answer s _ _ read => ?_
  cases answer with
  | error e =>
    rintro page same
    cases same
  | ok operation =>
    obtain ⟨found, allowed⟩ := read operation rfl
    refine assures_load sound fun s' _ stay => ?_
    rintro page ⟨⟩
    exact ⟨fun event member => auditPageAt_about member, (MayShow.read found allowed).later stay⟩

end Calls

/-! ## Deciding -/

/-- The approval as a decision leaves it, once its operation was accepted for the actor. -/
structure DecidedAs (authorizer : Approval.ApproverAuthorizer)
    (command : Approval.ApprovalDecisionCommand) (approval : Domain.Approval) : Prop where
  state : approval.state = command.decision
  id : approval.approvalId = command.approvalId
  decidedBy : approval.decidedBy = some command.actor
  authorized : ∃ operation pending, authorizer command.actor operation pending = true ∧
    operation.operationId = approval.operationId ∧
    operation.intent.intentDigest = approval.intentDigest ∧
    pending.approvalId = approval.approvalId

/-- The request approves the approval: an approver made it whom the deployment authorizes for the
operation with the intent that the approval is of. -/
structure Granted (deployment : Deployment) (identity : AuthenticatedIdentity)
    (request : DecisionRequest) (approval : Domain.Approval) : Prop where
  approves : request.decision = .approved
  named : request.approvalId = approval.approvalId
  role : Role.approver ∈ identity.roles
  decidedBy : approval.decidedBy = some identity.principal
  authorized : ∃ authorizer operation pending, deployment.authorizer = some authorizer ∧
    authorizer identity.principal operation pending = true ∧
    operation.operationId = approval.operationId ∧
    operation.intent.intentDigest = approval.intentDigest ∧
    pending.approvalId = approval.approvalId

/-- Somebody who asked for it granted the approval. -/
def GrantedBy (deployment : Deployment) (decides : AuthenticatedIdentity → DecisionRequest → Prop)
    (approval : Domain.Approval) : Prop :=
  ∃ identity request, decides identity request ∧ Granted deployment identity request approval

theorem bindingError_intent {operation : Operation} {approval : Domain.Approval}
    (bound : Approval.bindingError operation approval = none) :
    operation.intent.intentDigest = approval.intentDigest := by
  unfold Approval.bindingError at bound
  obtain ⟨-, bound⟩ := guard_eq_none.mp bound
  obtain ⟨-, bound⟩ := guard_eq_none.mp bound
  exact (not_not.mp (guard_eq_none.mp bound).1).symm

/-- A decision writes at most the approval it closes. -/
theorem sanctioned_transitionCommand {command : Approval.ApprovalDecisionCommand}
    {closed : Domain.Approval} {occurredAt : UtcTimestamp}
    (grants : closed.state = .approved → granted closed) :
    Sanctioned asked runtime granted s
      (.transition (.operation (Approval.transitionCommand command closed occurredAt))) := by
  unfold Approval.transitionCommand
  constructor
  · intro decision carried
    dsimp only at carried
    split at carried <;> cases carried
  · intro approval carried approved
    dsimp only at carried
    split at carried <;>
    · cases carried
      exact grants approved

theorem submits_decide {authorizer : Approval.ApproverAuthorizer}
    {command : Approval.ApprovalDecisionCommand}
    (grants : ∀ approval, approval.state = .approved → DecidedAs authorizer command approval →
      granted approval) :
    Submits uuid5 asked runtime granted Anything (Approval.decide lower authorizer command)
      last := by
  have sound : (submissionContract uuid5 asked runtime granted).Sound := submissionContract_sound
  unfold Approval.decide
  split
  · trivial
  refine assures_load sound fun s _ _ => ?_
  split
  · trivial
  next operation approval loaded =>
  split
  · trivial
  next bound =>
  split
  · trivial
  next authorized =>
  refine assures_now fun s₁ decidedAt _ _ => ?_
  dsimp only
  split
  · trivial
  split
  · trivial
  refine assures_now fun s₂ occurredAt _ _ => ?_
  refine assures_attempt (fun s result s' _ _ ran => ⟨guar_sanctioned ran ?_, fun _ _ => ?_⟩)
    fun s e _ _ _ => ?_
  · refine sanctioned_transitionCommand fun approved => ?_
    obtain ⟨_, -, there⟩ := Option.bind_eq_some_iff.mp loaded
    obtain ⟨_, found, same⟩ := Option.map_eq_some_iff.mp there
    cases same
    have id : approval.approvalId = command.approvalId := (find?_some found).2
    have accepts : authorizer command.actor operation approval = true := by
      simpa using authorized
    have intended := bindingError_intent bound
    exact grants _ approved ⟨rfl, id, rfl, operation, approval, accepts,
      (bindingError_none bound).1.symm, intended, rfl⟩
  · trivial
  · unfold Approval.settleDecision
    dsimp only
    split
    · unfold Approval.resolveConcurrent
      refine assures_load sound fun s _ _ => ?_
      split
      · trivial
      · split
        · trivial
        · split <;> trivial
    · trivial

theorem submits_decideApproval {deployment : Deployment}
    {decides : AuthenticatedIdentity → DecisionRequest → Prop} {request : DecisionRequest}
    (inv : Reachable uuid5 last ∧ Submissions asked runtime (GrantedBy deployment decides) last)
    (given : decides identity request) :
    Submits uuid5 asked runtime (GrantedBy deployment decides) Anything
      (Application.decideApproval deployment.authorizer deployment.runtime.lower deployment.uuid5
        identity request) last := by
  unfold Application.decideApproval
  cases made : decisionCommand deployment.runtime.lower deployment.uuid5 identity request with
  | error e => trivial
  | ok command =>
    cases held : deployment.authorizer with
    | none => trivial
    | some authorizer =>
      obtain ⟨approver, actor, approvalId, decision⟩ := decisionCommand_ok made
      refine Assures.andThen submissionContract_sound inv (submits_decide ?_)
        fun _ _ _ _ _ => trivial
      intro approval approved decided
      obtain ⟨operation, pending, accepts, about⟩ := actor ▸ decided.authorized
      exact ⟨identity, request, given,
        { approves := decision.symm.trans (decided.state.symm.trans approved)
          named := approvalId.symm.trans decided.id.symm
          role := approver
          decidedBy := actor ▸ decided.decidedBy
          authorized := ⟨authorizer, operation, pending, held, accepts, about⟩ }⟩

/-! ## Runs -/

section Runs

variable {deployment : Deployment} {t : List BoundaryEvent} {c : BoundaryConfig}

/-- The submissions of a run that reached the runtime. -/
def Submitted (deployment : Deployment) (t : List BoundaryEvent) (command : SubmitCommand) : Prop :=
  ∃ pid identity idempotencyKey request correlationId,
    .spawned pid (.submit identity idempotencyKey request correlationId) ∈ t ∧
      submitCommand deployment.runtime.lower deployment.uuid5 identity idempotencyKey request
        correlationId = .ok command

/-- The decisions that were asked for in a run. -/
def DecisionAsked (t : List BoundaryEvent) (identity : AuthenticatedIdentity)
    (request : DecisionRequest) : Prop :=
  ∃ pid, .spawned pid (.decideApproval identity request) ∈ t

abbrev boundaryContract (deployment : Deployment) (t : List BoundaryEvent) : Contract Store :=
  submissionContract deployment.uuid5 (Submitted deployment t) deployment.runtime
    (GrantedBy deployment (DecisionAsked t))

theorem submits_boundary (call : BoundaryCall) {pid : Pid} (spawned : .spawned pid call ∈ t)
    (inv : (boundaryContract deployment t).inv last) :
    Assures (boundaryContract deployment t) AnyAnswer
      (Returning (ReadsOwn (Submitted deployment t) deployment.runtime call))
      (call.service deployment) last := by
  cases call with
  | submit identity idempotencyKey request correlationId =>
    refine Assures.andThen submissionContract_sound inv (submits_submit inv fun command made =>
      ⟨pid, _, _, _, _, spawned, made⟩) fun answer s _ _ may => ?_
    rintro shown _ operationId same ⟨⟩ shows
    cases answer with
    | error e => cases same
    | ok operation =>
      cases same
      exact List.mem_singleton.mp shows ▸ may operation rfl
  | getOperation identity operationId =>
    refine Assures.andThen submissionContract_sound inv submits_getOperation
      fun answer s _ _ read => ?_
    rintro shown _ operationId same ⟨⟩ shows
    cases answer with
    | error e => cases same
    | ok operation =>
      cases same
      obtain ⟨found, allowed⟩ := read operation rfl
      refine .read ?_ allowed
      rw [List.mem_singleton.mp shows]
      exact find?_of_mem (find?_some found).1
  | auditPage identity operationId afterSequence limit =>
    refine Assures.andThen submissionContract_sound inv (submits_auditPage inv)
      fun answer s _ _ read => ?_
    rintro shown _ operationId same ⟨⟩ shows
    cases answer with
    | error e => cases same
    | ok page =>
      cases same
      obtain ⟨about, may⟩ := read page rfl
      obtain ⟨event, member, rfl⟩ := List.mem_map.mp shows
      exact about event member ▸ may
  | decideApproval identity request =>
    refine Assures.andThen submissionContract_sound inv
      (submits_decideApproval inv ⟨pid, spawned⟩) fun answer s _ _ _ => ?_
    rintro shown _ operationId same reader
    cases reader
  | others actions leaves =>
    refine fun s _ _ => ⟨fun reply s' ran => ?_, fun _ _ => trivial⟩
    cases ran
    refine ⟨⟨actions, rfl, stepwise_leaves (fun action member => (leaves action member).1)
      fun action member approval grants => absurd grants ((leaves action member).2 approval)⟩,
      fun _ _ => ?_⟩
    rintro shown _ operationId same reader
    cases reader

theorem boundary_assured (ran : Run (BoundaryCall.service deployment) .empty t c) :
    Assured (boundaryContract deployment t)
      (fun call => Returning (ReadsOwn (Submitted deployment t) deployment.runtime call)) .empty t
      c.store :=
  ran.assured submissionContract_sound
    (fun _ call spawned _ inv => submits_boundary call spawned inv) (fun _ _ _ _ => trivial)
    ⟨⟨[], rfl⟩, .empty⟩

/-- Whatever the callers, the approvers and everybody else do at once: a reply shows an identity
without the role of an operator only operations that its own principal asked for, also where the
ids of two callers meet. -/
theorem own_operations_only (ran : Run (BoundaryCall.service deployment) .empty t c)
    (apart : ∀ a b, Submitted deployment t a → Submitted deployment t b →
      Apart deployment.runtime.sha256 deployment.runtime.digits a.input b.input)
    {pid : Pid} {shown : BoundaryReply} (finished : .finished pid (.ok (.ok shown)) ∈ t) :
    ∃ call, .spawned pid call ∈ t ∧ ∀ identity operationId, call.reader? = some identity →
      operationId ∈ shown.shows → Role.operator ∈ identity.roles ∨
        ∃ operation, c.store.operation? operationId = some operation ∧
          operation.intent.requester.type = identity.principal.type ∧
          operation.intent.requester.id = identity.principal.id := by
  have assured := boundary_assured ran
  obtain ⟨call, last, spawned, -, promised, stay⟩ := assured.replies pid _ finished
  refine ⟨call, spawned, fun identity operationId reader shows => ?_⟩
  have may := (promised shown identity operationId rfl reader shows).later stay
  cases may with
  | read found allowed =>
    unfold readAllowed at allowed
    rw [Bool.or_eq_true, Bool.and_eq_true] at allowed
    rcases allowed with operator | ⟨-, own⟩
    · exact .inl (of_decide_eq_true operator)
    · exact .inr ⟨_, found, of_decide_eq_true own⟩
  | submitted given own intended found same =>
    have request := sameRequest_stored assured.inv.2 apart given found intended same
    refine .inr ⟨_, found, ?_, ?_⟩
    · exact request.requesterType.trans (congrArg PrincipalRef.type own)
    · exact request.requesterId.trans (congrArg PrincipalRef.id own)

/-- A caller submitted the operation in its own name, under the key that its id is made of. -/
def SubmittedBy (deployment : Deployment) (t : List BoundaryEvent) (operation : Operation) : Prop :=
  ∃ pid identity idempotencyKey request correlationId,
    .spawned pid (.submit identity idempotencyKey request correlationId) ∈ t ∧
      Role.caller ∈ identity.roles ∧
      operation.operationId = (submitIds deployment.uuid5
        (requestIdentity identity.principal idempotencyKey)).operationId ∧
      operation.intent.input = request.inputOf identity.principal

theorem submittedBy_of_submissions {s : Store} {operationId : OpaqueId} {operation : Operation}
    (submissions : Submissions (Submitted deployment t) deployment.runtime granted s)
    (found : s.operation? operationId = some operation) : SubmittedBy deployment t operation := by
  obtain ⟨command, ⟨pid, identity, key, request, correlationId, spawned, made⟩, submitted⟩ :=
    submissions.operations operationId operation found
  obtain ⟨_, _, creates, -⟩ := submitted.creates
  obtain ⟨caller, ids, asks⟩ := submitCommand_ok made
  refine ⟨pid, identity, key, request, correlationId, spawned, caller, ?_, ?_⟩
  · rw [submitted.id, ids]
  · rw [(intentOf_input creates.intended).1, asks]

/-- The rule allows the operation, or an approver granted the approval it requires. -/
def PassedBy (deployment : Deployment) (t : List BoundaryEvent) (s : Store) (operation : Operation)
    (rule : PolicyRule) : Prop :=
  rule.verdict = .allow ∨ rule.verdict = .requireApproval ∧ ∃ approval,
    s.approval? approval.approvalId = some approval ∧
      operation.currentApprovalId = some approval.approvalId ∧ approval.state = .approved ∧
      approval.operationId = operation.operationId ∧
      approval.intentDigest = operation.intent.intentDigest ∧
      GrantedBy deployment (DecisionAsked t) approval

/-- Whatever the callers, the approvers and everybody else do at once: what executes was submitted
by a caller in its own name, and a rule of the engine allows it, or requires an approval that an
authorized approver granted for its intent. -/
theorem executed_with_roles {engine : RulePolicyEngine} {lower : String → String}
    (engined : deployment.runtime.policyEngine = engine.evaluate lower)
    (ran : Run (BoundaryCall.service deployment) .empty t c) :
    ∀ attempt ∈ c.store.attempts.rows, ∃ operation decision rule,
      c.store.operation? attempt.operationId = some operation ∧
        SubmittedBy deployment t operation ∧ DecidedBy c.store operation decision ∧
        RuledBy engine deployment.runtime (Submitted deployment t) operation decision rule ∧
        PassedBy deployment t c.store operation rule := by
  obtain ⟨reachable, submissions⟩ := (boundary_assured ran).inv
  intro attempt member
  obtain ⟨operation, found, authorized, -⟩ :=
    (authorizedJournal_of_reachable reachable).attempted attempt member
  obtain ⟨decision, rule, decided, ruled, passed⟩ :=
    allowedByRule engined submissions found authorized
  refine ⟨operation, decision, rule, found, submittedBy_of_submissions submissions found, decided,
    ruled, ?_⟩
  rcases passed with allow | ⟨requires, approvalId, approval, named, stored, approved, owner,
    intent, -⟩
  · exact .inl allow
  · obtain ⟨row, id⟩ := find?_some stored
    refine .inr ⟨requires, approval, ?_, ?_, approved, owner, intent,
      submissions.approvals approval row approved⟩
    · exact find?_of_mem row
    · exact named.trans (congrArg some id.symm)

end Runs

/-! ## A caller that reads what it submitted -/

def sampleCaller : AuthenticatedIdentity := ⟨sampleRequester, [.caller]⟩

/-- Nobody may approve. -/
def sampleDeployment : Deployment where
  runtime := sampleRuntime
  authorizer := none
  uuid5 name := idOf name

def sampleRequest : SubmitOperationRequest where
  effect := ⟨"mail", "send", "1"⟩
  arguments := .object [("to", .str "ops")]
  metadata := []
  deploymentEnvironment := "production"
  canonical := sampleSubmit.canonical

theorem sampleClaimed_others (version : Int) : ∀ action ∈ [sampleClaimed version],
    LeavesPolicy action ∧ ∀ approval, ¬Grants action approval := by
  intro action member
  refine ⟨sampleClaimed_leaves version action member, ?_⟩
  rw [List.mem_singleton.mp member]
  rintro approval ⟨command, same, carried, -⟩
  cases same
  cases carried

def boundaryTurn (pid : Pid) (call : BoundaryCall) (steps : Nat) :
    List (Choice BoundaryCall Query Answer) :=
  .spawn pid call :: List.replicate steps (.step pid (answersAt 4))

/-- The first process crashes between the creation and the policy. -/
def readBackChoices : List (Choice BoundaryCall Query Answer) :=
  boundaryTurn 0 (.submit sampleCaller "1" sampleRequest none) 3 ++ [.crash 0] ++
    boundaryTurn 1 (.submit sampleCaller "1" sampleRequest none) 7 ++
    boundaryTurn 2 (.others [sampleClaimed 2] (sampleClaimed_others 2)) 2 ++
    boundaryTurn 3 (.auditPage sampleCaller sampleSubmit.ids.operationId 0 3) 3

def readBack : List BoundaryEvent × BoundaryConfig :=
  replay (BoundaryCall.service sampleDeployment) readBackChoices (.initial .empty)

theorem readBack_run : Run (BoundaryCall.service sampleDeployment) .empty readBack.1 readBack.2 :=
  replay_run _ _

/-- What a process was shown. -/
def shown? : BoundaryEvent → Option (Pid × BoundaryReply)
  | .finished pid (.ok (.ok reply)) => some (pid, reply)
  | _ => none

theorem finished_of_shown {t : List BoundaryEvent} {pid : Pid} {reply : BoundaryReply}
    (member : (pid, reply) ∈ t.filterMap shown?) : .finished pid (.ok (.ok reply)) ∈ t := by
  obtain ⟨event, inside, same⟩ := List.mem_filterMap.mp member
  unfold shown? at same
  split at same
  · cases same
    exact inside
  · cases same

theorem submitted_readBack {command : SubmitCommand}
    (submitted : Submitted sampleDeployment readBack.1 command) :
    submitCommand sampleDeployment.runtime.lower sampleDeployment.uuid5 sampleCaller "1"
      sampleRequest none = .ok command := by
  obtain ⟨pid, identity, key, request, correlationId, spawned, made⟩ := submitted
  have chosen := replay_spawned spawned
  simp only [readBackChoices, boundaryTurn, List.replicate, List.cons_append, List.nil_append,
    List.mem_cons, List.not_mem_nil, Choice.spawn.injEq, reduceCtorEq,
    BoundaryCall.submit.injEq, false_or, or_false, and_false] at chosen
  rcases chosen with ⟨-, rfl, rfl, rfl, rfl⟩ | ⟨-, rfl, rfl, rfl, rfl⟩ <;> exact made

theorem own_operations_only_readBack : ∃ shown, .finished 3 (.ok (.ok shown)) ∈ readBack.1 ∧
    sampleSubmit.ids.operationId ∈ shown.shows ∧ ∃ call, .spawned 3 call ∈ readBack.1 ∧
      ∀ identity operationId, call.reader? = some identity → operationId ∈ shown.shows →
        Role.operator ∈ identity.roles ∨
          ∃ operation, readBack.2.store.operation? operationId = some operation ∧
            operation.intent.requester.type = identity.principal.type ∧
            operation.intent.requester.id = identity.principal.id := by
  have replies : (readBack.1.filterMap shown?).map (fun reply => (reply.1, reply.2.shows)) =
      [(1, [sampleSubmit.ids.operationId]), (2, []),
        (3, [sampleSubmit.ids.operationId, sampleSubmit.ids.operationId,
          sampleSubmit.ids.operationId])] := by
    decide +kernel
  obtain ⟨⟨pid, reply⟩, member, same⟩ : ∃ reply ∈ readBack.1.filterMap shown?,
      (reply.1, reply.2.shows) = (3, [sampleSubmit.ids.operationId, sampleSubmit.ids.operationId,
        sampleSubmit.ids.operationId]) :=
    List.mem_map.mp (replies ▸ by simp)
  obtain ⟨rfl, shows⟩ := Prod.mk.inj same
  have finished := finished_of_shown member
  refine ⟨reply, finished, shows ▸ List.mem_cons_self, ?_⟩
  refine own_operations_only readBack_run (fun a b submitted submitted' => ?_) finished
  have one : a = b := Except.ok.inj
    ((submitted_readBack submitted).symm.trans (submitted_readBack submitted'))
  rw [one]
  exact ⟨fun m m' given given' _ => Option.some.inj (given.symm.trans given'),
    fun m m' given given' _ => Option.some.inj (given.symm.trans given')⟩

/-- The same mail, where the rule asks for an approval. -/
def approvalRule : PolicyRule := { sampleRule with verdict := .requireApproval }

def approvalEngine : RulePolicyEngine :=
  { sampleEngine with rules := [approvalRule], distinct := List.nodup_singleton _ }

def sampleApprover : AuthenticatedIdentity := ⟨⟨.human, "approver-1", none⟩, [.approver]⟩

/-- One principal may approve. -/
def approvalDeployment : Deployment where
  runtime :=
    { sampleRuntime with
      policyEngine := approvalEngine.evaluate asciiLower
      lower := asciiLower }
  authorizer := some fun actor _ _ => decide (actor = sampleApprover.principal)
  uuid5 name := idOf name

theorem approved_decides :
    ApprovalState.approved = .approved ∨ ApprovalState.approved = .rejected := .inl rfl

theorem second_positive : (1 : Int) ≤ 2 := by decide

def approvingRequest : DecisionRequest where
  operationId := sampleSubmit.ids.operationId
  approvalId := sampleSubmit.ids.approvalId
  expectedVersion := 2
  decision := .approved
  reason := "reviewed"
  actionKey := "1"
  correlationId := "review-1"
  decides := approved_decides
  positive := second_positive

/-- The worker comes once the approver has decided. -/
def approvedChoices : List (Choice BoundaryCall Query Answer) :=
  boundaryTurn 0 (.submit sampleCaller "1" sampleRequest none) 7 ++
    boundaryTurn 1 (.decideApproval sampleApprover approvingRequest) 7 ++
    boundaryTurn 2 (.others [sampleClaimed 3] (sampleClaimed_others 3)) 2

def approved : List BoundaryEvent × BoundaryConfig :=
  replay (BoundaryCall.service approvalDeployment) approvedChoices (.initial .empty)

theorem approved_run : Run (BoundaryCall.service approvalDeployment) .empty approved.1 approved.2 :=
  replay_run _ _

/-- Once by a rule alone, and once with an approval. -/
theorem executed_with_roles_readBack :
    (∃ attempt ∈ readBack.2.store.attempts.rows, ∃ operation decision rule,
      readBack.2.store.operation? attempt.operationId = some operation ∧
        SubmittedBy sampleDeployment readBack.1 operation ∧
        DecidedBy readBack.2.store operation decision ∧
        RuledBy sampleEngine sampleDeployment.runtime (Submitted sampleDeployment readBack.1)
          operation decision rule ∧
        PassedBy sampleDeployment readBack.1 readBack.2.store operation rule) ∧
    (∀ rule ∈ approvalEngine.rules, rule.verdict = .requireApproval) ∧
    ∃ attempt ∈ approved.2.store.attempts.rows, ∃ operation decision rule,
      approved.2.store.operation? attempt.operationId = some operation ∧
        SubmittedBy approvalDeployment approved.1 operation ∧
        DecidedBy approved.2.store operation decision ∧
        RuledBy approvalEngine approvalDeployment.runtime
          (Submitted approvalDeployment approved.1) operation decision rule ∧
        PassedBy approvalDeployment approved.1 approved.2.store operation rule := by
  have one : ∀ s : Store, s.attempts.rows.map (·.state) = [.started] →
      ∃ attempt, attempt ∈ s.attempts.rows := by
    intro s states
    obtain ⟨attempt, member, -⟩ : ∃ attempt ∈ s.attempts.rows, attempt.state = .started :=
      List.mem_map.mp (states ▸ List.mem_singleton_self _)
    exact ⟨attempt, member⟩
  have asks : ∀ rule ∈ approvalEngine.rules, rule.verdict = .requireApproval := by
    intro rule member
    rw [List.mem_singleton.mp member]
    rfl
  refine ⟨?_, asks, ?_⟩
  · obtain ⟨attempt, member⟩ := one readBack.2.store (by decide +kernel)
    exact ⟨attempt, member, executed_with_roles rfl readBack_run attempt member⟩
  · obtain ⟨attempt, member⟩ := one approved.2.store (by decide +kernel)
    exact ⟨attempt, member, executed_with_roles rfl approved_run attempt member⟩

end Stateback.Concurrency
