import Stateback.Invariants.AuditChain
/-!
# Authorization precedes execution

No operation executes without a stored policy decision about its own id and intent that allows
it, alone or together with an approval of exactly that decision.  Decisions are never
overwritten and an approval only while it is PENDING, so an authorization once given stays.
-/

namespace Stateback.Invariants

open Domain Persistence Transitions KeyedTable KeyedTable.Table Transaction

/-! ## Authorization -/

/-- The stored decision the operation names, about this operation and its intent. -/
structure DecidedBy (s : Store) (operation : Operation) (decision : PolicyDecision) : Prop where
  named : operation.currentPolicyDecisionId = some decision.policyDecisionId
  stored : s.policyDecision? decision.policyDecisionId = some decision
  operationId : decision.operationId = operation.operationId
  intentDigest : decision.intentDigest = operation.intent.intentDigest

/-- The operation's approval is granted, for this operation, intent and decision. -/
def Approved (s : Store) (operation : Operation) (decision : PolicyDecision) : Prop :=
  ∃ approvalId approval, operation.currentApprovalId = some approvalId ∧
    s.approval? approvalId = some approval ∧ approval.state = .approved ∧
    approval.operationId = operation.operationId ∧
    approval.intentDigest = operation.intent.intentDigest ∧
    approval.policyDecisionId = decision.policyDecisionId

def Authorized (s : Store) (operation : Operation) : Prop :=
  ∃ decision, DecidedBy s operation decision ∧
    (decision.verdict = .allow ∨
      decision.verdict = .requireApproval ∧ Approved s operation decision)

/-- What an operation in AWAITING_APPROVAL waits on. -/
def AwaitsApproval (s : Store) (operation : Operation) : Prop :=
  ∃ decision, DecidedBy s operation decision ∧ decision.verdict = .requireApproval

/-- The states in which an operation needs no authorization yet, or never will. -/
def unauthorizedStates : List OperationState :=
  [.pendingPolicy, .awaitingApproval, .denied, .cancelled]

/-! ## Evidence stays -/

/-- Stored decisions and granted approvals read the same afterwards. -/
structure EvidenceKept (s s' : Store) : Prop where
  decisions : ∀ id decision, s.policyDecision? id = some decision →
    s'.policyDecision? id = some decision
  approvals : ∀ id approval, s.approval? id = some approval → approval.state = .approved →
    s'.approval? id = some approval

variable {s s' : Store} {operationId : OpaqueId} {loaded : Operation}

theorem EvidenceKept.of_eq (decisions : s'.policyDecisions = s.policyDecisions)
    (approvals : s'.approvals = s.approvals) : EvidenceKept s s' where
  decisions id decision stored := by
    rw [Store.policyDecision?, decisions]
    exact stored
  approvals id approval stored _ := by
    rw [Store.approval?, approvals]
    exact stored

private theorem approvalDecided_keeps {approval? : Option Approval}
    {t t' : Table Approval.approvalId} (decided : ApprovalDecided approval? t t')
    {id : OpaqueId} {approval : Approval} (stored : t.find? id = some approval)
    (granted : approval.state = .approved) : t'.find? id = some approval := by
  cases approval? with
  | none => rwa [show t' = t from decided]
  | some new =>
    obtain ⟨row, found, pending, rfl⟩ := decided
    rw [find?_replace]
    split
    next same =>
      subst same
      rw [found, Option.some.injEq] at stored
      rw [stored, granted] at pending
      cases pending
    next => exact stored

theorem EvidenceKept.of_moved {command : OperationCommand}
    (made : OperationMoved command loaded s s') : EvidenceKept s s' where
  decisions _ _ stored := made.related.policyDecisions.find?_of_some stored
  approvals _ _ stored granted := by
    obtain ⟨mid, requested, decided⟩ := made.related.approvals
    exact approvalDecided_keeps decided (requested.find?_of_some stored) granted

theorem DecidedBy.kept {operation operation' : Operation} {decision : PolicyDecision}
    (decided : DecidedBy s operation decision) (kept : EvidenceKept s s')
    (id : operation'.operationId = operation.operationId)
    (intent : operation'.intent = operation.intent)
    (named : operation'.currentPolicyDecisionId = operation.currentPolicyDecisionId) :
    DecidedBy s' operation' decision where
  named := named.trans decided.named
  stored := kept.decisions _ _ decided.stored
  operationId := decided.operationId.trans id.symm
  intentDigest := intent ▸ decided.intentDigest

theorem Authorized.kept {operation operation' : Operation} (authorized : Authorized s operation)
    (kept : EvidenceKept s s') (id : operation'.operationId = operation.operationId)
    (intent : operation'.intent = operation.intent)
    (decision : operation'.currentPolicyDecisionId = operation.currentPolicyDecisionId)
    (approval : operation'.currentApprovalId = operation.currentApprovalId) :
    Authorized s' operation' := by
  obtain ⟨stored, decided, verdict⟩ := authorized
  refine ⟨stored, decided.kept kept id intent decision, verdict.imp_right ?_⟩
  rintro ⟨requires, approvalId, granted, named, found, state, about, digest, answers⟩
  exact ⟨requires, approvalId, granted, approval.trans named, kept.approvals _ _ found state,
    state, about.trans id.symm, intent ▸ digest, answers⟩

/-! ## The invariant -/

structure AuthorizedJournal (s : Store) : Prop where
  authorized : ∀ id operation, s.operation? id = some operation →
    operation.state ∉ unauthorizedStates → Authorized s operation
  awaiting : ∀ id operation, s.operation? id = some operation →
    operation.state = .awaitingApproval → AwaitsApproval s operation
  attempted : ∀ attempt ∈ s.attempts.rows, ∃ operation,
    s.operation? attempt.operationId = some operation ∧ Authorized s operation ∧
      operation.state ≠ .pendingPolicy ∧ operation.state ≠ .awaitingApproval

theorem AuthorizedJournal.empty : AuthorizedJournal .empty where
  authorized _ _ found := by cases found
  awaiting _ _ found := by cases found
  attempted _ member := by cases member

/-- Every attempt belongs to an operation that already had one, or to `operationId`. -/
def AttemptOwners (s s' : Store) (operationId : OpaqueId) (claimed : Prop) : Prop :=
  ∀ attempt ∈ s'.attempts.rows,
    (∃ old ∈ s.attempts.rows, old.operationId = attempt.operationId) ∨
      (claimed ∧ attempt.operationId = operationId)

private theorem attemptCompleted_owners {completed? : Option ExecutionAttempt}
    {t t' : Table ExecutionAttempt.attemptId} (completed : AttemptCompleted completed? t t')
    {attempt : ExecutionAttempt} (member : attempt ∈ t'.rows) :
    ∃ old ∈ t.rows, old.operationId = attempt.operationId := by
  cases completed? with
  | none => exact ⟨attempt, (show t' = t from completed) ▸ member, rfl⟩
  | some new =>
    obtain ⟨-, row, accepted, found, -, rfl⟩ := completed
    obtain ⟨kept, -⟩ | ⟨rfl, -⟩ := mem_replace.mp member
    · exact ⟨attempt, kept, rfl⟩
    · exact ⟨row, (find?_some found).1, rfl⟩

theorem attemptOwners_of_moved {command : OperationCommand}
    (made : OperationMoved command loaded s s') :
    AttemptOwners s s' command.operationId (loaded.state = .ready) := by
  intro attempt member
  obtain ⟨mid, claimed, completed⟩ := made.related.attempts
  obtain ⟨old, oldMember, owner⟩ := attemptCompleted_owners completed member
  rw [← owner]
  obtain known | new := claimed.mem.mp oldMember
  · exact .inl ⟨old, known, rfl⟩
  refine .inr ⟨?_, ?_⟩
  · by_contra notReady
    have source : command.body.kind.edge.1 ≠ some .ready := fun ready =>
      notReady (Option.some.inj (made.source.symm.trans ready))
    rw [CommandBody.claimedAttempt?_eq_none source] at new
    cases new
  · have allowed := evaluateBody_none made.allowed
    unfold evaluateBody at allowed
    cases body : command.body with
    | claimExecution attempt audit =>
      rw [body, CommandBody.claimedAttempt?, Option.some.injEq] at new
      simp only [body] at allowed
      split at allowed
      · cases allowed
      split at allowed
      · cases allowed
      next same =>
        rw [← new, ← (find?_some made.found).2]
        simpa using same
    | _ => rw [body] at new; cases new

/-- Replacing one operation's row keeps the journal authorized if the new row is. -/
theorem AuthorizedJournal.advance (before : AuthorizedJournal s) (kept : EvidenceKept s s')
    {moved : Operation} (found : s.operation? operationId = some loaded)
    (row : ∀ id, s'.operation? id = if operationId = id then some moved else s.operation? id)
    {claimed : Prop} (owners : AttemptOwners s s' operationId claimed)
    (authorized : moved.state ∉ unauthorizedStates → Authorized s' moved)
    (awaiting : moved.state = .awaitingApproval → AwaitsApproval s' moved)
    (attempted : claimed ∨ loaded.state ≠ .pendingPolicy ∧ loaded.state ≠ .awaitingApproval ∧
      Authorized s loaded →
      Authorized s' moved ∧ moved.state ≠ .pendingPolicy ∧ moved.state ≠ .awaitingApproval) :
    AuthorizedJournal s' := by
  refine ⟨fun id operation at_ settled => ?_, fun id operation at_ waits => ?_,
    fun attempt member => ?_⟩
  · rw [row] at at_
    split at at_
    · cases at_
      exact authorized settled
    · exact (before.authorized id operation at_ settled).kept kept rfl rfl rfl rfl
  · rw [row] at at_
    split at at_
    · cases at_
      exact awaiting waits
    · obtain ⟨decision, decided, requires⟩ := before.awaiting id operation at_ waits
      exact ⟨decision, decided.kept kept rfl rfl rfl, requires⟩
  · rw [row]
    obtain ⟨old, oldMember, owner⟩ | ⟨claim, owner⟩ := owners attempt member
    · obtain ⟨operation, at_, given, notPending, notAwaiting⟩ := before.attempted old oldMember
      rw [owner] at at_
      split
      next same =>
        subst same
        rw [found, Option.some.injEq] at at_
        subst at_
        exact ⟨moved, rfl, attempted (.inr ⟨notPending, notAwaiting, given⟩)⟩
      next => exact ⟨operation, at_, given.kept kept rfl rfl rfl rfl, notPending, notAwaiting⟩
    · rw [if_pos owner.symm]
      exact ⟨moved, rfl, attempted (.inl claim)⟩

/-- A step that leaves the operations alone and adds no attempt keeps the journal authorized. -/
theorem AuthorizedJournal.frame (before : AuthorizedJournal s) (kept : EvidenceKept s s')
    (operations : s'.operations = s.operations)
    (owners : ∀ attempt ∈ s'.attempts.rows,
      ∃ old ∈ s.attempts.rows, old.operationId = attempt.operationId) :
    AuthorizedJournal s' := by
  have row : ∀ id, s'.operation? id = s.operation? id := fun id => by
    rw [Store.operation?, operations, Store.operation?]
  refine ⟨fun id operation at_ settled => ?_, fun id operation at_ waits => ?_,
    fun attempt member => ?_⟩
  · exact (before.authorized id operation (row id ▸ at_) settled).kept kept rfl rfl rfl rfl
  · obtain ⟨decision, decided, requires⟩ := before.awaiting id operation (row id ▸ at_) waits
    exact ⟨decision, decided.kept kept rfl rfl rfl, requires⟩
  · obtain ⟨old, oldMember, owner⟩ := owners attempt member
    obtain ⟨operation, at_, given, states⟩ := before.attempted old oldMember
    rw [owner, ← row] at at_
    exact ⟨operation, at_, given.kept kept rfl rfl rfl rfl, states⟩

private theorem same_owners (attempts : s'.attempts = s.attempts) :
    ∀ attempt ∈ s'.attempts.rows, ∃ old ∈ s.attempts.rows,
      old.operationId = attempt.operationId :=
  fun attempt member => ⟨attempt, attempts ▸ member, rfl⟩

/-! ## What a legal move does to the authorization -/

theorem legal_target {source target : OperationState}
    (legal : evaluateOperationTransition (some source) target = true) :
    target ≠ .pendingPolicy ∧ (target = .awaitingApproval → source = .pendingPolicy) := by
  revert legal
  cases source <;> cases target <;> decide

private theorem settled_of_legal {source target : OperationState}
    (legal : evaluateOperationTransition (some source) target = true)
    (pending : source ≠ .pendingPolicy) (awaiting : source ≠ .awaitingApproval) :
    source ∉ unauthorizedStates := by
  have open_ := no_legal_transition_from_absolute_terminal legal
  cases source <;> simp_all [unauthorizedStates, OperationState.isAbsoluteTerminal]

theorem checkPolicy_none {decision : PolicyDecision} {operation : Operation}
    {expected : PolicyVerdict} (checked : checkPolicy decision operation expected = none) :
    decision.operationId = operation.operationId ∧
      decision.intentDigest = operation.intent.intentDigest ∧ decision.verdict = expected := by
  unfold checkPolicy at checked
  repeat' split at checked
  all_goals simp_all

/-- A decision the command carries is the stored decision the moved operation names. -/
private theorem decidedBy_of_moved {command : OperationCommand}
    (made : OperationMoved command loaded s s') {decision : PolicyDecision}
    (carried : command.body.policyDecision? = some decision) {verdict : PolicyVerdict}
    (checked : checkPolicy decision loaded verdict = none) :
    DecidedBy s' (movedOperation command loaded) decision := by
  obtain ⟨about, digest, -⟩ := checkPolicy_none checked
  have inserted := made.related.policyDecisions
  rw [carried] at inserted
  refine ⟨?_, ?_, about, digest⟩
  · simp [movedOperation, steppedOperation, pointersForKind, carried]
  · exact (find?_insert inserted _).trans (if_pos rfl)

/-- From PENDING_POLICY the target is authorized, or awaits approval, or is an end. -/
private theorem moved_from_pendingPolicy {command : OperationCommand}
    (made : OperationMoved command loaded s s') (source : loaded.state = .pendingPolicy) :
    (command.kind.edge.2 ∉ unauthorizedStates → Authorized s' (movedOperation command loaded)) ∧
      (command.kind.edge.2 = .awaitingApproval →
        AwaitsApproval s' (movedOperation command loaded)) := by
  have edge : command.body.kind.edge.1 = some .pendingPolicy := source ▸ made.source
  have allowed := evaluateBody_none made.allowed
  unfold evaluateBody at allowed
  obtain ⟨decision, audit, outbox, body⟩ | ⟨decision, approval, audit, approvalAudit, body⟩ |
      ended | ended := CommandBody.pendingPolicy_cases edge
  · simp only [body] at allowed
    have decided := decidedBy_of_moved made (by rw [body]; rfl) allowed
    refine ⟨fun _ => ⟨decision, decided, .inl (checkPolicy_none allowed).2.2⟩, fun waits => ?_⟩
    rw [OperationCommand.kind, body] at waits
    cases waits
  · simp only [body] at allowed
    have checked := (orElse_eq_none.mp allowed).1
    have decided := decidedBy_of_moved made (by rw [body]; rfl) checked
    refine ⟨fun settled => ?_, fun _ => ⟨decision, decided, (checkPolicy_none checked).2.2⟩⟩
    rw [OperationCommand.kind, body] at settled
    exact absurd (show OperationState.awaitingApproval ∈ unauthorizedStates by decide) settled
  all_goals
    rw [OperationCommand.kind, ended]
    exact ⟨fun settled => absurd (by decide) settled, fun waits => by cases waits⟩

/-- From AWAITING_APPROVAL the target is authorized by the awaited decision, or is an end. -/
private theorem moved_from_awaitingApproval {command : OperationCommand}
    (made : OperationMoved command loaded s s') (awaits : AwaitsApproval s loaded)
    (source : loaded.state = .awaitingApproval)
    (settled : command.kind.edge.2 ∉ unauthorizedStates) :
    Authorized s' (movedOperation command loaded) := by
  have edge : command.body.kind.edge.1 = some .awaitingApproval := source ▸ made.source
  obtain ⟨approval, audit, outbox, body⟩ | ended | ended :=
    CommandBody.awaitingApproval_cases edge
  · obtain ⟨decision, decided, requires⟩ := awaits
    have allowed := evaluateBody_none made.allowed
    unfold evaluateBody at allowed
    simp only [body] at allowed
    split at allowed
    · cases allowed
    split at allowed
    · cases allowed
    split at allowed
    · cases allowed
    split at allowed
    next valid =>
      obtain ⟨about, digest, named, granted⟩ := evaluateApprovalBinding_valid valid
      have noDecision : command.body.policyDecision? = none := by rw [body]; rfl
      refine ⟨decision, decided.kept (.of_moved made) rfl rfl ?_, .inr ⟨requires,
        approval.approvalId, approval, ?_, ?_, granted, about, digest, ?_⟩⟩
      · simp [movedOperation, steppedOperation, pointersForKind, noDecision]
      · simp [movedOperation, steppedOperation, pointersForKind, body, CommandBody.approval?]
      · obtain ⟨mid, -, written⟩ := made.related.approvals
        rw [show command.body.decidedApproval? = some approval by rw [body]; rfl] at written
        obtain ⟨row, found, -, replaced⟩ := written
        rw [Store.approval?, replaced, find?_replace, if_pos rfl, found, Option.map_some]
      · exact Option.some.inj (named.symm.trans decided.named)
    · cases allowed
  all_goals
    rw [OperationCommand.kind, ended] at settled
    exact absurd (by decide) settled

/-- From any other state the authorization is the one the operation already had. -/
private theorem moved_keeps {command : OperationCommand}
    (made : OperationMoved command loaded s s') (authorized : Authorized s loaded)
    (pending : loaded.state ≠ .pendingPolicy) (awaiting : loaded.state ≠ .awaitingApproval) :
    Authorized s' (movedOperation command loaded) := by
  have notPending : command.body.kind.edge.1 ≠ some .pendingPolicy := fun edge =>
    pending (Option.some.inj (made.source.symm.trans edge))
  have notAwaiting : command.body.kind.edge.1 ≠ some .awaitingApproval := fun edge =>
    awaiting (Option.some.inj (made.source.symm.trans edge))
  refine authorized.kept (.of_moved made) rfl rfl ?_ ?_
  · simp [movedOperation, steppedOperation, pointersForKind,
      CommandBody.policyDecision?_eq_none notPending]
  · simp [movedOperation, steppedOperation, pointersForKind,
      CommandBody.approval?_eq_none notPending notAwaiting]

theorem AuthorizedJournal.moved {command : OperationCommand} (before : AuthorizedJournal s)
    (made : OperationMoved command loaded s s') : AuthorizedJournal s' := by
  have target := legal_target made.legal
  refine before.advance (.of_moved made) made.found
    (operation?_replace_stepped made.found made.operations) (attemptOwners_of_moved made)
    (fun settled => ?_) (fun waits => ?_) ?_
  · by_cases pending : loaded.state = .pendingPolicy
    · exact (moved_from_pendingPolicy made pending).1 settled
    by_cases awaiting : loaded.state = .awaitingApproval
    · exact moved_from_awaitingApproval made (before.awaiting _ _ made.found awaiting) awaiting
        settled
    · exact moved_keeps made (before.authorized _ _ made.found
        (settled_of_legal made.legal pending awaiting)) pending awaiting
  · exact (moved_from_pendingPolicy made (target.2 waits)).2 waits
  · intro had
    have open_ : loaded.state ≠ .pendingPolicy ∧ loaded.state ≠ .awaitingApproval :=
      had.elim (fun ready => ready ▸ ⟨nofun, nofun⟩) fun had => ⟨had.1, had.2.1⟩
    have given := before.authorized _ _ made.found
      (settled_of_legal made.legal open_.1 open_.2)
    exact ⟨moved_keeps made given open_.1 open_.2, target.1, fun waits =>
      open_.1 (target.2 waits)⟩

theorem AuthorizedJournal.escalated {request : MessagingRecovery} (before : AuthorizedJournal s)
    (made : OperationEscalated request loaded s s') : AuthorizedJournal s' := by
  have open_ : loaded.state ≠ .pendingPolicy ∧ loaded.state ≠ .awaitingApproval := by
    constructor <;> intro source <;> have legal := made.legal <;> rw [source] at legal <;>
      cases legal
  have kept : EvidenceKept s s' := .of_eq (by rw [made.frame]) (by rw [made.frame])
  have given : Authorized s' (steppedOperation loaded .manualIntervention request.occurredAt
      .unchanged) :=
    (before.authorized _ _ made.found (settled_of_legal made.legal open_.1 open_.2)).kept kept
      rfl rfl rfl rfl
  have owners : AttemptOwners s s' request.operationId False := fun attempt member =>
    .inl (same_owners (by rw [made.frame]) attempt member)
  exact before.advance kept made.found (operation?_replace_stepped made.found made.operations)
    owners (fun _ => given) nofun
    fun _ => ⟨given, nofun, nofun⟩

theorem AuthorizedJournal.created {command : CreateOperation} (before : AuthorizedJournal s)
    (made : OperationCreated command s s') : AuthorizedJournal s' := by
  have row : ∀ id, s'.operation? id =
      if command.operation.operationId = id then some command.operation else s.operation? id :=
    find?_insert made.operations
  have kept : EvidenceKept s s' := .of_eq (by rw [made.frame]) (by rw [made.frame])
  have pending := made.state
  refine ⟨fun id operation at_ settled => ?_, fun id operation at_ waits => ?_,
    fun attempt member => ?_⟩
  · rw [row] at at_
    split at at_
    · cases at_
      rw [pending] at settled
      exact absurd (by decide) settled
    · exact (before.authorized id operation at_ settled).kept kept rfl rfl rfl rfl
  · rw [row] at at_
    split at at_
    · cases at_
      rw [pending] at waits
      cases waits
    · obtain ⟨decision, decided, requires⟩ := before.awaiting id operation at_ waits
      exact ⟨decision, decided.kept kept rfl rfl rfl, requires⟩
  · rw [show s'.attempts = s.attempts by rw [made.frame]] at member
    obtain ⟨operation, at_, given, states⟩ := before.attempted attempt member
    have taken : command.operation.operationId ≠ attempt.operationId := by
      intro same
      have fresh := (insert?_eq_some.mp made.operations).1
      rw [same, show s.operations.find? _ = _ from at_] at fresh
      cases fresh
    rw [row, if_neg taken]
    exact ⟨operation, at_, given.kept kept rfl rfl rfl rfl, states⟩

theorem AuthorizedJournal.step {action : JournalAction} (before : AuthorizedJournal s)
    (taken : JournalStep action s s') : AuthorizedJournal s' := by
  cases taken with
  | unchanged same => exact same ▸ before
  | created command _ made => exact before.created made
  | moved command loaded _ made => exact before.moved made
  | progressed progress _ _ _ made =>
    have frame := made.written.frame
    exact before.frame (.of_eq (by rw [frame]) (by rw [frame])) (by rw [frame])
      (same_owners (by rw [frame]))
  | escalated request loaded made => exact before.escalated made
  | republished uuid5 source operation now made =>
    exact before.frame (.of_eq (by rw [made.frame]) (by rw [made.frame])) (by rw [made.frame])
      (same_owners (by rw [made.frame]))
  | published outboxEvents same =>
    exact before.frame (.of_eq (by rw [same]) (by rw [same])) (by rw [same])
      (same_owners (by rw [same]))
  | evidencePersisted completed attempts _ same made =>
    refine before.frame (.of_eq (by rw [same]) (by rw [same])) (by rw [same])
      fun attempt member => ?_
    rw [same] at member
    exact attemptCompleted_owners made member
  | resultPersisted result verifications same =>
    exact before.frame (.of_eq (by rw [same]) (by rw [same])) (by rw [same])
      (same_owners (by rw [same]))

theorem authorizedJournal_of_reachable {uuid5 : String → OpaqueId} (reachable : Reachable uuid5 s) :
    AuthorizedJournal s :=
  reachable.invariant .empty fun _ _ _ before taken => before.step taken

/-- Whatever commands were applied, by whatever actors: an operation with an attempt, or past
its authorization, is authorized, and its intent is the one its creation stored. -/
theorem authorization_precedes_execution {uuid5 : String → OpaqueId}
    {actions : List JournalAction} {operationId : OpaqueId} {operation : Operation}
    (found : (run uuid5 .empty actions).operation? operationId = some operation)
    (started : (run uuid5 .empty actions).attemptsOf operationId ≠ [] ∨
      operation.state ∉ [.pendingPolicy, .awaitingApproval, .denied, .cancelled]) :
    Authorized (run uuid5 .empty actions) operation ∧
      ∃ command, CreatedIn uuid5 actions operationId command ∧
        operation.intent = command.operation.intent := by
  refine ⟨?_, created_of_found found⟩
  have reachable : Reachable uuid5 (run uuid5 .empty actions) := ⟨actions, rfl⟩
  have journal := authorizedJournal_of_reachable reachable
  rcases started with attempted | settled
  · obtain ⟨attempt, member⟩ := List.exists_mem_of_ne_nil _ attempted
    obtain ⟨stored, owner⟩ := mem_select.mp member
    obtain ⟨other, at_, given, -⟩ := journal.attempted attempt stored
    rw [of_decide_eq_true owner, found, Option.some.injEq] at at_
    exact at_ ▸ given
  · exact journal.authorized operationId operation found settled

theorem authorization_precedes_execution_allowed : Authorized allowedJournal allowedOperation :=
  (authorization_precedes_execution allowedJournal_operation (.inr (by decide))).1

end Stateback.Invariants
