import Stateback.Approval.Service
import Stateback.Concurrency.Rules
import Stateback.Invariants.Isolation
/-!
# Approvals close once and agree with their operation

Any number of `decide` and `expire` calls run at once.  An approval closes in the transaction that
moves its operation out of AWAITING_APPROVAL, and that transaction finds both rows as the call
loaded them; a call that comes too late meets what the first one left.
-/

namespace Stateback.Invariants

open Domain Persistence Transitions Providers Approval Concurrency KeyedTable KeyedTable.Table
open Transaction Process

variable {s s' : Store} {uuid5 : String → OpaqueId}

/-! ## Pending approvals -/

/-- What a decision writes closes the approval. -/
theorem decidedApproval_closed {command : OperationCommand} {loaded : Operation}
    (made : OperationMoved command loaded s s') {closed : Domain.Approval}
    (carried : command.body.decidedApproval? = some closed) : closed.state ≠ .pending := by
  have allowed := evaluateBody_none made.allowed
  unfold evaluateBody at allowed
  have states : ∀ {reason : Option String}, checkClosedApproval closed loaded
      (loadRelated s command loaded) reason = none → reason = none := by
    intro reason checked
    unfold checkClosedApproval at checked
    split at checked
    · cases checked
    · split at checked
      · cases checked
      · exact (orElse_eq_none.mp checked).1
  cases body : command.body with
  | approvalGrant approval =>
    simp only [body] at allowed
    rw [body] at carried
    cases carried
    split at allowed
    · cases allowed
    · obtain ⟨-, allowed⟩ := guard_eq_none.mp allowed
      obtain ⟨-, allowed⟩ := guard_eq_none.mp allowed
      split at allowed
      next valid =>
        rw [(evaluateApprovalBinding_valid valid).2.2.2]
        simp
      · cases allowed
  | approvalReject approval =>
    simp only [body] at allowed
    rw [body] at carried
    cases carried
    obtain ⟨rejected, -⟩ := guard_eq_none.mp (states allowed)
    rw [not_not.mp rejected]
    simp
  | cancelAwaitingApproval approval =>
    simp only [body] at allowed
    rw [body] at carried
    cases carried
    have ended := states allowed
    intro pending
    rw [pending] at ended
    cases ended
  | _ => rw [body] at carried; cases carried

/-- A PENDING approval is about a version the operation had in AWAITING_APPROVAL. -/
def PendingJournal (s : Store) : Prop :=
  ∀ id approval, s.approval? id = some approval → approval.state = .pending →
    ∃ operation, s.operation? approval.operationId = some operation ∧
      (approval.operationVersion < operation.version ∨
        approval.operationVersion = operation.version ∧ operation.state = .awaitingApproval)

/-- Where a PENDING approval of the later journal comes from. -/
theorem pending_origin {command : OperationCommand} {loaded : Operation}
    (made : OperationMoved command loaded s s') {id : OpaqueId} {approval : Domain.Approval}
    (found : s'.approval? id = some approval) (pending : approval.state = .pending) :
    s.approval? id = some approval ∨ command.body.requestedApproval? = some approval := by
  obtain ⟨mid, requested, decided⟩ := made.related.approvals
  have between : mid.find? id = some approval := by
    cases carried : command.body.decidedApproval? with
    | none =>
      rw [carried] at decided
      rw [← show s'.approvals = mid from decided]
      exact found
    | some closed =>
      rw [carried] at decided
      obtain ⟨row, there, -, replaced⟩ := decided
      rw [Store.approval?, replaced, find?_replace] at found
      split at found
      next same =>
        subst same
        rw [there, Option.map_some, Option.some.injEq] at found
        exact absurd (found ▸ pending) (decidedApproval_closed made carried)
      · exact found
  cases new : command.body.requestedApproval? with
  | none =>
    rw [new] at requested
    rw [requested.of_none] at between
    exact .inl between
  | some fresh =>
    rw [new] at requested
    rw [find?_insert requested] at between
    split at between
    · exact .inr between
    · exact .inl between

/-- A requested approval is about the version its command leads to. -/
theorem requestedApproval_version {command : OperationCommand} {loaded : Operation}
    (made : OperationMoved command loaded s s') {approval : Domain.Approval}
    (carried : command.body.requestedApproval? = some approval) :
    approval.operationVersion = (movedOperation command loaded).version ∧
      (movedOperation command loaded).state = .awaitingApproval := by
  have allowed := evaluateBody_none made.allowed
  unfold evaluateBody at allowed
  cases body : command.body with
  | policyRequireApproval decision requested =>
    simp only [body] at allowed
    rw [body] at carried
    cases carried
    have checked := (orElse_eq_none.mp allowed).2
    obtain ⟨-, checked⟩ := guard_eq_none.mp checked
    obtain ⟨-, checked⟩ := guard_eq_none.mp checked
    obtain ⟨-, checked⟩ := guard_eq_none.mp checked
    obtain ⟨-, checked⟩ := guard_eq_none.mp checked
    obtain ⟨version, -⟩ := guard_eq_none.mp checked
    refine ⟨not_not.mp version, ?_⟩
    rw [movedOperation, steppedOperation, OperationCommand.kind, body]
    rfl
  | _ => rw [body] at carried; cases carried

theorem PendingJournal.step {action : JournalAction} (journal : PendingJournal s)
    (taken : JournalStep action s s') : PendingJournal s' := by
  intro id approval found pending
  have old : s.approval? id = some approval → ∃ operation,
      s'.operation? approval.operationId = some operation ∧
        (approval.operationVersion < operation.version ∨
          approval.operationVersion = operation.version ∧
            operation.state = .awaitingApproval) := by
    intro stored
    obtain ⟨operation, there, bound⟩ := journal id approval stored pending
    obtain ⟨later, at_, rfl | newer⟩ := operation_later taken there
    · exact ⟨later, at_, bound⟩
    · exact ⟨later, at_, .inl (by omega)⟩
  have same : s'.approvals = s.approvals → ∃ operation,
      s'.operation? approval.operationId = some operation ∧
        (approval.operationVersion < operation.version ∨
          approval.operationVersion = operation.version ∧
            operation.state = .awaitingApproval) := by
    intro same
    rw [Store.approval?, same] at found
    exact old found
  cases taken with
  | unchanged unchanged => exact same (by rw [unchanged])
  | created command _ made => exact same (by rw [made.frame])
  | moved command loaded _ made =>
    obtain stored | requested := pending_origin made found pending
    · exact old stored
    · obtain ⟨version, state⟩ := requestedApproval_version made requested
      refine ⟨movedOperation command loaded, ?_, .inr ⟨version, state⟩⟩
      have owner : command.operationId = approval.operationId :=
        made.operationId.symm.trans (made.requestedApproval_owner requested).symm
      exact (operation?_replace_stepped made.found made.operations _).trans (if_pos owner)
  | progressed progress _ _ _ made => exact same (by rw [made.written.frame])
  | escalated request loaded made => exact same (by rw [made.frame])
  | republished _ _ _ _ made => exact same (by rw [made.frame])
  | published _ unchanged => exact same (by rw [unchanged])
  | evidencePersisted _ _ _ unchanged => exact same (by rw [unchanged])
  | resultPersisted _ _ unchanged => exact same (by rw [unchanged])

theorem pendingJournal_of_reachable (reachable : Reachable uuid5 s) : PendingJournal s :=
  reachable.invariant (fun _ _ found => by cases found) fun _ _ _ before taken => before.step taken

/-! ## The contract -/

/-- The state an operation gets when its approval closes. -/
def closedState? : ApprovalState → Option OperationState
  | .approved => some .ready
  | .rejected => some .denied
  | .expired => some .cancelled
  | .pending | .cancelled => none

theorem closedState?_inj {a b : ApprovalState} {state : OperationState}
    (first : closedState? a = some state) (second : closedState? b = some state) : a = b := by
  cases a <;> cases b <;> cases first <;> first | rfl | cases second

theorem closedState?_closed {approval : ApprovalState} {state : OperationState}
    (closed : closedState? approval = some state) :
    approval ≠ .pending ∧ state ≠ .awaitingApproval := by
  cases approval <;> cases closed <;> decide

/-- Why the approval may close: who decides, and at which reading of the clock. -/
structure Closes (authorizer : ApproverAuthorizer) (operation : Operation)
    (approval closed : Domain.Approval) (state : OperationState) (now : UtcTimestamp) : Prop where
  agrees : closedState? closed.state = some state
  authorized : closed.state ≠ .expired →
    ∃ actor, closed.decidedBy = some actor ∧ authorizer actor operation approval = true
  approvedBefore : closed.state = .approved →
    ∀ expires, approval.expiresAt = some expires → now.value < expires.value
  expiredAfter : closed.state = .expired →
    ∃ expires, approval.expiresAt = some expires ∧ expires.value ≤ now.value

/-- What a unit of work of the approval service does. -/
inductive ApprovalStep (authorizer : ApproverAuthorizer) (s s' : Store) : Prop where
  | read (same : s' = s)
  | closed (command : OperationCommand) (result : TransitionResult) (operation : Operation)
      (approval closed : Domain.Approval) (ran : applyOperation command s = .ok (result, s'))
      (made : OperationMoved command operation s s')
      (stored : s.approval? approval.approvalId = some approval)
      (pending : approval.state = .pending) (owner : approval.operationId = operation.operationId)
      (current : operation.currentApprovalId = some approval.approvalId)
      (carried : command.body.decidedApproval? = some closed)
      (same : closed.approvalId = approval.approvalId)
      (closes : Closes authorizer operation approval closed command.kind.edge.2
        command.occurredAt)

/-- What the service leaves of the rows others have loaded: an approval closes once, and an
operation leaves AWAITING_APPROVAL with its approval. -/
structure ApprovalsKept (s s' : Store) : Prop where
  approvals : ∀ id row, s.approval? id = some row → s'.approval? id = some row ∨
    row.state = .pending ∧ ∃ later, s'.approval? id = some later ∧ later.state ≠ .pending
  operations : ∀ id row, s.operation? id = some row → s'.operation? id = some row ∨
    row.state = .awaitingApproval ∧ ∃ later approvalId closed, s'.operation? id = some later ∧
      row.currentApprovalId = some approvalId ∧ s'.approval? approvalId = some closed ∧
      closedState? closed.state = some later.state

theorem ApprovalsKept.refl (s : Store) : ApprovalsKept s s :=
  ⟨fun _ _ found => .inl found, fun _ _ found => .inl found⟩

/-- A closed approval is kept. -/
theorem ApprovalsKept.closed (kept : ApprovalsKept s s') {id : OpaqueId} {row : Domain.Approval}
    (found : s.approval? id = some row) (closed : row.state ≠ .pending) :
    s'.approval? id = some row :=
  (kept.approvals id row found).resolve_right fun open_ => closed open_.1

theorem ApprovalsKept.trans {s t u : Store} (first : ApprovalsKept s t)
    (second : ApprovalsKept t u) : ApprovalsKept s u where
  approvals := by
    intro id row found
    obtain same | ⟨pending, later, at_, closed⟩ := first.approvals id row found
    · exact second.approvals id row same
    · exact .inr ⟨pending, later, second.closed at_ closed, closed⟩
  operations := by
    intro id row found
    obtain same | ⟨awaiting, later, approvalId, closed, at_, current, there, agrees⟩ :=
      first.operations id row found
    · exact second.operations id row same
    · obtain ⟨closed', moved⟩ := closedState?_closed agrees
      have kept : u.operation? id = some later :=
        (second.operations id later at_).resolve_right fun leaves => moved leaves.1
      exact .inr ⟨awaiting, later, approvalId, closed, kept, current, second.closed there closed',
        agrees⟩

/-- What the approval service assures, and what its calls rely on. -/
def approvalContract (uuid5 : String → OpaqueId) (authorizer : ApproverAuthorizer) :
    Contract Store where
  inv := Reachable uuid5
  rely := ApprovalsKept
  guar := ApprovalStep authorizer

/-- A closed approval came out of AWAITING_APPROVAL. -/
theorem decidedApproval_source {body : CommandBody} {closed : Domain.Approval}
    (carried : body.decidedApproval? = some closed) :
    body.kind.edge.1 = some .awaitingApproval ∧ body.requestedApproval? = none := by
  cases body <;> cases carried <;> exact ⟨rfl, rfl⟩

/-- A closing writes the approval over its row. -/
theorem approvals_of_decided {command : OperationCommand} {loaded : Operation}
    (made : OperationMoved command loaded s s') {closed : Domain.Approval}
    (carried : command.body.decidedApproval? = some closed) :
    s'.approvals = s.approvals.replace closed := by
  obtain ⟨mid, requested, decided⟩ := made.related.approvals
  rw [(decidedApproval_source carried).2] at requested
  rw [carried] at decided
  obtain ⟨row, there, -, replaced⟩ := decided
  rw [replaced, requested.of_none]

theorem approval?_of_decided {command : OperationCommand} {loaded : Operation}
    (made : OperationMoved command loaded s s') {approval closed : Domain.Approval}
    (carried : command.body.decidedApproval? = some closed)
    (same : closed.approvalId = approval.approvalId)
    (stored : s.approval? approval.approvalId = some approval) (id : OpaqueId) :
    s'.approval? id = if approval.approvalId = id then some closed else s.approval? id := by
  rw [Store.approval?, approvals_of_decided made carried, find?_replace, same]
  split
  next here =>
    subst here
    rw [show s.approvals.find? approval.approvalId = some approval from stored]
    rfl
  · rfl

theorem ApprovalStep.kept {authorizer : ApproverAuthorizer} (step : ApprovalStep authorizer s s') :
    ApprovalsKept s s' := by
  cases step with
  | read same => exact same ▸ .refl s
  | closed command result operation approval closed ran made stored pending owner current carried
      same closes =>
    have approvals := approval?_of_decided made carried same stored
    have operations := operation?_replace_stepped made.found made.operations
    obtain ⟨shut, -⟩ := closedState?_closed closes.agrees
    constructor
    · intro id row found
      rw [approvals]
      split
      next here =>
        subst here
        obtain rfl : approval = row := Option.some.inj (stored.symm.trans found)
        exact .inr ⟨pending, closed, rfl, shut⟩
      · exact .inl found
    · intro id row found
      rw [operations]
      split
      next here =>
        subst here
        obtain rfl : operation = row := Option.some.inj (made.found.symm.trans found)
        have awaiting : operation.state = .awaitingApproval :=
          Option.some.inj (made.source.symm.trans (decidedApproval_source carried).1)
        refine .inr ⟨awaiting, _, approval.approvalId, closed, rfl, current, ?_, closes.agrees⟩
        rw [approvals, if_pos rfl]
      · exact .inl found

theorem approvalContract_sound (authorizer : ApproverAuthorizer) :
    (approvalContract uuid5 authorizer).Sound where
  preorder := { refl := ApprovalsKept.refl, trans := fun _ _ _ => ApprovalsKept.trans }
  read := fun _ => .read rfl
  kept := by
    intro s s' reachable step
    refine ⟨?_, ApprovalStep.kept step⟩
    cases step with
    | read same => exact same ▸ reachable
    | closed command result _ _ _ ran =>
      have applied : apply (.operation command) s = .ok (result, s') := ran
      exact reachable_apply reachable applied

/-! ## The calls -/

/-- Two rows a call has loaded and found bound, the approval PENDING. -/
structure Loaded (s : Store) (operation : Operation) (approval : Domain.Approval) : Prop where
  found : s.operation? operation.operationId = some operation
  stored : s.approval? approval.approvalId = some approval
  pending : approval.state = .pending
  owner : approval.operationId = operation.operationId
  current : operation.currentApprovalId = some approval.approvalId
  version : approval.operationVersion = operation.version

theorem bindingError_none {operation : Operation} {approval : Domain.Approval}
    (bound : bindingError operation approval = none) :
    approval.operationId = operation.operationId ∧
      operation.currentApprovalId = some approval.approvalId ∧
      (approval.state = .pending → approval.operationVersion = operation.version) := by
  unfold bindingError at bound
  obtain ⟨owner, bound⟩ := guard_eq_none.mp bound
  obtain ⟨current, bound⟩ := guard_eq_none.mp bound
  obtain ⟨-, bound⟩ := guard_eq_none.mp bound
  obtain ⟨-, bound⟩ := guard_eq_none.mp bound
  refine ⟨not_not.mp owner, not_not.mp current, fun pending => ?_⟩
  rw [if_pos pending] at bound
  exact not_not.mp (guard_eq_none.mp bound).1

theorem Loaded.awaiting {operation : Operation} {approval : Domain.Approval}
    (loaded : Loaded s operation approval) (journal : PendingJournal s) :
    operation.state = .awaitingApproval := by
  obtain ⟨named, found, bound⟩ := journal _ approval loaded.stored loaded.pending
  rw [loaded.owner] at found
  obtain rfl : named = operation := Option.some.inj (found.symm.trans loaded.found)
  obtain older | ⟨-, state⟩ := bound
  · have version := loaded.version
    omega
  · exact state

/-- The stored approval is in the state an accepting reply names. -/
def Promised (outcome : Except Raised ApprovalResult) (s : Store) : Prop :=
  ∀ reply, outcome = .ok reply → reply.disposition = .accepted →
    ∃ approval stored, reply.approval = some approval ∧
      s.approval? approval.approvalId = some stored ∧ stored.state = approval.state ∧
      stored.state ≠ .pending

section Calls

variable {lower : String → String} {authorizer : ApproverAuthorizer} {last : Store}

/-- `Assures` for the approval service. -/
abbrev AssuresApproval (uuid5 : String → OpaqueId) (authorizer : ApproverAuthorizer)
    (program : Service ApprovalResult) (last : Store) : Prop :=
  Assures (approvalContract uuid5 authorizer) AnyAnswer Promised program last

theorem promised_of_refused {reply : ApprovalResult} (refused : reply.disposition ≠ .accepted) :
    Promised (.ok reply) s := by
  rintro _ ⟨⟩ accepted
  exact absurd accepted refused

theorem promised_of_raised {e : Raised} : Promised (.error e) s := by
  rintro _ ⟨⟩

theorem promised_of_stored {reason : String} {operation : Operation} {approval : Domain.Approval}
    (stored : s.approval? approval.approvalId = some approval)
    (closed : approval.state ≠ .pending) :
    Promised (.ok (answered .accepted reason operation approval)) s := by
  rintro _ ⟨⟩ -
  exact ⟨approval, approval, rfl, stored, rfl, closed⟩

theorem loadIds_some {operationId approvalId : OpaqueId} {operation : Operation}
    {approval : Domain.Approval}
    (loaded : ((s.operation? operationId).bind fun operation =>
      (s.approval? approvalId).map fun approval => (operation, approval)) =
        some (operation, approval)) :
    s.operation? operation.operationId = some operation ∧ operation.operationId = operationId ∧
      s.approval? approval.approvalId = some approval := by
  obtain ⟨row, found, there⟩ := Option.bind_eq_some_iff.mp loaded
  obtain ⟨other, stored, pair⟩ := Option.map_eq_some_iff.mp there
  cases pair
  have key : operation.operationId = operationId := (find?_some found).2
  have id : approval.approvalId = approvalId := (find?_some stored).2
  exact ⟨key ▸ found, key, id ▸ stored⟩

theorem assures_resolveConcurrent {command : ApprovalDecisionCommand} :
    AssuresApproval uuid5 authorizer (resolveConcurrent command) last := by
  unfold resolveConcurrent
  refine assures_load (approvalContract_sound authorizer) fun s _ _ => ?_
  split
  · exact promised_of_refused (by simp [notFound])
  next operation approval loaded =>
    obtain ⟨-, -, stored⟩ := loadIds_some loaded
    split
    · exact promised_of_refused (by simp [answered])
    · split
      next same =>
        refine promised_of_stored stored ?_
        rw [same]
        obtain decision | decision := command.decides <;> simp [decision]
      · exact promised_of_refused (by simp [answered])

theorem assures_resolveExpiry {command : ApprovalExpiryCommand} {operation : Operation}
    {approval : Domain.Approval} :
    AssuresApproval uuid5 authorizer (resolveExpiry command operation approval) last := by
  unfold resolveExpiry
  refine assures_load (approvalContract_sound authorizer) fun s _ _ => ?_
  split
  next reloaded current loaded =>
    obtain ⟨-, -, stored⟩ := loadIds_some loaded
    split
    next expired => exact promised_of_stored stored (by simp [expired.2])
    · exact promised_of_refused (by simp [answered])
  · exact promised_of_refused (by simp [answered])

/-- A transition that closes the approval meets both rows as they were loaded. -/
theorem Loaded.met {loadedAt : Store} {operation row : Operation}
    {approval closed : Domain.Approval} {command : OperationCommand}
    (loaded : Loaded loadedAt operation approval) (seen : ApprovalsKept loadedAt s)
    (target : command.operationId = operation.operationId)
    (carried : command.body.decidedApproval? = some closed)
    (same : closed.approvalId = approval.approvalId) (made : OperationMoved command row s s') :
    row = operation ∧ s.approval? approval.approvalId = some approval := by
  have awaiting : row.state = .awaitingApproval :=
    Option.some.inj (made.source.symm.trans (decidedApproval_source carried).1)
  constructor
  · obtain found | ⟨-, later, _, _, found, -, -, moved⟩ := seen.operations _ _ loaded.found
    · exact Option.some.inj (made.found.symm.trans (target ▸ found))
    · cases made.found.symm.trans (target ▸ found)
      exact absurd awaiting (closedState?_closed moved).2
  · obtain found | ⟨-, later, found, gone⟩ := seen.approvals _ _ loaded.stored
    · exact found
    · obtain ⟨mid, requested, decided⟩ := made.related.approvals
      rw [(decidedApproval_source carried).2] at requested
      rw [carried] at decided
      obtain ⟨there, at_, pending, -⟩ := decided
      rw [requested.of_none, same] at at_
      cases (show s.approvals.find? _ = _ from found).symm.trans at_
      exact absurd pending gone

/-- An operation that is where the transition leads was taken there with its approval. -/
theorem Loaded.replayed {loadedAt : Store} {operation row : Operation}
    {approval closed : Domain.Approval} {command : OperationCommand}
    (loaded : Loaded loadedAt operation approval) (reachable : Reachable uuid5 loadedAt)
    (seen : ApprovalsKept loadedAt s) (target : command.operationId = operation.operationId)
    (agrees : closedState? closed.state = some command.kind.edge.2)
    (found : s.operation? command.operationId = some row)
    (state : row.state = command.kind.edge.2) :
    ∃ decided, s.approval? approval.approvalId = some decided ∧ decided.state = closed.state := by
  have awaiting := loaded.awaiting (pendingJournal_of_reachable reachable)
  obtain there | ⟨-, later, approvalId, decided, there, current, stored, moved⟩ :=
    seen.operations _ _ loaded.found
  · cases found.symm.trans (target ▸ there)
    rw [awaiting] at state
    exact absurd state.symm (closedState?_closed agrees).2
  · cases found.symm.trans (target ▸ there)
    cases loaded.current.symm.trans current
    rw [state] at moved
    exact ⟨decided, stored, closedState?_inj moved agrees⟩

/-- The transition that closes a loaded approval, and the answer to it.  The rows it meets are
those that were loaded, or what another call left of them. -/
theorem assures_close {loadedAt : Store} {operation : Operation}
    {approval closed : Domain.Approval} {command : OperationCommand}
    {settle : Except Raised TransitionResult → Service ApprovalResult}
    (loaded : Loaded loadedAt operation approval) (reachable : Reachable uuid5 loadedAt)
    (kept : ApprovalsKept loadedAt last) (target : command.operationId = operation.operationId)
    (carried : command.body.decidedApproval? = some closed)
    (same : closed.approvalId = approval.approvalId)
    (agrees : closedState? closed.state = some command.kind.edge.2)
    (closes : ∀ s s', OperationMoved command operation s s' →
      Closes authorizer operation approval closed command.kind.edge.2 command.occurredAt)
    (settles : ∀ result, settle (.ok result) = pure (transitionAnswered approval closed result))
    (raises : ∀ s e, AssuresApproval uuid5 authorizer (settle (.error e)) s) :
    AssuresApproval uuid5 authorizer (Service.trySubmit (.operation command) >>= settle) last := by
  obtain ⟨shut, -⟩ := closedState?_closed agrees
  refine assures_attempt (fun s result s' inv seen ran => ?_) fun s e _ _ _ => raises s e
  have seen : ApprovalsKept loadedAt s := kept.trans seen
  have ran : applyOperation command s = .ok (result, s') := ran
  rw [settles]
  obtain ⟨row, made, applied, -⟩ | ⟨row, unchanged, found, -, state, already, -⟩ |
    ⟨row, unchanged, -, refused, -⟩ := applyOperation_cases ran
  · -- nobody was faster
    obtain ⟨rfl, stored⟩ := loaded.met seen target carried same made
    refine ⟨.closed command result row approval closed ran made stored loaded.pending loaded.owner
      loaded.current carried same (closes s s' made), fun _ _ => ?_⟩
    rintro reply ⟨⟩ -
    refine ⟨closed, closed, by simp [transitionAnswered, applied], ?_, rfl, shut⟩
    rw [approval?_of_decided made carried same stored, if_pos same.symm]
  · -- another call has closed it the same way
    subst unchanged
    refine ⟨.read rfl, fun _ _ => ?_⟩
    rintro reply ⟨⟩ -
    obtain ⟨decided, stored, state⟩ := loaded.replayed reachable seen target agrees found state
    refine ⟨closed, decided, by simp [transitionAnswered, already], ?_, state, ?_⟩
    · rw [same]
      exact stored
    · rw [state]
      exact shut
  · subst unchanged
    exact ⟨.read rfl, fun _ _ => promised_of_refused (by simp [transitionAnswered, refused])⟩

/-- A grant is checked against the clock and carries its decider. -/
theorem grant_closes {command : OperationCommand} {operation : Operation}
    {closed : Domain.Approval} {audit outbox : OpaqueId}
    (made : OperationMoved command operation s s')
    (body : command.body = .approvalGrant closed audit outbox) {expires : UtcTimestamp}
    (at_ : closed.expiresAt = some expires) : command.occurredAt.value < expires.value := by
  have allowed := evaluateBody_none made.allowed
  unfold evaluateBody at allowed
  simp only [body] at allowed
  split at allowed
  · cases allowed
  · obtain ⟨-, allowed⟩ := guard_eq_none.mp allowed
    obtain ⟨-, allowed⟩ := guard_eq_none.mp allowed
    split at allowed
    next valid => exact evaluateApprovalBinding_unexpired valid at_
    · cases allowed

theorem transitionCommand_closes {command : ApprovalDecisionCommand} {operation : Operation}
    {approval : Domain.Approval} {decidedAt occurredAt : UtcTimestamp}
    (accepted : authorizer command.actor operation approval = true)
    (made : OperationMoved (transitionCommand command (terminalApproval approval command decidedAt)
      occurredAt) operation s s') :
    Closes authorizer operation approval (terminalApproval approval command decidedAt)
      (transitionCommand command (terminalApproval approval command decidedAt)
        occurredAt).kind.edge.2 occurredAt where
  agrees := by
    obtain decision | decision := command.decides <;>
      simp [terminalApproval, transitionCommand, OperationCommand.kind, decision, closedState?,
        CommandBody.kind, TransitionKind.edge]
  authorized := fun _ => ⟨command.actor, rfl, accepted⟩
  approvedBefore := by
    intro approved expires at_
    have decision : command.decision = .approved := approved
    have body : (transitionCommand command (terminalApproval approval command decidedAt)
        occurredAt).body = .approvalGrant (terminalApproval approval command decidedAt)
          command.ids.approvalAuditEventId command.ids.outboxEventId := if_pos decision
    exact grant_closes made body at_
  expiredAfter := by
    intro expired
    have decision : command.decision = .expired := expired
    obtain other | other := command.decides <;> rw [decision] at other <;> cases other

theorem assures_decide (command : ApprovalDecisionCommand) :
    AssuresApproval uuid5 authorizer (Approval.decide lower authorizer command) last := by
  unfold Approval.decide
  split
  · exact promised_of_raised
  refine assures_load (approvalContract_sound authorizer) fun s reachable _ => ?_
  split
  · exact promised_of_refused (by simp [notFound])
  next operation approval rows =>
  obtain ⟨found, target, stored⟩ := loadIds_some rows
  split
  · exact promised_of_refused (by simp [answered])
  next bound =>
  obtain ⟨owner, current, version⟩ := bindingError_none bound
  split
  · exact promised_of_refused (by simp [answered])
  next accepted =>
  have accepted : authorizer command.actor operation approval = true := by simpa using accepted
  refine assures_now fun s₁ decidedAt _ seen₁ => ?_
  have seen₁ : ApprovalsKept s s₁ := seen₁
  dsimp only
  split
  next same =>
    have closed : approval.state ≠ .pending := by
      rw [same]
      obtain decision | decision := command.decides <;> simp [decision]
    exact promised_of_stored (seen₁.closed stored closed) closed
  split
  · exact promised_of_refused (by simp [answered])
  next pending =>
  have pending : approval.state = .pending := not_not.mp pending
  refine assures_now fun s₂ occurredAt _ seen₂ => ?_
  have seen₂ : ApprovalsKept s s₂ := seen₁.trans seen₂
  have carried : (transitionCommand command (terminalApproval approval command decidedAt)
      occurredAt).body.decidedApproval? = some (terminalApproval approval command decidedAt) := by
    unfold transitionCommand
    dsimp only
    split <;> rfl
  refine assures_close ⟨found, stored, pending, owner, current, version pending⟩ reachable seen₂
    target.symm carried rfl ?_ (fun _ _ made => transitionCommand_closes accepted made)
    (fun _ => rfl) fun s e => ?_
  · obtain decision | decision := command.decides <;>
      simp [terminalApproval, transitionCommand, OperationCommand.kind, decision, closedState?,
        CommandBody.kind, TransitionKind.edge]
  · unfold settleDecision
    dsimp only
    split
    · exact assures_resolveConcurrent
    · exact promised_of_raised

theorem assures_expire (command : ApprovalExpiryCommand) :
    AssuresApproval uuid5 authorizer (expire command) last := by
  unfold expire
  refine assures_load (approvalContract_sound authorizer) fun s reachable _ => ?_
  split
  · exact promised_of_refused (by simp [notFound])
  next operation approval rows =>
  obtain ⟨found, target, stored⟩ := loadIds_some rows
  split
  · exact promised_of_refused (by simp [answered])
  next bound =>
  obtain ⟨owner, current, version⟩ := bindingError_none bound
  split
  next expired => exact promised_of_stored stored (by simp [expired])
  split
  · exact promised_of_refused (by simp [answered])
  next pending =>
  have pending : approval.state = .pending := not_not.mp pending
  refine assures_now fun s₁ now _ seen₁ => ?_
  have seen₁ : ApprovalsKept s s₁ := seen₁
  split
  · exact promised_of_refused (by simp [answered])
  next lapsed =>
  have passed : ∃ expires, approval.expiresAt = some expires ∧ expires.value ≤ now.value := by
    cases at_ : approval.expiresAt with
    | none => simp [at_] at lapsed
    | some expires => exact ⟨expires, rfl, by simpa [at_] using lapsed⟩
  refine assures_close ⟨found, stored, pending, owner, current, version pending⟩ reachable seen₁
    target.symm rfl rfl rfl (fun _ _ _ => ?_) (fun _ => rfl) fun s e => ?_
  · exact
      { agrees := rfl
        authorized := fun other => absurd rfl other
        approvedBefore := fun approved => by cases approved
        expiredAfter := fun _ => passed }
  · unfold settleExpiry
    dsimp only
    split
    · exact assures_resolveExpiry
    · exact promised_of_raised

end Calls

/-! ## Runs -/

inductive ApprovalCall where
  | decide (command : ApprovalDecisionCommand)
  | expire (command : ApprovalExpiryCommand)

def ApprovalCall.service (lower : String → String) (authorizer : ApproverAuthorizer) :
    ApprovalCall → Service ApprovalResult
  | decide command => Approval.decide lower authorizer command
  | expire command => Approval.expire command

abbrev ApprovalEvent := Event ApprovalCall ApprovalResult Purpose Store Raised Query Answer

abbrev ApprovalConfig := Config ApprovalResult Purpose Store Raised Query Answer

/-- The event is a commit that takes the approval out of PENDING. -/
def Leaves (approvalId : OpaqueId) : ApprovalEvent → Prop
  | .committed _ _ before after =>
    (before.approval? approvalId).map (·.state) = some .pending ∧
      (after.approval? approvalId).map (·.state) ≠ some .pending
  | _ => False

/-- The approval and its operation close in one transaction, at the time the operation records. -/
def ClosedTogether (authorizer : ApproverAuthorizer) (approval : Domain.Approval)
    (before after : Store) : Prop :=
  ∃ operation moved closed, before.operation? approval.operationId = some operation ∧
    operation.currentApprovalId = some approval.approvalId ∧
    after.operation? approval.operationId = some moved ∧
    after.approval? approval.approvalId = some closed ∧
    Closes authorizer operation approval closed moved.state moved.updatedAt

/-- What every interleaving of calls keeps, up to the journal `s` it has come to. -/
structure ApprovalsAgree (authorizer : ApproverAuthorizer) (t : List ApprovalEvent) (s : Store) :
    Prop where
  once : ∀ approvalId, t.Pairwise fun first second =>
    Leaves approvalId first → ¬Leaves approvalId second
  together : ∀ pid label before after approval, .committed pid label before after ∈ t →
    before.approval? approval.approvalId = some approval → approval.state = .pending →
    after.approval? approval.approvalId ≠ some approval →
      ClosedTogether authorizer approval before after
  replies : ∀ pid reply, .finished pid (.ok reply) ∈ t → reply.disposition = .accepted →
    ∃ approval stored, reply.approval = some approval ∧
      s.approval? approval.approvalId = some stored ∧ stored.state = approval.state

/-- A unit of work that changes a PENDING approval closes it with its operation. -/
theorem ApprovalStep.together {authorizer : ApproverAuthorizer} {approval : Domain.Approval}
    (step : ApprovalStep authorizer s s')
    (stored : s.approval? approval.approvalId = some approval)
    (changed : s'.approval? approval.approvalId ≠ some approval) :
    ClosedTogether authorizer approval s s' := by
  cases step with
  | read same => exact absurd (same ▸ stored) changed
  | closed command result operation row closed _ made there pending owner current carried same
      closes =>
    have approvals := approval?_of_decided made carried same there
    by_cases mine : row.approvalId = approval.approvalId
    · obtain rfl : row = approval := Option.some.inj (there.symm.trans (mine ▸ stored))
      have key : command.operationId = row.operationId := made.operationId.symm.trans owner.symm
      refine ⟨operation, movedOperation command operation, closed, key ▸ made.found, current, ?_,
        ?_, closes⟩
      · exact (operation?_replace_stepped made.found made.operations _).trans (if_pos key)
      · rw [approvals, if_pos rfl]
    · rw [approvals, if_neg mine] at changed
      exact absurd stored changed

/-- What left PENDING in an earlier commit is not PENDING now. -/
theorem not_pending_of_left {authorizer : ApproverAuthorizer} {before after : Store}
    {approvalId : OpaqueId} (step : ApprovalStep authorizer before after)
    (later : ApprovalsKept after s)
    (open_ : (before.approval? approvalId).map (·.state) = some .pending)
    (left : (after.approval? approvalId).map (·.state) ≠ some .pending) :
    (s.approval? approvalId).map (·.state) ≠ some .pending := by
  obtain ⟨row, found, pending⟩ := Option.map_eq_some_iff.mp open_
  have kept : ApprovalsKept before after := step.kept
  obtain same | ⟨-, closed, there, gone⟩ := kept.approvals _ row found
  · rw [same, Option.map_some, pending] at left
    exact absurd rfl left
  · rw [later.closed there gone, Option.map_some]
    exact fun same => gone (Option.some.inj same)

theorem assures_calls (authorizer : ApproverAuthorizer) (call : ApprovalCall) (s : Store) :
    AssuresApproval uuid5 authorizer (call.service lower authorizer) s := by
  cases call with
  | decide command => exact assures_decide command
  | expire command => exact assures_expire command

/-- However many calls decide and expire at once, every approval closes once, together with its
operation and for a reason of its own, and accepting replies agree with the journal. -/
theorem approval_agreement {authorizer : ApproverAuthorizer} {s₀ : Store}
    (reachable : Reachable uuid5 s₀) {t : List ApprovalEvent} {c : ApprovalConfig}
    (run : Run (ApprovalCall.service lower authorizer) s₀ t c) :
    ApprovalsAgree authorizer t c.store := by
  have sound : (approvalContract uuid5 authorizer).Sound := approvalContract_sound authorizer
  have assured : ∀ {t : List ApprovalEvent} {c : ApprovalConfig},
      Run (ApprovalCall.service lower authorizer) s₀ t c →
        Assured (approvalContract uuid5 authorizer) (fun _ => Promised) s₀ t c.store :=
    fun run => run.assured sound (fun _ call _ s _ => assures_calls authorizer call s)
      (fun _ _ _ _ => trivial) reachable
  refine ⟨fun approvalId => ?_, ?_, ?_⟩
  · induction run with
    | start => exact List.Pairwise.nil
    | step earlier last ih =>
      refine List.pairwise_append.mpr ⟨ih, List.pairwise_singleton _ _, ?_⟩
      rintro first member second single left leaves
      obtain rfl := List.mem_singleton.mp single
      cases first with
      | committed pid label before after =>
        obtain ⟨-, step, -, later⟩ := (assured earlier).commits pid label before after member
        have closed := not_pending_of_left step later left.1 left.2
        cases last with
        | commit => exact closed leaves.1
        | _ => exact leaves
      | _ => exact left
  · intro pid label before after approval member stored _ changed
    obtain ⟨-, step, -, -⟩ := (assured run).commits pid label before after member
    exact ApprovalStep.together step stored changed
  · intro pid reply member accepted
    obtain ⟨-, last, -, -, promised, later⟩ := (assured run).replies pid (.ok reply) member
    obtain ⟨approval, stored, named, found, agrees, closed⟩ := promised reply rfl accepted
    exact ⟨approval, stored, named, ApprovalsKept.closed later found closed, agrees⟩

/-- A clock that stands, before providers that fail. -/
def answersAt (now : Int) : (query : Query) → Answer query
  | .now => ⟨now⟩
  | .execute .. => .raisedOther "TimeoutError"
  | .verify .. => .raisedOther "TimeoutError"
  | .compensate .. => .raisedOther "TimeoutError"

/-- A decision about the sample approval; only `sampleRequester` may decide. -/
def sampleDecision (decision : ApprovalState) (role : String)
    (decides : decision = .approved ∨ decision = .rejected) : ApprovalDecisionCommand where
  operationId := idOf "op"
  approvalId := idOf "approval-op"
  expectedVersion := 2
  decision := decision
  actor := sampleRequester
  reason := none
  correlationId := none
  ids := ⟨idOf ("audit-" ++ role), idOf ("audit-approval-" ++ role), idOf ("outbox-" ++ role)⟩
  decides := decides
  positive := by decide

/-- Both calls load the PENDING approval; the one that approves is faster. -/
def raceChoices : List (Choice ApprovalCall Query Answer) :=
  [.spawn 0 (.decide (sampleDecision .approved "approve" (.inl rfl))),
   .spawn 1 (.decide (sampleDecision .rejected "reject" (.inr rfl))), .step 1 (answersAt 5)] ++
  List.replicate 7 (.step 0 (answersAt 5)) ++ List.replicate 6 (.step 1 (answersAt 5))

def raceStart : Store := run idOf .empty (awaitingActions "op")

def race : List ApprovalEvent × ApprovalConfig :=
  replay (ApprovalCall.service asciiLower fun actor _ _ => decide (actor = sampleRequester))
    raceChoices (.initial raceStart)

theorem approval_agreement_race :
    ApprovalsAgree (fun actor _ _ => decide (actor = sampleRequester)) race.1 race.2.store ∧
      (race.2.store.approval? (idOf "approval-op")).map (·.state) = some .approved ∧
      (race.2.store.operation? (idOf "op")).map (·.state) = some .ready := by
  have reachable : Reachable idOf raceStart := ⟨_, rfl⟩
  have ran : Run (ApprovalCall.service asciiLower fun actor _ _ => decide (actor = sampleRequester))
      raceStart race.1 race.2 := replay_run raceStart raceChoices
  exact ⟨approval_agreement reachable ran, by decide +kernel, by decide +kernel⟩

end Stateback.Invariants
