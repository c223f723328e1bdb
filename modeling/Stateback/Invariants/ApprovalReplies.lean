import Stateback.Invariants.Approvals
import Stateback.Lib.Permitted
/-!
# What approval replies report

An accepting reply names an approval.  Where the call was answered from a load, or its own
transaction closed the approval, that is the stored one.  Where the transition service answered that
the operation is already there, it is the approval that the call would have stored, whatever the
faster call did.
-/

namespace Stateback.Invariants

open Domain Persistence Transitions Providers Approval Concurrency KeyedTable KeyedTable.Table
open Transaction Process

variable {s s' : Store} {uuid5 : String → OpaqueId}

/-- Both tell of one decision. -/
structure SameDecision (stored told : Domain.Approval) : Prop where
  state : stored.state = told.state
  decidedBy : stored.decidedBy = told.decidedBy
  decidedAt : stored.decidedAt = told.decidedAt
  reason : stored.reason = told.reason

theorem SameDecision.refl (approval : Domain.Approval) : SameDecision approval approval :=
  ⟨rfl, rfl, rfl, rfl⟩

instance (stored told : Domain.Approval) : Decidable (SameDecision stored told) :=
  decidable_of_iff (stored.state = told.state ∧ stored.decidedBy = told.decidedBy ∧
      stored.decidedAt = told.decidedAt ∧ stored.reason = told.reason)
    ⟨fun same => ⟨same.1, same.2.1, same.2.2.1, same.2.2.2⟩,
      fun same => ⟨same.state, same.decidedBy, same.decidedAt, same.reason⟩⟩

/-- The transition of an operation that a unit of work is for. -/
def operationCommand? : Purpose → Option OperationCommand
  | .submit (.operation command) => some command
  | _ => none

/-- The transaction is to close an approval of an operation that is already where this leads, and
the approval that is stored tells of another decision. -/
def Overtaken (label : Purpose) (s : Store) : Prop :=
  ∃ command ∈ operationCommand? label, ∃ closed ∈ command.body.decidedApproval?,
    ∃ operation ∈ s.operation? command.operationId, ∃ stored ∈ s.approval? closed.approvalId,
      (operation.version : Int) = command.expectedVersion + 1 ∧
      operation.state = command.kind.edge.2 ∧ ¬ SameDecision stored closed

instance (label : Purpose) (s : Store) : Decidable (Overtaken label s) :=
  inferInstanceAs (Decidable (∃ command ∈ operationCommand? label,
    ∃ closed ∈ command.body.decidedApproval?, ∃ operation ∈ s.operation? command.operationId,
      ∃ stored ∈ s.approval? closed.approvalId,
        (operation.version : Int) = command.expectedVersion + 1 ∧
        operation.state = command.kind.edge.2 ∧ ¬ SameDecision stored closed))

/-- An accepting reply reports what is stored. -/
def Reports (outcome : Except Raised ApprovalResult) (s : Store) : Prop :=
  ∀ reply, outcome = .ok reply → reply.disposition = .accepted →
    ∃ approval stored, reply.approval = some approval ∧
      s.approval? approval.approvalId = some stored ∧ SameDecision stored approval ∧
      stored.state ≠ .pending

/-- What is closed stays as it is. -/
theorem Reports.later {outcome : Except Raised ApprovalResult} (reports : Reports outcome s)
    (kept : ApprovalsKept s s') : Reports outcome s' := by
  intro reply ended accepted
  obtain ⟨approval, stored, named, found, same, closed⟩ := reports reply ended accepted
  exact ⟨approval, stored, named, kept.closed found closed, same, closed⟩

theorem reports_refused {reply : ApprovalResult} (refused : reply.disposition ≠ .accepted) :
    Reports (.ok reply) s := by
  rintro _ ⟨⟩ accepted
  exact absurd accepted refused

theorem reports_raised {e : Raised} : Reports (.error e) s := by
  rintro _ ⟨⟩

theorem reports_stored {reason : String} {operation : Operation} {approval : Domain.Approval}
    (stored : s.approval? approval.approvalId = some approval)
    (closed : approval.state ≠ .pending) :
    Reports (.ok (answered .accepted reason operation approval)) s := by
  rintro _ ⟨⟩ -
  exact ⟨approval, approval, rfl, stored, .refl approval, closed⟩

/-- `Ends` for the approval service, where no transaction is overtaken. -/
abbrev EndsReporting (uuid5 : String → OpaqueId) (authorizer : ApproverAuthorizer)
    (program : Service ApprovalResult) (last : Store) : Prop :=
  Ends (approvalContract uuid5 authorizer) (fun label s => ¬ Overtaken label s) Reports program last

section Calls

variable {lower : String → String} {authorizer : ApproverAuthorizer} {last : Store}

theorem ends_load {α : Type} {read : Store → α} {next : α → Service ApprovalResult}
    (rest : ∀ s, Reachable uuid5 s → ApprovalsKept last s →
      EndsReporting uuid5 authorizer (next (read s)) s) :
    EndsReporting uuid5 authorizer (Service.load read >>= next) last := by
  refine ends_commit (fun s b s' inv seen ran _ _ _ => ?_) fun s e _ _ ran => by cases ran
  cases ran
  exact rest s inv seen

theorem ends_now {next : UtcTimestamp → Service ApprovalResult}
    (rest : ∀ s now, ApprovalsKept last s → EndsReporting uuid5 authorizer (next now) s) :
    EndsReporting uuid5 authorizer (Service.now >>= next) last :=
  ends_question fun s now _ seen => rest s now seen

theorem ends_resolveConcurrent {command : ApprovalDecisionCommand} :
    EndsReporting uuid5 authorizer (resolveConcurrent command) last := by
  unfold resolveConcurrent
  refine ends_load fun s _ _ => ?_
  split
  · exact reports_refused (by simp [notFound])
  next operation approval loaded =>
    obtain ⟨-, -, stored⟩ := loadIds_some loaded
    split
    · exact reports_refused (by simp [answered])
    · split
      next same =>
        refine reports_stored stored ?_
        rw [same]
        obtain decision | decision := command.decides <;> simp [decision]
      · exact reports_refused (by simp [answered])

theorem ends_resolveExpiry {command : ApprovalExpiryCommand} {operation : Operation}
    {approval : Domain.Approval} :
    EndsReporting uuid5 authorizer (resolveExpiry command operation approval) last := by
  unfold resolveExpiry
  refine ends_load fun s _ _ => ?_
  split
  next reloaded current loaded =>
    obtain ⟨-, -, stored⟩ := loadIds_some loaded
    split
    next expired => exact reports_stored stored (by simp [expired.2])
    · exact reports_refused (by simp [answered])
  · exact reports_refused (by simp [answered])

/-- The transition that closes a loaded approval.  Answered as already applied, the call tells of
its own decision, which is the stored one because it was not overtaken. -/
theorem ends_close {loadedAt : Store} {operation : Operation}
    {approval closed : Domain.Approval} {command : OperationCommand}
    {settle : Except Raised TransitionResult → Service ApprovalResult}
    (loaded : Loaded loadedAt operation approval) (reachable : Reachable uuid5 loadedAt)
    (kept : ApprovalsKept loadedAt last) (target : command.operationId = operation.operationId)
    (carried : command.body.decidedApproval? = some closed)
    (same : closed.approvalId = approval.approvalId)
    (agrees : closedState? closed.state = some command.kind.edge.2)
    (settles : ∀ result, settle (.ok result) = pure (transitionAnswered approval closed result))
    (raises : ∀ s e, EndsReporting uuid5 authorizer (settle (.error e)) s) :
    EndsReporting uuid5 authorizer (Service.trySubmit (.operation command) >>= settle) last := by
  obtain ⟨shut, -⟩ := closedState?_closed agrees
  refine ends_attempt (fun s result s' _ seen ran undisturbed _ _ => ?_) fun s e _ _ _ => raises s e
  have seen : ApprovalsKept loadedAt s := kept.trans seen
  have ran : applyOperation command s = .ok (result, s') := ran
  rw [settles]
  obtain ⟨row, made, applied, -⟩ | ⟨row, unchanged, found, version, state, already, -⟩ |
    ⟨row, unchanged, -, refused, -⟩ := applyOperation_cases ran
  · obtain ⟨-, stored⟩ := loaded.met seen target carried same made
    rintro reply ⟨⟩ -
    refine ⟨closed, closed, by simp [transitionAnswered, applied], ?_, .refl closed, shut⟩
    rw [approval?_of_decided made carried same stored, if_pos same.symm]
  · subst unchanged
    obtain ⟨decided, stored, verdict⟩ := loaded.replayed reachable seen target agrees found state
    have stored : s'.approval? closed.approvalId = some decided := same ▸ stored
    have told : SameDecision decided closed := by
      by_contra other
      exact undisturbed
        ⟨command, rfl, closed, carried, row, found, decided, stored, version, state, other⟩
    rintro reply ⟨⟩ -
    refine ⟨closed, decided, by simp [transitionAnswered, already], stored, told, ?_⟩
    rw [verdict]
    exact shut
  · exact reports_refused (by simp [transitionAnswered, refused])

theorem ends_decide (command : ApprovalDecisionCommand) :
    EndsReporting uuid5 authorizer (Approval.decide lower authorizer command) last := by
  unfold Approval.decide
  split
  · exact reports_raised
  refine ends_load fun s reachable _ => ?_
  split
  · exact reports_refused (by simp [notFound])
  next operation approval rows =>
  obtain ⟨found, target, stored⟩ := loadIds_some rows
  split
  · exact reports_refused (by simp [answered])
  next bound =>
  obtain ⟨owner, current, version⟩ := bindingError_none bound
  split
  · exact reports_refused (by simp [answered])
  refine ends_now fun s₁ decidedAt seen₁ => ?_
  dsimp only
  split
  next same =>
    have closed : approval.state ≠ .pending := by
      rw [same]
      obtain decision | decision := command.decides <;> simp [decision]
    exact reports_stored (seen₁.closed stored closed) closed
  split
  · exact reports_refused (by simp [answered])
  next pending =>
  have pending : approval.state = .pending := not_not.mp pending
  refine ends_now fun s₂ occurredAt seen₂ => ?_
  have carried : (transitionCommand command (terminalApproval approval command decidedAt)
      occurredAt).body.decidedApproval? = some (terminalApproval approval command decidedAt) := by
    unfold transitionCommand
    dsimp only
    split <;> rfl
  refine ends_close ⟨found, stored, pending, owner, current, version pending⟩ reachable
    (seen₁.trans seen₂) target.symm carried rfl ?_ (fun _ => rfl) fun s e => ?_
  · obtain decision | decision := command.decides <;>
      simp [terminalApproval, transitionCommand, OperationCommand.kind, decision, closedState?,
        CommandBody.kind, TransitionKind.edge]
  · unfold settleDecision
    dsimp only
    split
    · exact ends_resolveConcurrent
    · exact reports_raised

theorem ends_expire (command : ApprovalExpiryCommand) :
    EndsReporting uuid5 authorizer (expire command) last := by
  unfold expire
  refine ends_load fun s reachable _ => ?_
  split
  · exact reports_refused (by simp [notFound])
  next operation approval rows =>
  obtain ⟨found, target, stored⟩ := loadIds_some rows
  split
  · exact reports_refused (by simp [answered])
  next bound =>
  obtain ⟨owner, current, version⟩ := bindingError_none bound
  split
  next expired => exact reports_stored stored (by simp [expired])
  split
  · exact reports_refused (by simp [answered])
  next pending =>
  have pending : approval.state = .pending := not_not.mp pending
  refine ends_now fun s₁ now seen₁ => ?_
  split
  · exact reports_refused (by simp [answered])
  refine ends_close ⟨found, stored, pending, owner, current, version pending⟩ reachable seen₁
    target.symm rfl rfl rfl (fun _ => rfl) fun s e => ?_
  unfold settleExpiry
  dsimp only
  split
  · exact ends_resolveExpiry
  · exact reports_raised

end Calls

/-! ## Runs -/

/-- In a run of `decide` and `expire` calls whose transactions are not overtaken, every accepting
reply reports the approval that is stored when its call returns. -/
theorem replies_report {authorizer : ApproverAuthorizer} {s₀ : Store}
    (reachable : Reachable uuid5 s₀) {t : List ApprovalEvent} {c c' : ApprovalConfig}
    (run : Run (ApprovalCall.service lower authorizer) s₀ t c)
    (undisturbed : ∀ pid label before after, .committed pid label before after ∈ t →
      ¬ Overtaken label before)
    {pid : Pid} {reply : ApprovalResult}
    (returns : Step (ApprovalCall.service lower authorizer) c (.finished pid (.ok reply)) c')
    (accepted : reply.disposition = .accepted) :
    ∃ approval stored, reply.approval = some approval ∧
      c.store.approval? approval.approvalId = some stored ∧ SameDecision stored approval := by
  have sound : (approvalContract uuid5 authorizer).Sound := approvalContract_sound authorizer
  have assured : ∀ {t : List ApprovalEvent} {c : ApprovalConfig},
      Run (ApprovalCall.service lower authorizer) s₀ t c →
        Assured (approvalContract uuid5 authorizer) (fun _ => Promised) s₀ t c.store :=
    fun run => run.assured sound (fun _ call _ s _ => assures_calls authorizer call s)
      (fun _ _ _ _ => trivial) reachable
  have ends : ∀ (call : ApprovalCall) (s : Store), Reachable uuid5 s →
      EndsReporting uuid5 authorizer (call.service lower authorizer) s := by
    intro call s _
    cases call with
    | decide command => exact ends_decide command
    | expire command => exact ends_expire command
  have ended := Run.ends sound ends assured (fun other label before after member => by
    obtain earlier | last := List.mem_append.mp member
    · exact undisturbed other label before after earlier
    · cases List.mem_singleton.mp last) (.step run returns)
  obtain ⟨last, reports, later⟩ := ended.replies pid (.ok reply) (by simp)
  have same : c'.store = c.store := by
    cases returns
    rfl
  obtain ⟨approval, stored, named, found, told, -⟩ := (reports.later later) reply rfl accepted
  exact ⟨approval, stored, named, same ▸ found, told⟩

/-! ## Two approvers -/

/-- The reply a process is about to return. -/
def pendingReply (c : ApprovalConfig) (pid : Pid) : Option ApprovalResult :=
  match c.threads pid with
  | .running (.finish (.ok reply)) => some reply
  | _ => none

theorem returns_of_pending {authorizer : ApproverAuthorizer} {c : ApprovalConfig} {pid : Pid}
    {reply : ApprovalResult} (pending : pendingReply c pid = some reply) :
    Step (ApprovalCall.service lower authorizer) c (.finished pid (.ok reply))
      (c.put pid .gone) := by
  unfold pendingReply at pending
  split at pending
  case h_1 reply' at_ =>
    cases pending
    exact .finish at_
  case h_2 => cases pending

def secondApprover : PrincipalRef := { sampleRequester with id := "second" }

theorem approved_decides :
    ApprovalState.approved = .approved ∨ ApprovalState.approved = .rejected := .inl rfl

def secondDecision : ApprovalDecisionCommand :=
  { sampleDecision .approved "second" approved_decides with actor := secondApprover }

/-- Both load the PENDING approval and approve; the first is faster, and the second is about to
return. -/
def approverChoices : List (Choice ApprovalCall Query Answer) :=
  [.spawn 0 (.decide (sampleDecision .approved "first" approved_decides)),
   .spawn 1 (.decide secondDecision), .step 1 (answersAt 5)] ++
  List.replicate 7 (.step 0 (answersAt 5)) ++ List.replicate 5 (.step 1 (answersAt 5))

def anyApprover : ApproverAuthorizer := fun _ _ _ => true

def approvers : List ApprovalEvent × ApprovalConfig :=
  replay (ApprovalCall.service asciiLower anyApprover) approverChoices (.initial raceStart)

/-- The second approver is told of an approval of its own; the first one's is stored. -/
theorem approvers_misreported :
    ¬ ∀ t c c' pid reply, Run (ApprovalCall.service asciiLower anyApprover) raceStart t c →
      Step (ApprovalCall.service asciiLower anyApprover) c (.finished pid (.ok reply)) c' →
        reply.disposition = .accepted → ∃ approval stored, reply.approval = some approval ∧
          c.store.approval? approval.approvalId = some stored ∧ SameDecision stored approval := by
  intro claimed
  have told : (pendingReply approvers.2 1).map (fun reply =>
      (reply.disposition, reply.approval.map fun approval =>
        (approval.approvalId, approval.decidedBy))) =
          some (.accepted, some (idOf "approval-op", some secondApprover)) := by
    decide +kernel
  have stored : (approvers.2.store.approval? (idOf "approval-op")).map (·.decidedBy) =
      some (some sampleRequester) := by
    decide +kernel
  obtain ⟨reply, pending, shown⟩ := Option.map_eq_some_iff.mp told
  obtain ⟨accepted, named⟩ := Prod.mk.inj shown
  obtain ⟨approval, carried, second⟩ := Option.map_eq_some_iff.mp named
  obtain ⟨id, decider⟩ := Prod.mk.inj second
  obtain ⟨approval', row, carried', found, same⟩ := claimed _ _ _ 1 reply
    (replay_run raceStart approverChoices) (returns_of_pending pending) accepted
  cases carried.symm.trans carried'
  rw [id] at found
  have first : some row.decidedBy = some (some sampleRequester) := by
    rw [← stored]
    exact (congrArg (Option.map (·.decidedBy)) found).symm
  have told' := same.decidedBy.symm.trans (Option.some.inj first)
  rw [decider] at told'
  exact absurd told' (by decide)

/-- An event that is no overtaken commit. -/
def inTime : ApprovalEvent → Bool
  | .committed _ label before _ => !decide (Overtaken label before)
  | _ => true

/-- The first approver is about to return. -/
def firstApprover : List ApprovalEvent × ApprovalConfig :=
  replay (ApprovalCall.service asciiLower anyApprover) (approverChoices.take 9) (.initial raceStart)

theorem replies_report_race : ∃ reply approval stored,
    pendingReply firstApprover.2 0 = some reply ∧ reply.approval = some approval ∧
      firstApprover.2.store.approval? approval.approvalId = some stored ∧
      SameDecision stored approval := by
  have told : (pendingReply firstApprover.2 0).map (·.disposition) = some .accepted := by
    decide +kernel
  have early : firstApprover.1.all inTime = true := by decide +kernel
  obtain ⟨reply, pending, accepted⟩ := Option.map_eq_some_iff.mp told
  have undisturbed : ∀ pid label before after,
      .committed pid label before after ∈ firstApprover.1 → ¬ Overtaken label before := by
    intro pid label before after member
    simpa [inTime] using List.all_eq_true.mp early _ member
  have reachable : Reachable idOf raceStart := ⟨_, rfl⟩
  obtain ⟨approval, stored, named, found, same⟩ := replies_report reachable
    (replay_run raceStart (approverChoices.take 9)) undisturbed (returns_of_pending pending)
    accepted
  exact ⟨reply, approval, stored, pending, named, found, same⟩

end Stateback.Invariants
