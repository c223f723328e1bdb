import Stateback.Invariants.Evidence
import Stateback.Invariants.Compensations
import Stateback.Compensation.Decisions
import Stateback.Invariants.WriteOnce
/-!
# What a journal counts

Transitions of an operation, the verifications of its effect that have an answer, execution
attempts, attempts of a compensation record.  A budget is compared with a count read in an earlier
transaction; a count only moves with the version of its operation or its record, so the count that
was read still stands when the version does.
-/

namespace Stateback.Invariants

open Domain Persistence Transitions Recovery Messaging
open KeyedTable KeyedTable.Table EventLog Transaction

variable {s s' : Store} {uuid5 : String → OpaqueId} {action : JournalAction}
  {operationId : OpaqueId}

/-! ## Transitions -/

/-- How often the operation went from `source` to `target`. -/
def movesBetween (s : Store) (operationId : OpaqueId) (source target : OperationState) : Nat :=
  ((transitionsOf (s.auditEventsOf operationId)).map moveOf).countP fun move =>
    decide (move.source = some source ∧ move.target = some target)

section Transitions

variable {source target : OperationState} {events : List AuditEvent} {owner : OpaqueId}

private theorem movesBetween_append (rows : s'.auditEvents.rows = s.auditEvents.rows ++ events)
    (about : ∀ event ∈ events, event.operationId = owner) :
    movesBetween s' operationId source target = movesBetween s operationId source target +
      if owner = operationId then ((transitionsOf events).map moveOf).countP fun move =>
        decide (move.source = some source ∧ move.target = some target) else 0 := by
  simp only [movesBetween, auditEventsOf_append rows about, transitionsOf, List.filter_append,
    List.map_append, List.countP_append]
  split <;> simp

theorem movesBetween_quiet (owner : OpaqueId)
    (rows : s'.auditEvents.rows = s.auditEvents.rows ++ events)
    (about : ∀ event ∈ events, event.operationId = owner)
    (quiet : ∀ event ∈ events, event.eventType ≠ .operationTransitioned) :
    movesBetween s' operationId source target = movesBetween s operationId source target := by
  have silent : transitionsOf events = [] :=
    List.filter_eq_nil_iff.mpr fun event member => by simpa using quiet event member
  simp [movesBetween_append rows about, silent]

theorem movesBetween_frame (same : s'.auditEvents = s.auditEvents) :
    movesBetween s' operationId source target = movesBetween s operationId source target := by
  rw [movesBetween, Store.auditEventsOf, same]
  rfl

theorem movesBetween_moved {command : OperationCommand} {loaded : Operation}
    (made : OperationMoved command loaded s s') :
    movesBetween s' operationId source target = movesBetween s operationId source target +
      if command.operationId = operationId ∧ command.kind.edge = (some source, target) then 1
      else 0 := by
  rw [movesBetween_append made.auditEvents (appended_of_moved made).about, ← moves_map_entryOf,
    auditEventsFor_moves]
  by_cases mine : command.operationId = operationId <;>
    simp [mine, List.countP_cons, Prod.ext_iff]

theorem movesBetween_escalated {request : MessagingRecovery} {loaded : Operation}
    (made : OperationEscalated request loaded s s') :
    movesBetween s' operationId source target = movesBetween s operationId source target +
      if request.operationId = operationId ∧ loaded.state = source ∧
        target = .manualIntervention then 1 else 0 := by
  have about : ∀ event ∈ [escalationEvent request loaded (s.nextSequence loaded.operationId)],
      event.operationId = request.operationId := by
    simpa [escalationEvent] using (find?_some made.found).2
  rw [movesBetween_append made.auditEvents about]
  by_cases mine : request.operationId = operationId <;>
    simp [mine, transitionsOf, escalationEvent, moveOf, List.countP_cons, @eq_comm _ target]

/-- An operation that keeps its row makes no transition. -/
theorem movesBetween_kept (taken : JournalStep action s s')
    (kept : s'.operation? operationId = s.operation? operationId) :
    movesBetween s' operationId source target = movesBetween s operationId source target := by
  have stays : ∀ {id loaded state updatedAt pointers}, s.operation? id = some loaded →
      s'.operations = s.operations.replace (steppedOperation loaded state updatedAt pointers) →
      id ≠ operationId := by
    rintro id loaded state updatedAt pointers found operations rfl
    rw [operation?_replace_stepped found operations, if_pos rfl, found, Option.some.injEq] at kept
    have version : loaded.version + 1 = loaded.version := congrArg (·.version) kept
    omega
  cases taken with
  | unchanged same => rw [same]
  | created command _ made =>
    refine movesBetween_quiet command.operation.operationId made.auditEvents ?_ ?_ <;>
      simp [createdEvent]
  | moved command loaded _ made =>
    rw [movesBetween_moved made, if_neg fun same => stays made.found made.operations same.1]
    rfl
  | progressed progress _ _ _ made =>
    exact movesBetween_quiet _ made.written.auditEvents made.logged.about made.logged.quiet
  | escalated request loaded made =>
    rw [movesBetween_escalated made, if_neg fun same => stays made.found made.operations same.1]
    rfl
  | republished _ _ operation _ made =>
    refine movesBetween_quiet operation.operationId made.auditEvents ?_ ?_ <;>
      simp [republishedEvent]
  | published _ same => exact movesBetween_frame (by rw [same])
  | evidencePersisted _ _ _ same => exact movesBetween_frame (by rw [same])
  | resultPersisted _ _ same => exact movesBetween_frame (by rw [same])

end Transitions

/-! ## Verifications with an answer -/

/-- The row asks about the operation's own effect and has its answer. -/
def originalAnswered (operationId : OpaqueId) (row : VerificationRow) : Bool :=
  decide (row.1.operationId = operationId) &&
    (decide (row.1.target = .originalEffect) && row.2.isSome)

/-- What the recovery budget is compared with. -/
def answeredVerifications (s : Store) (operationId : OpaqueId) : Nat :=
  completedOriginalVerificationCount (s.listVerifications operationId)

/-- The verification the operation names as its latest has an answer. -/
def Answered (s : Store) (operation : Operation) : Prop :=
  ∃ verificationId request result, operation.latestVerificationId = some verificationId ∧
    s.verification? verificationId = some (request, some result)

theorem answeredVerifications_eq (s : Store) (operationId : OpaqueId) :
    answeredVerifications s operationId =
      (s.verifications.select (originalAnswered operationId)).length := by
  unfold answeredVerifications completedOriginalVerificationCount Store.listVerifications
  rw [((List.perm_insertionSort _ _).filter _).length_eq, select, select, List.filter_filter]
  congr 2
  funext row
  exact Bool.and_comm _ _

theorem originalAnswered_stays {a b : VerificationRow} (kept : VerificationKept a b)
    (answered : originalAnswered operationId a = true) : originalAnswered operationId b = true := by
  have stored : a.2 ≠ none := by
    intro missing
    simp [originalAnswered, missing] at answered
  rwa [kept.2 stored]

theorem answeredVerifications_le (taken : JournalStep action s s') (operationId : OpaqueId) :
    answeredVerifications s operationId ≤ answeredVerifications s' operationId := by
  rw [answeredVerifications_eq, answeredVerifications_eq]
  exact (verifications_evolve taken).select_length_le VerificationKept.key originalAnswered_stays

/-- An answer that was not there before counts. -/
theorem answeredVerifications_lt (taken : JournalStep action s s') {operation : Operation}
    (verifies : VerifiesItself s' operation) (answered : Answered s' operation)
    (waiting : ¬Answered s operation) :
    answeredVerifications s operation.operationId <
      answeredVerifications s' operation.operationId := by
  obtain ⟨id, request, result, named, found⟩ := answered
  obtain ⟨id', request', stored, named', found', owner, target⟩ := verifies
  obtain rfl : id = id' := Option.some.inj (named.symm.trans named')
  obtain ⟨rfl, rfl⟩ : request = request' ∧ some result = stored :=
    Prod.mk.inj (Option.some.inj (found.symm.trans found'))
  rw [answeredVerifications_eq, answeredVerifications_eq]
  have stored : ((request, some result) : VerificationRequest × Option VerificationResult) ∈
      s'.verifications.rows := (find?_some found).1
  refine (verifications_evolve taken).select_length_lt VerificationKept.key originalAnswered_stays
    (fun old there => ?_) stored ?_
  · have key : verificationKey (request, some result) = id := (find?_some found).2
    rw [key] at there
    obtain ⟨asked, answer?⟩ := old
    cases answer? with
    | none => simp [originalAnswered]
    | some answer => exact absurd ⟨id, asked, answer, named, there⟩ waiting
  · simp [originalAnswered, owner, target]

theorem Answered.later {operation : Operation} (answered : Answered s operation)
    (kept : s.verifications.Keeps (fun row => row.2 ≠ none) s'.verifications) :
    Answered s' operation := by
  obtain ⟨id, request, result, named, found⟩ := answered
  obtain ⟨stored, key⟩ := find?_some found
  exact ⟨id, request, result, named,
    find?_eq_some_iff.mpr ⟨kept _ stored (by simp), key⟩⟩

/-- Every inconclusive verification of an operation has an answer of its own; one that an
operation in VERIFYING has already got is yet to be used. -/
structure InconclusivesAnswered (s : Store) (operation : Operation) : Prop where
  used : movesBetween s operation.operationId .verifying .unknown ≤
    answeredVerifications s operation.operationId
  unused : operation.state = .verifying → Answered s operation →
    movesBetween s operation.operationId .verifying .unknown <
      answeredVerifications s operation.operationId

def InconclusivesJournal (s : Store) : Prop :=
  ∀ id operation, s.operation? id = some operation → InconclusivesAnswered s operation

/-- Only an inconclusive verification leads from VERIFYING to UNKNOWN. -/
theorem inconclusive_of_edge {kind : TransitionKind}
    (edge : kind.edge = (some .verifying, .unknown)) : kind = .verificationInconclusive := by
  cases kind <;> first | rfl | cases edge

theorem InconclusivesAnswered.moved {command : OperationCommand} {loaded : Operation}
    (before : InconclusivesAnswered s loaded) (verifying : VerifyingJournal s)
    (made : OperationMoved command loaded s s') :
    InconclusivesAnswered s' (movedOperation command loaded) := by
  have taken : JournalStep (.transition (.operation command)) s s' := .moved command loaded rfl made
  have grown := answeredVerifications_le taken loaded.operationId
  have counted : movesBetween s' loaded.operationId .verifying .unknown = _ :=
    movesBetween_moved made
  have id : (movedOperation command loaded).operationId = loaded.operationId := rfl
  have used := before.used
  by_cases edge : command.kind.edge = (some .verifying, .unknown)
  · rw [if_pos ⟨made.operationId.symm, edge⟩] at counted
    have state : loaded.state = .verifying :=
      Option.some.inj (made.source.symm.trans (congrArg Prod.fst edge))
    refine ⟨?_, fun again => ?_⟩
    · -- the answer it used was there unused, or came with the command
      rw [id, counted]
      by_cases answered : Answered s loaded
      · have unused := before.unused state answered
        omega
      · obtain ⟨result, carried⟩ : ∃ result, command.body.verificationResult? = some result := by
          have kind := inconclusive_of_edge edge
          rw [OperationCommand.kind] at kind
          cases body : command.body with
          | verificationInconclusive result => exact ⟨result, rfl⟩
          | _ => rw [body] at kind; cases kind
        have verifies := verifying _ loaded made.found state
        obtain ⟨request, known, named, found, -⟩ := storedResult_of_moved made verifies carried
        have later := answeredVerifications_lt taken (verifies.later taken)
          ⟨_, request, known, named, found⟩ answered
        omega
    · have target : (movedOperation command loaded).state = .unknown := congrArg Prod.snd edge
      rw [target] at again
      cases again
  · rw [if_neg fun both => edge both.2] at counted
    refine ⟨by rw [id, counted]; omega, fun state answered => ?_⟩
    have waiting : ¬Answered s (movedOperation command loaded) := by
      rintro ⟨verificationId, request, result, named, found⟩
      obtain ⟨asked, carried⟩ := verificationRequest_of_verifying state
      obtain ⟨requested, -, inserted, -⟩ := made.related.verifications
      rw [carried] at inserted
      have fresh : s.verification? asked.verificationId = none := inserted.fresh
      have same : some asked.verificationId = some verificationId := by
        simpa [movedOperation, steppedOperation, pointersForKind, carried] using named
      rw [← Option.some.inj same, fresh] at found
      cases found
    have later := answeredVerifications_lt taken (verifiesItself_of_moved made state) answered
      waiting
    rw [id] at later ⊢
    omega

theorem InconclusivesJournal.step (reachable : Reachable uuid5 s) (before : InconclusivesJournal s)
    (taken : JournalStep action s s') : InconclusivesJournal s' := by
  intro id operation found
  have verifying := verifying_of_reachable reachable
  cases taken.operation_origin found with
  | kept same =>
    obtain ⟨used, unused⟩ := before id operation same
    have key : operation.operationId = id := (find?_some same).2
    have counted : movesBetween s' operation.operationId .verifying .unknown = _ :=
      movesBetween_kept taken (by rw [key, found, same])
    have grown := answeredVerifications_le taken operation.operationId
    refine ⟨by omega, fun state answered => ?_⟩
    rw [counted]
    by_cases already : Answered s operation
    · have first := unused state already
      omega
    · have verifies := (verifying id operation same state).later taken
      have later := answeredVerifications_lt taken verifies answered already
      omega
  | created command _ made row absent =>
    subst row
    have key : command.operation.operationId = id := (find?_some found).2
    have silent : s.auditEventsOf command.operation.operationId = [] :=
      (auditChained_of_reachable reachable _).absent (key ▸ absent)
    have none_ : movesBetween s' command.operation.operationId .verifying .unknown = 0 := by
      rw [movesBetween_quiet command.operation.operationId made.auditEvents
        (by simp [createdEvent]) (by simp [createdEvent])]
      simp [movesBetween, silent, transitionsOf]
    refine ⟨by omega, fun state => ?_⟩
    rw [made.state] at state
    cases state
  | moved command loaded _ made row =>
    subst row
    exact (before _ loaded made.found).moved verifying made
  | escalated request loaded made row =>
    subst row
    have counted : movesBetween s' loaded.operationId .verifying .unknown = _ :=
      movesBetween_escalated made
    rw [if_neg (by simp)] at counted
    have grown := answeredVerifications_le taken loaded.operationId
    have used := (before _ loaded made.found).used
    have same : (steppedOperation loaded .manualIntervention request.occurredAt
        .unchanged).operationId = loaded.operationId := rfl
    refine ⟨by rw [same, counted]; omega, fun state => ?_⟩
    cases state

theorem inconclusives_of_reachable (reachable : Reachable uuid5 s) : InconclusivesJournal s :=
  reachable.induction (fun _ _ found => by cases found)
    fun _ _ _ reachable before taken => before.step reachable taken

/-! ## Execution attempts -/

/-- An attempt keeps its owner and its number. -/
def AttemptNumberKept (row later : ExecutionAttempt) : Prop :=
  later.attemptId = row.attemptId ∧ later.operationId = row.operationId ∧
    later.attemptNumber = row.attemptNumber

theorem AttemptNumberKept.refl (row : ExecutionAttempt) : AttemptNumberKept row row :=
  ⟨rfl, rfl, rfl⟩

theorem AttemptNumberKept.trans {a b c : ExecutionAttempt} (first : AttemptNumberKept a b)
    (second : AttemptNumberKept b c) : AttemptNumberKept a c :=
  ⟨second.1.trans first.1, second.2.1.trans first.2.1, second.2.2.trans first.2.2⟩

private theorem attemptCompleted_evolves {completed? : Option ExecutionAttempt}
    {t t' : Table ExecutionAttempt.attemptId} (completed : AttemptCompleted completed? t t') :
    t.Evolves AttemptNumberKept t' ∧ ∀ operationId : OpaqueId,
      (t'.select fun row => decide (row.operationId = operationId)).length =
        (t.select fun row => decide (row.operationId = operationId)).length := by
  cases completed? with
  | none =>
    obtain rfl : t' = t := completed
    exact ⟨.refl AttemptNumberKept.refl _, fun _ => rfl⟩
  | some attempt =>
    obtain ⟨-, row, accepted, found, -, rfl⟩ := completed
    have only : ∀ old ∈ t.rows, old.attemptId = row.attemptId → old = row :=
      fun old member same => rows_injOn_key _ member (find?_some found).1 same
    refine ⟨evolves_replace AttemptNumberKept.refl fun old member same => ?_, fun _ => ?_⟩
    · obtain rfl := only old member same
      exact ⟨rfl, rfl, rfl⟩
    · rw [select_replace, List.length_map]
      intro old member same
      obtain rfl := only old member same
      rfl

/-- A claim adds an attempt to its operation, numbered by how many there are then. -/
theorem attemptsOf_moved {command : OperationCommand} {loaded : Operation}
    (made : OperationMoved command loaded s s') (operationId : OpaqueId) :
    (s'.attemptsOf operationId).length = (s.attemptsOf operationId).length +
      if command.body.claimedAttempt?.isSome ∧ loaded.operationId = operationId then 1 else 0 := by
  obtain ⟨mid, claimed, completed⟩ := made.related.attempts
  rw [Store.attemptsOf, (attemptCompleted_evolves completed).2, claimed.select, List.length_append,
    Store.attemptsOf]
  congr 1
  cases carried : command.body.claimedAttempt? with
  | none => rfl
  | some attempt =>
    obtain ⟨owner, -⟩ := made.claimedAttempt_checked carried
    by_cases mine : loaded.operationId = operationId <;> simp [owner, mine]

theorem claimedAttempt_numbered {command : OperationCommand} {loaded : Operation}
    (made : OperationMoved command loaded s s') {attempt : ExecutionAttempt}
    (carried : command.body.claimedAttempt? = some attempt) :
    ∃ row ∈ s'.attempts.rows, row.attemptId = attempt.attemptId ∧
      row.operationId = loaded.operationId ∧ row.attemptNumber = attempt.attemptNumber ∧
      row.attemptNumber = (s'.attemptsOf loaded.operationId).length := by
  obtain ⟨mid, claimed, completed⟩ := made.related.attempts
  obtain ⟨owner, -, number, -⟩ := made.claimedAttempt_checked carried
  obtain ⟨row, at_, key, owner', number'⟩ :=
    (attemptCompleted_evolves completed).1 attempt (claimed.mem.mpr (.inr carried))
  refine ⟨row, at_, key, owner'.trans owner, number', ?_⟩
  rw [number', number, attemptsOf_moved made, Store.listAttempts, List.length_insertionSort]
  simp [carried]

/-- An operation that keeps its row keeps the number of its attempts. -/
theorem attemptsOf_kept (taken : JournalStep action s s')
    (kept : s'.operation? operationId = s.operation? operationId) :
    (s'.attemptsOf operationId).length = (s.attemptsOf operationId).length := by
  cases taken with
  | unchanged same => rw [same]
  | created _ _ made => rw [Store.attemptsOf, made.frame, Store.attemptsOf]
  | moved command loaded _ made =>
    rw [attemptsOf_moved made, if_neg, Nat.add_zero]
    rintro ⟨-, rfl⟩
    rw [made.operationId, operation?_replace_stepped made.found made.operations, if_pos rfl,
      made.found, Option.some.injEq] at kept
    have version : loaded.version + 1 = loaded.version := congrArg (·.version) kept
    omega
  | progressed _ _ _ _ made => rw [Store.attemptsOf, made.written.frame, Store.attemptsOf]
  | escalated _ _ made => rw [Store.attemptsOf, made.frame, Store.attemptsOf]
  | republished _ _ _ _ made => rw [Store.attemptsOf, made.frame, Store.attemptsOf]
  | published _ same => rw [Store.attemptsOf, same, Store.attemptsOf]
  | evidencePersisted completed attempts _ same made =>
    rw [Store.attemptsOf, same]
    exact (attemptCompleted_evolves made).2 operationId
  | resultPersisted _ _ same => rw [Store.attemptsOf, same, Store.attemptsOf]

theorem attemptNumbers_evolve (taken : JournalStep action s s') :
    s.attempts.Evolves AttemptNumberKept s'.attempts := by
  have unchanged : s'.attempts = s.attempts → s.attempts.Evolves AttemptNumberKept s'.attempts :=
    fun same => same ▸ .refl AttemptNumberKept.refl _
  cases taken with
  | unchanged same => exact unchanged (by rw [same])
  | created _ _ made => exact unchanged (by rw [made.frame])
  | moved command loaded _ made =>
    obtain ⟨mid, claimed, completed⟩ := made.related.attempts
    exact (claimed.evolves AttemptNumberKept.refl).trans .trans
      (attemptCompleted_evolves completed).1
  | progressed _ _ _ _ made => exact unchanged (by rw [made.written.frame])
  | escalated _ _ made => exact unchanged (by rw [made.frame])
  | republished _ _ _ _ made => exact unchanged (by rw [made.frame])
  | published _ same => exact unchanged (by rw [same])
  | evidencePersisted completed attempts _ same made =>
    rw [same]
    exact (attemptCompleted_evolves made).1
  | resultPersisted _ _ same => exact unchanged (by rw [same])

/-- The operation names its last attempt, whose number is how many there are. -/
def LatestNumbered (s : Store) (operation : Operation) : Prop :=
  s.attemptsOf operation.operationId ≠ [] → ∃ attempt,
    operation.latestAttemptId = some attempt.attemptId ∧ attempt ∈ s.attempts.rows ∧
      attempt.operationId = operation.operationId ∧
      attempt.attemptNumber = (s.attemptsOf operation.operationId).length

/-- While no attempt is claimed, whatever else happens to the operation. -/
private theorem LatestNumbered.later {operation later : Operation}
    (before : LatestNumbered s operation) (taken : JournalStep action s s')
    (id : later.operationId = operation.operationId)
    (latest : later.latestAttemptId = operation.latestAttemptId)
    (same : (s'.attemptsOf operation.operationId).length =
      (s.attemptsOf operation.operationId).length) : LatestNumbered s' later := by
  intro attempted
  have some_ : s.attemptsOf operation.operationId ≠ [] := by
    intro none_
    rw [none_, List.length_nil, List.length_eq_zero_iff] at same
    exact attempted (id ▸ same)
  obtain ⟨attempt, named, member, owner, number⟩ := before some_
  obtain ⟨row, at_, key, owner', number'⟩ := attemptNumbers_evolve taken _ member
  refine ⟨row, by rw [latest, named, key], at_, by rw [owner', owner, id], ?_⟩
  rw [number', number, id, same]

def NumberedJournal (s : Store) : Prop :=
  ∀ id operation, s.operation? id = some operation → LatestNumbered s operation

theorem NumberedJournal.step (authorized : AuthorizedJournal s) (before : NumberedJournal s)
    (taken : JournalStep action s s') : NumberedJournal s' := by
  intro id operation found
  cases taken.operation_origin found with
  | kept same =>
    have key : operation.operationId = id := (find?_some same).2
    subst key
    exact (before _ operation same).later taken rfl rfl
      (attemptsOf_kept taken (found.trans same.symm))
  | created command _ made row absent =>
    subst row
    have key : command.operation.operationId = id := (find?_some found).2
    intro attempted
    obtain ⟨attempt, member⟩ := List.exists_mem_of_ne_nil _ attempted
    obtain ⟨stored, owner⟩ := mem_select.mp member
    rw [made.frame] at stored
    obtain ⟨other, at_, -⟩ := authorized.attempted attempt stored
    rw [of_decide_eq_true owner, key, absent] at at_
    cases at_
  | moved command loaded _ made row =>
    subst row
    cases carried : command.body.claimedAttempt? with
    | none =>
      refine (before _ loaded made.found).later taken rfl ?_ ?_
      · simp [movedOperation, steppedOperation, pointersForKind, carried]
      · simp [attemptsOf_moved made, carried]
    | some attempt =>
      obtain ⟨row, at_, key, owner, -, number⟩ := claimedAttempt_numbered made carried
      refine fun _ => ⟨row, ?_, at_, owner, number⟩
      simp [movedOperation, steppedOperation, pointersForKind, carried, key]
  | escalated request loaded made row =>
    subst row
    have same : (s'.attemptsOf loaded.operationId).length =
        (s.attemptsOf loaded.operationId).length := by rw [made.frame]; rfl
    exact (before _ loaded made.found).later taken rfl rfl same

theorem numbered_of_reachable (reachable : Reachable uuid5 s) : NumberedJournal s :=
  reachable.induction (fun _ _ found => by cases found)
    fun _ _ _ reachable before taken =>
      before.step (authorizedJournal_of_reachable reachable) taken

/-- The attempt an operation names as its latest is numbered no lower than how many there are. -/
theorem attemptsOf_le_latest (reachable : Reachable uuid5 s) {operation : Operation}
    (found : s.operation? operationId = some operation) {attempt : ExecutionAttempt}
    (named : operation.latestAttemptId = some attempt.attemptId)
    (stored : s.attempt? attempt.attemptId = some attempt) :
    (s.attemptsOf operationId).length ≤ attempt.attemptNumber := by
  have key : operation.operationId = operationId := (find?_some found).2
  by_cases none_ : s.attemptsOf operationId = []
  · simp [none_]
  · obtain ⟨row, named', member, -, number⟩ :=
      numbered_of_reachable reachable _ operation found (key ▸ none_)
    have same : row.attemptId = attempt.attemptId := Option.some.inj (named'.symm.trans named)
    obtain rfl := rows_injOn_key _ member (find?_some stored).1 same
    rw [number, key]

private theorem le_getLast_of_listed {α : Type} {f : α → Nat} {l : List α} {a : α}
    (sorted : l.Pairwise fun a b => f a ≤ f b) (member : a ∈ l) :
    f a ≤ (l.getLast?.map f).getD 0 := by
  cases at_ : l.getLast? with
  | none => simp [List.getLast?_eq_none_iff.mp at_] at member
  | some last =>
    obtain ⟨init, rfl⟩ := List.getLast?_eq_some_iff.mp at_
    obtain ⟨-, -, across⟩ := List.pairwise_append.mp sorted
    obtain early | late := List.mem_append.mp member
    · exact across a early last (List.mem_singleton.mpr rfl)
    · exact le_of_eq (congrArg f (List.mem_singleton.mp late))

/-- So is the last one listed. -/
theorem attemptsOf_le_last (reachable : Reachable uuid5 s) {operation : Operation}
    (found : s.operation? operationId = some operation) :
    (s.attemptsOf operationId).length ≤
      ((s.listAttempts operationId).getLast?.map (·.attemptNumber)).getD 0 := by
  have key : operation.operationId = operationId := (find?_some found).2
  by_cases none_ : s.attemptsOf operationId = []
  · simp [none_]
  obtain ⟨row, -, member, owner, number⟩ :=
    numbered_of_reachable reachable _ operation found (key ▸ none_)
  have listed : row ∈ s.listAttempts operationId :=
    (List.mem_insertionSort _).mpr (mem_select.mpr ⟨member, decide_eq_true (owner.trans key)⟩)
  rw [key] at number
  rw [← number]
  exact le_getLast_of_listed (f := (·.attemptNumber))
    (List.pairwise_insertionSort (fun a b : ExecutionAttempt =>
      a.attemptNumber ≤ b.attemptNumber) (s.attemptsOf operationId)) listed

/-! ## Attempts of a compensation record -/

/-- A compensation attempt keeps its record and its number. -/
def CompensationNumberKept (row later : CompensationAttempt) : Prop :=
  later.compensationAttemptId = row.compensationAttemptId ∧
    later.compensationId = row.compensationId ∧ later.attemptNumber = row.attemptNumber

theorem CompensationNumberKept.refl (row : CompensationAttempt) :
    CompensationNumberKept row row := ⟨rfl, rfl, rfl⟩

theorem compensationCompleted_evolves {completed? : Option CompensationAttempt}
    {t t' : Table CompensationAttempt.compensationAttemptId}
    (completed : CompensationAttemptCompleted completed? t t') :
    t.Evolves CompensationNumberKept t' ∧ ∀ compensationId : OpaqueId,
      (t'.select fun row => decide (row.compensationId = compensationId)).length =
        (t.select fun row => decide (row.compensationId = compensationId)).length := by
  cases completed? with
  | none =>
    obtain rfl : t' = t := completed
    exact ⟨.refl CompensationNumberKept.refl _, fun _ => rfl⟩
  | some attempt =>
    obtain ⟨-, row, found, -, rfl⟩ := completed
    have only : ∀ old ∈ t.rows, old.compensationAttemptId = row.compensationAttemptId →
        old = row := fun old member same => rows_injOn_key _ member (find?_some found).1 same
    refine ⟨evolves_replace CompensationNumberKept.refl fun old member same => ?_, fun _ => ?_⟩
    · obtain rfl := only old member same
      exact ⟨rfl, rfl, rfl⟩
    · rw [select_replace, List.length_map]
      intro old member same
      obtain rfl := only old member same
      rfl

/-- What a step does to the attempts of records: they keep their numbers, and one is added where
a record is progressed by a new attempt, numbered by how many there are then. -/
inductive RecordAttemptsStep (action : JournalAction) (s s' : Store) : Prop where
  | kept (evolves : s.compensationAttempts.Evolves CompensationNumberKept
        s'.compensationAttempts)
      (counts : ∀ id, (s'.compensationAttemptsOf id).length = (s.compensationAttemptsOf id).length)
  | added (progress : Progress) (command : TransitionCommand) (attempt : CompensationAttempt)
      (asked : action = .transition command)
      (checked : Progressing s progress.loaded progress.compensation command)
      (made : progress.Made s s') (carried : progress.attempt? = some attempt)
      (member : attempt ∈ s'.compensationAttempts.rows)
      (evolves : s.compensationAttempts.Evolves CompensationNumberKept s'.compensationAttempts)
      (counts : ∀ id, (s'.compensationAttemptsOf id).length =
        (s.compensationAttemptsOf id).length +
          if progress.compensation.compensationId = id then 1 else 0)

theorem recordAttemptsStep_of (taken : JournalStep action s s') :
    RecordAttemptsStep action s s' := by
  cases compensationAttemptsStep_of taken with
  | completed completed? made =>
    obtain ⟨evolves, counts⟩ := compensationCompleted_evolves made
    exact .kept evolves counts
  | claimed progress command asked checked made =>
    obtain ⟨mid, completed, inserted⟩ := made.written.compensationAttempts
    obtain ⟨evolves, counts⟩ := compensationCompleted_evolves completed
    have later : Evolves CompensationNumberKept s.compensationAttempts s'.compensationAttempts :=
      evolves.trans (fun first second => ⟨second.1.trans first.1, second.2.1.trans first.2.1,
        second.2.2.trans first.2.2⟩) (inserted.evolves CompensationNumberKept.refl)
    cases carried : progress.attempt? with
    | none =>
      refine .kept later fun id => ?_
      have same := counts id
      rw [Store.compensationAttemptsOf, inserted.select, carried]
      simpa [Store.compensationAttemptsOf] using same
    | some attempt =>
      obtain ⟨record, -⟩ := made.checked.attempt attempt carried
      refine .added progress command attempt asked checked made carried
        (inserted.mem.mpr (.inr carried)) later fun id => ?_
      rw [Store.compensationAttemptsOf, inserted.select, carried, List.length_append, counts,
        Store.compensationAttemptsOf]
      by_cases mine : progress.compensation.compensationId = id <;> simp [record, mine]

/-- Attempts belong to stored records; a PENDING record has none, and of the others' one is
numbered by how many there are. -/
structure RecordAttempts (s : Store) : Prop where
  owned : ∀ row ∈ s.compensationAttempts.rows, ∃ record,
    s.compensation? row.compensationId = some record
  pending : ∀ id record, s.compensation? id = some record → record.state = .pending →
    s.compensationAttemptsOf id = []
  numbered : ∀ id, s.compensationAttemptsOf id ≠ [] → ∃ row ∈ s.compensationAttempts.rows,
    row.compensationId = id ∧ row.attemptNumber = (s.compensationAttemptsOf id).length

theorem compensation?_later (taken : JournalStep action s s') {id : OpaqueId}
    {record : Compensation} (found : s.compensation? id = some record) :
    ∃ later, s'.compensation? id = some later ∧ CompensationKept record later :=
  (compensations_evolve (compensationsStep_of taken)).find? (·.1) found

/-- A record that is PENDING after a step was PENDING before, or not there. -/
private theorem pending_before (taken : JournalStep action s s') {id : OpaqueId}
    {old record : Compensation} (found : s.compensation? id = some old)
    (later : s'.compensation? id = some record) (pending : record.state = .pending) :
    old.state = .pending := by
  obtain ⟨row, at_, -, -, kept⟩ := compensation?_later taken found
  obtain rfl : row = record := Option.some.inj (at_.symm.trans later)
  obtain same | legal := kept
  · rw [← same, pending]
  · rw [pending] at legal
    cases state : old.state <;> rw [state] at legal <;> cases legal

theorem RecordAttempts.empty : RecordAttempts .empty where
  owned _ member := by cases member
  pending _ _ found := by cases found
  numbered _ attempted := absurd rfl attempted

theorem RecordAttempts.step (before : RecordAttempts s) (taken : JournalStep action s s') :
    RecordAttempts s' where
  owned := by
    intro row member
    obtain ⟨old, stored, same⟩ | ⟨progress, made, same⟩ :=
      (compensationAttemptsStep_of taken).owner member
    · obtain ⟨record, found⟩ := before.owned old stored
      obtain ⟨later, at_, -⟩ := compensation?_later taken found
      exact ⟨later, same ▸ at_⟩
    · obtain ⟨later, at_, -⟩ := compensation?_later taken made.record
      exact ⟨later, same ▸ at_⟩
  pending := by
    intro id record found pending
    have none_ : s.compensationAttemptsOf id = [] := by
      cases at_ : s.compensation? id with
      | some old => exact before.pending id old at_ (pending_before taken at_ found pending)
      | none =>
        refine List.eq_nil_iff_forall_not_mem.mpr fun row member => ?_
        obtain ⟨stored, owner⟩ := mem_select.mp member
        obtain ⟨old, present⟩ := before.owned row stored
        rw [of_decide_eq_true owner, at_] at present
        cases present
    refine List.length_eq_zero_iff.mp ?_
    cases recordAttemptsStep_of taken with
    | kept evolves counts => rw [counts, none_, List.length_nil]
    | added progress command attempt asked checked made carried member evolves counts =>
      rw [counts, none_, if_neg, List.length_nil]
      rintro rfl
      rw [compensation?_replace_stepped made.record made.written.compensations.2.2, if_pos rfl,
        Option.some.injEq] at found
      rw [← found] at pending
      have moved : progress.newState = .pending := pending
      obtain state | state := made.checked.state <;> rw [state] at moved <;> cases moved
  numbered := by
    intro id attempted
    -- an old attempt still has its number when none was added
    have stays : s.compensationAttempts.Evolves CompensationNumberKept s'.compensationAttempts →
        (s'.compensationAttemptsOf id).length = (s.compensationAttemptsOf id).length →
        ∃ row ∈ s'.compensationAttempts.rows, row.compensationId = id ∧
          row.attemptNumber = (s'.compensationAttemptsOf id).length := by
      intro evolves same
      have some_ : s.compensationAttemptsOf id ≠ [] := by
        intro none_
        rw [none_, List.length_nil, List.length_eq_zero_iff] at same
        exact attempted same
      obtain ⟨row, member, owner, number⟩ := before.numbered id some_
      obtain ⟨later, at_, -, owner', number'⟩ := evolves row member
      exact ⟨later, at_, owner'.trans owner, by rw [number', number, same]⟩
    cases recordAttemptsStep_of taken with
    | kept evolves counts => exact stays evolves (counts id)
    | added progress command attempt asked checked made carried member evolves counts =>
      by_cases mine : progress.compensation.compensationId = id
      · obtain ⟨record, -, number⟩ := made.checked.attempt attempt carried
        refine ⟨attempt, member, record.trans mine, ?_⟩
        rw [number, counts, if_pos mine, Store.listCompensationAttempts,
          List.length_insertionSort, mine]
      · exact stays evolves (by rw [counts, if_neg mine, Nat.add_zero])

theorem recordAttempts_of_reachable (reachable : Reachable uuid5 s) : RecordAttempts s :=
  reachable.invariant .empty fun _ _ _ before taken => before.step taken

/-- The last attempt of a record is numbered no lower than how many there are. -/
theorem compensationAttemptsOf_le_last (attempts : RecordAttempts s) (id : OpaqueId) :
    (s.compensationAttemptsOf id).length ≤
      ((s.listCompensationAttempts id).getLast?.map (·.attemptNumber)).getD 0 := by
  by_cases none_ : s.compensationAttemptsOf id = []
  · simp [none_]
  obtain ⟨row, member, owner, number⟩ := attempts.numbered id none_
  have listed : row ∈ s.listCompensationAttempts id :=
    (List.mem_insertionSort _).mpr (mem_select.mpr ⟨member, decide_eq_true owner⟩)
  rw [← number]
  exact le_getLast_of_listed (f := (·.attemptNumber))
    (List.pairwise_insertionSort (fun a b : CompensationAttempt =>
      a.attemptNumber ≤ b.attemptNumber) (s.compensationAttemptsOf id)) listed

/-! ## Before the policy decision -/

/-- An operation that waits for its policy decision has not moved. -/
def PendingUnmoved (s : Store) : Prop :=
  ∀ id operation, s.operation? id = some operation → operation.state = .pendingPolicy →
    operation.version = 1

theorem PendingUnmoved.step (before : PendingUnmoved s) (taken : JournalStep action s s') :
    PendingUnmoved s' := by
  intro id operation found pending
  cases taken.operation_origin found with
  | kept same => exact before id operation same pending
  | created command _ made row => exact row ▸ made.version
  | moved command loaded _ made row =>
    subst row
    have target : command.kind.edge.2 = .pendingPolicy := pending
    have source := made.source
    cases kind : command.kind <;> rw [kind] at target source <;> cases target
    cases source
  | escalated _ _ _ row =>
    rw [row] at pending
    cases pending

theorem pendingUnmoved_of_reachable (reachable : Reachable uuid5 s) : PendingUnmoved s :=
  reachable.invariant (fun _ _ found => by cases found) fun _ _ _ before taken => before.step taken

theorem movesBetween_of_pendingPolicy (reachable : Reachable uuid5 s) {operation : Operation}
    (found : s.operation? operationId = some operation)
    (pending : operation.state = .pendingPolicy) (source target : OperationState) :
    movesBetween s operationId source target = 0 := by
  obtain ⟨-, version, -⟩ := version_matches_audit_chain reachable found
  rw [pendingUnmoved_of_reachable reachable _ _ found pending] at version
  have none_ : transitionsOf (s.auditEventsOf operationId) = [] :=
    List.length_eq_zero_iff.mp (by omega)
  rw [movesBetween, none_]
  rfl

theorem attemptsOf_of_unauthorized (reachable : Reachable uuid5 s) {operation : Operation}
    (found : s.operation? operationId = some operation)
    (waits : operation.state = .pendingPolicy ∨ operation.state = .awaitingApproval) :
    s.attemptsOf operationId = [] := by
  refine List.eq_nil_iff_forall_not_mem.mpr fun attempt member => ?_
  obtain ⟨stored, owner⟩ := mem_select.mp member
  obtain ⟨other, at_, -, decided, approved⟩ :=
    (authorizedJournal_of_reachable reachable).attempted attempt stored
  obtain rfl : operation = other := by
    rw [of_decide_eq_true owner, found] at at_
    exact Option.some.inj at_
  exact waits.elim decided approved

/-- The operation of a compensation record is past its policy decision. -/
def RecordsOwned (s : Store) : Prop :=
  ∀ id record, s.compensation? id = some record → ∃ operation,
    s.operation? record.originalOperationId = some operation ∧ 1 < operation.version

/-- A record appears with a command that starts it for its operation. -/
theorem compensation?_fresh (taken : JournalStep action s s') {id : OpaqueId}
    {record : Compensation} (absent : s.compensation? id = none)
    (found : s'.compensation? id = some record) :
    ∃ command loaded, OperationMoved command loaded s s' ∧
      command.body.startedCompensation? = some record ∧
      record.originalOperationId = loaded.operationId := by
  have stepped : ∀ {row state updatedAt}, s.compensation? row.compensationId = some row →
      s'.compensations = s.compensations.replace (steppedCompensation row state updatedAt) →
      False := by
    intro row state updatedAt there replaced
    rw [compensation?_replace_stepped there replaced] at found
    split at found
    next same => rw [same, absent] at there; cases there
    · rw [absent] at found; cases found
  cases compensationsStep_of taken with
  | kept same =>
    rw [Store.compensation?, same] at found
    exact absurd (absent.symm.trans found) (by simp)
  | started command loaded row asked made carried inserted =>
    rw [Store.compensation?, find?_insert inserted] at found
    split at found
    · cases found
      exact ⟨command, loaded, made, carried, (made.startedCompensation_owner carried).1⟩
    · exact absurd (absent.symm.trans found) (by simp)
  | moved _ _ row _ _ _ _ there _ _ replaced => exact (stepped there replaced).elim
  | progressed progress _ _ _ made replaced => exact (stepped made.record replaced).elim

theorem RecordsOwned.step (before : RecordsOwned s) (positive : ∀ id operation,
    s.operation? id = some operation → 1 ≤ operation.version) (taken : JournalStep action s s') :
    RecordsOwned s' := by
  intro id record found
  cases at_ : s.compensation? id with
  | some row =>
    obtain ⟨later, there, -, same, -⟩ := compensation?_later taken at_
    obtain rfl : later = record := Option.some.inj (there.symm.trans found)
    obtain ⟨operation, owner, moved⟩ := before id row at_
    obtain ⟨after, there', rfl | newer⟩ := operation_later taken owner
    · exact ⟨after, same ▸ there', moved⟩
    · exact ⟨after, same ▸ there', by omega⟩
  | none =>
    obtain ⟨command, loaded, made, -, owner⟩ := compensation?_fresh taken at_ found
    have moved := operation?_replace_stepped made.found made.operations loaded.operationId
    rw [if_pos made.operationId.symm] at moved
    have version := positive _ loaded made.found
    exact ⟨_, owner ▸ moved, Nat.lt_succ_of_le version⟩

theorem recordsOwned_of_reachable (reachable : Reachable uuid5 s) : RecordsOwned s := by
  refine reachable.induction (fun _ _ found => by cases found) ?_
  intro action s s' reachable before taken
  refine RecordsOwned.step before (fun id operation found => ?_) taken
  obtain ⟨-, version, -⟩ := version_matches_audit_chain reachable found
  omega

/-! ## Later journals -/

/-- What a later journal has of the rows and counts of this one.  Operations and records keep
their row or get a later version, and with the row they keep their counts. -/
structure Later (s s' : Store) : Prop where
  operations : ∀ id operation, s.operation? id = some operation → ∃ later,
    s'.operation? id = some later ∧ (operation.version < later.version ∨
      later = operation ∧ (s'.attemptsOf id).length = (s.attemptsOf id).length ∧
        movesBetween s' id .verifying .unknown = movesBetween s id .verifying .unknown)
  records : ∀ id record, s.compensation? id = some record → ∃ later,
    s'.compensation? id = some later ∧ (record.version < later.version ∨
      later = record ∧
        (s'.compensationAttemptsOf id).length = (s.compensationAttemptsOf id).length)
  final : WriteOnce s s'
  numbers : s.attempts.Evolves AttemptNumberKept s'.attempts

theorem Later.refl (s : Store) : Later s s where
  operations _ operation found := ⟨operation, found, .inr ⟨rfl, rfl, rfl⟩⟩
  records _ record found := ⟨record, found, .inr ⟨rfl, rfl⟩⟩
  final := .refl s
  numbers := .refl AttemptNumberKept.refl _

theorem Later.trans {s t u : Store} (first : Later s t) (second : Later t u) : Later s u where
  operations := by
    intro id operation found
    obtain ⟨middle, there, moved⟩ := first.operations id operation found
    obtain ⟨later, at_, moved'⟩ := second.operations id middle there
    refine ⟨later, at_, ?_⟩
    obtain newer | ⟨rfl, attempts, moves⟩ := moved <;>
      obtain newer' | ⟨rfl, attempts', moves'⟩ := moved'
    · exact .inl (by omega)
    · exact .inl newer
    · exact .inl newer'
    · exact .inr ⟨rfl, attempts'.trans attempts, moves'.trans moves⟩
  records := by
    intro id record found
    obtain ⟨middle, there, moved⟩ := first.records id record found
    obtain ⟨later, at_, moved'⟩ := second.records id middle there
    refine ⟨later, at_, ?_⟩
    obtain newer | ⟨rfl, attempts⟩ := moved <;> obtain newer' | ⟨rfl, attempts'⟩ := moved'
    · exact .inl (by omega)
    · exact .inl newer
    · exact .inl newer'
    · exact .inr ⟨rfl, attempts'.trans attempts⟩
  final := first.final.trans second.final
  numbers := first.numbers.trans .trans second.numbers

/-- A record keeps its row or gets a later version. -/
theorem record_later (taken : JournalStep action s s') {id : OpaqueId} {record : Compensation}
    (found : s.compensation? id = some record) :
    ∃ later, s'.compensation? id = some later ∧ (record.version < later.version ∨
      later = record ∧
        (s'.compensationAttemptsOf id).length = (s.compensationAttemptsOf id).length) := by
  have stepped : ∀ {row state updatedAt}, s.compensation? row.compensationId = some row →
      s'.compensations = s.compensations.replace (steppedCompensation row state updatedAt) →
      row.compensationId = id → ∃ later, s'.compensation? id = some later ∧
        record.version < later.version := by
    rintro row state updatedAt there replaced rfl
    obtain rfl : row = record := Option.some.inj (there.symm.trans found)
    rw [compensation?_replace_stepped there replaced, if_pos rfl]
    exact ⟨_, rfl, Nat.lt_succ_self _⟩
  obtain ⟨later, at_, -⟩ := compensation?_later taken found
  refine ⟨later, at_, ?_⟩
  by_cases kept : later = record
  · subst kept
    cases recordAttemptsStep_of taken with
    | kept evolves counts => exact .inr ⟨rfl, counts id⟩
    | added progress command attempt asked checked made carried member evolves counts =>
      by_cases mine : progress.compensation.compensationId = id
      · obtain ⟨_, there, newer⟩ := stepped made.record made.written.compensations.2.2 mine
        rw [at_, Option.some.injEq] at there
        exact .inl (there ▸ newer)
      · exact .inr ⟨rfl, by rw [counts, if_neg mine, Nat.add_zero]⟩
  · left
    have newer : ∀ {row state updatedAt}, s.compensation? row.compensationId = some row →
        s'.compensations = s.compensations.replace (steppedCompensation row state updatedAt) →
        record.version < later.version := by
      intro row state updatedAt there replaced
      by_cases mine : row.compensationId = id
      · obtain ⟨_, there', newer⟩ := stepped there replaced mine
        rw [at_, Option.some.injEq] at there'
        exact there' ▸ newer
      · rw [compensation?_replace_stepped there replaced, if_neg mine, found] at at_
        exact absurd (Option.some.inj at_).symm kept
    cases compensationsStep_of taken with
    | kept same =>
      rw [Store.compensation?, same] at at_
      exact absurd (Option.some.inj (at_.symm.trans found)) kept
    | started command loaded row asked made carried inserted =>
      have added : Inserted (some row) s.compensations s'.compensations := inserted
      exact absurd (Option.some.inj (at_.symm.trans (added.find?_of_some found))) kept
    | moved _ _ row _ _ _ _ there _ _ replaced => exact newer there replaced
    | progressed progress _ _ _ made replaced => exact newer made.record replaced

theorem Later.step (taken : JournalStep action s s') : Later s s' where
  operations := by
    intro id operation found
    obtain ⟨later, at_, rfl | newer⟩ := operation_later taken found
    · have kept : s'.operation? id = s.operation? id := at_.trans found.symm
      exact ⟨later, at_, .inr ⟨rfl, attemptsOf_kept taken kept, movesBetween_kept taken kept⟩⟩
    · exact ⟨later, at_, .inl newer⟩
  records _ _ found := record_later taken found
  final := .step taken
  numbers := attemptNumbers_evolve taken

theorem Later.run (uuid5 : String → OpaqueId) (s : Store) (actions : List JournalAction) :
    Later s (Stateback.run uuid5 s actions) := by
  have step : ∀ action t t', Later s t → True → JournalStep action t t' → Later s t' :=
    fun _ _ _ before _ taken => before.trans (.step taken)
  exact run_preserves step actions (stepwise_true uuid5 s actions) (.refl s)

end Stateback.Invariants
