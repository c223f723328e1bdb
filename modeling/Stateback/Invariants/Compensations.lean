import Stateback.Invariants.Attempts
/-!
# Compensation records and their parents

An operation in a compensation state names one record of its own, and the two state machines move
together.  An escalation takes the operation away and leaves the record; a manual restart names a
new record and leaves the old one.  The commands that move the operation check that the record is
the named one, the four progress commands only that it is one of the operation's.
-/

namespace Stateback.Invariants

open Domain Persistence Transitions KeyedTable KeyedTable.Table Transaction

variable {s s' : Store} {action : JournalAction}

/-! ## What a step does to the records -/

/-- The writes of a step to the compensation records. -/
inductive CompensationsStep (action : JournalAction) (s s' : Store) : Prop where
  | kept (same : s'.compensations = s.compensations)
  | started (command : OperationCommand) (loaded : Operation) (compensation : Compensation)
      (asked : action = .transition (.operation command))
      (made : OperationMoved command loaded s s')
      (carried : command.body.startedCompensation? = some compensation)
      (inserted : s.compensations.insert? compensation = some s'.compensations)
  | moved (command : OperationCommand) (loaded : Operation) (compensation : Compensation)
      (state : CompensationState) (asked : action = .transition (.operation command))
      (made : OperationMoved command loaded s s')
      (moves : compensationTargetState? command.kind = some state)
      (found : s.compensation? compensation.compensationId = some compensation)
      (checked : CompensationChecked command.kind loaded compensation)
      (legal : evaluateCompensationTransition compensation.state state = true ∨
        compensation.state = state)
      (replaced : s'.compensations =
        s.compensations.replace (steppedCompensation compensation state command.occurredAt))
  | progressed (progress : Progress) (command : TransitionCommand)
      (asked : action = .transition command)
      (checked : Progressing s progress.loaded progress.compensation command)
      (made : progress.Made s s')
      (replaced : s'.compensations = s.compensations.replace
        (steppedCompensation progress.compensation progress.newState progress.occurredAt))

/-- No command both starts a record and moves one. -/
theorem startedCompensation?_eq_none {body : CommandBody} {state : CompensationState}
    (moves : compensationTargetState? body.kind = some state) :
    body.startedCompensation? = none := by
  cases body <;> first | rfl | cases moves

theorem compensationsStep_of (taken : JournalStep action s s') : CompensationsStep action s s' := by
  cases taken with
  | unchanged same => exact .kept (by rw [same])
  | created _ _ made => exact .kept (by rw [made.frame])
  | moved command loaded asked made =>
    obtain ⟨mid, started, moved⟩ := made.related.compensations
    unfold CompensationMoved at moved
    cases moves : compensationTargetState? command.kind with
    | none =>
      rw [moves] at moved
      obtain rfl : s'.compensations = mid := moved
      cases carried : command.body.startedCompensation? with
      | none =>
        rw [carried] at started
        exact .kept started
      | some compensation =>
        rw [carried] at started
        exact .started command loaded compensation asked made carried started
    | some state =>
      rw [startedCompensation?_eq_none moves] at started
      obtain rfl : mid = s.compensations := started
      cases record : movedCompensation command (loadRelated s command loaded) with
      | none =>
        rw [moves, record] at moved
        exact .kept moved
      | some compensation =>
        rw [moves, record] at moved
        obtain ⟨found, checked, running, -⟩ := made.movedCompensation_checked moves record
        exact .moved command loaded compensation state asked made moves found checked
          (checked.target state running moves).2 moved.2.2
  | progressed progress command asked checked made =>
    exact .progressed progress command asked checked made made.written.compensations.2.2
  | escalated _ _ made => exact .kept (by rw [made.frame])
  | republished _ _ _ _ made => exact .kept (by rw [made.frame])
  | published _ same => exact .kept (by rw [same])
  | evidencePersisted _ _ _ same => exact .kept (by rw [same])
  | resultPersisted _ _ same => exact .kept (by rw [same])

theorem compensation?_replace_stepped {compensation : Compensation} {state : CompensationState}
    {updatedAt : UtcTimestamp}
    (found : s.compensation? compensation.compensationId = some compensation)
    (replaced : s'.compensations =
      s.compensations.replace (steppedCompensation compensation state updatedAt))
    (id : OpaqueId) :
    s'.compensation? id =
      if compensation.compensationId = id then
        some (steppedCompensation compensation state updatedAt)
      else s.compensation? id := by
  have key : (steppedCompensation compensation state updatedAt).compensationId =
      compensation.compensationId := rfl
  rw [Store.compensation?, replaced, find?_replace, key]
  split
  next same =>
    subst same
    rw [show s.compensations.find? _ = some compensation from found, Option.map_some]
  next => rfl

/-- A record keeps its identity and parent, and stays in its state or takes a legal edge. -/
def CompensationKept (row later : Compensation) : Prop :=
  later.compensationId = row.compensationId ∧
    later.originalOperationId = row.originalOperationId ∧
    (later.state = row.state ∨ evaluateCompensationTransition row.state later.state = true)

theorem CompensationKept.refl (row : Compensation) : CompensationKept row row :=
  ⟨rfl, rfl, .inl rfl⟩

private theorem stepped_evolves {t : Table Compensation.compensationId}
    {compensation : Compensation} {state : CompensationState} {updatedAt : UtcTimestamp}
    (found : t.find? compensation.compensationId = some compensation)
    (legal : evaluateCompensationTransition compensation.state state = true ∨
      compensation.state = state) :
    t.Evolves CompensationKept
      (t.replace (steppedCompensation compensation state updatedAt)) := by
  refine evolves_replace CompensationKept.refl fun old member same => ?_
  obtain rfl := rows_injOn_key _ member (find?_some found).1 same
  exact ⟨rfl, rfl, legal.symm.imp_left Eq.symm⟩

theorem compensations_evolve (step : CompensationsStep action s s') :
    s.compensations.Evolves CompensationKept s'.compensations := by
  cases step with
  | kept same => exact same ▸ Evolves.refl CompensationKept.refl _
  | started command loaded compensation asked made carried inserted =>
    have added : Inserted (some compensation) s.compensations s'.compensations := inserted
    exact added.evolves CompensationKept.refl
  | moved command loaded compensation state asked made moves found checked legal replaced =>
    rw [replaced]
    exact stepped_evolves found legal
  | progressed progress command asked checked made replaced =>
    rw [replaced]
    exact stepped_evolves made.record made.checked.legal

/-- Every change of a record's state is a legal edge. -/
theorem compensation_edge (taken : JournalStep action s s') {compensationId : OpaqueId}
    {before after : Compensation} (found : s.compensation? compensationId = some before)
    (later : s'.compensation? compensationId = some after) (changed : after.state ≠ before.state) :
    (before.state, after.state) ∈ legalCompensationTransitions := by
  obtain ⟨row, at_, -, -, same | legal⟩ :=
    (compensations_evolve (compensationsStep_of taken)).find? (·.1) found
  · rw [show s'.compensation? compensationId = some row from at_, Option.some.injEq] at later
    exact absurd (later ▸ same) changed
  · rw [show s'.compensation? compensationId = some row from at_, Option.some.injEq] at later
    rw [← later]
    simpa [evaluateCompensationTransition] using legal

/-! ## The named record -/

/-- The operation names a stored record of its own, in the state that maps to its own. -/
def Compensates (s : Store) (operation : Operation) : Prop :=
  ∃ compensation, operation.compensationId = some compensation.compensationId ∧
    s.compensation? compensation.compensationId = some compensation ∧
    compensation.originalOperationId = operation.operationId ∧
    parentForCompensationState compensation.state = operation.state

/-- The states a compensation record maps to. -/
def compensationOperationStates : List OperationState :=
  [.compensating, .compensationUnknown, .compensated, .compensationFailed]

def ConsistentJournal (s : Store) : Prop :=
  ∀ id operation, s.operation? id = some operation →
    operation.state ∈ compensationOperationStates → Compensates s operation

theorem ConsistentJournal.empty : ConsistentJournal .empty := by
  intro id operation found
  cases found

/-- What leads to a compensation state: a start, or a move of the named record. -/
theorem compensation_by {body : CommandBody}
    (target : body.kind.edge.2 ∈ compensationOperationStates) :
    (body.kind.edge.2 = .compensating ∧ ∃ compensation,
        body.startedCompensation? = some compensation) ∨
      (body.startedCompensation? = none ∧
        body.kind.edge.1 ∈ OperationMoved.compensationStates.map some ∧
        body.kind ∉ escalateKinds ∧ ∃ state, compensationTargetState? body.kind = some state) := by
  cases body with
  | succeededStartCompensation compensation => exact .inl ⟨rfl, compensation, rfl⟩
  | failedStartCompensation compensation => exact .inl ⟨rfl, compensation, rfl⟩
  | manualStartCompensation compensation => exact .inl ⟨rfl, compensation, rfl⟩
  | compensationApplied | compensationOutcomeUnknown | compensationOutcomeFailed
  | compensationUnknownRetry | compensationUnknownApplied | compensationUnknownFailed
  | compensationFailedRetry =>
    exact .inr ⟨rfl, by simp [CommandBody.kind, TransitionKind.edge,
      OperationMoved.compensationStates], by simp [CommandBody.kind, escalateKinds], _, rfl⟩
  | _ => exact absurd target (by simp [CommandBody.kind, TransitionKind.edge,
      compensationOperationStates])

/-- After a command that leads to a compensation state, the operation and its record agree. -/
theorem compensates_of_moved {command : OperationCommand} {loaded : Operation}
    (made : OperationMoved command loaded s s')
    (target : command.kind.edge.2 ∈ compensationOperationStates) :
    Compensates s' (movedOperation command loaded) := by
  obtain ⟨mid, started, moved⟩ := made.related.compensations
  obtain ⟨compensating, compensation, carried⟩ | ⟨plain, source, running, state, moves⟩ :=
    compensation_by target
  · obtain ⟨owner, pending⟩ := made.startedCompensation_owner carried
    have still : s'.compensations = mid := by
      unfold CompensationMoved at moved
      cases moves : compensationTargetState? command.kind with
      | none => rwa [moves] at moved
      | some state =>
        rw [startedCompensation?_eq_none moves] at carried
        cases carried
    rw [carried] at started
    refine ⟨compensation, ?_, ?_, owner, ?_⟩
    · simp [movedOperation, steppedOperation, pointersForKind, carried]
    · rw [Store.compensation?, still]
      exact (find?_insert started _).trans (if_pos rfl)
    · rw [pending]
      exact compensating.symm
  · have inside : loaded.state ∈ OperationMoved.compensationStates := by
      rw [show command.body.kind.edge.1 = some loaded.state from made.source] at source
      simpa using source
    obtain ⟨_, _, _, _, _, checked, -⟩ := made.compensation_checked inside
    obtain ⟨compensation, found, known, -⟩ := checkCompensationOutcome_none checked
    have record : movedCompensation command (loadRelated s command loaded) = some compensation := by
      simp [movedCompensation, plain, loadRelated, found]
    have target := known.target state running moves
    obtain ⟨at_, -⟩ := made.movedCompensation_checked moves record
    rw [plain] at started
    obtain rfl : mid = s.compensations := started
    unfold CompensationMoved at moved
    rw [show compensationTargetState? command.kind = some state from moves, record] at moved
    obtain ⟨-, -, replaced⟩ := moved
    refine ⟨steppedCompensation compensation state command.occurredAt, ?_, ?_, known.parent,
      target.1.symm⟩
    · simp [movedOperation, steppedOperation, pointersForKind, plain, known.named,
        steppedCompensation]
    · exact (compensation?_replace_stepped at_ replaced _).trans (if_pos rfl)

/-- A step that leaves the operation alone leaves it and its record agreed. -/
theorem Compensates.kept {operation : Operation} {id : OpaqueId} (before : Compensates s operation)
    (taken : JournalStep action s s') (found : s.operation? id = some operation)
    (later : s'.operation? id = some operation) : Compensates s' operation := by
  obtain ⟨compensation, named, at_, parent, agrees⟩ := before
  have key : operation.operationId = id := (find?_some found).2
  cases compensationsStep_of taken with
  | kept same => exact ⟨compensation, named, by rw [Store.compensation?, same]; exact at_, parent,
      agrees⟩
  | started command loaded new asked made carried inserted =>
    have added : Inserted (some new) s.compensations s'.compensations := inserted
    exact ⟨compensation, named, added.find?_of_some at_, parent, agrees⟩
  | moved command loaded record state asked made moves there checked legal replaced =>
    by_cases same : record.compensationId = compensation.compensationId
    · rw [same, at_, Option.some.injEq] at there
      subst there
      -- the record is the loaded operation's, and that operation moves to a new version
      have mine : command.operationId = id := by
        rw [← made.operationId, ← checked.parent, parent, key]
      rw [operation?_replace_stepped made.found made.operations, if_pos mine] at later
      rw [← mine, made.found, Option.some.injEq] at found
      have version := congrArg Operation.version (Option.some.inj later)
      rw [← found] at version
      simp [steppedOperation, nextVersion] at version
    · have still := (compensation?_replace_stepped there replaced _).trans (if_neg same)
      exact ⟨compensation, named, still.trans at_, parent, agrees⟩
  | progressed progress command asked checked made replaced =>
    by_cases same : progress.compensation.compensationId = compensation.compensationId
    · have record : progress.compensation = compensation := by
        have there := made.record
        rw [same, at_, Option.some.injEq] at there
        exact there.symm
      have mine : progress.loaded = operation := by
        have loaded := made.found
        rw [← made.parent, record, parent, key, found, Option.some.injEq] at loaded
        exact loaded.symm
      refine ⟨steppedCompensation compensation progress.newState progress.occurredAt, named, ?_,
        parent, ?_⟩
      · rw [record] at replaced
        exact (compensation?_replace_stepped at_ replaced _).trans (if_pos rfl)
      · rw [← mine, made.compensating]
        obtain state | state := made.checked.state <;>
        · rw [steppedCompensation, state]
          rfl
    · have still := (compensation?_replace_stepped made.record replaced _).trans (if_neg same)
      exact ⟨compensation, named, still.trans at_, parent, agrees⟩

theorem ConsistentJournal.step (before : ConsistentJournal s) (taken : JournalStep action s s') :
    ConsistentJournal s' := by
  intro id operation found inside
  cases taken.operation_origin found with
  | kept same => exact (before id operation same inside).kept taken same found
  | created _ _ made row =>
    rw [row, made.state] at inside
    exact absurd inside (by decide)
  | moved command loaded _ made row =>
    subst row
    exact compensates_of_moved made inside
  | escalated _ _ _ row =>
    rw [row] at inside
    exact absurd (show OperationState.manualIntervention ∈ _ from inside) (by decide)

/-- Operation and record agree in every reachable journal, and every action moves records along
legal edges. -/
theorem compensation_matches_parent {uuid5 : String → OpaqueId} (reachable : Reachable uuid5 s) :
    (∀ operationId operation, s.operation? operationId = some operation →
      operation.state ∈ compensationOperationStates →
      ∃ compensation, operation.compensationId = some compensation.compensationId ∧
        s.compensation? compensation.compensationId = some compensation ∧
        compensation.originalOperationId = operationId ∧
        parentForCompensationState compensation.state = operation.state) ∧
      ∀ action compensationId before after, s.compensation? compensationId = some before →
        (act uuid5 s action).compensation? compensationId = some after →
        after.state ≠ before.state →
        (before.state, after.state) ∈ legalCompensationTransitions := by
  refine ⟨fun operationId operation found inside => ?_, fun action id before after found later =>
    compensation_edge (act_step uuid5 s action) found later⟩
  have journal : ConsistentJournal s :=
    reachable.invariant .empty fun _ _ _ before taken => before.step taken
  obtain ⟨compensation, named, at_, parent, agrees⟩ := journal operationId operation found inside
  exact ⟨compensation, named, at_, parent.trans (find?_some found).2, agrees⟩

def sampleApplied : ExecutionAttempt :=
  { Runtime.sampleAttempt with
    state := .completed
    completedAt := some ⟨3⟩
    outcome := some .applied
    lifecycle := rfl }

/-- SHA-256, on the intent of the sample compensation. -/
def compensationSha256 : JsonValue → String :=
  fun _ => "9fcdb11dfbf76eb401fede684f9820735e704ea7520d90fc60018eaa779d562a"

def sampleCompensation (compensationId : String) : Compensation where
  contractVersion := contractVersion
  compensationId := idOf compensationId
  originalOperationId := idOf "op"
  kind := .exact
  state := .pending
  version := 1
  intentDigest := "9fcdb11dfbf76eb401fede684f9820735e704ea7520d90fc60018eaa779d562a"
  argumentsMode := .inline
  arguments := some (.object [])
  argumentsRef := none
  idempotencyIdentity := compensationIdempotencyIdentity (idOf compensationId)
  requestedBy := sampleRequester
  policyDecisionId := none
  createdAt := ⟨4⟩
  updatedAt := ⟨4⟩

/-- A succeeded operation whose compensation was started. -/
def compensatingActions : List JournalAction :=
  [.transition sampleCreate, .transition sampleAllow,
   .transition (sampleCommand 2 2 "audit-executing"
     (.claimExecution Runtime.sampleAttempt (idOf "audit-attempt"))),
   .transition (sampleCommand 3 3 "audit-succeeded"
     (.executionApplied sampleApplied (idOf "audit-evidence"))),
   .transition (sampleCommand 4 4 "audit-compensating"
     (.succeededStartCompensation (sampleCompensation "first") (idOf "audit-requested")
       (idOf "outbox-compensate")))]

def compensatingJournal : Store := run idOf .empty compensatingActions

theorem compensation_matches_parent_started :
    ∃ compensation, compensatingJournal.compensation? compensation.compensationId =
        some compensation ∧ compensation.originalOperationId = idOf "op" ∧
      parentForCompensationState compensation.state = .compensating := by
  have found : compensatingJournal.operation? (idOf "op") = some { allowedOperation with
      state := .compensating
      version := 5
      updatedAt := ⟨4⟩
      latestAttemptId := some (idOf "attempt-1")
      compensationId := some (idOf "first") } := by decide +kernel
  obtain ⟨compensation, -, stored⟩ :=
    (compensation_matches_parent ⟨compensatingActions, rfl⟩).1 _ _ found (by decide)
  exact ⟨compensation, stored⟩

/-! ## Numbered attempts -/

/-- The rows of one record's attempts. -/
private def ofRecord (t : Table CompensationAttempt.compensationAttemptId)
    (compensationId : OpaqueId) : List CompensationAttempt :=
  t.select fun row => decide (row.compensationId = compensationId)

private theorem completed_numbered {completed? : Option CompensationAttempt}
    {t t' : Table CompensationAttempt.compensationAttemptId}
    (completed : CompensationAttemptCompleted completed? t t') :
    (∀ id, (ofRecord t' id).length = (ofRecord t id).length) ∧
      ∀ row ∈ t'.rows, ∃ old ∈ t.rows, old.compensationAttemptId = row.compensationAttemptId ∧
        old.compensationId = row.compensationId ∧ old.attemptNumber = row.attemptNumber := by
  cases completed? with
  | none =>
    obtain rfl : t' = t := completed
    exact ⟨fun _ => rfl, fun row member => ⟨row, member, rfl, rfl, rfl⟩⟩
  | some attempt =>
    obtain ⟨-, row, found, -, rfl⟩ := completed
    refine ⟨fun id => ?_, fun other member => ?_⟩
    · rw [ofRecord, select_replace, List.length_map, ofRecord]
      intro old member same
      obtain rfl := rows_injOn_key _ member (find?_some found).1 same
      rfl
    · obtain ⟨old, -⟩ | ⟨rfl, -⟩ := mem_replace.mp member
      · exact ⟨other, old, rfl, rfl, rfl⟩
      · exact ⟨row, (find?_some found).1, rfl, rfl, rfl⟩

/-- What a step does to the compensation attempts: rows are completed in place, and one may be
added for a record the step moves. -/
inductive CompensationAttemptsStep (action : JournalAction) (s s' : Store) : Prop where
  | completed (completed? : Option CompensationAttempt)
      (made : CompensationAttemptCompleted completed? s.compensationAttempts
        s'.compensationAttempts)
  | claimed (progress : Progress) (command : TransitionCommand)
      (asked : action = .transition command)
      (checked : Progressing s progress.loaded progress.compensation command)
      (made : progress.Made s s')

theorem compensationAttemptsStep_of (taken : JournalStep action s s') :
    CompensationAttemptsStep action s s' := by
  cases taken with
  | unchanged same => exact .completed none (by rw [same]; rfl)
  | created _ _ made => exact .completed none (by rw [made.frame]; rfl)
  | moved command loaded _ made => exact .completed _ made.related.compensationAttempts
  | progressed progress command asked checked made =>
    exact .claimed progress command asked checked made
  | escalated _ _ made => exact .completed none (by rw [made.frame]; rfl)
  | republished _ _ _ _ made => exact .completed none (by rw [made.frame]; rfl)
  | published _ same => exact .completed none (by rw [same]; rfl)
  | evidencePersisted _ _ _ same => exact .completed none (by rw [same]; rfl)
  | resultPersisted _ _ same => exact .completed none (by rw [same]; rfl)

theorem attemptsNumbered_step (before : AttemptsNumbered s) (taken : JournalStep action s s') :
    AttemptsNumbered s' := by
  cases compensationAttemptsStep_of taken with
  | completed completed? made =>
    obtain ⟨lengths, origin⟩ := completed_numbered made
    intro row member
    obtain ⟨old, stored, -, record, number⟩ := origin row member
    have bounded := before old stored
    rw [record, number] at bounded
    exact bounded.trans_eq (lengths row.compensationId).symm
  | claimed progress _ _ _ made =>
    obtain ⟨mid, completed, inserted⟩ := made.written.compensationAttempts
    obtain ⟨lengths, origin⟩ := completed_numbered completed
    have grown : ∀ id, (ofRecord s'.compensationAttempts id).length =
        (ofRecord mid id).length + (progress.attempt?.toList.filter fun row =>
          decide (row.compensationId = id)).length := by
      intro id
      rw [ofRecord, inserted.select, List.length_append, ofRecord]
    intro row member
    refine le_of_le_of_eq ?_ (grown row.compensationId).symm
    obtain old | new := inserted.mem.mp member
    · obtain ⟨first, stored, -, record, number⟩ := origin row old
      have bounded : first.attemptNumber ≤
          (ofRecord s.compensationAttempts first.compensationId).length := before first stored
      rw [record, number, ← lengths] at bounded
      exact bounded.trans (Nat.le_add_right _ _)
    · obtain ⟨record, -, number⟩ := made.checked.attempt row new
      rw [Store.listCompensationAttempts, List.length_insertionSort, ← record] at number
      have same : (ofRecord mid row.compensationId).length =
          (s.compensationAttemptsOf row.compensationId).length := lengths _
      rw [new, number, same]
      simp

/-- An attempt belongs to a record that had one before, or to the one the step progresses. -/
theorem CompensationAttemptsStep.owner (step : CompensationAttemptsStep action s s')
    {attempt : CompensationAttempt} (member : attempt ∈ s'.compensationAttempts.rows) :
    (∃ old ∈ s.compensationAttempts.rows, old.compensationId = attempt.compensationId) ∨
      ∃ progress : Progress, progress.Made s s' ∧
        attempt.compensationId = progress.compensation.compensationId := by
  cases step with
  | completed completed? made =>
    obtain ⟨old, stored, -, record, -⟩ := (completed_numbered made).2 attempt member
    exact .inl ⟨old, stored, record⟩
  | claimed progress _ _ _ made =>
    obtain ⟨mid, completed, inserted⟩ := made.written.compensationAttempts
    obtain earlier | new := inserted.mem.mp member
    · obtain ⟨old, stored, -, record, -⟩ := (completed_numbered completed).2 attempt earlier
      exact .inl ⟨old, stored, record⟩
    · exact .inr ⟨progress, made, (made.checked.attempt attempt new).1⟩

/-- An attempt keeps its identity and its record. -/
def CompensationAttemptKept (row later : CompensationAttempt) : Prop :=
  later.compensationAttemptId = row.compensationAttemptId ∧
    later.compensationId = row.compensationId

theorem CompensationAttemptKept.refl (row : CompensationAttempt) :
    CompensationAttemptKept row row := ⟨rfl, rfl⟩

theorem CompensationAttemptKept.trans {a b c : CompensationAttempt}
    (first : CompensationAttemptKept a b) (second : CompensationAttemptKept b c) :
    CompensationAttemptKept a c :=
  ⟨second.1.trans first.1, second.2.trans first.2⟩

private theorem completed_evolves {completed? : Option CompensationAttempt}
    {t t' : Table CompensationAttempt.compensationAttemptId}
    (completed : CompensationAttemptCompleted completed? t t') :
    t.Evolves CompensationAttemptKept t' := by
  cases completed? with
  | none =>
    obtain rfl : t' = t := completed
    exact Evolves.refl CompensationAttemptKept.refl _
  | some attempt =>
    obtain ⟨-, row, found, -, rfl⟩ := completed
    refine evolves_replace CompensationAttemptKept.refl fun old member same => ?_
    obtain rfl := rows_injOn_key _ member (find?_some found).1 same
    exact ⟨rfl, rfl⟩

theorem CompensationAttemptsStep.evolves (step : CompensationAttemptsStep action s s') :
    s.compensationAttempts.Evolves CompensationAttemptKept s'.compensationAttempts := by
  cases step with
  | completed completed? made => exact completed_evolves made
  | claimed progress _ _ _ made =>
    obtain ⟨mid, completed, inserted⟩ := made.written.compensationAttempts
    exact (completed_evolves completed).trans CompensationAttemptKept.trans
      (inserted.evolves CompensationAttemptKept.refl)

theorem attemptsNumbered_of_reachable {uuid5 : String → OpaqueId}
    (reachable : Reachable uuid5 s) : AttemptsNumbered s :=
  reachable.invariant (fun _ member => by cases member)
    fun _ _ _ before taken => attemptsNumbered_step before taken

/-! ## Which record progresses -/

/-- The record is the one its operation names. -/
def Named (s : Store) (compensation : Compensation) : Prop :=
  ∃ operation, s.operation? compensation.originalOperationId = some operation ∧
    operation.compensationId = some compensation.compensationId

/-- Applied, the command changes a stored record, or adds an attempt to it, only if the record
is the one its operation names. -/
def ProgressesNamed (s : Store) (command : TransitionCommand) : Prop :=
  ∀ result s', apply command s = .ok (result, s') →
    (∀ before after, s.compensation? before.compensationId = some before →
      s'.compensation? before.compensationId = some after → after ≠ before → Named s before) ∧
    ∀ attempt ∈ s'.compensationAttempts.rows,
      s.compensationAttempt? attempt.compensationAttemptId = none →
      ∃ compensation, s.compensation? attempt.compensationId = some compensation ∧
        Named s compensation

/-- A progress command is applied exactly when its checks pass; it strays when the record it
progresses is not the one the operation names. -/
def Strays (s : Store) (command : TransitionCommand) : Prop :=
  ∃ loaded compensation, Progressing s loaded compensation command ∧
    loaded.compensationId ≠ some compensation.compensationId

private theorem named_of_progress {command : TransitionCommand} (stays : ¬Strays s command)
    {progress : Progress}
    (checked : Progressing s progress.loaded progress.compensation command)
    (made : progress.Made s s') : Named s progress.compensation := by
  by_contra unnamed
  refine stays ⟨progress.loaded, progress.compensation, checked, fun named => unnamed ?_⟩
  exact ⟨progress.loaded, by rw [made.parent]; exact made.found, named⟩

/-- A command that does not stray moves the record its operation names. -/
theorem progressesNamed_of_stays {command : TransitionCommand} (stays : ¬Strays s command) :
    ProgressesNamed s command := by
  intro result s' ran
  have taken := apply_step ran
  refine ⟨fun before after found later changed => ?_, fun attempt member fresh => ?_⟩
  · have untouched : s'.compensation? before.compensationId =
        s.compensation? before.compensationId → False := by
      intro same
      rw [later, found, Option.some.injEq] at same
      exact changed same
    cases compensationsStep_of taken with
    | kept same => exact (untouched (by rw [Store.compensation?, same]; rfl)).elim
    | started command loaded compensation asked made carried inserted =>
      have added : Inserted (some compensation) s.compensations s'.compensations := inserted
      exact (untouched ((added.find?_of_some found).trans found.symm)).elim
    | moved command loaded compensation state asked made moves there checked legal replaced =>
      by_cases same : compensation.compensationId = before.compensationId
      · rw [same, found, Option.some.injEq] at there
        subst there
        refine ⟨loaded, ?_, checked.named⟩
        rw [checked.parent, made.operationId]
        exact made.found
      · exact (untouched ((compensation?_replace_stepped there replaced _).trans
          (if_neg same))).elim
    | progressed progress command' asked checked made replaced =>
      obtain rfl : command = command' := JournalAction.transition.inj asked
      by_cases same : progress.compensation.compensationId = before.compensationId
      · have record := made.record
        rw [same, found, Option.some.injEq] at record
        rw [record]
        exact named_of_progress stays checked made
      · exact (untouched ((compensation?_replace_stepped made.record replaced _).trans
          (if_neg same))).elim
  · have known : ∀ old ∈ s.compensationAttempts.rows,
        old.compensationAttemptId ≠ attempt.compensationAttemptId := find?_none.mp fresh
    cases compensationAttemptsStep_of taken with
    | completed completed? made =>
      obtain ⟨old, stored, same, -⟩ := (completed_numbered made).2 attempt member
      exact absurd same (known old stored)
    | claimed progress command' asked checked made =>
      obtain rfl : command = command' := JournalAction.transition.inj asked
      obtain ⟨mid, completed, inserted⟩ := made.written.compensationAttempts
      obtain old | new := inserted.mem.mp member
      · obtain ⟨first, stored, same, -⟩ := (completed_numbered completed).2 attempt old
        exact absurd same (known first stored)
      · refine ⟨progress.compensation, ?_, named_of_progress stays checked made⟩
        rw [(made.checked.attempt attempt new).1]
        exact made.record

/-- Applied, the command changes the stored record or adds an attempt to it. -/
def MovesRecord (s : Store) (command : TransitionCommand) (record : Compensation) : Prop :=
  s.compensation? record.compensationId = some record ∧
    ∃ result s', apply command s = .ok (result, s') ∧
      (s'.compensation? record.compensationId ≠ some record ∨
        ∃ attempt ∈ s'.compensationAttempts.rows,
          s.compensationAttempt? attempt.compensationAttemptId = none ∧
            attempt.compensationId = record.compensationId)

/-- Whatever commands may come next, they move one record of an operation at most. -/
def OneRecordMoves (s : Store) : Prop :=
  ∀ command other one two, MovesRecord s command one → MovesRecord s other two →
    one.originalOperationId = two.originalOperationId → one = two

theorem named_of_moves {command : TransitionCommand} {record : Compensation}
    (stays : ¬Strays s command) (moves : MovesRecord s command record) : Named s record := by
  obtain ⟨stored, result, s', ran, changed | ⟨attempt, added, fresh, owner⟩⟩ := moves
  · obtain ⟨later, there, -⟩ :=
      (compensations_evolve (compensationsStep_of (apply_step ran))).find? (·.1) stored
    refine (progressesNamed_of_stays stays result s' ran).1 record later stored there ?_
    exact fun same => changed (there.trans (congrArg some same))
  · obtain ⟨compensation, found, named⟩ :=
      (progressesNamed_of_stays stays result s' ran).2 attempt added fresh
    rw [owner, stored, Option.some.injEq] at found
    exact found ▸ named

theorem oneRecordMoves_of_stays (stays : ∀ command, ¬Strays s command) : OneRecordMoves s := by
  intro command other one two first second same
  obtain ⟨operation, found, named⟩ := named_of_moves (stays command) first
  obtain ⟨operation', found', named'⟩ := named_of_moves (stays other) second
  rw [same, found', Option.some.injEq] at found
  subst found
  have ids : one.compensationId = two.compensationId :=
    Option.some.inj (named.symm.trans named')
  exact Option.some.inj (first.1.symm.trans (ids ▸ second.1))

/-- Only the progress commands move a record the operation does not name; at a store where none of
them does, one record of an operation moves at most. -/
theorem progressesNamed_iff {uuid5 : String → OpaqueId} (reachable : Reachable uuid5 s) :
    (∀ command, ProgressesNamed s command ↔ ¬Strays s command) ∧
      ((∀ command, ¬Strays s command) → OneRecordMoves s) := by
  refine ⟨fun command => ⟨?_, progressesNamed_of_stays⟩, oneRecordMoves_of_stays⟩
  rintro namedOnly ⟨loaded, compensation, progressing, other⟩
  obtain ⟨result, s', ran, applied⟩ :=
    apply_of_progressing (attemptsNumbered_of_reachable reachable) progressing
  obtain ⟨progress, rfl, rfl, made⟩ := progressed_of_applied progressing ran applied
  have replaced := made.written.compensations.2.2
  have moved := (compensation?_replace_stepped made.record replaced _).trans (if_pos rfl)
  have changed : steppedCompensation progress.compensation progress.newState
      progress.occurredAt ≠ progress.compensation := by
    intro same
    have version := congrArg Compensation.version same
    simp [steppedCompensation, nextVersion] at version
  obtain ⟨operation, found, named⟩ :=
    (namedOnly result s' ran).1 progress.compensation _ made.record moved changed
  rw [made.parent, made.found, Option.some.injEq] at found
  exact other (found ▸ named)

def sampleCompensationAttempt (compensationId attemptId : String) : CompensationAttempt where
  contractVersion := contractVersion
  compensationAttemptId := idOf attemptId
  compensationId := idOf compensationId
  attemptNumber := 1
  state := .started
  startedAt := ⟨7⟩
  completedAt := none
  providerIdempotencyKey := none
  externalOperationId := none
  outcome := none
  evidence := none
  error := none
  lifecycle := compensationLifecycle_started

/-- The claim of a record's first attempt. -/
def sampleClaim (expectedOperationVersion : Int) (compensationId attemptId : String) :
    TransitionCommand :=
  .claimCompensation
    { operationId := idOf "op"
      expectedOperationVersion := expectedOperationVersion
      compensationId := idOf compensationId
      expectedCompensationVersion := 1
      attempt := sampleCompensationAttempt compensationId attemptId
      occurredAt := ⟨7⟩
      actor := none
      correlationId := none
      reasonCode := "claim"
      attemptAuditEventId := idOf attemptId }

/-- While its only record is the one the operation names, no command strays. -/
theorem progressesNamed_first :
    ProgressesNamed compensatingJournal (sampleClaim 5 "first" "compensation-attempt") ∧
      OneRecordMoves compensatingJournal := by
  have records : ∀ record ∈ compensatingJournal.compensations.rows,
      record.compensationId = idOf "first" := by decide +kernel
  have names : ∀ operation ∈ compensatingJournal.operations.rows,
      operation.compensationId = some (idOf "first") := by decide +kernel
  have stays : ∀ command, ¬Strays compensatingJournal command := by
    rintro command ⟨loaded, compensation, progressing, other⟩
    obtain ⟨_, _, _, _, allowed⟩ := progressing.allowed
    have key := records compensation (find?_some allowed.compensationFound).1
    exact other (key ▸ names loaded (find?_some allowed.found).1)
  obtain ⟨named, one⟩ := progressesNamed_iff ⟨compensatingActions, rfl⟩
  exact ⟨(named _).mpr (stays _), one stays⟩

/-- Escalated and restarted by hand: a second record is named, the first is still PENDING. -/
def restartedJournal : Store :=
  run idOf .empty (compensatingActions ++
    [.transition (sampleCommand 5 5 "audit-escalated"
       (.compensationEscalate (idOf "audit-manual") none)),
     .transition (sampleCommand 6 6 "audit-restarted"
       (.manualStartCompensation (sampleCompensation "second") (idOf "audit-operator")
         (idOf "audit-requested-2") (idOf "outbox-compensate-2")))])

/-- The claim of the abandoned record is applied: it runs beside the named one. -/
theorem abandoned_compensation_progresses :
    Reachable idOf restartedJournal ∧
      ¬ProgressesNamed restartedJournal (sampleClaim 7 "first" "stray-attempt") := by
  refine ⟨⟨_, rfl⟩, fun namedOnly => ?_⟩
  let claimed := act idOf restartedJournal
    (.transition (sampleClaim 7 "first" "stray-attempt"))
  have before : restartedJournal.compensation? (idOf "first") =
      some (sampleCompensation "first") := by
    decide +kernel
  have after : claimed.compensation? (idOf "first") = some { sampleCompensation "first" with
      state := .executing
      version := 2
      updatedAt := ⟨7⟩ } := by decide +kernel
  have changed : claimed ≠ restartedJournal := by
    intro same
    rw [same, before] at after
    exact absurd after (by decide)
  obtain ⟨result, ran⟩ := apply_of_act_ne changed
  obtain ⟨operation, found, named⟩ :=
    (namedOnly result claimed ran).1 (sampleCompensation "first") _ before after (by decide)
  have second : (restartedJournal.operation? (idOf "op")).map (·.compensationId) =
      some (some (idOf "second")) := by decide +kernel
  rw [show restartedJournal.operation? (idOf "op") = some operation from found, Option.map_some,
    named] at second
  exact absurd second (by decide)

end Stateback.Invariants
