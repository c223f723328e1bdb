import Stateback.Invariants.AuditChain
import Stateback.Messaging.Stranded
/-!
# Scheduled work

A transition into a state that waits for a worker schedules a command fit for it, and a
transition that schedules nothing keeps to the states the last command fits.  The relay copies
the command it finds fit, so the last outbox row of a waiting operation always is.
-/

namespace Stateback.Invariants

open Domain Persistence Transitions Messaging KeyedTable KeyedTable.Table

variable {s s' : Store} {action : JournalAction} {operationId : OpaqueId}

/-- The states an operation waits in for a worker. -/
def workStates : List OperationState :=
  [.ready, .executing, .verifying, .unknown, .compensating, .compensationUnknown]

/-- The command scheduled last for an operation. -/
def lastCommand? (s : Store) (operationId : OpaqueId) : Option WorkCommand :=
  (s.outboxEventsOf operationId).getLast?.map (·.command)

/-- Every waiting operation was scheduled last with a command its state fits. -/
def ScheduledJournal (s : Store) : Prop :=
  ∀ id operation, s.operation? id = some operation → operation.state ∈ workStates →
    ∃ command, lastCommand? s id = some command ∧ operation.state ∈ commandStates command

/-! ## The kinds and their commands -/

/-- A kind mapped to a command leads to a state the command fits. -/
theorem outboxCommand?_fits {kind : TransitionKind} {command : WorkCommand}
    (mapped : kind.outboxCommand? = some command) : kind.edge.2 ∈ commandStates command := by
  revert mapped
  cases kind <;> rintro ⟨⟩ <;> decide

/-- Only a waiting operation comes to wait without a command of its own. -/
theorem unscheduled_waiting {kind : TransitionKind} {source : OperationState}
    (unmapped : kind.outboxCommand? = none) (edge : kind.edge.1 = some source)
    (works : kind.edge.2 ∈ workStates) : source ∈ workStates := by
  revert unmapped edge works
  cases kind <;> rintro ⟨⟩ ⟨⟩ <;> decide

/-- A kind that schedules nothing keeps to the states of whatever command was last. -/
theorem unscheduled_fits {kind : TransitionKind} {source : OperationState} {command : WorkCommand}
    (unmapped : kind.outboxCommand? = none) (edge : kind.edge.1 = some source)
    (works : kind.edge.2 ∈ workStates) (fits : source ∈ commandStates command) :
    kind.edge.2 ∈ commandStates command := by
  revert unmapped edge works fits
  cases command <;> cases kind <;> rintro ⟨⟩ ⟨⟩ <;> decide

/-! ## What a step schedules -/

/-- An insertion becomes the last command of its own operation and of no other. -/
theorem lastCommand?_inserted {row : OutboxEvent}
    (inserted : Inserted (some row) s.outboxEvents s'.outboxEvents) (id : OpaqueId) :
    lastCommand? s' id = if row.aggregateId = id then some row.command else lastCommand? s id := by
  rw [lastCommand?, Store.outboxEventsOf, inserted.select]
  by_cases owner : row.aggregateId = id
  · simp [owner]
  · simp [owner, lastCommand?, Store.outboxEventsOf]

/-- The publication mark keeps every row's owner and command. -/
theorem lastCommand?_published {row : OutboxEvent} {publishedAt : UtcTimestamp}
    (found : s.outboxEvents.find? row.eventId = some row)
    (made : s'.outboxEvents =
      s.outboxEvents.replace (OutboxRepository.publishedRow row publishedAt)) (id : OpaqueId) :
    lastCommand? s' id = lastCommand? s id := by
  have marked : ∀ old ∈ s.outboxEvents.rows,
      old.eventId = (OutboxRepository.publishedRow row publishedAt).eventId → old = row :=
    fun old member same => rows_injOn_key _ member (find?_some found).1 same
  have owners : ∀ old ∈ s.outboxEvents.rows,
      old.eventId = (OutboxRepository.publishedRow row publishedAt).eventId →
        decide (old.aggregateId = id) =
          decide ((OutboxRepository.publishedRow row publishedAt).aggregateId = id) := by
    intro old member same
    rw [marked old member same]
    rfl
  rw [lastCommand?, Store.outboxEventsOf, made, select_replace owners, List.getLast?_map,
    Option.map_map, lastCommand?, Store.outboxEventsOf]
  refine Option.map_congr fun last there => ?_
  have stored := (mem_select.mp (List.mem_of_getLast? there)).1
  rw [Function.comp_apply]
  split
  next same =>
    rw [marked last stored same]
    rfl
  next => rfl

theorem lastCommand?_frame (same : s'.outboxEvents = s.outboxEvents) (id : OpaqueId) :
    lastCommand? s' id = lastCommand? s id := by
  rw [lastCommand?, Store.outboxEventsOf, same]
  rfl

/-- A moved operation has the command of the kind, or keeps the one it had. -/
theorem lastCommand?_moved {command : OperationCommand} {loaded : Operation}
    (made : OperationMoved command loaded s s') (id : OpaqueId) :
    lastCommand? s' id =
      if command.operationId = id then command.kind.outboxCommand?.or (lastCommand? s id)
      else lastCommand? s id := by
  have inserted := made.outboxEvents
  have key : (movedOperation command loaded).operationId = command.operationId := made.operationId
  unfold outboxRow? at inserted
  cases mapped : command.kind.outboxCommand? with
  | none =>
    rw [mapped] at inserted
    rw [lastCommand?_frame inserted, Option.none_or, ite_self]
  | some scheduled =>
    have carries : command.body.outboxEventId?.isSome = true := by
      rw [command.body.outboxEventId_isSome_iff]
      exact congrArg Option.isSome mapped
    obtain ⟨eventId, carried⟩ := Option.isSome_iff_exists.mp carries
    rw [mapped, carried] at inserted
    rw [lastCommand?_inserted inserted, Option.some_or, ← key]
    rfl

theorem lastCommand?_progressed {progress : Progress} (made : progress.Made s s') (id : OpaqueId) :
    lastCommand? s' id = lastCommand? s id ∨
      progress.loaded.operationId = id ∧
        ∃ scheduled, scheduled ≠ .execute ∧ lastCommand? s' id = some scheduled := by
  have inserted := made.written.outboxEvents
  cases scheduled : progress.outbox? with
  | none =>
    rw [scheduled] at inserted
    exact .inl (lastCommand?_frame inserted id)
  | some event =>
    obtain ⟨owner, fits⟩ := made.checked.outbox event scheduled
    rw [scheduled] at inserted
    have last := lastCommand?_inserted inserted id
    by_cases same : event.aggregateId = id
    · exact .inr ⟨owner.symm.trans same, event.command, fits, last.trans (if_pos same)⟩
    · exact .inl (last.trans (if_neg same))

/-! ## The last command of a waiting operation -/

theorem ScheduledJournal.step (before : ScheduledJournal s) (taken : JournalStep action s s') :
    ScheduledJournal s' := by
  intro id operation found works
  have kept : s'.operations = s.operations → lastCommand? s' id = lastCommand? s id →
      ∃ command, lastCommand? s' id = some command ∧
        operation.state ∈ commandStates command := by
    intro operations last
    rw [last]
    exact before id operation (by rw [Store.operation?, ← operations]; exact found) works
  cases taken with
  | unchanged same => exact kept (by rw [same]) (by rw [same])
  | created command _ made =>
    rw [Store.operation?, find?_insert made.operations] at found
    split at found
    next =>
      cases found
      rw [made.state] at works
      exact absurd works (by decide)
    next =>
      rw [lastCommand?_frame (by rw [made.frame])]
      exact before id operation found works
  | moved command loaded _ made =>
    rw [operation?_replace_stepped made.found made.operations] at found
    rw [lastCommand?_moved made]
    split at found
    next same =>
      cases found
      rw [if_pos same]
      cases mapped : command.kind.outboxCommand? with
      | none =>
        have waiting := unscheduled_waiting mapped made.source works
        obtain ⟨last, scheduled, fits⟩ := before id loaded (same ▸ made.found) waiting
        exact ⟨last, scheduled, unscheduled_fits mapped made.source works fits⟩
      | some scheduled => exact ⟨scheduled, rfl, outboxCommand?_fits mapped⟩
    next other =>
      rw [if_neg other]
      exact before id operation found works
  | progressed progress _ _ _ made =>
    have operations : s'.operations = s.operations := by rw [made.written.frame]
    obtain last | ⟨owner, scheduled, fits, last⟩ := lastCommand?_progressed made id
    · exact kept operations last
    · have there : s.operation? id = some progress.loaded := owner ▸ made.found
      rw [Store.operation?, operations, show s.operations.find? id = _ from there] at found
      cases found
      refine ⟨scheduled, last, ?_⟩
      rw [made.compensating]
      revert fits
      cases scheduled <;> decide
  | escalated request loaded made =>
    rw [operation?_replace_stepped made.found made.operations] at found
    split at found
    next =>
      cases found
      simp [steppedOperation, workStates] at works
    next =>
      rw [lastCommand?_frame (by rw [made.frame])]
      exact before id operation found works
  | republished uuid5 source loaded now made =>
    have operations : s'.operations = s.operations := by rw [made.frame]
    have last := lastCommand?_inserted made.outboxEvents id
    have key : loaded.operationId = source.aggregateId := (find?_some made.found).2
    by_cases same : loaded.operationId = id
    · have there : s.operation? id = some loaded := by
        rw [← same, key]
        exact made.found
      rw [Store.operation?, operations, show s.operations.find? id = _ from there] at found
      cases found
      exact ⟨source.command, last.trans (if_pos same), made.fits⟩
    · exact kept operations (last.trans (if_neg same))
  | published _ same _ _ there made =>
    exact kept (by rw [same]) (lastCommand?_published there (by rw [same, made]) id)
  | evidencePersisted _ _ _ same =>
    exact kept (by rw [same]) (lastCommand?_frame (by rw [same]) id)
  | resultPersisted _ _ same => exact kept (by rw [same]) (lastCommand?_frame (by rw [same]) id)

theorem scheduled_of_reachable {uuid5 : String → OpaqueId} (reachable : Reachable uuid5 s) :
    ScheduledJournal s :=
  reachable.invariant (fun _ _ found => by cases found)
    fun _ _ _ before taken => before.step taken

/-! ## What stranded-work recovery finds -/

/-- Creation times increase strictly along an operation's outbox rows. -/
def OutboxIncreasing (s : Store) (id : OpaqueId) : Prop :=
  (s.outboxEventsOf id).Pairwise fun earlier later =>
    earlier.createdAt.value < later.createdAt.value

/-- With increasing creation times the newest row is the one inserted last. -/
theorem latestOutbox?_eq_getLast? (increasing : OutboxIncreasing s operationId) :
    s.latestOutbox? operationId = (s.outboxEventsOf operationId).getLast? := by
  unfold OutboxIncreasing at increasing
  unfold Store.latestOutbox?
  generalize s.outboxEventsOf operationId = events at increasing ⊢
  induction events using List.reverseRecOn with
  | nil => rfl
  | append_singleton earlier last ih =>
    obtain ⟨sorted, -, before⟩ := List.pairwise_append.mp increasing
    rw [List.foldl_append, ih sorted, List.getLast?_concat, List.foldl_cons, List.foldl_nil]
    cases best : earlier.getLast? with
    | none => rfl
    | some newest =>
      have newer : newest.createdAt.value < last.createdAt.value :=
        before newest (List.mem_of_getLast? best) last List.mem_cons_self
      simp [Store.newerOutbox, newer]

/-- No row is newer than the one inserted last. -/
theorem newerOutbox_getLast? (increasing : OutboxIncreasing s operationId) {event row : OutboxEvent}
    (last : (s.outboxEventsOf operationId).getLast? = some event)
    (member : row ∈ s.outboxEventsOf operationId) : Store.newerOutbox row event = false := by
  unfold OutboxIncreasing at increasing
  obtain ⟨earlier, split⟩ := List.getLast?_eq_some_iff.mp last
  rw [split] at increasing member
  obtain older | only := List.mem_append.mp member
  · have before : row.createdAt.value < event.createdAt.value :=
      (List.pairwise_append.mp increasing).2.2 row older event List.mem_cons_self
    have differs : row.createdAt ≠ event.createdAt := fun same => by simp [same] at before
    simp [Store.newerOutbox, differs, before.le]
  · obtain rfl := List.mem_singleton.mp only
    simp [Store.newerOutbox]

/-- A limit that holds all candidates cuts none off. -/
theorem mem_listStrandedCandidateIds {event : OutboxEvent} {cutoff : UtcTimestamp} {limit : Nat}
    (candidate : event ∈ strandedCandidates s cutoff)
    (enough : (strandedCandidates s cutoff).length ≤ limit) :
    event.eventId ∈ listStrandedCandidateIds s cutoff limit := by
  unfold listStrandedCandidateIds
  rw [List.take_of_length_le (by rwa [List.length_insertionSort])]
  exact List.mem_map_of_mem ((List.perm_insertionSort _ _).mem_iff.mpr candidate)

/-- The event is published, at the cutoff or before. -/
def PublishedBy (event : OutboxEvent) (cutoff : UtcTimestamp) : Prop :=
  event.state = .published ∧
    ∃ publishedAt, event.publishedAt = some publishedAt ∧ publishedAt.value ≤ cutoff.value

/-- A waiting operation has an outbox row, the last one fits its state, and as the newest it is
a candidate of stranded-work recovery that passes the recheck. -/
theorem waiting_work_discoverable {uuid5 : String → OpaqueId} {operation : Operation}
    (reachable : Reachable uuid5 s) (found : s.operation? operationId = some operation)
    (waiting : operation.state ∈ workStates) :
    ∃ event, (s.outboxEventsOf operationId).getLast? = some event ∧
      operation.state ∈ commandStates event.command ∧
      (OutboxIncreasing s operationId → ∀ cutoff, PublishedBy event cutoff →
        (∀ limit, (strandedCandidates s cutoff).length ≤ limit →
          event.eventId ∈ listStrandedCandidateIds s cutoff limit) ∧
          stillStranded s event operation cutoff = true) := by
  obtain ⟨command, last, fits⟩ := scheduled_of_reachable reachable _ operation found waiting
  obtain ⟨event, there, rfl⟩ := Option.map_eq_some_iff.mp last
  refine ⟨event, there, fits, fun increasing cutoff published => ?_⟩
  obtain ⟨state, publishedAt, at_, old⟩ := published
  obtain ⟨stored, owner⟩ := mem_select.mp (List.mem_of_getLast? there)
  have owner : event.aggregateId = operationId := of_decide_eq_true owner
  have key : operation.operationId = operationId := (find?_some found).2
  constructor
  · have newest : ∀ row ∈ s.outboxEventsOf operationId, Store.newerOutbox row event = false :=
      fun row member => newerOutbox_getLast? increasing there member
    refine fun limit enough => mem_listStrandedCandidateIds (mem_select.mpr ⟨stored, ?_⟩) enough
    simpa [state, at_, old, owner, found, commandStates_candidates fits] using newest
  · have newest : s.latestOutbox? operation.operationId = some event := by
      rw [key, latestOutbox?_eq_getLast? increasing, there]
    simp [stillStranded, newest, state, at_, old, fits]

/-- The allowed operation, its work message sent at 2 and not worked on. -/
def sentJournal : Store :=
  act idOf allowedJournal (.markPublished (idOf "outbox") ⟨2⟩)

theorem waiting_work_discoverable_sent :
    (idOf "outbox") ∈ listStrandedCandidateIds sentJournal ⟨5⟩ 1 := by
  obtain ⟨actions, reached⟩ := allowedJournal_reachable
  have reachable : Reachable idOf sentJournal :=
    ⟨actions ++ [_], by rw [run_concat, reached]; rfl⟩
  have found : sentJournal.operation? (idOf "op") = some allowedOperation := by decide
  obtain ⟨event, last, -, discovered⟩ := waiting_work_discoverable reachable found (by decide)
  let sent : OutboxEvent := OutboxRepository.publishedRow
    (buildOutboxEvent (idOf "outbox") (idOf "op") 2 .execute ⟨1⟩ none) ⟨2⟩
  have rows : sentJournal.outboxEventsOf (idOf "op") = [sent] := by decide
  have increasing : OutboxIncreasing sentJournal (idOf "op") := by
    rw [OutboxIncreasing, rows]
    exact List.pairwise_singleton _ _
  obtain rfl : sent = event := by simpa [rows] using last
  exact (discovered increasing ⟨5⟩ ⟨rfl, ⟨2⟩, rfl, by decide⟩).1 1 (by decide)

end Stateback.Invariants
