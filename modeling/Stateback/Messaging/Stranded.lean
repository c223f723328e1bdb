import Mathlib.Data.Prod.Lex
import Mathlib.Data.String.Basic
import Stateback.Messaging.Relay
import Stateback.Providers.Registry
import Stateback.Transitions.Commits
/-!
# Stranded work

`OutboxRelay.recover_stranded`: one reading of the clock, one query for candidates, one unit of
work for each of them.  The query picks rows no other row of their operation is newer than, the
recheck asks for the newest row; the two agree because rows are ordered by creation time and id.
-/

namespace Stateback.Messaging

open Stateback.Domain Stateback.Persistence Stateback.Transitions Stateback.Providers
open KeyedTable.Table Transaction Process

/-! ## The run -/

/-- One unit of work for each candidate. -/
def recoverAll (uuid5 : String → OpaqueId) (now cutoff : UtcTimestamp) (maxRecoveries : Nat) :
    List OpaqueId → Nat → Service Nat
  | [], recovered => pure recovered
  | candidateId :: rest, recovered => do
    let counted ← Service.uow (recoverCandidate uuid5 now cutoff maxRecoveries candidateId)
    recoverAll uuid5 now cutoff maxRecoveries rest (if counted then recovered + 1 else recovered)

/-- `now - timedelta(seconds=after_seconds)`. -/
def strandedCutoff (now : UtcTimestamp) (afterSeconds : Nat) : UtcTimestamp :=
  ⟨now.value - afterSeconds * 1000000⟩

/-- `OutboxRelay.recover_stranded`. -/
def recoverStranded (uuid5 : String → OpaqueId) (limit afterSeconds maxRecoveries : Nat) :
    Service Nat :=
  if limit < 1 then Prog.raise (.valueError "limit must be >= 1")
  else if afterSeconds < 1 then Prog.raise (.valueError "after_seconds must be >= 1")
  else if maxRecoveries < 1 then Prog.raise (.valueError "max_recoveries must be >= 1")
  else do
    let now ← Service.now
    let cutoff := strandedCutoff now afterSeconds
    -- no date lies before the first midnight of the calendar
    if cutoff.value < 0 then Prog.raise .overflowError
    else do
      let candidateIds ← Service.load fun s => listStrandedCandidateIds s cutoff limit
      recoverAll uuid5 now cutoff maxRecoveries candidateIds 0

/-- The state the candidates leave when nobody else works: the first that raises is the last. -/
def recoverEach (uuid5 : String → OpaqueId) (now cutoff : UtcTimestamp) (maxRecoveries : Nat) :
    List OpaqueId → Store → Store
  | [], s => s
  | candidateId :: rest, s =>
    match recoverCandidate uuid5 now cutoff maxRecoveries candidateId s with
    | .ok (_, s') => recoverEach uuid5 now cutoff maxRecoveries rest s'
    | .error _ => s

variable {uuid5 : String → OpaqueId} {now cutoff : UtcTimestamp} {maxRecoveries limit : Nat}
  {candidateId : OpaqueId} {s s' : Store} {source : OutboxEvent} {operation : Operation}

theorem alone_recoverAll (answers : Nat → (query : Query) → Answer query)
    (candidateIds : List OpaqueId) (recovered n : Nat) (s : Store) :
    (Prog.alone answers (recoverAll uuid5 now cutoff maxRecoveries candidateIds recovered) n
      s).state = recoverEach uuid5 now cutoff maxRecoveries candidateIds s := by
  induction candidateIds generalizing recovered n s with
  | nil => rfl
  | cons candidateId rest ih =>
    rw [recoverAll, Service.uow, Prog.commit, Prog.transact_bind, recoverEach]
    cases ran : recoverCandidate uuid5 now cutoff maxRecoveries candidateId s with
    | ok ended =>
      rw [Prog.alone_transact_ok ran]
      exact ih _ _ _
    | error e =>
      rw [Prog.alone_transact_error ran]
      rfl

/-- A run with valid arguments and nobody else at work. -/
theorem alone_recoverStranded (answers : Nat → (query : Query) → Answer query)
    {afterSeconds : Nat} (limited : 1 ≤ limit) (delayed : 1 ≤ afterSeconds)
    (bounded : 1 ≤ maxRecoveries) (n : Nat)
    (dated : 0 ≤ (strandedCutoff (answers n .now) afterSeconds).value) (s : Store) :
    (Prog.alone answers (recoverStranded uuid5 limit afterSeconds maxRecoveries) n s).state =
      recoverEach uuid5 (answers n .now) (strandedCutoff (answers n .now) afterSeconds)
        maxRecoveries
        (listStrandedCandidateIds s (strandedCutoff (answers n .now) afterSeconds) limit) s := by
  rw [recoverStranded, if_neg (by omega), if_neg (by omega), if_neg (by omega)]
  have listed : ¬(strandedCutoff (answers n .now) afterSeconds).value < 0 := by omega
  rw [Service.now, Prog.question_bind, Prog.alone_ask]
  dsimp only
  rw [if_neg listed]
  exact alone_recoverAll answers _ _ _ _

/-! ## The newest row -/

/-- Creation time, then event id. -/
def outboxAge (event : OutboxEvent) : Lex (Int × String) :=
  toLex (event.createdAt.value, event.eventId.value)

theorem newerOutbox_iff (a b : OutboxEvent) :
    Store.newerOutbox a b = true ↔ outboxAge b < outboxAge a := by
  have time : a.createdAt = b.createdAt ↔ b.createdAt.value = a.createdAt.value := by
    cases a.createdAt
    cases b.createdAt
    simp [eq_comm]
  simp [Store.newerOutbox, outboxAge, Prod.Lex.lt_iff, time]

/-- The age of a row names it. -/
theorem eventId_of_outboxAge {a b : OutboxEvent} (same : outboxAge a = outboxAge b) :
    a.eventId = b.eventId := by
  have text : a.eventId.value = b.eventId.value := congrArg (fun age => (ofLex age).2) same
  cases ids : a.eventId
  cases ids' : b.eventId
  rw [ids, ids'] at text
  exact congrArg OpaqueId.mk text

/-- The fold keeps a row none is newer than. -/
private theorem newest_of_fold (events : List OutboxEvent) (best : Option OutboxEvent) :
    ∀ newest, events.foldl
        (fun best event =>
          match best with
          | none => some event
          | some best => some (if Store.newerOutbox event best then event else best)) best =
        some newest →
      (best = some newest ∨ newest ∈ events) ∧
        (∀ row, best = some row → outboxAge row ≤ outboxAge newest) ∧
        ∀ row ∈ events, outboxAge row ≤ outboxAge newest := by
  induction events generalizing best with
  | nil =>
    rintro newest rfl
    simp
  | cons event rest ih =>
    intro newest folded
    obtain ⟨origin, above, all⟩ := ih _ newest folded
    cases best with
    | none =>
      have first := above event rfl
      refine ⟨.inr ?_, by simp, ?_⟩
      · obtain same | later := origin
        · exact List.mem_cons.mpr (.inl (Option.some.inj same).symm)
        · exact List.mem_cons_of_mem _ later
      · simpa using ⟨first, all⟩
    | some best =>
      have kept := above _ rfl
      dsimp only at origin kept
      split at kept
      next newer =>
        have older : outboxAge best < outboxAge event := (newerOutbox_iff event best).mp newer
        rw [if_pos newer] at origin
        refine ⟨.inr ?_, ?_, ?_⟩
        · obtain same | later := origin
          · exact List.mem_cons.mpr (.inl (Option.some.inj same).symm)
          · exact List.mem_cons_of_mem _ later
        · rintro row ⟨⟩
          exact older.le.trans kept
        · simpa using ⟨kept, all⟩
      next notNewer =>
        have older : outboxAge event ≤ outboxAge best :=
          not_lt.mp fun newer => notNewer ((newerOutbox_iff event best).mpr newer)
        rw [if_neg notNewer] at origin
        refine ⟨origin.imp_right (List.mem_cons_of_mem _), ?_, ?_⟩
        · rintro row ⟨⟩
          exact kept
        · simpa using ⟨older.trans kept, all⟩

/-- `latest_for_operation` finds the row none of the operation's rows is newer than. -/
theorem latestOutbox?_eq_some_iff {operationId : OpaqueId} {event : OutboxEvent} :
    s.latestOutbox? operationId = some event ↔ event ∈ s.outboxEventsOf operationId ∧
      ∀ row ∈ s.outboxEventsOf operationId, outboxAge row ≤ outboxAge event := by
  constructor
  · intro latest
    obtain ⟨origin, -, all⟩ := newest_of_fold _ none event latest
    exact ⟨by simpa using origin, all⟩
  · rintro ⟨member, all⟩
    cases latest : s.latestOutbox? operationId with
    | none =>
      have kept : ∀ (events : List OutboxEvent) best, events.foldl
          (fun best event =>
            match best with
            | none => some event
            | some best => some (if Store.newerOutbox event best then event else best))
          (some best) ≠ none := by
        intro events
        induction events with
        | nil => simp
        | cons head tail ih => exact fun best => ih _
      unfold Store.latestOutbox? at latest
      cases rows : s.outboxEventsOf operationId with
      | nil =>
        rw [rows] at member
        cases member
      | cons head tail =>
        rw [rows] at latest
        exact absurd latest (kept tail head)
    | some newest =>
      obtain ⟨origin, -, above⟩ := newest_of_fold _ none newest latest
      have listed : newest ∈ s.outboxEventsOf operationId := by simpa using origin
      have age : outboxAge newest = outboxAge event := le_antisymm (all _ listed) (above _ member)
      exact congrArg some (rows_injOn_key _ (mem_select.mp listed).1 (mem_select.mp member).1
        (eventId_of_outboxAge age))

/-! ## The query and the recheck -/

/-- What the query asks of a row. -/
structure Candidate (s : Store) (cutoff : UtcTimestamp) (event : OutboxEvent) : Prop where
  stored : event ∈ s.outboxEvents.rows
  published : event.state = .published ∧
    ∃ publishedAt, event.publishedAt = some publishedAt ∧ publishedAt.value ≤ cutoff.value
  newest : ∀ row ∈ s.outboxEventsOf event.aggregateId, outboxAge row ≤ outboxAge event
  applicable : ∃ operation, s.operation? event.aggregateId = some operation ∧
    operation.state ∈ candidateStates event.command

theorem mem_strandedCandidates {event : OutboxEvent} :
    event ∈ strandedCandidates s cutoff ↔ Candidate s cutoff event := by
  have newest : ((s.outboxEventsOf event.aggregateId).any fun newer =>
      Store.newerOutbox newer event) = false ↔
        ∀ row ∈ s.outboxEventsOf event.aggregateId, outboxAge row ≤ outboxAge event := by
    simp only [List.any_eq_false, newerOutbox_iff, not_lt]
  unfold strandedCandidates
  rw [mem_select]
  simp only [Bool.and_eq_true, Bool.not_eq_true', decide_eq_true_eq, newest, Option.any_eq_true]
  constructor
  · rintro ⟨stored, ⟨⟨state, publishedAt, at_, old⟩, newest⟩, operation, found, fits⟩
    exact ⟨stored, ⟨state, publishedAt, at_, old⟩, newest, operation, found, fits⟩
  · rintro ⟨stored, ⟨state, publishedAt, at_, old⟩, newest, operation, found, fits⟩
    exact ⟨stored, ⟨⟨state, publishedAt, at_, old⟩, newest⟩, operation, found, fits⟩

theorem commandStates_candidates {state : OperationState} {command : WorkCommand}
    (fits : state ∈ commandStates command) : state ∈ candidateStates command := by
  revert fits
  cases command <;> simp only [commandStates, candidateStates] <;> grind

/-- The recheck asks the same of a stored row, but for the states its command fits. -/
theorem stillStranded_iff (stored : source ∈ s.outboxEvents.rows)
    (found : s.operation? source.aggregateId = some operation) :
    stillStranded s source operation cutoff = true ↔
      Candidate s cutoff source ∧ operation.state ∈ commandStates source.command := by
  have key : operation.operationId = source.aggregateId := (find?_some found).2
  have own : source ∈ s.outboxEventsOf source.aggregateId := mem_select.mpr ⟨stored, by simp⟩
  have latest : (s.latestOutbox? operation.operationId).map (·.eventId) = some source.eventId ↔
      ∀ row ∈ s.outboxEventsOf source.aggregateId, outboxAge row ≤ outboxAge source := by
    rw [key]
    constructor
    · intro named
      obtain ⟨newest, found, same⟩ := Option.map_eq_some_iff.mp named
      obtain ⟨member, above⟩ := latestOutbox?_eq_some_iff.mp found
      obtain rfl : newest = source := rows_injOn_key _ (mem_select.mp member).1 stored same
      exact above
    · intro above
      rw [latestOutbox?_eq_some_iff.mpr ⟨own, above⟩, Option.map_some]
  simp only [stillStranded, Bool.and_eq_true, decide_eq_true_eq, latest, Option.any_eq_true]
  constructor
  · rintro ⟨⟨⟨newest, state⟩, publishedAt, at_, old⟩, fits⟩
    exact ⟨⟨stored, ⟨state, publishedAt, at_, old⟩, newest, operation, found,
      commandStates_candidates fits⟩, fits⟩
  · rintro ⟨⟨-, ⟨state, publishedAt, at_, old⟩, newest, -⟩, fits⟩
    exact ⟨⟨⟨newest, state⟩, publishedAt, at_, old⟩, fits⟩

/-- The query lists one state more than the recheck accepts. -/
theorem candidateStates_iff {state : OperationState} {command : WorkCommand}
    (listed : state ∈ candidateStates command) :
    state ∈ commandStates command ↔ state ≠ .compensated := by
  revert listed
  cases command <;> cases state <;> decide

/-- The rows behind `list_stranded_candidate_ids`. -/
def listedCandidates (s : Store) (cutoff : UtcTimestamp) (limit : Nat) : List OutboxEvent :=
  ((strandedCandidates s cutoff).insertionSort fun a b => publishedFirst a b = true).take limit

theorem candidate_of_listed {event : OutboxEvent}
    (listed : event ∈ listedCandidates s cutoff limit) :
    Candidate s cutoff event :=
  mem_strandedCandidates.mp ((List.perm_insertionSort _ _).mem_iff.mp (List.mem_of_mem_take listed))

/-- A limit of one is enough to list something when there is something. -/
theorem listedCandidates_ne_nil {event : OutboxEvent} (limited : 1 ≤ limit)
    (candidate : Candidate s cutoff event) : listedCandidates s cutoff limit ≠ [] := by
  have member := (List.perm_insertionSort (fun a b => publishedFirst a b = true) _).mem_iff.mpr
    (mem_strandedCandidates.mpr candidate)
  intro empty
  obtain none | nothing := List.take_eq_nil_iff.mp empty
  · omega
  · rw [nothing] at member
    cases member

/-! ## One candidate -/

/-- The escalation `recover_stranded` asks for. -/
def exhaustedRequest (uuid5 : String → OpaqueId) (source : OutboxEvent) (operation : Operation)
    (now : UtcTimestamp) (maxRecoveries : Nat) : MessagingRecovery where
  operationId := operation.operationId
  expectedVersion := operation.version
  occurredAt := now
  actor := recoveryActor
  correlationId := source.correlationId
  reasonCode := recoveryExhaustedReason
  transitionAuditEventId := recoveryId uuid5 source.eventId "exhausted"
  command := source.command
  maxRecoveries := maxRecoveries

theorem recoverCandidate_of_found (stored : s.outboxEvent? candidateId = some source)
    (found : s.operation? source.aggregateId = some operation) :
    recoverCandidate uuid5 now cutoff maxRecoveries candidateId s =
      if !stillStranded s source operation cutoff then .ok (false, s)
      else if maxRecoveries ≤ s.countReasonForCommand operation.operationId
          recoveryRepublishedReason source.command operation.version then
        if s.countReasonForCommand operation.operationId recoveryExhaustedReason source.command
            operation.version = 0 then
          escalateExhausted uuid5 source operation now maxRecoveries s
        else .ok (false, s)
      else republish uuid5 source operation now s := by
  simp only [recoverCandidate, stored, found]

/-- An event with the next number of its operation and an unused id is appended. -/
private theorem appendNext_commits {event : AuditEvent}
    (number : event.sequence = s.nextSequence event.operationId)
    (fresh : s.auditEvents.find? event.auditEventId = none) :
    ∃ s', appendAll [event] s = .ok ((), s') := by
  have numbered : NumberedOn s event.operationId (s.nextSequence event.operationId) [event] :=
    ⟨by simp, by simp [number], fun row member => sequence_lt_nextSequence member⟩
  exact appendAll_commits numbered ⟨by simp, by simpa using fresh⟩

/-- The id of a single appended event was unused. -/
private theorem appended_fresh {t t' : KeyedTable.Table AuditEvent.auditEventId}
    {event : AuditEvent} (rows : t'.rows = t.rows ++ [event]) :
    t.find? event.auditEventId = none := by
  have nodup := t'.nodup
  rw [rows, List.map_append, List.nodup_append] at nodup
  exact find?_none.mpr fun row stored same =>
    nodup.2.2 _ (List.mem_map_of_mem stored) _ (List.mem_singleton.mpr rfl) same

theorem republish_ok {recovered : Bool}
    (ran : republish uuid5 source operation now s = .ok (recovered, s')) :
    recovered = true ∧
      Inserted (some (replayedOutbox uuid5 source operation now)) s.outboxEvents s'.outboxEvents ∧
      s'.auditEvents.rows = s.auditEvents.rows ++
        [republishedEvent uuid5 source operation now (s.nextSequence operation.operationId)] ∧
      s' = { s with auditEvents := s'.auditEvents, outboxEvents := s'.outboxEvents } := by
  unfold republish at ran
  obtain ⟨_, _, outboxed, ran⟩ := bind_ok.mp ran
  obtain ⟨_, written, rfl⟩ := OutboxRepository.insert_ok outboxed
  obtain ⟨_, _, read, ran⟩ := bind_ok.mp ran
  obtain ⟨rfl, rfl⟩ := get_ok.mp read
  obtain ⟨_, _, appended, done⟩ := bind_ok.mp ran
  obtain ⟨auditEvents, rfl, rows⟩ := appendAll_ok appended
  obtain ⟨rfl, rfl⟩ := pure_ok.mp done
  exact ⟨rfl, written, rows, rfl⟩

/-- A republication commits when the ids derived from its source are unused. -/
theorem republish_commits_iff :
    (∃ recovered s', republish uuid5 source operation now s = .ok (recovered, s')) ↔
      s.outboxEvent? (recoveryId uuid5 source.eventId "outbox") = none ∧
        s.auditEvents.find? (recoveryId uuid5 source.eventId "audit") = none := by
  constructor
  · rintro ⟨recovered, s', ran⟩
    obtain ⟨-, inserted, rows, -⟩ := republish_ok ran
    exact ⟨inserted.fresh, appended_fresh rows⟩
  · rintro ⟨outbox, audit⟩
    let row := replayedOutbox uuid5 source operation now
    let event := republishedEvent uuid5 source operation now (s.nextSequence operation.operationId)
    obtain ⟨outboxEvents, inserted⟩ : ∃ outboxEvents,
        OutboxRepository.insert row s = .ok ((), { s with outboxEvents }) :=
      OutboxRepository.insert_commits outbox
    obtain ⟨s', appended⟩ : ∃ s', appendAll [event] { s with outboxEvents } = .ok ((), s') :=
      appendNext_commits rfl audit
    exact ⟨true, s', bind_ok.mpr ⟨(), _, inserted, bind_ok.mpr ⟨_, _, get_ok.mpr ⟨rfl, rfl⟩,
      bind_ok.mpr ⟨(), s', appended, pure_ok.mpr ⟨rfl, rfl⟩⟩⟩⟩⟩

theorem commitEscalation_ok {request : MessagingRecovery} {kind : TransitionKind}
    {result : TransitionResult}
    (ran : commitEscalation request operation kind s = .ok (result, s')) :
    result.outcome = .applied ∧ operation.createdAt.value ≤ request.occurredAt.value ∧
      s.auditEvents.find? request.transitionAuditEventId = none := by
  unfold commitEscalation at ran
  obtain ⟨_, _, replaced, h₁⟩ := bind_ok.mp ran
  obtain ⟨clock, rfl, rfl⟩ := replaceOperation_ok replaced
  obtain ⟨_, _, updated, h₂⟩ := bind_ok.mp h₁
  obtain ⟨-, -, rfl⟩ := OperationRepository.updateCas_ok updated
  obtain ⟨_, _, read, h₃⟩ := bind_ok.mp h₂
  obtain ⟨rfl, rfl⟩ := get_ok.mp read
  obtain ⟨_, _, appended, done⟩ := bind_ok.mp h₃
  obtain ⟨auditEvents, rfl, rows⟩ := appendAll_ok appended
  obtain ⟨rfl, rfl⟩ := pure_ok.mp done
  exact ⟨rfl, clock, appended_fresh rows⟩

/-- An escalation at the operation's own version commits when the clock does not read before the
operation's creation and the id of its event is unused. -/
theorem commitEscalation_commits_iff {request : MessagingRecovery} {kind : TransitionKind}
    (found : s.operation? operation.operationId = some operation)
    (version : (operation.version : Int) = request.expectedVersion) :
    (∃ result s', commitEscalation request operation kind s = .ok (result, s')) ↔
      operation.createdAt.value ≤ request.occurredAt.value ∧
        s.auditEvents.find? request.transitionAuditEventId = none := by
  constructor
  · rintro ⟨result, s', ran⟩
    exact (commitEscalation_ok ran).2
  · rintro ⟨clock, audit⟩
    let moved := steppedOperation operation .manualIntervention request.occurredAt .unchanged
    let stepped : Store := { s with operations := s.operations.replace moved }
    have replaced : replaceOperation operation .manualIntervention (nextVersion operation.version)
        request.occurredAt .unchanged s = .ok (moved, s) := by
      rw [replaceOperation, if_neg (by omega)]
      rfl
    have updated : OperationRepository.updateCas request.expectedVersion moved s =
        .ok ((), stepped) := by
      have next : (moved.version : Int) = request.expectedVersion + 1 := by
        rw [← version]
        simp [moved, steppedOperation, nextVersion]
      rw [OperationRepository.updateCas, if_neg (not_not_intro next),
        show s.operation? moved.operationId = some operation from found]
      exact if_pos version
    obtain ⟨s', appended⟩ : ∃ s', appendAll
        [escalationEvent request operation (s.nextSequence operation.operationId)] stepped =
          .ok ((), s') := appendNext_commits rfl audit
    exact ⟨_, s', bind_ok.mpr ⟨moved, s, replaced, bind_ok.mpr ⟨(), stepped, updated,
      bind_ok.mpr ⟨stepped, stepped, get_ok.mpr ⟨rfl, rfl⟩,
        bind_ok.mpr ⟨(), s', appended, pure_ok.mpr ⟨rfl, rfl⟩⟩⟩⟩⟩⟩

/-- Every state a command fits can be escalated. -/
theorem recoveryKind?_of_fits {state : OperationState} {command : WorkCommand}
    (fits : state ∈ commandStates command) :
    ∃ kind, recoveryKind? state = some kind ∧
      evaluateOperationTransition (some state) .manualIntervention = true := by
  revert fits
  cases command <;> cases state <;> simp [commandStates, recoveryKind?] <;> decide

theorem escalateExhausted_commits_iff
    (found : s.operation? operation.operationId = some operation)
    (fits : operation.state ∈ commandStates source.command) :
    (∃ recovered s', escalateExhausted uuid5 source operation now maxRecoveries s =
        .ok (recovered, s')) ↔
      operation.createdAt.value ≤ now.value ∧
        s.auditEvents.find? (recoveryId uuid5 source.eventId "exhausted") = none := by
  obtain ⟨kind, recovery, legal⟩ := recoveryKind?_of_fits fits
  let request := exhaustedRequest uuid5 source operation now maxRecoveries
  have committed : escalateMessagingRecovery request s =
      commitEscalation request operation kind s := by
    simp [escalateMessagingRecovery, request, exhaustedRequest, found, recovery, legal]
  have commits : (∃ result s', commitEscalation request operation kind s = .ok (result, s')) ↔
      operation.createdAt.value ≤ now.value ∧
        s.auditEvents.find? (recoveryId uuid5 source.eventId "exhausted") = none :=
    commitEscalation_commits_iff found rfl
  rw [← commits]
  constructor
  · rintro ⟨recovered, s', ran⟩
    obtain ⟨result, s₁, escalated, -⟩ := bind_ok.mp ran
    exact ⟨result, s₁, committed.symm.trans escalated⟩
  · rintro ⟨result, s', ran⟩
    refine ⟨false, s', bind_ok.mpr ⟨result, s', committed.trans ran, ?_⟩⟩
    rw [if_neg (not_not_intro (commitEscalation_ok ran).1)]
    exact pure_ok.mpr ⟨rfl, rfl⟩

/-- What the unit of work would write for an accepted candidate is new to the store. -/
def WritesAccepted (uuid5 : String → OpaqueId) (now : UtcTimestamp) (maxRecoveries : Nat)
    (s : Store) (source : OutboxEvent) (operation : Operation) : Prop :=
  if maxRecoveries ≤ s.countReasonForCommand operation.operationId recoveryRepublishedReason
      source.command operation.version then
    s.countReasonForCommand operation.operationId recoveryExhaustedReason source.command
        operation.version = 0 ∧
      operation.createdAt.value ≤ now.value ∧
      s.auditEvents.find? (recoveryId uuid5 source.eventId "exhausted") = none
  else
    s.outboxEvent? (recoveryId uuid5 source.eventId "outbox") = none ∧
      s.auditEvents.find? (recoveryId uuid5 source.eventId "audit") = none

/-- What the unit of work of a candidate does, and when. -/
inductive CandidateRan (uuid5 : String → OpaqueId) (now cutoff : UtcTimestamp)
    (maxRecoveries : Nat) (candidateId : OpaqueId) (s s' : Store) : Prop where
  | skipped (same : s' = s)
  | republished (source : OutboxEvent) (operation : Operation)
      (stored : s.outboxEvent? candidateId = some source)
      (stranded : stillStranded s source operation cutoff = true)
      (below : s.countReasonForCommand operation.operationId recoveryRepublishedReason
        source.command operation.version < maxRecoveries)
      (made : Republished uuid5 source operation now s s')
  | escalated (source : OutboxEvent) (operation : Operation)
      (stored : s.outboxEvent? candidateId = some source)
      (found : s.operation? source.aggregateId = some operation)
      (stranded : stillStranded s source operation cutoff = true)
      (reached : maxRecoveries ≤ s.countReasonForCommand operation.operationId
        recoveryRepublishedReason source.command operation.version)
      (made : OperationEscalated (exhaustedRequest uuid5 source operation now maxRecoveries)
        operation s s')

theorem escalateExhausted_ok {recovered : Bool}
    (found : s.operation? operation.operationId = some operation)
    (ran : escalateExhausted uuid5 source operation now maxRecoveries s = .ok (recovered, s')) :
    recovered = false ∧ OperationEscalated
      (exhaustedRequest uuid5 source operation now maxRecoveries) operation s s' := by
  unfold escalateExhausted at ran
  obtain ⟨result, s₁, escalated, ran⟩ := bind_ok.mp ran
  split at ran
  · exact absurd ran throw_ok
  next applied =>
    obtain ⟨rfl, rfl⟩ := pure_ok.mp ran
    obtain ⟨loaded, made, -⟩ | ⟨-, refused⟩ := escalateMessagingRecovery_cases escalated
    · obtain rfl : loaded = operation := Option.some.inj (made.found.symm.trans found)
      exact ⟨rfl, made⟩
    · exact absurd (by simp [refused]) applied

theorem recoverCandidate_ran {recovered : Bool}
    (ran : recoverCandidate uuid5 now cutoff maxRecoveries candidateId s = .ok (recovered, s')) :
    CandidateRan uuid5 now cutoff maxRecoveries candidateId s s' := by
  cases stored : s.outboxEvent? candidateId with
  | none =>
    simp only [recoverCandidate, stored] at ran
    cases ran
    exact .skipped rfl
  | some source =>
    cases found : s.operation? source.aggregateId with
    | none =>
      simp only [recoverCandidate, stored, found] at ran
      cases ran
      exact .skipped rfl
    | some operation =>
      have own : s.operation? operation.operationId = some operation :=
        (find?_some found).2 ▸ found
      rw [recoverCandidate_of_found stored found] at ran
      split at ran
      · cases ran
        exact .skipped rfl
      next stranded =>
      have stranded : stillStranded s source operation cutoff = true := by simpa using stranded
      split at ran
      next reached =>
        split at ran
        · exact .escalated source operation stored found stranded reached
            (escalateExhausted_ok own ran).2
        · cases ran
          exact .skipped rfl
      next below =>
        obtain ⟨-, outboxEvents, auditEvents, frame⟩ := republish_ok ran
        exact .republished source operation stored stranded (Nat.lt_of_not_le below)
          ⟨found, stillStranded_fits stranded, outboxEvents, auditEvents, frame⟩

/-- The unit of work accepts the candidate and republishes or escalates it. -/
def Handles (uuid5 : String → OpaqueId) (now cutoff : UtcTimestamp) (maxRecoveries : Nat)
    (s : Store) (candidateId : OpaqueId) : Prop :=
  ∃ source operation recovered s', s.outboxEvent? candidateId = some source ∧
    s.operation? source.aggregateId = some operation ∧
    stillStranded s source operation cutoff = true ∧
    recoverCandidate uuid5 now cutoff maxRecoveries candidateId s = .ok (recovered, s') ∧
    (Republished uuid5 source operation now s s' ∨
      OperationEscalated (exhaustedRequest uuid5 source operation now maxRecoveries) operation s s')

theorem handles_iff (stored : s.outboxEvent? candidateId = some source)
    (found : s.operation? source.aggregateId = some operation) :
    Handles uuid5 now cutoff maxRecoveries s candidateId ↔
      stillStranded s source operation cutoff = true ∧
        WritesAccepted uuid5 now maxRecoveries s source operation := by
  have own : s.operation? operation.operationId = some operation := (find?_some found).2 ▸ found
  have unfolded : recoverCandidate uuid5 now cutoff maxRecoveries candidateId s = _ :=
    recoverCandidate_of_found stored found
  constructor
  · rintro ⟨_, _, recovered, s', stored', found', stranded, ran, made⟩
    cases stored.symm.trans stored'
    cases found.symm.trans found'
    have appended : s'.auditEvents.rows ≠ s.auditEvents.rows := by
      obtain made | made := made <;> simp [made.auditEvents]
    have fits := stillStranded_fits stranded
    refine ⟨stranded, ?_⟩
    rw [unfolded, stranded, Bool.not_true, if_neg Bool.false_ne_true] at ran
    unfold WritesAccepted
    split
    next reached =>
      rw [if_pos reached] at ran
      split at ran
      next first => exact ⟨first, (escalateExhausted_commits_iff own fits).mp ⟨_, _, ran⟩⟩
      next =>
        cases ran
        exact absurd rfl appended
    next below =>
      rw [if_neg below] at ran
      exact republish_commits_iff.mp ⟨_, _, ran⟩
  · rintro ⟨stranded, accepted⟩
    have fits := stillStranded_fits stranded
    rw [stranded, Bool.not_true, if_neg Bool.false_ne_true] at unfolded
    unfold WritesAccepted at accepted
    split at accepted
    next reached =>
      rw [if_pos reached, if_pos accepted.1] at unfolded
      obtain ⟨recovered, s', ran⟩ := (escalateExhausted_commits_iff own fits).mpr accepted.2
      exact ⟨source, operation, recovered, s', stored, found, stranded, unfolded.trans ran,
        .inr (escalateExhausted_ok own ran).2⟩
    next below =>
      rw [if_neg below] at unfolded
      obtain ⟨recovered, s', ran⟩ := republish_commits_iff.mpr accepted
      obtain ⟨-, outboxEvents, auditEvents, frame⟩ := republish_ok ran
      exact ⟨source, operation, recovered, s', stored, found, stranded, unfolded.trans ran,
        .inl ⟨found, fits, outboxEvents, auditEvents, frame⟩⟩

end Stateback.Messaging
