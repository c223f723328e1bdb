import Stateback.Transitions.Effects
/-!
# The outbox relay

`src/stateback/messaging/relay.py`: the unit of work `recover_stranded` runs for one candidate,
and the row update of `_publish_one`.  `uuid5` under the URL namespace is a parameter; the
broker's acknowledgement only decides whether the update commits.
-/

namespace Stateback.Messaging

open Stateback.Domain Stateback.Persistence Stateback.Transitions KeyedTable.Table Transaction

def recoveryRepublishedReason : String := "messaging.recovery_republished"
def recoveryExhaustedReason : String := "messaging.recovery_exhausted"

def recoveryActor : PrincipalRef :=
  ⟨.service, "stateback.outbox_recovery", some "StatebackOutboxRecovery"⟩

/-- `_COMMAND_STATES`. -/
def commandStates : WorkCommand → List OperationState
  | .execute => [.ready, .executing]
  | .verify => [.executing, .unknown, .verifying, .compensating, .compensationUnknown]
  | .compensate => [.compensating, .compensationUnknown, .compensationFailed]

/-- The states `list_stranded_candidate_ids` pairs with a command. -/
def candidateStates : WorkCommand → List OperationState
  | .execute => [.ready, .executing]
  | .verify => [.executing, .unknown, .verifying, .compensating, .compensationUnknown]
  | .compensate => [.compensating, .compensationUnknown, .compensationFailed, .compensated]

def strandedCandidates (s : Store) (cutoff : UtcTimestamp) : List OutboxEvent :=
  s.outboxEvents.select fun event =>
    decide (event.state = .published)
      && event.publishedAt.any (fun publishedAt => decide (publishedAt.value ≤ cutoff.value))
      && !(s.outboxEventsOf event.aggregateId).any (fun newer => Store.newerOutbox newer event)
      && (s.operation? event.aggregateId).any fun operation =>
        decide (operation.state ∈ candidateStates event.command)

/-- Publication time, then event id; a candidate has a publication time. -/
def publishedFirst (a b : OutboxEvent) : Bool :=
  match a.publishedAt, b.publishedAt with
  | some first, some second =>
    decide (first.value < second.value) ||
      decide (first = second) && decide (a.eventId.value ≤ b.eventId.value)
  | _, _ => false

/-- `OutboxRepository.list_stranded_candidate_ids`. -/
def listStrandedCandidateIds (s : Store) (cutoff : UtcTimestamp) (limit : Nat) :
    List OpaqueId :=
  (((strandedCandidates s cutoff).insertionSort fun a b => publishedFirst a b = true).take
    limit).map (·.eventId)

def recoveryId (uuid5 : String → OpaqueId) (sourceEventId : OpaqueId) (purpose : String) :
    OpaqueId :=
  uuid5 ("stateback:outbox-recovery:" ++ sourceEventId.value ++ ":" ++ purpose)

/-- What the recheck under the row lock requires of a candidate. -/
def stillStranded (s : Store) (source : OutboxEvent) (operation : Operation)
    (cutoff : UtcTimestamp) : Bool :=
  decide ((s.latestOutbox? operation.operationId).map (·.eventId) = some source.eventId)
    && decide (source.state = .published)
    && source.publishedAt.any (fun publishedAt => decide (publishedAt.value ≤ cutoff.value))
    && decide (operation.state ∈ commandStates source.command)

/-- The diagnostic a republication leaves: it records no move and no version. -/
def republishedEvent (uuid5 : String → OpaqueId) (source : OutboxEvent) (operation : Operation)
    (now : UtcTimestamp) (sequence : Nat) : AuditEvent where
  contractVersion := contractVersion
  auditEventId := recoveryId uuid5 source.eventId "audit"
  operationId := operation.operationId
  sequence := sequence
  eventType := .outboxDiagnostic
  fromState := none
  toState := none
  operationVersion := operation.version
  actor := some recoveryActor
  reasonCode := recoveryRepublishedReason
  data := jsonObjectFromPlain
    [("source_outbox_event_id", .str source.eventId.value),
     ("recovery_outbox_event_id", .str (recoveryId uuid5 source.eventId "outbox").value),
     ("command", .str source.command.value)]
  correlationId := source.correlationId
  createdAt := now

/-- The fresh outbox row of a republication, at the operation's present version. -/
def replayedOutbox (uuid5 : String → OpaqueId) (source : OutboxEvent) (operation : Operation)
    (now : UtcTimestamp) : OutboxEvent :=
  buildOutboxEvent (recoveryId uuid5 source.eventId "outbox") operation.operationId
    operation.version source.command now source.correlationId

def republish (uuid5 : String → OpaqueId) (source : OutboxEvent) (operation : Operation)
    (now : UtcTimestamp) : Uow Bool := do
  OutboxRepository.insert (replayedOutbox uuid5 source operation now)
  let s ← get
  appendAll
    [republishedEvent uuid5 source operation now (s.nextSequence operation.operationId)]
  pure true

def escalateExhausted (uuid5 : String → OpaqueId) (source : OutboxEvent) (operation : Operation)
    (now : UtcTimestamp) (maxRecoveries : Nat) : Uow Bool := do
  let result ← escalateMessagingRecovery
    { operationId := operation.operationId
      expectedVersion := operation.version
      occurredAt := now
      actor := recoveryActor
      correlationId := source.correlationId
      reasonCode := recoveryExhaustedReason
      transitionAuditEventId := recoveryId uuid5 source.eventId "exhausted"
      command := source.command
      maxRecoveries := maxRecoveries }
  if result.outcome ≠ .applied then
    throw (.runtimeError "messaging recovery escalation rejected")
  else pure false

/-- One candidate of `recover_stranded`: skipped, escalated or republished.  Answers whether it
counts as recovered. -/
def recoverCandidate (uuid5 : String → OpaqueId) (now cutoff : UtcTimestamp)
    (maxRecoveries : Nat) (candidateId : OpaqueId) : Uow Bool := fun s =>
  match s.outboxEvent? candidateId with
  | none => .ok (false, s)
  | some source =>
    match s.operation? source.aggregateId with
    | none => .ok (false, s)
    | some operation =>
      if !stillStranded s source operation cutoff then .ok (false, s)
      else if maxRecoveries ≤ s.countReasonForCommand operation.operationId
          recoveryRepublishedReason source.command operation.version then
        if s.countReasonForCommand operation.operationId recoveryExhaustedReason source.command
            operation.version = 0 then
          escalateExhausted uuid5 source operation now maxRecoveries s
        else .ok (false, s)
      else
        republish uuid5 source operation now s

/-! ## What a candidate's unit of work writes -/

structure Republished (uuid5 : String → OpaqueId) (source : OutboxEvent) (operation : Operation)
    (now : UtcTimestamp) (s s' : Store) : Prop where
  found : s.operation? source.aggregateId = some operation
  fits : operation.state ∈ commandStates source.command
  outboxEvents :
    Inserted (some (replayedOutbox uuid5 source operation now)) s.outboxEvents s'.outboxEvents
  auditEvents : s'.auditEvents.rows = s.auditEvents.rows ++
    [republishedEvent uuid5 source operation now (s.nextSequence operation.operationId)]
  frame : s' = { s with auditEvents := s'.auditEvents, outboxEvents := s'.outboxEvents }

theorem stillStranded_fits {s : Store} {source : OutboxEvent} {operation : Operation}
    {cutoff : UtcTimestamp} (stranded : stillStranded s source operation cutoff = true) :
    operation.state ∈ commandStates source.command := by
  unfold stillStranded at stranded
  exact of_decide_eq_true (Bool.and_eq_true_iff.mp stranded).2

theorem recoverCandidate_cases {uuid5 : String → OpaqueId} {now cutoff : UtcTimestamp}
    {maxRecoveries : Nat} {candidateId : OpaqueId} {s s' : Store} {recovered : Bool}
    (h : recoverCandidate uuid5 now cutoff maxRecoveries candidateId s = .ok (recovered, s')) :
    (s' = s ∧ recovered = false) ∨
      (∃ request loaded, OperationEscalated request loaded s s' ∧ recovered = false) ∨
      ∃ source operation, Republished uuid5 source operation now s s' ∧ recovered = true := by
  unfold recoverCandidate at h
  split at h
  · cases h
    exact .inl ⟨rfl, rfl⟩
  next source sourceFound =>
  split at h
  · cases h
    exact .inl ⟨rfl, rfl⟩
  next operation found =>
  split at h
  · cases h
    exact .inl ⟨rfl, rfl⟩
  next stranded =>
  have fits := stillStranded_fits (by simpa using stranded)
  split at h
  · split at h
    · unfold escalateExhausted at h
      obtain ⟨result, s₁, escalated, h₁⟩ := bind_ok.mp h
      split at h₁
      · exact absurd h₁ throw_ok
      next applied =>
      obtain ⟨rfl, rfl⟩ := pure_ok.mp h₁
      obtain ⟨loaded, moved, -⟩ | ⟨-, refused⟩ := escalateMessagingRecovery_cases escalated
      · exact .inr (.inl ⟨_, loaded, moved, rfl⟩)
      · exact absurd (refused ▸ nofun) applied
    · cases h
      exact .inl ⟨rfl, rfl⟩
  · unfold republish at h
    obtain ⟨_, _, outboxed, h₁⟩ := bind_ok.mp h
    obtain ⟨_, written, rfl⟩ := OutboxRepository.insert_ok outboxed
    obtain ⟨_, _, read, h₂⟩ := bind_ok.mp h₁
    obtain ⟨rfl, rfl⟩ := get_ok.mp read
    obtain ⟨_, _, appended, done⟩ := bind_ok.mp h₂
    obtain ⟨auditEvents, rfl, rows⟩ := appendAll_ok appended
    obtain ⟨rfl, rfl⟩ := pure_ok.mp done
    exact .inr (.inr ⟨source, operation, ⟨found, fits, written, rows, rfl⟩, rfl⟩)

end Stateback.Messaging
