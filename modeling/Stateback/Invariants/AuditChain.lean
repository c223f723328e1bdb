import Stateback.Journal
import Stateback.Lib.EventLog
/-!
# The audit chain

An operation's audit events number from one without a gap, and its `operation.transitioned`
events are a chain of legal moves from PENDING_POLICY to its state, one version each.  Every
step either appends events that record no transition, or appends one transition and moves the
operation row with it.
-/

namespace Stateback.Invariants

open Domain Persistence Transitions Messaging KeyedTable.Table EventLog

/-! ## Audit events as log entries -/

/-- The state column is optional in an audit event, so moves are between optional states. -/
def LegalMove (source target : Option OperationState) : Prop :=
  ∃ state, target = some state ∧ evaluateOperationTransition source state = true

def moveOf (event : AuditEvent) : Move (Option OperationState) :=
  ⟨event.fromState, event.toState, event.operationVersion⟩

def entryOf (event : AuditEvent) : Entry (Option OperationState) where
  sequence := event.sequence
  move := if event.eventType = .operationTransitioned then some (moveOf event) else none

def transitionsOf (events : List AuditEvent) : List AuditEvent :=
  events.filter fun event => decide (event.eventType = .operationTransitioned)

theorem moves_map_entryOf (events : List AuditEvent) :
    moves (events.map entryOf) = (transitionsOf events).map moveOf := by
  induction events with
  | nil => rfl
  | cons event rest ih =>
    simp only [moves, transitionsOf] at ih ⊢
    by_cases transitioned : event.eventType = .operationTransitioned <;>
      simp [entryOf, transitioned, ih]

/-- No event leads out of an absolutely terminal state. -/
def LeavesNoTerminal (event : AuditEvent) : Prop :=
  ∀ state, event.fromState = some state → state.isAbsoluteTerminal = false

structure AuditChained (s : Store) (operationId : OpaqueId) : Prop where
  absent : s.operation? operationId = none → s.auditEventsOf operationId = []
  chained : ∀ operation, s.operation? operationId = some operation →
    WellFormed LegalMove (some .pendingPolicy) 1 (some operation.state) operation.version
      ((s.auditEventsOf operationId).map entryOf)
  leaves : ∀ event ∈ s.auditEventsOf operationId, LeavesNoTerminal event

theorem AuditChained.nextSequence {s : Store} {operationId : OpaqueId}
    (chained : AuditChained s operationId) {operation : Operation}
    (found : s.operation? operationId = some operation) :
    s.nextSequence operationId = (s.auditEventsOf operationId).length + 1 := by
  have sequences := (chained.chained operation found).sequences
  rw [List.map_map, List.length_map] at sequences
  have largest := largest_sequence sequences
  rw [List.foldr_map] at largest
  exact congrArg (· + 1) largest

/-! ## Appending events -/

variable {s s' : Store} {operationId : OpaqueId} {loaded : Operation}
  {events : List AuditEvent}

theorem auditEventsOf_append (rows : s'.auditEvents.rows = s.auditEvents.rows ++ events)
    (about : ∀ event ∈ events, event.operationId = operationId) (id : OpaqueId) :
    s'.auditEventsOf id = s.auditEventsOf id ++ if operationId = id then events else [] := by
  simp only [Store.auditEventsOf, select, rows, List.filter_append]
  congr 1
  split
  next same =>
    exact List.filter_eq_self.mpr fun event member => by
      rw [about event member, same, decide_eq_true rfl]
  next differs =>
    exact List.filter_eq_nil_iff.mpr fun event member => by
      rw [about event member, decide_eq_true_eq]
      exact differs

/-- Events of one operation that continue its numbering and leave no terminal state. -/
structure Appended (s : Store) (operationId : OpaqueId) (events : List AuditEvent) : Prop where
  sequences :
    events.map (·.sequence) = List.range' (s.nextSequence operationId) events.length
  about : ∀ event ∈ events, event.operationId = operationId
  leaves : ∀ event ∈ events, LeavesNoTerminal event

theorem Appended.numbered (appended : Appended s operationId events)
    (chained : AuditChained s operationId) (found : s.operation? operationId = some loaded) :
    (events.map entryOf).map (·.sequence) =
      List.range' (((s.auditEventsOf operationId).map entryOf).length + 1)
        (events.map entryOf).length := by
  rw [List.map_map, List.length_map, List.length_map, ← chained.nextSequence found]
  exact appended.sequences

/-- Appending to one operation's events touches no other chain, and keeps its own if the new
log is well formed for the new row. -/
theorem AuditChained.append (before : ∀ id, AuditChained s id)
    (rows : s'.auditEvents.rows = s.auditEvents.rows ++ events)
    (appended : Appended s operationId events)
    (others : ∀ id, operationId ≠ id → s'.operation? id = s.operation? id)
    (chained : ∃ operation, s'.operation? operationId = some operation ∧
      WellFormed LegalMove (some .pendingPolicy) 1 (some operation.state) operation.version
        (((s.auditEventsOf operationId) ++ events).map entryOf)) (id : OpaqueId) :
    AuditChained s' id := by
  have logged := auditEventsOf_append rows appended.about id
  by_cases same : operationId = id
  · subst same
    rw [if_pos rfl] at logged
    obtain ⟨operation, found, wf⟩ := chained
    refine ⟨fun absent => ?_, fun other otherFound => ?_, fun event member => ?_⟩
    · rw [found] at absent
      cases absent
    · rw [found, Option.some.injEq] at otherFound
      rw [logged, ← otherFound]
      exact wf
    · rw [logged, List.mem_append] at member
      exact member.elim ((before operationId).leaves event) (appended.leaves event)
  · rw [if_neg same, List.append_nil] at logged
    have row := others id same
    exact ⟨by rw [row, logged]; exact (before id).absent,
      by rw [row, logged]; exact (before id).chained,
      by rw [logged]; exact (before id).leaves⟩

/-- Events that record no transition keep every chain. -/
theorem AuditChained.append_quiet (before : ∀ id, AuditChained s id)
    (found : s.operation? operationId = some loaded) (operations : s'.operations = s.operations)
    (rows : s'.auditEvents.rows = s.auditEvents.rows ++ events)
    (appended : Appended s operationId events)
    (quiet : ∀ event ∈ events, event.eventType ≠ .operationTransitioned) (id : OpaqueId) :
    AuditChained s' id := by
  have same : ∀ id, s'.operation? id = s.operation? id := fun id => by
    rw [Store.operation?, operations, Store.operation?]
  refine AuditChained.append before rows appended (fun id _ => same id)
    ⟨loaded, (same operationId).trans found, ?_⟩ id
  rw [List.map_append]
  refine ((before operationId).chained loaded found).append_quiet
    (appended.numbered (before operationId) found) ?_
  rw [moves_map_entryOf, transitionsOf,
    List.filter_eq_nil_iff.mpr fun event member => by simpa using quiet event member,
    List.map_nil]

/-- Events with one transition, whose operation row steps with it, keep every chain. -/
theorem AuditChained.append_move {state : OperationState} {updatedAt : UtcTimestamp}
    {pointers : PointerUpdate} (before : ∀ id, AuditChained s id)
    (found : s.operation? operationId = some loaded)
    (operations : s'.operations =
      s.operations.replace (steppedOperation loaded state updatedAt pointers))
    (rows : s'.auditEvents.rows = s.auditEvents.rows ++ events)
    (appended : Appended s operationId events)
    (legal : evaluateOperationTransition (some loaded.state) state = true)
    (single : moves (events.map entryOf) =
      [⟨some loaded.state, some state, nextVersion loaded.version⟩]) (id : OpaqueId) :
    AuditChained s' id := by
  have row := operation?_replace_stepped found operations
  refine AuditChained.append before rows appended (fun id differs => ?_)
    ⟨steppedOperation loaded state updatedAt pointers, ?_, ?_⟩ id
  · rw [row, if_neg differs]
  · rw [row, if_pos rfl]
  · rw [List.map_append]
    exact ((before operationId).chained loaded found).append_move
      (appended.numbered (before operationId) found) single rfl rfl ⟨state, rfl, legal⟩

/-- A step that leaves the operation rows and the audit events alone keeps every chain. -/
theorem AuditChained.frame (before : ∀ id, AuditChained s id)
    (operations : s'.operations = s.operations) (auditEvents : s'.auditEvents = s.auditEvents)
    (id : OpaqueId) : AuditChained s' id := by
  have row : s'.operation? id = s.operation? id := by
    rw [Store.operation?, operations, Store.operation?]
  have logged : s'.auditEventsOf id = s.auditEventsOf id := by
    rw [Store.auditEventsOf, auditEvents, Store.auditEventsOf]
  exact ⟨by rw [row, logged]; exact (before id).absent,
    by rw [row, logged]; exact (before id).chained,
    by rw [logged]; exact (before id).leaves⟩

/-! ## The events of each step -/

theorem detailEntries_quiet (command : OperationCommand) (loaded : Operation)
    (related : RelatedRecords) :
    ∀ entry ∈ detailEntries command loaded related, entry.2.1 ≠ .operationTransitioned := by
  unfold detailEntries
  dsimp only
  split <;> simp

theorem numberEvents_moves (command : OperationCommand) (operationId : OpaqueId)
    (version sequence : Nat) (entries : List (OpaqueId × AuditEventType × JsonValue)) :
    moves ((numberEvents command operationId version sequence entries).map entryOf) =
      entries.filterMap fun entry =>
        if entry.2.1 = .operationTransitioned then
          some ⟨command.kind.edge.1, some command.kind.edge.2, version⟩
        else none := by
  induction entries generalizing sequence with
  | nil => rfl
  | cons entry rest ih =>
    simp only [moves] at ih ⊢
    by_cases transitioned : entry.2.1 = .operationTransitioned <;>
      simp [numberEvents, entryOf, moveOf, transitioned, ih]

/-- The audit events of an operation command record its one move. -/
theorem auditEventsFor_moves (s : Store) (command : OperationCommand)
    (loaded newOperation : Operation) (related : RelatedRecords) :
    moves ((auditEventsFor s command loaded newOperation related).map entryOf) =
      [⟨command.kind.edge.1, some command.kind.edge.2, newOperation.version⟩] := by
  rw [auditEventsFor, numberEvents_moves, List.filterMap_append]
  have quiet : (detailEntries command loaded related).filterMap (fun entry =>
      if entry.2.1 = .operationTransitioned then
        some (⟨command.kind.edge.1, some command.kind.edge.2, newOperation.version⟩ :
          Move (Option OperationState))
      else none) = [] :=
    List.filterMap_eq_nil_iff.mpr fun entry member =>
      if_neg (detailEntries_quiet command loaded related entry member)
  rw [quiet]
  rfl

theorem appended_of_moved {command : OperationCommand}
    (made : OperationMoved command loaded s s') :
    Appended s command.operationId
      (auditEventsFor s command loaded (movedOperation command loaded)
        (loadRelated s command loaded)) where
  sequences := by
    rw [auditEventsFor, numberEvents_sequences, (find?_some made.found).2]
  about event member := (numberEvents_mem member).1.trans (find?_some made.found).2
  leaves event member state source := by
    rw [(numberEvents_mem member).2, made.source, Option.some.injEq] at source
    exact source ▸ no_legal_transition_from_absolute_terminal made.legal

theorem appended_of_progress (found : s.operation? operationId = some loaded)
    (logged : ProgressEvents loaded (s.nextSequence loaded.operationId) events) :
    Appended s operationId events where
  sequences := (find?_some found).2 ▸ logged.sequences
  about event member := (logged.about event member).trans (find?_some found).2
  leaves event member state source := by
    rw [logged.stays event member, Option.some.injEq] at source
    exact source ▸ rfl

/-! ## The invariant -/

theorem AuditChained.empty (operationId : OpaqueId) : AuditChained .empty operationId where
  absent _ := rfl
  chained _ found := by cases found
  leaves _ member := by cases member

theorem AuditChained.created {command : CreateOperation} (before : ∀ id, AuditChained s id)
    (made : OperationCreated command s s') (id : OpaqueId) : AuditChained s' id := by
  have fresh := (insert?_eq_some.mp made.operations).1
  have row : ∀ id, s'.operation? id =
      if command.operation.operationId = id then some command.operation else s.operation? id :=
    find?_insert made.operations
  have none_before : s.auditEventsOf command.operation.operationId = [] :=
    (before _).absent fresh
  have appended : Appended s command.operation.operationId [createdEvent command] :=
    ⟨by simp [Store.nextSequence, none_before, createdEvent, initialAuditSequence],
      by simp [createdEvent], by simp [LeavesNoTerminal, createdEvent]⟩
  refine AuditChained.append before made.auditEvents appended (fun id differs => ?_)
    ⟨command.operation, by rw [row, if_pos rfl], ?_⟩ id
  · rw [row, if_neg differs]
  · rw [none_before, made.state, made.version]
    exact ⟨rfl, rfl, rfl⟩

theorem AuditChained.step {action : JournalAction} (before : ∀ id, AuditChained s id)
    (taken : JournalStep action s s') (id : OpaqueId) : AuditChained s' id := by
  cases taken with
  | unchanged same => exact same ▸ before id
  | created command _ made => exact .created before made id
  | moved command loaded _ made =>
    refine .append_move before made.found made.operations made.auditEvents
      (appended_of_moved made) made.legal ?_ id
    rw [auditEventsFor_moves, made.source]
    rfl
  | progressed progress _ _ _ made =>
    exact .append_quiet before made.found (by rw [made.written.frame]) made.written.auditEvents
      (appended_of_progress made.found made.logged) made.logged.quiet id
  | escalated request loaded made =>
    have key := (find?_some made.found).2
    refine .append_move before made.found made.operations made.auditEvents ⟨?_, ?_, ?_⟩
      made.legal rfl id
    · rw [key]
      rfl
    · simpa [escalationEvent] using key
    · simpa [LeavesNoTerminal, escalationEvent] using
        no_legal_transition_from_absolute_terminal made.legal
  | republished uuid5 source operation now made =>
    have key := (find?_some made.found).2
    refine .append_quiet before made.found (by rw [made.frame]) made.auditEvents ⟨?_, ?_, ?_⟩
      ?_ id
    · rw [key]
      rfl
    · simpa [republishedEvent] using key
    · simp [LeavesNoTerminal, republishedEvent]
    · simp [republishedEvent]
  | published outboxEvents same => exact .frame before (by rw [same]) (by rw [same]) id
  | evidencePersisted completed attempts _ same =>
    exact .frame before (by rw [same]) (by rw [same]) id
  | resultPersisted result verifications same =>
    exact .frame before (by rw [same]) (by rw [same]) id

/-- The chain of every operation, absent ones included. -/
def AuditChainedJournal (s : Store) : Prop := ∀ operationId, AuditChained s operationId

theorem auditChained_of_reachable {uuid5 : String → OpaqueId} (reachable : Reachable uuid5 s) :
    AuditChainedJournal s :=
  reachable.invariant AuditChained.empty fun _ _ _ before taken => AuditChained.step before taken

/-- The version and the audit events of every operation tell the same history. -/
theorem version_matches_audit_chain {uuid5 : String → OpaqueId} {s : Store}
    (reachable : Reachable uuid5 s) {operationId : OpaqueId} {operation : Operation}
    (found : s.operation? operationId = some operation) :
    let events := s.auditEventsOf operationId
    let transitions := transitionsOf events
    events.map (·.sequence) = List.range' 1 events.length ∧
      operation.version = 1 + transitions.length ∧
      Chain LegalMove (some .pendingPolicy) 1 (transitions.map moveOf) (some operation.state) ∧
      (∀ event ∈ transitions, ∃ next, event.toState = some next ∧
        (event.fromState, next) ∈ legalOperationTransitions) ∧
      transitions.map (·.operationVersion) = List.range' 2 transitions.length ∧
      ∀ event ∈ events, event.fromState ≠ some .denied ∧ event.fromState ≠ some .cancelled ∧
        event.fromState ≠ some .compensated := by
  intro events transitions
  have chained := auditChained_of_reachable reachable operationId
  have wf := chained.chained operation found
  have chain := wf.chain
  rw [moves_map_entryOf] at chain
  refine ⟨?_, ?_, chain, fun event member => ?_, ?_, fun event member => ?_⟩
  · have sequences := wf.sequences
    rwa [List.map_map, List.length_map] at sequences
  · have count := wf.versionCount
    rwa [moves_map_entryOf, List.length_map] at count
  · obtain ⟨next, target, legal⟩ := chain.legal_of_mem (List.mem_map_of_mem member)
    exact ⟨next, target, of_decide_eq_true legal⟩
  · have versions := chain.versions
    rwa [List.map_map, List.length_map] at versions
  · have leaves := chained.leaves event member
    refine ⟨fun source => ?_, fun source => ?_, fun source => ?_⟩ <;>
    · have terminal := leaves _ source
      cases terminal

/-! ## A journal to read the statements on -/

def sampleRequester : PrincipalRef := ⟨.agent, "agent-1", none⟩

def sampleIntent : IntentEnvelope where
  effect := ⟨"mail", "send", "1"⟩
  argumentsMode := .inline
  arguments := some (.object [("to", .str "ops")])
  argumentsRef := none
  canonicalArgumentsHash := "623d3cec5eddbe3fb71bc8124f609f59cffbcfdee408aba4074a6287e59368a3"
  intentDigest := "a425d374485a76d5c0418a69039777007fc58714bc7d077cb3babc1659c78bcd"
  requester := sampleRequester
  requestedAt := ⟨0⟩
  metadata := []

def sampleOperation : Operation where
  contractVersion := contractVersion
  operationId := idOf "op"
  state := .pendingPolicy
  version := 1
  intent := sampleIntent
  riskLevel := .low
  idempotencyIdentity := operationIdempotencyIdentity (idOf "op")
  currentPolicyDecisionId := none
  currentApprovalId := none
  latestAttemptId := none
  latestVerificationId := none
  compensationId := none
  createdAt := ⟨0⟩
  updatedAt := ⟨0⟩

def sampleCreate : TransitionCommand :=
  .create
    { operation := sampleOperation
      occurredAt := ⟨0⟩
      actor := some sampleRequester
      correlationId := none
      reasonCode := "create"
      createdAuditEventId := idOf "audit-created" }

def samplePolicyDecision : PolicyDecision where
  contractVersion := contractVersion
  policyDecisionId := idOf "policy"
  operationId := idOf "op"
  operationVersion := 1
  intentDigest := sampleIntent.intentDigest
  verdict := .allow
  reasonCodes := ["allowed"]
  explanation := none
  obligations := ⟨false, none, none, false, false, none⟩
  policyRevision := "r1"
  evaluatedAt := ⟨1⟩

/-- A command on the sample operation. -/
def sampleCommand (expectedVersion : Int) (occurredAt : Int) (transitionAuditEventId : String)
    (body : CommandBody) : TransitionCommand :=
  .operation
    { operationId := idOf "op"
      expectedVersion := expectedVersion
      occurredAt := ⟨occurredAt⟩
      actor := some sampleRequester
      correlationId := none
      reasonCode := "sample"
      transitionAuditEventId := idOf transitionAuditEventId
      body := body }

def sampleAllow : TransitionCommand :=
  sampleCommand 1 1 "audit-ready"
    (.policyAllow samplePolicyDecision (idOf "audit-policy") (idOf "outbox"))

/-- A created and allowed operation, with the allow command delivered twice. -/
def allowedJournal : Store :=
  run idOf .empty
    [.transition sampleCreate, .transition sampleAllow, .transition sampleAllow]

def allowedOperation : Operation :=
  { sampleOperation with
    state := .ready
    version := 2
    updatedAt := ⟨1⟩
    currentPolicyDecisionId := some (idOf "policy") }

theorem allowedJournal_reachable : Reachable idOf allowedJournal := ⟨_, rfl⟩

theorem allowedJournal_operation :
    allowedJournal.operation? (idOf "op") = some allowedOperation := by
  decide

theorem version_matches_audit_chain_allowed :
    (allowedJournal.auditEventsOf (idOf "op")).map (·.sequence) = [1, 2, 3] ∧
      (transitionsOf (allowedJournal.auditEventsOf (idOf "op"))).map (·.operationVersion) =
        [2] := by
  obtain ⟨sequences, version, -, -, versions, -⟩ :=
    version_matches_audit_chain allowedJournal_reachable allowedJournal_operation
  have length : (allowedJournal.auditEventsOf (idOf "op")).length = 3 := by decide
  have transitions : (transitionsOf (allowedJournal.auditEventsOf (idOf "op"))).length = 1 := by
    decide
  rw [length] at sequences
  rw [transitions] at versions
  exact ⟨sequences, versions⟩

end Stateback.Invariants
