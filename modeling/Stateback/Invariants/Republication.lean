import Stateback.Invariants.Stranded
/-!
# Bounded republication

The relay counts its republications in the audit history, by version and command.  Every row it
writes has an id derived from the event it replays, and a replay is newer than its source: a
source once replayed is never again the newest row of its operation, and an escalated one not
before an operator schedules newer work.
-/

namespace Stateback.Invariants

open Domain Persistence Transitions Providers Messaging KeyedTable KeyedTable.Table Transaction
open Process

variable {s s' : Store} {uuid5 : String → OpaqueId} {known : List OpaqueId} {maxRecoveries : Nat}

/-! ## Derived ids -/

def relayPurposes : List String := ["outbox", "audit", "exhausted"]

def recoveryName (sourceEventId : OpaqueId) (purpose : String) : String :=
  "stateback:outbox-recovery:" ++ sourceEventId.value ++ ":" ++ purpose

/-- The names the relay derives ids from, for the events of a run. -/
def relayNames (known : List OpaqueId) : List String :=
  known.flatMap fun sourceEventId => relayPurposes.map (recoveryName sourceEventId)

/-- The id is one the relay derives from an event of the run. -/
def RelayId (uuid5 : String → OpaqueId) (known : List OpaqueId) (id : OpaqueId) : Prop :=
  id ∈ (relayNames known).map uuid5

instance (id : OpaqueId) : Decidable (RelayId uuid5 known id) :=
  inferInstanceAs (Decidable (_ ∈ _))

/-- `uuid5` does not collide on the relay's names for the events of the run. -/
def NamesApart (uuid5 : String → OpaqueId) (known : List OpaqueId) : Prop :=
  ∀ a ∈ relayNames known, ∀ b ∈ relayNames known, uuid5 a = uuid5 b → a = b

instance : Decidable (NamesApart uuid5 known) :=
  inferInstanceAs (Decidable (∀ _ ∈ _, _))

theorem mem_relayNames {sourceEventId : OpaqueId} {purpose : String}
    (stored : sourceEventId ∈ known) (listed : purpose ∈ relayPurposes) :
    recoveryName sourceEventId purpose ∈ relayNames known :=
  List.mem_flatMap.mpr ⟨sourceEventId, stored, List.mem_map_of_mem listed⟩

theorem relayId_recoveryId {sourceEventId : OpaqueId} {purpose : String}
    (stored : sourceEventId ∈ known) (listed : purpose ∈ relayPurposes) :
    RelayId uuid5 known (recoveryId uuid5 sourceEventId purpose) :=
  List.mem_map_of_mem (mem_relayNames stored listed)

/-- As long as names do not collide, an id tells its source and purpose. -/
theorem recoveryId_inj (apart : NamesApart uuid5 known) {a b : OpaqueId} {p q : String}
    (storedA : a ∈ known) (storedB : b ∈ known)
    (listedP : p ∈ relayPurposes) (listedQ : q ∈ relayPurposes)
    (same : recoveryId uuid5 a p = recoveryId uuid5 b q) : a = b ∧ p = q := by
  have rest := congrArg String.toList
    (apart _ (mem_relayNames storedA listedP) _ (mem_relayNames storedB listedQ) same)
  unfold recoveryName at rest
  simp only [String.toList_append, List.append_assoc, List.append_right_inj] at rest
  have purpose : p = q := by
    have ends := congrArg List.getLast? rest
    simp only [relayPurposes, List.mem_cons, List.not_mem_nil, or_false] at listedP listedQ
    rcases listedP with rfl | rfl | rfl <;> rcases listedQ with rfl | rfl | rfl <;>
      first | rfl | (simp at ends)
  subst purpose
  have value := List.append_cancel_right rest
  cases a
  cases b
  exact ⟨congrArg OpaqueId.mk (String.toList_injective value), rfl⟩

/-! ## The command in an audit event -/

private theorem mem_insertByKey {pair other : String × JsonValue}
    {items : List (String × JsonValue)} :
    other ∈ insertByKey pair items ↔ other = pair ∨ other ∈ items := by
  induction items with
  | nil => simp [insertByKey]
  | cons head tail ih =>
    rw [insertByKey]
    split
    · simp
    · simp only [List.mem_cons, ih]
      tauto

private theorem mem_sortByKey {other : String × JsonValue} {items : List (String × JsonValue)} :
    other ∈ sortByKey items ↔ other ∈ items := by
  induction items with
  | nil => simp [sortByKey]
  | cons head tail ih =>
    rw [sortByKey, List.foldr_cons, mem_insertByKey, List.mem_cons]
    exact or_congr_right ih

/-- The data of a transition's own events names no command. -/
theorem commandText?_auditData {event : AuditEvent} {pairs : List (String × Option String)}
    (data : event.data = auditData pairs) : Store.commandText? event = none := by
  have absent : ∀ items : List (String × JsonValue), (∀ pair ∈ items, pair.1 ≠ "command") →
      items.lookup "command" = none := by
    intro items others
    induction items with
    | nil => rfl
    | cons head tail ih =>
      have first : head.1 ≠ "command" := others head List.mem_cons_self
      rw [List.lookup_cons, beq_eq_false_iff_ne.mpr first.symm]
      exact ih fun pair member => others pair (List.mem_cons_of_mem _ member)
  rw [Store.commandText?, data, auditData, jsonObjectFromPlain]
  dsimp only
  rw [absent]
  intro pair member
  obtain ⟨given, -, kept⟩ := List.mem_filterMap.mp (mem_sortByKey.mp member)
  split at kept
  · cases kept
  · split at kept
    next allowed =>
      cases kept
      intro named
      rw [show given.1 = "command" from named] at allowed
      exact absurd allowed (by decide)
    · cases kept

/-- The event's data is built from the keys a transition may write. -/
def Plain (event : AuditEvent) : Prop := ∃ pairs, event.data = auditData pairs

theorem detailEntries_plain (command : OperationCommand) (loaded : Operation)
    (related : RelatedRecords) :
    ∀ entry ∈ detailEntries command loaded related, ∃ pairs, entry.2.2 = auditData pairs := by
  have evidence : ∀ kind completed, ∃ pairs,
      detailEntries.evidenceData related kind completed = auditData pairs := by
    intro kind completed
    cases completed <;> exact ⟨_, rfl⟩
  unfold detailEntries
  cases command.body <;>
    simp only [List.mem_cons, List.not_mem_nil, or_false, forall_eq_or_imp, forall_eq,
      false_imp_iff, implies_true, detailEntries.resultData, detailEntries.compensationData] <;>
    first
    | exact ⟨_, rfl⟩
    | exact evidence _ _
    | exact ⟨⟨_, rfl⟩, _, rfl⟩

theorem transitionData_plain (command : OperationCommand) :
    ∃ pairs, transitionData command = auditData pairs := by
  unfold transitionData
  cases command.body <;> exact ⟨_, rfl⟩

theorem numberEvents_plain {command : OperationCommand} {operationId : OpaqueId}
    {version sequence : Nat} {entries : List (OpaqueId × AuditEventType × JsonValue)}
    (plain : ∀ entry ∈ entries, ∃ pairs, entry.2.2 = auditData pairs) :
    ∀ event ∈ numberEvents command operationId version sequence entries, Plain event := by
  induction entries generalizing sequence with
  | nil => simp [numberEvents]
  | cons entry rest ih =>
    intro event member
    rw [numberEvents, List.mem_cons] at member
    obtain rfl | later := member
    · exact plain entry List.mem_cons_self
    · exact ih (fun other listed => plain other (List.mem_cons_of_mem _ listed)) event later

theorem auditEventsFor_plain (s : Store) (command : OperationCommand)
    (loaded newOperation : Operation) (related : RelatedRecords) :
    ∀ event ∈ auditEventsFor s command loaded newOperation related, Plain event := by
  refine numberEvents_plain fun entry member => ?_
  obtain detail | last := List.mem_append.mp member
  · exact detailEntries_plain command loaded related entry detail
  · rw [List.mem_singleton.mp last]
    exact transitionData_plain command

theorem startVerificationEvent_plain {command : StartCompensationVerification} {loaded : Operation}
    {compensation : Compensation} {sequence : Nat} {event : AuditEvent}
    (built : startVerificationEvent? command loaded compensation sequence = some event) :
    Plain event := by
  unfold startVerificationEvent? at built
  dsimp only at built
  split at built
  · obtain ⟨_, -, rfl⟩ := Option.map_eq_some_iff.mp built
    exact ⟨_, rfl⟩
  · cases built
    exact ⟨_, rfl⟩

/-! ## Steps -/

/-- What a transition that returned did, with the data of its events. -/
inductive TransitionRan (s s' : Store) : Prop where
  | unchanged (same : s' = s)
  | created (command : CreateOperation) (made : OperationCreated command s s')
  | moved (command : OperationCommand) (loaded : Operation)
      (made : OperationMoved command loaded s s')
  | progressed (progress : Progress) (made : progress.Made s s')
      (plain : ∀ event ∈ progress.events, Plain event)
      (unpublished : ∀ event, progress.outbox? = some event → event.publishedAt = none)

theorem transitionRan_of_apply {command : TransitionCommand} {result : TransitionResult}
    (ran : apply command s = .ok (result, s')) : TransitionRan s s' := by
  have progressed : ∀ {events : List AuditEvent} {outbox? : Option OutboxEvent},
      (∀ event ∈ events, Plain event) → s'.auditEvents.rows = s.auditEvents.rows ++ events →
      (∀ event, outbox? = some event → event.publishedAt = none) →
      Inserted outbox? s.outboxEvents s'.outboxEvents → ProgressRan command s s' result →
      TransitionRan s s' := by
    rintro events outbox? plain rows unpublished inserted (⟨progress, -, made, -⟩ | ⟨same, -⟩)
    · have audits := List.append_cancel_left (made.written.auditEvents.symm.trans rows)
      have outbox : progress.outbox?.toList = outbox?.toList :=
        List.append_cancel_left (made.written.outboxEvents.rows.symm.trans inserted.rows)
      refine .progressed progress made (audits ▸ plain) fun event scheduled => ?_
      refine unpublished event (Option.mem_toList.mp ?_)
      rw [← outbox, scheduled]
      exact List.mem_singleton.mpr rfl
    · exact .unchanged same
  cases command with
  | create command =>
    obtain ⟨made, -⟩ | ⟨same, -⟩ := applyCreate_cases ran
    · exact .created command made
    · exact .unchanged same
  | operation command =>
    obtain ⟨loaded, made, -⟩ | ⟨_, same, -⟩ | ⟨_, same, -⟩ := applyOperation_cases ran
    · exact .moved command loaded made
    · exact .unchanged same
    · exact .unchanged same
  | claimCompensation command =>
    obtain ⟨_, _, -, -, made, -⟩ | ⟨same, -⟩ | ⟨same, -⟩ := applyClaimCompensation_cases ran
    · exact progressed (by simp [progressEvent, attemptedData, Plain])
        made.auditEvents (by simp) made.outboxEvents (applyClaimCompensation_ran ran)
    · exact .unchanged same
    · exact .unchanged same
  | startCompensationVerification command =>
    obtain ⟨_, _, event, -, -, built, made, -⟩ | ⟨same, -⟩ | ⟨same, -⟩ :=
      applyStartCompensationVerification_cases ran
    · exact progressed (by simpa using startVerificationEvent_plain built) made.auditEvents
        (by rintro _ ⟨⟩; rfl) made.outboxEvents (applyStartCompensationVerification_ran ran)
    · exact .unchanged same
    · exact .unchanged same
  | claimCompensationRetryAttempt command =>
    obtain ⟨_, _, -, -, made, -⟩ | ⟨same, -⟩ | ⟨same, -⟩ :=
      applyClaimCompensationRetryAttempt_cases ran
    · exact progressed (by simp [progressEvent, attemptedData, Plain])
        made.auditEvents (by simp) made.outboxEvents (applyClaimCompensationRetryAttempt_ran ran)
    · exact .unchanged same
    · exact .unchanged same
  | retryCompensationAfterVerification command =>
    obtain ⟨_, _, -, -, made, -⟩ | ⟨same, -⟩ | ⟨same, -⟩ :=
      applyRetryCompensationAfterVerification_cases ran
    · exact progressed (by
          simp only [List.mem_cons, List.not_mem_nil, or_false, forall_eq_or_imp, forall_eq]
          exact ⟨⟨_, rfl⟩, _, rfl⟩)
        made.auditEvents (by rintro _ ⟨⟩; rfl) made.outboxEvents
        (applyRetryCompensationAfterVerification_ran ran)
    · exact .unchanged same
    · exact .unchanged same

/-- The rows a transition inserts: under ids of their own, and work scheduled at a reading of the
clock not before the operation's last change. -/
structure OwnRows (uuid5 : String → OpaqueId) (known : List OpaqueId) (s s' : Store) : Prop where
  outboxEvents : ∀ row ∈ s'.outboxEvents.rows, s.outboxEvent? row.eventId = none →
    ¬RelayId uuid5 known row.eventId
  auditEvents : ∀ event ∈ s'.auditEvents.rows, s.auditEvents.find? event.auditEventId = none →
    ¬RelayId uuid5 known event.auditEventId
  clock : ∀ row ∈ s'.outboxEvents.rows, s.outboxEvent? row.eventId = none →
    ∀ operation, s.operation? row.aggregateId = some operation →
      operation.updatedAt.value ≤ row.createdAt.value

/-- One clock for all, read after the rows an action is about, and one bound for the relay, which
alone escalates and takes events of the run. -/
def Scheduled (uuid5 : String → OpaqueId) (known : List OpaqueId) (maxRecoveries : Nat)
    (s : Store) : JournalAction → Prop
  | .transition command => OwnRows uuid5 known s (act uuid5 s (.transition command))
  | .escalate _ => False
  | .recoverCandidate now cutoff bound eventId =>
    cutoff.value < now.value ∧ bound = maxRecoveries ∧ eventId ∈ known
  | .markPublished eventId publishedAt => ∀ row, s.outboxEvent? eventId = some row →
    row.createdAt.value ≤ publishedAt.value
  | .persistAttemptEvidence _ => True
  | .persistVerificationResult _ => True

/-- What a scheduled action does to what the relay reads. -/
inductive RelayStep (uuid5 : String → OpaqueId) (known : List OpaqueId) (maxRecoveries : Nat)
    (s s' : Store) : Prop where
  | ran (made : TransitionRan s s') (own : OwnRows uuid5 known s s')
  | recovered (now cutoff : UtcTimestamp) (candidateId : OpaqueId)
      (named : candidateId ∈ known) (later : cutoff.value < now.value)
      (made : CandidateRan uuid5 now cutoff maxRecoveries candidateId s s')
  | published (row : OutboxEvent) (publishedAt : UtcTimestamp)
      (found : s.outboxEvents.find? row.eventId = some row)
      (later : row.createdAt.value ≤ publishedAt.value)
      (made : s' = { s with
        outboxEvents := s.outboxEvents.replace (OutboxRepository.publishedRow row publishedAt) })
  | evidence (frame : s' = { s with
      attempts := s'.attempts, verifications := s'.verifications })

theorem relayStep_of_act {action : JournalAction}
    (scheduled : Scheduled uuid5 known maxRecoveries s action) :
    RelayStep uuid5 known maxRecoveries s (act uuid5 s action) := by
  cases ran : action.body uuid5 s with
  | error e =>
    have same : act uuid5 s action = s := by rw [act, execute_error.mpr ⟨rfl, ran⟩]
    exact .evidence (by rw [same])
  | ok ended =>
    obtain ⟨⟨⟩, s'⟩ := ended
    have acted : act uuid5 s action = s' := by rw [act, execute_ok.mpr ran]
    cases action with
    | transition command =>
      obtain ⟨result, _, applied, done⟩ := bind_ok.mp ran
      obtain ⟨-, rfl⟩ := pure_ok.mp done
      have own : OwnRows uuid5 known s (act uuid5 s (.transition command)) := scheduled
      rw [acted] at own ⊢
      exact .ran (transitionRan_of_apply applied) own
    | escalate => exact scheduled.elim
    | recoverCandidate now cutoff bound candidateId =>
      obtain ⟨later, rfl, named⟩ := scheduled
      obtain ⟨_, _, recovered, done⟩ := bind_ok.mp ran
      obtain ⟨-, rfl⟩ := pure_ok.mp done
      rw [acted]
      exact .recovered now cutoff candidateId named later (recoverCandidate_ran recovered)
    | markPublished eventId publishedAt =>
      rw [acted]
      obtain rfl | ⟨row, found, -, rfl⟩ := OutboxRepository.markPublished_ok ran
      · exact .evidence rfl
      · exact .published row publishedAt (find?_of_mem (find?_some found).1)
          (scheduled row found) rfl
    | persistAttemptEvidence completed =>
      rw [acted]
      obtain ⟨-, _, _, -, -, rfl⟩ := AttemptRepository.complete_ok ran
      exact .evidence rfl
    | persistVerificationResult result =>
      rw [acted]
      change persistVerificationResult result s = _ at ran
      unfold persistVerificationResult at ran
      split at ran
      · cases ran
      · split at ran
        · cases ran
          exact .evidence rfl
        · cases ran
      · obtain ⟨request, -, rfl⟩ := VerificationRepository.complete_ok ran
        exact .evidence rfl

/-! ## Rows over a step -/

/-- An outbox row keeps its id, owner and creation time. -/
def OutboxKept (row later : OutboxEvent) : Prop :=
  later.eventId = row.eventId ∧ later.aggregateId = row.aggregateId ∧
    later.createdAt = row.createdAt

theorem OutboxKept.refl (row : OutboxEvent) : OutboxKept row row := ⟨rfl, rfl, rfl⟩

/-- An operation keeps its creation time, and any change takes it to a later version. -/
def OperationKept (row later : Operation) : Prop :=
  later.operationId = row.operationId ∧ later.createdAt = row.createdAt ∧
    (later = row ∨ row.version < later.version)

theorem OperationKept.refl (row : Operation) : OperationKept row row := ⟨rfl, rfl, .inl rfl⟩

theorem stepped_operations_evolve {operationId : OpaqueId} {loaded : Operation}
    {state : OperationState} {updatedAt : UtcTimestamp} {pointers : PointerUpdate}
    (found : s.operation? operationId = some loaded)
    (replaced : s'.operations =
      s.operations.replace (steppedOperation loaded state updatedAt pointers)) :
    s.operations.Evolves OperationKept s'.operations := by
  rw [replaced]
  refine evolves_replace OperationKept.refl fun old member same => ?_
  obtain rfl := rows_injOn_key _ member (find?_some found).1 same
  exact ⟨rfl, rfl, .inr (Nat.lt_succ_self _)⟩

theorem TransitionRan.operations_evolve (ran : TransitionRan s s') :
    s.operations.Evolves OperationKept s'.operations := by
  cases ran with
  | unchanged same => exact same ▸ Evolves.refl OperationKept.refl _
  | created command made =>
    have inserted : Inserted (some command.operation) s.operations s'.operations :=
      made.operations
    exact inserted.evolves OperationKept.refl
  | moved command loaded made => exact stepped_operations_evolve made.found made.operations
  | progressed progress made =>
    rw [made.written.frame]
    exact Evolves.refl OperationKept.refl _

theorem TransitionRan.outbox_inserted (ran : TransitionRan s s') :
    ∃ row?, Inserted row? s.outboxEvents s'.outboxEvents ∧
      ∀ row, row? = some row → row.publishedAt = none := by
  cases ran with
  | unchanged same => exact ⟨none, same ▸ rfl, by simp⟩
  | created command made => exact ⟨none, by rw [made.frame]; rfl, by simp⟩
  | moved command loaded made =>
    refine ⟨_, made.outboxEvents, fun row is => ?_⟩
    unfold outboxRow? at is
    split at is
    · cases is
      rfl
    · cases is
  | progressed progress made _ unpublished =>
    exact ⟨_, made.written.outboxEvents, unpublished⟩

theorem TransitionRan.audits_plain (ran : TransitionRan s s') :
    ∃ events, s'.auditEvents.rows = s.auditEvents.rows ++ events ∧
      ∀ event ∈ events, Store.commandText? event = none := by
  have named : ∀ {events : List AuditEvent}, (∀ event ∈ events, Plain event) →
      ∀ event ∈ events, Store.commandText? event = none := by
    intro events plain event member
    obtain ⟨pairs, data⟩ := plain event member
    exact commandText?_auditData data
  cases ran with
  | unchanged same => exact ⟨[], by simp [same], by simp⟩
  | created command made =>
    exact ⟨_, made.auditEvents, named fun event member => List.mem_singleton.mp member ▸ ⟨_, rfl⟩⟩
  | moved command loaded made =>
    exact ⟨_, made.auditEvents, named (auditEventsFor_plain _ _ _ _ _)⟩
  | progressed progress made plain => exact ⟨_, made.written.auditEvents, named plain⟩

theorem RelayStep.outbox_evolves (step : RelayStep uuid5 known maxRecoveries s s') :
    s.outboxEvents.Evolves OutboxKept s'.outboxEvents := by
  cases step with
  | ran made =>
    obtain ⟨row?, inserted, -⟩ := made.outbox_inserted
    exact inserted.evolves OutboxKept.refl
  | recovered now cutoff candidateId _ _ made =>
    cases made with
    | skipped same => exact same ▸ Evolves.refl OutboxKept.refl _
    | republished _ _ _ _ _ made => exact made.outboxEvents.evolves OutboxKept.refl
    | escalated _ _ _ _ _ _ made =>
      rw [made.frame]
      exact Evolves.refl OutboxKept.refl _
  | published row publishedAt found _ made =>
    rw [made]
    refine evolves_replace OutboxKept.refl fun old member same => ?_
    obtain rfl := rows_injOn_key _ member (find?_some found).1 same
    exact ⟨rfl, rfl, rfl⟩
  | evidence frame =>
    rw [frame]
    exact Evolves.refl OutboxKept.refl _

theorem RelayStep.operations_evolve (step : RelayStep uuid5 known maxRecoveries s s') :
    s.operations.Evolves OperationKept s'.operations := by
  cases step with
  | ran made => exact made.operations_evolve
  | recovered now cutoff candidateId _ _ made =>
    cases made with
    | skipped same => exact same ▸ Evolves.refl OperationKept.refl _
    | republished _ _ _ _ _ made =>
      rw [made.frame]
      exact Evolves.refl OperationKept.refl _
    | escalated _ _ _ _ _ _ made => exact stepped_operations_evolve made.found made.operations
  | published row publishedAt found _ made =>
    rw [made]
    exact Evolves.refl OperationKept.refl _
  | evidence frame =>
    rw [frame]
    exact Evolves.refl OperationKept.refl _

/-! ## What the relay keeps -/

/-- The event is stored, and its operation has a newer row. -/
def Superseded (s : Store) (eventId : OpaqueId) : Prop :=
  ∃ event newer, s.outboxEvent? eventId = some event ∧
    newer ∈ s.outboxEventsOf event.aggregateId ∧ outboxAge event < outboxAge newer

/-- The event is stored, and its operation was taken to MANUAL_INTERVENTION after it. -/
def TakenOver (s : Store) (eventId : OpaqueId) : Prop :=
  ∃ event operation, s.outboxEvent? eventId = some event ∧
    s.operation? event.aggregateId = some operation ∧ operation.state = .manualIntervention ∧
    event.createdAt.value < operation.updatedAt.value

/-- The relay is done with the event. -/
def Retired (s : Store) (eventId : OpaqueId) : Prop := Superseded s eventId ∨ TakenOver s eventId

/-- What holds along every scheduled run. -/
structure RelayJournal (uuid5 : String → OpaqueId) (known : List OpaqueId) (maxRecoveries : Nat)
    (s : Store) : Prop where
  bounded : ∀ operationId command version, s.countReasonForCommand operationId
    recoveryRepublishedReason command version ≤ maxRecoveries
  published : ∀ row ∈ s.outboxEvents.rows, ∀ publishedAt, row.publishedAt = some publishedAt →
    row.createdAt.value ≤ publishedAt.value
  created : ∀ row ∈ s.outboxEvents.rows, ∃ operation,
    s.operation? row.aggregateId = some operation ∧
      operation.createdAt.value ≤ row.createdAt.value
  stamped : ∀ operationId operation, s.operation? operationId = some operation →
    operation.state ≠ .pendingPolicy → operation.createdAt.value ≤ operation.updatedAt.value
  replayed : ∀ eventId ∈ known, s.outboxEvent? (recoveryId uuid5 eventId "outbox") ≠ none ∨
    s.auditEvents.find? (recoveryId uuid5 eventId "audit") ≠ none → Superseded s eventId
  escalated : ∀ eventId ∈ known,
    s.auditEvents.find? (recoveryId uuid5 eventId "exhausted") ≠ none → Retired s eventId
  exhausted : ∀ event ∈ s.auditEvents.rows, event.reasonCode = recoveryExhaustedReason →
    Store.commandText? event ≠ none → ∃ operation,
      s.operation? event.operationId = some operation ∧
        (event.operationVersion < operation.version ∨
          event.operationVersion = operation.version ∧ operation.state = .manualIntervention)

theorem outboxAge_lt {event newer : OutboxEvent}
    (later : event.createdAt.value < newer.createdAt.value) :
    outboxAge event < outboxAge newer :=
  Prod.Lex.lt_iff.mpr (.inl later)

theorem OutboxKept.age {row later : OutboxEvent} (kept : OutboxKept row later) :
    outboxAge later = outboxAge row := by
  rw [outboxAge, kept.1, kept.2.2, outboxAge]

theorem Superseded.later {eventId : OpaqueId} (superseded : Superseded s eventId)
    (evolves : s.outboxEvents.Evolves OutboxKept s'.outboxEvents) : Superseded s' eventId := by
  obtain ⟨event, newer, stored, listed, older⟩ := superseded
  obtain ⟨row, at_, kept⟩ := evolves.find? (·.1) stored
  obtain ⟨member, owner⟩ := mem_select.mp listed
  obtain ⟨later, there, keptNewer⟩ := evolves newer member
  refine ⟨row, later, at_, mem_select.mpr ⟨there, ?_⟩, ?_⟩
  · rw [keptNewer.2.1, kept.2.1]
    exact owner
  · rwa [kept.age, keptNewer.age]

/-- The newest row of an operation is not superseded. -/
theorem not_superseded_of_candidate {cutoff : UtcTimestamp} {event : OutboxEvent}
    (candidate : Candidate s cutoff event) : ¬Superseded s event.eventId := by
  rintro ⟨stored, newer, found, listed, older⟩
  cases (find?_of_mem candidate.stored).symm.trans found
  exact absurd (candidate.newest newer listed) (not_le.mpr older)

/-- Every edge out of MANUAL_INTERVENTION schedules work. -/
theorem outboxRow?_of_manual {command : OperationCommand} {moved : Operation}
    (source : command.kind.edge.1 = some .manualIntervention) :
    ∃ row, outboxRow? command moved = some row ∧ row.aggregateId = moved.operationId := by
  have mapped : command.kind.outboxCommand?.isSome = true := by
    revert source
    cases command.kind <;> simp [TransitionKind.edge, TransitionKind.outboxCommand?]
  have carried : command.body.outboxEventId?.isSome = true := by
    rw [command.body.outboxEventId_isSome_iff]
    exact mapped
  obtain ⟨scheduled, named⟩ := Option.isSome_iff_exists.mp mapped
  obtain ⟨eventId, carries⟩ := Option.isSome_iff_exists.mp carried
  exact ⟨_, by rw [outboxRow?, named, carries], rfl⟩

/-- An operation taken over stays so until newer work is scheduled for it. -/
theorem TakenOver.step {eventId : OpaqueId} (takenOver : TakenOver s eventId)
    (step : RelayStep uuid5 known maxRecoveries s s') : Retired s' eventId := by
  obtain ⟨event, operation, stored, found, manual, older⟩ := takenOver
  obtain ⟨row, at_, -, owner, age⟩ := step.outbox_evolves.find? (·.1) stored
  have kept : s'.operation? event.aggregateId = s.operation? event.aggregateId →
      Retired s' eventId := by
    intro same
    exact .inr ⟨row, operation, at_, by rw [owner, same]; exact found, manual, age ▸ older⟩
  have same : s'.operations = s.operations → Retired s' eventId :=
    fun same => kept (by rw [Store.operation?, same, Store.operation?])
  cases step with
  | ran made own =>
    cases made with
    | unchanged unchanged => exact same (by rw [unchanged])
    | created command made =>
      have inserted : Inserted (some command.operation) s.operations s'.operations :=
        made.operations
      exact kept ((inserted.find?_of_some found).trans found.symm)
    | moved command loaded made =>
      have replaced := operation?_replace_stepped made.found made.operations event.aggregateId
      by_cases mine : command.operationId = event.aggregateId
      · -- every edge out of MANUAL_INTERVENTION schedules work
        cases (mine ▸ made.found).symm.trans found
        have source : command.kind.edge.1 = some .manualIntervention := manual ▸ made.source
        have owned : (movedOperation command operation).operationId = event.aggregateId :=
          (find?_some found).2
        obtain ⟨newer, new, owner'⟩ :
            ∃ row, outboxRow? command (movedOperation command operation) = some row ∧
              row.aggregateId = (movedOperation command operation).operationId :=
          outboxRow?_of_manual source
        rw [owned] at owner'
        have inserted := made.outboxEvents
        rw [new] at inserted
        have listed : newer ∈ s'.outboxEvents.rows := inserted.mem.mpr (.inr rfl)
        have later := own.clock newer listed inserted.fresh _ (owner' ▸ found)
        refine .inl ⟨row, newer, at_, mem_select.mpr ⟨listed, ?_⟩, outboxAge_lt ?_⟩
        · exact decide_eq_true (owner'.trans owner.symm)
        · rw [age]
          omega
      · exact kept (replaced.trans (if_neg mine))
    | progressed progress made => exact same (by rw [made.written.frame])
  | recovered now cutoff candidateId _ _ made =>
    obtain untouched | ⟨source, loaded, -, there, -, fits⟩ :
        Untouched event.aggregateId s s' ∨ _ := untouched_of_ran made
    · exact kept untouched.operation
    · cases found.symm.trans there
      rw [manual] at fits
      exact absurd (resting_fits (by decide) fits) (by decide)
  | published _ _ _ _ made => exact same (by rw [made])
  | evidence frame => exact same (by rw [frame])

theorem Retired.step {eventId : OpaqueId} (retired : Retired s eventId)
    (step : RelayStep uuid5 known maxRecoveries s s') : Retired s' eventId := by
  obtain superseded | takenOver := retired
  · exact .inl (superseded.later step.outbox_evolves)
  · exact takenOver.step step

namespace RelayJournal

variable (journal : RelayJournal uuid5 known maxRecoveries s)

include journal

/-- A candidate is older than any clock that finds it past the cutoff. -/
theorem candidate_older {now cutoff : UtcTimestamp} {source : OutboxEvent}
    (later : cutoff.value < now.value) (candidate : Candidate s cutoff source) :
    source.createdAt.value < now.value := by
  obtain ⟨-, publishedAt, at_, old⟩ := candidate.published
  have after := journal.published source candidate.stored publishedAt at_
  omega

/-- An accepted candidate has not been replayed or escalated before, and its operation was not
escalated at this version. -/
theorem writes_accepted {now cutoff : UtcTimestamp} {source : OutboxEvent} {operation : Operation}
    (named : source.eventId ∈ known) (later : cutoff.value < now.value)
    (stored : source ∈ s.outboxEvents.rows)
    (found : s.operation? source.aggregateId = some operation)
    (stranded : stillStranded s source operation cutoff = true) :
    WritesAccepted uuid5 now maxRecoveries s source operation := by
  obtain ⟨candidate, fits⟩ := (stillStranded_iff stored found).mp stranded
  have older := journal.candidate_older later candidate
  have manual : operation.state ≠ .manualIntervention := by
    intro manual
    rw [manual] at fits
    cases command : source.command <;> rw [command] at fits <;> exact absurd fits (by decide)
  have key : operation.operationId = source.aggregateId := (find?_some found).2
  unfold WritesAccepted
  split
  · refine ⟨?_, ?_, ?_⟩
    · rw [Store.countReasonForCommand, List.length_eq_zero_iff, List.filter_eq_nil_iff]
      intro event listed counted
      simp only [Bool.and_eq_true, decide_eq_true_eq] at counted
      obtain ⟨⟨reason, text⟩, version⟩ := counted
      obtain ⟨member, owner⟩ := mem_select.mp listed
      obtain ⟨named, at_, past | ⟨-, state⟩⟩ :=
        journal.exhausted event member reason (by simp [text])
      all_goals
        rw [of_decide_eq_true owner, key] at at_
        cases found.symm.trans at_
      · omega
      · exact manual state
    · obtain ⟨named, at_, created⟩ := journal.created source stored
      cases found.symm.trans at_
      omega
    · by_contra recorded
      obtain superseded | ⟨event, named, at_, there, state, -⟩ :=
        journal.escalated source.eventId named recorded
      · exact not_superseded_of_candidate candidate superseded
      · cases (find?_of_mem stored).symm.trans at_
        cases found.symm.trans there
        exact manual state
  · constructor
    · by_contra recorded
      exact not_superseded_of_candidate candidate
        (journal.replayed source.eventId named (.inl recorded))
    · by_contra recorded
      exact not_superseded_of_candidate candidate
        (journal.replayed source.eventId named (.inr recorded))

end RelayJournal

/-! ## The count -/

/-- The events a count takes in. -/
def Counted (operationId : OpaqueId) (reasonCode : String) (command : WorkCommand)
    (operationVersion : Nat) (event : AuditEvent) : Prop :=
  event.operationId = operationId ∧ event.reasonCode = reasonCode ∧
    Store.commandText? event = some command.value ∧ event.operationVersion = operationVersion

instance (operationId : OpaqueId) (reasonCode : String) (command : WorkCommand)
    (operationVersion : Nat) (event : AuditEvent) :
    Decidable (Counted operationId reasonCode command operationVersion event) :=
  inferInstanceAs (Decidable (_ ∧ _))

theorem countReasonForCommand_eq (s : Store) (operationId : OpaqueId) (reasonCode : String)
    (command : WorkCommand) (operationVersion : Nat) :
    s.countReasonForCommand operationId reasonCode command operationVersion =
      (s.auditEvents.rows.filter fun event =>
        decide (Counted operationId reasonCode command operationVersion event)).length := by
  rw [Store.countReasonForCommand, Store.auditEventsOf, select, List.filter_filter]
  congr 2
  funext event
  rw [Bool.eq_iff_iff]
  simp only [Bool.and_eq_true, decide_eq_true_eq]
  unfold Counted
  tauto

theorem countReasonForCommand_appended {events : List AuditEvent}
    (rows : s'.auditEvents.rows = s.auditEvents.rows ++ events) (operationId : OpaqueId)
    (reasonCode : String) (command : WorkCommand) (operationVersion : Nat) :
    s'.countReasonForCommand operationId reasonCode command operationVersion =
      s.countReasonForCommand operationId reasonCode command operationVersion +
        (events.filter fun event =>
          decide (Counted operationId reasonCode command operationVersion event)).length := by
  rw [countReasonForCommand_eq, rows, List.filter_append, List.length_append,
    countReasonForCommand_eq]

theorem WorkCommand.value_inj {a b : WorkCommand} (same : a.value = b.value) : a = b := by
  cases a <;> cases b <;> first | rfl | exact absurd same (by decide)

theorem commandText?_republished (source : OutboxEvent) (operation : Operation)
    (now : UtcTimestamp) (sequence : Nat) :
    Store.commandText? (republishedEvent uuid5 source operation now sequence) =
      some source.command.value := by
  have sorted : ∀ a b c : JsonValue, jsonObjectFromPlain
      [("source_outbox_event_id", a), ("recovery_outbox_event_id", b), ("command", c)] =
        .object [("command", c), ("recovery_outbox_event_id", b),
          ("source_outbox_event_id", a)] := by
    intro a b c
    have first : ¬("recovery_outbox_event_id" : String) ≤ "command" := by decide
    have second : ¬("source_outbox_event_id" : String) ≤ "command" := by decide
    have third : ¬("source_outbox_event_id" : String) ≤ "recovery_outbox_event_id" := by decide
    simp [jsonObjectFromPlain, sortByKey, insertByKey, first, second, third]
  rw [Store.commandText?, republishedEvent, sorted]
  rfl

/-- A candidate is republished below the bound only, and nothing else is counted. -/
theorem bounded_step (journal : RelayJournal uuid5 known maxRecoveries s)
    (step : RelayStep uuid5 known maxRecoveries s s') (operationId : OpaqueId)
    (command : WorkCommand) (version : Nat) :
    s'.countReasonForCommand operationId recoveryRepublishedReason command version ≤
      maxRecoveries := by
  have before := journal.bounded operationId command version
  have same : s'.auditEvents = s.auditEvents →
      s'.countReasonForCommand operationId recoveryRepublishedReason command version ≤
        maxRecoveries := by
    intro same
    rw [countReasonForCommand_eq, same, ← countReasonForCommand_eq]
    exact before
  have uncounted : ∀ {events : List AuditEvent},
      s'.auditEvents.rows = s.auditEvents.rows ++ events →
      (∀ event ∈ events,
        ¬Counted operationId recoveryRepublishedReason command version event) →
      s'.countReasonForCommand operationId recoveryRepublishedReason command version ≤
        maxRecoveries := by
    intro events rows none
    rw [countReasonForCommand_appended rows, List.filter_eq_nil_iff.mpr, List.length_nil]
    · exact before
    · simpa using none
  cases step with
  | ran made =>
    obtain ⟨events, rows, plain⟩ := made.audits_plain
    refine uncounted rows fun event member counted => ?_
    have text := counted.2.2.1
    rw [plain event member] at text
    cases text
  | recovered now cutoff candidateId named later made =>
    cases made with
    | skipped unchanged => exact same (by rw [unchanged])
    | republished source operation stored stranded below made =>
      by_cases counted : Counted operationId recoveryRepublishedReason command version
        (republishedEvent uuid5 source operation now (s.nextSequence operation.operationId))
      · obtain ⟨owner, -, text, at_⟩ := counted
        rw [commandText?_republished, Option.some.injEq] at text
        rw [countReasonForCommand_appended made.auditEvents]
        have own : operation.operationId = operationId := owner
        have own_version : operation.version = version := at_
        rw [own, own_version, WorkCommand.value_inj text] at below
        have one := List.length_filter_le (fun event => decide (Counted operationId
          recoveryRepublishedReason command version event))
          [republishedEvent uuid5 source operation now (s.nextSequence operation.operationId)]
        rw [List.length_singleton] at one
        omega
      · exact uncounted made.auditEvents fun event member => List.mem_singleton.mp member ▸ counted
    | escalated source operation stored found stranded reached made =>
      refine uncounted made.auditEvents fun event member counted => ?_
      rw [List.mem_singleton.mp member] at counted
      have reason : recoveryExhaustedReason = recoveryRepublishedReason := counted.2.1
      exact absurd reason (by decide)
  | published row publishedAt found _ made => exact same (by rw [made])
  | evidence frame => exact same (by rw [frame])

/-! ## Preservation -/

section Preservation

variable (journal : RelayJournal uuid5 known maxRecoveries s)

include journal

theorem published_step (step : RelayStep uuid5 known maxRecoveries s s') :
    ∀ row ∈ s'.outboxEvents.rows, ∀ publishedAt, row.publishedAt = some publishedAt →
      row.createdAt.value ≤ publishedAt.value := by
  have same : s'.outboxEvents = s.outboxEvents → ∀ row ∈ s'.outboxEvents.rows, ∀ publishedAt,
      row.publishedAt = some publishedAt → row.createdAt.value ≤ publishedAt.value :=
    fun same => same ▸ journal.published
  have added : ∀ {row? : Option OutboxEvent}, Inserted row? s.outboxEvents s'.outboxEvents →
      (∀ row, row? = some row → row.publishedAt = none) → ∀ row ∈ s'.outboxEvents.rows,
        ∀ publishedAt, row.publishedAt = some publishedAt →
          row.createdAt.value ≤ publishedAt.value := by
    intro row? inserted unpublished row member publishedAt at_
    obtain old | new := inserted.mem.mp member
    · exact journal.published row old publishedAt at_
    · rw [unpublished row new] at at_
      cases at_
  cases step with
  | ran made =>
    obtain ⟨row?, inserted, unpublished⟩ := made.outbox_inserted
    exact added inserted unpublished
  | recovered now cutoff candidateId _ _ made =>
    cases made with
    | skipped unchanged => exact same (by rw [unchanged])
    | republished _ _ _ _ _ made =>
      refine added made.outboxEvents ?_
      rintro _ ⟨⟩
      rfl
    | escalated _ _ _ _ _ _ made => exact same (by rw [made.frame])
  | published row publishedAt found later made =>
    intro other member at_ is
    rw [made] at member
    obtain ⟨old, -⟩ | ⟨rfl, -⟩ := mem_replace.mp member
    · exact journal.published other old at_ is
    · cases is
      exact later
  | evidence frame => exact same (by rw [frame])

theorem stamped_step (step : RelayStep uuid5 known maxRecoveries s s') :
    ∀ operationId operation, s'.operation? operationId = some operation →
      operation.state ≠ .pendingPolicy →
        operation.createdAt.value ≤ operation.updatedAt.value := by
  intro operationId operation found moved
  have same : s'.operations = s.operations →
      operation.createdAt.value ≤ operation.updatedAt.value := by
    intro same
    rw [Store.operation?, same] at found
    exact journal.stamped operationId operation found moved
  have stepped : ∀ {id loaded state updatedAt pointers}, s.operation? id = some loaded →
      s'.operations = s.operations.replace (steppedOperation loaded state updatedAt pointers) →
      loaded.createdAt.value ≤ updatedAt.value →
      operation.createdAt.value ≤ operation.updatedAt.value := by
    intro id loaded state updatedAt pointers there replaced clock
    rw [operation?_replace_stepped there replaced] at found
    split at found
    · cases found
      exact clock
    · exact journal.stamped operationId operation found moved
  cases step with
  | ran made =>
    cases made with
    | unchanged unchanged => exact same (by rw [unchanged])
    | created command made =>
      rw [Store.operation?, find?_insert made.operations] at found
      split at found
      · cases found
        exact absurd made.state moved
      · exact journal.stamped operationId operation found moved
    | moved command loaded made => exact stepped made.found made.operations made.clock
    | progressed progress made => exact same (by rw [made.written.frame])
  | recovered now cutoff candidateId named later made =>
    cases made with
    | skipped unchanged => exact same (by rw [unchanged])
    | republished _ _ _ _ _ made => exact same (by rw [made.frame])
    | escalated source loaded stored there stranded _ made =>
      have listed := (find?_some stored).1
      obtain ⟨candidate, -⟩ := (stillStranded_iff listed there).mp stranded
      have older := journal.candidate_older later candidate
      obtain ⟨named, at_, created⟩ := journal.created source listed
      cases there.symm.trans at_
      exact stepped made.found made.operations (created.trans older.le)
  | published row publishedAt _ _ made => exact same (by rw [made])
  | evidence frame => exact same (by rw [frame])

theorem created_step (step : RelayStep uuid5 known maxRecoveries s s') :
    ∀ row ∈ s'.outboxEvents.rows, ∃ operation, s'.operation? row.aggregateId = some operation ∧
      operation.createdAt.value ≤ row.createdAt.value := by
  -- the operation of a row that was there, or of a new one, is still there
  have kept : ∀ {row : OutboxEvent} {operation : Operation},
      s.operation? row.aggregateId = some operation →
      operation.createdAt.value ≤ row.createdAt.value →
      ∃ operation, s'.operation? row.aggregateId = some operation ∧
        operation.createdAt.value ≤ row.createdAt.value := by
    intro row operation found created
    obtain ⟨later, at_, -, stays, -⟩ := step.operations_evolve.find? (·.1) found
    exact ⟨later, at_, stays ▸ created⟩
  have old : ∀ row ∈ s.outboxEvents.rows, ∃ operation,
      s'.operation? row.aggregateId = some operation ∧
        operation.createdAt.value ≤ row.createdAt.value := by
    intro row member
    obtain ⟨operation, found, created⟩ := journal.created row member
    exact kept found created
  intro row member
  have same : s'.outboxEvents = s.outboxEvents → ∃ operation,
      s'.operation? row.aggregateId = some operation ∧
        operation.createdAt.value ≤ row.createdAt.value :=
    fun same => old row (same ▸ member)
  cases step with
  | ran made own =>
    cases made with
    | unchanged unchanged => exact same (by rw [unchanged])
    | created command made => exact same (by rw [made.frame])
    | moved command loaded made =>
      obtain stored | new := made.outboxEvents.mem.mp member
      · exact old row stored
      · have owner : row.aggregateId = command.operationId ∧
            row.createdAt = command.occurredAt := by
          unfold outboxRow? at new
          split at new
          · cases new
            exact ⟨made.operationId, rfl⟩
          · cases new
        exact kept (owner.1 ▸ made.found) (owner.2 ▸ made.clock)
    | progressed progress made =>
      obtain stored | new := made.written.outboxEvents.mem.mp member
      · exact old row stored
      · have owner := (made.checked.outbox row new).1
        have found : s.operation? row.aggregateId = some progress.loaded := owner ▸ made.found
        have fresh : s.outboxEvent? row.eventId = none := by
          have inserted := made.written.outboxEvents
          rw [new] at inserted
          exact inserted.fresh
        have stamped := journal.stamped _ _ found (by simp [made.compensating])
        exact kept found (stamped.trans (own.clock row member fresh _ found))
  | recovered now cutoff candidateId named later made =>
    cases made with
    | skipped unchanged => exact same (by rw [unchanged])
    | republished source operation stored stranded _ made =>
      obtain there | new := made.outboxEvents.mem.mp member
      · exact old row there
      · cases new
        have listed := (find?_some stored).1
        obtain ⟨candidate, -⟩ := (stillStranded_iff listed made.found).mp stranded
        have older := journal.candidate_older later candidate
        obtain ⟨named, at_, created⟩ := journal.created source listed
        cases made.found.symm.trans at_
        have key : operation.operationId = source.aggregateId := (find?_some made.found).2
        have own : s.operation? operation.operationId = some operation := key ▸ made.found
        exact kept own (created.trans older.le)
    | escalated _ _ _ _ _ _ made => exact same (by rw [made.frame])
  | published other publishedAt found _ made =>
    rw [made] at member
    obtain ⟨stored, -⟩ | ⟨rfl, -⟩ := mem_replace.mp member
    · exact old row stored
    · exact old other (find?_some found).1
  | evidence frame => exact same (by rw [frame])

theorem exhausted_step (step : RelayStep uuid5 known maxRecoveries s s') :
    ∀ event ∈ s'.auditEvents.rows, event.reasonCode = recoveryExhaustedReason →
      Store.commandText? event ≠ none → ∃ operation,
        s'.operation? event.operationId = some operation ∧
          (event.operationVersion < operation.version ∨
            event.operationVersion = operation.version ∧
              operation.state = .manualIntervention) := by
  intro event member reason named
  have old : event ∈ s.auditEvents.rows → ∃ operation,
      s'.operation? event.operationId = some operation ∧
        (event.operationVersion < operation.version ∨
          event.operationVersion = operation.version ∧
            operation.state = .manualIntervention) := by
    intro stored
    obtain ⟨operation, found, reached⟩ := journal.exhausted event stored reason named
    obtain ⟨later, at_, -, -, rfl | moved⟩ := step.operations_evolve.find? (·.1) found
    · exact ⟨later, at_, reached⟩
    · refine ⟨later, at_, .inl ?_⟩
      obtain past | ⟨present, -⟩ := reached <;> omega
  cases step with
  | ran made =>
    obtain ⟨events, rows, plain⟩ := made.audits_plain
    rw [rows] at member
    obtain stored | new := List.mem_append.mp member
    · exact old stored
    · exact absurd (plain event new) named
  | recovered now cutoff candidateId _ _ made =>
    cases made with
    | skipped unchanged => exact old (unchanged ▸ member)
    | republished source operation _ _ _ made =>
      rw [made.auditEvents] at member
      obtain stored | new := List.mem_append.mp member
      · exact old stored
      · rw [List.mem_singleton.mp new] at reason
        exact absurd (show recoveryRepublishedReason = recoveryExhaustedReason from reason)
          (by decide)
    | escalated source operation _ found _ _ made =>
      rw [made.auditEvents] at member
      obtain stored | new := List.mem_append.mp member
      · exact old stored
      · cases List.mem_singleton.mp new
        refine ⟨steppedOperation operation .manualIntervention now .unchanged, ?_,
          .inr ⟨rfl, rfl⟩⟩
        exact (operation?_replace_stepped made.found made.operations _).trans (if_pos rfl)
  | published _ _ _ _ made =>
    rw [made] at member
    exact old member
  | evidence frame =>
    rw [frame] at member
    exact old member

/-- After a replay its source is superseded. -/
theorem superseded_of_republished {now cutoff : UtcTimestamp} {candidateId : OpaqueId}
    {source : OutboxEvent} {operation : Operation} (later : cutoff.value < now.value)
    (stored : s.outboxEvent? candidateId = some source)
    (stranded : stillStranded s source operation cutoff = true)
    (made : Republished uuid5 source operation now s s') : Superseded s' source.eventId := by
  have listed := (find?_some stored).1
  obtain ⟨candidate, -⟩ := (stillStranded_iff listed made.found).mp stranded
  have older := journal.candidate_older later candidate
  have key : operation.operationId = source.aggregateId := (find?_some made.found).2
  refine ⟨source, replayedOutbox uuid5 source operation now,
    made.outboxEvents.find?_of_some (find?_of_mem listed), mem_select.mpr ⟨?_, ?_⟩,
    outboxAge_lt older⟩
  · exact made.outboxEvents.mem.mpr (.inr rfl)
  · exact decide_eq_true key

/-- After an escalation its operation is taken over. -/
theorem takenOver_of_escalated {now cutoff : UtcTimestamp} {candidateId : OpaqueId}
    {source : OutboxEvent} {operation : Operation} (later : cutoff.value < now.value)
    (stored : s.outboxEvent? candidateId = some source)
    (found : s.operation? source.aggregateId = some operation)
    (stranded : stillStranded s source operation cutoff = true)
    (made : OperationEscalated (exhaustedRequest uuid5 source operation now maxRecoveries) operation
      s s') : TakenOver s' source.eventId := by
  have listed := (find?_some stored).1
  obtain ⟨candidate, -⟩ := (stillStranded_iff listed found).mp stranded
  have older := journal.candidate_older later candidate
  have key : operation.operationId = source.aggregateId := (find?_some found).2
  have kept : s'.outboxEvents = s.outboxEvents := by rw [made.frame]
  refine ⟨source, steppedOperation operation .manualIntervention now .unchanged, ?_, ?_, rfl,
    older⟩
  · rw [Store.outboxEvent?, kept]
    exact find?_of_mem listed
  · exact (operation?_replace_stepped made.found made.operations _).trans (if_pos key)

/-- A row under a derived id was there, or is the replay of its source. -/
theorem outbox_origin (step : RelayStep uuid5 known maxRecoveries s s') {eventId : OpaqueId}
    {purpose : String} (derived : RelayId uuid5 known (recoveryId uuid5 eventId purpose))
    (present : s'.outboxEvent? (recoveryId uuid5 eventId purpose) ≠ none) :
    s.outboxEvent? (recoveryId uuid5 eventId purpose) ≠ none ∨
      ∃ sourceId ∈ known, Superseded s' sourceId ∧
        recoveryId uuid5 eventId purpose = recoveryId uuid5 sourceId "outbox" := by
  obtain ⟨row, stored⟩ := Option.ne_none_iff_exists'.mp present
  obtain ⟨member, key⟩ := find?_some stored
  by_contra unknown
  obtain ⟨absent, unrelated⟩ := not_or.mp unknown
  rw [not_not] at absent
  have fresh : s.outboxEvent? row.eventId = none := by
    rw [show row.eventId = _ from key]
    exact absent
  have gone : s'.outboxEvents = s.outboxEvents → False := by
    intro same
    rw [Store.outboxEvent?, same] at stored
    exact absurd (absent.symm.trans stored) (by simp)
  cases step with
  | ran made own =>
    exact own.outboxEvents row member fresh
      (show RelayId uuid5 known row.eventId from key ▸ derived)
  | recovered now cutoff candidateId named later made =>
    cases made with
    | skipped unchanged => exact gone (by rw [unchanged])
    | republished source operation listed stranded _ made =>
      obtain old | new := made.outboxEvents.mem.mp member
      · exact absurd (find?_of_mem old) (by rw [show s.outboxEvents.find? _ = _ from fresh]; simp)
      · cases new
        have own : source.eventId = candidateId := (find?_some listed).2
        exact unrelated ⟨source.eventId, own ▸ named,
          superseded_of_republished journal later listed stranded made, key.symm⟩
    | escalated _ _ _ _ _ _ made => exact gone (by rw [made.frame])
  | published other publishedAt found _ made =>
    rw [made] at member
    obtain ⟨old, -⟩ | ⟨rfl, -⟩ := mem_replace.mp member
    · exact absurd (find?_of_mem old) (by rw [show s.outboxEvents.find? _ = _ from fresh]; simp)
    · exact absurd found (by rw [show s.outboxEvents.find? other.eventId = none from fresh]; simp)
  | evidence frame => exact gone (by rw [frame])

/-- An audit event under a derived id was there, or tells of a replay or an escalation. -/
theorem audit_origin (step : RelayStep uuid5 known maxRecoveries s s') {eventId : OpaqueId}
    {purpose : String} (derived : RelayId uuid5 known (recoveryId uuid5 eventId purpose))
    (present : s'.auditEvents.find? (recoveryId uuid5 eventId purpose) ≠ none) :
    s.auditEvents.find? (recoveryId uuid5 eventId purpose) ≠ none ∨
      ∃ sourceId ∈ known, (Superseded s' sourceId ∧
          recoveryId uuid5 eventId purpose = recoveryId uuid5 sourceId "audit") ∨
        (TakenOver s' sourceId ∧
          recoveryId uuid5 eventId purpose = recoveryId uuid5 sourceId "exhausted") := by
  obtain ⟨event, stored⟩ := Option.ne_none_iff_exists'.mp present
  obtain ⟨member, key⟩ := find?_some stored
  by_contra unknown
  obtain ⟨absent, unrelated⟩ := not_or.mp unknown
  rw [not_not] at absent
  have fresh : s.auditEvents.find? event.auditEventId = none := by
    rw [show event.auditEventId = _ from key]
    exact absent
  have unlisted : event ∉ s.auditEvents.rows := fun old =>
    absurd (find?_of_mem old) (by rw [show s.auditEvents.find? _ = _ from fresh]; simp)
  have gone : s'.auditEvents = s.auditEvents → False := fun same => unlisted (same ▸ member)
  cases step with
  | ran made own =>
    exact own.auditEvents event member fresh
      (show RelayId uuid5 known event.auditEventId from key ▸ derived)
  | recovered now cutoff candidateId named later made =>
    cases made with
    | skipped unchanged => exact gone (by rw [unchanged])
    | republished source operation listed stranded _ made =>
      rw [made.auditEvents] at member
      obtain old | new := List.mem_append.mp member
      · exact unlisted old
      · cases List.mem_singleton.mp new
        have own : source.eventId = candidateId := (find?_some listed).2
        exact unrelated ⟨source.eventId, own ▸ named, .inl
          ⟨superseded_of_republished journal later listed stranded made, key.symm⟩⟩
    | escalated source operation listed found stranded _ made =>
      rw [made.auditEvents] at member
      obtain old | new := List.mem_append.mp member
      · exact unlisted old
      · cases List.mem_singleton.mp new
        have own : source.eventId = candidateId := (find?_some listed).2
        exact unrelated ⟨source.eventId, own ▸ named, .inr
          ⟨takenOver_of_escalated journal later listed found stranded made, key.symm⟩⟩
  | published _ _ _ _ made => exact gone (by rw [made])
  | evidence frame => exact gone (by rw [frame])

theorem replayed_step (apart : NamesApart uuid5 known)
    (step : RelayStep uuid5 known maxRecoveries s s') (eventId : OpaqueId) (named : eventId ∈ known)
    (recorded : s'.outboxEvent? (recoveryId uuid5 eventId "outbox") ≠ none ∨
      s'.auditEvents.find? (recoveryId uuid5 eventId "audit") ≠ none) : Superseded s' eventId := by
  obtain row | event := recorded
  · obtain old | ⟨sourceId, source, superseded, same⟩ :=
      outbox_origin journal step (relayId_recoveryId named (by decide)) row
    · exact (journal.replayed eventId named (.inl old)).later step.outbox_evolves
    · obtain ⟨rfl, -⟩ := recoveryId_inj apart named source (by decide) (by decide) same
      exact superseded
  · obtain old | ⟨sourceId, source, ⟨superseded, same⟩ | ⟨-, same⟩⟩ :=
      audit_origin journal step (relayId_recoveryId named (by decide)) event
    · exact (journal.replayed eventId named (.inr old)).later step.outbox_evolves
    · obtain ⟨rfl, -⟩ := recoveryId_inj apart named source (by decide) (by decide) same
      exact superseded
    · obtain ⟨-, other⟩ := recoveryId_inj apart named source (by decide) (by decide) same
      exact absurd other (by decide)

theorem escalated_step (apart : NamesApart uuid5 known)
    (step : RelayStep uuid5 known maxRecoveries s s') (eventId : OpaqueId) (named : eventId ∈ known)
    (recorded : s'.auditEvents.find? (recoveryId uuid5 eventId "exhausted") ≠ none) :
    Retired s' eventId := by
  obtain old | ⟨sourceId, source, ⟨-, same⟩ | ⟨takenOver, same⟩⟩ :=
    audit_origin journal step (relayId_recoveryId named (by decide)) recorded
  · exact (journal.escalated eventId named old).step step
  · obtain ⟨-, other⟩ := recoveryId_inj apart named source (by decide) (by decide) same
    exact absurd other (by decide)
  · obtain ⟨rfl, -⟩ := recoveryId_inj apart named source (by decide) (by decide) same
    exact .inr takenOver

/-- What one scheduled action preserves. -/
theorem RelayJournal.step (apart : NamesApart uuid5 known)
    (step : RelayStep uuid5 known maxRecoveries s s') :
    RelayJournal uuid5 known maxRecoveries s' where
  bounded := bounded_step journal step
  published := published_step journal step
  created := created_step journal step
  stamped := stamped_step journal step
  replayed := replayed_step journal apart step
  escalated := escalated_step journal apart step
  exhausted := exhausted_step journal step

end Preservation

theorem RelayJournal.empty : RelayJournal uuid5 known maxRecoveries .empty where
  bounded := fun _ _ _ => Nat.zero_le _
  published := fun _ member => absurd member List.not_mem_nil
  created := fun _ member => absurd member List.not_mem_nil
  stamped := fun _ _ found => by cases found
  replayed := fun _ _ recorded => recorded.elim (absurd rfl) (absurd rfl)
  escalated := fun _ _ recorded => absurd rfl recorded
  exhausted := fun _ member => absurd member List.not_mem_nil

/-- What a whole scheduled run preserves. -/
theorem relayJournal_run (apart : NamesApart uuid5 known) (actions : List JournalAction)
    (scheduled : Stepwise uuid5 (Scheduled uuid5 known maxRecoveries) s actions)
    (journal : RelayJournal uuid5 known maxRecoveries s) :
    RelayJournal uuid5 known maxRecoveries (run uuid5 s actions) := by
  induction actions generalizing s with
  | nil => exact journal
  | cons action rest ih =>
    exact ih scheduled.2 (RelayJournal.step journal apart (relayStep_of_act scheduled.1))

/-! ## Units of work -/

/-- The unit of work skips an event it is done with. -/
theorem Retired.not_handles {now cutoff : UtcTimestamp} {bound : Nat} {eventId : OpaqueId}
    (retired : Retired s eventId) : ¬Handles uuid5 now cutoff bound s eventId := by
  rintro ⟨source, operation, _, _, stored, found, stranded, -⟩
  have key : source.eventId = eventId := (find?_some stored).2
  obtain ⟨candidate, fits⟩ := (stillStranded_iff (find?_some stored).1 found).mp stranded
  obtain superseded | ⟨event, loaded, stored', found', manual, -⟩ := retired
  · exact not_superseded_of_candidate candidate (key ▸ superseded)
  · cases stored.symm.trans stored'
    cases found.symm.trans found'
    rw [manual] at fits
    exact absurd (resting_fits (by decide) fits) (by decide)

theorem Retired.run {eventId : OpaqueId} (actions : List JournalAction)
    (scheduled : Stepwise uuid5 (Scheduled uuid5 known maxRecoveries) s actions)
    (retired : Retired s eventId) : Retired (run uuid5 s actions) eventId := by
  induction actions generalizing s with
  | nil => exact retired
  | cons action rest ih => exact ih scheduled.2 (retired.step (relayStep_of_act scheduled.1))

namespace RelayJournal

variable (journal : RelayJournal uuid5 known maxRecoveries s)

include journal

/-- What it handles it is done with. -/
theorem retired_of_handles {now cutoff : UtcTimestamp} {eventId : OpaqueId}
    (later : cutoff.value < now.value)
    (handles : Handles uuid5 now cutoff maxRecoveries s eventId) :
    Retired (act uuid5 s (.recoverCandidate now cutoff maxRecoveries eventId)) eventId := by
  obtain ⟨source, operation, recovered, s', stored, found, stranded, ran, made⟩ := handles
  have key : source.eventId = eventId := (find?_some stored).2
  have body : (JournalAction.recoverCandidate now cutoff maxRecoveries eventId).body uuid5 s =
      .ok ((), s') := bind_ok.mpr ⟨recovered, s', ran, rfl⟩
  rw [act, execute_ok.mpr body, ← key]
  obtain made | made := made
  · exact .inl (superseded_of_republished journal later stored stranded made)
  · exact .inr (takenOver_of_escalated journal later stored found stranded made)

/-- An accepted candidate is handled. -/
theorem handles {now cutoff : UtcTimestamp} {source : OutboxEvent} {operation : Operation}
    (named : source.eventId ∈ known) (later : cutoff.value < now.value)
    (stored : s.outboxEvent? source.eventId = some source)
    (found : s.operation? source.aggregateId = some operation)
    (stranded : stillStranded s source operation cutoff = true) :
    Handles uuid5 now cutoff maxRecoveries s source.eventId :=
  (handles_iff stored found).mpr
    ⟨stranded, journal.writes_accepted named later (find?_some stored).1 found stranded⟩

/-- The unit of work of a candidate never raises. -/
theorem recoverCandidate_returns {now cutoff : UtcTimestamp} {candidateId : OpaqueId}
    (named : candidateId ∈ known) (later : cutoff.value < now.value) :
    ∃ recovered s',
      recoverCandidate uuid5 now cutoff maxRecoveries candidateId s = .ok (recovered, s') := by
  cases stored : s.outboxEvent? candidateId with
  | none => exact ⟨false, s, by simp only [recoverCandidate, stored]⟩
  | some source =>
    cases found : s.operation? source.aggregateId with
    | none => exact ⟨false, s, by simp only [recoverCandidate, stored, found]⟩
    | some operation =>
      obtain rfl : source.eventId = candidateId := (find?_some stored).2
      cases stranded : stillStranded s source operation cutoff with
      | false => exact ⟨false, s, by rw [recoverCandidate_of_found stored found, stranded]; rfl⟩
      | true =>
        obtain ⟨_, _, recovered, s', -, -, -, ran, -⟩ :=
          journal.handles named later stored found stranded
        exact ⟨recovered, s', ran⟩

/-- At the bound the unit of work of an accepted candidate escalates. -/
theorem recoverCandidate_escalates {now cutoff : UtcTimestamp} {source : OutboxEvent}
    {operation : Operation} (named : source.eventId ∈ known) (later : cutoff.value < now.value)
    (stored : s.outboxEvent? source.eventId = some source)
    (found : s.operation? source.aggregateId = some operation)
    (stranded : stillStranded s source operation cutoff = true)
    (reached : maxRecoveries ≤ s.countReasonForCommand operation.operationId
      recoveryRepublishedReason source.command operation.version) :
    ∃ s', recoverCandidate uuid5 now cutoff maxRecoveries source.eventId s = .ok (false, s') ∧
      OperationEscalated (exhaustedRequest uuid5 source operation now maxRecoveries) operation
        s s' := by
  have key : s.operation? operation.operationId = some operation := (find?_some found).2 ▸ found
  have accepted := journal.writes_accepted named later (find?_some stored).1 found stranded
  unfold WritesAccepted at accepted
  rw [if_pos reached] at accepted
  obtain ⟨recovered, s', ran⟩ :=
    (escalateExhausted_commits_iff key (stillStranded_fits stranded)).mpr accepted.2
  obtain ⟨rfl, made⟩ := escalateExhausted_ok key ran
  refine ⟨s', ?_, made⟩
  rw [recoverCandidate_of_found stored found, stranded, Bool.not_true, if_neg Bool.false_ne_true,
    if_pos reached, if_pos accepted.1]
  exact ran

end RelayJournal

/-! ## A run of the relay -/

theorem strandedCutoff_lt {afterSeconds : Nat} (now : UtcTimestamp) (delayed : 1 ≤ afterSeconds) :
    (strandedCutoff now afterSeconds).value < now.value := by
  unfold strandedCutoff
  dsimp only
  omega

/-- An operation has one candidate, its newest row. -/
theorem candidate_unique {cutoff : UtcTimestamp} {one other : OutboxEvent}
    (first : Candidate s cutoff one) (second : Candidate s cutoff other)
    (same : one.aggregateId = other.aggregateId) : one = other := by
  have below : outboxAge one ≤ outboxAge other :=
    second.newest one (mem_select.mpr ⟨first.stored, decide_eq_true same⟩)
  have above : outboxAge other ≤ outboxAge one :=
    first.newest other (mem_select.mpr ⟨second.stored, decide_eq_true same.symm⟩)
  exact rows_injOn_key _ first.stored second.stored
    (eventId_of_outboxAge (le_antisymm below above))

/-- The unit of work of another operation's candidate leaves the operation alone. -/
theorem spared_of_ran {now cutoff : UtcTimestamp} {candidateId operationId : OpaqueId}
    (ran : CandidateRan uuid5 now cutoff maxRecoveries candidateId s s')
    (other : ∀ source, s.outboxEvent? candidateId = some source →
      source.aggregateId ≠ operationId) :
    Untouched operationId s s' ∧ s'.auditEventsOf operationId = s.auditEventsOf operationId := by
  have untouched : Untouched operationId s s' := by
    obtain untouched | ⟨source, _, stored, -, own, -⟩ := untouched_of_ran ran
    · exact untouched
    · exact absurd own (other source stored)
  refine ⟨untouched, ?_⟩
  cases ran with
  | skipped same => rw [same]
  | republished source operation stored _ _ made =>
    have key : operation.operationId = source.aggregateId := (find?_some made.found).2
    have about : ∀ event ∈ [republishedEvent uuid5 source operation now
        (s.nextSequence operation.operationId)], event.operationId = source.aggregateId := by
      simpa [republishedEvent] using key
    rw [auditEventsOf_append made.auditEvents about, if_neg (other source stored), List.append_nil]
  | escalated source operation stored found _ _ made =>
    have key : operation.operationId = source.aggregateId := (find?_some found).2
    have about : ∀ event ∈ [escalationEvent
        (exhaustedRequest uuid5 source operation now maxRecoveries) operation
        (s.nextSequence operation.operationId)], event.operationId = source.aggregateId := by
      simpa [escalationEvent] using key
    rw [auditEventsOf_append made.auditEvents about, if_neg (other source stored), List.append_nil]

/-- The operation is in MANUAL_INTERVENTION by one move, and no work was scheduled for it. -/
structure HandedOver (now : UtcTimestamp) (operation : Operation) (s s' : Store) : Prop where
  moved : s'.operation? operation.operationId =
    some (steppedOperation operation .manualIntervention now .unchanged)
  outboxEvents : s'.outboxEventsOf operation.operationId = s.outboxEventsOf operation.operationId

theorem handedOver_of_escalated {now : UtcTimestamp} {source : OutboxEvent} {operation : Operation}
    (made : OperationEscalated (exhaustedRequest uuid5 source operation now maxRecoveries) operation
      s s') : HandedOver now operation s s' where
  moved := (operation?_replace_stepped made.found made.operations _).trans (if_pos rfl)
  outboxEvents := by
    rw [made.frame]
    rfl

/-- The recheck reads no more than the operation's own rows. -/
theorem stillStranded_congr {cutoff : UtcTimestamp} {source : OutboxEvent} {operation : Operation}
    (same : s'.outboxEventsOf operation.operationId = s.outboxEventsOf operation.operationId) :
    stillStranded s' source operation cutoff = stillStranded s source operation cutoff := by
  have latest : s'.latestOutbox? operation.operationId = s.latestOutbox? operation.operationId := by
    rw [Store.latestOutbox?, same, Store.latestOutbox?]
  rw [stillStranded, latest, stillStranded]

section Loop

variable {now cutoff : UtcTimestamp} (apart : NamesApart uuid5 known)
  (later : cutoff.value < now.value)

include apart later

/-- The loop is its units of work one after another: none raises. -/
theorem recoverEach_eq_run (journal : RelayJournal uuid5 known maxRecoveries s)
    (candidateIds : List OpaqueId) (named : candidateIds ⊆ known) :
    recoverEach uuid5 now cutoff maxRecoveries candidateIds s =
      run uuid5 s (candidateIds.map fun candidateId =>
        .recoverCandidate now cutoff maxRecoveries candidateId) := by
  induction candidateIds generalizing s with
  | nil => rfl
  | cons candidateId rest ih =>
    have mine : candidateId ∈ known := named List.mem_cons_self
    obtain ⟨recovered, s', ran⟩ := journal.recoverCandidate_returns mine later
    have body : (JournalAction.recoverCandidate now cutoff maxRecoveries candidateId).body uuid5 s =
        .ok ((), s') := bind_ok.mpr ⟨recovered, s', ran, rfl⟩
    have acted : act uuid5 s (.recoverCandidate now cutoff maxRecoveries candidateId) = s' := by
      rw [act, execute_ok.mpr body]
    have step : RelayStep uuid5 known maxRecoveries s s' :=
      .recovered now cutoff candidateId mine later (recoverCandidate_ran ran)
    rw [recoverEach, ran, List.map_cons, run, List.foldl_cons, acted]
    exact ih (RelayJournal.step journal apart step) (List.subset_of_cons_subset named)

/-- The loop escalates a stranded candidate whose bound is reached, wherever it stands in the
list: the candidates before it are of other operations, and those after it leave it alone. -/
theorem recoverEach_handsOver (journal : RelayJournal uuid5 known maxRecoveries s)
    {source : OutboxEvent} {operation : Operation} (candidates : List OutboxEvent)
    (named : ∀ candidate ∈ candidates, candidate.eventId ∈ known)
    (stored : ∀ candidate ∈ candidates, s.outboxEvent? candidate.eventId = some candidate)
    (alone : ∀ candidate ∈ candidates, candidate.aggregateId = source.aggregateId →
      candidate = source)
    (member : source ∈ candidates)
    (found : s.operation? source.aggregateId = some operation)
    (stranded : stillStranded s source operation cutoff = true)
    (reached : maxRecoveries ≤ s.countReasonForCommand operation.operationId
      recoveryRepublishedReason source.command operation.version) :
    HandedOver now operation s
      (recoverEach uuid5 now cutoff maxRecoveries (candidates.map (·.eventId)) s) := by
  have key : operation.operationId = source.aggregateId := (find?_some found).2
  induction candidates generalizing s with
  | nil => cases member
  | cons candidate rest ih =>
    have kept : ∀ {s'}, CandidateRan uuid5 now cutoff maxRecoveries candidate.eventId s s' →
        ∀ other ∈ rest, s'.outboxEvent? other.eventId = some other := fun ran other listed =>
      outboxEvent?_of_ran ran (stored other (List.mem_cons_of_mem _ listed))
    rw [List.map_cons, recoverEach]
    by_cases mine : candidate = source
    · subst mine
      obtain ⟨s', ran, made⟩ := journal.recoverCandidate_escalates (named _ List.mem_cons_self)
        later (stored _ List.mem_cons_self) found stranded reached
      have handed := handedOver_of_escalated made
      rw [ran]
      dsimp only
      have rests : (steppedOperation operation .manualIntervention now .unchanged).state ∈
          restStates := by
        change OperationState.manualIntervention ∈ restStates
        decide
      have spared : (steppedOperation operation .manualIntervention now .unchanged).state ≠
          .compensationFailed := by
        change OperationState.manualIntervention ≠ .compensationFailed
        decide
      have untouched : Untouched operation.operationId s' (recoverEach uuid5 now cutoff
          maxRecoveries (rest.map (·.eventId)) s') :=
        recoverEach_untouched rests rest (kept (recoverCandidate_ran ran)) (fun _ _ _ => spared)
          handed.moved
      exact ⟨untouched.operation.trans handed.moved,
        untouched.outboxEvents.trans handed.outboxEvents⟩
    · obtain ⟨recovered, s', ran⟩ :=
        journal.recoverCandidate_returns (named _ List.mem_cons_self) later
      have made := recoverCandidate_ran ran
      have other : ∀ row, s.outboxEvent? candidate.eventId = some row →
          row.aggregateId ≠ operation.operationId := by
        rintro row at_ same
        cases (stored _ List.mem_cons_self).symm.trans at_
        exact mine (alone _ List.mem_cons_self (same.trans key))
      obtain ⟨untouched, audits⟩ := spared_of_ran made other
      have step : RelayStep uuid5 known maxRecoveries s s' :=
        .recovered now cutoff _ (named _ List.mem_cons_self) later made
      rw [ran]
      dsimp only
      have handed := ih (RelayJournal.step journal apart step)
        (fun other listed => named other (List.mem_cons_of_mem _ listed)) (kept made)
        (fun other listed => alone other (List.mem_cons_of_mem _ listed))
        ((List.mem_cons.mp member).resolve_left (Ne.symm mine))
        (by rw [← key, untouched.operation, key]; exact found)
        (by rw [stillStranded_congr untouched.outboxEvents]; exact stranded)
        (by rw [Store.countReasonForCommand, audits]; exact reached)
      exact ⟨handed.moved, handed.outboxEvents.trans untouched.outboxEvents⟩

end Loop

/-! ## The bound -/

theorem recoverAll_returns {I : Store → Prop} {A : (query : Query) → Answer query → Prop}
    {now cutoff : UtcTimestamp} (candidateIds : List OpaqueId)
    (each : ∀ s, I s → ∀ candidateId ∈ candidateIds, ∃ recovered s',
      recoverCandidate uuid5 now cutoff maxRecoveries candidateId s = .ok (recovered, s'))
    (recovered : Nat) :
    (recoverAll uuid5 now cutoff maxRecoveries candidateIds recovered).Returns I A := by
  induction candidateIds generalizing recovered with
  | nil => exact ⟨recovered, rfl⟩
  | cons candidateId rest ih =>
    intro s kept
    obtain ⟨counted, s', ran⟩ := each s kept candidateId List.mem_cons_self
    exact ⟨counted, s', ran, ih (fun s kept other listed =>
      each s kept other (List.mem_cons_of_mem _ listed)) _⟩

/-- The ids of the store's outbox rows. -/
def eventIds (s : Store) : List OpaqueId := s.outboxEvents.rows.map (·.eventId)

/-- A journal a scheduled run leads to, its events among the known ones. -/
def ScheduledStore (uuid5 : String → OpaqueId) (known : List OpaqueId) (maxRecoveries : Nat)
    (s : Store) : Prop :=
  eventIds s ⊆ known ∧ ∃ actions,
    Stepwise uuid5 (Scheduled uuid5 known maxRecoveries) .empty actions ∧
      run uuid5 .empty actions = s

theorem ScheduledStore.journal (apart : NamesApart uuid5 known)
    (reached : ScheduledStore uuid5 known maxRecoveries s) :
    RelayJournal uuid5 known maxRecoveries s := by
  obtain ⟨-, actions, scheduled, rfl⟩ := reached
  exact relayJournal_run apart actions scheduled .empty

/-- The clock reads late enough for the cutoff to be a date. -/
def Dated (afterSeconds : Nat) : (query : Query) → Answer query → Prop
  | .now, now => 0 ≤ (strandedCutoff now afterSeconds).value
  | .execute .., _ => True
  | .verify .., _ => True
  | .compensate .., _ => True

/-- The units of work of a run in the store its query reads. -/
def StrandedRun.units (stranded : StrandedRun) (s : Store) : List JournalAction :=
  ((stranded.listed s).map (·.eventId)).map fun candidateId =>
    .recoverCandidate stranded.now stranded.cutoff stranded.maxRecoveries candidateId

theorem stepwise_units {now cutoff : UtcTimestamp} (later : cutoff.value < now.value)
    (candidateIds : List OpaqueId) (named : candidateIds ⊆ known) (s : Store) :
    Stepwise uuid5 (Scheduled uuid5 known maxRecoveries) s
      (candidateIds.map fun candidateId =>
        .recoverCandidate now cutoff maxRecoveries candidateId) := by
  induction candidateIds generalizing s with
  | nil => trivial
  | cons candidateId rest ih =>
    exact ⟨⟨later, rfl, named List.mem_cons_self⟩, ih (List.subset_of_cons_subset named) _⟩

/-- What the bound promises of a run and of the relay in it. -/
structure RepublicationBounded (uuid5 : String → OpaqueId) (known : List OpaqueId)
    (maxRecoveries : Nat) (actions : List JournalAction) : Prop where
  counted : ∀ operationId command version, (run uuid5 .empty actions).countReasonForCommand
    operationId recoveryRepublishedReason command version ≤ maxRecoveries
  handledOnce : ∀ before between after now cutoff bound now' cutoff' bound' eventId,
    actions = before ++ .recoverCandidate now cutoff bound eventId ::
      (between ++ .recoverCandidate now' cutoff' bound' eventId :: after) →
    Handles uuid5 now cutoff bound (run uuid5 .empty before) eventId →
      ¬Handles uuid5 now' cutoff' bound'
        (run uuid5 .empty (before ++ .recoverCandidate now cutoff bound eventId :: between)) eventId
  escalates : ∀ now cutoff source operation, cutoff.value < now.value →
    (run uuid5 .empty actions).outboxEvent? source.eventId = some source →
    (run uuid5 .empty actions).operation? source.aggregateId = some operation →
    stillStranded (run uuid5 .empty actions) source operation cutoff = true →
    maxRecoveries ≤ (run uuid5 .empty actions).countReasonForCommand operation.operationId
      recoveryRepublishedReason source.command operation.version →
    ∃ s', recoverCandidate uuid5 now cutoff maxRecoveries source.eventId
        (run uuid5 .empty actions) = .ok (false, s') ∧
      OperationEscalated (exhaustedRequest uuid5 source operation now maxRecoveries) operation
        (run uuid5 .empty actions) s'
  units : ∀ stranded : StrandedRun, stranded.Valid → stranded.maxRecoveries = maxRecoveries →
    stranded.state uuid5 (run uuid5 .empty actions) =
        run uuid5 .empty (actions ++ stranded.units (run uuid5 .empty actions)) ∧
      Stepwise uuid5 (Scheduled uuid5 known maxRecoveries) .empty
        (actions ++ stranded.units (run uuid5 .empty actions))
  handsOver : ∀ stranded : StrandedRun, stranded.Valid → stranded.maxRecoveries = maxRecoveries →
    ∀ source ∈ stranded.listed (run uuid5 .empty actions), ∀ operation,
      (run uuid5 .empty actions).operation? source.aggregateId = some operation →
      stillStranded (run uuid5 .empty actions) source operation stranded.cutoff = true →
      maxRecoveries ≤ (run uuid5 .empty actions).countReasonForCommand operation.operationId
        recoveryRepublishedReason source.command operation.version →
      HandedOver stranded.now operation (run uuid5 .empty actions)
        (stranded.state uuid5 (run uuid5 .empty actions))
  returns : ∀ limit afterSeconds, 1 ≤ limit → 1 ≤ afterSeconds → 1 ≤ maxRecoveries →
    (recoverStranded uuid5 limit afterSeconds maxRecoveries).Returns
      (ScheduledStore uuid5 known maxRecoveries) (Dated afterSeconds)

theorem StrandedRun.Valid.later {stranded : StrandedRun} (valid : stranded.Valid) :
    stranded.cutoff.value < stranded.now.value :=
  strandedCutoff_lt stranded.now valid.delayed

theorem listed_known {stranded : StrandedRun} (within : eventIds s ⊆ known) :
    (stranded.listed s).map (·.eventId) ⊆ known := by
  intro eventId listed
  obtain ⟨source, member, rfl⟩ := List.mem_map.mp listed
  exact within (List.mem_map_of_mem (candidate_of_listed member).stored)

/-- Every scheduled run republishes within the bound. -/
theorem republication_bounded (apart : NamesApart uuid5 known) {actions : List JournalAction}
    (scheduled : Stepwise uuid5 (Scheduled uuid5 known maxRecoveries) .empty actions)
    (within : eventIds (run uuid5 .empty actions) ⊆ known) :
    RepublicationBounded uuid5 known maxRecoveries actions where
  counted := (relayJournal_run apart actions scheduled .empty).bounded
  handledOnce := by
    rintro before between after now cutoff bound now' cutoff' bound' eventId rfl handles
    obtain ⟨early, ⟨later, rfl, -⟩, late⟩ := stepwise_append.mp scheduled
    obtain ⟨meanwhile, -⟩ := stepwise_append.mp late
    have journal := relayJournal_run apart before early .empty
    rw [run_append]
    exact ((journal.retired_of_handles later handles).run between meanwhile).not_handles
  escalates := by
    intro now cutoff source operation later stored found stranded reached
    have journal := relayJournal_run apart actions scheduled .empty
    have named : source.eventId ∈ known := within (List.mem_map_of_mem (find?_some stored).1)
    exact journal.recoverCandidate_escalates named later stored found stranded reached
  units := by
    rintro stranded valid rfl
    have journal := relayJournal_run apart actions scheduled .empty
    constructor
    · rw [stranded.state_of_valid valid, run_append]
      exact recoverEach_eq_run apart valid.later journal _ (listed_known within)
    · exact stepwise_append.mpr ⟨scheduled, stepwise_units valid.later _ (listed_known within) _⟩
  handsOver := by
    rintro stranded valid rfl source listed operation found still reached
    have journal := relayJournal_run apart actions scheduled .empty
    have candidates : ∀ candidate ∈ stranded.listed (run uuid5 .empty actions),
        Candidate (run uuid5 .empty actions) stranded.cutoff candidate :=
      fun _ member => candidate_of_listed member
    rw [stranded.state_of_valid valid]
    refine recoverEach_handsOver apart valid.later journal _
      (fun candidate member => listed_known within (List.mem_map_of_mem member))
      (fun candidate member => find?_of_mem (candidates candidate member).stored)
      (fun candidate member same => ?_) listed found still reached
    exact candidate_unique (candidates candidate member) (candidates source listed) same
  returns := by
    intro limit afterSeconds limited delayed positive
    rw [recoverStranded, if_neg (by omega), if_neg (by omega), if_neg (by omega), Service.now,
      Prog.question_bind]
    intro now dated
    dsimp only
    rw [if_neg (Int.not_lt.mpr dated)]
    intro s reached
    refine ⟨_, s, rfl, recoverAll_returns _ (fun t kept candidateId member => ?_) 0⟩
    obtain ⟨source, listed, rfl⟩ := List.mem_map.mp member
    have named : source.eventId ∈ known :=
      reached.1 (List.mem_map_of_mem (candidate_of_listed listed).stored)
    exact (kept.journal apart).recoverCandidate_returns named (strandedCutoff_lt now delayed)

/-! ## Samples -/

/-- Work of a READY operation that is lost twice. -/
def lostActions : List JournalAction :=
  [.transition sampleCreate, .transition sampleAllow, .markPublished (idOf "outbox") ⟨10⟩,
   .recoverCandidate ⟨100⟩ ⟨50⟩ 1 (idOf "outbox"),
   .markPublished (recoveryId idOf (idOf "outbox") "outbox") ⟨110⟩,
   .recoverCandidate ⟨200⟩ ⟨150⟩ 1 (recoveryId idOf (idOf "outbox") "outbox")]

/-- The work and its replay. -/
def lostEvents : List OpaqueId := [idOf "outbox", recoveryId idOf (idOf "outbox") "outbox"]

/-- The rows a transition inserts, checked one by one. -/
theorem ownRows_of_check {s s' : Store}
    (outbox : ∀ row ∈ s'.outboxEvents.rows, s.outboxEvent? row.eventId = none →
      ¬RelayId idOf known row.eventId)
    (audits : ∀ event ∈ s'.auditEvents.rows, s.auditEvents.find? event.auditEventId = none →
      ¬RelayId idOf known event.auditEventId)
    (clock : ∀ row ∈ s'.outboxEvents.rows, (s.operation? row.aggregateId).all fun operation =>
      decide (operation.updatedAt.value ≤ row.createdAt.value)) :
    OwnRows idOf known s s' where
  outboxEvents := outbox
  auditEvents := audits
  clock := by
    intro row member _ operation found
    have checked := clock row member
    rw [found, Option.all_some, decide_eq_true_eq] at checked
    exact checked

/-- Republished once, and then escalated. -/
theorem republication_bounded_lost :
    RepublicationBounded idOf lostEvents 1 lostActions ∧
      ((run idOf .empty lostActions).operation? (idOf "op")).map (·.state) =
        some .manualIntervention ∧
      (run idOf .empty lostActions).countReasonForCommand (idOf "op")
        recoveryRepublishedReason .execute 2 = 1 := by
  have created : OwnRows idOf lostEvents .empty (run idOf .empty (lostActions.take 1)) :=
    ownRows_of_check (by decide +kernel) (by decide +kernel) (by decide +kernel)
  have allowed : OwnRows idOf lostEvents (run idOf .empty (lostActions.take 1))
      (run idOf .empty (lostActions.take 2)) :=
    ownRows_of_check (by decide +kernel) (by decide +kernel) (by decide +kernel)
  have stamped : ∀ {s eventId publishedAt},
      (s.outboxEvent? eventId).all (fun row => decide (row.createdAt.value ≤ publishedAt.value)) →
        Scheduled idOf lostEvents 1 s (.markPublished eventId publishedAt) := by
    intro s eventId publishedAt checked row found
    rw [found, Option.all_some, decide_eq_true_eq] at checked
    exact checked
  have scheduled : Stepwise idOf (Scheduled idOf lostEvents 1) .empty lostActions :=
    ⟨created, allowed, stamped (by decide +kernel), ⟨by decide, rfl, List.mem_cons_self⟩,
      stamped (by decide +kernel), ⟨by decide, rfl, List.mem_cons_of_mem _ List.mem_cons_self⟩,
      trivial⟩
  exact ⟨republication_bounded (by decide +kernel) scheduled (by decide +kernel),
    by decide +kernel, by decide +kernel⟩

end Stateback.Invariants
