import Stateback.Invariants.Decisions
import Stateback.Invariants.Discoverability
/-!
# Stranded work and resting operations

The query for stranded work and the recheck state the same rule twice, with a table of command
states each.  A COMPENSATED operation is listed and never accepted; a COMPENSATION_FAILED one is
listed and accepted, though it rests.
-/

namespace Stateback.Invariants

open Domain Persistence Transitions Providers Messaging Compensation KeyedTable KeyedTable.Table
open Transaction Process

variable {s s' : Store} {uuid5 : String → OpaqueId}

/-- A call of `recover_stranded` with its reading of the clock. -/
structure StrandedRun where
  answers : Nat → (query : Query) → Answer query
  limit : Nat
  afterSeconds : Nat
  maxRecoveries : Nat

namespace StrandedRun

variable (run : StrandedRun)

def now : UtcTimestamp := run.answers 0 .now

def cutoff : UtcTimestamp := strandedCutoff run.now run.afterSeconds

/-- The arguments `recover_stranded` takes; the cutoff is a date. -/
structure Valid : Prop where
  limited : 1 ≤ run.limit
  delayed : 1 ≤ run.afterSeconds
  bounded : 1 ≤ run.maxRecoveries
  dated : 0 ≤ run.cutoff.value

/-- The rows the run's query lists. -/
def listed (s : Store) : List OutboxEvent := listedCandidates s run.cutoff run.limit

/-- The state the run leaves when nobody else is at work. -/
def state (uuid5 : String → OpaqueId) (s : Store) : Store :=
  (Prog.alone run.answers (recoverStranded uuid5 run.limit run.afterSeconds run.maxRecoveries) 0
    s).state

theorem state_of_valid (valid : run.Valid) (s : Store) :
    run.state uuid5 s = recoverEach uuid5 run.now run.cutoff run.maxRecoveries
      ((run.listed s).map (·.eventId)) s :=
  alone_recoverStranded run.answers valid.limited valid.delayed valid.bounded 0 valid.dated s

/-- Arguments out of range raise before a row is read. -/
theorem state_of_invalid (invalid : ¬run.Valid) (s : Store) : run.state uuid5 s = s := by
  unfold state recoverStranded
  split
  · rfl
  split
  · rfl
  split
  · rfl
  next limited delayed bounded =>
  rw [Service.now, Prog.question_bind, Prog.alone_ask]
  dsimp only
  by_cases undated : (strandedCutoff (run.answers 0 .now) run.afterSeconds).value < 0
  · rw [if_pos undated]
    rfl
  · exact absurd ⟨by omega, by omega, by omega, Int.not_lt.mp undated⟩ invalid

end StrandedRun

/-! ## The query and the recheck -/

/-- Every listed candidate is accepted and republished or escalated, and a run writes when some
event is stranded. -/
structure QueryAgrees (uuid5 : String → OpaqueId) (run : StrandedRun) (s : Store) : Prop where
  each : ∀ candidateId ∈ listStrandedCandidateIds s run.cutoff run.limit,
    Handles uuid5 run.now run.cutoff run.maxRecoveries s candidateId
  acts : run.Valid → ∀ source ∈ s.outboxEvents.rows, ∀ operation,
    s.operation? source.aggregateId = some operation →
      stillStranded s source operation run.cutoff = true → run.state uuid5 s ≠ s

/-- No listed row belongs to a COMPENSATED operation, or would write what the store refuses. -/
def Unobstructed (uuid5 : String → OpaqueId) (run : StrandedRun) (s : Store) : Prop :=
  ∀ source ∈ run.listed s, ∀ operation, s.operation? source.aggregateId = some operation →
    operation.state ≠ .compensated ∧
      WritesAccepted uuid5 run.now run.maxRecoveries s source operation

theorem handles_listed_iff {run : StrandedRun} {source : OutboxEvent} {operation : Operation}
    (listed : source ∈ run.listed s) (found : s.operation? source.aggregateId = some operation) :
    Handles uuid5 run.now run.cutoff run.maxRecoveries s source.eventId ↔
      operation.state ≠ .compensated ∧
        WritesAccepted uuid5 run.now run.maxRecoveries s source operation := by
  have candidate := candidate_of_listed listed
  obtain ⟨named, at_, listedState⟩ := candidate.applicable
  obtain rfl : named = operation := Option.some.inj (at_.symm.trans found)
  rw [handles_iff (find?_of_mem candidate.stored) found, stillStranded_iff candidate.stored found,
    candidateStates_iff listedState]
  simp [candidate]

/-- A unit of work keeps every audit event. -/
theorem audits_of_ran {now cutoff : UtcTimestamp} {maxRecoveries : Nat}
    {candidateId : OpaqueId} (ran : CandidateRan uuid5 now cutoff maxRecoveries candidateId s s') :
    s.auditEvents.rows.length ≤ s'.auditEvents.rows.length := by
  cases ran with
  | skipped same => rw [same]
  | republished _ _ _ _ _ made => simp [made.auditEvents]
  | escalated _ _ _ _ _ _ made => simp [made.auditEvents]

theorem recoverEach_audits {now cutoff : UtcTimestamp} {maxRecoveries : Nat}
    (candidateIds : List OpaqueId) (s : Store) :
    s.auditEvents.rows.length ≤
      (recoverEach uuid5 now cutoff maxRecoveries candidateIds s).auditEvents.rows.length := by
  induction candidateIds generalizing s with
  | nil => exact le_rfl
  | cons candidateId rest ih =>
    rw [recoverEach]
    split
    next s' ran => exact (audits_of_ran (recoverCandidate_ran ran)).trans (ih s')
    · exact le_rfl

/-- The query and the recheck agree exactly on a store whose listed rows are unobstructed. -/
theorem query_agrees_iff (run : StrandedRun) (s : Store) :
    QueryAgrees uuid5 run s ↔ Unobstructed uuid5 run s := by
  constructor
  · intro agrees source listed operation found
    exact (handles_listed_iff listed found).mp
      (agrees.each _ (List.mem_map_of_mem listed))
  · intro unobstructed
    have each : ∀ candidateId ∈ listStrandedCandidateIds s run.cutoff run.limit,
        Handles uuid5 run.now run.cutoff run.maxRecoveries s candidateId := by
      intro candidateId member
      obtain ⟨source, listed, rfl⟩ := List.mem_map.mp member
      obtain ⟨operation, found, -⟩ := (candidate_of_listed listed).applicable
      exact (handles_listed_iff listed found).mpr (unobstructed source listed operation found)
    refine ⟨each, fun valid source stored operation found stranded same => ?_⟩
    have candidate := ((stillStranded_iff stored found).mp stranded).1
    obtain ⟨first, rest, listed⟩ := List.exists_cons_of_ne_nil
      (listedCandidates_ne_nil valid.1 candidate)
    have first_listed : first ∈ listedCandidates s run.cutoff run.limit := by
      rw [listed]
      exact List.mem_cons_self
    obtain ⟨_, _, recovered, s', -, -, -, ran, made⟩ :=
      each first.eventId (List.mem_map_of_mem first_listed)
    have grown : s.auditEvents.rows.length < s'.auditEvents.rows.length := by
      obtain made | made := made <;> simp [made.auditEvents]
    have later : s'.auditEvents.rows.length ≤ (recoverEach uuid5 run.now run.cutoff
        run.maxRecoveries (rest.map (·.eventId)) s').auditEvents.rows.length :=
      recoverEach_audits _ s'
    rw [run.state_of_valid valid, StrandedRun.listed, listed, List.map_cons, recoverEach, ran]
      at same
    dsimp only at same
    rw [same] at later
    omega

/-! ## Resting operations -/

/-- The normal forward terminal states. -/
def restStates : List OperationState :=
  [.succeeded, .failed, .denied, .cancelled, .compensated, .compensationFailed,
   .manualIntervention]

/-- Of the resting states a command fits COMPENSATION_FAILED only. -/
theorem resting_fits {state : OperationState} {command : WorkCommand} (rests : state ∈ restStates)
    (fits : state ∈ commandStates command) : state = .compensationFailed := by
  revert rests fits
  cases command <;> cases state <;> decide

/-- The operation's row and outbox events are as they were. -/
structure Untouched (operationId : OpaqueId) (s s' : Store) : Prop where
  operation : s'.operation? operationId = s.operation? operationId
  outboxEvents : s'.outboxEventsOf operationId = s.outboxEventsOf operationId

theorem Untouched.trans {operationId : OpaqueId} {s t u : Store} (first : Untouched operationId s t)
    (second : Untouched operationId t u) : Untouched operationId s u :=
  ⟨second.operation.trans first.operation, second.outboxEvents.trans first.outboxEvents⟩

/-- A unit of work touches the operation of its candidate, in a state the command fits. -/
theorem untouched_of_ran {now cutoff : UtcTimestamp} {maxRecoveries : Nat}
    {candidateId operationId : OpaqueId}
    (ran : CandidateRan uuid5 now cutoff maxRecoveries candidateId s s') :
    Untouched operationId s s' ∨ ∃ source operation, s.outboxEvent? candidateId = some source ∧
      s.operation? operationId = some operation ∧ source.aggregateId = operationId ∧
      operation.state ∈ commandStates source.command := by
  cases ran with
  | skipped same => exact .inl (same ▸ ⟨rfl, rfl⟩)
  | republished source operation stored stranded _ made =>
    by_cases own : source.aggregateId = operationId
    · exact .inr ⟨source, operation, stored, own ▸ made.found, own, made.fits⟩
    · refine .inl ⟨by rw [made.frame]; rfl, ?_⟩
      have key : operation.operationId = source.aggregateId := (find?_some made.found).2
      have other : decide ((replayedOutbox uuid5 source operation now).aggregateId = operationId) =
          false := decide_eq_false fun same => own (key.symm.trans same)
      exact made.outboxEvents.select_of_not fun _ is => Option.some.inj is ▸ other
  | escalated source operation stored found stranded _ made =>
    by_cases own : source.aggregateId = operationId
    · exact .inr ⟨source, operation, stored, own ▸ found, own, stillStranded_fits stranded⟩
    · refine .inl ⟨?_, by rw [made.frame]; rfl⟩
      have key : operation.operationId = source.aggregateId := (find?_some found).2
      rw [operation?_replace_stepped made.found made.operations, if_neg]
      exact fun same => own (key.symm.trans same)

theorem outboxEvent?_of_ran {now cutoff : UtcTimestamp} {maxRecoveries : Nat}
    {candidateId eventId : OpaqueId} {event : OutboxEvent}
    (ran : CandidateRan uuid5 now cutoff maxRecoveries candidateId s s')
    (stored : s.outboxEvent? eventId = some event) : s'.outboxEvent? eventId = some event := by
  cases ran with
  | skipped same => exact same ▸ stored
  | republished _ _ _ _ _ made => exact made.outboxEvents.find?_of_some stored
  | escalated _ _ _ _ _ _ made =>
    rw [Store.outboxEvent?, made.frame]
    exact stored

/-- No listed row belongs to a COMPENSATION_FAILED operation. -/
def SparesFailed (run : StrandedRun) (s : Store) : Prop :=
  ∀ source ∈ run.listed s, ∀ operation, s.operation? source.aggregateId = some operation →
    operation.state ≠ .compensationFailed

/-- The loop leaves a resting operation alone when no candidate's operation is
COMPENSATION_FAILED. -/
theorem recoverEach_untouched {now cutoff : UtcTimestamp} {maxRecoveries : Nat}
    {operationId : OpaqueId} {operation : Operation} (rests : operation.state ∈ restStates)
    (candidates : List OutboxEvent)
    (stored : ∀ source ∈ candidates, s.outboxEvent? source.eventId = some source)
    (spared : ∀ source ∈ candidates, source.aggregateId = operationId →
      operation.state ≠ .compensationFailed)
    (found : s.operation? operationId = some operation) :
    Untouched operationId s
      (recoverEach uuid5 now cutoff maxRecoveries (candidates.map (·.eventId)) s) := by
  induction candidates generalizing s with
  | nil => exact ⟨rfl, rfl⟩
  | cons source rest ih =>
    rw [List.map_cons, recoverEach]
    split
    next s' ran =>
      have ran := recoverCandidate_ran ran
      have touches : Untouched operationId s s' ∨ _ := untouched_of_ran ran
      obtain untouched | ⟨event, loaded, at_, there, own, fits⟩ := touches
      · have kept : ∀ later ∈ rest, s'.outboxEvent? later.eventId = some later :=
          fun later member =>
            outboxEvent?_of_ran ran (stored later (List.mem_cons_of_mem _ member))
        exact untouched.trans (ih kept (fun later member =>
          spared later (List.mem_cons_of_mem _ member)) (untouched.operation.trans found))
      · cases (stored source List.mem_cons_self).symm.trans at_
        cases found.symm.trans there
        exact absurd (resting_fits rests fits) (spared source List.mem_cons_self own)
    · exact ⟨rfl, rfl⟩

/-- A run touches no resting operation when it lists none that is COMPENSATION_FAILED. -/
theorem run_untouched {run : StrandedRun} {operationId : OpaqueId} {operation : Operation}
    (spares : SparesFailed run s) (found : s.operation? operationId = some operation)
    (rests : operation.state ∈ restStates) : Untouched operationId s (run.state uuid5 s) := by
  by_cases valid : run.Valid
  · rw [run.state_of_valid valid]
    refine recoverEach_untouched rests _ (fun source listed =>
      find?_of_mem (candidate_of_listed listed).stored) (fun source listed own => ?_) found
    exact spares source listed operation (own ▸ found)
  · rw [run.state_of_invalid valid]
    exact ⟨rfl, rfl⟩

/-- The runs one after another, and what each of them meets. -/
def strandedRuns (uuid5 : String → OpaqueId) (runs : List StrandedRun) (s : Store) : Store :=
  runs.foldl (fun s run => run.state uuid5 s) s

/-- Every run satisfies `C` in the store the earlier ones leave. -/
def EachRun (uuid5 : String → OpaqueId) (C : StrandedRun → Store → Prop) :
    List StrandedRun → Store → Prop
  | [], _ => True
  | run :: rest, s => C run s ∧ EachRun uuid5 C rest (run.state uuid5 s)

/-- However often stranded work is recovered, a resting operation is left alone as long as no run
lists a COMPENSATION_FAILED one. -/
theorem resting_untouched {runs : List StrandedRun} (spared : EachRun uuid5 SparesFailed runs s)
    {operationId : OpaqueId} {operation : Operation}
    (found : s.operation? operationId = some operation) (rests : operation.state ∈ restStates) :
    Untouched operationId s (strandedRuns uuid5 runs s) := by
  induction runs generalizing s with
  | nil => exact ⟨rfl, rfl⟩
  | cons run rest ih =>
    have first : Untouched operationId s (run.state uuid5 s) := run_untouched spared.1 found rests
    exact first.trans (ih spared.2 (first.operation.trans found))

/-! ## Samples -/

/-- A clock that stands, before providers that fail. -/
def clockAt (now : Int) : Nat → (query : Query) → Answer query
  | _, .now => ⟨now⟩
  | _, .execute .. => .raisedOther "TimeoutError"
  | _, .verify .. => .raisedOther "TimeoutError"
  | _, .compensate .. => .raisedOther "TimeoutError"

/-- A run at `now` that takes one candidate, after a second, and republishes once. -/
def sampleRun (now : Int) : StrandedRun := ⟨clockAt now, 1, 1, 1⟩

/-- The compensation of the sample operation ends as the body says; its work was published. -/
def settledActions (body : CommandBody) : List JournalAction :=
  compensatingActions ++
    [.transition (sampleClaim 5 "first" "compensation-attempt"),
     .transition (sampleCommand 5 9 "audit-settled" body),
     .markPublished (idOf "outbox-compensate") ⟨10⟩]

def undoneActions : List JournalAction :=
  settledActions (.compensationApplied undoneAttempt (idOf "audit-undo") none)

def undoneJournal : Store := run idOf .empty undoneActions

theorem undoneJournal_operation : undoneJournal.operation? (idOf "op") = some
    { compensatingOperation 6 9 with state := .compensated } := by decide +kernel

/-- The COMPENSATED operation is listed, and rests. -/
theorem resting_untouched_compensated :
    Untouched (idOf "op") undoneJournal
      (strandedRuns idOf [sampleRun 1000100] undoneJournal) := by
  have own : ∀ source ∈ (sampleRun 1000100).listed undoneJournal,
      source.aggregateId = idOf "op" := by
    decide +kernel
  have spares : SparesFailed (sampleRun 1000100) undoneJournal := by
    intro source listed operation found
    rw [own source listed, undoneJournal_operation] at found
    cases found
    decide
  have spared : EachRun idOf SparesFailed [sampleRun 1000100] undoneJournal :=
    ⟨spares, trivial⟩
  exact resting_untouched spared undoneJournal_operation (by decide)

def undoFailedActions : List JournalAction :=
  settledActions (.compensationOutcomeFailed
    (completeAttemptFromEvidence (sampleCompensationAttempt "first" "compensation-attempt")
      ⟨.notApplied, none, none, none⟩ ⟨8⟩) (idOf "audit-undo") none)

def undoFailedJournal : Store := run idOf .empty undoFailedActions

/-- The first run sends the compensation's work again, the second moves the operation. -/
theorem failed_compensation_woken :
    Reachable idOf undoFailedJournal ∧
      (undoFailedJournal.operation? (idOf "op")).map (·.state) = some .compensationFailed ∧
      ¬Untouched (idOf "op") undoFailedJournal
        ((sampleRun 1000100).state idOf undoFailedJournal) ∧
      ((((sampleRun 3000000).state idOf
        (act idOf
          ((sampleRun 1000100).state idOf undoFailedJournal)
          (.markPublished (recoveryId idOf (idOf "outbox-compensate") "outbox")
            ⟨1000200⟩))).operation? (idOf "op")).map (·.state) = some .manualIntervention) := by
  refine ⟨⟨undoFailedActions, rfl⟩, by decide +kernel, fun untouched => ?_, by decide +kernel⟩
  have grown : ((sampleRun 1000100).state idOf undoFailedJournal).outboxEventsOf
      (idOf "op") ≠ undoFailedJournal.outboxEventsOf (idOf "op") := by decide +kernel
  exact grown untouched.outboxEvents

/-- A second operation waits READY, its work published later. -/
def starvedActions : List JournalAction :=
  undoneActions ++
    [.transition (.create
       { operation := { sampleOperation with
           operationId := idOf "op-2"
           idempotencyIdentity := operationIdempotencyIdentity (idOf "op-2") }
         occurredAt := ⟨0⟩
         actor := some sampleRequester
         correlationId := none
         reasonCode := "create"
         createdAuditEventId := idOf "audit-created-2" }),
     .transition (.operation
       { operationId := idOf "op-2"
         expectedVersion := 1
         occurredAt := ⟨1⟩
         actor := some sampleRequester
         correlationId := none
         reasonCode := "sample"
         transitionAuditEventId := idOf "audit-ready-2"
         body := .policyAllow { samplePolicyDecision with
             policyDecisionId := idOf "policy-2"
             operationId := idOf "op-2" } (idOf "audit-policy-2") (idOf "outbox-2") }),
     .markPublished (idOf "outbox-2") ⟨20⟩]

def starvedJournal : Store := run idOf .empty starvedActions

def spentWork : OutboxEvent :=
  OutboxRepository.publishedRow
    (buildOutboxEvent (idOf "outbox-compensate") (idOf "op") 5 .compensate ⟨4⟩ none) ⟨10⟩

def waitingWork : OutboxEvent :=
  OutboxRepository.publishedRow
    (buildOutboxEvent (idOf "outbox-2") (idOf "op-2") 2 .execute ⟨1⟩ none) ⟨20⟩

/-- The COMPENSATED operation's row takes the run's one place, and the stranded one waits. -/
theorem compensated_starves_stranded :
    Reachable idOf starvedJournal ∧
      ¬QueryAgrees idOf (sampleRun 1000100) starvedJournal := by
  refine ⟨⟨starvedActions, rfl⟩, fun agrees => ?_⟩
  have valid : (sampleRun 1000100).Valid := ⟨by decide, by decide, by decide, by decide⟩
  have listed : ((sampleRun 1000100).listed starvedJournal).map (·.eventId) =
      [idOf "outbox-compensate"] := by decide +kernel
  have spent : starvedJournal.outboxEvent? (idOf "outbox-compensate") = some spentWork := by
    decide +kernel
  have compensated : starvedJournal.operation? (idOf "op") =
      some { compensatingOperation 6 9 with state := .compensated } := by decide +kernel
  have refused : stillStranded starvedJournal spentWork
      { compensatingOperation 6 9 with state := .compensated } (sampleRun 1000100).cutoff =
        false := by decide +kernel
  have unchanged : (sampleRun 1000100).state idOf starvedJournal =
      starvedJournal := by
    rw [(sampleRun 1000100).state_of_valid valid, listed, recoverEach,
      recoverCandidate_of_found spent compensated, refused]
    rfl
  have waiting : waitingWork ∈ starvedJournal.outboxEvents.rows := by decide +kernel
  have ready : starvedJournal.operation? (idOf "op-2") = some { allowedOperation with
      operationId := idOf "op-2"
      idempotencyIdentity := operationIdempotencyIdentity (idOf "op-2")
      currentPolicyDecisionId := some (idOf "policy-2") } := by decide +kernel
  exact agrees.acts valid waitingWork waiting _ ready (by decide +kernel) unchanged

end Stateback.Invariants
