import Stateback.Invariants.AuditChain
import Stateback.Runtime.Execute
/-!
# When `execute_operation` ends

A claim that raises a version conflict makes `_claim_and_execute` reload the operation and
dispatch the same command again.  With nobody else writing, the reload finds the same row, so
the second turn ends like the first.
-/

namespace Stateback.Runtime

open Domain Persistence Transitions Providers Transaction Process

/-- The command's version is neither the READY operation's nor one behind it, and nothing before
the claim raises. -/
def Redispatches (registry : CapabilityRegistry) (command : ExecuteCommand) (s : Store) : Prop :=
  ∃ op adapter arguments resourceIds, s.operation? command.operationId = some op ∧
    op.state = .ready ∧ registry.adapters op.intent.effect = some adapter ∧
    op.intent.arguments = some arguments ∧
    adapter.verificationResourceIds ⟨op.intent.effect, arguments⟩ = .ok resourceIds ∧
    (op.version : Int) ≠ command.expectedVersion ∧
    (op.version : Int) ≠ command.expectedVersion + 1

/-! ## What the claim answers -/

/-- The claiming transaction loads the operation the dispatch was given. -/
private theorem claim_error_iff {command : ExecuteCommand} {op : Operation}
    {descriptor : EffectDescriptor} {resourceIds : List String} {startedAt : UtcTimestamp}
    {s : Store} {e : Raised} :
    claim command op descriptor resourceIds startedAt s = .error e ↔
      applyOperation (claimCommand command op
        (claimedAttempt command op descriptor resourceIds startedAt s)) s = .error e :=
  map_error

theorem claim_conflicts {command : ExecuteCommand} {op : Operation}
    {descriptor : EffectDescriptor} {resourceIds : List String} {startedAt : UtcTimestamp}
    {s : Store} (found : s.operation? op.operationId = some op)
    (notSame : (op.version : Int) ≠ command.expectedVersion)
    (notAhead : (op.version : Int) ≠ command.expectedVersion + 1) :
    claim command op descriptor resourceIds startedAt s =
      .error (.concurrencyConflictError "stale operation version") := by
  rw [claim_error_iff]
  exact applyOperation_stale found notSame notAhead

/-! ## The writes of a claim raise no conflict -/

def NotConflict (e : Raised) : Prop := e.isConflict = false

private theorem insertAttempt_raises {attempt : ExecutionAttempt} {s : Store} :
    RaisesOnly NotConflict (AttemptRepository.insert attempt) s := by
  intro e raised
  unfold AttemptRepository.insert at raised
  split at raised
  · cases raised
    rfl
  · split at raised
    · cases raised
      rfl
    · cases raised

private theorem replaceOperation_raises {loaded : Operation} {state : OperationState}
    {version : Nat} {updatedAt : UtcTimestamp} {pointers : PointerUpdate} {s : Store} :
    RaisesOnly NotConflict (replaceOperation loaded state version updatedAt pointers) s := by
  unfold replaceOperation
  split
  · exact .throw rfl
  · exact .pure

private theorem updateCas_raises {expectedVersion : Int} {operation row : Operation} {s : Store}
    (version : (operation.version : Int) = expectedVersion + 1)
    (found : s.operation? operation.operationId = some row)
    (stored : (row.version : Int) = expectedVersion) :
    RaisesOnly NotConflict (OperationRepository.updateCas expectedVersion operation) s := by
  intro e raised
  unfold OperationRepository.updateCas at raised
  rw [if_neg (not_not_intro version)] at raised
  simp [found, stored] at raised

private theorem appendAll_raises {events : List AuditEvent} {s : Store} :
    RaisesOnly NotConflict (appendAll events) s := by
  induction events generalizing s with
  | nil => exact .pure
  | cons event rest ih =>
    refine .bind ?_ fun _ _ _ => ih
    intro e raised
    unfold AuditRepository.append at raised
    split at raised
    · cases raised
      rfl
    · split at raised
      · cases raised
        rfl
      · cases raised

private theorem appendAudits_raises {command : OperationCommand} {loaded new : Operation}
    {related : RelatedRecords} {s : Store} :
    RaisesOnly NotConflict (appendAudits command loaded new related) s := by
  unfold appendAudits
  refine .bind .get fun _ _ _ => ?_
  exact .bind appendAll_raises fun _ _ _ => .pure

/-- The only row around the operation that a claim writes is its attempt. -/
private theorem writeRelated_claim {command : OperationCommand} {related : RelatedRecords}
    {attempt : ExecutionAttempt} {attemptAuditEventId : OpaqueId}
    (body : command.body = .claimExecution attempt attemptAuditEventId) :
    writeRelated command related = (do
      AttemptRepository.insert attempt
      pure (movedCompensation command related)) := by
  cases command
  subst body
  rfl

/-- At the operation's own version the claim may raise, but never a conflict. -/
theorem claim_not_conflict {command : ExecuteCommand} {op : Operation}
    {descriptor : EffectDescriptor} {resourceIds : List String} {startedAt : UtcTimestamp}
    {s : Store} {e : Raised} (found : s.operation? op.operationId = some op)
    (version : (op.version : Int) = command.expectedVersion)
    (raised : claim command op descriptor resourceIds startedAt s = .error e) :
    e.isConflict = false := by
  replace raised := applyOperation_raised found version (claim_error_iff.mp raised)
  revert e raised
  change RaisesOnly NotConflict _ s
  unfold commitOperation
  rw [writeRelated_claim rfl]
  refine .bind (.bind insertAttempt_raises fun _ _ _ => .pure) fun _ s₁ wrote => ?_
  obtain ⟨_, s₂, inserted, done⟩ := bind_ok.mp wrote
  obtain ⟨-, attempts, -, rfl⟩ := AttemptRepository.insert_ok inserted
  obtain ⟨-, rfl⟩ := pure_ok.mp done
  refine .bind replaceOperation_raises fun new s₃ replaced => ?_
  obtain ⟨-, rfl, rfl⟩ := replaceOperation_ok replaced
  have ahead : ((nextVersion op.version : Nat) : Int) = command.expectedVersion + 1 := by
    simp [nextVersion, version]
  refine .bind (updateCas_raises ahead found version) fun _ _ _ => ?_
  refine .bind appendAudits_raises fun _ _ _ => ?_
  exact .bind .pure fun _ _ _ => .pure

theorem claim_ahead {command : ExecuteCommand} {op : Operation} {descriptor : EffectDescriptor}
    {resourceIds : List String} {startedAt : UtcTimestamp} {s : Store} {e : Raised}
    (found : s.operation? op.operationId = some op)
    (ahead : (op.version : Int) = command.expectedVersion + 1) :
    claim command op descriptor resourceIds startedAt s ≠ .error e := by
  intro raised
  have answered : ∃ result, applyOperation (claimCommand command op
      (claimedAttempt command op descriptor resourceIds startedAt s)) s = .ok (result, s) :=
    applyOperation_ahead found ahead
  obtain ⟨result, answered⟩ := answered
  rw [claim_error_iff, answered] at raised
  cases raised

theorem claim_not_replayed {command : ExecuteCommand} {op : Operation}
    {descriptor : EffectDescriptor} {resourceIds : List String} {startedAt : UtcTimestamp}
    {s s' : Store} {started : ExecutionAttempt} {result : TransitionResult}
    (found : s.operation? op.operationId = some op) (ready : op.state = .ready)
    (ran : claim command op descriptor resourceIds startedAt s = .ok ((started, result), s')) :
    result.outcome ≠ .alreadyApplied := by
  intro replayed
  obtain ⟨result', ran, same⟩ := map_ok.mp ran
  cases same
  obtain ⟨_, -, applied, -⟩ | ⟨loaded, -, at_, -, executing, -⟩ | ⟨_, -, -, refused, -⟩ :=
    applyOperation_cases ran
  · rw [applied] at replayed
    cases replayed
  · have same := found.symm.trans at_
    cases same
    rw [ready] at executing
    cases executing
  · rw [refused] at replayed
    cases replayed

/-! ## Turns of the dispatch -/

section

variable {registry : CapabilityRegistry} {command : ExecuteCommand} {s : Store} {op : Operation}
  {answers : Nat → (query : Query) → Answer query} {n : Nat}

theorem alone_loadOperation {α : Type} {operationId : OpaqueId}
    (found : s.operation? operationId = some op) (rest : Operation → Service α) :
    Prog.alone answers (loadOperation operationId >>= rest) n s =
      Prog.alone answers (rest op) n s := by
  refine Prog.alone_transact_ok ?_
  simp only [found]

theorem alone_loadOperation_none {α : Type} {operationId : OpaqueId}
    (absent : s.operation? operationId = none) (rest : Operation → Service α) :
    (Prog.alone answers (loadOperation operationId >>= rest) n s).outcome =
      .error (.notFoundError "operation not found") := by
  refine congrArg Prog.Ended.outcome (Prog.alone_transact_error ?_)
  simp only [absent]

/-- With its lookups made, `_claim_and_execute` reads the clock and claims. -/
theorem claimAndExecute_claims {again : Operation → Service (Option RuntimeResult)}
    {adapter : Adapter} {arguments : JsonValue} {resourceIds : List String}
    (registered : registry.adapters op.intent.effect = some adapter)
    (inline : op.intent.arguments = some arguments)
    (resources : adapter.verificationResourceIds ⟨op.intent.effect, arguments⟩ =
      .ok resourceIds) :
    claimAndExecute registry command again op =
      Prog.ask Query.now fun startedAt =>
        Prog.transact .work
          (claim command op (adapter.descriptor op.intent.effect) resourceIds startedAt)
          (settleClaim registry command again ⟨op.intent.effect, arguments⟩) := by
  simp [claimAndExecute, CapabilityRegistry.descriptor, CapabilityRegistry.adapterFor,
    registered, inline, resources]

/-- A conflict with nobody else writing comes back on every turn. -/
theorem dispatch_redispatches {adapter : Adapter} {arguments : JsonValue}
    {resourceIds : List String} (found : s.operation? command.operationId = some op)
    (ready : op.state = .ready) (registered : registry.adapters op.intent.effect = some adapter)
    (inline : op.intent.arguments = some arguments)
    (resources : adapter.verificationResourceIds ⟨op.intent.effect, arguments⟩ = .ok resourceIds)
    (notSame : (op.version : Int) ≠ command.expectedVersion)
    (notAhead : (op.version : Int) ≠ command.expectedVersion + 1) (turns : Nat) :
    (Prog.alone answers (dispatch registry command turns op) n s).outcome = .ok none := by
  have own : s.operation? op.operationId = some op := by
    rw [(KeyedTable.Table.find?_some found).2]
    exact found
  induction turns generalizing n with
  | zero => rfl
  | succ turns ih =>
    simp only [dispatch, ready]
    rw [claimAndExecute_claims registered inline resources, Prog.alone_ask,
      Prog.alone_transact_error (claim_conflicts own notSame notAhead), settleClaim,
      if_pos (by rfl), alone_loadOperation found]
    exact ih

theorem alone_map_some {α : Type} (p : Service α) :
    (Prog.alone answers (some <$> p) n s).outcome ≠ .ok none := by
  rw [show some <$> p = p >>= fun a => pure (some a) from rfl, Prog.alone_bind]
  split
  · simp
  · simp

/-- At any other version one turn is enough. -/
theorem claimAndExecute_answers {again : Operation → Service (Option RuntimeResult)}
    (found : s.operation? command.operationId = some op) (ready : op.state = .ready)
    (ends : ¬ Redispatches registry command s) :
    (Prog.alone answers (claimAndExecute registry command again op) n s).outcome ≠
      .ok none := by
  have own : s.operation? op.operationId = some op := by
    rw [(KeyedTable.Table.find?_some found).2]
    exact found
  cases registered : registry.adapters op.intent.effect with
  | none =>
    simp [claimAndExecute, CapabilityRegistry.descriptor, CapabilityRegistry.adapterFor,
      registered]
  | some adapter =>
  cases inline : op.intent.arguments with
  | none =>
    simp [claimAndExecute, CapabilityRegistry.descriptor, CapabilityRegistry.adapterFor,
      registered, inline]
  | some arguments =>
  cases resources : adapter.verificationResourceIds ⟨op.intent.effect, arguments⟩ with
  | error e =>
    simp [claimAndExecute, CapabilityRegistry.descriptor, CapabilityRegistry.adapterFor,
      registered, inline, resources]
  | ok resourceIds =>
  rw [claimAndExecute_claims registered inline resources, Prog.alone_ask]
  have version : (op.version : Int) = command.expectedVersion ∨
      (op.version : Int) = command.expectedVersion + 1 := by
    by_contra stale
    rw [not_or] at stale
    exact ends ⟨op, adapter, arguments, resourceIds, found, ready, registered, inline,
      resources, stale⟩
  cases ran : claim command op (adapter.descriptor op.intent.effect) resourceIds
      (answers n Query.now) s with
  | error e =>
    have quiet : e.isConflict = false := by
      obtain same | ahead := version
      · exact claim_not_conflict own same ran
      · exact absurd ran (claim_ahead own ahead)
    rw [Prog.alone_transact_error ran, settleClaim, quiet]
    simp only [Bool.false_eq_true, if_false]
    split
    · rw [alone_loadOperation found]
      simp
    · simp
  | ok ended =>
    obtain ⟨⟨started, result⟩, s'⟩ := ended
    have fresh : result.outcome ≠ .alreadyApplied := claim_not_replayed own ready ran
    rw [Prog.alone_transact_ok ran, settleClaim]
    split
    · simp
    next replayed => exact absurd replayed fresh
    · cases result.operation with
      | none => simp
      | some claimed =>
        rw [Prog.require_some_bind]
        exact alone_map_some _

theorem dispatch_answers (turns : Nat) (found : s.operation? command.operationId = some op)
    (ends : ¬ Redispatches registry command s) :
    (Prog.alone answers (dispatch registry command (turns + 1) op) n s).outcome ≠ .ok none := by
  rw [dispatch]
  split
  next ready => exact claimAndExecute_answers found ready ends
  · exact alone_map_some _
  all_goals simp

/-- With nobody else writing, `execute_operation` ends unless it redispatches, and then no
number of turns is enough. -/
theorem executeOperation_ends_iff (registry : CapabilityRegistry) (command : ExecuteCommand)
    (answers : Nat → (query : Query) → Answer query) (n : Nat) (s : Store) :
    (∃ turns, (Prog.alone answers (executeOperation registry command turns) n s).outcome ≠
        .ok none) ↔ ¬ Redispatches registry command s := by
  constructor
  · rintro ⟨turns, ended⟩ ⟨op, adapter, arguments, resourceIds, found, ready, registered, inline,
      resources, notSame, notAhead⟩
    refine ended ?_
    rw [executeOperation, alone_loadOperation found]
    exact dispatch_redispatches found ready registered inline resources notSame notAhead turns
  · intro ends
    refine ⟨1, ?_⟩
    cases found : s.operation? command.operationId with
    | none =>
      rw [executeOperation, alone_loadOperation_none found]
      nofun
    | some op =>
      rw [executeOperation, alone_loadOperation found]
      exact dispatch_answers 0 found ends

end

/-! ## A worker that lost the race for the first attempt -/

open Invariants

def sampleDescriptor : EffectDescriptor where
  contractVersion := contractVersion
  effect := ⟨"mail", "send", "1"⟩
  mutability := .mutating
  riskLevel := .low
  idempotencyMode := .none
  verificationMode := .none
  compensationKind := .none
  supportsExternalOperationId := false
  immediateResponseCanProveApplied := true
  immediateResponseCanProveNotApplied := true
  providerKeySemantics := none
  documentation := "sends a mail"
  keySemantics := by decide
  readOnlyCompensation := by decide

def sampleRegistry : CapabilityRegistry :=
  ⟨fun _ => some ⟨fun _ => sampleDescriptor, fun _ => .ok []⟩⟩

def sampleAttempt : ExecutionAttempt :=
  buildStartedAttempt allowedOperation (idOf "attempt-1") 1 ⟨2⟩ none [] none

def sampleNotApplied : ExecutionAttempt :=
  { sampleAttempt with
    state := .completed
    completedAt := some ⟨3⟩
    outcome := some .notApplied
    lifecycle := rfl }

/-- The first attempt was made by another worker and answered NOT_APPLIED: READY again, two
versions on. -/
def retriedJournal : Store :=
  run idOf .empty
    [.transition sampleCreate, .transition sampleAllow,
     .transition (sampleCommand 2 2 "audit-executing"
       (.claimExecution sampleAttempt (idOf "audit-attempt"))),
     .transition (sampleCommand 3 3 "audit-retry"
       (.executionNotAppliedRetry sampleNotApplied .none (idOf "audit-evidence")
         (idOf "outbox-retry") none))]

def retriedOperation : Operation :=
  { allowedOperation with
    version := 4
    updatedAt := ⟨3⟩
    latestAttemptId := some (idOf "attempt-1") }

theorem retriedJournal_reachable : Reachable idOf retriedJournal := ⟨_, rfl⟩

theorem retriedJournal_operation :
    retriedJournal.operation? (idOf "op") = some retriedOperation := by
  decide +kernel

/-- The command of a worker that had loaded the operation at version two. -/
def staleCommand : ExecuteCommand where
  operationId := idOf "op"
  expectedVersion := 2
  ids :=
    { attemptId := idOf "attempt-2"
      claimTransitionAuditEventId := idOf "audit-executing-2"
      attemptAuditEventId := idOf "audit-attempt-2"
      evidenceAuditEventId := idOf "audit-evidence-2"
      executionTransitionAuditEventId := idOf "audit-outcome-2"
      executionOutboxEventId := idOf "outbox-outcome-2"
      verificationId := idOf "verification-2"
      verificationAuditEventId := idOf "audit-verification-2" }
  actor := none
  correlationId := none

/-- A clock that stands at four, before providers that fail. -/
def sampleAnswers : Nat → (query : Query) → Answer query
  | _, .now => ⟨4⟩
  | _, .execute .. => .raisedOther "TimeoutError"
  | _, .verify .. => .raisedOther "TimeoutError"
  | _, .compensate .. => .raisedOther "TimeoutError"

/-- No number of turns brings the stale command to an end. -/
theorem executeOperation_redispatches_forever :
    Reachable idOf retriedJournal ∧
      ¬ ∃ turns, (Prog.alone sampleAnswers (executeOperation sampleRegistry staleCommand turns) 0
        retriedJournal).outcome ≠ .ok none := by
  refine ⟨retriedJournal_reachable, ?_⟩
  rintro ⟨turns, ended⟩
  refine ended ?_
  have found : retriedJournal.operation? staleCommand.operationId = some retriedOperation :=
    retriedJournal_operation
  rw [executeOperation, alone_loadOperation found]
  exact dispatch_redispatches found rfl rfl rfl rfl (by decide) (by decide) turns

end Stateback.Runtime
