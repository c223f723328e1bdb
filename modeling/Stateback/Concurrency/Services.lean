import Stateback.Concurrency.Compensation
import Stateback.Concurrency.Execution
import Stateback.Invariants.Approvals
import Stateback.Recovery.RetrySafety
/-!
# All services at once

Any number of runtime, recovery, compensation and operator calls over one journal, next to
everything else that writes to it, with every provider answer and a crash between any two steps.
The budgets of a policy decision hold in every such run.
-/

namespace Stateback.Concurrency

open Domain Persistence Transitions Providers Stateback.Runtime Process Transaction
open Recovery Invariants Compensation

variable {uuid5 : String → OpaqueId} {requests : Requests} {s last : Store} {α : Type}

/-! ## Calls -/

inductive Call where
  | executeOperation (command : ExecuteCommand) (turns : Nat)
  | recoverOperation (command : RecoverCommand)
  | recoverUnknownOperation (command : RecoveryCommand)
  | startOperatorVerification (command : OperatorVerificationCommand)
  | scanRecoverable (command : ScanCommand)
  | startCompensation (command : StartCompensationCommand) (operator : Bool) (reasonCode : String)
  | startOperatorCompensation (command : OperatorCompensationCommand)
  | executeCompensation (turns : Nat) (command : ExecuteCompensationCommand)
  | recoverCompensation (turns : Nat) (command : RecoverCompensationCommand)
  | scanCompensations (turns : Nat) (command : ScanCompensationCommand)
  | retryFailedCompensation (turns : Nat) (command : OperatorCompensationCommand)
  | escalateCompensation (command : OperatorCompensationCommand)
  /-- An operator asks to execute the operation once more. -/
  | retryExecution (command : OperationCommand) (retries : command.kind = .manualSafeRetry)
  /-- Submission, policy, approval and the outbox relay. -/
  | journal (action : JournalAction) (plain : Plain action)

section

variable (registry : CapabilityRegistry) (uuid5 : String → OpaqueId)
  (lower : String → String) (sha256Hex : Domain.JsonValue → String)

/-- What a call runs; who called learns only that it returned. -/
def Call.service : Call → Service Unit
  | executeOperation command turns =>
    (fun _ => ()) <$> Stateback.Runtime.executeOperation registry command turns
  | recoverOperation command =>
    (fun _ => ()) <$> Stateback.Runtime.recoverOperation registry command
  | recoverUnknownOperation command =>
    (fun _ => ()) <$> Recovery.recoverUnknownOperation registry command
  | startOperatorVerification command =>
    (fun _ => ()) <$> Recovery.startOperatorVerification registry lower command
  | scanRecoverable command => (fun _ => ()) <$> Recovery.scanRecoverable registry command
  | startCompensation command operator reasonCode =>
    (fun _ => ()) <$> Compensation.startCompensation registry sha256Hex command operator reasonCode
  | startOperatorCompensation command =>
    (fun _ => ()) <$> Compensation.startOperatorCompensation registry lower sha256Hex command
  | executeCompensation turns command =>
    (fun _ => ()) <$> Compensation.executeCompensation registry turns command
  | recoverCompensation turns command =>
    (fun _ => ()) <$> Compensation.recoverCompensation registry turns command
  | scanCompensations turns command => Compensation.scanCompensations registry turns command
  | retryFailedCompensation turns command =>
    (fun _ => ()) <$> Compensation.retryFailedCompensation registry lower turns command
  | escalateCompensation command =>
    (fun _ => ()) <$> Compensation.escalateCompensation lower command
  | retryExecution command _ =>
    Service.uow ((JournalAction.transition (.operation command)).body uuid5)
  | journal action _ => Service.uow (action.body uuid5)

end

/-- The version at which a call asks for another execution attempt of the operation. -/
def Call.executionRetry? (operationId : OpaqueId) : Call → Option Int
  | retryExecution command _ =>
    if command.operationId = operationId then some command.expectedVersion else none
  | _ => none

/-- The version at which a call asks to retry the operation's failed compensation. -/
def Call.compensationRetry? (operationId : OpaqueId) : Call → Option Int
  | retryFailedCompensation _ command =>
    if command.operationId = operationId then some command.expectedVersion else none
  | _ => none

abbrev ServiceEvent := Event Call Unit Purpose Store Raised Query Answer

abbrev ServiceConfig := Config Unit Purpose Store Raised Query Answer

def spawnedCall? : ServiceEvent → Option Call
  | .spawned _ call => some call
  | _ => none

/-- What the operators of a run ask for. -/
def requestsOf (t : List ServiceEvent) : Requests where
  execution operationId := (t.filterMap spawnedCall?).filterMap (Call.executionRetry? operationId)
  compensation operationId :=
    (t.filterMap spawnedCall?).filterMap (Call.compensationRetry? operationId)

theorem mem_requestsOf_execution {t : List ServiceEvent} {pid : Pid} {command : OperationCommand}
    {retries : command.kind = .manualSafeRetry}
    (spawned : .spawned pid (.retryExecution command retries) ∈ t) :
    command.expectedVersion ∈ (requestsOf t).execution command.operationId := by
  refine List.mem_filterMap.mpr ⟨_, List.mem_filterMap.mpr ⟨_, spawned, rfl⟩, ?_⟩
  exact if_pos rfl

theorem mem_requestsOf_compensation {t : List ServiceEvent} {pid : Pid} {turns : Nat}
    {command : OperatorCompensationCommand}
    (spawned : .spawned pid (.retryFailedCompensation turns command) ∈ t) :
    command.expectedVersion ∈ (requestsOf t).compensation command.operationId := by
  refine List.mem_filterMap.mpr ⟨_, List.mem_filterMap.mpr ⟨_, spawned, rfl⟩, ?_⟩
  exact if_pos rfl

/-! ## Every call keeps the budgets -/

/-- An action on its own, in a unit of work. -/
theorem frugal_journal {action : JournalAction}
    (disciplined : ∀ s, Within uuid5 requests s → Disciplined requests s action) :
    Frugal uuid5 requests Anything (Service.uow (action.body uuid5)) last := by
  refine fun s inv _ => ⟨fun a s' ran => ⟨?_, fun _ _ => trivial⟩, fun _ _ => trivial⟩
  have same : act uuid5 s action = s' := congrArg Prod.fst (execute_ok.mpr ran)
  exact same ▸ guar_act action inv (disciplined s inv)

/-- A request to execute once more allows itself. -/
theorem disciplined_of_asked {command : OperationCommand}
    (retries : command.kind = .manualSafeRetry)
    (asked : command.expectedVersion ∈ requests.execution command.operationId)
    (inv : Within uuid5 requests s) :
    Disciplined requests s (.transition (.operation command)) := by
  intro loaded decision found version decided
  refine ⟨fun _ => ?_, fun inconclusive => ?_⟩
  · have key : loaded.operationId = command.operationId := (KeyedTable.Table.find?_some found).2
    have within := inv.2.attempts _ loaded decision found decided
    rw [← key, ← version] at asked
    have more := extra_succ asked
    unfold AttemptsWithin at within
    split at within <;> omega
  · rw [retries] at inconclusive
    cases inconclusive

theorem frugal_call {registry : CapabilityRegistry} {lower : String → String}
  {sha256Hex : Domain.JsonValue → String}
    (call : Call)
    (execution : ∀ command retries, call = .retryExecution command retries →
      command.expectedVersion ∈ requests.execution command.operationId)
    (compensation : ∀ turns command, call = .retryFailedCompensation turns command →
      command.expectedVersion ∈ requests.compensation command.operationId)
    (inv : Within uuid5 requests last) :
    Frugal uuid5 requests Anything (call.service registry uuid5 lower sha256Hex) last := by
  cases call with
  | executeOperation command turns => exact frugal_map _ inv (frugal_executeOperation command turns)
  | recoverOperation command => exact frugal_map _ inv (frugal_recoverOperation command)
  | recoverUnknownOperation command =>
    exact frugal_map _ inv (frugal_recoverUnknownOperation command)
  | startOperatorVerification command =>
    exact frugal_map _ inv (frugal_startOperatorVerification command)
  | scanRecoverable command => exact frugal_map _ inv (frugal_scanRecoverable command inv)
  | startCompensation command operator reasonCode => exact frugal_map _ inv frugal_startCompensation
  | startOperatorCompensation command =>
    exact frugal_map _ inv (frugal_startOperatorCompensation command)
  | executeCompensation turns command =>
    exact frugal_map _ inv (frugal_executeCompensation turns command)
  | recoverCompensation turns command =>
    exact frugal_map _ inv (frugal_recoverCompensation turns command)
  | scanCompensations turns command => exact frugal_scanCompensations turns command inv
  | retryFailedCompensation turns command =>
    have asked := compensation turns command rfl
    exact frugal_map _ inv (frugal_retryFailedCompensation turns command asked)
  | escalateCompensation command => exact frugal_map _ inv (frugal_escalateCompensation command)
  | retryExecution command retries =>
    have asked := execution command retries rfl
    exact frugal_journal fun s inv => disciplined_of_asked retries asked inv
  | journal action plain => exact frugal_journal fun s _ => plain.disciplined

/-! ## Runs -/

section Runs

variable {registry : CapabilityRegistry} {lower : String → String}
  {sha256Hex : Domain.JsonValue → String}
  {t : List ServiceEvent} {c : ServiceConfig}

/-- Every journal of a run keeps the budgets, with what its operators asked for on top. -/
theorem within_of_run (ran : Run (Call.service registry uuid5 lower sha256Hex) .empty t c) :
    Within uuid5 (requestsOf t) c.store := by
  have start : Within uuid5 (requestsOf t) .empty := ⟨⟨[], rfl⟩, .empty⟩
  have assured : Assured (budgetContract uuid5 (requestsOf t))
      (fun _ => Returning Anything) .empty t c.store :=
    ran.assured budgetContract_sound (fun pid call spawned s inv =>
      frugal_call call (fun _ _ is => mem_requestsOf_execution (is ▸ spawned))
        (fun _ _ is => mem_requestsOf_compensation (is ▸ spawned)) inv)
      (fun _ _ _ _ => trivial) start
  exact assured.inv

/-- How often operators ask to execute the operation once more. -/
def executionRetries (t : List ServiceEvent) (operationId : OpaqueId) : Nat :=
  ((requestsOf t).execution operationId).length

/-- How often operators ask to retry the operation's compensation. -/
def compensationRetries (t : List ServiceEvent) (operationId : OpaqueId) : Nat :=
  ((requestsOf t).compensation operationId).length

/-- Whatever the services, the providers and the clock do, and wherever a process crashes: an
operation with attempts has a decision, whose cap its attempts and those of each of its
compensation records keep, but for one more for each retry an operator asked for. -/
theorem attempts_within_cap (ran : Run (Call.service registry uuid5 lower sha256Hex) .empty t c) :
    (∀ operationId, c.store.attemptsOf operationId ≠ [] → ∃ operation decision,
      c.store.operation? operationId = some operation ∧ DecidedBy c.store operation decision ∧
        ((c.store.attemptsOf operationId).length : Int) ≤
          maxAutomaticAttempts decision.obligations + executionRetries t operationId) ∧
    ∀ compensationId record, c.store.compensation? compensationId = some record →
      ∃ operation decision, c.store.operation? record.originalOperationId = some operation ∧
        DecidedBy c.store operation decision ∧
        ((c.store.compensationAttemptsOf compensationId).length : Int) ≤
          maxAutomaticAttempts decision.obligations +
            compensationRetries t record.originalOperationId := by
  obtain ⟨reachable, budgeted⟩ := within_of_run ran
  refine ⟨fun operationId attempted => ?_, fun compensationId record stored => ?_⟩
  · obtain ⟨attempt, member⟩ := List.exists_mem_of_ne_nil _ attempted
    obtain ⟨row, owner⟩ := KeyedTable.Table.mem_select.mp member
    obtain ⟨operation, found, ⟨decision, decided, -⟩, -⟩ :=
      (authorizedJournal_of_reachable reachable).attempted attempt row
    rw [of_decide_eq_true owner] at found
    have key : operation.operationId = operationId := (KeyedTable.Table.find?_some found).2
    have within := budgeted.attempts operationId operation decision found decided
    have few := extra_le ((requestsOf t).execution operationId) operation.version
    unfold AttemptsWithin at within
    rw [key] at within
    refine ⟨operation, decision, found, decided, ?_⟩
    unfold executionRetries
    split at within <;> omega
  · obtain ⟨operation, decision, found, decided⟩ :=
      recordsDecided_of_reachable reachable compensationId record stored
    have key : operation.operationId = record.originalOperationId :=
      (KeyedTable.Table.find?_some found).2
    have within := budgeted.recordAttempts compensationId record operation decision stored found
      decided
    have few := extra_le ((requestsOf t).compensation record.originalOperationId)
      operation.version
    unfold RecordAttemptsWithin at within
    rw [key] at within
    refine ⟨operation, decision, found, decided, ?_⟩
    unfold compensationRetries
    omega

/-- Whatever answers the verifications of an operation get, and from whichever workers: those
that take it back to UNKNOWN are fewer than the budget of its decision. -/
theorem inconclusive_within_budget
    (ran : Run (Call.service registry uuid5 lower sha256Hex) .empty t c) (operationId : OpaqueId) :
    (0 < movesBetween c.store operationId .verifying .unknown → ∃ operation decision,
      c.store.operation? operationId = some operation ∧ DecidedBy c.store operation decision) ∧
    ∀ operation decision, c.store.operation? operationId = some operation →
      DecidedBy c.store operation decision →
        (movesBetween c.store operationId .verifying .unknown : Int) ≤
          maxAutomaticRecoveryAttempts decision.obligations - 1 := by
  obtain ⟨reachable, budgeted⟩ := within_of_run ran
  refine ⟨inconclusivesDecided_of_reachable reachable operationId, ?_⟩
  intro operation decision found decided
  have within := budgeted.inconclusives operationId operation decision found decided
  unfold InconclusivesWithin at within
  omega

end Runs

/-! ## Runs that spend a whole budget -/

/-- The provider says that nothing was applied. -/
def decliningAnswers : (query : Query) → Answer query
  | .now => ⟨4⟩
  | .execute .. => .returned ⟨.notApplied, none, none, none, []⟩
  | .verify .. => .raisedOther "TimeoutError"
  | .compensate .. => .raisedOther "TimeoutError"

def workerCommand (expectedVersion : Int) (worker : String) : ExecuteCommand where
  operationId := idOf "op"
  expectedVersion := expectedVersion
  ids :=
    { attemptId := idOf ("attempt-" ++ worker)
      claimTransitionAuditEventId := idOf ("audit-executing-" ++ worker)
      attemptAuditEventId := idOf ("audit-attempt-" ++ worker)
      evidenceAuditEventId := idOf ("audit-evidence-" ++ worker)
      executionTransitionAuditEventId := idOf ("audit-outcome-" ++ worker)
      executionOutboxEventId := idOf ("outbox-outcome-" ++ worker)
      verificationId := idOf ("verification-" ++ worker)
      verificationAuditEventId := idOf ("audit-verification-" ++ worker) }
  actor := none
  correlationId := none

def workerRecovery (expectedVersion : Int) (worker : String) : RecoveryCommand where
  operationId := idOf "op"
  expectedVersion := expectedVersion
  ids :=
    { verificationId := idOf ("recovery-verification-" ++ worker)
      verificationStartAuditEventId := idOf ("recovery-start-" ++ worker)
      verificationCompleteAuditEventId := idOf ("recovery-complete-" ++ worker)
      startTransitionAuditEventId := idOf ("recovery-start-transition-" ++ worker)
      startOutboxEventId := idOf ("recovery-start-outbox-" ++ worker)
      completeTransitionAuditEventId := idOf ("recovery-transition-" ++ worker)
      retryOutboxEventId := idOf ("recovery-retry-outbox-" ++ worker)
      manualAuditEventId := idOf ("recovery-manual-" ++ worker)
      executionRecover := (workerCommand expectedVersion worker).ids.recoverIds }
  actor := none
  correlationId := none

def verifiableDescriptor : EffectDescriptor :=
  { sampleDescriptor with
    verificationMode := .readBack
    keySemantics := by decide
    readOnlyCompensation := by decide }

def verifiableRegistry : CapabilityRegistry :=
  ⟨fun _ => some ⟨fun _ => verifiableDescriptor, fun _ => .ok []⟩⟩

/-- The call, with as many steps as it is given. -/
def turn (pid : Pid) (call : Call) (steps : Nat) (answers : (query : Query) → Answer query) :
    List (Choice Call Query Answer) :=
  .spawn pid call :: List.replicate steps (.step pid answers)

/-- The sample operation is created, and allowed three attempts. -/
def allowChoices : List (Choice Call Query Answer) :=
  turn 0 (.journal (.transition sampleCreate) trivial) 2 (answersAt 4) ++
  turn 1 (.journal (.transition (sampleCommand 1 1 "audit-ready"
      (.policyAllow samplePatientDecision (idOf "audit-policy") (idOf "outbox"))))
    (show TransitionKind.policyAllow ∉ budgetKinds by decide)) 2 (answersAt 4)

def spent : List ServiceEvent × ServiceConfig :=
  replay (Call.service naturalRegistry idOf asciiLower compensationSha256)
    (allowChoices ++
      turn 2 (.executeOperation (workerCommand 2 "1") 3) 16 decliningAnswers ++
      turn 3 (.executeOperation (workerCommand 4 "2") 3) 16 decliningAnswers ++
      turn 4 (.executeOperation (workerCommand 6 "3") 3) 16 decliningAnswers)
    (.initial .empty)

theorem attempts_within_cap_spent :
    (spent.2.store.attemptsOf (idOf "op")).length = 3 ∧ ∃ operation decision,
      spent.2.store.operation? (idOf "op") = some operation ∧
      DecidedBy spent.2.store operation decision ∧
      ((spent.2.store.attemptsOf (idOf "op")).length : Int) ≤
        maxAutomaticAttempts decision.obligations + executionRetries spent.1 (idOf "op") := by
  have ran : Run (Call.service naturalRegistry idOf asciiLower compensationSha256) .empty spent.1
      spent.2 := replay_run _ _
  have counted : (spent.2.store.attemptsOf (idOf "op")).length = 3 := by decide +kernel
  refine ⟨counted, (attempts_within_cap ran).1 (idOf "op") ?_⟩
  intro none_
  rw [none_] at counted
  cases counted

def unclear : List ServiceEvent × ServiceConfig :=
  replay (Call.service verifiableRegistry idOf asciiLower compensationSha256)
    (allowChoices ++
      turn 2 (.executeOperation (workerCommand 2 "1") 3) 20 (answersAt 4) ++
      turn 3 (.recoverUnknownOperation (workerRecovery 4 "2")) 30 (answersAt 4) ++
      turn 4 (.recoverUnknownOperation (workerRecovery 6 "3")) 30 (answersAt 4) ++
      turn 5 (.recoverUnknownOperation (workerRecovery 8 "4")) 30 (answersAt 4))
    (.initial .empty)

theorem inconclusive_within_budget_unclear :
    movesBetween unclear.2.store (idOf "op") .verifying .unknown = 2 ∧
      (unclear.2.store.operation? (idOf "op")).map (·.state) = some .manualIntervention ∧
      ∃ operation decision, unclear.2.store.operation? (idOf "op") = some operation ∧
        DecidedBy unclear.2.store operation decision ∧
        (movesBetween unclear.2.store (idOf "op") .verifying .unknown : Int) ≤
          maxAutomaticRecoveryAttempts decision.obligations - 1 := by
  have ran : Run (Call.service verifiableRegistry idOf asciiLower compensationSha256) .empty
      unclear.1 unclear.2 := replay_run _ _
  have counted : movesBetween unclear.2.store (idOf "op") .verifying .unknown = 2 := by
    decide +kernel
  refine ⟨counted, by decide +kernel, ?_⟩
  obtain ⟨decides, within⟩ := inconclusive_within_budget ran (idOf "op")
  obtain ⟨operation, decision, found, decided⟩ := decides (by omega)
  exact ⟨operation, decision, found, decided, within operation decision found decided⟩

end Stateback.Concurrency
