import Stateback.Recovery.Recover
import Stateback.Runtime.Termination
import Stateback.Transitions.Commits
/-!
# The two retry gates

An UNKNOWN operation that cannot be verified is retried when the registry calls the retry SAFE.
The transition service decides again, from the same outcome and idempotency mode but without
the adapter's key semantics or the tested declaration, so it takes an execution that did not
apply and nothing else.
-/

namespace Stateback.Recovery

open Domain Persistence Transitions Providers Stateback.Runtime Process Transaction

/-! ## The gates -/

theorem attemptOutcome_isSome (attempt : ExecutionAttempt) :
    ∃ outcome, attemptOutcome attempt = some outcome := by
  unfold attemptOutcome
  cases state : attempt.state with
  | started => exact ⟨.unknown, rfl⟩
  | completed => exact attempt.outcome_isSome_of_completed state

/-- Without capability proofs only an execution that did not apply is SAFE. -/
theorem mapRetrySafetyReason_eq_none {outcome : EffectOutcome} {mode : IdempotencyMode} :
    mapRetrySafetyReason (some outcome) none mode none = none ↔ outcome = .notApplied := by
  cases outcome <;> cases mode <;> decide

/-- The registry never retries an execution that applied. -/
theorem unknownRetry_safe {descriptor : EffectDescriptor} {latest : ExecutionAttempt}
    {firstStartedAt now : UtcTimestamp} {retry : RetrySafetyDecision}
    (decided : unknownRetry descriptor latest firstStartedAt now = .ok retry)
    (safe : retry.verdict = .safe) : attemptOutcome latest ≠ some .applied := by
  intro applied
  unfold unknownRetry evaluateRetrySafety at decided
  rw [applied] at decided
  have never : ∀ mode semantics elapsed tested, (evaluateEffectRetrySafety (some .applied) none mode
      none semantics elapsed tested).verdict ≠ .safe := by
    intro mode semantics elapsed tested
    simp [evaluateEffectRetrySafety]
  simp only [Option.isSome_none, Bool.false_eq_true, if_false] at decided
  cases mode : descriptor.idempotencyMode with
  | none | natural =>
    simp only [mode, Except.ok.injEq] at decided
    exact never _ _ _ _ (decided ▸ safe)
  | providerKey =>
    cases key : descriptor.providerKeySemantics with
    | none =>
      simp only [mode, key, Except.ok.injEq] at decided
      exact never _ _ _ _ (decided ▸ safe)
    | some semantics =>
      simp only [mode, key] at decided
      cases elapsed : replayWindowHasElapsed semantics firstStartedAt now with
      | error e =>
        rw [elapsed] at decided
        cases decided
      | ok passed =>
        rw [elapsed] at decided
        cases decided
        exact never _ _ _ _ safe

/-! ## One pass -/

/-- What `_recover_unknown` loads before it builds its command. -/
structure UnknownLoaded (s : Store) (op : Operation) (first latest : ExecutionAttempt)
    (policy : PolicyDecision) : Prop where
  first : (s.listAttempts op.operationId).head? = some first
  latest : (s.listAttempts op.operationId).getLast? = some latest
  row : ∀ attemptId, op.latestAttemptId = some attemptId → (s.attempt? attemptId).isSome = true
  policy : op.currentPolicyDecisionId.bind s.policyDecision? = some policy

theorem UnknownLoaded.unique {s : Store} {op : Operation} {first latest first' latest'}
    {policy policy' : PolicyDecision} (loaded : UnknownLoaded s op first latest policy)
    (again : UnknownLoaded s op first' latest' policy') :
    first' = first ∧ latest' = latest ∧ policy' = policy := by
  refine ⟨?_, ?_, ?_⟩
  · exact Option.some.inj (again.first.symm.trans loaded.first)
  · exact Option.some.inj (again.latest.symm.trans loaded.latest)
  · exact Option.some.inj (again.policy.symm.trans loaded.policy)

/-- The command a pass builds on a decision of the registry, when the clock reads `occurredAt`. -/
def passCommand (command : RecoveryCommand) (op : Operation) (descriptor : EffectDescriptor)
    (latest : ExecutionAttempt) (policy : PolicyDecision) (retry : RetrySafetyDecision)
    (occurredAt : UtcTimestamp) : OperationCommand :=
  unknownWithoutVerifyCommand command op (command.actor.getD recoveryActor) descriptor latest retry
    policy.obligations occurredAt

/-- The registry retries an execution not known to have failed: its SAFE rests on a declared
idempotency alone. -/
def RetriesUnproven (latest : ExecutionAttempt) (policy : PolicyDecision)
    (retry : RetrySafetyDecision) : Prop :=
  RegistryRetries retry latest policy.obligations ∧ attemptOutcome latest = some .unknown
deriving Decidable

section

variable (command : RecoveryCommand) {op : Operation} {descriptor : EffectDescriptor}
  {first latest : ExecutionAttempt} (policy : PolicyDecision) {now : UtcTimestamp}
  (occurredAt : UtcTimestamp) {retry : RetrySafetyDecision} {s : Store}

/-- A pass builds a retry or an escalation of the loaded operation at its version. -/
theorem passCommand_cases (op : Operation) (descriptor : EffectDescriptor)
    (latest : ExecutionAttempt) (retry : RetrySafetyDecision) :
    (RegistryRetries retry latest policy.obligations ∧
      passCommand command op descriptor latest policy retry occurredAt =
        unknownSafeRetryCommand command op (command.actor.getD recoveryActor) descriptor latest
          retry.reasonCode occurredAt) ∨
    (¬ RegistryRetries retry latest policy.obligations ∧
      ∃ reasonCode, passCommand command op descriptor latest policy retry occurredAt =
        unknownEscalateCommand command op (command.actor.getD recoveryActor) reasonCode
          occurredAt) := by
  by_cases retries : RegistryRetries retry latest policy.obligations
  · exact .inl ⟨retries, if_pos retries⟩
  · exact .inr ⟨retries, _, if_neg retries⟩

/-- The transition service objects to the built command only when it retries unproven. -/
theorem passCommand_preconditions
    (decided : unknownRetry descriptor latest first.startedAt now = .ok retry)
    {related : RelatedRecords} :
    evaluatePreconditions (passCommand command op descriptor latest policy retry occurredAt) op
        related = none ↔
      ¬ RetriesUnproven latest policy retry := by
  obtain ⟨retries, built⟩ | ⟨stops, reasonCode, built⟩ := passCommand_cases command policy
    occurredAt op descriptor latest retry
  · obtain ⟨outcome, known⟩ := attemptOutcome_isSome latest
    have gate : evaluatePreconditions (unknownSafeRetryCommand command op
        (command.actor.getD recoveryActor) descriptor latest retry.reasonCode occurredAt) op
          related =
          mapRetrySafetyReason (attemptOutcome latest) none descriptor.idempotencyMode none := rfl
    have running := unknownRetry_safe decided retries.1
    rw [built, gate, known, mapRetrySafetyReason_eq_none]
    rw [known] at running
    cases outcome <;> simp_all [RetriesUnproven]
  · have gate : evaluatePreconditions (unknownEscalateCommand command op
        (command.actor.getD recoveryActor) reasonCode occurredAt) op related = none := rfl
    rw [built, gate]
    simp [RetriesUnproven, stops]

/-- The one transaction of a pass, run to its end. -/
theorem passCommand_settles
    (decided : unknownRetry descriptor latest first.startedAt now = .ok retry)
    (found : s.operation? op.operationId = some op) (unknown : op.state = .unknown) :
    let built := passCommand command op descriptor latest policy retry occurredAt
    (∃ settled, (execute (apply (.operation built)) s).1.operation? op.operationId =
        some settled ∧ (settled.state = .ready ∨ settled.state = .manualIntervention)) ↔
      ¬ RetriesUnproven latest policy retry ∧
        Acceptable built op (loadRelated s built op) s := by
  intro built
  have header : built.operationId = op.operationId ∧ built.expectedVersion = op.version ∧
      built.kind.edge.1 = some .unknown ∧
      (built.kind.edge.2 = .ready ∨ built.kind.edge.2 = .manualIntervention) ∧
      writeRelated built (loadRelated s built op) =
        pure (movedCompensation built (loadRelated s built op)) := by
    obtain ⟨-, same⟩ | ⟨-, reasonCode, same⟩ := passCommand_cases command policy occurredAt op
      descriptor latest retry
    · rw [show built = _ from same]
      exact ⟨rfl, rfl, rfl, .inl rfl, rfl⟩
    · rw [show built = _ from same]
      exact ⟨rfl, rfl, rfl, .inr rfl, rfl⟩
  obtain ⟨target, version, source, goal, bare⟩ := header
  have at_ : s.operation? built.operationId = some op := by rw [target]; exact found
  have legal : evaluateOperationTransition (some op.state) built.kind.edge.2 = true := by
    rw [unknown]
    obtain same | same := goal <;> rw [same] <;> rfl
  have runs := applyOperation_current at_ version.symm (by rw [source, unknown]) legal
  have writes := commitOperation_iff bare found version.symm
  constructor
  · rintro ⟨settled, moved, state⟩
    have left : ∀ result, execute (apply (.operation built)) s ≠ (s, result) := by
      intro result stays
      rw [stays, found, Option.some.injEq] at moved
      subst moved
      rw [unknown] at state
      simp at state
    cases ran : applyOperation built s with
    | error e => exact absurd (execute_error.mpr ⟨rfl, ran⟩) (left _)
    | ok ended =>
      obtain ⟨result, s'⟩ := ended
      rw [runs] at ran
      cases gate : evaluatePreconditions built op (loadRelated s built op) with
      | some reason =>
        rw [gate] at ran
        cases ran
        exact absurd (execute_ok.mpr (by rw [apply, runs, gate])) (left _)
      | none =>
        rw [gate] at ran
        exact ⟨(passCommand_preconditions command policy occurredAt decided).mp gate,
          writes.mp ⟨result, s', ran⟩⟩
  · rintro ⟨proven, acceptable⟩
    obtain ⟨result, s', ran⟩ := writes.mpr acceptable
    have applied : applyOperation built s = .ok (result, s') := by
      rw [runs, (passCommand_preconditions command policy occurredAt decided).mpr proven]
      exact ran
    obtain ⟨-, -, operations, -⟩ := commitOperation_ok ran
    have row := operation?_replace_stepped found operations op.operationId
    rw [if_pos rfl] at row
    refine ⟨movedOperation built op, ?_, goal⟩
    rw [execute_ok.mpr (show apply (.operation built) s = _ from applied)]
    exact row

end

/-! ## The pass as the service runs it -/

section

variable {registry : CapabilityRegistry} {command : RecoveryCommand} {op : Operation}
  {adapter : Adapter} {s : Store} {answers : Nat → (query : Query) → Answer query} {n : Nat}

@[simp] theorem alone_load {α β : Type} (read : Store → α) (rest : α → Service β) :
    Prog.alone answers (Service.load read >>= rest) n s =
      Prog.alone answers (rest (read s)) n s :=
  Prog.alone_transact_ok rfl

/-- Whatever ends `_apply_transition`, the store is the one its transaction left. -/
theorem alone_applyTransition {β : Type} (built : OperationCommand)
    (rest : TransitionResult ⊕ RecoveryResult → β) :
    (Prog.alone answers (applyTransition built >>= fun applied => pure (rest applied)) n s).state =
      (execute (apply (.operation built)) s).1 := by
  simp only [applyTransition, Service.trySubmit, Prog.attempt_bind, Prog.transact_bind, Prog.alone]
  generalize execute (apply (.operation built)) s = ended
  obtain ⟨s', ended⟩ := ended
  dsimp only
  split
  · rfl
  · rfl
  · split
    · rfl
    · split <;> rfl

theorem alone_loadPolicy {β : Type} {policy : PolicyDecision}
    (loaded : op.currentPolicyDecisionId.bind s.policyDecision? = some policy)
    (rest : Option PolicyDecision → Service β) :
    Prog.alone answers (loadPolicy op >>= rest) n s =
      Prog.alone answers (rest (some policy)) n s := by
  obtain ⟨policyDecisionId, named, found⟩ := Option.bind_eq_some_iff.mp loaded
  simp only [loadPolicy, named, alone_load, found]

theorem alone_recoverUnknownFrom {first latest : ExecutionAttempt} {policy : PolicyDecision}
    {descriptor : EffectDescriptor} {retry : RetrySafetyDecision}
    (unverifiable : descriptor.verificationMode = .none)
    (loaded : op.currentPolicyDecisionId.bind s.policyDecision? = some policy)
    (decided : unknownRetry descriptor latest first.startedAt (answers n Query.now) = .ok retry) :
    (Prog.alone answers (recoverUnknownFrom registry command op
        (command.actor.getD recoveryActor) descriptor first latest) n s).state =
      (execute (apply (.operation (passCommand command op descriptor latest policy retry
        (answers (n + 1) Query.now)))) s).1 := by
  rw [recoverUnknownFrom, alone_loadPolicy loaded]
  simp only [unverifiable, unknownWithoutVerify, Service.now_bind, Prog.alone_ask, decided,
    Service.lift_ok_bind]
  exact alone_applyTransition _ _

/-- The operation is there, UNKNOWN, and its loads succeed: the pass is its one transaction. -/
theorem alone_recoverUnknown {first latest : ExecutionAttempt} {policy : PolicyDecision}
    {retry : RetrySafetyDecision} (found : s.operation? command.operationId = some op)
    (unknown : op.state = .unknown) (registered : registry.adapters op.intent.effect = some adapter)
    (unverifiable : (adapter.descriptor op.intent.effect).verificationMode = .none)
    (loaded : UnknownLoaded s op first latest policy)
    (decided : unknownRetry (adapter.descriptor op.intent.effect) latest first.startedAt
      (answers n Query.now) = .ok retry) :
    (Prog.alone answers (recoverUnknownOperation registry command) n s).state =
      (execute (apply (.operation (passCommand command op (adapter.descriptor op.intent.effect)
        latest policy retry (answers (n + 1) Query.now)))) s).1 := by
  simp only [recoverUnknownOperation, tryLoadOperation, alone_load, found, unknown,
    recoverUnknown, CapabilityRegistry.descriptor, CapabilityRegistry.adapterFor, registered,
    Service.lift_ok_bind, loaded.first, loaded.latest]
  cases named : op.latestAttemptId with
  | none => exact alone_recoverUnknownFrom unverifiable loaded.policy decided
  | some attemptId =>
    obtain ⟨row, stored⟩ := Option.isSome_iff_exists.mp (loaded.row attemptId named)
    simp only [alone_load, stored]
    exact alone_recoverUnknownFrom unverifiable loaded.policy decided

/-- Without its loads or a decision of the registry a pass writes nothing. -/
theorem alone_recoverUnknown_idle
    (found : s.operation? command.operationId = some op) (unknown : op.state = .unknown)
    (registered : registry.adapters op.intent.effect = some adapter)
    (unverifiable : (adapter.descriptor op.intent.effect).verificationMode = .none)
    (idle : ¬ ∃ first latest policy retry, UnknownLoaded s op first latest policy ∧
      unknownRetry (adapter.descriptor op.intent.effect) latest first.startedAt
        (answers n Query.now) = .ok retry) :
    (Prog.alone answers (recoverUnknownOperation registry command) n s).state = s := by
  simp only [recoverUnknownOperation, tryLoadOperation, alone_load, found, unknown,
    recoverUnknown, CapabilityRegistry.descriptor, CapabilityRegistry.adapterFor, registered,
    Service.lift_ok_bind]
  cases head : (s.listAttempts op.operationId).head? with
  | none => rfl
  | some first =>
  cases last : (s.listAttempts op.operationId).getLast? with
  | none => rfl
  | some latest =>
  have stops : (∀ attemptId, op.latestAttemptId = some attemptId →
        (s.attempt? attemptId).isSome = true) →
      (Prog.alone answers (recoverUnknownFrom registry command op
        (command.actor.getD recoveryActor) (adapter.descriptor op.intent.effect) first latest)
        n s).state = s := by
    intro row
    cases loaded : op.currentPolicyDecisionId.bind s.policyDecision? with
    | none =>
      rw [recoverUnknownFrom, loadPolicy]
      cases named : op.currentPolicyDecisionId with
      | none => rfl
      | some policyDecisionId =>
        rw [named, Option.bind_some] at loaded
        simp only [alone_load, loaded]
        rfl
    | some policy =>
      rw [recoverUnknownFrom, alone_loadPolicy loaded]
      simp only [unverifiable, unknownWithoutVerify, Service.now_bind, Prog.alone_ask]
      cases decided : unknownRetry (adapter.descriptor op.intent.effect) latest first.startedAt
          (answers n Query.now) with
      | error e => rfl
      | ok retry =>
        exact absurd ⟨first, latest, policy, retry, ⟨head, last, row, loaded⟩, decided⟩ idle
  cases named : op.latestAttemptId with
  | none => exact stops (by simp [named])
  | some attemptId =>
    simp only [alone_load]
    cases stored : s.attempt? attemptId with
    | none => rfl
    | some row => exact stops (by simp [named, stored])

/-- Whenever the registry retries, the transition service takes the command it retries with. -/
def GatesAgree (command : RecoveryCommand) (op : Operation) (descriptor : EffectDescriptor)
    (now occurredAt : UtcTimestamp) (s : Store) : Prop :=
  ∀ first latest policy retry, UnknownLoaded s op first latest policy →
    unknownRetry descriptor latest first.startedAt now = .ok retry →
    RegistryRetries retry latest policy.obligations →
      let built := passCommand command op descriptor latest policy retry occurredAt
      evaluatePreconditions built op (loadRelated s built op) = none

/-- The operation is READY or in MANUAL_INTERVENTION. -/
def Settled (s : Store) (operationId : OpaqueId) : Prop :=
  ∃ settled, s.operation? operationId = some settled ∧
    (settled.state = .ready ∨ settled.state = .manualIntervention)

variable (registry command answers n)

/-- The two gates agree and one pass moves the operation out of UNKNOWN, exactly when the pass
finds its rows, the registry decides and does not retry on a declared idempotency alone, and the
pass writes with a clock not behind the operation and with unused ids. -/
theorem recoverUnknown_settles_iff (found : s.operation? command.operationId = some op)
    (unknown : op.state = .unknown) (registered : registry.adapters op.intent.effect = some adapter)
    (unverifiable : (adapter.descriptor op.intent.effect).verificationMode = .none) :
    let descriptor := adapter.descriptor op.intent.effect
    let now := answers n Query.now
    let occurredAt := answers (n + 1) Query.now
    (GatesAgree command op descriptor now occurredAt s ∧
        Settled (Prog.alone answers (recoverUnknownOperation registry command) n s).state
          command.operationId) ↔
      ∃ first latest policy retry, UnknownLoaded s op first latest policy ∧
        unknownRetry descriptor latest first.startedAt now = .ok retry ∧
        ¬ RetriesUnproven latest policy retry ∧
        let built := passCommand command op descriptor latest policy retry occurredAt
        Acceptable built op (loadRelated s built op) s := by
  intro descriptor now occurredAt
  have key := (KeyedTable.Table.find?_some found).2
  have own : s.operation? op.operationId = some op := key ▸ found
  by_cases loads : ∃ first latest policy retry, UnknownLoaded s op first latest policy ∧
      unknownRetry descriptor latest first.startedAt now = .ok retry
  · obtain ⟨first, latest, policy, retry, loaded, decided⟩ := loads
    have settles := passCommand_settles command policy occurredAt decided own unknown
    rw [Settled, alone_recoverUnknown found unknown registered unverifiable loaded decided, ← key]
    have same : ∀ {first' latest' policy' retry'}, UnknownLoaded s op first' latest' policy' →
        unknownRetry descriptor latest' first'.startedAt now = .ok retry' →
        latest' = latest ∧ policy' = policy ∧ retry' = retry := by
      intro first' latest' policy' retry' loaded' decided'
      obtain ⟨rfl, rfl, rfl⟩ := loaded.unique loaded'
      exact ⟨rfl, rfl, Except.ok.inj (decided'.symm.trans decided)⟩
    constructor
    · rintro ⟨-, settled⟩
      exact ⟨first, latest, policy, retry, loaded, decided, settles.mp settled⟩
    · rintro ⟨first', latest', policy', retry', loaded', decided', condition⟩
      obtain ⟨rfl, rfl, rfl⟩ := same loaded' decided'
      refine ⟨fun first'' latest'' policy'' retry'' again decides _ => ?_, settles.mpr condition⟩
      obtain ⟨rfl, rfl, rfl⟩ := same again decides
      exact (passCommand_preconditions command _ occurredAt decides).mpr condition.1
  · constructor
    · rintro ⟨-, settled, moved, state⟩
      rw [alone_recoverUnknown_idle found unknown registered unverifiable loads, found,
        Option.some.injEq] at moved
      subst moved
      rw [unknown] at state
      simp at state
    · rintro ⟨first, latest, policy, retry, loaded, decided, -⟩
      exact absurd ⟨first, latest, policy, retry, loaded, decided⟩ loads

end

/-! ## One lost answer, under two descriptors -/

open Invariants

/-- The sample decision, with room for three automatic attempts. -/
def samplePatientDecision : PolicyDecision :=
  { samplePolicyDecision with
    obligations := ⟨false, some 3, none, false, false, none⟩ }

/-- A worker claimed the first attempt and died; recovery marked the operation UNKNOWN. -/
def unknownJournal : Store :=
  run idOf .empty
    [.transition sampleCreate,
     .transition (sampleCommand 1 1 "audit-ready"
       (.policyAllow samplePatientDecision (idOf "audit-policy") (idOf "outbox"))),
     .transition (sampleCommand 2 2 "audit-executing"
       (.claimExecution sampleAttempt (idOf "audit-attempt"))),
     .transition (sampleCommand 3 3 "audit-unknown"
       (.executionUnknown none (idOf "audit-crash") (idOf "outbox-verify")))]

def unknownOperation : Operation :=
  { allowedOperation with
    state := .unknown
    version := 4
    updatedAt := ⟨3⟩
    latestAttemptId := some (idOf "attempt-1") }

def sampleRecovery : RecoveryCommand where
  operationId := idOf "op"
  expectedVersion := 4
  ids :=
    { verificationId := idOf "recovery-verification"
      verificationStartAuditEventId := idOf "recovery-start"
      verificationCompleteAuditEventId := idOf "recovery-complete"
      startTransitionAuditEventId := idOf "recovery-start-transition"
      startOutboxEventId := idOf "recovery-start-outbox"
      completeTransitionAuditEventId := idOf "recovery-transition"
      retryOutboxEventId := idOf "recovery-retry-outbox"
      manualAuditEventId := idOf "recovery-manual"
      executionRecover :=
        { evidenceAuditEventId := idOf "recovery-evidence"
          executionTransitionAuditEventId := idOf "recovery-execution"
          executionOutboxEventId := idOf "recovery-outbox"
          verificationId := idOf "recovery-execution-verification"
          verificationAuditEventId := idOf "recovery-execution-verify" } }
  actor := none
  correlationId := none

def naturalDescriptor : EffectDescriptor :=
  { sampleDescriptor with
    idempotencyMode := .natural
    keySemantics := by decide }

def naturalRegistry : CapabilityRegistry :=
  ⟨fun _ => some ⟨fun _ => naturalDescriptor, fun _ => .ok []⟩⟩

theorem unknownJournal_reachable : Reachable idOf unknownJournal := ⟨_, rfl⟩

theorem unknownJournal_operation :
    unknownJournal.operation? (idOf "op") = some unknownOperation := by
  decide +kernel

theorem unknownJournal_loaded :
    UnknownLoaded unknownJournal unknownOperation sampleAttempt sampleAttempt
      samplePatientDecision where
  first := by decide +kernel
  latest := by decide +kernel
  row attemptId named := by
    cases named
    decide +kernel
  policy := by decide +kernel

theorem recoverUnknown_settles_sample :
    Settled (Prog.alone sampleAnswers (recoverUnknownOperation sampleRegistry sampleRecovery) 0
      unknownJournal).state (idOf "op") := by
  have settles := recoverUnknown_settles_iff sampleRegistry sampleRecovery sampleAnswers 0
    unknownJournal_operation rfl rfl rfl
  refine (settles.mpr ⟨_, _, _, _, unknownJournal_loaded, rfl, ?_, ?_, ⟨?_, ?_⟩, ?_⟩).2
  · decide
  · decide
  · decide
  · decide +kernel
  · nofun

/-- Naturally idempotent, below the attempt cap, the registry says SAFE: the retry is rejected
and the operation stays UNKNOWN. -/
theorem recoverUnknown_stays_unknown :
    Reachable idOf unknownJournal ∧
      unknownJournal.operation? (idOf "op") = some unknownOperation ∧
      unknownOperation.state = .unknown ∧ naturalDescriptor.verificationMode = .none ∧
      ¬ (GatesAgree sampleRecovery unknownOperation naturalDescriptor ⟨4⟩ ⟨4⟩ unknownJournal ∧
        Settled (Prog.alone sampleAnswers
          (recoverUnknownOperation naturalRegistry sampleRecovery) 0 unknownJournal).state
          (idOf "op")) := by
  refine ⟨unknownJournal_reachable, unknownJournal_operation, rfl, rfl, ?_⟩
  rintro ⟨agree, -⟩
  have decided : unknownRetry naturalDescriptor sampleAttempt sampleAttempt.startedAt ⟨4⟩ =
      .ok ⟨.safe, some .naturalIdempotency, "natural_idempotency_tested_declaration"⟩ := rfl
  have accepted := agree _ _ _ _ unknownJournal_loaded decided (by decide)
  rw [passCommand_preconditions _ _ _ decided] at accepted
  exact accepted (by decide)

end Stateback.Recovery
