import Stateback.Concurrency.Serial
/-!
# What a provider call carries

A process claims an attempt, goes to the provider with it and writes down what it was answered.
Whatever the others do, the call carries the effect and the arguments of its operation and the key
that stands for the operation, and what a COMPLETED attempt says is what its call was answered.
-/

namespace Stateback.Concurrency

open Domain Persistence Transitions Providers Stateback.Runtime Process Transaction
open KeyedTable KeyedTable.Table Invariants Recovery Messaging Function

variable {uuid5 : String → OpaqueId} {s s' last : Store} {registry : CapabilityRegistry}
  {action : JournalAction} {α β : Type}

/-! ## Operations are kept -/

/-- No operation is lost, and none gets another intent or another key. -/
def OperationsKept (s s' : Store) : Prop :=
  ∀ operationId op, s.operation? operationId = some op → ∃ later,
    s'.operation? operationId = some later ∧ later.intent = op.intent ∧
      later.idempotencyIdentity = op.idempotencyIdentity

theorem OperationsKept.refl (s : Store) : OperationsKept s s :=
  fun _ op found => ⟨op, found, rfl, rfl⟩

theorem OperationsKept.trans {middle : Store} (first : OperationsKept s middle)
    (second : OperationsKept middle s') : OperationsKept s s' := by
  intro operationId op found
  obtain ⟨between, there, intent, identity⟩ := first operationId op found
  obtain ⟨later, at_, intent', identity'⟩ := second operationId between there
  exact ⟨later, at_, intent'.trans intent, identity'.trans identity⟩

theorem operationsKept_step (taken : JournalStep action s s') : OperationsKept s s' := by
  intro operationId op found
  obtain ⟨later, at_, intent⟩ := taken.operation?_some found
  refine ⟨later, at_, intent, ?_⟩
  cases taken.operation_origin at_ with
  | kept same =>
    rw [found, Option.some.injEq] at same
    rw [same]
  | created _ _ _ _ absent =>
    rw [found] at absent
    cases absent
  | moved command loaded asked made row id =>
    have same := made.found
    rw [← id, found, Option.some.injEq] at same
    rw [row, same]
    rfl
  | escalated request loaded made row id =>
    have same := made.found
    rw [← id, found, Option.some.injEq] at same
    rw [row, same]
    rfl

theorem operationsKept_run (uuid5 : String → OpaqueId) (s : Store)
    (actions : List JournalAction) : OperationsKept s (run uuid5 s actions) := by
  have step : ∀ action t t', OperationsKept s t → True → JournalStep action t t' →
      OperationsKept s t' := fun _ _ _ before _ taken => before.trans (operationsKept_step taken)
  exact run_preserves step actions (stepwise_true uuid5 s actions) (.refl s)

/-- The operation is stored with the intent and the key it was read with. -/
def Known (s : Store) (op : Operation) : Prop :=
  ∃ row, s.operation? op.operationId = some row ∧ row.intent = op.intent ∧
    row.idempotencyIdentity = op.idempotencyIdentity

theorem known_of_found {operationId : OpaqueId} {op : Operation}
    (found : s.operation? operationId = some op) : Known s op :=
  ⟨op, find?_of_mem (find?_some found).1, rfl, rfl⟩

theorem Known.later {op : Operation} (known : Known s op) (kept : OperationsKept s s') :
    Known s' op := by
  obtain ⟨row, found, intent, identity⟩ := known
  obtain ⟨later, at_, intent', identity'⟩ := kept _ row found
  exact ⟨later, at_, intent'.trans intent, identity'.trans identity⟩

/-! ## The contract -/

def errandContract (uuid5 : String → OpaqueId) : Contract Store where
  inv := Reachable uuid5
  rely s s' := Later s s' ∧ OperationsKept s s'
  guar s s' := ∃ actions, run uuid5 s actions = s'

theorem errandContract_sound : (errandContract uuid5).Sound where
  preorder :=
    { refl := fun s => ⟨.refl s, .refl s⟩
      trans := fun _ _ _ first second => ⟨first.1.trans second.1, first.2.trans second.2⟩ }
  read _ := ⟨[], rfl⟩
  kept := by
    rintro s _ ⟨earlier, rfl⟩ ⟨actions, rfl⟩
    exact ⟨⟨earlier ++ actions, run_append ..⟩, .run uuid5 _ actions,
      operationsKept_run uuid5 _ actions⟩

/-! ## The track -/

/-- The key the first attempt of an operation is made with. -/
def operationKey (op : Operation) (descriptor : EffectDescriptor) : Option String :=
  if descriptor.idempotencyMode = .providerKey then some op.idempotencyIdentity else none

/-- The request is the operation's own, and the context names the operation. -/
structure AsIntended (op : Operation) (context : ProviderExecutionContext)
    (request : ProviderExecutionRequest) : Prop where
  effect : request.effect = op.intent.effect
  arguments : op.intent.arguments = some request.arguments
  identity : context.idempotencyIdentity = op.idempotencyIdentity

/-- The attempt the context names, with its operation and its key. -/
structure AttemptOf (context : ProviderExecutionContext) (row : ExecutionAttempt) : Prop where
  attemptId : row.attemptId = context.attemptId
  operationId : row.operationId = context.operationId
  key : row.providerIdempotencyKey = context.providerIdempotencyKey

/-- The commit of a claim that a call with this context and this request may follow. -/
structure ClaimedFor (registry : CapabilityRegistry) (context : ProviderExecutionContext)
    (request : ProviderExecutionRequest) (s s' : Store) : Prop where
  attempt : ∃ started, s.attempts.insert? started = some s'.attempts ∧ started.state = .started ∧
    AttemptOf context started
  operation : ∃ op descriptor, s.operation? context.operationId = some op ∧
    AsIntended op context request ∧ registry.descriptor op.intent.effect = .ok descriptor ∧
    context.providerIdempotencyKey = providerKeyFor op descriptor (s.listAttempts op.operationId)

/-- What the attempt says is what the call was answered. -/
def Answered (answer : CallEnd ExecutionEvidence) (attempt : ExecutionAttempt) : Prop :=
  (∃ evidence, answer = .returned evidence ∧ attempt.outcome = some evidence.outcome ∧
    attempt.evidence = evidence.evidence ∧ attempt.error = evidence.error ∧
    attempt.externalOperationId = evidence.externalOperationId ∧
    ∀ id ∈ evidence.externalResourceIds, id ∈ attempt.externalResourceIds) ∨
  ∃ typeName, answer = .raisedOther typeName ∧ attempt.outcome = some .unknown

/-- The commit that completes the attempt of a call with its answer. -/
def RecordedFor (context : ProviderExecutionContext) (answer : CallEnd ExecutionEvidence)
    (s s' : Store) : Prop :=
  ∃ row completed, s.attempt? context.attemptId = some row ∧ row.state = .started ∧
    completed.attemptId = row.attemptId ∧ completed.operationId = row.operationId ∧
    completed.providerIdempotencyKey = context.providerIdempotencyKey ∧
    completed.state = .completed ∧ Answered answer completed ∧
    s'.attempts = s.attempts.replace completed

/-- How far a process has come with a call. -/
inductive Errand where
  | free
  | claimed (context : ProviderExecutionContext) (request : ProviderExecutionRequest)
  | calling (context : ProviderExecutionContext) (request : ProviderExecutionRequest)
  | called (context : ProviderExecutionContext) (request : ProviderExecutionRequest)
      (answer : CallEnd ExecutionEvidence)

inductive ErrandCommits (registry : CapabilityRegistry) :
    Errand → Purpose → Store → Store → Errand → Prop
  | keeps {phase label s s'} (attempts : s'.attempts = s.attempts) :
      ErrandCommits registry phase label s s' phase
  | claims {context request label s s'} (claimed : ClaimedFor registry context request s s') :
      ErrandCommits registry .free label s s' (.claimed context request)
  | records {context request answer label s s'} (recorded : RecordedFor context answer s s') :
      ErrandCommits registry (.called context request answer) label s s'
        (.called context request answer)

inductive ErrandBegins : Errand → Query → Errand → Prop
  | calm {phase query} (harmless : NoExecute query) : ErrandBegins phase query phase
  | calls {context request} :
      ErrandBegins (.claimed context request) (.execute context request)
        (.calling context request)

inductive ErrandReturns : Errand → (query : Query) → Answer query → Errand → Prop
  | calm {phase query answer} (harmless : NoExecute query) :
      ErrandReturns phase query answer phase
  | called {context request answer} :
      ErrandReturns (.calling context request) (.execute context request) answer
        (.called context request answer)

def errandTrack (registry : CapabilityRegistry) : Track Errand Purpose Store Query Answer where
  permits _ _ := True
  commits := ErrandCommits registry
  begins := ErrandBegins
  returns := ErrandReturns

theorem errandTrack_calm : Calm (errandTrack registry) where
  reads := .keeps rfl
  begins harmless := .calm (not_execute harmless)
  returns harmless := .calm (not_execute harmless)

/-! ## The runtime -/

/-- Whatever the others do, the program changes its phase as an errand. -/
abbrev RunsErrand (uuid5 : String → OpaqueId) (registry : CapabilityRegistry)
    (program : Service α) (phase : Errand) (last : Store) : Prop :=
  Travels (errandContract uuid5) (errandTrack registry) phase program last

/-- Whatever the others do, the program ends in the phase it started in. -/
abbrev RestsErrand (uuid5 : String → OpaqueId) (registry : CapabilityRegistry)
    (program : Service α) (phase : Errand) (last : Store) : Prop :=
  Rests (errandContract uuid5) (errandTrack registry) phase program last

/-- The attempt is stored, COMPLETED. -/
def Ended (attemptId : OpaqueId) (s : Store) : Prop :=
  ∃ row, s.attempt? attemptId = some row ∧ row.state = .completed

theorem Ended.later {attemptId : OpaqueId} (ended : Ended attemptId s) (later : Later s s') :
    Ended attemptId s' := by
  obtain ⟨row, found, completed⟩ := ended
  have kept := later.final.attempts row (find?_some found).1 completed
  exact ⟨row, find?_eq_some_iff.mpr ⟨kept, (find?_some found).2⟩, completed⟩

/-- The command an execution is settled by carries the attempt, and claims none. -/
theorem decideExecution_carries {op : Operation} {obligations : PolicyObligations}
    {completed : ExecutionAttempt} {descriptor : EffectDescriptor} {actor : Option PrincipalRef}
    {correlationId : Option String} {ids : RecoverIds} {now occurredAt : UtcTimestamp}
    {command : OperationCommand}
    (built : Compensation.decideExecution s op obligations completed descriptor actor correlationId
      ids now occurredAt = .ok command) :
    command.body.claimedAttempt? = none ∧ command.body.completedAttempt? = some completed := by
  obtain ⟨outcome, verdict, made, -, -⟩ := Compensation.decideExecution_ok built
  generalize command.body = body at made ⊢
  generalize (decideExecutionKind outcome descriptor obligations completed.attemptNumber
    verdict).kind = kind at made
  cases kind <;> cases made <;> exact ⟨rfl, rfl⟩

/-- Settling an attempt that is COMPLETED already writes no attempt. -/
theorem attempts_settled {command : OperationCommand} {completed : ExecutionAttempt}
    {result : TransitionResult} (noClaim : command.body.claimedAttempt? = none)
    (carries : command.body.completedAttempt? = some completed)
    (ended : Ended completed.attemptId s) (ran : applyOperation command s = .ok (result, s')) :
    s'.attempts = s.attempts := by
  cases attemptsStep_of (applyOperation_step ran) with
  | kept same => exact same
  | claimed other loaded attempt asked made carried inserted =>
    cases asked
    rw [noClaim] at carried
    cases carried
  | completed other row accepted carried admitted state found started replaced =>
    have same : other = completed := Option.some.inj (carried.symm.trans carries)
    subst same
    obtain ⟨stored, at_, final⟩ := ended
    rw [found, Option.some.injEq] at at_
    rw [← at_, started] at final
    cases final

theorem rests_applyExecutionKind {op : Operation} {completed : ExecutionAttempt}
    {actor : Option PrincipalRef} {correlationId : Option String} {ids : RecoverIds}
    {evidence : ExecutionEvidence} {phase : Errand} (ended : Ended completed.attemptId last) :
    RestsErrand uuid5 registry
      (applyExecutionKind registry op completed actor correlationId ids evidence) phase last := by
  unfold applyExecutionKind
  cases op.currentPolicyDecisionId with
  | none => rfl
  | some policyDecisionId =>
    dsimp only
    refine follows_lift (fun _ _ => rfl) fun descriptor _ => ?_
    refine follows_now errandTrack_calm errandContract_sound fun s₁ now _ later₁ => ?_
    refine follows_now errandTrack_calm errandContract_sound fun s₂ occurredAt _ later₂ => ?_
    refine follows_commit (fun s₃ result s' inv later₃ ran => ?_) fun _ _ _ _ _ => rfl
    have later := (later₁.1.trans later₂.1).trans later₃.1
    cases found : s₃.policyDecision? policyDecisionId with
    | none =>
      simp only [executionTransition, found, Except.ok.injEq, Prod.mk.injEq] at ran
      obtain ⟨rfl, rfl⟩ := ran
      exact ⟨errandContract_sound.read inv, fun _ _ _ => ⟨phase, errandTrack_calm.reads, rfl⟩⟩
    | some policy =>
      rw [Compensation.executionTransition_decides found] at ran
      split at ran
      · cases ran
      next command built =>
      obtain ⟨applied, done, rfl⟩ := map_ok.mp ran
      obtain ⟨noClaim, carries⟩ := decideExecution_carries built
      refine ⟨guar_operation done, fun _ _ _ => ⟨phase, .keeps ?_, ?_⟩⟩
      · exact attempts_settled noClaim carries (ended.later later) done
      · dsimp only
        split <;> rfl

theorem rests_latestAttempt {op : Operation} {next : Option ExecutionAttempt → Service α}
    {phase : Errand} (missing : ∀ s, RestsErrand uuid5 registry (next none) phase s)
    (found : ∀ s attempt, s.attempt? attempt.attemptId = some attempt →
      RestsErrand uuid5 registry (next (some attempt)) phase s) :
    RestsErrand uuid5 registry (latestAttempt op >>= next) phase last := by
  unfold latestAttempt
  cases op.latestAttemptId with
  | none => exact missing last
  | some attemptId =>
    refine follows_load errandTrack_calm errandContract_sound fun s _ _ => ?_
    cases at_ : s.attempt? attemptId with
    | none => exact missing s
    | some attempt => exact found s attempt (find?_of_mem (find?_some at_).1)

theorem rests_dispatchExecuting {command : ExecuteCommand} {op : Operation} {phase : Errand} :
    RestsErrand uuid5 registry (dispatchExecuting registry command op) phase last := by
  refine rests_latestAttempt (fun _ => rfl) fun s attempt found => ?_
  dsimp only
  cases state : attempt.state with
  | started => rfl
  | completed =>
    refine follows_lift (fun _ _ => rfl) fun evidence _ => ?_
    exact rests_applyExecutionKind ⟨attempt, found, state⟩

theorem rests_unknownWithoutCompleting {command : RecoverCommand} {op : Operation}
    {actor : PrincipalRef} {phase : Errand} :
    RestsErrand uuid5 registry (unknownWithoutCompleting command op actor) phase last := by
  unfold unknownWithoutCompleting
  split
  · rfl
  refine follows_now errandTrack_calm errandContract_sound fun s occurredAt _ _ => ?_
  refine follows_commit (fun s₁ result s₂ _ _ ran => ?_) fun _ _ _ _ _ => rfl
  have leaves : LeavesAttempts
      (.transition (.operation (unknownCommand command op actor occurredAt))) := ⟨rfl, rfl⟩
  refine ⟨guar_transition ran, fun _ _ _ =>
    ⟨phase, .keeps (leaves.attempts (apply_step ran)), ?_⟩⟩
  split <;> rfl

theorem rests_recoverOperation (command : RecoverCommand) :
    RestsErrand uuid5 registry (recoverOperation registry command) .free last := by
  refine follows_loadOperation errandTrack_calm errandContract_sound (fun _ _ => rfl)
    fun s op _ _ _ => ?_
  dsimp only
  cases op.state with
  | executing =>
    refine rests_latestAttempt (fun _ => rfl) fun s attempt found => ?_
    dsimp only
    cases state : attempt.state with
    | started => exact rests_unknownWithoutCompleting
    | completed =>
      refine follows_lift (fun _ _ => rfl) fun evidence _ => ?_
      exact rests_applyExecutionKind ⟨attempt, found, state⟩
  | _ => rfl

/-! ## Calls -/

/-- Evidence of the attempt's call, or of its failure. -/
def EvidenceOf (answer : CallEnd ExecutionEvidence) (evidence : ExecutionEvidence) : Prop :=
  answer = .returned evidence ∨
    ∃ typeName, answer = .raisedOther typeName ∧ evidence.outcome = .unknown

theorem runsErrand_executionEvidence {provider : String} {answer : CallEnd ExecutionEvidence}
    {next : ExecutionEvidence → Service α} {phase : Errand}
    (rest : ∀ evidence s, EvidenceOf answer evidence → (errandContract uuid5).rely last s →
      RunsErrand uuid5 registry (next evidence) phase s) :
    RunsErrand uuid5 registry (executionEvidence provider answer >>= next) phase last := by
  have sound : (errandContract uuid5).Sound := errandContract_sound
  have := sound.preorder
  cases answer with
  | returned evidence => exact rest evidence last (.inl rfl) (refl_of _ last)
  | raisedUnsupportedEffect => trivial
  | raisedContractValidation => trivial
  | raisedOther typeName =>
    exact follows_now errandTrack_calm errandContract_sound fun s _ _ later =>
      rest _ s (.inr ⟨typeName, rfl, rfl⟩) later

/-- The completed copy of a started attempt. -/
theorem buildCompletedAttempt_answered {started completed : ExecutionAttempt}
    {answer : CallEnd ExecutionEvidence} {evidence : ExecutionEvidence}
    {completedAt : UtcTimestamp} (evidenced : EvidenceOf answer evidence)
    (built : buildCompletedAttempt started evidence completedAt = .ok completed) :
    completed.attemptId = started.attemptId ∧
      completed.providerIdempotencyKey = started.providerIdempotencyKey ∧
      Answered answer completed := by
  unfold buildCompletedAttempt at built
  split at built <;> cases built
  refine ⟨rfl, rfl, ?_⟩
  obtain rfl | ⟨typeName, rfl, unknown⟩ := evidenced
  · refine .inl ⟨evidence, rfl, rfl, rfl, rfl, rfl, fun id member => ?_⟩
    exact List.mem_eraseDups.mpr (List.mem_append_right _ member)
  · exact .inr ⟨typeName, rfl, congrArg some unknown⟩

theorem recordedFor_persisted {context : ProviderExecutionContext}
    {answer : CallEnd ExecutionEvidence} {completed : ExecutionAttempt}
    (attemptId : completed.attemptId = context.attemptId)
    (key : completed.providerIdempotencyKey = context.providerIdempotencyKey)
    (answered : Answered answer completed)
    (ran : persistAttemptEvidence completed s = .ok ((), s')) :
    RecordedFor context answer s s' ∧ Ended completed.attemptId s' := by
  obtain ⟨state, row, accepted, found, started, rfl⟩ := AttemptRepository.complete_ok ran
  have same : (AttemptRepository.completedRow row completed accepted).attemptId =
      completed.attemptId := (find?_some found).2
  refine ⟨⟨row, AttemptRepository.completedRow row completed accepted, attemptId ▸ found, started,
    rfl, rfl, key, state, answered, rfl⟩, AttemptRepository.completedRow row completed accepted,
    ?_, state⟩
  rw [Store.attempt?, find?_replace, if_pos same,
    show s.attempts.find? completed.attemptId = some row from found]
  rfl

theorem runsErrand_recordExecution {command : ExecuteCommand} {claimed : Operation}
    {started : ExecutionAttempt} {evidence : ExecutionEvidence}
    {context : ProviderExecutionContext} {request : ProviderExecutionRequest}
    {answer : CallEnd ExecutionEvidence} (attempt : AttemptOf context started)
    (evidenced : EvidenceOf answer evidence) :
    RunsErrand uuid5 registry (recordExecution registry command claimed started evidence)
      (.called context request answer) last := by
  unfold recordExecution
  refine follows_now errandTrack_calm errandContract_sound fun s₁ completedAt _ _ => ?_
  refine follows_lift (fun _ _ => trivial) fun completed built => ?_
  obtain ⟨same, key, answered⟩ := buildCompletedAttempt_answered evidenced built
  refine follows_attempt (fun s u s' _ _ ran => ?_) fun s e _ _ _ => ?_
  · have body : (JournalAction.persistAttemptEvidence completed).body uuid5 s = .ok ((), s') := ran
    obtain ⟨recorded, ended⟩ := recordedFor_persisted (same.trans attempt.attemptId)
      (key.trans attempt.key) answered ran
    exact ⟨guar_body body, fun _ _ _ =>
      ⟨_, .records recorded, travels_of_rests (rests_applyExecutionKind ended)⟩⟩
  · dsimp only
    split
    · exact follows_loadOperation errandTrack_calm errandContract_sound (fun _ _ => trivial)
        fun _ _ _ _ _ => trivial
    · trivial

theorem runsErrand_callAndRecord {command : ExecuteCommand} {claimed : Operation}
    {started : ExecutionAttempt} {request : ProviderExecutionRequest}
    (owner : started.operationId = claimed.operationId) :
    RunsErrand uuid5 registry (callAndRecord registry command request claimed started)
      (.claimed (executionContext claimed started command.correlationId) request) last := by
  unfold callAndRecord
  refine follows_question .calls (fun s₁ answer _ _ => ⟨_, .called, ?_⟩) errandContract_sound
  refine runsErrand_executionEvidence fun evidence s₂ evidenced _ => ?_
  exact runsErrand_recordExecution ⟨rfl, owner, rfl⟩ evidenced

/-! ## Claims -/

section Dispatch

variable {command : ExecuteCommand} {again : Operation → Service (Option RuntimeResult)}

/-- A key is computed from the prior attempts and the key of the operation alone. -/
theorem providerKeyFor_congr {op op' : Operation}
    (same : op.idempotencyIdentity = op'.idempotencyIdentity) (descriptor : EffectDescriptor)
    (prior : List ExecutionAttempt) :
    providerKeyFor op descriptor prior = providerKeyFor op' descriptor prior := by
  unfold providerKeyFor
  rw [same]

/-- A claim that was answered APPLIED may be followed by the call it was made for. -/
theorem claimedFor_claim {op claimed : Operation} {descriptor : EffectDescriptor}
    {arguments : JsonValue} {resourceIds : List String} {startedAt : UtcTimestamp}
    {started : ExecutionAttempt} {result : TransitionResult} (known : Known s op)
    (described : registry.descriptor op.intent.effect = .ok descriptor)
    (inline : op.intent.arguments = some arguments)
    (ran : claim command op descriptor resourceIds startedAt s = .ok ((started, result), s'))
    (applied : result.outcome = .applied) (named : result.operation = some claimed) :
    ClaimedFor registry (executionContext claimed started command.correlationId)
        ⟨op.intent.effect, arguments⟩ s s' ∧
      started.operationId = claimed.operationId := by
  obtain ⟨answer, done, same⟩ := map_ok.mp ran
  obtain ⟨rfl, rfl⟩ := Prod.mk.inj same
  obtain ⟨loaded, made, -, operation⟩ | ⟨_, -, -, -, -, refused, -⟩ | ⟨_, -, -, refused, -⟩ :=
    applyOperation_cases done
  · obtain rfl := Option.some.inj (operation.symm.trans named)
    obtain ⟨mid, inserted, completed⟩ := made.related.attempts
    have rows : s'.attempts = mid := completed
    obtain ⟨row, at_, intent, identity⟩ := known
    have current : row = loaded := Option.some.inj (at_.symm.trans made.found)
    subst current
    have owner : row.operationId = op.operationId := made.operationId
    refine ⟨⟨⟨_, rows ▸ inserted, rfl, rfl, owner.symm, rfl⟩, row, descriptor, ?_, ?_, ?_, ?_⟩,
      owner.symm⟩
    · exact (congrArg s.operation? owner).trans at_
    · exact ⟨by rw [intent], by rw [intent, inline], rfl⟩
    · rw [intent, described]
    · refine Eq.trans ?_ (providerKeyFor_congr identity.symm descriptor _)
      rw [owner]
      rfl
  · rw [applied] at refused
    cases refused
  · rw [applied] at refused
    cases refused

theorem runsErrand_settleClaim {op : Operation} {descriptor : EffectDescriptor}
    {arguments : JsonValue} {resourceIds : List String} {startedAt : UtcTimestamp}
    (goesOn : ∀ s fresh, Known s fresh → RunsErrand uuid5 registry (again fresh) .free s)
    (known : Known last op) (described : registry.descriptor op.intent.effect = .ok descriptor)
    (inline : op.intent.arguments = some arguments) :
    RunsErrand uuid5 registry (do
      let claimed ← Prog.attempt .work (claim command op descriptor resourceIds startedAt)
      settleClaim registry command again ⟨op.intent.effect, arguments⟩ claimed) .free last := by
  have anew : ∀ s, RunsErrand uuid5 registry (loadOperation command.operationId >>= again) .free
      s := fun s =>
    follows_loadOperation errandTrack_calm errandContract_sound (fun _ _ => trivial)
      fun s fresh _ _ found => goesOn s fresh (known_of_found found)
  refine follows_attempt (fun s claimed s' _ later ran => ?_) fun s e _ _ _ => ?_
  · obtain ⟨started, result⟩ := claimed
    obtain ⟨answer, done, same⟩ := map_ok.mp ran
    obtain ⟨rfl, rfl⟩ := Prod.mk.inj same
    refine ⟨guar_operation done, fun _ _ _ => ?_⟩
    dsimp only [settleClaim]
    obtain ⟨loaded, -, applied, named⟩ | ⟨_, rfl, -, -, -, already, -⟩ | ⟨_, rfl, -, refused, -⟩ :=
      applyOperation_cases done
    · obtain ⟨claims, owner⟩ := claimedFor_claim (known.later later.2) described inline ran applied
        named
      refine ⟨_, .claims claims, ?_⟩
      rw [applied, named]
      exact travels_map (runsErrand_callAndRecord owner)
    · refine ⟨.free, errandTrack_calm.reads, ?_⟩
      rw [already]
      exact anew _
    · refine ⟨.free, errandTrack_calm.reads, ?_⟩
      rw [refused]
      trivial
  · dsimp only [settleClaim]
    split
    · exact anew _
    · split
      · exact follows_loadOperation errandTrack_calm errandContract_sound (fun _ _ => trivial)
          fun _ _ _ _ _ => trivial
      · trivial

theorem runsErrand_claimAndExecute {op : Operation} (known : Known last op)
    (goesOn : ∀ s fresh, Known s fresh → RunsErrand uuid5 registry (again fresh) .free s) :
    RunsErrand uuid5 registry (claimAndExecute registry command again op) .free last := by
  unfold claimAndExecute
  refine follows_lift (fun _ _ => trivial) fun descriptor described => ?_
  refine follows_require trivial fun arguments inline => ?_
  refine follows_lift (fun _ _ => trivial) fun adapter _ => ?_
  refine follows_lift (fun _ _ => trivial) fun resourceIds _ => ?_
  refine follows_now errandTrack_calm errandContract_sound fun s startedAt _ later => ?_
  exact runsErrand_settleClaim goesOn (known.later later.2) described inline

end Dispatch

theorem runsErrand_dispatch {command : ExecuteCommand} (turns : Nat) {op : Operation}
    (known : Known last op) :
    RunsErrand uuid5 registry (dispatch registry command turns op) .free last := by
  induction turns generalizing op last with
  | zero => trivial
  | succ turns ih =>
    unfold dispatch
    cases op.state with
    | ready => exact runsErrand_claimAndExecute known fun s fresh known => ih known
    | executing => exact travels_map (travels_of_rests rests_dispatchExecuting)
    | _ => trivial

theorem runsErrand_executeOperation (command : ExecuteCommand) (turns : Nat) :
    RunsErrand uuid5 registry (executeOperation registry command turns) .free last :=
  follows_loadOperation errandTrack_calm errandContract_sound (fun _ _ => trivial)
    fun _ _ _ _ found => runsErrand_dispatch turns (known_of_found found)

theorem errands_worked :
    Worked uuid5 registry (errandContract uuid5) (errandTrack registry) .free where
  sound := errandContract_sound
  calm := errandTrack_calm
  aside _ aside := ⟨aside.journaled, .keeps aside.attempts⟩
  begins := .calm
  returns := .calm
  recover command _ := rests_recoverOperation command
  execute command turns _ := runsErrand_executeOperation command turns

end Stateback.Concurrency
