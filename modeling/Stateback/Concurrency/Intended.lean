import Stateback.Concurrency.Errands
/-!
# Calls as intended, answers as given

Deliveries, recoveries and scans from the empty journal on, next to everybody else who writes it.
Every provider call is what its operation asks for, under the one key of the operation, and every
COMPLETED attempt says what its call was answered.
-/

namespace Stateback.Concurrency

open Domain Persistence Transitions Providers Stateback.Runtime Process Transaction
open KeyedTable KeyedTable.Table Invariants Recovery Messaging Function

variable {uuid5 : String → OpaqueId} {s s' last : Store} {registry : CapabilityRegistry}

/-! ## Everybody -/

inductive SystemCall where
  | work (call : WorkCall)
  /-- Anybody else: any actions that write no execution attempt, in one unit of work. -/
  | others (actions : List JournalAction) (leaves : ∀ action ∈ actions, LeavesAttempts action)

def SystemCall.service (registry : CapabilityRegistry) (uuid5 : String → OpaqueId) :
    SystemCall → Service Unit
  | work call => call.service registry uuid5
  | others actions _ => Service.uow fun s => .ok ((), run uuid5 s actions)

abbrev SystemEvent := Event SystemCall Unit Purpose Store Persistence.Raised Query Answer

abbrev SystemConfig := Config Unit Purpose Store Persistence.Raised Query Answer

theorem attempts_run {actions : List JournalAction}
    (leaves : ∀ action ∈ actions, LeavesAttempts action) :
    (run uuid5 s actions).attempts = s.attempts := by
  induction actions generalizing s with
  | nil => rfl
  | cons action rest ih =>
    have first := (leaves action (by simp)).attempts (act_step uuid5 s action)
    exact (ih fun other member => leaves other (List.mem_cons_of_mem _ member)).trans first

theorem runsErrand_systemCall (call : SystemCall) :
    RunsErrand uuid5 registry (call.service registry uuid5) .free last := by
  cases call with
  | work call => exact errands_worked.workCall call
  | others actions leaves =>
    refine fun s _ _ => ⟨fun a s' ran => ?_, fun _ _ => trivial⟩
    cases ran
    exact ⟨⟨actions, rfl⟩, fun _ _ _ => ⟨.free, .keeps (attempts_run leaves), trivial⟩⟩

/-! ## What is said of a call -/

/-- The call is for an attempt of its operation, asks for what the operation asks for, and goes by
the key of the operation if its effect goes by keys. -/
structure Carries (registry : CapabilityRegistry) (context : ProviderExecutionContext)
    (request : ProviderExecutionRequest) (s : Store) : Prop where
  attempt : ∃ row, s.attempt? context.attemptId = some row ∧ AttemptOf context row
  operation : ∃ op descriptor, s.operation? context.operationId = some op ∧
    AsIntended op context request ∧ registry.descriptor op.intent.effect = .ok descriptor ∧
    context.providerIdempotencyKey = operationKey op descriptor

/-- Every attempt has the key of its operation. -/
def Keyed (registry : CapabilityRegistry) (s : Store) : Prop :=
  ∀ row ∈ s.attempts.rows, ∃ op descriptor, s.operation? row.operationId = some op ∧
    registry.descriptor op.intent.effect = .ok descriptor ∧
    row.providerIdempotencyKey = operationKey op descriptor

/-- Attempts are kept with their operations and their keys. -/
def AttemptsKept (s s' : Store) : Prop :=
  ∀ attemptId row, s.attempt? attemptId = some row → ∃ row', s'.attempt? attemptId = some row' ∧
    row'.attemptId = row.attemptId ∧ row'.operationId = row.operationId ∧
    row'.providerIdempotencyKey = row.providerIdempotencyKey

theorem attemptsKept_same (same : s'.attempts = s.attempts) : AttemptsKept s s' :=
  fun attemptId row found => ⟨row, by rw [Store.attempt?, same]; exact found, rfl, rfl, rfl⟩

theorem attemptsKept_insert {started : ExecutionAttempt}
    (inserted : s.attempts.insert? started = some s'.attempts) : AttemptsKept s s' := by
  intro attemptId row found
  refine ⟨row, ?_, rfl, rfl, rfl⟩
  have kept : Inserted (some started) s.attempts s'.attempts := inserted
  exact kept.find?_of_some found

theorem Carries.later {context : ProviderExecutionContext} {request : ProviderExecutionRequest}
    (carries : Carries registry context request s) (operations : OperationsKept s s')
    (attempts : AttemptsKept s s') : Carries registry context request s' := by
  obtain ⟨⟨row, found, own⟩, op, descriptor, at_, intended, described, key⟩ := carries
  obtain ⟨row', found', attemptId, operationId, sameKey⟩ := attempts _ row found
  obtain ⟨later, there, intent, identity⟩ := operations _ op at_
  refine ⟨⟨row', found', attemptId.trans own.attemptId, operationId.trans own.operationId,
    sameKey.trans own.key⟩, later, descriptor, there, ⟨?_, ?_, ?_⟩, ?_, ?_⟩
  · rw [intent, intended.effect]
  · rw [intent, intended.arguments]
  · rw [identity, intended.identity]
  · rw [intent, described]
  · rw [key, operationKey, operationKey, identity]

/-- The key an attempt is claimed with is the key of the operation, as long as the prior attempts
have it. -/
theorem providerKeyFor_keyed {op : Operation} {descriptor : EffectDescriptor}
    {prior : List ExecutionAttempt}
    (keyed : ∀ attempt ∈ prior, attempt.providerIdempotencyKey = operationKey op descriptor) :
    providerKeyFor op descriptor prior = operationKey op descriptor := by
  unfold providerKeyFor
  split
  next existing found =>
    obtain ⟨attempt, member, given⟩ := List.exists_of_findSome?_eq_some found
    obtain ⟨same, -⟩ := Option.filter_eq_some_iff.mp given
    rw [← keyed attempt member, same]
  next => rfl

theorem mem_listAttempts {operationId : OpaqueId} {attempt : ExecutionAttempt}
    (listed : attempt ∈ s.listAttempts operationId) :
    attempt ∈ s.attempts.rows ∧ attempt.operationId = operationId := by
  rw [Store.listAttempts, List.mem_insertionSort] at listed
  obtain ⟨member, owner⟩ := mem_select.mp listed
  exact ⟨member, of_decide_eq_true owner⟩

/-- Rows that are new have the key of their operation. -/
theorem Keyed.later (keyed : Keyed registry s) (operations : OperationsKept s s')
    (rows : ∀ row' ∈ s'.attempts.rows,
      (∃ row ∈ s.attempts.rows, row'.operationId = row.operationId ∧
        row'.providerIdempotencyKey = row.providerIdempotencyKey) ∨
      ∃ op descriptor, s.operation? row'.operationId = some op ∧
        registry.descriptor op.intent.effect = .ok descriptor ∧
        row'.providerIdempotencyKey = operationKey op descriptor) : Keyed registry s' := by
  intro row' member
  have known : ∃ op descriptor, s.operation? row'.operationId = some op ∧
      registry.descriptor op.intent.effect = .ok descriptor ∧
      row'.providerIdempotencyKey = operationKey op descriptor := by
    obtain ⟨row, old, owner, same⟩ | new := rows row' member
    · rw [owner, same]
      exact keyed row old
    · exact new
  obtain ⟨op, descriptor, at_, described, key⟩ := known
  obtain ⟨later, there, intent, identity⟩ := operations _ op at_
  exact ⟨later, descriptor, there, by rw [intent, described],
    by rw [key, operationKey, operationKey, identity]⟩

theorem Keyed.same (keyed : Keyed registry s) (operations : OperationsKept s s')
    (same : s'.attempts = s.attempts) : Keyed registry s' :=
  keyed.later operations fun row member => .inl ⟨row, same ▸ member, rfl, rfl⟩

section Claims

variable {context : ProviderExecutionContext} {request : ProviderExecutionRequest}

/-- The attempt of a claim is made with the key of its operation. -/
theorem ClaimedFor.key (claimed : ClaimedFor registry context request s s')
    (keyed : Keyed registry s) : ∃ op descriptor, s.operation? context.operationId = some op ∧
      AsIntended op context request ∧ registry.descriptor op.intent.effect = .ok descriptor ∧
      context.providerIdempotencyKey = operationKey op descriptor := by
  obtain ⟨op, descriptor, at_, intended, described, key⟩ := claimed.operation
  refine ⟨op, descriptor, at_, intended, described, ?_⟩
  rw [key]
  refine providerKeyFor_keyed fun attempt listed => ?_
  obtain ⟨member, owner⟩ := mem_listAttempts listed
  obtain ⟨op', descriptor', there, described', own⟩ := keyed attempt member
  have same : op.operationId = context.operationId := (find?_some at_).2
  rw [owner, same, at_, Option.some.injEq] at there
  subst there
  rw [described, Except.ok.injEq] at described'
  rw [own, described']

theorem ClaimedFor.keyed (claimed : ClaimedFor registry context request s s')
    (keyed : Keyed registry s) (operations : OperationsKept s s') : Keyed registry s' := by
  obtain ⟨started, inserted, -, own⟩ := claimed.attempt
  obtain ⟨op, descriptor, at_, -, described, key⟩ := claimed.key keyed
  refine keyed.later operations fun row member => ?_
  rcases (mem_insert inserted).mp member with old | rfl
  · exact .inl ⟨row, old, rfl, rfl⟩
  · exact .inr ⟨op, descriptor, by rw [own.operationId, at_], described, by rw [own.key, key]⟩

theorem ClaimedFor.carries (claimed : ClaimedFor registry context request s s')
    (keyed : Keyed registry s) (operations : OperationsKept s s') :
    Carries registry context request s' := by
  obtain ⟨started, inserted, -, own⟩ := claimed.attempt
  obtain ⟨op, descriptor, at_, intended, described, key⟩ := claimed.key keyed
  obtain ⟨later, there, intent, identity⟩ := operations _ op at_
  refine ⟨⟨started, ?_, own⟩, later, descriptor, there, ⟨?_, ?_, ?_⟩, ?_, ?_⟩
  · rw [Store.attempt?, find?_insert inserted, if_pos own.attemptId]
  · rw [intent, intended.effect]
  · rw [intent, intended.arguments]
  · rw [identity, intended.identity]
  · rw [intent, described]
  · rw [key, operationKey, operationKey, identity]

variable {answer : CallEnd ExecutionEvidence}

/-- A recorded answer changes neither the operation nor the key of the attempt. -/
theorem RecordedFor.kept (recorded : RecordedFor context answer s s')
    (carries : Carries registry context request s) : AttemptsKept s s' := by
  obtain ⟨row, completed, found, -, sameId, owner, key, -, -, rows⟩ := recorded
  obtain ⟨row', found', own⟩ := carries.attempt
  obtain rfl := Option.some.inj (found.symm.trans found')
  intro attemptId other at_
  rw [Store.attempt?, rows, find?_replace]
  split
  next mine =>
    have same : row = other := by
      have here : s.attempt? context.attemptId = some other := by
        rw [← own.attemptId, ← sameId, mine, at_]
      exact Option.some.inj (found.symm.trans here)
    subst same
    exact ⟨completed, by rw [show s.attempts.find? attemptId = some row from at_]; rfl, sameId,
      owner, key.trans own.key.symm⟩
  next => exact ⟨other, at_, rfl, rfl, rfl⟩

theorem RecordedFor.keyed (recorded : RecordedFor context answer s s')
    (carries : Carries registry context request s) (keyed : Keyed registry s)
    (operations : OperationsKept s s') : Keyed registry s' := by
  obtain ⟨row, completed, found, -, sameId, owner, key, -, -, rows⟩ := recorded
  obtain ⟨row', found', own⟩ := carries.attempt
  obtain rfl := Option.some.inj (found.symm.trans found')
  refine keyed.later operations fun other member => .inl ?_
  rw [rows] at member
  obtain ⟨old, -⟩ | ⟨rfl, -⟩ := mem_replace.mp member
  · exact ⟨other, old, rfl, rfl⟩
  · exact ⟨row, (find?_some found).1, owner, key.trans own.key.symm⟩

end Claims

/-! ## Runs -/

/-- The attempt says what a call for it was answered. -/
def RecordedIn (t : List SystemEvent) (row : ExecutionAttempt) : Prop :=
  ∃ pid context request answer, .began pid (.execute context request) ∈ t ∧
    .returned pid (.execute context request) answer ∈ t ∧ context.attemptId = row.attemptId ∧
    Answered answer row

/-- What is known of a process in a phase. -/
def PhaseHolds (registry : CapabilityRegistry) (t : List SystemEvent) (s : Store) (pid : Pid) :
    Errand → Prop
  | .free => True
  | .claimed context request => Carries registry context request s
  | .calling context request => .began pid (.execute context request) ∈ t
  | .called context request answer => .returned pid (.execute context request) answer ∈ t

structure Accounted (registry : CapabilityRegistry) (t : List SystemEvent) (s : Store)
    (phases : Pid → Errand) : Prop where
  keyed : Keyed registry s
  holds : ∀ pid, PhaseHolds registry t s pid (phases pid)
  calls : ∀ {pid context request}, .began pid (.execute context request) ∈ t →
    Carries registry context request s
  returns : ∀ {pid context request answer}, .returned pid (.execute context request) answer ∈ t →
    .began pid (.execute context request) ∈ t
  recorded : ∀ row ∈ s.attempts.rows, row.state = .completed → RecordedIn t row

section Steps

variable {t : List SystemEvent} {phases phases' : Pid → Errand} {e : SystemEvent}

theorem Accounted.start : Accounted registry [] .empty fun _ => .free where
  keyed _ member := by cases member
  holds _ := trivial
  calls member := by cases member
  returns member := by cases member
  recorded _ member := by cases member

theorem PhaseHolds.extend {pid : Pid} {phase : Errand} (holds : PhaseHolds registry t s pid phase)
    (operations : OperationsKept s s') (attempts : AttemptsKept s s') :
    PhaseHolds registry (t ++ [e]) s' pid phase := by
  cases phase with
  | free => trivial
  | claimed => exact Carries.later holds operations attempts
  | calling => exact List.mem_append_left _ holds
  | called => exact List.mem_append_left _ holds

/-- One more event: what it adds to the calls, to the answers and to the attempts. -/
theorem Accounted.extend (accounted : Accounted registry t s phases)
    (operations : OperationsKept s s') (attempts : AttemptsKept s s')
    (keyed : Keyed registry s')
    (holds : ∀ pid, phases' pid = phases pid ∨ PhaseHolds registry (t ++ [e]) s' pid (phases' pid))
    (calls : ∀ pid context request, e = .began pid (.execute context request) →
      Carries registry context request s')
    (returns : ∀ pid context request answer, e = .returned pid (.execute context request) answer →
      .began pid (.execute context request) ∈ t)
    (recorded : ∀ row ∈ s'.attempts.rows, row.state = .completed →
      row ∈ s.attempts.rows ∨ RecordedIn t row) : Accounted registry (t ++ [e]) s' phases' := by
  refine ⟨keyed, fun pid => ?_, fun {pid context request} member => ?_,
    fun {pid context request answer} member => ?_, fun row member completed => ?_⟩
  · rcases holds pid with same | new
    · rw [same]
      exact (accounted.holds pid).extend operations attempts
    · exact new
  · rcases List.mem_append.mp member with old | new
    · exact (accounted.calls old).later operations attempts
    · exact calls _ _ _ (List.mem_singleton.mp new).symm
  · apply List.mem_append_left
    rcases List.mem_append.mp member with old | new
    · exact accounted.returns old
    · exact returns _ _ _ _ (List.mem_singleton.mp new).symm
  · have earlier : RecordedIn t row := by
      rcases recorded row member completed with old | new
      · exact accounted.recorded row old completed
      · exact new
    obtain ⟨pid, context, request, answer, began, returned, rest⟩ := earlier
    exact ⟨pid, context, request, answer, List.mem_append_left _ began,
      List.mem_append_left _ returned, rest⟩

/-- An event that is about no call leaves everything as it is, if the attempts stay. -/
theorem Accounted.quiet (accounted : Accounted registry t s phases)
    (operations : OperationsKept s s') (same : s'.attempts = s.attempts)
    (noCall : ∀ pid context request, e ≠ .began pid (.execute context request))
    (noAnswer : ∀ pid context request answer,
      e ≠ .returned pid (.execute context request) answer) :
    Accounted registry (t ++ [e]) s' phases :=
  accounted.extend operations (attemptsKept_same same) (accounted.keyed.same operations same)
    (fun _ => .inl rfl) (fun pid context request is => absurd is (noCall pid context request))
    (fun pid context request answer is => absurd is (noAnswer pid context request answer))
    fun _ member _ => .inl (same ▸ member)

/-- Only the phase of the process that moved is new. -/
theorem holds_update {pid : Pid} {phase : Errand}
    (mine : PhaseHolds registry (t ++ [e]) s' pid phase) (other : Pid) :
    update phases pid phase other = phases other ∨
      PhaseHolds registry (t ++ [e]) s' other (update phases pid phase other) := by
  by_cases same : other = pid
  · subst same
    rw [update_self]
    exact .inr mine
  · exact .inl (update_of_ne same _ _)

theorem Accounted.commits (accounted : Accounted registry t s phases) {pid : Pid}
    {label : Purpose} {phase' : Errand}
    (commits : ErrandCommits registry (phases pid) label s s' phase')
    (operations : OperationsKept s s') :
    Accounted registry (t ++ [.committed pid label s s']) s' (update phases pid phase') := by
  generalize now : phases pid = phase at commits
  cases commits with
  | keeps same =>
    rw [← now, update_eq_self]
    exact accounted.quiet operations same (by simp) (by simp)
  | claims claimed =>
    obtain ⟨started, inserted, open_, -⟩ := claimed.attempt
    refine accounted.extend operations (attemptsKept_insert inserted)
      (claimed.keyed accounted.keyed operations)
      (holds_update (claimed.carries accounted.keyed operations)) (by simp) (by simp)
      fun row member completed => .inl ?_
    rcases (mem_insert inserted).mp member with old | rfl
    · exact old
    · rw [open_] at completed
      cases completed
  | @records context request answer _ _ _ recorded =>
    have returned : .returned pid (.execute context request) answer ∈ t := by
      have holds := accounted.holds pid
      rw [now] at holds
      exact holds
    have began := accounted.returns returned
    have carries := accounted.calls began
    rw [← now, update_eq_self]
    refine accounted.extend operations (recorded.kept carries)
      (recorded.keyed carries accounted.keyed operations) (fun _ => .inl rfl) (by simp)
      (by simp) fun row member completed => ?_
    obtain ⟨old, completed', found, -, sameId, -, -, -, answered, rows⟩ := recorded
    rw [rows] at member
    obtain ⟨kept, -⟩ | ⟨rfl, -⟩ := mem_replace.mp member
    · exact .inl kept
    · exact .inr ⟨pid, context, request, answer, began, returned,
        (sameId.trans (find?_some found).2).symm, answered⟩

theorem Accounted.step {c c' : SystemConfig}
    {Q : Except Persistence.Raised Unit → Errand → Store → Prop}
    (accounted : Accounted registry t c.store phases)
    (last : Step (SystemCall.service registry uuid5) c e c')
    (turns : Turns (errandContract uuid5) (errandTrack registry) Q c.store phases e phases') :
    Accounted registry (t ++ [e]) c'.store phases' := by
  cases turns with
  | spawned =>
    cases last
    exact accounted.quiet (.refl _) rfl (by simp) (by simp)
  | raised =>
    cases last
    exact accounted.quiet (.refl _) rfl (by simp) (by simp)
  | finished =>
    cases last
    exact accounted.quiet (.refl _) rfl (by simp) (by simp)
  | crashed =>
    cases last
    exact accounted.quiet (.refl _) rfl (by simp) (by simp)
  | committed inv guaranteed permitted commits =>
    obtain ⟨-, -, operations⟩ := errandContract_sound.kept inv guaranteed
    cases last
    exact accounted.commits commits operations
  | @began pid query phase' begins =>
    cases last
    generalize now : phases pid = phase at begins
    cases begins with
    | calm harmless =>
      rw [← now, update_eq_self]
      refine accounted.quiet (.refl _) rfl (fun other context request same => ?_) (by simp)
      cases same
      exact harmless context request rfl
    | @calls context request =>
      have carries : Carries registry context request c.store := by
        have holds := accounted.holds pid
        rw [now] at holds
        exact holds
      refine accounted.extend (.refl _) (attemptsKept_same rfl) accounted.keyed
        (holds_update (List.mem_append_right _ (List.mem_singleton.mpr rfl)))
        (fun other context' request' same => ?_) (by simp) fun row member _ => .inl member
      cases same
      exact carries
  | @returned pid query answer phase' returns =>
    cases last
    generalize now : phases pid = phase at returns
    cases returns with
    | calm harmless =>
      rw [← now, update_eq_self]
      refine accounted.quiet (.refl _) rfl (by simp) fun other context request answer same => ?_
      cases same
      exact harmless context request rfl
    | @called context request =>
      have began : .began pid (.execute context request) ∈ t := by
        have holds := accounted.holds pid
        rw [now] at holds
        exact holds
      refine accounted.extend (.refl _) (attemptsKept_same rfl) accounted.keyed
        (holds_update (List.mem_append_right _ (List.mem_singleton.mpr rfl))) (by simp)
        (fun other context' request' answer' same => ?_) fun row member _ => .inl member
      cases same
      exact began

end Steps

theorem Tracked.accounted {t : List SystemEvent} {c : SystemConfig} {phases : Pid → Errand}
    {Q : Except Persistence.Raised Unit → Errand → Store → Prop}
    (tracked : Tracked (errandContract uuid5) (errandTrack registry) Q
      (SystemCall.service registry uuid5) .free .empty t c phases) :
    Accounted registry t c.store phases := by
  induction tracked with
  | start => exact .start
  | step earlier last turns ih => exact ih.step last turns

/-- Every provider call is for an attempt of its operation, asks for the effect and the arguments of
the operation and carries the one key of the operation; and every COMPLETED attempt says what a call
for it was answered. -/
theorem calls_as_intended {t : List SystemEvent} {c : SystemConfig}
    (run : Run (SystemCall.service registry uuid5) .empty t c) :
    (∀ pid context request, .began pid (.execute context request) ∈ t →
      Carries registry context request c.store) ∧
    ∀ row ∈ c.store.attempts.rows, row.state = .completed → RecordedIn t row := by
  have start : Reachable uuid5 .empty := ⟨[], rfl⟩
  obtain ⟨phases, tracked, -⟩ := run.tracked errandContract_sound
    (fun call _ _ => runsErrand_systemCall call) (fun _ _ _ _ _ => trivial) start
  have accounted := Tracked.accounted tracked
  exact ⟨fun _ _ _ => accounted.calls, accounted.recorded⟩

/-! ## One delivery on the sample operation -/

def readyActions : List JournalAction :=
  [.transition sampleCreate, .transition (sampleCommand 1 1 "audit-ready"
    (.policyAllow samplePatientDecision (idOf "audit-policy") (idOf "outbox")))]

theorem readyActions_leave : ∀ action ∈ readyActions, LeavesAttempts action := by
  intro action member
  simp only [readyActions, List.mem_cons, List.not_mem_nil, or_false] at member
  rcases member with rfl | rfl
  · trivial
  · exact ⟨rfl, rfl⟩

def systemTurn (pid : Pid) (call : SystemCall) (steps : Nat)
    (answers : (query : Query) → Answer query) : List (Choice SystemCall Query Answer) :=
  .spawn pid call :: List.replicate steps (.step pid answers)

/-- The provider declines the one attempt. -/
def declined : List SystemEvent × SystemConfig :=
  replay (SystemCall.service naturalRegistry idOf)
    (systemTurn 0 (.others readyActions readyActions_leave) 2 decliningAnswers ++
      systemTurn 1 (.work (delivered "first" .execute)) 18 decliningAnswers) (.initial .empty)

/-- What a process called the provider with. -/
def executed? : SystemEvent →
    Option (Pid × ProviderExecutionContext × ProviderExecutionRequest)
  | .began pid (.execute context request) => some (pid, context, request)
  | _ => none

theorem began_of_executed {t : List SystemEvent} {pid : Pid} {context : ProviderExecutionContext}
    {request : ProviderExecutionRequest}
    (member : (pid, context, request) ∈ t.filterMap executed?) :
    .began pid (.execute context request) ∈ t := by
  obtain ⟨event, inside, same⟩ := List.mem_filterMap.mp member
  unfold executed? at same
  split at same
  · cases same
    exact inside
  · cases same

theorem calls_as_intended_declined :
    (∃ context request, .began 1 (.execute context request) ∈ declined.1 ∧
      request.arguments = .object [("to", .str "ops")] ∧
      Carries naturalRegistry context request declined.2.store) ∧
    ∃ row ∈ declined.2.store.attempts.rows, row.outcome = some .notApplied ∧
      RecordedIn declined.1 row := by
  have ran : Run (SystemCall.service naturalRegistry idOf) .empty declined.1
      declined.2 := replay_run _ _
  obtain ⟨carries, recorded⟩ := calls_as_intended ran
  constructor
  · have called : (declined.1.filterMap executed?).map (fun call => (call.1, call.2.2.arguments)) =
        [(1, .object [("to", .str "ops")])] := by decide +kernel
    obtain ⟨⟨pid, context, request⟩, member, same⟩ : ∃ call ∈ declined.1.filterMap executed?,
        (call.1, call.2.2.arguments) = (1, .object [("to", .str "ops")]) :=
      List.mem_map.mp (called ▸ List.mem_singleton_self _)
    obtain ⟨rfl, arguments⟩ := Prod.mk.inj same
    have began := began_of_executed member
    exact ⟨context, request, began, arguments, carries 1 context request began⟩
  · have outcomes : declined.2.store.attempts.rows.map (fun row => (row.state, row.outcome)) =
        [(.completed, some .notApplied)] := by decide +kernel
    obtain ⟨row, member, same⟩ : ∃ row ∈ declined.2.store.attempts.rows,
        (row.state, row.outcome) = (.completed, some .notApplied) :=
      List.mem_map.mp (outcomes ▸ List.mem_singleton_self _)
    obtain ⟨completed, outcome⟩ := Prod.mk.inj same
    exact ⟨row, member, outcome, recorded row member completed⟩

end Stateback.Concurrency
