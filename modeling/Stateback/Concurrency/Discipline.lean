import Stateback.Compensation.Decisions
import Stateback.Concurrency.Rules
import Stateback.Invariants.Budgets
/-!
# Services that keep the budgets

Under `budgetContract` a service relies on what `Later` says of everyone else's commits, and each
of its own commits keeps the budgets.  What a service read stays true while the version it read
stands; a command that names that version is checked against it when it commits.
-/

namespace Stateback.Concurrency

open Domain Persistence Transitions Providers Stateback.Runtime Process Transaction
open KeyedTable.Table Invariants Compensation

variable {uuid5 : String → OpaqueId} {requests : Requests} {s s' last : Store} {α β : Type}

/-! ## The contract -/

def budgetContract (uuid5 : String → OpaqueId) (requests : Requests) : Contract Store where
  inv s := Reachable uuid5 s ∧ Budgeted requests s
  rely := Later
  guar s s' := (∃ actions, run uuid5 s actions = s') ∧ Budgeted requests s'

theorem budgetContract_sound : (budgetContract uuid5 requests).Sound where
  preorder := { refl := .refl, trans := fun _ _ _ => .trans }
  read inv := ⟨⟨[], rfl⟩, inv.2⟩
  kept := by
    rintro s _ ⟨⟨earlier, rfl⟩, -⟩ ⟨⟨actions, rfl⟩, budgeted⟩
    exact ⟨⟨⟨earlier ++ actions, run_append ..⟩, budgeted⟩, .run uuid5 _ actions⟩

/-- Whatever the others do, the program keeps the budgets, and `P` holds of what it returns. -/
abbrev Frugal (uuid5 : String → OpaqueId) (requests : Requests) (P : α → Store → Prop)
    (program : Service α) (last : Store) : Prop :=
  Assures (budgetContract uuid5 requests) AnyAnswer (Returning P) program last

abbrev Within (uuid5 : String → OpaqueId) (requests : Requests) (s : Store) : Prop :=
  (budgetContract uuid5 requests).inv s

theorem guar_act (action : JournalAction) (inv : Within uuid5 requests s)
    (disciplined : Disciplined requests s action) :
    (budgetContract uuid5 requests).guar s (act uuid5 s action) :=
  ⟨⟨[action], rfl⟩, inv.2.act inv.1 disciplined⟩

theorem guar_apply {command : TransitionCommand} {result : TransitionResult}
    (inv : Within uuid5 requests s) (ran : apply command s = .ok (result, s'))
    (disciplined : Disciplined requests s (.transition command)) :
    (budgetContract uuid5 requests).guar s s' :=
  act_transition ran ▸ guar_act _ inv disciplined

theorem guar_applyOperation {command : OperationCommand} {result : TransitionResult}
    (inv : Within uuid5 requests s) (ran : applyOperation command s = .ok (result, s'))
    (disciplined : OperationDisciplined requests s command) :
    (budgetContract uuid5 requests).guar s s' :=
  guar_apply inv (show apply (.operation command) s = _ from ran) disciplined

/-- Two commits one after the other, as one. -/
theorem guar_trans {middle : Store} (first : (budgetContract uuid5 requests).guar s middle)
    (second : (budgetContract uuid5 requests).guar middle s') :
    (budgetContract uuid5 requests).guar s s' := by
  obtain ⟨⟨before, rfl⟩, -⟩ := first
  obtain ⟨⟨after, rfl⟩, budgeted⟩ := second
  exact ⟨⟨before ++ after, run_append ..⟩, budgeted⟩

/-- The kinds that use up a budget. -/
def budgetKinds : List TransitionKind := .verificationInconclusive :: retryKinds

/-- No budget is used up by the action, whatever it finds. -/
def Plain : JournalAction → Prop
  | .transition (.operation command) => command.kind ∉ budgetKinds
  | .transition (.claimCompensationRetryAttempt _) => False
  | .transition (.retryCompensationAfterVerification _) => False
  | _ => True

theorem disciplined_of_kind {command : OperationCommand} (kind : TransitionKind)
    (same : command.kind = kind) (plain : kind ∉ budgetKinds) :
    OperationDisciplined requests s command := by
  intro loaded decision _ _ _
  rw [budgetKinds, List.mem_cons, not_or, ← same] at plain
  exact ⟨fun retry => absurd retry plain.2, fun same => absurd same plain.1⟩

theorem Plain.disciplined {action : JournalAction} (plain : Plain action) :
    Disciplined requests s action := by
  cases action with
  | transition command =>
    cases command with
    | operation command => exact disciplined_of_kind command.kind rfl plain
    | claimCompensationRetryAttempt => exact plain.elim
    | retryCompensationAfterVerification => exact plain.elim
    | _ => trivial
  | _ => trivial

/-! ## What a service has read -/

/-- The operation is stored as it was read, or has a later version by now. -/
def Seen (s : Store) (op : Operation) : Prop :=
  ∃ row, s.operation? op.operationId = some row ∧ (op.version < row.version ∨ row = op)

def SeenRecord (s : Store) (record : Compensation) : Prop :=
  ∃ row, s.compensation? record.compensationId = some row ∧
    (record.version < row.version ∨ row = record)

theorem seen_of_found {operationId : OpaqueId} {op : Operation}
    (found : s.operation? operationId = some op) : Seen s op :=
  ⟨op, find?_of_mem (find?_some found).1, .inr rfl⟩

theorem seenRecord_of_found {compensationId : OpaqueId} {record : Compensation}
    (found : s.compensation? compensationId = some record) : SeenRecord s record :=
  ⟨record, find?_of_mem (find?_some found).1, .inr rfl⟩

theorem Seen.later {op : Operation} (seen : Seen s op) (later : Later s s') : Seen s' op := by
  obtain ⟨row, found, held⟩ := seen
  obtain ⟨row', there, moved⟩ := later.operations _ row found
  refine ⟨row', there, ?_⟩
  obtain newer | rfl := held <;> obtain newer' | ⟨rfl, -⟩ := moved
  · exact .inl (by omega)
  · exact .inl newer
  · exact .inl newer'
  · exact .inr rfl

theorem SeenRecord.later {record : Compensation} (seen : SeenRecord s record)
    (later : Later s s') : SeenRecord s' record := by
  obtain ⟨row, found, held⟩ := seen
  obtain ⟨row', there, moved⟩ := later.records _ row found
  refine ⟨row', there, ?_⟩
  obtain newer | rfl := held <;> obtain newer' | ⟨rfl, -⟩ := moved
  · exact .inl (by omega)
  · exact .inl newer
  · exact .inl newer'
  · exact .inr rfl

theorem Seen.current {op row : Operation} (seen : Seen s op)
    (found : s.operation? op.operationId = some row) (version : (row.version : Int) = op.version) :
    row = op := by
  obtain ⟨stored, there, newer | rfl⟩ := seen
  · obtain rfl : stored = row := Option.some.inj (there.symm.trans found)
    omega
  · exact Option.some.inj (found.symm.trans there)

theorem SeenRecord.current {record row : Compensation} (seen : SeenRecord s record)
    (found : s.compensation? record.compensationId = some row)
    (version : (row.version : Int) = record.version) : row = record := by
  obtain ⟨stored, there, newer | rfl⟩ := seen
  · obtain rfl : stored = row := Option.some.inj (there.symm.trans found)
    omega
  · exact Option.some.inj (found.symm.trans there)

/-- An operation still stored as it was read was so in between, with the same counts. -/
theorem Seen.between {op : Operation} (seen : Seen s op) (later : Later s s')
    (found : s'.operation? op.operationId = some op) :
    s.operation? op.operationId = some op ∧
      (s'.attemptsOf op.operationId).length = (s.attemptsOf op.operationId).length ∧
      movesBetween s' op.operationId .verifying .unknown =
        movesBetween s op.operationId .verifying .unknown := by
  obtain ⟨row, there, held⟩ := seen
  obtain ⟨row', at_, moved⟩ := later.operations _ row there
  obtain rfl : row' = op := Option.some.inj (at_.symm.trans found)
  obtain newer | rfl := held <;> obtain newer' | ⟨same, attempts, moves⟩ := moved
  · omega
  · exact absurd newer (by rw [same]; exact lt_irrefl _)
  · exact absurd newer' (lt_irrefl _)
  · exact ⟨there, attempts, moves⟩

theorem SeenRecord.between {record : Compensation} (seen : SeenRecord s record)
    (later : Later s s') (found : s'.compensation? record.compensationId = some record) :
    (s'.compensationAttemptsOf record.compensationId).length =
      (s.compensationAttemptsOf record.compensationId).length := by
  obtain ⟨row, there, held⟩ := seen
  obtain ⟨row', at_, moved⟩ := later.records _ row there
  obtain rfl : row' = record := Option.some.inj (at_.symm.trans found)
  obtain newer | rfl := held <;> obtain newer' | ⟨same, attempts⟩ := moved
  · omega
  · exact absurd newer (by rw [same]; exact lt_irrefl _)
  · exact absurd newer' (lt_irrefl _)
  · exact attempts

/-- A decision that was read is the one the operation is decided by. -/
theorem policy?_later {op : Operation} {policy : PolicyDecision}
    (named : policy? s op = some policy) (later : Later s s') : policy? s' op = some policy := by
  obtain ⟨policyDecisionId, named, found⟩ := Option.bind_eq_some_iff.mp named
  obtain ⟨stored, key⟩ := find?_some found
  exact Option.bind_eq_some_iff.mpr ⟨policyDecisionId, named,
    find?_eq_some_iff.mpr ⟨later.final.policyDecisions _ stored trivial, key⟩⟩

theorem policy?_decided {op : Operation} {policy decision : PolicyDecision}
    (named : policy? s op = some policy) (decided : DecidedBy s op decision) :
    decision = policy := by
  rw [policy?, decided.named, Option.bind_some, decided.stored] at named
  exact Option.some.inj named

/-! ## The rows a result names -/

section Names


variable {result : TransitionResult} {loaded : Operation} {record : Compensation}

/-- The rows a result names are rows of the journal. -/
structure Names (s : Store) (result : TransitionResult) : Prop where
  operation : ∀ op, result.operation = some op → s.operation? op.operationId = some op
  record : ∀ record, result.compensation = some record →
    s.compensation? record.compensationId = some record

theorem names_loaded (found : s.operation? loaded.operationId = some loaded)
    (stored : s.compensation? record.compensationId = some record)
    (operation : result.operation = some loaded)
    (compensation : result.compensation = none ∨ result.compensation = some record) :
    Names s result where
  operation op same := by
    obtain rfl := Option.some.inj (operation.symm.trans same)
    exact found
  record row same := by
    obtain none_ | some_ := compensation
    · exact absurd (none_.symm.trans same) (by simp)
    · obtain rfl := Option.some.inj (some_.symm.trans same)
      exact stored

theorem replayRetry_names {progress : CompensationProgressKind} {attempt : CompensationAttempt}
    (found : s.operation? loaded.operationId = some loaded)
    (stored : s.compensation? record.compensationId = some record) :
    Names s (replayRetry progress s loaded record attempt) := by
  unfold replayRetry
  split
  · exact names_loaded found stored rfl (.inr rfl)
  · split <;> exact names_loaded found stored rfl (.inr rfl)

/-- The guards of a progress command answer with rows they loaded. -/
theorem withCompensation_names {progress : CompensationProgressKind} {operationId : OpaqueId}
    {operationVersion : Int} {compensationId : OpaqueId}
    {next : Operation → Compensation → Uow TransitionResult}
    (ran : withCompensation progress operationId operationVersion compensationId next s =
      .ok (result, s'))
    (rest : ∀ loaded record, s.operation? loaded.operationId = some loaded →
      s.compensation? record.compensationId = some record →
        next loaded record s = .ok (result, s') → Names s result) : Names s result := by
  unfold withCompensation at ran
  dsimp only at ran
  split at ran
  · cases ran
  next loaded found =>
  have found : s.operation? loaded.operationId = some loaded := find?_of_mem (find?_some found).1
  have alone : ∀ reply : TransitionResult, reply.operation = some loaded →
      reply.compensation = none → Names s reply :=
    fun reply operation none_ => ⟨fun op same => by
      obtain rfl := Option.some.inj (operation.symm.trans same)
      exact found, fun row same => absurd (none_.symm.trans same) (by simp)⟩
  split at ran
  · cases ran
  split at ran
  · cases ran
    exact alone _ rfl rfl
  split at ran
  · cases ran
    exact alone _ rfl rfl
  next record stored =>
  have stored : s.compensation? record.compensationId = some record :=
    find?_of_mem (find?_some stored).1
  split at ran
  · cases ran
    exact names_loaded found stored rfl (.inr rfl)
  · exact rest loaded record found stored ran


/-- A progress command that wrote nothing answers with rows it loaded. -/
private theorem names_of_ran {command : TransitionCommand} (ran : ProgressRan command s s' result)
    (unchanged : s' = s → result.outcome ≠ .applied → Names s result) : Names s' result := by
  obtain ⟨progress, -, made, -, operation, compensation⟩ | ⟨same, refused⟩ := ran
  · have found : s'.operation? progress.loaded.operationId = some progress.loaded := by
      rw [made.written.frame]
      exact made.found
    have stored := compensation?_replace_stepped made.record made.written.compensations.2.2
      progress.compensation.compensationId
    rw [if_pos rfl] at stored
    exact names_loaded found stored operation (.inr compensation)
  · exact same ▸ unchanged same refused

theorem claimCompensation_names {command : ClaimCompensationExecution}
    (ran : applyClaimCompensation command s = .ok (result, s')) : Names s' result := by
  refine names_of_ran (applyClaimCompensation_ran ran) fun same refused => ?_
  unfold applyClaimCompensation at ran
  refine withCompensation_names ran fun loaded record found stored branch => ?_
  split at branch
  · cases branch
    exact names_loaded found stored rfl (.inr rfl)
  split at branch
  · cases branch
  split at branch
  · cases branch
    exact names_loaded found stored rfl (.inr rfl)
  · exact absurd (commitClaim_ok branch).2.1 refused

theorem claimCompensationRetryAttempt_names {command : ClaimCompensationRetryAttempt}
    (ran : applyClaimCompensationRetryAttempt command s = .ok (result, s')) :
    Names s' result := by
  refine names_of_ran (applyClaimCompensationRetryAttempt_ran ran) fun same refused => ?_
  unfold applyClaimCompensationRetryAttempt at ran
  refine withCompensation_names ran fun loaded record found stored branch => ?_
  split at branch
  · cases branch
    exact replayRetry_names found stored
  split at branch
  · cases branch
  split at branch
  · cases branch
    exact names_loaded found stored rfl (.inr rfl)
  · exact absurd (commitClaim_ok branch).2.1 refused

theorem startCompensationVerification_names {command : StartCompensationVerification}
    (ran : applyStartCompensationVerification command s = .ok (result, s')) :
    Names s' result := by
  refine names_of_ran (applyStartCompensationVerification_ran ran) fun same refused => ?_
  unfold applyStartCompensationVerification at ran
  refine withCompensation_names ran fun loaded record found stored branch => ?_
  dsimp only at branch
  split at branch
  · split at branch <;>
    · cases branch
      exact names_loaded found stored rfl (.inr rfl)
  split at branch
  · cases branch
  split at branch
  · cases branch
    exact names_loaded found stored rfl (.inr rfl)
  · obtain ⟨_, -, -, applied, -⟩ := commitStartVerification_ok branch
    exact absurd applied refused

theorem retryCompensationAfterVerification_names {command : RetryCompensationAfterVerification}
    (ran : applyRetryCompensationAfterVerification command s = .ok (result, s')) :
    Names s' result := by
  refine names_of_ran (applyRetryCompensationAfterVerification_ran ran) fun same refused => ?_
  unfold applyRetryCompensationAfterVerification at ran
  refine withCompensation_names ran fun loaded record found stored branch => ?_
  dsimp only at branch
  split at branch
  · cases branch
    exact replayRetry_names found stored
  split at branch
  · cases branch
  split at branch
  · cases branch
    exact names_loaded found stored rfl (.inr rfl)
  · exact absurd (commitRetryAfterVerification_ok branch).2.1 refused

theorem applyOperation_names {command : OperationCommand}
    (ran : applyOperation command s = .ok (result, s')) {op : Operation}
    (named : result.operation = some op) : s'.operation? op.operationId = some op := by
  obtain ⟨loaded, made, -, operation⟩ | ⟨loaded, rfl, found, -, -, -, operation⟩ |
      ⟨loaded, rfl, found, -, operation⟩ := applyOperation_cases ran
  · obtain rfl := Option.some.inj (operation.symm.trans named)
    exact (operation?_replace_stepped made.found made.operations _).trans
      (if_pos made.operationId.symm)
  all_goals
    obtain rfl := Option.some.inj (operation.symm.trans named)
    exact find?_of_mem (find?_some found).1

/-- A command on an operation that is there answers with a row the journal has. -/
theorem seen_of_apply {command : TransitionCommand} (ran : apply command s = .ok (result, s'))
    (given : ∀ create, command ≠ .create create) {op : Operation}
    (named : result.operation = some op) : Seen s' op := by
  have of_names : Names s' result → Seen s' op := fun names =>
    seen_of_found (names.operation op named)
  cases command with
  | create command => exact absurd rfl (given command)
  | operation command => exact seen_of_found (applyOperation_names ran named)
  | claimCompensation => exact of_names (claimCompensation_names ran)
  | startCompensationVerification => exact of_names (startCompensationVerification_names ran)
  | claimCompensationRetryAttempt => exact of_names (claimCompensationRetryAttempt_names ran)
  | retryCompensationAfterVerification =>
    exact of_names (retryCompensationAfterVerification_names ran)

end Names

/-! ## Rules -/

section Rules

variable {P : α → Store → Prop}

theorem frugal_map (f : β → α) {program : Service β} (inv : Within uuid5 requests last)
    (frugal : Frugal uuid5 requests Anything program last) :
    Frugal uuid5 requests Anything (f <$> program) last :=
  frugal.andThen budgetContract_sound inv fun _ _ _ _ _ => trivial

theorem frugal_load {read : Store → β} {next : β → Service α}
    (rest : ∀ s, Within uuid5 requests s → Later last s →
      Frugal uuid5 requests P (next (read s)) s) :
    Frugal uuid5 requests P (Service.load read >>= next) last :=
  assures_load budgetContract_sound rest

theorem frugal_now {next : UtcTimestamp → Service α}
    (rest : ∀ s now, Within uuid5 requests s → Later last s →
      Frugal uuid5 requests P (next now) s) :
    Frugal uuid5 requests P (Service.now >>= next) last :=
  assures_now rest

theorem frugal_question {query : Query} {next : Answer query → Service α}
    (rest : ∀ s answer, Within uuid5 requests s → Later last s →
      Frugal uuid5 requests P (next answer) s) :
    Frugal uuid5 requests P (Prog.question query >>= next) last :=
  assures_question fun s answer inv seen _ => rest s answer inv seen

theorem frugal_lift {value : Except Raised β} {next : β → Service α}
    (rest : ∀ b, value = .ok b → Frugal uuid5 requests P (next b) last) :
    Frugal uuid5 requests P (Service.lift value >>= next) last :=
  assures_lift (fun _ _ => trivial) rest

theorem frugal_require {value : Option β} {e : Raised} {next : β → Service α}
    (rest : ∀ b, value = some b → Frugal uuid5 requests P (next b) last) :
    Frugal uuid5 requests P (Prog.require value e >>= next) last :=
  assures_require trivial rest

theorem frugal_loadOperation {operationId : OpaqueId} {next : Operation → Service α}
    (rest : ∀ s op, Within uuid5 requests s → Later last s →
      s.operation? operationId = some op → Frugal uuid5 requests P (next op) s) :
    Frugal uuid5 requests P (loadOperation operationId >>= next) last :=
  assures_loadOperation budgetContract_sound (fun _ _ _ => trivial) rest

theorem frugal_loadPolicy {op : Operation} {next : Option PolicyDecision → Service α}
    (missing : ∀ s, Within uuid5 requests s → Later last s →
      Frugal uuid5 requests P (next none) s)
    (found : ∀ s policy, Within uuid5 requests s → Later last s → policy? s op = some policy →
      Frugal uuid5 requests P (next (some policy)) s) (inv : Within uuid5 requests last) :
    Frugal uuid5 requests P (Recovery.loadPolicy op >>= next) last :=
  assures_loadPolicy budgetContract_sound missing found inv

theorem frugal_attempt {body : Uow β} {next : Except Raised β → Service α}
    (commits : ∀ s b s', Within uuid5 requests s → Later last s → body s = .ok (b, s') →
      (budgetContract uuid5 requests).guar s s')
    (ok : ∀ s b s', Later last s → body s = .ok (b, s') → Within uuid5 requests s' → Later s s' →
      Frugal uuid5 requests P (next (.ok b)) s')
    (error : ∀ s e, Within uuid5 requests s → Later last s →
      Frugal uuid5 requests P (next (.error e)) s) :
    Frugal uuid5 requests P (Prog.attempt .work body >>= next) last :=
  assures_attempt
    (fun s b s' inv seen ran =>
      ⟨commits s b s' inv seen ran, fun inv' own => ok s b s' seen ran inv' own⟩)
    fun s e inv seen _ => error s e inv seen

theorem frugal_trySubmit {command : TransitionCommand}
    {next : Except Raised TransitionResult → Service α}
    (disciplined : ∀ s, Within uuid5 requests s → Later last s →
      Disciplined requests s (.transition command))
    (ok : ∀ s result s', apply command s = .ok (result, s') → Within uuid5 requests s' →
      Later last s' → Frugal uuid5 requests P (next (.ok result)) s')
    (error : ∀ s e, Within uuid5 requests s → Later last s →
      Frugal uuid5 requests P (next (.error e)) s) :
    Frugal uuid5 requests P (Service.trySubmit command >>= next) last :=
  assures_attempt
    (fun s result s' inv seen ran =>
      ⟨guar_apply inv ran (disciplined s inv seen),
        fun inv' own => ok s result s' ran inv' (seen.trans own)⟩)
    fun s e inv seen _ => error s e inv seen

end Rules

end Stateback.Concurrency
