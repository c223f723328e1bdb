import Stateback.Concurrency.Execution
import Stateback.Concurrency.Following
/-!
# Provider calls of execution attempts

A process claims an attempt, calls the provider for it, and settles what the call returned.  The
phase of a process says how far it has come; the journal says of an attempt whether it is under way:
its operation is EXECUTING and names it as the latest, and it is STARTED.
-/

namespace Stateback.Concurrency

open Domain Persistence Transitions Providers Stateback.Runtime Recovery Process Transaction
open KeyedTable KeyedTable.Table Invariants

variable {uuid5 : String → OpaqueId} {s s' last : Store} {registry : CapabilityRegistry}
  {α β : Type}

/-! ## Attempts under way -/

def Underway (attemptId : OpaqueId) (s : Store) : Prop :=
  ∃ row operation, s.attempt? attemptId = some row ∧ row.state = .started ∧
    s.operation? row.operationId = some operation ∧ operation.state = .executing ∧
    operation.latestAttemptId = some attemptId

/-- A completion leaves the other attempts as they are. -/
theorem find?_completed {completed? : Option ExecutionAttempt}
    {t t' : Table ExecutionAttempt.attemptId} (completed : AttemptCompleted completed? t t')
    {attemptId : OpaqueId} {row : ExecutionAttempt} (found : t.find? attemptId = some row)
    (other : ∀ attempt, completed? = some attempt → attempt.attemptId ≠ attemptId) :
    t'.find? attemptId = some row := by
  cases completed? with
  | none =>
    have same : t' = t := completed
    rw [same]
    exact found
  | some attempt =>
    obtain ⟨-, old, accepted, at_, -, replaced⟩ := completed
    have key : (AttemptRepository.completedRow old attempt accepted).attemptId =
        attempt.attemptId := (find?_some at_).2
    rw [replaced, find?_replace, key, if_neg (other attempt rfl)]
    exact found

/-- A command on another operation, or on one that names another attempt. -/
theorem Underway.moved {attemptId : OpaqueId} {command : OperationCommand} {loaded : Operation}
    (under : Underway attemptId s) (made : OperationMoved command loaded s s')
    (apart : loaded.state = .executing → loaded.latestAttemptId ≠ some attemptId) :
    Underway attemptId s' := by
  obtain ⟨row, operation, found, started, there, executing, latest⟩ := under
  have elsewhere : row.operationId ≠ loaded.operationId := by
    intro same
    have known : s.operation? loaded.operationId = some loaded := by
      rw [made.operationId]
      exact made.found
    rw [same, known] at there
    obtain rfl := Option.some.inj there
    exact apart executing latest
  refine ⟨row, operation, ?_, started, ?_, executing, latest⟩
  · obtain ⟨mid, claimed, completed⟩ := made.related.attempts
    refine find?_completed completed (claimed.find?_of_some found) fun attempt writes same => ?_
    obtain ⟨-, row', at_, -, checked⟩ := made.attemptToComplete_checked writes
    rw [same, found] at at_
    obtain rfl := Option.some.inj at_
    exact elsewhere checked.owner
  · rw [operation?_replace_stepped made.found made.operations, if_neg, there]
    intro same
    exact elsewhere (made.operationId.trans same).symm

/-- Evidence written for another attempt. -/
theorem Underway.persisted {attemptId : OpaqueId} {completed : ExecutionAttempt}
    (under : Underway attemptId s) (ran : persistAttemptEvidence completed s = .ok ((), s'))
    (apart : completed.attemptId ≠ attemptId) : Underway attemptId s' := by
  obtain ⟨row, operation, found, started, there, executing, latest⟩ := under
  obtain ⟨state, old, accepted, at_, open_, rfl⟩ := AttemptRepository.complete_ok ran
  have completes : AttemptCompleted (some completed) s.attempts
      (s.attempts.replace (AttemptRepository.completedRow old completed accepted)) :=
    ⟨state, old, accepted, at_, open_, rfl⟩
  refine ⟨row, operation, find?_completed completes found fun attempt is => ?_, started, there,
    executing, latest⟩
  cases is
  exact apart

theorem Underway.same {attemptId : OpaqueId} (under : Underway attemptId s)
    (attempts : s'.attempts = s.attempts) (operations : s'.operations = s.operations) :
    Underway attemptId s' := by
  obtain ⟨row, operation, found, started, there, rest⟩ := under
  refine ⟨row, operation, ?_, started, ?_, rest⟩
  · rw [Store.attempt?, attempts]
    exact found
  · rw [Store.operation?, operations]
    exact there

/-- An attempt that was COMPLETED is not under way any more. -/
theorem not_underway {attemptId : OpaqueId} {attempt : ExecutionAttempt}
    (found : s.attempt? attemptId = some attempt) (completed : attempt.state = .completed)
    (later : Later s s') : ¬ Underway attemptId s' := by
  rintro ⟨row, -, found', started, -⟩
  have kept := later.final.attempts attempt (find?_some found).1 completed
  have same : s'.attempt? attemptId = some attempt :=
    find?_eq_some_iff.mpr ⟨kept, (find?_some found).2⟩
  rw [found'] at same
  obtain rfl := Option.some.inj same
  rw [started] at completed
  cases completed

/-- An operation has one attempt under way at most. -/
theorem Underway.unique {attemptId attemptId' : OpaqueId} {row row' : ExecutionAttempt}
    (under : Underway attemptId s) (under' : Underway attemptId' s)
    (found : s.attempt? attemptId = some row) (found' : s.attempt? attemptId' = some row')
    (same : row.operationId = row'.operationId) : attemptId = attemptId' := by
  obtain ⟨_, operation, at_, -, there, -, latest⟩ := under
  obtain ⟨_, operation', at_', -, there', -, latest'⟩ := under'
  obtain rfl := Option.some.inj (at_.symm.trans found)
  obtain rfl := Option.some.inj (at_'.symm.trans found')
  rw [same, there'] at there
  obtain rfl := Option.some.inj there
  exact Option.some.inj (latest.symm.trans latest')

/-! ## Commits -/

/-- Every other attempt under way stays so. -/
def KeepsOthers (attemptId : OpaqueId) (s s' : Store) : Prop :=
  ∀ other, other ≠ attemptId → Underway other s → Underway other s'

def KeepsFlights (s s' : Store) : Prop := ∀ attemptId, Underway attemptId s → Underway attemptId s'

/-- The commit of a claim that was answered APPLIED: it inserted the attempt, STARTED. -/
def ClaimApplied (attemptId : OpaqueId) (s s' : Store) : Prop :=
  ∃ command op descriptor resourceIds startedAt started result,
    claim command op descriptor resourceIds startedAt s = .ok ((started, result), s') ∧
      result.outcome = .applied ∧ started.attemptId = attemptId ∧ started.state = .started ∧
      s.attempt? attemptId = none ∧ s'.attempt? attemptId = some started

/-- A recovery is about to mark the operation of an attempt under way UNKNOWN. -/
def Abandons (attemptId : OpaqueId) (label : Purpose) (s : Store) : Prop :=
  Underway attemptId s ∧ ∃ command operation, label = .submit (.operation command) ∧
    command.kind = .executionUnknown ∧ command.body.completedAttempt? = none ∧
    s.operation? command.operationId = some operation ∧
    operation.latestAttemptId = some attemptId

/-- How far a process has come with an attempt. -/
inductive Flight where
  | free
  | claimed (attemptId : OpaqueId)
  | calling (context : ProviderExecutionContext) (request : ProviderExecutionRequest)
  | called (attemptId : OpaqueId)

inductive FlightCommits : Flight → Purpose → Store → Store → Flight → Prop
  | keeps {phase label s s'} (kept : KeepsFlights s s') : FlightCommits phase label s s' phase
  | claims {attemptId label s s'} (applied : ClaimApplied attemptId s s')
      (kept : KeepsFlights s s') (under : Underway attemptId s') :
      FlightCommits .free label s s' (.claimed attemptId)
  | settles {attemptId label s s'} (kept : KeepsOthers attemptId s s') :
      FlightCommits (.called attemptId) label s s' (.called attemptId)
  | abandons {attemptId label s s'} (abandoned : Abandons attemptId label s)
      (kept : KeepsOthers attemptId s s') : FlightCommits .free label s s' .free

inductive FlightBegins : Flight → Query → Flight → Prop
  | calm {phase query} (harmless : ∀ context request, query ≠ .execute context request) :
      FlightBegins phase query phase
  | calls {context request} :
      FlightBegins (.claimed context.attemptId) (.execute context request)
        (.calling context request)

inductive FlightReturns : Flight → (query : Query) → Answer query → Flight → Prop
  | calm {phase query answer} (harmless : ∀ context request, query ≠ .execute context request) :
      FlightReturns phase query answer phase
  | called {context request answer} :
      FlightReturns (.calling context request) (.execute context request) answer
        (.called context.attemptId)

def flightTrack : Track Flight Purpose Store Query Answer where
  permits _ _ := True
  commits := FlightCommits
  begins := FlightBegins
  returns := FlightReturns

theorem not_execute {query : Query} (harmless : mutates query = false) :
    ∀ context request, query ≠ .execute context request := by
  rintro context request rfl
  cases harmless

theorem flightTrack_calm : Calm flightTrack where
  reads := .keeps fun _ under => under
  begins harmless := .calm (not_execute harmless)
  returns harmless := .calm (not_execute harmless)

/-! ## The runtime -/

/-- Whatever the others do, the program changes its phase as a flight. -/
abbrev Flies (uuid5 : String → OpaqueId) (program : Service α) (phase : Flight) (last : Store) :
    Prop :=
  Follows (journalContract uuid5) flightTrack (fun _ _ _ => True) program phase last

theorem flies_bind {p : Service α} {f : α → Service β} {phase : Flight}
    (flies : Follows (journalContract uuid5) flightTrack
      (FollowsPost (journalContract uuid5) flightTrack (fun _ _ _ => True) f) p phase last) :
    Flies uuid5 (p >>= f) phase last := Follows.bind flies

theorem flies_map {p : Service α} {f : α → β} {phase : Flight} (flies : Flies uuid5 p phase last) :
    Flies uuid5 (f <$> p) phase last := by
  refine flies_bind (flies.mono fun outcome _ _ _ => ?_)
  cases outcome <;> trivial

/-- A command on the operation as it was read leaves the attempts alone that it does not name. -/
theorem Underway.current {attemptId : OpaqueId} {op : Operation} {command : OperationCommand}
    {result : TransitionResult} (under : Underway attemptId s) (seen : Seen s op)
    (ran : applyOperation command s = .ok (result, s'))
    (about : command.operationId = op.operationId) (version : command.expectedVersion = op.version)
    (apart : op.latestAttemptId ≠ some attemptId) : Underway attemptId s' := by
  obtain ⟨loaded, made, -⟩ | ⟨_, same, -⟩ | ⟨_, same, -⟩ := applyOperation_cases ran
  · have found := made.found
    have current := made.version
    rw [about] at found
    rw [version] at current
    obtain rfl := seen.current found current
    exact under.moved made fun _ => apart
  · rw [same]
    exact under
  · rw [same]
    exact under

/-- Whatever the others do, the program ends in the phase it started in. -/
abbrev Remains (uuid5 : String → OpaqueId) (program : Service α) (phase : Flight) (last : Store) :
    Prop :=
  Follows (journalContract uuid5) flightTrack (fun _ phase' _ => phase' = phase) program phase last

theorem Remains.flies {program : Service α} {phase : Flight}
    (remains : Remains uuid5 program phase last) : Flies uuid5 program phase last :=
  remains.mono fun _ _ _ _ => trivial

theorem remains_applyExecutionKind {op : Operation} {completed : ExecutionAttempt}
    {actor : Option PrincipalRef} {correlationId : Option String} {ids : RecoverIds}
    {evidence : ExecutionEvidence} {phase : Flight} (seen : Seen last op)
    (settles : ∀ s s', Later last s →
      (∀ attemptId, op.latestAttemptId ≠ some attemptId → Underway attemptId s →
        Underway attemptId s') → FlightCommits phase .work s s' phase) :
    Remains uuid5 (applyExecutionKind registry op completed actor correlationId ids evidence) phase
      last := by
  unfold applyExecutionKind
  cases named : op.currentPolicyDecisionId with
  | none => rfl
  | some policyDecisionId =>
    dsimp only
    refine follows_lift (fun _ _ => rfl) fun descriptor _ => ?_
    refine follows_now flightTrack_calm journalContract_sound fun s₁ now _ later₁ => ?_
    refine follows_now flightTrack_calm journalContract_sound fun s₂ occurredAt _ later₂ => ?_
    refine follows_commit (fun s₃ result s' inv later₃ ran => ?_) fun _ _ _ _ _ => rfl
    have later := (later₁.trans later₂).trans later₃
    cases found : s₃.policyDecision? policyDecisionId with
    | none =>
      simp only [executionTransition, found, Except.ok.injEq, Prod.mk.injEq] at ran
      obtain ⟨rfl, rfl⟩ := ran
      exact ⟨journalContract_sound.read inv, fun _ _ _ => ⟨phase, flightTrack_calm.reads, rfl⟩⟩
    | some policy =>
      rw [Compensation.executionTransition_decides found] at ran
      split at ran
      · cases ran
      next command built =>
      obtain ⟨applied, done, rfl⟩ := map_ok.mp ran
      obtain ⟨⟨about, version⟩, -⟩ := decideExecution_spends built
      refine ⟨guar_operation done, fun _ _ _ => ⟨phase, ?_, ?_⟩⟩
      · exact settles s₃ s' later fun attemptId apart under =>
          under.current (seen.later later) done about version apart
      · dsimp only
        split <;> rfl

/-- A claim that was answered APPLIED leaves its attempt under way, and the others. -/
theorem claim_applied {command : ExecuteCommand} {op : Operation} {descriptor : EffectDescriptor}
    {resourceIds : List String} {startedAt : UtcTimestamp} {started : ExecutionAttempt}
    {result : TransitionResult}
    (ran : claim command op descriptor resourceIds startedAt s = .ok ((started, result), s'))
    (applied : result.outcome = .applied) :
    ClaimApplied started.attemptId s s' ∧ KeepsFlights s s' ∧ Underway started.attemptId s' := by
  obtain ⟨answer, done, same⟩ := map_ok.mp ran
  obtain ⟨rfl, rfl⟩ := Prod.mk.inj same
  obtain ⟨loaded, made, -⟩ | ⟨_, -, -, -, -, refused, -⟩ | ⟨_, -, -, refused, -⟩ :=
    applyOperation_cases done
  · obtain ⟨mid, claimed, completed⟩ := made.related.attempts
    have rows : s'.attempts = mid := completed
    have inserted : s.attempts.insert? (claimedAttempt command op descriptor resourceIds startedAt
        s) = some s'.attempts := rows ▸ claimed
    have fresh := (insert?_eq_some.mp inserted).1
    have found : s'.attempt? command.ids.attemptId =
        some (claimedAttempt command op descriptor resourceIds startedAt s) := by
      rw [Store.attempt?, find?_insert inserted]
      exact if_pos rfl
    have moved : s'.operation? op.operationId = some (movedOperation (claimCommand command op
        (claimedAttempt command op descriptor resourceIds startedAt s)) loaded) :=
      (operation?_replace_stepped made.found made.operations _).trans (if_pos rfl)
    refine ⟨⟨command, op, descriptor, resourceIds, startedAt, _, answer, ran, applied, rfl, rfl,
      fresh, found⟩, fun attemptId under => under.moved made fun executing => ?_,
      ⟨_, _, found, rfl, moved, rfl, rfl⟩⟩
    have source := made.source
    rw [executing] at source
    cases source
  · rw [applied] at refused
    cases refused
  · rw [applied] at refused
    cases refused

theorem flies_loadOperation {operationId : OpaqueId} {next : Operation → Service α}
    {phase : Flight} (rest : ∀ s op, Reachable uuid5 s → Later last s →
      s.operation? operationId = some op → Flies uuid5 (next op) phase s) :
    Flies uuid5 (loadOperation operationId >>= next) phase last :=
  follows_loadOperation flightTrack_calm journalContract_sound (fun _ _ => trivial) rest

theorem flies_executionEvidence {provider : String} {ended : CallEnd ExecutionEvidence}
    {next : ExecutionEvidence → Service α} {phase : Flight} (reachable : Reachable uuid5 last)
    (rest : ∀ evidence s, Reachable uuid5 s → Later last s →
      Flies uuid5 (next evidence) phase s) :
    Flies uuid5 (executionEvidence provider ended >>= next) phase last := by
  cases ended with
  | returned evidence => exact rest evidence last reachable (.refl last)
  | raisedUnsupportedEffect => trivial
  | raisedContractValidation => trivial
  | raisedOther typeName =>
    exact follows_now flightTrack_calm journalContract_sound fun s _ inv later => rest _ s inv later

theorem flies_recordExecution {command : ExecuteCommand} {claimed : Operation}
    {started : ExecutionAttempt} {evidence : ExecutionEvidence} (seen : Seen last claimed)
    (latest : claimed.latestAttemptId = some started.attemptId) :
    Flies uuid5 (recordExecution registry command claimed started evidence)
      (.called started.attemptId) last := by
  unfold recordExecution
  refine follows_now flightTrack_calm journalContract_sound fun s₁ completedAt _ later₁ => ?_
  refine follows_lift (fun _ _ => trivial) fun completed built => ?_
  have same : completed.attemptId = started.attemptId := by
    unfold buildCompletedAttempt at built
    split at built <;> cases built
    rfl
  refine follows_attempt (fun s u s' _ later₂ ran => ?_) fun s e _ _ _ => ?_
  · have body : (JournalAction.persistAttemptEvidence completed).body uuid5 s = .ok ((), s') := ran
    refine ⟨guar_body body, fun _ _ later₃ => ⟨_, .settles fun other apart under => ?_, ?_⟩⟩
    · refine under.persisted ran fun is => apart ?_
      rw [← is, same]
    · refine Remains.flies (remains_applyExecutionKind
        (seen.later ((later₁.trans later₂).trans later₃))
        fun s s' _ kept => .settles fun other apart under => kept other (fun is => apart ?_) under)
      rw [latest] at is
      exact (Option.some.inj is).symm
  · dsimp only
    split
    · exact flies_loadOperation fun _ _ _ _ _ => trivial
    · trivial

theorem flies_callAndRecord {command : ExecuteCommand} {request : ProviderExecutionRequest}
    {claimed : Operation} {started : ExecutionAttempt} (seen : Seen last claimed)
    (latest : claimed.latestAttemptId = some started.attemptId) :
    Flies uuid5 (callAndRecord registry command request claimed started)
      (.claimed started.attemptId) last := by
  unfold callAndRecord
  have begins : FlightBegins (.claimed started.attemptId)
      (.execute (executionContext claimed started command.correlationId) request)
      (.calling (executionContext claimed started command.correlationId) request) :=
    @FlightBegins.calls (executionContext claimed started command.correlationId) request
  refine follows_question begins (fun s₁ ended inv later₁ =>
    ⟨.called started.attemptId, .called, ?_⟩) journalContract_sound
  refine flies_executionEvidence inv fun evidence s₂ _ later₂ => ?_
  exact flies_recordExecution (seen.later (later₁.trans later₂)) latest

/-- What follows on an EXECUTING operation, by the state of its latest attempt: an attempt that is
COMPLETED leaves nothing under way. -/
theorem remains_latestAttempt {op : Operation} {next : Option ExecutionAttempt → Service α}
    (missing : ∀ s, Remains uuid5 (next none) .free s)
    (started : ∀ s attempt, Reachable uuid5 s → attempt.state = .started →
      Remains uuid5 (next (some attempt)) .free s)
    (completed : ∀ s attempt, Later last s → attempt.state = .completed →
      (∀ s₁ s₂, Later s s₁ → (∀ attemptId, op.latestAttemptId ≠ some attemptId →
        Underway attemptId s₁ → Underway attemptId s₂) → FlightCommits .free .work s₁ s₂ .free) →
        Remains uuid5 (next (some attempt)) .free s) :
    Remains uuid5 (latestAttempt op >>= next) .free last := by
  unfold latestAttempt
  cases named : op.latestAttemptId with
  | none => exact missing last
  | some attemptId =>
    refine follows_load flightTrack_calm journalContract_sound fun s inv later => ?_
    cases found : s.attempt? attemptId with
    | none => exact missing s
    | some attempt =>
      cases state : attempt.state with
      | started => exact started s attempt inv state
      | completed =>
        refine completed s attempt later state fun s₁ s₂ later' kept =>
          .keeps fun other under => kept other (fun is => ?_) under
        rw [named] at is
        rw [← Option.some.inj is] at under
        exact not_underway found state later' under

theorem remains_dispatchExecuting {command : ExecuteCommand} {op : Operation}
    (seen : Seen last op) : Remains uuid5 (dispatchExecuting registry command op) .free last := by
  refine remains_latestAttempt (fun _ => rfl) (fun s attempt _ state => ?_)
    fun s attempt later state settles => ?_
  · dsimp only
    rw [state]
    rfl
  · dsimp only
    rw [state]
    refine follows_lift (fun _ _ => rfl) fun evidence _ => ?_
    exact remains_applyExecutionKind (seen.later later) settles

section Dispatch

variable {command : ExecuteCommand} {again : Operation → Service (Option RuntimeResult)}

theorem flies_settleClaim {request : ProviderExecutionRequest} {op : Operation}
    {descriptor : EffectDescriptor} {resourceIds : List String} {startedAt : UtcTimestamp}
    (goesOn : ∀ s fresh, Seen s fresh → Flies uuid5 (again fresh) .free s) :
    Flies uuid5 (do
      let claimed ← Prog.attempt .work (claim command op descriptor resourceIds startedAt)
      settleClaim registry command again request claimed) .free last := by
  have anew : ∀ s, Flies uuid5 (loadOperation command.operationId >>= again) .free s := fun s =>
    flies_loadOperation fun s fresh _ _ found => goesOn s fresh (seen_of_found found)
  refine follows_attempt (fun s claimed s' _ _ ran => ?_) fun s e _ _ _ => ?_
  · obtain ⟨started, result⟩ := claimed
    obtain ⟨answer, done, same⟩ := map_ok.mp ran
    obtain ⟨rfl, rfl⟩ := Prod.mk.inj same
    refine ⟨guar_operation done, fun _ _ _ => ?_⟩
    dsimp only [settleClaim]
    obtain ⟨-, -, applied, -⟩ | ⟨_, rfl, -, -, -, already, -⟩ | ⟨_, rfl, -, refused, -⟩ :=
      applyOperation_cases done
    · obtain ⟨claims, kept, under⟩ := claim_applied ran applied
      refine ⟨_, .claims claims kept under, ?_⟩
      rw [applied]
      refine follows_require trivial fun claimed named => flies_map ?_
      have seen := seen_of_found (applyOperation_names done named)
      exact flies_callAndRecord seen (claimed_latest done applied named).1
    · refine ⟨.free, flightTrack_calm.reads, ?_⟩
      rw [already]
      exact anew _
    · refine ⟨.free, flightTrack_calm.reads, ?_⟩
      rw [refused]
      trivial
  · dsimp only [settleClaim]
    split
    · exact anew _
    · split
      · exact flies_loadOperation fun _ _ _ _ _ => trivial
      · trivial

theorem flies_claimAndExecute {op : Operation}
    (goesOn : ∀ s fresh, Seen s fresh → Flies uuid5 (again fresh) .free s) :
    Flies uuid5 (claimAndExecute registry command again op) .free last := by
  unfold claimAndExecute
  refine follows_lift (fun _ _ => trivial) fun descriptor _ => ?_
  refine follows_require trivial fun arguments _ => ?_
  refine follows_lift (fun _ _ => trivial) fun adapter _ => ?_
  refine follows_lift (fun _ _ => trivial) fun resourceIds _ => ?_
  exact follows_now flightTrack_calm journalContract_sound fun s startedAt _ _ =>
    flies_settleClaim goesOn

end Dispatch

theorem flies_dispatch {command : ExecuteCommand} (turns : Nat) {op : Operation}
    (seen : Seen last op) :
    Flies uuid5 (dispatch registry command turns op) .free last := by
  induction turns generalizing op last with
  | zero => trivial
  | succ turns ih =>
    unfold dispatch
    cases op.state with
    | ready => exact flies_claimAndExecute fun s fresh seen => ih seen
    | executing => exact flies_map (remains_dispatchExecuting seen).flies
    | _ => trivial

theorem flies_executeOperation (command : ExecuteCommand) (turns : Nat) :
    Flies uuid5 (executeOperation registry command turns) .free last :=
  flies_loadOperation fun _ _ _ _ found => flies_dispatch turns (seen_of_found found)

end Stateback.Concurrency
