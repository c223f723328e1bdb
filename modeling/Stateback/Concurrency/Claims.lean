import Stateback.Concurrency.Flights
import Stateback.Concurrency.Services
/-!
# One claim, one provider call

Any number of deliveries of any `EXECUTE` commands, next to everything else that writes the journal.
A claim that is answered APPLIED grants its attempt to the process that made it, and the provider
call spends it.
-/

namespace Stateback.Concurrency

open Domain Persistence Transitions Providers Stateback.Runtime Process Transaction
open KeyedTable KeyedTable.Table Invariants Recovery

variable {uuid5 : String → OpaqueId} {s s' last : Store} {registry : CapabilityRegistry}
  {action : JournalAction}

/-! ## Attempt numbers -/

theorem attemptNumbers_step
    (before : ∀ operationId, (s.attemptsOf operationId).map (·.attemptNumber) =
      List.range' 1 (s.attemptsOf operationId).length)
    (taken : JournalStep action s s') (operationId : OpaqueId) :
    (s'.attemptsOf operationId).map (·.attemptNumber) =
      List.range' 1 (s'.attemptsOf operationId).length := by
  cases attemptsStep_of taken with
  | kept same =>
    unfold Store.attemptsOf
    rw [same]
    exact before operationId
  | claimed command loaded attempt asked made carried inserted =>
    obtain ⟨owner, -, number, -⟩ := made.claimedAttempt_checked carried
    have rows : s'.attemptsOf operationId = s.attemptsOf operationId ++
        if attempt.operationId = operationId then [attempt] else [] := by
      rw [Store.attemptsOf, select_insert inserted, Store.attemptsOf]
      simp only [decide_eq_true_eq]
    rw [rows]
    split
    next mine =>
      have listed : (s.listAttempts loaded.operationId).length =
          (s.attemptsOf operationId).length := by
        rw [Store.listAttempts, List.length_insertionSort, ← owner, mine]
      rw [List.map_append, before, List.map_singleton, number, listed, List.length_append,
        List.length_singleton, List.range'_concat, Nat.add_comm, Nat.one_mul]
    next other =>
      rw [List.append_nil]
      exact before operationId
  | completed completed row accepted carried admitted state found started replaced =>
    have only : ∀ old ∈ s.attempts.rows, old.attemptId = row.attemptId → old = row :=
      fun old member same => rows_injOn_key _ member (find?_some found).1 same
    have rows : s'.attemptsOf operationId = (s.attemptsOf operationId).map fun old =>
        if old.attemptId = row.attemptId then AttemptRepository.completedRow row completed accepted
        else old := by
      rw [Store.attemptsOf, replaced, select_replace]
      · rfl
      · intro old member same
        rw [only old member same]
        rfl
    rw [rows, List.map_map, List.length_map, ← before]
    refine List.map_congr_left fun old member => ?_
    rw [Function.comp_apply]
    split
    next same => rw [only old (mem_select.mp member).1 same]; rfl
    next => rfl

/-- The attempts of an operation are numbered from 1 on, in order. -/
theorem attemptNumbers_exact (reachable : Reachable uuid5 s) (operationId : OpaqueId) :
    (s.listAttempts operationId).map (·.attemptNumber) =
      List.range' 1 (s.attemptsOf operationId).length := by
  have numbered : ∀ operationId, (s.attemptsOf operationId).map (·.attemptNumber) =
      List.range' 1 (s.attemptsOf operationId).length :=
    reachable.invariant (fun _ => rfl) fun _ _ _ before taken => attemptNumbers_step before taken
  have ordered : (s.attemptsOf operationId).Pairwise fun a b =>
      a.attemptNumber ≤ b.attemptNumber := by
    rw [← List.pairwise_map, numbered operationId]
    exact List.pairwise_le_range'
  rw [Store.listAttempts, ordered.insertionSort_eq]
  exact numbered operationId

/-! ## Claims as tokens -/

/-- The attempt a provider call is made for. -/
def executedAttempt? : Query → Option OpaqueId
  | .execute context _ => some context.attemptId
  | _ => none

def claimTokens : Tokens OpaqueId Purpose Store Query where
  permits _ _ := True
  grants _ s s' attemptId := ClaimApplied attemptId s s'
  spends := executedAttempt?
  known attemptId s := s.attempt? attemptId ≠ none

theorem attempt?_stays {attemptId : OpaqueId} (later : Later s s')
    (known : s.attempt? attemptId ≠ none) : s'.attempt? attemptId ≠ none := by
  obtain ⟨row, found⟩ := Option.ne_none_iff_exists'.mp known
  obtain ⟨row', there, -⟩ := later.numbers.find? (·.1) found
  intro none
  rw [Store.attempt?, there] at none
  cases none

theorem claimTokens_fresh : claimTokens.Fresh (journalContract uuid5) where
  grants := by
    rintro _ s s' attemptId - - ⟨_, _, _, _, _, started, _, -, -, -, -, absent, found⟩
    exact ⟨fun known => known absent, fun none => by rw [found] at none; cases none⟩
  kept := attempt?_stays

/-- The attempt a process has claimed and not called for yet. -/
def Flight.held : Flight → Option OpaqueId
  | .claimed attemptId => some attemptId
  | _ => none

/-- A flight pays for its provider call with its claim. -/
theorem Flies.pays {α : Type} {program : Service α} {phase : Flight}
    (flies : Flies uuid5 program phase last) :
    Follows (journalContract uuid5) claimTokens.track (fun _ _ _ => True) program phase.held
      last := by
  refine Follows.along Flight.held (fun _ => trivial) ?_ ?_ ?_ (fun _ => trivial) flies
  · intro phase label s s' phase' commits
    cases commits with
    | claims applied => exact .inr ⟨_, rfl, applied⟩
    | _ => exact .inl rfl
  · intro phase query phase' begins
    cases begins with
    | calm harmless =>
      left
      cases query with
      | execute context request => exact absurd rfl (harmless context request)
      | _ => exact ⟨rfl, rfl⟩
    | calls => exact .inr ⟨_, rfl, rfl, rfl⟩
  · intro phase query answer phase' returns
    cases returns <;> rfl

/-! ## Runs -/

inductive ExecutionCall where
  | executeOperation (command : ExecuteCommand) (turns : Nat)
  /-- Anybody else, who makes no `execute` call and commits any actions in one unit of work. -/
  | others (actions : List JournalAction)

def ExecutionCall.service (registry : CapabilityRegistry) (uuid5 : String → OpaqueId) :
    ExecutionCall → Service (Option RuntimeResult)
  | executeOperation command turns => Runtime.executeOperation registry command turns
  | others actions => Service.uow fun s => .ok (none, run uuid5 s actions)

theorem pays_executionCall (call : ExecutionCall) :
    Follows (journalContract uuid5) claimTokens.track (fun _ _ _ => True)
      (call.service registry uuid5) none last := by
  cases call with
  | executeOperation command turns => exact (flies_executeOperation command turns).pays
  | others actions =>
    refine fun s _ _ => ⟨fun a s' ran => ?_, fun _ _ => trivial⟩
    cases ran
    exact ⟨⟨actions, rfl⟩, fun _ _ _ => ⟨none, .inl rfl, trivial⟩⟩

/-- Every `execute` call is for an attempt that a claim of its own process inserted, STARTED, and
was answered APPLIED; no two are for one attempt; and attempts are numbered from 1 to their
number. -/
theorem one_claim_one_call {s₀ : Store} (reachable : Reachable uuid5 s₀)
    {t : List (Event ExecutionCall (Option RuntimeResult) Purpose Store Raised Query Answer)}
    {c : Config (Option RuntimeResult) Purpose Store Raised Query Answer}
    (run : Run (ExecutionCall.service registry uuid5) s₀ t c) :
    (∀ t₁ pid context request t₂, t = t₁ ++ .began pid (.execute context request) :: t₂ →
      ∃ label before after, .committed pid label before after ∈ t₁ ∧
        ClaimApplied context.attemptId before after) ∧
    (∀ t₁ pid context request t₂ other context' request' t₃,
      t = t₁ ++ .began pid (.execute context request) :: t₂ ++
        .began other (.execute context' request') :: t₃ →
      context.attemptId ≠ context'.attemptId) ∧
    ∀ operationId, (c.store.listAttempts operationId).map (·.attemptNumber) =
      List.range' 1 (c.store.attemptsOf operationId).length := by
  obtain ⟨spent, reachable'⟩ := run.spent claimTokens_fresh journalContract_sound
    (fun call _ _ => pays_executionCall call) (fun _ _ _ _ _ => trivial) reachable
  refine ⟨fun t₁ pid context request t₂ split => spent.earned split rfl,
    fun t₁ pid context request t₂ other context' request' t₃ split same =>
      spent.once split rfl (congrArg some same.symm), attemptNumbers_exact reachable'⟩

/-! ## A message delivered twice -/

/-- The sample operation, allowed three attempts. -/
def readyStart : Store :=
  run idOf .empty
    [.transition sampleCreate, .transition (sampleCommand 1 1 "audit-ready"
      (.policyAllow samplePatientDecision (idOf "audit-policy") (idOf "outbox")))]

/-- Both deliveries load the READY operation; the second one's claim is a replay. -/
def deliveredTwice : List (Event ExecutionCall (Option RuntimeResult) Purpose Store Raised Query
    Answer) × Config (Option RuntimeResult) Purpose Store Raised Query Answer :=
  replay (ExecutionCall.service naturalRegistry idOf)
    ([.spawn 0 (.executeOperation (workerCommand 2 "1") 3),
      .spawn 1 (.executeOperation (workerCommand 2 "1") 3), .step 1 (answersAt 4)] ++
      List.replicate 12 (.step 0 (answersAt 4)) ++ List.replicate 12 (.step 1 (answersAt 4)))
    (.initial readyStart)

def isExecuteCall : Event ExecutionCall (Option RuntimeResult) Purpose Store Raised Query Answer →
    Bool
  | .began _ (.execute ..) => true
  | _ => false

theorem one_claim_one_call_delivered :
    (deliveredTwice.1.filter isExecuteCall).length = 1 ∧
      (∃ t₁ pid context request t₂,
        deliveredTwice.1 = t₁ ++ .began pid (.execute context request) :: t₂ ∧
        ∃ label before after, .committed pid label before after ∈ t₁ ∧
          ClaimApplied context.attemptId before after) ∧
      (deliveredTwice.2.store.listAttempts (idOf "op")).map (·.attemptNumber) = [1] := by
  have ran : Run (ExecutionCall.service naturalRegistry idOf) readyStart
      deliveredTwice.1 deliveredTwice.2 := replay_run _ _
  have reachable : Reachable idOf readyStart := ⟨_, rfl⟩
  obtain ⟨earned, -, numbered⟩ := one_claim_one_call reachable ran
  have one : (deliveredTwice.1.filter isExecuteCall).length = 1 := by decide +kernel
  have counted : (deliveredTwice.2.store.attemptsOf (idOf "op")).length = 1 := by decide +kernel
  refine ⟨one, ?_, by rw [numbered, counted]; rfl⟩
  obtain ⟨event, called⟩ := List.length_eq_one_iff.mp one
  have member : event ∈ deliveredTwice.1.filter isExecuteCall := by rw [called]; simp
  obtain ⟨inside, execute⟩ := List.mem_filter.mp member
  obtain ⟨t₁, t₂, split⟩ := List.append_of_mem inside
  unfold isExecuteCall at execute
  split at execute
  case h_1 pid context request =>
    exact ⟨t₁, pid, context, request, t₂, split, earned t₁ pid context request t₂ split⟩
  case h_2 => cases execute

end Stateback.Concurrency
