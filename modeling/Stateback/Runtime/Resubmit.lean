import Stateback.Lib.Restarts
import Stateback.Runtime.Submit
import Stateback.Runtime.Termination
/-!
# Submissions that are repeated

A call that finds its operation already created goes on with it: from wherever an earlier call
stopped it leaves the journal that the earlier call would have left, and past the policy step it
leaves everything as it is.
-/

namespace Stateback.Runtime

open Domain Persistence Transitions Providers Policy Transaction Process Prog
open KeyedTable KeyedTable.Table

variable {runtime : SynchronousRuntime} {command : SubmitCommand} {intent : IntentEnvelope}
  {descriptor : EffectDescriptor} {operation existing : Operation} {s s' : Store} {n : Nat}
  {answers answers' : Nat → (query : Query) → Answer query}

/-! ## Creations -/

/-- The digest of an intent does not depend on when it was asked for. -/
theorem intentOf_at {requestedAt : UtcTimestamp} (later : UtcTimestamp)
    (made : runtime.intentOf command requestedAt = .ok intent) :
    runtime.intentOf command later = .ok { intent with requestedAt := later } := by
  unfold SynchronousRuntime.intentOf IntentEnvelope.fromParts at made ⊢
  simp only [except_bind_ok] at made ⊢
  obtain ⟨hash, hashed, digest, computed, _, checked, same⟩ := made
  cases same
  exact ⟨hash, hashed, digest, computed, (), checked, rfl⟩

/-- The intent of a submission asks for what the submission asks for, under its own digest. -/
theorem intentOf_input {requestedAt : UtcTimestamp}
    (made : runtime.intentOf command requestedAt = .ok intent) :
    intent.input = command.input ∧ NamesItself runtime.sha256 runtime.digits intent := by
  obtain ⟨⟨effect, mode, arguments, ref, requester, -, metadata⟩, accepted⟩ :=
    IntentEnvelope.fromParts_ok made
  have inlined : command.inlined.getD .null = command.arguments := by
    unfold SubmitCommand.inlined
    split
    next null => exact null.symm
    · rfl
  refine ⟨?_, accepted.named⟩
  rw [IntentEnvelope.input, effect, mode, arguments, ref, requester, metadata, inlined]
  rfl

/-- The answer to a creation of an operation that is there. -/
def foundAnswer (existing : Operation) (digest : String) : TransitionResult :=
  let kind := CommandKind.transition .createOperation
  if existing.state = .pendingPolicy ∧ existing.version = initialOperationVersion ∧
      existing.intent.intentDigest = digest then
    already kind existing none (some .pendingPolicy) existing.version none
  else
    rejected kind
      (if existing.intent.intentDigest ≠ digest then "intent_conflict" else "operation_id_reused")
      (some existing) (some existing.state) (some .pendingPolicy) (some existing.version) none

/-- The creation of a submission, past the checks that it always passes. -/
def creation (command : SubmitCommand) (intent : IntentEnvelope) (descriptor : EffectDescriptor) :
    Uow TransitionResult := fun s =>
  match s.operation? command.ids.operationId with
  | some existing => .ok (foundAnswer existing intent.intentDigest, s)
  | none =>
    match s.operations.rows.find? fun row =>
        decide (row.idempotencyIdentity = operationIdempotencyIdentity command.ids.operationId) with
    | some other =>
      .ok (rejected (.transition .createOperation) "intent_conflict" (some other)
        (some other.state) (some .pendingPolicy) (some other.version) none, s)
    | none => insertCreated (createCommand command intent descriptor) s

theorem applyCreate_eq :
    applyCreate (createCommand command intent descriptor) s =
      creation command intent descriptor s := by
  have timed : ¬ (intent.requestedAt ≠ intent.requestedAt ∨
      intent.requestedAt ≠ intent.requestedAt) := by simp
  unfold applyCreate creation foundAnswer
  dsimp only [createCommand, submittedOperation]
  rw [if_neg (not_not_intro rfl), if_neg (not_not_intro rfl)]
  refine (if_neg timed).trans ?_
  rw [if_neg (by decide)]
  cases s.operation? command.ids.operationId with
  | some existing =>
    dsimp only
    split
    · rfl
    · split <;> rfl
  | none => rfl

theorem applyCreate_found (found : s.operation? command.ids.operationId = some existing) :
    applyCreate (createCommand command intent descriptor) s =
      .ok (foundAnswer existing intent.intentDigest, s) := by
  rw [applyCreate_eq, creation, found]

theorem settle_found : settleCreate intent.intentDigest (foundAnswer existing intent.intentDigest) =
    if existing.intent.intentDigest = intent.intentDigest then .inr existing
    else .inl ⟨.rejected, "intent_conflict", some existing,
      some (foundAnswer existing intent.intentDigest), none, none⟩ := by
  by_cases same : existing.intent.intentDigest = intent.intentDigest
  · by_cases fresh : existing.state = .pendingPolicy ∧ existing.version = initialOperationVersion
    · simp [settleCreate, foundAnswer, already, fresh, same]
    · simp [settleCreate, foundAnswer, rejected, fresh, same]
  · simp [settleCreate, foundAnswer, rejected, same]

/-- An applied creation answers with the operation it was asked for. -/
theorem applyCreate_operation {creation : CreateOperation} {result : TransitionResult}
    (ran : applyCreate creation s = .ok (result, s')) (applied : result.outcome = .applied) :
    result.operation = some creation.operation := by
  unfold applyCreate at ran
  dsimp only at ran
  split at ran
  · cases ran
    cases applied
  split at ran
  · cases ran
    cases applied
  split at ran
  · cases ran
  split at ran
  · cases ran
    cases applied
  split at ran
  · split at ran
    · cases ran
      cases applied
    · split at ran <;>
      · cases ran
        cases applied
  · split at ran
    · cases ran
      cases applied
    · unfold insertCreated at ran
      obtain ⟨_, _, -, rest⟩ := bind_ok.mp ran
      obtain ⟨_, _, -, done⟩ := bind_ok.mp rest
      obtain ⟨rfl, -⟩ := pure_ok.mp done
      rfl

/-- A creation refuses a conflict without a write, or the call goes on with the stored operation. -/
theorem applyCreate_settled {result : TransitionResult}
    (ran : applyCreate (createCommand command intent descriptor) s = .ok (result, s')) :
    (∃ answer, settleCreate intent.intentDigest result = .inl answer ∧ s' = s ∧
        answer.disposition = .rejected ∧ answer.reasonCode = "intent_conflict") ∨
      ∃ operation, settleCreate intent.intentDigest result = .inr operation ∧
        s'.operation? command.ids.operationId = some operation ∧
        operation.intent.intentDigest = intent.intentDigest := by
  have made := ran
  rw [applyCreate_eq, creation] at made
  cases found : s.operation? command.ids.operationId with
  | some existing =>
    rw [found] at made
    cases made
    by_cases same : existing.intent.intentDigest = intent.intentDigest
    · exact .inr ⟨existing, settle_found.trans (if_pos same), found, same⟩
    · exact .inl ⟨_, settle_found.trans (if_neg same), rfl, rfl, rfl⟩
  | none =>
    rw [found] at made
    dsimp only at made
    split at made
    · cases made
      exact .inl ⟨_, rfl, rfl, rfl, rfl⟩
    · obtain ⟨created, applied⟩ | ⟨-, refused⟩ := applyCreate_cases ran
      · have named := applyCreate_operation ran applied
        refine .inr ⟨submittedOperation command intent descriptor, ?_, ?_, rfl⟩
        · unfold settleCreate
          simp [named, applied, createCommand]
        · exact (find?_insert created.operations _).trans (if_pos rfl)
      · unfold insertCreated at made
        obtain ⟨_, _, -, rest⟩ := bind_ok.mp made
        obtain ⟨_, _, -, done⟩ := bind_ok.mp rest
        obtain ⟨rfl, -⟩ := pure_ok.mp done
        exact absurd rfl refused

/-- A creation that raises has found no operation. -/
theorem applyCreate_raised {e : Raised}
    (raised : applyCreate (createCommand command intent descriptor) s = .error e) :
    existingOperation (submittedOperation command intent descriptor) s = none := by
  rw [applyCreate_eq, creation] at raised
  unfold existingOperation
  dsimp only [submittedOperation]
  cases found : s.operation? command.ids.operationId with
  | some existing =>
    rw [found] at raised
    cases raised
  | none =>
    rw [found] at raised
    dsimp only at raised ⊢
    split at raised
    · cases raised
    · assumption

/-! ## The policy step -/

/-- The transition for what the engine says. -/
def policyKind : PolicyVerdict → TransitionKind
  | .allow => .policyAllow
  | .deny => .policyDeny
  | .requireApproval => .policyRequireApproval

theorem policyKind_edge (verdict : PolicyVerdict) :
    (policyKind verdict).edge.1 = some .pendingPolicy ∧
      (policyKind verdict).edge.2 ≠ .pendingPolicy := by
  cases verdict <;> decide

theorem policyCommand_kind {evaluation : PolicyEvaluation} {now : UtcTimestamp} :
    (policyCommand command operation evaluation now).kind = policyKind evaluation.verdict := by
  unfold OperationCommand.kind policyCommand policyBody
  cases evaluation.verdict <;> rfl

/-- The policy step changes nothing, or takes the operation out of PENDING_POLICY for good. -/
theorem applyPolicy_stops (stored : s.operation? operation.operationId = some operation)
    (member : s' ∈ stops answers (applyPolicy runtime command operation) n s) :
    s' = s ∨ s' = (alone answers (applyPolicy runtime command operation) n s).state ∧
      ∃ moved, s'.operation? operation.operationId = some moved ∧
        moved.state ≠ .pendingPolicy ∧ moved.intent = operation.intent := by
  unfold applyPolicy at member ⊢
  split at member
  · exact .inl (by simpa using member)
  next pending =>
  rw [if_neg pending]
  cases described : runtime.registry.descriptor operation.intent.effect with
  | error e =>
    rw [described] at member
    exact .inl (by simpa using member)
  | ok descriptor =>
    rw [described] at member
    rw [Service.lift_ok_bind] at member ⊢
    cases answered : runtime.policyEngine
        (policyInputs operation descriptor command.deploymentEnvironment) with
    | error e =>
      simp only [answered] at member
      exact .inl (by simpa using member)
    | ok evaluation =>
      simp only [answered] at member ⊢
      unfold persistPolicy at member ⊢
      rw [Service.now_bind] at member ⊢
      rw [stops_ask] at member
      rw [alone_ask]
      unfold Service.submit Prog.commit at member ⊢
      rw [transact_bind] at member ⊢
      rw [stops_transact] at member
      rw [alone_transact]
      generalize answers n Query.now = now at member ⊢
      cases ran : Transitions.apply (.operation (policyCommand command operation evaluation now)) s
        with
      | error e =>
        rw [execute_error.mpr ⟨rfl, ran⟩] at member
        left
        rcases List.mem_cons.mp member with same | ended
        · exact same
        · exact List.mem_singleton.mp ended
      | ok done =>
        obtain ⟨result, s₁⟩ := done
        rw [execute_ok.mpr ran] at member ⊢
        rcases List.mem_cons.mp member with same | ended
        · exact .inl same
        · obtain rfl : s' = s₁ := List.mem_singleton.mp ended
          obtain ⟨loaded, made, -⟩ | ⟨_, same, -⟩ | ⟨_, same, -⟩ := applyOperation_cases ran
          · have found := made.found
            rw [show (policyCommand command operation evaluation now).operationId =
              operation.operationId from rfl, stored, Option.some.injEq] at found
            subst found
            have target : (movedOperation (policyCommand command operation evaluation now)
                operation).state ≠ .pendingPolicy := by
              change (policyCommand command operation evaluation now).kind.edge.2 ≠ _
              rw [policyCommand_kind]
              exact (policyKind_edge _).2
            refine .inr ⟨rfl, _, ?_, target, rfl⟩
            rw [operation?_replace_stepped made.found made.operations]
            exact if_pos rfl
          · exact .inl same
          · exact .inl same

theorem applyPolicy_past (past : operation.state ≠ .pendingPolicy) :
    alone answers (applyPolicy runtime command operation) n s =
      ⟨n, s, .ok (makeResult .accepted "already_applied" (some operation))⟩ := by
  unfold applyPolicy
  rw [if_pos past, alone_pure]

theorem applyPolicy_congr (clock : answers n .now = answers' n .now) :
    alone answers (applyPolicy runtime command operation) n s =
      alone answers' (applyPolicy runtime command operation) n s := by
  unfold applyPolicy
  split
  · rfl
  cases runtime.registry.descriptor operation.intent.effect with
  | error e => rfl
  | ok descriptor =>
    rw [Service.lift_ok_bind]
    split
    · rfl
    next evaluation _ =>
      unfold persistPolicy
      rw [Service.now_bind, alone_ask, alone_ask, clock]
      unfold Service.submit Prog.commit
      rw [transact_bind, alone_transact, alone_transact]
      generalize answers' n Query.now = now
      cases (execute (Transitions.apply
        (.operation (policyCommand command operation evaluation now))) s).2 <;> rfl

/-! ## Repeating a submission -/

/-- The call gets as far as creating its operation. -/
structure Creates (runtime : SynchronousRuntime) (command : SubmitCommand)
    (requestedAt : UtcTimestamp) (descriptor : EffectDescriptor) (intent : IntentEnvelope) :
    Prop where
  described : runtime.registry.descriptor command.effect = .ok descriptor
  mutating : descriptor.mutability ≠ .readOnly
  intended : runtime.intentOf command requestedAt = .ok intent
  validated : runtime.validateExecution command.request = none

theorem Creates.again {requestedAt : UtcTimestamp} (later : UtcTimestamp)
    (creates : Creates runtime command requestedAt descriptor intent) :
    Creates runtime command later descriptor { intent with requestedAt := later } :=
  ⟨creates.described, creates.mutating, intentOf_at later creates.intended, creates.validated⟩

theorem Creates.effect {requestedAt : UtcTimestamp}
    (creates : Creates runtime command requestedAt descriptor intent) :
    intent.effect = command.effect :=
  congrArg IntentInput.effect (intentOf_input creates.intended).1

/-- What is left of a call once its intent is made. -/
def submitCreated (runtime : SynchronousRuntime) (command : SubmitCommand)
    (descriptor : EffectDescriptor) (intent : IntentEnvelope) : Service RuntimeResult := do
  let ended ← Service.trySubmit (.create (createCommand command intent descriptor))
  afterCreate runtime command (submittedOperation command intent descriptor) ended

theorem Creates.alone_eq (creates : Creates runtime command (answers n .now) descriptor intent) :
    alone answers (submitOperation runtime command) n s =
      alone answers (submitCreated runtime command descriptor intent) (n + 1) s := by
  unfold submitOperation
  rw [creates.described]
  simp only [if_neg creates.mutating, Service.now_bind, alone_ask, creates.intended,
    creates.validated]
  rfl

theorem Creates.stops_eq (creates : Creates runtime command (answers n .now) descriptor intent) :
    stops answers (submitOperation runtime command) n s =
      stops answers (submitCreated runtime command descriptor intent) (n + 1) s := by
  unfold submitOperation
  rw [creates.described]
  simp only [if_neg creates.mutating, Service.now_bind, stops_ask, creates.intended,
    creates.validated]
  rfl

variable (runtime command answers n s) in
/-- Any other call writes nothing. -/
theorem creates_or_idle :
    (∃ descriptor intent, Creates runtime command (answers n .now) descriptor intent) ∨
      stops answers (submitOperation runtime command) n s = [s] := by
  unfold submitOperation
  cases described : runtime.registry.descriptor command.effect with
  | error e => exact .inr rfl
  | ok descriptor =>
    dsimp only
    split
    · exact .inr rfl
    next mutating =>
    rw [Service.now_bind, stops_ask]
    cases intended : runtime.intentOf command (answers n .now) with
    | error e => cases e <;> exact .inr rfl
    | ok intent =>
      cases validated : runtime.validateExecution command.request with
      | some error => exact .inr rfl
      | none => exact .inl ⟨descriptor, intent, described, mutating, intended, validated⟩

theorem afterCreate_raised {e : Raised} (absent : existingOperation operation s = none)
    (member : s' ∈ stops answers (afterCreate runtime command operation (.error e)) n s) :
    s' = s := by
  cases e with
  | duplicateKeyError reasonCode =>
    unfold afterCreate Service.load Service.uow Prog.commit at member
    dsimp only at member
    rw [transact_bind, stops_transact] at member
    simp only [execute, absent] at member
    rcases List.mem_cons.mp member with same | ended
    · exact same
    · exact List.mem_singleton.mp ended
  | _ => exact List.mem_singleton.mp member

/-- A call that finds its operation goes on with it. -/
theorem alone_submit_found (creates : Creates runtime command (answers n .now) descriptor intent)
    (found : s.operation? command.ids.operationId = some existing)
    (same : existing.intent.intentDigest = intent.intentDigest) :
    alone answers (submitOperation runtime command) n s =
      alone answers (applyPolicy runtime command existing) (n + 1) s := by
  have ran : Transitions.apply (.create (createCommand command intent descriptor)) s =
      .ok (foundAnswer existing intent.intentDigest, s) := applyCreate_found found
  rw [creates.alone_eq, submitCreated, Service.trySubmit, attempt_bind, alone_transact,
    execute_ok.mpr ran]
  have settled : settleCreate intent.intentDigest (foundAnswer existing intent.intentDigest) =
      .inr existing := settle_found.trans (if_pos same)
  unfold afterCreate
  dsimp only [submittedOperation]
  rw [settled]
  rfl

/-- Wherever a call stops once it has written something, the call that repeats it leaves the journal
that the first one would have left. -/
theorem submit_restarts (clock : answers 1 .now = answers' 1 .now)
    (member : s' ∈ stops answers (submitOperation runtime command) 0 s) (moved : s' ≠ s) :
    (alone answers' (submitOperation runtime command) 0 s').state =
      (alone answers (submitOperation runtime command) 0 s).state := by
  obtain ⟨descriptor, intent, creates⟩ | idle := creates_or_idle runtime command s 0 answers
  · have again := creates.again (answers' 0 .now)
    rw [creates.stops_eq, submitCreated, Service.trySubmit, attempt_bind, stops_transact] at member
    rw [creates.alone_eq, submitCreated, Service.trySubmit, attempt_bind, alone_transact]
    cases ran : Transitions.apply (.create (createCommand command intent descriptor)) s with
    | error e =>
      rw [execute_error.mpr ⟨rfl, ran⟩] at member
      rcases List.mem_cons.mp member with same | later
      · exact absurd same moved
      · exact absurd (afterCreate_raised (applyCreate_raised ran) later) moved
    | ok done =>
      obtain ⟨result, created⟩ := done
      rw [execute_ok.mpr ran] at member ⊢
      have later := (List.mem_cons.mp member).resolve_left moved
      unfold afterCreate at later ⊢
      dsimp only [submittedOperation] at later ⊢
      obtain ⟨answer, settled, same, -⟩ | ⟨operation, settled, found, digest⟩ :=
        applyCreate_settled ran
      · rw [settled] at later
        exact absurd ((List.mem_singleton.mp later).trans same) moved
      · rw [settled] at later ⊢
        have key : operation.operationId = command.ids.operationId := (find?_some found).2
        rcases applyPolicy_stops (key ▸ found) later with same | ⟨final, stepped, at_, past, kept⟩
        · rw [same, alone_submit_found again found digest]
          exact congrArg _ (applyPolicy_congr clock).symm
        · rw [key] at at_
          rw [alone_submit_found again at_ (by rw [kept, digest]), applyPolicy_past past]
          exact final
  · rw [idle] at member
    exact absurd (List.mem_singleton.mp member) moved

/-! ## A process that stops before the policy step -/

def sampleSubmit : SubmitCommand where
  effect := ⟨"mail", "send", "1"⟩
  arguments := .object [("to", .str "ops")]
  requester := Invariants.sampleRequester
  metadata := []
  ids := Application.submitIds idOf
    (Application.requestIdentity Invariants.sampleRequester "1")
  correlationId := none
  deploymentEnvironment := "production"
  canonical := ⟨by decide, trivial, trivial⟩

/-- SHA-256 of the two texts that are hashed for the sample, told apart by their lengths. -/
def sampleSha256 (bytes : List UInt8) : String :=
  if bytes.length = 73 then "40dbe7f1f3eff669981d71058a41deb909700fab1822e99098416f1035bb438b"
  else "4e5317f7e7691bb58d9306d013427e60e01fec07011f4661b133ccea46ca8e9b"

def sampleRule : PolicyRule where
  ruleId := "agents-mail"
  verdict := .allow
  obligations := phase5DefaultObligations
  explanation := none
  providers := ["mail"]
  actions := []
  versions := []
  riskLevels := [.low]
  requesterTypes := [.agent]
  deploymentEnvironments := ["production"]
  named := by decide

def sampleEngine : RulePolicyEngine :=
  ⟨"rules.v1", [sampleRule], phase5DefaultObligations, by decide, by decide⟩

def sampleRuntime : SynchronousRuntime where
  registry := sampleRegistry
  validateExecution _ := none
  policyEngine := sampleEngine.evaluate String.toLower
  lower := String.toLower
  sha256 := sampleSha256
  digits := 4300

/-- The second reading is the same for both calls. -/
def submitAnswers (first : Int) (n : Nat) : (query : Query) → Answer query
  | .now => if n = 0 then ⟨first⟩ else ⟨6⟩
  | .execute .. => .raisedOther "TimeoutError"
  | .verify .. => .raisedOther "TimeoutError"
  | .compensate .. => .raisedOther "TimeoutError"

theorem submit_restarts_created :
    ∃ s' ∈ stops (submitAnswers 4) (submitOperation sampleRuntime sampleSubmit) 0 .empty,
      s'.operations.rows.map (·.state) = [.pendingPolicy] ∧
      (alone (submitAnswers 5) (submitOperation sampleRuntime sampleSubmit) 0 s').state =
        (alone (submitAnswers 4) (submitOperation sampleRuntime sampleSubmit) 0 .empty).state := by
  have created : (stops (submitAnswers 4) (submitOperation sampleRuntime sampleSubmit) 0
      .empty).any (fun s' => decide (s'.operations.rows.map (·.state) = [.pendingPolicy])) =
        true := by
    decide +kernel
  obtain ⟨s', member, pending⟩ := List.any_eq_true.mp created
  have pending := of_decide_eq_true pending
  have moved : s' ≠ .empty := by
    rintro rfl
    cases pending
  exact ⟨s', member, pending, submit_restarts rfl member moved⟩

end Stateback.Runtime
