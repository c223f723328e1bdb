import Stateback.Concurrency.Rules
import Stateback.Invariants.Approvals
import Stateback.Invariants.Submissions
/-!
# Submissions next to each other

Any number of submissions over one journal, next to everybody else who writes it, with a crash
between any two steps.  An operation executes under a rule of the policy engine that says so, and
a submission that is accepted has its own request decided.
-/

namespace Stateback.Concurrency

open Domain Persistence Transitions Providers Policy Stateback.Runtime Process Transaction
open KeyedTable KeyedTable.Table Invariants

variable {uuid5 : String → OpaqueId} {asked : SubmitCommand → Prop} {runtime : SynchronousRuntime}
  {granted : Domain.Approval → Prop} {s s' last : Store} {command : SubmitCommand}
  {intent : IntentEnvelope} {operation : Operation} {α : Type}

/-! ## The contract -/

/-- Every operation stays what it was asked to be. -/
def AllStay (s s' : Store) : Prop :=
  ∀ operationId operation, s.operation? operationId = some operation →
    ∃ later, s'.operation? operationId = some later ∧ OperationStays operation later

def submissionContract (uuid5 : String → OpaqueId) (asked : SubmitCommand → Prop)
    (runtime : SynchronousRuntime) (granted : Domain.Approval → Prop) : Contract Store where
  inv s := Reachable uuid5 s ∧ Submissions asked runtime granted s
  rely := AllStay
  guar s s' := ∃ actions, run uuid5 s actions = s' ∧
    Stepwise uuid5 (Sanctioned asked runtime granted) s actions

theorem submissionContract_sound : (submissionContract uuid5 asked runtime granted).Sound where
  preorder :=
    { refl := fun _ _ operation found => ⟨operation, found, .refl operation⟩
      trans := by
        intro _ _ _ first second operationId operation found
        obtain ⟨middle, there, stays⟩ := first operationId operation found
        obtain ⟨later, at_, stays'⟩ := second operationId middle there
        exact ⟨later, at_, stays.trans stays'⟩ }
  read _ := ⟨[], rfl, trivial⟩
  kept := by
    rintro s _ ⟨⟨earlier, rfl⟩, submissions⟩ ⟨actions, rfl, sanctioned⟩
    refine ⟨⟨⟨earlier ++ actions, run_append ..⟩, submissions_run submissions sanctioned⟩, ?_⟩
    exact fun operationId operation found => operationStays_run actions found

/-- Whatever the others do, the program writes what submissions write, and `P` holds of what it
returns. -/
abbrev Submits (uuid5 : String → OpaqueId) (asked : SubmitCommand → Prop)
    (runtime : SynchronousRuntime) (granted : Domain.Approval → Prop) (P : α → Store → Prop)
    (program : Service α) (last : Store) : Prop :=
  Assures (submissionContract uuid5 asked runtime granted) AnyAnswer (Returning P) program last

theorem guar_sanctioned {command : TransitionCommand} {result : TransitionResult}
    (ran : Transitions.apply command s = .ok (result, s'))
    (sanctioned : Sanctioned asked runtime granted s (.transition command)) :
    (submissionContract uuid5 asked runtime granted).guar s s' :=
  ⟨[.transition command], act_transition ran, sanctioned, trivial⟩

/-! ## The policy step -/

/-- The operation is stored, as it was read or later. -/
def Stored (s : Store) (operation : Operation) : Prop :=
  ∃ row, s.operation? operation.operationId = some row ∧ OperationStays operation row

theorem stored_of_found {operationId : OpaqueId}
    (found : s.operation? operationId = some operation) : Stored s operation :=
  ⟨operation, find?_of_mem (find?_some found).1, .refl operation⟩

theorem Stored.later (stored : Stored s operation) (stay : AllStay s s') :
    Stored s' operation := by
  obtain ⟨row, found, stays⟩ := stored
  obtain ⟨later, at_, stays'⟩ := stay _ row found
  exact ⟨later, at_, stays.trans stays'⟩

/-- The answer names the operation as it was asked for, decided if the answer is ACCEPTED. -/
structure Decided (operation : Operation) (reply : RuntimeResult) (s : Store) : Prop where
  stored : Stored s operation
  named : ∀ named, reply.operation = some named →
    named.operationId = operation.operationId ∧ named.intent = operation.intent
  accepted : reply.disposition = .accepted → reply.operation ≠ none ∧
    ∃ row, s.operation? operation.operationId = some row ∧ row.state ≠ .pendingPolicy

theorem decided_of_read {disposition : RuntimeDisposition} {reasonCode : String}
    (stored : Stored s operation) (other : disposition ≠ .accepted) :
    Decided operation (makeResult disposition reasonCode (some operation)) s where
  stored := stored
  named := by
    rintro named ⟨⟩
    exact ⟨rfl, rfl⟩
  accepted accepted := absurd accepted other

/-- The decision a submission stores is what the engine said of the operation it meets. -/
theorem sanctioned_policyCommand {descriptor : EffectDescriptor} {evaluation : PolicyEvaluation}
    {now : UtcTimestamp} (given : asked command)
    (mine : operation.operationId = command.ids.operationId) (stored : Stored s operation)
    (described : runtime.registry.descriptor operation.intent.effect = .ok descriptor)
    (answered : runtime.policyEngine (policyInputs operation descriptor
      command.deploymentEnvironment) = .ok evaluation) :
    Sanctioned asked runtime granted s
      (.transition (.operation (policyCommand command operation evaluation now))) := by
  refine ⟨fun decision carried loaded found version => ?_, fun approval carried => ?_⟩
  case refine_2 =>
    revert carried
    dsimp only [policyCommand]
    unfold policyBody
    cases evaluation.verdict <;> exact nofun
  obtain ⟨row, at_, stays⟩ := stored
  obtain rfl : row = loaded := Option.some.inj (at_.symm.trans found)
  have made : decision = policyDecisionOf command.ids operation evaluation now := by
    revert carried
    dsimp only [policyCommand]
    unfold policyBody
    cases evaluation.verdict <;> exact fun carried => (Option.some.inj carried).symm
  subst made
  refine ⟨command, given, stays.id.trans mine, descriptor, evaluation, ?_, ?_, ?_⟩
  · rw [stays.intent, described]
  · rw [← answered]
    unfold policyInputs policyDecisionOf
    rw [stays.id, stays.intent]
  · unfold policyDecisionOf
    rw [stays.id, stays.intent]

theorem submits_applyPolicy (given : asked command)
    (mine : operation.operationId = command.ids.operationId) (stored : Stored last operation) :
    Submits uuid5 asked runtime granted (Decided operation)
      (applyPolicy runtime command operation) last := by
  have sound : (submissionContract uuid5 asked runtime granted).Sound := submissionContract_sound
  unfold applyPolicy
  split
  next past =>
    refine ⟨stored, ?_, fun _ => ⟨Option.some_ne_none _, ?_⟩⟩
    · rintro named ⟨⟩
      exact ⟨rfl, rfl⟩
    · obtain ⟨row, found, stays⟩ := stored
      exact ⟨row, found, stays.past past⟩
  refine assures_lift (fun _ _ => trivial) fun descriptor described => ?_
  cases answered : runtime.policyEngine (policyInputs operation descriptor
    command.deploymentEnvironment) with
  | error e => exact decided_of_read stored nofun
  | ok evaluation =>
    dsimp only
    unfold persistPolicy
    refine assures_now fun s₁ now _ stay₁ => ?_
    refine assures_commit (fun s₂ result s₃ _ stay₂ ran => ?_) fun _ _ _ _ _ => trivial
    have here : Stored s₂ operation := (stored.later stay₁).later stay₂
    refine ⟨guar_sanctioned ran (sanctioned_policyCommand given mine here described answered),
      fun _ own => ?_⟩
    have target : (policyCommand command operation evaluation now).kind.edge.2 ≠
        .pendingPolicy := by
      rw [policyCommand_kind]
      exact (policyKind_edge _).2
    obtain ⟨row, found, stays⟩ := id here
    have names : (policyAnswer result).operation = result.operation := by
      unfold policyAnswer
      split <;> rfl
    obtain ⟨loaded, made, -, named⟩ | ⟨loaded, rfl, at_, -, state, -, named⟩ |
      ⟨loaded, rfl, at_, refused, named⟩ := applyOperation_cases ran
    · obtain rfl : row = loaded := Option.some.inj (found.symm.trans made.found)
      rw [named] at names
      refine ⟨here.later own, ?_, fun _ => ⟨names ▸ Option.some_ne_none _, ?_⟩⟩
      · intro other same
        obtain rfl := Option.some.inj (names.symm.trans same)
        exact ⟨stays.id, stays.intent⟩
      · refine ⟨movedOperation (policyCommand command operation evaluation now) row, ?_, target⟩
        rw [operation?_replace_stepped made.found made.operations]
        exact if_pos rfl
    · obtain rfl : row = loaded := Option.some.inj (found.symm.trans at_)
      rw [named] at names
      refine ⟨here, ?_, fun _ => ⟨names ▸ Option.some_ne_none _, row, found, state ▸ target⟩⟩
      intro other same
      obtain rfl := Option.some.inj (names.symm.trans same)
      exact ⟨stays.id, stays.intent⟩
    · obtain rfl : row = loaded := Option.some.inj (found.symm.trans at_)
      rw [named] at names
      refine ⟨here, ?_, fun accepted => ?_⟩
      · intro other same
        obtain rfl := Option.some.inj (names.symm.trans same)
        exact ⟨stays.id, stays.intent⟩
      · unfold policyAnswer at accepted
        rw [if_pos refused] at accepted
        cases accepted

/-! ## Submissions -/

/-- The answer refuses, or it names the operation of the submission, which has its intent. -/
inductive Serves (runtime : SynchronousRuntime) (command : SubmitCommand) (reply : RuntimeResult)
    (s : Store) : Prop where
  | refused (unnamed : reply.operation = none ∨ reply.reasonCode = "intent_conflict")
    (other : reply.disposition ≠ .accepted)
  | served {requestedAt : UtcTimestamp} {intent : IntentEnvelope} {operation : Operation}
    (intended : runtime.intentOf command requestedAt = .ok intent)
    (mine : operation.operationId = command.ids.operationId)
    (same : operation.intent.intentDigest = intent.intentDigest)
    (decided : Decided operation reply s)

theorem identity_inj {a b : OpaqueId}
    (same : operationIdempotencyIdentity a = operationIdempotencyIdentity b) : a = b := by
  cases a
  cases b
  simpa [operationIdempotencyIdentity] using same

/-- The operation that a refused insert finds is the one of the submission's own id. -/
theorem existingOperation_found (inv : Submissions asked runtime granted s)
    {descriptor : EffectDescriptor} {existing : Operation}
    (found : existingOperation (submittedOperation command intent descriptor) s = some existing) :
    s.operation? command.ids.operationId = some existing := by
  unfold existingOperation at found
  dsimp only [submittedOperation] at found
  cases at_ : s.operation? command.ids.operationId with
  | some other =>
    rw [at_] at found
    exact found
  | none =>
    rw [at_] at found
    have member := List.mem_of_find?_eq_some found
    have same := List.find?_some found
    have row : s.operation? existing.operationId = some existing := find?_of_mem member
    obtain ⟨_, -, submitted⟩ := inv.operations _ existing row
    have id := identity_inj (submitted.identity.symm.trans (of_decide_eq_true same))
    rw [← id, row] at at_
    cases at_

theorem submits_goOn {requestedAt : UtcTimestamp} (given : asked command)
    (intended : runtime.intentOf command requestedAt = .ok intent)
    (found : last.operation? command.ids.operationId = some operation)
    (same : operation.intent.intentDigest = intent.intentDigest)
    (inv : Reachable uuid5 last ∧ Submissions asked runtime granted last) :
    Submits uuid5 asked runtime granted (Serves runtime command)
      (applyPolicy runtime command operation) last := by
  have mine : operation.operationId = command.ids.operationId := (find?_some found).2
  refine (submits_applyPolicy given mine (stored_of_found found)).mono submissionContract_sound inv
    fun outcome s _ _ decided => ?_
  cases outcome with
  | ok reply => exact .served intended mine same decided
  | error e => trivial

theorem submits_afterCreate {requestedAt : UtcTimestamp} {descriptor : EffectDescriptor}
    (given : asked command)
    (creates : Creates runtime command requestedAt descriptor intent) :
    Submits uuid5 asked runtime granted (Serves runtime command)
      (submitCreated runtime command descriptor intent) last := by
  have sound : (submissionContract uuid5 asked runtime granted).Sound := submissionContract_sound
  refine assures_attempt (fun s result s' _ _ ran => ?_) fun s e _ _ raised => ?_
  · refine ⟨guar_sanctioned ran ⟨command, given, rfl, rfl, requestedAt, descriptor, creates, rfl⟩,
      fun inv' _ => ?_⟩
    unfold afterCreate
    dsimp only [submittedOperation]
    obtain ⟨answer, settled, -, refused, conflict⟩ | ⟨operation, settled, found, same⟩ :=
      applyCreate_settled ran
    · rw [settled]
      refine Serves.refused (.inr conflict) ?_
      rw [refused]
      nofun
    · rw [settled]
      exact submits_goOn given creates.intended found same inv'
  · cases e with
    | duplicateKeyError reasonCode =>
      refine assures_load sound fun s' inv' _ => ?_
      cases found : existingOperation (submittedOperation command intent descriptor) s' with
      | none => trivial
      | some existing =>
        dsimp only
        split
        · exact Serves.refused (.inr rfl) nofun
        next same =>
          exact submits_goOn given creates.intended (existingOperation_found inv'.2 found)
            (not_not.mp same) inv'
    | _ => trivial

/-- Whatever the others do, a submission creates its own operation and decides it by the engine. -/
theorem submits_submitOperation (given : asked command) :
    Submits uuid5 asked runtime granted (Serves runtime command) (submitOperation runtime command)
      last := by
  unfold submitOperation
  cases described : runtime.registry.descriptor command.effect with
  | error e => exact Serves.refused (.inl rfl) nofun
  | ok descriptor =>
    dsimp only
    split
    · exact Serves.refused (.inl rfl) nofun
    next mutating =>
    refine assures_now fun s requestedAt _ _ => ?_
    cases intended : runtime.intentOf command requestedAt with
    | error e =>
      cases e with
      | contract e => exact Serves.refused (.inl rfl) nofun
      | unwritable => trivial
    | ok intent =>
      dsimp only
      cases validated : runtime.validateExecution command.request with
      | some error => exact Serves.refused (.inl rfl) nofun
      | none => exact submits_afterCreate given ⟨described, mutating, intended, validated⟩

/-- A stored operation with the digest of a submission asks for the same. -/
theorem sameRequest_stored {requestedAt : UtcTimestamp} {operationId : OpaqueId}
    (submissions : Submissions asked runtime granted s)
    (apart : ∀ a b, asked a → asked b → Apart runtime.sha256 runtime.digits a.input b.input)
    (given : asked command) (found : s.operation? operationId = some operation)
    (intended : runtime.intentOf command requestedAt = .ok intent)
    (same : operation.intent.intentDigest = intent.intentDigest) :
    SameRequest operation.intent.input command.input := by
  obtain ⟨creator, asks, submitted⟩ := submissions.operations operationId operation found
  obtain ⟨_, _, creates, -⟩ := submitted.creates
  obtain ⟨stored, namesItself⟩ := intentOf_input creates.intended
  obtain ⟨own, namesOwn⟩ := intentOf_input intended
  rw [← own]
  refine sameRequest_of_digest namesItself namesOwn ?_ ?_ ?_ same
  · rw [stored, own]
    exact apart creator command asks given
  · rw [stored]
    exact creator.canonical
  · rw [own]
    exact command.canonical

/-! ## Rules -/

/-- The decision is what a rule of the engine says: the first that matches what was submitted. -/
def RuledBy (engine : RulePolicyEngine) (runtime : SynchronousRuntime)
    (asked : SubmitCommand → Prop) (operation : Operation) (decision : PolicyDecision)
    (rule : PolicyRule) : Prop :=
  ∃ command descriptor, asked command ∧ command.ids.operationId = operation.operationId ∧
    runtime.registry.descriptor operation.intent.effect = .ok descriptor ∧
    operation.riskLevel = descriptor.riskLevel ∧
    engine.Decides rule (policyInputs { operation with version := decision.operationVersion }
      descriptor command.deploymentEnvironment) ∧
    decision.verdict = rule.verdict ∧ decision.obligations = rule.obligations ∧
    decision.policyRevision = engine.revision

/-- A rule allows the operation, alone or together with an approval of its decision. -/
def AllowedByRule (engine : RulePolicyEngine) (runtime : SynchronousRuntime)
    (asked : SubmitCommand → Prop) (s : Store) (operation : Operation) : Prop :=
  ∃ decision rule, DecidedBy s operation decision ∧
    RuledBy engine runtime asked operation decision rule ∧
    (rule.verdict = .allow ∨ rule.verdict = .requireApproval ∧ Approved s operation decision)

theorem allowedByRule {engine : RulePolicyEngine} {lower : String → String}
    (engined : runtime.policyEngine = engine.evaluate lower)
    (submissions : Submissions asked runtime granted s) {operationId : OpaqueId}
    (found : s.operation? operationId = some operation) (authorized : Authorized s operation) :
    AllowedByRule engine runtime asked s operation := by
  obtain ⟨decision, decided, verdict⟩ := authorized
  have member : decision ∈ s.policyDecisions.rows := (find?_some decided.stored).1
  have permitted : decision.verdict ≠ .deny := by
    rcases verdict with allow | ⟨requires, -⟩
    · rw [allow]; nofun
    · rw [requires]; nofun
  obtain ⟨owner, command, at_, given, evaluated⟩ := submissions.decisions decision member
  have key : operation.operationId = operationId := (find?_some found).2
  rw [decided.operationId, key, found, Option.some.injEq] at at_
  subst at_
  obtain ⟨descriptor, evaluation, described, answered, made⟩ := evaluated.answered
  obtain ⟨_, -, submitted⟩ := submissions.operations operationId operation found
  obtain ⟨_, known, creates, risk⟩ := submitted.creates
  obtain rfl : descriptor = known :=
    Except.ok.inj (described.symm.trans (creates.effect ▸ creates.described))
  have verdict' : decision.verdict = evaluation.verdict := by rw [made]; rfl
  rw [engined] at answered
  obtain ⟨rule, decides, same, rfl⟩ := RulePolicyEngine.evaluate_verdict answered
    (verdict' ▸ permitted)
  refine ⟨decision, rule, decided, ⟨command, descriptor, given, evaluated.id.symm, described, risk,
    decides, verdict', ?_, ?_⟩, ?_⟩
  · rw [made]; rfl
  · rw [made]; rfl
  · rw [same, ← verdict']
    exact verdict

/-! ## Runs -/

/-- The action creates no operation and stores no decision. -/
def LeavesPolicy : JournalAction → Prop
  | .transition (.create _) => False
  | .transition (.operation command) => command.body.policyDecision? = none
  | _ => True

inductive SubmissionCall where
  | submit (command : SubmitCommand)
  /-- Anybody else: any actions that leave submissions alone, in one unit of work. -/
  | others (actions : List JournalAction) (leaves : ∀ action ∈ actions, LeavesPolicy action)

/-- What a call runs; only a submission is answered. -/
def SubmissionCall.service (runtime : SynchronousRuntime) (uuid5 : String → OpaqueId) :
    SubmissionCall → Service (Option RuntimeResult)
  | submit command => some <$> submitOperation runtime command
  | others actions _ => Service.uow fun s => .ok (none, run uuid5 s actions)

abbrev SubmissionEvent := Event SubmissionCall (Option RuntimeResult) Purpose Store
  Persistence.Raised Query Answer

abbrev SubmissionConfig := Config (Option RuntimeResult) Purpose Store Persistence.Raised Query
  Answer

/-- The submissions of a run. -/
def Asked (t : List SubmissionEvent) (command : SubmitCommand) : Prop :=
  ∃ pid, .spawned pid (.submit command) ∈ t

/-- The action approves the approval. -/
def Grants (action : JournalAction) (approval : Domain.Approval) : Prop :=
  ∃ command, action = .transition (.operation command) ∧
    command.body.decidedApproval? = some approval ∧ approval.state = .approved

theorem LeavesPolicy.sanctioned {action : JournalAction} (leaves : LeavesPolicy action)
    (grants : ∀ approval, Grants action approval → granted approval) :
    Sanctioned asked runtime granted s action := by
  cases action with
  | transition command =>
    cases command with
    | create command => exact leaves.elim
    | operation command =>
      refine ⟨fun decision carried => ?_, fun approval carried approved =>
        grants approval ⟨command, rfl, carried, approved⟩⟩
      rw [leaves] at carried
      cases carried
    | _ => trivial
  | _ => trivial

theorem stepwise_leaves {actions : List JournalAction}
    (leaves : ∀ action ∈ actions, LeavesPolicy action)
    (grants : ∀ action ∈ actions, ∀ approval, Grants action approval → granted approval) :
    Stepwise uuid5 (Sanctioned asked runtime granted) s actions := by
  induction actions generalizing s with
  | nil => trivial
  | cons action rest ih =>
    refine ⟨(leaves action (by simp)).sanctioned (grants action (by simp)), ih ?_ ?_⟩
    · exact fun other member => leaves other (List.mem_cons_of_mem _ member)
    · exact fun other member => grants other (List.mem_cons_of_mem _ member)

/-- What a call is answered. -/
def CallPromised (runtime : SynchronousRuntime) (call : SubmissionCall)
    (reply : Option RuntimeResult) (s : Store) : Prop :=
  ∀ result, reply = some result → ∃ command, call = .submit command ∧
    Serves runtime command result s

/-- Who grants is left open. -/
def AnyGrant (_ : Domain.Approval) : Prop := True

theorem submits_call (call : SubmissionCall)
    (inv : Reachable uuid5 last ∧ Submissions asked runtime AnyGrant last)
    (given : ∀ command, call = .submit command → asked command) :
    Submits uuid5 asked runtime AnyGrant (CallPromised runtime call) (call.service runtime uuid5)
      last := by
  cases call with
  | submit command =>
    refine Assures.andThen submissionContract_sound inv
      (submits_submitOperation (given command rfl)) fun reply s _ _ promised => ?_
    rintro result same
    exact ⟨command, rfl, Option.some.inj same ▸ promised⟩
  | others actions leaves =>
    refine fun s _ _ => ⟨fun reply s' ran => ?_, fun _ _ => trivial⟩
    cases ran
    refine ⟨⟨actions, rfl, stepwise_leaves leaves fun _ _ _ _ => trivial⟩,
      fun _ _ result same => ?_⟩
    cases same

section Runs

variable {t : List SubmissionEvent} {c : SubmissionConfig}

theorem submissions_of_run (ran : Run (SubmissionCall.service runtime uuid5) .empty t c) :
    Assured (submissionContract uuid5 (Asked t) runtime AnyGrant)
      (fun call => Returning (CallPromised runtime call)) .empty t c.store :=
  ran.assured submissionContract_sound (fun pid call spawned _ inv =>
    submits_call call inv fun _ is => ⟨pid, is ▸ spawned⟩) (fun _ _ _ _ => trivial)
    ⟨⟨[], rfl⟩, .empty⟩

/-- Whatever the submissions, the others and the clock do, and wherever a process crashes: what
executes, and whatever has left the policy behind but to be denied or cancelled, is allowed by a
rule of the engine.  Where no rule matches nothing is allowed. -/
theorem executed_by_rule {engine : RulePolicyEngine} {lower : String → String}
    (engined : runtime.policyEngine = engine.evaluate lower)
    (ran : Run (SubmissionCall.service runtime uuid5) .empty t c) :
    (∀ operationId operation, c.store.operation? operationId = some operation →
      operation.state ∉ unauthorizedStates →
        AllowedByRule engine runtime (Asked t) c.store operation) ∧
    ∀ attempt ∈ c.store.attempts.rows, ∃ operation,
      c.store.operation? attempt.operationId = some operation ∧
        AllowedByRule engine runtime (Asked t) c.store operation := by
  obtain ⟨reachable, submissions⟩ := (submissions_of_run ran).inv
  have journal := authorizedJournal_of_reachable reachable
  constructor
  · intro operationId operation found past
    exact allowedByRule engined submissions found
      (journal.authorized operationId operation found past)
  · intro attempt member
    obtain ⟨operation, found, authorized, -⟩ := journal.attempted attempt member
    exact ⟨operation, found, allowedByRule engined submissions found authorized⟩

/-- Every submission that is accepted finds its own request stored under its id and past the
policy, and is answered with that operation, whoever created it. -/
theorem accepted_serves (ran : Run (SubmissionCall.service runtime uuid5) .empty t c)
    (apart : ∀ a b, Asked t a → Asked t b → Apart runtime.sha256 runtime.digits a.input b.input)
    {pid : Pid} {reply : RuntimeResult} (finished : .finished pid (.ok (some reply)) ∈ t)
    (accepted : reply.disposition = .accepted) :
    ∃ command operation named, .spawned pid (.submit command) ∈ t ∧
      c.store.operation? command.ids.operationId = some operation ∧
      SameRequest operation.intent.input command.input ∧ operation.state ≠ .pendingPolicy ∧
      reply.operation = some named ∧ named.operationId = command.ids.operationId ∧
      named.intent = operation.intent := by
  have assured := submissions_of_run ran
  obtain ⟨call, last, spawned, -, promised, stay⟩ := assured.replies pid _ finished
  obtain ⟨command, rfl, serves⟩ := promised reply rfl
  cases serves with
  | refused _ other => exact absurd accepted other
  | @served requestedAt intent read intended mine same decided =>
    obtain ⟨named, row, found, past⟩ := decided.accepted accepted
    obtain ⟨op, names⟩ := Option.ne_none_iff_exists'.mp named
    obtain ⟨id, asks⟩ := decided.named op names
    obtain ⟨operation, at_, stays⟩ := decided.stored.later stay
    obtain ⟨later, there, kept⟩ := stay _ row found
    obtain rfl : later = operation := Option.some.inj (there.symm.trans at_)
    refine ⟨command, later, op, spawned, mine ▸ at_, ?_, kept.past past, names, id.trans mine,
      asks.trans stays.intent.symm⟩
    exact sameRequest_stored assured.inv.2 apart ⟨pid, spawned⟩ at_ intended
      (by rw [stays.intent, same])

end Runs

/-! ## A submission that is repeated after a crash -/

def submissionTurn (pid : Pid) (call : SubmissionCall) (steps : Nat) :
    List (Choice SubmissionCall Query Answer) :=
  .spawn pid call :: List.replicate steps (.step pid (answersAt 4))

/-- The attempt of a worker that read the operation at this version. -/
def sampleClaimed (version : Int) : JournalAction :=
  .transition (.operation
    { operationId := sampleSubmit.ids.operationId
      expectedVersion := version
      occurredAt := ⟨5⟩
      actor := none
      correlationId := none
      reasonCode := "claim_execution"
      transitionAuditEventId := idOf "audit-executing"
      body := .claimExecution
        { sampleAttempt with operationId := sampleSubmit.ids.operationId } (idOf "audit-attempt") })

theorem sampleClaimed_leaves (version : Int) :
    ∀ action ∈ [sampleClaimed version], LeavesPolicy action := by
  intro action member
  rw [List.mem_singleton.mp member]
  rfl

def resubmittedChoices : List (Choice SubmissionCall Query Answer) :=
  submissionTurn 0 (.submit sampleSubmit) 3 ++ [.crash 0] ++
    submissionTurn 1 (.submit sampleSubmit) 7 ++
    submissionTurn 2 (.others [sampleClaimed 2] (sampleClaimed_leaves 2)) 2

/-- The first process crashes between the creation and the policy. -/
def resubmitted : List SubmissionEvent × SubmissionConfig :=
  replay (SubmissionCall.service sampleRuntime idOf) resubmittedChoices
    (.initial .empty)

theorem resubmitted_run : Run (SubmissionCall.service sampleRuntime idOf) .empty
    resubmitted.1 resubmitted.2 := replay_run _ _

theorem executed_by_rule_resubmitted : ∃ attempt ∈ resubmitted.2.store.attempts.rows,
    ∃ operation, resubmitted.2.store.operation? attempt.operationId = some operation ∧
      AllowedByRule sampleEngine sampleRuntime (Asked resubmitted.1)
        resubmitted.2.store operation := by
  have states : resubmitted.2.store.attempts.rows.map (·.state) = [.started] := by decide +kernel
  obtain ⟨attempt, member, -⟩ : ∃ attempt ∈ resubmitted.2.store.attempts.rows,
      attempt.state = .started := List.mem_map.mp (states ▸ List.mem_singleton_self _)
  exact ⟨attempt, member, (executed_by_rule rfl resubmitted_run).2 attempt member⟩

/-- What a process was answered. -/
def replied? : SubmissionEvent → Option (Pid × RuntimeResult)
  | .finished pid (.ok (some reply)) => some (pid, reply)
  | _ => none

theorem finished_of_replied {t : List SubmissionEvent} {pid : Pid} {reply : RuntimeResult}
    (member : (pid, reply) ∈ t.filterMap replied?) : .finished pid (.ok (some reply)) ∈ t := by
  obtain ⟨event, inside, same⟩ := List.mem_filterMap.mp member
  unfold replied? at same
  split at same
  · cases same
    exact inside
  · cases same

theorem asked_resubmitted {command : SubmitCommand} (asked : Asked resubmitted.1 command) :
    command = sampleSubmit := by
  obtain ⟨pid, spawned⟩ := asked
  have chosen := replay_spawned spawned
  simp only [resubmittedChoices, submissionTurn, List.replicate, List.cons_append,
    List.nil_append, List.mem_cons, List.not_mem_nil, Choice.spawn.injEq, reduceCtorEq,
    SubmissionCall.submit.injEq, false_or, or_false, and_false] at chosen
  rcases chosen with ⟨-, same⟩ | ⟨-, same⟩ <;> exact same

theorem accepted_serves_resubmitted :
    ∃ reply, .finished 1 (.ok (some reply)) ∈ resubmitted.1 ∧ reply.disposition = .accepted ∧
      ∃ command operation named, .spawned 1 (.submit command) ∈ resubmitted.1 ∧
        resubmitted.2.store.operation? command.ids.operationId = some operation ∧
        SameRequest operation.intent.input command.input ∧ operation.state ≠ .pendingPolicy ∧
        reply.operation = some named ∧ named.operationId = command.ids.operationId ∧
        named.intent = operation.intent := by
  have replies : (resubmitted.1.filterMap replied?).map (fun reply => (reply.1,
      reply.2.disposition)) = [(1, .accepted)] := by decide +kernel
  obtain ⟨⟨pid, reply⟩, member, same⟩ : ∃ reply ∈ resubmitted.1.filterMap replied?,
      (reply.1, reply.2.disposition) = (1, .accepted) :=
    List.mem_map.mp (replies ▸ List.mem_singleton_self _)
  obtain ⟨rfl, accepted⟩ := Prod.mk.inj same
  have finished := finished_of_replied member
  refine ⟨reply, finished, accepted, accepted_serves resubmitted_run ?_ finished accepted⟩
  intro a b asked asked'
  rw [asked_resubmitted asked, asked_resubmitted asked']
  exact ⟨fun m m' given given' _ => Option.some.inj (given.symm.trans given'),
    fun m m' given given' _ => Option.some.inj (given.symm.trans given')⟩

end Stateback.Concurrency
