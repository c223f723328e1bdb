import Stateback.Concurrency.Execution
import Stateback.Invariants.Isolation
import Stateback.Invariants.Verdicts
/-!
# Concurrent verification cycles

Any number of cycles on an operation in VERIFYING, each with an answer of its own.  One result
is stored for the pending request.  A cycle that comes too late with the same outcome goes on
with the result it holds, which need not be the stored one.
-/

namespace Stateback.Concurrency

open Domain Persistence Transitions Providers Stateback.Runtime Process Transaction
open KeyedTable KeyedTable.Table Recovery Invariants Compensation

variable {uuid5 : String → OpaqueId} {registry : CapabilityRegistry} {s s' last : Store}
  {given : (query : Query) → Answer query → Prop}

/-! ## What a cycle may rely on -/

/-- The operation is in VERIFYING, for the verification. -/
structure Waits (s : Store) (op : Operation) (verificationId : OpaqueId) : Prop where
  found : s.operation? op.operationId = some op
  verifying : op.state = .verifying
  named : op.latestVerificationId = some verificationId

def HasResult (s : Store) (verificationId : OpaqueId) (result : VerificationResult) : Prop :=
  ∃ request, s.verification? verificationId = some (request, some result)

def verificationsOf (s : Store) (operationId : OpaqueId) : List VerificationRow :=
  s.verifications.select fun row => decide (row.1.operationId = operationId)

/-- An operation leaves VERIFYING only with a result, and what it waits on changes only by that
result. -/
structure Steady (s s' : Store) : Prop where
  later : Later s s'
  answered : ∀ op verificationId, Waits s op verificationId →
    s'.operation? op.operationId = some op ∨ ∃ result, HasResult s' verificationId result
  evidence : ∀ op verificationId, Waits s op verificationId →
    s'.operation? op.operationId = some op →
      s'.attemptsOf op.operationId = s.attemptsOf op.operationId ∧
      ∀ result, HasResult s verificationId result →
        verificationsOf s' op.operationId = verificationsOf s op.operationId

theorem HasResult.later {verificationId : OpaqueId} {result : VerificationResult}
    (stored : HasResult s verificationId result) (later : Later s s') :
    HasResult s' verificationId result := by
  obtain ⟨request, found⟩ := stored
  obtain ⟨row, key⟩ := find?_some found
  have kept := later.final.verifications _ row (by simp)
  exact ⟨request, find?_eq_some_iff.mpr ⟨kept, key⟩⟩

theorem HasResult.unique {verificationId : OpaqueId} {first second : VerificationResult}
    (one : HasResult s verificationId first) (other : HasResult s verificationId second) :
    first = second := by
  obtain ⟨request, found⟩ := one
  obtain ⟨request', found'⟩ := other
  have same := found.symm.trans found'
  simp only [Option.some.injEq, Prod.mk.injEq] at same
  exact same.2

/-- An operation that stands as it was read stood so in between. -/
theorem operation?_between {middle : Store} {op : Operation} (first : Later s middle)
    (second : Later middle s') (before : s.operation? op.operationId = some op)
    (after : s'.operation? op.operationId = some op) :
    middle.operation? op.operationId = some op :=
  ((seen_of_found before).later first).between second after |>.1

theorem Steady.refl (s : Store) : Steady s s where
  later := .refl s
  answered _ _ waits := .inl waits.found
  evidence _ _ _ _ := ⟨rfl, fun _ _ => rfl⟩

theorem Steady.trans {t u : Store} (first : Steady s t) (second : Steady t u) : Steady s u where
  later := first.later.trans second.later
  answered := by
    intro op verificationId waits
    obtain stands | ⟨result, stored⟩ := first.answered op verificationId waits
    · exact second.answered op verificationId ⟨stands, waits.verifying, waits.named⟩
    · exact .inr ⟨result, stored.later second.later⟩
  evidence := by
    intro op verificationId waits after
    have middle := operation?_between first.later second.later waits.found after
    obtain ⟨attempts, verifications⟩ := first.evidence op verificationId waits middle
    obtain ⟨attempts', verifications'⟩ :=
      second.evidence op verificationId ⟨middle, waits.verifying, waits.named⟩ after
    refine ⟨attempts'.trans attempts, fun result stored => ?_⟩
    exact (verifications' result (stored.later first.later)).trans (verifications result stored)

/-- Nothing an operation in VERIFYING waits on is touched. -/
def LeftAlone (s s' : Store) : Prop :=
  ∀ op verificationId, Waits s op verificationId →
    s'.operation? op.operationId = some op ∧
    s'.attemptsOf op.operationId = s.attemptsOf op.operationId ∧
    verificationsOf s' op.operationId = verificationsOf s op.operationId

theorem LeftAlone.refl (s : Store) : LeftAlone s s := fun _ _ waits => ⟨waits.found, rfl, rfl⟩

theorem LeftAlone.steady (alone : LeftAlone s s') (later : Later s s') : Steady s s' where
  later := later
  answered op verificationId waits := .inl (alone op verificationId waits).1
  evidence op verificationId waits _ :=
    ⟨(alone op verificationId waits).2.1, fun _ _ => (alone op verificationId waits).2.2⟩

/-- The rows of an operation are all it waits on. -/
theorem Waits.leftAlone {op : Operation} {verificationId : OpaqueId}
    (waits : Waits s op verificationId)
    (same : rowsOf s' op.operationId = rowsOf s op.operationId) :
    s'.operation? op.operationId = some op ∧
      s'.attemptsOf op.operationId = s.attemptsOf op.operationId ∧
      verificationsOf s' op.operationId = verificationsOf s op.operationId :=
  ⟨(congrArg OperationRows.operation same).trans waits.found,
    congrArg OperationRows.attempts same, congrArg OperationRows.verifications same⟩

/-- A command that moves an operation, with a result if it takes it out of VERIFYING. -/
theorem steady_of_moved {command : OperationCommand} {loaded : Operation}
    (reachable : Reachable uuid5 s) (made : OperationMoved command loaded s s')
    (answered : ∀ verificationId, Waits s loaded verificationId →
      ∃ result, HasResult s verificationId result) : Steady s s' := by
  have taken : JournalStep (.transition (.operation command)) s s' := .moved command loaded rfl made
  have later : Later s s' := .step taken
  have row := operation?_replace_stepped made.found made.operations
  have verifies := verifying_of_reachable reachable _ loaded made.found
  refine ⟨later, fun op verificationId waits => ?_, fun op verificationId waits stands => ?_⟩
  · by_cases mine : command.operationId = op.operationId
    · obtain rfl : loaded = op := Option.some.inj (made.found.symm.trans (mine ▸ waits.found))
      obtain ⟨result, stored⟩ := answered verificationId waits
      exact .inr ⟨result, stored.later later⟩
    · exact .inl ((row _).trans ((if_neg mine).trans waits.found))
  · by_cases mine : command.operationId = op.operationId
    · obtain rfl : loaded = op := Option.some.inj (made.found.symm.trans (mine ▸ waits.found))
      rw [row, if_pos mine, Option.some.injEq] at stands
      have version : loaded.version + 1 = loaded.version := congrArg (·.version) stands
      omega
    · exact ⟨attempts_isolated made (Ne.symm mine),
        fun _ _ => verifications_isolated made verifies (Ne.symm mine)⟩

/-! ## The other writers -/

/-- Neither a result, nor the evidence of an attempt, nor a way out of VERIFYING. -/
def Quiet : JournalAction → Prop
  | .transition (.operation command) => command.kind.edge.1 ≠ some .verifying
  | .transition _ => True
  | .markPublished .. => True
  | .escalate _ => False
  | .recoverCandidate .. => False
  | .persistAttemptEvidence _ => False
  | .persistVerificationResult _ => False

theorem progressing_compensating {loaded : Operation} {compensation : Compensation}
    {command : TransitionCommand} (progressing : Progressing s loaded compensation command) :
    loaded.state = .compensating := by
  cases command with
  | create => exact progressing.elim
  | operation => exact progressing.elim
  | claimCompensation => exact progressing.1.state
  | startCompensationVerification => exact progressing.1.state
  | claimCompensationRetryAttempt => exact progressing.1.state
  | retryCompensationAfterVerification => exact progressing.1.state

theorem leftAlone_of_progress {command : TransitionCommand} {result : TransitionResult}
    (ran : ProgressRan command s s' result) : LeftAlone s s' := by
  obtain ⟨progress, checked, made, -⟩ | ⟨same, -⟩ := ran
  · intro op verificationId waits
    refine waits.leftAlone (rowsOf_progressed checked made fun same => ?_)
    rw [← progressing_operationId checked] at same
    have mine : progress.loaded = op :=
      Option.some.inj (made.found.symm.trans (same ▸ waits.found))
    have state := progressing_compensating checked
    rw [mine, waits.verifying] at state
    cases state
  · exact same ▸ .refl s

theorem leftAlone_of_quiet {action : JournalAction} (reachable : Reachable uuid5 s)
    (quiet : Quiet action) (ran : action.body uuid5 s = .ok ((), s')) : LeftAlone s s' := by
  cases action with
  | transition command =>
    obtain ⟨result, _, ran, ⟨⟩⟩ := bind_ok.mp ran
    cases command with
    | create command =>
      obtain ⟨made, -⟩ | ⟨same, -⟩ := applyCreate_cases ran
      · intro op verificationId waits
        refine waits.leftAlone (rowsOf_created made fun same => ?_)
        have fresh := (insert?_eq_some.mp made.operations).1
        rw [← same, show s.operations.find? _ = _ from waits.found] at fresh
        cases fresh
      · exact same ▸ .refl s
    | operation command =>
      obtain ⟨loaded, made, -⟩ | ⟨_, same, -⟩ | ⟨_, same, -⟩ := applyOperation_cases ran
      · intro op verificationId waits
        have verifies := verifying_of_reachable reachable _ loaded made.found
        have differs : op.operationId ≠ command.operationId := by
          intro same
          obtain rfl : loaded = op := Option.some.inj (made.found.symm.trans (same ▸ waits.found))
          exact quiet (made.source.trans (congrArg some waits.verifying))
        have row := operation?_replace_stepped made.found made.operations op.operationId
        exact ⟨row.trans ((if_neg differs.symm).trans waits.found),
          attempts_isolated made differs, verifications_isolated made verifies differs⟩
      · exact same ▸ .refl s
      · exact same ▸ .refl s
    | claimCompensation => exact leftAlone_of_progress (applyClaimCompensation_ran ran)
    | startCompensationVerification =>
      exact leftAlone_of_progress (applyStartCompensationVerification_ran ran)
    | claimCompensationRetryAttempt =>
      exact leftAlone_of_progress (applyClaimCompensationRetryAttempt_ran ran)
    | retryCompensationAfterVerification =>
      exact leftAlone_of_progress (applyRetryCompensationAfterVerification_ran ran)
  | markPublished eventId publishedAt =>
    obtain same | ⟨row, found, -, same⟩ := OutboxRepository.markPublished_ok ran
    · exact same ▸ .refl s
    · intro op verificationId waits
      subst same
      exact ⟨waits.found, rfl, rfl⟩
  | escalate => exact quiet.elim
  | recoverCandidate => exact quiet.elim
  | persistAttemptEvidence => exact quiet.elim
  | persistVerificationResult => exact quiet.elim

/-! ## Leaving VERIFYING -/

/-- What a provider's answer says, if it makes a result. -/
def answeredOutcome? : CallEnd VerificationEvidence →
    Option (EffectOutcome × Option NormalizedError)
  | .returned evidence => some (evidence.outcome, evidence.error)
  | .raisedUnsupportedEffect _ => none
  | .raisedContractValidation _ => none
  | .raisedOther typeName =>
    let unclassified := evidenceForUnclassifiedException typeName ⟨0⟩ ""
    some (unclassified.1, some unclassified.2.1)

/-- The result says what some answer about the verification said. -/
def AnsweredBy (given : (query : Query) → Answer query → Prop) (verificationId : OpaqueId)
    (result : VerificationResult) : Prop :=
  ∃ context request answer, given (.verify context request) answer ∧
    request.verificationId = verificationId ∧
    answeredOutcome? answer = some (result.outcome, result.error)

/-- A result a cycle may go on with: the stored one, or its own of the same outcome. -/
structure Held (given : (query : Query) → Answer query → Prop) (s : Store)
    (verificationId : OpaqueId) (held : VerificationResult) : Prop where
  stored : ∃ result, HasResult s verificationId result ∧ held.outcome = result.outcome ∧
    (held = result ∨ AnsweredBy given verificationId held)

/-- `decision` is what `reconcile` returns for the result and the stored attempts. -/
def Decides (registry : CapabilityRegistry) (s : Store) (op : Operation)
    (result : VerificationResult) (decision : ReconciliationDecision) : Prop :=
  ∃ descriptor policy, registry.descriptor op.intent.effect = .ok descriptor ∧
    policy? s op = some policy ∧
    decision = reconcile
      ⟨op, s.listAttempts op.operationId, result, descriptor, policy.obligations⟩
      (completedOriginalVerificationCount (s.listVerifications op.operationId))

/-- The commit applies the decision: its action moves the operation, its reason is recorded. -/
structure Applies (decision : ReconciliationDecision) (op : Operation) (before after : Store) :
    Prop where
  moved : (after.operation? op.operationId).map (·.state) =
    some (verifyingActions decision.action).edge.2
  recorded : ∃ events, after.auditEvents.rows = before.auditEvents.rows ++ events ∧
    (∃ event ∈ events, event.eventType = .operationTransitioned) ∧
    ∀ event ∈ events, event.operationId = op.operationId ∧
      event.toState = some (verifyingActions decision.action).edge.2 ∧
      event.reasonCode = decision.reasonCode

/-- The commit applies what `reconcile` returns for the result. -/
def Reconciled (registry : CapabilityRegistry) (before after : Store) (op : Operation)
    (result : VerificationResult) : Prop :=
  ∃ decision, Decides registry before op result decision ∧ Applies decision op before after

theorem applies_of_moved {command : OperationCommand} {loaded : Operation}
    {decision : ReconciliationDecision} (made : OperationMoved command loaded s s')
    (kind : command.kind = verifyingActions decision.action)
    (reason : command.reasonCode = decision.reasonCode) : Applies decision loaded s s' := by
  have key : loaded.operationId = command.operationId := (find?_some made.found).2
  have row := operation?_replace_stepped made.found made.operations loaded.operationId
  constructor
  · rw [row, if_pos key.symm, ← kind]
    rfl
  · refine ⟨_, made.auditEvents, ?_, fun event member => ?_⟩
    · have types := numberEvents_types command loaded.operationId
        (movedOperation command loaded).version (s.nextSequence loaded.operationId)
        (detailEntries command loaded (loadRelated s command loaded) ++
          [(command.transitionAuditEventId, .operationTransitioned, transitionData command)])
      have among : AuditEventType.operationTransitioned ∈
          (auditEventsFor s command loaded (movedOperation command loaded)
            (loadRelated s command loaded)).map (·.eventType) := by
        rw [auditEventsFor, types]
        simp
      exact List.mem_map.mp among
    · obtain ⟨state, told⟩ := numberEvents_told member
      exact ⟨(numberEvents_mem member).1, kind ▸ state, told.trans reason⟩

/-- Whoever takes an operation out of VERIFYING does so by a result it holds. -/
def LeavesHeld (registry : CapabilityRegistry) (given : (query : Query) → Answer query → Prop)
    (s s' : Store) : Prop :=
  ∀ op verificationId moved, Waits s op verificationId →
    s'.operation? op.operationId = some moved → moved.state ≠ .verifying →
      ∃ held, Held given s verificationId held ∧ Reconciled registry s s' op held

def verifyingContract (uuid5 : String → OpaqueId) (registry : CapabilityRegistry)
    (given : (query : Query) → Answer query → Prop) : Contract Store where
  inv := Reachable uuid5
  rely := Steady
  guar s s' := (∃ actions, run uuid5 s actions = s') ∧ Steady s s' ∧ LeavesHeld registry given s s'

theorem leavesHeld_of_operations (same : ∀ op verificationId, Waits s op verificationId →
    s'.operation? op.operationId = some op) : LeavesHeld registry given s s' := by
  intro op verificationId moved waits there left
  obtain rfl : op = moved := Option.some.inj ((same op verificationId waits).symm.trans there)
  exact absurd waits.verifying left

theorem verifyingContract_sound : (verifyingContract uuid5 registry given).Sound where
  preorder := { refl := .refl, trans := fun _ _ _ => .trans }
  read _ := ⟨⟨[], rfl⟩, .refl _, leavesHeld_of_operations fun _ _ waits => waits.found⟩
  kept := by
    rintro _ _ ⟨earlier, rfl⟩ ⟨⟨actions, rfl⟩, steady, -⟩
    exact ⟨⟨earlier ++ actions, run_append ..⟩, steady⟩

/-- Whatever the others do, what the program commits is guaranteed. -/
abbrev Verifies {α : Type} (uuid5 : String → OpaqueId) (registry : CapabilityRegistry)
    (given : (query : Query) → Answer query → Prop) (P : α → Store → Prop)
    (program : Service α) (last : Store) : Prop :=
  Assures (verifyingContract uuid5 registry given) given (Returning P) program last

theorem Held.later {verificationId : OpaqueId} {held : VerificationResult}
    (holds : Held given s verificationId held) (later : Later s s') :
    Held given s' verificationId held := by
  obtain ⟨result, stored, rest⟩ := holds.stored
  exact ⟨result, stored.later later, rest⟩

/-- While the operation stands, what it is reconciled by reads the same. -/
theorem Steady.listed {op : Operation} {verificationId : OpaqueId} {result : VerificationResult}
    (steady : Steady s s') (waits : Waits s op verificationId)
    (stands : s'.operation? op.operationId = some op) (stored : HasResult s verificationId result) :
    s'.listAttempts op.operationId = s.listAttempts op.operationId ∧
      s'.listVerifications op.operationId = s.listVerifications op.operationId := by
  obtain ⟨attempts, verifications⟩ := steady.evidence op verificationId waits stands
  have rows := verifications result stored
  unfold verificationsOf at rows
  rw [Store.listAttempts, attempts, Store.listVerifications, rows]
  exact ⟨rfl, rfl⟩

/-- The commit of a command on the operation as it was read, decided by a held result. -/
theorem guar_reconciled {command : OperationCommand} {result : TransitionResult} {op : Operation}
    {verificationId : OpaqueId} {held : VerificationResult} (inv : Reachable uuid5 s)
    (seen : Seen s op) (about : command.operationId = op.operationId)
    (version : command.expectedVersion = op.version)
    (named : op.latestVerificationId = some verificationId)
    (holds : Held given s verificationId held)
    (decides : s.operation? op.operationId = some op → ∃ decision,
      Decides registry s op held decision ∧ command.kind = verifyingActions decision.action ∧
        command.reasonCode = decision.reasonCode)
    (ran : applyOperation command s = .ok (result, s')) :
    (verifyingContract uuid5 registry given).guar s s' := by
  have acted : act uuid5 s (.transition (.operation command)) = s' :=
    act_transition (show apply (.operation command) s = _ from ran)
  refine ⟨⟨[.transition (.operation command)], acted⟩, ?_⟩
  obtain ⟨loaded, made, -⟩ | ⟨_, same, -⟩ | ⟨_, same, -⟩ := applyOperation_cases ran
  · obtain rfl : loaded = op :=
      seen.current (about ▸ made.found) (made.version.trans version)
    constructor
    · refine steady_of_moved inv made fun other waits => ?_
      obtain rfl : other = verificationId := Option.some.inj (waits.named.symm.trans named)
      obtain ⟨stored, has, -⟩ := holds.stored
      exact ⟨stored, has⟩
    · intro op other moved waits there left
      rw [operation?_replace_stepped made.found made.operations] at there
      split at there
      next mine =>
        obtain rfl : loaded = op := Option.some.inj (made.found.symm.trans (mine ▸ waits.found))
        obtain rfl : other = verificationId := Option.some.inj (waits.named.symm.trans named)
        obtain ⟨decision, decided, kind, reason⟩ := decides (about ▸ made.found)
        exact ⟨held, holds, decision, decided, applies_of_moved made kind reason⟩
      next => exact absurd waits.verifying (Option.some.inj (there.symm.trans waits.found) ▸ left)
  · subst same
    exact (verifyingContract_sound.read inv).2
  · subst same
    exact (verifyingContract_sound.read inv).2

theorem verifies_applyTransition {command : OperationCommand}
    (commits : ∀ s result s', Reachable uuid5 s → Steady last s →
      applyOperation command s = .ok (result, s') →
        (verifyingContract uuid5 registry given).guar s s') :
    Verifies uuid5 registry given Anything (applyTransition command) last := by
  refine assures_attempt (fun s result s' inv seen ran => ?_) fun s e _ _ _ => ?_
  · exact ⟨commits s result s' inv seen ran, fun _ _ => trivial⟩
  · cases e with
    | notFoundError => trivial
    | _ =>
      dsimp only
      split
      · trivial
      · split <;> trivial

theorem verifies_applyVerificationKind {command : RecoveryCommand} {op : Operation}
    {actor : PrincipalRef} {verificationId : OpaqueId} {held : VerificationResult}
    (seen : Seen last op) (verifying : op.state = .verifying)
    (named : op.latestVerificationId = some verificationId)
    (holds : Held given last verificationId held) :
    Verifies uuid5 registry given Anything
      (applyVerificationKind registry command op actor held) last := by
  unfold applyVerificationKind
  refine assures_load verifyingContract_sound fun s₁ inv₁ (later₁ : Steady last s₁) => ?_
  refine assures_loadPolicy verifyingContract_sound (fun _ _ _ => trivial)
    (fun s₂ policy _ (later₂ : Steady s₁ s₂) decides => ?_) inv₁
  refine assures_lift (fun _ _ => trivial) fun descriptor known => ?_
  refine assures_load verifyingContract_sound fun s₃ _ (later₃ : Steady s₂ s₃) => ?_
  refine assures_now fun s₄ occurredAt inv₄ (later₄ : Steady s₃ s₄) => ?_
  have seen₁ := seen.later later₁.later
  have holds₁ := holds.later later₁.later
  refine (verifies_applyTransition fun s₅ result s₆ inv₅ later₅ ran => ?_).andThen
    verifyingContract_sound inv₄ fun applied s _ _ _ => ?_
  · have later₃₅ := later₄.trans later₅
    have later₁₃ := later₂.trans later₃
    have later₁₅ := later₁₃.trans later₃₅
    refine guar_reconciled inv₅ (seen₁.later later₁₅.later) rfl rfl named
      (holds₁.later later₁₅.later) (fun stands => ?_) ran
    -- the operation stands as it was read, so all its evidence does
    have here₁ : Waits s₁ op verificationId :=
      ⟨(seen₁.between later₁₅.later stands).1, verifying, named⟩
    have here₃ : Waits s₃ op verificationId :=
      ⟨operation?_between later₁₃.later later₃₅.later here₁.found stands, verifying, named⟩
    obtain ⟨stored, has, -⟩ := holds₁.stored
    obtain ⟨attempts, -⟩ := later₁₅.listed here₁ stands has
    obtain ⟨-, verifications⟩ := later₃₅.listed here₃ stands (has.later later₁₃.later)
    have still := policy?_later decides (later₃.trans later₃₅).later
    refine ⟨_, ⟨descriptor, policy, known, still, rfl⟩, ?_, ?_⟩
    · rw [attempts, verifications, commandOn, OperationCommand.kind, verificationBody_kind]
    · rw [attempts, verifications]
      rfl
  · cases applied with
    | inr failed => trivial
    | inl result =>
      dsimp only
      split <;> trivial

/-! ## The cycle -/

/-- Storing the result of a request that is still open: its operation waits for it. -/
theorem steady_of_stored {result : VerificationResult} {request : VerificationRequest}
    {op : Operation} (reachable : Reachable uuid5 s) (waits : Waits s op result.verificationId)
    (open_ : s.verification? result.verificationId = some (request, none))
    (later : Later s { s with verifications := s.verifications.replace (request, some result) }) :
    Steady s { s with verifications := s.verifications.replace (request, some result) } := by
  obtain ⟨verificationId, asked, known, named, found, owner, -⟩ :=
    verifying_of_reachable reachable _ op waits.found waits.verifying
  obtain rfl : verificationId = result.verificationId :=
    Option.some.inj (named.symm.trans waits.named)
  obtain rfl : asked = request := by
    have same := found.symm.trans open_
    simp only [Option.some.injEq, Prod.mk.injEq] at same
    exact same.1
  refine ⟨later, fun other _ waits' => .inl waits'.found, fun other vid waits' _ => ⟨rfl, ?_⟩⟩
  rintro stored ⟨request', has⟩
  have written : ResultStored (some result) s.verifications
      (s.verifications.replace (asked, some result)) := ⟨asked, open_, rfl⟩
  refine stored_select written fun result' request same there mine => ?_
  cases same
  have pending := there.symm.trans open_
  simp only [Option.some.injEq, Prod.mk.injEq, and_true] at pending
  rw [pending, owner] at mine
  have same : op = other := Option.some.inj (waits.found.symm.trans (mine ▸ waits'.found))
  subst same
  obtain rfl : vid = result.verificationId :=
    Option.some.inj (waits'.named.symm.trans waits.named)
  rw [open_] at has
  cases has

/-- What a cycle knows of its request: the operation stands as it was read, or has its result. -/
def StandsOr (s : Store) (op : Operation) (verificationId : OpaqueId) : Prop :=
  s.operation? op.operationId = some op ∨ ∃ result, HasResult s verificationId result

theorem StandsOr.later {op : Operation} {verificationId : OpaqueId}
    (stands : StandsOr s op verificationId) (verifying : op.state = .verifying)
    (named : op.latestVerificationId = some verificationId) (steady : Steady s s') :
    StandsOr s' op verificationId := by
  obtain found | ⟨result, stored⟩ := stands
  · exact steady.answered op verificationId ⟨found, verifying, named⟩
  · exact .inr ⟨result, stored.later steady.later⟩

/-- A result that was persisted, or met one of the same outcome, can be gone on with. -/
theorem guar_persisted {result : VerificationResult} {op : Operation} (inv : Reachable uuid5 s)
    (stands : StandsOr s op result.verificationId) (verifying : op.state = .verifying)
    (named : op.latestVerificationId = some result.verificationId)
    (answered : AnsweredBy given result.verificationId result)
    (ran : persistVerificationResult result s = .ok ((), s')) :
    (verifyingContract uuid5 registry given).guar s s' ∧
      Held given s' result.verificationId result := by
  have body : (JournalAction.persistVerificationResult result).body uuid5 s = .ok ((), s') := ran
  have acted : act uuid5 s (.persistVerificationResult result) = s' := by
    rw [act, execute_ok.mpr body]
  have step : JournalStep (.persistVerificationResult result) s s' :=
    persistVerificationResult_step ran
  have later : Later s s' := .step step
  unfold persistVerificationResult at ran
  split at ran
  · cases ran
  next request existing found =>
    split at ran
    next same =>
      cases ran
      exact ⟨verifyingContract_sound.read inv,
        ⟨existing, ⟨request, found⟩, same.symm, .inr answered⟩⟩
    · cases ran
  next request open_ =>
    obtain ⟨_, found, rfl⟩ := VerificationRepository.complete_ok ran
    obtain rfl := congrArg Prod.fst (Option.some.inj (open_.symm.trans found))
    have here : s.operation? op.operationId = some op := by
      obtain here | ⟨stored, request', has⟩ := stands
      · exact here
      · rw [open_] at has
        cases has
    refine ⟨⟨⟨[_], acted⟩, steady_of_stored inv ⟨here, verifying, named⟩ open_ later,
      leavesHeld_of_operations fun _ _ waits => waits.found⟩, ⟨result, ?_, rfl, .inl rfl⟩⟩
    exact ⟨request, verification?_replaced open_⟩

theorem verifies_verifyOriginal {command : RecoveryCommand} {op : Operation}
    {request : VerificationRequest} (inv : Reachable uuid5 last) :
    Verifies uuid5 registry given
      (fun result _ => result.verificationId = request.verificationId ∧
        AnsweredBy given request.verificationId result)
      (verifyOriginal registry command op request) last := by
  unfold verifyOriginal
  refine (assures_attemptForRequest verifyingContract_sound).andThen verifyingContract_sound inv
    fun attempt s₁ _ _ _ => ?_
  refine assures_lift (fun _ _ => trivial) fun adapter _ => ?_
  refine assures_lift (fun _ _ => trivial) fun context _ => ?_
  refine assures_lift (fun _ _ => trivial) fun verifyRequest registered => ?_
  refine assures_question fun s₂ answer inv₂ _ answered => ?_
  have about : verifyRequest.verificationId = request.verificationId := by
    unfold requestWithRegisteredEffect at registered
    split at registered <;> cases registered
    rfl
  refine Assures.andThen verifyingContract_sound inv₂ (P := fun evidence _ =>
      answeredOutcome? answer = some (evidence.outcome, evidence.error))
    (assures_verificationEvidence ?_ ?_) fun evidence s₃ _ _ told => ?_
  · rintro evidence rfl
    rfl
  · rintro typeName s observedAt rfl
    rfl
  · exact assures_now fun s₄ _ _ _ =>
      ⟨rfl, context, verifyRequest, answer, answered, about, told⟩

theorem verifies_persistFailed {op : Operation} {e : Raised} :
    Verifies uuid5 registry given Anything (persistFailed op e) last := by
  unfold persistFailed
  split
  · split <;> trivial
  · trivial

theorem verifies_settleVerification {command : RecoveryCommand} {op : Operation}
    {actor : PrincipalRef} {row : VerificationRow} {verificationId : OpaqueId}
    (inv : Reachable uuid5 last) (seen : Seen last op)
    (stands : StandsOr last op verificationId) (verifying : op.state = .verifying)
    (named : op.latestVerificationId = some verificationId)
    (found : last.verification? verificationId = some row) :
    Verifies uuid5 registry given Anything (settleVerification registry command op actor row)
      last := by
  obtain ⟨request, existing⟩ := row
  have key : request.verificationId = verificationId := (find?_some found).2
  unfold settleVerification
  dsimp only
  split
  · trivial
  cases existing with
  | some result =>
    exact verifies_applyVerificationKind seen verifying named
      ⟨result, ⟨request, found⟩, rfl, .inl rfl⟩
  | none =>
    refine (verifies_verifyOriginal inv).andThen verifyingContract_sound inv
      fun result s₁ inv₁ (later₁ : Steady last s₁) answers => ?_
    obtain ⟨about, answered⟩ := answers
    subst key
    rw [← about] at stands named answered
    refine assures_attempt (fun s _ s' inv (later₂ : Steady s₁ s) ran => ?_)
      fun _ _ _ _ _ => verifies_persistFailed
    have later := later₁.trans later₂
    obtain ⟨guar, holds⟩ : (verifyingContract uuid5 registry given).guar s s' ∧
        Held given s' result.verificationId result :=
      guar_persisted inv (stands.later verifying named later) verifying named answered ran
    refine ⟨guar, fun _ (own : Steady s s') => ?_⟩
    exact verifies_applyVerificationKind (seen.later (later.trans own).later) verifying named holds

theorem verifies_runVerifyingCycle {command : RecoveryCommand} {op : Operation}
    {actor : PrincipalRef} (found : last.operation? op.operationId = some op) :
    Verifies uuid5 registry given Anything (runVerifyingCycle registry command op actor)
      last := by
  unfold runVerifyingCycle
  split
  · trivial
  next verifying =>
  have verifying := not_not.mp verifying
  cases named : op.latestVerificationId with
  | none => trivial
  | some verificationId =>
    refine assures_load verifyingContract_sound fun s inv (later : Steady last s) => ?_
    cases row : s.verification? verificationId with
    | none => trivial
    | some row_ =>
      exact verifies_settleVerification inv ((seen_of_found found).later later.later)
        (StandsOr.later (.inl found) verifying named later) verifying named row

/-! ## Calls -/

inductive VerifyingCall where
  | cycle (command : RecoveryCommand)
  /-- Any other writer, on this operation or another, that leaves VERIFYING alone. -/
  | journal (action : JournalAction) (quiet : Quiet action)

/-- A cycle starts from the operation it finds. -/
def VerifyingCall.service (registry : CapabilityRegistry) (uuid5 : String → OpaqueId) :
    VerifyingCall → Service Unit
  | cycle command => do
    let op ← loadOperation command.operationId
    let _result ← runVerifyingCycle registry command op (command.actor.getD recoveryActor)
    pure ()
  | journal action _ => Service.uow (action.body uuid5)

theorem verifies_call (call : VerifyingCall) :
    Verifies uuid5 registry given Anything (call.service registry uuid5) last := by
  cases call with
  | cycle command =>
    refine assures_loadOperation verifyingContract_sound (fun _ _ _ => trivial)
      fun s op inv _ found => ?_
    have key : op.operationId = command.operationId := (find?_some found).2
    refine (verifies_runVerifyingCycle (key ▸ found)).andThen verifyingContract_sound inv ?_
    exact fun _ _ _ _ _ => trivial
  | journal action quiet =>
    refine fun s inv _ => ⟨fun a s' ran => ⟨?_, fun _ _ => trivial⟩, fun _ _ => trivial⟩
    have acted : act uuid5 s action = s' := congrArg Prod.fst (execute_ok.mpr ran)
    have alone := leftAlone_of_quiet inv quiet ran
    exact ⟨⟨[action], acted⟩, alone.steady (.step (JournalAction.body_step ran)),
      leavesHeld_of_operations fun op verificationId waits => (alone op verificationId waits).1⟩

/-! ## Runs -/

abbrev VerifyingEvent := Event VerifyingCall Unit Purpose Store Raised Query Answer

abbrev VerifyingConfig := Config Unit Purpose Store Raised Query Answer

/-- What `reconcile` tells apart of an UNKNOWN result. -/
inductive UnclearCause where
  | unsupported
  | inconsistent
  | transport
  | visibilityWindow
  | malformed
  | inconclusive
deriving DecidableEq, Repr

/-- By the error's code first, then by its kind. -/
def unclearCause (error : Option NormalizedError) : UnclearCause :=
  let code := (error.map (·.code)).getD ""
  let kind : Option ErrorKind := error.map (·.kind)
  if kind = some .unsupportedCapability then .unsupported
  else if code = "ref.verify.inconsistent" then .inconsistent
  else if code = "ref.verify.transport" then .transport
  else if code = "ref.verify.visibility_window" then .visibilityWindow
  else if code = "ref.verify.malformed" then .malformed
  else if code = "ref.verify.inconclusive" then .inconclusive
  else if kind = some .malformedProviderResponse then .malformed
  else if kind = some .transientTransport then .transport
  else .inconclusive

namespace UnclearCause

/-- The causes that go to an operator whatever the budget. -/
def escalates : UnclearCause → Bool
  | unsupported | inconsistent => true
  | transport | visibilityWindow | malformed | inconclusive => false

/-- What becomes of an UNKNOWN result, with and without budget left. -/
def decision (exhausted : Bool) : UnclearCause → ReconciliationDecision
  | unsupported => ⟨.requireManualIntervention, "verification_unsupported"⟩
  | inconsistent => ⟨.requireManualIntervention, "verification_inconsistent"⟩
  | transport => waiting exhausted "verification_transport"
  | visibilityWindow => waiting exhausted "verification_visibility_window"
  | malformed => waiting exhausted "verification_malformed"
  | inconclusive => waiting exhausted "verification_inconclusive"
where
  waiting (exhausted : Bool) (reason : String) : ReconciliationDecision :=
    if exhausted then ⟨.requireManualIntervention, "recovery_budget_exhausted"⟩
    else ⟨.remainUnknown, reason⟩

theorem decision_exhausted {cause other : UnclearCause} (calm : cause.escalates = false)
    (calm' : other.escalates = false) : cause.decision true = other.decision true := by
  have exhausted : ∀ cause : UnclearCause, cause.escalates = false →
      cause.decision true = ⟨.requireManualIntervention, "recovery_budget_exhausted"⟩ := by
    intro cause calm
    cases cause <;> first | rfl | cases calm
  rw [exhausted cause calm, exhausted other calm']

end UnclearCause

theorem reconcile_unknown {op : Operation} {attempts : List ExecutionAttempt}
    {result : VerificationResult} {descriptor : EffectDescriptor}
    {obligations : PolicyObligations} {count : Nat} (unknown : result.outcome = .unknown) :
    reconcile ⟨op, attempts, result, descriptor, obligations⟩ count =
      (unclearCause result.error).decision
        (decide (maxAutomaticRecoveryAttempts obligations ≤ count)) := by
  simp only [reconcile, unknown, unclearCause]
  split
  · rfl
  · split
    · rfl
    · by_cases exhausted : maxAutomaticRecoveryAttempts obligations ≤ count
      · rw [if_pos exhausted, decide_eq_true exhausted]
        split_ifs <;> rfl
      · rw [if_neg exhausted, decide_eq_false exhausted]
        split_ifs <;> rfl

/-- The recovery budget of the operation waiting for the verification is used up. -/
def BudgetUsed (s : Store) (verificationId : OpaqueId) : Prop :=
  ∀ op policy, Waits s op verificationId → policy? s op = some policy →
    maxAutomaticRecoveryAttempts policy.obligations ≤
      completedOriginalVerificationCount (s.listVerifications op.operationId)

/-- An UNKNOWN answer about a verification whose stored result is UNKNOWN names the cause of the
stored result; without budget only escalations have to agree. -/
def AnswersAgree (t : List VerifyingEvent) (s : Store) : Prop :=
  ∀ pid context request answer error stored,
    .returned pid (.verify context request) answer ∈ t →
    answeredOutcome? answer = some (.unknown, error) →
    HasResult s request.verificationId stored → stored.outcome = .unknown →
      unclearCause error = unclearCause stored.error ∨
        BudgetUsed s request.verificationId ∧ (unclearCause error).escalates = false ∧
          (unclearCause stored.error).escalates = false

/-- Of two results of one outcome, `reconcile` tells apart only UNKNOWN ones of two causes. -/
theorem reconcile_congr {op : Operation} {attempts : List ExecutionAttempt}
    {held stored : VerificationResult} {descriptor : EffectDescriptor}
    {obligations : PolicyObligations} {count : Nat} (outcome : held.outcome = stored.outcome)
    (agree : stored.outcome = .unknown →
      unclearCause held.error = unclearCause stored.error ∨
        maxAutomaticRecoveryAttempts obligations ≤ count ∧
          (unclearCause held.error).escalates = false ∧
            (unclearCause stored.error).escalates = false) :
    reconcile ⟨op, attempts, held, descriptor, obligations⟩ count =
      reconcile ⟨op, attempts, stored, descriptor, obligations⟩ count := by
  cases at_ : stored.outcome with
  | unknown =>
    rw [reconcile_unknown (outcome.trans at_), reconcile_unknown at_]
    rcases agree at_ with same | ⟨exhausted, calm, calm'⟩
    · rw [same]
    · rw [decide_eq_true exhausted, UnclearCause.decision_exhausted calm calm']
  | applied => simp only [reconcile, outcome, at_]
  | notApplied => simp only [reconcile, outcome, at_]

/-- A commit that takes an operation out of VERIFYING applies what `reconcile` returns for the one
result its verification ever gets. -/
def LeavesByStored (registry : CapabilityRegistry) (final before after : Store) : Prop :=
  ∀ op moved, before.operation? op.operationId = some op → op.state = .verifying →
    after.operation? op.operationId = some moved → moved.state ≠ .verifying →
      ∃ verificationId stored, op.latestVerificationId = some verificationId ∧
        HasResult before verificationId stored ∧
        (∀ result, HasResult final verificationId result → result = stored) ∧
        Reconciled registry before after op stored

section Runs

variable {s₀ : Store} {t : List VerifyingEvent} {c : VerifyingConfig}

/-- Whatever the providers answer and however the cycles interleave: as long as no late answer
names another cause than the stored result, every operation leaves VERIFYING by the decision on
the result that is stored. -/
theorem leaves_by_stored (reachable : Reachable uuid5 s₀)
    (ran : Run (VerifyingCall.service registry uuid5) s₀ t c) {pid : Pid} {label : Purpose}
    {before after : Store} (agree : AnswersAgree t before)
    (committed : .committed pid label before after ∈ t) :
    LeavesByStored registry c.store before after := by
  have assured : Assured (verifyingContract uuid5 registry fun query answer =>
      ∃ pid, .returned pid query answer ∈ t) (fun _ => Returning Anything) s₀ t c.store :=
    ran.assured verifyingContract_sound (fun _ call _ _ _ => verifies_call call)
      (fun pid _ _ member => ⟨pid, member⟩) reachable
  obtain ⟨inv, ⟨-, steady, leaves⟩, -, (later : Steady after c.store)⟩ :=
    assured.commits pid label before after committed
  intro op moved found verifying there left
  obtain ⟨verificationId, -, -, named, -, -, -⟩ :=
    verifying_of_reachable inv _ op found verifying
  have waits : Waits before op verificationId := ⟨found, verifying, named⟩
  obtain ⟨held, ⟨stored, has, outcome, own⟩, decision, ⟨descriptor, policy, known, decides,
    decided⟩, applies⟩ := leaves op verificationId moved waits there left
  have final := has.later (steady.later.trans later.later)
  refine ⟨verificationId, stored, named, has, fun result other => other.unique final, decision,
    ⟨descriptor, policy, known, decides, ?_⟩, applies⟩
  rw [decided]
  apply reconcile_congr outcome
  intro unknown
  obtain rfl | ⟨context, request, answer, ⟨pid, returned⟩, rfl, told⟩ := own
  · exact .inl rfl
  · rw [outcome, unknown] at told
    rcases agree pid context request answer held.error stored returned told has unknown with
      same | ⟨used, calm⟩
    · exact .inl same
    · exact .inr ⟨used op policy waits decides, calm⟩

end Runs

/-! ## Two cycles on one request -/

/-- The sample operation while its first verification is open. -/
def verifyingStart : Store := Stateback.run idOf .empty (undoingActions.take 5)

/-- Every verification ends UNKNOWN with an error of the kind and the code. -/
def unclearAnswers (kind : ErrorKind) (code : String) : (query : Query) → Answer query
  | .now => ⟨6⟩
  | .execute .. => .raisedOther "TimeoutError"
  | .verify .. => .returned
      { outcome := .unknown
        evidence := (sampleResult "verification-1" .unknown).evidence
        error := some
          { contractVersion := contractVersion
            kind := kind
            code := code
            message := "verification is unclear"
            retryableInfrastructure := false
            providerHttpStatus := none
            providerErrorCode := none
            retryAfterSeconds := none
            details := .object [] } }
  | .compensate .. => .raisedOther "TimeoutError"

def cycleCommand (worker : String) : RecoveryCommand :=
  { sampleRecovery with
    expectedVersion := 5
    ids := { sampleRecovery.ids with
      verificationCompleteAuditEventId := idOf ("result-" ++ worker)
      completeTransitionAuditEventId := idOf ("transition-" ++ worker)
      manualAuditEventId := idOf ("manual-" ++ worker) } }

/-- Both cycles meet the open request; the first stores a transport error and stops, the second
goes on with its own answer. -/
def lateRace (kind : ErrorKind) (code : String) : List VerifyingEvent × VerifyingConfig :=
  let transport := unclearAnswers .transientTransport "ref.verify.transport"
  replay (VerifyingCall.service sampleRegistry idOf)
    ([.spawn 0 (.cycle (cycleCommand "first")), .spawn 1 (.cycle (cycleCommand "second"))] ++
      List.replicate 7 (.step 0 transport) ++
      List.replicate 7 (.step 1 (unclearAnswers kind code)) ++ [.step 0 transport] ++
      List.replicate 8 (.step 1 (unclearAnswers kind code)))
    (.initial verifyingStart)

/-- The journals around the last commit of a run. -/
def lastCommit? (t : List VerifyingEvent) : Option (Pid × Purpose × Store × Store) :=
  (t.filterMap fun
    | .committed pid label before after => some (pid, label, before, after)
    | _ => none).getLast?

theorem committed_of_last {t : List VerifyingEvent} {pid : Pid} {label : Purpose}
    {before after : Store} (last : lastCommit? t = some (pid, label, before, after)) :
    .committed pid label before after ∈ t := by
  obtain ⟨event, member, same⟩ := List.mem_filterMap.mp (List.mem_of_getLast? last)
  cases event <;> simp only [reduceCtorEq, Option.some.injEq, Prod.mk.injEq] at same
  obtain ⟨rfl, rfl, rfl, rfl⟩ := same
  exact member

/-- What the answers of a run say. -/
def answers (t : List VerifyingEvent) : List (Option (EffectOutcome × Option NormalizedError)) :=
  t.filterMap fun
    | .returned _ (.verify ..) answer => some (answeredOutcome? answer)
    | _ => none

theorem lateRace_run (kind : ErrorKind) (code : String) :
    Run (VerifyingCall.service sampleRegistry idOf) verifyingStart
      (lateRace kind code).1 (lateRace kind code).2 := replay_run _ _

/-- With the same answer the second cycle takes the operation where the stored result does. -/
theorem leaves_by_stored_race :
    ∃ pid label before after,
      .committed pid label before after ∈
        (lateRace .transientTransport "ref.verify.transport").1 ∧
      (after.operation? (idOf "op")).map (·.state) = some .unknown ∧
      LeavesByStored sampleRegistry (lateRace .transientTransport "ref.verify.transport").2.store
        before after := by
  have state : (lastCommit? (lateRace .transientTransport "ref.verify.transport").1).map
      (fun c => (c.2.2.2.operation? (idOf "op")).map (·.state)) = some (some .unknown) := by
    decide +kernel
  obtain ⟨⟨pid, label, before, after⟩, last, state⟩ := Option.map_eq_some_iff.mp state
  refine ⟨pid, label, before, after, committed_of_last last, state,
    leaves_by_stored ⟨undoingActions.take 5, rfl⟩ (lateRace_run _ _) ?_ (committed_of_last last)⟩
  have answered : ∀ said ∈ answers (lateRace .transientTransport "ref.verify.transport").1,
      said.all (fun pair => decide (unclearCause pair.2 = .transport)) = true := by
    decide +kernel
  have results : (lastCommit? (lateRace .transientTransport "ref.verify.transport").1).all
      (fun c => c.2.2.1.verifications.rows.all fun row => row.2.all fun result =>
        decide (unclearCause result.error = .transport)) = true := by decide +kernel
  intro pid context request answer error stored returned told has _
  have quiet := answered _ (List.mem_filterMap.mpr ⟨_, returned, rfl⟩)
  obtain ⟨pending, found⟩ := has
  rw [last, Option.all_some] at results
  have calm := List.all_eq_true.mp results _ (find?_some found).1
  simp only [told, Option.all_some, decide_eq_true_eq] at quiet calm
  exact .inl (quiet.trans calm.symm)

/-- The stored result leaves the operation UNKNOWN; the late answer takes it to an operator. -/
theorem late_result_escalates :
    Reachable idOf verifyingStart ∧
      Run (VerifyingCall.service sampleRegistry idOf) verifyingStart
        (lateRace .providerInconsistent "ref.verify.inconsistent").1
        (lateRace .providerInconsistent "ref.verify.inconsistent").2 ∧
      ∃ pid label before after,
        .committed pid label before after ∈
          (lateRace .providerInconsistent "ref.verify.inconsistent").1 ∧
        ¬LeavesByStored sampleRegistry
          (lateRace .providerInconsistent "ref.verify.inconsistent").2.store before after := by
  refine ⟨⟨undoingActions.take 5, rfl⟩, lateRace_run _ _, ?_⟩
  have facts : (lastCommit? (lateRace .providerInconsistent "ref.verify.inconsistent").1).map
      (fun c => ((c.2.2.1.operation? (idOf "op")).map fun op => (op.state, op.latestVerificationId),
        (c.2.2.2.operation? (idOf "op")).map (·.state))) =
      some (some (.verifying, some (idOf "verification-1")), some .manualIntervention) := by
    decide +kernel
  have reconciled : (lastCommit? (lateRace .providerInconsistent
        "ref.verify.inconsistent").1).all (fun c =>
      (c.2.2.1.operation? (idOf "op")).all fun op =>
        (c.2.2.1.verification? (idOf "verification-1")).all fun row => row.2.all fun stored =>
          (policy? c.2.2.1 op).all fun policy => decide ((verifyingActions (reconcile
            ⟨op, c.2.2.1.listAttempts op.operationId, stored, sampleDescriptor,
              policy.obligations⟩
            (completedOriginalVerificationCount
              (c.2.2.1.listVerifications op.operationId))).action).edge.2 = .unknown)) = true := by
    decide +kernel
  obtain ⟨⟨pid, label, before, after⟩, last, facts⟩ := Option.map_eq_some_iff.mp facts
  refine ⟨pid, label, before, after, committed_of_last last, fun leaves => ?_⟩
  simp only [Prod.mk.injEq, Option.map_eq_some_iff] at facts
  obtain ⟨⟨op, found, verifying, named⟩, moved, there, state⟩ := facts
  have key : op.operationId = idOf "op" := (find?_some found).2
  obtain ⟨verificationId, stored, named', ⟨request, has⟩, -, decision, ⟨descriptor, policy, known,
    decides, decided⟩, applies⟩ :=
    leaves op moved (key ▸ found) verifying (key ▸ there) (by rw [state]; decide)
  obtain rfl : verificationId = idOf "verification-1" := Option.some.inj (named'.symm.trans named)
  obtain rfl : sampleDescriptor = descriptor := Except.ok.inj known
  simp only [last, found, has, decides, Option.all_some, decide_eq_true_eq] at reconciled
  have target := applies.moved
  rw [key, there, decided, reconciled, Option.map_some, state] at target
  cases target

end Stateback.Concurrency
