import Stateback.Compensation.Execute
import Stateback.Invariants.Decisions
import Stateback.Invariants.Verdicts
import Stateback.Lib.Accounts
/-!
# What a compensation request carries

The adapter finds the object to undo in the evidence of the `CompensationRequest`.  The request is
built from the operation's execution attempts; what a verification of the original effect has
learned since is stored, and not carried.
-/

namespace Stateback.Compensation

open Domain Persistence Transitions Providers Stateback.Runtime Process Invariants KeyedTable.Table

variable {s : Store} {op : Operation}

/-! ## External identities -/

/-- What evidence names outside: an operation of the provider or a resource. -/
inductive ExternalIdentity where
  | operation (externalOperationId : String)
  | resource (externalResourceId : String)

def ExternalIdentity.NamedBy (evidence : ProviderEvidence) : ExternalIdentity → Prop
  | .operation externalOperationId => evidence.externalOperationId = some externalOperationId
  | .resource externalResourceId => externalResourceId ∈ evidence.externalResourceIds

/-- The evidence of an execution attempt names it. -/
def AttemptNames (s : Store) (operationId : OpaqueId) (identity : ExternalIdentity) : Prop :=
  ∃ attempt ∈ s.attemptsOf operationId, ∃ evidence, attempt.evidence = some evidence ∧
    identity.NamedBy evidence

/-- The evidence of a stored result about the original effect names it. -/
def ResultNames (s : Store) (operationId : OpaqueId) (identity : ExternalIdentity) : Prop :=
  ∃ request result, (request, some result) ∈ s.verifications.rows ∧
    request.operationId = operationId ∧ request.target = .originalEffect ∧
      identity.NamedBy result.evidence

/-- The request names whatever the durable evidence of the operation names. -/
def CarriesDurable (s : Store) (operationId : OpaqueId) (request : CompensationRequest) : Prop :=
  ∀ identity, AttemptNames s operationId identity ∨ ResultNames s operationId identity →
    ∃ evidence ∈ request.originalEvidence, identity.NamedBy evidence

/-! ## The request of a step -/

/-- The first request a service calls `compensate` with. -/
def compensationRequest : Account Purpose Store Raised Query (Option CompensationRequest) where
  asked
    | .compensate _ _ request, none => some request
    | _, first => first
  ran _ _ _ first := first

def requestOf {α : Type} (answers : Nat → (query : Query) → Answer query) (service : Service α)
    (n : Nat) (s : Store) : Option CompensationRequest :=
  Prog.account compensationRequest answers service n s none

/-- `_compensate_step` asks the adapter of its effect with the evidence of the attempts. -/
theorem requestOf_compensateStep {registry : CapabilityRegistry} {adapter : Adapter}
    (known : registry.adapterFor op.intent.effect = .ok adapter) (h : Handling)
    (descriptor : EffectDescriptor) (record : Compensation) (attempt : CompensationAttempt)
    (answers : Nat → (query : Query) → Answer query) (n : Nat) (s : Store) :
    requestOf answers (compensateStep registry h descriptor op record attempt) n s =
      some (buildCompensationProviderRequest op record attempt
        (s.listAttempts op.operationId)) := by
  unfold compensateStep callCompensate
  rw [known]
  exact Prog.account_of_fixed compensationRequest (fun query => by cases query <;> rfl)
    (fun _ _ _ => rfl) answers _ (n + 1) s

/-! ## What it names -/

theorem originalEvidence_names (record : Compensation) (attempt : CompensationAttempt)
    (identity : ExternalIdentity) :
    (∃ evidence ∈ (buildCompensationProviderRequest op record attempt
        (s.listAttempts op.operationId)).originalEvidence, identity.NamedBy evidence) ↔
      AttemptNames s op.operationId identity := by
  simp only [buildCompensationProviderRequest, List.mem_filterMap, AttemptNames]
  have listed : ∀ row, row ∈ s.listAttempts op.operationId ↔ row ∈ s.attemptsOf op.operationId :=
    fun row => List.mem_insertionSort _
  constructor
  · rintro ⟨evidence, ⟨row, member, stored⟩, named⟩
    exact ⟨row, (listed row).mp member, evidence, stored, named⟩
  · rintro ⟨row, member, evidence, stored, named⟩
    exact ⟨evidence, ⟨row, (listed row).mpr member, stored⟩, named⟩

/-- The request carries all durable evidence exactly when verifications of the original effect
named nothing that an attempt does not name. -/
theorem carries_durable_iff {registry : CapabilityRegistry} {adapter : Adapter}
    (known : registry.adapterFor op.intent.effect = .ok adapter) (h : Handling)
    (descriptor : EffectDescriptor) (record : Compensation) (attempt : CompensationAttempt)
    (answers : Nat → (query : Query) → Answer query) (n : Nat) (s : Store) :
    (∀ request ∈ requestOf answers (compensateStep registry h descriptor op record attempt) n s,
        CarriesDurable s op.operationId request) ↔
      ∀ identity, ResultNames s op.operationId identity →
        AttemptNames s op.operationId identity := by
  rw [requestOf_compensateStep known]
  constructor
  · intro carries identity named
    exact (originalEvidence_names record attempt identity).mp
      (carries _ rfl identity (.inr named))
  · rintro known_ request ⟨⟩ identity named
    apply (originalEvidence_names record attempt identity).mpr
    cases named with
    | inl named => exact named
    | inr named => exact known_ identity named

/-- A read-back that finds the message. -/
def foundResult : VerificationResult :=
  { sampleResult "verification-1" .applied with
    evidence := { (sampleResult "verification-1" .applied).evidence with
      externalResourceIds := ["message-1"] } }

/-- The attempt's outcome stays unclear, and its response names the message. -/
def namingAttempt : ExecutionAttempt :=
  { Runtime.sampleNotApplied with
    outcome := some .unknown
    evidence := some foundResult.evidence }

/-- The attempt's outcome is unclear, a verification finds the effect and its resource, and the
compensation is claimed. -/
def learnedActions (completed : Option ExecutionAttempt) : List JournalAction :=
  undoingActions.take 3 ++
  [.transition (sampleCommand 3 3 "audit-unknown"
     (.executionUnknown completed (idOf "audit-crash") (idOf "outbox-verify"))),
   .transition (sampleCommand 4 4 "audit-verifying"
     (.unknownStartVerification (sampleRequest "verification-1" 4) (idOf "audit-request-1")
       (idOf "outbox-verify-1"))),
   .transition (sampleCommand 5 5 "audit-succeeded"
     (.verificationApplied foundResult (idOf "audit-result-1"))),
   .transition (sampleCommand 6 6 "audit-compensating"
     (.succeededStartCompensation (sampleCompensation "first") (idOf "audit-requested")
       (idOf "outbox-compensate"))),
   .transition (sampleClaim 7 "first" "compensation-attempt")]

/-- The journal when the response named the message. -/
def namedJournal : Store := run idOf .empty (learnedActions (some namingAttempt))

/-- A resource of the sample read-back is named by a journal that stores it. -/
theorem resultNames_found (s : Store)
    (answered : ∃ row ∈ s.verifications.rows, row.1.operationId = idOf "op" ∧
      row.1.target = .originalEffect ∧ row.2 = some foundResult) :
    ResultNames s (idOf "op") (.resource "message-1") := by
  obtain ⟨⟨request, _⟩, member, about, target, rfl⟩ := answered
  exact ⟨request, foundResult, member, about, target, List.mem_singleton_self "message-1"⟩

/-- Response and read-back name the message, and so does the request. -/
theorem carries_durable_named :
    Reachable idOf namedJournal ∧
      AttemptNames namedJournal (idOf "op") (.resource "message-1") ∧
      ResultNames namedJournal (idOf "op") (.resource "message-1") ∧
      ∃ op record, namedJournal.operation? (idOf "op") = some op ∧ op.state = .compensating ∧
        namedJournal.compensation? (idOf "first") = some record ∧
        (requestOf Runtime.sampleAnswers (compensateStep Runtime.sampleRegistry
          (sampleHandling "first" "second" "verification") Runtime.sampleDescriptor op record
          (sampleCompensationAttempt "first" "compensation-attempt")) 0 namedJournal).isSome =
            true ∧
        ∀ request ∈ requestOf Runtime.sampleAnswers (compensateStep Runtime.sampleRegistry
            (sampleHandling "first" "second" "verification") Runtime.sampleDescriptor op record
            (sampleCompensationAttempt "first" "compensation-attempt")) 0 namedJournal,
          CarriesDurable namedJournal (idOf "op") request := by
  have found : (namedJournal.operation? (idOf "op")).map (·.state) = some .compensating := by
    decide +kernel
  have held : (namedJournal.compensation? (idOf "first")).isSome = true := by decide +kernel
  have kept : ∃ attempt ∈ namedJournal.attemptsOf (idOf "op"),
      attempt.evidence = some foundResult.evidence := by decide +kernel
  obtain ⟨op, there, state⟩ := Option.map_eq_some_iff.mp found
  obtain ⟨record, stored⟩ := Option.isSome_iff_exists.mp held
  obtain ⟨attempt, member, given⟩ := kept
  have key : op.operationId = idOf "op" := (find?_some there).2
  have named : AttemptNames namedJournal (idOf "op") (.resource "message-1") :=
    ⟨attempt, member, _, given, List.mem_singleton_self "message-1"⟩
  refine ⟨⟨_, rfl⟩, named, resultNames_found _ (by decide +kernel), op, record, there, state,
    stored, ?_, ?_⟩
  · rw [requestOf_compensateStep rfl]
    exact Option.isSome_some
  · rw [← key]
    apply (carries_durable_iff rfl _ _ _ _ _ 0 namedJournal).mpr
    rintro identity ⟨request, result, row, -, -, names⟩
    -- the only result found the message and nothing else
    have only : namedJournal.verifications.rows.all (fun row => row.2.all fun result =>
        decide (result = foundResult)) = true := by decide +kernel
    have found := List.all_eq_true.mp only _ row
    rw [Option.all_some, decide_eq_true_eq] at found
    subst found
    rw [key]
    cases identity with
    | operation externalOperationId => cases names
    | resource externalResourceId =>
      obtain rfl := List.mem_singleton.mp names
      exact named

/-! ## An identity learned by verification -/

/-- The journal when the response was lost. -/
def learnedJournal : Store := run idOf .empty (learnedActions none)

/-- The compensation is asked for without the resource the verification has found. -/
theorem learned_identity_not_carried :
    Reachable idOf learnedJournal ∧
      ∃ op record, learnedJournal.operation? (idOf "op") = some op ∧ op.state = .compensating ∧
        learnedJournal.compensation? (idOf "first") = some record ∧
        ¬ ∀ request ∈ requestOf Runtime.sampleAnswers (compensateStep Runtime.sampleRegistry
            (sampleHandling "first" "second" "verification") Runtime.sampleDescriptor op record
            (sampleCompensationAttempt "first" "compensation-attempt")) 0 learnedJournal,
          CarriesDurable learnedJournal (idOf "op") request := by
  have found : (learnedJournal.operation? (idOf "op")).map (·.state) = some .compensating := by
    decide +kernel
  have stored : (learnedJournal.compensation? (idOf "first")).isSome = true := by decide +kernel
  obtain ⟨op, there, state⟩ := Option.map_eq_some_iff.mp found
  obtain ⟨record, held⟩ := Option.isSome_iff_exists.mp stored
  refine ⟨⟨_, rfl⟩, op, record, there, state, held, fun carries => ?_⟩
  rw [requestOf_compensateStep rfl] at carries
  have learned : ResultNames learnedJournal (idOf "op") (.resource "message-1") :=
    resultNames_found _ (by decide +kernel)
  have key : op.operationId = idOf "op" := (find?_some there).2
  have silent : (learnedJournal.attemptsOf (idOf "op")).all (·.evidence.isNone) = true := by
    decide +kernel
  obtain ⟨row, member, evidence, given, -⟩ :=
    (originalEvidence_names record _ _).mp (carries _ rfl _ (.inr learned))
  rw [key] at member
  have none_ := List.all_eq_true.mp silent row member
  rw [given] at none_
  cases none_

end Stateback.Compensation
