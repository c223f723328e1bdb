import Stateback.Providers.Reference.Idempotency
/-!
# What the reference provider reports

In every state the adapter can come to: APPLIED names a resource that is there, and NOT_APPLIED says
that the call has changed nothing.
-/

namespace Stateback.Providers.Reference

open Domain Dictionary ReferenceStore

variable {lower : String → String} {sha256Hex : JsonValue → String}
  {adapter after : ReferenceAdapter} {store : ReferenceStore} {readings : Readings} {held : Bool}
  {row : ReferenceResource}

/-! ## Executions -/

/-- The resource is the one the request asks for: under its key, if the effect goes by keys. -/
def Answers (sha256Hex : JsonValue → String) (context : ProviderExecutionContext)
    (request : ProviderExecutionRequest) (row : ReferenceResource) : Prop :=
  ∃ resourceId, resourceIdOf request.arguments = some resourceId ∧
    (request.effect ∉ keyedEffects ∧ row.resourceId = resourceId ∨
      row.providerIdempotencyKey = context.providerIdempotencyKey ∧
        row.argumentsFingerprint = fingerprint sha256Hex resourceId)

/-- What an execution reports, next to the store it leaves. -/
structure ExecutionTrue (sha256Hex : JsonValue → String) (context : ProviderExecutionContext)
    (request : ProviderExecutionRequest) (store after : ReferenceStore)
    (evidence : ExecutionEvidence) : Prop where
  applied : evidence.outcome = .applied → ∃ row ∈ after.all, row.applied = true ∧
    Answers sha256Hex context request row ∧
    evidence.externalOperationId = some row.externalOperationId
  notApplied : evidence.outcome = .notApplied → after = store

def ReportsExecution (sha256Hex : JsonValue → String) (context : ProviderExecutionContext)
    (request : ProviderExecutionRequest) (adapter : ReferenceAdapter)
    (ended : ReferenceAdapter × CallEnd ExecutionEvidence) : Prop :=
  ∀ evidence, ended.2 = .returned evidence →
    ExecutionTrue sha256Hex context request adapter.store ended.1.store evidence

section Execution

variable {context : ProviderExecutionContext} {request : ProviderExecutionRequest}

theorem reports_raised {reasonCode : String} :
    ReportsExecution sha256Hex context request adapter
      (after, .raisedContractValidation reasonCode) := fun _ ended => by cases ended

theorem reports_error {outcome : EffectOutcome} {error : NormalizedError} {status : String}
    {sent : Bool} (open_ : outcome ≠ .applied) (same : after.store = adapter.store) :
    ReportsExecution sha256Hex context request adapter
      (after, executionFromError lower readings context outcome error status sent) := by
  intro evidence ended
  dsimp only [executionFromError] at ended
  obtain ⟨_, -, rfl⟩ := CallEnd.map_returned ended
  exact ⟨fun applied => absurd applied open_, fun _ => same⟩

theorem reports_row (listed : row ∈ adapter.store.all) (applied : row.applied = true)
    (answers : Answers sha256Hex context request row) :
    ReportsExecution sha256Hex context request adapter
      (adapter, appliedFromRow lower readings row) := by
  intro evidence ended
  dsimp only [appliedFromRow] at ended
  obtain ⟨_, -, rfl⟩ := CallEnd.map_returned ended
  exact ⟨fun _ => ⟨row, listed, applied, answers, rfl⟩, fun _ => rfl⟩

theorem reports_read {resourceId : String} (same : after.store = adapter.store) :
    ReportsExecution sha256Hex context request adapter
      (after, readSuccess lower after.store readings context resourceId) := by
  intro evidence ended
  dsimp only [readSuccess] at ended
  obtain ⟨_, -, rfl⟩ := CallEnd.map_returned ended
  exact ⟨fun applied => (by cases applied), fun _ => same⟩

theorem reports_executeRead {resourceId : String} {spec : ExecuteSpec}
    (same : after.store = adapter.store) :
    ReportsExecution sha256Hex context request adapter
      (after, executeRead lower after.store readings context resourceId spec) := by
  unfold executeRead
  split
  · exact reports_error nofun same
  split
  · exact reports_error nofun same
  · exact reports_read same

/-- A script that mutates puts the resource it reports; any other script reports NOT_APPLIED. -/
theorem executeSpecs_mutates (script : ReferenceExecuteScript) :
    ((executeSpecs script).mutates = true → (executeSpecs script).outcome ≠ .notApplied ∧
      ((executeSpecs script).outcome = .applied → (executeSpecs script).returnIds = true)) ∧
    ((executeSpecs script).mutates = false → (executeSpecs script).outcome = .notApplied) := by
  cases script <;> decide

theorem reports_executeScripted {resourceId : String}
    (named : resourceIdOf request.arguments = some resourceId) :
    ReportsExecution sha256Hex context request adapter
      (adapter.executeScripted lower sha256Hex readings held context request resourceId) := by
  have specs := executeSpecs_mutates adapter.nextExecute.1
  unfold ReferenceAdapter.executeScripted
  dsimp only
  split
  · exact reports_executeRead rfl
  split
  next mutates =>
    split
    · exact reports_raised
    next store added =>
      obtain ⟨-, rfl⟩ := put_ok added
      intro evidence ended
      dsimp only [executionFromSpec] at ended
      obtain ⟨_, -, rfl⟩ := CallEnd.map_returned ended
      refine ⟨fun applied => ⟨_, List.mem_append_right _ (List.mem_singleton_self _), rfl,
        ⟨resourceId, named, .inr ⟨rfl, rfl⟩⟩, ?_⟩, fun none => absurd none (specs.1 mutates).1⟩
      rw [if_pos ((specs.1 mutates).2 applied)]
      rfl
  next settled =>
    have outcome := specs.2 (Bool.eq_false_of_not_eq_true settled)
    intro evidence ended
    dsimp only [executionFromSpec] at ended
    obtain ⟨_, -, rfl⟩ := CallEnd.map_returned ended
    exact ⟨fun applied => (nomatch outcome.symm.trans applied), fun _ => rfl⟩

theorem earlier_keyed {desc : EffectDescriptor} {resourceId : String}
    (keyed : adapter.earlier desc context request resourceId = .keyed row) :
    ∃ key, context.providerIdempotencyKey = some key ∧
      adapter.store.byProviderKey key = some row := by
  unfold ReferenceAdapter.earlier at keyed
  dsimp only at keyed
  split at keyed
  next found =>
    obtain rfl := Earlier.keyed.inj keyed
    split at found
    · exact Option.bind_eq_some_iff.mp found
    · cases found
  · split at keyed
    · split at keyed
      · split at keyed <;> cases keyed
      · cases keyed
    · cases keyed

theorem earlier_natural {desc : EffectDescriptor} {resourceId : String}
    (natural : adapter.earlier desc context request resourceId = .natural row) :
    request.effect ∉ keyedEffects ∧ adapter.store.byResourceId resourceId = some row ∧
      row.applied = true := by
  unfold ReferenceAdapter.earlier at natural
  dsimp only at natural
  split at natural
  · cases natural
  · split at natural
    next effect =>
      have unkeyed : request.effect ∉ keyedEffects := by
        rcases effect with same | same <;> rw [same] <;> decide
      split at natural
      next found =>
        split at natural
        next applied =>
          obtain rfl := Earlier.natural.inj natural
          exact ⟨unkeyed, found, applied⟩
        · cases natural
      · cases natural
    · cases natural

theorem reports_execute (kept : Kept adapter.store) :
    ReportsExecution sha256Hex context request adapter
      (adapter.execute lower sha256Hex readings held context request) := by
  unfold ReferenceAdapter.execute
  split
  · exact fun _ ended => by cases ended
  cases descriptorOf request.effect with
  | none => exact fun _ ended => by cases ended
  | some desc =>
    dsimp only [ReferenceAdapter.executeBody]
    cases validateExecution request with
    | some error => exact reports_error nofun rfl
    | none =>
      cases named : resourceIdOf request.arguments with
      | none => exact reports_raised
      | some resourceId =>
        dsimp only
        split
        · exact reports_error nofun rfl
        split
        · exact reports_error nofun rfl
        cases seen : adapter.earlier desc context request resourceId with
        | keyed row =>
          obtain ⟨key, carried, found⟩ := earlier_keyed seen
          obtain ⟨listed, own⟩ := kept.consistent.providerKeys.listed found
          dsimp only
          split
          next same =>
            exact reports_row listed (kept.applied row listed)
              ⟨resourceId, named, .inr ⟨own.trans carried.symm, same⟩⟩
          · exact reports_error nofun rfl
        | natural row =>
          obtain ⟨unkeyed, found, applied⟩ := earlier_natural seen
          obtain ⟨listed, own⟩ := kept.consistent.resourceIds.listed found
          dsimp only
          split
          · exact reports_read rfl
          · exact reports_row listed applied ⟨resourceId, named,
              .inl ⟨unkeyed, Option.some.inj own⟩⟩
        | nothing => exact reports_executeScripted named

end Execution

/-! ## Verifications -/

/-- The resource an evidence names. -/
def Names (evidence : ProviderEvidence) (row : ReferenceResource) : Prop :=
  evidence.externalOperationId = some row.externalOperationId ∧
    evidence.externalResourceIds = [row.resourceId]

def Marked (row : ReferenceResource) : Prop := (row.compensated || row.mitigated) = true

/-- Nothing is there under the external operation id of the request, the first of its resource ids
or the idempotency key of its context; further resource ids are not looked up. -/
def Missing (context : ProviderExecutionContext) (request : VerificationRequest)
    (store : ReferenceStore) : Prop :=
  ∀ row ∈ store.all, request.externalOperationId ≠ some row.externalOperationId ∧
    request.externalResourceIds.head? ≠ some row.resourceId ∧
    ∀ key, context.providerIdempotencyKey = some key → row.providerIdempotencyKey ≠ some key

/-- What an unforced verification says of the store. -/
structure VerificationTrue (context : ProviderExecutionContext) (request : VerificationRequest)
    (store : ReferenceStore) (evidence : VerificationEvidence) : Prop where
  applied : evidence.outcome = .applied → ∃ row ∈ store.all, Names evidence.evidence row ∧
    (request.target = .originalEffect → row.applied = true) ∧
    (request.target = .compensation → Marked row)
  notApplied : evidence.outcome = .notApplied → Missing context request store ∨
    request.target = .compensation ∧ ∃ row ∈ store.all, ¬Marked row

section Verification

variable {context : ProviderExecutionContext} {request : VerificationRequest}
  {evidence : VerificationEvidence}

theorem missing_of_none (consistent : Consistent store)
    (nothing : store.lookupVerifyRow context request = none) : Missing context request store := by
  simp only [lookupVerifyRow, Option.or_eq_none_iff] at nothing
  obtain ⟨byOperation, byResource, byKey⟩ := nothing
  refine fun row member => ⟨fun same => ?_, fun same => ?_, fun key carried own => ?_⟩
  · rw [same, Option.bind_some] at byOperation
    exact consistent.externalIds.occupied member rfl byOperation
  · rw [same, Option.bind_some] at byResource
    exact consistent.resourceIds.occupied member rfl byResource
  · rw [carried, Option.bind_some] at byKey
    exact consistent.providerKeys.occupied member own byKey

theorem verification_unknown {source : EvidenceSource} {status : String} {error : NormalizedError}
    (ended : verifyUnknown lower readings source status error = .returned evidence) :
    VerificationTrue context request store evidence := by
  have outcome := verifyUnknown_outcome ended
  exact ⟨fun applied => (nomatch outcome.symm.trans applied),
    fun none => (nomatch outcome.symm.trans none)⟩

theorem verifyOutcome_evidence {source : EvidenceSource}
    (ended : verifyOutcome lower readings .applied source (some row) = .returned evidence) :
    Names evidence.evidence row := by
  dsimp only [verifyOutcome, verifyEvidence, providerEvidence] at ended
  obtain ⟨shown, built, rfl⟩ := CallEnd.map_returned ended
  split at built
  · obtain rfl := CallEnd.returned.inj built
    exact ⟨rfl, rfl⟩
  · cases built

theorem verification_shown {source : EvidenceSource} (listed : row ∈ store.all)
    (original : request.target = .originalEffect → row.applied = true)
    (compensation : request.target = .compensation → Marked row)
    (ended : verifyOutcome lower readings .applied source (some row) = .returned evidence) :
    VerificationTrue context request store evidence := by
  have outcome := verifyOutcome_outcome ended
  exact ⟨fun _ => ⟨row, listed, verifyOutcome_evidence ended, original, compensation⟩,
    fun none => (nomatch outcome.symm.trans none)⟩

theorem verification_missing {source : EvidenceSource} {shown : Option ReferenceResource}
    (reason : Missing context request store ∨
      request.target = .compensation ∧ ∃ row ∈ store.all, ¬Marked row)
    (ended : verifyOutcome lower readings .notApplied source shown = .returned evidence) :
    VerificationTrue context request store evidence := by
  have outcome := verifyOutcome_outcome ended
  exact ⟨fun applied => (nomatch outcome.symm.trans applied), fun _ => reason⟩

theorem verification_original {source : EvidenceSource} (kept : Kept adapter.store)
    (target : request.target = .originalEffect)
    (ended : adapter.verifyOriginalTarget lower readings held request.effect
      (adapter.store.lookupVerifyRow context request) source = .returned evidence) :
    VerificationTrue context request adapter.store evidence := by
  unfold ReferenceAdapter.verifyOriginalTarget at ended
  cases found : adapter.store.lookupVerifyRow context request with
  | none =>
    rw [found] at ended
    dsimp only [Option.filter] at ended
    split at ended
    · exact verification_unknown ended
    · exact verification_missing (.inl (missing_of_none kept.consistent found)) ended
  | some row =>
    have listed := lookupVerifyRow_listed kept.consistent found
    rw [found, Option.filter_some, if_pos (kept.applied row listed)] at ended
    dsimp only at ended
    split at ended
    · exact verification_unknown ended
    · refine verification_shown listed (fun _ => kept.applied row listed) ?_ ended
      exact fun compensation => nomatch target.symm.trans compensation

theorem verification_compensation {source : EvidenceSource} {effect : EffectRef}
    (consistent : Consistent store) (target : request.target = .compensation)
    (ended : verifyCompensationTarget lower readings held effect
      (store.lookupVerifyRow context request) source = .returned evidence) :
    VerificationTrue context request store evidence := by
  unfold verifyCompensationTarget at ended
  cases found : store.lookupVerifyRow context request with
  | none =>
    rw [found] at ended
    dsimp only at ended
    split at ended
    · exact verification_unknown ended
    · exact verification_missing (.inl (missing_of_none consistent found)) ended
  | some row =>
    have listed := lookupVerifyRow_listed consistent found
    rw [found] at ended
    dsimp only at ended
    split at ended
    next marked =>
      refine verification_shown listed (fun original => ?_) (fun _ => ?_) ended
      · exact nomatch target.symm.trans original
      · exact (Bool.or_eq_true ..).mpr marked
    next unmarked =>
      refine verification_missing (.inr ⟨target, row, listed, fun marked => unmarked ?_⟩) ended
      exact (Bool.or_eq_true ..).mp marked

theorem reports_verify (kept : Kept adapter.store)
    (unforced : adapter.verifyScripts.headD .store = .store)
    (ended : (adapter.verify lower readings held context request).2 = .returned evidence) :
    VerificationTrue context request adapter.store evidence := by
  unfold ReferenceAdapter.verify at ended
  split at ended
  · cases ended
  cases descriptor : descriptorOf request.effect with
  | none =>
    rw [descriptor] at ended
    cases ended
  | some desc =>
    rw [descriptor] at ended
    dsimp only [ReferenceAdapter.verifyBody] at ended
    rw [unforced] at ended
    split at ended
    · dsimp only [unsupportedVerification] at ended
      exact verification_unknown ended
    · rw [if_neg (by simp)] at ended
      cases target : request.target with
      | originalEffect =>
        rw [target] at ended
        exact verification_original kept target ended
      | compensation =>
        rw [target] at ended
        exact verification_compensation kept.consistent target ended

end Verification

/-! ## Compensations -/

/-- What a compensation reports, next to the store it leaves. -/
structure CompensationTrue (store after : ReferenceStore) (evidence : CompensationEvidence) :
    Prop where
  applied : evidence.outcome = .applied → ∃ shown row, evidence.evidence = some shown ∧
    row ∈ after.all ∧ Marked row ∧ shown.externalResourceIds = [row.resourceId]
  notApplied : evidence.outcome = .notApplied → after = store

def ReportsCompensation (adapter : ReferenceAdapter)
    (ended : ReferenceAdapter × CallEnd CompensationEvidence) : Prop :=
  ∀ evidence, ended.2 = .returned evidence →
    CompensationTrue adapter.store ended.1.store evidence

section Compensation

variable {request : CompensationRequest}

theorem reports_compensationNotApplied {error : NormalizedError}
    (same : after.store = adapter.store) :
    ReportsCompensation adapter (after, compensationNotApplied lower readings error) := by
  intro evidence ended
  dsimp only [compensationNotApplied] at ended
  split at ended
  · obtain rfl := CallEnd.returned.inj ended
    exact ⟨fun applied => (nomatch applied), fun _ => same⟩
  · dsimp only [compensationEvidence] at ended
    obtain ⟨_, -, rfl⟩ := CallEnd.map_returned ended
    exact ⟨fun applied => (nomatch applied), fun _ => same⟩

theorem reports_applied {requestId operation : Option String} (listed : row ∈ after.store.all)
    (marked : Marked row) :
    ReportsCompensation adapter (after, compensationEvidence lower readings .applied "applied"
      requestId operation [row.resourceId] none) := by
  intro evidence ended
  dsimp only [compensationEvidence, execEvidence, providerEvidence] at ended
  obtain ⟨shown, built, rfl⟩ := CallEnd.map_returned ended
  split at built
  · obtain rfl := CallEnd.returned.inj built
    exact ⟨fun _ => ⟨_, row, rfl, listed, marked, rfl⟩, fun none => (nomatch none)⟩
  · cases built

theorem reports_compensationUnknown {status : String} {requestId operation : Option String}
    {resourceIds : List String} {error : Option NormalizedError} :
    ReportsCompensation adapter (after, compensationEvidence lower readings .unknown status
      requestId operation resourceIds error) := by
  intro evidence ended
  dsimp only [compensationEvidence] at ended
  obtain ⟨_, -, rfl⟩ := CallEnd.map_returned ended
  exact ⟨fun applied => (nomatch applied), fun none => (nomatch none)⟩

theorem compensated?_listed (consistent : Consistent adapter.store) {key : String}
    (found : adapter.compensated? key = some row) : row ∈ adapter.store.all ∧ Marked row := by
  obtain ⟨at_, marked⟩ := Option.filter_eq_some_iff.mp found
  rw [Option.or_eq_some_iff, Option.bind_eq_some_iff] at at_
  refine ⟨?_, marked⟩
  obtain at_ | ⟨-, _, -, at_⟩ := at_
  · exact (consistent.providerKeys.listed at_).1
  · exact (consistent.resourceIds.listed at_).1

/-- The marked resource is listed in the place of the one it was. -/
theorem replace_listed {kind : CompensationKind} {store' : ReferenceStore}
    (listed : row ∈ store.all) (replaced : store.replace (markedRow row kind) = .ok store') :
    markedRow row kind ∈ store'.all := by
  obtain ⟨existing, -, rfl⟩ := replace_ok replaced
  exact List.mem_map.mpr ⟨row, listed, if_pos (remains_marked row kind).resourceId.symm⟩

theorem reports_compensationAnswer {script : ReferenceCompensateScript}
    (listed : row ∈ after.store.all) (marked : Marked row) :
    ReportsCompensation adapter (after, compensationAnswer lower readings request script row) := by
  cases script with
  | applied => exact reports_applied listed marked
  | _ => exact reports_compensationUnknown

theorem reports_compensateRow {desc : EffectDescriptor} (listed : row ∈ adapter.store.all) :
    ReportsCompensation adapter (adapter.compensateRow lower readings request row desc) := by
  dsimp only [ReferenceAdapter.compensateRow]
  split
  · exact reports_compensationNotApplied rfl
  split
  · exact fun _ ended => by cases ended
  next store replaced =>
    have there : markedRow row desc.compensationKind ∈ store.all := replace_listed listed replaced
    exact reports_compensationAnswer there (marked_iff row desc.compensationKind)

theorem reports_compensate (kept : Kept adapter.store) :
    ReportsCompensation adapter (adapter.compensate lower readings request) := by
  unfold ReferenceAdapter.compensate
  dsimp only
  split
  · exact reports_compensationNotApplied rfl
  split
  · exact fun _ ended => by cases ended
  split
  next row replayed =>
    obtain ⟨key, -, found⟩ := Option.bind_eq_some_iff.mp replayed
    obtain ⟨listed, marked⟩ := compensated?_listed kept.consistent found
    exact reports_applied listed marked
  split
  · exact reports_compensationNotApplied rfl
  next row found =>
  split
  · exact fun _ ended => by cases ended
  split
  · intro evidence ended
    obtain rfl := CallEnd.returned.inj ended
    exact ⟨fun applied => (nomatch applied), fun _ => rfl⟩
  · exact reports_compensateRow (lookup_listed kept.consistent found)

end Compensation

/-- What an adapter reports is true of its store, whatever it has been asked before: an execution or
a compensation that is APPLIED names a resource that is there, and one that is NOT_APPLIED has
changed nothing; an unforced verification that is APPLIED names such a resource, and one of an
effect that is NOT_APPLIED has found none by the operation id, the first resource id or the key. -/
theorem reports_true (delay : Nat) (calls : List AdapterCall) :
    let adapter := (ReferenceAdapter.new delay).handled lower sha256Hex calls
    (∀ readings held context request, ReportsExecution sha256Hex context request adapter
      (adapter.execute lower sha256Hex readings held context request)) ∧
    (∀ readings held context request evidence, adapter.verifyScripts.headD .store = .store →
      (adapter.verify lower readings held context request).2 = .returned evidence →
        VerificationTrue context request adapter.store evidence) ∧
    ∀ readings request,
      ReportsCompensation adapter (adapter.compensate lower readings request) := by
  intro adapter
  have kept : Kept adapter.store := handled_new_kept delay calls
  exact ⟨fun _ _ _ _ => reports_execute kept, fun _ _ _ _ _ => reports_verify kept,
    fun _ _ => reports_compensate kept⟩

end Stateback.Providers.Reference
