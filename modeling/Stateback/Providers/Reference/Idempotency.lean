import Stateback.Providers.Reference.Resources
/-!
# One resource for each key

The effects of mode `PROVIDER_KEY` make at most one resource under a key, whatever is asked of the
adapter in between.  As long as no other effect is executed under a key, a resource that was made is
recognised for ever: by every later execution and by every verification that comes with its key.
-/

namespace Stateback.Providers.Reference

open Domain Dictionary ReferenceStore

variable {lower : String → String} {sha256Hex : JsonValue → String} {adapter : ReferenceAdapter}
  {store store' : ReferenceStore} {call : AdapterCall}

def keyedActions : List String := keyedEffects.map (·.action)

theorem mem_keyedEffects {effect : EffectRef} (supported : effect ∈ referenceEffects)
    (member : effect.action ∈ keyedActions) : effect ∈ keyedEffects := by
  have known : ∀ effect ∈ referenceEffects, effect.action ∈ keyedActions →
      effect ∈ keyedEffects := by decide
  exact known effect supported member

/-! ## At most one -/

/-- What every call keeps of the store. -/
structure Kept (store : ReferenceStore) : Prop where
  consistent : Consistent store
  applied : ∀ row ∈ store.all, row.applied = true
  once : ∀ row ∈ store.all, ∀ row' ∈ store.all, row.action ∈ keyedActions →
    row'.action ∈ keyedActions → row.providerIdempotencyKey = row'.providerIdempotencyKey →
      row = row'
  keyed : ∀ row ∈ store.all, row.action ∈ keyedActions → row.providerIdempotencyKey ≠ none

theorem kept_empty : Kept .empty where
  consistent := consistent_empty
  applied _ member := by cases member
  once _ member := by cases member
  keyed _ member := by cases member

/-- A resource is put under a key that no listed one has, if its effect goes by keys. -/
theorem Put.alone {context : ProviderExecutionContext} {effect : EffectRef}
    {row : ReferenceResource} (made : Put context effect row store store')
    (consistent : Consistent store) (member : row.action ∈ keyedActions) :
    row.providerIdempotencyKey ≠ none ∧
      ∀ other ∈ store.all, other.providerIdempotencyKey ≠ row.providerIdempotencyKey := by
  obtain ⟨key, carried, free⟩ :=
    made.fresh (mem_keyedEffects made.supported (made.action ▸ member))
  rw [made.key, carried]
  exact ⟨nofun, consistent.providerKeys.absent free⟩

/-- Rows that came from older ones are as few under a key as these were. -/
theorem Kept.once_of_remains (kept : Kept store) (consistent : Consistent store')
    (remains : ∀ row' ∈ store'.all, ∃ row ∈ store.all, Remains row row') :
    ∀ a ∈ store'.all, ∀ b ∈ store'.all, a.action ∈ keyedActions → b.action ∈ keyedActions →
      a.providerIdempotencyKey = b.providerIdempotencyKey → a = b := by
  intro a memberA b memberB actsA actsB same
  obtain ⟨a₀, oldA, remainsA⟩ := remains a memberA
  obtain ⟨b₀, oldB, remainsB⟩ := remains b memberB
  have one : a₀ = b₀ := by
    apply kept.once a₀ oldA b₀ oldB
    · exact remainsA.action ▸ actsA
    · exact remainsB.action ▸ actsB
    · rw [← remainsA.providerIdempotencyKey, same, remainsB.providerIdempotencyKey]
  refine consistent.eq_of_resourceId memberA memberB ?_
  rw [remainsA.resourceId, remainsB.resourceId, one]

theorem Kept.put {context : ProviderExecutionContext} {effect : EffectRef}
    {row : ReferenceResource} (kept : Kept store) (made : Put context effect row store store')
    (rows : store'.all = store.all ++ [row]) : Kept store' := by
  have members : ∀ other, other ∈ store'.all ↔ other ∈ store.all ∨ other = row := by
    intro other
    rw [rows, List.mem_append, List.mem_singleton]
  refine ⟨kept.consistent.put made.put, fun other member => ?_, ?_, fun other member acts => ?_⟩
  · rcases (members other).mp member with old | rfl
    · exact kept.applied other old
    · exact made.applied
  · intro a memberA b memberB actsA actsB same
    rcases (members a).mp memberA with oldA | rfl <;> rcases (members b).mp memberB with oldB | rfl
    · exact kept.once a oldA b oldB actsA actsB same
    · exact absurd same ((made.alone kept.consistent actsB).2 a oldA)
    · exact absurd same.symm ((made.alone kept.consistent actsA).2 b oldB)
    · rfl
  · rcases (members other).mp member with old | rfl
    · exact kept.keyed other old acts
    · exact (made.alone kept.consistent acts).1

theorem Kept.of_remains (kept : Kept store) (consistent : Consistent store')
    (remains : ∀ row' ∈ store'.all, ∃ row ∈ store.all, Remains row row') : Kept store' := by
  refine ⟨consistent, fun row' member => ?_, kept.once_of_remains consistent remains,
    fun row' member acts => ?_⟩
  · obtain ⟨row, old, remain⟩ := remains row' member
    exact remain.applied.trans (kept.applied row old)
  · obtain ⟨row, old, remain⟩ := remains row' member
    rw [remain.providerIdempotencyKey]
    exact kept.keyed row old (remain.action ▸ acts)

theorem Kept.step (kept : Kept store) (step : StoreStep call store store') : Kept store' := by
  have consistent := kept.consistent.step step
  have old : (∀ readings held context request, call ≠ .execute readings held context request) →
      Kept store' := by
    intro harmless
    refine kept.of_remains consistent fun row' member => ?_
    obtain remains | ⟨_, _, _, _, is, -⟩ := step.origin member
    · exact remains
    · exact absurd is (harmless _ _ _ _)
  cases step.rows with
  | same same => exact same ▸ kept
  | put is made rows => exact kept.put made rows
  | marked is => exact old fun _ _ _ _ same => nomatch is.symm.trans same

theorem Kept.after (kept : Kept adapter.store) (call : AdapterCall) :
    Kept (adapter.after lower sha256Hex call).store :=
  kept.step (after_step kept.consistent call)

theorem Kept.handled (kept : Kept adapter.store) (calls : List AdapterCall) :
    Kept (adapter.handled lower sha256Hex calls).store := by
  induction calls generalizing adapter with
  | nil => exact kept
  | cons call rest ih => exact ih (kept.after call)

theorem handled_remains (kept : Kept adapter.store) (calls : List AdapterCall)
    {row : ReferenceResource} (member : row ∈ adapter.store.all) :
    ∃ row' ∈ (adapter.handled lower sha256Hex calls).store.all, Remains row row' := by
  induction calls generalizing adapter row with
  | nil => exact ⟨row, member, .refl row⟩
  | cons call rest ih =>
    have step : StoreStep call adapter.store (adapter.after lower sha256Hex call).store :=
      after_step kept.consistent call
    obtain ⟨next, there, first⟩ := step.remains kept.consistent member
    obtain ⟨last, there', second⟩ := ih (kept.after call) there
    exact ⟨last, there', first.trans second⟩

theorem handled_new_kept (delay : Nat) (calls : List AdapterCall) :
    Kept ((ReferenceAdapter.new delay).handled lower sha256Hex calls).store :=
  Kept.handled (show Kept (ReferenceAdapter.new delay).store from kept_empty) calls

/-- Of the resources made by effects that go by keys, two under one key are one; the lookups of the
store agree with what it lists; and no resource is ever lost. -/
theorem keyed_resource_once (delay : Nat) (calls more : List AdapterCall) :
    let adapter := (ReferenceAdapter.new delay).handled lower sha256Hex calls
    let later := (ReferenceAdapter.new delay).handled lower sha256Hex (calls ++ more)
    Consistent adapter.store ∧
      (∀ row ∈ adapter.store.all, ∀ row' ∈ adapter.store.all, row.action ∈ keyedActions →
        row'.action ∈ keyedActions → row.providerIdempotencyKey = row'.providerIdempotencyKey →
          row = row') ∧
      ∀ row ∈ adapter.store.all, ∃ row' ∈ later.store.all, Remains row row' := by
  intro adapter later
  have kept : Kept adapter.store := handled_new_kept delay calls
  refine ⟨kept.consistent, kept.once, ?_⟩
  have split : later = adapter.handled lower sha256Hex more := handled_append calls more
  rw [split]
  exact fun row member => handled_remains kept more member

/-! ## Recognised for ever -/

/-- A key is given for the effects that go by keys only. -/
def Disciplined : AdapterCall → Prop
  | .execute _ _ context request =>
    context.providerIdempotencyKey ≠ none → request.effect ∈ keyedEffects
  | _ => True

/-- Only effects that go by keys have made resources under keys. -/
def KeyedOnly (store : ReferenceStore) : Prop :=
  ∀ row ∈ store.all, row.providerIdempotencyKey ≠ none → row.action ∈ keyedActions

theorem KeyedOnly.step (only : KeyedOnly store) (disciplined : Disciplined call)
    (step : StoreStep call store store') : KeyedOnly store' := by
  intro row' member keyed
  obtain ⟨row, old, remains⟩ | ⟨readings, held, context, request, rfl, made⟩ := step.origin member
  · rw [remains.action]
    exact only row old (remains.providerIdempotencyKey ▸ keyed)
  · rw [made.action]
    exact List.mem_map_of_mem (disciplined (made.key ▸ keyed))

theorem KeyedOnly.handled (only : KeyedOnly adapter.store) (kept : Kept adapter.store)
    (calls : List AdapterCall) (disciplined : ∀ call ∈ calls, Disciplined call) :
    KeyedOnly (adapter.handled lower sha256Hex calls).store := by
  induction calls generalizing adapter with
  | nil => exact only
  | cons call rest ih =>
    have step : StoreStep call adapter.store (adapter.after lower sha256Hex call).store :=
      after_step kept.consistent call
    exact ih (only.step (disciplined call (by simp)) step) (kept.after call)
      fun other member => disciplined other (List.mem_cons_of_mem _ member)

/-- The resource under a key is the one the store finds. -/
theorem byProviderKey_of_mem (kept : Kept store) (only : KeyedOnly store) {row : ReferenceResource}
    {key : String} (member : row ∈ store.all) (keyed : row.providerIdempotencyKey = some key) :
    store.byProviderKey key = some row := by
  obtain ⟨other, found⟩ := Option.ne_none_iff_exists'.mp
    (kept.consistent.providerKeys.occupied member keyed)
  obtain ⟨listed, own⟩ := kept.consistent.providerKeys.listed found
  rw [found, kept.once other listed row member]
  · exact only other listed (by rw [own]; nofun)
  · exact only row member (by rw [keyed]; nofun)
  · rw [own, keyed]

/-- Nothing has happened, and only this resource is reported. -/
def Recognises (adapter : ReferenceAdapter) (row : ReferenceResource)
    (ended : ReferenceAdapter × CallEnd ExecutionEvidence) : Prop :=
  ended.1 = adapter ∧ ∀ evidence, ended.2 = .returned evidence →
    evidence.outcome = .notApplied ∨ evidence.outcome = .applied ∧
      evidence.externalOperationId = some row.externalOperationId ∧
      evidence.externalResourceIds = [row.resourceId]

section Recognises

variable {readings : Readings} {context : ProviderExecutionContext} {row : ReferenceResource}

theorem recognises_raised {reasonCode : String} :
    Recognises adapter row (adapter, .raisedContractValidation reasonCode) :=
  ⟨rfl, fun _ ended => by cases ended⟩

theorem recognises_refused {error : NormalizedError} {status : String} {sent : Bool} :
    Recognises adapter row
      (adapter, executionFromError lower readings context .notApplied error status sent) := by
  refine ⟨rfl, fun evidence ended => .inl ?_⟩
  dsimp only [executionFromError] at ended
  obtain ⟨_, -, rfl⟩ := CallEnd.map_returned ended
  rfl

theorem recognises_applied :
    Recognises adapter row (adapter, appliedFromRow lower readings row) := by
  refine ⟨rfl, fun evidence ended => .inr ?_⟩
  dsimp only [appliedFromRow] at ended
  obtain ⟨_, -, rfl⟩ := CallEnd.map_returned ended
  exact ⟨rfl, rfl, rfl⟩

/-- An execution under a key that is known. -/
theorem execute_recognises {held : Bool} {request : ProviderExecutionRequest} {key : String}
    (effect : request.effect ∈ keyedEffects) (carried : context.providerIdempotencyKey = some key)
    (known : adapter.store.byProviderKey key = some row) :
    Recognises adapter row (adapter.execute lower sha256Hex readings held context request) := by
  unfold ReferenceAdapter.execute
  split
  · exact ⟨rfl, fun _ ended => by cases ended⟩
  cases found : descriptorOf request.effect with
  | none => exact ⟨rfl, fun _ ended => by cases ended⟩
  | some desc =>
    have mode := (providerKey_iff found).mpr effect
    dsimp only [ReferenceAdapter.executeBody]
    cases validateExecution request with
    | some error => exact recognises_refused
    | none =>
      cases resourceIdOf request.arguments with
      | none => exact recognises_raised
      | some resourceId =>
        have seen : adapter.earlier desc context request resourceId = .keyed row := by
          unfold ReferenceAdapter.earlier
          rw [if_pos mode, carried, Option.bind_some, known]
        dsimp only
        rw [seen]
        split
        · exact recognises_refused
        split
        · exact recognises_refused
        dsimp only
        split
        · exact recognises_applied
        · exact recognises_refused

/-- The same request under a key that is known gets the result of the first one. -/
theorem execute_replays {held : Bool} {request : ProviderExecutionRequest} {key resourceId : String}
    (effect : request.effect ∈ keyedEffects) (carried : context.providerIdempotencyKey = some key)
    (known : adapter.store.byProviderKey key = some row)
    (accepted : validateExecution request = none)
    (intime : context.deadline.any (fun deadline =>
      decide (deadline.value ≤ readings.checked.value)) = false)
    (named : resourceIdOf request.arguments = some resourceId)
    (same : row.argumentsFingerprint = fingerprint sha256Hex resourceId) :
    adapter.execute lower sha256Hex readings held context request =
      (adapter, appliedFromRow lower readings row) := by
  have supported : request.effect ∈ referenceEffects := by
    have all : ∀ effect ∈ keyedEffects, effect ∈ referenceEffects := by decide
    exact all request.effect effect
  obtain ⟨desc, found⟩ : ∃ desc, descriptorOf request.effect = some desc := by
    have all : ∀ effect ∈ keyedEffects, ∃ desc, descriptorOf effect = some desc := by
      intro effect member
      simp only [keyedEffects, List.mem_cons, List.not_mem_nil, or_false] at member
      obtain rfl | rfl | rfl := member <;> exact ⟨_, rfl⟩
    exact all request.effect effect
  have mode := (providerKey_iff found).mpr effect
  have seen : adapter.earlier desc context request resourceId = .keyed row := by
    unfold ReferenceAdapter.earlier
    rw [if_pos mode, carried, Option.bind_some, known]
  have given : ¬(desc.idempotencyMode = .providerKey ∧ context.providerIdempotencyKey = none) := by
    rw [carried]
    exact fun none => nomatch none.2
  unfold ReferenceAdapter.execute
  rw [if_neg (not_not.mpr supported), found]
  dsimp only [ReferenceAdapter.executeBody]
  rw [accepted, named]
  dsimp only
  rw [if_neg (by rw [intime]; exact Bool.false_ne_true), if_neg given, seen]
  exact if_pos same

end Recognises

section Verification

variable {readings : Readings} {held : Bool} {context : ProviderExecutionContext}
  {request : VerificationRequest} {key : String} {row : ReferenceResource}
  {evidence : VerificationEvidence}

theorem lookupVerifyRow_listed (consistent : Consistent store)
    (found : store.lookupVerifyRow context request = some row) : row ∈ store.all := by
  rw [lookupVerifyRow, Option.or_eq_some_iff, Option.or_eq_some_iff, Option.bind_eq_some_iff,
    Option.bind_eq_some_iff, Option.bind_eq_some_iff] at found
  obtain ⟨_, -, at_⟩ | ⟨-, ⟨_, -, at_⟩ | ⟨-, _, -, at_⟩⟩ := found
  · exact (consistent.externalIds.listed at_).1
  · exact (consistent.resourceIds.listed at_).1
  · exact (consistent.providerKeys.listed at_).1

/-- The key leads to a resource, unless the ids of the request lead to one. -/
theorem lookupVerifyRow_known (carried : context.providerIdempotencyKey = some key)
    (known : store.byProviderKey key = some row) :
    ∃ found, store.lookupVerifyRow context request = some found := by
  rw [lookupVerifyRow, carried, Option.bind_some, known]
  cases request.externalOperationId.bind store.byExternalOperationId with
  | some found => exact ⟨found, rfl⟩
  | none =>
    cases request.externalResourceIds.head?.bind store.byResourceId with
    | some found => exact ⟨found, rfl⟩
    | none => exact ⟨row, rfl⟩

theorem verifyUnknown_outcome {source : EvidenceSource} {status : String}
    {error : NormalizedError}
    (ended : verifyUnknown lower readings source status error = .returned evidence) :
    evidence.outcome = .unknown := by
  dsimp only [verifyUnknown] at ended
  obtain ⟨_, -, rfl⟩ := CallEnd.map_returned ended
  rfl

theorem verifyOutcome_outcome {source : EvidenceSource} {outcome : EffectOutcome}
    {row : Option ReferenceResource}
    (ended : verifyOutcome lower readings outcome source row = .returned evidence) :
    evidence.outcome = outcome := by
  dsimp only [verifyOutcome] at ended
  obtain ⟨_, -, rfl⟩ := CallEnd.map_returned ended
  rfl

/-- A resource that is found is never said to be missing. -/
theorem verifyOriginalTarget_found {effect : EffectRef} {source : EvidenceSource}
    (applied : row.applied = true)
    (ended : adapter.verifyOriginalTarget lower readings held effect (some row) source =
      .returned evidence) : evidence.outcome ≠ .notApplied := by
  unfold ReferenceAdapter.verifyOriginalTarget at ended
  rw [Option.filter_some, if_pos applied] at ended
  dsimp only at ended
  split at ended
  · rw [verifyUnknown_outcome ended]
    nofun
  · rw [verifyOutcome_outcome ended]
    nofun

/-- A verification of the effect itself that comes with a key that is known. -/
theorem verify_known (kept : Kept adapter.store)
    (carried : context.providerIdempotencyKey = some key)
    (known : adapter.store.byProviderKey key = some row)
    (unforced : adapter.verifyScripts.headD .store = .store)
    (target : request.target = .originalEffect)
    (ended : (adapter.verify lower readings held context request).2 = .returned evidence) :
    evidence.outcome ≠ .notApplied := by
  obtain ⟨found, at_⟩ : ∃ found, adapter.store.lookupVerifyRow context request = some found :=
    lookupVerifyRow_known carried known
  have applied := kept.applied found (lookupVerifyRow_listed kept.consistent at_)
  unfold ReferenceAdapter.verify at ended
  split at ended
  · cases ended
  cases descriptor : descriptorOf request.effect with
  | none =>
    rw [descriptor] at ended
    cases ended
  | some desc =>
    rw [descriptor] at ended
    dsimp only [ReferenceAdapter.verifyBody] at ended
    rw [unforced, target, at_] at ended
    split at ended
    · dsimp only [unsupportedVerification] at ended
      rw [verifyUnknown_outcome ended]
      nofun
    · rw [if_neg (by simp)] at ended
      exact verifyOriginalTarget_found applied ended

end Verification

/-- Once an effect that goes by keys has made a resource, every later execution under its key, by
any such effect, leaves the adapter as it is and reports that resource or nothing applied; and no
verification of the effect under the key says NOT_APPLIED unless a script makes it. -/
theorem key_recognised (delay : Nat) {calls more : List AdapterCall}
    (disciplined : ∀ call ∈ calls ++ more, Disciplined call) {row : ReferenceResource}
    (member : row ∈ ((ReferenceAdapter.new delay).handled lower sha256Hex calls).store.all)
    {key : String} (keyed : row.providerIdempotencyKey = some key)
    {context : ProviderExecutionContext} (carried : context.providerIdempotencyKey = some key)
    (readings : Readings) (held : Bool) :
    let adapter := (ReferenceAdapter.new delay).handled lower sha256Hex (calls ++ more)
    (∀ request : ProviderExecutionRequest, request.effect ∈ keyedEffects →
      Recognises adapter row (adapter.execute lower sha256Hex readings held context request) ∧
      ∀ resourceId, validateExecution request = none →
        resourceIdOf request.arguments = some resourceId →
        row.argumentsFingerprint = fingerprint sha256Hex resourceId →
        context.deadline.any (fun deadline =>
          decide (deadline.value ≤ readings.checked.value)) = false →
        (adapter.execute lower sha256Hex readings held context request).2 =
          appliedFromRow lower readings row) ∧
    ∀ (request : VerificationRequest) evidence, request.target = .originalEffect →
      adapter.verifyScripts.headD .store = .store →
        (adapter.verify lower readings held context request).2 = .returned evidence →
          evidence.outcome ≠ .notApplied := by
  intro adapter
  have before : Kept ((ReferenceAdapter.new delay).handled lower sha256Hex calls).store :=
    handled_new_kept delay calls
  have kept : Kept adapter.store := handled_new_kept delay (calls ++ more)
  have only : KeyedOnly adapter.store :=
    KeyedOnly.handled (show KeyedOnly (ReferenceAdapter.new delay).store from
      fun _ member => by cases member) (show Kept (ReferenceAdapter.new delay).store from
      kept_empty) (calls ++ more) disciplined
  obtain ⟨later, there, remains⟩ : ∃ later ∈ adapter.store.all, Remains row later := by
    have split : adapter = _ := handled_append calls more
    rw [split]
    exact handled_remains before more member
  have known : adapter.store.byProviderKey key = some later :=
    byProviderKey_of_mem kept only there (remains.providerIdempotencyKey.trans keyed)
  refine ⟨fun request effect => ⟨?_, fun resourceId accepted named same intime => ?_⟩,
    fun request evidence target unforced ended =>
      verify_known kept carried known unforced target ended⟩
  · have recognised : Recognises adapter later
        (adapter.execute lower sha256Hex readings held context request) :=
      execute_recognises effect carried known
    refine ⟨recognised.1, fun evidence ended => (recognised.2 evidence ended).imp_right ?_⟩
    rw [remains.externalOperationId, remains.resourceId]
    exact id
  · rw [execute_replays effect carried known accepted intime named
      (remains.argumentsFingerprint.trans same), appliedFromRow, remains.externalOperationId,
      remains.resourceId]
    rfl

/-- SHA-256, on the fingerprinted arguments of the requests for the resource `r`. -/
def sampleSha256 : JsonValue → String :=
  fun _ => "845a58d17b796546ca69cb7a609c02169c305f02eda2ae3bf7f142d6e0c43262"

/-- A request under the key `"key"`, sent once and answered with a timeout. -/
def lostRequest : List AdapterCall :=
  [.enqueueExecute .appliedResponseLost,
    .execute ⟨⟨1⟩, ⟨2⟩, ⟨3⟩⟩ false ⟨idOf "op", idOf "attempt-1", "key", some "key", none, none⟩
      ⟨effectMutateProviderKey, .object [("resource_id", .str "r")]⟩]

def lostResource : ReferenceResource where
  resourceId := "r"
  action := "mutate_provider_key"
  externalOperationId := "refop:" ++ (idOf "op").value ++ ":" ++ (idOf "attempt-1").value
  providerIdempotencyKey := some "key"
  argumentsFingerprint := fingerprint sampleSha256 "r"
  applied := true
  compensated := false
  mitigated := false
  createdAt := ⟨2⟩

/-- The retry of the lost request is answered with the first attempt's result. -/
theorem key_recognised_retry :
    lostResource ∈ ((ReferenceAdapter.new 0).handled id sampleSha256 lostRequest).store.all ∧
      (((ReferenceAdapter.new 0).handled id sampleSha256 (lostRequest ++ [])).execute id
        sampleSha256 ⟨⟨4⟩, ⟨5⟩, ⟨6⟩⟩ false
        ⟨idOf "op", idOf "attempt-2", "key", some "key", none, none⟩
        ⟨effectMutateProviderKey, .object [("resource_id", .str "r")]⟩).2 =
          appliedFromRow id ⟨⟨4⟩, ⟨5⟩, ⟨6⟩⟩ lostResource := by
  have member : lostResource ∈
      ((ReferenceAdapter.new 0).handled id sampleSha256 lostRequest).store.all := by
    decide +kernel
  have disciplined : ∀ call ∈ lostRequest ++ [], Disciplined call := by
    intro call inside
    simp only [lostRequest, List.append_nil, List.mem_cons, List.not_mem_nil, or_false] at inside
    obtain rfl | rfl := inside
    · trivial
    · exact fun _ => by decide
  exact ⟨member, (((key_recognised 0 disciplined member rfl rfl ⟨⟨4⟩, ⟨5⟩, ⟨6⟩⟩ false).1 _
    (by decide)).2 "r" (by decide) rfl rfl rfl)⟩

end Stateback.Providers.Reference
