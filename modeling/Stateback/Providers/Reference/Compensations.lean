import Stateback.Providers.Reference.Reports
/-!
# One compensation for each key

A compensation that has marked a resource keeps its key, and a later compensation under that key
repeats its answer.
-/

namespace Stateback.Providers.Reference

open Domain Dictionary ReferenceStore

variable {lower : String → String} {sha256Hex : JsonValue → String}
  {adapter after : ReferenceAdapter} {store store' : ReferenceStore} {readings : Readings}
  {request : CompensationRequest} {row : ReferenceResource} {key : String} {call : AdapterCall}

/-! ## Keys of compensations -/

/-- The call executes nothing under the key. -/
def Spares (key : String) : AdapterCall → Prop
  | .execute _ _ context _ => context.providerIdempotencyKey ≠ some key
  | _ => True

def NoneUnder (key : String) (store : ReferenceStore) : Prop :=
  ∀ row ∈ store.all, row.providerIdempotencyKey ≠ some key

theorem NoneUnder.step (none : NoneUnder key store) (spares : Spares key call)
    (step : StoreStep call store store') : NoneUnder key store' := by
  intro row' member
  obtain ⟨row, old, remains⟩ | ⟨readings, held, context, request, rfl, made⟩ := step.origin member
  · rw [remains.providerIdempotencyKey]
    exact none row old
  · rw [made.key]
    exact spares

theorem NoneUnder.byProviderKey (none : NoneUnder key store) (consistent : Consistent store) :
    store.byProviderKey key = Option.none := by
  cases found : store.byProviderKey key with
  | none => rfl
  | some row =>
    obtain ⟨listed, own⟩ := consistent.providerKeys.listed found
    exact absurd own (none row listed)

/-- Only a compensation that finds no marked resource under its key takes one. -/
theorem after_compensationKeys (call : AdapterCall) :
    (adapter.after lower sha256Hex call).compensationKeys = adapter.compensationKeys ∨
      ∃ readings request key row kind, call = .compensate readings request ∧
        request.providerIdempotencyKey = some key ∧ adapter.compensated? key = none ∧
        adapter.store.replace (markedRow row kind) =
          .ok (adapter.after lower sha256Hex call).store ∧
        (adapter.after lower sha256Hex call).compensationKeys =
          adapter.compensationKeys.set key row.resourceId := by
  cases call with
  | execute readings held context request =>
    left
    rw [ReferenceAdapter.after]
    unfold ReferenceAdapter.execute
    split
    · rfl
    split
    · rfl
    dsimp only [ReferenceAdapter.executeBody]
    split
    · rfl
    split
    · rfl
    split
    · rfl
    split
    · rfl
    split
    · split <;> rfl
    · split <;> rfl
    · dsimp only [ReferenceAdapter.executeScripted]
      split
      · rfl
      split
      · split <;> rfl
      · rfl
  | verify readings held context request =>
    left
    rw [ReferenceAdapter.after]
    unfold ReferenceAdapter.verify
    split
    · rfl
    split
    · rfl
    dsimp only [ReferenceAdapter.verifyBody]
    split
    · rfl
    split
    · rfl
    split <;> rfl
  | compensate readings request =>
    rw [ReferenceAdapter.after]
    unfold ReferenceAdapter.compensate
    dsimp only
    split
    · exact .inl rfl
    split
    · exact .inl rfl
    split
    · exact .inl rfl
    next unused =>
    split
    · exact .inl rfl
    split
    · exact .inl rfl
    next row _ _ desc _ =>
    split
    · exact .inl rfl
    dsimp only [ReferenceAdapter.compensateRow]
    split
    · exact .inl rfl
    split
    · exact .inl rfl
    next store replaced =>
    cases carried : request.providerIdempotencyKey with
    | none => exact .inl rfl
    | some key =>
      rw [carried, Option.bind_some] at unused
      refine .inr ⟨readings, request, key, row, desc.compensationKind, rfl, carried, unused,
        replaced, ?_⟩
      rw [(remains_marked row desc.compensationKind).resourceId]
  | enqueueExecute => exact .inl rfl
  | enqueueVerify => exact .inl rfl
  | enqueueCompensate => exact .inl rfl

/-! ## Under a key that has been used -/

theorem compensated?_iff (free : adapter.store.byProviderKey key = none) :
    adapter.compensated? key = some row ↔ ∃ resourceId,
      adapter.compensationKeys key = some resourceId ∧
      adapter.store.byResourceId resourceId = some row ∧ Marked row := by
  rw [ReferenceAdapter.compensated?, free, Option.none_or, Option.filter_eq_some_iff,
    Option.bind_eq_some_iff]
  constructor
  · rintro ⟨⟨resourceId, kept, found⟩, marked⟩
    exact ⟨resourceId, kept, found, marked⟩
  · rintro ⟨resourceId, kept, found, marked⟩
    exact ⟨⟨resourceId, kept, found⟩, marked⟩

theorem Marked.later {row' : ReferenceResource} (marked : Marked row) (remains : Remains row row') :
    Marked row' := by
  simp only [Marked, Bool.or_eq_true] at marked ⊢
  exact marked.imp remains.compensated remains.mitigated

/-- The resource a key has been used for stays the one, whatever is asked. -/
theorem compensated?_after (kept : Kept adapter.store) (none : NoneUnder key adapter.store)
    (spares : Spares key call) (used : adapter.compensated? key = some row) :
    ∃ row', (adapter.after lower sha256Hex call).compensated? key = some row' ∧
      Remains row row' := by
  have step : StoreStep call adapter.store (adapter.after lower sha256Hex call).store :=
    after_step kept.consistent call
  have consistent := kept.consistent.step step
  obtain ⟨resourceId, keyed, found, marked⟩ :=
    (compensated?_iff (none.byProviderKey kept.consistent)).mp used
  obtain ⟨listed, own⟩ := kept.consistent.resourceIds.listed found
  obtain ⟨row', there, remains⟩ := step.remains kept.consistent listed
  refine ⟨row', (compensated?_iff ((none.step spares step).byProviderKey consistent)).mpr
    ⟨resourceId, ?_, ?_, marked.later remains⟩, remains⟩
  · obtain same | ⟨_, _, other, taken, _, -, -, unused, -, set_⟩ :=
      @after_compensationKeys lower sha256Hex adapter call
    · rw [same, keyed]
    · have differs : key ≠ other := by
        rintro rfl
        exact nomatch used.symm.trans unused
      rw [set_, set_of_ne differs, keyed]
  · rw [← Option.some.inj own, ← remains.resourceId]
    exact consistent.byResourceId_of_mem there

theorem compensated?_handled (kept : Kept adapter.store) (none : NoneUnder key adapter.store)
    (calls : List AdapterCall) (spared : ∀ call ∈ calls, Spares key call)
    (used : adapter.compensated? key = some row) :
    ∃ row', (adapter.handled lower sha256Hex calls).compensated? key = some row' := by
  induction calls generalizing adapter row with
  | nil => exact ⟨row, used⟩
  | cons call rest ih =>
    have step : StoreStep call adapter.store (adapter.after lower sha256Hex call).store :=
      after_step kept.consistent call
    obtain ⟨row', used', -⟩ := compensated?_after kept none (spared call (by simp)) used
    exact ih (kept.after call) (none.step (spared call (by simp)) step)
      (fun other member => spared other (List.mem_cons_of_mem _ member)) used'

/-- What may have been applied has used the key. -/
def Uses (key : String) (ended : ReferenceAdapter × CallEnd CompensationEvidence) : Prop :=
  ∀ evidence, ended.2 = .returned evidence → evidence.outcome ≠ .notApplied →
    ∃ row, ended.1.compensated? key = some row

theorem uses_notApplied {error : NormalizedError} :
    Uses key (after, compensationNotApplied lower readings error) := by
  intro evidence ended acted
  dsimp only [compensationNotApplied] at ended
  split at ended
  · obtain rfl := CallEnd.returned.inj ended
    exact absurd rfl acted
  · dsimp only [compensationEvidence] at ended
    obtain ⟨_, -, rfl⟩ := CallEnd.map_returned ended
    exact absurd rfl acted

theorem uses_compensateRow {desc : EffectDescriptor} (kept : Kept adapter.store)
    (none : NoneUnder key adapter.store) (carried : request.providerIdempotencyKey = some key)
    (listed : row ∈ adapter.store.all) :
    Uses key (adapter.compensateRow lower readings request row desc) := by
  dsimp only [ReferenceAdapter.compensateRow]
  split
  · exact uses_notApplied
  split
  · exact fun _ ended => by cases ended
  next store replaced =>
    intro evidence ended acted
    have step : StoreStep (.compensate readings request) adapter.store store :=
      .marked listed replaced
    have consistent := kept.consistent.step step
    have spares : Spares key (.compensate readings request) := trivial
    have free := (none.step spares step).byProviderKey consistent
    refine ⟨markedRow row desc.compensationKind, (compensated?_iff free).mpr
      ⟨(markedRow row desc.compensationKind).resourceId, ?_, ?_, marked_iff ..⟩⟩
    · rw [carried]
      exact set_self ..
    · exact consistent.byResourceId_of_mem (replace_listed listed replaced)

theorem uses_compensate (kept : Kept adapter.store) (none : NoneUnder key adapter.store)
    (carried : request.providerIdempotencyKey = some key) :
    Uses key (adapter.compensate lower readings request) := by
  unfold ReferenceAdapter.compensate
  dsimp only
  split
  · exact uses_notApplied
  split
  · exact fun _ ended => by cases ended
  split
  next row replayed =>
    rw [carried, Option.bind_some] at replayed
    exact fun _ _ _ => ⟨row, replayed⟩
  split
  · exact uses_notApplied
  next row found =>
  split
  · exact fun _ ended => by cases ended
  split
  · intro evidence ended acted
    obtain rfl := CallEnd.returned.inj ended
    exact absurd rfl acted
  · exact uses_compensateRow kept none carried (lookup_listed kept.consistent found)

theorem resourceIdOf_of_accepted {arguments : JsonValue}
    (accepted : argumentsError arguments = none) :
    ∃ resourceId, resourceIdOf arguments = some resourceId := by
  unfold argumentsError at accepted
  unfold resourceIdOf
  split at accepted
  next items =>
    split at accepted
    · cases accepted
    next value found =>
      rw [found]
      exact ⟨value, rfl⟩
    · cases accepted
  · cases accepted

/-- A compensation under a key that has been used. -/
theorem compensate_replays (carried : request.providerIdempotencyKey = some key)
    (used : adapter.compensated? key = some row) :
    (adapter.compensate lower readings request).1 = adapter ∧
      (argumentsError (request.compensationArguments.getD .null) = none →
        (adapter.compensate lower readings request).2 = compensationReplay lower readings row) := by
  unfold ReferenceAdapter.compensate
  rw [carried, Option.bind_some, used]
  dsimp only
  cases accepted : argumentsError (request.compensationArguments.getD .null) with
  | some error => exact ⟨rfl, nofun⟩
  | none =>
    obtain ⟨resourceId, named⟩ := resourceIdOf_of_accepted accepted
    rw [named]
    exact ⟨rfl, fun _ => rfl⟩

theorem NoneUnder.handled (none : NoneUnder key adapter.store) (kept : Kept adapter.store)
    (calls : List AdapterCall) (spared : ∀ call ∈ calls, Spares key call) :
    NoneUnder key (adapter.handled lower sha256Hex calls).store := by
  induction calls generalizing adapter with
  | nil => exact none
  | cons call rest ih =>
    have step : StoreStep call adapter.store (adapter.after lower sha256Hex call).store :=
      after_step kept.consistent call
    exact ih (none.step (spared call (by simp)) step) (kept.after call)
      fun other member => spared other (List.mem_cons_of_mem _ member)

def undoKey : String := compensationIdempotencyIdentity (idOf "comp")

def sampleUndo (attemptId : String) : CompensationRequest where
  originalOperationId := idOf "op"
  compensationId := idOf "comp"
  compensationAttemptId := idOf attemptId
  originalEvidence := []
  compensationArguments := some (.object [("resource_id", .str "r")])
  idempotencyIdentity := undoKey
  providerIdempotencyKey := some undoKey

def sampleUndone : CompensationEvidence where
  outcome := .unknown
  evidence := some
    { source := .executionResponse
      provider := referenceProvider
      observedAt := ⟨6⟩
      providerStatus := some "timeout"
      providerRequestId := some ("refreq:" ++ (idOf "undo-1").value)
      externalOperationId := none
      externalResourceIds := []
      evidenceFields := .object []
      rawReference := none }
  error := some (normError .transientTransport "ref.timeout.after_send" true)
  externalOperationId := none

end Stateback.Providers.Reference
