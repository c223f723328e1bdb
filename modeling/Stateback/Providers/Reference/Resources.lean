import Stateback.Providers.Reference.Adapter
/-!
# What the reference provider holds

Any calls in any order, with any scripts and clock readings, on one adapter.  A call leaves the
store alone, puts one resource, or marks one; so resources are never lost, and a key that a resource
was made under stays recognised.
-/

namespace Stateback.Providers.Reference

open Domain Dictionary ReferenceStore

variable (lower : String → String) (sha256Hex : JsonValue → String)

/-! ## Calls -/

inductive AdapterCall where
  | execute (readings : Readings) (held : Bool) (context : ProviderExecutionContext)
      (request : ProviderExecutionRequest)
  | verify (readings : Readings) (held : Bool) (context : ProviderExecutionContext)
      (request : VerificationRequest)
  | compensate (readings : Readings) (request : CompensationRequest)
  | enqueueExecute (script : ReferenceExecuteScript)
  | enqueueVerify (script : ReferenceVerifyScript)
  | enqueueCompensate (script : ReferenceCompensateScript)
deriving DecidableEq

def ReferenceAdapter.after (adapter : ReferenceAdapter) : AdapterCall → ReferenceAdapter
  | .execute readings held context request =>
    (adapter.execute lower sha256Hex readings held context request).1
  | .verify readings held context request => (adapter.verify lower readings held context request).1
  | .compensate readings request => (adapter.compensate lower readings request).1
  | .enqueueExecute script =>
    { adapter with executeScripts := adapter.executeScripts ++ [script] }
  | .enqueueVerify script => { adapter with verifyScripts := adapter.verifyScripts ++ [script] }
  | .enqueueCompensate script =>
    { adapter with compensateScripts := adapter.compensateScripts ++ [script] }

def ReferenceAdapter.handled (adapter : ReferenceAdapter) (calls : List AdapterCall) :
    ReferenceAdapter :=
  calls.foldl (ReferenceAdapter.after lower sha256Hex) adapter

variable {lower sha256Hex} {adapter : ReferenceAdapter} {store store' : ReferenceStore}

theorem handled_append (calls more : List AdapterCall) :
    adapter.handled lower sha256Hex (calls ++ more) =
      (adapter.handled lower sha256Hex calls).handled lower sha256Hex more :=
  List.foldl_append

/-! ## What one call does to the store -/

/-- The resource is new, was made for this execution, and its key was not known before if the effect
goes by keys. -/
structure Put (context : ProviderExecutionContext) (effect : EffectRef) (row : ReferenceResource)
    (store store' : ReferenceStore) : Prop where
  put : store.put row = .ok store'
  action : row.action = effect.action
  supported : effect ∈ referenceEffects
  key : row.providerIdempotencyKey = context.providerIdempotencyKey
  operation : row.externalOperationId =
    "refop:" ++ context.operationId.value ++ ":" ++ context.attemptId.value
  applied : row.applied = true
  unmarked : row.compensated = false ∧ row.mitigated = false
  fresh : effect ∈ keyedEffects →
    ∃ key, context.providerIdempotencyKey = some key ∧ store.byProviderKey key = none

inductive StoreStep : AdapterCall → ReferenceStore → ReferenceStore → Prop
  | same {call store} : StoreStep call store store
  | put {readings held context request row store store'}
      (made : Put context request.effect row store store') :
      StoreStep (.execute readings held context request) store store'
  | marked {readings request row kind store store'} (listed : row ∈ store.all)
      (replaced : store.replace (markedRow row kind) = .ok store') :
      StoreStep (.compensate readings request) store store'

theorem earlier_nothing {desc : EffectDescriptor} {context : ProviderExecutionContext}
    {request : ProviderExecutionRequest} {resourceId key : String}
    (nothing : adapter.earlier desc context request resourceId = .nothing)
    (mode : desc.idempotencyMode = .providerKey)
    (keyed : context.providerIdempotencyKey = some key) :
    adapter.store.byProviderKey key = none := by
  unfold ReferenceAdapter.earlier at nothing
  rw [if_pos mode, keyed, Option.bind_some] at nothing
  cases found : adapter.store.byProviderKey key with
  | none => rfl
  | some row => simp [found] at nothing

theorem executeScripted_step {readings : Readings} {held : Bool}
    {context : ProviderExecutionContext} {request : ProviderExecutionRequest}
    {resourceId : String} (supported : request.effect ∈ referenceEffects)
    (fresh : request.effect ∈ keyedEffects →
      ∃ key, context.providerIdempotencyKey = some key ∧ adapter.store.byProviderKey key = none) :
    StoreStep (.execute readings held context request) adapter.store
      (adapter.executeScripted lower sha256Hex readings held context request
        resourceId).1.store := by
  unfold ReferenceAdapter.executeScripted
  dsimp only
  split
  · exact .same
  split
  · cases added : adapter.nextExecute.2.store.put (mutationRow adapter.nextExecute.2.store readings
        held context request.effect resourceId (fingerprint sha256Hex resourceId)) with
    | error => exact .same
    | ok store => exact .put ⟨added, rfl, supported, rfl, rfl, rfl, ⟨rfl, rfl⟩, fresh⟩
  · exact .same

theorem execute_step (readings : Readings) (held : Bool) (context : ProviderExecutionContext)
    (request : ProviderExecutionRequest) :
    StoreStep (.execute readings held context request) adapter.store
      (adapter.execute lower sha256Hex readings held context request).1.store := by
  unfold ReferenceAdapter.execute
  split
  · exact .same
  next supported =>
  rw [not_not] at supported
  cases found : descriptorOf request.effect with
  | none => exact .same
  | some desc =>
    dsimp only [ReferenceAdapter.executeBody]
    cases validateExecution request with
    | some error => exact .same
    | none =>
      cases resourceIdOf request.arguments with
      | none => exact .same
      | some resourceId =>
        dsimp only
        split
        · exact .same
        split
        · exact .same
        next keyed =>
        cases nothing : adapter.earlier desc context request resourceId with
        | keyed row => dsimp only; split <;> exact .same
        | natural row => dsimp only; split <;> exact .same
        | nothing =>
          refine executeScripted_step supported fun member => ?_
          have mode := (providerKey_iff found).mpr member
          obtain ⟨key, carried⟩ := Option.ne_none_iff_exists'.mp fun none => keyed ⟨mode, none⟩
          exact ⟨key, carried, earlier_nothing nothing mode carried⟩

theorem verify_store (readings : Readings) (held : Bool) (context : ProviderExecutionContext)
    (request : VerificationRequest) :
    (adapter.verify lower readings held context request).1.store = adapter.store := by
  unfold ReferenceAdapter.verify
  split
  · rfl
  cases descriptorOf request.effect with
  | none => rfl
  | some desc =>
    dsimp only [ReferenceAdapter.verifyBody]
    split
    · rfl
    split
    · rfl
    · cases request.target <;> rfl

theorem lookup_listed (consistent : Consistent store) {request : CompensationRequest}
    {resourceId : String} {row : ReferenceResource}
    (found : store.lookupCompensationRow request resourceId = some row) : row ∈ store.all := by
  have evidenced : ∀ evidence, store.evidenced evidence = some row → row ∈ store.all := by
    intro evidence shown
    rw [evidenced, Option.or_eq_some_iff, Option.bind_eq_some_iff, Option.bind_eq_some_iff] at shown
    obtain ⟨_, -, at_⟩ | ⟨-, _, -, at_⟩ := shown
    · exact (consistent.resourceIds.listed at_).1
    · exact (consistent.externalIds.listed at_).1
  rw [lookupCompensationRow, Option.or_eq_some_iff, Option.or_eq_some_iff, Option.bind_eq_some_iff]
    at found
  obtain shown | ⟨-, ⟨_, -, at_⟩ | ⟨-, at_⟩⟩ := found
  · obtain ⟨evidence, -, shown⟩ := List.exists_of_findSome?_eq_some shown
    exact evidenced evidence shown
  · exact (consistent.providerKeys.listed at_).1
  · exact (consistent.resourceIds.listed at_).1

theorem compensate_step (consistent : Consistent adapter.store) (readings : Readings)
    (request : CompensationRequest) :
    StoreStep (.compensate readings request) adapter.store
      (adapter.compensate lower readings request).1.store := by
  unfold ReferenceAdapter.compensate
  dsimp only
  cases argumentsError (request.compensationArguments.getD .null) with
  | some error => exact .same
  | none =>
    cases resourceIdOf (request.compensationArguments.getD .null) with
    | none => exact .same
    | some resourceId =>
      cases request.providerIdempotencyKey.bind adapter.compensated? with
      | some row => exact .same
      | none =>
        dsimp only
        cases found : adapter.store.lookupCompensationRow request resourceId with
        | none => exact .same
        | some row =>
          dsimp only
          cases descriptorForAction row.action with
          | none => exact .same
          | some desc =>
            dsimp only [ReferenceAdapter.compensateRow]
            split
            · exact .same
            split
            · exact .same
            split
            · exact .same
            next store replaced => exact .marked (lookup_listed consistent found) replaced

/-- The specification of a call. -/
theorem after_step (consistent : Consistent adapter.store) (call : AdapterCall) :
    StoreStep call adapter.store (adapter.after lower sha256Hex call).store := by
  cases call with
  | execute readings held context request => exact execute_step readings held context request
  | verify readings held context request =>
    rw [ReferenceAdapter.after, verify_store]
    exact .same
  | compensate readings request => exact compensate_step consistent readings request
  | enqueueExecute => exact .same
  | enqueueVerify => exact .same
  | enqueueCompensate => exact .same

/-! ## Resources after a step -/

/-- What is never changed of a resource, and its marks, which are never taken away. -/
structure Remains (row row' : ReferenceResource) : Prop extends SameKeys row row' where
  action : row'.action = row.action
  argumentsFingerprint : row'.argumentsFingerprint = row.argumentsFingerprint
  applied : row'.applied = row.applied
  createdAt : row'.createdAt = row.createdAt
  compensated : row.compensated = true → row'.compensated = true
  mitigated : row.mitigated = true → row'.mitigated = true

theorem Remains.refl (row : ReferenceResource) : Remains row row :=
  ⟨⟨rfl, rfl, rfl⟩, rfl, rfl, rfl, rfl, id, id⟩

theorem Remains.trans {row row' row'' : ReferenceResource} (first : Remains row row')
    (second : Remains row' row'') : Remains row row'' where
  resourceId := second.resourceId.trans first.resourceId
  externalOperationId := second.externalOperationId.trans first.externalOperationId
  providerIdempotencyKey := second.providerIdempotencyKey.trans first.providerIdempotencyKey
  action := second.action.trans first.action
  argumentsFingerprint := second.argumentsFingerprint.trans first.argumentsFingerprint
  applied := second.applied.trans first.applied
  createdAt := second.createdAt.trans first.createdAt
  compensated := second.compensated ∘ first.compensated
  mitigated := second.mitigated ∘ first.mitigated

theorem remains_marked (row : ReferenceResource) (kind : CompensationKind) :
    Remains row (markedRow row kind) := by
  unfold markedRow
  split
  · exact ⟨⟨rfl, rfl, rfl⟩, rfl, rfl, rfl, rfl, id, fun _ => rfl⟩
  · exact ⟨⟨rfl, rfl, rfl⟩, rfl, rfl, rfl, rfl, fun _ => rfl, id⟩

theorem marked_iff (row : ReferenceResource) (kind : CompensationKind) :
    ((markedRow row kind).compensated || (markedRow row kind).mitigated) = true := by
  unfold markedRow
  split <;> simp

/-- The rows after a step: those there were, in their order, some marked, and at most one more. -/
inductive Rows (call : AdapterCall) (store store' : ReferenceStore) : Prop
  | same (same : store' = store)
  | put {readings held context request row}
      (is : call = .execute readings held context request)
      (made : Put context request.effect row store store')
      (rows : store'.all = store.all ++ [row])
  | marked {readings request row kind} (is : call = .compensate readings request)
      (listed : row ∈ store.all)
      (rows : store'.all = store.all.map fun item =>
        if item.resourceId = row.resourceId then markedRow row kind else item)

theorem StoreStep.rows {call : AdapterCall} (step : StoreStep call store store') :
    Rows call store store' := by
  cases step with
  | same => exact .same rfl
  | put made =>
    obtain ⟨-, rfl⟩ := put_ok made.put
    exact .put rfl made rfl
  | @marked _ _ row kind _ _ listed replaced =>
    obtain ⟨existing, -, rfl⟩ := replace_ok replaced
    have same : (markedRow row kind).resourceId = row.resourceId :=
      (remains_marked row kind).resourceId
    exact .marked rfl listed (by rw [same])

theorem ReferenceStore.Consistent.step {call : AdapterCall} (consistent : Consistent store)
    (step : StoreStep call store store') : Consistent store' := by
  cases step with
  | same => exact consistent
  | put made => exact consistent.put made.put
  | marked listed replaced =>
    exact consistent.replace listed (remains_marked _ _).toSameKeys replaced

/-- No resource is lost. -/
theorem StoreStep.remains {call : AdapterCall} (consistent : Consistent store)
    (step : StoreStep call store store') {row : ReferenceResource} (member : row ∈ store.all) :
    ∃ row' ∈ store'.all, Remains row row' := by
  cases step.rows with
  | same same => exact ⟨row, same ▸ member, .refl row⟩
  | put is made rows => exact ⟨row, rows ▸ List.mem_append_left _ member, .refl row⟩
  | @marked _ _ old kind is listed rows =>
    by_cases same : row.resourceId = old.resourceId
    · obtain rfl := consistent.eq_of_resourceId member listed same
      exact ⟨_, rows ▸ List.mem_map.mpr ⟨row, member, if_pos rfl⟩, remains_marked row kind⟩
    · exact ⟨row, rows ▸ List.mem_map.mpr ⟨row, member, if_neg same⟩, .refl row⟩

/-- A resource after a step was there before, or the step put it. -/
theorem StoreStep.origin {call : AdapterCall} (step : StoreStep call store store')
    {row' : ReferenceResource} (member : row' ∈ store'.all) :
    (∃ row ∈ store.all, Remains row row') ∨
      ∃ readings held context request, call = .execute readings held context request ∧
        Put context request.effect row' store store' := by
  cases step.rows with
  | same same => exact .inl ⟨row', same ▸ member, .refl row'⟩
  | @put readings held context request row is made rows =>
    rw [rows] at member
    rcases List.mem_append.mp member with old | new
    · exact .inl ⟨row', old, .refl row'⟩
    · obtain rfl := List.mem_singleton.mp new
      exact .inr ⟨readings, held, context, request, is, made⟩
  | @marked _ _ old kind is listed rows =>
    rw [rows] at member
    obtain ⟨row, listed', rfl⟩ := List.mem_map.mp member
    left
    by_cases same : row.resourceId = old.resourceId
    · rw [if_pos same]
      exact ⟨old, listed, remains_marked old kind⟩
    · rw [if_neg same]
      exact ⟨row, listed', .refl row⟩

end Stateback.Providers.Reference
