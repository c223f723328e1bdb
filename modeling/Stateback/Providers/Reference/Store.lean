import Stateback.Lib.Dictionary
import Stateback.Providers.Registry
/-!
# The store of the reference provider

`providers/reference/store.py`: the external resources, with the three dictionaries they are looked
up in.  Nothing is deleted.  `put` and `replace` raise `ContractValidationError` with the reason
code given here.
-/

namespace Stateback.Providers.Reference

open Domain Dictionary

structure ReferenceResource where
  resourceId : String
  action : String
  externalOperationId : String
  providerIdempotencyKey : Option String
  argumentsFingerprint : String
  applied : Bool
  compensated : Bool
  mitigated : Bool
  createdAt : UtcTimestamp
deriving DecidableEq, Repr

structure ReferenceStore where
  byResourceId : Dictionary String ReferenceResource
  byExternalOperationId : Dictionary String ReferenceResource
  byProviderKey : Dictionary String ReferenceResource
  all : List ReferenceResource

namespace ReferenceStore

def empty : ReferenceStore := ⟨.empty, .empty, .empty, []⟩

/-- `_index`. -/
def index (store : ReferenceStore) (resource : ReferenceResource) : ReferenceStore :=
  { store with
    byResourceId := store.byResourceId.set resource.resourceId resource
    byExternalOperationId :=
      store.byExternalOperationId.set resource.externalOperationId resource
    byProviderKey :=
      match resource.providerIdempotencyKey with
      | some key => store.byProviderKey.set key resource
      | none => store.byProviderKey }

/-- `_drop_indexes`: the provider key only where it leads to this resource. -/
def dropIndexes (store : ReferenceStore) (resource : ReferenceResource) : ReferenceStore :=
  { store with
    byResourceId := store.byResourceId.pop resource.resourceId
    byExternalOperationId := store.byExternalOperationId.pop resource.externalOperationId
    byProviderKey :=
      match resource.providerIdempotencyKey with
      | some key =>
        if (store.byProviderKey key).any fun current =>
            decide (current.resourceId = resource.resourceId) then
          store.byProviderKey.pop key
        else store.byProviderKey
      | none => store.byProviderKey }

def put (store : ReferenceStore) (resource : ReferenceResource) : Except String ReferenceStore :=
  if (store.byResourceId resource.resourceId).isSome then .error "duplicate_key"
  else .ok { store.index resource with all := store.all ++ [resource] }

def replace (store : ReferenceStore) (resource : ReferenceResource) :
    Except String ReferenceStore :=
  match store.byResourceId resource.resourceId with
  | none => .error "illegal_combination"
  | some existing =>
    .ok { (store.dropIndexes existing).index resource with
          all := store.all.map fun item =>
            if item.resourceId = resource.resourceId then resource else item }

/-! ## Agreement -/

/-- The dictionaries agree with the list, whose resource ids are distinct. -/
structure Consistent (store : ReferenceStore) : Prop where
  distinct : (store.all.map (·.resourceId)).Nodup
  resourceIds : Indexes (fun row => some row.resourceId) store.all store.byResourceId
  externalIds : Indexes (fun row => some row.externalOperationId) store.all
    store.byExternalOperationId
  providerKeys : Indexes (·.providerIdempotencyKey) store.all store.byProviderKey

theorem consistent_empty : Consistent empty where
  distinct := List.nodup_nil
  resourceIds := indexes_empty
  externalIds := indexes_empty
  providerKeys := indexes_empty

variable {store store' : ReferenceStore} {resource row : ReferenceResource}

theorem Consistent.eq_of_resourceId (consistent : Consistent store) {row row' : ReferenceResource}
    (member : row ∈ store.all) (member' : row' ∈ store.all)
    (same : row.resourceId = row'.resourceId) : row = row' :=
  List.inj_on_of_nodup_map consistent.distinct member member' same

/-- A listed resource is the one found under its id. -/
theorem Consistent.byResourceId_of_mem (consistent : Consistent store) (member : row ∈ store.all) :
    store.byResourceId row.resourceId = some row := by
  cases found : store.byResourceId row.resourceId with
  | none => exact absurd found (consistent.resourceIds.occupied member rfl)
  | some other =>
    obtain ⟨listed, keyed⟩ := consistent.resourceIds.listed found
    rw [consistent.eq_of_resourceId listed member (Option.some.inj keyed)]

theorem index_byProviderKey : (store.index resource).byProviderKey =
    file (·.providerIdempotencyKey) store.byProviderKey resource := by
  unfold index file
  cases keyed : resource.providerIdempotencyKey <;> simp [keyed]

theorem put_ok (added : store.put resource = .ok store') :
    store.byResourceId resource.resourceId = none ∧
      store' = { store.index resource with all := store.all ++ [resource] } := by
  unfold put at added
  split at added
  · cases added
  next absent =>
    cases added
    exact ⟨Option.not_isSome_iff_eq_none.mp absent, rfl⟩

theorem Consistent.put (consistent : Consistent store) (added : store.put resource = .ok store') :
    Consistent store' := by
  obtain ⟨absent, rfl⟩ := put_ok added
  refine ⟨?_, consistent.resourceIds.append resource, consistent.externalIds.append resource, ?_⟩
  · have fresh : resource.resourceId ∉ store.all.map (·.resourceId) := by
      intro member
      obtain ⟨row, listed, same⟩ := List.mem_map.mp member
      exact consistent.resourceIds.absent absent row listed (congrArg some same)
    simpa using List.Nodup.concat fresh consistent.distinct
  · simp only [index_byProviderKey]
    exact consistent.providerKeys.append resource

/-- The keys of a resource, which stay as they are when it is marked. -/
structure SameKeys (row row' : ReferenceResource) : Prop where
  resourceId : row'.resourceId = row.resourceId
  externalOperationId : row'.externalOperationId = row.externalOperationId
  providerIdempotencyKey : row'.providerIdempotencyKey = row.providerIdempotencyKey

theorem replace_ok (done : store.replace resource = .ok store') :
    ∃ existing, store.byResourceId resource.resourceId = some existing ∧
      store' = { (store.dropIndexes existing).index resource with
        all := store.all.map fun item =>
          if item.resourceId = resource.resourceId then resource else item } := by
  unfold replace at done
  split at done
  · cases done
  next existing found =>
    cases done
    exact ⟨existing, found, rfl⟩

theorem dropIndexes_byProviderKey {key : String} (other : row.providerIdempotencyKey ≠ some key) :
    (store.dropIndexes row).byProviderKey key = store.byProviderKey key := by
  unfold dropIndexes
  cases keyed : row.providerIdempotencyKey with
  | none => rfl
  | some own =>
    have differs : key ≠ own := fun same => other (by rw [keyed, same])
    dsimp only
    split
    · exact pop_of_ne differs _
    · rfl

theorem Consistent.replace (consistent : Consistent store) (member : row ∈ store.all)
    (keys : SameKeys row resource) (done : store.replace resource = .ok store') :
    Consistent store' := by
  obtain ⟨existing, found, rfl⟩ := replace_ok done
  rw [keys.resourceId, consistent.byResourceId_of_mem member] at found
  obtain rfl := Option.some.inj found
  have rows : ∀ other, other ∈ (store.all.map fun item =>
      if item.resourceId = resource.resourceId then resource else item) ↔
        other = resource ∨ other ∈ store.all ∧ other ≠ row := by
    intro other
    simp only [List.mem_map]
    constructor
    · rintro ⟨item, listed, rfl⟩
      split
      · exact .inl rfl
      next differs =>
        refine .inr ⟨listed, ?_⟩
        rintro rfl
        exact differs keys.resourceId.symm
    · rintro (rfl | ⟨listed, differs⟩)
      · exact ⟨row, member, if_pos keys.resourceId.symm⟩
      · refine ⟨other, listed, if_neg fun same => differs ?_⟩
        exact consistent.eq_of_resourceId listed member (same.trans keys.resourceId)
  refine ⟨?_, ?_, ?_, ?_⟩
  · have ids : (store.all.map fun item =>
        if item.resourceId = resource.resourceId then resource else item).map (·.resourceId) =
          store.all.map (·.resourceId) := by
      rw [List.map_map]
      refine List.map_congr_left fun item _ => ?_
      rw [Function.comp_apply]
      split
      next same => exact same.symm
      · rfl
    exact ids ▸ consistent.distinct
  · exact consistent.resourceIds.replace (by rw [keys.resourceId])
      (fun other => pop_of_ne (fun same => other (congrArg some same.symm)) _) rows
  · exact consistent.externalIds.replace (by rw [keys.externalOperationId])
      (fun other => pop_of_ne (fun same => other (congrArg some same.symm)) _) rows
  · have filed := consistent.providerKeys.replace keys.providerIdempotencyKey
      dropIndexes_byProviderKey rows
    simp only [index_byProviderKey]
    exact filed

end ReferenceStore

end Stateback.Providers.Reference
