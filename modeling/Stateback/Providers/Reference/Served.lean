import Stateback.Concurrency.Intended
import Stateback.Providers.Reference.Compensations
/-!
# One effect for each operation

The runtime and the reference provider together.  The provider handles what was sent to it late, in
any order and more than once, next to anything else it is asked; still the calls of one operation
make one resource at most if the effect goes by keys, and what the journal says of an attempt is
true of the provider.
-/

namespace Stateback.Providers.Reference

open Domain Dictionary ReferenceStore Process Concurrency Transitions Invariants Recovery Providers

variable {lower : String → String} {sha256Hex : JsonValue → String} {delay : Nat}
  {uuid5 : String → OpaqueId} {registry : CapabilityRegistry} {history : List AdapterCall}
  {t : List SystemEvent} {c : SystemConfig}

/-! ## The provider behind the runtime -/

/-- The registry describes the effects of the provider as the provider does. -/
def Registered (registry : CapabilityRegistry) : Prop :=
  ∀ effect ∈ referenceEffects, ∀ descriptor,
    registry.descriptor effect = .ok descriptor → descriptorOf effect = some descriptor

/-- The adapter after these calls. -/
abbrev provider (lower : String → String) (sha256Hex : JsonValue → String) (delay : Nat)
    (calls : List AdapterCall) : ReferenceAdapter :=
  (ReferenceAdapter.new delay).handled lower sha256Hex calls

/-- Every execution handled was sent, and evidence comes from a handling of its request. -/
structure Served (lower : String → String) (sha256Hex : JsonValue → String) (delay : Nat)
    (history : List AdapterCall) (t : List SystemEvent) : Prop where
  sent : ∀ {readings held context request}, .execute readings held context request ∈ history →
    ∃ pid, .began pid (.execute context request) ∈ t
  answered : ∀ {pid context request evidence},
    .returned pid (.execute context request) (CallEnd.returned evidence) ∈ t →
      request.effect ∈ referenceEffects → ∃ before readings held after,
        history = before ++ .execute readings held context request :: after ∧
          ((provider lower sha256Hex delay before).execute lower sha256Hex readings held context
            request).2 = .returned evidence

theorem Served.began (served : Served lower sha256Hex delay history t)
    {before after : List AdapterCall} {readings : Readings} {held : Bool}
    {context : ProviderExecutionContext} {request : ProviderExecutionRequest}
    (split : history = before ++ .execute readings held context request :: after) :
    ∃ pid, .began pid (.execute context request) ∈ t := by
  have member : .execute readings held context request ∈ history := by rw [split]; simp
  exact served.sent member

/-- The call makes a resource that was not there. -/
def Makes (lower : String → String) (sha256Hex : JsonValue → String) (adapter : ReferenceAdapter)
    (call : AdapterCall) : Prop :=
  ∃ row ∈ (adapter.after lower sha256Hex call).store.all,
    ∀ old ∈ adapter.store.all, old.resourceId ≠ row.resourceId

theorem keyedEffects_referenceEffects {effect : EffectRef} (member : effect ∈ keyedEffects) :
    effect ∈ referenceEffects := by
  have all : ∀ effect ∈ keyedEffects, effect ∈ referenceEffects := by decide
  exact all effect member

section Calls

variable {readings : Readings} {held : Bool} {context : ProviderExecutionContext}
  {request : ProviderExecutionRequest}

/-- A call that makes a resource puts it, under the key of its context. -/
theorem Makes.put {adapter : ReferenceAdapter} (kept : Kept adapter.store)
    (makes : Makes lower sha256Hex adapter (.execute readings held context request)) :
    ∃ row ∈ (adapter.after lower sha256Hex (.execute readings held context request)).store.all,
      Put context request.effect row adapter.store
        (adapter.after lower sha256Hex (.execute readings held context request)).store := by
  obtain ⟨row, member, fresh⟩ := makes
  have step : StoreStep (.execute readings held context request) adapter.store
      (adapter.after lower sha256Hex (.execute readings held context request)).store :=
    after_step kept.consistent _
  obtain ⟨old, listed, remains⟩ | ⟨_, _, _, _, is, made⟩ := step.origin member
  · exact absurd remains.resourceId.symm (fresh old listed)
  · cases is
    exact ⟨row, member, made⟩

/-- A call of an effect that goes by keys carries the key of its operation. -/
theorem carries_key (registered : Registered registry)
    (carries : Carries registry context request c.store)
    (keyed : request.effect ∈ keyedEffects) : ∃ op,
      c.store.operation? context.operationId = some op ∧ request.effect = op.intent.effect ∧
        op.intent.arguments = some request.arguments ∧
        context.providerIdempotencyKey = some op.idempotencyIdentity := by
  obtain ⟨op, descriptor, found, intended, described, key⟩ := carries.operation
  refine ⟨op, found, intended.effect, intended.arguments, ?_⟩
  rw [← intended.effect] at described
  have known := registered _ (keyedEffects_referenceEffects keyed) descriptor described
  rw [key, operationKey, if_pos ((providerKey_iff known).mpr keyed)]

end Calls

/-- After a call has made a resource under its key, no call makes one under the same key. -/
theorem makes_once {before between : List AdapterCall} {readings readings' : Readings}
    {held held' : Bool} {context context' : ProviderExecutionContext}
    {request request' : ProviderExecutionRequest}
    (makes : Makes lower sha256Hex (provider lower sha256Hex delay before)
      (.execute readings held context request))
    (same : context'.providerIdempotencyKey = context.providerIdempotencyKey)
    (keyed : request'.effect ∈ keyedEffects) :
    ¬Makes lower sha256Hex (provider lower sha256Hex delay
      (before ++ .execute readings held context request :: between))
      (.execute readings' held' context' request') := by
  intro again
  have kept : Kept (provider lower sha256Hex delay before).store := handled_new_kept delay before
  have kept' : Kept (provider lower sha256Hex delay
    (before ++ .execute readings held context request :: between)).store :=
    handled_new_kept delay _
  obtain ⟨row, member, made⟩ := makes.put kept
  obtain ⟨row', -, made'⟩ := again.put kept'
  obtain ⟨key, carried, free⟩ := made'.fresh keyed
  -- the first resource is still there, so its key is not free
  have later : provider lower sha256Hex delay
      (before ++ .execute readings held context request :: between) =
      ((provider lower sha256Hex delay before).after lower sha256Hex
        (.execute readings held context request)).handled lower sha256Hex between :=
    handled_append before (.execute readings held context request :: between)
  obtain ⟨there, listed, remains⟩ := handled_remains (kept.after _) between member
  rw [← later] at listed
  refine kept'.consistent.providerKeys.occupied listed ?_ free
  rw [remains.providerIdempotencyKey, made.key, ← same, carried]

/-- However often and in whatever order the calls of an operation are handled, and whatever is
handled in between: once one of them has made a resource, none does any more, if the effect goes by
keys. -/
theorem effect_once (registered : Registered registry)
    (run : Run (SystemCall.service registry uuid5) .empty t c)
    (served : Served lower sha256Hex delay history t)
    {before between after : List AdapterCall} {readings readings' : Readings} {held held' : Bool}
    {context context' : ProviderExecutionContext} {request request' : ProviderExecutionRequest}
    (split : history = before ++ .execute readings held context request :: between ++
      .execute readings' held' context' request' :: after)
    (keyed : request.effect ∈ keyedEffects)
    (same : context'.operationId = context.operationId)
    (makes : Makes lower sha256Hex (provider lower sha256Hex delay before)
      (.execute readings held context request)) :
    ¬Makes lower sha256Hex (provider lower sha256Hex delay
        (before ++ .execute readings held context request :: between))
      (.execute readings' held' context' request') := by
  obtain ⟨carries, -⟩ := calls_as_intended run
  have first : history = before ++ .execute readings held context request ::
      (between ++ .execute readings' held' context' request' :: after) := by simp [split]
  obtain ⟨pid, began⟩ := served.began first
  obtain ⟨pid', began'⟩ := served.began split
  have call := carries pid context request began
  have call' := carries pid' context' request' began'
  obtain ⟨op, found, effect, -, key⟩ := carries_key registered call keyed
  obtain ⟨op', descriptor', found', intended', -⟩ := call'.operation
  rw [same, found, Option.some.injEq] at found'
  subst found'
  have keyed' : request'.effect ∈ keyedEffects := by rw [intended'.effect, ← effect]; exact keyed
  obtain ⟨op', found', -, -, key'⟩ := carries_key registered call' keyed'
  rw [same, found, Option.some.injEq] at found'
  subst found'
  exact makes_once makes (key'.trans key.symm) keyed'

/-! ## One request, handled twice -/

/-- The registry with the reference adapter alone. -/
def referenceRegistry : CapabilityRegistry :=
  ⟨fun effect => (descriptorOf effect).map fun descriptor =>
    ⟨fun _ => descriptor, fun _ => .ok []⟩⟩

theorem referenceRegistry_registered : Registered referenceRegistry := by
  intro effect _ descriptor described
  unfold CapabilityRegistry.descriptor CapabilityRegistry.adapterFor referenceRegistry at described
  cases found : descriptorOf effect with
  | none => simp [found] at described
  | some known =>
    simp only [found, Option.map_some, Except.ok.injEq] at described
    rw [described]

/-- The sample operation, for an effect that goes by keys. -/
def keyedIntent : IntentEnvelope :=
  { sampleIntent with
    effect := effectMutateProviderKey
    arguments := some (.object [("resource_id", .str "r")])
    canonicalArgumentsHash := "845a58d17b796546ca69cb7a609c02169c305f02eda2ae3bf7f142d6e0c43262"
    intentDigest := "812688cfb2961ccfb0f480173477d5498af57ab5fbdccd477af4dd0e36e0674b" }

def keyedCreate : TransitionCommand :=
  .create
    { operation :=
        { sampleOperation with
          intent := keyedIntent }
      occurredAt := ⟨0⟩
      actor := some sampleRequester
      correlationId := none
      reasonCode := "create"
      createdAuditEventId := idOf "audit-created" }

def keyedReady : List JournalAction :=
  [.transition keyedCreate, .transition (sampleCommand 1 1 "audit-ready"
    (.policyAllow { samplePatientDecision with intentDigest := keyedIntent.intentDigest }
      (idOf "audit-policy") (idOf "outbox")))]

theorem keyedReady_leave : ∀ action ∈ keyedReady, LeavesAttempts action := by
  intro action member
  simp only [keyedReady, List.mem_cons, List.not_mem_nil, or_false] at member
  rcases member with rfl | rfl
  · trivial
  · exact ⟨rfl, rfl⟩

def sampleReadings : Readings := ⟨⟨4⟩, ⟨5⟩, ⟨6⟩⟩

/-- The answers of the provider after these calls, with the clock at four. -/
def providerAnswers (calls : List AdapterCall) : (query : Query) → Answer query
  | .now => ⟨4⟩
  | .execute context request =>
    ((provider id sampleSha256 0 calls).execute id sampleSha256 sampleReadings false
      context request).2
  | .verify .. => .raisedOther "TimeoutError"
  | .compensate .. => .raisedOther "TimeoutError"

/-- One delivery of the operation, to the provider after these calls. -/
def deliveredAfter (calls : List AdapterCall) : List SystemEvent × SystemConfig :=
  replay (SystemCall.service referenceRegistry idOf)
    (systemTurn 0 (.others keyedReady keyedReady_leave) 2 (providerAnswers calls) ++
      systemTurn 1 (.work (delivered "first" .execute)) 18 (providerAnswers calls))
    (.initial .empty)

theorem deliveredAfter_run (calls : List AdapterCall) :
    Run (SystemCall.service referenceRegistry idOf) .empty (deliveredAfter calls).1
      (deliveredAfter calls).2 :=
  replay_run _ _

def sampleContext : ProviderExecutionContext :=
  ⟨idOf "op", idOf "stateback:first:execute:attempt", operationIdempotencyIdentity (idOf "op"),
    some (operationIdempotencyIdentity (idOf "op")), none, none⟩

def sampleRequest : ProviderExecutionRequest :=
  ⟨effectMutateProviderKey, .object [("resource_id", .str "r")]⟩

def sampleCall : AdapterCall := .execute sampleReadings false sampleContext sampleRequest

/-- What a call was answered. -/
def answered? : SystemEvent →
    Option (ProviderExecutionContext × ProviderExecutionRequest × CallEnd ExecutionEvidence)
  | .returned _ (.execute context request) answer => some (context, request, answer)
  | _ => none

/-- The delivery makes the one call, and the provider may handle it again. -/
theorem served_delivered {calls after : List AdapterCall}
    (only : ∀ readings held context request, .execute readings held context request ∈
      calls ++ sampleCall :: after → context = sampleContext ∧ request = sampleRequest)
    (called : (deliveredAfter calls).1.filterMap executed? = [(1, sampleContext, sampleRequest)])
    (told : (deliveredAfter calls).1.filterMap answered? =
      [(sampleContext, sampleRequest,
        providerAnswers calls (.execute sampleContext sampleRequest))]) :
    Served id sampleSha256 0 (calls ++ sampleCall :: after) (deliveredAfter calls).1 where
  sent := by
    intro readings held context request member
    obtain ⟨rfl, rfl⟩ := only readings held context request member
    have listed : (1, sampleContext, sampleRequest) ∈
        (deliveredAfter calls).1.filterMap executed? := called ▸ List.mem_singleton_self _
    exact ⟨1, began_of_executed listed⟩
  answered := by
    intro pid context request evidence returned _
    have listed : (context, request, CallEnd.returned evidence) ∈
        (deliveredAfter calls).1.filterMap answered? :=
      List.mem_filterMap.mpr ⟨_, returned, rfl⟩
    rw [told, List.mem_singleton, Prod.mk.injEq, Prod.mk.injEq] at listed
    obtain ⟨rfl, rfl, answer⟩ := listed
    exact ⟨calls, sampleReadings, false, after, rfl, answer.symm⟩

/-- The provider handles the one request twice. -/
theorem served_duplicated : Served id sampleSha256 0 [sampleCall, sampleCall]
    (deliveredAfter []).1 := by
  have only : ∀ readings held context request, .execute readings held context request ∈
      [] ++ sampleCall :: [sampleCall] → context = sampleContext ∧ request = sampleRequest := by
    intro readings held context request member
    simp only [sampleCall, List.nil_append, List.mem_cons, AdapterCall.execute.injEq,
      List.not_mem_nil, or_false, or_self] at member
    exact ⟨member.2.2.1, member.2.2.2⟩
  exact served_delivered only (by decide +kernel) (by decide +kernel)

theorem effect_once_duplicated :
    Makes id sampleSha256 (provider id sampleSha256 0 []) sampleCall ∧
      ¬Makes id sampleSha256 (provider id sampleSha256 0 [sampleCall])
        sampleCall := by
  have makes : Makes id sampleSha256 (provider id sampleSha256 0 []) sampleCall := by
    unfold Makes
    decide +kernel
  have split : [sampleCall, sampleCall] = [] ++ sampleCall :: [] ++ sampleCall :: [] := rfl
  exact ⟨makes, effect_once referenceRegistry_registered (deliveredAfter_run []) served_duplicated
    split (by decide) rfl makes⟩

/-! ## What the journal says of an attempt -/

/-- The call that an attempt was completed from, as the provider handled it. -/
theorem handled_of_recorded (served : Served lower sha256Hex delay history t)
    {row : ExecutionAttempt} {outcome : EffectOutcome} (recorded : RecordedIn t row)
    (said : row.outcome = some outcome) (known : outcome ≠ .unknown)
    (supported : ∀ {pid context request}, .began pid (.execute context request) ∈ t →
      context.attemptId = row.attemptId → request.effect ∈ referenceEffects) :
    ∃ before readings held context request after evidence,
      history = before ++ .execute readings held context request :: after ∧
        context.attemptId = row.attemptId ∧
        ((provider lower sha256Hex delay before).execute lower sha256Hex readings held context
          request).2 = .returned evidence ∧
        evidence.outcome = outcome ∧ row.externalOperationId = evidence.externalOperationId := by
  obtain ⟨pid, context, request, answer, began, returned, same, answered⟩ := recorded
  obtain ⟨evidence, rfl, own, -, -, external, -⟩ | ⟨_, -, unknown⟩ := answered
  · obtain ⟨before, readings, held, after, split, ended⟩ :=
      served.answered returned (supported began same)
    exact ⟨before, readings, held, context, request, after, evidence, split, same, ended,
      Option.some.inj (own.symm.trans said), external⟩
  · exact absurd (Option.some.inj (said.symm.trans unknown)) known

/-- A call is for an effect of the operation of its attempt. -/
theorem began_effect {op : Operation} {row : ExecutionAttempt}
    (run : Run (SystemCall.service registry uuid5) .empty t c)
    (member : row ∈ c.store.attempts.rows)
    (found : c.store.operation? row.operationId = some op) {pid : Pid}
    {context : ProviderExecutionContext} {request : ProviderExecutionRequest}
    (began : .began pid (.execute context request) ∈ t)
    (same : context.attemptId = row.attemptId) :
    context.operationId = row.operationId ∧ request.effect = op.intent.effect := by
  have carries := (calls_as_intended run).1 pid context request began
  obtain ⟨row', found', own⟩ := carries.attempt
  rw [same] at found'
  have here : c.store.attempt? row.attemptId = some row := KeyedTable.Table.find?_of_mem member
  obtain rfl := Option.some.inj (here.symm.trans found')
  obtain ⟨op', descriptor, at_, intended, -⟩ := carries.operation
  rw [← own.operationId, found, Option.some.injEq] at at_
  exact ⟨own.operationId.symm, by rw [intended.effect, at_]⟩

/-- An attempt that the journal says is APPLIED has its resource at the provider, under the key of
its operation if the effect goes by keys. -/
theorem applied_true (registered : Registered registry)
    (run : Run (SystemCall.service registry uuid5) .empty t c)
    (served : Served lower sha256Hex delay history t) {row : ExecutionAttempt} {op : Operation}
    (member : row ∈ c.store.attempts.rows)
    (found : c.store.operation? row.operationId = some op)
    (supported : op.intent.effect ∈ referenceEffects) (applied : row.outcome = some .applied) :
    ∃ resource ∈ (provider lower sha256Hex delay history).store.all, resource.applied = true ∧
      row.externalOperationId = some resource.externalOperationId ∧
      (op.intent.effect ∈ keyedEffects →
        resource.providerIdempotencyKey = some op.idempotencyIdentity) := by
  have completed : row.state = .completed := by
    cases state : row.state with
    | completed => rfl
    | started =>
      rw [row.outcome_none_of_started state] at applied
      cases applied
  obtain ⟨carries, recorded⟩ := calls_as_intended run
  obtain ⟨before, readings, held, context, request, after, evidence, split, same, ended, outcome,
    external⟩ := handled_of_recorded served (recorded row member completed) applied nofun
      fun began same => (began_effect run member found began same).2 ▸ supported
  obtain ⟨pid, began⟩ := served.began split
  obtain ⟨owner, effect⟩ := began_effect run member found began same
  have kept : Kept (provider lower sha256Hex delay before).store := handled_new_kept delay before
  obtain ⟨resource, listed, there, ⟨resourceId, -, answers⟩, own⟩ :=
    ((reports_execute kept) evidence ended).applied outcome
  have later : provider lower sha256Hex delay history =
      ((provider lower sha256Hex delay before).after lower sha256Hex
        (.execute readings held context request)).handled lower sha256Hex after := by
    rw [split]
    exact handled_append before (.execute readings held context request :: after)
  obtain ⟨last, listed', remains⟩ :=
    handled_remains (kept.after (.execute readings held context request)) after listed
  rw [← later] at listed'
  refine ⟨last, listed', remains.applied.trans there, ?_, fun keyed => ?_⟩
  · rw [external, own, remains.externalOperationId]
  · have keyed' : request.effect ∈ keyedEffects := effect ▸ keyed
    obtain ⟨op', at_, -, -, key⟩ :=
      carries_key registered (carries pid context request began) keyed'
    rw [owner, found, Option.some.injEq] at at_
    obtain ⟨unkeyed, -⟩ | ⟨underKey, -⟩ := answers
    · exact absurd keyed' unkeyed
    · rw [remains.providerIdempotencyKey, underKey, key, at_]

/-- The attempt an execution is for. -/
def AdapterCall.attempt? : AdapterCall → Option OpaqueId
  | .execute _ _ context _ => some context.attemptId
  | _ => none

/-- The one attempt of the delivery, as it is recorded. -/
theorem delivered_attempt {calls : List AdapterCall} {outcome : EffectOutcome}
    (recorded : (deliveredAfter calls).2.store.attempts.rows.map
      (fun row => (row.operationId, row.outcome)) = [(idOf "op", some outcome)])
    {row : ExecutionAttempt} (member : row ∈ (deliveredAfter calls).2.store.attempts.rows) :
    row.operationId = idOf "op" ∧ row.outcome = some outcome := by
  have listed := List.mem_map_of_mem (f := fun row => (row.operationId, row.outcome)) member
  rw [recorded, List.mem_singleton] at listed
  exact Prod.mk.inj listed

/-- Its operation. -/
theorem delivered_operation (calls : List AdapterCall)
    (kept : ((deliveredAfter calls).2.store.operation? (idOf "op")).map
      (fun op => (op.intent.effect, op.idempotencyIdentity)) =
        some (effectMutateProviderKey, operationIdempotencyIdentity (idOf "op"))) :
    ∃ op, (deliveredAfter calls).2.store.operation? (idOf "op") = some op ∧
      op.intent.effect = effectMutateProviderKey ∧
        op.idempotencyIdentity = operationIdempotencyIdentity (idOf "op") := by
  obtain ⟨op, found, same⟩ := Option.map_eq_some_iff.mp kept
  exact ⟨op, found, Prod.mk.inj same⟩

theorem applied_true_duplicated :
    ∃ resource ∈ (provider id sampleSha256 0 [sampleCall, sampleCall]).store.all,
      resource.applied = true ∧
        resource.providerIdempotencyKey = some (operationIdempotencyIdentity (idOf "op")) := by
  have recorded : (deliveredAfter []).2.store.attempts.rows.map
      (fun row => (row.operationId, row.outcome)) = [(idOf "op", some .applied)] := by
    decide +kernel
  obtain ⟨op, found, effect, identity⟩ :=
    delivered_operation [] (by decide +kernel)
  obtain ⟨row, member⟩ : ∃ row, row ∈ (deliveredAfter []).2.store.attempts.rows :=
    List.exists_mem_of_ne_nil _ fun nil => by rw [nil] at recorded; cases recorded
  obtain ⟨owner, applied⟩ := delivered_attempt recorded member
  rw [← owner] at found
  obtain ⟨resource, listed, there, -, key⟩ := applied_true referenceRegistry_registered
    (deliveredAfter_run []) served_duplicated member found (effect ▸ by decide) applied
  exact ⟨resource, listed, there, identity ▸ key (effect ▸ by decide)⟩

/-- The provider handles no two calls for one attempt. -/
def HandledOnce (history : List AdapterCall) : Prop :=
  (history.filterMap AdapterCall.attempt?).Nodup

/-- Two splits of a list at different places: one of the places is before the other. -/
theorem split_cases {α : Type} {before before' after after' : List α} {a a' : α}
    (split : before ++ a :: after = before' ++ a' :: after') :
    before = before' ∨ (∃ between, before' = before ++ a :: between) ∨
      ∃ between, before = before' ++ a' :: between := by
  obtain ⟨between, rfl, rest⟩ | ⟨between, rfl, rest⟩ := List.append_eq_append_iff.mp split
  · cases between with
    | nil => exact .inl (by simp)
    | cons first between =>
      obtain ⟨rfl, -⟩ := List.cons.inj rest
      exact .inr (.inl ⟨between, rfl⟩)
  · cases between with
    | nil => exact .inl (by simp)
    | cons first between =>
      obtain ⟨rfl, -⟩ := List.cons.inj rest
      exact .inr (.inr ⟨between, rfl⟩)

/-- The same attempt is the same place of the history. -/
theorem HandledOnce.place (once : HandledOnce history)
    {before after before' after' : List AdapterCall} {call call' : AdapterCall}
    {attemptId : OpaqueId} (split : history = before ++ call :: after)
    (split' : history = before' ++ call' :: after') (own : call.attempt? = some attemptId)
    (own' : call'.attempt? = some attemptId) : before = before' := by
  have twice : ∀ {u v w : List AdapterCall} {first second : AdapterCall},
      first.attempt? = some attemptId → second.attempt? = some attemptId →
        history ≠ u ++ first :: v ++ second :: w := by
    intro u v w first second mine mine' both
    unfold HandledOnce at once
    rw [both] at once
    simp [mine, mine', List.nodup_append] at once
  rcases split_cases (split.symm.trans split') with equal | ⟨between, rfl⟩ | ⟨between, rfl⟩
  · exact equal
  · exact absurd split' (twice own own')
  · exact absurd split (twice own' own)

/-- An operation whose attempts are all NOT_APPLIED, as the journal says, has made no resource,
if the provider handles no call twice. -/
theorem not_applied_true (run : Run (SystemCall.service registry uuid5) .empty t c)
    (served : Served lower sha256Hex delay history t) (once : HandledOnce history)
    {op : Operation} {operationId : OpaqueId} (found : c.store.operation? operationId = some op)
    (supported : op.intent.effect ∈ referenceEffects)
    (settled : ∀ row ∈ c.store.attempts.rows, row.operationId = operationId →
      row.outcome = some .notApplied)
    {before after : List AdapterCall} {readings : Readings} {held : Bool}
    {context : ProviderExecutionContext} {request : ProviderExecutionRequest}
    (split : history = before ++ .execute readings held context request :: after)
    (asked : context.operationId = operationId) :
    ¬Makes lower sha256Hex (provider lower sha256Hex delay before)
      (.execute readings held context request) := by
  obtain ⟨carries, recorded⟩ := calls_as_intended run
  obtain ⟨pid, began⟩ := served.began split
  obtain ⟨row, at_, own⟩ := (carries pid context request began).attempt
  have member : row ∈ c.store.attempts.rows := (KeyedTable.Table.find?_some at_).1
  have owner : row.operationId = operationId := own.operationId.trans asked
  have outcome := settled row member owner
  have completed : row.state = .completed := by
    cases state : row.state with
    | completed => rfl
    | started =>
      rw [row.outcome_none_of_started state] at outcome
      cases outcome
  obtain ⟨before', readings', held', context', request', after', evidence, split', same, ended,
    none, -⟩ := handled_of_recorded served (recorded row member completed) outcome nofun
      fun began same => (began_effect run member (owner ▸ found) began same).2 ▸ supported
  -- the call that was recorded is the one handled here
  have attempt : context'.attemptId = context.attemptId := same.trans own.attemptId
  have place : before = before' := once.place split split' rfl (congrArg some attempt)
  subst place
  have calls := List.append_cancel_left (split.symm.trans split')
  obtain ⟨⟩ := calls
  have kept : Kept (provider lower sha256Hex delay before).store := handled_new_kept delay before
  have same := ((reports_execute kept) evidence ended).notApplied none
  rintro ⟨resource, listed, fresh⟩
  have listed' : resource ∈ (provider lower sha256Hex delay before).store.all := by
    rw [← same]
    exact listed
  exact fresh resource listed' rfl

/-- The provider rejects the one attempt. -/
theorem not_applied_true_declined :
    ¬Makes id sampleSha256
      (provider id sampleSha256 0 [.enqueueExecute .notAppliedRejected]) sampleCall := by
  have only : ∀ readings held context request, .execute readings held context request ∈
      [.enqueueExecute .notAppliedRejected] ++ sampleCall :: [] →
        context = sampleContext ∧ request = sampleRequest := by
    intro readings held context request member
    simp only [sampleCall, List.cons_append, List.nil_append, List.mem_cons, reduceCtorEq,
      AdapterCall.execute.injEq, List.not_mem_nil, or_false, false_or] at member
    exact ⟨member.2.2.1, member.2.2.2⟩
  have served := served_delivered only (by decide +kernel) (by decide +kernel)
  have recorded : (deliveredAfter [.enqueueExecute .notAppliedRejected]).2.store.attempts.rows.map
      (fun row => (row.operationId, row.outcome)) = [(idOf "op", some .notApplied)] := by
    decide +kernel
  obtain ⟨op, found, effect, -⟩ :=
    delivered_operation [.enqueueExecute .notAppliedRejected] (by decide +kernel)
  exact not_applied_true (deliveredAfter_run _) served (show HandledOnce _ by
    unfold HandledOnce; decide) found (effect ▸ by decide)
    (fun row member _ => (delivered_attempt recorded member).2) rfl rfl

end Stateback.Providers.Reference
