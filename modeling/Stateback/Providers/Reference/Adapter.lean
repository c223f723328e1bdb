import Stateback.Domain.Secrets
import Stateback.Providers.Reference.Effects
import Stateback.Providers.Reference.Store
/-!
# The reference adapter

`providers/reference/adapter.py`.  The clock is read at up to three places of a call, and says
anything at each.  `is` compares an effect with the constants of `effects.py` by identity: the
caller may hold one of these objects (`held`), while an effect read back from a row is equal to a
constant and never the same object.  The catch-all `except Exception` is left out, since nothing
modelled here raises what it catches.
-/

namespace Stateback.Providers

open Domain

def CallEnd.map {α β : Type} (f : α → β) : CallEnd α → CallEnd β
  | .returned value => .returned (f value)
  | .raisedUnsupportedEffect effect => .raisedUnsupportedEffect effect
  | .raisedContractValidation reasonCode => .raisedContractValidation reasonCode
  | .raisedOther typeName => .raisedOther typeName

theorem CallEnd.map_returned {α β : Type} {f : α → β} {ended : CallEnd α} {value : β}
    (returned : ended.map f = .returned value) : ∃ a, ended = .returned a ∧ f a = value := by
  cases ended <;> cases returned
  exact ⟨_, rfl, rfl⟩

namespace Reference

structure ReferenceAdapter where
  store : ReferenceStore
  visibilityDelaySeconds : Nat
  executeScripts : List ReferenceExecuteScript
  verifyScripts : List ReferenceVerifyScript
  compensateScripts : List ReferenceCompensateScript
  compensationKeys : Dictionary String String

def ReferenceAdapter.new (visibilityDelaySeconds : Nat) : ReferenceAdapter :=
  ⟨.empty, visibilityDelaySeconds, [], [], [], .empty⟩

/-- What the clock says where a call reads it. -/
structure Readings where
  checked : UtcTimestamp
  created : UtcTimestamp
  observed : UtcTimestamp
deriving DecidableEq, Repr

/-- `effect is constant`. -/
def sameObject (held : Bool) (effect constant : EffectRef) : Bool :=
  held && decide (effect = constant)

variable (lower : String → String) (sha256Hex : JsonValue → String)

/-! ## Helpers -/

def fingerprint (resourceId : String) : String :=
  sha256Hex (jsonObjectFromPlain [("resource_id", .str resourceId)])

def resourceIdOf : JsonValue → Option String
  | .object items =>
    match items.lookup "resource_id" with
    | some (.str value) => some value
    | _ => none
  | _ => none

def normError (kind : ErrorKind) (code : String) (retryable : Bool := false)
    (http : Option Int := none) (message : Option String := none) : NormalizedError where
  contractVersion := contractVersion
  kind := kind
  code := code
  message := message.getD code
  retryableInfrastructure := retryable
  providerHttpStatus := http
  providerErrorCode := none
  retryAfterSeconds := none
  details := jsonObjectFromPlain []

def verificationSource : VerificationMode → EvidenceSource
  | .operationLookup => .operationLookup
  | .readBack => .readBack
  | .none | .custom => .custom

/-- Evidence with secret-shaped fields cannot be built. -/
def providerEvidence (source : EvidenceSource) (observedAt : UtcTimestamp) (status : String)
    (requestId externalOperationId : Option String) (externalResourceIds : List String)
    (fields : JsonValue) : CallEnd ProviderEvidence :=
  if secretFree lower fields then
    .returned
      { source := source
        provider := referenceProvider
        observedAt := observedAt
        providerStatus := some status
        providerRequestId := requestId
        externalOperationId := externalOperationId
        externalResourceIds := externalResourceIds
        evidenceFields := fields
        rawReference := none }
  else .raisedContractValidation "secret_field"

/-- `_exec_evidence`. -/
def execEvidence (readings : Readings) (status : String)
    (requestId externalOperationId : Option String) (externalResourceIds : List String)
    (fields : JsonValue) : CallEnd ProviderEvidence :=
  providerEvidence lower .executionResponse readings.observed status requestId externalOperationId
    externalResourceIds fields

/-- `_verify_evidence`. -/
def verifyEvidence (readings : Readings) (source : EvidenceSource) (status : String)
    (externalOperationId : Option String) (externalResourceIds : List String)
    (fields : JsonValue) : CallEnd ProviderEvidence :=
  providerEvidence lower source readings.observed status none externalOperationId
    externalResourceIds fields

/-- `None` where the arguments are in order. -/
def argumentsError : JsonValue → Option NormalizedError
  | .object items =>
    match items.lookup "resource_id" with
    | none => some (normError .validation "ref.validation.missing_resource_id")
    | some (.str value) =>
      if value = "" then some (normError .validation "ref.validation.empty_resource_id") else none
    | some _ => some (normError .validation "ref.validation.empty_resource_id")
  | _ => some (normError .validation "ref.validation.arguments_not_object")

/-- The error of `validate_execution`'s result; `none` where it accepts. -/
def validateExecution (request : ProviderExecutionRequest) : Option NormalizedError :=
  if request.effect ∉ referenceEffects then
    some (normError .unsupportedCapability "ref.validation.unknown_effect")
  else argumentsError request.arguments

/-! ## Execution -/

def requestIdOf (attemptId : OpaqueId) : String := "refreq:" ++ attemptId.value

def executionFromError (readings : Readings) (context : ProviderExecutionContext)
    (outcome : EffectOutcome) (error : NormalizedError) (status : String) (sent : Bool) :
    CallEnd ExecutionEvidence :=
  (execEvidence lower readings status (if sent then some (requestIdOf context.attemptId) else none)
    none [] (jsonObjectFromPlain [])).map fun evidence =>
    ⟨outcome, some evidence, some error, none, []⟩

/-- What follows the last colon, or everything. -/
def lastSegment (text : String) : String :=
  String.ofList (text.toList.reverse.takeWhile (· ≠ ':')).reverse

def appliedFromRow (readings : Readings) (row : ReferenceResource) : CallEnd ExecutionEvidence :=
  (execEvidence lower readings "applied"
    (some ("refreq:" ++ lastSegment row.externalOperationId)) (some row.externalOperationId)
    [row.resourceId]
    (jsonObjectFromPlain [("mutation", .str "create"), ("resource_id", .str row.resourceId)])).map
    fun evidence =>
      ⟨.applied, some evidence, none, some row.externalOperationId, [row.resourceId]⟩

def executionFromSpec (readings : Readings) (context : ProviderExecutionContext)
    (spec : ExecuteSpec) (resourceId : String) (stored : Option ReferenceResource) :
    CallEnd ExecutionEvidence :=
  let error :=
    match spec.kind, spec.code with
    | some kind, some code => some (normError kind code spec.retryable spec.http spec.message)
    | _, _ => none
  let ids := if spec.returnIds then [resourceId] else []
  let operation := if spec.returnIds then stored.map (·.externalOperationId) else none
  let fields :=
    if spec.outcome = .applied then
      jsonObjectFromPlain [("mutation", .str "create"), ("resource_id", .str resourceId)]
    else jsonObjectFromPlain []
  (execEvidence lower readings spec.status
    (if spec.mutates then some (requestIdOf context.attemptId) else none) operation ids
    fields).map fun evidence => ⟨spec.outcome, some evidence, error, operation, ids⟩

def readSuccess (store : ReferenceStore) (readings : Readings) (context : ProviderExecutionContext)
    (resourceId : String) : CallEnd ExecutionEvidence :=
  let present := if (store.byResourceId resourceId).isSome then "true" else "false"
  (execEvidence lower readings "read" (some (requestIdOf context.attemptId)) none []
    (jsonObjectFromPlain [("present", .str present), ("resource_id", .str resourceId)])).map
    fun evidence => ⟨.notApplied, some evidence, none, none, []⟩

def executeRead (store : ReferenceStore) (readings : Readings) (context : ProviderExecutionContext)
    (resourceId : String) (spec : ExecuteSpec) : CallEnd ExecutionEvidence :=
  if spec.outcome = .unknown then
    executionFromError lower readings context .unknown
      (normError (spec.kind.getD .internal) (spec.code.getD "ref.internal.unclassified")
        spec.retryable spec.http spec.message) spec.status true
  else
    match spec.kind with
    | some kind =>
      executionFromError lower readings context .notApplied
        (normError kind (spec.code.getD "ref.validation.missing_resource_id") spec.retryable
          spec.http spec.message) spec.status false
    | none => readSuccess lower store readings context resourceId

/-- The row `_put_mutation` puts. -/
def mutationRow (store : ReferenceStore) (readings : Readings) (held : Bool)
    (context : ProviderExecutionContext) (effect : EffectRef) (resourceId fingerprint : String) :
    ReferenceResource where
  resourceId :=
    if sameObject held effect effectMutateNone ∧ (store.byResourceId resourceId).isSome then
      resourceId ++ "#" ++ context.attemptId.value
    else resourceId
  action := effect.action
  externalOperationId := "refop:" ++ context.operationId.value ++ ":" ++ context.attemptId.value
  providerIdempotencyKey := context.providerIdempotencyKey
  argumentsFingerprint := fingerprint
  applied := true
  compensated := false
  mitigated := false
  createdAt := readings.created

/-- The next script and the adapter without it. -/
def ReferenceAdapter.nextExecute (adapter : ReferenceAdapter) :
    ReferenceExecuteScript × ReferenceAdapter :=
  (adapter.executeScripts.headD .applied,
    { adapter with executeScripts := adapter.executeScripts.tail })

/-- `_execute_body` from the script on: nothing has been found that answers the request. -/
def ReferenceAdapter.executeScripted (adapter : ReferenceAdapter) (readings : Readings)
    (held : Bool) (context : ProviderExecutionContext) (request : ProviderExecutionRequest)
    (resourceId : String) : ReferenceAdapter × CallEnd ExecutionEvidence :=
  let spec := executeSpecs adapter.nextExecute.1
  let adapter := adapter.nextExecute.2
  if sameObject held request.effect effectReadResource then
    (adapter, executeRead lower adapter.store readings context resourceId spec)
  else if spec.mutates then
    let row := mutationRow adapter.store readings held context request.effect resourceId
      (fingerprint sha256Hex resourceId)
    match adapter.store.put row with
    | .error reasonCode => (adapter, .raisedContractValidation reasonCode)
    | .ok store =>
      ({ adapter with store := store },
        executionFromSpec lower readings context spec resourceId (some row))
  else (adapter, executionFromSpec lower readings context spec resourceId none)

/-- The resource that answers a request for the same key, or for the same resource of an effect
that is naturally idempotent. -/
inductive Earlier where
  | keyed (row : ReferenceResource)
  | natural (row : ReferenceResource)
  | nothing

def ReferenceAdapter.earlier (adapter : ReferenceAdapter) (desc : EffectDescriptor)
    (context : ProviderExecutionContext) (request : ProviderExecutionRequest)
    (resourceId : String) : Earlier :=
  let keyed :=
    if desc.idempotencyMode = .providerKey then
      context.providerIdempotencyKey.bind adapter.store.byProviderKey
    else none
  match keyed with
  | some row => .keyed row
  | none =>
    if request.effect = effectMutateNatural ∨ request.effect = effectReadResource then
      match adapter.store.byResourceId resourceId with
      | some row => if row.applied then .natural row else .nothing
      | none => .nothing
    else .nothing

def ReferenceAdapter.executeBody (adapter : ReferenceAdapter) (readings : Readings) (held : Bool)
    (context : ProviderExecutionContext) (request : ProviderExecutionRequest)
    (desc : EffectDescriptor) : ReferenceAdapter × CallEnd ExecutionEvidence :=
  let refuse error := executionFromError lower readings context .notApplied error "rejected" false
  match validateExecution request with
  | some error => (adapter, refuse error)
  | none =>
    match resourceIdOf request.arguments with
    | none => (adapter, .raisedContractValidation "illegal_combination")
    | some resourceId =>
      if context.deadline.any fun deadline => decide (deadline.value ≤ readings.checked.value) then
        (adapter, refuse (normError .transientTransport "ref.deadline.not_sent" true))
      else if desc.idempotencyMode = .providerKey ∧ context.providerIdempotencyKey = none then
        (adapter, refuse (normError .validation "ref.validation.provider_key_required"))
      else
        match adapter.earlier desc context request resourceId with
        | .keyed row =>
          if row.argumentsFingerprint = fingerprint sha256Hex resourceId then
            (adapter, appliedFromRow lower readings row)
          else
            (adapter,
              refuse (normError .providerRejected "ref.duplicate.conflict" false (some 409)))
        | .natural row =>
          if sameObject held request.effect effectReadResource then
            (adapter, readSuccess lower adapter.store readings context resourceId)
          else (adapter, appliedFromRow lower readings row)
        | .nothing =>
          adapter.executeScripted lower sha256Hex readings held context request resourceId

def ReferenceAdapter.execute (adapter : ReferenceAdapter) (readings : Readings) (held : Bool)
    (context : ProviderExecutionContext) (request : ProviderExecutionRequest) :
    ReferenceAdapter × CallEnd ExecutionEvidence :=
  if request.effect ∉ referenceEffects then
    (adapter, .raisedUnsupportedEffect request.effect)
  else
    match descriptorOf request.effect with
    | none => (adapter, .raisedUnsupportedEffect request.effect)
    | some desc => adapter.executeBody lower sha256Hex readings held context request desc

/-! ## Verification -/

def verifyOutcome (readings : Readings) (outcome : EffectOutcome) (source : EvidenceSource)
    (row : Option ReferenceResource) : CallEnd VerificationEvidence :=
  let shown := if outcome = .applied then row else none
  (verifyEvidence lower readings source (if outcome = .applied then "applied" else "not_found")
    (shown.map (·.externalOperationId)) (shown.map (·.resourceId)).toList
    (jsonObjectFromPlain [])).map fun evidence => ⟨outcome, evidence, none⟩

def verifyUnknown (readings : Readings) (source : EvidenceSource) (status : String)
    (error : NormalizedError) : CallEnd VerificationEvidence :=
  (verifyEvidence lower readings source status none [] (jsonObjectFromPlain [])).map
    fun evidence => ⟨.unknown, evidence, some error⟩

def verifyVisibilityUnknown (readings : Readings) (source : EvidenceSource) :
    CallEnd VerificationEvidence :=
  verifyUnknown lower readings source "timeout"
    (normError .transientTransport "ref.verify.visibility_window" true)

def unsupportedVerification (readings : Readings) : CallEnd VerificationEvidence :=
  verifyUnknown lower readings .custom "unsupported"
    (normError .unsupportedCapability "ref.unsupported.verification" false none
      (some "verification is not declared for this effect"))

/-- `_forced_verification`, with its table of kinds and codes. -/
def forcedVerification (readings : Readings) (script : ReferenceVerifyScript)
    (source : EvidenceSource) : CallEnd VerificationEvidence :=
  let unknown kind code :=
    verifyUnknown lower readings source "timeout"
      (normError kind code (decide (kind = .transientTransport)))
  match script with
  | .applied =>
    (verifyEvidence lower readings source "applied" none []
      (jsonObjectFromPlain [("forced", .str "true")])).map
      fun evidence => ⟨.applied, evidence, none⟩
  | .notApplied => verifyOutcome lower readings .notApplied source none
  | .unknownTransport | .store => unknown .transientTransport "ref.verify.transport"
  | .unknownInconclusive => unknown .providerInconsistent "ref.verify.inconclusive"
  | .unknownMalformed => unknown .malformedProviderResponse "ref.verify.malformed"
  | .unknownInconsistent => unknown .providerInconsistent "ref.verify.inconsistent"

/-- `_lookup_verify_row`: the operation id, then the first resource id, then the key. -/
def ReferenceStore.lookupVerifyRow (store : ReferenceStore) (context : ProviderExecutionContext)
    (request : VerificationRequest) : Option ReferenceResource :=
  (request.externalOperationId.bind store.byExternalOperationId).or
    ((request.externalResourceIds.head?.bind store.byResourceId).or
      (context.providerIdempotencyKey.bind store.byProviderKey))

def verifyCompensationTarget (readings : Readings) (held : Bool) (effect : EffectRef)
    (row : Option ReferenceResource) (source : EvidenceSource) : CallEnd VerificationEvidence :=
  match row with
  | some row =>
    if row.compensated ∨ row.mitigated then
      verifyOutcome lower readings .applied source (some row)
    else verifyOutcome lower readings .notApplied source (some row)
  | none =>
    if sameObject held effect effectMutateEventual then
      verifyVisibilityUnknown lower readings source
    else verifyOutcome lower readings .notApplied source none

/-- Timestamps are microseconds, the delay is seconds. -/
def ReferenceAdapter.tooYoung (adapter : ReferenceAdapter) (readings : Readings)
    (row : ReferenceResource) : Bool :=
  decide (readings.checked.value - row.createdAt.value <
    (adapter.visibilityDelaySeconds : Int) * 1000000)

def ReferenceAdapter.verifyOriginalTarget (adapter : ReferenceAdapter) (readings : Readings)
    (held : Bool) (effect : EffectRef) (row : Option ReferenceResource)
    (source : EvidenceSource) : CallEnd VerificationEvidence :=
  match row.filter (·.applied) with
  | some row =>
    if sameObject held effect effectMutateEventual ∧ adapter.tooYoung readings row then
      verifyVisibilityUnknown lower readings source
    else verifyOutcome lower readings .applied source (some row)
  | none =>
    if sameObject held effect effectMutateEventual then
      verifyVisibilityUnknown lower readings source
    else verifyOutcome lower readings .notApplied source none

def ReferenceAdapter.verifyBody (adapter : ReferenceAdapter) (readings : Readings) (held : Bool)
    (context : ProviderExecutionContext) (request : VerificationRequest)
    (desc : EffectDescriptor) : ReferenceAdapter × CallEnd VerificationEvidence :=
  if desc.verificationMode = .none then (adapter, unsupportedVerification lower readings)
  else
    let script := adapter.verifyScripts.headD .store
    let adapter := { adapter with verifyScripts := adapter.verifyScripts.tail }
    let source := verificationSource desc.verificationMode
    if script ≠ .store then (adapter, forcedVerification lower readings script source)
    else
      let row := adapter.store.lookupVerifyRow context request
      match request.target with
      | .compensation =>
        (adapter, verifyCompensationTarget lower readings held request.effect row source)
      | .originalEffect =>
        (adapter, adapter.verifyOriginalTarget lower readings held request.effect row source)

def ReferenceAdapter.verify (adapter : ReferenceAdapter) (readings : Readings) (held : Bool)
    (context : ProviderExecutionContext) (request : VerificationRequest) :
    ReferenceAdapter × CallEnd VerificationEvidence :=
  if request.effect ∉ referenceEffects then
    (adapter, .raisedUnsupportedEffect request.effect)
  else
    match descriptorOf request.effect with
    | none => (adapter, .raisedUnsupportedEffect request.effect)
    | some desc => adapter.verifyBody lower readings held context request desc

/-! ## Compensation -/

/-- Evidence of a compensation, with the error and the operation id beside it. -/
def compensationEvidence (readings : Readings) (outcome : EffectOutcome) (status : String)
    (requestId operation : Option String) (resourceIds : List String)
    (error : Option NormalizedError) : CallEnd CompensationEvidence :=
  (execEvidence lower readings status requestId operation resourceIds
    (jsonObjectFromPlain [])).map fun evidence => ⟨outcome, some evidence, error, operation⟩

def unsupportedCompensation : CompensationEvidence where
  outcome := .notApplied
  evidence := none
  error := some (normError .unsupportedCapability "ref.unsupported.compensation" false none
    (some "compensation is not declared for this effect"))
  externalOperationId := none

def compensationNotApplied (readings : Readings) (error : NormalizedError) :
    CallEnd CompensationEvidence :=
  if error.kind = .unsupportedCapability then .returned unsupportedCompensation
  else compensationEvidence lower readings .notApplied "rejected" none none [] (some error)

def rejectedBeforeAccept : NormalizedError :=
  normError .providerRejected "ref.rejected.before_accept" false (some 400)
    (some "provider rejected request before acceptance")

/-- The marked row a compensation under this key has left behind. -/
def ReferenceAdapter.compensated? (adapter : ReferenceAdapter) (key : String) :
    Option ReferenceResource :=
  ((adapter.store.byProviderKey key).or
    ((adapter.compensationKeys key).bind adapter.store.byResourceId)).filter fun row =>
      row.compensated || row.mitigated

/-- `_compensation_replay`. -/
def compensationReplay (readings : Readings) (row : ReferenceResource) :
    CallEnd CompensationEvidence :=
  compensationEvidence lower readings .applied "applied" none (some row.externalOperationId)
    [row.resourceId] none

/-- The row the first usable evidence leads to. -/
def ReferenceStore.evidenced (store : ReferenceStore) (evidence : ProviderEvidence) :
    Option ReferenceResource :=
  (evidence.externalResourceIds.head?.bind store.byResourceId).or
    (evidence.externalOperationId.bind store.byExternalOperationId)

/-- `_lookup_compensation_row`. -/
def ReferenceStore.lookupCompensationRow (store : ReferenceStore) (request : CompensationRequest)
    (resourceId : String) : Option ReferenceResource :=
  (request.originalEvidence.findSome? store.evidenced).or
    ((request.providerIdempotencyKey.bind store.byProviderKey).or (store.byResourceId resourceId))

/-- `_mark_compensated`'s updated row. -/
def markedRow (row : ReferenceResource) (kind : CompensationKind) : ReferenceResource :=
  if kind = .mitigating then { row with mitigated := true } else { row with compensated := true }

/-- What a compensation answers that has marked its row. -/
def compensationAnswer (readings : Readings) (request : CompensationRequest)
    (script : ReferenceCompensateScript) (marked : ReferenceResource) :
    CallEnd CompensationEvidence :=
  let sent := some (requestIdOf request.compensationAttemptId)
  match script with
  | .applied =>
    compensationEvidence lower readings .applied "applied" sent
      (some ("refcop:" ++ request.compensationId.value ++ ":" ++
        request.compensationAttemptId.value))
      [marked.resourceId] none
  | .unknownTimeoutAfterSend =>
    compensationEvidence lower readings .unknown "timeout" sent none []
      (some (normError .transientTransport "ref.timeout.after_send" true))
  | .unknownMalformed | .notAppliedRejected =>
    compensationEvidence lower readings .unknown "malformed" sent none []
      (some (normError .malformedProviderResponse "ref.malformed.after_accept" false (some 200)))

/-- `_compensate_body` from the script on, for the row that was found. -/
def ReferenceAdapter.compensateRow (adapter : ReferenceAdapter) (readings : Readings)
    (request : CompensationRequest) (row : ReferenceResource) (desc : EffectDescriptor) :
    ReferenceAdapter × CallEnd CompensationEvidence :=
  let script := adapter.compensateScripts.headD .applied
  let adapter := { adapter with compensateScripts := adapter.compensateScripts.tail }
  if script = .notAppliedRejected then
    (adapter, compensationNotApplied lower readings rejectedBeforeAccept)
  else
    let marked := markedRow row desc.compensationKind
    match adapter.store.replace marked with
    | .error reasonCode => (adapter, .raisedContractValidation reasonCode)
    | .ok store =>
      let keys :=
        match request.providerIdempotencyKey with
        | some key => adapter.compensationKeys.set key marked.resourceId
        | none => adapter.compensationKeys
      ({ adapter with store := store, compensationKeys := keys },
        compensationAnswer lower readings request script marked)

/-- `_compensate_body`; null arguments are no object. -/
def ReferenceAdapter.compensate (adapter : ReferenceAdapter) (readings : Readings)
    (request : CompensationRequest) : ReferenceAdapter × CallEnd CompensationEvidence :=
  let arguments := request.compensationArguments.getD .null
  match argumentsError arguments with
  | some error => (adapter, compensationNotApplied lower readings error)
  | none =>
    match resourceIdOf arguments with
    | none => (adapter, .raisedContractValidation "illegal_combination")
    | some resourceId =>
      match request.providerIdempotencyKey.bind adapter.compensated? with
      | some row => (adapter, compensationReplay lower readings row)
      | none =>
        match adapter.store.lookupCompensationRow request resourceId with
        | none => (adapter, compensationNotApplied lower readings rejectedBeforeAccept)
        | some row =>
          match descriptorForAction row.action with
          | none => (adapter, .raisedUnsupportedEffect (referenceEffect row.action))
          | some desc =>
            if desc.compensationKind = .none ∨ desc.effect = effectMutateNone ∨
                desc.effect = effectReadResource then
              (adapter, .returned unsupportedCompensation)
            else adapter.compensateRow lower readings request row desc

end Reference

end Stateback.Providers
