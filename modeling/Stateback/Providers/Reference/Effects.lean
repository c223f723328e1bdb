import Stateback.Providers.Registry
/-!
# The effects and scripts of the reference provider

`providers/reference/effects.py`, `scripts.py` and the table of execute scripts in `adapter.py`.
-/

namespace Stateback.Providers.Reference

open Domain

/-! ## Effects -/

def referenceProvider : String := "stateback.reference"

def referenceEffect (action : String) : EffectRef := ⟨referenceProvider, action, "v1"⟩

def effectMutateProviderKey : EffectRef := referenceEffect "mutate_provider_key"

def effectMutateNatural : EffectRef := referenceEffect "mutate_natural"

def effectMutateNone : EffectRef := referenceEffect "mutate_none"

def effectMutateEventual : EffectRef := referenceEffect "mutate_eventual"

def effectMutateMitigating : EffectRef := referenceEffect "mutate_mitigating"

def effectReadResource : EffectRef := referenceEffect "read_resource"

def referenceEffects : List EffectRef :=
  [effectMutateProviderKey, effectMutateNatural, effectMutateNone, effectMutateEventual,
    effectMutateMitigating, effectReadResource]

def referenceKeySemantics : ProviderKeySemantics where
  scope := "account"
  replayWindow := some "86400"
  sameKeySameRequestRequired := true
  conflictingRequestBehavior := "reject"
  responseReplayBehavior := "replay_original_result"

/-- `_descriptor`: key semantics exactly for `PROVIDER_KEY`. -/
def referenceDescriptor (effect : EffectRef) (mutability : Mutability) (riskLevel : RiskLevel)
    (idempotencyMode : IdempotencyMode) (verificationMode : VerificationMode)
    (compensationKind : CompensationKind)
    (supportsExternalOperationId immediateResponseCanProveApplied
      immediateResponseCanProveNotApplied : Bool) (documentation : String)
    (readOnly : mutability = .readOnly → compensationKind = .none) : EffectDescriptor where
  contractVersion := contractVersion
  effect := effect
  mutability := mutability
  riskLevel := riskLevel
  idempotencyMode := idempotencyMode
  verificationMode := verificationMode
  compensationKind := compensationKind
  supportsExternalOperationId := supportsExternalOperationId
  immediateResponseCanProveApplied := immediateResponseCanProveApplied
  immediateResponseCanProveNotApplied := immediateResponseCanProveNotApplied
  providerKeySemantics :=
    if idempotencyMode = .providerKey then some referenceKeySemantics else none
  documentation := documentation
  keySemantics := by cases idempotencyMode <;> simp
  readOnlyCompensation := readOnly

theorem compensation_of_mutating {kind : CompensationKind}
    (readOnly : Mutability.mutating = .readOnly) : kind = .none :=
  nomatch readOnly

theorem none_of_readOnly {mutability : Mutability} (_ : mutability = .readOnly) :
    CompensationKind.none = .none :=
  rfl

def descriptorMutateProviderKey : EffectDescriptor :=
  referenceDescriptor effectMutateProviderKey .mutating .high .providerKey .operationLookup .exact
    true true true
    ("Reference mutating effect with provider-native key, operation lookup, and exact " ++
      "compensation.") compensation_of_mutating

def descriptorMutateNatural : EffectDescriptor :=
  referenceDescriptor effectMutateNatural .mutating .moderate .natural .readBack .approximate
    false true true
    ("Reference mutating effect with natural idempotency, read-back, and approximate " ++
      "compensation.") compensation_of_mutating

def descriptorMutateNone : EffectDescriptor :=
  referenceDescriptor effectMutateNone .mutating .high .none .none .none false true true
    "Reference mutating effect with no idempotency, verification, or compensation."
    compensation_of_mutating

def descriptorMutateEventual : EffectDescriptor :=
  referenceDescriptor effectMutateEventual .mutating .high .providerKey .readBack .exact
    true true false
    "Reference mutating effect whose read-back is eventually consistent; not-found is not proof."
    compensation_of_mutating

def descriptorMutateMitigating : EffectDescriptor :=
  referenceDescriptor effectMutateMitigating .mutating .critical .providerKey .operationLookup
    .mitigating true true true
    ("Reference mutating effect whose compensation mitigates harm without restoring prior " ++
      "state.") compensation_of_mutating

def descriptorReadResource : EffectDescriptor :=
  referenceDescriptor effectReadResource .readOnly .low .natural .readBack .none false false true
    "Reference read-only lookup. Successful execute does not mutate."
    none_of_readOnly

/-- `REFERENCE_DESCRIPTORS`, in the order of its items. -/
def referenceDescriptors : List (EffectRef × EffectDescriptor) :=
  [(effectMutateProviderKey, descriptorMutateProviderKey),
    (effectMutateNatural, descriptorMutateNatural), (effectMutateNone, descriptorMutateNone),
    (effectMutateEventual, descriptorMutateEventual),
    (effectMutateMitigating, descriptorMutateMitigating),
    (effectReadResource, descriptorReadResource)]

def descriptorOf (effect : EffectRef) : Option EffectDescriptor :=
  referenceDescriptors.lookup effect

/-- `_descriptor_for_action`. -/
def descriptorForAction (action : String) : Option EffectDescriptor :=
  (referenceDescriptors.find? fun item => decide (item.1.action = action)).map (·.2)

/-- The effects whose retries the provider recognises by the key. -/
def keyedEffects : List EffectRef :=
  [effectMutateProviderKey, effectMutateEventual, effectMutateMitigating]

theorem descriptorOf_listed {effect : EffectRef} {desc : EffectDescriptor}
    (found : descriptorOf effect = some desc) : (effect, desc) ∈ referenceDescriptors := by
  obtain ⟨before, after, split, -⟩ := List.lookup_eq_some_iff.mp found
  simp [split]

/-- The mode of a descriptor is `PROVIDER_KEY` exactly for these effects. -/
theorem providerKey_iff {effect : EffectRef} {desc : EffectDescriptor}
    (found : descriptorOf effect = some desc) :
    desc.idempotencyMode = .providerKey ↔ effect ∈ keyedEffects := by
  have listed := descriptorOf_listed found
  simp only [referenceDescriptors, List.mem_cons, Prod.mk.injEq, List.not_mem_nil, or_false]
    at listed
  obtain ⟨rfl, rfl⟩ | ⟨rfl, rfl⟩ | ⟨rfl, rfl⟩ | ⟨rfl, rfl⟩ | ⟨rfl, rfl⟩ | ⟨rfl, rfl⟩ := listed <;>
    decide

/-! ## Scripts -/

inductive ReferenceExecuteScript where
  | applied
  | notAppliedValidation
  | notAppliedRejected
  | notAppliedUnavailable
  | notAppliedRateLimit
  | notAppliedAuth
  | unknownTimeoutAfterSend
  | unknownMalformed
  | unknownRateLimitAmbiguous
  | appliedResponseLost
deriving DecidableEq, Repr

inductive ReferenceVerifyScript where
  | store
  | applied
  | notApplied
  | unknownTransport
  | unknownInconclusive
  | unknownMalformed
  | unknownInconsistent
deriving DecidableEq, Repr

inductive ReferenceCompensateScript where
  | applied
  | notAppliedRejected
  | unknownTimeoutAfterSend
  | unknownMalformed
deriving DecidableEq, Repr

/-- `_ExecuteSpec`. -/
structure ExecuteSpec where
  mutates : Bool
  outcome : EffectOutcome
  status : String
  kind : Option ErrorKind := none
  code : Option String := none
  retryable : Bool := false
  http : Option Int := none
  returnIds : Bool := false
  message : Option String := none
deriving DecidableEq, Repr

/-- `_EXECUTE_SPECS`. -/
def executeSpecs : ReferenceExecuteScript → ExecuteSpec
  | .applied => { mutates := true, outcome := .applied, status := "applied", returnIds := true }
  | .notAppliedValidation =>
    { mutates := false, outcome := .notApplied, status := "rejected"
      kind := some .validation, code := some "ref.validation.missing_resource_id" }
  | .notAppliedRejected =>
    { mutates := false, outcome := .notApplied, status := "rejected"
      kind := some .providerRejected, code := some "ref.rejected.before_accept", http := some 400
      message := some "provider rejected request before acceptance" }
  | .notAppliedUnavailable =>
    { mutates := false, outcome := .notApplied, status := "unavailable"
      kind := some .providerUnavailable, code := some "ref.unavailable.no_accept"
      retryable := true, http := some 503 }
  | .notAppliedRateLimit =>
    { mutates := false, outcome := .notApplied, status := "rate_limited"
      kind := some .rateLimited, code := some "ref.rate_limited.not_accepted"
      retryable := true, http := some 429 }
  | .notAppliedAuth =>
    { mutates := false, outcome := .notApplied, status := "auth"
      kind := some .authentication, code := some "ref.auth.missing", http := some 401
      message := some "provider authentication failed" }
  | .unknownTimeoutAfterSend | .appliedResponseLost =>
    { mutates := true, outcome := .unknown, status := "timeout"
      kind := some .transientTransport, code := some "ref.timeout.after_send"
      retryable := true }
  | .unknownMalformed =>
    { mutates := true, outcome := .unknown, status := "malformed"
      kind := some .malformedProviderResponse, code := some "ref.malformed.after_accept"
      http := some 200 }
  | .unknownRateLimitAmbiguous =>
    { mutates := true, outcome := .unknown, status := "rate_limited"
      kind := some .rateLimited, code := some "ref.rate_limited.ambiguous"
      retryable := true, http := some 429 }

end Stateback.Providers.Reference
