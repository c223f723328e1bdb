import Stateback.Domain.Canonical
import Stateback.Domain.Secrets
/-!
# Intents

The checks and the constructor of `domain/intent.py`, with the refusals of `domain/secrets.py`.  An
accepted intent names its own material: its digest is that of its effect, its arguments, its
requester and its metadata.
-/

namespace Stateback.Domain

section Secrets

variable (lower : String → String)

mutual

/-- `reject_secrets_in_json`. -/
def rejectSecretsInJson : JsonValue → String → Except ContractValidationError Unit
  | .array items, field => rejectSecretsInItems items field 0
  | .object items, field => rejectSecretsInFields items field
  | .str value, field =>
    if valueIsForbidden lower value then
      .error ⟨"secret_field", field ++ " looks like a secret value"⟩
    else .ok ()
  | .null, _ | .bool _, _ | .int _, _ => .ok ()

def rejectSecretsInItems : List JsonValue → String → Nat → Except ContractValidationError Unit
  | [], _, _ => .ok ()
  | item :: rest, field, index => do
    rejectSecretsInJson item (field ++ "[" ++ toString index ++ "]")
    rejectSecretsInItems rest field (index + 1)

def rejectSecretsInFields :
    List (String × JsonValue) → String → Except ContractValidationError Unit
  | [], _ => .ok ()
  | (key, item) :: rest, field =>
    if keyIsForbidden lower key then
      .error ⟨"secret_field", field ++ "." ++ key ++ " looks like a secret key"⟩
    else do
      rejectSecretsInJson item (field ++ "." ++ key)
      rejectSecretsInFields rest field

end

def rejectSecretsInStrMap :
    List (String × String) → String → Except ContractValidationError Unit
  | [], _ => .ok ()
  | (key, value) :: rest, field =>
    if keyIsForbidden lower key then
      .error ⟨"secret_field", field ++ "." ++ key ++ " looks like a secret key"⟩
    else if valueIsForbidden lower value then
      .error ⟨"secret_field", field ++ "." ++ key ++ " looks like a secret value"⟩
    else rejectSecretsInStrMap rest field

end Secrets

variable {lower : String → String}

theorem except_bind_ok {ε α β : Type} {first : Except ε α} {next : α → Except ε β} {b : β} :
    (first >>= next) = .ok b ↔ ∃ a, first = .ok a ∧ next a = .ok b := by
  cases first <;> simp [bind, Except.bind]

mutual

/-- What is let through holds no secrets. -/
theorem rejectSecretsInJson_ok : ∀ value field,
    rejectSecretsInJson lower value field = .ok () ↔ secretFree lower value = true
  | .array items, field => rejectSecretsInItems_ok items field 0
  | .object items, field => rejectSecretsInFields_ok items field
  | .str value, field => by
    rw [rejectSecretsInJson, secretFree]
    split
    next forbidden => simp [forbidden]
    next allowed => simp [allowed]
  | .null, _ => by simp [rejectSecretsInJson, secretFree]
  | .bool _, _ => by simp [rejectSecretsInJson, secretFree]
  | .int _, _ => by simp [rejectSecretsInJson, secretFree]

theorem rejectSecretsInItems_ok : ∀ items field index,
    rejectSecretsInItems lower items field index = .ok () ↔ secretFreeItems lower items = true
  | [], _, _ => by simp [rejectSecretsInItems, secretFreeItems]
  | item :: rest, field, index => by
    rw [rejectSecretsInItems, secretFreeItems, except_bind_ok, Bool.and_eq_true,
      ← rejectSecretsInJson_ok item (field ++ "[" ++ toString index ++ "]"),
      ← rejectSecretsInItems_ok rest field (index + 1)]
    exact ⟨fun ⟨_, first, others⟩ => ⟨first, others⟩, fun ⟨first, others⟩ => ⟨(), first, others⟩⟩

theorem rejectSecretsInFields_ok : ∀ items field,
    rejectSecretsInFields lower items field = .ok () ↔ secretFreeFields lower items = true
  | [], _ => by simp [rejectSecretsInFields, secretFreeFields]
  | (key, item) :: rest, field => by
    rw [rejectSecretsInFields, secretFreeFields]
    split
    next forbidden => simp [forbidden]
    next allowed =>
      rw [except_bind_ok, Bool.and_eq_true, Bool.and_eq_true,
        ← rejectSecretsInJson_ok item (field ++ "." ++ key),
        ← rejectSecretsInFields_ok rest field]
      constructor
      · rintro ⟨_, first, others⟩
        exact ⟨⟨by simp [allowed], first⟩, others⟩
      · rintro ⟨⟨-, first⟩, others⟩
        exact ⟨(), first, others⟩

end

/-! ## Envelopes -/

/-- How making an intent fails: a check of the contract, or an integer that is not written. -/
inductive IntentError where
  | contract (error : ContractValidationError)
  | unwritable
deriving DecidableEq, Repr

/-- `_SHA256_RE`. -/
def isSha256 (hash : String) : Bool :=
  decide (hash.length = 64) &&
    hash.toList.all fun c => ('0' ≤ c && c ≤ '9') || ('a' ≤ c && c ≤ 'f')

def IntentEnvelope.input (intent : IntentEnvelope) : IntentInput where
  effect := intent.effect
  argumentsMode := intent.argumentsMode
  arguments := intent.arguments.getD .null
  argumentsRef := intent.argumentsRef
  requester := intent.requester
  metadata := intent.metadata

section

variable (lower : String → String) (sha256 : List UInt8 → String) (digits : Nat)

def contractChecked {α : Type} (checked : Except ContractValidationError α) :
    Except IntentError α :=
  match checked with
  | .ok a => .ok a
  | .error e => .error (.contract e)

def written {α : Type} (value : Option α) : Except IntentError α :=
  match value with
  | some a => .ok a
  | none => .error .unwritable

/-- `compute_intent_digest`. -/
def computeIntentDigest (intent : IntentInput) (canonicalArgumentsHash : String) :
    Except IntentError String := do
  let material ← contractChecked (intentMaterial intent canonicalArgumentsHash)
  let bytes ← written (canonicalJsonBytes digits material)
  pure (sha256 bytes)

/-- What an intent may say in its mode. -/
def checkArguments (intent : IntentEnvelope) : Except ContractValidationError Unit :=
  match intent.argumentsMode with
  | .inline =>
    match intent.arguments with
    | none => .error ⟨"illegal_combination", "INLINE intent requires arguments"⟩
    | some arguments =>
      if intent.argumentsRef.isSome then
        .error ⟨"illegal_combination", "INLINE intent forbids arguments_ref"⟩
      else rejectSecretsInJson lower arguments "IntentEnvelope.arguments"
  | .reference =>
    if intent.arguments.isSome then
      .error ⟨"illegal_combination", "REFERENCE intent forbids inline arguments"⟩
    else if intent.argumentsRef.isNone then
      .error ⟨"illegal_combination", "REFERENCE intent requires arguments_ref"⟩
    else .ok ()

def checkHashes (intent : IntentEnvelope) : Except ContractValidationError Unit :=
  if ¬ isSha256 intent.canonicalArgumentsHash then
    .error ⟨"invalid_hash", "canonical_arguments_hash must be 64 lowercase hex chars"⟩
  else if ¬ isSha256 intent.intentDigest then
    .error ⟨"invalid_hash", "intent_digest must be 64 lowercase hex chars"⟩
  else .ok ()

/-- `IntentEnvelope.__post_init__`. -/
def IntentEnvelope.check (intent : IntentEnvelope) : Except IntentError Unit := do
  contractChecked (checkArguments lower intent)
  contractChecked (rejectSecretsInStrMap lower intent.metadata "IntentEnvelope.metadata")
  contractChecked (checkHashes intent)
  let expectedArgs ← written (computeCanonicalArgumentsHash sha256 digits intent.input)
  contractChecked (if expectedArgs ≠ intent.canonicalArgumentsHash then
    .error ⟨"hash_mismatch", "canonical_arguments_hash does not match canonical arguments"⟩
    else .ok ())
  let expectedDigest ← computeIntentDigest sha256 digits intent.input intent.canonicalArgumentsHash
  contractChecked (if expectedDigest ≠ intent.intentDigest then
    .error ⟨"hash_mismatch", "intent_digest does not match canonical material"⟩
    else .ok ())

/-- The envelope that `from_parts` builds with its digests. -/
def envelopeOf (input : IntentInput) (arguments : Option JsonValue) (requestedAt : UtcTimestamp)
    (hash digest : String) : IntentEnvelope where
  effect := input.effect
  argumentsMode := input.argumentsMode
  arguments := arguments
  argumentsRef := input.argumentsRef
  canonicalArgumentsHash := hash
  intentDigest := digest
  requester := input.requester
  requestedAt := requestedAt
  metadata := input.metadata

/-- `IntentEnvelope.from_parts`. -/
def IntentEnvelope.fromParts (effect : EffectRef) (argumentsMode : ArgumentsMode)
    (arguments : Option JsonValue) (argumentsRef : Option String) (requester : PrincipalRef)
    (requestedAt : UtcTimestamp) (metadata : List (String × String)) :
    Except IntentError IntentEnvelope := do
  let input : IntentInput :=
    ⟨effect, argumentsMode, arguments.getD .null, argumentsRef, requester, metadata⟩
  let hash ← written (computeCanonicalArgumentsHash sha256 digits input)
  let digest ← computeIntentDigest sha256 digits input hash
  let intent := envelopeOf input arguments requestedAt hash digest
  intent.check lower sha256 digits
  pure intent

end

section

variable {sha256 : List UInt8 → String} {digits : Nat} {intent : IntentEnvelope}

@[simp] theorem contractChecked_ok {α : Type} {checked : Except ContractValidationError α} {a : α} :
    contractChecked checked = .ok a ↔ checked = .ok a := by
  cases checked <;> simp [contractChecked]

@[simp] theorem written_ok {α : Type} {value : Option α} {a : α} :
    written value = .ok a ↔ value = some a := by
  cases value <;> simp [written]

/-- The digest is that of the intent's own material. -/
def NamesItself (sha256 : List UInt8 → String) (digits : Nat) (intent : IntentEnvelope) : Prop :=
  ∃ bytes, intentBytes sha256 digits intent.input = some bytes ∧
    intent.intentDigest = sha256 bytes

theorem intentBytes_of_digest {input : IntentInput} {hash digest : String}
    (hashed : computeCanonicalArgumentsHash sha256 digits input = some hash)
    (computed : computeIntentDigest sha256 digits input hash = .ok digest) :
    ∃ bytes, intentBytes sha256 digits input = some bytes ∧ digest = sha256 bytes := by
  unfold computeIntentDigest at computed
  simp only [except_bind_ok, contractChecked_ok, written_ok] at computed
  obtain ⟨material, made, bytes, given, same⟩ := computed
  refine ⟨bytes, ?_, (Except.ok.inj same).symm⟩
  simp only [intentBytes, hashed, Option.bind_eq_bind, Option.bind_some, made, Except.toOption,
    given]

/-- What an envelope that passes its own check says. -/
structure Accepted (lower : String → String) (sha256 : List UInt8 → String) (digits : Nat)
    (intent : IntentEnvelope) : Prop where
  named : NamesItself sha256 digits intent
  hashed : computeCanonicalArgumentsHash sha256 digits intent.input =
    some intent.canonicalArgumentsHash
  arguments : ∀ arguments, intent.arguments = some arguments → secretFree lower arguments = true
  inlined : intent.argumentsMode = .inline → intent.arguments.isSome

theorem checkArguments_ok (checked : checkArguments lower intent = .ok ()) :
    (∀ arguments, intent.arguments = some arguments → secretFree lower arguments = true) ∧
      (intent.argumentsMode = .inline → intent.arguments.isSome) := by
  unfold checkArguments at checked
  cases mode : intent.argumentsMode with
  | inline =>
    rw [mode] at checked
    cases given : intent.arguments with
    | none =>
      rw [given] at checked
      cases checked
    | some arguments =>
      simp only [given] at checked
      split at checked
      · cases checked
      · refine ⟨?_, fun _ => rfl⟩
        rintro _ ⟨⟩
        exact (rejectSecretsInJson_ok arguments _).mp checked
  | reference =>
    simp only [mode] at checked
    split at checked
    · cases checked
    next absent =>
      refine ⟨fun arguments given => ?_, nofun⟩
      rw [given] at absent
      exact absurd rfl absent

theorem IntentEnvelope.check_ok (checked : intent.check lower sha256 digits = .ok ()) :
    Accepted lower sha256 digits intent := by
  unfold IntentEnvelope.check at checked
  simp only [except_bind_ok, contractChecked_ok, written_ok] at checked
  obtain ⟨_, arguments, _, -, _, -, hash, hashed, _, sameHash, digest, computed, sameDigest⟩ :=
    checked
  have hashes : hash = intent.canonicalArgumentsHash := by
    by_contra other
    rw [if_pos other] at sameHash
    cases sameHash
  have digests : digest = intent.intentDigest := by
    by_contra other
    rw [if_pos other] at sameDigest
    cases sameDigest
  rw [hashes] at hashed
  rw [digests] at computed
  have checks := checkArguments_ok arguments
  exact ⟨intentBytes_of_digest hashed computed, hashed, checks.1, checks.2⟩

/-- An intent that is made has the parts it was made of, and passes its own check. -/
theorem IntentEnvelope.fromParts_ok {effect : EffectRef} {argumentsMode : ArgumentsMode}
    {arguments : Option JsonValue} {argumentsRef : Option String} {requester : PrincipalRef}
    {requestedAt : UtcTimestamp} {metadata : List (String × String)}
    (made : IntentEnvelope.fromParts lower sha256 digits effect argumentsMode arguments argumentsRef
      requester requestedAt metadata = .ok intent) :
    (intent.effect = effect ∧ intent.argumentsMode = argumentsMode ∧ intent.arguments = arguments ∧
      intent.argumentsRef = argumentsRef ∧ intent.requester = requester ∧
      intent.requestedAt = requestedAt ∧ intent.metadata = metadata) ∧
    Accepted lower sha256 digits intent := by
  unfold IntentEnvelope.fromParts at made
  simp only [except_bind_ok, written_ok] at made
  obtain ⟨hash, -, digest, -, _, checked, same⟩ := made
  cases same
  exact ⟨⟨rfl, rfl, rfl, rfl, rfl, rfl, rfl⟩, IntentEnvelope.check_ok checked⟩

/-- Of the texts that are hashed for the two, different ones have different hashes. -/
structure Apart (sha256 : List UInt8 → String) (digits : Nat) (a b : IntentInput) : Prop where
  arguments : ∀ m m', argumentsBytes digits a = some m → argumentsBytes digits b = some m' →
    sha256 m = sha256 m' → m = m'
  intents : ∀ m m', intentBytes sha256 digits a = some m → intentBytes sha256 digits b = some m' →
    sha256 m = sha256 m' → m = m'

/-- Two intents ask for the same. -/
structure SameRequest (a b : IntentInput) : Prop where
  effect : a.effect = b.effect
  arguments : a.arguments = b.arguments
  argumentsMode : a.argumentsMode = b.argumentsMode
  argumentsRef : a.argumentsRef = b.argumentsRef
  requesterType : a.requester.type = b.requester.type
  requesterId : a.requester.id = b.requester.id
  metadata : a.metadata.Perm b.metadata

/-- Intents with one digest ask for the same. -/
theorem sameRequest_of_digest {other : IntentEnvelope} (named : NamesItself sha256 digits intent)
    (named' : NamesItself sha256 digits other)
    (apart : Apart sha256 digits intent.input other.input)
    (canonical : Canonical intent.input.arguments) (canonical' : Canonical other.input.arguments)
    (same : intent.intentDigest = other.intentDigest) : SameRequest intent.input other.input := by
  obtain ⟨bytes, given, digest⟩ := named
  obtain ⟨bytes', given', digest'⟩ := named'
  have hashes : sha256 bytes = sha256 bytes' := by rw [← digest, ← digest', same]
  obtain rfl := apart.intents bytes bytes' given given' hashes
  obtain ⟨effect, arguments, mode, ref, type, id, metadata⟩ :=
    intentBytes_injective canonical canonical' apart.arguments given given'
  exact ⟨effect, arguments, mode, ref, type, id, metadata⟩

end

end Stateback.Domain
