import Stateback.Lib.Process
import Stateback.Transitions.Service
/-!
# Provider adapters and the capability registry

`domain/capability.py`, `providers/registry.py`, `providers/retry.py` and
`providers/normalize.py`.  An adapter's descriptor and its resource ids are functions of what
they are asked about; its three provider calls, like the clock, are questions a service asks
its environment, which may answer anything.
-/

namespace Stateback.Providers

open Stateback.Domain Stateback.Persistence Stateback.Transitions Process

structure ProviderExecutionContext where
  operationId : OpaqueId
  attemptId : OpaqueId
  idempotencyIdentity : String
  providerIdempotencyKey : Option String
  correlationId : Option String
  deadline : Option UtcTimestamp
deriving DecidableEq, Repr

structure ProviderExecutionRequest where
  effect : EffectRef
  arguments : JsonValue
deriving DecidableEq, Repr

structure ExecutionEvidence where
  outcome : EffectOutcome
  evidence : Option ProviderEvidence
  error : Option NormalizedError
  externalOperationId : Option String
  externalResourceIds : List String
deriving DecidableEq, Repr

structure VerificationEvidence where
  outcome : EffectOutcome
  evidence : ProviderEvidence
  error : Option NormalizedError
deriving DecidableEq, Repr

structure CompensationRequest where
  originalOperationId : OpaqueId
  compensationId : OpaqueId
  compensationAttemptId : OpaqueId
  originalEvidence : List ProviderEvidence
  compensationArguments : Option JsonValue
  idempotencyIdentity : String
  providerIdempotencyKey : Option String
deriving DecidableEq, Repr

structure CompensationEvidence where
  outcome : EffectOutcome
  evidence : Option ProviderEvidence
  error : Option NormalizedError
  externalOperationId : Option String
deriving DecidableEq, Repr

/-! ## The registry -/

/-- The parts of a registered adapter that answer without a provider call. -/
structure Adapter where
  descriptor : EffectRef → EffectDescriptor
  verificationResourceIds : ProviderExecutionRequest → Except Raised (List String)

structure CapabilityRegistry where
  adapters : EffectRef → Option Adapter

namespace CapabilityRegistry

def adapterFor (registry : CapabilityRegistry) (effect : EffectRef) : Except Raised Adapter :=
  match registry.adapters effect with
  | some adapter => .ok adapter
  | none => .error (.unsupportedEffectError effect)

def descriptor (registry : CapabilityRegistry) (effect : EffectRef) :
    Except Raised EffectDescriptor :=
  match registry.adapterFor effect with
  | .ok adapter => .ok (adapter.descriptor effect)
  | .error e => .error e

end CapabilityRegistry

/-- The interpreter reads no decimal of more digits into an `int`. -/
def maxStrDigits : Nat := 4300

/-- A positive decimal without leading zero; anything else is no window at all. -/
def parseReplayWindowSeconds (raw : Option String) : Except Raised (Option Nat) :=
  match raw.map String.toList with
  | some (first :: rest) =>
    if first ≠ '0' ∧ (first :: rest).all Char.isDigit then
      if maxStrDigits < (first :: rest).length then
        .error (.valueError "integer string conversion")
      else
        .ok (some ((first :: rest).foldl
          (fun total digit => total * 10 + (digit.toNat - '0'.toNat)) 0))
    else .ok none
  | _ => .ok none

/-- `total_seconds() >= seconds` for a span of the calendar.  The quotient is a float of 53 bits,
taken here in units of its last bit; no such span lies halfway between two of them. -/
def spanReaches (microseconds : Int) (seconds : Nat) : Bool :=
  let span := microseconds.toNat
  let unit := 1 <<< (52 - (span / 1000000).log2)
  decide (seconds * unit ≤ (span * unit + 500000) / 1000000)

/-- Over less than `2 ^ 33` seconds the float keeps every microsecond. -/
theorem spanReaches_exact {microseconds : Int}
    (short : microseconds.toNat / 1000000 < 8589934592) (seconds : Nat) :
    spanReaches microseconds seconds = true ↔ seconds * 1000000 ≤ microseconds.toNat := by
  unfold spanReaches
  dsimp only
  generalize microseconds.toNat = span at short ⊢
  have bits : (span / 1000000).log2 ≤ 32 := by
    by_cases zero : span / 1000000 = 0
    · rw [zero]
      decide
    · have := (Nat.log2_lt (k := 33) zero).mpr short
      omega
  have fine : 1048576 ≤ 1 <<< (52 - (span / 1000000).log2) := by
    rw [Nat.one_shiftLeft]
    exact Nat.pow_le_pow_right (n := 2) (i := 20) (by decide) (by omega)
  generalize 1 <<< (52 - (span / 1000000).log2) = unit at fine ⊢
  rw [decide_eq_true_eq, Nat.le_div_iff_mul_le (by decide), Nat.mul_right_comm]
  constructor
  · intro reaches
    by_contra less
    have room : (span + 1) * unit ≤ seconds * 1000000 * unit :=
      Nat.mul_le_mul_right unit (by omega)
    rw [Nat.succ_mul] at room
    omega
  · intro reaches
    have room : seconds * 1000000 * unit ≤ span * unit := Nat.mul_le_mul_right unit reaches
    omega

/-- An unparsable window counts as elapsed. -/
def replayWindowHasElapsed (semantics : ProviderKeySemantics) (startedAt now : UtcTimestamp) :
    Except Raised Bool :=
  match semantics.replayWindow with
  | none => .ok false
  | some window =>
    match parseReplayWindowSeconds (some window) with
    | .error e => .error e
    | .ok none => .ok true
    | .ok (some seconds) => .ok (spanReaches (now.value - startedAt.value) seconds)

/-- `CapabilityRegistry.evaluate_retry_safety` after its descriptor lookup. -/
def evaluateRetrySafety (desc : EffectDescriptor)
    (executionOutcome verificationOutcome : Option EffectOutcome) (now : UtcTimestamp)
    (firstAttemptAt : Option UtcTimestamp) (insufficientSignal : Option String) :
    Except Raised RetrySafetyDecision :=
  if insufficientSignal.isSome then
    .ok (evaluateEffectRetrySafety executionOutcome verificationOutcome desc.idempotencyMode
      insufficientSignal none false false)
  else
    match desc.idempotencyMode with
    | .providerKey =>
      match firstAttemptAt with
      | none => .ok ⟨.unsafeRetry, none, "provider_key_replay_window_unknown_start"⟩
      | some startedAt =>
        match desc.providerKeySemantics with
        | none =>
          .ok (evaluateEffectRetrySafety executionOutcome verificationOutcome .providerKey none none
            false false)
        | some semantics =>
          (replayWindowHasElapsed semantics startedAt now).map fun elapsed =>
            evaluateEffectRetrySafety executionOutcome verificationOutcome .providerKey none
              (some semantics) elapsed false
    | .natural =>
      .ok (evaluateEffectRetrySafety executionOutcome verificationOutcome .natural none none false
        true)
    | .none =>
      .ok (evaluateEffectRetrySafety executionOutcome verificationOutcome .none none none false
        false)

/-- The window of the provider's keys is not a decimal of too many digits. -/
def ReadableWindow (desc : EffectDescriptor) : Prop :=
  desc.idempotencyMode = .providerKey → ∀ semantics, desc.providerKeySemantics = some semantics →
    ∃ seconds, parseReplayWindowSeconds semantics.replayWindow = .ok seconds

theorem replayWindowHasElapsed_ok_iff {semantics : ProviderKeySemantics}
    {startedAt now : UtcTimestamp} :
    (∃ elapsed, replayWindowHasElapsed semantics startedAt now = .ok elapsed) ↔
      ∃ seconds, parseReplayWindowSeconds semantics.replayWindow = .ok seconds := by
  unfold replayWindowHasElapsed
  cases semantics.replayWindow with
  | none => exact ⟨fun _ => ⟨none, rfl⟩, fun _ => ⟨false, rfl⟩⟩
  | some raw =>
    cases parsed : parseReplayWindowSeconds (some raw) with
    | error e => simp [parsed]
    | ok seconds => cases seconds <;> simp [parsed]

/-- Whether the registry decides does not depend on the outcome or the clock. -/
theorem evaluateRetrySafety_ok_iff {desc : EffectDescriptor}
    {executionOutcome verificationOutcome : Option EffectOutcome} {now startedAt : UtcTimestamp} :
    (∃ retry, evaluateRetrySafety desc executionOutcome verificationOutcome now (some startedAt)
        none = .ok retry) ↔
      ReadableWindow desc := by
  unfold evaluateRetrySafety ReadableWindow
  simp only [Option.isSome_none, Bool.false_eq_true, if_false]
  cases mode : desc.idempotencyMode with
  | none | natural => simp
  | providerKey =>
    cases key : desc.providerKeySemantics with
    | none => simp
    | some semantics =>
      simp only [Option.some.injEq, forall_eq', forall_const]
      rw [← @replayWindowHasElapsed_ok_iff semantics startedAt now]
      cases replayWindowHasElapsed semantics startedAt now <;> simp [Except.map]

/-! ## The environment of a service -/

/-- How a provider call ends, if it ends: `raisedOther` is any exception but the two the
services let through. -/
inductive CallEnd (α : Type) where
  | returned (value : α)
  | raisedUnsupportedEffect (effect : EffectRef)
  | raisedContractValidation (reasonCode : String)
  | raisedOther (typeName : String)
deriving DecidableEq, Repr

inductive Query where
  | now
  | execute (context : ProviderExecutionContext) (request : ProviderExecutionRequest)
  | verify (context : ProviderExecutionContext) (request : VerificationRequest)
  | compensate (effect : EffectRef) (context : ProviderExecutionContext)
      (request : CompensationRequest)
deriving DecidableEq, Repr

abbrev Answer : Query → Type
  | .now => UtcTimestamp
  | .execute .. => CallEnd ExecutionEvidence
  | .verify .. => CallEnd VerificationEvidence
  | .compensate .. => CallEnd CompensationEvidence

/-- What a unit of work is for: it submits a command built before it, or anything else. -/
inductive Purpose where
  | work
  | submit (command : TransitionCommand)
deriving DecidableEq

/-- A service: units of work over the journal, the clock and provider calls. -/
abbrev Service (α : Type) := Prog Purpose Store Raised Query Answer α

namespace Service

def now : Service UtcTimestamp := Prog.question Query.now

/-- A unit of work whose exception leaves the service. -/
def uow {α : Type} (body : Uow α) : Service α := Prog.commit .work body

/-- A read in a unit of work of its own. -/
def load {α : Type} (read : Store → α) : Service α := uow fun s => .ok (read s, s)

/-- `with unit_of_work(...) as uow: transitions.apply(uow, command)`. -/
def submit (command : TransitionCommand) : Service TransitionResult :=
  Prog.commit (.submit command) (Transitions.apply command)

/-- The same inside a `try`. -/
def trySubmit (command : TransitionCommand) : Service (Except Raised TransitionResult) :=
  Prog.attempt (.submit command) (Transitions.apply command)

def lift {α : Type} : Except Raised α → Service α := Prog.finish

@[simp] theorem now_bind {α : Type} (rest : UtcTimestamp → Service α) :
    now >>= rest = Prog.ask Query.now rest := rfl

@[simp] theorem lift_ok_bind {α β : Type} (a : α) (rest : α → Service β) :
    lift (.ok a) >>= rest = rest a := rfl

@[simp] theorem lift_error_bind {α β : Type} (e : Raised) (rest : α → Service β) :
    lift (.error e) >>= rest = Prog.raise e := rfl

end Service

/-- `evidence_for_unclassified_exception`. -/
def evidenceForUnclassifiedException (typeName : String) (observedAt : UtcTimestamp)
    (provider : String) : EffectOutcome × NormalizedError × ProviderEvidence :=
  (.unknown,
    { contractVersion := contractVersion
      kind := .internal
      code := "ref.internal.unclassified"
      message := "unclassified adapter exception"
      retryableInfrastructure := false
      providerHttpStatus := none
      providerErrorCode := none
      retryAfterSeconds := none
      details := jsonObjectFromPlain [("exception_type", .str typeName)] },
    { source := .executionResponse
      provider := provider
      observedAt := observedAt
      providerStatus := none
      providerRequestId := none
      externalOperationId := none
      externalResourceIds := []
      evidenceFields := jsonObjectFromPlain []
      rawReference := none })

end Stateback.Providers
