import Stateback.Transitions.Commands
import Stateback.Runtime.Execute
/-!
# Reconciliation

`recovery/reconcile.py`, `kinds.py`, `budget.py` and `request.py`: what a verification result
means for an operation.  No provider call and no write happens here.
-/

namespace Stateback.Recovery

open Domain Persistence Transitions Providers Stateback.Runtime

/-! ## Budgets -/

def phase6DefaultRecoveryAttempts : Int := 3

def maxAutomaticRecoveryAttempts (obligations : PolicyObligations) : Int :=
  match obligations.maxAutomaticRecoveryAttempts with
  | none => phase6DefaultRecoveryAttempts
  | some value => if value < 1 then phase6DefaultRecoveryAttempts else value

def completedOriginalVerificationCount (rows : List VerificationRow) : Nat :=
  (rows.filter fun row => decide (row.1.target = .originalEffect) && row.2.isSome).length

/-! ## The decision -/

/-- The outcome recovery reads off an attempt: a STARTED one is UNKNOWN. -/
def attemptOutcome (attempt : ExecutionAttempt) : Option EffectOutcome :=
  match attempt.state with
  | .completed => attempt.outcome
  | .started => some .unknown

structure ReconciliationInput where
  operation : Operation
  attempts : List ExecutionAttempt
  verificationResult : VerificationResult
  providerDescriptor : EffectDescriptor
  policyObligations : PolicyObligations

def reconcile (input : ReconciliationInput) (completedOriginalCount : Nat) :
    ReconciliationDecision :=
  let v := input.verificationResult
  let desc := input.providerDescriptor
  let latest := input.attempts.getLast?
  let latestOutcome := latest.bind attemptOutcome
  let attemptNumber := (latest.map (·.attemptNumber)).getD 0
  let code := (v.error.map (·.code)).getD ""
  let kind := v.error.map (·.kind)
  match v.outcome with
  | .applied =>
    if latestOutcome = some .notApplied then
      ⟨.requireManualIntervention, "contradictory_execution_and_verification"⟩
    else ⟨.markSucceeded, "verification_applied"⟩
  | .notApplied =>
    if latestOutcome = some .applied then
      ⟨.requireManualIntervention, "contradictory_execution_and_verification"⟩
    else
      let safety := evaluateEffectRetrySafety none (some .notApplied) desc.idempotencyMode none
        desc.providerKeySemantics false (decide (desc.idempotencyMode = .natural))
      if safety.verdict = .safe ∧
          (attemptNumber : Int) < maxAutomaticAttempts input.policyObligations then
        ⟨.makeReadyForSafeRetry, "verification_not_applied_retry"⟩
      else ⟨.markFailed, "verification_not_applied_fail"⟩
  | .unknown =>
    if kind = some .unsupportedCapability then
      ⟨.requireManualIntervention, "verification_unsupported"⟩
    else if code = "ref.verify.inconsistent" then
      ⟨.requireManualIntervention, "verification_inconsistent"⟩
    else if maxAutomaticRecoveryAttempts input.policyObligations ≤ completedOriginalCount then
      ⟨.requireManualIntervention, "recovery_budget_exhausted"⟩
    else
      let reason :=
        if code = "ref.verify.transport" then "verification_transport"
        else if code = "ref.verify.visibility_window" then "verification_visibility_window"
        else if code = "ref.verify.malformed" then "verification_malformed"
        else if code = "ref.verify.inconclusive" then "verification_inconclusive"
        else if kind = some .malformedProviderResponse then "verification_malformed"
        else if kind = some .transientTransport then "verification_transport"
        else "verification_inconclusive"
      ⟨.remainUnknown, reason⟩

/-- `decision_to_kind` for VERIFYING, the only state recovery asks it about. -/
def verifyingActions : ReconciliationAction → TransitionKind
  | .markSucceeded => .verificationApplied
  | .markFailed => .verificationNotAppliedFail
  | .makeReadyForSafeRetry => .verificationNotAppliedRetry
  | .remainUnknown => .verificationInconclusive
  | .requireManualIntervention => .verificationEscalate

def buildOriginalVerificationRequest (operation : Operation) (attempt : Option ExecutionAttempt)
    (verificationId : OpaqueId) (requestedAt : UtcTimestamp) : VerificationRequest where
  contractVersion := contractVersion
  verificationId := verificationId
  operationId := operation.operationId
  operationVersion := operation.version
  target := .originalEffect
  targetAttemptId := attempt.map (·.attemptId)
  effect := operation.intent.effect
  externalOperationId := attempt.bind (·.externalOperationId)
  externalResourceIds := (attempt.map (·.externalResourceIds)).getD []
  idempotencyIdentity := operation.idempotencyIdentity
  providerEvidenceRefs := []
  requestedAt := requestedAt

end Stateback.Recovery
