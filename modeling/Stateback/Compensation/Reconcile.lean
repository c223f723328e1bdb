import Stateback.Compensation.Request
/-!
# Compensation decisions

`compensation/eligibility.py`, `outcome.py`, `reconcile.py` and `kinds.py`: which operations may
be compensated, what a `compensate` call's evidence means, and what a verification result means
for a compensation.  No provider call and no write happens here.
-/

namespace Stateback.Compensation

open Domain Persistence Transitions Providers Stateback.Runtime Stateback.Recovery

/-! ## Eligibility -/

structure EligibilityDecision where
  allowed : Bool
  startKind : Option TransitionKind
  reasonCode : String
deriving DecidableEq, Repr

/-- Empty ids do not count, as in the source's truth tests. -/
def hasExternalArtifact (attempt : Option ExecutionAttempt) : Bool :=
  let named (id : Option String) := id.any fun value => decide (value ≠ "")
  match attempt with
  | none => false
  | some attempt =>
    named attempt.externalOperationId ||
      match attempt.evidence with
      | none => false
      | some evidence =>
        named evidence.externalOperationId || decide (0 < evidence.externalResourceIds.length)

/-- A rejection by the provider that shows nothing was created. -/
def failedWithoutArtifact (attempt : Option ExecutionAttempt) : Bool :=
  attempt.any fun attempt =>
    decide (attempt.state = .completed) && decide (attempt.outcome = some .notApplied)
      && attempt.error.any fun error =>
        decide (error.kind = .validation ∨ error.kind = .unsupportedCapability)

def evaluateStartEligibility (operation : Operation) (descriptor : EffectDescriptor)
    (obligations : PolicyObligations) (latestOriginalAttempt : Option ExecutionAttempt)
    (automatic operator : Bool) : EligibilityDecision :=
  if descriptor.compensationKind = .none then ⟨false, none, "compensation_kind_none"⟩
  else if operation.state = .succeeded ∧ automatic ∧ !obligations.automaticCompensationAllowed then
    ⟨false, none, "automatic_compensation_forbidden"⟩
  else if operation.state = .failed ∧ automatic ∧ !obligations.automaticCompensationAllowed then
    ⟨false, none, "automatic_compensation_forbidden"⟩
  else if operation.state = .succeeded then ⟨true, some .succeededStartCompensation, "accepted"⟩
  else if operation.state = .failed then
    if !hasExternalArtifact latestOriginalAttempt then ⟨false, none, "failed_without_artifact"⟩
    else if failedWithoutArtifact latestOriginalAttempt then
      ⟨false, none, "failed_without_artifact"⟩
    else ⟨true, some .failedStartCompensation, "accepted"⟩
  else if operation.state = .manualIntervention then
    if operator then ⟨true, some .manualStartCompensation, "accepted"⟩
    else ⟨false, none, "actor_required"⟩
  else ⟨false, none, "source_state_mismatch"⟩

/-! ## Evidence of a `compensate` call -/

structure CompensateKindDecision where
  kind : CommandKind
  reasonCode : String
deriving DecidableEq, Repr

def decideCompensateKind (outcome : EffectOutcome) (descriptor : EffectDescriptor)
    (obligations : PolicyObligations) : CompensateKindDecision :=
  match outcome with
  | .unknown => ⟨.transition .compensationOutcomeUnknown, "compensation_unknown"⟩
  | .applied =>
    if obligations.requireVerification || !descriptor.immediateResponseCanProveApplied then
      ⟨.progress .startCompensationVerification, "compensation_require_verification"⟩
    else ⟨.transition .compensationApplied, "compensation_applied"⟩
  | .notApplied => ⟨.transition .compensationOutcomeFailed, "compensation_not_applied_fail"⟩

/-! ## Verification results -/

def completedCompensationVerificationCount (rows : List VerificationRow) : Nat :=
  (rows.filter fun row => decide (row.1.target = .compensation) && row.2.isSome).length

def compensationAttemptOutcome (attempt : CompensationAttempt) : Option EffectOutcome :=
  match attempt.state with
  | .completed => attempt.outcome
  | .started => some .unknown

def reconcileCompensation (v : VerificationResult) (latest : Option CompensationAttempt)
    (descriptor : EffectDescriptor) (obligations : PolicyObligations)
    (completedCompensationVerifyCount : Nat) : ReconciliationDecision :=
  let latestOutcome := latest.bind compensationAttemptOutcome
  let attemptNumber := (latest.map (·.attemptNumber)).getD 0
  let code := (v.error.map (·.code)).getD ""
  let kind := v.error.map (·.kind)
  match v.outcome with
  | .applied =>
    if latestOutcome = some .notApplied then
      ⟨.requireManualIntervention, "contradictory_execution_and_verification"⟩
    else ⟨.markSucceeded, "verification_applied"⟩
  | .notApplied =>
    if latestOutcome = some .applied then
      ⟨.requireManualIntervention, "contradictory_execution_and_verification"⟩
    else
      let safety := evaluateEffectRetrySafety none (some .notApplied) descriptor.idempotencyMode
        none descriptor.providerKeySemantics false
        (decide (descriptor.idempotencyMode = .natural))
      if safety.verdict = .safe ∧ (attemptNumber : Int) < maxAutomaticAttempts obligations then
        ⟨.makeReadyForSafeRetry, "verification_not_applied_retry"⟩
      else ⟨.markFailed, "verification_not_applied_fail"⟩
  | .unknown =>
    if kind = some .unsupportedCapability then
      ⟨.requireManualIntervention, "verification_unsupported"⟩
    else if code = "ref.verify.inconsistent" then
      ⟨.requireManualIntervention, "verification_inconsistent"⟩
    else if maxAutomaticRecoveryAttempts obligations ≤ completedCompensationVerifyCount then
      ⟨.requireManualIntervention, "recovery_budget_exhausted"⟩
    else
      let reason :=
        if code = "ref.verify.transport" then "verification_transport"
        else if code = "ref.verify.visibility_window" then "verification_visibility_window"
        else if code = "ref.verify.malformed" then "verification_malformed"
        else if code = "ref.verify.inconclusive" then "verification_inconclusive"
        else if kind = some .malformedProviderResponse then "verification_malformed"
        else if kind = some .transientTransport then "verification_transport"
        else "verification_inconclusive"
      ⟨.remainUnknown, reason⟩

/-- `_COMPENSATING_VERIFYING`. -/
def compensatingVerifying : ReconciliationAction → CommandKind
  | .markSucceeded => .transition .compensationApplied
  | .markFailed => .transition .compensationOutcomeFailed
  | .makeReadyForSafeRetry => .progress .retryCompensationAfterVerification
  | .remainUnknown => .transition .compensationOutcomeUnknown
  | .requireManualIntervention => .transition .compensationEscalate

/-- `compensation_decision_to_kind`: a COMPENSATING operation whose compensation is VERIFYING, or
the two UNKNOWN states together; every other pair raises. -/
def compensationDecisionToKind (parentState : OperationState)
    (compensationState : CompensationState) (decision : ReconciliationDecision) :
    Except Raised CompensateKindDecision :=
  if parentState = .compensating ∧ compensationState = .verifying then
    .ok ⟨compensatingVerifying decision.action, decision.reasonCode⟩
  else if parentState = .compensationUnknown ∧ compensationState = .unknown then
    match decision.action with
    | .remainUnknown =>
      .error (.statebackError "remain_unknown_noop" "compensation recovery is a no-op")
    | .markSucceeded => .ok ⟨.transition .compensationUnknownApplied, decision.reasonCode⟩
    | .markFailed => .ok ⟨.transition .compensationUnknownFailed, decision.reasonCode⟩
    | .makeReadyForSafeRetry => .ok ⟨.transition .compensationUnknownRetry, decision.reasonCode⟩
    | .requireManualIntervention =>
      .ok ⟨.transition .compensationUnknownEscalate, decision.reasonCode⟩
  else .error (.statebackError "unsupported_state" "unsupported pair of states")

end Stateback.Compensation
