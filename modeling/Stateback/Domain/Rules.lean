import Stateback.Domain.Records
/-!
# State-machine tables and evidence rules

`domain/transitions.py`, `domain/crash.py`, `domain/approval_binding.py` and
`domain/retry_safety.py`: the pure decisions the transition engine consults.
-/

namespace Stateback.Domain

/-- `LEGAL_OPERATION_TRANSITIONS`. -/
def legalOperationTransitions : List (Option OperationState × OperationState) :=
  [(none, .pendingPolicy),
   (some .pendingPolicy, .ready),
   (some .pendingPolicy, .awaitingApproval),
   (some .pendingPolicy, .denied),
   (some .pendingPolicy, .cancelled),
   (some .awaitingApproval, .ready),
   (some .awaitingApproval, .denied),
   (some .awaitingApproval, .cancelled),
   (some .ready, .executing),
   (some .ready, .cancelled),
   (some .ready, .manualIntervention),
   (some .executing, .succeeded),
   (some .executing, .verifying),
   (some .executing, .ready),
   (some .executing, .failed),
   (some .executing, .unknown),
   (some .executing, .manualIntervention),
   (some .verifying, .succeeded),
   (some .verifying, .ready),
   (some .verifying, .failed),
   (some .verifying, .unknown),
   (some .verifying, .manualIntervention),
   (some .unknown, .verifying),
   (some .unknown, .ready),
   (some .unknown, .succeeded),
   (some .unknown, .failed),
   (some .unknown, .manualIntervention),
   (some .succeeded, .compensating),
   (some .failed, .compensating),
   (some .manualIntervention, .verifying),
   (some .manualIntervention, .compensating),
   (some .manualIntervention, .ready),
   (some .compensating, .compensated),
   (some .compensating, .compensationUnknown),
   (some .compensating, .compensationFailed),
   (some .compensating, .manualIntervention),
   (some .compensationUnknown, .compensating),
   (some .compensationUnknown, .compensated),
   (some .compensationUnknown, .compensationFailed),
   (some .compensationUnknown, .manualIntervention),
   (some .compensationFailed, .compensating),
   (some .compensationFailed, .manualIntervention)]

/-- The verdict of `evaluate_operation_transition`. -/
def evaluateOperationTransition (fromState : Option OperationState) (toState : OperationState) :
    Bool :=
  (fromState, toState) ∈ legalOperationTransitions

theorem no_legal_transition_from_absolute_terminal {fromState toState : OperationState}
    (legal : evaluateOperationTransition (some fromState) toState = true) :
    fromState.isAbsoluteTerminal = false := by
  revert legal
  cases fromState <;> cases toState <;> decide

/-- `LEGAL_COMPENSATION_TRANSITIONS`. -/
def legalCompensationTransitions : List (CompensationState × CompensationState) :=
  [(.pending, .executing),
   (.executing, .succeeded),
   (.executing, .verifying),
   (.executing, .unknown),
   (.executing, .failed),
   (.verifying, .succeeded),
   (.verifying, .executing),
   (.verifying, .unknown),
   (.verifying, .failed),
   (.unknown, .verifying),
   (.unknown, .executing),
   (.unknown, .succeeded),
   (.unknown, .failed),
   (.failed, .executing)]

def evaluateCompensationTransition (fromState toState : CompensationState) : Bool :=
  (fromState, toState) ∈ legalCompensationTransitions

/-- `PARENT_FOR_COMPENSATION_STATE`. -/
def parentForCompensationState : CompensationState → OperationState
  | .pending => .compensating
  | .executing => .compensating
  | .verifying => .compensating
  | .unknown => .compensationUnknown
  | .succeeded => .compensated
  | .failed => .compensationFailed

def compensationParentIsConsistent (compensationState : CompensationState)
    (parentState : OperationState) : Bool :=
  decide (parentState = parentForCompensationState compensationState)

structure CrashDecision where
  interpretation : CrashInterpretation
  reasonCode : String
deriving DecidableEq, Repr

def interpretExecutionCrash (operationState : OperationState)
    (attemptState : Option AttemptState) : CrashDecision :=
  if operationState = .ready then ⟨.noProviderAttempt, "ready_has_no_claimed_attempt"⟩
  else if operationState = .executing ∧ attemptState = some .started then
    ⟨.potentiallyUnknown, "executing_started_may_have_crossed_provider"⟩
  else if operationState = .executing ∧ attemptState = some .completed then
    ⟨.useDurableEvidence, "attempt_result_already_durable"⟩
  else if attemptState = some .completed then
    ⟨.useDurableEvidence, "completed_attempt_has_outcome"⟩
  else if operationState = .executing ∧ attemptState = none then
    ⟨.potentiallyUnknown, "executing_without_attempt_is_inconsistent_treat_unknown"⟩
  else ⟨.useDurableEvidence, "reload_canonical_state"⟩

structure ApprovalBindingDecision where
  valid : Bool
  reasonCode : String
deriving DecidableEq, Repr

/-- Checks that an approval speaks about exactly this operation, version, intent and policy
decision.  Who may approve is not decided here. -/
def evaluateApprovalBinding (approval : Approval) (operation : Operation) (now : UtcTimestamp) :
    ApprovalBindingDecision :=
  if approval.operationId ≠ operation.operationId then ⟨false, "operation_id_mismatch"⟩
  else if approval.intentDigest ≠ operation.intent.intentDigest then
    ⟨false, "intent_digest_mismatch"⟩
  else if approval.operationVersion ≠ operation.version then
    ⟨false, "operation_version_mismatch"⟩
  else if operation.currentPolicyDecisionId = none then
    ⟨false, "missing_current_policy_decision"⟩
  else if some approval.policyDecisionId ≠ operation.currentPolicyDecisionId then
    ⟨false, "policy_decision_mismatch"⟩
  else if approval.state ≠ .approved then ⟨false, "approval_not_approved"⟩
  else if operation.state ≠ .awaitingApproval then ⟨false, "operation_not_awaiting_approval"⟩
  else if approval.expiresAt.any fun expires => decide (expires.value ≤ now.value) then
    ⟨false, "approval_expired"⟩
  else ⟨true, "bound_to_current_intent"⟩

theorem evaluateApprovalBinding_valid {approval : Approval} {operation : Operation}
    {now : UtcTimestamp} (valid : (evaluateApprovalBinding approval operation now).valid = true) :
    approval.operationId = operation.operationId ∧
      approval.intentDigest = operation.intent.intentDigest ∧
      operation.currentPolicyDecisionId = some approval.policyDecisionId ∧
      approval.state = .approved := by
  unfold evaluateApprovalBinding at valid
  repeat' split at valid
  all_goals simp_all

theorem evaluateApprovalBinding_unexpired {approval : Approval} {operation : Operation}
    {now : UtcTimestamp} (valid : (evaluateApprovalBinding approval operation now).valid = true)
    {expires : UtcTimestamp} (at_ : approval.expiresAt = some expires) :
    now.value < expires.value := by
  unfold evaluateApprovalBinding at valid
  repeat' split at valid
  all_goals simp_all

structure RetrySafetyDecision where
  verdict : RetrySafetyVerdict
  basis : Option RetrySafetyBasis
  reasonCode : String
deriving DecidableEq, Repr

/-- `_INSUFFICIENT`: signals that never justify a retry. -/
def insufficientSignals : List String :=
  ["timeout_only", "worker_died", "no_external_id", "elapsed_time", "logs_show_no_success",
   "model_belief", "retryable_infrastructure_flag"]

/-- Whether a mutating retry is justified by canonical evidence.  The last three arguments are
the capability proofs; callers that omit them pass the defaults `none`, `false`, `false`. -/
def evaluateEffectRetrySafety (executionOutcome verificationOutcome : Option EffectOutcome)
    (idempotencyMode : IdempotencyMode) (insufficientSignal : Option String)
    (providerKeySemantics : Option ProviderKeySemantics) (replayWindowElapsed : Bool)
    (naturalDeclarationTested : Bool) : RetrySafetyDecision :=
  match insufficientSignal with
  | some signal =>
    if signal ∉ insufficientSignals then ⟨.unsafeRetry, none, "unknown_insufficient_signal"⟩
    else ⟨.unsafeRetry, none, signal⟩
  | none =>
    if executionOutcome = some .applied then ⟨.unsafeRetry, none, "already_applied"⟩
    else if verificationOutcome = some .applied then
      ⟨.unsafeRetry, none, "verification_applied"⟩
    else if verificationOutcome = some .notApplied then
      ⟨.safe, some .verifiedNotApplied, "verification_not_applied"⟩
    else if executionOutcome = some .notApplied then
      ⟨.safe, some .executionNotApplied, "execution_not_applied"⟩
    else if ¬(executionOutcome = none ∨ executionOutcome = some .unknown) then
      ⟨.unsafeRetry, none, "unhandled_outcome"⟩
    else
      match idempotencyMode with
      | .none => ⟨.unsafeRetry, none, "unknown_without_idempotency"⟩
      | .natural =>
        if naturalDeclarationTested then
          ⟨.safe, some .naturalIdempotency, "natural_idempotency_tested_declaration"⟩
        else
          ⟨.needsCapabilityProof, some .naturalIdempotency,
            "natural_idempotency_requires_tested_declaration"⟩
      | .providerKey =>
        if providerKeySemantics = none then
          ⟨.needsCapabilityProof, some .providerNativeIdempotency,
            "provider_key_requires_adapter_semantics"⟩
        else if replayWindowElapsed then
          ⟨.unsafeRetry, none, "provider_key_replay_window_elapsed"⟩
        else
          ⟨.safe, some .providerNativeIdempotency, "provider_key_within_replay_window"⟩

end Stateback.Domain
