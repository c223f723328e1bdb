import Stateback.Compensation.Reconcile
import Stateback.Invariants.Compensations
import Stateback.Invariants.Verdicts
/-!
# What the two reconcilers decide

`recovery/reconcile.py` reads the latest attempt alone; `compensation/reconcile.py` is written a
second time for compensation attempts and decides the same.
-/

namespace Stateback.Recovery

open Domain Persistence Stateback.Runtime Compensation

/-! ## All the evidence -/

/-- The provider answered an attempt with APPLIED. -/
def ProvedApplied (attempt : ExecutionAttempt) : Prop :=
  attempt.state = .completed ∧ attempt.outcome = some .applied

/-- The attempts that execution numbers, none left out. -/
def Numbered (attempts : List ExecutionAttempt) : Prop :=
  attempts.map (·.attemptNumber) = List.range' 1 attempts.length

/-- The action gives the effect up, or executes it once more. -/
def givesUpOrRetries : List ReconciliationAction := [.markFailed, .makeReadyForSafeRetry]

/-- What a decision owes to the evidence it is given. -/
structure RespectsEvidence (input : ReconciliationInput) (action : ReconciliationAction) :
    Prop where
  applied : action ∈ givesUpOrRetries → ∀ attempt ∈ input.attempts, ¬ProvedApplied attempt
  succeeded : action = .markSucceeded → input.verificationResult.outcome = .applied ∧
    ∀ latest, input.attempts.getLast? = some latest →
      ¬(latest.state = .completed ∧ latest.outcome = some .notApplied)
  notApplied : action ∈ givesUpOrRetries → input.verificationResult.outcome = .notApplied
  capped : action = .makeReadyForSafeRetry → Numbered input.attempts →
    (input.attempts.length : Int) < maxAutomaticAttempts input.policyObligations

/-- When nothing was applied, an attempt that proves otherwise is the latest. -/
def AppliedIsLatest (input : ReconciliationInput) : Prop :=
  input.verificationResult.outcome = .notApplied →
    (∃ attempt ∈ input.attempts, ProvedApplied attempt) →
      ∃ latest, input.attempts.getLast? = some latest ∧ ProvedApplied latest

theorem attemptOutcome_applied {attempt : ExecutionAttempt} :
    attemptOutcome attempt = some .applied ↔ ProvedApplied attempt := by
  unfold attemptOutcome ProvedApplied
  cases state : attempt.state <;> simp

theorem attemptOutcome_notApplied {attempt : ExecutionAttempt} :
    attemptOutcome attempt = some .notApplied ↔
      attempt.state = .completed ∧ attempt.outcome = some .notApplied := by
  unfold attemptOutcome
  cases state : attempt.state <;> simp

/-- The latest of numbered attempts carries their number. -/
theorem Numbered.latest {attempts : List ExecutionAttempt} (numbered : Numbered attempts) :
    (attempts.getLast?.map fun latest => (latest.attemptNumber : Int)).getD 0 =
      attempts.length := by
  have last : attempts.getLast?.map (·.attemptNumber) =
      (List.range' 1 attempts.length).getLast? := by rw [← List.getLast?_map, numbered]
  rw [List.getLast?_range'] at last
  cases named : attempts.getLast? with
  | none => simp [List.getLast?_eq_none_iff.mp named]
  | some latest =>
    have filled : attempts.length ≠ 0 := by
      intro empty
      simp [List.length_eq_zero_iff.mp empty] at named
    simp_all

section Decisions

variable {input : ReconciliationInput} {count : Nat}

theorem reconcile_applied (outcome : input.verificationResult.outcome = .applied) :
    (reconcile input count).action =
      if input.attempts.getLast?.bind attemptOutcome = some .notApplied then
        .requireManualIntervention else .markSucceeded := by
  simp only [reconcile, outcome]
  split <;> rfl

theorem reconcile_notApplied (outcome : input.verificationResult.outcome = .notApplied) :
    (reconcile input count).action =
      if input.attempts.getLast?.bind attemptOutcome = some .applied then
        .requireManualIntervention
      else if (input.attempts.getLast?.map fun latest => (latest.attemptNumber : Int)).getD 0 <
          maxAutomaticAttempts input.policyObligations then .makeReadyForSafeRetry
      else .markFailed := by
  have safe : ∀ mode semantics natural,
      (evaluateEffectRetrySafety none (some .notApplied) mode none semantics false natural).verdict
        = .safe := fun _ _ _ => rfl
  simp only [reconcile, outcome, safe, true_and]
  split
  · rfl
  · split <;> rfl

theorem reconcile_unknown (count : Nat)
    (outcome : input.verificationResult.outcome = .unknown) :
    (reconcile input count).action ∈
      [ReconciliationAction.remainUnknown, .requireManualIntervention] := by
  simp only [reconcile, outcome]
  split
  · simp
  · split
    · simp
    · split <;> simp

/-- The effect is given up or retried by a NOT_APPLIED result that the latest attempt does not
contradict, and by nothing else. -/
theorem reconcile_givesUpOrRetries (count : Nat) :
    (reconcile input count).action ∈ givesUpOrRetries ↔
      input.verificationResult.outcome = .notApplied ∧
        input.attempts.getLast?.bind attemptOutcome ≠ some .applied := by
  cases outcome : input.verificationResult.outcome with
  | applied =>
    rw [reconcile_applied outcome]
    split <;> simp [givesUpOrRetries]
  | unknown =>
    have rests := reconcile_unknown count outcome
    simp only [List.mem_cons, List.not_mem_nil, or_false] at rests
    obtain rests | rests := rests <;> simp [rests, givesUpOrRetries]
  | notApplied =>
    rw [reconcile_notApplied outcome]
    split
    · simp_all [givesUpOrRetries]
    · split <;> simp_all [givesUpOrRetries]

end Decisions

/-- The decision respects the evidence of every attempt exactly when the evidence it would
overrule is that of the latest. -/
theorem reconcile_respects_iff (input : ReconciliationInput) (count : Nat) :
    RespectsEvidence input (reconcile input count).action ↔ AppliedIsLatest input := by
  have latestApplied : input.attempts.getLast?.bind attemptOutcome = some .applied ↔
      ∃ latest, input.attempts.getLast? = some latest ∧ ProvedApplied latest := by
    simp only [Option.bind_eq_some_iff, attemptOutcome_applied]
  constructor
  · intro respects notApplied proved
    by_contra missed
    have overruled := (reconcile_givesUpOrRetries count).mpr
      ⟨notApplied, fun applied => missed (latestApplied.mp applied)⟩
    obtain ⟨attempt, member, applied⟩ := proved
    exact respects.applied overruled attempt member applied
  · intro isLatest
    refine ⟨?_, ?_, ?_, ?_⟩
    · intro overruled attempt member applied
      have settled := (reconcile_givesUpOrRetries count).mp overruled
      exact settled.2 (latestApplied.mpr (isLatest settled.1 ⟨attempt, member, applied⟩))
    · intro succeeded
      cases outcome : input.verificationResult.outcome with
      | applied =>
        rw [reconcile_applied outcome] at succeeded
        refine ⟨rfl, fun latest named rejected => ?_⟩
        rw [named, Option.bind_some, attemptOutcome_notApplied.mpr rejected] at succeeded
        simp at succeeded
      | notApplied =>
        rw [reconcile_notApplied outcome] at succeeded
        split at succeeded
        · cases succeeded
        · split at succeeded <;> cases succeeded
      | unknown =>
        have rests := reconcile_unknown count outcome
        rw [succeeded] at rests
        simp at rests
    · intro overruled
      exact ((reconcile_givesUpOrRetries count).mp overruled).1
    · intro retried numbered
      have outcome : input.verificationResult.outcome = .notApplied := by
        refine ((reconcile_givesUpOrRetries count).mp ?_).1
        rw [retried]
        simp [givesUpOrRetries]
      rw [reconcile_notApplied outcome, numbered.latest] at retried
      split at retried
      · cases retried
      · split at retried
        · assumption
        · cases retried

open Invariants

/-- Attempt 1 was answered APPLIED after attempt 2 had started. -/
def lateAppliedInput : ReconciliationInput where
  operation := unknownOperation
  attempts :=
    [sampleApplied,
      { sampleAttempt with
        attemptId := idOf "attempt-2"
        attemptNumber := 2 }]
  verificationResult := sampleResult "verification-1" .notApplied
  providerDescriptor := sampleDescriptor
  policyObligations := samplePatientDecision.obligations

theorem late_applied_overruled :
    Numbered lateAppliedInput.attempts ∧
      (∃ attempt ∈ lateAppliedInput.attempts, ProvedApplied attempt) ∧
      (reconcile lateAppliedInput 1).action = .makeReadyForSafeRetry ∧
      (reconcile { lateAppliedInput with policyObligations := ⟨false, some 2, none, false, false,
        none⟩ } 1).action = .markFailed ∧
      ¬RespectsEvidence lateAppliedInput (reconcile lateAppliedInput 1).action := by
  have applied : sampleApplied ∈ lateAppliedInput.attempts ∧ ProvedApplied sampleApplied :=
    ⟨List.mem_cons_self, rfl, rfl⟩
  have retried : (reconcile lateAppliedInput 1).action = .makeReadyForSafeRetry := by
    decide +kernel
  refine ⟨by unfold Numbered; decide +kernel, ⟨_, applied⟩, retried, by decide +kernel, ?_⟩
  intro respects
  refine respects.applied ?_ _ applied.1 applied.2
  rw [retried]
  decide

/-! ## Agreement -/

/-- The latest attempts have one state, outcome and number, or there is none on either side. -/
def SameLatest (execution : Option ExecutionAttempt)
    (compensation : Option CompensationAttempt) : Prop :=
  execution.map (fun attempt => (attempt.state, attempt.outcome, attempt.attemptNumber)) =
    compensation.map fun attempt => (attempt.state, attempt.outcome, attempt.attemptNumber)

theorem SameLatest.read {execution : Option ExecutionAttempt}
    {compensation : Option CompensationAttempt} (same : SameLatest execution compensation) :
    execution.bind attemptOutcome = compensation.bind compensationAttemptOutcome ∧
      (execution.map fun attempt => (attempt.attemptNumber : Int)) =
        compensation.map fun attempt => (attempt.attemptNumber : Int) := by
  cases execution with
  | none =>
    cases compensation with
    | none => exact ⟨rfl, rfl⟩
    | some attempt => cases same
  | some executed =>
    cases compensation with
    | none => cases same
    | some compensated =>
      simp only [SameLatest, Option.map_some, Option.some.injEq, Prod.mk.injEq] at same
      obtain ⟨state, outcome, number⟩ := same
      cases lived : compensated.state <;>
        simp [attemptOutcome, compensationAttemptOutcome, state, outcome, number, lived]

/-- Compensation decides as execution does about attempts that read the same, and an UNKNOWN
result settles neither. -/
theorem reconcilers_agree (operation : Operation) (attempts : List ExecutionAttempt)
    (latest : Option CompensationAttempt) (verificationResult : VerificationResult)
    (descriptor : EffectDescriptor) (obligations : PolicyObligations) (count : Nat) :
    (SameLatest attempts.getLast? latest →
      reconcile ⟨operation, attempts, verificationResult, descriptor, obligations⟩ count =
        reconcileCompensation verificationResult latest descriptor obligations count) ∧
    (verificationResult.outcome = .unknown →
      (reconcile ⟨operation, attempts, verificationResult, descriptor, obligations⟩ count).action
          ∉ [.markSucceeded, .markFailed, .makeReadyForSafeRetry] ∧
        (reconcileCompensation verificationResult latest descriptor obligations count).action
          ∉ [.markSucceeded, .markFailed, .makeReadyForSafeRetry]) := by
  have rests : ∀ {action : ReconciliationAction},
      action ∈ [ReconciliationAction.remainUnknown, .requireManualIntervention] →
      action ∉ [ReconciliationAction.markSucceeded, .markFailed, .makeReadyForSafeRetry] := by
    decide
  refine ⟨?_, fun unknown => ⟨rests (reconcile_unknown count unknown), rests ?_⟩⟩
  · intro same
    cases outcome : verificationResult.outcome <;>
      simp only [reconcile, reconcileCompensation, outcome, same.read.1, same.read.2]
  · simp only [reconcileCompensation, unknown]
    split
    · simp
    · split
      · simp
      · split <;> simp

theorem reconcilers_agree_sample :
    reconcile lateAppliedInput 1 =
        reconcileCompensation (sampleResult "verification-1" .notApplied)
          (some { sampleCompensationAttempt "compensation" "attempt" with attemptNumber := 2 })
          sampleDescriptor samplePatientDecision.obligations 1 ∧
      (reconcile { lateAppliedInput with
        verificationResult := sampleResult "verification-1" .unknown } 1).action ∉
          [.markSucceeded, .markFailed, .makeReadyForSafeRetry] := by
  refine ⟨(reconcilers_agree _ _ _ _ _ _ _).1 (by rfl), ?_⟩
  exact ((reconcilers_agree _ _ none _ _ _ _).2 rfl).1

end Stateback.Recovery
