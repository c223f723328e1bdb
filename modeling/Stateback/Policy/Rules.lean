import Stateback.Domain.Intent
/-!
# Policy rules

`policy/inputs.py`, `evaluation.py` and `rules.py`.  The deployed engine answers with the first rule
that matches, and denies where none does.
-/

namespace Stateback.Policy

open Stateback.Domain

structure PolicyInputs where
  operationId : OpaqueId
  operationVersion : Nat
  intentDigest : String
  requester : PrincipalRef
  effect : EffectRef
  riskLevel : RiskLevel
  mutability : Mutability
  idempotencyMode : IdempotencyMode
  verificationMode : VerificationMode
  compensationKind : CompensationKind
  metadata : List (String × String)
  deploymentEnvironment : String
deriving DecidableEq, Repr

/-! ## Evaluations -/

structure PolicyEvaluation where
  verdict : PolicyVerdict
  reasonCodes : List String
  explanation : Option String
  obligations : PolicyObligations
  policyRevision : String
deriving DecidableEq, Repr

section

variable (lower : String → String)

/-- `PolicyEvaluation.__post_init__`. -/
def PolicyEvaluation.check (evaluation : PolicyEvaluation) : Except ContractValidationError Unit :=
  if evaluation.reasonCodes = [] ∨ "" ∈ evaluation.reasonCodes then
    .error ⟨"empty_string",
      "PolicyEvaluation.reason_codes must be a non-empty tuple of non-empty strings"⟩
  else if evaluation.policyRevision = "" then
    .error ⟨"empty_string", "PolicyEvaluation.policy_revision must be a non-empty string"⟩
  else
    match evaluation.explanation with
    | none => .ok ()
    | some explanation =>
      rejectSecretsInStrMap lower [("explanation", explanation)] "PolicyEvaluation"

/-- The constructor: the value, if it passes its check. -/
def PolicyEvaluation.make (evaluation : PolicyEvaluation) :
    Except ContractValidationError PolicyEvaluation := do
  evaluation.check lower
  pure evaluation

end

/-- `PHASE5_DEFAULT_OBLIGATIONS`. -/
def phase5DefaultObligations : PolicyObligations where
  requireVerification := false
  maxAutomaticExecutionAttempts := some 1
  maxAutomaticRecoveryAttempts := none
  automaticCompensationAllowed := false
  operatorReasonRequired := false
  approvalExpiresAt := none

/-- What an engine answers, or the exception it raises; the caller asks only whether it raised. -/
abbrev PolicyEngine := PolicyInputs → Except ContractValidationError PolicyEvaluation

/-! ## Rules -/

/-- `name and name.strip() == name`. -/
def trimmed (name : String) : Bool := name ≠ "" && strip name == name

/-- An empty filter lets everything pass. -/
structure PolicyRule where
  ruleId : String
  verdict : PolicyVerdict
  obligations : PolicyObligations
  explanation : Option String
  providers : List String
  actions : List String
  versions : List String
  riskLevels : List RiskLevel
  requesterTypes : List PrincipalType
  deploymentEnvironments : List String
  named : trimmed ruleId = true

section

variable {α : Type} [DecidableEq α]

/-- `not allowed or value in allowed`. -/
def passes (allowed : List α) (value : α) : Bool := allowed.isEmpty || decide (value ∈ allowed)

end

def PolicyRule.matches (rule : PolicyRule) (inputs : PolicyInputs) : Bool :=
  passes rule.providers inputs.effect.provider && passes rule.actions inputs.effect.action &&
    passes rule.versions inputs.effect.version && passes rule.riskLevels inputs.riskLevel &&
    passes rule.requesterTypes inputs.requester.type &&
    passes rule.deploymentEnvironments inputs.deploymentEnvironment

/-- A configured engine: its constructor refuses an untrimmed revision and a rule id used twice. -/
structure RulePolicyEngine where
  revision : String
  rules : List PolicyRule
  defaultObligations : PolicyObligations
  revised : trimmed revision = true
  distinct : (rules.map (·.ruleId)).Nodup

namespace RulePolicyEngine

/-- `RulePolicyEngine.__init__`. -/
def init (revision : String) (rules : List PolicyRule) (defaultObligations : PolicyObligations) :
    Except ContractValidationError RulePolicyEngine :=
  if revised : trimmed revision = true then
    if distinct : (rules.map (·.ruleId)).Nodup then
      .ok ⟨revision, rules, defaultObligations, revised, distinct⟩
    else .error ⟨"duplicate_policy_rule", "policy rule IDs must be unique"⟩
  else .error ⟨"invalid_policy_revision", "policy_revision must be non-empty and trimmed"⟩

variable (engine : RulePolicyEngine)

/-- What the engine says where the rule is the first to match. -/
def ruled (rule : PolicyRule) : PolicyEvaluation where
  verdict := rule.verdict
  reasonCodes := ["policy.rule." ++ rule.ruleId]
  explanation := rule.explanation
  obligations := rule.obligations
  policyRevision := engine.revision

/-- What the engine says where no rule matches. -/
def denied : PolicyEvaluation where
  verdict := .deny
  reasonCodes := ["policy.default_deny"]
  explanation := some "No configured policy rule authorized this operation"
  obligations := engine.defaultObligations
  policyRevision := engine.revision

/-- `RulePolicyEngine.evaluate`. -/
def evaluate (lower : String → String) : PolicyEngine := fun inputs =>
  PolicyEvaluation.make lower <|
    match engine.rules.find? fun rule => rule.matches inputs with
    | some rule => engine.ruled rule
    | none => engine.denied

/-- The rule that decides: it matches, and no rule before it does. -/
def Decides (rule : PolicyRule) (inputs : PolicyInputs) : Prop :=
  rule.matches inputs = true ∧ ∃ before after, engine.rules = before ++ rule :: after ∧
    ∀ earlier ∈ before, earlier.matches inputs = false

variable {engine}

theorem decides_iff {rule : PolicyRule} {inputs : PolicyInputs} :
    engine.Decides rule inputs ↔
      (engine.rules.find? fun rule => rule.matches inputs) = some rule := by
  rw [List.find?_eq_some_iff_append]
  simp only [Decides, Bool.not_eq_true']

theorem make_ok {lower : String → String} {evaluation evaluation' : PolicyEvaluation} :
    PolicyEvaluation.make lower evaluation = .ok evaluation' ↔
      evaluation.check lower = .ok () ∧ evaluation' = evaluation := by
  unfold PolicyEvaluation.make
  rw [except_bind_ok]
  constructor
  · rintro ⟨_, checked, same⟩
    exact ⟨checked, (Except.ok.inj same).symm⟩
  · rintro ⟨checked, rfl⟩
    exact ⟨(), checked, rfl⟩

/-- What is not denied was decided by a rule that says so. -/
theorem evaluate_ok {lower : String → String} {inputs : PolicyInputs}
    {evaluation : PolicyEvaluation} (answered : engine.evaluate lower inputs = .ok evaluation) :
    (∃ rule, engine.Decides rule inputs ∧ evaluation = engine.ruled rule) ∨
      (∀ rule ∈ engine.rules, rule.matches inputs = false) ∧ evaluation = engine.denied := by
  obtain ⟨-, made⟩ := make_ok.mp answered
  cases found : engine.rules.find? fun rule => rule.matches inputs with
  | some rule =>
    rw [found] at made
    exact .inl ⟨rule, decides_iff.mpr found, made⟩
  | none =>
    rw [found] at made
    refine .inr ⟨fun rule member => ?_, made⟩
    simpa using List.find?_eq_none.mp found rule member

theorem evaluate_verdict {lower : String → String} {inputs : PolicyInputs}
    {evaluation : PolicyEvaluation} (answered : engine.evaluate lower inputs = .ok evaluation)
    (permitted : evaluation.verdict ≠ .deny) :
    ∃ rule, engine.Decides rule inputs ∧ rule.verdict = evaluation.verdict ∧
      evaluation = engine.ruled rule := by
  obtain ⟨rule, decides, rfl⟩ | ⟨-, rfl⟩ := evaluate_ok answered
  · exact ⟨rule, decides, rfl, rfl⟩
  · exact absurd rfl permitted

end RulePolicyEngine

end Stateback.Policy
