import Stateback.Providers.GitHub.Resources
/-!
# Outcomes of the GitHub adapter

An execution or a compensation sends at most one request, and answers `APPLIED` or `NOT_APPLIED`
only on the strength of the response to it.
-/

namespace Stateback.Providers.GitHub

open Stateback.Domain Process

variable (py : Python)

/-! ## Compensation -/

/-- The response shows the object of the request, closed. -/
inductive ShownClosed (exchange : Exchange) (response : GitHubHttpResponse) : Prop
  | issue {owner repo : String} {number : Int} {doc : Dict}
      (asked : exchange.request.path = issuesApi owner repo number)
      (accepted : response.status = 200) (bears : Bears py response.body doc)
      (shows_ : ShowsIssue py doc owner repo number "closed") : ShownClosed exchange response
  | pull {owner repo headSha : String} {number : Int} {doc : Dict}
      (asked : exchange.request.path = pullsApi owner repo number)
      (accepted : response.status = 200) (bears : Bears py response.body doc)
      (shows_ : ShowsPull py doc owner repo number "closed" headSha) :
      ShownClosed exchange response

/-- How a compensation that returned evidence went. -/
inductive Compensated : CompensationEvidence → List Exchange → Prop
  | unsent {evidence : CompensationEvidence} (outcome : evidence.outcome = .notApplied) :
      Compensated evidence []
  | lost {evidence : CompensationEvidence} {exchange : Exchange}
      (outcome : evidence.outcome = .unknown) : Compensated evidence [exchange]
  | refused {evidence : CompensationEvidence} {exchange : Exchange}
      {response : GitHubHttpResponse} (answered : exchange.answer = .ok response)
      (excludes : response.status ∈ definiteRejections)
      (outcome : evidence.outcome = .notApplied) : Compensated evidence [exchange]
  | applied {evidence : CompensationEvidence} {exchange : Exchange}
      {response : GitHubHttpResponse} (answered : exchange.answer = .ok response)
      (proves : ShownClosed py exchange response) (outcome : evidence.outcome = .applied) :
      Compensated evidence [exchange]

variable {py}

theorem learns_compensationError {R : CompensationEvidence → List Exchange → Prop}
    {sent : List Exchange} {outcome : EffectOutcome} {kind : ErrorKind} {code status : String}
    {retryable : Bool} {http retryAfter : Option Int} {exceptionType : Option String}
    (rest : ∀ evidence, evidence.outcome = outcome → R evidence sent) :
    Learns exchanged (returning R)
      (compensationError py outcome kind code status retryable http retryAfter exceptionType)
      sent := by
  apply learns_evidence
  intro evidence _
  rw [learns_lift]
  intro error _
  rw [learns_pure]
  exact rest _ rfl

theorem closeObject_learns {path mitigation : String}
    {read : Option Dict → Except AdapterRaised (Option Closed)}
    (reads : ∀ exchange response parsed closed, exchange.request.path = path →
      response.status = 200 → parseObject py response.body = .ok parsed →
      read parsed = .ok (some closed) → closed.state = "closed" →
      ShownClosed py exchange response) :
    Learns exchanged (returning (Compensated py)) (closeObject py path mitigation read) [] := by
  simp only [closeObject, learns_send]
  intro answer
  cases answer with
  | error typeName => exact learns_compensationError fun _ outcome => .lost outcome
  | ok response =>
    dsimp only
    split
    · apply learns_compensationError
      intro evidence outcome
      split at outcome
      case isTrue settled =>
        exact .refused rfl ((classifyHttp_known py response).mp settled) outcome
      case isFalse => exact .lost outcome
    · rename_i accepted
      simp only [learns_lift]
      intro parsed isParsed closed isRead
      split
      · exact learns_compensationError fun _ outcome => .lost outcome
      · rename_i object kept
        obtain ⟨rfl, state⟩ := Option.filter_eq_some_iff.mp kept
        apply learns_evidence
        intro evidence _
        rw [learns_pure]
        exact .applied rfl (reads _ _ _ _ rfl (not_not.mp accepted) isParsed isRead
          (of_decide_eq_true state)) rfl

theorem closeIssue_learns (resource : IssueResource) :
    Learns exchanged (returning (Compensated py)) (closeIssue py resource) [] := by
  apply closeObject_learns
  intro exchange response parsed closed asked accepted isParsed isRead state
  unfold closedIssue at isRead
  cases identified : issueIdentity py parsed resource.owner resource.repo
      (some resource.number) with
  | error e => rw [identified] at isRead; cases isRead
  | ok issue =>
    rw [identified] at isRead
    cases issue with
    | none => cases isRead
    | some issue =>
      cases isRead
      obtain ⟨doc, rfl, shows_, expected, _⟩ := issueIdentity_some py identified
      have closed : issue.state = "closed" := state
      rw [numberExpected_some.mp expected, closed] at shows_
      exact .issue asked accepted (parseObject_some isParsed) shows_

theorem closePullRequest_learns (resource : IssueResource) :
    Learns exchanged (returning (Compensated py)) (closePullRequest py resource) [] := by
  apply closeObject_learns
  intro exchange response parsed closed asked accepted isParsed isRead state
  unfold closedPull at isRead
  cases identified : pullIdentity py parsed resource.owner resource.repo
      (some resource.number) with
  | error e => rw [identified] at isRead; cases isRead
  | ok pull =>
    rw [identified] at isRead
    cases pull with
    | none => cases isRead
    | some pull =>
      cases isRead
      obtain ⟨doc, rfl, shows_, expected, _⟩ := pullIdentity_some py identified
      have closed : pull.state = "closed" := state
      rw [numberExpected_some.mp expected, closed] at shows_
      exact .pull asked accepted (parseObject_some isParsed) shows_

/-- The specification of `compensate`. -/
theorem compensates (adapter : GitHubAdapter) (request : CompensationRequest) :
    Learns exchanged (returning (Compensated py)) (adapter.compensate py request) [] := by
  unfold GitHubAdapter.compensate
  split
  · exact learns_compensationError fun _ outcome => .unsent outcome
  split
  · exact closePullRequest_learns _
  split
  · exact closeIssue_learns _
  · exact learns_compensationError fun _ outcome => .unsent outcome

/-! ## Honest outcomes -/

def mutating (sent : List Exchange) : List Exchange :=
  sent.filter fun exchange => decide (exchange.request.method ≠ .get)

/-- The one request sent was answered by a response of which `P` holds. -/
def Answered (P : Exchange → GitHubHttpResponse → Prop) (sent : List Exchange) : Prop :=
  ∃ exchange response, sent = [exchange] ∧ exchange.answer = .ok response ∧ P exchange response

structure Honest (proves excludes : Exchange → GitHubHttpResponse → Prop)
    (outcome : EffectOutcome) (sent : List Exchange) : Prop where
  once : (mutating sent).length ≤ 1
  applied : outcome = .applied → Answered proves sent
  notApplied : outcome = .notApplied → sent = [] ∨ Answered excludes sent
  otherwise : ¬ Answered proves sent → ¬ (sent = [] ∨ Answered excludes sent) →
    outcome = .unknown

variable {proves excludes : Exchange → GitHubHttpResponse → Prop} {outcome : EffectOutcome}
  {sent : List Exchange}

theorem Honest.of_conclusive (once : sent.length ≤ 1)
    (applied : outcome = .applied → Answered proves sent)
    (notApplied : outcome = .notApplied → sent = [] ∨ Answered excludes sent) :
    Honest proves excludes outcome sent where
  once := (List.length_filter_le _ _).trans once
  applied := applied
  notApplied := notApplied
  otherwise unproven standing := by
    cases outcome with
    | applied => exact absurd (applied rfl) unproven
    | notApplied => exact absurd (notApplied rfl) standing
    | unknown => rfl

theorem Executed.honest {request : ProviderExecutionRequest} {evidence : ExecutionEvidence}
    (executed : Executed py request evidence sent) :
    Honest
      (fun _ response => ∃ data, request.arguments = .object data ∧
        Shown py data response request.effect evidence.externalResourceIds)
      (fun _ response => Refused py request.effect response) evidence.outcome sent := by
  cases executed with
  | unsent outcome => apply Honest.of_conclusive <;> simp [outcome]
  | lost known outcome => apply Honest.of_conclusive <;> simp [outcome]
  | refused answered known excludes outcome =>
    apply Honest.of_conclusive
    · simp
    · simp [outcome]
    · exact fun _ => .inr ⟨_, _, rfl, answered, excludes⟩
  | applied answered arguments proves outcome =>
    apply Honest.of_conclusive
    · simp
    · exact fun _ => ⟨_, _, rfl, answered, _, arguments, proves⟩
    · simp [outcome]

theorem Compensated.honest {evidence : CompensationEvidence}
    (compensated : Compensated py evidence sent) :
    Honest (ShownClosed py) (fun _ response => response.status ∈ definiteRejections)
      evidence.outcome sent := by
  cases compensated with
  | unsent outcome => apply Honest.of_conclusive <;> simp [outcome]
  | lost outcome => apply Honest.of_conclusive <;> simp [outcome]
  | refused answered excludes outcome =>
    apply Honest.of_conclusive
    · simp
    · simp [outcome]
    · exact fun _ => .inr ⟨_, _, rfl, answered, excludes⟩
  | applied answered proves outcome =>
    apply Honest.of_conclusive
    · simp
    · exact fun _ => ⟨_, _, rfl, answered, proves⟩
    · simp [outcome]

/-- Whatever is asked for and however the transport behaves, evidence that is returned tells no
more than the one response shows. -/
theorem outcomes_honest (py : Python) (adapter : GitHubAdapter)
    (context : ProviderExecutionContext) (answers : Nat → (call : Call) → Reply call) :
    (∀ request evidence,
      ((adapter.execute py context request).run answers).outcome = .ok evidence →
        Honest
          (fun _ response => ∃ data, request.arguments = .object data ∧
            Shown py data response request.effect evidence.externalResourceIds)
          (fun _ response => Refused py request.effect response) evidence.outcome
          ((adapter.execute py context request).run answers).exchanges) ∧
      ∀ request evidence,
        ((adapter.compensate py request).run answers).outcome = .ok evidence →
          Honest (ShownClosed py) (fun _ response => response.status ∈ definiteRejections)
            evidence.outcome ((adapter.compensate py request).run answers).exchanges := by
  constructor
  · intro request evidence returned
    exact (Calling.of_returned returned (executes adapter context request)).honest
  · intro request evidence returned
    exact (Calling.of_returned returned (compensates adapter request)).honest

theorem outcomes_honest_pull :
    ∃ evidence,
      ((GitHubAdapter.execute (samplePython pullBody) ⟨true⟩ sampleContext
        (samplePullRequest "fix")).run (answering (.ok ⟨201, [], pullText⟩))).outcome =
          .ok evidence ∧
      evidence.outcome = .applied ∧
      Honest
        (fun _ response => ∃ data, (samplePullRequest "fix").arguments = .object data ∧
          Shown (samplePython pullBody) data response (samplePullRequest "fix").effect
            evidence.externalResourceIds)
        (fun _ response =>
          Refused (samplePython pullBody) (samplePullRequest "fix").effect response)
        evidence.outcome
        ((GitHubAdapter.execute (samplePython pullBody) ⟨true⟩ sampleContext
          (samplePullRequest "fix")).run (answering (.ok ⟨201, [], pullText⟩))).exchanges := by
  obtain ⟨evidence, provider, returned, -, outcome, -⟩ :=
    execute_pull_applied
  exact ⟨evidence, returned, outcome, (outcomes_honest _ _ _ _).1 _ _ returned⟩

end Stateback.Providers.GitHub
