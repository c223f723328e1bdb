import Stateback.Providers.GitHub.Adapter
/-!
# What an execution returns

`Shown` says what a response contains that proves an effect, `Refused` what one contains that
excludes it.  `executes` is the specification of `execute`: evidence is returned without any
request, or after the one request whose answer it reports.
-/

namespace Stateback.Providers.GitHub

open Stateback.Domain Process

variable (py : Python)

/-! ## What a response proves -/

/-- The repository the arguments name. -/
def Names (data : Arguments) (owner repo : String) : Prop :=
  data.get "owner" = .str owner ∧ data.get "repo" = .str repo

theorem Names.unique {data : Arguments} {owner repo owner' repo' : String}
    (named : Names data owner repo) (again : Names data owner' repo') :
    owner' = owner ∧ repo' = repo := by
  have sameOwner := again.1.symm.trans named.1
  have sameRepo := again.2.symm.trans named.2
  simpa using And.intro sameOwner sameRepo

/-- The object in a body. -/
def Bears (body : ByteArray) (doc : Dict) : Prop := py.loads body = .value (.dict doc)

/-- The response proves the effect asked for; the list holds the resource ids it gives. -/
inductive Shown (data : Arguments) (response : GitHubHttpResponse) :
    EffectRef → List String → Prop
  | issue {owner repo : String} {doc : Dict} {number : Int} {state : String}
      (named : Names data owner repo) (created : response.status = 201)
      (bears : Bears py response.body doc) (shows_ : ShowsIssue py doc owner repo number state) :
      Shown data response effectCreateIssue [resourceName owner repo number]
  | comment {owner repo : String} {doc : Dict} {issueNumber commentId : Int}
      (named : Names data owner repo) (numbered : data.get "issue_number" = .int issueNumber)
      (created : response.status = 201) (bears : Bears py response.body doc)
      (shows_ : ShowsComment py doc owner repo issueNumber commentId) :
      Shown data response effectCreateIssueComment
        [issueTarget owner repo issueNumber,
          "github:comment:" ++ resourceName owner repo issueNumber ++ ":" ++ toString commentId]
  | label {owner repo label : String} {issueNumber : Int} {items : List Plain} {docs : List Dict}
      {doc : Dict} (named : Names data owner repo)
      (numbered : data.get "issue_number" = .int issueNumber)
      (labelled : data.get "label" = .str label) (accepted : response.status = 200)
      (listed : py.loads response.body = .value (.list items))
      (objects : items.mapM Plain.dict? = some docs) (among : doc ∈ docs)
      (present : doc.get "name" = .str label) :
      Shown data response effectAddLabel
        [issueTarget owner repo issueNumber, "github:label:" ++ label]
  | pull {owner repo head base : String} {doc : Dict} {number : Int} {state headSha : String}
      (named : Names data owner repo) (from_ : data.get "head" = .str head)
      (into : data.get "base" = .str base) (created : response.status = 201)
      (bears : Bears py response.body doc)
      (shows_ : ShowsPull py doc owner repo number state headSha)
      (intended : ShowsIntent py doc owner repo head base) :
      Shown data response effectCreatePullRequest
        (GitHubAdapter.pullTargets owner repo head base ++
          [pullTarget owner repo number, "github:head-sha:" ++ headSha])
  | merge {owner repo headSha mergeSha : String} {doc : Dict} {number : Int}
      (named : Names data owner repo) (numbered : data.get "pull_number" = .int number)
      (expected : data.get "head_sha" = .str headSha) (accepted : response.status = 200)
      (bears : Bears py response.body doc) (merged : doc.get "merged" = .bool true)
      (commit : doc.get "sha" = .str mergeSha) (hex : isGitSha mergeSha = true) :
      Shown data response effectMergePullRequest
        [pullTarget owner repo number, "github:head-sha:" ++ py.lower headSha]

/-- The response excludes the effect. -/
def Refused (effect : EffectRef) (response : GitHubHttpResponse) : Prop :=
  response.status ∈ definiteRejections ∨
    effect = effectMergePullRequest ∧
      (response.status ∈ [405, 409] ∨
        response.status = 200 ∧
          ∃ doc, Bears py response.body doc ∧ doc.get "merged" = .bool false)

/-! ## What an execution did -/

/-- The evidence and what it was stored from name the same resources. -/
def Carries (evidence : ExecutionEvidence) (ids : List String) : Prop :=
  evidence.externalResourceIds = ids ∧
    ∀ provider ∈ evidence.evidence, provider.externalResourceIds = ids

/-- How an execution that returned evidence went. -/
inductive Executed (request : ProviderExecutionRequest) :
    ExecutionEvidence → List Exchange → Prop
  | unsent {evidence : ExecutionEvidence} (outcome : evidence.outcome = .notApplied)
      (carries : Carries evidence []) : Executed request evidence []
  | lost {evidence : ExecutionEvidence} {exchange : Exchange} {targets : List String}
      (known : GitHubAdapter.verificationResourceIds py request = .ok targets)
      (outcome : evidence.outcome = .unknown) (carries : Carries evidence targets) :
      Executed request evidence [exchange]
  | refused {evidence : ExecutionEvidence} {exchange : Exchange} {targets : List String}
      {response : GitHubHttpResponse} (answered : exchange.answer = .ok response)
      (known : GitHubAdapter.verificationResourceIds py request = .ok targets)
      (excludes : Refused py request.effect response)
      (outcome : evidence.outcome = .notApplied) (carries : Carries evidence targets) :
      Executed request evidence [exchange]
  | applied {evidence : ExecutionEvidence} {exchange : Exchange} {data : Arguments}
      {response : GitHubHttpResponse} (answered : exchange.answer = .ok response)
      (arguments : request.arguments = .object data)
      (proves : Shown py data response request.effect evidence.externalResourceIds)
      (outcome : evidence.outcome = .applied)
      (carries : Carries evidence evidence.externalResourceIds) :
      Executed request evidence [exchange]

/-! ## Rules for the parts -/

variable {py} {α β : Type} {R : α → List Exchange → Prop} {sent : List Exchange}

theorem learns_now {Q : Except AdapterRaised α → List Exchange → Prop}
    {f : UtcTimestamp → Calling α} :
    Learns exchanged Q (Calling.now >>= f) sent ↔ ∀ time, Learns exchanged Q (f time) sent :=
  learns_question_bind

theorem learns_send {Q : Except AdapterRaised α → List Exchange → Prop}
    {request : GitHubHttpRequest} {f : Except String GitHubHttpResponse → Calling α} :
    Learns exchanged Q (Calling.send request >>= f) sent ↔
      ∀ answer, Learns exchanged Q (f answer) (sent ++ [⟨request, answer⟩]) :=
  learns_question_bind

theorem learns_lift {x : Except AdapterRaised β} {f : β → Calling α} :
    Learns exchanged (returning R) (Calling.lift x >>= f) sent ↔
      ∀ b, x = .ok b → Learns exchanged (returning R) (f b) sent := by
  cases x with
  | error e =>
    have raised : Calling.lift (.error e) >>= f = Prog.raise e := rfl
    simp [raised]
  | ok b =>
    have passed : Calling.lift (.ok b) >>= f = f b := rfl
    simp [passed]

theorem learns_evidence {source : EvidenceSource} {status : String}
    {requestId operationId : Option String} {ids : List String} {fields : JsonValue}
    {reference : Option String} {f : ProviderEvidence → Calling α}
    (rest : ∀ evidence, evidence.externalResourceIds = ids →
      Learns exchanged (returning R) (f evidence) sent) :
    Learns exchanged (returning R)
      (providerEvidence py source status requestId operationId ids fields reference >>= f)
      sent := by
  rw [providerEvidence, Prog.bind_assoc, learns_now]
  intro observedAt
  by_cases free : secretFree py.lower fields = true
  · rw [if_pos free, Prog.pure_bind]
    exact rest _ rfl
  · rw [if_neg free, Prog.raise_bind, learns_raise]
    trivial

theorem learns_failure {R : ExecutionEvidence → List Exchange → Prop} {outcome : EffectOutcome}
    {status : String} {requestId reference : Option String} {ids : List String}
    {fields : JsonValue} {error : Except AdapterRaised NormalizedError}
    (rest : ∀ evidence, evidence.outcome = outcome → Carries evidence ids → R evidence sent) :
    Learns exchanged (returning R)
      (executionFailure py outcome status requestId ids fields reference error) sent := by
  apply learns_evidence
  intro evidence ids
  rw [learns_lift]
  intro error _
  rw [learns_pure]
  exact rest _ rfl ⟨rfl, by rintro _ ⟨⟩; exact ids⟩

theorem learns_applied {R : ExecutionEvidence → List Exchange → Prop} {status : String}
    {requestId operationId : Option String} {ids : List String} {fields : JsonValue}
    {reference : String}
    (rest : ∀ evidence, evidence.outcome = .applied → evidence.externalResourceIds = ids →
      Carries evidence ids → R evidence sent) :
    Learns exchanged (returning R)
      (executionApplied py status requestId operationId ids fields reference) sent := by
  apply learns_evidence
  intro evidence ids
  rw [learns_pure]
  exact rest _ rfl rfl ⟨rfl, by rintro _ ⟨⟩; exact ids⟩

/-! ## Arguments read -/

theorem requiredStr_ok {data : Arguments} {field value : String} :
    requiredStr data field = .ok value ↔ data.get field = .str value := by
  unfold requiredStr
  cases data.get field <;> simp

theorem requiredInt_ok {data : Arguments} {field : String} {value : Int} :
    requiredInt data field = .ok value ↔ data.get field = .int value := by
  unfold requiredInt
  cases data.get field <;> simp

theorem verificationResourceIds_of {request : ProviderExecutionRequest} {data : Arguments}
    {owner repo : String} (supported : request.effect ∈ githubEffects)
    (arguments : request.arguments = .object data) (named : Names data owner repo) :
    GitHubAdapter.verificationResourceIds py request =
      (if request.effect = effectCreateIssue then
        pure []
      else if request.effect = effectCreateIssueComment then do
        let number ← requiredInt data "issue_number"
        pure [issueTarget owner repo number]
      else if request.effect = effectAddLabel then do
        let number ← requiredInt data "issue_number"
        let label ← requiredStr data "label"
        pure [issueTarget owner repo number, "github:label:" ++ label]
      else if request.effect = effectCreatePullRequest then do
        let head ← requiredStr data "head"
        let base ← requiredStr data "base"
        pure (GitHubAdapter.pullTargets owner repo head base)
      else do
        let number ← requiredInt data "pull_number"
        let headSha ← requiredStr data "head_sha"
        pure [pullTarget owner repo number, "github:head-sha:" ++ py.lower headSha]) := by
  have ownerRead := requiredStr_ok.mpr named.1
  have repoRead := requiredStr_ok.mpr named.2
  simp [GitHubAdapter.verificationResourceIds, supported, arguments, argumentMap, ownerRead,
    repoRead, bind, Except.bind, pure, Except.pure]

theorem parseObject_some {body : ByteArray} {doc : Dict}
    (parsed : parseObject py body = .ok (some doc)) : Bears py body doc := by
  unfold parseObject loadsOr at parsed
  unfold Bears
  cases loaded : py.loads body with
  | invalid => simp [loaded, Except.map] at parsed
  | raised typeName => simp [loaded, Except.map] at parsed
  | value plain =>
    cases plain <;> simp_all [Except.map, Plain.dict?]

theorem parseArray_some {body : ByteArray} {docs : List Dict}
    (parsed : parseArray py body = .ok (some docs)) :
    ∃ items, py.loads body = .value (.list items) ∧ items.mapM Plain.dict? = some docs := by
  unfold parseArray loadsOr at parsed
  cases loaded : py.loads body with
  | invalid => simp [loaded, Except.map] at parsed
  | raised typeName => simp [loaded, Except.map] at parsed
  | value plain =>
    cases plain <;> simp_all [Except.map, Plain.dicts?]

/-! ## The answer to a request -/

section Answered

variable {request : ProviderExecutionRequest} {exchange : Exchange} {targets : List String}
  {response : GitHubHttpResponse}
  (known : GitHubAdapter.verificationResourceIds py request = .ok targets)

include known

theorem learns_unknownTransport {typeName : String} :
    Learns exchanged (returning (Executed py request)) (unknownTransport py typeName targets)
      [exchange] :=
  learns_failure fun _ outcome carries => .lost known outcome carries

theorem learns_unknownMalformed :
    Learns exchanged (returning (Executed py request)) (unknownMalformed py response targets)
      [exchange] :=
  learns_failure fun _ outcome carries => .lost known outcome carries

theorem learns_unknownInconsistent {code : String} :
    Learns exchanged (returning (Executed py request))
      (unknownInconsistent py response code targets) [exchange] :=
  learns_failure fun _ outcome carries => .lost known outcome carries

theorem learns_executionHttpError (answered : exchange.answer = .ok response) :
    Learns exchanged (returning (Executed py request)) (executionHttpError py response targets)
      [exchange] := by
  apply learns_failure
  intro evidence outcome carries
  split at outcome
  case isTrue settled =>
    exact .refused answered known (.inl ((classifyHttp_known py response).mp settled)) outcome
      carries
  case isFalse => exact .lost known outcome carries

theorem learns_notMerged {code headSha reference : String}
    (answered : exchange.answer = .ok response) (excludes : Refused py request.effect response) :
    Learns exchanged (returning (Executed py request))
      (notMerged py response code headSha reference targets) [exchange] :=
  learns_failure fun _ outcome carries => .refused answered known excludes outcome carries

end Answered

theorem learns_proved {request : ProviderExecutionRequest} {exchange : Exchange}
    {response : GitHubHttpResponse} {data : Arguments} {ids : List String}
    {status reference : String} {requestId operationId : Option String} {fields : JsonValue}
    (answered : exchange.answer = .ok response) (arguments : request.arguments = .object data)
    (proves : Shown py data response request.effect ids) :
    Learns exchanged (returning (Executed py request))
      (executionApplied py status requestId operationId ids fields reference) [exchange] := by
  apply learns_applied
  intro evidence outcome same carries
  subst same
  exact .applied answered arguments proves outcome carries

/-! ## One effect at a time -/

variable {context : ProviderExecutionContext} {request : ProviderExecutionRequest}
  {data : Arguments} {timeout : Int}

theorem executeCreateIssue_learns (effect : request.effect = effectCreateIssue)
    (arguments : request.arguments = .object data) :
    Learns exchanged (returning (Executed py request))
      (executeCreateIssue py context request data timeout) [] := by
  simp only [executeCreateIssue, learns_lift, learns_send, List.nil_append, requiredStr_ok]
  intro owner ownerRead repo repoRead targets known payload _ answer
  cases answer with
  | error typeName => exact learns_unknownTransport known
  | ok response =>
    dsimp only
    split
    · exact learns_executionHttpError known rfl
    · rename_i created
      simp only [learns_lift]
      intro parsed read issue identified
      cases issue with
      | none => exact learns_unknownMalformed known
      | some issue =>
        obtain ⟨doc, rfl, shows_, _, named⟩ := issueIdentity_some py identified
        apply learns_proved rfl arguments
        rw [effect, named]
        exact .issue ⟨ownerRead, repoRead⟩ (not_not.mp created) (parseObject_some read) shows_

theorem executeComment_learns (effect : request.effect = effectCreateIssueComment)
    (arguments : request.arguments = .object data) :
    Learns exchanged (returning (Executed py request))
      (executeComment py context data timeout) [] := by
  simp only [executeComment, learns_lift, learns_send, List.nil_append, requiredStr_ok,
    requiredInt_ok]
  intro owner ownerRead repo repoRead number numbered answer
  have known : GitHubAdapter.verificationResourceIds py request =
      .ok [issueTarget owner repo number] := by
    rw [verificationResourceIds_of (effect ▸ by decide) arguments ⟨ownerRead, repoRead⟩, effect,
      requiredInt_ok.mpr numbered]
    rfl
  cases answer with
  | error typeName => exact learns_unknownTransport known
  | ok response =>
    dsimp only
    split
    · exact learns_executionHttpError known rfl
    · rename_i created
      simp only [learns_lift]
      intro parsed read
      split
      · exact learns_unknownMalformed known
      · rename_i comment identified
        obtain ⟨doc, rfl, shows_, named⟩ := commentIdentity_some py identified
        apply learns_proved rfl arguments
        rw [effect, named]
        exact .comment ⟨ownerRead, repoRead⟩ numbered (not_not.mp created)
          (parseObject_some read) shows_

theorem executeAddLabel_learns (effect : request.effect = effectAddLabel)
    (arguments : request.arguments = .object data) :
    Learns exchanged (returning (Executed py request)) (executeAddLabel py data timeout) [] := by
  simp only [executeAddLabel, learns_lift, learns_send, List.nil_append, requiredStr_ok,
    requiredInt_ok]
  intro owner ownerRead repo repoRead number numbered label labelled answer
  have known : GitHubAdapter.verificationResourceIds py request =
      .ok [issueTarget owner repo number, "github:label:" ++ label] := by
    rw [verificationResourceIds_of (effect ▸ by decide) arguments ⟨ownerRead, repoRead⟩, effect,
      requiredInt_ok.mpr numbered, requiredStr_ok.mpr labelled]
    rfl
  cases answer with
  | error typeName => exact learns_unknownTransport known
  | ok response =>
    dsimp only
    split
    · exact learns_executionHttpError known rfl
    · rename_i accepted
      simp only [learns_lift]
      intro docs read
      split
      · rename_i present
        obtain ⟨doc, among, is⟩ := List.any_eq_true.mp present
        cases docs with
        | none => cases among
        | some docs =>
          obtain ⟨items, listed, objects⟩ := parseArray_some read
          apply learns_proved rfl arguments
          rw [effect]
          exact .label ⟨ownerRead, repoRead⟩ numbered labelled (not_not.mp accepted) listed
            objects among (is_eq_true.mp is)
      · exact learns_unknownMalformed known

/-- Validated arguments have a title, so the payload can be built. -/
theorem executeCreatePull_learns (effect : request.effect = effectCreatePullRequest)
    (arguments : request.arguments = .object data)
    (titled : filledText (data.get "title") = true) :
    Learns exchanged (returning (Executed py request))
      (executeCreatePull py context data timeout) [] := by
  simp only [executeCreatePull, learns_lift, requiredStr_ok]
  intro owner ownerRead repo repoRead head headRead base baseRead
  have known : GitHubAdapter.verificationResourceIds py request =
      .ok (GitHubAdapter.pullTargets owner repo head base) := by
    rw [verificationResourceIds_of (effect ▸ by decide) arguments ⟨ownerRead, repoRead⟩, effect,
      requiredStr_ok.mpr headRead, requiredStr_ok.mpr baseRead]
    rfl
  obtain ⟨title, titleRead⟩ := eq_str_of_filledText titled
  have built : ∃ payload, pullPayload data (operationMarker context) = .ok payload := by
    simp [pullPayload, requiredStr_ok.mpr headRead, requiredStr_ok.mpr baseRead,
      requiredStr_ok.mpr titleRead, bind, Except.bind, pure, Except.pure]
  obtain ⟨payload, built⟩ := built
  rw [built]
  simp only [learns_send, List.nil_append]
  intro answer
  cases answer with
  | error typeName => exact learns_unknownTransport known
  | ok response =>
    dsimp only
    split
    · exact learns_executionHttpError known rfl
    · rename_i created
      simp only [learns_lift]
      intro parsed read pull identified
      cases pull with
      | none => exact learns_unknownMalformed known
      | some pull =>
        dsimp only
        split
        · exact learns_unknownInconsistent known
        · rename_i agreed
          obtain ⟨doc, rfl, shows_, _, named⟩ := pullIdentity_some py identified
          obtain ⟨_, ⟨⟩, intended⟩ := pullMatchesIntent_some py (by simpa using agreed)
          apply learns_proved rfl arguments
          rw [effect, named]
          exact .pull ⟨ownerRead, repoRead⟩ headRead baseRead (not_not.mp created)
            (parseObject_some read) shows_ intended

theorem executeMerge_learns (effect : request.effect = effectMergePullRequest)
    (arguments : request.arguments = .object data) :
    Learns exchanged (returning (Executed py request)) (executeMerge py data timeout) [] := by
  simp only [executeMerge, learns_lift, learns_send, List.nil_append, requiredStr_ok,
    requiredInt_ok]
  intro owner ownerRead repo repoRead number numbered headSha expected answer
  have known : GitHubAdapter.verificationResourceIds py request =
      .ok [pullTarget owner repo number, "github:head-sha:" ++ py.lower headSha] := by
    rw [verificationResourceIds_of (effect ▸ by decide) arguments ⟨ownerRead, repoRead⟩, effect,
      requiredInt_ok.mpr numbered, requiredStr_ok.mpr expected]
    rfl
  cases answer with
  | error typeName => exact learns_unknownTransport known
  | ok response =>
    dsimp only
    split
    · rename_i refused
      exact learns_notMerged known rfl (.inr ⟨effect, .inl refused⟩)
    split
    · exact learns_executionHttpError known rfl
    · rename_i accepted
      simp only [learns_lift]
      intro parsed read
      cases parsed with
      | none => exact learns_unknownMalformed known
      | some doc =>
        have bears := parseObject_some read
        dsimp only [Option.getD]
        split
        · rename_i unmerged
          exact learns_notMerged known rfl
            (.inr ⟨effect, .inr ⟨not_not.mp accepted, doc, bears, unmerged⟩⟩)
        · rename_i merged
          split
          · rename_i mergeSha commit
            split
            · rename_i hex
              apply learns_proved rfl arguments
              rw [effect]
              exact .merge ⟨ownerRead, repoRead⟩ numbered expected (not_not.mp accepted) bears
                merged commit hex
            · exact learns_unknownMalformed known
          · exact learns_unknownMalformed known
        · exact learns_unknownMalformed known

theorem executeEffect_learns (supported : request.effect ∈ githubEffects)
    (arguments : request.arguments = .object data)
    (valid : validateArguments request.effect (.object data) = none) :
    Learns exchanged (returning (Executed py request))
      (executeEffect py context request data timeout) [] := by
  unfold executeEffect
  split
  case isTrue effect => exact executeCreateIssue_learns effect arguments
  split
  case isTrue effect => exact executeComment_learns effect arguments
  split
  case isTrue effect => exact executeAddLabel_learns effect arguments
  split
  case isTrue effect =>
    apply executeCreatePull_learns effect arguments
    exact filledText_of_valid (effect ▸ valid) rfl (by decide)
  case isFalse notIssue notComment notLabel notPull =>
    apply executeMerge_learns _ arguments
    simpa [githubEffects, notIssue, notComment, notLabel, notPull] using supported

theorem valid_of_accepted {adapter : GitHubAdapter} {validation : ValidationResult}
    (validated : adapter.validateExecution request = .ok validation)
    (accepted : validation.accepted = true) :
    request.effect ∈ githubEffects ∧
      validateArguments request.effect request.arguments = none := by
  unfold GitHubAdapter.validateExecution GitHubAdapter.refused normalizedError at validated
  split at validated
  · cases validated
    cases accepted
  split at validated
  · cases validated
    cases accepted
  · rename_i supported _
    split at validated
    · cases validated
      cases accepted
    · rename_i valid
      exact ⟨not_not.mp supported, valid⟩

/-- The specification of `execute`. -/
theorem executes (adapter : GitHubAdapter) (context : ProviderExecutionContext)
    (request : ProviderExecutionRequest) :
    Learns exchanged (returning (Executed py request)) (adapter.execute py context request)
      [] := by
  unfold GitHubAdapter.execute
  split
  case isTrue =>
    rw [learns_raise]
    trivial
  case isFalse supported =>
    rw [learns_lift]
    intro validation validated
    split
    · apply learns_evidence
      intro evidence ids
      rw [learns_pure]
      exact .unsent rfl ⟨rfl, by rintro _ ⟨⟩; exact ids⟩
    · rename_i accepted
      have valid := (valid_of_accepted validated (by simpa using accepted)).2
      have late : Learns exchanged (returning (Executed py request))
          (knownError py .transientTransport "github.deadline.not_sent" "deadline_expired" true)
          [] := learns_failure fun _ outcome carries => .unsent outcome carries
      have timely : ∀ timeout, Learns exchanged (returning (Executed py request))
          (do
            let args ← Calling.lift (argumentMap request.arguments)
            executeEffect py context request args timeout) [] := by
        intro timeout
        rw [learns_lift]
        intro args mapped
        have given : request.arguments = .object args := by
          cases kind : request.arguments <;> simp_all [argumentMap]
        exact executeEffect_learns (not_not.mp supported) given (given ▸ valid)
      unfold timeoutOf
      cases context.deadline with
      | none => exact timely _
      | some deadline =>
        rw [Prog.bind_assoc, learns_now]
        intro time
        rw [Prog.pure_bind]
        split
        · exact late
        · exact timely _

end Stateback.Providers.GitHub
