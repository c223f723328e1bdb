import Stateback.Providers.GitHub.Outcomes
/-!
# What a compensation closes

A compensation recovers its target from the resource ids that earlier executions left behind.  The
scan for issues reads ids of every kind: a repository, a branch or a pull request whose id happens
to read as `owner/repo#number` becomes a target as well.
-/

namespace Stateback.Providers.GitHub

open Stateback.Domain Process

/-! ## The request sent -/

def originalIds (request : CompensationRequest) : List String :=
  request.originalEvidence.flatMap (·.externalResourceIds)

/-- The path of the request that closes the object the ids name. -/
def closingPath (py : Python) (ids : List String) : Option String :=
  match parseTargetResource py ids "github:pull:" with
  | some pull => some (pullsApi pull.owner pull.repo pull.number)
  | none =>
    (firstIssueResource py ids).map fun issue => issuesApi issue.owner issue.repo issue.number

variable {py : Python}

section Sent

variable {α : Type} {sent : List Exchange} {P : List Exchange → Prop}

theorem learns_evidence_sent {source : EvidenceSource} {status : String}
    {requestId operationId : Option String} {ids : List String} {fields : JsonValue}
    {reference : Option String} {f : ProviderEvidence → Calling α} (now : P sent)
    (rest : ∀ evidence, Learns exchanged (fun _ => P) (f evidence) sent) :
    Learns exchanged (fun _ => P)
      (providerEvidence py source status requestId operationId ids fields reference >>= f)
      sent := by
  rw [providerEvidence, Prog.bind_assoc, learns_now]
  intro observedAt
  by_cases free : secretFree py.lower fields = true
  · rw [if_pos free, Prog.pure_bind]
    exact rest _
  · rw [if_neg free, Prog.raise_bind, learns_raise]
    exact now

theorem learns_lift_sent {β : Type} {x : Except AdapterRaised β} {f : β → Calling α} (now : P sent)
    (rest : ∀ b, x = .ok b → Learns exchanged (fun _ => P) (f b) sent) :
    Learns exchanged (fun _ => P) (Calling.lift x >>= f) sent := by
  cases x with
  | error e =>
    have raised : Calling.lift (.error e) >>= f = Prog.raise e := rfl
    rw [raised, learns_raise]
    exact now
  | ok b => exact rest b rfl

theorem compensationError_sent {outcome : EffectOutcome} {kind : ErrorKind}
    {code status : String} {retryable : Bool} {http retryAfter : Option Int}
    {exceptionType : Option String} (now : P sent) :
    Learns exchanged (fun _ => P)
      (compensationError py outcome kind code status retryable http retryAfter exceptionType)
      sent := by
  apply learns_evidence_sent now
  intro evidence
  apply learns_lift_sent now
  intro error _
  rwa [learns_pure]

end Sent

/-- Exactly the request with this path has been sent. -/
def OnlySent (path : Option String) (sent : List Exchange) : Prop :=
  sent.map (fun exchange => (exchange.request.method, exchange.request.path)) =
    path.toList.map (Prod.mk Method.patch)

theorem closeObject_sent {path mitigation : String}
    {read : Option Dict → Except AdapterRaised (Option Closed)} :
    Learns exchanged (fun _ => OnlySent (some path)) (closeObject py path mitigation read) [] := by
  simp only [closeObject, learns_send, List.nil_append]
  intro answer
  have sentOne : OnlySent (some path)
      [⟨⟨.patch, path, some (py.dumps (.dict [("state", .str "closed")])), defaultTimeout⟩,
        answer⟩] := rfl
  cases answer with
  | error typeName => exact compensationError_sent sentOne
  | ok response =>
    dsimp only
    split
    · exact compensationError_sent sentOne
    · apply learns_lift_sent sentOne
      intro parsed _
      apply learns_lift_sent sentOne
      intro closed _
      split
      · exact compensationError_sent sentOne
      · apply learns_evidence_sent sentOne
        intro evidence
        rwa [learns_pure]

theorem resourceFromOriginalEvidence_eq (request : CompensationRequest) :
    resourceFromOriginalEvidence py request =
      firstIssueResource py (originalIds request) := by
  unfold resourceFromOriginalEvidence originalIds firstIssueResource
  induction request.originalEvidence with
  | nil => rfl
  | cons evidence rest ih =>
    rw [List.findSome?_cons, List.flatMap_cons, List.findSome?_append, ← ih]
    cases evidence.externalResourceIds.findSome? (parseResource py) <;> rfl

/-- The whole effect of a compensation on GitHub. -/
theorem compensate_sent (adapter : GitHubAdapter) (request : CompensationRequest) :
    Learns exchanged
      (fun _ => OnlySent (if adapter.credentialConfigured then
        closingPath py (originalIds request) else none))
      (adapter.compensate py request) [] := by
  unfold GitHubAdapter.compensate closingPath
  rw [resourceFromOriginalEvidence_eq]
  cases adapter.credentialConfigured with
  | false => exact compensationError_sent rfl
  | true =>
    have named : request.originalEvidence.flatMap (·.externalResourceIds) =
        originalIds request := rfl
    simp only [named, Bool.not_true, Bool.false_eq_true, if_false, if_true]
    cases parseTargetResource py (originalIds request) "github:pull:" with
    | some pull => exact closeObject_sent
    | none =>
      cases firstIssueResource py (originalIds request) with
      | some issue => exact closeObject_sent
      | none => exact compensationError_sent rfl

/-! ## The attempts of an operation -/

/-- An execution of the operation that returned, and the evidence stored for it. -/
structure Attempted (py : Python) (request : ProviderExecutionRequest) where
  adapter : GitHubAdapter
  context : ProviderExecutionContext
  answers : Nat → (call : Call) → Reply call
  evidence : ExecutionEvidence
  provider : ProviderEvidence
  returned : ((adapter.execute py context request).run answers).outcome = .ok evidence
  stored : evidence.evidence = some provider

/-- The number in the response an execution was proved by. -/
def reportedNumber (py : Python) (outcome : EffectOutcome) (sent : List Exchange) : Option Int :=
  match outcome, sent with
  | .applied, [⟨_, .ok response⟩] =>
    match py.loads response.body with
    | .value (.dict doc) =>
      match Dict.get doc "number" with
      | .int number => if response.status = 201 then some number else none
      | _ => none
    | _ => none
  | _, _ => none

namespace Attempted

variable {request : ProviderExecutionRequest}

def sent (attempt : Attempted py request) : List Exchange :=
  ((attempt.adapter.execute py attempt.context request).run attempt.answers).exchanges

/-- The number a create-success response reported. -/
def number (attempt : Attempted py request) : Option Int :=
  reportedNumber py attempt.evidence.outcome attempt.sent

theorem executed (attempt : Attempted py request) :
    Executed py request attempt.evidence attempt.sent :=
  Calling.of_returned attempt.returned (executes attempt.adapter attempt.context request)

end Attempted

theorem reportedNumber_shown {exchange : Exchange} {response : GitHubHttpResponse} {doc : Dict}
    {number : Int} (answered : exchange.answer = .ok response) (created : response.status = 201)
    (bears : Bears py response.body doc) (numbered : doc.get "number" = .int number) :
    reportedNumber py .applied [exchange] = some number := by
  obtain ⟨asked, answer⟩ := exchange
  cases answered
  unfold Bears at bears
  simp [reportedNumber, bears, numbered, created]

theorem reportedNumber_none {outcome : EffectOutcome} {sent : List Exchange}
    (unproven : outcome ≠ .applied) : reportedNumber py outcome sent = none := by
  cases outcome <;> first | rfl | exact absurd rfl unproven

theorem Shown.of_createIssue {data : Arguments} {response : GitHubHttpResponse}
    {effect : EffectRef} {ids : List String} (proves : Shown py data response effect ids)
    (is : effect = effectCreateIssue) :
    ∃ owner repo doc number state, Names data owner repo ∧ response.status = 201 ∧
      Bears py response.body doc ∧ ShowsIssue py doc owner repo number state ∧
      ids = [resourceName owner repo number] := by
  cases proves with
  | issue named created bears shows_ =>
    exact ⟨_, _, _, _, _, named, created, bears, shows_, rfl⟩
  | comment | label | pull | merge => exact absurd is (by decide)

theorem Shown.of_createPullRequest {data : Arguments} {response : GitHubHttpResponse}
    {effect : EffectRef} {ids : List String} (proves : Shown py data response effect ids)
    (is : effect = effectCreatePullRequest) :
    ∃ owner repo head base doc number state headSha, Names data owner repo ∧
      data.get "head" = .str head ∧ data.get "base" = .str base ∧ response.status = 201 ∧
      Bears py response.body doc ∧ ShowsPull py doc owner repo number state headSha ∧
      ids = GitHubAdapter.pullTargets owner repo head base ++
        [pullTarget owner repo number, "github:head-sha:" ++ headSha] := by
  cases proves with
  | pull named from_ into created bears shows_ _ =>
    exact ⟨_, _, _, _, _, _, _, _, named, from_, into, created, bears, shows_, rfl⟩
  | issue | comment | label | merge => exact absurd is (by decide)

variable {request : ProviderExecutionRequest} {data : Arguments} {owner repo : String}

/-- An execution of `create_issue` leaves the issue it was told of, or nothing. -/
theorem Attempted.ids_createIssue (effect : request.effect = effectCreateIssue)
    (arguments : request.arguments = .object data) (named : Names data owner repo)
    (attempt : Attempted py request) :
    attempt.provider.externalResourceIds =
      attempt.number.toList.map (resourceName owner repo) := by
  have known : GitHubAdapter.verificationResourceIds py request = .ok [] := by
    rw [verificationResourceIds_of (effect ▸ by decide) arguments named, if_pos effect]
    rfl
  have provided := Option.mem_def.mpr attempt.stored
  have executed := attempt.executed
  unfold Attempted.number
  generalize attempt.sent = sent at executed ⊢
  cases executed with
  | unsent outcome carries =>
    rw [carries.2 _ provided, reportedNumber_none (by simp [outcome])]
    rfl
  | lost known' outcome carries | refused _ known' _ outcome carries =>
    cases known.symm.trans known'
    rw [carries.2 _ provided, reportedNumber_none (by simp [outcome])]
    rfl
  | applied answered arguments' proves outcome carries =>
    cases arguments.symm.trans arguments'
    obtain ⟨_, _, doc, number, state, again, created, bears, shows_, ids⟩ :=
      proves.of_createIssue effect
    obtain ⟨rfl, rfl⟩ := named.unique again
    rw [carries.2 _ provided, ids, outcome,
      reportedNumber_shown answered created bears shows_.numbered]
    rfl

/-- The ids of a pull request's evidence: nothing, what was asked for, or the pull as well. -/
theorem Attempted.ids_createPull {head base : String}
    (effect : request.effect = effectCreatePullRequest)
    (arguments : request.arguments = .object data) (named : Names data owner repo)
    (from_ : data.get "head" = .str head) (into : data.get "base" = .str base)
    (attempt : Attempted py request) :
    (attempt.number = none ∧ (attempt.provider.externalResourceIds = [] ∨
      attempt.provider.externalResourceIds = GitHubAdapter.pullTargets owner repo head base)) ∨
    ∃ number headSha, attempt.number = some number ∧
      attempt.provider.externalResourceIds = GitHubAdapter.pullTargets owner repo head base ++
        [pullTarget owner repo number, "github:head-sha:" ++ headSha] := by
  have known : GitHubAdapter.verificationResourceIds py request =
      .ok (GitHubAdapter.pullTargets owner repo head base) := by
    rw [verificationResourceIds_of (effect ▸ by decide) arguments named, effect,
      requiredStr_ok.mpr from_, requiredStr_ok.mpr into]
    rfl
  have provided := Option.mem_def.mpr attempt.stored
  have executed := attempt.executed
  unfold Attempted.number
  generalize attempt.sent = sent at executed ⊢
  cases executed with
  | unsent outcome carries =>
    exact .inl ⟨reportedNumber_none (by simp [outcome]), .inl (carries.2 _ provided)⟩
  | lost known' outcome carries | refused _ known' _ outcome carries =>
    cases known.symm.trans known'
    exact .inl ⟨reportedNumber_none (by simp [outcome]), .inr (carries.2 _ provided)⟩
  | applied answered arguments' proves outcome carries =>
    cases arguments.symm.trans arguments'
    obtain ⟨_, _, head', base', doc, number, state, headSha, again, from', into', created, bears,
      shows_, ids⟩ := proves.of_createPullRequest effect
    obtain ⟨rfl, rfl⟩ := named.unique again
    cases from_.symm.trans from'
    cases into.symm.trans into'
    refine .inr ⟨number, headSha, ?_, (carries.2 _ provided).trans ids⟩
    rw [outcome]
    exact reportedNumber_shown answered created bears shows_.numbered

/-! ## Paths -/

theorem slash_not_mem_quote (s : String) : '/' ∉ (Percent.quote s).toList :=
  Percent.not_mem_quote (by decide)

/-- Two paths of the API agree only in repository and rest. -/
theorem apiPath_inj {o r o' r' rest rest' : String}
    (same : apiPath o r ++ "/" ++ rest = apiPath o' r' ++ "/" ++ rest') :
    o = o' ∧ r = r' ∧ rest = rest' := by
  have lists := String.toList_inj.mpr same
  simp only [apiPath, String.toList_append, List.append_assoc] at lists
  have tails := List.append_cancel_left lists
  have first := congrArg (Cut.cut '/') tails
  have slash : "/".toList = ['/'] := rfl
  simp only [slash, List.singleton_append, Cut.cut_append (slash_not_mem_quote _),
    Option.some.injEq, Prod.mk.injEq] at first
  have second := congrArg (Cut.cut '/') first.2
  simp only [Cut.cut_append (slash_not_mem_quote _), Option.some.injEq, Prod.mk.injEq] at second
  exact ⟨Percent.quote_injective (String.toList_inj.mp first.1),
    Percent.quote_injective (String.toList_inj.mp second.1), String.toList_inj.mp second.2⟩

theorem issuesApi_eq (o r : String) (n : Int) :
    issuesApi o r n = apiPath o r ++ "/" ++ ("issues/" ++ toString n) := by
  rw [← String.toList_inj]
  simp [issuesApi]

theorem pullsApi_eq (o r : String) (n : Int) :
    pullsApi o r n = apiPath o r ++ "/" ++ ("pulls/" ++ toString n) := by
  rw [← String.toList_inj]
  simp [pullsApi]

theorem issuesApi_ne {o r o' r' : String} {m n : Int} (differ : o ≠ o') :
    issuesApi o r m ≠ issuesApi o' r' n := by
  rw [issuesApi_eq, issuesApi_eq]
  exact fun same => differ (apiPath_inj same).1

theorem pullsApi_ne {o r o' r' : String} {m n : Int} (differ : o ≠ o') :
    pullsApi o r m ≠ pullsApi o' r' n := by
  rw [pullsApi_eq, pullsApi_eq]
  exact fun same => differ (apiPath_inj same).1

theorem pullsApi_ne_issuesApi {o r o' r' : String} {m n : Int} :
    pullsApi o r m ≠ issuesApi o' r' n := by
  rw [pullsApi_eq, issuesApi_eq]
  intro same
  have tails := String.toList_inj.mpr (apiPath_inj same).2.2
  simp at tails

/-! ## The target -/

section Reading

variable (reads : ReadsIntegers py) {numbers : List Int}

theorem firstIssueResource_map {name : Int → String} {resource : Int → IssueResource}
    (parsed : ∀ n, parseResource py (name n) = if 1 ≤ n then some (resource n) else none) :
    firstIssueResource py (numbers.map name) =
      (numbers.find? fun n => decide (1 ≤ n)).map resource := by
  unfold firstIssueResource
  induction numbers with
  | nil => rfl
  | cons n rest ih =>
    rw [List.map_cons, List.findSome?_cons, parsed, List.find?_cons, ih]
    by_cases positive : 1 ≤ n <;> simp [positive]

theorem parsePrefixedResource_map {name : Int → String} {start : String} {rest : Int → String}
    (found : ∀ n, name n = start ++ rest n) :
    parsePrefixedResource (numbers.map name) start = numbers.head?.map rest := by
  cases numbers with
  | nil => rfl
  | cons n more => simp [parsePrefixedResource_cons, found]

theorem parsePrefixedResource_map_none {name : Int → String} {start : String}
    (absent : ∀ n rest, name n ≠ start ++ rest) :
    parsePrefixedResource (numbers.map name) start = none := by
  refine List.findSome?_eq_none_iff.mpr fun id mem => ?_
  obtain ⟨n, -, rfl⟩ := List.mem_map.mp mem
  cases found : withoutStart start (name n) with
  | none => rfl
  | some rest => exact absurd (eq_of_withoutStart found) (absent n rest)

/-- An issue's resource id has the pull prefix only if its owner has. -/
theorem owner_of_pullStart {n : Int} {rest : String}
    (same : resourceName owner repo n = "github:pull:" ++ rest) :
    ∃ tail, owner = "github:pull:" ++ tail := by
  have lists := String.toList_inj.mpr same
  simp only [resourceName, String.toList_append, List.append_assoc] at lists
  obtain ⟨tail, started, after⟩ | ⟨tail, started, -⟩ := List.append_eq_append_iff.mp lists
  · cases tail with
    | nil =>
      refine ⟨"", String.toList_inj.mp ?_⟩
      simpa using started.symm
    | cons c tail =>
      have slash : c = '/' := by
        simp only [List.cons_append] at after
        exact (List.cons.inj after).1.symm
      have inside : '/' ∈ "github:pull:".toList := by
        rw [started, slash]
        simp
      exact absurd inside (by decide)
  · exact ⟨String.ofList tail, String.toList_inj.mp (by simp [started])⟩

/-! ## What a compensation may touch -/

/-- The only requests that change anything go to objects of the operation. -/
structure TouchesOwn (own : Int → String) (numbers : List Int) (sent : List Exchange) : Prop where
  only : ∀ exchange ∈ mutating sent, ∃ n ∈ numbers, exchange.request.path = own n
  silent : numbers = [] → sent = []

theorem touchesOwn_iff {own : Int → String} {path : Option String} {sent : List Exchange}
    (sentOnly : OnlySent path sent) :
    TouchesOwn own numbers sent ↔ ∀ target ∈ path, ∃ n ∈ numbers, target = own n := by
  cases path with
  | none =>
    have nothing : sent = [] := by simpa [OnlySent] using sentOnly
    subst nothing
    exact ⟨fun _ => nofun, fun _ => ⟨nofun, fun _ => rfl⟩⟩
  | some target =>
    obtain ⟨exchange, rfl, asked⟩ := List.map_eq_singleton_iff.mp sentOnly
    simp only [Prod.mk.injEq] at asked
    have alone : mutating [exchange] = [exchange] := by simp [mutating, asked.1]
    constructor
    · rintro touches _ ⟨⟩
      rw [← asked.2]
      exact touches.only exchange (by simp [alone])
    · intro own_
      obtain ⟨n, mem, same⟩ := own_ target rfl
      constructor
      · intro sent mem'
        rw [alone, List.mem_singleton] at mem'
        exact ⟨n, mem, by rw [mem', asked.2, same]⟩
      · rintro rfl
        cases mem

/-- What an issue operation's owner and reported numbers must be for the scan to come back to
its own issue. -/
def IssueRecoverable (owner : String) (numbers : List Int) : Prop :=
  (∀ n ∈ numbers, n < 1) ∨ owner.toList.head? = some '/' ∨
    '/' ∉ owner.toList ∧ ∀ tail, owner = "github:pull:" ++ tail → tail = "" ∨
      ∀ n ∈ numbers.head?, n < 1

/-- A pull request is looked for by its first reported number; without one that is read back, no
resource id may read as an issue. -/
def PullRecoverable (py : Python) (owner : String) (numbers : List Int) (ids : List String) :
    Prop :=
  ((∃ n ∈ numbers.head?, 1 ≤ n) ∧ owner.toList.head? ≠ some '/' → '/' ∉ owner.toList) ∧
    (¬ ((∃ n ∈ numbers.head?, 1 ≤ n) ∧ owner.toList.head? ≠ some '/') →
      ∀ id ∈ ids, parseResource py id = none)

include reads

theorem parseTargetResource_pullStart {tail : String} (named : repo ≠ "")
    (prefixed : owner = "github:pull:" ++ tail) :
    ∃ repoRead, parseTargetResource py (numbers.map (resourceName owner repo)) "github:pull:" =
      numbers.head?.bind fun n =>
        if ownerRead tail ≠ "" ∧ 1 ≤ n then some ⟨ownerRead tail, repoRead, n⟩ else none := by
  obtain ⟨repoRead, -, parsed⟩ := parseResource_resourceName reads tail named
  have starts : ∀ n, resourceName owner repo n = "github:pull:" ++ resourceName tail repo n := by
    intro n
    rw [prefixed, ← String.toList_inj]
    simp [resourceName]
  refine ⟨repoRead, ?_⟩
  rw [parseTargetResource, parsePrefixedResource_map starts]
  cases numbers.head? with
  | none => rfl
  | some n => exact parsed n

/-- The pull prefix of an issue operation's resource ids is never followed to a pull request. -/
def HarmlessStart (owner : String) (numbers : List Int) : Prop :=
  ∀ tail, owner = "github:pull:" ++ tail → ownerRead tail = "" ∨ ∀ n ∈ numbers.head?, n < 1

theorem parseTargetResource_issues (named : repo ≠ "") (harmless : HarmlessStart owner numbers) :
    parseTargetResource py (numbers.map (resourceName owner repo)) "github:pull:" = none := by
  by_cases prefixed : ∃ tail, owner = "github:pull:" ++ tail
  · obtain ⟨tail, prefixed⟩ := prefixed
    obtain ⟨repoRead, target⟩ := parseTargetResource_pullStart reads named prefixed
    rw [target]
    cases first : numbers.head? with
    | none => rfl
    | some n =>
      have := harmless tail prefixed
      simp only [first, Option.mem_def, Option.some.injEq, forall_eq'] at this
      rw [Option.bind_some, if_neg]
      rintro ⟨filled, positive⟩
      cases this with
      | inl empty => exact filled empty
      | inr small => omega
  · have absent : ∀ n rest, resourceName owner repo n ≠ "github:pull:" ++ rest :=
      fun n rest same => prefixed (owner_of_pullStart same)
    rw [parseTargetResource, parsePrefixedResource_map_none absent]
    rfl

theorem firstIssueResource_issues (named : repo ≠ "") :
    ∃ repoRead, (ownerRead owner = owner → repoRead = repo) ∧
      firstIssueResource py (numbers.map (resourceName owner repo)) =
        if ownerRead owner = "" then none
        else (numbers.find? fun n => decide (1 ≤ n)).map fun n =>
          ⟨ownerRead owner, repoRead, n⟩ := by
  obtain ⟨repoRead, sameRepo, parsed⟩ := parseResource_resourceName reads owner named
  refine ⟨repoRead, sameRepo, ?_⟩
  split
  case isTrue empty =>
    refine List.findSome?_eq_none_iff.mpr fun id mem => ?_
    obtain ⟨n, -, rfl⟩ := List.mem_map.mp mem
    simp [parsed, empty]
  case isFalse filled =>
    apply firstIssueResource_map
    intro n
    simp [parsed, filled]

/-- Past the prefix, the first positive number is closed where the owner is read. -/
theorem closingPath_issues (named : repo ≠ "") (harmless : HarmlessStart owner numbers) :
    ∃ repoRead, (ownerRead owner = owner → repoRead = repo) ∧
      closingPath py (numbers.map (resourceName owner repo)) =
        if ownerRead owner = "" then none
        else
          (numbers.find? fun n => decide (1 ≤ n)).map (issuesApi (ownerRead owner) repoRead) := by
  obtain ⟨repoRead, sameRepo, scanned⟩ := firstIssueResource_issues reads named
  refine ⟨repoRead, sameRepo, ?_⟩
  rw [closingPath, parseTargetResource_issues reads named harmless]
  dsimp only
  rw [scanned]
  split
  · rfl
  · rw [Option.map_map]
    rfl

/-- Where every closed path is one of the operation's own, no pull request is closed. -/
theorem harmlessStart_of_closes (named : repo ≠ "")
    (closes : ∀ target ∈ closingPath py (numbers.map (resourceName owner repo)),
      ∃ n ∈ numbers, target = issuesApi owner repo n) : HarmlessStart owner numbers := by
  intro tail prefixed
  by_contra harmful
  simp only [not_or, not_forall, Int.not_lt] at harmful
  obtain ⟨filled, n, first, positive⟩ := harmful
  obtain ⟨repoRead, target⟩ := parseTargetResource_pullStart reads named prefixed
  rw [first, Option.bind_some, if_pos ⟨filled, positive⟩] at target
  obtain ⟨m, -, same⟩ := closes _ (by rw [closingPath, target]; rfl)
  exact pullsApi_ne_issuesApi same

omit reads in
theorem IssueRecoverable.harmless (recoverable : IssueRecoverable owner numbers) :
    HarmlessStart owner numbers := by
  intro tail prefixed
  obtain small | slash | ⟨plain, harmless⟩ := recoverable
  · exact .inr fun n first => small n (List.mem_of_head? first)
  · rw [prefixed] at slash
    simp at slash
  · refine (harmless tail prefixed).imp_left fun empty => ?_
    rw [empty]
    rfl

omit reads in
theorem issueRecoverable_of_harmless (harmless : HarmlessStart owner numbers)
    (plain : '/' ∉ owner.toList) : IssueRecoverable owner numbers := by
  refine .inr (.inr ⟨plain, fun tail prefixed => ?_⟩)
  have tailPlain : '/' ∉ tail.toList := by
    intro inside
    rw [prefixed] at plain
    exact plain (by simp [inside])
  have read := harmless tail prefixed
  rwa [ownerRead_eq_self.mpr tailPlain] at read

theorem closingPath_issues_iff (owned : owner ≠ "") (named : repo ≠ "") :
    (∀ target ∈ closingPath py (numbers.map (resourceName owner repo)),
        ∃ n ∈ numbers, target = issuesApi owner repo n) ↔ IssueRecoverable owner numbers := by
  have leading : ownerRead owner = "" ↔ owner.toList.head? = some '/' := by
    simp [ownerRead_eq_empty, owned]
  constructor
  · intro closes
    have harmless := harmlessStart_of_closes reads named closes
    obtain ⟨repoRead, -, path⟩ := closingPath_issues reads named harmless
    by_cases slash : owner.toList.head? = some '/'
    · exact .inr (.inl slash)
    cases found : numbers.find? fun n => decide (1 ≤ n) with
    | none =>
      refine .inl fun n inside => ?_
      simpa using List.find?_eq_none.mp found n inside
    | some m =>
      rw [if_neg (mt leading.mp slash), found] at path
      obtain ⟨n, -, same⟩ := closes _ path
      have read : ownerRead owner = owner := by
        by_contra differs
        exact issuesApi_ne differs same
      exact issueRecoverable_of_harmless harmless (ownerRead_eq_self.mp read)
  · intro recoverable target mem
    obtain ⟨repoRead, sameRepo, path⟩ := closingPath_issues reads named recoverable.harmless
    rw [path, Option.mem_def] at mem
    split at mem
    · cases mem
    next filled =>
      obtain ⟨n, found, rfl⟩ := Option.map_eq_some_iff.mp mem
      have inside := List.mem_of_find?_eq_some found
      have positive : 1 ≤ n := by simpa using List.find?_some found
      obtain small | slash | ⟨plain, -⟩ := recoverable
      · have := small n inside
        omega
      · exact absurd (leading.mpr slash) filled
      · have read := ownerRead_eq_self.mpr plain
        rw [read, sameRepo read]
        exact ⟨n, inside, rfl⟩

omit reads in
theorem parsePrefixedResource_pulls {request : ProviderExecutionRequest} {head base : String}
    {history : List (Attempted py request)}
    (shapes : ∀ attempt ∈ history,
      (attempt.number = none ∧ (attempt.provider.externalResourceIds = [] ∨
        attempt.provider.externalResourceIds = GitHubAdapter.pullTargets owner repo head base)) ∨
      ∃ number headSha, attempt.number = some number ∧
        attempt.provider.externalResourceIds = GitHubAdapter.pullTargets owner repo head base ++
          [pullTarget owner repo number, "github:head-sha:" ++ headSha]) :
    parsePrefixedResource (history.flatMap (·.provider.externalResourceIds)) "github:pull:" =
      (history.filterMap Attempted.number).head?.map (resourceName owner repo) := by
  have targets : ∀ rest, parsePrefixedResource
      (GitHubAdapter.pullTargets owner repo head base ++ rest) "github:pull:" =
        parsePrefixedResource rest "github:pull:" := by
    intro rest
    simp [GitHubAdapter.pullTargets, parsePrefixedResource_cons, withoutStart, List.dropPrefix?]
  induction history with
  | nil => rfl
  | cons attempt rest ih =>
    have ih := ih fun attempt mem => shapes attempt (List.mem_cons_of_mem _ mem)
    rw [List.flatMap_cons]
    obtain ⟨nothing, ids | ids⟩ | ⟨number, headSha, reported, ids⟩ :=
      shapes attempt List.mem_cons_self
    · rw [List.filterMap_cons_none nothing, ids, List.nil_append, ih]
    · rw [List.filterMap_cons_none nothing, ids, targets, ih]
    · rw [List.filterMap_cons_some reported, ids, List.append_assoc, targets]
      simp [parsePrefixedResource_cons, pullTarget]

theorem closingPath_pulls_iff (owned : owner ≠ "") (named : repo ≠ "") {ids : List String}
    (looked : parsePrefixedResource ids "github:pull:" =
      numbers.head?.map (resourceName owner repo)) :
    (∀ target ∈ closingPath py ids, ∃ n ∈ numbers, target = pullsApi owner repo n) ↔
      PullRecoverable py owner numbers ids := by
  obtain ⟨repoRead, sameRepo, parsed⟩ := parseResource_resourceName reads owner named
  have leading : ownerRead owner ≠ "" ↔ owner.toList.head? ≠ some '/' := by
    simp [ownerRead_eq_empty, owned]
  have found : parseTargetResource py ids "github:pull:" = numbers.head?.bind fun n =>
      if ownerRead owner ≠ "" ∧ 1 ≤ n then some ⟨ownerRead owner, repoRead, n⟩ else none := by
    rw [parseTargetResource, looked]
    cases numbers.head? with
    | none => rfl
    | some n => exact parsed n
  unfold PullRecoverable
  by_cases reported : (∃ n ∈ numbers.head?, 1 ≤ n) ∧ owner.toList.head? ≠ some '/'
  case pos =>
    obtain ⟨⟨n, first, positive⟩, filled⟩ := reported
    have target : closingPath py ids = some (pullsApi (ownerRead owner) repoRead n) := by
      rw [closingPath, found, first, Option.bind_some, if_pos ⟨leading.mpr filled, positive⟩]
    rw [target]
    simp only [Option.mem_def, Option.some.injEq, forall_eq']
    constructor
    · rintro ⟨m, -, same⟩
      have read : ownerRead owner = owner := by
        by_contra differs
        exact pullsApi_ne differs same
      exact ⟨fun _ => ownerRead_eq_self.mp read,
        fun other => absurd ⟨⟨n, first, positive⟩, filled⟩ other⟩
    · rintro ⟨plain, -⟩
      have read := ownerRead_eq_self.mpr (plain ⟨⟨n, first, positive⟩, filled⟩)
      exact ⟨n, List.mem_of_head? first, by rw [read, sameRepo read]⟩
  case neg =>
    have noPull : parseTargetResource py ids "github:pull:" = none := by
      rw [found]
      cases first : numbers.head? with
      | none => rfl
      | some n =>
        rw [Option.bind_some, if_neg]
        rintro ⟨filled, positive⟩
        exact reported ⟨⟨n, first, positive⟩, leading.mp filled⟩
    have silent : firstIssueResource py ids = none ↔ ∀ id ∈ ids, parseResource py id = none :=
      List.findSome?_eq_none_iff
    rw [closingPath, noPull, ← silent]
    constructor
    · intro closes
      refine ⟨fun other => absurd other reported, fun _ => ?_⟩
      cases issue : firstIssueResource py ids with
      | none => rfl
      | some issue_ =>
        obtain ⟨m, -, same⟩ := closes _ (by rw [issue]; rfl)
        exact absurd same.symm pullsApi_ne_issuesApi
    · rintro ⟨-, silent⟩ target mem
      rw [silent reported] at mem
      cases mem

/-- The endpoint of the objects the effect creates. -/
def ownApi (effect : EffectRef) (owner repo : String) (number : Int) : String :=
  if effect = effectCreateIssue then issuesApi owner repo number else pullsApi owner repo number

/-- The operations and histories whose compensation finds its own object. -/
def Recoverable (py : Python) (compensator : GitHubAdapter) (effect : EffectRef) (owner : String)
    (numbers : List Int) (ids : List String) : Prop :=
  compensator.credentialConfigured = true →
    if effect = effectCreateIssue then IssueRecoverable owner numbers
    else PullRecoverable py owner numbers ids

/-- Whatever the executions of an operation went through, its compensation changes nothing but
an object they reported, exactly when the operation is recoverable. -/
theorem touches_own_iff (compensator : GitHubAdapter)
    (answers : Nat → (call : Call) → Reply call) {request : ProviderExecutionRequest}
    {data : Arguments}
    (effect : request.effect = effectCreateIssue ∨ request.effect = effectCreatePullRequest)
    (arguments : request.arguments = .object data)
    (valid : validateArguments request.effect request.arguments = none)
    (named : Names data owner repo) (history : List (Attempted py request))
    (compensation : CompensationRequest)
    (given : compensation.originalEvidence = history.map (·.provider)) :
    TouchesOwn (ownApi request.effect owner repo) (history.filterMap Attempted.number)
        ((compensator.compensate py compensation).run answers).exchanges ↔
      Recoverable py compensator request.effect owner (history.filterMap Attempted.number)
        (originalIds compensation) := by
  have ids : originalIds compensation =
      history.flatMap (·.provider.externalResourceIds) := by
    rw [originalIds, given, List.flatMap_map]
  have sentOnly := Calling.of_sent (@compensate_sent py compensator compensation) answers
  have supported : request.effect ∈ githubEffects := by
    obtain is | is := effect <;> rw [is] <;> decide
  rw [arguments] at valid
  have owned : owner ≠ "" :=
    ne_empty_of_filledText (named.1 ▸ named_of_valid supported valid (by decide))
  have repoNamed : repo ≠ "" :=
    ne_empty_of_filledText (named.2 ▸ named_of_valid supported valid (by decide))
  rw [touchesOwn_iff sentOnly, Recoverable, ids]
  cases compensator.credentialConfigured with
  | false => simp
  | true =>
    simp only [if_true, true_implies]
    obtain is | is := effect
    · have issues : history.flatMap (·.provider.externalResourceIds) =
          (history.filterMap Attempted.number).map (resourceName owner repo) := by
        have each : (fun attempt : Attempted py request => attempt.provider.externalResourceIds) =
            fun attempt => attempt.number.toList.map (resourceName owner repo) :=
          funext fun attempt => attempt.ids_createIssue is arguments named
        rw [each, List.filterMap_eq_flatMap_toList, List.map_flatMap]
      rw [issues, if_pos is]
      simpa only [ownApi, is, if_true] using closingPath_issues_iff reads owned repoNamed
    · have notIssue : request.effect ≠ effectCreateIssue := is ▸ by decide
      have filled : ∀ field ∈ ["owner", "repo", "head", "base", "title"],
          filledText (data.get field) = true := by
        rw [is] at valid
        exact fun field among => filledText_of_valid valid rfl among
      obtain ⟨head, from_⟩ := eq_str_of_filledText (filled "head" (by simp))
      obtain ⟨base, into⟩ := eq_str_of_filledText (filled "base" (by simp))
      rw [if_neg notIssue]
      simp only [ownApi, if_neg notIssue]
      exact closingPath_pulls_iff reads owned repoNamed (parsePrefixedResource_pulls
        fun attempt _ => attempt.ids_createPull is arguments named from_ into)

end Reading

/-! ## A branch that reads as an issue -/

def compensationOf (evidence : List ProviderEvidence) : CompensationRequest :=
  ⟨idOf "op", idOf "compensation", idOf "compensation-attempt", evidence, none, "identity", none⟩

/-- Pull request 7 is reported, and only pull request 7 is closed. -/
theorem touches_own_reported :
    ∃ attempt : Attempted (samplePython pullBody) (samplePullRequest "fix"),
      attempt.number = some 7 ∧
        TouchesOwn (ownApi effectCreatePullRequest "acme" "app")
          ([attempt].filterMap Attempted.number)
          ((GitHubAdapter.compensate (samplePython pullBody) ⟨true⟩
            (compensationOf [attempt.provider])).run
              (answering (.ok ⟨200, [], pullText⟩))).exchanges := by
  obtain ⟨evidence, provider, returned, stored, outcome, -⟩ :=
    execute_pull_applied
  let attempt : Attempted (samplePython pullBody) (samplePullRequest "fix") :=
    ⟨⟨true⟩, sampleContext, answering (.ok ⟨201, [], pullText⟩), evidence, provider, returned,
      stored⟩
  have number : attempt.number = some 7 := by
    change reportedNumber (samplePython pullBody) evidence.outcome
      ((GitHubAdapter.execute (samplePython pullBody) ⟨true⟩ sampleContext
        (samplePullRequest "fix")).run (answering (.ok ⟨201, [], pullText⟩))).exchanges = some 7
    rw [outcome]
    decide +kernel
  have numbers : [attempt].filterMap Attempted.number = [7] := by simp [number]
  refine ⟨attempt, number, ?_⟩
  apply (touches_own_iff (samplePython_reads pullBody) ⟨true⟩ _ (.inr rfl) rfl
    (by decide +kernel) ⟨rfl, rfl⟩ [attempt] (compensationOf [attempt.provider]) rfl).mpr
  rw [numbers]
  intro _
  rw [if_neg (by decide)]
  have found : (∃ n ∈ [(7 : Int)].head?, 1 ≤ n) ∧ "acme".toList.head? ≠ some '/' :=
    ⟨⟨7, rfl, by decide⟩, by decide +kernel⟩
  exact ⟨fun _ => by decide +kernel, fun other => absurd found other⟩

/-- A pull request from branch `fix/a#7` whose creation timed out: the compensation asks another
repository to close its issue 7. -/
theorem branch_read_as_issue :
    validateArguments effectCreatePullRequest (samplePullRequest "fix/a#7").arguments = none ∧
      ∃ attempt : Attempted (samplePython .none) (samplePullRequest "fix/a#7"),
        ((GitHubAdapter.compensate (samplePython .none) ⟨true⟩
            (compensationOf [attempt.provider])).run
              (answering (.error "TimeoutError"))).exchanges.map (·.request.path) =
          ["/repos/github%3Ahead-ref%3Afix/a/issues/7"] ∧
        ¬ TouchesOwn (ownApi effectCreatePullRequest "acme" "app")
          ([attempt].filterMap Attempted.number)
          ((GitHubAdapter.compensate (samplePython .none) ⟨true⟩
            (compensationOf [attempt.provider])).run
              (answering (.error "TimeoutError"))).exchanges := by
  obtain ⟨evidence, provider, returned, stored, outcome, ids⟩ : ∃ evidence provider,
      ((GitHubAdapter.execute (samplePython .none) ⟨true⟩ sampleContext
        (samplePullRequest "fix/a#7")).run (answering (.error "TimeoutError"))).outcome =
          .ok evidence ∧ evidence.evidence = some provider ∧ evidence.outcome = .unknown ∧
        provider.externalResourceIds = GitHubAdapter.pullTargets "acme" "app" "fix/a#7" "main" :=
    returned_of (by decide +kernel)
  let attempt : Attempted (samplePython .none) (samplePullRequest "fix/a#7") :=
    ⟨⟨true⟩, sampleContext, answering (.error "TimeoutError"), evidence, provider, returned, stored⟩
  have unnumbered : attempt.number = none := reportedNumber_none (by simp [attempt, outcome])
  have named : originalIds (compensationOf [attempt.provider]) =
      GitHubAdapter.pullTargets "acme" "app" "fix/a#7" "main" := by
    simpa [originalIds, compensationOf] using ids
  have sentOnly := Calling.of_sent (@compensate_sent (samplePython .none) ⟨true⟩
    (compensationOf [attempt.provider])) (answering (.error "TimeoutError"))
  have target : closingPath (samplePython .none)
      (GitHubAdapter.pullTargets "acme" "app" "fix/a#7" "main") =
        some "/repos/github%3Ahead-ref%3Afix/a/issues/7" := by decide +kernel
  rw [if_pos rfl, named, target] at sentOnly
  refine ⟨by decide +kernel, attempt, ?_, fun touches => ?_⟩
  · obtain ⟨exchange, only, asked⟩ := List.map_eq_singleton_iff.mp sentOnly
    rw [only]
    simp only [Prod.mk.injEq] at asked
    simp [asked.2]
  · obtain ⟨n, mem, -⟩ := (touchesOwn_iff sentOnly).mp touches _ rfl
    simp [unnumbered] at mem

end Stateback.Providers.GitHub
