import Stateback.Providers.GitHub.Closing
import Stateback.Providers.GitHub.Raising
import Stateback.Recovery.Reconcile
import Stateback.Runtime.Execute
/-!
# Verification on GitHub

What a stored attempt of an operation is looked up by, and what the response to that lookup
proves.  Every lookup but one is bound to the operation's repository; an issue whose number was
never learned is searched for everywhere, and the item found says itself which repository it is in.
-/

namespace Stateback.Providers.GitHub

open Stateback.Domain Stateback.Runtime Stateback.Recovery Process

/-! ## Stored attempts -/

section FindSome

variable {α β : Type} [DecidableEq α]

theorem findSome?_filter_ne {f : α → Option β} {a : α} (absent : f a = none) :
    ∀ as : List α, (as.filter fun b => !(b == a)).findSome? f = as.findSome? f
  | [] => rfl
  | b :: rest => by
    have ih := findSome?_filter_ne absent rest
    by_cases same : b = a
    · subst same
      simp [absent, ih]
    · simp [same, List.findSome?_cons, ih]

theorem findSome?_eraseDups (f : α → Option β) (as : List α) :
    as.eraseDups.findSome? f = as.findSome? f := by
  induction h : as.length using Nat.strong_induction_on generalizing as with
  | _ n ih =>
    cases as with
    | nil => rfl
    | cons a rest =>
      rw [List.eraseDups_cons, List.findSome?_cons, List.findSome?_cons]
      cases found : f a with
      | some b => rfl
      | none =>
        have shorter : (rest.filter fun b => !(b == a)).length < n := by
          have := List.length_filter_le (fun b => !(b == a)) rest
          simp only [List.length_cons] at h
          omega
        exact (ih _ shorter _ rfl).trans (findSome?_filter_ne found rest)

end FindSome

variable (py : Python)

/-- An attempt of the operation as the runtime stores it: started, or completed by evidence of
`execute` or of an exception, which names no resource. -/
inductive StoredAttempt (request : ProviderExecutionRequest) : ExecutionAttempt → Prop
  | started {operation : Operation} {attemptId : OpaqueId} {attemptNumber : Nat}
      {startedAt : UtcTimestamp} {key correlationId : Option String} {ids : List String}
      (known : GitHubAdapter.verificationResourceIds py request = .ok ids) :
      StoredAttempt request
        (buildStartedAttempt operation attemptId attemptNumber startedAt key ids correlationId)
  | executed {operation : Operation} {attemptId : OpaqueId} {attemptNumber : Nat}
      {startedAt completedAt : UtcTimestamp} {key correlationId : Option String}
      {ids : List String} {adapter : GitHubAdapter} {context : ProviderExecutionContext}
      {answers : Nat → (call : Call) → Reply call} {evidence : ExecutionEvidence}
      {completed : ExecutionAttempt}
      (known : GitHubAdapter.verificationResourceIds py request = .ok ids)
      (returned : ((adapter.execute py context request).run answers).outcome = .ok evidence)
      (built : buildCompletedAttempt
        (buildStartedAttempt operation attemptId attemptNumber startedAt key ids correlationId)
        evidence completedAt = .ok completed) : StoredAttempt request completed
  | raised {operation : Operation} {attemptId : OpaqueId} {attemptNumber : Nat}
      {startedAt completedAt : UtcTimestamp} {key correlationId : Option String}
      {ids : List String} {evidence : ExecutionEvidence} {completed : ExecutionAttempt}
      (known : GitHubAdapter.verificationResourceIds py request = .ok ids)
      (unnamed : evidence.externalResourceIds = [])
      (built : buildCompletedAttempt
        (buildStartedAttempt operation attemptId attemptNumber startedAt key ids correlationId)
        evidence completedAt = .ok completed) : StoredAttempt request completed

/-- The two places that build an `ORIGINAL_EFFECT` request from an attempt. -/
inductive BuiltFrom (operation : Operation) (attempt : ExecutionAttempt) :
    VerificationRequest → Prop
  | recovery (verificationId : OpaqueId) (requestedAt : UtcTimestamp) :
      BuiltFrom operation attempt
        (buildOriginalVerificationRequest operation (some attempt) verificationId requestedAt)
  | execution (verificationId : OpaqueId) (requestedAt : UtcTimestamp) :
      BuiltFrom operation attempt
        (executionRequest operation attempt verificationId requestedAt)

variable {py} {operation : Operation} {attempt : ExecutionAttempt}
  {request : VerificationRequest} {asked : ProviderExecutionRequest}

theorem BuiltFrom.fields (built : BuiltFrom operation attempt request) :
    request.target = .originalEffect ∧ request.effect = operation.intent.effect ∧
      request.externalResourceIds = attempt.externalResourceIds := by
  cases built <;> exact ⟨rfl, rfl, rfl⟩

/-- What a completed attempt is looked up by. -/
theorem completed_ids {started completed : ExecutionAttempt} {evidence : ExecutionEvidence}
    {completedAt : UtcTimestamp}
    (built : buildCompletedAttempt started evidence completedAt = .ok completed) :
    completed.externalResourceIds =
      (started.externalResourceIds ++ evidence.externalResourceIds).eraseDups := by
  unfold buildCompletedAttempt at built
  split at built <;> cases built
  rfl

/-- The ids of a stored attempt: what was known before, then what an execution gave. -/
theorem StoredAttempt.ids (stored : StoredAttempt py asked attempt) :
    ∃ targets given, GitHubAdapter.verificationResourceIds py asked = .ok targets ∧
      (∀ {β : Type} (f : String → Option β),
        attempt.externalResourceIds.findSome? f = (targets ++ given).findSome? f) ∧
      (given = [] ∨ given = targets ∨ ∃ data response, asked.arguments = .object data ∧
        Shown py data response asked.effect given) := by
  cases stored with
  | started known =>
    refine ⟨_, [], known, fun f => ?_, .inl rfl⟩
    rw [List.append_nil]
    rfl
  | raised known unnamed built =>
    refine ⟨_, [], known, fun f => ?_, .inl rfl⟩
    rw [completed_ids built, findSome?_eraseDups, unnamed]
    rfl
  | @executed _ _ _ _ _ _ _ ids adapter context _ evidence _ known returned built =>
    refine ⟨ids, evidence.externalResourceIds, known, fun f => ?_, ?_⟩
    · rw [completed_ids built, findSome?_eraseDups]
      rfl
    · have executed := Calling.of_returned returned (executes adapter context asked)
      generalize ((adapter.execute py context asked).run _).exchanges = sent at executed
      cases executed with
      | unsent _ carries => exact .inl carries.1
      | lost known' _ carries | refused _ known' _ _ carries =>
        cases known.symm.trans known'
        exact .inr (.inl carries.1)
      | applied _ arguments proves => exact .inr (.inr ⟨_, _, arguments, proves⟩)

/-! ## What a lookup proves -/

/-- The body is the object, lists it, or holds it among its items. -/
def Presents (py : Python) (body : ByteArray) (doc : Dict) : Prop :=
  Bears py body doc ∨ (∃ items, py.loads body = .value (.list items) ∧ .dict doc ∈ items) ∨
    ∃ whole items, Bears py body whole ∧ whole.get "items" = .list items ∧ .dict doc ∈ items

/-- The response shows the effect of the operation with these arguments and this marker. -/
inductive Confirms (py : Python) (marker : String) (data : Arguments) (exchange : Exchange)
    (response : GitHubHttpResponse) : EffectRef → Prop
  | issue {owner repo : String} {doc : Dict} {number : Int} {state : String}
      (named : Names data owner repo) (accepted : response.status = 200)
      (presents : Presents py response.body doc) (marked : carriesMarker marker doc = true)
      (shows_ : ShowsIssue py doc owner repo number state) :
      Confirms py marker data exchange response effectCreateIssue
  | comment {owner repo : String} {doc : Dict} {issueNumber commentId : Int}
      (named : Names data owner repo) (numbered : data.get "issue_number" = .int issueNumber)
      (accepted : response.status = 200) (presents : Presents py response.body doc)
      (marked : containsText marker (bodyText py doc) = true)
      (shows_ : ShowsComment py doc owner repo issueNumber commentId) :
      Confirms py marker data exchange response effectCreateIssueComment
  | label {owner repo label : String} {doc : Dict} {issueNumber : Int} {items : List Plain}
      {item : Plain} (named : Names data owner repo)
      (numbered : data.get "issue_number" = .int issueNumber)
      (labelled : data.get "label" = .str label)
      (asked : exchange.request.path = issuesApi owner repo issueNumber)
      (accepted : response.status = 200) (bears : Bears py response.body doc)
      (labels : doc.get "labels" = .list items) (among : item ∈ items)
      (present : item.field "name" = .str label) :
      Confirms py marker data exchange response effectAddLabel
  | pull {owner repo : String} {doc : Dict} {number : Int} {state headSha : String}
      (named : Names data owner repo) (accepted : response.status = 200)
      (presents : Presents py response.body doc)
      (marked : containsText marker (bodyText py doc) = true)
      (shows_ : ShowsPull py doc owner repo number state headSha) :
      Confirms py marker data exchange response effectCreatePullRequest
  | merge {owner repo expectedHead : String} {doc : Dict} {number : Int}
      {state headSha : String} (named : Names data owner repo)
      (numbered : data.get "pull_number" = .int number)
      (expected : data.get "head_sha" = .str expectedHead) (accepted : response.status = 200)
      (bears : Bears py response.body doc)
      (shows_ : ShowsPull py doc owner repo number state headSha)
      (sameHead : py.lower headSha = py.lower (py.lower expectedHead))
      (merged : doc.get "merged" = .bool true) :
      Confirms py marker data exchange response effectMergePullRequest

/-- The response shows that the label is absent, or the pull request not merged. -/
inductive Denies (py : Python) (data : Arguments) (exchange : Exchange)
    (response : GitHubHttpResponse) : EffectRef → Prop
  | label {owner repo label : String} {doc : Dict} {issueNumber : Int} {items : List Plain}
      (named : Names data owner repo) (numbered : data.get "issue_number" = .int issueNumber)
      (labelled : data.get "label" = .str label)
      (asked : exchange.request.path = issuesApi owner repo issueNumber)
      (accepted : response.status = 200) (bears : Bears py response.body doc)
      (labels : doc.get "labels" = .list items)
      (absent : ∀ item ∈ items, item.field "name" ≠ .str label) :
      Denies py data exchange response effectAddLabel
  | merge {owner repo : String} {doc : Dict} {number : Int} {state headSha : String}
      (named : Names data owner repo) (numbered : data.get "pull_number" = .int number)
      (accepted : response.status = 200) (bears : Bears py response.body doc)
      (shows_ : ShowsPull py doc owner repo number state headSha)
      (unmerged : doc.get "merged" = .bool false) :
      Denies py data exchange response effectMergePullRequest

structure HonestlyVerified (py : Python) (marker : String) (data : Arguments) (effect : EffectRef)
    (outcome : EffectOutcome) (sent : List Exchange) : Prop where
  applied : outcome = .applied →
    Answered (fun exchange response => Confirms py marker data exchange response effect) sent
  notApplied : outcome = .notApplied →
    Answered (fun exchange response => Denies py data exchange response effect) sent
  otherwise :
    ¬ Answered (fun exchange response => Confirms py marker data exchange response effect) sent →
    ¬ Answered (fun exchange response => Denies py data exchange response effect) sent →
    outcome = .unknown

section Honesty

variable {marker : String} {data : Arguments} {effect : EffectRef} {outcome : EffectOutcome}
  {sent : List Exchange} {exchange : Exchange} {response : GitHubHttpResponse}

theorem HonestlyVerified.of_unknown (unknown : outcome = .unknown) :
    HonestlyVerified py marker data effect outcome sent :=
  ⟨by simp [unknown], by simp [unknown], fun _ _ => unknown⟩

theorem HonestlyVerified.of_confirms (applied : outcome = .applied)
    (answered : exchange.answer = .ok response)
    (confirms : Confirms py marker data exchange response effect) :
    HonestlyVerified py marker data effect outcome [exchange] where
  applied _ := ⟨exchange, response, rfl, answered, confirms⟩
  notApplied notApplied := by simp [applied] at notApplied
  otherwise unproven _ := absurd ⟨exchange, response, rfl, answered, confirms⟩ unproven

theorem HonestlyVerified.of_denies (notApplied : outcome = .notApplied)
    (answered : exchange.answer = .ok response)
    (denies : Denies py data exchange response effect) :
    HonestlyVerified py marker data effect outcome [exchange] where
  applied applied := by simp [notApplied] at applied
  notApplied _ := ⟨exchange, response, rfl, answered, denies⟩
  otherwise _ standing := absurd ⟨exchange, response, rfl, answered, denies⟩ standing

end Honesty

/-! ## Rules for lookups -/

section Rules

variable {R : VerificationEvidence → List Exchange → Prop} {sent : List Exchange}

theorem learns_verificationError {kind : ErrorKind} {code status : String} {retryable : Bool}
    {http retryAfter : Option Int} {exceptionType : Option String}
    (rest : ∀ evidence, evidence.outcome = .unknown → R evidence sent) :
    Learns exchanged (returning R)
      (verificationError py kind code status retryable http retryAfter exceptionType) sent := by
  apply learns_evidence
  intro evidence _
  rw [learns_lift]
  intro error _
  rw [learns_pure]
  exact rest _ rfl

theorem learns_inconclusiveAbsence {response : GitHubHttpResponse}
    (rest : ∀ evidence, evidence.outcome = .unknown → R evidence sent) :
    Learns exchanged (returning R) (inconclusiveAbsence py response) sent := by
  apply learns_evidence
  intro evidence _
  rw [learns_lift]
  intro error _
  rw [learns_pure]
  exact rest _ rfl

theorem learns_verified {outcome : EffectOutcome} {source : EvidenceSource} {status : String}
    {requestId operationId : Option String} {ids : List String} {fields : JsonValue}
    {reference : String} (rest : ∀ evidence, evidence.outcome = outcome → R evidence sent) :
    Learns exchanged (returning R)
      (verified py outcome source status requestId operationId ids fields reference) sent := by
  apply learns_evidence
  intro evidence _
  rw [learns_pure]
  exact rest _ rfl

theorem learns_requestVerification {path : String}
    {read : GitHubHttpResponse → Calling VerificationEvidence}
    (unread : ∀ evidence exchange, evidence.outcome = .unknown →
      (∀ response, exchange.answer = .ok response → response.status ≠ 200) →
      R evidence [exchange])
    (reads : ∀ exchange response, exchange.request.path = path →
      exchange.answer = .ok response → response.status = 200 →
      Learns exchanged (returning R) (read response) [exchange]) :
    Learns exchanged (returning R) (requestVerification py path read) [] := by
  rw [requestVerification, learns_send]
  intro answer
  rw [List.nil_append]
  cases answer with
  | error typeName =>
    apply learns_verificationError
    intro evidence unknown
    refine unread evidence _ unknown fun response is => ?_
    cases is
  | ok response =>
    dsimp only
    split
    · rename_i failed
      apply learns_verificationError
      intro evidence unknown
      refine unread evidence _ unknown fun _ same => ?_
      cases same
      exact failed
    · rename_i accepted
      exact reads ⟨_, .ok response⟩ response rfl rfl (not_not.mp accepted)

end Rules

/-! ## Candidates -/

theorem eq_dict_of_dict? {plain : Plain} {doc : Dict} (object : plain.dict? = some doc) :
    plain = .dict doc := by
  cases plain <;> cases object
  rfl

theorem mem_of_dicts {docs : List Dict} {doc : Dict} : ∀ {items : List Plain},
    items.mapM Plain.dict? = some docs → doc ∈ docs → .dict doc ∈ items := by
  intro items
  induction items generalizing docs with
  | nil =>
    intro objects among
    cases objects
    cases among
  | cons item rest ih =>
    intro objects among
    rw [List.mapM_cons] at objects
    cases first : item.dict? with
    | none => simp [first] at objects
    | some head =>
      cases tail : rest.mapM Plain.dict? with
      | none => simp [first, tail] at objects
      | some others =>
        simp only [first, tail, bind, Option.bind, pure, Option.some.injEq] at objects
        subst objects
        cases List.mem_cons.mp among with
        | inl same =>
          rw [same, eq_dict_of_dict? first]
          exact List.mem_cons_self
        | inr among => exact List.mem_cons_of_mem _ (ih tail among)

theorem presents_of_candidate {single : Bool} {body : ByteArray} {candidates : List Dict}
    {doc : Dict} (read : candidatesOf py single body = .ok candidates) (among : doc ∈ candidates) :
    Presents py body doc := by
  unfold candidatesOf at read
  cases single with
  | true =>
    cases parsed : parseObject py body with
    | error e => simp [parsed, Except.map] at read
    | ok object =>
      simp only [parsed, Except.map, if_true, Except.ok.injEq] at read
      rw [← read, Option.mem_toList] at among
      exact .inl (parseObject_some (parsed.trans (by rw [among])))
  | false =>
    cases parsed : parseArray py body with
    | error e => simp [parsed, Except.map] at read
    | ok docs =>
      simp only [parsed, Except.map, Bool.false_eq_true, if_false, Except.ok.injEq] at read
      cases docs with
      | none =>
        rw [← read] at among
        cases among
      | some docs =>
        obtain ⟨items, listed, objects⟩ := parseArray_some parsed
        rw [← read] at among
        exact .inr (.inl ⟨items, listed, mem_of_dicts objects among⟩)

theorem findFirst_some {α β : Type} {f : α → Except AdapterRaised (Option β)} {found : β} :
    ∀ {items : List α}, findFirst f items = .ok (some found) →
      ∃ item ∈ items, f item = .ok (some found)
  | [], ended => by cases ended
  | item :: rest, ended => by
    rw [findFirst] at ended
    cases tried : f item with
    | error e => simp [tried, bind, Except.bind] at ended
    | ok result =>
      cases result with
      | some value =>
        simp only [tried, bind, Except.bind, pure, Except.pure, Except.ok.injEq,
          Option.some.injEq] at ended
        exact ⟨item, List.mem_cons_self, by rw [tried, ended]⟩
      | none =>
        simp only [tried, bind, Except.bind] at ended
        obtain ⟨other, among, found⟩ := findFirst_some ended
        exact ⟨other, List.mem_cons_of_mem _ among, found⟩

theorem findFirst_none {α β : Type} {f : α → Except AdapterRaised (Option β)} :
    ∀ {items : List α}, findFirst f items = .ok none → ∀ item ∈ items, f item = .ok none
  | [], _ => nofun
  | item :: rest, ended => by
    rw [findFirst] at ended
    cases tried : f item with
    | error e => simp [tried, bind, Except.bind] at ended
    | ok result =>
      cases result with
      | some value => simp [tried, bind, Except.bind, pure, Except.pure] at ended
      | none =>
        simp only [tried, bind, Except.bind] at ended
        intro other among
        cases List.mem_cons.mp among with
        | inl same => rw [same, tried]
        | inr among => exact findFirst_none ended other among

/-! ## One effect at a time -/

section Reads

variable {marker : String} {data : Arguments} {context : ProviderExecutionContext}
  {owner repo : String}

theorem verifyLabel_learns {number : Int} {label : String} (named : Names data owner repo)
    (numbered : data.get "issue_number" = .int number)
    (labelled : data.get "label" = .str label)
    (target : parseTargetResource py request.externalResourceIds "github:issue-target:" =
      some ⟨owner, repo, number⟩)
    (label_ : parsePrefixedResource request.externalResourceIds "github:label:" = some label) :
    Learns exchanged
      (returning fun evidence sent =>
        HonestlyVerified py marker data effectAddLabel evidence.outcome sent)
      (verifyLabel py request) [] := by
  rw [verifyLabel, target, label_]
  apply learns_requestVerification
  · exact fun _ _ unknown _ => .of_unknown unknown
  · intro exchange response asked answered accepted
    rw [readLabel, learns_lift]
    intro parsed read
    split
    · rename_i items labels
      cases parsed with
      | none => cases labels
      | some doc =>
        have bears := parseObject_some read
        apply learns_verified
        intro evidence outcome
        by_cases present : labelPresent label items = true
        · rw [if_pos present] at outcome
          obtain ⟨item, among, is⟩ := List.any_eq_true.mp present
          exact .of_confirms outcome answered (.label named numbered labelled asked accepted bears
            labels among (is_eq_true.mp is))
        · rw [if_neg present] at outcome
          refine .of_denies outcome answered (.label named numbered labelled asked accepted bears
            labels fun item among is => present ?_)
          exact List.any_eq_true.mpr ⟨item, among, is_eq_true.mpr is⟩
    · exact learns_verificationError fun _ unknown => .of_unknown unknown

theorem verifyMerge_learns {number : Int} {expectedHead : String} (named : Names data owner repo)
    (numbered : data.get "pull_number" = .int number)
    (expected : data.get "head_sha" = .str expectedHead)
    (target : parseTargetResource py request.externalResourceIds "github:pull:" =
      some ⟨owner, repo, number⟩)
    (head : parsePrefixedResource request.externalResourceIds "github:head-sha:" =
      some (py.lower expectedHead)) :
    Learns exchanged
      (returning fun evidence sent =>
        HonestlyVerified py marker data effectMergePullRequest evidence.outcome sent)
      (verifyMerge py request) [] := by
  rw [verifyMerge, target, head]
  apply learns_requestVerification
  · exact fun _ _ unknown _ => .of_unknown unknown
  · intro exchange response asked answered accepted
    rw [readMerge, learns_lift]
    intro parsed read
    rw [learns_lift]
    intro pull identified
    split
    · rename_i pull merged isMerged
      obtain ⟨doc, rfl, shows_, sameNumber, _⟩ := pullIdentity_some py identified
      rw [numberExpected_some.mp sameNumber] at shows_
      have bears := parseObject_some read
      split
      · exact learns_verificationError fun _ unknown => .of_unknown unknown
      · rename_i sameHead
        apply learns_verified
        intro evidence outcome
        cases merged with
        | true =>
          exact .of_confirms outcome answered (.merge named numbered expected accepted bears
            shows_ (not_not.mp sameHead) isMerged)
        | false =>
          exact .of_denies outcome answered (.merge named numbered accepted bears shows_ isMerged)
    · exact learns_verificationError fun _ unknown => .of_unknown unknown

theorem verifyComment_learns {number : Int} (named : Names data owner repo)
    (numbered : data.get "issue_number" = .int number)
    (target : parseTargetResource py request.externalResourceIds "github:issue-target:" =
      some ⟨owner, repo, number⟩) :
    Learns exchanged
      (returning fun evidence sent => HonestlyVerified py (operationMarker context) data
        effectCreateIssueComment evidence.outcome sent)
      (verifyComment py context request) [] := by
  have reads : ∀ single exchange response, exchange.answer = .ok response →
      response.status = 200 → Learns exchanged
        (returning fun evidence sent => HonestlyVerified py (operationMarker context) data
          effectCreateIssueComment evidence.outcome sent)
        (readComment py context ⟨owner, repo, number⟩ single response) [exchange] := by
    intro single exchange response answered accepted
    rw [readComment, learns_lift]
    intro candidates read
    split
    · exact learns_inconclusiveAbsence fun _ unknown => .of_unknown unknown
    · rename_i comment found
      obtain ⟨doc, among, marked⟩ := List.exists_of_findSome?_eq_some found
      obtain ⟨identified, carries⟩ := Option.filter_eq_some_iff.mp marked
      obtain ⟨_, ⟨⟩, shows_, _⟩ := commentIdentity_some py identified
      apply learns_verified
      intro evidence outcome
      exact .of_confirms outcome answered (.comment named numbered accepted
        (presents_of_candidate read among) carries shows_)
  rw [verifyComment, target]
  dsimp only
  split
  all_goals
    apply learns_requestVerification
    · exact fun _ _ unknown _ => .of_unknown unknown
    · exact fun exchange response _ answered accepted =>
        reads _ exchange response answered accepted

theorem verifyPull_learns {head base : String} {number : Option Int}
    (named : Names data owner repo) (original : request.target = .originalEffect)
    (target : pullVerificationTarget py request =
      some ⟨owner, repo, number, some head, some base⟩) :
    Learns exchanged
      (returning fun evidence sent => HonestlyVerified py (operationMarker context) data
        effectCreatePullRequest evidence.outcome sent)
      (verifyPull py context request) [] := by
  rw [verifyPull, target]
  apply learns_requestVerification
  · exact fun _ _ unknown _ => .of_unknown unknown
  · intro exchange response _ answered accepted
    rw [readPull, learns_lift]
    intro candidates read
    rw [learns_lift]
    intro seen searched
    split
    · exact learns_inconclusiveAbsence fun _ unknown => .of_unknown unknown
    · exact learns_verificationError fun _ unknown => .of_unknown unknown
    · rename_i pull
      obtain ⟨doc, among, turn⟩ := findFirst_some searched
      apply learns_verified
      intro evidence outcome
      unfold seenPull at turn
      cases identified : pullIdentity py (some doc) owner repo number with
      | error e =>
        rw [identified] at turn
        cases turn
      | ok identity =>
        rw [identified] at turn
        simp only [bind, Except.bind, pure, Except.pure, Except.ok.injEq] at turn
        split at turn
        · cases turn
        · split at turn
          · split at turn <;> cases turn
          · split at turn
            · rename_i marked
              cases turn
              obtain ⟨_, ⟨⟩, shows_, _⟩ := pullIdentity_some py identified
              have applied : evidence.outcome = .applied := by
                rw [outcome, markedOutcome, original]
                rfl
              exact .of_confirms applied answered
                (.pull named accepted (presents_of_candidate read among) marked shows_)
            · cases turn

end Reads

/-! ## Issues -/

/-- A search found a marked issue, wherever it says it is. -/
def FoundSomewhere (py : Python) (marker : String) (body : ByteArray) : Prop :=
  ∃ parsed, parseObject py body = .ok parsed ∧ ∃ doc ∈ markedCandidates none parsed,
    ∃ issue, markedIdentity py marker none doc = .ok (some issue)

/-- The response holds a marked issue of the repository. -/
def FoundIn (py : Python) (marker : String) (body : ByteArray) (owner repo : String) : Prop :=
  ∃ doc number state, Presents py body doc ∧ carriesMarker marker doc = true ∧
    ShowsIssue py doc owner repo number state

/-- What is found anywhere is found in the repository too. -/
def SearchesOwn (py : Python) (marker owner repo : String) (sent : List Exchange) : Prop :=
  ∀ exchange ∈ sent, ∀ response, exchange.answer = .ok response → response.status = 200 →
    FoundSomewhere py marker response.body → FoundIn py marker response.body owner repo

section Issues

variable {data : Arguments} {context : ProviderExecutionContext} {owner repo marker : String}

theorem markedIdentity_some {resource : Option IssueResource} {doc : Dict}
    {issue : IssueIdentity} (found : markedIdentity py marker resource doc = .ok (some issue)) :
    carriesMarker marker doc = true ∧
      ∀ own, resource = some own →
        ShowsIssue py doc own.owner own.repo issue.number issue.state := by
  unfold markedIdentity at found
  split at found
  case isFalse => cases found
  case isTrue marked =>
    refine ⟨marked, ?_⟩
    rintro own rfl
    obtain ⟨_, ⟨⟩, shows_, _⟩ := issueIdentity_some py found
    exact shows_

theorem Confirms.foundIn {exchange : Exchange} {response : GitHubHttpResponse}
    (named : Names data owner repo)
    (confirms : Confirms py marker data exchange response effectCreateIssue) :
    FoundIn py marker response.body owner repo := by
  generalize is : effectCreateIssue = effect at confirms
  cases confirms with
  | issue again _ presents marked shows_ =>
    obtain ⟨rfl, rfl⟩ := named.unique again
    exact ⟨_, _, _, presents, marked, shows_⟩
  | comment | label | pull | merge => exact absurd is (by decide)

theorem FoundIn.confirms {exchange : Exchange} {response : GitHubHttpResponse}
    (found : FoundIn py marker response.body owner repo) (named : Names data owner repo)
    (accepted : response.status = 200) :
    Confirms py marker data exchange response effectCreateIssue := by
  obtain ⟨doc, number, state, presents, marked, shows_⟩ := found
  exact .issue named accepted presents marked shows_

/-- A known issue is looked up where it is. -/
theorem verifyCreateIssue_direct {number : Int} (named : Names data owner repo)
    (original : request.target = .originalEffect)
    (known : firstIssueResource py request.externalResourceIds = some ⟨owner, repo, number⟩) :
    Learns exchanged
      (returning fun evidence sent => HonestlyVerified py (operationMarker context) data
        effectCreateIssue evidence.outcome sent)
      (verifyCreateIssue py context request) [] := by
  rw [verifyCreateIssue, known]
  apply learns_requestVerification
  · exact fun _ _ unknown _ => .of_unknown unknown
  · intro exchange response _ answered accepted
    rw [readCreateIssue, learns_lift]
    intro parsed read
    rw [learns_lift]
    intro direct _
    split
    · exact learns_verificationError fun _ unknown => .of_unknown unknown
    · rw [learns_lift]
      intro found searched
      split
      · exact learns_inconclusiveAbsence fun _ unknown => .of_unknown unknown
      · rename_i issue
        rw [findMarkedIssue, read] at searched
        obtain ⟨doc, among, turn⟩ := findFirst_some searched
        cases parsed with
        | none => cases among
        | some object =>
          rw [markedCandidates, List.mem_singleton] at among
          subst among
          obtain ⟨marked, own⟩ := markedIdentity_some turn
          apply learns_verified
          intro evidence outcome
          have applied : evidence.outcome = .applied := by
            rw [outcome, markedOutcome, original]
            rfl
          exact .of_confirms applied answered (.issue named accepted
            (.inl (parseObject_some read)) marked (own _ rfl))

/-- An unknown issue is searched for everywhere. -/
theorem verifyCreateIssue_search (named : Names data owner repo)
    (original : request.target = .originalEffect)
    (unknown : firstIssueResource py request.externalResourceIds = none) :
    Learns exchanged
      (returning fun evidence sent =>
        HonestlyVerified py (operationMarker context) data effectCreateIssue evidence.outcome sent ↔
          SearchesOwn py (operationMarker context) owner repo sent)
      (verifyCreateIssue py context request) [] := by
  rw [verifyCreateIssue, unknown]
  apply learns_requestVerification
  · intro evidence exchange outcome failed
    refine ⟨fun _ => ?_, fun _ => .of_unknown outcome⟩
    intro other among response answered accepted
    rw [List.mem_singleton] at among
    subst among
    exact absurd accepted (failed response answered)
  · intro exchange response _ answered accepted
    rw [readCreateIssue, learns_lift]
    intro parsed read
    rw [learns_lift]
    intro direct identified
    cases identified
    rw [if_neg (by decide), learns_lift]
    intro found searched
    rw [findMarkedIssue, read] at searched
    have only : SearchesOwn py (operationMarker context) owner repo [exchange] ↔
        (FoundSomewhere py (operationMarker context) response.body →
          FoundIn py (operationMarker context) response.body owner repo) := by
      constructor
      · exact fun own => own exchange (List.mem_singleton_self _) response answered accepted
      · intro own other among again answered' _
        rw [List.mem_singleton] at among
        subst among
        cases answered.symm.trans answered'
        exact own
    split
    · apply learns_inconclusiveAbsence
      intro evidence outcome
      refine ⟨fun _ => only.mpr ?_, fun _ => .of_unknown outcome⟩
      rintro ⟨again, read', doc, among, issue, found⟩
      cases read.symm.trans read'
      have := findFirst_none searched doc among
      rw [this] at found
      cases found
    · rename_i issue
      obtain ⟨doc, among, turn⟩ := findFirst_some searched
      apply learns_verified
      intro evidence outcome
      have applied : evidence.outcome = .applied := by
        rw [outcome, markedOutcome, original]
        rfl
      rw [only]
      constructor
      · intro honest _
        obtain ⟨other, response', same, answered', confirms⟩ := honest.applied applied
        cases same
        cases answered.symm.trans answered'
        exact confirms.foundIn named
      · intro own
        have foundIn := own ⟨parsed, read, doc, among, issue, turn⟩
        exact .of_confirms applied answered (foundIn.confirms named accepted)

end Issues

/-! ## What the ids say -/

section Ids

variable {targets given : List String} {owner repo : String} {n : Int}

theorem parseResource_own (reads : ReadsIntegers py) (plain : '/' ∉ owner.toList)
    (owned : owner ≠ "") (named : repo ≠ "") (n : Int) :
    parseResource py (resourceName owner repo n) =
      if 1 ≤ n then some ⟨owner, repo, n⟩ else none := by
  obtain ⟨repoRead, sameRepo, parsed⟩ := parseResource_resourceName reads owner named
  have read := ownerRead_eq_self.mpr plain
  rw [parsed, read, sameRepo read]
  simp [owned]

theorem withoutStart_issueTarget :
    withoutStart "github:issue-target:" (issueTarget owner repo n) =
      some (resourceName owner repo n) := withoutStart_append _ _

theorem withoutStart_eq_none {start text : String} (differs : ∀ rest, text ≠ start ++ rest) :
    withoutStart start text = none := by
  rw [Option.eq_none_iff_forall_ne_some]
  exact fun rest found => differs rest (eq_of_withoutStart found)

/-- An issue is no label. -/
theorem withoutStart_label_issueTarget :
    withoutStart "github:label:" (issueTarget owner repo n) = none := by
  apply withoutStart_eq_none
  unfold issueTarget
  generalize resourceName owner repo n = name
  intro rest same
  have lists := String.toList_inj.mpr same
  simp at lists

/-- A pull request is no commit. -/
theorem withoutStart_headSha_pullTarget :
    withoutStart "github:head-sha:" (pullTarget owner repo n) = none := by
  apply withoutStart_eq_none
  unfold pullTarget
  generalize resourceName owner repo n = name
  intro rest same
  have lists := String.toList_inj.mpr same
  simp at lists

theorem parsePrefixedResource_pullTargets {head base : String} {rest : List String} :
    parsePrefixedResource (GitHubAdapter.pullTargets owner repo head base ++ rest)
        "github:head-ref:" = some head ∧
      parsePrefixedResource (GitHubAdapter.pullTargets owner repo head base ++ rest)
        "github:base-ref:" = some base ∧
      parsePrefixedResource (GitHubAdapter.pullTargets owner repo head base ++ rest)
        "github:repository:" = some (owner ++ "/" ++ repo) ∧
      parsePrefixedResource (GitHubAdapter.pullTargets owner repo head base ++ rest)
        "github:pull:" = parsePrefixedResource rest "github:pull:" := by
  have repository : "github:repository:" ++ owner ++ "/" ++ repo =
      "github:repository:" ++ (owner ++ "/" ++ repo) := by
    simp [String.append_assoc]
  simp only [GitHubAdapter.pullTargets, repository, List.cons_append, List.nil_append,
    parsePrefixedResource_cons, withoutStart_append]
  simp [withoutStart, List.dropPrefix?]

theorem pullTarget_of_ids {rest : List String} {head base : String}
    (reads : ReadsIntegers py) (plain : '/' ∉ owner.toList) (owned : owner ≠ "")
    (nonempty : repo ≠ "")
    (found : ∀ {β : Type} (f : String → Option β), request.externalResourceIds.findSome? f =
      (GitHubAdapter.pullTargets owner repo head base ++ rest).findSome? f)
    (pulls : parsePrefixedResource rest "github:pull:" = none ∨
      ∃ n, parsePrefixedResource rest "github:pull:" = some (resourceName owner repo n)) :
    ∃ number, pullVerificationTarget py request =
      some ⟨owner, repo, number, some head, some base⟩ := by
  have looked : ∀ start, parsePrefixedResource request.externalResourceIds start =
      parsePrefixedResource (GitHubAdapter.pullTargets owner repo head base ++ rest) start :=
    fun start => found (withoutStart start)
  obtain ⟨heads, bases, repositories, numbers⟩ :=
    @parsePrefixedResource_pullTargets owner repo head base rest
  have slash : (owner ++ "/" ++ repo).toList = owner.toList ++ '/' :: repo.toList := by simp
  have listed : parseTargetResource py request.externalResourceIds "github:pull:" = none →
      pullVerificationTarget py request = some ⟨owner, repo, none, some head, some base⟩ := by
    intro unknown
    simp only [pullVerificationTarget, unknown]
    rw [looked, looked, looked, heads, bases, repositories, Option.bind_some, slash,
      Cut.cut_append plain]
    simp
  cases pulls with
  | inl absent =>
    refine ⟨none, listed ?_⟩
    rw [parseTargetResource, looked, numbers, absent]
    rfl
  | inr present =>
    obtain ⟨n, present⟩ := present
    have target : parseTargetResource py request.externalResourceIds "github:pull:" =
        if 1 ≤ n then some ⟨owner, repo, n⟩ else none := by
      rw [parseTargetResource, looked, numbers, present, Option.bind_some,
        parseResource_own reads plain owned nonempty]
    by_cases positive : 1 ≤ n
    · rw [if_pos positive] at target
      refine ⟨some n, ?_⟩
      rw [pullVerificationTarget, target, looked, looked, heads, bases]
    · rw [if_neg positive] at target
      exact ⟨none, listed target⟩

end Ids

/-! ## Every lookup -/

section Lookups

variable {data : Arguments} {context : ProviderExecutionContext} {owner repo : String}
  {number : Int}

theorem known_issue (named : Names data owner repo) :
    GitHubAdapter.verificationResourceIds py ⟨effectCreateIssue, .object data⟩ = .ok [] := by
  have supported : effectCreateIssue ∈ githubEffects := by decide
  rw [verificationResourceIds_of supported rfl named, if_pos rfl]
  rfl

theorem known_comment (named : Names data owner repo)
    (numbered : data.get "issue_number" = .int number) :
    GitHubAdapter.verificationResourceIds py ⟨effectCreateIssueComment, .object data⟩ =
      .ok [issueTarget owner repo number] := by
  have supported : effectCreateIssueComment ∈ githubEffects := by decide
  rw [verificationResourceIds_of supported rfl named]
  dsimp only
  rw [if_neg (by decide), if_pos rfl,
    requiredInt_ok.mpr numbered]
  rfl

theorem known_label {label : String} (named : Names data owner repo)
    (numbered : data.get "issue_number" = .int number)
    (labelled : data.get "label" = .str label) :
    GitHubAdapter.verificationResourceIds py ⟨effectAddLabel, .object data⟩ =
      .ok [issueTarget owner repo number, "github:label:" ++ label] := by
  have supported : effectAddLabel ∈ githubEffects := by decide
  rw [verificationResourceIds_of supported rfl named]
  dsimp only
  rw [if_neg (by decide), if_neg (by decide),
    if_pos rfl, requiredInt_ok.mpr numbered, requiredStr_ok.mpr labelled]
  rfl

theorem known_pull {head base : String} (named : Names data owner repo)
    (from_ : data.get "head" = .str head) (into : data.get "base" = .str base) :
    GitHubAdapter.verificationResourceIds py ⟨effectCreatePullRequest, .object data⟩ =
      .ok (GitHubAdapter.pullTargets owner repo head base) := by
  have supported : effectCreatePullRequest ∈ githubEffects := by decide
  rw [verificationResourceIds_of supported rfl named]
  dsimp only
  rw [if_neg (by decide), if_neg (by decide),
    if_neg (by decide), if_pos rfl, requiredStr_ok.mpr from_, requiredStr_ok.mpr into]
  rfl

theorem known_merge {headSha : String} (named : Names data owner repo)
    (numbered : data.get "pull_number" = .int number)
    (expected : data.get "head_sha" = .str headSha) :
    GitHubAdapter.verificationResourceIds py ⟨effectMergePullRequest, .object data⟩ =
      .ok [pullTarget owner repo number, "github:head-sha:" ++ py.lower headSha] := by
  have supported : effectMergePullRequest ∈ githubEffects := by decide
  rw [verificationResourceIds_of supported rfl named]
  dsimp only
  rw [if_neg (by decide), if_neg (by decide),
    if_neg (by decide), if_neg (by decide), requiredInt_ok.mpr numbered,
    requiredStr_ok.mpr expected]
  rfl

/-- The targets known before the request come first. -/
theorem StoredAttempt.found {targets : List String} (stored : StoredAttempt py asked attempt)
    (known : GitHubAdapter.verificationResourceIds py asked = .ok targets)
    (ids : request.externalResourceIds = attempt.externalResourceIds) :
    ∃ given, (∀ {β : Type} (f : String → Option β),
        request.externalResourceIds.findSome? f = (targets ++ given).findSome? f) ∧
      (given = [] ∨ given = targets ∨ ∃ data response, asked.arguments = .object data ∧
        Shown py data response asked.effect given) := by
  obtain ⟨_, given, known', finds, given_⟩ := stored.ids
  cases known.symm.trans known'
  exact ⟨given, fun f => ids ▸ finds f, given_⟩

/-- The label looked for is the one asked for. -/
theorem label_stored {label : String} (named : Names data owner repo)
    (ids : request.externalResourceIds = attempt.externalResourceIds)
    (numbered : data.get "issue_number" = .int number)
    (labelled : data.get "label" = .str label)
    (stored : StoredAttempt py ⟨effectAddLabel, .object data⟩ attempt) :
    parsePrefixedResource request.externalResourceIds "github:label:" = some label := by
  obtain ⟨given, finds, -⟩ := stored.found (known_label named numbered labelled) ids
  rw [parsePrefixedResource, finds, ← parsePrefixedResource, List.cons_append, List.cons_append,
    parsePrefixedResource_cons, parsePrefixedResource_cons, withoutStart_label_issueTarget,
    Option.none_or, withoutStart_append, Option.some_or]

/-- The commit expected is the one asked for, in lower case. -/
theorem head_stored {headSha : String} (named : Names data owner repo)
    (ids : request.externalResourceIds = attempt.externalResourceIds)
    (numbered : data.get "pull_number" = .int number)
    (expected : data.get "head_sha" = .str headSha)
    (stored : StoredAttempt py ⟨effectMergePullRequest, .object data⟩ attempt) :
    parsePrefixedResource request.externalResourceIds "github:head-sha:" =
      some (py.lower headSha) := by
  obtain ⟨given, finds, -⟩ := stored.found (known_merge named numbered expected) ids
  rw [parsePrefixedResource, finds, ← parsePrefixedResource, List.cons_append, List.cons_append,
    parsePrefixedResource_cons, parsePrefixedResource_cons, withoutStart_headSha_pullTarget,
    Option.none_or, withoutStart_append, Option.some_or]

variable (reads : ReadsIntegers py) (named : Names data owner repo)
  (plain : '/' ∉ owner.toList) (owned : owner ≠ "") (nonempty : repo ≠ "")
  (ids : request.externalResourceIds = attempt.externalResourceIds)

include reads named plain owned nonempty ids

theorem verifyComment_stored
    (valid : validateArguments effectCreateIssueComment (.object data) = none)
    (stored : StoredAttempt py ⟨effectCreateIssueComment, .object data⟩ attempt) :
    Learns exchanged
      (returning fun evidence sent => HonestlyVerified py (operationMarker context) data
        effectCreateIssueComment evidence.outcome sent)
      (verifyComment py context request) [] := by
  have issueNumbered : numberField effectCreateIssueComment = "issue_number" := by decide
  obtain ⟨n, numbered, positive⟩ := number_of_valid valid rfl issueNumbered (by decide)
  obtain ⟨given, finds, -⟩ := stored.found (known_comment named numbered) ids
  apply verifyComment_learns named numbered
  rw [parseTargetResource, parsePrefixedResource, finds, ← parsePrefixedResource,
    List.cons_append, parsePrefixedResource_cons, withoutStart_issueTarget, Option.some_or,
    Option.bind_some, parseResource_own reads plain owned nonempty, if_pos positive]

theorem verifyLabel_stored {marker : String}
    (valid : validateArguments effectAddLabel (.object data) = none)
    (stored : StoredAttempt py ⟨effectAddLabel, .object data⟩ attempt) :
    Learns exchanged
      (returning fun evidence sent => HonestlyVerified py marker data effectAddLabel
        evidence.outcome sent)
      (verifyLabel py request) [] := by
  have issueNumbered : numberField effectAddLabel = "issue_number" := by decide
  obtain ⟨n, numbered, positive⟩ := number_of_valid valid rfl issueNumbered (by decide)
  obtain ⟨label, labelled⟩ := eq_str_of_filledText
    (filledText_of_valid valid rfl (by decide : "label" ∈ ["owner", "repo", "label"]))
  obtain ⟨given, finds, -⟩ := stored.found (known_label named numbered labelled) ids
  apply verifyLabel_learns named numbered labelled
  · rw [parseTargetResource, parsePrefixedResource, finds, ← parsePrefixedResource,
      List.cons_append, parsePrefixedResource_cons, withoutStart_issueTarget, Option.some_or,
      Option.bind_some, parseResource_own reads plain owned nonempty, if_pos positive]
  · exact label_stored named ids numbered labelled stored

theorem verifyMerge_stored {marker : String}
    (valid : validateArguments effectMergePullRequest (.object data) = none)
    (stored : StoredAttempt py ⟨effectMergePullRequest, .object data⟩ attempt) :
    Learns exchanged
      (returning fun evidence sent => HonestlyVerified py marker data effectMergePullRequest
        evidence.outcome sent)
      (verifyMerge py request) [] := by
  have pullNumbered : numberField effectMergePullRequest = "pull_number" := by decide
  obtain ⟨n, numbered, positive⟩ := number_of_valid valid rfl pullNumbered (by decide)
  obtain ⟨headSha, expected⟩ := eq_str_of_filledText
    (filledText_of_valid valid rfl (by decide : "head_sha" ∈ ["owner", "repo", "head_sha"]))
  obtain ⟨given, finds, -⟩ := stored.found (known_merge named numbered expected) ids
  apply verifyMerge_learns named numbered expected
  · rw [parseTargetResource, parsePrefixedResource, finds, ← parsePrefixedResource,
      List.cons_append, parsePrefixedResource_cons, pullTarget, withoutStart_append,
      Option.some_or, Option.bind_some, parseResource_own reads plain owned nonempty,
      if_pos positive]
  · exact head_stored named ids numbered expected stored

theorem verifyPull_stored (original : request.target = .originalEffect)
    (valid : validateArguments effectCreatePullRequest (.object data) = none)
    (stored : StoredAttempt py ⟨effectCreatePullRequest, .object data⟩ attempt) :
    Learns exchanged
      (returning fun evidence sent => HonestlyVerified py (operationMarker context) data
        effectCreatePullRequest evidence.outcome sent)
      (verifyPull py context request) [] := by
  have filled : ∀ field ∈ ["owner", "repo", "head", "base", "title"],
      filledText (data.get field) = true :=
    fun field among => filledText_of_valid valid rfl among
  obtain ⟨head, from_⟩ := eq_str_of_filledText (filled "head" (by simp))
  obtain ⟨base, into⟩ := eq_str_of_filledText (filled "base" (by simp))
  obtain ⟨given, finds, shapes⟩ := stored.found (known_pull named from_ into) ids
  have pulls : parsePrefixedResource given "github:pull:" = none ∨
      ∃ n, parsePrefixedResource given "github:pull:" = some (resourceName owner repo n) := by
    have silent : parsePrefixedResource (GitHubAdapter.pullTargets owner repo head base)
        "github:pull:" = none := by
      have found := (@parsePrefixedResource_pullTargets owner repo head base []).2.2.2
      rwa [List.append_nil] at found
    obtain rfl | rfl | ⟨_, response, arguments, shown⟩ := shapes
    · exact .inl rfl
    · exact .inl silent
    · cases arguments
      obtain ⟨_, _, head', base', doc, number, state, headSha, again, from', into', created,
        bears, shows_, rfl⟩ := shown.of_createPullRequest rfl
      obtain ⟨rfl, rfl⟩ := named.unique again
      right
      refine ⟨number, ?_⟩
      rw [parsePrefixedResource_pullTargets.2.2.2, parsePrefixedResource_cons, pullTarget,
        withoutStart_append, Option.some_or]
  obtain ⟨number, target⟩ := pullTarget_of_ids reads plain owned nonempty finds pulls
  exact verifyPull_learns named original target

/-- The number of an issue is known only from an execution that was told of it. -/
theorem firstIssueResource_stored
    (stored : StoredAttempt py ⟨effectCreateIssue, .object data⟩ attempt) {issue : IssueResource}
    (known : firstIssueResource py request.externalResourceIds = some issue) :
    issue.owner = owner ∧ issue.repo = repo := by
  obtain ⟨given, finds, shapes⟩ := stored.found (known_issue named) ids
  rw [firstIssueResource, finds, List.nil_append] at known
  obtain rfl | rfl | ⟨_, response, arguments, shown⟩ := shapes
  · cases known
  · cases known
  · cases arguments
    obtain ⟨_, _, doc, number, state, again, created, bears, shows_, rfl⟩ :=
      shown.of_createIssue rfl
    obtain ⟨rfl, rfl⟩ := named.unique again
    rw [List.findSome?_cons, parseResource_own reads plain owned nonempty] at known
    by_cases positive : 1 ≤ number
    · rw [if_pos positive] at known
      cases known
      exact ⟨rfl, rfl⟩
    · rw [if_neg positive] at known
      cases known

end Lookups

/-! ## Honest unless a search went astray -/

/-- An effect other than a new issue is looked up where its ids say. -/
theorem verify_known (reads : ReadsIntegers py) (adapter : GitHubAdapter)
    (context : ProviderExecutionContext) {data : Arguments} {owner repo : String}
    (supported : request.effect ∈ githubEffects)
    (valid : validateArguments request.effect (.object data) = none)
    (named : Names data owner repo) (plain : '/' ∉ owner.toList) (owned : owner ≠ "")
    (nonempty : repo ≠ "")
    (stored : StoredAttempt py ⟨request.effect, .object data⟩ attempt)
    (original : request.target = .originalEffect)
    (ids : request.externalResourceIds = attempt.externalResourceIds)
    (configured : adapter.credentialConfigured = true)
    (known : request.effect ≠ effectCreateIssue) :
    Learns exchanged
      (returning fun evidence sent => HonestlyVerified py (operationMarker context) data
        request.effect evidence.outcome sent) (adapter.verify py context request) [] := by
  rw [GitHubAdapter.verify, if_neg (not_not.mpr supported), if_neg (by simpa using configured),
    if_neg known]
  by_cases comment : request.effect = effectCreateIssueComment
  · rw [if_pos comment]
    rw [comment] at stored valid ⊢
    exact verifyComment_stored reads named plain owned nonempty ids valid stored
  rw [if_neg comment]
  by_cases label : request.effect = effectAddLabel
  · rw [if_pos label]
    rw [label] at stored valid ⊢
    exact verifyLabel_stored reads named plain owned nonempty ids valid stored
  rw [if_neg label]
  by_cases pull : request.effect = effectCreatePullRequest
  · rw [if_pos pull]
    rw [pull] at stored valid ⊢
    exact verifyPull_stored reads named plain owned nonempty ids original valid stored
  rw [if_neg pull]
  have merge : request.effect = effectMergePullRequest := by
    simpa [githubEffects, known, comment, label, pull] using supported
  rw [merge] at stored valid ⊢
  exact verifyMerge_stored reads named plain owned nonempty ids valid stored

/-- Either what is looked up is the operation's own, or a search decides. -/
theorem verify_learns (reads : ReadsIntegers py) (adapter : GitHubAdapter)
    (context : ProviderExecutionContext) {data : Arguments} {owner repo : String}
    (supported : request.effect ∈ githubEffects)
    (valid : validateArguments request.effect (.object data) = none)
    (named : Names data owner repo) (plain : '/' ∉ owner.toList)
    (stored : StoredAttempt py ⟨request.effect, .object data⟩ attempt)
    (original : request.target = .originalEffect)
    (ids : request.externalResourceIds = attempt.externalResourceIds) :
    Learns exchanged
      (returning fun evidence sent =>
        HonestlyVerified py (operationMarker context) data request.effect evidence.outcome sent ↔
          (request.effect = effectCreateIssue →
            firstIssueResource py request.externalResourceIds = none →
              SearchesOwn py (operationMarker context) owner repo sent))
      (adapter.verify py context request) [] := by
  have owned : owner ≠ "" :=
    ne_empty_of_filledText (named.1 ▸ named_of_valid supported valid (by decide))
  have nonempty : repo ≠ "" :=
    ne_empty_of_filledText (named.2 ▸ named_of_valid supported valid (by decide))
  by_cases configured : adapter.credentialConfigured = true
  case neg =>
    rw [GitHubAdapter.verify, if_neg (not_not.mpr supported),
      if_pos (by simpa using configured)]
    apply learns_verificationError
    intro evidence unknown
    exact iff_of_true (.of_unknown unknown) fun _ _ => List.forall_mem_nil _
  by_cases issue : request.effect = effectCreateIssue
  case neg =>
    apply (verify_known reads adapter context supported valid named plain owned nonempty stored
      original ids configured issue).mono
    intro outcome sent honest
    cases outcome with
    | error e => trivial
    | ok evidence => exact iff_of_true honest fun is _ => absurd is issue
  rw [GitHubAdapter.verify, if_neg (not_not.mpr supported), if_neg (by simpa using configured),
    if_pos issue]
  cases known : firstIssueResource py request.externalResourceIds with
  | none =>
    have searched := @verifyCreateIssue_search _ _ _ context _ _ named original known
    simpa [issue] using searched
  | some own =>
    rw [issue] at stored
    obtain ⟨rfl, rfl⟩ := firstIssueResource_stored reads named plain owned nonempty ids stored
      known
    apply (verifyCreateIssue_direct named original known).mono
    intro outcome sent honest
    cases outcome with
    | error e => trivial
    | ok evidence =>
      rw [← issue] at honest
      refine iff_of_true honest fun _ unknown => ?_
      cases unknown

/-- A value of secret-free arguments is no secret. -/
theorem plain_of_clean {lower : String → String} {data : Arguments} {field value : String}
    (clean : secretFree lower (.object data) = true) (given : data.get field = .str value) :
    valueIsForbidden lower value = false := by
  have among : (field, JsonValue.str value) ∈ data := by
    unfold Arguments.get at given
    cases found : data.lookup field with
    | none => simp [found] at given
    | some stored =>
      rw [found, Option.getD_some] at given
      obtain ⟨before, after, rfl, -⟩ := List.lookup_eq_some_iff.mp (found.trans (by rw [given]))
      simp
  have free := (secretFreeFields_iff.mp clean _ among).2
  simpa [secretFree] using free

/-- Neither the label nor the commit that `verify` records is a secret. -/
theorem verify_answers_stored (lowers : LowersAscii py.lower) (adapter : GitHubAdapter)
    (context : ProviderExecutionContext) {data : Arguments} {owner repo : String}
    (supported : request.effect ∈ githubEffects)
    (valid : validateArguments request.effect (.object data) = none)
    (clean : secretFree py.lower (.object data) = true) (named : Names data owner repo)
    (stored : StoredAttempt py ⟨request.effect, .object data⟩ attempt)
    (ids : request.externalResourceIds = attempt.externalResourceIds) :
    Learns exchanged (Answers (Raising py (operationMarker context) request))
      (adapter.verify py context request) [] := by
  apply verify_answers lowers adapter supported
  · intro added label found
    rw [added] at stored valid
    obtain ⟨n, numbered, -⟩ := number_of_valid valid rfl
      (by decide : numberField effectAddLabel = "issue_number") (by decide)
    obtain ⟨own, labelled⟩ := eq_str_of_filledText
      (filledText_of_valid valid rfl (by decide : "label" ∈ ["owner", "repo", "label"]))
    cases found.symm.trans (label_stored named ids numbered labelled stored)
    exact plain_of_clean clean labelled
  · intro merge head found
    rw [merge] at stored valid
    obtain ⟨n, numbered, -⟩ := number_of_valid valid rfl
      (by decide : numberField effectMergePullRequest = "pull_number") (by decide)
    obtain ⟨own, expected⟩ := eq_str_of_filledText
      (filledText_of_valid valid rfl (by decide : "head_sha" ∈ ["owner", "repo", "head_sha"]))
    cases found.symm.trans (head_stored named ids numbered expected stored)
    obtain ⟨lower, hex⟩ := lower_hex lowers (hex_of_valid valid rfl rfl expected)
    exact hex_plain lowers (lower ▸ hex)

/-- `verify` answers, and tells no more than the response shows, unless the response raises or an
issue searched for was found in another repository only. -/
theorem verify_honest_iff (reads : ReadsIntegers py) (lowers : LowersAscii py.lower)
    (adapter : GitHubAdapter) (context : ProviderExecutionContext)
    (answers : Nat → (call : Call) → Reply call) {data : Arguments} {owner repo : String}
    (supported : operation.intent.effect ∈ githubEffects)
    (valid : validateArguments operation.intent.effect (.object data) = none)
    (clean : secretFree py.lower (.object data) = true)
    (named : Names data owner repo) (plain : '/' ∉ owner.toList)
    (stored : StoredAttempt py ⟨operation.intent.effect, .object data⟩ attempt)
    (built : BuiltFrom operation attempt request) :
    (∃ evidence, ((adapter.verify py context request).run answers).outcome = .ok evidence ∧
      HonestlyVerified py (operationMarker context) data operation.intent.effect
        evidence.outcome ((adapter.verify py context request).run answers).exchanges) ↔
      (∀ exchange ∈ ((adapter.verify py context request).run answers).exchanges,
        ¬ Raising py (operationMarker context) request exchange) ∧
      (operation.intent.effect = effectCreateIssue →
        firstIssueResource py request.externalResourceIds = none →
          SearchesOwn py (operationMarker context) owner repo
            ((adapter.verify py context request).run answers).exchanges) := by
  obtain ⟨original, about, ids⟩ := built.fields
  rw [← about] at supported valid stored ⊢
  have answered : Answers (Raising py (operationMarker context) request)
      ((adapter.verify py context request).run answers).outcome
      ((adapter.verify py context request).run answers).exchanges :=
    (verify_answers_stored lowers adapter context supported valid clean named stored ids).alone
      answers 0 ()
  have learned := verify_learns reads adapter context supported valid named plain stored original
    ids
  cases returned : ((adapter.verify py context request).run answers).outcome with
  | error e =>
    rw [returned] at answered
    obtain ⟨exchange, among, raises⟩ := answered
    refine iff_of_false ?_ fun condition => condition.1 exchange among raises
    rintro ⟨_, ⟨⟩, _⟩
  | ok evidence =>
    rw [returned] at answered
    have honest := Calling.of_returned returned learned
    constructor
    · rintro ⟨_, ⟨⟩, told⟩
      exact ⟨answered, honest.mp told⟩
    · rintro ⟨_, own⟩
      exact ⟨evidence, rfl, honest.mpr own⟩

/-! ## An issue in another repository -/

def sampleIssue : Arguments :=
  [("owner", .str "acme"), ("repo", .str "app"), ("title", .str "Fix")]

def issueOperation : Operation where
  contractVersion := contractVersion
  operationId := idOf "op"
  state := .unknown
  version := 4
  intent :=
    { effect := effectCreateIssue
      argumentsMode := .inline
      arguments := some (.object sampleIssue)
      argumentsRef := none
      canonicalArgumentsHash :=
        "ded8f5c880d39f35b9fd3f99331b84ca022181a6f07d2d141a4c60fc1dd82892"
      intentDigest := "52d3d9716a14c7ae127cd9f63c16dcde59d6f76b1708a08417d5ccfbcacdf66f"
      requester := ⟨.human, "alice", none⟩
      requestedAt := ⟨0⟩
      metadata := [] }
  riskLevel := .moderate
  idempotencyIdentity := operationIdempotencyIdentity (idOf "op")
  currentPolicyDecisionId := none
  currentApprovalId := none
  latestAttemptId := some (idOf "attempt")
  latestVerificationId := none
  compensationId := none
  createdAt := ⟨0⟩
  updatedAt := ⟨3⟩

/-- The attempt whose worker crashed before any response came. -/
def issueAttempt : ExecutionAttempt :=
  buildStartedAttempt issueOperation (idOf "attempt") 1 ⟨2⟩ none [] none

def issueVerification : VerificationRequest :=
  buildOriginalVerificationRequest issueOperation (some issueAttempt) (idOf "verification") ⟨4⟩

/-- A search result with one issue, marked as the operation's. -/
def markedItem (owner : String) : Dict :=
  [("id", .int 1), ("number", .int 7), ("state", .str "open"),
    ("html_url", .str ("https://github.com/" ++ owner ++ "/app/issues/7")),
    ("repository_url", .str ("https://api.github.com/repos/" ++ owner ++ "/app")),
    ("body", .str (operationMarker sampleContext))]

def searchBody (owner : String) : Plain := .dict [("items", .list [.dict (markedItem owner)])]

def searchText (owner : String) : ByteArray :=
  ("\x7b\"items\":[\x7b\"id\":1,\"number\":7,\"state\":\"open\"," ++
    "\"html_url\":\"https://github.com/" ++ owner ++ "/app/issues/7\"," ++
    "\"repository_url\":\"https://api.github.com/repos/" ++ owner ++ "/app\"," ++
    "\"body\":\"" ++ operationMarker sampleContext ++ "\"\x7d]\x7d").toUTF8

def searched (owner : String) : Called VerificationEvidence :=
  (GitHubAdapter.verify (samplePython (searchBody owner)) ⟨true⟩ sampleContext
    issueVerification).run (answering (.ok ⟨200, [], searchText owner⟩))

theorem found_applied {called : Called VerificationEvidence} {outcome : EffectOutcome}
    (ran : called.outcome.toOption.map (·.outcome) = some outcome) :
    ∃ evidence, called.outcome = .ok evidence ∧ evidence.outcome = outcome := by
  cases ended : called.outcome with
  | error e => simp [ended, Except.toOption] at ran
  | ok evidence => exact ⟨evidence, rfl, by simpa [ended, Except.toOption] using ran⟩

theorem issueAttempt_stored (body : Plain) :
    StoredAttempt (samplePython body) ⟨issueOperation.intent.effect, .object sampleIssue⟩
      issueAttempt := .started rfl

theorem searched_once : (searched "acme").exchanges =
    [⟨⟨.get, searchPath (samplePython (searchBody "acme")) (operationMarker sampleContext), none,
      defaultTimeout⟩, .ok ⟨200, [], searchText "acme"⟩⟩] := (rfl)

theorem searched_quiet : ∀ exchange ∈ (searched "acme").exchanges,
    ¬ Raising (samplePython (searchBody "acme")) (operationMarker sampleContext)
      issueVerification exchange := by
  intro exchange among
  rw [searched_once, List.mem_singleton] at among
  subst among
  rw [raising_iff rfl rfl, raisingBody_found rfl rfl]
  rintro (⟨_, ⟨⟩⟩ | ⟨_, ⟨⟩, _, ⟨⟩⟩)

/-- The repository's own issue is found, and proves the effect. -/
theorem verify_honest_own : ∃ evidence, (searched "acme").outcome = .ok evidence ∧
    HonestlyVerified (samplePython (searchBody "acme")) (operationMarker sampleContext)
      sampleIssue issueOperation.intent.effect evidence.outcome (searched "acme").exchanges := by
  have shows_ : ShowsIssue (samplePython (searchBody "acme")) (markedItem "acme") "acme" "app" 7
      "open" :=
    ⟨rfl, rfl, ⟨_, rfl, by decide +kernel⟩, ⟨_, rfl, by decide +kernel⟩⟩
  apply (verify_honest_iff (samplePython_reads _) asciiLower_lowers ⟨true⟩ sampleContext _
    (by decide) (by decide +kernel) (by decide +kernel) ⟨rfl, rfl⟩ (by decide +kernel)
    (issueAttempt_stored _) (.recovery _ _)).mpr
  constructor
  · exact searched_quiet
  · intro _ _ exchange _ response _ _ _
    exact ⟨markedItem "acme", 7, "open", .inr (.inr ⟨_, _, rfl, rfl, List.mem_singleton_self _⟩),
      by decide +kernel, shows_⟩

/-- Another repository's issue with the marker in its text is taken for the operation's. -/
theorem verify_other_repository :
    validateArguments issueOperation.intent.effect (.object sampleIssue) = none ∧
      StoredAttempt (samplePython (searchBody "evil"))
        ⟨issueOperation.intent.effect, .object sampleIssue⟩ issueAttempt ∧
      BuiltFrom issueOperation issueAttempt issueVerification ∧
      ∃ evidence, (searched "evil").outcome = .ok evidence ∧ evidence.outcome = .applied ∧
        ¬ HonestlyVerified (samplePython (searchBody "evil")) (operationMarker sampleContext)
          sampleIssue issueOperation.intent.effect evidence.outcome
          (searched "evil").exchanges := by
  obtain ⟨evidence, returned, applied⟩ := found_applied (by decide +kernel :
    (searched "evil").outcome.toOption.map (·.outcome) = some .applied)
  refine ⟨by decide +kernel, issueAttempt_stored _, .recovery _ _, evidence, returned, applied,
    fun honest => ?_⟩
  obtain ⟨exchange, response, -, -, confirms⟩ := honest.applied applied
  obtain ⟨doc, number, state, presents, marked, shows_⟩ :=
    confirms.foundIn (⟨rfl, rfl⟩ : Names sampleIssue "acme" "app")
  obtain bears | ⟨items, listed, -⟩ | ⟨whole, items, bears, listed, among⟩ := presents
  · cases bears
    exact absurd marked (by decide +kernel)
  · cases listed
  · cases bears
    cases listed
    rw [List.mem_singleton] at among
    cases among
    have other := (matchesPath_iff _).mpr shows_.repository
    exact absurd other (by decide +kernel)

end Stateback.Providers.GitHub
