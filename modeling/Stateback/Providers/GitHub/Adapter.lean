import Stateback.Lib.Percent
import Stateback.Providers.GitHub.Codec
/-!
# The GitHub adapter

`providers/github/adapter.py`: what each call asks of the transport and how it reads the answer.
Building evidence asks the clock and refuses secret-shaped fields; an error with an HTTP status
outside 100..599 cannot be built.  Both raise out of the call.
-/

namespace Stateback.Providers.GitHub

open Stateback.Domain Process

structure GitHubAdapter where
  credentialConfigured : Bool
deriving DecidableEq, Repr

structure ValidationResult where
  accepted : Bool
  error : Option NormalizedError
deriving DecidableEq, Repr

def emptyFields : JsonValue := jsonObjectFromPlain []

/-- `_DEFAULT_TIMEOUT_SECONDS`. -/
def defaultTimeout : Int := 15000000

variable (py : Python)

/-! ## Errors and evidence -/

def normalizedError (kind : ErrorKind) (code : String) (retryable : Bool) (http : Option Int)
    (retryAfter : Option Int) : Except AdapterRaised NormalizedError :=
  if http.all fun status => decide (100 ≤ status ∧ status ≤ 599) then
    .ok
      { contractVersion := contractVersion
        kind := kind
        code := code
        message := code
        retryableInfrastructure := retryable
        providerHttpStatus := http
        providerErrorCode := none
        retryAfterSeconds := retryAfter
        details := emptyFields }
  else .error (.contractValidationError "invalid_range")

def providerEvidence (source : EvidenceSource) (status : String)
    (requestId externalOperationId : Option String) (externalResourceIds : List String)
    (fields : JsonValue) (rawReference : Option String) : Calling ProviderEvidence := do
  let observedAt ← Calling.now
  if secretFree py.lower fields then
    pure
      { source := source
        provider := githubProvider
        observedAt := observedAt
        providerStatus := some status
        providerRequestId := requestId
        externalOperationId := externalOperationId
        externalResourceIds := externalResourceIds
        evidenceFields := fields
        rawReference := rawReference }
  else Prog.raise (.contractValidationError "secret_field")

def requestId (response : GitHubHttpResponse) : Option String :=
  response.header py "x-github-request-id"

/-- The evidence of an execution that proves no effect, with its error. -/
def executionFailure (outcome : EffectOutcome) (status : String) (request : Option String)
    (externalResourceIds : List String) (fields : JsonValue) (rawReference : Option String)
    (error : Except AdapterRaised NormalizedError) : Calling ExecutionEvidence := do
  let evidence ← providerEvidence py .executionResponse status request none externalResourceIds
    fields rawReference
  let error ← Calling.lift error
  pure ⟨outcome, evidence, error, none, externalResourceIds⟩

/-- The evidence of an execution that proves its effect. -/
def executionApplied (status : String) (request externalOperationId : Option String)
    (externalResourceIds : List String) (fields : JsonValue) (rawReference : String) :
    Calling ExecutionEvidence := do
  let evidence ← providerEvidence py .executionResponse status request externalOperationId
    externalResourceIds fields (some rawReference)
  pure ⟨.applied, evidence, none, externalOperationId, externalResourceIds⟩

def knownError (kind : ErrorKind) (code status : String) (retryable : Bool) :
    Calling ExecutionEvidence :=
  executionFailure py .notApplied status none [] emptyFields none
    (normalizedError kind code retryable none none)

def unknownTransport (typeName : String) (externalResourceIds : List String) :
    Calling ExecutionEvidence :=
  executionFailure py .unknown "transport_ambiguous" none externalResourceIds
    (jsonObjectFromPlain [("exception_type", .str typeName)]) none
    (normalizedError .transientTransport "github.transport.ambiguous" true none none)

def unknownMalformed (response : GitHubHttpResponse) (externalResourceIds : List String) :
    Calling ExecutionEvidence :=
  executionFailure py .unknown "malformed" (requestId py response) externalResourceIds emptyFields
    none (normalizedError .malformedProviderResponse "github.execute.malformed_response" false
      (some response.status) none)

def unknownInconsistent (response : GitHubHttpResponse) (code : String)
    (externalResourceIds : List String) : Calling ExecutionEvidence :=
  executionFailure py .unknown "intent_inconsistent" (requestId py response) externalResourceIds
    emptyFields none
    (normalizedError .providerInconsistent code false (some response.status) none)

def executionHttpError (response : GitHubHttpResponse) (externalResourceIds : List String) :
    Calling ExecutionEvidence :=
  let http := classifyHttp py response
  executionFailure py (if http.known then .notApplied else .unknown)
    (if http.known then "rejected" else "ambiguous_http_failure") (requestId py response)
    externalResourceIds emptyFields none
    (normalizedError http.kind http.code http.retryable (some response.status)
      (retryAfter py response))

/-! ## Validation -/

namespace GitHubAdapter

variable (adapter : GitHubAdapter)

def refused (kind : ErrorKind) (code : String) : Except AdapterRaised ValidationResult := do
  let error ← normalizedError kind code false none none
  pure ⟨false, some error⟩

def validateExecution (request : ProviderExecutionRequest) :
    Except AdapterRaised ValidationResult :=
  if request.effect ∉ githubEffects then
    refused .unsupportedCapability "github.validation.unknown_effect"
  else if !adapter.credentialConfigured then
    refused .authentication "github.auth.missing_credential"
  else
    match validateArguments request.effect request.arguments with
    | some reason => refused .validation reason
    | none => pure ⟨true, none⟩

def pullTargets (owner repo head base : String) : List String :=
  ["github:repository:" ++ owner ++ "/" ++ repo, "github:head-ref:" ++ head,
    "github:base-ref:" ++ base]

/-- What an operation is looked up by before any response is known. -/
def verificationResourceIds (request : ProviderExecutionRequest) :
    Except AdapterRaised (List String) := do
  if request.effect ∉ githubEffects then
    throw (.unsupportedEffectError request.effect)
  let args ← argumentMap request.arguments
  let owner ← requiredStr args "owner"
  let repo ← requiredStr args "repo"
  if request.effect = effectCreateIssue then
    pure []
  else if request.effect = effectCreateIssueComment then
    let number ← requiredInt args "issue_number"
    pure [issueTarget owner repo number]
  else if request.effect = effectAddLabel then
    let number ← requiredInt args "issue_number"
    let label ← requiredStr args "label"
    pure [issueTarget owner repo number, "github:label:" ++ label]
  else if request.effect = effectCreatePullRequest then
    let head ← requiredStr args "head"
    let base ← requiredStr args "base"
    pure (pullTargets owner repo head base)
  else
    let number ← requiredInt args "pull_number"
    let headSha ← requiredStr args "head_sha"
    pure [pullTarget owner repo number, "github:head-sha:" ++ py.lower headSha]

end GitHubAdapter

/-! ## Execution -/

/-- `/repos/{quote(owner, safe='')}/{quote(repo, safe='')}`. -/
def apiPath (owner repo : String) : String :=
  "/repos/" ++ Percent.quote owner ++ "/" ++ Percent.quote repo

def issuesApi (owner repo : String) (number : Int) : String :=
  apiPath owner repo ++ "/issues/" ++ toString number

def pullsApi (owner repo : String) (number : Int) : String :=
  apiPath owner repo ++ "/pulls/" ++ toString number

/-- `_timeout`: none once the deadline has passed. -/
def timeoutOf (context : ProviderExecutionContext) : Calling (Option Int) :=
  match context.deadline with
  | none => pure (some defaultTimeout)
  | some deadline => do
    let now ← Calling.now
    let remaining := deadline.value - now.value
    pure (if 0 < remaining then some remaining else none)

def executeCreateIssue (context : ProviderExecutionContext)
    (request : ProviderExecutionRequest) (args : Arguments) (timeout : Int) :
    Calling ExecutionEvidence := do
  let owner ← Calling.lift (requiredStr args "owner")
  let repo ← Calling.lift (requiredStr args "repo")
  let targets ← Calling.lift (GitHubAdapter.verificationResourceIds py request)
  let payload ← Calling.lift (createPayload args (operationMarker context))
  let answer ← Calling.send
    ⟨.post, apiPath owner repo ++ "/issues", some (py.dumps payload), timeout⟩
  match answer with
  | .error typeName => unknownTransport py typeName targets
  | .ok response =>
    if response.status ≠ 201 then executionHttpError py response targets
    else
      let parsed ← Calling.lift (parseObject py response.body)
      let issue ← Calling.lift (issueIdentity py parsed owner repo none)
      match issue with
      | none => unknownMalformed py response targets
      | some issue =>
        executionApplied py issue.state (requestId py response) issue.issueId [issue.resourceId]
          (jsonObjectFromPlain [("issue_number", .int issue.number), ("owner", .str owner),
            ("repo", .str repo)]) issue.htmlUrl

def executeComment (context : ProviderExecutionContext) (args : Arguments) (timeout : Int) :
    Calling ExecutionEvidence := do
  let owner ← Calling.lift (requiredStr args "owner")
  let repo ← Calling.lift (requiredStr args "repo")
  let number ← Calling.lift (requiredInt args "issue_number")
  let target := issueTarget owner repo number
  let answer ← Calling.send
    ⟨.post, issuesApi owner repo number ++ "/comments",
      some (py.dumps (.dict [("body", .str (markedBody args (operationMarker context)))])),
      timeout⟩
  match answer with
  | .error typeName => unknownTransport py typeName [target]
  | .ok response =>
    if response.status ≠ 201 then executionHttpError py response [target]
    else
      let parsed ← Calling.lift (parseObject py response.body)
      match commentIdentity py parsed owner repo number with
      | none => unknownMalformed py response [target]
      | some comment =>
        executionApplied py "created" (requestId py response) comment.operationId
          [target, comment.resourceId]
          (jsonObjectFromPlain [("owner", .str owner), ("repo", .str repo),
            ("issue_number", .int number), ("comment_id", .int comment.commentId)])
          comment.htmlUrl

def executeAddLabel (args : Arguments) (timeout : Int) : Calling ExecutionEvidence := do
  let owner ← Calling.lift (requiredStr args "owner")
  let repo ← Calling.lift (requiredStr args "repo")
  let number ← Calling.lift (requiredInt args "issue_number")
  let label ← Calling.lift (requiredStr args "label")
  let resources := [issueTarget owner repo number, "github:label:" ++ label]
  let answer ← Calling.send
    ⟨.post, issuesApi owner repo number ++ "/labels",
      some (py.dumps (.dict [("labels", .list [.str label])])), timeout⟩
  match answer with
  | .error typeName => unknownTransport py typeName resources
  | .ok response =>
    if response.status ≠ 200 then executionHttpError py response resources
    else
      let labels ← Calling.lift (parseArray py response.body)
      if (labels.getD []).any fun item => (item.get "name").is label then
        executionApplied py "present" (requestId py response) none resources
          (jsonObjectFromPlain [("owner", .str owner), ("repo", .str repo),
            ("issue_number", .int number), ("label", .str label)])
          ("https://github.com/" ++ owner ++ "/" ++ repo ++ "/issues/" ++ toString number)
      else unknownMalformed py response resources

/-- The payload is built inside the `try` around the request. -/
def executeCreatePull (context : ProviderExecutionContext) (args : Arguments) (timeout : Int) :
    Calling ExecutionEvidence := do
  let owner ← Calling.lift (requiredStr args "owner")
  let repo ← Calling.lift (requiredStr args "repo")
  let head ← Calling.lift (requiredStr args "head")
  let base ← Calling.lift (requiredStr args "base")
  let targets := GitHubAdapter.pullTargets owner repo head base
  match pullPayload args (operationMarker context) with
  | .error _ => unknownTransport py "ContractValidationError" targets
  | .ok payload =>
  let answer ← Calling.send
    ⟨.post, apiPath owner repo ++ "/pulls", some (py.dumps payload), timeout⟩
  match answer with
  | .error typeName => unknownTransport py typeName targets
  | .ok response =>
    if response.status ≠ 201 then executionHttpError py response targets
    else
      let parsed ← Calling.lift (parseObject py response.body)
      let pull ← Calling.lift (pullIdentity py parsed owner repo none)
      match pull with
      | none => unknownMalformed py response targets
      | some pull =>
        if !pullMatchesIntent py parsed owner repo head base then
          unknownInconsistent py response "github.execute.pull_intent_inconsistent" targets
        else
          executionApplied py pull.state (requestId py response) pull.operationId
            (targets ++ [pull.resourceId, "github:head-sha:" ++ pull.headSha])
            (jsonObjectFromPlain [("owner", .str owner), ("repo", .str repo),
              ("pull_number", .int pull.number), ("head", .str head), ("base", .str base)])
            pull.htmlUrl

def mergeMethodField (args : Arguments) : Dict :=
  match args.get "merge_method" with
  | .str method => [("merge_method", .str method)]
  | _ => []

/-- The refusal of a merge, by status or by `merged: false`. -/
def notMerged (response : GitHubHttpResponse) (code headSha rawReference : String)
    (externalResourceIds : List String) : Calling ExecutionEvidence :=
  executionFailure py .notApplied "not_merged" (requestId py response) externalResourceIds
    (jsonObjectFromPlain [("expected_head_sha", .str headSha)]) (some rawReference)
    (normalizedError .providerRejected code false (some response.status) none)

def executeMerge (args : Arguments) (timeout : Int) : Calling ExecutionEvidence := do
  let owner ← Calling.lift (requiredStr args "owner")
  let repo ← Calling.lift (requiredStr args "repo")
  let number ← Calling.lift (requiredInt args "pull_number")
  let expected ← Calling.lift (requiredStr args "head_sha")
  let headSha := py.lower expected
  let resources := [pullTarget owner repo number, "github:head-sha:" ++ headSha]
  let page := "https://github.com/" ++ owner ++ "/" ++ repo ++ "/pull/" ++ toString number
  let answer ← Calling.send
    ⟨.put, pullsApi owner repo number ++ "/merge",
      some (py.dumps (.dict ([("sha", .str headSha)] ++ mergeMethodField args))), timeout⟩
  match answer with
  | .error typeName => unknownTransport py typeName resources
  | .ok response =>
    if response.status ∈ [405, 409] then
      notMerged py response "github.merge.rejected" headSha page resources
    else if response.status ≠ 200 then executionHttpError py response resources
    else
      let parsed ← Calling.lift (parseObject py response.body)
      match Dict.get (parsed.getD []) "merged" with
      | .bool false => notMerged py response "github.merge.not_applied" headSha page resources
      | .bool true =>
        match Dict.get (parsed.getD []) "sha" with
        | .str mergeSha =>
          if isGitSha mergeSha then
            executionApplied py "merged" (requestId py response)
              ("github:merge:" ++ mergeSha) resources
              (jsonObjectFromPlain [("owner", .str owner), ("repo", .str repo),
                ("pull_number", .int number), ("expected_head_sha", .str headSha)]) page
          else unknownMalformed py response resources
        | _ => unknownMalformed py response resources
      | _ => unknownMalformed py response resources

/-- What `execute` does with validated arguments. -/
def executeEffect (context : ProviderExecutionContext) (request : ProviderExecutionRequest)
    (args : Arguments) (timeout : Int) : Calling ExecutionEvidence :=
  if request.effect = effectCreateIssue then executeCreateIssue py context request args timeout
  else if request.effect = effectCreateIssueComment then executeComment py context args timeout
  else if request.effect = effectAddLabel then executeAddLabel py args timeout
  else if request.effect = effectCreatePullRequest then executeCreatePull py context args timeout
  else executeMerge py args timeout

namespace GitHubAdapter

variable (adapter : GitHubAdapter)

/-- `_execute_create_issue` validates and checks the deadline like `execute` itself. -/
def execute (context : ProviderExecutionContext) (request : ProviderExecutionRequest) :
    Calling ExecutionEvidence := do
  if request.effect ∉ githubEffects then
    Prog.raise (.unsupportedEffectError request.effect)
  else
    let validation ← Calling.lift (adapter.validateExecution request)
    if !validation.accepted then
      let evidence ← providerEvidence py .executionResponse "validation_rejected" none none []
        emptyFields none
      pure ⟨.notApplied, evidence, validation.error, none, []⟩
    else
      match ← timeoutOf context with
      | none =>
        knownError py .transientTransport "github.deadline.not_sent" "deadline_expired" true
      | some timeout =>
        let args ← Calling.lift (argumentMap request.arguments)
        executeEffect py context request args timeout

end GitHubAdapter

/-! ## Verification -/

def exceptionFields (exceptionType : Option String) : JsonValue :=
  match exceptionType with
  | none => emptyFields
  | some typeName => jsonObjectFromPlain [("exception_type", .str typeName)]

def verificationError (kind : ErrorKind) (code status : String) (retryable : Bool)
    (http retryAfter : Option Int) (exceptionType : Option String) :
    Calling VerificationEvidence := do
  let evidence ← providerEvidence py .custom status none none [] (exceptionFields exceptionType)
    none
  let error ← Calling.lift (normalizedError kind code retryable http retryAfter)
  pure ⟨.unknown, evidence, some error⟩

def verificationTransport (typeName : String) : Calling VerificationEvidence :=
  verificationError py .transientTransport "github.verify.transport" "transport_failed" true none
    none (some typeName)

def verificationHttpError (response : GitHubHttpResponse) : Calling VerificationEvidence :=
  let http := classifyHttp py response
  verificationError py http.kind http.code "verification_failed" http.retryable
    (some response.status) (retryAfter py response) none

/-- `_inconclusive_absence`, which `_verify_create_issue` spells out once more. -/
def inconclusiveAbsence (response : GitHubHttpResponse) : Calling VerificationEvidence := do
  let evidence ← providerEvidence py .custom "marker_not_observed" (requestId py response) none []
    (jsonObjectFromPlain [("absence_is_conclusive", .bool false),
      ("search_complete", .bool false)]) none
  let error ← Calling.lift
    (normalizedError .transientTransport "github.verify.marker_not_observed" true none none)
  pure ⟨.unknown, evidence, some error⟩

/-- Evidence that was read back, with no error. -/
def verified (outcome : EffectOutcome) (source : EvidenceSource) (status : String)
    (request externalOperationId : Option String) (externalResourceIds : List String)
    (fields : JsonValue) (rawReference : String) : Calling VerificationEvidence := do
  let evidence ← providerEvidence py source status request externalOperationId
    externalResourceIds fields (some rawReference)
  pure ⟨outcome, evidence, none⟩

/-- `_request_verification`, with what becomes of a response of status 200. -/
def requestVerification (path : String)
    (read : GitHubHttpResponse → Calling VerificationEvidence) : Calling VerificationEvidence := do
  let answer ← Calling.send ⟨.get, path, none, defaultTimeout⟩
  match answer with
  | .error typeName => verificationTransport py typeName
  | .ok response =>
    if response.status ≠ 200 then verificationHttpError py response else read response

/-- An object still open proves that a compensation was not applied. -/
def markedOutcome (target : VerificationTarget) (state : String) : EffectOutcome :=
  if target = .compensation ∧ state ≠ "closed" then .notApplied else .applied

def markerMatched : JsonValue := jsonObjectFromPlain [("marker_matched", .bool true)]

def searchPath (marker : String) : String :=
  "/search/issues?" ++ py.urlencode [("q", "\"" ++ marker ++ "\" in:body is:issue")]

/-- How `_verify_create_issue` reads a response of status 200. -/
def readCreateIssue (context : ProviderExecutionContext) (request : VerificationRequest)
    (resource : Option IssueResource) (response : GitHubHttpResponse) :
    Calling VerificationEvidence := do
  let parsed ← Calling.lift (parseObject py response.body)
  let direct ← Calling.lift (match resource with
    | some resource =>
      (issueIdentity py parsed resource.owner resource.repo (some resource.number)).map some
    | none => .ok none)
  if direct = some none then
    verificationError py .providerInconsistent "github.verify.identity_inconsistent"
      "identity_inconsistent" false none none none
  else
    let found ← Calling.lift
      (findMarkedIssue py response.body (operationMarker context) resource)
    match found with
    | none => inconclusiveAbsence py response
    | some issue =>
      verified py (markedOutcome request.target issue.state) .custom
        (if markedOutcome request.target issue.state = .notApplied then "open" else issue.state)
        (requestId py response) issue.issueId [issue.resourceId] markerMatched issue.htmlUrl

def verifyCreateIssue (context : ProviderExecutionContext) (request : VerificationRequest) :
    Calling VerificationEvidence :=
  let resource := firstIssueResource py request.externalResourceIds
  let path := match resource with
    | some resource => issuesApi resource.owner resource.repo resource.number
    | none => searchPath py (operationMarker context)
  requestVerification py path (readCreateIssue py context request resource)

/-- The comment id in a `github:comment:` resource, after its last colon. -/
def commentIdOf (externalResourceIds : List String) : Option Int :=
  match parsePrefixedResource externalResourceIds "github:comment:" with
  | none => none
  | some raw =>
    match Cut.rcut ':' raw.toList with
    | none => none
    | some (_, commentId) => py.int (String.ofList commentId)

/-- One object, or the objects of a list. -/
def candidatesOf (single : Bool) (body : ByteArray) : Except AdapterRaised (List Dict) :=
  if single then (parseObject py body).map Option.toList
  else (parseArray py body).map (·.getD [])

/-- The text of the body field, whatever its type. -/
def bodyText (candidate : Dict) : String := py.str ((candidate.lookup "body").getD (.str ""))

def markedComment (marker owner repo : String) (number : Int) (candidate : Dict) :
    Option CommentIdentity :=
  (commentIdentity py candidate owner repo number).filter fun _ =>
    containsText marker (bodyText py candidate)

def readComment (context : ProviderExecutionContext) (target : IssueResource) (single : Bool)
    (response : GitHubHttpResponse) : Calling VerificationEvidence := do
  let candidates ← Calling.lift (candidatesOf py single response.body)
  match candidates.findSome? (markedComment py (operationMarker context) target.owner target.repo
      target.number) with
  | none => inconclusiveAbsence py response
  | some comment =>
    verified py .applied .custom "created" (requestId py response) comment.operationId
      [issueTarget target.owner target.repo target.number, comment.resourceId] markerMatched
      comment.htmlUrl

def verifyComment (context : ProviderExecutionContext) (request : VerificationRequest) :
    Calling VerificationEvidence :=
  match parseTargetResource py request.externalResourceIds "github:issue-target:" with
  | none =>
    verificationError py .validation "github.verify.comment_target_missing" "identity_missing"
      false none none none
  | some target =>
    match commentIdOf py request.externalResourceIds with
    | some commentId =>
      requestVerification py
        (apiPath target.owner target.repo ++ "/issues/comments/" ++ toString commentId)
        (readComment py context target true)
    | none =>
      requestVerification py
        (issuesApi target.owner target.repo target.number ++ "/comments?per_page=100")
        (readComment py context target false)

def labelPresent (label : String) (labels : List Plain) : Bool :=
  labels.any fun item => (item.field "name").is label

def readLabel (request : VerificationRequest) (target : IssueResource) (label : String)
    (response : GitHubHttpResponse) : Calling VerificationEvidence := do
  let parsed ← Calling.lift (parseObject py response.body)
  match Dict.get (parsed.getD []) "labels" with
  | .list labels =>
    verified py (if labelPresent label labels then .applied else .notApplied) .readBack
      (if labelPresent label labels then "present" else "absent") (requestId py response) none
      request.externalResourceIds
      (jsonObjectFromPlain [("label", .str label), ("present", .bool (labelPresent label labels))])
      ("https://github.com/" ++ target.owner ++ "/" ++ target.repo ++ "/issues/" ++
        toString target.number)
  | _ =>
    verificationError py .malformedProviderResponse "github.verify.malformed_response" "malformed"
      false none none none

def verifyLabel (request : VerificationRequest) : Calling VerificationEvidence :=
  match parseTargetResource py request.externalResourceIds "github:issue-target:",
      parsePrefixedResource request.externalResourceIds "github:label:" with
  | some target, some label =>
    requestVerification py (issuesApi target.owner target.repo target.number)
      (readLabel py request target label)
  | _, _ =>
    verificationError py .validation "github.verify.label_target_missing" "identity_missing"
      false none none none

structure PullLookup where
  owner : String
  repo : String
  number : Option Int
  head : Option String
  base : Option String
deriving DecidableEq, Repr

def pullVerificationTarget (request : VerificationRequest) : Option PullLookup :=
  let head := parsePrefixedResource request.externalResourceIds "github:head-ref:"
  let base := parsePrefixedResource request.externalResourceIds "github:base-ref:"
  match parseTargetResource py request.externalResourceIds "github:pull:" with
  | some pull => some ⟨pull.owner, pull.repo, some pull.number, head, base⟩
  | none =>
    match (parsePrefixedResource request.externalResourceIds "github:repository:").bind
        fun raw => Cut.cut '/' raw.toList with
    | some (owner, repo) => some ⟨String.ofList owner, String.ofList repo, none, head, base⟩
    | none => none

/-- What a candidate that ends the loop says. -/
inductive PullSeen where
  | inconsistent
  | found (pull : PullIdentity)
deriving DecidableEq, Repr

/-- One turn of the loop of `_verify_pull`. -/
def seenPull (marker owner repo : String) (number : Option Int) (head base : String)
    (candidate : Dict) : Except AdapterRaised (Option PullSeen) := do
  let pull ← pullIdentity py candidate owner repo number
  pure (match pull with
    | none => none
    | some pull =>
      if !pullMatchesIntent py candidate owner repo head base then
        if number.isSome then some .inconsistent else none
      else if containsText marker (bodyText py candidate) then some (.found pull)
      else none)

def readPull (context : ProviderExecutionContext) (request : VerificationRequest)
    (owner repo : String) (number : Option Int) (head base : String)
    (response : GitHubHttpResponse) : Calling VerificationEvidence := do
  let candidates ← Calling.lift (candidatesOf py number.isSome response.body)
  let seen ← Calling.lift
    (findFirst (seenPull py (operationMarker context) owner repo number head base) candidates)
  match seen with
  | none => inconclusiveAbsence py response
  | some .inconsistent =>
    verificationError py .providerInconsistent "github.verify.pull_intent_inconsistent"
      "intent_inconsistent" false none none none
  | some (.found pull) =>
    verified py (markedOutcome request.target pull.state) .custom pull.state
      (requestId py response) pull.operationId
      (request.externalResourceIds ++ [pull.resourceId, "github:head-sha:" ++ pull.headSha])
      markerMatched pull.htmlUrl

def pullsSearch (owner repo head base : String) : String :=
  apiPath owner repo ++ "/pulls?" ++
    py.urlencode [("state", "all"),
      ("head", if ':' ∈ head.toList then head else owner ++ ":" ++ head), ("base", base),
      ("per_page", "100")]

def verifyPull (context : ProviderExecutionContext) (request : VerificationRequest) :
    Calling VerificationEvidence :=
  match pullVerificationTarget py request with
  | none =>
    verificationError py .validation "github.verify.pull_target_missing" "identity_missing" false
      none none none
  | some ⟨owner, repo, number, some head, some base⟩ =>
    requestVerification py
      (match number with
        | some number => pullsApi owner repo number
        | none => pullsSearch py owner repo head base)
      (readPull py context request owner repo number head base)
  | some _ =>
    verificationError py .validation "github.verify.pull_intent_missing" "identity_missing" false
      none none none

def readMerge (request : VerificationRequest) (target : IssueResource) (expectedHead : String)
    (response : GitHubHttpResponse) : Calling VerificationEvidence := do
  let parsed ← Calling.lift (parseObject py response.body)
  let pull ← Calling.lift
    (pullIdentity py parsed target.owner target.repo (some target.number))
  match pull, Dict.get (parsed.getD []) "merged" with
  | some pull, .bool merged =>
    if py.lower pull.headSha ≠ py.lower expectedHead then
      verificationError py .providerInconsistent "github.verify.merge_head_changed" "head_changed"
        false none none none
    else
      verified py (if merged then .applied else .notApplied) .readBack
        (if merged then "merged" else "not_merged") (requestId py response) none
        request.externalResourceIds
        (jsonObjectFromPlain [("expected_head_sha", .str expectedHead),
          ("head_matched", .bool true)]) pull.htmlUrl
  | _, _ =>
    verificationError py .malformedProviderResponse "github.verify.malformed_response" "malformed"
      false none none none

def verifyMerge (request : VerificationRequest) : Calling VerificationEvidence :=
  match parseTargetResource py request.externalResourceIds "github:pull:",
      parsePrefixedResource request.externalResourceIds "github:head-sha:" with
  | some target, some expectedHead =>
    requestVerification py (pullsApi target.owner target.repo target.number)
      (readMerge py request target expectedHead)
  | _, _ =>
    verificationError py .validation "github.verify.merge_target_missing" "identity_missing"
      false none none none

/-! ## Compensation -/

def compensationError (outcome : EffectOutcome) (kind : ErrorKind) (code status : String)
    (retryable : Bool) (http retryAfter : Option Int) (exceptionType : Option String) :
    Calling CompensationEvidence := do
  let evidence ← providerEvidence py .executionResponse status none none []
    (exceptionFields exceptionType) none
  let error ← Calling.lift (normalizedError kind code retryable http retryAfter)
  pure ⟨outcome, some evidence, some error, none⟩

def compensationTransport (typeName : String) : Calling CompensationEvidence :=
  compensationError py .unknown .transientTransport "github.compensation.transport_ambiguous"
    "transport_ambiguous" true none none (some typeName)

def compensationHttpError (response : GitHubHttpResponse) : Calling CompensationEvidence :=
  let http := classifyHttp py response
  compensationError py (if http.known then .notApplied else .unknown) http.kind http.code
    (if http.known then "rejected" else "ambiguous_http_failure") http.retryable
    (some response.status) (retryAfter py response) none

/-- What an accepted closing shows: the object's operation id, resource id, page and state. -/
structure Closed where
  operationId : String
  resourceId : String
  htmlUrl : String
  state : String
deriving DecidableEq, Repr

/-- The common course of `compensate` and `_close_pull_request`: the request that closes the
object, and how its response is read. -/
def closeObject (path mitigation : String)
    (read : Option Dict → Except AdapterRaised (Option Closed)) :
    Calling CompensationEvidence := do
  let answer ← Calling.send
    ⟨.patch, path, some (py.dumps (.dict [("state", .str "closed")])), defaultTimeout⟩
  match answer with
  | .error typeName => compensationTransport py typeName
  | .ok response =>
    if response.status ≠ 200 then compensationHttpError py response
    else
      let parsed ← Calling.lift (parseObject py response.body)
      let closed ← Calling.lift (read parsed)
      match closed.filter fun closed => decide (closed.state = "closed") with
      | none =>
        compensationError py .unknown .malformedProviderResponse
          "github.compensation.malformed_response" "malformed" false (some response.status) none
          none
      | some closed => do
        let evidence ← providerEvidence py .executionResponse closed.state
          (requestId py response) closed.operationId [closed.resourceId]
          (jsonObjectFromPlain [("mitigation", .str mitigation), ("rollback", .bool false)])
          (some closed.htmlUrl)
        pure ⟨.applied, some evidence, none, closed.operationId⟩

def closedIssue (resource : IssueResource) (parsed : Option Dict) :
    Except AdapterRaised (Option Closed) := do
  let issue ← issueIdentity py parsed resource.owner resource.repo (some resource.number)
  pure (issue.map fun issue => ⟨issue.issueId, issue.resourceId, issue.htmlUrl, issue.state⟩)

def closeIssue (resource : IssueResource) : Calling CompensationEvidence :=
  closeObject py (issuesApi resource.owner resource.repo resource.number) "closed_issue"
    (closedIssue py resource)

def closedPull (resource : IssueResource) (parsed : Option Dict) :
    Except AdapterRaised (Option Closed) := do
  let pull ← pullIdentity py parsed resource.owner resource.repo (some resource.number)
  pure (pull.map fun pull => ⟨pull.operationId, pull.resourceId, pull.htmlUrl, pull.state⟩)

def closePullRequest (resource : IssueResource) : Calling CompensationEvidence :=
  closeObject py (pullsApi resource.owner resource.repo resource.number)
    "closed_pull_request" (closedPull py resource)

namespace GitHubAdapter

variable (adapter : GitHubAdapter)

def verify (context : ProviderExecutionContext) (request : VerificationRequest) :
    Calling VerificationEvidence :=
  if request.effect ∉ githubEffects then Prog.raise (.unsupportedEffectError request.effect)
  else if !adapter.credentialConfigured then
    verificationError py .authentication "github.auth.missing_credential" "authentication_failed"
      false none none none
  else if request.effect = effectCreateIssue then verifyCreateIssue py context request
  else if request.effect = effectCreateIssueComment then verifyComment py context request
  else if request.effect = effectAddLabel then verifyLabel py request
  else if request.effect = effectCreatePullRequest then verifyPull py context request
  else verifyMerge py request

def compensate (request : CompensationRequest) : Calling CompensationEvidence :=
  if !adapter.credentialConfigured then
    compensationError py .notApplied .authentication "github.auth.missing_credential"
      "authentication_failed" false none none none
  else
    match parseTargetResource py (request.originalEvidence.flatMap (·.externalResourceIds))
        "github:pull:" with
    | some pull => closePullRequest py pull
    | none =>
      match resourceFromOriginalEvidence py request with
      | some resource => closeIssue py resource
      | none =>
        compensationError py .notApplied .validation
          "github.compensation.issue_identity_missing" "identity_missing" false none none none

end GitHubAdapter

end Stateback.Providers.GitHub
