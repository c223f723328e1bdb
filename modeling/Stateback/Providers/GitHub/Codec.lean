import Stateback.Lib.Cut
import Stateback.Providers.GitHub.Transport
/-!
# GitHub requests and identities

`providers/github/codec.py` and the effects of `effects.py`.  An identity is read off a response
body only when every field that names it agrees; `ShowsIssue`, `ShowsComment` and `ShowsPull` say
what such a body contains.  Testing a JSON array or object for membership in a set raises
`TypeError`, which leaves the codec.
-/

namespace Stateback.Providers.GitHub

open Stateback.Domain

/-! ## Effects -/

def githubProvider : String := "github"

def effectCreateIssue : EffectRef := ⟨githubProvider, "create_issue", "v1"⟩
def effectCreateIssueComment : EffectRef := ⟨githubProvider, "create_issue_comment", "v1"⟩
def effectAddLabel : EffectRef := ⟨githubProvider, "add_label", "v1"⟩
def effectCreatePullRequest : EffectRef := ⟨githubProvider, "create_pull_request", "v1"⟩
def effectMergePullRequest : EffectRef := ⟨githubProvider, "merge_pull_request", "v1"⟩

def githubEffects : List EffectRef :=
  [effectCreateIssue, effectCreateIssueComment, effectAddLabel, effectCreatePullRequest,
    effectMergePullRequest]

/-! ## Arguments -/

abbrev Arguments := List (String × JsonValue)

def Arguments.get (data : Arguments) (field : String) : JsonValue :=
  (data.lookup field).getD .null

/-- The fields an effect allows, and those it requires as text. -/
def argumentFields (effect : EffectRef) : Option (List String × List String) :=
  if effect = effectCreateIssue then
    some (["owner", "repo", "title", "body", "labels", "assignees"], ["owner", "repo", "title"])
  else if effect = effectCreateIssueComment then
    some (["owner", "repo", "issue_number", "body"], ["owner", "repo", "body"])
  else if effect = effectAddLabel then
    some (["owner", "repo", "issue_number", "label"], ["owner", "repo", "label"])
  else if effect = effectCreatePullRequest then
    some (["owner", "repo", "head", "base", "title", "body", "draft"],
      ["owner", "repo", "head", "base", "title"])
  else if effect = effectMergePullRequest then
    some (["owner", "repo", "pull_number", "head_sha", "merge_method"],
      ["owner", "repo", "head_sha"])
  else none

def hexDigits : List Char := "0123456789abcdefABCDEF".toList

def isGitSha (value : String) : Bool :=
  decide (value.length = 40) && value.toList.all (decide <| · ∈ hexDigits)

/-- A non-blank string. -/
def filledText : JsonValue → Bool
  | .str value => !value.toList.all isSpace
  | _ => false

def textOrAbsent : JsonValue → Bool
  | .null | .str _ => true
  | _ => false

def textLongerThan (limit : Nat) : JsonValue → Bool
  | .str value => decide (limit < value.length)
  | _ => false

def positiveInt : JsonValue → Bool
  | .int value => decide (1 ≤ value)
  | _ => false

def boolOrAbsent : JsonValue → Bool
  | .null | .bool _ => true
  | _ => false

def gitShaText : JsonValue → Bool
  | .str value => isGitSha value
  | _ => false

def mergeMethodOrAbsent : JsonValue → Bool
  | .null => true
  | .str value => decide (value ∈ ["merge", "squash", "rebase"])
  | _ => false

def textsOrAbsent : JsonValue → Bool
  | .null => true
  | .array items => items.all fun item =>
    match item with
    | .str value => decide (value ≠ "")
    | _ => false
  | _ => false

/-- The reason against a field unless the check passes. -/
def reasonUnless (check : Bool) (reason : String) : Option String :=
  if check then none else some reason

def numberField (effect : EffectRef) : String :=
  if effect = effectMergePullRequest then "pull_number" else "issue_number"

/-- The first reason against the arguments. -/
def validateArguments (effect : EffectRef) : JsonValue → Option String
  | .object data =>
    match argumentFields effect with
    | none => some "github.validation.unknown_effect"
    | some (allowed, required) =>
      [reasonUnless (data.all fun pair => decide (pair.1 ∈ allowed))
        "github.validation.unknown_argument",
      required.findSome? fun field =>
        reasonUnless (filledText (Arguments.get data field))
          ("github.validation.invalid_" ++ field),
      reasonUnless (!(decide ("title" ∈ required) &&
          textLongerThan 256 (Arguments.get data "title")))
        "github.validation.title_too_long",
      reasonUnless (textOrAbsent (Arguments.get data "body")) "github.validation.invalid_body",
      reasonUnless (!textLongerThan 65536 (Arguments.get data "body"))
        "github.validation.body_too_long",
      reasonUnless (!decide (numberField effect ∈ allowed) ||
          positiveInt (Arguments.get data (numberField effect)))
        ("github.validation.invalid_" ++ numberField effect),
      reasonUnless (!decide (effect = effectCreatePullRequest) ||
          boolOrAbsent (Arguments.get data "draft"))
        "github.validation.invalid_draft",
      reasonUnless (!decide (effect = effectMergePullRequest) ||
          gitShaText (Arguments.get data "head_sha"))
        "github.validation.invalid_head_sha",
      reasonUnless (!decide (effect = effectMergePullRequest) ||
          mergeMethodOrAbsent (Arguments.get data "merge_method"))
        "github.validation.invalid_merge_method",
      reasonUnless (textsOrAbsent (Arguments.get data "labels"))
        "github.validation.invalid_labels",
      reasonUnless (textsOrAbsent (Arguments.get data "assignees"))
        "github.validation.invalid_assignees"].findSome? id
  | _ => some "github.validation.arguments_not_object"

theorem reasonUnless_eq_none {check : Bool} {reason : String} :
    reasonUnless check reason = none ↔ check = true := by
  cases check <;> simp [reasonUnless]

theorem filledText_of_valid {effect : EffectRef} {data : Arguments}
    {allowed required : List String} {field : String}
    (valid : validateArguments effect (.object data) = none)
    (fields : argumentFields effect = some (allowed, required)) (among : field ∈ required) :
    filledText (data.get field) = true := by
  simp only [validateArguments, fields, List.findSome?_cons, id] at valid
  have checked : required.findSome? (fun field => reasonUnless (filledText (data.get field))
      ("github.validation.invalid_" ++ field)) = none := by
    grind
  exact reasonUnless_eq_none.mp (List.findSome?_eq_none_iff.mp checked field among)

theorem number_of_valid {effect : EffectRef} {data : Arguments} {allowed required : List String}
    {field : String} (valid : validateArguments effect (.object data) = none)
    (fields : argumentFields effect = some (allowed, required)) (is : numberField effect = field)
    (among : field ∈ allowed) : ∃ n, data.get field = .int n ∧ 1 ≤ n := by
  subst is
  have checked : positiveInt (data.get (numberField effect)) = true := by
    simp only [validateArguments, fields, List.findSome?_cons, id] at valid
    have passed : reasonUnless (!decide (numberField effect ∈ allowed) ||
        positiveInt (data.get (numberField effect)))
        ("github.validation.invalid_" ++ numberField effect) = none := by
      grind
    simpa [among] using reasonUnless_eq_none.mp passed
  cases value : data.get (numberField effect) with
  | int n => exact ⟨n, rfl, by simpa [value, positiveInt] using checked⟩
  | null | bool _ | str _ | array _ | object _ => simp [value, positiveInt] at checked

/-- The commit of an accepted merge is a hexadecimal text. -/
theorem hex_of_valid {effect : EffectRef} {data : Arguments} {allowed required : List String}
    {headSha : String} (valid : validateArguments effect (.object data) = none)
    (fields : argumentFields effect = some (allowed, required))
    (merge : effect = effectMergePullRequest) (expected : data.get "head_sha" = .str headSha) :
    ∀ c ∈ headSha.toList, c ∈ hexDigits := by
  rw [validateArguments, fields] at valid
  have passed := List.findSome?_eq_none_iff.mp valid
    (reasonUnless (!decide (effect = effectMergePullRequest) || gitShaText (data.get "head_sha"))
      "github.validation.invalid_head_sha")
    (by simp only [List.mem_cons, true_or, or_true])
  have sha : isGitSha headSha = true := by
    simpa [merge, expected, gitShaText] using reasonUnless_eq_none.mp passed
  intro c among
  have hex := (Bool.and_eq_true_iff.mp sha).2
  simpa using List.all_eq_true.mp hex c among

theorem eq_str_of_filledText {value : JsonValue} (filled : filledText value = true) :
    ∃ text, value = .str text := by
  cases value with
  | str text => exact ⟨text, rfl⟩
  | null | bool _ | int _ | array _ | object _ => cases filled

theorem ne_empty_of_filledText {text : String} (filled : filledText (.str text) = true) :
    text ≠ "" := by
  rintro rfl
  cases filled

/-- Every effect is about a named repository. -/
theorem named_of_valid {effect : EffectRef} {data : Arguments} {field : String}
    (supported : effect ∈ githubEffects)
    (valid : validateArguments effect (.object data) = none) (among : field ∈ ["owner", "repo"]) :
    filledText (data.get field) = true := by
  have required : ∃ allowed required, argumentFields effect = some (allowed, required) ∧
      ["owner", "repo"] ⊆ required := by
    simp only [githubEffects, List.mem_cons, List.not_mem_nil, or_false] at supported
    obtain rfl | rfl | rfl | rfl | rfl := supported <;> exact ⟨_, _, rfl, by decide⟩
  obtain ⟨allowed, required, fields, subset⟩ := required
  exact filledText_of_valid valid fields (subset among)

def argumentMap : JsonValue → Except AdapterRaised Arguments
  | .object data => .ok data
  | _ => .error (.contractValidationError "illegal_combination")

def requiredStr (data : Arguments) (field : String) : Except AdapterRaised String :=
  match data.get field with
  | .str value => .ok value
  | _ => .error (.contractValidationError "illegal_combination")

def requiredInt (data : Arguments) (field : String) : Except AdapterRaised Int :=
  match data.get field with
  | .int value => .ok value
  | _ => .error (.contractValidationError "illegal_combination")

/-! ## Payloads -/

def operationMarker (context : ProviderExecutionContext) : String :=
  "<!-- stateback-operation:" ++ context.operationId.value ++ " -->"

def markedBody (data : Arguments) (marker : String) : String :=
  match data.get "body" with
  | .str body => if body = "" then marker else body ++ "\n\n" ++ marker
  | _ => marker

/-- Validated items are strings. -/
def plainItem : JsonValue → Plain
  | .str value => .str value
  | .int value => .int value
  | .bool value => .bool value
  | .null | .array _ | .object _ => .none

def listField (data : Arguments) (field : String) : Dict :=
  match data.get field with
  | .array items => [(field, .list (items.map plainItem))]
  | _ => []

def createPayload (data : Arguments) (marker : String) : Except AdapterRaised Plain := do
  let title ← requiredStr data "title"
  pure (.dict ([("title", .str title), ("body", .str (markedBody data marker))] ++
    listField data "labels" ++ listField data "assignees"))

def draftField (data : Arguments) : Dict :=
  match data.get "draft" with
  | .bool draft => [("draft", .bool draft)]
  | _ => []

def pullPayload (data : Arguments) (marker : String) : Except AdapterRaised Plain := do
  let head ← requiredStr data "head"
  let base ← requiredStr data "base"
  let title ← requiredStr data "title"
  pure (.dict ([("head", .str head), ("base", .str base), ("title", .str title),
    ("body", .str (markedBody data marker))] ++ draftField data))

/-! ## Bodies -/

variable (py : Python)

def loadsOr (body : ByteArray) : Except AdapterRaised (Option Plain) :=
  match py.loads body with
  | .value plain => .ok (some plain)
  | .invalid => .ok none
  | .raised typeName => .error (.other typeName)

def Plain.dict? : Plain → Option Dict
  | .dict fields => some fields
  | _ => Option.none

def parseObject (body : ByteArray) : Except AdapterRaised (Option Dict) :=
  (loadsOr py body).map (·.bind Plain.dict?)

def Plain.dicts? : Plain → Option (List Dict)
  | .list items => items.mapM Plain.dict?
  | _ => Option.none

def parseArray (body : ByteArray) : Except AdapterRaised (Option (List Dict)) :=
  (loadsOr py body).map (·.bind Plain.dicts?)

/-- The field of a nested object. -/
def Plain.field (plain : Plain) (key : String) : Plain :=
  match plain with
  | .dict fields => Dict.get fields key
  | _ => .none

/-- `state in {"open", "closed"}`. -/
def openOrClosed : Plain → Except AdapterRaised (Option String)
  | .str state => .ok (if state ∈ ["open", "closed"] then some state else none)
  | .list _ | .dict _ => .error (.other "TypeError")
  | .none | .bool _ | .int _ | .float _ => .ok none

def rstripSlash (path : String) : String :=
  String.ofList (path.toList.reverse.dropWhile (· = '/')).reverse

def plainHttps (url : Url) (host : String) : Bool :=
  decide (url.scheme = "https" ∧ url.hostname = some host ∧ url.username = none ∧
    url.password = none ∧ url.port = none ∧ url.query = "")

def urlPath (url : Url) : String := py.casefold (rstripSlash (py.unquote url.path))

def httpsPath (url host : String) : Option String :=
  match py.urlparse url with
  | none => none
  | some parsed =>
    if plainHttps parsed host ∧ parsed.fragment = "" then some (urlPath py parsed) else none

def repositoryPath (owner repo : String) : String := "/" ++ owner ++ "/" ++ repo

def matchesPath (url : Plain) (host path : String) : Bool :=
  match url with
  | .str url => httpsPath py url host == some (py.casefold path)
  | _ => false

/-! ## Issues -/

structure IssueIdentity where
  issueId : String
  resourceId : String
  number : Int
  htmlUrl : String
  state : String
deriving DecidableEq, Repr

def issuePath (owner repo : String) (number : Int) : String :=
  repositoryPath owner repo ++ "/issues/" ++ toString number

def resourceName (owner repo : String) (number : Int) : String :=
  owner ++ "/" ++ repo ++ "#" ++ toString number

def numberExpected (expected : Option Int) (number : Int) : Bool :=
  expected.all fun value => decide (number = value)

def issueIdentity (parsed : Option Dict) (owner repo : String) (expectedNumber : Option Int) :
    Except AdapterRaised (Option IssueIdentity) :=
  match parsed with
  | none => .ok none
  | some data =>
    match data.get "id", data.get "number", data.get "html_url", data.get "repository_url" with
    | .int issueId, .int number, .str htmlUrl, .str repositoryUrl => do
      let state ← openOrClosed (data.get "state")
      pure (state.bind fun state =>
        if numberExpected expectedNumber number ∧
            matchesPath py (.str htmlUrl) "github.com" (issuePath owner repo number) ∧
            matchesPath py (.str repositoryUrl) "api.github.com"
              ("/repos" ++ repositoryPath owner repo) then
          some ⟨"github:issue:" ++ toString issueId, resourceName owner repo number, number,
            htmlUrl, state⟩
        else none)
    | _, _, _, _ => .ok none

/-! ## Comments -/

structure CommentIdentity where
  operationId : String
  resourceId : String
  commentId : Int
  htmlUrl : String
deriving DecidableEq, Repr

/-- The page of a comment: its issue's, at the comment's anchor. -/
def matchesCommentUrl (url owner repo : String) (issueNumber commentId : Int) : Bool :=
  match py.urlparse url with
  | none => false
  | some parsed =>
    plainHttps parsed "github.com" &&
      urlPath py parsed == py.casefold (issuePath owner repo issueNumber) &&
      parsed.fragment == "issuecomment-" ++ toString commentId

def commentIdentity (parsed : Option Dict) (owner repo : String) (issueNumber : Int) :
    Option CommentIdentity :=
  match parsed with
  | none => none
  | some data =>
    match data.get "id", data.get "html_url", data.get "issue_url", data.get "body" with
    | .int commentId, .str htmlUrl, .str issueUrl, .str _ =>
      if matchesCommentUrl py htmlUrl owner repo issueNumber commentId ∧
          matchesPath py (.str issueUrl) "api.github.com"
            ("/repos" ++ issuePath owner repo issueNumber) then
        some ⟨"github:comment:" ++ toString commentId,
          "github:comment:" ++ resourceName owner repo issueNumber ++ ":" ++ toString commentId,
          commentId, htmlUrl⟩
      else none
    | _, _, _, _ => none

/-! ## Pull requests -/

structure PullIdentity where
  operationId : String
  resourceId : String
  number : Int
  htmlUrl : String
  state : String
  headSha : String
deriving DecidableEq, Repr

def pullPath (owner repo : String) (number : Int) : String :=
  repositoryPath owner repo ++ "/pull/" ++ toString number

def pullTarget (owner repo : String) (number : Int) : String :=
  "github:pull:" ++ resourceName owner repo number

def issueTarget (owner repo : String) (number : Int) : String :=
  "github:issue-target:" ++ resourceName owner repo number

def filled : Plain → Bool
  | .str value => decide (value ≠ "")
  | _ => false

def pullIdentity (parsed : Option Dict) (owner repo : String) (expectedNumber : Option Int) :
    Except AdapterRaised (Option PullIdentity) :=
  match parsed with
  | none => .ok none
  | some data =>
    match data.get "id", data.get "number", data.get "html_url" with
    | .int pullId, .int number, .str htmlUrl => do
      let state ← openOrClosed (data.get "state")
      pure (state.bind fun state =>
        match (data.get "head").field "sha" with
        | .str headSha =>
          if isGitSha headSha ∧ filled ((data.get "head").field "ref") ∧
              filled ((data.get "base").field "ref") ∧ numberExpected expectedNumber number ∧
              matchesPath py (.str htmlUrl) "github.com" (pullPath owner repo number) then
            some ⟨"github:pull:" ++ toString pullId, pullTarget owner repo number, number, htmlUrl,
              state, headSha⟩
          else none
        | _ => none)
    | _, _, _ => .ok none

def Plain.is (text : String) : Plain → Bool
  | .str value => decide (value = text)
  | _ => false

/-- The repository a nested object belongs to, up to letter case. -/
def inRepository (repository : Plain) (owner repo : String) : Bool :=
  match repository.field "full_name" with
  | .str name => py.casefold name == py.casefold (owner ++ "/" ++ repo)
  | _ => false

/-- A head written `owner:branch` is compared with the label, any other with the branch. -/
def headMatches (head : Plain) (owner repo expectedHead : String) : Bool :=
  if ':' ∈ expectedHead.toList then (head.field "label").is expectedHead
  else (head.field "ref").is expectedHead && inRepository py (head.field "repo") owner repo

def Plain.isStr : Plain → Bool
  | .str _ => true
  | _ => false

def pullMatchesIntent (parsed : Option Dict) (owner repo expectedHead expectedBase : String) :
    Bool :=
  match parsed with
  | none => false
  | some data =>
    ((data.get "head").field "ref").isStr &&
      headMatches py (data.get "head") owner repo expectedHead &&
      ((data.get "base").field "ref").is expectedBase &&
      inRepository py ((data.get "base").field "repo") owner repo

/-! ## What an identity rests on -/

/-- The page of an object, on the host, at the path up to letter case. -/
def At (host path : String) (url : Plain) : Prop :=
  ∃ text, url = .str text ∧ httpsPath py text host = some (py.casefold path)

theorem matchesPath_iff {url : Plain} {host path : String} :
    matchesPath py url host path = true ↔ At py host path url := by
  cases url <;> simp [matchesPath, At]

/-- An issue of the repository, with its number and state. -/
structure ShowsIssue (data : Dict) (owner repo : String) (number : Int) (state : String) :
    Prop where
  numbered : data.get "number" = .int number
  inState : data.get "state" = .str state
  page : At py "github.com" (issuePath owner repo number) (data.get "html_url")
  repository : At py "api.github.com" ("/repos" ++ repositoryPath owner repo)
    (data.get "repository_url")

/-- A comment on the issue, with its id. -/
structure ShowsComment (data : Dict) (owner repo : String) (issueNumber commentId : Int) :
    Prop where
  identified : data.get "id" = .int commentId
  page : ∃ text, data.get "html_url" = .str text ∧
    matchesCommentUrl py text owner repo issueNumber commentId = true
  issue : At py "api.github.com" ("/repos" ++ issuePath owner repo issueNumber)
    (data.get "issue_url")

/-- A pull request of the repository, with its number, state and head. -/
structure ShowsPull (data : Dict) (owner repo : String) (number : Int) (state headSha : String) :
    Prop where
  numbered : data.get "number" = .int number
  inState : data.get "state" = .str state
  head : (data.get "head").field "sha" = .str headSha ∧ isGitSha headSha = true
  page : At py "github.com" (pullPath owner repo number) (data.get "html_url")

theorem openOrClosed_some {plain : Plain} {state : String}
    (known : openOrClosed plain = .ok (some state)) : plain = .str state := by
  cases plain with
  | str text =>
    simp only [openOrClosed, Except.ok.injEq, Option.ite_none_right_eq_some,
      Option.some.injEq] at known
    rw [known.2]
  | list _ | dict _ | none | bool _ | int _ | float _ => cases known

theorem numberExpected_some {number value : Int} :
    numberExpected (some value) number = true ↔ number = value := by
  simp [numberExpected]

theorem issueIdentity_some {parsed : Option Dict} {owner repo : String} {expected : Option Int}
    {issue : IssueIdentity}
    (found : issueIdentity py parsed owner repo expected = .ok (some issue)) :
    ∃ data, parsed = some data ∧ ShowsIssue py data owner repo issue.number issue.state ∧
      numberExpected expected issue.number = true ∧
      issue.resourceId = resourceName owner repo issue.number := by
  cases parsed with
  | none => cases found
  | some data =>
    simp only [issueIdentity] at found
    split at found
    case h_2 => cases found
    case h_1 issueId number htmlUrl repositoryUrl _ numbered page repository =>
      cases opened : openOrClosed (data.get "state") with
      | error e => rw [opened] at found; cases found
      | ok state =>
        rw [opened] at found
        simp only [bind, Except.bind, pure, Except.pure, Except.ok.injEq, Option.bind_eq_some_iff,
          Option.ite_none_right_eq_some, Option.some.injEq] at found
        obtain ⟨text, rfl, ⟨expected, onPage, inRepository⟩, rfl⟩ := found
        refine ⟨data, rfl, ⟨numbered, openOrClosed_some opened, ?_, ?_⟩, expected, rfl⟩
        · rw [page]
          exact (matchesPath_iff py).mp onPage
        · rw [repository]
          exact (matchesPath_iff py).mp inRepository

theorem commentIdentity_some {parsed : Option Dict} {owner repo : String} {issueNumber : Int}
    {comment : CommentIdentity}
    (found : commentIdentity py parsed owner repo issueNumber = some comment) :
    ∃ data, parsed = some data ∧
      ShowsComment py data owner repo issueNumber comment.commentId ∧
      comment.resourceId = "github:comment:" ++ resourceName owner repo issueNumber ++ ":" ++
        toString comment.commentId := by
  cases parsed with
  | none => cases found
  | some data =>
    simp only [commentIdentity] at found
    split at found
    case h_2 => cases found
    case h_1 commentId htmlUrl issueUrl text numbered page issue _ =>
      simp only [Option.ite_none_right_eq_some, Option.some.injEq] at found
      obtain ⟨⟨onPage, ofIssue⟩, rfl⟩ := found
      refine ⟨data, rfl, ⟨numbered, ⟨htmlUrl, page, onPage⟩, ?_⟩, rfl⟩
      rw [issue]
      exact (matchesPath_iff py).mp ofIssue

theorem pullIdentity_some {parsed : Option Dict} {owner repo : String} {expected : Option Int}
    {pull : PullIdentity}
    (found : pullIdentity py parsed owner repo expected = .ok (some pull)) :
    ∃ data, parsed = some data ∧
      ShowsPull py data owner repo pull.number pull.state pull.headSha ∧
      numberExpected expected pull.number = true ∧
      pull.resourceId = pullTarget owner repo pull.number := by
  cases parsed with
  | none => cases found
  | some data =>
    simp only [pullIdentity] at found
    split at found
    case h_2 => cases found
    case h_1 pullId number htmlUrl _ numbered page =>
      cases opened : openOrClosed (data.get "state") with
      | error e => rw [opened] at found; cases found
      | ok state =>
        rw [opened] at found
        simp only [bind, Except.bind, pure, Except.pure, Except.ok.injEq,
          Option.bind_eq_some_iff] at found
        obtain ⟨text, rfl, found⟩ := found
        split at found
        case h_2 => cases found
        case h_1 headSha head =>
          simp only [Option.ite_none_right_eq_some, Option.some.injEq] at found
          obtain ⟨⟨sha, _, _, expected, onPage⟩, rfl⟩ := found
          refine ⟨data, rfl, ⟨numbered, openOrClosed_some opened, ⟨head, sha⟩, ?_⟩, expected, rfl⟩
          rw [page]
          exact (matchesPath_iff py).mp onPage

def InRepository (repository : Plain) (owner repo : String) : Prop :=
  ∃ name, repository.field "full_name" = .str name ∧
    py.casefold name = py.casefold (owner ++ "/" ++ repo)

/-- The head and the base that were asked for. -/
structure ShowsIntent (data : Dict) (owner repo head base : String) : Prop where
  head : if ':' ∈ head.toList then (data.get "head").field "label" = .str head
    else (data.get "head").field "ref" = .str head ∧
      InRepository py ((data.get "head").field "repo") owner repo
  base : (data.get "base").field "ref" = .str base
  target : InRepository py ((data.get "base").field "repo") owner repo

theorem is_eq_true {plain : Plain} {text : String} : plain.is text = true ↔ plain = .str text := by
  cases plain <;> simp [Plain.is]

theorem inRepository_iff {repository : Plain} {owner repo : String} :
    inRepository py repository owner repo = true ↔ InRepository py repository owner repo := by
  unfold inRepository InRepository
  cases repository.field "full_name" <;> simp

theorem pullMatchesIntent_some {parsed : Option Dict} {owner repo head base : String}
    (agreed : pullMatchesIntent py parsed owner repo head base = true) :
    ∃ data, parsed = some data ∧ ShowsIntent py data owner repo head base := by
  cases parsed with
  | none => cases agreed
  | some data =>
    simp only [pullMatchesIntent, headMatches, Bool.and_eq_true, is_eq_true,
      inRepository_iff] at agreed
    obtain ⟨⟨⟨_, headAgrees⟩, baseAgrees⟩, target⟩ := agreed
    refine ⟨data, rfl, ?_, baseAgrees, target⟩
    split at headAgrees
    case isTrue labelled => rwa [if_pos labelled, ← is_eq_true]
    case isFalse plain =>
      rw [if_neg plain]
      simpa only [Bool.and_eq_true, is_eq_true, inRepository_iff] using headAgrees

/-! ## Resource ids -/

structure IssueResource where
  owner : String
  repo : String
  number : Int
deriving DecidableEq, Repr

/-- `s[len(start):]` if `s.startswith(start)`. -/
def withoutStart (start s : String) : Option String :=
  (s.toList.dropPrefix? start.toList).map String.ofList

def parsePrefixedResource (resources : List String) (start : String) : Option String :=
  resources.findSome? (withoutStart start)

def parseResource (resource : String) : Option IssueResource :=
  match Cut.rcut '#' resource.toList with
  | none => none
  | some (repository, numberRaw) =>
    match Cut.cut '/' repository, py.int (String.ofList numberRaw) with
    | some (owner, repo), some number =>
      if owner ≠ [] ∧ repo ≠ [] ∧ 1 ≤ number then
        some ⟨String.ofList owner, String.ofList repo, number⟩
      else none
    | _, _ => none

def parseTargetResource (resources : List String) (start : String) : Option IssueResource :=
  (parsePrefixedResource resources start).bind (parseResource py)

def firstIssueResource (externalResourceIds : List String) : Option IssueResource :=
  externalResourceIds.findSome? (parseResource py)

def resourceFromOriginalEvidence (request : CompensationRequest) : Option IssueResource :=
  request.originalEvidence.findSome? fun evidence =>
    firstIssueResource py evidence.externalResourceIds

/-! ## Marked issues -/

/-- What follows the last occurrence of the fragment. -/
def afterLast (fragment : List Char) : List Char → Option (List Char)
  | [] => none
  | head :: tail =>
    match afterLast fragment tail with
    | some rest => some rest
    | none => (head :: tail).dropPrefix? fragment

/-- The repository an item of a search says it is in. -/
def repositoryOf : Plain → Option (String × String)
  | .str url =>
    match (afterLast "/repos/".toList url.toList).bind (Cut.cut '/') with
    | some (owner, repo) => some (String.ofList owner, String.ofList repo)
    | none => none
  | _ => none

def carriesMarker (marker : String) (item : Dict) : Bool :=
  match item.get "body" with
  | .str body => containsText marker body
  | _ => false

/-- One turn of the loop of `find_marked_issue`. -/
def markedIdentity (marker : String) (resource : Option IssueResource) (item : Dict) :
    Except AdapterRaised (Option IssueIdentity) :=
  if carriesMarker marker item then
    match resource with
    | some resource =>
      issueIdentity py (some item) resource.owner resource.repo (some resource.number)
    | none =>
      match repositoryOf (item.get "repository_url") with
      | some (owner, repo) => issueIdentity py (some item) owner repo none
      | none => .ok none
  else .ok none

/-- The first result of a loop that may raise. -/
def findFirst {α β : Type} (f : α → Except AdapterRaised (Option β)) :
    List α → Except AdapterRaised (Option β)
  | [] => .ok none
  | item :: rest => do
    match ← f item with
    | some found => pure (some found)
    | none => findFirst f rest

def markedCandidates (resource : Option IssueResource) : Option Dict → List Dict
  | none => []
  | some parsed =>
    match resource with
    | some _ => [parsed]
    | none =>
      match parsed.get "items" with
      | .list items => items.filterMap Plain.dict?
      | _ => []

def findMarkedIssue (body : ByteArray) (marker : String) (resource : Option IssueResource) :
    Except AdapterRaised (Option IssueIdentity) := do
  let parsed ← parseObject py body
  findFirst (markedIdentity py marker resource) (markedCandidates resource parsed)

end Stateback.Providers.GitHub
