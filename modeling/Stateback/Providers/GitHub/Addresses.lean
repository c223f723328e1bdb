import Stateback.Providers.GitHub.Verification
/-!
# Addresses

Resource ids join free texts with `/` and `#`, and verification takes them apart again.  What
stands before the first slash is read as the owner, so an owner with a slash is never read back;
a repository, a label or a branch may contain any character.
-/

namespace Stateback.Providers.GitHub

open Stateback.Domain

/-- The objects an effect creates are named by the number in the response. -/
def creates (effect : EffectRef) : Bool :=
  decide (effect = effectCreateIssue ∨ effect = effectCreatePullRequest)

/-- The ids a pull request leaves once it is created. -/
def createdPull (owner repo head base : String) (number : Int) (headSha : String) : List String :=
  GitHubAdapter.pullTargets owner repo head base ++
    [pullTarget owner repo number, "github:head-sha:" ++ headSha]

/-- Verification reads from the targets, and from the ids of a response with this number and head,
what they were made of. -/
def RoundTrips (py : Python) (data : Arguments) (owner repo : String) (number : Int)
    (headSha : String) (effect : EffectRef) (targets : List String) : Prop :=
  if effect = effectCreateIssue then
    firstIssueResource py (targets ++ [resourceName owner repo number]) =
      some ⟨owner, repo, number⟩
  else if effect = effectCreateIssueComment then
    ∀ n, data.get "issue_number" = .int n →
      parseTargetResource py targets "github:issue-target:" = some ⟨owner, repo, n⟩
  else if effect = effectAddLabel then
    ∀ n label, data.get "issue_number" = .int n → data.get "label" = .str label →
      parseTargetResource py targets "github:issue-target:" = some ⟨owner, repo, n⟩ ∧
        parsePrefixedResource targets "github:label:" = some label
  else if effect = effectCreatePullRequest then
    ∀ head base, data.get "head" = .str head → data.get "base" = .str base →
      ∀ request : VerificationRequest,
        (request.externalResourceIds = targets →
          pullVerificationTarget py request =
            some ⟨owner, repo, none, some head, some base⟩) ∧
        (request.externalResourceIds = createdPull owner repo head base number headSha →
          pullVerificationTarget py request =
              some ⟨owner, repo, some number, some head, some base⟩ ∧
            parsePrefixedResource request.externalResourceIds "github:head-sha:" = some headSha)
  else
    ∀ n expected, data.get "pull_number" = .int n → data.get "head_sha" = .str expected →
      parseTargetResource py targets "github:pull:" = some ⟨owner, repo, n⟩ ∧
        parsePrefixedResource targets "github:head-sha:" = some (py.lower expected)

variable {py : Python} {data : Arguments} {owner repo : String} {number : Int} {headSha : String}

section Reading

variable (reads : ReadsIntegers py) (owned : owner ≠ "") (nonempty : repo ≠ "")

include reads owned nonempty

theorem parseResource_eq_iff {n : Int} :
    parseResource py (resourceName owner repo n) = some ⟨owner, repo, n⟩ ↔
      '/' ∉ owner.toList ∧ 1 ≤ n := by
  constructor
  · intro recovered
    obtain ⟨repoRead, -, parsed⟩ := parseResource_resourceName reads owner nonempty
    rw [parsed] at recovered
    simp only [Option.ite_none_right_eq_some, Option.some.injEq, IssueResource.mk.injEq]
      at recovered
    exact ⟨ownerRead_eq_self.mp recovered.2.1, recovered.1.2⟩
  · rintro ⟨plain, positive⟩
    rw [parseResource_own reads plain owned nonempty, if_pos positive]

theorem issueTarget_read_iff {n : Int} {rest : List String} :
    parseTargetResource py (issueTarget owner repo n :: rest) "github:issue-target:" =
        some ⟨owner, repo, n⟩ ↔ '/' ∉ owner.toList ∧ 1 ≤ n := by
  rw [parseTargetResource, parsePrefixedResource_cons, withoutStart_issueTarget, Option.some_or,
    Option.bind_some, parseResource_eq_iff reads owned nonempty]

theorem pullTarget_read_iff {n : Int} {rest : List String} :
    parseTargetResource py (pullTarget owner repo n :: rest) "github:pull:" =
        some ⟨owner, repo, n⟩ ↔ '/' ∉ owner.toList ∧ 1 ≤ n := by
  rw [parseTargetResource, parsePrefixedResource_cons, pullTarget, withoutStart_append,
    Option.some_or, Option.bind_some, parseResource_eq_iff reads owned nonempty]

omit reads owned nonempty in
theorem cut_repository_iff :
    Cut.cut '/' (owner ++ "/" ++ repo).toList = some (owner.toList, repo.toList) ↔
      '/' ∉ owner.toList := by
  have joined : (owner ++ "/" ++ repo).toList = owner.toList ++ '/' :: repo.toList := by simp
  rw [joined]
  constructor
  · exact fun found => (Cut.eq_of_cut found).2
  · exact Cut.cut_append

omit reads owned nonempty in
theorem parsePrefixedResource_label {n : Int} {label : String} :
    parsePrefixedResource [issueTarget owner repo n, "github:label:" ++ label] "github:label:" =
      some label := by
  rw [parsePrefixedResource_cons, withoutStart_label_issueTarget, Option.none_or,
    parsePrefixedResource_cons, withoutStart_append, Option.some_or]

omit reads owned nonempty in
theorem parsePrefixedResource_headSha {n : Int} {rest : List String} :
    parsePrefixedResource (pullTarget owner repo n :: ("github:head-sha:" ++ headSha) :: rest)
      "github:head-sha:" = some headSha := by
  rw [parsePrefixedResource_cons, withoutStart_headSha_pullTarget, Option.none_or,
    parsePrefixedResource_cons, withoutStart_append, Option.some_or]

omit reads owned nonempty in
theorem parsePrefixedResource_targets_headSha {head base : String} {rest : List String} :
    parsePrefixedResource (GitHubAdapter.pullTargets owner repo head base ++ rest)
      "github:head-sha:" = parsePrefixedResource rest "github:head-sha:" := by
  simp [GitHubAdapter.pullTargets, parsePrefixedResource_cons, withoutStart, List.dropPrefix?]

omit owned nonempty reads in
/-- Before a number is known, a pull request is listed in its repository. -/
theorem listed_read_iff {head base : String} {request : VerificationRequest}
    (ids : request.externalResourceIds = GitHubAdapter.pullTargets owner repo head base) :
    pullVerificationTarget py request = some ⟨owner, repo, none, some head, some base⟩ ↔
      '/' ∉ owner.toList := by
  obtain ⟨heads, bases, repositories, numbers⟩ :=
    @parsePrefixedResource_pullTargets owner repo head base []
  rw [List.append_nil] at heads bases repositories numbers
  have unnumbered : parseTargetResource py request.externalResourceIds "github:pull:" = none := by
    rw [parseTargetResource, ids, numbers]
    rfl
  simp only [pullVerificationTarget, unnumbered]
  rw [ids, heads, bases, repositories, Option.bind_some, ← @cut_repository_iff owner repo]
  cases found : Cut.cut '/' (owner ++ "/" ++ repo).toList with
  | none => simp
  | some parts =>
    simp [← String.toList_inj, Prod.ext_iff]

theorem created_read_iff {head base : String} {request : VerificationRequest}
    (ids : request.externalResourceIds = createdPull owner repo head base number headSha) :
    pullVerificationTarget py request =
        some ⟨owner, repo, some number, some head, some base⟩ ↔
      '/' ∉ owner.toList ∧ 1 ≤ number := by
  obtain ⟨heads, bases, -, numbers⟩ := @parsePrefixedResource_pullTargets owner repo head base
    [pullTarget owner repo number, "github:head-sha:" ++ headSha]
  have target : parseTargetResource py request.externalResourceIds "github:pull:" =
      parseResource py (resourceName owner repo number) := by
    rw [parseTargetResource, ids, createdPull, numbers, parsePrefixedResource_cons, pullTarget,
      withoutStart_append, Option.some_or, Option.bind_some]
  rw [← parseResource_eq_iff reads owned nonempty, ← target]
  simp only [pullVerificationTarget, ids, createdPull, heads, bases]
  rw [← createdPull, ← ids]
  cases parseTargetResource py request.externalResourceIds "github:pull:" with
  | some pull =>
    cases pull
    simp
  | none =>
    simp only [reduceCtorEq, iff_false]
    split <;> simp

end Reading

def slashedComment : Arguments :=
  [("owner", .str "acme/labs"), ("repo", .str "app"), ("issue_number", .int 7),
    ("body", .str "Done")]

end Stateback.Providers.GitHub
