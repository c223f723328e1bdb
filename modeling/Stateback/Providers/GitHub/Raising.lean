import Stateback.Domain.Canonical
import Stateback.Providers.GitHub.Execution
/-!
# Verifications that raise

A verification answers nothing when an exception leaves it.  Three responses do that: a body that
`json.loads` raises on with an exception the codec does not catch, an issue or a pull request whose
state is a JSON array or object, and a status that no error can carry.
-/

namespace Stateback.Providers.GitHub

open Stateback.Domain Process

/-! ## Fields that are no secrets -/

theorem secretFree_jsonObjectFromPlain {lower : String → String}
    {items : List (String × JsonValue)} :
    secretFree lower (jsonObjectFromPlain items) = true ↔
      ∀ pair ∈ items, keyIsForbidden lower pair.1 = false ∧ secretFree lower pair.2 = true := by
  rw [jsonObjectFromPlain, secretFree, secretFreeFields_iff]
  exact forall_congr' fun pair => imp_congr_left (sortByKey_perm items).mem_iff

variable {py : Python}

/-- The keys of the evidence of a verification. -/
def evidenceKeys : List String :=
  ["exception_type", "marker_matched", "absence_is_conclusive", "search_complete", "label",
    "present", "expected_head_sha", "head_matched"]

theorem evidenceKeys_plain (lowers : LowersAscii py.lower) :
    ∀ key ∈ evidenceKeys, keyIsForbidden py.lower key = false := by
  have ascii : ∀ key ∈ evidenceKeys, isAscii key = true := by decide +kernel
  have plain : ∀ key ∈ evidenceKeys, keyIsForbidden asciiLower key = false := by decide +kernel
  intro key among
  rw [keyIsForbidden_congr (lowers key (ascii key among))]
  exact plain key among

/-- Fields under these keys are free of secrets if their values are. -/
theorem evidence_free (lowers : LowersAscii py.lower) {items : List (String × JsonValue)}
    (keys : ∀ pair ∈ items, pair.1 ∈ evidenceKeys)
    (values : ∀ pair ∈ items, secretFree py.lower pair.2 = true) :
    secretFree py.lower (jsonObjectFromPlain items) = true :=
  secretFree_jsonObjectFromPlain.mpr fun pair among =>
    ⟨evidenceKeys_plain lowers pair.1 (keys pair among), values pair among⟩

theorem strip_hex {s : String} (hex : ∀ c ∈ s.toList, c ∈ hexDigits) : strip s = s := by
  have spaceless : ∀ c ∈ hexDigits, (!isSpace c) = true :=
    List.all_eq_true.mp (by decide +kernel)
  have kept : ∀ cs : List Char, (∀ c ∈ cs, c ∈ hexDigits) → cs.dropWhile isSpace = cs := by
    intro cs all
    cases cs with
    | nil => rfl
    | cons c rest =>
      exact List.dropWhile_cons_of_neg (by simpa using spaceless c (all c List.mem_cons_self))
  rw [strip, kept _ hex, kept _ fun c among => hex c (List.mem_reverse.mp among),
    List.reverse_reverse, String.ofList_toList]

theorem lower_hex (lowers : LowersAscii py.lower) {s : String}
    (hex : ∀ c ∈ s.toList, c ∈ hexDigits) :
    py.lower s = asciiLower s ∧ ∀ c ∈ (asciiLower s).toList, c ∈ hexDigits := by
  have ascii : ∀ c ∈ hexDigits, decide (c.toNat < 128) = true :=
    List.all_eq_true.mp (by decide +kernel)
  have lowered : ∀ c ∈ hexDigits, hexDigits.contains c.toLower = true :=
    List.all_eq_true.mp (by decide +kernel)
  refine ⟨lowers s (List.all_eq_true.mpr fun c among => ascii c (hex c among)), ?_⟩
  intro c among
  rw [asciiLower, String.toList_ofList] at among
  obtain ⟨d, inside, rfl⟩ := List.mem_map.mp among
  exact List.contains_iff_mem.mp (lowered d (hex d inside))

/-- A commit is no secret. -/
theorem hex_plain (lowers : LowersAscii py.lower) {s : String}
    (hex : ∀ c ∈ s.toList, c ∈ hexDigits) :
    valueIsForbidden py.lower s = false := by
  obtain ⟨lower, lowered⟩ := lower_hex lowers hex
  have bearer : "bearer ".toList.isPrefixOf (asciiLower s).toList = false := by
    rw [Bool.eq_false_iff]
    intro starts
    have member := (List.isPrefixOf_iff_prefix.mp starts).subset
      (show 'r' ∈ "bearer ".toList by decide)
    exact absurd (lowered _ member) (by decide)
  have begin_ : containsText "-----begin " (asciiLower s) = false := by
    rw [containsText, decide_eq_false_iff_not]
    intro inside
    have member := inside.subset (show '-' ∈ "-----begin ".toList by decide)
    exact absurd (lowered _ member) (by decide)
  rw [valueIsForbidden, strip_hex hex, lower, bearer, begin_]
  rfl

/-! ## Objects that raise -/

theorem map_error {α β : Type} {e : AdapterRaised} {f : α → β} {x : Except AdapterRaised α} :
    x.map f = .error e ↔ x = .error e := by
  cases x <;> simp [Except.map]

/-- The state is a JSON array or object, which no set can be asked for. -/
def OddState (doc : Dict) : Prop :=
  (∃ items, doc.get "state" = .list items) ∨ ∃ fields, doc.get "state" = .dict fields

/-- An object whose state is looked at as an issue's. -/
structure OddIssue (doc : Dict) : Prop where
  id : ∃ n, doc.get "id" = .int n
  number : ∃ n, doc.get "number" = .int n
  page : ∃ url, doc.get "html_url" = .str url
  repository : ∃ url, doc.get "repository_url" = .str url
  state : OddState doc

/-- An object whose state is looked at as a pull request's. -/
structure OddPull (doc : Dict) : Prop where
  id : ∃ n, doc.get "id" = .int n
  number : ∃ n, doc.get "number" = .int n
  page : ∃ url, doc.get "html_url" = .str url
  state : OddState doc

theorem openOrClosed_error {doc : Dict} :
    (∃ e, openOrClosed (doc.get "state") = .error e) ↔ OddState doc := by
  unfold OddState
  cases doc.get "state" <;> simp [openOrClosed]

variable {owner repo marker : String} {expected : Option Int}

theorem issueIdentity_error {parsed : Option Dict} :
    (∃ e, issueIdentity py parsed owner repo expected = .error e) ↔
      ∃ doc, parsed = some doc ∧ OddIssue doc := by
  cases parsed with
  | none => simp [issueIdentity]
  | some doc =>
    have shaped : OddIssue doc ↔ ((∃ n, doc.get "id" = .int n) ∧ (∃ n, doc.get "number" = .int n) ∧
        (∃ url, doc.get "html_url" = .str url) ∧
        ∃ url, doc.get "repository_url" = .str url) ∧ OddState doc :=
      ⟨fun odd => ⟨⟨odd.id, odd.number, odd.page, odd.repository⟩, odd.state⟩,
        fun odd => ⟨odd.1.1, odd.1.2.1, odd.1.2.2.1, odd.1.2.2.2, odd.2⟩⟩
    simp only [Option.some.injEq, exists_eq_left', shaped, issueIdentity]
    split
    next id number page repository =>
      have typed : (∃ n, doc.get "id" = .int n) ∧ (∃ n, doc.get "number" = .int n) ∧
          (∃ url, doc.get "html_url" = .str url) ∧ ∃ url, doc.get "repository_url" = .str url :=
        ⟨⟨_, id⟩, ⟨_, number⟩, ⟨_, page⟩, ⟨_, repository⟩⟩
      rw [and_iff_right typed, ← openOrClosed_error]
      cases openOrClosed (doc.get "state") <;> simp [bind, Except.bind, pure, Except.pure]
    next other =>
      simp only [reduceCtorEq, exists_false, false_iff, not_and]
      rintro ⟨⟨_, id⟩, ⟨_, number⟩, ⟨_, page⟩, ⟨_, repository⟩⟩
      exact absurd repository (other _ _ _ _ id number page)

theorem pullIdentity_error {parsed : Option Dict} :
    (∃ e, pullIdentity py parsed owner repo expected = .error e) ↔
      ∃ doc, parsed = some doc ∧ OddPull doc := by
  cases parsed with
  | none => simp [pullIdentity]
  | some doc =>
    have shaped : OddPull doc ↔ ((∃ n, doc.get "id" = .int n) ∧ (∃ n, doc.get "number" = .int n) ∧
        ∃ url, doc.get "html_url" = .str url) ∧ OddState doc :=
      ⟨fun odd => ⟨⟨odd.id, odd.number, odd.page⟩, odd.state⟩,
        fun odd => ⟨odd.1.1, odd.1.2.1, odd.1.2.2, odd.2⟩⟩
    simp only [Option.some.injEq, exists_eq_left', shaped, pullIdentity]
    split
    next id number page =>
      have typed : (∃ n, doc.get "id" = .int n) ∧ (∃ n, doc.get "number" = .int n) ∧
          ∃ url, doc.get "html_url" = .str url := ⟨⟨_, id⟩, ⟨_, number⟩, ⟨_, page⟩⟩
      rw [and_iff_right typed, ← openOrClosed_error]
      cases openOrClosed (doc.get "state") <;> simp [bind, Except.bind, pure, Except.pure]
    next other =>
      simp only [reduceCtorEq, exists_false, false_iff, not_and]
      rintro ⟨⟨_, id⟩, ⟨_, number⟩, ⟨_, page⟩⟩
      exact absurd page (other _ _ _ id number)

/-- The loop comes to the item: nothing before it has ended the loop. -/
def Met {α β : Type} (turn : α → Except AdapterRaised (Option β)) (items : List α) (item : α) :
    Prop :=
  ∃ before after, items = before ++ item :: after ∧ ∀ earlier ∈ before, turn earlier = .ok none

theorem findFirst_error {α β : Type} {turn : α → Except AdapterRaised (Option β)}
    {items : List α} : (∃ e, findFirst turn items = .error e) ↔
      ∃ item, Met turn items item ∧ ∃ e, turn item = .error e := by
  induction items with
  | nil => simp [findFirst, Met]
  | cons item rest ih =>
    have met : ∀ other, Met turn (item :: rest) other ↔
        other = item ∨ turn item = .ok none ∧ Met turn rest other := by
      intro other
      constructor
      · rintro ⟨before, after, split, quiet⟩
        cases before with
        | nil =>
          rw [List.nil_append, List.cons.injEq] at split
          exact .inl split.1.symm
        | cons first before =>
          rw [List.cons_append, List.cons.injEq] at split
          obtain ⟨rfl, rfl⟩ := split
          exact .inr ⟨quiet item List.mem_cons_self, before, after, rfl, fun earlier among =>
            quiet earlier (List.mem_cons_of_mem _ among)⟩
      · rintro (rfl | ⟨passed, before, after, rfl, quiet⟩)
        · exact ⟨[], rest, rfl, List.forall_mem_nil _⟩
        · refine ⟨item :: before, after, rfl, fun earlier among => ?_⟩
          rcases List.mem_cons.mp among with rfl | later
          · exact passed
          · exact quiet earlier later
    simp only [findFirst, met, or_and_right, exists_or, exists_eq_left]
    cases tried : turn item with
    | error e => simp [bind, Except.bind]
    | ok found =>
      cases found with
      | some value => simp [bind, Except.bind, pure, Except.pure]
      | none => simpa [bind, Except.bind] using ih

theorem markedIdentity_error {resource : Option IssueResource} {doc : Dict} :
    (∃ e, markedIdentity py marker resource doc = .error e) ↔
      carriesMarker marker doc = true ∧ OddIssue doc ∧
        (resource = none → (repositoryOf (doc.get "repository_url")).isSome) := by
  have odd : ∀ owner repo expected,
      (∃ e, issueIdentity py (some doc) owner repo expected = .error e) ↔ OddIssue doc := by
    intro owner repo expected
    rw [issueIdentity_error]
    simp
  unfold markedIdentity
  by_cases marked : carriesMarker marker doc = true
  · rw [if_pos marked]
    cases resource with
    | some resource => simp [odd, marked]
    | none =>
      cases named : repositoryOf (doc.get "repository_url") with
      | none => simp
      | some pair => simp [odd, marked]
  · rw [if_neg marked]
    simp [marked]

theorem seenPull_error {number : Option Int} {head base : String} {doc : Dict} :
    (∃ e, seenPull py marker owner repo number head base doc = .error e) ↔ OddPull doc := by
  have identity := @pullIdentity_error py owner repo number (some doc)
  simp only [Option.some.injEq, exists_eq_left'] at identity
  rw [← identity]
  unfold seenPull
  cases pullIdentity py (some doc) owner repo number <;>
    simp [bind, Except.bind, pure, Except.pure]

theorem parseObject_error {body : ByteArray} :
    (∃ e, parseObject py body = .error e) ↔ ∃ typeName, py.loads body = .raised typeName := by
  unfold parseObject loadsOr
  cases py.loads body <;> simp [Except.map]

theorem candidatesOf_error {single : Bool} {body : ByteArray} :
    (∃ e, candidatesOf py single body = .error e) ↔
      ∃ typeName, py.loads body = .raised typeName := by
  unfold candidatesOf parseArray parseObject loadsOr
  cases single <;> cases py.loads body <;> simp [Except.map]

/-! ## Responses that raise -/

/-- A body read with status 200 raises. -/
inductive RaisingBody (py : Python) (marker : String) (request : VerificationRequest)
    (body : ByteArray) : Prop
  | unread {typeName : String} (raised : py.loads body = .raised typeName)
  | knownIssue {doc : Dict} {resource : IssueResource}
      (effect : request.effect = effectCreateIssue)
      (known : firstIssueResource py request.externalResourceIds = some resource)
      (parsed : parseObject py body = .ok (some doc)) (odd : OddIssue doc)
  | foundIssue {parsed : Option Dict} {doc : Dict} (effect : request.effect = effectCreateIssue)
      (unknown : firstIssueResource py request.externalResourceIds = none)
      (read : parseObject py body = .ok parsed)
      (met : Met (markedIdentity py marker none) (markedCandidates none parsed) doc)
      (marked : carriesMarker marker doc = true)
      (named : (repositoryOf (doc.get "repository_url")).isSome) (odd : OddIssue doc)
  | pull {owner repo head base : String} {number : Option Int} {candidates : List Dict}
      {doc : Dict} (effect : request.effect = effectCreatePullRequest)
      (target : pullVerificationTarget py request =
        some ⟨owner, repo, number, some head, some base⟩)
      (read : candidatesOf py number.isSome body = .ok candidates)
      (met : Met (seenPull py marker owner repo number head base) candidates doc)
      (odd : OddPull doc)
  | merge {doc : Dict} (effect : request.effect = effectMergePullRequest)
      (parsed : parseObject py body = .ok (some doc)) (odd : OddPull doc)

/-- The exchange makes the verification raise. -/
inductive Raising (py : Python) (marker : String) (request : VerificationRequest)
    (exchange : Exchange) : Prop
  | exception {typeName : String} (answered : exchange.answer = .error typeName)
      (secret : valueIsForbidden py.lower typeName = true)
  | status {response : GitHubHttpResponse} (answered : exchange.answer = .ok response)
      (outside : ¬ (100 ≤ response.status ∧ response.status ≤ 599))
  | body {response : GitHubHttpResponse} (answered : exchange.answer = .ok response)
      (accepted : response.status = 200)
      (raises : RaisingBody py marker request response.body)

/-- Nothing is answered exactly when one of the exchanges raises. -/
def Answers {α : Type} (raising : Exchange → Prop) : Except AdapterRaised α → List Exchange → Prop
  | .ok _, sent => ∀ exchange ∈ sent, ¬ raising exchange
  | .error _, sent => ∃ exchange ∈ sent, raising exchange

section Rules

variable {α β : Type} {Q : Except AdapterRaised α → List Exchange → Prop}
  {raising : Exchange → Prop} {sent : List Exchange} {exchange : Exchange}

theorem ends_lift {x : Except AdapterRaised β} {f : β → Calling α}
    (raised : ∀ e, x = .error e → Q (.error e) sent)
    (read : ∀ b, x = .ok b → Learns exchanged Q (f b) sent) :
    Learns exchanged Q (Calling.lift x >>= f) sent := by
  cases x with
  | error e => exact learns_raise.mpr (raised e rfl)
  | ok b => exact read b rfl

theorem ends_ok {b : β} {f : β → Calling α} (read : Learns exchanged Q (f b) sent) :
    Learns exchanged Q (Calling.lift (.ok b) >>= f) sent := read

theorem ends_error {e : AdapterRaised} {f : β → Calling α} (raised : Q (.error e) sent) :
    Learns exchanged Q (Calling.lift (.error e) >>= f) sent := learns_raise.mpr raised

theorem ends_evidence {source : EvidenceSource} {status : String}
    {requestId operationId : Option String} {ids : List String} {fields : JsonValue}
    {reference : Option String} {f : ProviderEvidence → Calling α}
    (secret : secretFree py.lower fields = false → ∀ e, Q (.error e) sent)
    (free : secretFree py.lower fields = true → ∀ evidence, Learns exchanged Q (f evidence) sent) :
    Learns exchanged Q
      (providerEvidence py source status requestId operationId ids fields reference >>= f)
      sent := by
  rw [providerEvidence, Prog.bind_assoc, learns_now]
  intro observedAt
  cases clean : secretFree py.lower fields with
  | true =>
    rw [if_pos rfl, Prog.pure_bind]
    exact free clean _
  | false =>
    rw [if_neg (by simp), Prog.raise_bind, learns_raise]
    exact secret clean _

theorem answers_verified {outcome : EffectOutcome} {source : EvidenceSource} {status : String}
    {requestId operationId : Option String} {ids : List String} {fields : JsonValue}
    {reference : String} (free : secretFree py.lower fields = true)
    (quiet : ∀ exchange ∈ sent, ¬ raising exchange) :
    Learns exchanged (Answers raising)
      (verified py outcome source status requestId operationId ids fields reference) sent := by
  apply ends_evidence
  · intro secret
    rw [free] at secret
    cases secret
  · intro _ evidence
    exact learns_pure.mpr quiet

/-- An error is told unless its evidence or its status is refused. -/
theorem answers_verificationError {kind : ErrorKind} {code status : String} {retryable : Bool}
    {http retryAfter : Option Int} {exceptionType : Option String}
    (refused : secretFree py.lower (exceptionFields exceptionType) = false ∨
      ¬ (http.all fun status => decide (100 ≤ status ∧ status ≤ 599)) = true →
        ∃ exchange ∈ sent, raising exchange)
    (quiet : secretFree py.lower (exceptionFields exceptionType) = true →
      (http.all fun status => decide (100 ≤ status ∧ status ≤ 599)) = true →
        ∀ exchange ∈ sent, ¬ raising exchange) :
    Learns exchanged (Answers raising)
      (verificationError py kind code status retryable http retryAfter exceptionType) sent := by
  apply ends_evidence
  · exact fun secret _ => refused (.inl secret)
  · intro free evidence
    unfold normalizedError
    by_cases range : (http.all fun status => decide (100 ≤ status ∧ status ≤ 599)) = true
    · rw [if_pos range]
      exact ends_ok (learns_pure.mpr (quiet free range))
    · rw [if_neg range]
      exact ends_error (refused (.inr range))

/-- An error without an exception's name or a status is always told. -/
theorem answers_plainError {kind : ErrorKind} {code status : String} {retryable : Bool}
    (quiet : ∀ exchange ∈ sent, ¬ raising exchange) :
    Learns exchanged (Answers raising)
      (verificationError py kind code status retryable none none none) sent := by
  apply answers_verificationError
  · rintro (secret | range)
    · cases secret
    · exact absurd rfl range
  · exact fun _ _ => quiet

theorem answers_inconclusiveAbsence (lowers : LowersAscii py.lower)
    {response : GitHubHttpResponse} (quiet : ∀ exchange ∈ sent, ¬ raising exchange) :
    Learns exchanged (Answers raising) (inconclusiveAbsence py response) sent := by
  apply ends_evidence
  · intro secret
    rw [evidence_free lowers (by decide) (by simp [secretFree])] at secret
    cases secret
  · intro _ evidence
    exact ends_ok (learns_pure.mpr quiet)

theorem markerMatched_free (lowers : LowersAscii py.lower) :
    secretFree py.lower markerMatched = true :=
  evidence_free lowers (by decide) (by simp [secretFree])

theorem exceptionFields_free (lowers : LowersAscii py.lower) {typeName : String} :
    secretFree py.lower (exceptionFields (some typeName)) =
      !valueIsForbidden py.lower typeName := by
  have key := evidenceKeys_plain lowers "exception_type" (by decide)
  rw [Bool.eq_iff_iff]
  simp [exceptionFields, secretFree_jsonObjectFromPlain, key, secretFree]

variable {request : VerificationRequest}

theorem answers_requestVerification (lowers : LowersAscii py.lower) {path : String}
    {read : GitHubHttpResponse → Calling VerificationEvidence}
    (reads : ∀ exchange response, exchange.answer = .ok response → response.status = 200 →
      Learns exchanged (Answers (Raising py marker request)) (read response) [exchange]) :
    Learns exchanged (Answers (Raising py marker request)) (requestVerification py path read)
      [] := by
  rw [requestVerification, learns_send]
  intro answer
  rw [List.nil_append]
  cases answer with
  | error typeName =>
    apply answers_verificationError
    · rintro (secret | range)
      · rw [exceptionFields_free lowers] at secret
        exact ⟨_, List.mem_singleton_self _, .exception rfl (by simpa using secret)⟩
      · exact absurd rfl range
    · intro free _ exchange among raising
      rw [exceptionFields_free lowers] at free
      rw [List.mem_singleton] at among
      subst among
      cases raising with
      | exception answered secret =>
        cases answered
        simp [secret] at free
      | status answered | body answered => cases answered
  | ok response =>
    dsimp only
    split
    · rename_i failed
      apply answers_verificationError
      · rintro (secret | range)
        · cases secret
        · refine ⟨_, List.mem_singleton_self _, .status rfl fun inside => range ?_⟩
          exact decide_eq_true inside
      · intro _ range exchange among raising
        rw [List.mem_singleton] at among
        subst among
        cases raising with
        | exception answered => cases answered
        | status answered outside =>
          cases answered
          exact outside (of_decide_eq_true range)
        | body answered accepted =>
          cases answered
          exact failed accepted
    · rename_i accepted
      exact reads ⟨_, .ok response⟩ response rfl (not_not.mp accepted)

/-- With status 200 the body alone decides. -/
theorem raising_iff {response : GitHubHttpResponse} (answered : exchange.answer = .ok response)
    (accepted : response.status = 200) :
    Raising py marker request exchange ↔ RaisingBody py marker request response.body := by
  constructor
  · intro raising
    cases raising with
    | exception refused => cases answered.symm.trans refused
    | status again outside =>
      cases answered.symm.trans again
      omega
    | body again _ raises =>
      cases answered.symm.trans again
      exact raises
  · exact .body answered accepted

/-- A first reading, which raises where it fails and says what else raises. -/
theorem answers_first {x : Except AdapterRaised β} {Later : β → Prop}
    {f : β → Calling VerificationEvidence}
    (raises : Raising py marker request exchange ↔
      (∃ e, x = .error e) ∨ ∃ b, x = .ok b ∧ Later b)
    (reads : ∀ b, x = .ok b → (Raising py marker request exchange ↔ Later b) →
      Learns exchanged (Answers (Raising py marker request)) (f b) [exchange]) :
    Learns exchanged (Answers (Raising py marker request)) (Calling.lift x >>= f)
      [exchange] := by
  apply ends_lift
  · intro e failed
    exact ⟨exchange, List.mem_singleton_self _, raises.mpr (.inl ⟨e, failed⟩)⟩
  · intro b read
    apply reads b read
    rw [raises]
    constructor
    · rintro (⟨e, failed⟩ | ⟨again, read', later⟩)
      · cases read.symm.trans failed
      · cases read.symm.trans read'
        exact later
    · exact fun later => .inr ⟨b, read, later⟩

/-- The last reading that can fail: past it nothing raises. -/
theorem answers_last {x : Except AdapterRaised β} {f : β → Calling VerificationEvidence}
    (raises : Raising py marker request exchange ↔ ∃ e, x = .error e)
    (reads : ∀ b, x = .ok b → (∀ other ∈ [exchange], ¬ Raising py marker request other) →
      Learns exchanged (Answers (Raising py marker request)) (f b) [exchange]) :
    Learns exchanged (Answers (Raising py marker request)) (Calling.lift x >>= f)
      [exchange] := by
  apply ends_lift
  · intro e failed
    exact ⟨exchange, List.mem_singleton_self _, raises.mpr ⟨e, failed⟩⟩
  · intro b read
    apply reads b read
    intro other among raising
    rw [List.mem_singleton] at among
    obtain ⟨e, failed⟩ := raises.mp (among ▸ raising)
    cases read.symm.trans failed

end Rules

/-! ## One effect at a time -/

section Effects

variable {request : VerificationRequest} {context : ProviderExecutionContext} {body : ByteArray}
  {owner repo head base : String} {number : Option Int}

theorem raisingBody_unread (issue : request.effect ≠ effectCreateIssue)
    (pull : request.effect ≠ effectCreatePullRequest)
    (merge : request.effect ≠ effectMergePullRequest) :
    RaisingBody py marker request body ↔ ∃ typeName, py.loads body = .raised typeName := by
  constructor
  · intro raises
    cases raises with
    | unread raised => exact ⟨_, raised⟩
    | knownIssue effect | foundIssue effect => exact absurd effect issue
    | pull effect => exact absurd effect pull
    | merge effect => exact absurd effect merge
  · rintro ⟨_, raised⟩
    exact .unread raised

theorem raisingBody_known {resource : IssueResource} (effect : request.effect = effectCreateIssue)
    (known : firstIssueResource py request.externalResourceIds = some resource) :
    RaisingBody py marker request body ↔ (∃ e, parseObject py body = .error e) ∨
      ∃ parsed, parseObject py body = .ok parsed ∧
        ∃ e, (issueIdentity py parsed owner repo number).map some = .error e := by
  simp only [parseObject_error, map_error, issueIdentity_error]
  constructor
  · intro raises
    cases raises with
    | unread raised => exact .inl ⟨_, raised⟩
    | knownIssue _ _ parsed odd => exact .inr ⟨_, parsed, _, rfl, odd⟩
    | foundIssue _ unknown => cases known.symm.trans unknown
    | pull other | merge other => exact absurd (effect.symm.trans other) (by decide)
  · rintro (⟨_, raised⟩ | ⟨_, parsed, _, rfl, odd⟩)
    · exact .unread raised
    · exact .knownIssue effect known parsed odd

theorem raisingBody_found (effect : request.effect = effectCreateIssue)
    (unknown : firstIssueResource py request.externalResourceIds = none) :
    RaisingBody py marker request body ↔ (∃ e, parseObject py body = .error e) ∨
      ∃ parsed, parseObject py body = .ok parsed ∧
        ∃ e, findFirst (markedIdentity py marker none) (markedCandidates none parsed) =
          .error e := by
  simp only [parseObject_error, findFirst_error, markedIdentity_error, forall_const]
  constructor
  · intro raises
    cases raises with
    | unread raised => exact .inl ⟨_, raised⟩
    | knownIssue _ known => cases known.symm.trans unknown
    | foundIssue _ _ read met marked named odd => exact .inr ⟨_, read, _, met, marked, odd, named⟩
    | pull other | merge other => exact absurd (effect.symm.trans other) (by decide)
  · rintro (⟨_, raised⟩ | ⟨_, read, _, met, marked, odd, named⟩)
    · exact .unread raised
    · exact .foundIssue effect unknown read met marked named odd

theorem raisingBody_pull (effect : request.effect = effectCreatePullRequest)
    (target : pullVerificationTarget py request =
      some ⟨owner, repo, number, some head, some base⟩) :
    RaisingBody py marker request body ↔
      (∃ e, candidatesOf py number.isSome body = .error e) ∨
      ∃ candidates, candidatesOf py number.isSome body = .ok candidates ∧
        ∃ e, findFirst (seenPull py marker owner repo number head base) candidates =
          .error e := by
  simp only [candidatesOf_error, findFirst_error, seenPull_error]
  constructor
  · intro raises
    cases raises with
    | unread raised => exact .inl ⟨_, raised⟩
    | pull _ again read met odd =>
      cases target.symm.trans again
      exact .inr ⟨_, read, _, met, odd⟩
    | knownIssue other | foundIssue other | merge other =>
      exact absurd (effect.symm.trans other) (by decide)
  · rintro (⟨_, raised⟩ | ⟨_, read, _, met, odd⟩)
    · exact .unread raised
    · exact .pull effect target read met odd

theorem raisingBody_merge (effect : request.effect = effectMergePullRequest) :
    RaisingBody py marker request body ↔ (∃ e, parseObject py body = .error e) ∨
      ∃ parsed, parseObject py body = .ok parsed ∧
        ∃ e, pullIdentity py parsed owner repo number = .error e := by
  simp only [parseObject_error, pullIdentity_error]
  constructor
  · intro raises
    cases raises with
    | unread raised => exact .inl ⟨_, raised⟩
    | merge _ parsed odd => exact .inr ⟨_, parsed, _, rfl, odd⟩
    | knownIssue other | foundIssue other | pull other =>
      exact absurd (effect.symm.trans other) (by decide)
  · rintro (⟨_, raised⟩ | ⟨_, parsed, _, rfl, odd⟩)
    · exact .unread raised
    · exact .merge effect parsed odd

variable (lowers : LowersAscii py.lower)

include lowers

theorem verifyComment_answers (effect : request.effect = effectCreateIssueComment) :
    Learns exchanged (Answers (Raising py (operationMarker context) request))
      (verifyComment py context request) [] := by
  have reads : ∀ target single exchange response, exchange.answer = .ok response →
      response.status = 200 →
      Learns exchanged (Answers (Raising py (operationMarker context) request))
        (readComment py context target single response) [exchange] := by
    intro target single exchange response answered accepted
    apply answers_last
    · rw [raising_iff answered accepted, candidatesOf_error]
      exact raisingBody_unread (by rw [effect]; decide) (by rw [effect]; decide)
        (by rw [effect]; decide)
    · intro candidates read quiet
      split
      · exact answers_inconclusiveAbsence lowers quiet
      · exact answers_verified (markerMatched_free lowers) quiet
  unfold verifyComment
  split
  · exact answers_plainError (List.forall_mem_nil _)
  · split
    · exact answers_requestVerification lowers (reads _ _)
    · exact answers_requestVerification lowers (reads _ _)

theorem verifyLabel_answers (effect : request.effect = effectAddLabel)
    (plain : ∀ label, parsePrefixedResource request.externalResourceIds "github:label:" =
      some label → valueIsForbidden py.lower label = false) :
    Learns exchanged (Answers (Raising py marker request)) (verifyLabel py request) [] := by
  unfold verifyLabel
  split
  next target label _ labelled =>
    apply answers_requestVerification lowers
    intro exchange response answered accepted
    apply answers_last
    · rw [raising_iff answered accepted, parseObject_error]
      exact raisingBody_unread (by rw [effect]; decide) (by rw [effect]; decide)
        (by rw [effect]; decide)
    · intro parsed read quiet
      split
      · apply answers_verified _ quiet
        apply evidence_free lowers
        · simp [evidenceKeys]
        · simp [secretFree, plain label labelled]
      · exact answers_plainError quiet
  · exact answers_plainError (List.forall_mem_nil _)

theorem verifyCreateIssue_answers (effect : request.effect = effectCreateIssue) :
    Learns exchanged (Answers (Raising py (operationMarker context) request))
      (verifyCreateIssue py context request) [] := by
  apply answers_requestVerification lowers
  intro exchange response answered accepted
  cases known : firstIssueResource py request.externalResourceIds with
  | none =>
    apply answers_first ((raising_iff answered accepted).trans (raisingBody_found effect known))
    intro parsed read raises
    -- Without a known issue the first step of the reading has nothing to compare.
    apply ends_ok
    rw [if_neg (Option.some_ne_none _).symm]
    apply answers_last
    · rw [raises, findMarkedIssue, read]
      rfl
    · intro found searched quiet
      split
      · exact answers_inconclusiveAbsence lowers quiet
      · exact answers_verified (markerMatched_free lowers) quiet
  | some resource =>
    apply answers_first ((raising_iff answered accepted).trans (raisingBody_known effect known))
    intro parsed read raises
    apply answers_last raises
    intro direct identified quiet
    split
    · exact answers_plainError quiet
    · apply ends_lift
      · -- The search looks at the same issue again, so it fails on nothing new.
        intro e failed
        rw [findMarkedIssue, read] at failed
        obtain ⟨doc, ⟨before, after, candidates, _⟩, failed⟩ := findFirst_error.mp ⟨e, failed⟩
        have odd := (markedIdentity_error.mp failed).2.1
        refine ⟨exchange, List.mem_singleton_self _, raises.mpr ?_⟩
        simp only [map_error, issueIdentity_error]
        cases parsed with
        | none => simp [markedCandidates] at candidates
        | some only =>
          have among : doc ∈ markedCandidates (some resource) (some only) := by
            simp [candidates]
          rw [markedCandidates, List.mem_singleton] at among
          exact ⟨doc, congrArg some among.symm, odd⟩
      · intro found searched
        split
        · exact answers_inconclusiveAbsence lowers quiet
        · exact answers_verified (markerMatched_free lowers) quiet

theorem verifyPull_answers (effect : request.effect = effectCreatePullRequest) :
    Learns exchanged (Answers (Raising py (operationMarker context) request))
      (verifyPull py context request) [] := by
  unfold verifyPull
  split
  · exact answers_plainError (List.forall_mem_nil _)
  next owner repo number head base target =>
    apply answers_requestVerification lowers
    intro exchange response answered accepted
    apply answers_first ((raising_iff answered accepted).trans (raisingBody_pull effect target))
    intro candidates read raises
    apply answers_last raises
    intro seen searched quiet
    split
    · exact answers_inconclusiveAbsence lowers quiet
    · exact answers_plainError quiet
    · exact answers_verified (markerMatched_free lowers) quiet
  · exact answers_plainError (List.forall_mem_nil _)

theorem verifyMerge_answers (effect : request.effect = effectMergePullRequest)
    (plain : ∀ head, parsePrefixedResource request.externalResourceIds "github:head-sha:" =
      some head → valueIsForbidden py.lower head = false) :
    Learns exchanged (Answers (Raising py marker request)) (verifyMerge py request) [] := by
  unfold verifyMerge
  split
  next target head _ expected =>
    apply answers_requestVerification lowers
    intro exchange response answered accepted
    apply answers_first ((raising_iff answered accepted).trans (raisingBody_merge effect))
    intro parsed read raises
    apply answers_last raises
    intro pull identified quiet
    split
    · split
      · exact answers_plainError quiet
      · apply answers_verified _ quiet
        apply evidence_free lowers
        · simp [evidenceKeys]
        · simp [secretFree, plain head expected]
    · exact answers_plainError quiet
  · exact answers_plainError (List.forall_mem_nil _)

end Effects

section Whole

variable {request : VerificationRequest} {context : ProviderExecutionContext}

/-- A supported verification answers unless the one response it reads raises. -/
theorem verify_answers (lowers : LowersAscii py.lower) (adapter : GitHubAdapter)
    (supported : request.effect ∈ githubEffects)
    (label : request.effect = effectAddLabel → ∀ label,
      parsePrefixedResource request.externalResourceIds "github:label:" = some label →
        valueIsForbidden py.lower label = false)
    (head : request.effect = effectMergePullRequest → ∀ head,
      parsePrefixedResource request.externalResourceIds "github:head-sha:" = some head →
        valueIsForbidden py.lower head = false) :
    Learns exchanged (Answers (Raising py (operationMarker context) request))
      (adapter.verify py context request) [] := by
  rw [GitHubAdapter.verify, if_neg (not_not.mpr supported)]
  by_cases configured : adapter.credentialConfigured = true
  case neg =>
    rw [if_pos (by simpa using configured)]
    exact answers_plainError (List.forall_mem_nil _)
  rw [if_neg (by simpa using configured)]
  split
  next issue => exact verifyCreateIssue_answers lowers issue
  split
  next comment => exact verifyComment_answers lowers comment
  split
  next added => exact verifyLabel_answers lowers added (label added)
  split
  next pull => exact verifyPull_answers lowers pull
  next issue comment added pull =>
    have merge : request.effect = effectMergePullRequest := by
      simpa [githubEffects, issue, comment, added, pull] using supported
    exact verifyMerge_answers lowers merge (head merge)

end Whole

end Stateback.Providers.GitHub
