import Mathlib.Data.List.TakeWhile
import Stateback.Providers.GitHub.Execution
/-!
# Resource ids

How the ids an execution leaves behind are read again.  `owner/repo#number` is cut at its first
slash and its last hash, so it comes back as written unless the owner contains a slash; a prefixed
id is found by its prefix.
-/

namespace Stateback.Providers.GitHub

open Stateback.Domain Cut

/-- `int` reads back what `str` writes. -/
def ReadsIntegers (py : Python) : Prop := ∀ n : Int, py.int (toString n) = some n

variable {py : Python} {owner repo : String} {n : Int}

/-! ## Numbers -/

theorem mem_toString {c : Char} (mem : c ∈ (toString n).toList) : c = '-' ∨ c.isDigit := by
  rw [Int.toString_eq_repr, Int.repr_eq_if] at mem
  split at mem
  · rw [Nat.toList_repr] at mem
    exact .inr (Nat.isDigit_of_mem_toDigits (by decide) (by decide) mem)
  · rw [String.toList_append, Nat.toList_repr, List.mem_append] at mem
    cases mem with
    | inl sign => exact .inl (by simpa using sign)
    | inr digit => exact .inr (Nat.isDigit_of_mem_toDigits (by decide) (by decide) digit)

theorem hash_not_mem_toString : '#' ∉ (toString n).toList := by
  intro mem
  have := mem_toString mem
  simp [Char.isDigit] at this

/-! ## `owner/repo#number` -/

theorem parseResource_number (reads : ReadsIntegers py) (text : String) (n : Int) :
    parseResource py (text ++ "#" ++ toString n) =
      (cut '/' text.toList).bind fun parts =>
        if parts.1 ≠ [] ∧ parts.2 ≠ [] ∧ 1 ≤ n then
          some ⟨String.ofList parts.1, String.ofList parts.2, n⟩
        else none := by
  have shape : (text ++ "#" ++ toString n).toList = text.toList ++ '#' :: (toString n).toList := by
    simp
  unfold parseResource
  rw [shape, rcut_append hash_not_mem_toString]
  simp only [String.ofList_toList, reads n]
  cases cut '/' text.toList with
  | none => rfl
  | some parts => rfl

theorem eq_cut_of_mem {sep : Char} {text : List Char} (mem : sep ∈ text) :
    ∃ first rest, text = first ++ sep :: rest ∧ sep ∉ first := by
  cases found : cut sep text with
  | none => exact absurd mem (cut_eq_none.mp found)
  | some parts => exact ⟨parts.1, parts.2, eq_of_cut found⟩

/-- The owner that is read back: what stands before the first slash. -/
def ownerRead (owner : String) : String := String.ofList (owner.toList.takeWhile (· ≠ '/'))

theorem ownerRead_eq_self : ownerRead owner = owner ↔ '/' ∉ owner.toList := by
  rw [ownerRead, ← String.toList_inj, String.toList_ofList, List.takeWhile_eq_self_iff]
  constructor
  · intro all mem
    simpa using all _ mem
  · intro free c mem
    have differs : c ≠ '/' := fun same => free (same ▸ mem)
    simpa using differs

theorem ownerRead_eq_empty : ownerRead owner = "" ↔ owner = "" ∨ owner.toList.head? = some '/' := by
  have empty : owner = "" ↔ owner.toList = [] := by rw [← String.toList_inj]; rfl
  rw [ownerRead, ← String.toList_inj, String.toList_ofList, empty]
  cases owner.toList with
  | nil => simp
  | cons c rest => by_cases slash : c = '/' <;> simp [slash]

/-- A resource id comes back with its owner cut at the first slash. -/
theorem parseResource_resourceName (reads : ReadsIntegers py) (owner : String)
    (named : repo ≠ "") :
    ∃ repoRead, (ownerRead owner = owner → repoRead = repo) ∧
      ∀ n, parseResource py (resourceName owner repo n) =
        if ownerRead owner ≠ "" ∧ 1 ≤ n then some ⟨ownerRead owner, repoRead, n⟩ else none := by
  have whole : (owner ++ "/" ++ repo).toList = owner.toList ++ '/' :: repo.toList := by simp
  by_cases plain : '/' ∈ owner.toList
  case neg =>
    refine ⟨repo, fun _ => rfl, fun n => ?_⟩
    rw [resourceName, parseResource_number reads, whole, cut_append plain,
      ownerRead_eq_self.mpr plain]
    simp [named]
  case pos =>
    obtain ⟨first, rest, slashed, free⟩ := eq_cut_of_mem plain
    have before : ownerRead owner = String.ofList first := by
      rw [ownerRead, slashed, List.takeWhile_append_of_pos fun c mem => by
        have differs : c ≠ '/' := fun same => free (same ▸ mem)
        simpa using differs]
      simp
    have shape : (owner ++ "/" ++ repo).toList = first ++ '/' :: (rest ++ '/' :: repo.toList) := by
      rw [whole, slashed]
      simp
    refine ⟨String.ofList (rest ++ '/' :: repo.toList), fun same => ?_, fun n => ?_⟩
    · exact absurd plain (ownerRead_eq_self.mp same)
    · rw [resourceName, parseResource_number reads, shape, cut_append free, before]
      simp

/-! ## Prefixed ids -/

@[simp] theorem withoutStart_append (start rest : String) :
    withoutStart start (start ++ rest) = some rest := by
  have found : (start.toList ++ rest.toList).dropPrefix? start.toList = some rest.toList :=
    List.dropPrefix?_eq_some_iff.mpr ⟨start.toList, rfl, beq_self_eq_true _⟩
  rw [withoutStart, String.toList_append, found]
  simp

theorem eq_of_withoutStart {start text rest : String}
    (found : withoutStart start text = some rest) :
    text = start ++ rest := by
  obtain ⟨tail, dropped, rfl⟩ := Option.map_eq_some_iff.mp found
  obtain ⟨head, whole, same⟩ := List.dropPrefix?_eq_some_iff.mp dropped
  rw [← String.toList_inj, String.toList_append, String.toList_ofList, whole,
    eq_of_beq same]

@[simp] theorem parsePrefixedResource_nil (start : String) :
    parsePrefixedResource [] start = none := rfl

theorem parsePrefixedResource_cons (start id : String) (ids : List String) :
    parsePrefixedResource (id :: ids) start =
      (withoutStart start id).or (parsePrefixedResource ids start) := by
  unfold parsePrefixedResource
  rw [List.findSome?_cons]
  cases withoutStart start id <;> rfl

/-! ## An instance -/

def naturalOf (digits : List Char) : Option Nat :=
  if digits ≠ [] ∧ digits.all Char.isDigit then some (Nat.ofDigitChars 10 digits 0) else none

/-- Decimal numerals. -/
def decimal (s : String) : Option Int :=
  match s.toList with
  | [] => none
  | c :: rest =>
    if c = '-' then (naturalOf rest).map fun n => -(n : Int)
    else (naturalOf (c :: rest)).map fun n => (n : Int)

theorem naturalOf_toDigits (m : Nat) : naturalOf (Nat.toDigits 10 m) = some m := by
  have digits : (Nat.toDigits 10 m).all Char.isDigit = true :=
    List.all_eq_true.mpr fun c mem => Nat.isDigit_of_mem_toDigits (by decide) (by decide) mem
  rw [naturalOf, if_pos ⟨Nat.toDigits_ne_nil, digits⟩, Nat.ofDigitChars_ten_toDigits]

theorem decimal_toString (n : Int) : decimal (toString n) = some n := by
  rw [Int.toString_eq_repr, Int.repr_eq_if]
  split
  case isTrue natural =>
    rw [decimal, Nat.toList_repr]
    have whole := naturalOf_toDigits n.toNat
    cases shape : Nat.toDigits 10 n.toNat with
    | nil => exact absurd shape Nat.toDigits_ne_nil
    | cons c rest =>
      have digit : c.isDigit = true :=
        Nat.isDigit_of_mem_toDigits (by decide) (by decide) (shape ▸ List.mem_cons_self)
      have unsigned : c ≠ '-' := by
        rintro rfl
        cases digit
      rw [shape] at whole
      simp [unsigned, whole, natural]
  case isFalse negative =>
    have shape : ("-" ++ (-n).toNat.repr).toList = '-' :: Nat.toDigits 10 (-n).toNat := by
      simp [Nat.toList_repr]
    have value : ((-n).toNat : Int) = -n := Int.toNat_of_nonneg (by omega)
    simp [decimal, shape, naturalOf_toDigits, value]

/-- `json.dumps` of a flat object of texts. -/
def dumpsFlat : Plain → ByteArray
  | .dict fields =>
    ("\x7b" ++ ",".intercalate ((fields.mergeSort fun a b => decide (a.1 ≤ b.1)).map fun pair =>
      match pair.2 with
      | .str text => "\"" ++ pair.1 ++ "\":\"" ++ text ++ "\""
      | _ => "\"" ++ pair.1 ++ "\":null") ++ "\x7d").toUTF8
  | _ => "null".toUTF8

/-- `urlparse` of a URL of the shape `https://host/path`. -/
def splitHttps (url : String) : Option Url :=
  match withoutStart "https://" url with
  | none => none
  | some rest =>
    match cut '/' rest.toList with
    | none => none
    | some (host, path) =>
      some ⟨"https", some (String.ofList host), none, none, none, String.ofList ('/' :: path),
        "", ""⟩

/-- The library on ASCII texts in lower case without escapes, where every body is the given
value. -/
def samplePython (body : Plain) : Python where
  loads := fun _ => .value body
  dumps := dumpsFlat
  urlparse := splitHttps
  unquote := id
  urlencode := fun pairs =>
    "&".intercalate (pairs.map fun pair => Percent.quote pair.1 ++ "=" ++ Percent.quote pair.2)
  casefold := id
  lower := asciiLower
  int := decimal
  repr := fun _ => ""

theorem samplePython_reads (body : Plain) : ReadsIntegers (samplePython body) := decimal_toString

def samplePull (head : String) : Arguments :=
  [("base", .str "main"), ("head", .str head), ("owner", .str "acme"), ("repo", .str "app"),
    ("title", .str "Fix")]

def samplePullRequest (head : String) : ProviderExecutionRequest :=
  ⟨effectCreatePullRequest, .object (samplePull head)⟩

def sampleContext : ProviderExecutionContext :=
  ⟨idOf "op", idOf "attempt", "identity", none, none, none⟩

/-- A transport that answers every request alike. -/
def answering (answer : Except String GitHubHttpResponse) : Nat → (call : Call) → Reply call
  | _, .now => ⟨0⟩
  | _, .request _ => answer

theorem returned_of {called : Called ExecutionEvidence} {outcome : EffectOutcome}
    {ids : List String}
    (ran : (called.outcome.toOption.bind fun evidence => evidence.evidence.map fun provider =>
      (evidence.outcome, provider.externalResourceIds)) = some (outcome, ids)) :
    ∃ evidence provider, called.outcome = .ok evidence ∧ evidence.evidence = some provider ∧
      evidence.outcome = outcome ∧ provider.externalResourceIds = ids := by
  cases ended : called.outcome with
  | error e => simp [ended, Except.toOption] at ran
  | ok evidence =>
    simp only [ended, Except.toOption, Option.bind_some, Option.map_eq_some_iff,
      Prod.mk.injEq] at ran
    obtain ⟨provider, stored, outcome, ids⟩ := ran
    exact ⟨evidence, provider, rfl, stored, outcome, ids⟩

def pullBody : Plain :=
  .dict [("id", .int 1), ("number", .int 7),
    ("html_url", .str "https://github.com/acme/app/pull/7"), ("state", .str "open"),
    ("head", .dict [("ref", .str "fix"),
      ("sha", .str "0123456789abcdef0123456789abcdef01234567"),
      ("repo", .dict [("full_name", .str "acme/app")])]),
    ("base", .dict [("ref", .str "main"), ("repo", .dict [("full_name", .str "acme/app")])])]

/-- The text of `pullBody`. -/
def pullText : ByteArray :=
  ("\x7b\"id\":1,\"number\":7,\"html_url\":\"https://github.com/acme/app/pull/7\"," ++
    "\"state\":\"open\",\"head\":\x7b\"ref\":\"fix\"," ++
    "\"sha\":\"0123456789abcdef0123456789abcdef01234567\"," ++
    "\"repo\":\x7b\"full_name\":\"acme/app\"\x7d\x7d," ++
    "\"base\":\x7b\"ref\":\"main\",\"repo\":\x7b\"full_name\":\"acme/app\"\x7d\x7d\x7d").toUTF8

theorem execute_pull_applied : ∃ evidence provider,
    ((GitHubAdapter.execute (samplePython pullBody) ⟨true⟩ sampleContext
      (samplePullRequest "fix")).run (answering (.ok ⟨201, [], pullText⟩))).outcome =
        .ok evidence ∧ evidence.evidence = some provider ∧ evidence.outcome = .applied ∧
      provider.externalResourceIds = GitHubAdapter.pullTargets "acme" "app" "fix" "main" ++
        [pullTarget "acme" "app" 7, "github:head-sha:0123456789abcdef0123456789abcdef01234567"] :=
  returned_of (by decide +kernel)

end Stateback.Providers.GitHub
