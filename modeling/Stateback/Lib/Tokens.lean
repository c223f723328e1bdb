import Stateback.Lib.Tracks
/-!
# Tokens that commits grant and questions spend

A commit may grant its process a token, and some questions may only be asked with the token they
are about.  Where a token is granted once, every such question was paid for by an earlier commit
of its own process, and no two are asked with one token: `Run.spends`.
-/

namespace Process

open Transaction Function

variable {Call Reply Label σ ε Query Token : Type} {Answer : Query → Type}

structure Tokens (Token Label σ Query : Type) where
  permits : Label → σ → Prop
  grants : Label → σ → σ → Token → Prop
  spends : Query → Option Token
  /-- The token has been granted. -/
  known : Token → σ → Prop

/-- A token is granted once, and what was granted stays so. -/
structure Tokens.Fresh (K : Tokens Token Label σ Query) (C : Contract σ) : Prop where
  grants : ∀ {label s s' token}, C.inv s → C.guar s s' → K.grants label s s' token →
    ¬ K.known token s ∧ K.known token s'
  kept : ∀ {s s' token}, C.rely s s' → K.known token s → K.known token s'

/-- A process may hold the token of its last grant until it spends it. -/
def Tokens.track (K : Tokens Token Label σ Query) : Track (Option Token) Label σ Query Answer where
  permits := K.permits
  commits held label s s' held' :=
    held' = held ∨ ∃ token, held' = some token ∧ K.grants label s s' token
  begins held query held' :=
    K.spends query = none ∧ held' = held ∨ ∃ token, K.spends query = some token ∧
      held = some token ∧ held' = none
  returns held _ _ held' := held' = held

variable {K : Tokens Token Label σ Query} {C : Contract σ}

/-- Who asked a spending question had been granted its token, and no token was spent twice. -/
structure Spent (K : Tokens Token Label σ Query)
    (t : List (Event Call Reply Label σ ε Query Answer)) : Prop where
  earned : ∀ {t₁ pid query t₂ token}, t = t₁ ++ .began pid query :: t₂ →
    K.spends query = some token →
      ∃ label before after, .committed pid label before after ∈ t₁ ∧
        K.grants label before after token
  once : ∀ {t₁ pid query t₂ other query' t₃ token},
    t = t₁ ++ .began pid query :: t₂ ++ .began other query' :: t₃ →
      K.spends query = some token → K.spends query' ≠ some token

section Runs

variable {Q : Except ε Reply → Option Token → σ → Prop}
  {service : Call → Prog Label σ ε Query Answer Reply} {s₀ s s' : σ}
  {t : List (Event Call Reply Label σ ε Query Answer)} {c : Config Reply Label σ ε Query Answer}
  {e : Event Call Reply Label σ ε Query Answer} {held held' : Pid → Option Token}

/-- The tokens in hand after some events: granted, not spent, and each in one hand. -/
structure InHand (K : Tokens Token Label σ Query)
    (t : List (Event Call Reply Label σ ε Query Answer)) (s : σ)
    (held : Pid → Option Token) : Prop where
  known : ∀ {pid token}, held pid = some token → K.known token s
  granted : ∀ {pid token}, held pid = some token →
    ∃ label before after, .committed pid label before after ∈ t ∧ K.grants label before after token
  unspent : ∀ {pid token}, held pid = some token →
    ∀ {other query}, .began other query ∈ t → K.spends query ≠ some token
  apart : ∀ {pid other token}, held pid = some token → held other = some token → pid = other
  spent : ∀ {pid query token}, .began pid query ∈ t → K.spends query = some token →
    K.known token s
  events : Spent K t

theorem append_singleton_split {α : Type} {t t₁ t₂ : List α} {e x : α}
    (split : t ++ [e] = t₁ ++ x :: t₂) :
    (t₂ = [] ∧ t = t₁ ∧ e = x) ∨ ∃ t₃, t₂ = t₃ ++ [e] ∧ t = t₁ ++ x :: t₃ := by
  rcases List.eq_nil_or_concat t₂ with rfl | ⟨t₃, last, rfl⟩
  · obtain ⟨same, here⟩ := List.append_inj' split rfl
    exact .inl ⟨rfl, same, List.singleton_inj.mp here⟩
  · right
    rw [List.concat_eq_append, ← List.cons_append, ← List.append_assoc] at split
    obtain ⟨same, here⟩ := List.append_inj' split rfl
    exact ⟨t₃, by rw [List.concat_eq_append, List.singleton_inj.mp here], same⟩

/-- An event that spends nothing. -/
theorem Spent.quiet (spent : Spent K t)
    (other : ∀ pid query, e = .began pid query → K.spends query = none) : Spent K (t ++ [e]) where
  earned := by
    intro t₁ pid query t₂ token split spends
    obtain ⟨-, -, here⟩ | ⟨t₃, -, earlier⟩ := append_singleton_split split
    · rw [other pid query here] at spends
      cases spends
    · exact spent.earned earlier spends
  once := by
    intro t₁ pid query t₂ pid' query' t₃ token split spends again
    obtain ⟨-, -, here⟩ | ⟨t₄, -, earlier⟩ := append_singleton_split split
    · rw [other pid' query' here] at again
      cases again
    · exact spent.once earlier spends again

/-- A question asked with a token in hand that nobody has spent. -/
theorem Spent.ask (spent : Spent K t) {pid : Pid} {query : Query} {token : Token}
    (asks : K.spends query = some token)
    (granted : ∃ label before after, .committed pid label before after ∈ t ∧
      K.grants label before after token)
    (unspent : ∀ {other query}, .began other query ∈ t → K.spends query ≠ some token) :
    Spent K (t ++ [.began pid query]) where
  earned := by
    intro t₁ pid' query' t₂ token' split spends
    obtain ⟨-, rfl, here⟩ | ⟨t₃, -, earlier⟩ := append_singleton_split split
    · cases here
      obtain rfl := Option.some.inj (asks.symm.trans spends)
      exact granted
    · exact spent.earned earlier spends
  once := by
    intro t₁ pid' query' t₂ pid'' query'' t₃ token' split spends again
    obtain ⟨-, rfl, here⟩ | ⟨t₄, -, earlier⟩ := append_singleton_split split
    · cases here
      obtain rfl := Option.some.inj (asks.symm.trans again)
      have member : Event.began pid' query' ∈ t₁ ++ Event.began pid' query' :: t₂ := by simp
      exact unspent member spends
    · exact spent.once earlier spends again

/-- An event after which everyone holds what they held. -/
theorem InHand.quiet (inHand : InHand K t s held)
    (later : ∀ {token}, K.known token s → K.known token s')
    (other : ∀ pid query, e = .began pid query → K.spends query = none) :
    InHand K (t ++ [e]) s' held where
  known holds := later (inHand.known holds)
  granted holds := by
    obtain ⟨label, before, after, member, grants⟩ := inHand.granted holds
    exact ⟨label, before, after, List.mem_append_left _ member, grants⟩
  unspent := by
    intro pid token holds pid' query member
    rcases List.mem_append.mp member with old | new
    · exact inHand.unspent holds old
    · rw [other pid' query (List.mem_singleton.mp new).symm]
      simp
  apart := inHand.apart
  spent := by
    intro pid query token member spends
    rcases List.mem_append.mp member with old | new
    · exact later (inHand.spent old spends)
    · rw [other pid query (List.mem_singleton.mp new).symm] at spends
      cases spends
  events := inHand.events.quiet other

/-- A grant of a token that nobody knew of. -/
theorem InHand.grant (inHand : InHand K t s held) {pid : Pid} {label : Label} {token : Token}
    (grants : K.grants label s s' token) (new : ¬ K.known token s) (known : K.known token s')
    (later : ∀ {token}, K.known token s → K.known token s') :
    InHand K (t ++ [.committed pid label s s']) s' (update held pid (some token)) := by
  have inHand' := inHand.quiet (e := .committed pid label s s') later (by simp)
  have cases_ : ∀ {other token'}, update held pid (some token) other = some token' →
      other = pid ∧ token' = token ∨ other ≠ pid ∧ held other = some token' := by
    intro other token' holds
    by_cases same : other = pid
    · subst same
      rw [update_self] at holds
      exact .inl ⟨rfl, (Option.some.inj holds).symm⟩
    · rw [update_of_ne same] at holds
      exact .inr ⟨same, holds⟩
  refine ⟨?_, ?_, ?_, ?_, inHand'.spent, inHand'.events⟩
  · intro other token' holds
    obtain ⟨-, rfl⟩ | ⟨-, holds⟩ := cases_ holds
    · exact known
    · exact inHand'.known holds
  · intro other token' holds
    obtain ⟨rfl, rfl⟩ | ⟨-, holds⟩ := cases_ holds
    · exact ⟨label, s, s', by simp, grants⟩
    · exact inHand'.granted holds
  · intro other token' holds asker query member spends
    obtain ⟨-, rfl⟩ | ⟨-, holds⟩ := cases_ holds
    · rcases List.mem_append.mp member with old | last
      · exact new (inHand.spent old spends)
      · cases List.mem_singleton.mp last
    · exact inHand'.unspent holds member spends
  · intro one other token' holds holds'
    obtain ⟨rfl, same'⟩ | ⟨-, holds⟩ := cases_ holds <;>
      obtain ⟨same, same''⟩ | ⟨-, holds'⟩ := cases_ holds'
    · exact same.symm
    · exact absurd (same' ▸ inHand.known holds') new
    · exact absurd (same'' ▸ inHand.known holds) new
    · exact inHand.apart holds holds'

/-- The holder of a token spends it. -/
theorem InHand.spend (inHand : InHand K t s held) {pid : Pid} {query : Query} {token : Token}
    (spends : K.spends query = some token) (holds : held pid = some token) :
    InHand K (t ++ [.began pid query]) s (update held pid none) := by
  have rest : ∀ {other token'}, update held pid none other = some token' →
      other ≠ pid ∧ held other = some token' := by
    intro other token' holds'
    by_cases same : other = pid
    · subst same
      rw [update_self] at holds'
      cases holds'
    · rw [update_of_ne same] at holds'
      exact ⟨same, holds'⟩
  refine ⟨?_, ?_, ?_, ?_, ?_, ?_⟩
  · exact fun holds' => inHand.known (rest holds').2
  · intro other token' holds'
    obtain ⟨label, before, after, member, grants⟩ := inHand.granted (rest holds').2
    exact ⟨label, before, after, List.mem_append_left _ member, grants⟩
  · intro other token' holds' asker query' member again
    obtain ⟨apart, holds'⟩ := rest holds'
    rcases List.mem_append.mp member with old | last
    · exact inHand.unspent holds' old again
    · cases List.mem_singleton.mp last
      obtain rfl := Option.some.inj (spends.symm.trans again)
      exact apart (inHand.apart holds' holds)
  · exact fun holds' holds'' => inHand.apart (rest holds').2 (rest holds'').2
  · intro other query' token' member spends'
    rcases List.mem_append.mp member with old | last
    · exact inHand.spent old spends'
    · cases List.mem_singleton.mp last
      obtain rfl := Option.some.inj (spends.symm.trans spends')
      exact inHand.known holds
  · exact inHand.events.ask spends (inHand.granted holds) (inHand.unspent holds)

theorem InHand.step (fresh : K.Fresh C) (sound : C.Sound) (inHand : InHand K t c.store held)
    {c' : Config Reply Label σ ε Query Answer} (last : Step service c e c')
    (turns : Turns C K.track Q c.store held e held') :
    InHand K (t ++ [e]) c'.store held' := by
  cases turns with
  | spawned =>
    cases last
    exact inHand.quiet id (by simp)
  | raised =>
    cases last
    exact inHand.quiet id (by simp)
  | finished =>
    cases last
    exact inHand.quiet id (by simp)
  | crashed =>
    cases last
    exact inHand.quiet id (by simp)
  | @committed pid label s' phase' inv guaranteed permitted commits =>
    obtain ⟨-, moved⟩ := sound.kept inv guaranteed
    cases last
    rcases commits with same | ⟨token, rfl, grants⟩
    · rw [same, update_eq_self]
      exact inHand.quiet (fresh.kept moved) (by simp)
    · obtain ⟨new, known⟩ := fresh.grants inv guaranteed grants
      exact inHand.grant grants new known (fresh.kept moved)
  | @began pid query phase' begins =>
    cases last
    rcases begins with ⟨free, same⟩ | ⟨token, spends, holds, rfl⟩
    · rw [same, update_eq_self]
      refine inHand.quiet id fun other query' is => ?_
      cases is
      exact free
    · exact inHand.spend spends holds
  | @returned pid query answer phase' returns =>
    cases last
    have same : phase' = held pid := returns
    rw [same, update_eq_self]
    exact inHand.quiet id (by simp)

theorem Tracked.inHand (fresh : K.Fresh C) (sound : C.Sound)
    (tracked : Tracked C K.track Q service none s₀ t c held) : InHand K t c.store held := by
  induction tracked with
  | start => exact ⟨by simp, by simp, by simp, by simp, by simp, ⟨by simp, by simp⟩⟩
  | step earlier last turns ih => exact ih.step fresh sound last turns

/-- In every run of programs that pay for their questions, each token was granted to the process
that spent it, and was spent once. -/
theorem Run.spent (fresh : K.Fresh C) (sound : C.Sound)
    (follows : ∀ call s, C.inv s → Follows C K.track Q (service call) none s)
    (permitted : ∀ pid label before after, .committed pid label before after ∈ t →
      K.permits label before)
    (start : C.inv s₀) (run : Run service s₀ t c) : Spent K t ∧ C.inv c.store := by
  obtain ⟨held, tracked, inv⟩ := run.tracked sound follows permitted start
  exact ⟨(tracked.inHand fresh sound).events, inv⟩

end Runs

end Process
