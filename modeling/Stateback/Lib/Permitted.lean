import Stateback.Lib.Interleaving
/-!
# Runs whose commits are permitted

What a program comes to may depend on the states its own transactions meet.  `Ends` says what it
comes to where every commit is permitted, given a contract that the run is known to keep, and
`Run.ends` says it of every process of a run whose commits are.
-/

namespace Process

open Transaction Function

variable {Call Reply Label σ ε Query : Type} {Answer : Query → Type} {α β : Type}

/-- From the last state it saw the program ends in `Q`, if its commits are permitted in the states
they meet. -/
def Ends (C : Contract σ) (permitted : Label → σ → Prop) (Q : Except ε α → σ → Prop) :
    Prog Label σ ε Query Answer α → σ → Prop
  | .finish outcome, last => Q outcome last
  | .transact label body next, last =>
    ∀ s, C.inv s → C.rely last s →
      (∀ a s', body s = .ok (a, s') → permitted label s → C.inv s' → C.rely s s' →
        Ends C permitted Q (next (.ok a)) s') ∧
      ∀ e, body s = .error e → Ends C permitted Q (next (.error e)) s
  | .ask _ next, last => ∀ s, C.inv s → C.rely last s →
      ∀ answer, Ends C permitted Q (next answer) s

variable {C : Contract σ} {permitted : Label → σ → Prop}

section Rules
variable {Q : Except ε α → σ → Prop} {last : σ}

theorem ends_attempt {label : Label} {body : Tx σ ε β}
    {next : Except ε β → Prog Label σ ε Query Answer α}
    (ok : ∀ s b s', C.inv s → C.rely last s → body s = .ok (b, s') → permitted label s →
      C.inv s' → C.rely s s' → Ends C permitted Q (next (.ok b)) s')
    (error : ∀ s e, C.inv s → C.rely last s → body s = .error e →
      Ends C permitted Q (next (.error e)) s) :
    Ends C permitted Q (Prog.attempt label body >>= next) last := by
  rw [Prog.attempt_bind]
  exact fun s inv seen =>
    ⟨fun b s' ran => ok s b s' inv seen ran, fun e ran => error s e inv seen ran⟩

theorem ends_commit {label : Label} {body : Tx σ ε β}
    {next : β → Prog Label σ ε Query Answer α}
    (ok : ∀ s b s', C.inv s → C.rely last s → body s = .ok (b, s') → permitted label s →
      C.inv s' → C.rely s s' → Ends C permitted Q (next b) s')
    (error : ∀ s e, C.inv s → C.rely last s → body s = .error e → Q (.error e) s) :
    Ends C permitted Q (Prog.commit label body >>= next) last := by
  unfold Prog.commit
  rw [Prog.transact_bind]
  exact fun s inv seen =>
    ⟨fun b s' ran => ok s b s' inv seen ran, fun e ran => error s e inv seen ran⟩

theorem ends_question {query : Query} {next : Answer query → Prog Label σ ε Query Answer α}
    (rest : ∀ s answer, C.inv s → C.rely last s → Ends C permitted Q (next answer) s) :
    Ends C permitted Q (Prog.question query >>= next) last := by
  rw [Prog.question_bind]
  exact fun s inv seen answer => rest s answer inv seen

end Rules

/-- What a thread still has to do ends in `Q`. -/
def ThreadEnds (C : Contract σ) (permitted : Label → σ → Prop) (Q : Except ε Reply → σ → Prop)
    (thread : Thread Reply Label σ ε Query Answer) (s : σ) : Prop :=
  match thread with
  | .unborn | .gone => True
  | .running program => ∃ last, C.rely last s ∧ Ends C permitted Q program last
  | .waiting _ next => ∃ last, C.rely last s ∧
      ∀ answer s, C.inv s → C.rely last s → Ends C permitted Q (next answer) s

theorem ThreadEnds.later (sound : C.Sound) {Q : Except ε Reply → σ → Prop}
    {thread : Thread Reply Label σ ε Query Answer} {s s' : σ}
    (ends : ThreadEnds C permitted Q thread s) (moved : C.rely s s') :
    ThreadEnds C permitted Q thread s' := by
  have := sound.preorder
  cases thread with
  | unborn => trivial
  | gone => trivial
  | running program =>
    obtain ⟨last, seen, ends⟩ := ends
    exact ⟨last, trans_of C.rely seen moved, ends⟩
  | waiting query next =>
    obtain ⟨last, seen, ends⟩ := ends
    exact ⟨last, trans_of C.rely seen moved, ends⟩

section Runs

variable {service : Call → Prog Label σ ε Query Answer Reply} {Q : Except ε Reply → σ → Prop}
  {Promised : Call → Except ε Reply → σ → Prop} {s₀ : σ}
  {t : List (Event Call Reply Label σ ε Query Answer)} {c : Config Reply Label σ ε Query Answer}

/-- Every thread ends in `Q`, and every reply so far did, in a state that others have only moved as
the contract allows. -/
structure Ending (C : Contract σ) (permitted : Label → σ → Prop) (Q : Except ε Reply → σ → Prop)
    (t : List (Event Call Reply Label σ ε Query Answer))
    (c : Config Reply Label σ ε Query Answer) : Prop where
  threads : ∀ pid, ThreadEnds C permitted Q (c.threads pid) c.store
  replies : ∀ pid outcome, .finished pid outcome ∈ t → ∃ last, Q outcome last ∧ C.rely last c.store

/-- The threads after one of them has moved. -/
theorem threadEnds_update (sound : C.Sound) {s : σ}
    (threads : ∀ pid, ThreadEnds C permitted Q (c.threads pid) c.store) (moved : C.rely c.store s)
    {pid : Pid} {thread : Thread Reply Label σ ε Query Answer}
    (own : ThreadEnds C permitted Q thread s) (other : Pid) :
    ThreadEnds C permitted Q (update c.threads pid thread other) s := by
  by_cases same : other = pid
  · subst same
    rw [update_self]
    exact own
  · rw [update_of_ne same]
    exact (threads other).later sound moved

theorem Ending.step (sound : C.Sound)
    {e : Event Call Reply Label σ ε Query Answer} {c' : Config Reply Label σ ε Query Answer}
    (ends : ∀ call s, C.inv s → Ends C permitted Q (service call) s) (here : C.inv c.store)
    (kept : ∀ pid label before after, e = .committed pid label before after →
      permitted label before ∧ C.inv after ∧ C.rely before after)
    (ending : Ending C permitted Q t c) (last : Step service c e c') :
    Ending C permitted Q (t ++ [e]) c' := by
  have := sound.preorder
  have same : C.rely c.store c.store := refl_of C.rely _
  obtain ⟨threads, replies⟩ := ending
  have quiet : (∀ pid outcome, e ≠ .finished pid outcome) → ∀ pid outcome,
      .finished pid outcome ∈ t ++ [e] → ∃ last, Q outcome last ∧ C.rely last c.store := by
    intro other pid outcome member
    rcases List.mem_append.mp member with old | new
    · exact replies pid outcome old
    · exact absurd (List.mem_singleton.mp new).symm (other pid outcome)
  cases last with
  | @spawn pid call unborn =>
    exact ⟨threadEnds_update sound threads same ⟨c.store, same, ends call c.store here⟩,
      quiet (by simp)⟩
  | @commit pid _ label body next a s at_ ran =>
    obtain ⟨allowed, inv, moved⟩ := kept pid label c.store s rfl
    have own := threads pid
    rw [at_] at own
    obtain ⟨saw, seen, own⟩ := own
    have rest := (own c.store here seen).1 a s ran allowed inv moved
    refine ⟨threadEnds_update sound threads moved ⟨s, refl_of C.rely s, rest⟩, ?_⟩
    intro other outcome member
    obtain ⟨last, ended, later⟩ := quiet (by simp) other outcome member
    exact ⟨last, ended, trans_of C.rely later moved⟩
  | @raise pid _ label body next e at_ ran =>
    have own := threads pid
    rw [at_] at own
    obtain ⟨saw, seen, own⟩ := own
    have rest := (own c.store here seen).2 e ran
    exact ⟨threadEnds_update sound threads same ⟨c.store, same, rest⟩, quiet (by simp)⟩
  | @begin pid query next at_ =>
    have own := threads pid
    rw [at_] at own
    obtain ⟨saw, seen, own⟩ := own
    have waiting : ThreadEnds C permitted Q (.waiting query next) c.store :=
      ⟨saw, seen, fun answer s inv later => own s inv later answer⟩
    exact ⟨threadEnds_update sound threads same waiting, quiet (by simp)⟩
  | @answer pid query next answer at_ =>
    have own := threads pid
    rw [at_] at own
    obtain ⟨saw, seen, own⟩ := own
    have rest := own answer c.store here seen
    exact ⟨threadEnds_update sound threads same ⟨c.store, same, rest⟩, quiet (by simp)⟩
  | @finish pid outcome at_ =>
    have own := threads pid
    rw [at_] at own
    obtain ⟨saw, seen, ended⟩ := own
    refine ⟨threadEnds_update sound threads same trivial, ?_⟩
    intro other outcome' member
    rcases List.mem_append.mp member with old | new
    · exact replies other outcome' old
    · cases List.mem_singleton.mp new
      exact ⟨saw, ended, seen⟩
  | @crash pid live => exact ⟨threadEnds_update sound threads same trivial, quiet (by simp)⟩

/-- In a run that keeps the contract and whose commits are permitted, every reply ends in `Q`. -/
theorem Run.ends (sound : C.Sound)
    (ends : ∀ call s, C.inv s → Ends C permitted Q (service call) s)
    (assured : ∀ {t c}, Run service s₀ t c → Assured C Promised s₀ t c.store)
    (kept : ∀ pid label before after, .committed pid label before after ∈ t →
      permitted label before)
    (run : Run service s₀ t c) : Ending C permitted Q t c := by
  induction run with
  | start => exact ⟨fun _ => trivial, by simp⟩
  | @step t c e c' earlier last ih =>
    refine (ih fun pid label before after member =>
      kept pid label before after (List.mem_append_left _ member)).step sound ends
        (assured earlier).inv ?_ last
    rintro pid label before after rfl
    have member : Event.committed pid label before after ∈
        t ++ [Event.committed pid label before after] := by simp
    obtain ⟨inv, guaranteed, -, -⟩ := (assured (.step earlier last)).commits _ _ _ _ member
    obtain ⟨inv', moved⟩ := sound.kept inv guaranteed
    exact ⟨kept pid label before after member, inv', moved⟩

end Runs

end Process
