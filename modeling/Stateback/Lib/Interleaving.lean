import Mathlib.Logic.Function.Basic
import Mathlib.Order.Defs.Unbundled
import Stateback.Lib.Process
/-!
# Interleavings of processes

Any number of processes over one state: each runs the program of the call it was spawned for,
one transaction or one question at a time, in any order.  A question may stay open for as long
as other processes like to run, and a process may stop for good at any point.  A run is known by
its events.

A `Contract` says what a process may rely on between its steps and what each of its commits
guarantees.  Programs that assure a contract alone assure it among others: `Run.assured`.
-/

namespace Process

open Transaction Function

abbrev Pid := Nat

section Definitions

variable (Call Reply Label σ ε Query : Type) (Answer : Query → Type)

inductive Event where
  | spawned (pid : Pid) (call : Call)
  | committed (pid : Pid) (label : Label) (before after : σ)
  | raised (pid : Pid) (label : Label) (before : σ) (e : ε)
  | began (pid : Pid) (query : Query)
  | returned (pid : Pid) (query : Query) (answer : Answer query)
  | finished (pid : Pid) (outcome : Except ε Reply)
  | crashed (pid : Pid)

inductive Thread : Type 1 where
  | unborn
  | running (program : Prog Label σ ε Query Answer Reply)
  | waiting (query : Query) (next : Answer query → Prog Label σ ε Query Answer Reply)
  | gone

structure Config where
  store : σ
  threads : Pid → Thread Reply Label σ ε Query Answer

end Definitions

variable {Call Reply Label σ ε Query : Type} {Answer : Query → Type} {α β : Type}

namespace Config

def initial (store : σ) : Config Reply Label σ ε Query Answer := ⟨store, fun _ => .unborn⟩

def put (c : Config Reply Label σ ε Query Answer) (pid : Pid)
    (thread : Thread Reply Label σ ε Query Answer) : Config Reply Label σ ε Query Answer :=
  { c with threads := update c.threads pid thread }

end Config

/-- A process that is under way. -/
def Thread.isLive : Thread Reply Label σ ε Query Answer → Bool
  | running _ | waiting _ _ => true
  | unborn | gone => false

section Runs

variable (service : Call → Prog Label σ ε Query Answer Reply)

inductive Step : Config Reply Label σ ε Query Answer →
    Event Call Reply Label σ ε Query Answer → Config Reply Label σ ε Query Answer → Prop
  | spawn {c pid} (call : Call) (unborn : c.threads pid = .unborn) :
      Step c (.spawned pid call) (c.put pid (.running (service call)))
  | commit {c pid} {γ : Type} {label : Label} {body : Tx σ ε γ} {next} {a : γ} {s : σ}
      (at_ : c.threads pid = .running (.transact label body next))
      (ran : body c.store = .ok (a, s)) :
      Step c (.committed pid label c.store s) ⟨s, update c.threads pid (.running (next (.ok a)))⟩
  | raise {c pid} {γ : Type} {label : Label} {body : Tx σ ε γ} {next} {e : ε}
      (at_ : c.threads pid = .running (.transact label body next))
      (ran : body c.store = .error e) :
      Step c (.raised pid label c.store e) (c.put pid (.running (next (.error e))))
  | begin {c pid query next} (at_ : c.threads pid = .running (.ask query next)) :
      Step c (.began pid query) (c.put pid (.waiting query next))
  | answer {c pid query next} (answer : Answer query) (at_ : c.threads pid = .waiting query next) :
      Step c (.returned pid query answer) (c.put pid (.running (next answer)))
  | finish {c pid outcome} (at_ : c.threads pid = .running (.finish outcome)) :
      Step c (.finished pid outcome) (c.put pid .gone)
  | crash {c pid} (live : (c.threads pid).isLive = true) : Step c (.crashed pid) (c.put pid .gone)

/-- The events of a run from `s`, and what it has come to. -/
inductive Run (s : σ) : List (Event Call Reply Label σ ε Query Answer) →
    Config Reply Label σ ε Query Answer → Prop
  | start : Run s [] (.initial s)
  | step {t c e c'} (earlier : Run s t c) (last : Step service c e c') : Run s (t ++ [e]) c'

end Runs

/-! ## Replaying a schedule -/

inductive Choice (Call Query : Type) (Answer : Query → Type) where
  | spawn (pid : Pid) (call : Call)
  /-- The process takes its next step; an open question gets its answer from `answers`. -/
  | step (pid : Pid) (answers : (query : Query) → Answer query)
  | crash (pid : Pid)

section Replay

variable (service : Call → Prog Label σ ε Query Answer Reply)

/-- What a choice leads to, unless the process cannot take it. -/
def perform (c : Config Reply Label σ ε Query Answer) : Choice Call Query Answer →
    Option (Event Call Reply Label σ ε Query Answer × Config Reply Label σ ε Query Answer)
  | .spawn pid call =>
    match c.threads pid with
    | .unborn => some (.spawned pid call, c.put pid (.running (service call)))
    | _ => none
  | .step pid answers =>
    match c.threads pid with
    | .running (.transact label body next) =>
      match body c.store with
      | .ok (a, s) =>
        some (.committed pid label c.store s, ⟨s, update c.threads pid (.running (next (.ok a)))⟩)
      | .error e => some (.raised pid label c.store e, c.put pid (.running (next (.error e))))
    | .running (.ask query next) => some (.began pid query, c.put pid (.waiting query next))
    | .running (.finish outcome) => some (.finished pid outcome, c.put pid .gone)
    | .waiting query next =>
      some (.returned pid query (answers query), c.put pid (.running (next (answers query))))
    | .unborn | .gone => none
  | .crash pid => if (c.threads pid).isLive then some (.crashed pid, c.put pid .gone) else none

/-- The events of a schedule and where it ends; a choice nobody can take is passed over. -/
def replay : List (Choice Call Query Answer) → Config Reply Label σ ε Query Answer →
    List (Event Call Reply Label σ ε Query Answer) × Config Reply Label σ ε Query Answer
  | [], c => ([], c)
  | choice :: rest, c =>
    match perform service c choice with
    | some (e, c') => (e :: (replay rest c').1, (replay rest c').2)
    | none => replay rest c

variable {service}

theorem perform_step {c c' : Config Reply Label σ ε Query Answer}
    {choice : Choice Call Query Answer} {e : Event Call Reply Label σ ε Query Answer}
    (done : perform service c choice = some (e, c')) : Step service c e c' := by
  cases choice with
  | spawn pid call =>
    cases at_ : c.threads pid <;> simp only [perform, at_, reduceCtorEq, Option.some.injEq,
      Prod.mk.injEq] at done
    obtain ⟨rfl, rfl⟩ := done
    exact .spawn call at_
  | step pid answers =>
    cases at_ : c.threads pid with
    | unborn => simp [perform, at_] at done
    | gone => simp [perform, at_] at done
    | waiting query next =>
      simp only [perform, at_, Option.some.injEq, Prod.mk.injEq] at done
      obtain ⟨rfl, rfl⟩ := done
      exact .answer _ at_
    | running program =>
      cases program with
      | finish outcome =>
        simp only [perform, at_, Option.some.injEq, Prod.mk.injEq] at done
        obtain ⟨rfl, rfl⟩ := done
        exact .finish at_
      | ask query next =>
        simp only [perform, at_, Option.some.injEq, Prod.mk.injEq] at done
        obtain ⟨rfl, rfl⟩ := done
        exact .begin at_
      | transact label body next =>
        cases ran : body c.store with
        | error raised =>
          simp only [perform, at_, ran, Option.some.injEq, Prod.mk.injEq] at done
          obtain ⟨rfl, rfl⟩ := done
          exact .raise at_ ran
        | ok pair =>
          simp only [perform, at_, ran, Option.some.injEq, Prod.mk.injEq] at done
          obtain ⟨rfl, rfl⟩ := done
          exact .commit at_ ran
  | crash pid =>
    simp only [perform, Option.ite_none_right_eq_some, Option.some.injEq, Prod.mk.injEq] at done
    obtain ⟨live, rfl, rfl⟩ := done
    exact .crash live

theorem replay_run_from {s : σ} {t : List (Event Call Reply Label σ ε Query Answer)}
    {c : Config Reply Label σ ε Query Answer} (choices : List (Choice Call Query Answer))
    (earlier : Run service s t c) :
    Run service s (t ++ (replay service choices c).1) (replay service choices c).2 := by
  induction choices generalizing t c with
  | nil => simpa [replay] using earlier
  | cons choice rest ih =>
    cases done : perform service c choice with
    | none =>
      simp only [replay, done]
      exact ih earlier
    | some pair =>
      obtain ⟨e, c'⟩ := pair
      simp only [replay, done]
      simpa using ih (.step earlier (perform_step done))

/-- A replayed schedule is a run. -/
theorem replay_run (s : σ) (choices : List (Choice Call Query Answer)) :
    Run service s (replay service choices (.initial s)).1
      (replay service choices (.initial s)).2 := by
  simpa using replay_run_from choices (.start : Run service s [] (.initial s))

theorem perform_spawned {c c' : Config Reply Label σ ε Query Answer}
    {choice : Choice Call Query Answer} {pid : Pid} {call : Call}
    (done : perform service c choice = some (.spawned pid call, c')) :
    choice = .spawn pid call := by
  cases choice with
  | spawn other call' =>
    cases at_ : c.threads other <;> simp [perform, at_] at done
    obtain ⟨⟨rfl, rfl⟩, -⟩ := done
    rfl
  | step other answers =>
    simp only [perform] at done
    split at done
    · split at done <;> cases done
    all_goals cases done
  | crash other => simp [perform] at done

/-- A replayed schedule spawns what it chooses to. -/
theorem replay_spawned {c : Config Reply Label σ ε Query Answer}
    {choices : List (Choice Call Query Answer)} {pid : Pid} {call : Call}
    (spawned : .spawned pid call ∈ (replay service choices c).1) :
    .spawn pid call ∈ choices := by
  induction choices generalizing c with
  | nil => cases spawned
  | cons choice rest ih =>
    cases done : perform service c choice with
    | none =>
      simp only [replay, done] at spawned
      exact List.mem_cons_of_mem _ (ih spawned)
    | some pair =>
      simp only [replay, done, List.mem_cons] at spawned
      rcases spawned with same | later
      · have performed : perform service c choice = some (.spawned pid call, pair.2) := by
          rw [done, same]
        exact List.mem_cons.mpr (.inl (perform_spawned performed).symm)
      · exact List.mem_cons_of_mem _ (ih later)

end Replay

/-! ## Contracts -/

/-- What holds between the steps of a process: of every state, of what the others do to it, and
of what the process commits. -/
structure Contract (σ : Type) where
  inv : σ → Prop
  rely : σ → σ → Prop
  guar : σ → σ → Prop

/-- What a process commits is what the others rely on. -/
structure Contract.Sound (C : Contract σ) : Prop where
  preorder : IsPreorder σ C.rely
  read : ∀ {s}, C.inv s → C.guar s s
  kept : ∀ {s s'}, C.inv s → C.guar s s' → C.inv s' ∧ C.rely s s'

variable {C : Contract σ}

/-- Nothing is known of the answers. -/
def AnyAnswer (query : Query) (_ : Answer query) : Prop := True

/-- From the last state it saw, every commit of the program is guaranteed whatever the others do
and whichever answers `given` it gets, and it ends in `Q`. -/
def Assures (C : Contract σ) (given : (query : Query) → Answer query → Prop)
    (Q : Except ε α → σ → Prop) :
    Prog Label σ ε Query Answer α → σ → Prop
  | .finish outcome, last => Q outcome last
  | .transact _ body next, last =>
    ∀ s, C.inv s → C.rely last s →
      (∀ a s', body s = .ok (a, s') →
        C.guar s s' ∧ (C.inv s' → C.rely s s' → Assures C given Q (next (.ok a)) s')) ∧
      ∀ e, body s = .error e → Assures C given Q (next (.error e)) s
  | .ask query next, last => ∀ s, C.inv s → C.rely last s →
      ∀ answer, given query answer → Assures C given Q (next answer) s

section Assures

variable {given : (query : Query) → Answer query → Prop}
  {Q Q' : Except ε α → σ → Prop} {last : σ}

/-- What a bind needs of its first program's end. -/
def BindPost (C : Contract σ) (given : (query : Query) → Answer query → Prop)
    (Q : Except ε β → σ → Prop)
    (f : α → Prog Label σ ε Query Answer β) : Except ε α → σ → Prop
  | .ok a, s => Assures C given Q (f a) s
  | .error e, s => Q (.error e) s

theorem Assures.bind {Q : Except ε β → σ → Prop} {p : Prog Label σ ε Query Answer α}
    {f : α → Prog Label σ ε Query Answer β}
    (assures : Assures C given (BindPost C given Q f) p last) :
    Assures C given Q (p >>= f) last := by
  induction p generalizing last with
  | finish outcome => cases outcome <;> exact assures
  | transact label body next ih =>
    intro s inv seen
    obtain ⟨commits, raises⟩ := assures s inv seen
    refine ⟨fun a s' ran => ?_, fun e ran => ih _ (raises e ran)⟩
    obtain ⟨kept, rest⟩ := commits a s' ran
    exact ⟨kept, fun inv' own => ih _ (rest inv' own)⟩
  | ask query next ih =>
    intro s inv seen answer answered
    exact ih _ (assures s inv seen answer answered)

theorem Assures.mono (sound : C.Sound) {p : Prog Label σ ε Query Answer α} (inv : C.inv last)
    (weaker : ∀ outcome s, C.inv s → C.rely last s → Q outcome s → Q' outcome s)
    (assures : Assures C given Q p last) : Assures C given Q' p last := by
  have := sound.preorder
  induction p generalizing last with
  | finish outcome => exact weaker _ _ inv (refl_of C.rely last) assures
  | transact label body next ih =>
    intro s here seen
    obtain ⟨commits, raises⟩ := assures s here seen
    refine ⟨fun a s' ran => ?_, fun e ran => ih _ here
      (fun outcome s' inv' own => weaker outcome s' inv' (trans_of C.rely seen own))
      (raises e ran)⟩
    obtain ⟨kept, rest⟩ := commits a s' ran
    refine ⟨kept, fun inv' own => ih _ inv' (fun outcome s'' inv'' more => ?_) (rest inv' own)⟩
    exact weaker outcome s'' inv'' (trans_of C.rely seen (trans_of C.rely own more))
  | ask query next ih =>
    intro s here seen answer answered
    exact ih _ here (fun outcome s' inv' own => weaker outcome s' inv' (trans_of C.rely seen own))
      (assures s here seen answer answered)

theorem Assures.handled {Q : Except ε (Except ε α) → σ → Prop} {p : Prog Label σ ε Query Answer α}
    (assures : Assures C given (fun outcome s => Q (.ok outcome) s) p last) :
    Assures C given Q p.handled last := by
  induction p generalizing last with
  | finish outcome => exact assures
  | transact label body next ih =>
    intro s inv seen
    obtain ⟨commits, raises⟩ := assures s inv seen
    refine ⟨fun a s' ran => ?_, fun e ran => ih _ (raises e ran)⟩
    obtain ⟨kept, rest⟩ := commits a s' ran
    exact ⟨kept, fun inv' own => ih _ (rest inv' own)⟩
  | ask query next ih =>
    intro s inv seen answer answered
    exact ih _ (assures s inv seen answer answered)

theorem assures_attempt {label : Label} {body : Tx σ ε β}
    {next : Except ε β → Prog Label σ ε Query Answer α}
    (ok : ∀ s b s', C.inv s → C.rely last s → body s = .ok (b, s') →
      C.guar s s' ∧ (C.inv s' → C.rely s s' → Assures C given Q (next (.ok b)) s'))
    (error : ∀ s e, C.inv s → C.rely last s → body s = .error e →
      Assures C given Q (next (.error e)) s) :
    Assures C given Q (Prog.attempt label body >>= next) last := by
  rw [Prog.attempt_bind]
  exact fun s inv seen =>
    ⟨fun b s' ran => ok s b s' inv seen ran, fun e ran => error s e inv seen ran⟩

theorem assures_commit {label : Label} {body : Tx σ ε β}
    {next : β → Prog Label σ ε Query Answer α}
    (ok : ∀ s b s', C.inv s → C.rely last s → body s = .ok (b, s') →
      C.guar s s' ∧ (C.inv s' → C.rely s s' → Assures C given Q (next b) s'))
    (error : ∀ s e, C.inv s → C.rely last s → body s = .error e → Q (.error e) s) :
    Assures C given Q (Prog.commit label body >>= next) last := by
  unfold Prog.commit
  rw [Prog.transact_bind]
  exact fun s inv seen =>
    ⟨fun b s' ran => ok s b s' inv seen ran, fun e ran => error s e inv seen ran⟩

theorem assures_question {query : Query} {next : Answer query → Prog Label σ ε Query Answer α}
    (rest : ∀ s answer, C.inv s → C.rely last s → given query answer →
      Assures C given Q (next answer) s) :
    Assures C given Q (Prog.question query >>= next) last := by
  rw [Prog.question_bind]
  exact fun s inv seen answer answered => rest s answer inv seen answered

end Assures

/-- `P` holds of what a program returns; nothing is asked of its exceptions. -/
def Returning (P : α → σ → Prop) : Except ε α → σ → Prop
  | .ok a, s => P a s
  | .error _, _ => True

/-- Nothing is promised of the value. -/
def Anything (_ : α) (_ : σ) : Prop := True

/-- The rule of sequence: the second program starts from what the first one returns. -/
theorem Assures.andThen (sound : C.Sound) {P : α → σ → Prop} {Q : β → σ → Prop} {last : σ}
    {p : Prog Label σ ε Query Answer α} {f : α → Prog Label σ ε Query Answer β}
    (inv : C.inv last) (first : Assures C given (Returning P) p last)
    (rest : ∀ a s, C.inv s → C.rely last s → P a s → Assures C given (Returning Q) (f a) s) :
    Assures C given (Returning Q) (p >>= f) last := by
  refine .bind (first.mono sound inv fun outcome s here seen holds => ?_)
  cases outcome with
  | ok a => exact rest a s here seen holds
  | error e => trivial

/-! ## Runs under a contract -/

/-- What a thread still has to do assures the contract, and ends in what its call promises. -/
def ThreadAssures (C : Contract σ) (given : (query : Query) → Answer query → Prop)
    (Q : Except ε Reply → σ → Prop)
    (thread : Thread Reply Label σ ε Query Answer) (s : σ) : Prop :=
  match thread with
  | .unborn | .gone => True
  | .running program => ∃ last, C.inv last ∧ C.rely last s ∧ Assures C given Q program last
  | .waiting query next => ∃ last, C.inv last ∧ C.rely last s ∧
      ∀ answer s, C.inv s → C.rely last s → given query answer → Assures C given Q (next answer) s

/-- What is known of a run so far. -/
structure Assured (C : Contract σ) (Q : Call → Except ε Reply → σ → Prop) (s₀ : σ)
    (t : List (Event Call Reply Label σ ε Query Answer)) (s : σ) : Prop where
  inv : C.inv s
  since : C.rely s₀ s
  commits : ∀ pid label before after, .committed pid label before after ∈ t →
    C.inv before ∧ C.guar before after ∧ C.rely s₀ before ∧ C.rely after s
  replies : ∀ pid outcome, .finished pid outcome ∈ t →
    ∃ call last, .spawned pid call ∈ t ∧ C.inv last ∧ Q call outcome last ∧ C.rely last s

/-- Every process that was spawned assures what its call promises. -/
structure Running (C : Contract σ) (given : (query : Query) → Answer query → Prop)
    (Q : Call → Except ε Reply → σ → Prop) (s₀ : σ)
    (t : List (Event Call Reply Label σ ε Query Answer))
    (c : Config Reply Label σ ε Query Answer) : Prop where
  assured : Assured C Q s₀ t c.store
  threads : ∀ pid, c.threads pid = .unborn ∨
    ∃ call, .spawned pid call ∈ t ∧ ThreadAssures C given (Q call) (c.threads pid) c.store

section Running

variable {service : Call → Prog Label σ ε Query Answer Reply}
  {given : (query : Query) → Answer query → Prop}
  {Q : Call → Except ε Reply → σ → Prop} {s₀ : σ}
  {t : List (Event Call Reply Label σ ε Query Answer)} {c : Config Reply Label σ ε Query Answer}

theorem threadAssures_running {Q : Except ε Reply → σ → Prop}
    {program : Prog Label σ ε Query Answer Reply} {last s : σ} (inv : C.inv last)
    (seen : C.rely last s) (assures : Assures C given Q program last) :
    ThreadAssures C given Q (.running program) s := ⟨last, inv, seen, assures⟩

theorem ThreadAssures.later (sound : C.Sound) {Q : Except ε Reply → σ → Prop}
    {thread : Thread Reply Label σ ε Query Answer} {s s' : σ}
    (assures : ThreadAssures C given Q thread s) (moved : C.rely s s') :
    ThreadAssures C given Q thread s' := by
  have := sound.preorder
  cases thread with
  | unborn => trivial
  | gone => trivial
  | running program =>
    obtain ⟨last, inv, seen, assures⟩ := assures
    exact ⟨last, inv, trans_of C.rely seen moved, assures⟩
  | waiting query next =>
    obtain ⟨last, inv, seen, assures⟩ := assures
    exact ⟨last, inv, trans_of C.rely seen moved, assures⟩

/-- An event that leaves the state alone keeps what is known, if it is no unpromised reply. -/
private theorem Assured.quiet (assured : Assured C Q s₀ t c.store)
    {e : Event Call Reply Label σ ε Query Answer}
    (other : ∀ pid label before after, e ≠ .committed pid label before after)
    (reply : ∀ pid outcome, e = .finished pid outcome → ∃ call last, .spawned pid call ∈ t ∧
      C.inv last ∧ Q call outcome last ∧ C.rely last c.store) :
    Assured C Q s₀ (t ++ [e]) c.store where
  inv := assured.inv
  since := assured.since
  commits := by
    intro pid label before after member
    obtain old | new := List.mem_append.mp member
    · exact assured.commits pid label before after old
    · exact absurd (List.mem_singleton.mp new).symm (other pid label before after)
  replies := by
    intro pid outcome member
    obtain ⟨call, last, spawned, rest⟩ : ∃ call last, .spawned pid call ∈ t ∧
        C.inv last ∧ Q call outcome last ∧ C.rely last c.store := by
      obtain old | new := List.mem_append.mp member
      · exact assured.replies pid outcome old
      · exact reply pid outcome (List.mem_singleton.mp new).symm
    exact ⟨call, last, List.mem_append_left _ spawned, rest⟩

private theorem Assured.committed (sound : C.Sound) (assured : Assured C Q s₀ t c.store)
    {pid : Pid} {label : Label} {s : σ} (guaranteed : C.guar c.store s) :
    Assured C Q s₀ (t ++ [.committed pid label c.store s]) s := by
  have := sound.preorder
  obtain ⟨inv, moved⟩ := sound.kept assured.inv guaranteed
  refine ⟨inv, trans_of C.rely assured.since moved, ?_, ?_⟩
  · intro other label' before after member
    obtain old | new := List.mem_append.mp member
    · obtain ⟨inv', guar, earlier, later⟩ := assured.commits other label' before after old
      exact ⟨inv', guar, earlier, trans_of C.rely later moved⟩
    · cases List.mem_singleton.mp new
      exact ⟨assured.inv, guaranteed, assured.since, refl_of C.rely s⟩
  · intro other outcome member
    obtain old | new := List.mem_append.mp member
    · obtain ⟨call, last, spawned, inv', promised, later⟩ := assured.replies other outcome old
      exact ⟨call, last, List.mem_append_left _ spawned, inv', promised,
        trans_of C.rely later moved⟩
    · cases List.mem_singleton.mp new

/-- The threads after one of them has moved. -/
private theorem threads_after (sound : C.Sound) {s : σ}
    {e : Event Call Reply Label σ ε Query Answer}
    (threads : ∀ pid, c.threads pid = .unborn ∨
      ∃ call, .spawned pid call ∈ t ∧ ThreadAssures C given (Q call) (c.threads pid) c.store)
    (moved : C.rely c.store s) {pid : Pid} {thread : Thread Reply Label σ ε Query Answer}
    {call : Call} (spawned : .spawned pid call ∈ t ++ [e])
    (own : ThreadAssures C given (Q call) thread s) (other : Pid) :
    update c.threads pid thread other = .unborn ∨
      ∃ call, .spawned other call ∈ t ++ [e] ∧
        ThreadAssures C given (Q call) (update c.threads pid thread other) s := by
  by_cases same : other = pid
  · subst same
    rw [update_self]
    exact .inr ⟨call, spawned, own⟩
  · rw [update_of_ne same]
    obtain unborn | ⟨call', spawned', assures⟩ := threads other
    · exact .inl unborn
    · exact .inr ⟨call', List.mem_append_left _ spawned', assures.later sound moved⟩

theorem Running.step (sound : C.Sound)
    {e : Event Call Reply Label σ ε Query Answer} {c' : Config Reply Label σ ε Query Answer}
    (assures : ∀ pid call, e = .spawned pid call →
      ∀ s, C.inv s → Assures C given (Q call) (service call) s)
    (answered : ∀ pid query answer, e = .returned pid query answer → given query answer)
    (running : Running C given Q s₀ t c) (last : Step service c e c') :
    Running C given Q s₀ (t ++ [e]) c' := by
  have := sound.preorder
  have here : C.rely c.store c.store := refl_of C.rely _
  obtain ⟨assured, threads⟩ := running
  have stopped : ∀ call, ThreadAssures C given (Q call)
      (.gone : Thread Reply Label σ ε Query Answer) c.store := fun _ => trivial
  -- the call of the process that moves
  have called : ∀ {pid thread}, c.threads pid = thread → thread ≠ .unborn → ∃ call,
      .spawned pid call ∈ t ∧ ThreadAssures C given (Q call) thread c.store := by
    intro pid thread at_ born
    obtain unborn | known := threads pid
    · exact absurd (at_.symm.trans unborn) born
    · exact at_ ▸ known
  cases last with
  | @spawn pid call unborn =>
    refine ⟨assured.quiet (by simp) (by simp), fun other => ?_⟩
    exact threads_after sound threads here (List.mem_append_right _ (List.mem_singleton.mpr rfl))
      (threadAssures_running assured.inv here (assures pid call rfl c.store assured.inv)) other
  | @commit pid _ label body next a s at_ ran =>
    obtain ⟨call, spawned, saw, inv, seen, own⟩ := called at_ (by simp)
    obtain ⟨guaranteed, rest⟩ := (own c.store assured.inv seen).1 a s ran
    obtain ⟨inv', moved⟩ := sound.kept assured.inv guaranteed
    refine ⟨assured.committed sound guaranteed, fun other => ?_⟩
    exact threads_after sound threads moved (List.mem_append_left _ spawned)
      (threadAssures_running inv' (refl_of C.rely s) (rest inv' moved)) other
  | @raise pid _ label body next e at_ ran =>
    obtain ⟨call, spawned, saw, inv, seen, own⟩ := called at_ (by simp)
    refine ⟨assured.quiet (by simp) (by simp), fun other => ?_⟩
    exact threads_after sound threads here (List.mem_append_left _ spawned)
      (threadAssures_running assured.inv here ((own c.store assured.inv seen).2 e ran)) other
  | @begin pid query next at_ =>
    obtain ⟨call, spawned, saw, inv, seen, own⟩ := called at_ (by simp)
    have waiting : ThreadAssures C given (Q call) (.waiting query next) c.store :=
      ⟨saw, inv, seen, fun answer s inv' own' => own s inv' own' answer⟩
    refine ⟨assured.quiet (by simp) (by simp), fun other => ?_⟩
    exact threads_after sound threads here (List.mem_append_left _ spawned) waiting other
  | @answer pid query next answer at_ =>
    obtain ⟨call, spawned, saw, inv, seen, own⟩ := called at_ (by simp)
    refine ⟨assured.quiet (by simp) (by simp), fun other => ?_⟩
    exact threads_after sound threads here (List.mem_append_left _ spawned)
      (threadAssures_running assured.inv here (own answer c.store assured.inv seen
        (answered pid query answer rfl))) other
  | @finish pid outcome at_ =>
    obtain ⟨call, spawned, saw, inv, seen, promised⟩ := called at_ (by simp)
    refine ⟨assured.quiet (by simp) ?_, fun other => ?_⟩
    · intro other outcome' is
      cases is
      exact ⟨call, saw, spawned, inv, promised, seen⟩
    · exact threads_after sound threads here (List.mem_append_left _ spawned) (stopped call) other
  | @crash pid live =>
    have born : c.threads pid ≠ .unborn := by
      intro unborn
      rw [unborn] at live
      cases live
    obtain ⟨call, spawned, -⟩ := called rfl born
    refine ⟨assured.quiet (by simp) (by simp), fun other => ?_⟩
    exact threads_after sound threads here (List.mem_append_left _ spawned) (stopped call) other

/-- Programs that assure a sound contract assure it in every interleaving; of the calls and the
answers only those of the run are asked about. -/
theorem Run.assured (sound : C.Sound)
    (assures : ∀ pid call, .spawned pid call ∈ t →
      ∀ s, C.inv s → Assures C given (Q call) (service call) s)
    (answered : ∀ pid query answer, .returned pid query answer ∈ t → given query answer)
    (start : C.inv s₀) (run : Run service s₀ t c) : Assured C Q s₀ t c.store := by
  have := sound.preorder
  suffices running : Running C given Q s₀ t c from running.assured
  induction run with
  | start => exact ⟨⟨start, refl_of C.rely s₀, by simp, by simp⟩, fun _ => .inl rfl⟩
  | step earlier last ih =>
    have running := ih (fun pid call member => assures pid call (List.mem_append_left _ member))
      fun pid query answer member => answered pid query answer (List.mem_append_left _ member)
    exact running.step sound (fun pid call is => assures pid call (by simp [is]))
      (fun pid query answer is => answered pid query answer (by simp [is])) last

end Running

end Process
