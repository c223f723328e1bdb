import Stateback.Lib.Interleaving
/-!
# Processes that carry a phase

A phase is what a process is known to be up to, from its own commits, questions and answers.
`Follows` says that a program changes its phase only as a `Track` allows, and `Run.tracked` gives
every run of such programs the phases of its processes: what a claim says of the whole system is
then an invariant of the events, the state and the phases.
-/

namespace Process

open Transaction Function

variable {Call Reply Label σ ε Query Phase : Type} {Answer : Query → Type} {α β : Type}

/-- How a process may change its phase, while its commits are permitted in the states they meet. -/
structure Track (Phase Label σ Query : Type) (Answer : Query → Type) where
  permits : Label → σ → Prop
  commits : Phase → Label → σ → σ → Phase → Prop
  begins : Phase → (query : Query) → Phase → Prop
  returns : Phase → (query : Query) → Answer query → Phase → Prop

/-- `Assures`, with every change of the phase on the track as long as its commits are permitted. -/
def Follows (C : Contract σ) (T : Track Phase Label σ Query Answer)
    (Q : Except ε α → Phase → σ → Prop) :
    Prog Label σ ε Query Answer α → Phase → σ → Prop
  | .finish outcome, phase, last => Q outcome phase last
  | .transact label body next, phase, last =>
    ∀ s, C.inv s → C.rely last s →
      (∀ a s', body s = .ok (a, s') → C.guar s s' ∧ (T.permits label s → C.inv s' → C.rely s s' →
        ∃ phase', T.commits phase label s s' phase' ∧ Follows C T Q (next (.ok a)) phase' s')) ∧
      ∀ e, body s = .error e → Follows C T Q (next (.error e)) phase s
  | .ask query next, phase, last => ∀ s, C.inv s → C.rely last s →
      ∃ asked, T.begins phase query asked ∧ ∀ s', C.inv s' → C.rely s s' → ∀ answer,
        ∃ phase', T.returns asked query answer phase' ∧
          Follows C T Q (next answer) phase' s'

variable {C : Contract σ} {T : Track Phase Label σ Query Answer}

section Rules

variable {Q : Except ε α → Phase → σ → Prop} {phase : Phase} {last : σ}

theorem follows_attempt {label : Label} {body : Tx σ ε β}
    {next : Except ε β → Prog Label σ ε Query Answer α}
    (ok : ∀ s b s', C.inv s → C.rely last s → body s = .ok (b, s') →
      C.guar s s' ∧ (T.permits label s → C.inv s' → C.rely s s' → ∃ phase',
        T.commits phase label s s' phase' ∧ Follows C T Q (next (.ok b)) phase' s'))
    (error : ∀ s e, C.inv s → C.rely last s → body s = .error e →
      Follows C T Q (next (.error e)) phase s) :
    Follows C T Q (Prog.attempt label body >>= next) phase last := by
  rw [Prog.attempt_bind]
  exact fun s inv seen =>
    ⟨fun b s' ran => ok s b s' inv seen ran, fun e ran => error s e inv seen ran⟩

theorem follows_commit {label : Label} {body : Tx σ ε β}
    {next : β → Prog Label σ ε Query Answer α}
    (ok : ∀ s b s', C.inv s → C.rely last s → body s = .ok (b, s') →
      C.guar s s' ∧ (T.permits label s → C.inv s' → C.rely s s' → ∃ phase',
        T.commits phase label s s' phase' ∧ Follows C T Q (next b) phase' s'))
    (error : ∀ s e, C.inv s → C.rely last s → body s = .error e → Q (.error e) phase s) :
    Follows C T Q (Prog.commit label body >>= next) phase last := by
  unfold Prog.commit
  rw [Prog.transact_bind]
  exact fun s inv seen =>
    ⟨fun b s' ran => ok s b s' inv seen ran, fun e ran => error s e inv seen ran⟩

theorem follows_question {query : Query} {next : Answer query → Prog Label σ ε Query Answer α}
    {asked : Phase} (begins : T.begins phase query asked)
    (rest : ∀ s answer, C.inv s → C.rely last s → ∃ phase',
      T.returns asked query answer phase' ∧ Follows C T Q (next answer) phase' s)
    (sound : C.Sound) : Follows C T Q (Prog.question query >>= next) phase last := by
  have := sound.preorder
  rw [Prog.question_bind]
  intro s inv seen
  exact ⟨asked, begins, fun s' inv' later answer =>
    rest s' answer inv' (trans_of C.rely seen later)⟩

/-- What a bind needs of its first program's end. -/
def FollowsPost (C : Contract σ) (T : Track Phase Label σ Query Answer)
    (Q : Except ε β → Phase → σ → Prop) (f : α → Prog Label σ ε Query Answer β) :
    Except ε α → Phase → σ → Prop
  | .ok a, phase, s => Follows C T Q (f a) phase s
  | .error e, phase, s => Q (.error e) phase s

theorem Follows.bind {Q : Except ε β → Phase → σ → Prop} {p : Prog Label σ ε Query Answer α}
    {f : α → Prog Label σ ε Query Answer β}
    (follows : Follows C T (FollowsPost C T Q f) p phase last) :
    Follows C T Q (p >>= f) phase last := by
  induction p generalizing phase last with
  | finish outcome => cases outcome <;> exact follows
  | transact label body next ih =>
    intro s inv seen
    obtain ⟨commits, raises⟩ := follows s inv seen
    refine ⟨fun a s' ran => ?_, fun e ran => ih _ (raises e ran)⟩
    obtain ⟨kept, rest⟩ := commits a s' ran
    refine ⟨kept, fun permitted inv' own => ?_⟩
    obtain ⟨phase', moved, rest⟩ := rest permitted inv' own
    exact ⟨phase', moved, ih _ rest⟩
  | ask query next ih =>
    intro s inv seen
    obtain ⟨asked, begins, rest⟩ := follows s inv seen
    refine ⟨asked, begins, fun s' inv' later answer => ?_⟩
    obtain ⟨phase', returns, rest⟩ := rest s' inv' later answer
    exact ⟨phase', returns, ih _ rest⟩

/-- The program inside a `try`. -/
theorem Follows.handled {Q : Except ε (Except ε α) → Phase → σ → Prop}
    {p : Prog Label σ ε Query Answer α}
    (follows : Follows C T (fun outcome => Q (.ok outcome)) p phase last) :
    Follows C T Q p.handled phase last := by
  induction p generalizing phase last with
  | finish outcome => exact follows
  | transact label body next ih =>
    intro s inv seen
    obtain ⟨commits, raises⟩ := follows s inv seen
    refine ⟨fun a s' ran => ?_, fun e ran => ih _ (raises e ran)⟩
    obtain ⟨kept, rest⟩ := commits a s' ran
    refine ⟨kept, fun permitted inv' own => ?_⟩
    obtain ⟨phase', moved, rest⟩ := rest permitted inv' own
    exact ⟨phase', moved, ih _ rest⟩
  | ask query next ih =>
    intro s inv seen
    obtain ⟨asked, begins, rest⟩ := follows s inv seen
    refine ⟨asked, begins, fun s' inv' later answer => ?_⟩
    obtain ⟨phase', returns, rest⟩ := rest s' inv' later answer
    exact ⟨phase', returns, ih _ rest⟩

theorem Follows.mono {Q' : Except ε α → Phase → σ → Prop} {p : Prog Label σ ε Query Answer α}
    (follows : Follows C T Q p phase last)
    (weaker : ∀ outcome phase s, Q outcome phase s → Q' outcome phase s) :
    Follows C T Q' p phase last := by
  induction p generalizing phase last with
  | finish outcome => exact weaker _ _ _ follows
  | transact label body next ih =>
    intro s inv seen
    obtain ⟨commits, raises⟩ := follows s inv seen
    refine ⟨fun a s' ran => ?_, fun e ran => ih _ (raises e ran)⟩
    obtain ⟨kept, rest⟩ := commits a s' ran
    refine ⟨kept, fun permitted inv' own => ?_⟩
    obtain ⟨phase', moved, rest⟩ := rest permitted inv' own
    exact ⟨phase', moved, ih _ rest⟩
  | ask query next ih =>
    intro s inv seen
    obtain ⟨asked, begins, rest⟩ := follows s inv seen
    refine ⟨asked, begins, fun s' inv' later answer => ?_⟩
    obtain ⟨phase', returns, rest⟩ := rest s' inv' later answer
    exact ⟨phase', returns, ih _ rest⟩

/-- A track of fewer phases that allows what this one does. -/
theorem Follows.along {Phase' : Type} {T' : Track Phase' Label σ Query Answer}
    {Q' : Except ε α → Phase' → σ → Prop} (f : Phase → Phase')
    (permits : ∀ {label s}, T'.permits label s → T.permits label s)
    (commits : ∀ {phase label s s' phase'}, T.commits phase label s s' phase' →
      T'.commits (f phase) label s s' (f phase'))
    (begins : ∀ {phase query phase'}, T.begins phase query phase' →
      T'.begins (f phase) query (f phase'))
    (returns : ∀ {phase query answer phase'}, T.returns phase query answer phase' →
      T'.returns (f phase) query answer (f phase'))
    (ends : ∀ {outcome phase s}, Q outcome phase s → Q' outcome (f phase) s)
    {p : Prog Label σ ε Query Answer α} (follows : Follows C T Q p phase last) :
    Follows C T' Q' p (f phase) last := by
  induction p generalizing phase last with
  | finish outcome => exact ends follows
  | transact label body next ih =>
    intro s inv seen
    obtain ⟨made, raises⟩ := follows s inv seen
    refine ⟨fun a s' ran => ?_, fun e ran => ih _ (raises e ran)⟩
    obtain ⟨kept, rest⟩ := made a s' ran
    refine ⟨kept, fun permitted inv' own => ?_⟩
    obtain ⟨phase', moved, rest⟩ := rest (permits permitted) inv' own
    exact ⟨f phase', commits moved, ih _ rest⟩
  | ask query next ih =>
    intro s inv seen
    obtain ⟨asked, begun, rest⟩ := follows s inv seen
    refine ⟨f asked, begins begun, fun s' inv' later answer => ?_⟩
    obtain ⟨phase', returned, rest⟩ := rest s' inv' later answer
    exact ⟨f phase', returns returned, ih _ rest⟩

end Rules

/-! ## Programs made of given pieces -/

/-- Every transaction the program may run is one of `runs`, every question one of `asks`. -/
def MadeOf (runs : (β : Type) → Label → Tx σ ε β → Prop) (asks : Query → Prop) :
    Prog Label σ ε Query Answer α → Prop
  | .finish _ => True
  | .transact label body next => runs _ label body ∧ ∀ ended, MadeOf runs asks (next ended)
  | .ask query next => asks query ∧ ∀ answer, MadeOf runs asks (next answer)

section Pieces

variable {runs : (β : Type) → Label → Tx σ ε β → Prop} {asks : Query → Prop}

theorem MadeOf.bind {p : Prog Label σ ε Query Answer α} {f : α → Prog Label σ ε Query Answer β}
    (made : MadeOf runs asks p) (rest : ∀ a, MadeOf runs asks (f a)) :
    MadeOf runs asks (p >>= f) := by
  induction p with
  | finish outcome =>
    cases outcome with
    | ok a => exact rest a
    | error => trivial
  | transact label body next ih => exact ⟨made.1, fun ended => ih ended (made.2 ended)⟩
  | ask query next ih => exact ⟨made.1, fun answer => ih answer (made.2 answer)⟩

theorem madeOf_attempt {label : Label} {body : Tx σ ε β}
    {next : Except ε β → Prog Label σ ε Query Answer α} (piece : runs β label body)
    (rest : ∀ ended, MadeOf runs asks (next ended)) :
    MadeOf runs asks (Prog.attempt label body >>= next) :=
  ⟨piece, rest⟩

theorem madeOf_commit {label : Label} {body : Tx σ ε β}
    {next : β → Prog Label σ ε Query Answer α} (piece : runs β label body)
    (rest : ∀ b, MadeOf runs asks (next b)) :
    MadeOf runs asks (Prog.commit label body >>= next) := by
  refine ⟨piece, fun ended => ?_⟩
  cases ended with
  | ok b => exact rest b
  | error => trivial

theorem madeOf_question {query : Query} {next : Answer query → Prog Label σ ε Query Answer α}
    (piece : asks query) (rest : ∀ answer, MadeOf runs asks (next answer)) :
    MadeOf runs asks (Prog.question query >>= next) :=
  ⟨piece, rest⟩

theorem madeOf_require {value : Option β} {e : ε} {next : β → Prog Label σ ε Query Answer α}
    (rest : ∀ b, MadeOf runs asks (next b)) : MadeOf runs asks (Prog.require value e >>= next) := by
  cases value with
  | some b => exact rest b
  | none => trivial

/-- A program of pieces that leave the phase alone. -/
theorem MadeOf.follows {Q : Except ε α → Phase → σ → Prop} {p : Prog Label σ ε Query Answer α}
    {phase : Phase} {last : σ} (made : MadeOf runs asks p)
    (commits : ∀ β label body, runs β label body → ∀ s b s', C.inv s → body s = .ok (b, s') →
      C.guar s s' ∧ T.commits phase label s s' phase)
    (begins : ∀ query, asks query → T.begins phase query phase)
    (returns : ∀ query answer, asks query → T.returns phase query answer phase)
    (ends : ∀ outcome s, Q outcome phase s) : Follows C T Q p phase last := by
  induction p generalizing last with
  | finish outcome => exact ends outcome last
  | transact label body next ih =>
    intro s inv seen
    refine ⟨fun b s' ran => ?_, fun e _ => ih _ (made.2 _)⟩
    obtain ⟨guaranteed, moved⟩ := commits _ label body made.1 s b s' inv ran
    exact ⟨guaranteed, fun _ _ _ => ⟨phase, moved, ih _ (made.2 _)⟩⟩
  | ask query next ih =>
    intro s inv seen
    exact ⟨phase, begins query made.1, fun s' _ _ answer =>
      ⟨phase, returns query answer made.1, ih answer (made.2 answer)⟩⟩

end Pieces

/-! ## Runs -/

section Runs

variable (C) (T) (Q : Except ε Reply → Phase → σ → Prop)

/-- What an event does to the phases of the processes. -/
inductive Turns (s : σ) (phases : Pid → Phase) :
    Event Call Reply Label σ ε Query Answer → (Pid → Phase) → Prop
  | spawned {pid call} : Turns s phases (.spawned pid call) phases
  | committed {pid label s' phase'} (inv : C.inv s) (guaranteed : C.guar s s')
      (permitted : T.permits label s) (commits : T.commits (phases pid) label s s' phase') :
      Turns s phases (.committed pid label s s') (update phases pid phase')
  | raised {pid label e} : Turns s phases (.raised pid label s e) phases
  | began {pid query phase'} (begins : T.begins (phases pid) query phase') :
      Turns s phases (.began pid query) (update phases pid phase')
  | returned {pid query answer phase'} (returns : T.returns (phases pid) query answer phase') :
      Turns s phases (.returned pid query answer) (update phases pid phase')
  | finished {pid outcome last} (ended : Q outcome (phases pid) last) (later : C.rely last s) :
      Turns s phases (.finished pid outcome) phases
  | crashed {pid} : Turns s phases (.crashed pid) phases

variable (service : Call → Prog Label σ ε Query Answer Reply) (initial : Phase)

/-- A run and the phases its processes are in. -/
inductive Tracked (s₀ : σ) : List (Event Call Reply Label σ ε Query Answer) →
    Config Reply Label σ ε Query Answer → (Pid → Phase) → Prop
  | start : Tracked s₀ [] (.initial s₀) fun _ => initial
  | step {t c phases e c' phases'} (earlier : Tracked s₀ t c phases) (last : Step service c e c')
      (turns : Turns C T Q c.store phases e phases') : Tracked s₀ (t ++ [e]) c' phases'

/-- What a thread still has to do follows the track. -/
def ThreadFollows (thread : Thread Reply Label σ ε Query Answer) (phase : Phase) (s : σ) : Prop :=
  match thread with
  | .unborn => phase = initial
  | .gone => True
  | .running program => ∃ last, C.rely last s ∧ Follows C T Q program phase last
  | .waiting query next => ∃ last, C.rely last s ∧
      ∀ s', C.inv s' → C.rely last s' → ∀ answer, ∃ phase',
        T.returns phase query answer phase' ∧ Follows C T Q (next answer) phase' s'

end Runs

section Runs

variable {Q : Except ε Reply → Phase → σ → Prop}
  {service : Call → Prog Label σ ε Query Answer Reply} {initial : Phase} {s₀ : σ}
  {t : List (Event Call Reply Label σ ε Query Answer)} {c : Config Reply Label σ ε Query Answer}
  {phases : Pid → Phase}

theorem ThreadFollows.later (sound : C.Sound) {thread : Thread Reply Label σ ε Query Answer}
    {phase : Phase} {s s' : σ} (follows : ThreadFollows C T Q initial thread phase s)
    (moved : C.rely s s') : ThreadFollows C T Q initial thread phase s' := by
  have := sound.preorder
  cases thread with
  | unborn => exact follows
  | gone => trivial
  | running program =>
    obtain ⟨last, seen, follows⟩ := follows
    exact ⟨last, trans_of C.rely seen moved, follows⟩
  | waiting query next =>
    obtain ⟨last, seen, follows⟩ := follows
    exact ⟨last, trans_of C.rely seen moved, follows⟩

/-- The threads after one of them has moved, in its phase and its program. -/
theorem threadFollows_update (sound : C.Sound) {s : σ}
    (threads : ∀ pid, ThreadFollows C T Q initial (c.threads pid) (phases pid) c.store)
    (moved : C.rely c.store s) {pid : Pid} {thread : Thread Reply Label σ ε Query Answer}
    {phase : Phase} (own : ThreadFollows C T Q initial thread phase s) (other : Pid) :
    ThreadFollows C T Q initial (update c.threads pid thread other) (update phases pid phase other)
      s := by
  by_cases same : other = pid
  · subst same
    rw [update_self, update_self]
    exact own
  · rw [update_of_ne same, update_of_ne same]
    exact (threads other).later sound moved

theorem threadFollows_quiet
    (threads : ∀ pid, ThreadFollows C T Q initial (c.threads pid) (phases pid) c.store) {pid : Pid}
    {thread : Thread Reply Label σ ε Query Answer}
    (own : ThreadFollows C T Q initial thread (phases pid) c.store) (other : Pid) :
    ThreadFollows C T Q initial (update c.threads pid thread other) (phases other) c.store := by
  by_cases same : other = pid
  · subst same
    rw [update_self]
    exact own
  · rw [update_of_ne same]
    exact threads other

/-- One step of a run whose programs follow the track. -/
theorem Tracked.extend (sound : C.Sound)
    (follows : ∀ call s, C.inv s → Follows C T Q (service call) initial s)
    {e : Event Call Reply Label σ ε Query Answer} {c' : Config Reply Label σ ε Query Answer}
    (inv : C.inv c.store)
    (threads : ∀ pid, ThreadFollows C T Q initial (c.threads pid) (phases pid) c.store)
    (permitted : ∀ pid label before after, e = .committed pid label before after →
      T.permits label before)
    (last : Step service c e c') :
    ∃ phases', Turns C T Q c.store phases e phases' ∧ C.inv c'.store ∧
      ∀ pid, ThreadFollows C T Q initial (c'.threads pid) (phases' pid) c'.store := by
  have := sound.preorder
  have here : C.rely c.store c.store := refl_of C.rely _
  cases last with
  | @spawn pid call unborn =>
    have own := threads pid
    rw [unborn] at own
    have phase : phases pid = initial := own
    have starts : Follows C T Q (service call) (phases pid) c.store := by
      rw [phase]
      exact follows call c.store inv
    exact ⟨phases, .spawned, inv, threadFollows_quiet threads ⟨c.store, here, starts⟩⟩
  | @commit pid _ label body next a s at_ ran =>
    have own := threads pid
    rw [at_] at own
    obtain ⟨saw, seen, own⟩ := own
    obtain ⟨guaranteed, rest⟩ := (own c.store inv seen).1 a s ran
    obtain ⟨inv', moved⟩ := sound.kept inv guaranteed
    obtain ⟨phase', commits, rest⟩ := rest (permitted pid label c.store s rfl) inv' moved
    exact ⟨_, .committed inv guaranteed (permitted pid label c.store s rfl) commits, inv',
      threadFollows_update sound threads moved ⟨s, refl_of C.rely s, rest⟩⟩
  | @raise pid _ label body next e at_ ran =>
    have own := threads pid
    rw [at_] at own
    obtain ⟨saw, seen, own⟩ := own
    have rest := (own c.store inv seen).2 e ran
    exact ⟨phases, .raised, inv, threadFollows_quiet threads ⟨c.store, here, rest⟩⟩
  | @begin pid query next at_ =>
    have own := threads pid
    rw [at_] at own
    obtain ⟨saw, seen, own⟩ := own
    obtain ⟨asked, begins, rest⟩ := own c.store inv seen
    exact ⟨_, .began begins, inv, threadFollows_update sound threads here ⟨c.store, here, rest⟩⟩
  | @answer pid query next answer at_ =>
    have own := threads pid
    rw [at_] at own
    obtain ⟨saw, seen, own⟩ := own
    obtain ⟨phase', returns, rest⟩ := own c.store inv seen answer
    exact ⟨_, .returned returns, inv, threadFollows_update sound threads here ⟨c.store, here, rest⟩⟩
  | @finish pid outcome at_ =>
    have own := threads pid
    rw [at_] at own
    obtain ⟨saw, seen, ended⟩ := own
    exact ⟨phases, .finished ended seen, inv, threadFollows_quiet threads trivial⟩
  | @crash pid live =>
    exact ⟨phases, .crashed, inv, threadFollows_quiet threads trivial⟩

/-- The phases of a run whose programs follow the track and whose commits are permitted. -/
theorem Run.tracked (sound : C.Sound)
    (follows : ∀ call s, C.inv s → Follows C T Q (service call) initial s)
    (permitted : ∀ pid label before after, .committed pid label before after ∈ t →
      T.permits label before)
    (start : C.inv s₀) (run : Run service s₀ t c) :
    ∃ phases, Tracked C T Q service initial s₀ t c phases ∧ C.inv c.store := by
  suffices known : ∃ phases, Tracked C T Q service initial s₀ t c phases ∧ C.inv c.store ∧
      ∀ pid, ThreadFollows C T Q initial (c.threads pid) (phases pid) c.store by
    obtain ⟨phases, tracked, inv, -⟩ := known
    exact ⟨phases, tracked, inv⟩
  induction run with
  | start => exact ⟨_, .start, start, fun _ => rfl⟩
  | step earlier last ih =>
    obtain ⟨phases, tracked, inv, threads⟩ := ih fun pid label before after member =>
      permitted pid label before after (List.mem_append_left _ member)
    obtain ⟨phases', turns, inv', threads'⟩ := Tracked.extend sound follows inv threads
      (fun pid label before after is => permitted pid label before after (by simp [is])) last
    exact ⟨phases', .step tracked last turns, inv', threads'⟩

theorem Tracked.run (tracked : Tracked C T Q service initial s₀ t c phases) :
    Run service s₀ t c := by
  induction tracked with
  | start => exact .start
  | step earlier last turns ih => exact .step ih last

end Runs

/-! ## Who has crashed -/

section Crashes

variable {service : Call → Prog Label σ ε Query Answer Reply} {s₀ : σ}
  {t : List (Event Call Reply Label σ ε Query Answer)} {c c' : Config Reply Label σ ε Query Answer}
  {e : Event Call Reply Label σ ε Query Answer}

/-- Whose step an event is. -/
def Event.pid : Event Call Reply Label σ ε Query Answer → Pid
  | spawned pid _ | committed pid _ _ _ | raised pid _ _ _ | began pid _ | returned pid _ _
  | finished pid _ | crashed pid => pid

theorem Step.alive (step : Step service c e c') : c.threads e.pid ≠ .gone := by
  intro gone
  cases step with
  | spawn call unborn => exact nomatch unborn.symm.trans gone
  | crash live =>
    have live : (Thread.gone : Thread Reply Label σ ε Query Answer).isLive = true := gone ▸ live
    cases live
  | commit at_ | raise at_ | begin at_ | finish at_ => exact nomatch at_.symm.trans gone
  | answer _ at_ => exact nomatch at_.symm.trans gone

theorem Step.others (step : Step service c e c') {pid : Pid} (other : pid ≠ e.pid) :
    c'.threads pid = c.threads pid := by
  cases step <;> exact update_of_ne other _ _

theorem Run.gone (run : Run service s₀ t c) {pid : Pid} (crashed : .crashed pid ∈ t) :
    c.threads pid = .gone := by
  induction run with
  | start => cases crashed
  | @step t c e c' earlier last ih =>
    rcases List.mem_append.mp crashed with old | new
    · have gone := ih old
      have other : pid ≠ e.pid := by
        rintro rfl
        exact last.alive gone
      rw [last.others other, gone]
    · obtain rfl := List.mem_singleton.mp new
      cases last
      exact update_self ..

/-- Who has crashed takes no step. -/
theorem Run.not_crashed (run : Run service s₀ t c) (step : Step service c e c') :
    .crashed e.pid ∉ t :=
  fun crashed => step.alive (run.gone crashed)

end Crashes

end Process
