import Stateback.Lib.Process
/-!
# Accounts of a run

A program that runs alone adds up what it does: an account is a value that every question and
every transaction may change.  `Yields` says what a program's end and its account satisfy whichever
answers come, one rule for each way to build a program.
-/

namespace Process

open Transaction

variable {Label σ ε Query γ : Type} {Answer : Query → Type} {α β : Type}

/-- How an account changes when a question is asked and when a transaction is run on a state. -/
structure Account (Label σ ε Query γ : Type) where
  asked : Query → γ → γ
  ran : {β : Type} → Label → Tx σ ε β → σ → γ → γ

variable (A : Account Label σ ε Query γ)

/-- The account at the end of a run alone. -/
def Prog.account (answers : Nat → (query : Query) → Answer query) :
    Prog Label σ ε Query Answer α → Nat → σ → γ → γ
  | .finish _, _, _, g => g
  | .transact label body next, n, s, g =>
    Prog.account answers (next (execute body s).2) n (execute body s).1 (A.ran label body s g)
  | .ask query next, n, s, g =>
    Prog.account answers (next (answers n query)) (n + 1) s (A.asked query g)

/-- An account that nothing changes any more is the one at the end. -/
theorem Prog.account_of_fixed {g : γ} (asked : ∀ query, A.asked query g = g)
    (ran : ∀ {β : Type} (label : Label) (body : Tx σ ε β) s, A.ran label body s g = g)
    (answers : Nat → (query : Query) → Answer query) (p : Prog Label σ ε Query Answer α) (n : Nat)
    (s : σ) : Prog.account A answers p n s g = g := by
  induction p generalizing n s with
  | finish outcome => rfl
  | transact label body next ih =>
    rw [Prog.account, ran]
    exact ih _ n _
  | ask query next ih =>
    rw [Prog.account, asked]
    exact ih _ (n + 1) s

/-- Alone and whichever answers come, the program ends in `Q`, given what the account is so far. -/
def Yields (Q : Except ε α → γ → σ → Prop) : Prog Label σ ε Query Answer α → γ → σ → Prop
  | .finish outcome, g, s => Q outcome g s
  | .transact label body next, g, s =>
    (∀ a s', body s = .ok (a, s') → Yields Q (next (.ok a)) (A.ran label body s g) s') ∧
      ∀ e, body s = .error e → Yields Q (next (.error e)) (A.ran label body s g) s
  | .ask query next, g, s => ∀ answer, Yields Q (next answer) (A.asked query g) s

variable {A} {Q Q' : Except ε α → γ → σ → Prop} {g : γ} {s : σ}

theorem Yields.alone {p : Prog Label σ ε Query Answer α} (yields : Yields A Q p g s)
    (answers : Nat → (query : Query) → Answer query) (n : Nat) :
    Q (Prog.alone answers p n s).outcome (Prog.account A answers p n s g)
      (Prog.alone answers p n s).state := by
  induction p generalizing n s g with
  | finish outcome => exact yields
  | transact label body next ih =>
    rw [Prog.alone, Prog.account]
    cases ran : body s with
    | ok ended =>
      rw [execute_ok.mpr ran]
      exact ih _ (yields.1 ended.1 ended.2 ran) n
    | error e =>
      rw [execute_error.mpr ⟨rfl, ran⟩]
      exact ih _ (yields.2 e ran) n
  | ask query next ih => exact ih _ (yields _) (n + 1)

theorem Yields.mono {p : Prog Label σ ε Query Answer α} (yields : Yields A Q p g s)
    (weaker : ∀ outcome g s, Q outcome g s → Q' outcome g s) : Yields A Q' p g s := by
  induction p generalizing s g with
  | finish outcome => exact weaker _ _ _ yields
  | transact label body next ih =>
    exact ⟨fun a s' ran => ih _ (yields.1 a s' ran), fun e ran => ih _ (yields.2 e ran)⟩
  | ask query next ih => exact fun answer => ih _ (yields answer)

/-- The rule of sequence: an exception of the first program ends the whole. -/
theorem Yields.bind {P : Except ε α → γ → σ → Prop} {Q : Except ε β → γ → σ → Prop}
    {p : Prog Label σ ε Query Answer α} {f : α → Prog Label σ ε Query Answer β}
    (first : Yields A P p g s) (raised : ∀ e g s, P (.error e) g s → Q (.error e) g s)
    (rest : ∀ a g s, P (.ok a) g s → Yields A Q (f a) g s) : Yields A Q (p >>= f) g s := by
  induction p generalizing s g with
  | finish outcome =>
    cases outcome with
    | ok a => exact rest a g s first
    | error e => exact raised e g s first
  | transact label body next ih =>
    exact ⟨fun a s' ran => ih _ (first.1 a s' ran), fun e ran => ih _ (first.2 e ran)⟩
  | ask query next ih => exact fun answer => ih _ (first answer)

theorem yields_attempt {label : Label} {body : Tx σ ε β}
    {next : Except ε β → Prog Label σ ε Query Answer α}
    (ok : ∀ b s', body s = .ok (b, s') → Yields A Q (next (.ok b)) (A.ran label body s g) s')
    (error : ∀ e, body s = .error e → Yields A Q (next (.error e)) (A.ran label body s g) s) :
    Yields A Q (Prog.attempt label body >>= next) g s := by
  rw [Prog.attempt_bind]
  exact ⟨ok, error⟩

theorem yields_question {query : Query} {next : Answer query → Prog Label σ ε Query Answer α}
    (rest : ∀ answer, Yields A Q (next answer) (A.asked query g) s) :
    Yields A Q (Prog.question query >>= next) g s := by
  rw [Prog.question_bind]
  exact rest

theorem yields_require {value : Option β} {e : ε} {next : β → Prog Label σ ε Query Answer α}
    (missing : Q (.error e) g s) (rest : ∀ b, value = some b → Yields A Q (next b) g s) :
    Yields A Q (Prog.require value e >>= next) g s := by
  cases value with
  | none => exact missing
  | some b => exact rest b rfl

end Process
