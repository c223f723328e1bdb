import Stateback.Lib.Process
/-!
# What a program asked and was told

A note is kept of every question and its answer.  `Learns` speaks about how a program ends and
what was noted by then, whichever answers come; it computes along the program, so a program
written with `do` is taken apart by rewriting.
-/

namespace Process

open Transaction

variable {Label σ ε Query γ : Type} {Answer : Query → Type} {α : Type}

/-- How what is noted grows with a question and its answer. -/
abbrev Note (Query : Type) (Answer : Query → Type) (γ : Type) :=
  (query : Query) → Answer query → γ → γ

variable (note : Note Query Answer γ)

/-- What is noted at the end of a run alone. -/
def Prog.noted (answers : Nat → (query : Query) → Answer query) :
    Prog Label σ ε Query Answer α → Nat → σ → γ → γ
  | .finish _, _, _, g => g
  | .transact _ body next, n, s, g =>
    Prog.noted answers (next (execute body s).2) n (execute body s).1 g
  | .ask query next, n, s, g =>
    Prog.noted answers (next (answers n query)) (n + 1) s (note query (answers n query) g)

/-- However the transactions end and whichever answers come, the program ends in `Q`. -/
def Learns (Q : Except ε α → γ → Prop) : Prog Label σ ε Query Answer α → γ → Prop
  | .finish outcome, g => Q outcome g
  | .transact _ _ next, g => ∀ ended, Learns Q (next ended) g
  | .ask query next, g => ∀ answer, Learns Q (next answer) (note query answer g)

/-- A claim about the value returned, if one is. -/
def returning (R : α → γ → Prop) : Except ε α → γ → Prop
  | .ok a, g => R a g
  | .error _, _ => True

variable {note} {Q Q' : Except ε α → γ → Prop} {g : γ}

theorem Learns.alone {p : Prog Label σ ε Query Answer α} (learns : Learns note Q p g)
    (answers : Nat → (query : Query) → Answer query) (n : Nat) (s : σ) :
    Q (Prog.alone answers p n s).outcome (Prog.noted note answers p n s g) := by
  induction p generalizing n s g with
  | finish outcome => exact learns
  | transact label body next ih => exact ih _ (learns _) n _
  | ask query next ih => exact ih _ (learns _) (n + 1) s

theorem Learns.mono {p : Prog Label σ ε Query Answer α} (learns : Learns note Q p g)
    (weaker : ∀ outcome g, Q outcome g → Q' outcome g) : Learns note Q' p g := by
  induction p generalizing g with
  | finish outcome => exact weaker _ _ learns
  | transact label body next ih => exact fun ended => ih _ (learns ended)
  | ask query next ih => exact fun answer => ih _ (learns answer)

@[simp] theorem learns_pure {a : α} :
    Learns note Q (pure a : Prog Label σ ε Query Answer α) g ↔ Q (.ok a) g := Iff.rfl

@[simp] theorem learns_raise {e : ε} :
    Learns note Q (Prog.raise e : Prog Label σ ε Query Answer α) g ↔ Q (.error e) g := Iff.rfl

@[simp] theorem learns_finish {outcome : Except ε α} :
    Learns note Q (Prog.finish outcome : Prog Label σ ε Query Answer α) g ↔ Q outcome g := Iff.rfl

@[simp] theorem learns_question_bind {query : Query}
    {next : Answer query → Prog Label σ ε Query Answer α} :
    Learns note Q (Prog.question query >>= next) g ↔
      ∀ answer, Learns note Q (next answer) (note query answer g) := Iff.rfl

@[simp] theorem returning_ok {R : α → γ → Prop} {a : α} :
    returning (ε := ε) R (.ok a) g ↔ R a g := Iff.rfl

@[simp] theorem returning_error {R : α → γ → Prop} {e : ε} : returning R (.error e) g := trivial

-- Outside this module a program is taken apart by the rules, never by computing along it.
attribute [irreducible] Learns

end Process
