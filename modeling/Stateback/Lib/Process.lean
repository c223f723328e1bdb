import Stateback.Lib.Transaction
/-!
# Processes over a shared state

A program runs transactions on a shared state and asks its environment questions; between two
of them it computes.  A transaction carries a label that says what it is for, and its
continuation sees how it ended, so `try` around a transaction is a match on that end.

`alone` runs a program with nobody else around, against a fixed source of answers; `first` is the
first transaction of such a run that is labelled as wanted.
-/

namespace Process

open Transaction

/-- A program over the state `σ` with exceptions `ε`, asking `Query`. -/
inductive Prog (Label σ ε Query : Type) (Answer : Query → Type) (α : Type) : Type 1 where
  | finish (outcome : Except ε α)
  | transact {β : Type} (label : Label) (body : Tx σ ε β)
      (next : Except ε β → Prog Label σ ε Query Answer α)
  | ask (query : Query) (next : Answer query → Prog Label σ ε Query Answer α)

namespace Prog

variable {Label σ ε Query : Type} {Answer : Query → Type} {α β : Type}

def bind : Prog Label σ ε Query Answer α → (α → Prog Label σ ε Query Answer β) →
    Prog Label σ ε Query Answer β
  | finish (.ok a), f => f a
  | finish (.error e), _ => finish (.error e)
  | transact label body next, f => transact label body fun ended => (next ended).bind f
  | ask query next, f => ask query fun answer => (next answer).bind f

instance : Monad (Prog Label σ ε Query Answer) where
  pure a := finish (.ok a)
  bind := bind

def raise (e : ε) : Prog Label σ ε Query Answer α := finish (.error e)

/-- A transaction whose exception the program handles itself. -/
def attempt (label : Label) (body : Tx σ ε β) : Prog Label σ ε Query Answer (Except ε β) :=
  transact label body fun ended => finish (.ok ended)

/-- A transaction whose exception ends the program. -/
def commit (label : Label) (body : Tx σ ε β) : Prog Label σ ε Query Answer β :=
  transact label body finish

def question (query : Query) : Prog Label σ ε Query Answer (Answer query) :=
  ask query fun answer => finish (.ok answer)

/-- The program inside a `try`: its exception becomes a value. -/
def handled : Prog Label σ ε Query Answer α → Prog Label σ ε Query Answer (Except ε α)
  | finish outcome => finish (.ok outcome)
  | transact label body next => transact label body fun ended => (next ended).handled
  | ask query next => ask query fun answer => (next answer).handled

/-- The value that is there, or the exception. -/
def require (value : Option α) (e : ε) : Prog Label σ ε Query Answer α :=
  match value with
  | some a => pure a
  | none => raise e

@[simp] theorem pure_bind (a : α) (f : α → Prog Label σ ε Query Answer β) :
    (pure a : Prog Label σ ε Query Answer α) >>= f = f a := rfl

@[simp] theorem raise_bind (e : ε) (f : α → Prog Label σ ε Query Answer β) :
    (raise e : Prog Label σ ε Query Answer α) >>= f = raise e := rfl

@[simp] theorem require_some_bind (a : α) (e : ε) (f : α → Prog Label σ ε Query Answer β) :
    require (some a) e >>= f = f a := rfl

@[simp] theorem require_none_bind (e : ε) (f : α → Prog Label σ ε Query Answer β) :
    require none e >>= f = raise e := rfl

@[simp] theorem attempt_bind (label : Label) (body : Tx σ ε β)
    (f : Except ε β → Prog Label σ ε Query Answer α) :
    attempt label body >>= f = transact label body f := rfl

@[simp] theorem question_bind (query : Query)
    (f : Answer query → Prog Label σ ε Query Answer α) : question query >>= f = ask query f := rfl

@[simp] theorem transact_bind {γ : Type} (label : Label) (body : Tx σ ε γ)
    (next : Except ε γ → Prog Label σ ε Query Answer α)
    (f : α → Prog Label σ ε Query Answer β) :
    transact label body next >>= f = transact label body fun ended => next ended >>= f := rfl

@[simp] theorem ask_bind (query : Query) (next : Answer query → Prog Label σ ε Query Answer α)
    (f : α → Prog Label σ ε Query Answer β) :
    ask query next >>= f = ask query fun answer => next answer >>= f := rfl

theorem bind_assoc {γ : Type} (p : Prog Label σ ε Query Answer α)
    (f : α → Prog Label σ ε Query Answer β) (g : β → Prog Label σ ε Query Answer γ) :
    p >>= f >>= g = p >>= fun a => f a >>= g := by
  induction p with
  | finish outcome => cases outcome <;> rfl
  | transact label body next ih =>
    simp only [transact_bind]
    exact congrArg _ (funext ih)
  | ask query next ih =>
    simp only [ask_bind]
    exact congrArg _ (funext ih)

/-! ## Running alone -/

/-- How a program ended that ran alone, and how many questions it had asked by then. -/
structure Ended (σ ε α : Type) where
  asked : Nat
  state : σ
  outcome : Except ε α

/-- The `n`-th question is answered by `answers n`. -/
def alone (answers : Nat → (query : Query) → Answer query) :
    Prog Label σ ε Query Answer α → Nat → σ → Ended σ ε α
  | finish outcome, n, s => ⟨n, s, outcome⟩
  | transact _ body next, n, s =>
    alone answers (next (execute body s).2) n (execute body s).1
  | ask query next, n, s => alone answers (next (answers n query)) (n + 1) s

variable {answers : Nat → (query : Query) → Answer query}

theorem alone_bind (p : Prog Label σ ε Query Answer α) (f : α → Prog Label σ ε Query Answer β)
    (n : Nat) (s : σ) :
    alone answers (p >>= f) n s =
      match alone answers p n s with
      | ⟨n', s', .ok a⟩ => alone answers (f a) n' s'
      | ⟨n', s', .error e⟩ => ⟨n', s', .error e⟩ := by
  induction p generalizing n s with
  | finish outcome => cases outcome <;> rfl
  | transact label body next ih => exact ih _ n _
  | ask query next ih => exact ih _ (n + 1) s

@[simp] theorem alone_finish (outcome : Except ε α) (n : Nat) (s : σ) :
    alone answers (finish outcome : Prog Label σ ε Query Answer α) n s = ⟨n, s, outcome⟩ := rfl

@[simp] theorem alone_pure (a : α) (n : Nat) (s : σ) :
    alone answers (pure a : Prog Label σ ε Query Answer α) n s = ⟨n, s, .ok a⟩ := rfl

@[simp] theorem alone_raise (e : ε) (n : Nat) (s : σ) :
    alone answers (raise e : Prog Label σ ε Query Answer α) n s = ⟨n, s, .error e⟩ := rfl

theorem alone_transact_ok {label : Label} {body : Tx σ ε β}
    {next : Except ε β → Prog Label σ ε Query Answer α} {n : Nat} {s s' : σ} {b : β}
    (ran : body s = .ok (b, s')) :
    alone answers (transact label body next) n s = alone answers (next (.ok b)) n s' := by
  rw [alone, execute_ok.mpr ran]

theorem alone_transact_error {label : Label} {body : Tx σ ε β}
    {next : Except ε β → Prog Label σ ε Query Answer α} {n : Nat} {s : σ} {e : ε}
    (raised : body s = .error e) :
    alone answers (transact label body next) n s = alone answers (next (.error e)) n s := by
  rw [alone, execute_error.mpr ⟨rfl, raised⟩]

@[simp] theorem alone_ask (query : Query) (next : Answer query → Prog Label σ ε Query Answer α)
    (n : Nat) (s : σ) :
    alone answers (ask query next) n s = alone answers (next (answers n query)) (n + 1) s := rfl

/-! ## Running among others -/

/-- Whatever the others do while `I` holds, and whatever answers `A` admits, the program returns. -/
def Returns (I : σ → Prop) (A : (query : Query) → Answer query → Prop) :
    Prog Label σ ε Query Answer α → Prop
  | finish outcome => ∃ a, outcome = .ok a
  | transact _ body next => ∀ s, I s → ∃ b s', body s = .ok (b, s') ∧ (next (.ok b)).Returns I A
  | ask query next => ∀ answer, A query answer → (next answer).Returns I A

/-! ## The first wanted transaction -/

variable {γ : Type} (wanted : Label → Option γ)

/-- What the first wanted label says, and the state its transaction meets. -/
def first (answers : Nat → (query : Query) → Answer query) :
    Prog Label σ ε Query Answer α → Nat → σ → Option (γ × σ)
  | finish _, _, _ => none
  | transact label body next, n, s =>
    match wanted label with
    | some c => some (c, s)
    | none => first answers (next (execute body s).2) n (execute body s).1
  | ask query next, n, s => first answers (next (answers n query)) (n + 1) s

@[simp] theorem first_finish (outcome : Except ε α) (n : Nat) (s : σ) :
    first wanted answers (finish outcome : Prog Label σ ε Query Answer α) n s = none := rfl

@[simp] theorem first_pure (a : α) (n : Nat) (s : σ) :
    first wanted answers (pure a : Prog Label σ ε Query Answer α) n s = none := rfl

@[simp] theorem first_raise (e : ε) (n : Nat) (s : σ) :
    first wanted answers (raise e : Prog Label σ ε Query Answer α) n s = none := rfl

@[simp] theorem first_ask (query : Query) (next : Answer query → Prog Label σ ε Query Answer α)
    (n : Nat) (s : σ) : first wanted answers (ask query next) n s =
      first wanted answers (next (answers n query)) (n + 1) s := rfl

end Prog

end Process
