import Stateback.Lib.Process
/-!
# Programs that are started again

`stops` are the states a program running alone may leave behind when it stops for good: the one it
found, and the one after each of its transactions.
-/

namespace Process

open Transaction

namespace Prog

variable {Label σ ε Query : Type} {Answer : Query → Type} {α β : Type}
  (answers : Nat → (query : Query) → Answer query)

def stops : Prog Label σ ε Query Answer α → Nat → σ → List σ
  | finish _, _, s => [s]
  | transact _ body next, n, s => s :: stops (next (execute body s).2) n (execute body s).1
  | ask query next, n, s => stops (next (answers n query)) (n + 1) s

variable {answers}

@[simp] theorem stops_finish (outcome : Except ε α) (n : Nat) (s : σ) :
    stops answers (finish outcome : Prog Label σ ε Query Answer α) n s = [s] := rfl

@[simp] theorem stops_pure (a : α) (n : Nat) (s : σ) :
    stops answers (pure a : Prog Label σ ε Query Answer α) n s = [s] := rfl

@[simp] theorem stops_raise (e : ε) (n : Nat) (s : σ) :
    stops answers (raise e : Prog Label σ ε Query Answer α) n s = [s] := rfl

@[simp] theorem stops_ask (query : Query) (next : Answer query → Prog Label σ ε Query Answer α)
    (n : Nat) (s : σ) :
    stops answers (ask query next) n s = stops answers (next (answers n query)) (n + 1) s := rfl

theorem stops_transact (label : Label) (body : Tx σ ε β)
    (next : Except ε β → Prog Label σ ε Query Answer α) (n : Nat) (s : σ) :
    stops answers (transact label body next) n s =
      s :: stops answers (next (execute body s).2) n (execute body s).1 := rfl

theorem alone_transact (label : Label) (body : Tx σ ε β)
    (next : Except ε β → Prog Label σ ε Query Answer α) (n : Nat) (s : σ) :
    alone answers (transact label body next) n s =
      alone answers (next (execute body s).2) n (execute body s).1 := rfl

end Prog

end Process
