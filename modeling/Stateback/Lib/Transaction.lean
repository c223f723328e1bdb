/-!
# Transactions

A transaction reads and writes a state and either commits with a value or raises.  Raising
discards every write made before it: the failed run has no final state at all, so an executor
can only keep the state it started from.
-/

namespace Transaction

/-- A transaction body: reads and writes `σ`, raises `ε`, returns `α`. -/
abbrev Tx (σ ε α : Type) := StateT σ (Except ε) α

variable {σ ε α β : Type}

theorem bind_ok {x : Tx σ ε α} {f : α → Tx σ ε β} {s s' : σ} {b : β} :
    (x >>= f) s = .ok (b, s') ↔ ∃ a s₁, x s = .ok (a, s₁) ∧ f a s₁ = .ok (b, s') := by
  change (x s >>= fun pair => f pair.1 pair.2) = _ ↔ _
  cases ran : x s with
  | error e => simp [bind, Except.bind]
  | ok pair =>
    obtain ⟨a, s₁⟩ := pair
    constructor
    · exact fun rest => ⟨a, s₁, rfl, rest⟩
    · rintro ⟨_, _, same, rest⟩
      cases same
      exact rest

theorem bind_error {x : Tx σ ε α} {f : α → Tx σ ε β} {s : σ} {e : ε} :
    (x >>= f) s = .error e ↔
      x s = .error e ∨ ∃ a s₁, x s = .ok (a, s₁) ∧ f a s₁ = .error e := by
  change (x s >>= fun pair => f pair.1 pair.2) = _ ↔ _
  cases ran : x s with
  | error raised => simp [bind, Except.bind]
  | ok pair =>
    obtain ⟨a, s₁⟩ := pair
    constructor
    · exact fun rest => .inr ⟨a, s₁, rfl, rest⟩
    · rintro (raised | ⟨_, _, same, rest⟩)
      · cases raised
      · cases same
        exact rest

theorem map_ok {x : Tx σ ε α} {f : α → β} {s s' : σ} {b : β} :
    (f <$> x) s = .ok (b, s') ↔ ∃ a, x s = .ok (a, s') ∧ f a = b := by
  change (x s >>= fun pair => pure (f pair.1, pair.2)) = _ ↔ _
  cases ran : x s with
  | error e => simp [bind, Except.bind]
  | ok pair =>
    obtain ⟨a, s₁⟩ := pair
    simp only [bind, Except.bind, pure, Except.pure, Except.ok.injEq, Prod.mk.injEq]
    constructor
    · rintro ⟨rfl, rfl⟩
      exact ⟨a, ⟨rfl, rfl⟩, rfl⟩
    · rintro ⟨_, ⟨rfl, rfl⟩, rfl⟩
      exact ⟨rfl, rfl⟩

theorem map_error {x : Tx σ ε α} {f : α → β} {s : σ} {e : ε} :
    (f <$> x) s = .error e ↔ x s = .error e := by
  change (x s >>= fun pair => pure (f pair.1, pair.2)) = _ ↔ _
  cases ran : x s <;> simp [bind, Except.bind, pure, Except.pure]

theorem pure_ok {a b : α} {s s' : σ} :
    (pure a : Tx σ ε α) s = .ok (b, s') ↔ a = b ∧ s = s' := by
  change (Except.ok (a, s) : Except ε (α × σ)) = .ok (b, s') ↔ _
  simp

theorem get_ok {a s s' : σ} : (get : Tx σ ε σ) s = .ok (a, s') ↔ s = a ∧ s = s' := by
  change (Except.ok (s, s) : Except ε (σ × σ)) = .ok (a, s') ↔ _
  simp

theorem throw_ok {e : ε} {a : α} {s s' : σ} :
    ¬ (throw e : Tx σ ε α) s = .ok (a, s') := by
  change ¬ (Except.error e : Except ε (α × σ)) = .ok (a, s')
  nofun

/-- Runs `write` on the value that is there, if any. -/
def whenSome (value : Option α) (write : α → Tx σ ε Unit) : Tx σ ε Unit :=
  match value with
  | some a => write a
  | none => pure ()

theorem whenSome_ok {value : Option α} {write : α → Tx σ ε Unit} {s s' : σ} {u : Unit} :
    whenSome value write s = .ok (u, s') ↔
      (value = none ∧ s' = s) ∨ ∃ a, value = some a ∧ write a s = .ok (u, s') := by
  cases value with
  | none =>
    simp only [whenSome, pure_ok, true_and, reduceCtorEq, false_and, exists_false, or_false]
    exact eq_comm
  | some a => simp [whenSome]

/-- The value that is there, or the exception. -/
def requireSome (value : Option α) (error : ε) : Tx σ ε α :=
  match value with
  | some a => pure a
  | none => throw error

theorem requireSome_ok {value : Option α} {error : ε} {s s' : σ} {a : α} :
    requireSome value error s = .ok (a, s') ↔ value = some a ∧ s' = s := by
  cases value with
  | none => simpa [requireSome] using throw_ok
  | some b =>
    simp only [requireSome, pure_ok, Option.some.injEq]
    exact and_congr_right fun _ => eq_comm

/-- Runs a transaction to its end: a commit keeps the new state, an exception the old one. -/
def execute (body : Tx σ ε α) (s : σ) : σ × Except ε α :=
  match body s with
  | .ok (a, s') => (s', .ok a)
  | .error e => (s, .error e)

theorem execute_ok {body : Tx σ ε α} {s s' : σ} {a : α} :
    execute body s = (s', .ok a) ↔ body s = .ok (a, s') := by
  unfold execute
  split <;> simp_all [and_comm]

theorem execute_error {body : Tx σ ε α} {s s' : σ} {e : ε} :
    execute body s = (s', .error e) ↔ s' = s ∧ body s = .error e := by
  unfold execute
  split <;> simp_all [eq_comm]

/-! ## Exceptions -/

/-- Every exception `body` can end in from `s` satisfies `E`. -/
def RaisesOnly (E : ε → Prop) (body : Tx σ ε α) (s : σ) : Prop := ∀ e, body s = .error e → E e

theorem RaisesOnly.bind {E : ε → Prop} {x : Tx σ ε α} {f : α → Tx σ ε β} {s : σ}
    (first : RaisesOnly E x s) (rest : ∀ a s', x s = .ok (a, s') → RaisesOnly E (f a) s') :
    RaisesOnly E (x >>= f) s := by
  intro e raised
  obtain raised | ⟨a, s', ran, raised⟩ := bind_error.mp raised
  · exact first e raised
  · exact rest a s' ran e raised

theorem RaisesOnly.pure {E : ε → Prop} {a : α} {s : σ} :
    RaisesOnly E (pure a : Tx σ ε α) s := nofun

theorem RaisesOnly.get {E : ε → Prop} {s : σ} : RaisesOnly E (get : Tx σ ε σ) s := nofun

theorem RaisesOnly.throw {E : ε → Prop} {e : ε} {s : σ} (raised : E e) :
    RaisesOnly E (throw e : Tx σ ε α) s := by
  rintro _ ⟨⟩
  exact raised

end Transaction
