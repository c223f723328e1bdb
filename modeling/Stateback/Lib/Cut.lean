/-!
# Cutting a list at a separator

The first and the last occurrence of a separator, and a prefix taken off.  A cut is the only one
there is, so what was joined with a separator comes apart at it.
-/

namespace Cut

variable {α : Type} [DecidableEq α] {sep : α} {before after rest : List α}

/-- At the first separator. -/
def cut (sep : α) : List α → Option (List α × List α)
  | [] => none
  | head :: tail =>
    if head = sep then some ([], tail)
    else (cut sep tail).map fun parts => (head :: parts.1, parts.2)

/-- At the last separator. -/
def rcut (sep : α) : List α → Option (List α × List α)
  | [] => none
  | head :: tail =>
    match rcut sep tail with
    | some parts => some (head :: parts.1, parts.2)
    | none => if head = sep then some ([], tail) else none

theorem cut_append (free : sep ∉ before) :
    cut sep (before ++ sep :: after) = some (before, after) := by
  induction before with
  | nil => simp [cut]
  | cons head tail ih =>
    have differs : head ≠ sep := fun same => free (by simp [same])
    have rest : sep ∉ tail := fun mem => free (by simp [mem])
    simp [cut, differs, ih rest]

theorem eq_of_cut {list : List α} (found : cut sep list = some (before, after)) :
    list = before ++ sep :: after ∧ sep ∉ before := by
  induction list generalizing before with
  | nil => simp [cut] at found
  | cons head tail ih =>
    rw [cut] at found
    split at found
    case isTrue same =>
      cases found
      simp [same]
    case isFalse differs =>
      simp only [Option.map_eq_some_iff, Prod.mk.injEq] at found
      obtain ⟨⟨first, last⟩, inner, rfl, rfl⟩ := found
      have := ih inner
      simp [this.1, this.2, Ne.symm differs]

theorem cut_eq_none : {list : List α} → cut sep list = none ↔ sep ∉ list
  | [] => by simp [cut]
  | head :: tail => by
    rw [cut]
    split
    case isTrue same => simp [same]
    case isFalse differs => simp [cut_eq_none, Ne.symm differs]

theorem rcut_eq_none : {list : List α} → rcut sep list = none ↔ sep ∉ list
  | [] => by simp [rcut]
  | head :: tail => by
    have ih : rcut sep tail = none ↔ sep ∉ tail := rcut_eq_none
    rw [rcut]
    cases inner : rcut sep tail with
    | none =>
      have absent := ih.mp inner
      by_cases same : head = sep
      · simp [same]
      · simp [same, absent, Ne.symm same]
    | some parts =>
      have present : sep ∈ tail := Decidable.byContradiction fun absent => by
        rw [ih.mpr absent] at inner
        cases inner
      simp [present]

theorem rcut_append (free : sep ∉ after) :
    rcut sep (before ++ sep :: after) = some (before, after) := by
  induction before with
  | nil => simp [rcut, rcut_eq_none.mpr free]
  | cons head tail ih => simp [rcut, ih]

end Cut
