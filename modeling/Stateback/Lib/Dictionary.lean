import Mathlib.Data.List.Nodup
import Mathlib.Logic.Function.Basic
/-!
# Dictionaries and the indexes they hold

A dictionary maps some keys to values.  An index files the rows of a list under a key that a row may
have; the row filed last is the one found, so an index agrees with its list in two directions: what
it finds is listed under that key, and a listed row leaves its key occupied.
-/

open Function

abbrev Dictionary (κ α : Type) := κ → Option α

namespace Dictionary

variable {κ α : Type}

def empty : Dictionary κ α := fun _ => none

@[simp] theorem empty_apply (k : κ) : (empty : Dictionary κ α) k = none := rfl

/-- The index agrees with the rows. -/
structure Indexes (key : α → Option κ) (rows : List α) (index : Dictionary κ α) : Prop where
  listed : ∀ {k row}, index k = some row → row ∈ rows ∧ key row = some k
  occupied : ∀ {k row}, row ∈ rows → key row = some k → index k ≠ none

variable {key : α → Option κ} {rows rows' : List α} {index index' : Dictionary κ α}

theorem indexes_empty : Indexes key [] (empty : Dictionary κ α) where
  listed found := by cases found
  occupied member := by cases member

/-- A key that is not occupied is no listed row's key. -/
theorem Indexes.absent (indexes : Indexes key rows index) {k : κ} (free : index k = none) :
    ∀ row ∈ rows, key row ≠ some k :=
  fun _ member keyed => indexes.occupied member keyed free

variable [DecidableEq κ]

def set (d : Dictionary κ α) (k : κ) (a : α) : Dictionary κ α := update d k (some a)

def pop (d : Dictionary κ α) (k : κ) : Dictionary κ α := update d k none

@[simp] theorem set_self (d : Dictionary κ α) (k : κ) (a : α) : d.set k a k = some a :=
  update_self ..

theorem set_of_ne {k k' : κ} (other : k' ≠ k) (d : Dictionary κ α) (a : α) : d.set k a k' = d k' :=
  update_of_ne other _ _

theorem pop_of_ne {k k' : κ} (other : k' ≠ k) (d : Dictionary κ α) : d.pop k k' = d k' :=
  update_of_ne other _ _

/-- The row under its key, if it has one. -/
def file (key : α → Option κ) (d : Dictionary κ α) (row : α) : Dictionary κ α :=
  match key row with
  | none => d
  | some k => d.set k row

theorem file_self {key : α → Option κ} {row : α} {k : κ} (keyed : key row = some k)
    (d : Dictionary κ α) : file key d row k = some row := by
  simp [file, keyed]

theorem file_of_ne {key : α → Option κ} {row : α} {k : κ} (other : key row ≠ some k)
    (d : Dictionary κ α) : file key d row k = d k := by
  unfold file
  cases keyed : key row with
  | none => rfl
  | some k' =>
    refine set_of_ne (fun same => other ?_) d row
    rw [keyed, same]

theorem Indexes.append (indexes : Indexes key rows index) (row : α) :
    Indexes key (rows ++ [row]) (file key index row) where
  listed {k found} at_ := by
    by_cases keyed : key row = some k
    · rw [file_self keyed] at at_
      obtain rfl := Option.some.inj at_
      exact ⟨by simp, keyed⟩
    · rw [file_of_ne keyed] at at_
      have known := indexes.listed at_
      exact ⟨List.mem_append_left _ known.1, known.2⟩
  occupied {k other} member own := by
    by_cases keyed : key row = some k
    · simp [file_self keyed]
    · rw [file_of_ne keyed]
      rcases List.mem_append.mp member with old | new
      · exact indexes.occupied old own
      · exact absurd (List.mem_singleton.mp new ▸ own) keyed

/-- A row takes the place of one that has the same key, in the list and in the index. -/
theorem Indexes.replace (indexes : Indexes key rows index) {old row : α}
    (same : key row = key old)
    (elsewhere : ∀ {k}, key old ≠ some k → index' k = index k)
    (rows_ : ∀ other, other ∈ rows' ↔ other = row ∨ other ∈ rows ∧ other ≠ old) :
    Indexes key rows' (file key index' row) where
  listed {k found} at_ := by
    by_cases keyed : key row = some k
    · rw [file_self keyed] at at_
      obtain rfl := Option.some.inj at_
      exact ⟨(rows_ _).mpr (.inl rfl), keyed⟩
    · rw [file_of_ne keyed, elsewhere (same ▸ keyed)] at at_
      have known := indexes.listed at_
      refine ⟨(rows_ _).mpr (.inr ⟨known.1, ?_⟩), known.2⟩
      rintro rfl
      exact keyed (same.trans known.2)
  occupied {k other} member own := by
    by_cases keyed : key row = some k
    · simp [file_self keyed]
    · rw [file_of_ne keyed, elsewhere (same ▸ keyed)]
      rcases (rows_ other).mp member with new | ⟨listed, -⟩
      · exact absurd (new ▸ own) keyed
      · exact indexes.occupied listed own

end Dictionary
