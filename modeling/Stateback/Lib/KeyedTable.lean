import Mathlib.Data.List.Nodup
import Mathlib.Data.List.Sort
/-!
# Keyed tables

A table is a list of rows whose keys are pairwise distinct, kept in insertion order.  The
distinctness is a field, so every table that can be written down has a usable key.  Rows are
only inserted under a fresh key or replaced by a row of the same key; nothing is deleted.
-/

namespace KeyedTable

/-- Rows with pairwise distinct keys, in insertion order. -/
structure Table {α κ : Type} (key : α → κ) where
  rows : List α
  nodup : (rows.map key).Nodup

namespace Table

variable {α κ : Type} {key : α → κ}

theorem ext_rows {t u : Table key} (same : t.rows = u.rows) : t = u := by
  cases t
  cases u
  simp_all

instance [DecidableEq α] : DecidableEq (Table key) := fun t u =>
  decidable_of_iff (t.rows = u.rows) ⟨ext_rows, fun same => same ▸ rfl⟩

def empty : Table key := ⟨[], List.nodup_nil⟩

variable [DecidableEq κ]

def find? (t : Table key) (k : κ) : Option α :=
  t.rows.find? fun row => decide (key row = k)

/-- Insertion under a fresh key; `none` is the duplicate-key failure. -/
def insert? (t : Table key) (row : α) : Option (Table key) :=
  if fresh : key row ∉ t.rows.map key then
    some ⟨t.rows ++ [row], by
      simp only [List.map_append, List.map_cons, List.map_nil]
      exact List.nodup_append.mpr ⟨t.nodup, List.nodup_singleton _, by
        intro a member b single
        rw [List.mem_singleton] at single
        exact fun same => fresh (single ▸ same ▸ member)⟩⟩
  else none

/-- The row of `row`'s key becomes `row`; a table without that key is unchanged. -/
def replace (t : Table key) (row : α) : Table key where
  rows := t.rows.map fun old => if key old = key row then row else old
  nodup := by
    have keys : ((t.rows.map fun old => if key old = key row then row else old).map key) =
        t.rows.map key := by
      rw [List.map_map]
      refine List.map_congr_left fun old _ => ?_
      simp only [Function.comp_apply]
      split
      · next same => exact same.symm
      · rfl
    rw [keys]
    exact t.nodup

omit [DecidableEq κ] in
theorem rows_injOn_key (t : Table key) {a b : α} (ha : a ∈ t.rows) (hb : b ∈ t.rows)
    (same : key a = key b) : a = b :=
  List.inj_on_of_nodup_map t.nodup ha hb same

theorem find?_some {t : Table key} {k : κ} {row : α} (found : t.find? k = some row) :
    row ∈ t.rows ∧ key row = k :=
  ⟨List.mem_of_find?_eq_some found, by simpa using List.find?_some found⟩

theorem find?_none {t : Table key} {k : κ} :
    t.find? k = none ↔ ∀ row ∈ t.rows, key row ≠ k := by
  simp [find?]

theorem find?_of_mem {t : Table key} {row : α} (member : row ∈ t.rows) :
    t.find? (key row) = some row := by
  cases found : t.find? (key row) with
  | none => exact absurd rfl (find?_none.mp found row member)
  | some other =>
    obtain ⟨otherMember, same⟩ := find?_some found
    rw [t.rows_injOn_key otherMember member same]

theorem find?_eq_some_iff {t : Table key} {k : κ} {row : α} :
    t.find? k = some row ↔ row ∈ t.rows ∧ key row = k :=
  ⟨find?_some, fun ⟨member, same⟩ => same ▸ find?_of_mem member⟩

@[simp] theorem find?_empty (k : κ) : (empty : Table key).find? k = none := rfl

theorem insert?_eq_some {t t' : Table key} {row : α} :
    t.insert? row = some t' ↔ t.find? (key row) = none ∧ t'.rows = t.rows ++ [row] := by
  have fresh_iff : key row ∉ t.rows.map key ↔ t.find? (key row) = none := by
    rw [find?_none]
    simp
  unfold insert?
  split
  · next fresh =>
    rw [Option.some.injEq, ← fresh_iff]
    refine ⟨fun same => ⟨fresh, same ▸ rfl⟩, fun ⟨_, rows⟩ => ext_rows rows.symm⟩
  · next taken =>
    refine ⟨fun impossible => (by cases impossible), fun ⟨fresh, _⟩ => ?_⟩
    exact absurd (fresh_iff.mpr fresh) taken

theorem insert?_isSome {t : Table key} {row : α} (fresh : t.find? (key row) = none) :
    ∃ t', t.insert? row = some t' ∧ t'.rows = t.rows ++ [row] := by
  cases inserted : t.insert? row with
  | some t' => exact ⟨t', rfl, (insert?_eq_some.mp inserted).2⟩
  | none =>
    unfold insert? at inserted
    split at inserted
    · cases inserted
    · next taken =>
      rw [find?_none] at fresh
      exact absurd (fun member => by
        obtain ⟨old, oldMember, same⟩ := List.mem_map.mp member
        exact fresh old oldMember same) taken

theorem find?_insert {t t' : Table key} {row : α} (inserted : t.insert? row = some t') (k : κ) :
    t'.find? k = if key row = k then some row else t.find? k := by
  obtain ⟨fresh, rows⟩ := insert?_eq_some.mp inserted
  unfold find? at fresh ⊢
  rw [rows, List.find?_append]
  split
  · next same =>
    subst same
    rw [fresh]
    simp
  · next differs => simp [differs]

theorem find?_replace (t : Table key) (row : α) (k : κ) :
    (t.replace row).find? k =
      if key row = k then (t.find? k).map fun _ => row else t.find? k := by
  have keep : ∀ rows : List α,
      (rows.map fun old => if key old = key row then row else old).find?
          (fun old => decide (key old = k)) =
        if key row = k then (rows.find? fun old => decide (key old = k)).map fun _ => row
        else rows.find? fun old => decide (key old = k) := by
    intro rows
    induction rows with
    | nil => simp
    | cons head tail ih =>
      simp only [List.map_cons, List.find?_cons, ih]
      by_cases hk : key row = k <;> by_cases hh : key head = key row <;>
        by_cases hc : key head = k <;> simp_all
  exact keep t.rows

theorem mem_insert {t t' : Table key} {row other : α} (inserted : t.insert? row = some t') :
    other ∈ t'.rows ↔ other ∈ t.rows ∨ other = row := by
  rw [(insert?_eq_some.mp inserted).2]
  simp

theorem mem_replace {t : Table key} {row other : α} :
    other ∈ (t.replace row).rows ↔
      (other ∈ t.rows ∧ key other ≠ key row) ∨
        (other = row ∧ ∃ old ∈ t.rows, key old = key row) := by
  simp only [replace, List.mem_map]
  constructor
  · rintro ⟨old, member, rfl⟩
    by_cases same : key old = key row
    · rw [if_pos same]
      exact .inr ⟨rfl, old, member, same⟩
    · rw [if_neg same]
      exact .inl ⟨member, same⟩
  · rintro (⟨member, differs⟩ | ⟨rfl, old, member, same⟩)
    · exact ⟨other, member, if_neg differs⟩
    · exact ⟨old, member, if_pos same⟩

/-- The rows a query selects, in insertion order. -/
def select (t : Table key) (p : α → Bool) : List α := t.rows.filter p

omit [DecidableEq κ] in
theorem mem_select {t : Table key} {p : α → Bool} {row : α} :
    row ∈ t.select p ↔ row ∈ t.rows ∧ p row = true := List.mem_filter

theorem select_insert {t t' : Table key} {row : α} (inserted : t.insert? row = some t')
    (p : α → Bool) :
    t'.select p = t.select p ++ if p row then [row] else [] := by
  rw [select, (insert?_eq_some.mp inserted).2, List.filter_append, select]
  congr 1
  cases h : p row <;> simp [h]

/-- Replacing a row by one that `p` selects exactly when it selected the old one keeps the
selection, up to the replaced row. -/
theorem select_replace {t : Table key} {row : α} {p : α → Bool}
    (same : ∀ old ∈ t.rows, key old = key row → p old = p row) :
    (t.replace row).select p =
      (t.select p).map fun old => if key old = key row then row else old := by
  have keep : ∀ rows : List α, (∀ old ∈ rows, key old = key row → p old = p row) →
      (rows.map fun old => if key old = key row then row else old).filter p =
        (rows.filter p).map fun old => if key old = key row then row else old := by
    intro rows
    induction rows with
    | nil => intro _; rfl
    | cons head tail ih =>
      intro agree
      have tailEq := ih fun old member => agree old (List.mem_cons_of_mem _ member)
      have headEq := agree head List.mem_cons_self
      simp only [List.map_cons, List.filter_cons]
      by_cases hk : key head = key row
      · rw [if_pos hk, headEq hk, tailEq]
        split <;> simp_all
      · rw [if_neg hk, tailEq]
        split <;> simp [hk]
  exact keep t.rows same

/-- Replacing rows that `p` does not select by one it does not select leaves the selection. -/
theorem select_replace_of_not {t : Table key} {row : α} {p : α → Bool} (new : p row = false)
    (olds : ∀ old ∈ t.rows, key old = key row → p old = false) :
    (t.replace row).select p = t.select p := by
  rw [select_replace fun old member same => (olds old member same).trans new.symm]
  refine (List.map_congr_left fun old member => ?_).trans (List.map_id' _)
  obtain ⟨stored, selected⟩ := mem_select.mp member
  refine if_neg fun same => ?_
  rw [olds old stored same] at selected
  cases selected

/-- `t'` is `t` with the optional row inserted. -/
def Inserted (row? : Option α) (t t' : Table key) : Prop :=
  match row? with
  | none => t' = t
  | some row => t.insert? row = some t'

theorem Inserted.of_none {t t' : Table key} (h : Inserted none t t') : t' = t := h

theorem Inserted.fresh {t t' : Table key} {row : α} (h : Inserted (some row) t t') :
    t.find? (key row) = none := (insert?_eq_some.mp h).1

theorem Inserted.rows {t t' : Table key} {row? : Option α} (h : Inserted row? t t') :
    t'.rows = t.rows ++ row?.toList := by
  cases row? with
  | none => rw [h.of_none]; simp
  | some row => exact (insert?_eq_some.mp h).2

/-- An insertion never changes what a taken key reads. -/
theorem Inserted.find?_of_some {t t' : Table key} {row? : Option α} (h : Inserted row? t t')
    {k : κ} {row : α} (found : t.find? k = some row) : t'.find? k = some row := by
  cases row? with
  | none => rwa [h.of_none]
  | some new =>
    rw [find?_insert h, if_neg]
    · exact found
    · rintro rfl
      rw [h.fresh] at found
      cases found

theorem Inserted.mem {t t' : Table key} {row? : Option α} (h : Inserted row? t t') {row : α} :
    row ∈ t'.rows ↔ row ∈ t.rows ∨ row? = some row := by
  rw [h.rows, List.mem_append, Option.mem_toList]

theorem Inserted.select {t t' : Table key} {row? : Option α} (h : Inserted row? t t')
    (p : α → Bool) : t'.select p = t.select p ++ row?.toList.filter p := by
  rw [Table.select, h.rows, List.filter_append, Table.select]

theorem Inserted.select_of_not {t t' : Table key} {row? : Option α} (h : Inserted row? t t')
    {p : α → Bool} (other : ∀ row, row? = some row → p row = false) :
    t'.select p = t.select p := by
  rw [h.select, List.filter_eq_nil_iff.mpr, List.append_nil]
  intro row member
  rw [other row (Option.mem_toList.mp member)]
  decide

/-! ## Evolution of rows -/

/-- Every row is still there, or one it may turn into along `r`. -/
def Evolves (r : α → α → Prop) (t t' : Table key) : Prop :=
  ∀ row ∈ t.rows, ∃ later ∈ t'.rows, r row later

omit [DecidableEq κ] in
theorem Evolves.refl {r : α → α → Prop} (keeps : ∀ row, r row row) (t : Table key) :
    Evolves r t t := fun row member => ⟨row, member, keeps row⟩

omit [DecidableEq κ] in
theorem Evolves.trans {r : α → α → Prop} {t t' t'' : Table key}
    (composes : ∀ {a b c}, r a b → r b c → r a c) (first : Evolves r t t')
    (second : Evolves r t' t'') : Evolves r t t'' := by
  intro row member
  obtain ⟨later, at_, turned⟩ := first row member
  obtain ⟨last, there, turnedAgain⟩ := second later at_
  exact ⟨last, there, composes turned turnedAgain⟩

theorem Inserted.evolves {r : α → α → Prop} {t t' : Table key} {row? : Option α}
    (h : Inserted row? t t') (keeps : ∀ row, r row row) : Evolves r t t' :=
  fun row member => ⟨row, h.mem.mpr (.inl member), keeps row⟩

theorem evolves_replace {r : α → α → Prop} {t : Table key} {row : α}
    (keeps : ∀ row, r row row) (turns : ∀ old ∈ t.rows, key old = key row → r old row) :
    Evolves r t (t.replace row) := by
  intro old member
  by_cases same : key old = key row
  · exact ⟨row, mem_replace.mpr (.inr ⟨rfl, old, member, same⟩), turns old member same⟩
  · exact ⟨old, mem_replace.mpr (.inl ⟨member, same⟩), keeps old⟩

/-- The row under a key evolves in place when `r` keeps keys. -/
theorem Evolves.find? {r : α → α → Prop} {t t' : Table key} (evolves : Evolves r t t')
    (sameKey : ∀ {a b}, r a b → key b = key a) {k : κ} {row : α}
    (found : t.find? k = some row) : ∃ later, t'.find? k = some later ∧ r row later := by
  obtain ⟨member, rfl⟩ := find?_some found
  obtain ⟨later, at_, turned⟩ := evolves row member
  exact ⟨later, find?_eq_some_iff.mpr ⟨at_, sameKey turned⟩, turned⟩

section Counting

variable {r : α → α → Prop} {p : α → Bool} {t t' : Table key}

omit [DecidableEq κ] in
private theorem select_keys_subset (evolves : Evolves r t t')
    (sameKey : ∀ {a b}, r a b → key b = key a)
    (stays : ∀ {a b}, r a b → p a = true → p b = true) :
    (t.select p).map key ⊆ (t'.select p).map key := by
  intro k member
  obtain ⟨row, selected, rfl⟩ := List.mem_map.mp member
  obtain ⟨stored, meets⟩ := mem_select.mp selected
  obtain ⟨later, at_, turned⟩ := evolves row stored
  exact List.mem_map.mpr ⟨later, mem_select.mpr ⟨at_, stays turned meets⟩, sameKey turned⟩

omit [DecidableEq κ] in
private theorem select_keys_nodup (t : Table key) (p : α → Bool) :
    ((t.select p).map key).Nodup :=
  t.nodup.sublist (List.filter_sublist.map key)

omit [DecidableEq κ] in
/-- Rows that keep `p` as they evolve become no fewer. -/
theorem Evolves.select_length_le (evolves : Evolves r t t')
    (sameKey : ∀ {a b}, r a b → key b = key a)
    (stays : ∀ {a b}, r a b → p a = true → p b = true) :
    (t.select p).length ≤ (t'.select p).length := by
  have subset := select_keys_subset evolves sameKey stays
  simpa using (List.subperm_of_subset (select_keys_nodup t p) subset).length_le

/-- A key that comes to have a row with `p` adds to them. -/
theorem Evolves.select_length_lt (evolves : Evolves r t t')
    (sameKey : ∀ {a b}, r a b → key b = key a)
    (stays : ∀ {a b}, r a b → p a = true → p b = true) {row : α}
    (old : ∀ a, t.find? (key row) = some a → p a = false) (member : row ∈ t'.rows)
    (meets : p row = true) : (t.select p).length < (t'.select p).length := by
  have fresh : key row ∉ (t.select p).map key := by
    intro there
    obtain ⟨a, selected, same⟩ := List.mem_map.mp there
    obtain ⟨stored, already⟩ := mem_select.mp selected
    have absent := old a (find?_eq_some_iff.mpr ⟨stored, same⟩)
    rw [already] at absent
    cases absent
  have nodup : (key row :: (t.select p).map key).Nodup :=
    List.nodup_cons.mpr ⟨fresh, select_keys_nodup t p⟩
  have subset : key row :: (t.select p).map key ⊆ (t'.select p).map key := by
    refine List.cons_subset.mpr ⟨?_, select_keys_subset evolves sameKey stays⟩
    exact List.mem_map_of_mem (mem_select.mpr ⟨member, meets⟩)
  have longer := (List.subperm_of_subset nodup subset).length_le
  rw [List.length_cons, List.length_map, List.length_map] at longer
  omega

end Counting

/-! ## Final rows -/

/-- The rows with `p` are final: each is still there, as it was. -/
def Keeps (p : α → Prop) (t t' : Table key) : Prop := ∀ row ∈ t.rows, p row → row ∈ t'.rows

omit [DecidableEq κ] in
theorem Keeps.refl (p : α → Prop) (t : Table key) : t.Keeps p t := fun _ member _ => member

omit [DecidableEq κ] in
theorem Keeps.trans {p : α → Prop} {t t' t'' : Table key} (first : t.Keeps p t')
    (second : t'.Keeps p t'') : t.Keeps p t'' :=
  fun row member final => second row (first row member final) final

omit [DecidableEq κ] in
theorem keeps_append {p : α → Prop} {t t' : Table key} {added : List α}
    (rows : t'.rows = t.rows ++ added) : t.Keeps p t' := by
  intro row member _
  rw [rows]
  exact List.mem_append_left _ member

theorem Inserted.keeps {p : α → Prop} {t t' : Table key} {row? : Option α}
    (h : Inserted row? t t') : t.Keeps p t' := keeps_append h.rows

/-- A replacement keeps the final rows when the row it overwrites is not one. -/
theorem keeps_replace {p : α → Prop} {t : Table key} {old row : α}
    (found : t.find? (key row) = some old) (open_ : ¬p old) : t.Keeps p (t.replace row) := by
  intro other member final
  refine mem_replace.mpr (.inl ⟨member, fun same => open_ ?_⟩)
  obtain ⟨stored, key⟩ := find?_some found
  rwa [← rows_injOn_key t member stored (same.trans key.symm)]

end Table

end KeyedTable
