import Mathlib.Data.List.Sort
/-!
# Following pages

A listing is fetched a page at a time; each page names where the next one starts.  A fetch that
cuts every rest of the listing at the limit is followed to the end, and the pages make up the
listing.
-/

namespace Pages

variable {α κ : Type}

structure Page (α κ : Type) where
  items : List α
  next : Option κ

/-- The pages from a start, each after the one that named its start. -/
inductive Follows (fetch : Option κ → Option (Page α κ)) : Option κ → List (List α) → Prop
  | last {start : Option κ} {items : List α} (fetched : fetch start = some ⟨items, none⟩) :
    Follows fetch start [items]
  | more {start : Option κ} {items : List α} {next : κ} {rest : List (List α)}
    (fetched : fetch start = some ⟨items, some next⟩) (followed : Follows fetch (some next) rest) :
    Follows fetch start (items :: rest)

/-- The rest of a listing, cut at the limit; the next page starts after the last item of this. -/
def cutAt (key : α → κ) (limit : Nat) (rest : List α) : Page α κ :=
  ⟨rest.take limit, if limit < rest.length then (rest.take limit).getLast?.map key else none⟩

theorem Follows.unique {fetch : Option κ → Option (Page α κ)} {start : Option κ}
    {pages pages' : List (List α)} (followed : Follows fetch start pages)
    (followed' : Follows fetch start pages') : pages = pages' := by
  induction followed generalizing pages' with
  | last fetched =>
    cases followed' with
    | last fetched' =>
      cases fetched.symm.trans fetched'
      rfl
    | more fetched' _ => cases fetched.symm.trans fetched'
  | more fetched _ ih =>
    cases followed' with
    | last fetched' => cases fetched.symm.trans fetched'
    | more fetched' rest' =>
      cases fetched.symm.trans fetched'
      rw [ih rest']

/-- A fetch that cuts every rest of the listing at the limit lists all of it. -/
theorem follows_all {fetch : Option κ → Option (Page α κ)} {key : α → κ} {limit : Nat}
    {listing : List α} (positive : 1 ≤ limit)
    (cuts : ∀ done rest, listing = done ++ rest →
      fetch (done.getLast?.map key) = some (cutAt key limit rest)) :
    ∀ n done rest, rest.length = n → listing = done ++ rest →
      ∃ pages, Follows fetch (done.getLast?.map key) pages ∧ pages.flatten = rest := by
  intro n
  induction n using Nat.strongRecOn with
  | ind n ih =>
    intro done rest length split
    have fetched := cuts done rest split
    by_cases within : limit < rest.length
    case neg =>
      have whole : rest.take limit = rest := List.take_of_length_le (by omega)
      rw [cutAt, if_neg within, whole] at fetched
      exact ⟨[rest], .last fetched, by simp⟩
    case pos =>
      have nonempty : rest.take limit ≠ [] := by
        intro none
        have := congrArg List.length none
        rw [List.length_take, List.length_nil] at this
        omega
      have lastOf : (done ++ rest.take limit).getLast? = (rest.take limit).getLast? :=
        List.getLast?_append_of_ne_nil _ nonempty
      have isLast := List.getLast?_eq_some_getLast nonempty
      generalize (rest.take limit).getLast nonempty = last at isLast
      rw [cutAt, if_pos within, isLast, Option.map_some] at fetched
      have split' : listing = (done ++ rest.take limit) ++ rest.drop limit := by
        rw [List.append_assoc, List.take_append_drop]
        exact split
      obtain ⟨pages, followed, flat⟩ := ih (rest.drop limit).length
        (by rw [List.length_drop]; omega) _ _ rfl split'
      rw [lastOf, isLast, Option.map_some] at followed
      refine ⟨rest.take limit :: pages, .more fetched followed, ?_⟩
      rw [List.flatten_cons, flat, List.take_append_drop]

/-- What comes after an item of a strictly ordered listing. -/
theorem filter_after {before : α → α → Prop} [DecidableRel before]
    (irrefl : ∀ a, ¬ before a a) (asymm : ∀ a b, before a b → ¬ before b a) {done rest : List α}
    {item : α} (ordered : (done ++ item :: rest).Pairwise before) :
    (done ++ item :: rest).filter (fun other => decide (before item other)) = rest := by
  obtain ⟨_, tail, across⟩ := List.pairwise_append.mp ordered
  obtain ⟨later, _⟩ := List.pairwise_cons.mp tail
  have none : done.filter (fun other => decide (before item other)) = [] := by
    rw [List.filter_eq_nil_iff]
    intro other member
    have := asymm _ _ (across other member item (by simp))
    simpa using this
  have all : rest.filter (fun other => decide (before item other)) = rest := by
    rw [List.filter_eq_self]
    intro other member
    simpa using later other member
  rw [List.filter_append, none, List.nil_append, List.filter_cons_of_neg (by simp [irrefl]), all]

/-- Sorting what a filter keeps is filtering what was sorted, where the order tells items apart. -/
theorem insertionSort_filter {order : α → α → Prop} [DecidableRel order] [Std.Total order]
    [IsTrans α order] (keep : α → Bool) {items : List α}
    (distinct : ∀ a ∈ items, ∀ b ∈ items, order a b → order b a → a = b) :
    (items.filter keep).insertionSort order = (items.insertionSort order).filter keep := by
  refine List.Perm.eq_of_pairwise ?_ (List.pairwise_insertionSort order _)
    ((List.pairwise_insertionSort order _).filter _)
    ((List.perm_insertionSort order _).trans ((List.perm_insertionSort order _).symm.filter _))
  intro a b left right
  have here := (List.mem_filter.mp ((List.mem_insertionSort order).mp left)).1
  have there := (List.mem_insertionSort order).mp (List.mem_filter.mp right).1
  exact distinct a here b there

/-! ## Listings that grow -/

section Grows

variable {σ : Type}

/-- The pages from a start, where the state may grow between one page and the next; the last page
was fetched from `final`. -/
inductive Trails (grows : σ → σ → Prop) (fetch : σ → Option κ → Option (Page α κ)) :
    σ → Option κ → List (List α) → σ → Prop
  | last {s : σ} {start : Option κ} {items : List α}
    (fetched : fetch s start = some ⟨items, none⟩) :
    Trails grows fetch s start [items] s
  | more {s s' final : σ} {start : Option κ} {items : List α} {next : κ} {rest : List (List α)}
    (fetched : fetch s start = some ⟨items, some next⟩) (grown : grows s s')
    (followed : Trails grows fetch s' (some next) rest final) :
    Trails grows fetch s start (items :: rest) final

variable {grows : σ → σ → Prop} {fetch : σ → Option κ → Option (Page α κ)} {listing : σ → List α}
  {key : α → κ} {limit : Nat} {I : σ → Prop}

/-- A page that names no next is the rest of its listing. -/
theorem cutAt_last {rest items : List α} (positive : 1 ≤ limit)
    (cut : cutAt key limit rest = ⟨items, none⟩) : items = rest := by
  unfold cutAt at cut
  by_cases within : limit < rest.length
  · rw [if_pos within] at cut
    have nonempty : rest.take limit ≠ [] := by
      intro none
      have := congrArg List.length none
      rw [List.length_take, List.length_nil] at this
      omega
    have named := congrArg Page.next cut
    rw [List.getLast?_eq_some_getLast nonempty] at named
    cases named
  · rw [if_neg within] at cut
    have whole : rest.take limit = rest := List.take_of_length_le (by omega)
    rw [whole] at cut
    exact (congrArg Page.items cut).symm

/-- A page that names the next is cut off, and names its last item. -/
theorem cutAt_more {rest items : List α} {next : κ}
    (cut : cutAt key limit rest = ⟨items, some next⟩) :
    items = rest.take limit ∧ items.getLast?.map key = some next := by
  unfold cutAt at cut
  have taken : rest.take limit = items := congrArg Page.items cut
  have named := congrArg Page.next cut
  dsimp only at named
  split at named
  · exact ⟨taken.symm, taken ▸ named⟩
  · cases named

/-- However a listing grows at its end while its pages are fetched, they make up the listing that
the last of them was fetched from. -/
theorem trails_whole (positive : 1 ≤ limit)
    (kept : ∀ s s', I s → grows s s' → I s' ∧ listing s <+: listing s')
    (cuts : ∀ s, I s → ∀ done rest, listing s = done ++ rest →
      fetch s (done.getLast?.map key) = some (cutAt key limit rest))
    {s final : σ} {start : Option κ} {pages : List (List α)}
    (trail : Trails grows fetch s start pages final) :
    I s → ∀ done rest, listing s = done ++ rest → start = done.getLast?.map key →
      I final ∧ listing final = done ++ pages.flatten := by
  induction trail with
  | last fetched =>
    rintro inv done rest split rfl
    have cut := Option.some.inj ((cuts _ inv done rest split).symm.trans fetched)
    refine ⟨inv, ?_⟩
    rw [cutAt_last positive cut, split]
    simp
  | @more s s' final start items next pages fetched grown followed ih =>
    rintro inv done rest split rfl
    have cut := Option.some.inj ((cuts s inv done rest split).symm.trans fetched)
    obtain ⟨taken, named⟩ := cutAt_more cut
    obtain ⟨inv', added, grew⟩ := kept s s' inv grown
    have nonempty : items ≠ [] := by
      rintro rfl
      cases named
    have split' : listing s' = (done ++ items) ++ (rest.drop limit ++ added) := by
      rw [← grew, split, taken]
      simp only [List.append_assoc]
      rw [← List.append_assoc (rest.take limit), List.take_append_drop]
    obtain ⟨inv'', whole⟩ := ih inv' (done ++ items) _ split'
      (by rw [List.getLast?_append_of_ne_nil _ nonempty, named])
    refine ⟨inv'', ?_⟩
    rw [whole, List.flatten_cons, List.append_assoc]

end Grows

end Pages
