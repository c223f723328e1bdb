import Mathlib.Data.List.Perm.Basic
import Stateback.Domain.Plain
import Stateback.Domain.Wire
import Stateback.Lib.JsonRoundTrip
/-!
# Canonical JSON bytes

`domain/canonical.py` and the digests of `domain/intent.py`.  A canonical value is written compactly
with sorted keys; its bytes name it, whatever order a dict was given in.

`digits` is the interpreter's limit on the digits of an integer it converts; where a value exceeds
it no bytes are returned.  The interpreter's recursion limit is not modelled.
-/

namespace Stateback.Domain

open CodePoints JsonText

/-! ## Values that their constructors accept -/

mutual

def Canonical : JsonValue → Prop
  | .object items => jsonObject items = .ok (.object items) ∧ PairsCanonical items
  | .array items => ItemsCanonical items
  | .null | .bool _ | .int _ | .str _ => True

def ItemsCanonical : List JsonValue → Prop
  | [] => True
  | item :: rest => Canonical item ∧ ItemsCanonical rest

def PairsCanonical : List (String × JsonValue) → Prop
  | [] => True
  | (_, item) :: rest => Canonical item ∧ PairsCanonical rest

end

/-- One Python value from another by giving dicts in it another order. -/
inductive Reordered : PlainValue → PlainValue → Prop
  | refl (value : PlainValue) : Reordered value value
  | dict {items items' : List (PlainKey × PlainValue)} (distinct : (items.map Prod.fst).Nodup)
    (perm : items.Perm items') : Reordered (.dict items) (.dict items')
  | inList {before after : List PlainValue} {item item' : PlainValue}
    (inside : Reordered item item') :
    Reordered (.list (before ++ item :: after)) (.list (before ++ item' :: after))
  | inDict {before after : List (PlainKey × PlainValue)} {key : PlainKey} {item item' : PlainValue}
    (inside : Reordered item item') :
    Reordered (.dict (before ++ (key, item) :: after)) (.dict (before ++ (key, item') :: after))
  | trans {a b c : PlainValue} (first : Reordered a b) (second : Reordered b c) : Reordered a c

theorem Reordered.symm {a b : PlainValue} (same : Reordered a b) : Reordered b a := by
  induction same with
  | refl => exact .refl _
  | dict distinct perm => exact .dict ((perm.map Prod.fst).nodup_iff.mp distinct) perm.symm
  | inList _ ih => exact .inList ih
  | inDict _ ih => exact .inDict ih
  | trans _ _ first second => exact .trans second first

/-! ## Reading a value back from its plain form -/

theorem jsonObject_ok {items : List (String × JsonValue)} {value : JsonValue} :
    jsonObject items = .ok value ↔ (∀ pair ∈ items, pair.1 ≠ "") ∧ (items.map Prod.fst).Nodup ∧
      sortByKey items = items ∧ value = .object items := by
  unfold jsonObject
  split
  case isTrue empty =>
    obtain ⟨pair, member, same⟩ := List.any_eq_true.mp empty
    simp only [reduceCtorEq, false_iff, not_and]
    exact fun all => absurd (eq_of_beq same) (all pair member)
  case isFalse some =>
    have all : ∀ pair ∈ items, pair.1 ≠ "" := fun pair member same =>
      some (List.any_eq_true.mpr ⟨pair, member, by simp [same]⟩)
    split
    case isTrue twice => simp [twice]
    case isFalse once =>
      split
      case isTrue unsorted => simp [unsorted]
      case isFalse sorted =>
        simp only [not_not] at once sorted
        constructor
        · exact fun same => ⟨all, once, sorted, (Except.ok.inj same).symm⟩
        · rintro ⟨_, _, _, same⟩
          rw [same]

mutual

theorem jsonFromPlain_jsonToPlain : ∀ v, Canonical v → jsonFromPlain (jsonToPlain v) = .ok v
  | .null, _ | .bool _, _ | .int _, _ | .str _, _ => by simp [jsonToPlain, jsonFromPlain]
  | .array items, canonical => by
    rw [Canonical] at canonical
    rw [jsonToPlain, jsonFromPlain, jsonItemsFromPlain_jsonItemsToPlain items canonical]
    rfl
  | .object items, canonical => by
    rw [Canonical] at canonical
    have sorted := (jsonObject_ok.mp canonical.1).2.2.1
    rw [jsonToPlain, jsonFromPlain, jsonPairsFromPlain_jsonPairsToPlain items canonical.2]
    simp only [bind, Except.bind]
    rw [sorted, canonical.1]

theorem jsonItemsFromPlain_jsonItemsToPlain : ∀ items, ItemsCanonical items →
    jsonItemsFromPlain (jsonItemsToPlain items) = .ok items
  | [], _ => rfl
  | item :: rest, canonical => by
    rw [ItemsCanonical] at canonical
    rw [jsonItemsToPlain, jsonItemsFromPlain, jsonFromPlain_jsonToPlain item canonical.1,
      jsonItemsFromPlain_jsonItemsToPlain rest canonical.2]
    rfl

theorem jsonPairsFromPlain_jsonPairsToPlain : ∀ items, PairsCanonical items →
    jsonPairsFromPlain (jsonPairsToPlain items) = .ok items
  | [], _ => rfl
  | (key, item) :: rest, canonical => by
    rw [PairsCanonical] at canonical
    rw [jsonPairsToPlain, jsonPairsFromPlain, jsonFromPlain_jsonToPlain item canonical.1,
      jsonPairsFromPlain_jsonPairsToPlain rest canonical.2]
    rfl

end

/-! ## Reading a dict in any order -/

theorem sortByKey_eq (items : List (String × JsonValue)) :
    sortByKey items = items.insertionSort fun a b => a.1 ≤ b.1 := by
  have insert : ∀ pair items, insertByKey pair items =
      List.orderedInsert (fun a b : String × JsonValue => a.1 ≤ b.1) pair items := by
    intro pair items
    induction items with
    | nil => rfl
    | cons head tail ih => rw [insertByKey, List.orderedInsert_cons, ih]
  induction items with
  | nil => rfl
  | cons pair rest ih =>
    rw [List.insertionSort_cons, ← ih, ← insert]
    rfl

theorem sortByKey_perm (items : List (String × JsonValue)) : (sortByKey items).Perm items := by
  rw [sortByKey_eq]
  exact List.perm_insertionSort _ _

instance stringKeys_total : Std.Total fun a b : String × JsonValue => a.1 ≤ b.1 :=
  ⟨fun a b => String.le_total a.1 b.1⟩

instance stringKeys_trans : IsTrans (String × JsonValue) fun a b => a.1 ≤ b.1 :=
  ⟨fun _ _ _ first second => String.le_trans first second⟩

theorem sortByKey_pairwise (items : List (String × JsonValue)) :
    (sortByKey items).Pairwise fun a b => a.1 ≤ b.1 := by
  rw [sortByKey_eq]
  exact List.pairwise_insertionSort _ _

theorem sortByKey_of_perm {items items' : List (String × JsonValue)}
    (distinct : (items.map Prod.fst).Nodup) (perm : items.Perm items') :
    sortByKey items = sortByKey items' := by
  refine List.Perm.eq_of_pairwise ?_ (sortByKey_pairwise _) (sortByKey_pairwise _)
    (((sortByKey_perm items).trans perm).trans (sortByKey_perm items').symm)
  intro a b left right le ge
  have here := (sortByKey_perm items).mem_iff.mp left
  have there := perm.mem_iff.mpr ((sortByKey_perm items').mem_iff.mp right)
  exact List.inj_on_of_nodup_map distinct here there (String.le_antisymm le ge)

/-- What a list relates to, parted where one of its items is; another item may stand there. -/
theorem forall₂_part {α β : Type} {R : α → β → Prop} {before after : List α} {item : α}
    {values : List β} (all : List.Forall₂ R (before ++ item :: after) values) :
    ∃ first v last, values = first ++ v :: last ∧ R item v ∧
      ∀ item' v', R item' v' → List.Forall₂ R (before ++ item' :: after) (first ++ v' :: last) := by
  induction before generalizing values with
  | nil =>
    cases all with
    | cons head tail => exact ⟨[], _, _, rfl, head, fun item' v' here => .cons here tail⟩
  | cons one before ih =>
    cases all with
    | cons head tail =>
      obtain ⟨first, v, last, parted, here, other⟩ := ih tail
      exact ⟨_ :: first, v, last, by rw [parted]; rfl, here,
        fun item' v' here => .cons head (other item' v' here)⟩

theorem jsonItemsFromPlain_iff {items : List PlainValue} {values : List JsonValue} :
    jsonItemsFromPlain items = .ok values ↔
      List.Forall₂ (fun item v => jsonFromPlain item = .ok v) items values := by
  induction items generalizing values with
  | nil =>
    rw [jsonItemsFromPlain, List.forall₂_nil_left_iff]
    constructor
    · exact fun same => (Except.ok.inj same).symm
    · exact fun same => by rw [same]
  | cons item rest ih =>
    rw [jsonItemsFromPlain, List.forall₂_cons_left_iff]
    cases jsonFromPlain item with
    | error e => simp [bind, Except.bind]
    | ok v =>
      cases read : jsonItemsFromPlain rest with
      | error e =>
        simp only [bind, Except.bind, ← ih, read]
        simp
      | ok tail =>
        simp only [bind, Except.bind, ← ih, read, pure, Except.pure, Except.ok.injEq]
        constructor
        · exact fun same => ⟨v, tail, rfl, rfl, same.symm⟩
        · rintro ⟨v', tail', here, there, same⟩
          rw [same, here, there]

/-- A dict's pair read as an object's. -/
def PairReads (pair : PlainKey × PlainValue) (read : String × JsonValue) : Prop :=
  pair.1 = .str read.1 ∧ jsonFromPlain pair.2 = .ok read.2

theorem jsonPairsFromPlain_iff {items : List (PlainKey × PlainValue)}
    {values : List (String × JsonValue)} :
    jsonPairsFromPlain items = .ok values ↔ List.Forall₂ PairReads items values := by
  induction items generalizing values with
  | nil =>
    rw [jsonPairsFromPlain, List.forall₂_nil_left_iff]
    constructor
    · exact fun same => (Except.ok.inj same).symm
    · exact fun same => by rw [same]
  | cons pair rest ih =>
    obtain ⟨key, item⟩ := pair
    rw [List.forall₂_cons_left_iff]
    cases key with
    | other typeName => simp [jsonPairsFromPlain, PairReads]
    | str key =>
      rw [jsonPairsFromPlain]
      cases here : jsonFromPlain item with
      | error e => simp [bind, Except.bind, PairReads, here]
      | ok v =>
        cases read : jsonPairsFromPlain rest with
        | error e =>
          simp only [bind, Except.bind, ← ih, read]
          simp
        | ok tail =>
          simp only [bind, Except.bind, ← ih, read, pure, Except.pure, Except.ok.injEq]
          constructor
          · exact fun same => ⟨(key, v), tail, ⟨rfl, here⟩, rfl, same.symm⟩
          · rintro ⟨⟨key', v'⟩, tail', ⟨named, reads⟩, there, same⟩
            rw [here] at reads
            rw [same, there, Except.ok.inj reads, PlainKey.str.inj named]

theorem pairReads_keys {items : List (PlainKey × PlainValue)} {values : List (String × JsonValue)}
    (reads : List.Forall₂ PairReads items values) :
    items.map Prod.fst = (values.map Prod.fst).map PlainKey.str := by
  induction reads with
  | nil => rfl
  | cons head _ ih => rw [List.map_cons, List.map_cons, List.map_cons, ih, head.1]

/-- A dict in another order is read as the same value. -/
theorem jsonFromPlain_reordered {p p' : PlainValue} (same : Reordered p p') :
    ∀ v, jsonFromPlain p = .ok v → jsonFromPlain p' = .ok v := by
  induction same with
  | refl => exact fun v read => read
  | trans _ _ first second => exact fun v read => second v (first v read)
  | @inList before after item item' _ ih =>
    intro v read
    rw [jsonFromPlain] at read ⊢
    cases items : jsonItemsFromPlain (before ++ item :: after) with
    | error e => rw [items] at read; cases read
    | ok values =>
      obtain ⟨first, value, last, parted, here, other⟩ :=
        forall₂_part (jsonItemsFromPlain_iff.mp items)
      rw [items, parted] at read
      rw [jsonItemsFromPlain_iff.mpr (other item' value (ih value here))]
      exact read
  | @inDict before after key item item' _ ih =>
    intro v read
    rw [jsonFromPlain] at read ⊢
    cases items : jsonPairsFromPlain (before ++ (key, item) :: after) with
    | error e => rw [items] at read; cases read
    | ok values =>
      obtain ⟨first, value, last, parted, here, other⟩ :=
        forall₂_part (jsonPairsFromPlain_iff.mp items)
      rw [items, parted] at read
      rw [jsonPairsFromPlain_iff.mpr (other (key, item') value ⟨here.1, ih _ here.2⟩)]
      exact read
  | @dict items items' distinct perm =>
    intro v read
    rw [jsonFromPlain] at read ⊢
    cases pairs : jsonPairsFromPlain items with
    | error e => rw [pairs] at read; cases read
    | ok values =>
      have reads := jsonPairsFromPlain_iff.mp pairs
      obtain ⟨values', reads', perm'⟩ := List.perm_comp_forall₂ perm.symm reads
      rw [pairReads_keys reads] at distinct
      have order := sortByKey_of_perm distinct.of_map perm'.symm
      rw [pairs] at read
      rw [jsonPairsFromPlain_iff.mpr reads']
      simp only [bind, Except.bind] at read ⊢
      rw [← order]
      exact read

/-! ## Bytes -/

mutual

/-- What `json.dumps` writes of what `json_to_plain` builds. -/
def writable : PlainValue → Option Value
  | .none => some .null
  | .bool b => some (.bool b)
  | .int i => some (.int i)
  | .str s => some (.str (text s))
  | .list items => (writableItems items).map .list
  | .dict items => (writablePairs items).map .dict
  | .float _ | .other _ => none

def writableItems : List PlainValue → Option (List Value)
  | [] => some []
  | item :: rest => do
    let item ← writable item
    let rest ← writableItems rest
    pure (item :: rest)

def writablePairs : List (PlainKey × PlainValue) → Option (List (Text × Value))
  | [] => some []
  | (.other _, _) :: _ => none
  | (.str key, item) :: rest => do
    let item ← writable item
    let rest ← writablePairs rest
    pure ((text key, item) :: rest)

end

/-- `json.dumps(plain, ensure_ascii=False, sort_keys=True, ...).encode("utf-8")`. -/
def plainBytes (digits : Nat) (plain : PlainValue) : Option (List UInt8) := do
  let value ← writable plain
  let written ← dumps escape digits value
  encode written

def canonicalJsonBytes (digits : Nat) (value : JsonValue) : Option (List UInt8) :=
  plainBytes digits (jsonToPlain value)

mutual

def valueOf : JsonValue → Value
  | .null => .null
  | .bool b => .bool b
  | .int i => .int i
  | .str s => .str (text s)
  | .array items => .list (valuesOf items)
  | .object items => .dict (pairsOf items)

def valuesOf : List JsonValue → List Value
  | [] => []
  | item :: rest => valueOf item :: valuesOf rest

def pairsOf : List (String × JsonValue) → List (Text × Value)
  | [] => []
  | (key, item) :: rest => (text key, valueOf item) :: pairsOf rest

end

mutual

theorem writable_jsonToPlain : ∀ v, writable (jsonToPlain v) = some (valueOf v)
  | .null | .bool _ | .int _ | .str _ => by simp [jsonToPlain, writable, valueOf]
  | .array items => by
    rw [jsonToPlain, writable, writableItems_jsonItemsToPlain items, valueOf]
    rfl
  | .object items => by
    rw [jsonToPlain, writable, writablePairs_jsonPairsToPlain items, valueOf]
    rfl

theorem writableItems_jsonItemsToPlain : ∀ items,
    writableItems (jsonItemsToPlain items) = some (valuesOf items)
  | [] => rfl
  | item :: rest => by
    rw [jsonItemsToPlain, writableItems, writable_jsonToPlain item,
      writableItems_jsonItemsToPlain rest, valuesOf]
    rfl

theorem writablePairs_jsonPairsToPlain : ∀ items,
    writablePairs (jsonPairsToPlain items) = some (pairsOf items)
  | [] => rfl
  | (key, item) :: rest => by
    rw [jsonPairsToPlain, writablePairs, writable_jsonToPlain item,
      writablePairs_jsonPairsToPlain rest, pairsOf]
    rfl

end

theorem pairsOf_keys (items : List (String × JsonValue)) :
    (pairsOf items).map Prod.fst = (items.map Prod.fst).map text := by
  induction items with
  | nil => rfl
  | cons pair rest ih =>
    obtain ⟨key, item⟩ := pair
    rw [pairsOf, List.map_cons, ih]
    rfl

mutual

theorem clean_valueOf : ∀ v, Canonical v → Clean (valueOf v)
  | .null, _ | .bool _, _ | .int _, _ | .str _, _ => by simp [valueOf, Clean]
  | .array items, canonical => by
    rw [Canonical] at canonical
    rw [valueOf, Clean]
    exact itemsClean_valuesOf items canonical
  | .object items, canonical => by
    rw [Canonical] at canonical
    have distinct := (jsonObject_ok.mp canonical.1).2.1
    rw [valueOf, Clean, pairsOf_keys]
    exact ⟨distinct.map fun _ _ => text_injective, pairsClean_pairsOf items canonical.2⟩

theorem itemsClean_valuesOf : ∀ items, ItemsCanonical items → ItemsClean (valuesOf items)
  | [], _ => by simp [valuesOf, ItemsClean]
  | item :: rest, canonical => by
    rw [ItemsCanonical] at canonical
    rw [valuesOf, ItemsClean]
    exact ⟨clean_valueOf item canonical.1, itemsClean_valuesOf rest canonical.2⟩

theorem pairsClean_pairsOf : ∀ items, PairsCanonical items → PairsClean (pairsOf items)
  | [], _ => by simp [pairsOf, PairsClean]
  | (key, item) :: rest, canonical => by
    rw [PairsCanonical] at canonical
    rw [pairsOf, PairsClean]
    exact ⟨clean_valueOf item canonical.1, pairsClean_pairsOf rest canonical.2⟩

end

mutual

theorem valueOf_injective : ∀ v w, valueOf v = valueOf w → v = w
  | .null, w, same => by cases w <;> simp [valueOf] at same ⊢
  | .bool b, w, same => by cases w <;> simp [valueOf] at same ⊢; exact same
  | .int i, w, same => by cases w <;> simp [valueOf] at same ⊢; exact same
  | .str s, w, same => by
    cases w <;> simp [valueOf] at same ⊢
    exact text_injective same
  | .array items, w, same => by
    cases w <;> simp [valueOf] at same ⊢
    exact valuesOf_injective items _ same
  | .object items, w, same => by
    cases w <;> simp [valueOf] at same ⊢
    exact pairsOf_injective items _ same

theorem valuesOf_injective : ∀ items items', valuesOf items = valuesOf items' → items = items'
  | [], [], _ => rfl
  | [], _ :: _, same => by simp [valuesOf] at same
  | _ :: _, [], same => by simp [valuesOf] at same
  | item :: rest, item' :: rest', same => by
    rw [valuesOf, valuesOf, List.cons.injEq] at same
    rw [valueOf_injective item item' same.1, valuesOf_injective rest rest' same.2]

theorem pairsOf_injective : ∀ items items', pairsOf items = pairsOf items' → items = items'
  | [], [], _ => rfl
  | [], (_, _) :: _, same => by simp [pairsOf] at same
  | (_, _) :: _, [], same => by simp [pairsOf] at same
  | (key, item) :: rest, (key', item') :: rest', same => by
    rw [pairsOf, pairsOf, List.cons.injEq, Prod.mk.injEq] at same
    rw [text_injective same.1.1, valueOf_injective item item' same.1.2,
      pairsOf_injective rest rest' same.2]

end

theorem precedes_chars {s t : List Char} (le : ¬ List.Lex (· < ·) t s) :
    precedes (s.map Char.toNat) (t.map Char.toNat) = true := by
  induction s generalizing t with
  | nil => rfl
  | cons a s ih =>
    cases t with
    | nil => exact absurd .nil le
    | cons b t =>
      rw [List.cons_lex_cons_iff, not_or, not_and] at le
      rw [List.map_cons, List.map_cons, precedes_cons]
      rcases Nat.lt_trichotomy a.toNat b.toNat with less | same | greater
      · exact .inl less
      · have here := Char.toNat_inj.mp same
        exact .inr ⟨same, ih (le.2 here.symm)⟩
      · exact absurd greater le.1

/-- The order of strings is the order of their code points. -/
theorem text_le {a b : String} (le : a ≤ b) : precedes (text a) (text b) = true :=
  precedes_chars fun less => le (String.lt_iff.mpr less)

mutual

/-- A canonical value is written as it stands. -/
theorem sortKeys_valueOf : ∀ v, Canonical v → sortKeys (valueOf v) = valueOf v
  | .null, _ | .bool _, _ | .int _, _ | .str _, _ => by simp [valueOf, sortKeys]
  | .array items, canonical => by
    rw [Canonical] at canonical
    rw [valueOf, sortKeys, sortItems_valuesOf items canonical]
  | .object items, canonical => by
    rw [Canonical] at canonical
    have sorted := (jsonObject_ok.mp canonical.1).2.2.1
    have ordered := sortByKey_pairwise items
    rw [sorted] at ordered
    have keys : ((pairsOf items).map Prod.fst).Pairwise fun a b => precedes a b = true := by
      rw [pairsOf_keys, List.pairwise_map, List.pairwise_map]
      exact ordered.imp text_le
    rw [valueOf, sortKeys, sortPairs_pairsOf items canonical.2,
      List.Pairwise.insertionSort_eq (List.pairwise_map.mp keys)]

theorem sortItems_valuesOf : ∀ items, ItemsCanonical items →
    sortItems (valuesOf items) = valuesOf items
  | [], _ => rfl
  | item :: rest, canonical => by
    rw [ItemsCanonical] at canonical
    rw [valuesOf, sortItems, sortKeys_valueOf item canonical.1, sortItems_valuesOf rest canonical.2]

theorem sortPairs_pairsOf : ∀ items, PairsCanonical items →
    sortPairs (pairsOf items) = pairsOf items
  | [], _ => rfl
  | (key, item) :: rest, canonical => by
    rw [PairsCanonical] at canonical
    rw [pairsOf, sortPairs, sortKeys_valueOf item canonical.1, sortPairs_pairsOf rest canonical.2]

end

/-! ## Bytes of a dict in any order -/

theorem writableItems_iff {items : List PlainValue} {values : List Value} :
    writableItems items = some values ↔
      List.Forall₂ (fun item v => writable item = some v) items values := by
  induction items generalizing values with
  | nil =>
    rw [writableItems, List.forall₂_nil_left_iff, Option.some.injEq]
    exact eq_comm
  | cons item rest ih =>
    rw [writableItems, List.forall₂_cons_left_iff]
    simp only [Option.bind_eq_bind, Option.bind_eq_some_iff, ih, Option.pure_def,
      Option.some.injEq]
    constructor
    · rintro ⟨v, here, tail, there, same⟩
      exact ⟨v, tail, here, there, same.symm⟩
    · rintro ⟨v, tail, here, there, same⟩
      exact ⟨v, here, tail, there, same.symm⟩

/-- A dict's pair as it is written. -/
def PairWrites (pair : PlainKey × PlainValue) (written : Text × Value) : Prop :=
  ∃ key, pair.1 = .str key ∧ written.1 = text key ∧ writable pair.2 = some written.2

theorem writablePairs_iff {items : List (PlainKey × PlainValue)} {values : List (Text × Value)} :
    writablePairs items = some values ↔ List.Forall₂ PairWrites items values := by
  induction items generalizing values with
  | nil =>
    rw [writablePairs, List.forall₂_nil_left_iff, Option.some.injEq]
    exact eq_comm
  | cons pair rest ih =>
    obtain ⟨key, item⟩ := pair
    rw [List.forall₂_cons_left_iff]
    cases key with
    | other typeName => simp [writablePairs, PairWrites]
    | str key =>
      rw [writablePairs]
      simp only [Option.bind_eq_bind, Option.bind_eq_some_iff, ih, Option.pure_def,
        Option.some.injEq]
      constructor
      · rintro ⟨v, here, tail, there, same⟩
        exact ⟨(text key, v), tail, ⟨key, rfl, rfl, here⟩, there, same.symm⟩
      · rintro ⟨⟨key', v⟩, tail, ⟨key'', named, written, here⟩, there, same⟩
        cases named
        exact ⟨v, here, tail, there, by rw [same, ← written]⟩

/-- The text of a key, where it has one. -/
def keyText : PlainKey → Text
  | .str name => text name
  | .other _ => []

theorem pairWrites_keys {items : List (PlainKey × PlainValue)} {values : List (Text × Value)}
    (writes : List.Forall₂ PairWrites items values) (distinct : (items.map Prod.fst).Nodup) :
    (values.map Prod.fst).Nodup := by
  have names : values.map Prod.fst = (items.map Prod.fst).map keyText := by
    clear distinct
    induction writes with
    | nil => rfl
    | cons head _ ih =>
      obtain ⟨key, named, written, _⟩ := head
      rw [List.map_cons, List.map_cons, List.map_cons, ih, named, written, keyText]
  have strings : ∀ key ∈ items.map Prod.fst, ∃ name, key = PlainKey.str name := by
    clear distinct names
    induction writes with
    | nil => simp
    | cons head _ ih =>
      obtain ⟨key, named, _⟩ := head
      rw [List.map_cons, List.forall_mem_cons]
      exact ⟨⟨key, named⟩, ih⟩
  rw [names]
  refine List.Nodup.map_on ?_ distinct
  intro a left b right same
  obtain ⟨name, rfl⟩ := strings a left
  obtain ⟨name', rfl⟩ := strings b right
  rw [text_injective same]

/-- A dict in another order is written as the same sorted value. -/
theorem writable_reordered {p p' : PlainValue} (same : Reordered p p') :
    ∀ v, writable p = some v → ∃ v', writable p' = some v' ∧ sortKeys v' = sortKeys v ∧
      ∀ digits, withinDigits digits v' = withinDigits digits v := by
  induction same with
  | refl => exact fun v written => ⟨v, written, rfl, fun _ => rfl⟩
  | trans _ _ first second =>
    intro v written
    obtain ⟨v', written', sorted, within⟩ := first v written
    obtain ⟨v'', written'', sorted', within'⟩ := second v' written'
    exact ⟨v'', written'', sorted'.trans sorted,
      fun digits => (within' digits).trans (within digits)⟩
  | @inList before after item item' _ ih =>
    intro v written
    rw [writable, Option.map_eq_some_iff] at written
    obtain ⟨values, items, same⟩ := written
    obtain ⟨first, value, last, parted, here, other⟩ := forall₂_part (writableItems_iff.mp items)
    obtain ⟨value', here', sorted, within⟩ := ih value here
    refine ⟨.list (first ++ value' :: last), ?_, ?_, fun digits => ?_⟩
    · rw [writable, writableItems_iff.mpr (other item' value' here')]
      rfl
    · rw [← same, parted, sortKeys, sortKeys, sortItems_eq, sortItems_eq, List.map_append,
        List.map_append, List.map_cons, List.map_cons, sorted]
    · rw [← same, parted, withinDigits, withinDigits, itemsWithinDigits_eq, itemsWithinDigits_eq,
        List.all_append, List.all_append, List.all_cons, List.all_cons, within]
  | @inDict before after key item item' _ ih =>
    intro v written
    rw [writable, Option.map_eq_some_iff] at written
    obtain ⟨values, items, same⟩ := written
    obtain ⟨first, ⟨name, value⟩, last, parted, ⟨key', named, keyed, here⟩, other⟩ :=
      forall₂_part (writablePairs_iff.mp items)
    obtain ⟨value', here', sorted, within⟩ := ih value here
    refine ⟨.dict (first ++ (name, value') :: last), ?_, ?_, fun digits => ?_⟩
    · rw [writable,
        writablePairs_iff.mpr (other (key, item') (name, value') ⟨key', named, keyed, here'⟩)]
      rfl
    · rw [← same, parted, sortKeys, sortKeys, sortPairs_eq, sortPairs_eq, List.map_append,
        List.map_append, List.map_cons, List.map_cons, sorted]
    · rw [← same, parted, withinDigits, withinDigits, pairsWithinDigits_eq, pairsWithinDigits_eq,
        List.all_append, List.all_append, List.all_cons, List.all_cons, within]
  | @dict items items' distinct perm =>
    intro v written
    rw [writable, Option.map_eq_some_iff] at written
    obtain ⟨values, pairs, same⟩ := written
    have writes := writablePairs_iff.mp pairs
    obtain ⟨values', writes', perm'⟩ := List.perm_comp_forall₂ perm.symm writes
    refine ⟨.dict values', ?_, ?_, fun digits => ?_⟩
    · rw [writable, writablePairs_iff.mpr writes']
      rfl
    · rw [← same]
      exact (sortKeys_perm (pairWrites_keys writes distinct) perm'.symm).symm
    · rw [← same, withinDigits, withinDigits, pairsWithinDigits_eq, pairsWithinDigits_eq]
      exact perm'.all_eq

theorem plainBytes_reordered {digits : Nat} {p p' : PlainValue} (same : Reordered p p') :
    plainBytes digits p' = plainBytes digits p := by
  have moved : ∀ {p p'}, Reordered p p' → ∀ v, writable p = some v →
      plainBytes digits p' = plainBytes digits p := by
    intro p p' same v written
    obtain ⟨v', written', sorted, within⟩ := writable_reordered same v written
    simp only [plainBytes, written, written', bind, Option.bind, dumps, sorted, within]
  cases here : writable p with
  | some v => exact moved same v here
  | none =>
    cases there : writable p' with
    | some v => exact (moved same.symm v there).symm
    | none => simp only [plainBytes, here, there, bind, Option.bind]

/-- The bytes of a canonical value name it. -/
theorem canonicalJsonBytes_injective {digits : Nat} {v w : JsonValue} {bytes : List UInt8}
    (canonical : Canonical v) (canonical' : Canonical w)
    (written : canonicalJsonBytes digits v = some bytes)
    (written' : canonicalJsonBytes digits w = some bytes) : v = w := by
  have dumped : ∀ {v}, canonicalJsonBytes digits v = some bytes →
      ∃ t, dumps escape digits (valueOf v) = some t ∧ encode t = some bytes := by
    intro v written
    simp only [canonicalJsonBytes, plainBytes, writable_jsonToPlain, bind, Option.bind] at written
    split at written
    case h_1 => cases written
    case h_2 t dumped => exact ⟨t, dumped, written⟩
  obtain ⟨t, dumpedV, encoded⟩ := dumped written
  obtain ⟨t', dumpedW, encoded'⟩ := dumped written'
  have same : t = t' :=
    Option.some.inj ((decode_encode encoded).symm.trans (decode_encode encoded'))
  rw [← same] at dumpedW
  have sorted := dumps_injective (clean_valueOf v canonical) (clean_valueOf w canonical') dumpedV
    dumpedW
  rw [sortKeys_valueOf v canonical, sortKeys_valueOf w canonical'] at sorted
  exact valueOf_injective v w sorted

/-! ## Which values have bytes -/

theorem printInt_scalar (i : Int) : (printInt i).all isScalar := by
  have digits : ∀ n, (Decimals.decimal n).all isScalar := by
    intro n
    rw [List.all_eq_true]
    intro c member
    have digit := List.all_eq_true.mp (Decimals.decimal_digits n) c member
    obtain ⟨_, upper⟩ := of_decide_eq_true digit
    exact decide_eq_true (by omega)
  unfold printInt
  split
  · rw [List.all_cons, digits]
    rfl
  · exact digits _

theorem escape_scalar {c : Nat} (scalar : isScalar c) : (escape c).all isScalar := by
  have small : ∀ n, n < 128 → isScalar n := fun n low => decide_eq_true (by omega)
  have hex : ∀ n, isScalar (hexDigit (n % 16)) := by
    intro n
    refine small _ ?_
    unfold hexDigit
    split <;> omega
  unfold escape
  split
  case h_1 letter short =>
    have low : letter < 128 := by
      unfold shortEscape? at short
      split_ifs at short <;> cases short <;> decide
    rw [List.all_cons, List.all_cons, small letter low]
    rfl
  case h_2 =>
    split
    case isTrue =>
      simp only [unicodeEscape, List.all_cons, hex]
      decide
    case isFalse => simp [scalar]

theorem printString_scalar (s : String) : (printString escape (text s)).all isScalar := by
  have body : ((text s).flatMap escape).all isScalar := by
    rw [List.all_eq_true]
    intro c member
    obtain ⟨c', member', inside⟩ := List.mem_flatMap.mp member
    exact List.all_eq_true.mp (escape_scalar (List.all_eq_true.mp (text_scalar s) c' member')) c
      inside
  rw [printString, List.all_cons, List.all_append, body]
  rfl

mutual

theorem print_scalar : ∀ v, (print escape (valueOf v)).all isScalar
  | .null => by rw [valueOf, print]; decide
  | .bool b => by cases b <;> (rw [valueOf, print]; decide)
  | .int i => by
    rw [valueOf, print]
    exact printInt_scalar i
  | .str s => by
    rw [valueOf, print]
    exact printString_scalar s
  | .array [] => by rw [valueOf, valuesOf, print]; decide
  | .array (item :: rest) => by
    rw [valueOf, valuesOf, print, List.all_cons, List.all_append, print_scalar item,
      printItems_scalar rest]
    rfl
  | .object [] => by rw [valueOf, pairsOf, print]; decide
  | .object ((key, item) :: rest) => by
    rw [valueOf, pairsOf, print, List.all_cons, List.all_append, List.all_cons, List.all_append,
      printString_scalar, print_scalar item, printPairs_scalar rest]
    rfl

theorem printItems_scalar : ∀ items, (printItems escape (valuesOf items)).all isScalar
  | [] => by rw [valuesOf, printItems]; decide
  | item :: rest => by
    rw [valuesOf, printItems, List.all_cons, List.all_append, print_scalar item,
      printItems_scalar rest]
    rfl

theorem printPairs_scalar : ∀ items, (printPairs escape (pairsOf items)).all isScalar
  | [] => by rw [pairsOf, printPairs]; decide
  | (key, item) :: rest => by
    rw [pairsOf, printPairs, List.all_cons, List.all_append, List.all_cons, List.all_append,
      printString_scalar, print_scalar item, printPairs_scalar rest]
    rfl

end

/-- A canonical value has bytes where its integers can be converted. -/
theorem canonicalJsonBytes_isSome {digits : Nat} {v : JsonValue} (canonical : Canonical v) :
    (canonicalJsonBytes digits v).isSome = withinDigits digits (valueOf v) := by
  simp only [canonicalJsonBytes, plainBytes, writable_jsonToPlain, bind, Option.bind, dumps,
    sortKeys_valueOf v canonical]
  cases within : withinDigits digits (valueOf v) with
  | false => rfl
  | true =>
    simp only [if_true]
    rw [encode, if_pos (print_scalar v)]
    rfl

/-! ## Digests -/

theorem pairsCanonical_iff {items : List (String × JsonValue)} :
    PairsCanonical items ↔ ∀ pair ∈ items, Canonical pair.2 := by
  induction items with
  | nil => simp [PairsCanonical]
  | cons pair rest ih =>
    obtain ⟨key, item⟩ := pair
    rw [PairsCanonical, ih, List.forall_mem_cons]

mutual

/-- What is read from a plain value is accepted by its constructors. -/
theorem canonical_of_jsonFromPlain : ∀ p v, jsonFromPlain p = .ok v → Canonical v
  | .none, v, read | .bool _, v, read | .int _, v, read | .str _, v, read => by
    rw [jsonFromPlain] at read
    cases read
    simp [Canonical]
  | .float _, v, read | .other _, v, read => by
    rw [jsonFromPlain] at read
    cases read
  | .list items, v, read => by
    rw [jsonFromPlain] at read
    cases here : jsonItemsFromPlain items with
    | error e => rw [here] at read; cases read
    | ok values =>
      rw [here] at read
      cases read
      rw [Canonical]
      exact itemsCanonical_of_jsonItemsFromPlain items values here
  | .dict items, v, read => by
    rw [jsonFromPlain] at read
    cases here : jsonPairsFromPlain items with
    | error e => rw [here] at read; cases read
    | ok values =>
      rw [here] at read
      have made : jsonObject (sortByKey values) = .ok v := read
      have same := (jsonObject_ok.mp made).2.2.2
      rw [same] at made ⊢
      rw [Canonical]
      have all := pairsCanonical_iff.mp (pairsCanonical_of_jsonPairsFromPlain items values here)
      exact ⟨made, pairsCanonical_iff.mpr fun pair member =>
        all pair ((sortByKey_perm values).mem_iff.mp member)⟩

theorem itemsCanonical_of_jsonItemsFromPlain : ∀ items values,
    jsonItemsFromPlain items = .ok values → ItemsCanonical values
  | [], values, read => by
    cases read
    simp [ItemsCanonical]
  | item :: rest, values, read => by
    rw [jsonItemsFromPlain_iff, List.forall₂_cons_left_iff] at read
    obtain ⟨v, tail, here, there, same⟩ := read
    rw [same, ItemsCanonical]
    exact ⟨canonical_of_jsonFromPlain item v here,
      itemsCanonical_of_jsonItemsFromPlain rest tail (jsonItemsFromPlain_iff.mpr there)⟩

theorem pairsCanonical_of_jsonPairsFromPlain : ∀ items values,
    jsonPairsFromPlain items = .ok values → PairsCanonical values
  | [], values, read => by
    cases read
    simp [PairsCanonical]
  | (.other _, _) :: _, values, read => by
    rw [jsonPairsFromPlain] at read
    cases read
  | (.str key, item) :: rest, values, read => by
    rw [jsonPairsFromPlain_iff, List.forall₂_cons_left_iff] at read
    obtain ⟨v, tail, ⟨_, here⟩, there, same⟩ := read
    rw [same, PairsCanonical]
    exact ⟨canonical_of_jsonFromPlain item v.2 here,
      pairsCanonical_of_jsonPairsFromPlain rest tail (jsonPairsFromPlain_iff.mpr there)⟩

end

/-- What an intent's digests are computed from; a missing value of the arguments is JSON's null. -/
structure IntentInput where
  effect : EffectRef
  argumentsMode : ArgumentsMode
  arguments : JsonValue
  argumentsRef : Option String
  requester : PrincipalRef
  metadata : List (String × String)

def optionalJson (value : Option String) : JsonValue :=
  match value with
  | none => .null
  | some s => .str s

def optionalPlain (value : Option String) : PlainValue :=
  match value with
  | none => .none
  | some s => .str s

section

variable (sha256 : List UInt8 → String) (digits : Nat)

/-- The bytes that `compute_canonical_arguments_hash` hashes. -/
def argumentsBytes (intent : IntentInput) : Option (List UInt8) := do
  let material ← (jsonObject
    [("arguments", intent.arguments), ("arguments_mode", .str intent.argumentsMode.value),
      ("arguments_ref", optionalJson intent.argumentsRef)]).toOption
  canonicalJsonBytes digits material

def computeCanonicalArgumentsHash (intent : IntentInput) : Option String :=
  (argumentsBytes digits intent).map sha256

def canonicalMaterial (effect : EffectRef) : PlainValue :=
  .dict [(.str "provider", .str effect.provider), (.str "action", .str effect.action),
    (.str "version", .str effect.version)]

/-- `metadata_obj`. -/
def metadataObject (metadata : List (String × String)) :
    Except ContractValidationError JsonValue :=
  jsonObject (sortByKey (metadata.map fun pair => (pair.1, .str pair.2)))

def intentMaterial (intent : IntentInput) (canonicalArgumentsHash : String) :
    Except ContractValidationError JsonValue := do
  let metadata ← metadataObject intent.metadata
  jsonFromPlain (.dict
    [(.str "arguments_mode", .str intent.argumentsMode.value),
      (.str "arguments_ref", optionalPlain intent.argumentsRef),
      (.str "canonical_arguments_hash", .str canonicalArgumentsHash),
      (.str "effect", canonicalMaterial intent.effect),
      (.str "metadata", jsonToPlain metadata),
      (.str "requester", .dict [(.str "id", .str intent.requester.id),
        (.str "type", .str intent.requester.type.value)])])

/-- The bytes that `compute_intent_digest` hashes, given the intent's own arguments hash. -/
def intentBytes (intent : IntentInput) : Option (List UInt8) := do
  let hash ← computeCanonicalArgumentsHash sha256 digits intent
  let material ← (intentMaterial intent hash).toOption
  canonicalJsonBytes digits material

end

theorem jsonObject_of_keys {items : List (String × JsonValue)} {keys : List String}
    (names : items.map Prod.fst = keys) (some : "" ∉ keys) (distinct : keys.Nodup)
    (ordered : keys.Pairwise (· ≤ ·)) : jsonObject items = .ok (.object items) := by
  refine jsonObject_ok.mpr ⟨fun pair member same => some ?_, by rwa [names], ?_, rfl⟩
  · rw [← names, ← same]
    exact List.mem_map_of_mem member
  · rw [sortByKey_eq]
    rw [← names] at ordered
    exact (List.pairwise_map.mp ordered).insertionSort_eq

theorem metadataObject_perm {metadata metadata' : List (String × String)}
    (perm : metadata.Perm metadata') : metadataObject metadata = metadataObject metadata' := by
  have mapped := perm.map fun pair => (pair.1, JsonValue.str pair.2)
  unfold metadataObject
  by_cases distinct : ((metadata.map fun pair => (pair.1, JsonValue.str pair.2)).map Prod.fst).Nodup
  · rw [sortByKey_of_perm distinct mapped]
  · have both := ((sortByKey_perm _).trans mapped).trans (sortByKey_perm _).symm
    have twice := ((sortByKey_perm
      (metadata.map fun pair => (pair.1, JsonValue.str pair.2))).map Prod.fst).nodup_iff.not.mpr
        distinct
    have twice' := (both.map Prod.fst).nodup_iff.not.mp twice
    unfold jsonObject
    rw [(both.any_eq), if_pos twice, if_pos twice']

theorem metadataObject_injective {metadata metadata' : List (String × String)} {v : JsonValue}
    (made : metadataObject metadata = .ok v) (made' : metadataObject metadata' = .ok v) :
    metadata.Perm metadata' := by
  have same := (jsonObject_ok.mp made).2.2.2.symm.trans (jsonObject_ok.mp made').2.2.2
  have sorted := JsonValue.object.inj same
  have perm := (sortByKey_perm _).symm.trans (sorted ▸ sortByKey_perm _)
  refine (List.map_perm_map_iff ?_).mp perm.symm
  rintro ⟨key, value⟩ ⟨key', value'⟩ equal
  simp only [Prod.mk.injEq, JsonValue.str.injEq] at equal
  rw [equal.1, equal.2]

theorem sortByKey_of_keys {items : List (String × JsonValue)} {keys : List String}
    (names : items.map Prod.fst = keys) (ordered : keys.Pairwise (· ≤ ·)) :
    sortByKey items = items := by
  rw [sortByKey_eq]
  rw [← names] at ordered
  exact (List.pairwise_map.mp ordered).insertionSort_eq

theorem jsonFromPlain_dict {items : List (PlainKey × PlainValue)}
    {values sorted : List (String × JsonValue)} {keys : List String}
    (reads : jsonPairsFromPlain items = .ok values) (order : sortByKey values = sorted)
    (names : sorted.map Prod.fst = keys) (some : "" ∉ keys) (distinct : keys.Nodup)
    (ordered : keys.Pairwise (· ≤ ·)) : jsonFromPlain (.dict items) = .ok (.object sorted) := by
  rw [jsonFromPlain, reads]
  simp only [bind, Except.bind]
  rw [order, jsonObject_of_keys names some distinct ordered]

theorem jsonFromPlain_optionalPlain (value : Option String) :
    jsonFromPlain (optionalPlain value) = .ok (optionalJson value) := by
  cases value <;> simp [optionalPlain, optionalJson, jsonFromPlain]

def effectObject (effect : EffectRef) : JsonValue :=
  .object [("action", .str effect.action), ("provider", .str effect.provider),
    ("version", .str effect.version)]

def requesterObject (requester : PrincipalRef) : JsonValue :=
  .object [("id", .str requester.id), ("type", .str requester.type.value)]

theorem jsonFromPlain_canonicalMaterial (effect : EffectRef) :
    jsonFromPlain (canonicalMaterial effect) = .ok (effectObject effect) := by
  have order : sortByKey [("provider", .str effect.provider), ("action", .str effect.action),
      ("version", .str effect.version)] = [("action", JsonValue.str effect.action),
        ("provider", .str effect.provider), ("version", .str effect.version)] := by
    have perm : List.Perm [("provider", JsonValue.str effect.provider),
        ("action", .str effect.action), ("version", .str effect.version)]
        [("action", .str effect.action), ("provider", .str effect.provider),
          ("version", .str effect.version)] := .swap _ _ _
    have distinct : ["provider", "action", "version"].Nodup := by decide
    rw [sortByKey_of_perm (by exact distinct) perm]
    exact @sortByKey_of_keys _ ["action", "provider", "version"] rfl (by decide)
  exact @jsonFromPlain_dict _ _ _ ["action", "provider", "version"] (by
    simp [jsonPairsFromPlain, jsonFromPlain, bind, Except.bind, pure, Except.pure]) order rfl
    (by decide) (by decide) (by decide)

theorem jsonFromPlain_requester (requester : PrincipalRef) :
    jsonFromPlain (.dict [(.str "id", .str requester.id),
      (.str "type", .str requester.type.value)]) = .ok (requesterObject requester) :=
  @jsonFromPlain_dict _ _ _ ["id", "type"] (by
    simp only [jsonPairsFromPlain, jsonFromPlain, bind, Except.bind, pure, Except.pure])
    (@sortByKey_of_keys _ ["id", "type"] rfl (by decide)) rfl (by decide) (by decide) (by decide)

theorem metadataObject_canonical {metadata : List (String × String)} {v : JsonValue}
    (made : metadataObject metadata = .ok v) : Canonical v := by
  have same := (jsonObject_ok.mp made).2.2.2
  unfold metadataObject at made
  rw [same] at made ⊢
  rw [Canonical]
  refine ⟨made, pairsCanonical_iff.mpr fun pair member => ?_⟩
  obtain ⟨given, _, mapped⟩ := List.mem_map.mp ((sortByKey_perm _).mem_iff.mp member)
  rw [← mapped]
  simp [Canonical]

/-- The object whose bytes an intent digest is of. -/
def digestObject (intent : IntentInput) (hash : String) (metadata : JsonValue) : JsonValue :=
  .object [("arguments_mode", .str intent.argumentsMode.value),
    ("arguments_ref", optionalJson intent.argumentsRef), ("canonical_arguments_hash", .str hash),
    ("effect", effectObject intent.effect), ("metadata", metadata),
    ("requester", requesterObject intent.requester)]

theorem intentMaterial_eq {intent : IntentInput} {hash : String} {metadata : JsonValue}
    (made : metadataObject intent.metadata = .ok metadata) :
    intentMaterial intent hash = .ok (digestObject intent hash metadata) := by
  have read := jsonFromPlain_jsonToPlain metadata (metadataObject_canonical made)
  unfold intentMaterial
  rw [made]
  exact @jsonFromPlain_dict _ _ _ ["arguments_mode", "arguments_ref", "canonical_arguments_hash",
    "effect", "metadata", "requester"] (by
    rw [jsonPairsFromPlain, jsonPairsFromPlain, jsonPairsFromPlain, jsonPairsFromPlain,
      jsonPairsFromPlain, jsonPairsFromPlain, jsonPairsFromPlain, jsonFromPlain_optionalPlain,
      jsonFromPlain_canonicalMaterial, read, jsonFromPlain_requester]
    simp only [jsonFromPlain, bind, Except.bind, pure, Except.pure])
    (@sortByKey_of_keys _ ["arguments_mode", "arguments_ref", "canonical_arguments_hash",
      "effect", "metadata", "requester"] rfl (by decide)) rfl (by decide) (by decide) (by decide)

theorem canonical_digestObject {intent : IntentInput} {hash : String} {metadata : JsonValue}
    (made : metadataObject intent.metadata = .ok metadata) :
    Canonical (digestObject intent hash metadata) := by
  have read := @intentMaterial_eq intent hash metadata made
  unfold intentMaterial at read
  rw [made] at read
  exact canonical_of_jsonFromPlain _ _ read

/-- The object whose bytes an arguments hash is of. -/
def argumentsObject (intent : IntentInput) : JsonValue :=
  .object [("arguments", intent.arguments), ("arguments_mode", .str intent.argumentsMode.value),
    ("arguments_ref", optionalJson intent.argumentsRef)]

theorem argumentsObject_made (intent : IntentInput) :
    jsonObject [("arguments", intent.arguments),
      ("arguments_mode", .str intent.argumentsMode.value),
      ("arguments_ref", optionalJson intent.argumentsRef)] = .ok (argumentsObject intent) :=
  @jsonObject_of_keys _ ["arguments", "arguments_mode", "arguments_ref"] rfl (by decide) (by decide)
    (by decide)

theorem argumentsBytes_eq (digits : Nat) (intent : IntentInput) :
    argumentsBytes digits intent = canonicalJsonBytes digits (argumentsObject intent) := by
  unfold argumentsBytes
  rw [argumentsObject_made]
  rfl

theorem canonical_optionalJson (value : Option String) : Canonical (optionalJson value) := by
  cases value <;> simp [optionalJson, Canonical]

theorem canonical_argumentsObject {intent : IntentInput} (canonical : Canonical intent.arguments) :
    Canonical (argumentsObject intent) := by
  have made := argumentsObject_made intent
  unfold argumentsObject at made ⊢
  rw [Canonical]
  refine ⟨made, ?_⟩
  rw [PairsCanonical, PairsCanonical, PairsCanonical, PairsCanonical]
  exact ⟨canonical, by simp [Canonical], canonical_optionalJson _, trivial⟩

theorem optionalJson_injective {a b : Option String} (same : optionalJson a = optionalJson b) :
    a = b := by
  cases a <;> cases b <;> simp_all [optionalJson]

theorem argumentsMode_value_injective {a b : ArgumentsMode} (same : a.value = b.value) : a = b := by
  cases a <;> cases b <;> simp_all [ArgumentsMode.value]

theorem principalType_value_injective {a b : PrincipalType} (same : a.value = b.value) : a = b := by
  cases a <;> cases b <;> simp_all [PrincipalType.value]

theorem intentBytes_some {sha256 : List UInt8 → String} {digits : Nat} {intent : IntentInput}
    {bytes : List UInt8} (hashed : intentBytes sha256 digits intent = some bytes) :
    ∃ arguments metadata, argumentsBytes digits intent = some arguments ∧
      metadataObject intent.metadata = .ok metadata ∧
      canonicalJsonBytes digits (digestObject intent (sha256 arguments) metadata) = some bytes := by
  unfold intentBytes computeCanonicalArgumentsHash at hashed
  simp only [Option.bind_eq_bind, Option.bind_eq_some_iff, Option.map_eq_some_iff] at hashed
  obtain ⟨_, ⟨arguments, given, rfl⟩, material, read, written⟩ := hashed
  cases made : metadataObject intent.metadata with
  | error e =>
    unfold intentMaterial at read
    rw [made] at read
    cases read
  | ok metadata =>
    rw [intentMaterial_eq made] at read
    cases read
    exact ⟨arguments, metadata, given, rfl, written⟩

/-- Two intents with the same bytes under a digest agree in everything that is digested. -/
theorem intentBytes_injective {sha256 : List UInt8 → String} {digits : Nat} {a b : IntentInput}
    {bytes : List UInt8} (canonical : Canonical a.arguments) (canonical' : Canonical b.arguments)
    (collisionFree : ∀ m m', argumentsBytes digits a = some m → argumentsBytes digits b = some m' →
      sha256 m = sha256 m' → m = m')
    (hashed : intentBytes sha256 digits a = some bytes)
    (hashed' : intentBytes sha256 digits b = some bytes) :
    a.effect = b.effect ∧ a.arguments = b.arguments ∧ a.argumentsMode = b.argumentsMode ∧
      a.argumentsRef = b.argumentsRef ∧ a.requester.type = b.requester.type ∧
      a.requester.id = b.requester.id ∧ a.metadata.Perm b.metadata := by
  obtain ⟨m, metadata, given, made, written⟩ := intentBytes_some hashed
  obtain ⟨m', metadata', given', made', written'⟩ := intentBytes_some hashed'
  have same := canonicalJsonBytes_injective (canonical_digestObject made)
    (canonical_digestObject made') written written'
  simp only [digestObject, JsonValue.object.injEq, List.cons.injEq, Prod.mk.injEq, true_and,
    and_true, JsonValue.str.injEq, effectObject, requesterObject] at same
  obtain ⟨mode, ref, hash, ⟨action, provider, version⟩, metadataSame, id, type⟩ := same
  have material := collisionFree m m' given given' hash
  rw [argumentsBytes_eq] at given given'
  rw [← material] at given'
  have arguments := canonicalJsonBytes_injective (canonical_argumentsObject canonical)
    (canonical_argumentsObject canonical') given given'
  simp only [argumentsObject, JsonValue.object.injEq, List.cons.injEq, Prod.mk.injEq, true_and,
    and_true] at arguments
  rw [metadataSame] at made
  refine ⟨?_, arguments.1, argumentsMode_value_injective mode, optionalJson_injective ref,
    principalType_value_injective type, id, metadataObject_injective made made'⟩
  cases ha : a.effect
  cases hb : b.effect
  simp_all

/-- Canonical values and their bytes name each other whatever order dicts are given in, and so do
intents and what their digests are computed from. -/
theorem canonical_names (sha256 : List UInt8 → String) (digits : Nat) :
    (∀ v, Canonical v → jsonFromPlain (jsonToPlain v) = .ok v ∧
      (canonicalJsonBytes digits v).isSome = withinDigits digits (valueOf v) ∧
      ∀ p, Reordered (jsonToPlain v) p →
        jsonFromPlain p = .ok v ∧ plainBytes digits p = canonicalJsonBytes digits v) ∧
    (∀ v w bytes, Canonical v → Canonical w → canonicalJsonBytes digits v = some bytes →
      canonicalJsonBytes digits w = some bytes → v = w) ∧
    (∀ (intent : IntentInput) metadata, intent.metadata.Perm metadata →
      intentBytes sha256 digits { intent with metadata := metadata } =
        intentBytes sha256 digits intent) ∧
    ∀ (a b : IntentInput) bytes, Canonical a.arguments → Canonical b.arguments →
      (∀ m m', argumentsBytes digits a = some m → argumentsBytes digits b = some m' →
        sha256 m = sha256 m' → m = m') →
      intentBytes sha256 digits a = some bytes → intentBytes sha256 digits b = some bytes →
      a.effect = b.effect ∧ a.arguments = b.arguments ∧ a.argumentsMode = b.argumentsMode ∧
        a.argumentsRef = b.argumentsRef ∧ a.requester.type = b.requester.type ∧
        a.requester.id = b.requester.id ∧ a.metadata.Perm b.metadata := by
  refine ⟨fun v canonical => ⟨jsonFromPlain_jsonToPlain v canonical,
    canonicalJsonBytes_isSome canonical, fun p same => ⟨?_, plainBytes_reordered same⟩⟩,
    fun v w bytes canonical canonical' => canonicalJsonBytes_injective canonical canonical',
    fun intent metadata perm => ?_,
    fun a b bytes canonical canonical' free => intentBytes_injective canonical canonical' free⟩
  · exact jsonFromPlain_reordered same v (jsonFromPlain_jsonToPlain v canonical)
  · unfold intentBytes computeCanonicalArgumentsHash argumentsBytes intentMaterial
    simp only [metadataObject_perm perm]

/-- An issue to open, its metadata in one order. -/
def issueInput : IntentInput where
  effect := ⟨"github", "create_issue", "v1"⟩
  argumentsMode := .inline
  arguments := .object [("title", .str "t")]
  argumentsRef := none
  requester := ⟨.agent, "agent-1", none⟩
  metadata := [("team", "ops"), ("run", "7")]

/-- SHA-256, on the bytes that stand for its arguments. -/
def issueSha256 : List UInt8 → String :=
  fun _ => "83f7790843774daa3d04311252068b6686b9628d201108454442ccd321a30d29"

theorem canonical_names_issue : ∃ bytes, intentBytes issueSha256 4300 issueInput = some bytes ∧
    issueInput.metadata.Perm [("run", "7"), ("team", "ops")] := by
  have names := canonical_names issueSha256 4300
  have canonical : Canonical issueInput.arguments := by
    simp only [issueInput, Canonical, PairsCanonical, and_true]
    rfl
  have hashed : (intentBytes issueSha256 4300 issueInput).isSome := by decide +kernel
  obtain ⟨bytes, written⟩ := Option.isSome_iff_exists.mp hashed
  have reordered := names.2.2.1 issueInput [("run", "7"), ("team", "ops")] (.swap _ _ _)
  exact ⟨bytes, written, (names.2.2.2 issueInput
    { issueInput with metadata := [("run", "7"), ("team", "ops")] } bytes canonical canonical
    (fun m m' given given' _ => Option.some.inj (given.symm.trans given')) written
    (reordered.trans written)).2.2.2.2.2.2⟩

end Stateback.Domain
