import Stateback.Lib.JsonSizes
/-!
# The characters of a printed value

A printed value is made of ASCII of its own and of the characters of its texts, so that what holds
of all ASCII holds of the print just where it holds of the texts.
-/

namespace JsonText

open CodePoints Decimals

mutual

/-- Every character of every string, key and float. -/
def textsAll (p : Nat → Bool) : Value → Bool
  | .null | .bool _ | .int _ => true
  | .float written => written.all p
  | .str s => s.all p
  | .list items => itemsAll p items
  | .dict items => pairsAll p items

def itemsAll (p : Nat → Bool) : List Value → Bool
  | [] => true
  | item :: rest => textsAll p item && itemsAll p rest

def pairsAll (p : Nat → Bool) : List (Text × Value) → Bool
  | [] => true
  | (key, item) :: rest => key.all p && (textsAll p item && pairsAll p rest)

end

theorem pairsAll_eq (p : Nat → Bool) (items : List (Text × Value)) :
    pairsAll p items = items.all fun pair => pair.1.all p && textsAll p pair.2 := by
  induction items with
  | nil => rfl
  | cons pair rest ih =>
    obtain ⟨key, item⟩ := pair
    rw [pairsAll, ih, List.all_cons, Bool.and_assoc]

theorem pairsAll_split (p : Nat → Bool) (items : List (Text × Value)) :
    pairsAll p items =
      ((items.map Prod.fst).all (fun key => key.all p) && itemsAll p (items.map Prod.snd)) := by
  induction items with
  | nil => rfl
  | cons pair rest ih =>
    obtain ⟨key, item⟩ := pair
    rw [pairsAll, ih, List.map_cons, List.map_cons, itemsAll, List.all_cons]
    simp only [Bool.and_assoc, Bool.and_left_comm]

section
variable {p : Nat → Bool} (ascii : ∀ c, c < 128 → p c)
include ascii

theorem digits_all {t : Text} (digits : t.all isDigit) : t.all p := by
  rw [List.all_eq_true] at digits ⊢
  intro c member
  have := (of_decide_eq_true (digits c member)).2
  exact ascii c (by omega)

theorem printInt_all (i : Int) : (printInt i).all p := by
  unfold printInt
  split
  · rw [List.all_cons, ascii 45 (by decide), digits_all ascii (decimal_digits _)]
    rfl
  · exact digits_all ascii (decimal_digits _)

/-- An escape is ASCII, or the character itself. -/
theorem escape_all (c : Nat) : (escape c).all p = p c := by
  have hex : ∀ n, p (hexDigit (n % 16)) = true := by
    intro n
    refine ascii _ ?_
    unfold hexDigit
    split <;> omega
  unfold escape
  split
  case h_1 letter short =>
    have low := shortEscape?_ascii short
    rw [List.all_cons, List.all_cons, ascii 92 (by decide), ascii letter low.1, ascii c low.2]
    rfl
  case h_2 =>
    split
    case isTrue control =>
      simp only [unicodeEscape, List.all_cons, hex, ascii 92 (by decide), ascii 117 (by decide),
        ascii c (by omega)]
      rfl
    case isFalse => simp

theorem printString_all (s : Text) : (printString escape s).all p = s.all p := by
  rw [printString, List.all_cons, List.all_append, List.all_flatMap, ascii 34 (by decide),
    List.all_cons, ascii 34 (by decide)]
  simp [escape_all ascii]

mutual

theorem print_all : ∀ v, (print escape v).all p = textsAll p v
  | .null => by
    rw [print, textsAll]
    have low : ∀ c ∈ nullText, c < 128 := by decide
    exact List.all_eq_true.mpr fun c member => ascii c (low c member)
  | .bool b => by
    rw [print, textsAll]
    have low : ∀ c ∈ (if b then trueText else falseText), c < 128 := by
      cases b <;> decide
    exact List.all_eq_true.mpr fun c member => ascii c (low c member)
  | .int i => by
    rw [print, textsAll]
    exact printInt_all ascii i
  | .float written => by rw [print, textsAll]
  | .str s => by
    rw [print, textsAll]
    exact printString_all ascii s
  | .list [] => by
    rw [print, textsAll, itemsAll]
    simp [ascii]
  | .list (item :: rest) => by
    rw [print, textsAll, itemsAll, List.all_cons, List.all_append, print_all item,
      printItems_all rest, ascii 91 (by decide), Bool.true_and]
  | .dict [] => by
    rw [print, textsAll, pairsAll]
    simp [ascii]
  | .dict ((key, item) :: rest) => by
    rw [print, textsAll, pairsAll, List.all_cons, List.all_append, List.all_cons, List.all_append,
      printString_all ascii, print_all item, printPairs_all rest, ascii 123 (by decide),
      ascii 58 (by decide), Bool.true_and, Bool.true_and]

theorem printItems_all : ∀ items, (printItems escape items).all p = itemsAll p items
  | [] => by
    rw [printItems, itemsAll]
    simp [ascii]
  | item :: rest => by
    rw [printItems, itemsAll, List.all_cons, List.all_append, print_all item, printItems_all rest,
      ascii 44 (by decide), Bool.true_and]

theorem printPairs_all : ∀ items, (printPairs escape items).all p = pairsAll p items
  | [] => by
    rw [printPairs, pairsAll]
    simp [ascii]
  | (key, item) :: rest => by
    rw [printPairs, pairsAll, List.all_cons, List.all_append, List.all_cons, List.all_append,
      printString_all ascii, print_all item, printPairs_all rest, ascii 44 (by decide),
      ascii 58 (by decide), Bool.true_and, Bool.true_and]

end

end

mutual

theorem textsAll_sortKeys (p : Nat → Bool) : ∀ v, textsAll p (sortKeys v) = textsAll p v
  | .null | .bool _ | .int _ | .float _ | .str _ => rfl
  | .list items => by
    rw [sortKeys, textsAll, textsAll]
    exact itemsAll_sort p items
  | .dict items => by
    have sorted := List.perm_insertionSort
      (fun a b : Text × Value => precedes a.1 b.1 = true) (sortPairs items)
    rw [sortKeys, textsAll, textsAll, pairsAll_eq, sorted.all_eq, ← pairsAll_eq]
    exact pairsAll_sort p items

theorem itemsAll_sort (p : Nat → Bool) : ∀ items, itemsAll p (sortItems items) = itemsAll p items
  | [] => rfl
  | item :: rest => by
    rw [sortItems, itemsAll, itemsAll, textsAll_sortKeys p item, itemsAll_sort p rest]

theorem pairsAll_sort (p : Nat → Bool) : ∀ items, pairsAll p (sortPairs items) = pairsAll p items
  | [] => rfl
  | (key, item) :: rest => by
    rw [sortPairs, pairsAll, pairsAll, textsAll_sortKeys p item, pairsAll_sort p rest]

end

theorem text_mono {p q : Nat → Bool} (weaker : ∀ c, p c → q c) {s : Text} (all : s.all p) :
    s.all q := by
  rw [List.all_eq_true] at all ⊢
  exact fun c member => weaker c (all c member)

mutual

theorem textsAll_mono {p q : Nat → Bool} (weaker : ∀ c, p c → q c) :
    ∀ v, textsAll p v → textsAll q v
  | .null, _ | .bool _, _ | .int _, _ => rfl
  | .float written, all | .str written, all => by
    rw [textsAll] at all ⊢
    exact text_mono weaker all
  | .list items, all => by
    rw [textsAll] at all ⊢
    exact itemsAll_mono weaker items all
  | .dict items, all => by
    rw [textsAll] at all ⊢
    exact pairsAll_mono weaker items all

theorem itemsAll_mono {p q : Nat → Bool} (weaker : ∀ c, p c → q c) :
    ∀ items, itemsAll p items → itemsAll q items
  | [], _ => rfl
  | item :: rest, all => by
    rw [itemsAll, Bool.and_eq_true] at all ⊢
    exact ⟨textsAll_mono weaker item all.1, itemsAll_mono weaker rest all.2⟩

theorem pairsAll_mono {p q : Nat → Bool} (weaker : ∀ c, p c → q c) :
    ∀ items, pairsAll p items → pairsAll q items
  | [], _ => rfl
  | (key, item) :: rest, all => by
    rw [pairsAll, Bool.and_eq_true, Bool.and_eq_true] at all ⊢
    exact ⟨text_mono weaker all.1, textsAll_mono weaker item all.2.1,
      pairsAll_mono weaker rest all.2.2⟩

end

/-! ## Escaping what needs no escape -/

/-- Printable ASCII. -/
def isPrintable (c : Nat) : Bool := decide (32 ≤ c ∧ c < 127)

theorem asciiEscape_printable {c : Nat} (printable : isPrintable c) : asciiEscape c = escape c := by
  have range := of_decide_eq_true printable
  unfold asciiEscape escape
  cases shortEscape? c with
  | some letter => rfl
  | none =>
    simp only
    rw [if_pos range, if_neg (by omega)]

theorem printString_printable {s : Text} (printable : s.all isPrintable) :
    printString asciiEscape s = printString escape s := by
  rw [List.all_eq_true] at printable
  have same : s.flatMap asciiEscape = s.flatMap escape :=
    List.flatMap_congr fun c member => asciiEscape_printable (printable c member)
  rw [printString, printString, same]

mutual

/-- Texts of printable ASCII are printed alike by both escapes. -/
theorem print_printable : ∀ v, textsAll isPrintable v → print asciiEscape v = print escape v
  | .null, _ | .bool _, _ | .int _, _ | .float _, _ => by simp [print]
  | .str s, printable => by
    rw [textsAll] at printable
    rw [print, print, printString_printable printable]
  | .list [], _ => by rw [print, print]
  | .list (item :: rest), printable => by
    rw [textsAll, itemsAll, Bool.and_eq_true] at printable
    rw [print, print, print_printable item printable.1, printItems_printable rest printable.2]
  | .dict [], _ => by rw [print, print]
  | .dict ((key, item) :: rest), printable => by
    rw [textsAll, pairsAll, Bool.and_eq_true, Bool.and_eq_true] at printable
    rw [print, print, printString_printable printable.1, print_printable item printable.2.1,
      printPairs_printable rest printable.2.2]

theorem printItems_printable : ∀ items, itemsAll isPrintable items →
    printItems asciiEscape items = printItems escape items
  | [], _ => by rw [printItems, printItems]
  | item :: rest, printable => by
    rw [itemsAll, Bool.and_eq_true] at printable
    rw [printItems, printItems, print_printable item printable.1,
      printItems_printable rest printable.2]

theorem printPairs_printable : ∀ items, pairsAll isPrintable items →
    printPairs asciiEscape items = printPairs escape items
  | [], _ => by rw [printPairs, printPairs]
  | (key, item) :: rest, printable => by
    rw [pairsAll, Bool.and_eq_true, Bool.and_eq_true] at printable
    rw [printPairs, printPairs, printString_printable printable.1,
      print_printable item printable.2.1, printPairs_printable rest printable.2.2]

end

/-- What is dumped of printable texts is the same by both escapes. -/
theorem dumps_printable {limit : Nat} {v : Value} (printable : textsAll isPrintable v) :
    dumps asciiEscape limit v = dumps escape limit v := by
  have sorted : textsAll isPrintable (sortKeys v) := by rwa [textsAll_sortKeys]
  rw [dumps, dumps, print_printable _ sorted]

/-- Printable characters that no escape is for. -/
def isUnescaped (c : Nat) : Bool := decide (32 ≤ c ∧ c < 127 ∧ c ≠ 34 ∧ c ≠ 92)

theorem unescaped_printable {s : Text} (unescaped : s.all isUnescaped) : s.all isPrintable := by
  refine text_mono (fun c plain => ?_) unescaped
  have := of_decide_eq_true plain
  exact decide_eq_true (by omega)

theorem size_unescaped {s : Text} (unescaped : s.all isUnescaped) :
    size (printString escape s) = s.length + 2 := by
  have quotes : width 34 = 1 ∧ size [34] = 1 := ⟨rfl, rfl⟩
  have body : size (s.flatMap escape) = s.length := by
    induction s with
    | nil => rfl
    | cons c s ih =>
      rw [List.all_cons, Bool.and_eq_true] at unescaped
      have range := of_decide_eq_true unescaped.1
      have one : size [c] = 1 := by
        rw [size_cons, width, if_pos (by omega)]
        rfl
      rw [List.flatMap_cons, size_append, escape_plain range.2.2.1 range.2.2.2 (by omega), one,
        ih unescaped.2, List.length_cons, Nat.add_comm]
  rw [printString, size_cons, size_append, body, quotes.1, quotes.2]
  omega

/-- Every character takes some room. -/
theorem size_printString_ge (s : Text) : s.length + 2 ≤ size (printString escape s) := by
  have quotes : width 34 = 1 ∧ size [34] = 1 := ⟨rfl, rfl⟩
  have one : ∀ c, 1 ≤ size (escape c) := by
    intro c
    unfold escape
    split
    · rw [size_cons]
      have := width_pos 92
      omega
    · split
      · rw [size_unicodeEscape]
        decide
      · rw [size_cons]
        have := width_pos c
        omega
  have body : s.length ≤ size (s.flatMap escape) := by
    induction s with
    | nil => exact Nat.le_refl _
    | cons c s ih =>
      have := one c
      rw [List.flatMap_cons, size_append, List.length_cons]
      omega
  rw [printString, size_cons, size_append, quotes.1, quotes.2]
  omega

/-! ## Flat objects -/

/-- An object that nests nothing: each key once, and no float. -/
structure Flat (items : List (Text × Value)) : Prop where
  distinct : (items.map Prod.fst).Nodup
  clean : PairsClean items
  shallow : pairsDepth items = 0

theorem sortKeys_shallow {v : Value} (shallow : depthOf v = 0) : sortKeys v = v := by
  cases v with
  | list items => rw [depthOf] at shallow; omega
  | dict items => rw [depthOf] at shallow; omega
  | null => rfl
  | bool b => rfl
  | int i => rfl
  | float written => rfl
  | str s => rfl

theorem sortPairs_shallow {items : List (Text × Value)} (shallow : pairsDepth items = 0) :
    sortPairs items = items := by
  induction items with
  | nil => rfl
  | cons pair rest ih =>
    obtain ⟨key, item⟩ := pair
    rw [pairsDepth] at shallow
    rw [sortPairs, sortKeys_shallow (by omega), ih (by omega)]

theorem pairsSize_perm {items items' : List (Text × Value)} (perm : items.Perm items') :
    pairsSize items = pairsSize items' :=
  (perm.map _).sum_nat

/-- The room of the keys, each with its colon and comma, and that of the values. -/
def keysSize (keys : List Text) : Nat :=
  (keys.map fun key => size (printString escape key) + 2).sum

def valuesSize (values : List Value) : Nat :=
  (values.map fun item => size (print escape item)).sum

theorem valuesSize_cons (item : Value) (values : List Value) :
    valuesSize (item :: values) = size (print escape item) + valuesSize values := by
  simp [valuesSize]

theorem pairsSize_eq (items : List (Text × Value)) :
    pairsSize items = keysSize (items.map Prod.fst) + valuesSize (items.map Prod.snd) := by
  induction items with
  | nil => rfl
  | cons pair rest ih =>
    rw [pairsSize_cons, ih, List.map_cons, List.map_cons, valuesSize_cons]
    simp only [keysSize, List.map_cons, List.sum_cons]
    omega

/-- A flat object is dumped in the room its fields take, and loads as its fields in some order. -/
theorem dumps_flat {limits : Limits} (deep : 1 ≤ limits.depth) {items : List (Text × Value)}
    {t : Text} (flat : Flat items) (some : items ≠ [])
    (dumped : dumps escape limits.digits (.dict items) = Option.some t) :
    size t = 1 + pairsSize items ∧
      ∃ data : List (Text × Value), data.Perm items ∧ loads limits t = .ok (.dict data) := by
  have clean : Clean (.dict items) := by
    rw [Clean]
    exact ⟨flat.distinct, flat.clean⟩
  have shallow : depthOf (.dict items) ≤ limits.depth := by
    rw [depthOf, flat.shallow]
    exact deep
  have sorted := List.perm_insertionSort (fun a b : Text × Value => precedes a.1 b.1 = true) items
  unfold dumps at dumped
  split at dumped
  case isFalse => cases dumped
  case isTrue within =>
    have fits := fits_sortKeys limits.digits _ _ (fits_of_clean _ _ _ clean within shallow)
    have read := loads_print fits
    have printed := Option.some.inj dumped
    have nonempty :
        items.insertionSort (fun a b : Text × Value => precedes a.1 b.1 = true) ≠ [] := by
      intro none
      rw [none] at sorted
      exact some (List.nil_perm.mp sorted)
    rw [sortKeys, sortPairs_shallow flat.shallow] at read printed
    refine ⟨?_, _, sorted, ?_⟩
    · rw [← printed, size_dict nonempty, pairsSize_perm sorted]
    · rw [← printed]
      exact read

/-- A flat object of printable texts is dumped as ASCII, and loads from its bytes. -/
theorem dumps_ascii {limits : Limits} (deep : 1 ≤ limits.depth) {items : List (Text × Value)}
    (flat : Flat items) (some : items ≠ []) (printable : pairsAll isPrintable items)
    (within : pairsWithinDigits limits.digits items) :
    ∃ bytes, (dumps asciiEscape limits.digits (.dict items)).bind encode = Option.some bytes ∧
      bytes.length = 1 + pairsSize items ∧
      ∃ t data, decodeAscii bytes = Option.some t ∧ data.Perm items ∧
        loads limits t = .ok (.dict data) := by
  have printable' : textsAll isPrintable (.dict items) := by rwa [textsAll]
  have dumped : dumps escape limits.digits (.dict items) =
      Option.some (print escape (sortKeys (.dict items))) := by
    rw [dumps, if_pos (by rwa [withinDigits])]
  obtain ⟨room, data, perm, loaded⟩ := dumps_flat deep flat some dumped
  have ascii : (print escape (sortKeys (.dict items))).all fun c => decide (c < 0x80) := by
    rw [print_all (fun c small => decide_eq_true small), textsAll_sortKeys]
    refine textsAll_mono (fun c plain => ?_) _ printable'
    have := of_decide_eq_true plain
    exact decide_eq_true (by omega)
  have scalar : (print escape (sortKeys (.dict items))).all isScalar := by
    refine text_mono (fun c small => ?_) ascii
    have := of_decide_eq_true small
    exact decide_eq_true (by omega)
  refine ⟨write (print escape (sortKeys (.dict items))), ?_, ?_, _, data,
    decodeAscii_write ascii, perm, loaded⟩
  · rw [dumps_printable printable', dumped, Option.bind_some, encode, if_pos scalar]
  · rw [write_length, room]

end JsonText
