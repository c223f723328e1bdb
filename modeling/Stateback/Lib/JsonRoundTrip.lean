import Stateback.Lib.JsonText
/-!
# Reading back what was printed

A printed value is scanned as itself, whatever stands after it, where its integers and its nesting
are within the scanner's limits and its objects name no key twice.
-/

namespace JsonText

open CodePoints Decimals

/-! ## Strings -/

theorem hexValue?_hexDigit {n : Nat} (small : n < 16) : hexValue? (hexDigit n) = some n := by
  have all : ∀ n : Fin 16, hexValue? (hexDigit n) = some n.val := by decide
  exact all ⟨n, small⟩

/-- The piece that an escaped character is read as. -/
def pieceOf (c : Nat) : Piece := ⟨c, decide (shortEscape? c = none ∧ c < 32)⟩

theorem shortEscape?_some {c letter : Nat} (short : shortEscape? c = some letter) :
    letter ≠ 117 ∧ unescape? letter = some c := by
  unfold shortEscape? at short
  split at short
  · cases short; subst_vars; decide
  split at short
  · cases short; subst_vars; decide
  split at short
  · cases short; subst_vars; decide
  split at short
  · cases short; subst_vars; decide
  split at short
  · cases short; subst_vars; decide
  split at short
  · cases short; subst_vars; decide
  split at short
  · cases short; subst_vars; decide
  cases short

theorem scanPieces_quote (rest : Text) : scanPieces (34 :: rest) = .ok ([], rest) := by
  rw [scanPieces.eq_def]
  rfl

theorem scanPieces_short {letter code : Nat} {rest : Text} (notU : letter ≠ 117)
    (back : unescape? letter = some code) :
    scanPieces (92 :: letter :: rest) = (scanPieces rest).cons ⟨code, false⟩ := by
  rw [scanPieces.eq_def]
  simp [notU, back]

theorem scanPieces_named {a b c d code : Nat} {rest : Text}
    (named : hexValue4? a b c d = some code) :
    scanPieces (92 :: 117 :: a :: b :: c :: d :: rest) = (scanPieces rest).cons ⟨code, true⟩ := by
  rw [scanPieces.eq_def]
  simp [named]

theorem scanPieces_plain {c : Nat} {rest : Text} (notQuote : c ≠ 34) (notBackslash : c ≠ 92)
    (printed : ¬ c < 32) : scanPieces (c :: rest) = (scanPieces rest).cons ⟨c, false⟩ := by
  rw [scanPieces.eq_def]
  simp [notQuote, notBackslash, printed]

theorem scanPieces_escape (c : Nat) (rest : Text) :
    scanPieces (escape c ++ rest) = (scanPieces rest).cons (pieceOf c) := by
  unfold escape pieceOf
  cases short : shortEscape? c with
  | some letter =>
    obtain ⟨notU, back⟩ := shortEscape?_some short
    exact scanPieces_short notU back
  | none =>
    simp only
    split
    case isTrue control =>
      have code : hexValue4? (hexDigit (c / 4096 % 16)) (hexDigit (c / 256 % 16))
          (hexDigit (c / 16 % 16)) (hexDigit (c % 16)) = some c := by
        unfold hexValue4?
        rw [hexValue?_hexDigit (Nat.mod_lt _ (by decide)),
          hexValue?_hexDigit (Nat.mod_lt _ (by decide)),
          hexValue?_hexDigit (Nat.mod_lt _ (by decide)),
          hexValue?_hexDigit (Nat.mod_lt _ (by decide))]
        simp only [bind, Option.bind, pure]
        congr 1
        omega
      rw [decide_eq_true ⟨trivial, control⟩]
      exact scanPieces_named code
    case isFalse plain =>
      have notQuote : c ≠ 34 := by
        rintro rfl
        cases short
      have notBackslash : c ≠ 92 := by
        rintro rfl
        cases short
      rw [decide_eq_false fun both => plain both.2]
      exact scanPieces_plain notQuote notBackslash plain

theorem scanPieces_flatMap (s rest : Text) :
    scanPieces (s.flatMap escape ++ 34 :: rest) = .ok (s.map pieceOf, rest) := by
  induction s with
  | nil => exact scanPieces_quote rest
  | cons c s ih =>
    rw [List.flatMap_cons, List.append_assoc, scanPieces_escape, ih]
    rfl

theorem joinPieces_apart {pieces : List Piece}
    (apart : ∀ piece ∈ pieces, piece.named → isHigh piece.code = false) :
    joinPieces pieces = pieces.map Piece.code := by
  fun_induction joinPieces pieces with
  | case1 => rfl
  | case2 => rfl
  | case3 high low rest pair ih =>
    have := apart high (by simp) pair.1
    rw [this] at pair
    exact absurd pair.2.1 (by decide)
  | case4 high low rest pair ih =>
    rw [ih fun piece member => apart piece (List.mem_cons_of_mem _ member)]
    rfl

theorem scanString_print (s rest : Text) :
    scanString (s.flatMap escape ++ 34 :: rest) = .ok (s, rest) := by
  have apart : ∀ piece ∈ s.map pieceOf, piece.named → isHigh piece.code = false := by
    intro piece member named
    obtain ⟨c, _, same⟩ := List.mem_map.mp member
    rw [← same] at named ⊢
    have control := (of_decide_eq_true named).2
    exact decide_eq_false (by simp only [pieceOf]; omega)
  have codes : (s.map pieceOf).map Piece.code = s := by
    rw [List.map_map]
    exact List.map_id s
  rw [scanString, scanPieces_flatMap]
  simp only [joinPieces_apart apart, codes]

/-! ## Numbers -/

/-- What may stand after a number. -/
def Stops (rest : Text) : Prop :=
  ∀ c ∈ rest.head?, isDigit c = false ∧ c ≠ 46 ∧ c ≠ 101 ∧ c ≠ 69

theorem takeWhile_digits {digits rest : Text} (all : digits.all isDigit) (stops : Stops rest) :
    (digits ++ rest).takeWhile isDigit = digits := by
  rw [List.takeWhile_append_of_pos (List.all_eq_true.mp all)]
  cases rest with
  | nil => simp
  | cons c rest =>
    have := (stops c rfl).1
    rw [List.takeWhile_cons_of_neg (by simp [this]), List.append_nil]

theorem wholePart_decimal (n : Nat) {rest : Text} (stops : Stops rest) :
    wholePart (decimal n ++ rest) = decimal n := by
  obtain ⟨c, tail, shape, digit, leading⟩ := decimal_head n
  have all := takeWhile_digits (decimal_digits n) stops
  rw [shape, List.cons_append] at all ⊢
  rw [wholePart]
  split
  case isTrue none => rw [leading none, none]
  case isFalse some => exact all

theorem scanUnsigned_decimal {limit n : Nat} {sign rest : Text}
    (within : (decimal n).length ≤ limit) (stops : Stops rest) :
    scanUnsigned limit sign (decimal n ++ rest) =
      .ok (.int (if sign = [] then n else -n), rest) := by
  have nonempty : decimal n ≠ [] := by
    obtain ⟨c, tail, shape, _⟩ := decimal_head n
    simp [shape]
  have noFraction : fraction rest = [] := by
    unfold fraction
    split
    · exact absurd rfl (stops 46 rfl).2.1
    · rfl
  have noExponent : exponent rest = [] := by
    cases rest with
    | nil => rfl
    | cons c rest =>
      obtain ⟨_, _, lower, upper⟩ := stops c rfl
      simp [exponent, lower, upper]
  unfold scanUnsigned
  simp only [wholePart_decimal n stops, List.drop_left, noFraction, List.length_nil, List.drop_zero,
    noExponent, if_neg nonempty, and_self, if_true, if_neg (Nat.not_lt.mpr within), value_decimal]

theorem scanNumber_print {limit : Nat} {i : Int} {rest : Text}
    (within : (decimal i.natAbs).length ≤ limit) (stops : Stops rest) :
    scanNumber limit (printInt i ++ rest) = .ok (.int i, rest) := by
  unfold printInt
  split
  case isTrue negative =>
    have same : -(i.natAbs : Int) = i := by omega
    rw [List.cons_append, scanNumber, scanUnsigned_decimal within stops, if_neg (by decide), same]
  case isFalse positive =>
    obtain ⟨c, tail, shape, digit, _⟩ := decimal_head i.natAbs
    have notSign : c ≠ 45 := by
      rintro rfl
      exact absurd digit (by decide)
    have unsigned : scanNumber limit (decimal i.natAbs ++ rest) =
        scanUnsigned limit [] (decimal i.natAbs ++ rest) := by
      rw [shape, List.cons_append]
      unfold scanNumber
      split
      case h_1 same => exact absurd (List.cons.inj same).1 notSign
      case h_2 => rfl
    have same : (i.natAbs : Int) = i := by omega
    rw [unsigned, scanUnsigned_decimal within stops, if_pos rfl, same]

theorem scanConstant_print (i : Int) (rest : Text) : scanConstant (printInt i ++ rest) = none := by
  obtain ⟨c, tail, shape, digit, _⟩ := decimal_head i.natAbs
  obtain ⟨lower, upper⟩ := of_decide_eq_true digit
  unfold printInt
  split <;>
  · rw [shape]
    simp [scanConstant, constants, nullText, trueText, falseText, nanText, infinityText,
      List.isPrefixOf]
    omega

/-! ## Values -/

mutual

/-- What the scanner reads back at a depth: integers and nesting within its limits, no float, and
no key twice. -/
def Fits (limit : Nat) : Nat → Value → Prop
  | _, .null | _, .bool _ | _, .str _ => True
  | _, .int i => (decimal i.natAbs).length ≤ limit
  | _, .float _ => False
  | depth, .list items => 0 < depth ∧ ItemsFit limit (depth - 1) items
  | depth, .dict items =>
    0 < depth ∧ (items.map Prod.fst).Nodup ∧ PairsFit limit (depth - 1) items

def ItemsFit (limit : Nat) : Nat → List Value → Prop
  | _, [] => True
  | depth, item :: rest => Fits limit depth item ∧ ItemsFit limit depth rest

def PairsFit (limit : Nat) : Nat → List (Text × Value) → Prop
  | _, [] => True
  | depth, (_, item) :: rest => Fits limit depth item ∧ PairsFit limit depth rest

end

/-- What is nested in a value, where nesting is still allowed. -/
def nested (limit : Nat) : Nat → Option (Text → Scan Value)
  | 0 => none
  | depth + 1 => some (scanOnce limit depth)

theorem scanOnce_eq (limit depth : Nat) :
    scanOnce limit depth = scanWith limit (nested limit depth) := by
  cases depth <;> rfl

theorem scanWith_number {limit c : Nat} {inside : Option (Text → Scan Value)} {rest : Text}
    (notQuote : c ≠ 34) (notBrace : c ≠ 123) (notBracket : c ≠ 91)
    (notConstant : scanConstant (c :: rest) = none) :
    scanWith limit inside (c :: rest) = scanNumber limit (c :: rest) := by
  unfold scanWith
  simp only [if_neg notQuote, if_neg notBrace, if_neg notBracket, notConstant]

theorem scanWith_quote {limit : Nat} {inside : Option (Text → Scan Value)} {rest rest' s : Text}
    (scanned : scanString rest = .ok (s, rest')) :
    scanWith limit inside (34 :: rest) = .ok (.str s, rest') := by
  unfold scanWith
  simp only [if_true, scanned]

theorem skip_cons {c : Nat} {rest : Text} (solid : isSpace c = false) :
    skip (c :: rest) = c :: rest :=
  List.dropWhile_cons_of_neg (by simp [solid])

/-- A printed value starts with a character of its own. -/
theorem print_head {limit depth : Nat} {v : Value} (fits : Fits limit depth v) :
    ∃ c rest, print escape v = c :: rest ∧ isSpace c = false ∧ c ≠ 93 ∧ c ≠ byteOrderMark := by
  cases v with
  | null => exact ⟨_, _, by rw [print, nullText], by decide, by decide, by decide⟩
  | bool b =>
    cases b
    · exact ⟨102, _, by rw [print]; rfl, by decide, by decide, by decide⟩
    · exact ⟨116, _, by rw [print]; rfl, by decide, by decide, by decide⟩
  | int i =>
    obtain ⟨c, tail, shape, digit, _⟩ := decimal_head i.natAbs
    obtain ⟨lower, upper⟩ := of_decide_eq_true digit
    rw [print, printInt]
    split
    · exact ⟨45, _, rfl, by decide, by decide, by decide⟩
    · exact ⟨c, tail, shape, decide_eq_false (by omega), by omega, by unfold byteOrderMark; omega⟩
  | float written => rw [Fits] at fits; exact fits.elim
  | str s => exact ⟨34, _, by rw [print, printString], by decide, by decide, by decide⟩
  | list items =>
    cases items with
    | nil => exact ⟨91, _, by rw [print], by decide, by decide, by decide⟩
    | cons item rest => exact ⟨91, _, by rw [print], by decide, by decide, by decide⟩
  | dict items =>
    cases items with
    | nil => exact ⟨123, _, by rw [print], by decide, by decide, by decide⟩
    | cons pair rest =>
      obtain ⟨key, item⟩ := pair
      exact ⟨123, _, by rw [print], by decide, by decide, by decide⟩

theorem stops_cons {c : Nat} {rest : Text}
    (other : isDigit c = false ∧ c ≠ 46 ∧ c ≠ 101 ∧ c ≠ 69) : Stops (c :: rest) := by
  intro head same
  cases same
  exact other

theorem foldl_put {done items : List (Text × Value)}
    (distinct : ((done ++ items).map Prod.fst).Nodup) :
    items.foldl put done = done ++ items := by
  induction items generalizing done with
  | nil => simp
  | cons pair rest ih =>
    have fresh : pair.1 ∉ done.map Prod.fst := by
      rw [List.map_append, List.map_cons] at distinct
      intro member
      exact (List.nodup_append.mp distinct).2.2 _ member _ (by simp) rfl
    rw [List.foldl_cons, put, if_neg fresh, ih (by simpa using distinct)]
    simp

theorem scanString_quoted (s rest : Text) :
    scanString ((printString escape s).tail ++ rest) = .ok (s, rest) := by
  rw [printString, List.tail_cons, List.append_assoc, List.singleton_append, scanString_print]

/-- Reads back an item wherever it is printed. -/
def Reads (scan : Text → Scan Value) (item : Value) : Prop :=
  ∀ rest, Stops rest → scan (print escape item ++ rest) = .ok (item, rest)

theorem scanItems_last {scan : Text → Scan Value} {item : Value} {fuel : Nat}
    (reads : Reads scan item) (rest : Text) :
    scanItems scan (fuel + 1) (print escape item ++ (printItems escape [] ++ rest)) =
      .ok ([item], rest) := by
  rw [printItems, List.singleton_append, scanItems,
    reads (93 :: rest) (stops_cons (by decide))]
  simp only [skip_cons (show isSpace 93 = false by decide), if_true]

theorem scanItems_next {scan : Text → Scan Value} {item next : Value} {items : List Value}
    {fuel : Nat} {rest : Text} (reads : Reads scan item)
    (solid : skip (print escape next ++ (printItems escape items ++ rest)) =
      print escape next ++ (printItems escape items ++ rest))
    (tail : scanItems scan fuel (print escape next ++ (printItems escape items ++ rest)) =
      .ok (next :: items, rest)) :
    scanItems scan (fuel + 1) (print escape item ++ (printItems escape (next :: items) ++ rest)) =
      .ok (item :: next :: items, rest) := by
  rw [printItems, List.cons_append, List.append_assoc, scanItems,
    reads (44 :: _) (stops_cons (by decide))]
  simp only [skip_cons (show isSpace 44 = false by decide), solid, tail]
  rfl

theorem scanPair_print {scan : Text → Scan Value} {key : Text} {item : Value}
    (reads : Reads scan item)
    (solid : ∀ rest, skip (print escape item ++ rest) = print escape item ++ rest) {rest : Text}
    (stops : Stops rest) :
    scanPair scan (printString escape key ++ (58 :: (print escape item ++ rest))) =
      .ok ((key, item), rest) := by
  have quoted := scanString_quoted key (58 :: (print escape item ++ rest))
  rw [printString, List.tail_cons] at quoted
  rw [printString, List.cons_append, scanPair, if_pos rfl, quoted]
  simp only [skip_cons (show isSpace 58 = false by decide), if_true, solid, reads rest stops]

theorem scanPairs_last {scan : Text → Scan Value} {key : Text} {item : Value} {fuel : Nat}
    (reads : Reads scan item)
    (solid : ∀ rest, skip (print escape item ++ rest) = print escape item ++ rest) (rest : Text) :
    scanPairs scan (fuel + 1)
        (printString escape key ++ (58 :: (print escape item ++ (printPairs escape [] ++ rest)))) =
      .ok ([(key, item)], rest) := by
  rw [printPairs, List.singleton_append, scanPairs,
    scanPair_print reads solid (stops_cons (by decide))]
  simp only [skip_cons (show isSpace 125 = false by decide), if_true]

theorem scanPairs_next {scan : Text → Scan Value} {key key' : Text} {item next : Value}
    {items : List (Text × Value)} {fuel : Nat} {rest : Text} (reads : Reads scan item)
    (solid : ∀ rest, skip (print escape item ++ rest) = print escape item ++ rest)
    (tail : scanPairs scan fuel (printString escape key' ++
        (58 :: (print escape next ++ (printPairs escape items ++ rest)))) =
      .ok ((key', next) :: items, rest)) :
    scanPairs scan (fuel + 1) (printString escape key ++
        (58 :: (print escape item ++ (printPairs escape ((key', next) :: items) ++ rest)))) =
      .ok ((key, item) :: (key', next) :: items, rest) := by
  have quote : skip (printString escape key' ++
      (58 :: (print escape next ++ (printPairs escape items ++ rest)))) =
      printString escape key' ++
        (58 :: (print escape next ++ (printPairs escape items ++ rest))) :=
    skip_cons (by decide)
  rw [printPairs]
  simp only [List.cons_append, List.append_assoc]
  rw [scanPairs, scanPair_print reads solid (stops_cons (by decide))]
  simp only [skip_cons (show isSpace 44 = false by decide), quote, tail]
  rfl

theorem skip_print {limit depth : Nat} {v : Value} (fits : Fits limit depth v) (rest : Text) :
    skip (print escape v ++ rest) = print escape v ++ rest := by
  obtain ⟨c, tail, shape, solid, _⟩ := print_head fits
  rw [shape, List.cons_append]
  exact skip_cons solid

theorem printItems_length (items : List Value) :
    items.length < (printItems escape items).length := by
  induction items with
  | nil => rw [printItems]; decide
  | cons item items ih =>
    rw [printItems]
    simp only [List.length_cons, List.length_append]
    omega

theorem printPairs_length (items : List (Text × Value)) :
    items.length < (printPairs escape items).length := by
  induction items with
  | nil => rw [printPairs]; decide
  | cons pair items ih =>
    obtain ⟨key, item⟩ := pair
    rw [printPairs]
    simp only [List.length_cons, List.length_append]
    omega

/-- An array whose items are scanned is scanned; the text is fuel enough. -/
theorem scanArray_print {limit depth : Nat} {item : Value} {items : List Value} {rest : Text}
    (fits : Fits limit depth item)
    (scanned : ∀ fuel rest, items.length < fuel → scanItems (scanOnce limit depth) fuel
      (print escape item ++ (printItems escape items ++ rest)) = .ok (item :: items, rest)) :
    scanOnce limit (depth + 1) (91 :: (print escape item ++ (printItems escape items ++ rest))) =
      .ok (.list (item :: items), rest) := by
  obtain ⟨c, tail, shape, solid, notEnd, _⟩ := print_head fits
  have enough : items.length <
      (print escape item ++ (printItems escape items ++ rest)).length := by
    have := printItems_length items
    simp only [List.length_append]
    omega
  have loop := scanned _ rest enough
  have skipped := skip_print fits (printItems escape items ++ rest)
  rw [shape, List.cons_append] at loop skipped ⊢
  rw [scanOnce, scanWith, if_neg (by decide), if_neg (by decide), if_pos rfl]
  simp only [scanArray, skipped, if_neg notEnd, loop]

theorem scanObject_print {limit depth : Nat} {key : Text} {item : Value}
    {items : List (Text × Value)} {rest : Text}
    (distinct : (((key, item) :: items).map Prod.fst).Nodup)
    (scanned : ∀ fuel rest, items.length < fuel → scanPairs (scanOnce limit depth) fuel
      (printString escape key ++ (58 :: (print escape item ++ (printPairs escape items ++ rest)))) =
        .ok ((key, item) :: items, rest)) :
    scanOnce limit (depth + 1) (123 :: (printString escape key ++
        (58 :: (print escape item ++ (printPairs escape items ++ rest))))) =
      .ok (.dict ((key, item) :: items), rest) := by
  have enough : items.length < (printString escape key ++
      (58 :: (print escape item ++ (printPairs escape items ++ rest)))).length := by
    have := printPairs_length items
    simp only [List.length_append, List.length_cons]
    omega
  have loop := scanned _ rest enough
  have kept : ((key, item) :: items).foldl put [] = (key, item) :: items :=
    foldl_put (by simpa using distinct)
  rw [printString, List.cons_append] at loop ⊢
  rw [scanOnce, scanWith, if_neg (by decide), if_pos rfl]
  simp only [scanObject, skip_cons (show isSpace 34 = false by decide),
    if_neg (show ¬ 34 = 125 by decide), loop, kept]

mutual

/-- Induction on the value; the lists of an array and of an object are followed item by item. -/
theorem scanOnce_print (limit : Nat) : ∀ (v : Value) (depth : Nat), Fits limit depth v →
    Reads (scanOnce limit depth) v
  | .null, depth, _, rest, _ => by
    rw [scanOnce_eq, print]
    rfl
  | .bool b, depth, _, rest, _ => by
    rw [scanOnce_eq, print]
    cases b <;> rfl
  | .int i, depth, fits, rest, stops => by
    rw [Fits] at fits
    obtain ⟨c, tail, shape, digit, _⟩ := decimal_head i.natAbs
    obtain ⟨lower, upper⟩ := of_decide_eq_true digit
    have head : ∃ c' tail', printInt i ++ rest = c' :: tail' ∧ c' ≠ 34 ∧ c' ≠ 123 ∧ c' ≠ 91 := by
      unfold printInt
      split
      · exact ⟨45, _, rfl, by decide, by decide, by decide⟩
      · exact ⟨c, tail ++ rest, by rw [shape]; rfl, by omega, by omega, by omega⟩
    obtain ⟨c', tail', start, notQuote, notBrace, notBracket⟩ := head
    have notConstant := scanConstant_print i rest
    rw [start] at notConstant
    rw [scanOnce_eq, print, start, scanWith_number notQuote notBrace notBracket notConstant,
      ← start]
    exact scanNumber_print fits stops
  | .float _, depth, fits, rest, _ => by
    rw [Fits] at fits
    exact fits.elim
  | .str s, depth, _, rest, _ => by
    have quoted := scanString_quoted s rest
    rw [printString, List.tail_cons] at quoted
    rw [scanOnce_eq, print, printString, List.cons_append, scanWith_quote quoted]
  | .list [], depth, fits, rest, _ => by
    rw [Fits] at fits
    cases depth with
    | zero => omega
    | succ depth =>
      rw [scanOnce_eq, print]
      rfl
  | .list (item :: items), depth, fits, rest, _ => by
    rw [Fits, ItemsFit] at fits
    cases depth with
    | zero => omega
    | succ depth =>
      obtain ⟨_, itemFits, itemsFit⟩ := fits
      have scanned := scanItems_print limit items depth itemsFit item itemFits
        (scanOnce_print limit item depth itemFits)
      rw [print, List.cons_append, List.append_assoc]
      exact scanArray_print itemFits scanned
  | .dict [], depth, fits, rest, _ => by
    rw [Fits] at fits
    cases depth with
    | zero => omega
    | succ depth =>
      rw [scanOnce_eq, print]
      rfl
  | .dict ((key, item) :: items), depth, fits, rest, _ => by
    rw [Fits, PairsFit] at fits
    cases depth with
    | zero => omega
    | succ depth =>
      obtain ⟨_, distinct, itemFits, itemsFit⟩ := fits
      have scanned := scanPairs_print limit items depth itemsFit key item itemFits
        (scanOnce_print limit item depth itemFits)
      rw [print]
      simp only [List.cons_append, List.append_assoc]
      exact scanObject_print distinct scanned

theorem scanItems_print (limit : Nat) : ∀ (items : List Value) (depth : Nat),
    ItemsFit limit depth items → ∀ item, Fits limit depth item →
      Reads (scanOnce limit depth) item → ∀ fuel rest, items.length < fuel →
        scanItems (scanOnce limit depth) fuel
          (print escape item ++ (printItems escape items ++ rest)) = .ok (item :: items, rest)
  | _, _, _, _, _, _, 0, _, few => by omega
  | [], depth, _, item, _, reads, fuel + 1, rest, _ => scanItems_last reads rest
  | next :: items, depth, fits, item, _, reads, fuel + 1, rest, few => by
    rw [ItemsFit] at fits
    exact scanItems_next reads (skip_print fits.1 _)
      (scanItems_print limit items depth fits.2 next fits.1
        (scanOnce_print limit next depth fits.1) fuel rest (Nat.lt_of_succ_lt_succ few))

theorem scanPairs_print (limit : Nat) : ∀ (items : List (Text × Value)) (depth : Nat),
    PairsFit limit depth items → ∀ key item, Fits limit depth item →
      Reads (scanOnce limit depth) item → ∀ fuel rest, items.length < fuel →
        scanPairs (scanOnce limit depth) fuel (printString escape key ++
          (58 :: (print escape item ++ (printPairs escape items ++ rest)))) =
            .ok ((key, item) :: items, rest)
  | _, _, _, _, _, _, _, 0, _, few => by omega
  | [], depth, _, key, item, fits, reads, fuel + 1, rest, _ =>
    scanPairs_last reads (skip_print fits) rest
  | (key', next) :: items, depth, fits', key, item, fits, reads, fuel + 1, rest, few => by
    rw [PairsFit] at fits'
    exact scanPairs_next reads (skip_print fits)
      (scanPairs_print limit items depth fits'.2 key' next fits'.1
        (scanOnce_print limit next depth fits'.1) fuel rest (Nat.lt_of_succ_lt_succ few))

end

/-! ## Sorted keys -/

theorem pairsFit_iff {limit depth : Nat} {items : List (Text × Value)} :
    PairsFit limit depth items ↔ ∀ pair ∈ items, Fits limit depth pair.2 := by
  induction items with
  | nil => simp [PairsFit]
  | cons pair rest ih =>
    obtain ⟨key, item⟩ := pair
    rw [PairsFit, ih, List.forall_mem_cons]

theorem sortPairs_keys (items : List (Text × Value)) :
    (sortPairs items).map Prod.fst = items.map Prod.fst := by
  induction items with
  | nil => rfl
  | cons pair rest ih =>
    obtain ⟨key, item⟩ := pair
    rw [sortPairs, List.map_cons, ih, List.map_cons]

mutual

theorem fits_sortKeys (limit : Nat) : ∀ (v : Value) (depth : Nat), Fits limit depth v →
    Fits limit depth (sortKeys v)
  | .null, _, fits | .bool _, _, fits | .int _, _, fits | .float _, _, fits
  | .str _, _, fits => fits
  | .list items, depth, fits => by
    rw [Fits] at fits
    rw [sortKeys, Fits]
    exact ⟨fits.1, itemsFit_sort limit items (depth - 1) fits.2⟩
  | .dict items, depth, fits => by
    rw [Fits] at fits
    have sorted := List.perm_insertionSort
      (fun a b : Text × Value => precedes a.1 b.1 = true) (sortPairs items)
    rw [sortKeys, Fits]
    refine ⟨fits.1, ?_, ?_⟩
    · rw [(sorted.map Prod.fst).nodup_iff, sortPairs_keys]
      exact fits.2.1
    · rw [pairsFit_iff]
      exact fun pair member => pairsFit_iff.mp (pairsFit_sort limit items (depth - 1) fits.2.2) pair
        (sorted.mem_iff.mp member)

theorem itemsFit_sort (limit : Nat) : ∀ (items : List Value) (depth : Nat),
    ItemsFit limit depth items → ItemsFit limit depth (sortItems items)
  | [], _, fits => fits
  | item :: rest, depth, fits => by
    rw [ItemsFit] at fits
    rw [sortItems, ItemsFit]
    exact ⟨fits_sortKeys limit item depth fits.1, itemsFit_sort limit rest depth fits.2⟩

theorem pairsFit_sort (limit : Nat) : ∀ (items : List (Text × Value)) (depth : Nat),
    PairsFit limit depth items → PairsFit limit depth (sortPairs items)
  | [], _, fits => fits
  | (key, item) :: rest, depth, fits => by
    rw [PairsFit] at fits
    rw [sortPairs, PairsFit]
    exact ⟨fits_sortKeys limit item depth fits.1, pairsFit_sort limit rest depth fits.2⟩

end

theorem loads_print {limits : Limits} {v : Value} (fits : Fits limits.digits limits.depth v) :
    loads limits (print escape v) = .ok v := by
  obtain ⟨c, tail, shape, solid, _, notMark⟩ := print_head fits
  have whole := scanOnce_print limits.digits v limits.depth fits [] (by simp [Stops])
  rw [List.append_nil] at whole
  have skipped := skip_print fits []
  rw [List.append_nil] at skipped
  have head : (print escape v).head? ≠ some byteOrderMark := by
    rw [shape, List.head?_cons]
    exact fun same => notMark (Option.some.inj same)
  rw [loads, if_neg head, skipped, whole]
  rfl

mutual

/-- No float, and no key twice. -/
def Clean : Value → Prop
  | .null | .bool _ | .str _ | .int _ => True
  | .float _ => False
  | .list items => ItemsClean items
  | .dict items => (items.map Prod.fst).Nodup ∧ PairsClean items

def ItemsClean : List Value → Prop
  | [] => True
  | item :: rest => Clean item ∧ ItemsClean rest

def PairsClean : List (Text × Value) → Prop
  | [] => True
  | (_, item) :: rest => Clean item ∧ PairsClean rest

end

mutual

def depthOf : Value → Nat
  | .list items => 1 + itemsDepth items
  | .dict items => 1 + pairsDepth items
  | .null | .bool _ | .int _ | .float _ | .str _ => 0

def itemsDepth : List Value → Nat
  | [] => 0
  | item :: rest => max (depthOf item) (itemsDepth rest)

def pairsDepth : List (Text × Value) → Nat
  | [] => 0
  | (_, item) :: rest => max (depthOf item) (pairsDepth rest)

end

mutual

theorem fits_of_clean (limit : Nat) : ∀ (v : Value) (depth : Nat), Clean v →
    withinDigits limit v → depthOf v ≤ depth → Fits limit depth v
  | .null, _, _, _, _ | .bool _, _, _, _, _ | .str _, _, _, _, _ => by simp [Fits]
  | .int i, _, _, within, _ => by
    rw [withinDigits] at within
    rw [Fits]
    exact of_decide_eq_true within
  | .float _, _, clean, _, _ => by
    rw [Clean] at clean
    exact clean.elim
  | .list items, depth, clean, within, shallow => by
    rw [Clean] at clean
    rw [withinDigits] at within
    rw [depthOf] at shallow
    rw [Fits]
    exact ⟨by omega, itemsFit_of_clean limit items (depth - 1) clean within (by omega)⟩
  | .dict items, depth, clean, within, shallow => by
    rw [Clean] at clean
    rw [withinDigits] at within
    rw [depthOf] at shallow
    rw [Fits]
    exact ⟨by omega, clean.1, pairsFit_of_clean limit items (depth - 1) clean.2 within (by omega)⟩

theorem itemsFit_of_clean (limit : Nat) : ∀ (items : List Value) (depth : Nat), ItemsClean items →
    itemsWithinDigits limit items → itemsDepth items ≤ depth → ItemsFit limit depth items
  | [], _, _, _, _ => by simp [ItemsFit]
  | item :: rest, depth, clean, within, shallow => by
    rw [ItemsClean] at clean
    rw [itemsWithinDigits, Bool.and_eq_true] at within
    rw [itemsDepth] at shallow
    rw [ItemsFit]
    exact ⟨fits_of_clean limit item depth clean.1 within.1 (by omega),
      itemsFit_of_clean limit rest depth clean.2 within.2 (by omega)⟩

theorem pairsFit_of_clean (limit : Nat) : ∀ (items : List (Text × Value)) (depth : Nat),
    PairsClean items → pairsWithinDigits limit items → pairsDepth items ≤ depth →
      PairsFit limit depth items
  | [], _, _, _, _ => by simp [PairsFit]
  | (key, item) :: rest, depth, clean, within, shallow => by
    rw [PairsClean] at clean
    rw [pairsWithinDigits, Bool.and_eq_true] at within
    rw [pairsDepth] at shallow
    rw [PairsFit]
    exact ⟨fits_of_clean limit item depth clean.1 within.1 (by omega),
      pairsFit_of_clean limit rest depth clean.2 within.2 (by omega)⟩

end

/-- Values that dump to one text are one value, up to the order of keys. -/
theorem dumps_injective {limit : Nat} {v w : Value} {t : Text} (clean : Clean v) (clean' : Clean w)
    (dumped : dumps escape limit v = some t) (dumped' : dumps escape limit w = some t) :
    sortKeys v = sortKeys w := by
  unfold dumps at dumped dumped'
  split at dumped
  case isFalse => cases dumped
  case isTrue within =>
    split at dumped'
    case isFalse => cases dumped'
    case isTrue within' =>
      have fits := fits_sortKeys limit v (max (depthOf v) (depthOf w))
        (fits_of_clean limit v _ clean within (Nat.le_max_left _ _))
      have fits' := fits_sortKeys limit w (max (depthOf v) (depthOf w))
        (fits_of_clean limit w _ clean' within' (Nat.le_max_right _ _))
      have read := @loads_print ⟨limit, max (depthOf v) (depthOf w)⟩ _ fits
      have read' := @loads_print ⟨limit, max (depthOf v) (depthOf w)⟩ _ fits'
      rw [Option.some.inj dumped] at read
      rw [Option.some.inj dumped'] at read'
      exact Except.ok.inj (read.symm.trans read')

/-! ## The order of keys -/

instance keyOrder_total : Std.Total fun a b : Text × Value => precedes a.1 b.1 = true :=
  ⟨fun a b => precedes_total a.1 b.1⟩

instance keyOrder_trans : IsTrans (Text × Value) fun a b => precedes a.1 b.1 = true :=
  ⟨fun _ _ _ first second => precedes_trans first second⟩

/-- Pairs of one order of keys, each key once, are one list. -/
theorem sorted_perm {items items' : List (Text × Value)} (distinct : (items.map Prod.fst).Nodup)
    (perm : items.Perm items') :
    items.insertionSort (fun a b => precedes a.1 b.1 = true) =
      items'.insertionSort fun a b => precedes a.1 b.1 = true := by
  have sorted := List.perm_insertionSort (fun a b : Text × Value => precedes a.1 b.1 = true) items
  have sorted' := List.perm_insertionSort (fun a b : Text × Value => precedes a.1 b.1 = true) items'
  refine List.Perm.eq_of_pairwise ?_ (List.pairwise_insertionSort _ _)
    (List.pairwise_insertionSort _ _) ((sorted.trans perm).trans sorted'.symm)
  intro a b left right le ge
  have here := sorted.mem_iff.mp left
  have there := perm.mem_iff.mpr (sorted'.mem_iff.mp right)
  exact List.inj_on_of_nodup_map distinct here there (precedes_antisymm le ge)

theorem sortItems_eq (items : List Value) : sortItems items = items.map sortKeys := by
  induction items with
  | nil => rfl
  | cons item rest ih => rw [sortItems, ih, List.map_cons]

theorem sortPairs_eq (items : List (Text × Value)) :
    sortPairs items = items.map fun pair => (pair.1, sortKeys pair.2) := by
  induction items with
  | nil => rfl
  | cons pair rest ih =>
    obtain ⟨key, item⟩ := pair
    rw [sortPairs, ih, List.map_cons]

theorem sortPairs_perm {items items' : List (Text × Value)} (perm : items.Perm items') :
    (sortPairs items).Perm (sortPairs items') := by
  rw [sortPairs_eq, sortPairs_eq]
  exact perm.map _

theorem itemsWithinDigits_eq (limit : Nat) (items : List Value) :
    itemsWithinDigits limit items = items.all (withinDigits limit) := by
  induction items with
  | nil => rfl
  | cons item rest ih => rw [itemsWithinDigits, ih, List.all_cons]

theorem pairsWithinDigits_eq (limit : Nat) (items : List (Text × Value)) :
    pairsWithinDigits limit items = items.all fun pair => withinDigits limit pair.2 := by
  induction items with
  | nil => rfl
  | cons pair rest ih =>
    obtain ⟨key, item⟩ := pair
    rw [pairsWithinDigits, ih, List.all_cons]

theorem sortKeys_perm {items items' : List (Text × Value)} (distinct : (items.map Prod.fst).Nodup)
    (perm : items.Perm items') : sortKeys (.dict items) = sortKeys (.dict items') := by
  rw [sortKeys, sortKeys, sorted_perm (by rwa [sortPairs_keys]) (sortPairs_perm perm)]

end JsonText
