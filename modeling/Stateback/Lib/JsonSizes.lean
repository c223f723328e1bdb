import Stateback.Lib.JsonRoundTrip
/-!
# What is read, printed again

A value that was scanned takes no more room printed than the text it was read from: escapes only
get shorter, spaces and repeated keys are gone.  Its integers are within the limit they were read
under, and an object that was read has every key once.
-/

namespace JsonText

open CodePoints Decimals

/-! ## Strings -/

theorem width_pos (c : Nat) : 1 ≤ width c := by
  unfold width
  split
  · omega
  split
  · omega
  split <;> omega

theorem width_le (c : Nat) : width c ≤ 4 := by
  unfold width
  split
  · omega
  split
  · omega
  split <;> omega

theorem size_skip (t : Text) : size (skip t) ≤ size t := by
  induction t with
  | nil => exact Nat.le_refl _
  | cons c t ih =>
    rw [skip, List.dropWhile_cons]
    split
    · have := size_cons c t
      rw [skip] at ih
      omega
    · exact Nat.le_refl _

theorem size_digits {t : Text} (digits : t.all isDigit) : size t = t.length := by
  induction t with
  | nil => rfl
  | cons c t ih =>
    rw [List.all_cons, Bool.and_eq_true] at digits
    have small := (of_decide_eq_true digits.1).2
    have one : width c = 1 := if_pos (by omega)
    rw [size_cons, ih digits.2, one, List.length_cons, Nat.add_comm]

theorem shortEscape?_ascii {c letter : Nat} (short : shortEscape? c = some letter) :
    letter < 128 ∧ c < 128 := by
  unfold shortEscape? at short
  split at short
  · cases short; subst_vars; decide
  split at short
  · cases short; subst_vars; decide
  split at short
  · cases short; subst_vars; decide
  split at short
  · cases short; subst_vars; decide
  split at short
  · cases short; subst_vars; decide
  split at short
  · cases short; subst_vars; decide
  split at short
  · cases short; subst_vars; decide
  cases short

theorem size_hexDigit (n : Nat) : width (hexDigit (n % 16)) = 1 := by
  have small := Nat.mod_lt n (show 0 < 16 by decide)
  unfold hexDigit
  split
  · exact if_pos (by omega)
  · exact if_pos (by omega)

theorem size_unicodeEscape (c : Nat) : size (unicodeEscape c) = 6 := by
  unfold unicodeEscape
  rw [size_cons, size_cons, size_cons, size_cons, size_cons, size_cons, size_hexDigit,
    size_hexDigit, size_hexDigit, size_hexDigit]
  rfl

theorem size_escape_le (c : Nat) : size (escape c) ≤ 6 := by
  unfold escape
  split
  case h_1 letter short =>
    have one : width letter = 1 := if_pos (shortEscape?_ascii short).1
    rw [size_cons, size_cons, one]
    decide
  case h_2 =>
    split
    · exact Nat.le_of_eq (size_unicodeEscape c)
    · have := width_le c
      rw [size_cons]
      exact Nat.le_trans (Nat.add_le_add_right this _) (by decide)

/-- What a piece takes at least where it is read, and at most where it is printed again. -/
def Piece.cost (piece : Piece) : Nat := if piece.named then 6 else size (escape piece.code)

def piecesCost (pieces : List Piece) : Nat := (pieces.map Piece.cost).sum

theorem piecesCost_cons (piece : Piece) (pieces : List Piece) :
    piecesCost (piece :: pieces) = piece.cost + piecesCost pieces := by
  simp [piecesCost]

theorem cons_ok {α : Type} {head : α} {r : Scan (List α)} {all : List α} {rest : Text}
    (read : r.cons head = .ok (all, rest)) : ∃ tail, r = .ok (tail, rest) ∧ all = head :: tail := by
  cases r with
  | error e => cases read
  | ok found =>
    obtain ⟨tail, rest'⟩ := found
    cases read
    exact ⟨tail, rfl, rfl⟩

theorem cons_error {α : Type} {head : α} {r : Scan (List α)} {e : Failure}
    (failed : r.cons head = .error e) : r = .error e := by
  cases r with
  | error e' => cases failed; rfl
  | ok found => cases failed

theorem escape_plain {c : Nat} (notQuote : c ≠ 34) (notBackslash : c ≠ 92) (printed : ¬ c < 32) :
    escape c = [c] := by
  have long : shortEscape? c = none := by
    unfold shortEscape?
    rw [if_neg notQuote, if_neg notBackslash, if_neg (by omega), if_neg (by omega),
      if_neg (by omega), if_neg (by omega), if_neg (by omega)]
  simp only [escape, long, if_neg printed]

theorem unescape?_size {letter c : Nat} (back : unescape? letter = some c) :
    size (escape c) ≤ 2 := by
  unfold unescape? at back
  split at back
  · cases back; decide
  split at back
  · cases back; decide
  split at back
  · cases back; decide
  split at back
  · cases back; decide
  split at back
  · cases back; decide
  split at back
  · cases back; decide
  split at back
  · cases back; decide
  split at back
  · cases back; decide
  cases back

theorem scanPieces_size (t : Text) : ∀ pieces rest, scanPieces t = .ok (pieces, rest) →
    piecesCost pieces + 1 + size rest ≤ size t := by
  fun_induction scanPieces t with
  | case1 | case3 | case5 | case6 | case8 | case9 => exact fun _ _ read => by cases read
  | case2 rest =>
    intro pieces rest' read
    cases read
    have quote : width 34 = 1 := rfl
    rw [size_cons, quote]
    exact Nat.le_of_eq (by simp [piecesCost])
  | case4 a b c d rest code named notQuote ih =>
    intro pieces rest' read
    obtain ⟨tail, readTail, same⟩ := cons_ok read
    have := ih tail rest' readTail
    have := width_pos a
    have := width_pos b
    have := width_pos c
    have := width_pos d
    have escaped : width 92 = 1 ∧ width 117 = 1 := ⟨rfl, rfl⟩
    have taken : (Piece.mk code true).cost = 6 := rfl
    rw [same, piecesCost_cons, taken, size_cons, size_cons, size_cons, size_cons, size_cons,
      size_cons, escaped.1, escaped.2]
    omega
  | case7 letter rest notU code back notQuote ih =>
    intro pieces rest' read
    obtain ⟨tail, readTail, same⟩ := cons_ok read
    have := ih tail rest' readTail
    have := width_pos letter
    have := unescape?_size back
    have escaped : width 92 = 1 := rfl
    have taken : (Piece.mk code false).cost = size (escape code) := rfl
    rw [same, piecesCost_cons, taken, size_cons, size_cons, escaped]
    omega
  | case10 c rest notQuote notBackslash printed ih =>
    intro pieces rest' read
    obtain ⟨tail, readTail, same⟩ := cons_ok read
    have := ih tail rest' readTail
    have taken : (Piece.mk c false).cost = width c := by
      have : (Piece.mk c false).cost = size (escape c) := rfl
      rw [this, escape_plain notQuote notBackslash printed, size_cons]
      rfl
    rw [same, piecesCost_cons, taken, size_cons]
    omega

theorem scanPieces_unmet (t : Text) : ∀ e, scanPieces t = .error e → e = .decode := by
  fun_induction scanPieces t with
  | case1 | case3 | case5 | case6 | case8 | case9 => exact fun _ failed => by cases failed; rfl
  | case2 => exact fun _ failed => by cases failed
  | case4 a b c d rest code named notQuote ih => exact fun e failed => ih e (cons_error failed)
  | case7 letter rest notU code back notQuote ih => exact fun e failed => ih e (cons_error failed)
  | case10 c rest notQuote notBackslash printed ih => exact fun e failed => ih e (cons_error failed)

theorem joinPieces_size (pieces : List Piece) :
    size ((joinPieces pieces).flatMap escape) ≤ piecesCost pieces := by
  have named_le : ∀ piece : Piece, size (escape piece.code) ≤ piece.cost := by
    intro piece
    unfold Piece.cost
    split
    · exact size_escape_le _
    · exact Nat.le_refl _
  fun_induction joinPieces pieces with
  | case1 => exact Nat.le_refl _
  | case2 piece =>
    have := named_le piece
    simpa [piecesCost] using this
  | case3 high low rest pair ih =>
    have := size_escape_le (0x10000 + (high.code - 0xD800) * 1024 + (low.code - 0xDC00))
    have first : high.cost = 6 := if_pos pair.1
    rw [List.flatMap_cons, size_append, piecesCost_cons, piecesCost_cons, first]
    omega
  | case4 high low rest pair ih =>
    have := named_le high
    rw [List.flatMap_cons, size_append, piecesCost_cons]
    omega

theorem scanString_size {t s rest : Text} (read : scanString t = .ok (s, rest)) :
    size (printString escape s) + size rest ≤ size t + 1 := by
  unfold scanString at read
  cases scanned : scanPieces t with
  | error e => rw [scanned] at read; cases read
  | ok found =>
    obtain ⟨pieces, rest'⟩ := found
    rw [scanned] at read
    cases read
    have taken := scanPieces_size t pieces rest scanned
    have joined := joinPieces_size pieces
    have quotes : size [34] = 1 ∧ width 34 = 1 := ⟨rfl, rfl⟩
    rw [printString, size_cons, size_append, quotes.1, quotes.2]
    omega

theorem scanString_unmet {t : Text} {e : Failure} (failed : scanString t = .error e) :
    e = .decode := by
  unfold scanString at failed
  cases scanned : scanPieces t with
  | error e' =>
    rw [scanned] at failed
    cases failed
    exact scanPieces_unmet t e scanned
  | ok found => rw [scanned] at failed; cases failed

/-! ## Numbers -/

theorem size_split {t part : Text} (starts : part <+: t) :
    size t = size part + size (t.drop part.length) := by
  obtain ⟨rest, same⟩ := starts
  rw [← same, size_append, List.drop_left]

theorem wholePart_starts (t : Text) : wholePart t <+: t ∧ (wholePart t).all isDigit := by
  unfold wholePart
  split
  · exact ⟨List.prefix_rfl, rfl⟩
  · split
    case isTrue zero =>
      rw [zero]
      exact ⟨⟨_, rfl⟩, rfl⟩
    case isFalse => exact ⟨List.takeWhile_prefix _, List.all_takeWhile⟩

theorem fraction_starts (t : Text) : fraction t <+: t := by
  unfold fraction
  split
  · split
    · exact List.nil_prefix
    · exact List.cons_prefix_cons.mpr ⟨rfl, List.takeWhile_prefix _⟩
  · exact List.nil_prefix

theorem exponentSign_starts (t : Text) : exponentSign t <+: t := by
  cases t with
  | nil => exact List.nil_prefix
  | cons c rest =>
    rw [exponentSign]
    split
    · exact ⟨rest, rfl⟩
    · exact List.nil_prefix

theorem exponent_starts (t : Text) : exponent t <+: t := by
  cases t with
  | nil => exact List.nil_prefix
  | cons e rest =>
    rw [exponent]
    split
    case isTrue =>
      have whole := List.prefix_iff_eq_append.mp (exponentSign_starts rest)
      have digits := (List.prefix_append_right_inj (exponentSign rest)).mpr
        (List.takeWhile_prefix (isDigit ·) : _ <+: rest.drop (exponentSign rest).length)
      rw [whole] at digits
      exact List.cons_prefix_cons.mpr ⟨rfl, digits⟩
    case isFalse => exact List.nil_prefix

/-- What a scan found: no longer printed than it was written, of integers within the limit and,
where it is an object, of distinct keys. -/
structure Sound (limit : Nat) (t : Text) (v : Value) (rest : Text) : Prop where
  size_le : size (print escape v) + size rest ≤ size t
  within : withinDigits limit v
  distinct : ∀ items, v = .dict items → (items.map Prod.fst).Nodup

theorem size_decimal (n : Nat) : size (decimal n) = (decimal n).length :=
  size_digits (decimal_digits n)

theorem scanUnsigned_sound {limit : Nat} {sign t rest : Text} {v : Value}
    (signed : sign = [] ∨ sign = [45]) (read : scanUnsigned limit sign t = .ok (v, rest)) :
    Sound limit (sign ++ t) v rest := by
  obtain ⟨starts, digits⟩ := wholePart_starts t
  have parts := size_split starts
  unfold scanUnsigned at read
  simp only at read
  split at read
  case isTrue => cases read
  case isFalse some =>
    have shortest := decimal_shortest digits some
    have length := size_digits digits
    split at read
    case isTrue =>
      split at read
      case isTrue => cases read
      case isFalse few =>
        cases read
        have positive : ¬ ((value (wholePart t) : Int) < 0) := by omega
        have abs : ∀ n : Nat, ((n : Int)).natAbs = n ∧ (-(n : Int)).natAbs = n := by
          intro n
          omega
        refine ⟨?_, ?_, fun items same => by cases same⟩
        · rcases signed with rfl | rfl
          · rw [if_pos rfl, print, printInt, if_neg positive, (abs _).1, size_decimal,
              List.nil_append]
            omega
          · have one : size [45] = 1 := rfl
            have width : width 45 = 1 := rfl
            rw [if_neg (by decide), print, printInt, size_append, one]
            split
            · rw [size_cons, (abs _).2, size_decimal, width]
              omega
            · rw [(abs _).2, size_decimal]
              omega
        · rw [withinDigits]
          refine decide_eq_true ?_
          split
          · rw [(abs _).1]
            omega
          · rw [(abs _).2]
            omega
    case isFalse =>
      cases read
      have parts' := size_split (fraction_starts (t.drop (wholePart t).length))
      have parts'' := size_split (exponent_starts ((t.drop (wholePart t).length).drop
        (fraction (t.drop (wholePart t).length)).length))
      refine ⟨?_, rfl, fun items same => by cases same⟩
      rw [print, size_append, size_append, size_append, size_append]
      omega

theorem scanNumber_sound {limit : Nat} {t rest : Text} {v : Value}
    (read : scanNumber limit t = .ok (v, rest)) : Sound limit t v rest := by
  unfold scanNumber at read
  split at read
  · exact scanUnsigned_sound (.inr rfl) read
  · exact scanUnsigned_sound (.inl rfl) read

theorem scanUnsigned_unmet {limit : Nat} {sign t : Text} {e : Failure} (enough : size t ≤ limit)
    (failed : scanUnsigned limit sign t = .error e) : e = .decode := by
  obtain ⟨starts, digits⟩ := wholePart_starts t
  have parts := size_split starts
  have length := size_digits digits
  unfold scanUnsigned at failed
  simp only at failed
  split at failed
  case isTrue => cases failed; rfl
  case isFalse =>
    split at failed
    case isTrue =>
      split at failed
      · omega
      · cases failed
    case isFalse => cases failed

theorem scanConstant_sound {limit : Nat} {t : Text} {constant : Text × Value}
    (found : scanConstant t = some constant) :
    Sound limit t constant.2 (t.drop constant.1.length) := by
  unfold scanConstant at found
  have named := List.find?_some found
  have starts : constant.1 <+: t := List.isPrefixOf_iff_prefix.mp named
  have parts := size_split starts
  have all : ∀ constant ∈ constants, print escape constant.2 = constant.1 ∧
      withinDigits limit constant.2 ∧ ∀ items, constant.2 ≠ .dict items := by
    simp only [constants, List.forall_mem_cons, print, withinDigits]
    simp
  obtain ⟨printed, within, notDict⟩ := all constant (List.mem_of_find?_eq_some found)
  exact ⟨by rw [printed]; omega, within, fun items same => absurd same (notDict items)⟩

/-! ## Arrays and objects -/

/-- Every item, and the comma or bracket after it. -/
def itemsSize (items : List Value) : Nat := (items.map fun item => 1 + size (print escape item)).sum

def pairsSize (items : List (Text × Value)) : Nat :=
  (items.map fun item => size (printString escape item.1) + 2 + size (print escape item.2)).sum

theorem itemsSize_cons (item : Value) (items : List Value) :
    itemsSize (item :: items) = 1 + size (print escape item) + itemsSize items := by
  simp [itemsSize]

theorem pairsSize_cons (pair : Text × Value) (items : List (Text × Value)) :
    pairsSize (pair :: items) =
      size (printString escape pair.1) + 2 + size (print escape pair.2) + pairsSize items := by
  simp [pairsSize]

theorem pairsSize_append (items items' : List (Text × Value)) :
    pairsSize (items ++ items') = pairsSize items + pairsSize items' := by
  simp [pairsSize]

theorem size_printItems (items : List Value) :
    size (printItems escape items) = 1 + itemsSize items := by
  induction items with
  | nil => rw [printItems]; rfl
  | cons item items ih =>
    have comma : width 44 = 1 := rfl
    rw [printItems, size_cons, size_append, ih, itemsSize_cons, comma]
    omega

theorem size_printPairs (items : List (Text × Value)) :
    size (printPairs escape items) = 1 + pairsSize items := by
  induction items with
  | nil => rw [printPairs]; rfl
  | cons pair items ih =>
    obtain ⟨key, item⟩ := pair
    have comma : width 44 = 1 ∧ width 58 = 1 := ⟨rfl, rfl⟩
    rw [printPairs, size_cons, size_append, size_cons, size_append, ih, pairsSize_cons, comma.1,
      comma.2]
    simp only
    omega

theorem size_list {items : List Value} (some : items ≠ []) :
    size (print escape (.list items)) = 1 + itemsSize items := by
  cases items with
  | nil => exact absurd rfl some
  | cons item items =>
    have bracket : width 91 = 1 := rfl
    rw [print, size_cons, size_append, size_printItems, itemsSize_cons, bracket]
    omega

theorem size_dict {items : List (Text × Value)} (some : items ≠ []) :
    size (print escape (.dict items)) = 1 + pairsSize items := by
  cases items with
  | nil => exact absurd rfl some
  | cons pair items =>
    obtain ⟨key, item⟩ := pair
    have braces : width 123 = 1 ∧ width 58 = 1 := ⟨rfl, rfl⟩
    rw [print, size_cons, size_append, size_cons, size_append, size_printPairs, pairsSize_cons,
      braces.1, braces.2]
    simp only
    omega

section
variable {limit : Nat} {scan : Text → Scan Value}
  (sound : ∀ t v rest, scan t = .ok (v, rest) → Sound limit t v rest)
include sound

theorem scanItems_sound {fuel : Nat} {t rest : Text} {items : List Value}
    (read : scanItems scan fuel t = .ok (items, rest)) :
    items ≠ [] ∧ itemsSize items + size rest ≤ size t ∧ itemsWithinDigits limit items := by
  induction fuel generalizing t items with
  | zero => cases read
  | succ fuel ih =>
    rw [scanItems] at read
    cases scanned : scan t with
    | error e => rw [scanned] at read; cases read
    | ok found =>
      obtain ⟨item, after⟩ := found
      have first := sound t item after scanned
      have spaces := size_skip after
      have small := first.size_le
      rw [scanned] at read
      simp only at read
      cases skipped : skip after with
      | nil => rw [skipped] at read; cases read
      | cons c after' =>
        have one := width_pos c
        rw [skipped, size_cons] at spaces
        rw [skipped] at read
        simp only at read
        split at read
        case isTrue =>
          cases read
          refine ⟨List.cons_ne_nil _ _, ?_, ?_⟩
          · rw [itemsSize_cons]
            show _ + 0 + _ ≤ _
            omega
          · rw [itemsWithinDigits, first.within]
            rfl
        case isFalse =>
          split at read
          case isFalse => cases read
          case isTrue =>
            obtain ⟨tail, readTail, same⟩ := cons_ok read
            obtain ⟨_, smallTail, withinTail⟩ := ih readTail
            have spaces' := size_skip after'
            refine ⟨by simp [same], ?_, ?_⟩
            · rw [same, itemsSize_cons]
              omega
            · rw [same, itemsWithinDigits, first.within, withinTail]
              rfl

theorem scanPair_sound {t rest key : Text} {item : Value}
    (read : scanPair scan t = .ok ((key, item), rest)) :
    size (printString escape key) + 1 + size (print escape item) + size rest ≤ size t ∧
      withinDigits limit item := by
  unfold scanPair at read
  cases t with
  | nil => cases read
  | cons quote after =>
    have one := width_pos quote
    rw [size_cons]
    simp only at read
    split at read
    case isFalse => cases read
    case isTrue =>
      cases scanned : scanString after with
      | error e => rw [scanned] at read; cases read
      | ok found =>
        obtain ⟨key', after'⟩ := found
        have keySize := scanString_size scanned
        have spaces := size_skip after'
        rw [scanned] at read
        simp only at read
        cases skipped : skip after' with
        | nil => rw [skipped] at read; cases read
        | cons colon after'' =>
          have one' := width_pos colon
          have spaces' := size_skip after''
          rw [skipped, size_cons] at spaces
          rw [skipped] at read
          simp only at read
          split at read
          case isFalse => cases read
          case isTrue =>
            cases scanned' : scan (skip after'') with
            | error e => rw [scanned'] at read; cases read
            | ok found' =>
              obtain ⟨item', rest'⟩ := found'
              rw [scanned'] at read
              cases read
              have inner := sound _ _ _ scanned'
              have small := inner.size_le
              exact ⟨by omega, inner.within⟩

theorem scanPairs_sound {fuel : Nat} {t rest : Text} {items : List (Text × Value)}
    (read : scanPairs scan fuel t = .ok (items, rest)) :
    items ≠ [] ∧ pairsSize items + size rest ≤ size t ∧ pairsWithinDigits limit items := by
  induction fuel generalizing t items with
  | zero => cases read
  | succ fuel ih =>
    rw [scanPairs] at read
    cases scanned : scanPair scan t with
    | error e => rw [scanned] at read; cases read
    | ok found =>
      obtain ⟨⟨key, item⟩, after⟩ := found
      obtain ⟨small, within⟩ := scanPair_sound sound scanned
      have spaces := size_skip after
      rw [scanned] at read
      simp only at read
      cases skipped : skip after with
      | nil => rw [skipped] at read; cases read
      | cons c after' =>
        have one := width_pos c
        rw [skipped, size_cons] at spaces
        rw [skipped] at read
        simp only at read
        split at read
        case isTrue =>
          cases read
          refine ⟨List.cons_ne_nil _ _, ?_, ?_⟩
          · rw [pairsSize_cons]
            show _ + 0 + _ ≤ _
            simp only
            omega
          · rw [pairsWithinDigits, within]
            rfl
        case isFalse =>
          split at read
          case isFalse => cases read
          case isTrue =>
            obtain ⟨tail, readTail, same⟩ := cons_ok read
            obtain ⟨_, smallTail, withinTail⟩ := ih readTail
            have spaces' := size_skip after'
            refine ⟨by simp [same], ?_, ?_⟩
            · rw [same, pairsSize_cons]
              simp only
              omega
            · rw [same, pairsWithinDigits, within, withinTail]
              rfl

end

/-- Putting a pair in place of another takes no more room than adding it. -/
theorem replace_size {items : List (Text × Value)} {pair : Text × Value}
    (distinct : (items.map Prod.fst).Nodup) :
    pairsSize (items.map fun item => if item.1 = pair.1 then pair else item) ≤
      pairsSize items + pairsSize [pair] := by
  induction items with
  | nil => exact Nat.zero_le _
  | cons item rest ih =>
    rw [List.map_cons, List.nodup_cons] at distinct
    rw [List.map_cons, pairsSize_cons, pairsSize_cons item]
    split
    case isTrue same =>
      have kept : (rest.map fun item => if item.1 = pair.1 then pair else item) = rest := by
        conv_rhs => rw [← List.map_id rest]
        refine List.map_congr_left fun other member => if_neg fun same' => distinct.1 ?_
        rw [same, ← same']
        exact List.mem_map_of_mem member
      have single := pairsSize_cons pair []
      rw [kept]
      omega
    case isFalse =>
      have := ih distinct.2
      omega

theorem put_sound {limit : Nat} {done : List (Text × Value)} {pair : Text × Value}
    (distinct : (done.map Prod.fst).Nodup) (within : pairsWithinDigits limit done)
    (fits : withinDigits limit pair.2) :
    ((put done pair).map Prod.fst).Nodup ∧
      pairsSize (put done pair) ≤ pairsSize done + pairsSize [pair] ∧
      pairsWithinDigits limit (put done pair) := by
  unfold put
  rw [pairsWithinDigits_eq, List.all_eq_true] at within ⊢
  split
  case isTrue =>
    have keys : (done.map fun item => if item.1 = pair.1 then pair else item).map Prod.fst =
        done.map Prod.fst := by
      rw [List.map_map]
      refine List.map_congr_left fun item _ => ?_
      rw [Function.comp_apply]
      split
      case isTrue same => exact same.symm
      case isFalse => rfl
    refine ⟨keys ▸ distinct, replace_size distinct, fun item member => ?_⟩
    obtain ⟨old, inside, same⟩ := List.mem_map.mp member
    rw [← same]
    split
    · exact fits
    · exact within old inside
  case isFalse fresh =>
    refine ⟨?_, Nat.le_of_eq (pairsSize_append _ _), fun item member => ?_⟩
    · rw [List.map_append, List.nodup_append]
      refine ⟨distinct, by simp, fun key inside key' last same => fresh ?_⟩
      rw [List.map_singleton, List.mem_singleton] at last
      rw [← last, ← same]
      exact inside
    · rcases List.mem_append.mp member with old | new
      · exact within item old
      · rw [List.mem_singleton.mp new]
        exact fits

theorem foldl_put_sound {limit : Nat} {items : List (Text × Value)} :
    ∀ {done : List (Text × Value)}, (done.map Prod.fst).Nodup → pairsWithinDigits limit done →
      pairsWithinDigits limit items →
        ((items.foldl put done).map Prod.fst).Nodup ∧
        pairsSize (items.foldl put done) ≤ pairsSize done + pairsSize items ∧
        pairsWithinDigits limit (items.foldl put done) := by
  induction items with
  | nil => exact fun distinct within _ => ⟨distinct, Nat.le_refl _, within⟩
  | cons pair rest ih =>
    intro done distinct within withinItems
    have single := pairsSize_cons pair []
    have none : pairsSize [] = 0 := rfl
    have parts := pairsSize_cons pair rest
    obtain ⟨key, item⟩ := pair
    rw [pairsWithinDigits, Bool.and_eq_true] at withinItems
    obtain ⟨distinct', small, within'⟩ := @put_sound _ _ (key, item) distinct within withinItems.1
    obtain ⟨distinct'', small', within''⟩ := ih distinct' within' withinItems.2
    rw [List.foldl_cons]
    exact ⟨distinct'', by omega, within''⟩

section
variable {limit : Nat} {scan : Text → Scan Value}
  (sound : ∀ t v rest, scan t = .ok (v, rest) → Sound limit t v rest)
include sound

theorem scanArray_sound {t rest : Text} {v : Value} (read : scanArray scan t = .ok (v, rest)) :
    size (print escape v) + size rest ≤ size t + 1 ∧ withinDigits limit v ∧
      ∀ items, v ≠ .dict items := by
  have spaces := size_skip t
  unfold scanArray at read
  cases skipped : skip t with
  | nil => rw [skipped] at read; cases read
  | cons c after =>
    have one := width_pos c
    rw [skipped] at read spaces
    simp only at read
    split at read
    case isTrue =>
      cases read
      have two : size (print escape (.list [])) = 2 := by
        rw [print]
        rfl
      rw [size_cons] at spaces
      exact ⟨by omega, rfl, fun _ same => by cases same⟩
    case isFalse =>
      cases scanned : scanItems scan (c :: after).length (c :: after) with
      | error e => rw [scanned] at read; cases read
      | ok found =>
        obtain ⟨items, rest'⟩ := found
        obtain ⟨some, small, within⟩ := scanItems_sound sound scanned
        rw [scanned] at read
        cases read
        have whole := size_list some
        exact ⟨by omega, by rw [withinDigits]; exact within, fun _ same => by cases same⟩

theorem scanObject_sound {t rest : Text} {v : Value} (read : scanObject scan t = .ok (v, rest)) :
    size (print escape v) + size rest ≤ size t + 1 ∧ withinDigits limit v ∧
      ∀ items, v = .dict items → (items.map Prod.fst).Nodup := by
  have spaces := size_skip t
  have two : size (print escape (.dict [])) = 2 := by
    rw [print]
    rfl
  unfold scanObject at read
  cases skipped : skip t with
  | nil => rw [skipped] at read; cases read
  | cons c after =>
    have one := width_pos c
    rw [skipped] at read spaces
    simp only at read
    split at read
    case isTrue =>
      cases read
      rw [size_cons] at spaces
      refine ⟨by omega, rfl, fun items same => ?_⟩
      cases same
      exact List.nodup_nil
    case isFalse =>
      cases scanned : scanPairs scan (c :: after).length (c :: after) with
      | error e => rw [scanned] at read; cases read
      | ok found =>
        obtain ⟨items, rest'⟩ := found
        obtain ⟨some, small, within⟩ := scanPairs_sound sound scanned
        obtain ⟨distinct, small', within'⟩ :=
          @foldl_put_sound limit items [] List.nodup_nil rfl within
        rw [scanned] at read
        cases read
        have none : pairsSize [] = 0 := rfl
        refine ⟨?_, by rw [withinDigits]; exact within', fun items' same => ?_⟩
        · by_cases empty : items.foldl put [] = []
          · obtain ⟨pair, others, shape⟩ := List.exists_cons_of_ne_nil some
            have room := pairsSize_cons pair others
            rw [empty, two]
            rw [shape] at small
            omega
          · rw [size_dict empty]
            omega
        · cases same
          exact distinct

end

theorem scanWith_sound {limit : Nat} {inside : Option (Text → Scan Value)}
    (sound : ∀ scan ∈ inside, ∀ t v rest, scan t = .ok (v, rest) → Sound limit t v rest)
    {t rest : Text} {v : Value} (read : scanWith limit inside t = .ok (v, rest)) :
    Sound limit t v rest := by
  unfold scanWith at read
  cases t with
  | nil => cases read
  | cons c after =>
    have one := width_pos c
    have parts := size_cons c after
    simp only at read
    split at read
    case isTrue =>
      cases scanned : scanString after with
      | error e => rw [scanned] at read; cases read
      | ok found =>
        obtain ⟨s, rest'⟩ := found
        have small := scanString_size scanned
        rw [scanned] at read
        cases read
        exact ⟨by rw [print]; omega, rfl, fun items same => by cases same⟩
    split at read
    · cases inside with
      | none => cases read
      | some scan =>
        obtain ⟨small, within, distinct⟩ := scanObject_sound (sound scan rfl) read
        exact ⟨by omega, within, distinct⟩
    split at read
    · cases inside with
      | none => cases read
      | some scan =>
        obtain ⟨small, within, notDict⟩ := scanArray_sound (sound scan rfl) read
        exact ⟨by omega, within, fun items same => absurd same (notDict items)⟩
    cases named : scanConstant (c :: after) with
    | some constant =>
      rw [named] at read
      cases read
      exact scanConstant_sound named
    | none =>
      rw [named] at read
      exact scanNumber_sound read

/-- Induction on the nesting that is left. -/
theorem scanOnce_sound (limit depth : Nat) : ∀ t v rest,
    scanOnce limit depth t = .ok (v, rest) → Sound limit t v rest := by
  induction depth with
  | zero => exact fun t v rest read => scanWith_sound (by simp) read
  | succ depth ih =>
    intro t v rest read
    refine scanWith_sound ?_ read
    intro scan same
    cases same
    exact ih

/-- What was loaded takes no more room printed than the text it was loaded from. -/
theorem loads_sound {limits : Limits} {t : Text} {v : Value} (read : loads limits t = .ok v) :
    size (print escape v) ≤ size t ∧ withinDigits limits.digits v ∧
      ∀ items, v = .dict items → (items.map Prod.fst).Nodup := by
  unfold loads at read
  split at read
  case isTrue => cases read
  case isFalse =>
    cases scanned : scanOnce limits.digits limits.depth (skip t) with
    | error e => rw [scanned] at read; cases read
    | ok found =>
      obtain ⟨v', rest⟩ := found
      have sound := scanOnce_sound _ _ _ _ _ scanned
      have small := sound.size_le
      have spaces := size_skip t
      rw [scanned] at read
      simp only at read
      split at read
      case isTrue =>
        cases read
        exact ⟨by omega, sound.within, sound.distinct⟩
      case isFalse => cases read

end JsonText
