import Mathlib.Data.List.Basic
import Stateback.Domain.Records
import Stateback.Lib.Calendar
import Stateback.Lib.Decimals
/-!
# Ids and timestamps as text

`domain/ids.py` and `domain/time.py`.  An id is a lowercase UUID; a timestamp is written with
exactly six fractional digits and a `Z`.  The readers of the standard library accept more than
what is written: every Unicode decimal digit is a digit to them.
-/

namespace Stateback.Domain

open CodePoints Decimals Calendar

def PrincipalType.value : PrincipalType → String
  | .agent => "AGENT"
  | .human => "HUMAN"
  | .service => "SERVICE"
  | .operator => "OPERATOR"

/-! ## Ids -/

def isHexDigit (c : Nat) : Bool := decide (48 ≤ c ∧ c ≤ 57 ∨ 97 ≤ c ∧ c ≤ 102)

/-- `_OPAQUE_ID_RE.fullmatch`. -/
def opaqueIdPattern (t : Text) : Bool :=
  decide (t.length = 36 ∧ t[8]? = some 45 ∧ t[13]? = some 45 ∧ t[18]? = some 45 ∧
    t[23]? = some 45) &&
  ((slice 0 8 t).all isHexDigit && (slice 9 4 t).all isHexDigit && (slice 14 4 t).all isHexDigit &&
    (slice 19 4 t).all isHexDigit && (slice 24 12 t).all isHexDigit)

/-- What the constructor checks. -/
def OpaqueId.wellFormed (id : OpaqueId) : Bool := opaqueIdPattern (text id.value)

theorem hexDigitsOf_append (count n : Nat) (digits : List Char) :
    hexDigitsOf count n digits = hexDigitsOf count n [] ++ digits := by
  induction count generalizing n digits with
  | zero => rfl
  | succ count ih =>
    rw [hexDigitsOf, ih, hexDigitsOf, ih _ [_], List.append_assoc]
    rfl

theorem length_hexDigitsOf (count n : Nat) : (hexDigitsOf count n []).length = count := by
  induction count generalizing n with
  | zero => rfl
  | succ count ih =>
    rw [hexDigitsOf, hexDigitsOf_append, List.length_append, ih, List.length_singleton]

theorem isHexDigit_of_mem (count n : Nat) :
    ∀ c ∈ hexDigitsOf count n [], isHexDigit c.toNat = true := by
  have digit : ∀ d < 16, isHexDigit (Nat.digitChar d).toNat = true := by decide
  induction count generalizing n with
  | zero => nofun
  | succ count ih =>
    intro c among
    rw [hexDigitsOf, hexDigitsOf_append, List.mem_append, List.mem_singleton] at among
    rcases among with earlier | rfl
    · exact ih _ c earlier
    · exact digit _ (Nat.mod_lt n (by decide))

/-- Every id made from a name is accepted. -/
theorem idOf_wellFormed (name : String) : (idOf name).wellFormed = true := by
  unfold idOf OpaqueId.wellFormed text
  generalize List.foldl _ _ _ = hash
  have eight := length_hexDigitsOf 8 hash
  have hex := isHexDigit_of_mem 8 hash
  dsimp only
  rw [String.toList_append, String.toList_ofList]
  generalize hexDigitsOf 8 hash [] = digits at eight hex
  match digits, eight with
  | [a, b, c, d, e, f, g, h], _ =>
    simp only [List.mem_cons, List.not_mem_nil, or_false, forall_eq_or_imp, forall_eq] at hex
    have lower : isHexDigit 48 = true ∧ isHexDigit 52 = true ∧ isHexDigit 56 = true := by decide
    simp [opaqueIdPattern, slice, hex, lower]

/-- `OpaqueId.from_wire` of a string. -/
def OpaqueId.parse (t : Text) : Option OpaqueId :=
  if (OpaqueId.mk (string t)).wellFormed then some ⟨string t⟩ else none

theorem OpaqueId.parse_text {id : OpaqueId} (formed : id.wellFormed) :
    OpaqueId.parse (text id.value) = some id := by
  rw [OpaqueId.parse, string_text, if_pos formed]

theorem OpaqueId.ext_value {a b : OpaqueId} (same : a.value = b.value) : a = b := by
  cases a
  cases b
  exact congrArg OpaqueId.mk same

/-! ## Timestamps -/

/-- Microseconds are counted from the first midnight of the calendar. -/
def UtcTimestamp.inCalendar (t : UtcTimestamp) : Bool :=
  decide (0 ≤ t.value ∧ t.value < endOfTime)

def UtcTimestamp.moment (t : UtcTimestamp) : Moment := momentOf t.value.toNat

def momentText (m : Moment) : Text :=
  fixed 4 m.date.year ++ [45] ++ fixed 2 m.date.month ++ [45] ++ fixed 2 m.date.day ++ [84] ++
    fixed 2 m.hour ++ [58] ++ fixed 2 m.minute ++ [58] ++ fixed 2 m.second ++ [46] ++
    fixed 6 m.microsecond

/-- `strftime("%Y-%m-%dT%H:%M:%S.%fZ")`. -/
def UtcTimestamp.toWire (t : UtcTimestamp) : Text := momentText t.moment ++ [90]

/-- The zeros of Unicode's decimal digits; each has its nine others after it. -/
def zeros : List Nat :=
  [0x30, 0x660, 0x6F0, 0x7C0, 0x966, 0x9E6, 0xA66, 0xAE6, 0xB66, 0xBE6, 0xC66, 0xCE6, 0xD66, 0xDE6,
    0xE50, 0xED0, 0xF20, 0x1040, 0x1090, 0x17E0, 0x1810, 0x1946, 0x19D0, 0x1A80, 0x1A90, 0x1B50,
    0x1BB0, 0x1C40, 0x1C50, 0xA620, 0xA8D0, 0xA900, 0xA9D0, 0xA9F0, 0xAA50, 0xABF0, 0xFF10, 0x104A0,
    0x10D30, 0x11066, 0x110F0, 0x11136, 0x111D0, 0x112F0, 0x11450, 0x114D0, 0x11650, 0x116C0,
    0x11730, 0x118E0, 0x11950, 0x11C50, 0x11D50, 0x11DA0, 0x11F50, 0x16A60, 0x16AC0, 0x16B50,
    0x1D7CE, 0x1D7D8, 0x1D7E2, 0x1D7EC, 0x1D7F6, 0x1E140, 0x1E2F0, 0x1E4F0, 0x1E950, 0x1FBF0]

def decimalDigit? (c : Nat) : Option Nat :=
  (zeros.find? fun first => decide (first ≤ c ∧ c < first + 10)).map (c - ·)

def isDecimalDigit (c : Nat) : Bool := (decimalDigit? c).isSome

/-- `int` of a text of decimal digits. -/
def number (t : Text) : Nat := t.foldl (fun n c => 10 * n + (decimalDigit? c).getD 0) 0

/-- `_WIRE_RE.fullmatch`. -/
def wirePattern (t : Text) : Bool :=
  decide (t.length = 27 ∧ t[4]? = some 45 ∧ t[7]? = some 45 ∧ t[10]? = some 84 ∧
    t[13]? = some 58 ∧ t[16]? = some 58 ∧ t[19]? = some 46 ∧ t[26]? = some 90) &&
  ((slice 0 4 t).all isDecimalDigit && (slice 5 2 t).all isDecimalDigit &&
    (slice 8 2 t).all isDecimalDigit && (slice 11 2 t).all isDecimalDigit &&
    (slice 14 2 t).all isDecimalDigit && (slice 17 2 t).all isDecimalDigit &&
    (slice 20 6 t).all isDecimalDigit)

/-- A two-character field: its first character, then one from a range or any decimal digit. -/
def monthPattern : Text → Bool
  | [a, b] => decide (a = 49 ∧ 48 ≤ b ∧ b ≤ 50 ∨ a = 48 ∧ 49 ≤ b ∧ b ≤ 57)
  | _ => false

def dayPattern : Text → Bool
  | [a, b] =>
    decide (a = 51 ∧ 48 ≤ b ∧ b ≤ 49 ∨ (a = 49 ∨ a = 50) ∧ isDecimalDigit b ∨
      a = 48 ∧ 49 ≤ b ∧ b ≤ 57)
  | _ => false

def hourPattern : Text → Bool
  | [a, b] => decide (a = 50 ∧ 48 ≤ b ∧ b ≤ 51 ∨ (a = 48 ∨ a = 49) ∧ isDecimalDigit b)
  | _ => false

def minutePattern : Text → Bool
  | [a, b] => decide (48 ≤ a ∧ a ≤ 53 ∧ isDecimalDigit b)
  | _ => false

def secondPattern : Text → Bool
  | [a, b] => decide (a = 54 ∧ 48 ≤ b ∧ b ≤ 49 ∨ 48 ≤ a ∧ a ≤ 53 ∧ isDecimalDigit b)
  | _ => false

/-- `strptime` of a text of the wire shape; years before 1, days beyond the month's last and leap
seconds are refused by `datetime` itself. -/
def strptime (t : Text) : Option Moment :=
  if monthPattern (slice 5 2 t) ∧ dayPattern (slice 8 2 t) ∧ hourPattern (slice 11 2 t) ∧
      minutePattern (slice 14 2 t) ∧ secondPattern (slice 17 2 t) ∧ (slice 20 6 t).all isDigit then
    let moment : Moment :=
      ⟨⟨number (slice 0 4 t), number (slice 5 2 t), number (slice 8 2 t)⟩, number (slice 11 2 t),
        number (slice 14 2 t), number (slice 17 2 t), number (slice 20 6 t)⟩
    if moment.valid then some moment else none
  else none

/-- `UtcTimestamp.from_wire` of a string. -/
def UtcTimestamp.parse (t : Text) : Option UtcTimestamp :=
  if wirePattern t then (strptime t).map fun moment => ⟨moment.micros⟩ else none

theorem decimalDigit?_digit {c : Nat} (digit : isDigit c) : decimalDigit? c = some (c - 48) := by
  obtain ⟨lower, upper⟩ := of_decide_eq_true digit
  have all : ∀ k : Fin 10, decimalDigit? (48 + k) = some k.val := by decide
  have := all ⟨c - 48, by omega⟩
  rwa [show 48 + (c - 48) = c by omega] at this

theorem digits_decimal {t : Text} (digits : t.all isDigit) : t.all isDecimalDigit := by
  rw [List.all_eq_true] at digits ⊢
  intro c member
  rw [isDecimalDigit, decimalDigit?_digit (digits c member)]
  rfl

theorem number_eq_value {t : Text} (digits : t.all isDigit) : number t = value t := by
  rw [List.all_eq_true] at digits
  unfold number value
  refine List.foldl_ext _ _ _ fun n c member => ?_
  rw [decimalDigit?_digit (digits c member)]
  rfl

theorem number_fixed {width n : Nat} (small : n < 10 ^ width) : number (fixed width n) = n := by
  rw [number_eq_value (fixed_digits width n), value_fixed small]

theorem fixed_two (n : Nat) : fixed 2 n = [48 + n / 10 % 10, 48 + n % 10] := rfl

theorem isDecimalDigit_last (n : Nat) : isDecimalDigit (48 + n % 10) := by
  rw [isDecimalDigit, decimalDigit?_digit (decide_eq_true (by omega))]
  rfl

/-- Where the fields of a written moment stand. -/
theorem slices_momentText (m : Moment) (rest : Text) :
    slice 0 4 (momentText m ++ rest) = fixed 4 m.date.year ∧
      slice 5 2 (momentText m ++ rest) = fixed 2 m.date.month ∧
      slice 8 2 (momentText m ++ rest) = fixed 2 m.date.day ∧
      slice 11 2 (momentText m ++ rest) = fixed 2 m.hour ∧
      slice 14 2 (momentText m ++ rest) = fixed 2 m.minute ∧
      slice 17 2 (momentText m ++ rest) = fixed 2 m.second ∧
      slice 20 6 (momentText m ++ rest) = fixed 6 m.microsecond := by
  simp [slice, momentText, fixed_length, List.drop_append,
    List.drop_eq_nil_of_le]

/-- A written moment is digits and marks. -/
theorem momentText_chars (m : Moment) :
    ∀ c ∈ momentText m, isDigit c ∨ c = 45 ∨ c = 84 ∨ c = 58 ∨ c = 46 := by
  have digits : ∀ width n, ∀ c ∈ fixed width n, isDigit c = true := fun width n =>
    List.all_eq_true.mp (fixed_digits width n)
  intro c member
  simp only [momentText, List.mem_append, List.mem_singleton] at member
  grind

theorem wirePattern_momentText (m : Moment) : wirePattern (momentText m ++ [90]) := by
  have marks : (momentText m ++ [90]).length = 27 ∧ (momentText m ++ [90])[4]? = some 45 ∧
      (momentText m ++ [90])[7]? = some 45 ∧ (momentText m ++ [90])[10]? = some 84 ∧
      (momentText m ++ [90])[13]? = some 58 ∧ (momentText m ++ [90])[16]? = some 58 ∧
      (momentText m ++ [90])[19]? = some 46 ∧ (momentText m ++ [90])[26]? = some 90 := by
    simp [momentText, fixed_length]
  obtain ⟨year, month, day, hour, minute, second, micro⟩ := slices_momentText m [90]
  refine Bool.and_eq_true_iff.mpr ⟨decide_eq_true marks, ?_⟩
  simp only [year, month, day, hour, minute, second, micro, digits_decimal (fixed_digits _ _),
    Bool.and_self]

/-- What is written of a valid moment is read back. -/
theorem strptime_momentText {m : Moment} (valid : m.valid) (rest : Text) :
    strptime (momentText m ++ rest) = some m := by
  obtain ⟨date, clock⟩ := Bool.and_eq_true_iff.mp valid
  obtain ⟨_, years, month, months, day, days⟩ := of_decide_eq_true date
  obtain ⟨hours, minutes, seconds, micros⟩ := of_decide_eq_true clock
  have last := monthLength_le m.date.year (m.date.month - 1)
  have patterns : monthPattern (fixed 2 m.date.month) ∧ dayPattern (fixed 2 m.date.day) ∧
      hourPattern (fixed 2 m.hour) ∧ minutePattern (fixed 2 m.minute) ∧
      secondPattern (fixed 2 m.second) ∧ (fixed 6 m.microsecond).all isDigit := by
    simp only [fixed_two, monthPattern, dayPattern, hourPattern, minutePattern, secondPattern,
      isDecimalDigit_last, decide_eq_true_eq, and_true]
    refine ⟨by omega, by omega, by omega, by omega, by omega, fixed_digits 6 _⟩
  obtain ⟨year, monthOf, dayOf, hourOf, minuteOf, secondOf, microOf⟩ := slices_momentText m rest
  unfold strptime
  rw [year, monthOf, dayOf, hourOf, minuteOf, secondOf, microOf, if_pos patterns]
  simp only [number_fixed (show m.date.year < 10 ^ 4 by omega),
    number_fixed (show m.date.month < 10 ^ 2 by omega),
    number_fixed (show m.date.day < 10 ^ 2 by omega), number_fixed (show m.hour < 10 ^ 2 by omega),
    number_fixed (show m.minute < 10 ^ 2 by omega), number_fixed (show m.second < 10 ^ 2 by omega),
    number_fixed (show m.microsecond < 10 ^ 6 by omega), valid, if_true]

theorem OpaqueId.parse_formed {t : Text} {id : OpaqueId} (read : OpaqueId.parse t = some id) :
    id.wellFormed := by
  unfold OpaqueId.parse at read
  split at read
  case isTrue formed => exact Option.some.inj read ▸ formed
  case isFalse => cases read

theorem UtcTimestamp.parse_inCalendar {text : Text} {t : UtcTimestamp}
    (read : UtcTimestamp.parse text = some t) : t.inCalendar := by
  unfold UtcTimestamp.parse strptime at read
  split at read
  case isFalse => cases read
  case isTrue =>
    split at read
    case isFalse => cases read
    case isTrue =>
      simp only at read
      split at read
      case isFalse => cases read
      case isTrue valid =>
        cases read
        have early := Moment.micros_lt valid
        exact decide_eq_true ⟨Int.natCast_nonneg _, Int.ofNat_lt.mpr early⟩

theorem UtcTimestamp.parse_toWire {t : UtcTimestamp} (inside : t.inCalendar) :
    UtcTimestamp.parse t.toWire = some t := by
  obtain ⟨positive, early⟩ := of_decide_eq_true inside
  obtain ⟨valid, micros⟩ := momentOf_spec (show t.value.toNat < endOfTime by omega)
  rw [UtcTimestamp.parse, UtcTimestamp.toWire, if_pos (wirePattern_momentText _),
    UtcTimestamp.moment, strptime_momentText valid, Option.map_some, micros,
    Int.toNat_of_nonneg positive]

/-! ## Their characters -/

theorem mem_slice {t : Text} {i start width c : Nat} (here : t[i]? = some c) (lower : start ≤ i)
    (upper : i < start + width) : c ∈ slice start width t := by
  have found : (slice start width t)[i - start]? = some c := by
    rw [slice, List.getElem?_take_of_lt (by omega), List.getElem?_drop,
      show start + (i - start) = i by omega, here]
  exact List.mem_of_getElem? found

theorem opaqueIdPattern_chars {t : Text} (pattern : opaqueIdPattern t) :
    t.length = 36 ∧ ∀ c ∈ t, isHexDigit c ∨ c = 45 := by
  unfold opaqueIdPattern at pattern
  simp only [Bool.and_eq_true] at pattern
  obtain ⟨shape, ⟨⟨⟨first, second⟩, third⟩, fourth⟩, fifth⟩ := pattern
  obtain ⟨length, at8, at13, at18, at23⟩ := of_decide_eq_true shape
  refine ⟨length, fun c member => ?_⟩
  obtain ⟨i, inside, here⟩ := List.mem_iff_getElem.mp member
  have here' : t[i]? = some c := by rw [List.getElem?_eq_getElem inside, here]
  have digit : ∀ {start width}, (slice start width t).all isHexDigit → start ≤ i →
      i < start + width → isHexDigit c ∨ c = 45 := fun all lower upper =>
    .inl (List.all_eq_true.mp all c (mem_slice here' lower upper))
  have dash : ∀ {k}, t[k]? = some 45 → i = k → isHexDigit c ∨ c = 45 := by
    intro k mark same
    rw [← same, here'] at mark
    exact .inr (Option.some.inj mark)
  rcases (by omega : i < 8 ∨ i = 8 ∨ (9 ≤ i ∧ i < 13) ∨ i = 13 ∨ (14 ≤ i ∧ i < 18) ∨ i = 18 ∨
    (19 ≤ i ∧ i < 23) ∨ i = 23 ∨ (24 ≤ i ∧ i < 36)) with
    before | mark | part | mark | part | mark | part | mark | part
  · exact digit first (Nat.zero_le i) before
  · exact dash at8 mark
  · exact digit second part.1 part.2
  · exact dash at13 mark
  · exact digit third part.1 part.2
  · exact dash at18 mark
  · exact digit fourth part.1 part.2
  · exact dash at23 mark
  · exact digit fifth part.1 part.2

theorem OpaqueId.parse_length {t : Text} {id : OpaqueId} (read : OpaqueId.parse t = some id) :
    t.length = 36 := by
  have formed := OpaqueId.parse_formed read
  unfold OpaqueId.parse at read
  split at read
  case isTrue =>
    cases read
    have length := (opaqueIdPattern_chars formed).1
    simpa [text, string] using length
  case isFalse => cases read

theorem UtcTimestamp.toWire_chars (t : UtcTimestamp) : t.toWire.length = 27 ∧
    ∀ c ∈ t.toWire, isDigit c ∨ c = 45 ∨ c = 84 ∨ c = 58 ∨ c = 46 ∨ c = 90 := by
  have pattern := wirePattern_momentText t.moment
  rw [UtcTimestamp.toWire]
  generalize shape : momentText t.moment ++ [90] = written at pattern ⊢
  unfold wirePattern at pattern
  rw [Bool.and_eq_true] at pattern
  refine ⟨(of_decide_eq_true pattern.1).1, fun c member => ?_⟩
  rw [← shape, List.mem_append, List.mem_singleton] at member
  rcases member with inside | last
  · rcases momentText_chars t.moment c inside with digit | mark | mark | mark | mark
    · exact .inl digit
    all_goals exact .inr (by omega)
  · exact .inr (by omega)

theorem UtcTimestamp.parse_length {text : Text} {t : UtcTimestamp}
    (read : UtcTimestamp.parse text = some t) : text.length = 27 := by
  unfold UtcTimestamp.parse at read
  split at read
  case isTrue pattern =>
    unfold wirePattern at pattern
    rw [Bool.and_eq_true] at pattern
    exact (of_decide_eq_true pattern.1).1
  case isFalse => cases read

end Stateback.Domain
