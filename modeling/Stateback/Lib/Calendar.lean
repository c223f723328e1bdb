import Mathlib.Algebra.GroupWithZero.Nat
import Mathlib.Tactic.SplitIfs
/-!
# The proleptic Gregorian calendar

Dates and clock readings of the years 1 to 9999, and their distance from the first of them.  Every
distance within the calendar is the distance of one valid reading.
-/

namespace Calendar

structure Date where
  year : Nat
  month : Nat
  day : Nat
deriving DecidableEq, Repr

def isLeap (year : Nat) : Bool :=
  decide (year % 4 = 0 ∧ (year % 100 ≠ 0 ∨ year % 400 = 0))

def monthLengths (year : Nat) : List Nat :=
  [31, if isLeap year then 29 else 28, 31, 30, 31, 30, 31, 31, 30, 31, 30, 31]

def Date.valid (date : Date) : Bool :=
  decide (1 ≤ date.year ∧ date.year ≤ 9999 ∧ 1 ≤ date.month ∧ date.month ≤ 12 ∧ 1 ≤ date.day ∧
    date.day ≤ (monthLengths date.year).getD (date.month - 1) 0)

def daysBeforeYear (year : Nat) : Nat :=
  365 * (year - 1) + (year - 1) / 4 - (year - 1) / 100 + (year - 1) / 400

/-- The days from the first day of year 1. -/
def Date.ordinal (date : Date) : Nat :=
  daysBeforeYear date.year + ((monthLengths date.year).take (date.month - 1)).sum + (date.day - 1)

/-- The block that an offset falls into, and the offset within it. -/
def locate : List Nat → Nat → Nat × Nat
  | [], offset => (0, offset)
  | length :: rest, offset =>
    if offset < length then (0, offset)
    else ((locate rest (offset - length)).1 + 1, (locate rest (offset - length)).2)

def yearOf (ordinal : Nat) : Nat :=
  let era := ordinal / 146097
  let inEra := ordinal % 146097
  let century := min (inEra / 36524) 3
  let inCentury := inEra - century * 36524
  let quad := inCentury / 1461
  let inQuad := inCentury % 1461
  400 * era + 100 * century + 4 * quad + min (inQuad / 365) 3 + 1

def dateOf (ordinal : Nat) : Date :=
  let place := locate (monthLengths (yearOf ordinal)) (ordinal - daysBeforeYear (yearOf ordinal))
  ⟨yearOf ordinal, place.1 + 1, place.2 + 1⟩

/-- The number of days in the calendar. -/
def lastOrdinal : Nat := 3652059

theorem locate_spec {lengths : List Nat} {offset : Nat} (inside : offset < lengths.sum) :
    (locate lengths offset).1 < lengths.length ∧
      (locate lengths offset).2 < lengths.getD (locate lengths offset).1 0 ∧
      (lengths.take (locate lengths offset).1).sum + (locate lengths offset).2 = offset := by
  induction lengths generalizing offset with
  | nil => simp at inside
  | cons length rest ih =>
    rw [locate]
    split
    case isTrue here => simp [here]
    case isFalse later =>
      rw [List.sum_cons] at inside
      obtain ⟨block, within, sum⟩ := @ih (offset - length) (by omega)
      refine ⟨Nat.succ_lt_succ block, ?_, ?_⟩
      · rw [List.getD_cons_succ]
        exact within
      · rw [List.take_succ_cons, List.sum_cons]
        omega

/-- Years counted in eras of 400, centuries, quads and single years. -/
theorem cycles (years : Nat) : ∃ era century quad single, century ≤ 3 ∧ quad ≤ 24 ∧ single ≤ 3 ∧
    years = 400 * era + 100 * century + 4 * quad + single :=
  ⟨years / 400, years % 400 / 100, years % 100 / 4, years % 4, by omega, by omega, by omega,
    by omega⟩

section

variable {era century quad single : Nat}

theorem daysBeforeYear_cycles (centuries : century ≤ 3) (quads : quad ≤ 24)
    (singles : single ≤ 3) :
    daysBeforeYear (400 * era + 100 * century + 4 * quad + single + 1) =
      146097 * era + 36524 * century + 1461 * quad + 365 * single := by
  unfold daysBeforeYear
  rw [Nat.add_sub_cancel]
  have byFour : (400 * era + 100 * century + 4 * quad + single) / 4 =
      100 * era + 25 * century + quad := by omega
  have byHundred : (400 * era + 100 * century + 4 * quad + single) / 100 =
      4 * era + century := by omega
  have byEra : (400 * era + 100 * century + 4 * quad + single) / 400 = era := by omega
  rw [byFour, byHundred, byEra]
  omega

theorem isLeap_cycles (centuries : century ≤ 3) (quads : quad ≤ 24) (singles : single ≤ 3) :
    isLeap (400 * era + 100 * century + 4 * quad + single + 1) =
      decide (single = 3 ∧ (quad < 24 ∨ century = 3)) := by
  unfold isLeap
  rw [decide_eq_decide]
  omega

/-- A year's days are those of a common year, and one more where the cycle ends. -/
theorem daysBeforeYear_next (centuries : century ≤ 3) (quads : quad ≤ 24) (singles : single ≤ 3) :
    daysBeforeYear (400 * era + 100 * century + 4 * quad + single + 1 + 1) =
      146097 * era + 36524 * century + 1461 * quad + 365 * single + 365 +
        if single = 3 ∧ (quad < 24 ∨ century = 3) then 1 else 0 := by
  rcases Nat.lt_or_ge single 3 with more | lastSingle
  · have next := @daysBeforeYear_cycles era century quad (single + 1) centuries quads (by omega)
    rw [if_neg (by omega)]
    exact next.trans (by omega)
  rcases Nat.lt_or_ge quad 24 with more | lastQuad
  · have next := @daysBeforeYear_cycles era century (quad + 1) 0 centuries (by omega) (by omega)
    rw [if_pos (by omega)]
    have same : 400 * era + 100 * century + 4 * (quad + 1) + 0 + 1 =
        400 * era + 100 * century + 4 * quad + single + 1 + 1 := by omega
    rw [← same, next]
    omega
  rcases Nat.lt_or_ge century 3 with more | lastCentury
  · have next := @daysBeforeYear_cycles era (century + 1) 0 0 (by omega) (by omega) (by omega)
    rw [if_neg (by omega)]
    have same : 400 * era + 100 * (century + 1) + 4 * 0 + 0 + 1 =
        400 * era + 100 * century + 4 * quad + single + 1 + 1 := by omega
    rw [← same, next]
    omega
  · have next := @daysBeforeYear_cycles (era + 1) 0 0 0 (by omega) (by omega) (by omega)
    rw [if_pos (by omega)]
    have same : 400 * (era + 1) + 100 * 0 + 4 * 0 + 0 + 1 =
        400 * era + 100 * century + 4 * quad + single + 1 + 1 := by omega
    rw [← same, next]
    omega

end

theorem daysBeforeYear_succ {year : Nat} (positive : 1 ≤ year) :
    daysBeforeYear (year + 1) = daysBeforeYear year + (monthLengths year).sum := by
  have length : (monthLengths year).sum = 365 + if isLeap year then 1 else 0 := by
    unfold monthLengths
    split <;> rfl
  obtain ⟨era, century, quad, single, centuries, quads, singles, parts⟩ := cycles (year - 1)
  have same : year = 400 * era + 100 * century + 4 * quad + single + 1 := by omega
  rw [length, same, daysBeforeYear_next centuries quads singles,
    daysBeforeYear_cycles centuries quads singles, isLeap_cycles centuries quads singles,
    Nat.add_assoc]
  simp only [decide_eq_true_eq]

/-- A day falls into its year. -/
theorem yearOf_spec (ordinal : Nat) :
    1 ≤ yearOf ordinal ∧ daysBeforeYear (yearOf ordinal) ≤ ordinal ∧
      ordinal < daysBeforeYear (yearOf ordinal + 1) := by
  unfold yearOf
  simp only
  generalize hera : ordinal / 146097 = era
  generalize hrest : ordinal % 146097 = inEra
  generalize hcentury : min (inEra / 36524) 3 = century
  generalize hquads : inEra - century * 36524 = inCentury
  generalize hquad : inCentury / 1461 = quad
  generalize hsingles : inCentury % 1461 = inQuad
  generalize hsingle : min (inQuad / 365) 3 = single
  have whole : ordinal = 146097 * era + inEra := by omega
  have split : inEra = 36524 * century + inCentury := by omega
  have split' : inCentury = 1461 * quad + inQuad := by omega
  have centuries : century ≤ 3 := by omega
  have quads : quad ≤ 24 := by omega
  have singles : single ≤ 3 := by omega
  rw [daysBeforeYear_cycles centuries quads singles, daysBeforeYear_next centuries quads singles]
  refine ⟨by omega, by omega, ?_⟩
  split_ifs <;> omega

theorem dateOf_spec {ordinal : Nat} (inside : ordinal < lastOrdinal) :
    (dateOf ordinal).valid ∧ (dateOf ordinal).ordinal = ordinal := by
  obtain ⟨positive, lower, upper⟩ := yearOf_spec ordinal
  rw [daysBeforeYear_succ positive] at upper
  have within : ordinal - daysBeforeYear (yearOf ordinal) <
      (monthLengths (yearOf ordinal)).sum := by omega
  obtain ⟨block, day, sum⟩ := locate_spec within
  have twelve : (monthLengths (yearOf ordinal)).length = 12 := rfl
  rw [twelve] at block
  have last : yearOf ordinal ≤ 9999 := by
    have range : ordinal < 3652059 := inside
    unfold yearOf
    simp only
    omega
  constructor
  · refine decide_eq_true ⟨positive, last, Nat.le_add_left 1 _, Nat.succ_le_of_lt block,
      Nat.le_add_left 1 _, ?_⟩
    exact day
  · unfold Date.ordinal dateOf
    simp only [Nat.add_sub_cancel]
    omega

theorem monthLength_le (year i : Nat) : (monthLengths year).getD i 0 ≤ 31 := by
  have all : ∀ length ∈ monthLengths year, length ≤ 31 := by
    unfold monthLengths
    cases isLeap year <;> decide
  rw [List.getD_eq_getElem?_getD]
  cases month : (monthLengths year)[i]? with
  | none => exact Nat.zero_le _
  | some length => exact all length (List.mem_of_getElem? month)

theorem daysBeforeYear_mono {year : Nat} (positive : 1 ≤ year) :
    ∀ later, daysBeforeYear year ≤ daysBeforeYear (year + later)
  | 0 => Nat.le_refl _
  | later + 1 => by
    have before := daysBeforeYear_mono positive later
    have next := @daysBeforeYear_succ (year + later) (by omega)
    rw [← Nat.add_assoc, next]
    omega

theorem take_sum_add {lengths : List Nat} {i day : Nat} (within : day < lengths.getD i 0) :
    (lengths.take i).sum + day < lengths.sum := by
  induction lengths generalizing i with
  | nil => simp at within
  | cons length rest ih =>
    cases i with
    | zero =>
      rw [List.getD_cons_zero] at within
      simp
      omega
    | succ i =>
      rw [List.getD_cons_succ] at within
      have later := ih within
      rw [List.take_succ_cons, List.sum_cons, List.sum_cons]
      omega

/-- Every valid date is within the calendar. -/
theorem Date.ordinal_lt {date : Date} (valid : date.valid) : date.ordinal < lastOrdinal := by
  obtain ⟨positive, last, _, _, day, days⟩ := of_decide_eq_true valid
  have inYear := @take_sum_add (monthLengths date.year) (date.month - 1) (date.day - 1) (by omega)
  have next := daysBeforeYear_succ positive
  have bound := @daysBeforeYear_mono (date.year + 1) (by omega) (9999 - date.year)
  rw [show date.year + 1 + (9999 - date.year) = 10000 by omega] at bound
  have end_ : daysBeforeYear 10000 = lastOrdinal := by decide
  unfold Date.ordinal
  omega

/-! ## Readings of the clock -/

structure Moment where
  date : Date
  hour : Nat
  minute : Nat
  second : Nat
  microsecond : Nat
deriving DecidableEq, Repr

def Moment.valid (moment : Moment) : Bool :=
  moment.date.valid && decide (moment.hour < 24 ∧ moment.minute < 60 ∧ moment.second < 60 ∧
    moment.microsecond < 1000000)

/-- The microseconds from the first midnight. -/
def Moment.micros (moment : Moment) : Nat :=
  (((moment.date.ordinal * 24 + moment.hour) * 60 + moment.minute) * 60 + moment.second) * 1000000 +
    moment.microsecond

def momentOf (micros : Nat) : Moment where
  date := dateOf (micros / 86400000000)
  hour := micros / 3600000000 % 24
  minute := micros / 60000000 % 60
  second := micros / 1000000 % 60
  microsecond := micros % 1000000

def endOfTime : Nat := lastOrdinal * 86400000000

theorem momentOf_spec {micros : Nat} (inside : micros < endOfTime) :
    (momentOf micros).valid ∧ (momentOf micros).micros = micros := by
  have day : micros / 86400000000 < lastOrdinal :=
    (Nat.div_lt_iff_lt_mul (by decide)).mpr inside
  obtain ⟨valid, ordinal⟩ := dateOf_spec day
  constructor
  · have clock : micros / 3600000000 % 24 < 24 ∧ micros / 60000000 % 60 < 60 ∧
        micros / 1000000 % 60 < 60 ∧ micros % 1000000 < 1000000 := by omega
    exact Bool.and_eq_true_iff.mpr ⟨valid, decide_eq_true clock⟩
  · unfold Moment.micros momentOf
    simp only
    rw [ordinal]
    omega

theorem Moment.micros_lt {moment : Moment} (valid : moment.valid) : moment.micros < endOfTime := by
  obtain ⟨date, clock⟩ := Bool.and_eq_true_iff.mp valid
  obtain ⟨hour, minute, second, micro⟩ := of_decide_eq_true clock
  have day := Date.ordinal_lt date
  unfold Moment.micros endOfTime
  generalize lastOrdinal = last at day ⊢
  omega

end Calendar
