import Mathlib.Data.List.Induction
import Stateback.Lib.CodePoints
/-!
# Decimal numerals

Numbers as decimal digits, as many as needed or a fixed number of them.
-/

namespace Decimals

open CodePoints

def isDigit (c : Nat) : Bool := decide (48 ≤ c ∧ c < 58)

/-- The number that a list of digits names. -/
def value (digits : Text) : Nat := digits.foldl (fun n c => 10 * n + (c - 48)) 0

/-- The last `width` digits. -/
def fixed : Nat → Nat → Text
  | 0, _ => []
  | width + 1, n => fixed width (n / 10) ++ [48 + n % 10]

def decimalWithin : Nat → Nat → Text
  | 0, n => [48 + n % 10]
  | fuel + 1, n => if n < 10 then [48 + n] else decimalWithin fuel (n / 10) ++ [48 + n % 10]

/-- As many digits as the number has. -/
def decimal (n : Nat) : Text := decimalWithin n n

theorem value_append (digits : Text) (c : Nat) :
    value (digits ++ [c]) = 10 * value digits + (c - 48) := by
  simp [value]

theorem fixed_length (width n : Nat) : (fixed width n).length = width := by
  induction width generalizing n with
  | zero => rfl
  | succ width ih => rw [fixed, List.length_append, ih, List.length_singleton]

theorem fixed_digits (width n : Nat) : (fixed width n).all isDigit := by
  induction width generalizing n with
  | zero => rfl
  | succ width ih =>
    have last : isDigit (48 + n % 10) := decide_eq_true (by omega)
    rw [fixed, List.all_append, ih, List.all_cons, last]
    rfl

theorem value_fixed {width n : Nat} (small : n < 10 ^ width) : value (fixed width n) = n := by
  induction width generalizing n with
  | zero =>
    rw [Nat.pow_zero] at small
    simp [fixed, value]
    omega
  | succ width ih =>
    have head : n / 10 < 10 ^ width := by
      rw [Nat.pow_succ] at small
      omega
    rw [fixed, value_append, ih head]
    omega

theorem value_lt {digits : Text} (all : digits.all isDigit) :
    value digits < 10 ^ digits.length := by
  induction digits using List.reverseRecOn with
  | nil => decide
  | append_singleton digits c ih =>
    rw [List.all_append, Bool.and_eq_true] at all
    have digit : isDigit c := by simpa using all.2
    have range := of_decide_eq_true digit
    have below := ih all.1
    rw [value_append, List.length_append, List.length_singleton, Nat.pow_succ]
    omega

/-! ## As many digits as needed -/

theorem decimalWithin_enough {fuel fuel' n : Nat} (enough : n ≤ fuel) (enough' : n ≤ fuel') :
    decimalWithin fuel n = decimalWithin fuel' n := by
  induction fuel generalizing fuel' n with
  | zero =>
    cases fuel' with
    | zero => rfl
    | succ fuel' =>
      have : n = 0 := by omega
      subst this
      rfl
  | succ fuel ih =>
    cases fuel' with
    | zero =>
      have : n = 0 := by omega
      subst this
      rfl
    | succ fuel' =>
      rw [decimalWithin, decimalWithin]
      split
      case isTrue => rfl
      case isFalse large => rw [@ih fuel' _ (by omega) (by omega)]

theorem decimal_small {n : Nat} (small : n < 10) : decimal n = [48 + n] := by
  unfold decimal
  cases n with
  | zero => rfl
  | succ n => rw [decimalWithin, if_pos small]

theorem decimal_large {n : Nat} (large : 10 ≤ n) :
    decimal n = decimal (n / 10) ++ [48 + n % 10] := by
  unfold decimal
  cases n with
  | zero => omega
  | succ n =>
    rw [decimalWithin, if_neg (by omega)]
    rw [@decimalWithin_enough n ((n + 1) / 10) _ (by omega) (Nat.le_refl _)]

/-- A property of numerals, by the last digit. -/
theorem decimal_induction {motive : Nat → Prop} (small : ∀ n, n < 10 → motive n)
    (large : ∀ n, 10 ≤ n → motive (n / 10) → motive n) (n : Nat) : motive n := by
  induction n using Nat.strongRecOn with
  | ind n ih =>
    rcases Nat.lt_or_ge n 10 with below | above
    · exact small n below
    · exact large n above (ih (n / 10) (by omega))

theorem value_decimal (n : Nat) : value (decimal n) = n := by
  induction n using decimal_induction with
  | small n below =>
    rw [decimal_small below]
    simp [value]
  | large n above ih =>
    rw [decimal_large above, value_append, ih]
    omega

theorem decimal_digits (n : Nat) : (decimal n).all isDigit := by
  induction n using decimal_induction with
  | small n below =>
    have digit : isDigit (48 + n) := decide_eq_true (by omega)
    rw [decimal_small below, List.all_cons, digit]
    rfl
  | large n above ih =>
    have last : isDigit (48 + n % 10) := decide_eq_true (by omega)
    rw [decimal_large above, List.all_append, ih, List.all_cons, last]
    rfl

/-- Only zero starts with a zero. -/
theorem decimal_head (n : Nat) :
    ∃ c rest, decimal n = c :: rest ∧ isDigit c ∧ (c = 48 → rest = []) := by
  induction n using decimal_induction with
  | small n below =>
    exact ⟨48 + n, [], decimal_small below, decide_eq_true (by omega), fun _ => rfl⟩
  | large n above ih =>
    obtain ⟨c, rest, shape, digit, zero⟩ := ih
    refine ⟨c, rest ++ [48 + n % 10], ?_, digit, fun leading => ?_⟩
    · rw [decimal_large above, shape, List.cons_append]
    · have named := value_decimal (n / 10)
      rw [shape, leading, zero leading] at named
      simp only [value, List.foldl_cons, List.foldl_nil] at named
      omega

theorem decimal_length_le {n width : Nat} (positive : 0 < width) :
    (decimal n).length ≤ width ↔ n < 10 ^ width := by
  induction n using decimal_induction generalizing width with
  | small n below =>
    have power : 10 ≤ 10 ^ width := Nat.le_self_pow (by omega) 10
    rw [decimal_small below, List.length_singleton]
    omega
  | large n above ih =>
    rw [decimal_large above, List.length_append, List.length_singleton]
    cases width with
    | zero => omega
    | succ width =>
      cases width with
      | zero =>
        obtain ⟨c, rest, shape, _⟩ := decimal_head (n / 10)
        rw [shape, List.length_cons]
        omega
      | succ width =>
        have shorter := @ih (width + 1) (by omega)
        rw [Nat.pow_succ]
        omega

/-- No numeral is longer than another that names the same number. -/
theorem decimal_shortest {digits : Text} (all : digits.all isDigit) (some : digits ≠ []) :
    (decimal (value digits)).length ≤ digits.length :=
  (decimal_length_le (List.length_pos_iff.mpr some)).mpr (value_lt all)

end Decimals
