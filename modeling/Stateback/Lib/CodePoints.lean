import Mathlib.Algebra.GroupWithZero.Nat
/-!
# Texts and their bytes

A text is a list of code points, lone surrogates among them.  UTF-8 writes every text without
surrogates and reads back what it wrote.
-/

namespace CodePoints

abbrev Text := List Nat

/-- The text of a literal. -/
def text (s : String) : Text := s.toList.map Char.toNat

theorem text_injective {s t : String} (same : text s = text t) : s = t := by
  have chars : s.toList = t.toList :=
    List.map_inj_right (fun a b equal => Char.toNat_inj.mp equal) |>.mp same
  exact String.toList_inj.mp chars

/-- The order of texts is that of their first different code points. -/
def precedes : Text → Text → Bool
  | [], _ => true
  | _ :: _, [] => false
  | a :: s, b :: t => decide (a < b) || decide (a = b) && precedes s t

theorem precedes_cons {a b : Nat} {s t : Text} :
    precedes (a :: s) (b :: t) = true ↔ a < b ∨ a = b ∧ precedes s t = true := by
  simp [precedes]

theorem precedes_total (s t : Text) : precedes s t = true ∨ precedes t s = true := by
  induction s generalizing t with
  | nil => exact .inl rfl
  | cons a s ih =>
    cases t with
    | nil => exact .inr rfl
    | cons b t =>
      rw [precedes_cons, precedes_cons]
      have rest := ih t
      grind

theorem precedes_trans {s t u : Text} (first : precedes s t = true)
    (second : precedes t u = true) : precedes s u = true := by
  induction s generalizing t u with
  | nil => rfl
  | cons a s ih =>
    cases t with
    | nil => cases first
    | cons b t =>
      cases u with
      | nil => cases second
      | cons c u =>
        rw [precedes_cons] at first second ⊢
        rcases first with less | ⟨rfl, first⟩
        · rcases second with less' | ⟨rfl, -⟩
          · exact .inl (Nat.lt_trans less less')
          · exact .inl less
        · rcases second with less' | ⟨rfl, second⟩
          · exact .inl less'
          · exact .inr ⟨rfl, ih first second⟩

theorem precedes_antisymm {s t : Text} (le : precedes s t = true) (ge : precedes t s = true) :
    s = t := by
  induction s generalizing t with
  | nil =>
    cases t with
    | nil => rfl
    | cons b t => cases ge
  | cons a s ih =>
    cases t with
    | nil => cases le
    | cons b t =>
      rw [precedes_cons] at le ge
      rcases le with less | ⟨rfl, le⟩
      · rcases ge with less' | ⟨rfl, -⟩ <;> omega
      · rcases ge with less' | ⟨-, ge⟩
        · omega
        · rw [ih le ge]

def among (t : Text) (texts : List Text) : Bool := texts.any fun other => decide (other = t)

theorem among_iff {t : Text} {texts : List Text} : among t texts = true ↔ t ∈ texts := by
  simp [among]

/-- The string of a text without surrogates. -/
def string (t : Text) : String := String.ofList (t.map Char.ofNat)

theorem string_text (s : String) : string (text s) = s := by
  have back : Char.ofNat ∘ Char.toNat = id := funext Char.ofNat_toNat
  rw [string, text, List.map_map, back, List.map_id, String.ofList_toList]

/-- The part of `width` code points from position `start`. -/
def slice (start width : Nat) (t : Text) : Text := (t.drop start).take width

/-- A code point that UTF-8 can write. -/
def isScalar (c : Nat) : Bool := decide (c < 0xD800 ∨ 0xDFFF < c ∧ c < 0x110000)

def writeChar (c : Nat) : List UInt8 :=
  if c < 0x80 then [UInt8.ofNat c]
  else if c < 0x800 then [UInt8.ofNat (0xC0 + c / 64), UInt8.ofNat (0x80 + c % 64)]
  else if c < 0x10000 then
    [UInt8.ofNat (0xE0 + c / 4096), UInt8.ofNat (0x80 + c / 64 % 64), UInt8.ofNat (0x80 + c % 64)]
  else
    [UInt8.ofNat (0xF0 + c / 262144), UInt8.ofNat (0x80 + c / 4096 % 64),
      UInt8.ofNat (0x80 + c / 64 % 64), UInt8.ofNat (0x80 + c % 64)]

def write (t : Text) : List UInt8 := t.flatMap writeChar

/-- Strict encoding. -/
def encode (t : Text) : Option (List UInt8) :=
  if t.all isScalar then some (write t) else none

def isTail (b : Nat) : Bool := decide (0x80 ≤ b ∧ b < 0xC0)

def two (a b : Nat) : Nat := (a - 0xC0) * 64 + (b - 0x80)
def three (a b c : Nat) : Nat := (a - 0xE0) * 4096 + (b - 0x80) * 64 + (c - 0x80)
def four (a b c d : Nat) : Nat :=
  (a - 0xF0) * 262144 + (b - 0x80) * 4096 + (c - 0x80) * 64 + (d - 0x80)

/-- Strict decoding: no overlong forms, no surrogates, nothing above the last code point. -/
def decode : List UInt8 → Option Text
  | [] => some []
  | a :: rest =>
    if a.toNat < 0x80 then (decode rest).map (a.toNat :: ·)
    else
      match rest with
      | [] => none
      | b :: rest =>
        if 0xC2 ≤ a.toNat ∧ a.toNat < 0xE0 ∧ isTail b.toNat then
          (decode rest).map (two a.toNat b.toNat :: ·)
        else
          match rest with
          | [] => none
          | c :: rest =>
            if 0xE0 ≤ a.toNat ∧ a.toNat < 0xF0 ∧ isTail b.toNat ∧ isTail c.toNat ∧
                0x800 ≤ three a.toNat b.toNat c.toNat ∧
                isScalar (three a.toNat b.toNat c.toNat) then
              (decode rest).map (three a.toNat b.toNat c.toNat :: ·)
            else
              match rest with
              | [] => none
              | d :: rest =>
                if 0xF0 ≤ a.toNat ∧ isTail b.toNat ∧ isTail c.toNat ∧ isTail d.toNat ∧
                    0x10000 ≤ four a.toNat b.toNat c.toNat d.toNat ∧
                    four a.toNat b.toNat c.toNat d.toNat < 0x110000 then
                  (decode rest).map (four a.toNat b.toNat c.toNat d.toNat :: ·)
                else none

def decodeAscii (bytes : List UInt8) : Option Text :=
  if bytes.all (fun b => decide (b.toNat < 0x80)) then some (bytes.map UInt8.toNat) else none

/-- How many bytes a code point takes. -/
def width (c : Nat) : Nat :=
  if c < 0x80 then 1 else if c < 0x800 then 2 else if c < 0x10000 then 3 else 4

def size (t : Text) : Nat := (t.map width).sum

theorem text_scalar (s : String) : (text s).all isScalar := by
  rw [text, List.all_map, List.all_eq_true]
  intro c _
  have valid := c.valid
  exact decide_eq_true (by
    rcases valid with low | high
    · exact .inl low
    · exact .inr high)

theorem toNat_ofNat {n : Nat} (small : n < 256) : (UInt8.ofNat n).toNat = n := by
  rw [UInt8.toNat_ofNat']
  exact Nat.mod_eq_of_lt small

theorem writeChar_length (c : Nat) : (writeChar c).length = width c := by
  unfold writeChar width
  split
  · rfl
  · split
    · rfl
    · split <;> rfl

theorem write_length (t : Text) : (write t).length = size t := by
  induction t with
  | nil => rfl
  | cons c t ih =>
    rw [write, List.flatMap_cons, List.length_append, writeChar_length]
    exact congrArg (width c + ·) ih

theorem decode_writeChar {c : Nat} (scalar : isScalar c) (rest : List UInt8) :
    decode (writeChar c ++ rest) = (decode rest).map (c :: ·) := by
  unfold isScalar at scalar
  replace scalar := of_decide_eq_true scalar
  unfold writeChar
  split
  case isTrue one =>
    rw [List.singleton_append, decode.eq_def]
    simp only [toNat_ofNat (show c < 256 by omega), if_pos one]
  case isFalse notOne =>
    split
    case isTrue small =>
      have code : two (0xC0 + c / 64) (0x80 + c % 64) = c := by
        unfold two
        omega
      have tail : isTail (0x80 + c % 64) := by
        unfold isTail
        exact decide_eq_true (by omega)
      rw [List.cons_append, List.singleton_append, decode.eq_def]
      simp only [toNat_ofNat (show 0xC0 + c / 64 < 256 by omega),
        toNat_ofNat (show 0x80 + c % 64 < 256 by omega)]
      rw [if_neg (by omega), if_pos ⟨by omega, by omega, tail⟩, code]
    case isFalse notTwo =>
      have low : isTail (0x80 + c % 64) := by
        unfold isTail
        exact decide_eq_true (by omega)
      have middle : isTail (0x80 + c / 64 % 64) := by
        unfold isTail
        exact decide_eq_true (by omega)
      split
      case isTrue small =>
        have code : three (0xE0 + c / 4096) (0x80 + c / 64 % 64) (0x80 + c % 64) = c := by
          unfold three
          omega
        have scalar' : isScalar c := by
          unfold isScalar
          exact decide_eq_true scalar
        simp only [List.cons_append, List.nil_append]
        rw [decode.eq_def]
        simp only [toNat_ofNat (show 0xE0 + c / 4096 < 256 by omega),
          toNat_ofNat (show 0x80 + c / 64 % 64 < 256 by omega),
          toNat_ofNat (show 0x80 + c % 64 < 256 by omega)]
        rw [if_neg (by omega), if_neg (by omega), if_pos ⟨by omega, by omega, middle, low, by omega,
          by rw [code]; exact scalar'⟩, code]
      case isFalse notThree =>
        have code : four (0xF0 + c / 262144) (0x80 + c / 4096 % 64) (0x80 + c / 64 % 64)
            (0x80 + c % 64) = c := by
          unfold four
          omega
        have high : isTail (0x80 + c / 4096 % 64) := by
          unfold isTail
          exact decide_eq_true (by omega)
        simp only [List.cons_append, List.nil_append]
        rw [decode.eq_def]
        simp only [toNat_ofNat (show 0xF0 + c / 262144 < 256 by omega),
          toNat_ofNat (show 0x80 + c / 4096 % 64 < 256 by omega),
          toNat_ofNat (show 0x80 + c / 64 % 64 < 256 by omega),
          toNat_ofNat (show 0x80 + c % 64 < 256 by omega)]
        rw [if_neg (by omega), if_neg (by omega), if_neg (by omega),
          if_pos ⟨by omega, high, middle, low, by omega, by omega⟩, code]

theorem decode_write {t : Text} (scalars : t.all isScalar) : decode (write t) = some t := by
  induction t with
  | nil => rfl
  | cons c t ih =>
    rw [List.all_cons, Bool.and_eq_true] at scalars
    rw [write, List.flatMap_cons, decode_writeChar scalars.1]
    have rest := ih scalars.2
    rw [write] at rest
    rw [rest]
    rfl

theorem decode_replicate {c : Nat} (ascii : c < 0x80) (n : Nat) :
    decode (List.replicate n (UInt8.ofNat c)) = some (List.replicate n c) := by
  have scalar : isScalar c := decide_eq_true (by omega)
  have one : writeChar c = [UInt8.ofNat c] := if_pos ascii
  induction n with
  | zero => rfl
  | succ n ih =>
    have step := decode_writeChar scalar (List.replicate n (UInt8.ofNat c))
    rw [one, ih] at step
    exact step

theorem decode_encode {t : Text} {bytes : List UInt8} (encoded : encode t = some bytes) :
    decode bytes = some t := by
  unfold encode at encoded
  split at encoded
  case isTrue scalars =>
    rw [← Option.some.inj encoded]
    exact decode_write scalars
  case isFalse => cases encoded

/-- ASCII is its own bytes. -/
theorem decodeAscii_write {t : Text} (ascii : t.all fun c => decide (c < 0x80)) :
    decodeAscii (write t) = some t := by
  have bytes : write t = t.map UInt8.ofNat := by
    induction t with
    | nil => rfl
    | cons c t ih =>
      rw [List.all_cons, Bool.and_eq_true] at ascii
      have one : writeChar c = [UInt8.ofNat c] := if_pos (of_decide_eq_true ascii.1)
      rw [List.map_cons, ← ih ascii.2, write, List.flatMap_cons, one]
      rfl
  rw [List.all_eq_true] at ascii
  have same : ∀ c ∈ t, (UInt8.ofNat c).toNat = c := fun c member =>
    toNat_ofNat (Nat.lt_trans (of_decide_eq_true (ascii c member)) (by decide))
  have back : (write t).map UInt8.toNat = t := by
    rw [bytes, List.map_map]
    exact (List.map_congr_left same).trans (List.map_id t)
  have low : (write t).all (fun b => decide (b.toNat < 0x80)) := by
    rw [bytes, List.all_map, List.all_eq_true]
    intro c member
    rw [Function.comp_apply, same c member]
    exact ascii c member
  rw [decodeAscii, if_pos low, back]

theorem size_cons (c : Nat) (t : Text) : size (c :: t) = width c + size t := by
  simp [size]

theorem size_append (s t : Text) : size (s ++ t) = size s + size t := by
  simp [size]

/-- One more code point read, of `n` bytes. -/
theorem read_cons {code n : Nat} {rest : List UInt8} {t : Text}
    (ih : ∀ t, decode rest = some t → size t = rest.length ∧ t.all isScalar)
    (read : (decode rest).map (code :: ·) = some t)
    (bytes : width code = n) (scalar : isScalar code) :
    size t = n + rest.length ∧ t.all isScalar := by
  obtain ⟨tail, readTail, same⟩ := Option.map_eq_some_iff.mp read
  obtain ⟨length, scalars⟩ := ih tail readTail
  rw [← same, size_cons, length, bytes, List.all_cons, scalar, scalars]
  exact ⟨rfl, rfl⟩

/-- Decoding reads as many bytes as writing the text again would take. -/
theorem size_of_decode (bytes : List UInt8) :
    ∀ t, decode bytes = some t → size t = bytes.length ∧ t.all isScalar := by
  fun_induction decode bytes with
  | case1 =>
    intro t read
    cases Option.some.inj read
    exact ⟨rfl, rfl⟩
  | case2 a rest one ih =>
    intro t read
    have scalar : isScalar a.toNat := decide_eq_true (by omega)
    have := read_cons ih read (if_pos one) scalar
    rw [List.length_cons, Nat.add_comm]
    exact this
  | case3 | case5 | case7 | case9 => exact fun t read => by cases read
  | case4 a notOne b rest shape ih =>
    intro t read
    obtain ⟨lower, upper, tail⟩ := shape
    have low := of_decide_eq_true tail
    have range : 0x80 ≤ two a.toNat b.toNat ∧ two a.toNat b.toNat < 0x800 := by
      unfold two
      omega
    have bytes : width (two a.toNat b.toNat) = 2 := by
      unfold width
      rw [if_neg (by omega), if_pos range.2]
    have scalar : isScalar (two a.toNat b.toNat) := decide_eq_true (by omega)
    obtain ⟨length, scalars⟩ := read_cons ih read bytes scalar
    rw [List.length_cons, List.length_cons]
    exact ⟨by omega, scalars⟩
  | case6 a notOne b notTwo c rest shape ih =>
    intro t read
    obtain ⟨lower, upper, tail, tail', long, scalar⟩ := shape
    have low := of_decide_eq_true tail
    have low' := of_decide_eq_true tail'
    have small : three a.toNat b.toNat c.toNat < 0x10000 := by
      unfold three
      omega
    have bytes : width (three a.toNat b.toNat c.toNat) = 3 := by
      unfold width
      rw [if_neg (by omega), if_neg (by omega), if_pos small]
    obtain ⟨length, scalars⟩ := read_cons ih read bytes scalar
    rw [List.length_cons, List.length_cons, List.length_cons]
    exact ⟨by omega, scalars⟩
  | case8 a notOne b notTwo c notThree d rest shape ih =>
    intro t read
    obtain ⟨lower, tail, tail', tail'', long, last⟩ := shape
    have bytes : width (four a.toNat b.toNat c.toNat d.toNat) = 4 := by
      unfold width
      rw [if_neg (by omega), if_neg (by omega), if_neg (by omega)]
    have scalar : isScalar (four a.toNat b.toNat c.toNat d.toNat) := decide_eq_true (by omega)
    obtain ⟨length, scalars⟩ := read_cons ih read bytes scalar
    rw [List.length_cons, List.length_cons, List.length_cons, List.length_cons]
    exact ⟨by omega, scalars⟩

end CodePoints
