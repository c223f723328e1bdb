import Mathlib.Data.List.DropRight
import Stateback.Lib.CodePoints
/-!
# Base64

Three bytes are four letters; the last group is padded.  Decoding is a machine over the letters,
strict or lenient, and gives back what was encoded in both.
-/

namespace Base64

open CodePoints

def padding : Nat := 61

def letter (sextet : Nat) : Nat :=
  if sextet < 26 then 65 + sextet
  else if sextet < 52 then 71 + sextet
  else if sextet < 62 then sextet - 4
  else if sextet = 62 then 43
  else 47

def sextet? (c : Nat) : Option Nat :=
  if 65 ≤ c ∧ c ≤ 90 then some (c - 65)
  else if 97 ≤ c ∧ c ≤ 122 then some (c - 71)
  else if 48 ≤ c ∧ c ≤ 57 then some (c + 4)
  else if c = 43 then some 62
  else if c = 47 then some 63
  else none

def encode : List UInt8 → Text
  | [] => []
  | [a] => [letter (a.toNat / 4), letter (a.toNat % 4 * 16), padding, padding]
  | [a, b] =>
    [letter (a.toNat / 4), letter (a.toNat % 4 * 16 + b.toNat / 16), letter (b.toNat % 16 * 4),
      padding]
  | a :: b :: c :: rest =>
    letter (a.toNat / 4) :: letter (a.toNat % 4 * 16 + b.toNat / 16) ::
      letter (b.toNat % 16 * 4 + c.toNat / 64) :: letter (c.toNat % 64) :: encode rest

/-- Where the decoder stands within a group of four letters. -/
structure Quad where
  position : Nat
  left : Nat
  pads : Nat
  padded : Bool
deriving DecidableEq, Repr

def Quad.start : Quad := ⟨0, 0, 0, false⟩

/-- The byte that a letter completes, if any, and where the decoder stands after it. -/
def Quad.next (quad : Quad) (sextet : Nat) : List UInt8 × Quad :=
  match quad.position with
  | 0 => ([], ⟨1, sextet, 0, quad.padded⟩)
  | 1 => ([UInt8.ofNat (quad.left * 4 + sextet / 16)], ⟨2, sextet % 16, 0, quad.padded⟩)
  | 2 => ([UInt8.ofNat (quad.left * 16 + sextet / 4)], ⟨3, sextet % 4, 0, quad.padded⟩)
  | _ => ([UInt8.ofNat (quad.left * 64 + sextet)], ⟨0, 0, 0, quad.padded⟩)

def run (strict : Bool) : Quad → Text → Option (List UInt8)
  | quad, [] => if quad.position = 0 then some [] else none
  | quad, c :: rest =>
    if c = padding then
      if strict ∧ quad.position = 0 then none
      else if 2 ≤ quad.position ∧ 4 ≤ quad.position + (quad.pads + 1) then
        if strict ∧ rest ≠ [] then none else some []
      else
        run strict ⟨quad.position, quad.left,
          if 2 ≤ quad.position then quad.pads + 1 else quad.pads, true⟩ rest
    else
      match sextet? c with
      | none => if strict then none else run strict quad rest
      | some sextet =>
        if strict ∧ quad.padded then none
        else (run strict (quad.next sextet).2 rest).map ((quad.next sextet).1 ++ ·)

/-- Only ASCII text is decoded at all. -/
def decode (strict : Bool) (t : Text) : Option (List UInt8) :=
  if t.all (fun c => decide (c < 128)) then run strict .start t else none

theorem sextet?_letter {n : Nat} (small : n < 64) : sextet? (letter n) = some n := by
  have all : ∀ n : Fin 64, sextet? (letter n) = some n.val := by decide
  exact all ⟨n, small⟩

theorem letter_ne_padding {n : Nat} (small : n < 64) : letter n ≠ padding := by
  have all : ∀ n : Fin 64, letter n ≠ padding := by decide
  exact all ⟨n, small⟩

theorem letter_ascii {n : Nat} (small : n < 64) : letter n < 128 := by
  have all : ∀ n : Fin 64, letter n < 128 := by decide
  exact all ⟨n, small⟩

theorem run_letter {strict : Bool} {quad : Quad} {n : Nat} {rest : Text} (small : n < 64)
    (unpadded : quad.padded = false) :
    run strict quad (letter n :: rest) =
      (run strict (quad.next n).2 rest).map ((quad.next n).1 ++ ·) := by
  rw [run, if_neg (letter_ne_padding small), sextet?_letter small]
  simp [unpadded]

theorem run_encode (strict : Bool) : ∀ bytes, run strict .start (encode bytes) = some bytes
  | [] => rfl
  | [a] => by
    have small := a.toNat_lt
    have byte : UInt8.ofNat (a.toNat / 4 * 4 + a.toNat % 4 * 16 / 16) = a := by
      rw [show a.toNat / 4 * 4 + a.toNat % 4 * 16 / 16 = a.toNat by omega, UInt8.ofNat_toNat]
    rw [encode, run_letter (by omega) rfl, run_letter (by omega) rfl]
    simp only [Quad.start, Quad.next, byte]
    simp [run]
  | [a, b] => by
    have smallA := a.toNat_lt
    have smallB := b.toNat_lt
    have first : UInt8.ofNat (a.toNat / 4 * 4 + (a.toNat % 4 * 16 + b.toNat / 16) / 16) = a := by
      rw [show a.toNat / 4 * 4 + (a.toNat % 4 * 16 + b.toNat / 16) / 16 = a.toNat by omega,
        UInt8.ofNat_toNat]
    have second : UInt8.ofNat ((a.toNat % 4 * 16 + b.toNat / 16) % 16 * 16 +
        b.toNat % 16 * 4 / 4) = b := by
      rw [show (a.toNat % 4 * 16 + b.toNat / 16) % 16 * 16 + b.toNat % 16 * 4 / 4 = b.toNat by
        omega, UInt8.ofNat_toNat]
    rw [encode, run_letter (by omega) rfl, run_letter (by omega) rfl, run_letter (by omega) rfl]
    simp only [Quad.start, Quad.next, first, second]
    simp [run]
  | a :: b :: c :: rest => by
    have smallA := a.toNat_lt
    have smallB := b.toNat_lt
    have smallC := c.toNat_lt
    have first : UInt8.ofNat (a.toNat / 4 * 4 + (a.toNat % 4 * 16 + b.toNat / 16) / 16) = a := by
      rw [show a.toNat / 4 * 4 + (a.toNat % 4 * 16 + b.toNat / 16) / 16 = a.toNat by omega,
        UInt8.ofNat_toNat]
    have second : UInt8.ofNat ((a.toNat % 4 * 16 + b.toNat / 16) % 16 * 16 +
        (b.toNat % 16 * 4 + c.toNat / 64) / 4) = b := by
      rw [show (a.toNat % 4 * 16 + b.toNat / 16) % 16 * 16 +
          (b.toNat % 16 * 4 + c.toNat / 64) / 4 = b.toNat by omega, UInt8.ofNat_toNat]
    have third : UInt8.ofNat ((b.toNat % 16 * 4 + c.toNat / 64) % 4 * 64 + c.toNat % 64) = c := by
      rw [show (b.toNat % 16 * 4 + c.toNat / 64) % 4 * 64 + c.toNat % 64 = c.toNat by omega,
        UInt8.ofNat_toNat]
    rw [encode, run_letter (by omega) rfl, run_letter (by omega) rfl, run_letter (by omega) rfl,
      run_letter (by omega) rfl]
    have tail := run_encode strict rest
    rw [Quad.start] at tail
    simp only [Quad.start, Quad.next, first, second, third, tail, Option.map_some]
    rfl

/-- Encoded text is letters, a multiple of four with up to two pads after them. -/
theorem encode_shape : ∀ bytes, ∃ letters pads,
    encode bytes = letters ++ List.replicate pads padding ∧
    (∀ c ∈ letters, ∃ n, n < 64 ∧ c = letter n) ∧ pads ≤ 2 ∧ (letters.length + pads) % 4 = 0
  | [] => ⟨[], 0, rfl, by simp, by omega, rfl⟩
  | [a] => by
    have small := a.toNat_lt
    refine ⟨[letter (a.toNat / 4), letter (a.toNat % 4 * 16)], 2, rfl, ?_, by omega, by simp⟩
    simp only [List.forall_mem_cons, List.not_mem_nil, false_implies, implies_true, and_true]
    exact ⟨⟨_, by omega, rfl⟩, ⟨_, by omega, rfl⟩⟩
  | [a, b] => by
    have smallA := a.toNat_lt
    have smallB := b.toNat_lt
    refine ⟨[letter (a.toNat / 4), letter (a.toNat % 4 * 16 + b.toNat / 16),
      letter (b.toNat % 16 * 4)], 1, rfl, ?_, by omega, by simp⟩
    simp only [List.forall_mem_cons, List.not_mem_nil, false_implies, implies_true, and_true]
    exact ⟨⟨_, by omega, rfl⟩, ⟨_, by omega, rfl⟩, ⟨_, by omega, rfl⟩⟩
  | a :: b :: c :: rest => by
    have smallA := a.toNat_lt
    have smallB := b.toNat_lt
    have smallC := c.toNat_lt
    obtain ⟨letters, pads, shape, all, few, whole⟩ := encode_shape rest
    refine ⟨letter (a.toNat / 4) :: letter (a.toNat % 4 * 16 + b.toNat / 16) ::
      letter (b.toNat % 16 * 4 + c.toNat / 64) :: letter (c.toNat % 64) :: letters, pads, ?_, ?_,
      few, ?_⟩
    · rw [encode, shape]
      rfl
    · simp only [List.forall_mem_cons]
      exact ⟨⟨_, by omega, rfl⟩, ⟨_, by omega, rfl⟩, ⟨_, by omega, rfl⟩, ⟨_, by omega, rfl⟩, all⟩
    · simp only [List.length_cons]
      omega

theorem encode_ascii (bytes : List UInt8) : (encode bytes).all fun c => decide (c < 128) := by
  obtain ⟨letters, pads, shape, all, _⟩ := encode_shape bytes
  rw [shape, List.all_append, Bool.and_eq_true]
  constructor
  · rw [List.all_eq_true]
    intro c member
    obtain ⟨n, small, same⟩ := all c member
    rw [same]
    exact decide_eq_true (letter_ascii small)
  · rw [List.all_replicate]
    cases pads <;> rfl

theorem decode_encode (strict : Bool) (bytes : List UInt8) :
    decode strict (encode bytes) = some bytes := by
  rw [decode, if_pos (encode_ascii bytes), run_encode]

theorem encode_length : ∀ bytes, (encode bytes).length = (bytes.length + 2) / 3 * 4
  | [] => by simp [encode]
  | [a] => by simp [encode]
  | [a, b] => by simp [encode]
  | a :: b :: c :: rest => by
    have tail := encode_length rest
    rw [encode]
    simp only [List.length_cons]
    omega

/-! ## The alphabet for addresses -/

def toUrl (c : Nat) : Nat := if c = 43 then 45 else if c = 47 then 95 else c
def ofUrl (c : Nat) : Nat := if c = 45 then 43 else if c = 95 then 47 else c

def urlEncode (bytes : List UInt8) : Text := (encode bytes).map toUrl

def urlDecode (t : Text) : Option (List UInt8) :=
  if t.all (fun c => decide (c < 128)) then run false .start (t.map ofUrl) else none

/-- Without its padding. -/
def unpad (t : Text) : Text := t.rdropWhile (· == padding)

/-- With the padding that its length asks for. -/
def pad (t : Text) : Text := t ++ List.replicate ((4 - t.length % 4) % 4) padding

theorem ofUrl_toUrl {n : Nat} (small : n < 64) : ofUrl (toUrl (letter n)) = letter n := by
  have all : ∀ n : Fin 64, ofUrl (toUrl (letter n)) = letter n := by decide
  exact all ⟨n, small⟩

theorem toUrl_letter {n : Nat} (small : n < 64) :
    toUrl (letter n) < 128 ∧ toUrl (letter n) ≠ padding := by
  have all : ∀ n : Fin 64, toUrl (letter n) < 128 ∧ toUrl (letter n) ≠ padding := by decide
  exact all ⟨n, small⟩

theorem unpad_replicate {t : Text} (pads : Nat) (last : ∀ c ∈ t, c ≠ padding) :
    unpad (t ++ List.replicate pads padding) = t := by
  induction pads with
  | zero =>
    rw [List.replicate_zero, List.append_nil, unpad, List.rdropWhile_eq_self_iff]
    intro some
    simp [last _ (List.getLast_mem some)]
  | succ pads ih =>
    have padded : (padding == padding) = true := beq_self_eq_true padding
    rw [List.replicate_succ', ← List.append_assoc, unpad,
      List.rdropWhile_concat, if_pos padded]
    exact ih

/-- What is cut off the end is put back, and decodes to what was encoded. -/
theorem urlDecode_urlEncode (bytes : List UInt8) :
    urlDecode (pad (unpad (urlEncode bytes))) = some bytes := by
  obtain ⟨letters, pads, shape, all, few, whole⟩ := encode_shape bytes
  have split : urlEncode bytes = letters.map toUrl ++ List.replicate pads padding := by
    rw [urlEncode, shape, List.map_append, List.map_replicate]
    rfl
  have letters_ne : ∀ c ∈ letters.map toUrl, c ≠ padding := by
    intro c member
    obtain ⟨l, member', same⟩ := List.mem_map.mp member
    obtain ⟨n, small, isLetter⟩ := all l member'
    rw [← same, isLetter]
    exact (toUrl_letter small).2
  have padded : pad (unpad (urlEncode bytes)) = urlEncode bytes := by
    have missing : (4 - (letters.map toUrl).length % 4) % 4 = pads := by
      rw [List.length_map]
      omega
    rw [split, unpad_replicate pads letters_ne, pad, missing]
  have back : (urlEncode bytes).map ofUrl = encode bytes := by
    rw [urlEncode, List.map_map, shape, List.map_append, List.map_replicate]
    have letters_back : letters.map (ofUrl ∘ toUrl) = letters.map id := by
      refine List.map_congr_left fun c member => ?_
      obtain ⟨n, small, isLetter⟩ := all c member
      rw [isLetter]
      exact ofUrl_toUrl small
    rw [letters_back, List.map_id]
    rfl
  have ascii : (urlEncode bytes).all fun c => decide (c < 128) := by
    rw [split, List.all_append, Bool.and_eq_true]
    constructor
    · rw [List.all_eq_true]
      intro c member
      obtain ⟨l, member', same⟩ := List.mem_map.mp member
      obtain ⟨n, small, isLetter⟩ := all l member'
      rw [← same, isLetter]
      exact decide_eq_true (toUrl_letter small).1
    · rw [List.all_replicate]
      cases pads <;> rfl
  rw [padded, urlDecode, if_pos ascii, back, run_encode]

end Base64
