/-!
# Percent-encoding

Every byte of the UTF-8 form is written as itself or as `%` and two hexadecimal digits.  The
encoding is injective and contains none of the characters that have to be written out.
-/

namespace Percent

/-- The characters that are never quoted. -/
def unreserved : List Char :=
  "ABCDEFGHIJKLMNOPQRSTUVWXYZabcdefghijklmnopqrstuvwxyz0123456789_.-~".toList

def hexDigit (n : Nat) : Char := "0123456789ABCDEF".toList.getD n '0'

def quoteByte (byte : UInt8) : List Char :=
  if Char.ofNat byte.toNat ∈ unreserved then [Char.ofNat byte.toNat]
  else ['%', hexDigit (byte.toNat / 16), hexDigit (byte.toNat % 16)]

def quote (s : String) : String :=
  String.ofList (s.toByteArray.data.toList.flatMap quoteByte)

theorem hexDigit_injective : ∀ {m n : Nat}, m < 16 → n < 16 → hexDigit m = hexDigit n → m = n := by
  have all : ∀ m n : Fin 16, hexDigit m = hexDigit n → m = n := by decide
  intro m n hm hn same
  exact congrArg Fin.val (all ⟨m, hm⟩ ⟨n, hn⟩ same)

theorem charOfByte_injective {a b : UInt8}
    (same : Char.ofNat a.toNat = Char.ofNat b.toNat) : a = b := by
  have back : ∀ c : UInt8, (Char.ofNat c.toNat).toNat = c.toNat := by
    intro c
    have small := c.toNat_lt
    have valid : c.toNat.isValidChar := .inl (by omega)
    rw [Char.ofNat, dif_pos valid]
    rfl
  have := congrArg Char.toNat same
  rw [back, back] at this
  exact UInt8.toNat_inj.mp this

/-- The code of a byte is a prefix of no other byte's. -/
theorem quoteByte_append {a b : UInt8} {rest rest' : List Char}
    (same : quoteByte a ++ rest = quoteByte b ++ rest') : a = b ∧ rest = rest' := by
  have percent : '%' ∉ unreserved := by decide
  unfold quoteByte at same
  split at same <;> split at same
  case isTrue.isTrue =>
    simp only [List.singleton_append, List.cons.injEq] at same
    exact ⟨charOfByte_injective same.1, same.2⟩
  case isTrue.isFalse plain _ =>
    simp only [List.cons_append, List.cons.injEq] at same
    exact absurd (same.1 ▸ plain) percent
  case isFalse.isTrue _ plain =>
    simp only [List.cons_append, List.cons.injEq] at same
    exact absurd (same.1 ▸ plain) percent
  case isFalse.isFalse =>
    simp only [List.cons_append, List.nil_append, List.cons.injEq, true_and] at same
    have ha := a.toNat_lt
    have hb := b.toNat_lt
    have high := hexDigit_injective (by omega) (by omega) same.1
    have low := hexDigit_injective (by omega) (by omega) same.2.1
    exact ⟨UInt8.toNat_inj.mp (by omega), same.2.2⟩

theorem flatMap_quoteByte_injective : ∀ {xs ys : List UInt8},
    xs.flatMap quoteByte = ys.flatMap quoteByte → xs = ys
  | [], [], _ => rfl
  | [], y :: ys, same => by
    simp only [List.flatMap_nil, List.flatMap_cons] at same
    unfold quoteByte at same
    split at same <;> cases same
  | x :: xs, [], same => by
    simp only [List.flatMap_nil, List.flatMap_cons] at same
    unfold quoteByte at same
    split at same <;> cases same
  | x :: xs, y :: ys, same => by
    simp only [List.flatMap_cons] at same
    have step := quoteByte_append same
    rw [step.1, flatMap_quoteByte_injective step.2]

theorem quote_injective {s t : String} (same : quote s = quote t) : s = t := by
  have codes := flatMap_quoteByte_injective (String.ofList_inj.mp same)
  apply String.toByteArray_inj.mp
  exact ByteArray.ext (Array.toList_inj.mp codes)

theorem mem_quoteByte {byte : UInt8} {c : Char} (mem : c ∈ quoteByte byte) :
    c ∈ '%' :: unreserved := by
  have digits : ∀ n : Fin 16, hexDigit n ∈ unreserved := by decide
  have small := byte.toNat_lt
  unfold quoteByte at mem
  split at mem
  case isTrue plain =>
    rw [List.mem_singleton.mp mem]
    exact List.mem_cons_of_mem _ plain
  case isFalse =>
    simp only [List.mem_cons, List.not_mem_nil, or_false] at mem
    obtain rfl | rfl | rfl := mem
    · exact List.mem_cons_self
    · exact List.mem_cons_of_mem _ (digits ⟨byte.toNat / 16, by omega⟩)
    · exact List.mem_cons_of_mem _ (digits ⟨byte.toNat % 16, by omega⟩)

/-- What is neither `%` nor unreserved does not occur in a quoted string. -/
theorem not_mem_quote {s : String} {c : Char} (reserved : c ∉ '%' :: unreserved) :
    c ∉ (quote s).toList := by
  intro mem
  rw [quote, String.toList_ofList, List.mem_flatMap] at mem
  obtain ⟨byte, -, inCode⟩ := mem
  exact reserved (mem_quoteByte inCode)

example : quote "a b/é" = "a%20b%2F%C3%A9" := by decide +kernel

end Percent
